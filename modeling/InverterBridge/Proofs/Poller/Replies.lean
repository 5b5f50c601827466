import InverterBridge.Proofs.Poller.Questions

/-!
# Surveys in a fixed order

A survey may ask anything after any answer, but those of a poller read one quantity after the other.
`Follows` says that the replies of a run keep to a list of inquiries: each is made once
and in its turn, and the first answer that is no good is the last.  `Survey.Reads` says this of
every run of a survey, and of its value that it fits the replies.
-/

namespace InverterBridge

/-- A question that is asked in its turn, and the name of its quantity in errors. -/
structure Inquiry where
  quantity : String
  question : Question
  /-- Whether the device need not implement the quantity. -/
  optional : Bool
  deriving DecidableEq, Repr

/-- A question and what the gateway has answered. -/
structure Reply where
  question : Question
  answer : GatewayResult question.Answer

/-- An answer with which a survey goes on. -/
def Inquiry.Passes (inquiry : Inquiry) (answer : GatewayResult inquiry.question.Answer) : Prop :=
  match answer with
  | .ok _ => True
  | .error error => inquiry.optional = true ∧ ∃ point, error.cause = .notImplemented point

/-- The replies to inquiries in their order, up to the last one or the first that fails. -/
inductive Follows : List Inquiry → List Reply → Option UpdateError → Prop
  | nil : Follows [] [] none
  | pass (inquiry : Inquiry) {order : List Inquiry} {replies : List Reply}
      {failure : Option UpdateError} {answer : GatewayResult inquiry.question.Answer}
      (passes : inquiry.Passes answer) (rest : Follows order replies failure) :
      Follows (inquiry :: order) (⟨inquiry.question, answer⟩ :: replies) failure
  | stop (inquiry : Inquiry) {order : List Inquiry} {error : GatewayError}
      (fails : ¬ inquiry.Passes (.error error)) :
      Follows (inquiry :: order) [⟨inquiry.question, .error error⟩]
        (some (.gateway inquiry.quantity error))

namespace Follows

variable {order later : List Inquiry} {replies further : List Reply} {failure : Option UpdateError}

theorem append (first : Follows order replies none) (second : Follows later further failure) :
    Follows (order ++ later) (replies ++ further) failure := by
  generalize ended : (none : Option UpdateError) = outcome at first
  induction first with
  | nil => exact second
  | pass inquiry passes _ ih => exact .pass inquiry passes (ih ended)
  | stop _ _ => cases ended

/-- After a failure it does not matter what would have come. -/
theorem append_of_failure {error : UpdateError} (stopped : Follows order replies (some error))
    (later : List Inquiry) : Follows (order ++ later) replies (some error) := by
  generalize ended : some error = outcome at stopped ⊢
  induction stopped with
  | nil => cases ended
  | pass inquiry passes _ ih => exact .pass inquiry passes (ih ended)
  | stop inquiry fails => exact .stop inquiry fails

theorem questions_prefix (follows : Follows order replies failure) :
    replies.map Reply.question <+: order.map Inquiry.question := by
  induction follows with
  | nil => exact List.prefix_refl _
  | pass _ _ _ ih => exact (List.prefix_cons_inj _).mpr ih
  | stop _ _ => exact (List.prefix_cons_inj _).mpr (List.nil_prefix)

end Follows

namespace Survey

variable {α β γ : Type}

/-- The questions that are asked when a survey is run, with their answers. -/
def replies (gateway : Gateway γ) : Survey α → γ → List Reply
  | .done _, _ => []
  | .fail _, _ => []
  | .ask question next, state =>
      ⟨question, (gateway.ask question state).1⟩ ::
        (next (gateway.ask question state).1).replies gateway (gateway.ask question state).2

theorem map_question_replies (gateway : Gateway γ) (survey : Survey α) (state : γ) :
    (survey.replies gateway state).map Reply.question = survey.questions gateway state := by
  induction survey generalizing state with
  | done value => rfl
  | fail error => rfl
  | ask question next ih => exact congrArg _ (ih _ _)

theorem replies_bind (gateway : Gateway γ) (first : Survey α) (next : α → Survey β) (state : γ) :
    (first.bind next).replies gateway state =
      first.replies gateway state ++
        match first.run gateway state with
        | (.ok value, last) => (next value).replies gateway last
        | (.error _, _) => [] := by
  induction first generalizing state with
  | done value => rfl
  | fail error => rfl
  | ask question step ih => exact congrArg _ (ih _ _)

theorem bind_assoc {δ : Type} (first : Survey α) (next : α → Survey β) (last : β → Survey δ) :
    (first.bind next).bind last = first.bind fun value => (next value).bind last := by
  induction first with
  | done value => rfl
  | fail error => rfl
  | ask question step ih => exact congrArg (ask question) (funext ih)

/-- What came of a run keeps to an order: all inquiries of it with a value that fits the replies,
whatever other replies there are, or the first that fails with its error. -/
def Reports (order : List Inquiry) (fits : List Reply → α → Prop) (replies : List Reply) :
    Except UpdateError α → Prop
  | .ok value => Follows order replies none ∧ ∀ all, replies ⊆ all → fits all value
  | .error error => Follows order replies (some error)

/-- From every state a survey keeps to an order, and its value fits the replies. -/
def Reads (gateway : Gateway γ) (order : List Inquiry) (fits : List Reply → α → Prop)
    (survey : Survey α) : Prop :=
  ∀ state, Reports order fits (survey.replies gateway state) (survey.run gateway state).1

variable {gateway : Gateway γ} {order later : List Inquiry} {fits : List Reply → α → Prop}

theorem reads_done {value : α} (fitting : ∀ replies, fits replies value) :
    (done value).Reads gateway [] fits := by
  intro state
  exact ⟨.nil, fun replies _ => fitting replies⟩

theorem Reports.exists_follows {replies : List Reply} {result : Except UpdateError α}
    (reports : Reports order fits replies result) : ∃ failure, Follows order replies failure := by
  cases result with
  | ok value => exact ⟨none, reports.1⟩
  | error error => exact ⟨some error, reports⟩

theorem Reports.mono {replies : List Reply} {result : Except UpdateError α}
    {loose : List Reply → α → Prop} (reports : Reports order fits replies result)
    (looser : ∀ all value, fits all value → loose all value) :
    Reports order loose replies result := by
  cases result with
  | ok value => exact ⟨reports.1, fun all among => looser all value (reports.2 all among)⟩
  | error error => exact reports

theorem Reads.mono {survey : Survey α} {loose : List Reply → α → Prop}
    (reads : survey.Reads gateway order fits)
    (looser : ∀ all value, fits all value → loose all value) :
    survey.Reads gateway order loose :=
  fun state => (reads state).mono looser

/-- What came of a first part is followed by what comes of a second one. -/
theorem Reports.append {replies further : List Reply} {value : α} {result : Except UpdateError β}
    {suits : List Reply → β → Prop} (first : Reports order fits replies (.ok value))
    (second : Reports later suits further result) :
    Reports (order ++ later) (fun all result => fits all value ∧ suits all result)
      (replies ++ further) result := by
  obtain ⟨complete, fitting⟩ := first
  cases result with
  | ok found =>
      refine ⟨complete.append second.1, fun all among => ⟨?_, ?_⟩⟩
      · exact fitting all fun reply mem => among (List.mem_append_left _ mem)
      · exact second.2 all fun reply mem => among (List.mem_append_right _ mem)
  | error error => exact complete.append second

/-- A survey that goes on with a second one keeps to the order of the first and then to that of the
second, which may depend on the value of the first. -/
theorem reports_bind {first : Survey α} {next : α → Survey β} {order₂ : α → List Inquiry}
    {suits : α → List Reply → β → Prop} (before : first.Reads gateway order fits)
    (after : ∀ value, (next value).Reads gateway (order₂ value) (suits value)) (state : γ) :
    (∃ value, Reports (order ++ order₂ value)
        (fun all result => fits all value ∧ suits value all result)
        ((first.bind next).replies gateway state) ((first.bind next).run gateway state).1 ∧
      Reports order fits (first.replies gateway state) (.ok value)) ∨
    ∃ error, ((first.bind next).run gateway state).1 = .error error ∧
      Follows order ((first.bind next).replies gateway state) (some error) := by
  have reported := before state
  rw [run_bind, replies_bind]
  cases ran : first.run gateway state with
  | mk outcome last =>
      rw [ran] at reported
      cases outcome with
      | ok value => exact .inl ⟨value, reported.append (after value last), reported⟩
      | error error =>
          rw [List.append_nil]
          exact .inr ⟨error, rfl, reported⟩

theorem Reads.bind {first : Survey α} {next : α → Survey β} {suits : α → List Reply → β → Prop}
    (before : first.Reads gateway order fits)
    (after : ∀ value, (next value).Reads gateway later (suits value)) :
    (first.bind next).Reads gateway (order ++ later) fun all result =>
      ∃ value, fits all value ∧ suits value all result := by
  intro state
  rcases reports_bind before after state with ⟨value, reported, -⟩ | ⟨error, failed, stopped⟩
  · exact reported.mono fun all result fitting => ⟨value, fitting⟩
  · rw [failed]
    exact stopped.append_of_failure later

/-- The value of a survey may be put into a form without further questions. -/
theorem Reads.bind_done {survey : Survey α} (reads : survey.Reads gateway order fits)
    (finish : α → β) :
    (survey.bind fun value => .done (finish value)).Reads gateway order fun all result =>
      ∃ value, fits all value ∧ result = finish value := by
  rw [← List.append_nil order]
  exact reads.bind fun value => reads_done fun _ => rfl

/-- A survey of a list keeps to the orders of its entries, one after the other. -/
theorem reads_each {survey : α → Survey β} {orders : α → List Inquiry}
    {fitsEntry : α → List Reply → β → Prop}
    (each : ∀ entry, (survey entry).Reads gateway (orders entry) (fitsEntry entry))
    (entries : List α) :
    (Survey.each survey entries).Reads gateway (entries.flatMap orders) fun all values =>
      List.Forall₂ (fun entry value => fitsEntry entry all value) entries values := by
  induction entries with
  | nil => exact reads_done fun _ => .nil
  | cons entry entries ih =>
      rw [List.flatMap_cons]
      apply ((each entry).bind fun value => ih.bind_done (value :: ·)).mono
      rintro all _ ⟨value, first, values, rest, rfl⟩
      exact .cons first rest

/-! ## Single inquiries -/

theorem reads_read (quantity : String) (question : Question) :
    (read quantity question).Reads gateway [⟨quantity, question, false⟩]
      fun all value => ⟨question, .ok value⟩ ∈ all := by
  intro state
  rw [read, run_ask, replies]
  cases answer : (gateway.ask question state).1 with
  | ok value =>
      exact ⟨.pass ⟨quantity, question, false⟩ trivial .nil,
        fun all among => among List.mem_cons_self⟩
  | error error =>
      exact .stop ⟨quantity, question, false⟩ fun passes => Bool.noConfusion passes.1

/-- A missing answer that is excused is taken for no value. -/
theorem reads_readOptional (quantity : String) (question : Question) :
    (readOptional quantity question).Reads gateway [⟨quantity, question, true⟩]
      fun all value => ∃ answer, ⟨question, answer⟩ ∈ all ∧ Optional answer value := by
  intro state
  rw [readOptional, run_ask, replies]
  cases answer : (gateway.ask question state).1 with
  | ok value =>
      exact ⟨.pass ⟨quantity, question, true⟩ trivial .nil,
        fun all among => ⟨.ok value, among List.mem_cons_self, rfl⟩⟩
  | error error =>
      obtain ⟨severity, cause⟩ := error
      by_cases missing : ∃ point, cause = .notImplemented point
      · obtain ⟨point, rfl⟩ := missing
        exact ⟨.pass ⟨quantity, question, true⟩ ⟨rfl, point, rfl⟩ .nil,
          fun all among => ⟨_, among List.mem_cons_self, severity, point, rfl⟩⟩
      · have stopped : Follows [⟨quantity, question, true⟩]
            [⟨question, .error ⟨severity, cause⟩⟩] (some (.gateway quantity ⟨severity, cause⟩)) :=
          .stop ⟨quantity, question, true⟩ fun passes => missing passes.2
        cases cause <;> first | exact stopped | exact absurd ⟨_, rfl⟩ missing

end Survey

end InverterBridge
