import InverterBridge.Channel
import InverterBridge.Gateway.Question

/-!
# Surveys

A survey is a plan of questions to a gateway in which every question may depend
on the answers so far.  It ends with a value or with the first failure, and
after a failure nothing more is asked.
-/

namespace InverterBridge

/-- Why a channel is not updated. -/
inductive UpdateError where
  /-- A question about a quantity has failed. -/
  | gateway (quantity : String) (error : GatewayError)
  /-- The document of a channel cannot be written, in the words of its writer.  No document of
  a poller fails so. -/
  | serialize (channel : Channel) (cause : String)
  deriving DecidableEq, Repr

namespace UpdateError

/-- The error of the gateway, if the failure is on the side of the device. -/
def gatewayError? : UpdateError → Option GatewayError
  | .gateway _ error => some error
  | .serialize _ _ => none

/-- How to recover from a failed update. -/
def severity : UpdateError → Severity
  | .gateway _ error => error.severity
  | .serialize _ _ => .transient

/-- The failure in words. -/
def message : UpdateError → String
  | .gateway quantity error => "failed to read " ++ quantity ++ ": " ++ error.message
  | .serialize channel cause =>
      "failed to serialize " ++ channel.name ++ " document: Document encoding: " ++ cause

end UpdateError

/-- A plan of questions that ends with a value of type `α`. -/
inductive Survey (α : Type) where
  | done (value : α)
  | fail (error : UpdateError)
  | ask (question : Question) (next : GatewayResult question.Answer → Survey α)

namespace Survey

variable {α β γ : Type}

/-- Go on with the value of a survey. -/
def bind : Survey α → (α → Survey β) → Survey β
  | .done value, next => next value
  | .fail error, _ => .fail error
  | .ask question first, next => .ask question fun answer => (first answer).bind next

instance : Monad Survey where
  pure := done
  bind := bind

/-- Ask a question about a quantity; a failure ends the survey. -/
def read (quantity : String) (question : Question) : Survey question.Answer :=
  .ask question fun answer =>
    match answer with
    | .ok value => .done value
    | .error error => .fail (.gateway quantity error)

/-- Ask a question about a quantity that the device may not implement. -/
def readOptional (quantity : String) (question : Question) : Survey (Option question.Answer) :=
  .ask question fun answer =>
    match answer with
    | .ok value => .done (some value)
    | .error error =>
        match error.cause with
        | .notImplemented _ => .done none
        | _ => .fail (.gateway quantity error)

/-- The same survey for every entry of a list, in order. -/
def each (survey : α → Survey β) : List α → Survey (List β)
  | [] => .done []
  | entry :: entries =>
      (survey entry).bind fun value => (each survey entries).bind fun values =>
        .done (value :: values)

/-- Ask the questions of a survey. -/
def run (gateway : Gateway γ) : Survey α → γ → Except UpdateError α × γ
  | .done value, state => (.ok value, state)
  | .fail error, state => (.error error, state)
  | .ask question next, state =>
      let (answer, state) := gateway.ask question state
      (next answer).run gateway state

@[simp]
theorem run_done (gateway : Gateway γ) (value : α) (state : γ) :
    (done value).run gateway state = (.ok value, state) :=
  rfl

@[simp]
theorem run_fail (gateway : Gateway γ) (error : UpdateError) (state : γ) :
    (fail error : Survey α).run gateway state = (.error error, state) :=
  rfl

@[simp]
theorem run_ask (gateway : Gateway γ) (question : Question)
    (next : GatewayResult question.Answer → Survey α) (state : γ) :
    (ask question next).run gateway state =
      (next (gateway.ask question state).1).run gateway (gateway.ask question state).2 :=
  rfl

/-- Running a survey and then the next one is running the two in a row. -/
theorem run_bind (gateway : Gateway γ) (first : Survey α) (next : α → Survey β) (state : γ) :
    (first.bind next).run gateway state =
      match first.run gateway state with
      | (.ok value, state) => (next value).run gateway state
      | (.error error, state) => (.error error, state) := by
  induction first generalizing state with
  | done value => rfl
  | fail error => rfl
  | ask question first step => exact step _ _

end Survey

end InverterBridge
