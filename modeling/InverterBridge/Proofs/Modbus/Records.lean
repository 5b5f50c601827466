import InverterBridge.Proofs.Modbus.Chain

/-!
# What has been read since a check

`ModbusGateway.recordAll` follows a gateway through a history, with a log of the
exchanges since the last check that succeeded.  The log changes nothing else
(`ModbusGateway.forget_recordAll`), and `ModbusGateway.InputsRecorded` is the
invariant that it carries: an input block in the cache has been read from the
input model of the device, and since that check.
-/

namespace InverterBridge

variable {δ α β : Type}

/-! ## Runs of registers in a log -/

/-- Exchanges in which requests in a row are answered in full, and the registers
that come back. -/
inductive Reads : List ReadRequest → List UInt16 → List Exchange → Prop
  | nil : Reads [] [] []
  | cons {request : ReadRequest} {requests : List ReadRequest} {values registers : List UInt16}
      {exchanges : List Exchange} (whole : values.length = request.count)
      (rest : Reads requests registers exchanges) :
      Reads (request :: requests) (values ++ registers)
        (⟨request, .registers values⟩ :: exchanges)

/-- The registers of a model have been read, piece by piece and without anything in
between. -/
def HasRead (log : List Exchange) (header : ModelHeader) (registers : List UInt16) : Prop :=
  ∃ exchanges, exchanges <:+: log ∧
    Reads (ReadRequest.pieces header.address.toNat header.length.toNat) registers exchanges

theorem HasRead.mono {log later : List Exchange} {header : ModelHeader} {registers : List UInt16}
    (read : HasRead log header registers) (grown : log <+: later) :
    HasRead later header registers := by
  rcases read with ⟨exchanges, inside, reads⟩
  exact ⟨exchanges, inside.trans grown.isInfix, reads⟩

/-- However a reading ends, its exchanges are at the end of the log; if it succeeds,
they have brought the registers. -/
theorem exists_log_readPieces (wire : Wire δ) (unit : UInt8) (timeout : Duration) (start : Nat)
    (requests : List ReadRequest) (logged : LoggedLine δ) :
    ∃ news,
      (readPieces (wire.logged.send unit) timeout start requests logged).2.log =
        logged.log ++ news ∧
      ∀ registers,
        (readPieces (wire.logged.send unit) timeout start requests logged).1 = .ok registers →
          Reads requests registers news := by
  induction requests generalizing logged with
  | nil =>
      refine ⟨[], by simp, ?_⟩
      rintro registers ⟨⟩
      exact .nil
  | cons request requests ih =>
      unfold readPieces
      split
      next inside =>
        let sent := wire.logged.send unit request logged
        have first : sent.2.log = logged.log ++ [⟨request, sent.1⟩] := rfl
        cases accepted : request.accept timeout sent.1 with
        | error error =>
            refine ⟨[⟨request, sent.1⟩], ?_, ?_⟩ <;> simp only [sent, accepted]
            · exact first
            · intro registers done
              contradiction
        | ok values =>
            rcases ih sent.2 with ⟨news, grown, reads⟩
            refine ⟨⟨request, sent.1⟩ :: news, ?_, ?_⟩ <;> simp only [sent, accepted]
            · rw [grown, first, List.append_assoc]
              rfl
            · intro registers done
              cases rest : (readPieces (wire.logged.send unit) timeout start requests sent.2).1 with
              | error error => simp [sent, rest, Except.map] at done
              | ok later =>
                  simp only [sent, rest, Except.map, Except.ok.injEq] at done
                  subst done
                  have replied : sent.1 = .registers values :=
                    ReadRequest.eq_registers_of_accept accepted
                  rw [replied]
                  exact .cons (ReadRequest.length_of_accept accepted) (reads later rest)
      next =>
        refine ⟨[], by simp, ?_⟩
        intro registers done
        contradiction

namespace ModbusGateway

/-! ## Without the log -/

/-- What is known without a request has no exchanges to forget. -/
theorem andThen_known {α β : Type} {known : GatewayResult α}
    {gateway : ModbusGateway (LoggedLine δ)}
    {next : α → ModbusGateway (LoggedLine δ) → GatewayResult β × ModbusGateway (LoggedLine δ)}
    {nextShown : α → ModbusGateway δ → GatewayResult β × ModbusGateway δ}
    (shows : ∀ value gateway, nextShown value gateway.forget = shown (next value gateway)) :
    andThen (known, gateway.forget) nextShown = shown (andThen (known, gateway) next) := by
  cases known with
  | error error => rfl
  | ok value => exact shows value gateway

section Forgetting

variable (wire : Wire δ) (gateway : ModbusGateway (LoggedLine δ)) (models : ModelMap)

theorem readModel_forget (header : ModelHeader) :
    gateway.forget.readModel wire header = shown (gateway.readModel wire.logged header) :=
  read_forget wire gateway _ _

theorem fetchCommon_forget :
    gateway.forget.fetchCommon wire models = shown (gateway.fetchCommon wire.logged models) := by
  apply andThen_known
  intro header gateway
  rw [readModel_forget]
  apply andThen_shown
  intro registers gateway
  exact andThen_known fun common gateway => rfl

theorem fetchInverter_forget :
    gateway.forget.fetchInverter wire models =
      shown (gateway.fetchInverter wire.logged models) := by
  apply andThen_known
  intro header gateway
  rw [readModel_forget]
  apply andThen_shown
  intro registers gateway
  exact andThen_known fun block gateway => rfl

theorem fetchInputs_forget :
    gateway.forget.fetchInputs wire models = shown (gateway.fetchInputs wire.logged models) := by
  unfold fetchInputs
  split
  · rfl
  next header present =>
    rw [readModel_forget]
    apply andThen_shown
    intro registers gateway
    exact andThen_known fun block gateway => rfl

/-- Every question comes to the same without the log. -/
theorem ask_forget (question : Question) :
    gateway.forget.ask wire question = shown (gateway.ask wire.logged question) := by
  cases question with
  | validate => exact validate_forget wire gateway
  | fetchDeviceInfo =>
      apply andThen_known
      intro models gateway
      rw [fetchCommon_forget]
      exact andThen_shown fun _ gateway => fetchInputs_forget wire gateway models
  | fetchRegisters =>
      apply andThen_known
      intro models gateway
      rw [fetchInverter_forget]
      exact andThen_shown fun _ gateway => fetchInputs_forget wire gateway models
  | fetchEventRegisters =>
      exact andThen_known fun models gateway => fetchInverter_forget wire gateway models
  | _ => rfl

/-- However a reading ends, its exchanges are at the end of the log; if it succeeds,
they have brought the registers. -/
theorem exists_log_of_readModel (header : ModelHeader) :
    ∃ news, (gateway.readModel wire.logged header).2.line.log = gateway.line.log ++ news ∧
      ∀ registers, (gateway.readModel wire.logged header).1 = .ok registers →
        Reads (ReadRequest.pieces header.address.toNat header.length.toNat) registers news := by
  unfold readModel read
  split
  · exact ⟨[], by simp, nofun⟩
  · split
    · exact exists_log_readPieces wire _ _ _ _ _
    · exact ⟨[], by simp, nofun⟩

end Forgetting

/-! ## Histories with a log -/

/-- The act beside a log, which no act of the other side changes. -/
def Act.beside (log : List Exchange) : Act δ → Act (LoggedLine δ)
  | .ask question => .ask question
  | .connect => .connect
  | .reconnect => .reconnect
  | .shutdown => .shutdown
  | .supervise now => .supervise now
  | .surround line => .surround ⟨line, log⟩

/-- Whether an act is a check that succeeds. -/
def passes (wire : Wire δ) (gateway : ModbusGateway δ) : Act δ → Bool
  | .ask .validate => (gateway.validate wire).1.isOk
  | _ => false

theorem passes_validate_eq_true_iff {wire : Wire δ} {gateway : ModbusGateway δ} :
    gateway.passes wire (.ask .validate) = true ↔ (gateway.validate wire).1 = .ok () := by
  simp only [passes]
  cases (gateway.validate wire).1 <;> simp [Except.isOk, Except.toBool]

theorem passes_of_ne (wire : Wire δ) (gateway : ModbusGateway δ) {question : Question}
    (other : question ≠ .validate) : gateway.passes wire (.ask question) = false := by
  cases question <;> first | rfl | contradiction

/-- Apply an act.  The log begins anew with every check that succeeds. -/
def record (wire : Wire δ) (gateway : ModbusGateway (LoggedLine δ)) (act : Act δ) :
    ModbusGateway (LoggedLine δ) :=
  let after := gateway.apply wire.logged (act.beside gateway.line.log)
  if gateway.forget.passes wire act then after.forget.logged else after

/-- Apply acts in order. -/
def recordAll (wire : Wire δ) (gateway : ModbusGateway (LoggedLine δ)) (acts : List (Act δ)) :
    ModbusGateway (LoggedLine δ) :=
  acts.foldl (record wire) gateway

theorem supervise_forget (wire : Wire δ) (now : Nat) (gateway : ModbusGateway (LoggedLine δ)) :
    gateway.forget.supervise wire now =
      (gateway.supervise wire.logged now).map fun (events, after) => (events, after.forget) := by
  unfold supervise
  by_cases opening : gateway.supervisor.phase = .opening
  · simp [forget, opening, Wire.logged]
  · simp only [forget, opening, if_false, Option.map_map]
    rfl

theorem apply_forget (wire : Wire δ) (gateway : ModbusGateway (LoggedLine δ)) (act : Act δ) :
    (gateway.apply wire.logged (act.beside gateway.line.log)).forget =
      gateway.forget.apply wire act := by
  cases act with
  | ask question => exact congrArg Prod.snd (ask_forget wire gateway question).symm
  | supervise now =>
      simp only [apply, Act.beside, supervise_forget]
      cases gateway.supervise wire.logged now <;> rfl
  | _ => rfl

theorem forget_record (wire : Wire δ) (gateway : ModbusGateway (LoggedLine δ)) (act : Act δ) :
    (gateway.record wire act).forget = gateway.forget.apply wire act := by
  rw [← apply_forget]
  unfold record
  simp only
  split <;> rfl

/-- A history comes to the same without the log. -/
theorem forget_recordAll (wire : Wire δ) (gateway : ModbusGateway (LoggedLine δ))
    (acts : List (Act δ)) :
    (gateway.recordAll wire acts).forget = gateway.forget.applyAll wire acts := by
  induction acts generalizing gateway with
  | nil => rfl
  | cons first acts ih =>
      change ((gateway.record wire first).recordAll wire acts).forget = _
      rw [ih, forget_record]
      rfl

/-! ## The input block in the cache -/

/-- An input block in the cache has been read from the input model of the device. -/
def InputsRecorded (gateway : ModbusGateway (LoggedLine δ)) : Prop :=
  ∀ block, gateway.cache.inputs = some block →
    ∃ models header, gateway.models = some models ∧ models.inputModel? = some header ∧
      HasRead gateway.line.log header block.registers

theorem inputsRecorded_initial (device : DeviceConfig) (line : δ) :
    InputsRecorded (initial device line).logged := by
  intro block cached
  contradiction

namespace InputsRecorded

variable {wire : Wire δ} {gateway before after : ModbusGateway (LoggedLine δ)}
  {models : ModelMap}

theorem congr (recorded : InputsRecorded before)
    (inputs_eq : after.cache.inputs = before.cache.inputs)
    (models_eq : after.models = before.models)
    (grown : before.line.log <+: after.line.log) : InputsRecorded after := by
  intro block cached
  rcases recorded block (inputs_eq ▸ cached) with ⟨models, header, known, present, read⟩
  exact ⟨models, header, models_eq.trans known, present, read.mono grown⟩

theorem readModel (recorded : InputsRecorded gateway) (header : ModelHeader) :
    InputsRecorded (gateway.readModel wire.logged header).2 := by
  have untouched := untouched_read wire.logged header.address.toNat header.length.toNat gateway
  rcases exists_log_of_readModel wire gateway header with ⟨news, grown, -⟩
  exact recorded.congr (congrArg RegisterCache.inputs untouched.cache_eq) untouched.models_eq
    ⟨news, grown.symm⟩

theorem fetchCommon (recorded : InputsRecorded gateway) :
    InputsRecorded (gateway.fetchCommon wire.logged models).2 :=
  fetchCommon_preserves models recorded recorded.readModel fun _ _ recorded =>
    recorded.congr rfl rfl (List.prefix_refl _)

theorem fetchInverter (recorded : InputsRecorded gateway) :
    InputsRecorded (gateway.fetchInverter wire.logged models).2 :=
  fetchInverter_preserves models recorded recorded.readModel fun _ _ recorded =>
    recorded.congr rfl rfl (List.prefix_refl _)

theorem fetchInputs (recorded : InputsRecorded gateway) (known : gateway.models = some models) :
    InputsRecorded (gateway.fetchInputs wire.logged models).2 := by
  unfold ModbusGateway.fetchInputs
  split
  next absent =>
    intro block cached
    contradiction
  next header present =>
    have kept := kept_read wire.logged header.address.toNat header.length.toNat gateway
    rcases exists_log_of_readModel wire gateway header with ⟨news, grown, reads⟩
    refine andThen_preserves (recorded.readModel header) ?_
    intro registers read
    refine andThen_preserves (recorded.readModel header) ?_
    intro block taken other cached
    have same : block.registers = registers := by
      unfold InputBlock.ofRegisters at taken
      split at taken <;> cases taken
      rfl
    cases cached
    refine ⟨models, header, kept.models_eq.trans known, present, news, ?_,
      same ▸ reads registers read⟩
    exact ⟨gateway.line.log, [], by simpa using grown.symm⟩

theorem ask (recorded : InputsRecorded gateway) {question : Question}
    (other : question ≠ .validate) : InputsRecorded (gateway.ask wire.logged question).2 := by
  apply ask_preserves other recorded
  · exact fun models => recorded.fetchCommon
  · exact fun models => recorded.fetchInverter
  · exact fun models fetched _ known recorded => recorded.fetchInputs known

/-- A check that succeeds empties the cache with the log; one that fails leaves it alone. -/
theorem recordCheck (recorded : InputsRecorded gateway) (wire : Wire δ) :
    InputsRecorded (gateway.record wire (.ask .validate)) := by
  unfold ModbusGateway.record
  simp only [passes_validate_eq_true_iff, validate_forget, shown]
  rcases validate_cases wire.logged gateway with
    ⟨error, failed, untouched⟩ | ⟨done, kept, models, -, -, after⟩
  · rw [if_neg (by simp [failed])]
    rcases exists_log_validate wire gateway with ⟨marker, headers, grown, -⟩
    exact recorded.congr (congrArg RegisterCache.inputs untouched.cache_eq) untouched.models_eq
      ⟨_, grown.symm⟩
  · rw [if_pos done]
    intro block cached
    change (gateway.validate wire.logged).2.cache.inputs = some block at cached
    rw [after] at cached
    contradiction

/-- Every act preserves the invariant. -/
theorem record (recorded : InputsRecorded gateway) (wire : Wire δ) (act : Act δ) :
    InputsRecorded (gateway.record wire act) := by
  cases act with
  | ask question =>
      by_cases check : question = .validate
      · exact check ▸ recorded.recordCheck wire
      · unfold ModbusGateway.record
        rw [passes_of_ne wire _ check]
        exact recorded.ask check
  | supervise now =>
      rcases exists_apply_supervise wire.logged now gateway with ⟨supervisor, line, moved, opened⟩
      have same : line.log = gateway.line.log := by
        rcases opened with rfl | rfl <;> rfl
      change InputsRecorded (gateway.apply wire.logged (.supervise now))
      rw [moved]
      exact recorded.congr rfl rfl (same ▸ List.prefix_refl _)
  | _ => exact recorded.congr rfl rfl (List.prefix_refl _)

theorem recordAll (recorded : InputsRecorded gateway) (wire : Wire δ) (acts : List (Act δ)) :
    InputsRecorded (gateway.recordAll wire acts) := by
  induction acts generalizing gateway with
  | nil => exact recorded
  | cons first acts ih => exact ih (recorded.record wire first)

end InputsRecorded

end ModbusGateway

end InverterBridge
