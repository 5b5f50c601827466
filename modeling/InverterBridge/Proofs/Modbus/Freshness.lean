import InverterBridge.Proofs.Modbus.Blocks
import InverterBridge.Proofs.Modbus.Records
import InverterBridge.Proofs.Modbus.Serving
import InverterBridge.Proofs.Modbus.Supervised
import InverterBridge.Proofs.Poller.Provenance

/-!
# Snapshots are fresh

The cache of a gateway outlives ticks, failed fetches and links, so what it holds may be of
any age.  A fetch that succeeds has read every block again from which the following
getters answer (`ModbusGateway.exists_blocks_of_fetchRegisters`), and nothing comes between
a fetch and its getters.  Hence every snapshot that is committed has been read by the fetch
of its own tick, whatever has failed before.
-/

namespace InverterBridge

/-! ## Blocks that have been read -/

/-- An inverter block has been read from the inverter model, with these exchanges. -/
def ModelMap.InverterReadIn (models : ModelMap) (block : InverterBlock)
    (exchanges : List Exchange) : Prop :=
  ∃ header, models.inverter = .ok header ∧ block.model = header.id ∧
    Reads (ReadRequest.pieces header.address.toNat header.length.toNat) block.registers exchanges

/-- The inputs have been read from the input model, with these exchanges, or there is no such
model. -/
inductive ModelMap.InputsReadIn (models : ModelMap) : Option InputBlock → List Exchange → Prop
  | absent (missing : models.inputModel? = none) : InputsReadIn models none []
  | present {header : ModelHeader} {block : InputBlock} {exchanges : List Exchange}
      (found : models.inputModel? = some header)
      (reads : Reads (ReadRequest.pieces header.address.toNat header.length.toNat)
        block.registers exchanges) : InputsReadIn models (some block) exchanges

theorem ModelMap.InputsReadIn.eq_none_iff {models : ModelMap} {inputs : Option InputBlock}
    {exchanges : List Exchange} (reads : models.InputsReadIn inputs exchanges) :
    inputs = none ↔ models.inputModel? = none := by
  cases reads with
  | absent missing => simp [missing]
  | present found reads => simp [found]

/-- The blocks have been read from the models, one after the other and with nothing else. -/
def FetchedBlocks.ReadIn (blocks : FetchedBlocks) (exchanges : List Exchange) : Prop :=
  ∃ first second, exchanges = first ++ second ∧
    blocks.models.InverterReadIn blocks.inverter first ∧
      blocks.models.InputsReadIn blocks.inputs second

theorem InverterBlock.of_ofRegisters {model : UInt16} {registers : List UInt16}
    {block : InverterBlock} (taken : ofRegisters model registers = .ok block) :
    block.model = model ∧ block.registers = registers := by
  unfold ofRegisters at taken
  split at taken
  · contradiction
  · split at taken <;> cases taken
    exact ⟨rfl, rfl⟩

theorem InputBlock.of_ofRegisters {registers : List UInt16} {block : InputBlock}
    (taken : ofRegisters registers = .ok block) : block.registers = registers := by
  unfold ofRegisters at taken
  split at taken <;> cases taken
  rfl

namespace ModbusGateway

variable {δ : Type} {wire : Wire δ} {models : ModelMap}

/-- The exchanges with which a question is answered. -/
def exchanges (wire : Wire δ) (question : Question) (gateway : ModbusGateway δ) :
    List Exchange :=
  (gateway.logged.ask wire.logged question).2.line.log

section Fetching

variable {gateway : ModbusGateway (LoggedLine δ)}

theorem chain_ok (found : gateway.chain = .ok models) :
    gateway.supervisor.shuttingDown = false ∧ gateway.models = some models := by
  refine ⟨?_, models_of_chain found⟩
  cases closing : gateway.supervisor.shuttingDown with
  | false => rfl
  | true => simp [chain, checkRunning, closing, Except.bind] at found

/-- An inverter that has been fetched has been read. -/
theorem exists_read_of_fetchInverter (found : gateway.chain = .ok models)
    (done : (gateway.fetchInverter wire.logged models).1 = .ok ()) :
    ∃ inverter news, (gateway.fetchInverter wire.logged models).2.Fetched models inverter ∧
      (gateway.fetchInverter wire.logged models).2.line.log = gateway.line.log ++ news ∧
      models.InverterReadIn inverter news := by
  rcases chain_ok found with ⟨running, known⟩
  unfold fetchInverter at done ⊢
  rcases exists_of_andThen_ok done with ⟨header, present, done⟩
  rw [andThen_of_ok present]
  rcases exists_of_andThen_ok done with ⟨registers, read, done⟩
  rw [andThen_of_ok read]
  rcases exists_of_andThen_ok done with ⟨block, taken, -⟩
  rw [andThen_of_ok taken]
  have kept := kept_read wire.logged header.address.toNat header.length.toNat gateway
  rcases exists_log_of_readModel wire gateway header with ⟨news, grown, reads⟩
  rcases InverterBlock.of_ofRegisters taken with ⟨model_eq, registers_eq⟩
  refine ⟨block, news, ?_, grown, header, present, model_eq, registers_eq ▸ reads _ read⟩
  exact {
    running := (congrArg Supervisor.shuttingDown kept.supervisor_eq).trans running
    known := kept.models_eq.trans known
    cached := rfl
    model_eq := by
      have found : models.inverter = .ok header := present
      rw [found, model_eq]
      rfl }

/-- Inputs that have been fetched have been read. -/
theorem exists_read_of_fetchInputs
    (done : (gateway.fetchInputs wire.logged models).1 = .ok ()) :
    ∃ news, (gateway.fetchInputs wire.logged models).2.line.log = gateway.line.log ++ news ∧
      models.InputsReadIn (gateway.fetchInputs wire.logged models).2.cache.inputs news := by
  unfold fetchInputs at done ⊢
  split at done
  next missing => exact ⟨[], (List.append_nil _).symm, .absent missing⟩
  next header present =>
    rcases exists_of_andThen_ok done with ⟨registers, read, done⟩
    rcases exists_of_andThen_ok done with ⟨block, taken, -⟩
    simp only [andThen_of_ok read]
    rw [andThen_of_ok taken]
    rcases exists_log_of_readModel wire gateway header with ⟨news, grown, reads⟩
    have registers_eq := InputBlock.of_ofRegisters taken
    exact ⟨news, grown, .present present (registers_eq ▸ reads _ read)⟩

end Fetching

/-- With the inputs of the cache an inverter that has been fetched makes up blocks. -/
theorem holds_of_fetched {gateway : ModbusGateway δ} {inverter : InverterBlock}
    {news : List Exchange} (fetched : gateway.Fetched models inverter)
    (reads : models.InputsReadIn gateway.cache.inputs news) :
    gateway.Holds ⟨models, inverter, gateway.cache.inputs⟩ where
  toFetched := fetched
  inputs_eq := rfl
  inputs_none := reads.eq_none_iff

theorem Fetched.forget {gateway : ModbusGateway (LoggedLine δ)} {inverter : InverterBlock}
    (fetched : gateway.Fetched models inverter) : gateway.forget.Fetched models inverter :=
  ⟨fetched.running, fetched.known, fetched.cached, fetched.model_eq⟩

theorem Holds.forget {gateway : ModbusGateway (LoggedLine δ)} {blocks : FetchedBlocks}
    (holds : gateway.Holds blocks) : gateway.forget.Holds blocks :=
  ⟨holds.toFetched.forget, holds.inputs_eq, holds.inputs_none⟩

/-! ## Fetches that succeed -/

/-- A fetch of the measurements that succeeds has read the blocks that the gateway holds
after it, in the exchanges of this fetch and from the models that it has found. -/
theorem exists_blocks_of_fetchRegisters {gateway : ModbusGateway δ}
    (done : (gateway.ask wire .fetchRegisters).1 = .ok ()) :
    ∃ blocks, gateway.models = some blocks.models ∧
      (gateway.ask wire .fetchRegisters).2.Holds blocks ∧
        blocks.ReadIn (gateway.exchanges wire .fetchRegisters) := by
  have shows : gateway.ask wire .fetchRegisters =
      shown (gateway.logged.ask wire.logged .fetchRegisters) :=
    ask_forget wire gateway.logged .fetchRegisters
  unfold exchanges
  rw [shows] at done ⊢
  simp only [ask, fetchRegisters, shown] at done ⊢
  rcases exists_of_andThen_ok done with ⟨models, found, done⟩
  rw [andThen_of_ok found]
  rcases exists_of_andThen_ok done with ⟨⟨⟩, fetched, done⟩
  rw [andThen_of_ok fetched]
  rcases exists_read_of_fetchInverter found fetched with ⟨inverter, first, holds, log, read⟩
  rcases exists_read_of_fetchInputs done with ⟨second, grown, reads⟩
  refine ⟨⟨models, inverter, _⟩, (chain_ok found).2,
    (holds_of_fetched (holds.fetchInputs wire.logged) reads).forget, first, second, ?_, read, reads⟩
  rw [grown, log]
  rfl

/-- A fetch of the events that succeeds has read the inverter that the gateway holds after
it. -/
theorem exists_inverter_of_fetchEventRegisters {gateway : ModbusGateway δ}
    (done : (gateway.ask wire .fetchEventRegisters).1 = .ok ()) :
    ∃ models inverter, gateway.models = some models ∧
      (gateway.ask wire .fetchEventRegisters).2.Fetched models inverter ∧
        models.InverterReadIn inverter (gateway.exchanges wire .fetchEventRegisters) := by
  have shows : gateway.ask wire .fetchEventRegisters =
      shown (gateway.logged.ask wire.logged .fetchEventRegisters) :=
    ask_forget wire gateway.logged .fetchEventRegisters
  unfold exchanges
  rw [shows] at done ⊢
  simp only [ask, fetchEventRegisters, shown] at done ⊢
  rcases exists_of_andThen_ok done with ⟨models, found, done⟩
  rw [andThen_of_ok found]
  rcases exists_read_of_fetchInverter found done with ⟨inverter, news, holds, log, read⟩
  rw [log]
  exact ⟨models, inverter, (chain_ok found).2, holds.forget, read⟩

end ModbusGateway

/-! ## Surveys -/

variable {δ : Type}

/-- A survey asked of the gateway in this state finds measurements of the blocks that its
own fetch reads, from the models of an accepted device. -/
def ValueSnapshot.FreshFrom (wire : Wire δ) (gateway : ModbusGateway δ) (time : Int)
    (snapshot : ValueSnapshot) : Prop :=
  ∃ blocks, gateway.models = some blocks.models ∧ blocks.models.Accepted ∧
    blocks.ReadIn (gateway.exchanges wire .fetchRegisters) ∧ snapshot.ReadFrom blocks time

/-- A survey asked of the gateway in this state finds the operating state and the events of
the inverter that its own fetch reads, from the models of an accepted device. -/
def EventSnapshot.FreshFrom (wire : Wire δ) (gateway : ModbusGateway δ)
    (snapshot : EventSnapshot) : Prop :=
  ∃ models inverter, gateway.models = some models ∧ models.Accepted ∧
    models.InverterReadIn inverter (gateway.exchanges wire .fetchEventRegisters) ∧
      snapshot.ReadFrom inverter

/-- A survey that begins with a question has been answered it. -/
theorem Survey.exists_run_next {α γ : Type} {gateway : Gateway γ} {state : γ} {quantity : String}
    {question : Question} {next : question.Answer → Survey α} {value : α}
    (ended : ((read quantity question >>= next).run gateway state).1 = .ok value) :
    ∃ answer, (gateway.ask question state).1 = .ok answer ∧
      ((next answer).run gateway (gateway.ask question state).2).1 = .ok value := by
  cases answer : (gateway.ask question state).1 with
  | ok found =>
      rw [run_read_bind answer] at ended
      exact ⟨found, rfl, ended⟩
  | error error =>
      change (Survey.run gateway ((read quantity question).bind next) state).1 = _ at ended
      rw [run_bind, read, run_ask, answer] at ended
      contradiction

namespace ModbusGateway

variable {wire : Wire δ} {gateway : ModbusGateway δ}

/-- A survey finds the measurements of the blocks that its own fetch reads. -/
theorem exists_blocks_of_survey {time : Int} {snapshot : ValueSnapshot}
    (found : ((ValueSnapshot.survey time).run (ModbusGateway.gateway wire) gateway).1 =
      .ok snapshot) :
    ∃ blocks, gateway.models = some blocks.models ∧
      blocks.ReadIn (gateway.exchanges wire .fetchRegisters) ∧ snapshot.ReadFrom blocks time := by
  rcases Survey.exists_run_next found with ⟨⟨⟩, fetched, -⟩
  rcases exists_blocks_of_fetchRegisters fetched with ⟨blocks, known, holds, read⟩
  rcases holds.yields_values time with ⟨next, begins, yields⟩
  rcases Survey.exists_run_next (begins ▸ found) with ⟨answer, -, rest⟩
  exact ⟨blocks, known, read, (yields answer _ _ (Prod.ext rest rfl)).2⟩

theorem Trusted.freshFrom_values (trusted : gateway.Trusted) {time : Int}
    {snapshot : ValueSnapshot}
    (found : ((ValueSnapshot.survey time).run (ModbusGateway.gateway wire) gateway).1 =
      .ok snapshot) : snapshot.FreshFrom wire gateway time := by
  rcases exists_blocks_of_survey found with ⟨blocks, known, read, readFrom⟩
  exact ⟨blocks, known, trusted _ known, read, readFrom⟩

theorem Trusted.freshFrom_events (trusted : gateway.Trusted) {snapshot : EventSnapshot}
    (found : (EventSnapshot.survey.run (ModbusGateway.gateway wire) gateway).1 = .ok snapshot) :
    snapshot.FreshFrom wire gateway := by
  rcases Survey.exists_run_next found with ⟨⟨⟩, fetched, -⟩
  rcases exists_inverter_of_fetchEventRegisters fetched with
    ⟨models, inverter, known, holds, read⟩
  rcases holds.yields_events with ⟨next, begins, yields⟩
  rcases Survey.exists_run_next (begins ▸ found) with ⟨answer, -, rest⟩
  exact ⟨models, inverter, known, trusted _ known, read, (yields answer _ _ (Prod.ext rest rfl)).2⟩

end ModbusGateway

theorem ModbusGateway.preserves_trusted (wire : Wire δ) :
    (ModbusGateway.gateway wire).Preserves Trusted where
  connect := fun _ trusted => trusted.apply wire .connect
  reconnect := fun _ trusted => trusted.apply wire .reconnect
  shutdown := fun _ trusted => trusted.apply wire .shutdown
  ask := fun question _ trusted => trusted.apply wire (.ask question)

/-! ## Runs -/

namespace LoggedRun

/-- Only a poll replaces a slot. -/
theorem slot_act_of_ne {α γ : Type} (polled : Polled α) (site : Site γ) (run : LoggedRun γ)
    {act : RunAct γ} (other : act ≠ .poll) :
    polled.slot (run.act site act).poller = polled.slot run.poller := by
  cases act with
  | poll => contradiction
  | _ => cases polled <;> rfl

end LoggedRun

namespace Supervised

/-- Whatever happens to a supervised poller is an act of its run. -/
theorem exists_act (site : Site (ModbusGateway δ)) (wire : Wire δ) (run : Supervised δ)
    (act : SupervisedAct δ) :
    ∃ other, run.act site wire act = LoggedRun.act site run other ∧
      (other = .poll → act = .poll) := by
  cases act with
  | poll => exact ⟨.poll, rfl, fun _ => rfl⟩
  | supervise =>
      simp only [Supervised.act]
      split
      · exact ⟨.advance 0, rfl, nofun⟩
      next events gateway supervised => exact ⟨.surround gateway events, rfl, nofun⟩
  | advance milliseconds => exact ⟨.advance milliseconds, rfl, nofun⟩
  | surround line => exact ⟨.surround _ [], rfl, nofun⟩
  | requestShutdown => exact ⟨.requestShutdown, rfl, nofun⟩
  | dropShutdown => exact ⟨.dropShutdown, rfl, nofun⟩

end Supervised

namespace Supervised

variable {site : Site (ModbusGateway δ)} {wire : Wire δ} {run : Supervised δ}
  {acts : List (SupervisedAct δ)}

/-- At first nothing has been committed. -/
theorem slot_start {α : Type} (polled : Polled α) (site : Site (ModbusGateway δ)) (interval : Nat)
    (name : String) (device : DeviceConfig) (line : δ) :
    polled.slot (start site interval name device line).poller = none := by
  refine (Poller.slot_start polled site.logged.gateway _ _).trans ?_
  cases polled <;> rfl

/-- A poller is in order, and the models behind it are those of an accepted device. -/
structure Steady (run : Supervised δ) : Prop where
  sound : LoggedRun.Sound run
  seeks : LoggedRun.Seeks run
  trusted : run.poller.gateway.state.Trusted

section

variable (wired : site.gateway = ModbusGateway.gateway wire)

include wired

theorem steady_start (interval : Nat) (name : String) (device : DeviceConfig) (line : δ) :
    Steady (start site interval name device line) where
  sound := LoggedRun.sound_start site interval (Poller.initial name (.initial device line))
  seeks := LoggedRun.seeks_start site interval (Poller.initial name (.initial device line))
  trusted := by
    have connected := (ModbusGateway.preserves_trusted wire).connect _
      (ModbusGateway.trusted_initial device line)
    rwa [← wired] at connected

theorem Steady.act (steady : Steady run) (act : SupervisedAct δ) :
    Steady (run.act site wire act) := by
  rcases exists_act site wire run act with ⟨other, same, -⟩
  refine ⟨same ▸ steady.sound.act site other, same ▸ steady.seeks.act site other, ?_⟩
  cases act with
  | poll =>
      rcases LoggedRun.act_poll site run with waits | move
      · rw [show run.act site wire .poll = run from waits]
        exact steady.trusted
      · exact steady.sound.preserves_move (wired ▸ ModbusGateway.preserves_trusted wire)
          steady.seeks move steady.trusted
  | supervise =>
      have moved := steady.trusted.apply wire (.supervise run.now)
      simp only [Supervised.act, ModbusGateway.apply] at moved ⊢
      cases supervised : run.poller.gateway.state.supervise wire run.now with
      | none => exact steady.trusted
      | some next =>
          rw [supervised] at moved
          exact moved
  | surround line => exact steady.trusted.congr rfl
  | _ => exact steady.trusted

theorem Steady.actAll (steady : Steady run) (acts : List (SupervisedAct δ)) :
    Steady (run.actAll site wire acts) := by
  induction acts generalizing run with
  | nil => exact steady
  | cons first acts ih => exact ih (steady.act wired first)

end

/-- Some poll in a history leads from one state of the run to another. -/
def InSomePoll (site : Site (ModbusGateway δ)) (wire : Wire δ) (run : Supervised δ)
    (acts : List (SupervisedAct δ)) (leads : Supervised δ → Supervised δ → Prop) : Prop :=
  ∃ before after next, acts = before ++ .poll :: after ∧
    PollerRun.step site.logged (run.actAll site wire before) = some next ∧
      leads (run.actAll site wire before) next

theorem InSomePoll.snoc {leads : Supervised δ → Supervised δ → Prop}
    (earlier : InSomePoll site wire run acts leads) (act : SupervisedAct δ) :
    InSomePoll site wire run (acts ++ [act]) leads := by
  rcases earlier with ⟨before, after, next, rfl, step, leads⟩
  exact ⟨before, after ++ [act], next, by simp, step, leads⟩

theorem InSomePoll.mono {leads goes : Supervised δ → Supervised δ → Prop}
    (earlier : InSomePoll site wire run acts leads)
    (implies : ∀ tick next, leads tick next → goes tick next) :
    InSomePoll site wire run acts goes := by
  rcases earlier with ⟨before, after, next, split, step, leads⟩
  exact ⟨before, after, next, split, step, implies _ _ leads⟩

/-- Whatever a run has committed has been committed by some poll, which found it in one
survey. -/
theorem Steady.exists_commit {α : Type} {polled : Polled α}
    (wired : site.gateway = ModbusGateway.gateway wire) (steady : Steady run)
    (empty : polled.slot run.poller = none) {committed : Committed α}
    (held : polled.slot (run.actAll site wire acts).poller = some committed) :
    InSomePoll site wire run acts fun tick next =>
      Steady tick ∧ polled.slot next.poller = some committed ∧
        LoggedRun.Commits site tick polled committed := by
  -- Either the last act has changed the slot, or an earlier one has.
  induction acts using List.reverseRecOn with
  | nil => cases empty.symm.trans held
  | append_singleton acts act ih =>
      have reached := steady.actAll wired acts
      have last : run.actAll site wire (acts ++ [act]) =
          (run.actAll site wire acts).act site wire act := List.foldl_append ..
      rw [last] at held
      by_cases kept : polled.slot ((run.actAll site wire acts).act site wire act).poller =
          polled.slot (run.actAll site wire acts).poller
      · exact (ih (kept.symm.trans held)).snoc act
      · rcases exists_act site wire (run.actAll site wire acts) act with ⟨other, same, polls⟩
        have polls_now : other = .poll := by
          by_contra different
          exact kept (same ▸ LoggedRun.slot_act_of_ne polled site _ different)
        cases polls polls_now
        cases step : PollerRun.step site.logged (run.actAll site wire acts) with
        | none =>
            refine absurd ?_ kept
            simp [Supervised.act, step]
        | some next =>
            have moved : (run.actAll site wire acts).act site wire .poll = next := by
              simp [Supervised.act, step]
            rw [moved] at held kept
            refine ⟨acts, [], next, rfl, step, reached, held, ?_⟩
            rcases reached.sound.slot_move reached.seeks (PollerRun.move_of_step step) polled with
              unchanged | ⟨found, stored, commits⟩
            · exact absurd unchanged kept
            · cases held.symm.trans stored
              exact commits

/-- Whatever a run has committed is fresh: some poll has committed it, and has read it in
the survey of this poll. -/
structure Fresh (site : Site (ModbusGateway δ)) (wire : Wire δ) (run : Supervised δ)
    (acts : List (SupervisedAct δ)) : Prop where
  values : ∀ committed, (run.actAll site wire acts).poller.values = some committed →
    InSomePoll site wire run acts fun tick next =>
      LoggedRun.updates? tick = some .values ∧ next.poller.values = some committed ∧
        committed.snapshot.FreshFrom wire tick.poller.gateway.state (tick.time site.logged)
  events : ∀ committed, (run.actAll site wire acts).poller.events = some committed →
    InSomePoll site wire run acts fun tick next =>
      LoggedRun.updates? tick = some .events ∧ next.poller.events = some committed ∧
        committed.snapshot.FreshFrom wire tick.poller.gateway.state

end Supervised

/-- A site of the gateway over a wire. -/
def Site.ofWire (wire : Wire δ) (latency : Question → ModbusGateway δ → Nat)
    (timeOfDay : Nat → Int) : Site (ModbusGateway δ) :=
  ⟨ModbusGateway.gateway wire, latency, timeOfDay⟩

/-- **Snapshots are fresh.** Whatever has failed before, in whatever order the poller, the
supervisor and the other side of the line have moved, the measurements that a poller has
committed are those of the blocks that the fetch of their own tick has read, and so are the
operating state and the events. -/
theorem committed_snapshots_are_fresh (wire : Wire δ)
    (latency : Question → ModbusGateway δ → Nat) (timeOfDay : Nat → Int) (interval : Nat)
    (name : String) (device : DeviceConfig) (line : δ) (acts : List (SupervisedAct δ)) :
    let site := Site.ofWire wire latency timeOfDay
    Supervised.Fresh site wire (Supervised.start site interval name device line) acts := by
  intro site
  have steady : Supervised.Steady (.start site interval name device line) :=
    Supervised.steady_start rfl interval name device line
  constructor
  · intro committed held
    refine (steady.exists_commit rfl (Supervised.slot_start .values ..) held).mono ?_
    rintro tick next ⟨steady, stored, commits⟩
    exact ⟨commits.updates, stored, steady.trusted.freshFrom_values commits.surveyed⟩
  · intro committed held
    refine (steady.exists_commit rfl (Supervised.slot_start .events ..) held).mono ?_
    rintro tick next ⟨steady, stored, commits⟩
    exact ⟨commits.updates, stored, steady.trusted.freshFrom_events commits.surveyed⟩

/-- In this history a device with one module is checked, and then a tick reads it: the
measurements and the events are committed. -/
example :
    let wire := ModbusGateway.wireWith ModbusGateway.oneModule
    let site := Site.ofWire wire (fun _ _ => 0) fun _ => 0
    let device : DeviceConfig := ⟨"inverter", .tcp "localhost" 502, 1, 40000, 1000, .default⟩
    let run := (Supervised.start site 1 "inverter" device ()).actAll site wire
      [.supervise, .supervise, .poll, .poll, .advance 1, .poll, .poll, .poll, .poll]
    run.poller.values.isSome ∧ run.poller.events.isSome := by
  decide +kernel

end InverterBridge
