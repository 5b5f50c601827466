import InverterBridge.Config.Load
import InverterBridge.Modbus.Backoff
import InverterBridge.Queue.Outbox
import InverterBridge.Proofs.Config.Ascii
import InverterBridge.Proofs.Document.Topics

/-!
# Valid configurations

What a configuration has to satisfy is said here once as a whole (`BridgeConfig.IsValid`), without
the order of the checks.  A text is accepted exactly if it is read as a valid configuration; the
complaint about any other is about something that is wrong with it, and about the queues first.
What the running bridge would correct is never wrong in a configuration that was accepted.  All this
holds as long as the reader does not break down (`BridgeConfig.judged_unless_breakdown`), which it
does at some wide characters only.
-/

namespace InverterBridge

/-! ## Letters -/

theorem range_of_isLower {letter : Char} (small : letter.isLower = true) :
    'a'.val ≤ letter.val ∧ letter.val ≤ 'z'.val := by
  have both : (decide ('a'.val ≤ letter.val) && decide (letter.val ≤ 'z'.val)) = true := small
  simpa using both

theorem toNat_toUpper {letter : Char} (small : letter.isLower = true) :
    letter.toUpper.toNat + 32 = letter.toNat := by
  have range := range_of_isLower small
  have bounds : 97 ≤ letter.toNat ∧ letter.toNat ≤ 122 := range
  have shifted : letter.toUpper.val = letter.val + ('A'.val - 'a'.val) := by
    delta Char.toUpper
    rw [dif_pos range]
  have shift : ('A'.val - 'a'.val).toNat = 2 ^ 32 - 32 := by decide
  have sum : letter.toUpper.toNat = (letter.toNat + (2 ^ 32 - 32)) % 2 ^ 32 := by
    rw [← Char.toNat_val, shifted, UInt32.toNat_add, shift, Char.toNat_val]
  omega

theorem toNat_toLower (character : Char) :
    character.toLower.toNat =
      if 65 ≤ character.toNat ∧ character.toNat ≤ 90 then character.toNat + 32
      else character.toNat := by
  by_cases capital : 'A'.val ≤ character.val ∧ character.val ≤ 'Z'.val
  · have bounds : 65 ≤ character.toNat ∧ character.toNat ≤ 90 := capital
    have shifted : character.toLower.val = character.val + ('a'.val - 'A'.val) := by
      delta Char.toLower
      rw [dif_pos capital]
    have shift : ('a'.val - 'A'.val).toNat = 32 := by decide
    rw [if_pos bounds, ← Char.toNat_val, shifted, UInt32.toNat_add, shift, Char.toNat_val]
    omega
  · have same : character.toLower = character := dif_neg capital
    rw [same]
    exact (if_neg capital).symm

/-- The characters with a given small letter are this letter and its capital. -/
theorem toLower_eq_iff {character letter : Char} (small : letter.isLower = true) :
    character.toLower = letter ↔ character = letter ∨ character = letter.toUpper := by
  have bounds : 97 ≤ letter.toNat ∧ letter.toNat ≤ 122 := range_of_isLower small
  have capital := toNat_toUpper small
  simp only [← Char.toNat_inj, toNat_toLower]
  split <;> omega

/-! ## What is asked of a configuration -/

/-- Whether a word names a parity, in small letters and capital ones. -/
def NamesParity (word : String) : Prop :=
  ∃ parity ∈ ["none", "even", "odd"],
    List.Forall₂ (fun letter character => character = letter ∨ character = letter.toUpper)
      parity.toList word.toList

/-- What is asked of a connection. -/
def ConnectionConfig.IsValid : ConnectionConfig → Prop
  | .tcp host _ => host ≠ ""
  | .rtu line =>
      NamesParity line.parity ∧ (5 ≤ line.dataBits.toNat ∧ line.dataBits.toNat ≤ 8) ∧
        (line.stopBits = 1 ∨ line.stopBits = 2)

/-- What is asked of a configuration. -/
structure BridgeConfig.IsValid (config : BridgeConfig) : Prop where
  capacity : 1 ≤ config.poll.queue.capacity.toNat
  named : config.poll.device.name ≠ ""
  unreserved : ∀ character ∈ config.poll.device.name.toList,
    character ∉ ['/', '*', '$', '#', '?', '@']
  unit : 1 ≤ config.poll.device.unitId.toNat ∧ config.poll.device.unitId.toNat ≤ 247
  timeout : 1 ≤ config.poll.device.timeoutMilliseconds.toNat
  interval : 1 ≤ config.poll.intervalSeconds.toNat
  delays : 1 ≤ config.poll.device.reconnect.minSeconds.toNat ∧
    config.poll.device.reconnect.minSeconds.toNat ≤ config.poll.device.reconnect.maxSeconds.toNat
  connection : config.poll.device.connection.IsValid

/-- What a complaint says of a name. -/
def NameFault.IsFaultOf (name : String) : NameFault → Prop
  | .empty => name = ""
  | .reserved shown character =>
      shown = name ∧ character ∈ name.toList ∧ character ∈ reservedCharacters

/-- What a complaint says of a configuration. -/
def ConfigFault.IsFaultOf (config : BridgeConfig) : ConfigFault → Prop
  | .zeroCapacity => config.poll.queue.capacity = 0
  | .deviceName fault => fault.IsFaultOf config.poll.device.name
  | .unitId device =>
      device = config.poll.device.name ∧
        ¬ (1 ≤ config.poll.device.unitId.toNat ∧ config.poll.device.unitId.toNat ≤ 247)
  | .zeroTimeout device =>
      device = config.poll.device.name ∧ config.poll.device.timeoutMilliseconds = 0
  | .zeroInterval => config.poll.intervalSeconds = 0
  | .reconnectDelay device =>
      device = config.poll.device.name ∧
        ¬ (1 ≤ config.poll.device.reconnect.minSeconds.toNat ∧
          config.poll.device.reconnect.minSeconds.toNat ≤
            config.poll.device.reconnect.maxSeconds.toNat)
  | .emptyHost device =>
      device = config.poll.device.name ∧ ∃ port, config.poll.device.connection = .tcp "" port
  | .parity device word =>
      device = config.poll.device.name ∧
        ∃ line, config.poll.device.connection = .rtu line ∧ line.parity = word ∧ ¬ NamesParity word
  | .dataBits device =>
      device = config.poll.device.name ∧
        ∃ line, config.poll.device.connection = .rtu line ∧
          ¬ (5 ≤ line.dataBits.toNat ∧ line.dataBits.toNat ≤ 8)
  | .stopBits device =>
      device = config.poll.device.name ∧
        ∃ line, config.poll.device.connection = .rtu line ∧
          ¬ (line.stopBits = 1 ∨ line.stopBits = 2)

/-! ## Checks -/

section

variable {ε : Type} {first second : Except ε Unit}

theorem andThen_eq_ok_iff :
    (first >>= fun _ => second) = .ok () ↔ first = .ok () ∧ second = .ok () := by
  cases first <;> simp [bind, Except.bind]

/-- The fault of two checks is a fault of one of them. -/
theorem error_of_andThen {fault : ε} (failed : (first >>= fun _ => second) = .error fault) :
    first = .error fault ∨ second = .error fault := by
  cases first with
  | error cause => exact .inl failed
  | ok _ => exact .inr failed

end

theorem demand_eq_error_iff {condition : Bool} {fault other : ConfigFault} :
    demand condition fault = .error other ↔ condition = false ∧ fault = other := by
  cases condition <;> simp [demand]

theorem isParity_iff (word : String) : isParity word = true ↔ NamesParity word := by
  have small : ∀ parity ∈ parities, ∀ letter ∈ parity.toList, letter.isLower = true := by
    simp [parities]
  -- Making letters small is compared letter by letter.
  have spelt : ∀ parity ∈ parities, String.ofList (word.toList.map Char.toLower) = parity ↔
      List.Forall₂ (fun letter character => character = letter ∨ character = letter.toUpper)
        parity.toList word.toList := by
    intro parity listed
    have letters : List.Forall₂ (fun letter character => character.toLower = letter)
        parity.toList word.toList ↔
        List.Forall₂ (fun letter character => character = letter ∨ character = letter.toUpper)
        parity.toList word.toList := by
      constructor <;> intro same
      · exact ((List.forall₂_and_left _ _).mpr ⟨small parity listed, same⟩).imp
          fun _ _ both => (toLower_eq_iff both.1).mp both.2
      · exact ((List.forall₂_and_left _ _).mpr ⟨small parity listed, same⟩).imp
          fun _ _ both => (toLower_eq_iff both.1).mpr both.2
    rw [← letters, ← String.toList_inj, String.toList_ofList, ← List.forall₂_eq_eq_eq,
      List.forall₂_map_left_iff]
    exact ⟨.flip, .flip⟩
  rw [isParity, List.contains_iff_mem, NamesParity]
  constructor
  · intro listed
    exact ⟨_, listed, (spelt _ listed).mp rfl⟩
  · rintro ⟨parity, listed, same⟩
    rw [(spelt parity listed).mpr same]
    exact listed

theorem isFaultOf_of_checkDeviceName {name : String} {fault : NameFault}
    (refused : checkDeviceName name = .error fault) : fault.IsFaultOf name := by
  rw [checkDeviceName] at refused
  split at refused
  next empty =>
    obtain rfl := Except.error.inj refused
    exact String.isEmpty_iff.mp empty
  next =>
    cases found : firstReserved? name with
    | none => simp [found] at refused
    | some character =>
        rw [found] at refused
        obtain rfl := Except.error.inj refused
        exact ⟨rfl, List.mem_of_find?_eq_some found,
          List.contains_iff_mem.mp (List.find?_some found)⟩

theorem ConnectionConfig.check_eq_ok_iff (device : String) (connection : ConnectionConfig) :
    connection.check device = .ok () ↔ connection.IsValid := by
  cases connection with
  | tcp host port => simp [check, IsValid]
  | rtu line =>
      simp only [check, andThen_eq_ok_iff, demand_eq_ok_iff, isParity_iff, IsValid]
      simp

theorem one_le_toNat_iff {number : UInt64} : 1 ≤ number.toNat ↔ number ≠ 0 := by
  rw [Ne, ← UInt64.toNat_inj]
  exact Nat.one_le_iff_ne_zero

namespace BridgeConfig

variable {config : BridgeConfig}

/-- The checks are passed exactly by valid configurations. -/
theorem check_eq_ok_iff : config.check = .ok () ↔ config.IsValid := by
  have name : (checkDeviceName config.poll.device.name).mapError ConfigFault.deviceName = .ok () ↔
      checkDeviceName config.poll.device.name = .ok () := by
    cases checkDeviceName config.poll.device.name <;> simp [Except.mapError]
  simp only [check, checkPoll, QueueConfig.check, andThen_eq_ok_iff, demand_eq_ok_iff,
    ConnectionConfig.check_eq_ok_iff, name, checkDeviceName_eq_ok_iff, Bool.and_eq_true, bne_iff_ne,
    decide_eq_true_eq, ← one_le_toNat_iff]
  constructor
  · rintro ⟨capacity, ⟨named, unreserved⟩, unit, timeout, interval, delays, connection⟩
    exact ⟨capacity, named, unreserved, unit, timeout, interval, delays, connection⟩
  · rintro ⟨capacity, named, unreserved, unit, timeout, interval, delays, connection⟩
    exact ⟨capacity, ⟨named, unreserved⟩, unit, timeout, interval, delays, connection⟩

/-- The complaint about a connection is justified. -/
theorem isFaultOf_of_checkConnection {fault : ConfigFault}
    (refused : config.poll.device.connection.check config.poll.device.name = .error fault) :
    fault.IsFaultOf config := by
  cases place : config.poll.device.connection with
  | tcp host port =>
      rw [place, ConnectionConfig.check, demand_eq_error_iff] at refused
      obtain ⟨empty, rfl⟩ := refused
      have empty : host = "" := by simpa using empty
      exact ⟨rfl, port, empty ▸ place⟩
  | rtu line =>
      rw [place, ConnectionConfig.check] at refused
      obtain failed | refused := error_of_andThen refused
      · obtain ⟨unknown, rfl⟩ := demand_eq_error_iff.mp failed
        refine ⟨rfl, line, place, rfl, fun names => ?_⟩
        rw [(isParity_iff _).mpr names] at unknown
        contradiction
      · obtain failed | failed := error_of_andThen refused
        · obtain ⟨outside, rfl⟩ := demand_eq_error_iff.mp failed
          exact ⟨rfl, line, place, by simpa using outside⟩
        · obtain ⟨other, rfl⟩ := demand_eq_error_iff.mp failed
          exact ⟨rfl, line, place, by simpa using other⟩

/-- The complaint of a check is justified. -/
theorem isFaultOf_of_check {fault : ConfigFault} (refused : config.check = .error fault) :
    fault.IsFaultOf config := by
  obtain failed | refused := error_of_andThen refused
  · obtain ⟨zero, rfl⟩ := demand_eq_error_iff.mp failed
    simpa [ConfigFault.IsFaultOf] using zero
  obtain failed | refused := error_of_andThen refused
  · cases name : checkDeviceName config.poll.device.name with
    | ok _ => simp [name, Except.mapError] at failed
    | error cause =>
        rw [name] at failed
        obtain rfl := Except.error.inj failed
        exact isFaultOf_of_checkDeviceName name
  obtain failed | refused := error_of_andThen refused
  · obtain ⟨outside, rfl⟩ := demand_eq_error_iff.mp failed
    exact ⟨rfl, by simpa using outside⟩
  obtain failed | refused := error_of_andThen refused
  · obtain ⟨zero, rfl⟩ := demand_eq_error_iff.mp failed
    exact ⟨rfl, by simpa using zero⟩
  obtain failed | refused := error_of_andThen refused
  · obtain ⟨zero, rfl⟩ := demand_eq_error_iff.mp failed
    simpa [ConfigFault.IsFaultOf] using zero
  obtain failed | refused := error_of_andThen refused
  · obtain ⟨outside, rfl⟩ := demand_eq_error_iff.mp failed
    refine ⟨rfl, ?_⟩
    rw [one_le_toNat_iff]
    simpa using outside
  · exact isFaultOf_of_checkConnection refused

/-- Queues without room are complained about before anything else. -/
theorem check_of_zeroCapacity (zero : config.poll.queue.capacity = 0) :
    config.check = .error .zeroCapacity := by
  simp [check, QueueConfig.check, zero, demand, bind, Except.bind]

/-- A configuration is valid exactly if nothing is wrong with it. -/
theorem isValid_iff : config.IsValid ↔ ∀ fault : ConfigFault, ¬ fault.IsFaultOf config := by
  constructor
  · rintro ⟨capacity, named, unreserved, unit, timeout, interval, delays, connection⟩ fault faulty
    rw [one_le_toNat_iff] at capacity timeout interval
    cases fault with
    | zeroCapacity => exact capacity faulty
    | deviceName fault =>
        cases fault with
        | empty => exact named faulty
        | reserved shown character =>
            obtain ⟨rfl, held, reserved⟩ := faulty
            exact unreserved character held reserved
    | unitId device => exact faulty.2 unit
    | zeroTimeout device => exact timeout faulty.2
    | zeroInterval => exact interval faulty
    | reconnectDelay device => exact faulty.2 delays
    | emptyHost device =>
        obtain ⟨-, port, place⟩ := faulty
        rw [place] at connection
        exact connection rfl
    | parity device word =>
        obtain ⟨-, line, place, rfl, unknown⟩ := faulty
        rw [place] at connection
        exact unknown connection.1
    | dataBits device =>
        obtain ⟨-, line, place, outside⟩ := faulty
        rw [place] at connection
        exact outside connection.2.1
    | stopBits device =>
        obtain ⟨-, line, place, other⟩ := faulty
        rw [place] at connection
        exact other connection.2.2
  · intro faultless
    cases checked : config.check with
    | ok _ => exact check_eq_ok_iff.mp checked
    | error fault => exact absurd (isFaultOf_of_check checked) (faultless fault)

/-! ## Running bridges -/

/-- A configuration that the running bridge uses as it is: its queues can be made and have the room
that was asked for, and the longest delay is the one that was asked for. -/
structure IsUncorrected (config : BridgeConfig) : Prop where
  outbox : ∀ sink, Outbox.create sink config.poll.queue true = .ok ⟨sink, config.poll.queue, []⟩
  capacity : ∀ topic retryDelay,
    (DestinationQueue.empty topic config.poll.queue.capacity.toNat retryDelay).capacity =
      config.poll.queue.capacity.toNat
  most : (Backoff.ofConfig config.poll.device.reconnect).most =
    config.poll.device.reconnect.maxSeconds.toNat

theorem IsValid.isUncorrected (valid : config.IsValid) : config.IsUncorrected where
  outbox sink := by
    have checked : config.poll.queue.check = .ok () :=
      (andThen_eq_ok_iff.mp (check_eq_ok_iff.mpr valid)).1
    rw [Outbox.create, checked]
    rfl
  capacity _ _ := max_eq_left valid.capacity
  most := max_eq_left valid.delays.2

/-! ## Texts -/

theorem decode_eq : (Configuration.decode : Dialect → Decoder BridgeConfig) = decode :=
  rfl

theorem validate_eq : Configuration.validate config = config.check :=
  rfl

section

variable {text : String}

theorem parse_of_error {cause : DecodeError} (unread : readRelaxed decode text = .error cause) :
    (Configuration.parse text : Except BridgeError BridgeConfig) =
      if cause = .breakdown then .error .breakdown
      else .error (.configParse (configMessage cause)) := by
  rw [Configuration.parse, decode_eq, unread]
  cases cause <;> rfl

theorem parse_of_ok (read : readRelaxed decode text = .ok config) :
    Configuration.parse text =
      match config.check with
      | .error fault => .error (.configValidation fault.message)
      | .ok _ => .ok config := by
  rw [Configuration.parse, decode_eq, read]
  exact validate_eq ▸ rfl

/-- A text is accepted exactly if it is read as a valid configuration. -/
theorem parse_eq_ok_iff :
    Configuration.parse text = .ok config ↔
      readRelaxed decode text = .ok config ∧ config.IsValid := by
  rw [← check_eq_ok_iff]
  cases read : readRelaxed decode text with
  | error cause =>
      rw [parse_of_error read]
      split <;> simp
  | ok found =>
      rw [parse_of_ok read]
      cases checked : found.check with
      | error fault =>
          simp only [reduceCtorEq, Except.ok.injEq, false_iff, not_and]
          rintro rfl passed
          rw [checked] at passed
          contradiction
      | ok _ =>
          simp only [Except.ok.injEq]
          exact ⟨fun same => ⟨same, same ▸ checked⟩, fun same => same.1⟩

/-- A configuration that is not valid is refused with a justified complaint, and one about its
queues if they have no room. -/
theorem parse_of_not_isValid (read : readRelaxed decode text = .ok config)
    (invalid : ¬ config.IsValid) :
    ∃ fault : ConfigFault, fault.IsFaultOf config ∧
      (config.poll.queue.capacity = 0 → fault = .zeroCapacity) ∧
      (Configuration.parse text : Except BridgeError BridgeConfig) =
        .error (.configValidation fault.message) := by
  cases checked : config.check with
  | ok _ => exact absurd (check_eq_ok_iff.mp checked) invalid
  | error fault =>
      refine ⟨fault, isFaultOf_of_check checked, fun zero => ?_, ?_⟩
      · exact Except.error.inj (checked.symm.trans (check_of_zeroCapacity zero))
      · rw [parse_of_ok read, checked]

end

/-- A text that is judged by what it says: it is accepted exactly if it is read as a valid
configuration, which is then used as it is; a text that is not read is refused as such, and one
that is read as anything else with a justified complaint, first of all about the queues. -/
structure IsJudged (text : String) : Prop where
  accepted : ∀ config : BridgeConfig,
    Configuration.parse text = .ok config ↔ readRelaxed decode text = .ok config ∧ config.IsValid
  unread : ∀ cause, readRelaxed BridgeConfig.decode text = .error cause →
    (Configuration.parse text : Except BridgeError BridgeConfig) =
      .error (.configParse (configMessage cause))
  invalid : ∀ config, readRelaxed decode text = .ok config → ¬ config.IsValid →
    ∃ fault : ConfigFault, fault.IsFaultOf config ∧
      (config.poll.queue.capacity = 0 → fault = .zeroCapacity) ∧
      (Configuration.parse text : Except BridgeError BridgeConfig) =
        .error (.configValidation fault.message)
  uncorrected : ∀ config : BridgeConfig,
    Configuration.parse text = .ok config → config.IsUncorrected

/-- **Texts are judged by what they say, as long as the reader does not break down.**  Where it
does, nothing is reported at all.  It never does at a text of ASCII characters. -/
theorem judged_unless_breakdown (text : String) :
    (IsJudged text ↔ readRelaxed decode text ≠ .error .breakdown) ∧
      (IsJudged text ∨
        (Configuration.parse text : Except BridgeError BridgeConfig) = .error .breakdown) ∧
      (Relaxed.IsAscii text.toList → IsJudged text) := by
  have judged : readRelaxed decode text ≠ .error .breakdown → IsJudged text := by
    intro reads
    refine ⟨fun _ => parse_eq_ok_iff, fun cause unread => ?_, fun _ => parse_of_not_isValid,
      fun _ accepted => (parse_eq_ok_iff.mp accepted).2.isUncorrected⟩
    rw [parse_of_error unread, if_neg]
    rintro rfl
    exact reads unread
  refine ⟨⟨fun law broken => ?_, judged⟩, ?_, fun ascii => judged (isSteady_of_isAscii ascii)⟩
  · have silent := parse_of_error broken
    rw [if_pos rfl, law.unread _ broken] at silent
    cases silent
  · by_cases broken : readRelaxed decode text = .error .breakdown
    · exact .inr ((parse_of_error broken).trans (if_pos rfl))
    · exact .inl (judged broken)

/-- A text with no more than what has to be given. -/
def shortText : String :=
  "\x7bsunspec:\x7bdevice:\x7bname:\"inv\",connection:\x7btype:\"tcp\",host:\"h\"\x7d\x7d\x7d\x7d"

/-- It is judged and accepted. -/
theorem shortText_judged :
    IsJudged shortText ∧
      ∃ config : BridgeConfig,
        Configuration.parse shortText = .ok config ∧ config.IsUncorrected := by
  have accepted :
      (Configuration.parse shortText : Except BridgeError BridgeConfig).isOk = true := by
    decide +kernel
  have ascii : shortText.toList.all (·.toNat < 0x80) = true := by decide +kernel
  have judged : IsJudged shortText :=
    (judged_unless_breakdown shortText).2.2 fun character listed =>
      of_decide_eq_true (List.all_eq_true.mp ascii character listed)
  cases parsed : (Configuration.parse shortText : Except BridgeError BridgeConfig) with
  | error failure => simp [parsed, Except.isOk, Except.toBool] at accepted
  | ok config => exact ⟨judged, config, rfl, judged.uncorrected config parsed⟩

/-- A text in which a word of one wide character stands where a number should. -/
def wideText : String :=
  "\x7bsunspec:\x7bdevice:\x7bname:\"inv\",connection:\x7btype:\"tcp\",host:\"h\"\x7d\x7d," ++
    "update_interval_secs:\"五\"\x7d\x7d"

/-- It is not read as any configuration, and is not refused as unread. -/
theorem wideText_not_judged :
    (∀ config, readRelaxed decode wideText ≠ .ok config) ∧
      (∀ message, (Configuration.parse wideText : Except BridgeError BridgeConfig) ≠
        .error (.configParse message)) ∧
      ¬ IsJudged wideText := by
  have broken : readRelaxed decode wideText = .error .breakdown := by decide +kernel
  have silent := parse_of_error broken
  rw [if_pos rfl] at silent
  refine ⟨fun config read => ?_, fun message refused => ?_, fun law => ?_⟩
  · cases broken.symm.trans read
  · cases silent.symm.trans refused
  · cases silent.symm.trans (law.unread _ broken)

end BridgeConfig

end InverterBridge
