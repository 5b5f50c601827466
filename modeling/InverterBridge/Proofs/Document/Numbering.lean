import InverterBridge.Proofs.Document.Published
import InverterBridge.RegisterMap.Inputs

/-!
# The numbers of a values document

Phases and inputs are numbered by a counter that is a byte and is moved on with every entry, the
last one included (`numbered?_eq_countFrom?`).  A model of the inputs can announce any number of
inputs up to 255 (`InputBlock.exists_moduleCount_iff`), and the counter can not get past the last
of these.  Hence a snapshot has a document that says of every entry at its own position what was
measured there exactly if it has not 255 inputs (`ValuesDocument.transcribed_unless_255_inputs`).
-/

namespace InverterBridge

/-! ## The counter -/

section

variable {α : Type}

/-- Entries paired with a counter that starts at `number`. -/
def countFrom? (number : UInt8) : List α → Option (List (UInt8 × α))
  | [] => some []
  | entry :: entries =>
      if number = 255 then
        none
      else
        (countFrom? (number + 1) entries).map ((number, entry) :: ·)

theorem toNat_add_one {number : UInt8} (small : number ≠ 255) :
    (number + 1).toNat = number.toNat + 1 := by
  have bound : number.toNat < 256 := number.toNat_lt
  have apart : number.toNat ≠ 255 := fun same => small (UInt8.toNat_inj.mp same)
  rw [UInt8.toNat_add]
  exact Nat.mod_eq_of_lt (by simp; omega)

/-- The counter gets to every entry if it can get past the last one. -/
theorem countFrom?_eq (number : UInt8) (entries : List α) :
    countFrom? number entries =
      if number.toNat + entries.length < 256 then
        some (entries.mapIdx fun index entry => (number + UInt8.ofNat index, entry))
      else
        none := by
  induction entries generalizing number with
  | nil => simp [countFrom?, number.toNat_lt]
  | cons entry entries ih =>
      rw [countFrom?]
      by_cases last : number = 255
      · have past : ¬ number.toNat + (entry :: entries).length < 256 := by
          rw [last, List.length_cons]
          exact Nat.not_lt.mpr (show 256 ≤ 255 + (entries.length + 1) by omega)
        rw [if_pos last, if_neg past]
      · have moved := toNat_add_one last
        rw [if_neg last, ih, moved, List.length_cons, Nat.add_right_comm, Nat.add_assoc]
        split
        · simp [List.mapIdx_cons, UInt8.ofNat_add, UInt8.add_assoc, UInt8.add_comm 1]
        · rfl

/-- Entries are numbered by a counter that starts at one. -/
theorem numbered?_eq_countFrom? (entries : List α) :
    numbered? entries = countFrom? 1 entries := by
  have below : (1 : UInt8).toNat + entries.length < 256 ↔ entries.length < 255 := by
    rw [UInt8.toNat_one]
    omega
  have numbers : (fun (index : Nat) (entry : α) => (UInt8.ofNat (index + 1), entry)) =
      fun index entry => (1 + UInt8.ofNat index, entry) := by
    funext index entry
    rw [UInt8.ofNat_add, UInt8.add_comm]
    rfl
  simp only [numbered?, countFrom?_eq, below, numbers]

/-- The entry at a position has the number that follows the position. -/
theorem getElem?_numbered {entries : List α} {numbered : List (UInt8 × α)}
    (found : numbered? entries = some numbered) (index : Nat) :
    numbered[index]? = entries[index]?.map fun entry => (UInt8.ofNat (index + 1), entry) := by
  unfold numbered? at found
  split at found
  · rw [← Option.some.inj found, List.getElem?_mapIdx]
  · cases found

end

namespace InputBlock

/-- An input model with modules of zeros, all of which are declared. -/
def ofModules (count : UInt16) : InputBlock where
  registers := [0, 0, 0, 0, 0, 0, count, 0] ++
    List.replicate (count.toNat * inputModuleLength) 0
  long_enough := by simp [inputHeadLength]

theorem moduleCount_ofModules (count : UInt16) :
    (ofModules count).moduleCount = min count.toNat 255 := by
  have complete : ((ofModules count).registers.length - inputHeadLength) / inputModuleLength =
      count.toNat := by
    simp [ofModules, inputHeadLength, inputModuleLength]
  rw [moduleCount, complete, register, ofModules]
  simp [inputCountOffset]

/-- The numbers of inputs that can be announced. -/
theorem exists_moduleCount_iff {count : Nat} :
    (∃ block : InputBlock, block.moduleCount = count) ↔ count ≤ 255 := by
  constructor
  · rintro ⟨block, rfl⟩
    exact block.moduleCount_le
  · intro few
    refine ⟨ofModules (UInt16.ofNat count), ?_⟩
    rw [moduleCount_ofModules, UInt16.toNat_ofNat_of_lt' (show count < 65536 by omega)]
    omega

end InputBlock

/-! ## What a document says -/

/-- An entry with the rounded measurements of a phase and the number after its position. -/
structure PhaseEntry.States (entry : PhaseEntry) (index : Nat) (phase : PhaseValues) : Prop where
  id : entry.id.toNat = index + 1
  voltage : entry.voltage = roundTo phase.voltage 2
  current : entry.current = roundTo phase.current 3

/-- An entry with the rounded measurements of an input and the number after its position. -/
structure InputEntry.States (entry : InputEntry) (index : Nat) (input : InputValues) : Prop where
  id : entry.id.toNat = index + 1
  voltage : entry.voltage = roundTo input.voltage 2
  current : entry.current = roundTo input.current 3
  power : entry.power = roundTo input.power 1
  energy : entry.energy = input.energy.map fun energy => roundTo energy 1

/-- One entry for each of the measured ones, in their order, that says what is measured there. -/
structure Listed {α β : Type} (states : β → Nat → α → Prop) (entries : List β)
    (measured : List α) : Prop where
  length : entries.length = measured.length
  states : ∀ index entry values, entries[index]? = some entry → measured[index]? = some values →
    states entry index values

/-- Numbered entries that are written one by one are listed. -/
theorem listed_of_numbered {α β : Type} {states : β → Nat → α → Prop} {write : UInt8 → α → β}
    {measured : List α} {numbered : List (UInt8 × α)} (found : numbered? measured = some numbered)
    (written : ∀ (number : UInt8) index values, number.toNat = index + 1 →
      states (write number values) index values) :
    Listed states (numbered.map fun (number, values) => write number values) measured where
  length := by
    have kept := congrArg List.length (ValuesDocument.numbered?_eq_some found).2
    rwa [List.length_map] at kept ⊢
  states := by
    intro index entry values entryAt valuesAt
    have inside : index < measured.length := (List.getElem?_eq_some_iff.mp valuesAt).1
    have few : ¬ 255 ≤ measured.length := by
      rw [← numbered?_eq_none_iff, found]
      exact Option.some_ne_none _
    rw [List.getElem?_map, getElem?_numbered found, valuesAt] at entryAt
    cases entryAt
    exact written _ _ _ (UInt8.toNat_ofNat_of_lt' (show index + 1 < 256 by omega))

namespace ValuesDocument

/-- A document says of a snapshot what has been measured: every number of the document is the
rounded measurement in its place, and nothing is left out. -/
structure Transcribes (document : ValuesDocument) (snapshot : ValueSnapshot) : Prop where
  time : document.time = snapshot.time
  energy : document.energy = roundTo snapshot.energy 1
  activePower : document.activePower = roundTo snapshot.activePower 1
  apparentPower : document.apparentPower = roundTo snapshot.apparentPower 1
  reactivePower : document.reactivePower = roundTo snapshot.reactivePower 1
  powerFactor : document.powerFactor = roundTo snapshot.powerFactor 1
  phases : Listed PhaseEntry.States document.phases snapshot.phases
  frequency : document.frequency = roundTo snapshot.frequency 2
  dcPower : document.dcPower = roundTo snapshot.dcPower 1
  efficiency : document.efficiency = roundTo snapshot.efficiency 1
  inputs : Listed InputEntry.States document.inputs snapshot.inputs

variable {snapshot : ValueSnapshot} {document : ValuesDocument}

theorem transcribes_of_ofSnapshot? (made : ofSnapshot? snapshot = some document) :
    document.Transcribes snapshot := by
  obtain ⟨phases, inputs, numberedPhases, numberedInputs, rfl⟩ := ofSnapshot?_eq_some made
  constructor
  case phases => exact listed_of_numbered numberedPhases fun _ _ _ id => ⟨id, rfl, rfl⟩
  case inputs => exact listed_of_numbered numberedInputs fun _ _ _ id => ⟨id, rfl, rfl, rfl, rfl⟩
  all_goals rfl

/-- A snapshot has no document if it has too many phases or inputs. -/
theorem ofSnapshot?_eq_none_iff :
    ofSnapshot? snapshot = none ↔
      255 ≤ snapshot.phases.length ∨ 255 ≤ snapshot.inputs.length := by
  rw [← numbered?_eq_none_iff, ← numbered?_eq_none_iff, ofSnapshot?]
  cases numbered? snapshot.phases <;> cases numbered? snapshot.inputs <;> simp

/-- **A document transcribes its snapshot, and only one of 255 inputs has none.** Let a snapshot
have at most three phases and as many inputs as a model of the inputs announces.  It has a document
unless there are 255 inputs, where the counter can not get past the last one.  Its document has
exactly one entry for each phase and for each input, in their order, with the numbers from one
upwards and the rounded measurements of the entry at the same position. -/
theorem transcribed_unless_255_inputs {block : InputBlock}
    (phases : snapshot.phases.length ≤ 3)
    (announced : snapshot.inputs.length = block.moduleCount) :
    (ofSnapshot? snapshot = none ↔ snapshot.inputs.length = 255) ∧
      ∀ document, ofSnapshot? snapshot = some document → document.Transcribes snapshot := by
  have few : snapshot.inputs.length ≤ 255 := announced ▸ block.moduleCount_le
  constructor
  · rw [ofSnapshot?_eq_none_iff]
    omega
  · intro document made
    exact transcribes_of_ofSnapshot? made

/-- A snapshot of three phases and some inputs that all measure the same. -/
def uniformSnapshot (inputs : Nat) : ValueSnapshot where
  time := 0
  energy := 1.0
  activePower := 1.0
  apparentPower := 1.0
  reactivePower := 1.0
  powerFactor := 1.0
  phases := List.replicate 3 ⟨1.0, 1.0⟩
  frequency := 1.0
  dcPower := 1.0
  efficiency := 1.0
  inputs := List.replicate inputs ⟨1.0, 1.0, 1.0, none⟩

theorem length_inputs_uniformSnapshot (inputs : Nat) :
    (uniformSnapshot inputs).inputs.length = inputs :=
  List.length_replicate

/-- A model of the inputs can announce them. -/
theorem announced_uniformSnapshot {count : UInt16} (few : count.toNat ≤ 255) :
    (uniformSnapshot count.toNat).inputs.length = (InputBlock.ofModules count).moduleCount := by
  rw [InputBlock.moduleCount_ofModules, Nat.min_eq_left few, length_inputs_uniformSnapshot]

/-- A snapshot of 254 inputs has a document. -/
theorem transcribed_254_inputs :
    (uniformSnapshot 254).phases.length ≤ 3 ∧
      (uniformSnapshot 254).inputs.length = (InputBlock.ofModules 254).moduleCount ∧
        ∃ document, ofSnapshot? (uniformSnapshot 254) = some document ∧
          document.Transcribes (uniformSnapshot 254) := by
  have phases : (uniformSnapshot 254).phases.length ≤ 3 := Nat.le_refl 3
  have announced := announced_uniformSnapshot (show (254 : UInt16).toNat ≤ 255 by decide)
  obtain ⟨unwritten_iff, transcribes⟩ := transcribed_unless_255_inputs phases announced
  have fewer : (uniformSnapshot 254).inputs.length ≠ 255 := by
    rw [length_inputs_uniformSnapshot]
    decide
  obtain ⟨document, made⟩ := Option.ne_none_iff_exists'.mp (mt unwritten_iff.mp fewer)
  exact ⟨phases, announced, document, made, transcribes document made⟩

/-- A snapshot of 255 inputs has none, though a model of the inputs announces as many. -/
theorem untranscribed_255_inputs :
    (uniformSnapshot 255).phases.length ≤ 3 ∧
      (uniformSnapshot 255).inputs.length = (InputBlock.ofModules 255).moduleCount ∧
        ofSnapshot? (uniformSnapshot 255) = none := by
  have announced := announced_uniformSnapshot (show (255 : UInt16).toNat ≤ 255 by decide)
  refine ⟨Nat.le_refl 3, announced, ?_⟩
  rw [ofSnapshot?_eq_none_iff, length_inputs_uniformSnapshot]
  exact .inr (Nat.le_refl 255)

end ValuesDocument

end InverterBridge
