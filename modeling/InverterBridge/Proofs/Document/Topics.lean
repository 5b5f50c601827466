import InverterBridge.Topic
import InverterBridge.Text.Split
import Mathlib.Tactic.Common
import Mathlib.Data.List.Nodup
import Mathlib.Data.List.TakeWhile

/-!
# The chunks of a topic

Cut at its slashes, the topic of a document falls apart into the chunks of the
root, the device and the channel, because neither of the last two holds a
slash.  The root, the device and the channel are read back from the chunks, and
the at sign, which no device name holds, keeps the status of a bridge apart.
-/

namespace InverterBridge

/-! ## Device names -/

/-- A name is a device name exactly if it is not empty and holds no character
that has a meaning in topics. -/
theorem checkDeviceName_eq_ok_iff (name : String) :
    checkDeviceName name = .ok () ↔
      name ≠ "" ∧ ∀ character ∈ name.toList, character ∉ reservedCharacters := by
  have free : firstReserved? name = none ↔
      ∀ character ∈ name.toList, character ∉ reservedCharacters := by
    simp [firstReserved?, List.find?_eq_none]
  rw [← free, checkDeviceName]
  by_cases empty : name = ""
  · simp [empty]
  · rw [if_neg (by simpa using empty)]
    cases firstReserved? name <;> simp [empty]

/-- A device name is a single chunk. -/
theorem chunks_deviceName {name : String} (accepted : checkDeviceName name = .ok ()) :
    splitEvery '/' name.toList = [name.toList] := by
  refine splitEvery_of_not_mem fun slash => ?_
  exact ((checkDeviceName_eq_ok_iff name).mp accepted).2 '/' slash (by decide)

/-- A device name is never the chunk of the status. -/
theorem deviceName_ne_at {name : String} (accepted : checkDeviceName name = .ok ()) :
    name ≠ "@" := by
  rintro rfl
  exact absurd accepted (by decide)

/-- The name of a channel is a single chunk. -/
theorem Channel.chunks_name (channel : Channel) :
    splitEvery '/' channel.name.toList = [channel.name.toList] := by
  cases channel <;> decide

/-! ## Trimming -/

/-- What trimming takes away is slashes. -/
theorem trimSlashes_append (text : List Char) :
    ∃ count, text = trimSlashes text ++ List.replicate count '/' := by
  refine ⟨(text.reverse.takeWhile (· == '/')).length, ?_⟩
  have slashes : text.reverse.takeWhile (· == '/') =
      List.replicate (text.reverse.takeWhile (· == '/')).length '/' :=
    List.eq_replicate_of_mem fun character found => by
      simpa using List.mem_takeWhile_imp found
  have whole := congrArg List.reverse
    (List.takeWhile_append_dropWhile (p := (· == '/')) (l := text.reverse))
  rw [List.reverse_append, List.reverse_reverse, slashes, List.reverse_replicate] at whole
  exact whole.symm

/-- No slash is left at the end. -/
theorem trimSlashes_getLast? (text : List Char) : (trimSlashes text).getLast? ≠ some '/' := by
  rw [trimSlashes, List.getLast?_reverse]
  intro slash
  have kept := List.head?_dropWhile_not (· == '/') text.reverse
  rw [slash] at kept
  exact absurd kept (by decide)

/-- Slashes at the end do not count. -/
theorem trimSlashes_append_replicate (text : List Char) (count : Nat) :
    trimSlashes (text ++ List.replicate count '/') = trimSlashes text := by
  induction count with
  | zero => simp
  | succ count ih =>
      rw [List.replicate_succ', ← List.append_assoc, trimSlashes_append_slash, ih]

namespace TopicSpace

/-- Slashes at the end of the root do not count. -/
theorem ofRoot_append_slashes (root : String) (count : Nat) :
    ofRoot (root ++ String.ofList (List.replicate count '/')) = ofRoot root := by
  simp [ofRoot, trimSlashes_append_replicate]

/-! ## The chunks of topics -/

/-- The chunks of the root are followed by the device and the channel. -/
theorem chunks_key (space : TopicSpace) {device : String} (channel : Channel)
    (accepted : checkDeviceName device = .ok ()) :
    splitEvery '/' (space.key device channel).toList =
      splitEvery '/' space.root.toList ++ [device.toList, channel.name.toList] := by
  have parts : (space.key device channel).toList =
      (space.root.toList ++ '/' :: device.toList) ++ '/' :: channel.name.toList := by
    simp [key]
  rw [parts, splitEvery_append_cons, splitEvery_append_cons, chunks_deviceName accepted,
    channel.chunks_name, List.append_assoc]
  rfl

/-- The chunks of the root are followed by the two of the status. -/
theorem chunks_statusKey (space : TopicSpace) :
    splitEvery '/' space.statusKey.toList =
      splitEvery '/' space.root.toList ++ ["@".toList, "status".toList] := by
  have parts : space.statusKey.toList = space.root.toList ++ '/' :: "@/status".toList := by
    simp [statusKey]
  rw [parts, splitEvery_append_cons]
  rfl

section

variable {first second : TopicSpace} {device name : String} {channel branch : Channel}

/-- A topic names its root, its device and its channel. -/
theorem key_injective (accepted : checkDeviceName device = .ok ())
    (admitted : checkDeviceName name = .ok ())
    (same : first.key device channel = second.key name branch) :
    first.root = second.root ∧ device = name ∧ channel = branch := by
  have chunks := congrArg (splitEvery '/' ·.toList) same
  simp only [chunks_key, accepted, admitted] at chunks
  obtain ⟨roots, last⟩ := List.append_inj' chunks rfl
  simp only [List.cons.injEq, String.toList_inj, and_true] at last
  exact ⟨String.toList_inj.mp (splitEvery_injective roots), last.1, Channel.name_injective last.2⟩

/-- The topic of a document is never the topic of a status. -/
theorem key_ne_statusKey (accepted : checkDeviceName device = .ok ()) :
    first.key device channel ≠ second.statusKey := by
  intro same
  have chunks := congrArg (splitEvery '/' ·.toList) same
  simp only [chunks_key, accepted, chunks_statusKey] at chunks
  obtain ⟨-, last⟩ := List.append_inj' chunks rfl
  simp only [List.cons.injEq, String.toList_inj] at last
  exact deviceName_ne_at accepted last.1

end

/-- The four documents of a device and the status lie under five topics. -/
theorem nodup_topics (space : TopicSpace) {device : String}
    (accepted : checkDeviceName device = .ok ()) :
    (space.statusKey :: Channel.all.map (space.key device)).Nodup := by
  refine List.nodup_cons.mpr ⟨fun found => ?_, ?_⟩
  · obtain ⟨channel, -, same⟩ := List.mem_map.mp found
    exact key_ne_statusKey accepted same
  · refine List.Nodup.map_on (fun channel _ branch _ same => ?_) (by decide)
    exact (key_injective accepted accepted same).2.2

/-- **Topics fall apart into their chunks.**  Cut at its slashes, the topic of a
document is the chunks of the root without the slashes at its end, the device
and the channel.  Two topics are the same only if all three are, and none is the
topic of a status, below whichever root.  Slashes at the end of a root change
nothing.  So the documents of a device and the status never share a topic. -/
theorem topics_separate (root : String) {device : String} (channel : Channel)
    (accepted : checkDeviceName device = .ok ()) :
    (splitEvery '/' ((ofRoot root).key device channel).toList =
        splitEvery '/' (ofRoot root).root.toList ++ [device.toList, channel.name.toList]) ∧
      ((∃ count, root = (ofRoot root).root ++ String.ofList (List.replicate count '/')) ∧
        (ofRoot root).root.toList.getLast? ≠ some '/') ∧
      (∀ other name branch, checkDeviceName name = .ok () →
        (ofRoot root).key device channel = (ofRoot other).key name branch →
        (ofRoot root).root = (ofRoot other).root ∧ device = name ∧ channel = branch) ∧
      (∀ other, (ofRoot root).key device channel ≠ (ofRoot other).statusKey) ∧
      (∀ count, ofRoot (root ++ String.ofList (List.replicate count '/')) = ofRoot root) ∧
      ((ofRoot root).statusKey :: Channel.all.map ((ofRoot root).key device)).Nodup := by
  refine ⟨chunks_key _ channel accepted, ⟨?_, ?_⟩, ?_, ?_, ofRoot_append_slashes root,
    nodup_topics _ accepted⟩
  · obtain ⟨count, whole⟩ := trimSlashes_append root.toList
    exact ⟨count, String.toList_inj.mp (by simpa [ofRoot] using whole)⟩
  · simpa [ofRoot] using trimSlashes_getLast? root.toList
  · exact fun other name branch admitted same => key_injective accepted admitted same
  · exact fun other => key_ne_statusKey accepted

/-- A root with slashes inside and at its end, and a name of two words. -/
theorem topics_separate_garage :
    checkDeviceName "garage süd" = .ok () ∧
      splitEvery '/' ((ofRoot "home/roof//").key "garage süd" .values).toList =
        ["home".toList, "roof".toList, "garage süd".toList, "values".toList] := by
  have accepted : checkDeviceName "garage süd" = .ok () := by decide
  refine ⟨accepted, (topics_separate "home/roof//" .values accepted).1.trans ?_⟩
  decide

end TopicSpace

end InverterBridge
