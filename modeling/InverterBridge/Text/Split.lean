/-!
# Splitting text

Text is split at the first occurrence of a character, or at every one.
-/

namespace InverterBridge

/-- Split a text at the first occurrence of a character. -/
def splitAtFirst? (mark : Char) (text : List Char) : Option (List Char × List Char) :=
  match text.dropWhile (· != mark) with
  | [] => none
  | _ :: rest => some (text.takeWhile (· != mark), rest)

/-- The pieces between the occurrences of a character. -/
def splitEvery (mark : Char) (text : List Char) : List (List Char) :=
  text.foldr
    (fun character pieces =>
      if character = mark then [] :: pieces
      else
        match pieces with
        | [] => [[character]]
        | piece :: rest => (character :: piece) :: rest)
    [[]]

@[simp]
theorem splitEvery_nil (mark : Char) : splitEvery mark [] = [[]] :=
  rfl

theorem splitEvery_ne_nil (mark : Char) (text : List Char) : splitEvery mark text ≠ [] := by
  cases text with
  | nil => simp
  | cons character rest =>
      simp only [splitEvery, List.foldr_cons]
      split
      · simp
      · split <;> simp

theorem splitEvery_cons_self (mark : Char) (text : List Char) :
    splitEvery mark (mark :: text) = [] :: splitEvery mark text := by
  simp [splitEvery]

theorem splitEvery_cons_of_ne {mark character : Char} (differs : character ≠ mark)
    (text : List Char) :
    splitEvery mark (character :: text) =
      (splitEvery mark text).modifyHead (character :: ·) := by
  rw [splitEvery, List.foldr_cons, if_neg differs, ← splitEvery]
  split
  · exact absurd ‹_› (splitEvery_ne_nil mark text)
  · simp [*]

/-- A text without the mark is a single piece. -/
theorem splitEvery_of_not_mem {mark : Char} {text : List Char} (absent : mark ∉ text) :
    splitEvery mark text = [text] := by
  induction text with
  | nil => rfl
  | cons character rest ih =>
      obtain ⟨differs, absent⟩ := not_or.mp (mt List.mem_cons.mpr absent)
      rw [splitEvery_cons_of_ne (Ne.symm differs), ih absent, List.modifyHead_cons]

/-- The pieces before a mark are followed by the pieces after it. -/
theorem splitEvery_append_cons (mark : Char) (text rest : List Char) :
    splitEvery mark (text ++ mark :: rest) = splitEvery mark text ++ splitEvery mark rest := by
  induction text with
  | nil => exact splitEvery_cons_self mark rest
  | cons character text ih =>
      by_cases same : character = mark
      · subst same
        rw [List.cons_append, splitEvery_cons_self, splitEvery_cons_self, ih, List.cons_append]
      · rw [List.cons_append, splitEvery_cons_of_ne same, splitEvery_cons_of_ne same, ih]
        obtain ⟨piece, pieces, split⟩ := List.exists_cons_of_ne_nil (splitEvery_ne_nil mark text)
        simp [split]

/-- The pieces joined by the mark are the text. -/
theorem intercalate_splitEvery (mark : Char) (text : List Char) :
    [mark].intercalate (splitEvery mark text) = text := by
  induction text with
  | nil => rfl
  | cons character rest ih =>
      obtain ⟨piece, pieces, split⟩ := List.exists_cons_of_ne_nil (splitEvery_ne_nil mark rest)
      rw [split] at ih
      by_cases same : character = mark
      · subst same
        rw [splitEvery_cons_self, split, List.intercalate_cons_cons, ih]
        rfl
      · rw [splitEvery_cons_of_ne same, split, List.modifyHead_cons]
        cases pieces with
        | nil => simpa using ih
        | cons next pieces => simpa [List.intercalate_cons_cons] using ih

/-- Texts with the same pieces are the same text. -/
theorem splitEvery_injective {mark : Char} {first second : List Char}
    (same : splitEvery mark first = splitEvery mark second) : first = second := by
  rw [← intercalate_splitEvery mark first, same, intercalate_splitEvery]

end InverterBridge
