/-!
# Sorted ranges of code points

A property of characters is stored as an array of closed ranges in ascending
order.  Membership is a binary search, so a table of many ranges costs a few
comparisons a character.
-/

namespace InverterBridge

/-- A property of characters, as closed ranges of code points in ascending order. -/
structure CodeRanges where
  ranges : Array (Nat × Nat)

namespace CodeRanges

/-- Whether one of the ranges from `low` to below `high` holds the code point;
the search halves `width`, an upper bound of `high - low`, at each step. -/
def search (table : CodeRanges) (code : Nat) : Nat → Nat → Nat → Bool
  | 0, _, _ => false
  | width + 1, low, high =>
      if low < high then
        let middle := (low + high) / 2
        match table.ranges[middle]? with
        | none => false
        | some (first, last) =>
            if code < first then table.search code width low middle
            else if last < code then table.search code width (middle + 1) high
            else true
      else
        false

/-- Whether the property holds of a character. -/
def has (table : CodeRanges) (character : Char) : Bool :=
  table.search character.toNat (table.ranges.size + 1) 0 table.ranges.size

end CodeRanges

end InverterBridge
