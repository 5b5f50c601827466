import InverterBridge.Number.Decimal

/-!
# Durations

Delays and time limits are durations in nanoseconds.  A duration is shown in
the largest unit in which it is at least one, with the digits of the fraction
that are needed.
-/

namespace InverterBridge

/-- A length of time. -/
structure Duration where
  nanoseconds : Nat
  deriving DecidableEq, Repr

namespace Duration

/-- A number of whole seconds. -/
def ofSeconds (seconds : Nat) : Duration :=
  ⟨seconds * 1000000000⟩

/-- A number of whole milliseconds. -/
def ofMilliseconds (milliseconds : Nat) : Duration :=
  ⟨milliseconds * 1000000⟩

/-- The whole seconds of a duration. -/
def seconds (duration : Duration) : Nat :=
  duration.nanoseconds / 1000000000

/-- The whole milliseconds of a duration. -/
def milliseconds (duration : Duration) : Nat :=
  duration.nanoseconds / 1000000

/-- The last `places` digits of a number, without trailing zeros. -/
def fractionDigits (places remainder : Nat) : List Char :=
  let digits := Nat.toDigits 10 remainder
  let padded := List.replicate (places - digits.length) '0' ++ digits
  (padded.reverse.dropWhile (· == '0')).reverse

/-- A number of nanoseconds in a unit of `10^places` nanoseconds. -/
def inUnit (nanoseconds places : Nat) (suffix : String) : String :=
  let whole := nanoseconds / Nat.pow 10 places
  let remainder := nanoseconds % Nat.pow 10 places
  let fraction :=
    if remainder = 0 then "" else String.ofList ('.' :: fractionDigits places remainder)
  natText whole ++ fraction ++ suffix

/-- The duration in words. -/
def text (duration : Duration) : String :=
  if 1000000000 ≤ duration.nanoseconds then inUnit duration.nanoseconds 9 "s"
  else if 1000000 ≤ duration.nanoseconds then inUnit duration.nanoseconds 6 "ms"
  else if 1000 ≤ duration.nanoseconds then inUnit duration.nanoseconds 3 "µs"
  else inUnit duration.nanoseconds 0 "ns"

end Duration

end InverterBridge
