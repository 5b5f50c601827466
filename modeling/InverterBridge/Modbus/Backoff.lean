import InverterBridge.Config.Device

/-!
# Delays between attempts

The delay before the next attempt to reach a device starts at a minimum and,
where asked for, doubles after each attempt up to a maximum.  Delays are whole
seconds of 64 bits; the doubling comes before the maximum is applied, so a
delay that cannot be doubled has no successor.
-/

namespace InverterBridge

/-- A schedule of delays, in seconds. -/
structure Backoff where
  least : Nat
  most : Nat
  exponential : Bool
  current : Nat
  deriving DecidableEq, Repr

namespace Backoff

/-- The seconds beyond the range of a delay. -/
def secondsBound : Nat := UInt64.size

/-- The schedule of a configuration; its maximum is not below its minimum. -/
def ofConfig (config : ReconnectConfig) : Backoff where
  least := config.minSeconds.toNat
  most := max config.maxSeconds.toNat config.minSeconds.toNat
  exponential := config.exponential
  current := config.minSeconds.toNat

/-- The delay before the next attempt and the schedule after it, none where the
delay cannot be doubled. -/
def next? (backoff : Backoff) : Option (Nat × Backoff) :=
  if backoff.exponential then
    if backoff.current * 2 < secondsBound then
      some (backoff.current,
        { backoff with current := min (backoff.current * 2) backoff.most })
    else none
  else some (backoff.current, backoff)

/-- Start over from the minimum. -/
def reset (backoff : Backoff) : Backoff :=
  { backoff with current := backoff.least }

end Backoff

end InverterBridge
