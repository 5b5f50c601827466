/-!
# Signals

A signal is a truth value with one source that any number of tasks watch.  A
task knows how many announcements it has seen, so an announcement that repeats
the value is news as well.  When the source is gone the last value stays.
-/

namespace InverterBridge

/-- A watched truth value: the value, the number of announcements so far, and
whether the source is still there. -/
structure Signal where
  value : Bool
  changes : Nat
  live : Bool
  deriving DecidableEq, Repr

namespace Signal

/-- A signal before its first announcement. -/
def ofValue (value : Bool) : Signal :=
  ⟨value, 0, true⟩

/-- Announce a value; a source that is gone announces nothing. -/
def announce (signal : Signal) (value : Bool) : Signal :=
  if signal.live then { signal with value := value, changes := signal.changes + 1 } else signal

/-- Lose the source. -/
def close (signal : Signal) : Signal :=
  { signal with live := false }

/-- Whether a task that waits for the value `true` goes on: the value is
there, or can no longer come. -/
def released (signal : Signal) : Bool :=
  signal.value || !signal.live

@[simp]
theorem value_close (signal : Signal) : signal.close.value = signal.value :=
  rfl

@[simp]
theorem released_close (signal : Signal) : signal.close.released = true := by
  simp [released, close]

theorem released_of_value {signal : Signal} (value : signal.value = true) :
    signal.released = true := by
  simp [released, value]

end Signal

end InverterBridge
