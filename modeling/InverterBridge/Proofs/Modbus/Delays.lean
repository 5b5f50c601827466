import InverterBridge.Modbus.Backoff
import Mathlib.Algebra.Ring.Nat
import Mathlib.Data.List.Induction
import Mathlib.Order.Monotone.Defs

/-!
# The delays of a schedule

`Backoff.after` is the schedule after a number of delays in a row.  It has a closed
form: the delays begin with the minimum and, where asked for, double up to the
maximum (`Backoff.next?_after`).  A schedule ends where a delay cannot be doubled in
64 bits, so one whose maximum is below 2⁶³ seconds never ends.

A call for a delay that cannot be doubled breaks down and leaves the schedule as it is.
`Backoff.Reaches` is the invariant of all calls behind `Backoff.delays_between_resets`: since the
last reset every call has been answered, or those of the end have broken down.
-/

namespace InverterBridge

namespace ReconnectConfig

/-- The longest delay, in seconds. -/
def longest (config : ReconnectConfig) : Nat :=
  max config.maxSeconds.toNat config.minSeconds.toNat

/-- The delay after a number of delays in a row, in seconds. -/
def delay (config : ReconnectConfig) (earlier : Nat) : Nat :=
  if config.exponential then min config.longest (config.minSeconds.toNat * 2 ^ earlier)
  else config.minSeconds.toNat

/-- The delays may grow until they cannot be doubled. -/
def Exhausts (config : ReconnectConfig) : Prop :=
  config.exponential = true ∧ 2 ^ 63 ≤ config.longest

theorem delay_zero (config : ReconnectConfig) : config.delay 0 = config.minSeconds.toNat := by
  unfold delay longest
  split <;> omega

/-- A delay is twice the one before, up to the maximum. -/
theorem delay_succ {config : ReconnectConfig} (exponential : config.exponential = true)
    (earlier : Nat) :
    config.delay (earlier + 1) = min (config.delay earlier * 2) config.longest := by
  simp only [delay, exponential, if_true, Nat.pow_succ, ← Nat.mul_assoc]
  omega

theorem delay_le_longest (config : ReconnectConfig) (earlier : Nat) :
    config.delay earlier ≤ config.longest := by
  unfold delay longest
  split <;> omega

/-- The delays never decrease. -/
theorem delay_mono (config : ReconnectConfig) : Monotone config.delay := by
  intro first second le
  have powers : 2 ^ first ≤ 2 ^ second := Nat.pow_le_pow_right (by decide) le
  have doubled := Nat.mul_le_mul_left config.minSeconds.toNat powers
  unfold delay
  split <;> omega

theorem least_le_delay (config : ReconnectConfig) (earlier : Nat) :
    config.minSeconds.toNat ≤ config.delay earlier :=
  config.delay_zero ▸ config.delay_mono (Nat.zero_le earlier)

end ReconnectConfig

namespace Backoff

/-- The schedule after a number of delays in a row. -/
def after (config : ReconnectConfig) (earlier : Nat) : Backoff :=
  { ofConfig config with current := config.delay earlier }

@[simp]
theorem after_zero (config : ReconnectConfig) : after config 0 = ofConfig config := by
  simp [after, ReconnectConfig.delay_zero, ofConfig]

@[simp]
theorem reset_after (config : ReconnectConfig) (earlier : Nat) :
    (after config earlier).reset = ofConfig config :=
  rfl

/-- The next delay of a schedule, if it can be doubled or need not be. -/
theorem next?_after (config : ReconnectConfig) (earlier : Nat) :
    (after config earlier).next? =
      if config.exponential = true ∧ secondsBound ≤ config.delay earlier * 2 then none
      else some (config.delay earlier, after config (earlier + 1)) := by
  cases exponential : config.exponential with
  | false =>
      have constant (number : Nat) : config.delay number = config.minSeconds.toNat := by
        simp [ReconnectConfig.delay, exponential]
      simp [next?, after, ofConfig, exponential, constant]
  | true =>
      by_cases exhausted : secondsBound ≤ config.delay earlier * 2
      · simp [next?, after, ofConfig, exponential, exhausted, Nat.not_lt.mpr exhausted]
      · simp [next?, after, ofConfig, exponential, exhausted, Nat.not_le.mp exhausted,
          ReconnectConfig.delay_succ exponential, ReconnectConfig.longest]

/-- A schedule goes on with its next delay. -/
theorem eq_of_next?_after {config : ReconnectConfig} {earlier seconds : Nat} {backoff : Backoff}
    (next : (after config earlier).next? = some (seconds, backoff)) :
    seconds = config.delay earlier ∧ backoff = after config (earlier + 1) := by
  rw [next?_after] at next
  split at next
  · contradiction
  · cases next
    exact ⟨rfl, rfl⟩

/-- Only a schedule with a long maximum ends. -/
theorem exhausts_of_next?_after {config : ReconnectConfig} {earlier : Nat}
    (last : (after config earlier).next? = none) : config.Exhausts := by
  rw [next?_after] at last
  split at last
  next exhausted =>
    have bound := config.delay_le_longest earlier
    have half : secondsBound = 2 ^ 63 * 2 := rfl
    exact ⟨exhausted.1, by omega⟩
  next => contradiction

/-! ## Calls in any order -/

/-- A call of a schedule. -/
inductive Call where
  /-- Ask for the delay before the next attempt. -/
  | next
  | reset
  deriving DecidableEq, Repr

/-- The delay that a schedule gives when it is asked, none if the call breaks down. -/
def delay? (backoff : Backoff) : Option Nat :=
  backoff.next?.map Prod.fst

/-- The schedule after a call; a call that breaks down changes nothing. -/
def call (backoff : Backoff) : Call → Backoff
  | .next => (backoff.next?.map Prod.snd).getD backoff
  | .reset => backoff.reset

/-- Make calls in order. -/
def callAll (backoff : Backoff) (calls : List Call) : Backoff :=
  calls.foldl call backoff

/-- How often the next delay has been asked for since the last reset, or since the start. -/
def asked (calls : List Call) : Nat :=
  calls.foldl
    (fun count call =>
      match call with
      | .next => count + 1
      | .reset => 0)
    0

@[simp]
theorem asked_concat_next (calls : List Call) : asked (calls ++ [.next]) = asked calls + 1 := by
  simp [asked, List.foldl_append]

@[simp]
theorem asked_concat_reset (calls : List Call) : asked (calls ++ [.reset]) = 0 := by
  simp [asked, List.foldl_append]

theorem callAll_concat (backoff : Backoff) (calls : List Call) (last : Call) :
    backoff.callAll (calls ++ [last]) = (backoff.callAll calls).call last := by
  simp [callAll, List.foldl_append]

/-- Calls without a reset only add to what has been asked for. -/
theorem asked_append {more : List Call} (calls : List Call) (kept : .reset ∉ more) :
    asked (calls ++ more) = asked calls + more.length := by
  induction more generalizing calls with
  | nil => simp
  | cons first more ih =>
      have rest : .reset ∉ more := fun mem => kept (List.mem_cons_of_mem _ mem)
      cases first with
      | reset => exact absurd List.mem_cons_self kept
      | next =>
          rw [List.append_cons, ih _ rest, asked_concat_next, List.length_cons]
          omega

/-- A schedule after `number` calls for a delay: it has answered all of them, or it has broken
down at the last ones. -/
structure Reaches (config : ReconnectConfig) (number answered : Nat) (backoff : Backoff) :
    Prop where
  eq_after : backoff = after config answered
  answered_le : answered ≤ number
  broken_of_lt : answered < number → backoff.next? = none

theorem reaches_ofConfig (config : ReconnectConfig) : Reaches config 0 0 (ofConfig config) :=
  ⟨(after_zero config).symm, Nat.le_refl 0, fun less => absurd less (Nat.lt_irrefl 0)⟩

variable {config : ReconnectConfig} {number answered delay : Nat} {backoff : Backoff}

theorem Reaches.reset (reaches : Reaches config number answered backoff) :
    Reaches config 0 0 backoff.reset := by
  rw [reaches.eq_after, reset_after]
  exact reaches_ofConfig config

theorem Reaches.next (reaches : Reaches config number answered backoff) :
    ∃ answered, Reaches config (number + 1) answered (backoff.call .next) := by
  cases next : backoff.next? with
  | none =>
      have stays : backoff.call .next = backoff := by simp [call, next]
      rw [stays]
      exact ⟨answered, reaches.eq_after, Nat.le_succ_of_le reaches.answered_le, fun _ => next⟩
  | some given =>
      have all : answered = number := by
        by_contra other
        have less := Nat.lt_of_le_of_ne reaches.answered_le other
        exact absurd (reaches.broken_of_lt less) (by simp [next])
      have moves : backoff.call .next = given.2 := by simp [call, next]
      rw [reaches.eq_after] at next
      rw [moves]
      refine ⟨answered + 1, (eq_of_next?_after next).2, by omega, ?_⟩
      intro less
      omega

/-- Whatever is called, the schedule is where the calls since the last reset have brought it. -/
theorem reaches_callAll (config : ReconnectConfig) (calls : List Call) :
    ∃ answered, Reaches config (asked calls) answered ((ofConfig config).callAll calls) := by
  induction calls using List.reverseRecOn with
  | nil => exact ⟨0, reaches_ofConfig config⟩
  | append_singleton calls last ih =>
      obtain ⟨answered, reaches⟩ := ih
      rw [callAll_concat]
      cases last with
      | next =>
          rw [asked_concat_next]
          exact reaches.next
      | reset =>
          rw [asked_concat_reset]
          exact ⟨0, reaches.reset⟩

/-- The delay that is given is the one that is due after the calls before. -/
theorem Reaches.delay_eq (reaches : Reaches config number answered backoff)
    (given : backoff.delay? = some delay) : delay = config.delay number := by
  obtain ⟨⟨seconds, next⟩, answer, rfl⟩ := Option.map_eq_some_iff.mp given
  have all : ¬ answered < number := fun less => by
    simp [reaches.broken_of_lt less] at answer
  have same : answered = number := by
    have le := reaches.answered_le
    omega
  rw [reaches.eq_after] at answer
  exact same ▸ (eq_of_next?_after answer).1

theorem Reaches.delay?_eq_none_iff (reaches : Reaches config number answered backoff) :
    backoff.delay? = none ↔ config.exponential = true ∧ 2 ^ 63 ≤ backoff.current := by
  have current : (after config answered).current = config.delay answered := rfl
  have bound : secondsBound = 2 ^ 63 * 2 := rfl
  have half : secondsBound ≤ config.delay answered * 2 ↔ 2 ^ 63 ≤ config.delay answered := by
    omega
  rw [delay?, Option.map_eq_none_iff, reaches.eq_after, next?_after, current, ← half]
  simp

/-- After any calls the delay of a schedule lies between the minimum and the maximum, the maximum
being the minimum at least.  The `n`-th delay since the last reset is the minimum, doubled `n - 1`
times up to the maximum where that is asked for, so the delays do not decrease.  A call breaks down
exactly when the delay is to be doubled and has 2⁶³ seconds or more, and with a maximum below that
no call does. -/
theorem delays_between_resets (config : ReconnectConfig) (calls : List Call) :
    let backoff := (ofConfig config).callAll calls
    let least := config.minSeconds.toNat
    let longest := max config.maxSeconds.toNat least
    (least ≤ backoff.current ∧ backoff.current ≤ longest) ∧
    (∀ delay, backoff.delay? = some delay →
      delay = if config.exponential then min longest (least * 2 ^ asked calls) else least) ∧
    (∀ more : List Call, .reset ∉ more → ∀ delay later,
      backoff.delay? = some delay → (backoff.callAll more).delay? = some later →
        delay ≤ later) ∧
    (backoff.delay? = none ↔ config.exponential = true ∧ 2 ^ 63 ≤ backoff.current) ∧
    (longest < 2 ^ 63 → backoff.delay? ≠ none) := by
  intro backoff least longest
  obtain ⟨answered, reaches⟩ := reaches_callAll config calls
  have current : backoff.current = config.delay answered := congrArg current reaches.eq_after
  have between : least ≤ backoff.current ∧ backoff.current ≤ longest :=
    current ▸ ⟨config.least_le_delay answered, config.delay_le_longest answered⟩
  refine ⟨between, fun delay given => reaches.delay_eq given, ?_, reaches.delay?_eq_none_iff, ?_⟩
  · intro more kept delay later given then_given
    obtain ⟨_, reachesLater⟩ := reaches_callAll config (calls ++ more)
    rw [asked_append calls kept, callAll, List.foldl_append] at reachesLater
    rw [reaches.delay_eq given, reachesLater.delay_eq then_given]
    exact config.delay_mono (Nat.le_add_right _ _)
  · intro short broken
    have long : 2 ^ 63 ≤ backoff.current := (reaches.delay?_eq_none_iff.mp broken).2
    exact absurd (long.trans between.2) (Nat.not_le.mpr short)

/-- Delays from one second on that double up to five seconds: the fourth one is the first that is
cut. -/
theorem fourth_delay_is_cut :
    ((ofConfig ⟨1, 5, true⟩).callAll [.next, .next, .next]).delay? = some 5 := by
  obtain ⟨-, form, -, -, unbroken⟩ := delays_between_resets ⟨1, 5, true⟩ [.next, .next, .next]
  obtain ⟨delay, given⟩ := Option.ne_none_iff_exists'.mp (unbroken (by decide))
  rw [given, form delay given]
  decide

end Backoff

end InverterBridge
