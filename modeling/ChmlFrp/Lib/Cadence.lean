/-
# ChmlFrp.Lib.Cadence — events that follow each other within a gap

The times of a list of events, the earliest first, each at most a gap later than the one
before it; the first is compared with a time that is given.  `next` is when a ticker fires
again: a tick that nobody has taken in time is dropped, as by Go's `time.Ticker`.
-/
import Mathlib.Data.List.Basic
import Mathlib.Tactic.Common

namespace ChmlFrp.Lib.Cadence

set_option autoImplicit false

/-- No event is later than the one before it by more than the gap. -/
def Steady (gap : Nat) : Nat → List Nat → Prop
  | _, [] => True
  | a, b :: later => b ≤ a + gap ∧ Steady gap b later

variable {gap a b : Nat} {l : List Nat}

theorem steady_concat : Steady gap a (l ++ [b]) ↔ Steady gap a l ∧ b ≤ l.getLastD a + gap := by
  induction l generalizing a with
  | nil => simp [Steady]
  | cons c l ih =>
      rw [List.cons_append, Steady, Steady, ih, List.getLastD_cons, and_assoc]

theorem Steady.later (steady : Steady gap a l) (le : a ≤ b) : Steady gap b l := by
  cases l with
  | nil => trivial
  | cons c l => exact ⟨Nat.le_trans steady.1 (Nat.add_le_add_right le gap), steady.2⟩

/-- When a ticker fires after the tick that was due has been taken. -/
def next (period due now : Nat) : Nat := due + period * ((now - due) / period + 1)

theorem le_next (period due now : Nat) : due ≤ next period due now := Nat.le_add_right ..

theorem now_lt_next {period due now : Nat} (pos : 0 < period) : now < next period due now := by
  have split := Nat.div_add_mod (now - due) period
  have less := Nat.mod_lt (now - due) pos
  unfold next
  rw [Nat.mul_add]
  omega

theorem next_le {period due now : Nat} (passed : due ≤ now) :
    next period due now ≤ now + period := by
  have split := Nat.div_add_mod (now - due) period
  unfold next
  rw [Nat.mul_add]
  omega

end ChmlFrp.Lib.Cadence
