/-
# ChmlFrp.Lib.Streak — the run at the end of a history, and two turns that alternate

* `streak_concat`: a new entry continues the run or ends it.
* `Alternates`: a list that takes `a` and `b` in turn; `alternates_concat_iff` says which
  entry comes next.
-/
import Mathlib.Data.List.Basic
import Mathlib.Tactic.Common

namespace ChmlFrp.Lib

set_option autoImplicit false

universe u

variable {α : Type u}

/-! ## Runs at the end -/

/-- How many entries in a row satisfy `p`, up to the last one. -/
def streak (p : α → Bool) (l : List α) : Nat := (l.reverse.takeWhile p).length

variable {p : α → Bool} {l : List α} {a : α}

@[simp] theorem streak_nil (p : α → Bool) : streak p [] = 0 := rfl

theorem streak_concat (p : α → Bool) (l : List α) (a : α) :
    streak p (l ++ [a]) = if p a then streak p l + 1 else 0 := by
  unfold streak
  rw [List.reverse_append, List.reverse_singleton, List.singleton_append, List.takeWhile_cons]
  split <;> rfl

theorem streak_concat_of_pos (more : p a = true) : streak p (l ++ [a]) = streak p l + 1 := by
  rw [streak_concat, if_pos more]

theorem streak_concat_of_neg (ends : p a = false) : streak p (l ++ [a]) = 0 := by
  rw [streak_concat, ends]
  rfl

/-! ## Taking turns -/

/-- The entries are `a`, `b`, `a`, `b` and so on. -/
def Alternates (a b : α) : List α → Prop
  | [] => True
  | x :: rest => x = a ∧ Alternates b a rest

instance decidableAlternates [DecidableEq α] :
    ∀ (a b : α) (l : List α), Decidable (Alternates a b l)
  | _, _, [] => isTrue trivial
  | a, b, x :: rest =>
      have : Decidable (Alternates b a rest) := decidableAlternates b a rest
      inferInstanceAs (Decidable (x = a ∧ Alternates b a rest))

/-- Whose turn it is after these entries. -/
def turn (a b : α) : List α → α
  | [] => a
  | _ :: rest => turn b a rest

theorem turn_concat (a b x : α) (l : List α) : turn a b (l ++ [x]) = turn b a l := by
  induction l generalizing a b with
  | nil => rfl
  | cons y rest ih => exact ih b a

theorem turn_swap (a b : α) (l : List α) :
    turn a b l = a ∧ turn b a l = b ∨ turn a b l = b ∧ turn b a l = a := by
  induction l generalizing a b with
  | nil => exact .inl ⟨rfl, rfl⟩
  | cons _ rest ih => exact (ih b a).symm

/-- The turn passes to the other one. -/
theorem turn_concat_self {a b : α} (differ : a ≠ b) {l : List α} :
    (turn a b l = a → turn a b (l ++ [a]) = b) ∧ (turn a b l = b → turn a b (l ++ [b]) = a) := by
  simp only [turn_concat]
  rcases turn_swap a b l with ⟨first, second⟩ | ⟨first, second⟩
  · exact ⟨fun _ => second, fun same => absurd (first.symm.trans same) differ⟩
  · exact ⟨fun same => absurd (same.symm.trans first) differ, fun _ => second⟩

theorem alternates_concat_iff {a b x : α} {l : List α} :
    Alternates a b (l ++ [x]) ↔ Alternates a b l ∧ x = turn a b l := by
  induction l generalizing a b with
  | nil => simp [Alternates, turn]
  | cons y rest ih =>
      rw [List.cons_append, Alternates, Alternates, turn, ih, and_assoc]

end ChmlFrp.Lib
