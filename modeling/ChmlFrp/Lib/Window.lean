/-
# ChmlFrp.Lib.Window — an array that slides over a sequence

The newest entry is at index 0.  Sliding by `d` makes room for `d` new entries, and the
oldest ones fall out.

* `slide_eq_slide_iff`: two moves leave the same iff they move the newest entry that is not
  zero to one place, or both out of the array.
-/
import Mathlib.Algebra.Notation.Defs
import Mathlib.Data.Nat.Find
import Mathlib.Order.Fin.Basic
import Mathlib.Tactic.Common

namespace ChmlFrp.Lib

set_option autoImplicit false

universe u

variable {α : Type u} [Zero α] {n : Nat}

def slide (d : Nat) (w : Fin n → α) : Fin n → α :=
  fun i => if d ≤ i.val then w ⟨i.val - d, by omega⟩ else 0

theorem slide_of_lt {d : Nat} (w : Fin n → α) {i : Fin n} (new : i.val < d) : slide d w i = 0 :=
  if_neg (Nat.not_le_of_lt new)

theorem slide_of_eq {d : Nat} (w : Fin n → α) {i j : Fin n} (same : i.val = j.val + d) :
    slide d w i = w j := by
  unfold slide
  rw [if_pos (by omega)]
  congr 1
  ext
  show i.val - d = j.val
  omega

@[simp] theorem slide_zero (w : Fin n → α) : slide 0 w = w := by
  funext i
  exact slide_of_eq w rfl

/-- A long move leaves nothing. -/
theorem slide_of_le {d : Nat} (w : Fin n → α) (long : n ≤ d) : slide d w = fun _ => 0 := by
  funext i
  exact slide_of_lt w (by omega)

@[simp] theorem slide_const_zero (d : Nat) : slide d (fun _ : Fin n => (0 : α)) = fun _ => 0 := by
  funext i
  unfold slide
  split <;> rfl

/-- The newest entry that is not zero. -/
structure Newest (w : Fin n → α) (j : Fin n) : Prop where
  ne_zero : w j ≠ 0
  before : ∀ i < j, w i = 0

theorem exists_newest {w : Fin n → α} (some_ : w ≠ fun _ => 0) :
    ∃ j, Newest w j := by
  have found : ∃ k, ∃ within : k < n, w ⟨k, within⟩ ≠ 0 := by
    obtain ⟨i, differs⟩ := Function.ne_iff.1 some_
    exact ⟨i.val, i.isLt, differs⟩
  classical
  obtain ⟨within, differs⟩ := Nat.find_spec found
  refine ⟨⟨Nat.find found, within⟩, differs, ?_⟩
  intro i earlier
  by_contra nonzero
  exact Nat.find_min found earlier ⟨i.isLt, nonzero⟩

/-- Where the newest entry is after a move. -/
theorem Newest.slide {w : Fin n → α} {j : Fin n} (newest : Newest w j) {d : Nat} {i : Fin n}
    (moved : i.val = j.val + d) : Newest (slide d w) i := by
  constructor
  · rw [slide_of_eq w moved]
    exact newest.ne_zero
  · intro k earlier
    have earlier' : k.val < i.val := earlier
    by_cases short : d ≤ k.val
    · have back : k.val = (⟨k.val - d, by omega⟩ : Fin n).val + d := by
        show k.val = k.val - d + d
        omega
      rw [slide_of_eq w back]
      apply newest.before
      show k.val - d < j.val
      omega
    · exact slide_of_lt w (by omega)

theorem Newest.unique {w : Fin n → α} {i j : Fin n} (first : Newest w i) (second : Newest w j) :
    i = j := by
  rcases lt_trichotomy i j with less | same | more
  · exact absurd (second.before i less) first.ne_zero
  · exact same
  · exact absurd (first.before j more) second.ne_zero

/-- Out of the array once the newest entry is. -/
theorem Newest.slide_eq_zero {w : Fin n → α} {j : Fin n} (newest : Newest w j) {d : Nat}
    (out : n ≤ j.val + d) : Lib.slide d w = fun _ => 0 := by
  funext i
  by_cases short : d ≤ i.val
  · have back : i.val = (⟨i.val - d, by omega⟩ : Fin n).val + d := by
      show i.val = i.val - d + d
      omega
    rw [slide_of_eq w back]
    apply newest.before
    show i.val - d < j.val
    omega
  · exact slide_of_lt w (by omega)

theorem slide_eq_slide_iff {w : Fin n → α} {j : Fin n} (newest : Newest w j) {d e : Nat} :
    slide d w = slide e w ↔ d = e ∨ n ≤ j.val + d ∧ n ≤ j.val + e := by
  constructor
  · intro same
    by_cases inD : j.val + d < n
    · have atD : Newest (slide e w) ⟨j.val + d, inD⟩ := same ▸ newest.slide rfl
      by_cases inE : j.val + e < n
      · have atE : Newest (slide e w) ⟨j.val + e, inE⟩ := newest.slide rfl
        have equal : j.val + d = j.val + e := congrArg Fin.val (atD.unique atE)
        exact .inl (by omega)
      · have zero := newest.slide_eq_zero (d := e) (by omega)
        rw [zero] at atD
        exact absurd rfl atD.ne_zero
    · by_cases inE : j.val + e < n
      · have atE : Newest (slide e w) ⟨j.val + e, inE⟩ := newest.slide rfl
        rw [← same, newest.slide_eq_zero (by omega)] at atE
        exact absurd rfl atE.ne_zero
      · exact .inr ⟨by omega, by omega⟩
  · rintro (rfl | ⟨outD, outE⟩)
    · rfl
    · rw [newest.slide_eq_zero outD, newest.slide_eq_zero outE]

end ChmlFrp.Lib
