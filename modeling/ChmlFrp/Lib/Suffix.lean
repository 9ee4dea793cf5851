/-
# ChmlFrp.Lib.Suffix — reading a concatenation from its end

Words that are written one behind the other without a separator are read back from the
end: a word of a suffix-free family tells itself from what stands before it, and a word
over an alphabet ends at the last letter that is not of the alphabet.

* `SuffixFree.split`, `last_mark`: the two ways to split off the last word.
-/
import Mathlib.Data.List.Basic
import Mathlib.Data.List.Infix

namespace ChmlFrp.Lib

set_option autoImplicit false

universe u v

variable {α : Type u} {ι : Type v}

/-- No word of the family ends another one. -/
def SuffixFree (word : ι → List α) : Prop := ∀ i j, word i <:+ word j → i = j

theorem SuffixFree.split {word : ι → List α} (free : SuffixFree word) {x y : List α} {i j : ι}
    (same : x ++ word i = y ++ word j) : x = y ∧ i = j := by
  have ends : i = j := by
    rcases List.suffix_or_suffix_of_suffix (List.suffix_append x (word i))
        (same ▸ List.suffix_append y (word j)) with short | long
    · exact free i j short
    · exact (free j i long).symm
  rw [ends] at same
  exact ⟨List.append_cancel_right same, ends⟩

/-- The last letter outside of an alphabet splits a word off. -/
theorem last_mark {p : α → Prop} {x y s t : List α} {m n : α} (marks : ¬ p m) (marks' : ¬ p n)
    (all : ∀ a ∈ s, p a) (all' : ∀ a ∈ t, p a) (same : x ++ m :: s = y ++ n :: t) :
    x = y ∧ m = n ∧ s = t := by
  rcases List.append_eq_append_iff.1 same with ⟨gap, rfl, rest⟩ | ⟨gap, rfl, rest⟩
  · cases gap with
    | nil =>
        obtain ⟨rfl, rfl⟩ := List.cons.inj rest
        exact ⟨by simp, rfl, rfl⟩
    | cons a gap =>
        have inside : n ∈ s := by
          rw [(List.cons.inj rest).2]
          exact List.mem_append_right gap List.mem_cons_self
        exact absurd (all n inside) marks'
  · cases gap with
    | nil =>
        obtain ⟨rfl, rfl⟩ := List.cons.inj rest
        exact ⟨by simp, rfl, rfl⟩
    | cons a gap =>
        have inside : m ∈ t := by
          rw [(List.cons.inj rest).2]
          exact List.mem_append_right gap List.mem_cons_self
        exact absurd (all' m inside) marks

end ChmlFrp.Lib
