/-
# ChmlFrp.Lib.Vary — whether a measure varies over a list, and by how much

Order-free readings of what one pass over a list finds out by comparing each entry with
the first one: that some entries differ, and the distance of the extremes.

* `varies_cons_iff`: it is enough to compare with the first entry.
* `Varies.perm_iff`, `Spread.perm_iff`: the order does not matter.
-/
import Mathlib.Data.List.Basic
import Mathlib.Data.List.Perm.Basic
import Mathlib.Algebra.Group.Int.Defs
import Mathlib.Tactic.Common

namespace ChmlFrp.Lib

set_option autoImplicit false

universe u v

variable {α : Type u} {β : Type v}

/-- Two entries differ. -/
def Varies (f : α → β) (l : List α) : Prop := ∃ a ∈ l, ∃ b ∈ l, f a ≠ f b

/-- `d` is the largest value less the smallest. -/
def Spread (f : α → Int) (l : List α) (d : Int) : Prop :=
  ∃ most ∈ l, ∃ least ∈ l, (∀ a ∈ l, f least ≤ f a ∧ f a ≤ f most) ∧ d = f most - f least

instance [DecidableEq β] (f : α → β) (l : List α) : Decidable (Varies f l) :=
  inferInstanceAs (Decidable (∃ a ∈ l, ∃ b ∈ l, f a ≠ f b))

variable {f : α → β} {l t : List α}

theorem varies_cons_iff {a : α} : Varies f (a :: l) ↔ ∃ b ∈ l, f b ≠ f a := by
  constructor
  · rintro ⟨b, inB, c, inC, differ⟩
    by_cases first : f b = f a
    · rcases List.mem_cons.1 inC with rfl | inC
      · exact absurd first differ
      · exact ⟨c, inC, fun same => differ (first.trans same.symm)⟩
    · rcases List.mem_cons.1 inB with rfl | inB
      · exact absurd rfl first
      · exact ⟨b, inB, first⟩
  · rintro ⟨b, inB, differ⟩
    exact ⟨b, List.mem_cons_of_mem a inB, a, List.mem_cons_self, differ⟩

theorem not_varies_nil : ¬ Varies f [] := by
  rintro ⟨a, member, -⟩
  cases member

theorem Varies.mono (inside : ∀ a ∈ l, a ∈ t) (varies : Varies f l) : Varies f t := by
  obtain ⟨a, inA, b, inB, differ⟩ := varies
  exact ⟨a, inside a inA, b, inside b inB, differ⟩

theorem Varies.perm_iff (same : l.Perm t) : Varies f l ↔ Varies f t :=
  ⟨Varies.mono fun _ => same.mem_iff.1, Varies.mono fun _ => same.mem_iff.2⟩

theorem Varies.nonempty (varies : Varies f l) : l ≠ [] := by
  rintro rfl
  exact not_varies_nil varies

theorem eq_of_not_varies (constant : ¬ Varies f l) {a b : α} (inA : a ∈ l) (inB : b ∈ l) :
    f a = f b := by
  by_contra differ
  exact constant ⟨a, inA, b, inB, differ⟩

variable {g : α → Int}

theorem Spread.unique {d e : Int} (first : Spread g l d) (second : Spread g l e) : d = e := by
  obtain ⟨most, inMost, least, inLeast, between, rfl⟩ := first
  obtain ⟨most', inMost', least', inLeast', between', rfl⟩ := second
  have := between most' inMost'
  have := between least' inLeast'
  have := between' most inMost
  have := between' least inLeast
  omega

theorem Spread.perm {d : Int} (same : l.Perm t) (spread : Spread g l d) : Spread g t d := by
  obtain ⟨most, inMost, least, inLeast, between, rfl⟩ := spread
  exact ⟨most, same.mem_iff.1 inMost, least, same.mem_iff.1 inLeast,
    fun a member => between a (same.mem_iff.2 member), rfl⟩

theorem Spread.le {d : Int} (spread : Spread g l d) {a b : α} (inA : a ∈ l) (inB : b ∈ l) :
    g a - g b ≤ d := by
  obtain ⟨most, -, least, -, between, rfl⟩ := spread
  have := between a inA
  have := between b inB
  omega

end ChmlFrp.Lib
