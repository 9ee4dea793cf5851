/-
# ChmlFrp.Lib.Slots — a list as numbered slots

A machine that gives its objects numbers keeps them in a list: a new one is appended, and
one that changes is set at its number.  The lemmas say what is at a number afterwards, and
what holds of all the objects.
-/
import Mathlib.Algebra.Ring.Nat
import Mathlib.Data.List.Basic
import Mathlib.Tactic.Common

namespace ChmlFrp.Lib.Slots

set_option autoImplicit false

universe u

variable {α : Type u} {l : List α} {c d : Nat} {a b x : α}

theorem set_self (there : l[c]? = some a) : (l.set c b)[c]? = some b := by
  obtain ⟨bound, _⟩ := List.getElem?_eq_some_iff.1 there
  exact List.getElem?_set_self bound

/-- What is at a number after one of them is set. -/
theorem set_cases (there : (l.set c b)[d]? = some x) :
    d = c ∧ x = b ∨ d ≠ c ∧ l[d]? = some x := by
  rw [List.getElem?_set] at there
  split at there
  · rename_i same
    split at there
    · cases there
      exact .inl ⟨same.symm, rfl⟩
    · cases there
  · rename_i other
    exact .inr ⟨Ne.symm other, there⟩

theorem append_old (there : l[d]? = some x) : (l ++ [b])[d]? = some x := by
  obtain ⟨bound, _⟩ := List.getElem?_eq_some_iff.1 there
  rw [List.getElem?_append_left bound]
  exact there

/-- What is at a number after a new object. -/
theorem append_cases (there : (l ++ [b])[d]? = some x) :
    l[d]? = some x ∨ d = l.length ∧ x = b := by
  rw [List.getElem?_append] at there
  split at there
  · exact .inl there
  · rename_i beyond
    rw [List.getElem?_singleton] at there
    split at there
    · cases there
      exact .inr ⟨by omega, rfl⟩
    · cases there

/-- An object stays unless it is the one that is set. -/
theorem eq_or_mem_set (there : l[c]? = some a) (old : x ∈ l) : x = a ∨ x ∈ l.set c b := by
  obtain ⟨d, at_d⟩ := List.getElem?_of_mem old
  by_cases same : c = d
  · subst same
    rw [at_d] at there
    exact .inl (Option.some.inj there)
  · right
    apply List.mem_of_getElem? (i := d)
    rw [List.getElem?_set_ne same, at_d]

theorem forall_mem_set_iff {P : α → Prop} (b : α) (all : ∀ x ∈ l, P x)
    (there : l[c]? = some a) : (∀ x ∈ l.set c b, P x) ↔ P b := by
  obtain ⟨bound, _⟩ := List.getElem?_eq_some_iff.1 there
  constructor
  · intro every
    exact every b (List.mem_set bound b)
  · intro new x inside
    rcases List.mem_or_eq_of_mem_set inside with old | rfl
    · exact all x old
    · exact new

/-- What is before an object and what is after it. -/
theorem exists_split (there : l[c]? = some a) :
    ∃ before after, l = before ++ a :: after ∧ (∀ b, l.set c b = before ++ b :: after) ∧
      before.length = c := by
  obtain ⟨bound, rfl⟩ := List.getElem?_eq_some_iff.1 there
  refine ⟨l.take c, l.drop (c + 1), ?_, fun b => ?_, ?_⟩
  · rw [← List.drop_eq_getElem_cons bound, List.take_append_drop]
  · rw [List.set_eq_take_append_cons_drop, if_pos bound]
  · rw [List.length_take, Nat.min_eq_left (Nat.le_of_lt bound)]

/-! ## What the objects hold -/

section Held

variable {β : Type*} {held : α → Option β}

theorem map_set_of_eq {f : α → β} (there : l[c]? = some a) (same : f b = f a) :
    (l.set c b).map f = l.map f := by
  obtain ⟨before, after, rfl, set_eq, -⟩ := exists_split there
  rw [set_eq, List.map_append, List.map_append, List.map_cons, List.map_cons, same]

/-- What changes without holding something else leaves what all of them hold. -/
theorem filterMap_set_of_eq (there : l[c]? = some a) (same : held b = held a) :
    (l.set c b).filterMap held = l.filterMap held := by
  obtain ⟨before, after, rfl, set_eq, -⟩ := exists_split there
  rw [set_eq, List.filterMap_append, List.filterMap_append, List.filterMap_cons,
    List.filterMap_cons, same]

/-- Only one of them holds something. -/
theorem filterMap_of_only (there : l[c]? = some a)
    (others : ∀ d x, d ≠ c → l[d]? = some x → held x = none) :
    l.filterMap held = (held a).toList := by
  obtain ⟨before, after, rfl, -, rfl⟩ := exists_split there
  have first : before.filterMap held = [] := by
    apply List.filterMap_eq_nil_iff.2
    intro x inside
    obtain ⟨d, at_d⟩ := List.getElem?_of_mem inside
    have less := (List.getElem?_eq_some_iff.1 at_d).1
    refine others d x (Nat.ne_of_lt less) ?_
    rwa [List.getElem?_append_left less]
  have second : after.filterMap held = [] := by
    apply List.filterMap_eq_nil_iff.2
    intro x inside
    obtain ⟨d, at_d⟩ := List.getElem?_of_mem inside
    refine others (before.length + (d + 1)) x (by omega) ?_
    rw [List.getElem?_append_right (Nat.le_add_right _ _), Nat.add_sub_cancel_left,
      List.getElem?_cons_succ, at_d]
  rw [List.filterMap_append, List.filterMap_cons, first, second]
  cases held a <;> rfl

end Held

section Parts

variable {β : Type*} {parts : α → List β}

/-- Where one of the objects has less, all of them have less. -/
theorem flatMap_set_sublist (there : l[c]? = some a) (less : (parts b).Sublist (parts a)) :
    ((l.set c b).flatMap parts).Sublist (l.flatMap parts) := by
  obtain ⟨before, after, rfl, set_eq, -⟩ := exists_split there
  rw [set_eq, List.flatMap_append, List.flatMap_append, List.flatMap_cons, List.flatMap_cons]
  exact (less.append_right _).append_left _

theorem sublist_flatMap_set (there : l[c]? = some a) (more : (parts a).Sublist (parts b)) :
    (l.flatMap parts).Sublist ((l.set c b).flatMap parts) := by
  obtain ⟨before, after, rfl, set_eq, -⟩ := exists_split there
  rw [set_eq, List.flatMap_append, List.flatMap_append, List.flatMap_cons, List.flatMap_cons]
  exact (more.append_right _).append_left _

end Parts

/-- The sum over the objects changes by what the one of them does. -/
theorem sum_map_set (weight : α → Nat) (b : α) (there : l[c]? = some a) :
    ((l.set c b).map weight).sum + weight a = (l.map weight).sum + weight b := by
  obtain ⟨before, after, rfl, set_eq, -⟩ := exists_split there
  simp only [set_eq, List.map_append, List.map_cons, List.sum_append, List.sum_cons]
  omega

end ChmlFrp.Lib.Slots
