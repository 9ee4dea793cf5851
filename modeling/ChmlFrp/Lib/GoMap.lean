/-
# ChmlFrp.Lib.GoMap — Go maps, and maps that several owners fill

A Go map is a finite map without an order; Mathlib's `Finmap` is that.  `get`,
`set` and `delete` are its three operations under Go's names, with one rewrite
rule each that asks whether the keys are equal; `modify` changes an entry if there is one.

`total f m` adds up `f` over the entries; the three operations change it by one
entry at most, so that it serves as a measure of what the entries have left.

`Covers m view` says that the map `m` is what the views of all owners hold
together.  It is kept by the three things an owner does: change its view without
changing what it holds, insert a free key, and erase a key that it holds alone.
-/
import Mathlib.Algebra.BigOperators.Group.Finset.Basic
import Mathlib.Algebra.Order.BigOperators.Group.Finset
import Mathlib.Algebra.Order.Ring.Int
import Mathlib.Data.Finmap

namespace ChmlFrp.Lib

set_option autoImplicit false

universe u v w

abbrev GoMap (K : Type u) (V : Type v) := Finmap fun _ : K => V

namespace GoMap

variable {K : Type u} {V : Type v} [DecidableEq K]

def get (m : GoMap K V) (k : K) : Option V := m.lookup k

def set (m : GoMap K V) (k : K) (v : V) : GoMap K V := m.insert k v

def delete (m : GoMap K V) (k : K) : GoMap K V := m.erase k

/-- Change an entry, if there is one. -/
def modify (m : GoMap K V) (k : K) (f : V → V) : GoMap K V :=
  match m.get k with
  | some v => m.set k (f v)
  | none => m

@[simp] theorem get_empty (k : K) : (∅ : GoMap K V).get k = none := Finmap.lookup_empty k

@[simp] theorem get_set (m : GoMap K V) (k k' : K) (v : V) :
    (m.set k v).get k' = if k' = k then some v else m.get k' := by
  unfold get set
  split
  · rename_i same
    subst same
    exact Finmap.lookup_insert m
  · rename_i other
    exact Finmap.lookup_insert_of_ne m other

@[simp] theorem get_delete (m : GoMap K V) (k k' : K) :
    (m.delete k).get k' = if k' = k then none else m.get k' := by
  unfold get delete
  split
  · rename_i same
    subst same
    exact Finmap.lookup_erase k' m
  · rename_i other
    exact Finmap.lookup_erase_ne other

/-- An entry after `set` is the new one or an old one under another key. -/
theorem get_set_eq_some {m : GoMap K V} {k k' : K} {v w : V} :
    (m.set k v).get k' = some w ↔ k' = k ∧ w = v ∨ k' ≠ k ∧ m.get k' = some w := by
  rw [get_set]
  split
  · rename_i same
    simp [same, eq_comm]
  · rename_i other
    simp [other]

theorem get_delete_eq_some {m : GoMap K V} {k k' : K} {w : V} :
    (m.delete k).get k' = some w ↔ k' ≠ k ∧ m.get k' = some w := by
  rw [get_delete]
  split
  · rename_i same
    simp [same]
  · rename_i other
    simp [other]

theorem get_modify (m : GoMap K V) (k k' : K) (f : V → V) :
    (m.modify k f).get k' = if k' = k then (m.get k).map f else m.get k' := by
  unfold modify
  cases found : m.get k with
  | some v => exact get_set m k k' (f v)
  | none =>
      show m.get k' = if k' = k then none else m.get k'
      split
      · rename_i same
        rw [same, found]
      · rfl

theorem get_modify_eq_some {m : GoMap K V} {k k' : K} {f : V → V} {w : V} :
    (m.modify k f).get k' = some w ↔
      (k' = k ∧ ∃ v, m.get k = some v ∧ f v = w) ∨ k' ≠ k ∧ m.get k' = some w := by
  rw [get_modify]
  split
  · rename_i same
    simp [same]
  · rename_i other
    simp [other]

/-- A new entry leaves the others. -/
theorem get_set_of_fresh {m : GoMap K V} {k k' : K} {v w : V} (fresh : m.get k = none)
    (found : m.get k' = some w) : (m.set k v).get k' = some w := by
  have other : k' ≠ k := by
    rintro rfl
    cases fresh.symm.trans found
  exact get_set_eq_some.2 (.inr ⟨other, found⟩)

/-- Writing over an entry adds none. -/
theorem get_set_eq_none {m : GoMap K V} {k k' : K} {v w : V} (found : m.get k = some v)
    (none_ : m.get k' = none) : (m.set k w).get k' = none := by
  have other : k' ≠ k := by
    rintro rfl
    cases found.symm.trans none_
  rw [get_set, if_neg other]
  exact none_

theorem get_delete_eq_none {m : GoMap K V} {k k' : K} (none_ : m.get k' = none) :
    (m.delete k).get k' = none := by
  rw [get_delete, none_, ite_self]

theorem mem_keys_iff {m : GoMap K V} {k : K} : k ∈ m.keys ↔ ∃ v, m.get k = some v :=
  Finmap.mem_keys.trans Finmap.mem_iff

theorem keys_set (m : GoMap K V) (k : K) (v : V) : (m.set k v).keys = insert k m.keys := by
  ext k'
  by_cases same : k' = k
  · simp [mem_keys_iff, same]
  · simp [mem_keys_iff, same]

theorem keys_delete (m : GoMap K V) (k : K) : (m.delete k).keys = m.keys.erase k := by
  ext k'
  by_cases same : k' = k
  · simp [mem_keys_iff, same]
  · simp [mem_keys_iff, same]

theorem card_delete_lt {m : GoMap K V} {k : K} {v : V} (found : m.get k = some v) :
    (m.delete k).keys.card < m.keys.card := by
  rw [keys_delete]
  exact Finset.card_erase_lt_of_mem (mem_keys_iff.2 ⟨v, found⟩)

/-- A map is empty or has an entry. -/
theorem forall_get_none_or (m : GoMap K V) :
    (∀ k, m.get k = none) ∨ ∃ k v, m.get k = some v := by
  by_cases entry : ∃ k v, m.get k = some v
  · exact .inr entry
  · refine .inl fun k => ?_
    cases found : m.get k with
    | none => rfl
    | some v => exact absurd ⟨k, v, found⟩ entry

theorem get_eq_none_of_keys {m : GoMap K V} (empty : m.keys = ∅) (k : K) : m.get k = none := by
  rcases m.forall_get_none_or with none | ⟨k', v, found⟩
  · exact none k
  · have mem := mem_keys_iff.2 ⟨v, found⟩
    rw [empty] at mem
    exact absurd mem (Finset.notMem_empty k')

/-! ## Totals over the entries -/

/-- What an entry, if there is one, adds to a total. -/
def part (f : V → Int) (entry : Option V) : Int := entry.elim 0 f

@[simp] theorem part_none (f : V → Int) : part f none = 0 := rfl

@[simp] theorem part_some (f : V → Int) (v : V) : part f (some v) = f v := rfl

def total (m : GoMap K V) (f : V → Int) : Int := ∑ k ∈ m.keys, part f (m.get k)

theorem total_nonneg {m : GoMap K V} {f : V → Int} (nonneg : ∀ v, 0 ≤ f v) : 0 ≤ m.total f := by
  apply Finset.sum_nonneg
  intro k _
  cases m.get k with
  | none => exact Int.le_refl 0
  | some v => exact nonneg v

theorem total_delete (m : GoMap K V) (k : K) (f : V → Int) :
    (m.delete k).total f = m.total f - part f (m.get k) := by
  have others : (m.delete k).total f = ∑ k' ∈ m.keys.erase k, part f (m.get k') := by
    unfold total
    rw [keys_delete]
    apply Finset.sum_congr rfl
    intro k' mem
    rw [get_delete, if_neg (Finset.ne_of_mem_erase mem)]
  rw [others]
  by_cases mem : k ∈ m.keys
  · have split_ := Finset.sum_erase_add m.keys (fun k' => part f (m.get k')) mem
    unfold total
    omega
  · have gone : m.get k = none := by
      cases found : m.get k with
      | none => rfl
      | some v => exact absurd (mem_keys_iff.2 ⟨v, found⟩) mem
    rw [Finset.erase_eq_of_notMem mem, gone, part_none, Int.sub_zero]
    rfl

theorem total_set (m : GoMap K V) (k : K) (v : V) (f : V → Int) :
    (m.set k v).total f = m.total f - part f (m.get k) + f v := by
  have same_rest : (m.set k v).delete k = m.delete k := by
    apply Finmap.ext_lookup
    intro k'
    have left := get_delete (m.set k v) k k'
    have right := get_delete m k k'
    rw [get_set] at left
    by_cases same : k' = k
    · rw [if_pos same] at left right
      exact left.trans right.symm
    · rw [if_neg same, if_neg same] at left
      rw [if_neg same] at right
      exact left.trans right.symm
  have before := total_delete m k f
  have after := total_delete (m.set k v) k f
  rw [same_rest, get_set, if_pos rfl, part_some] at after
  omega

/-- A key that is set for the first time adds its entry. -/
theorem total_set_of_none {m : GoMap K V} {k : K} (free : m.get k = none) (v : V)
    (f : V → Int) : (m.set k v).total f = m.total f + f v := by
  rw [total_set, free, part_none, Int.sub_zero]

/-- An entry that is replaced by one of the same size leaves the total. -/
theorem total_set_of_eq {m : GoMap K V} {k : K} {v w : V} {f : V → Int}
    (found : m.get k = some v) (same : f w = f v) : (m.set k w).total f = m.total f := by
  rw [total_set, found, part_some, same]
  omega

theorem total_delete_of_some {m : GoMap K V} {k : K} {v : V} (found : m.get k = some v)
    (f : V → Int) : (m.delete k).total f = m.total f - f v := by
  rw [total_delete, found, part_some]

section Measure

variable {m : GoMap K V} {f : V → Int} {k : K} {v : V}

/-- An entry is a part of the total. -/
theorem le_total (nonneg : ∀ v, 0 ≤ f v) (found : m.get k = some v) : f v ≤ m.total f := by
  have rest : 0 ≤ (m.delete k).total f := total_nonneg nonneg
  rw [total_delete_of_some found] at rest
  omega

/-- A total as a measure: it goes down when an entry gets lighter. -/
theorem total_set_lt {w : V} (nonneg : ∀ v, 0 ≤ f v) (found : m.get k = some v)
    (less : f w < f v) : ((m.set k w).total f).toNat < (m.total f).toNat := by
  have part_le := le_total nonneg found
  have new := nonneg w
  rw [total_set, found, part_some]
  omega

theorem total_delete_lt (nonneg : ∀ v, 0 ≤ f v) (found : m.get k = some v) (pos : 0 < f v) :
    ((m.delete k).total f).toNat < (m.total f).toNat := by
  have part_le := le_total nonneg found
  rw [total_delete_of_some found]
  omega

/-- A total is zero, or there is an entry that is not. -/
theorem total_zero_or (m : GoMap K V) (f : V → Int) :
    m.total f = 0 ∨ ∃ k v, m.get k = some v ∧ f v ≠ 0 := by
  by_cases some_ : ∃ k v, m.get k = some v ∧ f v ≠ 0
  · exact .inr some_
  · refine .inl (Finset.sum_eq_zero fun k _ => ?_)
    cases found : m.get k with
    | none => rfl
    | some v =>
        by_contra nonzero
        exact some_ ⟨k, v, found, nonzero⟩

end Measure

/-! ## A map and the views of its owners -/

variable {ι : Type w}

/-- The map holds what the owners' views hold, and nothing else. -/
def Covers (m : GoMap K V) (view : ι → K → V → Prop) : Prop :=
  ∀ k v, m.get k = some v ↔ ∃ i, view i k v

variable {m : GoMap K V} {view view' : ι → K → V → Prop}

theorem Covers.congr (covers : Covers m view) (same : ∀ i k v, view' i k v ↔ view i k v) :
    Covers m view' := fun k v => (covers k v).trans (exists_congr fun i => (same i k v).symm)

theorem Covers.set (covers : Covers m view) {k : K} {v : V} {i : ι} (free : m.get k = none)
    (gains : ∀ k' v', view' i k' v' ↔ view i k' v' ∨ k' = k ∧ v' = v)
    (others : ∀ j k' v', j ≠ i → (view' j k' v' ↔ view j k' v')) :
    Covers (m.set k v) view' := by
  intro k' v'
  rw [get_set]
  by_cases same : k' = k
  · subst same
    have unheld : ∀ j w, ¬ view j k' w := by
      intro j w held
      have := (covers k' w).2 ⟨j, held⟩
      simp [free] at this
    simp only [if_true, Option.some.injEq]
    constructor
    · rintro rfl
      exact ⟨i, (gains _ _).2 (.inr ⟨rfl, rfl⟩)⟩
    · rintro ⟨j, held⟩
      by_cases own : j = i
      · subst own
        rcases (gains _ _).1 held with held | ⟨-, rfl⟩
        · exact absurd held (unheld j v')
        · rfl
      · exact absurd ((others j _ _ own).1 held) (unheld j v')
  · rw [if_neg same, covers k' v']
    apply exists_congr
    intro j
    by_cases own : j = i
    · subst own
      simp [gains, same]
    · exact (others j k' v' own).symm

theorem Covers.delete (covers : Covers m view) {k : K} {i : ι}
    (loses : ∀ k' v', view' i k' v' ↔ view i k' v' ∧ k' ≠ k)
    (others : ∀ j k' v', j ≠ i → (view' j k' v' ↔ view j k' v'))
    (alone : ∀ j v', view j k v' → j = i) : Covers (m.delete k) view' := by
  intro k' v'
  rw [get_delete]
  by_cases same : k' = k
  · subst same
    simp only [if_true, reduceCtorEq, false_iff]
    rintro ⟨j, held⟩
    by_cases own : j = i
    · subst own
      exact ((loses _ _).1 held).2 rfl
    · exact own (alone j v' ((others j _ _ own).1 held))
  · rw [if_neg same, covers k' v']
    apply exists_congr
    intro j
    by_cases own : j = i
    · subst own
      simp [loses, same]
    · exact (others j k' v' own).symm

end GoMap

end ChmlFrp.Lib
