/-
# ChmlFrp.Lib.Sync — a map that follows another, one entry at a time

Two loops bring the entries of a map in line with a map of what is wanted.  The first goes
through the old entries and deletes those that are not as wanted, the second goes through
what is wanted and adds what has no entry.  Neither has an order, and anything may happen
between two passes that leaves the entries alone.

`fits c v` says that the entry `v` is as `c` wants it.  An entry need not be what is
wanted: it may be a reference to something that was made from it.

* `Inv` is what holds between two passes; `Inv.delete`, `Inv.keep`, `Inv.add` and
  `Inv.skip` are one pass each.
* `Inv.agrees` and `Inv.stays`: in the end the entries are as wanted, and those that were
  before are the same.
-/
import ChmlFrp.Lib.GoMap
import Mathlib.Data.Finset.Basic

namespace ChmlFrp.Lib

set_option autoImplicit false

universe u v w

variable {K : Type u} {C : Type v} {V : Type w} [DecidableEq K]

/-- Where the two loops are. -/
structure Sync (K : Type u) (C : Type v) (V : Type w) where
  want : GoMap K C
  /-- The entries when the loops began. -/
  before : GoMap K V
  /-- What the first loop has still to visit. -/
  old : Finset K
  /-- What the second loop has still to visit. -/
  new : Finset K

/-- The entries are what is wanted. -/
def Agree (fits : C → V → Prop) (want : GoMap K C) (entries : GoMap K V) : Prop :=
  (∀ k v, entries.get k = some v → ∃ c, want.get k = some c ∧ fits c v) ∧
    ∀ k c, want.get k = some c → ∃ v, entries.get k = some v

theorem Agree.fits {fits : C → V → Prop} {want : GoMap K C} {entries : GoMap K V} {k : K} {c : C}
    {v : V} (agree : Agree fits want entries) (wanted : want.get k = some c)
    (found : entries.get k = some v) : fits c v := by
  obtain ⟨c', wanted', good⟩ := agree.1 k v found
  cases wanted.symm.trans wanted'
  exact good

theorem Agree.congr {fits fits' : C → V → Prop} {want : GoMap K C} {entries : GoMap K V}
    (agree : Agree fits want entries)
    (same : ∀ k v c, entries.get k = some v → fits c v → fits' c v) :
    Agree fits' want entries := by
  refine ⟨fun k v found => ?_, agree.2⟩
  obtain ⟨c, wanted, good⟩ := agree.1 k v found
  exact ⟨c, wanted, same k v c found good⟩

namespace Sync

def start (entries : GoMap K V) (want : GoMap K C) : Sync K C V :=
  ⟨want, entries, entries.keys, want.keys⟩

/-- An entry that was as wanted before. -/
def Stays (fits : C → V → Prop) (d : Sync K C V) (k : K) (v : V) : Prop :=
  d.before.get k = some v ∧ ∃ c, d.want.get k = some c ∧ fits c v

structure Inv (fits : C → V → Prop) (d : Sync K C V) (entries : GoMap K V) : Prop where
  todo : ∀ k ∈ d.old, entries.get k = d.before.get k
  kept : ∀ k v, d.Stays fits k v → entries.get k = some v
  done : ∀ k v, k ∉ d.old → entries.get k = some v → ∃ c, d.want.get k = some c ∧ fits c v
  first : d.old.Nonempty → d.new = d.want.keys
  added : ∀ k c, k ∉ d.new → d.want.get k = some c → ∃ v, entries.get k = some v

variable {fits fits' : C → V → Prop} {d : Sync K C V} {entries : GoMap K V} {k : K} {c : C} {v : V}

theorem start_inv (fits : C → V → Prop) (entries : GoMap K V) (want : GoMap K C) :
    (start entries want).Inv fits entries where
  todo := fun _ _ => rfl
  kept := fun _ _ stays => stays.1
  done := fun _ v absent found => absurd (GoMap.mem_keys_iff.2 ⟨v, found⟩) absent
  first := fun _ => rfl
  added := fun _ c absent wanted => absurd (GoMap.mem_keys_iff.2 ⟨c, wanted⟩) absent

/-- The entries do not change what they are. -/
theorem Inv.congr (inv : d.Inv fits entries)
    (same : ∀ k v c, entries.get k = some v → fits c v → fits' c v)
    (same' : ∀ k v c, d.before.get k = some v → fits' c v → fits c v) : d.Inv fits' entries where
  todo := inv.todo
  kept := by
    rintro k v ⟨before, c, wanted, good⟩
    exact inv.kept k v ⟨before, c, wanted, same' k v c before good⟩
  done := by
    intro k v absent found
    obtain ⟨c, wanted, good⟩ := inv.done k v absent found
    exact ⟨c, wanted, same k v c found good⟩
  first := inv.first
  added := inv.added

/-- The first loop visits an entry that is as wanted. -/
theorem Inv.keep (inv : d.Inv fits entries) (visit : k ∈ d.old)
    (good : ∀ v, entries.get k = some v → ∃ c, d.want.get k = some c ∧ fits c v) :
    Inv fits { d with old := d.old.erase k } entries where
  todo := fun k' inside => inv.todo k' (Finset.mem_of_mem_erase inside)
  kept := inv.kept
  done := by
    intro k' v absent found
    by_cases same : k' = k
    · subst same
      exact good v found
    · exact inv.done k' v (fun inside => absent (Finset.mem_erase.2 ⟨same, inside⟩)) found
  first := fun _ => inv.first ⟨k, visit⟩
  added := inv.added

/-- The first loop visits an entry that is not wanted, or not as it is. -/
theorem Inv.delete (inv : d.Inv fits entries) (visit : k ∈ d.old)
    (bad : ∀ v c, entries.get k = some v → d.want.get k = some c → ¬ fits c v) :
    Inv fits { d with old := d.old.erase k } (entries.delete k) where
  todo := by
    intro k' inside
    obtain ⟨other, inside⟩ := Finset.mem_erase.1 inside
    rw [GoMap.get_delete, if_neg other]
    exact inv.todo k' inside
  kept := by
    intro k' v stays
    have found := inv.kept k' v stays
    obtain ⟨-, c, wanted, good⟩ := stays
    by_cases same : k' = k
    · subst same
      exact absurd good (bad v c found wanted)
    · rw [GoMap.get_delete, if_neg same]
      exact found
  done := by
    intro k' v absent found
    obtain ⟨other, found⟩ := GoMap.get_delete_eq_some.1 found
    exact inv.done k' v (fun inside => absent (Finset.mem_erase.2 ⟨other, inside⟩)) found
  first := fun _ => inv.first ⟨k, visit⟩
  added := by
    intro k' c absent wanted
    have all : d.new = d.want.keys := inv.first ⟨k, visit⟩
    have inside : k' ∈ d.new := by
      rw [all]
      exact GoMap.mem_keys_iff.2 ⟨c, wanted⟩
    exact absurd inside absent

/-- The second loop visits an entry that is there. -/
theorem Inv.skip (inv : d.Inv fits entries) (first : d.old = ∅) (found : entries.get k = some v) :
    Inv fits { d with new := d.new.erase k } entries where
  todo := inv.todo
  kept := inv.kept
  done := inv.done
  first := fun some_ => absurd first some_.ne_empty
  added := by
    intro k' c absent wanted
    by_cases same : k' = k
    · exact ⟨v, same ▸ found⟩
    · exact inv.added k' c (fun inside => absent (Finset.mem_erase.2 ⟨same, inside⟩)) wanted

/-- The second loop adds an entry. -/
theorem Inv.add (inv : d.Inv fits entries) (first : d.old = ∅) (free : entries.get k = none)
    (wants : d.want.get k = some c) (good : fits c v) :
    Inv fits { d with new := d.new.erase k } (entries.set k v) where
  todo := by
    intro k' inside
    rw [first] at inside
    exact absurd inside (Finset.notMem_empty k')
  kept := fun k' v' stays => GoMap.get_set_of_fresh free (inv.kept k' v' stays)
  done := by
    intro k' v' absent found
    rcases GoMap.get_set_eq_some.1 found with ⟨rfl, rfl⟩ | ⟨-, found⟩
    · exact ⟨c, wants, good⟩
    · exact inv.done k' v' absent found
  first := fun some_ => absurd first some_.ne_empty
  added := by
    intro k' c' absent wanted
    by_cases same : k' = k
    · exact ⟨v, by rw [GoMap.get_set, if_pos same]⟩
    · obtain ⟨v', found⟩ :=
        inv.added k' c' (fun inside => absent (Finset.mem_erase.2 ⟨same, inside⟩)) wanted
      exact ⟨v', GoMap.get_set_of_fresh free found⟩

/-- **When both loops are through, the entries are as wanted.** -/
theorem Inv.agrees (inv : d.Inv fits entries) (old : d.old = ∅) (new : d.new = ∅) :
    Agree fits d.want entries := by
  refine ⟨fun k v found => inv.done k v ?_ found, fun k c wanted => inv.added k c ?_ wanted⟩
  · rw [old]
    exact Finset.notMem_empty k
  · rw [new]
    exact Finset.notMem_empty k

end Sync

end ChmlFrp.Lib
