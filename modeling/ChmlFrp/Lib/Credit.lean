/-
# ChmlFrp.Lib.Credit — a scheduler that picks the largest credit and charges it

A list of accounts, each with a name and a credit.  A turn picks the first account of
the largest credit and takes one from it.  Nothing of the list but that credit changes,
so what was taken from an account is the number of its turns.

* `maxBy_spec`: the pick is an entry of the list, and no entry has more credit.
* `pick_balanced`: credits that are within one of each other stay so.
* `picks_fair`: then one account is ahead of another by its head start and one turn at
  the most, after any number of turns.
-/
import Mathlib.Data.List.Basic
import Mathlib.Data.List.Nodup
import Mathlib.Algebra.Group.Int.Defs
import Mathlib.Tactic.Common

namespace ChmlFrp.Lib

set_option autoImplicit false

universe u v

variable {α : Type u} {β : Type v}

/-! ## The best entry of a list -/

/-- The loop over the entries from position `i` on; `max` is the best so far. -/
def maxByFrom (comparison : α → α → Bool) (max : Nat × α) : Nat → List α → Nat × α
  | _, [] => max
  | i, item :: rest =>
      maxByFrom comparison (if comparison item max.2 then (i, item) else max) (i + 1) rest

/-- The first of the entries that no other one beats, with its position. -/
def maxBy (comparison : α → α → Bool) : List α → Option (Nat × α)
  | [] => none
  | item :: rest => some (maxByFrom comparison (0, item) 1 rest)

section Max

variable (credit : α → Int)

/-- The comparison of a search for the largest credit. -/
def richer (item max : α) : Bool := decide (credit max < credit item)

theorem maxByFrom_spec (done rest : List α) (max : Nat × α) (found : done[max.1]? = some max.2)
    (best : ∀ a ∈ done, credit a ≤ credit max.2) :
    (done ++ rest)[(maxByFrom (richer credit) max done.length rest).1]? =
        some (maxByFrom (richer credit) max done.length rest).2 ∧
      ∀ a ∈ done ++ rest, credit a ≤ credit (maxByFrom (richer credit) max done.length rest).2 := by
  induction rest generalizing done max with
  | nil =>
      rw [List.append_nil]
      exact ⟨found, best⟩
  | cons item rest ih =>
      have shift : done ++ item :: rest = (done ++ [item]) ++ rest := by simp
      have length : done.length + 1 = (done ++ [item]).length := by simp
      rw [maxByFrom, shift, length]
      apply ih
      · split
        · exact List.getElem?_concat_length
        · have within : max.1 < done.length := (List.getElem?_eq_some_iff.1 found).1
          rw [List.getElem?_append_left within]
          exact found
      · intro a member
        rcases List.mem_append.1 member with old | new
        · have := best a old
          split <;> rename_i beats <;> simp only [richer, decide_eq_true_eq] at beats
          · show credit a ≤ credit item
            omega
          · exact this
        · rw [List.mem_singleton.1 new]
          split <;> rename_i beats <;> simp only [richer, decide_eq_true_eq] at beats
          · exact Int.le_refl _
          · omega

/-- **The pick is an entry of the list, and no entry has more credit.** -/
theorem maxBy_spec {l : List α} {i : Nat} {a : α} (picked : maxBy (richer credit) l = some (i, a)) :
    l[i]? = some a ∧ ∀ b ∈ l, credit b ≤ credit a := by
  cases l with
  | nil => cases picked
  | cons item rest =>
      have spec := maxByFrom_spec credit [item] rest (0, item) rfl
        (by intro b member; exact List.mem_singleton.1 member ▸ Int.le_refl _)
      simp only [maxBy, Option.some.injEq] at picked
      simp only [List.length_singleton, picked] at spec
      exact spec

theorem maxBy_isSome (comparison : α → α → Bool) {l : List α} (nonempty : l ≠ []) :
    ∃ i a, maxBy comparison l = some (i, a) := by
  cases l with
  | nil => exact absurd rfl nonempty
  | cons item rest => exact ⟨_, _, rfl⟩

end Max

/-! ## Turns -/

/-- What an entry is called and worth, and what a turn leaves of it. -/
structure Accounts (α : Type u) (β : Type v) where
  name : α → β
  credit : α → Int
  charge : α → α
  name_charge : ∀ a, name (charge a) = name a
  credit_charge : ∀ a, credit (charge a) = credit a - 1

namespace Accounts

variable (A : Accounts α β)

/-- One turn: the account picked, and the accounts after it. -/
def pick (l : List α) : Option (β × List α) :=
  (maxBy (richer A.credit) l).map fun found => (A.name found.2, l.set found.1 (A.charge found.2))

/-- The accounts picked in `n` turns, and what they leave. -/
def picks : Nat → List α → List β × List α
  | 0, l => ([], l)
  | n + 1, l =>
      match A.pick l with
      | none => ([], l)
      | some (b, t) => (b :: (picks n t).1, (picks n t).2)

/-- No credit is more than one above another. -/
def Balanced (l : List α) : Prop := ∀ a ∈ l, ∀ b ∈ l, A.credit a ≤ A.credit b + 1

variable {A}

theorem pick_cases {l t : List α} {b : β} (picked : A.pick l = some (b, t)) :
    ∃ i a, l[i]? = some a ∧ (∀ c ∈ l, A.credit c ≤ A.credit a) ∧ b = A.name a ∧
      t = l.set i (A.charge a) := by
  obtain ⟨⟨i, a⟩, best, same⟩ := Option.map_eq_some_iff.1 picked
  obtain ⟨found, most⟩ := maxBy_spec A.credit best
  cases same
  exact ⟨i, a, found, most, rfl, rfl⟩

theorem pick_names {l t : List α} {b : β} (picked : A.pick l = some (b, t)) :
    t.map A.name = l.map A.name := by
  obtain ⟨i, a, found, -, -, rfl⟩ := pick_cases picked
  obtain ⟨within, rfl⟩ := List.getElem?_eq_some_iff.1 found
  have within' : i < (l.map A.name).length := by simpa using within
  have same : A.name l[i] = (l.map A.name)[i] := by rw [List.getElem_map]
  rw [List.map_set, A.name_charge, same, List.set_getElem_self]

/-- **Credits that are within one of each other stay so.** -/
theorem pick_balanced {l t : List α} {b : β} (balanced : A.Balanced l)
    (picked : A.pick l = some (b, t)) : A.Balanced t := by
  obtain ⟨i, a, found, most, -, rfl⟩ := pick_cases picked
  have member : a ∈ l := List.mem_of_getElem? found
  intro c inC d inD
  have charged := A.credit_charge a
  rcases List.mem_or_eq_of_mem_set inC with oldC | rfl
  · rcases List.mem_or_eq_of_mem_set inD with oldD | rfl
    · exact balanced c oldC d oldD
    · -- the one charged had the most
      have := most c oldC
      omega
  · rcases List.mem_or_eq_of_mem_set inD with oldD | rfl
    · have := balanced a member d oldD
      omega
    · omega

theorem picks_balanced {n : Nat} {l : List α} (balanced : A.Balanced l) :
    A.Balanced (A.picks n l).2 := by
  induction n generalizing l with
  | zero => exact balanced
  | succ n ih =>
      simp only [picks]
      split
      · exact balanced
      · rename_i b t picked
        exact ih (pick_balanced balanced picked)

/-- A turn takes one at the most. -/
theorem picks_low {n : Nat} {l : List α} {least : Int} (low : ∀ a ∈ l, least ≤ A.credit a) :
    ∀ a ∈ (A.picks n l).2, least - n ≤ A.credit a := by
  induction n generalizing l least with
  | zero => simpa [picks] using low
  | succ n ih =>
      intro a member
      simp only [picks] at member
      split at member
      · have := low a member
        omega
      · rename_i b t picked
        obtain ⟨i, c, found, -, -, rfl⟩ := pick_cases picked
        have after : ∀ d ∈ l.set i (A.charge c), least - 1 ≤ A.credit d := by
          intro d inside
          have charged := A.credit_charge c
          have := low c (List.mem_of_getElem? found)
          rcases List.mem_or_eq_of_mem_set inside with old | rfl
          · have := low d old
            omega
          · omega
        have := ih after a member
        omega

/-! ## Fairness -/

variable [BEq β] [LawfulBEq β]

theorem pick_credit {l t : List α} {b : β} (distinct : (l.map A.name).Nodup)
    (picked : A.pick l = some (b, t)) {k : Nat} {a c : α} (before : l[k]? = some a)
    (after : t[k]? = some c) :
    A.credit c = A.credit a - if b == A.name a then 1 else 0 := by
  obtain ⟨i, d, found, -, rfl, rfl⟩ := pick_cases picked
  have within : k < l.length := (List.getElem?_eq_some_iff.1 before).1
  rw [List.getElem?_set] at after
  by_cases here : i = k
  · rw [if_pos here, if_pos (here ▸ within)] at after
    cases after
    rw [here, before] at found
    cases found
    rw [if_pos (beq_self_eq_true _), A.credit_charge]
  · rw [if_neg here, before] at after
    cases after
    have other : A.name d ≠ A.name a := by
      intro same
      have inside : i < (l.map A.name).length := by
        rw [List.length_map]
        exact (List.getElem?_eq_some_iff.1 found).1
      apply here
      rw [← List.getElem?_inj inside distinct, List.getElem?_map, List.getElem?_map, found, before]
      simp [same]
    rw [if_neg (by simpa using other)]
    omega

/-- What is left of a credit tells the number of turns. -/
theorem picks_credit {n : Nat} {l : List α} (distinct : (l.map A.name).Nodup) {k : Nat} {a : α}
    (before : l[k]? = some a) :
    ∃ c, (A.picks n l).2[k]? = some c ∧
      A.credit c = A.credit a - (A.picks n l).1.count (A.name a) := by
  induction n generalizing l a with
  | zero => exact ⟨a, before, by simp [picks]⟩
  | succ n ih =>
      simp only [picks]
      split
      · exact ⟨a, before, by simp⟩
      · rename_i b t picked
        have names : t.map A.name = l.map A.name := pick_names picked
        have length : t.length = l.length := by simpa using congrArg List.length names
        obtain ⟨within, -⟩ := List.getElem?_eq_some_iff.1 before
        obtain ⟨d, found⟩ : ∃ d, t[k]? = some d :=
          ⟨t[k], List.getElem?_eq_getElem (length ▸ within)⟩
        have called : A.name d = A.name a := by
          have := congrArg (·[k]?) names
          simpa [List.getElem?_map, found, before] using this
        obtain ⟨c, left, worth⟩ := ih (names ▸ distinct) found
        refine ⟨c, left, ?_⟩
        rw [worth, pick_credit distinct picked before found, called, List.count_cons]
        split
        · omega
        · omega

/-- **An account is ahead of another by its head start and one turn at the most.** -/
theorem picks_fair (n : Nat) {l : List α} (distinct : (l.map A.name).Nodup)
    (balanced : A.Balanced l) {a b : α} (inA : a ∈ l) (inB : b ∈ l) :
    ((A.picks n l).1.count (A.name a) : Int) - (A.picks n l).1.count (A.name b) ≤
      A.credit a - A.credit b + 1 := by
  obtain ⟨i, foundA⟩ := List.mem_iff_getElem?.1 inA
  obtain ⟨j, foundB⟩ := List.mem_iff_getElem?.1 inB
  obtain ⟨c, leftA, worthA⟩ := picks_credit (n := n) distinct foundA
  obtain ⟨d, leftB, worthB⟩ := picks_credit (n := n) distinct foundB
  have close : A.credit d ≤ A.credit c + 1 := picks_balanced balanced d
    (List.mem_of_getElem? leftB) c (List.mem_of_getElem? leftA)
  omega

end Accounts

end ChmlFrp.Lib
