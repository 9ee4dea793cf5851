/-
# ChmlFrp.Server.RoundRobin — which member of an http group a request goes to

`createConn` and `chooseEndpoint` of `server/group/http.go`.  Both add one to a counter
of 64 bits, read it as a signed `int` and take its remainder by the number of members,
which is negative for most values from `2 ^ 63` on: then the index panics.

* `call_eq_member_iff`: a call picks a member iff the counter is safe to read.
* `roundRobin_iff`: with `n` members, `n` calls pick each of them once iff all the counters
  that they read are safe; `chooseEndpoint` also refuses an empty name.
* `roundRobin_panics`: the first counter that is not.
-/
import ChmlFrp.Server.HttpGroup
import Mathlib.Data.List.Rotate

namespace ChmlFrp.Server.RoundRobin

set_option autoImplicit false

open ChmlFrp.Lib
open ChmlFrp.Server.HttpGroup

/-! ## The two calls -/

/-- A group with the counter of its calls.  Its names are those of its functions, and no
function is nil. -/
structure Balancer where
  group : HTTPGroup
  index : UInt64
  listed : Listed group
  callable : ∀ name fn, group.createFuncs.get name = some fn → fn.isSome

inductive Outcome where
  /-- The index is out of range. -/
  | panics
  /-- The error for no function, or no endpoint. -/
  | fails
  /-- This member's function is called, or this endpoint is returned. -/
  | member (name : GoString)
  deriving DecidableEq, Repr

/-- `int(newIndex)` -/
def toInt (newIndex : UInt64) : Int := (newIndex.toNat : Int).bmod (2 ^ 64)

/-- `g.pxyNames[int(newIndex)%len(g.pxyNames)]`; `none` is the panic. -/
def pick (pxyNames : List GoString) (newIndex : UInt64) : Option GoString :=
  let i := (toInt newIndex).tmod pxyNames.length
  if i < 0 then none else pxyNames[i.toNat]?

inductive Call where
  | createConn
  | chooseEndpoint
  deriving DecidableEq, Repr

/-- What comes of a call that has this index. -/
def outcome (g : HTTPGroup) (newIndex : UInt64) : Call → Outcome
  | .createConn =>
      if g.pxyNames.length > 0 then
        match pick g.pxyNames newIndex with
        | none => .panics
        | some name =>
            match g.createFuncs.get name with
            | some (some _) => .member name
            | _ => .fails
      else .fails
  | .chooseEndpoint =>
      if g.pxyNames.length > 0 then
        match pick g.pxyNames newIndex with
        | none => .panics
        | some name => if name = [] then .fails else .member name
      else .fails

namespace Balancer

/-- `atomic.AddUint64(&g.index, 1)`, then the pick. -/
def call (b : Balancer) (c : Call) : Outcome × Balancer :=
  let newIndex := b.index + 1
  (outcome b.group newIndex c, { b with index := newIndex })

/-- Calls with no change of the members between them. -/
def calls (b : Balancer) : List Call → List Outcome
  | [] => []
  | c :: rest => (b.call c).1 :: (b.call c).2.calls rest

end Balancer

/-! ## One call -/

/-- The counter reads as a natural number, or as a multiple of the number of members. -/
def Safe (n : Nat) (newIndex : UInt64) : Prop :=
  newIndex.toNat < 2 ^ 63 ∨ n ∣ 2 ^ 64 - newIndex.toNat

instance (n : Nat) (newIndex : UInt64) : Decidable (Safe n newIndex) :=
  inferInstanceAs (Decidable (_ ∨ _))

/-- The position that a safe counter picks. -/
def slot (n : Nat) (newIndex : UInt64) : Nat :=
  if newIndex.toNat < 2 ^ 63 then newIndex.toNat % n else 0

theorem toInt_of_lt {newIndex : UInt64} (low : newIndex.toNat < 2 ^ 63) :
    toInt newIndex = newIndex.toNat :=
  Int.bmod_eq_of_le (by omega) (by omega)

theorem toInt_of_le {newIndex : UInt64} (high : 2 ^ 63 ≤ newIndex.toNat) :
    toInt newIndex = -((2 ^ 64 - newIndex.toNat : Nat) : Int) := by
  have small := newIndex.toNat_lt
  unfold toInt
  rw [Int.bmod_eq_emod, Int.emod_eq_of_lt (by omega) (by omega), if_pos (by omega)]
  omega

theorem pick_of_safe {pxyNames : List GoString} {newIndex : UInt64}
    (safe : Safe pxyNames.length newIndex) :
    pick pxyNames newIndex = pxyNames[slot pxyNames.length newIndex]? := by
  unfold pick slot
  by_cases low : newIndex.toNat < 2 ^ 63
  · have natural : ¬ ((newIndex.toNat % pxyNames.length : Nat) : Int) < 0 := by omega
    rw [toInt_of_lt low, if_pos low, ← Int.ofNat_tmod]
    simp only
    rw [if_neg natural, Int.toNat_natCast]
  · have high : 2 ^ 63 ≤ newIndex.toNat := Nat.le_of_not_lt low
    obtain ⟨m, multiple⟩ := safe.resolve_left low
    rw [toInt_of_le high, if_neg low, Int.neg_tmod, ← Int.ofNat_tmod, multiple,
      Nat.mul_mod_right]
    simp

theorem pick_of_not_safe {pxyNames : List GoString} {newIndex : UInt64}
    (unsafe_ : ¬ Safe pxyNames.length newIndex) : pick pxyNames newIndex = none := by
  have high : 2 ^ 63 ≤ newIndex.toNat := Nat.le_of_not_lt fun low => unsafe_ (.inl low)
  have rest : (2 ^ 64 - newIndex.toNat) % pxyNames.length ≠ 0 := by
    intro zero
    exact unsafe_ (.inr (Nat.dvd_of_mod_eq_zero zero))
  unfold pick
  rw [toInt_of_le high, Int.neg_tmod, ← Int.ofNat_tmod]
  simp only
  rw [if_pos (by omega)]

theorem slot_lt {n : Nat} (some_ : 0 < n) (newIndex : UInt64) : slot n newIndex < n := by
  unfold slot
  split
  · exact Nat.mod_lt _ some_
  · exact some_

/-- The call picks a member: the counter is safe, and no endpoint has an empty name. -/
def Picks (pxyNames : List GoString) (newIndex : UInt64) (c : Call) : Prop :=
  Safe pxyNames.length newIndex ∧
    (c = .chooseEndpoint → pxyNames[slot pxyNames.length newIndex]? ≠ some [])

theorem outcome_of_picks (b : Balancer) (nonempty : b.group.pxyNames ≠ []) {newIndex : UInt64}
    {c : Call} (picks : Picks b.group.pxyNames newIndex c) :
    ∃ name, b.group.pxyNames[slot b.group.pxyNames.length newIndex]? = some name ∧
      outcome b.group newIndex c = .member name := by
  have some_ : 0 < b.group.pxyNames.length := List.length_pos_iff.2 nonempty
  have found := List.getElem?_eq_getElem (slot_lt some_ newIndex)
  refine ⟨_, found, ?_⟩
  cases c with
  | createConn =>
      have listed := (b.listed.mem_iff _).1 (List.mem_of_getElem? found)
      obtain ⟨fn, isFn⟩ := Option.isSome_iff_exists.1 listed
      obtain ⟨conn, rfl⟩ := Option.isSome_iff_exists.1 (b.callable _ fn isFn)
      simp only [outcome, if_pos some_, pick_of_safe picks.1, found, isFn]
  | chooseEndpoint =>
      have named := picks.2 rfl
      rw [found] at named
      simp only [outcome, if_pos some_, pick_of_safe picks.1, found]
      rw [if_neg fun empty => named (congrArg some empty)]

theorem picks_of_outcome {g : HTTPGroup} {newIndex : UInt64} {c : Call} {name : GoString}
    (member : outcome g newIndex c = .member name) : Picks g.pxyNames newIndex c := by
  by_cases safe : Safe g.pxyNames.length newIndex
  · refine ⟨safe, ?_⟩
    rintro rfl empty
    unfold outcome at member
    rw [pick_of_safe safe, empty] at member
    simp at member
  · have panics := pick_of_not_safe safe
    cases c <;> simp only [outcome, panics] at member <;> split at member <;> cases member

/-- **A call picks a member iff the counter is safe, and the endpoint has a name.** -/
theorem call_eq_member_iff (b : Balancer) (nonempty : b.group.pxyNames ≠ []) (c : Call) :
    (∃ name ∈ b.group.pxyNames, (b.call c).1 = .member name) ↔
      Picks b.group.pxyNames (b.index + 1) c := by
  constructor
  · rintro ⟨name, -, member⟩
    exact picks_of_outcome member
  · intro picks
    obtain ⟨name, found, member⟩ := outcome_of_picks b nonempty picks
    exact ⟨name, List.mem_of_getElem? found, member⟩

/-! ## A round of calls -/

/-- The counter of the call at position `k` of a run. -/
def counter (index : UInt64) (k : Nat) : UInt64 := index + UInt64.ofNat (k + 1)

theorem counter_succ (index : UInt64) (k : Nat) :
    counter (index + 1) k = counter index (k + 1) := by
  apply UInt64.toNat_inj.1
  simp only [counter, UInt64.toNat_add, UInt64.toNat_ofNat', UInt64.toNat_one]
  omega

theorem counter_zero (index : UInt64) : counter index 0 = index + 1 := by
  apply UInt64.toNat_inj.1
  simp only [counter, UInt64.toNat_add, UInt64.toNat_ofNat', UInt64.toNat_one]

theorem calls_getElem? (b : Balancer) (cs : List Call) (k : Nat) :
    (b.calls cs)[k]? = cs[k]?.map (outcome b.group (counter b.index k)) := by
  induction cs generalizing b k with
  | nil => rfl
  | cons c rest ih =>
      cases k with
      | zero =>
          rw [Balancer.calls, List.getElem?_cons_zero, List.getElem?_cons_zero, counter_zero]
          rfl
      | succ k =>
          rw [Balancer.calls, List.getElem?_cons_succ, List.getElem?_cons_succ, ih,
            ← counter_succ]
          rfl

/-- Two safe counters in a row with several members: the first is below `2 ^ 63`. -/
theorem lt_of_safe_pair {n : Nat} (several : 1 < n) {u v : UInt64} (next : v = u + 1)
    (safe : Safe n u) (safe' : Safe n v) : u.toNat < 2 ^ 63 := by
  by_contra high
  have dvd := safe.resolve_left high
  have small := u.toNat_lt
  have value : v.toNat = (u.toNat + 1) % 2 ^ 64 := by
    rw [next, UInt64.toNat_add, UInt64.toNat_one]
  have one : n ∣ 1 := by
    by_cases last : u.toNat = 2 ^ 64 - 1
    · rw [last] at dvd
      exact dvd
    · have high' : ¬ v.toNat < 2 ^ 63 := by omega
      have dvd' := safe'.resolve_left high'
      have step : 2 ^ 64 - u.toNat - (2 ^ 64 - v.toNat) = 1 := by omega
      exact step ▸ Nat.dvd_sub dvd dvd'
  have := Nat.le_of_dvd (by omega) one
  omega

/-- In a round whose counters are all safe, the calls pick consecutive positions. -/
theorem slot_counter {n : Nat} {index : UInt64} (safe : ∀ k < n, Safe n (counter index k)) {k : Nat}
    (within : k < n) : slot n (counter index k) = ((counter index 0).toNat + k) % n := by
  have succ : ∀ j, counter index (j + 1) = counter index j + 1 := by
    intro j
    apply UInt64.toNat_inj.1
    simp only [counter, UInt64.toNat_add, UInt64.toNat_ofNat', UInt64.toNat_one]
    omega
  by_cases several : 1 < n
  · -- up to the last one the counters stay below `2 ^ 63`
    have value : ∀ j ≤ k, (counter index j).toNat = (counter index 0).toNat + j := by
      intro j
      induction j with
      | zero => exact fun _ => rfl
      | succ j ih =>
          intro inside
          have before := ih (by omega)
          have low := lt_of_safe_pair several (succ j) (safe j (by omega))
            (safe (j + 1) (by omega))
          rw [succ j, UInt64.toNat_add, UInt64.toNat_one]
          omega
    rw [← value k (Nat.le_refl k)]
    unfold slot
    split
    · rfl
    · rename_i high
      obtain ⟨m, multiple⟩ := (safe k within).resolve_left high
      have top : (counter index k).toNat = 2 ^ 63 := by
        cases k with
        | zero =>
            have := lt_of_safe_pair several (succ 0) (safe 0 within) (safe 1 several)
            omega
        | succ k =>
            have low := lt_of_safe_pair several (succ k) (safe k (by omega)) (safe (k + 1) within)
            have := value (k + 1) (Nat.le_refl _)
            have := value k (by omega)
            omega
      rw [top] at multiple ⊢
      have half : 2 ^ 64 - 2 ^ 63 = 2 ^ 63 := by omega
      rw [half] at multiple
      rw [multiple, Nat.mul_mod_right]
  · have one : n = 1 := by omega
    subst one
    have := slot_lt Nat.one_pos (counter index k)
    omega

/-- The members in the order in which a round of safe counters picks them. -/
theorem calls_eq_rotate (b : Balancer) {cs : List Call}
    (turn : cs.length = b.group.pxyNames.length)
    (picks : ∀ k c, cs[k]? = some c → Picks b.group.pxyNames (counter b.index k) c) :
    b.calls cs = (b.group.pxyNames.rotate (counter b.index 0).toNat).map .member := by
  have safe : ∀ k < b.group.pxyNames.length, Safe b.group.pxyNames.length (counter b.index k) := by
    intro k within
    exact (picks k _ (List.getElem?_eq_getElem (turn ▸ within))).1
  apply List.ext_getElem?
  intro k
  rw [calls_getElem?]
  by_cases within : k < cs.length
  · have within' : k < b.group.pxyNames.length := turn ▸ within
    have nonempty : b.group.pxyNames ≠ [] := List.ne_nil_of_length_pos (by omega)
    have isCall := List.getElem?_eq_getElem within
    obtain ⟨name, found, member⟩ := outcome_of_picks b nonempty (picks k _ isCall)
    rw [slot_counter safe within', Nat.add_comm] at found
    rw [isCall, List.getElem?_map, List.getElem?_rotate within', found, Option.map_some,
      Option.map_some, member]
  · have outside : cs.length ≤ k := Nat.le_of_not_lt within
    rw [List.getElem?_eq_none outside, List.getElem?_eq_none (by simp; omega)]
    rfl

theorem calls_perm_iff (b : Balancer) {cs : List Call}
    (turn : cs.length = b.group.pxyNames.length) :
    (b.calls cs).Perm (b.group.pxyNames.map .member) ↔
      ∀ k c, cs[k]? = some c → Picks b.group.pxyNames (counter b.index k) c := by
  constructor
  · intro each k c isCall
    have result : outcome b.group (counter b.index k) c ∈ b.calls cs := by
      apply List.mem_of_getElem?
      rw [calls_getElem?, isCall, Option.map_some]
    obtain ⟨name, -, member⟩ := List.mem_map.1 (each.mem_iff.1 result)
    exact picks_of_outcome member.symm
  · intro picks
    rw [calls_eq_rotate b turn picks]
    exact (List.rotate_perm _ _).map _

/-- **With `n` members every call picks one, and any `n` calls pick each of them once, iff
the counters that are read are safe and no endpoint has an empty name.** -/
theorem roundRobin_iff (b : Balancer) (nonempty : b.group.pxyNames ≠ []) :
    (∀ c, (∃ name ∈ b.group.pxyNames, (b.call c).1 = .member name) ↔
      Picks b.group.pxyNames (b.index + 1) c) ∧
    ∀ cs : List Call, cs.length = b.group.pxyNames.length →
      ((b.calls cs).Perm (b.group.pxyNames.map .member) ↔
        ∀ k c, cs[k]? = some c → Picks b.group.pxyNames (counter b.index k) c) :=
  ⟨call_eq_member_iff b nonempty, fun _ turn => calls_perm_iff b turn⟩

/-- Two proxies in a group. -/
def fooBar (index : UInt64) : Balancer where
  group := { newHTTPGroup with
    createFuncs := ((∅ : GoMap GoString (Option Nat)).set (.lit "foo") (some 0)).set
      (.lit "bar") (some 1)
    pxyNames := [.lit "foo", .lit "bar"] }
  index := index
  listed := ⟨by decide, fun name => by
    simp only [GoMap.get_set, GoMap.get_empty, List.mem_cons, List.not_mem_nil, or_false]
    split <;> rename_i bar <;> [skip; (split <;> rename_i foo)] <;> simp_all⟩
  callable := fun name fn => by
    simp only [GoMap.get_set, GoMap.get_empty]
    intro found
    split at found
    · cases found
      rfl
    · split at found
      · cases found
        rfl
      · cases found

theorem roundRobin_fooBar :
    ((fooBar 7).calls [.createConn, .chooseEndpoint]).Perm
      [.member (.lit "foo"), .member (.lit "bar")] := by
  apply ((roundRobin_iff (fooBar 7) (by decide)).2 [.createConn, .chooseEndpoint] rfl).2
  intro k c isCall
  match k with
  | 0 => exact ⟨by decide, fun _ => by decide⟩
  | 1 => exact ⟨by decide, fun _ => by decide⟩
  | k + 2 => cases isCall

/-- The counter `2 ^ 63 + 1` is negative, and odd. -/
theorem roundRobin_panics :
    ((fooBar 9223372036854775808).call .createConn).1 = .panics ∧
      ((fooBar 9223372036854775808).call .chooseEndpoint).1 = .panics ∧
      ¬ ∃ name ∈ (fooBar 9223372036854775808).group.pxyNames,
        ((fooBar 9223372036854775808).call .createConn).1 = .member name := by
  decide +kernel

end ChmlFrp.Server.RoundRobin
