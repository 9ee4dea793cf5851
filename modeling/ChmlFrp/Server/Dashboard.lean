/-
# ChmlFrp.Server.Dashboard — the dashboard's actions on a user

`SearchByID` of `server/control.go`, and the actions that go through it: `CloseUser` and
`CloseUserProxy` of `server/service.go` and `APICloseUserProxy` of `server/dashboard_api.go`.
The controls are stored by run id.  A run id is the user and a random suffix, unless the
client sends its own; the search takes a run id that contains the user and a dash for
one of the user, and the last one that `range` comes to is the result.

* `only_the_user_iff`: when the search finds a control of the user and no other.
* `generated_iff`: if every run id is generated, this is so unless the name of another user
  ends with the name searched for.
-/
import ChmlFrp.Lib.GoMap
import ChmlFrp.Lib.GoString
import Mathlib.Data.List.Basic
import Mathlib.Logic.Function.Basic

namespace ChmlFrp.Server.Dashboard

set_option autoImplicit false

open ChmlFrp.Lib

structure Control where
  /-- `loginMsg.User` -/
  user : GoString
  proxies : Finset GoString
  /-- `allShutdown.Start` was called. -/
  stopping : Bool

structure State where
  ctlsByRunID : GoMap GoString Nat
  controls : Nat → Control

def dash : UInt8 := 45

/-- The run id that `RegisterControl` uses. -/
def runID (user loginRunID randid : GoString) : GoString :=
  if loginRunID = [] then user ++ dash :: randid else loginRunID

namespace State

variable (s : State)

/-- An order in which `range` can visit the map. -/
def Ranges (order : List GoString) : Prop :=
  order.Nodup ∧ order.toFinset = s.ctlsByRunID.keys

/-- `ControlManager.SearchByID`.  No nil is stored in the map. -/
def searchByID (order : List GoString) (user : GoString) : Option Nat :=
  order.foldl (fun ctl k =>
    if GoString.contains k (user ++ [dash]) then (s.ctlsByRunID.get k).or ctl else ctl) none

def set (c : Nat) (ctl : Control) : State :=
  { s with controls := Function.update s.controls c ctl }

end State

inductive Err where
  | userNotLogin
  | proxyNotFound (proxyName : GoString)
  deriving DecidableEq, Repr

section Actions

variable (s : State) (order : List GoString) (user : GoString)

def closeUser : State × Except Err Unit :=
  match s.searchByID order user with
  | none => (s, .error .userNotLogin)
  | some c => (s.set c { s.controls c with stopping := true }, .ok ())

/-- `CloseUserProxy`; `CloseProxy` does not mind a proxy that is not there. -/
def closeUserProxy (proxyName : GoString) : State × Except Err Unit :=
  match s.searchByID order user with
  | none => (s, .error .userNotLogin)
  | some c =>
      (s.set c { s.controls c with proxies := (s.controls c).proxies.erase proxyName }, .ok ())

/-- `APICloseUserProxy`, with `ForceCloseProxy`. -/
def apiCloseUserProxy (proxyName : GoString) : State × Except Err Unit :=
  match s.searchByID order user with
  | none => (s, .error .userNotLogin)
  | some c =>
      if proxyName ∈ (s.controls c).proxies then
        (s.set c { s.controls c with proxies := (s.controls c).proxies.erase proxyName }, .ok ())
      else (s, .error (.proxyNotFound proxyName))

end Actions

inductive Action where
  | closeUser
  | closeUserProxy (proxyName : GoString)
  | forceCloseProxy (proxyName : GoString)

def act (s : State) (order : List GoString) (user : GoString) : Action → State × Except Err Unit
  | .closeUser => closeUser s order user
  | .closeUserProxy proxyName => closeUserProxy s order user proxyName
  | .forceCloseProxy proxyName => apiCloseUserProxy s order user proxyName

/-- Whatever the order of the map, the search finds a control of the user and no other, if
there is one, and no action changes a control of another user. -/
structure OnlyTheUser (s : State) (user : GoString) : Prop where
  found : ∀ order, s.Ranges order → ∀ c, s.searchByID order user = some c →
    (s.controls c).user = user
  finds : ∀ order, s.Ranges order →
    (∃ k c, s.ctlsByRunID.get k = some c ∧ (s.controls c).user = user) →
    (s.searchByID order user).isSome
  others : ∀ order, s.Ranges order → ∀ action c, (s.controls c).user ≠ user →
    (act s order user action).1.controls c = s.controls c

section Search

variable {s : State} {order : List GoString} {user : GoString}

theorem searchByID_append (before : List GoString) (k : GoString) :
    s.searchByID (before ++ [k]) user =
      if GoString.contains k (user ++ [dash]) then
        (s.ctlsByRunID.get k).or (s.searchByID before user)
      else s.searchByID before user := by
  simp only [State.searchByID, List.foldl_append, List.foldl_cons, List.foldl_nil]

/-- What is found stands under a run id with the user and a dash. -/
theorem of_searchByID {c : Nat} (found : s.searchByID order user = some c) :
    ∃ k ∈ order, s.ctlsByRunID.get k = some c ∧ GoString.contains k (user ++ [dash]) = true := by
  induction order using List.reverseRecOn with
  | nil => cases found
  | append_singleton before k ih =>
      rw [searchByID_append] at found
      have earlier : s.searchByID before user = some c →
          ∃ k' ∈ before ++ [k], s.ctlsByRunID.get k' = some c ∧
            GoString.contains k' (user ++ [dash]) = true := by
        intro found
        obtain ⟨k', mem, entry⟩ := ih found
        exact ⟨k', List.mem_append_left _ mem, entry⟩
      split at found
      · rename_i matches_
        rcases Option.or_eq_some_iff.1 found with here | ⟨-, before_⟩
        · exact ⟨k, List.mem_append_right _ (List.mem_singleton_self k), here, matches_⟩
        · exact earlier before_
      · exact earlier found

/-- A run id with the user and a dash is enough to find something. -/
theorem searchByID_isSome {k : GoString} {c : Nat} (mem : k ∈ order)
    (entry : s.ctlsByRunID.get k = some c)
    (matches_ : GoString.contains k (user ++ [dash]) = true) :
    (s.searchByID order user).isSome := by
  induction order using List.reverseRecOn with
  | nil => cases mem
  | append_singleton before k' ih =>
      rw [searchByID_append]
      rcases List.mem_append.1 mem with earlier | here
      · split
        · rw [Option.isSome_or, ih earlier, Bool.or_true]
        · exact ih earlier
      · rw [List.mem_singleton] at here
        subst here
        rw [if_pos matches_, entry]
        rfl

/-- Some order comes to a given run id last. -/
theorem exists_ranges_last {k : GoString} {c : Nat} (entry : s.ctlsByRunID.get k = some c) :
    ∃ before, s.Ranges (before ++ [k]) := by
  have mem : k ∈ s.ctlsByRunID.keys := GoMap.mem_keys_iff.2 ⟨c, entry⟩
  refine ⟨(s.ctlsByRunID.keys.erase k).toList, ?_, ?_⟩
  · rw [List.nodup_append]
    refine ⟨Finset.nodup_toList _, List.nodup_singleton k, ?_⟩
    intro a first b second
    rw [Finset.mem_toList] at first
    rw [List.mem_singleton] at second
    subst second
    exact (Finset.mem_erase.1 first).1
  · ext a
    by_cases same : a = k
    · simp [same, mem]
    · simp [same]

theorem mem_of_ranges (ranges : s.Ranges order) {k : GoString} {c : Nat}
    (entry : s.ctlsByRunID.get k = some c) : k ∈ order := by
  rw [← List.mem_toFinset, ranges.2]
  exact GoMap.mem_keys_iff.2 ⟨c, entry⟩

/-- An action reaches the control that is found, and no other. -/
theorem act_others {action : Action} {c : Nat} (other : s.searchByID order user ≠ some c) :
    (act s order user action).1.controls c = s.controls c := by
  have set_other : ∀ d ctl, s.searchByID order user = some d →
      (s.set d ctl).controls c = s.controls c := by
    intro d ctl found
    apply Function.update_of_ne
    rintro rfl
    exact other found
  cases action with
  | closeUser =>
      simp only [act, closeUser]
      split
      · rfl
      · exact set_other _ _ ‹_›
  | closeUserProxy proxyName =>
      simp only [act, closeUserProxy]
      split
      · rfl
      · exact set_other _ _ ‹_›
  | forceCloseProxy proxyName =>
      simp only [act, apiCloseUserProxy]
      split
      · rfl
      · split
        · exact set_other _ _ ‹_›
        · rfl

end Search

/-- Every run id that a search can take belongs to the user. -/
theorem OnlyTheUser.named {s : State} {user : GoString} (only : OnlyTheUser s user)
    {k : GoString} {c : Nat} (entry : s.ctlsByRunID.get k = some c)
    (matches_ : GoString.contains k (user ++ [dash]) = true) : (s.controls c).user = user := by
  obtain ⟨before, ranges⟩ := exists_ranges_last entry
  apply only.found _ ranges
  rw [searchByID_append, if_pos matches_, entry]
  rfl

/-- A user who is logged in has some run id that a search can take. -/
theorem OnlyTheUser.present {s : State} {user : GoString} (only : OnlyTheUser s user)
    (logged : ∃ k c, s.ctlsByRunID.get k = some c ∧ (s.controls c).user = user) :
    ∃ k c, s.ctlsByRunID.get k = some c ∧ GoString.contains k (user ++ [dash]) = true := by
  obtain ⟨k, c, entry, own⟩ := logged
  obtain ⟨before, ranges⟩ := exists_ranges_last entry
  obtain ⟨d, found⟩ := Option.isSome_iff_exists.1 (only.finds _ ranges ⟨k, c, entry, own⟩)
  obtain ⟨k', -, entry', matches_⟩ := of_searchByID found
  exact ⟨k', d, entry', matches_⟩

theorem OnlyTheUser.of_named {s : State} {user : GoString}
    (named : ∀ k c, s.ctlsByRunID.get k = some c →
      GoString.contains k (user ++ [dash]) = true → (s.controls c).user = user)
    (present : (∃ k c, s.ctlsByRunID.get k = some c ∧ (s.controls c).user = user) →
      ∃ k c, s.ctlsByRunID.get k = some c ∧ GoString.contains k (user ++ [dash]) = true) :
    OnlyTheUser s user := by
  have found : ∀ order c, s.searchByID order user = some c → (s.controls c).user = user := by
    intro order c found
    obtain ⟨k, -, entry, matches_⟩ := of_searchByID found
    exact named k c entry matches_
  refine ⟨fun order _ c => found order c, ?_, ?_⟩
  · intro order ranges logged
    obtain ⟨k, c, entry, matches_⟩ := present logged
    exact searchByID_isSome (mem_of_ranges ranges entry) entry matches_
  · intro order _ action c other
    exact act_others fun reached => other (found order c reached)

/-- **The dashboard reaches the named user only iff** every run id with the user's name and
a dash in it is the user's, and there is one if the user is logged in. -/
theorem only_the_user_iff (s : State) (user : GoString) :
    OnlyTheUser s user ↔
      (∀ k c, s.ctlsByRunID.get k = some c → GoString.contains k (user ++ [dash]) = true →
        (s.controls c).user = user) ∧
      ((∃ k c, s.ctlsByRunID.get k = some c ∧ (s.controls c).user = user) →
        ∃ k c, s.ctlsByRunID.get k = some c ∧
          GoString.contains k (user ++ [dash]) = true) := by
  constructor
  · intro only
    exact ⟨fun k c entry => only.named entry, only.present⟩
  · rintro ⟨named, present⟩
    exact .of_named named present

/-- The user "ba", with a generated run id, is the one that a search for "a" finds. -/
def oneUser : State :=
  ⟨(∅ : GoMap GoString Nat).set (runID (GoString.lit "ba") [] (GoString.lit "3f")) 0,
    fun _ => ⟨GoString.lit "ba", {GoString.lit "ba.ssh"}, false⟩⟩

theorem other_user_found : ¬ OnlyTheUser oneUser (GoString.lit "a") := by
  intro only
  have ranges : oneUser.Ranges [GoString.lit "ba-3f"] := by
    refine ⟨List.nodup_singleton _, ?_⟩
    decide
  have user := only.found _ ranges 0 (by decide)
  exact absurd user (by decide)

/-! ## Generated run ids -/

/-- The user and a dash occur in a generated run id exactly at the end of its user. -/
theorem contains_runID_iff {user owner randid : GoString} (name : dash ∉ owner)
    (suffix : dash ∉ randid) :
    GoString.contains (runID owner [] randid) (user ++ [dash]) = true ↔ user <:+ owner := by
  rw [GoString.contains_iff, runID, if_pos rfl]
  constructor
  · rintro ⟨before, after, split_⟩
    rw [← List.append_assoc, List.append_assoc _ [dash] after, List.singleton_append] at split_
    obtain ⟨owner_eq, -⟩ := (List.append_cons_inj_of_notMem name suffix).1 split_.symm
    exact ⟨before, owner_eq.symm⟩
  · rintro ⟨before, rfl⟩
    exact ⟨before, randid, by simp⟩

/-- **With generated run ids** the dashboard reaches the named user only iff no other
user's name ends with that name. -/
theorem generated_iff (s : State) (user : GoString)
    (generated : ∀ k c, s.ctlsByRunID.get k = some c → dash ∉ (s.controls c).user ∧
      ∃ randid, dash ∉ randid ∧ k = runID (s.controls c).user [] randid) :
    OnlyTheUser s user ↔ ∀ k c, s.ctlsByRunID.get k = some c → user <:+ (s.controls c).user →
      (s.controls c).user = user := by
  have matches_iff : ∀ k c, s.ctlsByRunID.get k = some c →
      (GoString.contains k (user ++ [dash]) = true ↔ user <:+ (s.controls c).user) := by
    intro k c entry
    obtain ⟨name, randid, suffix, here⟩ := generated k c entry
    rw [here]
    exact contains_runID_iff name suffix
  constructor
  · intro only k c entry ends
    exact only.named entry ((matches_iff k c entry).2 ends)
  · intro exact_
    apply OnlyTheUser.of_named
    · intro k c entry matches_
      exact exact_ k c entry ((matches_iff k c entry).1 matches_)
    · rintro ⟨k, c, entry, own⟩
      refine ⟨k, c, entry, (matches_iff k c entry).2 ?_⟩
      rw [own]

end ChmlFrp.Server.Dashboard
