/-
# ChmlFrp.Server.HttpRollback — what `Run` registers, its error path and `Close` take out

`server/proxy/http.go`.  `Run` leaves one of the `closeFuncs` for each route that it has
registered, and `Close` calls them.  A route without a group was free when it was added,
so its removal is exact.  A proxy of a group has one route at the most: the group refuses
the second one, and leaving the group takes its route out with the last member.

* `closeSingles`, `leave_undoes_join`: what the `closeFuncs` undo, without and with a
  group.
* `run_all_or_nothing`: a `Run` that fails leaves every lookup and every group as it was,
  and so does one that succeeds, followed by `Close`.
-/
import ChmlFrp.Server.HttpProxy

namespace ChmlFrp.Server.HttpGroup

set_option autoImplicit false

open ChmlFrp.Lib
open ChmlFrp.Lib.Transition
open ChmlFrp.Config
open ChmlFrp.Vhost

variable {s t u : State} {pxy : HTTPProxy}

/-- `HTTPProxy.Close` after a `Run` that has registered these routes. -/
def HTTPProxy.close (pxy : HTTPProxy) (s : State) (closeFuncs : List RouteConfig) : State :=
  closeFuncs.foldl pxy.unRegister s

/-! ## What is to be as before -/

/-- The names of the group's members, in their order. -/
def State.members (s : State) (group : GoString) : List GoString :=
  match s.groups.get group with
  | none => []
  | some g => (s.heap g).pxyNames

/-- The functions of the group's members. -/
def State.createFunc (s : State) (group proxyName : GoString) : Option (Option Nat) :=
  (s.groups.get group).bind fun g => (s.heap g).createFuncs.get proxyName

/-- Every lookup of the router and every group is as in `s`. -/
structure Restored (s t : State) : Prop where
  search : ∀ host path user,
    t.vhostRouter.search host path user = s.vhostRouter.search host path user
  get : ∀ domain path user, t.vhostRouter.get domain path user = s.vhostRouter.get domain path user
  table : t.table = s.table
  members : ∀ group, t.members group = s.members group
  createFunc : ∀ group proxyName, t.createFunc group proxyName = s.createFunc group proxyName
  /-- Also of the objects that routes lead to. -/
  objects : ∀ g < s.next, (t.heap g).pxyNames = (s.heap g).pxyNames ∧
    ∀ proxyName, (t.heap g).createFuncs.get proxyName = (s.heap g).createFuncs.get proxyName

/-- A lookup depends on the table alone. -/
theorem search_congr {r r' : Routers Payload} (sorted : r.Sorted) (sorted' : r'.Sorted)
    (table : r'.table = r.table) (host path user : GoString) :
    r'.search host path user = r.search host path user := by
  apply Option.ext
  intro vr
  rw [Routers.search_eq_some_iff sorted, Routers.search_eq_some_iff sorted', table]

theorem get_congr {r r' : Routers Payload} (sorted : r.Sorted) (sorted' : r'.Sorted)
    (table : r'.table = r.table) (domain path user : GoString) :
    r'.get domain path user = r.get domain path user := by
  apply Option.ext
  intro vr
  rw [sorted.get_eq_some_iff, sorted'.get_eq_some_iff, table]

theorem Restored.of_table (sorted : s.vhostRouter.Sorted) (sorted' : t.vhostRouter.Sorted)
    (table : t.table = s.table) (members : ∀ group, t.members group = s.members group)
    (createFunc : ∀ group proxyName, t.createFunc group proxyName = s.createFunc group proxyName)
    (objects : ∀ g < s.next, (t.heap g).pxyNames = (s.heap g).pxyNames ∧
      ∀ proxyName, (t.heap g).createFuncs.get proxyName =
        (s.heap g).createFuncs.get proxyName) : Restored s t where
  search := search_congr sorted sorted' table
  get := get_congr sorted sorted' table
  table := table
  members := members
  createFunc := createFunc
  objects := objects

theorem Restored.refl (s : State) : Restored s s :=
  ⟨fun _ _ _ => rfl, fun _ _ _ => rfl, rfl, fun _ => rfl, fun _ _ => rfl,
    fun _ _ => ⟨rfl, fun _ => rfl⟩⟩

/-! ## Routes without a group -/

/-- The table without these routes. -/
def erased (table : Table Payload) (routes : List RouteConfig) : Table Payload :=
  fun d l u => if ∃ r ∈ routes, d = r.domain ∧ l = r.location ∧ u = r.routeByHTTPUser then none
    else table d l u

theorem erased_nil (table : Table Payload) : erased table [] = table := by
  funext d l u
  exact if_neg (by simp)

theorem erased_cons (table : Table Payload) (r : RouteConfig) (routes : List RouteConfig) :
    erased (table.set r.domain r.location r.routeByHTTPUser none) routes =
      erased table (r :: routes) := by
  funext d l u
  unfold erased Table.set
  by_cases rest : ∃ r ∈ routes, d = r.domain ∧ l = r.location ∧ u = r.routeByHTTPUser
  · have all : ∃ r' ∈ r :: routes, d = r'.domain ∧ l = r'.location ∧ u = r'.routeByHTTPUser := by
      obtain ⟨r', inside, same⟩ := rest
      exact ⟨r', List.mem_cons_of_mem r inside, same⟩
    rw [if_pos rest, if_pos all]
  · rw [if_neg rest]
    by_cases here : d = r.domain ∧ l = r.location ∧ u = r.routeByHTTPUser
    · rw [if_pos here, if_pos ⟨r, List.mem_cons_self, here⟩]
    · rw [if_neg here, if_neg]
      rintro ⟨r', inside, same⟩
      rcases List.mem_cons.1 inside with rfl | inside
      · exact here same
      · exact rest ⟨r', inside, same⟩

/-- What the `closeFuncs` of routes without a group leave. -/
structure ClosedSingles (s t : State) (routes : List RouteConfig) : Prop where
  sorted : t.vhostRouter.Sorted
  table : t.table = erased s.table routes
  groups : t.groups = s.groups
  heap : t.heap = s.heap

theorem closeSingles (single : pxy.cfg.group = []) (sorted : s.vhostRouter.Sorted)
    (routes : List RouteConfig) : ClosedSingles s (pxy.close s routes) routes := by
  induction routes generalizing s with
  | nil => exact ⟨sorted, (erased_nil _).symm, rfl, rfl⟩
  | cons r rest ih =>
      have first : pxy.unRegister s r =
          { s with vhostRouter := s.vhostRouter.del r.domain r.location r.routeByHTTPUser } := by
        unfold HTTPProxy.unRegister
        rw [if_neg (not_not.2 single)]
      have step :
          ClosedSingles (pxy.unRegister s r) (pxy.close (pxy.unRegister s r) rest) rest := by
        apply ih
        rw [first]
        exact sorted.del
      have table : (pxy.unRegister s r).table =
          s.table.set r.domain r.location r.routeByHTTPUser none := by
        rw [first]
        exact sorted.table_del
      exact {
        sorted := step.sorted
        table := by
          show (pxy.close (pxy.unRegister s r) rest).table = _
          rw [step.table, table, erased_cons]
        groups := by
          show (pxy.close (pxy.unRegister s r) rest).groups = _
          rw [step.groups, first]
        heap := by
          show (pxy.close (pxy.unRegister s r) rest).heap = _
          rw [step.heap, first] }

/-- The routes were free in `s`; without them the state is as `s` was. -/
structure AddedSingles (s t : State) (done : List RouteConfig) : Prop where
  sorted : t.vhostRouter.Sorted
  table : erased t.table done = s.table
  groups : t.groups = s.groups
  heap : t.heap = s.heap

theorem AddedSingles.restored (single : pxy.cfg.group = []) (sorted : s.vhostRouter.Sorted)
    {done : List RouteConfig} (added : AddedSingles s t done) :
    Restored s (pxy.close t done) := by
  have closed := closeSingles single added.sorted done
  apply Restored.of_table sorted closed.sorted
  · rw [closed.table, added.table]
  · intro group
    unfold State.members
    rw [closed.groups, closed.heap, added.groups, added.heap]
  · intro group proxyName
    unfold State.createFunc
    rw [closed.groups, closed.heap, added.groups, added.heap]
  · intro g _
    rw [closed.heap, added.heap]
    exact ⟨rfl, fun _ => rfl⟩

theorem AddedSingles.add {done : List RouteConfig} {routeConfig : RouteConfig}
    (added : AddedSingles s t done) (adds : t.add routeConfig = .ok u) :
    AddedSingles s u (done ++ [routeConfig]) := by
  obtain ⟨r, rfl, sorted, free, table⟩ := add_spec added.sorted adds
  refine ⟨sorted, ?_, added.groups, added.heap⟩
  rw [← added.table]
  funext d l v
  show erased r.table (done ++ [routeConfig]) d l v = _
  rw [table]
  unfold erased Table.set
  by_cases old : ∃ r ∈ done, d = r.domain ∧ l = r.location ∧ v = r.routeByHTTPUser
  · have all : ∃ r ∈ done ++ [routeConfig],
        d = r.domain ∧ l = r.location ∧ v = r.routeByHTTPUser := by
      obtain ⟨r', inside, same⟩ := old
      exact ⟨r', List.mem_append_left _ inside, same⟩
    rw [if_pos old, if_pos all]
  · rw [if_neg old]
    by_cases here : d = routeConfig.domain ∧ l = routeConfig.location ∧
        v = routeConfig.routeByHTTPUser
    · rw [if_pos ⟨routeConfig, by simp, here⟩]
      obtain ⟨rfl, rfl, rfl⟩ := here
      exact free.symm
    · rw [if_neg, if_neg here]
      rintro ⟨r', inside, same⟩
      rcases List.mem_append.1 inside with inDone | last
      · exact old ⟨r', inDone, same⟩
      · rw [List.mem_singleton.1 last] at same
        exact here same

/-- Without a group, a run of the loops leaves what `Close` takes back, or has done so. -/
theorem registerAll_singles (single : pxy.cfg.group = []) (sorted : s.vhostRouter.Sorted)
    {done rest : List RouteConfig} (added : AddedSingles s t done) :
    (∀ v err, pxy.registerAll t done rest = (v, some err) → Restored s v) ∧
      ∀ v, pxy.registerAll t done rest = (v, none) → AddedSingles s v (done ++ rest) := by
  induction rest generalizing t done with
  | nil =>
      constructor
      · intro v err registers
        cases registers
      · intro v registers
        cases registers
        rw [List.append_nil]
        exact added
  | cons routeConfig rest ih =>
      rw [HTTPProxy.registerAll, HTTPProxy.register, if_neg (not_not.2 single)]
      cases adds : t.add routeConfig with
      | error err =>
          constructor
          · intro v err' registers
            cases registers
            exact added.restored single sorted
          · intro v registers
            cases registers
      | ok t' =>
          have next := ih (added.add adds)
          rw [List.append_assoc] at next
          exact next

/-! ## The one route of a proxy in a group -/

/-- The names of every group object are those of its functions. -/
def AllListed (s : State) : Prop := ∀ g, Listed (s.heap g)

theorem AllListed.lookup (listed : AllListed s) {g : Nat} {group : GoString}
    (looks : s.lookup group = (g, t)) : AllListed t := by
  rcases lookup_cases looks with ⟨-, rfl⟩ | ⟨-, -, rfl⟩
  · exact listed
  · intro g'
    by_cases new : g' = s.next
    · simp only [new, Function.update_self]
      exact newHTTPGroup_listed
    · simp only [Function.update_of_ne new]
      exact listed g'

theorem AllListed.setGroup (listed : AllListed s) {g : Nat} {group : HTTPGroup}
    {r : Routers Payload} (new : Listed group) : AllListed (s.setGroup g group r) := by
  intro g'
  by_cases here : g' = g
  · simp only [State.setGroup, here, Function.update_self]
    exact new
  · simp only [State.setGroup, Function.update_of_ne here]
    exact listed g'

theorem AllListed.register (listed : AllListed s) {op : Fetched}
    (registers : s.register op = .ok t) : AllListed t := by
  obtain ⟨g', r', registers', rfl⟩ := register_eq_setGroup registers
  exact listed.setGroup ((listed op.g).register registers')

theorem step_listed (s : State) (l : Label) (t : State) (listed : AllListed s)
    (next : step s l = some t) : AllListed t := by
  cases l with
  | lookup proxyName group groupKey routeConfig =>
      obtain ⟨-, g, s', looks, rfl⟩ := step_lookup_cases next
      have looked : AllListed s' := listed.lookup looks
      exact looked
  | register i =>
      obtain ⟨op, -, rfl | registers⟩ := step_register_cases next
      · exact listed
      · have finished : AllListed { s with ops := s.ops.delete i } := listed
        exact finished.register registers
  | unRegister proxyName group =>
      obtain ⟨-, ⟨-, rfl⟩ | ⟨g, g', r', isEmpty, -, leaves, rfl⟩⟩ := unRegister_cases next
      · exact listed
      · have left : AllListed (s.setGroup g g' r') :=
          listed.setGroup ((listed g).unRegister leaves)
        exact left
  | delete =>
      obtain ⟨group, -, rfl⟩ := delete_cases next
      exact listed
  | add routeConfig =>
      obtain ⟨-, rfl | adds⟩ := add_cases next
      · exact listed
      · unfold State.add at adds
        split at adds
        · cases adds
        · cases adds
          exact listed
  | del routeConfig =>
      simp only [step] at next
      split at next
      · cases next
        exact listed
      · cases next

/-- The members of two objects are the same. -/
structure SameMembers (g g' : HTTPGroup) : Prop where
  pxyNames : g'.pxyNames = g.pxyNames
  createFuncs : ∀ proxyName, g'.createFuncs.get proxyName = g.createFuncs.get proxyName

theorem isEmpty_iff {g : HTTPGroup} :
    g.IsEmpty ↔ ∀ proxyName, g.createFuncs.get proxyName = none := by
  constructor
  · exact GoMap.get_eq_none_of_keys
  · intro none_
    by_contra nonempty
    obtain ⟨proxyName, fn, found⟩ := not_isEmpty_iff.1 nonempty
    rw [none_] at found
    cases found

theorem SameMembers.isEmpty_iff {g g' : HTTPGroup} (same : SameMembers g g') :
    g'.IsEmpty ↔ g.IsEmpty := by
  rw [HttpGroup.isEmpty_iff, HttpGroup.isEmpty_iff]
  exact forall_congr' fun proxyName => by rw [same.createFuncs]

theorem Listed.pxyNames_of_isEmpty {g : HTTPGroup} (listed : Listed g) (empty : g.IsEmpty) :
    g.pxyNames = [] := by
  apply List.eq_nil_iff_forall_not_mem.2
  intro name inside
  have member := (listed.mem_iff name).1 inside
  rw [isEmpty_iff.1 empty] at member
  cases member

/-- A `Register` of the group that succeeds adds the name, which was not there. -/
theorem register_members {g g' : HTTPGroup} {r r' : Routers Payload} {self : Nat}
    {proxyName group groupKey : GoString} {routeConfig : RouteConfig}
    (registers : g.register r self proxyName group groupKey routeConfig = .ok (g', r')) :
    g.createFuncs.get proxyName = none ∧ g'.pxyNames = g.pxyNames ++ [proxyName] ∧
      g'.createFuncs = g.createFuncs.set proxyName routeConfig.createConnFn := by
  have joins : ∀ {first last : HTTPGroup} {r₁ r₂ : Routers Payload},
      first.join r₁ proxyName routeConfig.createConnFn = .ok (last, r₂) →
        first.createFuncs.get proxyName = none ∧ last.pxyNames = first.pxyNames ++ [proxyName] ∧
          last.createFuncs = first.createFuncs.set proxyName routeConfig.createConnFn := by
    intro first last r₁ r₂ joins
    unfold HTTPGroup.join at joins
    split at joins
    · cases joins
    · rename_i free
      cases joins
      exact ⟨free, rfl, rfl⟩
  unfold HTTPGroup.register at registers
  split at registers
  · split at registers
    · cases registers
    · have first := joins registers
      exact first
  · split at registers
    · cases registers
    · split at registers
      · cases registers
      · exact joins registers

/-- The group's `UnRegister` after its `Register` takes the same name out. -/
theorem sameMembers_of_join_leave {g g' g'' : HTTPGroup} {r r' r'' : Routers Payload} {self : Nat}
    {proxyName group groupKey : GoString} {routeConfig : RouteConfig} {isEmpty : Bool}
    (listed : Listed g)
    (registers : g.register r self proxyName group groupKey routeConfig = .ok (g', r'))
    (leaves : g'.unRegister r' proxyName = (g'', r'', isEmpty)) : SameMembers g g'' := by
  obtain ⟨free, names, funcs⟩ := register_members registers
  have fresh : proxyName ∉ g.pxyNames := by simp [listed.mem_iff, free]
  have shape : g''.pxyNames = g'.pxyNames.erase proxyName ∧
      g''.createFuncs = g'.createFuncs.delete proxyName := by
    unfold HTTPGroup.unRegister at leaves
    dsimp only at leaves
    split at leaves <;> cases leaves <;> exact ⟨rfl, rfl⟩
  constructor
  · rw [shape.1, names, List.erase_append_right _ fresh]
    simp
  · intro other
    rw [shape.2, funcs, GoMap.get_delete, GoMap.get_set]
    split
    · rename_i same
      rw [same, free]
    · rfl

/-- Looking the group up may leave a new object under the name, without members. -/
theorem restored_of_lookup (inv : Inv s) {g : Nat} {group : GoString}
    (looks : s.lookup group = (g, t)) : Restored s t := by
  have sorted' : t.vhostRouter.Sorted := (inv.lookup looks).sorted
  rcases lookup_cases looks with ⟨-, rfl⟩ | ⟨absent, rfl, rfl⟩
  · exact .refl _
  · have old : ∀ name g, s.groups.get name = some g → name ≠ group ∧ g ≠ s.next := by
      intro name g found
      refine ⟨?_, Nat.ne_of_lt (inv.stored name g found).1⟩
      rintro rfl
      rw [absent] at found
      cases found
    apply Restored.of_table inv.sorted sorted' rfl
    · intro name
      by_cases here : name = group
      · simp [State.members, here, absent, newHTTPGroup]
      · simp only [State.members, GoMap.get_set, if_neg here]
        cases found : s.groups.get name with
        | none => rfl
        | some g => simp only [Function.update_of_ne (old name g found).2]
    · intro name proxyName
      by_cases here : name = group
      · simp [State.createFunc, here, absent, newHTTPGroup]
      · simp only [State.createFunc, GoMap.get_set, if_neg here]
        cases found : s.groups.get name with
        | none => rfl
        | some g => simp only [Option.bind_some, Function.update_of_ne (old name g found).2]
    · intro g less
      simp only [Function.update_of_ne (Nat.ne_of_lt less)]
      exact ⟨trivial, fun _ => trivial⟩

theorem Restored.trans (first : Restored s t) (second : Restored t u) (grows : s.next ≤ t.next) :
    Restored s u where
  search host path user := (second.search host path user).trans (first.search host path user)
  get domain path user := (second.get domain path user).trans (first.get domain path user)
  table := second.table.trans first.table
  members group := (second.members group).trans (first.members group)
  createFunc group proxyName :=
    (second.createFunc group proxyName).trans (first.createFunc group proxyName)
  objects g less := by
    obtain ⟨names, funcs⟩ := first.objects g less
    obtain ⟨names', funcs'⟩ := second.objects g (Nat.lt_of_lt_of_le less grows)
    exact ⟨names'.trans names, fun proxyName => (funcs' proxyName).trans (funcs proxyName)⟩

/-- The object has the same members as before, and its name is still there or was the name
of an empty group. -/
theorem restored_of_sameMembers (inv : Inv s) (listed : AllListed s) {g : Nat} {group : GoString}
    (found : s.groups.get group = some g) {g' : HTTPGroup} {r : Routers Payload}
    (same : SameMembers (s.heap g) g') (sorted : r.Sorted) (table : r.table = s.table)
    {groups : GoMap GoString Nat}
    (names : groups = s.groups ∨ (s.heap g).IsEmpty ∧ groups = s.groups.delete group)
    (deleting : Option GoString) :
    Restored s { s with
      groups := groups, vhostRouter := r, heap := Function.update s.heap g g',
      deleting := deleting } := by
  have objects : ∀ g₂, (Function.update s.heap g g' g₂).pxyNames = (s.heap g₂).pxyNames ∧
      ∀ proxyName, (Function.update s.heap g g' g₂).createFuncs.get proxyName =
        (s.heap g₂).createFuncs.get proxyName := by
    intro g₂
    by_cases here : g₂ = g
    · rw [here, Function.update_self]
      exact ⟨same.pxyNames, same.createFuncs⟩
    · rw [Function.update_of_ne here]
      exact ⟨rfl, fun _ => rfl⟩
  refine Restored.of_table inv.sorted ?_ ?_ ?_ ?_ ?_
  · exact sorted
  · exact table
  · intro name
    simp only [State.members]
    rcases names with rfl | ⟨empty, rfl⟩
    · cases s.groups.get name with
      | none => rfl
      | some g₂ => exact (objects g₂).1
    · by_cases here : name = group
      · simp only [GoMap.get_delete, here, if_true, found]
        exact ((listed g).pxyNames_of_isEmpty empty).symm
      · simp only [GoMap.get_delete, if_neg here]
        cases s.groups.get name with
        | none => rfl
        | some g₂ => exact (objects g₂).1
  · intro name proxyName
    simp only [State.createFunc]
    rcases names with rfl | ⟨empty, rfl⟩
    · cases s.groups.get name with
      | none => rfl
      | some g₂ => exact (objects g₂).2 proxyName
    · by_cases here : name = group
      · simp only [GoMap.get_delete, here, if_true, found]
        exact (isEmpty_iff.1 empty proxyName).symm
      · simp only [GoMap.get_delete, if_neg here]
        cases s.groups.get name with
        | none => rfl
        | some g₂ => exact (objects g₂).2 proxyName
  · intro g₂ _
    exact objects g₂

/-- **Leaving a group undoes joining it.** -/
theorem leave_undoes_join (inv : Inv s) (listed : AllListed s) {op : Fetched}
    (found : s.groups.get op.group = some op.g) (registers : s.register op = .ok t) :
    Restored s (t.unRegister op.proxyName op.group).await := by
  obtain ⟨g', r', registers', rfl⟩ := register_eq_setGroup registers
  have joined := register_eq_ok inv.sorted registers'
  rcases leaves : g'.unRegister r' op.proxyName with ⟨g'', r'', isEmpty⟩
  have same := sameMembers_of_join_leave (listed op.g) registers' leaves
  have at_g : (s.setGroup op.g g' r').heap op.g = g' := Function.update_self ..
  have stored : (s.setGroup op.g g' r').groups.get op.group = some op.g := found
  have left : (s.setGroup op.g g' r').unRegister op.proxyName op.group =
      { s with
        vhostRouter := r''
        heap := Function.update s.heap op.g g''
        deleting := if isEmpty then some op.group else none } := by
    unfold State.unRegister
    rw [stored]
    simp only [at_g]
    simp [State.setGroup, Function.update_idem, leaves]
  obtain ⟨-, domain, location, user, ends⟩ := unRegister_spec leaves
  rw [left]
  rcases ends with ⟨empty, rfl, rfl⟩ | ⟨nonempty, rfl, rfl, -⟩
  · -- the proxy was the first member, and its route was free
    have wasEmpty := same.isEmpty_iff.1 empty
    obtain ⟨free, table⟩ : s.table op.routeConfig.domain op.routeConfig.location
        op.routeConfig.routeByHTTPUser = none ∧ r'.table = s.table.set op.routeConfig.domain
          op.routeConfig.location op.routeConfig.routeByHTTPUser
          (some ⟨some op.g, op.routeConfig⟩) := by
      rcases joined.ends with ⟨-, free, table⟩ | ⟨nonempty, -⟩
      · exact ⟨free, table⟩
      · exact absurd wasEmpty nonempty
    have back : (r'.del g'.domain g'.location g'.routeByHTTPUser).table = s.table := by
      rw [joined.sorted.table_del, joined.fits.domain, joined.fits.location,
        joined.fits.routeByHTTPUser, table]
      funext d l v
      simp only [Table.apply, Table.set]
      by_cases here : d = op.routeConfig.domain ∧ l = op.routeConfig.location ∧
          v = op.routeConfig.routeByHTTPUser
      · rw [if_pos here]
        obtain ⟨rfl, rfl, rfl⟩ := here
        exact free.symm
      · rw [if_neg here, if_neg here]
    exact restored_of_sameMembers inv listed found same joined.sorted.del back
      (.inr ⟨wasEmpty, rfl⟩) none
  · have still := same.isEmpty_iff.not.1 nonempty
    obtain rfl : r'' = s.vhostRouter := by
      rcases joined.ends with ⟨empty, -⟩ | ⟨-, same, -⟩
      · exact absurd empty still
      · exact same
    exact restored_of_sameMembers inv listed found same inv.sorted rfl (.inl rfl) none

theorem await_of_idle (idle : s.deleting = none) : s.await = s := by
  unfold State.await
  rw [idle]

/-- The group has the proxy, so it refuses another route of it, whatever it asks for. -/
theorem register_again (grouped : pxy.cfg.group ≠ []) (idle : s.deleting = none) {g : Nat}
    (found : s.groups.get pxy.cfg.group = some g)
    (member : ((s.heap g).createFuncs.get pxy.name).isSome) (routeConfig : RouteConfig) :
    ∃ err, pxy.register s routeConfig = (s, some err) := by
  have looks : s.lookup pxy.cfg.group = (g, s) := by
    unfold State.lookup
    rw [found]
  have refused : ∃ err, s.register
      ⟨g, pxy.name, pxy.cfg.group, pxy.cfg.groupKey, routeConfig⟩ = .error err := by
    cases registers : s.register ⟨g, pxy.name, pxy.cfg.group, pxy.cfg.groupKey, routeConfig⟩ with
    | error err => exact ⟨err, rfl⟩
    | ok t =>
        obtain ⟨g', r', registers', -⟩ := register_eq_setGroup registers
        rw [(register_members registers').1] at member
        cases member
  obtain ⟨err, registers⟩ := refused
  refine ⟨err, ?_⟩
  rw [HTTPProxy.register, if_pos grouped, await_of_idle idle, looks]
  simp only [registers]

/-- The first route of a proxy with a group: it is refused, or the proxy is in the group
until it leaves, which undoes all of it. -/
theorem register_first (inv : Inv s) (listed : AllListed s) (idle : s.deleting = none)
    (grouped : pxy.cfg.group ≠ []) (routeConfig : RouteConfig) :
    (∃ t err, pxy.register s routeConfig = (t, some err) ∧ Restored s t) ∨
      ∃ t g, pxy.register s routeConfig = (t, none) ∧ t.deleting = none ∧
        t.groups.get pxy.cfg.group = some g ∧
        ((t.heap g).createFuncs.get pxy.name).isSome ∧
        ∀ left, Restored s (pxy.unRegister t left) := by
  rcases looks : s.lookup pxy.cfg.group with ⟨g, s'⟩
  have spec := inv.looksUp looks
  have looked := restored_of_lookup inv looks
  rw [HTTPProxy.register, if_pos grouped, await_of_idle idle, looks]
  dsimp only
  cases registers : s'.register ⟨g, pxy.name, pxy.cfg.group, pxy.cfg.groupKey, routeConfig⟩ with
  | error err => exact .inl ⟨s', err, rfl, looked⟩
  | ok t =>
      obtain ⟨g', r', registers', rfl⟩ := register_eq_setGroup registers
      have idle' : (s'.setGroup g g' r').deleting = none := spec.deleting.trans idle
      refine .inr ⟨_, g, rfl, idle', spec.found, ?_, fun left => ?_⟩
      · have at_g : (s'.setGroup g g' r').heap g = g' := Function.update_self ..
        rw [at_g, (register_members registers').2.2]
        simp
      · rw [HTTPProxy.unRegister, if_pos grouped, await_of_idle idle']
        have grows : s.next ≤ s'.next := by
          rcases lookup_cases looks with ⟨-, rfl⟩ | ⟨-, -, rfl⟩
          · exact Nat.le_refl _
          · exact Nat.le_succ _
        have undone : Restored s' ((s'.setGroup g g' r').unRegister pxy.name pxy.cfg.group).await :=
          leave_undoes_join (inv.lookup looks) (listed.lookup looks) spec.found registers
        exact looked.trans undone grows

/-! ## Run and Close -/

theorem registerAll_grouped (inv : Inv s) (listed : AllListed s) (idle : s.deleting = none)
    (grouped : pxy.cfg.group ≠ []) (routes : List RouteConfig) :
    (∀ t err, pxy.registerAll s [] routes = (t, some err) → Restored s t) ∧
      ∀ t, pxy.registerAll s [] routes = (t, none) → Restored s (pxy.close t routes) := by
  cases routes with
  | nil =>
      constructor
      · intro t err registers
        cases registers
      · intro t registers
        cases registers
        exact .refl s
  | cons routeConfig rest =>
      rw [HTTPProxy.registerAll]
      rcases register_first inv listed idle grouped routeConfig with
        ⟨t, err, refused, restored⟩ | ⟨t, g, joined, idle', found, member, undoes⟩
      · rw [refused]
        constructor
        · intro v err' registers
          cases registers
          exact restored
        · intro v registers
          cases registers
      · rw [joined]
        cases rest with
        | nil =>
            constructor
            · intro v err registers
              cases registers
            · intro v registers
              cases registers
              exact undoes routeConfig
        | cons second rest =>
            obtain ⟨err, refused⟩ := register_again grouped idle' found member second
            dsimp only
            rw [HTTPProxy.registerAll, refused]
            constructor
            · intro v err' registers
              cases registers
              exact undoes routeConfig
            · intro v registers
              cases registers

/-- **Run is all or nothing, and Close undoes it.** -/
theorem run_all_or_nothing (reached : Reachable step start s) (idle : s.deleting = none)
    (pxy : HTTPProxy) :
    (∀ t err, pxy.run s = (t, .error err) → Restored s t) ∧
      ∀ t remoteAddr, pxy.run s = (t, .ok remoteAddr) → Restored s (pxy.close t pxy.routes) := by
  have inv : Inv s := reached.invariant step_inv start_inv
  have listed : AllListed s := reached.invariant step_listed fun _ => newHTTPGroup_listed
  have registered : (∀ t err, pxy.registerAll s [] pxy.routes = (t, some err) → Restored s t) ∧
      ∀ t, pxy.registerAll s [] pxy.routes = (t, none) →
        Restored s (pxy.close t pxy.routes) := by
    by_cases single : pxy.cfg.group = []
    · have none_ : AddedSingles s s [] := ⟨inv.sorted, erased_nil _, rfl, rfl⟩
      constructor
      · exact (registerAll_singles single inv.sorted none_).1
      · intro t registers
        have added := (registerAll_singles single inv.sorted none_).2 t registers
        exact added.restored single inv.sorted
    · exact registerAll_grouped inv listed idle single pxy.routes
  unfold HTTPProxy.run
  constructor
  · intro t err runs
    split at runs
    · rename_i v err' registers
      cases runs
      exact registered.1 _ _ registers
    · cases runs
  · intro t remoteAddr runs
    split at runs
    · cases runs
    · rename_i v registers
      cases runs
      exact registered.2 _ registers

/-- A proxy of a group with two domains, which the group refuses. -/
def twoDomains : HTTPProxy where
  name := GoString.lit "web"
  cfg := {
    customDomains := [GoString.lit "a.example.com", GoString.lit "b.example.com"]
    bandwidthLimitMode := bandwidthLimitModeClient
    group := GoString.lit "pool" }
  serverCfg := ⟨80, 443, 0, []⟩
  getRealConn := 0

theorem run_all_or_nothing_two_domains :
    (∃ t, twoDomains.run start = (t, .error .groupParamsInvalid) ∧ Restored start t) ∧
      ∃ t remoteAddr, (onlyDomain (GoString.lit "example.com")).run start = (t, .ok remoteAddr) ∧
        Restored start ((onlyDomain (GoString.lit "example.com")).close t
          (onlyDomain (GoString.lit "example.com")).routes) := by
  have reached : Reachable step start start := ⟨[], rfl⟩
  constructor
  · have fails : twoDomains.run start = ((twoDomains.run start).1, .error .groupParamsInvalid) :=
      Prod.ext rfl (by decide)
    exact ⟨_, fails, (run_all_or_nothing reached rfl twoDomains).1 _ _ fails⟩
  · have runs : (onlyDomain (GoString.lit "example.com")).run start =
        (((onlyDomain (GoString.lit "example.com")).run start).1,
          .ok (GoString.lit "example.com")) := Prod.ext rfl (by decide)
    exact ⟨_, _, runs, (run_all_or_nothing reached rfl _).2 _ _ runs⟩

end ChmlFrp.Server.HttpGroup
