/-
# ChmlFrp.Server.HttpGroup — the groups of http proxies and their routes

`server/group/http.go`.  `Register` of the controller gets the group object or makes one,
under the controller's lock, and registers the proxy there, under the group's.
`UnRegister` holds the controller's lock from the lookup to the `delete` of the name, and
the group's only for the part between.  The first member adds the route of the group to
the router of the vhosts, and the last one takes it out.

* `controller_and_router_agree`: in the runs in which a proxy becomes the first member of
  the group object only while that object is under its name to stay, the groups with
  members are those under their names and those with a route, and every other name can be
  registered; any other first member is left in a group that is not under its name.
* `late_register_joins_lost_group`: a `Register` that has the object before the last
  `UnRegister`.
-/
import ChmlFrp.Vhost.Lookup

namespace ChmlFrp.Server.HttpGroup

set_option autoImplicit false

open ChmlFrp.Lib
open ChmlFrp.Lib.Transition
open ChmlFrp.Vhost

inductive Err where
  | routerConfigConflict
  | groupParamsInvalid
  | groupAuthFailed
  | proxyRepeated
  deriving DecidableEq, Repr

/-- What a route leads to: the members of a group object, or the proxy itself. -/
structure Payload where
  group : Option Nat
  routeConfig : RouteConfig
  deriving DecidableEq, Repr

structure HTTPGroup where
  group : GoString
  groupKey : GoString
  domain : GoString
  location : GoString
  routeByHTTPUser : GoString
  createFuncs : GoMap GoString (Option Nat)
  pxyNames : List GoString

/-- `NewHTTPGroup` -/
def newHTTPGroup : HTTPGroup := ⟨[], [], [], [], [], ∅, []⟩

namespace HTTPGroup

/-- `len(g.createFuncs) == 0` -/
def IsEmpty (g : HTTPGroup) : Prop := g.createFuncs.keys = ∅

instance (g : HTTPGroup) : Decidable g.IsEmpty :=
  inferInstanceAs (Decidable (g.createFuncs.keys = ∅))

/-- The last lines of `Register`. -/
def join (g : HTTPGroup) (vhostRouter : Routers Payload) (proxyName : GoString)
    (createConnFn : Option Nat) : Except Err (HTTPGroup × Routers Payload) :=
  match g.createFuncs.get proxyName with
  | some _ => .error .proxyRepeated
  | none =>
      .ok
        ({ g with
            createFuncs := g.createFuncs.set proxyName createConnFn
            pxyNames := g.pxyNames ++ [proxyName] },
          vhostRouter)

/-- `HTTPGroup.Register`; the route gets the functions of the object `self`. -/
def register (g : HTTPGroup) (vhostRouter : Routers Payload) (self : Nat)
    (proxyName group groupKey : GoString) (routeConfig : RouteConfig) :
    Except Err (HTTPGroup × Routers Payload) :=
  if g.IsEmpty then
    match vhostRouter.add routeConfig.domain routeConfig.location routeConfig.routeByHTTPUser
        ⟨some self, routeConfig⟩ with
    | none => .error .routerConfigConflict
    | some vhostRouter =>
        let g := { g with
          group := group
          groupKey := groupKey
          domain := routeConfig.domain
          location := routeConfig.location
          routeByHTTPUser := routeConfig.routeByHTTPUser }
        g.join vhostRouter proxyName routeConfig.createConnFn
  else if g.group ≠ group ∨ g.domain ≠ routeConfig.domain ∨
      g.location ≠ routeConfig.location ∨ g.routeByHTTPUser ≠ routeConfig.routeByHTTPUser then
    .error .groupParamsInvalid
  else if g.groupKey ≠ groupKey then .error .groupAuthFailed
  else g.join vhostRouter proxyName routeConfig.createConnFn

/-- `HTTPGroup.UnRegister` -/
def unRegister (g : HTTPGroup) (vhostRouter : Routers Payload) (proxyName : GoString) :
    HTTPGroup × Routers Payload × Bool :=
  let g := { g with
    createFuncs := g.createFuncs.delete proxyName
    pxyNames := g.pxyNames.erase proxyName }
  if g.IsEmpty then (g, vhostRouter.del g.domain g.location g.routeByHTTPUser, true)
  else (g, vhostRouter, false)

end HTTPGroup

/-! ## The machine -/

/-- A `Register` that has the group object. -/
structure Fetched where
  g : Nat
  proxyName : GoString
  group : GoString
  groupKey : GoString
  routeConfig : RouteConfig

structure State where
  groups : GoMap GoString Nat
  vhostRouter : Routers Payload
  heap : Nat → HTTPGroup
  /-- The next group object. -/
  next : Nat
  ops : GoMap Nat Fetched
  nextOp : Nat
  /-- What the `UnRegister` that holds the controller's lock has still to delete. -/
  deleting : Option GoString

def start : State := ⟨∅, newRouters, fun _ => newHTTPGroup, 0, ∅, 0, none⟩

inductive Label where
  /-- The first part of the controller's `Register`.  Nobody asks for an empty domain. -/
  | lookup (proxyName group groupKey : GoString) (routeConfig : RouteConfig)
  /-- The group's `Register`. -/
  | register (i : Nat)
  /-- `UnRegister`, up to the `delete` if the group is empty. -/
  | unRegister (proxyName group : GoString)
  | delete
  /-- `Register` of a proxy without a group at the reverse proxy. -/
  | add (routeConfig : RouteConfig)
  /-- `UnRegister` of the route of a proxy without a group. -/
  | del (routeConfig : RouteConfig)

namespace State

variable (s : State)

def table : Table Payload := s.vhostRouter.table

def setGroup (g : Nat) (group : HTTPGroup) (vhostRouter : Routers Payload) : State :=
  { s with heap := Function.update s.heap g group, vhostRouter := vhostRouter }

/-- The object under the name, and the state with a new one there if there was none. -/
def lookup (group : GoString) : Nat × State :=
  match s.groups.get group with
  | some g => (g, s)
  | none =>
      (s.next,
        { s with
          groups := s.groups.set group s.next
          heap := Function.update s.heap s.next newHTTPGroup
          next := s.next + 1 })

/-- The call goes on with the object that it has. -/
def fetch (op : Fetched) : State :=
  { s with ops := s.ops.set s.nextOp op, nextOp := s.nextOp + 1 }

/-- The group's `Register`. -/
def register (op : Fetched) : Except Err State :=
  match (s.heap op.g).register s.vhostRouter op.g op.proxyName op.group op.groupKey
      op.routeConfig with
  | .error err => .error err
  | .ok (g, vhostRouter) => .ok (s.setGroup op.g g vhostRouter)

/-- `UnRegister`, up to the `delete`, which is left if the group is empty. -/
def unRegister (proxyName group : GoString) : State :=
  match s.groups.get group with
  | none => s
  | some g =>
      let (g', vhostRouter, isEmpty) := (s.heap g).unRegister s.vhostRouter proxyName
      { s.setGroup g g' vhostRouter with deleting := if isEmpty then some group else none }

def delete (group : GoString) : State :=
  { s with groups := s.groups.delete group, deleting := none }

/-- The lock of the controller is free once the `UnRegister` that holds it is through. -/
def await : State :=
  match s.deleting with
  | none => s
  | some group => s.delete group

/-- `Register` of the reverse proxy. -/
def add (routeConfig : RouteConfig) : Except Err State :=
  match s.vhostRouter.add routeConfig.domain routeConfig.location routeConfig.routeByHTTPUser
      ⟨none, routeConfig⟩ with
  | none => .error .routerConfigConflict
  | some vhostRouter => .ok { s with vhostRouter := vhostRouter }

end State

def step (s : State) : Label → Option State
  | .lookup proxyName group groupKey routeConfig =>
      if s.deleting.isSome ∨ routeConfig.domain = [] then none
      else
        let (g, s) := s.lookup group
        some (s.fetch ⟨g, proxyName, group, groupKey, routeConfig⟩)
  | .register i =>
      match s.ops.get i with
      | none => none
      | some op =>
          let s := { s with ops := s.ops.delete i }
          match s.register op with
          | .error _ => some s
          | .ok s => some s
  | .unRegister proxyName group =>
      if s.deleting.isSome then none else some (s.unRegister proxyName group)
  | .delete => s.deleting.map s.delete
  | .add routeConfig =>
      if routeConfig.domain = [] then none
      else
        match s.add routeConfig with
        | .error _ => some s
        | .ok s => some s
  | .del routeConfig =>
      match s.table routeConfig.domain routeConfig.location routeConfig.routeByHTTPUser with
      | some ⟨none, _⟩ =>
          some
            { s with
              vhostRouter := s.vhostRouter.del routeConfig.domain routeConfig.location
                routeConfig.routeByHTTPUser }
      | _ => none

/-! ## What is to hold, and when -/

/-- A proxy that asks for a free route becomes a member of the group under the name. -/
def Registrable (s : State) (name : GoString) : Prop :=
  ∀ (proxyName groupKey : GoString) (routeConfig : RouteConfig), routeConfig.domain ≠ [] →
    s.table routeConfig.domain routeConfig.location routeConfig.routeByHTTPUser = none →
      ∃ t, exec step s [.lookup proxyName name groupKey routeConfig, .register s.nextOp] = some t ∧
        ∃ g, t.groups.get name = some g ∧ ((t.heap g).createFuncs.get proxyName).isSome

/-- The groups with members are those under their names, they alone have a route, and a
name without members can be registered. -/
structure Agree (s : State) : Prop where
  stored : ∀ g, ¬ (s.heap g).IsEmpty → s.groups.get (s.heap g).group = some g
  routed : ∀ g domain location user,
    (∃ routeConfig, s.table domain location user = some ⟨some g, routeConfig⟩) ↔
      ¬ (s.heap g).IsEmpty ∧ domain = (s.heap g).domain ∧ location = (s.heap g).location ∧
        user = (s.heap g).routeByHTTPUser
  free : ∀ name, (∀ g, ¬ (s.heap g).IsEmpty → (s.heap g).group ≠ name) → Registrable s name

/-- At a state with no call in progress, the controller and the router agree. -/
def Consistent (s : State) : Prop :=
  (∀ i, s.ops.get i = none) → s.deleting = none → Agree s

/-- The proxy that becomes the first member finds the object under its name, and nobody is
about to delete the name. -/
def Guard (s : State) : Label → Prop
  | .register i => ∀ op, s.ops.get i = some op → (s.heap op.g).IsEmpty →
      s.table op.routeConfig.domain op.routeConfig.location op.routeConfig.routeByHTTPUser = none →
        s.groups.get op.group = some op.g ∧ s.deleting ≠ some op.group
  | _ => True

/-! ## What the group object does -/

theorem isEmpty_newHTTPGroup : newHTTPGroup.IsEmpty := rfl

theorem not_isEmpty_iff {g : HTTPGroup} :
    ¬ g.IsEmpty ↔ ∃ proxyName fn, g.createFuncs.get proxyName = some fn := by
  unfold HTTPGroup.IsEmpty
  rw [← ne_eq, ← Finset.nonempty_iff_ne_empty]
  constructor
  · rintro ⟨proxyName, mem⟩
    exact ⟨proxyName, GoMap.mem_keys_iff.1 mem⟩
  · rintro ⟨proxyName, found⟩
    exact ⟨proxyName, GoMap.mem_keys_iff.2 found⟩

theorem not_isEmpty_of_member {g : HTTPGroup} {proxyName : GoString}
    (member : (g.createFuncs.get proxyName).isSome) : ¬ g.IsEmpty := by
  obtain ⟨fn, found⟩ := Option.isSome_iff_exists.1 member
  exact not_isEmpty_iff.2 ⟨proxyName, fn, found⟩

/-- The names of a group are those of its functions, each once. -/
structure Listed (g : HTTPGroup) : Prop where
  distinct : g.pxyNames.Nodup
  mem_iff : ∀ name, name ∈ g.pxyNames ↔ (g.createFuncs.get name).isSome

theorem newHTTPGroup_listed : Listed newHTTPGroup where
  distinct := List.nodup_nil
  mem_iff name := by simp [newHTTPGroup]

theorem Listed.join {g g' : HTTPGroup} {r r' : Routers Payload} {proxyName : GoString}
    {fn : Option Nat} (listed : Listed g) (joins : g.join r proxyName fn = .ok (g', r')) :
    Listed g' := by
  unfold HTTPGroup.join at joins
  split at joins
  · cases joins
  · rename_i free
    cases joins
    have fresh : proxyName ∉ g.pxyNames := by simp [listed.mem_iff, free]
    constructor
    · exact List.nodup_append.2 ⟨listed.distinct, List.nodup_singleton proxyName,
        fun a inside b last => by
          rw [List.mem_singleton.1 last]
          rintro rfl
          exact fresh inside⟩
    · intro name
      simp only [List.mem_append, List.mem_singleton, GoMap.get_set]
      split
      · rename_i same
        simp [same]
      · rename_i other
        simp [other, listed.mem_iff]

theorem Listed.register {g g' : HTTPGroup} {r r' : Routers Payload} {self : Nat}
    {proxyName group groupKey : GoString} {routeConfig : RouteConfig} (listed : Listed g)
    (registers : g.register r self proxyName group groupKey routeConfig = .ok (g', r')) :
    Listed g' := by
  unfold HTTPGroup.register at registers
  split at registers
  · split at registers
    · cases registers
    · have first : Listed { g with
          group := group
          groupKey := groupKey
          domain := routeConfig.domain
          location := routeConfig.location
          routeByHTTPUser := routeConfig.routeByHTTPUser } := ⟨listed.distinct, listed.mem_iff⟩
      exact first.join registers
  · split at registers
    · cases registers
    · split at registers
      · cases registers
      · exact listed.join registers

theorem Listed.unRegister {g g' : HTTPGroup} {r r' : Routers Payload} {proxyName : GoString}
    {isEmpty : Bool} (listed : Listed g)
    (leaves : g.unRegister r proxyName = (g', r', isEmpty)) : Listed g' := by
  have shape : g' = { g with
      createFuncs := g.createFuncs.delete proxyName
      pxyNames := g.pxyNames.erase proxyName } := by
    unfold HTTPGroup.unRegister at leaves
    dsimp only at leaves
    split at leaves <;> cases leaves <;> rfl
  rw [shape]
  constructor
  · exact listed.distinct.erase proxyName
  · intro name
    simp only [listed.distinct.mem_erase_iff, GoMap.get_delete, listed.mem_iff]
    split
    · rename_i same
      simp [same]
    · rename_i other
      simp [other]

/-- The group is the one that the call asks for, and has its route. -/
structure HTTPGroup.Fits (g : HTTPGroup) (group : GoString) (routeConfig : RouteConfig) : Prop where
  group : g.group = group
  domain : g.domain = routeConfig.domain
  location : g.location = routeConfig.location
  routeByHTTPUser : g.routeByHTTPUser = routeConfig.routeByHTTPUser

/-- What a `Register` that succeeds leaves: a member, and of the first one the route. -/
structure Joined (g : HTTPGroup) (r : Routers Payload) (object : Nat)
    (proxyName group : GoString) (routeConfig : RouteConfig) (g' : HTTPGroup)
    (r' : Routers Payload) : Prop where
  member : (g'.createFuncs.get proxyName).isSome
  members : ∀ other, (g.createFuncs.get other).isSome → (g'.createFuncs.get other).isSome
  fits : g'.Fits group routeConfig
  sorted : r'.Sorted
  ends : (g.IsEmpty ∧
      r.table routeConfig.domain routeConfig.location routeConfig.routeByHTTPUser = none ∧
      r'.table = r.table.set routeConfig.domain routeConfig.location
        routeConfig.routeByHTTPUser (some ⟨some object, routeConfig⟩)) ∨
    ¬ g.IsEmpty ∧ r' = r ∧ g.Fits group routeConfig

theorem HTTPGroup.Fits.join {g g' : HTTPGroup} {r r' : Routers Payload}
    {proxyName group : GoString} {routeConfig : RouteConfig} {fn : Option Nat}
    (fits : g.Fits group routeConfig) (joins : g.join r proxyName fn = .ok (g', r')) :
    r' = r ∧ g'.Fits group routeConfig ∧ (g'.createFuncs.get proxyName).isSome ∧
      ∀ other, (g.createFuncs.get other).isSome → (g'.createFuncs.get other).isSome := by
  unfold HTTPGroup.join at joins
  split at joins
  · cases joins
  · cases joins
    refine ⟨rfl, ⟨fits.group, fits.domain, fits.location, fits.routeByHTTPUser⟩, by simp, ?_⟩
    intro other member
    simp only [GoMap.get_set]
    split
    · rfl
    · exact member

theorem register_eq_ok {g g' : HTTPGroup} {r r' : Routers Payload} {self : Nat}
    {proxyName group groupKey : GoString} {routeConfig : RouteConfig} (sorted : r.Sorted)
    (registers : g.register r self proxyName group groupKey routeConfig = .ok (g', r')) :
    Joined g r self proxyName group routeConfig g' r' := by
  unfold HTTPGroup.register at registers
  split at registers
  · rename_i empty
    split at registers
    · cases registers
    · rename_i added
      obtain ⟨rfl, fits, member, members⟩ := HTTPGroup.Fits.join ⟨rfl, rfl, rfl, rfl⟩ registers
      obtain ⟨free, table⟩ := sorted.add_eq_some added
      exact ⟨member, members, fits, sorted.add added, .inl ⟨empty, free, table⟩⟩
  · rename_i nonempty
    split at registers
    · cases registers
    · rename_i params
      simp only [not_or, ne_eq, not_not] at params
      obtain ⟨name, domain, location, user⟩ := params
      split at registers
      · cases registers
      · have fits : g.Fits group routeConfig := ⟨name, domain, location, user⟩
        obtain ⟨rfl, fits', member, members⟩ := fits.join registers
        exact ⟨member, members, fits', sorted, .inr ⟨nonempty, rfl, fits⟩⟩

/-- The first member is refused only if the route is taken. -/
theorem register_isOk_of_free {g : HTTPGroup} {r : Routers Payload} {self : Nat}
    {proxyName group groupKey : GoString} {routeConfig : RouteConfig} (empty : g.IsEmpty)
    (free : r.table routeConfig.domain routeConfig.location routeConfig.routeByHTTPUser = none) :
    ∃ g' r', g.register r self proxyName group groupKey routeConfig = .ok (g', r') := by
  have adds : (r.add routeConfig.domain routeConfig.location routeConfig.routeByHTTPUser
      (⟨some self, routeConfig⟩ : Payload)).isSome := Routers.add_isSome_of_free free
  obtain ⟨r', added⟩ := Option.isSome_iff_exists.1 adds
  have absent : g.createFuncs.get proxyName = none := by
    cases found : g.createFuncs.get proxyName with
    | none => rfl
    | some fn => exact absurd empty (not_isEmpty_iff.2 ⟨proxyName, fn, found⟩)
  simp only [HTTPGroup.register, empty, if_true, added, HTTPGroup.join, absent]
  exact ⟨_, _, rfl⟩

/-! ## The invariant -/

/-- What holds in every run: a group with members has its route, and no other one has. -/
structure Inv (s : State) : Prop where
  sorted : s.vhostRouter.Sorted
  domains : ∀ location user, s.table [] location user = none
  /-- A group object under a name is in use, or about to be removed, or was never used. -/
  stored : ∀ name g, s.groups.get name = some g → g < s.next ∧
    ((s.heap g).IsEmpty → s.deleting = some name ∨ (s.heap g).domain = [])
  one : ∀ name name' g, s.groups.get name = some g → s.groups.get name' = some g → name = name'
  live : ∀ g, ¬ (s.heap g).IsEmpty → g < s.next ∧
    ∃ routeConfig, s.table (s.heap g).domain (s.heap g).location (s.heap g).routeByHTTPUser =
      some ⟨some g, routeConfig⟩
  routed : ∀ g domain location user routeConfig,
    s.table domain location user = some ⟨some g, routeConfig⟩ →
      ¬ (s.heap g).IsEmpty ∧ domain = (s.heap g).domain ∧ location = (s.heap g).location ∧
        user = (s.heap g).routeByHTTPUser
  fetched : ∀ i op, s.ops.get i = some op → op.g < s.next ∧ op.routeConfig.domain ≠ []
  ops : ∀ i, s.nextOp ≤ i → s.ops.get i = none

/-- What holds in the runs that meet the condition: the groups with members are those
under their names, to stay. -/
structure Kept (s : State) : Prop where
  used : ∀ name g, s.groups.get name = some g → ¬ (s.heap g).IsEmpty → (s.heap g).group = name
  named : ∀ g, ¬ (s.heap g).IsEmpty →
    s.groups.get (s.heap g).group = some g ∧ s.deleting ≠ some (s.heap g).group

theorem start_inv : Inv start where
  sorted := Routers.sorted_newRouters
  domains location user := by rw [State.table, start, Routers.table_newRouters, Table.empty]
  stored name g found := by simp [start] at found
  one name name' g found := by simp [start] at found
  live g nonempty := absurd isEmpty_newHTTPGroup nonempty
  routed g domain location user routeConfig route := by
    rw [State.table, start, Routers.table_newRouters, Table.empty] at route
    cases route
  fetched i op found := by simp [start] at found
  ops i _ := by simp [start]

theorem start_kept : Kept start where
  used name g found := by simp [start] at found
  named g nonempty := absurd isEmpty_newHTTPGroup nonempty

variable {s t : State}

/-! ### Looking a group up -/

theorem lookup_cases {g : Nat} {group : GoString} (looks : s.lookup group = (g, t)) :
    s.groups.get group = some g ∧ t = s ∨
      s.groups.get group = none ∧ g = s.next ∧
        t = { s with
          groups := s.groups.set group s.next
          heap := Function.update s.heap s.next newHTTPGroup
          next := s.next + 1 } := by
  unfold State.lookup at looks
  split at looks
  · rename_i found
    cases looks
    exact .inl ⟨found, rfl⟩
  · rename_i absent
    cases looks
    exact .inr ⟨absent, rfl, rfl⟩

/-- What a lookup changes: there may be a new object, without members, under the name. -/
structure LooksUp (s : State) (group : GoString) (g : Nat) (t : State) : Prop where
  known : g < t.next
  found : t.groups.get group = some g
  vhostRouter : t.vhostRouter = s.vhostRouter
  ops : t.ops = s.ops
  nextOp : t.nextOp = s.nextOp
  deleting : t.deleting = s.deleting
  old : ∀ g', g' < s.next → g' < t.next ∧ t.heap g' = s.heap g'
  members : ∀ g', ¬ (t.heap g').IsEmpty → t.heap g' = s.heap g' ∧ ¬ (s.heap g').IsEmpty
  names : ∀ name g', t.groups.get name = some g' → s.groups.get name = some g' ∨
    name = group ∧ g' = s.next ∧ g' < t.next ∧ t.heap g' = newHTTPGroup
  still : ∀ name g', s.groups.get name = some g' → t.groups.get name = some g'

theorem Inv.looksUp (inv : Inv s) {g : Nat} {group : GoString}
    (looks : s.lookup group = (g, t)) : LooksUp s group g t := by
  rcases lookup_cases looks with ⟨found, rfl⟩ | ⟨absent, rfl, rfl⟩
  · exact ⟨(inv.stored group g found).1, found, rfl, rfl, rfl, rfl, fun _ less => ⟨less, rfl⟩,
      fun _ nonempty => ⟨rfl, nonempty⟩, fun _ _ stored => .inl stored, fun _ _ stored => stored⟩
  · refine ⟨Nat.lt_succ_self _, ?_, rfl, rfl, rfl, rfl, ?_, ?_, ?_, ?_⟩
    · rw [GoMap.get_set, if_pos rfl]
    · intro g' less
      exact ⟨Nat.lt_succ_of_lt less, Function.update_of_ne (Nat.ne_of_lt less) ..⟩
    · intro g' nonempty
      by_cases fresh : g' = s.next
      · subst fresh
        simp only [Function.update_self] at nonempty
        exact absurd isEmpty_newHTTPGroup nonempty
      · simp only [Function.update_of_ne fresh] at nonempty ⊢
        exact ⟨trivial, nonempty⟩
    · intro name g' stored
      simp only [GoMap.get_set] at stored
      split at stored
      · rename_i same
        cases stored
        exact .inr ⟨same, rfl, Nat.lt_succ_self _, Function.update_self ..⟩
      · exact .inl stored
    · intro name g' stored
      exact GoMap.get_set_of_fresh absent stored

theorem Inv.lookup (inv : Inv s) {g : Nat} {group : GoString}
    (looks : s.lookup group = (g, t)) : Inv t := by
  have spec := inv.looksUp looks
  have table : t.table = s.table := by rw [State.table, spec.vhostRouter, State.table]
  refine ⟨spec.vhostRouter ▸ inv.sorted, table ▸ inv.domains, ?_, ?_, ?_, ?_, ?_, ?_⟩
  · intro name g' stored
    rw [spec.deleting]
    rcases spec.names name g' stored with stored | ⟨-, -, less, new⟩
    · obtain ⟨less, unused⟩ := inv.stored name g' stored
      rw [(spec.old g' less).2]
      exact ⟨(spec.old g' less).1, unused⟩
    · rw [new]
      exact ⟨less, fun _ => .inr rfl⟩
  · intro name name' g' stored stored'
    rcases spec.names name g' stored with stored | ⟨same, fresh, -⟩
    · rcases spec.names name' g' stored' with stored' | ⟨-, fresh, -⟩
      · exact inv.one name name' g' stored stored'
      · exact absurd fresh (Nat.ne_of_lt (inv.stored name g' stored).1)
    · rcases spec.names name' g' stored' with stored' | ⟨same', -⟩
      · exact absurd fresh (Nat.ne_of_lt (inv.stored name' g' stored').1)
      · rw [same, same']
  · intro g' nonempty
    obtain ⟨same, nonempty⟩ := spec.members g' nonempty
    obtain ⟨less, route⟩ := inv.live g' nonempty
    rw [same, table]
    exact ⟨(spec.old g' less).1, route⟩
  · intro g' domain location user routeConfig route
    rw [table] at route
    obtain ⟨nonempty, fields⟩ := inv.routed g' domain location user routeConfig route
    rw [(spec.old g' (inv.live g' nonempty).1).2]
    exact ⟨nonempty, fields⟩
  · intro i op fetched
    rw [spec.ops] at fetched
    obtain ⟨less, domain⟩ := inv.fetched i op fetched
    exact ⟨(spec.old op.g less).1, domain⟩
  · intro i large
    rw [spec.nextOp] at large
    rw [spec.ops]
    exact inv.ops i large

theorem Inv.fetch (inv : Inv s) {op : Fetched} (known : op.g < s.next)
    (domain : op.routeConfig.domain ≠ []) : Inv (s.fetch op) where
  sorted := inv.sorted
  domains := inv.domains
  stored := inv.stored
  one := inv.one
  live := inv.live
  routed := inv.routed
  fetched i op' found := by
    simp only [State.fetch, GoMap.get_set] at found
    split at found
    · cases found
      exact ⟨known, domain⟩
    · exact inv.fetched i op' found
  ops i large := by
    show (s.ops.set s.nextOp op).get i = none
    rw [GoMap.get_set, if_neg (Nat.ne_of_gt large)]
    exact inv.ops i (Nat.le_of_succ_le large)

theorem Kept.lookup (kept : Kept s) (inv : Inv s) {g : Nat} {group : GoString}
    (looks : s.lookup group = (g, t)) : Kept t := by
  have spec := inv.looksUp looks
  constructor
  · intro name g' stored nonempty
    rcases spec.names name g' stored with stored | ⟨-, -, -, new⟩
    · obtain ⟨same, nonempty⟩ := spec.members g' nonempty
      rw [same]
      exact kept.used name g' stored nonempty
    · rw [new] at nonempty
      exact absurd isEmpty_newHTTPGroup nonempty
  · intro g' nonempty
    obtain ⟨same, nonempty⟩ := spec.members g' nonempty
    obtain ⟨stored, stays⟩ := kept.named g' nonempty
    rw [same, spec.deleting]
    exact ⟨spec.still _ _ stored, stays⟩

/-! ### Registering in a group -/

theorem Inv.finish (inv : Inv s) (i : Nat) : Inv { s with ops := s.ops.delete i } where
  sorted := inv.sorted
  domains := inv.domains
  stored := inv.stored
  one := inv.one
  live := inv.live
  routed := inv.routed
  fetched j op found := inv.fetched j op (GoMap.get_delete_eq_some.1 found).2
  ops j large := GoMap.get_delete_eq_none (inv.ops j large)

/-- A group object, the router and what is to be deleted change together. -/
theorem Inv.setGroup (inv : Inv s) {g : Nat} {group : HTTPGroup} {r : Routers Payload}
    {deleting : Option GoString} (sorted : r.Sorted)
    (domains : ∀ location user, r.table [] location user = none)
    (stored : ∀ name, s.groups.get name = some g →
      group.IsEmpty → deleting = some name ∨ group.domain = [])
    (live : ¬ group.IsEmpty → g < s.next ∧
      ∃ routeConfig, r.table group.domain group.location group.routeByHTTPUser =
        some ⟨some g, routeConfig⟩)
    (routed : ∀ domain location user routeConfig,
      r.table domain location user = some ⟨some g, routeConfig⟩ →
        ¬ group.IsEmpty ∧ domain = group.domain ∧ location = group.location ∧
          user = group.routeByHTTPUser)
    (others : ∀ g' domain location user routeConfig, g' ≠ g →
      (r.table domain location user = some ⟨some g', routeConfig⟩ ↔
        s.table domain location user = some ⟨some g', routeConfig⟩))
    (still : ∀ name, s.deleting = some name → deleting = some name) :
    Inv { s.setGroup g group r with deleting := deleting } := by
  have at_g : (s.setGroup g group r).heap g = group := Function.update_self ..
  have off_g : ∀ {g'}, g' ≠ g → (s.setGroup g group r).heap g' = s.heap g' :=
    fun other => Function.update_of_ne other ..
  refine ⟨sorted, domains, ?_, inv.one, ?_, ?_, inv.fetched, inv.ops⟩
  · intro name g' found
    obtain ⟨less, unused⟩ := inv.stored name g' found
    refine ⟨less, ?_⟩
    by_cases same : g' = g
    · subst same
      rw [at_g]
      exact stored name found
    · rw [off_g same]
      exact fun empty => (unused empty).imp_left (still name)
  · intro g' nonempty
    by_cases same : g' = g
    · subst same
      rw [at_g] at nonempty ⊢
      exact live nonempty
    · rw [off_g same] at nonempty ⊢
      obtain ⟨less, routeConfig, route⟩ := inv.live g' nonempty
      exact ⟨less, routeConfig, (others g' _ _ _ _ same).2 route⟩
  · intro g' domain location user routeConfig route
    by_cases same : g' = g
    · subst same
      rw [at_g]
      exact routed domain location user routeConfig route
    · rw [off_g same]
      exact inv.routed g' domain location user routeConfig ((others g' _ _ _ _ same).1 route)

theorem register_eq_setGroup {op : Fetched} (registers : s.register op = .ok t) :
    ∃ g r, (s.heap op.g).register s.vhostRouter op.g op.proxyName op.group op.groupKey
        op.routeConfig = .ok (g, r) ∧ t = s.setGroup op.g g r := by
  unfold State.register at registers
  split at registers
  · cases registers
  · rename_i g r registers'
    cases registers
    exact ⟨g, r, registers', rfl⟩

theorem Inv.register (inv : Inv s) {op : Fetched} (less : op.g < s.next)
    (domain : op.routeConfig.domain ≠ []) (registers : s.register op = .ok t) : Inv t := by
  obtain ⟨g', r', registers', rfl⟩ := register_eq_setGroup registers
  show Inv { s.setGroup op.g g' r' with deleting := s.deleting }
  have joined := register_eq_ok inv.sorted registers'
  have nonempty := not_isEmpty_of_member joined.member
  have fits := joined.fits
  rcases joined.ends with ⟨empty, free, table⟩ | ⟨before, rfl, fits'⟩
  · refine inv.setGroup joined.sorted ?_ (fun _ _ none => absurd none nonempty) ?_ ?_ ?_
      fun _ h => h
    · intro location user
      rw [table, Table.set, if_neg fun same => domain same.1.symm]
      exact inv.domains location user
    · intro _
      rw [fits.domain, fits.location, fits.routeByHTTPUser, table, Table.set,
        if_pos ⟨rfl, rfl, rfl⟩]
      exact ⟨less, op.routeConfig, rfl⟩
    · intro d l u routeConfig route
      rw [table, Table.set] at route
      split at route
      · rename_i same
        rw [fits.domain, fits.location, fits.routeByHTTPUser]
        exact ⟨nonempty, same⟩
      · exact absurd empty (inv.routed op.g d l u routeConfig route).1
    · intro g d l u routeConfig other
      rw [table, Table.set]
      split
      · rename_i same
        obtain ⟨rfl, rfl, rfl⟩ := same
        show _ ↔ s.vhostRouter.table _ _ _ = _
        rw [free]
        simp [Ne.symm other]
      · exact Iff.rfl
  · have route := inv.live op.g before
    have routed := inv.routed op.g
    rw [fits'.domain, fits'.location, fits'.routeByHTTPUser] at route routed
    refine inv.setGroup inv.sorted inv.domains (fun _ _ none => absurd none nonempty) ?_ ?_
      (fun _ _ _ _ _ _ => Iff.rfl) fun _ h => h
    · intro _
      rw [fits.domain, fits.location, fits.routeByHTTPUser]
      exact route
    · intro d l u routeConfig entry
      rw [fits.domain, fits.location, fits.routeByHTTPUser]
      exact ⟨nonempty, (routed d l u routeConfig entry).2⟩

/-- A first member that finds the object under its name, to stay, keeps it there. -/
theorem Kept.register (kept : Kept s) (inv : Inv s) {op : Fetched}
    (stays : (s.heap op.g).IsEmpty →
      s.table op.routeConfig.domain op.routeConfig.location op.routeConfig.routeByHTTPUser = none →
        s.groups.get op.group = some op.g ∧ s.deleting ≠ some op.group)
    (registers : s.register op = .ok t) : Kept t := by
  obtain ⟨g', r', registers', rfl⟩ := register_eq_setGroup registers
  have joined := register_eq_ok inv.sorted registers'
  have named : s.groups.get g'.group = some op.g ∧ s.deleting ≠ some g'.group := by
    rw [joined.fits.group]
    rcases joined.ends with ⟨empty, free, -⟩ | ⟨nonempty, -, fits⟩
    · exact stays empty free
    · rw [← fits.group]
      exact kept.named op.g nonempty
  constructor
  · intro name' g found nonempty
    by_cases same : g = op.g
    · subst same
      simp only [State.setGroup, Function.update_self]
      exact inv.one _ name' op.g named.1 found
    · simp only [State.setGroup, Function.update_of_ne same] at nonempty ⊢
      exact kept.used name' g found nonempty
  · intro g nonempty
    by_cases same : g = op.g
    · subst same
      simp only [State.setGroup, Function.update_self]
      exact named
    · simp only [State.setGroup, Function.update_of_ne same] at nonempty ⊢
      exact kept.named g nonempty

/-! ### Leaving a group -/

/-- What an `UnRegister` leaves: the route goes with the last member. -/
theorem unRegister_spec {g g' : HTTPGroup} {r r' : Routers Payload} {proxyName : GoString}
    {isEmpty : Bool} (unRegisters : g.unRegister r proxyName = (g', r', isEmpty)) :
    g'.group = g.group ∧ g'.domain = g.domain ∧ g'.location = g.location ∧
      g'.routeByHTTPUser = g.routeByHTTPUser ∧
      (g'.IsEmpty ∧ isEmpty = true ∧ r' = r.del g.domain g.location g.routeByHTTPUser ∨
        ¬ g'.IsEmpty ∧ isEmpty = false ∧ r' = r ∧ ¬ g.IsEmpty) := by
  unfold HTTPGroup.unRegister at unRegisters
  dsimp only at unRegisters
  split at unRegisters
  · rename_i empty
    cases unRegisters
    exact ⟨rfl, rfl, rfl, rfl, .inl ⟨empty, rfl, rfl⟩⟩
  · rename_i nonempty
    cases unRegisters
    refine ⟨rfl, rfl, rfl, rfl, .inr ⟨nonempty, rfl, rfl, ?_⟩⟩
    obtain ⟨name, fn, found⟩ := not_isEmpty_iff.1 nonempty
    exact not_isEmpty_iff.2 ⟨name, fn, (GoMap.get_delete_eq_some.1 found).2⟩

theorem unRegister_cases {proxyName group : GoString}
    (next : step s (.unRegister proxyName group) = some t) :
    s.deleting = none ∧ (s.groups.get group = none ∧ t = s ∨
      ∃ g g' r' isEmpty, s.groups.get group = some g ∧
        (s.heap g).unRegister s.vhostRouter proxyName = (g', r', isEmpty) ∧
          t = { s.setGroup g g' r' with deleting := if isEmpty then some group else none }) := by
  simp only [step] at next
  split at next
  · cases next
  · rename_i unlocked
    rw [Bool.not_eq_true, Option.isSome_eq_false_iff, Option.isNone_iff_eq_none] at unlocked
    refine ⟨unlocked, ?_⟩
    cases next
    unfold State.unRegister
    split
    · rename_i absent
      exact .inl ⟨absent, rfl⟩
    · rename_i g found
      exact .inr ⟨g, _, _, _, found, rfl, rfl⟩

/-- The entry of an object under its name is that of its route, or nobody's. -/
theorem Inv.entry (inv : Inv s) (unlocked : s.deleting = none) {name : GoString} {g g' : Nat}
    (found : s.groups.get name = some g) {routeConfig : RouteConfig}
    (entry : s.table (s.heap g).domain (s.heap g).location (s.heap g).routeByHTTPUser =
      some ⟨some g', routeConfig⟩) : g' = g := by
  by_cases empty : (s.heap g).IsEmpty
  · rcases (inv.stored name g found).2 empty with removes | blank
    · rw [unlocked] at removes
      cases removes
    · rw [blank, inv.domains] at entry
      cases entry
  · obtain ⟨-, config, route⟩ := inv.live g empty
    rw [route] at entry
    cases entry
    rfl

theorem unRegister_inv {proxyName group : GoString} (inv : Inv s)
    (next : step s (.unRegister proxyName group) = some t) : Inv t := by
  rcases unRegister_cases next with
      ⟨unlocked, ⟨-, rfl⟩ | ⟨g, g', r', isEmpty, found, unRegisters, rfl⟩⟩
  · exact inv
  · have locked : ∀ name, s.deleting = some name →
        (if isEmpty then some group else none) = some name := by
      intro name removes
      rw [unlocked] at removes
      cases removes
    rcases unRegister_spec unRegisters with ⟨-, isDomain, isLocation, isUser, last | more⟩
    · obtain ⟨empty, rfl, rfl⟩ := last
      have table : (s.vhostRouter.del (s.heap g).domain (s.heap g).location
          (s.heap g).routeByHTTPUser).table = s.table.set (s.heap g).domain (s.heap g).location
            (s.heap g).routeByHTTPUser none := inv.sorted.table_del
      refine inv.setGroup inv.sorted.del ?_ ?_ (absurd empty) ?_ ?_ locked
      · intro location user
        rw [table, Table.set]
        split
        · rfl
        · exact inv.domains location user
      · intro name found' _
        rw [if_pos rfl, inv.one group name g found found']
        exact .inl rfl
      · intro d l u routeConfig route
        rw [table, Table.set] at route
        split at route
        · cases route
        · rename_i other
          exact absurd (inv.routed g d l u routeConfig route).2 other
      · intro h d l u routeConfig other
        rw [table, Table.set]
        split
        · rename_i same
          obtain ⟨rfl, rfl, rfl⟩ := same
          refine ⟨fun absent => (by cases absent), fun entry => ?_⟩
          exact absurd (inv.entry unlocked found entry) other
        · exact Iff.rfl
    · obtain ⟨nonempty, rfl, rfl, before⟩ := more
      refine inv.setGroup inv.sorted inv.domains (fun _ _ none => absurd none nonempty) ?_ ?_
        (fun _ _ _ _ _ _ => Iff.rfl) locked
      · intro _
        rw [isDomain, isLocation, isUser]
        exact inv.live g before
      · intro d l u routeConfig entry
        rw [isDomain, isLocation, isUser]
        exact ⟨nonempty, (inv.routed g d l u routeConfig entry).2⟩

theorem unRegister_kept {proxyName group : GoString} (kept : Kept s)
    (next : step s (.unRegister proxyName group) = some t) : Kept t := by
  rcases unRegister_cases next with ⟨-, ⟨-, rfl⟩ | ⟨g, g', r', isEmpty, found, unRegisters, rfl⟩⟩
  · exact kept
  · obtain ⟨name, -, -, -, ends⟩ := unRegister_spec unRegisters
    constructor
    · intro name' h found' nonempty
      by_cases same : h = g
      · subst same
        simp only [State.setGroup, Function.update_self] at nonempty ⊢
        rcases ends with ⟨empty, -⟩ | ⟨-, -, -, before⟩
        · exact absurd empty nonempty
        · rw [name]
          exact kept.used name' h found' before
      · simp only [State.setGroup, Function.update_of_ne same] at nonempty ⊢
        exact kept.used name' h found' nonempty
    · intro h nonempty
      by_cases same : h = g
      · subst same
        simp only [State.setGroup, Function.update_self] at nonempty ⊢
        rcases ends with ⟨empty, -⟩ | ⟨-, rfl, -, before⟩
        · exact absurd empty nonempty
        · rw [name]
          exact ⟨(kept.named h before).1, fun removes => by cases removes⟩
      · simp only [State.setGroup, Function.update_of_ne same] at nonempty ⊢
        obtain ⟨stored, -⟩ := kept.named h nonempty
        refine ⟨stored, fun removes => ?_⟩
        split at removes
        · cases removes
          exact same (Option.some.inj (stored.symm.trans found))
        · cases removes

theorem delete_cases (next : step s .delete = some t) :
    ∃ group, s.deleting = some group ∧ t = s.delete group := by
  simp only [step, Option.map_eq_some_iff] at next
  obtain ⟨group, removes, rfl⟩ := next
  exact ⟨group, removes, rfl⟩

theorem Inv.delete (inv : Inv s) {group : GoString} (removes : s.deleting = some group) :
    Inv (s.delete group) := by
  refine ⟨inv.sorted, inv.domains, ?_, ?_, inv.live, inv.routed, inv.fetched, inv.ops⟩
  · intro name g left_
    obtain ⟨other, found⟩ := GoMap.get_delete_eq_some.1 left_
    obtain ⟨less, unused⟩ := inv.stored name g found
    refine ⟨less, fun empty => .inr ?_⟩
    rcases unused empty with same | blank
    · rw [removes] at same
      cases same
      exact absurd rfl other
    · exact blank
  · intro name name' g found found'
    exact inv.one name name' g (GoMap.get_delete_eq_some.1 found).2
      (GoMap.get_delete_eq_some.1 found').2

theorem delete_kept (kept : Kept s) (next : step s .delete = some t) : Kept t := by
  obtain ⟨group, removes, rfl⟩ := delete_cases next
  constructor
  · intro name g found nonempty
    exact kept.used name g (GoMap.get_delete_eq_some.1 found).2 nonempty
  · intro g nonempty
    obtain ⟨found, stays⟩ := kept.named g nonempty
    have other : (s.heap g).group ≠ group := by
      intro same
      rw [removes, same] at stays
      exact stays rfl
    exact ⟨GoMap.get_delete_eq_some.2 ⟨other, found⟩, fun removes => by cases removes⟩

/-! ### Proxies without a group -/

theorem Inv.router (inv : Inv s) {r : Routers Payload} (sorted : r.Sorted)
    (domains : ∀ location user, r.table [] location user = none)
    (same : ∀ domain location user g routeConfig,
      r.table domain location user = some ⟨some g, routeConfig⟩ ↔
        s.table domain location user = some ⟨some g, routeConfig⟩) :
    Inv { s with vhostRouter := r } := by
  refine ⟨sorted, domains, inv.stored, inv.one, ?_, ?_, inv.fetched, inv.ops⟩
  · intro g nonempty
    obtain ⟨less, routeConfig, route⟩ := inv.live g nonempty
    exact ⟨less, routeConfig, (same _ _ _ _ _).2 route⟩
  · intro g domain location user routeConfig route
    exact inv.routed g domain location user routeConfig ((same _ _ _ _ _).1 route)

/-- A route that is added was free, and is there. -/
theorem add_spec {routeConfig : RouteConfig} (sorted : s.vhostRouter.Sorted)
    (adds : s.add routeConfig = .ok t) :
    ∃ r, t = { s with vhostRouter := r } ∧ r.Sorted ∧
      s.table routeConfig.domain routeConfig.location routeConfig.routeByHTTPUser = none ∧
      r.table = s.table.set routeConfig.domain routeConfig.location routeConfig.routeByHTTPUser
        (some ⟨none, routeConfig⟩) := by
  unfold State.add at adds
  split at adds
  · cases adds
  · rename_i r added
    cases adds
    obtain ⟨free, table⟩ := sorted.add_eq_some added
    exact ⟨r, rfl, sorted.add added, free, table⟩

theorem Inv.add (inv : Inv s) {routeConfig : RouteConfig} (domain : routeConfig.domain ≠ [])
    (adds : s.add routeConfig = .ok t) : Inv t := by
  obtain ⟨r, rfl, sorted, free, table⟩ := add_spec inv.sorted adds
  refine inv.router sorted ?_ ?_
  · intro location user
    rw [table, Table.set, if_neg fun same => domain same.1.symm]
    exact inv.domains location user
  · intro d l u g config
    rw [table, Table.set]
    split
    · rename_i same
      obtain ⟨rfl, rfl, rfl⟩ := same
      rw [free]
      simp
    · exact Iff.rfl

theorem add_cases {routeConfig : RouteConfig} (next : step s (.add routeConfig) = some t) :
    routeConfig.domain ≠ [] ∧ (t = s ∨ s.add routeConfig = .ok t) := by
  simp only [step] at next
  split at next
  · cases next
  · rename_i domain
    refine ⟨domain, ?_⟩
    split at next
    · cases next
      exact .inl rfl
    · rename_i adds
      cases next
      exact .inr adds

theorem del_inv {routeConfig : RouteConfig} (inv : Inv s)
    (next : step s (.del routeConfig) = some t) : Inv t := by
  simp only [step] at next
  split at next
  · rename_i config own
    cases next
    refine inv.router inv.sorted.del ?_ ?_
    · intro location user
      rw [inv.sorted.table_del, Table.apply, Table.set]
      split
      · rfl
      · exact inv.domains location user
    · intro d l u g config'
      rw [inv.sorted.table_del, Table.apply, Table.set]
      split
      · rename_i same
        obtain ⟨rfl, rfl, rfl⟩ := same
        rw [own]
        simp
      · exact Iff.rfl
  · cases next

/-! ### Every step -/

theorem step_lookup_cases {proxyName group groupKey : GoString} {routeConfig : RouteConfig}
    (next : step s (.lookup proxyName group groupKey routeConfig) = some t) :
    routeConfig.domain ≠ [] ∧ ∃ g s', s.lookup group = (g, s') ∧
      t = s'.fetch ⟨g, proxyName, group, groupKey, routeConfig⟩ := by
  simp only [step] at next
  split at next
  · cases next
  · rename_i enabled
    cases next
    exact ⟨fun empty => enabled (.inr empty), _, _, rfl, rfl⟩

theorem step_register_cases {i : Nat} (next : step s (.register i) = some t) :
    ∃ op, s.ops.get i = some op ∧ (t = { s with ops := s.ops.delete i } ∨
      State.register { s with ops := s.ops.delete i } op = .ok t) := by
  simp only [step] at next
  split at next
  · cases next
  · rename_i op found
    refine ⟨op, found, ?_⟩
    split at next
    · cases next
      exact .inl rfl
    · rename_i registers
      cases next
      exact .inr registers

theorem step_inv (s : State) (l : Label) (t : State) (inv : Inv s) (next : step s l = some t) :
    Inv t := by
  cases l with
  | lookup proxyName group groupKey routeConfig =>
      obtain ⟨domain, g, s', looks, rfl⟩ := step_lookup_cases next
      exact (inv.lookup looks).fetch (inv.looksUp looks).known domain
  | register i =>
      rcases step_register_cases next with ⟨op, found, rfl | registers⟩
      · exact inv.finish i
      · obtain ⟨less, domain⟩ := inv.fetched i op found
        exact (inv.finish i).register less domain registers
  | unRegister proxyName group => exact unRegister_inv inv next
  | delete =>
      obtain ⟨group, removes, rfl⟩ := delete_cases next
      exact inv.delete removes
  | add routeConfig =>
      rcases add_cases next with ⟨domain, rfl | adds⟩
      · exact inv
      · exact inv.add domain adds
  | del routeConfig => exact del_inv inv next

theorem step_kept (s : State) (l : Label) (t : State) (inv : Inv s) (kept : Kept s)
    (guard : Guard s l) (next : step s l = some t) : Kept t := by
  cases l with
  | lookup proxyName group groupKey routeConfig =>
      obtain ⟨-, g, s', looks, rfl⟩ := step_lookup_cases next
      have kept' := kept.lookup inv looks
      exact ⟨kept'.used, kept'.named⟩
  | register i =>
      rcases step_register_cases next with ⟨op, found, rfl | registers⟩
      · exact ⟨kept.used, kept.named⟩
      · have kept' : Kept { s with ops := s.ops.delete i } := ⟨kept.used, kept.named⟩
        exact kept'.register (inv.finish i) (guard op found) registers
  | unRegister proxyName group => exact unRegister_kept kept next
  | delete => exact delete_kept kept next
  | add routeConfig =>
      rcases add_cases next with ⟨-, rfl | adds⟩
      · exact kept
      · obtain ⟨r, rfl, -⟩ := add_spec inv.sorted adds
        exact ⟨kept.used, kept.named⟩
  | del routeConfig =>
      simp only [step] at next
      split at next
      · cases next
        exact ⟨kept.used, kept.named⟩
      · cases next

/-! ## Between the calls -/

/-- A `Register` that has an object without members gets in if its route is free. -/
theorem registers_of_isEmpty {i : Nat} {op : Fetched} (sorted : s.vhostRouter.Sorted)
    (fetched : s.ops.get i = some op) (empty : (s.heap op.g).IsEmpty)
    (free : s.table op.routeConfig.domain op.routeConfig.location
      op.routeConfig.routeByHTTPUser = none) :
    ∃ t, step s (.register i) = some t ∧ t.groups = s.groups ∧ t.deleting = s.deleting ∧
      (t.heap op.g).group = op.group ∧ ((t.heap op.g).createFuncs.get op.proxyName).isSome := by
  obtain ⟨g', r', registers⟩ : ∃ g' r', (s.heap op.g).register s.vhostRouter op.g op.proxyName
      op.group op.groupKey op.routeConfig = .ok (g', r') := register_isOk_of_free empty free
  have joined := register_eq_ok sorted registers
  refine ⟨{ s.setGroup op.g g' r' with ops := s.ops.delete i }, ?_, rfl, rfl, ?_⟩
  · simp only [step, fetched, State.register, registers]
    rfl
  · simp only [State.setGroup, Function.update_self]
    exact ⟨joined.fits.group, joined.member⟩

theorem Kept.registrable (kept : Kept s) (inv : Inv s) (unlocked : s.deleting = none)
    {name : GoString} (unused : ∀ g, ¬ (s.heap g).IsEmpty → (s.heap g).group ≠ name) :
    Registrable s name := by
  intro proxyName groupKey routeConfig domain free
  have enabled : ¬ (s.deleting.isSome ∨ routeConfig.domain = []) := by
    simp [unlocked, domain]
  rcases looks : s.lookup name with ⟨g, s'⟩
  have spec := inv.looksUp looks
  have kept' := kept.lookup inv looks
  let t := s'.fetch ⟨g, proxyName, name, groupKey, routeConfig⟩
  have next : step s (.lookup proxyName name groupKey routeConfig) = some t := by
    simp only [step, if_neg enabled, looks]
    rfl
  have fetched : t.ops.get s.nextOp = some ⟨g, proxyName, name, groupKey, routeConfig⟩ := by
    show (s'.ops.set s'.nextOp _).get s.nextOp = _
    rw [spec.nextOp, GoMap.get_set, if_pos rfl]
  have empty : (t.heap g).IsEmpty := by
    by_contra nonempty
    obtain ⟨same, before⟩ := spec.members g nonempty
    have used := kept'.used name g spec.found nonempty
    rw [same] at used
    exact unused g before used
  have free' : t.table routeConfig.domain routeConfig.location routeConfig.routeByHTTPUser =
      none := by
    show s'.vhostRouter.table _ _ _ = none
    rw [spec.vhostRouter]
    exact free
  have sorted : t.vhostRouter.Sorted := (inv.lookup looks).sorted
  obtain ⟨u, registers, groups, -, -, member⟩ := registers_of_isEmpty sorted fetched empty free'
  refine ⟨u, exec_cons_eq_some.2 ⟨t, next, exec_cons_eq_some.2 ⟨u, registers, rfl⟩⟩, g, ?_, member⟩
  rw [groups]
  exact spec.found

theorem Kept.consistent (kept : Kept s) (inv : Inv s) : Consistent s := by
  intro _ unlocked
  refine ⟨fun g nonempty => (kept.named g nonempty).1, ?_,
    fun name => kept.registrable inv unlocked⟩
  intro g domain location user
  constructor
  · rintro ⟨routeConfig, route⟩
    exact inv.routed g domain location user routeConfig route
  · rintro ⟨nonempty, rfl, rfl, rfl⟩
    exact (inv.live g nonempty).2

/-! ## A first member of a lost group -/

/-- The group has members, and is not under its name or not for long. -/
def Lost (s : State) (g : Nat) : Prop :=
  ¬ (s.heap g).IsEmpty ∧
    (s.groups.get (s.heap g).group ≠ some g ∨ s.deleting = some (s.heap g).group)

theorem lost_of_unguarded {i : Nat} (inv : Inv s) (unguarded : ¬ Guard s (.register i))
    (next : step s (.register i) = some t) : ∃ g, Lost t g := by
  simp only [Guard, not_forall] at unguarded
  obtain ⟨op, fetched, empty, free, lost⟩ := unguarded
  obtain ⟨u, registers, groups, removes, name, member⟩ :=
    registers_of_isEmpty inv.sorted fetched empty free
  rw [next] at registers
  cases registers
  refine ⟨op.g, not_isEmpty_of_member member, ?_⟩
  rw [name, groups, removes]
  by_contra stays
  simp only [not_or, not_not] at stays
  exact lost stays

/-- The calls in progress end, and the group is as lost as before. -/
theorem drain {g : Nat} (inv : Inv s) (lost : Lost s g) :
    CanReach step (fun t => (∀ i, t.ops.get i = none) ∧ t.deleting = none ∧ Lost t g) s := by
  refine canReach_of_measure (fun s => Inv s ∧ Lost s g)
    (fun s => s.ops.keys.card + if s.deleting.isSome then 1 else 0) ?_ ⟨inv, lost⟩
  rintro s ⟨inv, lost⟩ busy
  cases removes : s.deleting with
  | some group =>
      have next : step s .delete = some (s.delete group) := by
        simp only [step, removes, Option.map_some]
      refine ⟨.delete, _, next, ⟨inv.delete removes, lost.1, .inl ?_⟩, by simp [State.delete]⟩
      show (s.groups.delete group).get (s.heap g).group ≠ some g
      rw [GoMap.get_delete]
      split
      · exact (Option.some_ne_none g).symm
      · rename_i other
        rcases lost.2 with elsewhere | removed
        · exact elsewhere
        · rw [removes] at removed
          exact absurd (Option.some.inj removed).symm other
  | none =>
      rcases s.ops.forall_get_none_or with quiet | ⟨i, op, found⟩
      · exact absurd ⟨quiet, removes, lost⟩ busy
      · obtain ⟨t, next⟩ : ∃ t, step s (.register i) = some t := by
          simp only [step, found]
          split
          · exact ⟨_, rfl⟩
          · exact ⟨_, rfl⟩
        have less := Nat.add_lt_add_right (GoMap.card_delete_lt found) 0
        refine ⟨.register i, t, next, ⟨step_inv s _ t inv next, ?_⟩, ?_⟩
        · rcases step_register_cases next with ⟨op', found', rfl | registers⟩
          · exact lost
          · obtain ⟨g', r', registers', rfl⟩ := register_eq_setGroup registers
            have joined := register_eq_ok inv.sorted registers'
            by_cases same : g = op'.g
            · subst same
              rcases joined.ends with ⟨empty, -⟩ | ⟨-, -, fits⟩
              · exact absurd empty lost.1
              · simp only [Lost, State.setGroup, Function.update_self, joined.fits.group,
                  ← fits.group]
                exact ⟨not_isEmpty_of_member joined.member, lost.2⟩
            · simp only [Lost, State.setGroup, Function.update_of_ne same]
              exact lost
        · rcases step_register_cases next with ⟨op', found', rfl | registers⟩
          · simpa [removes] using less
          · obtain ⟨g', r', -, rfl⟩ := register_eq_setGroup registers
            simpa [State.setGroup, removes] using less

/-- From a first member of a lost group the calls in progress can end, with the group lost. -/
theorem inconsistent_of_unguarded {l : Label} (inv : Inv s) (unguarded : ¬ Guard s l)
    (next : step s l = some t) :
    ∃ more, ¬ Along step (fun _ _ t => Consistent t) s (l :: more) := by
  cases l with
  | register i =>
      obtain ⟨g, lost⟩ := lost_of_unguarded inv unguarded next
      obtain ⟨more, u, drained, quiet, unlocked, nonempty, elsewhere⟩ :=
        drain (step_inv s _ t inv next) lost
      refine ⟨more, fun consistent => ?_⟩
      have last : Consistent u := consistent.last (exec_cons_eq_some.2 ⟨t, next, drained⟩)
      have stored := (last quiet unlocked).stored g nonempty
      rcases elsewhere with other | removes
      · exact other stored
      · rw [unlocked] at removes
        cases removes
  | _ => exact absurd trivial unguarded

/-- **The controller and the router agree** whenever no call is in progress, if a proxy
becomes a first member only in a group that is under its name to stay.  After any other
first member there is a group with members that is not under its name. -/
theorem controller_and_router_agree (ls : List Label) :
    (Along step (fun s l _ => Guard s l) start ls →
      Along step (fun _ _ t => Consistent t) start ls) ∧
    ∀ s l t, Along step (fun s l _ => Guard s l) start ls → exec step start ls = some s →
      ¬ Guard s l → step s l = some t →
        ∃ more, ¬ Along step (fun _ _ t => Consistent t) start (ls ++ l :: more) := by
  have kept : ∀ s l t, Inv s ∧ Kept s → Guard s l → step s l = some t → Inv t ∧ Kept t :=
    fun s l t inv guard next =>
      ⟨step_inv s l t inv.1 next, step_kept s l t inv.1 inv.2 guard next⟩
  have consistent : ∀ s l t, Inv s ∧ Kept s → Guard s l → step s l = some t → Consistent t := by
    intro s l t inv guard next
    obtain ⟨inv', kept'⟩ := kept s l t inv guard next
    exact kept'.consistent inv'
  exact strengthen_and_tight (fun s => Inv s ∧ Kept s) kept consistent
    (fun s l t inv unguarded next => inconsistent_of_unguarded inv.1 unguarded next)
    ⟨start_inv, start_kept⟩ ls

/-- The second `Register` has the object before the only member leaves it. -/
def lateRegister : List Label :=
  let routeConfig : RouteConfig :=
    ⟨0, GoString.lit "a.com", [], [], [], [], [], [], none, none, none⟩
  [.lookup (GoString.lit "first") (GoString.lit "web") [] routeConfig, .register 0,
    .lookup (GoString.lit "second") (GoString.lit "web") [] routeConfig,
    .unRegister (GoString.lit "first") (GoString.lit "web"), .delete, .register 1]

theorem late_register_joins_lost_group :
    ¬ Along step (fun _ _ t => Consistent t) start lateRegister := by
  have lost : (exec step start lateRegister).map (fun s =>
      (s.ops.keys, s.deleting, decide (s.heap 0).IsEmpty, s.groups.keys)) =
        some (∅, none, false, ∅) := by
    decide
  intro consistent
  obtain ⟨s, run, found⟩ := Option.map_eq_some_iff.1 lost
  simp only [Prod.mk.injEq, decide_eq_false_iff_not] at found
  obtain ⟨quiet, unlocked, nonempty, names⟩ := found
  have last : Consistent s := consistent.last run
  have stored := (last (GoMap.get_eq_none_of_keys quiet) unlocked).stored 0 nonempty
  rw [GoMap.get_eq_none_of_keys names] at stored
  cases stored

end ChmlFrp.Server.HttpGroup
