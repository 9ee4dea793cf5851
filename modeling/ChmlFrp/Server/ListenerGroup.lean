/-
# ChmlFrp.Server.ListenerGroup — the groups of tcp and tcpmux proxies

`server/group/tcp.go` and `server/group/tcpmux.go`.  `Listen` of the controller gets the
group object or makes one, under the controller's lock, and lets it listen, under the
group's.  The first listener of a group opens the real one; the last `CloseListener`
closes the channel through which the members accept, closes the real listener, and takes
the name out of the controller while it holds the group's lock.

The channel is made with the group object and is never made again.

* `group_lifecycle`: in the runs in which no `Listen` opens the real listener on a group
  object whose channel is closed, a group with listeners is the one under its name and
  its members are offered the connections; any other `Listen` leaves one that is not.
* `late_listen_joins_dead_group`: a `Listen` that has the object before the last close.
-/
import ChmlFrp.Lib.GoMap
import ChmlFrp.Lib.Transition

namespace ChmlFrp.Server.ListenerGroup

set_option autoImplicit false

universe u

open ChmlFrp.Lib
open ChmlFrp.Lib.Transition

inductive Err where
  | groupAuthFailed
  | groupParamsInvalid
  | groupDifferentPort
  | unknownMultiplexer (multiplexer : String)
  /-- Of `Acquire` or of the real `Listen`. -/
  | firstListen (err : String)
  deriving DecidableEq, Repr

/-- What a `Listen` of a tcp proxy asks for, without the group. -/
structure TCPArgs where
  groupKey : String
  addr : String
  port : Int
  deriving DecidableEq, Repr

structure TCPMuxArgs where
  multiplexer : String
  groupKey : String
  domain : String
  routeByHTTPUser : String
  username : String
  password : String
  deriving DecidableEq, Repr

inductive Kind where
  | tcp
  | tcpMux
  deriving DecidableEq, Repr

def Kind.Args : Kind → Type
  | .tcp => TCPArgs
  | .tcpMux => TCPMuxArgs

/-- What the controller refuses when it has the group object. -/
def Kind.refuses : (kind : Kind) → kind.Args → Option Err
  | .tcp, _ => none
  | .tcpMux, args =>
      if args.multiplexer = "httpconnect" then none
      else some (.unknownMultiplexer args.multiplexer)

/-- How a `Listen` differs from what the group was opened with. -/
def Kind.differs : (kind : Kind) → String × kind.Args → String × kind.Args → Option Err
  | .tcp, (tgGroup, tg), (group, args) =>
      if tgGroup ≠ group ∨ tg.addr ≠ args.addr then some .groupParamsInvalid
      else if tg.port ≠ args.port then some .groupDifferentPort
      else if tg.groupKey ≠ args.groupKey then some .groupAuthFailed
      else none
  | .tcpMux, (tmgGroup, tmg), (group, args) =>
      if tmgGroup ≠ group ∨ tmg.domain ≠ args.domain ∨
          tmg.routeByHTTPUser ≠ args.routeByHTTPUser ∨ tmg.username ≠ args.username ∨
          tmg.password ≠ args.password then some .groupParamsInvalid
      else if tmg.groupKey ≠ args.groupKey then some .groupAuthFailed
      else none

/-! ## The machine -/

/-- A group object; `args` are those of the first listener. -/
structure Group (α : Type u) where
  group : String
  args : Option α
  realPort : Int
  acceptChOpen : Bool
  /-- The real listener is open. -/
  realLn : Bool
  worker : Bool
  lns : List Nat
  /-- `CloseListener` holds the lock until the name is removed. -/
  locked : Bool

/-- `NewTCPGroup`, `NewTCPMuxGroup` -/
def newGroup {α : Type u} : Group α := ⟨"", none, 0, true, false, false, [], false⟩

/-- A call that is not through. -/
inductive Op (α : Type u) where
  /-- A `Listen` that has the group object. -/
  | fetched (g : Nat) (group : String) (args : α)
  /-- A `CloseListener` that has still to remove the name. -/
  | removing (g : Nat)

structure State (α : Type u) where
  groups : GoMap String Nat
  heap : Nat → Group α
  /-- The next group object. -/
  next : Nat
  ops : GoMap Nat (Op α)
  nextOp : Nat

def start {α : Type u} : State α := ⟨∅, fun _ => newGroup, 0, ∅, 0⟩

inductive Label (α : Type u) where
  /-- The first part of the controller's `Listen`. -/
  | fetch (group : String) (args : α)
  /-- The group's `Listen`; the port, if it has to listen on the real address. -/
  | listen (i : Nat) (first : Except String Int)
  /-- `Close` of an open listener.  A second one panics before it gets to the group. -/
  | close (g ln : Nat)
  /-- `RemoveGroup` -/
  | remove (i : Nat)
  /-- The worker accepts a connection and offers it to the members. -/
  | accept (g : Nat)

section Machine

variable {α : Type u} (refuses : α → Option Err) (differs : String × α → String × α → Option Err)

namespace Group

/-- `TCPGroup.Listen`, `TCPMuxGroup.HTTPConnectListen`: the group and the real port. -/
def listen (tg : Group α) (ln : Nat) (group : String) (args : α) (first : Except String Int) :
    Except Err (Group α × Int) :=
  if tg.lns = [] then
    match first with
    | .error err => .error (.firstListen err)
    | .ok realPort =>
        .ok
          ({ tg with
              group := group
              args := some args
              realPort := realPort
              realLn := true
              worker := true
              lns := [ln] },
            realPort)
  else
    match tg.args.bind fun old => differs (tg.group, old) (group, args) with
    | some err => .error err
    | none => .ok ({ tg with lns := tg.lns ++ [ln] }, tg.realPort)

/-- `CloseListener`, up to `RemoveGroup`.  The close of a closed channel panics, and then
the rest is not done. -/
def closeListener (tg : Group α) (ln : Nat) : Group α :=
  let lns := tg.lns.erase ln
  if lns = [] ∧ tg.acceptChOpen then
    { tg with lns := [], acceptChOpen := false, realLn := false, worker := false, locked := true }
  else { tg with lns := lns }

/-- A connection that is accepted on the real listener is offered to the members. -/
def Offers (tg : Group α) : Prop :=
  tg.realLn = true ∧ tg.worker = true ∧ tg.acceptChOpen = true

end Group

def State.setGroup (s : State α) (g : Nat) (tg : Group α) : State α :=
  { s with heap := Function.update s.heap g tg }

def step (s : State α) : Label α → Option (State α)
  | .fetch group args =>
      match s.groups.get group with
      | some g =>
          some { s with ops := s.ops.set s.nextOp (.fetched g group args), nextOp := s.nextOp + 1 }
      | none =>
          some
            { groups := s.groups.set group s.next
              heap := Function.update s.heap s.next newGroup
              next := s.next + 1
              ops := s.ops.set s.nextOp (.fetched s.next group args)
              nextOp := s.nextOp + 1 }
  | .listen i first =>
      match s.ops.get i with
      | some (.fetched g group args) =>
          match refuses args with
          | some _ => some { s with ops := s.ops.delete i }
          | none =>
              if (s.heap g).locked then none
              else
                match (s.heap g).listen differs i group args first with
                | .error _ => some { s with ops := s.ops.delete i }
                | .ok (tg, _) => some { s.setGroup g tg with ops := s.ops.delete i }
      | _ => none
  | .close g ln =>
      if ln ∈ (s.heap g).lns ∧ (s.heap g).locked = false then
        let tg := (s.heap g).closeListener ln
        if tg.locked then
          some
            { s.setGroup g tg with
              ops := s.ops.set s.nextOp (.removing g)
              nextOp := s.nextOp + 1 }
        else some (s.setGroup g tg)
      else none
  | .remove i =>
      match s.ops.get i with
      | some (.removing g) =>
          some
            { s.setGroup g { s.heap g with locked := false } with
              groups := s.groups.delete (s.heap g).group
              ops := s.ops.delete i }
      | _ => none
  | .accept g =>
      if (s.heap g).realLn ∧ (s.heap g).worker then
        -- The worker returns when its send on the closed channel panics.
        some (s.setGroup g { s.heap g with worker := (s.heap g).acceptChOpen })
      else none

/-- At a state with no call in progress, the groups with listeners are those under their
names, and offer their connections. -/
def Consistent (s : State α) : Prop :=
  (∀ i, s.ops.get i = none) →
    (∀ g, (s.heap g).lns ≠ [] →
      s.groups.get (s.heap g).group = some g ∧ (s.heap g).Offers) ∧
    ∀ g g', (s.heap g).lns ≠ [] → (s.heap g').lns ≠ [] →
      (s.heap g).group = (s.heap g').group → g = g'

/-- A `Listen` does not open the real listener on a group object whose channel is closed. -/
def Guard (s : State α) : Label α → Prop
  | .listen i first => ∀ g group args, s.ops.get i = some (.fetched g group args) →
      refuses args = none → (s.heap g).lns = [] → first.isOk = true →
        (s.heap g).acceptChOpen = true
  | _ => True

/-! ## The invariant -/

structure Inv (s : State α) : Prop where
  /-- A group object under a name is open, or is about to be removed. -/
  stored : ∀ name g, s.groups.get name = some g →
    g < s.next ∧ ((s.heap g).acceptChOpen = true ∨ (s.heap g).locked = true)
  one : ∀ name name' g, s.groups.get name = some g → s.groups.get name' = some g → name = name'
  live : ∀ g, (s.heap g).lns ≠ [] → g < s.next ∧ (s.heap g).Offers ∧
    (s.heap g).locked = false ∧ s.groups.get (s.heap g).group = some g
  /-- As long as the channel of a fetched group object is open, the object is under its name. -/
  fetched : ∀ i g name args, s.ops.get i = some (.fetched g name args) →
    g < s.next ∧ ((s.heap g).acceptChOpen = true → s.groups.get name = some g)
  removing : ∀ i g, s.ops.get i = some (.removing g) →
    g < s.next ∧ (s.heap g).locked = true ∧ (s.heap g).lns = [] ∧
      (s.heap g).acceptChOpen = false ∧ s.groups.get (s.heap g).group = some g
  locked : ∀ g, (s.heap g).locked = true → ∃ i, s.ops.get i = some (.removing g)
  once : ∀ i j g, s.ops.get i = some (.removing g) → s.ops.get j = some (.removing g) → i = j
  ops : ∀ i, s.nextOp ≤ i → s.ops.get i = none

theorem start_inv : Inv (start : State α) where
  stored name g stored := by simp [start] at stored
  one name name' g stored := by simp [start] at stored
  live g lns := absurd rfl lns
  fetched i g name args op := by simp [start] at op
  removing i g op := by simp [start] at op
  locked g locked := by cases locked
  once i j g op := by simp [start] at op
  ops i _ := by simp [start]

variable {refuses} {differs} {s t : State α} {l : Label α}

theorem Inv.consistent (inv : Inv s) : Consistent s := by
  intro _
  constructor
  · intro g lns
    obtain ⟨-, offers, -, stored⟩ := inv.live g lns
    exact ⟨stored, offers⟩
  · intro g g' lns lns' same
    have stored := (inv.live g lns).2.2.2
    rw [same, (inv.live g' lns').2.2.2] at stored
    exact (Option.some.inj stored).symm

/-- A call is through, or turns into another one, and nothing else changes. -/
theorem Inv.finish (inv : Inv s) {i g : Nat} {name : String} {args : α}
    (op : s.ops.get i = some (.fetched g name args)) :
    Inv { s with ops := s.ops.delete i } where
  stored := inv.stored
  one := inv.one
  live := inv.live
  fetched j g' name' args' op' := inv.fetched j g' name' args' (GoMap.get_delete_eq_some.1 op').2
  removing j g' op' := inv.removing j g' (GoMap.get_delete_eq_some.1 op').2
  locked g' is := by
    obtain ⟨j, op'⟩ := inv.locked g' is
    have other : j ≠ i := by
      rintro rfl
      cases op.symm.trans op'
    exact ⟨j, GoMap.get_delete_eq_some.2 ⟨other, op'⟩⟩
  once j k g' op' op'' :=
    inv.once j k g' (GoMap.get_delete_eq_some.1 op').2 (GoMap.get_delete_eq_some.1 op'').2
  ops j large := GoMap.get_delete_eq_none (inv.ops j large)

/-- A call that begins is none of those in progress. -/
theorem Inv.get_ops_set (inv : Inv s) {i : Nat} {op new : Op α} (running : s.ops.get i = some op) :
    (s.ops.set s.nextOp new).get i = some op :=
  GoMap.get_set_of_fresh (inv.ops s.nextOp (Nat.le_refl _)) running

theorem Inv.ops_set (inv : Inv s) {new : Op α} (i : Nat) (large : s.nextOp + 1 ≤ i) :
    (s.ops.set s.nextOp new).get i = none := by
  rw [GoMap.get_set, if_neg (Nat.ne_of_gt large)]
  exact inv.ops i (Nat.le_of_succ_le large)

theorem fetch_inv {group : String} {args : α} (inv : Inv s)
    (next : step refuses differs s (.fetch group args) = some t) : Inv t := by
  simp only [step] at next
  split at next
  · rename_i g found
    cases next
    refine ⟨inv.stored, inv.one, inv.live, ?_, ?_, ?_, ?_, ?_⟩
    · intro i g' name args' op
      simp only [GoMap.get_set] at op
      split at op
      · cases op
        exact ⟨(inv.stored group g found).1, fun _ => found⟩
      · exact inv.fetched i g' name args' op
    · intro i g' op
      simp only [GoMap.get_set] at op
      split at op
      · cases op
      · exact inv.removing i g' op
    · intro g' is
      obtain ⟨i, op⟩ := inv.locked g' is
      exact ⟨i, inv.get_ops_set op⟩
    · intro i j g' op op'
      simp only [GoMap.get_set] at op op'
      split at op
      · cases op
      · split at op'
        · cases op'
        · exact inv.once i j g' op op'
    · exact inv.ops_set
  · rename_i absent
    cases next
    have old : ∀ {g}, g < s.next → Function.update s.heap s.next newGroup g = s.heap g :=
      fun less => Function.update_of_ne (Nat.ne_of_lt less) ..
    refine ⟨?_, ?_, ?_, ?_, ?_, ?_, ?_, ?_⟩
    · intro name g found
      simp only [GoMap.get_set] at found
      split at found
      · cases found
        refine ⟨Nat.lt_succ_self _, .inl ?_⟩
        simp only [Function.update_self]
        rfl
      · obtain ⟨less, state⟩ := inv.stored name g found
        refine ⟨Nat.lt_succ_of_lt less, ?_⟩
        simp only [old less]
        exact state
    · intro name name' g found found'
      simp only [GoMap.get_set] at found found'
      split at found
      · rename_i same
        cases found
        split at found'
        · rename_i same'
          rw [same, same']
        · exact absurd (inv.stored name' _ found').1 (Nat.lt_irrefl _)
      · split at found'
        · cases found'
          exact absurd (inv.stored name _ found).1 (Nat.lt_irrefl _)
        · exact inv.one name name' g found found'
    · intro g lns
      by_cases fresh : g = s.next
      · subst fresh
        simp only [Function.update_self] at lns
        exact absurd rfl lns
      · simp only [Function.update_of_ne fresh] at lns ⊢
        obtain ⟨less, offers, unlocked, found⟩ := inv.live g lns
        exact ⟨Nat.lt_succ_of_lt less, offers, unlocked, GoMap.get_set_of_fresh absent found⟩
    · intro i g name args' op
      simp only [GoMap.get_set] at op
      split at op
      · cases op
        exact ⟨Nat.lt_succ_self _, fun _ => by rw [GoMap.get_set, if_pos rfl]⟩
      · obtain ⟨less, found⟩ := inv.fetched i g name args' op
        refine ⟨Nat.lt_succ_of_lt less, fun isOpen => ?_⟩
        simp only [old less] at isOpen
        exact GoMap.get_set_of_fresh absent (found isOpen)
    · intro i g op
      simp only [GoMap.get_set] at op
      split at op
      · cases op
      · obtain ⟨less, locked, lns, closed, found⟩ := inv.removing i g op
        have other : (s.heap g).group ≠ group := by
          intro same
          rw [same, absent] at found
          cases found
        refine ⟨Nat.lt_succ_of_lt less, ?_⟩
        simp only [old less, GoMap.get_set, if_neg other]
        exact ⟨locked, lns, closed, found⟩
    · intro g is
      by_cases fresh : g = s.next
      · subst fresh
        simp only [Function.update_self] at is
        cases is
      · simp only [Function.update_of_ne fresh] at is
        obtain ⟨i, op⟩ := inv.locked g is
        exact ⟨i, inv.get_ops_set op⟩
    · intro i j g op op'
      simp only [GoMap.get_set] at op op'
      split at op
      · cases op
      · split at op'
        · cases op'
        · exact inv.once i j g op op'
    · exact inv.ops_set

/-- A group object changes outside its channel and its lock. -/
theorem Inv.setGroup (inv : Inv s) {g : Nat} {tg : Group α}
    (channel : tg.acceptChOpen = (s.heap g).acceptChOpen)
    (lock : tg.locked = (s.heap g).locked)
    (live : tg.lns ≠ [] → g < s.next ∧ tg.Offers ∧ tg.locked = false ∧
      s.groups.get tg.group = some g)
    (held : (s.heap g).locked = true → tg.lns = [] ∧ tg.group = (s.heap g).group) :
    Inv (s.setGroup g tg) := by
  have at_g : (s.setGroup g tg).heap g = tg := Function.update_self ..
  have off_g : ∀ {g'}, g' ≠ g → (s.setGroup g tg).heap g' = s.heap g' :=
    fun other => Function.update_of_ne other ..
  have channels : ∀ g', ((s.setGroup g tg).heap g').acceptChOpen = (s.heap g').acceptChOpen := by
    intro g'
    by_cases same : g' = g
    · subst same
      rw [at_g, channel]
    · rw [off_g same]
  have locks : ∀ g', ((s.setGroup g tg).heap g').locked = (s.heap g').locked := by
    intro g'
    by_cases same : g' = g
    · subst same
      rw [at_g, lock]
    · rw [off_g same]
  refine ⟨?_, inv.one, ?_, ?_, ?_, ?_, inv.once, inv.ops⟩
  · intro name g' found
    rw [channels, locks]
    exact inv.stored name g' found
  · intro g' lns
    by_cases same : g' = g
    · subst same
      rw [at_g] at lns ⊢
      exact live lns
    · rw [off_g same] at lns ⊢
      exact inv.live g' lns
  · intro i g' name args op
    rw [channels]
    exact inv.fetched i g' name args op
  · intro i g' op
    rw [channels, locks]
    obtain ⟨less, locked, lns, closed, found⟩ := inv.removing i g' op
    by_cases same : g' = g
    · subst same
      obtain ⟨none, name⟩ := held locked
      rw [at_g, none, name]
      exact ⟨less, locked, rfl, closed, found⟩
    · rw [off_g same]
      exact ⟨less, locked, lns, closed, found⟩
  · intro g' is
    rw [locks] at is
    exact inv.locked g' is

theorem Group.listen_eq_ok {tg tg' : Group α} {ln : Nat} {group : String} {args : α}
    {first : Except String Int} {port : Int}
    (listens : tg.listen differs ln group args first = .ok (tg', port)) :
    tg.lns = [] ∧ first = .ok port ∧
        tg' = ⟨group, some args, port, tg.acceptChOpen, true, true, [ln], tg.locked⟩ ∨
      tg.lns ≠ [] ∧ tg' = { tg with lns := tg.lns ++ [ln] } := by
  unfold Group.listen at listens
  split at listens
  · rename_i none
    cases first with
    | error err => cases listens
    | ok realPort =>
        cases listens
        exact .inl ⟨none, rfl, rfl⟩
  · rename_i some
    split at listens
    · cases listens
    · cases listens
      exact .inr ⟨some, rfl⟩

/-- What a `Listen` that has the group object does. -/
theorem listen_cases {i : Nat} {first : Except String Int}
    (next : step refuses differs s (.listen i first) = some t) :
    ∃ g group args, s.ops.get i = some (.fetched g group args) ∧
      (t = { s with ops := s.ops.delete i } ∨
        refuses args = none ∧ (s.heap g).locked = false ∧
          ∃ tg port, (s.heap g).listen differs i group args first = .ok (tg, port) ∧
            t = { s.setGroup g tg with ops := s.ops.delete i }) := by
  simp only [step] at next
  split at next
  · rename_i g group args op
    refine ⟨g, group, args, op, ?_⟩
    split at next
    · cases next
      exact .inl rfl
    · rename_i accepted
      split at next
      · cases next
      · rename_i unlocked
        split at next
        · cases next
          exact .inl rfl
        · rename_i tg port listens
          cases next
          exact .inr ⟨accepted, eq_false_of_ne_true unlocked, tg, port, listens, rfl⟩
  · cases next

theorem listen_inv {i : Nat} {first : Except String Int} (inv : Inv s)
    (guard : Guard refuses s (.listen i first))
    (next : step refuses differs s (.listen i first) = some t) : Inv t := by
  rcases listen_cases next with
      ⟨g, group, args, op, rfl | ⟨accepted, unlocked, tg, port, listens, rfl⟩⟩
  · exact inv.finish op
  · obtain ⟨less, found⟩ := inv.fetched i g group args op
    have free : (s.heap g).locked = true → False := fun locked => by
      rw [unlocked] at locked
      cases locked
    suffices kept : Inv (s.setGroup g tg) from kept.finish op
    rcases Group.listen_eq_ok listens with ⟨none, rfl, rfl⟩ | ⟨some, rfl⟩
    · have isOpen := guard g group args op accepted none rfl
      refine inv.setGroup rfl rfl ?_ fun locked => (free locked).elim
      intro _
      exact ⟨less, ⟨rfl, rfl, isOpen⟩, unlocked, found isOpen⟩
    · refine inv.setGroup rfl rfl ?_ fun locked => (free locked).elim
      intro _
      exact inv.live g some

/-- The group object of the last listener is closed, and its name is still to be removed. -/
theorem Inv.lastClose (inv : Inv s) {g : Nat} {tg : Group α} (less : g < s.next)
    (unlocked : (s.heap g).locked = false)
    (found : s.groups.get (s.heap g).group = some g)
    (name : tg.group = (s.heap g).group) (none : tg.lns = [])
    (closed : tg.acceptChOpen = false) (locked : tg.locked = true) :
    Inv
      { s.setGroup g tg with
        ops := s.ops.set s.nextOp (.removing g)
        nextOp := s.nextOp + 1 } := by
  have at_g : (s.setGroup g tg).heap g = tg := Function.update_self ..
  have off_g : ∀ {g'}, g' ≠ g → (s.setGroup g tg).heap g' = s.heap g' :=
    fun other => Function.update_of_ne other ..
  have unheld : ∀ i, s.ops.get i ≠ some (.removing g) := by
    intro i op
    have := (inv.removing i g op).2.1
    rw [unlocked] at this
    cases this
  refine ⟨?_, inv.one, ?_, ?_, ?_, ?_, ?_, inv.ops_set⟩
  · intro name g' stored
    by_cases same : g' = g
    · subst same
      exact ⟨less, .inr (by simp only [at_g, locked])⟩
    · simp only [off_g same]
      exact inv.stored name g' stored
  · intro g' lns
    by_cases same : g' = g
    · subst same
      simp only [at_g] at lns
      exact absurd none lns
    · simp only [off_g same] at lns ⊢
      exact inv.live g' lns
  · intro i g' name args op
    simp only [GoMap.get_set] at op
    split at op
    · cases op
    · obtain ⟨less', stored⟩ := inv.fetched i g' name args op
      refine ⟨less', fun isOpen => ?_⟩
      by_cases same : g' = g
      · subst same
        simp only [at_g, closed] at isOpen
        cases isOpen
      · simp only [off_g same] at isOpen
        exact stored isOpen
  · intro i g' op
    simp only [GoMap.get_set] at op
    split at op
    · cases op
      simp only [at_g]
      refine ⟨less, locked, none, closed, ?_⟩
      rw [name]
      exact found
    · by_cases same : g' = g
      · subst same
        exact absurd op (unheld i)
      · simp only [off_g same]
        exact inv.removing i g' op
  · intro g' is
    by_cases same : g' = g
    · subst same
      exact ⟨s.nextOp, by simp only [GoMap.get_set, if_true]⟩
    · simp only [off_g same] at is
      obtain ⟨i, op⟩ := inv.locked g' is
      exact ⟨i, inv.get_ops_set op⟩
  · intro i j g' op op'
    simp only [GoMap.get_set] at op op'
    split at op
    · cases op
      split at op'
      · rename_i here there
        rw [here, there]
      · exact absurd op' (unheld j)
    · split at op'
      · cases op'
        exact absurd op (unheld i)
      · exact inv.once i j g' op op'

theorem close_inv {g ln : Nat} (inv : Inv s)
    (next : step refuses differs s (.close g ln) = some t) : Inv t := by
  simp only [step] at next
  split at next
  · rename_i closes
    obtain ⟨member, unlocked⟩ := closes
    have nonempty : (s.heap g).lns ≠ [] := List.ne_nil_of_mem member
    obtain ⟨less, offers, -, found⟩ := inv.live g nonempty
    have isOpen := offers.2.2
    unfold Group.closeListener at next
    by_cases last : (s.heap g).lns.erase ln = []
    · simp only [last, isOpen, and_self, if_true] at next
      cases next
      exact inv.lastClose less unlocked found rfl rfl rfl rfl
    · simp only [last, false_and, if_false, unlocked, Bool.false_eq_true] at next
      cases next
      refine inv.setGroup rfl unlocked.symm (fun _ => ⟨less, offers, rfl, found⟩) ?_
      intro locked
      rw [unlocked] at locked
      cases locked
  · cases next

theorem remove_inv {i : Nat} (inv : Inv s)
    (next : step refuses differs s (.remove i) = some t) : Inv t := by
  simp only [step] at next
  split at next
  · rename_i g op
    cases next
    obtain ⟨-, -, none, closed, found⟩ := inv.removing i g op
    have off_g : ∀ {g' tg}, g' ≠ g → (s.setGroup g tg).heap g' = s.heap g' :=
      fun other => Function.update_of_ne other ..
    have at_g : ∀ {tg}, (s.setGroup g tg).heap g = tg := Function.update_self ..
    have another : ∀ {name g'}, g' ≠ g → s.groups.get name = some g' →
        (s.groups.delete (s.heap g).group).get name = some g' := by
      intro name g' other stored
      have names : name ≠ (s.heap g).group := by
        rintro rfl
        exact other (Option.some.inj (stored.symm.trans found))
      exact GoMap.get_delete_eq_some.2 ⟨names, stored⟩
    refine ⟨?_, ?_, ?_, ?_, ?_, ?_, ?_, ?_⟩
    · intro name g' left_
      obtain ⟨names, stored⟩ := GoMap.get_delete_eq_some.1 left_
      have other : g' ≠ g := by
        rintro rfl
        exact names (inv.one name _ g' stored found)
      simp only [off_g other]
      exact inv.stored name g' stored
    · intro name name' g' stored stored'
      exact inv.one name name' g' (GoMap.get_delete_eq_some.1 stored).2
        (GoMap.get_delete_eq_some.1 stored').2
    · intro g' lns
      by_cases same : g' = g
      · subst same
        simp only [at_g] at lns
        exact absurd none lns
      · simp only [off_g same] at lns ⊢
        obtain ⟨less, offers, unlocked, stored⟩ := inv.live g' lns
        exact ⟨less, offers, unlocked, another same stored⟩
    · intro j g' name args op'
      obtain ⟨less, stored⟩ := inv.fetched j g' name args (GoMap.get_delete_eq_some.1 op').2
      refine ⟨less, fun isOpen => ?_⟩
      by_cases same : g' = g
      · subst same
        simp only [at_g, closed] at isOpen
        cases isOpen
      · simp only [off_g same] at isOpen
        exact another same (stored isOpen)
    · intro j g' left_
      obtain ⟨calls, op'⟩ := GoMap.get_delete_eq_some.1 left_
      have other : g' ≠ g := by
        rintro rfl
        exact calls (inv.once j i g' op' op)
      obtain ⟨less, locked, lns, closed', stored⟩ := inv.removing j g' op'
      simp only [off_g other]
      exact ⟨less, locked, lns, closed', another other stored⟩
    · intro g' locked
      by_cases same : g' = g
      · subst same
        simp only [at_g] at locked
        cases locked
      · simp only [off_g same] at locked
        obtain ⟨j, op'⟩ := inv.locked g' locked
        have calls : j ≠ i := by
          rintro rfl
          cases op'.symm.trans op
          exact same rfl
        exact ⟨j, GoMap.get_delete_eq_some.2 ⟨calls, op'⟩⟩
    · intro j k g' op' op''
      exact inv.once j k g' (GoMap.get_delete_eq_some.1 op').2 (GoMap.get_delete_eq_some.1 op'').2
    · intro j large
      exact GoMap.get_delete_eq_none (inv.ops j large)
  · cases next

theorem accept_inv {g : Nat} (inv : Inv s)
    (next : step refuses differs s (.accept g) = some t) : Inv t := by
  simp only [step] at next
  split at next
  · cases next
    refine inv.setGroup rfl rfl ?_ fun locked => ?_
    · intro lns
      obtain ⟨less, offers, unlocked, found⟩ := inv.live g lns
      exact ⟨less, ⟨offers.1, offers.2.2, offers.2.2⟩, unlocked, found⟩
    · obtain ⟨i, op⟩ := inv.locked g locked
      exact ⟨(inv.removing i g op).2.2.1, rfl⟩
  · cases next

theorem step_inv (s : State α) (l : Label α) (t : State α) (inv : Inv s)
    (guard : Guard refuses s l) (next : step refuses differs s l = some t) : Inv t := by
  cases l with
  | fetch group args => exact fetch_inv inv next
  | listen i first => exact listen_inv inv guard next
  | close g ln => exact close_inv inv next
  | remove i => exact remove_inv inv next
  | accept g => exact accept_inv inv next

/-! ## A listen on a dead group object -/

/-- The group object has listeners, and its channel is closed. -/
def Dead (s : State α) (g : Nat) : Prop :=
  (s.heap g).lns ≠ [] ∧ (s.heap g).acceptChOpen = false

/-- A lock that is held is given back. -/
def Removed (s : State α) : Prop :=
  ∀ g, (s.heap g).locked = true → ∃ i, s.ops.get i = some (.removing g)

theorem Dead.setGroup {g g' : Nat} (dead : Dead s g) {tg : Group α}
    (listeners : (s.heap g').lns ≠ [] → tg.lns ≠ [])
    (channel : tg.acceptChOpen = (s.heap g').acceptChOpen) : Dead (s.setGroup g' tg) g := by
  by_cases same : g = g'
  · subst same
    simp only [Dead, State.setGroup, Function.update_self]
    exact ⟨listeners dead.1, channel.trans dead.2⟩
  · simp only [Dead, State.setGroup, Function.update_of_ne same]
    exact dead

theorem dead_of_unguarded {i : Nat} {first : Except String Int} (inv : Inv s)
    (unguarded : ¬ Guard refuses s (.listen i first))
    (next : step refuses differs s (.listen i first) = some t) :
    Removed t ∧ ∃ g, Dead t g := by
  simp only [Guard, not_forall] at unguarded
  obtain ⟨g, group, args, op, accepted, none, ok, closed⟩ := unguarded
  have closed : (s.heap g).acceptChOpen = false := eq_false_of_ne_true closed
  cases first with
  | error err => cases ok
  | ok port =>
      simp only [step, op, accepted] at next
      split at next
      · cases next
      · rename_i unlocked
        simp only [Group.listen, none, if_true] at next
        cases next
        constructor
        · intro g' is
          by_cases same : g' = g
          · subst same
            simp only [State.setGroup, Function.update_self] at is
            exact absurd is unlocked
          · simp only [State.setGroup, Function.update_of_ne same] at is
            obtain ⟨j, op'⟩ := inv.locked g' is
            refine ⟨j, ?_⟩
            have calls : j ≠ i := by
              rintro rfl
              cases op.symm.trans op'
            rw [GoMap.get_delete, if_neg calls]
            exact op'
        · refine ⟨g, ?_⟩
          simp only [Dead, State.setGroup, Function.update_self]
          exact ⟨List.cons_ne_nil _ _, closed⟩

/-- With no lock held, a call in progress can end. -/
theorem listen_enabled {i g : Nat} {group : String} {args : α} {first : Except String Int}
    (op : s.ops.get i = some (.fetched g group args)) (unlocked : (s.heap g).locked = false) :
    ∃ t, step refuses differs s (.listen i first) = some t := by
  simp only [step, op, unlocked, Bool.false_eq_true, if_false]
  split
  · exact ⟨_, rfl⟩
  · split
    · exact ⟨_, rfl⟩
    · exact ⟨_, rfl⟩

/-- The calls in progress end, and the group object is as dead as before. -/
theorem drain {g : Nat} (removed : Removed s) (dead : Dead s g) :
    CanReach (step refuses differs) (fun t => (∀ i, t.ops.get i = none) ∧ Dead t g) s := by
  refine canReach_of_measure (fun s => Removed s ∧ Dead s g) (fun s => s.ops.keys.card) ?_
    ⟨removed, dead⟩
  intro s ⟨removed, dead⟩ busy
  rcases s.ops.forall_get_none_or with quiet | running
  · exact absurd ⟨quiet, dead⟩ busy
  by_cases removal : ∃ i g', s.ops.get i = some (.removing g')
  · obtain ⟨i, g', op⟩ := removal
    have next : step refuses differs s (.remove i) = some
        { s.setGroup g' { s.heap g' with locked := false } with
          groups := s.groups.delete (s.heap g').group
          ops := s.ops.delete i } := by
      simp only [step, op]
    refine ⟨.remove i, _, next, ⟨?_, ?_⟩, GoMap.card_delete_lt op⟩
    · intro g'' is
      by_cases same : g'' = g'
      · subst same
        simp only [State.setGroup, Function.update_self] at is
        cases is
      · simp only [State.setGroup, Function.update_of_ne same] at is
        obtain ⟨j, op'⟩ := removed g'' is
        refine ⟨j, ?_⟩
        have calls : j ≠ i := by
          rintro rfl
          cases op.symm.trans op'
          exact same rfl
        simp only [GoMap.get_delete, if_neg calls]
        exact op'
    · exact dead.setGroup (fun listeners => listeners) rfl
  · have unlocked : ∀ g', (s.heap g').locked = false := by
      intro g'
      by_contra locked
      obtain ⟨i, op⟩ := removed g' (eq_true_of_ne_false locked)
      exact removal ⟨i, g', op⟩
    obtain ⟨i, op, found⟩ := running
    cases op with
    | removing g' => exact absurd ⟨i, g', found⟩ removal
    | fetched g' group args =>
        obtain ⟨t, next⟩ : ∃ t, step refuses differs s (.listen i (.error "")) = some t :=
          listen_enabled found (unlocked g')
        refine ⟨.listen i (.error ""), t, next, ?_⟩
        obtain ⟨g'', group', args', op, ends⟩ := listen_cases next
        have held : ∀ h, (s.heap h).locked = true → False := by
          intro h is
          rw [unlocked h] at is
          cases is
        rcases ends with rfl | ⟨-, -, tg, port, listens, rfl⟩
        · exact ⟨⟨fun h is => (held h is).elim, dead⟩, GoMap.card_delete_lt op⟩
        · rcases Group.listen_eq_ok listens with ⟨-, first, -⟩ | ⟨some, rfl⟩
          · cases first
          · refine ⟨⟨fun h is => ?_, ?_⟩, GoMap.card_delete_lt op⟩
            · by_cases same : h = g''
              · subst same
                simp only [State.setGroup, Function.update_self] at is
                exact (held h is).elim
              · simp only [State.setGroup, Function.update_of_ne same] at is
                exact (held h is).elim
            · refine dead.setGroup (fun _ => ?_) rfl
              exact List.append_ne_nil_of_right_ne_nil _ (List.cons_ne_nil _ _)

end Machine

/-- From a `Listen` on a dead object the calls in progress can end, with the object dead. -/
theorem inconsistent_of_unguarded {kind : Kind} {s t : State kind.Args} {l : Label kind.Args}
    (inv : Inv s) (unguarded : ¬ Guard kind.refuses s l)
    (next : step kind.refuses kind.differs s l = some t) :
    ∃ more, ¬ Along (step kind.refuses kind.differs) (fun _ _ t => Consistent t) s
      (l :: more) := by
  cases l with
  | listen i first =>
      obtain ⟨removed, g, dead⟩ := dead_of_unguarded inv unguarded next
      have ends : CanReach (step kind.refuses kind.differs)
          (fun u => (∀ i, u.ops.get i = none) ∧ Dead u g) t := drain removed dead
      obtain ⟨more, u, drained, quiet, listeners, closed⟩ := ends
      refine ⟨more, fun consistent => ?_⟩
      have last : Consistent u := consistent.last (exec_cons_eq_some.2 ⟨t, next, drained⟩)
      have isOpen := ((last quiet).1 g listeners).2.2.2
      rw [closed] at isOpen
      cases isOpen
  | _ => exact absurd trivial unguarded

/-- **A group with listeners is the one under its name and offers their connections**, if
no `Listen` opens the real listener on a group object whose channel is closed.  After any
other `Listen` a group is left whose members are offered nothing. -/
theorem group_lifecycle (kind : Kind) :
    (∀ ls, Along (step kind.refuses kind.differs) (fun s l _ => Guard kind.refuses s l) start ls →
      Along (step kind.refuses kind.differs) (fun _ _ t => Consistent t) start ls) ∧
    ∀ ls s l t,
      Along (step kind.refuses kind.differs) (fun s l _ => Guard kind.refuses s l) start ls →
        exec (step kind.refuses kind.differs) start ls = some s → ¬ Guard kind.refuses s l →
          step kind.refuses kind.differs s l = some t →
            ∃ more, ¬ Along (step kind.refuses kind.differs) (fun _ _ t => Consistent t) start
              (ls ++ l :: more) := by
  have kept : ∀ s l t, Inv s → Guard kind.refuses s l →
      step kind.refuses kind.differs s l = some t → Inv t := step_inv
  have consistent : ∀ s l t, Inv s → Guard kind.refuses s l →
      step kind.refuses kind.differs s l = some t → Consistent t :=
    fun s l t inv guard next => (kept s l t inv guard next).consistent
  have tight := strengthen_and_tight Inv kept consistent
    (fun s l t inv unguarded next => inconsistent_of_unguarded inv unguarded next) start_inv
  exact ⟨fun ls => (tight ls).1, fun ls => (tight ls).2⟩

/-- The second `Listen` has the object before the only member closes it. -/
def lateListen {α : Type u} (args : α) : List (Label α) :=
  [.fetch "web" args, .listen 0 (.ok 6000), .fetch "web" args, .close 0 0, .remove 2,
    .listen 1 (.ok 6000)]

theorem not_consistent_of_dead {kind : Kind} {args : kind.Args}
    (dead : (exec (step kind.refuses kind.differs) start (lateListen args)).map (fun s =>
      (s.ops.keys, (s.heap 0).lns, (s.heap 0).acceptChOpen)) = some (∅, [1], false)) :
    ¬ Along (step kind.refuses kind.differs) (fun _ _ t => Consistent t) start
      (lateListen args) := by
  intro consistent
  obtain ⟨s, run, found⟩ := Option.map_eq_some_iff.1 dead
  simp only [Prod.mk.injEq] at found
  obtain ⟨quiet, listeners, closed⟩ := found
  have last : Consistent s := consistent.last run
  have isOpen := ((last (GoMap.get_eq_none_of_keys quiet)).1 0 (by simp [listeners])).2.2.2
  rw [closed] at isOpen
  cases isOpen

def tcpArgs : Kind.tcp.Args := TCPArgs.mk "" "" 6000

def tcpMuxArgs : Kind.tcpMux.Args := TCPMuxArgs.mk "httpconnect" "" "a.com" "" "" ""

theorem late_listen_joins_dead_group :
    ¬ Along (step Kind.tcp.refuses Kind.tcp.differs) (fun _ _ t => Consistent t) start
        (lateListen tcpArgs) ∧
      ¬ Along (step Kind.tcpMux.refuses Kind.tcpMux.differs) (fun _ _ t => Consistent t) start
        (lateListen tcpMuxArgs) :=
  ⟨not_consistent_of_dead (by decide), not_consistent_of_dead (by decide)⟩

end ChmlFrp.Server.ListenerGroup
