/-
# ChmlFrp.Server.TcpGroup — the ports of the tcp groups

`server/group/tcp.go` once more, now with the port manager.  The first listener of a group
acquires a port and listens on the port that was asked for; for 0 the system chooses that
one.  The last member to close releases the port that was acquired.

The machine is the one of the groups, run beside a session of the port manager that the
proxies without a group use.

* `listen_atomic_iff`: a failed `Listen` changes nothing exactly if it finds a group object
  under the name and stops before a port is taken.
* `listens_on_reported_port`: in the runs in which a group is opened on a given port, or
  the system happens to choose the acquired one, its real port is the one it listens on.
-/
import ChmlFrp.Server.AllowPorts
import ChmlFrp.Server.ListenerGroup

namespace ChmlFrp.Server.TcpGroup

set_option autoImplicit false

open ChmlFrp.Lib
open ChmlFrp.Lib.Transition
open Ports (Manager Probe Grants DrawsZero ReservedAt Took allowSet newManager acquire_spec)
open AllowPorts (isPortAvailable)
open ListenerGroup (TCPArgs Kind Err)

/-- What the runtime and the system answer in one `Listen`. -/
structure Answers where
  now : Nat
  order : List Int
  probe : Probe
  /-- `net.Listen`: the port that the system chooses if it is asked for 0. -/
  netListen : Except String Int

def Answers.available (a : Answers) : Probe := isPortAvailable a.probe

def errorText : Ports.Err → String
  | .portAlreadyUsed => "port already used"
  | .portNotAllowed => "port not allowed"
  | .portUnAvailable => "port unavailable"
  | .noAvailablePort => "no available port"

/-- The first listener: the real port, and the port that the socket is bound to. -/
def openFirst (pm : Manager) (proxyName : String) (port : Int) (a : Answers) :
    Manager × Except String (Int × Int) :=
  match pm.acquire proxyName port a.now a.order a.available with
  | (pm, .error err) => (pm, .error (errorText err))
  | (pm, .ok realPort) =>
      match a.netListen with
      | .error err => (pm, .error err)
      | .ok chosen => (pm, .ok (realPort, if port = 0 then chosen else port))

/-! ## The machine -/

structure State where
  ctl : ListenerGroup.State TCPArgs
  portManager : Manager
  /-- The port that the listener of a group object is bound to. -/
  bound : Nat → Int
  /-- The real port that a `Listen` returned. -/
  reported : Nat → Option Int
  /-- The ports of the proxies without a group. -/
  others : Finset Int

def start (allowPorts : Finset Int) : State :=
  ⟨ListenerGroup.start, newManager allowPorts, fun _ => 0, fun _ => none, ∅⟩

inductive Label where
  | fetch (group : String) (args : TCPArgs)
  | listen (i : Nat) (proxyName : String) (a : Answers)
  | close (g ln now : Nat)
  | remove (i : Nat)
  | accept (g : Nat)
  /-- By a proxy without a group. -/
  | acquire (name : String) (port : Int) (now : Nat) (order : List Int) (answer : Probe)
  | release (port : Int) (now : Nat)
  | clean (now : Nat) (order : List String)

def ctlStep : ListenerGroup.State TCPArgs → ListenerGroup.Label TCPArgs →
    Option (ListenerGroup.State TCPArgs) :=
  ListenerGroup.step Kind.tcp.refuses Kind.tcp.differs

namespace State

def session (s : State) : Ports.Session := ⟨s.portManager, s.others⟩

def withSession (s : State) (session : Ports.Session) : State :=
  { s with portManager := session.pm, others := session.held }

/-- The part of `TCPGroup.Listen` that only the first listener runs. -/
def opens (s : State) (g : Nat) (proxyName : String) (port : Int) (a : Answers) :
    Manager × Except String (Int × Int) :=
  if (s.ctl.heap g).lns = [] then openFirst s.portManager proxyName port a
  else (s.portManager, .ok ((s.ctl.heap g).realPort, s.bound g))

/-- What `TCPGroup.Listen` returns. -/
def result (s : State) (i g : Nat) (group : String) (args : TCPArgs)
    (opened : Except String (Int × Int)) : Except Err Int :=
  ((s.ctl.heap g).listen Kind.tcp.differs i group args (opened.map Prod.fst)).map Prod.snd

/-- The member is the last one, and its close gets past the channel. -/
def Last (s : State) (g ln : Nat) : Prop :=
  (s.ctl.heap g).lns.erase ln = [] ∧ (s.ctl.heap g).acceptChOpen = true

instance (s : State) (g ln : Nat) : Decidable (s.Last g ln) :=
  inferInstanceAs (Decidable (_ ∧ _))

end State

def step (s : State) : Label → Option State
  | .fetch group args => (ctlStep s.ctl (.fetch group args)).map fun ctl => { s with ctl := ctl }
  | .listen i proxyName a =>
      match s.ctl.ops.get i with
      | some (.fetched g group args) =>
          if a.order.Nodup ∧ a.order.toFinset = s.portManager.freePorts then
            let (pm, opened) := s.opens g proxyName args.port a
            (ctlStep s.ctl (.listen i (opened.map Prod.fst))).map fun ctl =>
              { s with
                ctl := ctl
                portManager := pm
                bound := match opened with
                  | .ok (_, port) => Function.update s.bound g port
                  | .error _ => s.bound
                reported := Function.update s.reported i (s.result i g group args opened).toOption }
          else none
      | _ => none
  | .close g ln now =>
      (ctlStep s.ctl (.close g ln)).map fun ctl =>
        { s with
          ctl := ctl
          portManager :=
            if s.Last g ln then s.portManager.release (s.ctl.heap g).realPort now
            else s.portManager }
  | .remove i => (ctlStep s.ctl (.remove i)).map fun ctl => { s with ctl := ctl }
  | .accept g => (ctlStep s.ctl (.accept g)).map fun ctl => { s with ctl := ctl }
  | .acquire name port now order answer =>
      (AllowPorts.call s.session (.acquire name port now order answer)).map s.withSession
  | .release port now =>
      if port ∈ s.others then (AllowPorts.call s.session (.release port now)).map s.withSession
      else none
  | .clean now order => (AllowPorts.call s.session (.clean now order)).map s.withSession

/-! ## A call that fails -/

/-- `TCPGroupCtl.Listen` with nothing in between: the state after it and its result. -/
def ctlListen (s : State) (proxyName group : String) (args : TCPArgs) (a : Answers) :
    Option (State × Except Err Int) :=
  (step s (.fetch group args)).bind fun s' =>
    match s'.ctl.ops.get s.ctl.nextOp with
    | some (.fetched g _ _) =>
        (step s' (.listen s.ctl.nextOp proxyName a)).map fun t =>
          (t, s'.result s.ctl.nextOp g group args (s'.opens g proxyName args.port a).2)
    | _ => none

/-- The used and the free ports and the groups are as they were. -/
structure Restored (s t : State) : Prop where
  used : t.portManager.usedPorts.keys = s.portManager.usedPorts.keys
  free : t.portManager.freePorts = s.portManager.freePorts
  groups : t.ctl.groups = s.ctl.groups

/-- The call leaves nothing that it would have to undo: it joins a group; or it gets the
port and the socket; or it finds a group object without members, and then takes no port
that was not used already. -/
def LeavesNothing (s : State) (proxyName group : String) (args : TCPArgs) (a : Answers) : Prop :=
  (∃ g, s.ctl.groups.get group = some g ∧ (s.ctl.heap g).lns ≠ []) ∨
  (∃ p, Grants s.portManager proxyName args.port a.order a.available p) ∧ a.netListen.isOk ∨
  (s.ctl.groups.get group).isSome ∧
    ((∀ p, ¬ Grants s.portManager proxyName args.port a.order a.available p) ∧
        ¬ DrawsZero s.portManager proxyName args.port a.order a.available ∨
      ∃ p, Grants s.portManager proxyName args.port a.order a.available p ∧
        p ∈ s.portManager.usedPorts.keys ∧ p ∉ s.portManager.freePorts)

section Atomic

variable {s t : State} {i : Nat} {proxyName group : String} {args : TCPArgs} {a : Answers}

/-- The four ways in which the first listener can open: the socket is there, or it is
refused, or no port is granted, port 0 being lost or not. -/
theorem openFirst_spec (pm : Manager) (proxyName : String) (port : Int) (a : Answers) :
    (∃ p chosen, Grants pm proxyName port a.order a.available p ∧ a.netListen = .ok chosen ∧
      (openFirst pm proxyName port a).2 = .ok (p, if port = 0 then chosen else port) ∧
      Took pm (openFirst pm proxyName port a).1 proxyName p) ∨
    (∃ p err, Grants pm proxyName port a.order a.available p ∧ a.netListen = .error err ∧
      (openFirst pm proxyName port a).2 = .error err ∧
      Took pm (openFirst pm proxyName port a).1 proxyName p) ∨
    (∃ err, DrawsZero pm proxyName port a.order a.available ∧
      (openFirst pm proxyName port a).2 = .error err ∧
      Took pm (openFirst pm proxyName port a).1 proxyName 0) ∨
    ((∀ p, ¬ Grants pm proxyName port a.order a.available p) ∧
      ¬ DrawsZero pm proxyName port a.order a.available ∧
      ∃ err ctx, (openFirst pm proxyName port a).2 = .error err ∧
        (openFirst pm proxyName port a).1 = pm.alloc ctx) := by
  unfold openFirst
  rcases call : pm.acquire proxyName port a.now a.order a.available with ⟨pm', answer⟩
  have spec := acquire_spec pm proxyName port a.now a.order a.available
  rw [call] at spec
  rcases spec with
    ⟨p, grants, rfl, took⟩ | ⟨draws, rfl, took⟩ | ⟨none_, undrawn, err, ctx, rfl, kept⟩
  · cases socket : a.netListen with
    | ok chosen => exact .inl ⟨p, chosen, grants, rfl, rfl, took⟩
    | error err => exact .inr (.inl ⟨p, err, grants, rfl, rfl, took⟩)
  · exact .inr (.inr (.inl ⟨_, draws, rfl, took⟩))
  · exact .inr (.inr (.inr ⟨none_, undrawn, _, ctx, rfl, kept⟩))

/-- A `Listen` of the controller gets a group object: the one under the name, or a new one
that it stores there. -/
theorem fetch_spec (s : ListenerGroup.State TCPArgs) (group : String) (args : TCPArgs) :
    ∃ g ctl, ctlStep s (.fetch group args) = some ctl ∧
      ctl.ops.get s.nextOp = some (.fetched g group args) ∧
      (s.groups.get group = some g ∧ ctl.groups = s.groups ∧ ctl.heap g = s.heap g ∨
        s.groups.get group = none ∧ ctl.groups = s.groups.set group g ∧
          ctl.heap g = ListenerGroup.newGroup) := by
  cases found : s.groups.get group with
  | some g =>
      have next : ctlStep s (.fetch group args) = some
          { s with ops := s.ops.set s.nextOp (.fetched g group args), nextOp := s.nextOp + 1 } := by
        simp only [ctlStep, ListenerGroup.step, found]
      refine ⟨g, _, next, ?_, .inl ⟨rfl, rfl, rfl⟩⟩
      rw [GoMap.get_set, if_pos rfl]
  | none =>
      have next : ctlStep s (.fetch group args) = some
          { groups := s.groups.set group s.next
            heap := Function.update s.heap s.next ListenerGroup.newGroup
            next := s.next + 1
            ops := s.ops.set s.nextOp (.fetched s.next group args)
            nextOp := s.nextOp + 1 } := by
        simp only [ctlStep, ListenerGroup.step, found]
      refine ⟨s.next, _, next, ?_, .inr ⟨rfl, rfl, Function.update_self ..⟩⟩
      rw [GoMap.get_set, if_pos rfl]

theorem listen_spec (next : step s (.listen i proxyName a) = some t) :
    ∃ g group args ctl, s.ctl.ops.get i = some (.fetched g group args) ∧
      a.order.toFinset = s.portManager.freePorts ∧
      ctlStep s.ctl (.listen i ((s.opens g proxyName args.port a).2.map Prod.fst)) = some ctl ∧
      t = { s with
        ctl := ctl
        portManager := (s.opens g proxyName args.port a).1
        bound := match (s.opens g proxyName args.port a).2 with
          | .ok (_, port) => Function.update s.bound g port
          | .error _ => s.bound
        reported := Function.update s.reported i
          (s.result i g group args (s.opens g proxyName args.port a).2).toOption } := by
  simp only [step] at next
  split at next
  · rename_i g group args op
    split at next
    · rename_i order
      obtain ⟨ctl, listens, same⟩ := Option.map_eq_some_iff.1 next
      exact ⟨g, group, args, ctl, op, order.2, listens, same.symm⟩
    · cases next
  · cases next

theorem listen_groups {s t : ListenerGroup.State TCPArgs} {first : Except String Int}
    (next : ctlStep s (.listen i first) = some t) : t.groups = s.groups := by
  rcases ListenerGroup.listen_cases next with ⟨g, group, args, -, rfl | ⟨-, -, tg, port, -, rfl⟩⟩
  · rfl
  · rfl

theorem ctlListen_spec {result : Except Err Int}
    (returns : ctlListen s proxyName group args a = some (t, result)) :
    ∃ g ctl, ctlStep s.ctl (.fetch group args) = some ctl ∧
      (s.ctl.groups.get group = some g ∧ t.ctl.groups = s.ctl.groups ∧
          ctl.heap g = s.ctl.heap g ∨
        s.ctl.groups.get group = none ∧ t.ctl.groups = s.ctl.groups.set group g ∧
          ctl.heap g = ListenerGroup.newGroup) ∧
      a.order.toFinset = s.portManager.freePorts ∧
      t.portManager = (State.opens { s with ctl := ctl } g proxyName args.port a).1 ∧
      result = State.result { s with ctl := ctl } s.ctl.nextOp g group args
        (State.opens { s with ctl := ctl } g proxyName args.port a).2 := by
  obtain ⟨g, ctl, fetches, op, found⟩ := fetch_spec s.ctl group args
  have first : step s (.fetch group args) = some { s with ctl := ctl } := by
    simp only [step, fetches, Option.map_some]
  simp only [ctlListen, first, Option.bind_some, op] at returns
  obtain ⟨u, listens, same⟩ := Option.map_eq_some_iff.1 returns
  cases same
  obtain ⟨g', group', args', ctl', op', order, listens', rfl⟩ := listen_spec listens
  cases op'.symm.trans op
  have groups := listen_groups listens'
  refine ⟨g, ctl, fetches, ?_, order, rfl, rfl⟩
  rw [groups]
  exact found

theorem result_of_empty {g : Nat} {opened : Except String (Int × Int)}
    (empty : (s.ctl.heap g).lns = []) :
    s.result i g group args opened =
      (opened.map Prod.fst).mapError fun err => .firstListen err := by
  unfold State.result ListenerGroup.Group.listen
  rw [if_pos empty]
  cases opened with
  | ok ports => rfl
  | error err => rfl

/-- A port that is taken from the free ones is missed. -/
theorem took_restores_iff {pm pm' : Manager} {name : String} {p : Int}
    (took : Took pm pm' name p) :
    pm'.usedPorts.keys = pm.usedPorts.keys ∧ pm'.freePorts = pm.freePorts ↔
      p ∈ pm.usedPorts.keys ∧ p ∉ pm.freePorts := by
  rw [took.used, took.free, GoMap.keys_set, Finset.insert_eq_self, Finset.erase_eq_self]

theorem openFirst_isOk_iff (pm : Manager) (proxyName : String) (port : Int) (a : Answers) :
    (openFirst pm proxyName port a).2.isOk = true ↔
      (∃ p, Grants pm proxyName port a.order a.available p) ∧ a.netListen.isOk = true := by
  rcases openFirst_spec pm proxyName port a with
    ⟨p, chosen, grants, socket, answer, -⟩ | ⟨p, err, -, refused, answer, -⟩ |
      ⟨err, draws, answer, -⟩ | ⟨none_, -, err, ctx, answer, -⟩
  · rw [answer, socket]
    exact iff_of_true rfl ⟨⟨p, grants⟩, rfl⟩
  · rw [answer, refused]
    constructor
    · intro ok
      cases ok
    · rintro ⟨-, ok⟩
      cases ok
  · rw [answer]
    constructor
    · intro ok
      cases ok
    · rintro ⟨⟨p, grants⟩, -⟩
      exact absurd grants (draws.not_grants p)
  · rw [answer]
    constructor
    · intro ok
      cases ok
    · rintro ⟨⟨p, grants⟩, -⟩
      exact absurd grants (none_ p)

/-- A first listener that does not open leaves the ports as they were iff it took none, or
one that is used and not free. -/
theorem openFirst_restores_iff {pm : Manager} {port : Int}
    (order : a.order.toFinset = pm.freePorts)
    (failed : (openFirst pm proxyName port a).2.isOk = false) :
    (openFirst pm proxyName port a).1.usedPorts.keys = pm.usedPorts.keys ∧
        (openFirst pm proxyName port a).1.freePorts = pm.freePorts ↔
      (∀ p, ¬ Grants pm proxyName port a.order a.available p) ∧
          ¬ DrawsZero pm proxyName port a.order a.available ∨
        ∃ p, Grants pm proxyName port a.order a.available p ∧ p ∈ pm.usedPorts.keys ∧
          p ∉ pm.freePorts := by
  rcases openFirst_spec pm proxyName port a with
    ⟨p, chosen, -, -, answer, -⟩ | ⟨p, err, grants, -, -, took⟩ | ⟨err, draws, -, took⟩ |
      ⟨none_, undrawn, err, ctx, -, kept⟩
  · rw [answer] at failed
    cases failed
  · rw [took_restores_iff took]
    constructor
    · intro old
      exact .inr ⟨p, grants, old⟩
    · rintro (⟨none_, -⟩ | ⟨q, grants', old⟩)
      · exact absurd grants (none_ p)
      · rw [grants.unique grants']
        exact old
  · rw [took_restores_iff took]
    constructor
    · rintro ⟨-, gone⟩
      exact absurd (draws.free order) gone
    · rintro (⟨-, undrawn⟩ | ⟨q, grants, -⟩)
      · exact absurd draws undrawn
      · exact absurd grants (draws.not_grants q)
  · rw [kept]
    exact iff_of_true ⟨rfl, rfl⟩ (.inl ⟨none_, undrawn⟩)

/-- The map of the groups changes exactly if the name had no group object. -/
theorem groups_kept_iff {groups groups' : GoMap String Nat} {g : Nat}
    (found : (groups.get group).isSome = true ∧ groups' = groups ∨
      groups.get group = none ∧ groups' = groups.set group g) :
    groups' = groups ↔ (groups.get group).isSome = true := by
  rcases found with ⟨here, same⟩ | ⟨absent, stored⟩
  · exact iff_of_true same here
  · rw [stored, absent]
    constructor
    · intro same
      have here := congrArg (GoMap.get · group) same
      simp [absent] at here
    · intro here
      cases here

/-- **A failed `Listen` restores everything iff** it had nothing to undo. -/
theorem listen_atomic_iff {result : Except Err Int}
    (returns : ctlListen s proxyName group args a = some (t, result)) :
    (result.isOk = false → Restored s t) ↔ LeavesNothing s proxyName group args a := by
  obtain ⟨g, ctl, -, found, order, ports, rfl⟩ := ctlListen_spec returns
  by_cases empty : (ctl.heap g).lns = []
  · -- The group object is new or has lost its members, so the first listener is opened.
    have opened : State.opens { s with ctl := ctl } g proxyName args.port a =
        openFirst s.portManager proxyName args.port a := if_pos empty
    have joins : ¬ ∃ g', s.ctl.groups.get group = some g' ∧ (s.ctl.heap g').lns ≠ [] := by
      rintro ⟨g', here, members⟩
      rcases found with ⟨here', -, same⟩ | ⟨absent, -, -⟩
      · cases here.symm.trans here'
        exact members (same ▸ empty)
      · rw [absent] at here
        cases here
    have groups : t.ctl.groups = s.ctl.groups ↔ (s.ctl.groups.get group).isSome = true := by
      apply groups_kept_iff (g := g)
      rcases found with ⟨here, same, -⟩ | ⟨absent, stored, -⟩
      · exact .inl ⟨by rw [here]; rfl, same⟩
      · exact .inr ⟨absent, stored⟩
    have answer : ∀ opened : Except String (Int × Int),
        ((opened.map Prod.fst).mapError fun err => Err.firstListen err).isOk = opened.isOk := by
      intro opened
      cases opened with
      | ok ports => rfl
      | error err => rfl
    rw [result_of_empty empty, answer, opened]
    rw [opened] at ports
    cases ok : (openFirst s.portManager proxyName args.port a).2.isOk with
    | true =>
        have granted := (openFirst_isOk_iff s.portManager proxyName args.port a).1 ok
        exact iff_of_true (fun failed => by cases failed) (.inr (.inl granted))
    | false =>
        have restores := openFirst_restores_iff order ok
        rw [← ports] at restores
        constructor
        · intro restored
          obtain ⟨used, free, same⟩ := restored rfl
          exact .inr (.inr ⟨groups.1 same, restores.1 ⟨used, free⟩⟩)
        · rintro (join | granted | ⟨here, nothing⟩) _
          · exact absurd join joins
          · rw [(openFirst_isOk_iff s.portManager proxyName args.port a).2 granted] at ok
            cases ok
          · exact ⟨(restores.2 nothing).1, (restores.2 nothing).2, groups.2 here⟩
  · have opened : State.opens { s with ctl := ctl } g proxyName args.port a =
        (s.portManager, .ok ((ctl.heap g).realPort, s.bound g)) := if_neg empty
    rw [opened] at ports
    rcases found with ⟨here, same, heap⟩ | ⟨-, -, new⟩
    · constructor
      · intro _
        exact .inl ⟨g, here, heap ▸ empty⟩
      · intro _ _
        refine ⟨?_, ?_, same⟩
        · rw [ports]
        · rw [ports]
    · rw [new] at empty
      exact absurd rfl empty

end Atomic

/-- The group "web", before and after: port 6000 is allowed. -/
def answers (netListen : Except String Int) : Answers := ⟨0, [6000], fun _ _ => true, netListen⟩

/-- Then no port is free any more. -/
def second : Answers := { answers (.ok 0) with order := [] }

/-- The second member gives another key than the first, and nothing is left of its call. -/
theorem listen_atomic_iff_refused :
    ∃ s t ok err,
      ctlListen (start {6000}) "ssh" "web" ⟨"key", "", 6000⟩ (answers (.ok 0)) = some (s, ok) ∧
      ctlListen s "rdp" "web" ⟨"other", "", 6000⟩ second = some (t, err) ∧
      err.isOk = false ∧ Restored s t := by
  have calls : ((ctlListen (start {6000}) "ssh" "web" ⟨"key", "", 6000⟩ (answers (.ok 0))).bind
      fun r => (ctlListen r.1 "rdp" "web" ⟨"other", "", 6000⟩ second).map
        fun r' => (r'.2.isOk, (r.1.ctl.groups.get "web").map fun g => (r.1.ctl.heap g).lns)) =
      some (false, some [0]) := by decide
  obtain ⟨⟨s, ok⟩, granted, calls⟩ := Option.bind_eq_some_iff.1 calls
  obtain ⟨⟨t, err⟩, refused, found⟩ := Option.map_eq_some_iff.1 calls
  simp only [Prod.mk.injEq, Option.map_eq_some_iff] at found
  obtain ⟨fails, g, here, members⟩ := found
  refine ⟨s, t, ok, err, granted, refused, fails, ?_⟩
  exact (listen_atomic_iff refused).2 (.inl ⟨g, here, by simp [members]⟩) fails

/-- A port that is not allowed leaves the empty group behind, and a socket that is refused
leaves the acquired port as well. -/
theorem failed_listen_leaves_group :
    (∃ t err, ctlListen (start {6000}) "ssh" "web" ⟨"", "", 7000⟩ (answers (.ok 0)) =
        some (t, .error err) ∧ ¬ Restored (start {6000}) t) ∧
      ∃ t err, ctlListen (start {6000}) "ssh" "web" ⟨"", "", 6000⟩ (answers (.error "in use")) =
          some (t, .error err) ∧
        t.portManager.usedPorts.keys ≠ (start {6000}).portManager.usedPorts.keys := by
  have refused : (ctlListen (start {6000}) "ssh" "web" ⟨"", "", 7000⟩ (answers (.ok 0))).map
      (fun r => (r.2.isOk, r.1.ctl.groups.keys)) = some (false, {"web"}) := by decide
  have unbound : (ctlListen (start {6000}) "ssh" "web" ⟨"", "", 6000⟩
      (answers (.error "in use"))).map
      (fun r => (r.2.isOk, r.1.portManager.usedPorts.keys)) = some (false, {6000}) := by decide
  constructor
  · obtain ⟨⟨t, result⟩, call, left⟩ := Option.map_eq_some_iff.1 refused
    simp only [Prod.mk.injEq] at left
    cases result with
    | ok port => cases left.1
    | error err =>
        refine ⟨t, err, call, fun restored => ?_⟩
        rw [restored.groups] at left
        exact absurd left.2 (by decide)
  · obtain ⟨⟨t, result⟩, call, left⟩ := Option.map_eq_some_iff.1 unbound
    simp only [Prod.mk.injEq] at left
    cases result with
    | ok port => cases left.1
    | error err =>
        refine ⟨t, err, call, ?_⟩
        rw [left.2]
        decide

/-! ## The real port of a group -/

namespace State

def Live (s : State) (g : Nat) : Prop := (s.ctl.heap g).lns ≠ []

def realPort (s : State) (g : Nat) : Int := (s.ctl.heap g).realPort

/-- A group with members holds its real port, and a proxy without a group its own. -/
def Held (s : State) (p : Int) : Prop := p ∈ s.others ∨ ∃ g, s.Live g ∧ s.realPort g = p

end State

/-- A `Listen` that succeeds leaves a member of a group with that real port; every member of
a group was told its real port, which is allowed and in use and the one it listens on; and
the real port of a group that loses its last member is free. -/
structure Truthful (allow : Finset Int) (s : State) (l : Label) (t : State) : Prop where
  listened : ∀ i proxyName a p, l = .listen i proxyName a → t.reported i = some p →
    ∃ g, i ∈ (t.ctl.heap g).lns ∧ t.realPort g = p
  bound : ∀ g, t.Live g → t.bound g = t.realPort g
  used : ∀ g, t.Live g → t.realPort g ∈ allow ∧ t.realPort g ∈ t.portManager.usedPorts.keys
  same : ∀ g ln, ln ∈ (t.ctl.heap g).lns → t.reported ln = some (t.realPort g)
  closed : ∀ g, s.Live g → ¬ t.Live g → s.realPort g ∈ t.portManager.freePorts ∧
    s.realPort g ∉ t.portManager.usedPorts.keys

/-- The first listener of a group is on a group object whose channel is open, and for port
0 the system chooses the acquired port; no port is granted that somebody holds. -/
def Guard (s : State) : Label → Prop
  | .listen i proxyName a => ∀ g group args p chosen,
      s.ctl.ops.get i = some (.fetched g group args) → (s.ctl.heap g).lns = [] →
      Grants s.portManager proxyName args.port a.order a.available p →
      a.netListen = .ok chosen →
        (s.ctl.heap g).acceptChOpen = true ∧ (args.port = 0 → chosen = p) ∧ ¬ s.Held p
  | .acquire name port _ order answer => ∀ p,
      Grants s.portManager name port order (isPortAvailable answer) p → ¬ s.Held p
  | _ => True

structure Inv (allow : Finset Int) (s : State) : Prop where
  ctl : ListenerGroup.Inv s.ctl
  ports : Ports.Inv allow s.session
  bound : ∀ g, s.Live g → s.bound g = s.realPort g
  used : ∀ g, s.Live g → s.realPort g ∈ s.portManager.usedPorts.keys ∧ s.realPort g ∉ s.others
  apart : ∀ g g', s.Live g → s.Live g' → s.realPort g = s.realPort g' → g = g'
  same : ∀ g ln, ln ∈ (s.ctl.heap g).lns → s.reported ln = some (s.realPort g)
  /-- The `Listen` of a member is through. -/
  done : ∀ g ln, ln ∈ (s.ctl.heap g).lns → ln < s.ctl.nextOp ∧ s.ctl.ops.get ln = none

theorem start_inv (allowPorts : Finset Int) : Inv (allowSet allowPorts) (start allowPorts) where
  ctl := ListenerGroup.start_inv
  ports := Ports.start_inv allowPorts
  bound g live := absurd rfl live
  used g live := absurd rfl live
  apart g g' live := absurd rfl live
  same g ln mem := by cases mem
  done g ln mem := by cases mem

section Step

variable {allow : Finset Int} {s t : State} {l : Label}

/-- The members and the real ports of the groups with members are as they were. -/
structure SameGroups (s t : ListenerGroup.State TCPArgs) : Prop where
  lns : ∀ g, (t.heap g).lns = (s.heap g).lns
  realPort : ∀ g, (s.heap g).lns ≠ [] → (t.heap g).realPort = (s.heap g).realPort
  done : ∀ ln, ln < s.nextOp → s.ops.get ln = none → ln < t.nextOp ∧ t.ops.get ln = none

theorem SameGroups.refl (s : ListenerGroup.State TCPArgs) : SameGroups s s :=
  ⟨fun _ => rfl, fun _ _ => rfl, fun _ less done => ⟨less, done⟩⟩

/-- A group that loses its last member gives its real port back. -/
def Closes (s t : State) : Prop :=
  ∀ g, s.Live g → ¬ t.Live g →
    s.realPort g ∈ t.portManager.freePorts ∧ s.realPort g ∉ t.portManager.usedPorts.keys

/-- Groups that keep their members keep their real ports, as long as these stay in use. -/
theorem Inv.keep (inv : Inv allow s) (ctl : ListenerGroup.Inv t.ctl)
    (groups : SameGroups s.ctl t.ctl) (ports : Ports.Inv allow t.session)
    (used : ∀ g, s.Live g → s.realPort g ∈ t.portManager.usedPorts.keys ∧
      s.realPort g ∉ t.others)
    (bound : t.bound = s.bound)
    (reported : ∀ g ln, ln ∈ (s.ctl.heap g).lns → t.reported ln = s.reported ln) :
    Inv allow t ∧ Closes s t := by
  have live : ∀ g, t.Live g → s.Live g ∧ t.realPort g = s.realPort g := by
    intro g members
    rw [State.Live, groups.lns g] at members
    exact ⟨members, groups.realPort g members⟩
  have member : ∀ g ln, ln ∈ (t.ctl.heap g).lns → ln ∈ (s.ctl.heap g).lns := by
    intro g ln mem
    rw [groups.lns g] at mem
    exact mem
  refine ⟨⟨ctl, ports, ?_, ?_, ?_, ?_, ?_⟩, ?_⟩
  · intro g members
    obtain ⟨before, same⟩ := live g members
    rw [bound, same]
    exact inv.bound g before
  · intro g members
    obtain ⟨before, same⟩ := live g members
    rw [same]
    exact used g before
  · intro g g' members members' eq
    obtain ⟨before, same⟩ := live g members
    obtain ⟨before', same'⟩ := live g' members'
    exact inv.apart g g' before before' (same.symm.trans (eq.trans same'))
  · intro g ln mem
    have mem' := member g ln mem
    rw [reported g ln mem', (live g (List.ne_nil_of_mem mem)).2]
    exact inv.same g ln mem'
  · intro g ln mem
    obtain ⟨less, none_⟩ := inv.done g ln (member g ln mem)
    exact groups.done ln less none_
  · intro g before gone
    refine absurd ?_ gone
    rw [State.Live, groups.lns g]
    exact before

/-- A step of the groups alone. -/
theorem Inv.keep_ports (inv : Inv allow s) {ctl : ListenerGroup.State TCPArgs}
    (ctl_inv : ListenerGroup.Inv ctl) (groups : SameGroups s.ctl ctl) :
    Inv allow { s with ctl := ctl } ∧ Closes s { s with ctl := ctl } :=
  inv.keep ctl_inv groups inv.ports inv.used rfl fun _ _ _ => rfl

theorem sameGroups_fetch {s t : ListenerGroup.State TCPArgs} {group : String} {args : TCPArgs}
    (inv : ListenerGroup.Inv s) (next : ctlStep s (.fetch group args) = some t) :
    SameGroups s t := by
  have op_done : ∀ {op} ln, ln < s.nextOp → s.ops.get ln = none →
      ln < s.nextOp + 1 ∧ (s.ops.set s.nextOp op).get ln = none := by
    intro op ln less none_
    refine ⟨Nat.lt_succ_of_lt less, ?_⟩
    rw [GoMap.get_set, if_neg (Nat.ne_of_lt less)]
    exact none_
  simp only [ctlStep, ListenerGroup.step] at next
  split at next
  · cases next
    exact ⟨fun _ => rfl, fun _ _ => rfl, op_done⟩
  · cases next
    have fresh : (s.heap s.next).lns = [] := by
      by_contra members
      exact Nat.lt_irrefl _ (inv.live s.next members).1
    refine ⟨?_, ?_, op_done⟩
    · intro g
      by_cases new : g = s.next
      · subst new
        simp only [Function.update_self, fresh]
        rfl
      · simp only [Function.update_of_ne new]
    · intro g members
      have old : g ≠ s.next := by
        rintro rfl
        exact members fresh
      simp only [Function.update_of_ne old]

theorem sameGroups_of_heap {s t : ListenerGroup.State TCPArgs} {g : Nat}
    {tg : ListenerGroup.Group TCPArgs} (heap : t.heap = Function.update s.heap g tg)
    (lns : tg.lns = (s.heap g).lns) (realPort : tg.realPort = (s.heap g).realPort)
    (done : ∀ ln, ln < s.nextOp → s.ops.get ln = none → ln < t.nextOp ∧ t.ops.get ln = none) :
    SameGroups s t := by
  refine ⟨?_, ?_, done⟩
  · intro h
    by_cases same : h = g
    · subst same
      rw [heap, Function.update_self, lns]
    · rw [heap, Function.update_of_ne same]
  · intro h _
    by_cases same : h = g
    · subst same
      rw [heap, Function.update_self, realPort]
    · rw [heap, Function.update_of_ne same]

theorem sameGroups_remove {s t : ListenerGroup.State TCPArgs} {i : Nat}
    (next : ctlStep s (.remove i) = some t) : SameGroups s t := by
  simp only [ctlStep, ListenerGroup.step] at next
  split at next
  · cases next
    refine sameGroups_of_heap rfl rfl rfl ?_
    intro ln less none_
    exact ⟨less, GoMap.get_delete_eq_none none_⟩
  · cases next

theorem sameGroups_accept {s t : ListenerGroup.State TCPArgs} {g : Nat}
    (next : ctlStep s (.accept g) = some t) : SameGroups s t := by
  simp only [ctlStep, ListenerGroup.step] at next
  split at next
  · cases next
    exact sameGroups_of_heap rfl rfl rfl fun ln less none_ => ⟨less, none_⟩
  · cases next

/-- The port manager when the first listener opens, or fails to. -/
theorem opens_ports (inv : Inv allow s) (g : Nat) (proxyName : String) (port : Int) {a : Answers}
    (all : a.order.toFinset = s.portManager.freePorts) :
    Ports.Inv allow ⟨(s.opens g proxyName port a).1, s.others⟩ ∧
      s.portManager.usedPorts.keys ⊆ (s.opens g proxyName port a).1.usedPorts.keys := by
  have took : ∀ pm p, Took s.portManager pm proxyName p → p ∈ allow →
      Ports.Inv allow ⟨pm, s.others⟩ ∧
        s.portManager.usedPorts.keys ⊆ pm.usedPorts.keys := by
    intro pm p took allowed
    refine ⟨Ports.took_inv inv.ports allowed took (Finset.subset_insert _ _), ?_⟩
    rw [took.used, GoMap.keys_set]
    exact Finset.subset_insert _ _
  unfold State.opens
  split
  · rcases openFirst_spec s.portManager proxyName port a with
      ⟨p, -, grants, -, -, taken⟩ | ⟨p, -, grants, -, -, taken⟩ | ⟨-, draws, -, taken⟩ |
        ⟨-, -, -, ctx, -, kept⟩
    · exact took _ p taken (inv.ports.granted all grants)
    · exact took _ p taken (inv.ports.granted all grants)
    · exact took _ 0 taken (inv.ports.free_allowed (draws.free all))
    · rw [kept]
      exact ⟨inv.ports.alloc ctx, Finset.Subset.refl _⟩
  · exact ⟨inv.ports, Finset.Subset.refl _⟩

theorem ctlStep_listen {s t : ListenerGroup.State TCPArgs} {i g : Nat} {group : String}
    {args : TCPArgs} {first : Except String Int}
    (op : s.ops.get i = some (.fetched g group args))
    (next : ctlStep s (.listen i first) = some t) :
    (∃ err, (s.heap g).listen Kind.tcp.differs i group args first = .error err ∧
      t = { s with ops := s.ops.delete i }) ∨
    ∃ tg p, (s.heap g).listen Kind.tcp.differs i group args first = .ok (tg, p) ∧
      t = { s.setGroup g tg with ops := s.ops.delete i } := by
  simp only [ctlStep, ListenerGroup.step, op, Kind.refuses] at next
  split at next
  · cases next
  · split at next
    · rename_i err failed
      cases next
      exact .inl ⟨err, failed, rfl⟩
    · rename_i tg p listens
      cases next
      exact .inr ⟨tg, p, listens, rfl⟩

/-- A `Listen` fails, or opens the first listener of the group, or joins. -/
theorem listen_cases {i : Nat} {proxyName : String} {a : Answers}
    (next : step s (.listen i proxyName a) = some t) :
    ∃ g group args, s.ctl.ops.get i = some (.fetched g group args) ∧
      a.order.toFinset = s.portManager.freePorts ∧
      ctlStep s.ctl (.listen i ((s.opens g proxyName args.port a).2.map Prod.fst)) = some t.ctl ∧
      t.others = s.others ∧ t.portManager = (s.opens g proxyName args.port a).1 ∧
      (((s.Live g ∨ (∀ p, ¬ Grants s.portManager proxyName args.port a.order a.available p) ∨
            a.netListen.isOk = false) ∧
          t.ctl = { s.ctl with ops := s.ctl.ops.delete i } ∧ t.bound = s.bound ∧
          t.reported = Function.update s.reported i none) ∨
        (∃ p chosen, ¬ s.Live g ∧
          Grants s.portManager proxyName args.port a.order a.available p ∧
          a.netListen = .ok chosen ∧ p ∈ t.portManager.usedPorts.keys ∧
          t.ctl = { s.ctl.setGroup g ⟨group, some args, p, (s.ctl.heap g).acceptChOpen, true, true,
            [i], (s.ctl.heap g).locked⟩ with ops := s.ctl.ops.delete i } ∧
          t.bound = Function.update s.bound g (if args.port = 0 then chosen else args.port) ∧
          t.reported = Function.update s.reported i (some p)) ∨
        (s.Live g ∧ t.portManager = s.portManager ∧
          t.ctl = { s.ctl.setGroup g { s.ctl.heap g with lns := (s.ctl.heap g).lns ++ [i] } with
            ops := s.ctl.ops.delete i } ∧
          t.bound = s.bound ∧
          t.reported = Function.update s.reported i (some (s.realPort g)))) := by
  obtain ⟨g, group, args, ctl, op, order, listens, rfl⟩ := listen_spec next
  refine ⟨g, group, args, op, order, listens, rfl, rfl, ?_⟩
  by_cases empty : (s.ctl.heap g).lns = []
  · have opened : s.opens g proxyName args.port a =
        openFirst s.portManager proxyName args.port a := if_pos empty
    simp only [opened] at listens ⊢
    have failing : ∀ err, (openFirst s.portManager proxyName args.port a).2 = .error err →
        ctl = { s.ctl with ops := s.ctl.ops.delete i } := by
      intro err answer
      rcases ctlStep_listen op listens with ⟨-, -, same⟩ | ⟨tg, p, ok, -⟩
      · exact same
      · rw [answer] at ok
        unfold ListenerGroup.Group.listen at ok
        rw [if_pos empty] at ok
        cases ok
    have failed : ∀ err, (openFirst s.portManager proxyName args.port a).2 = .error err →
        ctl = { s.ctl with ops := s.ctl.ops.delete i } ∧
          (match (openFirst s.portManager proxyName args.port a).2 with
            | .ok (_, port) => Function.update s.bound g port
            | .error _ => s.bound) = s.bound ∧
          Function.update s.reported i (s.result i g group args
            (openFirst s.portManager proxyName args.port a).2).toOption =
              Function.update s.reported i none := by
      intro err answer
      refine ⟨failing err answer, ?_, ?_⟩
      · rw [answer]
      · rw [result_of_empty empty, answer]
        rfl
    rcases openFirst_spec s.portManager proxyName args.port a with
      ⟨p, chosen, grants, socket, answer, took⟩ | ⟨p, err, -, refused, answer, -⟩ |
        ⟨err, draws, answer, -⟩ | ⟨none_, -, err, -, answer, -⟩
    · right
      left
      refine ⟨p, chosen, fun live => live empty, grants, socket, ?_, ?_, ?_, ?_⟩
      · rw [took.used, GoMap.keys_set]
        exact Finset.mem_insert_self _ _
      · rcases ctlStep_listen op listens with ⟨err, failed, -⟩ | ⟨tg, q, ok, same⟩
        · rw [answer] at failed
          unfold ListenerGroup.Group.listen at failed
          rw [if_pos empty] at failed
          cases failed
        · rw [answer] at ok
          unfold ListenerGroup.Group.listen at ok
          rw [if_pos empty] at ok
          cases ok
          exact same
      · rw [answer]
      · rw [result_of_empty empty, answer]
        rfl
    · refine .inl ⟨.inr (.inr ?_), failed err answer⟩
      rw [refused]
      rfl
    · exact .inl ⟨.inr (.inl draws.not_grants), failed err answer⟩
    · exact .inl ⟨.inr (.inl none_), failed err answer⟩
  · have opened : s.opens g proxyName args.port a =
        (s.portManager, .ok ((s.ctl.heap g).realPort, s.bound g)) := if_neg empty
    simp only [opened, Function.update_eq_self] at listens ⊢
    rcases ctlStep_listen op listens with ⟨err, failed, same⟩ | ⟨tg, q, ok, same⟩
    · left
      refine ⟨.inl empty, same, trivial, ?_⟩
      rw [State.result, failed]
      rfl
    · right
      right
      unfold ListenerGroup.Group.listen at ok
      rw [if_neg empty] at ok
      split at ok
      · cases ok
      · rename_i agree
        cases ok
        refine ⟨empty, trivial, same, trivial, ?_⟩
        unfold State.result ListenerGroup.Group.listen
        rw [if_neg empty, agree]
        rfl

/-- The caller of a `Listen` is not a member yet. -/
theorem Inv.not_member (inv : Inv allow s) {i g : Nat} {group : String} {args : TCPArgs}
    (op : s.ctl.ops.get i = some (.fetched g group args)) (h : Nat) :
    i ∉ (s.ctl.heap h).lns := by
  intro mem
  rw [(inv.done h i mem).2] at op
  cases op

theorem Inv.reported_others (inv : Inv allow s) {i g : Nat} {group : String} {args : TCPArgs}
    (op : s.ctl.ops.get i = some (.fetched g group args)) (answer : Option Int) (h ln : Nat)
    (mem : ln ∈ (s.ctl.heap h).lns) :
    Function.update s.reported i answer ln = s.reported ln := by
  apply Function.update_of_ne
  rintro rfl
  exact inv.not_member op h mem

/-- A `Listen` on the group object `g` is through: the other groups are as they were, and
their real ports stay in use. -/
structure Listens (allow : Finset Int) (s t : State) (i g : Nat) : Prop where
  ctl : ListenerGroup.Inv t.ctl
  ports : Ports.Inv allow t.session
  used : ∀ h, s.Live h → s.realPort h ∈ t.portManager.usedPorts.keys ∧ s.realPort h ∉ t.others
  fetched : ∃ group args, s.ctl.ops.get i = some (.fetched g group args)
  ops : t.ctl.ops = s.ctl.ops.delete i
  nextOp : t.ctl.nextOp = s.ctl.nextOp
  heap : ∀ h, h ≠ g → t.ctl.heap h = s.ctl.heap h

section Listens

variable {i g : Nat}

theorem Listens.realPort (listens : Listens allow s t i g) {h : Nat} (other : h ≠ g) :
    t.realPort h = s.realPort h :=
  congrArg ListenerGroup.Group.realPort (listens.heap h other)

theorem Listens.live_iff (listens : Listens allow s t i g) {h : Nat} (other : h ≠ g) :
    t.Live h ↔ s.Live h := by
  unfold State.Live
  rw [listens.heap h other]

theorem Listens.done (listens : Listens allow s t i g) (inv : Inv allow s)
    (members : ∀ ln ∈ (t.ctl.heap g).lns, ln = i ∨ ln ∈ (s.ctl.heap g).lns) (h ln : Nat)
    (mem : ln ∈ (t.ctl.heap h).lns) : ln < t.ctl.nextOp ∧ t.ctl.ops.get ln = none := by
  obtain ⟨group, args, op⟩ := listens.fetched
  have old : ln ∈ (s.ctl.heap h).lns → ln < s.ctl.nextOp ∧ (s.ctl.ops.delete i).get ln = none :=
    fun mem' => ⟨(inv.done h ln mem').1, GoMap.get_delete_eq_none (inv.done h ln mem').2⟩
  rw [listens.ops, listens.nextOp]
  by_cases here : h = g
  · subst here
    rcases members ln mem with rfl | mem'
    · constructor
      · by_contra large
        rw [inv.ctl.ops ln (Nat.not_lt.1 large)] at op
        cases op
      · rw [GoMap.get_delete, if_pos rfl]
    · exact old mem'
  · rw [listens.heap h here] at mem
    exact old mem

/-- Every member was told the real port, if the new one was. -/
theorem Listens.same (listens : Listens allow s t i g) (inv : Inv allow s)
    (members : ∀ ln ∈ (t.ctl.heap g).lns, ln = i ∨ ln ∈ (s.ctl.heap g).lns)
    (reported : t.reported = Function.update s.reported i (some (t.realPort g)))
    (kept : s.Live g → t.realPort g = s.realPort g) (h ln : Nat)
    (mem : ln ∈ (t.ctl.heap h).lns) : t.reported ln = some (t.realPort h) := by
  obtain ⟨group, args, op⟩ := listens.fetched
  rw [reported]
  by_cases here : h = g
  · subst here
    rcases members ln mem with rfl | mem'
    · rw [Function.update_self]
    · rw [inv.reported_others op _ h ln mem', inv.same h ln mem',
        kept (List.ne_nil_of_mem mem')]
  · rw [listens.heap h here] at mem
    rw [inv.reported_others op _ h ln mem, inv.same h ln mem, listens.realPort here]

/-- The group object has its first listener, and no other group has its real port. -/
theorem Inv.opened (inv : Inv allow s) (listens : Listens allow s t i g)
    (empty : ¬ s.Live g) (lns : (t.ctl.heap g).lns = [i])
    (bound : t.bound = Function.update s.bound g (t.realPort g))
    (reported : t.reported = Function.update s.reported i (some (t.realPort g)))
    (taken : t.realPort g ∈ t.portManager.usedPorts.keys) (others : t.others = s.others)
    (unheld : ¬ s.Held (t.realPort g)) : Inv allow t ∧ Closes s t := by
  have members : ∀ ln ∈ (t.ctl.heap g).lns, ln = i ∨ ln ∈ (s.ctl.heap g).lns := by
    intro ln mem
    rw [lns, List.mem_singleton] at mem
    exact .inl mem
  have fresh : ∀ h, h ≠ g → t.Live h → t.realPort h ≠ t.realPort g := by
    intro h other live eq
    rw [listens.realPort other] at eq
    exact unheld (.inr ⟨h, (listens.live_iff other).1 live, eq⟩)
  refine ⟨⟨listens.ctl, listens.ports, ?_, ?_, ?_, ?_, listens.done inv members⟩, ?_⟩
  · intro h live
    rw [bound]
    by_cases here : h = g
    · rw [here, Function.update_self]
    · rw [Function.update_of_ne here, listens.realPort here]
      exact inv.bound h ((listens.live_iff here).1 live)
  · intro h live
    by_cases here : h = g
    · rw [here, others]
      exact ⟨taken, fun held => unheld (.inl held)⟩
    · rw [listens.realPort here]
      exact listens.used h ((listens.live_iff here).1 live)
  · intro h h' live live' eq
    by_cases here : h = g
    · by_cases there : h' = g
      · rw [here, there]
      · rw [here] at eq
        exact absurd eq.symm (fresh h' there live')
    · by_cases there : h' = g
      · rw [there] at eq
        exact absurd eq (fresh h here live)
      · rw [listens.realPort here, listens.realPort there] at eq
        exact inv.apart h h' ((listens.live_iff here).1 live) ((listens.live_iff there).1 live') eq
  · exact listens.same inv members reported fun live => absurd live empty
  · intro h live gone
    have other : h ≠ g := by
      rintro rfl
      exact empty live
    exact absurd ((listens.live_iff other).2 live) gone

/-- The group has one more member, and keeps its real port. -/
theorem Inv.joined (inv : Inv allow s) (listens : Listens allow s t i g) (live : s.Live g)
    (lns : (t.ctl.heap g).lns = (s.ctl.heap g).lns ++ [i])
    (port : t.realPort g = s.realPort g) (bound : t.bound = s.bound)
    (reported : t.reported = Function.update s.reported i (some (t.realPort g))) :
    Inv allow t ∧ Closes s t := by
  have members : ∀ ln ∈ (t.ctl.heap g).lns, ln = i ∨ ln ∈ (s.ctl.heap g).lns := by
    intro ln mem
    rw [lns, List.mem_append, List.mem_singleton] at mem
    exact mem.symm
  have ports : ∀ h, t.realPort h = s.realPort h := by
    intro h
    by_cases here : h = g
    · rw [here, port]
    · exact listens.realPort here
  have live_iff : ∀ h, t.Live h ↔ s.Live h := by
    intro h
    by_cases here : h = g
    · subst here
      have some_ : t.Live h := by
        unfold State.Live
        rw [lns]
        exact List.append_ne_nil_of_right_ne_nil _ (List.cons_ne_nil _ _)
      exact iff_of_true some_ live
    · exact listens.live_iff here
  refine ⟨⟨listens.ctl, listens.ports, ?_, ?_, ?_, ?_, listens.done inv members⟩, ?_⟩
  · intro h live'
    rw [bound, ports]
    exact inv.bound h ((live_iff h).1 live')
  · intro h live'
    rw [ports]
    exact listens.used h ((live_iff h).1 live')
  · intro h h' live' live'' eq
    rw [ports, ports] at eq
    exact inv.apart h h' ((live_iff h).1 live') ((live_iff h').1 live'') eq
  · exact listens.same inv members reported fun _ => port
  · intro h live' gone
    exact absurd ((live_iff h).2 live') gone

end Listens

theorem listen_inv {i : Nat} {proxyName : String} {a : Answers} (inv : Inv allow s)
    (guard : Guard s (.listen i proxyName a)) (next : step s (.listen i proxyName a) = some t) :
    (Inv allow t ∧ Closes s t) ∧
      ∀ p, t.reported i = some p → ∃ g, i ∈ (t.ctl.heap g).lns ∧ t.realPort g = p := by
  obtain ⟨g, group, args, op, order, listens, others, manager, ends⟩ := listen_cases next
  have opens := opens_ports inv g proxyName args.port order
  rw [← manager] at opens
  have used : ∀ h, s.Live h → s.realPort h ∈ t.portManager.usedPorts.keys ∧
      s.realPort h ∉ t.others := by
    intro h live
    rw [others]
    exact ⟨opens.2 (inv.used h live).1, (inv.used h live).2⟩
  have ports : Ports.Inv allow t.session := by
    rw [State.session, others]
    exact opens.1
  have ctl_guard : ListenerGroup.Guard Kind.tcp.refuses s.ctl
      (.listen i ((s.opens g proxyName args.port a).2.map Prod.fst)) := by
    intro g' group' args' op' _ empty ok
    cases op.symm.trans op'
    rw [State.opens, if_pos empty] at ok
    rcases openFirst_spec s.portManager proxyName args.port a with
      ⟨p, chosen, grants, socket, -⟩ | ⟨-, err, -, -, answer, -⟩ | ⟨err, -, answer, -⟩ |
        ⟨-, -, err, -, answer, -⟩
    · exact (guard g group args p chosen op empty grants socket).1
    all_goals
      rw [answer] at ok
      cases ok
  have ctl : ListenerGroup.Inv t.ctl := ListenerGroup.listen_inv inv.ctl ctl_guard listens
  have through : ∀ tg, t.ctl = { s.ctl.setGroup g tg with ops := s.ctl.ops.delete i } →
      Listens allow s t i g := by
    intro tg same
    refine ⟨ctl, ports, used, ⟨group, args, op⟩, ?_, ?_, ?_⟩
    · rw [same]
    · rw [same]
      rfl
    · intro h other
      simp only [same, ListenerGroup.State.setGroup, Function.update_of_ne other]
  rcases ends with
    ⟨-, same, bound, reported⟩ |
      ⟨p, chosen, empty, grants, socket, taken, same, bound, reported⟩ |
      ⟨live, -, same, bound, reported⟩
  · refine ⟨inv.keep ctl ?_ ports used bound ?_, ?_⟩
    · rw [same]
      exact ⟨fun _ => rfl, fun _ _ => rfl,
        fun ln less none_ => ⟨less, GoMap.get_delete_eq_none none_⟩⟩
    · rw [reported]
      exact inv.reported_others op none
    · intro p some_
      rw [reported, Function.update_self] at some_
      cases some_
  · obtain ⟨-, chooses, unheld⟩ := guard g group args p chosen op (not_not.1 empty) grants socket
    have lns : (t.ctl.heap g).lns = [i] := by
      simp only [same, ListenerGroup.State.setGroup, Function.update_self]
    have port : t.realPort g = p := by
      simp only [State.realPort, same, ListenerGroup.State.setGroup, Function.update_self]
    have listens_on : (if args.port = 0 then chosen else args.port) = p := by
      split
      · rename_i any
        exact chooses any
      · rename_i given
        exact ((AllowPorts.Grants.port_range grants).2.2 given).symm
    rw [listens_on] at bound
    refine ⟨inv.opened (through _ same) empty lns ?_ ?_ ?_ others ?_, ?_⟩
    · rw [port, bound]
    · rw [port, reported]
    · rw [port]
      exact taken
    · rw [port]
      exact unheld
    · intro q some_
      rw [reported, Function.update_self] at some_
      cases some_
      exact ⟨g, by rw [lns]; exact List.mem_singleton_self i, port⟩
  · have lns : (t.ctl.heap g).lns = (s.ctl.heap g).lns ++ [i] := by
      simp only [same, ListenerGroup.State.setGroup, Function.update_self]
    have port : t.realPort g = s.realPort g := by
      simp only [State.realPort, same, ListenerGroup.State.setGroup, Function.update_self]
    refine ⟨inv.joined (through _ same) live lns port bound ?_, ?_⟩
    · rw [port, reported]
    · intro q some_
      rw [reported, Function.update_self] at some_
      cases some_
      refine ⟨g, ?_, port⟩
      rw [lns]
      exact List.mem_append_right _ (List.mem_singleton_self i)

/-- A close takes the member away; the last one also closes the group object. -/
theorem close_cases {s t : ListenerGroup.State TCPArgs} {g ln : Nat}
    (next : ctlStep s (.close g ln) = some t) :
    ln ∈ (s.heap g).lns ∧ (∀ h, h ≠ g → t.heap h = s.heap h) ∧
      (t.heap g).lns = (s.heap g).lns.erase ln ∧ (t.heap g).realPort = (s.heap g).realPort ∧
      ∀ i, i < s.nextOp → s.ops.get i = none → i < t.nextOp ∧ t.ops.get i = none := by
  simp only [ctlStep, ListenerGroup.step] at next
  split at next
  · rename_i closes
    have lns : ((s.heap g).closeListener ln).lns = (s.heap g).lns.erase ln := by
      simp only [ListenerGroup.Group.closeListener]
      split
      · rename_i last
        exact last.1.symm
      · rfl
    have port : ((s.heap g).closeListener ln).realPort = (s.heap g).realPort := by
      simp only [ListenerGroup.Group.closeListener]
      split
      · rfl
      · rfl
    refine ⟨closes.1, ?_⟩
    split at next
    · cases next
      refine ⟨fun h other => Function.update_of_ne other .., ?_, ?_, ?_⟩
      · simp only [ListenerGroup.State.setGroup, Function.update_self, lns]
      · simp only [ListenerGroup.State.setGroup, Function.update_self, port]
      · intro i less none_
        refine ⟨Nat.lt_succ_of_lt less, ?_⟩
        rw [GoMap.get_set, if_neg (Nat.ne_of_lt less)]
        exact none_
    · cases next
      refine ⟨fun h other => Function.update_of_ne other .., ?_, ?_, ?_⟩
      · simp only [ListenerGroup.State.setGroup, Function.update_self, lns]
      · simp only [ListenerGroup.State.setGroup, Function.update_self, port]
      · exact fun i less none_ => ⟨less, none_⟩
  · cases next

theorem close_inv {g ln now : Nat} (inv : Inv allow s)
    (next : step s (.close g ln now) = some t) : Inv allow t ∧ Closes s t := by
  simp only [step] at next
  obtain ⟨ctl, closes, rfl⟩ := Option.map_eq_some_iff.1 next
  have ctl_inv : ListenerGroup.Inv ctl := ListenerGroup.close_inv inv.ctl closes
  obtain ⟨member, off_g, lns, port, done⟩ := close_cases closes
  have live_g : s.Live g := List.ne_nil_of_mem member
  have isOpen : (s.ctl.heap g).acceptChOpen = true := (inv.ctl.live g live_g).2.1.2.2
  have ports_same : ∀ h, (ctl.heap h).realPort = s.realPort h := by
    intro h
    by_cases here : h = g
    · rw [here, port]
      rfl
    · rw [off_g h here]
      rfl
  have members : ∀ h i, i ∈ (ctl.heap h).lns → i ∈ (s.ctl.heap h).lns := by
    intro h i mem
    by_cases here : h = g
    · rw [here, lns] at mem
      rw [here]
      exact List.mem_of_mem_erase mem
    · rw [off_g h here] at mem
      exact mem
  have live : ∀ h, (ctl.heap h).lns ≠ [] → s.Live h := by
    intro h some_
    obtain ⟨i, mem⟩ := List.exists_mem_of_ne_nil _ some_
    exact List.ne_nil_of_mem (members h i mem)
  -- What stays in use, whether the real port is released or not.
  have keeps : ∀ pm : Manager, Ports.Inv allow ⟨pm, s.others⟩ →
      (∀ h, (ctl.heap h).lns ≠ [] → s.realPort h ∈ pm.usedPorts.keys) →
      Inv allow { s with ctl := ctl, portManager := pm } := by
    intro pm ports used
    refine ⟨ctl_inv, ports, ?_, ?_, ?_, ?_, ?_⟩
    · intro h some_
      exact (inv.bound h (live h some_)).trans (ports_same h).symm
    · intro h some_
      show (ctl.heap h).realPort ∈ _ ∧ (ctl.heap h).realPort ∉ s.others
      rw [ports_same h]
      exact ⟨used h some_, (inv.used h (live h some_)).2⟩
    · intro h h' some_ some' eq
      apply inv.apart h h' (live h some_) (live h' some')
      rw [← ports_same h, ← ports_same h']
      exact eq
    · intro h i mem
      rw [inv.same h i (members h i mem)]
      exact congrArg some (ports_same h).symm
    · intro h i mem
      obtain ⟨less, none_⟩ := inv.done h i (members h i mem)
      exact done i less none_
  by_cases last : (s.ctl.heap g).lns.erase ln = []
  · have released : s.Last g ln := ⟨last, isOpen⟩
    obtain ⟨used_g, unheld⟩ := inv.used g live_g
    obtain ⟨free, used⟩ := Ports.release_spec used_g now
    simp only [if_pos released]
    refine ⟨keeps _ ?_ ?_, ?_⟩
    · have ports := inv.ports.release (s.realPort g) now
      rw [show s.session.held.erase (s.realPort g) = s.others from
        Finset.erase_eq_of_notMem unheld] at ports
      exact ports
    · intro h some_
      have other : h ≠ g := by
        rintro rfl
        exact some_ (lns.trans last)
      show s.realPort h ∈ (s.portManager.release (s.realPort g) now).usedPorts.keys
      rw [used]
      refine Finset.mem_erase.2 ⟨?_, (inv.used h (live h some_)).1⟩
      intro eq
      exact other (inv.apart h g (live h some_) live_g eq)
    · intro h before gone
      have here : h = g := by
        by_contra other
        refine gone ?_
        show (ctl.heap h).lns ≠ []
        rw [off_g h other]
        exact before
      rw [here]
      show s.realPort g ∈ (s.portManager.release (s.realPort g) now).freePorts ∧
        s.realPort g ∉ (s.portManager.release (s.realPort g) now).usedPorts.keys
      rw [free, used]
      exact ⟨Finset.mem_insert_self _ _, Finset.notMem_erase _ _⟩
  · have kept : ¬ s.Last g ln := fun released => last released.1
    simp only [if_neg kept]
    refine ⟨keeps _ inv.ports fun h some_ => (inv.used h (live h some_)).1, ?_⟩
    intro h before gone
    refine absurd ?_ gone
    show (ctl.heap h).lns ≠ []
    by_cases here : h = g
    · rw [here, lns]
      exact last
    · rw [off_g h here]
      exact before

theorem acquire_inv {name : String} {port : Int} {now : Nat} {order : List Int} {answer : Probe}
    (inv : Inv allow s) (guard : Guard s (.acquire name port now order answer))
    (next : step s (.acquire name port now order answer) = some t) :
    Inv allow t ∧ Closes s t := by
  simp only [step] at next
  obtain ⟨session, call, rfl⟩ := Option.map_eq_some_iff.1 next
  have ports : Ports.Inv allow session := AllowPorts.call_inv inv.ports call
  simp only [AllowPorts.call, AllowPorts.asked, Ports.step, Option.ite_none_right_eq_some] at call
  obtain ⟨-, ⟨⟩⟩ := call
  refine inv.keep inv.ctl (SameGroups.refl _) ports ?_ rfl fun _ _ _ => rfl
  intro g live
  obtain ⟨used, unheld⟩ := inv.used g live
  simp only [State.withSession, State.session, Ports.returned]
  rcases acquire_spec s.portManager name port now order (isPortAvailable answer) with
    ⟨p, grants, result, took⟩ | ⟨-, result, took⟩ | ⟨-, -, err, ctx, result, kept⟩
  · rw [result, took.used, GoMap.keys_set]
    refine ⟨Finset.mem_insert_of_mem used, ?_⟩
    simp only [Except.toOption, Finset.mem_insert, not_or]
    refine ⟨?_, unheld⟩
    intro same
    exact guard p grants (.inr ⟨g, live, same⟩)
  · rw [result, took.used, GoMap.keys_set]
    exact ⟨Finset.mem_insert_of_mem used, unheld⟩
  · rw [result, kept]
    exact ⟨used, unheld⟩

theorem release_inv {port : Int} {now : Nat} (inv : Inv allow s)
    (next : step s (.release port now) = some t) : Inv allow t ∧ Closes s t := by
  simp only [step, Option.ite_none_right_eq_some] at next
  obtain ⟨held, next⟩ := next
  cases next
  have ports := inv.ports.release port now
  refine inv.keep inv.ctl (SameGroups.refl _) ports ?_ rfl fun _ _ _ => rfl
  intro g live
  obtain ⟨used, unheld⟩ := inv.used g live
  have other : s.realPort g ≠ port := by
    intro same
    exact unheld (same ▸ held)
  refine ⟨?_, fun mem => unheld (Finset.mem_of_mem_erase mem)⟩
  have released : (s.portManager.release port now).usedPorts.keys =
      s.portManager.usedPorts.keys.erase port := (Ports.release_spec (inv.ports.held held) now).2
  show s.realPort g ∈ (s.portManager.release port now).usedPorts.keys
  rw [released]
  exact Finset.mem_erase.2 ⟨other, used⟩

theorem clean_inv {now : Nat} {order : List String} (inv : Inv allow s)
    (next : step s (.clean now order) = some t) : Inv allow t ∧ Closes s t := by
  simp only [step] at next
  obtain ⟨session, call, rfl⟩ := Option.map_eq_some_iff.1 next
  have ports : Ports.Inv allow session := AllowPorts.call_inv inv.ports call
  simp only [AllowPorts.call, AllowPorts.asked, Ports.step, Option.ite_none_right_eq_some] at call
  obtain ⟨-, ⟨⟩⟩ := call
  refine inv.keep inv.ctl (SameGroups.refl _) ports ?_ rfl fun _ _ _ => rfl
  intro g live
  simp only [State.withSession, State.session,
    (Ports.cleanReservedPorts_spec now s.portManager order).1]
  exact inv.used g live

/-- What a step under the guard keeps. -/
theorem step_inv (inv : Inv allow s) (guard : Guard s l) (next : step s l = some t) :
    Inv allow t ∧ Closes s t := by
  cases l with
  | fetch group args =>
      simp only [step] at next
      obtain ⟨ctl, fetches, rfl⟩ := Option.map_eq_some_iff.1 next
      exact inv.keep_ports (ListenerGroup.fetch_inv inv.ctl fetches)
        (sameGroups_fetch inv.ctl fetches)
  | listen i proxyName a => exact (listen_inv inv guard next).1
  | close g ln now => exact close_inv inv next
  | remove i =>
      simp only [step] at next
      obtain ⟨ctl, removes, rfl⟩ := Option.map_eq_some_iff.1 next
      exact inv.keep_ports (ListenerGroup.remove_inv inv.ctl removes) (sameGroups_remove removes)
  | accept g =>
      simp only [step] at next
      obtain ⟨ctl, accepts, rfl⟩ := Option.map_eq_some_iff.1 next
      exact inv.keep_ports (ListenerGroup.accept_inv inv.ctl accepts) (sameGroups_accept accepts)
  | acquire name port now order answer => exact acquire_inv inv guard next
  | release port now => exact release_inv inv next
  | clean now order => exact clean_inv inv next

theorem step_truthful (inv : Inv allow s) (guard : Guard s l) (next : step s l = some t) :
    Truthful allow s l t := by
  obtain ⟨inv', closes⟩ := step_inv inv guard next
  refine ⟨?_, inv'.bound, ?_, inv'.same, closes⟩
  · rintro i proxyName a p rfl some_
    exact (listen_inv inv guard next).2 p some_
  · intro g live
    have used := (inv'.used g live).1
    exact ⟨inv'.ports.split ▸ Finset.mem_union_right _ used, used⟩

end Step

/-- **A group listens on the port it reports**, if its first listener is on an open group
object and the system chooses the acquired port when it is asked for 0, and if no port is
granted that is held.  A first listener that the system binds elsewhere always breaks it. -/
theorem listens_on_reported_port (allowPorts : Finset Int) (ls : List Label) :
    (Along step (fun s l _ => Guard s l) (start allowPorts) ls →
      Along step (Truthful (allowSet allowPorts)) (start allowPorts) ls) ∧
    ∀ s i proxyName a t g group args p chosen,
      s.ctl.ops.get i = some (.fetched g group args) → (s.ctl.heap g).lns = [] →
      args.port = 0 → Grants s.portManager proxyName 0 a.order a.available p →
      a.netListen = .ok chosen → chosen ≠ p → step s (.listen i proxyName a) = some t →
        ¬ Truthful (allowSet allowPorts) s (.listen i proxyName a) t := by
  constructor
  · have kept : ∀ s l t, Inv (allowSet allowPorts) s → Guard s l → step s l = some t →
        Inv (allowSet allowPorts) t := fun s l t inv guard next => (step_inv inv guard next).1
    have truthful : ∀ s l t, Inv (allowSet allowPorts) s → Guard s l → step s l = some t →
        Truthful (allowSet allowPorts) s l t :=
      fun s l t inv guard next => step_truthful inv guard next
    exact fun along => along.strengthen (Inv (allowSet allowPorts)) kept truthful
      (start_inv allowPorts)
  · intro s i proxyName a t g group args p chosen op empty any grants socket elsewhere next truthful
    obtain ⟨g', group', args', op', -, -, -, -, ends⟩ := listen_cases next
    cases op.symm.trans op'
    rw [any] at ends
    rcases ends with
      ⟨live | none_ | refused, -⟩ | ⟨q, chosen', -, grants', socket', -, same, bound, -⟩ | ⟨live, -⟩
    · exact live empty
    · exact none_ p grants
    · rw [socket] at refused
      cases refused
    · cases socket.symm.trans socket'
      have live : t.Live g := by
        simp only [State.Live, same, ListenerGroup.State.setGroup, Function.update_self, ne_eq,
          List.cons_ne_nil, not_false_eq_true]
      have real : t.realPort g = q := by
        simp only [State.realPort, same, ListenerGroup.State.setGroup, Function.update_self]
      have eq := truthful.bound g live
      rw [bound, Function.update_self, if_pos rfl, real] at eq
      exact elsewhere (eq.trans (grants'.unique grants))
    · exact live empty

/-- The group "web" for any port: the system chooses one itself. -/
def anyPort : List Label :=
  [.fetch "web" ⟨"", "", 0⟩, .listen 0 "ssh_random" (answers (.ok 40000))]

theorem random_group_listens_elsewhere :
    (exec step (start {6000}) anyPort).map (fun s => (s.reported 0, s.bound 0)) =
        some (some 6000, 40000) ∧
      ¬ Along step (Truthful (allowSet {6000})) (start {6000}) anyPort := by
  have run : (exec step (start {6000}) anyPort).map (fun s =>
      (s.reported 0, s.bound 0, (s.ctl.heap 0).lns, s.realPort 0)) =
        some (some 6000, 40000, [0], 6000) := by decide
  obtain ⟨s, last, found⟩ := Option.map_eq_some_iff.1 run
  simp only [Prod.mk.injEq] at found
  obtain ⟨reported, bound, members, real⟩ := found
  constructor
  · rw [last, Option.map_some, reported, bound]
  · intro truthful
    obtain ⟨s', fetches, rest⟩ := exec_cons_eq_some.1 last
    obtain ⟨t, listens, done⟩ := exec_cons_eq_some.1 rest
    cases done
    have listening := ((truthful s' fetches).2 s listens).1
    have same := listening.bound 0 (by rw [State.Live, members]; exact List.cons_ne_nil _ _)
    rw [bound, real] at same
    cases same

end ChmlFrp.Server.TcpGroup
