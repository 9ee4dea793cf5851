/-
# ChmlFrp.Server.UdpPorts — the ports of the udp proxies

`UDPProxy.Run` and `UDPProxy.Close` of `server/proxy/udp.go`, for what they do to the
port manager.  A proxy is closed by its control and by the goroutine behind
`ForwardUserConn`, and every call of `Close` ends with a `Release`, also the second one.

The owner of a port is the proxy to which `Acquire` returned it last, until the port is
released.  A session of the port manager is a projection of the state, so what holds of
the sessions carries over.

* `released_by_owner`: in the runs in which nobody takes a port between the two closes of
  a proxy, and no reserved port is handed out twice, only the owner releases a port.
* `second_close_frees_port_of_other`: a run of two proxies in which another one does.
-/
import ChmlFrp.Server.Ports

namespace ChmlFrp.Server.UdpPorts

set_option autoImplicit false

open ChmlFrp.Lib
open ChmlFrp.Lib.Transition
open Ports (Manager Probe allowSet newManager ReservationHeld)

inductive Phase where
  | new
  /-- `Run` has its port and does not listen yet. -/
  | acquired
  | running
  | failed
  deriving DecidableEq, Repr

structure UDPProxy where
  phase : Phase
  realBindPort : Int
  isClosed : Bool
  /-- `ForwardUserConn` has not returned. -/
  forwarding : Bool
  deriving DecidableEq, Repr

/-- `NewUDPProxy` -/
def newUDPProxy : UDPProxy := ⟨.new, 0, false, false⟩

namespace UDPProxy

/-- What `Run` makes of the answer of `Acquire`. -/
def acquire (pxy : UDPProxy) : Except Ports.Err Int → UDPProxy
  | .ok realPort => { pxy with phase := .acquired, realBindPort := realPort }
  | .error _ => { pxy with phase := .failed, realBindPort := 0 }

/-- The rest of `Run`: an error releases the port. -/
def listen (pxy : UDPProxy) (ok : Bool) (pm : Manager) (now : Nat) : UDPProxy × Manager :=
  if ok then ({ pxy with phase := .running, forwarding := true }, pm)
  else ({ pxy with phase := .failed }, pm.release pxy.realBindPort now)

/-- `UDPProxy.Close`: the port is released whether the proxy is closed already or not. -/
def close (pxy : UDPProxy) (pm : Manager) (now : Nat) : UDPProxy × Manager :=
  ({ pxy with isClosed := true }, pm.release pxy.realBindPort now)

/-- The proxy holds a port: `Run` got it and nobody closed the proxy. -/
def Active (pxy : UDPProxy) : Prop :=
  pxy.phase = .acquired ∨ pxy.phase = .running ∧ pxy.isClosed = false

end UDPProxy

structure State where
  pm : Manager
  pxys : Nat → UDPProxy
  /-- Who was given a port that is not released yet. -/
  owner : GoMap Int Nat

inductive Label where
  | acquire (i : Nat) (name : String) (port : Int) (now : Nat) (order : List Int) (probe : Probe)
  | listen (i : Nat) (ok : Bool) (now : Nat)
  /-- By the control, or by the goroutine whose `ForwardUserConn` returns. -/
  | close (i : Nat) (byForwarder : Bool) (now : Nat)
  | clean (now : Nat) (order : List String)

def start (allowPorts : Finset Int) : State := ⟨newManager allowPorts, fun _ => newUDPProxy, ∅⟩

namespace State

/-- The session of the port manager. -/
def session (s : State) : Ports.Session := ⟨s.pm, s.owner.keys⟩

end State

def step (s : State) : Label → Option State
  | .acquire i name port now order probe =>
      if (s.pxys i).phase = .new ∧ order.Nodup ∧ order.toFinset = s.pm.freePorts then
        let (pm, result) := s.pm.acquire name port now order probe
        some
          { pm := pm
            pxys := Function.update s.pxys i ((s.pxys i).acquire result)
            owner := match result with
              | .ok p => s.owner.set p i
              | .error _ => s.owner }
      else none
  | .listen i ok now =>
      if (s.pxys i).phase = .acquired then
        let (pxy, pm) := (s.pxys i).listen ok s.pm now
        some
          { pm := pm
            pxys := Function.update s.pxys i pxy
            owner := if ok then s.owner else s.owner.delete (s.pxys i).realBindPort }
      else none
  | .close i byForwarder now =>
      if (s.pxys i).phase = .running ∧ (byForwarder → (s.pxys i).forwarding) then
        let (pxy, pm) := (s.pxys i).close s.pm now
        some
          { pm := pm
            pxys := Function.update s.pxys i
              { pxy with forwarding := pxy.forwarding && !byForwarder }
            owner := s.owner.delete (s.pxys i).realBindPort }
      else none
  | .clean now order =>
      if order.Nodup ∧ order.toFinset = s.pm.reservedPorts.keys then
        some { s with pm := s.pm.cleanReservedPorts now order }
      else none

/-- The proxy that calls `Release`, and the port. -/
def releases (s : State) : Label → Option (Nat × Int)
  | .listen i ok _ => if ok then none else some (i, (s.pxys i).realBindPort)
  | .close i _ _ => some (i, (s.pxys i).realBindPort)
  | _ => none

/-- A release that takes effect is the owner's, and no running proxy's port is free. -/
def OwnersRelease (s : State) (l : Label) (t : State) : Prop :=
  (∀ i p, releases s l = some (i, p) → p ∈ s.pm.usedPorts.keys → s.owner.get p = some i) ∧
    ∀ i, (t.pxys i).phase = .running → (t.pxys i).isClosed = false →
      (t.pxys i).realBindPort ∉ t.pm.freePorts

/-- No port is handed out by reservation while somebody owns it, and when a proxy is
closed again its port is not in use. -/
def Guard (s : State) : Label → Prop
  | .acquire _ name port now order probe =>
      ¬ ReservationHeld s.session (.acquire name port now order probe)
  | .close i _ _ =>
      (s.pxys i).isClosed = true → (s.pxys i).realBindPort ∉ s.pm.usedPorts.keys
  | _ => True

/-! ## A session of the port manager -/

section Step

variable {allow : Finset Int} {s t : State} {l : Label}

theorem active_of_running {pxy : UDPProxy} (running : pxy.phase = .running)
    (opened : pxy.isClosed = false) : pxy.Active := .inr ⟨running, opened⟩

theorem not_active_of_new {pxy : UDPProxy} (new : pxy.phase = .new) : ¬ pxy.Active := by
  rintro (acquired | ⟨running, -⟩)
  · rw [new] at acquired
    cases acquired
  · rw [new] at running
    cases running

/-- A step is a call of the port manager, or it leaves the manager alone. -/
theorem step_session (next : step s l = some t) :
    (∃ call, Ports.step s.session call = some t.session) ∨ t.session = s.session := by
  cases l with
  | acquire i name port now order probe =>
      simp only [step, Option.ite_none_right_eq_some] at next
      obtain ⟨⟨-, nodup, all⟩, ⟨⟩⟩ := next
      left
      refine ⟨.acquire name port now order probe, ?_⟩
      show (if _ then _ else none) = _
      rw [if_pos ⟨nodup, all⟩]
      show some (Ports.Session.mk _ _) = some (Ports.Session.mk _ _)
      congr 2
      simp only [Ports.returned, State.session]
      cases (s.pm.acquire name port now order probe).2 with
      | ok p => exact (GoMap.keys_set s.owner p i).symm
      | error err => rfl
  | listen i ok now =>
      simp only [step, Option.ite_none_right_eq_some] at next
      obtain ⟨-, ⟨⟩⟩ := next
      cases ok with
      | true => exact .inr rfl
      | false =>
          left
          refine ⟨.release (s.pxys i).realBindPort now, ?_⟩
          show some (Ports.Session.mk _ _) = some (Ports.Session.mk _ _)
          congr 2
          exact (GoMap.keys_delete s.owner _).symm
  | close i byForwarder now =>
      simp only [step, Option.ite_none_right_eq_some] at next
      obtain ⟨-, ⟨⟩⟩ := next
      left
      refine ⟨.release (s.pxys i).realBindPort now, ?_⟩
      show some (Ports.Session.mk _ _) = some (Ports.Session.mk _ _)
      congr 2
      exact (GoMap.keys_delete s.owner _).symm
  | clean now order =>
      simp only [step, Option.ite_none_right_eq_some] at next
      obtain ⟨ordered, ⟨⟩⟩ := next
      left
      exact ⟨.clean now order, if_pos ordered⟩

/-! ## The invariant -/

structure Inv (allow : Finset Int) (s : State) : Prop where
  session : Ports.Inv allow s.session
  owns : ∀ i, (s.pxys i).Active → s.owner.get (s.pxys i).realBindPort = some i
  owned : ∀ p i, s.owner.get p = some i → (s.pxys i).Active ∧ (s.pxys i).realBindPort = p
  closed : ∀ i, (s.pxys i).isClosed = true → (s.pxys i).phase = .running

theorem start_inv (allowPorts : Finset Int) : Inv (allowSet allowPorts) (start allowPorts) where
  session := Ports.start_inv allowPorts
  owns i active := absurd active (not_active_of_new rfl)
  owned p i owner := by simp [start] at owner
  closed i closed := by cases closed

theorem step_session_inv (inv : Inv allow s) (next : step s l = some t) :
    Ports.Inv allow t.session := by
  rcases step_session next with ⟨call, moved⟩ | same
  · exact Ports.step_inv inv.session moved
  · rw [same]
    exact inv.session

/-- A port that is owned is in use. -/
theorem Inv.used (inv : Inv allow s) {p : Int} {i : Nat} (owner : s.owner.get p = some i) :
    p ∈ s.pm.usedPorts.keys :=
  inv.session.held (GoMap.mem_keys_iff.2 ⟨i, owner⟩)

/-- A proxy gives up its port, which is its own or nobody's. -/
theorem Inv.drop (inv : Inv allow s) {i : Nat} {pxy : UDPProxy} {pm : Manager}
    (inactive : ¬ pxy.Active) (closed : pxy.isClosed = true → pxy.phase = .running)
    (mine : ∀ j, s.owner.get (s.pxys i).realBindPort = some j → j = i)
    (session : Ports.Inv allow ⟨pm, (s.owner.delete (s.pxys i).realBindPort).keys⟩) :
    Inv allow ⟨pm, Function.update s.pxys i pxy, s.owner.delete (s.pxys i).realBindPort⟩ where
  session := session
  owns j active := by
    by_cases same : j = i
    · subst same
      simp only [Function.update_self] at active
      exact absurd active inactive
    · simp only [Function.update_of_ne same] at active ⊢
      have owner := inv.owns j active
      have other : (s.pxys j).realBindPort ≠ (s.pxys i).realBindPort := by
        intro equal
        rw [equal] at owner
        exact same (mine j owner)
      rw [GoMap.get_delete, if_neg other]
      exact owner
  owned p j owner := by
    simp only [GoMap.get_delete] at owner
    split at owner
    · cases owner
    · rename_i other
      obtain ⟨active, port⟩ := inv.owned p j owner
      have different : j ≠ i := by
        intro same
        rw [same] at port
        exact other port.symm
      simp only [Function.update_of_ne different]
      exact ⟨active, port⟩
  closed j := by
    by_cases same : j = i
    · subst same
      simp only [Function.update_self]
      exact closed
    · simp only [Function.update_of_ne same]
      exact inv.closed j

theorem acquire_inv {i : Nat} {name : String} {port : Int} {now : Nat} {order : List Int}
    {probe : Probe} (inv : Inv allow s) (guard : Guard s (.acquire i name port now order probe))
    (next : step s (.acquire i name port now order probe) = some t) : Inv allow t := by
  have session := step_session_inv inv next
  simp only [step, Option.ite_none_right_eq_some] at next
  obtain ⟨⟨new, nodup, all⟩, ⟨⟩⟩ := next
  have fresh : ∀ p, (s.pm.acquire name port now order probe).2 = .ok p →
      s.owner.get p = none := by
    intro p result
    by_contra held
    obtain ⟨j, owner⟩ := Option.ne_none_iff_exists'.1 held
    apply guard
    have call : ∃ u, Ports.step s.session (.acquire name port now order probe) = some u :=
      ⟨_, if_pos ⟨nodup, all⟩⟩
    obtain ⟨u, call⟩ := call
    apply (Ports.returned_held_iff inv.session call).1
    refine ⟨p, ?_, GoMap.mem_keys_iff.2 ⟨j, owner⟩⟩
    simp [Ports.returned, State.session, result, Except.toOption]
  have others : ∀ p j, s.owner.get p = some j → j ≠ i := by
    intro p j owner same
    subst same
    exact not_active_of_new new (inv.owned p j owner).1
  refine ⟨session, ?_, ?_, ?_⟩
  · intro j active
    by_cases same : j = i
    · subst same
      simp only [Function.update_self] at active ⊢
      cases result : (s.pm.acquire name port now order probe).2 with
      | ok p => simp [UDPProxy.acquire]
      | error err =>
          rw [result] at active
          rcases active with failed | ⟨failed, -⟩ <;> cases failed
    · simp only [Function.update_of_ne same] at active ⊢
      have owner := inv.owns j active
      cases result : (s.pm.acquire name port now order probe).2 with
      | ok p =>
          exact GoMap.get_set_of_fresh (fresh p result) owner
      | error err => exact owner
  · intro p j owner
    cases result : (s.pm.acquire name port now order probe).2 with
    | ok q =>
        rw [result] at owner
        simp only [GoMap.get_set] at owner
        split at owner
        · rename_i same
          cases owner
          simp only [Function.update_self]
          exact ⟨.inl rfl, same.symm⟩
        · simp only [Function.update_of_ne (others p j owner)]
          exact inv.owned p j owner
    | error err =>
        rw [result] at owner
        simp only [Function.update_of_ne (others p j owner)]
        exact inv.owned p j owner
  · intro j closed
    by_cases same : j = i
    · subst same
      have closed' : (s.pxys j).isClosed = true := by
        simp only [Function.update_self] at closed
        cases result : (s.pm.acquire name port now order probe).2 with
        | ok p => rwa [result] at closed
        | error err => rwa [result] at closed
      rw [inv.closed j closed'] at new
      cases new
    · simp only [Function.update_of_ne same] at closed ⊢
      exact inv.closed j closed

theorem listen_inv {i : Nat} {ok : Bool} {now : Nat} (inv : Inv allow s)
    (next : step s (.listen i ok now) = some t) : Inv allow t := by
  have session := step_session_inv inv next
  simp only [step, Option.ite_none_right_eq_some] at next
  obtain ⟨acquired, ⟨⟩⟩ := next
  have owner := inv.owns i (.inl acquired)
  have opened : (s.pxys i).isClosed = false := by
    by_contra closed
    rw [inv.closed i (Bool.eq_true_of_not_eq_false closed)] at acquired
    cases acquired
  cases ok with
  | false =>
      apply inv.drop
      · rintro (failed | ⟨failed, -⟩) <;> cases failed
      · intro closed
        rw [show ((s.pxys i).listen false s.pm now).1.isClosed = (s.pxys i).isClosed from rfl,
          opened] at closed
        cases closed
      · intro j other
        rw [owner] at other
        exact (Option.some.inj other).symm
      · exact session
  | true =>
      refine ⟨session, ?_, ?_, ?_⟩
      · intro j active
        by_cases same : j = i
        · subst same
          simp only [Function.update_self]
          exact owner
        · simp only [Function.update_of_ne same] at active ⊢
          exact inv.owns j active
      · intro p j owner'
        by_cases same : j = i
        · subst same
          simp only [Function.update_self]
          exact ⟨active_of_running rfl opened, (inv.owned p j owner').2⟩
        · simp only [Function.update_of_ne same]
          exact inv.owned p j owner'
      · intro j closed
        by_cases same : j = i
        · subst same
          simp only [Function.update_self]
          rfl
        · simp only [Function.update_of_ne same] at closed ⊢
          exact inv.closed j closed

theorem close_inv {i : Nat} {byForwarder : Bool} {now : Nat} (inv : Inv allow s)
    (guard : Guard s (.close i byForwarder now))
    (next : step s (.close i byForwarder now) = some t) : Inv allow t := by
  have session := step_session_inv inv next
  simp only [step, Option.ite_none_right_eq_some] at next
  obtain ⟨⟨running, -⟩, ⟨⟩⟩ := next
  apply inv.drop
  · rintro (acquired | ⟨-, closed⟩)
    · change (s.pxys i).phase = .acquired at acquired
      rw [running] at acquired
      cases acquired
    · cases closed
  · exact fun _ => running
  · intro j owner
    cases closed : (s.pxys i).isClosed with
    | true => exact absurd (inv.used owner) (guard closed)
    | false =>
        rw [inv.owns i (active_of_running running closed)] at owner
        exact (Option.some.inj owner).symm
  · exact session

theorem step_inv (inv : Inv allow s) (guard : Guard s l) (next : step s l = some t) :
    Inv allow t := by
  cases l with
  | acquire => exact acquire_inv inv guard next
  | listen => exact listen_inv inv next
  | close => exact close_inv inv guard next
  | clean now order =>
      have session := step_session_inv inv next
      simp only [step, Option.ite_none_right_eq_some] at next
      obtain ⟨-, ⟨⟩⟩ := next
      exact ⟨session, inv.owns, inv.owned, inv.closed⟩

/-! ## Who releases -/

theorem ownersRelease_of_guard (inv : Inv allow s) (guard : Guard s l)
    (next : step s l = some t) : OwnersRelease s l t := by
  have inv' := step_inv inv guard next
  constructor
  · intro i p release used
    cases l with
    | acquire => cases release
    | clean => cases release
    | listen j ok now =>
        simp only [step, Option.ite_none_right_eq_some] at next
        cases ok with
        | true => cases release
        | false =>
            cases release
            exact inv.owns i (.inl next.1)
    | close j byForwarder now =>
        simp only [step, Option.ite_none_right_eq_some] at next
        cases release
        cases closed : (s.pxys i).isClosed with
        | true => exact absurd used (guard closed)
        | false => exact inv.owns i (active_of_running next.1.1 closed)
  · intro i running opened free
    have owner := inv'.owns i (active_of_running running opened)
    exact Finset.disjoint_left.1 inv'.session.disjoint free (inv'.used owner)

/-- A proxy that closes again releases a port that it does not own. -/
theorem not_ownersRelease_of_close {i : Nat} {byForwarder : Bool} {now : Nat}
    (inv : Inv allow s) (unguarded : ¬ Guard s (.close i byForwarder now))
    (next : step s (.close i byForwarder now) = some t) :
    ¬ OwnersRelease s (.close i byForwarder now) t := by
  intro owners
  obtain ⟨closed, used⟩ := Classical.not_imp.1 unguarded
  have owner := owners.1 i (s.pxys i).realBindPort rfl (Classical.not_not.1 used)
  simp only [step, Option.ite_none_right_eq_some] at next
  rcases (inv.owned _ i owner).1 with acquired | ⟨-, opened⟩
  · rw [next.1.1] at acquired
    cases acquired
  · rw [closed] at opened
    cases opened

/-- After a port was handed out a second time, the first owner's `Release` frees it. -/
theorem release_after_acquire {i : Nat} {name : String} {port : Int} {now : Nat}
    {order : List Int} {probe : Probe} (inv : Inv allow s)
    (unguarded : ¬ Guard s (.acquire i name port now order probe))
    (next : step s (.acquire i name port now order probe) = some t) :
    ∃ call u, step t call = some u ∧ ¬ OwnersRelease t call u := by
  have session := step_session_inv inv next
  simp only [step, Option.ite_none_right_eq_some] at next
  obtain ⟨⟨new, nodup, all⟩, ⟨⟩⟩ := next
  have call : ∃ u, Ports.step s.session (.acquire name port now order probe) = some u :=
    ⟨_, if_pos ⟨nodup, all⟩⟩
  obtain ⟨u, call⟩ := call
  obtain ⟨p, out, held⟩ :=
    (Ports.returned_held_iff inv.session call).2 (Classical.not_not.1 unguarded)
  have result : (s.pm.acquire name port now order probe).2 = .ok p := by
    simp only [Ports.returned, State.session] at out
    cases result : (s.pm.acquire name port now order probe).2 with
    | ok q =>
        rw [result] at out
        exact congrArg Except.ok (Option.some.inj out)
    | error err =>
        rw [result] at out
        cases out
  obtain ⟨j, owner⟩ := GoMap.mem_keys_iff.1 held
  obtain ⟨active, bound⟩ := inv.owned p j owner
  have different : j ≠ i := by
    intro same
    subst same
    exact not_active_of_new new active
  generalize same : State.mk _ _ _ = t at session
  have pxy : t.pxys j = s.pxys j := by
    rw [← same]
    exact Function.update_of_ne different _ _
  have owner' : t.owner.get p = some i := by
    rw [← same]
    simp [result]
  have used : p ∈ t.pm.usedPorts.keys := session.held (GoMap.mem_keys_iff.2 ⟨i, owner'⟩)
  have wrong : ∀ call u, releases t call = some (j, p) → ¬ OwnersRelease t call u := by
    intro call u release owners
    rw [owners.1 j p release used] at owner'
    exact different (Option.some.inj owner')
  rcases active with acquired | ⟨running, -⟩
  · refine ⟨.listen j false now, _, if_pos (by rw [pxy, acquired]), wrong _ _ ?_⟩
    show some (j, (t.pxys j).realBindPort) = _
    rw [pxy, bound]
  · refine ⟨.close j false now, _,
      if_pos ⟨by rw [pxy, running], fun forwarder => by cases forwarder⟩, wrong _ _ ?_⟩
    show some (j, (t.pxys j).realBindPort) = _
    rw [pxy, bound]

theorem not_ownersRelease_of_unguarded (inv : Inv allow s) (unguarded : ¬ Guard s l)
    (next : step s l = some t) : ∃ more, ¬ Along step OwnersRelease s (l :: more) := by
  cases l with
  | listen => exact absurd trivial unguarded
  | clean => exact absurd trivial unguarded
  | close i byForwarder now =>
      refine ⟨[], fun owners => ?_⟩
      exact not_ownersRelease_of_close inv unguarded next (owners t next).1
  | acquire i name port now order probe =>
      obtain ⟨call, u, then_, wrong⟩ := release_after_acquire inv unguarded next
      refine ⟨[call], fun owners => ?_⟩
      exact wrong ((owners t next).2 u then_).1

end Step

/-- **Only the owner releases a port, and no running proxy's port is free**, in every run
in which a second close finds the port out of use and no owned port is handed out by
reservation.  Any other step leads to a release by somebody else. -/
theorem released_by_owner (allowPorts : Finset Int) :
    (∀ ls, Along step (fun s l _ => Guard s l) (start allowPorts) ls →
      Along step OwnersRelease (start allowPorts) ls) ∧
    ∀ ls s l t, Along step (fun s l _ => Guard s l) (start allowPorts) ls →
      exec step (start allowPorts) ls = some s → ¬ Guard s l → step s l = some t →
        ∃ more, ¬ Along step OwnersRelease (start allowPorts) (ls ++ l :: more) := by
  have kept : ∀ s l t, Inv (allowSet allowPorts) s → Guard s l → step s l = some t →
      Inv (allowSet allowPorts) t := fun _ _ _ inv guard next => step_inv inv guard next
  have tight := strengthen_and_tight (Inv (allowSet allowPorts)) kept
    (fun _ _ _ inv guard next => ownersRelease_of_guard inv guard next)
    (fun _ _ _ inv unguarded next => not_ownersRelease_of_unguarded inv unguarded next)
    (start_inv allowPorts)
  exact ⟨fun ls => (tight ls).1, fun ls => (tight ls).2⟩

/-- The control closes the first proxy, a second one gets its port and listens, and then
the goroutine of the first one closes it again. -/
def closedTwice : List Label :=
  [.acquire 0 "first" 6000 1 [6000] fun _ _ => true, .listen 0 true 2, .close 0 false 3,
    .acquire 1 "second" 6000 4 [6000] fun _ _ => true, .listen 1 true 5, .close 0 true 6]

theorem second_close_frees_port_of_other :
    ¬ Along step OwnersRelease (start {6000}) closedTwice := by
  have run : (exec step (start {6000}) (closedTwice.take 5)).map (fun s =>
      (releases s (.close 0 true 6), decide (6000 ∈ s.pm.usedPorts.keys), s.owner.get 6000,
        (step s (.close 0 true 6)).isSome)) = some (some (0, 6000), true, some 1, true) := by
    decide
  obtain ⟨s, before, found⟩ := Option.map_eq_some_iff.1 run
  simp only [Prod.mk.injEq] at found
  obtain ⟨release, used, owner, enabled⟩ := found
  obtain ⟨t, next⟩ := Option.isSome_iff_exists.1 enabled
  intro owners
  have split : closedTwice = closedTwice.take 5 ++ [.close 0 true 6] := rfl
  rw [split] at owners
  have mine := ((owners.of_append before) t next).1.1 0 6000 release (of_decide_eq_true used)
  rw [owner] at mine
  cases mine

end ChmlFrp.Server.UdpPorts
