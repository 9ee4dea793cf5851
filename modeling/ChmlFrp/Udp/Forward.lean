/-
# ChmlFrp.Udp.Forward — forwarding udp packets, and closing under the forwarder

`ForwardUserConn` of `pkg/proto/udp/udp.go` with the two objects that run it: `UDPProxy`
of the server and `SUDPVisitor` of the client.  Its loop reads a datagram and sends it on
`sendCh`, in a `select` with a `default`.  `Close` runs in another goroutine, one action
after the other, closes the socket first and `sendCh` last, and does not wait for the loop.

The other goroutines send under `PanicToError`, which recovers.

* `never_panics`: in the runs in which `sendCh` is closed only while the loop holds no
  datagram, nothing panics.
* `close_before_send_panics`: a datagram that was read before the socket is closed.
-/
import ChmlFrp.Lib.Base64
import ChmlFrp.Lib.Chan
import ChmlFrp.Lib.GoString
import ChmlFrp.Lib.Transition
import Mathlib.Data.List.Infix

namespace ChmlFrp.Udp

set_option autoImplicit false

open ChmlFrp.Lib
open ChmlFrp.Lib.Transition

structure UDPPacket where
  /-- In base64. -/
  content : GoString
  remoteAddr : GoString
  deriving DecidableEq, Repr

/-- `NewUDPPacket`, for a packet of a user. -/
def newUDPPacket (buf remoteAddr : GoString) : UDPPacket := ⟨Base64.encode buf, remoteAddr⟩

/-- Who runs the forwarder. -/
inductive Owner where
  | udpProxy
  | sudpVisitor
  deriving DecidableEq, Repr

/-- What `Close` does, in single actions. -/
inductive Action where
  | setClosed
  | closeBase
  | closeWorkConn
  | closeUDPConn
  | closeCheckCloseCh
  | closeReadCh
  | closeSendCh
  deriving DecidableEq, Repr

/-- The actions of `UDPProxy.Close` and of `SUDPVisitor.Close`, in their order. -/
def Owner.closing : Owner → List Action
  | .udpProxy =>
      [.setClosed, .closeBase, .closeWorkConn, .closeUDPConn, .closeCheckCloseCh, .closeReadCh,
        .closeSendCh]
  | .sudpVisitor =>
      [.closeCheckCloseCh, .closeBase, .closeUDPConn, .closeReadCh, .closeSendCh]

/-- Where the loop of `ForwardUserConn` is. -/
inductive Loop where
  | reading
  /-- Between the read and the `select`. -/
  | holding (udpMsg : UDPPacket)
  | returned
  deriving DecidableEq, Repr

structure State where
  udpConnOpen : Bool
  sendCh : Chan UDPPacket
  readCh : Chan UDPPacket
  checkCloseCh : Chan Unit
  isClosed : Bool
  loop : Loop
  /-- What the call of `Close` that holds the mutex has still to do. -/
  pending : List Action
  panicked : Bool
  deriving DecidableEq, Repr

/-- After `Run`. -/
def start : State where
  udpConnOpen := true
  sendCh := .make 1024
  readCh := .make 1024
  checkCloseCh := .make 0
  isClosed := false
  loop := .reading
  pending := []
  panicked := false

inductive Label where
  /-- `ReadFromUDP`: a datagram and its sender, or an error. -/
  | read (datagram : Option (GoString × GoString))
  /-- The `select` with the send on `sendCh`. -/
  | send
  | callClose
  /-- The next action of the `Close` that is running. -/
  | close
  /-- A work connection or a visitor connection takes a packet. -/
  | takeSendCh
  /-- A packet comes over that connection, and its reader sends it on `readCh`. -/
  | sendReadCh (udpMsg : UDPPacket)
  /-- The other goroutine of `ForwardUserConn` takes it. -/
  | takeReadCh
  deriving DecidableEq, Repr

/-- The test at the beginning of `Close`. -/
def Owner.alreadyClosed (owner : Owner) (s : State) : Bool :=
  match owner with
  | .udpProxy => s.isClosed
  | .sudpVisitor => s.checkCloseCh.closed

namespace State

/-- Go on with the channel, unless the operation panics or blocks. -/
def withChan {α : Type} (s : State) (outcome : Chan.Outcome α) (update : α → State) :
    Option State :=
  match outcome with
  | .done c => some (update c)
  | .blocks => none
  | .panics => some { s with panicked := true }

/-- One action of `Close`. -/
def act (s : State) : Action → Option State
  | .setClosed => some { s with isClosed := true }
  | .closeBase => some s
  | .closeWorkConn => some s
  | .closeUDPConn => some { s with udpConnOpen := false }
  | .closeCheckCloseCh => s.withChan s.checkCloseCh.close fun c => { s with checkCloseCh := c }
  | .closeReadCh => s.withChan s.readCh.close fun c => { s with readCh := c }
  | .closeSendCh => s.withChan s.sendCh.close fun c => { s with sendCh := c }

end State

/-- What the step does when no goroutine has panicked. -/
def run (owner : Owner) (s : State) : Label → Option State
  | .read datagram =>
      if s.loop = .reading then
        match datagram with
        | some (buf, remoteAddr) =>
            if s.udpConnOpen then some { s with loop := .holding (newUDPPacket buf remoteAddr) }
            else none
        | none => some { s with loop := .returned }
      else none
  | .send =>
      match s.loop with
      | .holding udpMsg =>
          match s.sendCh.send udpMsg with
          | .done c => some { s with sendCh := c, loop := .reading }
          | .blocks => some { s with loop := .reading }
          | .panics => some { s with panicked := true }
      | _ => none
  | .callClose =>
      if s.pending = [] then
        if owner.alreadyClosed s then some s else some { s with pending := owner.closing }
      else none
  | .close =>
      match s.pending with
      | [] => none
      | action :: rest => (s.act action).map fun s' => { s' with pending := rest }
  | .takeSendCh =>
      match s.sendCh.recv with
      | .done (_, c) => some { s with sendCh := c }
      | _ => none
  | .sendReadCh udpMsg =>
      match s.readCh.send udpMsg with
      | .done c => some { s with readCh := c }
      | .blocks => none
      -- `PanicToError` recovers, and the reader of the connection returns.
      | .panics => some s
  | .takeReadCh =>
      match s.readCh.recv with
      | .done (_, c) => some { s with readCh := c }
      | _ => none

/-- Nothing runs after a panic. -/
def step (owner : Owner) (s : State) (l : Label) : Option State :=
  if s.panicked then none else run owner s l

/-- The step does not panic. -/
def NoPanic (_ : State) (_ : Label) (t : State) : Prop := t.panicked = false

/-- `sendCh` is not closed while the loop holds a datagram. -/
def Guard (s : State) : Label → Prop
  | .close => s.pending.head? = some .closeSendCh → ∀ udpMsg, s.loop ≠ .holding udpMsg
  | _ => True

/-! ## The invariant -/

/-- What the performed actions have closed. -/
structure Closed (performed : List Action) (s : State) : Prop where
  isClosed : s.isClosed = true ↔ Action.setClosed ∈ performed
  udpConn : s.udpConnOpen = false ↔ Action.closeUDPConn ∈ performed
  checkCloseCh : s.checkCloseCh.closed = true ↔ Action.closeCheckCloseCh ∈ performed
  readCh : s.readCh.closed = true ↔ Action.closeReadCh ∈ performed
  sendCh : s.sendCh.closed = true ↔ Action.closeSendCh ∈ performed

structure Inv (owner : Owner) (s : State) : Prop where
  /-- `Close` is somewhere in its list, or was not called yet. -/
  progress : ∃ performed, Closed performed s ∧
    (performed ++ s.pending = owner.closing ∨ performed = [] ∧ s.pending = [])
  /-- The loop does not hold a datagram that it cannot send any more. -/
  sendable : s.sendCh.closed = true → ∀ udpMsg, s.loop ≠ .holding udpMsg
  alive : s.panicked = false

/-- What `progress` says, also of a run that panics. -/
def Progress (owner : Owner) (s : State) : Prop :=
  ∃ performed, Closed performed s ∧
    (performed ++ s.pending = owner.closing ∨ performed = [] ∧ s.pending = [])

theorem start_inv (owner : Owner) : Inv owner start where
  progress := ⟨[], by constructor <;> simp [start], .inr ⟨rfl, rfl⟩⟩
  sendable closed := by cases closed
  alive := rfl

/-- The socket is closed before `sendCh`. -/
theorem udpConn_before_sendCh {owner : Owner} {performed rest : List Action}
    (order : performed ++ rest = owner.closing) (sendCh : Action.closeSendCh ∈ performed) :
    Action.closeUDPConn ∈ performed := by
  have prefixes : ∀ init ∈ owner.closing.inits,
      Action.closeSendCh ∈ init → Action.closeUDPConn ∈ init := by
    cases owner <;> decide
  apply prefixes performed _ sendCh
  rw [List.mem_inits, ← order]
  exact List.prefix_append performed rest

/-- `Close` does no action twice. -/
theorem not_performed {owner : Owner} {performed rest : List Action} {action : Action}
    (order : performed ++ action :: rest = owner.closing) : action ∉ performed := by
  have nodup : owner.closing.Nodup := by cases owner <;> decide
  rw [← order, List.nodup_append] at nodup
  intro mem
  exact nodup.2.2 action mem action List.mem_cons_self rfl

section Step

variable {owner : Owner} {s t : State} {l : Label}

theorem alreadyClosed_of_performed {performed : List Action} (closed : Closed performed s)
    (order : performed ++ s.pending = owner.closing) (idle : s.pending = []) :
    owner.alreadyClosed s = true := by
  rw [idle, List.append_nil] at order
  subst order
  cases owner with
  | udpProxy => exact closed.isClosed.2 (by decide)
  | sudpVisitor => exact closed.checkCloseCh.2 (by decide)

/-- A closed `sendCh` has a closed socket before it. -/
theorem Inv.udpConn_closed (inv : Inv owner s) (sendCh : s.sendCh.closed = true) :
    s.udpConnOpen = false := by
  rcases inv.progress with ⟨performed, closed, order | ⟨rfl, -⟩⟩
  · exact closed.udpConn.2 (udpConn_before_sendCh order (closed.sendCh.1 sendCh))
  · cases closed.sendCh.1 sendCh

/-- A channel that only this action closes is open before it. -/
theorem close_of_new {α : Type} {c : Chan α} {performed : List Action} {action : Action}
    (iff : c.closed = true ↔ action ∈ performed) (new : action ∉ performed) :
    c.close = .done { c with closed := true } := by
  rw [Chan.close_eq_done_iff]
  refine ⟨?_, rfl⟩
  by_contra is
  exact new (iff.1 (eq_true_of_ne_false is))

/-- An action that was not performed goes through. -/
theorem act_goes {performed : List Action} {action : Action} (closed : Closed performed s)
    (new : action ∉ performed) :
    ∃ t, s.act action = some t ∧ (s.isClosed = true → t.isClosed = true) := by
  cases action with
  | setClosed => exact ⟨_, rfl, fun _ => rfl⟩
  | closeBase => exact ⟨_, rfl, id⟩
  | closeWorkConn => exact ⟨_, rfl, id⟩
  | closeUDPConn => exact ⟨_, rfl, id⟩
  | closeCheckCloseCh =>
      rw [State.act, close_of_new closed.checkCloseCh new]
      exact ⟨_, rfl, id⟩
  | closeReadCh =>
      rw [State.act, close_of_new closed.readCh new]
      exact ⟨_, rfl, id⟩
  | closeSendCh =>
      rw [State.act, close_of_new closed.sendCh new]
      exact ⟨_, rfl, id⟩

/-- What an action that was not performed leaves. -/
theorem act_spec {performed : List Action} {action : Action} (closed : Closed performed s)
    (new : action ∉ performed) (next : s.act action = some t) :
    Closed (performed ++ [action]) t ∧ t.loop = s.loop ∧ t.pending = s.pending ∧
      t.panicked = s.panicked ∧ (t.sendCh.closed = true → action ≠ .closeSendCh →
        s.sendCh.closed = true) := by
  obtain ⟨c1, c2, c3, c4, c5⟩ := closed
  cases action with
  | setClosed =>
      cases next
      exact ⟨⟨by simp, by simpa, by simpa, by simpa, by simpa⟩, rfl, rfl, rfl, fun h _ => h⟩
  | closeBase =>
      cases next
      exact ⟨⟨by simpa, by simpa, by simpa, by simpa, by simpa⟩, rfl, rfl, rfl, fun h _ => h⟩
  | closeWorkConn =>
      cases next
      exact ⟨⟨by simpa, by simpa, by simpa, by simpa, by simpa⟩, rfl, rfl, rfl, fun h _ => h⟩
  | closeUDPConn =>
      cases next
      exact ⟨⟨by simpa, by simp, by simpa, by simpa, by simpa⟩, rfl, rfl, rfl, fun h _ => h⟩
  | closeCheckCloseCh =>
      rw [State.act, close_of_new c3 new] at next
      cases next
      exact ⟨⟨by simpa, by simpa, by simp, by simpa, by simpa⟩, rfl, rfl, rfl, fun h _ => h⟩
  | closeReadCh =>
      rw [State.act, close_of_new c4 new] at next
      cases next
      exact ⟨⟨by simpa, by simpa, by simpa, by simp, by simpa⟩, rfl, rfl, rfl, fun h _ => h⟩
  | closeSendCh =>
      rw [State.act, close_of_new c5 new] at next
      cases next
      exact ⟨⟨by simpa, by simpa, by simpa, by simpa, by simp⟩, rfl, rfl, rfl,
        fun _ h => absurd rfl h⟩

/-- What the next action of `Close` leaves. -/
theorem Progress.acted {action : Action} {rest : List Action} (progress : Progress owner s)
    (pending : s.pending = action :: rest) (acted : s.act action = some t) :
    ∃ performed, performed ++ action :: rest = owner.closing ∧
      Closed (performed ++ [action]) t ∧ t.loop = s.loop ∧ t.panicked = s.panicked ∧
      (t.sendCh.closed = true → action ≠ .closeSendCh → s.sendCh.closed = true) := by
  rcases progress with ⟨performed, closed, order | ⟨-, idle⟩⟩
  · rw [pending] at order
    obtain ⟨closed', loop, -, panicked, sendCh⟩ := act_spec closed (not_performed order) acted
    exact ⟨performed, order, closed', loop, panicked, sendCh⟩
  · rw [idle] at pending
    cases pending

/-- A step of a channel that leaves the flags as they are keeps the progress of `Close`. -/
theorem Closed.congr {performed : List Action} (closed : Closed performed s)
    (isClosed : t.isClosed = s.isClosed) (udpConn : t.udpConnOpen = s.udpConnOpen)
    (checkCloseCh : t.checkCloseCh.closed = s.checkCloseCh.closed)
    (readCh : t.readCh.closed = s.readCh.closed) (sendCh : t.sendCh.closed = s.sendCh.closed) :
    Closed performed t := by
  obtain ⟨c1, c2, c3, c4, c5⟩ := closed
  constructor
  · rwa [isClosed]
  · rwa [udpConn]
  · rwa [checkCloseCh]
  · rwa [readCh]
  · rwa [sendCh]

theorem recv_closed {α : Type} {c c' : Chan α} {a : Option α} (done : c.recv = .done (a, c')) :
    c'.closed = c.closed := by
  cases a with
  | some a =>
      obtain ⟨rest, -, rfl⟩ := Chan.recv_eq_some_iff.1 done
      rfl
  | none =>
      obtain ⟨-, -, rfl⟩ := Chan.recv_eq_none_iff.1 done
      rfl

theorem send_closed {α : Type} {c c' : Chan α} {a : α} (done : c.send a = .done c') :
    c'.closed = c.closed := by
  obtain ⟨-, -, rfl⟩ := Chan.send_eq_done_iff.1 done
  rfl

theorem Progress.congr (progress : Progress owner s)
    (isClosed : t.isClosed = s.isClosed) (udpConn : t.udpConnOpen = s.udpConnOpen)
    (checkCloseCh : t.checkCloseCh.closed = s.checkCloseCh.closed)
    (readCh : t.readCh.closed = s.readCh.closed) (sendCh : t.sendCh.closed = s.sendCh.closed)
    (pending : t.pending = s.pending) : Progress owner t := by
  obtain ⟨performed, closed, order⟩ := progress
  rw [← pending] at order
  exact ⟨performed, closed.congr isClosed udpConn checkCloseCh readCh sendCh, order⟩

/-- What each step finds, and what it makes of the state. -/
inductive Moves (owner : Owner) (s : State) : Label → State → Prop
  | fail : Moves owner s (.read none) { s with loop := .returned }
  | read (buf remoteAddr : GoString) (opened : s.udpConnOpen = true) :
      Moves owner s (.read (some (buf, remoteAddr)))
        { s with loop := .holding (newUDPPacket buf remoteAddr) }
  | send {udpMsg : UDPPacket} {c : Chan UDPPacket} (holding : s.loop = .holding udpMsg)
      (sent : s.sendCh.send udpMsg = .done c) :
      Moves owner s .send { s with sendCh := c, loop := .reading }
  | drop {udpMsg : UDPPacket} (holding : s.loop = .holding udpMsg) :
      Moves owner s .send { s with loop := .reading }
  | panic {udpMsg : UDPPacket} (holding : s.loop = .holding udpMsg)
      (closed : s.sendCh.closed = true) : Moves owner s .send { s with panicked := true }
  | closeAgain (closed : owner.alreadyClosed s = true) : Moves owner s .callClose s
  | callClose (idle : s.pending = []) (first : owner.alreadyClosed s ≠ true) :
      Moves owner s .callClose { s with pending := owner.closing }
  | close {action : Action} {rest : List Action} {s' : State}
      (pending : s.pending = action :: rest) (acted : s.act action = some s') :
      Moves owner s .close { s' with pending := rest }
  | takeSendCh {got : Option UDPPacket} {c : Chan UDPPacket}
      (taken : s.sendCh.recv = .done (got, c)) :
      Moves owner s .takeSendCh { s with sendCh := c }
  | sendReadCh {udpMsg : UDPPacket} {c : Chan UDPPacket}
      (sent : s.readCh.send udpMsg = .done c) :
      Moves owner s (.sendReadCh udpMsg) { s with readCh := c }
  | recover (udpMsg : UDPPacket) : Moves owner s (.sendReadCh udpMsg) s
  | takeReadCh {got : Option UDPPacket} {c : Chan UDPPacket}
      (taken : s.readCh.recv = .done (got, c)) :
      Moves owner s .takeReadCh { s with readCh := c }

theorem run_moves (next : run owner s l = some t) : Moves owner s l t := by
  cases l with
  | read datagram =>
      obtain ⟨-, moved⟩ := Option.ite_none_right_eq_some.1 next
      rcases datagram with _ | ⟨buf, remoteAddr⟩
      · cases moved
        exact .fail
      · obtain ⟨opened, moved⟩ := Option.ite_none_right_eq_some.1 moved
        cases moved
        exact .read buf remoteAddr opened
  | send =>
      simp only [run] at next
      split at next
      · rename_i udpMsg holding
        split at next
        · rename_i sent
          cases next
          exact .send holding sent
        · cases next
          exact .drop holding
        · rename_i panics
          cases next
          exact .panic holding (Chan.send_eq_panics_iff.1 panics)
      · cases next
  | callClose =>
      obtain ⟨idle, moved⟩ := Option.ite_none_right_eq_some.1 next
      split at moved
      · rename_i closed
        cases moved
        exact .closeAgain closed
      · rename_i first
        cases moved
        exact .callClose idle first
  | close =>
      simp only [run] at next
      split at next
      · cases next
      · rename_i action rest pending
        obtain ⟨s', acted, rfl⟩ := Option.map_eq_some_iff.1 next
        exact .close pending acted
  | takeSendCh =>
      simp only [run] at next
      split at next
      · rename_i taken
        cases next
        exact .takeSendCh taken
      · cases next
  | sendReadCh udpMsg =>
      simp only [run] at next
      split at next
      · rename_i sent
        cases next
        exact .sendReadCh sent
      · cases next
      · cases next
        exact .recover udpMsg
  | takeReadCh =>
      simp only [run] at next
      split at next
      · rename_i taken
        cases next
        exact .takeReadCh taken
      · cases next

theorem Progress.moves (progress : Progress owner s) (moves : Moves owner s l t) :
    Progress owner t := by
  cases moves with
  | fail | read | drop | panic => exact progress.congr rfl rfl rfl rfl rfl rfl
  | closeAgain | recover => exact progress
  | send _ sent => exact progress.congr rfl rfl rfl rfl (send_closed sent) rfl
  | callClose idle first =>
      rcases progress with ⟨performed, closed, order | ⟨rfl, -⟩⟩
      · exact absurd (alreadyClosed_of_performed closed order idle) first
      · exact ⟨[], closed.congr rfl rfl rfl rfl rfl, .inl rfl⟩
  | @close action rest s' pending acted =>
      obtain ⟨performed, order, closed, -⟩ := progress.acted pending acted
      refine ⟨performed ++ [action], closed.congr rfl rfl rfl rfl rfl, .inl ?_⟩
      rw [List.append_assoc]
      exact order
  | takeSendCh taken => exact progress.congr rfl rfl rfl rfl (recv_closed taken) rfl
  | sendReadCh sent => exact progress.congr rfl rfl rfl (send_closed sent) rfl rfl
  | takeReadCh taken => exact progress.congr rfl rfl rfl (recv_closed taken) rfl rfl

/-- The loop never holds a datagram that it cannot send any more. -/
theorem Inv.sendable_moves (inv : Inv owner s) (guard : Guard s l) (moves : Moves owner s l t) :
    t.sendCh.closed = true → ∀ udpMsg, t.loop ≠ .holding udpMsg := by
  cases moves with
  | fail | send | drop => exact fun _ _ => nofun
  | read buf remoteAddr opened =>
      intro closed
      rw [inv.udpConn_closed closed] at opened
      cases opened
  | panic holding closed => exact absurd holding (inv.sendable closed _)
  | @close action rest s' pending acted =>
      obtain ⟨-, -, -, loop, -, sendCh⟩ := Progress.acted inv.progress pending acted
      intro closed udpMsg
      show s'.loop ≠ _
      rw [loop]
      by_cases last : action = .closeSendCh
      · exact guard (by rw [pending, last]; rfl) udpMsg
      · exact inv.sendable (sendCh closed last) udpMsg
  | takeSendCh taken => exact fun closed => inv.sendable (recv_closed taken ▸ closed)
  | closeAgain | callClose | sendReadCh | recover | takeReadCh => exact inv.sendable

theorem Inv.moves (inv : Inv owner s) (guard : Guard s l) (moves : Moves owner s l t) :
    Inv owner t where
  progress := Progress.moves inv.progress moves
  sendable := inv.sendable_moves guard moves
  alive := by
    cases moves with
    | panic holding closed => exact absurd holding (inv.sendable closed _)
    | close pending acted =>
        obtain ⟨-, -, -, -, panicked, -⟩ := Progress.acted inv.progress pending acted
        exact panicked.trans inv.alive
    | _ => exact inv.alive

theorem step_inv (inv : Inv owner s) (guard : Guard s l) (next : step owner s l = some t) :
    Inv owner t := by
  rw [step, inv.alive] at next
  exact inv.moves guard (run_moves next)

theorem progress_start (owner : Owner) : Progress owner start := (start_inv owner).progress

/-- Once `sendCh` is closed, the datagram in the loop's hands makes it panic. -/
theorem panics_of_unguarded (inv : Inv owner s) (unguarded : ¬ Guard s .close)
    (next : step owner s .close = some t) :
    ∃ u, step owner t .send = some u ∧ u.panicked = true := by
  obtain ⟨last, held⟩ := Classical.not_imp.1 unguarded
  obtain ⟨udpMsg, holding⟩ := Classical.not_forall.1 held
  rw [Classical.not_not] at holding
  rw [step, inv.alive] at next
  obtain ⟨rest, pending⟩ : ∃ rest, s.pending = .closeSendCh :: rest := by
    cases pending : s.pending with
    | nil =>
        rw [pending] at last
        cases last
    | cons action rest =>
        rw [pending] at last
        cases last
        exact ⟨rest, rfl⟩
  simp only [Bool.false_eq_true, if_false, run, pending, Option.map_eq_some_iff] at next
  obtain ⟨s', acted, rfl⟩ := next
  obtain ⟨performed, -, closed, loop, panicked, -⟩ :=
    Progress.acted inv.progress pending acted
  have shut : s'.sendCh.closed = true := closed.sendCh.2 (by simp)
  have alive : s'.panicked = false := panicked.trans inv.alive
  have loop' : s'.loop = .holding udpMsg := loop.trans holding
  refine ⟨{ s' with pending := rest, panicked := true }, ?_, rfl⟩
  show (if s'.panicked then none else run owner _ .send) = _
  rw [alive]
  simp only [Bool.false_eq_true, if_false, run, loop', Chan.send_eq_panics_iff.2 shut]

theorem panic_of_unguarded (inv : Inv owner s) (unguarded : ¬ Guard s l)
    (next : step owner s l = some t) : ∃ more, ¬ Along (step owner) NoPanic s (l :: more) := by
  cases l with
  | close =>
      obtain ⟨u, sent, panicked⟩ := panics_of_unguarded inv unguarded next
      refine ⟨[.send], fun safe => ?_⟩
      have alive := ((safe t next).2 u sent).1
      rw [NoPanic, panicked] at alive
      cases alive
  | _ => exact absurd trivial unguarded

end Step

/-- **No panic while `sendCh` is closed only when the loop holds no datagram**, and a
panic after any other step, on the server and on the client. -/
theorem never_panics (owner : Owner) :
    (∀ ls, Along (step owner) (fun s l _ => Guard s l) start ls →
      Along (step owner) NoPanic start ls) ∧
    ∀ ls s l t, Along (step owner) (fun s l _ => Guard s l) start ls →
      exec (step owner) start ls = some s → ¬ Guard s l → step owner s l = some t →
        ∃ more, ¬ Along (step owner) NoPanic start (ls ++ l :: more) := by
  have kept : ∀ s l t, Inv owner s → Guard s l → step owner s l = some t → Inv owner t :=
    fun _ _ _ inv guard next => step_inv inv guard next
  have tight := strengthen_and_tight (Inv owner) kept
    (fun _ _ _ inv guard next => (step_inv inv guard next).alive)
    (fun _ _ _ inv unguarded next => panic_of_unguarded inv unguarded next) (start_inv owner)
  exact ⟨fun ls => (tight ls).1, fun ls => (tight ls).2⟩

/-- `Close` runs between the read of a datagram and its send. -/
def closeBeforeSend (owner : Owner) : List Label :=
  [.read (some ([1], [2])), .callClose] ++ List.replicate owner.closing.length .close ++ [.send]

theorem panics_in_closeBeforeSend (owner : Owner) :
    ¬ Along (step owner) NoPanic start (closeBeforeSend owner) := by
  have panics : (exec (step owner) start (closeBeforeSend owner)).map State.panicked =
      some true := by cases owner <;> decide
  obtain ⟨s, reached, panicked⟩ := Option.map_eq_some_iff.1 panics
  intro safe
  have all : Along (step owner) (fun _ _ t => t.panicked = false) start
    (closeBeforeSend owner) := safe
  have alive : s.panicked = false := all.last reached
  rw [panicked] at alive
  cases alive

theorem close_before_send_panics :
    ¬ Along (step .udpProxy) NoPanic start (closeBeforeSend .udpProxy) ∧
      ¬ Along (step .sudpVisitor) NoPanic start (closeBeforeSend .sudpVisitor) :=
  ⟨panics_in_closeBeforeSend .udpProxy, panics_in_closeBeforeSend .sudpVisitor⟩

end ChmlFrp.Udp
