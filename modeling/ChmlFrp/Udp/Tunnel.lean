/-
# ChmlFrp.Udp.Tunnel — datagrams from the users to the service and back

The two ends of a udp tunnel with the work connections between them.  At the users' end
`ForwardUserConn` is between their socket and two channels, and the reader and the sender of
the current connection are between the channels and the connection: `workConnReaderFn` and
`workConnSenderFn` of `server/proxy/udp.go`, or `dispatcher` and `worker` of
`client/visitor/sudp.go`.  At the other end every connection has its session
(`ChmlFrp.Udp.Session`), which lives on after it.  The channels and the connection may be
closed at any time.

Both ends read a datagram into a buffer, and the rest of a longer one is lost.

* `transparent`: the service gets, connection after connection, what was read of datagrams
  that the users sent, each at most once and in their order; a socket to the service carries
  what belongs to one user; and a user gets only what was read from his own sockets, in its
  order.
-/
import ChmlFrp.Udp.Session

namespace ChmlFrp.Udp.Tunnel

set_option autoImplicit false

open ChmlFrp.Lib
open ChmlFrp.Lib.Transition
open Forwarder (getContent readFromUDP)
open Session (Datagram Msg Reader decoded ofUser)

/-! ## The users' end -/

structure Ends where
  owner : Owner
  /-- `bufSize` of `ForwardUserConn`. -/
  bufSize : Nat
  /-- `bufSize` of `Forwarder`, at the client. -/
  clientBufSize : Nat

/-- Where the sender of the current connection is, and the dispatcher of a visitor. -/
inductive Sender where
  /-- There was no connection yet; a dispatcher is at its `select`. -/
  | idle
  /-- The dispatcher is in `getNewVisitorConn`. -/
  | connecting (firstPacket : UDPPacket)
  | receiving
  | writing (udpMsg : UDPPacket)
  | returned
  /-- The dispatcher has returned. -/
  | ended
  deriving DecidableEq, Repr

structure State where
  loop : Loop
  sendCh : Chan UDPPacket
  sender : Sender
  checkCloseChClosed : Bool
  connOpen : Bool
  reader : Reader
  readCh : Chan UDPPacket
  /-- What the other goroutine of `ForwardUserConn` is about to write. -/
  writer : Option (GoString × GoString)
  /-- The sessions of earlier connections. -/
  past : List Session.State
  current : Option Session.State
  /-- The datagrams that the users' socket has carried. -/
  fromUsers : List (GoString × GoString)
  toUsers : List (GoString × GoString)

def start : State where
  loop := .reading
  sendCh := .make 1024
  sender := .idle
  checkCloseChClosed := false
  connOpen := false
  reader := .returned
  readCh := .make 1024
  writer := none
  past := []
  current := none
  fromUsers := []
  toUsers := []

inductive Label where
  /-- `ReadFromUDP` returns: a datagram and its sender, or an error. -/
  | read (datagram : Option (GoString × GoString))
  /-- The `select` with the send on `sendCh`. -/
  | send
  /-- The sender, or a dispatcher without a connection, receives from `sendCh`. -/
  | take
  /-- The sender of an earlier connection receives; its write fails. -/
  | takeStale
  /-- `WriteMsg` returns. -/
  | write (err : Bool)
  /-- `GetWorkConnFromPool` or `getNewVisitorConn` returns. -/
  | connect (err : Bool)
  /-- The sender of a visitor receives from `closeCh`. -/
  | takeCloseCh
  /-- `worker` returns. -/
  | workerDone
  /-- The dispatcher receives from `checkCloseCh`. -/
  | takeCheckCloseCh
  /-- `ReadMsg` returns. -/
  | readMsg (err : Bool)
  /-- The send on `readCh`. -/
  | sendReadCh
  | takeReadCh
  /-- `WriteToUDP` returns. -/
  | reply (err : Bool)
  | past (k : Nat) (l : Session.Label)
  | current (l : Session.Label)
  | closeCheckCloseCh
  | closeConn
  | closeReadCh
  | closeSendCh
  deriving DecidableEq, Repr

namespace State

def sessions (s : State) : List Session.State := s.past ++ s.current.toList

/-- A new connection, with the sender at its beginning. -/
def renew (ends : Ends) (s : State) (sender : Sender) : State :=
  { s with
    past := s.past ++ s.current.toList
    current := some (Session.start ends.clientBufSize)
    connOpen := true
    reader := .reading
    sender := sender }

end State

def step (ends : Ends) (s : State) : Label → Option State
  | .read datagram =>
      if s.loop = .reading then
        match datagram with
        | some (buf, remoteAddr) =>
            some { s with
              loop := .holding (newUDPPacket (readFromUDP ends.bufSize buf) remoteAddr)
              fromUsers := s.fromUsers ++ [(remoteAddr, buf)] }
        | none => some { s with loop := .returned }
      else none
  | .send =>
      match s.loop with
      | .holding udpMsg =>
          match s.sendCh.send udpMsg with
          | .done c => some { s with sendCh := c, loop := .reading }
          | .blocks => some { s with loop := .reading }
          | .panics => none
      | _ => none
  | .take =>
      match s.sender, ends.owner with
      | .receiving, _ =>
          match s.sendCh.recv with
          | .done (some m, c) => some { s with sendCh := c, sender := .writing m }
          | .done (none, _) =>
              -- The deferred function of a visitor's sender closes the connection.
              some { s with
                sender := .returned
                connOpen := if ends.owner = .sudpVisitor then false else s.connOpen }
          | _ => none
      | .idle, .sudpVisitor =>
          match s.sendCh.recv with
          | .done (some m, c) => some { s with sendCh := c, sender := .connecting m }
          | .done (none, _) => some { s with sender := .ended }
          | _ => none
      | _, _ => none
  | .takeStale =>
      if ends.owner = .udpProxy ∧ s.past ≠ [] then
        match s.sendCh.recv with
        | .done (some _, c) => some { s with sendCh := c }
        | _ => none
      else none
  | .write err =>
      match s.sender with
      | .writing m =>
          if err then some { s with sender := .returned, connOpen := false }
          else if s.connOpen then
            some { s with
              sender := .receiving
              current := s.current.map fun x => { x with down := x.down ++ [m] } }
          else none
      | _ => none
  | .connect err =>
      match ends.owner with
      | .udpProxy =>
          if s.reader = .returned then
            if err then some s else some (s.renew ends .receiving)
          else none
      | .sudpVisitor =>
          match s.sender with
          | .connecting firstPacket =>
              if err then some { s with sender := .idle }
              else some (s.renew ends (.writing firstPacket))
          | _ => none
  | .takeCloseCh =>
      if ends.owner = .sudpVisitor ∧ s.sender = .receiving ∧ s.reader = .returned then
        some { s with sender := .returned, connOpen := false }
      else none
  | .workerDone =>
      if ends.owner = .sudpVisitor ∧ s.sender = .returned ∧ s.reader = .returned then
        some { s with sender := if s.checkCloseChClosed then .ended else .idle }
      else none
  | .takeCheckCloseCh =>
      if ends.owner = .sudpVisitor ∧ s.sender = .idle ∧ s.checkCloseChClosed then
        some { s with sender := .ended }
      else none
  | .readMsg err =>
      if s.reader = .reading then
        if err then some { s with reader := .returned, connOpen := false }
        else if s.connOpen then
          s.current.bind fun x =>
            match x.up with
            | .ping :: rest => some { s with current := some { x with up := rest } }
            | .udpPacket m :: rest =>
                some { s with current := some { x with up := rest }, reader := .sending m }
            | [] => none
        else none
      else none
  | .sendReadCh =>
      match s.reader with
      | .sending m =>
          match s.readCh.send m with
          | .done c => some { s with readCh := c, reader := .reading }
          | .blocks => none
          -- `PanicToError` recovers, and the connection is closed.
          | .panics => some { s with reader := .returned, connOpen := false }
      | _ => none
  | .takeReadCh =>
      if s.writer = none then
        match s.readCh.recv with
        | .done (some m, c) =>
            some { s with readCh := c, writer := (getContent m).map fun buf => (m.remoteAddr, buf) }
        | _ => none
      else none
  | .reply err =>
      s.writer.map fun datagram =>
        { s with
          writer := none
          toUsers := if err then s.toUsers else s.toUsers ++ [datagram] }
  | .past k l =>
      s.past[k]?.bind fun x => (Session.step x l).map fun y => { s with past := s.past.set k y }
  | .current l =>
      s.current.bind fun x => (Session.step x l).map fun y => { s with current := some y }
  | .closeCheckCloseCh => some { s with checkCloseChClosed := true }
  | .closeConn => some { s with connOpen := false }
  | .closeReadCh =>
      match s.readCh.close with
      | .done c => some { s with readCh := c }
      | _ => none
  | .closeSendCh =>
      match s.sendCh.close with
      | .done c => some { s with sendCh := c }
      | _ => none

/-! ## What the tunnel is for -/

/-- What the sockets of a session have carried. -/
def carried (x : Session.State) : List Datagram := x.toService ++ x.fromService

/-- What is read of a user's datagram. -/
def read (bufSize : Nat) (datagram : GoString × GoString) : GoString × GoString :=
  (datagram.1, readFromUDP bufSize datagram.2)

structure Transparent (ends : Ends) (s : State) : Prop where
  /-- Connection after connection, the service gets what was read from the users, in its
  order. -/
  requests : (s.sessions.flatMap fun x => x.toService.map Datagram.plain).Sublist
    (s.fromUsers.map (read ends.bufSize))
  /-- A socket to the service is one user's. -/
  one_user : ∀ x ∈ s.sessions, ∀ d ∈ carried x, ∀ e ∈ carried x,
    d.udpConn = e.udpConn → d.raddr = e.raddr
  /-- A user gets what was read from his sockets, in its order. -/
  answers : ∀ user, (ofUser user s.toUsers).Sublist
    (ofUser user (s.sessions.flatMap fun x =>
      x.fromService.map (Datagram.read ends.clientBufSize)))

/-! ## What is under way -/

def Sender.hand : Sender → List UDPPacket
  | .connecting m | .writing m => [m]
  | .idle | .receiving | .returned | .ended => []

def loopHand : Loop → List UDPPacket
  | .holding m => [m]
  | .reading | .returned => []

namespace State

/-- The packets that no connection has got yet. -/
def waiting (s : State) : List UDPPacket := s.sender.hand ++ s.sendCh.buf ++ loopHand s.loop

def requests (s : State) : List (GoString × GoString) :=
  s.sessions.flatMap Session.State.requests ++ s.waiting.map decoded

/-- The datagrams that have come over the connections, the ones that were written first. -/
def arrived (s : State) : List (GoString × GoString) :=
  s.toUsers ++ s.writer.toList ++ (s.readCh.buf ++ s.reader.hand).map decoded

/-- The datagrams for the user; those of earlier sessions are lost. -/
def answers (user : GoString) (s : State) : List (GoString × GoString) :=
  ofUser user s.arrived ++ s.current.elim [] (Session.State.answers user)

/-- What was read from the service, connection after connection. -/
def fromService (ends : Ends) (s : State) : List (GoString × GoString) :=
  s.sessions.flatMap fun x => x.fromService.map (Datagram.read ends.clientBufSize)

end State

/-- The invariant of a session of the tunnel. -/
def SessionInv (ends : Ends) (x : Session.State) : Prop :=
  Session.Inv x ∧ x.forwarder.bufSize = ends.clientBufSize

structure Inv (ends : Ends) (s : State) : Prop where
  sessions : ∀ x ∈ s.sessions, SessionInv ends x
  requests : s.requests.Sublist (s.fromUsers.map (read ends.bufSize))
  answers : ∀ user, (s.answers user).Sublist (ofUser user (s.fromService ends))

theorem start_inv (ends : Ends) : Inv ends start where
  sessions x inside := by cases inside
  requests := List.Sublist.refl _
  answers user := List.Sublist.refl _

theorem Inv.toTransparent {ends : Ends} {s : State} (inv : Inv ends s) : Transparent ends s where
  requests := by
    refine List.Sublist.trans ?_ inv.requests
    refine List.Sublist.trans ?_ (List.sublist_append_left _ _)
    apply List.Sublist.flatMap_right
    intro x _
    rw [Session.State.requests, List.append_assoc]
    exact List.sublist_append_left _ _
  one_user x inside d first e second same := (inv.sessions x inside).1.one_user first second same
  answers user := by
    refine List.Sublist.trans ?_ (inv.answers user)
    unfold State.answers State.arrived ofUser
    rw [List.filter_append, List.filter_append, List.append_assoc, List.append_assoc]
    exact List.sublist_append_left _ _

section Steps

variable {ends : Ends} {s t : State}

attribute [local simp] step

/-- A step at the users' end that leaves the sessions. -/
theorem Inv.front (inv : Inv ends s) (past : t.past = s.past) (current : t.current = s.current)
    (fromUsers : t.fromUsers = s.fromUsers) (waiting : t.waiting.Sublist s.waiting)
    (arrived : t.arrived.Sublist s.arrived) : Inv ends t := by
  have sessions : t.sessions = s.sessions := by
    rw [State.sessions, past, current, State.sessions]
  refine ⟨sessions ▸ inv.sessions, ?_, fun user => ?_⟩
  · rw [fromUsers]
    refine List.Sublist.trans ?_ inv.requests
    rw [State.requests, sessions, State.requests]
    exact (waiting.map decoded).append_left _
  · have fromService : t.fromService ends = s.fromService ends := by
      rw [State.fromService, sessions, State.fromService]
    rw [fromService]
    refine List.Sublist.trans ?_ (inv.answers user)
    rw [State.answers, current, State.answers]
    exact (arrived.filter _).append_right _

/-- A new connection: what is left of the current one is lost on its way back. -/
theorem Inv.renew (inv : Inv ends s) {sender : Sender} (less : sender.hand.Sublist s.sender.hand) :
    Inv ends (s.renew ends sender) where
  sessions x inside := by
    rcases List.mem_append.1 inside with old | new
    · exact inv.sessions x old
    · rw [List.mem_singleton.1 (show x ∈ [Session.start ends.clientBufSize] from new)]
      exact ⟨Session.start_inv _, rfl⟩
  requests := by
    refine List.Sublist.trans ?_ inv.requests
    have same : (s.renew ends sender).sessions.flatMap Session.State.requests =
        s.sessions.flatMap Session.State.requests := by
      unfold State.renew State.sessions
      rw [List.flatMap_append]
      exact List.append_nil _
    rw [State.requests, same, State.requests]
    exact (((less.append_right _).append_right _).map decoded).append_left _
  answers user := by
    have same : (s.renew ends sender).fromService ends = s.fromService ends := by
      unfold State.fromService State.renew State.sessions
      rw [List.flatMap_append]
      exact List.append_nil _
    rw [same]
    refine List.Sublist.trans ?_ (inv.answers user)
    have arrived : (s.renew ends sender).arrived.Sublist s.arrived := by
      refine List.Sublist.append_left (List.Sublist.map decoded ?_) _
      exact (List.nil_sublist _).append_left _
    exact (arrived.filter _).append (List.nil_sublist _)

/-- A step of an earlier session, whose answers nobody reads any more. -/
theorem Inv.past (inv : Inv ends s) {k : Nat} {x y : Session.State} {l : Session.Label}
    (there : s.past[k]? = some x) (next : Session.step x l = some y) :
    Inv ends { s with past := s.past.set k y } := by
  obtain ⟨inv_x, size⟩ := inv.sessions x (List.mem_append_left _ (List.mem_of_getElem? there))
  obtain ⟨requests, new, fromService, -⟩ := Session.step_conveys inv_x next
  constructor
  · intro z inside
    rcases List.mem_append.1 inside with old | new
    · rcases List.mem_or_eq_of_mem_set old with old | rfl
      · exact inv.sessions z (List.mem_append_left _ old)
      · exact ⟨inv_x.step next, (Session.step_bufSize next).trans size⟩
    · exact inv.sessions z (List.mem_append_right _ new)
  · refine List.Sublist.trans ?_ inv.requests
    simp only [State.requests, State.sessions, List.flatMap_append]
    exact ((Slots.flatMap_set_sublist there requests).append_right _).append_right _
  · intro user
    refine (inv.answers user).trans (List.Sublist.filter _ ?_)
    simp only [State.fromService, State.sessions, List.flatMap_append]
    refine List.Sublist.append_right (Slots.sublist_flatMap_set there ?_) _
    rw [fromService, List.map_append]
    exact List.sublist_append_left _ _

theorem Inv.current (inv : Inv ends s) {x y : Session.State} {l : Session.Label}
    (there : s.current = some x) (next : Session.step x l = some y) :
    Inv ends { s with current := some y } := by
  have inside_x : x ∈ s.sessions := by
    rw [State.sessions, there]
    exact List.mem_append_right _ List.mem_cons_self
  obtain ⟨inv_x, size⟩ := inv.sessions x inside_x
  obtain ⟨requests, new, fromService, answers⟩ := Session.step_conveys inv_x next
  constructor
  · intro z inside
    rcases List.mem_append.1 inside with old | last
    · exact inv.sessions z (List.mem_append_left _ old)
    · rw [List.mem_singleton.1 (show z ∈ [y] from last)]
      exact ⟨inv_x.step next, (Session.step_bufSize next).trans size⟩
  · refine List.Sublist.trans ?_ inv.requests
    simp only [State.requests, State.sessions, there, List.flatMap_append, Option.toList_some,
      List.flatMap_singleton]
    exact (requests.append_left _).append_right _
  · intro user
    have before : s.fromService ends =
        s.past.flatMap (fun z => z.fromService.map (Datagram.read ends.clientBufSize)) ++
          x.fromService.map (Datagram.read ends.clientBufSize) := by
      simp only [State.fromService, State.sessions, there, List.flatMap_append,
        Option.toList_some, List.flatMap_singleton]
    have after : State.fromService ends { s with current := some y } =
        s.fromService ends ++ new.map (Datagram.read ends.clientBufSize) := by
      rw [before]
      simp only [State.fromService, State.sessions, List.flatMap_append, Option.toList_some,
        List.flatMap_singleton, fromService, List.map_append, List.append_assoc]
    have own : ofUser user
          (s.fromService ends ++ new.map (Datagram.read ends.clientBufSize)) =
        ofUser user (s.fromService ends) ++
          ofUser user (new.map (Datagram.read ends.clientBufSize)) := List.filter_append ..
    rw [size] at answers
    rw [after, own]
    refine List.Sublist.trans ?_ ((inv.answers user).append_right _)
    simp only [State.answers, there, Option.elim_some, List.append_assoc]
    exact (answers user).append_left _

/-- A step at the users' end that takes from the current connection or writes to it. -/
theorem Inv.exchange (inv : Inv ends s) {x y : Session.State} (there : s.current = some x)
    (past : t.past = s.past) (current : t.current = some y) (inv_y : SessionInv ends y)
    (fromService : y.fromService = x.fromService) (fromUsers : t.fromUsers = s.fromUsers)
    (requests : (y.requests ++ t.waiting.map decoded).Sublist
      (x.requests ++ s.waiting.map decoded))
    (answers : ∀ user, (ofUser user t.arrived ++ y.answers user).Sublist
      (ofUser user s.arrived ++ x.answers user)) : Inv ends t where
  sessions := by
    intro z inside
    rw [State.sessions, past, current] at inside
    rcases List.mem_append.1 inside with old | last
    · exact inv.sessions z (List.mem_append_left _ old)
    · rw [List.mem_singleton.1 (show z ∈ [y] from last)]
      exact inv_y
  requests := by
    rw [fromUsers]
    refine List.Sublist.trans ?_ inv.requests
    simp only [State.requests, State.sessions, past, current, there, List.flatMap_append,
      Option.toList_some, List.flatMap_singleton, List.append_assoc]
    exact requests.append_left _
  answers := by
    intro user
    have same : t.fromService ends = s.fromService ends := by
      simp only [State.fromService, State.sessions, past, current, there, List.flatMap_append,
        Option.toList_some, List.flatMap_singleton, fromService]
    rw [same]
    refine List.Sublist.trans ?_ (inv.answers user)
    simp only [State.answers, current, there, Option.elim_some]
    exact answers user

theorem Inv.current_inv (inv : Inv ends s) {x : Session.State} (there : s.current = some x) :
    SessionInv ends x := by
  apply inv.sessions
  rw [State.sessions, there]
  exact List.mem_append_right _ List.mem_cons_self

/-- The sender has written to the connection. -/
theorem Inv.write (inv : Inv ends s) {m : UDPPacket} (writing : s.sender = .writing m) :
    Inv ends { s with
      sender := .receiving
      current := s.current.map fun x => { x with down := x.down ++ [m] } } := by
  cases there : s.current with
  | none =>
      refine inv.front rfl there.symm rfl ?_ (List.Sublist.refl _)
      simp only [State.waiting, writing, Sender.hand]
      exact List.sublist_append_right [m] _
  | some x =>
      obtain ⟨inv_x, size⟩ := inv.current_inv there
      refine inv.exchange there rfl rfl
        ⟨⟨inv_x.forwarder, inv_x.target, inv_x.packet, inv_x.served⟩, size⟩ rfl rfl ?_ ?_
      · simp [State.waiting, writing, Sender.hand, Session.State.requests]
      · exact fun user => List.Sublist.refl _

/-- The reader takes a message from the connection. -/
theorem Inv.readMsg (inv : Inv ends s) {x : Session.State} {m : Msg} {rest : List Msg}
    (there : s.current = some x) (up : x.up = m :: rest) (reading : s.reader = .reading)
    {reader : Reader} (taken : reader.hand.map decoded = (Msg.datagram m).toList) :
    Inv ends { s with current := some { x with up := rest }, reader := reader } := by
  obtain ⟨inv_x, size⟩ := inv.current_inv there
  refine inv.exchange there rfl rfl
    ⟨⟨inv_x.forwarder, inv_x.target, inv_x.packet, inv_x.served⟩, size⟩ rfl rfl
    (List.Sublist.refl _) ?_
  intro user
  have hand : s.reader.hand = [] := by rw [reading]; rfl
  simp only [State.arrived, Session.State.answers, hand, up, List.map_append, taken]
  cases m with
  | ping => simp [ofUser, Msg.datagram, List.filterMap_cons]
  | udpPacket m =>
      by_cases own : (decoded m).1 = user
      all_goals simp [ofUser, Msg.datagram, own]

theorem inv_read (inv : Inv ends s) {datagram : Option (GoString × GoString)}
    (next : step ends s (.read datagram) = some t) : Inv ends t := by
  simp only [step] at next
  split at next
  · rename_i reading
    split at next
    · rename_i buf remoteAddr
      cases next
      refine ⟨inv.sessions, ?_, inv.answers⟩
      rw [List.map_append]
      refine List.Sublist.trans ?_ (inv.requests.append_right _)
      simp [State.requests, State.sessions, State.waiting, reading, loopHand, read]
    · cases next
      refine inv.front rfl rfl rfl ?_ (List.Sublist.refl _)
      rw [State.waiting, State.waiting, reading]
      exact List.Sublist.refl _
  · cases next

theorem inv_send (inv : Inv ends s) (next : step ends s .send = some t) : Inv ends t := by
  simp only [step] at next
  split at next
  · rename_i m holding
    split at next
    · rename_i c sent
      cases next
      obtain ⟨-, -, rfl⟩ := Chan.send_eq_done_iff.1 sent
      refine inv.front rfl rfl rfl ?_ (List.Sublist.refl _)
      simp [State.waiting, holding, loopHand]
    · cases next
      refine inv.front rfl rfl rfl ?_ (List.Sublist.refl _)
      simp [State.waiting, holding, loopHand]
    · cases next
  · cases next

theorem inv_take (inv : Inv ends s) (next : step ends s .take = some t) : Inv ends t := by
  simp only [step] at next
  split at next
  · rename_i receiving
    split at next
    · rename_i m c recv
      cases next
      obtain ⟨rest, buf, rfl⟩ := Chan.recv_eq_some_iff.1 recv
      refine inv.front rfl rfl rfl ?_ (List.Sublist.refl _)
      simp [State.waiting, receiving, buf, Sender.hand]
    · cases next
      refine inv.front rfl rfl rfl ?_ (List.Sublist.refl _)
      simp [State.waiting, receiving, Sender.hand]
    · cases next
  · split at next
    · rename_i m c recv
      cases next
      obtain ⟨rest, buf, rfl⟩ := Chan.recv_eq_some_iff.1 recv
      refine inv.front rfl rfl rfl ?_ (List.Sublist.refl _)
      simp [State.waiting, buf, Sender.hand]
    · cases next
      refine inv.front rfl rfl rfl ?_ (List.Sublist.refl _)
      simp [State.waiting, Sender.hand]
    · cases next
  · cases next

theorem inv_takeStale (inv : Inv ends s) (next : step ends s .takeStale = some t) : Inv ends t := by
  simp only [step] at next
  split at next
  · split at next
    · rename_i m c recv
      cases next
      obtain ⟨rest, buf, rfl⟩ := Chan.recv_eq_some_iff.1 recv
      refine inv.front rfl rfl rfl ?_ (List.Sublist.refl _)
      simp only [State.waiting, buf]
      exact ((List.sublist_cons_self _ _).append_left _).append_right _
    · cases next
  · cases next

theorem inv_write (inv : Inv ends s) {err : Bool}
    (next : step ends s (.write err) = some t) : Inv ends t := by
  simp only [step] at next
  split at next
  · rename_i m writing
    split at next
    · cases next
      refine inv.front rfl rfl rfl ?_ (List.Sublist.refl _)
      simp [State.waiting, writing, Sender.hand]
    · split at next
      · cases next
        exact inv.write writing
      · cases next
  · cases next

theorem inv_connect (inv : Inv ends s) {err : Bool}
    (next : step ends s (.connect err) = some t) : Inv ends t := by
  simp only [step] at next
  split at next
  · split at next
    · split at next
      · cases next
        exact inv
      · cases next
        exact inv.renew (List.nil_sublist _)
    · cases next
  · split at next
    · rename_i m connecting
      split at next
      · cases next
        refine inv.front rfl rfl rfl ?_ (List.Sublist.refl _)
        simp [State.waiting, connecting, Sender.hand]
      · cases next
        apply inv.renew
        rw [connecting]
        exact List.Sublist.refl _
    · cases next

theorem inv_workerDone (inv : Inv ends s) (next : step ends s .workerDone = some t) :
    Inv ends t := by
  simp only [step] at next
  split at next
  · rename_i is
    cases next
    refine inv.front rfl rfl rfl ?_ (List.Sublist.refl _)
    have none_ : (if s.checkCloseChClosed then Sender.ended else .idle).hand = [] := by
      split <;> rfl
    have before : s.sender.hand = [] := by
      rw [is.2.1]
      rfl
    simp [State.waiting, none_, before]
  · cases next

theorem inv_readMsg (inv : Inv ends s) {err : Bool}
    (next : step ends s (.readMsg err) = some t) : Inv ends t := by
  simp only [step] at next
  split at next
  · rename_i reading
    split at next
    · cases next
      refine inv.front rfl rfl rfl (List.Sublist.refl _) ?_
      simp [State.arrived, reading, Session.Reader.hand]
    · split at next
      · obtain ⟨x, there, next⟩ := Option.bind_eq_some_iff.1 next
        split at next
        · rename_i rest up
          cases next
          exact inv.readMsg there up reading (by rw [reading]; rfl)
        · rename_i m rest up
          cases next
          exact inv.readMsg there up reading rfl
        · cases next
      · cases next
  · cases next

theorem inv_sendReadCh (inv : Inv ends s) (next : step ends s .sendReadCh = some t) :
    Inv ends t := by
  simp only [step] at next
  split at next
  · rename_i m sending
    split at next
    · rename_i c sent
      cases next
      obtain ⟨-, -, rfl⟩ := Chan.send_eq_done_iff.1 sent
      refine inv.front rfl rfl rfl (List.Sublist.refl _) ?_
      simp [State.arrived, sending, Session.Reader.hand]
    · cases next
    · cases next
      refine inv.front rfl rfl rfl (List.Sublist.refl _) ?_
      simp [State.arrived, sending, Session.Reader.hand]
  · cases next

theorem inv_takeReadCh (inv : Inv ends s) (next : step ends s .takeReadCh = some t) :
    Inv ends t := by
  simp only [step] at next
  split at next
  · rename_i idle
    split at next
    · rename_i m c recv
      cases next
      obtain ⟨rest, buf, rfl⟩ := Chan.recv_eq_some_iff.1 recv
      refine inv.front rfl rfl rfl (List.Sublist.refl _) ?_
      cases content : getContent m <;> simp [State.arrived, idle, buf, decoded, content]
    · cases next
  · cases next

theorem step_inv (inv : Inv ends s) {l : Label} (next : step ends s l = some t) : Inv ends t := by
  cases l with
  | read datagram => exact inv_read inv next
  | send => exact inv_send inv next
  | take => exact inv_take inv next
  | takeStale => exact inv_takeStale inv next
  | write err => exact inv_write inv next
  | connect err => exact inv_connect inv next
  | takeCloseCh =>
      simp only [step] at next
      split at next
      · rename_i is
        cases next
        refine inv.front rfl rfl rfl ?_ (List.Sublist.refl _)
        simp [State.waiting, is.2.1, Sender.hand]
      · cases next
  | workerDone => exact inv_workerDone inv next
  | takeCheckCloseCh =>
      simp only [step] at next
      split at next
      · rename_i is
        cases next
        refine inv.front rfl rfl rfl ?_ (List.Sublist.refl _)
        simp [State.waiting, is.2.1, Sender.hand]
      · cases next
  | readMsg err => exact inv_readMsg inv next
  | sendReadCh => exact inv_sendReadCh inv next
  | takeReadCh => exact inv_takeReadCh inv next
  | reply err =>
      obtain ⟨d, writing, rfl⟩ := Option.map_eq_some_iff.1 next
      refine inv.front rfl rfl rfl (List.Sublist.refl _) ?_
      cases err <;> simp [State.arrived, writing]
  | past k l =>
      obtain ⟨x, there, next⟩ := Option.bind_eq_some_iff.1 next
      obtain ⟨y, first, rfl⟩ := Option.map_eq_some_iff.1 next
      exact inv.past there first
  | current l =>
      obtain ⟨x, there, next⟩ := Option.bind_eq_some_iff.1 next
      obtain ⟨y, first, rfl⟩ := Option.map_eq_some_iff.1 next
      exact inv.current there first
  | closeCheckCloseCh | closeConn =>
      cases next
      exact inv.front rfl rfl rfl (List.Sublist.refl _) (List.Sublist.refl _)
  | closeReadCh =>
      simp only [step] at next
      split at next
      · rename_i c closed
        cases next
        obtain ⟨-, rfl⟩ := Chan.close_eq_done_iff.1 closed
        exact inv.front rfl rfl rfl (List.Sublist.refl _) (List.Sublist.refl _)
      · cases next
  | closeSendCh =>
      simp only [step] at next
      split at next
      · rename_i c closed
        cases next
        obtain ⟨-, rfl⟩ := Chan.close_eq_done_iff.1 closed
        exact inv.front rfl rfl rfl (List.Sublist.refl _) (List.Sublist.refl _)
      · cases next

end Steps

/-- **In every run of a tunnel the datagrams arrive as they were read, and at most once.** -/
theorem transparent {ends : Ends} {s : State} (reached : Reachable (step ends) start s) :
    Transparent ends s :=
  (reached.invariant (fun _ _ _ inv next => step_inv inv next) (start_inv ends)).toTransparent

/-- One user's datagram goes to the service, whose answer comes back. -/
def roundTrip (user request answer : GoString) : List Label :=
  [.connect false, .read (some (request, user)), .send, .take, .write false,
    .current (.readMsg false), .current .sendReadCh,
    .current (.forwarder (.receive (newUDPPacket request user) true)),
    .current (.forwarder (.write false)), .current (.forwarder .go),
    .current (.forwarder (.read 0 (some answer))), .current (.forwarder (.send 0 false)),
    .current .takeSendCh, .current (.writeMsg false),
    .readMsg false, .sendReadCh, .takeReadCh, .reply false]

/-- The answer is longer than the buffer of the client. -/
theorem transparent_round_trip : ∃ s,
    exec (step ⟨.udpProxy, 1500, 2⟩) start (roundTrip [1] [2, 3] [4, 5, 6]) = some s ∧
      s.fromUsers = [([1], [2, 3])] ∧ s.toUsers = [([1], [4, 5])] ∧
      Transparent ⟨.udpProxy, 1500, 2⟩ s :=
  ⟨_, rfl, rfl, rfl, @transparent ⟨.udpProxy, 1500, 2⟩ _
    ⟨roundTrip [1] [2, 3] [4, 5, 6], rfl⟩⟩

end ChmlFrp.Udp.Tunnel
