/-
# ChmlFrp.Udp.Session — the service's end of a udp work connection

What `InWorkConn` of `client/proxy/udp.go` and of `client/proxy/sudp.go` starts for one work
connection: `workConnReaderFn`, `workConnSenderFn` and `heartbeatFn` with their two channels,
and `Forwarder` between the channels and the sockets to the local service.  The connection
and the two channels may be closed at any time, in any order.

A session also keeps what its sockets have carried, `toService` and `fromService`.

* `Conveys`: what a step does to the datagrams under way.  Those for the service are passed
  on in their order, or lost; those from the service are passed on in the order of each user.
* `Inv.served`: what a socket has carried, in either direction, belongs to one user.
-/
import ChmlFrp.Udp.Forwarder

namespace ChmlFrp.Udp.Session

set_option autoImplicit false

open ChmlFrp.Lib
open ChmlFrp.Lib.Transition
open Forwarder (Goroutine getContent readFromUDP)

/-! ## The goroutines -/

/-- A message to the other end of the connection. -/
inductive Msg where
  | ping
  | udpPacket (m : UDPPacket)
  deriving DecidableEq, Repr

/-- Where `workConnReaderFn` is. -/
inductive Reader where
  | reading
  | sending (udpMsg : UDPPacket)
  | returned
  deriving DecidableEq, Repr

/-- Where `workConnSenderFn` is. -/
inductive Sender where
  | receiving
  | writing (rawMsg : Msg)
  | returned
  deriving DecidableEq, Repr

/-- What a socket has carried: a datagram of the user, or one for him. -/
structure Datagram where
  udpConn : Nat
  raddr : GoString
  buf : GoString
  deriving DecidableEq, Repr

structure State where
  /-- Written at the other end and not read yet. -/
  down : List UDPPacket
  /-- Written here and not read yet. -/
  up : List Msg
  connOpen : Bool
  reader : Reader
  readCh : Chan UDPPacket
  forwarder : Forwarder.State
  sendCh : Chan Msg
  sender : Sender
  toService : List Datagram
  fromService : List Datagram

def start (bufSize : Nat) : State where
  down := []
  up := []
  connOpen := true
  reader := .reading
  readCh := .make 1024
  forwarder := Forwarder.start bufSize
  sendCh := .make 1024
  sender := .receiving
  toService := []
  fromService := []

inductive Label where
  /-- `ReadMsgInto` returns: the next packet, or an error. -/
  | readMsg (err : Bool)
  /-- The send on `readCh`. -/
  | sendReadCh
  | forwarder (l : Forwarder.Label)
  /-- The ticker of `heartbeatFn`. -/
  | tick
  | takeSendCh
  /-- `WriteMsg` returns. -/
  | writeMsg (err : Bool)
  | closeConn
  | closeReadCh
  | closeSendCh
  deriving DecidableEq, Repr

namespace State

/-- What the write of the loop brings to the service. -/
def carried (f : Forwarder.State) (err : Bool) : List Datagram :=
  match f.loop, err with
  | .writing raddr udpConn _ buf, false => [⟨udpConn, raddr, buf⟩]
  | _, _ => []

/-- What the service has sent to the socket that a goroutine of the forwarder reads. -/
def answered (f : Forwarder.State) (g : Nat) (datagram : Option GoString) : List Datagram :=
  match f.goroutines[g]?, datagram with
  | some gr, some buf => [⟨gr.udpConn, gr.raddr, buf⟩]
  | _, _ => []

/-- A step of `Forwarder`, with what it does at the channels. -/
def forward (s : State) : Forwarder.Label → Option State
  | .receive udpMsg dial =>
      match s.readCh.recv with
      | .done (some m, c) =>
          if m = udpMsg then
            (Forwarder.step s.forwarder (.receive udpMsg dial)).map fun f =>
              { s with forwarder := f, readCh := c }
          else none
      | _ => none
  | .readChClosed =>
      match s.readCh.recv with
      | .done (none, _) =>
          (Forwarder.step s.forwarder .readChClosed).map fun f => { s with forwarder := f }
      | _ => none
  | .write err =>
      (Forwarder.step s.forwarder (.write err)).map fun f =>
        { s with forwarder := f, toService := s.toService ++ carried s.forwarder err }
  | .read g datagram =>
      (Forwarder.step s.forwarder (.read g datagram)).map fun f =>
        { s with
          forwarder := f
          fromService := s.fromService ++ answered s.forwarder g datagram }
  | .send g err =>
      s.forwarder.goroutines[g]?.bind fun gr =>
        match gr.writer with
        | .sending udpMsg =>
            match s.sendCh.send (.udpPacket udpMsg) with
            | .done c =>
                if err then none
                else (Forwarder.step s.forwarder (.send g false)).map fun f =>
                  { s with forwarder := f, sendCh := c }
            -- The `default` of the `select`.
            | .blocks =>
                if err then none
                else (Forwarder.step s.forwarder (.send g false)).map fun f =>
                  { s with forwarder := f }
            | .panics =>
                if err then
                  (Forwarder.step s.forwarder (.send g true)).map fun f =>
                    { s with forwarder := f }
                else none
        | _ => none
  | .close => (Forwarder.step s.forwarder .close).map fun f => { s with forwarder := f }
  | .go => (Forwarder.step s.forwarder .go).map fun f => { s with forwarder := f }
  | .delete g => (Forwarder.step s.forwarder (.delete g)).map fun f => { s with forwarder := f }
  | .closeConn g =>
      (Forwarder.step s.forwarder (.closeConn g)).map fun f => { s with forwarder := f }

end State

def step (s : State) : Label → Option State
  | .readMsg err =>
      if s.reader = .reading then
        if err then some { s with reader := .returned }
        else
          match s.down with
          | m :: rest =>
              if s.connOpen then some { s with down := rest, reader := .sending m } else none
          | [] => none
      else none
  | .sendReadCh =>
      match s.reader with
      | .sending m =>
          match s.readCh.send m with
          | .done c => some { s with readCh := c, reader := .reading }
          | .blocks => none
          -- `PanicToError` recovers.
          | .panics => some { s with reader := .returned }
      | _ => none
  | .forwarder l => s.forward l
  | .tick =>
      match s.sendCh.send .ping with
      | .done c => some { s with sendCh := c }
      | .blocks => none
      | .panics => some s
  | .takeSendCh =>
      if s.sender = .receiving then
        match s.sendCh.recv with
        | .done (some m, c) => some { s with sendCh := c, sender := .writing m }
        | .done (none, _) => some { s with sender := .returned }
        | _ => none
      else none
  | .writeMsg err =>
      match s.sender with
      | .writing m =>
          if err then some { s with sender := .returned }
          else if s.connOpen then some { s with up := s.up ++ [m], sender := .receiving }
          else none
      | _ => none
  | .closeConn => some { s with connOpen := false }
  | .closeReadCh =>
      match s.readCh.close with
      | .done c => some { s with readCh := c }
      | _ => none
  | .closeSendCh =>
      match s.sendCh.close with
      | .done c => some { s with sendCh := c }
      | _ => none

/-! ## What is under way -/

/-- The user of a packet and its bytes. -/
def decoded (m : UDPPacket) : GoString × GoString := (m.remoteAddr, (getContent m).getD [])

@[simp] theorem decoded_newUDPPacket (buf raddr : GoString) :
    decoded (newUDPPacket buf raddr) = (raddr, buf) := by
  unfold decoded getContent newUDPPacket
  rw [Base64.decode_encode]
  rfl

def Datagram.plain (d : Datagram) : GoString × GoString := (d.raddr, d.buf)

/-- What is read of a datagram. -/
def Datagram.read (bufSize : Nat) (d : Datagram) : GoString × GoString :=
  (d.raddr, readFromUDP bufSize d.buf)

def Msg.datagram : Msg → Option (GoString × GoString)
  | .ping => none
  | .udpPacket m => some (decoded m)

def Reader.hand : Reader → List UDPPacket
  | .sending m => [m]
  | .reading | .returned => []

def Sender.hand : Sender → List Msg
  | .writing m => [m]
  | .receiving | .returned => []

/-- What the loop of the forwarder is about to write. -/
def loopHand : Forwarder.Loop → List (GoString × GoString)
  | .writing raddr _ _ buf => [(raddr, buf)]
  | .receiving | .closing .. | .starting .. | .returned => []

/-- What a goroutine of the forwarder is about to send for the user. -/
def held (user : GoString) (gr : Goroutine) : Option (GoString × GoString) :=
  match gr.writer with
  | .sending m => if gr.raddr = user then some (decoded m) else none
  | .reading | .returning | .deleted | .exited => none

def ofUser (user : GoString) (datagrams : List (GoString × GoString)) :
    List (GoString × GoString) :=
  datagrams.filter fun d => d.1 = user

namespace State

/-- The datagrams for the service, the ones that have got there first. -/
def requests (s : State) : List (GoString × GoString) :=
  s.toService.map Datagram.plain ++ loopHand s.forwarder.loop ++
    (s.readCh.buf ++ s.reader.hand ++ s.down).map decoded

/-- The datagrams for the user, the first of them first. -/
def answers (user : GoString) (s : State) : List (GoString × GoString) :=
  ofUser user ((s.up ++ s.sender.hand ++ s.sendCh.buf).filterMap Msg.datagram) ++
    s.forwarder.goroutines.filterMap (held user)

end State

/-- What a step does to the datagrams under way. -/
structure Conveys (s t : State) : Prop where
  requests : t.requests.Sublist s.requests
  answers : ∃ new, t.fromService = s.fromService ++ new ∧
    ∀ user, (t.answers user).Sublist
      (s.answers user ++ ofUser user (new.map (Datagram.read s.forwarder.bufSize)))

/-! ## Whose a socket is -/

/-- The socket was dialled for the user. -/
def Serves (f : Forwarder.State) (c : Nat) (raddr : GoString) : Prop :=
  (∃ g gr, f.Runs g gr ∧ gr.udpConn = c ∧ gr.raddr = raddr) ∨ f.loop.fresh = some (raddr, c)

structure Inv (s : State) : Prop where
  forwarder : Forwarder.Inv s.forwarder
  /-- The loop writes to a socket of the packet's user. -/
  target : ∀ raddr c ok buf, s.forwarder.loop = .writing raddr c ok buf →
    Serves s.forwarder c raddr
  /-- A goroutine sends packets of its own user. -/
  packet : ∀ g gr m, s.forwarder.Runs g gr → gr.writer = .sending m → m.remoteAddr = gr.raddr
  served : ∀ d ∈ s.toService ++ s.fromService, Serves s.forwarder d.udpConn d.raddr

theorem start_inv (bufSize : Nat) : Inv (start bufSize) where
  forwarder := Forwarder.start_inv bufSize
  target raddr c ok buf loop := by cases loop
  packet g gr m runs := by cases runs
  served d inside := by cases inside

section Forwarding

variable {f f' : Forwarder.State} {l : Forwarder.Label}

theorem Serves.unique (inv : Forwarder.Inv f) {c : Nat} {raddr raddr' : GoString}
    (serves : Serves f c raddr) (serves' : Serves f c raddr') : raddr = raddr' := by
  rcases serves with ⟨g, gr, runs, conn, rfl⟩ | fresh
  · rcases serves' with ⟨g', gr', runs', conn', rfl⟩ | fresh'
    · obtain rfl := inv.distinct g g' gr gr' runs runs' (conn.trans conn'.symm)
      cases Option.some.inj (runs.symm.trans runs')
      rfl
    · exact absurd conn ((inv.fresh raddr' c fresh').2.2 g gr runs)
  · rcases serves' with ⟨g', gr', runs', conn', rfl⟩ | fresh'
    · exact absurd conn' ((inv.fresh raddr c fresh).2.2 g' gr' runs')
    · cases fresh.symm.trans fresh'
      rfl

/-- A socket stays its user's. -/
theorem Serves.moves (moves : Forwarder.Moves f l f') {c : Nat} {raddr : GoString}
    (serves : Serves f c raddr) : Serves f' c raddr := by
  rcases serves with ⟨g, gr, runs, conn, user⟩ | fresh
  · have kept : ∀ {h : Nat} {old : Goroutine} (runs' : f.Runs h old) (writer : Forwarder.Writer),
        ∃ g new, (f.setWriter h old writer).Runs g new ∧ new.udpConn = c ∧ new.raddr = raddr := by
      intro h old runs' writer
      obtain ⟨new, at_g, user', conn'⟩ := Forwarder.setWriter_of_runs runs' writer runs
      exact ⟨g, new, at_g, conn'.trans conn, user'.trans user⟩
    left
    cases moves with
    | stay | loop | dial => exact ⟨g, gr, runs, conn, user⟩
    | go => exact ⟨g, gr, Slots.append_old runs, conn, user⟩
    | advance _ runs' | delete runs' | closeConn _ runs' => exact kept runs' _
  · cases moves with
    | stay | advance | delete | closeConn => exact .inr fresh
    | loop _ same => exact .inr (same.trans fresh)
    | dial _ buf idle =>
        rw [idle] at fresh
        cases fresh
    | go _ new =>
        cases new.symm.trans fresh
        exact .inl ⟨_, _, List.getElem?_concat_length, rfl, rfl⟩

/-! ## The steps of the forwarder -/

theorem receive_spec {m : UDPPacket} {dial : Bool}
    (next : Forwarder.step f (.receive m dial) = some f') :
    f.loop = .receiving ∧ f'.goroutines = f.goroutines ∧
      (f'.loop = .receiving ∨ ∃ c ok buf, getContent m = some buf ∧
        f'.loop = .writing m.remoteAddr c ok buf ∧ f'.udpConnMap.get m.remoteAddr = some c) := by
  simp only [Forwarder.step] at next
  split at next
  · rename_i receiving
    refine ⟨receiving, ?_⟩
    split at next
    · cases next
      exact ⟨rfl, .inl receiving⟩
    · rename_i buf content
      split at next
      · rename_i c found
        cases next
        exact ⟨rfl, .inr ⟨c, true, buf, content, rfl, found⟩⟩
      · split at next
        · cases next
          refine ⟨rfl, .inr ⟨_, false, buf, content, rfl, ?_⟩⟩
          exact GoMap.get_set_eq_some.2 (.inl ⟨rfl, rfl⟩)
        · cases next
          exact ⟨rfl, .inl receiving⟩
  · cases next

@[simp] theorem loopHand_written (raddr : GoString) (c : Nat) (ok : Bool) :
    loopHand (f.written raddr c ok).loop = [] := by cases ok <;> rfl

theorem write_spec {err : Bool} (next : Forwarder.step f (.write err) = some f') :
    ∃ raddr c ok buf, f.loop = .writing raddr c ok buf ∧ f'.goroutines = f.goroutines ∧
      loopHand f'.loop = [] := by
  simp only [Forwarder.step] at next
  split at next
  · rename_i raddr c ok buf loop
    refine ⟨raddr, c, ok, buf, loop, ?_⟩
    split at next
    · cases next
      exact ⟨rfl, rfl⟩
    · split at next
      · cases next
        exact ⟨rfl, loopHand_written raddr c ok⟩
      · cases next
  · cases next

/-- The other steps of the loop. -/
theorem loop_spec (is : l = .readChClosed ∨ l = .close ∨ l = .go)
    (next : Forwarder.step f l = some f') :
    loopHand f.loop = [] ∧ loopHand f'.loop = [] ∧
      ∃ new, f'.goroutines = f.goroutines ++ new ∧ ∀ gr ∈ new, gr.writer = .reading := by
  rcases is with rfl | rfl | rfl
  · simp only [Forwarder.step] at next
    split at next
    · rename_i receiving
      cases next
      exact ⟨by rw [receiving]; rfl, rfl, [], (List.append_nil _).symm, by simp⟩
    · cases next
  · simp only [Forwarder.step] at next
    split at next
    · rename_i raddr c ok loop
      cases next
      refine ⟨by rw [loop]; rfl, ?_, [], (List.append_nil _).symm, by simp⟩
      cases ok <;> rfl
    · cases next
  · simp only [Forwarder.step] at next
    split at next
    · rename_i raddr c loop
      cases next
      exact ⟨by rw [loop]; rfl, rfl, [⟨raddr, c, .reading⟩], rfl, by simp⟩
    · cases next

theorem read_spec {g : Nat} {datagram : Option GoString}
    (next : Forwarder.step f (.read g datagram) = some f') :
    ∃ gr, f.Runs g gr ∧ gr.writer = .reading ∧
      ((∃ buf, datagram = some buf ∧
          f' = f.setWriter g gr (.sending (newUDPPacket (readFromUDP f.bufSize buf) gr.raddr))) ∨
        datagram = none ∧ f' = f.setWriter g gr .returning) := by
  obtain ⟨gr, runs, next⟩ := Option.bind_eq_some_iff.1 next
  refine ⟨gr, runs, ?_⟩
  cases writer : gr.writer with
  | reading =>
      simp only [writer] at next
      cases datagram with
      | some buf =>
          simp only at next
          split at next
          · exact ⟨rfl, .inl ⟨buf, rfl, (Option.some.inj next).symm⟩⟩
          · cases next
      | none => exact ⟨rfl, .inr ⟨rfl, (Option.some.inj next).symm⟩⟩
  | sending _ => simp [writer] at next
  | returning => simp [writer] at next
  | deleted => simp [writer] at next
  | exited => simp [writer] at next

theorem send_spec {g : Nat} {err : Bool} (next : Forwarder.step f (.send g err) = some f') :
    ∃ gr m, f.Runs g gr ∧ gr.writer = .sending m ∧
      f' = f.setWriter g gr (if err then .returning else .reading) := by
  obtain ⟨gr, runs, next⟩ := Option.bind_eq_some_iff.1 next
  split at next
  · rename_i m sending
    exact ⟨gr, m, runs, sending, (Option.some.inj next).symm⟩
  · cases next

/-- The steps of the deferred function. -/
theorem deferred_spec {g : Nat} (is : l = .delete g ∨ l = .closeConn g)
    (next : Forwarder.step f l = some f') :
    ∃ gr writer, f.Runs g gr ∧ ¬ gr.writer.Running ∧ ¬ writer.Running ∧ f'.loop = f.loop ∧
      f'.goroutines = f.goroutines.set g { gr with writer := writer } := by
  rcases is with rfl | rfl
  · obtain ⟨gr, runs, next⟩ := Option.bind_eq_some_iff.1 next
    split at next
    · rename_i returning
      cases next
      exact ⟨gr, .deleted, runs, by rw [returning]; exact id, id, rfl, rfl⟩
    · cases next
  · obtain ⟨gr, runs, next⟩ := Option.bind_eq_some_iff.1 next
    split at next
    · rename_i deleted
      cases next
      exact ⟨gr, .exited, runs, by rw [deleted]; exact id, id, rfl, rfl⟩
    · cases next

/-! ### What the goroutines hold -/

theorem held_of_reading {user : GoString} {gr : Goroutine} (reading : gr.writer = .reading) :
    held user gr = none := by simp only [held, reading]

theorem held_of_not_running {user : GoString} {gr : Goroutine} (ended : ¬ gr.writer.Running) :
    held user gr = none := by
  cases writer : gr.writer with
  | sending m =>
      rw [writer] at ended
      exact absurd trivial ended
  | reading | returning | deleted | exited => simp only [held, writer]

theorem held_of_not_running_or_reading {user : GoString} {gr : Goroutine}
    (not_sending : gr.writer = .reading ∨ ¬ gr.writer.Running) : held user gr = none :=
  not_sending.elim held_of_reading held_of_not_running

/-- Only one goroutine sends for a user. -/
theorem held_others (inv : Forwarder.Inv f) {g : Nat} {gr : Goroutine} (runs : f.Runs g gr)
    (listed : gr.writer.Listed) :
    ∀ h gr', h ≠ g → f.Runs h gr' → held gr.raddr gr' = none := by
  intro h gr' other runs'
  cases writer : gr'.writer with
  | sending m =>
      simp only [held, writer, ite_eq_right_iff, reduceCtorEq, imp_false]
      intro same
      have entry := inv.entry g gr runs listed
      have entry' := inv.entry h gr' runs' (writer ▸ trivial)
      rw [same, entry] at entry'
      exact other (inv.distinct h g gr' gr runs' runs (Option.some.inj entry').symm)
  | reading | returning | deleted | exited => simp only [held, writer]

end Forwarding

/-! ## Steps -/

section Steps

variable {s t : State}

theorem Conveys.of_eq (requests : t.requests.Sublist s.requests)
    (fromService : t.fromService = s.fromService)
    (answers : ∀ user, (t.answers user).Sublist (s.answers user)) : Conveys s t where
  requests := requests
  answers := ⟨[], by rw [fromService, List.append_nil], fun user => by
    rw [List.map_nil]
    exact (answers user).trans (List.sublist_append_left _ _)⟩

theorem Conveys.refl (s : State) : Conveys s s :=
  .of_eq (List.Sublist.refl _) rfl fun _ => List.Sublist.refl _

/-- The forwarder of a session is a forwarder. -/
theorem forward_step {l : Forwarder.Label} (next : s.forward l = some t) :
    Forwarder.step s.forwarder l = some t.forwarder := by
  cases l with
  | receive m dial =>
      simp only [State.forward] at next
      split at next
      · split at next
        · obtain ⟨f, first, rfl⟩ := Option.map_eq_some_iff.1 next
          exact first
        · cases next
      · cases next
  | readChClosed =>
      simp only [State.forward] at next
      split at next
      · obtain ⟨f, first, rfl⟩ := Option.map_eq_some_iff.1 next
        exact first
      · cases next
  | send g err =>
      obtain ⟨gr, -, next⟩ := Option.bind_eq_some_iff.1 next
      split at next
      · split at next
        all_goals
          split at next
          all_goals first
            | cases next
            | obtain ⟨f, first, rfl⟩ := Option.map_eq_some_iff.1 next
              simp_all
      · cases next
  | write | read | close | go | delete | closeConn =>
      obtain ⟨f, first, rfl⟩ := Option.map_eq_some_iff.1 next
      exact first

/-- The loop takes a packet from `readCh`. -/
theorem receive_conveys {m : UDPPacket} {dial : Bool}
    (next : s.forward (.receive m dial) = some t) : Conveys s t := by
  simp only [State.forward] at next
  split at next
  · rename_i m' c recv
    split at next
    · rename_i same
      subst same
      obtain ⟨f, first, rfl⟩ := Option.map_eq_some_iff.1 next
      obtain ⟨receiving, goroutines, after⟩ := receive_spec first
      obtain ⟨rest, buf, rfl⟩ := Chan.recv_eq_some_iff.1 recv
      refine .of_eq ?_ rfl ?_
      · simp only [State.requests, receiving, buf, List.cons_append, List.map_cons]
        rcases after with receiving' | ⟨c, ok, buf', content, writing, -⟩
        · rw [receiving']
          exact (List.sublist_cons_self _ _).append_left _
        · have same : loopHand f.loop = [decoded m'] := by
            rw [writing, decoded, content]
            rfl
          rw [same, loopHand, List.append_nil, List.append_assoc, List.singleton_append]
      · intro user
        simp only [State.answers, goroutines]
        exact List.Sublist.refl _
    · cases next
  · cases next

theorem write_conveys {err : Bool} (next : s.forward (.write err) = some t) : Conveys s t := by
  obtain ⟨f, first, rfl⟩ := Option.map_eq_some_iff.1 next
  obtain ⟨raddr, c, ok, buf, loop, goroutines, hand⟩ := write_spec first
  refine .of_eq ?_ rfl ?_
  · have carried : ((State.carried s.forwarder err).map Datagram.plain).Sublist
        (loopHand s.forwarder.loop) := by
      unfold State.carried
      rw [loop]
      cases err with
      | true => exact List.nil_sublist _
      | false => exact List.Sublist.refl _
    simp only [State.requests, hand, List.append_nil, List.map_append]
    exact (carried.append_left _).append_right _
  · intro user
    simp only [State.answers, goroutines]
    exact List.Sublist.refl _

/-- The other steps of the loop leave what is under way. -/
theorem loop_conveys {l : Forwarder.Label} (is : l = .readChClosed ∨ l = .close ∨ l = .go)
    {f : Forwarder.State} (first : Forwarder.step s.forwarder l = some f) :
    Conveys s { s with forwarder := f } := by
  obtain ⟨before, after, new, goroutines, reading⟩ := loop_spec is first
  refine .of_eq ?_ rfl ?_
  · simp only [State.requests, before, after]
    exact List.Sublist.refl _
  · intro user
    have none_ : new.filterMap (held user) = [] := by
      apply List.filterMap_eq_nil_iff.2
      intro gr inside
      exact held_of_reading (reading gr inside)
    simp only [State.answers, goroutines, List.filterMap_append, none_, List.append_nil]
    exact List.Sublist.refl _

theorem deferred_conveys {g : Nat} {l : Forwarder.Label} (is : l = .delete g ∨ l = .closeConn g)
    {f : Forwarder.State} (first : Forwarder.step s.forwarder l = some f) :
    Conveys s { s with forwarder := f } := by
  obtain ⟨gr, writer, runs, ended, ended', loop, goroutines⟩ := deferred_spec is first
  refine .of_eq ?_ rfl ?_
  · simp only [State.requests, loop]
    exact List.Sublist.refl _
  · intro user
    have same : held user { gr with writer := writer } = held user gr := by
      rw [held_of_not_running ended, held_of_not_running ended']
    simp only [State.answers, goroutines, Slots.filterMap_set_of_eq runs same]
    exact List.Sublist.refl _

/-- Setting a goroutine that is not the user's leaves what is held for him. -/
theorem held_other {f : Forwarder.State} {g : Nat} {gr : Goroutine} (runs : f.Runs g gr)
    (writer : Forwarder.Writer) {user : GoString} (other : gr.raddr ≠ user) :
    (f.setWriter g gr writer).goroutines.filterMap (held user) =
      f.goroutines.filterMap (held user) := by
  apply Slots.filterMap_set_of_eq runs
  have none_ : ∀ gr' : Goroutine, gr'.raddr = gr.raddr → held user gr' = none := by
    intro gr' same
    unfold held
    split
    · exact if_neg fun is => other (same ▸ is)
    all_goals rfl
  exact (none_ { gr with writer := writer } rfl).trans (none_ gr rfl).symm

/-- What is held for the user of a goroutine that has not ended is what it holds. -/
theorem held_own {f : Forwarder.State} (inv : Forwarder.Inv f) {g : Nat} {gr : Goroutine}
    (runs : f.Runs g gr) (listed : gr.writer.Listed) :
    f.goroutines.filterMap (held gr.raddr) = (held gr.raddr gr).toList :=
  Slots.filterMap_of_only runs (held_others inv runs listed)

theorem held_own_set {f : Forwarder.State} (inv : Forwarder.Inv f) {g : Nat} {gr : Goroutine}
    (runs : f.Runs g gr) (listed : gr.writer.Listed) (writer : Forwarder.Writer) :
    (f.setWriter g gr writer).goroutines.filterMap (held gr.raddr) =
      (held gr.raddr { gr with writer := writer }).toList := by
  apply Slots.filterMap_of_only (Slots.set_self runs)
  intro h gr' other there
  rcases Slots.set_cases there with ⟨same, -⟩ | ⟨-, there⟩
  · exact absurd same other
  · exact held_others inv runs listed h gr' other there

/-- A goroutine of the forwarder reads an answer. -/
theorem read_conveys (inv : Inv s) {g : Nat} {datagram : Option GoString}
    (next : s.forward (.read g datagram) = some t) : Conveys s t := by
  obtain ⟨f, first, rfl⟩ := Option.map_eq_some_iff.1 next
  obtain ⟨gr, runs, reading, ⟨buf, rfl, rfl⟩ | ⟨rfl, rfl⟩⟩ := read_spec first
  · have listed : gr.writer.Listed := reading ▸ trivial
    have answered : State.answered s.forwarder g (some buf) = [⟨gr.udpConn, gr.raddr, buf⟩] := by
      unfold State.answered
      rw [show s.forwarder.goroutines[g]? = some gr from runs]
    refine ⟨List.Sublist.refl _, _, rfl, fun user => ?_⟩
    simp only [answered, State.answers, List.map_cons, List.map_nil, List.append_assoc]
    refine List.Sublist.append_left ?_ _
    by_cases own : gr.raddr = user
    · subst own
      rw [held_own_set inv.forwarder runs listed, held_own inv.forwarder runs listed,
        held_of_reading reading]
      simp [held, ofUser, Datagram.read]
    · rw [held_other runs _ own]
      exact List.sublist_append_left _ _
  · have listed : gr.writer.Listed := reading ▸ trivial
    have answered : State.answered s.forwarder g none = [] := by
      unfold State.answered
      split <;> simp_all
    refine ⟨List.Sublist.refl _, _, rfl, fun user => ?_⟩
    simp only [answered, State.answers, List.map_nil, ofUser, List.filter_nil, List.append_nil]
    refine List.Sublist.append_left ?_ _
    have same : (s.forwarder.setWriter g gr .returning).goroutines.filterMap (held user) =
        s.forwarder.goroutines.filterMap (held user) := by
      apply Slots.filterMap_set_of_eq runs
      rw [held_of_reading reading]
      rfl
    rw [same]

/-- The goroutine that sends goes on; its packet is in `sendCh` or lost. -/
theorem sent_conveys (inv : Inv s) {g : Nat} {err : Bool} {gr : Goroutine} {m : UDPPacket}
    (runs : s.forwarder.Runs g gr) (sending : gr.writer = .sending m) {f : Forwarder.State}
    (first : Forwarder.step s.forwarder (.send g err) = some f) {c : Chan Msg}
    (channel : c.buf = s.sendCh.buf ++ [.udpPacket m] ∨ c.buf = s.sendCh.buf) :
    Conveys s { s with forwarder := f, sendCh := c } := by
  obtain ⟨gr', m', runs', sending', rfl⟩ := send_spec first
  cases Option.some.inj (runs.symm.trans runs')
  have listed : gr.writer.Listed := sending ▸ trivial
  have packet := inv.packet g gr m runs sending
  have same : ∀ user, held user { gr with writer := if err then .returning else .reading } =
      none := by
    intro user
    apply held_of_not_running_or_reading
    cases err with
    | true => exact .inr id
    | false => exact .inl rfl
  refine .of_eq (List.Sublist.refl _) rfl fun user => ?_
  simp only [State.answers]
  by_cases own : gr.raddr = user
  · subst own
    rw [held_own_set inv.forwarder runs listed, held_own inv.forwarder runs listed, same]
    have hand : held gr.raddr gr = some (decoded m) := by
      simp only [held, sending, if_pos]
    rw [hand]
    rcases channel with sent | lost
    · rw [sent]
      simp [ofUser, Msg.datagram, decoded, packet]
    · rw [lost]
      simp
  · rw [held_other runs _ own]
    refine List.Sublist.append_right ?_ _
    rcases channel with sent | lost
    · rw [sent]
      have none_ : ofUser user [decoded m] = [] := by
        simp [ofUser, decoded, packet, own]
      simp only [List.filterMap_append, ofUser, List.filter_append] at none_ ⊢
      simp [Msg.datagram, none_]
    · rw [lost]

theorem forward_conveys (inv : Inv s) {l : Forwarder.Label} (next : s.forward l = some t) :
    Conveys s t := by
  cases l with
  | receive m dial => exact receive_conveys next
  | write err => exact write_conveys next
  | read g datagram => exact read_conveys inv next
  | readChClosed =>
      simp only [State.forward] at next
      split at next
      · obtain ⟨f, first, rfl⟩ := Option.map_eq_some_iff.1 next
        exact loop_conveys (.inl rfl) first
      · cases next
  | close =>
      obtain ⟨f, first, rfl⟩ := Option.map_eq_some_iff.1 next
      exact loop_conveys (.inr (.inl rfl)) first
  | go =>
      obtain ⟨f, first, rfl⟩ := Option.map_eq_some_iff.1 next
      exact loop_conveys (.inr (.inr rfl)) first
  | delete g =>
      obtain ⟨f, first, rfl⟩ := Option.map_eq_some_iff.1 next
      exact deferred_conveys (.inl rfl) first
  | closeConn g =>
      obtain ⟨f, first, rfl⟩ := Option.map_eq_some_iff.1 next
      exact deferred_conveys (.inr rfl) first
  | send g err =>
      obtain ⟨gr, runs, next⟩ := Option.bind_eq_some_iff.1 next
      split at next
      · rename_i m sending
        split at next
        · rename_i c sent
          split at next
          · cases next
          · obtain ⟨f, first, rfl⟩ := Option.map_eq_some_iff.1 next
            obtain ⟨-, -, rfl⟩ := Chan.send_eq_done_iff.1 sent
            exact sent_conveys inv runs sending first (.inl rfl)
        · split at next
          · cases next
          · obtain ⟨f, first, rfl⟩ := Option.map_eq_some_iff.1 next
            exact sent_conveys inv runs sending first (.inr rfl)
        · split at next
          · obtain ⟨f, first, rfl⟩ := Option.map_eq_some_iff.1 next
            exact sent_conveys inv runs sending first (.inr rfl)
          · cases next
      · cases next

theorem step_conveys (inv : Inv s) {l : Label} (next : step s l = some t) : Conveys s t := by
  cases l with
  | forwarder l => exact forward_conveys inv next
  | readMsg err =>
      simp only [step] at next
      split at next
      · rename_i reading
        split at next
        · cases next
          exact .of_eq (by simp [State.requests, reading, Reader.hand]) rfl
            fun _ => List.Sublist.refl _
        · split at next
          · rename_i m rest down
            split at next
            · cases next
              exact .of_eq (by simp [State.requests, reading, down, Reader.hand]) rfl
                fun _ => List.Sublist.refl _
            · cases next
          · cases next
      · cases next
  | sendReadCh =>
      simp only [step] at next
      split at next
      · rename_i m sending
        split at next
        · rename_i c sent
          cases next
          obtain ⟨-, -, rfl⟩ := Chan.send_eq_done_iff.1 sent
          exact .of_eq (by simp [State.requests, sending, Reader.hand]) rfl
            fun _ => List.Sublist.refl _
        · cases next
        · cases next
          refine .of_eq ?_ rfl fun _ => List.Sublist.refl _
          simp only [State.requests, sending, Reader.hand, List.append_nil, List.append_assoc]
          exact ((List.sublist_append_right _ _).append_left _).map decoded |>.append_left _
            |>.append_left _
      · cases next
  | tick =>
      simp only [step] at next
      split at next
      · rename_i c sent
        cases next
        obtain ⟨-, -, rfl⟩ := Chan.send_eq_done_iff.1 sent
        have none_ : [Msg.ping].filterMap Msg.datagram = [] := rfl
        exact .of_eq (List.Sublist.refl _) rfl fun user => by simp [State.answers, none_]
      · cases next
      · cases next
        exact .refl _
  | takeSendCh =>
      simp only [step] at next
      split at next
      · rename_i receiving
        split at next
        · rename_i m c recv
          cases next
          obtain ⟨rest, buf, rfl⟩ := Chan.recv_eq_some_iff.1 recv
          exact .of_eq (List.Sublist.refl _) rfl
            fun user => by simp [State.answers, receiving, buf, Sender.hand]
        · cases next
          exact .of_eq (List.Sublist.refl _) rfl
            fun user => by simp [State.answers, receiving, Sender.hand]
        · cases next
      · cases next
  | writeMsg err =>
      simp only [step] at next
      split at next
      · rename_i m writing
        split at next
        · cases next
          refine .of_eq (List.Sublist.refl _) rfl fun user => ?_
          simp only [State.answers, writing, Sender.hand, List.append_nil, List.append_assoc]
          refine List.Sublist.append_right ?_ _
          exact (((List.sublist_append_right _ _).append_left _).filterMap _).filter _
        · split at next
          · cases next
            exact .of_eq (List.Sublist.refl _) rfl
              fun user => by simp [State.answers, writing, Sender.hand]
          · cases next
      · cases next
  | closeConn =>
      cases next
      exact .of_eq (List.Sublist.refl _) rfl fun _ => List.Sublist.refl _
  | closeReadCh =>
      simp only [step] at next
      split at next
      · rename_i c closed
        cases next
        obtain ⟨-, rfl⟩ := Chan.close_eq_done_iff.1 closed
        exact .of_eq (List.Sublist.refl _) rfl fun _ => List.Sublist.refl _
      · cases next
  | closeSendCh =>
      simp only [step] at next
      split at next
      · rename_i c closed
        cases next
        obtain ⟨-, rfl⟩ := Chan.close_eq_done_iff.1 closed
        exact .of_eq (List.Sublist.refl _) rfl fun _ => List.Sublist.refl _
      · cases next

/-! ### The invariant -/

/-- The step of the forwarder in a step of the session, if there is one. -/
theorem step_forwarder {l : Label} (next : step s l = some t) :
    t.forwarder = s.forwarder ∧ t.toService = s.toService ∧ t.fromService = s.fromService ∨
      ∃ m, l = .forwarder m ∧ s.forward m = some t := by
  cases l with
  | forwarder m => exact .inr ⟨m, rfl, next⟩
  | readMsg | sendReadCh | tick | takeSendCh | writeMsg | closeConn | closeReadCh | closeSendCh =>
      left
      simp only [step] at next
      repeat' split at next
      all_goals cases next <;> exact ⟨rfl, rfl, rfl⟩

theorem step_bufSize {l : Label} (next : step s l = some t) :
    t.forwarder.bufSize = s.forwarder.bufSize := by
  rcases step_forwarder next with ⟨same, -⟩ | ⟨m, -, forwards⟩
  · rw [same]
  · exact (Forwarder.step_moves (forward_step forwards)).bufSize

theorem target_step (inv : Inv s) {l : Forwarder.Label} {f : Forwarder.State}
    (inv' : Forwarder.Inv f) (first : Forwarder.step s.forwarder l = some f) :
    ∀ raddr c ok buf, f.loop = .writing raddr c ok buf → Serves f c raddr := by
  intro raddr c ok buf writing
  have moves := Forwarder.step_moves first
  have not_hand : loopHand f.loop ≠ [] := by
    rw [writing]
    exact List.cons_ne_nil _ _
  have kept : f.loop = s.forwarder.loop → Serves f c raddr := fun same =>
    (inv.target raddr c ok buf (same ▸ writing)).moves moves
  cases l with
  | receive m dial =>
      obtain ⟨-, -, receiving | ⟨c', ok', buf', -, writing', found⟩⟩ := receive_spec first
      · rw [receiving] at writing
        cases writing
      · cases writing.symm.trans writing'
        rcases inv'.listed _ _ found with ⟨g, gr, runs, user, conn, -⟩ | fresh
        · exact .inl ⟨g, gr, runs, conn, user⟩
        · exact .inr fresh
  | readChClosed => exact absurd (loop_spec (.inl rfl) first).2.1 not_hand
  | close => exact absurd (loop_spec (.inr (.inl rfl)) first).2.1 not_hand
  | go => exact absurd (loop_spec (.inr (.inr rfl)) first).2.1 not_hand
  | write err =>
      obtain ⟨-, -, -, -, -, -, hand⟩ := write_spec first
      exact absurd hand not_hand
  | read g datagram =>
      obtain ⟨gr, -, -, ⟨buf, -, same⟩ | ⟨-, same⟩⟩ := read_spec first
      all_goals
        apply kept
        rw [same]
        rfl
  | send g err =>
      obtain ⟨gr, -, -, -, same⟩ := send_spec first
      apply kept
      rw [same]
      rfl
  | delete g =>
      obtain ⟨-, -, -, -, -, same, -⟩ := deferred_spec (.inl rfl) first
      exact kept same
  | closeConn g =>
      obtain ⟨-, -, -, -, -, same, -⟩ := deferred_spec (.inr rfl) first
      exact kept same

theorem packet_step (inv : Inv s) {l : Forwarder.Label} {f : Forwarder.State}
    (first : Forwarder.step s.forwarder l = some f) :
    ∀ g gr m, f.Runs g gr → gr.writer = .sending m → m.remoteAddr = gr.raddr := by
  intro g gr m runs sending
  -- A goroutine is as it was, or reads, or has just read.
  unfold Forwarder.State.Runs at runs
  have kept : f.goroutines = s.forwarder.goroutines → m.remoteAddr = gr.raddr := by
    intro same
    rw [same] at runs
    exact inv.packet g gr m runs sending
  have of_loop : ∀ new, f.goroutines = s.forwarder.goroutines ++ new →
      (∀ gr ∈ new, gr.writer = .reading) → m.remoteAddr = gr.raddr := by
    intro new same reading
    rcases List.mem_append.1 (same ▸ List.mem_of_getElem? runs) with old | inside
    · obtain ⟨h, at_h⟩ := List.getElem?_of_mem old
      exact inv.packet h gr m at_h sending
    · rw [reading gr inside] at sending
      cases sending
  have of_set : ∀ (h : Nat) (old : Goroutine) (writer : Forwarder.Writer),
      f.goroutines = s.forwarder.goroutines.set h { old with writer := writer } →
      (∀ m', writer = .sending m' → m'.remoteAddr = old.raddr) → m.remoteAddr = gr.raddr := by
    intro h old writer same new
    rw [same] at runs
    rcases Slots.set_cases runs with ⟨-, rfl⟩ | ⟨-, runs⟩
    · exact new m sending
    · exact inv.packet g gr m runs sending
  cases l with
  | receive m dial => exact kept (receive_spec first).2.1
  | write err =>
      obtain ⟨-, -, -, -, -, same, -⟩ := write_spec first
      exact kept same
  | readChClosed =>
      obtain ⟨-, -, new, same, reading⟩ := loop_spec (.inl rfl) first
      exact of_loop new same reading
  | close =>
      obtain ⟨-, -, new, same, reading⟩ := loop_spec (.inr (.inl rfl)) first
      exact of_loop new same reading
  | go =>
      obtain ⟨-, -, new, same, reading⟩ := loop_spec (.inr (.inr rfl)) first
      exact of_loop new same reading
  | read h datagram =>
      obtain ⟨old, -, -, ⟨buf, -, same⟩ | ⟨-, same⟩⟩ := read_spec first
      · apply of_set h old (.sending (newUDPPacket (readFromUDP s.forwarder.bufSize buf) old.raddr))
          (by rw [same]; rfl)
        intro m' is
        cases is
        rfl
      · apply of_set h old .returning (by rw [same]; rfl)
        intro m' is
        cases is
  | send h err =>
      obtain ⟨old, -, -, -, same⟩ := send_spec first
      apply of_set h old (if err then .returning else .reading) (by rw [same]; rfl)
      intro m' is
      cases err <;> cases is
  | delete h =>
      obtain ⟨old, writer, -, -, ended, -, same⟩ := deferred_spec (.inl rfl) first
      apply of_set h old writer same
      rintro m' rfl
      exact absurd trivial ended
  | closeConn h =>
      obtain ⟨old, writer, -, -, ended, -, same⟩ := deferred_spec (.inr rfl) first
      apply of_set h old writer same
      rintro m' rfl
      exact absurd trivial ended

/-- A step of the forwarder gives the service, or takes from it, a datagram of the socket's
user. -/
theorem carried_served (inv : Inv s) {l : Forwarder.Label} (next : s.forward l = some t) :
    ∀ d ∈ t.toService ++ t.fromService,
      d ∈ s.toService ++ s.fromService ∨ Serves s.forwarder d.udpConn d.raddr := by
  cases l with
  | write err =>
      obtain ⟨f, first, rfl⟩ := Option.map_eq_some_iff.1 next
      obtain ⟨raddr, c, ok, buf, loop, -⟩ := write_spec first
      intro d inside
      simp only [List.mem_append, State.carried, loop] at inside ⊢
      rcases inside with (old | new) | from_
      · exact .inl (.inl old)
      · cases err with
        | true => cases new
        | false =>
            cases List.mem_singleton.1 new
            exact .inr (inv.target raddr c ok buf loop)
      · exact .inl (.inr from_)
  | read g datagram =>
      obtain ⟨f, first, rfl⟩ := Option.map_eq_some_iff.1 next
      obtain ⟨gr, runs, -⟩ := read_spec first
      have at_g : s.forwarder.goroutines[g]? = some gr := runs
      intro d inside
      simp only [List.mem_append, State.answered, at_g] at inside ⊢
      rcases inside with to_ | old | new
      · exact .inl (.inl to_)
      · exact .inl (.inr old)
      · cases datagram with
        | none => cases new
        | some buf =>
            cases List.mem_singleton.1 new
            exact .inr (.inl ⟨g, gr, runs, rfl, rfl⟩)
  | close | go | delete | closeConn =>
      obtain ⟨f, -, rfl⟩ := Option.map_eq_some_iff.1 next
      exact fun d inside => .inl inside
  | receive m dial =>
      simp only [State.forward] at next
      split at next
      · split at next
        · obtain ⟨f, -, rfl⟩ := Option.map_eq_some_iff.1 next
          exact fun d inside => .inl inside
        · cases next
      · cases next
  | readChClosed =>
      simp only [State.forward] at next
      split at next
      · obtain ⟨f, -, rfl⟩ := Option.map_eq_some_iff.1 next
        exact fun d inside => .inl inside
      · cases next
  | send g err =>
      obtain ⟨gr, -, next⟩ := Option.bind_eq_some_iff.1 next
      split at next
      · split at next
        all_goals
          split at next
          all_goals first
            | cases next
            | obtain ⟨f, -, rfl⟩ := Option.map_eq_some_iff.1 next
              exact fun d inside => .inl inside
      · cases next

theorem Inv.step (inv : Inv s) {l : Label} (next : Session.step s l = some t) : Inv t := by
  rcases step_forwarder next with ⟨same, to_, from_⟩ | ⟨m, -, next⟩
  · obtain ⟨i1, i2, i3, i4⟩ := inv
    constructor
    · rwa [same]
    · rwa [same]
    · rwa [same]
    · rwa [same, to_, from_]
  · have first := forward_step next
    have moves := Forwarder.step_moves first
    have inv' := inv.forwarder.moves moves
    refine ⟨inv', target_step inv inv' first, packet_step inv first, ?_⟩
    intro d inside
    rcases carried_served inv next d inside with old | serves
    · exact (inv.served d old).moves moves
    · exact serves.moves moves

/-- What a socket has carried, in either direction, belongs to one user. -/
theorem Inv.one_user (inv : Inv s) {d e : Datagram} (first : d ∈ s.toService ++ s.fromService)
    (second : e ∈ s.toService ++ s.fromService) (same : d.udpConn = e.udpConn) :
    d.raddr = e.raddr :=
  (inv.served d first).unique inv.forwarder (same ▸ inv.served e second)

end Steps

end ChmlFrp.Udp.Session
