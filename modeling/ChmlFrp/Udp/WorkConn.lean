/-
# ChmlFrp.Udp.WorkConn — the work connections of a udp proxy

The goroutines that `UDPProxy.Run` starts beside the forwarder: the loop that takes a work
connection, records it and waits on `checkCloseCh`, and for each connection a reader and a
sender.  The forwarder and `Close` are the machine of `Udp.Forward`; the readers and
senders use its channels.

The loop writes `pxy.workConn` without the mutex that `Close` holds, so the actions of
`Close` come anywhere between its steps.

* `work_conns_closed`: one connection at most is recorded and served, in every run; none is
  left open when `Close` has returned and the loop has ended, unless the loop recorded an
  open connection after `Close` had closed the recorded one.
* `conn_outlives_proxy`: the pool gives a connection after `Close`.
-/
import ChmlFrp.Lib.Slots
import ChmlFrp.Udp.Forward

namespace ChmlFrp.Udp.WorkConn

set_option autoImplicit false

open ChmlFrp.Lib
open ChmlFrp.Lib.Transition

/-! ## The goroutines -/

/-- Where `workConnReaderFn` is. -/
inductive Reader where
  | notStarted
  | reading
  /-- At `pxy.readCh <- m`. -/
  | forwarding (m : UDPPacket)
  /-- At `pxy.checkCloseCh <- 1`. -/
  | notifying
  | returned
  deriving DecidableEq, Repr

/-- Where `workConnSenderFn` is. -/
inductive Sender where
  | notStarted
  | selecting
  | writing (udpMsg : UDPPacket)
  | returned
  deriving DecidableEq, Repr

/-- A connection that `GetWorkConnFromPool` returned. -/
structure Conn where
  isOpen : Bool
  reader : Reader
  sender : Sender
  /-- Whether the loop has called `cancel`. -/
  cancelled : Bool
  deriving DecidableEq, Repr

/-- Where the loop is, and which connection it works on. -/
inductive Loop where
  | taking
  /-- `GetWorkConnFromPool` returned an error. -/
  | failed
  | taken (c : Nat)
  /-- The old connection is closed. -/
  | replacing (c : Nat)
  /-- Encryption and compression are around the connection. -/
  | wrapped (c : Nat)
  | recorded (c : Nat)
  /-- At `<-pxy.checkCloseCh`. -/
  | waiting (c : Nat)
  | returned
  deriving DecidableEq, Repr

structure State where
  fwd : Udp.State
  conns : List Conn
  workConn : Option Nat
  loop : Loop

/-- After `Run`. -/
def start : State := ⟨Udp.start, [], none, .taking⟩

/-- What `ReadMsg` returns. -/
inductive RawMsg where
  | ping
  | udpPacket (m : UDPPacket)
  | other
  deriving DecidableEq, Repr

inductive Label where
  /-- A step of the forwarder or of `Close`. -/
  | forwarder (l : Udp.Label)
  /-- `GetWorkConnFromPool` returns, with a connection or an error.  The connection is
  closed already if its `StartWorkConn` could not be written. -/
  | take (isOpen : Option Bool)
  /-- The `select` with a `default` after an error. -/
  | check
  | closeOld
  /-- `WithEncryption` and `WithCompression`; whether the first fails. -/
  | wrap (err : Bool)
  | record
  /-- The loop starts the reader and the sender. -/
  | serve
  /-- The loop receives the 1 of a reader. -/
  | notify (c : Nat)
  /-- The loop receives from the closed `checkCloseCh`. -/
  | seeClosed
  /-- `ReadMsg` of the reader returns; after an error the connection is closed. -/
  | readMsg (c : Nat) (rawMsg : Option RawMsg)
  | forwardMsg (c : Nat)
  /-- The reader panics on the closed `checkCloseCh`, and recovers. -/
  | notifyClosed (c : Nat)
  /-- The sender receives from `sendCh`. -/
  | next (c : Nat)
  /-- `WriteMsg` of the sender returns. -/
  | write (c : Nat) (err : Bool)
  /-- The sender receives from `ctx.Done()`. -/
  | done (c : Nat)

/-- The steps that are not of a reader or a sender. -/
def ofForwarder : Udp.Label → Bool
  | .read .. | .send | .callClose | .close | .takeReadCh => true
  | .takeSendCh | .sendReadCh .. => false

namespace State

def setConn (s : State) (c : Nat) (conn : Conn) : State := { s with conns := s.conns.set c conn }

/-- `conn.Close()` -/
def closeConn (s : State) (c : Nat) : State :=
  { s with conns := s.conns.modify c fun conn => { conn with isOpen := false } }

/-- `if pxy.workConn != nil { pxy.workConn.Close() }` -/
def closeRecorded (s : State) : State :=
  match s.workConn with
  | some c => s.closeConn c
  | none => s

@[simp] theorem closeRecorded_workConn (s : State) : s.closeRecorded.workConn = s.workConn := by
  rcases s with ⟨fwd, conns, _ | c, loop⟩
  · rfl
  · rfl

@[simp] theorem closeRecorded_loop (s : State) : s.closeRecorded.loop = s.loop := by
  rcases s with ⟨fwd, conns, _ | c, loop⟩
  · rfl
  · rfl

@[simp] theorem closeRecorded_fwd (s : State) : s.closeRecorded.fwd = s.fwd := by
  rcases s with ⟨fwd, conns, _ | c, loop⟩
  · rfl
  · rfl

/-- `cancel()` -/
def cancel (s : State) (c : Nat) : State :=
  { s with conns := s.conns.modify c fun conn => { conn with cancelled := true } }

end State

/-- What a step of the forwarder or of `Close` does to the connections. -/
def closeFor (s : State) (l : Udp.Label) : State :=
  if l = .close ∧ s.fwd.pending.head? = some .closeWorkConn then s.closeRecorded else s

def run (useEncryption : Bool) (s : State) : Label → Option State
  | .forwarder l =>
      if ofForwarder l then
        (Udp.step .udpProxy s.fwd l).map fun fwd => { closeFor s l with fwd := fwd }
      else none
  | .take isOpen =>
      if s.loop = .taking then
        match isOpen with
        | some isOpen =>
            some { s with
              conns := s.conns ++ [⟨isOpen, .notStarted, .notStarted, false⟩]
              loop := .taken s.conns.length }
        | none => some { s with loop := .failed }
      else none
  | .check =>
      if s.loop = .failed then
        some { s with loop := if s.fwd.checkCloseCh.closed then .returned else .taking }
      else none
  | .closeOld =>
      match s.loop with
      | .taken c => some { s.closeRecorded with loop := .replacing c }
      | _ => none
  | .wrap err =>
      match s.loop with
      | .replacing c =>
          if err then
            if useEncryption then some { s.closeConn c with loop := .taking } else none
          else some { s with loop := .wrapped c }
      | _ => none
  | .record =>
      match s.loop with
      | .wrapped c => some { s with workConn := some c, loop := .recorded c }
      | _ => none
  | .serve =>
      match s.loop with
      | .recorded c =>
          s.conns[c]?.map fun conn =>
            { s.setConn c { conn with reader := .reading, sender := .selecting } with
              loop := .waiting c }
      | _ => none
  | .notify c =>
      s.conns[c]?.bind fun conn =>
        if conn.reader = .notifying ∧ s.fwd.checkCloseCh.closed = false then
          let s' := s.setConn c { conn with reader := .returned }
          match s.loop with
          | .waiting d => some { s'.cancel d with loop := .taking }
          | .failed => some { s' with loop := .taking }
          | _ => none
        else none
  | .seeClosed =>
      match s.loop with
      | .waiting d =>
          if s.fwd.checkCloseCh.closed then some { s.cancel d with loop := .returned } else none
      | _ => none
  | .readMsg c rawMsg =>
      s.conns[c]?.bind fun conn =>
        if conn.reader = .reading then
          match rawMsg with
          | none => some (s.setConn c { conn with isOpen := false, reader := .notifying })
          | some (.udpPacket m) => some (s.setConn c { conn with reader := .forwarding m })
          | some .ping | some .other => some s
        else none
  | .forwardMsg c =>
      s.conns[c]?.bind fun conn =>
        match conn.reader with
        | .forwarding m =>
            match s.fwd.readCh.send m with
            | .done _ =>
                (Udp.step .udpProxy s.fwd (.sendReadCh m)).map fun fwd =>
                  { s.setConn c { conn with reader := .reading } with fwd := fwd }
            | .blocks => none
            | .panics => some (s.setConn c { conn with isOpen := false, reader := .returned })
        | _ => none
  | .notifyClosed c =>
      s.conns[c]?.bind fun conn =>
        if conn.reader = .notifying ∧ s.fwd.checkCloseCh.closed = true then
          some (s.setConn c { conn with reader := .returned })
        else none
  | .next c =>
      s.conns[c]?.bind fun conn =>
        if conn.sender = .selecting then
          match s.fwd.sendCh.recv with
          | .done (some udpMsg, _) =>
              (Udp.step .udpProxy s.fwd .takeSendCh).map fun fwd =>
                { s.setConn c { conn with sender := .writing udpMsg } with fwd := fwd }
          | .done (none, _) => some (s.setConn c { conn with sender := .returned })
          | .blocks | .panics => none
        else none
  | .write c err =>
      s.conns[c]?.bind fun conn =>
        match conn.sender with
        | .writing _ =>
            if err then some (s.setConn c { conn with isOpen := false, sender := .returned })
            else some (s.setConn c { conn with sender := .selecting })
        | _ => none
  | .done c =>
      s.conns[c]?.bind fun conn =>
        if conn.sender = .selecting ∧ conn.cancelled = true then
          some (s.setConn c { conn with sender := .returned })
        else none

/-- Nothing runs after a panic of the forwarder. -/
def step (useEncryption : Bool) (s : State) (l : Label) : Option State :=
  if s.fwd.panicked then none else run useEncryption s l

/-! ## Steps of the other goroutines -/

/-- The goroutine is between its start and its end. -/
def Reader.Running : Reader → Prop
  | .notStarted | .returned => False
  | .reading | .forwarding _ | .notifying => True

def Sender.Running : Sender → Prop
  | .notStarted | .returned => False
  | .selecting | .writing _ => True

/-- The connection is not opened, and no goroutine of it starts. -/
structure Conn.Quieter (conn conn' : Conn) : Prop where
  isOpen : conn'.isOpen = true → conn.isOpen = true
  reader : conn'.reader.Running → conn.reader.Running
  sender : conn'.sender.Running → conn.sender.Running

structure Quieter (conns conns' : List Conn) : Prop where
  length : conns'.length = conns.length
  conn : ∀ (c : Nat) conn', conns'[c]? = some conn' →
    ∃ conn, conns[c]? = some conn ∧ Conn.Quieter conn conn'

namespace Quieter

theorem refl (conns : List Conn) : Quieter conns conns :=
  ⟨rfl, fun _ conn there => ⟨conn, there, id, id, id⟩⟩

theorem set {conns : List Conn} {c : Nat} {conn conn' : Conn} (there : conns[c]? = some conn)
    (less : conn.Quieter conn') : Quieter conns (conns.set c conn') := by
  refine ⟨List.length_set, ?_⟩
  intro d other at_d
  rcases Slots.set_cases at_d with ⟨rfl, rfl⟩ | ⟨-, before⟩
  · exact ⟨conn, there, less⟩
  · exact ⟨other, before, id, id, id⟩

theorem modify {conns : List Conn} {f : Conn → Conn} (less : ∀ conn : Conn, conn.Quieter (f conn))
    (c : Nat) : Quieter conns (conns.modify c f) := by
  refine ⟨List.length_modify .., ?_⟩
  intro d other at_d
  rw [List.getElem?_modify] at at_d
  obtain ⟨conn, there, moved⟩ := Option.map_eq_some_iff.1 at_d
  refine ⟨conn, there, ?_⟩
  split at moved
  · cases moved
    exact less conn
  · cases moved
    exact ⟨id, id, id⟩

theorem trans {conns conns' conns'' : List Conn} (first : Quieter conns conns')
    (second : Quieter conns' conns'') : Quieter conns conns'' := by
  refine ⟨second.length.trans first.length, ?_⟩
  intro c conn'' there''
  obtain ⟨conn', there', less'⟩ := second.conn c conn'' there''
  obtain ⟨conn, there, less⟩ := first.conn c conn' there'
  exact ⟨conn, there, less.isOpen ∘ less'.isOpen, less.reader ∘ less'.reader,
    less.sender ∘ less'.sender⟩

end Quieter

section Steps

variable {useEncryption : Bool} {s t : State} {l : Label}

theorem quieter_closeConn (s : State) (c : Nat) : Quieter s.conns (s.closeConn c).conns := by
  have less (conn : Conn) : conn.Quieter { conn with isOpen := false } := ⟨nofun, id, id⟩
  exact .modify less c

theorem quieter_cancel (s : State) (c : Nat) : Quieter s.conns (s.cancel c).conns := by
  have less (conn : Conn) : conn.Quieter { conn with cancelled := true } := ⟨id, id, id⟩
  exact .modify less c

theorem quieter_closeRecorded (s : State) : Quieter s.conns s.closeRecorded.conns := by
  unfold State.closeRecorded
  split
  · exact quieter_closeConn s _
  · exact .refl _

theorem closed_closeConn {c : Nat} {conn : Conn}
    (there : (s.closeConn c).conns[c]? = some conn) : conn.isOpen = false := by
  unfold State.closeConn at there
  dsimp only at there
  rw [List.getElem?_modify_eq] at there
  obtain ⟨old, -, rfl⟩ := Option.map_eq_some_iff.1 there
  rfl

theorem closed_closeRecorded {c : Nat} {conn : Conn} (recorded : s.workConn = some c)
    (there : s.closeRecorded.conns[c]? = some conn) : conn.isOpen = false := by
  unfold State.closeRecorded at there
  rw [recorded] at there
  exact closed_closeConn there

/-- A step of the loop. -/
def ofLoop : Label → Bool
  | .take .. | .check | .closeOld | .wrap .. | .record | .serve | .notify .. | .seeClosed => true
  | .forwarder .. | .readMsg .. | .forwardMsg .. | .notifyClosed .. | .next .. | .write ..
  | .done .. => false

/-- `Close` has closed the recorded connection. -/
def Looked (fwd : Udp.State) : Prop :=
  fwd.isClosed = true ∧ Action.closeWorkConn ∉ fwd.pending

/-- What the goroutines beside the loop do: nothing of a connection starts, and a step of
the forwarder's machine at most. -/
structure Beside (s t : State) : Prop where
  conns : Quieter s.conns t.conns
  workConn : t.workConn = s.workConn
  loop : t.loop = s.loop
  fwd : t.fwd = s.fwd ∨ ∃ l, Udp.run .udpProxy s.fwd l = some t.fwd ∧
    (l = .close → s.fwd.pending.head? = some .closeWorkConn → t.conns = s.closeRecorded.conns)

theorem Beside.set {c : Nat} {conn conn' : Conn} (there : s.conns[c]? = some conn)
    (less : conn.Quieter conn') : Beside s (s.setConn c conn') :=
  ⟨.set there less, rfl, rfl, .inl rfl⟩

theorem Beside.channel {c : Nat} {conn conn' : Conn} {fwd : Udp.State} {l : Udp.Label}
    (there : s.conns[c]? = some conn) (less : conn.Quieter conn')
    (next : Udp.run .udpProxy s.fwd l = some fwd) (other : l ≠ .close) :
    Beside s { s.setConn c conn' with fwd := fwd } :=
  ⟨.set there less, rfl, rfl, .inr ⟨l, next, fun close => absurd close other⟩⟩

theorem run_of_step {fwd fwd' : Udp.State} {l : Udp.Label}
    (next : Udp.step .udpProxy fwd l = some fwd') : Udp.run .udpProxy fwd l = some fwd' := by
  unfold Udp.step at next
  split at next
  · cases next
  · exact next

theorem run_beside (other : ofLoop l = false) (next : run useEncryption s l = some t) :
    Beside s t := by
  cases l with
  | take isOpen => cases other
  | check => cases other
  | closeOld => cases other
  | wrap err => cases other
  | record => cases other
  | serve => cases other
  | notify c => cases other
  | seeClosed => cases other
  | forwarder l =>
      simp only [run] at next
      split at next
      · obtain ⟨fwd, moved, rfl⟩ := Option.map_eq_some_iff.1 next
        have moved' := run_of_step moved
        unfold closeFor
        split
        · exact ⟨quieter_closeRecorded s, s.closeRecorded_workConn, s.closeRecorded_loop,
            .inr ⟨l, moved', fun _ _ => rfl⟩⟩
        · rename_i not
          exact ⟨.refl _, rfl, rfl, .inr ⟨l, moved', fun close first => absurd ⟨close, first⟩ not⟩⟩
      · cases next
  | readMsg c rawMsg =>
      obtain ⟨conn, there, moved⟩ := Option.bind_eq_some_iff.1 next
      split at moved
      · rename_i reading
        have running : conn.reader.Running := by
          rw [reading]
          trivial
        split at moved
        · cases moved
          exact .set there ⟨nofun, fun _ => running, id⟩
        · cases moved
          exact .set there ⟨id, fun _ => running, id⟩
        · cases moved
          exact ⟨.refl _, rfl, rfl, .inl rfl⟩
        · cases moved
          exact ⟨.refl _, rfl, rfl, .inl rfl⟩
      · cases moved
  | forwardMsg c =>
      obtain ⟨conn, there, moved⟩ := Option.bind_eq_some_iff.1 next
      split at moved
      · rename_i m forwarding
        have running : conn.reader.Running := by
          rw [forwarding]
          trivial
        split at moved
        · obtain ⟨fwd, sent, rfl⟩ := Option.map_eq_some_iff.1 moved
          exact .channel there ⟨id, fun _ => running, id⟩ (run_of_step sent) nofun
        · cases moved
        · cases moved
          exact .set there ⟨nofun, nofun, id⟩
      · cases moved
  | notifyClosed c =>
      obtain ⟨conn, there, moved⟩ := Option.bind_eq_some_iff.1 next
      split at moved
      · cases moved
        exact .set there ⟨id, nofun, id⟩
      · cases moved
  | next c =>
      obtain ⟨conn, there, moved⟩ := Option.bind_eq_some_iff.1 next
      split at moved
      · rename_i selecting
        have running : conn.sender.Running := by
          rw [selecting]
          trivial
        split at moved
        · obtain ⟨fwd, received, rfl⟩ := Option.map_eq_some_iff.1 moved
          exact .channel there ⟨id, id, fun _ => running⟩ (run_of_step received) nofun
        · cases moved
          exact .set there ⟨id, id, nofun⟩
        · cases moved
        · cases moved
      · cases moved
  | write c err =>
      obtain ⟨conn, there, moved⟩ := Option.bind_eq_some_iff.1 next
      split at moved
      · rename_i udpMsg writing
        have running : conn.sender.Running := by
          rw [writing]
          trivial
        split at moved
        · cases moved
          exact .set there ⟨nofun, id, nofun⟩
        · cases moved
          exact .set there ⟨id, id, fun _ => running⟩
      · cases moved
  | done c =>
      obtain ⟨conn, there, moved⟩ := Option.bind_eq_some_iff.1 next
      split at moved
      · cases moved
        exact .set there ⟨id, id, nofun⟩
      · cases moved

/-- What each step finds, and what it makes of the state. -/
inductive Moves (s : State) : Label → State → Prop
  | beside {l : Label} {t : State} (other : ofLoop l = false) (beside : Beside s t) : Moves s l t
  | take (isOpen : Bool) (taking : s.loop = .taking) :
      Moves s (.take (some isOpen))
        { s with
          conns := s.conns ++ [⟨isOpen, .notStarted, .notStarted, false⟩]
          loop := .taken s.conns.length }
  | takeFails (taking : s.loop = .taking) : Moves s (.take none) { s with loop := .failed }
  | check (failed : s.loop = .failed) :
      Moves s .check { s with loop := if s.fwd.checkCloseCh.closed then .returned else .taking }
  | closeOld {c : Nat} (taken : s.loop = .taken c) :
      Moves s .closeOld { s.closeRecorded with loop := .replacing c }
  | drop {c : Nat} (replacing : s.loop = .replacing c) :
      Moves s (.wrap true) { s.closeConn c with loop := .taking }
  | wrap {c : Nat} (replacing : s.loop = .replacing c) :
      Moves s (.wrap false) { s with loop := .wrapped c }
  | record {c : Nat} (wrapped : s.loop = .wrapped c) :
      Moves s .record { s with workConn := some c, loop := .recorded c }
  | serve {c : Nat} {conn : Conn} (recorded : s.loop = .recorded c)
      (there : s.conns[c]? = some conn) :
      Moves s .serve
        { s.setConn c { conn with reader := .reading, sender := .selecting } with
          loop := .waiting c }
  | notify {c d : Nat} {conn : Conn} (there : s.conns[c]? = some conn)
      (notifying : conn.reader = .notifying) (waiting : s.loop = .waiting d) :
      Moves s (.notify c)
        { (s.setConn c { conn with reader := .returned }).cancel d with loop := .taking }
  | notifyFailed {c : Nat} {conn : Conn} (there : s.conns[c]? = some conn)
      (notifying : conn.reader = .notifying) (failed : s.loop = .failed) :
      Moves s (.notify c) { s.setConn c { conn with reader := .returned } with loop := .taking }
  | seeClosed {d : Nat} (waiting : s.loop = .waiting d) :
      Moves s .seeClosed { s.cancel d with loop := .returned }

theorem run_moves (next : run useEncryption s l = some t) : Moves s l t := by
  cases l with
  | take isOpen =>
      obtain ⟨taking, moved⟩ := Option.ite_none_right_eq_some.1 next
      cases isOpen with
      | some isOpen =>
          cases moved
          exact .take isOpen taking
      | none =>
          cases moved
          exact .takeFails taking
  | check =>
      obtain ⟨failed, moved⟩ := Option.ite_none_right_eq_some.1 next
      cases moved
      exact .check failed
  | closeOld =>
      simp only [run] at next
      split at next
      · rename_i c taken
        cases next
        exact .closeOld taken
      · cases next
  | wrap err =>
      simp only [run] at next
      split at next
      · rename_i c replacing
        cases err with
        | true =>
            obtain ⟨-, moved⟩ := Option.ite_none_right_eq_some.1 next
            cases moved
            exact .drop replacing
        | false =>
            cases next
            exact .wrap replacing
      · cases next
  | record =>
      simp only [run] at next
      split at next
      · rename_i c wrapped
        cases next
        exact .record wrapped
      · cases next
  | serve =>
      simp only [run] at next
      split at next
      · rename_i c recorded
        obtain ⟨conn, there, rfl⟩ := Option.map_eq_some_iff.1 next
        exact .serve recorded there
      · cases next
  | notify c =>
      obtain ⟨conn, there, moved⟩ := Option.bind_eq_some_iff.1 next
      obtain ⟨⟨notifying, -⟩, moved⟩ := Option.ite_none_right_eq_some.1 moved
      dsimp only at moved
      split at moved
      · rename_i d waiting
        cases moved
        exact .notify there notifying waiting
      · rename_i failed
        cases moved
        exact .notifyFailed there notifying failed
      · cases moved
  | seeClosed =>
      simp only [run] at next
      split at next
      · rename_i d waiting
        obtain ⟨-, moved⟩ := Option.ite_none_right_eq_some.1 next
        cases moved
        exact .seeClosed waiting
      · cases next
  | _ => exact .beside rfl (run_beside rfl next)

/-! ## The invariant -/

/-- The connection that the loop has taken and not recorded yet. -/
def Loop.inHand : Loop → Option Nat
  | .taken c | .replacing c | .wrapped c => some c
  | .taking | .failed | .recorded _ | .waiting _ | .returned => none

/-- The loop is past the close of the old connection. -/
def Loop.Replacing : Loop → Prop
  | .replacing _ | .wrapped _ => True
  | .taking | .failed | .taken _ | .recorded _ | .waiting _ | .returned => False

def RecordedClosed (s : State) : Prop :=
  ∀ c, s.workConn = some c → ∀ conn, s.conns[c]? = some conn → conn.isOpen = false

structure Inv (s : State) : Prop where
  progress : Progress .udpProxy s.fwd
  /-- The connections in use are there. -/
  bound : ∀ c, s.workConn = some c ∨ s.loop.inHand = some c → c < s.conns.length
  /-- An open connection is the recorded one or the one in hand. -/
  owned : ∀ (c : Nat) conn, s.conns[c]? = some conn → conn.isOpen = true →
    s.workConn = some c ∨ s.loop.inHand = some c
  /-- The one in hand is not served. -/
  fresh : ∀ c, s.loop.inHand = some c → ∀ conn, s.conns[c]? = some conn →
    ¬ conn.reader.Running ∧ ¬ conn.sender.Running
  /-- The reader that runs is the one that the loop waits for. -/
  readers : ∀ (c : Nat) conn, s.conns[c]? = some conn → conn.reader.Running →
    s.workConn = some c ∧ (s.loop = .waiting c ∨ s.loop = .returned)
  old : s.loop.Replacing → RecordedClosed s
  recorded : ∀ c, s.loop = .recorded c ∨ s.loop = .waiting c → s.workConn = some c

theorem inv_start : Inv start where
  progress := progress_start .udpProxy
  bound c used := by rcases used with none | none <;> cases none
  owned c conn none := by cases none
  fresh c none := by cases none
  readers c conn none := by cases none
  old none := none.elim
  recorded c none := by rcases none with none | none <;> cases none

theorem RecordedClosed.quieter (closed : RecordedClosed s) (less : Quieter s.conns t.conns)
    (workConn : t.workConn = s.workConn) : RecordedClosed t := by
  intro c used conn' there'
  rw [workConn] at used
  obtain ⟨conn, there, quiet⟩ := less.conn c conn' there'
  by_contra isOpen
  rw [Bool.not_eq_false] at isOpen
  have still := closed c used conn there
  rw [quiet.isOpen isOpen] at still
  cases still

/-- Steps that start nothing keep the invariant, whatever the loop does, if it holds on to
what it has in hand and still waits for a reader that runs. -/
theorem Inv.quieter (inv : Inv s) (progress : Progress .udpProxy t.fwd)
    (less : Quieter s.conns t.conns) (workConn : t.workConn = s.workConn)
    (inHand : t.loop.inHand = s.loop.inHand)
    (waits : ∀ (c : Nat) conn, t.conns[c]? = some conn → conn.reader.Running →
      s.loop = .waiting c ∨ s.loop = .returned → t.loop = .waiting c ∨ t.loop = .returned)
    (old : t.loop.Replacing → RecordedClosed t)
    (recorded : ∀ c, t.loop = .recorded c ∨ t.loop = .waiting c → s.workConn = some c) :
    Inv t where
  progress := progress
  bound c used := by
    rw [workConn, inHand] at used
    rw [less.length]
    exact inv.bound c used
  owned c conn' there' isOpen := by
    obtain ⟨conn, there, quiet⟩ := less.conn c conn' there'
    rw [workConn, inHand]
    exact inv.owned c conn there (quiet.isOpen isOpen)
  fresh c hand conn' there' := by
    obtain ⟨conn, there, quiet⟩ := less.conn c conn' there'
    rw [inHand] at hand
    obtain ⟨reader, sender⟩ := inv.fresh c hand conn there
    exact ⟨reader ∘ quiet.reader, sender ∘ quiet.sender⟩
  readers c conn' there' running := by
    obtain ⟨conn, there, quiet⟩ := less.conn c conn' there'
    obtain ⟨used, waiting⟩ := inv.readers c conn there (quiet.reader running)
    exact ⟨workConn.trans used, waits c conn' there' running waiting⟩
  old := old
  recorded c at_c := workConn.trans (recorded c at_c)

theorem inv_beside (inv : Inv s) (beside : Beside s t) : Inv t := by
  have progress : Progress .udpProxy t.fwd := by
    rcases beside.fwd with same | ⟨l, next, -⟩
    · rw [same]
      exact inv.progress
    · exact inv.progress.moves (Udp.run_moves next)
  apply inv.quieter progress beside.conns beside.workConn
  · rw [beside.loop]
  · intro c conn there running waiting
    rw [beside.loop]
    exact waiting
  · intro replacing
    rw [beside.loop] at replacing
    exact (inv.old replacing).quieter beside.conns beside.workConn
  · intro c at_c
    rw [beside.loop] at at_c
    exact inv.recorded c at_c

/-- No reader runs while the loop is not waiting. -/
theorem Inv.no_reader (inv : Inv s) (waiting : ∀ c, s.loop ≠ .waiting c)
    (runs : s.loop ≠ .returned) (c : Nat) (conn : Conn) (there : s.conns[c]? = some conn) :
    ¬ conn.reader.Running := by
  intro running
  rcases (inv.readers c conn there running).2 with at_c | returned
  · exact waiting c at_c
  · exact runs returned

theorem inv_take (inv : Inv s) (taking : s.loop = .taking) (isOpen : Bool) :
    Inv { s with
      conns := s.conns ++ [⟨isOpen, .notStarted, .notStarted, false⟩]
      loop := .taken s.conns.length } := by
  have bound : ∀ c, s.workConn = some c → c < s.conns.length :=
    fun c used => inv.bound c (.inl used)
  refine ⟨inv.progress, ?_, ?_, ?_, ?_, fun none => none.elim, fun c none => ?_⟩
  · intro c used
    rw [List.length_append]
    rcases used with used | hand
    · exact Nat.lt_succ_of_lt (bound c used)
    · cases hand
      exact Nat.lt_succ_self _
  · intro c conn there conn_open
    rcases Slots.append_cases there with before | ⟨rfl, rfl⟩
    · rcases inv.owned c conn before conn_open with used | hand
      · exact .inl used
      · rw [taking] at hand
        cases hand
    · exact .inr rfl
  · intro c hand conn there
    cases hand
    rcases Slots.append_cases there with before | ⟨-, rfl⟩
    · rw [List.getElem?_eq_none (le_refl _)] at before
      cases before
    · exact ⟨id, id⟩
  · intro c conn there running
    rcases Slots.append_cases there with before | ⟨rfl, rfl⟩
    · exact absurd running (inv.no_reader (by simp [taking]) (by simp [taking]) c conn before)
    · exact running.elim
  · rcases none with none | none <;> cases none

theorem inv_record (inv : Inv s) {c : Nat} (wrapped : s.loop = .wrapped c) :
    Inv { s with workConn := some c, loop := .recorded c } := by
  have hand : s.loop.inHand = some c := by
    rw [wrapped]
    rfl
  have closed : RecordedClosed s := inv.old (by rw [wrapped]; trivial)
  refine ⟨inv.progress, ?_, ?_, ?_, ?_, fun none => none.elim, ?_⟩
  · intro d used
    apply inv.bound d
    rcases used with used | none
    · exact .inr (hand.trans used)
    · cases none
  · intro d conn there isOpen
    rcases inv.owned d conn there isOpen with used | hand'
    · rw [closed d used conn there] at isOpen
      cases isOpen
    · exact .inl (hand.symm.trans hand')
  · intro d none
    cases none
  · intro d conn there running
    exact absurd running (inv.no_reader (by simp [wrapped]) (by simp [wrapped]) d conn there)
  · rintro d (at_d | none)
    · cases at_d
      rfl
    · cases none

theorem inv_serve (inv : Inv s) {c : Nat} {conn : Conn} (recorded : s.loop = .recorded c)
    (there : s.conns[c]? = some conn) :
    Inv { s.setConn c { conn with reader := .reading, sender := .selecting } with
      loop := .waiting c } := by
  have used : s.workConn = some c := inv.recorded c (.inl recorded)
  refine ⟨inv.progress, ?_, ?_, ?_, ?_, fun none => none.elim, ?_⟩
  · intro d used'
    show d < (s.conns.set c _).length
    rw [List.length_set]
    rcases used' with used' | none
    · exact inv.bound d (.inl used')
    · cases none
  · intro d other at_d isOpen
    rcases Slots.set_cases at_d with ⟨rfl, -⟩ | ⟨-, before⟩
    · exact .inl used
    · rcases inv.owned d other before isOpen with used' | hand
      · exact .inl used'
      · rw [recorded] at hand
        cases hand
  · intro d none
    cases none
  · intro d other at_d running
    rcases Slots.set_cases at_d with ⟨rfl, -⟩ | ⟨-, before⟩
    · exact ⟨used, .inl rfl⟩
    · exact absurd running (inv.no_reader (by simp [recorded]) (by simp [recorded]) d other before)
  · rintro d (none | at_d)
    · cases none
    · cases at_d
      exact used

/-- The reader that the loop hears from is the one that runs, and it ends. -/
theorem inv_notify (inv : Inv s) {c d : Nat} {conn : Conn} (there : s.conns[c]? = some conn)
    (notifying : conn.reader = .notifying) (waiting : s.loop = .waiting d) :
    Inv { (s.setConn c { conn with reader := .returned }).cancel d with loop := .taking } := by
  have running : conn.reader.Running := by
    rw [notifying]
    trivial
  have quiet : conn.Quieter { conn with reader := .returned } := ⟨id, nofun, id⟩
  have less := (Quieter.set there quiet).trans (quieter_cancel (s.setConn c _) d)
  refine Inv.quieter inv inv.progress less rfl ?_ ?_ ?_ ?_
  · rw [waiting]
    rfl
  · -- no other reader runs, and this one has returned
    intro e other at_e runs at_loop
    exfalso
    have used := (inv.readers c conn there running).1
    obtain ⟨old, was, quiet'⟩ := less.conn e other at_e
    have used' := (inv.readers e old was (quiet'.reader runs)).1
    rw [used] at used'
    cases used'
    obtain ⟨mid, at_mid, quiet''⟩ := (quieter_cancel (s.setConn c _) d).conn c other at_e
    rw [State.setConn, Slots.set_self there] at at_mid
    cases at_mid
    exact quiet''.reader runs
  · intro none
    exact none.elim
  · rintro e (none | none)
    · cases none
    · cases none

/-- The encryption fails, and the connection in hand is closed. -/
theorem inv_drop (inv : Inv s) {c : Nat} (replacing : s.loop = .replacing c) :
    Inv { s.closeConn c with loop := .taking } := by
  have less := quieter_closeConn s c
  refine ⟨inv.progress, ?_, ?_, ?_, ?_, fun none => none.elim, fun d none => ?_⟩
  · intro d used
    show d < (s.closeConn c).conns.length
    rw [less.length]
    rcases used with used | none
    · exact inv.bound d (.inl used)
    · cases none
  · intro d conn there isOpen
    obtain ⟨old, was, quiet⟩ := less.conn d conn there
    rcases inv.owned d old was (quiet.isOpen isOpen) with used | hand
    · exact .inl used
    · rw [replacing] at hand
      cases hand
      rw [closed_closeConn there] at isOpen
      cases isOpen
  · intro d none
    cases none
  · intro d conn there running
    obtain ⟨old, was, quiet⟩ := less.conn d conn there
    exact absurd (quiet.reader running)
      (inv.no_reader (by simp [replacing]) (by simp [replacing]) d old was)
  · rcases none with none | none <;> cases none

/-- The loop goes on with what it has in hand, and with no reader. -/
theorem Inv.setLoop (inv : Inv s) {loop : Loop} (inHand : loop.inHand = s.loop.inHand)
    (waiting : ∀ c, s.loop ≠ .waiting c) (runs : s.loop ≠ .returned)
    (old : loop.Replacing → RecordedClosed s)
    (recorded : ∀ c, loop ≠ .recorded c ∧ loop ≠ .waiting c) : Inv { s with loop := loop } := by
  refine inv.quieter inv.progress (.refl _) rfl inHand ?_ old ?_
  · rintro c conn there running (at_c | returned)
    · exact absurd at_c (waiting c)
    · exact absurd returned runs
  · rintro c (at_c | at_c)
    · exact absurd at_c (recorded c).1
    · exact absurd at_c (recorded c).2

theorem inv_closeOld (inv : Inv s) {c : Nat} (taken : s.loop = .taken c) :
    Inv { s.closeRecorded with loop := .replacing c } := by
  refine Inv.quieter inv ?_ (quieter_closeRecorded s) s.closeRecorded_workConn
    (by rw [taken]; rfl) ?_ ?_ ?_
  · show Progress .udpProxy s.closeRecorded.fwd
    rw [State.closeRecorded_fwd]
    exact inv.progress
  · simp [taken]
  · intro _ d used conn there
    exact closed_closeRecorded (s.closeRecorded_workConn ▸ used) there
  · simp

theorem Inv.moves (inv : Inv s) (moves : Moves s l t) : Inv t := by
  cases moves with
  | beside other beside => exact inv_beside inv beside
  | take isOpen taking => exact inv_take inv taking isOpen
  | takeFails taking =>
      exact inv.setLoop (by rw [taking]; rfl) (by simp [taking]) (by simp [taking])
        (fun none => none.elim) (by simp)
  | check failed =>
      cases s.fwd.checkCloseCh.closed with
      | true =>
          exact inv.setLoop (by rw [failed]; rfl) (by simp [failed]) (by simp [failed])
            (fun none => none.elim) (by simp)
      | false =>
          exact inv.setLoop (by rw [failed]; rfl) (by simp [failed]) (by simp [failed])
            (fun none => none.elim) (by simp)
  | closeOld taken => exact inv_closeOld inv taken
  | drop replacing => exact inv_drop inv replacing
  | wrap replacing =>
      exact inv.setLoop (by rw [replacing]; rfl) (by simp [replacing]) (by simp [replacing])
        (fun _ => inv.old (by rw [replacing]; trivial)) (by simp)
  | record wrapped => exact inv_record inv wrapped
  | serve recorded there => exact inv_serve inv recorded there
  | notify there notifying waiting => exact inv_notify inv there notifying waiting
  | @notifyFailed c conn there notifying failed =>
      refine absurd ?_ (inv.no_reader (by simp [failed]) (by simp [failed]) c conn there)
      rw [notifying]
      trivial
  | @seeClosed d waiting =>
      refine Inv.quieter inv inv.progress (quieter_cancel s d) rfl (by rw [waiting]; rfl) ?_
        (fun none => none.elim) ?_
      · simp
      · simp

theorem alive_and_run (next : step useEncryption s l = some t) :
    s.fwd.panicked = false ∧ run useEncryption s l = some t := by
  unfold step at next
  split at next
  · cases next
  · rename_i alive
    exact ⟨eq_false_of_ne_true alive, next⟩

theorem step_inv (inv : Inv s) (next : step useEncryption s l = some t) : Inv t :=
  inv.moves (run_moves (alive_and_run next).2)

/-! ## Recorded and served -/

/-- The reader runs, or the sender writes to an open connection. -/
def State.Served (s : State) (c : Nat) : Prop :=
  ∃ conn, s.conns[c]? = some conn ∧
    (conn.reader.Running ∨ conn.isOpen = true ∧ conn.sender.Running)

/-- The connections that are served are the recorded one. -/
def OneServed (s : State) : Prop := ∀ c, s.Served c → s.workConn = some c

theorem Inv.oneServed (inv : Inv s) : OneServed s := by
  rintro c ⟨conn, there, running | ⟨isOpen, running⟩⟩
  · exact (inv.readers c conn there running).1
  · rcases inv.owned c conn there isOpen with used | hand
    · exact used
    · exact absurd running (inv.fresh c hand conn there).2

/-! ## Closed behind the loop -/

/-- `Close` has returned and the loop has ended, and no connection is open. -/
def Clean (s : State) : Prop :=
  s.fwd.isClosed = true → s.fwd.pending = [] → s.loop = .returned →
    ∀ (c : Nat) conn, s.conns[c]? = some conn → conn.isOpen = false

/-- The loop does not record an open connection once `Close` has closed the recorded one. -/
def Guard (s : State) : Label → Prop
  | .record => Looked s.fwd → ∀ c, s.loop = .wrapped c →
      ∀ conn, s.conns[c]? = some conn → conn.isOpen = false
  | _ => True

/-- What `Close` has closed stays the last connection that was recorded. -/
def Shut (s : State) : Prop := Looked s.fwd → RecordedClosed s

/-- `setClosed` comes before `closeWorkConn`. -/
theorem setClosed_before_workConn {performed rest : List Action}
    (order : performed ++ rest = Owner.udpProxy.closing)
    (closed : Action.closeWorkConn ∈ performed) : Action.setClosed ∈ performed := by
  have prefixes : ∀ init ∈ Owner.udpProxy.closing.inits,
      Action.closeWorkConn ∈ init → Action.setClosed ∈ init := by decide
  apply prefixes performed _ closed
  rw [List.mem_inits, ← order]
  exact List.prefix_append performed rest

/-- `Close` is past the recorded connection only by closing it. -/
theorem looked_moves {fwd fwd' : Udp.State} {l : Udp.Label} (progress : Progress .udpProxy fwd)
    (moves : Udp.Moves .udpProxy fwd l fwd') (looked : Looked fwd') :
    Looked fwd ∨ l = .close ∧ fwd.pending.head? = some .closeWorkConn := by
  obtain ⟨isClosed, past⟩ := looked
  cases moves with
  | callClose =>
      have ahead : Action.closeWorkConn ∈ Owner.udpProxy.closing := by decide
      exact absurd ahead past
  | @close action rest _ pending acted =>
      by_cases this : action = .closeWorkConn
      · subst this
        exact .inr ⟨rfl, by rw [pending]; rfl⟩
      · left
        rcases progress with ⟨performed, closed, order | ⟨-, idle⟩⟩
        · have beyond : Action.closeWorkConn ∉ fwd.pending := by
            rw [pending, List.mem_cons, not_or]
            exact ⟨fun same => this same.symm, past⟩
          have performed_it : Action.closeWorkConn ∈ performed := by
            have all : Action.closeWorkConn ∈ performed ++ fwd.pending := by
              rw [order]
              decide
            exact (List.mem_append.1 all).resolve_right beyond
          exact ⟨closed.isClosed.2 (setClosed_before_workConn order performed_it), beyond⟩
        · rw [idle] at pending
          cases pending
  | _ => exact .inl ⟨isClosed, past⟩

/-- Only a step that records lets an open connection be the recorded one. -/
theorem recordedClosed_moves (inv : Inv s) (closed : RecordedClosed s) (other : l ≠ .record)
    (moves : Moves s l t) : RecordedClosed t := by
  cases moves with
  | record => exact absurd rfl other
  | beside other beside => exact closed.quieter beside.conns beside.workConn
  | take =>
      intro c used conn there
      apply closed c used conn
      rw [List.getElem?_append_left (inv.bound c (.inl used))] at there
      exact there
  | takeFails | check | wrap => exact closed
  | closeOld =>
      intro c used conn there
      exact closed_closeRecorded (s.closeRecorded_workConn ▸ used) there
  | drop => exact closed.quieter (quieter_closeConn s _) rfl
  | @serve c conn recorded there =>
      intro d used other at_d
      change (s.conns.set c _)[d]? = some other at at_d
      rcases Slots.set_cases at_d with ⟨rfl, rfl⟩ | ⟨-, before⟩
      · exact closed d used conn there
      · exact closed d used other before
  | @notify c d conn there =>
      have quiet : conn.Quieter { conn with reader := .returned } := ⟨id, nofun, id⟩
      exact closed.quieter ((Quieter.set there quiet).trans (quieter_cancel (s.setConn c _) d)) rfl
  | @notifyFailed c conn there =>
      have quiet : conn.Quieter { conn with reader := .returned } := ⟨id, nofun, id⟩
      exact closed.quieter (Quieter.set there quiet) rfl
  | seeClosed => exact closed.quieter (quieter_cancel s _) rfl

theorem fwd_of_loop (loop : ofLoop l = true) (moves : Moves s l t) : t.fwd = s.fwd := by
  cases moves with
  | beside other => cases loop.symm.trans other
  | closeOld => exact s.closeRecorded_fwd
  | _ => rfl

/-- The mutex and the order in `Close` leave one gap, and the condition closes it. -/
theorem Shut.moves (inv : Inv s) (shut : Shut s) (guard : Guard s l) (moves : Moves s l t) :
    Shut t := by
  intro looked
  cases loop : ofLoop l with
  | true =>
      rw [fwd_of_loop loop moves] at looked
      by_cases records : l = .record
      · subst records
        cases moves with
        | beside other => cases other
        | @record c wrapped =>
            intro d used conn there
            cases used
            exact guard looked c wrapped conn there
      · exact recordedClosed_moves inv (shut looked) records moves
  | false =>
      cases moves with
      | beside other beside =>
          rcases beside.fwd with same | ⟨l', moved, closes⟩
          · rw [same] at looked
            exact (shut looked).quieter beside.conns beside.workConn
          · rcases looked_moves inv.progress (Udp.run_moves moved) looked with before | ⟨close, first⟩
            · exact (shut before).quieter beside.conns beside.workConn
            · intro c used conn there
              rw [closes close first] at there
              exact closed_closeRecorded (beside.workConn ▸ used) there
      | _ => cases loop

theorem Inv.clean (inv : Inv s) (shut : Shut s) : Clean s := by
  intro isClosed finished returned c conn there
  by_contra isOpen
  rw [Bool.not_eq_false] at isOpen
  have looked : Looked s.fwd := by
    refine ⟨isClosed, ?_⟩
    rw [finished]
    exact List.not_mem_nil
  rcases inv.owned c conn there isOpen with used | hand
  · rw [shut looked c used conn there] at isOpen
    cases isOpen
  · rw [returned] at hand
    cases hand

/-! ## A connection that stays open -/

/-- The loop waits on an open connection that `Close` will not close any more. -/
structure Forgotten (c : Nat) (s : State) : Prop where
  progress : Progress .udpProxy s.fwd
  looked : Looked s.fwd
  alive : s.fwd.panicked = false
  waiting : s.loop = .waiting c
  isOpen : ∃ conn, s.conns[c]? = some conn ∧ conn.isOpen = true

/-- The next action of `Close` does not touch the connection. -/
theorem forgotten_close {c : Nat} (forgotten : Forgotten c s) {action : Action}
    {rest : List Action} (pending : s.fwd.pending = action :: rest) :
    ∃ t, step useEncryption s (.forwarder .close) = some t ∧ Forgotten c t ∧
      t.fwd.pending = rest := by
  obtain ⟨progress, ⟨isClosed, past⟩, alive, waiting, isOpen⟩ := forgotten
  have before := progress
  rcases before with ⟨performed, closed, order | ⟨-, idle⟩⟩
  · rw [pending] at order past
    have new := not_performed order
    obtain ⟨fwd, acted, kept⟩ := act_goes closed new
    obtain ⟨-, -, -, panicked, -⟩ := act_spec closed new acted
    have moved : Udp.run .udpProxy s.fwd .close = some { fwd with pending := rest } := by
      simp only [Udp.run, pending, acted, Option.map_some]
    have moved' : Udp.step .udpProxy s.fwd .close = some { fwd with pending := rest } := by
      rw [Udp.step, alive, if_neg (by decide), moved]
    have elsewhere : closeFor s .close = s := by
      unfold closeFor
      rw [if_neg]
      rintro ⟨-, first⟩
      rw [pending] at first
      cases first
      exact past List.mem_cons_self
    refine ⟨{ s with fwd := { fwd with pending := rest } }, ?_, ?_, rfl⟩
    · rw [step, alive, if_neg (by decide)]
      simp only [run, ofForwarder, if_true, moved', Option.map_some, elsewhere]
    · refine ⟨progress.moves (Udp.run_moves moved), ⟨kept isClosed, ?_⟩, panicked.trans alive, waiting,
        isOpen⟩
      exact fun later => past (List.mem_cons_of_mem action later)
  · rw [idle] at pending
    cases pending

/-- `Close` returns and the loop ends, and the connection is open. -/
theorem forgotten_stays {c : Nat} (forgotten : Forgotten c s) :
    CanReach (step useEncryption) (fun t => ¬ Clean t) s := by
  have returns : CanReach (step useEncryption)
      (fun t => Forgotten c t ∧ t.fwd.pending = []) s := by
    apply canReach_of_measure (Forgotten c) (fun t => t.fwd.pending.length) ?_ forgotten
    intro s forgotten unfinished
    cases pending : s.fwd.pending with
    | nil => exact absurd ⟨forgotten, pending⟩ unfinished
    | cons action rest =>
        obtain ⟨t, next, still, left⟩ : ∃ t, step useEncryption s (.forwarder .close) = some t ∧
            Forgotten c t ∧ t.fwd.pending = rest := forgotten_close forgotten pending
        refine ⟨_, t, next, still, ?_⟩
        rw [left]
        exact Nat.lt_succ_self _
  refine returns.trans ?_
  rintro t ⟨⟨progress, looked, alive, waiting, conn, there, isOpen⟩, finished⟩
  have shut : t.fwd.checkCloseCh.closed = true := by
    rcases progress with ⟨performed, closed, order | ⟨rfl, -⟩⟩
    · rw [finished, List.append_nil] at order
      rw [closed.checkCloseCh, order]
      decide
    · exact absurd (closed.isClosed.1 looked.1) List.not_mem_nil
  have next : step useEncryption t .seeClosed = some { t.cancel c with loop := .returned } := by
    rw [step, alive, if_neg (by decide)]
    simp only [run, waiting, shut, if_true]
  refine .of_step next (.here ?_)
  intro clean
  have ended := clean looked.1 finished rfl c { conn with cancelled := true } (by
    show (t.conns.modify c _)[c]? = _
    rw [List.getElem?_modify_eq, there]
    rfl)
  rw [isOpen] at ended
  cases ended

/-- A step that breaks the condition leads to a connection that outlives the proxy. -/
theorem unclean_of_unguarded (unguarded : ¬ Guard s l) (inv : Inv s)
    (next : step useEncryption s l = some t) :
    ∃ more, ¬ Along (step useEncryption) (fun _ _ u => Clean u) s (l :: more) := by
  cases l with
  | record =>
      simp only [Guard, Classical.not_imp, not_forall, Bool.not_eq_false] at unguarded
      obtain ⟨looked, c, wrapped, conn, there, isOpen⟩ := unguarded
      apply not_along_of_canReach next
      obtain ⟨alive, moved⟩ := alive_and_run next
      simp only [run, wrapped, Option.some.injEq] at moved
      subst moved
      let served : State :=
        { s with
          conns := s.conns.set c { conn with reader := .reading, sender := .selecting }
          workConn := some c
          loop := .waiting c }
      have serves : step useEncryption { s with workConn := some c, loop := .recorded c } .serve =
          some served := by
        rw [step, alive, if_neg (by decide)]
        simp only [run, there, Option.map_some]
        rfl
      have forgotten : Forgotten c served :=
        ⟨inv.progress, looked, alive, rfl, _, Slots.set_self there, isOpen⟩
      exact .of_step serves (forgotten_stays forgotten)
  | _ => exact absurd trivial unguarded

end Steps

/-- **One work connection at most is recorded and served, in every run; and none outlives
the proxy in the runs whose loop records no open connection after `Close` has closed the
recorded one**, while any other step of such a run leads to one that does. -/
theorem work_conns_closed (useEncryption : Bool) :
    (∀ ls, Along (step useEncryption) (fun _ _ t => OneServed t) start ls) ∧
    (∀ ls, Along (step useEncryption) (fun s l _ => Guard s l) start ls →
      Along (step useEncryption) (fun _ _ t => Clean t) start ls) ∧
    ∀ ls s l t, Along (step useEncryption) (fun s l _ => Guard s l) start ls →
      exec (step useEncryption) start ls = some s → ¬ Guard s l →
        step useEncryption s l = some t →
          ∃ more, ¬ Along (step useEncryption) (fun _ _ t => Clean t) start (ls ++ l :: more) := by
  have begin : Inv start ∧ Shut start := ⟨inv_start, fun looked => by cases looked.1⟩
  have kept : ∀ s l t, Inv s ∧ Shut s → Guard s l → step useEncryption s l = some t →
      Inv t ∧ Shut t := by
    rintro s l t ⟨inv, shut⟩ guard next
    exact ⟨step_inv inv next, shut.moves inv guard (run_moves (alive_and_run next).2)⟩
  have tight := strengthen_and_tight (fun s => Inv s ∧ Shut s) kept
    (fun s l t both guard next =>
      let ⟨inv, shut⟩ := kept s l t both guard next
      inv.clean shut)
    (fun _ _ _ both unguarded next => unclean_of_unguarded unguarded both.1 next) begin
  refine ⟨?_, fun ls => (tight ls).1, fun ls => (tight ls).2⟩
  intro ls
  have free : Along (step useEncryption) (fun _ _ _ => True) start ls :=
    along_of_forall (fun _ _ _ => trivial) start ls
  exact free.strengthen Inv (fun _ _ _ inv _ next => step_inv inv next)
    (fun _ _ _ inv _ next => (step_inv inv next).oneServed) inv_start

/-- The loop is in `GetWorkConnFromPool` when `Close` runs, and gets a connection. -/
def lateConn : List Label :=
  .forwarder .callClose ::
    List.replicate Owner.udpProxy.closing.length (.forwarder .close) ++
    [.take (some true), .closeOld, .wrap false, .record, .serve, .seeClosed]

theorem conn_outlives_proxy :
    ¬ Along (step false) (fun _ _ t => Clean t) start lateConn := by
  have reached : (exec (step false) start lateConn).map
      (fun t => (t.fwd.isClosed, t.fwd.pending, t.loop, t.conns.map Conn.isOpen)) =
      some (true, [], .returned, [true]) := by decide
  obtain ⟨t, run, found⟩ := Option.map_eq_some_iff.1 reached
  simp only [Prod.mk.injEq] at found
  obtain ⟨isClosed, finished, returned, conns⟩ := found
  intro along
  have clean : Clean t := along.last run
  have there : t.conns.map Conn.isOpen = [true] := conns
  obtain ⟨conn, one, isOpen⟩ := List.map_eq_singleton_iff.1 there
  have ended := clean isClosed finished returned 0 conn (by rw [one]; rfl)
  rw [isOpen] at ended
  cases ended

end ChmlFrp.Udp.WorkConn
