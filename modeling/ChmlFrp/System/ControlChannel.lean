/-
# ChmlFrp.System.ControlChannel — messages on the control connection

`writer` and `reader` of both controls (`client/control.go`, `server/control.go`) with the
channels around them, after the login.  What a goroutine puts into `sendCh` the writer packs
and writes to the cipher on the connection; the reader of the other side makes messages of the
bytes that come in, a byte at a time, and puts them into `readCh` for its handler.  A write may
fail after any part of a message, a read at any byte, either side may close the connection and
either handler return; the channels are closed in the order of `worker` and `stoper`.

The two directions are two lines.  The cipher and the format of a message are parameters.

* `handled_in_order`: the handler of one side gets the messages that were put into `sendCh` of
  the other in their order, each once and as it was, up to some point.
* `relay_drains`: if nothing fails, that point is the end, or the first message that the reader
  refuses, after a number of steps that is known in advance.
-/
import ChmlFrp.Lib.Chan
import ChmlFrp.Lib.Frames
import ChmlFrp.System.TcpTunnel
import Mathlib.Data.List.TakeWhile
import Mathlib.Logic.Function.Basic

namespace ChmlFrp.System.ControlChannel

set_option autoImplicit false

open ChmlFrp.Lib
open ChmlFrp.Lib.Transition
open TcpTunnel (Golib Tokens)

universe u

/-! ## One direction -/

section Types

variable (μ : Type u)

inductive Writer where
  /-- At `crypto.NewWriter`. -/
  | starting
  | receiving
  /-- At `msg.WriteMsg`. -/
  | writing (m : μ)
  /-- With the message whose write failed. -/
  | returned (failed : Option μ)
  deriving DecidableEq, Repr

inductive Reader where
  /-- In `msg.ReadMsg`, with the bytes of the message that have come in. -/
  | reading (buf : GoString)
  /-- At `ctl.readCh <- m`. -/
  | delivering (m : μ)
  | returned (buf : GoString)
  deriving DecidableEq, Repr

/-- From `sendCh` of one side to `readCh` of the other; `sent` and `handled` is what has gone in
and what the handler has taken out. -/
structure Line where
  sendCh : Chan μ
  writer : Writer μ
  pipe : Pipe UInt8
  reader : Reader μ
  readCh : Chan μ
  sent : List μ
  handled : List μ

inductive Act where
  /-- `ctl.sendCh <- m` -/
  | send (m : μ)
  /-- `crypto.NewWriter` -/
  | newWriter (err : Bool)
  | take
  /-- An error comes after some bytes. -/
  | write (err : Option Nat)
  /-- A byte reaches the other side. -/
  | arrive
  | read
  | readErr (eof : Bool)
  | deliver
  | handle
  | closeReadCh
  deriving DecidableEq, Repr

end Types

/-- What one side has for both directions. -/
structure End where
  connOpen : Bool
  /-- `msgHandler` or `manager` has not returned. -/
  handling : Bool
  deriving DecidableEq, Repr

variable {μ : Type u} (f : Framing μ UInt8)

/-- The reader has got a byte more. -/
def Line.next (l : Line μ) (buf : GoString) (there : End) : Line μ × End :=
  match f.unpack buf with
  | .more => ({ l with reader := .reading buf }, there)
  | .msg m => ({ l with reader := .delivering m }, there)
  | .bad => ({ l with reader := .returned buf }, { there with connOpen := false })

/-- A step on the line between two sides, and what becomes of the side of its reader. -/
def Line.act (l : Line μ) (here there : End) : Act μ → Option (Line μ × End)
  | .send m =>
      match l.sendCh.send m with
      | .done ch => some ({ l with sendCh := ch, sent := l.sent ++ [m] }, there)
      | .panics => some (l, there)
      | .blocks => none
  | .newWriter err =>
      match l.writer with
      | .starting =>
          some ({ l with writer := if err then .returned none else .receiving }, there)
      | _ => none
  | .take =>
      match l.writer with
      | .receiving =>
          match l.sendCh.recv with
          | .done (some m, ch) => some ({ l with sendCh := ch, writer := .writing m }, there)
          | .done (none, _) => some ({ l with writer := .returned none }, there)
          | _ => none
      | _ => none
  | .write err =>
      match l.writer with
      | .writing m =>
          match err with
          | some n =>
              some ({ l with
                writer := .returned (some m), pipe := l.pipe.put ((f.pack m).take n) }, there)
          | none =>
              if here.connOpen then
                some ({ l with writer := .receiving, pipe := l.pipe.put (f.pack m) }, there)
              else none
      | _ => none
  | .arrive =>
      if l.pipe.taken < l.pipe.wire.length then
        some ({ l with pipe := l.pipe.pull 1 0 }, there)
      else none
  | .read =>
      match l.reader with
      | .reading buf =>
          if there.connOpen then
            match l.pipe.chunk 0 1 with
            | [b] => some (Line.next f { l with pipe := l.pipe.pull 0 1 } (buf ++ [b]) there)
            | _ => none
          else none
      | _ => none
  | .readErr eof =>
      match l.reader with
      | .reading buf =>
          -- The reader closes the connection unless it has come to its end.
          some ({ l with reader := .returned buf },
            { there with connOpen := there.connOpen && eof })
      | _ => none
  | .deliver =>
      match l.reader with
      | .delivering m =>
          match l.readCh.send m with
          | .done ch => some ({ l with readCh := ch, reader := .reading [] }, there)
          | .panics => some ({ l with reader := .returned [] }, there)
          | .blocks => none
      | _ => none
  | .handle =>
      if there.handling then
        match l.readCh.recv with
        | .done (some m, ch) => some ({ l with readCh := ch, handled := l.handled ++ [m] }, there)
        | .done (none, _) => some (l, { there with handling := false })
        | _ => none
      else none
  | .closeReadCh =>
      match l.reader with
      | .returned _ =>
          match l.readCh.close with
          | .done ch => some ({ l with readCh := ch }, there)
          | _ => none
      | _ => none

/-! ## Both sides -/

inductive Who where
  | client
  | server
  deriving DecidableEq, Repr

def Who.peer : Who → Who
  | .client => .server
  | .server => .client

/-- `sendCh` and `readCh` of a control. -/
def chanCap : Who → Nat
  | .client => 100
  | .server => 10

def token (tokens : Tokens) : Who → GoString
  | .client => tokens.client
  | .server => tokens.server

/-- The lines are named by the side that sends. -/
structure State (μ : Type u) where
  lines : Who → Line μ
  ends : Who → End

/-- The initialization vector of a cipher is chosen in `crypto.NewWriter`. -/
def newLine (lib : Golib) (tokens : Tokens) (iv : Who → GoString) (w : Who) : Line μ where
  sendCh := .make (chanCap w)
  writer := .starting
  pipe := .make (lib.encrypt (token tokens w) (iv w)) (lib.decrypt (token tokens w.peer))
  reader := .reading []
  readCh := .make (chanCap w.peer)
  sent := []
  handled := []

def start (lib : Golib) (tokens : Tokens) (iv : Who → GoString) : State μ where
  lines := newLine lib tokens iv
  ends _ := ⟨true, true⟩

inductive Label (μ : Type u) where
  | line (w : Who) (a : Act μ)
  /-- `ctl.conn.Close()` -/
  | close (w : Who)
  /-- The handler returns for a reason of its own. -/
  | leave (w : Who)
  /-- After the handler of the same side. -/
  | closeSendCh (w : Who)
  deriving DecidableEq, Repr

def State.setLine (s : State μ) (w : Who) (l : Line μ) : State μ :=
  { s with lines := Function.update s.lines w l }

def State.setEnd (s : State μ) (w : Who) (e : End) : State μ :=
  { s with ends := Function.update s.ends w e }

def step (s : State μ) : Label μ → Option (State μ)
  | .line w a =>
      ((s.lines w).act f (s.ends w) (s.ends w.peer) a).map fun next =>
        (s.setLine w next.1).setEnd w.peer next.2
  | .close w => some (s.setEnd w { s.ends w with connOpen := false })
  | .leave w => some (s.setEnd w { s.ends w with handling := false })
  | .closeSendCh w =>
      if (s.ends w).handling = false ∧ (s.lines w.peer).readCh.closed then
        match (s.lines w).sendCh.close with
        | .done ch => some (s.setLine w { s.lines w with sendCh := ch })
        | _ => none
      else none

/-! ## What is where -/

def Writer.holds : Writer μ → List μ
  | .writing m | .returned (some m) => [m]
  | _ => []

/-- What may have been written in part. -/
def Writer.unfinished : Writer μ → List μ
  | .returned (some m) => [m]
  | _ => []

def Reader.holds : Reader μ → List μ
  | .delivering m => [m]
  | _ => []

def Reader.buf : Reader μ → GoString
  | .reading buf | .returned buf => buf
  | .delivering _ => []

/-- The messages that the reader has made of the bytes. -/
def Line.got (l : Line μ) : List μ := l.handled ++ l.readCh.buf ++ l.reader.holds

/-- What the bytes of an unfinished message are like. -/
def Reader.Fits : Reader μ → Prop
  | .reading buf => f.Waits buf
  | .delivering _ => True
  | .returned buf => ∀ q, q <+: buf → q ≠ buf → f.unpack q = .more

structure Flow (l : Line μ) : Prop where
  ok : l.pipe.Ok
  undoes : l.pipe.decoder.Undoes l.pipe.encoder
  written : ∃ put part, l.sent = put ++ l.writer.holds ++ l.sendCh.buf ∧
    l.pipe.writes.flatten = f.stream put ++ part ∧ part <+: f.stream l.writer.unfinished
  delivered : l.pipe.delivered = f.stream l.got ++ l.reader.buf
  accepted : ∀ m ∈ l.got, f.accepts m = true
  fits : l.reader.Fits f
  closed : l.readCh.closed = true → ∃ buf, l.reader = .returned buf
  room : 0 < l.readCh.cap

/-- What a step does, and when. -/
inductive Moves (l : Line μ) (here there : End) : Act μ → Line μ → End → Prop where
  | send {m : μ} : Moves l here there (.send m)
      { l with sendCh := { l.sendCh with buf := l.sendCh.buf ++ [m] }, sent := l.sent ++ [m] } there
  | sendClosed {m : μ} : Moves l here there (.send m) l there
  | newWriter (starting : l.writer = .starting) :
      Moves l here there (.newWriter false) { l with writer := .receiving } there
  | newWriterErr (starting : l.writer = .starting) :
      Moves l here there (.newWriter true) { l with writer := .returned none } there
  | take {m : μ} {rest : List μ} (receiving : l.writer = .receiving)
      (buf : l.sendCh.buf = m :: rest) :
      Moves l here there .take
        { l with sendCh := { l.sendCh with buf := rest }, writer := .writing m } there
  | takeClosed (receiving : l.writer = .receiving) (closed : l.sendCh.closed = true) :
      Moves l here there .take { l with writer := .returned none } there
  | write {m : μ} (writing : l.writer = .writing m) :
      Moves l here there (.write none)
        { l with writer := .receiving, pipe := l.pipe.put (f.pack m) } there
  | writeErr {m : μ} {n : Nat} (writing : l.writer = .writing m) :
      Moves l here there (.write (some n))
        { l with writer := .returned (some m), pipe := l.pipe.put ((f.pack m).take n) } there
  | arrive (less : l.pipe.taken < l.pipe.wire.length) :
      Moves l here there .arrive { l with pipe := l.pipe.pull 1 0 } there
  | read {buf : GoString} {b : UInt8} (reading : l.reader = .reading buf)
      (connOpen : there.connOpen = true) (chunk : l.pipe.chunk 0 1 = [b]) :
      Moves l here there .read
        (Line.next f { l with pipe := l.pipe.pull 0 1 } (buf ++ [b]) there).1
        (Line.next f { l with pipe := l.pipe.pull 0 1 } (buf ++ [b]) there).2
  | readErr {buf : GoString} {eof : Bool} (reading : l.reader = .reading buf) :
      Moves l here there (.readErr eof) { l with reader := .returned buf }
        { there with connOpen := there.connOpen && eof }
  | deliver {m : μ} (delivering : l.reader = .delivering m) (still : l.readCh.closed = false) :
      Moves l here there .deliver
        { l with readCh := { l.readCh with buf := l.readCh.buf ++ [m] }, reader := .reading [] }
        there
  | deliverClosed {m : μ} (delivering : l.reader = .delivering m)
      (closed : l.readCh.closed = true) :
      Moves l here there .deliver { l with reader := .returned [] } there
  | handle {m : μ} {rest : List μ} (buf : l.readCh.buf = m :: rest) :
      Moves l here there .handle
        { l with readCh := { l.readCh with buf := rest }, handled := l.handled ++ [m] } there
  | handleClosed (closed : l.readCh.closed = true) :
      Moves l here there .handle l { there with handling := false }
  | closeReadCh {buf : GoString} (returned : l.reader = .returned buf) :
      Moves l here there .closeReadCh { l with readCh := { l.readCh with closed := true } } there

section Steps

variable {f} {l l' : Line μ} {here there there' : End} {a : Act μ}

theorem act_moves (next : l.act f here there a = some (l', there')) :
    Moves f l here there a l' there' := by
  cases a with
  | send m =>
      simp only [Line.act] at next
      split at next
      · rename_i ch sends
        cases next
        obtain ⟨-, -, rfl⟩ := Chan.send_eq_done_iff.1 sends
        exact .send
      · cases next
        exact .sendClosed
      · cases next
  | newWriter err =>
      simp only [Line.act] at next
      split at next
      · rename_i starting
        cases err <;> cases next
        · exact .newWriter starting
        · exact .newWriterErr starting
      · cases next
  | take =>
      simp only [Line.act] at next
      split at next
      · rename_i receiving
        split at next
        · rename_i takes
          cases next
          obtain ⟨rest, buf, rfl⟩ := Chan.recv_eq_some_iff.1 takes
          exact .take receiving buf
        · rename_i takes
          cases next
          obtain ⟨-, closed, -⟩ := Chan.recv_eq_none_iff.1 takes
          exact .takeClosed receiving closed
        · cases next
      · cases next
  | write err =>
      simp only [Line.act] at next
      split at next
      · rename_i writing
        split at next
        · cases next
          exact .writeErr writing
        · split at next
          · cases next
            exact .write writing
          · cases next
      · cases next
  | arrive =>
      simp only [Line.act] at next
      split at next
      · rename_i less
        cases next
        exact .arrive less
      · cases next
  | read =>
      simp only [Line.act] at next
      split at next
      · rename_i reading
        split at next
        · rename_i connOpen
          split at next
          · rename_i chunk
            obtain ⟨rfl, rfl⟩ := Prod.mk.inj (Option.some.inj next)
            exact .read reading connOpen chunk
          · cases next
        · cases next
      · cases next
  | readErr eof =>
      simp only [Line.act] at next
      split at next
      · rename_i reading
        cases next
        exact .readErr reading
      · cases next
  | deliver =>
      simp only [Line.act] at next
      split at next
      · rename_i delivering
        split at next
        · rename_i sends
          cases next
          obtain ⟨still, -, rfl⟩ := Chan.send_eq_done_iff.1 sends
          exact .deliver delivering still
        · rename_i sends
          cases next
          exact .deliverClosed delivering (Chan.send_eq_panics_iff.1 sends)
        · cases next
      · cases next
  | handle =>
      simp only [Line.act] at next
      split at next
      · split at next
        · rename_i takes
          cases next
          obtain ⟨rest, buf, rfl⟩ := Chan.recv_eq_some_iff.1 takes
          exact .handle buf
        · rename_i takes
          cases next
          obtain ⟨-, closed, -⟩ := Chan.recv_eq_none_iff.1 takes
          exact .handleClosed closed
        · cases next
      · cases next
  | closeReadCh =>
      simp only [Line.act] at next
      split at next
      · rename_i returned
        split at next
        · rename_i closes
          cases next
          obtain ⟨-, rfl⟩ := Chan.close_eq_done_iff.1 closes
          exact .closeReadCh returned
        · cases next
      · cases next

theorem unfinished_holds (w : Writer μ) : w.unfinished <+: w.holds := by
  cases w with
  | returned failed => cases failed <;> exact List.prefix_refl _
  | _ => exact List.nil_prefix

theorem Flow.stream_writes (flow : Flow f l) : l.pipe.writes.flatten <+: f.stream l.sent := by
  obtain ⟨put, part, sent, writes, shorter⟩ := flow.written
  have part_sent : part <+: f.stream (l.writer.holds ++ l.sendCh.buf) :=
    shorter.trans (f.stream_grows ((unfinished_holds l.writer).trans (List.prefix_append _ _)))
  rw [writes, sent, List.append_assoc, Framing.stream_append]
  exact (List.prefix_append_right_inj _).2 part_sent

/-- What the reader has seen is the beginning of what was sent. -/
theorem Flow.seen (flow : Flow f l) : f.stream l.got ++ l.reader.buf <+: f.stream l.sent := by
  rw [← flow.delivered]
  exact (Pipe.delivered_first flow.undoes).trans flow.stream_writes

theorem flow_write (flow : Flow f l) {m : μ} (writing : l.writer = .writing m) :
    Flow f { l with writer := .receiving, pipe := l.pipe.put (f.pack m) } := by
  obtain ⟨put, part, sent, writes, shorter⟩ := flow.written
  rw [writing] at sent shorter
  obtain rfl := List.prefix_nil.1 shorter
  refine { flow with ok := flow.ok.put _, written := ⟨put ++ [m], [], ?_, ?_, ?_⟩, delivered := ?_ }
  · rw [sent]
    simp [Writer.holds]
  · show (l.pipe.writes ++ [f.pack m]).flatten = _
    rw [List.flatten_append, writes]
    simp
  · exact List.nil_prefix
  · rw [Pipe.delivered_put flow.ok]
    exact flow.delivered

/-- Some of the message is on the connection. -/
theorem flow_write_fails (flow : Flow f l) {m : μ} (writing : l.writer = .writing m) (n : Nat) :
    Flow f { l with
      writer := .returned (some m), pipe := l.pipe.put ((f.pack m).take n) } := by
  obtain ⟨put, part, sent, writes, shorter⟩ := flow.written
  rw [writing] at sent shorter
  obtain rfl := List.prefix_nil.1 shorter
  refine { flow with
    ok := flow.ok.put _, written := ⟨put, (f.pack m).take n, sent, ?_, ?_⟩, delivered := ?_ }
  · show (l.pipe.writes ++ [(f.pack m).take n]).flatten = _
    rw [List.flatten_append, writes]
    simp
  · show (f.pack m).take n <+: f.stream [m]
    rw [Framing.stream_cons, Framing.stream_nil, List.append_nil]
    exact List.take_prefix _ _
  · rw [Pipe.delivered_put flow.ok]
    exact flow.delivered

/-- The reader has a byte more, and makes of the bytes what it can. -/
theorem flow_read (lawful : f.Lawful) (flow : Flow f l) {buf : GoString} {b : UInt8}
    (reading : l.reader = .reading buf) (chunk : l.pipe.chunk 0 1 = [b]) :
    Flow f (Line.next f { l with pipe := l.pipe.pull 0 1 } (buf ++ [b]) there).1 := by
  have fits := flow.fits
  rw [reading] at fits
  have got : l.got = l.handled ++ l.readCh.buf := by
    rw [Line.got, reading]
    exact List.append_nil _
  have pulled : (l.pipe.pull 0 1).delivered = f.stream l.got ++ (buf ++ [b]) := by
    rw [Pipe.delivered_pull flow.ok, chunk, flow.delivered, reading, List.append_assoc]
    rfl
  have open_ : l.readCh.closed = false := by
    cases closed : l.readCh.closed with
    | false => rfl
    | true =>
        obtain ⟨_, returned⟩ := flow.closed closed
        rw [reading] at returned
        cases returned
  have before := fits.before b
  unfold Line.next
  split
  · rename_i more
    refine { ok := flow.ok.pull 0 1, undoes := flow.undoes, written := flow.written,
             room := flow.room, delivered := ?_, accepted := ?_, fits := fits.concat more,
             closed := fun closed => absurd closed (by simp [open_]) }
    · rw [pulled, got]
      simp [Line.got, Reader.holds, Reader.buf]
    · intro m mem
      refine flow.accepted m ?_
      rw [got]
      simpa [Line.got, Reader.holds] using mem
  · rename_i m msg
    have seen : f.stream l.got ++ (buf ++ [b]) <+: f.stream l.sent := by
      have pulled_seen := Pipe.delivered_first (p := l.pipe.pull 0 1) flow.undoes
      rw [pulled] at pulled_seen
      exact pulled_seen.trans flow.stream_writes
    obtain ⟨accepted, whole⟩ := lawful.met_of_msg flow.accepted seen before msg
    refine { ok := flow.ok.pull 0 1, undoes := flow.undoes, written := flow.written,
             room := flow.room, delivered := ?_, accepted := ?_, fits := trivial,
             closed := fun closed => absurd closed (by simp [open_]) }
    · rw [pulled, got, whole]
      simp [Line.got, Reader.holds, Reader.buf]
    · intro n mem
      rcases List.mem_append.1 mem with old | new
      · exact flow.accepted n (by rwa [got])
      · obtain rfl := List.mem_singleton.1 new
        exact accepted
  · refine { ok := flow.ok.pull 0 1, undoes := flow.undoes, written := flow.written,
             room := flow.room, delivered := ?_, accepted := ?_, fits := before,
             closed := fun _ => ⟨_, rfl⟩ }
    · rw [pulled, got]
      simp [Line.got, Reader.holds, Reader.buf]
    · intro m mem
      refine flow.accepted m ?_
      rw [got]
      simpa [Line.got, Reader.holds] using mem

theorem flow_act (lawful : f.Lawful) (flow : Flow f l)
    (next : l.act f here there a = some (l', there')) : Flow f l' := by
  obtain ⟨put, part, sent, writes, shorter⟩ := flow.written
  have delivered := flow.delivered
  have accepted := flow.accepted
  have fits := flow.fits
  cases act_moves next with
  | @send m =>
      refine { flow with written := ⟨put, part, ?_, writes, shorter⟩ }
      show l.sent ++ [m] = put ++ l.writer.holds ++ (l.sendCh.buf ++ [m])
      rw [sent, List.append_assoc _ _ [m]]
  | sendClosed => exact flow
  | newWriter starting =>
      rw [starting] at sent shorter
      exact { flow with written := ⟨put, part, sent, writes, shorter⟩ }
  | newWriterErr starting =>
      rw [starting] at sent shorter
      exact { flow with written := ⟨put, part, sent, writes, shorter⟩ }
  | take receiving buf =>
      rw [receiving] at sent shorter
      refine { flow with written := ⟨put, part, ?_, writes, shorter⟩ }
      rw [sent, buf]
      simp [Writer.holds]
  | takeClosed receiving =>
      rw [receiving] at sent shorter
      exact { flow with written := ⟨put, part, sent, writes, shorter⟩ }
  | write writing => exact flow_write flow writing
  | writeErr writing => exact flow_write_fails flow writing _
  | arrive =>
      refine { flow with ok := flow.ok.pull 1 0, delivered := ?_ }
      rw [Pipe.delivered_pull flow.ok]
      show l.pipe.delivered ++ [] = _
      rw [List.append_nil]
      exact delivered
  | read reading connOpen chunk => exact flow_read lawful flow reading chunk
  | readErr reading =>
      rw [Line.got, reading] at delivered accepted
      rw [reading] at fits
      exact { flow with delivered := delivered, accepted := accepted,
                        fits := fun q shorter _ => fits q shorter, closed := fun _ => ⟨_, rfl⟩ }
  | @deliver m delivering still =>
      have got : l.got = l.handled ++ (l.readCh.buf ++ [m]) := by
        rw [Line.got, delivering, List.append_assoc]
        rfl
      rw [got, delivering] at delivered
      rw [got] at accepted
      refine { flow with delivered := ?_, accepted := ?_, fits := lawful.waits_nil,
                         closed := fun closed => absurd closed (by simp [still]) }
      · simpa [Line.got, Reader.holds, Reader.buf] using delivered
      · simpa [Line.got, Reader.holds] using accepted
  | deliverClosed delivering closed =>
      -- The channel is closed behind the reader.
      obtain ⟨_, returned⟩ := flow.closed closed
      rw [delivering] at returned
      cases returned
  | @handle m rest buf =>
      have got : ∀ holds,
          l.handled ++ l.readCh.buf ++ holds = l.handled ++ [m] ++ rest ++ holds := by
        intro holds
        rw [buf]
        simp
      rw [Line.got, got] at delivered accepted
      exact { flow with delivered := delivered, accepted := accepted }
  | handleClosed => exact flow
  | @closeReadCh buf returned => exact { flow with closed := fun _ => ⟨buf, returned⟩ }

end Steps

/-! ## Runs -/

section Runs

variable {f} {lib : Golib} {tokens : Tokens} {iv : Who → GoString} {s t : State μ}

theorem flow_newLine (lawful : f.Lawful) (ciphers : lib.Lawful)
    (same : tokens.server = tokens.client) (w : Who) :
    Flow f (newLine lib tokens iv w : Line μ) where
  ok := Pipe.make_ok _ _
  undoes := by
    have key : token tokens w.peer = token tokens w := by cases w <;> simp [token, Who.peer, same]
    show (lib.decrypt (token tokens w.peer)).Undoes (lib.encrypt (token tokens w) (iv w))
    rw [key]
    exact ciphers.decrypts _ _
  written := ⟨[], [], rfl, rfl, List.nil_prefix⟩
  delivered := Pipe.make_delivered _ _
  accepted := by rintro m ⟨⟩
  fits := lawful.waits_nil
  closed := by rintro ⟨⟩
  room := by
    show 0 < chanCap w.peer
    cases w <;> decide

theorem flow_step (lawful : f.Lawful) {l : Label μ} (flow : ∀ w, Flow f (s.lines w))
    (next : step f s l = some t) (w : Who) : Flow f (t.lines w) := by
  cases l with
  | line d a =>
      obtain ⟨⟨l', there'⟩, acts, rfl⟩ := Option.map_eq_some_iff.1 next
      show Flow f (Function.update s.lines d l' w)
      by_cases mine : w = d
      · subst mine
        rw [Function.update_self]
        exact flow_act lawful (flow w) acts
      · rw [Function.update_of_ne mine]
        exact flow w
  | close d =>
      cases next
      exact flow w
  | leave d =>
      cases next
      exact flow w
  | closeSendCh d =>
      simp only [step] at next
      split at next
      · split at next
        · rename_i ch closes
          cases next
          obtain ⟨-, rfl⟩ := Chan.close_eq_done_iff.1 closes
          show Flow f (Function.update s.lines d _ w)
          by_cases mine : w = d
          · subst mine
            rw [Function.update_self]
            exact { flow w with written := (flow w).written }
          · rw [Function.update_of_ne mine]
            exact flow w
        · cases next
      · cases next

theorem flow_reachable (lawful : f.Lawful) (ciphers : lib.Lawful)
    (same : tokens.server = tokens.client)
    (reached : Reachable (step f) (start lib tokens iv) s) (w : Who) : Flow f (s.lines w) :=
  reached.invariant (fun _ _ _ flow next => flow_step lawful flow next)
    (flow_newLine lawful ciphers same) w

/-- **In any run what one handler has got, and what waits for it, is the beginning of what went
into `sendCh` of the other side, and the reader gives up at a message that is too much for it
only.** -/
theorem handled_in_order (lawful : f.Lawful) (ciphers : lib.Lawful)
    (same : tokens.server = tokens.client)
    (reached : Reachable (step f) (start lib tokens iv) s) (w : Who) :
    (s.lines w).got <+: (s.lines w).sent ∧
      (∀ m ∈ (s.lines w).got, f.accepts m = true) ∧
      ∀ buf, (s.lines w).reader = .returned buf → f.unpack buf = .bad →
        ∃ m, (s.lines w).got ++ [m] <+: (s.lines w).sent ∧ f.accepts m = false := by
  have flow := flow_reachable lawful ciphers same reached w
  refine ⟨lawful.got_first flow.accepted flow.seen, flow.accepted, ?_⟩
  intro buf returned bad
  have seen := flow.seen
  have fits := flow.fits
  rw [returned] at seen fits
  exact lawful.refused_of_bad flow.accepted seen fits bad

end Runs

/-- The keys of `msgTypeMap`. -/
def msgTypes : GoString := GoString.lit "o1p2cwrsv3h4uinm56"

/-- Messages as their type and their text. -/
def msgCtl (maxMsgLength : Nat) : Framing Packet UInt8 :=
  lengthPrefixed (fun b => msgTypes.any fun t => decide (t = b)) maxMsgLength

/-- `Ping` and `NewProxy` without fields. -/
def ping : Packet := ⟨104, [123, 125], by decide⟩

def newProxy : Packet := ⟨112, [123, 125], by decide⟩

def bytes (n : Nat) : List (Act Packet) := (List.replicate n [Act.arrive, .read]).flatten

/-- The second message breaks off. -/
def breaksOff : List (Act Packet) :=
  [.send ping, .newWriter false, .send newProxy, .take, .write none] ++ bytes 11 ++
    ([.deliver, .take, .write (some 4), .handle] ++ bytes 4 ++ [.readErr false, .closeReadCh])

set_option maxRecDepth 8000 in
theorem handled_in_order_breaksOff : ∃ s,
    exec (step (msgCtl 10240)) (start TcpTunnel.plainLib ⟨[], []⟩ fun _ => [])
        (breaksOff.map (Label.line .client)) = some s ∧
      (s.lines .client).handled = [ping] ∧ (s.lines .client).sent = [ping, newProxy] ∧
      (s.lines .client).got <+: (s.lines .client).sent := by
  obtain ⟨s, run, handled, sent⟩ : ∃ s, exec (step (msgCtl 10240))
      (start TcpTunnel.plainLib ⟨[], []⟩ fun _ => [])
          (breaksOff.map (Label.line .client)) = some s ∧
        (s.lines .client).handled = [ping] ∧ (s.lines .client).sent = [ping, newProxy] :=
    ⟨_, rfl, rfl, rfl⟩
  obtain ⟨in_order, -⟩ := handled_in_order lengthPrefixed_lawful
    ⟨fun _ _ => Decoder.id_undoes, Decoder.id_undoes⟩ rfl ⟨_, run⟩ .client
  exact ⟨s, run, handled, sent, in_order⟩

/-! ## What is still to do -/

/-- The steps that carry messages on. -/
def Act.relays : Act μ → Bool
  | .newWriter err => !err
  | .write err => err.isNone
  | .take | .arrive | .read | .deliver | .handle => true
  | .send _ | .readErr _ | .closeReadCh => false

def relay (w : Who) (s : State μ) (a : Act μ) : Option (State μ) :=
  if a.relays then step f s (.line w a) else none

/-- Nobody has returned or closed what the messages go through, if it was not the reader, at a
message it does not accept. -/
structure Flows (l : Line μ) (here there : End) : Prop where
  writer : ∀ failed, l.writer ≠ .returned failed
  sendCh : l.sendCh.closed = false
  connOpen : here.connOpen = true
  reader : ∀ buf, l.reader = .returned buf → f.unpack buf = .bad
  reads : (∀ buf, l.reader ≠ .returned buf) → there.connOpen = true
  readCh : l.readCh.closed = false
  handling : there.handling = true

def Writer.isStarting : Writer μ → Bool
  | .starting => true
  | _ => false

/-- What the writer has still to write. -/
def Line.unwritten (l : Line μ) : List μ := l.writer.holds ++ l.sendCh.buf

/-- The steps that are left: of the writer, of the bytes, of the reader and of the handler. -/
def Line.work (l : Line μ) : Nat :=
  (l.writer.isStarting.toNat + 2 * l.sendCh.buf.length + l.writer.holds.length) +
    l.pipe.left (l.unwritten.map f.pack) +
    (2 * (l.sent.length - (l.handled.length + l.readCh.buf.length)) + l.readCh.buf.length)

section Relay

variable {f} {l l' : Line μ} {here there there' : End} {a : Act μ}

/-- A step of the reader or of the bytes alone. -/
theorem work_lt_of_pipe {p : Pipe UInt8} {r : Reader μ}
    (less : p.left (l.unwritten.map f.pack) < l.pipe.left (l.unwritten.map f.pack)) :
    Line.work f { l with pipe := p, reader := r } < l.work f :=
  Nat.add_lt_add_right (Nat.add_lt_add_left less _) _

/-- A step of the writer alone. -/
theorem work_lt_of_writer {w : Writer μ} {ch : Chan μ} {p : Pipe UInt8}
    (left : p.left ((w.holds ++ ch.buf).map f.pack) = l.pipe.left (l.unwritten.map f.pack))
    (less : w.isStarting.toNat + 2 * ch.buf.length + w.holds.length <
      l.writer.isStarting.toNat + 2 * l.sendCh.buf.length + l.writer.holds.length) :
    Line.work f { l with writer := w, sendCh := ch, pipe := p } < l.work f := by
  show _ + p.left ((w.holds ++ ch.buf).map f.pack) + _ < _
  rw [left]
  exact Nat.add_lt_add_right (Nat.add_lt_add_right less _) _

theorem got_le (lawful : f.Lawful) (flow : Flow f l) : l.got.length ≤ l.sent.length :=
  (lawful.got_first flow.accepted flow.seen).length_le

theorem relay_read (flows : Flows f l here there) {buf : GoString}
    (connOpen : there.connOpen = true) {p : Pipe UInt8} :
    Flows f (Line.next f { l with pipe := p } buf there).1 here
      (Line.next f { l with pipe := p } buf there).2 := by
  unfold Line.next
  split
  · exact { flows with reader := by simp, reads := fun _ => connOpen }
  · exact { flows with reader := by simp, reads := fun _ => connOpen }
  · rename_i bad
    refine { flows with reader := ?_, reads := by simp }
    rintro _ ⟨⟩
    exact bad

theorem work_next {buf : GoString} {p : Pipe UInt8}
    (less : p.left (l.unwritten.map f.pack) < l.pipe.left (l.unwritten.map f.pack)) :
    (Line.next f { l with pipe := p } buf there).1.work f < l.work f := by
  unfold Line.next
  split <;> exact work_lt_of_pipe less

theorem sent_next (buf : GoString) : (Line.next f l buf there).1.sent = l.sent := by
  unfold Line.next
  split <;> rfl

theorem relay_act (lawful : f.Lawful) (flow : Flow f l) (flows : Flows f l here there)
    (relays : a.relays = true) (next : l.act f here there a = some (l', there')) :
    Flows f l' here there' ∧ l'.work f < l.work f ∧ l'.sent = l.sent := by
  cases act_moves next with
  | send | sendClosed | newWriterErr | writeErr | readErr | closeReadCh => cases relays
  | newWriter starting =>
      refine ⟨{ flows with writer := by simp }, work_lt_of_writer ?_ ?_, rfl⟩
      · rw [Line.unwritten, starting]
        rfl
      · simp [starting, Writer.isStarting, Writer.holds]
  | take receiving buf =>
      refine ⟨{ flows with writer := by simp }, work_lt_of_writer ?_ ?_, rfl⟩
      · rw [Line.unwritten, receiving, buf]
        rfl
      · simp only [receiving, buf, Writer.isStarting, Writer.holds, List.length_cons,
          List.length_nil, Bool.toNat_false]
        omega
  | takeClosed receiving closed =>
      rw [flows.sendCh] at closed
      cases closed
  | write writing =>
      refine ⟨{ flows with writer := by simp }, work_lt_of_writer ?_ ?_, rfl⟩
      · rw [Line.unwritten, writing, Pipe.left_put]
        rfl
      · simp [writing, Writer.isStarting, Writer.holds]
  | arrive less => exact ⟨{ flows with }, work_lt_of_pipe (Pipe.left_arrive less _), rfl⟩
  | read reading connOpen chunk =>
      have less := Pipe.left_read flow.undoes flow.ok (by rw [chunk]; simp)
        (l.unwritten.map f.pack)
      exact ⟨relay_read flows connOpen, work_next less, sent_next _⟩
  | deliver delivering still =>
      have bound := got_le lawful flow
      simp only [Line.got, delivering, Reader.holds, List.length_append,
        List.length_singleton] at bound
      refine ⟨{ flows with reader := by simp, reads := fun _ => ?_ }, ?_, rfl⟩
      · exact flows.reads (by simp [delivering])
      · simp only [Line.work, Line.unwritten, List.length_append, List.length_singleton]
        omega
  | deliverClosed delivering closed | handleClosed closed =>
      rw [flows.readCh] at closed
      cases closed
  | handle buf =>
      refine ⟨{ flows with }, ?_, rfl⟩
      simp only [Line.work, Line.unwritten, List.length_append, buf, List.length_cons]
      omega

/-- Where nothing carries on, the bytes are through and the writer has nothing. -/
theorem pipe_of_stuck (flow : Flow f l) (flows : Flows f l here there)
    (stuck : ∀ a : Act μ, a.relays = true → l.act f here there a = none) {buf : GoString}
    (reading : l.reader = .reading buf) : f.stream l.got ++ buf = f.stream l.sent := by
  obtain ⟨put, part, sent, writes, shorter⟩ := flow.written
  have connOpen := flows.reads (by simp [reading])
  have receiving : l.writer = .receiving := by
    cases writer : l.writer with
    | starting => simpa [Line.act, writer] using stuck (.newWriter false) rfl
    | receiving => rfl
    | writing m => simpa [Line.act, writer, flows.connOpen] using stuck (.write none) rfl
    | returned failed => exact absurd writer (flows.writer failed)
  have empty : l.sendCh.buf = [] := by
    cases buf : l.sendCh.buf with
    | nil => rfl
    | cons m rest => simpa [Line.act, receiving, Chan.recv, buf] using stuck .take rfl
  have taken : l.pipe.taken = l.pipe.wire.length := by
    refine Nat.le_antisymm flow.ok.taken (Nat.not_lt.1 fun less => ?_)
    simpa [Line.act, less] using stuck .arrive rfl
  have same : (l.pipe.arrive 0).plain = l.pipe.plain := by
    have still : min (l.pipe.taken + 0) l.pipe.wire.length = l.pipe.taken :=
      Nat.min_eq_left flow.ok.taken
    show l.pipe.decoder.plain (l.pipe.wire.take (min (l.pipe.taken + 0) l.pipe.wire.length)) = _
    rw [still]
    rfl
  have read : l.pipe.read = l.pipe.plain.length := by
    refine Nat.le_antisymm flow.ok.read (Nat.not_lt.1 fun less => ?_)
    obtain ⟨b, rest, behind⟩ : ∃ b rest, l.pipe.plain.drop l.pipe.read = b :: rest := by
      cases behind : l.pipe.plain.drop l.pipe.read with
      | nil => exact absurd (List.drop_eq_nil_iff.1 behind) (Nat.not_le.2 less)
      | cons b rest => exact ⟨b, rest, rfl⟩
    have chunk : l.pipe.chunk 0 1 = [b] := by
      unfold Pipe.chunk
      rw [same, behind]
      rfl
    simpa [Line.act, reading, connOpen, chunk] using stuck .read rfl
  rw [receiving] at sent shorter
  obtain rfl := List.prefix_nil.1 shorter
  rw [empty] at sent
  have all := Pipe.delivered_all flow.undoes ⟨taken, read⟩
  rw [flow.delivered, reading, writes, List.append_nil] at all
  rw [sent]
  simpa [Writer.holds, Reader.buf] using all

theorem handled_of_stuck (lawful : f.Lawful) (flow : Flow f l) (flows : Flows f l here there)
    (stuck : ∀ a : Act μ, a.relays = true → l.act f here there a = none) :
    l.handled = l.sent.takeWhile f.accepts := by
  have handling := flows.handling
  have empty : l.readCh.buf = [] := by
    cases buf : l.readCh.buf with
    | nil => rfl
    | cons m rest => simpa [Line.act, handling, Chan.recv, buf] using stuck .handle rfl
  have accepted := flow.accepted
  have got : l.got = l.handled ++ l.reader.holds := by rw [Line.got, empty, List.append_nil]
  cases reader : l.reader with
  | reading buf =>
      rw [reader] at got
      have same : l.got = l.handled := got.trans (List.append_nil _)
      have fits := flow.fits
      rw [reader] at fits
      have all := lawful.got_all accepted (pipe_of_stuck flow flows stuck reader) fits
      rw [← all, List.takeWhile_eq_self_iff.2 accepted, same]
  | delivering m =>
      have room : l.readCh.send m = .done { l.readCh with buf := [m] } := by
        simp [Chan.send, flows.readCh, empty, flow.room]
      simpa [Line.act, reader, room] using stuck .deliver rfl
  | returned buf =>
      rw [reader] at got
      have same : l.got = l.handled := got.trans (List.append_nil _)
      have seen := flow.seen
      have fits := flow.fits
      rw [reader] at seen fits
      obtain ⟨m, next, refused⟩ :=
        lawful.refused_of_bad accepted seen fits (flows.reader buf reader)
      obtain ⟨rest, whole⟩ := next
      rw [same] at whole accepted
      rw [← whole, List.append_assoc, List.takeWhile_append_of_pos accepted, List.singleton_append,
        List.takeWhile_cons_of_neg (by simp [refused]), List.append_nil]

end Relay

section Drains

variable {f} {lib : Golib} {tokens : Tokens} {iv : Who → GoString} {s t : State μ}

/-- **Where nothing fails, a line comes to rest after no more steps than it has work, and then
the handler has got all that was sent up to the first message that the reader refuses.** -/
theorem relay_drains (lawful : f.Lawful) (ciphers : lib.Lawful)
    (same : tokens.server = tokens.client)
    (reached : Reachable (step f) (start lib tokens iv) s) {w : Who}
    (flows : Flows f (s.lines w) (s.ends w) (s.ends w.peer)) {acts : List (Act μ)}
    (run : exec (relay f w) s acts = some t) :
    acts.length + (t.lines w).work f ≤ (s.lines w).work f ∧
      ((∀ a, relay f w t a = none) →
        (t.lines w).handled = (s.lines w).sent.takeWhile f.accepts) := by
  let trap (u : State μ) : Prop := Flow f (u.lines w) ∧
    Flows f (u.lines w) (u.ends w) (u.ends w.peer) ∧ (u.lines w).sent = (s.lines w).sent
  have works : ∀ u a v, trap u → relay f w u a = some v →
      trap v ∧ (v.lines w).work f < (u.lines w).work f := by
    rintro u a v ⟨flow, flows, sent⟩ next
    unfold relay at next
    split at next
    · rename_i relays
      obtain ⟨⟨l', there'⟩, acts, rfl⟩ := Option.map_eq_some_iff.1 next
      obtain ⟨flows', less, sent'⟩ := relay_act lawful flow flows relays acts
      have flow' := flow_act lawful flow acts
      have other : w ≠ w.peer := by cases w <;> simp [Who.peer]
      simp only [trap, State.setLine, State.setEnd, Function.update_self,
        Function.update_of_ne other]
      exact ⟨⟨flow', flows', sent'.trans sent⟩, less⟩
    · cases next
  have flow := flow_reachable lawful ciphers same reached w
  obtain ⟨⟨flow', flows', sent⟩, bound⟩ :=
    length_le_work (fun u => (u.lines w).work f) works ⟨flow, flows, rfl⟩ run
  refine ⟨bound, ?_⟩
  intro stuck
  rw [← sent]
  refine handled_of_stuck lawful flow' flows' ?_
  intro a relays
  have none_ := stuck a
  unfold relay at none_
  rw [if_pos relays] at none_
  exact Option.map_eq_none_iff.1 none_

end Drains

/-- A type that is not in `msgTypeMap`. -/
def unknown : Packet := ⟨0, [123, 125], by decide⟩

def carries : List (Act Packet) :=
  [.newWriter false, .take, .write none, .take] ++ bytes 11 ++ ([.deliver, .write none, .handle] ++
    bytes 1 ++ [.take, .write none] ++ List.replicate 21 .arrive)

set_option maxRecDepth 8000 in
theorem relay_drains_refuses : ∃ s t,
    exec (step (msgCtl 10240)) (start TcpTunnel.plainLib ⟨[], []⟩ fun _ => [])
        ([ping, unknown, newProxy].map fun m => .line .client (.send m)) = some s ∧
      exec (relay (msgCtl 10240) .client) s carries = some t ∧
      (t.lines .client).handled = [ping] := by
  obtain ⟨s, run, flows, sent, t, carried, stuck⟩ : ∃ s,
      exec (step (msgCtl 10240)) (start TcpTunnel.plainLib ⟨[], []⟩ fun _ => [])
          ([ping, unknown, newProxy].map fun m => .line .client (.send m)) = some s ∧
        Flows (msgCtl 10240) (s.lines .client) (s.ends .client) (s.ends .server) ∧
        (s.lines .client).sent = [ping, unknown, newProxy] ∧
        ∃ t, exec (relay (msgCtl 10240) .client) s carries = some t ∧
          ∀ a, relay (msgCtl 10240) .client t a = none := by
    refine ⟨_, rfl, ⟨?_, rfl, rfl, ?_, fun _ => rfl, rfl, rfl⟩, rfl, _, rfl, ?_⟩
    · rintro _ ⟨⟩
    · rintro _ ⟨⟩
    · intro a
      cases a with
      | newWriter err => cases err <;> rfl
      | write err => cases err <;> rfl
      | _ => rfl
  obtain ⟨-, drained⟩ := relay_drains lengthPrefixed_lawful
    ⟨fun _ _ => Decoder.id_undoes, Decoder.id_undoes⟩ rfl ⟨_, run⟩ flows carried
  refine ⟨s, t, run, carried, ?_⟩
  rw [drained stuck, sent]
  rfl

end ChmlFrp.System.ControlChannel
