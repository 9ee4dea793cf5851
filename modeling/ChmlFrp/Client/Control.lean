/-
# ChmlFrp.Client.Control — the end of a control of the client

`reader`, `writer`, `msgHandler` and `worker` of `client/control.go` beside the check workers
of `client/proxy/proxy_wrapper.go`, for any number of proxies.  A check worker holds the lock
of its wrapper while it sends on `sendCh`; the handler sends on it too, and takes the lock of
a wrapper for each `NewProxyResp`.  The worker waits for the handler before it closes
`sendCh`, and nobody but the writer takes from it.

* `closedDone_reachable_iff`: when `closedCh` is closed, the worker can still come to close
  `closedDoneCh` exactly if what the handler waits for fits into `sendCh`, or the writer is
  there and the connection takes messages, or the handler has returned.
* `full_queue_wedges`: the writer has returned after an error, the queue is full and the
  handler sends a heartbeat.
-/
import ChmlFrp.Client.Wrapper
import ChmlFrp.Lib.Chan
import ChmlFrp.Lib.GoMap
import ChmlFrp.Lib.Transition

namespace ChmlFrp.Client.Control

set_option autoImplicit false

open ChmlFrp.Lib
open ChmlFrp.Lib.Transition

/-! ## The goroutines -/

/-- The messages of the server, as `msgHandler` tells them apart. -/
inductive ReadMsg where
  | reqWorkConn
  | newProxyResp (proxyName remoteAddr error : String)
  | natHoleResp
  | pong (error : String)
  | other
  deriving DecidableEq, Repr

inductive SendMsg where
  | ping
  | proxy (proxyName : String) (m : ProxyMsg)
  deriving DecidableEq, Repr

inductive Reader where
  | reading
  /-- At `ctl.readCh <- m`. -/
  | delivering (m : ReadMsg)
  /-- Before `close(ctl.closedCh)`. -/
  | closing
  /-- Before `readerShutdown.Done()`. -/
  | closed
  | returned
  deriving DecidableEq, Repr

inductive Writer where
  | starting
  | receiving
  | writing (m : SendMsg)
  | returned
  deriving DecidableEq, Repr

inductive Handler where
  | selecting
  /-- At `ctl.sendCh <- pingMsg`. -/
  | pinging
  /-- In `SetRunningStatus`, before the lock. -/
  | handling (proxyName remoteAddr error : String)
  /-- In the `close` of a wrapper whose lock it holds. -/
  | closing (proxyName : String)
  | returned
  deriving DecidableEq, Repr

inductive Worker where
  | waitClosed
  | waitReader
  | waitHandler
  | closeSend
  | waitWriter
  /-- In `pm.Close`. -/
  | stopping
  | closeVisitors
  | done
  deriving DecidableEq, Repr

/-- A wrapper, and what its check worker is sending under the lock. -/
structure Proxy where
  pw : Wrapper
  sending : Option ProxyMsg
  deriving DecidableEq, Repr

/-- The fields of `clientCfg` that `msgHandler` reads, and whether `SetPing` of the
authentication can fail. -/
structure Cfg where
  heartbeatInterval : Int
  heartbeatTimeout : Int
  tcpMux : Bool
  setPingFails : Bool

def Cfg.hbSend (cfg : Cfg) : Bool := decide (0 < cfg.heartbeatInterval)

def Cfg.hbCheck (cfg : Cfg) : Bool :=
  decide (0 < cfg.heartbeatInterval) && decide (0 < cfg.heartbeatTimeout) && !cfg.tcpMux

structure State where
  /-- The connection takes messages. -/
  connOpen : Bool
  reader : Reader
  closedCh : Bool
  writer : Writer
  handler : Handler
  worker : Worker
  readCh : Chan ReadMsg
  sendCh : Chan SendMsg
  proxies : GoMap String Proxy

/-- `NewControl` and `Run`, with the proxies of the configuration, and which of them have a
health check. -/
def start (pxyCfgs : List (String × Bool)) : State where
  connOpen := true
  reader := .reading
  closedCh := false
  writer := .starting
  handler := .selecting
  worker := .waitClosed
  readCh := .make 100
  sendCh := .make 100
  proxies := pxyCfgs.foldl (fun m cfg => m.set cfg.1 ⟨newWrapper cfg.2, none⟩) ∅

inductive Label where
  /-- The connection fails, or is closed by others. -/
  | lose
  | read (m : ReadMsg)
  | readErr (eof : Bool)
  | deliver
  | closeClosedCh
  | readerDone
  /-- `crypto.NewWriter` -/
  | newWriter (err : Bool)
  | take
  | write (err : Bool)
  /-- `hbSendCh`, and `SetPing`. -/
  | tick (err : Bool)
  | ping
  /-- `hbCheckCh`, when the last pong is too long ago. -/
  | timeout
  | receive
  /-- `SetRunningStatus`; what `pxy.Run` returns. -/
  | setRunning (runErr : Option String)
  | sendClose
  /-- A pass of a check worker, up to its send. -/
  | check (name : String) (now health : Nat)
  | checkSend (name : String)
  | wait
  | waitReader
  | waitHandler
  | closeSend
  | waitWriter
  /-- `Stop` of a wrapper in `pm.Close`. -/
  | stop (name : String)
  | stopped
  | closeVisitors
  deriving DecidableEq, Repr

namespace State

def setProxy (s : State) (name : String) (p : Proxy) : State :=
  { s with proxies := s.proxies.set name p }

end State

/-- What `msgHandler` does with a message. -/
def dispatch (s : State) : ReadMsg → State
  | .newProxyResp proxyName remoteAddr error =>
      { s with handler := .handling proxyName remoteAddr error }
  | .pong error =>
      if error ≠ "" then { s with connOpen := false, handler := .returned } else s
  | .reqWorkConn | .natHoleResp | .other => s

/-- A message is sent, and what the goroutine does then; `Send` recovers from the panic on
a closed channel. -/
def send (s : State) (m : SendMsg) (sent : State → State) : Option State :=
  match s.sendCh.send m with
  | .done sendCh => some (sent { s with sendCh := sendCh })
  | .blocks => none
  | .panics => some (sent s)

def step (cfg : Cfg) (s : State) : Label → Option State
  | .lose => some { s with connOpen := false }
  | .read m =>
      match s.reader with
      | .reading => some { s with reader := .delivering m }
      | _ => none
  | .readErr eof =>
      match s.reader with
      | .reading => some { s with reader := .closing, connOpen := s.connOpen && eof }
      | _ => none
  | .deliver =>
      match s.reader with
      | .delivering m =>
          match s.readCh.send m with
          | .done readCh => some { s with reader := .reading, readCh := readCh }
          | .blocks => none
          | .panics => some { s with reader := .closing }
      | _ => none
  | .closeClosedCh =>
      match s.reader with
      | .closing => some { s with reader := .closed, closedCh := true }
      | _ => none
  | .readerDone =>
      match s.reader with
      | .closed => some { s with reader := .returned }
      | _ => none
  | .newWriter err =>
      match s.writer with
      | .starting =>
          if err then some { s with writer := .returned, connOpen := false }
          else some { s with writer := .receiving }
      | _ => none
  | .take =>
      match s.writer with
      | .receiving =>
          match s.sendCh.recv with
          | .done (some m, sendCh) => some { s with writer := .writing m, sendCh := sendCh }
          | .done (none, _) => some { s with writer := .returned }
          | .blocks | .panics => none
      | _ => none
  | .write err =>
      match s.writer with
      | .writing _ =>
          if err then some { s with writer := .returned }
          else if s.connOpen then some { s with writer := .receiving }
          else none
      | _ => none
  | .tick err =>
      match s.handler with
      | .selecting =>
          if cfg.hbSend then
            if err then
              if cfg.setPingFails then some { s with handler := .returned } else none
            else some { s with handler := .pinging }
          else none
      | _ => none
  | .ping =>
      match s.handler with
      | .pinging =>
          match s.sendCh.send .ping with
          | .done sendCh => some { s with handler := .selecting, sendCh := sendCh }
          | .blocks => none
          -- The handler recovers, and its latch is set.
          | .panics => some { s with handler := .returned }
      | _ => none
  | .timeout =>
      match s.handler with
      | .selecting =>
          if cfg.hbCheck then some { s with connOpen := false, handler := .returned } else none
      | _ => none
  | .receive =>
      match s.handler with
      | .selecting =>
          match s.readCh.recv with
          | .done (some m, readCh) => some (dispatch { s with readCh := readCh } m)
          | .done (none, _) => some { s with handler := .returned }
          | .blocks | .panics => none
      | _ => none
  | .setRunning runErr =>
      match s.handler with
      | .handling proxyName remoteAddr error =>
          match s.proxies.get proxyName with
          | none => some { s with handler := .selecting }
          | some ⟨pw, none⟩ =>
              let (pw', msgs, _) := pw.setRunningStatus remoteAddr error runErr
              some { s.setProxy proxyName ⟨pw', none⟩ with
                handler := if msgs = [] then .selecting else .closing proxyName }
          | some ⟨_, some _⟩ => none
      | _ => none
  | .sendClose =>
      match s.handler with
      | .closing proxyName =>
          send s (.proxy proxyName .closeProxy) fun s => { s with handler := .selecting }
      | _ => none
  | .check name now health =>
      match s.proxies.get name with
      | some ⟨pw, none⟩ =>
          if s.handler = .closing name then none
          else
            let (pw', msgs) := pw.checkWorker now health
            some (s.setProxy name ⟨pw', msgs.head?⟩)
      | _ => none
  | .checkSend name =>
      match s.proxies.get name with
      | some ⟨pw, some m⟩ => send s (.proxy name m) fun s => s.setProxy name ⟨pw, none⟩
      | _ => none
  | .wait =>
      match s.worker with
      | .waitClosed =>
          if s.closedCh then
            match s.readCh.close with
            | .done readCh => some { s with worker := .waitReader, readCh := readCh }
            | .blocks | .panics => none
          else none
      | _ => none
  | .waitReader =>
      match s.worker with
      | .waitReader =>
          if s.reader = .returned then some { s with worker := .waitHandler } else none
      | _ => none
  | .waitHandler =>
      match s.worker with
      | .waitHandler =>
          if s.handler = .returned then some { s with worker := .closeSend } else none
      | _ => none
  | .closeSend =>
      match s.worker with
      | .closeSend =>
          match s.sendCh.close with
          | .done sendCh => some { s with worker := .waitWriter, sendCh := sendCh }
          | .blocks | .panics => none
      | _ => none
  | .waitWriter =>
      match s.worker with
      | .waitWriter =>
          if s.writer = .returned then some { s with worker := .stopping } else none
      | _ => none
  | .stop name =>
      match s.worker with
      | .stopping =>
          match s.proxies.get name with
          | some ⟨_, none⟩ =>
              send s (.proxy name .closeProxy) fun s => { s with proxies := s.proxies.delete name }
          | _ => none
      | _ => none
  | .stopped =>
      match s.worker with
      | .stopping => if s.proxies.keys = ∅ then some { s with worker := .closeVisitors } else none
      | _ => none
  | .closeVisitors =>
      match s.worker with
      | .closeVisitors => some { s with worker := .done }
      | _ => none

/-! ## What the handler waits for -/

/-- The check worker of the proxy holds its lock. -/
def Locked (s : State) (name : String) : Prop :=
  ∃ p ∈ s.proxies.get name, p.sending ≠ none

instance (s : State) : DecidablePred (Locked s) := fun name => by
  unfold Locked
  infer_instance

/-- The handler can return whenever it comes to its `select`. -/
def Cfg.canQuit (cfg : Cfg) : Bool := cfg.hbCheck || (cfg.hbSend && cfg.setPingFails)

/-- The proxies whose answers are handled, up to a pong with an error. -/
def answers : List ReadMsg → List String
  | [] => []
  | .newProxyResp proxyName _ _ :: rest => proxyName :: answers rest
  | .pong error :: rest => if error ≠ "" then [] else answers rest
  | .reqWorkConn :: rest | .natHoleResp :: rest | .other :: rest => answers rest

/-- The proxies whose locks the handler takes before it can return. -/
def awaited (cfg : Cfg) (s : State) : Finset String :=
  let later := if cfg.canQuit then [] else answers s.readCh.buf
  match s.handler with
  | .handling proxyName _ _ => (proxyName :: later).toFinset
  | _ => later.toFinset

/-- The handler is at a send of its own. -/
def Handler.sends : Handler → Nat
  | .pinging | .closing _ => 1
  | _ => 0

/-- How many sends have to come to an end before the handler can return. -/
def need (cfg : Cfg) (s : State) : Nat :=
  s.handler.sends + ((awaited cfg s).filter (Locked s)).card

/-- The writer takes one message more, if it is before a receive. -/
def Writer.takes : Writer → Nat
  | .starting | .receiving => 1
  | _ => 0

/-- How many sends can come to an end when no message can be written any more. -/
def room (s : State) : Nat := s.sendCh.cap - s.sendCh.buf.length + s.writer.takes

/-- Messages are written. -/
def Flows (s : State) : Prop := s.connOpen = true ∧ s.writer ≠ .returned

instance (s : State) : Decidable (Flows s) := instDecidableAnd

/-- The handler has returned, or messages are written, or what it waits for fits into the
queue. -/
def Fits (cfg : Cfg) (s : State) : Prop :=
  s.handler = .returned ∨ Flows s ∨ need cfg s ≤ room s

instance (cfg : Cfg) (s : State) : Decidable (Fits cfg s) := instDecidableOr

/-- `closedDoneCh` is closed. -/
def ClosedDone (s : State) : Prop := s.worker = .done

/-! ## What a step does -/

variable {cfg : Cfg} {s t : State} {l : Label}

/-- The queue after a send. -/
def State.push (s : State) (m : SendMsg) : State :=
  { s with sendCh := { s.sendCh with buf := s.sendCh.buf ++ [m] } }

theorem send_cases {m : SendMsg} {sent : State → State} (next : send s m sent = some t) :
    (s.sendCh.closed = false ∧ s.sendCh.buf.length < s.sendCh.cap ∧ t = sent (s.push m)) ∨
      (s.sendCh.closed = true ∧ t = sent s) := by
  unfold send at next
  split at next
  · rename_i sendCh done
    obtain ⟨open_, free, rfl⟩ := Chan.send_eq_done_iff.1 done
    cases next
    exact .inl ⟨open_, free, rfl⟩
  · cases next
  · rename_i panics
    cases next
    exact .inr ⟨Chan.send_eq_panics_iff.1 panics, rfl⟩

theorem send_of_room (m : SendMsg) (sent : State → State) (open_ : s.sendCh.closed = false)
    (free : s.sendCh.buf.length < s.sendCh.cap) : send s m sent = some (sent (s.push m)) := by
  have done : s.sendCh.send m = .done { s.sendCh with buf := s.sendCh.buf ++ [m] } :=
    Chan.send_eq_done_iff.2 ⟨open_, free, rfl⟩
  simp [send, done, State.push]

theorem send_of_closed (m : SendMsg) (sent : State → State) (closed : s.sendCh.closed = true) :
    send s m sent = some (sent s) := by
  have panics : s.sendCh.send m = .panics := Chan.send_eq_panics_iff.2 closed
  simp [send, panics]

/-- The steps as they change the state. -/
inductive Moves (cfg : Cfg) (s : State) : State → Prop
  | lose : Moves cfg s { s with connOpen := false }
  | read {reader : Reader} {connOpen : Bool} (at_ : s.reader = .reading)
      (next : reader ≠ .closed ∧ reader ≠ .returned) :
      Moves cfg s { s with reader := reader, connOpen := connOpen }
  | deliver {m : ReadMsg} {reader : Reader} {buf : List ReadMsg}
      (at_ : s.reader = .delivering m) (next : reader ≠ .closed ∧ reader ≠ .returned) :
      Moves cfg s { s with reader := reader, readCh := { s.readCh with buf := buf } }
  | closeClosedCh (at_ : s.reader = .closing) :
      Moves cfg s { s with reader := .closed, closedCh := true }
  | readerDone (at_ : s.reader = .closed) : Moves cfg s { s with reader := .returned }
  | newWriterErr (at_ : s.writer = .starting) :
      Moves cfg s { s with writer := .returned, connOpen := false }
  | newWriter (at_ : s.writer = .starting) : Moves cfg s { s with writer := .receiving }
  | take {m : SendMsg} {rest : List SendMsg} (at_ : s.writer = .receiving)
      (buf : s.sendCh.buf = m :: rest) :
      Moves cfg s { s with writer := .writing m, sendCh := { s.sendCh with buf := rest } }
  | endWriter : Moves cfg s { s with writer := .returned }
  | write {m : SendMsg} (at_ : s.writer = .writing m) (open_ : s.connOpen = true) :
      Moves cfg s { s with writer := .receiving }
  | quit {connOpen : Bool} {buf : List ReadMsg} (at_ : s.handler = .selecting)
      (free : cfg.canQuit = true ∨ answers s.readCh.buf = []) :
      Moves cfg s { s with
        handler := .returned
        connOpen := connOpen
        readCh := { s.readCh with buf := buf } }
  | tick (at_ : s.handler = .selecting) : Moves cfg s { s with handler := .pinging }
  | ping (at_ : s.handler = .pinging) (free : s.sendCh.buf.length < s.sendCh.cap) :
      Moves cfg s { s.push .ping with handler := .selecting }
  | pingPanics (at_ : s.handler = .pinging) (closed : s.sendCh.closed = true) :
      Moves cfg s { s with handler := .returned }
  | answer {proxyName remoteAddr error : String} {rest : List ReadMsg}
      (at_ : s.handler = .selecting)
      (buf : s.readCh.buf = .newProxyResp proxyName remoteAddr error :: rest) :
      Moves cfg s { s with
        handler := .handling proxyName remoteAddr error
        readCh := { s.readCh with buf := rest } }
  | skip {rest : List ReadMsg} (at_ : s.handler = .selecting)
      (same : answers rest = answers s.readCh.buf) :
      Moves cfg s { s with readCh := { s.readCh with buf := rest } }
  | unknown {proxyName remoteAddr error : String}
      (at_ : s.handler = .handling proxyName remoteAddr error)
      (none_ : s.proxies.get proxyName = none) : Moves cfg s { s with handler := .selecting }
  | setRunning {proxyName remoteAddr error : String} {pw pw' : Wrapper} {handler : Handler}
      (at_ : s.handler = .handling proxyName remoteAddr error)
      (free : s.proxies.get proxyName = some ⟨pw, none⟩)
      (next : handler = .selecting ∨ handler = .closing proxyName) :
      Moves cfg s { s.setProxy proxyName ⟨pw', none⟩ with handler := handler }
  | sendClose {proxyName : String} (at_ : s.handler = .closing proxyName)
      (free : s.sendCh.buf.length < s.sendCh.cap) :
      Moves cfg s { s.push (.proxy proxyName .closeProxy) with handler := .selecting }
  | closePanics {proxyName : String} (at_ : s.handler = .closing proxyName)
      (closed : s.sendCh.closed = true) : Moves cfg s { s with handler := .selecting }
  | check {name : String} {pw pw' : Wrapper} {sending : Option ProxyMsg}
      (free : s.proxies.get name = some ⟨pw, none⟩) :
      Moves cfg s (s.setProxy name ⟨pw', sending⟩)
  | checkSend {name : String} {pw : Wrapper} {m : ProxyMsg}
      (held : s.proxies.get name = some ⟨pw, some m⟩)
      (free : s.sendCh.buf.length < s.sendCh.cap) :
      Moves cfg s ((s.push (.proxy name m)).setProxy name ⟨pw, none⟩)
  | checkPanics {name : String} {pw : Wrapper} {m : ProxyMsg}
      (held : s.proxies.get name = some ⟨pw, some m⟩) (closed : s.sendCh.closed = true) :
      Moves cfg s (s.setProxy name ⟨pw, none⟩)
  | wait (at_ : s.worker = .waitClosed) (closed : s.closedCh = true) :
      Moves cfg s { s with worker := .waitReader, readCh := { s.readCh with closed := true } }
  | waitReader (at_ : s.worker = .waitReader) : Moves cfg s { s with worker := .waitHandler }
  | waitHandler (at_ : s.worker = .waitHandler) (gone : s.handler = .returned) :
      Moves cfg s { s with worker := .closeSend }
  | closeSend (at_ : s.worker = .closeSend) :
      Moves cfg s { s with worker := .waitWriter, sendCh := { s.sendCh with closed := true } }
  | waitWriter (at_ : s.worker = .waitWriter) : Moves cfg s { s with worker := .stopping }
  | stop {name : String} (at_ : s.worker = .stopping) (sendCh : Chan SendMsg)
      (same : sendCh.closed = s.sendCh.closed ∧ sendCh.cap = s.sendCh.cap ∧
        (s.sendCh.buf.length ≤ s.sendCh.cap → sendCh.buf.length ≤ sendCh.cap)) :
      Moves cfg s { s with sendCh := sendCh, proxies := s.proxies.delete name }
  | stopped (at_ : s.worker = .stopping) : Moves cfg s { s with worker := .closeVisitors }
  | closeVisitors (at_ : s.worker = .closeVisitors) : Moves cfg s { s with worker := .done }

theorem moves_dispatch {m : ReadMsg} {rest : List ReadMsg} (at_ : s.handler = .selecting)
    (buf : s.readCh.buf = m :: rest) :
    Moves cfg s (dispatch { s with readCh := { s.readCh with buf := rest } } m) := by
  cases m with
  | newProxyResp proxyName remoteAddr error => exact .answer at_ buf
  | pong error =>
      simp only [dispatch]
      split
      · rename_i bad
        exact .quit at_ (.inr (by simp [buf, answers, bad]))
      · rename_i fine
        exact .skip at_ (by simp [buf, answers, fine])
  | reqWorkConn | natHoleResp | other => exact .skip at_ (by simp [buf, answers])

theorem step_moves (next : step cfg s l = some t) : Moves cfg s t := by
  cases l with
  | lose =>
      cases next
      exact .lose
  | read m | readErr eof =>
      simp only [step] at next
      split at next
      · rename_i at_
        cases next
        exact .read at_ ⟨by simp, by simp⟩
      · cases next
  | deliver =>
      simp only [step] at next
      split at next
      · rename_i m at_
        split at next
        · rename_i readCh done
          obtain ⟨-, -, rfl⟩ := Chan.send_eq_done_iff.1 done
          cases next
          exact .deliver at_ ⟨by simp, by simp⟩
        · cases next
        · cases next
          exact .deliver at_ ⟨by simp, by simp⟩
      · cases next
  | closeClosedCh =>
      simp only [step] at next
      split at next
      · rename_i at_
        cases next
        exact .closeClosedCh at_
      · cases next
  | readerDone =>
      simp only [step] at next
      split at next
      · rename_i at_
        cases next
        exact .readerDone at_
      · cases next
  | newWriter err =>
      simp only [step] at next
      split at next
      · rename_i at_
        split at next
        · cases next
          exact .newWriterErr at_
        · cases next
          exact .newWriter at_
      · cases next
  | take =>
      simp only [step] at next
      split at next
      · rename_i at_
        split at next
        · rename_i m sendCh done
          obtain ⟨rest, buf, rfl⟩ := Chan.recv_eq_some_iff.1 done
          cases next
          exact .take at_ buf
        · cases next
          exact .endWriter
        · cases next
        · cases next
      · cases next
  | write err =>
      simp only [step] at next
      split at next
      · rename_i m at_
        split at next
        · cases next
          exact .endWriter
        · split at next
          · rename_i open_
            cases next
            exact .write at_ open_
          · cases next
      · cases next
  | tick err =>
      simp only [step] at next
      split at next
      · rename_i at_
        split at next
        · rename_i hbSend
          split at next
          · split at next
            · rename_i fails
              cases next
              exact .quit at_ (.inl (by simp [Cfg.canQuit, hbSend, fails]))
            · cases next
          · cases next
            exact .tick at_
        · cases next
      · cases next
  | ping =>
      simp only [step] at next
      split at next
      · rename_i at_
        split at next
        · rename_i sendCh done
          obtain ⟨-, free, rfl⟩ := Chan.send_eq_done_iff.1 done
          cases next
          exact .ping at_ free
        · cases next
        · rename_i panics
          cases next
          exact .pingPanics at_ (Chan.send_eq_panics_iff.1 panics)
      · cases next
  | timeout =>
      simp only [step] at next
      split at next
      · rename_i at_
        split at next
        · rename_i hbCheck
          cases next
          exact .quit at_ (.inl (by simp [Cfg.canQuit, hbCheck]))
        · cases next
      · cases next
  | receive =>
      simp only [step] at next
      split at next
      · rename_i at_
        split at next
        · rename_i m readCh done
          obtain ⟨rest, buf, rfl⟩ := Chan.recv_eq_some_iff.1 done
          cases next
          exact moves_dispatch at_ buf
        · rename_i readCh done
          obtain ⟨buf, -, -⟩ := Chan.recv_eq_none_iff.1 done
          cases next
          exact .quit at_ (.inr (by simp [buf, answers]))
        · cases next
        · cases next
      · cases next
  | setRunning runErr =>
      simp only [step] at next
      split at next
      · rename_i proxyName remoteAddr error at_
        split at next
        · rename_i none_
          cases next
          exact .unknown at_ none_
        · rename_i pw free
          cases next
          refine .setRunning at_ free ?_
          split
          · exact .inl rfl
          · exact .inr rfl
        · cases next
      · cases next
  | sendClose =>
      simp only [step] at next
      split at next
      · rename_i proxyName at_
        rcases send_cases next with ⟨-, free, rfl⟩ | ⟨closed, rfl⟩
        · exact .sendClose at_ free
        · exact .closePanics at_ closed
      · cases next
  | check name now health =>
      simp only [step] at next
      split at next
      · rename_i pw free
        split at next
        · cases next
        · cases next
          exact .check free
      · cases next
  | checkSend name =>
      simp only [step] at next
      split at next
      · rename_i pw m held
        rcases send_cases next with ⟨-, free, rfl⟩ | ⟨closed, rfl⟩
        · exact .checkSend held free
        · exact .checkPanics held closed
      · cases next
  | wait =>
      simp only [step] at next
      split at next
      · rename_i at_
        split at next
        · rename_i closed
          split at next
          · rename_i readCh done
            obtain ⟨-, rfl⟩ := Chan.close_eq_done_iff.1 done
            cases next
            exact .wait at_ closed
          · cases next
          · cases next
        · cases next
      · cases next
  | waitReader =>
      simp only [step] at next
      split at next
      · rename_i at_
        split at next
        · cases next
          exact .waitReader at_
        · cases next
      · cases next
  | waitHandler =>
      simp only [step] at next
      split at next
      · rename_i at_
        split at next
        · rename_i gone
          cases next
          exact .waitHandler at_ gone
        · cases next
      · cases next
  | closeSend =>
      simp only [step] at next
      split at next
      · rename_i at_
        split at next
        · rename_i sendCh done
          obtain ⟨-, rfl⟩ := Chan.close_eq_done_iff.1 done
          cases next
          exact .closeSend at_
        · cases next
        · cases next
      · cases next
  | waitWriter =>
      simp only [step] at next
      split at next
      · rename_i at_
        split at next
        · cases next
          exact .waitWriter at_
        · cases next
      · cases next
  | stop name =>
      simp only [step] at next
      split at next
      · rename_i at_
        split at next
        · rcases send_cases next with ⟨-, free, rfl⟩ | ⟨-, rfl⟩
          · refine .stop at_ _ ⟨rfl, rfl, fun _ => ?_⟩
            simp only [State.push, List.length_append, List.length_singleton]
            omega
          · exact .stop at_ s.sendCh ⟨rfl, rfl, id⟩
        · cases next
      · cases next
  | stopped =>
      simp only [step] at next
      split at next
      · rename_i at_
        split at next
        · cases next
          exact .stopped at_
        · cases next
      · cases next
  | closeVisitors =>
      simp only [step] at next
      split at next
      · rename_i at_
        cases next
        exact .closeVisitors at_
      · cases next

/-! ## In every run -/

/-- How far the worker is. -/
def Worker.rank : Worker → Nat
  | .waitClosed => 0
  | .waitReader => 1
  | .waitHandler => 2
  | .closeSend => 3
  | .waitWriter => 4
  | .stopping => 5
  | .closeVisitors => 6
  | .done => 7

structure Inv (s : State) : Prop where
  cap : 0 < s.sendCh.cap
  buf : s.sendCh.buf.length ≤ s.sendCh.cap
  reader : s.closedCh = true ↔ s.reader = .closed ∨ s.reader = .returned
  readCh : s.readCh.closed = true ↔ s.worker ≠ .waitClosed
  closedCh : s.worker ≠ .waitClosed → s.closedCh = true
  sendCh : s.sendCh.closed = true ↔ 4 ≤ s.worker.rank
  handler : 3 ≤ s.worker.rank → s.handler = .returned

theorem inv_start (pxyCfgs : List (String × Bool)) : Inv (start pxyCfgs) where
  cap := by simp [start, Chan.make]
  buf := by simp [start, Chan.make]
  reader := by simp [start]
  readCh := by simp [start]
  closedCh := by simp [start]
  sendCh := by simp [start, Worker.rank]
  handler := by simp [start, Worker.rank]

theorem Inv.handler_of_closed (inv : Inv s) (closed : s.sendCh.closed = true) :
    s.handler = .returned :=
  inv.handler (Nat.le_of_succ_le (inv.sendCh.1 closed))

/-- The worker goes on without closing a channel. -/
theorem Inv.onWorker {worker : Worker} (inv : Inv s) (begun : s.worker ≠ .waitClosed)
    (later : worker ≠ .waitClosed) (same : 4 ≤ worker.rank ↔ 4 ≤ s.worker.rank)
    (handler : 3 ≤ worker.rank → s.handler = .returned) : Inv { s with worker := worker } :=
  { inv with
    readCh := inv.readCh.trans ⟨fun _ => later, fun _ => begun⟩
    closedCh := fun _ => inv.closedCh begun
    sendCh := inv.sendCh.trans same.symm
    handler := handler }

theorem Inv.moves (inv : Inv s) (moves : Moves cfg s t) : Inv t := by
  have early : ∀ {handler : Handler}, s.handler = handler → handler ≠ .returned →
      ∀ other : Handler, 3 ≤ s.worker.rank → other = .returned := by
    intro handler at_ runs other late
    exact absurd (inv.handler late) (by rw [at_]; exact runs)
  have cap := inv.cap
  have buf := inv.buf
  cases moves with
  | lose | newWriterErr | newWriter | endWriter | write | skip | check | checkPanics =>
      exact { inv with }
  | read at_ next => exact { inv with reader := by simp [inv.reader, at_, next] }
  | deliver at_ next =>
      exact { inv with
        reader := by simp [inv.reader, at_, next]
        readCh := inv.readCh }
  | closeClosedCh at_ =>
      exact { inv with
        reader := by simp
        closedCh := fun _ => rfl }
  | readerDone at_ => exact { inv with reader := by simp [inv.reader, at_] }
  | take at_ taken =>
      rw [taken] at buf
      simp only [List.length_cons] at buf
      exact { inv with
        buf := by
          dsimp only
          omega
        sendCh := inv.sendCh }
  | quit at_ free =>
      exact { inv with
        readCh := inv.readCh
        handler := fun _ => rfl }
  | tick at_ | unknown at_ | closePanics at_ => exact { inv with handler := early at_ (by simp) _ }
  | pingPanics at_ closed => exact { inv with handler := fun _ => rfl }
  | answer at_ taken =>
      exact { inv with
        readCh := inv.readCh
        handler := early at_ (by simp) _ }
  | setRunning at_ free next => exact { inv with handler := early at_ (by simp) _ }
  | ping at_ free | sendClose at_ free =>
      exact { inv with
        buf := by
          simp only [State.push, List.length_append, List.length_singleton]
          omega
        handler := early at_ (by simp) _ }
  | checkSend held free =>
      exact { inv with
        buf := by
          simp only [State.push, State.setProxy, List.length_append, List.length_singleton]
          omega }
  | wait at_ closed =>
      have sendCh := inv.sendCh
      simp only [at_, Worker.rank] at sendCh
      exact { inv with
        readCh := by simp
        closedCh := fun _ => closed
        sendCh := by simpa [Worker.rank] using sendCh
        handler := by simp [Worker.rank] }
  | waitReader at_ =>
      exact inv.onWorker (by simp [at_]) (by simp) (by simp [at_, Worker.rank])
        (by simp [Worker.rank])
  | waitHandler at_ gone =>
      exact inv.onWorker (by simp [at_]) (by simp) (by simp [at_, Worker.rank]) fun _ => gone
  | closeSend at_ =>
      have readCh := inv.readCh
      simp only [at_] at readCh
      exact { inv with
        readCh := by simpa using readCh
        closedCh := fun _ => inv.closedCh (by simp [at_])
        sendCh := by simp [Worker.rank]
        handler := fun _ => inv.handler (by simp [at_, Worker.rank]) }
  | waitWriter at_ | stopped at_ | closeVisitors at_ =>
      exact inv.onWorker (by simp [at_]) (by simp) (by simp [at_, Worker.rank])
        fun _ => inv.handler (by simp [at_, Worker.rank])
  | stop at_ sendCh same =>
      exact { inv with
        cap := by rw [same.2.1]; exact cap
        buf := same.2.2 buf
        sendCh := by rw [same.1]; exact inv.sendCh }

/-! ## What cannot be made good -/

theorem locked_setProxy {name name' : String} {p : Proxy} :
    Locked (s.setProxy name p) name' ↔
      if name' = name then p.sending ≠ none else Locked s name' := by
  by_cases here : name' = name
  · simp [Locked, State.setProxy, here]
  · simp [Locked, State.setProxy, here]

theorem not_locked_of_free {name : String} {pw : Wrapper}
    (free : s.proxies.get name = some ⟨pw, none⟩) : ¬ Locked s name := by
  simp [Locked, free]

theorem locked_of_held {name : String} {pw : Wrapper} {m : ProxyMsg}
    (held : s.proxies.get name = some ⟨pw, some m⟩) : Locked s name := by
  simp [Locked, held]

/-- The locks that the handler waits for. -/
theorem mem_awaited {name : String} :
    name ∈ awaited cfg s ↔
      (∃ remoteAddr error, s.handler = .handling name remoteAddr error) ∨
        cfg.canQuit = false ∧ name ∈ answers s.readCh.buf := by
  unfold awaited
  cases handler : s.handler <;> cases quit : cfg.canQuit <;> simp [eq_comm]

theorem locks_subset
    (subset : ∀ name ∈ awaited cfg s, Locked s name → name ∈ awaited cfg t ∧ Locked t name) :
    (awaited cfg s).filter (Locked s) ⊆ (awaited cfg t).filter (Locked t) := by
  intro name mem
  obtain ⟨mem, here⟩ := Finset.mem_filter.1 mem
  exact Finset.mem_filter.2 (subset name mem here)

theorem need_le (k : Nat) (own : s.handler.sends ≤ t.handler.sends + k)
    (subset : ∀ name ∈ awaited cfg s, Locked s name → name ∈ awaited cfg t ∧ Locked t name) :
    need cfg s ≤ need cfg t + k := by
  have locks := Finset.card_le_card (locks_subset subset)
  unfold need
  omega

theorem need_lt (own : s.handler.sends < t.handler.sends)
    (subset : ∀ name ∈ awaited cfg s, Locked s name → name ∈ awaited cfg t ∧ Locked t name) :
    need cfg s < need cfg t := by
  have locks := Finset.card_le_card (locks_subset subset)
  unfold need
  omega

/-- A lock that the handler waits for is free. -/
theorem need_lt_of_lock {name : String} (own : s.handler.sends = t.handler.sends)
    (waits : name ∈ awaited cfg t) (held : Locked t name) (free : ¬ Locked s name)
    (subset : ∀ name ∈ awaited cfg s, Locked s name → name ∈ awaited cfg t ∧ Locked t name) :
    need cfg s < need cfg t := by
  have locks : ((awaited cfg s).filter (Locked s)).card <
      ((awaited cfg t).filter (Locked t)).card := by
    apply Finset.card_lt_card
    refine (Finset.ssubset_iff_of_subset (locks_subset subset)).2 ⟨name, ?_, ?_⟩
    · exact Finset.mem_filter.2 ⟨waits, held⟩
    · exact fun mem => free (Finset.mem_filter.1 mem).2
  unfold need
  omega

/-- One lock is free after the step. -/
theorem need_le_but (name : String) (own : s.handler.sends ≤ t.handler.sends)
    (subset : ∀ name' ∈ awaited cfg s, Locked s name' → name' ≠ name →
      name' ∈ awaited cfg t ∧ Locked t name') :
    need cfg s ≤ need cfg t + 1 := by
  have erased : ((awaited cfg s).filter (Locked s)).card - 1 ≤
      (((awaited cfg s).filter (Locked s)).erase name).card := Finset.pred_card_le_card_erase
  have rest : (((awaited cfg s).filter (Locked s)).erase name).card ≤
      ((awaited cfg t).filter (Locked t)).card := by
    apply Finset.card_le_card
    intro name' mem
    obtain ⟨other, mem⟩ := Finset.mem_erase.1 mem
    obtain ⟨mem, here⟩ := Finset.mem_filter.1 mem
    exact Finset.mem_filter.2 (subset name' mem here other)
  unfold need
  omega

theorem room_push (free : s.sendCh.buf.length < s.sendCh.cap) (m : SendMsg) :
    room (s.push m) + 1 = room s := by
  simp only [room, State.push, List.length_append, List.length_singleton]
  omega

/-- A step that takes no more from the room than from the need. -/
theorem Fits.back (fits : Fits cfg t) (k : Nat)
    (handler : t.handler = .returned → s.handler = .returned) (flows : Flows t → Flows s)
    (less : need cfg s ≤ need cfg t + k) (taken : room t + k ≤ room s) : Fits cfg s := by
  rcases fits with gone | flow | fits
  · exact .inl (handler gone)
  · exact .inr (.inl (flows flow))
  · refine .inr (.inr ?_)
    omega

/-- The handler can return at once. -/
theorem need_of_quit (at_ : s.handler = .selecting)
    (free : cfg.canQuit = true ∨ answers s.readCh.buf = []) : need cfg s = 0 := by
  have none_ : awaited cfg s = ∅ := by
    apply Finset.eq_empty_of_forall_notMem
    intro name mem
    rcases mem_awaited.1 mem with ⟨remoteAddr, error, other⟩ | ⟨stays, mem⟩
    · simp [at_] at other
    · rcases free with quit | empty
      · simp [quit] at stays
      · simp [empty] at mem
  simp [need, none_, at_, Handler.sends]

/-- What does not fit does not fit after any step. -/
theorem fits_of_moves (inv : Inv s) (closed : s.closedCh = true) (moves : Moves cfg s t)
    (fits : Fits cfg t) : Fits cfg s := by
  have reader := inv.reader.1 closed
  have buf := inv.buf
  cases moves with
  | lose =>
      exact fits.back 0 id (fun flows => absurd flows.1 (by simp)) (Nat.le_refl _) (Nat.le_refl _)
  | read at_ | deliver at_ | closeClosedCh at_ => simp [at_] at reader
  | readerDone at_ | waitReader at_ | waitHandler at_ | closeSend at_ | waitWriter at_
  | stopped at_ | closeVisitors at_ | wait at_ =>
      exact fits.back 0 id id (Nat.le_refl _) (Nat.le_refl _)
  | newWriterErr at_ =>
      refine fits.back 0 id (fun flows => absurd flows.1 (by simp)) (Nat.le_refl _) ?_
      simp only [room, at_, Writer.takes]
      omega
  | newWriter at_ =>
      refine fits.back 0 id (fun flows => ⟨flows.1, by simp [at_]⟩) (Nat.le_refl _) ?_
      simp only [room, at_, Writer.takes]
      omega
  | take at_ taken =>
      refine fits.back 0 id (fun flows => ⟨flows.1, by simp [at_]⟩) (Nat.le_refl _) ?_
      simp only [taken, List.length_cons] at buf
      simp only [room, at_, Writer.takes, taken, List.length_cons]
      omega
  | endWriter =>
      refine fits.back 0 id (fun flows => absurd rfl flows.2) (Nat.le_refl _) ?_
      simp only [room, Writer.takes]
      omega
  | write at_ open_ => exact .inr (.inl ⟨open_, by simp [at_]⟩)
  | quit at_ free => exact .inr (.inr (by simp [need_of_quit at_ free]))
  | tick at_ =>
      refine fits.back 0 (by simp) id (need_le 0 (by simp [at_, Handler.sends]) ?_) (Nat.le_refl _)
      exact fun name mem here => ⟨by simpa [mem_awaited, at_] using mem, here⟩
  | ping at_ free =>
      refine fits.back 1 (by simp) id (need_le 1 (by simp [at_, Handler.sends]) ?_)
        (room_push free _).le
      exact fun name mem here => ⟨by simpa [mem_awaited, at_, State.push] using mem, here⟩
  | pingPanics at_ gone | closePanics at_ gone | checkPanics held gone =>
      exact .inl (inv.handler_of_closed gone)
  | answer at_ taken =>
      refine fits.back 0 (by simp) id (need_le 0 (by simp [at_, Handler.sends]) ?_) (Nat.le_refl _)
      intro name mem here
      refine ⟨?_, here⟩
      rcases mem_awaited.1 mem with ⟨remoteAddr, error, other⟩ | ⟨stays, mem⟩
      · simp [at_] at other
      · rw [taken, answers, List.mem_cons] at mem
        rcases mem with rfl | mem
        · exact mem_awaited.2 (.inl ⟨_, _, rfl⟩)
        · exact mem_awaited.2 (.inr ⟨stays, mem⟩)
  | skip at_ same =>
      refine fits.back 0 id id (need_le 0 (Nat.le_refl _) ?_) (Nat.le_refl _)
      exact fun name mem here => ⟨by simpa [mem_awaited, same] using mem, here⟩
  | unknown at_ none_ =>
      refine fits.back 0 (by simp) id (need_le 0 (by simp [at_, Handler.sends]) ?_) (Nat.le_refl _)
      intro name mem here
      refine ⟨?_, here⟩
      rcases mem_awaited.1 mem with ⟨remoteAddr, error, same⟩ | later
      · rw [at_] at same
        cases same
        simp [Locked, none_] at here
      · exact mem_awaited.2 (.inr later)
  | setRunning at_ free next =>
      refine fits.back 0 (fun gone => by rcases next with rfl | rfl <;> cases gone) id
        (need_le 0 (by simp [at_, Handler.sends]) ?_) (Nat.le_refl _)
      intro name mem here
      constructor
      · rcases mem_awaited.1 mem with ⟨remoteAddr, error, same⟩ | later
        · rw [at_] at same
          cases same
          exact absurd here (not_locked_of_free free)
        · exact mem_awaited.2 (.inr later)
      · refine locked_setProxy.2 ?_
        rw [if_neg]
        · exact here
        · rintro rfl
          exact not_locked_of_free free here
  | sendClose at_ free =>
      refine fits.back 1 (by simp) id (need_le 1 (by simp [at_, Handler.sends]) ?_)
        (room_push free _).le
      exact fun name mem here => ⟨by simpa [mem_awaited, at_, State.push] using mem, here⟩
  | check free =>
      refine fits.back 0 id id (need_le 0 (Nat.le_refl _) ?_) (Nat.le_refl _)
      intro name mem here
      refine ⟨mem, locked_setProxy.2 ?_⟩
      rw [if_neg]
      · exact here
      · rintro rfl
        exact not_locked_of_free free here
  | @checkSend name pw m held free =>
      refine fits.back 1 id id (need_le_but name (Nat.le_refl _) ?_) (room_push free _).le
      intro name' mem here other
      exact ⟨mem, locked_setProxy.2 (by rw [if_neg other]; exact here)⟩
  | stop at_ => exact .inl (inv.handler (by simp [at_, Worker.rank]))

/-! ## How the handler comes to its end -/

/-- `closedCh` is closed, and what the handler waits for fits. -/
structure Ending (cfg : Cfg) (s : State) : Prop where
  inv : Inv s
  closed : s.closedCh = true
  fits : Fits cfg s

/-- The steps until the queue has room. -/
def roomSteps (s : State) : Nat :=
  if s.sendCh.buf.length < s.sendCh.cap then 0
  else
    match s.writer with
    | .receiving => 1
    | .starting | .writing _ => 2
    | .returned => 3

def handlerSteps (s : State) : Nat :=
  match s.handler with
  | .selecting => 1
  | .pinging | .closing _ => 6
  | .handling name _ _ => if Locked s name then 12 else 6
  | .returned => 0

def Worker.waits : Worker → Nat
  | .waitClosed => 1
  | _ => 0

def left (s : State) : Nat :=
  16 * s.readCh.buf.length + handlerSteps s + roomSteps s + s.worker.waits

theorem roomSteps_le (s : State) : roomSteps s ≤ 3 := by
  unfold roomSteps
  split
  · omega
  · split <;> omega

theorem handlerSteps_le (s : State) : handlerSteps s ≤ 12 := by
  unfold handlerSteps
  split
  · omega
  · omega
  · omega
  · split <;> omega
  · omega

/-- The writer makes room when there is none and some send has to come to an end. -/
theorem Ending.makes_room (ending : Ending cfg s) (runs : s.handler ≠ .returned)
    (full : ¬ s.sendCh.buf.length < s.sendCh.cap) (some_ : 0 < need cfg s) :
    ∃ l t, step cfg s l = some t ∧ Ending cfg t ∧ left t < left s := by
  obtain ⟨inv, closed, fits⟩ := ending
  have fits := fits.resolve_left runs
  have cap := inv.cap
  have buf := inv.buf
  cases at_ : s.writer with
  | starting =>
      have next : step cfg s (.newWriter false) = some { s with writer := .receiving } := by
        simp [step, at_]
      refine ⟨_, _, next, ⟨inv.moves (step_moves next), closed, .inr ?_⟩, ?_⟩
      · rcases fits with flows | fits
        · exact .inl ⟨flows.1, by simp⟩
        · refine .inr ?_
          have same : need cfg { s with writer := .receiving } = need cfg s := rfl
          simp only [room, at_, Writer.takes] at fits ⊢
          omega
      · have same : handlerSteps { s with writer := .receiving } = handlerSteps s := rfl
        simp only [left, same, roomSteps, if_neg full, at_]
        omega
  | receiving =>
      cases taken : s.sendCh.buf with
      | nil =>
          simp only [taken, List.length_nil] at full
          omega
      | cons m rest =>
          have done : s.sendCh.recv = .done (some m, { s.sendCh with buf := rest }) :=
            Chan.recv_eq_some_iff.2 ⟨rest, taken, rfl⟩
          have next : step cfg s .take = some { s with
              writer := .writing m, sendCh := { s.sendCh with buf := rest } } := by
            simp [step, at_, done]
          simp only [taken, List.length_cons] at buf full
          refine ⟨_, _, next, ⟨inv.moves (step_moves next), closed, .inr ?_⟩, ?_⟩
          · rcases fits with flows | fits
            · exact .inl ⟨flows.1, by simp⟩
            · have same : need cfg { s with
                  writer := .writing m
                  sendCh := { s.sendCh with buf := rest } } = need cfg s := rfl
              refine .inr (Nat.le_trans (Nat.le_of_eq same) ?_)
              simp only [room, at_, taken, Writer.takes, List.length_cons] at fits ⊢
              omega
          · have same : handlerSteps { s with
                writer := .writing m, sendCh := { s.sendCh with buf := rest } } =
                handlerSteps s := rfl
            have free : rest.length < s.sendCh.cap := by omega
            simp only [left, same, roomSteps, taken, List.length_cons, if_neg full, if_pos free,
              at_]
            omega
  | writing m =>
      have flows : Flows s := by
        rcases fits with flows | fits
        · exact flows
        · simp only [room, at_, Writer.takes] at fits
          omega
      have next : step cfg s (.write false) = some { s with writer := .receiving } := by
        simp [step, at_, flows.1]
      refine ⟨_, _, next, ⟨inv.moves (step_moves next), closed, .inr (.inl ⟨flows.1, by simp⟩)⟩, ?_⟩
      have same : handlerSteps { s with writer := .receiving } = handlerSteps s := rfl
      simp only [left, same, roomSteps, if_neg full, at_]
      omega
  | returned =>
      rcases fits with flows | fits
      · exact absurd at_ flows.2
      · simp only [room, at_, Writer.takes] at fits
        omega

/-- What fits fits after a send that was waited for. -/
theorem Ending.sent (ending : Ending cfg s) (next : step cfg s l = some t)
    (same : t.closedCh = s.closedCh ∧ t.connOpen = s.connOpen ∧ t.writer = s.writer)
    (less : need cfg t + 1 ≤ need cfg s) (room_ : room t + 1 = room s)
    (runs : s.handler ≠ .returned) : Ending cfg t := by
  refine ⟨ending.inv.moves (step_moves next), same.1.trans ending.closed, .inr ?_⟩
  rcases ending.fits.resolve_left runs with flows | fits
  · exact .inl ⟨same.2.1.trans flows.1, fun gone => flows.2 (same.2.2.symm.trans gone)⟩
  · refine .inr ?_
    omega

/-- What fits fits when the need does not grow and the room does not shrink. -/
theorem Ending.stays (ending : Ending cfg s) (next : step cfg s l = some t)
    (runs : s.handler ≠ .returned) (closed : t.closedCh = s.closedCh)
    (flows : Flows s → Flows t) (less : need cfg t ≤ need cfg s) (room_ : room s ≤ room t) :
    Ending cfg t := by
  refine ⟨ending.inv.moves (step_moves next), closed.trans ending.closed, .inr ?_⟩
  rcases ending.fits.resolve_left runs with flow | fits
  · exact .inl (flows flow)
  · exact .inr (Nat.le_trans less (Nat.le_trans fits room_))

theorem setRunningStatus_none (pw : Wrapper) (remoteAddr error : String) :
    (pw.setRunningStatus remoteAddr error none).2.1 = [] := by
  unfold Wrapper.setRunningStatus
  split
  · rfl
  · split
    · rfl
    · rfl

/-- The handler takes a message that it does not wait for anything for. -/
theorem Ending.skips (ending : Ending cfg s) {m : ReadMsg} {rest : List ReadMsg}
    (next : step cfg s l = some { s with readCh := { s.readCh with buf := rest } })
    (at_ : s.handler = .selecting) (taken : s.readCh.buf = m :: rest)
    (same : answers (m :: rest) = answers rest) :
    Ending cfg { s with readCh := { s.readCh with buf := rest } } := by
  refine ending.stays next (by simp [at_]) rfl id (need_le 0 (Nat.le_refl _) ?_) (Nat.le_refl _)
  exact fun name mem here => ⟨by simpa [mem_awaited, taken, same] using mem, here⟩

/-- The handler comes to its `select` and returns. -/
theorem Ending.select_goes_on (ending : Ending cfg s) (at_ : s.handler = .selecting) :
    ∃ l t, step cfg s l = some t ∧ Ending cfg t ∧ left t < left s := by
  have runs : s.handler ≠ .returned := by simp [at_]
  have inv := ending.inv
  have closed := ending.closed
  by_cases quit : cfg.canQuit = true
  · simp only [Cfg.canQuit, Bool.or_eq_true, Bool.and_eq_true] at quit
    rcases quit with hbCheck | ⟨hbSend, fails⟩
    · have next : step cfg s .timeout =
          some { s with connOpen := false, handler := .returned } := by
        simp [step, at_, hbCheck]
      refine ⟨_, _, next, ⟨inv.moves (step_moves next), closed, .inl rfl⟩, ?_⟩
      simp only [left, handlerSteps, at_, roomSteps]
      omega
    · have next : step cfg s (.tick true) = some { s with handler := .returned } := by
        simp [step, at_, hbSend, fails]
      refine ⟨_, _, next, ⟨inv.moves (step_moves next), closed, .inl rfl⟩, ?_⟩
      simp only [left, handlerSteps, at_, roomSteps]
      omega
  · cases taken : s.readCh.buf with
    | nil =>
        by_cases waits : s.worker = .waitClosed
        · have open_ : s.readCh.closed = false := by simp [← Bool.not_eq_true, inv.readCh, waits]
          have done : s.readCh.close = .done { s.readCh with closed := true } :=
            Chan.close_eq_done_iff.2 ⟨open_, rfl⟩
          have next : step cfg s .wait = some { s with
              worker := .waitReader, readCh := { s.readCh with closed := true } } := by
            simp [step, waits, closed, done]
          refine ⟨_, _, next, ending.stays next runs rfl id (Nat.le_refl _) (Nat.le_refl _), ?_⟩
          simp [left, handlerSteps, at_, roomSteps, waits, Worker.waits]
        · have done : s.readCh.recv = .done (none, s.readCh) :=
            Chan.recv_eq_none_iff.2 ⟨taken, inv.readCh.2 waits, rfl⟩
          have next : step cfg s .receive = some { s with handler := .returned } := by
            simp [step, at_, done]
          refine ⟨_, _, next, ⟨inv.moves (step_moves next), closed, .inl rfl⟩, ?_⟩
          simp only [left, handlerSteps, at_, roomSteps]
          omega
    | cons m rest =>
        have done : s.readCh.recv = .done (some m, { s.readCh with buf := rest }) :=
          Chan.recv_eq_some_iff.2 ⟨rest, taken, rfl⟩
        have next : step cfg s .receive =
            some (dispatch { s with readCh := { s.readCh with buf := rest } } m) := by
          simp [step, at_, done]
        refine ⟨_, _, next, ?_⟩
        cases m with
        | newProxyResp proxyName remoteAddr error =>
            constructor
            · refine ending.stays next runs rfl id
                (need_le 0 (by simp [dispatch, at_, Handler.sends]) ?_) (Nat.le_refl _)
              intro name mem here
              refine ⟨mem_awaited.2 (.inr ⟨by simpa using quit, ?_⟩), here⟩
              rw [taken, answers, List.mem_cons]
              rcases mem_awaited.1 mem with ⟨remoteAddr, error, same⟩ | ⟨-, mem⟩
              · cases same
                exact .inl rfl
              · exact .inr mem
            · have before : handlerSteps s = 1 := by simp [handlerSteps, at_]
              have after := handlerSteps_le { s with
                handler := .handling proxyName remoteAddr error
                readCh := { s.readCh with buf := rest } }
              have same : roomSteps { s with
                handler := .handling proxyName remoteAddr error
                readCh := { s.readCh with buf := rest } } = roomSteps s := rfl
              dsimp only at after same
              simp only [left, dispatch, before, same, taken, List.length_cons]
              omega
        | pong error =>
            simp only [dispatch] at next ⊢
            split at next
            · rename_i bad
              rw [if_pos bad]
              refine ⟨⟨inv.moves (step_moves next), closed, .inl rfl⟩, ?_⟩
              simp only [left, handlerSteps, at_, roomSteps, taken, List.length_cons]
              omega
            · rename_i fine
              rw [if_neg fine]
              refine ⟨ending.skips next at_ taken (by simp [answers, fine]), ?_⟩
              simp only [left, handlerSteps, at_, roomSteps, taken, List.length_cons]
              omega
        | reqWorkConn | natHoleResp | other =>
            refine ⟨ending.skips next at_ taken rfl, ?_⟩
            simp only [left, handlerSteps, at_, roomSteps, dispatch, taken, List.length_cons]
            omega

/-- The handler is at a send of its own. -/
theorem Ending.send_goes_on (ending : Ending cfg s) (m : SendMsg)
    (at_ : s.handler = .pinging ∨ ∃ name, s.handler = .closing name)
    (next : s.sendCh.buf.length < s.sendCh.cap →
      step cfg s l = some { s.push m with handler := .selecting }) :
    ∃ l t, step cfg s l = some t ∧ Ending cfg t ∧ left t < left s := by
  have runs : s.handler ≠ .returned := by rcases at_ with at_ | ⟨name, at_⟩ <;> simp [at_]
  have sends : s.handler.sends = 1 := by
    rcases at_ with at_ | ⟨name, at_⟩ <;> simp [at_, Handler.sends]
  have steps : handlerSteps s = 6 := by
    rcases at_ with at_ | ⟨name, at_⟩ <;> simp [handlerSteps, at_]
  by_cases free : s.sendCh.buf.length < s.sendCh.cap
  · have less : need cfg { s.push m with handler := .selecting } < need cfg s := by
      refine need_lt (by rw [sends]; exact Nat.zero_lt_one) ?_
      intro name mem here
      refine ⟨mem_awaited.2 (.inr ?_), here⟩
      simpa [mem_awaited, State.push] using mem
    refine ⟨_, _, next free, ending.sent (next free) ⟨rfl, rfl, rfl⟩ less (room_push free _) runs,
      ?_⟩
    have after := roomSteps_le { s.push m with handler := .selecting }
    simp only [left, steps]
    simp only [handlerSteps, State.push] at after ⊢
    omega
  · refine ending.makes_room runs free ?_
    unfold need
    omega

/-- A check worker is at a send, and the handler waits for its lock. -/
theorem Ending.check_goes_on (ending : Ending cfg s) {name remoteAddr error : String}
    {pw : Wrapper} {m : ProxyMsg} (at_ : s.handler = .handling name remoteAddr error)
    (found : s.proxies.get name = some ⟨pw, some m⟩) (open_ : s.sendCh.closed = false) :
    ∃ l t, step cfg s l = some t ∧ Ending cfg t ∧ left t < left s := by
  have runs : s.handler ≠ .returned := by simp [at_]
  have waits : name ∈ awaited cfg s := mem_awaited.2 (.inl ⟨remoteAddr, error, at_⟩)
  have held : Locked s name := locked_of_held found
  by_cases free : s.sendCh.buf.length < s.sendCh.cap
  · have next : step cfg s (.checkSend name) =
        some ((s.push (.proxy name m)).setProxy name ⟨pw, none⟩) := by
      simp [step, found, send_of_room _ _ open_ free]
    have unlocked : ¬ Locked ((s.push (.proxy name m)).setProxy name ⟨pw, none⟩) name := by
      simp [locked_setProxy]
    have less : need cfg ((s.push (.proxy name m)).setProxy name ⟨pw, none⟩) < need cfg s := by
      refine need_lt_of_lock rfl waits held unlocked ?_
      intro name' mem here
      have here := locked_setProxy.1 here
      split at here
      · exact absurd rfl here
      · exact ⟨mem, here⟩
    refine ⟨_, _, next, ending.sent next ⟨rfl, rfl, rfl⟩ less (room_push free _) runs, ?_⟩
    have after := roomSteps_le ((s.push (.proxy name m)).setProxy name ⟨pw, none⟩)
    have steps : handlerSteps ((s.push (.proxy name m)).setProxy name ⟨pw, none⟩) = 6 := by
      simp only [handlerSteps, State.push, State.setProxy, at_] at unlocked ⊢
      exact if_neg unlocked
    have steps' : handlerSteps s = 12 := by simp [handlerSteps, at_, held]
    simp only [left, steps, steps']
    simp only [State.push, State.setProxy] at after ⊢
    omega
  · refine ending.makes_room runs free ?_
    have some_ : 0 < ((awaited cfg s).filter (Locked s)).card :=
      Finset.card_pos.2 ⟨name, Finset.mem_filter.2 ⟨waits, held⟩⟩
    unfold need
    omega

/-- The handler comes to its end. -/
theorem Ending.goes_on (ending : Ending cfg s) (runs : s.handler ≠ .returned) :
    ∃ l t, step cfg s l = some t ∧ Ending cfg t ∧ left t < left s := by
  have inv := ending.inv
  have open_ : s.sendCh.closed = false := by
    by_contra closed
    exact runs (inv.handler_of_closed (by simpa using closed))
  cases at_ : s.handler with
  | returned => exact absurd at_ runs
  | selecting => exact ending.select_goes_on at_
  | pinging =>
      refine ending.send_goes_on (l := .ping) .ping (.inl at_) fun free => ?_
      have done : s.sendCh.send .ping = .done { s.sendCh with buf := s.sendCh.buf ++ [.ping] } :=
        Chan.send_eq_done_iff.2 ⟨open_, free, rfl⟩
      simp [step, at_, done, State.push]
  | closing name =>
      refine ending.send_goes_on (l := .sendClose) (.proxy name .closeProxy)
        (.inr ⟨name, at_⟩) fun free => ?_
      simp [step, at_, send_of_room _ _ open_ free]
  | handling name remoteAddr error =>
      cases found : s.proxies.get name with
      | none =>
          have next : step cfg s (.setRunning none) = some { s with handler := .selecting } := by
            simp [step, at_, found]
          refine ⟨_, _, next, ending.stays next runs rfl id
            (need_le 0 (by simp [Handler.sends]) ?_) (Nat.le_refl _), ?_⟩
          · intro name' mem here
            refine ⟨mem_awaited.2 (.inr ?_), here⟩
            simpa [mem_awaited] using mem
          · have free : ¬ Locked s name := by simp [Locked, found]
            simp only [left, handlerSteps, at_, roomSteps, if_neg free]
            omega
      | some p =>
          obtain ⟨pw, sending⟩ := p
          cases sending with
          | none =>
              have next : step cfg s (.setRunning none) = some
                  { s.setProxy name ⟨(pw.setRunningStatus remoteAddr error none).1, none⟩ with
                    handler := .selecting } := by
                simp [step, at_, found, setRunningStatus_none]
              refine ⟨_, _, next, ending.stays next runs rfl id
                (need_le 0 (by simp [Handler.sends]) ?_) (Nat.le_refl _), ?_⟩
              · intro name' mem here
                have here := locked_setProxy.1 here
                split at here
                · exact absurd rfl here
                · refine ⟨mem_awaited.2 (.inr ?_), here⟩
                  simpa [mem_awaited, State.setProxy] using mem
              · simp only [left, handlerSteps, at_, roomSteps, if_neg (not_locked_of_free found),
                  State.setProxy]
                omega
          | some m => exact ending.check_goes_on at_ found open_

theorem Ending.canReach_returned (ending : Ending cfg s) :
    CanReach (step cfg) (fun u => Inv u ∧ u.closedCh = true ∧ u.handler = .returned) s := by
  refine canReach_of_measure (Ending cfg) left ?_ ending
  intro u ending still
  exact ending.goes_on fun gone => still ⟨ending.inv, ending.closed, gone⟩

/-! ## How the worker comes to its end -/

/-- The handler has returned. -/
structure Closing (s : State) : Prop where
  inv : Inv s
  closed : s.closedCh = true
  gone : s.handler = .returned

theorem closedCh_of_moves (closed : s.closedCh = true) (moves : Moves cfg s t) :
    t.closedCh = true := by
  cases moves <;> first | exact closed | rfl

theorem Closing.after (closing : Closing s) (next : step cfg s l = some t)
    (same : t.handler = s.handler) : Closing t :=
  ⟨closing.inv.moves (step_moves next), closedCh_of_moves closing.closed (step_moves next),
    same.trans closing.gone⟩

def Reader.left : Reader → Nat
  | .closed => 1
  | _ => 0

def Writer.left : Writer → Nat
  | .starting | .receiving => 2
  | .writing _ => 1
  | .returned => 0

def Proxy.left (p : Proxy) : Int := if p.sending = none then 1 else 2

theorem Proxy.left_pos (p : Proxy) : 0 < p.left := by
  unfold Proxy.left
  split <;> omega

/-- The steps of the worker, and of those that it waits for. -/
def closingSteps (s : State) : Nat :=
  7 - s.worker.rank + s.reader.left + s.writer.left + (s.proxies.total Proxy.left).toNat

theorem Closing.writer_goes_on (closing : Closing s) (at_ : s.worker = .waitWriter)
    (runs : s.writer ≠ .returned) :
    ∃ l t, step cfg s l = some t ∧ Closing t ∧ closingSteps t < closingSteps s := by
  cases writer : s.writer with
  | starting =>
      have next : step cfg s (.newWriter true) =
          some { s with writer := .returned, connOpen := false } := by
        simp [step, writer]
      refine ⟨_, _, next, closing.after next rfl, ?_⟩
      simp only [closingSteps, writer, Writer.left]
      omega
  | receiving =>
      cases buf : s.sendCh.buf with
      | nil =>
          have over_ : s.sendCh.closed = true := closing.inv.sendCh.2 (by simp [at_, Worker.rank])
          have done : s.sendCh.recv = .done (none, s.sendCh) :=
            Chan.recv_eq_none_iff.2 ⟨buf, over_, rfl⟩
          have next : step cfg s .take = some { s with writer := .returned } := by
            simp [step, writer, done]
          refine ⟨_, _, next, closing.after next rfl, ?_⟩
          simp only [closingSteps, writer, Writer.left]
          omega
      | cons m rest =>
          have done : s.sendCh.recv = .done (some m, { s.sendCh with buf := rest }) :=
            Chan.recv_eq_some_iff.2 ⟨rest, buf, rfl⟩
          have next : step cfg s .take = some { s with
              writer := .writing m, sendCh := { s.sendCh with buf := rest } } := by
            simp [step, writer, done]
          refine ⟨_, _, next, closing.after next rfl, ?_⟩
          simp only [closingSteps, writer, Writer.left]
          omega
  | writing m =>
      have next : step cfg s (.write true) = some { s with writer := .returned } := by
        simp [step, writer]
      refine ⟨_, _, next, closing.after next rfl, ?_⟩
      simp only [closingSteps, writer, Writer.left]
      omega
  | returned => exact absurd writer runs

/-- `pm.Close`: the sends of the check workers come to an end on the closed channel. -/
theorem Closing.stops (closing : Closing s) (at_ : s.worker = .stopping) :
    ∃ l t, step cfg s l = some t ∧ Closing t ∧ closingSteps t < closingSteps s := by
  have over_ : s.sendCh.closed = true := closing.inv.sendCh.2 (by simp [at_, Worker.rank])
  rcases Finset.eq_empty_or_nonempty s.proxies.keys with empty | ⟨name, mem⟩
  · have next : step cfg s .stopped = some { s with worker := .closeVisitors } := by
      simp [step, at_, empty]
    refine ⟨_, _, next, closing.after next rfl, ?_⟩
    simp only [closingSteps, at_, Worker.rank]
    omega
  · obtain ⟨p, found⟩ := GoMap.mem_keys_iff.1 mem
    obtain ⟨pw, sending⟩ := p
    have nonneg : ∀ p : Proxy, 0 ≤ p.left := fun p => Int.le_of_lt p.left_pos
    cases sending with
    | none =>
        have next : step cfg s (.stop name) =
            some { s with proxies := s.proxies.delete name } := by
          simp [step, at_, found, send_of_closed _ _ over_]
        refine ⟨_, _, next, closing.after next rfl, ?_⟩
        have lighter := GoMap.total_delete_lt nonneg found (Proxy.left_pos _)
        exact Nat.add_lt_add_left lighter _
    | some m =>
        have next : step cfg s (.checkSend name) = some (s.setProxy name ⟨pw, none⟩) := by
          simp [step, found, send_of_closed _ _ over_]
        refine ⟨_, _, next, closing.after next rfl, ?_⟩
        have sent : Proxy.left ⟨pw, none⟩ < Proxy.left ⟨pw, some m⟩ := by simp [Proxy.left]
        have lighter := GoMap.total_set_lt nonneg found sent
        exact Nat.add_lt_add_left lighter _

theorem Closing.goes_on (closing : Closing s) (still : ¬ ClosedDone s) :
    ∃ l t, step cfg s l = some t ∧ Closing t ∧ closingSteps t < closingSteps s := by
  have inv := closing.inv
  have closed := closing.closed
  have gone := closing.gone
  cases at_ : s.worker with
  | waitClosed =>
      have open_ : s.readCh.closed = false := by simp [← Bool.not_eq_true, inv.readCh, at_]
      have done : s.readCh.close = .done { s.readCh with closed := true } :=
        Chan.close_eq_done_iff.2 ⟨open_, rfl⟩
      have next : step cfg s .wait = some { s with
          worker := .waitReader, readCh := { s.readCh with closed := true } } := by
        simp [step, at_, closed, done]
      refine ⟨_, _, next, closing.after next rfl, ?_⟩
      simp only [closingSteps, at_, Worker.rank]
      omega
  | waitReader =>
      rcases inv.reader.1 closed with reader | reader
      · have next : step cfg s .readerDone = some { s with reader := .returned } := by
          simp [step, reader]
        refine ⟨_, _, next, closing.after next rfl, ?_⟩
        simp only [closingSteps, reader, Reader.left]
        omega
      · have next : step cfg s .waitReader = some { s with worker := .waitHandler } := by
          simp [step, at_, reader]
        refine ⟨_, _, next, closing.after next rfl, ?_⟩
        simp only [closingSteps, at_, Worker.rank]
        omega
  | waitHandler =>
      have next : step cfg s .waitHandler = some { s with worker := .closeSend } := by
        simp [step, at_, gone]
      refine ⟨_, _, next, closing.after next rfl, ?_⟩
      simp only [closingSteps, at_, Worker.rank]
      omega
  | closeSend =>
      have open_ : s.sendCh.closed = false := by
        simp [← Bool.not_eq_true, inv.sendCh, at_, Worker.rank]
      have done : s.sendCh.close = .done { s.sendCh with closed := true } :=
        Chan.close_eq_done_iff.2 ⟨open_, rfl⟩
      have next : step cfg s .closeSend = some { s with
          worker := .waitWriter, sendCh := { s.sendCh with closed := true } } := by
        simp [step, at_, done]
      refine ⟨_, _, next, closing.after next rfl, ?_⟩
      simp only [closingSteps, at_, Worker.rank]
      omega
  | waitWriter =>
      by_cases writer : s.writer = .returned
      · have next : step cfg s .waitWriter = some { s with worker := .stopping } := by
          simp [step, at_, writer]
        refine ⟨_, _, next, closing.after next rfl, ?_⟩
        simp only [closingSteps, at_, Worker.rank]
        omega
      · exact closing.writer_goes_on at_ writer
  | stopping => exact closing.stops at_
  | closeVisitors =>
      have next : step cfg s .closeVisitors = some { s with worker := .done } := by
        simp [step, at_]
      refine ⟨_, _, next, closing.after next rfl, ?_⟩
      simp only [closingSteps, at_, Worker.rank]
      omega
  | done => exact absurd at_ still

theorem Closing.canReach_done (closing : Closing s) : CanReach (step cfg) ClosedDone s := by
  refine canReach_of_measure Closing closingSteps ?_ closing
  intro u closing still
  exact closing.goes_on still

/-! ## All runs -/

theorem not_canReach_of_not_fits (inv : Inv s) (closed : s.closedCh = true)
    (stuck : ¬ Fits cfg s) : ¬ CanReach (step cfg) ClosedDone s := by
  refine not_canReach_of_trap
    (fun u => Inv u ∧ u.closedCh = true ∧ ¬ Fits cfg u) ?_ ?_ ⟨inv, closed, stuck⟩
  · rintro u l v ⟨inv, closed, stuck⟩ next
    have moves := step_moves next
    exact ⟨inv.moves moves, closedCh_of_moves closed moves,
      fun fits => stuck (fits_of_moves inv closed moves fits)⟩
  · rintro u ⟨inv, -, stuck⟩ done
    have done : u.worker = .done := done
    exact stuck (.inl (inv.handler (by simp [done, Worker.rank])))

theorem inv_of_reachable {pxyCfgs : List (String × Bool)}
    (reached : Reachable (step cfg) (start pxyCfgs) s) : Inv s :=
  reached.invariant (fun _ _ _ inv next => inv.moves (step_moves next)) (inv_start pxyCfgs)

/-- **When the connection is closed, the worker can come to its end exactly if the handler
can: it has returned, or messages are written, or the sends that it waits for fit into the
queue.** -/
theorem closedDone_reachable_iff (cfg : Cfg) (pxyCfgs : List (String × Bool)) (s : State)
    (reached : Reachable (step cfg) (start pxyCfgs) s) (closed : s.closedCh = true) :
    CanReach (step cfg) ClosedDone s ↔ Fits cfg s := by
  have inv : Inv s := inv_of_reachable reached
  constructor
  · intro reach
    by_contra stuck
    exact not_canReach_of_not_fits inv closed stuck reach
  · intro fits
    have ending : Ending cfg s := ⟨inv, closed, fits⟩
    exact ending.canReach_returned.trans fun u ends =>
      Closing.canReach_done ⟨ends.1, ends.2.1, ends.2.2⟩

/-- The defaults of the client, with a token. -/
def defaultCfg : Cfg := ⟨30, 90, true, false⟩

/-- Two messages are read and two heartbeats sent when the server closes the connection. -/
def closedWithMessages : List Label :=
  [.read .reqWorkConn, .deliver, .read .natHoleResp, .deliver, .tick false, .ping, .tick false,
    .ping, .readErr true, .closeClosedCh]

theorem closed_client_ends :
    ∃ s, exec (step defaultCfg) (start [("web", false)]) closedWithMessages = some s ∧
      s.readCh.buf = [.reqWorkConn, .natHoleResp] ∧ s.sendCh.buf = [.ping, .ping] ∧
      CanReach (step defaultCfg) ClosedDone s := by
  refine ⟨_, rfl, rfl, rfl, ?_⟩
  exact (closedDone_reachable_iff defaultCfg [("web", false)] _
    ⟨closedWithMessages, rfl⟩ rfl).2 (.inr (.inl ⟨rfl, by simp [start]⟩))

/-- The handler sends heartbeats as long as they fit. -/
theorem canReach_pings (hbSend : cfg.hbSend = true) (n : Nat) (selects : s.handler = .selecting)
    (open_ : s.sendCh.closed = false) (free : s.sendCh.buf.length + n ≤ s.sendCh.cap) :
    CanReach (step cfg) (fun u => u = { s with
      sendCh := { s.sendCh with buf := s.sendCh.buf ++ List.replicate n .ping } }) s := by
  induction n generalizing s with
  | zero =>
      apply CanReach.here
      simp
  | succ n ih =>
      have tick : step cfg s (.tick false) = some { s with handler := .pinging } := by
        simp [step, selects, hbSend]
      have done : s.sendCh.send .ping = .done { s.sendCh with buf := s.sendCh.buf ++ [.ping] } :=
        Chan.send_eq_done_iff.2 ⟨open_, by omega, rfl⟩
      have ping : step cfg { s with handler := .pinging } .ping =
          some { s with sendCh := { s.sendCh with buf := s.sendCh.buf ++ [.ping] } } := by
        simp [step, done, ← selects]
      refine .of_step tick (.of_step ping ?_)
      have later := ih (s := { s with
        sendCh := { s.sendCh with buf := s.sendCh.buf ++ [.ping] } }) selects open_ (by simp; omega)
      simpa [List.replicate_succ] using later

/-- The writer returns after an error; heartbeats fill the queue, and the handler is at the
next one when the connection is closed: the worker waits for ever. -/
theorem full_queue_wedges :
    ¬ ∀ cfg pxyCfgs s, Reachable (step cfg) (start pxyCfgs) s → s.closedCh = true →
      CanReach (step cfg) ClosedDone s := by
  intro all
  obtain ⟨s, first, selects, reads, queue, writer⟩ : ∃ s, exec (step defaultCfg) (start [])
      [.newWriter false, .tick false, .ping, .take, .write true] = some s ∧
        s.handler = .selecting ∧ s.reader = .reading ∧ s.sendCh = .make 100 ∧
          s.writer = .returned :=
    ⟨_, rfl, rfl, rfl, rfl, rfl⟩
  obtain ⟨pings, t, fill, full⟩ := @canReach_pings defaultCfg s rfl 100 selects
    (by simp [queue]) (by simp [queue, Chan.make])
  obtain ⟨u, last, closed, waits, same, gone⟩ : ∃ u, exec (step defaultCfg) t
      [.tick false, .readErr false, .closeClosedCh] = some u ∧ u.closedCh = true ∧
        u.handler = .pinging ∧ u.sendCh = t.sendCh ∧ u.writer = .returned := by
    refine ⟨{ t with
      handler := .pinging, reader := .closed, connOpen := false, closedCh := true }, ?_, rfl, rfl,
      rfl, ?_⟩
    · simp [full, exec, step, selects, reads, Cfg.hbSend, defaultCfg]
    · simp [full, writer]
  have run := exec_append_eq_some.2 ⟨s, first, exec_append_eq_some.2 ⟨t, fill, last⟩⟩
  have reached : Reachable (step defaultCfg) (start []) u := ⟨_, run⟩
  refine not_canReach_of_not_fits (inv_of_reachable reached) closed ?_
    (all defaultCfg [] u reached closed)
  rintro (gone | flows | fits)
  · simp [waits] at gone
  · exact flows.2 gone
  · simp [need, waits, Handler.sends, room, same, full, queue, gone, Writer.takes, Chan.make]
      at fits

end ChmlFrp.Client.Control
