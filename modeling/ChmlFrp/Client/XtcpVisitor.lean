/-
# ChmlFrp.Client.XtcpVisitor — the tunnel session of an xtcp visitor

`client/visitor/xtcp.go`.  Any number of user connections and `keepTunnelOpenWorker` call
`getTunnelConn`; one goroutine receives the start events, makes the hole and installs the
session.  `OpenConn`, `Close` and the assignment of `Init` are sections under the lock of the
session, and nothing ties them together.  `startTunnelCh` has no buffer: a trigger is received
by a worker that waits for one, or is dropped.  `MakeHole` of `pkg/nathole/nathole.go` may open
sockets of its own, each with a goroutine that closes it in its own time, and returns before
these end.

* `session_owned`: the condition under which each session is closed by those that may, none
  is replaced and none is left; a step that breaks it leads to a run where this fails.
* `stale_failure_closes_session`: a call finds no session, and closes the one that is there
  when it comes to that.
-/
import ChmlFrp.Lib.GoMap
import ChmlFrp.Lib.Transition
import Mathlib.Data.Finset.Filter
import Mathlib.Order.Interval.Finset.Nat

namespace ChmlFrp.Client.XtcpVisitor

set_option autoImplicit false

open ChmlFrp.Lib
open ChmlFrp.Lib.Transition

/-- The type of the tunnel session. -/
inductive Protocol where
  | kcp
  | quic
  deriving DecidableEq, Repr

/-- Where `processTunnelStartEvents` is, with the sockets and the session it holds. -/
inductive Worker where
  | selecting
  | prechecking
  | preparing
  | exchanging (c : Nat)
  | holing (c : Nat)
  /-- `MakeHole` waits on `resultCh`, while a goroutine reads from each socket of `conns`. -/
  | detecting (c : Nat) (conns : Finset Nat)
  /-- At the start of `Init`. -/
  | initing (c : Nat)
  /-- `lConn` of the kcp session is open. -/
  | dialed (c : Nat)
  /-- Before the assignment of `Init`. -/
  | created (n c : Nat)
  /-- `makeNatHole` has returned. -/
  | cooling
  | returned
  deriving DecidableEq

namespace Worker

def socks : Worker → Finset Nat
  | .exchanging c | .holing c | .initing c | .dialed c | .created _ c => {c}
  | .detecting _ conns => conns
  | _ => ∅

def session : Worker → Option Nat
  | .created n _ => some n
  | _ => none

/-- Is in `makeNatHole`. -/
def busy : Worker → Bool
  | .selecting | .cooling | .returned => false
  | _ => true

end Worker

/-- Where a call of `getTunnelConn` is. -/
inductive Call where
  | entered
  /-- `OpenConn` failed with the session that was there. -/
  | failed (session : Option Nat)
  /-- Before the trigger. -/
  | closed
  deriving DecidableEq, Repr

/-- Where the `Close` of the visitor is that holds `sv.mu`. -/
inductive Closer where
  | none
  /-- Has called `cancel`. -/
  | cancelled
  /-- Has closed the session. -/
  | leaving
  deriving DecidableEq, Repr

/-- Sessions and sockets are numbered as they are opened. -/
structure State where
  session : Option Nat
  /-- `lConn` or `listenConn`. -/
  lConn : Option Nat
  openSessions : Finset Nat
  openSocks : Finset Nat
  next : Nat
  worker : Worker
  /-- The sockets of the goroutines that a `MakeHole` has left behind. -/
  lingering : Finset Nat
  /-- `keepTunnelOpenWorker` is at its first send. -/
  keepTunnelOpen : Bool
  calls : GoMap Nat Call
  nextCall : Nat
  closer : Closer
  /-- A `Close` has returned. -/
  returned : Bool

/-- After `Run`. -/
def start (keepTunnelOpen : Bool) : State where
  session := none
  lConn := none
  openSessions := ∅
  openSocks := ∅
  next := 0
  worker := .selecting
  lingering := ∅
  keepTunnelOpen := keepTunnelOpen
  calls := ∅
  nextCall := 0
  closer := .none
  returned := false

/-- What comes of `NewKCPConnFromUDP` and `fmux.Client`. -/
inductive Wrapped where
  | ok
  | kcpErr
  /-- `remote` is closed; whether its socket is closed with it. -/
  | muxErr (closed : Bool)
  deriving DecidableEq, Repr

inductive Label where
  | call
  /-- `OpenConn` of a call. -/
  | openConn (i : Nat) (ok : Bool)
  /-- `sv.session.Close()` of a call. -/
  | closeFailed (i : Nat)
  | trigger (i : Nat)
  /-- The first send of `keepTunnelOpenWorker`. -/
  | keepStart
  | precheck (ok : Bool)
  | prepare (ok : Bool)
  | exchange (ok : Bool)
  /-- `MakeHole` with `listenConn` alone. -/
  | hole (ok : Bool)
  /-- `MakeHole` opens `k + 1` sockets beside `listenConn`. -/
  | listen (k : Nat)
  /-- A goroutine of `MakeHole` ends, and closes its socket. -/
  | giveUp (c : Nat)
  /-- `MakeHole` receives from `resultCh`. -/
  | found (c : Nat)
  /-- `MakeHole` ends at the timeout or at `ctx.Done()`. -/
  | noneFound
  /-- A goroutine that `MakeHole` has left behind ends, and closes its socket. -/
  | expire (c : Nat)
  /-- `DialUDP` after the close of `listenConn`, or `quic.Dial`. -/
  | dial (ok : Bool)
  | wrap (r : Wrapped)
  | assign
  | cool
  /-- The worker receives from `ctx.Done()`. -/
  | stop
  /-- The session in place ends by itself; whether its socket is closed with it.  Before the
  assignment nobody looks. -/
  | die (closed : Bool)
  /-- `XTCPVisitor.Close`, up to the close of the session. -/
  | close
  | closeSession
  | closeReturn
  deriving DecidableEq, Repr

namespace State

/-- `KCPTunnelSession.Close` and `QUICTunnelSession.Close` -/
def close (s : State) : State :=
  { s with
    session := none
    lConn := none
    openSessions := s.openSessions.filter fun n => s.session ≠ some n
    openSocks := s.openSocks.filter fun c => s.lConn ≠ some c }

end State

variable (protocol : Protocol)

def step (s : State) : Label → Option State
  | .call =>
      some { s with calls := s.calls.set s.nextCall .entered, nextCall := s.nextCall + 1 }
  | .openConn i ok =>
      match s.calls.get i with
      | some .entered =>
          if ok then
            if ∃ n ∈ s.session, n ∈ s.openSessions then some { s with calls := s.calls.delete i }
            else none
          else some { s with calls := s.calls.set i (.failed s.session) }
      | _ => none
  | .closeFailed i =>
      match s.calls.get i with
      | some (.failed _) => some { s.close with calls := s.calls.set i .closed }
      | _ => none
  | .trigger i =>
      match s.calls.get i with
      | some .closed =>
          match s.worker with
          | .selecting => some { s with calls := s.calls.delete i, worker := .prechecking }
          | _ => some { s with calls := s.calls.delete i }
      | _ => none
  | .keepStart =>
      match s.worker with
      | .selecting =>
          if s.keepTunnelOpen then some { s with keepTunnelOpen := false, worker := .prechecking }
          else none
      | _ => none
  | .precheck ok =>
      match s.worker with
      | .prechecking => some { s with worker := if ok then .preparing else .cooling }
      | _ => none
  | .prepare ok =>
      match s.worker with
      | .preparing =>
          if ok then
            some { s with
              worker := .exchanging s.next
              openSocks := insert s.next s.openSocks
              next := s.next + 1 }
          else some { s with worker := .cooling }
      | _ => none
  | .exchange ok =>
      match s.worker with
      | .exchanging c =>
          if ok then some { s with worker := .holing c }
          else some { s with worker := .cooling, openSocks := s.openSocks.erase c }
      | _ => none
  | .hole ok =>
      match s.worker with
      | .holing c =>
          if ok then some { s with worker := .initing c }
          else some { s with worker := .cooling, openSocks := s.openSocks.erase c }
      | _ => none
  | .listen k =>
      match s.worker with
      | .holing c =>
          some { s with
            worker := .detecting c (Finset.Ico s.next (s.next + k + 1) ∪ {c})
            openSocks := Finset.Ico s.next (s.next + k + 1) ∪ s.openSocks
            next := s.next + k + 1 }
      | _ => none
  | .giveUp d =>
      match s.worker with
      | .detecting c conns =>
          if d ∈ conns then
            some { s with
              worker := .detecting c (conns.erase d)
              openSocks := s.openSocks.erase d }
          else none
      | _ => none
  | .found d =>
      match s.worker with
      | .detecting _ conns =>
          if d ∈ conns then
            some { s with worker := .initing d, lingering := s.lingering ∪ conns.erase d }
          else none
      | _ => none
  | .noneFound =>
      match s.worker with
      | .detecting c conns =>
          some { s with
            worker := .cooling
            lingering := s.lingering ∪ conns.erase c
            openSocks := s.openSocks.erase c }
      | _ => none
  | .expire c =>
      if c ∈ s.lingering then
        some { s with lingering := s.lingering.erase c, openSocks := s.openSocks.erase c }
      else none
  | .dial ok =>
      match s.worker, protocol with
      | .initing c, .kcp =>
          if ok then
            some { s with
              worker := .dialed s.next
              openSocks := insert s.next (s.openSocks.erase c)
              next := s.next + 1 }
          else some { s with worker := .cooling, openSocks := s.openSocks.erase c }
      | .initing c, .quic =>
          if ok then
            some { s with
              worker := .created s.next c
              openSessions := insert s.next s.openSessions
              next := s.next + 1 }
          else some { s with worker := .cooling, openSocks := s.openSocks.erase c }
      | _, _ => none
  | .wrap r =>
      match s.worker with
      | .dialed c =>
          match r with
          | .ok =>
              some { s with
                worker := .created s.next c
                openSessions := insert s.next s.openSessions
                next := s.next + 1 }
          | .kcpErr | .muxErr false => some { s with worker := .cooling }
          | .muxErr true =>
              some { s with worker := .cooling, openSocks := s.openSocks.erase c }
      | _ => none
  | .assign =>
      match s.worker with
      | .created n c => some { s with worker := .cooling, session := some n, lConn := some c }
      | _ => none
  | .cool =>
      match s.worker with
      | .cooling => some { s with worker := .selecting }
      | _ => none
  | .stop =>
      match s.worker with
      | .selecting =>
          if s.returned ∨ s.closer ≠ .none then some { s with worker := .returned } else none
      | _ => none
  | .die closed =>
      some { s with
        openSessions := s.openSessions.filter fun n => s.session ≠ some n
        openSocks := s.openSocks.filter fun c => closed = true → s.lConn ≠ some c }
  | .close =>
      match s.closer with
      | .none => some { s with closer := .cancelled }
      | _ => none
  | .closeSession =>
      match s.closer with
      | .cancelled => some { s.close with closer := .leaving }
      | _ => none
  | .closeReturn =>
      match s.closer with
      | .leaving => some { s with closer := .none, returned := true }
      | _ => none

/-! ## Whose the session is -/

/-- What a step does with the session that is in place, and what is left when the visitor is
closed and nothing is in progress. -/
structure Owned (s : State) (l : Label) (t : State) : Prop where
  closedBy : ∀ n, s.session = some n → t.session ≠ some n → l = .closeSession ∨ l = .assign ∨
    ∃ i, l = .closeFailed i ∧ s.calls.get i = some (.failed (some n))
  replaces : l = .assign → (∀ n, s.session = some n → n ∉ s.openSessions) ∧
    ∀ c, s.lConn = some c → c ∉ s.openSocks
  left_ : t.returned = true → t.closer = .none → t.worker.busy = false →
    (∀ i, t.calls.get i = none) → t.openSessions = ∅ ∧ t.openSocks = ∅

/-- No session or socket that is in place is open. -/
def Vacant (s : State) : Prop :=
  (∀ n, s.session = some n → n ∉ s.openSessions) ∧ ∀ c, s.lConn = some c → c ∉ s.openSocks

/-- A start event is received while nothing is in place; `MakeHole` returns when no socket is
open that it has opened and does not return; the assignment comes while no call is between its
`OpenConn` and its `Close`, and before the visitor's `Close` has closed the session; `Init`
does not fail between `DialUDP` and the assignment. -/
def Guard (s : State) : Label → Prop
  | .trigger i => s.calls.get i = some .closed → s.worker = .selecting → Vacant s
  | .keepStart => Vacant s
  | .found d => ∀ c conns, s.worker = .detecting c conns → ∀ e ∈ conns, e = d
  | .noneFound => ∀ c conns, s.worker = .detecting c conns → ∀ e ∈ conns, e = c
  | .assign => (∀ i session, s.calls.get i ≠ some (.failed session)) ∧
      (s.closer = .cancelled ∨ s.closer = .none ∧ s.returned = false)
  | .wrap r => r = .ok ∨ r = .muxErr true
  | _ => True

/-! ## What a step does -/

variable {protocol} {s t : State} {l : Label}

/-- The steps as they change the state. -/
inductive Moves (s : State) : Label → State → Prop
  | call :
      Moves s .call { s with
        calls := s.calls.set s.nextCall .entered
        nextCall := s.nextCall + 1 }
  /-- A call comes to its end. -/
  | done {l : Label} {i : Nat} (good : Guard s l) (other : l ≠ .assign) :
      Moves s l { s with calls := s.calls.delete i }
  | openFailed {i : Nat} (here : s.calls.get i = some .entered) :
      Moves s (.openConn i false) { s with calls := s.calls.set i (.failed s.session) }
  | closeFailed {i : Nat} {session : Option Nat} (here : s.calls.get i = some (.failed session)) :
      Moves s (.closeFailed i) { s.close with calls := s.calls.set i .closed }
  | trigger {i : Nat} (here : s.calls.get i = some .closed) (waits : s.worker = .selecting) :
      Moves s (.trigger i) { s with calls := s.calls.delete i, worker := .prechecking }
  | keepStart (waits : s.worker = .selecting) :
      Moves s .keepStart { s with keepTunnelOpen := false, worker := .prechecking }
  /-- The worker goes on with what it holds. -/
  | pass {l : Label} {worker : Worker} (good : Guard s l) (other : l ≠ .assign)
      (socks : worker.socks = s.worker.socks) (session : worker.session = s.worker.session)
      (busy : worker.busy = true → s.worker.busy = true) :
      Moves s l { s with worker := worker }
  | prepare (at_ : s.worker = .preparing) :
      Moves s (.prepare true) { s with
        worker := .exchanging s.next
        openSocks := insert s.next s.openSocks
        next := s.next + 1 }
  | listen {c k : Nat} (at_ : s.worker = .holing c) :
      Moves s (.listen k) { s with
        worker := .detecting c (Finset.Ico s.next (s.next + k + 1) ∪ {c})
        openSocks := Finset.Ico s.next (s.next + k + 1) ∪ s.openSocks
        next := s.next + k + 1 }
  /-- The worker closes one of its sockets, and gives up or waits for the others. -/
  | drop {l : Label} {worker : Worker} {c : Nat} (good : Guard s l) (other : l ≠ .assign)
      (socks : worker.socks = s.worker.socks.erase c) (session : worker.session = none)
      (held : s.worker.session = none) (busy : s.worker.busy = true) :
      Moves s l { s with worker := worker, openSocks := s.openSocks.erase c }
  | found {c d : Nat} {conns : Finset Nat} (at_ : s.worker = .detecting c conns)
      (mem : d ∈ conns) :
      Moves s (.found d) { s with
        worker := .initing d
        lingering := s.lingering ∪ conns.erase d }
  | noneFound {c : Nat} {conns : Finset Nat} (at_ : s.worker = .detecting c conns) :
      Moves s .noneFound { s with
        worker := .cooling
        lingering := s.lingering ∪ conns.erase c
        openSocks := s.openSocks.erase c }
  | expire {c : Nat} (mem : c ∈ s.lingering) :
      Moves s (.expire c) { s with
        lingering := s.lingering.erase c
        openSocks := s.openSocks.erase c }
  /-- The worker gives up, and leaves its socket open. -/
  | leave {r : Wrapped} {c : Nat} (bad : ¬ Guard s (.wrap r)) (at_ : s.worker = .dialed c) :
      Moves s (.wrap r) { s with worker := .cooling }
  | dial {c : Nat} (at_ : s.worker = .initing c) :
      Moves s (.dial true) { s with
        worker := .dialed s.next
        openSocks := insert s.next (s.openSocks.erase c)
        next := s.next + 1 }
  | session {l : Label} {c : Nat} (good : Guard s l) (other : l ≠ .assign)
      (socks : s.worker.socks = {c}) (session : s.worker.session = none)
      (busy : s.worker.busy = true) :
      Moves s l { s with
        worker := .created s.next c
        openSessions := insert s.next s.openSessions
        next := s.next + 1 }
  | assign {n c : Nat} (at_ : s.worker = .created n c) :
      Moves s .assign { s with worker := .cooling, session := some n, lConn := some c }
  | die {closed : Bool} :
      Moves s (.die closed) { s with
        openSessions := s.openSessions.filter fun n => s.session ≠ some n
        openSocks := s.openSocks.filter fun c => closed = true → s.lConn ≠ some c }
  | close (free : s.closer = .none) : Moves s .close { s with closer := .cancelled }
  | closeSession (at_ : s.closer = .cancelled) :
      Moves s .closeSession { s.close with closer := .leaving }
  | closeReturn (at_ : s.closer = .leaving) :
      Moves s .closeReturn { s with closer := .none, returned := true }

theorem step_moves (next : step protocol s l = some t) : Moves s l t := by
  cases l with
  | call =>
      cases next
      exact .call
  | openConn i ok =>
      simp only [step] at next
      split at next
      · rename_i here
        cases ok with
        | true =>
            rw [if_pos rfl] at next
            split at next
            · cases next
              exact .done trivial (by simp)
            · cases next
        | false =>
            cases next
            exact .openFailed here
      · cases next
  | closeFailed i =>
      simp only [step] at next
      split at next
      · rename_i session here
        cases next
        exact .closeFailed here
      · cases next
  | trigger i =>
      simp only [step] at next
      split at next
      · rename_i here
        split at next
        · rename_i waits
          cases next
          exact .trigger here waits
        · rename_i away
          cases next
          exact .done (fun _ waits => absurd waits away) (by simp)
      · cases next
  | keepStart =>
      simp only [step] at next
      split at next
      · rename_i waits
        split at next
        · cases next
          exact .keepStart waits
        · cases next
      · cases next
  | precheck ok =>
      simp only [step] at next
      split at next
      · rename_i at_
        cases next
        refine .pass trivial (by simp) ?_ ?_ ?_
        · cases ok <;> simp [at_, Worker.socks]
        · cases ok <;> simp [at_, Worker.session]
        · simp [at_, Worker.busy]
      · cases next
  | prepare ok =>
      simp only [step] at next
      split at next
      · rename_i at_
        split at next
        · rename_i good
          cases next
          subst good
          exact .prepare at_
        · cases next
          exact .pass trivial (by simp) (by simp [at_, Worker.socks])
            (by simp [at_, Worker.session]) (by simp [Worker.busy])
      · cases next
  | exchange ok =>
      simp only [step] at next
      split at next
      · rename_i c at_
        split at next
        · cases next
          exact .pass trivial (by simp) (by simp [at_, Worker.socks])
            (by simp [at_, Worker.session]) (by simp [at_, Worker.busy])
        · cases next
          exact .drop trivial (by simp) (by simp [at_, Worker.socks]) rfl
            (by simp [at_, Worker.session]) (by simp [at_, Worker.busy])
      · cases next
  | hole ok =>
      simp only [step] at next
      split at next
      · rename_i c at_
        split at next
        · cases next
          exact .pass trivial (by simp) (by simp [at_, Worker.socks])
            (by simp [at_, Worker.session]) (by simp [at_, Worker.busy])
        · cases next
          exact .drop trivial (by simp) (by simp [at_, Worker.socks]) rfl
            (by simp [at_, Worker.session]) (by simp [at_, Worker.busy])
      · cases next
  | listen k =>
      simp only [step] at next
      split at next
      · rename_i c at_
        cases next
        exact .listen at_
      · cases next
  | giveUp d =>
      simp only [step] at next
      split at next
      · rename_i c conns at_
        split at next
        · cases next
          exact .drop trivial (by simp) (by simp [at_, Worker.socks]) rfl
            (by simp [at_, Worker.session]) (by simp [at_, Worker.busy])
        · cases next
      · cases next
  | found d =>
      simp only [step] at next
      split at next
      · rename_i c conns at_
        split at next
        · rename_i mem
          cases next
          exact .found at_ mem
        · cases next
      · cases next
  | noneFound =>
      simp only [step] at next
      split at next
      · rename_i c conns at_
        cases next
        exact .noneFound at_
      · cases next
  | expire c =>
      simp only [step] at next
      split at next
      · rename_i mem
        cases next
        exact .expire mem
      · cases next
  | dial ok =>
      simp only [step] at next
      split at next
      · rename_i c at_
        split at next
        · rename_i good
          cases next
          subst good
          exact .dial at_
        · cases next
          exact .drop trivial (by simp) (by simp [at_, Worker.socks]) rfl
            (by simp [at_, Worker.session]) (by simp [at_, Worker.busy])
      · rename_i c at_
        split at next
        · cases next
          exact .session trivial (by simp) (by simp [at_, Worker.socks])
            (by simp [at_, Worker.session]) (by simp [at_, Worker.busy])
        · cases next
          exact .drop trivial (by simp) (by simp [at_, Worker.socks]) rfl
            (by simp [at_, Worker.session]) (by simp [at_, Worker.busy])
      · cases next
  | wrap r =>
      simp only [step] at next
      split at next
      · rename_i c at_
        split at next
        · cases next
          exact .session (.inl rfl) (by simp) (by simp [at_, Worker.socks])
            (by simp [at_, Worker.session]) (by simp [at_, Worker.busy])
        · cases next
          exact .leave (by simp [Guard]) at_
        · cases next
          exact .leave (by simp [Guard]) at_
        · cases next
          exact .drop (.inr rfl) (by simp) (by simp [at_, Worker.socks]) rfl
            (by simp [at_, Worker.session]) (by simp [at_, Worker.busy])
      · cases next
  | assign =>
      simp only [step] at next
      split at next
      · rename_i n c at_
        cases next
        exact .assign at_
      · cases next
  | cool =>
      simp only [step] at next
      split at next
      · rename_i at_
        cases next
        exact .pass trivial (by simp) (by simp [at_, Worker.socks]) (by simp [at_, Worker.session])
          (by simp [Worker.busy])
      · cases next
  | stop =>
      simp only [step] at next
      split at next
      · rename_i at_
        split at next
        · cases next
          exact .pass trivial (by simp) (by simp [at_, Worker.socks])
            (by simp [at_, Worker.session]) (by simp [Worker.busy])
        · cases next
      · cases next
  | die closed =>
      cases next
      exact .die
  | close =>
      simp only [step] at next
      split at next
      · rename_i free
        cases next
        exact .close free
      · cases next
  | closeSession =>
      simp only [step] at next
      split at next
      · rename_i at_
        cases next
        exact .closeSession at_
      · cases next
  | closeReturn =>
      simp only [step] at next
      split at next
      · rename_i at_
        cases next
        exact .closeReturn at_
      · cases next

/-! ## What the condition keeps -/

structure Kept (s : State) : Prop where
  sessions : ∀ n ∈ s.openSessions, s.session = some n ∨ s.worker.session = some n
  socks : ∀ c ∈ s.openSocks, s.lConn = some c ∨ c ∈ s.worker.socks
  paired : s.session = none → s.lConn = none
  known : (∀ n, s.session = some n → n < s.next) ∧ ∀ c, s.lConn = some c → c < s.next
  sock : ∀ c ∈ s.worker.socks, c < s.next ∧ s.lConn ≠ some c
  made : ∀ n, s.worker.session = some n →
    n < s.next ∧ s.session ≠ some n ∧ ∀ i, s.calls.get i ≠ some (.failed (some n))
  /-- A session is in place until the calls that failed with it come to their `Close`. -/
  failed : ∀ i session, s.calls.get i = some (.failed session) →
    (∀ n, s.session = some n → session = some n) ∧ ∀ n, session = some n → n < s.next
  heldSession : ∀ n, s.worker.session = some n → n ∈ s.openSessions
  heldSock : ∀ c ∈ s.worker.socks, c ∈ s.openSocks
  alone : s.lingering = ∅
  vacant : s.worker.busy = true → Vacant s
  closed : s.returned = true ∨ s.closer = .leaving → s.closer ≠ .cancelled → s.session = none
  fresh : ∀ i, s.nextCall ≤ i → s.calls.get i = none

theorem kept_start (keepTunnelOpen : Bool) : Kept (start keepTunnelOpen) where
  sessions n mem := absurd mem (Finset.notMem_empty n)
  socks c mem := absurd mem (Finset.notMem_empty c)
  paired _ := rfl
  known := ⟨by simp [start], by simp [start]⟩
  sock c mem := absurd mem (Finset.notMem_empty c)
  made n holds := by cases holds
  failed i session here := by simp [start] at here
  heldSession n holds := by cases holds
  heldSock c mem := absurd mem (Finset.notMem_empty c)
  alone := rfl
  vacant busy := by cases busy
  closed _ _ := rfl
  fresh i _ := by simp [start]

theorem Vacant.shrink (vacant : Vacant s) {openSessions openSocks : Finset Nat}
    (sessions : openSessions ⊆ s.openSessions) (socks : openSocks ⊆ s.openSocks) :
    Vacant { s with openSessions := openSessions, openSocks := openSocks } :=
  ⟨fun n there mem => vacant.1 n there (sessions mem),
    fun c there mem => vacant.2 c there (socks mem)⟩

/-- Calls come, go on and end. -/
theorem Kept.setCalls (kept : Kept s) (calls : GoMap Nat Call) (nextCall : Nat)
    (failed : ∀ i session, calls.get i = some (.failed session) →
      s.calls.get i = some (.failed session) ∨ session = s.session)
    (fresh : ∀ i, nextCall ≤ i → calls.get i = none) :
    Kept { s with calls := calls, nextCall := nextCall } :=
  { kept with
    made := by
      intro n holds
      obtain ⟨less, other, never⟩ := kept.made n holds
      refine ⟨less, other, fun i here => ?_⟩
      rcases failed i (some n) here with before | now
      · exact never i before
      · exact other now.symm
    failed := by
      intro i session here
      rcases failed i session here with before | rfl
      · exact kept.failed i session before
      · exact ⟨fun _ there => there, kept.known.1⟩
    fresh := fresh }

theorem Kept.delete (kept : Kept s) (i : Nat) : Kept { s with calls := s.calls.delete i } :=
  kept.setCalls _ _ (fun _ _ here => .inl (GoMap.get_delete_eq_some.1 here).2)
    (fun j new => GoMap.get_delete_eq_none (kept.fresh j new))

/-- `Close` of the session. -/
theorem Kept.close (kept : Kept s) : Kept s.close where
  sessions := by
    intro n mem
    obtain ⟨mem, other⟩ := Finset.mem_filter.1 mem
    exact .inr ((kept.sessions n mem).resolve_left other)
  socks := by
    intro c mem
    obtain ⟨mem, other⟩ := Finset.mem_filter.1 mem
    exact .inr ((kept.socks c mem).resolve_left other)
  paired := fun _ => rfl
  known := ⟨by simp [State.close], by simp [State.close]⟩
  sock := fun c holds => ⟨(kept.sock c holds).1, by simp [State.close]⟩
  made := fun n holds => ⟨(kept.made n holds).1, by simp [State.close], (kept.made n holds).2.2⟩
  failed := fun i session here => ⟨by simp [State.close], (kept.failed i session here).2⟩
  heldSession := by
    intro n holds
    exact Finset.mem_filter.2 ⟨kept.heldSession n holds, (kept.made n holds).2.1⟩
  heldSock := by
    intro c holds
    exact Finset.mem_filter.2 ⟨kept.heldSock c holds, (kept.sock c holds).2⟩
  alone := kept.alone
  vacant := fun _ => ⟨by simp [State.close], by simp [State.close]⟩
  closed := fun _ _ => rfl
  fresh := kept.fresh

theorem Kept.begin (kept : Kept s) (waits : s.worker = .selecting) (vacant : Vacant s) :
    Kept { s with worker := .prechecking } :=
  { kept with
    sessions := by simpa [waits, Worker.session] using kept.sessions
    socks := by simpa [waits, Worker.socks] using kept.socks
    sock := fun c mem => absurd mem (Finset.notMem_empty c)
    made := fun _ holds => by cases holds
    heldSession := fun _ holds => by cases holds
    heldSock := fun c mem => absurd mem (Finset.notMem_empty c)
    vacant := fun _ => vacant }

/-- The worker goes on with what it holds. -/
theorem Kept.pass (kept : Kept s) {worker : Worker} (socks : worker.socks = s.worker.socks)
    (session : worker.session = s.worker.session)
    (busy : worker.busy = true → s.worker.busy = true) : Kept { s with worker := worker } :=
  { kept with
    sessions := by simpa [session] using kept.sessions
    socks := by simpa [socks] using kept.socks
    sock := by simpa [socks] using kept.sock
    made := by simpa [session] using kept.made
    heldSession := by simpa [session] using kept.heldSession
    heldSock := by simpa [socks] using kept.heldSock
    vacant := fun now => kept.vacant (busy now) }

/-- Numbers are drawn. -/
theorem Kept.count (kept : Kept s) {next : Nat} (le : s.next ≤ next) :
    Kept { s with next := next } :=
  { kept with
    known := ⟨fun n there => (kept.known.1 n there).trans_le le,
      fun c there => (kept.known.2 c there).trans_le le⟩
    sock := fun c holds => ⟨(kept.sock c holds).1.trans_le le, (kept.sock c holds).2⟩
    made := by
      intro n holds
      obtain ⟨less, others⟩ := kept.made n holds
      exact ⟨less.trans_le le, others⟩
    failed := by
      intro i session here
      obtain ⟨same, less⟩ := kept.failed i session here
      exact ⟨same, fun n some_ => (less n some_).trans_le le⟩ }

/-- The worker closes one of its sockets. -/
theorem Kept.drop (kept : Kept s) {worker : Worker} {c : Nat}
    (socks : worker.socks = s.worker.socks.erase c) (session : worker.session = none)
    (held : s.worker.session = none) (busy : s.worker.busy = true) :
    Kept { s with worker := worker, openSocks := s.openSocks.erase c } := by
  refine { kept with sessions := ?_, socks := ?_, sock := ?_, made := ?_, heldSession := ?_,
                     heldSock := ?_, vacant := ?_ }
  · exact fun n mem => .inl ((kept.sessions n mem).resolve_right (by simp [held]))
  · intro d mem
    obtain ⟨differs, mem⟩ := Finset.mem_erase.1 mem
    refine (kept.socks d mem).imp_right fun mine => ?_
    rw [socks]
    exact Finset.mem_erase.2 ⟨differs, mine⟩
  · intro d mine
    rw [socks] at mine
    exact kept.sock d (Finset.mem_of_mem_erase mine)
  · intro n holds
    cases session.symm.trans holds
  · intro n holds
    cases session.symm.trans holds
  · intro d mine
    rw [socks] at mine
    obtain ⟨differs, mine⟩ := Finset.mem_erase.1 mine
    exact Finset.mem_erase.2 ⟨differs, kept.heldSock d mine⟩
  · exact fun _ => (kept.vacant busy).shrink (Finset.Subset.refl _) (Finset.erase_subset c _)

/-- A worker without a session opens sockets. -/
theorem Kept.openSocks (kept : Kept s) (vacant : Vacant s) {new : Finset Nat} {next : Nat}
    (le : s.next ≤ next) (drawn : ∀ c ∈ new, s.next ≤ c ∧ c < next) {worker : Worker}
    (socks : worker.socks = new ∪ s.worker.socks) (session : worker.session = none)
    (held : s.worker.session = none) :
    Kept { s with worker := worker, openSocks := new ∪ s.openSocks, next := next } := by
  have fresh : ∀ c ∈ new, s.lConn ≠ some c :=
    fun c mem there => Nat.lt_irrefl _ ((kept.known.2 c there).trans_le (drawn c mem).1)
  refine { kept.count le with sessions := ?_, socks := ?_, sock := ?_, made := ?_,
                              heldSession := ?_, heldSock := ?_, vacant := ?_ }
  · exact fun n mem => .inl ((kept.sessions n mem).resolve_right (by simp [held]))
  · intro c mem
    rw [socks]
    rcases Finset.mem_union.1 mem with mem | mem
    · exact .inr (Finset.mem_union_left _ mem)
    · exact (kept.socks c mem).imp_right fun mine => Finset.mem_union_right _ mine
  · intro c mine
    rw [socks] at mine
    rcases Finset.mem_union.1 mine with mem | mine
    · exact ⟨(drawn c mem).2, fresh c mem⟩
    · exact (kept.count le).sock c mine
  · intro n holds
    cases session.symm.trans holds
  · intro n holds
    cases session.symm.trans holds
  · intro c mine
    rw [socks] at mine
    exact Finset.union_subset_union_right kept.heldSock mine
  · intro _
    refine ⟨vacant.1, fun c there mem => ?_⟩
    rcases Finset.mem_union.1 mem with mem | mem
    · exact fresh c mem there
    · exact vacant.2 c there mem

/-- A worker that holds no socket opens one. -/
theorem Kept.openSock (kept : Kept s) (vacant : Vacant s) {worker : Worker}
    (socks : worker.socks = {s.next}) (none_ : s.worker.socks = ∅)
    (session : worker.session = none) (held : s.worker.session = none) :
    Kept { s with
      worker := worker
      openSocks := insert s.next s.openSocks
      next := s.next + 1 } := by
  rw [Finset.insert_eq]
  refine kept.openSocks vacant (Nat.le_succ _) ?_ (by rw [socks, none_, Finset.union_empty])
    session held
  intro c mem
  rw [Finset.mem_singleton.1 mem]
  exact ⟨Nat.le_refl _, Nat.lt_succ_self _⟩

/-- A worker that holds a socket makes a session over it. -/
theorem Kept.openSession (kept : Kept s) {c : Nat} (socks : s.worker.socks = {c})
    (none_ : s.worker.session = none) (busy : s.worker.busy = true) :
    Kept { s with
      worker := .created s.next c
      openSessions := insert s.next s.openSessions
      next := s.next + 1 } := by
  have vacant := kept.vacant busy
  have fresh : s.session ≠ some s.next := fun there => Nat.lt_irrefl _ (kept.known.1 _ there)
  have counted := kept.count (Nat.le_succ s.next)
  refine { counted with sessions := ?_, socks := ?_, sock := ?_, made := ?_,
                        heldSession := ?_, heldSock := ?_, vacant := ?_ }
  · intro n mem
    rcases Finset.mem_insert.1 mem with rfl | mem
    · exact .inr rfl
    · exact .inl ((kept.sessions n mem).resolve_right (by simp [none_]))
  · exact fun d mem => (kept.socks d mem).imp_right fun mine => socks.subset mine
  · exact fun d mine => counted.sock d (socks.superset mine)
  · rintro n ⟨⟩
    refine ⟨Nat.lt_succ_self _, fresh, fun i here => ?_⟩
    exact absurd ((kept.failed i _ here).2 _ rfl) (Nat.lt_irrefl _)
  · rintro n ⟨⟩
    exact Finset.mem_insert_self _ _
  · exact fun d mine => kept.heldSock d (socks.superset mine)
  · intro _
    refine ⟨fun n there mem => ?_, vacant.2⟩
    rcases Finset.mem_insert.1 mem with rfl | mem
    · exact fresh there
    · exact vacant.1 n there mem

/-- The worker installs what it has made. -/
theorem Kept.install (kept : Kept s) {n c : Nat} (at_ : s.worker = .created n c)
    (guarded : Guard s .assign) :
    Kept { s with worker := .cooling, session := some n, lConn := some c } := by
  have vacant := kept.vacant (by rw [at_]; rfl)
  have made := kept.made n (by rw [at_]; rfl)
  have sock := kept.sock c (by simp [at_, Worker.socks])
  obtain ⟨none_, before⟩ := guarded
  refine { kept with sessions := ?_, socks := ?_, paired := ?_, known := ?_, sock := ?_,
                     made := ?_, failed := ?_, heldSession := ?_, heldSock := ?_,
                     vacant := ?_, closed := ?_ }
  · intro m mem
    rcases kept.sessions m mem with there | holds
    · exact absurd mem (vacant.1 m there)
    · exact .inl (by simpa [at_, Worker.session] using holds)
  · intro d mem
    rcases kept.socks d mem with there | holds
    · exact absurd mem (vacant.2 d there)
    · obtain rfl : d = c := by simpa [at_, Worker.socks] using holds
      exact .inl rfl
  · intro gone
    cases gone
  · refine ⟨?_, ?_⟩
    · rintro m ⟨⟩
      exact made.1
    · rintro d ⟨⟩
      exact sock.1
  · exact fun d mem => absurd mem (Finset.notMem_empty d)
  · intro m holds
    cases holds
  · intro i session here
    exact absurd here (none_ i session)
  · intro m holds
    cases holds
  · exact fun d mem => absurd mem (Finset.notMem_empty d)
  · intro busy
    cases busy
  · intro ended still
    rcases before with cancelled | ⟨free, first⟩
    · exact absurd cancelled still
    · simp [free, first] at ended

theorem Kept.moves (kept : Kept s) (guarded : Guard s l) (moves : Moves s l t) : Kept t := by
  cases moves with
  | call =>
      refine kept.setCalls _ _ ?_ ?_
      · intro i session here
        rcases GoMap.get_set_eq_some.1 here with ⟨-, again⟩ | ⟨-, before⟩
        · cases again
        · exact .inl before
      · intro i new
        have differs : i ≠ s.nextCall := by omega
        simp [differs, kept.fresh i (Nat.le_of_succ_le new)]
  | done good other => exact kept.delete _
  | @openFailed i here =>
      refine kept.setCalls _ _ ?_ fun j new => GoMap.get_set_eq_none here (kept.fresh j new)
      intro j session here
      rcases GoMap.get_set_eq_some.1 here with ⟨-, again⟩ | ⟨-, before⟩
      · cases again
        exact .inr rfl
      · exact .inl before
  | @closeFailed i session here =>
      refine kept.close.setCalls _ _ ?_ fun j new => GoMap.get_set_eq_none here (kept.fresh j new)
      intro j session here
      rcases GoMap.get_set_eq_some.1 here with ⟨-, again⟩ | ⟨-, before⟩
      · cases again
      · exact .inl before
  | @trigger i here waits => exact (kept.delete i).begin waits (guarded here waits)
  | keepStart waits =>
      have started := kept.begin waits guarded
      exact { started with }
  | pass good other socks session busy => exact kept.pass socks session busy
  | prepare at_ =>
      exact kept.openSock (kept.vacant (by rw [at_]; rfl)) rfl (by rw [at_]; rfl) rfl
        (by rw [at_]; rfl)
  | listen at_ =>
      refine kept.openSocks (kept.vacant (by rw [at_]; rfl)) (by omega) ?_
        (by rw [at_]; rfl) rfl (by rw [at_]; rfl)
      exact fun c mem => Finset.mem_Ico.1 mem
  | drop good other socks session held busy => exact kept.drop socks session held busy
  | @found c d conns at_ mem =>
      obtain rfl : conns = {d} := Finset.eq_singleton_iff_unique_mem.2 ⟨mem, guarded c conns at_⟩
      have passed : Kept { s with worker := .initing d } :=
        kept.pass (by rw [at_]; rfl) (by rw [at_]; rfl) fun _ => by rw [at_]; rfl
      simpa using passed
  | @noneFound c conns at_ =>
      have gone : conns.erase c = ∅ := by
        apply Finset.eq_empty_of_forall_notMem
        intro e mem
        exact (Finset.mem_erase.1 mem).1 (guarded c conns at_ e (Finset.mem_of_mem_erase mem))
      have dropped : Kept { s with worker := .cooling, openSocks := s.openSocks.erase c } :=
        kept.drop (by rw [at_]; exact gone.symm) rfl (by rw [at_]; rfl) (by rw [at_]; rfl)
      simpa [gone] using dropped
  | expire mem => simp [kept.alone] at mem
  | leave bad at_ => exact absurd guarded bad
  | @dial c at_ =>
      have vacant := kept.vacant (by rw [at_]; rfl)
      have dropped : Kept { s with worker := .cooling, openSocks := s.openSocks.erase c } :=
        kept.drop (by simp [at_, Worker.socks]) rfl (by rw [at_]; rfl) (by rw [at_]; rfl)
      exact dropped.openSock (vacant.shrink (Finset.Subset.refl _) (Finset.erase_subset c _)) rfl
        rfl rfl rfl
  | session good other socks none_ busy => exact kept.openSession socks none_ busy
  | assign at_ => exact kept.install at_ guarded
  | die =>
      exact { kept with
        sessions := fun n mem => kept.sessions n (Finset.mem_filter.1 mem).1
        socks := fun c mem => kept.socks c (Finset.mem_filter.1 mem).1
        heldSession := by
          intro n holds
          exact Finset.mem_filter.2 ⟨kept.heldSession n holds, (kept.made n holds).2.1⟩
        heldSock := by
          intro c holds
          exact Finset.mem_filter.2 ⟨kept.heldSock c holds, fun _ => (kept.sock c holds).2⟩
        vacant := fun busy =>
          (kept.vacant busy).shrink (Finset.filter_subset _ _) (Finset.filter_subset _ _) }
  | close free => exact { kept with closed := fun _ still => absurd rfl still }
  | closeSession at_ => exact { kept.close with closed := fun _ _ => rfl }
  | closeReturn at_ =>
      exact { kept with closed := fun _ _ => kept.closed (.inr at_) (by simp [at_]) }

theorem Worker.holds_of_busy {worker : Worker} (idle : worker.busy = false) :
    worker.socks = ∅ ∧ worker.session = none := by
  cases worker with
  | selecting | cooling | returned => exact ⟨rfl, rfl⟩
  | _ => cases idle

/-- Between calls nothing is left of a closed visitor. -/
theorem Kept.left (kept : Kept s) (returned : s.returned = true) (closer : s.closer = .none)
    (idle : s.worker.busy = false) : s.openSessions = ∅ ∧ s.openSocks = ∅ := by
  obtain ⟨socks, session⟩ := Worker.holds_of_busy idle
  have gone : s.session = none := kept.closed (.inl returned) (by simp [closer])
  constructor
  · apply Finset.eq_empty_of_forall_notMem
    intro n mem
    simpa [gone, session] using kept.sessions n mem
  · apply Finset.eq_empty_of_forall_notMem
    intro c mem
    simpa [kept.paired gone, socks] using kept.socks c mem

theorem Kept.owned (kept : Kept s) (guarded : Guard s l) (moves : Moves s l t) : Owned s l t := by
  refine ⟨?_, ?_, fun returned closer idle _ => ?_⟩
  · intro n there gone
    cases moves with
    | @closeFailed i session here =>
        refine .inr (.inr ⟨i, rfl, ?_⟩)
        rw [here, (kept.failed i session here).1 n there]
    | assign => exact .inr (.inl rfl)
    | closeSession => exact .inl rfl
    | _ => exact absurd there gone
  · rintro rfl
    cases moves with
    | assign at_ => exact kept.vacant (by rw [at_]; rfl)
    | done good other | pass good other | drop good other | session good other =>
        exact absurd rfl other
  · exact (kept.moves guarded moves).left returned closer idle

/-! ## When the condition fails -/

/-- The next step can be one that is not as it should be. -/
def Breaks (protocol : Protocol) (s : State) : Prop :=
  ∃ l t, step protocol s l = some t ∧ ¬ Owned s l t

/-- How far the worker is from the assignment, with `listenConn` alone. -/
def Worker.left : Worker → Nat
  | .prechecking => 7
  | .preparing => 6
  | .exchanging _ => 5
  | .holing _ => 4
  | .initing _ => 3
  | .dialed _ => 2
  | .created .. => 1
  | _ => 0

/-- The worker makes a hole while a session or a socket is in place. -/
structure Occupied (s : State) : Prop where
  onWay : 0 < s.worker.left
  full : ¬ Vacant s
  known : ∀ c, s.lConn = some c → c < s.next
  sock : ∀ c ∈ s.worker.socks, s.lConn ≠ some c

theorem full_insert (full : ¬ Vacant s) {n : Nat} :
    ¬ Vacant { s with openSessions := insert n s.openSessions } :=
  fun vacant =>
    full ⟨fun m there mem => vacant.1 m there (Finset.mem_insert_of_mem mem), vacant.2⟩

theorem Occupied.goes_on (occupied : Occupied s) (still : ¬ Breaks protocol s) :
    ∃ l t, step protocol s l = some t ∧ Occupied t ∧ t.worker.left < s.worker.left := by
  obtain ⟨onWay, full, known, sock⟩ := occupied
  have fresh : s.lConn ≠ some s.next := fun there => Nat.lt_irrefl _ (known _ there)
  have later : ∀ c, s.lConn = some c → c < s.next + 1 :=
    fun c there => Nat.lt_succ_of_lt (known c there)
  cases at_ : s.worker with
  | selecting | detecting | cooling | returned => simp [at_, Worker.left] at onWay
  | prechecking =>
      have next : step protocol s (.precheck true) = some { s with worker := .preparing } := by
        simp [step, at_]
      exact ⟨_, _, next, ⟨Nat.succ_pos _, full, known, by simp [Worker.socks]⟩,
        by simp [Worker.left]⟩
  | preparing =>
      have next : step protocol s (.prepare true) = some { s with
          worker := .exchanging s.next
          openSocks := insert s.next s.openSocks
          next := s.next + 1 } := by
        simp [step, at_]
      refine ⟨_, _, next, ⟨Nat.succ_pos _, ?_, later, ?_⟩, by simp [Worker.left]⟩
      · intro vacant
        exact full ⟨vacant.1, fun c there mem => vacant.2 c there (Finset.mem_insert_of_mem mem)⟩
      · simpa [Worker.socks] using fresh
  | exchanging c =>
      have next : step protocol s (.exchange true) = some { s with worker := .holing c } := by
        simp [step, at_]
      refine ⟨_, _, next, ⟨Nat.succ_pos _, full, known, ?_⟩, by simp [Worker.left]⟩
      simpa [at_, Worker.socks] using sock
  | holing c =>
      have next : step protocol s (.hole true) = some { s with worker := .initing c } := by
        simp [step, at_]
      refine ⟨_, _, next, ⟨Nat.succ_pos _, full, known, ?_⟩, by simp [Worker.left]⟩
      simpa [at_, Worker.socks] using sock
  | initing c =>
      have other : s.lConn ≠ some c := sock c (by simp [at_, Worker.socks])
      cases protocol with
      | kcp =>
          have next : step .kcp s (.dial true) = some { s with
              worker := .dialed s.next
              openSocks := insert s.next (s.openSocks.erase c)
              next := s.next + 1 } := by
            simp [step, at_]
          refine ⟨_, _, next, ⟨Nat.succ_pos _, ?_, later, ?_⟩, by simp [Worker.left]⟩
          · intro vacant
            refine full ⟨vacant.1, fun d there mem => vacant.2 d there ?_⟩
            have differs : d ≠ c := by
              rintro rfl
              exact other there
            exact Finset.mem_insert_of_mem (Finset.mem_erase.2 ⟨differs, mem⟩)
          · simpa [Worker.socks] using fresh
      | quic =>
          have next : step .quic s (.dial true) = some { s with
              worker := .created s.next c
              openSessions := insert s.next s.openSessions
              next := s.next + 1 } := by
            simp [step, at_]
          refine ⟨_, _, next, ⟨Nat.succ_pos _, full_insert full, later, ?_⟩, by simp [Worker.left]⟩
          simpa [Worker.socks] using other
  | dialed c =>
      have other : s.lConn ≠ some c := sock c (by simp [at_, Worker.socks])
      have next : step protocol s (.wrap .ok) = some { s with
          worker := .created s.next c
          openSessions := insert s.next s.openSessions
          next := s.next + 1 } := by
        simp [step, at_]
      refine ⟨_, _, next, ⟨Nat.succ_pos _, full_insert full, later, ?_⟩, by simp [Worker.left]⟩
      simpa [Worker.socks] using other
  | created n c =>
      have next : step protocol s .assign =
          some { s with worker := .cooling, session := some n, lConn := some c } := by
        simp [step, at_]
      exact absurd ⟨.assign, _, next, fun owned => full (owned.replaces rfl)⟩ still

theorem Occupied.breaks (occupied : Occupied s) : CanReach (step protocol) (Breaks protocol) s := by
  refine canReach_of_measure Occupied (fun u => u.worker.left) ?_ occupied
  intro u occupied still
  exact occupied.goes_on still

/-- Something is open that no one will close: a socket that is not in place, or a session of
a closed visitor. -/
inductive Remains (s : State) : Prop where
  | sock {c : Nat} (open_ : c ∈ s.openSocks) (other : s.lConn ≠ some c) : Remains s
  | session {n : Nat} (open_ : n ∈ s.openSessions) (there : s.session = some n)
      (none_ : ∀ i session, s.calls.get i ≠ some (.failed session))
      (ended : s.closer = .leaving ∨ s.closer = .none ∧ s.returned = true) : Remains s

structure Lost (s : State) : Prop where
  cooling : s.worker = .cooling
  remains : Remains s

theorem Remains.not_empty (remains : Remains s) : ¬ (s.openSessions = ∅ ∧ s.openSocks = ∅) := by
  rintro ⟨sessions, socks⟩
  cases remains with
  | sock open_ => simp [socks] at open_
  | session open_ => simp [sessions] at open_

def Call.left : Call → Int
  | .entered => 3
  | .failed _ => 2
  | .closed => 1

theorem Call.left_pos (call : Call) : 0 < call.left := by
  cases call <;> simp [Call.left]

def Closer.left (returned : Bool) : Closer → Nat
  | .none => if returned then 0 else 3
  | .cancelled => 2
  | .leaving => 1

/-- The steps until the visitor is closed and no call is in progress. -/
def State.left (s : State) : Nat :=
  (s.calls.total Call.left).toNat + s.closer.left s.returned

theorem Lost.breaks_now (lost : Lost s) (idle : ∀ i, s.calls.get i = none)
    (closer : s.closer = .none) (returned : s.returned = true) : Breaks protocol s := by
  have next : step protocol s .cool = some { s with worker := .selecting } := by
    simp [step, lost.cooling]
  exact ⟨_, _, next, fun owned => lost.remains.not_empty (owned.left_ returned closer rfl idle)⟩

/-- A call that is in progress goes on. -/
theorem Lost.call_goes_on (lost : Lost s) {i : Nat} {call : Call}
    (here : s.calls.get i = some call) :
    ∃ l t, step protocol s l = some t ∧ Lost t ∧ t.left < s.left := by
  have nonneg : ∀ call : Call, 0 ≤ call.left := fun call => Int.le_of_lt call.left_pos
  have gone := GoMap.total_delete_lt nonneg here call.left_pos
  obtain ⟨cooling, remains⟩ := lost
  cases call with
  | entered =>
      by_cases alive : ∃ n ∈ s.session, n ∈ s.openSessions
      · have next : step protocol s (.openConn i true) =
            some { s with calls := s.calls.delete i } := by
          simp only [step, here, if_pos alive, if_true]
        refine ⟨_, _, next, ⟨cooling, ?_⟩, ?_⟩
        · cases remains with
          | sock open_ other => exact .sock open_ other
          | session open_ there none_ ended =>
              exact .session open_ there
                (fun j session found => none_ j session (GoMap.get_delete_eq_some.1 found).2) ended
        · simp only [State.left]
          omega
      · have next : step protocol s (.openConn i false) =
            some { s with calls := s.calls.set i (.failed s.session) } := by
          simp [step, here]
        refine ⟨_, _, next, ⟨cooling, ?_⟩, ?_⟩
        · cases remains with
          | sock open_ other => exact .sock open_ other
          | session open_ there none_ ended => exact absurd ⟨_, there, open_⟩ alive
        · have failed : Call.left (.failed s.session) < Call.left .entered := by simp [Call.left]
          have lighter := GoMap.total_set_lt nonneg here failed
          exact Nat.add_lt_add_right lighter _
  | failed session =>
      have next : step protocol s (.closeFailed i) =
          some { s.close with calls := s.calls.set i .closed } := by
        simp [step, here]
      refine ⟨_, _, next, ⟨cooling, ?_⟩, ?_⟩
      · cases remains with
        | sock open_ other =>
            exact .sock (Finset.mem_filter.2 ⟨open_, other⟩) (by simp [State.close])
        | session open_ there none_ ended => exact absurd here (none_ i session)
      · have closed : Call.left .closed < Call.left (.failed session) := by simp [Call.left]
        have lighter := GoMap.total_set_lt nonneg here closed
        exact Nat.add_lt_add_right lighter _
  | closed =>
      have next : step protocol s (.trigger i) = some { s with calls := s.calls.delete i } := by
        simp [step, here, cooling]
      refine ⟨_, _, next, ⟨cooling, ?_⟩, ?_⟩
      · cases remains with
        | sock open_ other => exact .sock open_ other
        | session open_ there none_ ended =>
            exact .session open_ there
              (fun j session found => none_ j session (GoMap.get_delete_eq_some.1 found).2) ended
      · simp only [State.left]
        omega

theorem Lost.goes_on (lost : Lost s) (still : ¬ Breaks protocol s) :
    ∃ l t, step protocol s l = some t ∧ Lost t ∧ t.left < s.left := by
  rcases s.calls.forall_get_none_or with idle | ⟨i, call, here⟩
  · obtain ⟨cooling, remains⟩ := lost
    cases at_ : s.closer with
    | none =>
        by_cases returned : s.returned = true
        · exact absurd (Lost.breaks_now ⟨cooling, remains⟩ idle at_ returned) still
        · have next : step protocol s .close = some { s with closer := .cancelled } := by
            simp [step, at_]
          refine ⟨_, _, next, ⟨cooling, ?_⟩, by simp [State.left, Closer.left, at_, returned]⟩
          cases remains with
          | sock open_ other => exact .sock open_ other
          | session open_ there none_ ended => simp [at_, returned] at ended
    | cancelled =>
        have next : step protocol s .closeSession = some { s.close with closer := .leaving } := by
          simp [step, at_]
        refine ⟨_, _, next, ⟨cooling, ?_⟩, by simp [State.left, Closer.left, State.close, at_]⟩
        cases remains with
        | sock open_ other =>
            exact .sock (Finset.mem_filter.2 ⟨open_, other⟩) (by simp [State.close])
        | session open_ there none_ ended => simp [at_] at ended
    | leaving =>
        have next : step protocol s .closeReturn =
            some { s with closer := .none, returned := true } := by
          simp [step, at_]
        refine ⟨_, _, next, ⟨cooling, ?_⟩, by simp [State.left, Closer.left, at_]⟩
        cases remains with
        | sock open_ other => exact .sock open_ other
        | session open_ there none_ ended => exact .session open_ there none_ (.inr ⟨rfl, rfl⟩)
  · exact lost.call_goes_on here

theorem Lost.breaks (lost : Lost s) : CanReach (step protocol) (Breaks protocol) s := by
  refine canReach_of_measure Lost State.left ?_ lost
  intro u lost still
  exact lost.goes_on still

theorem breaks_of_not_guard (kept : Kept s) (breaks : ¬ Guard s l)
    (next : step protocol s l = some t) :
    ∃ more, ¬ Along (step protocol) Owned s (l :: more) := by
  apply not_along_of_canReach_step next
  cases step_moves next with
  | trigger here waits =>
      simp only [Guard, here, waits, forall_const] at breaks
      exact Occupied.breaks ⟨Nat.succ_pos _, breaks, kept.known.2, by simp [Worker.socks]⟩
  | keepStart waits =>
      exact Occupied.breaks ⟨Nat.succ_pos _, breaks, kept.known.2, by simp [Worker.socks]⟩
  | @leave r c bad at_ =>
      have mine : c ∈ s.worker.socks := by simp [at_, Worker.socks]
      exact Lost.breaks ⟨rfl, .sock (kept.heldSock c mine) (kept.sock c mine).2⟩
  | @found c d conns at_ mem =>
      obtain ⟨e, mine, differs⟩ : ∃ e ∈ s.worker.socks, e ≠ d := by
        simpa [Guard, at_, Worker.socks] using breaks
      refine CanReach.of_step (l := .dial false) (t := { s with
        worker := .cooling
        lingering := s.lingering ∪ conns.erase d
        openSocks := s.openSocks.erase d }) ?_ (Lost.breaks ⟨rfl, .sock (c := e) ?_ ?_⟩)
      · cases protocol <;> rfl
      · exact Finset.mem_erase.2 ⟨differs, kept.heldSock e mine⟩
      · exact (kept.sock e mine).2
  | @noneFound c conns at_ =>
      obtain ⟨e, mine, differs⟩ : ∃ e ∈ s.worker.socks, e ≠ c := by
        simpa [Guard, at_, Worker.socks] using breaks
      refine Lost.breaks ⟨rfl, .sock (c := e) ?_ (kept.sock e mine).2⟩
      exact Finset.mem_erase.2 ⟨differs, kept.heldSock e mine⟩
  | @assign n c at_ =>
      have made := kept.made n (by rw [at_]; rfl)
      by_cases failed : ∃ i session, s.calls.get i = some (.failed session)
      · obtain ⟨i, session, here⟩ := failed
        apply CanReach.here
        refine ⟨.closeFailed i, _, by simp [step, here]; rfl, fun owned => ?_⟩
        rcases owned.closedBy n rfl (by simp [State.close]) with close | assign | ⟨j, same, failed⟩
        · cases close
        · cases assign
        · exact made.2.2 j failed
      · have none_ : ∀ i session, s.calls.get i ≠ some (.failed session) :=
          fun i session here => failed ⟨i, session, here⟩
        refine Lost.breaks ⟨rfl, .session (kept.heldSession n (by rw [at_]; rfl)) rfl none_ ?_⟩
        simp only [Guard, not_and_or, not_or] at breaks
        rcases breaks with some_ | ⟨other, late⟩
        · exact absurd none_ some_
        · cases closer : s.closer with
          | none => exact .inr ⟨rfl, by simpa [closer] using late⟩
          | cancelled => exact absurd closer other
          | leaving => exact .inl rfl
  | done good | pass good | drop good | session good => exact absurd good breaks
  | _ => exact absurd trivial breaks

/-! ## All runs -/

/-- **Each session is closed by those that may, none is replaced and none is left, as long
as a hole is made only when no session is in place, `MakeHole` leaves no socket behind, no
failure and no `Close` comes before the assignment, and `Init` does not fail on its way; and
never after another step.** -/
theorem session_owned (protocol : Protocol) (keepTunnelOpen : Bool) (ls : List Label) :
    (Along (step protocol) (fun s l _ => Guard s l) (start keepTunnelOpen) ls →
      Along (step protocol) Owned (start keepTunnelOpen) ls) ∧
      ∀ s l t, Along (step protocol) (fun s l _ => Guard s l) (start keepTunnelOpen) ls →
        exec (step protocol) (start keepTunnelOpen) ls = some s → ¬ Guard s l →
          step protocol s l = some t →
            ∃ more, ¬ Along (step protocol) Owned (start keepTunnelOpen) (ls ++ l :: more) := by
  refine strengthen_and_tight Kept ?_ ?_ ?_ (kept_start keepTunnelOpen) ls
  · intro s l t kept guarded next
    exact kept.moves guarded (step_moves next)
  · intro s l t kept guarded next
    exact kept.owned guarded (step_moves next)
  · intro s l t kept breaks next
    exact breaks_of_not_guard kept breaks next

/-- A call finds no session and waits; another one has the hole made.  The first call closes
the new session when it comes to its `Close`. -/
theorem stale_failure_closes_session :
    ¬ ∀ protocol keepTunnelOpen ls,
      Along (step protocol) Owned (start keepTunnelOpen) ls := by
  intro all
  have run := all .quic false [.call, .call, .openConn 0 false, .openConn 1 false, .closeFailed 1,
    .trigger 1, .precheck true, .prepare true, .exchange true, .hole true, .dial true, .assign,
    .closeFailed 0]
  obtain ⟨s, first, there, failed⟩ : ∃ s, exec (step .quic) (start false)
      [.call, .call, .openConn 0 false, .openConn 1 false, .closeFailed 1, .trigger 1,
        .precheck true, .prepare true, .exchange true, .hole true, .dial true, .assign] = some s ∧
      s.session = some 1 ∧ s.calls.get 0 = some (.failed none) := by
    refine ⟨_, rfl, rfl, ?_⟩
    decide
  have last : Along (step .quic) Owned s [.closeFailed 0] := Along.of_append run first
  have next : step .quic s (.closeFailed 0) =
      some { s.close with calls := s.calls.set 0 .closed } := by
    simp [step, failed]
  have gone : s.close.session ≠ some 1 := by simp [State.close]
  rcases (last _ next).1.closedBy 1 there gone with close | assign | ⟨i, same, other⟩
  · cases close
  · cases assign
  · cases same
    rw [failed] at other
    cases other

end ChmlFrp.Client.XtcpVisitor
