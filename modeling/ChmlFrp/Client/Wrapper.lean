/-
# ChmlFrp.Client.Wrapper — one proxy of the client and its status machine

`client/proxy/proxy_wrapper.go`.  A `Wrapper` drives one configured proxy: its
`checkWorker` asks the server to start it and to close it when the health check
fails, `SetRunningStatus` applies the server's answer, `Stop` ends it on a
reload.  Every method runs under the wrapper's mutex, so each is one function
here, returning the wrapper after it and the messages handed to the event
handler, in order.
-/
import Mathlib.Tactic.Common

namespace ChmlFrp.Client

set_option autoImplicit false

inductive ProxyPhase where
  | new
  | waitStart
  | startErr
  | running
  | checkFailed
  | closed
  deriving DecidableEq, Repr

/-- Times and durations are in nanoseconds. -/
def waitResponseTimeout : Nat := 20 * 1000000000

def startErrTimeout : Nat := 30 * 1000000000

/-- The two payloads a wrapper hands to its event handler, which sends them to
the server: `NewProxy` with the wrapper's own configuration, and `CloseProxy`. -/
inductive ProxyMsg where
  | newProxy
  | closeProxy
  deriving DecidableEq, Repr

structure Wrapper where
  phase : ProxyPhase
  err : String
  remoteAddr : String
  /-- Set when the configuration asks for a health check. -/
  monitored : Bool
  health : Nat
  lastSendStartMsg : Nat
  lastStartErr : Nat
  deriving DecidableEq, Repr

/-- With a monitor the proxy counts as failed until the first successful check. -/
def newWrapper (monitored : Bool) : Wrapper where
  phase := .new
  err := ""
  remoteAddr := ""
  monitored := monitored
  health := if monitored then 1 else 0
  lastSendStartMsg := 0
  lastStartErr := 0

namespace Wrapper

/-- `now.After(since.Add(timeout))` -/
def elapsed (now since timeout : Nat) : Bool := since + timeout < now

/-- The answer of the server; `runErr` is the error of the local `pxy.Run()`, if
any.  The result carries the error the method returns. -/
def setRunningStatus (pw : Wrapper) (remoteAddr respErr : String) (runErr : Option String) :
    Wrapper × List ProxyMsg × Option String :=
  if pw.phase ≠ .waitStart then
    (pw, [], some "status not wait start, ignore start message")
  else if respErr ≠ "" then
    ({ pw with remoteAddr := remoteAddr, phase := .closed, err := respErr }, [], some respErr)
  else
    match runErr with
    | some e => ({ pw with remoteAddr := remoteAddr, phase := .closed, err := e },
        [.closeProxy], some e)
    | none => ({ pw with remoteAddr := remoteAddr, phase := .running, err := "" }, [], none)

def stop (pw : Wrapper) : Wrapper × List ProxyMsg :=
  ({ pw with phase := .closed }, [.closeProxy])

/-- Whether a healthy wrapper (re)sends `NewProxy`. -/
def wantsStart (pw : Wrapper) (now : Nat) : Bool :=
  match pw.phase with
  | .new | .checkFailed => true
  | .waitStart => elapsed now pw.lastSendStartMsg waitResponseTimeout
  | .startErr => elapsed now pw.lastStartErr startErrTimeout
  | .running | .closed => false

/-- One pass of the loop of `checkWorker`, with the time and the health flag it
read before it took the mutex. -/
def checkWorker (pw : Wrapper) (now health : Nat) : Wrapper × List ProxyMsg :=
  if health = 0 then
    if pw.wantsStart now then
      ({ pw with phase := .waitStart, lastSendStartMsg := now }, [.newProxy])
    else (pw, [])
  else if pw.phase = .running ∨ pw.phase = .waitStart then
    ({ pw with phase := .checkFailed }, [.closeProxy])
  else (pw, [])

def statusNormalCallback (pw : Wrapper) : Wrapper := { pw with health := 0 }

def statusFailedCallback (pw : Wrapper) : Wrapper := { pw with health := 1 }

/-! ## What one call can do -/

theorem checkWorker_cases (pw : Wrapper) (now health : Nat) :
    pw.checkWorker now health = (pw, []) ∨
    (pw.phase ≠ .running ∧ pw.phase ≠ .closed ∧
      pw.checkWorker now health =
        ({ pw with phase := .waitStart, lastSendStartMsg := now }, [.newProxy])) ∨
    ((pw.phase = .running ∨ pw.phase = .waitStart) ∧
      pw.checkWorker now health = ({ pw with phase := .checkFailed }, [.closeProxy])) := by
  unfold checkWorker
  split
  · split
    · rename_i wants
      refine .inr (.inl ⟨?_, ?_, rfl⟩) <;> intro is <;> simp [wantsStart, is] at wants
    · exact .inl rfl
  · split
    · rename_i busy
      exact .inr (.inr ⟨busy, rfl⟩)
    · exact .inl rfl

theorem setRunningStatus_ignored {pw : Wrapper} (notWaiting : pw.phase ≠ .waitStart)
    (remoteAddr respErr : String) (runErr : Option String) :
    pw.setRunningStatus remoteAddr respErr runErr =
      (pw, [], some "status not wait start, ignore start message") := by
  simp [setRunningStatus, notWaiting]

theorem setRunningStatus_error {pw : Wrapper} (waiting : pw.phase = .waitStart)
    {respErr : String} (error : respErr ≠ "") (remoteAddr : String) (runErr : Option String) :
    pw.setRunningStatus remoteAddr respErr runErr =
      ({ pw with remoteAddr := remoteAddr, phase := .closed, err := respErr }, [],
        some respErr) := by
  simp [setRunningStatus, waiting, error]

theorem setRunningStatus_runErr {pw : Wrapper} (waiting : pw.phase = .waitStart)
    (remoteAddr e : String) :
    pw.setRunningStatus remoteAddr "" (some e) =
      ({ pw with remoteAddr := remoteAddr, phase := .closed, err := e }, [.closeProxy],
        some e) := by
  simp [setRunningStatus, waiting]

theorem setRunningStatus_ok {pw : Wrapper} (waiting : pw.phase = .waitStart)
    (remoteAddr : String) :
    pw.setRunningStatus remoteAddr "" none =
      ({ pw with remoteAddr := remoteAddr, phase := .running, err := "" }, [], none) := by
  simp [setRunningStatus, waiting]

end Wrapper

end ChmlFrp.Client
