/-
# ChmlFrp.Client.SudpProxy — one work connection of a sudp proxy, and how it ends

`InWorkConn` and `Close` of `client/proxy/sudp.go`.  The session of the work connection is
that of `ChmlFrp.Udp.Session`.  Its reader, its sender and the heartbeat goroutine each end
with `closeFn`, which closes the connection and both channels under a mutex, unless another
of them has done so.  `Close` of the proxy closes `closeCh`, which the reader looks at before
it reads and the heartbeat goroutine waits for.

* `single_close`: no close panics, under any schedule, and `closeFn` is never held up.
* `closing_ends`: after `closeFn` every run comes to an end, at the latest when the work that
  is left is done; and where no goroutine can go on, all have returned, the forwarder's
  among them, and the connection and the sockets to the local service are closed.
-/
import ChmlFrp.Udp.Session

namespace ChmlFrp.Client.SudpProxy

set_option autoImplicit false

open ChmlFrp.Lib
open ChmlFrp.Lib.Transition
open ChmlFrp.Udp
open Forwarder (Goroutine)

/-! ## The goroutines -/

/-- Who calls `closeFn`. -/
inductive Who where
  | reader
  | sender
  | heartbeat
  deriving DecidableEq, Repr

/-- What `closeFn` does under the mutex. -/
inductive Action where
  | closeWorkConn
  | closeReadCh
  | closeSendCh
  deriving DecidableEq, Repr

/-- Where one of the three is. -/
inductive Phase where
  /-- Before `closeFn`. -/
  | running
  /-- In `closeFn`. -/
  | calling
  | returned
  deriving DecidableEq, Repr

/-- Where `heartbeatFn` is. -/
inductive Heartbeat where
  /-- At the `select`. -/
  | waiting
  /-- At the send on `sendCh`. -/
  | pinging
  | returned
  deriving DecidableEq, Repr

structure State where
  session : Session.State
  /-- The reader has found `closeCh` open and reads. -/
  checked : Bool
  heartbeat : Heartbeat
  closeChClosed : Bool
  isClose : Bool
  /-- Who holds the mutex of `closeFn`, and what it has still to do. -/
  mu : Option (Who × List Action)
  phase : Who → Phase
  panicked : Bool

def start (bufSize : Nat) : State where
  session := Session.start bufSize
  checked := false
  heartbeat := .waiting
  closeChClosed := false
  isClose := false
  mu := none
  phase := fun _ => .running
  panicked := false

inductive Label where
  /-- The `select` of the reader. -/
  | check
  | readMsg (err : Bool)
  /-- Another step of the session. -/
  | session (l : Session.Label)
  /-- The heartbeat goroutine receives from its ticker. -/
  | tick
  | sendPing
  /-- The heartbeat goroutine receives from `closeCh`. -/
  | takeCloseCh
  /-- A goroutine that has left its loop calls `closeFn`. -/
  | callCloseFn (who : Who)
  | lock (who : Who)
  /-- The next action under the mutex. -/
  | act
  /-- `Close` of the proxy. -/
  | close
  deriving DecidableEq, Repr

namespace State

def setPhase (s : State) (who : Who) (phase : Phase) : State :=
  { s with phase := Function.update s.phase who phase }

/-- Whether the goroutine has left its loop. -/
def HasLeft (s : State) : Who → Prop
  | .reader => s.session.reader = .returned
  | .sender => s.session.sender = .returned
  | .heartbeat => s.heartbeat = .returned

instance (s : State) : DecidablePred s.HasLeft := fun who =>
  match who with
  | .reader => inferInstanceAs (Decidable (_ = _))
  | .sender => inferInstanceAs (Decidable (_ = _))
  | .heartbeat => inferInstanceAs (Decidable (_ = _))

/-- One action of `closeFn`. -/
def act (s : State) : Action → State
  | .closeWorkConn => { s with session := { s.session with connOpen := false } }
  | .closeReadCh =>
      match s.session.readCh.close with
      | .done c => { s with session := { s.session with readCh := c } }
      | _ => { s with panicked := true }
  | .closeSendCh =>
      match s.session.sendCh.close with
      | .done c => { s with session := { s.session with sendCh := c } }
      | _ => { s with panicked := true }

end State

/-- The steps of a session that are taken as they are. -/
def Takes : Session.Label → Bool
  | .sendReadCh | .forwarder _ | .takeSendCh | .writeMsg _ => true
  | .readMsg _ | .tick | .closeConn | .closeReadCh | .closeSendCh => false

/-- What the step does when nothing has panicked. -/
def run (s : State) : Label → Option State
  | .check =>
      if s.session.reader = .reading ∧ s.checked = false then
        if s.closeChClosed then some { s with session := { s.session with reader := .returned } }
        else some { s with checked := true }
      else none
  | .readMsg err =>
      if s.checked then
        (Session.step s.session (.readMsg err)).map fun x =>
          { s with session := x, checked := false }
      else none
  | .session l =>
      if Takes l then (Session.step s.session l).map fun x => { s with session := x } else none
  | .tick => if s.heartbeat = .waiting then some { s with heartbeat := .pinging } else none
  | .sendPing =>
      if s.heartbeat = .pinging then
        match s.session.sendCh.send .ping with
        | .done c =>
            some { s with session := { s.session with sendCh := c }, heartbeat := .waiting }
        | .blocks => none
        -- `PanicToError` recovers.
        | .panics => some { s with heartbeat := .returned }
      else none
  | .takeCloseCh =>
      if s.heartbeat = .waiting ∧ s.closeChClosed then some { s with heartbeat := .returned }
      else none
  | .callCloseFn who =>
      if s.phase who = .running ∧ s.HasLeft who then some (s.setPhase who .calling) else none
  | .lock who =>
      if s.phase who = .calling ∧ s.mu = none then
        if s.isClose then some (s.setPhase who .returned)
        else
          some { s with
            isClose := true, mu := some (who, [.closeWorkConn, .closeReadCh, .closeSendCh]) }
      else none
  | .act =>
      match s.mu with
      | some (who, action :: rest) => some { s.act action with mu := some (who, rest) }
      | some (who, []) => some { s.setPhase who .returned with mu := none }
      | none => none
  | .close => if s.closeChClosed then none else some { s with closeChClosed := true }

/-- Nothing runs after a panic. -/
def step (s : State) (l : Label) : Option State := if s.panicked then none else run s l

/-! ## No close panics -/

/-- How far `closeFn` has come: `isClose`, the mutex, whether the connection is open, and
whether the channels are closed. -/
inductive Progress : Bool → Option (Who × List Action) → Bool → Bool → Bool → Prop where
  | before : Progress false none true false false
  | entered (who : Who) :
      Progress true (some (who, [.closeWorkConn, .closeReadCh, .closeSendCh])) true false false
  | workConn (who : Who) :
      Progress true (some (who, [.closeReadCh, .closeSendCh])) false false false
  | readCh (who : Who) : Progress true (some (who, [.closeSendCh])) false true false
  | sendCh (who : Who) : Progress true (some (who, [])) false true true
  | closed : Progress true none false true true

namespace Progress

variable {isClose conn readCh sendCh : Bool} {mu : Option (Who × List Action)} {who : Who}
  {rest : List Action}

theorem enter (who : Who) (progress : Progress false mu conn readCh sendCh) :
    Progress true (some (who, [.closeWorkConn, .closeReadCh, .closeSendCh]))
      conn readCh sendCh := by
  cases progress
  exact .entered who

theorem closeWorkConn
    (progress : Progress isClose (some (who, .closeWorkConn :: rest)) conn readCh sendCh) :
    Progress isClose (some (who, rest)) false readCh sendCh := by
  cases progress
  exact .workConn who

theorem closeReadCh
    (progress : Progress isClose (some (who, .closeReadCh :: rest)) conn readCh sendCh) :
    readCh = false ∧ Progress isClose (some (who, rest)) conn true sendCh := by
  cases progress
  exact ⟨rfl, .readCh who⟩

theorem closeSendCh
    (progress : Progress isClose (some (who, .closeSendCh :: rest)) conn readCh sendCh) :
    sendCh = false ∧ Progress isClose (some (who, rest)) conn readCh true := by
  cases progress
  exact ⟨rfl, .sendCh who⟩

theorem leave (progress : Progress isClose (some (who, [])) conn readCh sendCh) :
    Progress isClose none conn readCh sendCh := by
  cases progress
  exact .closed

theorem isClose_of_closed (progress : Progress isClose mu false readCh sendCh) :
    isClose = true := by
  cases progress <;> rfl

/-- Once `closeFn` is entered the mutex is held until all is closed. -/
theorem held (progress : Progress true mu conn readCh sendCh) :
    sendCh = true ∨ ∃ who rest, mu = some (who, rest) := by
  cases progress with
  | entered who | workConn who | readCh who => exact .inr ⟨who, _, rfl⟩
  | sendCh | closed => exact .inl rfl

/-- `sendCh` is the last that is closed. -/
theorem last (progress : Progress isClose mu conn readCh true) :
    isClose = true ∧ conn = false ∧ readCh = true ∧
      ∀ who rest, mu = some (who, rest) → rest = [] := by
  cases progress with
  | sendCh who =>
      refine ⟨rfl, rfl, rfl, ?_⟩
      rintro other rest ⟨⟩
      rfl
  | closed => exact ⟨rfl, rfl, rfl, fun who rest none_ => by cases none_⟩

end Progress

structure Inv (s : State) : Prop where
  forwarder : Forwarder.Inv s.session.forwarder
  calm : s.panicked = false
  progress :
    Progress s.isClose s.mu s.session.connOpen s.session.readCh.closed s.session.sendCh.closed
  /-- `closeFn` is called at the end of a loop. -/
  left : ∀ who, s.phase who ≠ .running → s.HasLeft who
  holder : ∀ who rest, s.mu = some (who, rest) → s.phase who ≠ .running
  entered : s.isClose = true → ∃ who, s.phase who ≠ .running

theorem start_inv (bufSize : Nat) : Inv (start bufSize) where
  forwarder := Forwarder.start_inv bufSize
  calm := rfl
  progress := .before
  left who away := absurd rfl away
  holder who rest mu := by cases mu
  entered is := by cases is

/-! ### The session -/

/-- What no step of a session but a close changes. -/
structure Keeps (x y : Session.State) : Prop where
  connOpen : y.connOpen = x.connOpen
  readCh : y.readCh.closed = x.readCh.closed
  sendCh : y.sendCh.closed = x.sendCh.closed
  reader : x.reader = .returned → y.reader = .returned
  sender : x.sender = .returned → y.sender = .returned
  forwarder : Forwarder.Inv x.forwarder → Forwarder.Inv y.forwarder

section Sessions

variable {x y : Session.State}

theorem forward_keeps {l : Forwarder.Label} (next : x.forward l = some y) : Keeps x y := by
  have inv : Forwarder.Inv x.forwarder → Forwarder.Inv y.forwarder := fun inv =>
    inv.moves (Forwarder.step_moves (Session.forward_step next))
  cases l with
  | receive m dial =>
      simp only [Session.State.forward] at next
      split at next
      · rename_i m' c recv
        split at next
        · obtain ⟨rest, -, rfl⟩ := Chan.recv_eq_some_iff.1 recv
          obtain ⟨f, -, rfl⟩ := Option.map_eq_some_iff.1 next
          exact ⟨rfl, rfl, rfl, id, id, inv⟩
        · cases next
      · cases next
  | readChClosed =>
      simp only [Session.State.forward] at next
      split at next
      · obtain ⟨f, -, rfl⟩ := Option.map_eq_some_iff.1 next
        exact ⟨rfl, rfl, rfl, id, id, inv⟩
      · cases next
  | send g err =>
      obtain ⟨gr, -, next⟩ := Option.bind_eq_some_iff.1 next
      split at next
      · split at next
        · rename_i c sent
          obtain ⟨-, -, rfl⟩ := Chan.send_eq_done_iff.1 sent
          split at next
          · cases next
          · obtain ⟨f, -, rfl⟩ := Option.map_eq_some_iff.1 next
            exact ⟨rfl, rfl, rfl, id, id, inv⟩
        all_goals
          split at next
          all_goals first
            | cases next
            | obtain ⟨f, -, rfl⟩ := Option.map_eq_some_iff.1 next
              exact ⟨rfl, rfl, rfl, id, id, inv⟩
      · cases next
  | write | read | close | go | delete | closeConn =>
      obtain ⟨f, -, rfl⟩ := Option.map_eq_some_iff.1 next
      exact ⟨rfl, rfl, rfl, id, id, inv⟩

theorem readMsg_keeps {err : Bool} (next : Session.step x (.readMsg err) = some y) :
    Keeps x y := by
  simp only [Session.step] at next
  split at next
  · rename_i reading
    have not_returned : x.reader ≠ .returned := by
      rw [reading]
      exact Session.Reader.noConfusion
    split at next
    · cases next
      exact ⟨rfl, rfl, rfl, fun _ => rfl, id, id⟩
    · split at next
      · split at next
        · cases next
          exact ⟨rfl, rfl, rfl, fun returned => absurd returned not_returned, id, id⟩
        · cases next
      · cases next
  · cases next

theorem takes_keeps {l : Session.Label} (takes : Takes l = true)
    (next : Session.step x l = some y) : Keeps x y := by
  cases l with
  | readMsg | tick | closeConn | closeReadCh | closeSendCh => cases takes
  | forwarder l => exact forward_keeps next
  | sendReadCh =>
      simp only [Session.step] at next
      split at next
      · rename_i m sending
        have not_returned : x.reader ≠ .returned := by
          rw [sending]
          exact Session.Reader.noConfusion
        split at next
        · rename_i c sent
          obtain ⟨-, -, rfl⟩ := Chan.send_eq_done_iff.1 sent
          cases next
          exact ⟨rfl, rfl, rfl, fun returned => absurd returned not_returned, id, id⟩
        · cases next
        · cases next
          exact ⟨rfl, rfl, rfl, fun _ => rfl, id, id⟩
      · cases next
  | takeSendCh =>
      simp only [Session.step] at next
      split at next
      · rename_i receiving
        have not_returned : x.sender ≠ .returned := by
          rw [receiving]
          exact Session.Sender.noConfusion
        split at next
        · rename_i m c recv
          obtain ⟨rest, -, rfl⟩ := Chan.recv_eq_some_iff.1 recv
          cases next
          exact ⟨rfl, rfl, rfl, id, fun returned => absurd returned not_returned, id⟩
        · cases next
          exact ⟨rfl, rfl, rfl, id, fun _ => rfl, id⟩
        · cases next
      · cases next
  | writeMsg err =>
      simp only [Session.step] at next
      split at next
      · rename_i m writing
        have not_returned : x.sender ≠ .returned := by
          rw [writing]
          exact Session.Sender.noConfusion
        split at next
        · cases next
          exact ⟨rfl, rfl, rfl, id, fun _ => rfl, id⟩
        · split at next
          · cases next
            exact ⟨rfl, rfl, rfl, id, fun returned => absurd returned not_returned, id⟩
          · cases next
      · cases next

end Sessions

/-! ### All steps -/

section Steps

variable {s t : State}

theorem step_run {l : Label} (next : step s l = some t) : s.panicked = false ∧ run s l = some t := by
  unfold step at next
  split at next
  · cases next
  · rename_i calm
    exact ⟨Bool.not_eq_true _ ▸ calm, next⟩

/-- The goroutines go on, and none that has left its loop comes back. -/
theorem Inv.goes_on (inv : Inv s) {x : Session.State} (keeps : Keeps s.session x) {checked : Bool}
    {heartbeat : Heartbeat} (beat : s.heartbeat = .returned → heartbeat = .returned)
    {closeChClosed : Bool} :
    Inv { s with
      session := x, checked := checked, heartbeat := heartbeat, closeChClosed := closeChClosed }
    where
  forwarder := keeps.forwarder inv.forwarder
  calm := inv.calm
  progress := by
    dsimp only
    rw [keeps.connOpen, keeps.readCh, keeps.sendCh]
    exact inv.progress
  left := by
    intro who away
    have left := inv.left who away
    cases who with
    | reader => exact keeps.reader left
    | sender => exact keeps.sender left
    | heartbeat => exact beat left
  holder := inv.holder
  entered := inv.entered

theorem Keeps.refl (x : Session.State) : Keeps x x := ⟨rfl, rfl, rfl, id, id, id⟩

@[simp] theorem setPhase_self (s : State) (who : Who) (phase : Phase) :
    (s.setPhase who phase).phase who = phase := Function.update_self ..

theorem setPhase_of_ne {who other : Who} (differs : other ≠ who) (phase : Phase) :
    (s.setPhase who phase).phase other = s.phase other := Function.update_of_ne differs ..

/-- A goroutine that is away from its loop stays away. -/
theorem setPhase_away {who other : Who} {phase : Phase} (away : phase ≠ .running)
    (out : s.phase other ≠ .running) : (s.setPhase who phase).phase other ≠ .running := by
  by_cases same : other = who
  · rw [same, setPhase_self]
    exact away
  · rwa [setPhase_of_ne same]

/-- A goroutine that has left its loop goes on in `closeFn`. -/
theorem Inv.setPhase (inv : Inv s) {who : Who} {phase : Phase} (away : phase ≠ .running)
    (left : s.HasLeft who) : Inv (s.setPhase who phase) where
  forwarder := inv.forwarder
  calm := inv.calm
  progress := inv.progress
  left := by
    intro other out
    have left_other : s.HasLeft other := by
      by_cases same : other = who
      · rwa [same]
      · rw [setPhase_of_ne same] at out
        exact inv.left other out
    cases other <;> exact left_other
  holder := fun other rest mu => setPhase_away away (inv.holder other rest mu)
  entered := fun _ => ⟨who, by rwa [setPhase_self]⟩

/-- The holder of the mutex closes what is open. -/
theorem Inv.act (inv : Inv s) {who : Who} {action : Action} {rest : List Action}
    (mu : s.mu = some (who, action :: rest)) :
    Inv { s.act action with mu := some (who, rest) } := by
  obtain ⟨forwarder, calm, progress, left, holder, entered⟩ := inv
  rw [mu] at progress
  have holder' : ∀ other rest', some (who, rest) = some (other, rest') →
      s.phase other ≠ .running := by
    rintro other rest' ⟨⟩
    exact holder who _ mu
  cases action with
  | closeWorkConn =>
      refine ⟨forwarder, calm, progress.closeWorkConn, ?_, holder', entered⟩
      intro other out
      have := left other out
      cases other <;> exact this
  | closeReadCh =>
      obtain ⟨isOpen, closes⟩ := progress.closeReadCh
      simp only [State.act, Chan.close_eq_done_iff.2 ⟨isOpen, rfl⟩]
      refine ⟨forwarder, calm, closes, ?_, holder', entered⟩
      intro other out
      have := left other out
      cases other <;> exact this
  | closeSendCh =>
      obtain ⟨isOpen, closes⟩ := progress.closeSendCh
      simp only [State.act, Chan.close_eq_done_iff.2 ⟨isOpen, rfl⟩]
      refine ⟨forwarder, calm, closes, ?_, holder', entered⟩
      intro other out
      have := left other out
      cases other <;> exact this

/-- The holder of the mutex returns. -/
theorem Inv.unlock (inv : Inv s) {who : Who} (mu : s.mu = some (who, [])) :
    Inv { s.setPhase who .returned with mu := none } := by
  have away := inv.holder who [] mu
  obtain ⟨forwarder, calm, progress, left, -, entered⟩ :=
    inv.setPhase (show Phase.returned ≠ .running from Phase.noConfusion) (inv.left who away)
  have progress' := inv.progress
  rw [mu] at progress'
  refine ⟨forwarder, calm, progress'.leave, ?_, ?_, entered⟩
  · intro other out
    have left_other := left other out
    cases other <;> exact left_other
  · intro other rest none_
    cases none_

theorem Inv.run (inv : Inv s) {l : Label} (next : run s l = some t) : Inv t := by
  cases l with
  | check =>
      simp only [SudpProxy.run] at next
      split at next
      · split at next
        · cases next
          exact inv.goes_on (x := { s.session with reader := .returned })
            ⟨rfl, rfl, rfl, fun _ => rfl, id, id⟩ id
        · cases next
          exact inv.goes_on (.refl _) id
      · cases next
  | readMsg err =>
      simp only [SudpProxy.run] at next
      split at next
      · obtain ⟨x, read, rfl⟩ := Option.map_eq_some_iff.1 next
        exact inv.goes_on (readMsg_keeps read) id
      · cases next
  | session l =>
      simp only [SudpProxy.run] at next
      split at next
      · rename_i takes
        obtain ⟨x, taken, rfl⟩ := Option.map_eq_some_iff.1 next
        exact inv.goes_on (takes_keeps takes taken) id
      · cases next
  | tick =>
      simp only [SudpProxy.run] at next
      split at next
      · rename_i waiting
        cases next
        refine inv.goes_on (.refl _) ?_
        rw [waiting]
        exact Heartbeat.noConfusion
      · cases next
  | sendPing =>
      simp only [SudpProxy.run] at next
      split at next
      · rename_i pinging
        split at next
        · rename_i c sent
          obtain ⟨-, -, rfl⟩ := Chan.send_eq_done_iff.1 sent
          cases next
          refine inv.goes_on (x := { s.session with
            sendCh := { s.session.sendCh with buf := s.session.sendCh.buf ++ [.ping] } })
            ⟨rfl, rfl, rfl, id, id, id⟩ ?_
          rw [pinging]
          exact Heartbeat.noConfusion
        · cases next
        · cases next
          exact inv.goes_on (.refl _) fun _ => rfl
      · cases next
  | takeCloseCh =>
      simp only [SudpProxy.run] at next
      split at next
      · cases next
        exact inv.goes_on (.refl _) fun _ => rfl
      · cases next
  | callCloseFn who =>
      simp only [SudpProxy.run] at next
      split at next
      · rename_i leaves
        cases next
        exact inv.setPhase Phase.noConfusion leaves.2
      · cases next
  | lock who =>
      simp only [SudpProxy.run] at next
      split at next
      · rename_i free
        obtain ⟨calling, mu⟩ := free
        have away : s.phase who ≠ .running := by
          rw [calling]
          exact Phase.noConfusion
        split at next
        · cases next
          exact inv.setPhase Phase.noConfusion (inv.left who away)
        · rename_i first
          cases next
          obtain ⟨forwarder, calm, progress, left, -, entered⟩ := inv
          rw [eq_false_of_ne_true first] at progress
          refine ⟨forwarder, calm, progress.enter who, ?_, ?_, fun _ => ⟨who, away⟩⟩
          · intro other out
            have left_other := left other out
            cases other <;> exact left_other
          · rintro other rest ⟨⟩
            exact away
      · cases next
  | act =>
      simp only [SudpProxy.run] at next
      split at next
      · rename_i who action rest mu
        cases next
        exact inv.act mu
      · rename_i who mu
        cases next
        exact inv.unlock mu
      · cases next
  | close =>
      simp only [SudpProxy.run] at next
      split at next
      · cases next
      · cases next
        exact inv.goes_on (.refl _) id

theorem Inv.step (inv : Inv s) {l : Label} (next : SudpProxy.step s l = some t) : Inv t :=
  inv.run (step_run next).2

variable {bufSize : Nat}

theorem reachable_inv (reached : Reachable step (start bufSize) s) : Inv s :=
  reached.invariant (fun _ _ _ inv next => inv.step next) (start_inv bufSize)

/-- **In every reachable state nothing has panicked; the connection is open unless a goroutine
has left its loop; and who is in `closeFn` goes on there until all is closed.** -/
theorem single_close (reached : Reachable step (start bufSize) s) :
    s.panicked = false ∧ (s.session.connOpen = false → ∃ who, s.HasLeft who) ∧
      (s.isClose = true → s.session.sendCh.closed = true ∨ ∃ t, step s .act = some t) := by
  have inv := reachable_inv reached
  refine ⟨inv.calm, ?_, ?_⟩
  · intro closed
    have progress := inv.progress
    rw [closed] at progress
    obtain ⟨who, away⟩ := inv.entered progress.isClose_of_closed
    exact ⟨who, inv.left who away⟩
  · intro isClose
    have progress := inv.progress
    rw [isClose] at progress
    rcases progress.held with closed | ⟨who, rest, mu⟩
    · exact .inl closed
    · right
      simp only [SudpProxy.step, inv.calm, SudpProxy.run, mu]
      cases rest with
      | nil => exact ⟨_, rfl⟩
      | cons action rest => exact ⟨_, rfl⟩

/-- The default `udp_packet_size`. -/
def usual : State := start 1500

/-- The reader finds the connection broken and closes all. -/
def breaks : List Label :=
  [.check, .readMsg true, .callCloseFn .reader, .lock .reader, .act, .act, .act]

/-- It has closed the connection, and not yet the channels. -/
theorem single_close_read_error : ∃ s, exec step usual (breaks.take 5) = some s ∧
    s.panicked = false ∧ (∃ who, s.HasLeft who) ∧
      (s.session.sendCh.closed = true ∨ ∃ t, step s .act = some t) := by
  refine ⟨_, rfl, ?_⟩
  obtain ⟨calm, left, acts⟩ := @single_close _ 1500 ⟨breaks.take 5, rfl⟩
  exact ⟨calm, left rfl, acts rfl⟩

/-! ## All goroutines end -/

def writerWork : Forwarder.Writer → Nat
  | .reading => 4
  | .sending _ => 3
  | .returning => 2
  | .deleted => 1
  | .exited => 0

/-- The work left to the loop of the forwarder, which may start a goroutine. -/
def loopWork : Forwarder.Loop → Nat
  | .writing .. => 8
  | .closing .. => 7
  | .starting .. => 6
  | .receiving => 1
  | .returned => 0

def forwarderWork (f : Forwarder.State) : Nat :=
  loopWork f.loop + (f.goroutines.map fun gr => writerWork gr.writer).sum

def readerWork (checked : Bool) : Session.Reader → Nat
  | .reading => if checked then 1 else 2
  | .sending _ => 1
  | .returned => 0

def senderWork : Session.Sender → Nat
  | .receiving => 1
  | .writing _ => 2
  | .returned => 0

def Heartbeat.work : Heartbeat → Nat
  | .waiting => 2
  | .pinging => 1
  | .returned => 0

def Phase.work : Phase → Nat
  | .running => 2
  | .calling => 1
  | .returned => 0

/-- The work of the three in `closeFn`. -/
def phasesWork (phase : Who → Phase) : Nat :=
  (phase .reader).work + (phase .sender).work + (phase .heartbeat).work

/-- The work of a session: a packet on `readCh` may come to a write and a goroutine. -/
def sessionWork (x : Session.State) : Nat :=
  forwarderWork x.forwarder + 8 * x.readCh.buf.length + 2 * x.sendCh.buf.length +
    senderWork x.sender

/-- What is still to be done when all is closed. -/
def work (s : State) : Nat :=
  sessionWork s.session + readerWork s.checked s.session.reader + s.heartbeat.work +
    phasesWork s.phase + s.mu.toList.length + (!s.closeChClosed).toNat

/-- `closeFn` has closed the connection and the channels. -/
structure Closed (s : State) : Prop where
  calm : s.panicked = false
  isClose : s.isClose = true
  conn : s.session.connOpen = false
  readCh : s.session.readCh.closed = true
  sendCh : s.session.sendCh.closed = true
  mu : ∀ who rest, s.mu = some (who, rest) → rest = []

theorem Inv.closed (inv : Inv s) (closed : s.session.sendCh.closed = true) : Closed s := by
  have progress := inv.progress
  rw [closed] at progress
  obtain ⟨isClose, conn, readCh, mu⟩ := progress.last
  exact ⟨inv.calm, isClose, conn, readCh, closed, mu⟩

/-! ### The forwarder -/

/-- The steps that do some of the work: not the receive of a packet, nor a send after which
the goroutine reads again. -/
def Works : Forwarder.Label → Bool
  | .receive .. | .send _ false => false
  | .readChClosed | .write _ | .close | .go | .read .. | .send _ true | .delete _
  | .closeConn _ => true

section Forwarding

variable {f f' : Forwarder.State} {g : Nat} {gr : Goroutine}

theorem forwarderWork_setWriter (runs : f.Runs g gr) {writer : Forwarder.Writer}
    {m : GoMap GoString Nat} {conns : List Bool} (less : writerWork writer < writerWork gr.writer) :
    forwarderWork { f.setWriter g gr writer with udpConnMap := m, conns := conns } <
      forwarderWork f := by
  have sum := Slots.sum_map_set (fun gr : Goroutine => writerWork gr.writer)
    { gr with writer := writer } runs
  simp only [forwarderWork, Forwarder.State.setWriter]
  dsimp only at sum
  omega

theorem loopWork_written (raddr : GoString) (c : Nat) (ok : Bool) :
    loopWork (f.written raddr c ok).loop < 7 := by
  cases ok with
  | true => exact (by decide : 1 < 7)
  | false => exact (by decide : 6 < 7)

/-- A packet that the loop receives may be written. -/
theorem receive_works {m : UDPPacket} {dial : Bool}
    (next : Forwarder.step f (.receive m dial) = some f') :
    forwarderWork f' < forwarderWork f + 8 := by
  obtain ⟨receiving, goroutines, after⟩ := Session.receive_spec next
  simp only [forwarderWork, goroutines, receiving]
  rcases after with again | ⟨c, ok, buf, -, writing, -⟩
  · rw [again]
    omega
  · rw [writing]
    simp only [loopWork]
    omega

theorem forwarder_works {l : Forwarder.Label} (works : Works l = true)
    (next : Forwarder.step f l = some f') : forwarderWork f' < forwarderWork f := by
  cases l with
  | receive m dial => cases works
  | readChClosed =>
      simp only [Forwarder.step] at next
      split at next
      · rename_i receiving
        cases next
        simp only [forwarderWork, receiving, loopWork]
        omega
      · cases next
  | write err =>
      simp only [Forwarder.step] at next
      split at next
      · rename_i raddr c ok buf writing
        split at next
        · cases next
          simp only [forwarderWork, writing, loopWork]
          omega
        · split at next
          · cases next
            have less := loopWork_written (f := f) raddr c ok
            simp only [forwarderWork, writing]
            exact Nat.add_lt_add_right (less.trans (by decide : 7 < 8)) _
          · cases next
      · cases next
  | close =>
      simp only [Forwarder.step] at next
      split at next
      · rename_i raddr c ok closing
        cases next
        have less := loopWork_written (f := { f with conns := f.conns.set c false }) raddr c ok
        simp only [forwarderWork, closing]
        exact Nat.add_lt_add_right less _
      · cases next
  | go =>
      simp only [Forwarder.step] at next
      split at next
      · rename_i raddr c starting
        cases next
        simp only [forwarderWork, starting, loopWork, List.map_append, List.map_cons,
          List.map_nil, List.sum_append, List.sum_cons, List.sum_nil, writerWork]
        omega
      · cases next
  | read g datagram =>
      obtain ⟨gr, runs, reading, ⟨buf, -, rfl⟩ | ⟨-, rfl⟩⟩ := Session.read_spec next
      · exact forwarderWork_setWriter runs (by rw [reading]; exact Nat.lt_succ_self 3)
      · exact forwarderWork_setWriter runs (by rw [reading]; decide)
  | send g err =>
      obtain ⟨gr, m, runs, sending, rfl⟩ := Session.send_spec next
      cases err with
      | false => cases works
      | true => exact forwarderWork_setWriter runs (by rw [sending]; exact Nat.lt_succ_self 2)
  | delete g =>
      obtain ⟨gr, runs, next⟩ := Option.bind_eq_some_iff.1 next
      split at next
      · rename_i returning
        cases next
        exact forwarderWork_setWriter runs (by rw [returning]; decide)
      · cases next
  | closeConn g =>
      obtain ⟨gr, runs, next⟩ := Option.bind_eq_some_iff.1 next
      split at next
      · rename_i deleted
        cases next
        exact forwarderWork_setWriter runs (by rw [deleted]; decide)
      · cases next

end Forwarding

/-! ### The session -/

section Sessions

variable {x y : Session.State}

theorem forward_works {l : Forwarder.Label} (closed : x.sendCh.closed = true)
    (next : x.forward l = some y) :
    sessionWork y < sessionWork x ∧ y.reader = x.reader := by
  have other : ∀ {f : Forwarder.State}, Works l = true →
      Forwarder.step x.forwarder l = some f →
      sessionWork { x with forwarder := f } < sessionWork x := by
    intro f works first
    have less := forwarder_works works first
    simp only [sessionWork]
    omega
  cases l with
  | receive m dial =>
      simp only [Session.State.forward] at next
      split at next
      · rename_i m' c recv
        split at next
        · obtain ⟨rest, buf, rfl⟩ := Chan.recv_eq_some_iff.1 recv
          obtain ⟨f, first, rfl⟩ := Option.map_eq_some_iff.1 next
          have less := receive_works first
          refine ⟨?_, rfl⟩
          simp only [sessionWork, buf, List.length_cons]
          omega
        · cases next
      · cases next
  | readChClosed =>
      simp only [Session.State.forward] at next
      split at next
      · obtain ⟨f, first, rfl⟩ := Option.map_eq_some_iff.1 next
        exact ⟨other rfl first, rfl⟩
      · cases next
  | send g err =>
      obtain ⟨gr, -, next⟩ := Option.bind_eq_some_iff.1 next
      split at next
      · rw [Chan.send_eq_panics_iff.2 closed] at next
        cases err with
        | true =>
            obtain ⟨f, first, rfl⟩ := Option.map_eq_some_iff.1 next
            exact ⟨other rfl first, rfl⟩
        | false => cases next
      · cases next
  | write err =>
      obtain ⟨f, first, rfl⟩ := Option.map_eq_some_iff.1 next
      exact ⟨other rfl first, rfl⟩
  | read g datagram =>
      obtain ⟨f, first, rfl⟩ := Option.map_eq_some_iff.1 next
      exact ⟨other rfl first, rfl⟩
  | close | go | delete | closeConn =>
      obtain ⟨f, first, rfl⟩ := Option.map_eq_some_iff.1 next
      exact ⟨other rfl first, rfl⟩

theorem takes_works {l : Session.Label} {checked : Bool} (takes : Takes l = true)
    (conn : x.connOpen = false) (readCh : x.readCh.closed = true)
    (sendCh : x.sendCh.closed = true) (next : Session.step x l = some y) :
    sessionWork y + readerWork checked y.reader < sessionWork x + readerWork checked x.reader := by
  cases l with
  | readMsg | tick | closeConn | closeReadCh | closeSendCh => cases takes
  | forwarder l =>
      obtain ⟨less, same⟩ := forward_works sendCh next
      rw [same]
      omega
  | sendReadCh =>
      simp only [Session.step] at next
      split at next
      · rename_i m sending
        rw [Chan.send_eq_panics_iff.2 readCh] at next
        cases next
        rw [sending]
        exact Nat.lt_succ_self _
      · cases next
  | takeSendCh =>
      simp only [Session.step] at next
      split at next
      · rename_i receiving
        split at next
        · rename_i m c recv
          obtain ⟨rest, buf, rfl⟩ := Chan.recv_eq_some_iff.1 recv
          cases next
          simp only [sessionWork, buf, receiving, senderWork, List.length_cons]
          omega
        · cases next
          simp only [sessionWork, receiving, senderWork]
          omega
        · cases next
      · cases next
  | writeMsg err =>
      simp only [Session.step] at next
      split at next
      · rename_i m writing
        split at next
        · cases next
          simp only [sessionWork, writing, senderWork]
          omega
        · rw [conn] at next
          cases next
      · cases next

end Sessions

/-! ### All steps -/

theorem phasesWork_setPhase (s : State) (who : Who) (phase : Phase) :
    phasesWork (s.setPhase who phase).phase + (s.phase who).work =
      phasesWork s.phase + phase.work := by
  cases who <;> simp [phasesWork, State.setPhase, Function.update] <;> omega

theorem work_setPhase (s : State) (who : Who) (phase : Phase) :
    work (s.setPhase who phase) + (s.phase who).work = work s + phase.work := by
  have phases := phasesWork_setPhase s who phase
  simp only [State.setPhase] at phases
  simp only [work, State.setPhase]
  omega

theorem Closed.works (closed : Closed s) {l : Label} (next : SudpProxy.step s l = some t) :
    work t < work s := by
  obtain ⟨calm, isClose, conn, readCh, sendCh, mu⟩ := closed
  obtain ⟨-, next⟩ := step_run next
  cases l with
  | check =>
      simp only [SudpProxy.run] at next
      split at next
      · rename_i reads
        obtain ⟨reading, unchecked⟩ := reads
        split at next
        all_goals
          cases next
          simp only [work, sessionWork, reading, unchecked, readerWork]
          simp
      · cases next
  | readMsg err =>
      simp only [SudpProxy.run] at next
      split at next
      · rename_i checked
        obtain ⟨x, read, rfl⟩ := Option.map_eq_some_iff.1 next
        simp only [Session.step] at read
        split at read
        · rename_i reading
          split at read
          · cases read
            simp only [work, sessionWork, reading, checked, readerWork]
            simp
          · rw [conn] at read
            split at read <;> cases read
        · cases read
      · cases next
  | session l =>
      simp only [SudpProxy.run] at next
      split at next
      · rename_i takes
        obtain ⟨x, taken, rfl⟩ := Option.map_eq_some_iff.1 next
        have less := @takes_works _ _ _ s.checked takes conn readCh sendCh taken
        simp only [work]
        omega
      · cases next
  | tick =>
      simp only [SudpProxy.run] at next
      split at next
      · rename_i waiting
        cases next
        simp [work, waiting, Heartbeat.work]
      · cases next
  | sendPing =>
      simp only [SudpProxy.run] at next
      split at next
      · rename_i pinging
        rw [Chan.send_eq_panics_iff.2 sendCh] at next
        cases next
        simp [work, pinging, Heartbeat.work]
      · cases next
  | takeCloseCh =>
      simp only [SudpProxy.run] at next
      split at next
      · rename_i waits
        cases next
        simp [work, waits.1, Heartbeat.work]
      · cases next
  | callCloseFn who =>
      simp only [SudpProxy.run] at next
      split at next
      · rename_i leaves
        cases next
        have same := work_setPhase s who .calling
        rw [leaves.1] at same
        simp only [Phase.work] at same
        omega
      · cases next
  | lock who =>
      simp only [SudpProxy.run] at next
      split at next
      · rename_i free
        cases next
        have same := work_setPhase s who .returned
        rw [free.1] at same
        simp only [Phase.work] at same
        omega
      · cases next
  | act =>
      simp only [SudpProxy.run] at next
      split at next
      · rename_i who action rest held
        cases mu who _ held
      · rename_i who held
        cases next
        have same := work_setPhase s who .returned
        simp only [work, State.setPhase, held, Phase.work, Option.toList, List.length_cons,
          List.length_nil] at same ⊢
        omega
      · cases next
  | close =>
      simp only [SudpProxy.run] at next
      split at next
      · cases next
      · rename_i isOpen
        cases next
        simp [work, isOpen]

/-- A channel is not opened again. -/
theorem sendCh_stays {l : Label} (next : SudpProxy.step s l = some t)
    (closed : s.session.sendCh.closed = true) : t.session.sendCh.closed = true := by
  obtain ⟨-, next⟩ := step_run next
  cases l with
  | check | tick | takeCloseCh | callCloseFn | close =>
      simp only [SudpProxy.run] at next
      repeat' split at next
      all_goals
        cases next
        try exact closed
  | lock who =>
      simp only [SudpProxy.run] at next
      repeat' split at next
      all_goals
        cases next
        try exact closed
  | readMsg err =>
      simp only [SudpProxy.run] at next
      split at next
      · obtain ⟨x, read, rfl⟩ := Option.map_eq_some_iff.1 next
        exact (readMsg_keeps read).sendCh.trans closed
      · cases next
  | session l =>
      simp only [SudpProxy.run] at next
      split at next
      · rename_i takes
        obtain ⟨x, taken, rfl⟩ := Option.map_eq_some_iff.1 next
        exact (takes_keeps takes taken).sendCh.trans closed
      · cases next
  | sendPing =>
      simp only [SudpProxy.run, Chan.send_eq_panics_iff.2 closed] at next
      split at next
      · cases next
        exact closed
      · cases next
  | act =>
      simp only [SudpProxy.run] at next
      split at next
      · rename_i who action rest mu
        cases next
        cases action with
        | closeWorkConn => exact closed
        | closeReadCh =>
            simp only [State.act]
            split <;> exact closed
        | closeSendCh =>
            simp only [State.act]
            split
            · rename_i c done
              exact absurd (Chan.close_eq_done_iff.1 done).1 (by simp [closed])
            · exact closed
      · cases next
        exact closed
      · cases next

/-! ### The end -/

/-- Every goroutine has returned and every socket is closed. -/
structure Ended (s : State) : Prop where
  phases : ∀ who, s.phase who = .returned
  loop : s.session.forwarder.loop = .returned
  goroutines : ∀ g gr, s.session.forwarder.Runs g gr → gr.writer = .exited
  conn : s.session.connOpen = false
  sockets : ∀ c, ¬ s.session.forwarder.IsOpen c

/-- No goroutine can go on. -/
def Stuck (s : State) : Prop := ∀ l, l ≠ .close → step s l = none

theorem Closed.stuck_run (closed : Closed s) (stuck : Stuck s) {l : Label} (goroutine : l ≠ .close) :
    SudpProxy.run s l = none := by
  have none_ := stuck l goroutine
  simpa only [SudpProxy.step, closed.calm, Bool.false_eq_true, if_false] using none_

theorem Closed.stuck_forward (closed : Closed s) (stuck : Stuck s) (l : Forwarder.Label) :
    s.session.forward l = none := by
  have none_ := closed.stuck_run stuck (l := .session (.forwarder l)) Label.noConfusion
  simpa [SudpProxy.run, Takes, Session.step] using none_

theorem Closed.loop_returned (closed : Closed s) (stuck : Stuck s) :
    s.session.forwarder.loop = .returned := by
  have no_step := closed.stuck_forward stuck
  cases loop : s.session.forwarder.loop with
  | returned => rfl
  | receiving =>
      cases buf : s.session.readCh.buf with
      | nil =>
          have recv := Chan.recv_eq_none_iff.2 ⟨buf, closed.readCh, rfl⟩
          have none_ := no_step .readChClosed
          simp [Session.State.forward, recv, Forwarder.step, loop] at none_
      | cons m rest =>
          have recv := Chan.recv_eq_some_iff.2 ⟨rest, buf, rfl⟩
          have none_ := no_step (.receive m false)
          simp only [Session.State.forward, recv, Forwarder.step, loop, Option.map_eq_none_iff,
            if_true] at none_
          repeat' split at none_
          all_goals contradiction
  | writing raddr c ok buf =>
      have none_ := no_step (.write true)
      simp [Session.State.forward, Forwarder.step, loop] at none_
  | closing raddr c ok =>
      have none_ := no_step .close
      simp [Session.State.forward, Forwarder.step, loop] at none_
  | starting raddr c =>
      have none_ := no_step .go
      simp [Session.State.forward, Forwarder.step, loop] at none_

theorem Closed.exited (closed : Closed s) (stuck : Stuck s) {g : Nat} {gr : Goroutine}
    (runs : s.session.forwarder.Runs g gr) : gr.writer = .exited := by
  have no_step := closed.stuck_forward stuck
  have at_g : s.session.forwarder.goroutines[g]? = some gr := runs
  cases writer : gr.writer with
  | exited => rfl
  | reading =>
      have none_ := no_step (.read g none)
      simp [Session.State.forward, Forwarder.step, at_g, writer] at none_
  | sending m =>
      have none_ := no_step (.send g true)
      simp [Session.State.forward, Forwarder.step, at_g, writer,
        Chan.send_eq_panics_iff.2 closed.sendCh] at none_
  | returning =>
      have none_ := no_step (.delete g)
      simp [Session.State.forward, Forwarder.step, at_g, writer] at none_
  | deleted =>
      have none_ := no_step (.closeConn g)
      simp [Session.State.forward, Forwarder.step, at_g, writer] at none_

theorem Closed.unlocked (closed : Closed s) (stuck : Stuck s) : s.mu = none := by
  have none_ := closed.stuck_run stuck (l := .act) Label.noConfusion
  cases mu : s.mu with
  | none => rfl
  | some held =>
      obtain ⟨who, rest⟩ := held
      rw [closed.mu who rest mu] at mu
      simp [SudpProxy.run, mu] at none_

theorem Closed.left (closed : Closed s) (stuck : Stuck s) (who : Who) : s.HasLeft who := by
  cases who with
  | reader =>
      cases reader : s.session.reader with
      | returned => exact reader
      | reading =>
          cases checked : s.checked with
          | true =>
              have none_ := closed.stuck_run stuck (l := .readMsg true) Label.noConfusion
              simp [SudpProxy.run, checked, Session.step, reader] at none_
          | false =>
              have none_ := closed.stuck_run stuck (l := .check) Label.noConfusion
              simp only [SudpProxy.run, checked, reader, and_self, if_true] at none_
              split at none_ <;> cases none_
      | sending m =>
          have none_ := closed.stuck_run stuck (l := .session .sendReadCh) Label.noConfusion
          simp [SudpProxy.run, Takes, Session.step, reader,
            Chan.send_eq_panics_iff.2 closed.readCh] at none_
  | sender =>
      cases sender : s.session.sender with
      | returned => exact sender
      | receiving =>
          have none_ := closed.stuck_run stuck (l := .session .takeSendCh) Label.noConfusion
          cases buf : s.session.sendCh.buf with
          | nil =>
              have recv := Chan.recv_eq_none_iff.2 ⟨buf, closed.sendCh, rfl⟩
              simp [SudpProxy.run, Takes, Session.step, sender, recv] at none_
          | cons m rest =>
              have recv := Chan.recv_eq_some_iff.2 ⟨rest, buf, rfl⟩
              simp [SudpProxy.run, Takes, Session.step, sender, recv] at none_
      | writing m =>
          have none_ := closed.stuck_run stuck (l := .session (.writeMsg true)) Label.noConfusion
          simp [SudpProxy.run, Takes, Session.step, sender] at none_
  | heartbeat =>
      cases heartbeat : s.heartbeat with
      | returned => exact heartbeat
      | waiting =>
          have none_ := closed.stuck_run stuck (l := .tick) Label.noConfusion
          simp [SudpProxy.run, heartbeat] at none_
      | pinging =>
          have none_ := closed.stuck_run stuck (l := .sendPing) Label.noConfusion
          simp [SudpProxy.run, heartbeat, Chan.send_eq_panics_iff.2 closed.sendCh] at none_

theorem Inv.ended (inv : Inv s) (closed : Closed s) (stuck : Stuck s) : Ended s where
  phases := by
    intro who
    cases phase : s.phase who with
    | returned => rfl
    | running =>
        have left := closed.left stuck who
        have none_ := closed.stuck_run stuck (l := .callCloseFn who) Label.noConfusion
        simp [SudpProxy.run, phase, left] at none_
    | calling =>
        have none_ := closed.stuck_run stuck (l := .lock who) Label.noConfusion
        simp [SudpProxy.run, phase, closed.unlocked stuck, closed.isClose] at none_
  loop := closed.loop_returned stuck
  goroutines := fun g gr runs => closed.exited stuck runs
  conn := closed.conn
  sockets := by
    intro c isOpen
    have owned := inv.forwarder.idle (.inr (closed.loop_returned stuck))
    obtain ⟨g, ⟨gr, runs, -, not_exited⟩, -⟩ := owned.one c isOpen
    exact not_exited (closed.exited stuck runs)

/-- **Once `closeFn` has closed the channels every run is bounded by the work that is left, and
where it cannot go on every goroutine has returned and every socket is closed.** -/
theorem closing_ends (reached : Reachable step (start bufSize) s)
    (closed : s.session.sendCh.closed = true) {ls : List Label} (run : exec step s ls = some t) :
    ls.length ≤ work s ∧ (Stuck t → Ended t) := by
  have works : ∀ u l v, Inv u ∧ u.session.sendCh.closed = true →
      SudpProxy.step u l = some v →
      (Inv v ∧ v.session.sendCh.closed = true) ∧ work v < work u := by
    rintro u l v ⟨inv, closed⟩ next
    exact ⟨⟨inv.step next, sendCh_stays next closed⟩, (inv.closed closed).works next⟩
  obtain ⟨⟨inv, closed'⟩, bound⟩ :=
    length_le_work work works ⟨reachable_inv reached, closed⟩ run
  exact ⟨by omega, inv.ended (inv.closed closed')⟩

/-- What the goroutines do after it. -/
def ends : List Label :=
  [.act, .session .takeSendCh, .callCloseFn .sender, .lock .sender, .tick, .sendPing,
    .callCloseFn .heartbeat, .lock .heartbeat, .session (.forwarder .readChClosed)]

theorem closing_ends_read_error :
    ∃ s t, exec step usual breaks = some s ∧ exec step s ends = some t ∧ 9 ≤ work s ∧ Ended t := by
  refine ⟨_, _, rfl, rfl, ?_⟩
  obtain ⟨bound, ended⟩ := @closing_ends _ _ 1500 ⟨breaks, rfl⟩ rfl ends rfl
  refine ⟨bound, ended ?_⟩
  intro l goroutine
  cases l with
  | close => exact absurd rfl goroutine
  | callCloseFn who | lock who => cases who <;> rfl
  | session l =>
      cases l with
      | forwarder l => cases l <;> rfl
      | _ => rfl
  | _ => rfl

end Steps

end ChmlFrp.Client.SudpProxy
