/-
# ChmlFrp.Server.Teardown — whether the goroutines of a control come to an end

`server/control.go`.  `Start` launches writer, manager, reader and stoper over two
buffered channels.  `stoper` closes the connection, waits for the reader, closes
`readCh`, waits for the manager, closes `sendCh` and waits for the writer; only then
does it close the proxies.  Reader and manager may be blocked on a channel whose
receiver has returned, and then `stoper` waits for ever.

The four latches are one-way: a goroutine's own latch is its last program point, and
`allStart` is `allShutdown.Start`.  How far `stoper` is says which channels it has
closed.

* `stoper_can_finish_iff`: from which states `stoper` can still finish.
* `invalid_ping_wedges`: the manager returns on a ping that fails the check while the
  client goes on sending.
-/
import ChmlFrp.Lib.Transition

namespace ChmlFrp.Server.Teardown

set_option autoImplicit false

open ChmlFrp.Lib.Transition

/-! ## The goroutines -/

/-- The capacity of `readCh` and `sendCh`. -/
def chanCap : Nat := 10

structure Config where
  tcpMux : Bool
  heartbeatTimeout : Int
  poolCount : Nat
  deriving DecidableEq, Repr

/-- Whether the manager has a heartbeat ticker. -/
def Config.heartbeat (cfg : Config) : Bool := !cfg.tcpMux && decide (0 < cfg.heartbeatTimeout)

inductive ClientMsg where
  | newProxy
  | closeProxy
  /-- Whether the plugins and `VerifyPing` accept it. -/
  | ping (valid : Bool)
  /-- The three messages that get a goroutine of their own. -/
  | natHole
  | other
  deriving DecidableEq, Repr

inductive Reader where
  | reading
  /-- At `ctl.readCh <- m`. -/
  | sending (m : ClientMsg)
  | done
  deriving DecidableEq, Repr

inductive Writer where
  | init
  | receiving
  | writing
  | done
  deriving DecidableEq, Repr

inductive Manager where
  | select
  /-- At `ctl.sendCh <- resp`; `returns` after an invalid ping. -/
  | sending (returns : Bool)
  | done
  deriving DecidableEq, Repr

inductive Stoper where
  | waitStart
  | waitReader
  | waitManager
  | waitWriter
  | done
  deriving DecidableEq, Repr

def Stoper.closedReadCh : Stoper → Bool
  | .waitStart | .waitReader => false
  | .waitManager | .waitWriter | .done => true

def Stoper.closedSendCh : Stoper → Bool
  | .waitStart | .waitReader | .waitManager => false
  | .waitWriter | .done => true

/-- A call of `GetWorkConn`. -/
inductive Caller where
  | poll
  | request
  | wait
  | replace
  | done
  deriving DecidableEq, Repr

structure State where
  reader : Reader
  writer : Writer
  manager : Manager
  stoper : Stoper
  callers : List Caller
  /-- What the goroutine in `Start` has still to ask for. -/
  poolRequests : Nat
  readCh : List ClientMsg
  sendCh : Nat
  workConnCh : Nat
  connOpen : Bool
  allStart : Bool
  deriving DecidableEq, Repr

def start (cfg : Config) : State where
  reader := .reading
  writer := .init
  manager := .select
  stoper := .waitStart
  callers := []
  poolRequests := cfg.poolCount
  readCh := []
  sendCh := 0
  workConnCh := 0
  connOpen := true
  allStart := false

inductive Label where
  | read (m : ClientMsg)
  | readError (eof : Bool)
  | readerSend
  | newWriter (ok : Bool)
  | writerRecv
  | write (ok : Bool)
  | heartbeatTimeout
  | managerRecv
  | managerSend
  | stop
  /-- `Close`, `Replaced` or `CloseUser`. -/
  | shutdown
  /-- The goroutine in `Start`. -/
  | poolRequest
  /-- A send of the message transporter. -/
  | transport
  | getWorkConn
  | caller (i : Nat) (timeout : Bool)
  | registerWorkConn
  deriving DecidableEq, Repr

/-- A send under `PanicToError`: it ends at once on a closed channel and blocks on a
full one. -/
def State.sendGuarded (s : State) : Option State :=
  if s.stoper.closedSendCh then some s
  else if s.sendCh < chanCap then some { s with sendCh := s.sendCh + 1 }
  else none

/-- One move of a `GetWorkConn` call. -/
def State.callerStep (s : State) (timeout : Bool) : Caller → Option (State × Caller)
  | .poll =>
      if 0 < s.workConnCh then some ({ s with workConnCh := s.workConnCh - 1 }, .replace)
      else if s.stoper = .done then some (s, .done)
      else some (s, .request)
  | .request =>
      s.sendGuarded.map fun t => (t, if s.stoper.closedSendCh then .done else .wait)
  | .wait =>
      if timeout then some (s, .done)
      else if 0 < s.workConnCh then some ({ s with workConnCh := s.workConnCh - 1 }, .replace)
      else if s.stoper = .done then some (s, .done)
      else none
  | .replace => s.sendGuarded.map fun t => (t, .done)
  | .done => none

def step (cfg : Config) (s : State) : Label → Option State
  | .read m =>
      if s.reader = .reading ∧ s.connOpen = true then some { s with reader := .sending m }
      else none
  | .readError eof =>
      if s.reader = .reading then
        some { s with reader := .done, connOpen := s.connOpen && eof, allStart := true }
      else none
  | .readerSend =>
      match s.reader with
      | .sending m =>
          if s.readCh.length < chanCap then
            some { s with reader := .reading, readCh := s.readCh ++ [m] }
          else none
      | _ => none
  | .newWriter ok =>
      if s.writer = .init then
        if ok then some { s with writer := .receiving }
        else some { s with writer := .done, allStart := true }
      else none
  | .writerRecv =>
      if s.writer = .receiving then
        if 0 < s.sendCh then some { s with writer := .writing, sendCh := s.sendCh - 1 }
        else if s.stoper.closedSendCh then some { s with writer := .done, allStart := true }
        else none
      else none
  | .write ok =>
      if s.writer = .writing then
        if ok then
          if s.connOpen then some { s with writer := .receiving } else none
        else some { s with writer := .done, allStart := true }
      else none
  | .heartbeatTimeout =>
      if s.manager = .select ∧ cfg.heartbeat = true then
        some { s with manager := .done, allStart := true }
      else none
  | .managerRecv =>
      if s.manager = .select then
        match s.readCh with
        | .newProxy :: rest => some { s with readCh := rest, manager := .sending false }
        | .ping valid :: rest => some { s with readCh := rest, manager := .sending !valid }
        | _ :: rest => some { s with readCh := rest }
        | [] =>
            if s.stoper.closedReadCh then some { s with manager := .done, allStart := true }
            else none
      else none
  | .managerSend =>
      match s.manager with
      | .sending returns =>
          if s.sendCh < chanCap then
            if returns then
              some { s with sendCh := s.sendCh + 1, manager := .done, allStart := true }
            else some { s with sendCh := s.sendCh + 1, manager := .select }
          else none
      | _ => none
  | .stop =>
      match s.stoper with
      | .waitStart =>
          if s.allStart then some { s with stoper := .waitReader, connOpen := false } else none
      | .waitReader => if s.reader = .done then some { s with stoper := .waitManager } else none
      | .waitManager => if s.manager = .done then some { s with stoper := .waitWriter } else none
      | .waitWriter =>
          if s.writer = .done then some { s with stoper := .done, workConnCh := 0 } else none
      | .done => none
  | .shutdown => some { s with allStart := true }
  | .poolRequest =>
      if 0 < s.poolRequests then
        s.sendGuarded.map fun t => { t with poolRequests := s.poolRequests - 1 }
      else none
  | .transport => s.sendGuarded
  | .getWorkConn => some { s with callers := s.callers ++ [.poll] }
  | .caller i timeout =>
      match s.callers[i]? with
      | some c =>
          (s.callerStep timeout c).map fun (t, c') => { t with callers := s.callers.set i c' }
      | none => none
  | .registerWorkConn =>
      if s.stoper = .done ∨ cfg.poolCount + chanCap ≤ s.workConnCh then some s
      else some { s with workConnCh := s.workConnCh + 1 }

/-! ## When the stoper can finish -/

/-- The sends the manager makes for these messages before it returns. -/
def sends : List ClientMsg → Nat
  | [] => 0
  | .newProxy :: ms | .ping true :: ms => sends ms + 1
  | .ping false :: _ => 1
  | .closeProxy :: ms | .natHole :: ms | .other :: ms => sends ms

def Reader.held : Reader → List ClientMsg
  | .sending m => [m]
  | .reading | .done => []

namespace State

/-- The reader is blocked on `readCh`. -/
def Blocked (s : State) : Prop := s.reader.held ≠ [] ∧ chanCap ≤ s.readCh.length

instance (s : State) : Decidable s.Blocked := inferInstanceAs (Decidable (_ ∧ _))

/-- The manager receives no further message. -/
def Deaf (s : State) : Prop := s.manager = .done ∨ s.manager = .sending true

instance (s : State) : Decidable s.Deaf := inferInstanceAs (Decidable (_ ∨ _))

/-- The writer takes whatever is sent. -/
def Drains (s : State) : Prop := s.connOpen = true ∧ s.writer ≠ .done

instance (s : State) : Decidable s.Drains := inferInstanceAs (Decidable (_ ∧ ¬ _ = _))

/-- The fewest sends with which a manager in its `select` can let the reader go and
return: with a ticker it need not wait for `readCh` to be closed. -/
def ahead (cfg : Config) (s : State) : Nat :=
  if cfg.heartbeat then if s.Blocked then sends (s.readCh.take 1) else 0
  else sends (s.readCh ++ s.reader.held)

def need (cfg : Config) (s : State) : Nat :=
  match s.manager with
  | .select => s.ahead cfg
  | .sending false => s.ahead cfg + 1
  | .sending true => 1
  | .done => 0

/-- The sends that go through when the writer can write no more. -/
def room (s : State) : Nat :=
  chanCap - s.sendCh +
    match s.writer with
    | .init | .receiving => 1
    | .writing | .done => 0

def Finishable (cfg : Config) (s : State) : Prop :=
  ¬ (s.Blocked ∧ s.Deaf) ∧ (s.Drains ∨ s.need cfg ≤ s.room)

instance (cfg : Config) (s : State) : Decidable (s.Finishable cfg) :=
  inferInstanceAs (Decidable (_ ∧ _))

end State

/-! ## Steps that the four goroutines do not take -/

/-- The step touches none of the four goroutines; it may fill `sendCh`. -/
structure Aside (s t : State) : Prop where
  reader : t.reader = s.reader
  writer : t.writer = s.writer
  manager : t.manager = s.manager
  stoper : t.stoper = s.stoper
  readCh : t.readCh = s.readCh
  connOpen : t.connOpen = s.connOpen
  allStart : s.allStart = true → t.allStart = true
  grows : s.sendCh ≤ t.sendCh
  bounded : s.sendCh ≤ chanCap → t.sendCh ≤ chanCap

def Label.aside : Label → Bool
  | .shutdown | .poolRequest | .transport | .getWorkConn | .caller _ _ | .registerWorkConn => true
  | _ => false

section Steps

variable {cfg : Config} {s t : State} {l : Label}

theorem sendGuarded_aside (sent : s.sendGuarded = some t) : Aside s t := by
  simp only [State.sendGuarded] at sent
  split at sent
  · cases sent
    exact ⟨rfl, rfl, rfl, rfl, rfl, rfl, id, Nat.le_refl _, id⟩
  · split at sent
    · cases sent
      exact ⟨rfl, rfl, rfl, rfl, rfl, rfl, id, Nat.le_succ _, fun _ => by simpa⟩
    · cases sent

theorem callerStep_aside {c c' : Caller} {timeout : Bool}
    (moved : s.callerStep timeout c = some (t, c')) : Aside s t := by
  have same : Aside s s := ⟨rfl, rfl, rfl, rfl, rfl, rfl, id, Nat.le_refl _, id⟩
  have taken : Aside s { s with workConnCh := s.workConnCh - 1 } :=
    ⟨rfl, rfl, rfl, rfl, rfl, rfl, id, Nat.le_refl _, id⟩
  cases c with
  | poll =>
      simp only [State.callerStep] at moved
      split at moved
      · cases moved
        exact taken
      · split at moved
        · cases moved
          exact same
        · cases moved
          exact same
  | request =>
      simp only [State.callerStep, Option.map_eq_some_iff, Prod.mk.injEq] at moved
      obtain ⟨u, sent, rfl, -⟩ := moved
      exact sendGuarded_aside sent
  | wait =>
      simp only [State.callerStep] at moved
      split at moved
      · cases moved
        exact same
      · split at moved
        · cases moved
          exact taken
        · split at moved
          · cases moved
            exact same
          · cases moved
  | replace =>
      simp only [State.callerStep, Option.map_eq_some_iff, Prod.mk.injEq] at moved
      obtain ⟨u, sent, rfl, -⟩ := moved
      exact sendGuarded_aside sent
  | done => cases moved

theorem step_aside (off : l.aside = true) (next : step cfg s l = some t) : Aside s t := by
  cases l with
  | shutdown =>
      cases next
      exact ⟨rfl, rfl, rfl, rfl, rfl, rfl, fun _ => rfl, Nat.le_refl _, id⟩
  | poolRequest =>
      simp only [step, Option.ite_none_right_eq_some, Option.map_eq_some_iff] at next
      obtain ⟨-, u, sent, rfl⟩ := next
      exact { sendGuarded_aside sent with }
  | transport => exact sendGuarded_aside next
  | getWorkConn =>
      cases next
      exact ⟨rfl, rfl, rfl, rfl, rfl, rfl, id, Nat.le_refl _, id⟩
  | caller i timeout =>
      simp only [step] at next
      split at next
      · simp only [Option.map_eq_some_iff, Prod.exists] at next
        obtain ⟨u, c', moved, rfl⟩ := next
        exact { callerStep_aside moved with }
      · cases next
  | registerWorkConn =>
      simp only [step] at next
      split at next
      · cases next
        exact ⟨rfl, rfl, rfl, rfl, rfl, rfl, id, Nat.le_refl _, id⟩
      · cases next
        exact ⟨rfl, rfl, rfl, rfl, rfl, rfl, id, Nat.le_refl _, id⟩
  | _ => simp [Label.aside] at off

/-! ## The invariant -/

/-- The channels are within their capacity; `stoper` is past a goroutine only when
that one is done. -/
structure Inv (s : State) : Prop where
  sendCap : s.sendCh ≤ chanCap
  readCap : s.readCh.length ≤ chanCap
  conn : s.stoper ≠ .waitStart → s.connOpen = false
  reader : s.stoper.closedReadCh = true → s.reader = .done
  manager : s.stoper.closedSendCh = true → s.manager = .done
  writer : s.stoper = .done → s.writer = .done

theorem start_inv (cfg : Config) : Inv (start cfg) := by
  constructor <;> simp [start, chanCap, Stoper.closedReadCh, Stoper.closedSendCh]

theorem Inv.aside (inv : Inv s) (off : Aside s t) : Inv t where
  sendCap := off.bounded inv.sendCap
  readCap := off.readCh ▸ inv.readCap
  conn := by simpa only [off.stoper, off.connOpen] using inv.conn
  reader := by simpa only [off.stoper, off.reader] using inv.reader
  manager := by simpa only [off.stoper, off.manager] using inv.manager
  writer := by simpa only [off.stoper, off.writer] using inv.writer

theorem stop_inv (inv : Inv s) (next : step cfg s .stop = some t) : Inv t := by
  simp only [step] at next
  cases stoper : s.stoper with
  | waitStart =>
      simp only [stoper, Option.ite_none_right_eq_some] at next
      obtain ⟨-, ⟨⟩⟩ := next
      exact ⟨inv.sendCap, inv.readCap, fun _ => rfl, by simp [Stoper.closedReadCh],
        by simp [Stoper.closedSendCh], by simp⟩
  | waitReader =>
      simp only [stoper, Option.ite_none_right_eq_some] at next
      obtain ⟨ended, ⟨⟩⟩ := next
      exact ⟨inv.sendCap, inv.readCap, fun _ => inv.conn (by simp [stoper]), fun _ => ended,
        by simp [Stoper.closedSendCh], by simp⟩
  | waitManager =>
      simp only [stoper, Option.ite_none_right_eq_some] at next
      obtain ⟨ended, ⟨⟩⟩ := next
      exact ⟨inv.sendCap, inv.readCap, fun _ => inv.conn (by simp [stoper]),
        fun _ => inv.reader (by simp [stoper, Stoper.closedReadCh]), fun _ => ended, by simp⟩
  | waitWriter =>
      simp only [stoper, Option.ite_none_right_eq_some] at next
      obtain ⟨ended, ⟨⟩⟩ := next
      exact ⟨inv.sendCap, inv.readCap, fun _ => inv.conn (by simp [stoper]),
        fun _ => inv.reader (by simp [stoper, Stoper.closedReadCh]),
        fun _ => inv.manager (by simp [stoper, Stoper.closedSendCh]), fun _ => ended⟩
  | done => simp [stoper] at next

/-- A goroutine that is not done keeps the channels open that `stoper` closes after it. -/
theorem Inv.readCh_open (inv : Inv s) (busy : s.reader ≠ .done) :
    s.stoper.closedReadCh = false :=
  Bool.eq_false_iff.2 fun closed => busy (inv.reader closed)

theorem Inv.sendCh_open (inv : Inv s) (busy : s.manager ≠ .done) :
    s.stoper.closedSendCh = false :=
  Bool.eq_false_iff.2 fun closed => busy (inv.manager closed)

theorem reader_inv (inv : Inv s)
    (next : (∃ m, step cfg s (.read m) = some t) ∨ (∃ eof, step cfg s (.readError eof) = some t) ∨
      step cfg s .readerSend = some t) : Inv t := by
  rcases next with ⟨m, next⟩ | ⟨eof, next⟩ | next
  · simp only [step, Option.ite_none_right_eq_some] at next
    obtain ⟨⟨reading, -⟩, ⟨⟩⟩ := next
    have open_ := inv.readCh_open (by simp [reading])
    exact { inv with reader := fun closed => by simp [open_] at closed }
  · simp only [step, Option.ite_none_right_eq_some] at next
    obtain ⟨-, ⟨⟩⟩ := next
    exact { inv with
      conn := fun begun => by simp [inv.conn begun]
      reader := fun _ => rfl }
  · simp only [step] at next
    split at next
    · rename_i m sending
      split at next
      · rename_i fits
        cases next
        have open_ := inv.readCh_open (by simp [sending])
        exact { inv with
          readCap := by
            simp only [List.length_append, List.length_singleton]
            exact fits
          reader := fun closed => by simp [open_] at closed }
      · cases next
    · cases next

theorem writer_inv (inv : Inv s)
    (next : (∃ ok, step cfg s (.newWriter ok) = some t) ∨ step cfg s .writerRecv = some t ∨
      ∃ ok, step cfg s (.write ok) = some t) : Inv t := by
  have busy : s.writer ≠ .done → s.stoper ≠ .done := fun busy ended => busy (inv.writer ended)
  rcases next with ⟨ok, next⟩ | next | ⟨ok, next⟩
  · simp only [step, Option.ite_none_right_eq_some] at next
    obtain ⟨at_, next⟩ := next
    split at next
    · cases next
      exact { inv with writer := fun ended => absurd ended (busy (by simp [at_])) }
    · cases next
      exact { inv with writer := fun _ => rfl }
  · simp only [step, Option.ite_none_right_eq_some] at next
    obtain ⟨at_, next⟩ := next
    split at next
    · cases next
      exact { inv with
        sendCap := Nat.le_trans (Nat.sub_le _ _) inv.sendCap
        writer := fun ended => absurd ended (busy (by simp [at_])) }
    · split at next
      · cases next
        exact { inv with writer := fun _ => rfl }
      · cases next
  · simp only [step, Option.ite_none_right_eq_some] at next
    obtain ⟨at_, next⟩ := next
    split at next
    · split at next
      · cases next
        exact { inv with writer := fun ended => absurd ended (busy (by simp [at_])) }
      · cases next
    · cases next
      exact { inv with writer := fun _ => rfl }

theorem manager_inv (inv : Inv s)
    (next : step cfg s .heartbeatTimeout = some t ∨ step cfg s .managerRecv = some t ∨
      step cfg s .managerSend = some t) : Inv t := by
  rcases next with next | next | next
  · simp only [step, Option.ite_none_right_eq_some] at next
    obtain ⟨-, ⟨⟩⟩ := next
    exact { inv with manager := fun _ => rfl }
  · simp only [step, Option.ite_none_right_eq_some] at next
    obtain ⟨at_, next⟩ := next
    have open_ := inv.sendCh_open (by simp [at_])
    have received : ∀ {m rest} {manager : Manager}, s.readCh = m :: rest →
        Inv { s with readCh := rest, manager := manager } := fun {m rest manager} queue => by
      have fits := inv.readCap
      simp only [queue, List.length_cons] at fits
      exact { inv with
        readCap := Nat.le_of_succ_le fits
        manager := fun closed => by simp [open_] at closed }
    split at next
    · rename_i queue
      cases next
      exact received queue
    · rename_i queue
      cases next
      exact received queue
    · rename_i queue
      cases next
      exact received queue
    · split at next
      · cases next
        exact { inv with manager := fun _ => rfl }
      · cases next
  · simp only [step] at next
    split at next
    · rename_i returns at_
      have open_ := inv.sendCh_open (by simp [at_])
      split at next
      · rename_i fits
        split at next
        · cases next
          exact { inv with
            sendCap := fits
            manager := fun _ => rfl }
        · cases next
          exact { inv with
            sendCap := fits
            manager := fun closed => by simp [open_] at closed }
      · cases next
    · cases next

theorem step_inv (inv : Inv s) (next : step cfg s l = some t) : Inv t := by
  cases l with
  | read m => exact reader_inv inv (.inl ⟨m, next⟩)
  | readError eof => exact reader_inv inv (.inr (.inl ⟨eof, next⟩))
  | readerSend => exact reader_inv inv (.inr (.inr next))
  | newWriter ok => exact writer_inv inv (.inl ⟨ok, next⟩)
  | writerRecv => exact writer_inv inv (.inr (.inl next))
  | write ok => exact writer_inv inv (.inr (.inr ⟨ok, next⟩))
  | heartbeatTimeout => exact manager_inv inv (.inl next)
  | managerRecv => exact manager_inv inv (.inr (.inl next))
  | managerSend => exact manager_inv inv (.inr (.inr next))
  | stop => exact stop_inv inv next
  | _ => exact inv.aside (step_aside rfl next)

/-! ## No step makes a stuck control finishable -/

theorem sends_append_le (ms ns : List ClientMsg) : sends ms ≤ sends (ms ++ ns) := by
  induction ms with
  | nil => exact Nat.zero_le _
  | cons m ms ih =>
      cases m with
      | ping valid => cases valid <;> simp [sends, ih]
      | _ => simpa [sends] using ih

theorem need_le_of_ahead_le (same : s.manager = t.manager) (less : s.ahead cfg ≤ t.ahead cfg) :
    s.need cfg ≤ t.need cfg := by
  simp only [State.need, same]
  split <;> omega

theorem need_congr (reader : t.reader = s.reader) (manager : t.manager = s.manager)
    (readCh : t.readCh = s.readCh) : t.need cfg = s.need cfg := by
  cases s
  cases t
  cases reader
  cases manager
  cases readCh
  rfl

/-- Filling `sendCh` and losing the writer or the connection only take away. -/
theorem finishable_of_room (fin : t.Finishable cfg) (reader : t.reader = s.reader)
    (manager : t.manager = s.manager) (readCh : t.readCh = s.readCh)
    (conn : t.connOpen = true → s.connOpen = true)
    (busy : t.writer ≠ .done → s.writer ≠ .done) (room : t.room ≤ s.room) :
    s.Finishable cfg := by
  obtain ⟨free, able⟩ := fin
  refine ⟨by simpa only [State.Blocked, State.Deaf, reader, manager, readCh] using free, ?_⟩
  rw [need_congr reader manager readCh] at able
  exact able.imp (fun ⟨open_, writing⟩ => ⟨conn open_, busy writing⟩)
    fun enough => Nat.le_trans enough room

/-- A state whose reader is not blocked, and whose manager has no more to do, can
finish if the other one can. -/
theorem finishable_of_ahead (fin : t.Finishable cfg) (unblocked : ¬ s.Blocked)
    (manager : s.manager = t.manager) (drains : t.Drains → s.Drains) (room : t.room = s.room)
    (less : s.ahead cfg ≤ t.ahead cfg) : s.Finishable cfg := by
  refine ⟨fun stuck => unblocked stuck.1, fin.2.imp drains ?_⟩
  intro enough
  exact Nat.le_trans (need_le_of_ahead_le manager less) (room ▸ enough)

theorem finishable_of_reader
    (next : (∃ m, step cfg s (.read m) = some t) ∨ (∃ eof, step cfg s (.readError eof) = some t) ∨
      step cfg s .readerSend = some t) (fin : t.Finishable cfg) : s.Finishable cfg := by
  rcases next with ⟨m, next⟩ | ⟨eof, next⟩ | next
  · simp only [step, Option.ite_none_right_eq_some] at next
    obtain ⟨⟨reading, -⟩, ⟨⟩⟩ := next
    have unblocked : ¬ s.Blocked := by simp [State.Blocked, reading, Reader.held]
    refine finishable_of_ahead fin unblocked rfl id rfl ?_
    simp only [State.ahead, if_neg unblocked, reading, Reader.held, List.append_nil]
    split
    · exact Nat.zero_le _
    · exact sends_append_le s.readCh [m]
  · simp only [step, Option.ite_none_right_eq_some] at next
    obtain ⟨reading, ⟨⟩⟩ := next
    have unblocked : ¬ s.Blocked := by simp [State.Blocked, reading, Reader.held]
    refine finishable_of_ahead fin unblocked rfl (fun ⟨open_, writing⟩ => ?_) rfl ?_
    · exact ⟨(Bool.and_eq_true_iff.1 open_).1, writing⟩
    · simp only [State.ahead, if_neg unblocked, reading, Reader.held]
      split
      · exact Nat.zero_le _
      · exact Nat.le_refl _
  · simp only [step] at next
    split at next
    · rename_i m sending
      split at next
      · rename_i fits
        cases next
        have unblocked : ¬ s.Blocked := fun blocked => absurd blocked.2 (Nat.not_le_of_lt fits)
        refine finishable_of_ahead fin unblocked rfl id rfl ?_
        simp only [State.ahead, if_neg unblocked, sending, Reader.held,
          List.append_nil]
        split
        · exact Nat.zero_le _
        · exact Nat.le_refl _
      · cases next
    · cases next

theorem finishable_of_writer
    (next : (∃ ok, step cfg s (.newWriter ok) = some t) ∨ step cfg s .writerRecv = some t ∨
      ∃ ok, step cfg s (.write ok) = some t) (fin : t.Finishable cfg) : s.Finishable cfg := by
  rcases next with ⟨ok, next⟩ | next | ⟨ok, next⟩
  · simp only [step, Option.ite_none_right_eq_some] at next
    obtain ⟨at_, next⟩ := next
    split at next
    · cases next
      exact finishable_of_room fin rfl rfl rfl id (by simp [at_]) (by simp [State.room, at_])
    · cases next
      exact finishable_of_room fin rfl rfl rfl id (by simp [at_]) (by simp [State.room, at_])
  · simp only [step, Option.ite_none_right_eq_some] at next
    obtain ⟨at_, next⟩ := next
    split at next
    · cases next
      refine finishable_of_room fin rfl rfl rfl id (by simp [at_]) ?_
      simp only [State.room, at_]
      omega
    · split at next
      · cases next
        exact finishable_of_room fin rfl rfl rfl id (by simp [at_]) (by simp [State.room, at_])
      · cases next
  · simp only [step, Option.ite_none_right_eq_some] at next
    obtain ⟨at_, next⟩ := next
    split at next
    · split at next
      · rename_i open_
        cases next
        exact ⟨fin.1, .inl ⟨open_, by simp [at_]⟩⟩
      · cases next
    · cases next
      exact finishable_of_room fin rfl rfl rfl id (by simp [at_]) (by simp [State.room, at_])

/-- The manager needs no fewer sends before it receives a message than after it. -/
theorem ahead_le_of_recv {m : ClientMsg} {rest : List ClientMsg} {manager : Manager}
    (queue : s.readCh = m :: rest)
    (answer : sends [m] = 0 ∧ manager = .select ∧ (∀ ms, sends (m :: ms) = sends ms) ∨
      sends [m] = 1 ∧ manager = .sending false ∧ (∀ ms, sends (m :: ms) = sends ms + 1) ∨
      sends [m] = 1 ∧ manager = .sending true ∧ ∀ ms, sends (m :: ms) = 1) :
    s.ahead cfg ≤ State.need cfg { s with readCh := rest, manager := manager } := by
  simp only [State.ahead, State.need, queue, List.take_succ_cons, List.take_zero, List.cons_append]
  rcases answer with ⟨none_, rfl, more⟩ | ⟨one, rfl, more⟩ | ⟨one, rfl, more⟩
  · simp only [none_, more]
    split
    · split <;> omega
    · exact Nat.le_refl _
  · simp only [one, more]
    split
    · split <;> omega
    · exact Nat.le_refl _
  · simp only [one, more]
    split
    · split <;> omega
    · exact Nat.le_refl _

theorem finishable_of_manager (inv : Inv s)
    (next : step cfg s .heartbeatTimeout = some t ∨ step cfg s .managerRecv = some t ∨
      step cfg s .managerSend = some t) (fin : t.Finishable cfg) : s.Finishable cfg := by
  obtain ⟨free, able⟩ := fin
  rcases next with next | next | next
  · simp only [step, Option.ite_none_right_eq_some] at next
    obtain ⟨⟨at_, ticker⟩, ⟨⟩⟩ := next
    have unblocked : ¬ s.Blocked := fun blocked => free ⟨blocked, .inl rfl⟩
    refine ⟨fun stuck => unblocked stuck.1, .inr ?_⟩
    simp [State.need, at_, State.ahead, ticker, unblocked]
  · simp only [step, Option.ite_none_right_eq_some] at next
    obtain ⟨at_, next⟩ := next
    have listening : ¬ s.Deaf := by simp [State.Deaf, at_]
    have need : s.need cfg = s.ahead cfg := by simp [State.need, at_]
    refine ⟨fun stuck => listening stuck.2, ?_⟩
    rw [need]
    split at next
    · rename_i rest queue
      cases next
      refine able.imp_right fun enough => Nat.le_trans (ahead_le_of_recv queue ?_) enough
      exact .inr (.inl ⟨rfl, rfl, fun _ => rfl⟩)
    · rename_i valid rest queue
      cases next
      refine able.imp_right fun enough => Nat.le_trans (ahead_le_of_recv queue ?_) enough
      cases valid with
      | true => exact .inr (.inl ⟨rfl, rfl, fun _ => rfl⟩)
      | false => exact .inr (.inr ⟨rfl, rfl, fun _ => rfl⟩)
    · rename_i m rest notProxy notPing queue
      cases next
      refine able.imp_right fun enough => Nat.le_trans (ahead_le_of_recv queue ?_) enough
      cases m with
      | newProxy => exact (notProxy rfl).elim
      | ping valid => exact (notPing _ rfl).elim
      | _ => exact .inl ⟨rfl, at_, fun _ => rfl⟩
    · rename_i queue
      split at next
      · rename_i closed
        cases next
        right
        simp [State.ahead, queue, inv.reader closed, Reader.held, State.Blocked, sends]
      · cases next
  · simp only [step] at next
    split at next
    · rename_i returns at_
      split at next
      · rename_i fits
        split at next
        · rename_i last
          cases next
          refine ⟨fun stuck => free ⟨stuck.1, .inl rfl⟩, .inr ?_⟩
          simp only [State.need, at_, last, State.room]
          omega
        · rename_i more
          cases next
          have listening : ¬ s.Deaf := by simp [State.Deaf, at_, more]
          refine ⟨fun stuck => listening stuck.2, able.imp_right ?_⟩
          intro enough
          have same : State.ahead cfg
              { s with sendCh := s.sendCh + 1, manager := .select } = s.ahead cfg := rfl
          simp only [State.need, State.room, at_, more, same] at enough ⊢
          omega
      · cases next
    · cases next

theorem finishable_of_step (inv : Inv s) (next : step cfg s l = some t)
    (fin : t.Finishable cfg) : s.Finishable cfg := by
  cases l with
  | read m => exact finishable_of_reader (.inl ⟨m, next⟩) fin
  | readError eof => exact finishable_of_reader (.inr (.inl ⟨eof, next⟩)) fin
  | readerSend => exact finishable_of_reader (.inr (.inr next)) fin
  | newWriter ok => exact finishable_of_writer (.inl ⟨ok, next⟩) fin
  | writerRecv => exact finishable_of_writer (.inr (.inl next)) fin
  | write ok => exact finishable_of_writer (.inr (.inr ⟨ok, next⟩)) fin
  | heartbeatTimeout => exact finishable_of_manager inv (.inl next) fin
  | managerRecv => exact finishable_of_manager inv (.inr (.inl next)) fin
  | managerSend => exact finishable_of_manager inv (.inr (.inr next)) fin
  | stop =>
      simp only [step] at next
      split at next
      · simp only [Option.ite_none_right_eq_some] at next
        obtain ⟨-, ⟨⟩⟩ := next
        exact finishable_of_room fin rfl rfl rfl (fun closed => by simp at closed) id
          (Nat.le_refl _)
      · simp only [Option.ite_none_right_eq_some] at next
        obtain ⟨-, ⟨⟩⟩ := next
        exact fin
      · simp only [Option.ite_none_right_eq_some] at next
        obtain ⟨-, ⟨⟩⟩ := next
        exact fin
      · simp only [Option.ite_none_right_eq_some] at next
        obtain ⟨-, ⟨⟩⟩ := next
        exact fin
      · cases next
  | _ =>
      have off := step_aside rfl next
      refine finishable_of_room fin off.reader off.manager off.readCh (by simp [off.connOpen])
        (by simp [off.writer]) ?_
      have := off.grows
      simp only [State.room, off.writer]
      omega

/-! ## A finishable control can finish -/

theorem allStart_kept (begun : s.allStart = true) (next : step cfg s l = some t) :
    t.allStart = true := by
  cases l with
  | shutdown | poolRequest | transport | getWorkConn | caller | registerWorkConn =>
      exact (step_aside rfl next).allStart begun
  | _ =>
      simp only [step] at next
      repeat' split at next
      all_goals first
        | cases next; first | exact begun | rfl
        | cases next

def Reader.weight : Reader → Nat
  | .reading => 1
  | .sending _ => 6
  | .done => 0

def Writer.weight : Writer → Nat
  | .init | .writing => 2
  | .receiving => 1
  | .done => 0

def Manager.weight : Manager → Nat
  | .select => 1
  | .sending _ => 4
  | .done => 0

def Stoper.weight : Stoper → Nat
  | .waitStart => 4
  | .waitReader => 3
  | .waitManager => 2
  | .waitWriter => 1
  | .done => 0

/-- What the four goroutines have still to do. -/
def weight (s : State) : Nat :=
  s.reader.weight + s.writer.weight + s.manager.weight + s.stoper.weight +
    4 * s.readCh.length + 2 * s.sendCh

/-- Some step brings the control closer to its end and leaves it finishable. -/
def Advances (cfg : Config) (s : State) : Prop :=
  ∃ l t, step cfg s l = some t ∧ t.Finishable cfg ∧ weight t < weight s

theorem reader_advances (fin : s.Finishable cfg) (busy : s.reader ≠ .done)
    (unblocked : ¬ s.Blocked) : Advances cfg s := by
  cases at_ : s.reader with
  | reading =>
      refine ⟨.readError true, _, if_pos at_, ?_, ?_⟩
      · refine finishable_of_ahead fin (by simp [State.Blocked, Reader.held]) rfl
          ?_ rfl ?_
        · intro drains
          exact ⟨Bool.and_eq_true_iff.2 ⟨drains.1, rfl⟩, drains.2⟩
        · simp only [State.ahead, State.Blocked, at_, Reader.held]
          exact Nat.le_refl _
      · simp only [weight, at_, Reader.weight]
        omega
  | sending m =>
      have fits : s.readCh.length < chanCap := Nat.lt_of_not_le fun full =>
        unblocked ⟨by simp [at_, Reader.held], full⟩
      refine ⟨.readerSend, _, by simp only [step, at_]; exact if_pos fits, ?_, ?_⟩
      · refine finishable_of_ahead fin (by simp [State.Blocked, Reader.held]) rfl id rfl ?_
        rw [State.ahead, State.ahead, if_neg unblocked]
        simp [State.Blocked, at_, Reader.held]
      · simp only [weight, at_, Reader.weight, List.length_append, List.length_singleton]
        omega
  | done => exact absurd at_ busy

theorem send_advances {returns : Bool} (fin : s.Finishable cfg) (at_ : s.manager = .sending returns)
    (fits : s.sendCh < chanCap) : Advances cfg s := by
  obtain ⟨free, able⟩ := fin
  cases returns with
  | true =>
      refine ⟨.managerSend, _, by simp only [step, at_]; exact if_pos fits, ?_, ?_⟩
      · exact ⟨fun stuck => free ⟨stuck.1, .inr at_⟩, .inr (Nat.zero_le _)⟩
      · simp only [weight, at_, Manager.weight]
        omega
  | false =>
      refine ⟨.managerSend, _, by simp only [step, at_]; exact if_pos fits, ?_, ?_⟩
      · refine ⟨fun stuck => by simp [State.Deaf] at stuck, able.imp_right fun enough => ?_⟩
        have same : State.ahead cfg
            { s with sendCh := s.sendCh + 1, manager := .select } = s.ahead cfg := rfl
        simp only [State.need, State.room, at_, same] at enough ⊢
        omega
      · simp only [weight, at_, Manager.weight]
        omega

/-- A manager that is blocked on a full `sendCh` still has the writer. -/
theorem writer_advances {returns : Bool} (fin : s.Finishable cfg)
    (at_ : s.manager = .sending returns) (full : s.sendCh = chanCap) : Advances cfg s := by
  have pending : 0 < s.need cfg := by
    simp only [State.need, at_]
    cases returns
    · exact Nat.succ_pos _
    · exact Nat.succ_pos _
  have drains : s.room = 0 → s.Drains := fun none_ => fin.2.resolve_right (by omega)
  cases writer : s.writer with
  | init =>
      refine ⟨.newWriter true, _, if_pos writer, ?_, ?_⟩
      · exact finishable_of_room fin rfl rfl rfl id (by simp) (by simp [State.room, writer])
      · simp only [weight, writer, Writer.weight]
        omega
  | receiving =>
      have some_ : 0 < s.sendCh := full ▸ Nat.succ_pos _
      refine ⟨.writerRecv, _, by simp only [step, writer, if_true]; exact if_pos some_, ?_, ?_⟩
      · refine finishable_of_room fin rfl rfl rfl id (by simp) ?_
        simp only [State.room, writer]
        omega
      · simp only [weight, writer, Writer.weight]
        omega
  | writing =>
      have open_ := (drains (by simp [State.room, writer, full])).1
      refine ⟨.write true, _, by simp only [step, writer, if_true]; exact if_pos open_, ?_, ?_⟩
      · exact ⟨fin.1, .inl ⟨open_, by simp⟩⟩
      · simp only [weight, writer, Writer.weight]
        omega
  | done => exact absurd writer (drains (by simp [State.room, writer, full])).2

/-- A manager that need not return at once, or cannot, has no more to do for
receiving a message. -/
theorem need_le_of_recv {m : ClientMsg} {rest : List ClientMsg} {manager : Manager}
    (queue : s.readCh = m :: rest) (waits : cfg.heartbeat = true → s.Blocked)
    (fits : rest.length < chanCap)
    (answer : sends [m] = 0 ∧ manager = .select ∧ (∀ ms, sends (m :: ms) = sends ms) ∨
      sends [m] = 1 ∧ manager = .sending false ∧ (∀ ms, sends (m :: ms) = sends ms + 1) ∨
      sends [m] = 1 ∧ manager = .sending true ∧ ∀ ms, sends (m :: ms) = 1) :
    State.need cfg { s with readCh := rest, manager := manager } ≤ s.ahead cfg := by
  have free : ∀ manager, ¬ State.Blocked { s with readCh := rest, manager := manager } :=
    fun _ blocked => absurd blocked.2 (Nat.not_le_of_lt fits)
  have before : s.ahead cfg =
      if cfg.heartbeat then sends [m] else sends (m :: (rest ++ s.reader.held)) := by
    simp only [State.ahead, queue, List.take_succ_cons, List.take_zero, List.cons_append]
    split
    · rename_i ticker
      rw [if_pos (waits ticker)]
    · rfl
  rw [before]
  rcases answer with ⟨none_, rfl, more⟩ | ⟨one, rfl, more⟩ | ⟨one, rfl, more⟩
  · simp only [State.need, State.ahead, if_neg (free _), more]
    split <;> omega
  · simp only [State.need, State.ahead, if_neg (free _), one, more]
    split <;> omega
  · simp only [State.need, one, more]
    split <;> omega

theorem recv_advances {m : ClientMsg} {rest : List ClientMsg} (inv : Inv s)
    (fin : s.Finishable cfg) (at_ : s.manager = .select) (queue : s.readCh = m :: rest)
    (waits : cfg.heartbeat = true → s.Blocked) : Advances cfg s := by
  have fits : rest.length < chanCap := by
    have := inv.readCap
    simp only [queue, List.length_cons] at this
    omega
  have need : s.need cfg = s.ahead cfg := by simp [State.need, at_]
  obtain ⟨manager, answer, next, light⟩ : ∃ manager,
      (sends [m] = 0 ∧ manager = .select ∧ (∀ ms, sends (m :: ms) = sends ms) ∨
        sends [m] = 1 ∧ manager = .sending false ∧ (∀ ms, sends (m :: ms) = sends ms + 1) ∨
        sends [m] = 1 ∧ manager = .sending true ∧ ∀ ms, sends (m :: ms) = 1) ∧
      step cfg s .managerRecv = some { s with readCh := rest, manager := manager } ∧
      manager.weight ≤ 4 := by
    cases m with
    | newProxy =>
        exact ⟨.sending false, .inr (.inl ⟨rfl, rfl, fun _ => rfl⟩), by simp [step, at_, queue],
          by simp [Manager.weight]⟩
    | ping valid =>
        cases valid with
        | true =>
            exact ⟨.sending false, .inr (.inl ⟨rfl, rfl, fun _ => rfl⟩),
              by simp [step, at_, queue], by simp [Manager.weight]⟩
        | false =>
            exact ⟨.sending true, .inr (.inr ⟨rfl, rfl, fun _ => rfl⟩),
              by simp [step, at_, queue], by simp [Manager.weight]⟩
    | _ =>
        exact ⟨.select, .inl ⟨rfl, rfl, fun _ => rfl⟩, by simp [step, at_, queue],
          by simp [Manager.weight]⟩
  refine ⟨.managerRecv, _, next, ⟨?_, fin.2.imp_right ?_⟩, ?_⟩
  · intro stuck
    exact absurd stuck.1.2 (Nat.not_le_of_lt fits)
  · intro enough
    exact Nat.le_trans (need_le_of_recv queue waits fits answer) (need ▸ enough)
  · have heavy : s.manager.weight = 1 := by simp [at_, Manager.weight]
    simp only [weight, queue, heavy, List.length_cons]
    omega

/-- Once reader and manager are done, nothing keeps writer and `stoper` from ending. -/
theorem rest_advances (begun : s.allStart = true) (reader : s.reader = .done)
    (manager : s.manager = .done) (unfinished : s.stoper ≠ .done) : Advances cfg s := by
  have ended : ∀ {t : State}, t.reader = .done → t.manager = .done → t.Finishable cfg := by
    intro t reader manager
    refine ⟨fun stuck => by simp [State.Blocked, reader, Reader.held] at stuck, .inr ?_⟩
    simp [State.need, manager]
  cases stoper : s.stoper with
  | waitStart =>
      refine ⟨.stop, _, by simp only [step, stoper]; exact if_pos begun, ?_, ?_⟩
      · exact ended reader manager
      · simp only [weight, stoper, Stoper.weight]
        omega
  | waitReader =>
      refine ⟨.stop, _, by simp only [step, stoper]; exact if_pos reader, ?_, ?_⟩
      · exact ended reader manager
      · simp only [weight, stoper, Stoper.weight]
        omega
  | waitManager =>
      refine ⟨.stop, _, by simp only [step, stoper]; exact if_pos manager, ?_, ?_⟩
      · exact ended reader manager
      · simp only [weight, stoper, Stoper.weight]
        omega
  | waitWriter =>
      cases writer : s.writer with
      | init =>
          refine ⟨.newWriter true, _, if_pos writer, ?_, ?_⟩
          · exact ended reader manager
          · simp only [weight, writer, Writer.weight]
            omega
      | receiving =>
          by_cases some_ : 0 < s.sendCh
          · refine ⟨.writerRecv, _, by simp only [step, writer, if_true]; exact if_pos some_,
              ?_, ?_⟩
            · exact ended reader manager
            · simp only [weight, writer, Writer.weight]
              omega
          · refine ⟨.writerRecv, { s with writer := .done, allStart := true }, ?_, ?_, ?_⟩
            · simp [step, writer, some_, stoper, Stoper.closedSendCh]
            · exact ended reader manager
            · simp only [weight, writer, Writer.weight]
              omega
      | writing =>
          refine ⟨.write false, _, by simp only [step, writer, if_true]; rfl, ?_, ?_⟩
          · exact ended reader manager
          · simp only [weight, writer, Writer.weight]
            omega
      | done =>
          refine ⟨.stop, _, by simp only [step, stoper]; exact if_pos writer, ?_, ?_⟩
          · exact ended reader manager
          · simp only [weight, stoper, Stoper.weight]
            omega
  | done => exact absurd stoper unfinished

/-- The manager waits for `readCh` to be closed, and `stoper` is on its way. -/
theorem idle_advances (inv : Inv s) (begun : s.allStart = true) (reader : s.reader = .done)
    (at_ : s.manager = .select) (empty : s.readCh = []) : Advances cfg s := by
  have open_ := inv.sendCh_open (by simp [at_])
  have ended : ∀ {t : State}, t.reader = .done → t.manager = .select → t.readCh = [] →
      t.Finishable cfg := by
    intro t reader at_ empty
    refine ⟨fun stuck => by simp [State.Deaf, at_] at stuck, .inr ?_⟩
    simp [State.need, at_, State.ahead, State.Blocked, reader, empty, Reader.held, sends]
  cases stoper : s.stoper with
  | waitStart =>
      refine ⟨.stop, _, by simp only [step, stoper]; exact if_pos begun, ?_, ?_⟩
      · exact ended reader at_ empty
      · simp only [weight, stoper, Stoper.weight]
        omega
  | waitReader =>
      refine ⟨.stop, _, by simp only [step, stoper]; exact if_pos reader, ?_, ?_⟩
      · exact ended reader at_ empty
      · simp only [weight, stoper, Stoper.weight]
        omega
  | waitManager =>
      refine ⟨.managerRecv, { s with manager := .done, allStart := true }, ?_, ?_, ?_⟩
      · simp [step, at_, empty, stoper, Stoper.closedReadCh]
      · exact ⟨fun stuck => by simp [State.Blocked, reader, Reader.held] at stuck,
          .inr (Nat.zero_le _)⟩
      · simp only [weight, at_, Manager.weight]
        omega
  | waitWriter => simp [stoper, Stoper.closedSendCh] at open_
  | done => simp [stoper, Stoper.closedSendCh] at open_

theorem finishable_advances (inv : Inv s) (begun : s.allStart = true) (fin : s.Finishable cfg)
    (unfinished : s.stoper ≠ .done) : Advances cfg s := by
  by_cases gets_on : s.reader ≠ .done ∧ ¬ s.Blocked
  · exact reader_advances fin gets_on.1 gets_on.2
  have waits : s.reader = .done ∨ s.Blocked := by
    by_cases done : s.reader = .done
    · exact .inl done
    · exact .inr (not_not.1 fun unblocked => gets_on ⟨done, unblocked⟩)
  cases at_ : s.manager with
  | sending returns =>
      rcases Nat.lt_or_ge s.sendCh chanCap with fits | full
      · exact send_advances fin at_ fits
      · exact writer_advances fin at_ (Nat.le_antisymm inv.sendCap full)
  | done =>
      have unblocked : ¬ s.Blocked := fun blocked => fin.1 ⟨blocked, .inl at_⟩
      exact rest_advances begun (waits.resolve_right unblocked) at_ unfinished
  | select =>
      by_cases ticks : cfg.heartbeat = true ∧ ¬ s.Blocked
      · refine ⟨.heartbeatTimeout, _, if_pos ⟨at_, ticks.1⟩, ?_, ?_⟩
        · exact ⟨fun stuck => ticks.2 stuck.1, .inr (Nat.zero_le _)⟩
        · simp only [weight, at_, Manager.weight]
          omega
      · cases queue : s.readCh with
        | cons m rest =>
            exact recv_advances inv fin at_ queue fun ticker =>
              not_not.1 fun unblocked => ticks ⟨ticker, unblocked⟩
        | nil =>
            have unblocked : ¬ s.Blocked := by
              intro blocked
              have := blocked.2
              simp [queue, chanCap] at this
            exact idle_advances inv begun (waits.resolve_right unblocked) at_ queue

theorem not_canReach_of_stuck (inv : Inv s) (stuck : ¬ s.Finishable cfg) :
    ¬ CanReach (step cfg) (fun t => t.stoper = .done) s := by
  refine not_canReach_of_trap (fun t => Inv t ∧ ¬ t.Finishable cfg) ?_ ?_ ⟨inv, stuck⟩
  · rintro t l u ⟨inv, stuck⟩ next
    exact ⟨step_inv inv next, fun fin => stuck (finishable_of_step inv next fin)⟩
  · rintro t ⟨inv, stuck⟩ done
    have reader := inv.reader (by simp [done, Stoper.closedReadCh])
    have manager := inv.manager (by simp [done, Stoper.closedSendCh])
    refine stuck ⟨fun both => by simp [State.Blocked, reader, Reader.held] at both, .inr ?_⟩
    simp [State.need, manager]

theorem canReach_of_finishable (inv : Inv s) (begun : s.allStart = true)
    (fin : s.Finishable cfg) : CanReach (step cfg) (fun t => t.stoper = .done) s := by
  refine canReach_of_measure (fun t => Inv t ∧ t.allStart = true ∧ t.Finishable cfg)
    weight ?_ ⟨inv, begun, fin⟩
  rintro t ⟨inv, begun, fin⟩ unfinished
  obtain ⟨l, u, next, fin', less⟩ := finishable_advances inv begun fin unfinished
  exact ⟨l, u, next, ⟨step_inv inv next, allStart_kept begun next, fin'⟩, less⟩

end Steps

theorem reachable_inv {cfg : Config} {s : State} (reached : Reachable (step cfg) (start cfg) s) :
    Inv s :=
  reached.invariant (fun _ _ _ inv next => step_inv inv next) (start_inv cfg)

/-- **Once `allShutdown` has been started, `stoper` can still finish iff** the reader
is not blocked on a `readCh` that nobody will empty, and either the writer still
writes or what the manager has to send before it returns fits into `sendCh`. -/
theorem stoper_can_finish_iff (cfg : Config) {s : State}
    (reached : Reachable (step cfg) (start cfg) s) (begun : s.allStart = true) :
    CanReach (step cfg) (fun t => t.stoper = .done) s ↔ s.Finishable cfg := by
  have inv := reachable_inv reached
  constructor
  · intro can
    by_contra stuck
    exact not_canReach_of_stuck inv stuck can
  · exact canReach_of_finishable inv begun

/-- The default server: streams of one TCP connection, so no heartbeat ticker. -/
def muxed : Config := ⟨true, 90, 1⟩

/-- Two messages for the manager and two for the writer. -/
def queued : State :=
  { start muxed with readCh := [.natHole, .ping false], sendCh := 2, allStart := true }

theorem closed_control_can_finish :
    CanReach (step muxed) (fun t => t.stoper = .done) queued := by
  have run : exec (step muxed) (start muxed) [.transport, .transport, .read .natHole, .readerSend,
      .read (.ping false), .readerSend, .shutdown] = some queued := by decide
  exact (stoper_can_finish_iff muxed ⟨_, run⟩ rfl).2 (by decide)

/-- A ping that fails the check, and eleven more messages before the answer to it
arrives: the manager has returned, `readCh` is full, and the reader holds the last. -/
def invalidPing : List Label :=
  [.read (.ping false), .readerSend, .managerRecv, .managerSend] ++
    (List.replicate 10 [.read .natHole, .readerSend]).flatten ++ [.read .natHole]

def wedged : State :=
  { start muxed with
    reader := .sending .natHole
    manager := .done
    readCh := List.replicate 10 .natHole
    sendCh := 1
    allStart := true }

theorem invalid_ping_wedges :
    exec (step muxed) (start muxed) invalidPing = some wedged ∧ wedged.allStart = true ∧
      ¬ CanReach (step muxed) (fun t => t.stoper = .done) wedged := by
  have run : exec (step muxed) (start muxed) invalidPing = some wedged := by decide
  exact ⟨run, rfl, not_canReach_of_stuck (reachable_inv ⟨invalidPing, run⟩) (by decide)⟩

end ChmlFrp.Server.Teardown
