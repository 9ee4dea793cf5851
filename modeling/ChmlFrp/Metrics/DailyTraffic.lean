/-
# ChmlFrp.Metrics.DailyTraffic — the network traffic since midnight

`getDailyNetTraffic` of `pkg/metrics/mem/server.go`.  The bytes of a day are what the
counters of the system have grown by since a baseline, which is read at the first call of
the day or at the start of the process.  The baseline lives in memory and in a file: it is
written there when it is read, and again by goroutines of calls that come at the right time.

The midnight of a day is what `time.Date` returns for it.  Where the clocks go forward at
midnight, that is a time of the day before, and the date of that day is what the record gets.

* `daily_traffic_sound`: on one day the values returned never decrease, are not negative and
  are at most the bytes transferred since midnight, in the runs in which a new baseline can
  be read, a record that is found was made on the day, and nothing is lost once a value above
  zero was returned.
* `never_negative` needs no more than counters that an `int64` can hold.
* `stale_baseline`: the reading fails at the first call of a day, and the bytes of the day
  before are counted again.
-/
import ChmlFrp.Metrics.DateCounter
import Mathlib.Algebra.Group.Int.Defs
import Mathlib.Algebra.Group.Nat.Defs
import Mathlib.Data.List.Pairwise
import Mathlib.Data.Fintype.Basic
import Mathlib.Tactic.SplitIfs

namespace ChmlFrp.Metrics.DailyTraffic

set_option autoImplicit false

open ChmlFrp.Lib.Transition

/-! ## The machine that the process runs on -/

inductive Dir where
  | recv
  | sent
  deriving DecidableEq, Repr

instance : Fintype Dir where
  elems := {.recv, .sent}
  complete := by rintro (_ | _) <;> decide

/-- A time, with what the code reads of it: the calendar day, the minute and the second. -/
structure Time where
  instant : Int
  day : Int
  minute : Nat
  second : Nat
  deriving DecidableEq, Repr

/-- What `time.Date` returns for midnight of a day. -/
structure Midnight where
  day : Int
  deriving DecidableEq, Repr

/-- `time.Date(now.Year(), now.Month(), now.Day(), 0, 0, 0, 0, now.Location())` -/
def Time.today (now : Time) : Midnight := ⟨now.day⟩

def Midnight.instant (z : Zone) (m : Midnight) : Int := z.date m.day

/-- `Format("2006-01-02")` -/
def Midnight.format (z : Zone) (m : Midnight) : Int := z.day (m.instant z)

/-- `After` -/
def Midnight.After (z : Zone) (m m' : Midnight) : Prop := m'.instant z < m.instant z

instance (z : Zone) (m m' : Midnight) : Decidable (m.After z m') :=
  inferInstanceAs (Decidable (_ < _))

theorem Midnight.after_iff {z : Zone} {m m' : Midnight} : m.After z m' ↔ m'.day < m.day :=
  z.date_lt_iff

structure Host where
  clock : Time
  /-- The counters that `net.IOCounters` reads. -/
  counter : Dir → Nat
  /-- All bytes transferred so far. -/
  total : Dir → Nat
  /-- `total` at the midnight of a day. -/
  midnight : Int → Dir → Nat

inductive Event where
  | tick (now : Time)
  | transfer (n : Dir → Nat)
  /-- The machine restarts, and its counters have come to `n` since. -/
  | reboot (n : Dir → Nat)

namespace Host

def step (h : Host) : Event → Option Host
  | .tick now =>
      if h.clock.instant ≤ now.instant then
        some { h with
          clock := now
          midnight := fun d => if h.clock.day < d ∧ d ≤ now.day then h.total else h.midnight d }
      else none
  | .transfer n =>
      some { h with
        counter := fun dir => h.counter dir + n dir
        total := fun dir => h.total dir + n dir }
  | .reboot n =>
      if ∀ dir, n dir ≤ h.counter dir then
        some { h with counter := n, total := fun dir => h.total dir + n dir }
      else none

/-- The bytes transferred since the midnight of a day. -/
def since (h : Host) (day : Int) (dir : Dir) : Int := h.total dir - h.midnight day dir

/-- `int64` of a counter. -/
def current (h : Host) (dir : Dir) : Int64 := Int64.ofNat (h.counter dir)

end Host

/-! ## The process -/

structure DailyTrafficRecord where
  date : Int
  /-- The day that it is for, which the file does not tell. -/
  day : Int
  startTime : Int
  startBytes : Dir → Int64
  totalBytes : Dir → Int64

/-- What becomes of a file that `os.WriteFile` writes. -/
inductive Write where
  | whole
  /-- It is not opened. -/
  | failed
  /-- It is cut short, or mixed with what another goroutine writes. -/
  | torn
  deriving DecidableEq, Repr

inductive Phase where
  /-- The mutex is free. -/
  | idle
  /-- `initDailyNetTrafficInternal` begins: for a call that has read the clock, or for the
  process that starts. -/
  | init (call : Option Time)
  /-- It has read the clock itself. -/
  | load (call : Option Time) (now : Time)
  /-- There is no record of today. -/
  | baseline (call : Option Time) (now : Time)
  /-- The baseline is read. -/
  | create (call : Option Time) (newRecord : DailyTrafficRecord)
  /-- The call is about to read the counters. -/
  | reading (now : Time)

/-- A value that was returned, with the bytes transferred by then since the midnight of the
day of the call, and the baseline that was in use. -/
structure Returned where
  day : Int
  bytes : Dir → Int64
  since : Dir → Int
  startBytes : Dir → Int64

structure State where
  host : Host
  phase : Phase
  dailyStartTime : Midnight
  dailyStartBytes : Dir → Int64
  /-- The goroutines that save a record. -/
  saving : List DailyTrafficRecord
  /-- The file, where it parses. -/
  file : Option DailyTrafficRecord
  /-- The last value first. -/
  returned : List Returned

/-- The process starts for the first time. -/
def start (clock : Time) (counter : Dir → Nat) : State where
  host := ⟨clock, counter, fun _ => 0, fun _ _ => 0⟩
  phase := .init none
  dailyStartTime := ⟨0⟩
  dailyStartBytes := fun _ => 0
  saving := []
  file := none
  returned := []

inductive Label where
  | host (e : Event)
  /-- The process is stopped and started again. -/
  | restart
  | initNow
  | initLoad
  | initRead (ok : Bool)
  | initSave (w : Write)
  | call
  | read (ok : Bool)
  /-- `os.WriteFile` of the `i`-th goroutine opens the file. -/
  | truncate (i : Nat)
  /-- The `i`-th goroutine saves its record. -/
  | save (i : Nat) (w : Write)

def saveDailyTrafficRecord (file : Option DailyTrafficRecord) (record : DailyTrafficRecord) :
    Write → Option DailyTrafficRecord
  | .whole => some record
  | .failed => file
  | .torn => none

/-- Where `initDailyNetTrafficInternal` returns to. -/
def resume : Option Time → Phase
  | none => .idle
  | some now => .reading now

/-- The bytes of today and the baseline from then on. -/
def todayBytes (current start : Int64) : Int64 × Int64 :=
  let today := current - start
  if today < 0 then (current, 0) else (today, start)

namespace State

variable (z : Zone)

def loadRecord (s : State) (call : Option Time) (now : Time) : State :=
  let today := now.today
  match s.file with
  | some record =>
      if record.date = today.format z then
        { s with
          phase := resume call
          dailyStartTime := today
          dailyStartBytes := record.startBytes }
      else { s with phase := .baseline call now, dailyStartTime := today }
  | none => { s with phase := .baseline call now, dailyStartTime := today }

def readBaseline (s : State) (call : Option Time) (now : Time) : State :=
  { s with
    dailyStartBytes := s.host.current
    phase := .create call
      ⟨now.today.format z, now.day, now.instant, s.host.current, fun _ => 0⟩ }

def enter (s : State) : State :=
  let now := s.host.clock
  if now.today.After z s.dailyStartTime then { s with phase := .init (some now) }
  else { s with phase := .reading now }

/-- The counters are read. -/
def answer (s : State) (now : Time) : State :=
  let bytes dir := (todayBytes (s.host.current dir) (s.dailyStartBytes dir)).1
  let startBytes dir := (todayBytes (s.host.current dir) (s.dailyStartBytes dir)).2
  let recordToSave : List DailyTrafficRecord :=
    if now.minute % 5 = 0 ∧ now.second < 5 then
      [⟨now.today.format z, now.day, s.dailyStartTime.instant z, startBytes, bytes⟩]
    else []
  { s with
    phase := .idle
    dailyStartBytes := startBytes
    saving := recordToSave ++ s.saving
    returned := ⟨now.day, bytes, s.host.since now.day, startBytes⟩ :: s.returned }

/-- The counters cannot be read. -/
def fail (s : State) (now : Time) : State :=
  { s with
    phase := .idle
    returned :=
      ⟨now.day, fun _ => 0, s.host.since now.day, s.dailyStartBytes⟩ :: s.returned }

end State

def step (z : Zone) (s : State) : Label → Option State
  | .host e => (s.host.step e).map fun h => { s with host := h }
  | .restart =>
      some { s with
        phase := .init none
        dailyStartTime := ⟨0⟩
        dailyStartBytes := fun _ => 0
        saving := [] }
  | .initNow =>
      match s.phase with
      | .init call => some { s with phase := .load call s.host.clock }
      | _ => none
  | .initLoad =>
      match s.phase with
      | .load call now => some (s.loadRecord z call now)
      | _ => none
  | .initRead ok =>
      match s.phase with
      | .baseline call now =>
          some (if ok then s.readBaseline z call now else { s with phase := resume call })
      | _ => none
  | .initSave w =>
      match s.phase with
      | .create call record =>
          some { s with phase := resume call, file := saveDailyTrafficRecord s.file record w }
      | _ => none
  | .call =>
      match s.phase with
      | .idle => some (s.enter z)
      | _ => none
  | .read ok =>
      match s.phase with
      | .reading now => some (if ok then s.answer z now else s.fail now)
      | _ => none
  | .truncate i => s.saving[i]?.map fun _ => { s with file := none }
  | .save i w =>
      s.saving[i]?.map fun record =>
        { s with
          saving := s.saving.eraseIdx i
          file := saveDailyTrafficRecord s.file record w }

/-! ## What the values promise -/

/-- On one day the values never decrease, are not negative and are at most the bytes
transferred since midnight. -/
structure Sound (s : State) : Prop where
  monotone : s.returned.Pairwise fun later r =>
    r.day = later.day → ∀ dir, r.bytes dir ≤ later.bytes dir
  nonneg : ∀ r ∈ s.returned, ∀ dir, 0 ≤ r.bytes dir
  bounded : ∀ r ∈ s.returned, ∀ dir, (r.bytes dir).toInt ≤ r.since dir

/-- The call that is in progress. -/
def Phase.call : Phase → Option Time
  | .idle => none
  | .init call | .load call _ | .baseline call _ | .create call _ => call
  | .reading now => some now

namespace State

/-- A value may still be returned for the day. -/
def Open (s : State) (day : Int) : Prop :=
  day = s.host.clock.day ∨ ∃ now, s.phase.call = some now ∧ now.day = day

/-- A value above zero was returned for the day. -/
def Counted (s : State) (day : Int) : Prop :=
  ∃ r ∈ s.returned, r.day = day ∧ ∃ dir, r.bytes dir ≠ 0

/-- The record has the baseline of the values that were returned for its day. -/
def Resumes (s : State) (record : DailyTrafficRecord) : Prop :=
  ∀ r ∈ s.returned, r.day = record.day → ∀ dir, r.bytes dir ≠ 0 →
    record.startBytes dir = r.startBytes dir

end State

/-- The counters stay within what an `int64` can hold. -/
def Small (s : State) : Label → Prop
  | .host (.transfer n) => ∀ dir, s.host.counter dir + n dir < 2 ^ 63
  | _ => True

/-- The condition on a step. -/
def Guard (z : Zone) (s : State) : Label → Prop
  | .host (.tick now) => s.host.clock.day ≤ now.day
  | .host (.transfer n) => ∀ dir, s.host.counter dir + n dir < 2 ^ 63
  | .host (.reboot _) => ∀ r ∈ s.returned, s.Open r.day → ∀ dir, r.bytes dir = 0
  | .initLoad =>
      match s.phase, s.file with
      | .load _ now, some record =>
          if record.date = now.today.format z then record.day = now.day ∧ s.Resumes record
          else ¬ s.Counted now.day
      | .load _ now, none => ¬ s.Counted now.day
      | _, _ => True
  | .initRead ok => ok = true
  | .read ok =>
      match s.phase with
      | .reading now => ok = true ∨ ¬ s.Counted now.day
      | _ => True
  | .restart | .initNow | .initSave _ | .call | .truncate _ | .save .. => True

/-! ## The bytes of a day -/

section Bytes

variable {current start : Int64}

theorem todayBytes_of_le (nonneg : 0 ≤ start) (le : start ≤ current) :
    todayBytes current start = (current - start, start) := by
  have difference := Int64.toInt_sub_of_le current start nonneg le
  have not_negative : ¬ current - start < 0 := by
    rw [Int64.lt_iff_toInt_lt, difference]
    rw [Int64.le_iff_toInt_le] at le
    simp only [Int64.toInt_zero]
    omega
  simp only [todayBytes, if_neg not_negative]

theorem todayBytes_of_lt (nonneg : 0 ≤ current) (less : current < start) :
    todayBytes current start = (current, 0) := by
  have negative : current - start < 0 := by
    rw [Int64.lt_iff_toInt_lt] at less ⊢
    rw [Int64.le_iff_toInt_le] at nonneg
    have upper := start.toInt_lt
    simp only [Int64.toInt_zero] at nonneg ⊢
    rw [Int64.toInt_sub, Int.bmod_eq_of_le] <;> omega
  simp only [todayBytes, if_pos negative]

theorem todayBytes_snd (current start : Int64) :
    (todayBytes current start).2 = start ∨ (todayBytes current start).2 = 0 := by
  unfold todayBytes
  dsimp only
  split_ifs
  · exact .inr rfl
  · exact .inl rfl

end Bytes

namespace Host

variable {h h' : Host} {e : Event} {day : Int} {dir : Dir} {startBytes : Int64}

theorem toInt_current (small : h.counter dir < 2 ^ 63) : (h.current dir).toInt = h.counter dir :=
  Int64.toInt_ofNat_of_lt small

/-- The midnights are in order, and before now. -/
def Ordered (h : Host) : Prop :=
  ∀ d e, d ≤ e → e ≤ h.clock.day → ∀ dir,
    h.midnight d dir ≤ h.midnight e dir ∧ h.midnight e dir ≤ h.total dir

/-- What a baseline makes of the counter is no more than was transferred since midnight. -/
def Fits (h : Host) (day : Int) (dir : Dir) (startBytes : Int64) : Prop :=
  (h.counter dir < startBytes.toInt → h.counter dir ≤ h.since day dir) ∧
    (startBytes.toInt ≤ h.counter dir →
      (h.counter dir : Int) - startBytes.toInt ≤ h.since day dir)

theorem day_le (forward : ∀ now, e = .tick now → h.clock.day ≤ now.day)
    (next : h.step e = some h') : h.clock.day ≤ h'.clock.day := by
  cases e with
  | tick now =>
      obtain ⟨-, done⟩ := Option.ite_none_right_eq_some.1 next
      cases done
      exact forward now rfl
  | transfer n =>
      cases next
      exact Int.le_refl _
  | reboot n =>
      obtain ⟨-, done⟩ := Option.ite_none_right_eq_some.1 next
      cases done
      exact Int.le_refl _

theorem midnight_kept (next : h.step e = some h') (past : day ≤ h.clock.day) :
    h'.midnight day = h.midnight day := by
  cases e with
  | tick now =>
      obtain ⟨-, done⟩ := Option.ite_none_right_eq_some.1 next
      cases done
      exact if_neg fun new => absurd past (Int.not_le.2 new.1)
  | transfer n =>
      cases next
      rfl
  | reboot n =>
      obtain ⟨-, done⟩ := Option.ite_none_right_eq_some.1 next
      cases done
      rfl

/-- The bytes that an event transfers: the counter grows by them, or restarts with them. -/
theorem transferred (next : h.step e = some h') (dir : Dir) :
    ∃ n : Nat, h'.total dir = h.total dir + n ∧
      (h'.counter dir = h.counter dir + n ∨ ∃ m, e = .reboot m ∧ h'.counter dir = n) := by
  cases e with
  | tick now =>
      obtain ⟨-, done⟩ := Option.ite_none_right_eq_some.1 next
      cases done
      exact ⟨0, rfl, .inl rfl⟩
  | transfer n =>
      cases next
      exact ⟨n dir, rfl, .inl rfl⟩
  | reboot n =>
      obtain ⟨-, done⟩ := Option.ite_none_right_eq_some.1 next
      cases done
      exact ⟨n dir, rfl, .inr ⟨n, rfl, rfl⟩⟩

theorem Ordered.step (ordered : h.Ordered) (next : h.step e = some h') : h'.Ordered := by
  intro d d' before past dir
  obtain ⟨n, total, -⟩ := transferred next dir
  have grown : h.total dir ≤ h'.total dir := by omega
  by_cases old : d' ≤ h.clock.day
  · rw [midnight_kept next old, midnight_kept next (Int.le_trans before old)]
    obtain ⟨first, second⟩ := ordered d d' before old dir
    exact ⟨first, Nat.le_trans second grown⟩
  · -- a new day: only a tick brings one
    cases e with
    | tick now =>
        obtain ⟨-, done⟩ := Option.ite_none_right_eq_some.1 next
        cases done
        have begins : (if h.clock.day < d' ∧ d' ≤ now.day then h.total else h.midnight d') =
            h.total := if_pos ⟨Int.not_le.1 old, past⟩
        dsimp only
        rw [begins]
        refine ⟨?_, Nat.le_refl _⟩
        split_ifs with new
        · exact Nat.le_refl _
        · have past_ : d ≤ h.clock.day := by
            have : d ≤ now.day := Int.le_trans before past
            omega
          exact (ordered d d (Int.le_refl _) past_ dir).2
    | transfer n =>
        cases next
        exact absurd past old
    | reboot n =>
        obtain ⟨-, done⟩ := Option.ite_none_right_eq_some.1 next
        cases done
        exact absurd past old

theorem Ordered.since_nonneg (ordered : h.Ordered) (past : day ≤ h.clock.day) (dir : Dir) :
    0 ≤ h.since day dir := by
  have := (ordered day day (Int.le_refl _) past dir).2
  unfold since
  omega

theorem Ordered.since_le (ordered : h.Ordered) {day' : Int} (before : day ≤ day')
    (past : day' ≤ h.clock.day) (dir : Dir) : h.since day' dir ≤ h.since day dir := by
  have := (ordered day day' before past dir).1
  unfold since
  omega

theorem Fits.step (fits : h.Fits day dir startBytes) (nonneg : 0 ≤ startBytes.toInt)
    (ordered : h.Ordered) (past : day ≤ h.clock.day) (next : h.step e = some h') :
    h'.Fits day dir startBytes := by
  obtain ⟨less, more⟩ := fits
  obtain ⟨n, total, counter⟩ := transferred next dir
  have since_nonneg := ordered.since_nonneg past dir
  have since_ : h'.since day dir = h.since day dir + n := by
    unfold since
    rw [midnight_kept next past, total]
    omega
  unfold Fits
  rw [since_]
  rcases counter with grown | ⟨-, -, restarted⟩
  · rw [grown]
    omega
  · rw [restarted]
    omega

theorem Fits.mono {day' : Int} (fits : h.Fits day dir startBytes) (ordered : h.Ordered)
    (before : day' ≤ day) (past : day ≤ h.clock.day) : h.Fits day' dir startBytes := by
  have := ordered.since_le before past dir
  obtain ⟨less, more⟩ := fits
  exact ⟨fun low => Int.le_trans (less low) this, fun high => Int.le_trans (more high) this⟩

end Host

/-! ## What one step does -/

/-- The branches of `step`. -/
inductive Moves (z : Zone) (s : State) : Label → State → Prop where
  | host {e : Event} {h : Host} (moved : s.host.step e = some h) :
      Moves z s (.host e) { s with host := h }
  | restart :
      Moves z s .restart { s with
        phase := .init none
        dailyStartTime := ⟨0⟩
        dailyStartBytes := fun _ => 0
        saving := [] }
  | initNow {call : Option Time} (phase : s.phase = .init call) :
      Moves z s .initNow { s with phase := .load call s.host.clock }
  | loaded {call : Option Time} {now : Time} {record : DailyTrafficRecord}
      (phase : s.phase = .load call now) (file : s.file = some record)
      (today : record.date = now.today.format z) :
      Moves z s .initLoad { s with
        phase := resume call
        dailyStartTime := now.today
        dailyStartBytes := record.startBytes }
  | absent {call : Option Time} {now : Time} (phase : s.phase = .load call now)
      (other : ∀ record, s.file = some record → record.date ≠ now.today.format z) :
      Moves z s .initLoad { s with phase := .baseline call now, dailyStartTime := now.today }
  | readBaseline {call : Option Time} {now : Time} (phase : s.phase = .baseline call now) :
      Moves z s (.initRead true) (s.readBaseline z call now)
  | unread {call : Option Time} {now : Time} (phase : s.phase = .baseline call now) :
      Moves z s (.initRead false) { s with phase := resume call }
  | created {call : Option Time} {record : DailyTrafficRecord} (w : Write)
      (phase : s.phase = .create call record) :
      Moves z s (.initSave w) { s with
        phase := resume call
        file := saveDailyTrafficRecord s.file record w }
  | newDay (phase : s.phase = .idle) (new : s.dailyStartTime.day < s.host.clock.day) :
      Moves z s .call { s with phase := .init (some s.host.clock) }
  | sameDay (phase : s.phase = .idle) (old : s.host.clock.day ≤ s.dailyStartTime.day) :
      Moves z s .call { s with phase := .reading s.host.clock }
  | answer {now : Time} (phase : s.phase = .reading now) : Moves z s (.read true) (s.answer z now)
  | fail {now : Time} (phase : s.phase = .reading now) : Moves z s (.read false) (s.fail now)
  | truncate (i : Nat) : Moves z s (.truncate i) { s with file := none }
  | save {i : Nat} {record : DailyTrafficRecord} (w : Write) (found : s.saving[i]? = some record) :
      Moves z s (.save i w) { s with
        saving := s.saving.eraseIdx i
        file := saveDailyTrafficRecord s.file record w }

variable {z : Zone} {s t : State} {l : Label} {record : DailyTrafficRecord}
  {call : Option Time} {now : Time}

theorem loadRecord_of_today (file : s.file = some record)
    (today : record.date = now.today.format z) :
    s.loadRecord z call now =
      { s with
        phase := resume call
        dailyStartTime := now.today
        dailyStartBytes := record.startBytes } := by
  unfold State.loadRecord
  simp only [file]
  exact if_pos today

theorem loadRecord_of_other
    (other : ∀ record, s.file = some record → record.date ≠ now.today.format z) :
    s.loadRecord z call now =
      { s with phase := .baseline call now, dailyStartTime := now.today } := by
  unfold State.loadRecord
  cases file : s.file with
  | none => rfl
  | some record => exact if_neg (other record file)

theorem step_moves (next : step z s l = some t) : Moves z s l t := by
  cases l with
  | host e =>
      obtain ⟨h, moved, rfl⟩ := Option.map_eq_some_iff.1 next
      exact .host moved
  | restart =>
      cases next
      exact .restart
  | initNow =>
      simp only [step] at next
      split at next
      · rename_i call phase
        cases next
        exact .initNow phase
      · cases next
  | initLoad =>
      simp only [step] at next
      split at next
      · rename_i call now phase
        cases next
        by_cases today : ∃ record, s.file = some record ∧ record.date = now.today.format z
        · obtain ⟨record, file, today⟩ := today
          rw [loadRecord_of_today file today]
          exact .loaded phase file today
        · have other : ∀ record, s.file = some record → record.date ≠ now.today.format z :=
            fun record file same => today ⟨record, file, same⟩
          rw [loadRecord_of_other other]
          exact .absent phase other
      · cases next
  | initRead ok =>
      simp only [step] at next
      split at next
      · rename_i call now phase
        cases next
        cases ok with
        | true => exact .readBaseline phase
        | false => exact .unread phase
      · cases next
  | initSave w =>
      simp only [step] at next
      split at next
      · rename_i call record phase
        cases next
        exact .created w phase
      · cases next
  | call =>
      simp only [step] at next
      split at next
      · rename_i phase
        cases next
        unfold State.enter
        dsimp only
        split_ifs with new
        · exact .newDay phase (Midnight.after_iff.1 new)
        · exact .sameDay phase (Int.not_lt.1 fun later => new (Midnight.after_iff.2 later))
      · cases next
  | read ok =>
      simp only [step] at next
      split at next
      · rename_i now phase
        cases next
        cases ok with
        | true => exact .answer phase
        | false => exact .fail phase
      · cases next
  | truncate i =>
      obtain ⟨record, -, rfl⟩ := Option.map_eq_some_iff.1 next
      exact .truncate i
  | save i w =>
      obtain ⟨record, found, rfl⟩ := Option.map_eq_some_iff.1 next
      exact .save w found

/-! ## Nothing is negative -/

/-- The records that are in the file, or on the way there. -/
def State.Written (s : State) (record : DailyTrafficRecord) : Prop :=
  s.file = some record ∨ record ∈ s.saving ∨ ∃ call, s.phase = .create call record

theorem written_of_saved {file : Option DailyTrafficRecord} {saved : DailyTrafficRecord} {w : Write}
    (found : saveDailyTrafficRecord file saved w = some record) :
    file = some record ∨ record = saved := by
  cases w with
  | whole => exact .inr (Option.some.inj found).symm
  | failed => exact .inl found
  | torn => cases found

theorem resume_ne_create {call' : Option Time} : resume call ≠ .create call' record := by
  cases call <;> rintro ⟨⟩

/-- A phase that creates no record adds none. -/
theorem State.Written.of_phase (written : t.Written record)
    (none_ : ∀ call, t.phase ≠ .create call record)
    (file : ∀ record, t.file = some record → s.Written record)
    (saving : ∀ record ∈ t.saving, record ∈ s.saving) : s.Written record := by
  rcases written with found | inside | ⟨call, created⟩
  · exact file record found
  · exact .inr (.inl (saving record inside))
  · exact absurd created (none_ call)

/-- Where a record comes from. -/
theorem Moves.written (moves : Moves z s l t) (written : t.Written record) :
    s.Written record ∨
      (l = .initRead true ∧ ∃ call now, s.phase = .baseline call now ∧
        record.day = now.day ∧ record.startBytes = s.host.current) ∨
      l = .read true ∧ ∃ now, s.phase = .reading now ∧ t = s.answer z now ∧
        record.day = now.day ∧ record.startBytes = t.dailyStartBytes := by
  cases moves with
  | host moved => exact .inl written
  | restart =>
      exact .inl (written.of_phase (by rintro call ⟨⟩) (fun _ found => .inl found)
        (by rintro record ⟨⟩))
  | initNow phase | absent phase other | newDay phase new | sameDay phase old =>
      exact .inl (written.of_phase (by rintro call ⟨⟩) (fun _ found => .inl found)
        fun _ inside => inside)
  | loaded phase file today =>
      exact .inl (written.of_phase (fun _ => resume_ne_create) (fun _ found => .inl found)
        fun _ inside => inside)
  | readBaseline phase =>
      rcases written with file | inside | ⟨call', created⟩
      · exact .inl (.inl file)
      · exact .inl (.inr (.inl inside))
      · cases created
        exact .inr (.inl ⟨rfl, _, _, phase, rfl, rfl⟩)
  | unread phase =>
      exact .inl (written.of_phase (fun _ => resume_ne_create) (fun _ found => .inl found)
        fun _ inside => inside)
  | created w phase =>
      refine .inl (written.of_phase (fun _ => resume_ne_create) (fun record found => ?_)
        fun _ inside => inside)
      rcases written_of_saved found with old | rfl
      · exact .inl old
      · exact .inr (.inr ⟨_, phase⟩)
  | answer phase =>
      rcases written with file | inside | ⟨call', created⟩
      · exact .inl (.inl file)
      · rcases List.mem_append.1 inside with new | old
        · split_ifs at new with due
          · cases List.mem_singleton.1 new
            exact .inr (.inr ⟨rfl, _, phase, rfl, rfl, rfl⟩)
          · cases new
        · exact .inl (.inr (.inl old))
      · cases created
  | fail phase =>
      exact .inl (written.of_phase (by rintro call ⟨⟩) (fun _ found => .inl found)
        fun _ inside => inside)
  | truncate i =>
      rcases written with found | other
      · cases found
      · exact .inl (.inr other)
  | save w found =>
      rcases written with file | inside | created
      · rcases written_of_saved file with old | rfl
        · exact .inl (.inl old)
        · exact .inl (.inr (.inl (List.mem_of_getElem? found)))
      · exact .inl (.inr (.inl (List.mem_of_mem_eraseIdx inside)))
      · exact .inl (.inr (.inr created))

/-- Counters that an `int64` holds, and no baseline and no value below zero. -/
structure Nonneg (s : State) : Prop where
  small : ∀ dir, s.host.counter dir < 2 ^ 63
  baseline : ∀ dir, 0 ≤ s.dailyStartBytes dir
  records : ∀ record, s.Written record → ∀ dir, 0 ≤ record.startBytes dir
  returned : ∀ r ∈ s.returned, ∀ dir, 0 ≤ r.bytes dir

theorem Nonneg.current (nonneg : Nonneg s) (dir : Dir) : 0 ≤ s.host.current dir := by
  rw [Int64.le_iff_toInt_le, Host.toInt_current (nonneg.small dir)]
  simp

/-- What a call returns, and the baseline it leaves. -/
theorem Nonneg.todayBytes_cases (nonneg : Nonneg s) (dir : Dir) :
    (s.host.current dir < s.dailyStartBytes dir ∧
        todayBytes (s.host.current dir) (s.dailyStartBytes dir) = (s.host.current dir, 0)) ∨
      s.dailyStartBytes dir ≤ s.host.current dir ∧
        todayBytes (s.host.current dir) (s.dailyStartBytes dir) =
          (s.host.current dir - s.dailyStartBytes dir, s.dailyStartBytes dir) := by
  by_cases less : s.host.current dir < s.dailyStartBytes dir
  · exact .inl ⟨less, todayBytes_of_lt (nonneg.current dir) less⟩
  · exact .inr ⟨Int64.not_lt.1 less, todayBytes_of_le (nonneg.baseline dir) (Int64.not_lt.1 less)⟩

/-- The baseline after a step is that before, or zero, or that of the file, or a reading. -/
theorem Moves.baseline (moves : Moves z s l t) :
    (∀ dir, t.dailyStartBytes dir = s.dailyStartBytes dir ∨ t.dailyStartBytes dir = 0 ∨
      t.dailyStartBytes dir = s.host.current dir) ∨
    ∃ record, s.file = some record ∧ t.dailyStartBytes = record.startBytes := by
  cases moves with
  | restart => exact .inl fun dir => .inr (.inl rfl)
  | loaded phase file today => exact .inr ⟨_, file, rfl⟩
  | readBaseline phase => exact .inl fun dir => .inr (.inr rfl)
  | answer phase =>
      refine .inl fun dir => ?_
      rcases todayBytes_snd (s.host.current dir) (s.dailyStartBytes dir) with same | zero
      · exact .inl same
      · exact .inr (.inl zero)
  | _ => exact .inl fun dir => .inl rfl

/-- The values after a step are those before, and the one that a call returns. -/
theorem Moves.returned (moves : Moves z s l t) :
    t.returned = s.returned ∨
      ∃ now, s.phase = .reading now ∧ (t = s.answer z now ∨ t = s.fail now) := by
  cases moves with
  | answer phase => exact .inr ⟨_, phase, .inl rfl⟩
  | fail phase => exact .inr ⟨_, phase, .inr rfl⟩
  | _ => exact .inl rfl

theorem small_of_event {h h' : Host} {e : Event} (small : ∀ dir, h.counter dir < 2 ^ 63)
    (fits : ∀ n, e = .transfer n → ∀ dir, h.counter dir + n dir < 2 ^ 63)
    (next : h.step e = some h') (dir : Dir) : h'.counter dir < 2 ^ 63 := by
  cases e with
  | tick now =>
      obtain ⟨-, done⟩ := Option.ite_none_right_eq_some.1 next
      cases done
      exact small dir
  | transfer n =>
      cases next
      exact fits n rfl dir
  | reboot n =>
      obtain ⟨less, done⟩ := Option.ite_none_right_eq_some.1 next
      cases done
      exact Nat.lt_of_le_of_lt (less dir) (small dir)

theorem Nonneg.moves (nonneg : Nonneg s) (small : Small s l) (moves : Moves z s l t) :
    Nonneg t where
  small := by
    cases moves with
    | host moved =>
        refine small_of_event nonneg.small ?_ moved
        rintro n rfl
        exact small
    | _ => exact nonneg.small
  baseline := by
    rcases moves.baseline with known | ⟨record, file, found⟩
    · intro dir
      rcases known dir with same | zero | read
      · exact same ▸ nonneg.baseline dir
      · rw [zero]
        exact Int64.le_refl 0
      · exact read ▸ nonneg.current dir
    · rw [found]
      exact nonneg.records record (.inl file)
  records := by
    intro record written
    rcases moves.written written with old | ⟨-, _, _, -, -, found⟩ | ⟨-, now, -, rfl, -, found⟩
    · exact nonneg.records record old
    · rw [found]
      exact nonneg.current
    · intro dir
      rw [found]
      show 0 ≤ (DailyTraffic.todayBytes (s.host.current dir) (s.dailyStartBytes dir)).2
      rcases nonneg.todayBytes_cases dir with ⟨-, value⟩ | ⟨-, value⟩
      · rw [value]
        exact Int64.le_refl 0
      · rw [value]
        exact nonneg.baseline dir
  returned := by
    rcases moves.returned with same | ⟨now, -, rfl | rfl⟩
    · rw [same]
      exact nonneg.returned
    · refine List.forall_mem_cons.2 ⟨fun dir => ?_, nonneg.returned⟩
      show 0 ≤ (DailyTraffic.todayBytes (s.host.current dir) (s.dailyStartBytes dir)).1
      rcases nonneg.todayBytes_cases dir with ⟨-, value⟩ | ⟨above, value⟩
      · rw [value]
        exact nonneg.current dir
      · rw [value]
        exact Int64.sub_nonneg_of_le (nonneg.baseline dir) above
    · exact List.forall_mem_cons.2 ⟨fun dir => Int64.le_refl 0, nonneg.returned⟩

theorem start_nonneg (clock : Time) {counter : Dir → Nat} (small : ∀ dir, counter dir < 2 ^ 63) :
    Nonneg (start clock counter) where
  small := small
  baseline := fun _ => Int64.le_refl 0
  records := by rintro record (⟨⟨⟩⟩ | ⟨⟨⟩⟩ | ⟨_, ⟨⟩⟩)
  returned := by rintro r ⟨⟩

/-- **No value is negative**, whatever is restarted and whichever reading fails, while the
counters stay within what an `int64` can hold. -/
theorem never_negative (z : Zone) (clock : Time) (counter : Dir → Nat) (ls : List Label)
    (small : ∀ dir, counter dir < 2 ^ 63)
    (within : Along (step z) (fun s l _ => Small s l) (start clock counter) ls) :
    Along (step z) (fun _ _ t => ∀ r ∈ t.returned, ∀ dir, 0 ≤ r.bytes dir)
      (start clock counter) ls := by
  have kept : ∀ s l t, Nonneg s → Small s l → step z s l = some t → Nonneg t :=
    fun _ _ _ nonneg small next => nonneg.moves small (step_moves next)
  exact within.strengthen Nonneg kept
    (fun s l t nonneg small next => (kept s l t nonneg small next).returned)
    (start_nonneg clock small)

/-! ## What the baseline keeps -/

/-- The baseline makes no more of the counters than was transferred since the midnight of
the day. -/
def Host.Valid (h : Host) (day : Int) (startBytes : Dir → Int64) : Prop :=
  day ≤ h.clock.day ∧ ∀ dir, h.Fits day dir (startBytes dir)

/-- `r` would be returned again, or more, with the baseline it was returned with. -/
def Host.Covers (h : Host) (r : Returned) (dir : Dir) : Prop :=
  (r.startBytes dir).toInt ≤ h.counter dir ∧
    (r.bytes dir).toInt ≤ (h.counter dir : Int) - (r.startBytes dir).toInt

namespace State

/-- No value was returned for the day, or a later one. -/
def Fresh (s : State) (day : Int) : Prop := ∀ r ∈ s.returned, r.day < day

/-- No value was returned for a later day. -/
def Seen (s : State) (day : Int) : Prop := ∀ r ∈ s.returned, r.day ≤ day

/-- The baseline of the process is that of its day, and of what was returned for it. -/
structure Based (s : State) : Prop where
  valid : s.host.Valid s.dailyStartTime.day s.dailyStartBytes
  seen : s.Seen s.dailyStartTime.day
  same : ∀ r ∈ s.returned, s.Open r.day → ∀ dir, r.bytes dir ≠ 0 →
    r.day = s.dailyStartTime.day ∧ r.startBytes dir = s.dailyStartBytes dir

/-- The call that waits for a baseline is the first of its day. -/
def First (s : State) (call : Option Time) (day : Int) : Prop :=
  ∀ c, call = some c → c.day ≤ day ∧ s.Fresh c.day

def PhaseInv (s : State) : Phase → Prop
  | .idle => s.Based
  | .init call => s.First call s.host.clock.day
  | .load call now => now.day ≤ s.host.clock.day ∧ s.Seen now.day ∧ s.First call now.day
  | .baseline call now =>
      now.day ≤ s.host.clock.day ∧ s.Seen now.day ∧ s.First call now.day ∧
        s.dailyStartTime.day = now.day ∧ ¬ s.Counted now.day
  | .create call _ => s.Based ∧ s.First call s.dailyStartTime.day
  | .reading now => s.Based ∧ now.day ≤ s.dailyStartTime.day

end State

structure Inv (s : State) : Prop where
  nonneg : Nonneg s
  ordered : s.host.Ordered
  records : ∀ record, s.Written record → s.host.Valid record.day record.startBytes
  phase : s.PhaseInv s.phase
  past : s.Seen s.host.clock.day
  covers : ∀ r ∈ s.returned, s.Open r.day → ∀ dir, r.bytes dir ≠ 0 → s.host.Covers r dir
  sound : Sound s

theorem start_inv (clock : Time) {counter : Dir → Nat} (small : ∀ dir, counter dir < 2 ^ 63) :
    Inv (start clock counter) where
  nonneg := start_nonneg clock small
  ordered := fun _ _ _ _ _ => ⟨Nat.le_refl _, Nat.le_refl _⟩
  records := by rintro record (⟨⟨⟩⟩ | ⟨⟨⟩⟩ | ⟨_, ⟨⟩⟩)
  phase := by rintro c ⟨⟩
  past := by rintro r ⟨⟩
  covers := by rintro r ⟨⟩
  sound := ⟨List.Pairwise.nil, by rintro r ⟨⟩, by rintro r ⟨⟩⟩

theorem Guard.small (guard : Guard z s l) : Small s l := by
  cases l with
  | host e =>
      cases e with
      | transfer n => exact guard
      | tick now | reboot n => trivial
  | _ => trivial

section Step

theorem Host.Valid.step {h h' : Host} {e : Event} {day : Int} {startBytes : Dir → Int64}
    (valid : h.Valid day startBytes) (nonneg : ∀ dir, 0 ≤ startBytes dir) (ordered : h.Ordered)
    (forward : ∀ now, e = .tick now → h.clock.day ≤ now.day) (next : h.step e = some h') :
    h'.Valid day startBytes := by
  refine ⟨Int.le_trans valid.1 (Host.day_le forward next), fun dir => ?_⟩
  have positive := Int64.le_iff_toInt_le.1 (nonneg dir)
  exact (valid.2 dir).step positive ordered valid.1 next

/-- A step that reads no counters, and does not move the machine. -/
theorem Inv.keep (inv : Inv s) (moves : Moves z s l t) (nonneg : Nonneg t)
    (baseline : l ≠ .initRead true) (read : l ≠ .read true) (host : t.host = s.host)
    (returned : t.returned = s.returned)
    (opens : ∀ r ∈ s.returned, t.Open r.day → s.Open r.day) (phase : t.PhaseInv t.phase) :
    Inv t where
  nonneg := nonneg
  ordered := host ▸ inv.ordered
  records := by
    intro record written
    rcases moves.written written with old | ⟨isBaseline, -⟩ | ⟨isRead, -⟩
    · exact host ▸ inv.records record old
    · exact absurd isBaseline baseline
    · exact absurd isRead read
  phase := phase
  past := by
    unfold State.Seen
    rw [host, returned]
    exact inv.past
  covers := by
    rw [host, returned]
    exact fun r inside open_ => inv.covers r inside (opens r inside open_)
  sound := by
    obtain ⟨monotone, nonneg, bounded⟩ := inv.sound
    exact ⟨returned ▸ monotone, returned ▸ nonneg, returned ▸ bounded⟩

theorem State.Based.keep (based : s.Based) (host : t.host = s.host)
    (returned : t.returned = s.returned) (time : t.dailyStartTime = s.dailyStartTime)
    (bytes : t.dailyStartBytes = s.dailyStartBytes)
    (opens : ∀ r ∈ s.returned, t.Open r.day → s.Open r.day) : t.Based where
  valid := by
    rw [host, time, bytes]
    exact based.valid
  seen := by
    unfold State.Seen
    rw [returned, time]
    exact based.seen
  same := by
    rw [returned, time, bytes]
    exact fun r inside open_ => based.same r inside (opens r inside open_)

theorem State.open_of_call {day : Int} (open_ : t.Open day) (host : t.host = s.host)
    (call : t.phase.call = s.phase.call) : s.Open day := by
  unfold State.Open at open_ ⊢
  rw [← host, ← call]
  exact open_

/-- The days that stay open when the machine moves. -/
theorem State.open_of_host {day : Int} (open_ : t.Open day)
    (phase : t.phase = s.phase) (past : day ≤ s.host.clock.day)
    (later : s.host.clock.day ≤ t.host.clock.day) : s.Open day := by
  rcases open_ with today | ⟨now, call, same⟩
  · left
    omega
  · exact .inr ⟨now, phase ▸ call, same⟩

/-- The machine moves. -/
theorem Inv.host {e : Event} {h : Host} (inv : Inv s) (guard : Guard z s (.host e))
    (moved : s.host.step e = some h) : Inv { s with host := h } := by
  have nonneg : Nonneg { s with host := h } :=
    inv.nonneg.moves guard.small (Moves.host (z := z) moved)
  have forward : ∀ now, e = .tick now → s.host.clock.day ≤ now.day := by
    rintro now rfl
    exact guard
  have later := Host.day_le forward moved
  have opens : ∀ r ∈ s.returned, ({ s with host := h } : State).Open r.day → s.Open r.day :=
    fun r inside open_ => State.open_of_host open_ rfl (inv.past r inside) later
  have based : s.Based → ({ s with host := h } : State).Based := fun based =>
    { valid := based.valid.step inv.nonneg.baseline inv.ordered forward moved
      seen := based.seen
      same := fun r inside open_ => based.same r inside (opens r inside open_) }
  have first : ∀ call, s.First call s.host.clock.day → s.First call h.clock.day :=
    fun call first c isCall => ⟨Int.le_trans (first c isCall).1 later, (first c isCall).2⟩
  refine ⟨nonneg, inv.ordered.step moved, ?_, ?_, ?_, ?_, ?_⟩
  · intro record written
    exact (inv.records record written).step (inv.nonneg.records record written) inv.ordered
      forward moved
  · have kept : ∀ phase, s.PhaseInv phase → ({ s with host := h } : State).PhaseInv phase := by
      intro phase holds
      cases phase with
      | idle => exact based holds
      | init call => exact first call holds
      | load call now => exact ⟨Int.le_trans holds.1 later, holds.2⟩
      | baseline call now => exact ⟨Int.le_trans holds.1 later, holds.2⟩
      | create call record => exact ⟨based holds.1, holds.2⟩
      | reading now => exact ⟨based holds.1, holds.2⟩
    exact kept s.phase inv.phase
  · exact fun r inside => Int.le_trans (inv.past r inside) later
  · intro r inside open_ dir positive
    have before := opens r inside open_
    obtain ⟨starts, bytes⟩ := inv.covers r inside before dir positive
    obtain ⟨n, -, grown | ⟨m, rfl, -⟩⟩ := Host.transferred moved dir
    · show (r.startBytes dir).toInt ≤ h.counter dir ∧
        (r.bytes dir).toInt ≤ (h.counter dir : Int) - (r.startBytes dir).toInt
      omega
    · exact absurd (guard r inside before dir) positive
  · exact ⟨inv.sound.monotone, inv.sound.nonneg, inv.sound.bounded⟩

/-- The clock is read: no other day is open from then on. -/
theorem State.open_of_call_now {day : Int} (open_ : t.Open day) (host : t.host = s.host)
    (call : ∀ c, t.phase.call = some c → s.phase.call = some c ∨ c = s.host.clock) :
    s.Open day := by
  rcases open_ with today | ⟨now, found, same⟩
  · exact .inl (host ▸ today)
  · rcases call now found with before | rfl
    · exact .inr ⟨now, before, same⟩
    · exact .inl same.symm

theorem phaseInv_resume (based : t.Based) (call : Option Time)
    (before : ∀ c, call = some c → c.day ≤ t.dailyStartTime.day) : t.PhaseInv (resume call) := by
  cases call with
  | none => exact based
  | some now => exact ⟨based, before now rfl⟩

theorem call_resume (call : Option Time) : (resume call).call = call := by
  cases call <;> rfl

/-- A day before that of the first call is not open. -/
theorem State.First.not_open {day : Int} (first : s.First call day) (phase : s.phase.call = call)
    {r : Returned} (inside : r ∈ s.returned) (open_ : s.Open r.day) (past : day ≤ s.host.clock.day)
    (isCall : call ≠ none) : False := by
  cases call with
  | none => exact isCall rfl
  | some now =>
      obtain ⟨before, fresh⟩ := first now rfl
      have old := fresh r inside
      rcases open_ with today | ⟨now', found, same⟩
      · omega
      · cases phase.symm.trans found
        omega

/-- The days that are open when a baseline was taken on the day. -/
theorem State.First.day_eq {day : Int} (first : s.First call day) (phase : s.phase.call = call)
    (seen : s.Seen day) (past : day ≤ s.host.clock.day) {r : Returned} (inside : r ∈ s.returned)
    (open_ : s.Open r.day) : r.day = day := by
  cases call with
  | some now => exact (first.not_open phase inside open_ past (by simp)).elim
  | none =>
      have seen_ := seen r inside
      rcases open_ with today | ⟨now', found, same⟩
      · omega
      · cases phase.symm.trans found

/-- The record of today is loaded. -/
theorem Inv.loaded (inv : Inv s) (phase : s.phase = .load call now)
    (file : s.file = some record) (made : record.day = now.day) (resumes : s.Resumes record)
    (moves : Moves z s .initLoad t) (nonneg : Nonneg t)
    (after : t = { s with
      phase := resume call
      dailyStartTime := now.today
      dailyStartBytes := record.startBytes }) : Inv t := by
  have holds := inv.phase
  rw [phase] at holds
  obtain ⟨past, seen, first⟩ := holds
  have isCall : s.phase.call = call := by rw [phase]; rfl
  subst after
  have opens : ∀ r ∈ s.returned, State.Open { s with
      phase := resume call
      dailyStartTime := now.today
      dailyStartBytes := record.startBytes } r.day → s.Open r.day :=
    fun r _ open_ => State.open_of_call open_ rfl ((call_resume call).trans isCall.symm)
  have valid : s.host.Valid now.day record.startBytes := made ▸ inv.records record (.inl file)
  refine inv.keep moves nonneg (by rintro ⟨⟩) (by rintro ⟨⟩) rfl rfl opens
    (phaseInv_resume ⟨valid, seen, ?_⟩ call ?_)
  · intro r inside open_ dir positive
    have day := first.day_eq isCall seen past inside (opens r inside open_)
    exact ⟨day, (resumes r inside (day.trans made.symm) dir positive).symm⟩
  · exact fun c isC => (first c isC).1

/-- The baseline of a new day is read. -/
theorem Inv.readBaseline (inv : Inv s) (phase : s.phase = .baseline call now)
    (nonneg : Nonneg (s.readBaseline z call now)) : Inv (s.readBaseline z call now) := by
  have holds := inv.phase
  rw [phase] at holds
  obtain ⟨past, seen, first, time, none_⟩ := holds
  have isCall : s.phase.call = call := by rw [phase]; rfl
  have opens : ∀ r ∈ s.returned, (s.readBaseline z call now).Open r.day → s.Open r.day :=
    fun r _ open_ => State.open_of_call open_ rfl isCall.symm
  have fits : s.host.Valid now.day s.host.current := by
    refine ⟨past, fun dir => ?_⟩
    have least := inv.ordered.since_nonneg past dir
    unfold Host.Fits
    rw [Host.toInt_current (inv.nonneg.small dir)]
    omega
  have based : (s.readBaseline z call now).Based :=
    { valid := by
        show s.host.Valid s.dailyStartTime.day s.host.current
        rw [time]
        exact fits
      seen := by
        show s.Seen s.dailyStartTime.day
        rw [time]
        exact seen
      same := by
        intro r inside open_ dir positive
        have day := first.day_eq isCall seen past inside (opens r inside open_)
        exact absurd ⟨r, inside, day, dir, positive⟩ none_ }
  refine ⟨nonneg, inv.ordered, ?_, ⟨based, ?_⟩, inv.past, ?_, ?_⟩
  · rintro saved (found | inside | ⟨_, created⟩)
    · exact inv.records saved (.inl found)
    · exact inv.records saved (.inr (.inl inside))
    · cases created
      exact fits
  · show s.First call s.dailyStartTime.day
    rw [time]
    exact first
  · exact fun r inside open_ => inv.covers r inside (opens r inside open_)
  · exact ⟨inv.sound.monotone, inv.sound.nonneg, inv.sound.bounded⟩

/-- A call that has read the clock returns `r`. -/
theorem Inv.returns {r : Returned} (inv : Inv s) (phase : s.phase = .reading now)
    (isIdle : t.phase = .idle) (host : t.host = s.host) (returned : t.returned = r :: s.returned)
    (time : t.dailyStartTime = s.dailyStartTime) (nonneg : Nonneg t) (day : r.day = now.day)
    (since : r.since = s.host.since now.day)
    (records : ∀ record, t.Written record → s.host.Valid record.day record.startBytes)
    (valid : s.host.Valid s.dailyStartTime.day t.dailyStartBytes)
    (bound : ∀ dir, (r.bytes dir).toInt ≤ s.host.since now.day dir)
    (covers : ∀ dir, r.bytes dir ≠ 0 →
      r.startBytes dir = t.dailyStartBytes dir ∧ s.host.Covers r dir)
    (more : ∀ r' ∈ s.returned, r'.day = now.day → ∀ dir, r'.bytes dir ≤ r.bytes dir)
    (same : ∀ r' ∈ s.returned, s.Open r'.day → ∀ dir, r'.bytes dir ≠ 0 →
      r'.startBytes dir = t.dailyStartBytes dir) : Inv t := by
  have holds := inv.phase
  rw [phase] at holds
  obtain ⟨based, before⟩ := holds
  have until_ : s.dailyStartTime.day ≤ s.host.clock.day := based.valid.1
  have today : ∀ d, t.Open d → d = s.host.clock.day := by
    rintro d (here | ⟨now', found, -⟩)
    · rw [here, host]
    · rw [isIdle] at found
      cases found
  have opens : ∀ d, t.Open d → s.Open d := fun d open_ => .inl (today d open_)
  refine ⟨nonneg, host ▸ inv.ordered, fun record written => host ▸ records record written, ?_, ?_,
    ?_, ?_⟩
  · rw [isIdle]
    refine ⟨?_, ?_, ?_⟩
    · rw [host, time]
      exact valid
    · unfold State.Seen
      rw [returned, time]
      exact List.forall_mem_cons.2 ⟨day ▸ before, based.seen⟩
    · rw [returned, time]
      refine List.forall_mem_cons.2 ⟨?_, ?_⟩
      · intro open_ dir positive
        have := today r.day open_
        exact ⟨by omega, (covers dir positive).1⟩
      · intro r' inside open_ dir positive
        exact ⟨(based.same r' inside (opens _ open_) dir positive).1,
          same r' inside (opens _ open_) dir positive⟩
  · unfold State.Seen
    rw [returned, host]
    exact List.forall_mem_cons.2 ⟨by omega, inv.past⟩
  · rw [returned, host]
    refine List.forall_mem_cons.2 ⟨?_, ?_⟩
    · exact fun _ dir positive => (covers dir positive).2
    · exact fun r' inside open_ => inv.covers r' inside (opens _ open_)
  · refine ⟨?_, nonneg.returned, ?_⟩
    · rw [returned]
      refine List.pairwise_cons.2 ⟨?_, inv.sound.monotone⟩
      exact fun r' inside sameDay => more r' inside (sameDay.trans day)
    · rw [returned]
      refine List.forall_mem_cons.2 ⟨?_, inv.sound.bounded⟩
      rw [since]
      exact bound

/-- What reading the counters makes of one of them. -/
theorem Nonneg.value (nonneg : Nonneg s) (dir : Dir) :
    ((s.host.counter dir : Int) < (s.dailyStartBytes dir).toInt ∧
        todayBytes (s.host.current dir) (s.dailyStartBytes dir) = (s.host.current dir, 0)) ∨
      ((s.dailyStartBytes dir).toInt ≤ s.host.counter dir ∧
        (s.host.current dir - s.dailyStartBytes dir).toInt =
          (s.host.counter dir : Int) - (s.dailyStartBytes dir).toInt ∧
        todayBytes (s.host.current dir) (s.dailyStartBytes dir) =
          (s.host.current dir - s.dailyStartBytes dir, s.dailyStartBytes dir)) := by
  have counter := Host.toInt_current (nonneg.small dir)
  rcases nonneg.todayBytes_cases dir with ⟨less, found⟩ | ⟨le, found⟩
  · rw [Int64.lt_iff_toInt_lt, counter] at less
    exact .inl ⟨less, found⟩
  · have difference := Int64.toInt_sub_of_le _ _ (nonneg.baseline dir) le
    rw [Int64.le_iff_toInt_le, counter] at le
    rw [counter] at difference
    exact .inr ⟨le, difference, found⟩

/-- It is no more than what was transferred. -/
theorem Nonneg.bytes_le (nonneg : Nonneg s) {dir : Dir}
    (fits : s.host.Fits s.dailyStartTime.day dir (s.dailyStartBytes dir)) :
    ((todayBytes (s.host.current dir) (s.dailyStartBytes dir)).1).toInt ≤
      s.host.since s.dailyStartTime.day dir := by
  obtain ⟨low, high⟩ := fits
  rcases nonneg.value dir with ⟨less, found⟩ | ⟨le, difference, found⟩
  · rw [found, Host.toInt_current (nonneg.small dir)]
    exact low less
  · rw [found, difference]
    exact high le

/-- The baseline that is left fits, too. -/
theorem Nonneg.fits (nonneg : Nonneg s) {dir : Dir}
    (fits : s.host.Fits s.dailyStartTime.day dir (s.dailyStartBytes dir)) :
    s.host.Fits s.dailyStartTime.day dir
      (todayBytes (s.host.current dir) (s.dailyStartBytes dir)).2 := by
  rcases nonneg.value dir with ⟨less, found⟩ | ⟨le, -, found⟩
  · rw [found]
    have zero : (0 : Int64).toInt = 0 := Int64.toInt_zero
    have low := fits.1 less
    unfold Host.Fits
    simp only [zero]
    omega
  · rw [found]
    exact fits

/-- What is returned would be returned again. -/
theorem Nonneg.covers (nonneg : Nonneg s) (dir : Dir) :
    ((todayBytes (s.host.current dir) (s.dailyStartBytes dir)).2).toInt ≤ s.host.counter dir ∧
      ((todayBytes (s.host.current dir) (s.dailyStartBytes dir)).1).toInt ≤
        (s.host.counter dir : Int) -
          ((todayBytes (s.host.current dir) (s.dailyStartBytes dir)).2).toInt := by
  rcases nonneg.value dir with ⟨less, found⟩ | ⟨le, difference, found⟩
  · have zero : (0 : Int64).toInt = 0 := Int64.toInt_zero
    simp only [found, zero, Host.toInt_current (nonneg.small dir)]
    omega
  · simp only [found, difference]
    omega

/-- A value above zero was counted from the baseline in use, and the counter is above it. -/
theorem Inv.above (inv : Inv s) (based : s.Based) {r : Returned} {dir : Dir}
    (inside : r ∈ s.returned) (open_ : s.Open r.day) (positive : r.bytes dir ≠ 0) :
    r.startBytes dir = s.dailyStartBytes dir ∧
      (s.dailyStartBytes dir).toInt ≤ s.host.counter dir ∧
      (r.bytes dir).toInt ≤ (s.host.counter dir : Int) - (s.dailyStartBytes dir).toInt := by
  have same := (based.same r inside open_ dir positive).2
  have covers := inv.covers r inside open_ dir positive
  unfold Host.Covers at covers
  rw [same] at covers
  exact ⟨same, covers⟩

/-- The counters are read. -/
theorem Inv.answer (inv : Inv s) (phase : s.phase = .reading now)
    (nonneg : Nonneg (s.answer z now)) : Inv (s.answer z now) := by
  have holds := inv.phase
  rw [phase] at holds
  obtain ⟨based, before⟩ := holds
  obtain ⟨past, fits⟩ := based.valid
  have inProgress : s.Open now.day := .inr ⟨now, by rw [phase]; rfl, rfl⟩
  have valid : s.host.Valid s.dailyStartTime.day (s.answer z now).dailyStartBytes :=
    ⟨past, fun dir => inv.nonneg.fits (fits dir)⟩
  refine inv.returns phase rfl rfl rfl rfl nonneg rfl rfl ?_ valid ?_ ?_ ?_ ?_
  · intro record written
    rcases (Moves.answer phase).written written with old | ⟨⟨⟩, -⟩ |
      ⟨-, now', same, -, date, found⟩
    · exact inv.records record old
    · cases phase.symm.trans same
      rw [date, found]
      exact ⟨Int.le_trans before past, fun dir => (valid.2 dir).mono inv.ordered before past⟩
  · exact fun dir => Int.le_trans (inv.nonneg.bytes_le (fits dir))
      (inv.ordered.since_le before past dir)
  · exact fun dir _ => ⟨rfl, inv.nonneg.covers dir⟩
  · intro r inside day dir
    show r.bytes dir ≤ (todayBytes (s.host.current dir) (s.dailyStartBytes dir)).1
    by_cases zero : r.bytes dir = 0
    · rw [zero]
      exact nonneg.returned _ List.mem_cons_self dir
    · obtain ⟨-, above, bytes⟩ := inv.above based inside (day ▸ inProgress) zero
      rcases inv.nonneg.value dir with ⟨less, -⟩ | ⟨-, difference, found⟩
      · omega
      · rw [found, Int64.le_iff_toInt_le, difference]
        exact bytes
  · intro r inside open_ dir positive
    obtain ⟨same, above, -⟩ := inv.above based inside open_ positive
    show r.startBytes dir = (todayBytes (s.host.current dir) (s.dailyStartBytes dir)).2
    rcases inv.nonneg.value dir with ⟨less, -⟩ | ⟨-, -, found⟩
    · omega
    · rw [found]
      exact same

/-- The counters cannot be read, and nothing above zero was returned for the day. -/
theorem Inv.fail (inv : Inv s) (phase : s.phase = .reading now) (none_ : ¬ s.Counted now.day)
    (nonneg : Nonneg (s.fail now)) : Inv (s.fail now) := by
  have holds := inv.phase
  rw [phase] at holds
  obtain ⟨based, before⟩ := holds
  obtain ⟨past, -⟩ := based.valid
  refine inv.returns phase rfl rfl rfl rfl nonneg rfl rfl ?_ based.valid ?_ ?_ ?_ ?_
  · rintro record (found | inside | ⟨_, ⟨⟩⟩)
    · exact inv.records record (.inl found)
    · exact inv.records record (.inr (.inl inside))
  · intro dir
    show (0 : Int64).toInt ≤ _
    rw [Int64.toInt_zero]
    exact inv.ordered.since_nonneg (Int.le_trans before past) dir
  · exact fun dir positive => absurd rfl positive
  · intro r inside day dir
    by_cases zero : r.bytes dir = 0
    · rw [zero]
      exact Int64.le_refl 0
    · exact absurd ⟨r, inside, day, dir, zero⟩ none_
  · exact fun r inside open_ dir positive => (based.same r inside open_ dir positive).2

theorem State.PhaseInv.files {phase : Phase} (holds : s.PhaseInv phase)
    (saving : List DailyTrafficRecord) (file : Option DailyTrafficRecord) :
    ({ s with saving := saving, file := file } : State).PhaseInv phase := by
  have based : s.Based → ({ s with saving := saving, file := file } : State).Based :=
    fun based => ⟨based.valid, based.seen, based.same⟩
  cases phase with
  | idle => exact based holds
  | init | load | baseline => exact holds
  | create call record => exact ⟨based holds.1, holds.2⟩
  | reading now => exact ⟨based holds.1, holds.2⟩

/-- What the guard says of the file, when it is loaded. -/
theorem Guard.load (guard : Guard z s .initLoad) (phase : s.phase = .load call now) :
    (∀ record, s.file = some record → record.date = now.today.format z →
        record.day = now.day ∧ s.Resumes record) ∧
      ((∀ record, s.file = some record → record.date ≠ now.today.format z) →
        ¬ s.Counted now.day) := by
  unfold Guard at guard
  rw [phase] at guard
  cases file : s.file with
  | none =>
      rw [file] at guard
      exact ⟨(by rintro record ⟨⟩), fun _ => guard⟩
  | some record =>
      simp only [file] at guard
      refine ⟨?_, fun other => ?_⟩
      · rintro _ ⟨⟩ today
        rw [if_pos today] at guard
        exact guard
      · rw [if_neg (other record rfl)] at guard
        exact guard

theorem Inv.moves (inv : Inv s) (guard : Guard z s l) (moves : Moves z s l t) : Inv t := by
  have nonneg := inv.nonneg.moves guard.small moves
  have whole := moves
  have holds := inv.phase
  cases moves with
  | host moved => exact inv.host guard moved
  | restart =>
      refine inv.keep whole nonneg (by rintro ⟨⟩) (by rintro ⟨⟩) rfl rfl ?_ (by rintro c ⟨⟩)
      rintro r - (today | ⟨_, ⟨⟩, -⟩)
      exact .inl today
  | initNow phase =>
      rw [phase] at holds
      refine inv.keep whole nonneg (by rintro ⟨⟩) (by rintro ⟨⟩) rfl rfl ?_
        ⟨Int.le_refl _, inv.past, holds⟩
      exact fun r _ open_ => State.open_of_call open_ rfl (by rw [phase]; rfl)
  | loaded phase file today =>
      obtain ⟨made, resumes⟩ := (guard.load phase).1 _ file today
      exact inv.loaded phase file made resumes whole nonneg rfl
  | absent phase other =>
      rw [phase] at holds
      obtain ⟨past, seen, first⟩ := holds
      refine inv.keep whole nonneg (by rintro ⟨⟩) (by rintro ⟨⟩) rfl rfl ?_
        ⟨past, seen, first, rfl, (guard.load phase).2 other⟩
      exact fun r _ open_ => State.open_of_call open_ rfl (by rw [phase]; rfl)
  | readBaseline phase => exact inv.readBaseline phase nonneg
  | unread phase => cases guard
  | @created call record w phase =>
      rw [phase] at holds
      obtain ⟨based, first⟩ := holds
      have isCall : s.phase.call = call := by rw [phase]; rfl
      have opens : ∀ r ∈ s.returned, State.Open { s with
          phase := resume call
          file := saveDailyTrafficRecord s.file record w } r.day → s.Open r.day :=
        fun r _ open_ => State.open_of_call open_ rfl ((call_resume call).trans isCall.symm)
      have after : State.Based { s with
          phase := resume call
          file := saveDailyTrafficRecord s.file record w } :=
        based.keep rfl rfl rfl rfl opens
      exact inv.keep whole nonneg (by rintro ⟨⟩) (by rintro ⟨⟩) rfl rfl opens
        (phaseInv_resume after call fun c isC => (first c isC).1)
  | newDay phase new =>
      rw [phase] at holds
      have based : s.Based := holds
      refine inv.keep whole nonneg (by rintro ⟨⟩) (by rintro ⟨⟩) rfl rfl ?_ ?_
      · exact fun r _ open_ => State.open_of_call_now open_ rfl fun c found =>
          .inr (Option.some.inj found).symm
      · intro c isCall
        cases isCall
        exact ⟨Int.le_refl _, fun r inside => Int.lt_of_le_of_lt (based.seen r inside) new⟩
  | sameDay phase old =>
      rw [phase] at holds
      have based : s.Based := holds
      have opens : ∀ r ∈ s.returned,
          ({ s with phase := .reading s.host.clock } : State).Open r.day → s.Open r.day :=
        fun r _ open_ => State.open_of_call_now open_ rfl fun c found =>
          .inr (Option.some.inj found).symm
      exact inv.keep whole nonneg (by rintro ⟨⟩) (by rintro ⟨⟩) rfl rfl opens
        ⟨based.keep rfl rfl rfl rfl opens, old⟩
  | answer phase => exact inv.answer phase nonneg
  | fail phase =>
      unfold Guard at guard
      rw [phase] at guard
      exact inv.fail phase (guard.resolve_left (by decide)) nonneg
  | truncate i =>
      exact inv.keep whole nonneg (by rintro ⟨⟩) (by rintro ⟨⟩) rfl rfl (fun _ _ open_ => open_)
        (inv.phase.files s.saving none)
  | save w found =>
      exact inv.keep whole nonneg (by rintro ⟨⟩) (by rintro ⟨⟩) rfl rfl (fun _ _ open_ => open_)
        (inv.phase.files _ _)

end Step

/-- **On one day the values never decrease, are not negative and are at most the bytes
transferred since midnight**, in every run in which the counters stay within an `int64`, a
new baseline can be read, the calendar does not go back, a record with the date of a day was
made on it, and once a value above zero was returned for a day, no reading of that day fails,
the machine is not restarted, and a process that starts finds a record of the day with the
baseline that was in use. -/
theorem daily_traffic_sound (z : Zone) (clock : Time) (counter : Dir → Nat) (ls : List Label)
    (small : ∀ dir, counter dir < 2 ^ 63)
    (guarded : Along (step z) (fun s l _ => Guard z s l) (start clock counter) ls) :
    Along (step z) (fun _ _ t => Sound t) (start clock counter) ls := by
  have kept : ∀ s l t, Inv s → Guard z s l → step z s l = some t → Inv t :=
    fun _ _ _ inv guard next => inv.moves guard (step_moves next)
  exact guarded.strengthen Inv kept
    (fun s l t inv guard next => (kept s l t inv guard next).sound) (start_inv clock small)

/-! ## The reading that fails -/

instance (s : State) (day : Int) : Decidable (s.Open day) :=
  decidable_of_iff (day = s.host.clock.day ∨ s.phase.call.map Time.day = some day)
    (by simp [State.Open, Option.map_eq_some_iff])

instance (s : State) (day : Int) : Decidable (s.Counted day) :=
  inferInstanceAs (Decidable (∃ r ∈ s.returned, r.day = day ∧ ∃ dir, r.bytes dir ≠ 0))

instance (s : State) (record : DailyTrafficRecord) : Decidable (s.Resumes record) :=
  inferInstanceAs (Decidable (∀ r ∈ s.returned, r.day = record.day → ∀ dir, r.bytes dir ≠ 0 →
    record.startBytes dir = r.startBytes dir))

instance (z : Zone) (s : State) : (l : Label) → Decidable (Guard z s l)
  | .host (.tick now) => inferInstanceAs (Decidable (s.host.clock.day ≤ now.day))
  | .host (.transfer n) => inferInstanceAs (Decidable (∀ dir, s.host.counter dir + n dir < 2 ^ 63))
  | .host (.reboot _) =>
      inferInstanceAs (Decidable (∀ r ∈ s.returned, s.Open r.day → ∀ dir, r.bytes dir = 0))
  | .initLoad =>
      match phase : s.phase, file : s.file with
      | .load _ now, some record =>
          decidable_of_iff (if record.date = now.today.format z then
              record.day = now.day ∧ s.Resumes record
            else ¬ s.Counted now.day)
            (by simp [Guard, phase, file])
      | .load _ now, none =>
          decidable_of_iff (¬ s.Counted now.day) (by simp [Guard, phase, file])
      | .idle, _ | .init _, _ | .baseline .., _ | .create .., _ | .reading _, _ =>
          isTrue (by simp [Guard, phase])
  | .initRead ok => inferInstanceAs (Decidable (ok = true))
  | .read ok =>
      match phase : s.phase with
      | .reading now =>
          decidable_of_iff (ok = true ∨ ¬ s.Counted now.day) (by simp [Guard, phase])
      | .idle | .init _ | .load .. | .baseline .. | .create .. => isTrue (by simp [Guard, phase])
  | .restart | .initNow | .initSave _ | .call | .truncate _ | .save .. => isTrue trivial

/-- `initDailyNetTrafficInternal` without a record of today. -/
def takesBaseline (ok : Bool) : List Label :=
  if ok then [.initNow, .initLoad, .initRead true, .initSave .whole]
  else [.initNow, .initLoad, .initRead false]

/-- The midnight after so many days. -/
def midnight (day : Int) : Time := ⟨utc.date day, day, 0, 0⟩

/-- A baseline, a value that is saved, and another after the process has started again. -/
theorem daily_traffic_sound_restarted :
    Along (step utc) (fun _ _ t => Sound t) (start (midnight 1) fun _ => 100)
      (takesBaseline true ++ [.host (.transfer fun _ => 50), .call, .read true, .save 0 .whole,
        .restart, .initNow, .initLoad, .call, .read true]) :=
  daily_traffic_sound utc (midnight 1) _ _ (by decide) (by decide +kernel)

/-- The day begins, and the first reading of it fails. -/
def failsAtMidnight : List Label :=
  takesBaseline true ++ [.host (.transfer fun _ => 50), .host (.tick (midnight 2)), .call] ++
    takesBaseline false ++ [.read true]

theorem stale_baseline :
    ¬ Along (step utc) (fun _ _ t => Sound t) (start (midnight 1) fun _ => 100)
      failsAtMidnight := by
  have run : (exec (step utc) (start (midnight 1) fun _ => 100) failsAtMidnight).map
      (fun s => s.returned.map fun r => (r.day, r.bytes .recv, r.since .recv)) =
        some [(2, 50, 0)] := by
    decide +kernel
  obtain ⟨s, done, found⟩ := Option.map_eq_some_iff.1 run
  obtain ⟨r, returned, same⟩ := List.map_eq_singleton_iff.1 found
  intro along
  have sound : Sound s := along.last done
  have bounded := sound.bounded r (by rw [returned]; exact List.mem_singleton_self r) .recv
  simp only [Prod.mk.injEq] at same
  rw [same.2.1, same.2.2] at bounded
  exact absurd bounded (by decide)

end ChmlFrp.Metrics.DailyTraffic
