/-
# ChmlFrp.Client.Health — the health check of a proxy

`client/health/health.go`.  A monitor checks the local service again and again, and calls
back when the status changes.  A run is a list of replies of the service; every pass of
the loop of `checkWorker` takes one.

`failedTimes` grows at every failure, and no success sets it back.  So once the service
has failed often enough in all, a single failure is taken for `maxFailedTimes` of them.

* `fails_after_consecutive_iff`: a monitor calls back as its setting says iff the failures
  so far reach the bound exactly at the last one of a row.
* `isolated_failures_add_up`: three failures that no two come in a row.
-/
import ChmlFrp.Lib.Streak
import ChmlFrp.Lib.Transition
import Mathlib.Algebra.Order.Ring.Int

namespace ChmlFrp.Client.Health

set_option autoImplicit false

open ChmlFrp.Lib
open ChmlFrp.Lib.Transition

/-! ## One check -/

structure Monitor where
  checkType : String
  /-- In seconds, as the next one. -/
  interval : Int
  timeout : Int
  maxFailedTimes : Int
  addr : String
  url : String
  failedTimes : UInt64
  statusOK : Bool
  /-- Whether the function was given; the same for the next one. -/
  statusNormalFn : Bool
  statusFailedFn : Bool
  deriving DecidableEq, Repr

def newMonitor (checkType : String) (intervalS timeoutS maxFailedTimes : Int) (addr url : String)
    (statusNormalFn statusFailedFn : Bool) : Monitor where
  checkType := checkType
  interval := if intervalS ≤ 0 then 10 else intervalS
  timeout := if timeoutS ≤ 0 then 3 else timeoutS
  maxFailedTimes := if maxFailedTimes ≤ 0 then 1 else maxFailedTimes
  addr := addr
  url := url
  failedTimes := 0
  statusOK := false
  statusNormalFn := statusNormalFn
  statusFailedFn := statusFailedFn

inductive CheckError where
  | errHealthCheckType
  | statusCode (code : Int)
  /-- An error of `net` or `net/http`. -/
  | net (err : String)
  deriving DecidableEq, Repr

def CheckError.text : CheckError → String
  | .errHealthCheckType => "error health check type"
  | .statusCode code =>
      "do http health check, StatusCode is [" ++ toString code ++ "] not 2xx"
  | .net err => err

/-- What the calls of one check return: `DialContext` or `NewRequestWithContext` an error or
none, `Do` an error or the status code. -/
structure Reply where
  dial : Option String
  newRequest : Option String
  response : Except String Int

/-- Without an address the check succeeds. -/
def doTCPCheck (addr : String) (reply : Reply) : Option CheckError :=
  if addr = "" then none else reply.dial.map .net

def doHTTPCheck (reply : Reply) : Option CheckError :=
  match reply.newRequest, reply.response with
  | some err, _ => some (.net err)
  | none, .error err => some (.net err)
  | none, .ok code => if code.tdiv 100 ≠ 2 then some (.statusCode code) else none

inductive Callback where
  | normal
  | failed
  deriving DecidableEq, Repr

namespace Monitor

def doCheck (monitor : Monitor) (reply : Reply) : Option CheckError :=
  if monitor.checkType = "tcp" then doTCPCheck monitor.addr reply
  else if monitor.checkType = "http" then doHTTPCheck reply
  else some .errHealthCheckType

/-- `int(monitor.failedTimes)` -/
def intFailedTimes (monitor : Monitor) : Int := (monitor.failedTimes.toNat : Int).bmod (2 ^ 64)

def setStatusOK (monitor : Monitor) (ok : Bool) : Monitor := { monitor with statusOK := ok }

/-- `monitor.failedTimes++` -/
def incFailedTimes (monitor : Monitor) : Monitor :=
  { monitor with failedTimes := monitor.failedTimes + 1 }

/-- One pass of the loop, after `doCheck` has returned; which function it calls. -/
def checkWorker (monitor : Monitor) : Option CheckError → Monitor × Option Callback
  | none =>
      if !monitor.statusOK && monitor.statusNormalFn then
        (monitor.setStatusOK true, some .normal)
      else (monitor, none)
  | some _ =>
      let counted := monitor.incFailedTimes
      if counted.statusOK && decide (counted.maxFailedTimes ≤ counted.intFailedTimes) &&
          counted.statusFailedFn then
        (counted.setStatusOK false, some .failed)
      else (counted, none)

@[simp] theorem setStatusOK_statusOK (monitor : Monitor) (ok : Bool) :
    (monitor.setStatusOK ok).statusOK = ok := rfl
@[simp] theorem setStatusOK_maxFailedTimes (monitor : Monitor) (ok : Bool) :
    (monitor.setStatusOK ok).maxFailedTimes = monitor.maxFailedTimes := rfl
@[simp] theorem setStatusOK_failedTimes (monitor : Monitor) (ok : Bool) :
    (monitor.setStatusOK ok).failedTimes = monitor.failedTimes := rfl
@[simp] theorem incFailedTimes_statusOK (monitor : Monitor) :
    monitor.incFailedTimes.statusOK = monitor.statusOK := rfl
@[simp] theorem incFailedTimes_maxFailedTimes (monitor : Monitor) :
    monitor.incFailedTimes.maxFailedTimes = monitor.maxFailedTimes := rfl
@[simp] theorem incFailedTimes_failedTimes (monitor : Monitor) :
    monitor.incFailedTimes.failedTimes = monitor.failedTimes + 1 := rfl

end Monitor

/-! ## The loop -/

/-- A monitor with the history of its loop. -/
structure Run where
  monitor : Monitor
  results : List (Option CheckError)
  calls : List Callback
  deriving DecidableEq

def start (monitor : Monitor) : Run := ⟨monitor, [], []⟩

def Run.after (s : Run) (err : Option CheckError) : Run :=
  ⟨(s.monitor.checkWorker err).1, s.results ++ [err],
    s.calls ++ (s.monitor.checkWorker err).2.toList⟩

def step (s : Run) (reply : Reply) : Option Run := some (s.after (s.monitor.doCheck reply))

/-! ## What the setting asks for -/

/-- The failures since the last success. -/
def inARow (results : List (Option CheckError)) : Nat := streak Option.isSome results

/-- All the failures, as the `int` that the bound is compared with. -/
def inAll (results : List (Option CheckError)) : Int :=
  (results.countP Option.isSome : Int).bmod (2 ^ 64)

def Run.Calls (s t : Run) (callback : Callback) : Prop := t.calls = s.calls ++ [callback]

/-- `maxFailedTimes` failures in a row make the failed callback and nothing else does, a
success makes the normal one when the status is not OK, and the two take turns. -/
structure Correct (s t : Run) : Prop where
  onlyAfter : s.Calls t .failed → s.monitor.maxFailedTimes ≤ inARow t.results
  atBound : s.monitor.statusOK = true → inARow t.results = s.monitor.maxFailedTimes →
    s.Calls t .failed
  normal : s.Calls t .normal ↔ inARow t.results = 0 ∧ s.monitor.statusOK = false
  alternate : Alternates .normal .failed t.calls

/-- Among the first failures in a row after a success, the last one that the setting
allows for is where all the failures reach the bound. -/
def Counts (s t : Run) : Prop :=
  none ∈ t.results → inARow t.results ≠ 0 → inARow t.results ≤ s.monitor.maxFailedTimes →
    (s.monitor.maxFailedTimes ≤ inAll t.results ↔ inARow t.results = s.monitor.maxFailedTimes)

instance (s t : Run) (callback : Callback) : Decidable (s.Calls t callback) :=
  inferInstanceAs (Decidable (_ = _))

instance (s t : Run) : Decidable (Correct s t) :=
  decidable_of_iff (_ ∧ _ ∧ _ ∧ _)
    ⟨fun ⟨a, b, c, d⟩ => ⟨a, b, c, d⟩, fun ⟨a, b, c, d⟩ => ⟨a, b, c, d⟩⟩

/-! ## One pass -/

section Pass

variable {s t : Run}

/-- The monitor after passes that meet `Counts`. -/
structure Inv (s : Run) : Prop where
  positive : 1 ≤ s.monitor.maxFailedTimes
  functions : s.monitor.statusNormalFn = true ∧ s.monitor.statusFailedFn = true
  failedTimes : s.monitor.failedTimes.toNat = s.results.countP Option.isSome % 2 ^ 64
  status : s.monitor.statusOK = true ↔
    none ∈ s.results ∧ inARow s.results < s.monitor.maxFailedTimes
  turn : turn .normal .failed s.calls = if s.monitor.statusOK then .failed else .normal
  alternate : Alternates .normal .failed s.calls

theorem inARow_success (results : List (Option CheckError)) : inARow (results ++ [none]) = 0 :=
  streak_concat_of_neg rfl

theorem inARow_failure (results : List (Option CheckError)) (err : CheckError) :
    inARow (results ++ [some err]) = inARow results + 1 :=
  streak_concat_of_pos rfl

theorem Inv.intFailedTimes (inv : Inv s) (err : CheckError) :
    s.monitor.incFailedTimes.intFailedTimes = inAll (s.results ++ [some err]) := by
  unfold Monitor.intFailedTimes Monitor.incFailedTimes inAll
  rw [List.countP_append, List.countP_singleton, Option.isSome_some, if_pos rfl]
  simp only [UInt64.toNat_add, UInt64.toNat_one, inv.failedTimes]
  push_cast
  rw [← Int.emod_bmod (_ + 1)]
  congr 1
  omega

theorem Inv.checkWorker_success (inv : Inv s) :
    s.monitor.checkWorker none =
      if s.monitor.statusOK then (s.monitor, none)
      else (s.monitor.setStatusOK true, some .normal) := by
  unfold Monitor.checkWorker
  rw [inv.functions.1, Bool.and_true]
  cases s.monitor.statusOK <;> rfl

/-- The status is OK, and all the failures have reached the bound. -/
def Fires (s : Run) (err : CheckError) : Prop :=
  s.monitor.statusOK = true ∧ s.monitor.maxFailedTimes ≤ inAll (s.results ++ [some err])

instance (s : Run) (err : CheckError) : Decidable (Fires s err) :=
  inferInstanceAs (Decidable (_ ∧ _))

theorem Inv.checkWorker_failure (inv : Inv s) (err : CheckError) :
    s.monitor.checkWorker (some err) =
      if Fires s err then (s.monitor.incFailedTimes.setStatusOK false, some .failed)
      else (s.monitor.incFailedTimes, none) := by
  have given : s.monitor.incFailedTimes.statusFailedFn = true := inv.functions.2
  unfold Monitor.checkWorker
  dsimp only
  rw [given, Bool.and_true, inv.intFailedTimes err]
  by_cases fires : Fires s err
  · rw [if_pos fires, if_pos]
    exact Bool.and_eq_true_iff.2 ⟨fires.1, decide_eq_true fires.2⟩
  · rw [if_neg fires, if_neg]
    rw [Bool.and_eq_true, decide_eq_true_eq]
    exact fires

/-! ### A success -/

theorem Inv.correct_success (inv : Inv s) : Correct s (s.after none) := by
  have row : inARow (s.after none).results = 0 := inARow_success s.results
  have positive := inv.positive
  have made : (s.after none).calls =
      if s.monitor.statusOK then s.calls else s.calls ++ [.normal] := by
    unfold Run.after
    rw [inv.checkWorker_success]
    cases s.monitor.statusOK <;> simp
  cases ok : s.monitor.statusOK with
  | true =>
      rw [ok, if_pos rfl] at made
      refine ⟨?_, ?_, ?_, ?_⟩
      · intro calls
        simp [Run.Calls, made] at calls
      · intro _ bound
        omega
      · simp [Run.Calls, made, ok]
      · rw [made]
        exact inv.alternate
  | false =>
      have next := inv.turn
      rw [ok] at made next
      refine ⟨?_, ?_, ?_, ?_⟩
      · intro calls
        simp [Run.Calls, made] at calls
      · intro ok'
        rw [ok] at ok'
        cases ok'
      · simp [Run.Calls, made, ok, row]
      · rw [made]
        exact alternates_concat_iff.2 ⟨inv.alternate, next.symm⟩

theorem Inv.success (inv : Inv s) : Inv (s.after none) := by
  have made := inv.checkWorker_success
  have positive := inv.positive
  have row : inARow (s.results ++ [none]) = 0 := inARow_success s.results
  have next := inv.turn
  unfold Run.after
  cases ok : s.monitor.statusOK with
  | true =>
      rw [ok, if_pos rfl] at made
      rw [made]
      exact {
        positive := positive
        functions := inv.functions
        failedTimes := by simpa using inv.failedTimes
        status := by simp [ok, row]; omega
        turn := by simpa using next
        alternate := by simpa using inv.alternate }
  | false =>
      rw [ok] at made next
      rw [made]
      exact {
        positive := positive
        functions := inv.functions
        failedTimes := by simpa using inv.failedTimes
        status := by simp [row]; omega
        turn := (turn_concat_self (by decide)).1 next
        alternate := alternates_concat_iff.2 ⟨inv.alternate, next.symm⟩ }

/-! ### A failure -/

/-- Where all the failures reach the bound, the status goes, and only there. -/
theorem Inv.fires_iff (inv : Inv s) (err : CheckError) :
    Fires s err ↔ none ∈ s.results ∧ inARow s.results < s.monitor.maxFailedTimes ∧
      s.monitor.maxFailedTimes ≤ inAll (s.results ++ [some err]) := by
  unfold Fires
  rw [inv.status, and_assoc]

theorem Inv.correct_failure_iff (inv : Inv s) (err : CheckError) :
    Correct s (s.after (some err)) ↔ Counts s (s.after (some err)) := by
  have row := inARow_failure s.results err
  have status := inv.status
  have fires_iff := inv.fires_iff err
  have results : (s.after (some err)).results = s.results ++ [some err] := rfl
  have success : none ∈ s.results ++ [some err] ↔ none ∈ s.results := by simp
  have made := inv.checkWorker_failure err
  unfold Counts
  rw [results, row, success]
  by_cases fires : Fires s err
  · have calls : (s.after (some err)).calls = s.calls ++ [.failed] := by
      unfold Run.after
      rw [made, if_pos fires]
      rfl
    have next := inv.turn
    rw [fires.1] at next
    obtain ⟨ok, below, reached⟩ := fires_iff.1 fires
    constructor
    · intro correct _ _ within
      have enough := correct.onlyAfter calls
      rw [results, row] at enough
      exact iff_of_true reached (by omega)
    · intro counts
      have last := (counts ok (by omega) (by omega)).1 reached
      refine ⟨?_, fun _ _ => calls, ?_, ?_⟩
      · intro _
        rw [results, row]
        omega
      · simp [Run.Calls, calls, fires.1]
      · rw [calls]
        exact alternates_concat_iff.2 ⟨inv.alternate, next.symm⟩
  · have calls : (s.after (some err)).calls = s.calls := by
      unfold Run.after
      rw [made, if_neg fires]
      exact List.append_nil _
    constructor
    · intro correct ok _ within
      have unreached : ¬ s.monitor.maxFailedTimes ≤ inAll (s.results ++ [some err]) :=
        fun reached => fires (fires_iff.2 ⟨ok, by omega, reached⟩)
      refine iff_of_false unreached fun bound => ?_
      have calls' := correct.atBound (status.2 ⟨ok, by omega⟩) (by rw [results, row]; exact bound)
      simp [Run.Calls, calls] at calls'
    · intro counts
      refine ⟨?_, ?_, ?_, ?_⟩
      · intro calls'
        simp [Run.Calls, calls] at calls'
      · intro ok bound
        rw [results, row] at bound
        obtain ⟨success, below⟩ := status.1 ok
        have reached := (counts success (by omega) (by omega)).2 bound
        exact absurd ⟨ok, reached⟩ fires
      · simp [Run.Calls, calls, results, row]
      · rw [calls]
        exact inv.alternate

theorem Inv.failure (inv : Inv s) {err : CheckError} (counts : Counts s (s.after (some err))) :
    Inv (s.after (some err)) := by
  have row := inARow_failure s.results err
  have status := inv.status
  have fires_iff := inv.fires_iff err
  have made := inv.checkWorker_failure err
  have failed : (s.monitor.failedTimes + 1).toNat =
      (s.results ++ [some err]).countP Option.isSome % 2 ^ 64 := by
    rw [UInt64.toNat_add, inv.failedTimes, List.countP_append]
    simp
  have success : none ∈ s.results ++ [some err] ↔ none ∈ s.results := by simp
  have results : (s.after (some err)).results = s.results ++ [some err] := rfl
  unfold Counts at counts
  rw [results, row, success] at counts
  unfold Run.after
  by_cases fires : Fires s err
  · rw [made, if_pos fires]
    have next := inv.turn
    rw [fires.1] at next
    exact {
      positive := inv.positive
      functions := inv.functions
      failedTimes := failed
      status := by
        obtain ⟨ok, below, reached⟩ := fires_iff.1 fires
        have last := (counts ok (by omega) (by omega)).1 reached
        refine iff_of_false (by simp) fun still => ?_
        have below' := still.2
        rw [row] at below'
        simp only [Monitor.setStatusOK_maxFailedTimes, Monitor.incFailedTimes_maxFailedTimes]
          at below'
        omega
      turn := (turn_concat_self (by decide)).2 next
      alternate := alternates_concat_iff.2 ⟨inv.alternate, next.symm⟩ }
  · rw [made, if_neg fires]
    exact {
      positive := inv.positive
      functions := inv.functions
      failedTimes := failed
      status := by
        rw [row, success, Monitor.incFailedTimes_statusOK, status,
          Monitor.incFailedTimes_maxFailedTimes]
        constructor
        · rintro ⟨ok, below⟩
          refine ⟨ok, ?_⟩
          by_contra last
          have reached := (counts ok (by omega) (by omega)).2 (by omega)
          exact fires (fires_iff.2 ⟨ok, below, reached⟩)
        · rintro ⟨ok, below⟩
          exact ⟨ok, by omega⟩
      turn := (congrArg _ (List.append_nil _)).trans inv.turn
      alternate := by simpa using inv.alternate }

/-! ## Runs -/

theorem inv_step {reply : Reply} (inv : Inv s) (counts : Counts s t)
    (next : step s reply = some t) : Inv t := by
  cases next
  cases result : s.monitor.doCheck reply with
  | none => exact inv.success
  | some err =>
      rw [result] at counts
      exact inv.failure counts

theorem correct_iff_counts {reply : Reply} (inv : Inv s) (next : step s reply = some t) :
    Counts s t ↔ Correct s t := by
  cases next
  cases s.monitor.doCheck reply with
  | none =>
      refine iff_of_true (fun _ some_ => ?_) inv.correct_success
      exact absurd (inARow_success s.results) some_
  | some err => exact (inv.correct_failure_iff err).symm

end Pass

theorem start_inv (checkType : String) (intervalS timeoutS maxFailedTimes : Int)
    (addr url : String) :
    Inv (start (newMonitor checkType intervalS timeoutS maxFailedTimes addr url true true)) where
  positive := by
    simp only [start, newMonitor]
    split <;> omega
  functions := ⟨rfl, rfl⟩
  failedTimes := rfl
  status := by simp [start, newMonitor]
  turn := rfl
  alternate := trivial

/-- **The monitor calls back as its setting says in exactly those runs in which the number of
all failures does what the number of failures in a row should do.** -/
theorem fails_after_consecutive_iff (checkType : String)
    (intervalS timeoutS maxFailedTimes : Int) (addr url : String) (replies : List Reply) :
    let monitor := newMonitor checkType intervalS timeoutS maxFailedTimes addr url true true
    Along step (fun s _ t => Correct s t) (start monitor) replies ↔
      Along step (fun s _ t => Counts s t) (start monitor) replies := by
  intro monitor
  refine (along_iff_along Inv ?_ ?_ (start_inv ..) replies).symm
  · intro s reply t inv counts next
    exact inv_step inv counts next
  · intro s reply t inv next
    exact correct_iff_counts inv next

/-- The service is up, and refuses every second connection. -/
def upDown : List Reply :=
  let up : Reply := ⟨none, none, .ok 200⟩
  let down : Reply := ⟨some "connection refused", none, .ok 200⟩
  [up, down, up, down, up, down]

theorem isolated_failures_add_up :
    ¬ Along step (fun s _ t => Correct s t)
      (start (newMonitor "tcp" 10 3 3 "127.0.0.1:80" "" true true)) upDown := by
  decide +kernel

end ChmlFrp.Client.Health
