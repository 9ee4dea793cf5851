/-
# ChmlFrp.Client.Service — the close of the client, beside its reconnect loop

`keepControllerWorking` and `GracefulClose` of `client/service.go`, with `GracefulClose` of
`client/control.go`.  Any number of `GracefulClose` calls are in progress.  They hold `ctlMu`
for reading and set `svr.ctl` to nil; the loop reads it without the lock, and looks at the
exit flag before the login only.

* `close_is_final`: the condition under which no control is started after a close has
  returned, none is left, and no nil control is used; a step that breaks it leads to a run
  where one of the three fails.
* `control_outlives_close`: the service is closed while the client logs in.
-/
import ChmlFrp.Lib.GoMap
import ChmlFrp.Lib.Transition
import Mathlib.Logic.Function.Basic

namespace ChmlFrp.Client.Service

set_option autoImplicit false

open ChmlFrp.Lib
open ChmlFrp.Lib.Transition

inductive Stage where
  /-- Before `Run`. -/
  | new
  | live
  /-- The connection is closed; the worker ends the control. -/
  | lost
  /-- `closedDoneCh` is closed. -/
  | done
  deriving DecidableEq, Repr

/-- The connection of the control is closed. -/
def Stage.drop : Stage → Stage
  | .live => .lost
  | stage => stage

theorem Stage.drop_ne_live (stage : Stage) : stage.drop ≠ .live := by
  cases stage <;> decide

/-- Where `keepControllerWorking` is. -/
inductive Main where
  /-- At the read of `svr.ctl` that opens the loop. -/
  | top
  /-- At `<-ClosedDoneCh()`. -/
  | waiting (c : Nat)
  /-- Before the exit flag. -/
  | woken
  | sleeping
  /-- Before the exit flag, in the inner loop. -/
  | retrying
  | loggingIn
  /-- Has a new control, before `Run`, -/
  | created (c : Nat)
  /-- before `ctlMu.Lock`, -/
  | ran (c : Nat)
  /-- before the close of the old control, -/
  | locked (c : Nat)
  /-- before the assignment. -/
  | replacing (c : Nat)
  | returned
  deriving DecidableEq, Repr

/-- The control that is not published yet. -/
def Main.building : Main → Option Nat
  | .created c | .ran c | .locked c | .replacing c => some c
  | _ => none

/-- Holds `ctlMu` for writing. -/
def Main.writes : Main → Bool
  | .locked _ | .replacing _ => true
  | _ => false

/-- Where a call of `GracefulClose` is. -/
inductive Call where
  /-- Has set the exit flag, and is before `RLock`. -/
  | entered
  | holding
  /-- `svr.ctl` was not nil. -/
  | checked
  /-- In `GracefulClose` of a control, before the close of its connection. -/
  | closing (c : Nat)
  /-- Before `svr.ctl = nil`. -/
  | closed
  /-- Before `RUnlock`. -/
  | leaving
  /-- Before `cancel`. -/
  | cancelling
  deriving DecidableEq, Repr

/-- Holds `ctlMu` for reading. -/
def Call.reads : Call → Bool
  | .entered | .cancelling => false
  | _ => true

structure State where
  exit : Bool
  ctl : Option Nat
  controls : Nat → Stage
  /-- The next control. -/
  next : Nat
  main : Main
  reconnectCounts : Nat
  calls : GoMap Nat Call
  nextCall : Nat
  /-- A call of `GracefulClose` has returned. -/
  returned : Bool
  /-- A control was started after that. -/
  startedLate : Bool
  /-- A nil control was used. -/
  panicked : Bool
  /-- `os.Exit` -/
  exited : Bool

/-- `Run` has published a control and starts `keepControllerWorking`. -/
def start : State where
  exit := false
  ctl := some 0
  controls := Function.update (fun _ => .new) 0 .live
  next := 1
  main := .top
  reconnectCounts := 0
  calls := ∅
  nextCall := 0
  returned := false
  startedLate := false
  panicked := false
  exited := false

/-- `len(reconnectDelays)` -/
def maxReconnects : Nat := 3

inductive Label where
  | readCtl
  /-- `closedDoneCh` is closed. -/
  | wake
  /-- The first test of the exit flag, and the count of the attempts. -/
  | check
  /-- The sleep ends. -/
  | sleep
  /-- The test in the inner loop. -/
  | recheck
  /-- `login` returns, and `NewControl` if it succeeds. -/
  | login (ok : Bool)
  | run
  | lock
  | closeOld
  | publish
  /-- `GracefulClose` is called, and sets the exit flag. -/
  | close
  | rlock (i : Nat)
  | test (i : Nat)
  | readClose (i : Nat)
  | closeConn (i : Nat)
  | setNil (i : Nat)
  | runlock (i : Nat)
  | cancel (i : Nat)
  /-- The connection of a control is lost. -/
  | lose (c : Nat)
  /-- The worker of a control comes to its end. -/
  | finish (c : Nat)
  deriving DecidableEq, Repr

namespace State

def setStage (s : State) (c : Nat) (stage : Stage) : State :=
  { s with controls := Function.update s.controls c stage }

def setCall (s : State) (i : Nat) (call : Call) : State :=
  { s with calls := s.calls.set i call }

end State

def run (s : State) : Label → Option State
  | .readCtl =>
      match s.main with
      | .top =>
          match s.ctl with
          | some c => some { s with main := .waiting c }
          | none => some { s with panicked := true }
      | _ => none
  | .wake =>
      match s.main with
      | .waiting c => if s.controls c = .done then some { s with main := .woken } else none
      | _ => none
  | .check =>
      match s.main with
      | .woken =>
          if s.exit then some { s with main := .returned }
          else if maxReconnects ≤ s.reconnectCounts then some { s with exited := true }
          else some { s with main := .sleeping }
      | _ => none
  | .sleep =>
      match s.main with
      | .sleeping =>
          some { s with main := .retrying, reconnectCounts := s.reconnectCounts + 1 }
      | _ => none
  | .recheck =>
      match s.main with
      | .retrying => some { s with main := if s.exit then .returned else .loggingIn }
      | _ => none
  | .login ok =>
      match s.main with
      | .loggingIn =>
          if ok then
            some { s with main := .created s.next, next := s.next + 1, reconnectCounts := 0 }
          else some { s with main := .top }
      | _ => none
  | .run =>
      match s.main with
      | .created c =>
          some { s.setStage c .live with
            main := .ran c
            startedLate := s.startedLate || s.returned }
      | _ => none
  | .lock =>
      match s.main with
      | .ran c =>
          if ∀ i ∈ s.calls.keys, (s.calls.get i).any Call.reads = false then
            some { s with main := .locked c }
          else none
      | _ => none
  | .closeOld =>
      match s.main with
      | .locked c =>
          match s.ctl with
          | some old =>
              some { s.setStage old (s.controls old).drop with main := .replacing c }
          | none => some { s with main := .replacing c }
      | _ => none
  | .publish =>
      match s.main with
      | .replacing c => some { s with ctl := some c, main := .top }
      | _ => none
  | .close =>
      some { s with
        exit := true
        calls := s.calls.set s.nextCall .entered
        nextCall := s.nextCall + 1 }
  | .rlock i =>
      match s.calls.get i with
      | some .entered => if s.main.writes then none else some (s.setCall i .holding)
      | _ => none
  | .test i =>
      match s.calls.get i with
      | some .holding => some (s.setCall i (if s.ctl.isSome then .checked else .leaving))
      | _ => none
  | .readClose i =>
      match s.calls.get i with
      | some .checked =>
          match s.ctl with
          | some c => some (s.setCall i (.closing c))
          | none => some { s with panicked := true }
      | _ => none
  | .closeConn i =>
      match s.calls.get i with
      | some (.closing c) => some ((s.setStage c (s.controls c).drop).setCall i .closed)
      | _ => none
  | .setNil i =>
      match s.calls.get i with
      | some .closed => some { s.setCall i .leaving with ctl := none }
      | _ => none
  | .runlock i =>
      match s.calls.get i with
      | some .leaving => some (s.setCall i .cancelling)
      | _ => none
  | .cancel i =>
      match s.calls.get i with
      | some .cancelling => some { s with calls := s.calls.delete i, returned := true }
      | _ => none
  | .lose c => if s.controls c = .live then some (s.setStage c .lost) else none
  | .finish c => if s.controls c = .lost then some (s.setStage c .done) else none

/-- Nothing runs after a panic or `os.Exit`. -/
def step (s : State) (l : Label) : Option State :=
  if s.panicked || s.exited then none else run s l

/-! ## A close that is final -/

/-- The loop has returned or waits for a control that has not ended. -/
def Idle (s : State) : Prop :=
  s.main = .returned ∨ ∃ c, s.main = .waiting c ∧ s.controls c ≠ .done

structure Final (s : State) : Prop where
  left_ : s.exited = false → s.returned = true → (∀ i, s.calls.get i = none) → Idle s →
    ∀ c, s.controls c ≠ .live
  inTime : s.startedLate = false
  nilFree : s.panicked = false

/-- The control is not nil where it is used; a new control is started before any close has
returned, and is published, if its connection is still there, while no close has begun or
one has still to look for it. -/
def Guard (s : State) : Label → Prop
  | .readCtl => s.ctl ≠ none
  | .readClose _ => s.ctl ≠ none
  | .run => s.returned = false
  | .publish => ∀ c, s.main = .replacing c → s.controls c = .live → s.exit = true →
      ∃ i, s.calls.get i = some .entered
  | _ => True

/-! ## What a step does -/

variable {s t : State} {l : Label}

/-- The steps of a close that change nothing but where it is. -/
inductive Next (s : State) : Call → Call → Prop
  | rlock (free : s.main.writes = false) : Next s .entered .holding
  | found : Next s .holding .checked
  | skip (nil : s.ctl = none) : Next s .holding .leaving
  | read {c : Nat} (ctl : s.ctl = some c) : Next s .checked (.closing c)
  | runlock : Next s .leaving .cancelling

/-- The steps as they change the state. -/
inductive Moves (s : State) : Label → State → Prop
  | loop {l : Label} {main : Main} {reconnectCounts : Nat} {exited : Bool} (good : Guard s l)
      (before : s.main.building = none) (after : main.building = none) :
      Moves s l { s with main := main, reconnectCounts := reconnectCounts, exited := exited }
  | nil {l : Label} (bad : ¬ Guard s l) : Moves s l { s with panicked := true }
  | login {ok : Bool} (main : s.main = .loggingIn) :
      Moves s (.login ok)
        { s with main := .created s.next, next := s.next + 1, reconnectCounts := 0 }
  | run {c : Nat} (main : s.main = .created c) :
      Moves s .run { s.setStage c .live with
        main := .ran c
        startedLate := s.startedLate || s.returned }
  | lock {c : Nat} (main : s.main = .ran c)
      (free : ∀ i call, s.calls.get i = some call → call.reads = false) :
      Moves s .lock { s with main := .locked c }
  | closeOld {c : Nat} (main : s.main = .locked c) (old : Nat) :
      s.ctl = some old →
      Moves s .closeOld { s.setStage old (s.controls old).drop with main := .replacing c }
  | noOld {c : Nat} (main : s.main = .locked c) (nil : s.ctl = none) :
      Moves s .closeOld { s with main := .replacing c }
  | publish {c : Nat} (main : s.main = .replacing c) :
      Moves s .publish { s with ctl := some c, main := .top }
  | close :
      Moves s .close { s with
        exit := true
        calls := s.calls.set s.nextCall .entered
        nextCall := s.nextCall + 1 }
  | call {l : Label} {i : Nat} {call call' : Call} (good : Guard s l)
      (here : s.calls.get i = some call) (next : Next s call call') :
      Moves s l (s.setCall i call')
  | closeConn {i c : Nat} (here : s.calls.get i = some (.closing c)) :
      Moves s (.closeConn i) ((s.setStage c (s.controls c).drop).setCall i .closed)
  | setNil {i : Nat} (here : s.calls.get i = some .closed) :
      Moves s (.setNil i) { s.setCall i .leaving with ctl := none }
  | cancel {i : Nat} (here : s.calls.get i = some .cancelling) :
      Moves s (.cancel i) { s with calls := s.calls.delete i, returned := true }
  | drop {l : Label} {c : Nat} {stage : Stage} (good : Guard s l) (less : stage ≠ .live) :
      Moves s l (s.setStage c stage)

theorem run_moves (next : run s l = some t) : Moves s l t := by
  cases l with
  | readCtl =>
      simp only [run] at next
      split at next
      · rename_i main
        split at next
        · rename_i c ctl
          cases next
          exact .loop (by simp [Guard, ctl]) (by simp [main, Main.building]) rfl
        · rename_i ctl
          cases next
          exact .nil (by simp [Guard, ctl])
      · cases next
  | wake =>
      simp only [run] at next
      split at next
      · rename_i c main
        split at next
        · cases next
          exact .loop trivial (by simp [main, Main.building]) rfl
        · cases next
      · cases next
  | check =>
      simp only [run] at next
      split at next
      · rename_i main
        have before : s.main.building = none := by simp [main, Main.building]
        split at next
        · cases next
          exact .loop trivial before rfl
        · split at next
          · cases next
            exact .loop trivial before before
          · cases next
            exact .loop trivial before rfl
      · cases next
  | sleep =>
      simp only [run] at next
      split at next
      · rename_i main
        cases next
        exact .loop trivial (by simp [main, Main.building]) rfl
      · cases next
  | recheck =>
      simp only [run] at next
      split at next
      · rename_i main
        cases next
        refine .loop trivial (by simp [main, Main.building]) ?_
        split <;> rfl
      · cases next
  | login ok =>
      simp only [run] at next
      split at next
      · rename_i main
        split at next
        · cases next
          exact .login main
        · cases next
          exact .loop trivial (by simp [main, Main.building]) rfl
      · cases next
  | run =>
      simp only [run] at next
      split at next
      · rename_i c main
        cases next
        exact .run main
      · cases next
  | lock =>
      simp only [run] at next
      split at next
      · rename_i c main
        split at next
        · rename_i free
          cases next
          refine .lock main fun i call here => ?_
          simpa [here] using free i (GoMap.mem_keys_iff.2 ⟨call, here⟩)
        · cases next
      · cases next
  | closeOld =>
      simp only [run] at next
      split at next
      · rename_i c main
        split at next
        · rename_i old ctl
          cases next
          exact .closeOld main old ctl
        · rename_i ctl
          cases next
          exact .noOld main ctl
      · cases next
  | publish =>
      simp only [run] at next
      split at next
      · rename_i c main
        cases next
        exact .publish main
      · cases next
  | close =>
      cases next
      exact .close
  | rlock i =>
      simp only [run] at next
      split at next
      · rename_i here
        split at next
        · cases next
        · rename_i free
          cases next
          exact .call trivial here (.rlock (by simpa using free))
      · cases next
  | test i =>
      simp only [run] at next
      split at next
      · rename_i here
        cases next
        refine .call trivial here ?_
        cases ctl : s.ctl with
        | none => exact .skip ctl
        | some c => exact .found
      · cases next
  | readClose i =>
      simp only [run] at next
      split at next
      · rename_i here
        split at next
        · rename_i c ctl
          cases next
          exact .call (by simp [Guard, ctl]) here (.read ctl)
        · rename_i ctl
          cases next
          exact .nil (by simp [Guard, ctl])
      · cases next
  | closeConn i =>
      simp only [run] at next
      split at next
      · rename_i c here
        cases next
        exact .closeConn here
      · cases next
  | setNil i =>
      simp only [run] at next
      split at next
      · rename_i here
        cases next
        exact .setNil here
      · cases next
  | runlock i =>
      simp only [run] at next
      split at next
      · rename_i here
        cases next
        exact .call trivial here .runlock
      · cases next
  | cancel i =>
      simp only [run] at next
      split at next
      · rename_i here
        cases next
        exact .cancel here
      · cases next
  | lose c =>
      simp only [run] at next
      split at next
      · cases next
        exact .drop trivial (by decide)
      · cases next
  | finish c =>
      simp only [run] at next
      split at next
      · cases next
        exact .drop trivial (by decide)
      · cases next

theorem step_run (next : step s l = some t) :
    s.panicked = false ∧ s.exited = false ∧ run s l = some t := by
  unfold step at next
  split at next
  · cases next
  · rename_i alive
    simp only [Bool.or_eq_true, not_or, Bool.not_eq_true] at alive
    exact ⟨alive.1, alive.2, next⟩

theorem step_moves (next : step s l = some t) : Moves s l t := run_moves (step_run next).2.2

/-! ## What the condition keeps -/

/-- The call goes on to close the control, if it is still in place. -/
def Call.Closes (c : Nat) : Call → Prop
  | .entered | .holding | .checked => True
  | .closing d => d = c
  | _ => False

/-- What a call that holds the lock has found or left in place. -/
def Call.Fits (s : State) : Call → Prop
  | .closing c => s.ctl = none ∨ s.ctl = some c
  | .closed => ∀ c, s.ctl = some c → s.controls c ≠ .live
  | .leaving => s.ctl = none
  | _ => True

structure Kept (s : State) : Prop where
  live : ∀ c, s.controls c = .live → s.ctl = some c ∨ s.main.building = some c
  replaced : ∀ c d, s.main = .replacing c → s.ctl = some d → s.controls d ≠ .live
  known : ∀ c, s.ctl = some c → c < s.next
  building : ∀ c, s.main.building = some c → c < s.next ∧ s.ctl ≠ some c
  open_ : s.exit = false → (∀ i, s.calls.get i = none) ∧ s.returned = false
  begun : s.exit = true → s.returned = true ∨ ∃ i, s.calls.get i ≠ none
  /-- A control that is in place after a close has begun will be closed. -/
  closes : ∀ c, s.ctl = some c → s.controls c = .live → s.exit = true →
    ∃ i call, s.calls.get i = some call ∧ call.Closes c
  locks : s.main.writes = true → ∀ i call, s.calls.get i = some call → call.reads = false
  fits : ∀ i call, s.calls.get i = some call → call.Fits s
  fresh : ∀ i, s.nextCall ≤ i → s.calls.get i = none
  inTime : s.startedLate = false
  nilFree : s.panicked = false

theorem kept_start : Kept start where
  live c live := by
    by_cases here : c = 0
    · exact .inl (congrArg some here.symm)
    · simp [start, here] at live
  replaced c d main := by cases main
  known c ctl := by
    cases ctl
    decide
  building c main := by cases main
  open_ _ := ⟨fun i => by simp [start], rfl⟩
  begun exit := by cases exit
  closes c _ _ exit := by cases exit
  locks main := by cases main
  fits i call here := by simp [start] at here
  fresh i _ := by simp [start]
  inTime := rfl
  nilFree := rfl

theorem Kept.final (kept : Kept s) : Final s := by
  refine ⟨fun _ returned idle waits c live => ?_, kept.inTime, kept.nilFree⟩
  have building : s.main.building = none := by
    rcases waits with main | ⟨d, main, -⟩
    · rw [main]
      rfl
    · rw [main]
      rfl
  have ctl : s.ctl = some c := (kept.live c live).resolve_right (by simp [building])
  have exit : s.exit = true := by
    by_contra no
    simp [(kept.open_ (by simpa using no)).2] at returned
  obtain ⟨i, call, here, -⟩ := kept.closes c ctl live exit
  simp [idle i] at here

theorem Main.writes_of_building_none {main : Main} (none_ : main.building = none) :
    main.writes = false := by
  cases main <;> simp_all [Main.building, Main.writes]

theorem Next.fits {call call' : Call} (next : Next s call call') (fits : call.Fits s) :
    call'.Fits s := by
  cases next with
  | rlock | found | runlock => trivial
  | skip nil => exact nil
  | read ctl => exact .inr ctl

theorem Next.closes {call call' : Call} {c : Nat} (next : Next s call call')
    (ctl : s.ctl = some c) (fits : call.Fits s) (closes : call.Closes c) : call'.Closes c := by
  cases next with
  | rlock | found => trivial
  | skip nil => simp [nil] at ctl
  | read ctl' =>
      rw [ctl] at ctl'
      cases ctl'
      rfl
  | runlock => exact closes

theorem Next.reads {call call' : Call} (next : Next s call call') :
    call'.reads = true → call.reads = true ∨ s.main.writes = false := by
  cases next with
  | rlock free => exact fun _ => .inr free
  | found | skip | read => exact fun _ => .inl rfl
  | runlock => exact fun reads => by cases reads

/-- The loop goes on where it has no new control. -/
theorem Kept.loop (kept : Kept s) {main : Main} (before : s.main.building = none)
    (after : main.building = none) (reconnectCounts : Nat) (exited : Bool) :
    Kept { s with main := main, reconnectCounts := reconnectCounts, exited := exited } :=
  { kept with
    live := by
      intro c live
      exact .inl ((kept.live c live).resolve_right (by simp [before]))
    replaced := by
      rintro c d rfl
      cases after
    building := by
      intro c building
      rw [after] at building
      cases building
    locks := by
      intro writes
      rw [Main.writes_of_building_none after] at writes
      cases writes }

/-- The loop goes on with its new control. -/
theorem Kept.goOn (kept : Kept s) {main : Main} (building : main.building = s.main.building)
    (replaced : ∀ c d, main = .replacing c → s.ctl = some d → s.controls d ≠ .live)
    (locks : ∀ i call, s.calls.get i = some call → call.reads = false) :
    Kept { s with main := main } :=
  { kept with
    live := fun c live => building ▸ kept.live c live
    replaced := replaced
    building := fun c built => kept.building c (building ▸ built)
    locks := fun _ => locks }

/-- A control is closed, is lost or ends. -/
theorem Kept.drop (kept : Kept s) (c : Nat) {stage : Stage} (less : stage ≠ .live) :
    Kept (s.setStage c stage) := by
  have before : ∀ d, (s.setStage c stage).controls d = .live → s.controls d = .live := by
    intro d live
    by_cases here : d = c
    · simp [State.setStage, here, less] at live
    · simpa [State.setStage, here] using live
  exact { kept with
    live := fun d live => kept.live d (before d live)
    replaced := fun d old main ctl live => kept.replaced d old main ctl (before old live)
    closes := fun d ctl live => kept.closes d ctl (before d live)
    fits := by
      intro i call here
      have fits := kept.fits i call here
      cases call with
      | closed => exact fun d ctl live => fits d ctl (before d live)
      | _ => exact fits }

/-- `svr.ctl = nil` -/
theorem Kept.unset (kept : Kept s) (closed : ∀ c, s.ctl = some c → s.controls c ≠ .live) :
    Kept { s with ctl := none } :=
  { kept with
    live := fun c live => .inr ((kept.live c live).resolve_left fun ctl => closed c ctl live)
    replaced := fun _ _ _ ctl => by cases ctl
    known := fun _ ctl => by cases ctl
    building := fun c building => ⟨(kept.building c building).1, by simp⟩
    closes := fun _ ctl => by cases ctl
    fits := by
      intro i call _
      cases call with
      | closing c => exact .inl rfl
      | closed => exact fun _ ctl => by cases ctl
      | leaving => rfl
      | _ => trivial }

/-- A close goes on. -/
theorem Kept.setCall (kept : Kept s) {i : Nat} {call call' : Call}
    (here : s.calls.get i = some call) (fits : call'.Fits s)
    (closes : ∀ c, s.ctl = some c → s.controls c = .live → call.Closes c → call'.Closes c)
    (reads : call'.reads = true → call.reads = true ∨ s.main.writes = false) :
    Kept (s.setCall i call') := by
  have other : ∀ j, j ≠ i → (s.setCall i call').calls.get j = s.calls.get j := by
    intro j differs
    simp [State.setCall, differs]
  have this : (s.setCall i call').calls.get i = some call' := by simp [State.setCall]
  exact { kept with
    open_ := by
      intro exit
      have idle := (kept.open_ exit).1 i
      rw [here] at idle
      cases idle
    begun := fun _ => .inr ⟨i, by simp [this]⟩
    closes := by
      intro c ctl live exit
      obtain ⟨j, callJ, found, closesJ⟩ := kept.closes c ctl live exit
      by_cases same : j = i
      · subst same
        rw [here] at found
        cases found
        exact ⟨j, call', this, closes c ctl live closesJ⟩
      · exact ⟨j, callJ, (other j same).trans found, closesJ⟩
    locks := by
      intro writes j callJ found
      by_cases same : j = i
      · subst same
        rw [this] at found
        cases found
        by_contra holds
        rcases reads (by simpa using holds) with held | free
        · simp [kept.locks writes j call here] at held
        · exact absurd writes (by simp [State.setCall, free])
      · exact kept.locks writes j callJ ((other j same).symm.trans found)
    fits := by
      intro j callJ found
      by_cases same : j = i
      · subst same
        rw [this] at found
        cases found
        exact fits
      · exact kept.fits j callJ ((other j same).symm.trans found)
    fresh := by
      intro j new
      have differs : j ≠ i := by
        rintro rfl
        simp [kept.fresh j new] at here
      exact (other j differs).trans (kept.fresh j new) }

theorem Kept.moves (kept : Kept s) (guarded : Guard s l) (moves : Moves s l t) : Kept t := by
  cases moves with
  | loop good before after => exact kept.loop before after _ _
  | nil bad => exact absurd guarded bad
  | login main =>
      refine { kept with live := ?_, replaced := ?_, known := ?_, building := ?_, locks := ?_ }
      · intro c live
        exact .inl ((kept.live c live).resolve_right (by simp [main, Main.building]))
      · intro c d main
        cases main
      · intro c ctl
        exact Nat.lt_succ_of_lt (kept.known c ctl)
      · intro c building
        cases building
        exact ⟨Nat.lt_succ_self _, fun ctl => absurd (kept.known _ ctl) (Nat.lt_irrefl _)⟩
      · intro writes
        cases writes
  | @run c main =>
      have building := kept.building c (by rw [main]; rfl)
      have before : ∀ d, d ≠ c → (s.setStage c .live).controls d = s.controls d := by
        intro d other
        simp [State.setStage, other]
      have apart : ∀ d, s.ctl = some d → d ≠ c := by
        rintro d ctl rfl
        exact building.2 ctl
      refine { kept with live := ?_, replaced := ?_, closes := ?_, building := ?_, locks := ?_,
                         fits := ?_, inTime := ?_ }
      · intro d live
        by_cases here : d = c
        · exact .inr (by rw [here]; rfl)
        · refine .inl ((kept.live d ((before d here).symm.trans live)).resolve_right ?_)
          simpa [main, Main.building] using Ne.symm here
      · intro d old main
        cases main
      · intro d same
        cases same
        exact building
      · intro d ctl live exit
        exact kept.closes d ctl ((before d (apart d ctl)).symm.trans live) exit
      · intro writes
        cases writes
      · intro i call here
        have fits := kept.fits i call here
        cases call with
        | closed => exact fun d ctl live => fits d ctl ((before d (apart d ctl)).symm.trans live)
        | _ => exact fits
      · have guarded : s.returned = false := guarded
        simp [kept.inTime, guarded]
  | lock main free =>
      refine kept.goOn (by rw [main]; rfl) ?_ free
      intro c d main
      cases main
  | @closeOld c main old ctl =>
      have drop := kept.drop old (s.controls old).drop_ne_live
      refine drop.goOn (congrArg Main.building main).symm ?_ (kept.locks (by rw [main]; rfl))
      intro _ d _ ctl'
      have same : d = old := Option.some.inj (Eq.trans (Eq.symm ctl') ctl)
      simp [State.setStage, same, Stage.drop_ne_live]
  | noOld main nil =>
      refine kept.goOn (by rw [main]; rfl) ?_ (kept.locks (by rw [main]; rfl))
      intro _ d _ ctl
      simp [nil] at ctl
  | @publish c main =>
      have free := kept.locks (by rw [main]; rfl)
      refine { kept with live := ?_, replaced := ?_, known := ?_, building := ?_, closes := ?_,
                         locks := ?_, fits := ?_ }
      · intro d live
        rcases kept.live d live with ctl | building
        · exact absurd live (kept.replaced c d main ctl)
        · exact .inl (by simpa [main, Main.building] using building)
      · intro c d main
        cases main
      · rintro d ⟨⟩
        exact (kept.building c (by rw [main]; rfl)).1
      · intro d building
        cases building
      · rintro d ⟨⟩ live exit
        obtain ⟨i, here⟩ := guarded c main live exit
        exact ⟨i, .entered, here, trivial⟩
      · intro writes
        cases writes
      · intro i call here
        have free := free i call here
        cases call with
        | entered | cancelling => trivial
        | _ => cases free
  | close =>
      have new : s.calls.get s.nextCall = none := kept.fresh _ (Nat.le_refl _)
      refine { kept with open_ := ?_, begun := ?_, closes := ?_, locks := ?_, fits := ?_,
                         fresh := ?_ }
      · intro exit
        cases exit
      · exact fun _ => .inr ⟨s.nextCall, by simp⟩
      · intro c _ _ _
        exact ⟨s.nextCall, .entered, by simp, trivial⟩
      · intro writes i call found
        rcases GoMap.get_set_eq_some.1 found with ⟨rfl, rfl⟩ | ⟨-, found⟩
        · rfl
        · exact kept.locks writes i call found
      · intro i call found
        rcases GoMap.get_set_eq_some.1 found with ⟨rfl, rfl⟩ | ⟨-, found⟩
        · trivial
        · exact kept.fits i call found
      · intro i later
        have differs : i ≠ s.nextCall := by
          have later : s.nextCall + 1 ≤ i := later
          omega
        simp [differs, kept.fresh i (Nat.le_of_succ_le later)]
  | call good here next =>
      have fits := kept.fits _ _ here
      exact kept.setCall here (next.fits fits) (fun c ctl _ => next.closes ctl fits) next.reads
  | @closeConn i c here =>
      have fits := kept.fits _ _ here
      refine (kept.drop c (s.controls c).drop_ne_live).setCall here ?_ ?_ (fun _ => .inl rfl)
      · intro d ctl
        have same : d = c := by
          rcases fits with nil | some_
          · exact absurd ctl (by simp [State.setStage, nil])
          · exact Option.some.inj (Eq.trans (Eq.symm ctl) some_)
        subst same
        simp [State.setStage, Stage.drop_ne_live]
      · intro d _ live closes
        have same : c = d := closes
        subst same
        exact absurd live (by simp [State.setStage, Stage.drop_ne_live])
  | @setNil i here =>
      exact (kept.unset (kept.fits i .closed here)).setCall here rfl
        (fun c ctl => by cases ctl) (fun _ => .inl rfl)
  | @cancel i here =>
      have after {j : Nat} {call : Call} (found : s.calls.get j = some call)
          (other : call ≠ .cancelling) : (s.calls.delete i).get j = some call := by
        have differs : j ≠ i := by
          rintro rfl
          rw [here] at found
          cases found
          exact other rfl
        simpa [differs] using found
      refine { kept with open_ := ?_, begun := ?_, closes := ?_, locks := ?_, fits := ?_,
                         fresh := ?_ }
      · intro exit
        have idle := (kept.open_ exit).1 i
        rw [here] at idle
        cases idle
      · exact fun _ => .inl rfl
      · intro c ctl live exit
        obtain ⟨j, call, found, closes⟩ := kept.closes c ctl live exit
        exact ⟨j, call, after found (by rintro rfl; exact closes), closes⟩
      · intro writes j call found
        exact kept.locks writes j call (GoMap.get_delete_eq_some.1 found).2
      · intro j call found
        exact kept.fits j call (GoMap.get_delete_eq_some.1 found).2
      · exact fun j new => GoMap.get_delete_eq_none (kept.fresh j new)
  | drop good less => exact kept.drop _ less

/-! ## When a control is left over -/

/-- A control is in place that no close will see. -/
structure Orphan (s : State) : Prop where
  alive : s.panicked = false ∧ s.exited = false
  begun : s.returned = true ∨ ∃ i, s.calls.get i ≠ none
  loop : s.main = .top ∨ ∃ c, s.main = .waiting c ∧ s.ctl = some c
  live : ∃ c, s.ctl = some c ∧ s.controls c = .live
  looked : ∀ i call, s.calls.get i = some call → call = .cancelling

/-- The steps until the loop waits and the closes have returned. -/
def State.left (s : State) : Nat := (if s.main = .top then 1 else 0) + s.calls.keys.card

theorem Orphan.goes_on (orphan : Orphan s) (still : Final s) :
    ∃ l t, step s l = some t ∧ Orphan t ∧ t.left < s.left := by
  obtain ⟨c, ctl, live⟩ := orphan.live
  have alive : (s.panicked || s.exited) = false := by simp [orphan.alive]
  rcases orphan.loop with top | ⟨d, waits, same⟩
  · have next : step s .readCtl = some { s with main := .waiting c } := by
      simp [step, alive, run, top, ctl]
    refine ⟨.readCtl, _, next, ⟨orphan.alive, orphan.begun, .inr ⟨c, rfl, ctl⟩, ⟨c, ctl, live⟩,
      orphan.looked⟩, ?_⟩
    simp [State.left, top]
  · rw [ctl] at same
    cases same
    rcases s.calls.forall_get_none_or with idle | ⟨i, call, here⟩
    · have returned : s.returned = true := orphan.begun.resolve_right fun ⟨i, busy⟩ => busy (idle i)
      have idles : Idle s := .inr ⟨c, waits, by simp [live]⟩
      exact absurd live (still.left_ orphan.alive.2 returned idle idles c)
    · obtain rfl := orphan.looked i call here
      have next : step s (.cancel i) =
          some { s with calls := s.calls.delete i, returned := true } := by
        simp [step, alive, run, here]
      refine ⟨.cancel i, _, next, ⟨orphan.alive, .inl rfl, .inr ⟨c, waits, ctl⟩, ⟨c, ctl, live⟩,
        ?_⟩, ?_⟩
      · intro j call found
        exact orphan.looked j call (GoMap.get_delete_eq_some.1 found).2
      · have less := GoMap.card_delete_lt here
        simpa [State.left] using less

theorem Orphan.breaks (orphan : Orphan s) : CanReach step (fun u => ¬ Final u) s := by
  refine canReach_of_measure Orphan State.left ?_ orphan
  intro u orphan final
  exact orphan.goes_on (Classical.not_not.1 final)

theorem breaks_of_not_guard (kept : Kept s) (breaks : ¬ Guard s l) (next : step s l = some t) :
    ∃ more, ¬ Along step (fun _ _ u => Final u) s (l :: more) := by
  apply not_along_of_canReach next
  have alive := step_run next
  cases step_moves next with
  | loop good | call good | drop good => exact absurd good breaks
  | nil bad => exact .here fun final => by cases final.nilFree
  | run main =>
      have returned : s.returned = true := by simpa [Guard] using breaks
      exact .here fun final => by simpa [returned] using final.inTime
  | @publish c main =>
      have free := kept.locks (by rw [main]; rfl)
      simp only [Guard, main, Main.replacing.injEq, forall_eq', Classical.not_imp] at breaks
      obtain ⟨live, exit, none_⟩ := breaks
      refine Orphan.breaks ⟨⟨alive.1, alive.2.1⟩, kept.begun exit, .inl rfl, ⟨c, rfl, live⟩, ?_⟩
      intro i call here
      have free := free i call here
      cases call with
      | entered => exact absurd ⟨i, here⟩ none_
      | cancelling => rfl
      | _ => cases free
  | _ => exact absurd trivial breaks

/-! ## All runs -/

end ChmlFrp.Client.Service
