/-
# ChmlFrp.Client.Reload — configurations that change while the client reconnects

`Run`, `keepControllerWorking` and `ReloadConf` of `client/service.go`, with `NewControl`,
`Run`, `worker`, `ReloadConf` and `Close` of `client/control.go` and the two `Reload` of
`proxy_manager.go` and `visitor_manager.go`.  `ReloadConf` stores the configurations and
then reloads the control that it finds; the main goroutine reads the stored ones for a new
control, without the lock, and publishes the control when it runs.

What a control runs is the proxies of its manager and the configurations of the visitor
manager, which starts their visitors and tries again those that do not start.  A
connection can be lost as soon as the worker of its control has started.

* `reload_eq`: both `Reload` leave what they are given, in whatever order they go through.
* `reload_kept`: the condition under which no reload is lost, and no nil control is used.
* `reload_lost`: a reload between the reads for a new control and its publication.
* `twoReloads`: two reloads that store and reload in different orders.
-/
import ChmlFrp.Lib.GoMap
import ChmlFrp.Lib.Transition
import Mathlib.Logic.Function.Basic

namespace ChmlFrp.Client.Reload

set_option autoImplicit false

universe u

open ChmlFrp.Lib
open ChmlFrp.Lib.Transition

/-! ## The loops of `Reload` -/

/-- The orders in which the two loops go through their maps. -/
structure Range where
  old : List String
  new : List String
  deriving DecidableEq, Repr

section Loops

variable {γ : Type u} [DecidableEq γ]

/-- Running entries that are not wanted any more, or not as they are, are stopped. -/
def stopLoop (range : List String) (new running : GoMap String γ) : GoMap String γ :=
  range.foldl
    (fun running name => if new.get name = running.get name then running else running.delete name)
    running

/-- Entries that do not run are started. -/
def startLoop (range : List String) (new running : GoMap String γ) : GoMap String γ :=
  range.foldl
    (fun running name =>
      match running.get name, new.get name with
      | none, some cfg => running.set name cfg
      | _, _ => running)
    running

def reload (range : Range) (running new : GoMap String γ) : GoMap String γ :=
  startLoop range.new new (stopLoop range.old new running)

/-- The loops go through the two maps. -/
def Ranges (range : Range) (running new : GoMap String γ) : Prop :=
  range.old.Nodup ∧ range.old.toFinset = running.keys ∧
    range.new.Nodup ∧ range.new.toFinset = new.keys

instance (range : Range) (running new : GoMap String γ) : Decidable (Ranges range running new) :=
  instDecidableAnd

theorem get_stopLoop (range : List String) (new running : GoMap String γ) (name : String) :
    (stopLoop range new running).get name =
      if name ∈ range ∧ new.get name ≠ running.get name then none else running.get name := by
  induction range generalizing running with
  | nil => simp [stopLoop]
  | cons first rest ih =>
      have next : stopLoop (first :: rest) new running = stopLoop rest new
          (if new.get first = running.get first then running else running.delete first) := rfl
      rw [next, ih]
      by_cases same : name = first
      · subst same
        by_cases wanted : new.get name = running.get name
        · simp [wanted]
        · simp [wanted]
      · by_cases wanted : new.get first = running.get first
        · simp [wanted, same]
        · simp [wanted, same]

omit [DecidableEq γ] in
theorem get_startLoop (range : List String) (new running : GoMap String γ) (name : String) :
    (startLoop range new running).get name =
      if name ∈ range ∧ running.get name = none then new.get name else running.get name := by
  induction range generalizing running with
  | nil => simp [startLoop]
  | cons first rest ih =>
      have next : startLoop (first :: rest) new running = startLoop rest new
          (match running.get first, new.get first with
            | none, some cfg => running.set first cfg
            | _, _ => running) := rfl
      rw [next, ih]
      cases here : running.get first with
      | some cfg =>
          by_cases same : name = first
          · subst same
            simp [here]
          · simp [same]
      | none =>
          cases wanted : new.get first with
          | none =>
              by_cases same : name = first
              · subst same
                simp [here, wanted]
              · simp [same]
          | some cfg =>
              by_cases same : name = first
              · subst same
                simp [here, wanted]
              · simp [same]

/-- **`Reload` leaves exactly what it is given.** -/
theorem reload_eq {range : Range} {running new : GoMap String γ}
    (ranges : Ranges range running new) : reload range running new = new := by
  obtain ⟨-, old, -, news⟩ := ranges
  apply Finmap.ext_lookup
  intro name
  show (reload range running new).get name = new.get name
  rw [reload, get_startLoop, get_stopLoop]
  have in_old : name ∈ range.old ↔ ∃ cfg, running.get name = some cfg := by
    rw [← List.mem_toFinset, old, GoMap.mem_keys_iff]
  have in_new : name ∈ range.new ↔ ∃ cfg, new.get name = some cfg := by
    rw [← List.mem_toFinset, news, GoMap.mem_keys_iff]
  cases runs : running.get name with
  | none =>
      cases wanted : new.get name with
      | none => simp
      | some cfg => simp [in_new, wanted]
  | some cfg =>
      by_cases same : new.get name = some cfg
      · simp [same]
      · cases wanted : new.get name with
        | none => simp [in_old, runs]
        | some cfg' =>
            rw [wanted] at same
            simp [in_old, in_new, runs, wanted, same]

end Loops

/-! ## The machine -/

inductive Stage where
  /-- The worker has not started. -/
  | new
  | live
  /-- The connection is lost; `pm.Close` is next. -/
  | lost
  /-- `vm.Close` and the close of `closedDoneCh` are next. -/
  | stopped
  | done
  deriving DecidableEq, Repr

/-- The connection of the control is closed. -/
def Stage.dropped : Stage → Stage
  | .live => .lost
  | stage => stage

structure Control (α β : Type u) where
  pxyCfgs : GoMap String α
  /-- The configurations of the running proxies, `pm.proxies`. -/
  proxies : GoMap String α
  /-- `vm.cfgs` -/
  cfgs : GoMap String β
  stage : Stage

/-- Where the main goroutine is: first in `Run`, then in `keepControllerWorking`. -/
inductive Main (α β : Type u) where
  | login
  /-- Reads the arguments of `NewControl`. -/
  | reading (pxyCfgs : Option (GoMap String α)) (visitorCfgs : Option (GoMap String β))
  /-- Has a new control, and is before `go ctl.worker()`, -/
  | created (c : Nat)
  /-- before `pm.Reload`, -/
  | started (c : Nat)
  /-- before `ctlMu.Lock`, -/
  | running (c : Nat)
  /-- before the close of the old control, -/
  | locked (c : Nat)
  /-- before the assignment. -/
  | replacing (c : Nat)
  /-- For `ClosedDoneCh`. -/
  | waiting
  | exited
  deriving DecidableEq

def Main.readPxyCfgs {α β : Type u} : Main α β → Option (GoMap String α)
  | .reading pxyCfgs _ => pxyCfgs
  | _ => none

def Main.readVisitorCfgs {α β : Type u} : Main α β → Option (GoMap String β)
  | .reading _ visitorCfgs => visitorCfgs
  | _ => none

/-- The control that is built and not published. -/
def Main.building {α β : Type u} : Main α β → Option Nat
  | .created c => some c
  | .started c => some c
  | .running c => some c
  | .locked c => some c
  | .replacing c => some c
  | _ => none

/-- The control that is built, when its proxies were started. -/
def Main.ran {α β : Type u} : Main α β → Option Nat
  | .running c => some c
  | .locked c => some c
  | .replacing c => some c
  | _ => none

/-- Nothing is read and nothing is built. -/
def Main.idle {α β : Type u} : Main α β → Bool
  | .login => true
  | .reading none none => true
  | .waiting => true
  | .exited => true
  | _ => false

theorem Main.building_of_ran {α β : Type u} {main : Main α β} {c : Nat}
    (ran : main.ran = some c) : main.building = some c := by
  cases main with
  | running c' | locked c' | replacing c' => exact ran
  | _ => cases ran

theorem Main.unread_of_building {α β : Type u} {main : Main α β} {c : Nat}
    (building : main.building = some c) :
    main.readPxyCfgs = none ∧ main.readVisitorCfgs = none := by
  cases main with
  | reading pxyCfgs visitorCfgs => cases building
  | _ => exact ⟨rfl, rfl⟩

theorem Main.unread_of_idle {α β : Type u} {main : Main α β} (idle : main.idle = true) :
    main.readPxyCfgs = none ∧ main.readVisitorCfgs = none ∧ main.building = none := by
  cases main with
  | reading pxyCfgs visitorCfgs =>
      cases pxyCfgs with
      | some p => cases idle
      | none =>
          cases visitorCfgs with
          | some v => cases idle
          | none => exact ⟨rfl, rfl, rfl⟩
  | login | waiting | exited => exact ⟨rfl, rfl, rfl⟩
  | _ => cases idle

inductive Phase where
  /-- Holds `cfgMu`, and has stored the proxies. -/
  | storing
  | stored
  /-- Has found a control that is not nil. -/
  | checked
  /-- `vm.Reload` is next, on the control of the second read. -/
  | reloading (c : Nat)
  /-- `pm.Reload` is next. -/
  | last (c : Nat)
  deriving DecidableEq, Repr

/-- The control that the call goes on to reload. -/
def Phase.on : Phase → Option Nat
  | .reloading c => some c
  | .last c => some c
  | _ => none

def Phase.visitorsDone : Phase → Bool
  | .last _ => true
  | _ => false

/-- A `ReloadConf` in progress. -/
structure Call (α β : Type u) where
  pxyCfgs : GoMap String α
  visitorCfgs : GoMap String β
  phase : Phase

structure State (α β : Type u) where
  pxyCfgs : GoMap String α
  visitorCfgs : GoMap String β
  cfgMu : Bool
  ctl : Option Nat
  controls : Nat → Control α β
  /-- The next control. -/
  next : Nat
  main : Main α β
  reconnectCounts : Nat
  calls : GoMap Nat (Call α β)
  nextCall : Nat
  /-- A nil control was used. -/
  panicked : Bool

section Machine

variable {α β : Type u}

/-- `NewService`, and `Run` up to the login. -/
def start (pxyCfgs : GoMap String α) (visitorCfgs : GoMap String β) : State α β :=
  ⟨pxyCfgs, visitorCfgs, false, none, fun _ => ⟨∅, ∅, ∅, .new⟩, 0, .login, 0, ∅, 0, false⟩

def maxReconnects : Nat := 3

namespace State

variable (s : State α β)

def setControl (c : Nat) (ctl : Control α β) : State α β :=
  { s with controls := Function.update s.controls c ctl }

def setCall (i : Nat) (call : Call α β) : State α β := { s with calls := s.calls.set i call }

/-- `ctlMu` is held for writing. -/
def ctlLocked : Bool :=
  match s.main with
  | .locked _ => true
  | .replacing _ => true
  | _ => false

end State

inductive Label (α β : Type u) where
  /-- `ReloadConf`: the first assignment under `cfgMu`. -/
  | reloadConf (pxyCfgs : GoMap String α) (visitorCfgs : GoMap String β)
  | storeVisitors (i : Nat)
  /-- The read under `ctlMu`, with the test for nil. -/
  | check (i : Nat)
  /-- The read for the call of the control's `ReloadConf`. -/
  | deref (i : Nat)
  | reloadVisitors (i : Nat) (range : Range)
  | reloadProxies (i : Nat) (range : Range)
  | login (ok : Bool)
  | readProxies
  | readVisitors
  | newControl (range : Range)
  | startWorker
  | runProxies (range : Range)
  | lock
  | closeOld
  | publish
  | wake
  /-- The worker of a control. -/
  | lose (c : Nat)
  | closeProxies (c : Nat)
  | finish (c : Nat)

def step [DecidableEq α] [DecidableEq β] (s : State α β) : Label α β → Option (State α β)
  | .reloadConf pxyCfgs visitorCfgs =>
      if s.cfgMu then none
      else
        some
          { s with
            cfgMu := true
            pxyCfgs := pxyCfgs
            calls := s.calls.set s.nextCall ⟨pxyCfgs, visitorCfgs, .storing⟩
            nextCall := s.nextCall + 1 }
  | .storeVisitors i =>
      match s.calls.get i with
      | some ⟨pxyCfgs, visitorCfgs, .storing⟩ =>
          some
            { s.setCall i ⟨pxyCfgs, visitorCfgs, .stored⟩ with
              cfgMu := false
              visitorCfgs := visitorCfgs }
      | _ => none
  | .check i =>
      match s.calls.get i with
      | some ⟨pxyCfgs, visitorCfgs, .stored⟩ =>
          if s.ctlLocked then none
          else
            match s.ctl with
            | none => some { s with calls := s.calls.delete i }
            | some _ => some (s.setCall i ⟨pxyCfgs, visitorCfgs, .checked⟩)
      | _ => none
  | .deref i =>
      match s.calls.get i with
      | some ⟨pxyCfgs, visitorCfgs, .checked⟩ =>
          match s.ctl with
          | none => some { s with panicked := true }
          | some c => some (s.setCall i ⟨pxyCfgs, visitorCfgs, .reloading c⟩)
      | _ => none
  | .reloadVisitors i range =>
      match s.calls.get i with
      | some ⟨pxyCfgs, visitorCfgs, .reloading c⟩ =>
          if Ranges range (s.controls c).cfgs visitorCfgs then
            some
              ((s.setControl c
                  { s.controls c with cfgs := reload range (s.controls c).cfgs visitorCfgs }).setCall
                i ⟨pxyCfgs, visitorCfgs, .last c⟩)
          else none
      | _ => none
  | .reloadProxies i range =>
      match s.calls.get i with
      | some ⟨pxyCfgs, _, .last c⟩ =>
          if Ranges range (s.controls c).proxies pxyCfgs then
            some
              { s.setControl c
                { s.controls c with proxies := reload range (s.controls c).proxies pxyCfgs } with
                calls := s.calls.delete i }
          else none
      | _ => none
  | .login ok =>
      match s.main with
      | .login =>
          if ok then some { s with main := .reading none none, reconnectCounts := 0 }
          else
            match s.ctl with
            -- In `Run`.
            | none => some { s with main := .exited }
            | some _ => some { s with main := .waiting }
      | _ => none
  | .readProxies =>
      match s.main with
      | .reading none visitorCfgs => some { s with main := .reading (some s.pxyCfgs) visitorCfgs }
      | _ => none
  | .readVisitors =>
      match s.main with
      | .reading pxyCfgs none => some { s with main := .reading pxyCfgs (some s.visitorCfgs) }
      | _ => none
  | .newControl range =>
      match s.main with
      | .reading (some pxyCfgs) (some visitorCfgs) =>
          if Ranges range ∅ visitorCfgs then
            some
              { s.setControl s.next ⟨pxyCfgs, ∅, reload range ∅ visitorCfgs, .new⟩ with
                next := s.next + 1
                main := .created s.next }
          else none
      | _ => none
  | .startWorker =>
      match s.main with
      | .created c =>
          some { s.setControl c { s.controls c with stage := .live } with main := .started c }
      | _ => none
  | .runProxies range =>
      match s.main with
      | .started c =>
          let ctl := s.controls c
          if Ranges range ctl.proxies ctl.pxyCfgs then
            some
              { s.setControl c { ctl with proxies := reload range ctl.proxies ctl.pxyCfgs } with
                main := .running c }
          else none
      | _ => none
  | .lock =>
      match s.main with
      | .running c => some { s with main := .locked c }
      | _ => none
  | .closeOld =>
      match s.main with
      | .locked c =>
          match s.ctl with
          | none => some { s with main := .replacing c }
          | some old =>
              some
                { s.setControl old
                  { s.controls old with
                    proxies := ∅
                    stage := (s.controls old).stage.dropped } with
                  main := .replacing c }
      | _ => none
  | .publish =>
      match s.main with
      | .replacing c => some { s with ctl := some c, main := .waiting }
      | _ => none
  | .wake =>
      match s.main with
      | .waiting =>
          match s.ctl with
          | none => some { s with panicked := true }
          | some c =>
              if (s.controls c).stage = .done then
                if maxReconnects ≤ s.reconnectCounts then some { s with main := .exited }
                else some { s with main := .login, reconnectCounts := s.reconnectCounts + 1 }
              else none
      | _ => none
  | .lose c =>
      if (s.controls c).stage = .live then
        some (s.setControl c { s.controls c with stage := .lost })
      else none
  | .closeProxies c =>
      if (s.controls c).stage = .lost then
        some (s.setControl c { s.controls c with proxies := ∅, stage := .stopped })
      else none
  | .finish c =>
      if (s.controls c).stage = .stopped then
        some (s.setControl c { s.controls c with stage := .done })
      else none

/-! ## What is to hold, and when it does -/

/-- With no call in progress and the main goroutine waiting for a control that is
connected, the control runs what is stored; and no nil control was used. -/
structure Kept (s : State α β) : Prop where
  runs : (∀ i, s.calls.get i = none) → s.main = .waiting → ∀ c, s.ctl = some c →
    (s.controls c).stage = .live →
      (s.controls c).proxies = s.pxyCfgs ∧ (s.controls c).cfgs = s.visitorCfgs
  nilFree : s.panicked = false

/-- The call is still to reload the control in use, or whichever is when it reads `svr.ctl`. -/
def Reaches (s : State α β) (call : Call α β) : Prop :=
  ∀ c ∈ call.phase.on, s.ctl = some c ∧ (s.controls c).stage = .live

/-- What was read for a new control is not what is stored. -/
inductive Stale (s : State α β) : Prop where
  | readProxies {pxyCfgs : GoMap String α} : s.main.readPxyCfgs = some pxyCfgs →
      pxyCfgs ≠ s.pxyCfgs → Stale s
  | readVisitors {visitorCfgs : GoMap String β} : s.main.readVisitorCfgs = some visitorCfgs →
      visitorCfgs ≠ s.visitorCfgs → Stale s
  | built {c : Nat} : s.main.building = some c →
      (s.controls c).stage = .new ∨ (s.controls c).stage = .live →
      (s.controls c).pxyCfgs ≠ s.pxyCfgs ∨ (s.controls c).cfgs ≠ s.visitorCfgs → Stale s

/-- A call other than `i` has not read `svr.ctl` yet. -/
def AnotherEarly (s : State α β) (i : Nat) : Prop :=
  ∃ j ∈ s.calls.keys, j ≠ i ∧ ∃ call ∈ s.calls.get j, call.phase.on.isNone = true

/-- A call stores what the calls that are still to reload the same control reload; and a
call does not leave a new control behind that was built from older configurations. -/
def Guard (s : State α β) : Label α β → Prop
  | .reloadConf pxyCfgs _ => ∀ j ∈ s.calls.keys, ∀ call ∈ s.calls.get j, Reaches s call →
      call.pxyCfgs = pxyCfgs
  | .storeVisitors i => ∀ call ∈ s.calls.get i, ∀ j ∈ s.calls.keys, ∀ call' ∈ s.calls.get j,
      j ≠ i → Reaches s call' → call'.phase.visitorsDone = false →
        call'.visitorCfgs = call.visitorCfgs
  | .check i => s.ctl = none → Stale s → AnotherEarly s i
  | .deref i => Stale s → AnotherEarly s i
  | _ => True

section Decidable

variable [DecidableEq α] [DecidableEq β]

instance (s : State α β) : Decidable (Kept s) :=
  decidable_of_iff
    ((s.calls.keys = ∅ → s.main = .waiting → ∀ c ∈ s.ctl, (s.controls c).stage = .live →
        (s.controls c).proxies = s.pxyCfgs ∧ (s.controls c).cfgs = s.visitorCfgs) ∧
      s.panicked = false) <| by
    constructor
    · rintro ⟨runs, nilFree⟩
      refine ⟨fun quiet => runs ?_, nilFree⟩
      ext i
      rw [GoMap.mem_keys_iff, quiet i]
      simp
    · rintro ⟨runs, nilFree⟩
      exact ⟨fun empty => runs fun i => GoMap.get_eq_none_of_keys empty i, nilFree⟩

instance (s : State α β) (call : Call α β) : Decidable (Reaches s call) := by
  unfold Reaches
  infer_instance

instance (s : State α β) (i : Nat) : Decidable (AnotherEarly s i) := by
  unfold AnotherEarly
  infer_instance

instance (s : State α β) : Decidable (Stale s) :=
  decidable_of_iff
    ((∃ p ∈ s.main.readPxyCfgs, p ≠ s.pxyCfgs) ∨ (∃ v ∈ s.main.readVisitorCfgs, v ≠ s.visitorCfgs) ∨
      ∃ c ∈ s.main.building, ((s.controls c).stage = .new ∨ (s.controls c).stage = .live) ∧
        ((s.controls c).pxyCfgs ≠ s.pxyCfgs ∨ (s.controls c).cfgs ≠ s.visitorCfgs)) <| by
    constructor
    · rintro (⟨p, read, other⟩ | ⟨v, read, other⟩ | ⟨c, building, stage, other⟩)
      · exact .readProxies read other
      · exact .readVisitors read other
      · exact .built building stage other
    · intro stale
      cases stale with
      | readProxies read other => exact .inl ⟨_, read, other⟩
      | readVisitors read other => exact .inr (.inl ⟨_, read, other⟩)
      | built building stage other => exact .inr (.inr ⟨_, building, stage, other⟩)

instance (s : State α β) (l : Label α β) : Decidable (Guard s l) := by
  cases l <;> (unfold Guard; infer_instance)

end Decidable

/-! ## The invariant -/

structure Inv (s : State α β) : Prop where
  calls : ∀ i, s.nextCall ≤ i → s.calls.get i = none
  proxies : ∀ i call, s.calls.get i = some call → Reaches s call → call.pxyCfgs = s.pxyCfgs
  visitors : ∀ i call, s.calls.get i = some call → Reaches s call →
    call.phase.visitorsDone = false → call.phase ≠ .storing → call.visitorCfgs = s.visitorCfgs
  stale : Stale s → ∃ i call, s.calls.get i = some call ∧ call.phase.on = none
  runsProxies : ∀ c, s.ctl = some c → (s.controls c).stage = .live →
    (s.controls c).proxies = s.pxyCfgs ∨ ∃ i call, s.calls.get i = some call ∧ Reaches s call
  runsVisitors : ∀ c, s.ctl = some c → (s.controls c).stage = .live →
    (s.controls c).cfgs = s.visitorCfgs ∨
      ∃ i call, s.calls.get i = some call ∧ Reaches s call ∧ call.phase.visitorsDone = false
  ran : ∀ c, s.main.ran = some c → (s.controls c).stage = .live →
    (s.controls c).proxies = (s.controls c).pxyCfgs
  building : ∀ c, s.main.building = some c → c < s.next ∧ s.ctl ≠ some c
  created : ∀ c, s.main = .created c → (s.controls c).stage = .new
  published : ∀ c, s.ctl = some c → c < s.next
  on : ∀ i call c, s.calls.get i = some call → call.phase.on = some c →
    c < s.next ∧ s.main.building ≠ some c
  /-- The main goroutine leaves a control when it is done. -/
  left_ : s.main ≠ .waiting → ∀ c, s.ctl = some c → (s.controls c).stage ≠ .live
  checked : ∀ i call, s.calls.get i = some call → call.phase = .checked → s.ctl.isSome = true
  waiting : s.main = .waiting → s.ctl.isSome = true
  nilFree : s.panicked = false

theorem start_inv (pxyCfgs : GoMap String α) (visitorCfgs : GoMap String β) :
    Inv (start pxyCfgs visitorCfgs) where
  calls i _ := by simp [start]
  proxies i call found := by simp [start] at found
  visitors i call found := by simp [start] at found
  stale stale := by
    cases stale with
    | readProxies main => cases main
    | readVisitors main => cases main
    | built main => cases main
  runsProxies c ctl := by cases ctl
  runsVisitors c ctl := by cases ctl
  ran c main := by cases main
  building c main := by cases main
  created c main := by cases main
  published c ctl := by cases ctl
  on i call c found := by simp [start] at found
  left_ _ c ctl := by cases ctl
  checked i call found := by simp [start] at found
  waiting main := by cases main
  nilFree := rfl

variable {s t : State α β}

theorem Inv.kept (inv : Inv s) : Kept s where
  runs quiet _ c ctl live := by
    have none_left : ∀ {i call}, s.calls.get i ≠ some call := by
      intro i call found
      rw [quiet i] at found
      cases found
    constructor
    · rcases inv.runsProxies c ctl live with runs | ⟨i, call, found, -⟩
      · exact runs
      · exact absurd found none_left
    · rcases inv.runsVisitors c ctl live with runs | ⟨i, call, found, -⟩
      · exact runs
      · exact absurd found none_left
  nilFree := inv.nilFree

theorem Stale.congr (stale : Stale t) (main : t.main = s.main) (controls : t.controls = s.controls)
    (pxyCfgs : t.pxyCfgs = s.pxyCfgs) (visitorCfgs : t.visitorCfgs = s.visitorCfgs) : Stale s := by
  cases stale with
  | readProxies reading other =>
      rw [main] at reading
      rw [pxyCfgs] at other
      exact .readProxies reading other
  | readVisitors reading other =>
      rw [main] at reading
      rw [visitorCfgs] at other
      exact .readVisitors reading other
  | built building stage other =>
      rw [main] at building
      rw [controls] at stage other
      rw [pxyCfgs, visitorCfgs] at other
      exact .built building stage other

/-- Of the controls, `Reaches` sees whether the current one is connected. -/
theorem reaches_congr {call : Call α β} (ctl : t.ctl = s.ctl)
    (stage : ∀ c, s.ctl = some c → (t.controls c).stage = (s.controls c).stage) :
    Reaches t call ↔ Reaches s call := by
  unfold Reaches
  rw [ctl]
  constructor
  · intro reaches c on
    obtain ⟨current, connected⟩ := reaches c on
    rw [stage c current] at connected
    exact ⟨current, connected⟩
  · intro reaches c on
    obtain ⟨current, connected⟩ := reaches c on
    rw [← stage c current] at connected
    exact ⟨current, connected⟩

/-- A step of the main goroutine that the calls do not see: the control in use is the same,
and so is what is stored. -/
structure Unseen (s t : State α β) : Prop where
  calls : t.calls = s.calls
  ctl : t.ctl = s.ctl
  control : ∀ c, s.ctl = some c → t.controls c = s.controls c
  pxyCfgs : t.pxyCfgs = s.pxyCfgs
  visitorCfgs : t.visitorCfgs = s.visitorCfgs

theorem Unseen.reaches (unseen : Unseen s t) {call : Call α β} :
    Reaches t call ↔ Reaches s call := by
  apply reaches_congr unseen.ctl
  intro c current
  rw [unseen.control c current]

theorem Unseen.proxies (unseen : Unseen s t) (inv : Inv s) (i : Nat) (call : Call α β)
    (found : t.calls.get i = some call) (reaches : Reaches t call) :
    call.pxyCfgs = t.pxyCfgs := by
  rw [unseen.calls] at found
  rw [unseen.pxyCfgs]
  exact inv.proxies i call found (unseen.reaches.1 reaches)

theorem Unseen.visitors (unseen : Unseen s t) (inv : Inv s) (i : Nat) (call : Call α β)
    (found : t.calls.get i = some call) (reaches : Reaches t call)
    (due : call.phase.visitorsDone = false) (stored : call.phase ≠ .storing) :
    call.visitorCfgs = t.visitorCfgs := by
  rw [unseen.calls] at found
  rw [unseen.visitorCfgs]
  exact inv.visitors i call found (unseen.reaches.1 reaches) due stored

theorem Unseen.runsProxies (unseen : Unseen s t) (inv : Inv s) (c : Nat)
    (current : t.ctl = some c) (live : (t.controls c).stage = .live) :
    (t.controls c).proxies = t.pxyCfgs ∨
      ∃ i call, t.calls.get i = some call ∧ Reaches t call := by
  rw [unseen.ctl] at current
  rw [unseen.control c current] at live ⊢
  rw [unseen.calls, unseen.pxyCfgs]
  rcases inv.runsProxies c current live with runs | ⟨i, call, found, reaches⟩
  · exact .inl runs
  · exact .inr ⟨i, call, found, unseen.reaches.2 reaches⟩

theorem Unseen.runsVisitors (unseen : Unseen s t) (inv : Inv s) (c : Nat)
    (current : t.ctl = some c) (live : (t.controls c).stage = .live) :
    (t.controls c).cfgs = t.visitorCfgs ∨
      ∃ i call, t.calls.get i = some call ∧ Reaches t call ∧ call.phase.visitorsDone = false := by
  rw [unseen.ctl] at current
  rw [unseen.control c current] at live ⊢
  rw [unseen.calls, unseen.visitorCfgs]
  rcases inv.runsVisitors c current live with runs | ⟨i, call, found, reaches, due⟩
  · exact .inl runs
  · exact .inr ⟨i, call, found, unseen.reaches.2 reaches, due⟩

/-- The main goroutine is not waiting, and so the control in use is done. -/
theorem Unseen.left_ (unseen : Unseen s t) (inv : Inv s) (away : s.main ≠ .waiting) (c : Nat)
    (current : t.ctl = some c) : (t.controls c).stage ≠ .live := by
  rw [unseen.ctl] at current
  rw [unseen.control c current]
  exact inv.left_ away c current

/-! ## Steps of the workers and of the main goroutine -/

theorem setControl_of_ne {c c' : Nat} {ctl : Control α β} (other : c' ≠ c) :
    (s.setControl c ctl).controls c' = s.controls c' := Function.update_of_ne other ..

theorem setControl_self {c : Nat} {ctl : Control α β} :
    (s.setControl c ctl).controls c = ctl := Function.update_self ..

/-- A control loses its connection, or changes when it has lost it. -/
theorem Inv.drop (inv : Inv s) {c : Nat} {ctl : Control α β} (lost : ctl.stage ≠ .live)
    (old : s.main.building = some c → ctl.stage ≠ .new ∧ (s.controls c).stage ≠ .new) :
    Inv (s.setControl c ctl) := by
  have live : ∀ {c'}, ((s.setControl c ctl).controls c').stage = .live → c' ≠ c := by
    rintro c' live rfl
    rw [setControl_self] at live
    exact lost live
  have reaches : ∀ {call}, Reaches (s.setControl c ctl) call → Reaches s call := by
    intro call reaches c' on
    obtain ⟨current, connected⟩ := reaches c' on
    refine ⟨current, ?_⟩
    rw [setControl_of_ne (live connected)] at connected
    exact connected
  have still : ∀ {c' call}, s.ctl = some c' → c' ≠ c → Reaches s call →
      Reaches (s.setControl c ctl) call := by
    intro c' call current other reaches c'' on
    obtain ⟨current', connected⟩ := reaches c'' on
    cases current.symm.trans current'
    refine ⟨current, ?_⟩
    rw [setControl_of_ne other]
    exact connected
  refine ⟨inv.calls, ?_, ?_, ?_, ?_, ?_, ?_, inv.building, ?_, inv.published, inv.on, ?_,
    inv.checked, inv.waiting, inv.nilFree⟩
  · intro i call found is
    exact inv.proxies i call found (reaches is)
  · intro i call found is
    exact inv.visitors i call found (reaches is)
  · intro stale
    apply inv.stale
    cases stale with
    | readProxies main other => exact .readProxies main other
    | readVisitors main other => exact .readVisitors main other
    | @built c' main stage other =>
        by_cases same : c' = c
        · subst same
          rw [setControl_self] at stage
          rcases stage with new | connected
          · exact absurd new (old main).1
          · exact absurd connected lost
        · rw [setControl_of_ne same] at stage other
          exact .built main stage other
  · intro c' current connected
    have other := live connected
    rw [setControl_of_ne other] at connected ⊢
    rcases inv.runsProxies c' current connected with runs | ⟨i, call, found, is⟩
    · exact .inl runs
    · exact .inr ⟨i, call, found, still current other is⟩
  · intro c' current connected
    have other := live connected
    rw [setControl_of_ne other] at connected ⊢
    rcases inv.runsVisitors c' current connected with runs | ⟨i, call, found, is, due⟩
    · exact .inl runs
    · exact .inr ⟨i, call, found, still current other is, due⟩
  · intro c' main connected
    have other := live connected
    rw [setControl_of_ne other] at connected ⊢
    exact inv.ran c' main connected
  · intro c' (main : s.main = .created c')
    have new := inv.created c' main
    have other : c' ≠ c := by
      rintro rfl
      exact (old (by rw [main]; rfl)).2 new
    rw [setControl_of_ne other]
    exact new
  · intro main c' current connected
    have other := live connected
    rw [setControl_of_ne other] at connected
    exact inv.left_ main c' current connected

/-- A step of the worker. -/
theorem Inv.dropStage (inv : Inv s) {c : Nat} {ctl : Control α β} {was : Stage}
    (stage : (s.controls c).stage = was) (started : was ≠ .new) (lost : ctl.stage ≠ .live)
    (kept : ctl.stage ≠ .new) : Inv (s.setControl c ctl) := by
  refine inv.drop lost fun _ => ⟨kept, ?_⟩
  rw [stage]
  exact started

/-- The main goroutine goes on with the control that it has, or without one. -/
theorem Inv.setMain (inv : Inv s) {main : Main α β} (counts : Nat)
    (building : main.building = s.main.building) (ran : ∀ c, main.ran = some c →
      (s.controls c).stage = .live → (s.controls c).proxies = (s.controls c).pxyCfgs)
    (stale : Stale { s with main := main } →
      ∃ i call, s.calls.get i = some call ∧ call.phase.on = none)
    (created : ∀ c, main ≠ .created c)
    (left_ : main ≠ .waiting → ∀ c, s.ctl = some c → (s.controls c).stage ≠ .live)
    (waiting : main = .waiting → s.ctl.isSome = true) :
    Inv { s with main := main, reconnectCounts := counts } := by
  have stale' : Stale { s with main := main, reconnectCounts := counts } →
      ∃ i call, s.calls.get i = some call ∧ call.phase.on = none :=
    fun is => stale (is.congr rfl rfl rfl rfl)
  refine ⟨inv.calls, inv.proxies, inv.visitors, stale', inv.runsProxies, inv.runsVisitors, ran,
    ?_, ?_, inv.published, ?_, left_, inv.checked, waiting, inv.nilFree⟩
  · intro c is
    exact inv.building c (building.symm.trans is)
  · intro c is
    exact absurd is (created c)
  · intro i call c found on
    obtain ⟨less, other⟩ := inv.on i call c found on
    exact ⟨less, fun is => other (building.symm.trans is)⟩

/-- The main goroutine rests without a new control, and has read nothing. -/
theorem Inv.setIdle (inv : Inv s) {main : Main α β} (counts : Nat)
    (was : s.main.building = none) (idle : main.idle = true)
    (left_ : ∀ c, s.ctl = some c → (s.controls c).stage ≠ .live)
    (waiting : main = .waiting → s.ctl.isSome = true) :
    Inv { s with main := main, reconnectCounts := counts } := by
  obtain ⟨noProxies, noVisitors, building⟩ := Main.unread_of_idle idle
  refine inv.setMain counts (building.trans was.symm) ?_ ?_ ?_ (fun _ => left_) waiting
  · intro c ran
    cases building.symm.trans (Main.building_of_ran ran)
  · intro stale
    cases stale with
    | readProxies is => cases noProxies.symm.trans is
    | readVisitors is => cases noVisitors.symm.trans is
    | built is => cases building.symm.trans is
  · rintro c rfl
    cases idle

/-- The main goroutine goes on with a control whose proxies were started. -/
theorem Inv.setRan (inv : Inv s) {c : Nat} {main : Main α β} (was : s.main.ran = some c)
    (ran : main.ran = some c) : Inv { s with main := main } := by
  have building := Main.building_of_ran was
  have built := Main.building_of_ran ran
  refine inv.setMain s.reconnectCounts (built.trans building.symm) ?_ ?_ ?_ ?_ ?_
  · intro c' is connected
    exact inv.ran c' (was.trans (ran.symm.trans is)) connected
  · intro stale
    apply inv.stale
    cases stale with
    | readProxies is => cases (Main.unread_of_building built).1.symm.trans is
    | readVisitors is => cases (Main.unread_of_building built).2.symm.trans is
    | built is stage other =>
        exact .built (building.trans (built.symm.trans is)) stage other
  · rintro c' rfl
    cases ran
  · intro _
    apply inv.left_
    intro waiting
    rw [waiting] at was
    cases was
  · rintro rfl
    cases ran

/-- The control that is built changes, and keeps the configurations it was built from. -/
theorem Inv.build (inv : Inv s) {c : Nat} {ctl : Control α β} {main : Main α β}
    (was : s.main.building = some c) (building : main.building = some c)
    (pxyCfgs : ctl.pxyCfgs = (s.controls c).pxyCfgs) (cfgs : ctl.cfgs = (s.controls c).cfgs)
    (stage : ctl.stage = .new ∨ ctl.stage = .live →
      (s.controls c).stage = .new ∨ (s.controls c).stage = .live)
    (ran : main.ran = some c → ctl.proxies = ctl.pxyCfgs) (created : main ≠ .created c) :
    Inv { s.setControl c ctl with main := main } := by
  obtain ⟨less, unpublished⟩ := inv.building c was
  have unseen : Unseen s { s.setControl c ctl with main := main } := by
    refine ⟨rfl, rfl, ?_, rfl, rfl⟩
    intro c' current
    apply setControl_of_ne
    rintro rfl
    exact unpublished current
  obtain ⟨noProxies, noVisitors⟩ := Main.unread_of_building building
  have only : ∀ {c'}, main.building = some c' → c' = c := by
    intro c' is
    exact Option.some.inj (is.symm.trans building)
  have away : s.main ≠ .waiting := by
    intro waiting
    rw [waiting] at was
    cases was
  refine ⟨inv.calls, unseen.proxies inv, unseen.visitors inv, ?_, unseen.runsProxies inv,
    unseen.runsVisitors inv, ?_, ?_, ?_, inv.published, ?_, fun _ => unseen.left_ inv away,
    inv.checked, ?_, inv.nilFree⟩
  · intro stale
    apply inv.stale
    cases stale with
    | readProxies is => cases noProxies.symm.trans is
    | readVisitors is => cases noVisitors.symm.trans is
    | @built c' is fresh other =>
        have same := only is
        subst same
        simp only [setControl_self] at fresh other
        rw [pxyCfgs, cfgs] at other
        exact .built was (stage fresh) other
  · intro c' is _
    have same : c' = c := only (Main.building_of_ran is)
    subst same
    simp only [setControl_self]
    exact ran is
  · intro c' is
    rw [only is]
    exact ⟨less, unpublished⟩
  · intro c' (is : main = .created c')
    have same : c' = c := by
      apply only
      rw [is]
      rfl
    rw [same] at is
    exact absurd is created
  · intro i call c' found on
    obtain ⟨less', other⟩ := inv.on i call c' found on
    refine ⟨less', fun is => other ?_⟩
    rw [only is]
    exact was
  · intro (waiting : main = .waiting)
    rw [waiting] at building
    cases building

/-- `NewControl` -/
theorem Inv.newControl (inv : Inv s) {pxyCfgs proxies : GoMap String α}
    {visitorCfgs : GoMap String β}
    (main : s.main = .reading (some pxyCfgs) (some visitorCfgs)) :
    Inv
      { s.setControl s.next ⟨pxyCfgs, proxies, visitorCfgs, .new⟩ with
        next := s.next + 1
        main := .created s.next } := by
  have unseen : Unseen s
      { s.setControl s.next ⟨pxyCfgs, proxies, visitorCfgs, .new⟩ with
        next := s.next + 1
        main := .created s.next } :=
    ⟨rfl, rfl, fun c current => setControl_of_ne (Nat.ne_of_lt (inv.published c current)), rfl, rfl⟩
  have away : s.main ≠ .waiting := by
    intro waiting
    cases main.symm.trans waiting
  refine ⟨inv.calls, unseen.proxies inv, unseen.visitors inv, ?_, unseen.runsProxies inv,
    unseen.runsVisitors inv, ?_, ?_, ?_, ?_, ?_, fun _ => unseen.left_ inv away, inv.checked, ?_,
    inv.nilFree⟩
  · intro stale
    apply inv.stale
    cases stale with
    | readProxies main => cases main
    | readVisitors main => cases main
    | built is _ other =>
        cases is
        simp only [setControl_self] at other
        rcases other with other | other
        · exact .readProxies (by rw [main]; rfl) other
        · exact .readVisitors (by rw [main]; rfl) other
  · intro c is
    cases is
  · intro c is
    cases is
    exact ⟨Nat.lt_succ_self _, fun here => Nat.lt_irrefl _ (inv.published _ here)⟩
  · intro c is
    cases is
    simp only [setControl_self]
  · intro c is
    exact Nat.lt_succ_of_lt (inv.published c is)
  · intro i call c found on
    have less := (inv.on i call c found on).1
    refine ⟨Nat.lt_succ_of_lt less, fun is => ?_⟩
    cases is
    exact Nat.lt_irrefl _ less
  · intro waiting
    cases waiting

/-- The new control becomes the current one. -/
theorem Inv.publish (inv : Inv s) {c : Nat} (main : s.main = .replacing c) :
    Inv { s with ctl := some c, main := .waiting } := by
  have building : s.main.building = some c := by
    rw [main]
    rfl
  have unread : ∀ {i call}, s.calls.get i = some call →
      Reaches { s with ctl := some c, main := .waiting } call → call.phase.on = none := by
    intro i call found reaches
    cases on : call.phase.on with
    | none => rfl
    | some c' =>
        cases (reaches c' on).1
        exact absurd building (inv.on i call c found on).2
  have early : ∀ {call : Call α β}, call.phase.on = none → ∀ {s : State α β}, Reaches s call := by
    intro call unread s c' on
    rw [unread] at on
    cases on
  refine ⟨inv.calls, ?_, ?_, ?_, ?_, ?_, ?_, ?_, ?_, ?_, ?_, ?_, ?_, ?_, inv.nilFree⟩
  · intro i call found reaches
    exact inv.proxies i call found (early (unread found reaches))
  · intro i call found reaches
    exact inv.visitors i call found (early (unread found reaches))
  · intro stale
    cases stale with
    | readProxies main => cases main
    | readVisitors main => cases main
    | built main => cases main
  · intro c' current connected
    cases current
    by_cases same : (s.controls c).pxyCfgs = s.pxyCfgs
    · refine .inl ((inv.ran c ?_ connected).trans same)
      rw [main]
      rfl
    · obtain ⟨i, call, found, unread⟩ := inv.stale (.built building (.inr connected) (.inl same))
      exact .inr ⟨i, call, found, early unread⟩
  · intro c' current connected
    cases current
    by_cases same : (s.controls c).cfgs = s.visitorCfgs
    · exact .inl same
    · obtain ⟨i, call, found, unread⟩ := inv.stale (.built building (.inr connected) (.inr same))
      refine .inr ⟨i, call, found, early unread, ?_⟩
      cases phase : call.phase with
      | last c' =>
          rw [phase] at unread
          cases unread
      | storing | stored | checked | reloading c' => rfl
  · intro c' is
    cases is
  · intro c' is
    cases is
  · intro c' is
    cases is
  · intro c' current
    cases current
    exact (inv.building c building).1
  · intro i call c' found on
    exact ⟨(inv.on i call c' found on).1, fun is => by cases is⟩
  · intro leaves
    exact absurd rfl leaves
  · intro i call found checked
    rfl
  · intro _
    rfl

/-! ## Steps of the calls -/

/-- A call that has not read `svr.ctl` reaches whatever control there will be. -/
theorem reaches_of_early {call : Call α β} (early : call.phase.on = none) : Reaches s call := by
  intro c on
  rw [early] at on
  cases on

theorem Inv.reloadConf (inv : Inv s) {pxyCfgs : GoMap String α} {visitorCfgs : GoMap String β}
    (guard : ∀ j call, s.calls.get j = some call → Reaches s call → call.pxyCfgs = pxyCfgs) :
    Inv
      { s with
        cfgMu := true
        pxyCfgs := pxyCfgs
        calls := s.calls.set s.nextCall ⟨pxyCfgs, visitorCfgs, .storing⟩
        nextCall := s.nextCall + 1 } := by
  have own : (s.calls.set s.nextCall ⟨pxyCfgs, visitorCfgs, .storing⟩).get s.nextCall =
      some ⟨pxyCfgs, visitorCfgs, .storing⟩ := GoMap.get_set_eq_some.2 (.inl ⟨rfl, rfl⟩)
  refine ⟨?_, ?_, ?_, ?_, ?_, ?_, inv.ran, inv.building, inv.created, inv.published, ?_,
    inv.left_, ?_, inv.waiting, inv.nilFree⟩
  · intro i large
    have later : i ≠ s.nextCall := Nat.ne_of_gt large
    simp only [GoMap.get_set, if_neg later]
    exact inv.calls i (Nat.le_of_succ_le large)
  · intro i call found reaches
    rcases GoMap.get_set_eq_some.1 found with ⟨-, rfl⟩ | ⟨-, old⟩
    · rfl
    · exact guard i call old reaches
  · intro i call found reaches due stored
    rcases GoMap.get_set_eq_some.1 found with ⟨-, rfl⟩ | ⟨-, old⟩
    · exact absurd rfl stored
    · exact inv.visitors i call old reaches due stored
  · intro _
    exact ⟨s.nextCall, _, own, rfl⟩
  · intro c _ _
    exact .inr ⟨s.nextCall, _, own, reaches_of_early rfl⟩
  · intro c _ _
    exact .inr ⟨s.nextCall, _, own, reaches_of_early rfl, rfl⟩
  · intro i call c found on
    rcases GoMap.get_set_eq_some.1 found with ⟨-, rfl⟩ | ⟨-, old⟩
    · cases on
    · exact inv.on i call c old on
  · intro i call found checked
    rcases GoMap.get_set_eq_some.1 found with ⟨-, rfl⟩ | ⟨-, old⟩
    · cases checked
    · exact inv.checked i call old checked

theorem Inv.calls_set (inv : Inv s) {i : Nat} {call call' : Call α β}
    (found : s.calls.get i = some call) (j : Nat) (large : s.nextCall ≤ j) :
    (s.calls.set i call').get j = none :=
  GoMap.get_set_eq_none found (inv.calls j large)

theorem Inv.storeVisitors (inv : Inv s) {i : Nat} {pxyCfgs : GoMap String α}
    {visitorCfgs : GoMap String β} (found : s.calls.get i = some ⟨pxyCfgs, visitorCfgs, .storing⟩)
    (guard : ∀ j call, s.calls.get j = some call → j ≠ i → Reaches s call →
      call.phase.visitorsDone = false → call.visitorCfgs = visitorCfgs) :
    Inv
      { s.setCall i ⟨pxyCfgs, visitorCfgs, .stored⟩ with
        cfgMu := false
        visitorCfgs := visitorCfgs } := by
  have own : (s.calls.set i ⟨pxyCfgs, visitorCfgs, .stored⟩).get i =
      some ⟨pxyCfgs, visitorCfgs, .stored⟩ := GoMap.get_set_eq_some.2 (.inl ⟨rfl, rfl⟩)
  refine ⟨inv.calls_set found, ?_, ?_, ?_, ?_, ?_, inv.ran, inv.building, inv.created,
    inv.published, ?_, inv.left_, ?_, inv.waiting, inv.nilFree⟩
  · intro j call found' reaches
    rcases GoMap.get_set_eq_some.1 found' with ⟨-, rfl⟩ | ⟨-, old⟩
    · have same : pxyCfgs = s.pxyCfgs := inv.proxies i _ found (reaches_of_early rfl)
      exact same
    · exact inv.proxies j call old reaches
  · intro j call found' reaches due _
    rcases GoMap.get_set_eq_some.1 found' with ⟨-, rfl⟩ | ⟨other, old⟩
    · rfl
    · exact guard j call old other reaches due
  · intro _
    exact ⟨i, _, own, rfl⟩
  · intro c _ _
    exact .inr ⟨i, _, own, reaches_of_early rfl⟩
  · intro c _ _
    exact .inr ⟨i, _, own, reaches_of_early rfl, rfl⟩
  · intro j call c found' on
    rcases GoMap.get_set_eq_some.1 found' with ⟨-, rfl⟩ | ⟨-, old⟩
    · cases on
    · exact inv.on j call c old on
  · intro j call found' checked
    rcases GoMap.get_set_eq_some.1 found' with ⟨-, rfl⟩ | ⟨-, old⟩
    · cases checked
    · exact inv.checked j call old checked

/-- A call that has stored goes on, and is still to reload all of the current control. -/
theorem Inv.setPhase (inv : Inv s) {i : Nat} {pxyCfgs : GoMap String α}
    {visitorCfgs : GoMap String β} {was phase : Phase}
    (found : s.calls.get i = some ⟨pxyCfgs, visitorCfgs, was⟩) (early : was.on = none)
    (stored : was ≠ .storing) (due : phase.visitorsDone = false)
    (stale : Stale s → phase.on = none ∨ AnotherEarly s i)
    (current : ∀ c, phase.on = some c → s.ctl = some c ∧ s.main.building ≠ some c)
    (checked : phase = .checked → s.ctl.isSome = true) :
    Inv (s.setCall i ⟨pxyCfgs, visitorCfgs, phase⟩) := by
  have own : (s.calls.set i ⟨pxyCfgs, visitorCfgs, phase⟩).get i =
      some ⟨pxyCfgs, visitorCfgs, phase⟩ := GoMap.get_set_eq_some.2 (.inl ⟨rfl, rfl⟩)
  have notDone : was.visitorsDone = false := by
    cases was with
    | last c => cases early
    | _ => rfl
  have reaches : ∀ {c}, s.ctl = some c → (s.controls c).stage = .live →
      Reaches (s.setCall i ⟨pxyCfgs, visitorCfgs, phase⟩) ⟨pxyCfgs, visitorCfgs, phase⟩ := by
    intro c is connected c' on
    have here := (current c' on).1
    cases is.symm.trans here
    exact ⟨here, connected⟩
  refine ⟨inv.calls_set found, ?_, ?_, ?_, ?_, ?_, inv.ran, inv.building, inv.created,
    inv.published, ?_, inv.left_, ?_, inv.waiting, inv.nilFree⟩
  · intro j call found' is
    rcases GoMap.get_set_eq_some.1 found' with ⟨-, rfl⟩ | ⟨-, old⟩
    · have same : pxyCfgs = s.pxyCfgs := inv.proxies i _ found (reaches_of_early early)
      exact same
    · exact inv.proxies j call old is
  · intro j call found' is due' stored'
    rcases GoMap.get_set_eq_some.1 found' with ⟨-, rfl⟩ | ⟨-, old⟩
    · have same : visitorCfgs = s.visitorCfgs :=
        inv.visitors i _ found (reaches_of_early early) notDone stored
      exact same
    · exact inv.visitors j call old is due' stored'
  · intro is
    have is' : Stale s := is.congr rfl rfl rfl rfl
    rcases stale is' with unread | ⟨j, -, other, call, found', unread⟩
    · exact ⟨i, _, own, unread⟩
    · exact ⟨j, call, GoMap.get_set_eq_some.2 (.inr ⟨other, found'⟩),
        Option.isNone_iff_eq_none.1 unread⟩
  · intro c is connected
    rcases inv.runsProxies c is connected with runs | ⟨j, call, found', reach⟩
    · exact .inl runs
    · by_cases same : j = i
      · exact .inr ⟨i, _, own, reaches is connected⟩
      · exact .inr ⟨j, call, GoMap.get_set_eq_some.2 (.inr ⟨same, found'⟩), reach⟩
  · intro c is connected
    rcases inv.runsVisitors c is connected with runs | ⟨j, call, found', reach, due'⟩
    · exact .inl runs
    · by_cases same : j = i
      · exact .inr ⟨i, _, own, reaches is connected, due⟩
      · exact .inr ⟨j, call, GoMap.get_set_eq_some.2 (.inr ⟨same, found'⟩), reach, due'⟩
  · intro j call c found' on
    rcases GoMap.get_set_eq_some.1 found' with ⟨-, rfl⟩ | ⟨-, old⟩
    · obtain ⟨here, unbuilt⟩ := current c on
      exact ⟨inv.published c here, unbuilt⟩
    · exact inv.on j call c old on
  · intro j call found' is
    rcases GoMap.get_set_eq_some.1 found' with ⟨-, rfl⟩ | ⟨-, old⟩
    · exact checked is
    · exact inv.checked j call old is

/-- A call that finds no control returns. -/
theorem Inv.noControl (inv : Inv s) {i : Nat} (ctl : s.ctl = none)
    (stale : Stale s → AnotherEarly s i) : Inv { s with calls := s.calls.delete i } := by
  have nobody : ∀ {c}, s.ctl = some c → False := by
    intro c is
    rw [ctl] at is
    cases is
  refine ⟨?_, ?_, ?_, ?_, fun c is => (nobody is).elim, fun c is => (nobody is).elim, inv.ran,
    inv.building, inv.created, inv.published, ?_, inv.left_, ?_, inv.waiting, inv.nilFree⟩
  · intro j large
    exact GoMap.get_delete_eq_none (inv.calls j large)
  · intro j call found
    exact inv.proxies j call (GoMap.get_delete_eq_some.1 found).2
  · intro j call found
    exact inv.visitors j call (GoMap.get_delete_eq_some.1 found).2
  · intro is
    have is' : Stale s := is.congr rfl rfl rfl rfl
    obtain ⟨j, -, other, call, found, unread⟩ := stale is'
    exact ⟨j, call, GoMap.get_delete_eq_some.2 ⟨other, found⟩,
      Option.isNone_iff_eq_none.1 unread⟩
  · intro j call c found
    exact inv.on j call c (GoMap.get_delete_eq_some.1 found).2
  · intro j call found
    exact inv.checked j call (GoMap.get_delete_eq_some.1 found).2

/-- A call that is on a control reloads some of it: the control stays where it is, and the
call goes on or returns. -/
structure Reloads (s : State α β) (i c : Nat) (call : Call α β) (ctl : Control α β)
    (calls : GoMap Nat (Call α β)) : Prop where
  found : s.calls.get i = some call
  on : call.phase.on = some c
  stage : ctl.stage = (s.controls c).stage
  rest : ∀ j call', calls.get j = some call' → j ≠ i → s.calls.get j = some call'
  others : ∀ j call', s.calls.get j = some call' → j ≠ i → calls.get j = some call'
  own : ∀ call', calls.get i = some call' → call'.phase.on = some c ∧
    call'.pxyCfgs = call.pxyCfgs ∧ call'.phase.visitorsDone = true

section Reloads

variable {i c : Nat} {call : Call α β} {ctl : Control α β} {calls : GoMap Nat (Call α β)}

theorem Reloads.stages (reloads : Reloads s i c call ctl calls) (c' : Nat) :
    ((s.setControl c ctl).controls c').stage = (s.controls c').stage := by
  by_cases same : c' = c
  · subst same
    rw [setControl_self, reloads.stage]
  · rw [setControl_of_ne same]

theorem Reloads.reaches (reloads : Reloads s i c call ctl calls) {call' : Call α β} :
    Reaches { s.setControl c ctl with calls := calls } call' ↔ Reaches s call' :=
  reaches_congr rfl fun c' _ => reloads.stages c'

/-- What is left of the call reaches what the call reached. -/
theorem Reloads.own_reaches (reloads : Reloads s i c call ctl calls) {call' : Call α β}
    (found : calls.get i = some call') : Reaches s call' ↔ Reaches s call := by
  have on := (reloads.own call' found).1
  unfold Reaches
  rw [on, reloads.on]

/-- The call does not reach a control other than `c`. -/
theorem Reloads.other_call (reloads : Reloads s i c call ctl calls) {c' j : Nat}
    {call' : Call α β} (current : s.ctl = some c') (other : c' ≠ c)
    (found : s.calls.get j = some call') (reaches : Reaches s call') : j ≠ i := by
  rintro rfl
  cases reloads.found.symm.trans found
  exact other (Option.some.inj (current.symm.trans (reaches c reloads.on).1))

theorem Reloads.calls_none (reloads : Reloads s i c call ctl calls) (inv : Inv s) (j : Nat)
    (large : s.nextCall ≤ j) : calls.get j = none := by
  have gone := inv.calls j large
  by_cases same : j = i
  · subst same
    cases reloads.found.symm.trans gone
  · cases there : calls.get j with
    | none => rfl
    | some call' => cases (reloads.rest j call' there same).symm.trans gone

theorem Reloads.stale (reloads : Reloads s i c call ctl calls) (inv : Inv s)
    (stale : Stale { s.setControl c ctl with calls := calls }) :
    ∃ j call', calls.get j = some call' ∧ call'.phase.on = none := by
  have unbuilt := (inv.on i call c reloads.found reloads.on).2
  have was : Stale s := by
    cases stale with
    | readProxies main other => exact .readProxies main other
    | readVisitors main other => exact .readVisitors main other
    | @built c' main fresh other =>
        have elsewhere : (s.setControl c ctl).controls c' = s.controls c' := by
          apply setControl_of_ne
          rintro rfl
          exact unbuilt main
        rw [elsewhere] at fresh other
        exact .built main fresh other
  obtain ⟨j, call', found, unread⟩ := inv.stale was
  have other : j ≠ i := by
    rintro rfl
    cases reloads.found.symm.trans found
    cases reloads.on.symm.trans unread
  exact ⟨j, call', reloads.others j call' found other, unread⟩

theorem Reloads.runsProxies (reloads : Reloads s i c call ctl calls) (inv : Inv s)
    (proxies : Reaches s call → ctl.proxies = s.pxyCfgs ∨ ∃ call', calls.get i = some call')
    (c' : Nat) (current : s.ctl = some c')
    (live : ((s.setControl c ctl).controls c').stage = .live) :
    ((s.setControl c ctl).controls c').proxies = s.pxyCfgs ∨
      ∃ j call', calls.get j = some call' ∧
        Reaches { s.setControl c ctl with calls := calls } call' := by
  rw [reloads.stages] at live
  by_cases same : c' = c
  · subst same
    have reaches : Reaches s call := by
      intro c on
      cases reloads.on.symm.trans on
      exact ⟨current, live⟩
    rw [setControl_self]
    rcases proxies reaches with done | ⟨call', found⟩
    · exact .inl done
    -- What is left of the call reloads the proxies.
    · exact .inr ⟨i, call', found, reloads.reaches.2 ((reloads.own_reaches found).2 reaches)⟩
  · rw [setControl_of_ne same]
    rcases inv.runsProxies c' current live with runs | ⟨j, call', found, reaches⟩
    · exact .inl runs
    · have other := reloads.other_call current same found reaches
      exact .inr ⟨j, call', reloads.others j call' found other, reloads.reaches.2 reaches⟩

theorem Reloads.runsVisitors (reloads : Reloads s i c call ctl calls) (inv : Inv s)
    (visitors : Reaches s call → ctl.cfgs = s.visitorCfgs ∨
      ctl.cfgs = (s.controls c).cfgs ∧ call.phase.visitorsDone = true)
    (c' : Nat) (current : s.ctl = some c')
    (live : ((s.setControl c ctl).controls c').stage = .live) :
    ((s.setControl c ctl).controls c').cfgs = s.visitorCfgs ∨
      ∃ j call', calls.get j = some call' ∧
        Reaches { s.setControl c ctl with calls := calls } call' ∧
        call'.phase.visitorsDone = false := by
  rw [reloads.stages] at live
  by_cases same : c' = c
  · subst same
    have reaches : Reaches s call := by
      intro c on
      cases reloads.on.symm.trans on
      exact ⟨current, live⟩
    rw [setControl_self]
    rcases visitors reaches with done | ⟨kept, done⟩
    · exact .inl done
    -- The visitors were reloaded before, and another call is to reload them again.
    · rcases inv.runsVisitors c' current live with runs | ⟨j, call', found, reaches', due⟩
      · exact .inl (kept.trans runs)
      · have other : j ≠ i := by
          rintro rfl
          cases reloads.found.symm.trans found
          cases done.symm.trans due
        exact .inr ⟨j, call', reloads.others j call' found other, reloads.reaches.2 reaches', due⟩
  · rw [setControl_of_ne same]
    rcases inv.runsVisitors c' current live with runs | ⟨j, call', found, reaches, due⟩
    · exact .inl runs
    · have other := reloads.other_call current same found reaches
      exact .inr ⟨j, call', reloads.others j call' found other, reloads.reaches.2 reaches, due⟩

theorem Inv.reloaded (inv : Inv s) (reloads : Reloads s i c call ctl calls)
    (proxies : Reaches s call → ctl.proxies = s.pxyCfgs ∨ ∃ call', calls.get i = some call')
    (visitors : Reaches s call → ctl.cfgs = s.visitorCfgs ∨
      ctl.cfgs = (s.controls c).cfgs ∧ call.phase.visitorsDone = true) :
    Inv { s.setControl c ctl with calls := calls } := by
  obtain ⟨less, unbuilt⟩ := inv.on i call c reloads.found reloads.on
  refine ⟨reloads.calls_none inv, ?_, ?_, reloads.stale inv, reloads.runsProxies inv proxies,
    reloads.runsVisitors inv visitors, ?_, inv.building, ?_, inv.published, ?_, ?_, ?_,
    inv.waiting, inv.nilFree⟩
  · intro j call' found reaches
    by_cases same : j = i
    · subst same
      rw [(reloads.own call' found).2.1]
      exact inv.proxies j call reloads.found
        ((reloads.own_reaches found).1 (reloads.reaches.1 reaches))
    · exact inv.proxies j call' (reloads.rest j call' found same) (reloads.reaches.1 reaches)
  · intro j call' found reaches due
    by_cases same : j = i
    · subst same
      rw [(reloads.own call' found).2.2] at due
      cases due
    · exact inv.visitors j call' (reloads.rest j call' found same) (reloads.reaches.1 reaches) due
  · intro c' ran live
    have elsewhere : (s.setControl c ctl).controls c' = s.controls c' := by
      apply setControl_of_ne
      rintro rfl
      exact unbuilt (Main.building_of_ran ran)
    simp only [elsewhere] at live ⊢
    exact inv.ran c' ran live
  · intro c' main
    rw [reloads.stages]
    exact inv.created c' main
  · intro j call' c' found on
    by_cases same : j = i
    · subst same
      cases (reloads.own call' found).1.symm.trans on
      exact ⟨less, unbuilt⟩
    · exact inv.on j call' c' (reloads.rest j call' found same) on
  · intro main c' current
    rw [reloads.stages]
    exact inv.left_ main c' current
  · intro j call' found checked
    by_cases same : j = i
    · subst same
      have on := (reloads.own call' found).1
      rw [checked] at on
      cases on
    · exact inv.checked j call' (reloads.rest j call' found same) checked

end Reloads

variable [DecidableEq α] [DecidableEq β]

theorem reloadVisitors_inv (inv : Inv s) {i : Nat} {range : Range}
    (next : step s (.reloadVisitors i range) = some t) : Inv t := by
  simp only [step] at next
  split at next
  · rename_i pxyCfgs visitorCfgs c found
    split at next
    · rename_i ranges
      cases next
      refine inv.reloaded (i := i) (c := c) ⟨found, rfl, rfl, ?_, ?_, ?_⟩ ?_ ?_
      · intro j call' found' other
        exact (GoMap.get_set_eq_some.1 found').elim (fun same => absurd same.1 other)
          (fun old => old.2)
      · intro j call' found' other
        exact GoMap.get_set_eq_some.2 (.inr ⟨other, found'⟩)
      · intro call' found'
        rcases GoMap.get_set_eq_some.1 found' with ⟨-, rfl⟩ | ⟨other, -⟩
        · exact ⟨rfl, rfl, rfl⟩
        · exact absurd rfl other
      · intro _
        exact .inr ⟨_, GoMap.get_set_eq_some.2 (.inl ⟨rfl, rfl⟩)⟩
      · intro reaches
        have stored : visitorCfgs = s.visitorCfgs :=
          inv.visitors i _ found reaches rfl (fun is => by cases is)
        exact .inl ((reload_eq ranges).trans stored)
    · cases next
  · cases next

theorem reloadProxies_inv (inv : Inv s) {i : Nat} {range : Range}
    (next : step s (.reloadProxies i range) = some t) : Inv t := by
  simp only [step] at next
  split at next
  · rename_i pxyCfgs visitorCfgs c found
    split at next
    · rename_i ranges
      cases next
      refine inv.reloaded (i := i) (c := c) ⟨found, rfl, rfl, ?_, ?_, ?_⟩ ?_ ?_
      · intro j call' found' _
        exact (GoMap.get_delete_eq_some.1 found').2
      · intro j call' found' other
        exact GoMap.get_delete_eq_some.2 ⟨other, found'⟩
      · intro call' found'
        exact absurd rfl (GoMap.get_delete_eq_some.1 found').1
      · intro reaches
        have stored : pxyCfgs = s.pxyCfgs := inv.proxies i _ found reaches
        exact .inl ((reload_eq ranges).trans stored)
      · intro _
        exact .inr ⟨rfl, rfl⟩
    · cases next
  · cases next

theorem step_inv (s : State α β) (l : Label α β) (t : State α β) (inv : Inv s)
    (guard : Guard s l) (next : step s l = some t) : Inv t := by
  cases l with
  | reloadConf pxyCfgs visitorCfgs =>
      simp only [step] at next
      split at next
      · cases next
      · cases next
        apply inv.reloadConf
        intro j call found
        exact guard j (GoMap.mem_keys_iff.2 ⟨call, found⟩) call found
  | storeVisitors i =>
      simp only [step] at next
      split at next
      · rename_i found
        cases next
        refine inv.storeVisitors found fun j call found' => ?_
        exact guard _ found j (GoMap.mem_keys_iff.2 ⟨call, found'⟩) call found'
      · cases next
  | check i =>
      simp only [step] at next
      split at next
      · rename_i found
        split at next
        · cases next
        · split at next
          · rename_i ctl
            cases next
            exact inv.noControl ctl (guard ctl)
          · rename_i ctl
            cases next
            refine inv.setPhase found rfl ?_ rfl (fun _ => .inl rfl) ?_ ?_
            · exact fun is => by cases is
            · exact fun c on => by cases on
            · intro _
              rw [ctl]
              rfl
      · cases next
  | deref i =>
      simp only [step] at next
      split at next
      · rename_i found
        split at next
        · rename_i ctl
          have checked := inv.checked i _ found rfl
          rw [ctl] at checked
          cases checked
        · rename_i c ctl
          cases next
          refine inv.setPhase found rfl ?_ rfl (fun stale => .inr (guard stale)) ?_ ?_
          · exact fun is => by cases is
          · intro c' on
            cases on
            exact ⟨ctl, fun is => (inv.building c is).2 ctl⟩
          · exact fun is => by cases is
      · cases next
  | reloadVisitors i range => exact reloadVisitors_inv inv next
  | reloadProxies i range => exact reloadProxies_inv inv next
  | login ok =>
      simp only [step] at next
      split at next
      · rename_i main
        have building : s.main.building = none := by
          rw [main]
          rfl
        have away : ∀ c, s.ctl = some c → (s.controls c).stage ≠ .live :=
          inv.left_ (by rw [main]; exact fun is => by cases is)
        split at next
        · cases next
          exact inv.setIdle 0 building rfl away fun is => by cases is
        · split at next
          · cases next
            exact inv.setIdle s.reconnectCounts building rfl away fun is => by cases is
          · rename_i ctl
            cases next
            refine inv.setIdle s.reconnectCounts building rfl away fun _ => ?_
            rw [ctl]
            rfl
      · cases next
  | readProxies =>
      simp only [step] at next
      split at next
      · rename_i visitorCfgs main
        cases next
        refine inv.setMain s.reconnectCounts (by rw [main]; rfl) ?_ ?_ ?_ ?_ ?_
        · exact fun c is => by cases is
        · intro stale
          apply inv.stale
          cases stale with
          | readProxies is other =>
              cases is
              exact absurd rfl other
          | readVisitors is other => exact .readVisitors (by rw [main]; exact is) other
          | built is => cases is
        · exact fun c is => by cases is
        · exact fun _ => inv.left_ (by rw [main]; exact fun is => by cases is)
        · exact fun is => by cases is
      · cases next
  | readVisitors =>
      simp only [step] at next
      split at next
      · rename_i pxyCfgs main
        cases next
        refine inv.setMain s.reconnectCounts (by rw [main]; rfl) ?_ ?_ ?_ ?_ ?_
        · exact fun c is => by cases is
        · intro stale
          apply inv.stale
          cases stale with
          | readProxies is other => exact .readProxies (by rw [main]; exact is) other
          | readVisitors is other =>
              cases is
              exact absurd rfl other
          | built is => cases is
        · exact fun c is => by cases is
        · exact fun _ => inv.left_ (by rw [main]; exact fun is => by cases is)
        · exact fun is => by cases is
      · cases next
  | newControl range =>
      simp only [step] at next
      split at next
      · rename_i pxyCfgs visitorCfgs main
        split at next
        · rename_i ranges
          rw [reload_eq ranges] at next
          cases next
          exact inv.newControl main
        · cases next
      · cases next
  | startWorker =>
      simp only [step] at next
      split at next
      · rename_i c main
        cases next
        refine inv.build (by rw [main]; rfl) rfl rfl rfl ?_ ?_ ?_
        · exact fun _ => .inl (inv.created c main)
        · exact fun is => by cases is
        · exact fun is => by cases is
      · cases next
  | runProxies range =>
      simp only [step] at next
      split at next
      · rename_i c main
        split at next
        · rename_i ranges
          cases next
          refine inv.build (by rw [main]; rfl) rfl rfl rfl (fun is => is) ?_ ?_
          · exact fun _ => reload_eq ranges
          · exact fun is => by cases is
        · cases next
      · cases next
  | lock =>
      simp only [step] at next
      split at next
      · rename_i c main
        cases next
        exact inv.setRan (c := c) (by rw [main]; rfl) rfl
      · cases next
  | closeOld =>
      simp only [step] at next
      split at next
      · rename_i c main
        have replacing : Inv { s with main := .replacing c } :=
          inv.setRan (c := c) (by rw [main]; rfl) rfl
        split at next
        · cases next
          exact replacing
        · rename_i old ctl
          cases next
          refine replacing.drop (c := old) ?_ ?_
          · show (s.controls old).stage.dropped ≠ .live
            cases (s.controls old).stage <;> exact fun is => by cases is
          · intro is
            exact absurd ctl (replacing.building old is).2
      · cases next
  | publish =>
      simp only [step] at next
      split at next
      · rename_i c main
        cases next
        exact inv.publish main
      · cases next
  | wake =>
      simp only [step] at next
      split at next
      · rename_i main
        split at next
        · rename_i ctl
          have waiting := inv.waiting main
          rw [ctl] at waiting
          cases waiting
        · rename_i c ctl
          have away : (s.controls c).stage = .done →
              ∀ c', s.ctl = some c' → (s.controls c').stage ≠ .live := by
            intro done c' is
            cases ctl.symm.trans is
            rw [done]
            exact fun is => by cases is
          have building : s.main.building = none := by
            rw [main]
            rfl
          split at next
          · rename_i done
            split at next
            · cases next
              exact inv.setIdle s.reconnectCounts building rfl (away done) fun is => by cases is
            · cases next
              exact inv.setIdle _ building rfl (away done) fun is => by cases is
          · cases next
      · cases next
  | lose c =>
      simp only [step] at next
      split at next
      · rename_i live
        cases next
        exact inv.dropStage live (by decide) (fun is => by cases is) (fun is => by cases is)
      · cases next
  | closeProxies c =>
      simp only [step] at next
      split at next
      · rename_i lost
        cases next
        exact inv.dropStage lost (by decide) (fun is => by cases is) (fun is => by cases is)
      · cases next
  | finish c =>
      simp only [step] at next
      split at next
      · rename_i stopped
        cases next
        exact inv.dropStage stopped (by decide) (fun is => by cases is) (fun is => by cases is)
      · cases next

end Machine

/-- **No reload is lost across a reconnect**, and no nil control is used, in every run whose
steps meet the condition. -/
theorem reload_kept {α β : Type u} [DecidableEq α] [DecidableEq β] (pxyCfgs : GoMap String α)
    (visitorCfgs : GoMap String β) (ls : List (Label α β))
    (guarded : Along step (fun s l _ => Guard s l) (start pxyCfgs visitorCfgs) ls) :
    Along step (fun _ _ t => Kept t) (start pxyCfgs visitorCfgs) ls := by
  have kept : ∀ (s : State α β) l t, Inv s → Guard s l → step s l = some t → Kept t :=
    fun s l t inv guard next => (step_inv s l t inv guard next).kept
  exact Along.strengthen Inv step_inv kept (start_inv pxyCfgs visitorCfgs) guarded

/-! ## Runs -/

/-- The configurations of one proxy, by its port, and of no visitor. -/
def ssh (port : Nat) : GoMap String Nat := (∅ : GoMap String Nat).set "ssh" port

/-- `Run`, up to the first control that is published. -/
def firstControl : List (Label Nat Nat) :=
  [.login true, .readProxies, .readVisitors, .newControl ⟨[], []⟩, .startWorker,
    .runProxies ⟨[], ["ssh"]⟩, .lock, .closeOld, .publish]

def loseFirst : List (Label Nat Nat) :=
  [.lose 0, .closeProxies 0, .finish 0, .wake, .login true]

/-- The reload stores before the new control is built and is done after it is published. -/
def reloadAround : List (Label Nat Nat) :=
  firstControl ++ loseFirst ++
    ([.reloadConf (ssh 22) ∅, .storeVisitors 0, .readProxies, .readVisitors,
      .newControl ⟨[], []⟩, .startWorker, .runProxies ⟨[], ["ssh"]⟩, .check 0, .lock, .closeOld,
      .publish, .deref 0, .reloadVisitors 0 ⟨[], []⟩, .reloadProxies 0 ⟨["ssh"], ["ssh"]⟩] :
        List (Label Nat Nat))

theorem reload_kept_around :
    Along step (fun _ _ t => Kept t) (start (ssh 21) (∅ : GoMap String Nat)) reloadAround :=
  reload_kept (ssh 21) ∅ reloadAround (by decide)

/-- The reload stores and reloads the old control after the new one was built. -/
def reloadBetween : List (Label Nat Nat) :=
  firstControl ++ loseFirst ++
    ([.readProxies, .readVisitors, .newControl ⟨[], []⟩, .startWorker,
      .runProxies ⟨[], ["ssh"]⟩, .reloadConf (ssh 22) ∅, .storeVisitors 0, .check 0, .deref 0,
      .reloadVisitors 0 ⟨[], []⟩, .reloadProxies 0 ⟨[], ["ssh"]⟩, .lock, .closeOld, .publish] :
        List (Label Nat Nat))

theorem reload_lost :
    ¬ Along step (fun _ _ t => Kept t) (start (ssh 21) (∅ : GoMap String Nat)) reloadBetween := by
  decide

/-- The second reload stores last and reloads first. -/
def twoReloads : List (Label Nat Nat) :=
  firstControl ++
    ([.reloadConf (ssh 22) ∅, .storeVisitors 0, .reloadConf (ssh 23) ∅, .storeVisitors 1,
      .check 1, .deref 1, .reloadVisitors 1 ⟨[], []⟩, .reloadProxies 1 ⟨["ssh"], ["ssh"]⟩,
      .check 0, .deref 0, .reloadVisitors 0 ⟨[], []⟩, .reloadProxies 0 ⟨["ssh"], ["ssh"]⟩] :
        List (Label Nat Nat))

example :
    ¬ Along step (fun _ _ t => Kept t) (start (ssh 21) (∅ : GoMap String Nat)) twoReloads := by
  decide

end ChmlFrp.Client.Reload
