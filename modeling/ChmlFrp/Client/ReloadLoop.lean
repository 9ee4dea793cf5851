/-
# ChmlFrp.Client.ReloadLoop — the loop of the client in its two models

`ChmlFrp.Client.Reload` has `Run` and `keepControllerWorking` beside the calls of
`ReloadConf`, and `ChmlFrp.Client.Service` has the second beside those of `GracefulClose`.
Without what its controls run, a state of the first is one of the second in which no close
has begun.

* `step_refines`: what the first does is no step or some steps of the second.
* `reload_refines`: a run of the first that has published a control, and goes on, is a run
  of the second.
-/
import ChmlFrp.Client.Reload
import ChmlFrp.Client.Service

namespace ChmlFrp.Client.ReloadLoop

set_option autoImplicit false

universe u

open ChmlFrp.Lib
open ChmlFrp.Lib.Transition

/-! ## The state without the configurations -/

/-- A worker that has closed its proxies has still to end the control. -/
def stage : Reload.Stage → Service.Stage
  | .new => .new
  | .live => .live
  | .lost | .stopped => .lost
  | .done => .done

@[simp] theorem stage_new : stage .new = .new := rfl
@[simp] theorem stage_live : stage .live = .live := rfl
@[simp] theorem stage_lost : stage .lost = .lost := rfl
@[simp] theorem stage_stopped : stage .stopped = .lost := rfl
@[simp] theorem stage_done : stage .done = .done := rfl

theorem stage_eq_new {st : Reload.Stage} : stage st = .new ↔ st = .new := by
  cases st <;> simp

@[simp] theorem stage_dropped (st : Reload.Stage) : stage st.dropped = (stage st).drop := by
  cases st <;> rfl

variable {α β : Type u}

/-- The control that is read before it is made stands for the one to be made. -/
def loop (next : Nat) (ctl : Option Nat) : Reload.Main α β → Service.Main
  | .login => .loggingIn
  | .reading _ _ => .created next
  | .created c => .created c
  | .started c | .running c => .ran c
  | .locked c => .locked c
  | .replacing c => .replacing c
  | .waiting =>
      match ctl with
      | some c => .waiting c
      | none => .top
  | .exited => .woken

def made (next : Nat) : Reload.Main α β → Nat
  | .reading _ _ => next + 1
  | _ => next

def service (s : Reload.State α β) : Service.State where
  exit := false
  ctl := s.ctl
  controls c := stage (s.controls c).stage
  next := made s.next s.main
  main := loop s.next s.ctl s.main
  reconnectCounts := s.reconnectCounts
  calls := ∅
  nextCall := 0
  returned := false
  startedLate := false
  panicked := false
  exited := match s.main with
    | .exited => true
    | _ => false

section Stages

variable (controls : Nat → Reload.Control α β) (c : Nat) (ctl : Reload.Control α β)

/-- A step on one control. -/
theorem stages_update :
    (fun d => stage (Function.update controls c ctl d).stage) =
      Function.update (fun d => stage (controls d).stage) c (stage ctl.stage) := by
  funext d
  by_cases same : d = c
  · subst same
    simp
  · simp [same]

/-- A step that is about the configurations of the control. -/
theorem stages_kept (same : stage ctl.stage = stage (controls c).stage) :
    (fun d => stage (Function.update controls c ctl d).stage) =
      fun d => stage (controls d).stage := by
  rw [stages_update, same]
  exact Function.update_eq_self c fun d => stage (controls d).stage

end Stages

/-! ## The controls of the loop -/

/-- The control whose worker the main goroutine has started. -/
def worker : Reload.Main α β → Option Nat
  | .started c | .running c | .locked c | .replacing c => some c
  | _ => none

/-- Where the main goroutine is before a control is published, and how many it has made. -/
def First (next : Nat) : Reload.Main α β → Prop
  | .login | .reading _ _ => next = 0
  | .created _ | .started _ | .running _ | .locked _ | .replacing _ => next = 1
  | .waiting => False
  | .exited => True

structure Inv (s : Reload.State α β) : Prop where
  fresh : ∀ c, s.next ≤ c → (s.controls c).stage = .new
  built : ∀ c, s.main.building = some c → c < s.next
  works : ∀ c, worker s.main = some c → (s.controls c).stage ≠ .new
  first : s.ctl = none → s.reconnectCounts = 0 ∧ First s.next s.main

section Invariant

variable {s t : Reload.State α β}

theorem start_inv (pxyCfgs : GoMap String α) (visitorCfgs : GoMap String β) :
    Inv (Reload.start pxyCfgs visitorCfgs) where
  fresh _ _ := rfl
  built c building := by cases building
  works c works := by cases works
  first _ := ⟨rfl, rfl⟩

/-- No control becomes new, or is new no longer. -/
theorem Inv.kept (inv : Inv s) (ctl : t.ctl = s.ctl) (next : t.next = s.next)
    (main : t.main = s.main) (counts : t.reconnectCounts = s.reconnectCounts)
    (stages : ∀ c, (t.controls c).stage = .new ↔ (s.controls c).stage = .new) : Inv t := by
  refine ⟨?_, ?_, ?_, ?_⟩
  · intro c large
    rw [next] at large
    exact (stages c).2 (inv.fresh c large)
  · rw [main, next]
    exact inv.built
  · rw [main]
    exact fun c works new => inv.works c works ((stages c).1 new)
  · rw [ctl, counts, main, next]
    exact inv.first

theorem new_update {c : Nat} {ctl : Reload.Control α β}
    (same : ctl.stage = .new ↔ (s.controls c).stage = .new) (d : Nat) :
    (Function.update s.controls c ctl d).stage = .new ↔ (s.controls d).stage = .new := by
  by_cases here : d = c
  · subst here
    simpa using same
  · simp [here]

/-- The main goroutine goes on with the control that it has. -/
theorem Inv.goesOn (inv : Inv s) {old new : Reload.Main α β} (main : s.main = old)
    (building : new.building = old.building)
    (works : ∀ c, worker new = some c → worker old = some c)
    (first : s.ctl = none → First s.next old → First s.next new) :
    Inv { s with main := new } := by
  refine ⟨inv.fresh, ?_, ?_, ?_⟩
  · rw [building, ← main]
    exact inv.built
  · intro c here
    exact inv.works c (main ▸ works c here)
  · intro none_
    obtain ⟨counts, before⟩ := inv.first none_
    exact ⟨counts, first none_ (main ▸ before)⟩

variable [DecidableEq α] [DecidableEq β]

theorem Inv.step {l : Reload.Label α β} (inv : Inv s) (next : Reload.step s l = some t) :
    Inv t := by
  have same : ∀ c, (s.controls c).stage = .new ↔ (s.controls c).stage = .new := fun _ => Iff.rfl
  cases l with
  | reloadConf pxyCfgs visitorCfgs =>
      simp only [Reload.step] at next
      split at next
      · cases next
      · cases next
        exact inv.kept rfl rfl rfl rfl same
  | storeVisitors i =>
      simp only [Reload.step] at next
      split at next
      · cases next
        exact inv.kept rfl rfl rfl rfl same
      · cases next
  | check i =>
      simp only [Reload.step] at next
      split at next
      · split at next
        · cases next
        · split at next
          · cases next
            exact inv.kept rfl rfl rfl rfl same
          · cases next
            exact inv.kept rfl rfl rfl rfl same
      · cases next
  | deref i =>
      simp only [Reload.step] at next
      split at next
      · split at next
        · cases next
          exact inv.kept rfl rfl rfl rfl same
        · cases next
          exact inv.kept rfl rfl rfl rfl same
      · cases next
  | reloadVisitors i range =>
      simp only [Reload.step] at next
      split at next
      · split at next
        · cases next
          exact inv.kept rfl rfl rfl rfl (new_update Iff.rfl)
        · cases next
      · cases next
  | reloadProxies i range =>
      simp only [Reload.step] at next
      split at next
      · split at next
        · cases next
          exact inv.kept rfl rfl rfl rfl (new_update Iff.rfl)
        · cases next
      · cases next
  | login ok =>
      simp only [Reload.step] at next
      split at next
      · rename_i main
        split at next
        · cases next
          refine ⟨inv.fresh, fun c here => (by cases here), fun c here => (by cases here), ?_⟩
          intro none_
          have before := (inv.first none_).2
          rw [main] at before
          exact ⟨rfl, before⟩
        · split at next
          · rename_i ctl
            cases next
            exact inv.goesOn main rfl (fun c here => by cases here) fun _ _ => trivial
          · rename_i ctl
            cases next
            refine inv.goesOn main rfl (fun c here => by cases here) ?_
            intro none_
            rw [none_] at ctl
            cases ctl
      · cases next
  | readProxies =>
      simp only [Reload.step] at next
      split at next
      · rename_i main
        cases next
        exact inv.goesOn main rfl (fun c here => by cases here) fun _ before => before
      · cases next
  | readVisitors =>
      simp only [Reload.step] at next
      split at next
      · rename_i main
        cases next
        exact inv.goesOn main rfl (fun c here => by cases here) fun _ before => before
      · cases next
  | newControl range =>
      simp only [Reload.step] at next
      split at next
      · rename_i main
        split at next
        · cases next
          refine ⟨?_, ?_, fun c here => (by cases here), ?_⟩
          · intro c large
            have later : c ≠ s.next := Nat.ne_of_gt large
            simp only [Reload.State.setControl, Function.update_of_ne later]
            exact inv.fresh c (Nat.le_of_succ_le large)
          · intro c here
            cases here
            exact Nat.lt_succ_self _
          · intro none_
            obtain ⟨counts, before⟩ := inv.first none_
            rw [main] at before
            exact ⟨counts, congrArg Nat.succ before⟩
        · cases next
      · cases next
  | startWorker =>
      simp only [Reload.step] at next
      split at next
      · rename_i c main
        cases next
        have below : c < s.next := inv.built c (by rw [main]; rfl)
        refine ⟨?_, ?_, ?_, ?_⟩
        · intro d large
          have other : d ≠ c := Nat.ne_of_gt (Nat.lt_of_lt_of_le below large)
          simp only [Reload.State.setControl, Function.update_of_ne other]
          exact inv.fresh d large
        · intro d here
          cases here
          exact below
        · intro d here
          cases here
          simp [Reload.State.setControl]
        · intro none_
          obtain ⟨counts, before⟩ := inv.first none_
          rw [main] at before
          exact ⟨counts, before⟩
      · cases next
  | runProxies range =>
      simp only [Reload.step] at next
      split at next
      · rename_i c main
        split at next
        · cases next
          have goes : Inv { s with main := .running c } :=
            inv.goesOn main rfl (fun d here => here) fun _ before => before
          exact goes.kept rfl rfl rfl rfl (new_update Iff.rfl)
        · cases next
      · cases next
  | lock =>
      simp only [Reload.step] at next
      split at next
      · rename_i c main
        cases next
        exact inv.goesOn main rfl (fun d here => here) fun _ before => before
      · cases next
  | closeOld =>
      simp only [Reload.step] at next
      split at next
      · rename_i c main
        have goes : Inv { s with main := .replacing c } :=
          inv.goesOn main rfl (fun d here => here) fun _ before => before
        split at next
        · cases next
          exact goes
        · rename_i old ctl
          cases next
          refine goes.kept rfl rfl rfl rfl (new_update ?_)
          show (s.controls old).stage.dropped = .new ↔ (s.controls old).stage = .new
          cases (s.controls old).stage <;> simp [Reload.Stage.dropped]
      · cases next
  | publish =>
      simp only [Reload.step] at next
      split at next
      · rename_i c main
        cases next
        exact ⟨inv.fresh, fun d here => (by cases here), fun d here => (by cases here),
          fun none_ => by cases none_⟩
      · cases next
  | wake =>
      simp only [Reload.step] at next
      split at next
      · rename_i main
        split at next
        · cases next
          exact inv.kept rfl rfl rfl rfl same
        · rename_i now ctl
          split at next
          · split at next
            · cases next
              exact inv.goesOn main rfl (fun d here => by cases here) fun _ _ => trivial
            · cases next
              refine ⟨inv.fresh, fun d here => (by cases here), fun d here => (by cases here), ?_⟩
              intro none_
              rw [none_] at ctl
              cases ctl
          · cases next
      · cases next
  | lose c =>
      simp only [Reload.step] at next
      split at next
      · rename_i live
        cases next
        exact inv.kept rfl rfl rfl rfl (new_update (by simp [live]))
      · cases next
  | closeProxies c =>
      simp only [Reload.step] at next
      split at next
      · rename_i lost
        cases next
        exact inv.kept rfl rfl rfl rfl (new_update (by simp [lost]))
      · cases next
  | finish c =>
      simp only [Reload.step] at next
      split at next
      · rename_i stopped
        cases next
        exact inv.kept rfl rfl rfl rfl (new_update (by simp [stopped]))
      · cases next

end Invariant

/-! ## One step -/

section Step

variable {s t : Reload.State α β} {l : Reload.Label α β}

def Refined (s t : Reload.State α β) : Prop :=
  ∃ ls, exec Service.step (service s) ls = some (service t)

theorem refined_of_eq (same : service t = service s) : Refined s t :=
  ⟨[], congrArg some same.symm⟩

theorem refined_of_step {m : Service.Label}
    (next : Service.step (service s) m = some (service t)) : Refined s t :=
  ⟨[m], exec_cons_eq_some.2 ⟨_, next, rfl⟩⟩

/-- The calls of `ReloadConf` are not seen. -/
theorem service_of_call (ctl : t.ctl = s.ctl)
    (controls : (fun c => stage (t.controls c).stage) = fun c => stage (s.controls c).stage)
    (next : t.next = s.next) (main : t.main = s.main)
    (counts : t.reconnectCounts = s.reconnectCounts) : service t = service s := by
  unfold service
  rw [ctl, controls, next, main, counts]

theorem step_service (going : s.main ≠ .exited) (m : Service.Label) :
    Service.step (service s) m = Service.run (service s) m := by
  have exited : (service s).exited = false := by
    unfold service
    split
    · exact absurd ‹_› going
    · rfl
  simp only [Service.step, exited, Bool.or_false]
  rfl

variable [DecidableEq α] [DecidableEq β]

theorem step_refines (inv : Inv s) {now : Nat} (ctl : s.ctl = some now)
    (going : s.main ≠ .exited) (next : Reload.step s l = some t) : Refined s t := by
  cases l with
  | reloadConf pxyCfgs visitorCfgs =>
      simp only [Reload.step] at next
      split at next
      · cases next
      · cases next
        exact refined_of_eq rfl
  | storeVisitors i =>
      simp only [Reload.step] at next
      split at next
      · cases next
        exact refined_of_eq rfl
      · cases next
  | check i =>
      simp only [Reload.step, ctl] at next
      split at next
      · split at next
        · cases next
        · cases next
          exact refined_of_eq rfl
      · cases next
  | deref i =>
      simp only [Reload.step, ctl] at next
      split at next
      · cases next
        exact refined_of_eq rfl
      · cases next
  | reloadVisitors i range =>
      simp only [Reload.step] at next
      split at next
      · split at next
        · cases next
          exact refined_of_eq (service_of_call rfl (stages_kept _ _ _ rfl) rfl rfl rfl)
        · cases next
      · cases next
  | reloadProxies i range =>
      simp only [Reload.step] at next
      split at next
      · split at next
        · cases next
          exact refined_of_eq (service_of_call rfl (stages_kept _ _ _ rfl) rfl rfl rfl)
        · cases next
      · cases next
  | login ok =>
      simp only [Reload.step, ctl] at next
      split at next
      · rename_i main
        cases ok with
        | true =>
            cases next
            apply refined_of_step (m := .login true)
            rw [step_service going]
            simp [Service.run, service, main, loop, made, ctl]
        | false =>
            cases next
            refine ⟨[.login false, .readCtl], ?_⟩
            simp [exec, Service.step, Service.run, service, main, loop, made, ctl]
      · cases next
  | readProxies =>
      simp only [Reload.step] at next
      split at next
      · rename_i main
        cases next
        apply refined_of_eq
        simp [service, main, loop, made]
      · cases next
  | readVisitors =>
      simp only [Reload.step] at next
      split at next
      · rename_i main
        cases next
        apply refined_of_eq
        simp [service, main, loop, made]
      · cases next
  | newControl range =>
      simp only [Reload.step] at next
      split at next
      · rename_i main
        split at next
        · cases next
          apply refined_of_eq
          have new := inv.fresh s.next (Nat.le_refl _)
          simp only [service, main, loop, made, Reload.State.setControl]
          rw [stages_kept]
          rw [new]
        · cases next
      · cases next
  | startWorker =>
      simp only [Reload.step] at next
      split at next
      · rename_i c main
        cases next
        apply refined_of_step (m := .run)
        rw [step_service going]
        simp [Service.run, service, main, loop, made, Reload.State.setControl, stages_update,
          Service.State.setStage]
      · cases next
  | runProxies range =>
      simp only [Reload.step] at next
      split at next
      · rename_i c main
        split at next
        · cases next
          apply refined_of_eq
          simp [service, main, loop, made, Reload.State.setControl, stages_kept]
        · cases next
      · cases next
  | lock =>
      simp only [Reload.step] at next
      split at next
      · rename_i c main
        cases next
        apply refined_of_step (m := .lock)
        rw [step_service going]
        simp [Service.run, service, main, loop, made]
      · cases next
  | closeOld =>
      simp only [Reload.step, ctl] at next
      split at next
      · rename_i c main
        cases next
        apply refined_of_step (m := .closeOld)
        rw [step_service going]
        simp [Service.run, service, main, ctl, loop, made, Reload.State.setControl, stages_update,
          Service.State.setStage]
      · cases next
  | publish =>
      simp only [Reload.step] at next
      split at next
      · rename_i c main
        cases next
        refine ⟨[.publish, .readCtl], ?_⟩
        simp [exec, Service.step, Service.run, service, main, loop, made]
      · cases next
  | wake =>
      simp only [Reload.step, ctl] at next
      split at next
      · rename_i main
        split at next
        · rename_i done
          split at next
          · rename_i many
            cases next
            have many : Service.maxReconnects ≤ s.reconnectCounts := many
            refine ⟨[.wake, .check], ?_⟩
            simp [exec, Service.step, Service.run, service, main, loop, made, ctl, done, many]
          · rename_i few
            cases next
            have few : ¬ Service.maxReconnects ≤ s.reconnectCounts := few
            refine ⟨[.wake, .check, .sleep, .recheck], ?_⟩
            simp [exec, Service.step, Service.run, service, main, loop, made, ctl, done, few]
        · cases next
      · cases next
  | lose c =>
      simp only [Reload.step] at next
      split at next
      · rename_i live
        cases next
        apply refined_of_step (m := .lose c)
        rw [step_service going]
        simp [Service.run, service, live, Reload.State.setControl, stages_update,
          Service.State.setStage]
      · cases next
  | closeProxies c =>
      simp only [Reload.step] at next
      split at next
      · rename_i lost
        cases next
        apply refined_of_eq
        exact service_of_call rfl (stages_kept _ _ _ (by simp [lost])) rfl rfl rfl
      · cases next
  | finish c =>
      simp only [Reload.step] at next
      split at next
      · rename_i stopped
        cases next
        apply refined_of_step (m := .finish c)
        rw [step_service going]
        simp [Service.run, service, stopped, Reload.State.setControl, stages_update,
          Service.State.setStage]
      · cases next

end Step

/-! ## Runs -/

section Runs

variable [DecidableEq α] [DecidableEq β]
variable {s t : Reload.State α β} {l : Reload.Label α β}

theorem exited_kept (exited : s.main = .exited) (next : Reload.step s l = some t) :
    t.main = .exited := by
  cases l <;> simp only [Reload.step, exited] at next
  all_goals repeat' split at next
  all_goals first
    | cases next; first | exact exited | rfl
    | cases next

theorem ctl_kept (other : l ≠ .publish) (next : Reload.step s l = some t) : t.ctl = s.ctl := by
  cases l with
  | publish => exact absurd rfl other
  | _ =>
      simp only [Reload.step] at next
      repeat' split at next
      all_goals first
        | cases next; rfl
        | cases next

/-- The first control is published, and its connection may be lost already. -/
def published (st : Service.Stage) : Service.State :=
  { Service.start with controls := Function.update (fun _ => .new) 0 st, main := .waiting 0 }

theorem published_reachable {st : Service.Stage} (works : st ≠ .new) :
    Reachable Service.step Service.start (published st) := by
  cases st with
  | new => exact absurd rfl works
  | live => exact ⟨[.readCtl], rfl⟩
  | lost =>
      refine ⟨[.readCtl, .lose 0], ?_⟩
      simp [exec, Service.step, Service.run, Service.start, published, Service.State.setStage]
  | done =>
      refine ⟨[.readCtl, .lose 0, .finish 0], ?_⟩
      simp [exec, Service.step, Service.run, Service.start, published, Service.State.setStage]

theorem publish_refines (inv : Inv s) (unpublished : s.ctl = none)
    (next : Reload.step s .publish = some t) :
    Reachable Service.step Service.start (service t) := by
  simp only [Reload.step] at next
  split at next
  · rename_i c main
    cases next
    obtain ⟨counts, one⟩ := inv.first unpublished
    rw [main] at one
    have single : s.next = 1 := one
    have below : c < s.next := inv.built c (by rw [main]; rfl)
    obtain rfl : c = 0 := by omega
    have works : stage (s.controls 0).stage ≠ .new :=
      mt stage_eq_new.1 (inv.works 0 (by rw [main]; rfl))
    have stages : (fun c => stage (s.controls c).stage) =
        Function.update (fun _ => .new) 0 (stage (s.controls 0).stage) := by
      funext c
      by_cases first : c = 0
      · subst first
        simp
      · have new := inv.fresh c (by omega)
        simp [first, new]
    have same : service { s with ctl := some 0, main := .waiting } =
        published (stage (s.controls 0).stage) := by
      simp [service, published, Service.start, stages, single, counts, loop, made]
    rw [same]
    exact published_reachable works
  · cases next

/-- The invariant, with the run of the client that is not closed. -/
structure Follows (s : Reload.State α β) : Prop where
  inv : Inv s
  reached : s.ctl ≠ none → s.main ≠ .exited →
    Reachable Service.step Service.start (service s)

theorem Follows.step (follows : Follows s) (next : Reload.step s l = some t) : Follows t := by
  refine ⟨follows.inv.step next, fun published going => ?_⟩
  have going' : s.main ≠ .exited := fun exited => going (exited_kept exited next)
  cases ctl : s.ctl with
  | some c =>
      obtain ⟨ls, run⟩ := follows.reached (by simp [ctl]) going'
      obtain ⟨more, rest⟩ := step_refines follows.inv ctl going' next
      exact ⟨ls ++ more, exec_append_eq_some.2 ⟨_, run, rest⟩⟩
  | none =>
      by_cases first : l = .publish
      · subst first
        exact publish_refines follows.inv ctl next
      · rw [ctl_kept first next, ctl] at published
        exact absurd rfl published

/-- A run that has published a control and goes on is one of the client that is not closed. -/
theorem reload_refines {pxyCfgs : GoMap String α} {visitorCfgs : GoMap String β}
    (reached : Reachable Reload.step (Reload.start pxyCfgs visitorCfgs) s)
    (published : s.ctl ≠ none) (going : s.main ≠ .exited) :
    Reachable Service.step Service.start (service s) := by
  have follows : Follows s := by
    refine reached.invariant (fun s l t => Follows.step) ?_
    exact ⟨start_inv pxyCfgs visitorCfgs, fun some_ => absurd rfl some_⟩
  exact follows.reached published going

end Runs

end ChmlFrp.Client.ReloadLoop
