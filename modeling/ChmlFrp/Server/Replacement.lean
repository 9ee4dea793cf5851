/-
# ChmlFrp.Server.Replacement — logins that carry the same run id

`ControlManager` of `server/control.go` and `RegisterControl` of `server/service.go`.
`Add` puts the new control in the place of the one that the run id had, and the login
waits for that one's end before it starts its own control.  `WaitClosed` looks whether
the control is started: if not, it sets the latch `allShutdown` to done by itself and
returns.  Each login runs in a goroutine of its own.

What the started controls do to their tables, the teardown included, is a run of
`ChmlFrp.Server.Registry`; the closes that the dashboard may ask of a torn-down control
are left to that module.  Controls are numbered in the order of `Add`.

* `patient_runs_replace_cleanly`: if every login finds the control that it replaced
  started, a control starts after the teardown of all earlier ones of its run id, and no
  two of them run together; and a login that does not find it started can go on to run
  its control beside an earlier one.
* `overtaking_login_runs_beside`: a login overtakes the one that it replaces.
-/
import ChmlFrp.Server.Registry

namespace ChmlFrp.Server.Replacement

set_option autoImplicit false

open ChmlFrp.Lib
open ChmlFrp.Lib.Transition

/-! ## Logins and controls -/

/-- Where the goroutine of a login stands. -/
inductive Phase where
  /-- There is no such login yet. -/
  | absent
  /-- `Add` has returned. -/
  | added
  /-- `WaitClosed` found the old control started and waits for its end. -/
  | waiting
  /-- `WaitClosed` found it not started, and is about to call `Done`. -/
  | latching
  /-- At `ctl.Start()`. -/
  | ready
  /-- The control is started; a goroutine waits for its end. -/
  | watching
  | ended
  deriving DecidableEq, Repr

structure Control where
  /-- `loginMsg.RunID` -/
  loginRunID : String
  /-- `ctl.runID`, which `Replaced` empties. -/
  runID : String
  /-- The run id of the login response. -/
  loginResp : Option String
  /-- What `Add` returned. -/
  old : Option Nat
  phase : Phase
  started : Bool
  /-- `allShutdown.Start` was called, and `allShutdown.Done`. -/
  stopping : Bool
  done : Bool
  deriving DecidableEq, Repr

structure State where
  ctlsByRunID : GoMap String Nat
  controls : Nat → Control
  added : Nat
  tables : Registry.State

def start : State := ⟨∅, fun _ => ⟨"", "", none, none, .absent, false, false, false⟩, 0,
  Registry.start⟩

inductive Label where
  /-- A login with this run id calls `Add`. -/
  | add (runID : String)
  /-- The login of this control looks at the control that it replaced. -/
  | look (c : Nat)
  | latch (c : Nat)
  | unblock (c : Nat)
  | start (c : Nat)
  /-- The control has ended; its goroutine calls `Del`. -/
  | del (c : Nat)
  /-- `allShutdown.Start` -/
  | stop (c : Nat)
  /-- A goroutine of a started control works on the tables. -/
  | table (l : Registry.Label)

namespace State

def set (s : State) (c : Nat) (ctl : Control) : State :=
  { s with controls := Function.update s.controls c ctl }

/-- `Replaced` -/
def replaced (s : State) (old : Option Nat) : State :=
  match old with
  | some d => s.set d { s.controls d with runID := "", stopping := true }
  | none => s

/-- The new control stands in the map. -/
def insert (s : State) (runID : String) (old : Option Nat) : State :=
  { s.set s.added ⟨runID, runID, none, old, .added, false, false, false⟩ with
    ctlsByRunID := s.ctlsByRunID.set runID s.added
    added := s.added + 1 }

/-- `ControlManager.Add` -/
def add (s : State) (runID : String) : State :=
  let old := s.ctlsByRunID.get runID
  (s.replaced old).insert runID old

/-- `ControlManager.Del` -/
def del (s : State) (runID : String) (c : Nat) : State :=
  if s.ctlsByRunID.get runID = some c then
    { s with ctlsByRunID := s.ctlsByRunID.delete runID }
  else s

/-- `WaitClosed` of the login `c` on a control that is not started, after the look. -/
def latch (s : State) (c d : Nat) : State :=
  let t := s.set d { s.controls d with done := true }
  t.set c { t.controls c with phase := .ready }

/-- `Control.Start` -/
def startControl (s : State) (c : Nat) : State :=
  s.set c { s.controls c with
    loginResp := some (s.controls c).runID, started := true, phase := .watching }

/-- The last thing that `stoper` does is `allShutdown.Done`. -/
def afterTable (s : State) : Registry.Label → State
  | .tearDone c => s.set c { s.controls c with done := true }
  | _ => s

/-- `stoper` waits for `allShutdown.Start`. -/
def mayTake (s : State) : Registry.Label → Bool
  | .tearStart c => (s.controls c).stopping
  | _ => true

end State

def step (s : State) : Label → Option State
  | .add runID => some (s.add runID)
  | .look c =>
      let ctl := s.controls c
      if ctl.phase = .added then
        match ctl.old with
        | none => some (s.set c { ctl with phase := .ready })
        | some d =>
            if (s.controls d).started then some (s.set c { ctl with phase := .waiting })
            else some (s.set c { ctl with phase := .latching })
      else none
  | .latch c =>
      let ctl := s.controls c
      match ctl.phase, ctl.old with
      | .latching, some d => some (s.latch c d)
      | _, _ => none
  | .unblock c =>
      let ctl := s.controls c
      match ctl.phase, ctl.old with
      | .waiting, some d =>
          if (s.controls d).done then some (s.set c { ctl with phase := .ready }) else none
      | _, _ => none
  | .start c => if (s.controls c).phase = .ready then some (s.startControl c) else none
  | .del c =>
      let ctl := s.controls c
      if ctl.phase = .watching ∧ ctl.done then
        some ((s.del ctl.loginRunID c).set c { ctl with phase := .ended })
      else none
  | .stop c =>
      let ctl := s.controls c
      if ctl.phase ≠ .absent then some (s.set c { ctl with stopping := true }) else none
  | .table l =>
      if (s.controls l.actor).started ∧ ¬ Registry.StaleClose s.tables l ∧ s.mayTake l then
        (Registry.step s.tables l).map fun tables => { s.afterTable l with tables := tables }
      else none

/-! ## What a replacement promises -/

namespace State

def run (s : State) (c : Nat) : String := (s.controls c).loginRunID

/-- `stoper` has finished. -/
def Torn (s : State) (c : Nat) : Prop := (s.tables.controls c).torn = true

def Running (s : State) (c : Nat) : Prop := (s.controls c).started = true ∧ ¬ s.Torn c

/-- The teardown is complete, and the control has left nothing in the global table. -/
structure TornDown (s : State) (c : Nat) : Prop where
  torn : s.Torn c
  unregistered : ∀ name p, s.tables.pxys.get name = some p → p.ctl ≠ c
  closed : ∀ p, s.tables.registeredBy p = some c → s.tables.closes p = 1

end State

structure Clean (s : State) (l : Label) (t : State) : Prop where
  cleared : ∀ c, l = .start c → ∀ d, d < c → s.run d = s.run c → s.TornDown d
  alone : ∀ c d, t.Running c → t.Running d → t.run c = t.run d → c = d

/-- A login that looks at the control that it replaced finds it started. -/
def Patient (s : State) (l : Label) : Prop :=
  ∀ c d, l = .look c → (s.controls c).old = some d → (s.controls d).started = true

/-! ## The invariant -/

section Invariant

variable {s t : State} {c d : Nat} {ctl : Control}

/-- Every earlier control of the run id is torn down. -/
def State.Cleared (s : State) (c : Nat) : Prop := ∀ d, d < c → s.run d = s.run c → s.Torn d

/-- The last control of the run id among the first `n`; none stands for torn-down ones. -/
def State.Latest (s : State) (runID : String) (n : Nat) : Option Nat → Prop
  | some d => d < n ∧ s.run d = runID ∧ ∀ e, d < e → e < n → s.run e ≠ runID
  | none => ∀ e, e < n → s.run e = runID → s.Torn e

/-- The login is past its wait. -/
def Phase.Past : Phase → Prop
  | .ready | .watching | .ended => True
  | .absent | .added | .waiting | .latching => False

/-- The part of the invariant that speaks of one control. -/
structure Local (s : State) (c : Nat) (ctl : Control) : Prop where
  absent : ctl.phase = .absent ↔ s.added ≤ c
  patient : ctl.phase ≠ .latching
  started : ctl.started = true ↔ ctl.phase = .watching ∨ ctl.phase = .ended
  torn : s.Torn c → ctl.started = true
  done : ctl.done = true ↔ s.Torn c
  waiting : ctl.phase = .waiting → ∃ d, ctl.old = some d ∧ (s.controls d).started = true
  cleared : ctl.phase.Past → s.Cleared c
  old : c < s.added → s.Latest ctl.loginRunID c ctl.old

structure Inv (s : State) : Prop where
  tables : Registry.Inv s.tables
  accounted : Registry.Accounted s.tables
  locals : ∀ c, Local s c (s.controls c)
  current : ∀ runID, s.Latest runID s.added (s.ctlsByRunID.get runID)

theorem start_inv : Inv start where
  tables := Registry.start_inv
  accounted := Registry.start_accounted
  locals := by
    intro c
    constructor <;> simp [start, State.Torn, Registry.start, Phase.Past]
  current := by
    intro runID e none
    exact absurd none (Nat.not_lt_zero e)

theorem Local.lt_added (own : Local s c ctl) (present : ctl.phase ≠ .absent) : c < s.added :=
  Nat.lt_of_not_le (mt own.absent.2 present)

theorem Local.past_of_started (own : Local s c ctl) (began : ctl.started = true) :
    ctl.phase.Past := by
  rcases own.started.1 began with watching | ended
  · rw [watching]
    trivial
  · rw [ended]
    trivial

theorem Local.idle (own : Local s c ctl) (before : ctl.phase ≠ .watching)
    (running : ctl.phase ≠ .ended) : ctl.started = false := by
  rw [← Bool.not_eq_true, own.started]
  exact not_or.2 ⟨before, running⟩

theorem Local.untorn (own : Local s c ctl) (idle : ctl.started = false) : ¬ s.Torn c := by
  intro torn
  have began := own.torn torn
  rw [idle] at began
  cases began

theorem Inv.cleared_of_started (inv : Inv s) (began : (s.controls c).started = true) :
    s.Cleared c :=
  (inv.locals c).cleared ((inv.locals c).past_of_started began)

/-- The chain of replaced controls: a login whose old control was started is cleared as
soon as that one is torn down. -/
theorem Inv.cleared_of_old (inv : Inv s) (there : c < s.added)
    (replaced : (s.controls c).old = some d) (torn : s.Torn d) : s.Cleared c := by
  have latest := (inv.locals c).old there
  rw [replaced] at latest
  obtain ⟨earlier, same, last⟩ := latest
  have began : (s.controls d).started = true := (inv.locals d).torn torn
  intro e before sameRun
  rcases Nat.lt_trichotomy e d with less | rfl | more
  · exact inv.cleared_of_started began e less (sameRun.trans same.symm)
  · exact torn
  · exact absurd sameRun (last e more before)

theorem Inv.tornDown (inv : Inv s) (torn : s.Torn c) : s.TornDown c := by
  obtain ⟨unregistered, closed⟩ := Registry.torn_leaves_nothing inv.tables inv.accounted torn
  exact ⟨torn, unregistered, closed⟩

theorem Inv.alone (inv : Inv s) (first : s.Running c) (second : s.Running d)
    (same : s.run c = s.run d) : c = d := by
  rcases Nat.lt_trichotomy c d with less | equal | more
  · exact absurd (inv.cleared_of_started second.1 c less same) first.2
  · exact equal
  · exact absurd (inv.cleared_of_started first.1 d more same.symm) second.2

/-! ## The steps -/

theorem State.Latest.frame {runID : String} {n : Nat} {x : Option Nat}
    (latest : s.Latest runID n x) (torn : ∀ d, s.Torn d → t.Torn d)
    (run : ∀ d, d < n → t.run d = s.run d) : t.Latest runID n x := by
  cases x with
  | none =>
      intro e before same
      exact torn e (latest e before ((run e before).symm.trans same))
  | some d =>
      obtain ⟨before, same, last⟩ := latest
      refine ⟨before, (run d before).trans same, ?_⟩
      intro e later within
      rw [run e within]
      exact last e later within

/-- What a step does elsewhere, as far as it matters to the control. -/
theorem Local.frame (own : Local s c ctl) (absent : t.added ≤ c ↔ s.added ≤ c)
    (run : ∀ d, d < s.added → t.run d = s.run d) (torn : ∀ d, s.Torn d → t.Torn d)
    (mine : t.Torn c ↔ s.Torn c)
    (started : ∀ d, (s.controls d).started = true → (t.controls d).started = true) :
    Local t c ctl where
  absent := own.absent.trans absent.symm
  patient := own.patient
  started := own.started
  torn := fun now => own.torn (mine.1 now)
  done := own.done.trans mine.symm
  waiting := by
    intro waiting
    obtain ⟨d, replaced, began⟩ := own.waiting waiting
    exact ⟨d, replaced, started d began⟩
  cleared := by
    intro past d less same
    have there : c < s.added := own.lt_added fun none => by rwa [none] at past
    rw [run d (less.trans there), run c there] at same
    exact torn d (own.cleared past d less same)
  old := by
    intro within
    have there : c < s.added := Nat.lt_of_not_le (mt absent.2 (Nat.not_le_of_lt within))
    exact (own.old there).frame torn fun d less => run d (less.trans there)

@[simp] theorem set_controls_self : (s.set c ctl).controls c = ctl := by
  simp [State.set]

theorem set_controls_of_ne (s : State) (other : d ≠ c) :
    (s.set c ctl).controls d = s.controls d := by
  simp [State.set, other]

theorem set_run (same : ctl.loginRunID = s.run c) (d : Nat) : (s.set c ctl).run d = s.run d := by
  by_cases here : d = c
  · subst here
    rw [State.run, set_controls_self, same]
  · rw [State.run, set_controls_of_ne s here, State.run]

theorem set_started (began : (s.controls c).started = true → ctl.started = true) (d : Nat)
    (old : (s.controls d).started = true) : ((s.set c ctl).controls d).started = true := by
  by_cases here : d = c
  · subst here
    rw [set_controls_self]
    exact began old
  · rw [set_controls_of_ne s here]
    exact old

/-- The step writes the record of one control. -/
theorem set_inv (inv : Inv s) (own : Local s c ctl) (same : ctl.loginRunID = s.run c)
    (began : (s.controls c).started = true → ctl.started = true) : Inv (s.set c ctl) where
  tables := inv.tables
  accounted := inv.accounted
  locals := by
    intro d
    have kept : ∀ {ctl'}, Local s d ctl' → Local (s.set c ctl) d ctl' := fun own =>
      own.frame Iff.rfl (fun e _ => set_run same e) (fun _ => id) Iff.rfl (set_started began)
    by_cases here : d = c
    · subst here
      rw [set_controls_self]
      exact kept own
    · rw [set_controls_of_ne s here]
      exact kept (inv.locals d)
  current := fun runID => (inv.current runID).frame (fun _ => id) fun d _ => set_run same d

theorem look_inv (inv : Inv s) (patient : Patient s (.look c))
    (next : step s (.look c) = some t) : Inv t := by
  have own := inv.locals c
  simp only [step] at next
  split at next
  · rename_i added
    have there : c < s.added := own.lt_added (by simp [added])
    have idle : (s.controls c).started = false := own.idle (by simp [added]) (by simp [added])
    split at next
    · rename_i nobody
      cases next
      have latest := own.old there
      rw [nobody] at latest
      refine set_inv inv { own with
        absent := by simp [there]
        patient := by simp
        started := by simp [idle]
        waiting := by simp
        cleared := fun _ => latest } rfl id
    · rename_i d replaced
      have began := patient c d rfl replaced
      rw [if_pos began] at next
      cases next
      exact set_inv inv { own with
        absent := by simp [there]
        patient := by simp
        started := by simp [idle]
        waiting := fun _ => ⟨d, replaced, began⟩
        cleared := False.elim } rfl id
  · cases next

theorem unblock_inv (inv : Inv s) (next : step s (.unblock c) = some t) : Inv t := by
  have own := inv.locals c
  simp only [step] at next
  split at next
  · rename_i d waiting replaced
    split at next
    · rename_i done
      cases next
      have there : c < s.added := own.lt_added (by simp [waiting])
      have idle : (s.controls c).started = false :=
        own.idle (by simp [waiting]) (by simp [waiting])
      exact set_inv inv { own with
        absent := by simp [there]
        patient := by simp
        started := by simp [idle]
        waiting := by simp
        cleared := fun _ => inv.cleared_of_old there replaced ((inv.locals d).done.1 done) } rfl id
    · cases next
  · cases next

theorem start_step_inv (inv : Inv s) (next : step s (.start c) = some t) : Inv t := by
  have own := inv.locals c
  simp only [step] at next
  split at next
  · rename_i ready
    cases next
    have there : c < s.added := own.lt_added (by simp [ready])
    exact set_inv inv { own with
      absent := by simp [there]
      patient := by simp
      started := by simp
      torn := fun _ => rfl
      waiting := by simp
      cleared := fun _ => own.cleared (by rw [ready]; trivial) } rfl fun _ => rfl
  · cases next

theorem stop_inv (inv : Inv s) (next : step s (.stop c) = some t) : Inv t := by
  have own := inv.locals c
  simp only [step] at next
  split at next
  · cases next
    exact set_inv inv { own with } rfl id
  · cases next

/-- `Del` looks at the control, so that only an ended control makes way. -/
theorem forget_inv (inv : Inv s) (runID : String) (torn : s.Torn c) : Inv (s.del runID c) := by
  unfold State.del
  split
  · rename_i mine
    refine ⟨inv.tables, inv.accounted, ?_, ?_⟩
    · intro d
      exact (inv.locals d).frame Iff.rfl (fun _ _ => rfl) (fun _ => id) Iff.rfl fun _ => id
    · intro runID'
      by_cases same : runID' = runID
      · have latest := inv.current runID
        rw [mine] at latest
        obtain ⟨-, runOf, last⟩ := latest
        have cleared := inv.cleared_of_started ((inv.locals c).torn torn)
        simp only [GoMap.get_delete, same, if_true]
        intro e within sameRun
        rcases Nat.lt_trichotomy e c with less | rfl | more
        · exact cleared e less (sameRun.trans runOf.symm)
        · exact torn
        · exact absurd sameRun (last e more within)
      · simp only [GoMap.get_delete, same, if_false]
        exact inv.current runID'
  · exact inv

theorem del_inv (inv : Inv s) (next : step s (.del c) = some t) : Inv t := by
  have own := inv.locals c
  simp only [step] at next
  split at next
  · rename_i ending
    obtain ⟨watching, done⟩ := ending
    cases next
    have torn := own.done.1 done
    have there : c < s.added := own.lt_added (by simp [watching])
    have began := own.torn torn
    have forgotten := forget_inv inv (s.controls c).loginRunID torn
    have record : (s.del (s.controls c).loginRunID c).controls c = s.controls c := by
      unfold State.del
      split <;> rfl
    have own' := forgotten.locals c
    rw [record] at own'
    refine set_inv forgotten { own' with
      absent := ?_
      patient := by simp
      started := by simp [began]
      waiting := by simp
      cleared := fun _ => own'.cleared (by rw [watching]; trivial) } ?_ ?_
    · exact iff_of_false (by simp) fun beyond => by
        have := own'.absent.2 beyond
        simp [watching] at this
    · rw [State.run, record]
    · rw [record]
      exact id
  · cases next

theorem replaced_inv (inv : Inv s) (old : Option Nat) : Inv (s.replaced old) := by
  cases old with
  | none => exact inv
  | some d => exact set_inv inv { inv.locals d with } rfl id

theorem State.Latest.succ {runID : String} {n : Nat} {x : Option Nat}
    (latest : s.Latest runID n x) (other : s.run n ≠ runID) : s.Latest runID (n + 1) x := by
  cases x with
  | none =>
      intro e within same
      rcases Nat.lt_succ_iff_lt_or_eq.1 within with less | rfl
      · exact latest e less same
      · exact absurd same other
  | some d =>
      obtain ⟨before, runOf, last⟩ := latest
      refine ⟨Nat.lt_succ_of_lt before, runOf, ?_⟩
      intro e later within
      rcases Nat.lt_succ_iff_lt_or_eq.1 within with less | rfl
      · exact last e later less
      · exact other

theorem insert_inv (inv : Inv s) (runID : String) :
    Inv (s.insert runID (s.ctlsByRunID.get runID)) := by
  have absent : (s.controls s.added).phase = .absent := (inv.locals s.added).absent.2 le_rfl
  have idle : (s.controls s.added).started = false :=
    (inv.locals s.added).idle (by simp [absent]) (by simp [absent])
  have untorn : ¬ s.Torn s.added := (inv.locals s.added).untorn idle
  have run : ∀ d, d < s.added →
      (s.insert runID (s.ctlsByRunID.get runID)).run d = s.run d := by
    intro d less
    simp [State.run, State.insert, set_controls_of_ne s (Nat.ne_of_lt less)]
  refine ⟨inv.tables, inv.accounted, ?_, ?_⟩
  · intro d
    by_cases new : d = s.added
    · subst new
      simp only [State.insert, set_controls_self]
      constructor
      · simp
      · simp
      · simp
      · intro torn
        exact absurd torn untorn
      · exact iff_of_false (by simp) untorn
      · simp
      · exact False.elim
      · intro _
        exact (inv.current runID).frame (fun _ => id) run
    · have record : (s.insert runID (s.ctlsByRunID.get runID)).controls d = s.controls d :=
        set_controls_of_ne s new
      rw [record]
      refine (inv.locals d).frame ?_ run (fun _ => id) Iff.rfl ?_
      · show s.added + 1 ≤ d ↔ s.added ≤ d
        omega
      · intro e began
        have other : e ≠ s.added := fun same => by simp [same, idle] at began
        rwa [State.insert, set_controls_of_ne s other]
  · intro runID'
    have runOf : (s.insert runID (s.ctlsByRunID.get runID)).run s.added = runID := by
      simp [State.run, State.insert]
    by_cases same : runID' = runID
    · simp only [State.insert, GoMap.get_set, same, if_true]
      exact ⟨Nat.lt_succ_self s.added, runOf, fun e later within => by omega⟩
    · simp only [State.insert, GoMap.get_set, same, if_false]
      show (s.insert runID (s.ctlsByRunID.get runID)).Latest runID' (s.added + 1) _
      apply State.Latest.succ
      · exact (inv.current runID').frame (fun _ => id) run
      · intro equal
        exact same (equal.symm.trans runOf)

theorem add_inv (inv : Inv s) (runID : String) : Inv (s.add runID) := by
  have inv' := insert_inv (replaced_inv inv (s.ctlsByRunID.get runID)) runID
  have same : (s.replaced (s.ctlsByRunID.get runID)).ctlsByRunID = s.ctlsByRunID := by
    cases s.ctlsByRunID.get runID <;> rfl
  rw [same] at inv'
  exact inv'

theorem afterTable_of_ne (s : State) {l : Registry.Label} (other : l ≠ .tearDone d) :
    (s.afterTable l).controls d = s.controls d := by
  cases l with
  | tearDone c => exact set_controls_of_ne s fun same => other (by rw [same])
  | _ => rfl

theorem afterTable_kept (s : State) (l : Registry.Label) :
    (s.afterTable l).ctlsByRunID = s.ctlsByRunID ∧ (s.afterTable l).added = s.added ∧
      ∀ d, (s.afterTable l).run d = s.run d ∧
        ((s.afterTable l).controls d).started = (s.controls d).started := by
  cases l with
  | tearDone c =>
      refine ⟨rfl, rfl, fun d => ⟨?_, ?_⟩⟩
      · refine set_run ?_ d
        rfl
      · by_cases here : d = c
        · simp [State.afterTable, here]
        · rw [State.afterTable, set_controls_of_ne s here]
  | _ => exact ⟨rfl, rfl, fun _ => ⟨rfl, rfl⟩⟩

theorem table_inv {l : Registry.Label} (inv : Inv s) (next : step s (.table l) = some t) :
    Inv t := by
  simp only [step] at next
  split at next
  · rename_i allowed
    obtain ⟨began, fresh, -⟩ := allowed
    obtain ⟨tables, done, rfl⟩ := Option.map_eq_some_iff.1 next
    obtain ⟨map, added, kept⟩ := afterTable_kept s l
    have torn : ∀ d, (tables.controls d).torn = true ↔ s.Torn d ∨ l = .tearDone d :=
      fun d => Registry.torn_step_iff done
    have later : ∀ d, s.Torn d → (tables.controls d).torn = true := fun d old =>
      (torn d).2 (.inl old)
    have started : ∀ d, (s.controls d).started = true →
        ((s.afterTable l).controls d).started = true := fun d old => by rw [(kept d).2, old]
    refine ⟨Registry.step_inv inv.tables fresh done,
      Registry.accounted_step inv.tables inv.accounted done, ?_, ?_⟩
    · intro d
      by_cases ends : l = .tearDone d
      · subst ends
        have own := inv.locals d
        have record : (s.afterTable (.tearDone d)).controls d =
            { s.controls d with done := true } := set_controls_self
        have past : ∀ e, e < d → s.run e = s.run d → (tables.controls e).torn = true :=
          fun e less same => later e (inv.cleared_of_started began e less same)
        show Local _ d ((s.afterTable (.tearDone d)).controls d)
        rw [record]
        exact {
          absent := by
            show _ ↔ (s.afterTable (.tearDone d)).added ≤ d
            rw [added]
            exact own.absent
          patient := own.patient
          started := own.started
          torn := fun _ => began
          done := iff_of_true rfl ((torn d).2 (.inr rfl))
          waiting := by
            intro waiting
            obtain ⟨e, replaced, old⟩ := own.waiting waiting
            exact ⟨e, replaced, started e old⟩
          cleared := by
            intro _ e less same
            apply past e less
            rw [← (kept e).1, ← (kept d).1]
            exact same
          old := fun within => (own.old (added ▸ within)).frame later fun e _ => (kept e).1 }
      · show Local _ d ((s.afterTable l).controls d)
        rw [afterTable_of_ne s ends]
        exact (inv.locals d).frame (by rw [added]) (fun e _ => (kept e).1) later
          ((torn d).trans (or_iff_left ends)) started
    · intro runID
      show State.Latest _ runID (s.afterTable l).added ((s.afterTable l).ctlsByRunID.get runID)
      rw [map, added]
      exact (inv.current runID).frame later fun e _ => (kept e).1
  · cases next

theorem latch_stuck (inv : Inv s) : step s (.latch c) = none := by
  have patient := (inv.locals c).patient
  simp only [step]
  split
  · rename_i latching replaced
    exact absurd latching patient
  · rfl

theorem step_inv {l : Label} (inv : Inv s) (patient : Patient s l) (next : step s l = some t) :
    Inv t := by
  cases l with
  | add runID =>
      cases next
      exact add_inv inv runID
  | look c => exact look_inv inv patient next
  | latch c =>
      rw [latch_stuck inv] at next
      cases next
  | unblock c => exact unblock_inv inv next
  | start c => exact start_step_inv inv next
  | del c => exact del_inv inv next
  | stop c => exact stop_inv inv next
  | table l => exact table_inv inv next

theorem step_clean {l : Label} (inv : Inv s) (patient : Patient s l) (next : step s l = some t) :
    Clean s l t := by
  constructor
  · rintro c rfl d less same
    simp only [step] at next
    split at next
    · rename_i ready
      have cleared := (inv.locals c).cleared (by rw [ready]; trivial)
      exact inv.tornDown (cleared d less same)
    · cases next
  · intro c d
    exact (step_inv inv patient next).alone

/-! ## A login that does not find the old control started -/

/-- From `s` to `t`, the control is started and nothing else changes but its record. -/
structure Starts (c : Nat) (s t : State) : Prop where
  tables : t.tables = s.tables
  others : ∀ d, d ≠ c → t.controls d = s.controls d
  started : (t.controls c).started = true
  run : t.run c = s.run c

theorem Starts.of_set (starts : Starts c (s.set c ctl) t) (same : ctl.loginRunID = s.run c) :
    Starts c s t where
  tables := starts.tables
  others := fun d other => (starts.others d other).trans (set_controls_of_ne s other)
  started := starts.started
  run := starts.run.trans (set_run same c)

theorem starts_of_ready (ready : (s.controls c).phase = .ready) :
    ∃ ms t, exec step s ms = some t ∧ Starts c s t := by
  refine ⟨[.start c], s.startControl c, ?_, ?_⟩
  · simp [exec, step, ready]
  · exact ⟨rfl, fun d other => set_controls_of_ne s other, by simp [State.startControl],
      by simp [State.startControl, State.run]⟩

theorem starts_of_waiting (waiting : (s.controls c).phase = .waiting)
    (replaced : (s.controls c).old = some d) (done : (s.controls d).done = true) :
    ∃ ms t, exec step s ms = some t ∧ Starts c s t := by
  obtain ⟨ms, t, run, starts⟩ :=
    starts_of_ready (s := s.set c { s.controls c with phase := .ready }) (c := c) (by simp)
  refine ⟨.unblock c :: ms, t, exec_cons_eq_some.2 ⟨_, ?_, run⟩, starts.of_set rfl⟩
  simp [step, waiting, replaced, done]

theorem starts_of_added (added : (s.controls c).phase = .added)
    (clear : ∀ d, (s.controls c).old = some d →
      d ≠ c ∧ (s.controls d).started = true ∧ (s.controls d).done = true) :
    ∃ ms t, exec step s ms = some t ∧ Starts c s t := by
  cases replaced : (s.controls c).old with
  | none =>
      obtain ⟨ms, t, run, starts⟩ :=
        starts_of_ready (s := s.set c { s.controls c with phase := .ready }) (c := c) (by simp)
      refine ⟨.look c :: ms, t, exec_cons_eq_some.2 ⟨_, ?_, run⟩, starts.of_set rfl⟩
      simp [step, added, replaced]
  | some d =>
      obtain ⟨other, began, done⟩ := clear d replaced
      obtain ⟨ms, t, run, starts⟩ :=
        starts_of_waiting (s := s.set c { s.controls c with phase := .waiting }) (c := c) (d := d)
          (by simp) (by simpa using replaced) (by rwa [set_controls_of_ne s other])
      refine ⟨.look c :: ms, t, exec_cons_eq_some.2 ⟨_, ?_, run⟩, starts.of_set rfl⟩
      simp [step, added, replaced, began]

/-- A login whose control is not started yet, when all earlier controls of the run id are
torn down, can start it. -/
theorem Inv.can_start (inv : Inv s) {e : Nat} (there : e < s.added)
    (idle : (s.controls e).started = false) (cleared : s.Cleared e)
    (same : ∀ d, d ≤ e → t.controls d = s.controls d) :
    ∃ ms u, exec step t ms = some u ∧ Starts e t u := by
  have own := inv.locals e
  have ended : ∀ d, (s.controls e).old = some d →
      d < e ∧ (s.controls d).started = true ∧ (s.controls d).done = true := by
    intro d replaced
    have latest := own.old there
    rw [replaced] at latest
    have torn := cleared d latest.1 latest.2.1
    exact ⟨latest.1, (inv.locals d).torn torn, (inv.locals d).done.2 torn⟩
  have record := same e le_rfl
  cases phase : (s.controls e).phase with
  | absent => exact absurd (own.absent.1 phase) (Nat.not_le_of_lt there)
  | added =>
      apply starts_of_added (by rw [record, phase])
      intro d replaced
      rw [record] at replaced
      obtain ⟨less, began, done⟩ := ended d replaced
      rw [same d less.le]
      exact ⟨less.ne, began, done⟩
  | waiting =>
      obtain ⟨d, replaced, -⟩ := own.waiting phase
      obtain ⟨less, -, done⟩ := ended d replaced
      apply starts_of_waiting (by rw [record, phase]) (by rw [record, replaced])
      rw [same d less.le]
      exact done
  | latching => exact absurd phase own.patient
  | ready => exact starts_of_ready (by rw [record, phase])
  | watching =>
      rw [own.started.2 (.inl phase)] at idle
      cases idle
  | ended =>
      rw [own.started.2 (.inr phase)] at idle
      cases idle

/-- If an earlier control of the run id is not torn down, one runs or can be started. -/
theorem Inv.can_run_earlier (inv : Inv s) (there : c ≤ s.added) (earlier : d < c)
    (sameRun : s.run d = s.run c) (untorn : ¬ s.Torn d)
    (same : ∀ e, e < c → t.controls e = s.controls e) :
    ∃ ms u e, exec step t ms = some u ∧ u.tables = t.tables ∧ (∀ f, c ≤ f →
      u.controls f = t.controls f) ∧ e < c ∧ u.run e = s.run c ∧ ¬ s.Torn e ∧
      (u.controls e).started = true := by
  induction d using Nat.strongRecOn with
  | ind d ih =>
      by_cases cleared : s.Cleared d
      · cases began : (s.controls d).started with
        | true =>
            refine ⟨[], t, d, rfl, rfl, fun _ _ => rfl, earlier, ?_, untorn, ?_⟩
            · rw [State.run, same d earlier]
              exact sameRun
            · rw [same d earlier, began]
        | false =>
            obtain ⟨ms, u, run, starts⟩ := inv.can_start (earlier.trans_le there) began cleared
              fun e less => same e (Nat.lt_of_le_of_lt less earlier)
            refine ⟨ms, u, d, run, starts.tables, ?_, earlier, ?_, untorn,
              starts.started⟩
            · intro f later
              exact starts.others f (Nat.ne_of_gt (earlier.trans_le later))
            · rw [starts.run, State.run, same d earlier]
              exact sameRun
      · -- a still earlier control is not torn down
        simp only [State.Cleared, not_forall] at cleared
        obtain ⟨e, less, equal, untorn'⟩ := cleared
        exact ih e less (less.trans earlier) (equal.trans sameRun) untorn'

theorem latch_start (latching : (s.controls c).phase = .latching)
    (replaced : (s.controls c).old = some d) :
    ∃ t, exec step s [.latch c, .start c] = some t ∧ t.tables = s.tables ∧
      (t.controls c).started = true ∧ ∀ e, t.run e = s.run e ∧
        ((s.controls e).started = true → (t.controls e).started = true) := by
  refine ⟨(s.latch c d).startControl c, ?_, rfl, by simp [State.startControl], fun e => ?_⟩
  · simp [exec, step, latching, replaced, State.latch]
  · constructor
    · refine (set_run ?_ e).trans ((set_run ?_ e).trans (set_run ?_ e)) <;> rfl
    · intro began
      refine set_started (fun _ => rfl) e (set_started ?_ e (set_started ?_ e began)) <;> exact id

/-- The login goes on, and its control runs beside an earlier one. -/
theorem Inv.beside (inv : Inv s) (added : (s.controls c).phase = .added)
    (replaced : (s.controls c).old = some d) (idle : (s.controls d).started = false) :
    ∃ ms t e, exec step s (.look c :: ms) = some t ∧ e ≠ c ∧ t.run e = t.run c ∧
      t.Running e ∧ t.Running c := by
  have own := inv.locals c
  have there : c < s.added := own.lt_added (by simp [added])
  have latest := own.old there
  rw [replaced] at latest
  obtain ⟨earlier, sameRun, -⟩ := latest
  have untorn : ¬ s.Torn d := (inv.locals d).untorn idle
  have untornSelf : ¬ s.Torn c := own.untorn (own.idle (by simp [added]) (by simp [added]))
  have looked : step s (.look c) = some (s.set c { s.controls c with phase := .latching }) := by
    simp [step, added, replaced, idle]
  obtain ⟨ms, u, e, run, tables, kept, less, sameRun', untorn', began⟩ :=
    inv.can_run_earlier (t := s.set c { s.controls c with phase := .latching }) there.le earlier
      sameRun untorn fun e less => set_controls_of_ne s less.ne
  have record : u.controls c = { s.controls c with phase := .latching } := by
    rw [kept c le_rfl, set_controls_self]
  obtain ⟨t, last, tables', started, others⟩ :=
    latch_start (s := u) (c := c) (d := d) (by rw [record]) (by rw [record]; exact replaced)
  have torn : ∀ f, t.Torn f ↔ s.Torn f := by
    intro f
    rw [State.Torn, tables', tables]
    exact Iff.rfl
  refine ⟨ms ++ [.latch c, .start c], t, e, ?_, less.ne, ?_, ⟨(others e).2 began, ?_⟩,
    ⟨started, ?_⟩⟩
  · exact exec_cons_eq_some.2 ⟨_, looked, exec_append_eq_some.2 ⟨u, run, last⟩⟩
  · rw [(others e).1, (others c).1, sameRun', State.run, State.run, record]
  · rwa [torn]
  · rwa [torn]

end Invariant

/-- **In a run in which every login finds the control that it replaced started, a control
starts when all earlier ones of its run id are torn down, and no two of them run
together.  The first login that does not can go on to run its control beside another.** -/
theorem patient_runs_replace_cleanly (ls : List Label) :
    (Along step (fun s l _ => Patient s l) start ls → Along step Clean start ls) ∧
      ∀ s c, Along step (fun s l _ => Patient s l) start ls → exec step start ls = some s →
        step s (.look c) ≠ none → ¬ Patient s (.look c) →
        ∃ ms t e, exec step s (.look c :: ms) = some t ∧ e ≠ c ∧ t.run e = t.run c ∧
          t.Running e ∧ t.Running c := by
  have kept : ∀ s l t, Inv s → Patient s l → step s l = some t → Inv t :=
    fun _ _ _ inv patient next => step_inv inv patient next
  have clean : ∀ s l t, Inv s → Patient s l → step s l = some t → Clean s l t :=
    fun _ _ _ inv patient next => step_clean inv patient next
  constructor
  · intro along
    exact Along.strengthen Inv kept clean start_inv along
  · intro s c along run enabled impatient
    have inv := invariant_of_along Inv kept start_inv along run
    simp only [Patient, not_forall] at impatient
    obtain ⟨a, d, same, replaced, idle⟩ := impatient
    cases same
    have added : (s.controls c).phase = .added := by
      by_contra other
      simp [step, other] at enabled
    exact inv.beside added replaced (Bool.eq_false_iff.2 idle)

/-- Login 1 replaces 0 before 0 has started its control, and starts its own; then login 0
goes on. -/
def overtaking : List Label :=
  [.add "r", .add "r", .look 1, .latch 1, .start 1, .look 0, .start 0]

/-- Login 0 runs "web".  Login 1 waits for its end; login 2 replaces 1 and does not wait. -/
def overtakingChain : List Label :=
  [.add "r", .look 0, .start 0, .table (.exist 0 "web"), .table (.run 0 true), .table (.add 0),
    .table (.insert 0), .add "r", .look 1, .add "r", .look 2, .latch 2, .start 2]

/-- **Two controls of a run id run together; and one is started while the proxy of an
earlier one is registered.** -/
theorem overtaking_login_runs_beside :
    (∃ t, exec step start overtaking = some t ∧ t.run 0 = t.run 1 ∧ t.Running 0 ∧ t.Running 1) ∧
      (∃ t, exec step start overtakingChain = some t ∧ t.run 0 = t.run 2 ∧ t.Running 2 ∧
        t.tables.pxys.get "web" = some ⟨"web", 0, 0⟩) ∧
      ¬ ∀ ls, Along step Clean start ls := by
  have first : (exec step start overtaking).map (fun t =>
      ((t.run 0, t.run 1), ((t.controls 0).started, (t.tables.controls 0).torn),
        ((t.controls 1).started, (t.tables.controls 1).torn))) =
      some (("r", "r"), (true, false), (true, false)) := by decide
  have second : (exec step start overtakingChain).map (fun t =>
      ((t.run 0, t.run 2), ((t.controls 2).started, (t.tables.controls 2).torn),
        t.tables.pxys.get "web")) =
      some (("r", "r"), (true, false), some ⟨"web", 0, 0⟩) := by decide
  obtain ⟨t, run, found⟩ := Option.map_eq_some_iff.1 first
  obtain ⟨u, chain, found'⟩ := Option.map_eq_some_iff.1 second
  simp only [Prod.mk.injEq] at found found'
  obtain ⟨⟨run0, run1⟩, ⟨started0, live0⟩, ⟨started1, live1⟩⟩ := found
  obtain ⟨⟨run0', run2⟩, ⟨started2, live2⟩, entry⟩ := found'
  have same : t.run 0 = t.run 1 := run0.trans run1.symm
  have running0 : t.Running 0 := ⟨started0, by simp [State.Torn, live0]⟩
  have running1 : t.Running 1 := ⟨started1, by simp [State.Torn, live1]⟩
  refine ⟨⟨t, run, same, running0, running1⟩,
    ⟨u, chain, run0'.trans run2.symm, ⟨started2, by simp [State.Torn, live2]⟩, entry⟩, ?_⟩
  intro clean
  have steps : overtaking = overtaking.take 6 ++ [.start 0] := rfl
  rw [steps, exec_append_eq_some] at run
  obtain ⟨s, before, last⟩ := run
  obtain ⟨t', next, done⟩ := exec_cons_eq_some.1 last
  cases done
  have along : Along step Clean s [.start 0] := (clean overtaking).of_append before
  have equal := (along t next).1.alone 0 1 running0 running1 same
  cases equal

end ChmlFrp.Server.Replacement
