/-
# ChmlFrp.Lib.Transition — runs of a machine whose labels carry the choices

A machine is a partial function `step : σ → ℓ → Option σ`.  Everything the
scheduler or the environment decides stands in the label, so a run is a list of
labels and can be evaluated; `none` says that the label is not enabled.

* `exec` runs a schedule; `Along` says that every transition it takes meets a
  relation, a condition on the state before the step being the special case.
* `invariant_of_along` and `Reachable.invariant` are the induction over a run.
* `strengthen_and_tight` is the form of a result about all runs under a condition that
  cannot be weakened.
* `along_iff_along` compares two conditions step by step under an invariant: it
  turns "this step goes wrong exactly when ..." into the same statement of runs.
* `canReach_of_measure` builds a run to a goal out of one step of progress, and
  `not_canReach_of_trap` rules one out by a set of states that no step leaves.
-/
import Mathlib.Data.Option.Basic
import Mathlib.Tactic.Common

namespace ChmlFrp.Lib.Transition

set_option autoImplicit false

universe u v

variable {σ : Type u} {ℓ : Type v} (step : σ → ℓ → Option σ)

/-! ## Runs -/

/-- The state a schedule ends in, if every label of it is enabled in turn. -/
def exec : σ → List ℓ → Option σ
  | s, [] => some s
  | s, l :: ls => (step s l).bind fun t => exec t ls

/-- Every transition the schedule takes meets `rel`. -/
def Along (rel : σ → ℓ → σ → Prop) : σ → List ℓ → Prop
  | _, [] => True
  | s, l :: ls => ∀ t, step s l = some t → rel s l t ∧ Along rel t ls

/-- The states some schedule reaches from `init`. -/
def Reachable (init s : σ) : Prop := ∃ ls, exec step init ls = some s

/-- Some schedule leads from `s` to a state that meets `goal`. -/
def CanReach (goal : σ → Prop) (s : σ) : Prop := ∃ ls t, exec step s ls = some t ∧ goal t

variable {step}

@[simp] theorem exec_nil (s : σ) : exec step s [] = some s := rfl

theorem exec_cons_eq_some {s u : σ} {l : ℓ} {ls : List ℓ} :
    exec step s (l :: ls) = some u ↔ ∃ t, step s l = some t ∧ exec step t ls = some u := by
  simp [exec, Option.bind_eq_some_iff]

theorem exec_append_eq_some {s u : σ} {ls ms : List ℓ} :
    exec step s (ls ++ ms) = some u ↔
      ∃ t, exec step s ls = some t ∧ exec step t ms = some u := by
  induction ls generalizing s with
  | nil => simp
  | cons l ls ih =>
      simp only [List.cons_append, exec_cons_eq_some, ih]
      constructor
      · rintro ⟨t, first, v, rest, last⟩
        exact ⟨v, ⟨t, first, rest⟩, last⟩
      · rintro ⟨v, ⟨t, first, rest⟩, last⟩
        exact ⟨t, first, v, rest, last⟩

theorem along_cons_of_some {rel : σ → ℓ → σ → Prop} {s t : σ} {l : ℓ} {ls : List ℓ}
    (next : step s l = some t) :
    Along step rel s (l :: ls) ↔ rel s l t ∧ Along step rel t ls := by
  simp [Along, next]

theorem along_cons_of_none {rel : σ → ℓ → σ → Prop} {s : σ} {l : ℓ} {ls : List ℓ}
    (stuck : step s l = none) : Along step rel s (l :: ls) := by
  simp [Along, stuck]

theorem Along.of_append {rel : σ → ℓ → σ → Prop} {s t : σ} {ls ms : List ℓ}
    (along : Along step rel s (ls ++ ms)) (run : exec step s ls = some t) :
    Along step rel t ms := by
  induction ls generalizing s with
  | nil =>
      cases run
      exact along
  | cons l ls ih =>
      obtain ⟨u, first, rest⟩ := exec_cons_eq_some.1 run
      exact ih (along u first).2 rest

instance decidableAlong {rel : σ → ℓ → σ → Prop} [∀ s l t, Decidable (rel s l t)] :
    ∀ (s : σ) (ls : List ℓ), Decidable (Along step rel s ls)
  | _, [] => isTrue trivial
  | s, l :: ls =>
      match next : step s l with
      | none => isTrue (along_cons_of_none next)
      | some t =>
          have : Decidable (Along step rel t ls) := decidableAlong t ls
          decidable_of_iff (rel s l t ∧ Along step rel t ls) (along_cons_of_some next).symm

/-! ## Invariants of runs -/

/-- The induction over a run: an invariant that every step meeting `rel` preserves
holds at the end of a run whose steps all meet it. -/
theorem invariant_of_along {rel : σ → ℓ → σ → Prop} (inv : σ → Prop)
    (preserved : ∀ s l t, inv s → rel s l t → step s l = some t → inv t)
    {s t : σ} {ls : List ℓ} (start : inv s) (along : Along step rel s ls)
    (run : exec step s ls = some t) : inv t := by
  induction ls generalizing s with
  | nil =>
      cases run
      exact start
  | cons l ls ih =>
      obtain ⟨u, first, rest⟩ := exec_cons_eq_some.1 run
      obtain ⟨good, later⟩ := along u first
      exact ih (preserved s l u start good first) later rest

theorem along_of_forall {rel : σ → ℓ → σ → Prop} (all : ∀ s l t, rel s l t) (s : σ)
    (ls : List ℓ) : Along step rel s ls := by
  induction ls generalizing s with
  | nil => trivial
  | cons l ls ih => exact fun t _ => ⟨all s l t, ih t⟩

/-- A condition on the labels of a schedule holds along it. -/
theorem along_of_labels {good : ℓ → Prop} {ls : List ℓ} (all : ∀ l ∈ ls, good l) (s : σ) :
    Along step (fun _ l _ => good l) s ls := by
  induction ls generalizing s with
  | nil => trivial
  | cons l ls ih =>
      intro t _
      exact ⟨all l List.mem_cons_self, ih (fun m inside => all m (List.mem_cons_of_mem l inside)) t⟩

theorem invariant_of_exec {inv : σ → Prop}
    (preserved : ∀ s l t, inv s → step s l = some t → inv t)
    {s t : σ} {ls : List ℓ} (start : inv s) (run : exec step s ls = some t) : inv t :=
  have free : Along step (fun _ _ _ => True) s ls := along_of_forall (fun _ _ _ => trivial) s ls
  invariant_of_along inv (fun s l t i _ => preserved s l t i) start free run

/-- An invariant that speaks of the schedule so far. -/
theorem history_of_exec {inv : List ℓ → σ → Prop}
    (preserved : ∀ past s l t, inv past s → step s l = some t → inv (past ++ [l]) t)
    {past : List ℓ} {s t : σ} {ls : List ℓ} (start : inv past s) (run : exec step s ls = some t) :
    inv (past ++ ls) t := by
  induction ls generalizing past s with
  | nil =>
      cases run
      rwa [List.append_nil]
  | cons l ls ih =>
      obtain ⟨u, first, rest⟩ := exec_cons_eq_some.1 run
      have later := ih (preserved past s l u start first) rest
      rwa [List.append_assoc] at later

theorem Reachable.invariant {inv : σ → Prop}
    (preserved : ∀ s l t, inv s → step s l = some t → inv t)
    {init s : σ} (start : inv init) (reached : Reachable step init s) : inv s := by
  obtain ⟨ls, run⟩ := reached
  exact invariant_of_exec preserved start run

/-- What a step meeting `rel` from a state of the invariant satisfies holds along every
run whose steps meet `rel`. -/
theorem Along.strengthen {rel other : σ → ℓ → σ → Prop} (inv : σ → Prop)
    (preserved : ∀ s l t, inv s → rel s l t → step s l = some t → inv t)
    (implied : ∀ s l t, inv s → rel s l t → step s l = some t → other s l t)
    {s : σ} (start : inv s) {ls : List ℓ} (along : Along step rel s ls) :
    Along step other s ls := by
  induction ls generalizing s with
  | nil => trivial
  | cons l ls ih =>
      intro t first
      obtain ⟨good, later⟩ := along t first
      exact ⟨implied s l t start good first, ih (preserved s l t start good first) later⟩

/-- A condition under which `other` holds along a run, and which is tight: from a step
that breaks it a run leads on to a step that is not in `other`. -/
theorem strengthen_and_tight {rel other : σ → ℓ → σ → Prop} (inv : σ → Prop)
    (preserved : ∀ s l t, inv s → rel s l t → step s l = some t → inv t)
    (implied : ∀ s l t, inv s → rel s l t → step s l = some t → other s l t)
    (broken : ∀ s l t, inv s → ¬ rel s l t → step s l = some t →
      ∃ more, ¬ Along step other s (l :: more))
    {init : σ} (start : inv init) (ls : List ℓ) :
    (Along step rel init ls → Along step other init ls) ∧
      ∀ s l t, Along step rel init ls → exec step init ls = some s → ¬ rel s l t →
        step s l = some t → ∃ more, ¬ Along step other init (ls ++ l :: more) := by
  constructor
  · intro along
    exact along.strengthen inv preserved implied start
  · intro s l t along run breaks next
    obtain ⟨more, fails⟩ := broken s l t (invariant_of_along inv preserved start along run)
      breaks next
    exact ⟨more, fun all => fails (all.of_append run)⟩

/-- What every step of a run leaves, the run leaves. -/
theorem Along.last {after : σ → Prop} {s t : σ} {l : ℓ} {ls : List ℓ}
    (along : Along step (fun _ _ t => after t) s (l :: ls))
    (run : exec step s (l :: ls) = some t) : after t := by
  obtain ⟨u, first, rest⟩ := exec_cons_eq_some.1 run
  obtain ⟨now, later⟩ := along u first
  exact invariant_of_along after (fun _ _ _ _ good _ => good) now later rest

/-- Two conditions that agree on every step from a state of the invariant agree
along every run, where the first of them is all that the invariant needs. -/
theorem along_iff_along {rel other : σ → ℓ → σ → Prop} (inv : σ → Prop)
    (preserved : ∀ s l t, inv s → rel s l t → step s l = some t → inv t)
    (agree : ∀ s l t, inv s → step s l = some t → (rel s l t ↔ other s l t))
    {s : σ} (start : inv s) (ls : List ℓ) :
    Along step rel s ls ↔ Along step other s ls := by
  induction ls generalizing s with
  | nil => exact Iff.rfl
  | cons l ls ih =>
      constructor
      · intro along t first
        obtain ⟨good, later⟩ := along t first
        exact ⟨(agree s l t start first).1 good,
          (ih (preserved s l t start good first)).1 later⟩
      · intro along t first
        obtain ⟨good, later⟩ := along t first
        have good' := (agree s l t start first).2 good
        exact ⟨good', (ih (preserved s l t start good' first)).2 later⟩

/-! ## What a run can still reach -/

theorem CanReach.here {goal : σ → Prop} {s : σ} (now : goal s) : CanReach step goal s :=
  ⟨[], s, rfl, now⟩

theorem CanReach.of_step {goal : σ → Prop} {s t : σ} {l : ℓ} (next : step s l = some t)
    (later : CanReach step goal t) : CanReach step goal s := by
  obtain ⟨ls, u, run, reached⟩ := later
  exact ⟨l :: ls, u, exec_cons_eq_some.2 ⟨t, next, run⟩, reached⟩

theorem CanReach.trans {goal next : σ → Prop} {s : σ} (first : CanReach step next s)
    (later : ∀ t, next t → CanReach step goal t) : CanReach step goal s := by
  obtain ⟨ls, t, run, reached⟩ := first
  obtain ⟨ms, u, rest, done⟩ := later t reached
  exact ⟨ls ++ ms, u, exec_append_eq_some.2 ⟨t, run, rest⟩, done⟩

/-- One step of progress, measured by a natural number, is enough to reach the goal. -/
theorem canReach_of_measure {goal : σ → Prop} (inv : σ → Prop) (measure : σ → Nat)
    (progress : ∀ s, inv s → ¬ goal s →
      ∃ l t, step s l = some t ∧ inv t ∧ measure t < measure s)
    {s : σ} (start : inv s) : CanReach step goal s := by
  induction bound : measure s using Nat.strongRecOn generalizing s with
  | ind n ih =>
      by_cases done : goal s
      · exact .here done
      · obtain ⟨l, t, next, kept, less⟩ := progress s start done
        exact .of_step next (ih (measure t) (bound ▸ less) kept rfl)

/-- A step from which a state without `after` can be reached starts a run that breaks it. -/
theorem not_along_of_canReach {after : σ → Prop} {s t : σ} {l : ℓ} (next : step s l = some t)
    (breaks : CanReach step (fun u => ¬ after u) t) :
    ∃ more, ¬ Along step (fun _ _ u => after u) s (l :: more) := by
  obtain ⟨more, u, run, without⟩ := breaks
  exact ⟨more, fun along => without (along.last (exec_cons_eq_some.2 ⟨t, next, run⟩))⟩

/-- A state with `after` from which one without it can be reached starts a run that breaks it. -/
theorem exists_not_along {after : σ → Prop} {s : σ} (now : after s)
    (breaks : CanReach step (fun t => ¬ after t) s) :
    ∃ ls, ¬ Along step (fun _ _ t => after t) s ls := by
  obtain ⟨ls, t, run, without⟩ := breaks
  cases ls with
  | nil =>
      cases run
      exact absurd now without
  | cons l ls => exact ⟨l :: ls, fun along => without (along.last run)⟩

/-- A step from which one outside the relation can be reached starts a run that breaks it. -/
theorem not_along_of_canReach_step {rel : σ → ℓ → σ → Prop} {s t : σ} {l : ℓ}
    (next : step s l = some t)
    (breaks : CanReach step (fun u => ∃ m v, step u m = some v ∧ ¬ rel u m v) t) :
    ∃ more, ¬ Along step rel s (l :: more) := by
  obtain ⟨more, u, run, m, v, last, outside⟩ := breaks
  refine ⟨more ++ [m], fun along => ?_⟩
  have ends : Along step rel u [m] := (along t next).2.of_append run
  exact outside (ends v last).1

/-- A set of states that no step leaves and that misses the goal keeps the goal out
of reach. -/
theorem not_canReach_of_trap {goal : σ → Prop} (trap : σ → Prop)
    (closed : ∀ s l t, trap s → step s l = some t → trap t)
    (misses : ∀ s, trap s → ¬ goal s) {s : σ} (start : trap s) : ¬ CanReach step goal s := by
  rintro ⟨ls, t, run, reached⟩
  exact misses t (invariant_of_exec closed start run) reached

/-! ## Runs that come to an end -/

/-- Where every step does some of the work that is left, a run has at most as many steps. -/
theorem length_le_work {trap : σ → Prop} (work : σ → Nat)
    (works : ∀ s l t, trap s → step s l = some t → trap t ∧ work t < work s)
    {s t : σ} {ls : List ℓ} (start : trap s) (run : exec step s ls = some t) :
    trap t ∧ ls.length + work t ≤ work s := by
  induction ls generalizing s with
  | nil =>
      cases run
      exact ⟨start, by simp⟩
  | cons l ls ih =>
      obtain ⟨u, first, rest⟩ := exec_cons_eq_some.1 run
      obtain ⟨kept, less⟩ := works s l u start first
      obtain ⟨last, bound⟩ := ih kept rest
      refine ⟨last, ?_⟩
      rw [List.length_cons]
      omega

end ChmlFrp.Lib.Transition
