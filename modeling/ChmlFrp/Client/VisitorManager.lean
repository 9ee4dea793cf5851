/-
# ChmlFrp.Client.VisitorManager — the visitors that follow the configurations

`client/visitor/visitor_manager.go`.  The manager keeps the configurations and, of those
whose visitor has started, the visitor.  `Reload` and the ticks of `Run` hold the mutex from
their first pass to their last; a tick tries again those that have not started.

* `visitors_follow`: what runs is configured, and runs as it is configured; what `Reload`
  leaves is what it was given; a visitor whose configuration is the same is the same, and
  the others are closed once; a `Reload` with the same configurations changes nothing.
-/
import ChmlFrp.Lib.Sync
import ChmlFrp.Lib.Transition
import Mathlib.Data.List.Basic

namespace ChmlFrp.Client

set_option autoImplicit false

universe u

open ChmlFrp.Lib
open ChmlFrp.Lib.Transition

/-- Configurations by their own names. -/
structure Configs {γ : Type u} (proxyName : γ → String) where
  map : GoMap String γ
  keyed : ∀ name cfg, map.get name = some cfg → proxyName cfg = name

namespace VisitorManager

/-! ## The manager -/

structure Visitor (γ : Type u) where
  cfg : γ
  /-- How often it was closed. -/
  closes : Nat

/-- Who holds the mutex. -/
inductive Holder (γ : Type u) where
  | free
  /-- `Reload`, with the visitors when it began. -/
  | reload (d : Sync String γ γ) (visitors : GoMap String Nat)
  /-- A tick of `Run`, with the configurations that it has not tried. -/
  | tick (rest : Finset String)

structure State (γ : Type u) where
  cfgs : GoMap String γ
  visitors : GoMap String Nat
  /-- All visitors there were, by their number. -/
  heap : List (Visitor γ)
  holder : Holder γ
  /-- What the last `Reload` was given. -/
  last : Option (GoMap String γ)

def start {γ : Type u} : State γ := ⟨∅, ∅, [], .free, none⟩

inductive Label {γ : Type u} (proxyName : γ → String) where
  | reload (cfgs : Configs proxyName)
  /-- The first loop of `Reload` visits a configuration. -/
  | visit (name : String)
  /-- The second loop visits one; `ok` is whether the visitor starts, if it has to. -/
  | add (name : String) (ok : Bool)
  | returned
  | tick
  | retry (name : String) (ok : Bool)
  | tickDone

section Machine

variable {γ : Type u} [DecidableEq γ] (proxyName : γ → String)

def State.startVisitor (s : State γ) (cfg : γ) (ok : Bool) : State γ :=
  { s with
    heap := s.heap ++ [⟨cfg, 0⟩]
    visitors := if ok then s.visitors.set (proxyName cfg) s.heap.length else s.visitors }

/-- A visitor that runs is closed and forgotten. -/
def State.closeVisitor (s : State γ) (name : String) : State γ :=
  { s with
    heap :=
      match s.visitors.get name with
      | some v => s.heap.modify v fun visitor => { visitor with closes := visitor.closes + 1 }
      | none => s.heap
    visitors := s.visitors.delete name }

def step (s : State γ) : Label proxyName → Option (State γ)
  | .reload cfgs =>
      match s.holder with
      | .free => some { s with holder := .reload (Sync.start s.cfgs cfgs.map) s.visitors }
      | _ => none
  | .visit name =>
      match s.holder, s.cfgs.get name with
      | .reload d before, some oldCfg =>
          if name ∈ d.old then
            let rest := { d with old := d.old.erase name }
            if d.want.get name = some oldCfg then some { s with holder := .reload rest before }
            else
              some (({ s with
                cfgs := s.cfgs.delete name
                holder := .reload rest before } : State γ).closeVisitor name)
          else none
      | _, _ => none
  | .add name ok =>
      match s.holder with
      | .reload d before =>
          if d.old = ∅ ∧ name ∈ d.new then
            let rest := { d with new := d.new.erase name }
            match d.want.get name, s.cfgs.get name with
            | some _, some _ => some { s with holder := .reload rest before }
            | some cfg, none =>
                some (({ s with
                  cfgs := s.cfgs.set name cfg
                  holder := .reload rest before } : State γ).startVisitor proxyName cfg ok)
            | none, _ => none
          else none
      | _ => none
  | .returned =>
      match s.holder with
      | .reload d _ =>
          if d.old = ∅ ∧ d.new = ∅ then some { s with holder := .free, last := some d.want }
          else none
      | _ => none
  | .tick =>
      match s.holder with
      | .free => some { s with holder := .tick s.cfgs.keys }
      | _ => none
  | .retry name ok =>
      match s.holder, s.cfgs.get name with
      | .tick rest, some cfg =>
          if name ∈ rest then
            let s := { s with holder := .tick (rest.erase name) }
            match s.visitors.get (proxyName cfg) with
            | some _ => some s
            | none => some (s.startVisitor proxyName cfg ok)
          else none
      | _, _ => none
  | .tickDone =>
      match s.holder with
      | .tick rest => if rest = ∅ then some { s with holder := .free } else none
      | _ => none

/-! ## What the manager promises -/

/-- What runs is configured, and runs as it is configured; nothing is closed twice. -/
structure Follows (s : State γ) : Prop where
  running : ∀ (name : String) (v : Nat), s.visitors.get name = some v →
    ∃ visitor : Visitor γ, s.heap[v]? = some visitor ∧
      s.cfgs.get name = some visitor.cfg ∧ visitor.closes = 0
  once : ∀ (v : Nat) (visitor : Visitor γ), s.heap[v]? = some visitor → visitor.closes ≤ 1

/-- What `Reload` leaves, by what it found and what it was given. -/
structure Converged (d : Sync String γ γ) (visitors : GoMap String Nat) (t : State γ) : Prop where
  cfgs : t.cfgs = d.want
  unchanged : ∀ name cfg, d.before.get name = some cfg → d.want.get name = some cfg →
    t.visitors.get name = visitors.get name
  changed : ∀ (name : String) (v : Nat), visitors.get name = some v →
    d.want.get name ≠ d.before.get name →
      ∃ visitor : Visitor γ, t.heap[v]? = some visitor ∧ visitor.closes = 1

/-- The steps of `Reload`. -/
def Label.ofReload {proxyName : γ → String} : Label proxyName → Bool
  | .visit _ | .add .. | .returned => true
  | .reload _ | .tick | .retry .. | .tickDone => false

/-- A step, and the state it leads to. -/
structure Kept (s : State γ) (l : Label proxyName) (t : State γ) : Prop where
  follows : Follows t
  converged : ∀ d visitors, l = .returned → s.holder = .reload d visitors →
    Converged d visitors t
  repeated : ∀ d visitors, l.ofReload = true → s.holder = .reload d visitors →
    s.last = some d.want → t = { s with holder := t.holder }

end Machine

/-! ## What one step does -/

section Steps

variable {γ : Type u} {proxyName : γ → String} {s t : State γ} {name : String} {cfg : γ} {v : Nat}
  {visitor : Visitor γ}

theorem heap_startVisitor (ok : Bool) (found : s.heap[v]? = some visitor) :
    (s.startVisitor proxyName cfg ok).heap[v]? = some visitor := by
  have within := (List.getElem?_eq_some_iff.1 found).1
  exact (List.getElem?_append_left within).trans found

theorem heap_closeVisitor_of_ne (name : String) (other : s.visitors.get name ≠ some v) :
    (s.closeVisitor name).heap[v]? = s.heap[v]? := by
  unfold State.closeVisitor
  cases found : s.visitors.get name with
  | none => rfl
  | some w =>
      have different : w ≠ v := fun same => other (same ▸ found)
      show (s.heap.modify w _)[v]? = s.heap[v]?
      rw [List.getElem?_modify]
      simp [different]

theorem heap_closeVisitor_of_eq (runs : s.visitors.get name = some v)
    (found : s.heap[v]? = some visitor) :
    (s.closeVisitor name).heap[v]? = some { visitor with closes := visitor.closes + 1 } := by
  unfold State.closeVisitor
  rw [runs]
  show (s.heap.modify v _)[v]? = _
  rw [List.getElem?_modify, found]
  simp

/-- A visitor is started that does not run. -/
theorem Follows.startVisitor (follows : Follows s) (ok : Bool)
    (configured : s.cfgs.get (proxyName cfg) = some cfg) :
    Follows (s.startVisitor proxyName cfg ok) where
  running := by
    intro name v runs
    cases ok with
    | false =>
        obtain ⟨visitor, found, rest⟩ := follows.running name v runs
        exact ⟨visitor, heap_startVisitor false found, rest⟩
    | true =>
        rcases GoMap.get_set_eq_some.1 runs with ⟨rfl, rfl⟩ | ⟨-, runs⟩
        · exact ⟨⟨cfg, 0⟩, List.getElem?_concat_length .., configured, rfl⟩
        · obtain ⟨visitor, found, rest⟩ := follows.running name v runs
          exact ⟨visitor, heap_startVisitor true found, rest⟩
  once := by
    intro v visitor found
    rcases Nat.lt_or_ge v s.heap.length with within | beyond
    · exact follows.once v visitor ((List.getElem?_append_left within).symm.trans found)
    · have new := (List.getElem?_append_right beyond).symm.trans found
      have first := List.mem_of_getElem? new
      rw [List.mem_singleton.1 first]
      exact Nat.zero_le 1

/-- A configuration is deleted, and its visitor closed. -/
theorem Follows.delete (follows : Follows s)
    (keyed : ∀ name cfg, s.cfgs.get name = some cfg → proxyName cfg = name) (name : String)
    (holder : Holder γ) :
    Follows (({ s with cfgs := s.cfgs.delete name, holder := holder } : State γ).closeVisitor
      name) where
  running := by
    intro name' v runs
    obtain ⟨other, runs⟩ := GoMap.get_delete_eq_some.1 runs
    obtain ⟨visitor, found, configured, rest⟩ := follows.running name' v runs
    have different : s.visitors.get name ≠ some v := by
      intro same
      obtain ⟨visitor', found', configured', -⟩ := follows.running name v same
      cases found.symm.trans found'
      exact other ((keyed name' _ configured).symm.trans (keyed name _ configured'))
    refine ⟨visitor, ?_, ?_, rest⟩
    · exact (heap_closeVisitor_of_ne name different).trans found
    · exact (GoMap.get_delete _ _ _).trans ((if_neg other).trans configured)
  once := by
    intro v visitor found
    by_cases runs : s.visitors.get name = some v
    · obtain ⟨visitor', found', -, open_⟩ := follows.running name v runs
      have closed := heap_closeVisitor_of_eq
        (s := { s with cfgs := s.cfgs.delete name, holder := holder }) runs found'
      cases found.symm.trans closed
      show visitor'.closes + 1 ≤ 1
      rw [open_]
    · exact follows.once v visitor ((heap_closeVisitor_of_ne name runs).symm.trans found)

/-! ## Between two passes -/

/-- An entry is the configuration itself. -/
def Is (c cfg : γ) : Prop := cfg = c

/-- What `Reload` has done with the visitors. -/
structure Midway (proxyName : γ → String) (d : Sync String γ γ) (before : GoMap String Nat)
    (s : State γ) : Prop where
  cfgs : d.Inv Is s.cfgs
  keyed : ∀ name cfg, d.want.get name = some cfg → proxyName cfg = name
  todo : ∀ name ∈ d.old, s.visitors.get name = before.get name
  kept : ∀ name cfg, d.Stays Is name cfg → s.visitors.get name = before.get name
  closed : ∀ (name : String) (v : Nat), before.get name = some v → name ∉ d.old →
    (∃ cfg, d.Stays Is name cfg) ∨
      ∃ visitor : Visitor γ, s.heap[v]? = some visitor ∧ visitor.closes = 1

variable {d : Sync String γ γ} {before : GoMap String Nat} {oldCfg : γ} {ok : Bool}

theorem Follows.start_midway (follows : Follows s) (cfgs : Configs proxyName)
    (holder : Holder γ) :
    Midway proxyName (Sync.start s.cfgs cfgs.map) s.visitors { s with holder := holder } where
  cfgs := Sync.start_inv Is s.cfgs cfgs.map
  keyed := cfgs.keyed
  todo := fun _ _ => rfl
  kept := fun _ _ _ => rfl
  closed := by
    intro name v runs absent
    obtain ⟨visitor, -, configured, -⟩ := follows.running name v runs
    exact absurd (GoMap.mem_keys_iff.2 ⟨_, configured⟩) absent

/-- A configuration that is the same is kept, and its visitor. -/
theorem Midway.keep (midway : Midway proxyName d before s) (visit : name ∈ d.old)
    (old : s.cfgs.get name = some oldCfg) (same : d.want.get name = some oldCfg)
    (holder : Holder γ) :
    Midway proxyName { d with old := d.old.erase name } before { s with holder := holder } where
  cfgs := midway.cfgs.keep visit fun cfg found => by
    cases old.symm.trans found
    exact ⟨oldCfg, same, rfl⟩
  keyed := midway.keyed
  todo := fun name' inside => midway.todo name' (Finset.mem_of_mem_erase inside)
  kept := midway.kept
  closed := by
    intro name' v runs absent
    by_cases here : name' = name
    · left
      rw [here]
      exact ⟨oldCfg, (midway.cfgs.todo name visit).symm.trans old, oldCfg, same, rfl⟩
    · exact midway.closed name' v runs fun inside => absent (Finset.mem_erase.2 ⟨here, inside⟩)

/-- A configuration that is not the same is deleted, and its visitor closed. -/
theorem Midway.delete (midway : Midway proxyName d before s) (follows : Follows s)
    (visit : name ∈ d.old) (old : s.cfgs.get name = some oldCfg)
    (changed : d.want.get name ≠ some oldCfg) (holder : Holder γ) :
    Midway proxyName { d with old := d.old.erase name } before
      (({ s with cfgs := s.cfgs.delete name, holder := holder } : State γ).closeVisitor name) where
  cfgs := midway.cfgs.delete visit fun cfg c found wanted same => by
    cases old.symm.trans found
    cases same
    exact changed wanted
  keyed := midway.keyed
  todo := by
    intro name' inside
    obtain ⟨other, inside⟩ := Finset.mem_erase.1 inside
    exact (GoMap.get_delete _ _ _).trans ((if_neg other).trans (midway.todo name' inside))
  kept := by
    intro name' cfg stays
    have other : name' ≠ name := by
      rintro rfl
      obtain ⟨first, c, wanted, same⟩ := stays
      cases first.symm.trans ((midway.cfgs.todo name' visit).symm.trans old)
      cases same
      exact changed wanted
    exact (GoMap.get_delete _ _ _).trans ((if_neg other).trans (midway.kept name' cfg stays))
  closed := by
    intro name' v runs absent
    by_cases here : name' = name
    · right
      rw [here] at runs
      have running := (midway.todo name visit).trans runs
      obtain ⟨visitor, found, -, open_⟩ := follows.running name v running
      refine ⟨_, heap_closeVisitor_of_eq (s := { s with
        cfgs := s.cfgs.delete name, holder := holder }) running found, ?_⟩
      show visitor.closes + 1 = 1
      rw [open_]
    · refine (midway.closed name' v runs fun inside =>
        absent (Finset.mem_erase.2 ⟨here, inside⟩)).imp id ?_
      rintro ⟨visitor, found, closes⟩
      have different : s.visitors.get name ≠ some v := by
        intro running
        obtain ⟨visitor', found', -, open_⟩ := follows.running name v running
        cases found.symm.trans found'
        omega
      exact ⟨visitor, (heap_closeVisitor_of_ne name different).trans found, closes⟩

/-- A configuration that is there is not added. -/
theorem Midway.skip (midway : Midway proxyName d before s) (first : d.old = ∅)
    (found : s.cfgs.get name = some cfg) (holder : Holder γ) :
    Midway proxyName { d with new := d.new.erase name } before { s with holder := holder } where
  cfgs := midway.cfgs.skip first found
  keyed := midway.keyed
  todo := midway.todo
  kept := midway.kept
  closed := midway.closed

/-- A configuration is added, and its visitor started. -/
theorem Midway.add (midway : Midway proxyName d before s) (first : d.old = ∅)
    (free : s.cfgs.get name = none) (wanted : d.want.get name = some cfg) (holder : Holder γ) :
    Midway proxyName { d with new := d.new.erase name } before
      (({ s with cfgs := s.cfgs.set name cfg, holder := holder } : State γ).startVisitor
        proxyName cfg ok) where
  cfgs := midway.cfgs.add first free wanted rfl
  keyed := midway.keyed
  todo := by
    intro name' inside
    rw [first] at inside
    exact absurd inside (Finset.notMem_empty name')
  kept := by
    intro name' cfg' stays
    have other : name' ≠ name := by
      rintro rfl
      cases free.symm.trans (midway.cfgs.kept name' cfg' stays)
    have same := midway.kept name' cfg' stays
    cases ok with
    | false => exact same
    | true =>
        refine (GoMap.get_set _ _ _ _).trans ((if_neg ?_).trans same)
        rw [midway.keyed name cfg wanted]
        exact other
  closed := by
    intro name' v runs absent
    refine (midway.closed name' v runs absent).imp id ?_
    rintro ⟨visitor, found, closes⟩
    exact ⟨visitor, heap_startVisitor ok found, closes⟩

/-- What `Reload` leaves. -/
theorem Midway.converged (midway : Midway proxyName d before s) (old : d.old = ∅)
    (new : d.new = ∅) (holder : Holder γ) (last : Option (GoMap String γ)) :
    Converged d before { s with holder := holder, last := last } where
  cfgs := by
    obtain ⟨wanted, added⟩ := midway.cfgs.agrees old new
    apply Finmap.ext_lookup
    intro name
    show s.cfgs.get name = d.want.get name
    cases found : d.want.get name with
    | some cfg =>
        obtain ⟨cfg', configured⟩ := added name cfg found
        obtain ⟨c, found', same⟩ := wanted name cfg' configured
        cases found.symm.trans found'
        cases same
        exact configured
    | none =>
        cases configured : s.cfgs.get name with
        | none => rfl
        | some cfg =>
            obtain ⟨c, found', -⟩ := wanted name cfg configured
            cases found.symm.trans found'
  unchanged := fun name cfg before_ wanted =>
    midway.kept name cfg ⟨before_, cfg, wanted, rfl⟩
  changed := by
    intro name v runs different
    have visited : name ∉ d.old := by
      rw [old]
      exact Finset.notMem_empty name
    rcases midway.closed name v runs visited with ⟨cfg, before_, c, wanted, same⟩ | closed
    · cases same
      exact absurd (wanted.trans before_.symm) different
    · exact closed

end Steps

/-! ## Every run -/

section Runs

variable {γ : Type u} {proxyName : γ → String} {s t : State γ} {l : Label proxyName}

structure Inv (proxyName : γ → String) (s : State γ) : Prop where
  follows : Follows s
  keyed : ∀ name cfg, s.cfgs.get name = some cfg → proxyName cfg = name
  midway : ∀ d before, s.holder = .reload d before → Midway proxyName d before s
  last : ∀ want, s.last = some want →
    (∀ d before, s.holder = .reload d before → d.want = want) → s.cfgs = want

theorem start_inv : Inv proxyName start where
  follows := ⟨by rintro name v ⟨⟩, by rintro v visitor ⟨⟩⟩
  keyed := by rintro name cfg ⟨⟩
  midway := by rintro d before ⟨⟩
  last := by rintro want ⟨⟩

/-- A step of a holder that is no `Reload`, and leaves the configurations. -/
theorem Inv.tick (inv : Inv proxyName s) (follows : Follows t) (cfgs : t.cfgs = s.cfgs)
    (last : t.last = s.last) (idle : ∀ d before, s.holder ≠ .reload d before)
    (idle' : ∀ d before, t.holder ≠ .reload d before) : Inv proxyName t where
  follows := follows
  keyed := cfgs ▸ inv.keyed
  midway := fun d before held => absurd held (idle' d before)
  last := by
    intro want found _
    rw [cfgs]
    exact inv.last want (last ▸ found) fun d before held => absurd held (idle d before)

/-- The branches of `step`. -/
inductive Moves (proxyName : γ → String) (s : State γ) : Label proxyName → State γ → Prop where
  | reload (cfgs : Configs proxyName) (free : s.holder = .free) :
      Moves proxyName s (.reload cfgs)
        { s with holder := .reload (Sync.start s.cfgs cfgs.map) s.visitors }
  | keep {name : String} {d : Sync String γ γ} {before : GoMap String Nat} {oldCfg : γ}
      (held : s.holder = .reload d before) (found : s.cfgs.get name = some oldCfg)
      (visit : name ∈ d.old) (same : d.want.get name = some oldCfg) :
      Moves proxyName s (.visit name)
        { s with holder := .reload { d with old := d.old.erase name } before }
  | delete {name : String} {d : Sync String γ γ} {before : GoMap String Nat} {oldCfg : γ}
      (held : s.holder = .reload d before) (found : s.cfgs.get name = some oldCfg)
      (visit : name ∈ d.old) (changed : d.want.get name ≠ some oldCfg) :
      Moves proxyName s (.visit name)
        (({ s with
          cfgs := s.cfgs.delete name
          holder := .reload { d with old := d.old.erase name } before } : State γ).closeVisitor name)
  | skip {name : String} {d : Sync String γ γ} {before : GoMap String Nat} {cfg : γ} (ok : Bool)
      (held : s.holder = .reload d before) (first : d.old = ∅)
      (found : s.cfgs.get name = some cfg) :
      Moves proxyName s (.add name ok)
        { s with holder := .reload { d with new := d.new.erase name } before }
  | add {name : String} {d : Sync String γ γ} {before : GoMap String Nat} {cfg : γ} (ok : Bool)
      (held : s.holder = .reload d before) (first : d.old = ∅)
      (wanted : d.want.get name = some cfg) (free : s.cfgs.get name = none) :
      Moves proxyName s (.add name ok)
        (({ s with
          cfgs := s.cfgs.set name cfg
          holder := .reload { d with new := d.new.erase name } before } : State γ).startVisitor
            proxyName cfg ok)
  | returned {d : Sync String γ γ} {before : GoMap String Nat}
      (held : s.holder = .reload d before) (old : d.old = ∅) (new : d.new = ∅) :
      Moves proxyName s .returned { s with holder := .free, last := some d.want }
  | tick (free : s.holder = .free) :
      Moves proxyName s .tick { s with holder := .tick s.cfgs.keys }
  | runs {name : String} {rest : Finset String} (ok : Bool) (held : s.holder = .tick rest) :
      Moves proxyName s (.retry name ok) { s with holder := .tick (rest.erase name) }
  | retry {name : String} {rest : Finset String} {cfg : γ} (ok : Bool)
      (held : s.holder = .tick rest) (found : s.cfgs.get name = some cfg)
      (idle : s.visitors.get (proxyName cfg) = none) :
      Moves proxyName s (.retry name ok)
        (({ s with holder := .tick (rest.erase name) } : State γ).startVisitor proxyName cfg ok)
  | tickDone {rest : Finset String} (held : s.holder = .tick rest) :
      Moves proxyName s .tickDone { s with holder := .free }

theorem step_moves [DecidableEq γ] (next : step proxyName s l = some t) : Moves proxyName s l t := by
  cases l with
  | reload cfgs =>
      simp only [step] at next
      split at next
      · rename_i free
        cases next
        exact .reload cfgs free
      · cases next
  | visit name =>
      simp only [step] at next
      split at next
      · rename_i d before oldCfg held found
        obtain ⟨visit, next⟩ := Option.ite_none_right_eq_some.1 next
        split at next
        · rename_i same
          cases next
          exact .keep held found visit same
        · rename_i changed
          cases next
          exact .delete held found visit changed
      · cases next
  | add name ok =>
      simp only [step] at next
      split at next
      · rename_i d before held
        obtain ⟨⟨first, -⟩, next⟩ := Option.ite_none_right_eq_some.1 next
        split at next
        · rename_i cfg cfg' wanted found
          cases next
          exact .skip ok held first found
        · rename_i cfg wanted free
          cases next
          exact .add ok held first wanted free
        · cases next
      · cases next
  | returned =>
      simp only [step] at next
      split at next
      · rename_i d before held
        obtain ⟨⟨old, new⟩, next⟩ := Option.ite_none_right_eq_some.1 next
        cases next
        exact .returned held old new
      · cases next
  | tick =>
      simp only [step] at next
      split at next
      · rename_i free
        cases next
        exact .tick free
      · cases next
  | retry name ok =>
      simp only [step] at next
      split at next
      · rename_i rest cfg held found
        obtain ⟨-, next⟩ := Option.ite_none_right_eq_some.1 next
        split at next
        · cases next
          exact .runs ok held
        · rename_i idle
          cases next
          exact .retry ok held found idle
      · cases next
  | tickDone =>
      simp only [step] at next
      split at next
      · rename_i rest held
        obtain ⟨-, next⟩ := Option.ite_none_right_eq_some.1 next
        cases next
        exact .tickDone held
      · cases next

/-- A step of `Reload` that leaves the configurations. -/
theorem Inv.pass {d d' : Sync String γ γ} {before : GoMap String Nat} (inv : Inv proxyName s)
    (held : s.holder = .reload d before) (want : d'.want = d.want)
    (midway : Midway proxyName d' before { s with holder := .reload d' before }) :
    Inv proxyName { s with holder := .reload d' before } where
  follows := ⟨inv.follows.running, inv.follows.once⟩
  keyed := inv.keyed
  midway := by
    rintro _ _ ⟨⟩
    exact midway
  last := by
    intro want' last agrees
    refine inv.last want' last fun d'' before' held' => ?_
    cases held.symm.trans held'
    exact want.symm.trans (agrees d' before rfl)

/-- While `Reload` works for what the last one was given, the configurations are those. -/
theorem Inv.cfgs_eq {d d' : Sync String γ γ} {before : GoMap String Nat} {want : GoMap String γ}
    (inv : Inv proxyName s) (held : s.holder = .reload d before) (last : s.last = some want)
    (agrees : ∀ d'' before', Holder.reload d' before = .reload d'' before' → d''.want = want)
    (same : d'.want = d.want) : s.cfgs = d.want := by
  have asked : d.want = want := same.symm.trans (agrees d' before rfl)
  rw [asked]
  refine inv.last want last fun d'' before' held' => ?_
  cases held.symm.trans held'
  exact asked

theorem Inv.delete {d : Sync String γ γ} {before : GoMap String Nat} {name : String} {oldCfg : γ}
    (inv : Inv proxyName s) (held : s.holder = .reload d before)
    (found : s.cfgs.get name = some oldCfg) (visit : name ∈ d.old)
    (changed : d.want.get name ≠ some oldCfg) :
    Inv proxyName (({ s with
      cfgs := s.cfgs.delete name
      holder := .reload { d with old := d.old.erase name } before } : State γ).closeVisitor
        name) where
  follows := inv.follows.delete inv.keyed name _
  keyed := by
    intro name' cfg configured
    exact inv.keyed name' cfg (GoMap.get_delete_eq_some.1 configured).2
  midway := by
    rintro _ _ ⟨⟩
    exact (inv.midway d before held).delete inv.follows visit found changed _
  last := by
    intro want last agrees
    rw [inv.cfgs_eq held last agrees rfl] at found
    exact absurd found changed

theorem Inv.add {d : Sync String γ γ} {before : GoMap String Nat} {name : String} {cfg : γ}
    (inv : Inv proxyName s) (ok : Bool) (held : s.holder = .reload d before) (first : d.old = ∅)
    (wanted : d.want.get name = some cfg) (free : s.cfgs.get name = none) :
    Inv proxyName (({ s with
      cfgs := s.cfgs.set name cfg
      holder := .reload { d with new := d.new.erase name } before } : State γ).startVisitor
        proxyName cfg ok) := by
  have midway := inv.midway d before held
  have named := midway.keyed name cfg wanted
  have follows : Follows ({ s with
      cfgs := s.cfgs.set name cfg
      holder := .reload { d with new := d.new.erase name } before } : State γ) := by
    refine ⟨fun name' v runs => ?_, inv.follows.once⟩
    obtain ⟨visitor, heap, configured, rest⟩ := inv.follows.running name' v runs
    exact ⟨visitor, heap, GoMap.get_set_of_fresh free configured, rest⟩
  refine ⟨follows.startVisitor ok ?_, ?_, ?_, ?_⟩
  · rw [named]
    exact (GoMap.get_set _ _ _ _).trans (if_pos rfl)
  · intro name' cfg' configured
    rcases GoMap.get_set_eq_some.1 configured with ⟨rfl, rfl⟩ | ⟨-, configured⟩
    · exact named
    · exact inv.keyed name' cfg' configured
  · rintro _ _ ⟨⟩
    exact midway.add first free wanted _
  · intro want last agrees
    rw [inv.cfgs_eq held last agrees rfl] at free
    cases free.symm.trans wanted

theorem Inv.moves (inv : Inv proxyName s) (moves : Moves proxyName s l t) :
    Inv proxyName t := by
  have idle {rest : Finset String} (held : s.holder = .tick rest) :
      ∀ d before, s.holder ≠ .reload d before := by
    intro d before held'
    cases held.symm.trans held'
  cases moves with
  | reload cfgs free =>
      refine ⟨⟨inv.follows.running, inv.follows.once⟩, inv.keyed, ?_, ?_⟩
      · rintro d before ⟨⟩
        exact inv.follows.start_midway cfgs _
      · intro want found _
        exact inv.last want found fun d before held => by cases free.symm.trans held
  | keep held found visit same =>
      exact inv.pass held rfl ((inv.midway _ _ held).keep visit found same _)
  | delete held found visit changed => exact inv.delete held found visit changed
  | skip ok held first found =>
      exact inv.pass held rfl ((inv.midway _ _ held).skip first found _)
  | add ok held first wanted free => exact inv.add ok held first wanted free
  | returned held old new =>
      refine ⟨⟨inv.follows.running, inv.follows.once⟩, inv.keyed, ?_, ?_⟩
      · rintro _ _ ⟨⟩
      · rintro want ⟨⟩ _
        exact ((inv.midway _ _ held).converged old new .free none).cfgs
  | tick free =>
      refine inv.tick ⟨inv.follows.running, inv.follows.once⟩ rfl rfl ?_ (by rintro d before ⟨⟩)
      intro d before held
      cases free.symm.trans held
  | runs ok held =>
      exact inv.tick ⟨inv.follows.running, inv.follows.once⟩ rfl rfl (idle held)
        (by rintro d before ⟨⟩)
  | @retry name rest cfg ok held found =>
      have follows : Follows ({ s with holder := .tick (rest.erase name) } : State γ) :=
        ⟨inv.follows.running, inv.follows.once⟩
      refine inv.tick (follows.startVisitor ok ?_) rfl rfl (idle held) (by rintro d before ⟨⟩)
      rw [inv.keyed name cfg found]
      exact found
  | tickDone held =>
      exact inv.tick ⟨inv.follows.running, inv.follows.once⟩ rfl rfl (idle held)
        (by rintro d before ⟨⟩)

/-- A step of a `Reload` that was given what there is. -/
theorem repeated_of_moves {d : Sync String γ γ} {before : GoMap String Nat}
    (inv : Inv proxyName s) (moves : Moves proxyName s l t) (ofReload : l.ofReload = true)
    (held : s.holder = .reload d before) (last : s.last = some d.want) :
    t = { s with holder := t.holder } := by
  have same : s.cfgs = d.want := inv.last d.want last fun d' before' held' => by
    cases held.symm.trans held'
    rfl
  cases moves with
  | keep | skip => rfl
  | delete held' found visit changed =>
      cases held.symm.trans held'
      rw [same] at found
      exact absurd found changed
  | add ok held' first wanted free =>
      cases held.symm.trans held'
      rw [same] at free
      cases free.symm.trans wanted
  | returned held' =>
      cases held.symm.trans held'
      show ({ s with holder := .free, last := some d.want } : State γ) = { s with holder := .free }
      rw [← last]
  | reload | tick | runs | retry | tickDone => cases ofReload

theorem Moves.kept (inv : Inv proxyName s) (moves : Moves proxyName s l t) :
    Kept proxyName s l t where
  follows := (inv.moves moves).follows
  converged := by
    rintro d visitors rfl held
    cases moves with
    | returned held' old new =>
        cases held.symm.trans held'
        exact (inv.midway d visitors held).converged old new _ _
  repeated := fun _ _ ofReload held last => repeated_of_moves inv moves ofReload held last

/-- **Visitors follow the configurations**, in every run of `Reload` and the ticks. -/
theorem visitors_follow [DecidableEq γ] (ls : List (Label proxyName)) :
    Along (step proxyName) (Kept proxyName) start ls := by
  have free : Along (step proxyName) (fun _ _ _ => True) start ls :=
    along_of_forall (fun _ _ _ => trivial) start ls
  have kept : ∀ s l t, Inv proxyName s → True → step proxyName s l = some t → Inv proxyName t :=
    fun _ _ _ inv _ next => inv.moves (step_moves next)
  exact free.strengthen (Inv proxyName) kept
    (fun _ _ _ inv _ next => (step_moves next).kept inv) start_inv

end Runs

end VisitorManager

end ChmlFrp.Client
