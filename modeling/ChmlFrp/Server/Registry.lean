/-
# ChmlFrp.Server.Registry — the global proxy table and the controls' own tables

`server/control.go` and `server/proxy/proxy.go`.  A registered proxy stands in two
maps under different locks: `pxyManager.pxys`, shared by all controls, and
`ctl.proxies` of the control that registered it.  `RegisterProxy` runs in the
control's manager goroutine and writes them one after the other; `CloseProxy` (from
the manager goroutine and from `CloseUserProxy`) and `ForceCloseProxy` (from the
dashboard) erase both under `ctl.mu`; the teardown loop of `stoper` erases the global
entries only and leaves `ctl.proxies` as it is.

Every step below is what happens between two points at which another goroutine can
interfere.  A control holds its mutex from `close` to `delete` and from `tearStart`
to `tearDone`.

`pxy.Close` may panic.  `step` is the machine in which it returns, and `Panics.step` adds the
panics: `ForceCloseProxy` and `stoper` have a deferred unlock and leave the tables as they
are, `CloseProxy` keeps the mutex for good, and `RegisterProxy` takes the manager goroutine
with it.

* `registry_consistent`: the tables agree, no operation touches another control's proxy and
  no proxy is closed twice in the runs in which no close finds a name in the table of a
  control that is already torn down, and `pxy.Close` panics neither in `ForceCloseProxy` nor
  in the loop of `stoper`; and a step of another kind leads to where this fails.
* `stale_close_hits_successor`: the dashboard closes a proxy of a torn-down control
  by name, and another control's registration goes with it.
-/
import ChmlFrp.Lib.GoMap
import ChmlFrp.Lib.Transition

namespace ChmlFrp.Server.Registry

set_option autoImplicit false

open ChmlFrp.Lib
open ChmlFrp.Lib.Transition

/-! ## The tables -/

/-- A proxy object: its name, the control that made it, and which of that
control's objects it is. -/
structure Pxy where
  name : String
  ctl : Nat
  seq : Nat
  deriving DecidableEq, Repr

/-- Where the manager goroutine of a control stands in `RegisterProxy`. -/
inductive Register where
  | idle
  /-- `pxyManager.Exist` said no. -/
  | checked (name : String)
  /-- `pxy.Run` succeeded. -/
  | ran (pxy : Pxy)
  /-- `pxyManager.Add` succeeded. -/
  | added (pxy : Pxy)
  /-- The manager goroutine has returned. -/
  | exited
  deriving DecidableEq, Repr

/-- Who holds `ctl.mu`, and how far it is. -/
inductive Mu where
  | free
  /-- `CloseProxy` or `ForceCloseProxy` (`force`), after `pxy.Close()`; `deleted`
  after `pxyManager.Del`. -/
  | closing (name : String) (pxy : Pxy) (force deleted : Bool)
  /-- The loop of `stoper`: the keys done, and the one whose proxy is closed and
  not yet deleted. -/
  | tearing (visited : Finset String) (current : Option (String × Pxy))
  deriving DecidableEq

structure Control where
  proxies : GoMap String Pxy
  register : Register
  mu : Mu
  torn : Bool
  made : Nat

structure State where
  pxys : GoMap String Pxy
  controls : Nat → Control
  /-- The control whose `RegisterProxy` of this object succeeded. -/
  registeredBy : Pxy → Option Nat
  /-- How often `Close` was called on this object. -/
  closes : Pxy → Nat

def start : State where
  pxys := ∅
  controls := fun _ => ⟨∅, .idle, .free, false, 0⟩
  registeredBy := fun _ => none
  closes := fun _ => 0

inductive Label where
  | exist (c : Nat) (name : String)
  | run (c : Nat) (ok : Bool)
  | add (c : Nat)
  | insert (c : Nat)
  | managerExit (c : Nat)
  | close (c : Nat) (name : String) (force : Bool)
  | del (c : Nat)
  | delete (c : Nat)
  | tearStart (c : Nat)
  | tearClose (c : Nat) (name : String)
  | tearDel (c : Nat)
  | tearDone (c : Nat)
  deriving DecidableEq, Repr

/-- The control whose method takes the step. -/
def Label.actor : Label → Nat
  | .exist c _ | .run c _ | .add c | .insert c | .managerExit c | .close c _ _ | .del c
  | .delete c | .tearStart c | .tearClose c _ | .tearDel c | .tearDone c => c

namespace State

def set (s : State) (c : Nat) (ctl : Control) : State :=
  { s with controls := Function.update s.controls c ctl }

/-- `pxy.Close()` -/
def closePxy (s : State) (p : Pxy) : State :=
  { s with closes := Function.update s.closes p (s.closes p + 1) }

end State

def step (s : State) : Label → Option State
  | .exist c name =>
      let ctl := s.controls c
      if ctl.register = .idle then
        if s.pxys.get name = none then some (s.set c { ctl with register := .checked name })
        else some s
      else none
  | .run c ok =>
      let ctl := s.controls c
      match ctl.register with
      | .checked name =>
          if ok then
            some (s.set c { ctl with register := .ran ⟨name, c, ctl.made⟩, made := ctl.made + 1 })
          else some (s.set c { ctl with register := .idle })
      | _ => none
  | .add c =>
      let ctl := s.controls c
      match ctl.register with
      | .ran p =>
          if s.pxys.get p.name = none then
            some { s.set c { ctl with register := .added p } with
              pxys := s.pxys.set p.name p
              registeredBy := Function.update s.registeredBy p (some c) }
          else some ((s.closePxy p).set c { ctl with register := .idle })
      | _ => none
  | .insert c =>
      let ctl := s.controls c
      match ctl.register, ctl.mu with
      | .added p, .free =>
          some (s.set c { ctl with register := .idle, proxies := ctl.proxies.set p.name p })
      | _, _ => none
  | .managerExit c =>
      let ctl := s.controls c
      if ctl.register = .idle then some (s.set c { ctl with register := .exited }) else none
  | .close c name force =>
      let ctl := s.controls c
      match ctl.mu, ctl.proxies.get name with
      | .free, some p =>
          some ((s.closePxy p).set c { ctl with mu := .closing name p force false })
      | .free, none => some s
      | _, _ => none
  | .del c =>
      let ctl := s.controls c
      match ctl.mu with
      | .closing name p force false =>
          some { s.set c { ctl with mu := .closing name p force true } with
            pxys := s.pxys.delete (if force then name else p.name) }
      | _ => none
  | .delete c =>
      let ctl := s.controls c
      match ctl.mu with
      | .closing name _ _ true =>
          some (s.set c { ctl with mu := .free, proxies := ctl.proxies.delete name })
      | _ => none
  | .tearStart c =>
      let ctl := s.controls c
      if ctl.register = .exited ∧ ctl.mu = .free ∧ ctl.torn = false then
        some (s.set c { ctl with mu := .tearing ∅ none })
      else none
  | .tearClose c name =>
      let ctl := s.controls c
      match ctl.mu, ctl.proxies.get name with
      | .tearing visited none, some p =>
          if name ∈ visited then none
          else some ((s.closePxy p).set c { ctl with mu := .tearing visited (some (name, p)) })
      | _, _ => none
  | .tearDel c =>
      let ctl := s.controls c
      match ctl.mu with
      | .tearing visited (some (name, p)) =>
          some { s.set c { ctl with mu := .tearing (insert name visited) none } with
            pxys := s.pxys.delete p.name }
      | _ => none
  | .tearDone c =>
      let ctl := s.controls c
      match ctl.mu with
      | .tearing visited none =>
          if ctl.proxies.keys ⊆ visited then
            some (s.set c { ctl with mu := .free, torn := true })
          else none
      | _ => none

/-! ## A `Close` that panics -/

namespace Panics

structure State where
  tables : Registry.State
  /-- `CloseProxy` of the control has panicked; it has no deferred unlock. -/
  stuck : Nat → Bool

def start : State := ⟨Registry.start, fun _ => false⟩

inductive Label where
  /-- A step in which `pxy.Close()`, where it is called, returns. -/
  | of (l : Registry.Label)
  /-- `CloseProxy` or `ForceCloseProxy`; the manager goroutine, where it has called the first,
  goes on to `managerExit`. -/
  | closePanics (c : Nat) (name : String) (force : Bool)
  /-- The loop of `stoper`. -/
  | tearPanics (c : Nat) (name : String)
  /-- The deferred function of `RegisterProxy`. -/
  | addPanics (c : Nat)
  deriving DecidableEq, Repr

def Label.actor : Label → Nat
  | .of l => l.actor
  | .closePanics c _ _ | .tearPanics c _ | .addPanics c => c

/-- `pxyManager.Del` is not reached after the panic. -/
def State.blocks (s : State) : Registry.Label → Bool
  | .del c => s.stuck c
  | _ => false

def step (s : State) : Label → Option State
  | .of l =>
      if s.blocks l then none
      else (Registry.step s.tables l).map fun tables => { s with tables := tables }
  | .closePanics c name force =>
      let ctl := s.tables.controls c
      match ctl.mu, ctl.proxies.get name with
      | .free, some p =>
          if force then some { s with tables := s.tables.closePxy p }
          else
            some {
              tables := (s.tables.closePxy p).set c { ctl with mu := .closing name p false false }
              stuck := Function.update s.stuck c true }
      | _, _ => none
  | .tearPanics c name =>
      let ctl := s.tables.controls c
      match ctl.mu, ctl.proxies.get name with
      | .tearing visited none, some p =>
          if name ∈ visited then none
          else
            some { s with
              tables := (s.tables.closePxy p).set c { ctl with mu := .free, torn := true } }
      | _, _ => none
  | .addPanics c =>
      let ctl := s.tables.controls c
      match ctl.register with
      | .ran p =>
          if s.tables.pxys.get p.name = none then none
          else
            some { s with tables := (s.tables.closePxy p).set c { ctl with register := .exited } }
      | _ => none

end Panics

/-! ## What the tables promise -/

/-- No operation is in progress on any control. -/
def Quiet (s : State) : Prop :=
  ∀ c, ((s.controls c).register = .idle ∨ (s.controls c).register = .exited) ∧
    (s.controls c).mu = .free

/-- A name has the proxy in the global table iff exactly one live control has it. -/
def TablesAgree (s : State) : Prop :=
  ∀ name p, s.pxys.get name = some p ↔
    ∃! c, (s.controls c).torn = false ∧ (s.controls c).proxies.get name = some p

/-- No step of a control takes away the entry of, or closes, a proxy that another
control has registered. -/
def KeepsToItsOwn (s : State) (actor : Nat) (t : State) : Prop :=
  (∀ name p, s.pxys.get name = some p → t.pxys.get name ≠ some p →
    s.registeredBy p = some actor) ∧
  (∀ p c, s.registeredBy p = some c → t.closes p ≠ s.closes p → c = actor)

def ClosedOnce (s : State) : Prop := ∀ p c, s.registeredBy p = some c → s.closes p ≤ 1

/-- The step closes a name that the table of a torn-down control still has. -/
def StaleClose (s : State) : Label → Prop
  | .close c name _ =>
      (s.controls c).torn = true ∧ (s.controls c).mu = .free ∧
        (s.controls c).proxies.get name ≠ none
  | _ => False

instance (s : State) (l : Label) : Decidable (StaleClose s l) :=
  match l with
  | .close _ _ _ => inferInstanceAs (Decidable (_ ∧ _ ∧ ¬ _ = none))
  | .exist _ _ | .run _ _ | .add _ | .insert _ | .managerExit _ | .del _ | .delete _
  | .tearStart _ | .tearClose _ _ | .tearDel _ | .tearDone _ => inferInstanceAs (Decidable False)

namespace Panics

/-- No operation is in progress; one that has panicked is not. -/
def Quiet (s : State) : Prop :=
  ∀ c, ((s.tables.controls c).register = .idle ∨ (s.tables.controls c).register = .exited) ∧
    ((s.tables.controls c).mu = .free ∨ s.stuck c = true)

def Consistent (s : State) (l : Label) (t : State) : Prop :=
  (Quiet t → TablesAgree t.tables) ∧ KeepsToItsOwn s.tables l.actor t.tables ∧
    ClosedOnce t.tables

/-- The step closes no name that the table of a torn-down control still has, and `Close`
panics neither in `ForceCloseProxy` nor in the loop of `stoper`. -/
def Guard (s : State) : Label → Prop
  | .of l => ¬ StaleClose s.tables l
  | .closePanics c name force => force = false ∧ ¬ StaleClose s.tables (.close c name force)
  | .tearPanics .. => False
  | .addPanics _ => True

end Panics

/-! ## The invariant of one control -/

/-- The holder of the mutex has erased the global entry of the name. -/
def Mu.Deleted (name : String) : Mu → Prop
  | .free => False
  | .closing n _ _ deleted => n = name ∧ deleted = true
  | .tearing visited _ => name ∈ visited

/-- The holder of the mutex has closed the proxy listed under the name. -/
def Mu.Closed (name : String) : Mu → Prop
  | .free => False
  | .closing n _ _ _ => n = name
  | .tearing visited current => name ∈ visited ∨ ∃ p, current = some (name, p)

theorem Mu.Deleted.closed {name : String} {mu : Mu} (deleted : mu.Deleted name) :
    mu.Closed name := by
  cases mu with
  | free => exact deleted
  | closing => exact deleted.1
  | tearing => exact .inl deleted

/-- What the control holds in the global table. -/
def Control.View (ctl : Control) (name : String) (p : Pxy) : Prop :=
  (ctl.register = .added p ∧ p.name = name) ∨
    (ctl.torn = false ∧ ctl.proxies.get name = some p ∧ ¬ ctl.mu.Deleted name)

/-- The part of the invariant that speaks of one control and the objects it made. -/
structure Local (c : Nat) (ctl : Control) (registeredBy : Pxy → Option Nat)
    (closes : Pxy → Nat) : Prop where
  listed : ∀ name p, ctl.proxies.get name = some p →
    p.name = name ∧ p.ctl = c ∧ registeredBy p = some c
  ran : ∀ p, ctl.register = .ran p →
    p.ctl = c ∧ p.seq < ctl.made ∧ registeredBy p = none ∧ closes p = 0
  added : ∀ p, ctl.register = .added p → p.ctl = c ∧ registeredBy p = some c ∧ closes p = 0 ∧
    ctl.proxies.get p.name ≠ some p
  unclosed : ∀ name p, ctl.proxies.get name = some p → ctl.torn = false →
    ¬ ctl.mu.Closed name → closes p = 0
  closed : ∀ name p, ctl.proxies.get name = some p → ctl.torn = true ∨ ctl.mu.Closed name →
    closes p = 1
  closing : ∀ name p force deleted, ctl.mu = .closing name p force deleted →
    ctl.proxies.get name = some p
  tearing : ∀ visited current, ctl.mu = .tearing visited current → ctl.register = .exited ∧
    ∀ name p, current = some (name, p) → ctl.proxies.get name = some p ∧ name ∉ visited
  torn : ctl.torn = true → ctl.register = .exited ∧ ctl.mu = .free

structure Inv (s : State) : Prop where
  locals : ∀ c, Local c (s.controls c) s.registeredBy s.closes
  covers : s.pxys.Covers fun c => (s.controls c).View
  author : ∀ p c, s.registeredBy p = some c → p.ctl = c
  closedOnce : ClosedOnce s
  fresh : ∀ p, (s.controls p.ctl).made ≤ p.seq → s.registeredBy p = none ∧ s.closes p = 0

theorem start_inv : Inv start where
  locals := fun c => by constructor <;> simp [start, Mu.Closed]
  covers := fun name p => by simp [start, Control.View]
  author := fun p c by_ => by simp [start] at by_
  closedOnce := fun p c by_ => by simp [start] at by_
  fresh := fun p _ => ⟨rfl, rfl⟩

section Frame

variable {c d : Nat} {ctl : Control} {s t : State} {name : String} {p q : Pxy}

theorem Local.view (own : Local c ctl s.registeredBy s.closes) (view : ctl.View name p) :
    p.name = name ∧ s.registeredBy p = some c := by
  rcases view with ⟨added, same⟩ | ⟨-, listed, -⟩
  · exact ⟨same, (own.added p added).2.1⟩
  · exact ⟨(own.listed name p listed).1, (own.listed name p listed).2.2⟩

/-- What other controls do to their own objects does not matter here. -/
theorem Local.frame {registeredBy registeredBy' : Pxy → Option Nat} {closes closes' : Pxy → Nat}
    (own : Local c ctl registeredBy closes)
    (same : ∀ p, p.ctl = c → registeredBy' p = registeredBy p ∧ closes' p = closes p) :
    Local c ctl registeredBy' closes' where
  listed := by
    intro name p listed
    obtain ⟨named, mine, reg⟩ := own.listed name p listed
    exact ⟨named, mine, by rw [(same p mine).1, reg]⟩
  ran := by
    intro p ran
    obtain ⟨mine, old, reg, zero⟩ := own.ran p ran
    exact ⟨mine, old, by rw [(same p mine).1, reg], by rw [(same p mine).2, zero]⟩
  added := by
    intro p added
    obtain ⟨mine, reg, zero, unlisted⟩ := own.added p added
    exact ⟨mine, by rw [(same p mine).1, reg], by rw [(same p mine).2, zero], unlisted⟩
  unclosed := by
    intro name p listed live untouched
    rw [(same p (own.listed name p listed).2.1).2]
    exact own.unclosed name p listed live untouched
  closed := by
    intro name p listed ended
    rw [(same p (own.listed name p listed).2.1).2]
    exact own.closed name p listed ended
  closing := own.closing
  tearing := own.tearing
  torn := own.torn

/-! ## The four kinds of step -/

@[simp] theorem set_pxys (s : State) : (s.set c ctl).pxys = s.pxys := rfl
@[simp] theorem set_registeredBy (s : State) : (s.set c ctl).registeredBy = s.registeredBy := rfl
@[simp] theorem set_closes (s : State) : (s.set c ctl).closes = s.closes := rfl
@[simp] theorem set_controls_self (s : State) : (s.set c ctl).controls c = ctl := by
  simp [State.set]
theorem set_controls_of_ne (s : State) (other : d ≠ c) :
    (s.set c ctl).controls d = s.controls d := by
  simp [State.set, other]

/-- What a step of control `c` may change: its own record and its own objects. -/
structure Acts (c : Nat) (s t : State) : Prop where
  others : ∀ d, d ≠ c → t.controls d = s.controls d
  objects : ∀ p, p.ctl ≠ c → t.registeredBy p = s.registeredBy p ∧ t.closes p = s.closes p
  made : (s.controls c).made ≤ (t.controls c).made

theorem Inv.of_acts (inv : Inv s) (acts : Acts c s t)
    (own : Local c (t.controls c) t.registeredBy t.closes)
    (covers : t.pxys.Covers fun d => (t.controls d).View)
    (mine : ∀ p d, p.ctl = c → t.registeredBy p = some d →
      d = c ∧ p.seq < (t.controls c).made ∧ t.closes p ≤ 1)
    (fresh : ∀ p, p.ctl = c → (t.controls c).made ≤ p.seq → t.closes p = 0) : Inv t where
  locals := by
    intro d
    by_cases same : d = c
    · subst same
      exact own
    · rw [acts.others d same]
      exact (inv.locals d).frame fun p ctl => acts.objects p (ctl ▸ same)
  covers := covers
  author := by
    intro p d reg
    by_cases same : p.ctl = c
    · rw [same, (mine p d same reg).1]
    · exact inv.author p d ((acts.objects p same).1 ▸ reg)
  closedOnce := by
    intro p d reg
    by_cases same : p.ctl = c
    · exact (mine p d same reg).2.2
    · rw [(acts.objects p same).2]
      exact inv.closedOnce p d ((acts.objects p same).1 ▸ reg)
  fresh := by
    intro p old
    by_cases same : p.ctl = c
    · rw [same] at old
      refine ⟨?_, fresh p same old⟩
      cases reg : t.registeredBy p with
      | none => rfl
      | some d => exact absurd (mine p d same reg).2.1 (by omega)
    · rw [acts.others _ same] at old
      rw [(acts.objects p same).1, (acts.objects p same).2]
      exact inv.fresh p old

theorem registered_seq_lt (inv : Inv s) (reg : s.registeredBy p = some c) :
    p.seq < (s.controls c).made := by
  have ctl := inv.author p c reg
  by_contra old
  have := (inv.fresh p (by rw [ctl]; omega)).1
  simp [this] at reg

/-- The step writes the control's record and neither table entry nor object. -/
theorem set_inv (inv : Inv s) (own : Local c ctl s.registeredBy s.closes)
    (view : ∀ name p, ctl.View name p ↔ (s.controls c).View name p)
    (made : (s.controls c).made ≤ ctl.made) : Inv (s.set c ctl) := by
  have acts : Acts c s (s.set c ctl) :=
    ⟨fun d other => set_controls_of_ne s other, fun _ _ => ⟨rfl, rfl⟩, by simpa using made⟩
  refine inv.of_acts acts (by simpa using own) (inv.covers.congr ?_)
    ?_ ?_
  · intro d name p
    by_cases same : d = c
    · subst same
      simpa using view name p
    · rw [acts.others d same]
  · intro p d ctlOf reg
    have author := inv.author p d reg
    have once := inv.closedOnce p d reg
    have old := registered_seq_lt inv reg
    obtain rfl : d = c := author.symm.trans ctlOf
    exact ⟨rfl, by simpa using lt_of_lt_of_le old made, once⟩
  · intro p ctlOf old
    exact (inv.fresh p (by subst ctlOf; simp at old; omega)).2

/-- The step closes an object of the control that was not closed before. -/
theorem closePxy_inv (inv : Inv s) (mine : p.ctl = c) (old : p.seq < (s.controls c).made)
    (zero : s.closes p = 0)
    (own : Local c ctl s.registeredBy (Function.update s.closes p (s.closes p + 1)))
    (view : ∀ name p, ctl.View name p ↔ (s.controls c).View name p)
    (made : ctl.made = (s.controls c).made) : Inv ((s.closePxy p).set c ctl) := by
  have acts : Acts c s ((s.closePxy p).set c ctl) := by
    refine ⟨fun d other => set_controls_of_ne _ other, fun q other => ⟨rfl, ?_⟩, by simp [made]⟩
    have ne : q ≠ p := fun same => other (same ▸ mine)
    simp [State.closePxy, ne]
  refine inv.of_acts acts (by simpa [State.closePxy] using own)
    (inv.covers.congr ?_) ?_ ?_
  · intro d name q
    by_cases same : d = c
    · subst same
      simpa using view name q
    · rw [acts.others d same]
  · intro q d ctlOf reg
    have author := inv.author q d reg
    have once := inv.closedOnce q d reg
    have seq := registered_seq_lt inv reg
    obtain rfl : d = c := author.symm.trans ctlOf
    refine ⟨rfl, by simpa [made] using seq, ?_⟩
    by_cases same : q = p
    · subst same
      simp [State.closePxy, zero]
    · simpa [State.closePxy, same] using once
  · intro q ctlOf free
    have ne : q ≠ p := fun same => by subst same; simp [made] at free; omega
    have := (inv.fresh q (by subst ctlOf; simpa [made] using free)).2
    simpa [State.closePxy, ne] using this

/-- The step erases an entry that the control holds. -/
theorem delete_inv (inv : Inv s) (held : (s.controls c).View name p)
    (own : Local c ctl s.registeredBy s.closes)
    (view : ∀ n q, ctl.View n q ↔ (s.controls c).View n q ∧ n ≠ name)
    (made : ctl.made = (s.controls c).made) :
    Inv { s.set c ctl with pxys := s.pxys.delete name } := by
  have acts : Acts c s { s.set c ctl with pxys := s.pxys.delete name } :=
    ⟨fun d other => set_controls_of_ne s other, fun _ _ => ⟨rfl, rfl⟩, by simp [made]⟩
  refine inv.of_acts acts (by simpa using own) (inv.covers.delete (i := c) ?_ ?_ ?_)
    ?_ ?_
  · simpa using view
  · intro d n q other
    rw [acts.others d other]
  · intro d q other
    have entry := (inv.covers name p).2 ⟨c, held⟩
    have entry' := (inv.covers name q).2 ⟨d, other⟩
    obtain rfl : p = q := Option.some.inj (entry.symm.trans entry')
    have by_ := ((inv.locals c).view held).2
    have by_' := ((inv.locals d).view other).2
    exact Option.some.inj (by_'.symm.trans by_)
  · intro q d ctlOf reg
    have author := inv.author q d reg
    have once := inv.closedOnce q d reg
    have seq := registered_seq_lt inv reg
    obtain rfl : d = c := author.symm.trans ctlOf
    exact ⟨rfl, by simpa [made] using seq, once⟩
  · intro q ctlOf old
    exact (inv.fresh q (by subst ctlOf; simpa [made] using old)).2

/-- The step enters an object of the control under a free name. -/
theorem add_inv (inv : Inv s) (free : s.pxys.get p.name = none) (mine : p.ctl = c)
    (made_before : p.seq < (s.controls c).made) (zero : s.closes p = 0)
    (own : Local c ctl (Function.update s.registeredBy p (some c)) s.closes)
    (view : ∀ n q, ctl.View n q ↔ (s.controls c).View n q ∨ n = p.name ∧ q = p)
    (made : ctl.made = (s.controls c).made) :
    Inv { s.set c ctl with
      pxys := s.pxys.set p.name p
      registeredBy := Function.update s.registeredBy p (some c) } := by
  have acts : Acts c s { s.set c ctl with
      pxys := s.pxys.set p.name p
      registeredBy := Function.update s.registeredBy p (some c) } := by
    refine ⟨fun d other => set_controls_of_ne s other, fun q other => ⟨?_, rfl⟩, by simp [made]⟩
    have ne : q ≠ p := fun same => other (same ▸ mine)
    simp [ne]
  refine inv.of_acts acts (by simpa using own)
    (inv.covers.set (i := c) free (by simpa using view) ?_)
    ?_ ?_
  · intro d n q other
    rw [acts.others d other]
  · intro q d ctlOf reg
    by_cases same : q = p
    · subst same
      obtain rfl : c = d := by simpa using reg
      exact ⟨rfl, by simpa [made] using made_before, by simp [zero]⟩
    · have reg : s.registeredBy q = some d := by simpa [same] using reg
      have author := inv.author q d reg
      have once := inv.closedOnce q d reg
      have seq := registered_seq_lt inv reg
      obtain rfl : d = c := author.symm.trans ctlOf
      exact ⟨rfl, by simpa [made] using seq, by simpa using once⟩
  · intro q ctlOf old
    exact (inv.fresh q (by subst ctlOf; simpa [made] using old)).2

end Frame

/-! ## Every step keeps the invariant, except a stale close -/

section Step

variable {c : Nat} {ctl : Control} {s t : State} {name : String} {p q : Pxy}

theorem Local.active {registeredBy : Pxy → Option Nat} {closes : Pxy → Nat}
    (own : Local c ctl registeredBy closes) (busy : ctl.register ≠ .exited) :
    ctl.torn = false ∧ ∀ visited current, ctl.mu ≠ .tearing visited current :=
  ⟨Bool.eq_false_iff.2 fun torn => busy (own.torn torn).1,
    fun visited current tearing => busy (own.tearing visited current tearing).1⟩

theorem Local.live {registeredBy : Pxy → Option Nat} {closes : Pxy → Nat}
    (own : Local c ctl registeredBy closes) (held : ctl.mu ≠ .free) : ctl.torn = false :=
  Bool.eq_false_iff.2 fun torn => held (own.torn torn).2

/-- Moving the manager goroutine on, apart from the two states that speak of an object. -/
theorem Local.setRegister {registeredBy : Pxy → Option Nat} {closes : Pxy → Nat}
    (own : Local c ctl registeredBy closes) (busy : ctl.register ≠ .exited) {r : Register}
    (noRan : ∀ p, r ≠ .ran p) (noAdded : ∀ p, r ≠ .added p) :
    Local c { ctl with register := r } registeredBy closes where
  listed := own.listed
  ran := fun p ran => absurd ran (noRan p)
  added := fun p added => absurd added (noAdded p)
  unclosed := own.unclosed
  closed := own.closed
  closing := own.closing
  tearing := fun v cur tearing => absurd tearing ((own.active busy).2 v cur)
  torn := fun torn => by simp [(own.active busy).1] at torn

theorem view_unique (inv : Inv s) {d : Nat} (held : (s.controls c).View name p)
    (held' : (s.controls d).View name q) : p = q :=
  Option.some.inj (((inv.covers name p).2 ⟨c, held⟩).symm.trans
    ((inv.covers name q).2 ⟨d, held'⟩))

theorem exist_inv (inv : Inv s) (next : step s (.exist c name) = some t) : Inv t := by
  simp only [step] at next
  split at next
  · rename_i idle
    split at next
    · cases next
      refine set_inv inv ((inv.locals c).setRegister (by simp [idle]) (by simp) (by simp))
        ?_ le_rfl
      intro n q
      simp [Control.View, idle]
    · cases next
      exact inv
  · cases next

theorem run_inv (inv : Inv s) {ok : Bool} (next : step s (.run c ok) = some t) : Inv t := by
  simp only [step] at next
  split at next
  · rename_i name checked
    have own := inv.locals c
    have busy : (s.controls c).register ≠ .exited := by simp [checked]
    split at next
    · cases next
      have fresh := inv.fresh ⟨name, c, (s.controls c).made⟩ le_rfl
      refine set_inv inv { own with
          ran := fun p ran => ?_
          added := fun p added => by simp at added
          tearing := fun v cur tearing => absurd tearing ((own.active busy).2 v cur)
          torn := fun torn => by simp [(own.active busy).1] at torn }
        (fun n q => ?_) (Nat.le_succ _)
      · obtain rfl : (⟨name, c, (s.controls c).made⟩ : Pxy) = p := by simpa using ran
        exact ⟨rfl, Nat.lt_succ_self _, fresh⟩
      · simp [Control.View, checked]
    · cases next
      refine set_inv inv (own.setRegister busy (by simp) (by simp)) ?_ le_rfl
      intro n q
      simp [Control.View, checked]
  · cases next

theorem add_step_inv (inv : Inv s) (next : step s (.add c) = some t) : Inv t := by
  simp only [step] at next
  split at next
  · rename_i p ran
    have own := inv.locals c
    have busy : (s.controls c).register ≠ .exited := by simp [ran]
    obtain ⟨mine, old, unregistered, zero⟩ := own.ran p ran
    have distinct : ∀ n q, (s.controls c).proxies.get n = some q → q ≠ p := by
      rintro n q listed rfl
      simp [(own.listed n q listed).2.2] at unregistered
    split at next
    · rename_i free
      cases next
      refine add_inv inv free mine old zero
        { listed := fun n q listed => ?_
          ran := fun q ran => by simp at ran
          added := fun q added => ?_
          unclosed := own.unclosed
          closed := own.closed
          closing := own.closing
          tearing := fun v cur tearing => absurd tearing ((own.active busy).2 v cur)
          torn := fun torn => by simp [(own.active busy).1] at torn }
        (fun n q => ?_) rfl
      · simpa [distinct n q listed] using own.listed n q listed
      · obtain rfl : p = q := by simpa using added
        exact ⟨mine, by simp, zero, fun listed => distinct _ _ listed rfl⟩
      · simp only [Control.View, ran, Register.added.injEq, reduceCtorEq, false_and, false_or]
        constructor
        · rintro (⟨rfl, rfl⟩ | held)
          · exact .inr ⟨rfl, rfl⟩
          · exact .inl held
        · rintro (held | ⟨rfl, rfl⟩)
          · exact .inr held
          · exact .inl ⟨rfl, rfl⟩
    · cases next
      have idle := own.setRegister (r := .idle) busy (by simp) (by simp)
      refine closePxy_inv inv mine old zero
        { idle with
          ran := fun q ran => by simp at ran
          added := fun q added => by simp at added
          unclosed := fun n q listed live untouched => ?_
          closed := fun n q listed ended => ?_ }
        (fun n q => ?_) rfl
      · simpa [distinct n q listed] using own.unclosed n q listed live untouched
      · simpa [distinct n q listed] using own.closed n q listed ended
      · simp [Control.View, ran]
  · cases next

theorem insert_inv (inv : Inv s) (next : step s (.insert c) = some t) : Inv t := by
  simp only [step] at next
  split at next
  · rename_i p added free
    cases next
    have own := inv.locals c
    have busy : (s.controls c).register ≠ .exited := by simp [added]
    have live := (own.active busy).1
    obtain ⟨mine, reg, zero, unlisted⟩ := own.added p added
    have held : (s.controls c).View p.name p := .inl ⟨added, rfl⟩
    refine set_inv inv
      { listed := fun n q listed => ?_
        ran := fun q ran => by simp at ran
        added := fun q added => by simp at added
        unclosed := fun n q listed live untouched => ?_
        closed := fun n q listed ended => by simp [live, free, Mu.Closed] at ended
        closing := fun n q f d closing => by simp [free] at closing
        tearing := fun v cur tearing => by simp [free] at tearing
        torn := fun torn => by simp [live] at torn }
      (fun n q => ?_) le_rfl
    · simp only [GoMap.get_set] at listed
      split at listed
      · rename_i same
        cases listed
        exact ⟨same.symm, mine, reg⟩
      · exact own.listed n q listed
    · simp only [GoMap.get_set] at listed
      split at listed
      · cases listed
        exact zero
      · exact own.unclosed n q listed live untouched
    · by_cases same : n = p.name
      · subst same
        constructor
        · rintro (⟨added, -⟩ | ⟨-, listed, -⟩)
          · simp at added
          · obtain rfl : p = q := by simpa using listed
            exact held
        · intro held'
          obtain rfl := view_unique inv held held'
          exact .inr ⟨live, by simp, by simp [free, Mu.Deleted]⟩
      · have ne : ¬ p.name = n := fun h => same h.symm
        simp only [Control.View, added, Register.added.injEq, reduceCtorEq, false_and, false_or,
          GoMap.get_set, same, if_false]
        constructor
        · exact .inr
        · rintro (⟨rfl, named⟩ | held)
          · exact absurd named ne
          · exact held
  · cases next

theorem managerExit_inv (inv : Inv s) (next : step s (.managerExit c) = some t) : Inv t := by
  simp only [step, Option.ite_none_right_eq_some] at next
  obtain ⟨idle, ⟨⟩⟩ := next
  refine set_inv inv ((inv.locals c).setRegister (by simp [idle]) (by simp) (by simp))
    ?_ le_rfl
  intro n q
  simp [Control.View, idle]

/-- The holder of the mutex closes a listed proxy that was not closed before. -/
theorem Local.close {registeredBy : Pxy → Option Nat} {closes : Pxy → Nat} {mu : Mu}
    (own : Local c ctl registeredBy closes) (listed : ctl.proxies.get name = some p)
    (live : ctl.torn = false) (untouched : ¬ ctl.mu.Closed name)
    (closed : ∀ n, mu.Closed n ↔ n = name ∨ ctl.mu.Closed n)
    (closing : ∀ n q force deleted, mu = .closing n q force deleted →
      ctl.proxies.get n = some q)
    (tearing : ∀ visited current, mu = .tearing visited current → ctl.register = .exited ∧
      ∀ n q, current = some (n, q) → ctl.proxies.get n = some q ∧ n ∉ visited) :
    Local c { ctl with mu := mu } registeredBy (Function.update closes p (closes p + 1)) where
  listed := own.listed
  ran := by
    intro q ran
    obtain ⟨mine, old, unregistered, zero⟩ := own.ran q ran
    have ne : q ≠ p := by
      intro same
      simp [same, (own.listed name p listed).2.2] at unregistered
    exact ⟨mine, old, unregistered, by simpa [ne] using zero⟩
  added := by
    intro q added
    obtain ⟨mine, reg, zero, unlisted⟩ := own.added q added
    have ne : q ≠ p := by
      intro same
      subst same
      exact unlisted ((own.listed name q listed).1 ▸ listed)
    exact ⟨mine, reg, by simpa [ne] using zero, unlisted⟩
  unclosed := by
    intro n q other live still
    simp only [closed, not_or] at still
    have ne : q ≠ p := by
      intro same
      subst same
      exact still.1 ((own.listed n q other).1.symm.trans (own.listed name q listed).1)
    simpa [ne] using own.unclosed n q other live still.2
  closed := by
    intro n q other ended
    simp only [live, Bool.false_eq_true, false_or, closed] at ended
    rcases ended with rfl | ended
    · obtain rfl : p = q := Option.some.inj (listed.symm.trans other)
      simp [own.unclosed n p listed live untouched]
    · have ne : q ≠ p := by
        intro same
        subst same
        have named := (own.listed n q other).1
        rw [(own.listed name q listed).1] at named
        exact untouched (named ▸ ended)
      simpa [ne] using own.closed n q other (.inr ended)
  closing := closing
  tearing := tearing
  torn := fun torn => by simp [live] at torn

theorem close_inv (inv : Inv s) {force : Bool} (fresh : ¬ StaleClose s (.close c name force))
    (next : step s (.close c name force) = some t) : Inv t := by
  have own := inv.locals c
  simp only [step] at next
  split at next
  · rename_i p free listed
    cases next
    have live : (s.controls c).torn = false :=
      Bool.eq_false_iff.2 fun torn => fresh ⟨torn, free, by simp [listed]⟩
    obtain ⟨-, mine, reg⟩ := own.listed name p listed
    have untouched : ¬ (s.controls c).mu.Closed name := by simp [free, Mu.Closed]
    refine closePxy_inv inv mine (registered_seq_lt inv reg)
      (own.unclosed name p listed live untouched)
      (own.close listed live untouched (fun n => ?_) (fun n q f d closing => ?_)
        (fun v cur tearing => by simp at tearing))
      (fun n q => ?_) rfl
    · simp [free, Mu.Closed, eq_comm]
    · cases closing
      exact listed
    · simp [Control.View, free, Mu.Deleted]
  · cases next
    exact inv
  · cases next

theorem tearClose_inv (inv : Inv s) (next : step s (.tearClose c name) = some t) : Inv t := by
  have own := inv.locals c
  simp only [step] at next
  split at next
  · rename_i visited p held listed
    split at next
    · cases next
    · rename_i unvisited
      cases next
      have live := own.live (by simp [held])
      obtain ⟨-, mine, reg⟩ := own.listed name p listed
      have untouched : ¬ (s.controls c).mu.Closed name := by
        simp [held, Mu.Closed, unvisited]
      refine closePxy_inv inv mine (registered_seq_lt inv reg)
        (own.unclosed name p listed live untouched)
        (own.close listed live untouched (fun n => ?_) (fun n q f d closing => by simp at closing)
          (fun v cur tearing => ?_))
        (fun n q => ?_) rfl
      · simp [held, Mu.Closed, or_comm, eq_comm]
      · cases tearing
        refine ⟨(own.tearing _ _ held).1, ?_⟩
        intro n q current
        cases current
        exact ⟨listed, unvisited⟩
      · simp [Control.View, held, Mu.Deleted]
  · cases next

/-- The holder of the mutex erases the entry of a proxy that it has closed. -/
theorem erase_inv (inv : Inv s) {mu : Mu} (listed : (s.controls c).proxies.get name = some p)
    (live : (s.controls c).torn = false) (kept : ¬ (s.controls c).mu.Deleted name)
    (deleted : ∀ n, mu.Deleted n ↔ n = name ∨ (s.controls c).mu.Deleted n)
    (closed : ∀ n, mu.Closed n ↔ (s.controls c).mu.Closed n)
    (closing : ∀ n q force deleted, mu = .closing n q force deleted →
      (s.controls c).proxies.get n = some q)
    (tearing : ∀ visited current, mu = .tearing visited current →
      (s.controls c).register = .exited ∧
        ∀ n q, current = some (n, q) → (s.controls c).proxies.get n = some q ∧ n ∉ visited) :
    Inv { s.set c { s.controls c with mu := mu } with pxys := s.pxys.delete name } := by
  have own := inv.locals c
  have held : (s.controls c).View name p := .inr ⟨live, listed, kept⟩
  refine delete_inv inv held { own with
      unclosed := fun n q other live still => own.unclosed n q other live fun h =>
        still ((closed n).2 h)
      closed := fun n q other ended => own.closed n q other (by simpa [closed] using ended)
      closing := closing
      tearing := tearing
      torn := fun torn => by simp [live] at torn }
    (fun n q => ?_) rfl
  simp only [Control.View, live, true_and, deleted, not_or]
  constructor
  · rintro (⟨added, named⟩ | ⟨other, ne, still⟩)
    · refine ⟨.inl ⟨added, named⟩, ?_⟩
      intro same
      subst same
      obtain rfl := view_unique inv held (.inl ⟨added, named⟩)
      exact (own.added p added).2.2.2 (named ▸ listed)
    · exact ⟨.inr ⟨other, still⟩, ne⟩
  · rintro ⟨added | ⟨other, still⟩, ne⟩
    · exact .inl added
    · exact .inr ⟨other, ne, still⟩

theorem del_inv (inv : Inv s) (next : step s (.del c) = some t) : Inv t := by
  have own := inv.locals c
  simp only [step] at next
  split at next
  · rename_i name p force held
    cases next
    have listed := own.closing _ _ _ _ held
    have key : (if force then name else p.name) = name := by
      simp [(own.listed name p listed).1]
    rw [key]
    refine erase_inv inv listed (own.live (by simp [held])) (by simp [held, Mu.Deleted])
      (fun n => ?_) (fun n => ?_) (fun n q f d closing => ?_)
      (fun v cur tearing => by simp at tearing)
    · simp [held, Mu.Deleted, eq_comm]
    · simp [held, Mu.Closed]
    · cases closing
      exact listed
  · cases next

theorem tearDel_inv (inv : Inv s) (next : step s (.tearDel c) = some t) : Inv t := by
  have own := inv.locals c
  simp only [step] at next
  split at next
  · rename_i visited name p held
    cases next
    obtain ⟨exited, current⟩ := own.tearing _ _ held
    obtain ⟨listed, unvisited⟩ := current name p rfl
    rw [(own.listed name p listed).1]
    refine erase_inv inv listed (own.live (by simp [held]))
      (by simpa [held, Mu.Deleted] using unvisited)
      (fun n => ?_) (fun n => ?_) (fun n q f d closing => by simp at closing)
      (fun v cur tearing => ?_)
    · simp [held, Mu.Deleted]
    · simp [held, Mu.Closed, or_comm, eq_comm]
    · cases tearing
      exact ⟨exited, fun n q none => by simp at none⟩
  · cases next

theorem delete_step_inv (inv : Inv s) (next : step s (.delete c) = some t) : Inv t := by
  have own := inv.locals c
  simp only [step] at next
  split at next
  · rename_i name p force held
    cases next
    have live := own.live (by simp [held])
    have kept : ∀ n q, ((s.controls c).proxies.delete name).get n = some q →
        n ≠ name ∧ (s.controls c).proxies.get n = some q := by
      intro n q listed
      simpa [GoMap.get_delete] using listed
    refine set_inv inv
      { listed := fun n q listed => own.listed n q (kept n q listed).2
        ran := own.ran
        added := fun q added => ?_
        unclosed := fun n q listed live _ => ?_
        closed := fun n q listed ended => by simp [live, Mu.Closed] at ended
        closing := fun n q f d closing => by simp at closing
        tearing := fun v cur tearing => by simp at tearing
        torn := fun torn => by simp [live] at torn }
      (fun n q => ?_) le_rfl
    · obtain ⟨mine, reg, zero, unlisted⟩ := own.added q added
      exact ⟨mine, reg, zero, fun listed => unlisted (kept _ _ listed).2⟩
    · obtain ⟨ne, listed⟩ := kept n q listed
      exact own.unclosed n q listed live (by simpa [held, Mu.Closed, eq_comm] using ne)
    · simp [Control.View, live, held, Mu.Deleted, GoMap.get_delete, and_comm, eq_comm]
  · cases next

theorem tearStart_inv (inv : Inv s) (next : step s (.tearStart c) = some t) : Inv t := by
  have own := inv.locals c
  simp only [step, Option.ite_none_right_eq_some] at next
  obtain ⟨⟨exited, free, live⟩, ⟨⟩⟩ := next
  refine set_inv inv { own with
      unclosed := fun n q listed live _ => own.unclosed n q listed live (by simp [free, Mu.Closed])
      closed := fun n q listed ended => by simp [live, Mu.Closed] at ended
      closing := fun n q f d closing => by simp at closing
      tearing := fun v cur tearing => ?_
      torn := fun torn => by simp [live] at torn }
    (fun n q => ?_) le_rfl
  · cases tearing
    exact ⟨exited, fun n q none => by simp at none⟩
  · simp [Control.View, free, Mu.Deleted]

theorem tearDone_inv (inv : Inv s) (next : step s (.tearDone c) = some t) : Inv t := by
  have own := inv.locals c
  simp only [step] at next
  split at next
  · rename_i visited held
    split at next
    · rename_i all
      cases next
      have exited := (own.tearing _ _ held).1
      have done : ∀ n q, (s.controls c).proxies.get n = some q → n ∈ visited := fun n q listed =>
        all (GoMap.mem_keys_iff.2 ⟨q, listed⟩)
      refine set_inv inv { own with
          unclosed := fun n q listed live _ => by simp at live
          closed := fun n q listed _ => own.closed n q listed
            (.inr (by simp [held, Mu.Closed, done n q listed]))
          closing := fun n q f d closing => by simp at closing
          tearing := fun v cur tearing => by simp at tearing
          torn := fun _ => ⟨exited, rfl⟩ }
        (fun n q => ?_) le_rfl
      simp only [Control.View, exited, held, Mu.Deleted, Bool.true_eq_false, false_and, or_false,
        reduceCtorEq, false_or, false_iff, not_and, not_not]
      intro _ listed
      exact done n q listed
    · cases next
  · cases next

theorem step_inv {l : Label} (inv : Inv s) (fresh : ¬ StaleClose s l)
    (next : step s l = some t) : Inv t := by
  cases l with
  | exist => exact exist_inv inv next
  | run => exact run_inv inv next
  | add => exact add_step_inv inv next
  | insert => exact insert_inv inv next
  | managerExit => exact managerExit_inv inv next
  | close => exact close_inv inv fresh next
  | del => exact del_inv inv next
  | delete => exact delete_step_inv inv next
  | tearStart => exact tearStart_inv inv next
  | tearClose => exact tearClose_inv inv next
  | tearDel => exact tearDel_inv inv next
  | tearDone => exact tearDone_inv inv next

/-! ## What the invariant promises -/

theorem tablesAgree_of_resting (inv : Inv s)
    (resting : ∀ c, (s.controls c).register = .idle ∨ (s.controls c).register = .exited)
    (kept : ∀ c name, ¬ (s.controls c).mu.Deleted name) : TablesAgree s := by
  have view : ∀ c name p, (s.controls c).View name p ↔
      (s.controls c).torn = false ∧ (s.controls c).proxies.get name = some p := by
    intro c name p
    have unadded : (s.controls c).register ≠ .added p := by
      rcases resting c with idle | exited
      · simp [idle]
      · simp [exited]
    simp [Control.View, unadded, kept c name]
  intro name p
  rw [inv.covers name p]
  constructor
  · rintro ⟨c, held⟩
    refine ⟨c, (view c name p).1 held, ?_⟩
    intro d held'
    have by_ := ((inv.locals c).view held).2
    have by_' := ((inv.locals d).view ((view d name p).2 held')).2
    exact Option.some.inj (by_'.symm.trans by_)
  · rintro ⟨c, held, -⟩
    exact ⟨c, (view c name p).2 held⟩

/-- The step that erases an entry erases one that its own control holds. -/
theorem entry_gone {l : Label} (inv : Inv s) (next : step s l = some t)
    (entry : s.pxys.get name = some p) (gone : t.pxys.get name ≠ some p) :
    s.registeredBy p = some l.actor := by
  have erased : ∀ {c key q}, (s.controls c).View key q →
      (s.pxys.delete key).get name ≠ some p → s.registeredBy p = some c := by
    intro c key q held gone
    by_cases same : name = key
    · subst same
      obtain rfl : q = p := Option.some.inj (((inv.covers name q).2 ⟨c, held⟩).symm.trans entry)
      exact ((inv.locals c).view held).2
    · simp [same, entry] at gone
  cases l with
  | add c =>
      simp only [step] at next
      split at next
      · rename_i q ran
        split at next
        · rename_i free
          cases next
          have ne : name ≠ q.name := fun same => by simp [← same, entry] at free
          simp [ne, entry] at gone
        · cases next
          exact absurd entry gone
      · cases next
  | del c =>
      have own := inv.locals c
      simp only [step] at next
      split at next
      · rename_i key q force held
        cases next
        have listed := own.closing _ _ _ _ held
        have named : (if force then key else q.name) = key := by
          simp [(own.listed key q listed).1]
        rw [named] at gone
        have kept : ¬ (s.controls c).mu.Deleted key := by simp [held, Mu.Deleted]
        exact erased (.inr ⟨own.live (by simp [held]), listed, kept⟩) gone
      · cases next
  | tearDel c =>
      have own := inv.locals c
      simp only [step] at next
      split at next
      · rename_i visited key q held
        cases next
        obtain ⟨listed, unvisited⟩ := (own.tearing _ _ held).2 key q rfl
        rw [(own.listed key q listed).1] at gone
        have kept : ¬ (s.controls c).mu.Deleted key := by simpa [held, Mu.Deleted] using unvisited
        exact erased (.inr ⟨own.live (by simp [held]), listed, kept⟩) gone
      · cases next
  | exist | run | insert | managerExit | close | delete | tearStart | tearClose | tearDone =>
      simp only [step] at next
      repeat' split at next
      all_goals first
        | cases next; exact absurd entry gone
        | cases next

/-- The step that closes an object closes one of its own control. -/
theorem object_closed {l : Label} {d : Nat} (inv : Inv s) (next : step s l = some t)
    (reg : s.registeredBy p = some d) (closed : t.closes p ≠ s.closes p) : d = l.actor := by
  have mine : ∀ {c q}, s.registeredBy q = none ∨ s.registeredBy q = some c →
      (s.closePxy q).closes p ≠ s.closes p → d = c := by
    intro c q owner closed
    by_cases same : p = q
    · subst same
      simp only [reg, reduceCtorEq, Option.some.injEq, false_or] at owner
      exact owner
    · simp [State.closePxy, same] at closed
  cases l with
  | add c =>
      simp only [step] at next
      split at next
      · rename_i q ran
        split at next
        · cases next
          exact absurd rfl closed
        · cases next
          exact mine (.inl ((inv.locals c).ran q ran).2.2.1) closed
      · cases next
  | close c name force =>
      simp only [step] at next
      split at next
      · rename_i q free listed
        cases next
        exact mine (.inr ((inv.locals c).listed name q listed).2.2) closed
      · cases next
        exact absurd rfl closed
      · cases next
  | tearClose c name =>
      simp only [step] at next
      split at next
      · rename_i visited q held listed
        split at next
        · cases next
        · cases next
          exact mine (.inr ((inv.locals c).listed name q listed).2.2) closed
      · cases next
  | exist | run | insert | managerExit | del | delete | tearStart | tearDel | tearDone =>
      simp only [step] at next
      repeat' split at next
      all_goals first
        | cases next; exact absurd rfl closed
        | cases next

theorem others_kept {l : Label} {d : Nat} (next : step s l = some t) (other : d ≠ l.actor) :
    t.controls d = s.controls d := by
  cases l <;> simp only [step] at next <;> repeat' split at next
  all_goals first
    | cases next; exact set_controls_of_ne _ other
    | cases next; rfl
    | cases next

/-- The proxy that a stale close finds was closed by the teardown already. -/
theorem staleClose_closes_again {l : Label} (inv : Inv s) (stale : StaleClose s l)
    (next : step s l = some t) : ¬ ClosedOnce t := by
  cases l with
  | close c name force =>
      obtain ⟨torn, free, known⟩ := stale
      obtain ⟨p, listed⟩ := Option.ne_none_iff_exists'.1 known
      have once := (inv.locals c).closed name p listed (.inl torn)
      have reg := ((inv.locals c).listed name p listed).2.2
      simp only [step, free, listed, Option.some.injEq] at next
      subst next
      intro atMost
      have := atMost p c reg
      simp [State.closePxy, once] at this
  | _ => exact stale.elim

/-! ### What a torn-down control leaves behind -/

theorem torn_step_iff {l : Label} (next : step s l = some t) :
    (t.controls c).torn = true ↔ (s.controls c).torn = true ∨ l = .tearDone c := by
  by_cases other : c = l.actor
  · subst other
    cases l <;> simp only [step] at next <;> repeat' split at next
    all_goals first
      | cases next; simp [State.set, Label.actor]
      | cases next
  · have done : l ≠ .tearDone c := fun same => other (by rw [same, Label.actor])
    rw [others_kept next other]
    exact (or_iff_left done).symm

theorem registeredBy_step {l : Label} (next : step s l = some t)
    (reg : t.registeredBy p = some c) :
    s.registeredBy p = some c ∨ (t.controls c).register = .added p := by
  cases l with
  | add a =>
      simp only [step] at next
      split at next
      · rename_i q ran
        split at next
        · cases next
          by_cases same : p = q
          · subst same
            obtain rfl : a = c := by simpa using reg
            right
            simp [State.set]
          · left
            simpa [same] using reg
        · cases next
          exact .inl reg
      · cases next
  | exist | run | insert | managerExit | close | del | delete | tearStart | tearClose | tearDel
  | tearDone =>
      left
      simp only [step] at next
      repeat' split at next
      all_goals first
        | cases next; exact reg
        | cases next

theorem closes_le_step {l : Label} (next : step s l = some t) (p : Pxy) :
    s.closes p ≤ t.closes p := by
  have more : ∀ q, s.closes p ≤ (s.closePxy q).closes p := by
    intro q
    by_cases same : p = q
    · subst same
      simp [State.closePxy]
    · simp [State.closePxy, same]
  cases l <;> simp only [step] at next <;> repeat' split at next
  all_goals first
    | cases next; exact more _
    | cases next; exact le_rfl
    | cases next

/-- An object that is registered and not closed is listed by its control, or about to be. -/
def Accounted (s : State) : Prop :=
  ∀ p c, s.registeredBy p = some c → s.closes p = 0 →
    (s.controls c).proxies.get p.name = some p ∨ (s.controls c).register = .added p

theorem start_accounted : Accounted start := by
  intro p c reg
  simp [start] at reg

theorem insert_accounted (inv : Inv s) (next : step s (.insert c) = some t)
    (old : (s.controls c).proxies.get p.name = some p ∨ (s.controls c).register = .added p) :
    (t.controls c).proxies.get p.name = some p := by
  simp only [step] at next
  split at next
  · rename_i q added free
    cases next
    have busy : (s.controls c).register ≠ .exited := by simp [added]
    have live := ((inv.locals c).active busy).1
    simp only [set_controls_self, GoMap.get_set]
    split
    · rename_i named
      rcases old with listed | added'
      · have kept : ¬ (s.controls c).mu.Deleted p.name := by simp [free, Mu.Deleted]
        rw [view_unique inv (.inl ⟨added, named.symm⟩) (.inr ⟨live, listed, kept⟩)]
      · rw [added] at added'
        cases added'
        rfl
    · rename_i named
      rcases old with listed | added'
      · exact listed
      · rw [added] at added'
        cases added'
        exact absurd rfl named
  · cases next

theorem delete_accounted (inv : Inv s) (next : step s (.delete c) = some t)
    (unclosed : s.closes p = 0) (listed : (s.controls c).proxies.get p.name = some p) :
    (t.controls c).proxies.get p.name = some p := by
  simp only [step] at next
  split at next
  · rename_i name q force held
    cases next
    simp only [set_controls_self, GoMap.get_delete]
    split
    · rename_i named
      have closed := (inv.locals c).closed p.name p listed (.inr (by simp [held, Mu.Closed, named]))
      omega
    · exact listed
  · cases next

theorem accounted_step {l : Label} (inv : Inv s) (acc : Accounted s)
    (next : step s l = some t) : Accounted t := by
  intro p c reg zero
  rcases registeredBy_step next reg with old | new
  · have unclosed : s.closes p = 0 := Nat.le_zero.1 (zero ▸ closes_le_step next p)
    have held := acc p c old unclosed
    by_cases other : c = l.actor
    · subst other
      cases l with
      | insert a => exact .inl (insert_accounted inv next held)
      | delete a =>
          rcases held with listed | added
          · exact .inl (delete_accounted inv next unclosed listed)
          · right
            simp only [step] at next
            split at next
            · cases next
              simpa [Label.actor] using added
            · cases next
      | _ =>
          simp only [step] at next
          repeat' split at next
          all_goals first
            | cases next; simp_all [State.set, State.closePxy, Label.actor]
            | cases next
    · rw [others_kept next other]
      exact held
  · exact .inr new

/-- Every proxy of a torn-down control is closed, and none is in the global table. -/
theorem torn_leaves_nothing (inv : Inv s) (acc : Accounted s)
    (torn : (s.controls c).torn = true) :
    (∀ name p, s.pxys.get name = some p → p.ctl ≠ c) ∧
      ∀ p, s.registeredBy p = some c → s.closes p = 1 := by
  have own := inv.locals c
  have exited := (own.torn torn).1
  constructor
  · rintro name p entry rfl
    obtain ⟨d, view⟩ := (inv.covers name p).1 entry
    obtain rfl : p.ctl = d := inv.author p d ((inv.locals d).view view).2
    rcases view with ⟨added, -⟩ | ⟨live, -⟩
    · rw [exited] at added
      cases added
    · rw [torn] at live
      cases live
  · intro p reg
    have once := inv.closedOnce p c reg
    by_contra notOnce
    rcases acc p c reg (by omega) with listed | added
    · exact notOnce (own.closed p.name p listed (.inl torn))
    · rw [exited] at added
      cases added

end Step

/-! ## Panics keep the invariant, or break what the tables promise -/

namespace Panics

variable {c d : Nat} {s t : State} {l : Label} {name : String} {p : Pxy}

structure Inv (s : State) : Prop where
  tables : Registry.Inv s.tables
  /-- The panic came before `pxyManager.Del`. -/
  stuck : ∀ c, s.stuck c = true →
    ∃ name p, (s.tables.controls c).mu = .closing name p false false

theorem start_inv : Inv start where
  tables := Registry.start_inv
  stuck c stuck := by cases stuck

theorem of_cases {l : Registry.Label} (next : step s (.of l) = some t) :
    Registry.step s.tables l = some t.tables ∧ t.stuck = s.stuck ∧ s.blocks l = false := by
  simp only [step] at next
  split at next
  · cases next
  · rename_i free
    obtain ⟨tables, taken, rfl⟩ := Option.map_eq_some_iff.1 next
    exact ⟨taken, rfl, Bool.eq_false_iff.2 free⟩

theorem closePanics_cases {force : Bool} (next : step s (.closePanics c name force) = some t) :
    ∃ p, (s.tables.controls c).mu = .free ∧ (s.tables.controls c).proxies.get name = some p ∧
      (force = true ∧ t = { s with tables := s.tables.closePxy p } ∨
        force = false ∧ Registry.step s.tables (.close c name false) = some t.tables ∧
          t.stuck = Function.update s.stuck c true) := by
  simp only [step] at next
  split at next
  · rename_i p free listed
    refine ⟨p, free, listed, ?_⟩
    split at next
    · rename_i forced
      cases next
      exact .inl ⟨forced, rfl⟩
    · rename_i unforced
      cases next
      refine .inr ⟨Bool.eq_false_iff.2 unforced, ?_, rfl⟩
      simp only [Registry.step, free, listed]
  · cases next

theorem tearPanics_cases (next : step s (.tearPanics c name) = some t) :
    ∃ p, (s.tables.controls c).proxies.get name = some p ∧
      t.tables = (s.tables.closePxy p).set c
        { s.tables.controls c with mu := .free, torn := true } := by
  simp only [step] at next
  split at next
  · rename_i visited p held listed
    split at next
    · cases next
    · cases next
      exact ⟨p, listed, rfl⟩
  · cases next

/-- `RegisterProxy` comes to its deferred close, and the manager goroutine ends. -/
theorem addPanics_cases (next : step s (.addPanics c) = some t) :
    ∃ p u, (s.tables.controls c).register = .ran p ∧ Registry.step s.tables (.add c) = some u ∧
      Registry.step u (.managerExit c) = some t.tables ∧
      t = { s with
        tables := (s.tables.closePxy p).set c
          { s.tables.controls c with register := .exited } } := by
  simp only [step] at next
  split at next
  · rename_i p ran
    split at next
    · cases next
    · rename_i taken
      cases next
      refine ⟨p, (s.tables.closePxy p).set c { s.tables.controls c with register := .idle }, ran,
        by simp [Registry.step, ran, taken], ?_, rfl⟩
      simp [Registry.step, Registry.State.set]
  · cases next

theorem others_kept (next : step s l = some t) (other : d ≠ l.actor) :
    t.tables.controls d = s.tables.controls d := by
  cases l with
  | of l => exact Registry.others_kept (of_cases next).1 other
  | closePanics c name force =>
      obtain ⟨p, -, -, ⟨-, rfl⟩ | ⟨-, taken, -⟩⟩ := closePanics_cases next
      · rfl
      · exact Registry.others_kept taken other
  | tearPanics c name =>
      obtain ⟨p, -, same⟩ := tearPanics_cases next
      rw [same]
      exact set_controls_of_ne _ other
  | addPanics c =>
      obtain ⟨p, u, -, -, -, rfl⟩ := addPanics_cases next
      exact set_controls_of_ne _ other

theorem run_others_kept {ls : List Label} (run : exec step s ls = some t)
    (other : ∀ l ∈ ls, d ≠ l.actor) : t.tables.controls d = s.tables.controls d := by
  induction ls generalizing s with
  | nil =>
      cases run
      rfl
  | cons l ls ih =>
      obtain ⟨u, first, rest⟩ := exec_cons_eq_some.1 run
      rw [ih rest fun l' member => other l' (.tail _ member), others_kept first (other l (.head _))]

/-- A close that has not reached `pxyManager.Del` stays there. -/
theorem closing_kept {u v : Registry.State} {l : Registry.Label}
    (next : Registry.step u l = some v) (other : l ≠ .del c)
    (held : (u.controls c).mu = .closing name p false false) :
    (v.controls c).mu = .closing name p false false := by
  by_cases mine : c = l.actor
  · subst mine
    cases l with
    | del c => exact absurd rfl other
    | _ =>
        simp only [Registry.Label.actor] at held
        simp only [Registry.step, held, reduceCtorEq, false_and, and_false, if_false] at next
        repeat' split at next
        all_goals first
          | cases next; simp [Registry.Label.actor, Registry.State.set, held]
          | cases next
  · rw [Registry.others_kept next mine]
    exact held

theorem Inv.step (inv : Inv s) (guarded : Guard s l) (next : step s l = some t) : Inv t := by
  cases l with
  | of l =>
      obtain ⟨taken, same, free⟩ := of_cases next
      refine ⟨step_inv inv.tables guarded taken, ?_⟩
      intro c stuck
      rw [same] at stuck
      obtain ⟨name, p, held⟩ := inv.stuck c stuck
      refine ⟨name, p, closing_kept taken ?_ held⟩
      rintro rfl
      exact Bool.false_ne_true (free.symm.trans stuck)
  | closePanics c name force =>
      obtain ⟨rfl, fresh⟩ := guarded
      obtain ⟨p, free, listed, ⟨forced, -⟩ | ⟨-, taken, same⟩⟩ := closePanics_cases next
      · cases forced
      · refine ⟨step_inv inv.tables fresh taken, ?_⟩
        intro d stuck
        by_cases mine : d = c
        · subst mine
          refine ⟨name, p, ?_⟩
          simp only [Registry.step, free, listed, Option.some.injEq] at taken
          rw [← taken, set_controls_self]
        · rw [same, Function.update_of_ne mine] at stuck
          rw [others_kept next mine]
          exact inv.stuck d stuck
  | tearPanics c name => exact guarded.elim
  | addPanics c =>
      obtain ⟨p, u, ran, first, last, rfl⟩ := addPanics_cases next
      refine ⟨step_inv (step_inv inv.tables id first) id last, ?_⟩
      intro d stuck
      obtain ⟨name, q, held⟩ := inv.stuck d stuck
      refine ⟨name, q, ?_⟩
      by_cases mine : d = c
      · subst mine
        simpa using held
      · rw [set_controls_of_ne _ mine]
        exact held

theorem Inv.tablesAgree (inv : Inv s) (quiet : Quiet s) : TablesAgree s.tables := by
  apply tablesAgree_of_resting inv.tables fun c => (quiet c).1
  intro c name
  rcases (quiet c).2 with free | stuck
  · simp [free, Mu.Deleted]
  · obtain ⟨n, p, held⟩ := inv.stuck c stuck
    simp [held, Mu.Deleted]

theorem keepsToItsOwn_of_step {u v : Registry.State} {l : Registry.Label} (inv : Registry.Inv u)
    (next : Registry.step u l = some v) : KeepsToItsOwn u l.actor v :=
  ⟨fun _ _ => entry_gone inv next, fun _ _ => object_closed inv next⟩

theorem Inv.keepsToItsOwn (inv : Inv s) (guarded : Guard s l) (next : Panics.step s l = some t) :
    KeepsToItsOwn s.tables l.actor t.tables := by
  cases l with
  | of l => exact keepsToItsOwn_of_step inv.tables (of_cases next).1
  | closePanics c name force =>
      obtain ⟨rfl, -⟩ := guarded
      obtain ⟨p, -, -, ⟨forced, -⟩ | ⟨-, taken, -⟩⟩ := closePanics_cases next
      · cases forced
      · exact keepsToItsOwn_of_step inv.tables taken
  | tearPanics c name => exact guarded.elim
  | addPanics c =>
      obtain ⟨p, u, ran, -, -, rfl⟩ := addPanics_cases next
      refine ⟨fun n q entry gone => absurd entry gone, fun q d reg closed => ?_⟩
      have other : q ≠ p := by
        rintro rfl
        have unregistered := ((inv.tables.locals c).ran q ran).2.2.1
        rw [reg] at unregistered
        cases unregistered
      simp [Registry.State.closePxy, other] at closed

theorem Inv.consistent (inv : Inv s) (guarded : Guard s l) (next : Panics.step s l = some t) :
    Consistent s l t :=
  have inv' := inv.step guarded next
  ⟨inv'.tablesAgree, inv.keepsToItsOwn guarded next, inv'.tables.closedOnce⟩

/-- A proxy that is closed and still listed is closed by the dashboard once more. -/
theorem closes_again (free : (s.tables.controls c).mu = .free)
    (listed : (s.tables.controls c).proxies.get name = some p)
    (reg : s.tables.registeredBy p = some c) (closed : 1 ≤ s.tables.closes p) :
    ∃ l t, step s l = some t ∧ ¬ Consistent s l t := by
  have taken : Registry.step s.tables (.close c name true) =
      some ((s.tables.closePxy p).set c
        { s.tables.controls c with mu := .closing name p true false }) := by
    simp only [Registry.step, free, listed]
  have next : step s (.of (.close c name true)) = some { s with
      tables := (s.tables.closePxy p).set c
        { s.tables.controls c with mu := .closing name p true false } } := by
    simp [step, State.blocks, taken]
  refine ⟨_, _, next, fun consistent => ?_⟩
  have once := consistent.2.2 p c reg
  simp [Registry.State.closePxy] at once
  omega

theorem breaks_of_not_guard (inv : Inv s) (breaks : ¬ Guard s l) (next : step s l = some t) :
    ∃ more, ¬ Along step Consistent s (l :: more) := by
  have again : ∀ c name p, (t.tables.controls c).mu = .free →
      (t.tables.controls c).proxies.get name = some p → t.tables.registeredBy p = some c →
      1 ≤ t.tables.closes p → ∃ more, ¬ Along step Consistent s (l :: more) :=
    fun c name p free listed reg closed =>
      not_along_of_canReach_step next (.here (closes_again free listed reg closed))
  cases l with
  | of l =>
      have stale : StaleClose s.tables l := Classical.not_not.1 breaks
      have twice := staleClose_closes_again inv.tables stale (of_cases next).1
      exact ⟨[], fun along => twice (along t next).1.2.2⟩
  | closePanics c name force =>
      obtain ⟨p, free, listed, ⟨-, rfl⟩ | ⟨rfl, taken, -⟩⟩ := closePanics_cases next
      · refine again c name p free listed ((inv.tables.locals c).listed name p listed).2.2 ?_
        simp [Registry.State.closePxy]
      · have stale : StaleClose s.tables (.close c name false) := by
          by_contra fresh
          exact breaks ⟨rfl, fresh⟩
        have twice := staleClose_closes_again inv.tables stale taken
        exact ⟨[], fun along => twice (along t next).1.2.2⟩
  | tearPanics c name =>
      obtain ⟨p, listed, same⟩ := tearPanics_cases next
      refine again c name p (by simp [same]) (by simpa [same] using listed) ?_ ?_
      · rw [same]
        exact ((inv.tables.locals c).listed name p listed).2.2
      · simp [same, Registry.State.closePxy]
  | addPanics c => exact absurd trivial breaks

end Panics

/-- **The registry is consistent along a run in which no close finds a name in the table of a
torn-down control, and `Close` of a proxy panics neither in `ForceCloseProxy` nor in the loop
of `stoper`; and a run that takes another step leads to where it is not.** -/
theorem registry_consistent (ls : List Panics.Label) :
    (Along Panics.step (fun s l _ => Panics.Guard s l) Panics.start ls →
      Along Panics.step Panics.Consistent Panics.start ls) ∧
      ∀ s l t, Along Panics.step (fun s l _ => Panics.Guard s l) Panics.start ls →
        exec Panics.step Panics.start ls = some s → ¬ Panics.Guard s l →
          Panics.step s l = some t →
            ∃ more, ¬ Along Panics.step Panics.Consistent Panics.start (ls ++ l :: more) := by
  refine strengthen_and_tight Panics.Inv ?_ ?_ ?_ Panics.start_inv ls
  · intro s l t inv guarded next
    exact inv.step guarded next
  · intro s l t inv guarded next
    exact inv.consistent guarded next
  · intro s l t inv breaks next
    exact Panics.breaks_of_not_guard inv breaks next

/-- Control 0 registers "web" and is torn down; control 1 registers "web"; the
dashboard, which looked control 0 up earlier, now closes its "web". -/
def successorHit : List Panics.Label :=
  [.of (.exist 0 "web"), .of (.run 0 true), .of (.add 0), .of (.insert 0), .of (.managerExit 0),
    .of (.tearStart 0), .of (.tearClose 0 "web"), .of (.tearDel 0), .of (.tearDone 0),
    .of (.exist 1 "web"), .of (.run 1 true), .of (.add 1), .of (.insert 1),
    .of (.close 0 "web" true), .of (.del 0), .of (.delete 0)]

theorem stale_close_hits_successor :
    (∃ t, exec Panics.step Panics.start successorHit = some t ∧ Panics.Quiet t ∧
      t.tables.pxys.get "web" = none ∧ (t.tables.controls 1).torn = false ∧
      (t.tables.controls 1).proxies.get "web" = some ⟨"web", 1, 0⟩) ∧
      ¬ Along Panics.step Panics.Consistent Panics.start successorHit := by
  have run : (exec Panics.step Panics.start successorHit).map (fun t =>
      (t.tables.pxys.get "web", (t.tables.controls 1).torn,
        (t.tables.controls 1).proxies.get "web", t.tables.registeredBy ⟨"web", 0, 0⟩,
        t.tables.closes ⟨"web", 0, 0⟩)) =
      some (none, false, some ⟨"web", 1, 0⟩, some 0, 2) := by decide
  have resting : (exec Panics.step Panics.start successorHit).map (fun t =>
      (((t.tables.controls 0).register, (t.tables.controls 0).mu),
        ((t.tables.controls 1).register, (t.tables.controls 1).mu))) =
      some ((.exited, .free), (.idle, .free)) := by decide
  obtain ⟨t, last, found⟩ := Option.map_eq_some_iff.1 run
  simp only [last, Option.map_some, Option.some.injEq, Prod.mk.injEq] at found resting
  obtain ⟨entry, live, listed, reg, twice⟩ := found
  refine ⟨⟨t, last, ?_, entry, live, listed⟩, ?_⟩
  · intro c
    rcases Nat.lt_trichotomy c 1 with zero | rfl | more
    · obtain rfl : c = 0 := by omega
      exact ⟨.inr resting.1.1, .inl resting.1.2⟩
    · exact ⟨.inl resting.2.1, .inl resting.2.2⟩
    · have untouched : ∀ l ∈ successorHit, c ≠ l.actor := by
        intro l member
        have : l.actor = 0 ∨ l.actor = 1 := by revert l; decide
        omega
      rw [Panics.run_others_kept last untouched]
      exact ⟨.inl rfl, .inl rfl⟩
  · intro consistent
    have once : ClosedOnce t.tables := invariant_of_along (fun s => ClosedOnce s.tables)
      (fun s l t _ good _ => good.2.2) Panics.start_inv.tables.closedOnce consistent last
    have := once _ _ reg
    omega

end ChmlFrp.Server.Registry
