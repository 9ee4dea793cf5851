/-
# ChmlFrp.Server.WorkConn — the pool of work connections of a control

`RegisterWorkConn`, `GetWorkConn` and `stoper` of `server/control.go`, around the channel
`workConnCh`.  A connection that is handed to `RegisterWorkConn` waits in the channel until
a call of `GetWorkConn` takes it or `stoper`, which closes the channel, drains it; if the
call returns an error, `handleConnection` closes the connection.

The recover in `RegisterWorkConn` catches the send on a closed channel, and the call then
returns nil.

* `conserved_iff`: exactly in the runs in which `RegisterWorkConn` finds the channel open
  does every connection end in one place.
* `register_after_stop_loses_conn`: a run in which one ends nowhere.
-/
import ChmlFrp.Lib.Chan
import ChmlFrp.Lib.Transition
import Mathlib.Data.List.Nodup
import Mathlib.Logic.Function.Basic

namespace ChmlFrp.Server.WorkConn

set_option autoImplicit false

open ChmlFrp.Lib
open ChmlFrp.Lib.Transition

abbrev Conn := Nat

inductive GetErr where
  | ctlClosed
  /-- "control is already closed": the request for a connection could not be sent. -/
  | requestFailed
  | timeout
  deriving DecidableEq, Repr

/-- Where a call of `GetWorkConn` is. -/
inductive Getter where
  | called
  /-- The pool was empty. -/
  | requesting
  | waiting
  /-- It has a connection and asks the client for another one. -/
  | replacing (conn : Conn)
  | returned (result : Except GetErr Conn)

inductive Stoper where
  | waiting
  | draining
  | finished
  deriving DecidableEq, Repr

structure Control where
  workConnCh : Chan Conn
  getters : Nat → Getter
  stoper : Stoper
  /-- The connections handed to `RegisterWorkConn`. -/
  handed : List Conn
  /-- The connections that calls of `GetWorkConn` took. -/
  taken : List (Nat × Conn)
  closedByStoper : List Conn
  /-- The connections that `handleConnection` closes. -/
  rejected : List Conn

/-- The part of `NewControl` that makes the channel. -/
def newControl (poolCount maxPoolCount : Int) : Control where
  workConnCh := .make (min poolCount maxPoolCount + 10).toNat
  getters := fun _ => .called
  stoper := .waiting
  handed := []
  taken := []
  closedByStoper := []
  rejected := []

/-- `Control.RegisterWorkConn`: the channel, and whether an error is returned. -/
def registerWorkConn (workConnCh : Chan Conn) (conn : Conn) : Chan Conn × Bool :=
  match workConnCh.send conn with
  | .done ch => (ch, false)
  -- "work connection pool is full, discarding"
  | .blocks => (workConnCh, true)
  -- The recover: the result has no name, so nil is returned.
  | .panics => (workConnCh, false)

inductive Label where
  /-- `handleConnection` of a `NewWorkConn`, and whether the service lets it through. -/
  | register (conn : Conn) (verified : Bool)
  | getFromPool (g : Nat)
  /-- The message that asks the client for a connection; sent, or `sendCh` is closed. -/
  | request (g : Nat) (sent : Bool)
  | getWaiting (g : Nat)
  | timeout (g : Nat)
  | replace (g : Nat)
  /-- `close(ctl.workConnCh)` -/
  | stopClose
  /-- One round of the loop that drains the channel. -/
  | stopDrain
  deriving DecidableEq, Repr

namespace Control

variable (ctl : Control)

def setGetter (g : Nat) (getter : Getter) : Control :=
  { ctl with getters := Function.update ctl.getters g getter }

/-- A call of `GetWorkConn` receives from the channel, or goes on as given. -/
def receive (g : Nat) (blocked : Option Control) : Option Control :=
  match ctl.workConnCh.recv with
  | .done (some conn, ch) =>
      some
        { ctl with
          workConnCh := ch
          getters := Function.update ctl.getters g (.replacing conn)
          taken := ctl.taken ++ [(g, conn)] }
  | .done (none, _) => some (ctl.setGetter g (.returned (.error .ctlClosed)))
  | _ => blocked

/-- Where the connections are. -/
def places : List Conn :=
  ctl.workConnCh.buf ++ ctl.taken.map Prod.snd ++ ctl.closedByStoper ++ ctl.rejected

end Control

def step (ctl : Control) : Label → Option Control
  | .register conn verified =>
      if conn ∈ ctl.handed then none
      else
        let (ch, err) :=
          if verified then registerWorkConn ctl.workConnCh conn else (ctl.workConnCh, true)
        some
          { ctl with
            workConnCh := ch
            handed := ctl.handed ++ [conn]
            rejected := if err then ctl.rejected ++ [conn] else ctl.rejected }
  | .getFromPool g =>
      match ctl.getters g with
      | .called => ctl.receive g (some (ctl.setGetter g .requesting))
      | _ => none
  | .request g sent =>
      match ctl.getters g with
      | .requesting =>
          some (ctl.setGetter g (if sent then .waiting else .returned (.error .requestFailed)))
      | _ => none
  | .getWaiting g =>
      match ctl.getters g with
      | .waiting => ctl.receive g none
      | _ => none
  | .timeout g =>
      match ctl.getters g with
      | .waiting => some (ctl.setGetter g (.returned (.error .timeout)))
      | _ => none
  | .replace g =>
      match ctl.getters g with
      | .replacing conn => some (ctl.setGetter g (.returned (.ok conn)))
      | _ => none
  | .stopClose =>
      if ctl.stoper = .waiting then
        match ctl.workConnCh.close with
        | .done ch => some { ctl with workConnCh := ch, stoper := .draining }
        | _ => some { ctl with stoper := .finished }
      else none
  | .stopDrain =>
      if ctl.stoper = .draining then
        match ctl.workConnCh.recv with
        | .done (some conn, ch) =>
            some { ctl with workConnCh := ch, closedByStoper := ctl.closedByStoper ++ [conn] }
        | .done (none, _) => some { ctl with stoper := .finished }
        | _ => none
      else none

/-- Every connection is in one place, and when `stoper` is through none of them is in the
pool; a call of `GetWorkConn` returns what it took. -/
structure Conserved (ctl : Control) : Prop where
  once : ∀ conn ∈ ctl.handed, ctl.places.count conn = 1
  ended : ctl.stoper = .finished → ctl.workConnCh.buf = []
  returned : ∀ g conn, ctl.getters g = .returned (.ok conn) → (g, conn) ∈ ctl.taken

/-- `RegisterWorkConn` finds the channel open. -/
def Guard (ctl : Control) : Label → Prop
  | .register _ verified => verified = true → ctl.workConnCh.closed = false
  | _ => True

/-! ## The invariant -/

structure Inv (ctl : Control) : Prop where
  placed : ∀ conn, ctl.places.count conn = ctl.handed.count conn
  nodup : ctl.handed.Nodup
  stoper : ctl.stoper = .waiting ↔ ctl.workConnCh.closed = false
  ended : ctl.stoper = .finished → ctl.workConnCh.buf = []
  held : ∀ g conn, ctl.getters g = .replacing conn ∨ ctl.getters g = .returned (.ok conn) →
    (g, conn) ∈ ctl.taken

theorem newControl_inv (poolCount maxPoolCount : Int) :
    Inv (newControl poolCount maxPoolCount) where
  placed conn := rfl
  nodup := List.nodup_nil
  stoper := by simp [newControl]
  ended finished := by cases finished
  held g conn hold := by rcases hold with hold | hold <;> cases hold

section Step

variable {ctl t : Control} {l : Label}

theorem Inv.conserved (inv : Inv ctl) : Conserved ctl where
  once conn mem := by
    rw [inv.placed]
    exact List.count_eq_one_of_mem inv.nodup mem
  ended := inv.ended
  returned g conn result := inv.held g conn (.inr result)

/-- A getter that holds no connection changes its phase. -/
theorem Inv.setGetter (inv : Inv ctl) {g : Nat} {getter : Getter}
    (empty : ∀ conn, getter ≠ .replacing conn ∧ getter ≠ .returned (.ok conn)) :
    Inv (ctl.setGetter g getter) where
  placed := inv.placed
  nodup := inv.nodup
  stoper := inv.stoper
  ended := inv.ended
  held g' conn hold := by
    simp only [Control.setGetter] at hold
    by_cases same : g' = g
    · subst same
      simp only [Function.update_self] at hold
      rcases hold with hold | hold
      · exact absurd hold (empty conn).1
      · exact absurd hold (empty conn).2
    · simp only [Function.update_of_ne same] at hold
      exact inv.held g' conn hold

theorem receive_inv (inv : Inv ctl) {g : Nat} {blocked : Option Control}
    (otherwise : ∀ u, blocked = some u → Inv u) (next : ctl.receive g blocked = some t) :
    Inv t := by
  unfold Control.receive at next
  split at next
  · rename_i conn ch received
    cases next
    obtain ⟨rest, buf, rfl⟩ := Chan.recv_eq_some_iff.1 received
    refine ⟨?_, inv.nodup, inv.stoper, ?_, ?_⟩
    · intro conn'
      have placed := inv.placed conn'
      simp only [Control.places, buf, List.map_append, List.map_cons, List.map_nil,
        List.count_append, List.count_cons, List.count_nil] at placed ⊢
      omega
    · intro finished
      have empty := inv.ended finished
      rw [buf] at empty
      cases empty
    · intro g' conn' hold
      rw [List.mem_append, List.mem_singleton]
      by_cases same : g' = g
      · subst same
        simp only [Function.update_self] at hold
        rcases hold with hold | hold
        · cases hold
          exact .inr rfl
        · cases hold
      · simp only [Function.update_of_ne same] at hold
        exact .inl (inv.held g' conn' hold)
  · cases next
    exact inv.setGetter fun conn => ⟨nofun, nofun⟩
  · exact otherwise t next

theorem stop_inv (inv : Inv ctl) (next : step ctl .stopClose = some t) : Inv t := by
  simp only [step, Option.ite_none_right_eq_some] at next
  obtain ⟨waiting, next⟩ := next
  have opened := inv.stoper.1 waiting
  have closes : ctl.workConnCh.close = .done { ctl.workConnCh with closed := true } :=
    Chan.close_eq_done_iff.2 ⟨opened, rfl⟩
  rw [closes] at next
  cases next
  exact ⟨inv.placed, inv.nodup, ⟨nofun, nofun⟩, nofun, inv.held⟩

theorem drain_inv (inv : Inv ctl) (next : step ctl .stopDrain = some t) : Inv t := by
  simp only [step, Option.ite_none_right_eq_some] at next
  obtain ⟨draining, next⟩ := next
  have shut : ctl.workConnCh.closed = true := by
    apply eq_true_of_ne_false
    intro opened
    rw [inv.stoper.2 opened] at draining
    cases draining
  split at next
  · rename_i conn ch received
    cases next
    obtain ⟨rest, buf, rfl⟩ := Chan.recv_eq_some_iff.1 received
    refine ⟨?_, inv.nodup, inv.stoper, ?_, inv.held⟩
    · intro conn'
      have placed := inv.placed conn'
      simp only [Control.places, buf, List.count_append, List.count_cons, List.count_nil]
        at placed ⊢
      omega
    · intro finished
      rw [draining] at finished
      cases finished
  · rename_i ch received
    cases next
    obtain ⟨empty, -, -⟩ := Chan.recv_eq_none_iff.1 received
    refine ⟨inv.placed, inv.nodup, ⟨nofun, fun opened => ?_⟩, fun _ => empty, inv.held⟩
    rw [shut] at opened
    cases opened
  · cases next

/-- What comes of a connection that is handed over while the channel is open. -/
theorem register_inv {conn : Conn} {verified : Bool} (inv : Inv ctl)
    (guard : Guard ctl (.register conn verified))
    (next : step ctl (.register conn verified) = some t) : Inv t := by
  simp only [step, Option.ite_none_left_eq_some] at next
  obtain ⟨new, next⟩ := next
  have nodup : (ctl.handed ++ [conn]).Nodup := by
    rw [List.nodup_append]
    refine ⟨inv.nodup, List.nodup_singleton conn, ?_⟩
    intro old mem other single same
    rw [List.mem_singleton] at single
    subst single same
    exact new mem
  cases verified with
  | false =>
      cases next
      refine ⟨?_, nodup, inv.stoper, inv.ended, inv.held⟩
      intro conn'
      have placed := inv.placed conn'
      simp only [Control.places, List.count_append, if_true, Bool.false_eq_true,
        if_false] at placed ⊢
      omega
  | true =>
      have opened : ctl.workConnCh.closed = false := guard rfl
      simp only [if_true, registerWorkConn] at next
      cases sent : ctl.workConnCh.send conn with
      | done ch =>
          rw [sent] at next
          cases next
          obtain ⟨-, -, rfl⟩ := Chan.send_eq_done_iff.1 sent
          refine ⟨?_, nodup, inv.stoper, ?_, inv.held⟩
          · intro conn'
            have placed := inv.placed conn'
            simp only [Control.places, List.count_append, Bool.false_eq_true, if_false]
              at placed ⊢
            omega
          · intro finished
            rw [inv.stoper.2 opened] at finished
            cases finished
      | blocks =>
          rw [sent] at next
          cases next
          refine ⟨?_, nodup, inv.stoper, inv.ended, inv.held⟩
          intro conn'
          have placed := inv.placed conn'
          simp only [Control.places, List.count_append, if_true] at placed ⊢
          omega
      | panics =>
          rw [Chan.send_eq_panics_iff, opened] at sent
          cases sent

theorem step_inv (inv : Inv ctl) (guard : Guard ctl l) (next : step ctl l = some t) :
    Inv t := by
  cases l with
  | register conn verified => exact register_inv inv guard next
  | stopClose => exact stop_inv inv next
  | stopDrain => exact drain_inv inv next
  | getFromPool g =>
      simp only [step] at next
      split at next
      · refine receive_inv inv (fun u blocked => ?_) next
        cases blocked
        exact inv.setGetter fun conn => ⟨nofun, nofun⟩
      · cases next
  | request g sent =>
      simp only [step] at next
      split at next
      · cases next
        cases sent with
        | true => exact inv.setGetter fun conn => ⟨nofun, nofun⟩
        | false => exact inv.setGetter fun conn => ⟨nofun, nofun⟩
      · cases next
  | getWaiting g =>
      simp only [step] at next
      split at next
      · refine receive_inv inv (fun u blocked => ?_) next
        cases blocked
      · cases next
  | timeout g =>
      simp only [step] at next
      split at next
      · cases next
        exact inv.setGetter fun conn => ⟨nofun, nofun⟩
      · cases next
  | replace g =>
      simp only [step] at next
      split at next
      · rename_i conn holds
        cases next
        refine ⟨inv.placed, inv.nodup, inv.stoper, inv.ended, ?_⟩
        intro g' conn' hold
        simp only [Control.setGetter] at hold
        by_cases same : g' = g
        · subst same
          simp only [Function.update_self] at hold
          rcases hold with hold | hold
          · cases hold
          · cases hold
            exact inv.held g' conn (.inl holds)
        · simp only [Function.update_of_ne same] at hold
          exact inv.held g' conn' hold
      · cases next

/-- A connection that is handed over after the channel was closed is nowhere. -/
theorem not_conserved_of_unguarded (inv : Inv ctl) (unguarded : ¬ Guard ctl l)
    (next : step ctl l = some t) : ¬ Conserved t := by
  intro conserved
  cases l with
  | register conn verified =>
      obtain ⟨rfl, shut⟩ := Classical.not_imp.1 unguarded
      have panics : ctl.workConnCh.send conn = .panics :=
        Chan.send_eq_panics_iff.2 (eq_true_of_ne_false shut)
      simp only [step, Option.ite_none_left_eq_some, if_true, registerWorkConn, panics] at next
      obtain ⟨new, ⟨⟩⟩ := next
      have one := conserved.once conn (List.mem_append_right _ (List.mem_singleton_self conn))
      have none_ : ctl.places.count conn = 0 := by
        rw [inv.placed, List.count_eq_zero]
        exact new
      change ctl.places.count conn = 1 at one
      omega
  | _ => exact unguarded trivial

/-- The loop of `stoper` comes to its end, and closes what was in the pool. -/
theorem drain_finishes (inv : Inv ctl) (draining : ctl.stoper = .draining) :
    CanReach step (fun t => t.stoper = .finished ∧ Conserved t) ctl := by
  have shut : ctl.workConnCh.closed = true := by
    apply eq_true_of_ne_false
    intro opened
    rw [inv.stoper.2 opened] at draining
    cases draining
  induction pool : ctl.workConnCh.buf generalizing ctl with
  | nil =>
      have received : ctl.workConnCh.recv = .done (none, ctl.workConnCh) :=
        Chan.recv_eq_none_iff.2 ⟨pool, shut, rfl⟩
      have next : step ctl .stopDrain = some { ctl with stoper := .finished } := by
        simp only [step, draining, received, if_true]
      exact .of_step next (.here ⟨rfl, (drain_inv inv next).conserved⟩)
  | cons conn rest ih =>
      have received : ctl.workConnCh.recv =
          .done (some conn, { ctl.workConnCh with buf := rest }) :=
        Chan.recv_eq_some_iff.2 ⟨rest, pool, rfl⟩
      have next : step ctl .stopDrain = some
          { ctl with
            workConnCh := { ctl.workConnCh with buf := rest }
            closedByStoper := ctl.closedByStoper ++ [conn] } := by
        simp only [step, draining, received, if_true]
      exact .of_step next (ih (drain_inv inv next) draining shut rfl)

end Step

/-- **Work connections are conserved iff `RegisterWorkConn` finds the channel open.** -/
theorem conserved_iff (poolCount maxPoolCount : Int) (ls : List Label) :
    Along step (fun _ _ t => Conserved t) (newControl poolCount maxPoolCount) ls ↔
      Along step (fun ctl l _ => Guard ctl l) (newControl poolCount maxPoolCount) ls := by
  have kept : ∀ ctl l t, Inv ctl → Guard ctl l → step ctl l = some t → Inv t :=
    fun _ _ _ inv guard next => step_inv inv guard next
  have agree : ∀ ctl l t, Inv ctl → step ctl l = some t → (Guard ctl l ↔ Conserved t) := by
    intro ctl l t inv next
    constructor
    · intro guard
      exact (step_inv inv guard next).conserved
    · intro conserved
      by_contra unguarded
      exact not_conserved_of_unguarded inv unguarded next conserved
  exact (along_iff_along Inv kept agree (newControl_inv poolCount maxPoolCount) ls).symm

/-- `stoper` is through when a work connection of the client arrives. -/
def registerAfterStop : List Label := [.stopClose, .stopDrain, .register 7 true]

theorem register_after_stop_loses_conn :
    ¬ Along step (fun _ _ t => Conserved t) (newControl 1 5) registerAfterStop := by
  have ran : (exec step (newControl 1 5) registerAfterStop).map
      (fun ctl => (ctl.handed, ctl.places)) = some ([7], []) := by decide
  obtain ⟨ctl, run, found⟩ := Option.map_eq_some_iff.1 ran
  simp only [Prod.mk.injEq] at found
  obtain ⟨handed, places⟩ := found
  intro conserved
  have last : Conserved ctl := conserved.last run
  have one := last.once 7 (by simp [handed])
  rw [places] at one
  cases one

end ChmlFrp.Server.WorkConn
