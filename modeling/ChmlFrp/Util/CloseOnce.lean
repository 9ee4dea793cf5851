/-
# ChmlFrp.Util.CloseOnce — wrappers that close their connection once

`CloseNotifyConn` and `StatsConn` of `pkg/util/net/conn.go` embed a connection.  The first
call of their `Close` wins an atomic swap, closes the connection and runs a callback; all
others return at once.

A call is a stack of frames, because the connection's own `Close` and the callback may call
`Close` again, and because the `Close` inside `CloseNotifyConn.Close` is that method itself.
Each step is one atomic action of one call.

* `Owner`: the frames of the winner, with what has happened so far, and `winner_next`, its
  next step;
* `Inv.after`: nobody but the winner is past the swap, in every interleaving;
* `canReach_returned`: all calls can return;
* `close_once_iff`: the connection is closed once and then the callback run, by a `StatsConn`
  and never by a `CloseNotifyConn`.
-/
import ChmlFrp.Lib.Transition
import ChmlFrp.Lib.GoMap

namespace ChmlFrp.Util.CloseOnce

set_option autoImplicit false

open ChmlFrp.Lib
open ChmlFrp.Lib.Transition

variable {ε : Type}

/-! ## The two wrappers -/

/-- Where the two `Close` methods differ. -/
structure Wrapper where
  /-- The test that the old value of the flag must pass. -/
  wins : Int → Bool
  /-- The call inside goes to the wrapper, not to the connection. -/
  itself : Bool
  /-- What the callback is given of the bytes read and written. -/
  args : Int → Int → Option (Int × Int)

/-- `err = cc.Close()`, where the embedded connection is `cc.Conn` -/
def CloseNotifyConn : Wrapper where
  wins := fun pflag => pflag == 0
  itself := true
  args := fun _ _ => none

/-- `err = statsConn.Conn.Close()` -/
def StatsConn : Wrapper where
  wins := fun old => old != 1
  itself := false
  args := fun totalRead totalWrite => some (totalRead, totalWrite)

/-- Where a call of the wrapper's `Close` is. -/
inductive Frame (ε : Type) where
  /-- Before the swap. -/
  | entered
  /-- It has won the swap. -/
  | won
  /-- In the wrapper's own `Close`, called from inside. -/
  | waiting
  /-- In the `Close` of the connection. -/
  | closing
  /-- The call inside has returned. -/
  | closed (err : Option ε)
  /-- In the callback. -/
  | calling (err : Option ε)

inductive Event where
  | close
  | closed
  | callback (args : Option (Int × Int))
  deriving DecidableEq

structure State (ε : Type) where
  flag : Int
  totalRead : Int
  totalWrite : Int
  /-- The calls that have not returned, the innermost frame first. -/
  calls : GoMap Nat (List (Frame ε))
  next : Nat
  events : List Event
  /-- What the calls that have returned gave back. -/
  returned : List (Option ε)

def start : State ε := ⟨0, 0, 0, ∅, 0, [], []⟩

inductive Label (ε : Type) where
  | call
  /-- `Close` is called from inside the connection's `Close` or the callback. -/
  | again (i : Nat)
  /-- A call takes its next step; `err` is what the connection's `Close` gives back. -/
  | run (i : Nat) (err : Option ε)
  | read (n : Int)
  | write (n : Int)

variable (w : Wrapper) (hasFn : Bool)

/-- The innermost frame returns to the frames below. -/
def State.ret (s : State ε) (i : Nat) (err : Option ε) : List (Frame ε) → State ε
  | [] => { s with calls := s.calls.delete i, returned := s.returned ++ [err] }
  | .waiting :: below => { s with calls := s.calls.set i (.closed err :: below) }
  | .entered :: below => { s with calls := s.calls.set i (.entered :: below) }
  | .won :: below => { s with calls := s.calls.set i (.won :: below) }
  | .closing :: below => { s with calls := s.calls.set i (.closing :: below) }
  | .closed e :: below => { s with calls := s.calls.set i (.closed e :: below) }
  | .calling e :: below => { s with calls := s.calls.set i (.calling e :: below) }

/-- `Close` -/
def Close (s : State ε) (i : Nat) (err : Option ε) (below : List (Frame ε)) :
    Frame ε → Option (State ε)
  | .entered =>
      if w.wins s.flag then
        some { s with flag := 1, calls := s.calls.set i (.won :: below) }
      else some ({ s with flag := 1 }.ret i none below)
  | .won =>
      if w.itself then some { s with calls := s.calls.set i (.entered :: .waiting :: below) }
      else
        some { s with calls := s.calls.set i (.closing :: below), events := s.events ++ [.close] }
  | .waiting => none
  | .closing =>
      some { s with
        calls := s.calls.set i (.closed err :: below), events := s.events ++ [.closed] }
  | .closed e =>
      if hasFn then
        some { s with
          calls := s.calls.set i (.calling e :: below)
          events := s.events ++ [.callback (w.args s.totalRead s.totalWrite)] }
      else some (s.ret i e below)
  | .calling e => some (s.ret i e below)

/-- May the code that a call is in call `Close`? -/
def Frame.foreign : Frame ε → Bool
  | .closing | .calling _ => true
  | _ => false

def step (s : State ε) : Label ε → Option (State ε)
  | .call => some { s with calls := s.calls.set s.next [.entered], next := s.next + 1 }
  | .again i =>
      match s.calls.get i with
      | some (frame :: below) =>
          if frame.foreign then
            some { s with calls := s.calls.set i (.entered :: frame :: below) }
          else none
      | _ => none
  | .run i err =>
      match s.calls.get i with
      | some (frame :: below) => Close w hasFn s i err below frame
      | _ => none
  | .read n => some { s with totalRead := s.totalRead + n }
  | .write n => some { s with totalWrite := s.totalWrite + n }

/-! ## One winner -/

/-- The events of a close that is through. -/
def Wrapper.closes (w : Wrapper) : List Event := if w.itself then [] else [.close, .closed]

/-- The frames of the call that won the swap, and the events so far. -/
inductive Owner : List (Frame ε) → List Event → Prop
  | won : Owner [.won] []
  | waiting (own : w.itself = true) : Owner [.entered, .waiting] []
  | closing (inner : w.itself = false) : Owner [.closing] [.close]
  | closingAgain (inner : w.itself = false) : Owner [.entered, .closing] [.close]
  | closed (err : Option ε) : Owner [.closed err] w.closes
  | calling (err : Option ε) (args : Option (Int × Int)) (some_ : hasFn = true) :
      Owner [.calling err] (w.closes ++ [.callback args])
  | callingAgain (err : Option ε) (args : Option (Int × Int)) (some_ : hasFn = true) :
      Owner [.entered, .calling err] (w.closes ++ [.callback args])

/-- What all calls together leave. -/
inductive Finished : List Event → Prop
  | called (args : Option (Int × Int)) (some_ : hasFn = true) :
      Finished (w.closes ++ [.callback args])
  | quiet (none_ : hasFn = false) : Finished w.closes

/-- A call that is still before the swap. -/
def OnlyEntered (calls : GoMap Nat (List (Frame ε))) (i : Nat) : Prop :=
  ∀ stack, calls.get i = some stack → stack = [.entered]

inductive Stage (s : State ε) : Prop
  | untouched (flag : s.flag = 0) (quiet : s.events = [])
      (all : ∀ i, i < s.next → s.calls.get i = some [.entered])
  | held (i : Nat) (stack : List (Frame ε)) (flag : s.flag = 1)
      (here : s.calls.get i = some stack) (owner : Owner w hasFn stack s.events)
      (others : ∀ j, j ≠ i → OnlyEntered s.calls j)
  | done (flag : s.flag = 1) (finished : Finished w hasFn s.events)
      (others : ∀ j, OnlyEntered s.calls j)

structure Inv (s : State ε) : Prop where
  fresh : ∀ i, s.next ≤ i → s.calls.get i = none
  stage : Stage w hasFn s

/-- Of the two values that the flag takes, the test lets through the one of an open wrapper. -/
structure Wrapper.Fair (w : Wrapper) : Prop where
  first : w.wins 0 = true
  later : w.wins 1 = false

theorem CloseNotifyConn.fair : CloseNotifyConn.Fair := ⟨rfl, rfl⟩

theorem StatsConn.fair : StatsConn.Fair := ⟨rfl, rfl⟩

theorem start_inv : Inv w hasFn (start : State ε) where
  fresh := fun i _ => GoMap.get_empty i
  stage := .untouched rfl rfl fun _ less => absurd less (Nat.not_lt_zero _)

variable {w hasFn} {s t : State ε} {i : Nat}

theorem OnlyEntered.set {calls : GoMap Nat (List (Frame ε))} {j : Nat}
    (only : OnlyEntered calls j) (other : j ≠ i) (stack : List (Frame ε)) :
    OnlyEntered (calls.set i stack) j := by
  intro stack' found
  rw [GoMap.get_set, if_neg other] at found
  exact only stack' found

theorem OnlyEntered.delete {calls : GoMap Nat (List (Frame ε))} {j : Nat}
    (only : OnlyEntered calls j) (i : Nat) : OnlyEntered (calls.delete i) j := by
  intro stack found
  exact only stack (GoMap.get_delete_eq_some.1 found).2

theorem onlyEntered_delete (calls : GoMap Nat (List (Frame ε))) (i : Nat) :
    OnlyEntered (calls.delete i) i := by
  intro stack found
  exact absurd rfl (GoMap.get_delete_eq_some.1 found).1

theorem Inv.lt_next (inv : Inv w hasFn s) {stack : List (Frame ε)}
    (here : s.calls.get i = some stack) : i < s.next := by
  by_contra past
  have none_ := inv.fresh i (by omega)
  rw [here] at none_
  cases none_

/-- The winner goes on. -/
theorem Inv.moves (inv : Inv w hasFn s) {stack stack' : List (Frame ε)} {events : List Event}
    (here : s.calls.get i = some stack) (others : ∀ j, j ≠ i → OnlyEntered s.calls j)
    (owner : Owner w hasFn stack' events) :
    Inv w hasFn { s with flag := 1, calls := s.calls.set i stack', events := events } where
  fresh := fun j le => GoMap.get_set_eq_none here (inv.fresh j le)
  stage := by
    refine .held i stack' rfl ?_ owner fun j other => (others j other).set other stack'
    exact (GoMap.get_set s.calls i i stack').trans (if_pos rfl)

/-- The winner returns. -/
theorem Inv.ends (inv : Inv w hasFn s) (flag : s.flag = 1)
    (others : ∀ j, j ≠ i → OnlyEntered s.calls j) (finished : Finished w hasFn s.events)
    (err : Option ε) : Inv w hasFn (s.ret i err []) where
  fresh := fun j le => GoMap.get_delete_eq_none (inv.fresh j le)
  stage := by
    refine .done flag finished fun j => ?_
    by_cases same : j = i
    · rw [same]
      exact onlyEntered_delete s.calls i
    · exact (others j same).delete i

/-- A call that comes after the swap returns. -/
theorem Inv.loses (inv : Inv w hasFn s) (flag : s.flag = 1) (here : s.calls.get i = some [.entered])
    (err : Option ε) : Inv w hasFn ({ s with flag := 1 }.ret i err []) where
  fresh := fun j le => GoMap.get_delete_eq_none (inv.fresh j le)
  stage := by
    cases inv.stage with
    | untouched open_ => omega
    | done _ finished others => exact .done rfl finished fun j => (others j).delete i
    | held o stack _ there owner others =>
        have other : o ≠ i := by
          rintro rfl
          cases there.symm.trans here
          cases owner
        refine .held o stack rfl ?_ owner fun j different => (others j different).delete i
        exact (GoMap.get_delete s.calls i o).trans ((if_neg other).trans there)

/-- What a call that is past its first step is: the winner. -/
theorem Inv.winner (inv : Inv w hasFn s) {stack : List (Frame ε)}
    (here : s.calls.get i = some stack) (past : stack ≠ [.entered]) :
    s.flag = 1 ∧ Owner w hasFn stack s.events ∧ ∀ j, j ≠ i → OnlyEntered s.calls j := by
  cases inv.stage with
  | untouched _ _ all =>
      have first := all i (inv.lt_next here)
      exact absurd (Option.some.inj (here.symm.trans first)) past
  | done _ _ others => exact absurd (others i stack here) past
  | held o stack' flag there owner others =>
      by_cases same : i = o
      · subst same
        cases there.symm.trans here
        exact ⟨flag, owner, others⟩
      · exact absurd (others i same stack here) past

/-- Nothing has been done before the first swap. -/
theorem Inv.first (inv : Inv w hasFn s) :
    s.flag = 1 ∨ s.flag = 0 ∧ s.events = [] ∧ ∀ j, OnlyEntered s.calls j := by
  cases inv.stage with
  | held _ _ flag _ _ _ => exact .inl flag
  | done flag _ _ => exact .inl flag
  | untouched flag quiet all =>
      refine .inr ⟨flag, quiet, fun j stack found => ?_⟩
      exact Option.some.inj (found.symm.trans (all j (inv.lt_next found)))

/-! ## What is left of a call -/

def Frame.left : Frame ε → Int
  | .entered => 1
  | .won => 6
  | .waiting => 4
  | .closing => 4
  | .closed _ => 3
  | .calling _ => 2

def weigh (stack : List (Frame ε)) : Int := (stack.map Frame.left).sum

/-- The steps before the first swap count for more than any call has left. -/
def State.left (s : State ε) : Nat :=
  (s.calls.total weigh).toNat + if s.flag = 1 then 0 else 10

theorem Frame.left_pos (frame : Frame ε) : 0 < frame.left := by cases frame <;> simp [left]

theorem weigh_nonneg (stack : List (Frame ε)) : 0 ≤ weigh stack := by
  induction stack with
  | nil => exact Int.le_refl 0
  | cons frame below ih =>
      have pos := frame.left_pos
      simp only [weigh, List.map_cons, List.sum_cons] at ih ⊢
      omega

theorem left_of_set {stack stack' : List (Frame ε)} (here : s.calls.get i = some stack)
    (calls : t.calls = s.calls.set i stack') (flag : t.flag = 1)
    (less : weigh stack' < weigh stack + if s.flag = 1 then 0 else 10) : t.left < s.left := by
  unfold State.left
  rw [calls, if_pos flag]
  by_cases swapped : s.flag = 1
  · rw [if_pos swapped] at less ⊢
    have lighter := GoMap.total_set_lt weigh_nonneg here (w := stack') (by omega)
    omega
  · rw [if_neg swapped] at less ⊢
    have le := GoMap.le_total weigh_nonneg here
    have old := weigh_nonneg stack
    rw [GoMap.total_set, here, GoMap.part_some]
    omega

theorem left_of_delete {stack : List (Frame ε)} (here : s.calls.get i = some stack)
    (calls : t.calls = s.calls.delete i) (flag : t.flag = 1) (some_ : 0 < weigh stack) :
    t.left < s.left := by
  have lighter := GoMap.total_delete_lt weigh_nonneg here some_
  unfold State.left
  rw [calls, if_pos flag]
  omega

/-! ## The steps -/

theorem step_run {err : Option ε} (next : step w hasFn s (.run i err) = some t) :
    ∃ frame below, s.calls.get i = some (frame :: below) ∧
      Close w hasFn s i err below frame = some t := by
  simp only [step] at next
  split at next
  · rename_i frame below here
    exact ⟨frame, below, here, next⟩
  · cases next

theorem step_again (next : step w hasFn s (.again i) = some t) :
    ∃ frame below, s.calls.get i = some (frame :: below) ∧ frame.foreign = true ∧
      t = { s with calls := s.calls.set i (.entered :: frame :: below) } := by
  simp only [step] at next
  split at next
  · rename_i frame below here
    split at next
    · rename_i foreign
      cases next
      exact ⟨frame, below, here, foreign, rfl⟩
    · cases next
  · cases next

theorem Inv.after_call (inv : Inv w hasFn s) :
    Inv w hasFn { s with calls := s.calls.set s.next [.entered], next := s.next + 1 } where
  fresh := by
    intro i le
    dsimp only at le ⊢
    rw [GoMap.get_set, if_neg (by omega)]
    exact inv.fresh i (by omega)
  stage := by
    have joins : ∀ j, OnlyEntered s.calls j → OnlyEntered (s.calls.set s.next [.entered]) j := by
      intro j only stack found
      rcases GoMap.get_set_eq_some.1 found with ⟨-, rfl⟩ | ⟨-, found⟩
      · rfl
      · exact only stack found
    cases inv.stage with
    | untouched flag quiet all =>
        refine .untouched flag quiet fun i less => ?_
        dsimp only at less ⊢
        rw [GoMap.get_set]
        split
        · rfl
        · exact all i (by omega)
    | held i stack flag here owner others =>
        refine .held i stack flag ?_ owner fun j other => joins j (others j other)
        exact GoMap.get_set_of_fresh (inv.fresh s.next (Nat.le_refl _)) here
    | done flag finished others =>
        exact .done flag finished fun j => joins j (others j)

theorem Inv.after_again (inv : Inv w hasFn s) (next : step w hasFn s (.again i) = some t) :
    Inv w hasFn t := by
  obtain ⟨frame, below, here, foreign, rfl⟩ := step_again next
  have past : frame :: below ≠ [.entered] := by
    intro same
    cases same
    cases foreign
  obtain ⟨flag, owner, others⟩ := inv.winner here past
  have again : Owner w hasFn (.entered :: frame :: below) s.events := by
    generalize s.events = events at owner ⊢
    cases owner with
    | closing inner => exact .closingAgain inner
    | calling err args some_ => exact .callingAgain err args some_
    | _ => cases foreign
  have moved := inv.moves here others again
  rw [← flag] at moved
  exact moved

/-- The first step of a call. -/
theorem Inv.first_next (fair : w.Fair) (inv : Inv w hasFn s) (i : Nat) (err : Option ε) :
    s.flag = 1 ∧
        Close w hasFn s i err [] .entered = some ({ s with flag := 1 }.ret i none []) ∨
      s.flag = 0 ∧ s.events = [] ∧ (∀ j, OnlyEntered s.calls j) ∧
        Close w hasFn s i err [] .entered =
          some { s with flag := 1, calls := s.calls.set i [.won] } := by
  rcases inv.first with flag | ⟨flag, quiet, others⟩
  · refine .inl ⟨flag, ?_⟩
    simp [Close, flag, fair.later]
  · refine .inr ⟨flag, quiet, others, ?_⟩
    simp [Close, flag, fair.first]

/-- What the winner has after its next step. -/
def Steps (w : Wrapper) (hasFn : Bool) (s : State ε) (i : Nat) (stack : List (Frame ε))
    (t : State ε) : Prop :=
  ∃ stack' events, t = { s with flag := 1, calls := s.calls.set i stack', events := events } ∧
    Owner w hasFn stack' events ∧ weigh stack' < weigh stack

/-- The next step of the winner: it goes on or returns. -/
theorem winner_next (fair : w.Fair) (flag : s.flag = 1) {frame : Frame ε} {below : List (Frame ε)}
    (owner : Owner w hasFn (frame :: below) s.events) (i : Nat) (err : Option ε) :
    (∃ t, Close w hasFn s i err below frame = some t ∧ Steps w hasFn s i (frame :: below) t) ∨
      below = [] ∧ Finished w hasFn s.events ∧
        ∃ e, Close w hasFn s i err below frame = some (s.ret i e []) := by
  obtain ⟨value, totalRead, totalWrite, calls, next, events, returned⟩ := s
  obtain rfl : value = 1 := flag
  have goes : ∀ {stack' events'}, Owner w hasFn stack' events' →
      weigh stack' < weigh (frame :: below) →
      Steps w hasFn ⟨1, totalRead, totalWrite, calls, next, events, returned⟩ i (frame :: below)
        ⟨1, totalRead, totalWrite, calls.set i stack', next, events', returned⟩ :=
    fun owner less => ⟨_, _, rfl, owner, less⟩
  replace owner : Owner w hasFn (frame :: below) events := owner
  cases owner with
  | won =>
      cases own : w.itself with
      | true =>
          refine .inl ⟨_, ?_, goes (.waiting own) (by simp [weigh, Frame.left])⟩
          simp [Close, own]
      | false =>
          refine .inl ⟨_, ?_, goes (.closing own) (by simp [weigh, Frame.left])⟩
          simp [Close, own]
  | waiting own =>
      -- the call inside has lost the swap, and nothing is closed
      have none_ : w.closes = [] := if_pos own
      have ended : Owner w hasFn [.closed (none : Option ε)] [] := none_ ▸ .closed none
      refine .inl ⟨_, ?_, goes ended (by simp [weigh, Frame.left])⟩
      simp [Close, fair.later, State.ret]
  | closing inner =>
      have both : w.closes = [.close, .closed] := by simp [Wrapper.closes, inner]
      have ended : Owner w hasFn [.closed err] [.close, .closed] := both ▸ .closed err
      exact .inl ⟨_, rfl, goes ended (by simp [weigh, Frame.left])⟩
  | closingAgain inner =>
      refine .inl ⟨_, ?_, goes (.closing inner) (by simp [weigh, Frame.left])⟩
      simp [Close, fair.later, State.ret]
  | closed e =>
      by_cases some_ : hasFn = true
      · refine .inl ⟨_, ?_, goes (.calling e (w.args totalRead totalWrite) some_)
          (by simp [weigh, Frame.left])⟩
        simp [Close, some_]
      · refine .inr ⟨rfl, .quiet (by simpa using some_), e, ?_⟩
        simp [Close, some_]
  | calling e args some_ => exact .inr ⟨rfl, .called args some_, e, rfl⟩
  | callingAgain e args some_ =>
      refine .inl ⟨_, ?_, goes (.calling e args some_) (by simp [weigh, Frame.left])⟩
      simp [Close, fair.later, State.ret]

theorem Inv.after_first (fair : w.Fair) (inv : Inv w hasFn s) {err : Option ε}
    (here : s.calls.get i = some [.entered]) (next : Close w hasFn s i err [] .entered = some t) :
    Inv w hasFn t := by
  rcases inv.first_next fair i err with ⟨flag, loses⟩ | ⟨-, quiet, others, wins⟩
  · cases loses.symm.trans next
    exact inv.loses flag here none
  · cases wins.symm.trans next
    have winner : Owner w hasFn [(.won : Frame ε)] [] := .won
    have moved := inv.moves here (fun j _ => others j) winner
    rw [← quiet] at moved
    exact moved

theorem Inv.after_past (fair : w.Fair) (inv : Inv w hasFn s) {err : Option ε} {frame : Frame ε}
    {below : List (Frame ε)} (here : s.calls.get i = some (frame :: below))
    (past : frame :: below ≠ [.entered]) (next : Close w hasFn s i err below frame = some t) :
    Inv w hasFn t := by
  obtain ⟨flag, owner, others⟩ := inv.winner here past
  rcases winner_next fair flag owner i err with
    ⟨t', goes, stack', events, rfl, owner', -⟩ | ⟨rfl, finished, e, ends⟩
  · cases goes.symm.trans next
    exact inv.moves here others owner'
  · cases ends.symm.trans next
    exact inv.ends flag others finished e

/-- What is read and written touches nothing else. -/
theorem Inv.counts (inv : Inv w hasFn s) (totalRead totalWrite : Int) :
    Inv w hasFn { s with totalRead := totalRead, totalWrite := totalWrite } where
  fresh := inv.fresh
  stage := by
    cases inv.stage with
    | untouched flag quiet all => exact .untouched flag quiet all
    | held i stack flag here owner others => exact .held i stack flag here owner others
    | done flag finished others => exact .done flag finished others

theorem Inv.after (fair : w.Fair) (inv : Inv w hasFn s) {l : Label ε}
    (next : step w hasFn s l = some t) : Inv w hasFn t := by
  cases l with
  | call =>
      cases next
      exact inv.after_call
  | again i => exact inv.after_again next
  | run i err =>
      obtain ⟨frame, below, here, next⟩ := step_run next
      by_cases first : frame :: below = [.entered]
      · cases first
        exact inv.after_first fair here next
      · exact inv.after_past fair here first next
  | read n =>
      cases next
      exact inv.counts _ _
  | write n =>
      cases next
      exact inv.counts _ _

/-! ## All calls return -/

theorem Inv.stack_eq (inv : Inv w hasFn s) {stack : List (Frame ε)}
    (here : s.calls.get i = some stack) : ∃ frame below, stack = frame :: below := by
  cases stack with
  | cons frame below => exact ⟨frame, below, rfl⟩
  | nil =>
      obtain ⟨-, owner, -⟩ := inv.winner here (by simp)
      generalize s.events = events at owner
      cases owner

/-- Every call has a step to take, and the steps come to an end. -/
theorem Inv.goes_on (fair : w.Fair) (inv : Inv w hasFn s) {frame : Frame ε}
    {below : List (Frame ε)} (here : s.calls.get i = some (frame :: below)) :
    ∃ t, step w hasFn s (.run i none) = some t ∧ t.left < s.left := by
  have runs : step w hasFn s (.run i none) = Close w hasFn s i none below frame := by
    simp only [step, here]
  rw [runs]
  by_cases first : frame :: below = [.entered]
  · cases first
    have one : 0 < weigh [(.entered : Frame ε)] := by simp [weigh, Frame.left]
    rcases inv.first_next fair i none with ⟨-, loses⟩ | ⟨flag, -, -, wins⟩
    · exact ⟨_, loses, left_of_delete here rfl rfl one⟩
    · exact ⟨_, wins, left_of_set here rfl rfl (by simp [weigh, Frame.left, flag])⟩
  · obtain ⟨flag, owner, -⟩ := inv.winner here first
    rcases winner_next fair flag owner i none with
      ⟨t, goes, stack', events, rfl, -, less⟩ | ⟨rfl, -, e, ends⟩
    · refine ⟨_, goes, left_of_set here rfl rfl ?_⟩
      rw [if_pos flag]
      omega
    · refine ⟨_, ends, left_of_delete here rfl flag ?_⟩
      have pos := frame.left_pos
      simpa [weigh] using pos

/-- **From every state that a run reaches, all calls can return.** -/
theorem canReach_returned (fair : w.Fair) (reached : Reachable (step w hasFn) start s) :
    CanReach (step w hasFn) (fun t => ∀ i, t.calls.get i = none) s := by
  have inv : Inv w hasFn s :=
    reached.invariant (fun _ _ _ inv next => inv.after fair next) (start_inv w hasFn)
  refine canReach_of_measure (Inv w hasFn) State.left ?_ inv
  intro u inv some_
  rcases u.calls.forall_get_none_or with none_ | ⟨i, stack, here⟩
  · exact absurd none_ some_
  · obtain ⟨frame, below, rfl⟩ := inv.stack_eq here
    obtain ⟨t, next, less⟩ := inv.goes_on fair here
    exact ⟨.run i none, t, next, inv.after fair next, less⟩

/-! ## All runs -/

/-- The connection has been closed once, and after that the callback has run once. -/
def Once (hasFn : Bool) (events : List Event) : Prop :=
  if hasFn then ∃ args, events = [.close, .closed, .callback args] else events = [.close, .closed]

theorem Finished.once_iff {events : List Event} (finished : Finished w hasFn events) :
    Once hasFn events ↔ w.itself = false := by
  cases finished with
  | called args some_ => cases own : w.itself <;> simp [Once, Wrapper.closes, some_, own]
  | quiet none_ => cases own : w.itself <;> simp [Once, Wrapper.closes, none_, own]

theorem Inv.finished (inv : Inv w hasFn s) (called : 0 < s.next)
    (returned : ∀ i, s.calls.get i = none) : s.flag = 1 ∧ Finished w hasFn s.events := by
  cases inv.stage with
  | untouched _ _ all => cases (returned 0).symm.trans (all 0 called)
  | held i _ _ here _ _ => cases (returned i).symm.trans here
  | done flag finished _ => exact ⟨flag, finished⟩

/-- **Any number of calls in any interleaving: when all have returned, the connection is closed
once and then the callback has run once, if the wrapper is a `StatsConn`; and never if it is a
`CloseNotifyConn`.** -/
theorem close_once_iff (one : w = CloseNotifyConn ∨ w = StatsConn)
    (reached : Reachable (step w hasFn) start s) (called : 0 < s.next)
    (returned : ∀ i, s.calls.get i = none) : Once hasFn s.events ↔ w = StatsConn := by
  have fair : w.Fair := by
    rcases one with rfl | rfl
    · exact CloseNotifyConn.fair
    · exact StatsConn.fair
  have inv : Inv w hasFn s :=
    reached.invariant (fun _ _ _ inv next => inv.after fair next) (start_inv w hasFn)
  rw [(inv.finished called returned).2.once_iff]
  rcases one with rfl | rfl
  · constructor
    · intro other
      cases other
    · intro same
      cases congrArg Wrapper.itself same
  · exact ⟨fun _ => rfl, fun _ => rfl⟩

/-- The second of two calls wins, and the callback calls `Close` again. -/
theorem stats_conn_closed_once :
    ∃ s : State Unit, exec (step StatsConn true) start
        [.call, .call, .read 5, .run 1 none, .run 0 none, .run 1 none, .run 1 (some ()),
          .run 1 none, .again 1, .run 1 none, .run 1 none] = some s ∧ Once true s.events := by
  obtain ⟨s, run, called, calls⟩ : ∃ s : State Unit, exec (step StatsConn true) start
      [.call, .call, .read 5, .run 1 none, .run 0 none, .run 1 none, .run 1 (some ()),
        .run 1 none, .again 1, .run 1 none, .run 1 none] = some s ∧
      s.next = 2 ∧ s.calls.keys = ∅ := ⟨_, rfl, rfl, rfl⟩
  have returned := GoMap.get_eq_none_of_keys calls
  exact ⟨s, run, (close_once_iff (.inr rfl) ⟨_, run⟩ (by omega) returned).2 rfl⟩

/-- One call on the connection of a websocket: the callback has run, and the connection under
the wrapper was never closed. -/
theorem notified_and_left_open :
    ¬ ∀ (w : Wrapper) (hasFn : Bool) (s : State Unit), w = CloseNotifyConn ∨ w = StatsConn →
      Reachable (step w hasFn) start s → 0 < s.next → (∀ i, s.calls.get i = none) →
        Once hasFn s.events := by
  intro all
  obtain ⟨s, run, events, next, calls⟩ : ∃ s : State Unit, exec (step CloseNotifyConn true) start
      [.call, .run 0 none, .run 0 none, .run 0 none, .run 0 none, .run 0 none] = some s ∧
        s.events = [.callback none] ∧ s.next = 1 ∧ s.calls.keys = ∅ := ⟨_, rfl, rfl, rfl, rfl⟩
  have once := all CloseNotifyConn true s (.inl rfl) ⟨_, run⟩ (by omega)
    (GoMap.get_eq_none_of_keys calls)
  simp [Once, events] at once

end ChmlFrp.Util.CloseOnce
