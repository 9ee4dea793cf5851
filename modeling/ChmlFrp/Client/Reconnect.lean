/-
# ChmlFrp.Client.Reconnect — when the client logs in again, and when it gives up

`keepControllerWorking` of `client/service.go` with a clock, over the steps of
`ChmlFrp.Client.Service`: the sleep lasts at least as long as the code asks for, and every
login has a beginning and an end.  `GracefulClose` calls and lost connections come at any
time.

* `reconnects_paced`: a login begins 5, 10 or 20 seconds after the end of the one before it,
  as 0, 1 or 2 have failed since the last success; the client exits only after three failures
  in a row, and then does so by itself.
-/
import ChmlFrp.Client.Service

namespace ChmlFrp.Client.Reconnect

set_option autoImplicit false

open ChmlFrp.Lib
open ChmlFrp.Lib.Transition
open Service (Main Stage maxReconnects)

/-! ## The clock -/

/-- `time.Second`; times are in nanoseconds. -/
def second : Nat := 1000000000

/-- A call of `login`. -/
structure Login where
  start : Nat
  stop : Nat
  ok : Bool
  deriving DecidableEq, Repr

def reconnectDelays : List Nat := [5 * second, 10 * second, 20 * second]

/-- `reconnectDelays[n]` -/
def delay (n : Nat) : Nat := (reconnectDelays[n]?).getD 0

structure State where
  svc : Service.State
  now : Nat
  /-- The end of the sleep. -/
  wakeAt : Nat
  /-- The beginning of the login in progress. -/
  started : Nat
  /-- The logins of the loop, the last one first. -/
  logins : List Login

/-- `Run` has logged in at time 0. -/
def start : State := ⟨Service.start, 0, 0, 0, []⟩

inductive Label where
  | advance (d : Nat)
  | svc (l : Service.Label)
  deriving DecidableEq, Repr

def step (s : State) : Label → Option State
  | .advance d => some { s with now := s.now + d }
  | .svc l => (Service.step s.svc l).bind fun t =>
      match l with
      | .check => some { s with svc := t, wakeAt := s.now + delay s.svc.reconnectCounts }
      | .sleep => if s.wakeAt ≤ s.now then some { s with svc := t } else none
      | .recheck => some { s with svc := t, started := s.now }
      | .login ok => some { s with svc := t, logins := ⟨s.started, s.now, ok⟩ :: s.logins }
      | _ => some { s with svc := t }

/-! ## Logins one after the other -/

/-- How many have failed since the last success. -/
def failures (logins : List Login) : Nat := (logins.takeWhile fun login => !login.ok).length

def lastStop : List Login → Nat
  | [] => 0
  | login :: _ => login.stop

/-- The next login may begin. -/
structure Due (past : List Login) (start : Nat) : Prop where
  tries : failures past < maxReconnects
  waited : lastStop past + delay (failures past) ≤ start

def Spaced : List Login → Prop
  | [] => True
  | login :: past => Due past login.start ∧ login.start ≤ login.stop ∧ Spaced past

theorem failures_cons (login : Login) (past : List Login) :
    failures (login :: past) = if login.ok then 0 else failures past + 1 := by
  unfold failures
  cases ok : login.ok <;> simp [ok]

theorem five_le_delay : ∀ n < maxReconnects, 5 * second ≤ delay n := by decide

/-- There is at most one login in five seconds. -/
theorem Spaced.length_le {logins : List Login} (spaced : Spaced logins) :
    5 * second * logins.length ≤ lastStop logins := by
  induction logins with
  | nil => exact Nat.le_refl 0
  | cons login past ih =>
      obtain ⟨due, order, earlier⟩ := spaced
      have before := ih earlier
      have waited := due.waited
      have gap := five_le_delay (failures past) due.tries
      calc 5 * second * (past.length + 1)
          = 5 * second * past.length + 5 * second := Nat.mul_succ _ _
        _ ≤ lastStop past + delay (failures past) := Nat.add_le_add before gap
        _ ≤ login.start := waited
        _ ≤ login.stop := order

/-! ## What the steps do to the loop -/

section Steps

/-- The steps of `keepControllerWorking`. -/
def Loops : Service.Label → Bool
  | .readCtl | .wake | .check | .sleep | .recheck | .login _ | .run | .lock | .closeOld
  | .publish => true
  | _ => false

/-- What the other steps leave of what the loop looks at. -/
structure Beside (s t : Service.State) : Prop where
  main : t.main = s.main
  counts : t.reconnectCounts = s.reconnectCounts
  exited : t.exited = s.exited
  ctl : t.ctl = s.ctl ∨ t.ctl = none
  done : ∀ c, s.controls c = .done → t.controls c = .done
  exit : t.exit = false → s.exit = false
  quiet : t.exit = false → (∀ i, s.calls.get i = none) →
    (∀ i, t.calls.get i = none) ∧ t.ctl = s.ctl ∧ t.panicked = s.panicked

variable {s t : Service.State} {l : Service.Label}

theorem done_setStage {c d : Nat} {stage : Stage} (stays : s.controls c = .done → stage = .done)
    (done : s.controls d = .done) : (s.setStage c stage).controls d = .done := by
  by_cases same : d = c
  · subst same
    simpa [Service.State.setStage] using stays done
  · simpa [Service.State.setStage, same] using done

theorem beside_of_step (other : Loops l = false) (next : Service.step s l = some t) :
    Beside s t := by
  unfold Service.step at next
  split at next
  · cases next
  have setCall : ∀ {i before call}, s.calls.get i = some before → Beside s (s.setCall i call) := by
    intro i before call there
    refine ⟨rfl, rfl, rfl, .inl rfl, fun _ => id, id, ?_⟩
    intro _ none_
    rw [none_ i] at there
    cases there
  cases l with
  | close =>
      cases next
      refine ⟨rfl, rfl, rfl, .inl rfl, fun _ => id, ?_, ?_⟩ <;> rintro ⟨⟩
  | rlock i =>
      simp only [Service.run] at next
      split at next
      · rename_i there
        split at next
        · cases next
        · cases next
          exact setCall there
      · cases next
  | test i =>
      simp only [Service.run] at next
      split at next
      · rename_i there
        cases next
        exact setCall there
      · cases next
  | readClose i =>
      simp only [Service.run] at next
      split at next
      · rename_i there
        split at next
        · cases next
          exact setCall there
        · cases next
          refine ⟨rfl, rfl, rfl, .inl rfl, fun _ => id, id, ?_⟩
          intro _ none_
          rw [none_ i] at there
          cases there
      · cases next
  | closeConn i =>
      simp only [Service.run] at next
      split at next
      · rename_i c there
        cases next
        refine ⟨rfl, rfl, rfl, .inl rfl, ?_, id, ?_⟩
        · intro d done
          refine done_setStage ?_ done
          intro done'
          rw [done']
          rfl
        · intro _ none_
          rw [none_ i] at there
          cases there
      · cases next
  | setNil i =>
      simp only [Service.run] at next
      split at next
      · rename_i there
        cases next
        refine ⟨rfl, rfl, rfl, .inr rfl, fun _ => id, id, ?_⟩
        intro _ none_
        rw [none_ i] at there
        cases there
      · cases next
  | runlock i =>
      simp only [Service.run] at next
      split at next
      · rename_i there
        cases next
        exact setCall there
      · cases next
  | cancel i =>
      simp only [Service.run] at next
      split at next
      · rename_i there
        cases next
        refine ⟨rfl, rfl, rfl, .inl rfl, fun _ => id, id, ?_⟩
        intro _ none_
        rw [none_ i] at there
        cases there
      · cases next
  | lose c =>
      simp only [Service.run] at next
      split at next
      · rename_i live
        cases next
        refine ⟨rfl, rfl, rfl, .inl rfl, ?_, id, fun _ none_ => ⟨none_, rfl, rfl⟩⟩
        intro d done
        refine done_setStage ?_ done
        intro done'
        rw [live] at done'
        cases done'
      · cases next
  | finish c =>
      simp only [Service.run] at next
      split at next
      · cases next
        exact ⟨rfl, rfl, rfl, .inl rfl, fun d => done_setStage fun _ => rfl, id,
          fun _ none_ => ⟨none_, rfl, rfl⟩⟩
      · cases next
  | _ => cases other

end Steps

/-! ## The invariant -/

section Invariant

/-- Whether the attempt that has been counted is still to be made. -/
def trying : Main → Bool
  | .retrying | .loggingIn => true
  | _ => false

/-- The loop has seen the end of the control, or comes back from a login that failed. -/
def Ended (logins : List Login) : Main → Prop
  | .woken | .sleeping | .retrying | .loggingIn => True
  | .top | .waiting _ => 0 < failures logins
  | _ => False

structure Inv (s : State) : Prop where
  spaced : Spaced s.logins
  past : lastStop s.logins ≤ s.now
  few : failures s.logins ≤ maxReconnects
  counts : s.svc.main ≠ .returned →
    s.svc.reconnectCounts = failures s.logins + if trying s.svc.main then 1 else 0
  sleeping : s.svc.main = .sleeping → Due s.logins s.wakeAt
  retrying : s.svc.main = .retrying → Due s.logins s.now
  loggingIn : s.svc.main = .loggingIn → Due s.logins s.started ∧ s.started ≤ s.now
  building : s.svc.main.building.isSome → failures s.logins = 0
  exited : s.svc.exited = true → failures s.logins = maxReconnects
  returned : s.svc.main = .returned → s.svc.exit = true
  waiting : ∀ c, s.svc.main = .waiting c → s.svc.ctl = some c ∨ s.svc.ctl = none
  ended : Ended s.logins s.svc.main → ∀ c, s.svc.ctl = some c ∨ s.svc.main = .waiting c →
    s.svc.controls c = .done
  quiet : s.svc.exit = false →
    (∀ i, s.svc.calls.get i = none) ∧ s.svc.ctl ≠ none ∧ s.svc.panicked = false

theorem start_inv : Inv start where
  spaced := trivial
  past := Nat.le_refl 0
  few := by decide
  counts := fun _ => rfl
  sleeping := by rintro ⟨⟩
  retrying := by rintro ⟨⟩
  loggingIn := by rintro ⟨⟩
  building := by rintro ⟨⟩
  exited := by rintro ⟨⟩
  returned := by rintro ⟨⟩
  waiting := by rintro c ⟨⟩
  ended := by
    intro ended
    cases ended
  quiet := by
    intro _
    refine ⟨?_, ?_, rfl⟩
    · intro i
      rfl
    · rintro ⟨⟩

variable {s t : State}

theorem Due.later {past : List Login} {a b : Nat} (due : Due past a) (le : a ≤ b) : Due past b :=
  ⟨due.tries, Nat.le_trans due.waited le⟩

theorem inv_advance (inv : Inv s) (d : Nat) : Inv { s with now := s.now + d } :=
  { inv with
    past := Nat.le_trans inv.past (Nat.le_add_right _ _)
    retrying := fun main => (inv.retrying main).later (Nat.le_add_right _ _)
    loggingIn := fun main =>
      ⟨(inv.loggingIn main).1, Nat.le_trans (inv.loggingIn main).2 (Nat.le_add_right _ _)⟩ }

/-- A step of a close, or of a control. -/
theorem inv_beside (inv : Inv s) {u : Service.State} (beside : Beside s.svc u) :
    Inv { s with svc := u } where
  spaced := inv.spaced
  past := inv.past
  few := inv.few
  counts := by
    dsimp only
    rw [beside.main, beside.counts]
    exact inv.counts
  sleeping := by
    dsimp only
    rw [beside.main]
    exact inv.sleeping
  retrying := by
    dsimp only
    rw [beside.main]
    exact inv.retrying
  loggingIn := by
    dsimp only
    rw [beside.main]
    exact inv.loggingIn
  building := by
    dsimp only
    rw [beside.main]
    exact inv.building
  exited := by
    dsimp only
    rw [beside.exited]
    exact inv.exited
  returned := by
    dsimp only
    rw [beside.main]
    intro main
    cases exit : u.exit with
    | true => rfl
    | false =>
        have before := beside.exit exit
        rw [inv.returned main] at before
        cases before
  waiting := by
    dsimp only
    rw [beside.main]
    intro c main
    rcases beside.ctl with same | none_
    · rw [same]
      exact inv.waiting c main
    · exact .inr none_
  ended := by
    dsimp only
    rw [beside.main]
    intro ended c is
    apply beside.done
    apply inv.ended ended
    rcases is with ctl | main
    · rcases beside.ctl with same | none_
      · exact .inl (same ▸ ctl)
      · rw [none_] at ctl
        cases ctl
    · exact .inr main
  quiet := by
    dsimp only
    intro exit
    obtain ⟨calls, ctl, panicked⟩ := inv.quiet (beside.exit exit)
    obtain ⟨calls', same, same'⟩ := beside.quiet exit calls
    exact ⟨calls', same ▸ ctl, same' ▸ panicked⟩

/-- A step that moves the loop to a place outside an attempt. -/
theorem inv_moved (inv : Inv s) (main : Main) (before : s.svc.main ≠ .returned)
    (idle : trying s.svc.main = false) (idle' : trying main = false)
    (sleeping : main ≠ .sleeping)
    (building : main.building.isSome → failures s.logins = 0)
    (returned : main = .returned → s.svc.exit = true)
    (waiting : ∀ c, main = .waiting c → s.svc.ctl = some c ∨ s.svc.ctl = none)
    (ended : Ended s.logins main → ∀ c, s.svc.ctl = some c ∨ main = .waiting c →
      s.svc.controls c = .done) :
    Inv { s with svc := { s.svc with main := main } } :=
  { inv with
    counts := by
      intro _
      have counts := inv.counts before
      rw [idle] at counts
      rw [idle']
      exact counts
    sleeping := fun is => absurd is sleeping
    retrying := by
      rintro is
      dsimp only at is
      subst is
      cases idle'
    loggingIn := by
      rintro is
      dsimp only at is
      subst is
      cases idle'
    building := building
    returned := returned
    waiting := waiting
    ended := ended }

variable {u : Service.State}

theorem inv_readCtl (inv : Inv s) (move : Service.run s.svc .readCtl = some u) :
    Inv { s with svc := u } := by
  simp only [Service.run] at move
  split at move
  · rename_i top
    split at move
    · rename_i c ctl
      cases move
      refine inv_moved inv _ (by simp [top]) (by rw [top]; rfl) rfl (by simp) (by rintro ⟨⟩)
        (by rintro ⟨⟩) ?_ ?_
      · rintro d ⟨⟩
        exact .inl ctl
      · rintro ended d (ctl' | ⟨⟨⟩⟩)
        · exact inv.ended (by rw [top]; exact ended) d (.inl ctl')
        · exact inv.ended (by rw [top]; exact ended) c (.inl ctl)
    · rename_i ctl
      cases move
      refine { inv with quiet := ?_ }
      intro exit
      exact absurd ctl (inv.quiet exit).2.1
  · cases move

theorem inv_wake (inv : Inv s) (move : Service.run s.svc .wake = some u) :
    Inv { s with svc := u } := by
  simp only [Service.run] at move
  split at move
  · rename_i c waiting
    split at move
    · rename_i done
      cases move
      refine inv_moved inv _ (by simp [waiting]) (by rw [waiting]; rfl) rfl (by simp)
        (by rintro ⟨⟩) (by rintro ⟨⟩) (by rintro d ⟨⟩) ?_
      rintro - d (ctl | ⟨⟨⟩⟩)
      rcases inv.waiting c waiting with same | none_
      · cases same.symm.trans ctl
        exact done
      · rw [none_] at ctl
        cases ctl
    · cases move
  · cases move

theorem inv_check (inv : Inv s) (move : Service.run s.svc .check = some u) :
    Inv { s with svc := u, wakeAt := s.now + delay s.svc.reconnectCounts } := by
  simp only [Service.run] at move
  split at move
  · rename_i woken
    have counts := inv.counts (by simp [woken])
    rw [woken] at counts
    change s.svc.reconnectCounts = failures s.logins at counts
    have done := inv.ended (by rw [woken]; trivial)
    split at move
    · rename_i exit
      cases move
      exact { inv_moved inv .returned (by simp [woken]) (by rw [woken]; rfl) rfl
        (by simp) (by rintro ⟨⟩) (fun _ => exit) (by rintro d ⟨⟩) (by rintro ⟨⟩) with
        sleeping := by rintro ⟨⟩ }
    · split at move
      · rename_i enough
        cases move
        refine { inv with
          sleeping := ?_
          exited := ?_ }
        · intro sleeping
          dsimp only at sleeping
          rw [woken] at sleeping
          cases sleeping
        · intro _
          exact Nat.le_antisymm inv.few (counts ▸ enough)
      · rename_i more
        cases move
        exact { inv with
          counts := fun _ => counts
          sleeping := fun _ =>
            ⟨Nat.lt_of_not_le (counts ▸ more), counts ▸ Nat.add_le_add_right inv.past _⟩
          retrying := by rintro ⟨⟩
          loggingIn := by rintro ⟨⟩
          building := by rintro ⟨⟩
          returned := by rintro ⟨⟩
          waiting := by rintro c ⟨⟩
          ended := by
            rintro - c (ctl | ⟨⟨⟩⟩)
            exact done c (.inl ctl) }
  · cases move

theorem inv_sleep (inv : Inv s) (passed : s.wakeAt ≤ s.now)
    (move : Service.run s.svc .sleep = some u) :
    Inv { s with svc := u } := by
  simp only [Service.run] at move
  split at move
  · rename_i sleeping
    cases move
    have counts := inv.counts (by simp [sleeping])
    rw [sleeping] at counts
    have done := inv.ended (by rw [sleeping]; trivial)
    have due := inv.sleeping sleeping
    exact { inv with
      counts := fun _ => congrArg (· + 1) counts
      sleeping := by rintro ⟨⟩
      retrying := fun _ => due.later passed
      loggingIn := by rintro ⟨⟩
      building := by rintro ⟨⟩
      returned := by rintro ⟨⟩
      waiting := by rintro c ⟨⟩
      ended := by
        rintro - c (ctl | ⟨⟨⟩⟩)
        exact done c (.inl ctl) }
  · cases move

theorem inv_recheck (inv : Inv s) (move : Service.run s.svc .recheck = some u) :
    Inv { s with svc := u, started := s.now } := by
  simp only [Service.run] at move
  split at move
  · rename_i retrying
    cases move
    have counts := inv.counts (by simp [retrying])
    rw [retrying] at counts
    have done := inv.ended (by rw [retrying]; trivial)
    have due := inv.retrying retrying
    by_cases exit : s.svc.exit = true
    · rw [if_pos exit]
      exact { inv with
        counts := fun main => absurd rfl main
        sleeping := by rintro ⟨⟩
        retrying := by rintro ⟨⟩
        loggingIn := by rintro ⟨⟩
        building := by rintro ⟨⟩
        returned := fun _ => exit
        waiting := by rintro c ⟨⟩
        ended := by rintro ⟨⟩ }
    · rw [if_neg exit]
      exact { inv with
        counts := fun _ => counts
        sleeping := by rintro ⟨⟩
        retrying := by rintro ⟨⟩
        loggingIn := fun _ => ⟨due, Nat.le_refl _⟩
        building := by rintro ⟨⟩
        returned := by rintro ⟨⟩
        waiting := by rintro c ⟨⟩
        ended := by
          rintro - c (ctl | ⟨⟨⟩⟩)
          exact done c (.inl ctl) }
  · cases move

theorem inv_login (inv : Inv s) (running : s.svc.exited = false) {ok : Bool}
    (move : Service.run s.svc (.login ok) = some u) :
    Inv { s with svc := u, logins := ⟨s.started, s.now, ok⟩ :: s.logins } := by
  simp only [Service.run] at move
  split at move
  · rename_i loggingIn
    have counts := inv.counts (by simp [loggingIn])
    rw [loggingIn] at counts
    have done := inv.ended (by rw [loggingIn]; trivial)
    obtain ⟨due, order⟩ := inv.loggingIn loggingIn
    have tries := due.tries
    cases ok with
    | true =>
        cases move
        have none_ : failures (⟨s.started, s.now, true⟩ :: s.logins) = 0 := failures_cons _ _
        exact {
          spaced := ⟨due, order, inv.spaced⟩
          past := Nat.le_refl _
          few := none_ ▸ Nat.zero_le _
          counts := fun _ => none_.symm
          sleeping := by rintro ⟨⟩
          retrying := by rintro ⟨⟩
          loggingIn := by rintro ⟨⟩
          building := fun _ => none_
          exited := fun exited => by simp_all
          returned := by rintro ⟨⟩
          waiting := by rintro c ⟨⟩
          ended := by rintro ⟨⟩
          quiet := inv.quiet }
    | false =>
        cases move
        have more : failures (⟨s.started, s.now, false⟩ :: s.logins) =
            failures s.logins + 1 := failures_cons _ _
        exact {
          spaced := ⟨due, order, inv.spaced⟩
          past := Nat.le_refl _
          few := more ▸ tries
          counts := fun _ => counts.trans more.symm
          sleeping := by rintro ⟨⟩
          retrying := by rintro ⟨⟩
          loggingIn := by rintro ⟨⟩
          building := by rintro ⟨⟩
          exited := fun exited => by simp_all
          returned := by rintro ⟨⟩
          waiting := by rintro c ⟨⟩
          ended := by
            rintro - c (ctl | ⟨⟨⟩⟩)
            exact done c (.inl ctl)
          quiet := inv.quiet }
  · cases move

theorem inv_run (inv : Inv s) (move : Service.run s.svc .run = some u) :
    Inv { s with svc := u } := by
  simp only [Service.run] at move
  split at move
  · rename_i c created
    cases move
    have none_ := inv.building (by rw [created]; rfl)
    have counts := inv.counts (by simp [created])
    rw [created] at counts
    exact { inv with
      counts := fun _ => counts
      sleeping := by rintro ⟨⟩
      retrying := by rintro ⟨⟩
      loggingIn := by rintro ⟨⟩
      building := fun _ => none_
      returned := by rintro ⟨⟩
      waiting := by rintro d ⟨⟩
      ended := by rintro ⟨⟩ }
  · cases move

theorem inv_lock (inv : Inv s) (move : Service.run s.svc .lock = some u) :
    Inv { s with svc := u } := by
  simp only [Service.run] at move
  split at move
  · rename_i c ran
    split at move
    · cases move
      have none_ := inv.building (by rw [ran]; rfl)
      exact inv_moved inv _ (by simp [ran]) (by rw [ran]; rfl) rfl (by simp) (fun _ => none_)
        (by rintro ⟨⟩) (by rintro d ⟨⟩) (by rintro ⟨⟩)
    · cases move
  · cases move

theorem inv_closeOld (inv : Inv s) (move : Service.run s.svc .closeOld = some u) :
    Inv { s with svc := u } := by
  simp only [Service.run] at move
  split at move
  · rename_i c locked
    have none_ := inv.building (by rw [locked]; rfl)
    have moved := inv_moved inv (.replacing c) (by simp [locked])
      (by rw [locked]; rfl) rfl (by simp) (fun _ => none_) (by rintro ⟨⟩) (by rintro d ⟨⟩)
      (by rintro ⟨⟩)
    split at move
    · cases move
      exact { moved with ended := by rintro ⟨⟩ }
    · cases move
      exact moved
  · cases move

theorem inv_publish (inv : Inv s) (move : Service.run s.svc .publish = some u) :
    Inv { s with svc := u } := by
  simp only [Service.run] at move
  split at move
  · rename_i c replacing
    cases move
    have none_ := inv.building (by rw [replacing]; rfl)
    have counts := inv.counts (by simp [replacing])
    rw [replacing] at counts
    exact { inv with
      counts := fun _ => counts
      sleeping := by rintro ⟨⟩
      retrying := by rintro ⟨⟩
      loggingIn := by rintro ⟨⟩
      building := by rintro ⟨⟩
      returned := by rintro ⟨⟩
      waiting := by rintro d ⟨⟩
      ended := fun ended => absurd none_ (Nat.ne_of_gt ended)
      quiet := fun exit =>
        ⟨(inv.quiet exit).1, Option.some_ne_none c, (inv.quiet exit).2.2⟩ }
  · cases move

theorem inv_svc_step (inv : Inv s) {l : Service.Label} (next : step s (.svc l) = some t) :
    Inv t := by
  obtain ⟨u, move, next⟩ := Option.bind_eq_some_iff.1 next
  cases loops : Loops l with
  | false =>
      have beside := beside_of_step loops move
      cases l <;> cases loops <;> cases next <;> exact inv_beside inv beside
  | true =>
      obtain ⟨-, running, move⟩ := Service.step_run move
      cases l with
      | sleep =>
          dsimp only at next
          split at next
          · rename_i passed
            cases next
            exact inv_sleep inv passed move
          · cases next
      | readCtl =>
          cases next
          exact inv_readCtl inv move
      | wake =>
          cases next
          exact inv_wake inv move
      | check =>
          cases next
          exact inv_check inv move
      | recheck =>
          cases next
          exact inv_recheck inv move
      | login ok =>
          cases next
          exact inv_login inv running move
      | run =>
          cases next
          exact inv_run inv move
      | lock =>
          cases next
          exact inv_lock inv move
      | closeOld =>
          cases next
          exact inv_closeOld inv move
      | publish =>
          cases next
          exact inv_publish inv move
      | _ => cases loops

theorem step_inv {l : Label} (inv : Inv s) (next : step s l = some t) : Inv t := by
  cases l with
  | advance d =>
      cases next
      exact inv_advance inv d
  | svc l => exact inv_svc_step inv next

/-! ## Giving up -/

/-- The steps of the loop from its top to `os.Exit`. -/
def lastSteps : List Label := [.svc .readCtl, .svc .wake, .svc .check]

/-- The loop comes to `os.Exit` without anybody else's step. -/
def GivesUp (s : State) : Prop :=
  ∃ ls t, ls <:+ lastSteps ∧ exec step s ls = some t ∧ t.svc.exited = true

theorem exits_of_woken (inv : Inv s) (three : failures s.logins = maxReconnects)
    (exit : s.svc.exit = false) (exited : s.svc.exited = false) (woken : s.svc.main = .woken) :
    ∃ t, exec step s [.svc .check] = some t ∧ t.svc.exited = true := by
  have counts := inv.counts (by simp [woken])
  rw [woken, three] at counts
  have enough : maxReconnects ≤ s.svc.reconnectCounts := Nat.le_of_eq counts.symm
  obtain ⟨-, -, panicked⟩ := inv.quiet exit
  have next : step s (.svc .check) = some { s with
      svc := { s.svc with exited := true }
      wakeAt := s.now + delay s.svc.reconnectCounts } := by
    simp [step, Service.step, Service.run, woken, exit, exited, panicked, enough]
  exact ⟨_, exec_cons_eq_some.2 ⟨_, next, rfl⟩, rfl⟩

theorem wakes (inv : Inv s) (three : failures s.logins = maxReconnects)
    (exit : s.svc.exit = false) (exited : s.svc.exited = false) {c : Nat}
    (waiting : s.svc.main = .waiting c) :
    step s (.svc .wake) = some { s with svc := { s.svc with main := .woken } } := by
  have done := inv.ended (by rw [waiting, Ended, three]; decide) c (.inr waiting)
  obtain ⟨-, -, panicked⟩ := inv.quiet exit
  simp [step, Service.step, Service.run, waiting, done, exited, panicked]

theorem readsCtl (inv : Inv s) (exit : s.svc.exit = false) (exited : s.svc.exited = false)
    (top : s.svc.main = .top) :
    ∃ c, step s (.svc .readCtl) = some { s with svc := { s.svc with main := .waiting c } } := by
  obtain ⟨-, ctl, panicked⟩ := inv.quiet exit
  obtain ⟨c, ctl⟩ := Option.ne_none_iff_exists'.1 ctl
  exact ⟨c, by simp [step, Service.step, Service.run, top, ctl, exited, panicked]⟩

theorem gives_up (inv : Inv s) (three : failures s.logins = maxReconnects)
    (exit : s.svc.exit = false) (exited : s.svc.exited = false) : GivesUp s := by
  have few : ∀ {start}, ¬ Due s.logins start := fun due =>
    absurd three (Nat.ne_of_lt due.tries)
  cases main : s.svc.main with
  | top =>
      obtain ⟨c, reads⟩ := readsCtl inv exit exited main
      have inv' := step_inv inv reads
      have wake := wakes inv' three exit exited rfl
      obtain ⟨t, check, exits⟩ := exits_of_woken (step_inv inv' wake) three exit exited rfl
      exact ⟨lastSteps, t, List.suffix_refl _,
        exec_cons_eq_some.2 ⟨_, reads, exec_cons_eq_some.2 ⟨_, wake, check⟩⟩, exits⟩
  | waiting c =>
      have wake := wakes inv three exit exited main
      obtain ⟨t, check, exits⟩ := exits_of_woken (step_inv inv wake) three exit exited rfl
      exact ⟨_, t, List.suffix_cons _ _, exec_cons_eq_some.2 ⟨_, wake, check⟩, exits⟩
  | woken =>
      obtain ⟨t, check, exits⟩ := exits_of_woken inv three exit exited main
      exact ⟨_, t, ⟨[.svc .readCtl, .svc .wake], rfl⟩, check, exits⟩
  | sleeping => exact absurd (inv.sleeping main) few
  | retrying => exact absurd (inv.retrying main) few
  | loggingIn => exact absurd (inv.loggingIn main).1 few
  | created c | ran c | locked c | replacing c =>
      have none_ := inv.building (by rw [main]; rfl)
      rw [three] at none_
      cases none_
  | returned =>
      rw [inv.returned main] at exit
      cases exit

/-- **The logins of the loop keep their distance, and the client gives up after three in a
row have failed, and not before.** -/
theorem reconnects_paced (reached : Reachable step start s) :
    Spaced s.logins ∧ 5 * second * s.logins.length ≤ s.now ∧
      (s.svc.exited = true → failures s.logins = maxReconnects) ∧
      (failures s.logins = maxReconnects → s.svc.exit = false → s.svc.exited = false →
        GivesUp s) := by
  have inv := reached.invariant (fun _ _ _ inv next => step_inv inv next) start_inv
  refine ⟨inv.spaced, ?_, inv.exited, gives_up inv⟩
  exact Nat.le_trans inv.spaced.length_le inv.past

end Invariant

/-- An attempt that fails. -/
def fails (d : Nat) : List Label :=
  [.svc .readCtl, .svc .wake, .svc .check, .advance (d * second), .svc .sleep, .svc .recheck,
    .advance second, .svc (.login false)]

/-- The connection is lost, and the server does not come back. -/
def threeFailures : List Label :=
  [.svc (.lose 0), .svc (.finish 0)] ++ fails 5 ++ fails 10 ++ fails 20

theorem reconnects_paced_three_failures : ∃ s, exec step start threeFailures = some s ∧
    s.logins = [⟨37 * second, 38 * second, false⟩, ⟨16 * second, 17 * second, false⟩,
        ⟨5 * second, 6 * second, false⟩] ∧ Spaced s.logins ∧
      GivesUp s := by
  obtain ⟨s, run, logins, exit, exited⟩ : ∃ s, exec step start threeFailures = some s ∧
      s.logins = [⟨37 * second, 38 * second, false⟩, ⟨16 * second, 17 * second, false⟩,
        ⟨5 * second, 6 * second, false⟩] ∧ s.svc.exit = false ∧
        s.svc.exited = false := ⟨_, rfl, rfl, rfl, rfl⟩
  obtain ⟨spaced, -, -, ends⟩ := reconnects_paced ⟨threeFailures, run⟩
  exact ⟨s, run, logins, spaced, ends (by rw [logins]; rfl) exit exited⟩

end ChmlFrp.Client.Reconnect
