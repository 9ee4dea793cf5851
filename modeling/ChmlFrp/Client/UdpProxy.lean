/-
# ChmlFrp.Client.UdpProxy — the work connections of a udp proxy of the client

`client/proxy/udp.go`.  `InWorkConn` calls `Close` for the connection before, wraps its own
and puts it in place of the other; the two sections under the mutex are two steps here, and
any number of calls are in progress.  The owner closes the proxy and may run it again.

* `udp_conns_owned`: in the runs whose calls install a connection only while no other is open
  and the owner has not closed the proxy, one connection at most is open and none is left
  after `Close`; any other step of such a run leads to a run where this fails.
* `never_closes_twice`: no channel is closed twice, in any run.
* `two_calls_leave_a_conn`: two calls that both close before either installs.
-/
import ChmlFrp.Lib.GoMap
import ChmlFrp.Lib.Transition
import Mathlib.Data.Finset.Dedup

namespace ChmlFrp.Client.UdpProxy

set_option autoImplicit false

open ChmlFrp.Lib
open ChmlFrp.Lib.Transition

/-- Where a call of `InWorkConn` is; its connection has the number of the call. -/
inductive Call where
  /-- Before its `Close`. -/
  | entered
  /-- Between `Close` and the second section. -/
  | past
  deriving DecidableEq, Repr

structure State where
  workConn : Option Nat
  /-- The channels, by the call that made them. -/
  readCh : Option Nat
  sendCh : Option Nat
  closed : Bool
  calls : GoMap Nat Call
  next : Nat
  /-- The connections that were installed, the latest first. -/
  installed : List Nat
  openConns : Finset Nat
  openRead : Finset Nat
  openSend : Finset Nat
  /-- The owner has called `Close` and has not run the proxy since. -/
  ownerClosed : Bool

/-- After `NewUDPProxy` and `Run`. -/
def start : State where
  workConn := none
  readCh := none
  sendCh := none
  closed := false
  calls := ∅
  next := 0
  installed := []
  openConns := ∅
  openRead := ∅
  openSend := ∅
  ownerClosed := false

inductive Label where
  /-- A work connection comes in. -/
  | call
  /-- The `Close` of a call. -/
  | closeOld (c : Nat)
  /-- `WithEncryption` fails. -/
  | fail (c : Nat)
  /-- The second section of a call, which then starts the goroutines and returns. -/
  | install (c : Nat)
  | ownerClose
  | ownerRun
  deriving DecidableEq, Repr

namespace State

/-- `UDPProxy.Close` -/
def close (s : State) : State :=
  if s.closed then s
  else
    { s with
      closed := true
      openConns := s.openConns.filter fun c => s.workConn ≠ some c
      openRead := s.openRead.filter fun c => s.readCh ≠ some c
      openSend := s.openSend.filter fun c => s.sendCh ≠ some c }

@[simp] theorem close_closed (s : State) : s.close.closed = true := by
  unfold close
  split
  · assumption
  · rfl

@[simp] theorem close_workConn (s : State) : s.close.workConn = s.workConn := by
  unfold close
  split <;> rfl

@[simp] theorem close_readCh (s : State) : s.close.readCh = s.readCh := by
  unfold close
  split <;> rfl

@[simp] theorem close_sendCh (s : State) : s.close.sendCh = s.sendCh := by
  unfold close
  split <;> rfl

@[simp] theorem close_calls (s : State) : s.close.calls = s.calls := by
  unfold close
  split <;> rfl

@[simp] theorem close_next (s : State) : s.close.next = s.next := by
  unfold close
  split <;> rfl

@[simp] theorem close_installed (s : State) : s.close.installed = s.installed := by
  unfold close
  split <;> rfl

@[simp] theorem close_ownerClosed (s : State) : s.close.ownerClosed = s.ownerClosed := by
  unfold close
  split <;> rfl

@[simp] theorem mem_close_openConns (s : State) (c : Nat) :
    c ∈ s.close.openConns ↔ c ∈ s.openConns ∧ (s.closed = false → s.workConn ≠ some c) := by
  unfold close
  split
  · rename_i closed
    simp [closed]
  · rename_i closed
    simp [closed]

@[simp] theorem mem_close_openRead (s : State) (c : Nat) :
    c ∈ s.close.openRead ↔ c ∈ s.openRead ∧ (s.closed = false → s.readCh ≠ some c) := by
  unfold close
  split
  · rename_i closed
    simp [closed]
  · rename_i closed
    simp [closed]

@[simp] theorem mem_close_openSend (s : State) (c : Nat) :
    c ∈ s.close.openSend ↔ c ∈ s.openSend ∧ (s.closed = false → s.sendCh ≠ some c) := by
  unfold close
  split
  · rename_i closed
    simp [closed]
  · rename_i closed
    simp [closed]

end State

variable (useEncryption : Bool)

def step (s : State) : Label → Option State
  | .call =>
      some { s with
        calls := s.calls.set s.next .entered
        openConns := insert s.next s.openConns
        next := s.next + 1 }
  | .closeOld c =>
      match s.calls.get c with
      | some .entered => some { s.close with calls := s.calls.set c .past }
      | _ => none
  | .fail c =>
      match s.calls.get c with
      | some .past =>
          if useEncryption then
            some { s with calls := s.calls.delete c, openConns := s.openConns.erase c }
          else none
      | _ => none
  | .install c =>
      match s.calls.get c with
      | some .past =>
          some { s with
            calls := s.calls.delete c
            workConn := some c
            readCh := some c
            sendCh := some c
            openRead := insert c s.openRead
            openSend := insert c s.openSend
            closed := false
            installed := c :: s.installed }
      | _ => none
  | .ownerClose => some { s.close with ownerClosed := true }
  | .ownerRun => some { s with ownerClosed := false }

/-! ## One connection -/

/-- The connections that are installed and open are the latest, and after `Close` of the
owner nothing is open once no call is in progress. -/
structure OneConn (s : State) : Prop where
  latest : ∀ c ∈ s.installed, c ∈ s.openConns → s.installed.head? = some c
  closed : s.ownerClosed = true → (∀ c, s.calls.get c = none) →
    s.openConns = ∅ ∧ s.openRead = ∅ ∧ s.openSend = ∅

/-- A call installs its connection while no other is open that was installed, and while the
owner has not closed the proxy. -/
def Guard (s : State) : Label → Prop
  | .install _ => s.ownerClosed = false ∧ ∀ d ∈ s.installed, d ∉ s.openConns
  | _ => True

/-! ## What a step does -/

/-- The steps as they change the state. -/
inductive Moves (s : State) : Label → State → Prop
  | call :
      Moves s .call { s with
        calls := s.calls.set s.next .entered
        openConns := insert s.next s.openConns
        next := s.next + 1 }
  | closeOld {c : Nat} (at_ : s.calls.get c = some .entered) :
      Moves s (.closeOld c) { s.close with calls := s.calls.set c .past }
  | fail {c : Nat} (at_ : s.calls.get c = some .past) :
      Moves s (.fail c) { s with calls := s.calls.delete c, openConns := s.openConns.erase c }
  | install {c : Nat} (at_ : s.calls.get c = some .past) :
      Moves s (.install c) { s with
        calls := s.calls.delete c
        workConn := some c
        readCh := some c
        sendCh := some c
        openRead := insert c s.openRead
        openSend := insert c s.openSend
        closed := false
        installed := c :: s.installed }
  | ownerClose : Moves s .ownerClose { s.close with ownerClosed := true }
  | ownerRun : Moves s .ownerRun { s with ownerClosed := false }

variable {useEncryption} {s t : State} {l : Label}

theorem step_moves (next : step useEncryption s l = some t) : Moves s l t := by
  cases l with
  | call =>
      cases next
      exact .call
  | closeOld c =>
      simp only [step] at next
      split at next
      · rename_i at_
        cases next
        exact .closeOld at_
      · cases next
  | fail c =>
      simp only [step] at next
      split at next
      · rename_i at_
        split at next
        · cases next
          exact .fail at_
        · cases next
      · cases next
  | install c =>
      simp only [step] at next
      split at next
      · rename_i at_
        cases next
        exact .install at_
      · cases next
  | ownerClose =>
      cases next
      exact .ownerClose
  | ownerRun =>
      cases next
      exact .ownerRun

theorem step_install (useEncryption : Bool) {c : Nat} (at_ : s.calls.get c = some .past) :
    step useEncryption s (.install c) = some { s with
      calls := s.calls.delete c
      workConn := some c
      readCh := some c
      sendCh := some c
      openRead := insert c s.openRead
      openSend := insert c s.openSend
      closed := false
      installed := c :: s.installed } := by
  simp [step, at_]

/-! ## In every run -/

/-- The fields that the second section sets together belong together. -/
structure Inv (s : State) : Prop where
  workConn : s.workConn = s.installed.head?
  readCh : s.readCh = s.workConn
  sendCh : s.sendCh = s.workConn
  fresh : ∀ c, (c ∈ s.installed ∨ s.calls.get c ≠ none ∨ c ∈ s.openConns) → c < s.next
  apart : ∀ c ∈ s.installed, s.calls.get c = none
  busy : ∀ c, s.calls.get c ≠ none → c ∈ s.openConns
  owned : ∀ c ∈ s.openConns, s.calls.get c ≠ none ∨ c ∈ s.installed
  /-- The channels of a connection are open as long as it is. -/
  pairs : ∀ c, (c ∈ s.openRead ↔ c ∈ s.openConns ∧ c ∈ s.installed) ∧
    (c ∈ s.openSend ↔ c ∈ s.openConns ∧ c ∈ s.installed)
  /-- `closed` tells of the latest connection. -/
  live : ∀ c, s.workConn = some c → (c ∈ s.openConns ↔ s.closed = false)

theorem inv_start : Inv start :=
  ⟨rfl, rfl, rfl, by simp [start], by simp [start], by simp [start], by simp [start],
    by simp [start], by simp [start]⟩

/-- The latest connection was installed. -/
theorem Inv.mem_of_latest (inv : Inv s) {c : Nat} (latest : s.workConn = some c) :
    c ∈ s.installed :=
  List.mem_of_head? (inv.workConn ▸ latest)

/-- A connection is installed at the end of its call. -/
theorem Inv.not_installed (inv : Inv s) {c : Nat} {call : Call} (at_ : s.calls.get c = some call) :
    c ∉ s.installed := by
  intro mem
  simp [inv.apart c mem] at at_

theorem Inv.next_new (inv : Inv s) :
    s.next ∉ s.installed ∧ s.calls.get s.next = none ∧ s.next ∉ s.openConns := by
  refine ⟨fun mem => ?_, ?_, fun mem => ?_⟩
  · exact absurd (inv.fresh _ (.inl mem)) (Nat.lt_irrefl _)
  · by_contra busy
    exact absurd (inv.fresh _ (.inr (.inl busy))) (Nat.lt_irrefl _)
  · exact absurd (inv.fresh _ (.inr (.inr mem))) (Nat.lt_irrefl _)

theorem Inv.close (inv : Inv s) : Inv s.close where
  workConn := by simpa using inv.workConn
  readCh := by simpa using inv.readCh
  sendCh := by simpa using inv.sendCh
  fresh := by
    intro c known
    rw [State.close_next]
    apply inv.fresh c
    simpa using known.imp_right (Or.imp_right fun mem => (s.mem_close_openConns c).1 mem |>.1)
  apart := by simpa using inv.apart
  busy := by
    intro c busy
    rw [State.close_calls] at busy
    refine (s.mem_close_openConns c).2 ⟨inv.busy c busy, fun _ latest => busy ?_⟩
    exact inv.apart c (inv.mem_of_latest latest)
  owned := by
    intro c mem
    simpa using inv.owned c ((s.mem_close_openConns c).1 mem).1
  pairs := by
    intro c
    have pairs := inv.pairs c
    simp only [State.mem_close_openRead, State.mem_close_openSend, State.mem_close_openConns,
      State.close_installed, inv.readCh, inv.sendCh, pairs.1, pairs.2]
    constructor <;> constructor <;> rintro ⟨⟨a, b⟩, c⟩ <;> exact ⟨⟨a, c⟩, b⟩
  live := by
    intro c latest
    rw [State.close_workConn] at latest
    have live := inv.live c latest
    simp only [State.mem_close_openConns, State.close_closed, latest, live]
    simp

/-- Between the sections of a call nothing of it is seen. -/
theorem Inv.past {c : Nat} (inv : Inv s) (at_ : s.calls.get c = some .entered) :
    Inv { s with calls := s.calls.set c .past } := by
  have same : ∀ d, (s.calls.set c .past).get d = none ↔ s.calls.get d = none := by
    intro d
    rw [GoMap.get_set]
    split
    · rename_i here
      simp [here, at_]
    · rfl
  refine ⟨inv.workConn, inv.readCh, inv.sendCh, ?_, ?_, ?_, ?_, inv.pairs, inv.live⟩
  · intro d known
    apply inv.fresh d
    simpa only [ne_eq, same] using known
  · intro d mem
    exact (same d).2 (inv.apart d mem)
  · intro d busy
    exact inv.busy d (by simpa only [ne_eq, same] using busy)
  · intro d mem
    simpa only [ne_eq, same] using inv.owned d mem

theorem Inv.moves (inv : Inv s) (moves : Moves s l t) : Inv t := by
  cases moves with
  | call =>
      have new := inv.next_new
      refine ⟨inv.workConn, inv.readCh, inv.sendCh, ?_, ?_, ?_, ?_, ?_, ?_⟩
      · intro c known
        have fresh := inv.fresh c
        simp only [GoMap.get_set, Finset.mem_insert] at known
        by_cases here : c = s.next
        · simp [here]
        · simp only [here, if_false, false_or] at known
          exact Nat.lt_succ_of_lt (fresh known)
      · intro c mem
        have other : c ≠ s.next := fun here => new.1 (here ▸ mem)
        simpa [other] using inv.apart c mem
      · intro c busy
        by_cases here : c = s.next
        · simp [here]
        · simpa [here] using inv.busy c (by simpa [here] using busy)
      · intro c mem
        rcases Finset.mem_insert.1 mem with rfl | mem
        · simp
        · have owned := inv.owned c mem
          by_cases here : c = s.next
          · simp [here]
          · simpa [here] using owned
      · intro c
        have pairs := inv.pairs c
        by_cases here : c = s.next
        · subst here
          simp [pairs, new]
        · simpa [here] using pairs
      · intro c latest
        have other : c ≠ s.next := fun here => new.1 (here ▸ inv.mem_of_latest latest)
        simpa [other] using inv.live c latest
  | @closeOld c at_ =>
      have at' : s.close.calls.get c = some .entered := by simpa using at_
      have past := inv.close.past at'
      rw [State.close_calls] at past
      exact past
  | @fail c at_ =>
      have absent := inv.not_installed at_
      refine ⟨inv.workConn, inv.readCh, inv.sendCh, ?_, ?_, ?_, ?_, ?_, ?_⟩
      · intro d known
        apply inv.fresh d
        simp only [GoMap.get_delete, Finset.mem_erase] at known
        by_cases here : d = c
        · simp [here, absent] at known
        · simpa [here] using known
      · intro d mem
        simp [inv.apart d mem]
      · intro d busy
        by_cases here : d = c
        · simp [here] at busy
        · simpa [here] using inv.busy d (by simpa [here] using busy)
      · intro d mem
        obtain ⟨other, mem⟩ := Finset.mem_erase.1 mem
        simpa [other] using inv.owned d mem
      · intro d
        have pairs := inv.pairs d
        by_cases here : d = c
        · subst here
          simp [pairs, absent]
        · simpa [here] using pairs
      · intro d latest
        have other : d ≠ c := fun here => absent (here ▸ inv.mem_of_latest latest)
        simpa [other] using inv.live d latest
  | @install c at_ =>
      have openConn : c ∈ s.openConns := inv.busy c (by simp [at_])
      refine ⟨rfl, rfl, rfl, ?_, ?_, ?_, ?_, ?_, ?_⟩
      · intro d known
        apply inv.fresh d
        simp only [GoMap.get_delete, List.mem_cons] at known
        by_cases here : d = c
        · exact .inr (.inl (by simp [here, at_]))
        · simpa [here] using known
      · intro d mem
        rcases List.mem_cons.1 mem with rfl | mem
        · simp
        · simp [inv.apart d mem]
      · intro d busy
        by_cases here : d = c
        · simp [here] at busy
        · exact inv.busy d (by simpa [here] using busy)
      · intro d mem
        by_cases here : d = c
        · simp [here]
        · simpa [here] using inv.owned d mem
      · intro d
        have pairs := inv.pairs d
        by_cases here : d = c
        · simp [here, openConn]
        · simpa [here] using pairs
      · intro d latest
        cases latest
        simpa using openConn
  | ownerClose =>
      have close := inv.close
      exact ⟨close.workConn, close.readCh, close.sendCh, close.fresh, close.apart, close.busy,
        close.owned, close.pairs, close.live⟩
  | ownerRun =>
      exact ⟨inv.workConn, inv.readCh, inv.sendCh, inv.fresh, inv.apart, inv.busy, inv.owned,
        inv.pairs, inv.live⟩

/-- **`Close` closes channels that are open, in every run.** -/
theorem never_closes_twice (reached : Reachable (step useEncryption) start s)
    (still : s.closed = false) :
    (∀ c, s.readCh = some c → c ∈ s.openRead) ∧ ∀ c, s.sendCh = some c → c ∈ s.openSend := by
  have inv : Inv s :=
    reached.invariant (fun _ _ _ inv next => inv.moves (step_moves next)) inv_start
  have served : ∀ c, s.workConn = some c → c ∈ s.openRead ∧ c ∈ s.openSend := by
    intro c latest
    have openConn : c ∈ s.openConns := (inv.live c latest).2 still
    have mem := inv.mem_of_latest latest
    exact ⟨(inv.pairs c).1.2 ⟨openConn, mem⟩, (inv.pairs c).2.2 ⟨openConn, mem⟩⟩
  constructor
  · intro c made
    exact (served c (inv.readCh ▸ made)).1
  · intro c made
    exact (served c (inv.sendCh ▸ made)).2

/-! ## When one connection is left -/

/-- What the condition on the installing calls keeps. -/
structure Kept (s : State) : Prop where
  inv : Inv s
  one : ∀ c ∈ s.installed, c ∈ s.openConns → s.installed.head? = some c
  ended : s.ownerClosed = true → s.closed = true

theorem kept_start : Kept start := ⟨inv_start, by simp [start], by simp [start]⟩

theorem Kept.oneConn (kept : Kept s) : OneConn s := by
  refine ⟨kept.one, fun closed idle => ?_⟩
  have noConn : s.openConns = ∅ := by
    apply Finset.eq_empty_of_forall_notMem
    intro c mem
    have installed : c ∈ s.installed :=
      (kept.inv.owned c mem).resolve_left fun busy => busy (idle c)
    have latest : s.workConn = some c := kept.inv.workConn.trans (kept.one c installed mem)
    have still : s.closed = false := (kept.inv.live c latest).1 mem
    simp [kept.ended closed] at still
  refine ⟨noConn, ?_, ?_⟩
  · apply Finset.eq_empty_of_forall_notMem
    intro c mem
    simpa [noConn] using ((kept.inv.pairs c).1.1 mem).1
  · apply Finset.eq_empty_of_forall_notMem
    intro c mem
    simpa [noConn] using ((kept.inv.pairs c).2.1 mem).1

theorem Kept.moves (kept : Kept s) (guarded : Guard s l) (moves : Moves s l t) : Kept t := by
  refine ⟨kept.inv.moves moves, ?_, ?_⟩
  · intro c installed openConn
    cases moves with
    | call =>
        have known : c < s.next := kept.inv.fresh c (.inl installed)
        have other : c ≠ s.next := by omega
        exact kept.one c installed (by simpa [other] using openConn)
    | closeOld at_ =>
        simp only [State.close_installed] at installed ⊢
        exact kept.one c installed ((s.mem_close_openConns c).1 openConn).1
    | fail at_ => exact kept.one c installed (Finset.mem_of_mem_erase openConn)
    | install at_ =>
        rcases List.mem_cons.1 installed with rfl | before
        · rfl
        · exact absurd openConn (guarded.2 c before)
    | ownerClose =>
        simp only [State.close_installed] at installed ⊢
        exact kept.one c installed ((s.mem_close_openConns c).1 openConn).1
    | ownerRun => exact kept.one c installed openConn
  · intro closed
    cases moves with
    | call => exact kept.ended closed
    | closeOld at_ => simp
    | fail at_ => exact kept.ended closed
    | install at_ =>
        rw [guarded.1] at closed
        cases closed
    | ownerClose => simp
    | ownerRun => cases closed

/-! ## When one is left over -/

/-- A connection was installed after the owner closed the proxy, or a call that is in
progress will install one. -/
structure Late (s : State) : Prop where
  inv : Inv s
  ended : s.ownerClosed = true
  left : s.calls.keys = ∅ → s.closed = false ∧ s.workConn ≠ none

/-- The sections that a call has still to run. -/
def Call.left : Call → Int
  | .entered => 2
  | .past => 1

theorem Call.left_pos (at_ : Call) : 0 < at_.left := by cases at_ <;> decide

theorem Late.not_oneConn (late : Late s) (idle : s.calls.keys = ∅) : ¬ OneConn s := by
  intro only
  obtain ⟨still, some_⟩ := late.left idle
  obtain ⟨c, latest⟩ := Option.ne_none_iff_exists'.1 some_
  have openConn : c ∈ s.openConns := (late.inv.live c latest).2 still
  simp [(only.closed late.ended (GoMap.get_eq_none_of_keys idle)).1] at openConn

theorem Late.goes_on (late : Late s) (calls : s.calls.keys ≠ ∅) :
    ∃ l t, step useEncryption s l = some t ∧ Late t ∧
      (t.calls.total Call.left).toNat < (s.calls.total Call.left).toNat := by
  obtain ⟨c, mem⟩ := Finset.nonempty_iff_ne_empty.2 calls
  obtain ⟨at_, here⟩ := GoMap.mem_keys_iff.1 mem
  have nonneg : ∀ at_ : Call, 0 ≤ at_.left := fun at_ => Int.le_of_lt at_.left_pos
  cases at_ with
  | entered =>
      have next : step useEncryption s (.closeOld c) =
          some { s.close with calls := s.calls.set c .past } := by
        simp [step, here]
      refine ⟨.closeOld c, _, next, ⟨late.inv.moves (step_moves next), ?_, ?_⟩, ?_⟩
      · simpa using late.ended
      · intro idle
        simp [GoMap.keys_set] at idle
      · exact GoMap.total_set_lt nonneg here (by decide)
  | past =>
      have next := step_install useEncryption here
      refine ⟨.install c, _, next, ⟨late.inv.moves (step_moves next), late.ended, ?_⟩, ?_⟩
      · intro _
        simp
      · exact GoMap.total_delete_lt nonneg here (by decide)

theorem Late.breaks (late : Late s) : CanReach (step useEncryption) (fun u => ¬ OneConn u) s := by
  refine canReach_of_measure Late (fun u => (u.calls.total Call.left).toNat) ?_ late
  intro u late still
  exact late.goes_on fun idle => still (late.not_oneConn idle)

theorem not_oneConn_of_not_guard (inv : Inv s) (breaks : ¬ Guard s l)
    (next : step useEncryption s l = some t) :
    ∃ more, ¬ Along (step useEncryption) (fun _ _ u => OneConn u) s (l :: more) := by
  have inv' : Inv t := inv.moves (step_moves next)
  apply not_along_of_canReach next
  have moves := step_moves next
  cases moves with
  | @install c at_ =>
      by_cases closed : s.ownerClosed = true
      · exact Late.breaks ⟨inv', closed, fun _ => by simp⟩
      · have left : ∃ d ∈ s.installed, d ∈ s.openConns := by
          by_contra none_
          exact breaks ⟨by simpa using closed, fun d mem openConn => none_ ⟨d, mem, openConn⟩⟩
        obtain ⟨d, installed, openConn⟩ := left
        have other : d ≠ c := by
          rintro rfl
          exact inv.not_installed at_ installed
        apply CanReach.here
        intro only
        have latest := only.latest d (List.mem_cons_of_mem c installed) openConn
        cases latest
        exact other rfl
  | _ => exact absurd trivial breaks

/-! ## All runs -/

/-- **One connection of the proxy is open and none after the owner's `Close`, as long as the
calls install theirs one after the other and before it; and never after a call did not.** -/
theorem udp_conns_owned (useEncryption : Bool) (ls : List Label) :
    (Along (step useEncryption) (fun s l _ => Guard s l) start ls →
      Along (step useEncryption) (fun _ _ t => OneConn t) start ls) ∧
      ∀ s l t, Along (step useEncryption) (fun s l _ => Guard s l) start ls →
        exec (step useEncryption) start ls = some s → ¬ Guard s l →
          step useEncryption s l = some t →
            ∃ more,
              ¬ Along (step useEncryption) (fun _ _ t => OneConn t) start (ls ++ l :: more) := by
  refine strengthen_and_tight Kept ?_ ?_ ?_ kept_start ls
  · intro s l t kept guarded next
    exact kept.moves guarded (step_moves next)
  · intro s l t kept guarded next
    exact (kept.moves guarded (step_moves next)).oneConn
  · intro s l t kept breaks next
    exact not_oneConn_of_not_guard kept.inv breaks next

/-- Two connections come in, and both calls run their `Close` before either installs its own:
the first connection stays open beside the second. -/
theorem two_calls_leave_a_conn :
    ¬ ∀ useEncryption ls, Along (step useEncryption) (fun _ _ t => OneConn t) start ls := by
  intro all
  have run := all false [.call, .call, .closeOld 0, .closeOld 1, .install 0, .install 1]
  obtain ⟨t, last, installed, openConn⟩ : ∃ t, exec (step false) start
      [.call, .call, .closeOld 0, .closeOld 1, .install 0, .install 1] = some t ∧
        t.installed = [1, 0] ∧ 0 ∈ t.openConns := by
    refine ⟨_, rfl, rfl, ?_⟩
    decide
  have latest := (run.last last).latest 0 (by simp [installed]) openConn
  simp [installed] at latest

end ChmlFrp.Client.UdpProxy
