/-
# ChmlFrp.Nathole.MakeHole — who gets the hole that a receiver found

`MakeHole` and `waitDetectMessage` of `pkg/nathole/nathole.go`.  With one socket `MakeHole`
waits for the message of the peer itself.  With more it starts a goroutine for each of them
and then waits in a `select`; a goroutine that got a message offers its socket over an
unbuffered channel, and closes the socket when nobody is in the `select` yet.

* `hole_kept`: a socket that is returned had a message and is open.  In the runs in which
  no goroutine offers before the `select`, and no timeout comes between a message and its
  offer, an error is returned only if no socket had a message.  Any other step leads to an
  error although one had.
* `first_hole_lost`: the first goroutine has its message before the second one is started.
-/
import ChmlFrp.Lib.GoString
import ChmlFrp.Lib.Slots
import ChmlFrp.Lib.Transition

namespace ChmlFrp.Nathole.MakeHole

set_option autoImplicit false

universe u

open ChmlFrp.Lib
open ChmlFrp.Lib.Transition

/-! ## Messages -/

structure NatHoleSid where
  transactionID : GoString
  sid : GoString
  response : Bool
  nonce : GoString
  deriving DecidableEq, Repr

/-- The fields of the response with which `MakeHole` listens and waits. -/
structure NatHoleResp where
  sid : GoString
  role : GoString
  listenRandomPorts : Int
  deriving DecidableEq, Repr

def detectRoleSender : GoString := .lit "sender"

/-- `EncodeMessage`, which draws random bytes, and `DecodeMessageInto`. -/
structure Coding where
  encodeMessage : NatHoleSid → GoString → GoString → Option GoString
  decodeMessageInto : GoString → GoString → Option NatHoleSid

/-- What `ReadFromUDP` returns, and the random bytes for the answer. -/
structure Datagram (UDPAddr : Type u) where
  buf : GoString
  raddr : UDPAddr
  random : GoString

/-- The rest of an iteration of `waitDetectMessage`: `none` for `continue`, else it returns
the address, and what it wrote there. -/
def detect {UDPAddr : Type u} (coding : Coding) (m : NatHoleResp) (key : GoString)
    (d : Datagram UDPAddr) : Option (Option GoString) :=
  match coding.decodeMessageInto d.buf key with
  | none => none
  | some sidMsg =>
      if sidMsg.sid ≠ m.sid then none
      else if sidMsg.response then some none
      else if m.role = detectRoleSender then none
      else
        match coding.encodeMessage { sidMsg with response := true } key d.random with
        | none => none
        | some buf2 => some (some buf2)

/-! ## The caller and its goroutines -/

/-- A goroutine of `MakeHole`. -/
inductive Receiver (UDPAddr : Type u) where
  /-- In `waitDetectMessage`. -/
  | waiting
  /-- Before its `select`. -/
  | offering (raddr : UDPAddr)
  | returned
  deriving DecidableEq, Repr

inductive HoleError where
  | detect
  | timeout
  | canceled
  deriving DecidableEq, Repr

inductive Caller (UDPAddr : Type u) where
  /-- In `waitDetectMessage`, for its only socket. -/
  | direct
  /-- In the loop that starts the goroutines. -/
  | starting
  | selecting
  | returned (result : Except HoleError (Nat × UDPAddr))
  deriving DecidableEq, Repr

structure State (UDPAddr : Type u) where
  /-- Whether each of `listenConns` is open. -/
  listenConns : List Bool
  receivers : List (Receiver UDPAddr)
  caller : Caller UDPAddr
  /-- The answers that were written. -/
  written : List (Nat × GoString × UDPAddr)
  /-- What the calls of `waitDetectMessage` returned without an error. -/
  detected : List (Nat × UDPAddr)
  deriving DecidableEq, Repr

/-- The sockets; `listens` says which calls of `ListenUDP` succeed. -/
def listen (m : NatHoleResp) (listens : List Bool) : List Bool :=
  if m.role = detectRoleSender then [true]
  else true :: (listens.take m.listenRandomPorts.toNat).filter id

/-- `MakeHole` has sent its messages. -/
def start (UDPAddr : Type u) (m : NatHoleResp) (listens : List Bool) : State UDPAddr :=
  let listenConns := listen m listens
  { listenConns := listenConns
    receivers := []
    caller := if listenConns.length = 1 then .direct else .starting
    written := []
    detected := [] }

inductive Label (UDPAddr : Type u) where
  /-- `ReadFromUDP` of `waitDetectMessage` returns for a socket. -/
  | read (c : Nat) (datagram : Option (Datagram UDPAddr))
  /-- The caller starts the next goroutine. -/
  | go
  /-- The caller comes to its `select`. -/
  | select
  /-- The `select` of a goroutine. -/
  | offer (c : Nat)
  | timeout
  | cancel

section Machine

variable {UDPAddr : Type u}

namespace State

variable (s : State UDPAddr)

def IsOpen (c : Nat) : Prop := s.listenConns[c]? = some true

instance (c : Nat) : Decidable (s.IsOpen c) := inferInstanceAs (Decidable (_ = _))

def setReceiver (c : Nat) (r : Receiver UDPAddr) : State UDPAddr :=
  { s with receivers := s.receivers.set c r }

def closeConn (c : Nat) : State UDPAddr := { s with listenConns := s.listenConns.set c false }

/-- `waitDetectMessage` returns the address of the peer. -/
def found (c : Nat) (reply : Option GoString) (raddr : UDPAddr) : State UDPAddr :=
  { s with
    written := s.written ++ (reply.map fun buf2 => (c, buf2, raddr)).toList
    detected := s.detected ++ [(c, raddr)] }

end State

/-- One step of `MakeHole`, for its message and key. -/
def step (coding : Coding) (m : NatHoleResp) (key : GoString) (s : State UDPAddr) :
    Label UDPAddr → Option (State UDPAddr)
  | .read c datagram =>
      match s.caller, s.receivers[c]? with
      | .direct, _ =>
          if c = 0 then
            match datagram with
            | none => some { s with caller := .returned (.error .detect) }
            | some d =>
                match detect coding m key d with
                | none => some s
                | some reply =>
                    some { s.found c reply d.raddr with caller := .returned (.ok (c, d.raddr)) }
          else none
      | _, some .waiting =>
          match datagram with
          | none => some ((s.setReceiver c .returned).closeConn c)
          | some d =>
              match detect coding m key d with
              | none => some s
              | some reply => some ((s.found c reply d.raddr).setReceiver c (.offering d.raddr))
      | _, _ => none
  | .go =>
      match s.caller with
      | .starting =>
          if s.receivers.length < s.listenConns.length then
            some { s with receivers := s.receivers ++ [.waiting] }
          else none
      | _ => none
  | .select =>
      match s.caller with
      | .starting =>
          if s.receivers.length < s.listenConns.length then none
          else some { s with caller := .selecting }
      | _ => none
  | .offer c =>
      match s.receivers[c]?, s.caller with
      | some (.offering raddr), .selecting =>
          some { s.setReceiver c .returned with caller := .returned (.ok (c, raddr)) }
      | some (.offering _), _ => some ((s.setReceiver c .returned).closeConn c)
      | _, _ => none
  | .timeout =>
      match s.caller with
      | .selecting => some { s with caller := .returned (.error .timeout) }
      | _ => none
  | .cancel =>
      match s.caller with
      | .selecting => some { s with caller := .returned (.error .canceled) }
      | _ => none

/-! ## What is kept -/

def State.Returned (s : State UDPAddr) : Prop := ∃ result, s.caller = .returned result

/-- The socket that is returned had a message from that address, and is open. -/
def Delivers (t : State UDPAddr) : Prop :=
  ∀ c raddr, t.caller = .returned (.ok (c, raddr)) → (c, raddr) ∈ t.detected ∧ t.IsOpen c

variable (coding : Coding) (m : NatHoleResp) (key : GoString)

structure Keeps (s t : State UDPAddr) : Prop where
  socket : Delivers t
  /-- An error is returned only when no socket had a message. -/
  error : ∀ err, ¬ s.Returned → t.caller = .returned (.error err) → t.detected = []
  /-- When one had, a socket can be returned. -/
  found : t.detected ≠ [] → ¬ t.Returned →
    CanReach (step coding m key) (fun u => ∃ result, u.caller = .returned (.ok result)) t

/-- The condition on a step. -/
def Guard (s : State UDPAddr) : Label UDPAddr → Prop
  | .offer _ => s.caller ≠ .starting
  | .timeout | .cancel => ∀ (c : Nat) (raddr : UDPAddr), s.receivers[c]? ≠ some (.offering raddr)
  | .read .. | .go | .select => True

/-! ## What a step can do -/

variable {coding m key} {s t : State UDPAddr}

inductive Moves (s : State UDPAddr) : Label UDPAddr → State UDPAddr → Prop where
  /-- A datagram is left aside. -/
  | stay (l : Label UDPAddr) : Moves s l s
  | fail (l : Label UDPAddr) (caller : s.caller = .direct) :
      Moves s l { s with caller := .returned (.error .detect) }
  | succeed (l : Label UDPAddr) (reply : Option GoString) (raddr : UDPAddr)
      (caller : s.caller = .direct) :
      Moves s l { s.found 0 reply raddr with caller := .returned (.ok (0, raddr)) }
  | giveUp (l : Label UDPAddr) {c : Nat} (caller : s.caller ≠ .direct)
      (receiver : s.receivers[c]? = some .waiting) :
      Moves s l ((s.setReceiver c .returned).closeConn c)
  | found (l : Label UDPAddr) {c : Nat} (reply : Option GoString) (raddr : UDPAddr)
      (caller : s.caller ≠ .direct) (receiver : s.receivers[c]? = some .waiting) :
      Moves s l ((s.found c reply raddr).setReceiver c (.offering raddr))
  | go (l : Label UDPAddr) (caller : s.caller = .starting)
      (less : s.receivers.length < s.listenConns.length) :
      Moves s l { s with receivers := s.receivers ++ [.waiting] }
  | select (l : Label UDPAddr) (caller : s.caller = .starting) :
      Moves s l { s with caller := .selecting }
  | take {c : Nat} {raddr : UDPAddr} (caller : s.caller = .selecting)
      (receiver : s.receivers[c]? = some (.offering raddr)) :
      Moves s (.offer c) { s.setReceiver c .returned with caller := .returned (.ok (c, raddr)) }
  | drop {c : Nat} {raddr : UDPAddr} (caller : s.caller ≠ .selecting)
      (receiver : s.receivers[c]? = some (.offering raddr)) :
      Moves s (.offer c) ((s.setReceiver c .returned).closeConn c)
  | expire {l : Label UDPAddr} (err : HoleError) (caller : s.caller = .selecting)
      (late : l = .timeout ∨ l = .cancel) :
      Moves s l { s with caller := .returned (.error err) }

theorem step_moves {l : Label UDPAddr} (next : step coding m key s l = some t) :
    Moves s l t := by
  cases l with
  | read c datagram =>
      simp only [step] at next
      split at next
      · rename_i caller
        split at next
        · rename_i first
          subst first
          split at next
          · cases next
            exact .fail _ caller
          · rename_i d
            split at next
            · cases next
              exact .stay _
            · rename_i reply _
              cases next
              exact .succeed _ reply d.raddr caller
        · cases next
      · rename_i receiver caller
        split at next
        · cases next
          exact .giveUp _ caller receiver
        · rename_i d
          split at next
          · cases next
            exact .stay _
          · rename_i reply _
            cases next
            exact .found _ reply d.raddr caller receiver
      · cases next
  | go =>
      simp only [step] at next
      split at next
      · rename_i caller
        split at next
        · rename_i less
          cases next
          exact .go _ caller less
        · cases next
      · cases next
  | select =>
      simp only [step] at next
      split at next
      · rename_i caller
        split at next
        · cases next
        · cases next
          exact .select _ caller
      · cases next
  | offer c =>
      simp only [step] at next
      split at next
      · rename_i receiver caller
        cases next
        exact .take caller receiver
      · rename_i receiver caller
        cases next
        exact .drop (fun selecting => caller selecting) receiver
      · cases next
  | timeout =>
      simp only [step] at next
      split at next
      · rename_i caller
        cases next
        exact .expire .timeout caller (.inl rfl)
      · cases next
  | cancel =>
      simp only [step] at next
      split at next
      · rename_i caller
        cases next
        exact .expire .canceled caller (.inr rfl)
      · cases next

/-! ## The invariant -/

structure Inv (s : State UDPAddr) : Prop where
  direct : s.caller = .direct → s.listenConns = [true] ∧ s.receivers = [] ∧ s.detected = []
  started : s.receivers.length ≤ s.listenConns.length
  /-- Only its own goroutine closes a socket, at its end. -/
  isOpen : ∀ c < s.listenConns.length, s.receivers[c]? ≠ some .returned → s.IsOpen c
  offered : ∀ c raddr, s.receivers[c]? = some (.offering raddr) → (c, raddr) ∈ s.detected
  won : ∀ c raddr, s.caller = .returned (.ok (c, raddr)) → (c, raddr) ∈ s.detected ∧ s.IsOpen c ∧
    ∀ r, s.receivers[c]? = some r → r = .returned

/-- While the caller has not returned, every socket that had a message is still offered. -/
def Offered (s : State UDPAddr) : Prop :=
  ¬ s.Returned → ∀ c raddr, (c, raddr) ∈ s.detected → s.receivers[c]? = some (.offering raddr)

theorem not_returned_of_caller {caller : Caller UDPAddr} (at_ : s.caller = caller)
    (running : ∀ result, caller ≠ .returned result) : ¬ s.Returned := by
  rintro ⟨result, returned⟩
  exact running result (at_.symm.trans returned)

/-- A list of sockets of which the first is open and none of the others is closed. -/
theorem listen_isOpen (m : NatHoleResp) (listens : List Bool) :
    ∀ isOpen ∈ listen m listens, isOpen = true := by
  unfold listen
  split
  · simp
  · intro isOpen inside
    rcases List.mem_cons.1 inside with first | rest
    · exact first
    · simpa using (List.mem_filter.1 rest).2

theorem start_inv (m : NatHoleResp) (listens : List Bool) : Inv (start UDPAddr m listens) where
  direct := by
    intro direct
    refine ⟨?_, rfl, rfl⟩
    have one : (listen m listens).length = 1 := by
      by_contra more
      simp only [start, if_neg more] at direct
      cases direct
    obtain ⟨isOpen, single⟩ := List.length_eq_one_iff.1 one
    have first := listen_isOpen m listens isOpen (by simp [single])
    show listen m listens = [true]
    rw [single, first]
  started := Nat.zero_le _
  isOpen := by
    intro c less _
    have inside := List.getElem_mem less
    exact List.getElem?_eq_some_iff.2 ⟨less, listen_isOpen m listens _ inside⟩
  offered c raddr offering := by cases offering
  won := by
    intro c raddr won
    simp only [start] at won
    split at won <;> cases won

theorem start_offered (m : NatHoleResp) (listens : List Bool) :
    Offered (start UDPAddr m listens) := fun _ _ _ inside => by cases inside

theorem isOpen_set {c d : Nat} (isOpen : s.IsOpen d) (other : d ≠ c) : (s.closeConn c).IsOpen d :=
  (List.getElem?_set_ne (Ne.symm other)).trans isOpen

theorem Inv.waiting_ne (inv : Inv s) {c d : Nat} {raddr : UDPAddr} {r : Receiver UDPAddr}
    (won : s.caller = .returned (.ok (d, raddr))) (receiver : s.receivers[c]? = some r)
    (running : r ≠ .returned) : d ≠ c := by
  rintro rfl
  exact running ((inv.won d raddr won).2.2 r receiver)

/-- A goroutine closes its socket and returns. -/
theorem Inv.close (inv : Inv s) {c : Nat} {r : Receiver UDPAddr}
    (caller : s.caller ≠ .direct) (receiver : s.receivers[c]? = some r) (running : r ≠ .returned) :
    Inv ((s.setReceiver c .returned).closeConn c) where
  direct direct := absurd direct caller
  started := by
    show (s.receivers.set c _).length ≤ (s.listenConns.set c _).length
    rw [List.length_set, List.length_set]
    exact inv.started
  isOpen := by
    intro d less alive
    have other : d ≠ c := by
      rintro rfl
      exact alive (Slots.set_self receiver)
    have less' : d < s.listenConns.length := by
      simpa [State.closeConn, State.setReceiver] using less
    refine isOpen_set (inv.isOpen d less' fun returned => alive ?_) other
    exact (List.getElem?_set_ne (Ne.symm other)).trans returned
  offered := by
    intro d raddr offering
    rcases Slots.set_cases offering with ⟨-, impossible⟩ | ⟨-, offering⟩
    · cases impossible
    · exact inv.offered d raddr offering
  won := by
    intro d raddr won
    obtain ⟨had, isOpen, returned⟩ := inv.won d raddr won
    refine ⟨had, isOpen_set isOpen (inv.waiting_ne won receiver running), ?_⟩
    intro r' receiver'
    rcases Slots.set_cases receiver' with ⟨-, rfl⟩ | ⟨-, receiver'⟩
    · rfl
    · exact returned r' receiver'

/-- A goroutine gets its message. -/
theorem Inv.found (inv : Inv s) {c : Nat} (reply : Option GoString) (raddr : UDPAddr)
    (caller : s.caller ≠ .direct) (receiver : s.receivers[c]? = some .waiting) :
    Inv ((s.found c reply raddr).setReceiver c (.offering raddr)) where
  direct direct := absurd direct caller
  started := by
    show (s.receivers.set c _).length ≤ s.listenConns.length
    rw [List.length_set]
    exact inv.started
  isOpen := by
    intro d less alive
    refine inv.isOpen d less fun returned => alive ?_
    have other : c ≠ d := by
      rintro rfl
      rw [receiver] at returned
      cases returned
    exact (List.getElem?_set_ne other).trans returned
  offered := by
    intro d raddr' offering
    apply List.mem_append.2
    rcases Slots.set_cases offering with ⟨rfl, same⟩ | ⟨-, offering⟩
    · cases same
      exact .inr (List.mem_singleton.2 rfl)
    · exact .inl (inv.offered d raddr' offering)
  won := by
    intro d raddr' won
    obtain ⟨had, isOpen, returned⟩ := inv.won d raddr' won
    refine ⟨List.mem_append_left _ had, isOpen, ?_⟩
    intro r' receiver'
    rcases Slots.set_cases receiver' with ⟨rfl, -⟩ | ⟨-, receiver'⟩
    · exact absurd rfl (inv.waiting_ne won receiver (by simp))
    · exact returned r' receiver'

/-- The caller gets the socket that a goroutine offers. -/
theorem Inv.take (inv : Inv s) {c : Nat} {raddr : UDPAddr}
    (receiver : s.receivers[c]? = some (.offering raddr)) :
    Inv { s.setReceiver c .returned with caller := .returned (.ok (c, raddr)) } where
  direct direct := by cases direct
  started := by
    show (s.receivers.set c _).length ≤ s.listenConns.length
    rw [List.length_set]
    exact inv.started
  isOpen := by
    intro d less alive
    refine inv.isOpen d less fun returned => alive ?_
    by_cases same : d = c
    · rw [same]
      exact Slots.set_self receiver
    · exact (List.getElem?_set_ne (Ne.symm same)).trans returned
  offered := by
    intro d raddr' offering
    rcases Slots.set_cases offering with ⟨-, impossible⟩ | ⟨-, offering⟩
    · cases impossible
    · exact inv.offered d raddr' offering
  won := by
    intro d raddr' won
    cases won
    obtain ⟨bound, _⟩ := List.getElem?_eq_some_iff.1 receiver
    refine ⟨inv.offered c raddr receiver, ?_, ?_⟩
    · refine inv.isOpen c (Nat.lt_of_lt_of_le bound inv.started) fun returned => ?_
      rw [receiver] at returned
      cases returned
    · intro r' receiver'
      exact Option.some.inj (receiver'.symm.trans (Slots.set_self receiver))

/-- The caller moves on without a socket. -/
theorem Inv.setCaller (inv : Inv s) {caller : Caller UDPAddr} (direct : caller ≠ .direct)
    (without : ∀ result, caller ≠ .returned (.ok result)) : Inv { s with caller := caller } where
  direct is_direct := absurd is_direct direct
  started := inv.started
  isOpen := inv.isOpen
  offered := inv.offered
  won c raddr won := absurd won (without (c, raddr))

theorem Inv.moves {l : Label UDPAddr} (inv : Inv s) (moves : Moves s l t) : Inv t := by
  cases moves with
  | stay => exact inv
  | fail => exact inv.setCaller (by simp) (by simp)
  | succeed _ reply raddr caller =>
      obtain ⟨conns, receivers, detected⟩ := inv.direct caller
      refine ⟨(by rintro ⟨⟩), inv.started, inv.isOpen, ?_, ?_⟩
      · intro d raddr' offering
        exact List.mem_append_left _ (inv.offered d raddr' offering)
      · intro d raddr' won
        cases won
        refine ⟨List.mem_append_right _ (List.mem_singleton.2 rfl), ?_, ?_⟩
        · show s.listenConns[0]? = some true
          rw [conns]
          rfl
        · intro r receiver
          have none_ : s.receivers[0]? = some r := receiver
          rw [receivers] at none_
          cases none_
  | giveUp _ caller receiver => exact inv.close caller receiver (by simp)
  | found _ reply raddr caller receiver => exact inv.found reply raddr caller receiver
  | go _ caller less =>
      refine ⟨fun direct => absurd (caller.symm.trans direct) (by simp), ?_, ?_, ?_, ?_⟩
      · show (s.receivers ++ [Receiver.waiting]).length ≤ s.listenConns.length
        rw [List.length_append]
        exact less
      · intro d bound alive
        refine inv.isOpen d bound fun returned => alive ?_
        exact Slots.append_old returned
      · intro d raddr offering
        rcases Slots.append_cases offering with offering | ⟨-, impossible⟩
        · exact inv.offered d raddr offering
        · cases impossible
      · intro d raddr won
        cases caller.symm.trans won
  | select => exact inv.setCaller (by simp) (by simp)
  | take _ receiver => exact inv.take receiver
  | drop caller receiver =>
      refine inv.close ?_ receiver (by simp)
      intro direct
      rw [(inv.direct direct).2.1] at receiver
      cases receiver
  | expire => exact inv.setCaller (by simp) (by simp)

theorem Inv.delivers (inv : Inv s) : Delivers s := fun c raddr won =>
  ⟨(inv.won c raddr won).1, (inv.won c raddr won).2.1⟩

/-- No socket that had a message is dropped before the caller returns. -/
theorem offered_of_moves {l : Label UDPAddr} (inv : Inv s) (offered : Offered s)
    (guard : Guard s l) (moves : Moves s l t) : Offered t := by
  intro running c raddr had
  cases moves with
  | stay => exact offered running c raddr had
  | fail => exact absurd ⟨_, rfl⟩ running
  | succeed => exact absurd ⟨_, rfl⟩ running
  | @giveUp _ d caller receiver =>
      have was := offered running c raddr had
      have other : d ≠ c := by
        rintro rfl
        cases receiver.symm.trans was
      exact (List.getElem?_set_ne other).trans was
  | @found _ d reply raddr' caller receiver =>
      rcases List.mem_append.1 had with had | new
      · have was := offered running c raddr had
        have other : d ≠ c := by
          rintro rfl
          cases receiver.symm.trans was
        exact (List.getElem?_set_ne other).trans was
      · cases List.mem_singleton.1 new
        exact Slots.set_self receiver
  | go => exact Slots.append_old (offered running c raddr had)
  | select _ caller =>
      exact offered (not_returned_of_caller caller (by simp)) c raddr had
  | take => exact absurd ⟨_, rfl⟩ running
  | drop caller receiver =>
      cases at_ : s.caller with
      | direct =>
          rw [(inv.direct at_).2.1] at receiver
          cases receiver
      | starting => exact absurd at_ guard
      | selecting => exact absurd at_ caller
      | returned result => exact absurd ⟨result, at_⟩ running
  | expire => exact absurd ⟨_, rfl⟩ running

/-! ## What a run can still reach -/

/-- The caller comes to its `select` whatever the goroutines do. -/
theorem canReach_select (starting : s.caller = .starting) :
    CanReach (step coding m key) (fun u => u.caller = .selecting ∧ u.detected = s.detected ∧
      ∀ (c : Nat) r, s.receivers[c]? = some r → u.receivers[c]? = some r) s := by
  let keeps (u : State UDPAddr) : Prop := (u.caller = .starting ∨ u.caller = .selecting) ∧
    u.detected = s.detected ∧ ∀ (c : Nat) r, s.receivers[c]? = some r → u.receivers[c]? = some r
  let left (u : State UDPAddr) : Nat :=
    (match u.caller with | .starting => 1 | _ => 0) + (u.listenConns.length - u.receivers.length)
  refine canReach_of_measure keeps left ?_ ⟨.inl starting, rfl, fun _ _ receiver => receiver⟩
  rintro u ⟨starting | selecting, detected, receivers⟩ before
  · by_cases less : u.receivers.length < u.listenConns.length
    · refine ⟨.go, { u with receivers := u.receivers ++ [.waiting] }, ?_, ?_, ?_⟩
      · simp only [step, starting, if_pos less]
      · exact ⟨.inl starting, detected, fun c r receiver =>
          Slots.append_old (receivers c r receiver)⟩
      · simp only [left, List.length_append, List.length_singleton]
        omega
    · refine ⟨.select, { u with caller := .selecting }, ?_, ?_, ?_⟩
      · simp only [step, starting, if_neg less]
      · exact ⟨.inr rfl, detected, receivers⟩
      · simp only [left, starting]
        omega
  · exact absurd ⟨selecting, detected, receivers⟩ before

/-- A socket that is offered can be returned. -/
theorem canReach_socket {c : Nat} {raddr : UDPAddr}
    (caller : s.caller = .starting ∨ s.caller = .selecting)
    (receiver : s.receivers[c]? = some (.offering raddr)) :
    CanReach (step coding m key) (fun u => ∃ result, u.caller = .returned (.ok result)) s := by
  have offer : ∀ u : State UDPAddr, u.caller = .selecting →
      u.receivers[c]? = some (.offering raddr) →
      CanReach (step coding m key) (fun u => ∃ result, u.caller = .returned (.ok result)) u := by
    intro u selecting receiver
    have next : step coding m key u (.offer c) =
        some { u.setReceiver c .returned with caller := .returned (.ok (c, raddr)) } := by
      simp only [step, receiver, selecting]
    exact .of_step next (.here ⟨_, rfl⟩)
  rcases caller with starting | selecting
  · exact (canReach_select starting).trans fun u ⟨selecting, _, receivers⟩ =>
      offer u selecting (receivers c _ receiver)
  · exact offer s selecting receiver

theorem keeps_of_guard {l : Label UDPAddr} (inv : Inv s) (offered : Offered s) (guard : Guard s l)
    (next : step coding m key s l = some t) : Keeps coding m key s t := by
  have moves := step_moves next
  have inv' := inv.moves moves
  have offered' := offered_of_moves inv offered guard moves
  refine ⟨inv'.delivers, ?_, ?_⟩
  · intro err running failed
    cases moves with
    | stay => exact absurd ⟨_, failed⟩ running
    | fail _ caller => exact (inv.direct caller).2.2
    | succeed => cases failed
    | giveUp => exact absurd ⟨_, failed⟩ running
    | found => exact absurd ⟨_, failed⟩ running
    | go => exact absurd ⟨_, failed⟩ running
    | select => cases failed
    | take => cases failed
    | drop => exact absurd ⟨_, failed⟩ running
    | expire _ caller late =>
        apply List.eq_nil_iff_forall_not_mem.2
        rintro ⟨c, raddr⟩ had
        have was := offered running c raddr had
        rcases late with rfl | rfl
        · exact guard c raddr was
        · exact guard c raddr was
  · intro some_ running
    obtain ⟨⟨c, raddr⟩, had⟩ := List.exists_mem_of_ne_nil _ some_
    refine canReach_socket ?_ (offered' running c raddr had)
    cases at_ : t.caller with
    | direct => exact absurd (inv'.direct at_).2.2 some_
    | starting => exact .inl rfl
    | selecting => exact .inr rfl
    | returned result => exact absurd ⟨result, at_⟩ running

/-- The timeout returns an error although a socket had a message. -/
theorem not_keeps_of_timeout (selecting : s.caller = .selecting) (had : s.detected ≠ []) :
    ¬ Along (step coding m key) (fun s _ t => Keeps coding m key s t) s [.timeout] := by
  intro along
  have next : step coding m key s .timeout =
      some { s with caller := .returned (.error .timeout) } := by
    simp only [step, selecting]
  exact had ((along _ next).1.error .timeout (not_returned_of_caller selecting (by simp)) rfl)

theorem not_keeps_of_unguarded {l : Label UDPAddr} (inv : Inv s) (unguarded : ¬ Guard s l)
    (next : step coding m key s l = some t) :
    ∃ more, ¬ Along (step coding m key) (fun s _ t => Keeps coding m key s t) s (l :: more) := by
  have late : ∀ err, (∃ (c : Nat) (raddr : UDPAddr), s.receivers[c]? = some (.offering raddr)) →
      s.caller = .selecting → t = { s with caller := .returned (.error err) } →
      ¬ Keeps coding m key s t := by
    rintro err ⟨c, raddr, receiver⟩ selecting rfl keeps
    have none_ := keeps.error err (not_returned_of_caller selecting (by simp)) rfl
    have had := inv.offered c raddr receiver
    rw [show s.detected = [] from none_] at had
    cases had
  cases l with
  | read => exact absurd trivial unguarded
  | go => exact absurd trivial unguarded
  | select => exact absurd trivial unguarded
  | offer c =>
      have starting : s.caller = .starting := not_not.1 unguarded
      simp only [step, starting] at next
      split at next
      · rename_i impossible
        cases impossible
      · rename_i raddr receiver _
        cases next
        have reach : CanReach (step coding m key) _ ((s.setReceiver c .returned).closeConn c) :=
          canReach_select starting
        obtain ⟨more, u, run, selecting, detected, -⟩ := reach
        refine ⟨more ++ [.timeout], fun along => ?_⟩
        have next : step coding m key s (.offer c) =
            some ((s.setReceiver c .returned).closeConn c) := by
          simp only [step, starting, receiver]
        have later := (along_cons_of_some next).1 along
        have had : u.detected ≠ [] := by
          rw [detected]
          exact List.ne_nil_of_mem (inv.offered c raddr receiver)
        exact not_keeps_of_timeout selecting had (later.2.of_append run)
      · cases next
  | timeout =>
      simp only [Guard, not_forall, not_not] at unguarded
      refine ⟨[], fun along => ?_⟩
      have keeps := (along t next).1
      simp only [step] at next
      split at next
      · rename_i selecting
        exact late .timeout unguarded selecting (Option.some.inj next).symm keeps
      · cases next
  | cancel =>
      simp only [Guard, not_forall, not_not] at unguarded
      refine ⟨[], fun along => ?_⟩
      have keeps := (along t next).1
      simp only [step] at next
      split at next
      · rename_i selecting
        exact late .canceled unguarded selecting (Option.some.inj next).symm keeps
      · cases next

end Machine

/-- **A socket that is returned had a message and is open; and a message is never lost** in
the runs in which no goroutine offers before the `select` of the caller, and no timeout or
cancellation comes between a message and its offer.  Any other step leads to an error
although a socket had a message. -/
theorem hole_kept {UDPAddr : Type u} (coding : Coding) (m : NatHoleResp) (key : GoString)
    (listens : List Bool) :
    (∀ ls, Along (step coding m key) (fun _ _ t => Delivers t) (start UDPAddr m listens) ls) ∧
    (∀ ls, Along (step coding m key) (fun s l _ => Guard s l) (start UDPAddr m listens) ls →
      Along (step coding m key) (fun s _ t => Keeps coding m key s t)
        (start UDPAddr m listens) ls) ∧
    ∀ ls s l t, Along (step coding m key) (fun s l _ => Guard s l) (start UDPAddr m listens) ls →
      exec (step coding m key) (start UDPAddr m listens) ls = some s → ¬ Guard s l →
      step coding m key s l = some t →
        ∃ more, ¬ Along (step coding m key) (fun s _ t => Keeps coding m key s t)
          (start UDPAddr m listens) (ls ++ l :: more) := by
  have kept : ∀ (s : State UDPAddr) l t, Inv s ∧ Offered s → Guard s l →
      step coding m key s l = some t →
      Inv t ∧ Offered t := fun _ _ _ inv guard next =>
    ⟨inv.1.moves (step_moves next), offered_of_moves inv.1 inv.2 guard (step_moves next)⟩
  have tight := strengthen_and_tight (fun s : State UDPAddr => Inv s ∧ Offered s) kept
    (fun _ _ _ inv guard next => keeps_of_guard inv.1 inv.2 guard next)
    (fun _ _ _ inv unguarded next => not_keeps_of_unguarded inv.1 unguarded next)
    ⟨start_inv m listens, start_offered m listens⟩
  refine ⟨fun ls => ?_, fun ls => (tight ls).1, fun ls => (tight ls).2⟩
  refine Along.strengthen Inv (fun _ _ _ inv _ next => inv.moves (step_moves next))
    (fun _ _ _ inv _ next => (inv.moves (step_moves next)).delivers) (start_inv m listens)
    (along_of_forall (fun _ _ _ => trivial) _ ls)

/-- Messages that are sent as their sid alone. -/
def plain : Coding := ⟨fun m _ _ => some m.sid, fun data _ => some ⟨[], data, true, []⟩⟩

/-- A receiver that listens on a second socket. -/
def receiverResp : NatHoleResp := ⟨.lit "sid", .lit "receiver", 1⟩

/-- The first goroutine has its message before the caller starts the second one. -/
def firstLost : List (Label GoString) :=
  [.go, .read 0 (some ⟨.lit "sid", .lit "10.0.0.1:7000", []⟩), .offer 0, .go, .select]

theorem first_hole_lost :
    ¬ Along (step plain receiverResp []) (fun s _ t => Keeps plain receiverResp [] s t)
      (start GoString receiverResp [true]) (firstLost ++ [.timeout]) := by
  have run : (exec (step plain receiverResp []) (start GoString receiverResp [true])
      firstLost).map (fun s => (s.caller, s.detected)) =
        some (.selecting, [(0, .lit "10.0.0.1:7000")]) := by
    decide +kernel
  obtain ⟨s, before, found⟩ := Option.map_eq_some_iff.1 run
  simp only [Prod.mk.injEq] at found
  intro along
  exact not_keeps_of_timeout found.1 (by simp [found.2]) (along.of_append before)

end ChmlFrp.Nathole.MakeHole
