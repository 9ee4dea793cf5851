/-
# ChmlFrp.Transport.Message — requests that wait for their answer on a lane

`pkg/transport/message.go`.  `Do` makes a channel for one message, registers it under a
message type and a lane, sends its request and waits; `DispatchWithType` reads the channel
under the lock and puts the message into it without the lock, when the channel may be
closed already or may be full.  The registry is a map of maps; `unregister` keeps the inner
one that `registerMsgChan` used.

A dispatched message is known by its `Dispatch` call, so that two calls with equal
messages are told apart.

* `lanes_correct`: what the calls return in every run in which no two `Do` calls with one
  type and lane overlap, that nothing panics, and that no lane is left.
-/
import ChmlFrp.Lib.Chan
import ChmlFrp.Lib.GoMap
import ChmlFrp.Lib.Transition
import Mathlib.Logic.Function.Basic

namespace ChmlFrp.Transport

set_option autoImplicit false

universe u

open ChmlFrp.Lib
open ChmlFrp.Lib.Transition

/-! ## The machine -/

/-- A message, and the dispatch that put it into a channel. -/
structure Delivery (Message : Type u) where
  call : Nat
  m : Message
  deriving DecidableEq

/-- What `Do` returns; a receive from a closed channel would give no message. -/
inductive Result (Message : Type u) where
  | resp (resp : Option (Delivery Message))
  | sendFailed
  | cancelled

inductive DoPhase (Message : Type u) where
  | begun
  /-- With the inner map of the registry. -/
  | registered (byLaneKey : Nat)
  /-- In the `select`. -/
  | waiting (byLaneKey : Nat)
  /-- The deferred `unregisterFn` is next. -/
  | leaving (byLaneKey : Nat) (result : Result Message)
  /-- The deferred `close` is next. -/
  | closing (result : Result Message)
  | returned (result : Result Message)

namespace DoPhase

variable {Message : Type u}

/-- The inner map in which the lane is registered. -/
def lane? : DoPhase Message → Option Nat
  | .registered byLaneKey => some byLaneKey
  | .waiting byLaneKey => some byLaneKey
  | .leaving byLaneKey _ => some byLaneKey
  | _ => none

/-- What the call has come to, even if it has not returned. -/
def outcome? : DoPhase Message → Option (Result Message)
  | .leaving _ result => some result
  | .closing result => some result
  | .returned result => some result
  | _ => none

def result? : DoPhase Message → Option (Result Message)
  | .returned result => some result
  | _ => none

end DoPhase

structure DoCall (Message : Type u) where
  req : Message
  laneKey : String
  recvMsgType : String
  phase : DoPhase Message

inductive DispatchPhase where
  | begun
  /-- With the channel that was found, that of a `Do`. -/
  | found (ch : Nat)
  /-- `true` if there is a channel the message was put into. -/
  | returned (ch : Option Nat)
  deriving DecidableEq, Repr

def DispatchPhase.ch? : DispatchPhase → Option Nat
  | .begun => none
  | .found ch => some ch
  | .returned ch => ch

structure DispatchCall (Message : Type u) where
  m : Message
  msgType : String
  laneKey : String
  phase : DispatchPhase

/-- The channel of a `Do` is known by its call. -/
structure State (Message : Type u) where
  sendCh : Chan Message
  registry : GoMap String Nat
  /-- The inner maps. -/
  byLaneKey : Nat → GoMap String Nat
  nextMap : Nat
  chs : Nat → Chan (Delivery Message)
  dos : GoMap Nat (DoCall Message)
  nextDo : Nat
  dispatches : GoMap Nat (DispatchCall Message)
  nextDispatch : Nat
  /-- All that was ever put into a channel. -/
  puts : Nat → List (Delivery Message)
  /-- A panic that nothing recovers. -/
  panicked : Bool

section Machine

variable {Message : Type u}

def start (sendCh : Chan Message) : State Message :=
  ⟨sendCh, ∅, fun _ => ∅, 0, fun _ => .make 1, ∅, 0, ∅, 0, fun _ => [], false⟩

namespace State

variable (s : State Message)

def setDo (i : Nat) (d : DoCall Message) : State Message := { s with dos := s.dos.set i d }

def setDispatch (j : Nat) (c : DispatchCall Message) : State Message :=
  { s with dispatches := s.dispatches.set j c }

/-- The two lookups of `DispatchWithType`. -/
def lookup (msgType laneKey : String) : Option Nat :=
  (s.registry.get msgType).bind fun byLaneKey => (s.byLaneKey byLaneKey).get laneKey

/-- `registerMsgChan`: the inner map, and the state with the channel in it. -/
def registerMsgChan (recvCh : Nat) (laneKey msgType : String) : Nat × State Message :=
  match s.registry.get msgType with
  | some byLaneKey =>
      (byLaneKey,
        { s with
          byLaneKey := Function.update s.byLaneKey byLaneKey
            ((s.byLaneKey byLaneKey).set laneKey recvCh) })
  | none =>
      (s.nextMap,
        { s with
          registry := s.registry.set msgType s.nextMap
          byLaneKey := Function.update s.byLaneKey s.nextMap
            ((∅ : GoMap String Nat).set laneKey recvCh)
          nextMap := s.nextMap + 1 })

def unregister (byLaneKey : Nat) (laneKey : String) : State Message :=
  { s with
    byLaneKey := Function.update s.byLaneKey byLaneKey
      ((s.byLaneKey byLaneKey).delete laneKey) }

end State

inductive Label (Message : Type u) where
  | begin_ (req : Message) (laneKey recvMsgType : String)
  | register (i : Nat)
  | send (i : Nat)
  /-- The two cases of the `select`. -/
  | cancel (i : Nat)
  | receive (i : Nat)
  | unregister (i : Nat)
  | close (i : Nat)
  | dispatch (m : Message) (laneKey : String)
  | dispatchWithType (m : Message) (msgType laneKey : String)
  | find (j : Nat)
  | put (j : Nat)
  /-- Others send on `sendCh`, receive from it and close it. -/
  | othersSend (m : Message)
  | othersRecv
  | othersClose

-- `reflect.TypeOf(m).Elem().Name()`
variable (typeName : Message → String)

def step (s : State Message) : Label Message → Option (State Message)
  | .begin_ req laneKey recvMsgType =>
      some
        { s with
          chs := Function.update s.chs s.nextDo (.make 1)
          puts := Function.update s.puts s.nextDo []
          dos := s.dos.set s.nextDo ⟨req, laneKey, recvMsgType, .begun⟩
          nextDo := s.nextDo + 1 }
  | .register i =>
      match s.dos.get i with
      | some ⟨req, laneKey, recvMsgType, .begun⟩ =>
          let (byLaneKey, s) := s.registerMsgChan i laneKey recvMsgType
          some (s.setDo i ⟨req, laneKey, recvMsgType, .registered byLaneKey⟩)
      | _ => none
  | .send i =>
      match s.dos.get i with
      | some ⟨req, laneKey, recvMsgType, .registered byLaneKey⟩ =>
          match s.sendCh.send req with
          | .done sendCh =>
              some
                { s.setDo i ⟨req, laneKey, recvMsgType, .waiting byLaneKey⟩ with
                  sendCh := sendCh }
          | .panics =>
              some (s.setDo i ⟨req, laneKey, recvMsgType, .leaving byLaneKey .sendFailed⟩)
          | .blocks => none
      | _ => none
  | .cancel i =>
      match s.dos.get i with
      | some ⟨req, laneKey, recvMsgType, .waiting byLaneKey⟩ =>
          some (s.setDo i ⟨req, laneKey, recvMsgType, .leaving byLaneKey .cancelled⟩)
      | _ => none
  | .receive i =>
      match s.dos.get i with
      | some ⟨req, laneKey, recvMsgType, .waiting byLaneKey⟩ =>
          match (s.chs i).recv with
          | .done (resp, ch) =>
              some
                { s.setDo i ⟨req, laneKey, recvMsgType, .leaving byLaneKey (.resp resp)⟩ with
                  chs := Function.update s.chs i ch }
          | .panics => some { s with panicked := true }
          | .blocks => none
      | _ => none
  | .unregister i =>
      match s.dos.get i with
      | some ⟨req, laneKey, recvMsgType, .leaving byLaneKey result⟩ =>
          some
            ((s.unregister byLaneKey laneKey).setDo i ⟨req, laneKey, recvMsgType, .closing result⟩)
      | _ => none
  | .close i =>
      match s.dos.get i with
      | some ⟨req, laneKey, recvMsgType, .closing result⟩ =>
          match (s.chs i).close with
          | .done ch =>
              some
                { s.setDo i ⟨req, laneKey, recvMsgType, .returned result⟩ with
                  chs := Function.update s.chs i ch }
          | .panics => some { s with panicked := true }
          | .blocks => none
      | _ => none
  | .dispatch m laneKey =>
      some
        { s with
          dispatches := s.dispatches.set s.nextDispatch ⟨m, typeName m, laneKey, .begun⟩
          nextDispatch := s.nextDispatch + 1 }
  | .dispatchWithType m msgType laneKey =>
      some
        { s with
          dispatches := s.dispatches.set s.nextDispatch ⟨m, msgType, laneKey, .begun⟩
          nextDispatch := s.nextDispatch + 1 }
  | .find j =>
      match s.dispatches.get j with
      | some ⟨m, msgType, laneKey, .begun⟩ =>
          match s.lookup msgType laneKey with
          | none => some (s.setDispatch j ⟨m, msgType, laneKey, .returned none⟩)
          | some ch => some (s.setDispatch j ⟨m, msgType, laneKey, .found ch⟩)
      | _ => none
  | .put j =>
      match s.dispatches.get j with
      | some ⟨m, msgType, laneKey, .found i⟩ =>
          match (s.chs i).send ⟨j, m⟩ with
          | .done ch =>
              some
                { s.setDispatch j ⟨m, msgType, laneKey, .returned (some i)⟩ with
                  chs := Function.update s.chs i ch
                  puts := Function.update s.puts i (s.puts i ++ [⟨j, m⟩]) }
          -- `PanicToError`
          | .panics => some (s.setDispatch j ⟨m, msgType, laneKey, .returned none⟩)
          | .blocks => none
      | _ => none
  | .othersSend m =>
      match s.sendCh.send m with
      | .done sendCh => some { s with sendCh := sendCh }
      | .panics => some s
      | .blocks => none
  | .othersRecv =>
      match s.sendCh.recv with
      | .done (some _, sendCh) => some { s with sendCh := sendCh }
      | _ => none
  | .othersClose =>
      match s.sendCh.close with
      | .done sendCh => some { s with sendCh := sendCh }
      | _ => none

/-- A `Do` begins only when no other one with its type and lane is still running. -/
def Apart (s : State Message) : Label Message → Prop
  | .begin_ _ laneKey recvMsgType => ∀ i ∈ s.dos.keys, ∀ d ∈ s.dos.get i,
      d.phase.result?.isNone = true → ¬ (d.recvMsgType = recvMsgType ∧ d.laneKey = laneKey)
  | _ => True

instance (s : State Message) (l : Label Message) : Decidable (Apart s l) := by
  cases l <;> (unfold Apart; infer_instance)

structure Correct (s : State Message) : Prop where
  /-- `Do` returns only a message that was dispatched with its type and lane. -/
  own : ∀ i d resp, s.dos.get i = some d → d.phase.result? = some (.resp resp) →
    ∃ x c, resp = some x ∧ s.dispatches.get x.call = some c ∧ c.m = x.m ∧
      c.msgType = d.recvMsgType ∧ c.laneKey = d.laneKey
  /-- A dispatched message is returned by one `Do` at most. -/
  once : ∀ i j d d' x x', s.dos.get i = some d → s.dos.get j = some d' →
    d.phase.result? = some (.resp (some x)) → d'.phase.result? = some (.resp (some x')) →
      x.call = x'.call → i = j
  /-- The first message that was put into the channel is the one to be received, -/
  waits : ∀ i d byLaneKey x, s.dos.get i = some d → d.phase = .waiting byLaneKey →
    (s.puts i).head? = some x → ∃ ch, (s.chs i).recv = .done (some x, ch)
  /-- and the one that is returned. -/
  first : ∀ i d result x, s.dos.get i = some d → d.phase.result? = some result →
    (s.puts i).head? = some x →
      result = .resp (some x) ∨ result = .cancelled ∨ result = .sendFailed
  recovered : s.panicked = false
  /-- With all calls of `Do` through, no lane is registered. -/
  clean : (∀ i d, s.dos.get i = some d → d.phase.result?.isSome = true) →
    ∀ msgType laneKey, s.lookup msgType laneKey = none

/-! ## The invariant -/

structure Inv (s : State Message) : Prop where
  dos : ∀ i, s.nextDo ≤ i → s.dos.get i = none
  dispatches : ∀ j, s.nextDispatch ≤ j → s.dispatches.get j = none
  maps : ∀ msgType byLaneKey, s.registry.get msgType = some byLaneKey → byLaneKey < s.nextMap
  /-- Two types have two maps. -/
  apartMaps : ∀ msgType msgType' byLaneKey, s.registry.get msgType = some byLaneKey →
    s.registry.get msgType' = some byLaneKey → msgType = msgType'
  /-- What a `Do` has registered is still there. -/
  lane : ∀ i d byLaneKey, s.dos.get i = some d → d.phase.lane? = some byLaneKey →
    s.registry.get d.recvMsgType = some byLaneKey ∧
      (s.byLaneKey byLaneKey).get d.laneKey = some i
  /-- What is registered is some `Do`'s. -/
  entry : ∀ msgType byLaneKey laneKey i, s.registry.get msgType = some byLaneKey →
    (s.byLaneKey byLaneKey).get laneKey = some i →
      ∃ d, s.dos.get i = some d ∧ d.recvMsgType = msgType ∧ d.laneKey = laneKey ∧
        d.phase.lane? = some byLaneKey
  apart : ∀ i j d d', s.dos.get i = some d → s.dos.get j = some d' →
    d.phase.result? = none → d'.phase.result? = none → d.recvMsgType = d'.recvMsgType →
      d.laneKey = d'.laneKey → i = j
  /-- `Do` closes its channel when it returns. -/
  isOpen : ∀ i d, s.dos.get i = some d → d.phase.result? = none → (s.chs i).closed = false
  /-- Only `Do` takes out of its channel, and it takes the first message. -/
  waits : ∀ i d, s.dos.get i = some d → d.phase.outcome? = none → (s.chs i).buf = s.puts i
  received : ∀ i d resp, s.dos.get i = some d → d.phase.outcome? = some (.resp resp) →
    ∃ x, resp = some x ∧ (s.puts i).head? = some x
  /-- A dispatch has the channel of a `Do` of its type and lane. -/
  target : ∀ j c i, s.dispatches.get j = some c → c.phase.ch? = some i →
    ∃ d, s.dos.get i = some d ∧ d.recvMsgType = c.msgType ∧ d.laneKey = c.laneKey
  put : ∀ i x, x ∈ s.puts i → ∃ c, s.dispatches.get x.call = some c ∧ c.m = x.m ∧
    c.phase = .returned (some i)
  recovered : s.panicked = false

theorem start_inv (sendCh : Chan Message) : Inv (start sendCh) where
  dos i _ := by simp [start]
  dispatches j _ := by simp [start]
  maps msgType byLaneKey found := by simp [start] at found
  apartMaps msgType msgType' byLaneKey found := by simp [start] at found
  lane i d byLaneKey found := by simp [start] at found
  entry msgType byLaneKey laneKey i found := by simp [start] at found
  apart i j d d' found := by simp [start] at found
  isOpen i d found := by simp [start] at found
  waits i d found := by simp [start] at found
  received i d resp found := by simp [start] at found
  target j c i found := by simp [start] at found
  put i x mem := by simp [start] at mem
  recovered := rfl

theorem DoPhase.outcome?_of_result? {phase : DoPhase Message} {result : Result Message}
    (returned : phase.result? = some result) : phase.outcome? = some result := by
  cases phase <;> first | exact returned | cases returned

theorem DoPhase.result?_of_lane? {phase : DoPhase Message} {byLaneKey : Nat}
    (registered : phase.lane? = some byLaneKey) : phase.result? = none := by
  cases phase <;> first | rfl | cases registered

variable {typeName} {s t : State Message}

/-- What was received by a `Do` was dispatched with its type and lane. -/
theorem Inv.of_received (inv : Inv s) {i : Nat} {d : DoCall Message}
    {resp : Option (Delivery Message)} (found : s.dos.get i = some d)
    (received : d.phase.result? = some (.resp resp)) :
    ∃ x c, resp = some x ∧ s.dispatches.get x.call = some c ∧ c.m = x.m ∧
      c.phase = .returned (some i) ∧ c.msgType = d.recvMsgType ∧ c.laneKey = d.laneKey := by
  obtain ⟨x, rfl, first⟩ := inv.received i d resp found (DoPhase.outcome?_of_result? received)
  obtain ⟨c, call, m, phase⟩ := inv.put i x (List.mem_of_head? first)
  obtain ⟨d', found', type_, lane⟩ := inv.target x.call c i call (by rw [phase]; rfl)
  cases found.symm.trans found'
  exact ⟨x, c, rfl, call, m, phase, type_.symm, lane.symm⟩

theorem Inv.correct (inv : Inv s) : Correct s where
  own i d resp found received := by
    obtain ⟨x, c, same, call, m, -, type_, lane⟩ := inv.of_received found received
    exact ⟨x, c, same, call, m, type_, lane⟩
  once i j d d' x x' found found' received received' same := by
    obtain ⟨y, c, here, call, -, phase, -⟩ := inv.of_received found received
    obtain ⟨y', c', there, call', -, phase', -⟩ := inv.of_received found' received'
    cases here
    cases there
    rw [same, call'] at call
    cases call
    rw [phase] at phase'
    cases phase'
    rfl
  waits i d byLaneKey x found waiting first := by
    have buf : (s.chs i).buf = s.puts i := by
      apply inv.waits i d found
      rw [waiting]
      rfl
    obtain ⟨rest, split_⟩ := List.head?_eq_some_iff.1 first
    exact ⟨_, Chan.recv_eq_some_iff.2 ⟨rest, buf.trans split_, rfl⟩⟩
  first i d result x found returned first := by
    cases result with
    | sendFailed => exact .inr (.inr rfl)
    | cancelled => exact .inr (.inl rfl)
    | resp resp =>
        obtain ⟨x', rfl, first'⟩ :=
          inv.received i d resp found (DoPhase.outcome?_of_result? returned)
        cases first.symm.trans first'
        exact .inl rfl
  recovered := inv.recovered
  clean through msgType laneKey := by
    cases registered : s.lookup msgType laneKey with
    | none => rfl
    | some i =>
        obtain ⟨byLaneKey, type_, lane⟩ := Option.bind_eq_some_iff.1 registered
        obtain ⟨d, found, -, -, phase⟩ := inv.entry msgType byLaneKey laneKey i type_ lane
        have returned := through i d found
        rw [DoPhase.result?_of_lane? phase] at returned
        cases returned

/-! ## The steps -/

/-- A `Do` goes on: it may change the inner maps at its own lane, and its channel. -/
theorem Inv.setDo (inv : Inv s) {i : Nat} {d : DoCall Message} {phase : DoPhase Message}
    {ch : Chan (Delivery Message)} {byLaneKey' : Nat → GoMap String Nat}
    (found : s.dos.get i = some d)
    (running : phase.result? = none → d.phase.result? = none ∧ ch.closed = false)
    (lane : ∀ byLaneKey, phase.lane? = some byLaneKey →
      s.registry.get d.recvMsgType = some byLaneKey ∧
        (byLaneKey' byLaneKey).get d.laneKey = some i)
    (entry : ∀ msgType byLaneKey laneKey j, s.registry.get msgType = some byLaneKey →
      (byLaneKey' byLaneKey).get laneKey = some j →
        j = i ∧ d.recvMsgType = msgType ∧ d.laneKey = laneKey ∧ phase.lane? = some byLaneKey ∨
          j ≠ i ∧ (s.byLaneKey byLaneKey).get laneKey = some j)
    (others : ∀ j e byLaneKey, j ≠ i → s.dos.get j = some e → e.phase.lane? = some byLaneKey →
      (byLaneKey' byLaneKey).get e.laneKey = some j)
    (waits : phase.outcome? = none → ch.buf = s.puts i)
    (received : ∀ resp, phase.outcome? = some (.resp resp) →
      ∃ x, resp = some x ∧ (s.puts i).head? = some x) :
    Inv
      { s.setDo i { d with phase := phase } with
        chs := Function.update s.chs i ch
        byLaneKey := byLaneKey' } := by
  have of_running : ∀ {j e}, (s.dos.set i { d with phase := phase }).get j = some e →
      e.phase.result? = none → ∃ e', s.dos.get j = some e' ∧ e'.phase.result? = none ∧
        e'.recvMsgType = e.recvMsgType ∧ e'.laneKey = e.laneKey := by
    intro j e found' is
    rcases GoMap.get_set_eq_some.1 found' with ⟨rfl, rfl⟩ | ⟨-, old⟩
    · exact ⟨d, found, (running is).1, rfl, rfl⟩
    · exact ⟨e, old, is, rfl, rfl⟩
  refine ⟨?_, inv.dispatches, inv.maps, inv.apartMaps, ?_, ?_, ?_, ?_, ?_, ?_, ?_, inv.put,
    inv.recovered⟩
  · intro j large
    exact GoMap.get_set_eq_none found (inv.dos j large)
  · intro j e byLaneKey found' registered
    rcases GoMap.get_set_eq_some.1 found' with ⟨rfl, rfl⟩ | ⟨other, old⟩
    · exact lane byLaneKey registered
    · exact ⟨(inv.lane j e byLaneKey old registered).1, others j e byLaneKey other old registered⟩
  · intro msgType byLaneKey laneKey j type_ there
    rcases entry msgType byLaneKey laneKey j type_ there with
      ⟨rfl, here, key, registered⟩ | ⟨other, there⟩
    · exact ⟨_, GoMap.get_set_eq_some.2 (.inl ⟨rfl, rfl⟩), here, key, registered⟩
    · obtain ⟨e, found', rest⟩ := inv.entry msgType byLaneKey laneKey j type_ there
      exact ⟨e, GoMap.get_set_eq_some.2 (.inr ⟨other, found'⟩), rest⟩
  · intro j k e e' found' found'' is is' sameType sameKey
    obtain ⟨f, old, running, type_, key⟩ := of_running found' is
    obtain ⟨f', old', running', type', key'⟩ := of_running found'' is'
    apply inv.apart j k f f' old old' running running'
    · rw [type_, type', sameType]
    · rw [key, key', sameKey]
  · intro j e found' is
    rcases GoMap.get_set_eq_some.1 found' with ⟨rfl, rfl⟩ | ⟨other, old⟩
    · simp only [Function.update_self]
      exact (running is).2
    · simp only [Function.update_of_ne other]
      exact inv.isOpen j e old is
  · intro j e found' early
    rcases GoMap.get_set_eq_some.1 found' with ⟨rfl, rfl⟩ | ⟨other, old⟩
    · simp only [Function.update_self]
      exact waits early
    · simp only [Function.update_of_ne other]
      exact inv.waits j e old early
  · intro j e resp found' outcome
    rcases GoMap.get_set_eq_some.1 found' with ⟨rfl, rfl⟩ | ⟨-, old⟩
    · exact received resp outcome
    · exact inv.received j e resp old outcome
  · intro j c k call target
    obtain ⟨e, found', type_, key⟩ := inv.target j c k call target
    by_cases same : k = i
    · subst same
      cases found.symm.trans found'
      exact ⟨_, GoMap.get_set_eq_some.2 (.inl ⟨rfl, rfl⟩), type_, key⟩
    · exact ⟨e, GoMap.get_set_eq_some.2 (.inr ⟨same, found'⟩), type_, key⟩

/-- A `Do` goes on within its lane, and may take something out of its channel. -/
theorem Inv.advance (inv : Inv s) {i : Nat} {d : DoCall Message} {phase : DoPhase Message}
    {ch : Chan (Delivery Message)} (found : s.dos.get i = some d)
    (running : phase.result? = none → d.phase.result? = none ∧ ch.closed = false)
    (lane : phase.lane? = d.phase.lane?) (waits : phase.outcome? = none → ch.buf = s.puts i)
    (received : ∀ resp, phase.outcome? = some (.resp resp) →
      ∃ x, resp = some x ∧ (s.puts i).head? = some x) :
    Inv
      { s.setDo i { d with phase := phase } with chs := Function.update s.chs i ch } := by
  refine inv.setDo found running ?_ ?_ ?_ waits received
  · intro byLaneKey registered
    exact inv.lane i d byLaneKey found (lane.symm.trans registered)
  · intro msgType byLaneKey laneKey j type_ there
    obtain ⟨e, found', here, key, registered⟩ :=
      inv.entry msgType byLaneKey laneKey j type_ there
    by_cases same : j = i
    · subst same
      cases found.symm.trans found'
      exact .inl ⟨rfl, here, key, lane.trans registered⟩
    · exact .inr ⟨same, there⟩
  · intro j e byLaneKey _ found' registered
    exact (inv.lane j e byLaneKey found' registered).2

theorem Inv.of_same_ch {i : Nat}
    (inv : Inv { s with chs := Function.update s.chs i (s.chs i) }) : Inv s := by
  rw [Function.update_eq_self] at inv
  exact inv

/-- A step of a `Do` that leaves its channel alone. -/
theorem Inv.advance_same (inv : Inv s) {i : Nat} {d : DoCall Message} {phase : DoPhase Message}
    (found : s.dos.get i = some d) (was : d.phase.outcome? = none)
    (lane : phase.lane? = d.phase.lane?)
    (outcome : ∀ resp, phase.outcome? ≠ some (.resp resp)) :
    Inv (s.setDo i { d with phase := phase }) := by
  have running : d.phase.result? = none := by
    cases result : d.phase.result? with
    | none => rfl
    | some r =>
        rw [DoPhase.outcome?_of_result? result] at was
        cases was
  have isOpen := inv.isOpen i d found running
  exact .of_same_ch (i := i) (inv.advance found (fun _ => ⟨running, isOpen⟩) lane
    (fun _ => inv.waits i d found was) (fun resp is => absurd is (outcome resp)))

theorem Inv.begin_ (inv : Inv s) {req : Message} {laneKey recvMsgType : String}
    (apart : Apart s (.begin_ req laneKey recvMsgType)) :
    Inv
      { s with
        chs := Function.update s.chs s.nextDo (.make 1)
        puts := Function.update s.puts s.nextDo []
        dos := s.dos.set s.nextDo ⟨req, laneKey, recvMsgType, .begun⟩
        nextDo := s.nextDo + 1 } := by
  have fresh := inv.dos s.nextDo (Nat.le_refl _)
  have still : ∀ {j e}, s.dos.get j = some e →
      (s.dos.set s.nextDo ⟨req, laneKey, recvMsgType, .begun⟩).get j = some e :=
    GoMap.get_set_of_fresh fresh
  have alone : ∀ {j e}, s.dos.get j = some e → e.phase.result? = none →
      e.recvMsgType = recvMsgType → e.laneKey = laneKey → False := by
    intro j e found running sameType sameKey
    exact apart j (GoMap.mem_keys_iff.2 ⟨e, found⟩) e found (Option.isNone_iff_eq_none.2 running)
      ⟨sameType, sameKey⟩
  refine ⟨?_, inv.dispatches, inv.maps, inv.apartMaps, ?_, ?_, ?_, ?_, ?_, ?_, ?_, ?_,
    inv.recovered⟩
  · intro j large
    have later : j ≠ s.nextDo := Nat.ne_of_gt large
    simp only [GoMap.get_set, if_neg later]
    exact inv.dos j (Nat.le_of_succ_le large)
  · intro j e byLaneKey found registered
    rcases GoMap.get_set_eq_some.1 found with ⟨rfl, rfl⟩ | ⟨-, found⟩
    · cases registered
    · exact inv.lane j e byLaneKey found registered
  · intro msgType byLaneKey laneKey' j type_ there
    obtain ⟨e, found, rest⟩ := inv.entry msgType byLaneKey laneKey' j type_ there
    exact ⟨e, still found, rest⟩
  · intro j k e e' found found' running running' sameType sameKey
    rcases GoMap.get_set_eq_some.1 found with ⟨rfl, rfl⟩ | ⟨-, found⟩
    · rcases GoMap.get_set_eq_some.1 found' with ⟨rfl, -⟩ | ⟨-, found'⟩
      · rfl
      · exact (alone found' running' sameType.symm sameKey.symm).elim
    · rcases GoMap.get_set_eq_some.1 found' with ⟨rfl, rfl⟩ | ⟨-, found'⟩
      · exact (alone found running sameType sameKey).elim
      · exact inv.apart j k e e' found found' running running' sameType sameKey
  · intro j e found running
    rcases GoMap.get_set_eq_some.1 found with ⟨rfl, rfl⟩ | ⟨other, found⟩
    · simp only [Function.update_self]
      rfl
    · simp only [Function.update_of_ne other]
      exact inv.isOpen j e found running
  · intro j e found early
    rcases GoMap.get_set_eq_some.1 found with ⟨rfl, rfl⟩ | ⟨other, found⟩
    · simp only [Function.update_self]
      rfl
    · simp only [Function.update_of_ne other]
      exact inv.waits j e found early
  · intro j e resp found outcome
    rcases GoMap.get_set_eq_some.1 found with ⟨rfl, rfl⟩ | ⟨other, found⟩
    · cases outcome
    · simp only [Function.update_of_ne other]
      exact inv.received j e resp found outcome
  · intro j c k call ch
    obtain ⟨e, found, rest⟩ := inv.target j c k call ch
    exact ⟨e, still found, rest⟩
  · intro j x mem
    by_cases same : j = s.nextDo
    · subst same
      simp only [Function.update_self, List.not_mem_nil] at mem
    · simp only [Function.update_of_ne same] at mem
      exact inv.put j x mem

/-- A new inner map is empty. -/
theorem Inv.makeMap (inv : Inv s) {msgType : String} (new : s.registry.get msgType = none) :
    Inv
      { s with
        registry := s.registry.set msgType s.nextMap
        byLaneKey := Function.update s.byLaneKey s.nextMap ∅
        nextMap := s.nextMap + 1 } := by
  have old : ∀ {msgType' byLaneKey}, s.registry.get msgType' = some byLaneKey →
      byLaneKey ≠ s.nextMap :=
    fun found => Nat.ne_of_lt (inv.maps _ _ found)
  refine ⟨inv.dos, inv.dispatches, ?_, ?_, ?_, ?_, inv.apart, inv.isOpen, inv.waits,
    inv.received, inv.target, inv.put, inv.recovered⟩
  · intro msgType' byLaneKey found
    rcases GoMap.get_set_eq_some.1 found with ⟨-, rfl⟩ | ⟨-, found⟩
    · exact Nat.lt_succ_self _
    · exact Nat.lt_succ_of_lt (inv.maps msgType' byLaneKey found)
  · intro msgType' msgType'' byLaneKey found found'
    rcases GoMap.get_set_eq_some.1 found with ⟨rfl, rfl⟩ | ⟨-, found⟩
    · rcases GoMap.get_set_eq_some.1 found' with ⟨rfl, -⟩ | ⟨-, found'⟩
      · rfl
      · exact absurd rfl (old found')
    · rcases GoMap.get_set_eq_some.1 found' with ⟨-, rfl⟩ | ⟨-, found'⟩
      · exact absurd rfl (old found)
      · exact inv.apartMaps msgType' msgType'' byLaneKey found found'
  · intro i d byLaneKey found registered
    obtain ⟨type_, lane⟩ := inv.lane i d byLaneKey found registered
    have other : d.recvMsgType ≠ msgType := by
      intro same
      rw [same, new] at type_
      cases type_
    refine ⟨GoMap.get_set_eq_some.2 (.inr ⟨other, type_⟩), ?_⟩
    simp only [Function.update_of_ne (old type_)]
    exact lane
  · intro msgType' byLaneKey laneKey i found there
    rcases GoMap.get_set_eq_some.1 found with ⟨rfl, rfl⟩ | ⟨-, found⟩
    · simp only [Function.update_self, GoMap.get_empty] at there
      cases there
    · simp only [Function.update_of_ne (old found)] at there
      exact inv.entry msgType' byLaneKey laneKey i found there

/-- A `Do` registers its lane in the inner map of its type. -/
theorem Inv.register (inv : Inv s) {i byLaneKey : Nat} {d : DoCall Message}
    (found : s.dos.get i = some d) (begun : d.phase = .begun)
    (type_ : s.registry.get d.recvMsgType = some byLaneKey) :
    Inv
      { s.setDo i { d with phase := .registered byLaneKey } with
        byLaneKey := Function.update s.byLaneKey byLaneKey
          ((s.byLaneKey byLaneKey).set d.laneKey i) } := by
  have running : d.phase.result? = none := by
    rw [begun]
    rfl
  have alone : ∀ {j e}, s.dos.get j = some e → e.phase.lane? = some byLaneKey →
      e.laneKey = d.laneKey → j = i := by
    intro j e found' registered sameKey
    have sameType : e.recvMsgType = d.recvMsgType :=
      inv.apartMaps _ _ byLaneKey (inv.lane j e byLaneKey found' registered).1 type_
    exact inv.apart j i e d found' found (DoPhase.result?_of_lane? registered) running sameType
      sameKey
  have not_self : ∀ {msgType byLaneKey' laneKey}, s.registry.get msgType = some byLaneKey' →
      (s.byLaneKey byLaneKey').get laneKey ≠ some i := by
    intro msgType byLaneKey' laneKey type' there
    obtain ⟨e, found', -, -, registered⟩ := inv.entry _ _ _ _ type' there
    cases found.symm.trans found'
    rw [begun] at registered
    cases registered
  have early : d.phase.outcome? = none := by
    rw [begun]
    rfl
  have isOpen := inv.isOpen i d found running
  refine .of_same_ch (i := i) (inv.setDo found (fun _ => ⟨running, isOpen⟩) ?_ ?_ ?_
    (fun _ => inv.waits i d found early) (fun resp is => by cases is))
  · intro byLaneKey' registered
    cases registered
    simp only [Function.update_self, GoMap.get_set, if_true]
    exact ⟨type_, trivial⟩
  · intro msgType byLaneKey' laneKey j type' there
    by_cases same : byLaneKey' = byLaneKey
    · subst same
      simp only [Function.update_self] at there
      rcases GoMap.get_set_eq_some.1 there with ⟨rfl, rfl⟩ | ⟨-, old⟩
      · exact .inl ⟨rfl, inv.apartMaps _ _ _ type_ type', rfl, rfl⟩
      · refine .inr ⟨?_, old⟩
        rintro rfl
        exact not_self type' old
    · simp only [Function.update_of_ne same] at there
      refine .inr ⟨?_, there⟩
      rintro rfl
      exact not_self type' there
  · intro j e byLaneKey' other found' registered
    have there := (inv.lane j e byLaneKey' found' registered).2
    by_cases same : byLaneKey' = byLaneKey
    · subst same
      have key : e.laneKey ≠ d.laneKey := fun sameKey => other (alone found' registered sameKey)
      simp only [Function.update_self]
      exact GoMap.get_set_eq_some.2 (.inr ⟨key, there⟩)
    · simp only [Function.update_of_ne same]
      exact there

theorem Inv.unregister (inv : Inv s) {i byLaneKey : Nat} {d : DoCall Message}
    {result : Result Message} (found : s.dos.get i = some d)
    (leaving : d.phase = .leaving byLaneKey result) :
    Inv
      { s.setDo i { d with phase := .closing result } with
        byLaneKey := Function.update s.byLaneKey byLaneKey
          ((s.byLaneKey byLaneKey).delete d.laneKey) } := by
  have running : d.phase.result? = none := by
    rw [leaving]
    rfl
  have own : d.phase.lane? = some byLaneKey := by
    rw [leaving]
    rfl
  have isOpen := inv.isOpen i d found running
  refine .of_same_ch (i := i) (inv.setDo found (fun _ => ⟨running, isOpen⟩) ?_ ?_ ?_ ?_ ?_)
  · intro byLaneKey' registered
    cases registered
  · intro msgType byLaneKey' laneKey j type' there
    by_cases same : byLaneKey' = byLaneKey
    · subst same
      simp only [Function.update_self] at there
      obtain ⟨key, old⟩ := GoMap.get_delete_eq_some.1 there
      refine .inr ⟨?_, old⟩
      rintro rfl
      obtain ⟨e, found', -, sameKey, -⟩ := inv.entry _ _ _ _ type' old
      cases found.symm.trans found'
      exact key sameKey.symm
    · simp only [Function.update_of_ne same] at there
      refine .inr ⟨?_, there⟩
      rintro rfl
      obtain ⟨e, found', -, -, registered⟩ := inv.entry _ _ _ _ type' there
      cases found.symm.trans found'
      exact same (Option.some.inj (registered.symm.trans own))
  · intro j e byLaneKey' other found' registered
    have there := (inv.lane j e byLaneKey' found' registered).2
    by_cases same : byLaneKey' = byLaneKey
    · subst same
      have key : e.laneKey ≠ d.laneKey := by
        intro sameKey
        apply other
        have here := (inv.lane i d byLaneKey' found own).2
        rw [sameKey, here] at there
        exact (Option.some.inj there).symm
      simp only [Function.update_self]
      exact GoMap.get_delete_eq_some.2 ⟨key, there⟩
    · simp only [Function.update_of_ne same]
      exact there
  · intro early
    cases early
  · intro resp is
    exact inv.received i d resp found (by rw [leaving]; exact is)

/-- A dispatch that has put nothing yet goes on, with the channel of a `Do` of its lane. -/
theorem Inv.setDispatch (inv : Inv s) {j : Nat} {c : DispatchCall Message}
    {phase : DispatchPhase} (found : s.dispatches.get j = some c)
    (early : ∀ i, c.phase ≠ .returned (some i))
    (target : ∀ i, phase.ch? = some i →
      ∃ d, s.dos.get i = some d ∧ d.recvMsgType = c.msgType ∧ d.laneKey = c.laneKey) :
    Inv (s.setDispatch j { c with phase := phase }) := by
  refine ⟨inv.dos, ?_, inv.maps, inv.apartMaps, inv.lane, inv.entry, inv.apart, inv.isOpen,
    inv.waits, inv.received, ?_, ?_, inv.recovered⟩
  · intro k large
    exact GoMap.get_set_eq_none found (inv.dispatches k large)
  · intro k c' i call ch
    rcases GoMap.get_set_eq_some.1 call with ⟨rfl, rfl⟩ | ⟨-, old⟩
    · exact target i ch
    · exact inv.target k c' i old ch
  · intro i x mem
    obtain ⟨c', call, m, phase'⟩ := inv.put i x mem
    have other : x.call ≠ j := by
      rintro rfl
      cases found.symm.trans call
      exact early i phase'
    exact ⟨c', GoMap.get_set_eq_some.2 (.inr ⟨other, call⟩), m, phase'⟩

/-- The message goes into the channel, after those that are there. -/
theorem Inv.deliver (inv : Inv s) {i j : Nat} {c : DispatchCall Message}
    (found : s.dispatches.get j = some c) (phase : c.phase = .found i) :
    Inv
      { s.setDispatch j { c with phase := .returned (some i) } with
        chs := Function.update s.chs i { s.chs i with buf := (s.chs i).buf ++ [⟨j, c.m⟩] }
        puts := Function.update s.puts i (s.puts i ++ [⟨j, c.m⟩]) } := by
  have own := inv.target j c i found (by rw [phase]; rfl)
  refine ⟨inv.dos, ?_, inv.maps, inv.apartMaps, inv.lane, inv.entry, inv.apart, ?_, ?_, ?_, ?_,
    ?_, inv.recovered⟩
  · intro k large
    exact GoMap.get_set_eq_none found (inv.dispatches k large)
  · intro k d found' running
    by_cases same : k = i
    · subst same
      simp only [Function.update_self]
      exact inv.isOpen k d found' running
    · simp only [Function.update_of_ne same]
      exact inv.isOpen k d found' running
  · intro k d found' early
    by_cases same : k = i
    · subst same
      simp only [Function.update_self]
      rw [inv.waits k d found' early]
    · simp only [Function.update_of_ne same]
      exact inv.waits k d found' early
  · intro k d resp found' outcome
    obtain ⟨x, here, first⟩ := inv.received k d resp found' outcome
    refine ⟨x, here, ?_⟩
    by_cases same : k = i
    · subst same
      simp only [Function.update_self]
      rw [List.head?_append, first]
      rfl
    · simp only [Function.update_of_ne same]
      exact first
  · intro k c' i' call ch
    rcases GoMap.get_set_eq_some.1 call with ⟨rfl, rfl⟩ | ⟨-, old⟩
    · cases ch
      exact own
    · exact inv.target k c' i' old ch
  · intro k x mem
    have put : x ∈ s.puts k → ∃ c', (s.dispatches.set j
        { c with phase := .returned (some i) }).get x.call = some c' ∧ c'.m = x.m ∧
          c'.phase = .returned (some k) := by
      intro mem
      obtain ⟨c', call, m, phase'⟩ := inv.put k x mem
      have other : x.call ≠ j := by
        rintro rfl
        cases found.symm.trans call
        rw [phase] at phase'
        cases phase'
      exact ⟨c', GoMap.get_set_eq_some.2 (.inr ⟨other, call⟩), m, phase'⟩
    by_cases same : k = i
    · subst same
      simp only [Function.update_self, List.mem_append, List.mem_singleton] at mem
      rcases mem with old | rfl
      · exact put old
      · exact ⟨_, GoMap.get_set_eq_some.2 (.inl ⟨rfl, rfl⟩), rfl, rfl⟩
    · simp only [Function.update_of_ne same] at mem
      exact put mem

theorem Inv.beginDispatch (inv : Inv s) (m : Message) (msgType laneKey : String) :
    Inv
      { s with
        dispatches := s.dispatches.set s.nextDispatch ⟨m, msgType, laneKey, .begun⟩
        nextDispatch := s.nextDispatch + 1 } := by
  refine ⟨inv.dos, ?_, inv.maps, inv.apartMaps, inv.lane, inv.entry, inv.apart, inv.isOpen,
    inv.waits, inv.received, ?_, ?_, inv.recovered⟩
  · intro k large
    have later : k ≠ s.nextDispatch := Nat.ne_of_gt large
    simp only [GoMap.get_set, if_neg later]
    exact inv.dispatches k (Nat.le_of_succ_le large)
  · intro k c i call ch
    rcases GoMap.get_set_eq_some.1 call with ⟨-, rfl⟩ | ⟨-, old⟩
    · cases ch
    · exact inv.target k c i old ch
  · intro i x mem
    obtain ⟨c, call, m, phase⟩ := inv.put i x mem
    have fresh := inv.dispatches s.nextDispatch (Nat.le_refl _)
    exact ⟨c, GoMap.get_set_of_fresh fresh call, m, phase⟩

theorem Inv.setSendCh (inv : Inv s) (sendCh : Chan Message) : Inv { s with sendCh := sendCh } :=
  ⟨inv.dos, inv.dispatches, inv.maps, inv.apartMaps, inv.lane, inv.entry, inv.apart, inv.isOpen,
    inv.waits, inv.received, inv.target, inv.put, inv.recovered⟩

theorem register_inv (inv : Inv s) {i : Nat} (next : step typeName s (.register i) = some t) :
    Inv t := by
  simp only [step, State.registerMsgChan] at next
  split at next
  · rename_i req laneKey recvMsgType found
    cases type_ : s.registry.get recvMsgType with
    | some byLaneKey =>
        rw [type_] at next
        cases next
        exact inv.register found rfl type_
    | none =>
        rw [type_] at next
        cases next
        have mapped := (inv.makeMap type_).register found rfl
          (GoMap.get_set_eq_some.2 (.inl ⟨rfl, rfl⟩))
        simp only [Function.update_idem, Function.update_self] at mapped
        exact mapped
  · cases next

theorem step_inv (s : State Message) (l : Label Message) (t : State Message) (inv : Inv s)
    (apart : Apart s l) (next : step typeName s l = some t) : Inv t := by
  cases l with
  | begin_ req laneKey recvMsgType =>
      cases next
      exact inv.begin_ apart
  | register i => exact register_inv inv next
  | send i =>
      simp only [step] at next
      split at next
      · rename_i found
        split at next
        · rename_i sendCh _
          cases next
          refine (inv.advance_same found ?_ ?_ ?_).setSendCh sendCh
          · rfl
          · rfl
          · intro resp is
            cases is
        · cases next
          exact inv.advance_same found rfl rfl fun resp is => by cases is
        · cases next
      · cases next
  | cancel i =>
      simp only [step] at next
      split at next
      · rename_i found
        cases next
        exact inv.advance_same found rfl rfl fun resp is => by cases is
      · cases next
  | receive i =>
      simp only [step] at next
      split at next
      · rename_i found
        have isOpen := inv.isOpen i _ found rfl
        split at next
        · rename_i resp ch received
          cases next
          cases resp with
          | none =>
              have closed := (Chan.recv_eq_none_iff.1 received).2.1
              rw [isOpen] at closed
              cases closed
          | some x =>
              obtain ⟨rest, buf, rfl⟩ := Chan.recv_eq_some_iff.1 received
              refine inv.advance found (fun _ => ⟨rfl, isOpen⟩) rfl (fun early => by cases early) ?_
              intro resp is
              cases is
              refine ⟨x, rfl, ?_⟩
              rw [← inv.waits i _ found rfl, buf]
              rfl
        · rename_i received
          simp only [Chan.recv] at received
          split at received
          · cases received
          · split at received <;> cases received
        · cases next
      · cases next
  | unregister i =>
      simp only [step] at next
      split at next
      · rename_i found
        cases next
        exact inv.unregister found rfl
      · cases next
  | close i =>
      simp only [step] at next
      split at next
      · rename_i found
        have isOpen := inv.isOpen i _ found rfl
        split at next
        · rename_i ch closed
          cases next
          refine inv.advance found (fun running => by cases running) rfl
            (fun early => by cases early) ?_
          intro resp is
          exact inv.received i _ resp found is
        · rename_i panics
          simp only [Chan.close, isOpen] at panics
          cases panics
        · cases next
      · cases next
  | dispatch m laneKey =>
      cases next
      exact inv.beginDispatch m (typeName m) laneKey
  | dispatchWithType m msgType laneKey =>
      cases next
      exact inv.beginDispatch m msgType laneKey
  | find j =>
      simp only [step] at next
      split at next
      · rename_i m msgType laneKey found
        split at next
        · cases next
          exact inv.setDispatch found (fun i is => by cases is) (fun i is => by cases is)
        · rename_i i there
          cases next
          refine inv.setDispatch found (fun i is => by cases is) ?_
          intro i' is
          cases is
          obtain ⟨byLaneKey, type_, lane⟩ := Option.bind_eq_some_iff.1 there
          obtain ⟨d, own, sameType, sameKey, -⟩ := inv.entry _ _ _ _ type_ lane
          exact ⟨d, own, sameType, sameKey⟩
      · cases next
  | put j =>
      simp only [step] at next
      split at next
      · rename_i m msgType laneKey i found
        split at next
        · rename_i ch sent
          cases next
          obtain ⟨-, -, rfl⟩ := Chan.send_eq_done_iff.1 sent
          exact inv.deliver found rfl
        · cases next
          exact inv.setDispatch found (fun i is => by cases is) (fun i is => by cases is)
        · cases next
      · cases next
  | othersSend m =>
      simp only [step] at next
      split at next
      · cases next
        exact inv.setSendCh _
      · cases next
        exact inv
      · cases next
  | othersRecv =>
      simp only [step] at next
      split at next
      · cases next
        exact inv.setSendCh _
      · cases next
  | othersClose =>
      simp only [step] at next
      split at next
      · cases next
        exact inv.setSendCh _
      · cases next

end Machine

/-- **The calls on the lanes are correct in every run** in which no two calls of `Do` with
one type and lane overlap. -/
theorem lanes_correct {Message : Type u} (typeName : Message → String) (sendCh : Chan Message)
    (ls : List (Label Message))
    (apart : Along (step typeName) (fun s l _ => Apart s l) (start sendCh) ls) :
    Along (step typeName) (fun _ _ t => Correct t) (start sendCh) ls := by
  have correct : ∀ s l t, Inv s → Apart s l → step typeName s l = some t → Correct t :=
    fun s l t inv apart next => (step_inv s l t inv apart next).correct
  exact Along.strengthen Inv step_inv correct (start_inv sendCh) apart

/-- One lane twice, with a message for the first call that comes too late. -/
def laneTwice : List (Label String) :=
  [.begin_ "NatHoleVisitor" "t" "NatHoleResp", .register 0, .send 0,
    .dispatch "NatHoleResp" "t", .find 0, .put 0, .dispatch "NatHoleResp" "t", .find 1,
    .receive 0, .unregister 0, .close 0,
    .begin_ "NatHoleVisitor" "t" "NatHoleResp", .register 1, .put 1, .send 1, .cancel 1,
    .unregister 1, .close 1]

theorem lanes_correct_twice :
    Along (step id) (fun _ _ t => Correct t) (start (.make 10)) laneTwice :=
  lanes_correct id (.make 10) laneTwice (by decide)

end ChmlFrp.Transport
