/-
# ChmlFrp.Server.Ports — which ports the server hands out

`server/ports/ports.go`.  A `PortCtx` is shared by `usedPorts`, where it stands under
its port, and by `reservedPorts`, where it stands under the name of the proxy, so the
manager carries a heap of them.  What Go leaves open is an argument of the call: the
time, the order in which `range` visits a map, and the answers of the probe.

A session is a run of calls together with the ports that were returned and not yet
released.

* `ports_exclusive_iff`: exactly in those sessions that never ask for a reserved port
  while it is still held, and find it available, is every returned port a new one.
* `reserved_port_handed_out_twice`: two calls under one name get the same port.
-/
import ChmlFrp.Lib.GoMap
import ChmlFrp.Lib.Transition

namespace ChmlFrp.Server.Ports

set_option autoImplicit false

open ChmlFrp.Lib
open ChmlFrp.Lib.Transition

def minPort : Nat := 1
def maxPort : Nat := 65535
/-- In nanoseconds. -/
def maxPortReservedDuration : Nat := 24 * 60 * 60 * 1000000000
def maxTryTimes : Nat := 5

inductive Err where
  | portAlreadyUsed
  | portNotAllowed
  | portUnAvailable
  | noAvailablePort
  deriving DecidableEq, Repr

structure PortCtx where
  proxyName : String
  port : Int
  closed : Bool
  updateTime : Nat
  deriving DecidableEq, Repr

structure Manager where
  reservedPorts : GoMap String Nat
  usedPorts : GoMap Int Nat
  freePorts : Finset Int
  heap : Nat → PortCtx
  /-- The address of the next `PortCtx`. -/
  next : Nat

/-- The ports a manager is given: all of them if the allow list is empty. -/
def allowSet (allowPorts : Finset Int) : Finset Int :=
  if 0 < allowPorts.card then allowPorts
  else ((List.range' minPort (maxPort + 1 - minPort)).map Int.ofNat).toFinset

def newManager (allowPorts : Finset Int) : Manager where
  reservedPorts := ∅
  usedPorts := ∅
  freePorts := allowSet allowPorts
  heap := fun _ => ⟨"", 0, false, 0⟩
  next := 0

/-- The answers of `isPortAvailable` in one call: the reserved or the specified port
is asked about at 0, the `count`-th port of the random loop at `count`. -/
abbrev Probe := Nat → Int → Bool

/-- The loop over `freePorts`: the first available one of at most `maxTryTimes`. -/
def tryRandom (probe : Probe) : Nat → List Int → Option Int
  | _, [] => none
  | count, k :: order =>
      if maxTryTimes < count + 1 then none
      else if probe (count + 1) k then some k
      else tryRandom probe (count + 1) order

namespace Manager

def alloc (pm : Manager) (ctx : PortCtx) : Manager :=
  { pm with heap := Function.update pm.heap pm.next ctx, next := pm.next + 1 }

/-- The three writes every successful path makes. -/
def take (pm : Manager) (name : String) (realPort : Int) (portCtx : Nat) : Manager :=
  { pm with
    usedPorts := pm.usedPorts.set realPort portCtx
    reservedPorts := pm.reservedPorts.set name portCtx
    freePorts := pm.freePorts.erase realPort }

/-- The deferred write of a call that returns no error. -/
def setPort (pm : Manager) (portCtx : Nat) (realPort : Int) : Manager :=
  { pm with heap :=
      Function.update pm.heap portCtx { pm.heap portCtx with port := realPort } }

/-- The port reserved for the name, if the call takes that path. -/
def reservedPort (pm : Manager) (name : String) (port : Int) (probe : Probe) : Option Int :=
  if port = 0 then
    match pm.reservedPorts.get name with
    | some ctx => if probe 0 (pm.heap ctx).port then some (pm.heap ctx).port else none
    | none => none
  else none

/-- `Manager.Acquire` -/
def acquire (pm : Manager) (name : String) (port : Int) (now : Nat) (order : List Int)
    (probe : Probe) : Manager × Except Err Int :=
  let portCtx := pm.next
  let fresh := pm.alloc ⟨name, 0, false, now⟩
  match pm.reservedPort name port probe with
  | some realPort => ((fresh.take name realPort portCtx).setPort portCtx realPort, .ok realPort)
  | none =>
      if port = 0 then
        match tryRandom probe 0 order with
        | some k =>
            -- Port 0 is taken out of `freePorts` and reads as no port afterwards.
            if k = 0 then (fresh.take name k portCtx, .error .noAvailablePort)
            else ((fresh.take name k portCtx).setPort portCtx k, .ok k)
        | none => (fresh, .error .noAvailablePort)
      else if port ∈ pm.freePorts then
        if probe 0 port then
          ((fresh.take name port portCtx).setPort portCtx port, .ok port)
        else (fresh, .error .portUnAvailable)
      else if pm.usedPorts.get port ≠ none then (fresh, .error .portAlreadyUsed)
      else (fresh, .error .portNotAllowed)

/-- `Manager.Release` -/
def release (pm : Manager) (port : Int) (now : Nat) : Manager :=
  match pm.usedPorts.get port with
  | some ctx =>
      { pm with
        freePorts := insert port pm.freePorts
        usedPorts := pm.usedPorts.delete port
        heap := Function.update pm.heap ctx
          { pm.heap ctx with closed := true, updateTime := now } }
  | none => pm

/-- One round of `cleanReservedPortsWorker`, over the names in the order of `range`. -/
def cleanReservedPorts (now : Nat) : Manager → List String → Manager
  | pm, [] => pm
  | pm, name :: order =>
      match pm.reservedPorts.get name with
      | some ctx =>
          if (pm.heap ctx).closed ∧ maxPortReservedDuration < now - (pm.heap ctx).updateTime then
            cleanReservedPorts now
              { pm with reservedPorts := pm.reservedPorts.delete name } order
          else cleanReservedPorts now pm order
      | none => cleanReservedPorts now pm order

end Manager

/-! ## Sessions -/

structure Session where
  pm : Manager
  /-- The ports returned and not yet released. -/
  held : Finset Int

inductive Label where
  | acquire (name : String) (port : Int) (now : Nat) (order : List Int) (probe : Probe)
  | release (port : Int) (now : Nat)
  | clean (now : Nat) (order : List String)

def start (allowPorts : Finset Int) : Session := ⟨newManager allowPorts, ∅⟩

/-- The port the call returns. -/
def returned (s : Session) : Label → Option Int
  | .acquire name port now order probe => (s.pm.acquire name port now order probe).2.toOption
  | _ => none

def step (s : Session) : Label → Option Session
  | .acquire name port now order probe =>
      if order.Nodup ∧ order.toFinset = s.pm.freePorts then
        some
          { pm := (s.pm.acquire name port now order probe).1
            held := match returned s (.acquire name port now order probe) with
              | some p => insert p s.held
              | none => s.held }
      else none
  | .release port now => some ⟨s.pm.release port now, s.held.erase port⟩
  | .clean now order =>
      if order.Nodup ∧ order.toFinset = s.pm.reservedPorts.keys then
        some { s with pm := s.pm.cleanReservedPorts now order }
      else none

/-- The call returns no port that is held; the maps split the allow set. -/
def Exclusive (allow : Finset Int) (s : Session) (l : Label) (t : Session) : Prop :=
  (∀ p, returned s l = some p → p ∉ s.held) ∧
    Disjoint t.pm.freePorts t.pm.usedPorts.keys ∧
    t.pm.freePorts ∪ t.pm.usedPorts.keys = allow

/-- The call asks for any port under a name whose reserved port is held by somebody,
and the probe finds that port available. -/
def ReservationHeld (s : Session) : Label → Prop
  | .acquire name port _ _ probe =>
      port = 0 ∧ ∃ ctx, s.pm.reservedPorts.get name = some ctx ∧
        (s.pm.heap ctx).port ∈ s.held ∧ probe 0 (s.pm.heap ctx).port = true
  | _ => False

/-! ## What a call finds -/

/-- `range` comes to the port among the first five, and finds no available one before. -/
def FirstAvailable (probe : Probe) (order : List Int) (p : Int) : Prop :=
  ∃ before after, order = before ++ p :: after ∧ before.length < maxTryTimes ∧
    probe (before.length + 1) p = true ∧
    ∀ i q, before[i]? = some q → probe (i + 1) q = false

/-- The port is reserved under the name, and available. -/
def ReservedAt (pm : Manager) (name : String) (probe : Probe) (p : Int) : Prop :=
  ∃ ctx, pm.reservedPorts.get name = some ctx ∧ (pm.heap ctx).port = p ∧ probe 0 p = true

/-- The port that a call is to return. -/
inductive Grants (pm : Manager) (name : String) (port : Int) (order : List Int) (probe : Probe) :
    Int → Prop where
  | reserved {p : Int} (any : port = 0) (at_ : ReservedAt pm name probe p) :
      Grants pm name port order probe p
  | random {p : Int} (any : port = 0) (unreserved : ∀ q, ¬ ReservedAt pm name probe q)
      (first : FirstAvailable probe order p) (positive : p ≠ 0) :
      Grants pm name port order probe p
  | specified (given : port ≠ 0) (free : port ∈ pm.freePorts) (available : probe 0 port = true) :
      Grants pm name port order probe port

/-- The random loop stops at port 0, which then reads as no port. -/
def DrawsZero (pm : Manager) (name : String) (port : Int) (order : List Int) (probe : Probe) :
    Prop :=
  port = 0 ∧ (∀ q, ¬ ReservedAt pm name probe q) ∧ FirstAvailable probe order 0

/-! ## What a call does to the maps -/

section Acquire

variable {pm : Manager} {name : String} {port : Int} {now : Nat} {order : List Int}
  {probe : Probe}

theorem tryRandom_eq_some_iff {count : Nat} {p : Int} :
    tryRandom probe count order = some p ↔
      ∃ before after, order = before ++ p :: after ∧ count + before.length < maxTryTimes ∧
        probe (count + before.length + 1) p = true ∧
        ∀ i q, before[i]? = some q → probe (count + i + 1) q = false := by
  induction order generalizing count with
  | nil => simp [tryRandom]
  | cons k order ih =>
      unfold tryRandom
      split
      · rename_i exhausted
        simp only [reduceCtorEq, false_iff, not_exists]
        rintro before after ⟨-, few, -⟩
        omega
      · rename_i tries
        split
        · rename_i available
          constructor
          · rintro ⟨⟩
            exact ⟨[], order, rfl, Nat.not_lt.1 tries, available, by simp⟩
          · rintro ⟨before, after, split_, -, -, busy⟩
            cases before with
            | nil => exact congrArg some (List.cons.inj split_).1
            | cons first before =>
                have none_ := busy 0 first rfl
                rw [← (List.cons.inj split_).1, Nat.add_zero, available] at none_
                cases none_
        · rename_i unavailable
          rw [ih]
          constructor
          · rintro ⟨before, after, rfl, few, available, busy⟩
            refine ⟨k :: before, after, rfl, ?_, ?_, ?_⟩
            · simp only [List.length_cons]
              omega
            · rw [List.length_cons, ← Nat.add_assoc, Nat.add_right_comm count]
              exact available
            · intro i q at_
              cases i with
              | zero =>
                  cases at_
                  exact Bool.eq_false_of_not_eq_true unavailable
              | succ i =>
                  rw [← Nat.add_assoc, Nat.add_right_comm count]
                  exact busy i q at_
          · rintro ⟨before, after, split_, few, available, busy⟩
            cases before with
            | nil =>
                rw [← (List.cons.inj split_).1] at available
                exact absurd available unavailable
            | cons first before =>
                refine ⟨before, after, (List.cons.inj split_).2, ?_, ?_, ?_⟩
                · rw [List.length_cons] at few
                  omega
                · rw [List.length_cons, ← Nat.add_assoc, Nat.add_right_comm count] at available
                  exact available
                · intro i q at_
                  have later := busy (i + 1) q at_
                  rw [← Nat.add_assoc, Nat.add_right_comm count] at later
                  exact later

theorem firstAvailable_iff {p : Int} :
    FirstAvailable probe order p ↔ tryRandom probe 0 order = some p := by
  rw [tryRandom_eq_some_iff]
  simp only [FirstAvailable, Nat.zero_add]

theorem reservedPort_eq_some_iff {p : Int} :
    pm.reservedPort name 0 probe = some p ↔ ReservedAt pm name probe p := by
  unfold Manager.reservedPort ReservedAt
  rw [if_pos rfl]
  cases pm.reservedPorts.get name with
  | none => simp
  | some ctx =>
      simp only [Option.ite_none_right_eq_some, Option.some.injEq, exists_eq_left']
      constructor
      · rintro ⟨available, rfl⟩
        exact ⟨rfl, available⟩
      · rintro ⟨rfl, available⟩
        exact ⟨available, rfl⟩

theorem reservedPort_eq_none_iff :
    pm.reservedPort name 0 probe = none ↔ ∀ p, ¬ ReservedAt pm name probe p := by
  simp only [Option.eq_none_iff_forall_ne_some, ne_eq, reservedPort_eq_some_iff]

/-- The call takes the port under the name. -/
structure Took (pm pm' : Manager) (name : String) (p : Int) : Prop where
  used : pm'.usedPorts = pm.usedPorts.set p pm.next
  reserved : pm'.reservedPorts = pm.reservedPorts.set name pm.next
  free : pm'.freePorts = pm.freePorts.erase p
  heap : ∀ ctx < pm.next, pm'.heap ctx = pm.heap ctx
  port : (pm'.heap pm.next).port = p
  next : pm'.next = pm.next + 1

theorem took_setPort (ctx : PortCtx) (p : Int) :
    Took pm (((pm.alloc ctx).take name p pm.next).setPort pm.next p) name p where
  used := rfl
  reserved := rfl
  free := rfl
  heap := by
    intro ref old
    simp [Manager.setPort, Manager.take, Manager.alloc, Nat.ne_of_lt old]
  port := by simp [Manager.setPort]
  next := rfl

theorem took_zero (closed : Bool) :
    Took pm ((pm.alloc ⟨name, 0, closed, now⟩).take name 0 pm.next) name 0 where
  used := rfl
  reserved := rfl
  free := rfl
  heap := fun ref old => by simp [Manager.take, Manager.alloc, Nat.ne_of_lt old]
  port := by simp [Manager.take, Manager.alloc]
  next := rfl

/-- The three ways a call can end: it grants a port, it draws port 0 and loses it, or it
writes nothing. -/
theorem acquire_spec (pm : Manager) (name : String) (port : Int) (now : Nat) (order : List Int)
    (probe : Probe) :
    (∃ p, Grants pm name port order probe p ∧
      (pm.acquire name port now order probe).2 = .ok p ∧
      Took pm (pm.acquire name port now order probe).1 name p) ∨
    (DrawsZero pm name port order probe ∧
      (pm.acquire name port now order probe).2 = .error .noAvailablePort ∧
      Took pm (pm.acquire name port now order probe).1 name 0) ∨
    ((∀ p, ¬ Grants pm name port order probe p) ∧ ¬ DrawsZero pm name port order probe ∧
      ∃ err ctx, (pm.acquire name port now order probe).2 = .error err ∧
        (pm.acquire name port now order probe).1 = pm.alloc ctx) := by
  by_cases any : port = 0
  · subst any
    cases reserved : pm.reservedPort name 0 probe with
    | some p =>
        refine .inl ⟨p, .reserved rfl (reservedPort_eq_some_iff.1 reserved), ?_⟩
        simp only [Manager.acquire, reserved]
        exact ⟨trivial, took_setPort _ _⟩
    | none =>
        have unreserved := reservedPort_eq_none_iff.1 reserved
        cases random : tryRandom probe 0 order with
        | some k =>
            have first := firstAvailable_iff.2 random
            by_cases zero : k = 0
            · subst zero
              refine .inr (.inl ⟨⟨rfl, unreserved, first⟩, ?_⟩)
              simp only [Manager.acquire, reserved, random, if_true]
              exact ⟨trivial, took_zero false⟩
            · refine .inl ⟨k, .random rfl unreserved first zero, ?_⟩
              simp only [Manager.acquire, reserved, random, zero, if_true, if_false]
              exact ⟨trivial, took_setPort _ _⟩
        | none =>
            refine .inr (.inr ⟨?_, ?_, ?_⟩)
            · intro p grants
              cases grants with
              | reserved _ at_ => exact unreserved p at_
              | random _ _ first _ =>
                  rw [firstAvailable_iff, random] at first
                  cases first
              | specified given => exact given rfl
            · rintro ⟨-, -, first⟩
              rw [firstAvailable_iff, random] at first
              cases first
            · simp only [Manager.acquire, reserved, random, if_true]
              exact ⟨_, _, rfl, rfl⟩
  · have unreserved : pm.reservedPort name port probe = none := if_neg any
    have refused : ¬ (port ∈ pm.freePorts ∧ probe 0 port = true) →
        (∀ p, ¬ Grants pm name port order probe p) ∧ ¬ DrawsZero pm name port order probe := by
      intro not_
      constructor
      · intro p grants
        cases grants with
        | reserved any' => exact any any'
        | random any' => exact any any'
        | specified _ free available => exact not_ ⟨free, available⟩
      · exact fun draws => any draws.1
    by_cases free : port ∈ pm.freePorts
    · cases available : probe 0 port with
      | true =>
          refine .inl ⟨port, .specified any free available, ?_⟩
          simp only [Manager.acquire, unreserved, any, free, available, if_true, if_false]
          exact ⟨trivial, took_setPort _ _⟩
      | false =>
          have none_ := refused (by simp [available])
          refine .inr (.inr ⟨none_.1, none_.2, ?_⟩)
          simp only [Manager.acquire, unreserved, any, free, available, if_true, if_false,
            Bool.false_eq_true]
          exact ⟨_, _, rfl, rfl⟩
    · have none_ := refused (fun both => free both.1)
      refine .inr (.inr ⟨none_.1, none_.2, ?_⟩)
      simp only [Manager.acquire, unreserved, any, free, if_false]
      split
      · exact ⟨_, _, rfl, rfl⟩
      · exact ⟨_, _, rfl, rfl⟩

theorem Grants.unique {p q : Int} (first : Grants pm name port order probe p)
    (second : Grants pm name port order probe q) : p = q := by
  cases first with
  | reserved any at_ =>
      cases second with
      | reserved _ at_' =>
          rw [← reservedPort_eq_some_iff] at at_ at_'
          exact Option.some.inj (at_.symm.trans at_')
      | random _ unreserved => exact absurd at_ (unreserved p)
      | specified given => exact absurd any given
  | random any unreserved first' =>
      cases second with
      | reserved _ at_ => exact absurd at_ (unreserved q)
      | random _ _ first'' =>
          rw [firstAvailable_iff] at first' first''
          exact Option.some.inj (first'.symm.trans first'')
      | specified given => exact absurd any given
  | specified given =>
      cases second with
      | reserved any => exact absurd any given
      | random any => exact absurd any given
      | specified => rfl

theorem DrawsZero.not_grants (draws : DrawsZero pm name port order probe) (p : Int) :
    ¬ Grants pm name port order probe p := by
  obtain ⟨any, unreserved, first⟩ := draws
  intro grants
  cases grants with
  | reserved _ at_ => exact unreserved p at_
  | random _ _ first' positive =>
      rw [firstAvailable_iff] at first first'
      exact positive (Option.some.inj (first'.symm.trans first))
  | specified given => exact given any

theorem acquire_eq_ok_iff {p : Int} :
    (pm.acquire name port now order probe).2 = .ok p ↔ Grants pm name port order probe p := by
  rcases acquire_spec pm name port now order probe with
    ⟨q, grants, result, -⟩ | ⟨draws, result, -⟩ | ⟨none_, -, err, ctx, result, -⟩
  · rw [result]
    constructor
    · rintro ⟨⟩
      exact grants
    · intro grants'
      rw [grants.unique grants']
  · rw [result]
    constructor
    · intro same
      cases same
    · intro grants
      exact absurd grants (draws.not_grants p)
  · rw [result]
    constructor
    · intro same
      cases same
    · intro grants
      exact absurd grants (none_ p)

theorem DrawsZero.acquire (draws : DrawsZero pm name port order probe) :
    (pm.acquire name port now order probe).2 = .error .noAvailablePort := by
  obtain ⟨rfl, unreserved, first⟩ := draws
  rw [← reservedPort_eq_none_iff] at unreserved
  rw [firstAvailable_iff] at first
  simp only [Manager.acquire, unreserved, first, if_true]

/-- A port that is granted is reserved under the name or free. -/
theorem Grants.reserved_or_free {p : Int} (all : order.toFinset = pm.freePorts)
    (grants : Grants pm name port order probe p) :
    port = 0 ∧ ReservedAt pm name probe p ∨ p ∈ pm.freePorts := by
  cases grants with
  | reserved any at_ => exact .inl ⟨any, at_⟩
  | random _ _ first =>
      obtain ⟨before, after, rfl, -⟩ := first
      right
      rw [← all]
      simp
  | specified _ free => exact .inr free

theorem DrawsZero.free (all : order.toFinset = pm.freePorts)
    (draws : DrawsZero pm name port order probe) : (0 : Int) ∈ pm.freePorts := by
  obtain ⟨-, -, before, after, rfl, -⟩ := draws
  rw [← all]
  simp

end Acquire

/-! ## The invariant of a session -/

structure Inv (allow : Finset Int) (s : Session) : Prop where
  split : s.pm.freePorts ∪ s.pm.usedPorts.keys = allow
  disjoint : Disjoint s.pm.freePorts s.pm.usedPorts.keys
  reserved : ∀ name ctx, s.pm.reservedPorts.get name = some ctx →
    ctx < s.pm.next ∧ (s.pm.heap ctx).port ∈ allow
  held : s.held ⊆ s.pm.usedPorts.keys

theorem start_inv (allowPorts : Finset Int) : Inv (allowSet allowPorts) (start allowPorts) where
  split := by simp [start, newManager]
  disjoint := by simp [start, newManager]
  reserved := fun name ctx entry => by simp [start, newManager] at entry
  held := by simp [start]

section Step

variable {allow : Finset Int} {s t : Session} {l : Label}

theorem Inv.free_allowed (inv : Inv allow s) {p : Int} (free : p ∈ s.pm.freePorts) : p ∈ allow :=
  inv.split ▸ Finset.mem_union_left _ free

theorem Inv.granted (inv : Inv allow s) {name : String} {port : Int} {order : List Int}
    {probe : Probe} (all : order.toFinset = s.pm.freePorts) {p : Int}
    (grants : Grants s.pm name port order probe p) : p ∈ allow := by
  rcases grants.reserved_or_free all with ⟨-, ctx, entry, same, -⟩ | free
  · exact same ▸ (inv.reserved name ctx entry).2
  · exact inv.free_allowed free

theorem took_inv {pm' : Manager} {name : String} {p : Int} {held : Finset Int}
    (inv : Inv allow s) (allowed : p ∈ allow) (took : Took s.pm pm' name p)
    (sub : held ⊆ insert p s.held) : Inv allow ⟨pm', held⟩ where
  split := by
    simp only [took.free, took.used, GoMap.keys_set, ← inv.split] at allowed ⊢
    ext q
    by_cases same : q = p
    · simpa [same] using Finset.mem_union.1 allowed
    · simp [same]
  disjoint := by
    simp only [took.free, took.used, GoMap.keys_set]
    apply Finset.disjoint_left.2
    intro q free used
    obtain ⟨ne, free⟩ := Finset.mem_erase.1 free
    exact Finset.disjoint_left.1 inv.disjoint free (Finset.mem_of_mem_insert_of_ne used ne)
  reserved := by
    intro name' ctx entry
    simp only [took.reserved, GoMap.get_set, took.next] at entry ⊢
    split at entry
    · cases entry
      exact ⟨Nat.lt_succ_self _, took.port ▸ allowed⟩
    · obtain ⟨old, allowed'⟩ := inv.reserved name' ctx entry
      exact ⟨Nat.lt_succ_of_lt old, took.heap ctx old ▸ allowed'⟩
  held := by
    simp only [took.used, GoMap.keys_set]
    exact sub.trans (Finset.insert_subset_insert p inv.held)

theorem Inv.alloc (inv : Inv allow s) (ctx : PortCtx) : Inv allow ⟨s.pm.alloc ctx, s.held⟩ where
  split := inv.split
  disjoint := inv.disjoint
  reserved := by
    intro name ref entry
    obtain ⟨old, allowed⟩ := inv.reserved name ref entry
    refine ⟨Nat.lt_succ_of_lt old, ?_⟩
    simpa [Manager.alloc, Nat.ne_of_lt old] using allowed
  held := inv.held

theorem acquire_inv {name : String} {port : Int} {now : Nat} {order : List Int} {probe : Probe}
    (inv : Inv allow s) (next : step s (.acquire name port now order probe) = some t) :
    Inv allow t := by
  simp only [step, Option.ite_none_right_eq_some] at next
  obtain ⟨⟨-, all⟩, ⟨⟩⟩ := next
  rcases acquire_spec s.pm name port now order probe with
    ⟨p, grants, result, took⟩ | ⟨draws, result, took⟩ | ⟨-, -, err, ctx, result, kept⟩
  · apply took_inv inv (inv.granted all grants) took
    simp [returned, result, Except.toOption]
  · apply took_inv inv (inv.free_allowed (draws.free all)) took
    simp [returned, result, Except.toOption]
  · simp only [kept, returned, result, Except.toOption]
    exact inv.alloc ctx

theorem Inv.release (inv : Inv allow s) (port : Int) (now : Nat) :
    Inv allow ⟨s.pm.release port now, s.held.erase port⟩ := by
  simp only [Manager.release]
  cases entry : s.pm.usedPorts.get port with
  | none =>
      exact ⟨inv.split, inv.disjoint, inv.reserved, (Finset.erase_subset _ _).trans inv.held⟩
  | some ctx =>
      have used : port ∈ s.pm.usedPorts.keys := GoMap.mem_keys_iff.2 ⟨ctx, entry⟩
      refine ⟨?_, ?_, ?_, ?_⟩
      · rw [← inv.split, GoMap.keys_delete]
        ext q
        by_cases same : q = port
        · simp [same, used]
        · simp [same]
      · simp only [GoMap.keys_delete]
        apply Finset.disjoint_left.2
        intro q free used
        obtain ⟨ne, used⟩ := Finset.mem_erase.1 used
        exact Finset.disjoint_left.1 inv.disjoint (Finset.mem_of_mem_insert_of_ne free ne) used
      · intro name ref entry
        obtain ⟨old, allowed⟩ := inv.reserved name ref entry
        refine ⟨old, ?_⟩
        by_cases same : ref = ctx
        · subst same
          simpa using allowed
        · simpa [same] using allowed
      · simp only [GoMap.keys_delete]
        exact Finset.erase_subset_erase port inv.held

/-- A used port that is released is free. -/
theorem release_spec {pm : Manager} {port : Int} (used : port ∈ pm.usedPorts.keys) (now : Nat) :
    (pm.release port now).freePorts = insert port pm.freePorts ∧
      (pm.release port now).usedPorts.keys = pm.usedPorts.keys.erase port := by
  obtain ⟨ctx, entry⟩ := GoMap.mem_keys_iff.1 used
  simp only [Manager.release, entry]
  exact ⟨trivial, GoMap.keys_delete _ _⟩

/-- A round of cleaning only takes names away. -/
theorem cleanReservedPorts_spec (now : Nat) (pm : Manager) (order : List String) :
    (pm.cleanReservedPorts now order).usedPorts = pm.usedPorts ∧
      (pm.cleanReservedPorts now order).freePorts = pm.freePorts ∧
      (pm.cleanReservedPorts now order).heap = pm.heap ∧
      (pm.cleanReservedPorts now order).next = pm.next ∧
      ∀ name ctx, (pm.cleanReservedPorts now order).reservedPorts.get name = some ctx →
        pm.reservedPorts.get name = some ctx := by
  induction order generalizing pm with
  | nil => exact ⟨rfl, rfl, rfl, rfl, fun _ _ entry => entry⟩
  | cons head order ih =>
      simp only [Manager.cleanReservedPorts]
      split
      · split
        · obtain ⟨used, free, heap, next, kept⟩ :=
            ih { pm with reservedPorts := pm.reservedPorts.delete head }
          refine ⟨used, free, heap, next, ?_⟩
          intro name ctx entry
          have entry' := kept name ctx entry
          simp only [GoMap.get_delete] at entry'
          split at entry'
          · cases entry'
          · exact entry'
        · exact ih pm
      · exact ih pm

theorem clean_inv {now : Nat} {order : List String} (inv : Inv allow s)
    (next : step s (.clean now order) = some t) : Inv allow t := by
  simp only [step, Option.ite_none_right_eq_some] at next
  obtain ⟨-, ⟨⟩⟩ := next
  obtain ⟨used, free, heap, next, kept⟩ := cleanReservedPorts_spec now s.pm order
  refine ⟨?_, ?_, ?_, ?_⟩
  · simpa only [used, free] using inv.split
  · simpa only [used, free] using inv.disjoint
  · intro name ctx entry
    simpa only [heap, next] using inv.reserved name ctx (kept name ctx entry)
  · simpa only [used] using inv.held

theorem step_inv (inv : Inv allow s) (next : step s l = some t) : Inv allow t := by
  cases l with
  | acquire => exact acquire_inv inv next
  | release port now =>
      cases next
      exact inv.release port now
  | clean => exact clean_inv inv next

/-! ## When a returned port is held already -/

theorem returned_held_iff (inv : Inv allow s) (next : step s l = some t) :
    (∃ p, returned s l = some p ∧ p ∈ s.held) ↔ ReservationHeld s l := by
  cases l with
  | release => simp [returned, ReservationHeld]
  | clean => simp [returned, ReservationHeld]
  | acquire name port now order probe =>
      simp only [step, Option.ite_none_right_eq_some] at next
      obtain ⟨⟨-, all⟩, -⟩ := next
      have unheld : ∀ p ∈ s.pm.freePorts, p ∉ s.held := fun p free held =>
        Finset.disjoint_left.1 inv.disjoint free (inv.held held)
      have returns : ∀ p, returned s (.acquire name port now order probe) = some p ↔
          Grants s.pm name port order probe p := by
        intro p
        have ok : (s.pm.acquire name port now order probe).2 = .ok p ↔
            Grants s.pm name port order probe p := acquire_eq_ok_iff
        rw [← ok, returned]
        cases (s.pm.acquire name port now order probe).2 <;> simp [Except.toOption]
      constructor
      · rintro ⟨p, out, held⟩
        rcases ((returns p).1 out).reserved_or_free all with
          ⟨any, ctx, entry, rfl, available⟩ | free
        · exact ⟨any, ctx, entry, held, available⟩
        · exact absurd held (unheld p free)
      · rintro ⟨any, ctx, entry, held, available⟩
        exact ⟨_, (returns _).2 (.reserved any ⟨ctx, entry, rfl, available⟩), held⟩

theorem exclusive_iff (inv : Inv allow s) (next : step s l = some t) :
    Exclusive allow s l t ↔ ¬ ReservationHeld s l := by
  have inv' := step_inv inv next
  rw [← returned_held_iff inv next]
  constructor
  · rintro ⟨fresh, -, -⟩ ⟨p, out, held⟩
    exact fresh p out held
  · intro fresh
    exact ⟨fun p out held => fresh ⟨p, out, held⟩, inv'.disjoint, inv'.split⟩

end Step

/-- **No port is returned twice iff no call finds the reserved port of its name held
and available**; that the two maps split the allow set needs no condition. -/
theorem ports_exclusive_iff (allowPorts : Finset Int) (ls : List Label) :
    Along step (Exclusive (allowSet allowPorts)) (start allowPorts) ls ↔
      Along step (fun s l _ => ¬ ReservationHeld s l) (start allowPorts) ls :=
  along_iff_along (Inv (allowSet allowPorts))
    (fun _ _ _ inv _ next => step_inv inv next)
    (fun _ _ _ inv next => exclusive_iff inv next) (start_inv allowPorts) ls

theorem free_and_used_split (allowPorts : Finset Int) {ls : List Label} {s : Session}
    (run : exec step (start allowPorts) ls = some s) :
    Disjoint s.pm.freePorts s.pm.usedPorts.keys ∧
      s.pm.freePorts ∪ s.pm.usedPorts.keys = allowSet allowPorts := by
  have inv := invariant_of_exec (fun _ _ _ inv next => step_inv inv next)
    (start_inv allowPorts) run
  exact ⟨inv.disjoint, inv.split⟩

/-- Two calls under one name ask for any port; the probe finds the first one's port
available again before that one listens. -/
def sameNameTwice : List Label :=
  [.acquire "web" 0 1 [6000, 6001] fun _ _ => true] ++
    [.acquire "web" 0 2 [6001] fun _ _ => true]

theorem reserved_port_handed_out_twice :
    ¬ Along step (Exclusive (allowSet {6000, 6001})) (start {6000, 6001}) sameNameTwice := by
  have run : (exec step (start {6000, 6001})
      [.acquire "web" 0 1 [6000, 6001] fun _ _ => true]).map (fun s =>
        (returned s (.acquire "web" 0 2 [6001] fun _ _ => true), s.held,
          (step s (.acquire "web" 0 2 [6001] fun _ _ => true)).isSome)) =
      some (some 6000, {6000}, true) := by decide
  obtain ⟨s, first, found⟩ := Option.map_eq_some_iff.1 run
  simp only [Prod.mk.injEq] at found
  obtain ⟨again, held, enabled⟩ := found
  obtain ⟨t, second⟩ := Option.isSome_iff_exists.1 enabled
  intro exclusive
  obtain ⟨⟨fresh, -⟩, -⟩ := exclusive.of_append first t second
  exact fresh 6000 again (by simp [held])

end ChmlFrp.Server.Ports
