/-
# ChmlFrp.Metrics.Server — the statistics of the proxies

`pkg/metrics/mem/server.go`.  The statistics of a proxy stand under its name.  `NewProxy`
keeps them when the type is the same and makes new ones otherwise; `CloseProxy` only writes
down the time.  `clearUselessInfo` drops what was closed more than seven days ago and not
started since, by the two times.

Nothing ties a call to the statistics that its own `NewProxy` or `OpenConnection` found.

* `statistics_sound`: the connections of a proxy are never negative and the statistics of a
  registered proxy are never dropped in the runs in which new statistics are made only while
  no connection of the name is open, and a proxy is not closed while a newer one of the name
  is registered.  Any other step leads to one or the other.
* `connection_outlives_type`: a connection is closed after the type of its proxy has changed.
-/
import ChmlFrp.Lib.GoMap
import ChmlFrp.Lib.Slots
import ChmlFrp.Lib.Transition

namespace ChmlFrp.Metrics.Server

set_option autoImplicit false

open ChmlFrp.Lib
open ChmlFrp.Lib.Transition

/-! ## The statistics -/

structure ProxyStatistics where
  proxyType : String
  curConns : Int32
  lastStartTime : Int
  /-- `none` is the zero time. -/
  lastCloseTime : Option Int
  deriving DecidableEq

structure ServerStatistics where
  curConns : Int32
  proxyTypeCounts : GoMap String Int32
  proxyStatistics : GoMap String ProxyStatistics

/-- `newServerMetrics` -/
def newServerMetrics : ServerStatistics := ⟨0, ∅, ∅⟩

/-- `7*24` hours, in nanoseconds. -/
def reserve : Int := 7 * 24 * 3600 * 1000000000

/-- The condition of `clearUselessInfo`. -/
def ProxyStatistics.Useless (st : ProxyStatistics) (now : Int) : Prop :=
  ∃ close ∈ st.lastCloseTime, st.lastStartTime < close ∧ reserve < now - close

instance (st : ProxyStatistics) (now : Int) : Decidable (st.Useless now) :=
  inferInstanceAs (Decidable (∃ close ∈ st.lastCloseTime, _))

namespace ServerStatistics

variable (m : ServerStatistics)

/-- The statistics that `NewProxy` starts: those of the name, if the type is the same. -/
def statisticsFor (name proxyType : String) : ProxyStatistics :=
  match m.proxyStatistics.get name with
  | some st => if st.proxyType = proxyType then st else ⟨proxyType, 0, 0, none⟩
  | none => ⟨proxyType, 0, 0, none⟩

def newProxy (name proxyType : String) (now : Int) : ServerStatistics :=
  { m with
    proxyTypeCounts := m.proxyTypeCounts.set proxyType
      ((m.proxyTypeCounts.get proxyType).getD 0 + 1)
    proxyStatistics := m.proxyStatistics.set name
      { m.statisticsFor name proxyType with lastStartTime := now } }

def closeProxy (name proxyType : String) (now : Int) : ServerStatistics :=
  { m with
    proxyTypeCounts := m.proxyTypeCounts.modify proxyType (· - 1)
    proxyStatistics := m.proxyStatistics.modify name fun st =>
      { st with lastCloseTime := some now } }

/-- `OpenConnection` and `CloseConnection` add to the counts of the name and of the server. -/
def addConnection (name : String) (n : Int32) : ServerStatistics :=
  { m with
    curConns := m.curConns + n
    proxyStatistics := m.proxyStatistics.modify name fun st =>
      { st with curConns := st.curConns + n } }

def openConnection (name : String) : ServerStatistics := m.addConnection name 1

def closeConnection (name : String) : ServerStatistics := m.addConnection name (-1)

/-- The body of the loop of `clearUselessInfo`. -/
def clearName (now : Int) (left : GoMap String ProxyStatistics) (name : String) :
    GoMap String ProxyStatistics :=
  match m.proxyStatistics.get name with
  | some st => if st.Useless now then left.delete name else left
  | none => left

/-- `clearUselessInfo`, over the map in some order. -/
def clearUselessInfo (now : Int) (order : List String) : ServerStatistics :=
  { m with proxyStatistics := order.foldl (m.clearName now) m.proxyStatistics }

end ServerStatistics

/-! ## Registrations and connections -/

/-- A registration of a proxy, and whether its calls were made. -/
structure Registration where
  name : String
  proxyType : String
  started : Bool
  closed : Bool
  deriving DecidableEq, Repr

/-- `NewProxy` was called for it, and `CloseProxy` was not. -/
def Registration.Registered (reg : Registration) : Prop := reg.started = true ∧ reg.closed = false

instance (reg : Registration) : Decidable reg.Registered := inferInstanceAs (Decidable (_ ∧ _))

structure State where
  now : Int
  info : ServerStatistics
  registrations : List Registration
  /-- The proxies of the connections that are open. -/
  conns : List String

def start (now : Int) : State := ⟨now, newServerMetrics, [], []⟩

/-- The calls; times are read inside of them. -/
inductive Label where
  /-- A proxy is registered, and its `NewProxy` is about to be called. -/
  | register (name proxyType : String)
  | newProxy (r : Nat) (now : Int)
  | closeProxy (r : Nat) (now : Int)
  | openConnection (name : String)
  | closeConnection (name : String)
  | clearUselessInfo (now : Int) (order : List String)
  deriving DecidableEq, Repr

def step (s : State) : Label → Option State
  | .register name proxyType =>
      some { s with registrations := s.registrations ++ [⟨name, proxyType, false, false⟩] }
  | .newProxy r now =>
      s.registrations[r]?.bind fun reg =>
        if s.now ≤ now ∧ reg.started = false then
          some { s with
            now := now
            info := s.info.newProxy reg.name reg.proxyType now
            registrations := s.registrations.set r { reg with started := true } }
        else none
  | .closeProxy r now =>
      s.registrations[r]?.bind fun reg =>
        if s.now ≤ now then
          some { s with
            now := now
            info := s.info.closeProxy reg.name reg.proxyType now
            registrations := s.registrations.set r { reg with closed := true } }
        else none
  | .openConnection name =>
      some { s with info := s.info.openConnection name, conns := name :: s.conns }
  | .closeConnection name =>
      if name ∈ s.conns then
        some { s with info := s.info.closeConnection name, conns := s.conns.erase name }
      else none
  | .clearUselessInfo now order =>
      if s.now ≤ now ∧ s.info.proxyStatistics.keys ⊆ order.toFinset then
        some { s with now := now, info := s.info.clearUselessInfo now order }
      else none

/-! ## Sound statistics -/

def NonNegative (s : State) : Prop :=
  ∀ name st, s.info.proxyStatistics.get name = some st → 0 ≤ st.curConns.toInt

/-- A cleaning leaves the statistics of a registered proxy. -/
def Spares (s : State) (l : Label) (t : State) : Prop :=
  ∀ now order, l = .clearUselessInfo now order → ∀ reg ∈ s.registrations, reg.Registered →
    t.info.proxyStatistics.get reg.name = s.info.proxyStatistics.get reg.name

/-- A registration other than `r` that is registered under the name. -/
def State.Other (s : State) (r : Nat) (name : String) : Prop :=
  ∃ (r' : Nat) (other : Registration), r' ≠ r ∧ s.registrations[r']? = some other ∧
    other.Registered ∧ other.name = name

/-- The condition on a step. -/
def Guard (s : State) : Label → Prop
  | .newProxy r _ => ∀ reg, s.registrations[r]? = some reg →
      (∀ st, s.info.proxyStatistics.get reg.name = some st → st.proxyType ≠ reg.proxyType) →
        s.conns.count reg.name = 0
  | .closeProxy r now => ∀ reg st, s.registrations[r]? = some reg → s.Other r reg.name →
      s.info.proxyStatistics.get reg.name = some st → now ≤ st.lastStartTime
  -- the counter is an `int32`
  | .openConnection name => (s.info.proxyStatistics.get name).isSome = true →
      s.conns.count name + 1 < 2 ^ 31
  | .register .. | .closeConnection _ | .clearUselessInfo .. => True

/-! ## The entries after a call -/

theorem int32_add_one {a : Int32} (small : a.toInt + 1 < 2 ^ 31) : (a + 1).toInt = a.toInt + 1 := by
  have least := a.le_toInt
  rw [Int32.toInt_add, show (1 : Int32).toInt = 1 by decide]
  exact Int.bmod_eq_of_le (by omega) (by omega)

theorem int32_sub_one {a : Int32} (positive : 0 < a.toInt) : (a + -1).toInt = a.toInt - 1 := by
  have most := a.toInt_lt
  rw [Int32.toInt_add, show (-1 : Int32).toInt = -1 by decide]
  exact Int.bmod_eq_of_le (by omega) (by omega)

section Entries

variable {m : ServerStatistics} {name k : String} {st : ProxyStatistics}

theorem newProxy_get_eq_some {proxyType : String} {now : Int} :
    (m.newProxy name proxyType now).proxyStatistics.get k = some st ↔
      k = name ∧ st = { m.statisticsFor name proxyType with lastStartTime := now } ∨
        k ≠ name ∧ m.proxyStatistics.get k = some st :=
  GoMap.get_set_eq_some

theorem closeProxy_get_eq_some {proxyType : String} {now : Int} :
    (m.closeProxy name proxyType now).proxyStatistics.get k = some st ↔
      (k = name ∧ ∃ old, m.proxyStatistics.get name = some old ∧
        { old with lastCloseTime := some now } = st) ∨
        k ≠ name ∧ m.proxyStatistics.get k = some st :=
  GoMap.get_modify_eq_some

theorem addConnection_get_eq_some {n : Int32} :
    (m.addConnection name n).proxyStatistics.get k = some st ↔
      (k = name ∧ ∃ old, m.proxyStatistics.get name = some old ∧
        { old with curConns := old.curConns + n } = st) ∨
        k ≠ name ∧ m.proxyStatistics.get k = some st :=
  GoMap.get_modify_eq_some

theorem clear_get {now : Int} {order : List String} {left : GoMap String ProxyStatistics} :
    (order.foldl (m.clearName now) left).get k =
      if k ∈ order ∧ ∃ st ∈ m.proxyStatistics.get k, st.Useless now then none else left.get k := by
  induction order generalizing left with
  | nil => simp
  | cons first rest ih =>
      rw [List.foldl_cons, ih]
      have head : (m.clearName now left first).get k =
          if k = first ∧ ∃ st ∈ m.proxyStatistics.get k, st.Useless now then none
          else left.get k := by
        unfold ServerStatistics.clearName
        cases found : m.proxyStatistics.get first with
        | none =>
            rw [if_neg]
            rintro ⟨rfl, st, there, -⟩
            rw [found] at there
            cases there
        | some st =>
            by_cases useless : st.Useless now
            · simp only [if_pos useless]
              by_cases same : k = first
              · subst same
                simp [found, useless]
              · simp [same]
            · simp only [if_neg useless]
              rw [if_neg]
              rintro ⟨rfl, st', there, useless'⟩
              rw [found] at there
              cases there
              exact useless useless'
      rw [head]
      by_cases useless : ∃ st ∈ m.proxyStatistics.get k, st.Useless now
      · simp only [eq_true useless, and_true, List.mem_cons]
        by_cases in_rest : k ∈ rest
        · simp only [in_rest, or_true, if_true]
        · simp only [in_rest, or_false, if_false]
      · simp only [eq_false useless, and_false, if_false]

theorem clearUselessInfo_get_eq_some {now : Int} {order : List String}
    (all : m.proxyStatistics.keys ⊆ order.toFinset) :
    (m.clearUselessInfo now order).proxyStatistics.get k = some st ↔
      m.proxyStatistics.get k = some st ∧ ¬ st.Useless now := by
  show (order.foldl (m.clearName now) m.proxyStatistics).get k = some st ↔ _
  rw [clear_get]
  constructor
  · intro kept
    split at kept
    · cases kept
    · rename_i kept'
      refine ⟨kept, fun useless => kept' ⟨?_, st, kept, useless⟩⟩
      exact List.mem_toFinset.1 (all (GoMap.mem_keys_iff.2 ⟨st, kept⟩))
  · rintro ⟨there, useful⟩
    rw [if_neg, there]
    rintro ⟨-, st', there', useless⟩
    rw [there] at there'
    cases there'
    exact useful useless

end Entries

/-- `NewProxy` takes the statistics of the name, or makes new ones. -/
theorem statisticsFor_cases (m : ServerStatistics) (name proxyType : String) :
    m.proxyStatistics.get name = some (m.statisticsFor name proxyType) ∨
      m.statisticsFor name proxyType = ⟨proxyType, 0, 0, none⟩ ∧
        ∀ st, m.proxyStatistics.get name = some st → st.proxyType ≠ proxyType := by
  unfold ServerStatistics.statisticsFor
  cases found : m.proxyStatistics.get name with
  | none => exact .inr ⟨rfl, fun st there => by cases there⟩
  | some st =>
      by_cases same : st.proxyType = proxyType
      · simp only [if_pos same]
        exact .inl trivial
      · simp only [if_neg same]
        refine .inr ⟨trivial, fun st' there => ?_⟩
        cases there
        exact same

/-! ## The invariant -/

structure Inv (s : State) : Prop where
  counted : ∀ name st, s.info.proxyStatistics.get name = some st →
    st.curConns.toInt = s.conns.count name
  /-- A registered proxy was started after the last close of its name. -/
  live : ∀ (r : Nat) reg, s.registrations[r]? = some reg → reg.Registered →
    ∃ st, s.info.proxyStatistics.get reg.name = some st ∧
      ∀ close ∈ st.lastCloseTime, close ≤ st.lastStartTime
  past : ∀ name st, s.info.proxyStatistics.get name = some st →
    st.lastStartTime ≤ s.now ∧ ∀ close ∈ st.lastCloseTime, close ≤ s.now

theorem start_inv (now : Int) : Inv (start now) where
  counted name st there := by cases there
  live r reg there := by cases there
  past name st there := by cases there

section Steps

variable {s t : State} {l : Label}

theorem Inv.register (inv : Inv s) (name proxyType : String) :
    Inv { s with registrations := s.registrations ++ [⟨name, proxyType, false, false⟩] } where
  counted := inv.counted
  live := by
    intro r reg there registered
    rcases Slots.append_cases there with old | ⟨-, rfl⟩
    · exact inv.live r reg old registered
    · cases registered.1
  past := inv.past

theorem Inv.newProxy (inv : Inv s) {r : Nat} {reg : Registration} {now : Int}
    (there : s.registrations[r]? = some reg) (later : s.now ≤ now)
    (guard : Guard s (.newProxy r now)) :
    Inv { s with
      now := now
      info := s.info.newProxy reg.name reg.proxyType now
      registrations := s.registrations.set r { reg with started := true } } := by
  have old := statisticsFor_cases s.info reg.name reg.proxyType
  have before : ∀ close ∈ (s.info.statisticsFor reg.name reg.proxyType).lastCloseTime,
      close ≤ now := by
    intro close is_close
    rcases old with found | ⟨fresh, -⟩
    · exact Int.le_trans ((inv.past _ _ found).2 close is_close) later
    · rw [fresh] at is_close
      cases is_close
  constructor
  · intro name st found
    rcases newProxy_get_eq_some.1 found with ⟨rfl, rfl⟩ | ⟨-, found⟩
    · rcases old with was | ⟨fresh, differs⟩
      · have counted := inv.counted _ _ was
        exact counted
      · show (s.info.statisticsFor reg.name reg.proxyType).curConns.toInt = _
        rw [fresh, guard reg there differs]
        rfl
    · exact inv.counted name st found
  · intro r' reg' there' registered
    by_cases same : reg'.name = reg.name
    · exact ⟨_, newProxy_get_eq_some.2 (.inl ⟨same, rfl⟩), before⟩
    · rcases Slots.set_cases there' with ⟨-, rfl⟩ | ⟨-, there'⟩
      · exact absurd rfl same
      · obtain ⟨st, found, started⟩ := inv.live r' reg' there' registered
        exact ⟨st, newProxy_get_eq_some.2 (.inr ⟨same, found⟩), started⟩
  · intro name st found
    rcases newProxy_get_eq_some.1 found with ⟨-, rfl⟩ | ⟨-, found⟩
    · exact ⟨Int.le_refl _, before⟩
    · obtain ⟨started, closed⟩ := inv.past name st found
      exact ⟨Int.le_trans started later, fun close is_close =>
        Int.le_trans (closed close is_close) later⟩

theorem Inv.closeProxy (inv : Inv s) {r : Nat} {reg : Registration} {now : Int}
    (there : s.registrations[r]? = some reg) (later : s.now ≤ now)
    (guard : Guard s (.closeProxy r now)) :
    Inv { s with
      now := now
      info := s.info.closeProxy reg.name reg.proxyType now
      registrations := s.registrations.set r { reg with closed := true } } := by
  constructor
  · intro name st found
    rcases closeProxy_get_eq_some.1 found with ⟨rfl, old, was, rfl⟩ | ⟨-, found⟩
    · exact inv.counted _ old was
    · exact inv.counted name st found
  · intro r' reg' there' registered
    rcases Slots.set_cases there' with ⟨-, rfl⟩ | ⟨other, there'⟩
    · cases registered.2
    · obtain ⟨st, found, started⟩ := inv.live r' reg' there' registered
      by_cases same : reg'.name = reg.name
      · rw [same] at found
        refine ⟨_, closeProxy_get_eq_some.2 (.inl ⟨same, st, found, rfl⟩), ?_⟩
        intro close is_close
        cases is_close
        exact guard reg st there ⟨r', reg', other, there', registered, same⟩ found
      · exact ⟨st, closeProxy_get_eq_some.2 (.inr ⟨same, found⟩), started⟩
  · intro name st found
    rcases closeProxy_get_eq_some.1 found with ⟨-, old, was, rfl⟩ | ⟨-, found⟩
    · refine ⟨Int.le_trans (inv.past _ old was).1 later, fun close is_close => ?_⟩
      cases is_close
      exact Int.le_refl _
    · obtain ⟨started, closed⟩ := inv.past name st found
      exact ⟨Int.le_trans started later, fun close is_close =>
        Int.le_trans (closed close is_close) later⟩

/-- A connection of a name is counted for the statistics of the name. -/
theorem Inv.addConnection (inv : Inv s) {name : String} {n : Int32} {conns : List String}
    (counted : ∀ st, s.info.proxyStatistics.get name = some st →
      (st.curConns + n).toInt = conns.count name)
    (others : ∀ name', name' ≠ name → conns.count name' = s.conns.count name') :
    Inv { s with info := s.info.addConnection name n, conns := conns } := by
  constructor
  · intro name' st found
    rcases addConnection_get_eq_some.1 found with ⟨rfl, old, was, rfl⟩ | ⟨other, found⟩
    · exact counted old was
    · rw [inv.counted name' st found, others name' other]
  · intro r reg there registered
    obtain ⟨st, found, started⟩ := inv.live r reg there registered
    by_cases same : reg.name = name
    · rw [same] at found
      exact ⟨_, addConnection_get_eq_some.2 (.inl ⟨same, st, found, rfl⟩), started⟩
    · exact ⟨st, addConnection_get_eq_some.2 (.inr ⟨same, found⟩), started⟩
  · intro name' st found
    rcases addConnection_get_eq_some.1 found with ⟨-, old, was, rfl⟩ | ⟨-, found⟩
    · exact inv.past _ old was
    · exact inv.past name' st found

theorem Inv.clear (inv : Inv s) {now : Int} {order : List String} (later : s.now ≤ now)
    (all : s.info.proxyStatistics.keys ⊆ order.toFinset) :
    Inv { s with now := now, info := s.info.clearUselessInfo now order } := by
  constructor
  · intro name st found
    exact inv.counted name st ((clearUselessInfo_get_eq_some all).1 found).1
  · intro r reg there registered
    obtain ⟨st, found, started⟩ := inv.live r reg there registered
    refine ⟨st, (clearUselessInfo_get_eq_some all).2 ⟨found, ?_⟩, started⟩
    rintro ⟨close, is_close, before, -⟩
    exact absurd (started close is_close) (Int.not_le.2 before)
  · intro name st found
    obtain ⟨started, closed⟩ := inv.past name st ((clearUselessInfo_get_eq_some all).1 found).1
    exact ⟨Int.le_trans started later, fun close is_close =>
      Int.le_trans (closed close is_close) later⟩

theorem step_inv (inv : Inv s) (guard : Guard s l) (next : step s l = some t) : Inv t := by
  cases l with
  | register name proxyType =>
      cases next
      exact inv.register name proxyType
  | newProxy r now =>
      obtain ⟨reg, there, next⟩ := Option.bind_eq_some_iff.1 next
      obtain ⟨⟨later, -⟩, done⟩ := Option.ite_none_right_eq_some.1 next
      cases done
      exact inv.newProxy there later guard
  | closeProxy r now =>
      obtain ⟨reg, there, next⟩ := Option.bind_eq_some_iff.1 next
      obtain ⟨later, done⟩ := Option.ite_none_right_eq_some.1 next
      cases done
      exact inv.closeProxy there later guard
  | openConnection name =>
      cases next
      refine inv.addConnection ?_ fun name' other => List.count_cons_of_ne (Ne.symm other)
      intro st found
      have counted := inv.counted name st found
      have small := guard (by rw [found]; rfl)
      rw [int32_add_one (by omega), List.count_cons_self, counted]
      rfl
  | closeConnection name =>
      obtain ⟨isOpen, done⟩ := Option.ite_none_right_eq_some.1 next
      cases done
      refine inv.addConnection ?_ fun name' other => List.count_erase_of_ne other
      intro st found
      have counted := inv.counted name st found
      have positive : 0 < s.conns.count name := List.count_pos_iff.2 isOpen
      rw [int32_sub_one (by omega), List.count_erase_self, counted]
      omega
  | clearUselessInfo now order =>
      obtain ⟨⟨later, all⟩, done⟩ := Option.ite_none_right_eq_some.1 next
      cases done
      exact inv.clear later all

theorem Inv.nonNegative (inv : Inv s) : NonNegative s := by
  intro name st found
  rw [inv.counted name st found]
  exact Int.natCast_nonneg _

theorem Inv.spares (inv : Inv s) (next : step s l = some t) : Spares s l t := by
  rintro now order rfl reg inside registered
  obtain ⟨⟨later, all⟩, done⟩ := Option.ite_none_right_eq_some.1 next
  cases done
  obtain ⟨r, there⟩ := List.getElem?_of_mem inside
  obtain ⟨st, found, started⟩ := inv.live r reg there registered
  rw [found]
  refine (clearUselessInfo_get_eq_some all).2 ⟨found, ?_⟩
  rintro ⟨close, is_close, before, -⟩
  exact absurd (started close is_close) (Int.not_le.2 before)

/-! ## Steps that break it -/

/-- What every step is to keep. -/
def Sound (s : State) (l : Label) (t : State) : Prop := NonNegative t ∧ Spares s l t

/-- A connection that the statistics of its name have not counted is closed. -/
theorem not_sound_of_uncounted {name : String} {st : ProxyStatistics}
    (found : s.info.proxyStatistics.get name = some st) (zero : st.curConns = 0)
    (isOpen : name ∈ s.conns) : ¬ Along step Sound s [.closeConnection name] := by
  intro along
  have next : step s (.closeConnection name) = some _ := if_pos isOpen
  have nonNegative := (along _ next).1.1 name _
    (addConnection_get_eq_some.2 (.inl ⟨rfl, st, found, rfl⟩))
  rw [zero] at nonNegative
  have negative : (0 + -1 : Int32).toInt < 0 := by decide
  exact absurd nonNegative (Int.not_le.2 negative)

/-- A registered proxy whose statistics look closed loses them after seven days. -/
theorem not_sound_of_closed {reg : Registration} {st : ProxyStatistics} {close : Int}
    (inside : reg ∈ s.registrations) (registered : reg.Registered)
    (found : s.info.proxyStatistics.get reg.name = some st)
    (is_close : st.lastCloseTime = some close) (before : st.lastStartTime < close)
    (past : close ≤ s.now) : ∃ l, ¬ Along step Sound s [l] := by
  let now := s.now + reserve + 1
  have all : s.info.proxyStatistics.keys ⊆ s.info.proxyStatistics.keys.toList.toFinset := by
    rw [Finset.toList_toFinset]
  have later : s.now ≤ now := by
    simp only [now, reserve]
    omega
  refine ⟨.clearUselessInfo now s.info.proxyStatistics.keys.toList, fun along => ?_⟩
  have next : step s (.clearUselessInfo now s.info.proxyStatistics.keys.toList) = some _ :=
    if_pos ⟨later, all⟩
  have kept := (along _ next).1.2 now _ rfl reg inside registered
  refine ((clearUselessInfo_get_eq_some all).1 (kept.trans found)).2 ⟨close, is_close, before, ?_⟩
  simp only [now]
  omega

theorem not_sound_of_unguarded (inv : Inv s) (unguarded : ¬ Guard s l)
    (next : step s l = some t) : ∃ more, ¬ Along step Sound s (l :: more) := by
  have after : (∃ more, ¬ Along step Sound t more) → ∃ more, ¬ Along step Sound s (l :: more) :=
    fun ⟨more, fails⟩ => ⟨more, fun along => fails (along t next).2⟩
  cases l with
  | register => exact absurd trivial unguarded
  | closeConnection => exact absurd trivial unguarded
  | clearUselessInfo => exact absurd trivial unguarded
  | newProxy r now =>
      obtain ⟨reg, there, next⟩ := Option.bind_eq_some_iff.1 next
      obtain ⟨-, done⟩ := Option.ite_none_right_eq_some.1 next
      cases done
      simp only [Guard, not_forall] at unguarded
      obtain ⟨reg', there', differs, some_⟩ := unguarded
      cases there.symm.trans there'
      refine after ⟨[.closeConnection reg.name], not_sound_of_uncounted
        (newProxy_get_eq_some.2 (.inl ⟨rfl, rfl⟩)) ?_
        (List.count_pos_iff.1 (Nat.pos_of_ne_zero some_))⟩
      rcases statisticsFor_cases s.info reg.name reg.proxyType with found | ⟨fresh, -⟩
      · refine absurd ?_ (differs _ found)
        unfold ServerStatistics.statisticsFor
        split
        · split
          · assumption
          · rfl
        · rfl
      · show (s.info.statisticsFor reg.name reg.proxyType).curConns = 0
        rw [fresh]
  | closeProxy r now =>
      obtain ⟨reg, there, next⟩ := Option.bind_eq_some_iff.1 next
      obtain ⟨-, done⟩ := Option.ite_none_right_eq_some.1 next
      cases done
      simp only [Guard, not_forall] at unguarded
      obtain ⟨reg', st, there', ⟨r', other, different, is_other, registered, same⟩, found, late⟩ :=
        unguarded
      cases there.symm.trans there'
      let closed : State := { s with
        now := now
        info := s.info.closeProxy reg.name reg.proxyType now
        registrations := s.registrations.set r { reg with closed := true } }
      have inside : other ∈ closed.registrations :=
        List.mem_of_getElem? ((List.getElem?_set_ne (Ne.symm different)).trans is_other)
      have is_closed : closed.info.proxyStatistics.get other.name =
          some { st with lastCloseTime := some now } :=
        closeProxy_get_eq_some.2 (.inl ⟨same, st, found, rfl⟩)
      obtain ⟨l, fails⟩ := not_sound_of_closed inside registered is_closed rfl
        (Int.not_le.1 late) (Int.le_refl now)
      exact after ⟨[l], fails⟩
  | openConnection name =>
      simp only [Guard, Classical.not_imp] at unguarded
      obtain ⟨is_some, many⟩ := unguarded
      obtain ⟨st, found⟩ := Option.isSome_iff_exists.1 is_some
      refine ⟨[], fun along => ?_⟩
      cases next
      have nonNegative := (along _ rfl).1.1 name _
        (addConnection_get_eq_some.2 (.inl ⟨rfl, st, found, rfl⟩))
      have counted := inv.counted name st found
      have most := st.curConns.toInt_lt
      have full : st.curConns.toInt = 2 ^ 31 - 1 := by omega
      have wrapped : (st.curConns + 1).toInt = -2 ^ 31 := by
        rw [Int32.toInt_add, full]
        decide
      rw [show ({ st with curConns := st.curConns + 1 } : ProxyStatistics).curConns.toInt = _
        from wrapped] at nonNegative
      omega

end Steps

/-- **The connections of a proxy are never negative and a registered proxy keeps its
statistics**, in every run in which new statistics are made only while no connection of the
name is open, a proxy is not closed while another one of its name that was not started later
is registered, and a name has fewer than 2^31 connections.  Any other step leads to a
negative count or to dropped statistics. -/
theorem statistics_sound (now : Int) :
    (∀ ls, Along step (fun s l _ => Guard s l) (start now) ls → Along step Sound (start now) ls) ∧
    ∀ ls s l t, Along step (fun s l _ => Guard s l) (start now) ls →
      exec step (start now) ls = some s → ¬ Guard s l → step s l = some t →
        ∃ more, ¬ Along step Sound (start now) (ls ++ l :: more) := by
  have kept : ∀ s l t, Inv s → Guard s l → step s l = some t → Inv t :=
    fun _ _ _ inv guard next => step_inv inv guard next
  have tight := strengthen_and_tight Inv kept
    (fun _ _ _ inv guard next => ⟨(step_inv inv guard next).nonNegative, inv.spares next⟩)
    (fun _ _ _ inv unguarded next => not_sound_of_unguarded inv unguarded next)
    (start_inv now)
  exact ⟨fun ls => (tight ls).1, fun ls => (tight ls).2⟩

/-- A proxy comes back with another type while a connection is open. -/
def retyped : List Label :=
  [.register "web" "tcp", .newProxy 0 1, .openConnection "web", .closeProxy 0 2,
    .register "web" "udp", .newProxy 1 3]

theorem connection_outlives_type :
    ¬ Along step Sound (start 0) (retyped ++ [.closeConnection "web"]) := by
  have run : (exec step (start 0) retyped).map (fun s =>
      ((s.info.proxyStatistics.get "web").map ProxyStatistics.curConns, s.conns)) =
        some (some 0, ["web"]) := by
    decide +kernel
  obtain ⟨s, before, found⟩ := Option.map_eq_some_iff.1 run
  obtain ⟨statistics, conns⟩ := Prod.mk.inj found
  obtain ⟨st, there, zero⟩ := Option.map_eq_some_iff.1 statistics
  intro along
  exact not_sound_of_uncounted there zero (by simp [conns]) (along.of_append before)

end ChmlFrp.Metrics.Server
