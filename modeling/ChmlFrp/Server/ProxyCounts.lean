/-
# ChmlFrp.Server.ProxyCounts — the proxies of each type, and the counters of them

The counters of `pkg/metrics/mem/server.go` beside the proxy tables.  The manager goroutine
of a control calls `metrics.NewProxy` after `RegisterProxy` has returned.  `CloseProxy` calls
`metrics.CloseProxy` after it has given back the mutex, `ForceCloseProxy` and `stoper` under
it.  A type has no counter before its first `NewProxy`, and a call for it then does nothing.

* `counts_agree`: with no operation in progress the counter of a type is the number of its
  registered proxies, in the runs in which no close finds a name in the table of a control
  that is torn down, and no proxy is closed in the metrics while its type has no counter.
* `closed_before_counted`: the dashboard closes the first proxy of a type before it is
  counted.
-/
import ChmlFrp.Metrics.Server
import ChmlFrp.Server.Registry

namespace ChmlFrp.Server.ProxyCounts

set_option autoImplicit false

open ChmlFrp.Lib
open ChmlFrp.Lib.Transition
open ChmlFrp.Server.Registry (Pxy)

/-! ## The tables and the calls into the metrics -/

structure State where
  tables : Registry.State
  info : Metrics.Server.ServerStatistics
  /-- The proxy that a manager goroutine has registered and not counted yet. -/
  starting : Nat → Option Pxy
  /-- The proxies of the calls of `CloseProxy` that have given back the mutex. -/
  closing : List Pxy
  /-- The proxy that the loop of a `stoper` has deleted last. -/
  tearing : Nat → Option Pxy

def start : State :=
  ⟨Registry.start, Metrics.Server.newServerMetrics, fun _ => none, [], fun _ => none⟩

inductive Label where
  /-- A step on the tables. -/
  | table (l : Registry.Label)
  /-- The end of `ForceCloseProxy`. -/
  | forceDelete (c : Nat) (now : Int)
  /-- The manager goroutine calls `metrics.NewProxy`. -/
  | newProxy (c : Nat) (now : Int)
  /-- A call of `CloseProxy` calls `metrics.CloseProxy`. -/
  | closeProxy (p : Pxy) (now : Int)
  /-- The loop of `stoper` calls `metrics.CloseProxy`. -/
  | tearMetrics (c : Nat) (now : Int)
  deriving DecidableEq, Repr

section Machine

-- the proxy type of an object
variable (types : Pxy → String)

def State.table (s : State) (l : Registry.Label) : Option State :=
  (Registry.step s.tables l).map fun tables => { s with tables := tables }

def State.metricsCloseProxy (s : State) (p : Pxy) (now : Int) : State :=
  { s with info := s.info.closeProxy p.name (types p) now }

def step (s : State) : Label → Option State
  | .table (.exist c name) => if s.starting c = none then s.table (.exist c name) else none
  | .table (.managerExit c) => if s.starting c = none then s.table (.managerExit c) else none
  | .table (.insert c) =>
      match (s.tables.controls c).register with
      | .added p =>
          (s.table (.insert c)).map fun t =>
            { t with starting := Function.update s.starting c (some p) }
      | _ => none
  | .table (.delete c) =>
      match (s.tables.controls c).mu with
      | .closing _ p false true =>
          (s.table (.delete c)).map fun t => { t with closing := p :: s.closing }
      | _ => none
  | .table (.tearClose c name) =>
      if s.tearing c = none then s.table (.tearClose c name) else none
  | .table (.tearDel c) =>
      match (s.tables.controls c).mu with
      | .tearing _ (some (_, p)) =>
          (s.table (.tearDel c)).map fun t =>
            { t with tearing := Function.update s.tearing c (some p) }
      | _ => none
  | .table (.tearDone c) => if s.tearing c = none then s.table (.tearDone c) else none
  | .table l => s.table l
  | .forceDelete c now =>
      match (s.tables.controls c).mu with
      | .closing _ p true true =>
          (s.table (.delete c)).map fun t => t.metricsCloseProxy types p now
      | _ => none
  | .newProxy c now =>
      (s.starting c).map fun p =>
        { s with
          starting := Function.update s.starting c none
          info := s.info.newProxy p.name (types p) now }
  | .closeProxy p now =>
      if p ∈ s.closing then
        some { s.metricsCloseProxy types p now with closing := s.closing.erase p }
      else none
  | .tearMetrics c now =>
      (s.tearing c).map fun p =>
        { s.metricsCloseProxy types p now with tearing := Function.update s.tearing c none }

/-! ## What the counters promise -/

/-- No operation is in progress, and no call into the metrics is left to make. -/
structure Quiet (s : State) : Prop where
  tables : Registry.Quiet s.tables
  starting : ∀ c, s.starting c = none
  closing : s.closing = []
  tearing : ∀ c, s.tearing c = none

/-- The registered proxies of a type. -/
def State.registered (s : State) (proxyType : String) : Int :=
  s.tables.pxys.total fun p => if types p = proxyType then 1 else 0

/-- `ProxyTypeCounts[proxyType]` -/
def State.count (s : State) (proxyType : String) : Int32 :=
  (s.info.proxyTypeCounts.get proxyType).getD 0

/-- The counter of each type is the number of its registered proxies, as an `int32`. -/
def CountsAgree (s : State) : Prop :=
  ∀ proxyType, s.count proxyType = Int32.ofInt (s.registered types proxyType)

def State.HasCounter (s : State) (proxyType : String) : Prop :=
  (s.info.proxyTypeCounts.get proxyType).isSome = true

/-- The condition on a step. -/
def Guard (s : State) : Label → Prop
  | .table l => ¬ Registry.StaleClose s.tables l
  | .forceDelete c _ =>
      match (s.tables.controls c).mu with
      | .closing _ p _ _ => s.HasCounter (types p)
      | .free | .tearing .. => True
  | .closeProxy p _ => s.HasCounter (types p)
  | .newProxy .. | .tearMetrics .. => True

end Machine

/-! ## Steps of the tables -/

section Tables

variable {s t : Registry.State} {c : Nat} {l : Registry.Label}

/-- The steps that neither register nor delete anything. -/
def Plain : Registry.Label → Prop
  | .exist .. | .run .. | .managerExit _ | .close .. | .tearStart _ | .tearClose .. | .tearDone _ =>
      True
  | .add _ | .insert _ | .del _ | .delete _ | .tearDel _ => False

/-- What such a step leaves. -/
structure Same (s t : Registry.State) : Prop where
  pxys : t.pxys = s.pxys
  registeredBy : t.registeredBy = s.registeredBy
  proxies : ∀ d, (t.controls d).proxies = (s.controls d).proxies
  added : ∀ d p, (t.controls d).register = .added p ↔ (s.controls d).register = .added p
  deleted : ∀ d name p force, (t.controls d).mu = .closing name p force true ↔
    (s.controls d).mu = .closing name p force true

theorem same_refl (s : Registry.State) : Same s s :=
  ⟨rfl, rfl, fun _ => rfl, fun _ _ => Iff.rfl, fun _ _ _ _ => Iff.rfl⟩

theorem same_set {ctl : Registry.Control} (pxys : t.pxys = s.pxys)
    (registeredBy : t.registeredBy = s.registeredBy)
    (controls : t.controls = Function.update s.controls c ctl)
    (proxies : ctl.proxies = (s.controls c).proxies)
    (added : ∀ p, ctl.register = .added p ↔ (s.controls c).register = .added p)
    (deleted : ∀ name p force, ctl.mu = .closing name p force true ↔
      (s.controls c).mu = .closing name p force true) : Same s t := by
  have other : ∀ d, d ≠ c → t.controls d = s.controls d := fun d other => by
    rw [controls, Function.update_of_ne other]
  have self : t.controls c = ctl := by
    rw [controls, Function.update_self]
  refine ⟨pxys, registeredBy, fun d => ?_, fun d p => ?_, fun d name p force => ?_⟩
  · by_cases same : d = c
    · rw [same, self, proxies]
    · rw [other d same]
  · by_cases same : d = c
    · rw [same, self]
      exact added p
    · rw [other d same]
  · by_cases same : d = c
    · rw [same, self]
      exact deleted name p force
    · rw [other d same]

theorem same_of_plain (plain : Plain l) (next : Registry.step s l = some t) : Same s t := by
  cases l with
  | add | insert | del | delete | tearDel => exact plain.elim
  | exist c name =>
      simp only [Registry.step] at next
      split at next
      · rename_i idle
        split at next
        · cases next
          exact same_set rfl rfl rfl rfl (fun p => by simp [idle]) fun _ _ _ => Iff.rfl
        · cases next
          exact same_refl s
      · cases next
  | run c ok =>
      simp only [Registry.step] at next
      split at next
      · rename_i name checked
        split at next
        · cases next
          exact same_set rfl rfl rfl rfl (fun p => by simp [checked]) fun _ _ _ => Iff.rfl
        · cases next
          exact same_set rfl rfl rfl rfl (fun p => by simp [checked]) fun _ _ _ => Iff.rfl
      · cases next
  | managerExit c =>
      simp only [Registry.step] at next
      split at next
      · rename_i idle
        cases next
        exact same_set rfl rfl rfl rfl (fun p => by simp [idle]) fun _ _ _ => Iff.rfl
      · cases next
  | close c name force =>
      simp only [Registry.step] at next
      split at next
      · rename_i p free listed
        cases next
        exact same_set rfl rfl rfl rfl (fun _ => Iff.rfl) fun n q f => by simp [free]
      · cases next
        exact same_refl s
      · cases next
  | tearStart c =>
      simp only [Registry.step, Option.ite_none_right_eq_some] at next
      obtain ⟨⟨-, free, -⟩, done⟩ := next
      cases done
      exact same_set rfl rfl rfl rfl (fun _ => Iff.rfl) fun n q f => by simp [free]
  | tearClose c name =>
      simp only [Registry.step] at next
      split at next
      · rename_i visited p held listed
        split at next
        · cases next
        · cases next
          exact same_set rfl rfl rfl rfl (fun _ => Iff.rfl) fun n q f => by simp [held]
      · cases next
  | tearDone c =>
      simp only [Registry.step] at next
      split at next
      · rename_i visited held
        split at next
        · cases next
          exact same_set rfl rfl rfl rfl (fun _ => Iff.rfl) fun n q f => by simp [held]
        · cases next
      · cases next

/-- The manager goroutine stays idle until it takes up a message or returns. -/
theorem idle_kept (idle : (s.controls c).register = .idle) (next : Registry.step s l = some t)
    (noExist : ∀ name, l ≠ .exist c name) (noExit : l ≠ .managerExit c) :
    (t.controls c).register = .idle := by
  by_cases other : c = l.actor
  · subst other
    cases l with
    | exist c name => exact absurd rfl (noExist name)
    | managerExit c => exact absurd rfl noExit
    | run | add | insert =>
        simp only [Registry.Label.actor] at idle
        simp only [Registry.step, idle] at next
        cases next
    | close | del | delete | tearStart | tearClose | tearDel | tearDone =>
        simp only [Registry.Label.actor] at idle ⊢
        simp only [Registry.step] at next
        repeat' split at next
        all_goals first
          | cases next; simpa using idle
          | cases next
  · rw [Registry.others_kept next other]
    exact idle

/-- Between two proxies `stoper` holds the mutex, and nobody else changes the control. -/
theorem tearing_kept {visited : Finset String} (held : (s.controls c).mu = .tearing visited none)
    (exited : (s.controls c).register = .exited) (next : Registry.step s l = some t)
    (noClose : ∀ name, l ≠ .tearClose c name) (noDone : l ≠ .tearDone c) :
    t.controls c = s.controls c := by
  by_cases other : c = l.actor
  · subst other
    cases l with
    | tearClose c name => exact absurd rfl (noClose name)
    | tearDone c => exact absurd rfl noDone
    | exist | run | add | insert | managerExit =>
        simp only [Registry.Label.actor] at exited
        simp [Registry.step, exited] at next
    | close | del | delete | tearStart | tearDel =>
        simp only [Registry.Label.actor] at held
        simp [Registry.step, held] at next
  · exact Registry.others_kept next other

end Tables

/-! ## The calls that are still to come -/

section Pending

variable {types : Pxy → String} {s t : State} {c : Nat} {p : Pxy}

/-- The proxy is or will be in the global table, and `metrics.NewProxy` was not called. -/
def State.Uncounted (s : State) (p : Pxy) : Prop :=
  (∃ c, (s.tables.controls c).register = .added p) ∨ ∃ c, s.starting c = some p

/-- The proxy is out of the global table, and `metrics.CloseProxy` was not called. -/
def State.Undone (s : State) (p : Pxy) : Prop :=
  (∃ c name force, (s.tables.controls c).mu = .closing name p force true) ∨
    p ∈ s.closing ∨ ∃ c, s.tearing c = some p

structure Own (types : Pxy → String) (s : State) : Prop where
  tables : Registry.Inv s.tables
  started : ∀ c p, s.starting c = some p →
    s.tables.registeredBy p = some c ∧ (s.tables.controls c).register = .idle
  off : ∀ p ∈ s.closing, ∃ c, s.tables.registeredBy p = some c ∧
    (s.tables.controls c).proxies.get p.name ≠ some p ∧
    (s.tables.controls c).register ≠ .added p
  nodup : s.closing.Nodup
  torn : ∀ c p, s.tearing c = some p → ∃ visited,
    (s.tables.controls c).mu = .tearing visited none ∧
    (s.tables.controls c).proxies.get p.name = some p
  known : ∀ p c, s.tables.registeredBy p = some c → s.Uncounted p ∨ s.HasCounter (types p)

theorem start_own (types : Pxy → String) : Own types start where
  tables := Registry.start_inv
  started c p starting := by cases starting
  off p inside := by cases inside
  nodup := List.nodup_nil
  torn c p tearing := by cases tearing
  known p c reg := by cases reg

theorem Own.uncounted_registered (own : Own types s) (uncounted : s.Uncounted p) :
    ∃ c, s.tables.registeredBy p = some c ∧
      ((s.tables.controls c).register = .added p ∨
        s.starting c = some p ∧ (s.tables.controls c).register = .idle) := by
  rcases uncounted with ⟨c, added⟩ | ⟨c, starting⟩
  · exact ⟨c, ((own.tables.locals c).added p added).2.1, .inl added⟩
  · exact ⟨c, (own.started c p starting).1, .inr ⟨starting, (own.started c p starting).2⟩⟩

/-- A control lists its own proxies only. -/
theorem Own.listed_by (own : Own types s) {name : String}
    (listed : (s.tables.controls c).proxies.get name = some p) :
    p.name = name ∧ s.tables.registeredBy p = some c :=
  ⟨((own.tables.locals c).listed name p listed).1, ((own.tables.locals c).listed name p listed).2.2⟩

/-- A proxy that its control lists is undone only by the holder of the control's mutex. -/
theorem Own.undone_listed (own : Own types s)
    (listed : (s.tables.controls c).proxies.get p.name = some p) (undone : s.Undone p) :
    (∃ name force, (s.tables.controls c).mu = .closing name p force true) ∨
      s.tearing c = some p := by
  have owner : ∀ {d name}, (s.tables.controls d).proxies.get name = some p → d = c := by
    intro d name listed'
    exact Option.some.inj ((own.listed_by listed').2.symm.trans (own.listed_by listed).2)
  rcases undone with ⟨d, name, force, held⟩ | inside | ⟨d, tearing⟩
  · obtain rfl := owner ((own.tables.locals d).closing name p force true held)
    exact .inl ⟨name, force, held⟩
  · obtain ⟨d, reg, off, -⟩ := own.off p inside
    obtain rfl : d = c := Option.some.inj (reg.symm.trans (own.listed_by listed).2)
    exact absurd listed off
  · obtain ⟨visited, -, listed'⟩ := own.torn d p tearing
    obtain rfl := owner listed'
    exact .inr tearing

/-- The type of a proxy counts one. -/
def one (types : Pxy → String) (proxyType : String) (p : Pxy) : Int :=
  if types p = proxyType then 1 else 0

/-- Each counter is what it will be, less the calls still to come. -/
structure Counted (types : Pxy → String) (s : State) (uncounted undone : Finset Pxy) : Prop where
  uncounted_iff : ∀ p, p ∈ uncounted ↔ s.Uncounted p
  undone_iff : ∀ p, p ∈ undone ↔ s.Undone p
  count : ∀ proxyType, s.count proxyType = Int32.ofInt (s.tables.pxys.total (one types proxyType)
    + ∑ p ∈ undone, one types proxyType p - ∑ p ∈ uncounted, one types proxyType p)

theorem start_counted (types : Pxy → String) : Counted types start ∅ ∅ where
  uncounted_iff p := by
    refine ⟨fun none => absurd none (Finset.notMem_empty p), ?_⟩
    rintro (⟨c, added⟩ | ⟨c, starting⟩)
    · cases added
    · cases starting
  undone_iff p := by
    refine ⟨fun none => absurd none (Finset.notMem_empty p), ?_⟩
    rintro (⟨c, name, force, held⟩ | inside | ⟨c, tearing⟩)
    · cases held
    · cases inside
    · cases tearing
  count proxyType := by
    have none_ : start.tables.pxys.total (one types proxyType) = 0 := rfl
    rw [none_, Finset.sum_empty]
    rfl

section Effects

variable {uncounted undone : Finset Pxy}

theorem Counted.congr (counted : Counted types s uncounted undone)
    (pxys : t.tables.pxys = s.tables.pxys) (info : t.info = s.info)
    (same : ∀ p, t.Uncounted p ↔ s.Uncounted p) (same' : ∀ p, t.Undone p ↔ s.Undone p) :
    Counted types t uncounted undone where
  uncounted_iff p := (counted.uncounted_iff p).trans (same p).symm
  undone_iff p := (counted.undone_iff p).trans (same' p).symm
  count proxyType := by
    rw [pxys, State.count, info]
    exact counted.count proxyType

/-- A proxy enters the global table. -/
theorem Counted.add (counted : Counted types s uncounted undone)
    (pxys : t.tables.pxys = s.tables.pxys.set p.name p) (free : s.tables.pxys.get p.name = none)
    (info : t.info = s.info) (new : ¬ s.Uncounted p)
    (gains : ∀ q, t.Uncounted q ↔ q = p ∨ s.Uncounted q)
    (same : ∀ q, t.Undone q ↔ s.Undone q) : Counted types t (insert p uncounted) undone where
  uncounted_iff q := by rw [Finset.mem_insert, counted.uncounted_iff q, gains q]
  undone_iff q := (counted.undone_iff q).trans (same q).symm
  count proxyType := by
    have out : p ∉ uncounted := fun inside => new ((counted.uncounted_iff p).1 inside)
    rw [pxys, GoMap.total_set_of_none free, Finset.sum_insert out, State.count, info]
    refine (counted.count proxyType).trans (congrArg Int32.ofInt ?_)
    omega

/-- A proxy leaves the global table. -/
theorem Counted.delete (counted : Counted types s uncounted undone) {name : String}
    (pxys : t.tables.pxys = s.tables.pxys.delete name) (entry : s.tables.pxys.get name = some p)
    (info : t.info = s.info) (new : ¬ s.Undone p) (same : ∀ q, t.Uncounted q ↔ s.Uncounted q)
    (gains : ∀ q, t.Undone q ↔ q = p ∨ s.Undone q) :
    Counted types t uncounted (insert p undone) where
  uncounted_iff q := (counted.uncounted_iff q).trans (same q).symm
  undone_iff q := by rw [Finset.mem_insert, counted.undone_iff q, gains q]
  count proxyType := by
    have out : p ∉ undone := fun inside => new ((counted.undone_iff p).1 inside)
    rw [pxys, GoMap.total_delete_of_some entry, Finset.sum_insert out, State.count, info]
    refine (counted.count proxyType).trans (congrArg Int32.ofInt ?_)
    omega

theorem newProxy_count (m : Metrics.Server.ServerStatistics) (p : Pxy) (now : Int)
    (proxyType : String) :
    ((m.newProxy p.name (types p) now).proxyTypeCounts.get proxyType).getD 0 =
      (m.proxyTypeCounts.get proxyType).getD 0 + Int32.ofInt (one types proxyType p) := by
  show ((m.proxyTypeCounts.set (types p) _).get proxyType).getD 0 = _
  rw [GoMap.get_set]
  unfold one
  by_cases same : types p = proxyType
  · rw [if_pos same.symm, if_pos same, ← same]
    rfl
  · rw [if_neg (Ne.symm same), if_neg same]
    exact (Int32.add_zero _).symm

theorem closeProxy_count {m : Metrics.Server.ServerStatistics} (p : Pxy) (now : Int)
    (has : (m.proxyTypeCounts.get (types p)).isSome = true) (proxyType : String) :
    ((m.closeProxy p.name (types p) now).proxyTypeCounts.get proxyType).getD 0 =
      (m.proxyTypeCounts.get proxyType).getD 0 - Int32.ofInt (one types proxyType p) := by
  show ((m.proxyTypeCounts.modify (types p) (· - 1)).get proxyType).getD 0 = _
  rw [GoMap.get_modify]
  unfold one
  by_cases same : types p = proxyType
  · rw [if_pos same.symm, if_pos same, ← same]
    obtain ⟨counter, found⟩ := Option.isSome_iff_exists.1 has
    rw [found]
    rfl
  · rw [if_neg (Ne.symm same), if_neg same]
    exact (Int32.sub_zero _).symm

/-- `metrics.NewProxy` is called for a proxy. -/
theorem Counted.newProxy (counted : Counted types s uncounted undone) (now : Int)
    (pxys : t.tables.pxys = s.tables.pxys)
    (info : t.info = s.info.newProxy p.name (types p) now) (old : s.Uncounted p)
    (loses : ∀ q, t.Uncounted q ↔ q ≠ p ∧ s.Uncounted q)
    (same : ∀ q, t.Undone q ↔ s.Undone q) : Counted types t (uncounted.erase p) undone where
  uncounted_iff q := by rw [Finset.mem_erase, counted.uncounted_iff q, loses q]
  undone_iff q := (counted.undone_iff q).trans (same q).symm
  count proxyType := by
    have inside : p ∈ uncounted := (counted.uncounted_iff p).2 old
    have split_ := Finset.sum_erase_add uncounted (one types proxyType) inside
    have before := counted.count proxyType
    rw [State.count] at before ⊢
    rw [pxys, info, newProxy_count, before, ← Int32.ofInt_add]
    exact congrArg Int32.ofInt (by omega)

/-- `metrics.CloseProxy` is called for a proxy whose type has a counter. -/
theorem Counted.closeProxy (counted : Counted types s uncounted undone) (now : Int)
    (pxys : t.tables.pxys = s.tables.pxys)
    (info : t.info = s.info.closeProxy p.name (types p) now) (has : s.HasCounter (types p))
    (old : s.Undone p) (same : ∀ q, t.Uncounted q ↔ s.Uncounted q)
    (loses : ∀ q, t.Undone q ↔ q ≠ p ∧ s.Undone q) :
    Counted types t uncounted (undone.erase p) where
  uncounted_iff q := (counted.uncounted_iff q).trans (same q).symm
  undone_iff q := by rw [Finset.mem_erase, counted.undone_iff q, loses q]
  count proxyType := by
    have inside : p ∈ undone := (counted.undone_iff p).2 old
    have split_ := Finset.sum_erase_add undone (one types proxyType) inside
    have before := counted.count proxyType
    rw [State.count] at before ⊢
    rw [pxys, info, closeProxy_count p now has, before, ← Int32.ofInt_sub]
    exact congrArg Int32.ofInt (by omega)

end Effects

/-! ## Every step keeps the account -/

structure Inv (types : Pxy → String) (s : State) : Prop where
  own : Own types s
  counted : ∃ uncounted undone, Counted types s uncounted undone

theorem start_inv (types : Pxy → String) : Inv types start :=
  ⟨start_own types, ∅, ∅, start_counted types⟩

/-- A step on the tables that neither registers nor deletes. -/
theorem Inv.same (inv : Inv types s) {l : Registry.Label} {tables : Registry.State}
    (fresh : ¬ Registry.StaleClose s.tables l) (next : Registry.step s.tables l = some tables)
    (same : Same s.tables tables) (noExist : ∀ c name, l = .exist c name → s.starting c = none)
    (noExit : ∀ c, l = .managerExit c → s.starting c = none)
    (noClose : ∀ c name, l = .tearClose c name → s.tearing c = none)
    (noDone : ∀ c, l = .tearDone c → s.tearing c = none) :
    Inv types { s with tables := tables } := by
  obtain ⟨own, uncounted, undone, counted⟩ := inv
  have sameUncounted : ∀ p, State.Uncounted { s with tables := tables } p ↔ s.Uncounted p :=
    fun p => or_congr_left (exists_congr fun d => same.added d p)
  have sameUndone : ∀ p, State.Undone { s with tables := tables } p ↔ s.Undone p := fun p =>
    or_congr_left (exists_congr fun d => exists_congr fun n => exists_congr fun f =>
      same.deleted d n p f)
  refine ⟨⟨Registry.step_inv own.tables fresh next, ?_, ?_, own.nodup, ?_, ?_⟩,
    uncounted, undone, counted.congr same.pxys rfl sameUncounted sameUndone⟩
  · intro c p starting
    obtain ⟨reg, idle⟩ := own.started c p starting
    refine ⟨(congrFun same.registeredBy p).trans reg, idle_kept idle next ?_ ?_⟩
    · intro name exist
      cases (noExist c name exist).symm.trans starting
    · intro exit
      cases (noExit c exit).symm.trans starting
  · intro p inside
    obtain ⟨c, reg, off, notAdded⟩ := own.off p inside
    refine ⟨c, (congrFun same.registeredBy p).trans reg, ?_, fun added =>
      notAdded ((same.added c p).1 added)⟩
    show (tables.controls c).proxies.get p.name ≠ some p
    rw [same.proxies c]
    exact off
  · intro c p tearing
    obtain ⟨visited, held, listed⟩ := own.torn c p tearing
    have exited := ((own.tables.locals c).tearing visited none held).1
    have kept : tables.controls c = s.tables.controls c := by
      refine tearing_kept held exited next ?_ ?_
      · intro name close
        cases (noClose c name close).symm.trans tearing
      · intro done
        cases (noDone c done).symm.trans tearing
    refine ⟨visited, ?_, ?_⟩
    · show (tables.controls c).mu = _
      rw [kept, held]
    · show (tables.controls c).proxies.get p.name = _
      rw [kept, listed]
  · intro p c reg
    exact (own.known p c ((congrFun same.registeredBy p).symm.trans reg)).imp_left
      (sameUncounted p).2

/-- `RegisterProxy` enters a proxy into the global table. -/
structure Enters (s : State) (c : Nat) (p : Pxy) (tables : Registry.State) : Prop where
  ran : (s.tables.controls c).register = .ran p
  unregistered : s.tables.registeredBy p = none
  free : s.tables.pxys.get p.name = none
  pxys : tables.pxys = s.tables.pxys.set p.name p
  registered : ∀ q, q ≠ p → tables.registeredBy q = s.tables.registeredBy q
  self : (tables.controls c).register = .added p
  others : ∀ d, d ≠ c → (tables.controls d).register = (s.tables.controls d).register
  proxies : ∀ d, (tables.controls d).proxies = (s.tables.controls d).proxies
  mu : ∀ d, (tables.controls d).mu = (s.tables.controls d).mu

theorem Own.enters (own : Own types s) {tables : Registry.State}
    (ran : (s.tables.controls c).register = .ran p) (free : s.tables.pxys.get p.name = none)
    (next : Registry.step s.tables (.add c) = some tables) : Enters s c p tables := by
  obtain ⟨-, -, unregistered, -⟩ := (own.tables.locals c).ran p ran
  have others : ∀ d, d ≠ c → tables.controls d = s.tables.controls d := fun d other =>
    Registry.others_kept next other
  simp only [Registry.step, ran, free] at next
  cases next
  refine ⟨ran, unregistered, free, rfl, fun q other => Function.update_of_ne other _ _, by simp,
    fun d other => congrArg _ (others d other), fun d => ?_, fun d => ?_⟩
  · by_cases same : d = c
    · simp [same]
    · rw [others d same]
  · by_cases same : d = c
    · simp [same]
    · rw [others d same]

section Enter

variable {tables : Registry.State} {q : Pxy} {d : Nat}

theorem Enters.old (enters : Enters s c p tables) (reg : s.tables.registeredBy q = some d) :
    q ≠ p := by
  rintro rfl
  cases enters.unregistered.symm.trans reg

theorem Enters.reg (enters : Enters s c p tables) (reg : s.tables.registeredBy q = some d) :
    tables.registeredBy q = some d :=
  (enters.registered q (enters.old reg)).trans reg

theorem Enters.added_iff (enters : Enters s c p tables) :
    (tables.controls d).register = .added q ↔
      d = c ∧ q = p ∨ (s.tables.controls d).register = .added q := by
  by_cases same : d = c
  · subst same
    rw [enters.self, enters.ran]
    simp [eq_comm]
  · rw [enters.others d same]
    simp [same]

theorem Enters.idle (enters : Enters s c p tables)
    (idle : (s.tables.controls d).register = .idle) : (tables.controls d).register = .idle := by
  have other : d ≠ c := by
    rintro rfl
    cases enters.ran.symm.trans idle
  rw [enters.others d other, idle]

theorem Enters.uncounted_iff (enters : Enters s c p tables) :
    State.Uncounted { s with tables := tables } q ↔ q = p ∨ s.Uncounted q := by
  constructor
  · rintro (⟨d, added⟩ | starting)
    · rcases enters.added_iff.1 added with ⟨-, same⟩ | added
      · exact .inl same
      · exact .inr (.inl ⟨d, added⟩)
    · exact .inr (.inr starting)
  · rintro (rfl | ⟨d, added⟩ | starting)
    · exact .inl ⟨c, enters.self⟩
    · exact .inl ⟨d, enters.added_iff.2 (.inr added)⟩
    · exact .inr starting

theorem Enters.own (enters : Enters s c p tables) (own : Own types s)
    (tablesInv : Registry.Inv tables) : Own types { s with tables := tables } where
  tables := tablesInv
  started := by
    intro d q starting
    obtain ⟨reg, idle⟩ := own.started d q starting
    exact ⟨enters.reg reg, enters.idle idle⟩
  off := by
    intro q inside
    obtain ⟨d, reg, off, notAdded⟩ := own.off q inside
    refine ⟨d, enters.reg reg, ?_, fun added => ?_⟩
    · show (tables.controls d).proxies.get q.name ≠ some q
      rw [enters.proxies d]
      exact off
    · rcases enters.added_iff.1 added with ⟨-, same⟩ | added
      · exact enters.old reg same
      · exact notAdded added
  nodup := own.nodup
  torn := by
    intro d q tearing
    obtain ⟨visited, held, listed⟩ := own.torn d q tearing
    refine ⟨visited, (enters.mu d).trans held, ?_⟩
    show (tables.controls d).proxies.get q.name = _
    rw [enters.proxies d, listed]
  known := by
    intro q d reg
    by_cases same : q = p
    · exact .inl (enters.uncounted_iff.2 (.inl same))
    · exact (own.known q d ((enters.registered q same).symm.trans reg)).imp_left
        fun uncounted => enters.uncounted_iff.2 (.inr uncounted)

end Enter

/-- `RegisterProxy` enters a proxy into the global table, or finds the name taken. -/
theorem Inv.add (inv : Inv types s) {tables : Registry.State}
    (next : Registry.step s.tables (.add c) = some tables) :
    Inv types { s with tables := tables } := by
  have tablesInv := Registry.step_inv inv.own.tables id next
  have whole := next
  simp only [Registry.step] at next
  split at next
  · rename_i p ran
    split at next
    · rename_i free
      obtain ⟨own, uncounted, undone, counted⟩ := inv
      have enters := own.enters ran free whole
      have new : ¬ s.Uncounted p := by
        intro old
        obtain ⟨d, reg, -⟩ := own.uncounted_registered old
        exact enters.old reg rfl
      refine ⟨enters.own own tablesInv, insert p uncounted, undone,
        counted.add enters.pxys free rfl new (fun q => enters.uncounted_iff) fun q => ?_⟩
      exact or_congr_left (exists_congr fun d => exists_congr fun n => exists_congr fun f =>
        by rw [show ((({ s with tables := tables } : State).tables.controls d).mu) = _
          from enters.mu d])
    · cases next
      refine inv.same id whole (same_set rfl rfl rfl rfl (fun q => by simp [ran]) fun _ _ _ =>
        Iff.rfl) ?_ ?_ ?_ ?_
      all_goals
        intros
        contradiction
  · cases next

/-- `RegisterProxy` inserts the proxy into the table of the control. -/
structure Inserts (s : State) (c : Nat) (p : Pxy) (tables : Registry.State) : Prop where
  added : (s.tables.controls c).register = .added p
  free : (s.tables.controls c).mu = .free
  others : ∀ d, d ≠ c → tables.controls d = s.tables.controls d
  self : tables.controls c = { s.tables.controls c with
    register := .idle
    proxies := (s.tables.controls c).proxies.set p.name p }
  pxys : tables.pxys = s.tables.pxys
  registered : tables.registeredBy = s.tables.registeredBy

theorem inserts_of_step {tables : Registry.State}
    (added : (s.tables.controls c).register = .added p)
    (next : Registry.step s.tables (.insert c) = some tables) : Inserts s c p tables := by
  have others : ∀ d, d ≠ c → tables.controls d = s.tables.controls d := fun d other =>
    Registry.others_kept next other
  simp only [Registry.step, added] at next
  split at next
  · rename_i q same free
    cases same
    cases next
    exact ⟨added, free, others, by simp, rfl, rfl⟩
  · cases next

section Insert

variable {tables : Registry.State} {q : Pxy} {d : Nat}

theorem Inserts.mu (inserts : Inserts s c p tables) (d : Nat) :
    (tables.controls d).mu = (s.tables.controls d).mu := by
  by_cases same : d = c
  · rw [same, inserts.self]
  · rw [inserts.others d same]

/-- The proxy is no longer added but about to be counted. -/
theorem Inserts.uncounted_iff (inserts : Inserts s c p tables) (own : Own types s) :
    State.Uncounted { s with
      tables := tables
      starting := Function.update s.starting c (some p) } q ↔ s.Uncounted q := by
  constructor
  · rintro (⟨d, added⟩ | ⟨d, starting⟩)
    · by_cases same : d = c
      · rw [same, inserts.self] at added
        cases added
      · exact .inl ⟨d, (congrArg _ (inserts.others d same)).symm.trans added⟩
    · by_cases same : d = c
      · subst same
        cases (Function.update_self d (some p) s.starting).symm.trans starting
        exact .inl ⟨d, inserts.added⟩
      · exact .inr ⟨d, (Function.update_of_ne same _ _).symm.trans starting⟩
  · rintro (⟨d, added⟩ | ⟨d, starting⟩)
    · by_cases same : d = c
      · subst same
        cases inserts.added.symm.trans added
        exact .inr ⟨d, Function.update_self ..⟩
      · exact .inl ⟨d, (congrArg _ (inserts.others d same)).trans added⟩
    · have other : d ≠ c := by
        rintro rfl
        cases (own.started d q starting).2.symm.trans inserts.added
      exact .inr ⟨d, (Function.update_of_ne other _ _).trans starting⟩

/-- What is off the tables stays off them. -/
theorem Inserts.off (inserts : Inserts s c p tables)
    (off : (s.tables.controls d).proxies.get q.name ≠ some q)
    (notAdded : (s.tables.controls d).register ≠ .added q) :
    (tables.controls d).proxies.get q.name ≠ some q ∧
      (tables.controls d).register ≠ .added q := by
  by_cases same : d = c
  · subst same
    rw [inserts.self]
    refine ⟨fun listed => ?_, nofun⟩
    rcases GoMap.get_set_eq_some.1 listed with ⟨-, rfl⟩ | ⟨-, listed⟩
    · exact notAdded inserts.added
    · exact off listed
  · rw [inserts.others d same]
    exact ⟨off, notAdded⟩

theorem Inserts.own (inserts : Inserts s c p tables) (own : Own types s)
    (tablesInv : Registry.Inv tables) :
    Own types { s with
      tables := tables
      starting := Function.update s.starting c (some p) } where
  tables := tablesInv
  started := by
    intro d q starting
    by_cases same : d = c
    · subst same
      cases (Function.update_self d (some p) s.starting).symm.trans starting
      have reg := ((own.tables.locals d).added p inserts.added).2.1
      exact ⟨(congrFun inserts.registered p).trans reg,
        congrArg Registry.Control.register inserts.self⟩
    · obtain ⟨reg, idle⟩ := own.started d q
        ((Function.update_of_ne same _ _).symm.trans starting)
      exact ⟨(congrFun inserts.registered q).trans reg,
        (congrArg _ (inserts.others d same)).trans idle⟩
  off := by
    intro q inside
    obtain ⟨d, reg, off, notAdded⟩ := own.off q inside
    exact ⟨d, (congrFun inserts.registered q).trans reg, inserts.off off notAdded⟩
  nodup := own.nodup
  torn := by
    intro d q tearing
    obtain ⟨visited, held, listed⟩ := own.torn d q tearing
    have other : d ≠ c := by
      rintro rfl
      cases inserts.free.symm.trans held
    refine ⟨visited, (inserts.mu d).trans held, ?_⟩
    show (tables.controls d).proxies.get q.name = _
    rw [inserts.others d other, listed]
  known := by
    intro q d reg
    exact (own.known q d ((congrFun inserts.registered q).symm.trans reg)).imp_left
      (inserts.uncounted_iff own).2

end Insert

/-- `RegisterProxy` returns, and the manager goroutine is about to count the proxy. -/
theorem Inv.inserted (inv : Inv types s) {tables : Registry.State}
    (added : (s.tables.controls c).register = .added p)
    (next : Registry.step s.tables (.insert c) = some tables) :
    Inv types { s with
      tables := tables
      starting := Function.update s.starting c (some p) } := by
  have tablesInv := Registry.step_inv inv.own.tables id next
  obtain ⟨own, uncounted, undone, counted⟩ := inv
  have inserts := inserts_of_step added next
  refine ⟨inserts.own own tablesInv, uncounted, undone,
    counted.congr inserts.pxys rfl (fun q => inserts.uncounted_iff own) fun q => ?_⟩
  exact or_congr_left (exists_congr fun d => exists_congr fun n => exists_congr fun f =>
    by rw [show (tables.controls d).mu = _ from inserts.mu d])

/-- The holder of the mutex deletes the proxy from the global table. -/
theorem Inv.erase (inv : Inv types s) {tables : Registry.State} {mu : Registry.Mu}
    {tearing : Nat → Option Pxy} (tablesInv : Registry.Inv tables)
    (controls : tables.controls =
      Function.update s.tables.controls c { s.tables.controls c with mu := mu })
    (registered : tables.registeredBy = s.tables.registeredBy) {name : String}
    (pxys : tables.pxys = s.tables.pxys.delete name) (entry : s.tables.pxys.get name = some p)
    (new : ¬ s.Undone p)
    (gains : ∀ q, State.Undone { s with tables := tables, tearing := tearing } q ↔
      q = p ∨ s.Undone q)
    (torn : ∀ d q, tearing d = some q → ∃ visited,
      (tables.controls d).mu = .tearing visited none ∧
      (s.tables.controls d).proxies.get q.name = some q) :
    Inv types { s with tables := tables, tearing := tearing } := by
  obtain ⟨own, uncounted, undone, counted⟩ := inv
  have kept : ∀ d, (tables.controls d).register = (s.tables.controls d).register ∧
      (tables.controls d).proxies = (s.tables.controls d).proxies := by
    intro d
    rw [controls]
    by_cases same : d = c
    · rw [same, Function.update_self]
      exact ⟨rfl, rfl⟩
    · rw [Function.update_of_ne same]
      exact ⟨rfl, rfl⟩
  have sameUncounted : ∀ q,
      State.Uncounted { s with tables := tables, tearing := tearing } q ↔ s.Uncounted q :=
    fun q => or_congr_left (exists_congr fun d => by
      rw [show (tables.controls d).register = _ from (kept d).1])
  refine ⟨⟨tablesInv, ?_, ?_, own.nodup, ?_, ?_⟩, uncounted, insert p undone,
    counted.delete pxys entry rfl new sameUncounted gains⟩
  · intro d q starting
    obtain ⟨reg, idle⟩ := own.started d q starting
    exact ⟨(congrFun registered q).trans reg, (kept d).1.trans idle⟩
  · intro q inside
    obtain ⟨d, reg, off, notAdded⟩ := own.off q inside
    refine ⟨d, (congrFun registered q).trans reg, ?_, ?_⟩
    · show (tables.controls d).proxies.get q.name ≠ some q
      rw [(kept d).2]
      exact off
    · show (tables.controls d).register ≠ .added q
      rw [(kept d).1]
      exact notAdded
  · intro d q tears
    obtain ⟨visited, held, listed⟩ := torn d q tears
    refine ⟨visited, held, ?_⟩
    show (tables.controls d).proxies.get q.name = some q
    rw [(kept d).2]
    exact listed
  · intro q d reg
    exact (own.known q d ((congrFun registered q).symm.trans reg)).imp_left (sameUncounted q).2

theorem Inv.del (inv : Inv types s) {tables : Registry.State}
    (next : Registry.step s.tables (.del c) = some tables) :
    Inv types { s with tables := tables } := by
  have tablesInv := Registry.step_inv inv.own.tables id next
  simp only [Registry.step] at next
  split at next
  · rename_i name p force held
    cases next
    have own := inv.own
    have locals := own.tables.locals c
    have listed := locals.closing name p force false held
    have named := (own.listed_by listed).1
    have entry : s.tables.pxys.get name = some p :=
      (own.tables.covers name p).2 ⟨c, .inr ⟨locals.live (by simp [held]), listed, by
        simp [held, Registry.Mu.Deleted]⟩⟩
    have key : (if force = true then name else p.name) = name := by
      rw [named, ite_self]
    refine inv.erase (p := p) tablesInv rfl rfl
      (congrArg s.tables.pxys.delete key) entry ?_ ?_ ?_
    · intro undone
      rcases own.undone_listed (named ▸ listed) undone with ⟨_, _, other⟩ | tearing
      · cases held.symm.trans other
      · obtain ⟨_, other, -⟩ := own.torn c p tearing
        cases held.symm.trans other
    · intro q
      constructor
      · rintro (⟨d, n, f, closing⟩ | later)
        · by_cases same : d = c
          · subst same
            simp only [Registry.set_controls_self] at closing
            cases closing
            exact .inl rfl
          · exact .inr (.inl ⟨d, n, f, (congrArg _
              (Registry.set_controls_of_ne s.tables same)).symm.trans closing⟩)
        · exact .inr (.inr later)
      · rintro (rfl | ⟨d, n, f, closing⟩ | later)
        · exact .inl ⟨c, name, force, by simp⟩
        · have other : d ≠ c := by
            rintro rfl
            cases held.symm.trans closing
          exact .inl ⟨d, n, f, (congrArg _
            (Registry.set_controls_of_ne s.tables other)).trans closing⟩
        · exact .inr later
    · intro d q tearing
      obtain ⟨visited, closing, listed'⟩ := own.torn d q tearing
      have other : d ≠ c := by
        rintro rfl
        cases held.symm.trans closing
      exact ⟨visited, (congrArg _ (Registry.set_controls_of_ne s.tables other)).trans closing,
        listed'⟩
  · cases next

theorem Inv.tearDel (inv : Inv types s) {tables : Registry.State} {visited : Finset String}
    {name : String} (held : (s.tables.controls c).mu = .tearing visited (some (name, p)))
    (next : Registry.step s.tables (.tearDel c) = some tables) :
    Inv types { s with
      tables := tables
      tearing := Function.update s.tearing c (some p) } := by
  have tablesInv := Registry.step_inv inv.own.tables id next
  simp only [Registry.step, held] at next
  cases next
  have own := inv.own
  have locals := own.tables.locals c
  obtain ⟨listed, unvisited⟩ := (locals.tearing visited _ held).2 name p rfl
  have named := (own.listed_by listed).1
  have entry : s.tables.pxys.get p.name = some p :=
    (own.tables.covers p.name p).2 ⟨c, .inr ⟨locals.live (by simp [held]), named ▸ listed, by
      rw [named]
      simpa [held, Registry.Mu.Deleted] using unvisited⟩⟩
  have none_ : s.tearing c = none := by
    cases tearing : s.tearing c with
    | none => rfl
    | some q =>
        obtain ⟨_, other, -⟩ := own.torn c q tearing
        cases held.symm.trans other
  refine inv.erase (p := p) tablesInv rfl rfl rfl entry ?_ ?_ ?_
  · intro undone
    rcases own.undone_listed (named ▸ listed) undone with ⟨_, _, other⟩ | tearing
    · cases held.symm.trans other
    · cases none_.symm.trans tearing
  · intro q
    constructor
    · rintro (⟨d, n, f, closing⟩ | inside | ⟨d, tearing⟩)
      · by_cases same : d = c
        · subst same
          simp only [Registry.set_controls_self] at closing
          cases closing
        · exact .inr (.inl ⟨d, n, f, (congrArg _
            (Registry.set_controls_of_ne s.tables same)).symm.trans closing⟩)
      · exact .inr (.inr (.inl inside))
      · by_cases same : d = c
        · subst same
          cases (Function.update_self d (some p) s.tearing).symm.trans tearing
          exact .inl rfl
        · exact .inr (.inr (.inr ⟨d, (Function.update_of_ne same _ _).symm.trans tearing⟩))
    · rintro (rfl | ⟨d, n, f, closing⟩ | inside | ⟨d, tearing⟩)
      · exact .inr (.inr ⟨c, Function.update_self ..⟩)
      · have other : d ≠ c := by
          rintro rfl
          cases held.symm.trans closing
        exact .inl ⟨d, n, f, (congrArg _
          (Registry.set_controls_of_ne s.tables other)).trans closing⟩
      · exact .inr (.inl inside)
      · have other : d ≠ c := by
          rintro rfl
          cases none_.symm.trans tearing
        exact .inr (.inr ⟨d, (Function.update_of_ne other _ _).trans tearing⟩)
  · intro d q tearing
    by_cases same : d = c
    · subst same
      cases (Function.update_self d (some p) s.tearing).symm.trans tearing
      exact ⟨insert name visited, by simp, named ▸ listed⟩
    · obtain ⟨visited', closing, listed'⟩ := own.torn d q
        ((Function.update_of_ne same _ _).symm.trans tearing)
      exact ⟨visited', (congrArg _ (Registry.set_controls_of_ne s.tables same)).trans closing,
        listed'⟩

/-- The end of a close: the proxy is out of the control's table, and the mutex is free. -/
structure Unlists (s : State) (c : Nat) (p : Pxy) (force : Bool) (tables : Registry.State) :
    Prop where
  held : ∃ name, (s.tables.controls c).mu = .closing name p force true
  listed : (s.tables.controls c).proxies.get p.name = some p
  others : ∀ d, d ≠ c → tables.controls d = s.tables.controls d
  self : tables.controls c = { s.tables.controls c with
    mu := .free
    proxies := (s.tables.controls c).proxies.delete p.name }
  pxys : tables.pxys = s.tables.pxys
  registered : tables.registeredBy = s.tables.registeredBy

theorem Own.unlists (own : Own types s) {tables : Registry.State} {name : String} {force : Bool}
    (held : (s.tables.controls c).mu = .closing name p force true)
    (next : Registry.step s.tables (.delete c) = some tables) : Unlists s c p force tables := by
  have listed := (own.tables.locals c).closing name p force true held
  obtain ⟨rfl, -⟩ := own.listed_by listed
  have others : ∀ d, d ≠ c → tables.controls d = s.tables.controls d := fun d other =>
    Registry.others_kept next other
  simp only [Registry.step, held] at next
  cases next
  exact ⟨⟨_, held⟩, listed, others, Registry.set_controls_self _, rfl, rfl⟩

section Unlist

variable {tables : Registry.State} {force : Bool}

theorem Unlists.register (unlists : Unlists s c p force tables) (d : Nat) :
    (tables.controls d).register = (s.tables.controls d).register := by
  by_cases same : d = c
  · rw [same, unlists.self]
  · rw [unlists.others d same]

theorem Unlists.uncounted (unlists : Unlists s c p force tables) (q : Pxy) :
    State.Uncounted { s with tables := tables } q ↔ s.Uncounted q :=
  or_congr_left (exists_congr fun d => by
    rw [show (({ s with tables := tables } : State).tables.controls d).register = _
      from unlists.register d])

/-- Only this proxy is no longer held back by a mutex. -/
theorem Unlists.deleted (unlists : Unlists s c p force tables) (q : Pxy) :
    (∃ d n f, (tables.controls d).mu = .closing n q f true) ↔
      ∃ d n f, d ≠ c ∧ (s.tables.controls d).mu = .closing n q f true := by
  constructor
  · rintro ⟨d, n, f, closing⟩
    by_cases same : d = c
    · rw [same, unlists.self] at closing
      cases closing
    · exact ⟨d, n, f, same, (congrArg _ (unlists.others d same)).symm.trans closing⟩
  · rintro ⟨d, n, f, other, closing⟩
    exact ⟨d, n, f, (congrArg _ (unlists.others d other)).trans closing⟩

theorem Unlists.off (unlists : Unlists s c p force tables) {d : Nat} {q : Pxy}
    (off : (s.tables.controls d).proxies.get q.name ≠ some q) :
    (tables.controls d).proxies.get q.name ≠ some q := by
  by_cases same : d = c
  · subst same
    rw [unlists.self]
    intro listed
    exact off (GoMap.get_delete_eq_some.1 listed).2
  · rw [unlists.others d same]
    exact off

theorem Own.unlist (own : Own types s) (unlists : Unlists s c p force tables)
    (tablesInv : Registry.Inv tables) : Own types { s with tables := tables } := by
  obtain ⟨name, held⟩ := unlists.held
  refine ⟨tablesInv, ?_, ?_, own.nodup, ?_, ?_⟩
  · intro d q starting
    obtain ⟨reg, idle⟩ := own.started d q starting
    exact ⟨(congrFun unlists.registered q).trans reg, (unlists.register d).trans idle⟩
  · intro q inside
    obtain ⟨d, reg, off, notAdded⟩ := own.off q inside
    refine ⟨d, (congrFun unlists.registered q).trans reg, unlists.off off, ?_⟩
    show (tables.controls d).register ≠ .added q
    rw [unlists.register d]
    exact notAdded
  · intro d q tearing
    obtain ⟨visited, closing, listed⟩ := own.torn d q tearing
    have other : d ≠ c := by
      rintro rfl
      cases held.symm.trans closing
    refine ⟨visited, (congrArg _ (unlists.others d other)).trans closing, ?_⟩
    show (tables.controls d).proxies.get q.name = some q
    rw [unlists.others d other]
    exact listed
  · intro q d reg
    exact (own.known q d ((congrFun unlists.registered q).symm.trans reg)).imp_left
      (unlists.uncounted q).2

/-- No other control holds the proxy back. -/
theorem Own.held_once (own : Own types s) (unlists : Unlists s c p force tables) {d : Nat}
    {name : String} {f : Bool} (closing : (s.tables.controls d).mu = .closing name p f true) :
    d = c := by
  have listed := (own.tables.locals d).closing name p f true closing
  exact Option.some.inj ((own.listed_by listed).2.symm.trans (own.listed_by unlists.listed).2)

theorem Inv.delete (inv : Inv types s) (unlists : Unlists s c p false tables)
    (tablesInv : Registry.Inv tables) :
    Inv types { s with tables := tables, closing := p :: s.closing } := by
  obtain ⟨own, uncounted, undone, counted⟩ := inv
  have own' := own.unlist unlists tablesInv
  have locals := own.tables.locals c
  obtain ⟨name, held⟩ := unlists.held
  have out : p ∉ s.closing := by
    intro inside
    obtain ⟨d, reg, off, -⟩ := own.off p inside
    obtain rfl : d = c := Option.some.inj (reg.symm.trans (own.listed_by unlists.listed).2)
    exact off unlists.listed
  refine ⟨⟨own'.tables, own'.started, ?_, List.nodup_cons.2 ⟨out, own.nodup⟩, own'.torn,
    own'.known⟩, uncounted, undone, counted.congr unlists.pxys rfl unlists.uncounted fun q => ?_⟩
  · intro q inside
    rcases List.mem_cons.1 inside with rfl | inside
    · refine ⟨c, (congrFun unlists.registered q).trans (own.listed_by unlists.listed).2, ?_, ?_⟩
      · show (tables.controls c).proxies.get q.name ≠ some q
        rw [unlists.self]
        intro listed
        exact (GoMap.get_delete_eq_some.1 listed).1 rfl
      · show (tables.controls c).register ≠ .added q
        rw [unlists.self]
        intro added
        exact (locals.added q added).2.2.2 unlists.listed
    · exact own'.off q inside
  · constructor
    · rintro (deleted | inside | tearing)
      · obtain ⟨d, n, f, -, closing⟩ := (unlists.deleted q).1 deleted
        exact .inl ⟨d, n, f, closing⟩
      · rcases List.mem_cons.1 inside with rfl | inside
        · exact .inl ⟨c, name, false, held⟩
        · exact .inr (.inl inside)
      · exact .inr (.inr tearing)
    · rintro (⟨d, n, f, closing⟩ | inside | tearing)
      · by_cases same : d = c
        · subst same
          cases held.symm.trans closing
          exact .inr (.inl List.mem_cons_self)
        · exact .inl ((unlists.deleted q).2 ⟨d, n, f, same, closing⟩)
      · exact .inr (.inl (List.mem_cons_of_mem _ inside))
      · exact .inr (.inr tearing)

end Unlist

theorem hasCounter_closeProxy {m : Metrics.Server.ServerStatistics} {name proxyType type' : String}
    {now : Int} (has : (m.proxyTypeCounts.get type').isSome = true) :
    ((m.closeProxy name proxyType now).proxyTypeCounts.get type').isSome = true := by
  show ((m.proxyTypeCounts.modify proxyType (· - 1)).get type').isSome = true
  rw [GoMap.get_modify]
  split
  · rename_i same
    rw [Option.isSome_map, ← same]
    exact has
  · exact has

theorem Own.metricsCloseProxy (own : Own types s) (p : Pxy) (now : Int) :
    Own types (s.metricsCloseProxy types p now) where
  tables := own.tables
  started := own.started
  off := own.off
  nodup := own.nodup
  torn := own.torn
  known q c reg := (own.known q c reg).imp_right hasCounter_closeProxy

theorem Inv.forceDelete (inv : Inv types s) {tables : Registry.State}
    (unlists : Unlists s c p true tables) (tablesInv : Registry.Inv tables)
    (has : s.HasCounter (types p)) (now : Int) :
    Inv types (State.metricsCloseProxy types { s with tables := tables } p now) := by
  obtain ⟨own, uncounted, undone, counted⟩ := inv
  obtain ⟨name, held⟩ := unlists.held
  refine ⟨(own.unlist unlists tablesInv).metricsCloseProxy p now, uncounted, undone.erase p,
    counted.closeProxy now unlists.pxys rfl has (.inl ⟨c, name, true, held⟩) unlists.uncounted
      fun q => ?_⟩
  constructor
  · rintro (deleted | later)
    · obtain ⟨d, n, f, other, closing⟩ := (unlists.deleted q).1 deleted
      refine ⟨?_, .inl ⟨d, n, f, closing⟩⟩
      rintro rfl
      exact other (own.held_once unlists closing)
    · refine ⟨?_, .inr later⟩
      rintro rfl
      have undone : s.Undone q := .inr later
      rcases later with inside | ⟨d, tearing⟩
      · obtain ⟨d, reg, off, -⟩ := own.off q inside
        obtain rfl : d = c := Option.some.inj (reg.symm.trans (own.listed_by unlists.listed).2)
        exact off unlists.listed
      · obtain ⟨visited, tears, listed⟩ := own.torn d q tearing
        obtain rfl : d = c := Option.some.inj
          ((own.listed_by listed).2.symm.trans (own.listed_by unlists.listed).2)
        cases held.symm.trans tears
  · rintro ⟨different, ⟨d, n, f, closing⟩ | later⟩
    · refine .inl ((unlists.deleted q).2 ⟨d, n, f, ?_, closing⟩)
      rintro rfl
      cases held.symm.trans closing
      exact different rfl
    · exact .inr later

theorem Inv.newProxy (inv : Inv types s) (starting : s.starting c = some p) (now : Int) :
    Inv types { s with
      starting := Function.update s.starting c none
      info := s.info.newProxy p.name (types p) now } := by
  obtain ⟨own, uncounted, undone, counted⟩ := inv
  obtain ⟨reg, idle⟩ := own.started c p starting
  let t : State := { s with
    starting := Function.update s.starting c none
    info := s.info.newProxy p.name (types p) now }
  have still : ∀ d q, t.starting d = some q ↔ d ≠ c ∧ s.starting d = some q := by
    intro d q
    by_cases same : d = c
    · subst same
      simp [t]
    · simp [t, same]
  have loses : ∀ q, t.Uncounted q ↔ q ≠ p ∧ s.Uncounted q := by
    intro q
    constructor
    · rintro (⟨d, added⟩ | ⟨d, starting'⟩)
      · refine ⟨?_, .inl ⟨d, added⟩⟩
        rintro rfl
        have reg' := ((own.tables.locals d).added q added).2.1
        obtain rfl : d = c := Option.some.inj (reg'.symm.trans reg)
        cases idle.symm.trans added
      · obtain ⟨other, was⟩ := (still d q).1 starting'
        refine ⟨?_, .inr ⟨d, was⟩⟩
        rintro rfl
        exact other (Option.some.inj ((own.started d q was).1.symm.trans reg))
    · rintro ⟨different, added | ⟨d, was⟩⟩
      · exact .inl added
      · refine .inr ⟨d, (still d q).2 ⟨?_, was⟩⟩
        rintro rfl
        exact different (Option.some.inj (was.symm.trans starting))
  refine ⟨⟨own.tables, ?_, own.off, own.nodup, own.torn, ?_⟩, uncounted.erase p, undone,
    counted.newProxy now rfl rfl (.inr ⟨c, starting⟩) loses fun _ => Iff.rfl⟩
  · intro d q starting'
    exact own.started d q ((still d q).1 starting').2
  · have kept : ∀ ty, s.HasCounter ty ∨ ty = types p → t.HasCounter ty := by
      intro ty has
      show ((s.info.proxyTypeCounts.set (types p) _).get ty).isSome = true
      rw [GoMap.get_set]
      split
      · rfl
      · rename_i other
        exact has.resolve_right other
    intro q d reg'
    by_cases same : q = p
    · exact .inr (kept _ (.inr (congrArg types same)))
    · rcases own.known q d reg' with old | has
      · exact .inl ((loses q).2 ⟨same, old⟩)
      · exact .inr (kept _ (.inl has))

theorem Inv.closeProxy (inv : Inv types s) (inside : p ∈ s.closing)
    (has : s.HasCounter (types p)) (now : Int) :
    Inv types { s.metricsCloseProxy types p now with closing := s.closing.erase p } := by
  obtain ⟨own, uncounted, undone, counted⟩ := inv
  have own' := own.metricsCloseProxy p now
  obtain ⟨c, reg, off, notAdded⟩ := own.off p inside
  refine ⟨⟨own'.tables, own'.started, fun q left => own'.off q (List.mem_of_mem_erase left),
    own.nodup.erase p, own'.torn, own'.known⟩, uncounted, undone.erase p,
    counted.closeProxy now rfl rfl has (.inr (.inl inside)) (fun _ => Iff.rfl) fun q => ?_⟩
  have unlisted : ∀ d name, (s.tables.controls d).proxies.get name ≠ some p := by
    intro d name listed
    obtain ⟨rfl, reg'⟩ := own.listed_by listed
    obtain rfl : d = c := Option.some.inj (reg'.symm.trans reg)
    exact off listed
  constructor
  · rintro (⟨d, n, f, closing⟩ | left | ⟨d, tearing⟩)
    · refine ⟨?_, .inl ⟨d, n, f, closing⟩⟩
      rintro rfl
      exact unlisted d n ((own.tables.locals d).closing n q f true closing)
    · obtain ⟨different, left⟩ := own.nodup.mem_erase_iff.1 left
      exact ⟨different, .inr (.inl left)⟩
    · refine ⟨?_, .inr (.inr ⟨d, tearing⟩)⟩
      rintro rfl
      obtain ⟨_, -, listed⟩ := own.torn d q tearing
      exact unlisted d _ listed
  · rintro ⟨different, deleted | inside' | tearing⟩
    · exact .inl deleted
    · exact .inr (.inl (own.nodup.mem_erase_iff.2 ⟨different, inside'⟩))
    · exact .inr (.inr tearing)

/-- The proxies of a control that is torn down were all counted. -/
theorem Own.torn_hasCounter (own : Own types s) (tearing : s.tearing c = some p) :
    s.HasCounter (types p) := by
  obtain ⟨visited, held, listed⟩ := own.torn c p tearing
  have reg := (own.listed_by listed).2
  refine (own.known p c reg).resolve_left fun uncounted => ?_
  obtain ⟨d, reg', now⟩ := own.uncounted_registered uncounted
  obtain rfl : d = c := Option.some.inj (reg'.symm.trans reg)
  have exited := ((own.tables.locals d).tearing visited none held).1
  rcases now with added | ⟨-, idle⟩
  · cases exited.symm.trans added
  · cases exited.symm.trans idle

theorem Inv.tearMetrics (inv : Inv types s) (tearing : s.tearing c = some p) (now : Int) :
    Inv types { s.metricsCloseProxy types p now with
      tearing := Function.update s.tearing c none } := by
  obtain ⟨own, uncounted, undone, counted⟩ := inv
  have own' := own.metricsCloseProxy p now
  obtain ⟨visited, held, listed⟩ := own.torn c p tearing
  let t : State := { s.metricsCloseProxy types p now with
    tearing := Function.update s.tearing c none }
  have still : ∀ d q, t.tearing d = some q ↔ d ≠ c ∧ s.tearing d = some q := by
    intro d q
    by_cases same : d = c
    · subst same
      simp [t]
    · simp [t, same]
  refine ⟨⟨own'.tables, own'.started, own'.off, own'.nodup, fun d q left =>
    own'.torn d q ((still d q).1 left).2, own'.known⟩, uncounted, undone.erase p,
    counted.closeProxy now rfl rfl (own.torn_hasCounter tearing) (.inr (.inr ⟨c, tearing⟩))
      (fun _ => Iff.rfl) fun q => ?_⟩
  constructor
  · rintro (deleted | inside | ⟨d, left⟩)
    · refine ⟨?_, .inl deleted⟩
      rintro rfl
      obtain ⟨d, n, f, closing⟩ := deleted
      have listed' := (own.tables.locals d).closing n q f true closing
      obtain rfl : d = c := Option.some.inj
        ((own.listed_by listed').2.symm.trans (own.listed_by listed).2)
      cases held.symm.trans closing
    · refine ⟨?_, .inr (.inl inside)⟩
      rintro rfl
      obtain ⟨d, reg, off, -⟩ := own.off q inside
      obtain rfl : d = c := Option.some.inj (reg.symm.trans (own.listed_by listed).2)
      exact off listed
    · obtain ⟨other, was⟩ := (still d q).1 left
      refine ⟨?_, .inr (.inr ⟨d, was⟩)⟩
      rintro rfl
      obtain ⟨_, -, listed'⟩ := own.torn d q was
      exact other (Option.some.inj
        ((own.listed_by listed').2.symm.trans (own.listed_by listed).2))
  · rintro ⟨different, deleted | inside | ⟨d, was⟩⟩
    · exact .inl deleted
    · exact .inr (.inl inside)
    · refine .inr (.inr ⟨d, (still d q).2 ⟨?_, was⟩⟩)
      rintro rfl
      exact different (Option.some.inj (was.symm.trans tearing))

theorem Inv.table (inv : Inv types s) (l : Registry.Label) (plain : Plain l)
    (fresh : ¬ Registry.StaleClose s.tables l) (next : s.table l = some t)
    (noExist : ∀ c name, l = .exist c name → s.starting c = none)
    (noExit : ∀ c, l = .managerExit c → s.starting c = none)
    (noClose : ∀ c name, l = .tearClose c name → s.tearing c = none)
    (noDone : ∀ c, l = .tearDone c → s.tearing c = none) : Inv types t := by
  obtain ⟨tables, run, rfl⟩ := Option.map_eq_some_iff.1 next
  exact inv.same fresh run (same_of_plain plain run) noExist noExit noClose noDone

theorem step_inv {l : Label} (inv : Inv types s) (guard : Guard types s l)
    (next : step types s l = some t) : Inv types t := by
  cases l with
  | table l =>
      cases l with
      | exist c name =>
          obtain ⟨idle, next⟩ := Option.ite_none_right_eq_some.1 next
          refine inv.table (.exist c name) trivial guard next ?_ (by rintro _ ⟨⟩) (by rintro _ _ ⟨⟩)
            (by rintro _ ⟨⟩)
          rintro _ _ ⟨⟩
          exact idle
      | managerExit c =>
          obtain ⟨idle, next⟩ := Option.ite_none_right_eq_some.1 next
          refine inv.table (.managerExit c) trivial guard next (by rintro _ _ ⟨⟩) ?_
            (by rintro _ _ ⟨⟩) (by rintro _ ⟨⟩)
          rintro _ ⟨⟩
          exact idle
      | tearClose c name =>
          obtain ⟨idle, next⟩ := Option.ite_none_right_eq_some.1 next
          refine inv.table (.tearClose c name) trivial guard next (by rintro _ _ ⟨⟩)
            (by rintro _ ⟨⟩) ?_ (by rintro _ ⟨⟩)
          rintro _ _ ⟨⟩
          exact idle
      | tearDone c =>
          obtain ⟨idle, next⟩ := Option.ite_none_right_eq_some.1 next
          refine inv.table (.tearDone c) trivial guard next (by rintro _ _ ⟨⟩) (by rintro _ ⟨⟩)
            (by rintro _ _ ⟨⟩) ?_
          rintro _ ⟨⟩
          exact idle
      | run c ok =>
          exact inv.table (.run c ok) trivial guard next (by rintro _ _ ⟨⟩) (by rintro _ ⟨⟩)
            (by rintro _ _ ⟨⟩) (by rintro _ ⟨⟩)
      | close c name force =>
          exact inv.table (.close c name force) trivial guard next (by rintro _ _ ⟨⟩)
            (by rintro _ ⟨⟩) (by rintro _ _ ⟨⟩) (by rintro _ ⟨⟩)
      | tearStart c =>
          exact inv.table (.tearStart c) trivial guard next (by rintro _ _ ⟨⟩) (by rintro _ ⟨⟩)
            (by rintro _ _ ⟨⟩) (by rintro _ ⟨⟩)
      | add c =>
          obtain ⟨tables, run, rfl⟩ := Option.map_eq_some_iff.1 next
          exact inv.add run
      | del c =>
          obtain ⟨tables, run, rfl⟩ := Option.map_eq_some_iff.1 next
          exact inv.del run
      | insert c =>
          simp only [step] at next
          split at next
          · rename_i p added
            obtain ⟨_, whole, rfl⟩ := Option.map_eq_some_iff.1 next
            obtain ⟨tables, run, rfl⟩ := Option.map_eq_some_iff.1 whole
            exact inv.inserted added run
          · cases next
      | delete c =>
          simp only [step] at next
          split at next
          · rename_i name p held
            obtain ⟨_, whole, rfl⟩ := Option.map_eq_some_iff.1 next
            obtain ⟨tables, run, rfl⟩ := Option.map_eq_some_iff.1 whole
            exact inv.delete (inv.own.unlists held run)
              (Registry.step_inv inv.own.tables id run)
          · cases next
      | tearDel c =>
          simp only [step] at next
          split at next
          · rename_i visited name p held
            obtain ⟨_, whole, rfl⟩ := Option.map_eq_some_iff.1 next
            obtain ⟨tables, run, rfl⟩ := Option.map_eq_some_iff.1 whole
            exact inv.tearDel held run
          · cases next
  | forceDelete c now =>
      simp only [step] at next
      split at next
      · rename_i name p held
        obtain ⟨_, whole, rfl⟩ := Option.map_eq_some_iff.1 next
        obtain ⟨tables, run, rfl⟩ := Option.map_eq_some_iff.1 whole
        exact inv.forceDelete (inv.own.unlists held run)
          (Registry.step_inv inv.own.tables id run) (by simpa [Guard, held] using guard) now
      · cases next
  | newProxy c now =>
      obtain ⟨p, starting, rfl⟩ := Option.map_eq_some_iff.1 next
      exact inv.newProxy starting now
  | closeProxy p now =>
      obtain ⟨inside, done⟩ := Option.ite_none_right_eq_some.1 next
      cases done
      exact inv.closeProxy inside guard now
  | tearMetrics c now =>
      obtain ⟨p, tearing, rfl⟩ := Option.map_eq_some_iff.1 next
      exact inv.tearMetrics tearing now

theorem Inv.countsAgree (inv : Inv types s) (quiet : Quiet s) : CountsAgree types s := by
  obtain ⟨own, uncounted, undone, counted⟩ := inv
  have no_uncounted : uncounted = ∅ := by
    refine Finset.eq_empty_of_forall_notMem fun p inside => ?_
    rcases (counted.uncounted_iff p).1 inside with ⟨c, added⟩ | ⟨c, starting⟩
    · rcases (quiet.tables c).1 with idle | exited
      · cases idle.symm.trans added
      · cases exited.symm.trans added
    · cases (quiet.starting c).symm.trans starting
  have no_undone : undone = ∅ := by
    refine Finset.eq_empty_of_forall_notMem fun p inside => ?_
    rcases (counted.undone_iff p).1 inside with ⟨c, name, force, held⟩ | inside | ⟨c, tearing⟩
    · cases (quiet.tables c).2.symm.trans held
    · rw [quiet.closing] at inside
      cases inside
    · cases (quiet.tearing c).symm.trans tearing
  intro proxyType
  rw [counted.count proxyType, no_uncounted, no_undone, Finset.sum_empty, Int.add_zero,
    Int.sub_zero]
  rfl

end Pending

/-- **With no operation in progress the counter of each type is the number of its registered
proxies**, in every run in which no close finds a name in the table of a control that is torn
down, and no proxy is closed in the metrics while its type has no counter. -/
theorem counts_agree (types : Pxy → String) (ls : List Label)
    (guarded : Along (step types) (fun s l _ => Guard types s l) start ls) :
    Along (step types) (fun _ _ t => Quiet t → CountsAgree types t) start ls := by
  have kept : ∀ s l t, Inv types s → Guard types s l → step types s l = some t → Inv types t :=
    fun _ _ _ inv guard next => step_inv inv guard next
  exact guarded.strengthen (Inv types) kept
    (fun s l t inv guard next => (kept s l t inv guard next).countsAgree) (start_inv types)

/-! ## A close before the count -/

instance (s : State) (proxyType : String) : Decidable (s.HasCounter proxyType) :=
  inferInstanceAs (Decidable (_ = true))

instance (types : Pxy → String) (s : State) : (l : Label) → Decidable (Guard types s l)
  | .table l => inferInstanceAs (Decidable (¬ Registry.StaleClose s.tables l))
  | .forceDelete c _ =>
      match held : (s.tables.controls c).mu with
      | .closing _ p _ _ => decidable_of_iff (s.HasCounter (types p)) (by simp [Guard, held])
      | .free => isTrue (by simp [Guard, held])
      | .tearing .. => isTrue (by simp [Guard, held])
  | .closeProxy p _ => inferInstanceAs (Decidable (_ = true))
  | .newProxy .. | .tearMetrics .. => isTrue trivial

def allTcp (_ : Pxy) : String := "tcp"

/-- Control 0 registers a proxy. -/
def registers : List Label :=
  [.table (.exist 0 "web"), .table (.run 0 true), .table (.add 0), .table (.insert 0)]

/-- The dashboard closes it. -/
def forceCloses (now : Int) : List Label :=
  [.table (.close 0 "web" true), .table (.del 0), .forceDelete 0 now]

theorem counts_agree_counted_first :
    Along (step allTcp) (fun _ _ t => Quiet t → CountsAgree allTcp t) start
      (registers ++ .newProxy 0 1 :: forceCloses 2) :=
  counts_agree allTcp _ (by decide +kernel)

/-- The control that a step belongs to. -/
def Label.actor : Label → Nat
  | .table l => l.actor
  | .forceDelete c _ | .newProxy c _ | .tearMetrics c _ => c
  | .closeProxy p _ => p.ctl

/-- Nothing is in progress for a control. -/
def State.Idle (s : State) (d : Nat) : Prop :=
  ((s.tables.controls d).register = .idle ∨ (s.tables.controls d).register = .exited) ∧
    (s.tables.controls d).mu = .free ∧ s.starting d = none ∧ s.tearing d = none

instance (s : State) (d : Nat) : Decidable (s.Idle d) :=
  inferInstanceAs (Decidable (_ ∧ _ = Registry.Mu.free ∧ _ = none ∧ _ = none))

theorem idle_of_table {s t : State} {l : Registry.Label} {d : Nat} (next : s.table l = some t)
    (other : d ≠ l.actor) (idle : s.Idle d) : t.Idle d := by
  obtain ⟨tables, run, rfl⟩ := Option.map_eq_some_iff.1 next
  unfold State.Idle
  rw [show ({ s with tables := tables } : State).tables.controls d = s.tables.controls d from
    Registry.others_kept run other]
  exact idle

theorem idle_of_actor {types : Pxy → String} {s t : State} {l : Label} {d : Nat}
    (next : step types s l = some t) (other : d ≠ l.actor) (idle : s.Idle d) : t.Idle d := by
  cases l with
  | table l =>
      cases l with
      | exist | managerExit | tearClose | tearDone =>
          exact idle_of_table (Option.ite_none_right_eq_some.1 next).2 other idle
      | run | add | close | del | tearStart => exact idle_of_table next other idle
      | insert c =>
          simp only [step] at next
          split at next
          · obtain ⟨u, whole, rfl⟩ := Option.map_eq_some_iff.1 next
            obtain ⟨register, mu, starting, tearing⟩ := idle_of_table whole other idle
            exact ⟨register, mu, (Function.update_of_ne other _ _).trans idle.2.2.1, tearing⟩
          · cases next
      | delete c =>
          simp only [step] at next
          split at next
          · obtain ⟨u, whole, rfl⟩ := Option.map_eq_some_iff.1 next
            have after : u.Idle d := idle_of_table whole other idle
            exact after
          · cases next
      | tearDel c =>
          simp only [step] at next
          split at next
          · obtain ⟨u, whole, rfl⟩ := Option.map_eq_some_iff.1 next
            obtain ⟨register, mu, starting, tearing⟩ := idle_of_table whole other idle
            exact ⟨register, mu, starting, (Function.update_of_ne other _ _).trans idle.2.2.2⟩
          · cases next
  | forceDelete c now =>
      simp only [step] at next
      split at next
      · obtain ⟨u, whole, rfl⟩ := Option.map_eq_some_iff.1 next
        have after : u.Idle d := idle_of_table whole other idle
        exact after
      · cases next
  | newProxy c now =>
      obtain ⟨p, -, rfl⟩ := Option.map_eq_some_iff.1 next
      exact ⟨idle.1, idle.2.1, (Function.update_of_ne other _ _).trans idle.2.2.1, idle.2.2.2⟩
  | closeProxy p now =>
      obtain ⟨-, done⟩ := Option.ite_none_right_eq_some.1 next
      cases done
      exact idle
  | tearMetrics c now =>
      obtain ⟨p, -, rfl⟩ := Option.map_eq_some_iff.1 next
      exact ⟨idle.1, idle.2.1, idle.2.2.1, (Function.update_of_ne other _ _).trans idle.2.2.2⟩

theorem idle_of_exec {types : Pxy → String} {s t : State} {ls : List Label} {d : Nat}
    (run : exec (step types) s ls = some t) (others : ∀ l ∈ ls, d ≠ l.actor) (idle : s.Idle d) :
    t.Idle d := by
  induction ls generalizing s with
  | nil =>
      cases run
      exact idle
  | cons l ls ih =>
      obtain ⟨u, first, rest⟩ := exec_cons_eq_some.1 run
      exact ih rest (fun l' inside => others l' (List.mem_cons_of_mem _ inside))
        (idle_of_actor first (others l List.mem_cons_self) idle)

theorem closed_before_counted :
    ¬ Along (step allTcp) (fun _ _ t => Quiet t → CountsAgree allTcp t) start
      (registers ++ forceCloses 1 ++ [.newProxy 0 2]) := by
  have run : (exec (step allTcp) start (registers ++ forceCloses 1 ++ [.newProxy 0 2])).map
      (fun s => (s.closing, decide (s.Idle 0), s.count "tcp",
        Int32.ofInt (s.registered allTcp "tcp"))) = some ([], true, 1, 0) := by
    decide +kernel
  obtain ⟨s, done, found⟩ := Option.map_eq_some_iff.1 run
  simp only [Prod.mk.injEq, decide_eq_true_eq] at found
  obtain ⟨closing, idle0, count, none_⟩ := found
  have idle : ∀ d, s.Idle d := by
    intro d
    by_cases same : d = 0
    · rw [same]
      exact idle0
    · have actors : ∀ l ∈ registers ++ forceCloses 1 ++ [.newProxy 0 2], l.actor = 0 := by decide
      exact idle_of_exec done (fun l inside => (actors l inside) ▸ same) ⟨.inl rfl, rfl, rfl, rfl⟩
  intro along
  have agree : Quiet s → CountsAgree allTcp s := along.last done
  have wrong := agree ⟨fun d => ⟨(idle d).1, (idle d).2.1⟩, fun d => (idle d).2.2.1, closing,
    fun d => (idle d).2.2.2⟩ "tcp"
  rw [count, none_] at wrong
  exact absurd wrong (by decide)

end ChmlFrp.Server.ProxyCounts
