/-
# ChmlFrp.Server.CountedRegistry — the counted calls in the tables of all controls

`ChmlFrp.Server.Quota` has `RegisterProxy`, `CloseProxy` and `ForceCloseProxy` of one control
with the counter of its ports and the tcp groups, whose state says when `Close` of a proxy
panics.  `ChmlFrp.Server.Registry` has them with the tables of every control, and a `Close`
that panics as an outcome.  Here one control of the registry does what the counted one does,
and another one stands for the rest of the server.

* `quota_simulated`: what a run of the counted calls leaves in the maps, a run of the registry
  leaves in its tables, as long as the manager goroutine registers one proxy after the other.
* `panic_simulated`: a `Close` that panics by the state of its group is one that panics in the
  registry, and both tables still have the proxy.
-/
import ChmlFrp.Server.Quota
import ChmlFrp.Server.Registry

namespace ChmlFrp.Server.CountedRegistry

set_option autoImplicit false

universe u v

open ChmlFrp.Lib
open ChmlFrp.Lib.Transition
open ChmlFrp.Server.Registry (Pxy Register Mu)
open ChmlFrp.Server.Quota (Proxy Closing Phase Reg Holder)

/-! ## Maps with the same names -/

section SameNames

variable {V : Type u} {W : Type v}

def SameNames (m : GoMap String V) (m' : GoMap String W) : Prop :=
  ∀ name, m.get name = none ↔ m'.get name = none

variable {m : GoMap String V} {m' : GoMap String W}

theorem SameNames.set (same : SameNames m m') (name : String) (v : V) (w : W) :
    SameNames (m.set name v) (m'.set name w) := by
  intro other
  simp only [GoMap.get_set]
  split
  · simp
  · exact same other

theorem SameNames.delete (same : SameNames m m') (name : String) :
    SameNames (m.delete name) (m'.delete name) := by
  intro other
  simp only [GoMap.get_delete]
  split
  · simp
  · exact same other

theorem SameNames.some (same : SameNames m m') {name : String} {v : V}
    (listed : m.get name = some v) : ∃ w, m'.get name = some w := by
  rw [← Option.ne_none_iff_exists']
  intro none_
  rw [(same name).2 none_] at listed
  cases listed

end SameNames

/-! ## The relation -/

/-- Who holds `ctl.mu`; `stuck` and `broken` say, here and there, that `CloseProxy` has
panicked with it. -/
inductive Lock (closing : Option Closing) (stuck : Bool) (proxies : GoMap String Proxy)
    (broken : Bool) (mu : Mu) (listed : GoMap String Pxy) : Prop
  | free (closing : closing = none) (sound : broken = false) (mu : mu = .free)
  | lost (closing : closing = none) (stuck : stuck = true)
  /-- `Close` is to come, with which the registry takes the lock. -/
  | lowered {name : String} {pxy : Proxy} {force : Bool}
      (closing : closing = some ⟨name, pxy, force, .lowered⟩) (sound : broken = false)
      (here : proxies.get name = some pxy) (mu : mu = .free)
  | closed {name : String} {pxy : Proxy} {force : Bool} {remove : Option Nat} {p : Pxy}
      (closing : closing = some ⟨name, pxy, force, .closed remove⟩) (sound : broken = false)
      (here : proxies.get name = some pxy) (there : listed.get name = some p)
      (mu : mu = .closing name p force false)
  | deleted {name : String} {pxy : Proxy} {force : Bool} {p : Pxy}
      (closing : closing = some ⟨name, pxy, force, .deleted⟩) (sound : broken = false)
      (mu : mu = .closing name p force true)

/-- How far the manager goroutine is in `RegisterProxy`.  What fails is done with in the
registry before the deferred functions run. -/
def At (name : String) : Phase → Register → Prop
  | .counted, register | .refused, register | .failed _, register => register = .idle
  | .free, register | .fetched _, register => register = .checked name
  | .running, register => ∃ p, register = .ran p ∧ p.name = name
  | .added, register => ∃ p, register = .added p ∧ p.name = name

inductive Manager (regs : GoMap Nat Reg) (register : Register) : Prop
  | resting (none_ : ∀ i, regs.get i = none) (idle : register = .idle)
  | registering (i : Nat) (r : Reg) (alone : ∀ j, regs.get j = if j = i then some r else none)
      (at_ : At r.pxy.name r.phase register)

/-- The control that stands for the others. -/
structure Others (pxys : GoMap String Holder) (ctl : Registry.Control) : Prop where
  idle : ctl.register = .idle
  free : ctl.mu = .free
  listed : ∀ name, pxys.get name = some .other → ∃ p, ctl.proxies.get name = some p
  called : ∀ name p, ctl.proxies.get name = some p → p.name = name

/-- The counted control, and the registry with its control and the other one. -/
structure Sees (q : Quota.State) (pxys : GoMap String Pxy) (broken : Bool)
    (ctl other : Registry.Control) : Prop where
  proxies : SameNames q.proxies ctl.proxies
  pxys : SameNames q.pxys pxys
  named : ∀ name pxy, q.proxies.get name = some pxy → pxy.name = name
  called : ∀ name p, ctl.proxies.get name = some p → p.name = name
  lock : Lock q.closing q.stuck q.proxies broken ctl.mu ctl.proxies
  manager : Manager q.regs ctl.register
  others : Others q.pxys other

/-- Control `c` of the registry is the counted one, and control `d` the other. -/
def Simulates (c d : Nat) (q : Quota.State) (s : Registry.Panics.State) : Prop :=
  Sees q s.tables.pxys (s.stuck c) (s.tables.controls c) (s.tables.controls d) ∧
    s.stuck d = false

/-- `RegisterProxy` is called when no other one is in progress. -/
def OneByOne (q : Quota.State) : Quota.Label → Prop
  | .register _ => ∀ i, q.regs.get i = none
  | _ => True

theorem simulates_start (c d : Nat) : Simulates c d Quota.start Registry.Panics.start := by
  refine ⟨⟨?_, ?_, ?_, ?_, .free rfl rfl rfl, .resting ?_ rfl, ⟨rfl, rfl, ?_, ?_⟩⟩, rfl⟩ <;>
    simp [SameNames, Quota.start, Registry.Panics.start, Registry.start]

section Relation

variable {regs : GoMap Nat Reg} {reg : Register} {i : Nat} {r : Reg}
variable {pxys pxys' : GoMap String Holder} {other : Registry.Control}

theorem Manager.found (manager : Manager regs reg) (found : regs.get i = some r) :
    (∀ j, regs.get j = if j = i then some r else none) ∧ At r.pxy.name r.phase reg := by
  cases manager with
  | resting none_ idle =>
      rw [none_ i] at found
      cases found
  | registering k r' alone at_ =>
      rw [alone i] at found
      split at found
      · rename_i here
        cases found
        rw [here]
        exact ⟨alone, at_⟩
      · cases found

theorem Manager.setReg (manager : Manager regs reg) (found : regs.get i = some r) {r' : Reg}
    {reg' : Register} (at_ : At r'.pxy.name r'.phase reg') :
    Manager (regs.set i r') reg' := by
  refine .registering i r' (fun j => ?_) at_
  rw [GoMap.get_set, (manager.found found).1 j]
  split <;> rfl

theorem Manager.delete (manager : Manager regs reg) (found : regs.get i = some r) :
    Manager (regs.delete i) .idle := by
  refine .resting (fun j => ?_) rfl
  rw [GoMap.get_delete, (manager.found found).1 j]
  split <;> rfl

theorem Manager.register (manager : Manager regs reg) (none_ : ∀ j, regs.get j = none)
    (pxy : Proxy) : Manager (regs.set i ⟨pxy, .counted⟩) reg := by
  cases manager with
  | resting _ idle =>
      refine .registering i ⟨pxy, .counted⟩ (fun j => ?_) idle
      rw [GoMap.get_set, none_ j]
  | registering k r alone =>
      have there := alone k
      rw [none_ k, if_pos rfl] at there
      cases there

theorem Others.kept (others : Others pxys other)
    (theirs : ∀ name, pxys'.get name = some .other → pxys.get name = some .other) :
    Others pxys' other :=
  ⟨others.idle, others.free, fun name held => others.listed name (theirs name held),
    others.called⟩

theorem Others.delete (others : Others pxys other) (name : String) :
    Others (pxys.delete name) other :=
  others.kept fun _ held => (GoMap.get_delete_eq_some.1 held).2

variable {q q' : Quota.State} {table table' : GoMap String Pxy} {broken : Bool}
variable {ctl ctl' : Registry.Control}

/-- A step of a registration, which leaves the lock and the control's map alone. -/
theorem Sees.registers (sees : Sees q table broken ctl other) {reg' : Register} {made : Nat}
    {regs' : GoMap Nat Reg} {num : Int} {next : Nat} {tgc : Quota.Groups}
    (manager : Manager regs' reg') :
    Sees { q with portsUsedNum := num, regs := regs', nextReg := next, tgc := tgc } table broken
      { ctl with register := reg', made := made } other :=
  ⟨sees.proxies, sees.pxys, sees.named, sees.called, sees.lock, manager, sees.others⟩

theorem Sees.free (sees : Sees q table broken ctl other) (unlocked : q.Unlocked) :
    broken = false ∧ ctl.mu = .free := by
  obtain ⟨none_, sound⟩ := unlocked
  cases sees.lock with
  | free closing sound mu => exact ⟨sound, mu⟩
  | lost closing stuck =>
      rw [sound] at stuck
      cases stuck
  | lowered closing | closed closing | deleted closing =>
      rw [closing] at none_
      cases none_

theorem Sees.lowered (sees : Sees q table broken ctl other) {name : String} {pxy : Proxy}
    {force : Bool} (closing : q.closing = some ⟨name, pxy, force, .lowered⟩) :
    broken = false ∧ q.proxies.get name = some pxy ∧ ctl.mu = .free := by
  cases sees.lock with
  | lowered here sound listed mu =>
      cases closing.symm.trans here
      exact ⟨sound, listed, mu⟩
  | free here | lost here | closed here | deleted here => cases closing.symm.trans here

theorem Sees.closed (sees : Sees q table broken ctl other) {name : String} {pxy : Proxy}
    {force : Bool} {remove : Option Nat}
    (closing : q.closing = some ⟨name, pxy, force, .closed remove⟩) :
    broken = false ∧ q.proxies.get name = some pxy ∧
      ∃ p, ctl.proxies.get name = some p ∧ ctl.mu = .closing name p force false := by
  cases sees.lock with
  | closed here sound listed there mu =>
      cases closing.symm.trans here
      exact ⟨sound, listed, _, there, mu⟩
  | free here | lost here | lowered here | deleted here => cases closing.symm.trans here

theorem Sees.deleted (sees : Sees q table broken ctl other) {name : String} {pxy : Proxy}
    {force : Bool} (closing : q.closing = some ⟨name, pxy, force, .deleted⟩) :
    broken = false ∧ ∃ p, ctl.mu = .closing name p force true := by
  cases sees.lock with
  | deleted here sound mu =>
      cases closing.symm.trans here
      exact ⟨sound, _, mu⟩
  | free here | lost here | lowered here | closed here => cases closing.symm.trans here

end Relation

/-! ## One step -/

/-- The registry goes on to a state with the relation. -/
def Matched (c d : Nat) (q : Quota.State) (s : Registry.Panics.State) : Prop :=
  CanReach Registry.Panics.step (Simulates c d q) s

section Step

variable {limit : Int} {c d : Nat} {q q' : Quota.State} {s : Registry.Panics.State}

/-- A step of the control's own in which nothing panics. -/
theorem matched_of_own {l : Registry.Label} {u : Registry.State} (apart : c ≠ d)
    (simulates : Simulates c d q s) (mine : l.actor = c)
    (taken : Registry.step s.tables l = some u) (unblocked : s.blocks l = false)
    (sees : Sees q' u.pxys (s.stuck c) (u.controls c) (s.tables.controls d)) :
    Matched c d q' s := by
  have next : Registry.Panics.step s (.of l) = some { s with tables := u } := by
    simp [Registry.Panics.step, unblocked, taken]
  refine .of_step next (.here ⟨?_, simulates.2⟩)
  have kept : u.controls d = s.tables.controls d := by
    apply Registry.others_kept taken
    rw [mine]
    exact apart.symm
  show Sees q' u.pxys (s.stuck c) (u.controls c) (u.controls d)
  rw [kept]
  exact sees

/-- A registration without a step of the registry. -/
theorem matched_of_manager (simulates : Simulates c d q s) {regs : GoMap Nat Reg} {num : Int}
    {next : Nat} {tgc : Quota.Groups} (manager : Manager regs (s.tables.controls c).register) :
    Matched c d { q with portsUsedNum := num, regs := regs, nextReg := next, tgc := tgc } s :=
  .here ⟨simulates.1.registers manager, simulates.2⟩

/-- `Run` and what stands in its place for a group. -/
theorem matched_of_run (apart : c ≠ d) (simulates : Simulates c d q s) {i : Nat} {r : Reg}
    (found : q.regs.get i = some r) (checked : (s.tables.controls c).register = .checked r.pxy.name)
    (pxy : Proxy) (same : pxy.name = r.pxy.name) (ok : Bool) (tgc : Quota.Groups) :
    Matched c d
      { q.setReg i ⟨pxy, if ok then .running else .failed none⟩ with tgc := tgc } s := by
  cases ok with
  | true =>
      have taken : Registry.step s.tables (.run c true) = some (s.tables.set c
          { s.tables.controls c with
            register := .ran ⟨r.pxy.name, c, (s.tables.controls c).made⟩
            made := (s.tables.controls c).made + 1 }) := by
        simp [Registry.step, checked]
      apply matched_of_own apart simulates rfl taken rfl
      rw [Registry.set_controls_self]
      exact simulates.1.registers (simulates.1.manager.setReg found ⟨_, rfl, same.symm⟩)
  | false =>
      have taken : Registry.step s.tables (.run c false) = some (s.tables.set c
          { s.tables.controls c with register := .idle }) := by
        simp [Registry.step, checked]
      apply matched_of_own apart simulates rfl taken rfl
      rw [Registry.set_controls_self]
      exact simulates.1.registers (simulates.1.manager.setReg found rfl)

theorem matched_of_add (apart : c ≠ d) (simulates : Simulates c d q s) {i : Nat} {pxy : Proxy}
    (found : q.regs.get i = some ⟨pxy, .running⟩) :
    (∀ holder, q.pxys.get pxy.name = some holder → Matched c d (q.setReg i ⟨pxy, .refused⟩) s) ∧
      (q.pxys.get pxy.name = none →
        Matched c d
          { q.setReg i ⟨pxy, .added⟩ with pxys := q.pxys.set pxy.name .this } s) := by
  obtain ⟨sees, sound⟩ := simulates
  obtain ⟨p, ran, called⟩ := (sees.manager.found found).2
  have called : p.name = pxy.name := called
  constructor
  · intro holder held
    have taken : ∃ u, Registry.step s.tables (.add c) = some u ∧ u.pxys = s.tables.pxys ∧
        u.controls c = { s.tables.controls c with register := .idle } := by
      obtain ⟨p', there⟩ := sees.pxys.some held
      refine ⟨(s.tables.closePxy p).set c { s.tables.controls c with register := .idle }, ?_, rfl,
        ?_⟩
      · simp only [Registry.step, ran, called, there, reduceCtorEq, if_false]
      · rw [Registry.set_controls_self]
    obtain ⟨u, taken, table, own⟩ := taken
    apply matched_of_own apart ⟨sees, sound⟩ rfl taken rfl
    rw [table, own]
    exact sees.registers (sees.manager.setReg found rfl)
  · intro free
    have there := (sees.pxys pxy.name).1 free
    have taken : Registry.step s.tables (.add c) = some
        { s.tables.set c { s.tables.controls c with register := .added p } with
          pxys := s.tables.pxys.set pxy.name p
          registeredBy := Function.update s.tables.registeredBy p (some c) } := by
      simp only [Registry.step, ran, called, there, if_true]
    apply matched_of_own apart ⟨sees, sound⟩ rfl taken rfl
    show Sees _ _ _ ((s.tables.set c _).controls c) _
    rw [Registry.set_controls_self]
    have manager : Manager (q.regs.set i ⟨pxy, .added⟩) (.added p) :=
      sees.manager.setReg found ⟨p, rfl, called⟩
    refine ⟨sees.proxies, sees.pxys.set _ _ _, sees.named, sees.called, sees.lock, manager, ?_⟩
    apply sees.others.kept
    intro name held
    rcases GoMap.get_set_eq_some.1 held with ⟨-, this⟩ | ⟨-, old⟩
    · cases this
    · exact old

theorem matched_of_insert (apart : c ≠ d) (simulates : Simulates c d q s) {i : Nat} {pxy : Proxy}
    (found : q.regs.get i = some ⟨pxy, .added⟩) (unlocked : q.Unlocked) :
    Matched c d
      { q with proxies := q.proxies.set pxy.name pxy, regs := q.regs.delete i } s := by
  obtain ⟨sees, sound⟩ := simulates
  obtain ⟨p, added, called⟩ := (sees.manager.found found).2
  have called : p.name = pxy.name := called
  obtain ⟨whole, free⟩ := sees.free unlocked
  have taken : Registry.step s.tables (.insert c) = some (s.tables.set c
      { s.tables.controls c with
        register := .idle
        proxies := (s.tables.controls c).proxies.set pxy.name p }) := by
    simp only [Registry.step, added, free, called]
  apply matched_of_own apart ⟨sees, sound⟩ rfl taken rfl
  rw [Registry.set_controls_self]
  refine ⟨sees.proxies.set _ _ _, sees.pxys, ?_, ?_,
    .free (Option.isNone_iff_eq_none.1 unlocked.1) whole free, sees.manager.delete found,
    sees.others⟩
  · intro name pxy' listed
    rcases GoMap.get_set_eq_some.1 listed with ⟨here, rfl⟩ | ⟨-, old⟩
    · exact here.symm
    · exact sees.named name pxy' old
  · intro name p' listed
    rcases GoMap.get_set_eq_some.1 listed with ⟨here, rfl⟩ | ⟨-, old⟩
    · exact called.trans here.symm
    · exact sees.called name p' old

/-- `Close` returns. -/
theorem matched_of_close (apart : c ≠ d) (simulates : Simulates c d q s) {name : String}
    {pxy : Proxy} {force : Bool} (closing : q.closing = some ⟨name, pxy, force, .lowered⟩)
    (remove : Option Nat) (tgc : Quota.Groups) :
    Matched c d { q with tgc := tgc, closing := some ⟨name, pxy, force, .closed remove⟩ } s := by
  obtain ⟨sees, sound⟩ := simulates
  obtain ⟨whole, here, free⟩ := sees.lowered closing
  obtain ⟨p, there⟩ := sees.proxies.some here
  have taken : Registry.step s.tables (.close c name force) = some
      ((s.tables.closePxy p).set c
        { s.tables.controls c with mu := .closing name p force false }) := by
    simp only [Registry.step, free, there]
  apply matched_of_own apart ⟨sees, sound⟩ rfl taken rfl
  rw [Registry.set_controls_self]
  exact ⟨sees.proxies, sees.pxys, sees.named, sees.called, .closed rfl whole here there rfl,
    sees.manager, sees.others⟩

/-- `Close` panics: the entries stay, and `CloseProxy` keeps the lock. -/
theorem panicked (apart : c ≠ d) (simulates : Simulates c d q s) {name : String} {pxy : Proxy}
    {force : Bool} (closing : q.closing = some ⟨name, pxy, force, .lowered⟩)
    (tgc : Quota.Groups) :
    ∃ t p, Registry.Panics.step s (.closePanics c name force) = some t ∧
      Simulates c d { q with tgc := tgc, closing := none, stuck := !force } t ∧
      (t.tables.controls c).proxies.get name = some p ∧ t.tables.pxys = s.tables.pxys := by
  obtain ⟨sees, sound⟩ := simulates
  obtain ⟨whole, here, free⟩ := sees.lowered closing
  obtain ⟨p, there⟩ := sees.proxies.some here
  cases force with
  | true =>
      refine ⟨{ s with tables := s.tables.closePxy p }, p, ?_, ⟨?_, sound⟩, there, rfl⟩
      · simp only [Registry.Panics.step, free, there, if_true]
      · exact ⟨sees.proxies, sees.pxys, sees.named, sees.called, .free rfl whole free,
          sees.manager, sees.others⟩
  | false =>
      refine ⟨{
        tables := (s.tables.closePxy p).set c
          { s.tables.controls c with mu := .closing name p false false }
        stuck := Function.update s.stuck c true }, p, ?_, ⟨?_, ?_⟩, ?_, rfl⟩
      · simp only [Registry.Panics.step, free, there, Bool.false_eq_true, if_false]
      · show Sees _ _ _ ((Registry.State.set _ c _).controls c)
          ((Registry.State.set _ c _).controls d)
        rw [Registry.set_controls_self, Registry.set_controls_of_ne _ apart.symm]
        exact ⟨sees.proxies, sees.pxys, sees.named, sees.called, .lost rfl rfl, sees.manager,
          sees.others⟩
      · show Function.update s.stuck c true d = false
        rw [Function.update_of_ne apart.symm]
        exact sound
      · show ((Registry.State.set _ c _).controls c).proxies.get name = some p
        rw [Registry.set_controls_self]
        exact there

theorem matched_of_del (apart : c ≠ d) (simulates : Simulates c d q s) {name : String}
    {pxy : Proxy} {force : Bool} {remove : Option Nat}
    (closing : q.closing = some ⟨name, pxy, force, .closed remove⟩) :
    Matched c d
      { q with
        pxys := q.pxys.delete (if force then name else pxy.name)
        closing := some ⟨name, pxy, force, .deleted⟩ } s := by
  obtain ⟨sees, sound⟩ := simulates
  obtain ⟨whole, here, p, there, mu⟩ := sees.closed closing
  have taken : Registry.step s.tables (.del c) = some
      { s.tables.set c { s.tables.controls c with mu := .closing name p force true } with
        pxys := s.tables.pxys.delete name } := by
    simp only [Registry.step, mu, sees.called name p there, ite_self]
  apply matched_of_own apart ⟨sees, sound⟩ rfl taken whole
  show Sees _ _ _ ((s.tables.set c _).controls c) _
  rw [Registry.set_controls_self, sees.named name pxy here, ite_self]
  exact ⟨sees.proxies, sees.pxys.delete name, sees.named, sees.called, .deleted rfl whole rfl,
    sees.manager, sees.others.delete name⟩

theorem matched_of_delete (apart : c ≠ d) (simulates : Simulates c d q s) {name : String}
    {pxy : Proxy} {force : Bool} (closing : q.closing = some ⟨name, pxy, force, .deleted⟩) :
    Matched c d { q with proxies := q.proxies.delete name, closing := none } s := by
  obtain ⟨sees, sound⟩ := simulates
  obtain ⟨whole, p, mu⟩ := sees.deleted closing
  have taken : Registry.step s.tables (.delete c) = some (s.tables.set c
      { s.tables.controls c with
        mu := .free
        proxies := (s.tables.controls c).proxies.delete name }) := by
    simp only [Registry.step, mu]
  apply matched_of_own apart ⟨sees, sound⟩ rfl taken rfl
  rw [Registry.set_controls_self]
  exact ⟨sees.proxies.delete name, sees.pxys,
    fun n _ listed => sees.named n _ (GoMap.get_delete_eq_some.1 listed).2,
    fun n _ listed => sees.called n _ (GoMap.get_delete_eq_some.1 listed).2,
    .free rfl whole rfl, sees.manager, sees.others⟩

/-! ## The other control -/

theorem exec_of (sound : s.stuck d = false) {ls : List Registry.Label} {u : Registry.State}
    (theirs : ∀ l ∈ ls, l.actor = d) (run : exec Registry.step s.tables ls = some u) :
    exec Registry.Panics.step s (ls.map .of) = some { s with tables := u } := by
  induction ls generalizing s with
  | nil =>
      cases run
      rfl
  | cons l ls ih =>
      obtain ⟨t, first, rest⟩ := exec_cons_eq_some.1 run
      have unblocked : s.blocks l = false := by
        have mine := theirs l List.mem_cons_self
        cases l with
        | del c =>
            have mine : c = d := mine
            show s.stuck c = false
            rw [mine]
            exact sound
        | _ => rfl
      have next : Registry.Panics.step s (.of l) = some { s with tables := t } := by
        simp [Registry.Panics.step, unblocked, first]
      refine exec_cons_eq_some.2 ⟨_, next, ?_⟩
      exact ih (s := { s with tables := t }) sound
        (fun l' member => theirs l' (List.mem_cons_of_mem l member)) rest

/-- A whole call of the other control. -/
theorem matched_of_other (apart : c ≠ d) (simulates : Simulates c d q s)
    {ls : List Registry.Label} {u : Registry.State} (theirs : ∀ l ∈ ls, l.actor = d)
    (run : exec Registry.step s.tables ls = some u)
    (sees : Sees q' u.pxys (s.stuck c) (s.tables.controls c) (u.controls d)) :
    Matched c d q' s := by
  have steps := exec_of simulates.2 theirs run
  refine ⟨_, _, steps, ?_, simulates.2⟩
  have kept : u.controls c = s.tables.controls c := by
    apply Registry.Panics.run_others_kept steps
    intro l member
    obtain ⟨l', inside, rfl⟩ := List.mem_map.1 member
    show c ≠ l'.actor
    rw [theirs l' inside]
    exact apart
  show Sees q' u.pxys (s.stuck c) (u.controls c) (u.controls d)
  rw [kept]
  exact sees

theorem matched_of_othersAdd (apart : c ≠ d) (simulates : Simulates c d q s) {name : String}
    (new : q.pxys.get name = none) :
    Matched c d { q with pxys := q.pxys.set name .other } s := by
  obtain ⟨sees, sound⟩ := simulates
  have idle := sees.others.idle
  have free := sees.others.free
  have there := (sees.pxys name).1 new
  obtain ⟨p, called, u, run, table, own⟩ : ∃ p : Pxy, p.name = name ∧ ∃ u,
      exec Registry.step s.tables [.exist d name, .run d true, .add d, .insert d] = some u ∧
        u.pxys = s.tables.pxys.set name p ∧
        u.controls d = { s.tables.controls d with
          proxies := (s.tables.controls d).proxies.set name p
          made := (s.tables.controls d).made + 1 } := by
    refine ⟨⟨name, d, (s.tables.controls d).made⟩, rfl, ?_⟩
    simp [exec, Registry.step, idle, free, there]
  apply matched_of_other apart ⟨sees, sound⟩ (by simp [Registry.Label.actor]) run
  rw [table, own]
  refine ⟨sees.proxies, sees.pxys.set _ _ _, sees.named, sees.called, sees.lock, sees.manager,
    idle, free, ?_, ?_⟩
  · intro n held
    rcases GoMap.get_set_eq_some.1 held with ⟨rfl, -⟩ | ⟨elsewhere, old⟩
    · exact ⟨p, by simp⟩
    · obtain ⟨p', listed⟩ := sees.others.listed n old
      exact ⟨p', by simp [elsewhere, listed]⟩
  · intro n p' listed
    rcases GoMap.get_set_eq_some.1 listed with ⟨here, rfl⟩ | ⟨-, old⟩
    · exact called.trans here.symm
    · exact sees.others.called n p' old

theorem matched_of_othersDel (apart : c ≠ d) (simulates : Simulates c d q s) {name : String}
    (held : q.pxys.get name = some .other) :
    Matched c d { q with pxys := q.pxys.delete name } s := by
  obtain ⟨sees, sound⟩ := simulates
  have free := sees.others.free
  obtain ⟨p, listed⟩ := sees.others.listed name held
  have called := sees.others.called name p listed
  obtain ⟨u, run, table, own⟩ : ∃ u,
      exec Registry.step s.tables [.close d name false, .del d, .delete d] = some u ∧
        u.pxys = s.tables.pxys.delete name ∧
        u.controls d = { s.tables.controls d with
          proxies := (s.tables.controls d).proxies.delete name } := by
    simp [exec, Registry.step, Registry.State.closePxy, free, listed, called]
  apply matched_of_other apart ⟨sees, sound⟩ (by simp [Registry.Label.actor]) run
  rw [table, own]
  refine ⟨sees.proxies, sees.pxys.delete name, sees.named, sees.called, sees.lock, sees.manager,
    sees.others.idle, free, ?_, ?_⟩
  · intro n kept
    obtain ⟨elsewhere, old⟩ := GoMap.get_delete_eq_some.1 kept
    obtain ⟨p', there⟩ := sees.others.listed n old
    exact ⟨p', GoMap.get_delete_eq_some.2 ⟨elsewhere, there⟩⟩
  · intro n p' there
    exact sees.others.called n p' (GoMap.get_delete_eq_some.1 there).2

/-! ## Every step -/

theorem step_simulated (apart : c ≠ d) (simulates : Simulates c d q s) {l : Quota.Label}
    (one : OneByOne q l) (next : Quota.step limit q l = some q') : Matched c d q' s := by
  have manager := simulates.1.manager
  cases l with
  | register pxy =>
      simp only [Quota.step] at next
      split at next
      · split at next
        · cases next
          exact .here simulates
        · cases next
          exact matched_of_manager simulates (manager.register one pxy)
      · cases next
  | exist i =>
      simp only [Quota.step] at next
      split at next
      · rename_i pxy found
        cases next
        have idle : (s.tables.controls c).register = .idle := (manager.found found).2
        split
        · exact matched_of_manager simulates (manager.setReg found idle)
        · rename_i free
          have free : q.pxys.get pxy.name = none := by simpa using free
          have taken : Registry.step s.tables (.exist c pxy.name) = some (s.tables.set c
              { s.tables.controls c with register := .checked pxy.name }) := by
            simp only [Registry.step, idle, (simulates.1.pxys pxy.name).1 free, if_true]
          apply matched_of_own apart simulates rfl taken rfl
          rw [Registry.set_controls_self]
          exact simulates.1.registers (manager.setReg found rfl)
      · cases next
  | run i ok =>
      simp only [Quota.step] at next
      split at next
      · rename_i pxy found
        split at next
        · cases next
        · cases next
          exact matched_of_run apart simulates found (manager.found found).2 pxy rfl ok q.tgc
      · cases next
  | fetch i =>
      simp only [Quota.step] at next
      split at next
      · rename_i found
        obtain ⟨tgc, -, rfl⟩ := Option.map_eq_some_iff.1 next
        exact matched_of_manager simulates (manager.setReg found (manager.found found).2)
      · cases next
  | listen i first =>
      simp only [Quota.step] at next
      split at next
      · rename_i name group args ln op found
        have checked := (manager.found found).2
        split at next
        · rename_i g group' args' fetched
          obtain ⟨tgc, -, result⟩ := Option.map_eq_some_iff.1 next
          split at result
          · cases result
            exact matched_of_run apart simulates found checked
              ⟨name, .tcpGroup group args (some (g, op))⟩ rfl true tgc
          · cases result
            exact matched_of_run apart simulates found checked
              ⟨name, .tcpGroup group args none⟩ rfl false tgc
        · cases next
      · cases next
  | add i =>
      simp only [Quota.step] at next
      split at next
      · rename_i pxy found
        obtain ⟨refused, added⟩ := matched_of_add apart simulates found
        split at next
        · rename_i holder held
          cases next
          exact refused holder held
        · rename_i free
          cases next
          exact added free
      · cases next
  | insert i =>
      simp only [Quota.step] at next
      split at next
      · rename_i found
        split at next
        · rename_i unlocked
          cases next
          exact matched_of_insert apart simulates found unlocked
        · cases next
      · cases next
  | closeRefused i returns =>
      simp only [Quota.step] at next
      split at next
      · rename_i found
        obtain ⟨⟨tgc, outcome⟩, -, rfl⟩ := Option.map_eq_some_iff.1 next
        exact matched_of_manager simulates (manager.setReg found (manager.found found).2)
      · cases next
  | lower i =>
      simp only [Quota.step] at next
      split at next
      · rename_i found
        split at next
        · cases next
          have idle : (s.tables.controls c).register = .idle := (manager.found found).2
          have rests := manager.delete found
          rw [← idle] at rests
          exact matched_of_manager simulates rests
        · cases next
      · cases next
  | closeProxy name force =>
      simp only [Quota.step] at next
      split at next
      · rename_i unlocked
        split at next
        · cases next
          exact .here simulates
        · rename_i listed
          cases next
          obtain ⟨sees, sound⟩ := simulates
          obtain ⟨whole, free⟩ := sees.free unlocked
          exact .here ⟨⟨sees.proxies, sees.pxys, sees.named, sees.called,
            .lowered rfl whole listed free, sees.manager, sees.others⟩, sound⟩
      · cases next
  | close returns =>
      simp only [Quota.step] at next
      split at next
      · rename_i closing
        obtain ⟨⟨tgc, outcome⟩, -, result⟩ := Option.map_eq_some_iff.1 next
        cases outcome with
        | returned remove =>
            cases result
            exact matched_of_close apart simulates closing remove tgc
        | panicked =>
            cases result
            obtain ⟨t, -, panics, kept, -⟩ := panicked apart simulates closing tgc
            exact .of_step panics (.here kept)
      · cases next
  | del =>
      simp only [Quota.step] at next
      split at next
      · rename_i closing
        split at next
        · cases next
          exact matched_of_del apart simulates closing
        · cases next
      · cases next
  | delete =>
      simp only [Quota.step] at next
      split at next
      · rename_i closing
        cases next
        exact matched_of_delete apart simulates closing
      · cases next
  | othersAdd name =>
      simp only [Quota.step] at next
      split at next
      · rename_i new
        cases next
        exact matched_of_othersAdd apart simulates new
      · cases next
  | othersDel name =>
      simp only [Quota.step] at next
      split at next
      · rename_i held
        cases next
        exact matched_of_othersDel apart simulates held
      · cases next
  | groups l =>
      simp only [Quota.step] at next
      split at next
      · obtain ⟨tgc, -, rfl⟩ := Option.map_eq_some_iff.1 next
        exact matched_of_manager simulates manager
      · cases next

end Step

/-! ## Runs -/

/-- What a run of the counted calls leaves in the maps, a run of the registry leaves in its
tables, if `RegisterProxy` is called one by one. -/
theorem quota_simulated {limit : Int} {c d : Nat} (apart : c ≠ d) {ls : List Quota.Label}
    {q : Quota.State} (oneByOne : Along (Quota.step limit) (fun q l _ => OneByOne q l)
      Quota.start ls) (run : exec (Quota.step limit) Quota.start ls = some q) :
    CanReach Registry.Panics.step (Simulates c d q) Registry.Panics.start := by
  refine invariant_of_along
    (fun q => CanReach Registry.Panics.step (Simulates c d q) Registry.Panics.start) ?_
    (.here (simulates_start c d)) oneByOne run
  intro q l q' reached one next
  exact reached.trans fun s simulates => step_simulated apart simulates one next

/-- A `Close` that panics in the group of its proxy: the registry has that panic, and then
the proxy is still in the control's table, and the manager's is as it was. -/
theorem panic_simulated {limit : Int} {c d : Nat} (apart : c ≠ d) {q q' : Quota.State}
    {s : Registry.Panics.State} (simulates : Simulates c d q s) {name : String} {pxy : Proxy}
    {force : Bool} {g ln : Nat} {returns : Bool}
    (closing : q.closing = some ⟨name, pxy, force, .lowered⟩) (grouped : pxy.ln = some (g, ln))
    (panics : Quota.Panics q.tgc g ln)
    (next : Quota.step limit q (.close returns) = some q') :
    ∃ t p, Registry.Panics.step s (.closePanics c name force) = some t ∧ Simulates c d q' t ∧
      (t.tables.controls c).proxies.get name = some p ∧ t.tables.pxys = s.tables.pxys := by
  simp only [Quota.step, closing] at next
  obtain ⟨⟨tgc, outcome⟩, closes, result⟩ := Option.map_eq_some_iff.1 next
  rcases Quota.Proxy.close_cases closes with ⟨-, fine⟩ | ⟨-, -, ungrouped⟩ | ⟨rfl, -⟩
  · exact absurd panics (fine g ln grouped)
  · rw [grouped] at ungrouped
    cases ungrouped
  · cases result
    exact panicked apart simulates closing tgc

end ChmlFrp.Server.CountedRegistry
