/-
# ChmlFrp.Server.Listeners — the names that the proxies of a server listen for

`Run` and `Close` of the https, tcpmux, stcp and sudp proxies.  Around `Run` stands the part
of `RegisterProxy` from `Exist` to `Add`; `CloseProxy`, `ForceCloseProxy` and `stoper` close a
proxy and take its name out of the manager.  Every `Listen`, every `Close` of a listener and
every call of a manager is a step of its own, so any number of proxies of any number of
controls come and go at the same time.  A tcpmux proxy has no group here.

* `names_owned`: as long as no proxy is closed twice, what is in the tables belongs to the
  proxies that are there, and nothing is left of a proxy whose `Run` fails or that is closed.
* `second_close`: a second close of an https or tcpmux proxy with a listener panics.
-/
import ChmlFrp.Lib.Slots
import ChmlFrp.Server.HttpProxy
import ChmlFrp.Server.Visitor

namespace ChmlFrp.Server.Listeners

set_option autoImplicit false

open ChmlFrp.Lib
open ChmlFrp.Lib.Transition
open ChmlFrp.Config
open ChmlFrp.Vhost
open HttpGroup (listenDomains)
open Visitor (ListenerBundle Manager)

/-! ## Proxies -/

/-- What `Listen` is called with. -/
inductive Entry where
  | https (domain : GoString)
  | tcpmux (domain routeByHTTPUser username password : GoString)
  | visitor (name sk : String) (allowUsers : List String)
  deriving DecidableEq, Repr

/-- The names in the three tables. -/
inductive Key where
  | https (domain location httpUser : GoString)
  | tcpmux (domain location httpUser : GoString)
  | visitor (name : String)
  deriving DecidableEq, Repr

def Entry.key : Entry → Key
  | .https domain => .https domain [] []
  | .tcpmux domain routeByHTTPUser _ _ => .tcpmux domain [] routeByHTTPUser
  | .visitor name _ _ => .visitor name

/-- `vhost.Listener` or `InternalListener`; `listed` says that it is in its table. -/
structure Listener where
  id : Nat
  entry : Entry
  isOpen : Bool
  listed : Bool
  deriving DecidableEq, Repr

inductive Conf where
  | https (cfg : DomainConf)
  | tcpmux (cfg : DomainConf) (multiplexer routeByHTTPUser httpUser httpPwd : GoString)
  /-- `STCPProxyConf` and `SUDPProxyConf` -/
  | visitor (sk : String) (allowUsers : List String)
  deriving DecidableEq, Repr

namespace Conf

/-- The calls of `Listen` that `Run` makes, as far as none fails. -/
def entries (serverCfg : ServerCommonConf) (name user : String) : Conf → List Entry
  | .https cfg => (listenDomains cfg serverCfg).map .https
  | .tcpmux cfg _ routeByHTTPUser httpUser httpPwd =>
      (listenDomains cfg serverCfg).map fun domain =>
        .tcpmux domain routeByHTTPUser httpUser httpPwd
  | .visitor sk allowUsers => [.visitor name sk (if allowUsers = [] then [user] else allowUsers)]

def isVisitor : Conf → Bool
  | .visitor _ _ => true
  | _ => false

/-- `Run` of a tcpmux proxy knows one multiplexer. -/
def known : Conf → Bool
  | .tcpmux _ multiplexer _ _ _ => multiplexer = httpConnectTCPMultiplexer
  | _ => true

end Conf

/-- Why a proxy is being closed. -/
inductive Reason where
  /-- the deferred call in `Run` -/
  | runFailed
  /-- the deferred call in `RegisterProxy` -/
  | addFailed
  | byControl
  deriving DecidableEq, Repr

inductive Phase where
  /-- in `Run`, with the calls of `Listen` that are left -/
  | running (todo : List Entry)
  | ran
  /-- in the manager and in the table of its control -/
  | up
  /-- in the loop of `BaseProxy.Close`, which has closed the first `n` listeners -/
  | closing (n : Nat) (reason : Reason)
  /-- before `VisitorManager.CloseListener` -/
  | unlisting (reason : Reason)
  /-- before `pxyManager.Del` -/
  | leaving
  | failed
  | closed
  | panicked
  deriving DecidableEq, Repr

/-- What follows `Close`. -/
def Reason.next : Reason → Phase
  | .byControl => .leaving
  | _ => .failed

structure Pxy where
  name : String
  user : String
  conf : Conf
  listeners : List Listener := []
  phase : Phase
  deriving DecidableEq, Repr

namespace Pxy

/-- `NewProxy`, and the beginning of `Run`. -/
def new (serverCfg : ServerCommonConf) (name user : String) (conf : Conf) : Pxy where
  name := name
  user := user
  conf := conf
  phase :=
    if conf.known then .running (conf.entries serverCfg name user) else .closing 0 .runFailed

variable (pxy : Pxy)

def entries (serverCfg : ServerCommonConf) : List Entry :=
  pxy.conf.entries serverCfg pxy.name pxy.user

/-- A failed `Listen`: `Run` of an stcp or sudp proxy does not close anything. -/
def runFails : Phase :=
  if pxy.conf.isVisitor then .failed else .closing 0 .runFailed

/-- After the loop of `BaseProxy.Close`. -/
def afterLoop (reason : Reason) : Phase :=
  if pxy.conf.isVisitor then .unlisting reason else reason.next

end Pxy

/-! ## The server -/

structure State where
  /-- `VhostHTTPSMuxer.registryRouter` -/
  httpsMuxer : Routers Nat
  /-- `TCPMuxHTTPConnectMuxer.registryRouter` -/
  tcpmuxMuxer : Routers Nat
  visitorManager : Manager
  pxyManager : GoMap String Nat
  pxys : List Pxy
  next : Nat

def start : State := ⟨newRouters, newRouters, ∅, ∅, [], 0⟩

namespace State

variable (s : State)

def setPxy (p : Nat) (pxy : Pxy) : State := { s with pxys := s.pxys.set p pxy }

/-- `Muxer.Listen`, `Manager.Listen` -/
def listen : Entry → Option State
  | .https domain =>
      (s.httpsMuxer.add domain [] [] s.next).map fun r =>
        { s with httpsMuxer := r, next := s.next + 1 }
  | .tcpmux domain routeByHTTPUser _ _ =>
      (s.tcpmuxMuxer.add domain [] routeByHTTPUser s.next).map fun r =>
        { s with tcpmuxMuxer := r, next := s.next + 1 }
  | .visitor name sk allowUsers =>
      (Visitor.listen s.visitorManager name sk allowUsers s.next).map fun vm =>
        { s with visitorManager := vm, next := s.next + 1 }

/-- `Routers.Del`, `Manager.CloseListener` -/
def del : Key → State
  | .https domain location httpUser =>
      { s with httpsMuxer := s.httpsMuxer.del domain location httpUser }
  | .tcpmux domain location httpUser =>
      { s with tcpmuxMuxer := s.tcpmuxMuxer.del domain location httpUser }
  | .visitor name => { s with visitorManager := Visitor.closeListener s.visitorManager name }

/-- The next listener of `BaseProxy.Close`; the second `close(l.accept)` of a vhost listener
panics. -/
def closeListener (p : Nat) (pxy : Pxy) (n : Nat) (reason : Reason) (l : Listener) : State :=
  let rest := Phase.closing (n + 1) reason
  match l.entry with
  | .visitor _ _ _ =>
      let l' := { l with isOpen := false }
      s.setPxy p { pxy with listeners := pxy.listeners.set n l', phase := rest }
  | _ =>
      let t := s.del l.entry.key
      if l.isOpen then
        let l' := { l with isOpen := false, listed := false }
        t.setPxy p { pxy with listeners := pxy.listeners.set n l', phase := rest }
      else t.setPxy p { pxy with phase := .panicked }

/-- The next step of a `Close`, and the `Del` after it. -/
def act (p : Nat) (pxy : Pxy) : Option State :=
  match pxy.phase with
  | .closing n reason =>
      match pxy.listeners[n]? with
      | some l => some (s.closeListener p pxy n reason l)
      | none => some (s.setPxy p { pxy with phase := pxy.afterLoop reason })
  | .unlisting reason =>
      let listeners := pxy.listeners.map fun l => { l with listed := false }
      some ((s.del (.visitor pxy.name)).setPxy p
        { pxy with listeners := listeners, phase := reason.next })
  | .leaving =>
      some ({ s with pxyManager := s.pxyManager.delete pxy.name }.setPxy p
        { pxy with phase := .closed })
  | _ => none

end State

inductive Label where
  /-- `RegisterProxy` finds the name free and begins a `Run`. -/
  | register (name user : String) (conf : Conf)
  | listen (p : Nat)
  | runReturns (p : Nat)
  | add (p : Nat)
  | close (p : Nat)
  | act (p : Nat)
  deriving DecidableEq, Repr

def step (serverCfg : ServerCommonConf) (s : State) : Label → Option State
  | .register name user conf =>
      if (s.pxyManager.get name).isSome then none
      else some { s with pxys := s.pxys ++ [Pxy.new serverCfg name user conf] }
  | .listen p => (s.pxys[p]?).bind fun pxy =>
      match pxy.phase with
      | .running (entry :: todo) =>
          match s.listen entry with
          | some t =>
              let l : Listener := ⟨s.next, entry, true, true⟩
              some (t.setPxy p
                { pxy with listeners := pxy.listeners ++ [l], phase := .running todo })
          | none => some (s.setPxy p { pxy with phase := pxy.runFails })
      | _ => none
  | .runReturns p => (s.pxys[p]?).bind fun pxy =>
      match pxy.phase with
      | .running [] => some (s.setPxy p { pxy with phase := .ran })
      | _ => none
  | .add p => (s.pxys[p]?).bind fun pxy =>
      match pxy.phase with
      | .ran =>
          match s.pxyManager.get pxy.name with
          | some _ => some (s.setPxy p { pxy with phase := .closing 0 .addFailed })
          | none =>
              some ({ s with pxyManager := s.pxyManager.set pxy.name p }.setPxy p
                { pxy with phase := .up })
      | _ => none
  | .close p => (s.pxys[p]?).bind fun pxy =>
      match pxy.phase with
      | .up | .closed => some (s.setPxy p { pxy with phase := .closing 0 .byControl })
      | _ => none
  | .act p => (s.pxys[p]?).bind (s.act p)

/-! ## The tables -/

namespace State

variable (s : State)

/-- The three tables as one. -/
def row : Key → Option Nat
  | .https domain location httpUser => s.httpsMuxer.table domain location httpUser
  | .tcpmux domain location httpUser => s.tcpmuxMuxer.table domain location httpUser
  | .visitor name => (s.visitorManager.get name).map ListenerBundle.l

structure Sorted : Prop where
  https : s.httpsMuxer.Sorted
  tcpmux : s.tcpmuxMuxer.Sorted

end State

section Tables

variable {s t : State}

/-- A `Listen` that succeeds takes a free name and changes nothing else. -/
structure Listened (s t : State) (k : Key) : Prop where
  sorted : t.Sorted
  free : s.row k = none
  row : ∀ k', t.row k' = if k' = k then some s.next else s.row k'
  pxyManager : t.pxyManager = s.pxyManager
  pxys : t.pxys = s.pxys
  next : t.next = s.next + 1

theorem row_listen (sorted : s.Sorted) {entry : Entry} (listens : s.listen entry = some t) :
    Listened s t entry.key := by
  cases entry with
  | https domain =>
      obtain ⟨r, added, rfl⟩ := Option.map_eq_some_iff.1 listens
      obtain ⟨free, table⟩ := sorted.https.add_eq_some added
      refine ⟨⟨sorted.https.add added, sorted.tcpmux⟩, free, ?_, rfl, rfl, rfl⟩
      intro k'
      cases k' <;> simp [State.row, Entry.key, table, Table.set]
  | tcpmux domain routeByHTTPUser username password =>
      obtain ⟨r, added, rfl⟩ := Option.map_eq_some_iff.1 listens
      obtain ⟨free, table⟩ := sorted.tcpmux.add_eq_some added
      refine ⟨⟨sorted.https, sorted.tcpmux.add added⟩, free, ?_, rfl, rfl, rfl⟩
      intro k'
      cases k' <;> simp [State.row, Entry.key, table, Table.set]
  | visitor name sk allowUsers =>
      obtain ⟨vm, added, rfl⟩ := Option.map_eq_some_iff.1 listens
      unfold Visitor.listen at added
      split at added
      · cases added
      · rename_i free
        cases added
        refine ⟨⟨sorted.https, sorted.tcpmux⟩, by simp [State.row, Entry.key, free], ?_,
          rfl, rfl, rfl⟩
        intro k'
        cases k' with
        | visitor name' =>
            by_cases same : name' = name <;> simp [State.row, Entry.key, GoMap.get_set, same]
        | _ => simp [State.row, Entry.key]

theorem row_del (sorted : s.Sorted) (k k' : Key) :
    (s.del k).row k' = if k' = k then none else s.row k' := by
  cases k with
  | https domain location httpUser =>
      cases k' <;>
        simp [State.del, State.row, sorted.https.table_del, Table.apply, Table.set]
  | tcpmux domain location httpUser =>
      cases k' <;>
        simp [State.del, State.row, sorted.tcpmux.table_del, Table.apply, Table.set]
  | visitor name =>
      cases k' with
      | visitor name' =>
          by_cases same : name' = name <;>
            simp [State.del, State.row, Visitor.closeListener, GoMap.get_delete, same]
      | _ => simp [State.del, State.row]

theorem sorted_del (sorted : s.Sorted) (k : Key) : (s.del k).Sorted := by
  cases k with
  | https domain location httpUser => exact ⟨sorted.https.del, sorted.tcpmux⟩
  | tcpmux domain location httpUser => exact ⟨sorted.https, sorted.tcpmux.del⟩
  | visitor name => exact ⟨sorted.https, sorted.tcpmux⟩

theorem row_setPxy (p : Nat) (pxy : Pxy) : (s.setPxy p pxy).row = s.row := by
  funext k
  cases k <;> rfl

theorem sorted_setPxy (sorted : s.Sorted) (p : Nat) (pxy : Pxy) : (s.setPxy p pxy).Sorted :=
  ⟨sorted.https, sorted.tcpmux⟩

@[simp] theorem pxys_del (k : Key) : (s.del k).pxys = s.pxys := by
  cases k <;> rfl

@[simp] theorem pxyManager_del (k : Key) : (s.del k).pxyManager = s.pxyManager := by
  cases k <;> rfl

@[simp] theorem next_del (k : Key) : (s.del k).next = s.next := by
  cases k <;> rfl

end Tables

/-! ## Who holds what -/

/-- The names that the listeners of a proxy hold, and the listeners. -/
def Pxy.Holds (pxy : Pxy) (k : Key) (id : Nat) : Prop :=
  ∃ l ∈ pxy.listeners, l.listed = true ∧ l.entry.key = k ∧ l.id = id

/-- The manager has the proxy, or is to lose it. -/
def Pxy.Registered (pxy : Pxy) : Prop :=
  match pxy.phase with
  | .up | .closing _ .byControl | .unlisting .byControl | .leaving => True
  | _ => False

def Intact (listeners : List Listener) : Prop :=
  ∀ l ∈ listeners, l.isOpen = true ∧ l.listed = true

def Gone (listeners : List Listener) : Prop :=
  ∀ l ∈ listeners, l.isOpen = false ∧ l.listed = false

namespace State

def Holds (s : State) (p : Nat) (k : Key) (id : Nat) : Prop :=
  ∃ pxy, s.pxys[p]? = some pxy ∧ pxy.Holds k id

def Names (s : State) (p : Nat) (name : String) (q : Nat) : Prop :=
  q = p ∧ ∃ pxy, s.pxys[p]? = some pxy ∧ pxy.name = name ∧ pxy.Registered

def idAt (s : State) (p i : Nat) : Option Nat :=
  (s.pxys[p]?).bind fun pxy => (pxy.listeners[i]?).map Listener.id

end State

section Steps

variable {serverCfg : ServerCommonConf} {s t : State} {p : Nat} {pxy pxy' : Pxy}

variable (serverCfg) in
/-- What holds of a proxy in each phase, if it is closed once. -/
structure Pxy.Ok (pxy : Pxy) : Prop where
  entries : ∀ l ∈ pxy.listeners, l.entry ∈ pxy.entries serverCfg
  running : ∀ todo, pxy.phase = .running todo →
    pxy.listeners.map Listener.entry ++ todo = pxy.entries serverCfg ∧ Intact pxy.listeners
  up : pxy.phase = .ran ∨ pxy.phase = .up →
    pxy.listeners.map Listener.entry = pxy.entries serverCfg ∧ Intact pxy.listeners
  closing : ∀ n reason, pxy.phase = .closing n reason →
    (pxy.conf.isVisitor = true → pxy.listeners.map Listener.entry = pxy.entries serverCfg) ∧
      ∀ (i : Nat) l, pxy.listeners[i]? = some l →
        l.isOpen = decide (n ≤ i) ∧ l.listed = (pxy.conf.isVisitor || decide (n ≤ i))
  unlisting : ∀ reason, pxy.phase = .unlisting reason →
    pxy.conf.isVisitor = true ∧ pxy.listeners.map Listener.entry = pxy.entries serverCfg ∧
      ∀ l ∈ pxy.listeners, l.isOpen = false ∧ l.listed = true
  gone : pxy.phase = .leaving ∨ pxy.phase = .failed ∨ pxy.phase = .closed → Gone pxy.listeners
  calm : pxy.phase ≠ .panicked

variable (serverCfg) in
structure Inv (s : State) : Prop where
  sorted : s.Sorted
  ok : ∀ (p : Nat) pxy, s.pxys[p]? = some pxy → pxy.Ok serverCfg
  rows : ∃ rows : GoMap Key Nat, (∀ k, s.row k = rows.get k) ∧ rows.Covers s.Holds
  names : s.pxyManager.Covers s.Names
  fresh : ∀ p i id, s.idAt p i = some id → id < s.next
  distinct : ∀ p i q j id, s.idAt p i = some id → s.idAt q j = some id → p = q ∧ i = j

theorem start_inv : Inv serverCfg start where
  sorted := ⟨Routers.sorted_newRouters, Routers.sorted_newRouters⟩
  ok := by simp [start]
  rows := by
    refine ⟨∅, ?_, ?_⟩
    · intro k
      cases k <;> simp [State.row, start, Routers.table_newRouters, Table.empty]
    · intro k id
      simp [State.Holds, start]
  names := by
    intro name q
    simp [State.Names, start]
  fresh := by simp [State.idAt, start]
  distinct := by simp [State.idAt, start]

/-! ### One proxy changes -/

theorem holds_of_id (inv : Inv serverCfg s) {k : Key} {q id id' : Nat} {l l' : Listener}
    {other : Pxy} {i j : Nat} (at_p : s.pxys[p]? = some pxy) (at_i : pxy.listeners[i]? = some l)
    (listed : l.listed = true) (key : l.entry.key = k) (id_eq : l.id = id)
    (at_q : s.pxys[q]? = some other) (at_j : other.listeners[j]? = some l')
    (listed' : l'.listed = true) (key' : l'.entry.key = k) (id_eq' : l'.id = id') :
    p = q ∧ i = j := by
  obtain ⟨rows, -, covers⟩ := inv.rows
  have mine : rows.get k = some id :=
    (covers k id).2 ⟨p, pxy, at_p, l, List.mem_of_getElem? at_i, listed, key, id_eq⟩
  have theirs : rows.get k = some id' :=
    (covers k id').2 ⟨q, other, at_q, l', List.mem_of_getElem? at_j, listed', key', id_eq'⟩
  cases mine.symm.trans theirs
  apply inv.distinct p i q j id
  · simp [State.idAt, at_p, at_i, id_eq]
  · simp [State.idAt, at_q, at_j, id_eq']

/-- Two proxies do not hold one name. -/
theorem holder_unique (inv : Inv serverCfg s) {k : Key} {q id id' : Nat} (mine : s.Holds p k id)
    (theirs : s.Holds q k id') : p = q := by
  obtain ⟨pxy, at_p, l, mem, listed, key, id_eq⟩ := mine
  obtain ⟨other, at_q, l', mem', listed', key', id_eq'⟩ := theirs
  obtain ⟨i, at_i⟩ := List.mem_iff_getElem?.1 mem
  obtain ⟨j, at_j⟩ := List.mem_iff_getElem?.1 mem'
  exact (holds_of_id inv at_p at_i listed key id_eq at_q at_j listed' key' id_eq').1

variable (s p pxy pxy' t) in
/-- `t` is `s` with another proxy in place of one, and with other tables. -/
structure Replaced : Prop where
  before : s.pxys[p]? = some pxy
  after : t.pxys = s.pxys.set p pxy'

namespace Replaced

variable (change : Replaced s t p pxy pxy')
include change

theorem getElem? (q : Nat) : t.pxys[q]? = if q = p then some pxy' else s.pxys[q]? := by
  have bound : p < s.pxys.length := (List.getElem?_eq_some_iff.1 change.before).1
  rw [change.after, List.getElem?_set]
  by_cases same : q = p
  · simp [same, bound]
  · simp [same, Ne.symm same]

theorem holds_self (k : Key) (id : Nat) : t.Holds p k id ↔ pxy'.Holds k id := by
  simp [State.Holds, change.getElem?]

theorem held (k : Key) (id : Nat) : s.Holds p k id ↔ pxy.Holds k id := by
  simp [State.Holds, change.before]

theorem holds_other {q : Nat} (other : q ≠ p) (k : Key) (id : Nat) :
    t.Holds q k id ↔ s.Holds q k id := by
  simp [State.Holds, change.getElem?, other]

theorem idAt_self (i : Nat) : t.idAt p i = (pxy'.listeners[i]?).map Listener.id := by
  simp [State.idAt, change.getElem?]

theorem idAt_other {q : Nat} (other : q ≠ p) (i : Nat) : t.idAt q i = s.idAt q i := by
  simp [State.idAt, change.getElem?, other]

theorem ok (inv : Inv serverCfg s) (good : pxy'.Ok serverCfg) :
    ∀ (q : Nat) other, t.pxys[q]? = some other → other.Ok serverCfg := by
  intro q other at_q
  rw [change.getElem?] at at_q
  split at at_q
  · cases at_q
    exact good
  · exact inv.ok q other at_q

theorem idAt_eq (ids : pxy'.listeners.map Listener.id = pxy.listeners.map Listener.id) (q i : Nat) :
    t.idAt q i = s.idAt q i := by
  by_cases same : q = p
  · subst same
    rw [change.idAt_self, ← List.getElem?_map, ids, List.getElem?_map]
    simp [State.idAt, change.before]
  · exact change.idAt_other same i

theorem rows_stay (inv : Inv serverCfg s) (row : t.row = s.row)
    (same : ∀ k id, pxy'.Holds k id ↔ pxy.Holds k id) :
    ∃ rows : GoMap Key Nat, (∀ k, t.row k = rows.get k) ∧ rows.Covers t.Holds := by
  obtain ⟨rows, refines, covers⟩ := inv.rows
  refine ⟨rows, fun k => row ▸ refines k, covers.congr ?_⟩
  intro q k id
  by_cases mine : q = p
  · subst mine
    rw [change.holds_self, change.held, same]
  · exact change.holds_other mine k id

theorem rows_drop (inv : Inv serverCfg s) {k : Key} {i : Nat}
    (row : ∀ k', t.row k' = if k' = k then none else s.row k') (held : pxy.Holds k i)
    (loses : ∀ k' id', pxy'.Holds k' id' ↔ pxy.Holds k' id' ∧ k' ≠ k) :
    ∃ rows : GoMap Key Nat, (∀ k, t.row k = rows.get k) ∧ rows.Covers t.Holds := by
  obtain ⟨rows, refines, covers⟩ := inv.rows
  have mine := (change.held k i).2 held
  refine ⟨rows.delete k, ?_, GoMap.Covers.delete (i := p) covers ?_ ?_ ?_⟩
  · intro k'
    rw [row, GoMap.get_delete, refines]
  · intro k' id'
    rw [change.holds_self, change.held, loses]
  · intro q k' id' other
    exact change.holds_other other k' id'
  · intro q id' theirs
    exact (holder_unique inv mine theirs).symm

theorem names_stay (inv : Inv serverCfg s) (manager : t.pxyManager = s.pxyManager)
    (name : pxy'.name = pxy.name) (registered : pxy'.Registered ↔ pxy.Registered) :
    t.pxyManager.Covers t.Names := by
  rw [manager]
  refine inv.names.congr ?_
  intro q name' r
  by_cases mine : q = p
  · subst mine
    simp [State.Names, change.getElem?, change.before, name, registered]
  · simp [State.Names, change.getElem?, mine]

/-- A step that makes no listener. -/
theorem keep (inv : Inv serverCfg s) (good : pxy'.Ok serverCfg) (sorted : t.Sorted)
    (rows : ∃ rows : GoMap Key Nat, (∀ k, t.row k = rows.get k) ∧ rows.Covers t.Holds)
    (next : t.next = s.next)
    (ids : pxy'.listeners.map Listener.id = pxy.listeners.map Listener.id)
    (names : t.pxyManager.Covers t.Names) : Inv serverCfg t where
  sorted := sorted
  ok := change.ok inv good
  rows := rows
  names := names
  fresh q i id at_i := by
    rw [next]
    rw [change.idAt_eq ids] at at_i
    exact inv.fresh q i id at_i
  distinct q i r j id at_i at_j := by
    rw [change.idAt_eq ids] at at_i at_j
    exact inv.distinct q i r j id at_i at_j

/-- A step that changes the phase and closes nothing. -/
theorem phase (inv : Inv serverCfg s) (good : pxy'.Ok serverCfg) (sorted : t.Sorted)
    (row : t.row = s.row) (next : t.next = s.next) (listeners : pxy'.listeners = pxy.listeners)
    (names : t.pxyManager.Covers t.Names) : Inv serverCfg t :=
  have same : ∀ k id, pxy'.Holds k id ↔ pxy.Holds k id := by simp [Pxy.Holds, listeners]
  change.keep inv good sorted (change.rows_stay inv row same) next (by rw [listeners]) names

end Replaced

/-! ### The steps -/

theorem ok_new (name user : String) (conf : Conf) :
    (Pxy.new serverCfg name user conf).Ok serverCfg := by
  unfold Pxy.new
  cases known : conf.known with
  | true => constructor <;> simp [Pxy.entries, Intact]
  | false =>
      have vhost : conf.isVisitor = false := by
        cases conf with
        | visitor sk allowUsers => cases known
        | _ => rfl
      constructor <;> simp [vhost]

theorem not_registered_new (name user : String) (conf : Conf) :
    ¬ (Pxy.new serverCfg name user conf).Registered := by
  unfold Pxy.new
  cases conf.known <;> simp [Pxy.Registered]

theorem idAt_eq_some {i id : Nat} : s.idAt p i = some id ↔
    ∃ pxy l, s.pxys[p]? = some pxy ∧ pxy.listeners[i]? = some l ∧ l.id = id := by
  simp [State.idAt, Option.bind_eq_some_iff]

theorem inv_register (inv : Inv serverCfg s) {name user : String} {conf : Conf}
    (next : step serverCfg s (.register name user conf) = some t) : Inv serverCfg t := by
  simp only [step] at next
  split at next
  · cases next
  cases next
  have holds : ∀ q k id, State.Holds { s with pxys := s.pxys ++ [.new serverCfg name user conf] }
      q k id ↔ s.Holds q k id := by
    intro q k id
    constructor
    · rintro ⟨other, at_q, held⟩
      rcases Slots.append_cases at_q with old | ⟨-, rfl⟩
      · exact ⟨other, old, held⟩
      · obtain ⟨l, mem, -⟩ := held
        cases mem
    · rintro ⟨other, at_q, held⟩
      exact ⟨other, Slots.append_old at_q, held⟩
  have idAt : ∀ q i id, State.idAt { s with pxys := s.pxys ++ [.new serverCfg name user conf] }
      q i = some id → s.idAt q i = some id := by
    intro q i id at_i
    obtain ⟨other, l, at_q, at_l, id_eq⟩ := idAt_eq_some.1 at_i
    rcases Slots.append_cases at_q with old | ⟨-, rfl⟩
    · exact idAt_eq_some.2 ⟨other, l, old, at_l, id_eq⟩
    · cases at_l
  refine ⟨⟨inv.sorted.https, inv.sorted.tcpmux⟩, ?_, ?_, ?_, ?_, ?_⟩
  · intro q other at_q
    rcases Slots.append_cases at_q with old | ⟨-, rfl⟩
    · exact inv.ok q other old
    · exact ok_new name user conf
  · obtain ⟨rows, refines, covers⟩ := inv.rows
    refine ⟨rows, ?_, covers.congr holds⟩
    intro k
    rw [← refines]
    cases k <;> rfl
  · refine inv.names.congr ?_
    intro q name' r
    constructor
    · rintro ⟨rfl, other, at_q, name_eq, registered⟩
      rcases Slots.append_cases at_q with old | ⟨-, rfl⟩
      · exact ⟨rfl, other, old, name_eq, registered⟩
      · exact absurd registered (not_registered_new name user conf)
    · rintro ⟨rfl, other, at_q, name_eq, registered⟩
      exact ⟨rfl, other, Slots.append_old at_q, name_eq, registered⟩
  · intro q i id at_i
    exact inv.fresh q i id (idAt q i id at_i)
  · intro q i r j id at_i at_j
    exact inv.distinct q i r j id (idAt q i id at_i) (idAt r j id at_j)

/-- A `Listen` that succeeds. -/
theorem inv_listened (inv : Inv serverCfg s) {entry : Entry} {todo : List Entry} {u : State}
    (before : s.pxys[p]? = some pxy) (running : pxy.phase = .running (entry :: todo))
    (listened : Listened s u entry.key) :
    Inv serverCfg (u.setPxy p { pxy with
      listeners := pxy.listeners ++ [⟨s.next, entry, true, true⟩]
      phase := .running todo }) := by
  have ok := inv.ok p pxy before
  obtain ⟨entries, intact⟩ := ok.running (entry :: todo) running
  have change : Replaced s (u.setPxy p { pxy with
      listeners := pxy.listeners ++ [⟨s.next, entry, true, true⟩]
      phase := .running todo }) p pxy { pxy with
      listeners := pxy.listeners ++ [⟨s.next, entry, true, true⟩]
      phase := .running todo } := ⟨before, by rw [State.setPxy, listened.pxys]⟩
  have idAt : ∀ q i id, (u.setPxy p { pxy with
      listeners := pxy.listeners ++ [⟨s.next, entry, true, true⟩]
      phase := .running todo }).idAt q i = some id →
        s.idAt q i = some id ∨ q = p ∧ i = pxy.listeners.length ∧ id = s.next := by
    intro q i id at_i
    by_cases mine : q = p
    · subst mine
      rw [change.idAt_self] at at_i
      obtain ⟨l, at_l, rfl⟩ := Option.map_eq_some_iff.1 at_i
      rcases Slots.append_cases at_l with old | ⟨rfl, rfl⟩
      · exact .inl (idAt_eq_some.2 ⟨pxy, l, before, old, rfl⟩)
      · exact .inr ⟨rfl, rfl, rfl⟩
    · rw [change.idAt_other mine] at at_i
      exact .inl at_i
  refine ⟨?_, change.ok inv ?_, ?_, ?_, ?_, ?_⟩
  · exact sorted_setPxy listened.sorted p _
  · have inside : entry ∈ pxy.entries serverCfg := by
      rw [← entries]
      exact List.mem_append_right _ List.mem_cons_self
    constructor
    · intro l mem
      rcases List.mem_append.1 mem with old | new
      · exact ok.entries l old
      · cases List.mem_singleton.1 new
        exact inside
    · rintro todo' ⟨⟩
      refine ⟨?_, ?_⟩
      · simpa [Pxy.entries] using entries
      · intro l mem
        rcases List.mem_append.1 mem with old | new
        · exact intact l old
        · cases List.mem_singleton.1 new
          exact ⟨rfl, rfl⟩
    all_goals simp
  · obtain ⟨rows, refines, covers⟩ := inv.rows
    refine ⟨rows.set entry.key s.next, ?_, GoMap.Covers.set (i := p) covers ?_ ?_ ?_⟩
    · intro k
      rw [row_setPxy, listened.row, GoMap.get_set, refines]
    · rw [← refines]
      exact listened.free
    · intro k id
      rw [change.holds_self, change.held]
      constructor
      · rintro ⟨l, mem, listed, key, id_eq⟩
        rcases List.mem_append.1 mem with old | new
        · exact .inl ⟨l, old, listed, key, id_eq⟩
        · cases List.mem_singleton.1 new
          exact .inr ⟨key.symm, id_eq.symm⟩
      · rintro (⟨l, mem, listed, key, id_eq⟩ | ⟨rfl, rfl⟩)
        · exact ⟨l, List.mem_append_left _ mem, listed, key, id_eq⟩
        · exact ⟨_, List.mem_append_right _ (List.mem_singleton_self _), rfl, rfl, rfl⟩
    · intro q k id other
      exact change.holds_other other k id
  · apply change.names_stay inv listened.pxyManager rfl
    simp [Pxy.Registered, running]
  · intro q i id at_i
    show id < u.next
    rw [listened.next]
    rcases idAt q i id at_i with old | ⟨-, -, rfl⟩
    · exact Nat.lt_succ_of_lt (inv.fresh q i id old)
    · exact Nat.lt_succ_self _
  · intro q i r j id at_i at_j
    rcases idAt q i id at_i with old | ⟨rfl, rfl, rfl⟩
    · rcases idAt r j id at_j with old' | ⟨rfl, rfl, rfl⟩
      · exact inv.distinct q i r j id old old'
      · exact absurd (inv.fresh q i _ old) (Nat.lt_irrefl _)
    · rcases idAt r j _ at_j with old' | ⟨rfl, rfl, -⟩
      · exact absurd (inv.fresh r j _ old') (Nat.lt_irrefl _)
      · exact ⟨rfl, rfl⟩

/-- The phase of a proxy changes, and nothing else. -/
theorem inv_phase (inv : Inv serverCfg s) (before : s.pxys[p]? = some pxy) {phase : Phase}
    (good : Pxy.Ok serverCfg { pxy with phase := phase })
    (registered : Pxy.Registered { pxy with phase := phase } ↔ pxy.Registered) :
    Inv serverCfg (s.setPxy p { pxy with phase := phase }) := by
  have change : Replaced s (s.setPxy p { pxy with phase := phase }) p pxy
    { pxy with phase := phase } := ⟨before, rfl⟩
  have sorted := sorted_setPxy inv.sorted p { pxy with phase := phase }
  exact change.phase inv good sorted (row_setPxy p _) rfl rfl
    (change.names_stay inv rfl rfl registered)

/-- `Close` begins while the listeners are as `Run` has left them. -/
theorem ok_closing (entries : ∀ l ∈ pxy.listeners, l.entry ∈ pxy.entries serverCfg)
    (all : pxy.conf.isVisitor = true →
      pxy.listeners.map Listener.entry = pxy.entries serverCfg)
    (intact : Intact pxy.listeners) (reason : Reason) :
    Pxy.Ok serverCfg { pxy with phase := .closing 0 reason } where
  entries := entries
  running := by rintro todo ⟨⟩
  up := by simp
  closing := by
    rintro n reason' ⟨⟩
    refine ⟨all, ?_⟩
    intro i l at_i
    obtain ⟨isOpen, listed⟩ := intact l (List.mem_of_getElem? at_i)
    simp [isOpen, listed]
  unlisting := by rintro reason' ⟨⟩
  gone := by simp
  calm := by simp

theorem entries_visitor (visitor : pxy.conf.isVisitor = true) :
    ∃ entry, pxy.entries serverCfg = [entry] ∧ entry.key = .visitor pxy.name := by
  cases conf : pxy.conf with
  | visitor sk allowUsers =>
      exact ⟨_, by rw [Pxy.entries, conf, Conf.entries], rfl⟩
  | _ => simp [conf, Conf.isVisitor] at visitor

theorem ok_runFails {entry : Entry} {todo : List Entry} (ok : pxy.Ok serverCfg)
    (running : pxy.phase = .running (entry :: todo)) :
    Pxy.Ok serverCfg { pxy with phase := pxy.runFails } := by
  obtain ⟨entries, intact⟩ := ok.running (entry :: todo) running
  cases visitor : pxy.conf.isVisitor with
  | false =>
      rw [Pxy.runFails, visitor]
      exact ok_closing ok.entries (by simp [visitor]) intact .runFailed
  | true =>
      obtain ⟨only, is, -⟩ := @entries_visitor serverCfg _ visitor
      rw [is] at entries
      have none_ : pxy.listeners = [] := by
        cases listeners : pxy.listeners with
        | nil => rfl
        | cons l rest => simp [listeners] at entries
      rw [Pxy.runFails, visitor]
      constructor <;> simp [none_, Gone]

theorem inv_listen (inv : Inv serverCfg s) (next : step serverCfg s (.listen p) = some t) :
    Inv serverCfg t := by
  obtain ⟨pxy, before, next⟩ := Option.bind_eq_some_iff.1 next
  split at next
  · rename_i entry todo running
    split at next
    · rename_i u listens
      cases next
      exact inv_listened inv before running (row_listen inv.sorted listens)
    · cases next
      apply inv_phase inv before (ok_runFails (inv.ok p pxy before) running)
      unfold Pxy.runFails
      split <;> simp [Pxy.Registered, running]
  · cases next

theorem inv_runReturns (inv : Inv serverCfg s)
    (next : step serverCfg s (.runReturns p) = some t) : Inv serverCfg t := by
  obtain ⟨pxy, before, next⟩ := Option.bind_eq_some_iff.1 next
  split at next
  · rename_i running
    cases next
    have ok := inv.ok p pxy before
    obtain ⟨entries, intact⟩ := ok.running [] running
    rw [List.append_nil] at entries
    refine inv_phase inv before ⟨ok.entries, ?_, ?_, ?_, ?_, ?_, ?_⟩ ?_
    · rintro todo ⟨⟩
    · exact fun _ => ⟨entries, intact⟩
    · rintro n reason ⟨⟩
    · rintro reason ⟨⟩
    · simp
    · simp
    · simp [Pxy.Registered, running]
  · cases next

theorem inv_add (inv : Inv serverCfg s) (next : step serverCfg s (.add p) = some t) :
    Inv serverCfg t := by
  obtain ⟨pxy, before, next⟩ := Option.bind_eq_some_iff.1 next
  split at next
  · rename_i ran
    have ok := inv.ok p pxy before
    obtain ⟨entries, intact⟩ := ok.up (.inl ran)
    split at next
    · cases next
      exact inv_phase inv before (ok_closing ok.entries (fun _ => entries) intact .addFailed)
        (by simp [Pxy.Registered, ran])
    · rename_i free
      cases next
      have change : Replaced s ({ s with pxyManager := s.pxyManager.set pxy.name p }.setPxy p
        { pxy with phase := .up }) p pxy { pxy with phase := .up } := ⟨before, rfl⟩
      refine change.phase inv ⟨ok.entries, ?_, ?_, ?_, ?_, ?_, ?_⟩ ?_ ?_ rfl rfl ?_
      · rintro todo ⟨⟩
      · exact fun _ => ⟨entries, intact⟩
      · rintro n reason ⟨⟩
      · rintro reason ⟨⟩
      · simp
      · simp
      · exact ⟨inv.sorted.https, inv.sorted.tcpmux⟩
      · funext k
        cases k <;> rfl
      · refine GoMap.Covers.set (i := p) inv.names free ?_ ?_
        · intro name q
          simp only [State.Names, change.getElem?, change.before, if_true, Option.some.injEq,
            exists_eq_left', Pxy.Registered, ran]
          grind
        · intro q name r other
          simp [State.Names, change.getElem?, other]
  · cases next

theorem inv_close (inv : Inv serverCfg s) (before : s.pxys[p]? = some pxy)
    (up : pxy.phase = .up) :
    Inv serverCfg (s.setPxy p { pxy with phase := .closing 0 .byControl }) := by
  have ok := inv.ok p pxy before
  obtain ⟨entries, intact⟩ := ok.up (.inr up)
  exact inv_phase inv before (ok_closing ok.entries (fun _ => entries) intact .byControl)
    (by simp [Pxy.Registered, up])

/-! ### The steps of a `Close` -/

theorem isVisitor_of_entry {name sk : String} {allowUsers : List String}
    (mem : Entry.visitor name sk allowUsers ∈ pxy.entries serverCfg) :
    pxy.conf.isVisitor = true := by
  unfold Pxy.entries at mem
  cases conf : pxy.conf <;> simp_all [Conf.entries, Conf.isVisitor]

theorem not_isVisitor_of_entry {entry : Entry} (mem : entry ∈ pxy.entries serverCfg)
    (vhost : ∀ name sk allowUsers, entry ≠ .visitor name sk allowUsers) :
    pxy.conf.isVisitor = false := by
  cases visitor : pxy.conf.isVisitor with
  | false => rfl
  | true =>
      obtain ⟨only, is, key⟩ := @entries_visitor serverCfg _ visitor
      rw [is] at mem
      cases List.mem_singleton.1 mem
      cases entry with
      | visitor name sk allowUsers => exact absurd rfl (vhost name sk allowUsers)
      | _ => cases key

/-- The loop has closed one more listener. -/
theorem ok_closed {n : Nat} {reason : Reason} {l l' : Listener} (ok : pxy.Ok serverCfg)
    (closing : pxy.phase = .closing n reason) (at_n : pxy.listeners[n]? = some l)
    (entry : l'.entry = l.entry) (isOpen : l'.isOpen = false)
    (listed : l'.listed = pxy.conf.isVisitor) :
    Pxy.Ok serverCfg { pxy with
      listeners := pxy.listeners.set n l'
      phase := .closing (n + 1) reason } where
  entries := by
    intro x mem
    rcases List.mem_or_eq_of_mem_set mem with old | rfl
    · exact ok.entries x old
    · rw [entry]
      exact ok.entries l (List.mem_of_getElem? at_n)
  running := by rintro todo ⟨⟩
  up := by simp
  closing := by
    rintro m reason' ⟨⟩
    obtain ⟨all, each⟩ := ok.closing n reason closing
    refine ⟨?_, ?_⟩
    · intro visitor
      have same : (pxy.listeners.set n l').map Listener.entry =
          pxy.listeners.map Listener.entry := Slots.map_set_of_eq at_n entry
      exact same.trans (all visitor)
    · intro i x at_i
      rcases Slots.set_cases at_i with ⟨rfl, rfl⟩ | ⟨other, old⟩
      · simp [isOpen, listed]
      · obtain ⟨isOpen, listed⟩ := each i x old
        have same : decide (n ≤ i) = decide (n + 1 ≤ i) := by
          rw [decide_eq_decide]
          omega
        rw [isOpen, listed, same]
        exact ⟨rfl, rfl⟩
  unlisting := by rintro reason' ⟨⟩
  gone := by simp
  calm := by simp

theorem inv_closeListener (inv : Inv serverCfg s) (before : s.pxys[p]? = some pxy) {n : Nat}
    {reason : Reason} {l : Listener} (closing : pxy.phase = .closing n reason)
    (at_n : pxy.listeners[n]? = some l) :
    Inv serverCfg (s.closeListener p pxy n reason l) := by
  have ok := inv.ok p pxy before
  have inside := ok.entries l (List.mem_of_getElem? at_n)
  obtain ⟨isOpen, listed⟩ := (ok.closing n reason closing).2 n l at_n
  simp only [le_refl, decide_true, Bool.or_true] at isOpen listed
  unfold State.closeListener
  dsimp only
  split
  · rename_i name sk allowUsers entry
    rw [entry] at inside
    have visitor := isVisitor_of_entry inside
    have change : Replaced s (s.setPxy p { pxy with
        listeners := pxy.listeners.set n { l with isOpen := false }
        phase := .closing (n + 1) reason }) p pxy { pxy with
        listeners := pxy.listeners.set n { l with isOpen := false }
        phase := .closing (n + 1) reason } := ⟨before, rfl⟩
    refine change.keep inv (ok_closed ok closing at_n rfl rfl (listed.trans visitor.symm))
      (sorted_setPxy inv.sorted p _) (change.rows_stay inv (row_setPxy p _) ?_) rfl
      (Slots.map_set_of_eq at_n rfl) (change.names_stay inv rfl rfl ?_)
    · intro k id
      constructor
      · rintro ⟨x, mem, listed', key, id_eq⟩
        obtain ⟨i, at_i⟩ := List.mem_iff_getElem?.1 mem
        rcases Slots.set_cases at_i with ⟨rfl, rfl⟩ | ⟨-, old⟩
        · exact ⟨l, List.mem_of_getElem? at_n, listed, key, id_eq⟩
        · exact ⟨x, List.mem_of_getElem? old, listed', key, id_eq⟩
      · rintro ⟨x, mem, listed', key, id_eq⟩
        rcases Slots.eq_or_mem_set at_n mem with rfl | old
        · exact ⟨_, List.mem_of_getElem? (Slots.set_self at_n), listed, key, id_eq⟩
        · exact ⟨x, old, listed', key, id_eq⟩
    · cases reason <;> simp [Pxy.Registered, closing]
  · rename_i vhost
    have visitor := not_isVisitor_of_entry inside vhost
    rw [if_pos isOpen]
    have change : Replaced s ((s.del l.entry.key).setPxy p { pxy with
        listeners := pxy.listeners.set n { l with isOpen := false, listed := false }
        phase := .closing (n + 1) reason }) p pxy { pxy with
        listeners := pxy.listeners.set n { l with isOpen := false, listed := false }
        phase := .closing (n + 1) reason } := ⟨before, by rw [State.setPxy, pxys_del]⟩
    refine change.keep inv (ok_closed ok closing at_n rfl rfl visitor.symm)
      (sorted_setPxy (sorted_del inv.sorted _) p _)
      (change.rows_drop (k := l.entry.key) (i := l.id) inv ?_ ?_ ?_)
      (next_del _) (Slots.map_set_of_eq at_n rfl) (change.names_stay inv (pxyManager_del _) rfl ?_)
    · intro k'
      rw [row_setPxy, row_del inv.sorted]
    · exact ⟨l, List.mem_of_getElem? at_n, listed, rfl, rfl⟩
    · intro k' id'
      constructor
      · rintro ⟨x, mem, listed', key, id_eq⟩
        obtain ⟨i, at_i⟩ := List.mem_iff_getElem?.1 mem
        rcases Slots.set_cases at_i with ⟨rfl, rfl⟩ | ⟨other, old⟩
        · cases listed'
        · refine ⟨⟨x, List.mem_of_getElem? old, listed', key, id_eq⟩, ?_⟩
          rintro rfl
          exact other (holds_of_id inv before old listed' key id_eq before at_n listed rfl rfl).2
      · rintro ⟨⟨x, mem, listed', key, id_eq⟩, differs⟩
        rcases Slots.eq_or_mem_set at_n mem with rfl | old
        · exact absurd key.symm differs
        · exact ⟨x, old, listed', key, id_eq⟩
    · cases reason <;> simp [Pxy.Registered, closing]

theorem ok_next (entries : ∀ l ∈ pxy.listeners, l.entry ∈ pxy.entries serverCfg)
    (gone : Gone pxy.listeners) (reason : Reason) :
    Pxy.Ok serverCfg { pxy with phase := reason.next } := by
  constructor
  · exact entries
  all_goals cases reason <;> simp [Reason.next, gone]

theorem inv_afterLoop (inv : Inv serverCfg s) (before : s.pxys[p]? = some pxy) {n : Nat}
    {reason : Reason} (closing : pxy.phase = .closing n reason)
    (over_ : pxy.listeners[n]? = none) :
    Inv serverCfg (s.setPxy p { pxy with phase := pxy.afterLoop reason }) := by
  have ok := inv.ok p pxy before
  obtain ⟨all, each⟩ := ok.closing n reason closing
  have past : ∀ l ∈ pxy.listeners, l.isOpen = false ∧ l.listed = pxy.conf.isVisitor := by
    intro l mem
    obtain ⟨i, at_i⟩ := List.mem_iff_getElem?.1 mem
    have bound := (List.getElem?_eq_some_iff.1 at_i).1
    have short := List.getElem?_eq_none_iff.1 over_
    obtain ⟨isOpen, listed⟩ := each i l at_i
    have later : ¬ n ≤ i := by omega
    simpa [later] using And.intro isOpen listed
  refine inv_phase inv before ?_ ?_
  · unfold Pxy.afterLoop
    split
    · rename_i visitor
      rw [visitor] at past
      refine ⟨ok.entries, ?_, ?_, ?_, ?_, ?_, ?_⟩
      · rintro todo ⟨⟩
      · simp
      · rintro m reason' ⟨⟩
      · exact fun _ _ => ⟨visitor, all visitor, past⟩
      · simp
      · simp
    · rename_i vhost
      rw [Bool.not_eq_true] at vhost
      rw [vhost] at past
      exact ok_next ok.entries past reason
  · unfold Pxy.afterLoop
    split <;> cases reason <;> simp [Pxy.Registered, Reason.next, closing]

theorem inv_unlisting (inv : Inv serverCfg s) (before : s.pxys[p]? = some pxy) {reason : Reason}
    (unlisting : pxy.phase = .unlisting reason) :
    Inv serverCfg ((s.del (.visitor pxy.name)).setPxy p { pxy with
      listeners := pxy.listeners.map fun l => { l with listed := false }
      phase := reason.next }) := by
  have ok := inv.ok p pxy before
  obtain ⟨visitor, all, past⟩ := ok.unlisting reason unlisting
  obtain ⟨entry, is, key⟩ := @entries_visitor serverCfg _ visitor
  have keys : ∀ l ∈ pxy.listeners, l.entry.key = .visitor pxy.name := by
    intro l mem
    have inside := ok.entries l mem
    rw [is] at inside
    rw [List.mem_singleton.1 inside, key]
  have change : Replaced s ((s.del (.visitor pxy.name)).setPxy p { pxy with
      listeners := pxy.listeners.map fun l => { l with listed := false }
      phase := reason.next }) p pxy { pxy with
      listeners := pxy.listeners.map fun l => { l with listed := false }
      phase := reason.next } := ⟨before, by rw [State.setPxy, pxys_del]⟩
  obtain ⟨l, mem⟩ : ∃ l, l ∈ pxy.listeners := by
    cases listeners : pxy.listeners with
    | nil => simp [listeners, is] at all
    | cons l rest => exact ⟨l, List.mem_cons_self⟩
  refine change.keep inv (@ok_next serverCfg { pxy with
    listeners := pxy.listeners.map fun l => { l with listed := false } } ?_ ?_ reason)
    (sorted_setPxy (sorted_del inv.sorted _) p _)
    (change.rows_drop (k := .visitor pxy.name) (i := l.id) inv ?_ ?_ ?_) (next_del _) ?_
    (change.names_stay inv (pxyManager_del _) rfl ?_)
  · intro x mem'
    obtain ⟨y, old, rfl⟩ := List.mem_map.1 mem'
    exact ok.entries y old
  · intro x mem'
    obtain ⟨y, old, rfl⟩ := List.mem_map.1 mem'
    exact ⟨(past y old).1, rfl⟩
  · intro k'
    rw [row_setPxy, row_del inv.sorted]
  · exact ⟨l, mem, (past l mem).2, keys l mem, rfl⟩
  · intro k' id'
    constructor
    · rintro ⟨x, mem', listed, -⟩
      obtain ⟨y, -, rfl⟩ := List.mem_map.1 mem'
      cases listed
    · rintro ⟨⟨x, mem', -, key', -⟩, differs⟩
      exact absurd (key'.symm.trans (keys x mem')) differs
  · rw [List.map_map]
    rfl
  · cases reason <;> simp [Pxy.Registered, Reason.next, unlisting]

theorem inv_leaving (inv : Inv serverCfg s) (before : s.pxys[p]? = some pxy)
    (leaving : pxy.phase = .leaving) :
    Inv serverCfg ({ s with pxyManager := s.pxyManager.delete pxy.name }.setPxy p
      { pxy with phase := .closed }) := by
  have ok := inv.ok p pxy before
  have change : Replaced s ({ s with pxyManager := s.pxyManager.delete pxy.name }.setPxy p
    { pxy with phase := .closed }) p pxy { pxy with phase := .closed } := ⟨before, rfl⟩
  have registered : pxy.Registered := by simp [Pxy.Registered, leaving]
  have mine : s.pxyManager.get pxy.name = some p :=
    (inv.names pxy.name p).2 ⟨p, rfl, pxy, before, rfl, registered⟩
  refine change.phase inv ⟨ok.entries, ?_, ?_, ?_, ?_, ?_, ?_⟩ ?_ ?_ rfl rfl ?_
  · rintro todo ⟨⟩
  · simp
  · rintro n reason ⟨⟩
  · rintro reason ⟨⟩
  · exact fun _ => ok.gone (.inl leaving)
  · simp
  · exact ⟨inv.sorted.https, inv.sorted.tcpmux⟩
  · funext k
    cases k <;> rfl
  · refine GoMap.Covers.delete (i := p) inv.names ?_ ?_ ?_
    · intro name q
      simp only [State.Names, change.getElem?, change.before, if_true, Option.some.injEq,
        exists_eq_left', Pxy.Registered, leaving]
      grind
    · intro q name r other
      simp [State.Names, change.getElem?, other]
    · rintro q r ⟨rfl, other, at_q, name, registered'⟩
      have theirs := (inv.names pxy.name r).2 ⟨r, rfl, other, at_q, name, registered'⟩
      cases mine.symm.trans theirs
      rfl

theorem inv_act (inv : Inv serverCfg s) (next : step serverCfg s (.act p) = some t) :
    Inv serverCfg t := by
  obtain ⟨pxy, before, next⟩ := Option.bind_eq_some_iff.1 next
  unfold State.act at next
  split at next
  · rename_i n reason closing
    split at next
    · rename_i l at_n
      cases next
      exact inv_closeListener inv before closing at_n
    · rename_i over_
      cases next
      exact inv_afterLoop inv before closing over_
  · rename_i reason unlisting
    cases next
    exact inv_unlisting inv before unlisting
  · rename_i leaving
    cases next
    exact inv_leaving inv before leaving
  · cases next

/-! ## Runs -/

/-- A proxy is to be closed that is closed already. -/
def again (s : State) : Label → Bool
  | .close p => (s.pxys[p]?).any fun pxy => pxy.phase = .closed
  | _ => false

def Once (s : State) (l : Label) (_ : State) : Prop := again s l = false

instance (s : State) (l : Label) (t : State) : Decidable (Once s l t) :=
  inferInstanceAs (Decidable (again s l = false))

theorem step_inv {l : Label} (inv : Inv serverCfg s) (once : Once s l t)
    (next : step serverCfg s l = some t) : Inv serverCfg t := by
  cases l with
  | register name user conf => exact inv_register inv next
  | listen p => exact inv_listen inv next
  | runReturns p => exact inv_runReturns inv next
  | add p => exact inv_add inv next
  | act p => exact inv_act inv next
  | close p =>
      obtain ⟨pxy, before, next⟩ := Option.bind_eq_some_iff.1 next
      split at next
      · rename_i up
        cases next
        exact inv_close inv before up
      · rename_i closed
        simp [Once, again, before, closed] at once
      · cases next

/-- The proxy is in `Run`, in the manager, or in its first `Close`. -/
def Pxy.There (pxy : Pxy) : Prop := pxy.phase ≠ .failed ∧ pxy.phase ≠ .closed

/-- A listener of a proxy that is there has the name, and no other proxy has it.  One that a
muxer finds is open. -/
structure Takes (s : State) (k : Key) (p : Nat) (pxy : Pxy) (l : Listener) : Prop where
  before : s.pxys[p]? = some pxy
  there : pxy.There
  mem : l ∈ pxy.listeners
  key : l.entry.key = k
  isOpen : (∀ name, k ≠ .visitor name) → l.isOpen = true
  alone : ∀ q id, s.Holds q k id → q = p

variable (serverCfg) in
/-- The tables are those of the proxies that are there. -/
structure Owned (s : State) : Prop where
  calm : ∀ (p : Nat) pxy, s.pxys[p]? = some pxy → pxy.phase ≠ .panicked
  owner : ∀ k id, s.row k = some id → ∃ p pxy l, Takes s k p pxy l ∧ l.id = id
  /-- What the muxers find for a user's connection. -/
  https : ∀ name path httpUser vr, s.httpsMuxer.search name path httpUser = some vr →
    ∃ p pxy l, Takes s (.https vr.domain vr.location vr.httpUser) p pxy l ∧ l.id = vr.payload
  tcpmux : ∀ name path httpUser vr, s.tcpmuxMuxer.search name path httpUser = some vr →
    ∃ p pxy l, Takes s (.tcpmux vr.domain vr.location vr.httpUser) p pxy l ∧ l.id = vr.payload
  /-- A proxy that is up has all its names. -/
  up : ∀ (p : Nat) pxy, s.pxys[p]? = some pxy → pxy.phase = .up →
    pxy.listeners.map Listener.entry = pxy.entries serverCfg ∧
      ∀ l ∈ pxy.listeners, l.isOpen = true ∧ s.row l.entry.key = some l.id
  /-- Nothing is left of a proxy that is not there. -/
  gone : ∀ (p : Nat) pxy, s.pxys[p]? = some pxy → ¬ pxy.There →
    ∀ l ∈ pxy.listeners, l.isOpen = false ∧ ∀ k, s.row k ≠ some l.id
  named : ∀ name p, s.pxyManager.get name = some p ↔
    ∃ pxy, s.pxys[p]? = some pxy ∧ pxy.name = name ∧ pxy.Registered
  empty : (∀ (p : Nat) pxy, s.pxys[p]? = some pxy → ¬ pxy.There) →
    (∀ k, s.row k = none) ∧ ∀ name, s.pxyManager.get name = none

theorem Pxy.Ok.there_of_listed (ok : pxy.Ok serverCfg) {l : Listener} (mem : l ∈ pxy.listeners)
    (listed : l.listed = true) : pxy.There := by
  have off : ∀ {phase}, pxy.phase = phase → (phase = .failed ∨ phase = .closed) → False := by
    rintro phase rfl ended
    have gone := ok.gone (ended.elim (fun failed => .inr (.inl failed)) (fun c => .inr (.inr c)))
    rw [(gone l mem).2] at listed
    cases listed
  exact ⟨fun failed => off failed (.inl rfl), fun closed => off closed (.inr rfl)⟩

theorem Pxy.Ok.isOpen_of_listed (ok : pxy.Ok serverCfg) {l : Listener} (mem : l ∈ pxy.listeners)
    (listed : l.listed = true) (vhost : pxy.conf.isVisitor = false) : l.isOpen = true := by
  cases phase : pxy.phase with
  | running todo => exact ((ok.running todo phase).2 l mem).1
  | ran => exact ((ok.up (.inl phase)).2 l mem).1
  | up => exact ((ok.up (.inr phase)).2 l mem).1
  | closing n reason =>
      obtain ⟨i, at_i⟩ := List.mem_iff_getElem?.1 mem
      obtain ⟨isOpen, listed'⟩ := (ok.closing n reason phase).2 i l at_i
      rw [vhost, Bool.false_or] at listed'
      rw [isOpen, ← listed', listed]
  | unlisting reason =>
      rw [(ok.unlisting reason phase).1] at vhost
      cases vhost
  | leaving =>
      rw [(ok.gone (.inl phase) l mem).2] at listed
      cases listed
  | failed =>
      rw [(ok.gone (.inr (.inl phase)) l mem).2] at listed
      cases listed
  | closed =>
      rw [(ok.gone (.inr (.inr phase)) l mem).2] at listed
      cases listed
  | panicked => exact absurd phase ok.calm

theorem Inv.holder (inv : Inv serverCfg s) {k : Key} {id : Nat} (row : s.row k = some id) :
    ∃ p, s.Holds p k id := by
  obtain ⟨rows, refines, covers⟩ := inv.rows
  rw [refines] at row
  exact (covers k id).1 row

theorem Inv.row_of_holds (inv : Inv serverCfg s) {k : Key} {id : Nat} (holds : s.Holds p k id) :
    s.row k = some id := by
  obtain ⟨rows, refines, covers⟩ := inv.rows
  rw [refines]
  exact (covers k id).2 ⟨p, holds⟩

theorem Inv.gone (inv : Inv serverCfg s) (before : s.pxys[p]? = some pxy) (ended : ¬ pxy.There) :
    Gone pxy.listeners := by
  have ok := inv.ok p pxy before
  by_cases failed : pxy.phase = .failed
  · exact ok.gone (.inr (.inl failed))
  · have closed : pxy.phase = .closed := by
      by_contra open_
      exact ended ⟨failed, open_⟩
    exact ok.gone (.inr (.inr closed))

theorem Inv.takes (inv : Inv serverCfg s) {k : Key} {n : Nat} (row : s.row k = some n) :
    ∃ p pxy l, Takes s k p pxy l ∧ l.id = n := by
  obtain ⟨p, holds⟩ := inv.holder row
  obtain ⟨pxy, before, l, mem, listed, key, id_eq⟩ := id holds
  have ok := inv.ok p pxy before
  refine ⟨p, pxy, l, ⟨before, ok.there_of_listed mem listed, mem, key, ?_, ?_⟩, id_eq⟩
  · intro vhost
    apply ok.isOpen_of_listed mem listed
    apply not_isVisitor_of_entry (ok.entries l mem)
    rintro name sk allowUsers entry
    exact vhost name (by rw [← key, entry, Entry.key])
  · intro q id' theirs
    exact (holder_unique inv holds theirs).symm

theorem holds_of_search {r : Routers Nat} (sorted : r.Sorted) {name path httpUser : GoString}
    {vr : Router Nat} (found : r.search name path httpUser = some vr) :
    r.table vr.domain vr.location vr.httpUser = some vr.payload := by
  obtain ⟨domain, mem⟩ := Routers.search_mem found
  rw [← sorted.holds_iff]
  rcases mem with user | everybody
  · exact ⟨domain, httpUser, user⟩
  · exact ⟨domain, [], everybody⟩

theorem Inv.owned (inv : Inv serverCfg s) : Owned serverCfg s where
  calm p pxy before := (inv.ok p pxy before).calm
  owner k id row := inv.takes row
  https name path httpUser vr found := inv.takes (holds_of_search inv.sorted.https found)
  tcpmux name path httpUser vr found := inv.takes (holds_of_search inv.sorted.tcpmux found)
  up p pxy before up := by
    obtain ⟨entries, intact⟩ := (inv.ok p pxy before).up (.inr up)
    refine ⟨entries, ?_⟩
    intro l mem
    obtain ⟨isOpen, listed⟩ := intact l mem
    exact ⟨isOpen, inv.row_of_holds ⟨pxy, before, l, mem, listed, rfl, rfl⟩⟩
  gone p pxy before ended l mem := by
    have gone := inv.gone before ended
    refine ⟨(gone l mem).1, ?_⟩
    intro k row
    obtain ⟨q, other, at_q, l', mem', listed, -, id_eq⟩ := inv.holder row
    obtain ⟨i, at_i⟩ := List.mem_iff_getElem?.1 mem
    obtain ⟨j, at_j⟩ := List.mem_iff_getElem?.1 mem'
    obtain ⟨rfl, rfl⟩ := inv.distinct p i q j l.id (by simp [State.idAt, before, at_i])
      (by simp [State.idAt, at_q, at_j, id_eq])
    cases before.symm.trans at_q
    cases at_i.symm.trans at_j
    rw [(gone l mem).2] at listed
    cases listed
  named name p := by
    rw [inv.names name p]
    constructor
    · rintro ⟨q, rfl, named⟩
      exact named
    · exact fun named => ⟨p, rfl, named⟩
  empty ended := by
    constructor
    · intro k
      by_contra taken
      obtain ⟨id, row⟩ := Option.ne_none_iff_exists'.1 taken
      obtain ⟨p, pxy, before, l, mem, listed, -⟩ := inv.holder row
      rw [(inv.gone before (ended p pxy before) l mem).2] at listed
      cases listed
    · intro name
      by_contra taken
      obtain ⟨p, found⟩ := Option.ne_none_iff_exists'.1 taken
      obtain ⟨q, -, pxy, before, -, registered⟩ := (inv.names name p).1 found
      apply ended q pxy before
      constructor <;> intro phase <;> simp [Pxy.Registered, phase] at registered

/-- **In a run in which no proxy is closed twice the tables are at any time those of the
proxies that are there.** -/
theorem names_owned {ls : List Label} (once : Along (step serverCfg) Once start ls)
    (run : exec (step serverCfg) start ls = some s) : Owned serverCfg s := by
  refine (invariant_of_along (Inv serverCfg) ?_ start_inv once run).owned
  intro u l v inv good next
  exact step_inv inv good next

/-- A second `Close` of a proxy with a vhost listener takes the name out of the table,
whoever has it, and panics. -/
theorem second_close (inv : Inv serverCfg s) (before : s.pxys[p]? = some pxy)
    (closed : pxy.phase = .closed) (vhost : pxy.conf.isVisitor = false) {l : Listener}
    (first : pxy.listeners[0]? = some l) :
    ∃ t, exec (step serverCfg) s [.close p, .act p] = some t ∧ t.row l.entry.key = none ∧
      ¬ Owned serverCfg t := by
  have ok := inv.ok p pxy before
  have mem := List.mem_of_getElem? first
  obtain ⟨shut, -⟩ := ok.gone (.inr (.inr closed)) l mem
  have other : ∀ name sk allowUsers, l.entry ≠ .visitor name sk allowUsers := by
    intro name sk allowUsers entry
    have inside := ok.entries l mem
    rw [entry] at inside
    rw [isVisitor_of_entry inside] at vhost
    cases vhost
  have again := Slots.set_self before (b := { pxy with phase := Phase.closing 0 .byControl })
  have closes : step serverCfg s (.close p) =
      some (s.setPxy p { pxy with phase := .closing 0 .byControl }) := by
    simp only [step, before, Option.bind_some, closed]
  have acts : step serverCfg (s.setPxy p { pxy with phase := .closing 0 .byControl }) (.act p) =
      some (((s.setPxy p { pxy with phase := .closing 0 .byControl }).del l.entry.key).setPxy p
        { pxy with phase := .panicked }) := by
    simp only [step, State.setPxy, again, Option.bind_some, State.act, first, State.closeListener]
    cases entry : l.entry with
    | visitor name sk allowUsers => exact absurd entry (other name sk allowUsers)
    | _ => simp [shut]
  refine ⟨_, exec_cons_eq_some.2 ⟨_, closes, exec_cons_eq_some.2 ⟨_, acts, rfl⟩⟩, ?_, ?_⟩
  · rw [row_setPxy, row_del (sorted_setPxy inv.sorted p _), if_pos rfl]
  · intro owned
    refine owned.calm p { pxy with phase := .panicked } ?_ rfl
    simp only [State.setPxy, pxys_del]
    exact Slots.set_self again

end Steps

def domain : GoString := GoString.lit "a.com"

/-- An https proxy comes up and another one for its domain fails; an stcp proxy comes and
goes. -/
def comings : List Label :=
  [.register "web" "u" (.https ⟨[domain], []⟩),
    .register "copy" "u" (.https ⟨[[98], domain], []⟩),
    .register "ssh" "u" (.visitor "sk" []), .listen 0, .listen 1, .listen 2, .listen 1,
    .runReturns 0, .runReturns 2, .add 0, .add 2, .act 1, .close 2, .act 2, .act 1, .act 2,
    .act 2, .act 2]

theorem names_owned_comings : ∃ s,
    exec (step ⟨80, 443, 0, []⟩) start comings = some s ∧ s.pxys.map Pxy.phase =
      [.up, .failed, .closed] ∧ Owned ⟨80, 443, 0, []⟩ s := by
  refine ⟨_, rfl, rfl, ?_⟩
  exact names_owned (by decide) (show exec _ _ comings = _ from rfl)

end ChmlFrp.Server.Listeners
