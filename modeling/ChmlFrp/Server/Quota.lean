/-
# ChmlFrp.Server.Quota — the ports that one client uses

`RegisterProxy`, `CloseProxy` and `ForceCloseProxy` of `server/control.go`.  The counter is
raised under the control's lock before the proxy runs and lowered by a deferred function
when anything after that fails; the two closes lower it, close the proxy and take it out of
the manager and of the control, in one section under the lock.  Any number of these calls
run at once, one section at a time; other controls use the other names of the manager and
share the tcp groups, which are those of `ListenerGroup`.

* `ports_accounted_iff`: the counter is right in every state of a run iff no close in the
  section panics, which is when it closes the last member of a tcp group object whose
  channel is closed already.
* `forced_close_panics`: a proxy that joined such an object, closed by the dashboard.
-/
import ChmlFrp.Server.ListenerGroup

namespace ChmlFrp.Server.Quota

set_option autoImplicit false

open ChmlFrp.Lib
open ChmlFrp.Lib.Transition
open ChmlFrp.Server.ListenerGroup (TCPArgs Kind)

/-! ## Proxies -/

/-- The types of proxies, as far as ports and groups go. -/
inductive Conf where
  | tcp
  /-- With a group; the group object and the listener, after `Run`. -/
  | tcpGroup (group : String) (args : TCPArgs) (ln : Option (Nat × Nat))
  | udp
  /-- http, https, tcpmux, stcp, xtcp, sudp -/
  | noPort
  deriving DecidableEq, Repr

structure Proxy where
  name : String
  conf : Conf
  deriving DecidableEq, Repr

namespace Proxy

/-- `usedPortsNum`, which `NewTCPProxy` and `NewUDPProxy` set. -/
def getUsedPortsNum (pxy : Proxy) : Int :=
  match pxy.conf with
  | .tcp => 1
  | .tcpGroup _ _ _ => 1
  | .udp => 1
  | .noPort => 0

def ln (pxy : Proxy) : Option (Nat × Nat) :=
  match pxy.conf with
  | .tcpGroup _ _ ln => ln
  | _ => none

def inGroup (pxy : Proxy) : Bool :=
  match pxy.conf with
  | .tcpGroup _ _ _ => true
  | _ => false

end Proxy

abbrev Groups := ListenerGroup.State TCPArgs

/-- A step of the tcp groups. -/
def groupStep (tgc : Groups) (l : ListenerGroup.Label TCPArgs) : Option Groups :=
  ListenerGroup.step Kind.tcp.refuses Kind.tcp.differs tgc l

/-- `Close` of a listener panics: its own channel is closed already, or it is the last of a
group object whose channel is. -/
def Panics (tgc : Groups) (g ln : Nat) : Prop :=
  ln ∉ (tgc.heap g).lns ∨ (tgc.heap g).lns.erase ln = [] ∧ (tgc.heap g).acceptChOpen = false

instance (tgc : Groups) (g ln : Nat) : Decidable (Panics tgc g ln) := instDecidableOr

inductive Outcome where
  /-- With the `RemoveGroup` that is still to be done. -/
  | returned (remove : Option Nat)
  | panicked

def Outcome.remove : Outcome → Option Nat
  | .returned remove => remove
  | .panicked => none

/-- `Close` of a proxy that runs.  That of a tcp proxy without a group and of a udp proxy
returns; of the others, `returns` says whether it does. -/
def Proxy.close (pxy : Proxy) (returns : Bool) (tgc : Groups) : Option (Groups × Outcome) :=
  match pxy.conf with
  | .tcpGroup _ _ (some (g, ln)) =>
      if ln ∈ (tgc.heap g).lns then
        (groupStep tgc (.close g ln)).map fun tgc' =>
          if Panics tgc g ln then (tgc', .panicked)
          else if (tgc'.heap g).locked then (tgc', .returned (some tgc.nextOp))
          else (tgc', .returned none)
      else some (tgc, .panicked)
  | .noPort => some (tgc, if returns then .returned none else .panicked)
  | _ => some (tgc, .returned none)

/-! ## The machine -/

inductive Phase where
  /-- Counted; `Exist` is next. -/
  | counted
  /-- `Run` is next. -/
  | free
  /-- `Run` has the group object. -/
  | fetched (op : Nat)
  /-- `Add` is next. -/
  | running
  /-- The insertion into the control is next. -/
  | added
  /-- `Add` failed; the deferred `Close` is next. -/
  | refused
  /-- The deferred lowering is next. -/
  | failed (remove : Option Nat)
  deriving DecidableEq, Repr

/-- A `RegisterProxy` that is past the check of the limit. -/
structure Reg where
  pxy : Proxy
  phase : Phase

def Reg.getUsedPortsNum (r : Reg) : Int := r.pxy.getUsedPortsNum

inductive Stage where
  /-- The counter is lowered. -/
  | lowered
  | closed (remove : Option Nat)
  /-- The name is out of the manager. -/
  | deleted
  deriving DecidableEq, Repr

/-- A close in its section. -/
structure Closing where
  proxyName : String
  pxy : Proxy
  /-- It is a `ForceCloseProxy`. -/
  force : Bool
  stage : Stage

/-- Whose proxy stands in the manager. -/
inductive Holder where
  | this
  | other
  deriving DecidableEq, Repr

structure State where
  portsUsedNum : Int
  proxies : GoMap String Proxy
  /-- `pxyManager` -/
  pxys : GoMap String Holder
  regs : GoMap Nat Reg
  nextReg : Nat
  closing : Option Closing
  /-- `CloseProxy` panicked with the lock; it has no deferred unlock. -/
  stuck : Bool
  tgc : Groups

def start : State := ⟨0, ∅, ∅, ∅, 0, none, false, ListenerGroup.start⟩

namespace State

variable (s : State)

/-- The lock of the control is free. -/
def Unlocked : Prop := s.closing.isNone = true ∧ s.stuck = false

instance : Decidable s.Unlocked := instDecidableAnd

def setReg (i : Nat) (r : Reg) : State := { s with regs := s.regs.set i r }

def removed : Option Nat → Bool
  | none => true
  | some op => (s.tgc.ops.get op).isNone

end State

inductive Label where
  /-- The check of the limit. -/
  | register (pxy : Proxy)
  | exist (i : Nat)
  /-- `Run` of a proxy that is not in a group, and whether it succeeds. -/
  | run (i : Nat) (ok : Bool)
  /-- The two parts of `Listen` of the group controller. -/
  | fetch (i : Nat)
  | listen (i : Nat) (first : Except String Int)
  | add (i : Nat)
  | insert (i : Nat)
  /-- The deferred functions. -/
  | closeRefused (i : Nat) (returns : Bool)
  | lower (i : Nat)
  /-- `CloseProxy` or `ForceCloseProxy` and its next steps. -/
  | closeProxy (proxyName : String) (force : Bool)
  | close (returns : Bool)
  | del
  | delete
  /-- Other controls. -/
  | othersAdd (name : String)
  | othersDel (name : String)
  /-- A step of the groups that is not one of those above: of other controls, of a worker,
  and every `RemoveGroup`. -/
  | groups (l : ListenerGroup.Label TCPArgs)

/-- The step is not about a listener of this control. -/
def Foreign (s : State) : ListenerGroup.Label TCPArgs → Prop
  | .listen op _ => ∀ i ∈ s.regs.keys, (s.regs.get i).map Reg.phase ≠ some (.fetched op)
  | .close g ln =>
      (∀ i ∈ s.regs.keys, (s.regs.get i).bind (fun r => r.pxy.ln) ≠ some (g, ln)) ∧
        ∀ name ∈ s.proxies.keys, (s.proxies.get name).bind Proxy.ln ≠ some (g, ln)
  | _ => True

instance (s : State) (l : ListenerGroup.Label TCPArgs) : Decidable (Foreign s l) := by
  cases l <;> (unfold Foreign; infer_instance)

section Machine

-- `MaxPortsPerClient`
variable (limit : Int)

/-- What is counted of a proxy; nothing without a limit. -/
def charge (pxy : Proxy) : Int := if 0 < limit then pxy.getUsedPortsNum else 0

def step (s : State) : Label → Option State
  | .register pxy =>
      if pxy.ln = none ∧ (0 < limit → s.Unlocked) then
        if 0 < limit ∧ limit < s.portsUsedNum + pxy.getUsedPortsNum then some s
        else
          some
            { s with
              portsUsedNum := s.portsUsedNum + charge limit pxy
              regs := s.regs.set s.nextReg ⟨pxy, .counted⟩
              nextReg := s.nextReg + 1 }
      else none
  | .exist i =>
      match s.regs.get i with
      | some ⟨pxy, .counted⟩ =>
          some (s.setReg i ⟨pxy, if (s.pxys.get pxy.name).isSome then .failed none else .free⟩)
      | _ => none
  | .run i ok =>
      match s.regs.get i with
      | some ⟨pxy, .free⟩ =>
          if pxy.inGroup then none
          else some (s.setReg i ⟨pxy, if ok then .running else .failed none⟩)
      | _ => none
  | .fetch i =>
      match s.regs.get i with
      | some ⟨⟨name, .tcpGroup group args ln⟩, .free⟩ =>
          (groupStep s.tgc (.fetch group args)).map fun tgc =>
            { s.setReg i ⟨⟨name, .tcpGroup group args ln⟩, .fetched s.tgc.nextOp⟩ with tgc := tgc }
      | _ => none
  | .listen i first =>
      match s.regs.get i with
      | some ⟨⟨name, .tcpGroup group args _⟩, .fetched op⟩ =>
          match s.tgc.ops.get op with
          | some (.fetched g group' args') =>
              (groupStep s.tgc (.listen op first)).map fun tgc =>
                match (s.tgc.heap g).listen Kind.tcp.differs op group' args' first with
                | .ok _ =>
                    { s.setReg i ⟨⟨name, .tcpGroup group args (some (g, op))⟩, .running⟩ with
                      tgc := tgc }
                | .error _ =>
                    { s.setReg i ⟨⟨name, .tcpGroup group args none⟩, .failed none⟩ with
                      tgc := tgc }
          | _ => none
      | _ => none
  | .add i =>
      match s.regs.get i with
      | some ⟨pxy, .running⟩ =>
          match s.pxys.get pxy.name with
          | some _ => some (s.setReg i ⟨pxy, .refused⟩)
          | none => some { s.setReg i ⟨pxy, .added⟩ with pxys := s.pxys.set pxy.name .this }
      | _ => none
  | .insert i =>
      match s.regs.get i with
      | some ⟨pxy, .added⟩ =>
          if s.Unlocked then
            some { s with proxies := s.proxies.set pxy.name pxy, regs := s.regs.delete i }
          else none
      | _ => none
  | .closeRefused i returns =>
      match s.regs.get i with
      | some ⟨pxy, .refused⟩ =>
          (pxy.close returns s.tgc).map fun (tgc, outcome) =>
            -- The lowering is deferred: it is done when this panics, too.
            { s.setReg i ⟨pxy, .failed outcome.remove⟩ with tgc := tgc }
      | _ => none
  | .lower i =>
      match s.regs.get i with
      | some ⟨pxy, .failed remove⟩ =>
          if s.removed remove ∧ (0 < limit → s.Unlocked) then
            some
              { s with
                portsUsedNum := s.portsUsedNum - charge limit pxy
                regs := s.regs.delete i }
          else none
      | _ => none
  | .closeProxy proxyName force =>
      if s.Unlocked then
        match s.proxies.get proxyName with
        | none => some s
        | some pxy =>
            some
              { s with
                portsUsedNum := s.portsUsedNum - charge limit pxy
                closing := some ⟨proxyName, pxy, force, .lowered⟩ }
      else none
  | .close returns =>
      match s.closing with
      | some ⟨proxyName, pxy, force, .lowered⟩ =>
          (pxy.close returns s.tgc).map fun
            | (tgc, .panicked) => { s with tgc := tgc, closing := none, stuck := !force }
            | (tgc, .returned remove) =>
                { s with tgc := tgc, closing := some ⟨proxyName, pxy, force, .closed remove⟩ }
      | _ => none
  | .del =>
      match s.closing with
      | some ⟨proxyName, pxy, force, .closed remove⟩ =>
          if s.removed remove then
            some
              { s with
                pxys := s.pxys.delete (if force then proxyName else pxy.name)
                closing := some ⟨proxyName, pxy, force, .deleted⟩ }
          else none
      | _ => none
  | .delete =>
      match s.closing with
      | some ⟨proxyName, _, _, .deleted⟩ =>
          some { s with proxies := s.proxies.delete proxyName, closing := none }
      | _ => none
  | .othersAdd name =>
      match s.pxys.get name with
      | none => some { s with pxys := s.pxys.set name .other }
      | some _ => none
  | .othersDel name =>
      match s.pxys.get name with
      | some .other => some { s with pxys := s.pxys.delete name }
      | _ => none
  | .groups l =>
      if Foreign s l then (groupStep s.tgc l).map fun tgc => { s with tgc := tgc } else none

/-! ## What is counted -/

/-- What a close in its section has lowered and not yet taken out. -/
def State.lowered (s : State) : Int := GoMap.part (fun c => c.pxy.getUsedPortsNum) s.closing

/-- The counter is that of the control's proxies, but for one that is being closed, and of
the registrations in progress, and within the limit. -/
structure Accounted (s : State) : Prop where
  counted : s.portsUsedNum + s.lowered =
    s.proxies.total Proxy.getUsedPortsNum + s.regs.total Reg.getUsedPortsNum
  nonneg : 0 ≤ s.portsUsedNum
  atMost : s.portsUsedNum ≤ limit

/-- The close of a proxy in the section does not panic in a tcp group. -/
def Guard (s : State) : Label → Prop
  | .close _ => ∀ c g ln, s.closing = some c → c.stage = .lowered → c.pxy.ln = some (g, ln) →
      ¬ Panics s.tgc g ln
  | _ => True

/-- A name of this control stands in its map, and is not out of the manager yet. -/
def State.Holds (s : State) (name : String) : Prop :=
  (∃ pxy, s.proxies.get name = some pxy) ∧
    ∀ c, s.closing = some c → c.stage = .deleted → c.proxyName ≠ name

structure Inv (s : State) : Prop where
  counted : s.portsUsedNum + s.lowered =
    s.proxies.total Proxy.getUsedPortsNum + s.regs.total Reg.getUsedPortsNum
  atMost : s.portsUsedNum ≤ limit
  named : ∀ name pxy, s.proxies.get name = some pxy → pxy.name = name
  closing : ∀ c, s.closing = some c → s.proxies.get c.proxyName = some c.pxy
  held : ∀ name, s.Holds name → s.pxys.get name = some .this
  /-- Between `Add` and the insertion a name is the registration's alone. -/
  added : ∀ i r, s.regs.get i = some r → r.phase = .added →
    s.pxys.get r.pxy.name = some .this ∧ ¬ s.Holds r.pxy.name
  once : ∀ i j r r', s.regs.get i = some r → s.regs.get j = some r' → r.phase = .added →
    r'.phase = .added → r.pxy.name = r'.pxy.name → i = j
  next : ∀ i, s.nextReg ≤ i → s.regs.get i = none

variable {limit} {s t : State}

theorem Proxy.getUsedPortsNum_nonneg (pxy : Proxy) : 0 ≤ pxy.getUsedPortsNum := by
  unfold getUsedPortsNum
  split <;> decide

/-- A proxy with a listener in a group uses a port. -/
theorem Proxy.getUsedPortsNum_of_ln {pxy : Proxy} {g ln : Nat} (grouped : pxy.ln = some (g, ln)) :
    pxy.getUsedPortsNum = 1 := by
  obtain ⟨name, conf⟩ := pxy
  cases conf with
  | tcpGroup group args ln => rfl
  | tcp | udp | noPort => cases grouped

theorem charge_of_limited (limited : 0 < limit) (pxy : Proxy) :
    charge limit pxy = pxy.getUsedPortsNum := if_pos limited

theorem start_inv (limited : 0 < limit) : Inv limit start where
  counted := rfl
  atMost := Int.le_of_lt limited
  named name pxy found := by simp [start] at found
  closing c found := by cases found
  held name holds := by
    obtain ⟨⟨pxy, found⟩, -⟩ := holds
    simp [start] at found
  added i r found := by simp [start] at found
  once i j r r' found := by simp [start] at found
  next i _ := by simp [start]

/-- The proxy that is being closed is one of the control's. -/
theorem Inv.lowered_le (inv : Inv limit s) :
    s.lowered ≤ s.proxies.total Proxy.getUsedPortsNum := by
  unfold State.lowered
  cases here : s.closing with
  | none => exact GoMap.total_nonneg Proxy.getUsedPortsNum_nonneg
  | some c => exact GoMap.le_total Proxy.getUsedPortsNum_nonneg (inv.closing c here)

theorem Inv.accounted (inv : Inv limit s) : Accounted limit s where
  counted := inv.counted
  atMost := inv.atMost
  nonneg := by
    have counted := inv.counted
    have lowered := inv.lowered_le
    have regs : 0 ≤ s.regs.total Reg.getUsedPortsNum :=
      GoMap.total_nonneg fun r => r.pxy.getUsedPortsNum_nonneg
    omega

/-! ## The steps -/

theorem Inv.tgc (inv : Inv limit s) (tgc : Groups) : Inv limit { s with tgc := tgc } :=
  ⟨inv.counted, inv.atMost, inv.named, inv.closing, inv.held, inv.added, inv.once, inv.next⟩

/-- A registration goes on to a step before `Add` or after its failure. -/
theorem Inv.setReg (inv : Inv limit s) {i : Nat} {r r' : Reg} (found : s.regs.get i = some r)
    (ports : r'.getUsedPortsNum = r.getUsedPortsNum) (phase : r'.phase ≠ .added) :
    Inv limit (s.setReg i r') := by
  have before : ∀ j q, (s.setReg i r').regs.get j = some q → q.phase = .added →
      s.regs.get j = some q := by
    intro j q found' added
    simp only [State.setReg, GoMap.get_set] at found'
    split at found'
    · cases found'
      exact absurd added phase
    · exact found'
  refine ⟨?_, inv.atMost, inv.named, inv.closing, inv.held, ?_, ?_, ?_⟩
  · have counted := inv.counted
    show s.portsUsedNum + s.lowered = _ + (s.regs.set i r').total Reg.getUsedPortsNum
    rw [GoMap.total_set_of_eq found ports]
    exact counted
  · intro j q found' added
    exact inv.added j q (before j q found' added) added
  · intro j k q q' found' found'' added added'
    exact inv.once j k q q' (before j q found' added) (before k q' found'' added') added added'
  · intro j large
    exact GoMap.get_set_eq_none found (inv.next j large)

theorem Inv.register (limited : 0 < limit) (inv : Inv limit s) {pxy : Proxy}
    (fits : s.portsUsedNum + pxy.getUsedPortsNum ≤ limit) :
    Inv limit
      { s with
        portsUsedNum := s.portsUsedNum + charge limit pxy
        regs := s.regs.set s.nextReg ⟨pxy, .counted⟩
        nextReg := s.nextReg + 1 } := by
  have before : ∀ j q, (s.regs.set s.nextReg ⟨pxy, .counted⟩).get j = some q →
      q.phase = .added → s.regs.get j = some q := by
    intro j q found added
    simp only [GoMap.get_set] at found
    split at found
    · cases found
      cases added
    · exact found
  rw [charge_of_limited limited]
  refine ⟨?_, fits, inv.named, inv.closing, inv.held, ?_, ?_, ?_⟩
  · have counted := inv.counted
    have more := GoMap.total_set_of_none (inv.next s.nextReg (Nat.le_refl _))
      (Reg.mk pxy .counted) Reg.getUsedPortsNum
    have ports : (Reg.mk pxy .counted).getUsedPortsNum = pxy.getUsedPortsNum := rfl
    show s.portsUsedNum + pxy.getUsedPortsNum + s.lowered =
      s.proxies.total Proxy.getUsedPortsNum +
        (s.regs.set s.nextReg ⟨pxy, .counted⟩).total Reg.getUsedPortsNum
    omega
  · intro j q found added
    exact inv.added j q (before j q found added) added
  · intro j k q q' found found' added added'
    exact inv.once j k q q' (before j q found added) (before k q' found' added') added added'
  · intro j large
    have later : j ≠ s.nextReg := Nat.ne_of_gt large
    simp only [GoMap.get_set, if_neg later]
    exact inv.next j (Nat.le_of_succ_le large)

/-- A name that nobody has in the manager is new to the control, too. -/
theorem Inv.add (inv : Inv limit s) {i : Nat} {pxy : Proxy} {phase : Phase}
    (found : s.regs.get i = some ⟨pxy, phase⟩) (free : s.pxys.get pxy.name = none) :
    Inv limit { s.setReg i ⟨pxy, .added⟩ with pxys := s.pxys.set pxy.name .this } := by
  have new : ∀ j q, s.regs.get j = some q → q.phase = .added → q.pxy.name ≠ pxy.name := by
    intro j q found' added same
    have here := (inv.added j q found' added).1
    rw [same, free] at here
    cases here
  have unheld : ¬ s.Holds pxy.name := by
    intro holds
    have here := inv.held pxy.name holds
    rw [free] at here
    cases here
  refine ⟨?_, inv.atMost, inv.named, inv.closing, ?_, ?_, ?_, ?_⟩
  · have counted := inv.counted
    have same : (s.regs.set i ⟨pxy, .added⟩).total Reg.getUsedPortsNum =
        s.regs.total Reg.getUsedPortsNum := GoMap.total_set_of_eq found rfl
    show s.portsUsedNum + s.lowered = _ + (s.regs.set i ⟨pxy, .added⟩).total Reg.getUsedPortsNum
    rw [same]
    exact counted
  · intro name holds
    have other : name ≠ pxy.name := by
      rintro rfl
      exact unheld holds
    simp only [GoMap.get_set, if_neg other]
    exact inv.held name holds
  · intro j q found' added
    simp only [GoMap.get_set]
    rcases GoMap.get_set_eq_some.1 found' with ⟨-, rfl⟩ | ⟨-, old⟩
    · rw [if_pos rfl]
      exact ⟨rfl, unheld⟩
    · rw [if_neg (new j q old added)]
      exact inv.added j q old added
  · intro j k q q' found' found'' added added' same
    rcases GoMap.get_set_eq_some.1 found' with ⟨here, rfl⟩ | ⟨-, old⟩
    · rcases GoMap.get_set_eq_some.1 found'' with ⟨there, rfl⟩ | ⟨-, old'⟩
      · rw [here, there]
      · exact absurd same.symm (new k q' old' added')
    · rcases GoMap.get_set_eq_some.1 found'' with ⟨-, rfl⟩ | ⟨-, old'⟩
      · exact absurd same (new j q old added)
      · exact inv.once j k q q' old old' added added' same
  · intro j large
    exact GoMap.get_set_eq_none found (inv.next j large)

/-- The proxy goes from the registrations to the control's map. -/
theorem Inv.insert (inv : Inv limit s) {i : Nat} {pxy : Proxy}
    (found : s.regs.get i = some ⟨pxy, .added⟩) (unlocked : s.Unlocked) :
    Inv limit
      { s with proxies := s.proxies.set pxy.name pxy, regs := s.regs.delete i } := by
  have none_closing : s.closing = none := Option.isNone_iff_eq_none.1 unlocked.1
  have no_close : ∀ {c : Closing} {name : String}, s.closing = some c → c.stage = .deleted →
      c.proxyName ≠ name := by
    intro c name here
    rw [none_closing] at here
    cases here
  obtain ⟨here, unheld⟩ := inv.added i _ found rfl
  have free : s.proxies.get pxy.name = none := by
    cases there : s.proxies.get pxy.name with
    | none => rfl
    | some other => exact absurd ⟨⟨other, there⟩, fun c => no_close⟩ unheld
  have old : ∀ {name}, name ≠ pxy.name →
      (∃ pxy', (s.proxies.set pxy.name pxy).get name = some pxy') → s.Holds name := by
    rintro name other ⟨pxy', found'⟩
    rw [GoMap.get_set, if_neg other] at found'
    exact ⟨⟨pxy', found'⟩, fun c => no_close⟩
  refine ⟨?_, inv.atMost, ?_, ?_, ?_, ?_, ?_, ?_⟩
  · have counted := inv.counted
    have gained := GoMap.total_set_of_none free pxy Proxy.getUsedPortsNum
    have lost := GoMap.total_delete_of_some found Reg.getUsedPortsNum
    have ports : (Reg.mk pxy .added).getUsedPortsNum = pxy.getUsedPortsNum := rfl
    show s.portsUsedNum + s.lowered =
      (s.proxies.set pxy.name pxy).total Proxy.getUsedPortsNum +
        (s.regs.delete i).total Reg.getUsedPortsNum
    omega
  · intro name pxy' found'
    simp only [GoMap.get_set] at found'
    split at found'
    · cases found'
      exact Eq.symm ‹_›
    · exact inv.named name pxy' found'
  · intro c closing
    rw [none_closing] at closing
    cases closing
  · rintro name ⟨exists_, -⟩
    by_cases same : name = pxy.name
    · rw [same]
      exact here
    · exact inv.held name (old same exists_)
  · intro j q found' added
    obtain ⟨other, found'⟩ := GoMap.get_delete_eq_some.1 found'
    have names : q.pxy.name ≠ pxy.name :=
      fun same => other (inv.once j i q _ found' found added rfl same)
    obtain ⟨this, unheld'⟩ := inv.added j q found' added
    exact ⟨this, fun holds => unheld' (old names holds.1)⟩
  · intro j k q q' found' found''
    exact inv.once j k q q' (GoMap.get_delete_eq_some.1 found').2
      (GoMap.get_delete_eq_some.1 found'').2
  · intro j large
    rw [GoMap.get_delete, inv.next j large, ite_self]

/-- The deferred lowering. -/
theorem Inv.lower (limited : 0 < limit) (inv : Inv limit s) {i : Nat} {pxy : Proxy}
    {phase : Phase} (found : s.regs.get i = some ⟨pxy, phase⟩) :
    Inv limit
      { s with
        portsUsedNum := s.portsUsedNum - charge limit pxy
        regs := s.regs.delete i } := by
  rw [charge_of_limited limited]
  refine ⟨?_, ?_, inv.named, inv.closing, inv.held, ?_, ?_, ?_⟩
  · have counted := inv.counted
    have lost := GoMap.total_delete_of_some found Reg.getUsedPortsNum
    have ports : (Reg.mk pxy phase).getUsedPortsNum = pxy.getUsedPortsNum := rfl
    show s.portsUsedNum - pxy.getUsedPortsNum + s.lowered =
      s.proxies.total Proxy.getUsedPortsNum + (s.regs.delete i).total Reg.getUsedPortsNum
    omega
  · have atMost := inv.atMost
    have nonneg := pxy.getUsedPortsNum_nonneg
    show s.portsUsedNum - pxy.getUsedPortsNum ≤ limit
    omega
  · intro j q found'
    exact inv.added j q (GoMap.get_delete_eq_some.1 found').2
  · intro j k q q' found' found''
    exact inv.once j k q q' (GoMap.get_delete_eq_some.1 found').2
      (GoMap.get_delete_eq_some.1 found'').2
  · intro j large
    rw [GoMap.get_delete, inv.next j large, ite_self]

/-- Before `Del`, what is in the control's map is in the manager. -/
theorem State.holds_iff (early : ∀ c, s.closing = some c → c.stage ≠ .deleted) {name : String} :
    s.Holds name ↔ ∃ pxy, s.proxies.get name = some pxy := by
  constructor
  · rintro ⟨exists_, -⟩
    exact exists_
  · intro exists_
    exact ⟨exists_, fun c here deleted => absurd deleted (early c here)⟩

/-- A close enters its section, closes its proxy, or gives up, before its `Del`. -/
theorem Inv.setClosing (inv : Inv limit s) {num : Int} {closing : Option Closing} {stuck : Bool}
    (early : ∀ c, s.closing = some c → c.stage ≠ .deleted)
    (counted : num + GoMap.part (fun c => c.pxy.getUsedPortsNum) closing =
      s.portsUsedNum + s.lowered)
    (atMost : num ≤ limit)
    (own : ∀ c, closing = some c → s.proxies.get c.proxyName = some c.pxy) :
    Inv limit { s with portsUsedNum := num, closing := closing, stuck := stuck } := by
  refine ⟨counted.trans inv.counted, atMost, inv.named, own, ?_, ?_, inv.once, inv.next⟩
  · rintro name ⟨exists_, -⟩
    exact inv.held name ((State.holds_iff early).2 exists_)
  · intro i r found added
    obtain ⟨this, unheld⟩ := inv.added i r found added
    exact ⟨this, fun holds => unheld ((State.holds_iff early).2 holds.1)⟩

theorem Inv.enter (limited : 0 < limit) (inv : Inv limit s) (unlocked : s.Unlocked)
    {proxyName : String} {pxy : Proxy} (found : s.proxies.get proxyName = some pxy)
    (force : Bool) :
    Inv limit
      { s with
        portsUsedNum := s.portsUsedNum - charge limit pxy
        closing := some ⟨proxyName, pxy, force, .lowered⟩ } := by
  have none_closing : s.closing = none := Option.isNone_iff_eq_none.1 unlocked.1
  rw [charge_of_limited limited]
  apply inv.setClosing
  · intro c here
    rw [none_closing] at here
    cases here
  · have nothing : s.lowered = 0 := by
      unfold State.lowered
      rw [none_closing]
      rfl
    show s.portsUsedNum - pxy.getUsedPortsNum + pxy.getUsedPortsNum = s.portsUsedNum + s.lowered
    omega
  · have atMost := inv.atMost
    have nonneg := pxy.getUsedPortsNum_nonneg
    omega
  · intro c here
    cases here
    exact found

/-- The proxy is closed; nothing is counted differently. -/
theorem Inv.closed (inv : Inv limit s) {c : Closing} (closing : s.closing = some c)
    (stage : c.stage = .lowered) (remove : Option Nat) :
    Inv limit { s with closing := some { c with stage := .closed remove } } := by
  apply inv.setClosing
  · intro c' here deleted
    rw [closing] at here
    cases here
    rw [stage] at deleted
    cases deleted
  · unfold State.lowered
    rw [closing]
    rfl
  · exact inv.atMost
  · intro c' here
    cases here
    exact inv.closing c closing

/-- A close that panics on a proxy without ports gives up; the proxy stays. -/
theorem Inv.panic (inv : Inv limit s) {c : Closing} (closing : s.closing = some c)
    (stage : c.stage = .lowered) (ports : c.pxy.getUsedPortsNum = 0) (stuck : Bool) :
    Inv limit { s with closing := none, stuck := stuck } := by
  apply inv.setClosing
  · intro c' here deleted
    rw [closing] at here
    cases here
    rw [stage] at deleted
    cases deleted
  · unfold State.lowered
    rw [closing, GoMap.part_some, ports]
    rfl
  · exact inv.atMost
  · intro c' here
    cases here

/-- `Del`: the name is free for others, and the control still has the proxy. -/
theorem Inv.del (inv : Inv limit s) {c : Closing} {remove : Option Nat}
    (closing : s.closing = some c) (stage : c.stage = .closed remove) :
    Inv limit
      { s with
        pxys := s.pxys.delete c.proxyName
        closing := some { c with stage := .deleted } } := by
  have early : ∀ c', s.closing = some c' → c'.stage ≠ .deleted := by
    intro c' here deleted
    rw [closing] at here
    cases here
    rw [stage] at deleted
    cases deleted
  have own := inv.closing c closing
  refine ⟨?_, inv.atMost, inv.named, ?_, ?_, ?_, inv.once, inv.next⟩
  · have counted := inv.counted
    unfold State.lowered at counted
    rw [closing] at counted
    exact counted
  · intro c' here
    cases here
    exact own
  · rintro name ⟨exists_, others⟩
    have other : name ≠ c.proxyName := Ne.symm (others { c with stage := .deleted } rfl rfl)
    simp only [GoMap.get_delete, if_neg other]
    exact inv.held name ((State.holds_iff early).2 exists_)
  · intro i r found added
    obtain ⟨this, unheld⟩ := inv.added i r found added
    have other : r.pxy.name ≠ c.proxyName := by
      intro same
      rw [same] at unheld
      exact unheld ((State.holds_iff early).2 ⟨c.pxy, own⟩)
    simp only [GoMap.get_delete, if_neg other]
    exact ⟨this, fun holds => unheld ((State.holds_iff early).2 holds.1)⟩

/-- The proxy leaves the control's map and the section ends. -/
theorem Inv.delete (inv : Inv limit s) {c : Closing} (closing : s.closing = some c) :
    Inv limit { s with proxies := s.proxies.delete c.proxyName, closing := none } := by
  have was : ∀ {name},
      (∃ pxy, (s.proxies.delete c.proxyName).get name = some pxy) → s.Holds name := by
    rintro name ⟨pxy, found⟩
    rw [GoMap.get_delete] at found
    split at found
    · cases found
    · rename_i other
      refine ⟨⟨pxy, found⟩, fun c' here _ => ?_⟩
      rw [closing] at here
      cases here
      exact Ne.symm other
  refine ⟨?_, inv.atMost, ?_, ?_, ?_, ?_, inv.once, inv.next⟩
  · have counted := inv.counted
    unfold State.lowered at counted
    rw [closing, GoMap.part_some] at counted
    have lost := GoMap.total_delete_of_some (inv.closing c closing) Proxy.getUsedPortsNum
    show s.portsUsedNum + 0 =
      (s.proxies.delete c.proxyName).total Proxy.getUsedPortsNum +
        s.regs.total Reg.getUsedPortsNum
    omega
  · intro name pxy found
    simp only [GoMap.get_delete] at found
    split at found
    · cases found
    · exact inv.named name pxy found
  · intro c' here
    cases here
  · rintro name ⟨exists_, -⟩
    exact inv.held name (was exists_)
  · intro i r found added
    obtain ⟨this, unheld⟩ := inv.added i r found added
    exact ⟨this, fun holds => unheld (was holds.1)⟩

/-- Other controls add free names and delete their own. -/
theorem Inv.others (inv : Inv limit s) {pxys : GoMap String Holder}
    (kept : ∀ name, s.pxys.get name = some .this → pxys.get name = some .this) :
    Inv limit { s with pxys := pxys } := by
  refine ⟨inv.counted, inv.atMost, inv.named, inv.closing, ?_, ?_, inv.once, inv.next⟩
  · intro name holds
    exact kept name (inv.held name holds)
  · intro i r found added
    obtain ⟨this, unheld⟩ := inv.added i r found added
    exact ⟨kept _ this, unheld⟩

/-- A proxy in no group, or one whose listener does not panic, is closed; one without ports
may panic. -/
theorem Proxy.close_cases {pxy : Proxy} {returns : Bool} {tgc tgc' : Groups} {outcome : Outcome}
    (closes : pxy.close returns tgc = some (tgc', outcome)) :
    (∃ remove, outcome = .returned remove) ∧
        (∀ g ln, pxy.ln = some (g, ln) → ¬ Panics tgc g ln) ∨
      outcome = .panicked ∧ pxy.getUsedPortsNum = 0 ∧ pxy.ln = none ∨
      outcome = .panicked ∧ ∃ g ln, pxy.ln = some (g, ln) ∧ Panics tgc g ln := by
  obtain ⟨name, conf⟩ := pxy
  cases conf with
  | tcp =>
      cases closes
      exact .inl ⟨⟨none, rfl⟩, fun g ln grouped => by cases grouped⟩
  | udp =>
      cases closes
      exact .inl ⟨⟨none, rfl⟩, fun g ln grouped => by cases grouped⟩
  | noPort =>
      cases closes
      cases returns with
      | true => exact .inl ⟨⟨none, rfl⟩, fun g ln grouped => by cases grouped⟩
      | false => exact .inr (.inl ⟨rfl, rfl, rfl⟩)
  | tcpGroup group args ln =>
      rcases ln with _ | ⟨g, ln⟩
      · cases closes
        exact .inl ⟨⟨none, rfl⟩, fun g ln grouped => by cases grouped⟩
      · simp only [Proxy.close] at closes
        split at closes
        · obtain ⟨next, -, result⟩ := Option.map_eq_some_iff.1 closes
          split at result
          · rename_i panics
            cases result
            exact .inr (.inr ⟨rfl, g, ln, rfl, panics⟩)
          · rename_i fine
            have no_panic : ∀ g' ln', (Proxy.mk name (.tcpGroup group args (some (g, ln)))).ln =
                some (g', ln') → ¬ Panics tgc g' ln' := by
              intro g' ln' grouped
              cases grouped
              exact fine
            split at result
            · cases result
              exact .inl ⟨⟨_, rfl⟩, no_panic⟩
            · cases result
              exact .inl ⟨⟨_, rfl⟩, no_panic⟩
        · rename_i gone
          cases closes
          exact .inr (.inr ⟨rfl, g, ln, rfl, .inl gone⟩)

theorem step_inv (limited : 0 < limit) (s : State) (l : Label) (t : State) (inv : Inv limit s)
    (guard : Guard s l) (next : step limit s l = some t) : Inv limit t := by
  cases l with
  | register pxy =>
      simp only [step] at next
      split at next
      · split at next
        · cases next
          exact inv
        · rename_i fits
          cases next
          refine inv.register limited ?_
          have fits : ¬ limit < s.portsUsedNum + pxy.getUsedPortsNum :=
            fun above => fits ⟨limited, above⟩
          omega
      · cases next
  | exist i =>
      simp only [step] at next
      split at next
      · rename_i found
        cases next
        refine inv.setReg found rfl ?_
        split <;> exact fun phase => by cases phase
      · cases next
  | run i ok =>
      simp only [step] at next
      split at next
      · rename_i found
        split at next
        · cases next
        · cases next
          refine inv.setReg found rfl ?_
          split <;> exact fun phase => by cases phase
      · cases next
  | fetch i =>
      simp only [step] at next
      split at next
      · rename_i found
        obtain ⟨tgc, -, rfl⟩ := Option.map_eq_some_iff.1 next
        refine (inv.setReg found ?_ ?_).tgc tgc
        · rfl
        · intro phase
          cases phase
      · cases next
  | listen i first =>
      simp only [step] at next
      split at next
      · rename_i found
        split at next
        · obtain ⟨tgc, -, result⟩ := Option.map_eq_some_iff.1 next
          split at result
          · cases result
            refine (inv.setReg found ?_ ?_).tgc tgc
            · rfl
            · intro phase
              cases phase
          · cases result
            refine (inv.setReg found ?_ ?_).tgc tgc
            · rfl
            · intro phase
              cases phase
        · cases next
      · cases next
  | add i =>
      simp only [step] at next
      split at next
      · rename_i found
        split at next
        · cases next
          refine inv.setReg found rfl ?_
          intro phase
          cases phase
        · rename_i free
          cases next
          exact inv.add found free
      · cases next
  | insert i =>
      simp only [step] at next
      split at next
      · rename_i found
        split at next
        · rename_i unlocked
          cases next
          exact inv.insert found unlocked
        · cases next
      · cases next
  | closeRefused i returns =>
      simp only [step] at next
      split at next
      · rename_i found
        obtain ⟨⟨tgc, outcome⟩, -, rfl⟩ := Option.map_eq_some_iff.1 next
        refine (inv.setReg found ?_ ?_).tgc tgc
        · rfl
        · intro phase
          cases phase
      · cases next
  | lower i =>
      simp only [step] at next
      split at next
      · rename_i found
        split at next
        · cases next
          exact inv.lower limited found
        · cases next
      · cases next
  | closeProxy proxyName force =>
      simp only [step] at next
      split at next
      · rename_i unlocked
        split at next
        · cases next
          exact inv
        · rename_i found
          cases next
          exact inv.enter limited unlocked found force
      · cases next
  | close returns =>
      simp only [step] at next
      split at next
      · rename_i proxyName pxy force closing
        obtain ⟨⟨tgc, outcome⟩, closes, result⟩ := Option.map_eq_some_iff.1 next
        rcases Proxy.close_cases closes with ⟨⟨remove, rfl⟩, -⟩ | ⟨rfl, ports, -⟩ |
          ⟨-, g, ln, grouped, panics⟩
        · cases result
          exact (inv.closed closing rfl remove).tgc tgc
        · cases result
          exact (inv.panic closing rfl ports (!force)).tgc tgc
        · exact absurd panics (guard _ g ln closing rfl grouped)
      · cases next
  | del =>
      simp only [step] at next
      split at next
      · rename_i proxyName pxy force remove closing
        split at next
        · cases next
          have name : (if force then proxyName else pxy.name) = proxyName := by
            rw [inv.named proxyName pxy (inv.closing _ closing), ite_self]
          rw [name]
          exact inv.del closing rfl
        · cases next
      · cases next
  | delete =>
      simp only [step] at next
      split at next
      · rename_i closing
        cases next
        exact inv.delete closing
      · cases next
  | othersAdd name =>
      simp only [step] at next
      split at next
      · rename_i free
        cases next
        exact inv.others fun name' this => GoMap.get_set_of_fresh free this
      · cases next
  | othersDel name =>
      simp only [step] at next
      split at next
      · rename_i theirs
        cases next
        refine inv.others fun name' this => ?_
        have other : name' ≠ name := by
          rintro rfl
          rw [theirs] at this
          cases this
        rw [GoMap.get_delete, if_neg other]
        exact this
      · cases next
  | groups l =>
      simp only [step] at next
      split at next
      · obtain ⟨tgc, -, rfl⟩ := Option.map_eq_some_iff.1 next
        exact inv.tgc tgc
      · cases next

/-- A panic leaves a proxy in the map whose port is no longer counted. -/
theorem not_accounted_of_panic (inv : Inv limit s) {l : Label} (unguarded : ¬ Guard s l)
    (next : step limit s l = some t) : ¬ Accounted limit t := by
  cases l with
  | close returns =>
      simp only [Guard, not_forall, not_not] at unguarded
      obtain ⟨c, g, ln, closing, stage, grouped, panics⟩ := unguarded
      obtain ⟨proxyName, pxy, force, stage'⟩ := c
      subst stage
      simp only [step, closing] at next
      obtain ⟨⟨tgc, outcome⟩, closes, result⟩ := Option.map_eq_some_iff.1 next
      have ports := Proxy.getUsedPortsNum_of_ln grouped
      have counted := inv.counted
      unfold State.lowered at counted
      rw [closing, GoMap.part_some, ports] at counted
      rcases Proxy.close_cases closes with ⟨-, fine⟩ | ⟨-, -, ungrouped⟩ | ⟨rfl, -⟩
      · exact absurd panics (fine g ln grouped)
      · rw [grouped] at ungrouped
        cases ungrouped
      · cases result
        intro accounted
        have after : s.portsUsedNum + 0 = s.proxies.total Proxy.getUsedPortsNum +
            s.regs.total Reg.getUsedPortsNum := accounted.counted
        omega
  | _ => exact absurd trivial unguarded

end Machine

/-- **The ports of a client are accounted for in every state of a run iff** no close in the
section panics in a tcp group. -/
theorem ports_accounted_iff (limit : Int) (limited : 0 < limit) (ls : List Label) :
    Along (step limit) (fun s l _ => Guard s l) start ls ↔
      Along (step limit) (fun _ _ t => Accounted limit t) start ls := by
  have agree : ∀ s l t, Inv limit s → step limit s l = some t →
      (Guard s l ↔ Accounted limit t) := by
    intro s l t inv next
    constructor
    · intro guard
      exact (step_inv limited s l t inv guard next).accounted
    · intro accounted
      by_contra unguarded
      exact not_accounted_of_panic inv unguarded next accounted
  exact along_iff_along (Inv limit) (step_inv limited) agree (start_inv limited) ls

/-- The second proxy is over the limit. -/
theorem ports_accounted_iff_one :
    Along (step 1) (fun _ _ t => Accounted 1 t) start
      [.register ⟨"ssh", .tcp⟩, .exist 0, .register ⟨"dns", .udp⟩, .run 0 true, .add 0,
        .insert 0] := by
  apply (ports_accounted_iff 1 (by decide) _).1
  simp [Along, Guard]

def web (name : String) : Proxy := ⟨name, .tcpGroup "web" ⟨"", "", 6000⟩ none⟩

/-- The second proxy has the group object when the first, the only member, is closed; then
the dashboard closes the second one, twice. -/
def lateListen : List Label :=
  [.register (web "a"), .exist 0, .fetch 0, .listen 0 (.ok 6000), .add 0, .insert 0,
    .register (web "b"), .exist 1, .fetch 1,
    .closeProxy "a" true, .close true, .groups (.remove 2), .del, .delete,
    .listen 1 (.ok 6000), .add 1, .insert 1,
    .closeProxy "b" true, .close true, .closeProxy "b" true, .close true]

theorem forced_close_panics :
    ¬ Along (step 2) (fun _ _ t => Accounted 2 t) start lateListen := by
  intro accounted
  have negative : (exec (step 2) start lateListen).map State.portsUsedNum = some (-1) := by
    decide
  obtain ⟨s, run, num⟩ := Option.map_eq_some_iff.1 negative
  have last : Accounted 2 s := accounted.last run
  have nonneg := last.nonneg
  rw [num] at nonneg
  exact absurd nonneg (by decide)

end ChmlFrp.Server.Quota
