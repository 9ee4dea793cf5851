/-
# ChmlFrp.Nathole.Controller — visitors of xtcp proxies

`pkg/nathole/controller.go` and the use that `server/proxy/xtcp.go` makes of it.
`HandleVisitor` answers a `PreCheck` at once; a real request opens a session, hands its
sid to the goroutine of the proxy and waits for the proxy's own message.  Every call
runs in a goroutine, so a run interleaves the stages of any number of calls.  A call
that has ended stays in the list, as the record of what was opened.

* `sessions_admitted_iff`: the sessions of a run are those of admitted visitors iff the
  user of every real request with a valid key was allowed, which only the branch for
  `PreCheck` looks at.
* `stranger_gets_session`: a user that is not allowed skips the `PreCheck`.
-/
import ChmlFrp.Lib.Transition
import ChmlFrp.Nathole.Message
import ChmlFrp.Server.Visitor
import Mathlib.Data.List.Basic

namespace ChmlFrp.Nathole

set_option autoImplicit false

open ChmlFrp.Lib
open ChmlFrp.Lib.Transition
open ChmlFrp.Server.Visitor

/-! ## The controller -/

structure ClientCfg where
  name : String
  sk : String
  allowUsers : List String
  /-- The channel; which one it is. -/
  sidCh : Nat
  deriving DecidableEq, Repr

structure Session where
  sid : String
  visitorMsg : NatHoleVisitor
  visitorTransporter : Nat
  clientMsg : Option NatHoleClient
  clientTransporter : Option Nat
  /-- Whether `notifyCh` holds its one element. -/
  notified : Bool
  deriving DecidableEq, Repr

inductive Stage where
  /-- At `clientCfg.sidCh <- sid`. -/
  | handing
  | waiting
  | responded
  | ended
  deriving DecidableEq, Repr

/-- A call of `HandleVisitor` that has opened a session. -/
structure Call where
  session : Session
  clientCfg : ClientCfg
  visitorUser : String
  stage : Stage
  deriving DecidableEq, Repr

structure State where
  clientCfgs : GoMap String ClientCfg
  /-- The map holds pointers: the call whose session it is. -/
  sessions : GoMap String Nat
  calls : List Call
  /-- The channels that a goroutine receives from, and the next channel. -/
  receiving : Finset Nat
  next : Nat
  /-- The sids that came out of the channels. -/
  handed : List (Nat × String)
  /-- What was sent, and over which transporter. -/
  sent : List (Nat × NatHoleResp String)

def start : State := ⟨∅, ∅, [], ∅, 0, [], []⟩

inductive Label where
  /-- `XTCPProxy.Run` of a proxy of this user. -/
  | run (name sk : String) (allowUsers : List String) (user : String)
  /-- `XTCPProxy.Close` of a proxy of this name. -/
  | close (name : String)
  /-- A `NatHoleVisitor` of this user; `sid` is what `GenSid` returns. -/
  | visitor (m : NatHoleVisitor) (transporter : Nat) (visitorUser sid : String)
  /-- The goroutine of the proxy takes the sid of a call. -/
  | takeSid (i : Nat)
  | client (m : NatHoleClient) (transporter : Nat)
  /-- The call goes on after the proxy's message; the two responses of `analysis`. -/
  | respond (i : Nat) (vResp cResp : NatHoleResp String)
  | timeout (i : Nat)
  | finish (i : Nat)

inductive VisitorError where
  | noServer (proxyName : String)
  | userNotAllowed (user proxyName : String)
  | authFailed (proxyName : String)
  deriving DecidableEq, Repr

def VisitorError.text : VisitorError → String
  | .noServer name => "xtcp server for [" ++ name ++ "] doesn't exist"
  | .userNotAllowed user name =>
      "xtcp visitor user [" ++ user ++ "] not allowed for [" ++ name ++ "]"
  | .authFailed name => "xtcp connection of [" ++ name ++ "] auth failed"

namespace State

def send (s : State) (transporter : Nat) (resp : NatHoleResp String) : State :=
  { s with sent := s.sent ++ [(transporter, resp)] }

def sendError (s : State) (transporter : Nat) (m : NatHoleVisitor) (err : VisitorError) : State :=
  s.send transporter { transactionID := m.transactionID, error := err.text }

/-- `ListenClient`; `none` is the error for a repeated name. -/
def listenClient (s : State) (name sk : String) (allowUsers : List String) : Option State :=
  match s.clientCfgs.get name with
  | some _ => none
  | none =>
      some { s with
        clientCfgs := s.clientCfgs.set name ⟨name, sk, allowUsers, s.next⟩
        next := s.next + 1 }

/-- `XTCPProxy.Run`: an empty list lets in the user of the proxy. -/
def runProxy (s : State) (name sk : String) (allowUsers : List String) (user : String) : State :=
  match s.listenClient name sk (if allowUsers.length = 0 then [user] else allowUsers) with
  | some t => { t with receiving := insert s.next s.receiving }
  | none => s

/-- `CloseClient`, which leaves the channel of sids open. -/
def closeClient (s : State) (name : String) : State :=
  { s with clientCfgs := s.clientCfgs.delete name }

/-- The branch of `HandleVisitor` for `PreCheck`. -/
def preCheck (s : State) (m : NatHoleVisitor) (transporter : Nat) (visitorUser : String) : State :=
  match s.clientCfgs.get m.proxyName with
  | none => s.sendError transporter m (.noServer m.proxyName)
  | some cfg =>
      if ¬ Allows cfg.allowUsers visitorUser then
        s.sendError transporter m (.userNotAllowed visitorUser m.proxyName)
      else s.send transporter { transactionID := m.transactionID, error := "" }

/-- `HandleVisitor` on a real request, up to the sending of the sid. -/
def openSession (hash : String → String) (s : State) (m : NatHoleVisitor) (transporter : Nat)
    (visitorUser sid : String) : State :=
  match s.clientCfgs.get m.proxyName with
  | none => s.sendError transporter m (.noServer m.proxyName)
  | some cfg =>
      if m.signKey ≠ getAuthKey hash cfg.sk m.timestamp then
        s.sendError transporter m (.authFailed m.proxyName)
      else
        { s with
          sessions := s.sessions.set sid s.calls.length
          calls := s.calls ++
            [⟨⟨sid, m, transporter, none, none, false⟩, cfg, visitorUser, .handing⟩] }

/-- `HandleClient`; the message is kept even if `notifyCh` is full. -/
def handleClient (s : State) (m : NatHoleClient) (transporter : Nat) : State :=
  match s.sessions.get m.sid with
  | none => s
  | some i =>
      let receive (call : Call) : Call :=
        let session := { call.session with
          clientMsg := some m, clientTransporter := some transporter, notified := true }
        { call with session := session }
      { s with calls := s.calls.modify i receive }

/-- The call moves on to another stage. -/
def setStage (s : State) (i : Nat) (stage : Stage) : State :=
  { s with calls := s.calls.modify i fun call => { call with stage := stage } }

/-- The goroutine of the proxy takes the sid of the call. -/
def takeSid (s : State) (i : Nat) (call : Call) : State :=
  { s.setStage i .waiting with
    handed := s.handed ++ [(call.clientCfg.sidCh, call.session.sid)] }

/-- `HandleVisitor` returns, and its deferred function runs. -/
def endCall (s : State) (i : Nat) (sid : String) : State :=
  { s.setStage i .ended with sessions := s.sessions.delete sid }

end State

def step (hash : String → String) (s : State) : Label → Option State
  | .run name sk allowUsers user => some (s.runProxy name sk allowUsers user)
  -- `closeCh` is nil, so the goroutine of a closed proxy goes on receiving
  | .close name => some (s.closeClient name)
  | .visitor m transporter visitorUser sid =>
      if m.preCheck then some (s.preCheck m transporter visitorUser)
      else some (s.openSession hash m transporter visitorUser sid)
  | .takeSid i =>
      match s.calls[i]? with
      | some call =>
          if call.stage = .handing ∧ call.clientCfg.sidCh ∈ s.receiving then
            some (s.takeSid i call)
          else none
      | none => none
  | .client m transporter => some (s.handleClient m transporter)
  | .respond i vResp cResp =>
      match s.calls[i]? with
      | some call =>
          match call.session.clientTransporter with
          | some clientTransporter =>
              if call.stage = .waiting ∧ call.session.notified then
                some (((s.setStage i .responded).send call.session.visitorTransporter vResp).send
                  clientTransporter cResp)
              else none
          | none => none
      | none => none
  | .timeout i =>
      match s.calls[i]? with
      | some call => if call.stage = .waiting then some (s.endCall i call.session.sid) else none
      | none => none
  | .finish i =>
      match s.calls[i]? with
      | some call => if call.stage = .responded then some (s.endCall i call.session.sid) else none
      | none => none

/-! ## Who gets a session -/

section Admission

variable (hash : String → String)

/-- The proxy that the call is for admits the visitor. -/
def Call.Admitted (call : Call) : Prop :=
  Admits hash call.clientCfg.sk call.clientCfg.allowUsers call.visitorUser
    call.session.visitorMsg.timestamp call.session.visitorMsg.signKey

/-- The sid of an admitted visitor's call came out of its proxy's channel. -/
def Call.Explains (given : Nat × String) (call : Call) : Prop :=
  call.Admitted hash ∧ given = (call.clientCfg.sidCh, call.session.sid)

/-- Every session that was opened is of an admitted visitor, and so is every sid that a
proxy got. -/
structure AllAdmitted (s : State) : Prop where
  opened : ∀ call ∈ s.calls, call.Admitted hash
  handed : ∀ given ∈ s.handed, ∃ call ∈ s.calls, call.Explains hash given

/-- If this is a real request with a valid key, the proxy allows the user. -/
def AllowedUser (s : State) : Label → Prop
  | .visitor m _ visitorUser _ =>
      m.preCheck = false → ∀ cfg, s.clientCfgs.get m.proxyName = some cfg →
        m.signKey = getAuthKey hash cfg.sk m.timestamp → Allows cfg.allowUsers visitorUser
  | _ => True

variable {hash} {s t : State} {l : Label}

theorem allAdmitted_start : AllAdmitted hash start :=
  ⟨fun _ none => absurd none List.not_mem_nil, fun _ none => absurd none List.not_mem_nil⟩

theorem forall_mem_modify {α : Type} {f : α → α} {P : α → Prop} (same : ∀ x, P (f x) ↔ P x)
    (l : List α) (i : Nat) : (∀ x ∈ l.modify i f, P x) ↔ ∀ x ∈ l, P x := by
  induction l generalizing i with
  | nil => simp
  | cons a l ih =>
      cases i with
      | zero => simp [same]
      | succ i => simp [ih]

theorem exists_mem_modify {α : Type} {f : α → α} {P : α → Prop} (same : ∀ x, P (f x) ↔ P x)
    (l : List α) (i : Nat) : (∃ x ∈ l.modify i f, P x) ↔ ∃ x ∈ l, P x := by
  have none : (∀ x ∈ l.modify i f, ¬ P x) ↔ ∀ x ∈ l, ¬ P x :=
    forall_mem_modify (P := fun x => ¬ P x) (fun x => not_congr (same x)) l i
  apply not_iff_not.1
  simpa only [not_exists, not_and] using none

/-- What happens to a call later does not change who it is for. -/
theorem AllAdmitted.modify {f : Call → Call} (all : AllAdmitted hash s) (i : Nat)
    (admitted : ∀ call, (f call).Admitted hash ↔ call.Admitted hash)
    (explains : ∀ given call, (f call).Explains hash given ↔ call.Explains hash given) :
    AllAdmitted hash { s with calls := s.calls.modify i f } := by
  constructor
  · exact (forall_mem_modify admitted s.calls i).2 all.opened
  · intro given there
    exact (exists_mem_modify (explains given) s.calls i).2 (all.handed given there)

theorem AllAdmitted.setStage (all : AllAdmitted hash s) (i : Nat) (stage : Stage) :
    AllAdmitted hash (s.setStage i stage) :=
  all.modify i (fun _ => Iff.rfl) fun _ _ => Iff.rfl

theorem AllAdmitted.congr (all : AllAdmitted hash s) (calls : t.calls = s.calls)
    (handed : t.handed = s.handed) : AllAdmitted hash t := by
  constructor
  · rw [calls]
    exact all.opened
  · rw [calls, handed]
    exact all.handed

theorem AllAdmitted.endCall (all : AllAdmitted hash s) (i : Nat) (sid : String) :
    AllAdmitted hash (s.endCall i sid) :=
  (all.setStage i .ended).congr rfl rfl

theorem AllAdmitted.runProxy (all : AllAdmitted hash s) (name sk : String)
    (allowUsers : List String) (user : String) :
    AllAdmitted hash (s.runProxy name sk allowUsers user) := by
  rw [State.runProxy, State.listenClient]
  cases s.clientCfgs.get name with
  | some cfg => exact all
  | none => exact all.congr rfl rfl

theorem AllAdmitted.preCheck (all : AllAdmitted hash s) (m : NatHoleVisitor) (transporter : Nat)
    (visitorUser : String) : AllAdmitted hash (s.preCheck m transporter visitorUser) := by
  unfold State.preCheck
  cases s.clientCfgs.get m.proxyName with
  | none => exact all.congr rfl rfl
  | some cfg =>
      dsimp only
      split
      · exact all.congr rfl rfl
      · exact all.congr rfl rfl

theorem AllAdmitted.handleClient (all : AllAdmitted hash s) (m : NatHoleClient)
    (transporter : Nat) : AllAdmitted hash (s.handleClient m transporter) := by
  unfold State.handleClient
  cases s.sessions.get m.sid with
  | none => exact all
  | some i => exact all.modify i (fun _ => Iff.rfl) fun _ _ => Iff.rfl

theorem AllAdmitted.takeSid (all : AllAdmitted hash s) {i : Nat} {call : Call}
    (there : s.calls[i]? = some call) :
    AllAdmitted hash (s.takeSid i call) := by
  have opened : call ∈ s.calls := List.mem_of_getElem? there
  constructor
  · exact (all.setStage i .waiting).opened
  · intro given new
    have same : ∀ other : Call, Call.Explains hash given { other with stage := .waiting } ↔
        Call.Explains hash given other := fun _ => Iff.rfl
    apply (exists_mem_modify same s.calls i).2
    rcases List.mem_append.1 new with old | now
    · exact all.handed given old
    · rw [List.mem_singleton] at now
      exact ⟨call, opened, all.opened call opened, now⟩

/-- A real request leaves only admitted calls iff its user is allowed or its key wrong:
the key is all that is looked at. -/
theorem openSession_admitted_iff (all : AllAdmitted hash s) (m : NatHoleVisitor)
    (transporter : Nat) (visitorUser sid : String) :
    AllAdmitted hash (s.openSession hash m transporter visitorUser sid) ↔
      ∀ cfg, s.clientCfgs.get m.proxyName = some cfg →
        m.signKey = getAuthKey hash cfg.sk m.timestamp → Allows cfg.allowUsers visitorUser := by
  unfold State.openSession
  cases listening : s.clientCfgs.get m.proxyName with
  | none =>
      apply iff_of_true
      · exact all.congr rfl rfl
      · intro cfg registered
        cases registered
  | some cfg =>
      dsimp only
      split
      · rename_i forged
        apply iff_of_true
        · exact all.congr rfl rfl
        · intro other registered valid
          cases registered
          exact absurd valid forged
      · rename_i valid
        rw [not_not] at valid
        constructor
        · intro kept other registered _
          cases registered
          exact (kept.opened _ (List.mem_append_right _ (List.mem_singleton.2 rfl))).1
        · intro allowed
          constructor
          · intro call mem
            rcases List.mem_append.1 mem with old | new
            · exact all.opened call old
            · cases List.mem_singleton.1 new
              exact ⟨allowed cfg rfl valid, valid⟩
          · intro given there
            obtain ⟨call, old, explains⟩ := all.handed given there
            exact ⟨call, List.mem_append_left _ old, explains⟩

/-- One step: only a request of a user that is not allowed adds what must not be. -/
theorem step_admitted_iff (all : AllAdmitted hash s) (next : step hash s l = some t) :
    AllAdmitted hash t ↔ AllowedUser hash s l := by
  cases l with
  | visitor m transporter visitorUser sid =>
      simp only [step] at next
      split at next
      · rename_i pre
        cases next
        apply iff_of_true (all.preCheck m transporter visitorUser)
        intro real
        rw [pre] at real
        cases real
      · rename_i real
        rw [Bool.not_eq_true] at real
        cases next
        rw [openSession_admitted_iff all]
        exact ⟨fun allowed _ => allowed, fun allowed => allowed real⟩
  | run name sk allowUsers user =>
      cases next
      exact iff_of_true (all.runProxy name sk allowUsers user) trivial
  | close name =>
      cases next
      exact iff_of_true (all.congr rfl rfl) trivial
  | takeSid i =>
      simp only [step] at next
      split at next
      · rename_i call there
        split at next
        · cases next
          exact iff_of_true (all.takeSid there) trivial
        · cases next
      · cases next
  | client m transporter =>
      cases next
      exact iff_of_true (all.handleClient m transporter) trivial
  | respond i vResp cResp =>
      simp only [step] at next
      split at next
      · split at next
        · split at next
          · cases next
            exact iff_of_true ((all.setStage i .responded).congr rfl rfl) trivial
          · cases next
        · cases next
      · cases next
  | timeout i =>
      simp only [step] at next
      split at next
      · split at next
        · cases next
          exact iff_of_true (all.endCall i _) trivial
        · cases next
      · cases next
  | finish i =>
      simp only [step] at next
      split at next
      · split at next
        · cases next
          exact iff_of_true (all.endCall i _) trivial
        · cases next
      · cases next

end Admission

/-- **The sessions of a run, and the sids handed to the proxies, are those of admitted
visitors iff in every step a real request with a valid key comes from an allowed user.** -/
theorem sessions_admitted_iff (hash : String → String) (ls : List Label) :
    Along (step hash) (fun _ _ t => AllAdmitted hash t) start ls ↔
      Along (step hash) (fun s l _ => AllowedUser hash s l) start ls := by
  have kept : ∀ s l t, AllAdmitted hash s → AllAdmitted hash t →
      step hash s l = some t → AllAdmitted hash t := fun _ _ _ _ all _ => all
  have agree : ∀ s l t, AllAdmitted hash s → step hash s l = some t →
      (AllAdmitted hash t ↔ AllowedUser hash s l) :=
    fun _ _ _ all next => step_admitted_iff all next
  exact along_iff_along (AllAdmitted hash) kept agree allAdmitted_start ls

/-- The md5 sum of the one text that the run below hashes. -/
def abcdefgHash (text : String) : String :=
  if text = "abcdefg1" then "5ff90447ed219f62413acb4a1e217745" else ""

/-- A user that knows the key and is not in `allow_users` sends the real request only. -/
def strangerRun : List Label :=
  [.run "alice.p2p_tcp" "abcdefg" ["user1", "user2"] "alice",
   .visitor ⟨"t", "alice.p2p_tcp", false, [], "5ff90447ed219f62413acb4a1e217745", 1, [], []⟩ 7
     "mallory" "1a",
   .takeSid 0]

/-- **A user that is not allowed gets a session by not sending the `PreCheck`.** -/
theorem stranger_gets_session :
    (∃ t, exec (step abcdefgHash) start strangerRun = some t ∧ t.handed = [(0, "1a")] ∧
      t.calls.map (fun call => (call.visitorUser, call.clientCfg.allowUsers)) =
        [("mallory", ["user1", "user2"])]) ∧
      ¬ Along (step abcdefgHash) (fun _ _ t => AllAdmitted abcdefgHash t) start strangerRun := by
  have run : (exec (step abcdefgHash) start strangerRun).map (fun t =>
      (t.handed, t.calls.map fun call => (call.visitorUser, call.clientCfg.allowUsers))) =
      some ([(0, "1a")], [("mallory", ["user1", "user2"])]) := by decide
  obtain ⟨t, last, found⟩ := Option.map_eq_some_iff.1 run
  rw [Prod.mk.injEq] at found
  refine ⟨⟨t, last, found⟩, ?_⟩
  intro along
  have all : AllAdmitted abcdefgHash t := along.last last
  have there : ("mallory", ["user1", "user2"]) ∈
      t.calls.map fun call => (call.visitorUser, call.clientCfg.allowUsers) := by
    rw [found.2]
    exact List.mem_singleton.2 rfl
  obtain ⟨call, opened, who⟩ := List.mem_map.1 there
  rw [Prod.mk.injEq] at who
  have allowed : Allows call.clientCfg.allowUsers call.visitorUser := (all.opened call opened).1
  rw [who.1, who.2] at allowed
  exact absurd allowed (by decide)

end ChmlFrp.Nathole
