/-
# ChmlFrp.Client.Dial — the connections that the client opens to the server

`HandleReqWorkConn` of `client/control.go` opens a work connection when the server asks for
one, and `getNewVisitorConn` of `client/visitor/sudp.go` opens the connection of a visitor.
The steps after that can each fail, and how they end is an argument here.

* `dial_accounted_iff`: a work connection is lost exactly when the authentication cannot be
  set, and a visitor's in every way in which the function fails.
* `opened_and_lost`: both stay open and nobody has them.
-/
import ChmlFrp.Client.Wrapper
import ChmlFrp.Lib.GoMap
import ChmlFrp.Server.GetWorkConn

namespace ChmlFrp.Client.Dial

set_option autoImplicit false

open ChmlFrp.Lib
open ChmlFrp.Server.GetWorkConn (StartWorkConn)

abbrev Conn := Nat

/-! ## Messages -/

structure NewWorkConn where
  runID : String
  privilegeKey : String := ""
  timestamp : Int := 0
  deriving DecidableEq, Repr

structure NewVisitorConn where
  runID : String
  proxyName : String
  signKey : String
  timestamp : Int
  useEncryption : Bool
  useCompression : Bool
  deriving DecidableEq, Repr

structure NewVisitorConnResp where
  proxyName : String
  error : String := ""
  deriving DecidableEq, Repr

/-! ## Work connections -/

/-- What happens to a connection. -/
inductive Act where
  | close (conn : Conn)
  /-- `go pxy.InWorkConn(workConn, m)` -/
  | inWorkConn (pxy : Nat) (conn : Conn) (m : StartWorkConn)
  deriving DecidableEq, Repr

/-- A wrapper with the proxy that it has made, if it has. -/
structure Managed extends Wrapper where
  pxy : Option Nat
  deriving DecidableEq, Repr

/-- `Wrapper.InWorkConn` -/
def Managed.inWorkConn (pw : Managed) (workConn : Conn) (m : StartWorkConn) : List Act :=
  match pw.pxy with
  | some pxy =>
      if pw.phase = .running then [.inWorkConn pxy workConn m] else [.close workConn]
  | none => [.close workConn]

/-- `Manager.HandleWorkConn` -/
def handleWorkConn (proxies : GoMap GoString Managed) (name : GoString) (workConn : Conn)
    (m : StartWorkConn) : List Act :=
  match proxies.get name with
  | some pw => pw.inWorkConn workConn m
  | none => [.close workConn]

/-- How the steps of `HandleReqWorkConn` end. -/
structure WorkSteps where
  connectServer : Except String Conn
  setNewWorkConn : NewWorkConn → Except String NewWorkConn
  writeMsg : Conn → NewWorkConn → Except String Unit
  readMsgInto : Conn → Except String StartWorkConn

def handleReqWorkConn (steps : WorkSteps) (runID : String) (proxies : GoMap GoString Managed) :
    List Act :=
  match steps.connectServer with
  | .error _ => []
  | .ok workConn =>
      match steps.setNewWorkConn { runID := runID } with
      | .error _ => []
      | .ok m =>
          match steps.writeMsg workConn m with
          | .error _ => [.close workConn]
          | .ok _ =>
              match steps.readMsgInto workConn with
              | .error _ => [.close workConn]
              | .ok startMsg =>
                  if startMsg.error ≠ [] then [.close workConn]
                  else handleWorkConn proxies startMsg.proxyName workConn startMsg

/-! ## The connection of a visitor -/

structure VisitorConf where
  serverName : String
  sk : String
  useEncryption : Bool
  useCompression : Bool
  deriving DecidableEq, Repr

/-- What is read and written through: the connection, and the layers around it. -/
structure Stream where
  conn : Conn
  encrypted : Bool := false
  compressed : Bool := false
  deriving DecidableEq, Repr

/-- How the steps of `getNewVisitorConn` end. -/
structure VisitorSteps where
  connectServer : Except String Conn
  now : Int
  getAuthKey : String → Int → String
  writeMsg : Conn → NewVisitorConn → Except String Unit
  readMsgInto : Conn → Except String NewVisitorConnResp
  withEncryption : Conn → String → Except String Unit

def newVisitorConnMsg (steps : VisitorSteps) (runID : String) (cfg : VisitorConf) :
    NewVisitorConn where
  runID := runID
  proxyName := cfg.serverName
  signKey := steps.getAuthKey cfg.sk steps.now
  timestamp := steps.now
  useEncryption := cfg.useEncryption
  useCompression := cfg.useCompression

/-- The layers around the connection that the configuration asks for. -/
def wrap (steps : VisitorSteps) (cfg : VisitorConf) (visitorConn : Conn) : Except String Stream :=
  if cfg.useEncryption then
    match steps.withEncryption visitorConn cfg.sk with
    | .error err => .error err
    | .ok _ => .ok ⟨visitorConn, true, cfg.useCompression⟩
  else .ok ⟨visitorConn, false, cfg.useCompression⟩

/-- What it does to the connection, which is nothing, and what it returns. -/
def getNewVisitorConn (steps : VisitorSteps) (runID : String) (cfg : VisitorConf) :
    List Act × Except String Stream :=
  match steps.connectServer with
  | .error err => ([], .error ("frpc connect frps error: " ++ err))
  | .ok visitorConn =>
      match steps.writeMsg visitorConn (newVisitorConnMsg steps runID cfg) with
      | .error err => ([], .error ("frpc send newVisitorConnMsg to frps error: " ++ err))
      | .ok _ =>
          match steps.readMsgInto visitorConn with
          | .error err => ([], .error ("frpc read newVisitorConnRespMsg error: " ++ err))
          | .ok resp =>
              if resp.error ≠ "" then
                ([], .error ("start new visitor connection error: " ++ resp.error))
              else ([], wrap steps cfg visitorConn)

/-! ## Where the connection is afterwards -/

/-- It is with a proxy that its wrapper says is running. -/
def Handed (proxies : GoMap GoString Managed) (conn : Conn) (acts : List Act) : Prop :=
  ∃ name pw pxy m, proxies.get name = some pw ∧ pw.pxy = some pxy ∧ pw.phase = .running ∧
    acts = [.inWorkConn pxy conn m]

/-- A work connection that was opened is closed, or handed to a running proxy. -/
def WorkAccounted (steps : WorkSteps) (runID : String) (proxies : GoMap GoString Managed) : Prop :=
  ∀ conn, steps.connectServer = .ok conn →
    handleReqWorkConn steps runID proxies = [.close conn] ∨
      Handed proxies conn (handleReqWorkConn steps runID proxies)

/-- A visitor's connection that was opened is closed, or returned. -/
def VisitorAccounted (steps : VisitorSteps) (runID : String) (cfg : VisitorConf) : Prop :=
  ∀ conn, steps.connectServer = .ok conn →
    .close conn ∈ (getNewVisitorConn steps runID cfg).1 ∨
      ∃ stream, (getNewVisitorConn steps runID cfg).2 = .ok stream ∧ stream.conn = conn

/-- The authentication is set on a connection that is opened. -/
def AuthSet (steps : WorkSteps) (runID : String) : Prop :=
  ∀ conn, steps.connectServer = .ok conn →
    ∃ m, steps.setNewWorkConn { runID := runID } = .ok m

/-- The server lets the visitor in, and the layers can be made. -/
def LetIn (steps : VisitorSteps) (runID : String) (cfg : VisitorConf) : Prop :=
  ∀ conn, steps.connectServer = .ok conn →
    steps.writeMsg conn (newVisitorConnMsg steps runID cfg) = .ok () ∧
      (∃ resp, steps.readMsgInto conn = .ok resp ∧ resp.error = "") ∧
      (cfg.useEncryption = true → steps.withEncryption conn cfg.sk = .ok ())

variable {proxies : GoMap GoString Managed} {conn : Conn}

theorem inWorkConn_accounted {name : GoString} {pw : Managed} (found : proxies.get name = some pw)
    (m : StartWorkConn) :
    pw.inWorkConn conn m = [.close conn] ∨ Handed proxies conn (pw.inWorkConn conn m) := by
  unfold Managed.inWorkConn
  cases made : pw.pxy with
  | none => exact .inl rfl
  | some pxy =>
      by_cases running : pw.phase = .running
      · simp only [if_pos running]
        exact .inr ⟨name, pw, pxy, m, found, made, running, rfl⟩
      · simp only [if_neg running]
        exact .inl trivial

theorem handleWorkConn_accounted (name : GoString) (m : StartWorkConn) :
    handleWorkConn proxies name conn m = [.close conn] ∨
      Handed proxies conn (handleWorkConn proxies name conn m) := by
  unfold handleWorkConn
  cases found : proxies.get name with
  | none => exact .inl rfl
  | some pw => exact inWorkConn_accounted found m

theorem workAccounted_iff (steps : WorkSteps) (runID : String)
    (proxies : GoMap GoString Managed) :
    WorkAccounted steps runID proxies ↔ AuthSet steps runID := by
  unfold WorkAccounted AuthSet handleReqWorkConn
  cases opened : steps.connectServer with
  | error err => simp
  | ok workConn =>
      simp only [Except.ok.injEq, forall_eq']
      cases steps.setNewWorkConn { runID := runID } with
      | error err =>
          simp only [List.ne_cons_self, false_or, reduceCtorEq, exists_false, iff_false]
          rintro ⟨name, pw, pxy, m, -, -, -, handed⟩
          cases handed
      | ok m =>
          simp only [Except.ok.injEq, exists_eq', iff_true]
          cases steps.writeMsg workConn m with
          | error err => exact .inl rfl
          | ok _ =>
              cases steps.readMsgInto workConn with
              | error err => exact .inl rfl
              | ok startMsg =>
                  by_cases refused : startMsg.error ≠ []
                  · simp only [if_pos refused]
                    exact .inl trivial
                  · simp only [if_neg refused]
                    exact handleWorkConn_accounted startMsg.proxyName startMsg

theorem wrap_ok_iff (steps : VisitorSteps) (cfg : VisitorConf) (conn : Conn) :
    (∃ stream, wrap steps cfg conn = .ok stream ∧ stream.conn = conn) ↔
      (cfg.useEncryption = true → steps.withEncryption conn cfg.sk = .ok ()) := by
  unfold wrap
  cases cfg.useEncryption with
  | false => simp
  | true => cases steps.withEncryption conn cfg.sk <;> simp

/-- Nothing is ever closed, so all that counts is what is returned. -/
theorem visitorAccounted_iff (steps : VisitorSteps) (runID : String) (cfg : VisitorConf) :
    VisitorAccounted steps runID cfg ↔ LetIn steps runID cfg := by
  unfold VisitorAccounted LetIn getNewVisitorConn
  cases opened : steps.connectServer with
  | error err => simp
  | ok visitorConn =>
      simp only [Except.ok.injEq, forall_eq']
      cases steps.writeMsg visitorConn (newVisitorConnMsg steps runID cfg) with
      | error err => simp
      | ok _ =>
          cases steps.readMsgInto visitorConn with
          | error err => simp
          | ok resp =>
              by_cases refused : resp.error = ""
              · simp [refused, wrap_ok_iff]
              · simp [refused]

/-- **A work connection is lost exactly when its authentication cannot be set, and a
visitor's connection whenever the server does not let the visitor in.** -/
theorem dial_accounted_iff (steps : WorkSteps) (visitorSteps : VisitorSteps) (runID : String)
    (proxies : GoMap GoString Managed) (cfg : VisitorConf) :
    (WorkAccounted steps runID proxies ↔ AuthSet steps runID) ∧
      (VisitorAccounted visitorSteps runID cfg ↔ LetIn visitorSteps runID cfg) :=
  ⟨workAccounted_iff steps runID proxies, visitorAccounted_iff visitorSteps runID cfg⟩

/-- The token of the client cannot be had. -/
def noToken : WorkSteps where
  connectServer := .ok 7
  setNewWorkConn _ := .error "couldn't generate OIDC token for login"
  writeMsg _ _ := .ok ()
  readMsgInto _ := .ok { proxyName := .lit "ssh" }

/-- The server has no visitor of this name. -/
def refusedVisitor : VisitorSteps where
  connectServer := .ok 8
  now := 1700000000
  getAuthKey sk now := sk ++ toString now
  writeMsg _ _ := .ok ()
  readMsgInto _ := .ok { proxyName := "dns", error := "custom listener for [dns] doesn't exist" }
  withEncryption _ _ := .ok ()

/-- Both connections are open afterwards and nobody has them. -/
theorem opened_and_lost :
    handleReqWorkConn noToken "run" ∅ = [] ∧
      getNewVisitorConn refusedVisitor "run" ⟨"dns", "secret", false, false⟩ =
        ([], .error "start new visitor connection error: custom listener for [dns] doesn't exist") ∧
      ¬ WorkAccounted noToken "run" ∅ ∧
      ¬ VisitorAccounted refusedVisitor "run" ⟨"dns", "secret", false, false⟩ := by
  refine ⟨rfl, rfl, ?_, ?_⟩
  · intro accounted
    rcases accounted 7 rfl with closed | ⟨name, pw, pxy, m, -, -, -, handed⟩
    · cases closed
    · cases handed
  · intro accounted
    rcases accounted 8 rfl with closed | ⟨stream, returned, -⟩
    · cases closed
    · cases returned

end ChmlFrp.Client.Dial
