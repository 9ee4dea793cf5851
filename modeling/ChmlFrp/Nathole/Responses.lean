/-
# ChmlFrp.Nathole.Responses — whom a session answers

The sessions of `pkg/nathole/controller.go` from the message of the visitor on.
`HandleClient` writes the message of a client and its transporter into the session, one
after the other, and signals a channel of one slot.  `HandleVisitor` wakes up, reads the
message in `analysis`, reads it again for the key or for an error, and reads the
transporter when it sends.

* `responses_paired`: a session sends at most one response to each party, and the one to
  the visitor is the visitor's.  The one to the client goes where the message that was used
  came from in the runs in which the session holds a message and its transporter when
  `analysis` reads, and no other transporter is written before the response is sent.  Any
  other step leads to a response that goes elsewhere.
* `late_client_gets_response`: another control sends the sid while the first is answered.
-/
import ChmlFrp.Lib.Slots
import ChmlFrp.Nathole.Analyzer
import ChmlFrp.Nathole.Message

namespace ChmlFrp.Nathole.Responses

set_option autoImplicit false

open ChmlFrp.Lib
open ChmlFrp.Lib.Transition
open ChmlFrp.Nathole.Analyzer

/-- The errors of `analysis`. -/
inductive AnalysisError where
  | client (err : ClassifyError)
  | visitor (err : ClassifyError)
  deriving DecidableEq, Repr

abbrev Resp := NatHoleResp (Option AnalysisError)

def visitorPeer (m : NatHoleVisitor) : PeerMsg := ⟨m.mappedAddrs, m.assistedAddrs⟩

def clientPeer (m : NatHoleClient) : PeerMsg := ⟨m.mappedAddrs, m.assistedAddrs⟩

/-! ## What `analysis` computes -/

/-- The features of the client and the visitor. -/
def classify (cm : NatHoleClient) (vm : NatHoleVisitor) :
    Except AnalysisError (NatFeature × NatFeature) :=
  match classifyPeer (clientPeer cm) with
  | .error err => .error (.client err)
  | .ok c =>
      match classifyPeer (visitorPeer vm) with
      | .error err => .error (.visitor err)
      | .ok v => .ok (c, v)

def getRangePorts (addrs : List GoString) (difference : Int) (maxNumber : Nat) :
    List PortsRange :=
  if maxNumber = 0 then []
  else
    match addrs.getLast?.map parseEndpoint with
    | some (.ok e) =>
        [⟨max (max (int64 (e.portNum - difference - 5)) (int64 (e.portNum - maxNumber))) 1,
          min (min (int64 (e.portNum + difference + 5)) (int64 (e.portNum + maxNumber))) 65535⟩]
    | _ => []

/-- The behaviour that a party is told. -/
def detectBehavior (mode timeoutMs : Nat) (own : RecommandBehavior) (addrs : List GoString)
    (difference : Int) : NatHoleDetectBehavior :=
  { mode := mode
    role := own.role
    ttl := own.ttl
    sendDelayMs := own.sendDelayMs
    readTimeoutMs := timeoutMs - own.sendDelayMs
    sendRandomPorts := own.portsRandomNumber
    listenRandomPorts := own.listenRandomPorts
    candidatePorts := getRangePorts addrs difference own.portsRangeNumber }

/-- `vResp` and `cResp`, after `GetRecommandBehaviors` has chosen. -/
def responses (sid : String) (vm : NatHoleVisitor) (cm : NatHoleClient) (c v : NatFeature)
    (mode index : Nat) : Resp × Resp :=
  let (cBehavior, vBehavior) := assignBehaviors mode index c
  let timeoutMs := max cBehavior.sendDelayMs vBehavior.sendDelayMs + 5000 +
    if 0 < cBehavior.listenRandomPorts ∨ 0 < vBehavior.listenRandomPorts then 30000 else 0
  ({ transactionID := vm.transactionID
     sid := sid
     protocol := vm.protocol
     candidateAddrs := cm.mappedAddrs.eraseDups
     assistedAddrs := cm.assistedAddrs.eraseDups
     detectBehavior := detectBehavior mode timeoutMs vBehavior cm.mappedAddrs c.portsDifference
     error := none },
   { transactionID := cm.transactionID
     sid := sid
     protocol := vm.protocol
     candidateAddrs := vm.mappedAddrs.eraseDups
     assistedAddrs := vm.assistedAddrs.eraseDups
     detectBehavior := detectBehavior mode timeoutMs cBehavior vm.mappedAddrs v.portsDifference
     error := none })

/-- `GenNatHoleResponse` without a session -/
def genNatHoleResponse (transactionID : String) (err : AnalysisError) : Resp :=
  { transactionID := transactionID, error := some err }

/-! ## Sessions and calls -/

/-- Where `HandleVisitor` is. -/
inductive Stage where
  /-- At `clientCfg.sidCh <- sid`. -/
  | handing
  | waiting
  /-- It has received from `notifyCh`. -/
  | notified
  /-- In `analysis`, before the key. -/
  | classified (c v : NatFeature)
  /-- `analysis` has returned an error. -/
  | failed (err : AnalysisError)
  /-- The two goroutines that have not sent yet. -/
  | responding (vLeft cLeft : Bool)
  | ended
  deriving DecidableEq, Repr

/-- A message of a client, and the transporter through which it came. -/
structure Arrival where
  msg : NatHoleClient
  transporter : Nat
  deriving DecidableEq, Repr

structure Session where
  sid : String
  analysisKey : GoString
  visitorMsg : NatHoleVisitor
  visitorTransporter : Nat
  vResp : Option Resp
  clientMsg : Option Arrival
  clientTransporter : Option Nat
  cResp : Option Resp
  /-- Whether `notifyCh` holds its one element. -/
  notifyCh : Bool
  stage : Stage
  /-- The variable `cm` of `analysis`. -/
  cm : Option Arrival
  /-- What was sent to the visitor and to the client, and over which transporter. -/
  vSent : List (Nat × Resp)
  cSent : List (Nat × Resp)
  deriving DecidableEq, Repr

/-- Where `HandleClient` is. -/
inductive ClientStage where
  | found
  | msgWritten
  | transporterWritten
  | returned
  deriving DecidableEq, Repr

/-- A call of `HandleClient` that has found its session. -/
structure Client where
  arrival : Arrival
  session : Nat
  stage : ClientStage
  deriving DecidableEq, Repr

structure State where
  /-- The map of the controller, to the sessions that were opened. -/
  sessions : GoMap String Nat
  opened : List Session
  clients : List Client

def start : State := ⟨∅, [], []⟩

/-- The steps of `HandleVisitor` on its session. -/
inductive Visit where
  /-- The send of the sid returns, or panics. -/
  | handSid (panics : Bool)
  | timeout
  | receive
  /-- `analysis`, up to the features. -/
  | analysis
  /-- The rest of `analysis`; what the analyzer recommends. -/
  | recommand (mode index : Nat)
  /-- The responses for an error. -/
  | genErrors
  | sendVisitor
  | sendClient
  | finish
  deriving DecidableEq, Repr

inductive Label where
  /-- `HandleVisitor` opens a session; `sid` is what `GenSid` returns. -/
  | visitor (m : NatHoleVisitor) (transporter : Nat) (sid : String)
  | visit (i : Nat) (v : Visit)
  /-- `HandleClient`, up to the end of the lock. -/
  | client (m : NatHoleClient) (transporter : Nat)
  | writeMsg (h : Nat)
  | writeTransporter (h : Nat)
  | notify (h : Nat)
  deriving DecidableEq, Repr

def newSession (sid : String) (m : NatHoleVisitor) (transporter : Nat) : Session :=
  { sid := sid
    analysisKey := []
    visitorMsg := m
    visitorTransporter := transporter
    vResp := none
    clientMsg := none
    clientTransporter := none
    cResp := none
    notifyCh := false
    stage := .handing
    cm := none
    vSent := []
    cSent := [] }

def visit (md5 : GoString → GoString) (se : Session) : Visit → Option Session
  | .handSid panics =>
      if se.stage = .handing then
        some { se with stage := if panics then .ended else .waiting }
      else none
  | .timeout => if se.stage = .waiting then some { se with stage := .ended } else none
  | .receive =>
      if se.stage = .waiting ∧ se.notifyCh = true then
        some { se with stage := .notified, notifyCh := false }
      else none
  | .analysis =>
      if se.stage = .notified then
        se.clientMsg.map fun cm =>
          match classify cm.msg se.visitorMsg with
          | .error err => { se with stage := .failed err, cm := some cm }
          | .ok (c, v) => { se with stage := .classified c v, cm := some cm }
      else none
  | .recommand mode index =>
      match se.stage, se.cm, se.clientMsg with
      | .classified c v, some cm, some clientMsg =>
          let resps := responses se.sid se.visitorMsg cm.msg c v mode index
          some { se with
            analysisKey := md5 (keyText (visitorPeer se.visitorMsg) v (clientPeer clientMsg.msg) c)
            stage := .responding true true
            vResp := some resps.1
            cResp := some resps.2 }
      | _, _, _ => none
  | .genErrors =>
      match se.stage, se.clientMsg with
      | .failed err, some clientMsg =>
          some { se with
            stage := .responding true true
            vResp := some (genNatHoleResponse se.visitorMsg.transactionID err)
            cResp := some (genNatHoleResponse clientMsg.msg.transactionID err) }
      | _, _ => none
  | .sendVisitor =>
      match se.stage, se.vResp with
      | .responding true cLeft, some vResp =>
          some { se with
            stage := .responding false cLeft
            vSent := se.vSent ++ [(se.visitorTransporter, vResp)] }
      | _, _ => none
  | .sendClient =>
      match se.stage, se.cResp, se.clientTransporter with
      | .responding vLeft true, some cResp, some transporter =>
          some { se with
            stage := .responding vLeft false
            cSent := se.cSent ++ [(transporter, cResp)] }
      | _, _, _ => none
  | .finish => if se.stage = .responding false false then some { se with stage := .ended } else none

/-- A session after a step; at its end the deferred function takes it out of the map. -/
def State.put (s : State) (i : Nat) (se : Session) : State :=
  { s with
    opened := s.opened.set i se
    sessions := if se.stage = .ended then s.sessions.delete se.sid else s.sessions }

/-- A call of `HandleClient` goes on and writes into its session. -/
def State.write (s : State) (h : Nat) (call : Client) (stage : ClientStage) (se : Session) :
    State :=
  { s with
    clients := s.clients.set h { call with stage := stage }
    opened := s.opened.set call.session se }

def step (md5 : GoString → GoString) (s : State) : Label → Option State
  | .visitor m transporter sid =>
      some { s with
        sessions := s.sessions.set sid s.opened.length
        opened := s.opened ++ [newSession sid m transporter] }
  | .visit i v => s.opened[i]?.bind fun se => (visit md5 se v).map (s.put i)
  | .client m transporter =>
      match s.sessions.get m.sid with
      | none => some s
      | some i => some { s with clients := s.clients ++ [⟨⟨m, transporter⟩, i, .found⟩] }
  | .writeMsg h =>
      s.clients[h]?.bind fun call => s.opened[call.session]?.bind fun se =>
        if call.stage = .found then
          some (s.write h call .msgWritten { se with clientMsg := some call.arrival })
        else none
  | .writeTransporter h =>
      s.clients[h]?.bind fun call => s.opened[call.session]?.bind fun se =>
        if call.stage = .msgWritten then
          some (s.write h call .transporterWritten
            { se with clientTransporter := some call.arrival.transporter })
        else none
  | .notify h =>
      s.clients[h]?.bind fun call => s.opened[call.session]?.bind fun se =>
        if call.stage = .transporterWritten then
          some (s.write h call .returned { se with notifyCh := true })
        else none

/-! ## Who gets the responses -/

/-- Each party gets at most one response, and the visitor its own. -/
structure Session.Once (se : Session) : Prop where
  visitor : se.vSent.length ≤ 1
  client : se.cSent.length ≤ 1
  own : ∀ transporter resp, (transporter, resp) ∈ se.vSent →
    transporter = se.visitorTransporter ∧ resp.transactionID = se.visitorMsg.transactionID

/-- The client's response goes where the message that was used came from. -/
def Session.Paired (se : Session) : Prop :=
  ∀ transporter resp, (transporter, resp) ∈ se.cSent → ∃ cm, se.cm = some cm ∧
    transporter = cm.transporter ∧ resp.transactionID = cm.msg.transactionID

def Once (s : State) : Prop := ∀ se ∈ s.opened, se.Once

def Paired (s : State) : Prop := ∀ se ∈ s.opened, se.Paired

/-- `cm` is read, and the response to the client is not sent. -/
def Stage.Pending : Stage → Prop
  | .classified .. | .failed _ | .responding _ true => True
  | .handing | .waiting | .notified | .responding _ false | .ended => False

/-- The condition on a step: a session holds a message with its transporter when `analysis`
reads, and until the response is sent no other transporter is written; nor, before the
responses for an error, another transaction. -/
def Guard (s : State) : Label → Prop
  | .visit i .analysis => ∀ se cm, s.opened[i]? = some se → se.clientMsg = some cm →
      se.clientTransporter = some cm.transporter
  | .writeTransporter h => ∀ call se cm, s.clients[h]? = some call →
      s.opened[call.session]? = some se → se.stage.Pending → se.cm = some cm →
      call.arrival.transporter = cm.transporter
  | .writeMsg h => ∀ call se cm err, s.clients[h]? = some call →
      s.opened[call.session]? = some se → se.stage = .failed err → se.cm = some cm →
      call.arrival.msg.transactionID = cm.msg.transactionID
  | .visitor .. | .visit .. | .client .. | .notify _ => True

/-! ## What a step can do -/

section Steps

variable {md5 : GoString → GoString} {se se' : Session} {v : Visit} {s t : State} {l : Label}

/-- What a step of `HandleVisitor` can do. -/
inductive Visited (md5 : GoString → GoString) (se : Session) : Visit → Session → Prop where
  | handSid (panics : Bool) (stage : se.stage = .handing) :
      Visited md5 se (.handSid panics) { se with stage := if panics then .ended else .waiting }
  | timeout (stage : se.stage = .waiting) : Visited md5 se .timeout { se with stage := .ended }
  | receive (stage : se.stage = .waiting) (notified : se.notifyCh = true) :
      Visited md5 se .receive { se with stage := .notified, notifyCh := false }
  | fail {cm : Arrival} (err : AnalysisError) (stage : se.stage = .notified)
      (held : se.clientMsg = some cm) :
      Visited md5 se .analysis { se with stage := .failed err, cm := some cm }
  | classify {cm : Arrival} (c v : NatFeature) (stage : se.stage = .notified)
      (held : se.clientMsg = some cm) :
      Visited md5 se .analysis { se with stage := .classified c v, cm := some cm }
  | recommand (mode index : Nat) {c v : NatFeature} {cm clientMsg : Arrival}
      (stage : se.stage = .classified c v) (used : se.cm = some cm)
      (held : se.clientMsg = some clientMsg) :
      Visited md5 se (.recommand mode index) { se with
        analysisKey := md5 (keyText (visitorPeer se.visitorMsg) v (clientPeer clientMsg.msg) c)
        stage := .responding true true
        vResp := some (responses se.sid se.visitorMsg cm.msg c v mode index).1
        cResp := some (responses se.sid se.visitorMsg cm.msg c v mode index).2 }
  | genErrors {err : AnalysisError} {clientMsg : Arrival} (stage : se.stage = .failed err)
      (held : se.clientMsg = some clientMsg) :
      Visited md5 se .genErrors { se with
        stage := .responding true true
        vResp := some (genNatHoleResponse se.visitorMsg.transactionID err)
        cResp := some (genNatHoleResponse clientMsg.msg.transactionID err) }
  | sendVisitor {cLeft : Bool} {vResp : Resp} (stage : se.stage = .responding true cLeft)
      (resp : se.vResp = some vResp) :
      Visited md5 se .sendVisitor { se with
        stage := .responding false cLeft
        vSent := se.vSent ++ [(se.visitorTransporter, vResp)] }
  | sendClient {vLeft : Bool} {cResp : Resp} {transporter : Nat}
      (stage : se.stage = .responding vLeft true) (resp : se.cResp = some cResp)
      (has : se.clientTransporter = some transporter) :
      Visited md5 se .sendClient { se with
        stage := .responding vLeft false
        cSent := se.cSent ++ [(transporter, cResp)] }
  | finish (stage : se.stage = .responding false false) :
      Visited md5 se .finish { se with stage := .ended }

theorem visit_visited (next : visit md5 se v = some se') : Visited md5 se v se' := by
  cases v with
  | handSid panics =>
      simp only [visit, Option.ite_none_right_eq_some] at next
      obtain ⟨stage, done⟩ := next
      cases done
      exact .handSid panics stage
  | timeout =>
      simp only [visit, Option.ite_none_right_eq_some] at next
      obtain ⟨stage, done⟩ := next
      cases done
      exact .timeout stage
  | receive =>
      simp only [visit, Option.ite_none_right_eq_some] at next
      obtain ⟨⟨stage, notified⟩, done⟩ := next
      cases done
      exact .receive stage notified
  | analysis =>
      simp only [visit, Option.ite_none_right_eq_some, Option.map_eq_some_iff] at next
      obtain ⟨stage, cm, held, done⟩ := next
      split at done
      · rename_i err _
        cases done
        exact .fail err stage held
      · rename_i c v _
        cases done
        exact .classify c v stage held
  | recommand mode index =>
      simp only [visit] at next
      split at next
      · rename_i c v cm clientMsg stage used held
        cases next
        exact .recommand mode index stage used held
      · cases next
  | genErrors =>
      simp only [visit] at next
      split at next
      · rename_i err clientMsg stage held
        cases next
        exact .genErrors stage held
      · cases next
  | sendVisitor =>
      simp only [visit] at next
      split at next
      · rename_i cLeft vResp stage resp
        cases next
        exact .sendVisitor stage resp
      · cases next
  | sendClient =>
      simp only [visit] at next
      split at next
      · rename_i vLeft cResp transporter stage resp has
        cases next
        exact .sendClient stage resp has
      · cases next
  | finish =>
      simp only [visit, Option.ite_none_right_eq_some] at next
      obtain ⟨stage, done⟩ := next
      cases done
      exact .finish stage

/-- What a step can do. -/
inductive Moves (md5 : GoString → GoString) (s : State) : Label → State → Prop where
  | visitor (m : NatHoleVisitor) (transporter : Nat) (sid : String) :
      Moves md5 s (.visitor m transporter sid) { s with
        sessions := s.sessions.set sid s.opened.length
        opened := s.opened ++ [newSession sid m transporter] }
  | visit {i : Nat} {v : Visit} {se se' : Session} (there : s.opened[i]? = some se)
      (visited : Visited md5 se v se') : Moves md5 s (.visit i v) (s.put i se')
  | miss (m : NatHoleClient) (transporter : Nat) : Moves md5 s (.client m transporter) s
  | client (m : NatHoleClient) (transporter i : Nat) :
      Moves md5 s (.client m transporter)
        { s with clients := s.clients ++ [⟨⟨m, transporter⟩, i, .found⟩] }
  | writeMsg {h : Nat} {call : Client} {se : Session} (calls : s.clients[h]? = some call)
      (there : s.opened[call.session]? = some se) (stage : call.stage = .found) :
      Moves md5 s (.writeMsg h)
        (s.write h call .msgWritten { se with clientMsg := some call.arrival })
  | writeTransporter {h : Nat} {call : Client} {se : Session} (calls : s.clients[h]? = some call)
      (there : s.opened[call.session]? = some se) (stage : call.stage = .msgWritten) :
      Moves md5 s (.writeTransporter h)
        (s.write h call .transporterWritten
          { se with clientTransporter := some call.arrival.transporter })
  | notify {h : Nat} {call : Client} {se : Session} (calls : s.clients[h]? = some call)
      (there : s.opened[call.session]? = some se) (stage : call.stage = .transporterWritten) :
      Moves md5 s (.notify h) (s.write h call .returned { se with notifyCh := true })

theorem step_moves (next : step md5 s l = some t) : Moves md5 s l t := by
  cases l with
  | visitor m transporter sid =>
      cases next
      exact .visitor m transporter sid
  | visit i v =>
      simp only [step, Option.bind_eq_some_iff, Option.map_eq_some_iff] at next
      obtain ⟨se, there, se', visited, rfl⟩ := next
      exact .visit there (visit_visited visited)
  | client m transporter =>
      simp only [step] at next
      split at next
      · cases next
        exact .miss m transporter
      · rename_i i _
        cases next
        exact .client m transporter i
  | writeMsg h =>
      simp only [step, Option.bind_eq_some_iff, Option.ite_none_right_eq_some] at next
      obtain ⟨call, calls, se, there, stage, done⟩ := next
      cases done
      exact .writeMsg calls there stage
  | writeTransporter h =>
      simp only [step, Option.bind_eq_some_iff, Option.ite_none_right_eq_some] at next
      obtain ⟨call, calls, se, there, stage, done⟩ := next
      cases done
      exact .writeTransporter calls there stage
  | notify h =>
      simp only [step, Option.bind_eq_some_iff, Option.ite_none_right_eq_some] at next
      obtain ⟨call, calls, se, there, stage, done⟩ := next
      cases done
      exact .notify calls there stage

/-! ## A session by itself -/

/-- `HandleVisitor` has received from `notifyCh`. -/
def Stage.Woken : Stage → Prop
  | .notified | .classified .. | .failed _ | .responding .. => True
  | .handing | .waiting | .ended => False

/-- Nothing is sent to the visitor. -/
def Stage.VisitorLeft : Stage → Prop
  | .responding vLeft _ => vLeft = true
  | .ended => False
  | .handing | .waiting | .notified | .classified .. | .failed _ => True

/-- Nothing is sent to the client. -/
def Stage.ClientLeft : Stage → Prop
  | .responding _ cLeft => cLeft = true
  | .ended => False
  | .handing | .waiting | .notified | .classified .. | .failed _ => True

structure Session.Inv (se : Session) : Prop where
  held : se.notifyCh = true ∨ se.stage.Woken →
    se.clientMsg.isSome = true ∧ se.clientTransporter.isSome = true
  used : se.stage.Pending → se.cm.isSome = true
  visitorLeft : se.stage.VisitorLeft → se.vSent = []
  clientLeft : se.stage.ClientLeft → se.cSent = []
  vResp : ∀ vLeft cLeft, se.stage = .responding vLeft cLeft →
    ∃ vResp, se.vResp = some vResp ∧ vResp.transactionID = se.visitorMsg.transactionID
  cResp : ∀ vLeft cLeft, se.stage = .responding vLeft cLeft → se.cResp.isSome = true
  once : se.Once

theorem newSession_once (sid : String) (m : NatHoleVisitor) (transporter : Nat) :
    (newSession sid m transporter).Once :=
  ⟨Nat.zero_le _, Nat.zero_le _, fun _ _ sent => by cases sent⟩

theorem newSession_inv (sid : String) (m : NatHoleVisitor) (transporter : Nat) :
    (newSession sid m transporter).Inv where
  held := by
    rintro (notified | woken)
    · cases notified
    · cases woken
  used pending := by cases pending
  visitorLeft _ := rfl
  clientLeft _ := rfl
  vResp _ _ stage := by cases stage
  cResp _ _ stage := by cases stage
  once := newSession_once sid m transporter

theorem Session.Once.congr (once : se.Once) (vSent : se'.vSent = se.vSent)
    (cSent : se'.cSent = se.cSent) (transporter : se'.visitorTransporter = se.visitorTransporter)
    (msg : se'.visitorMsg = se.visitorMsg) : se'.Once := by
  constructor
  · rw [vSent]
    exact once.visitor
  · rw [cSent]
    exact once.client
  · rw [vSent, transporter, msg]
    exact once.own

theorem Session.Inv.ended (inv : se.Inv) : Session.Inv { se with stage := .ended } where
  held := by
    rintro (notified | woken)
    · exact inv.held (.inl notified)
    · cases woken
  used pending := by cases pending
  visitorLeft left := by cases left
  clientLeft left := by cases left
  vResp _ _ stage := by cases stage
  cResp _ _ stage := by cases stage
  once := inv.once.congr rfl rfl rfl rfl

/-- The responses are ready. -/
theorem Session.Inv.ready (inv : se.Inv) (woken : se.stage.Woken) (used : se.cm.isSome = true)
    (vLeft : se.stage.VisitorLeft) (cLeft : se.stage.ClientLeft) (key : GoString)
    {vResp : Resp} (own : vResp.transactionID = se.visitorMsg.transactionID)
    (cResp : Resp) :
    Session.Inv { se with
      analysisKey := key
      stage := .responding true true
      vResp := some vResp
      cResp := some cResp } where
  held _ := inv.held (.inr woken)
  used _ := used
  visitorLeft _ := inv.visitorLeft vLeft
  clientLeft _ := inv.clientLeft cLeft
  vResp _ _ _ := ⟨vResp, rfl, own⟩
  cResp _ _ _ := rfl
  once := inv.once.congr rfl rfl rfl rfl

theorem Session.Inv.visited (inv : se.Inv) (visited : Visited md5 se v se') : se'.Inv := by
  cases visited with
  | handSid panics stage =>
      cases panics with
      | true => exact inv.ended
      | false =>
          refine ⟨?_, by rintro ⟨⟩, fun _ => inv.visitorLeft (by rw [stage]; trivial),
            fun _ => inv.clientLeft (by rw [stage]; trivial), by rintro _ _ ⟨⟩, by rintro _ _ ⟨⟩,
            inv.once.congr rfl rfl rfl rfl⟩
          rintro (notified | woken)
          · exact inv.held (.inl notified)
          · cases woken
  | timeout => exact inv.ended
  | receive stage notified =>
      exact ⟨fun _ => inv.held (.inl notified), by rintro ⟨⟩,
        fun _ => inv.visitorLeft (by rw [stage]; trivial),
        fun _ => inv.clientLeft (by rw [stage]; trivial), by rintro _ _ ⟨⟩, by rintro _ _ ⟨⟩,
        inv.once.congr rfl rfl rfl rfl⟩
  | fail err stage held =>
      exact ⟨fun _ => inv.held (.inr (by rw [stage]; trivial)), fun _ => rfl,
        fun _ => inv.visitorLeft (by rw [stage]; trivial),
        fun _ => inv.clientLeft (by rw [stage]; trivial), by rintro _ _ ⟨⟩, by rintro _ _ ⟨⟩,
        inv.once.congr rfl rfl rfl rfl⟩
  | classify c v stage held =>
      exact ⟨fun _ => inv.held (.inr (by rw [stage]; trivial)), fun _ => rfl,
        fun _ => inv.visitorLeft (by rw [stage]; trivial),
        fun _ => inv.clientLeft (by rw [stage]; trivial), by rintro _ _ ⟨⟩, by rintro _ _ ⟨⟩,
        inv.once.congr rfl rfl rfl rfl⟩
  | recommand mode index stage used held =>
      refine inv.ready (by rw [stage]; trivial) (by rw [used]; rfl) (by rw [stage]; trivial)
        (by rw [stage]; trivial) _ rfl _
  | genErrors stage held =>
      refine inv.ready (by rw [stage]; trivial) (inv.used (by rw [stage]; trivial))
        (by rw [stage]; trivial) (by rw [stage]; trivial) _ rfl _
  | @sendVisitor cLeft vResp stage resp =>
      have none_ := inv.visitorLeft (by rw [stage]; rfl)
      obtain ⟨vResp', resp', own⟩ := inv.vResp true cLeft stage
      cases resp.symm.trans resp'
      refine ⟨fun _ => inv.held (.inr (by rw [stage]; trivial)), ?_, by rintro ⟨⟩, ?_,
        fun _ _ _ => ⟨vResp, resp, own⟩, fun _ _ _ => inv.cResp true cLeft stage, ?_, ?_, ?_⟩
      · intro pending
        apply inv.used
        rw [stage]
        cases cLeft <;> exact pending
      · intro left
        exact inv.clientLeft (by rw [stage]; exact left)
      · simp [none_]
      · exact inv.once.client
      · intro transporter resp'' sent
        rw [none_] at sent
        cases List.mem_singleton.1 sent
        exact ⟨rfl, own⟩
  | @sendClient vLeft cResp transporter stage resp has =>
      have none_ := inv.clientLeft (by rw [stage]; rfl)
      refine ⟨fun _ => inv.held (.inr (by rw [stage]; trivial)), by rintro ⟨⟩, ?_, by rintro ⟨⟩,
        fun _ _ _ => inv.vResp vLeft true stage, fun _ _ _ => inv.cResp vLeft true stage,
        inv.once.visitor, ?_, inv.once.own⟩
      · intro left
        exact inv.visitorLeft (by rw [stage]; exact left)
      · simp [none_]
  | finish => exact inv.ended

/-! ## All sessions -/

/-- Every session goes on, and keeps that it has a message or a transporter. -/
def Grows (opened opened' : List Session) : Prop :=
  ∀ (i : Nat) se, opened[i]? = some se → ∃ se', opened'[i]? = some se' ∧
    (se.clientMsg.isSome = true → se'.clientMsg.isSome = true) ∧
    (se.clientTransporter.isSome = true → se'.clientTransporter.isSome = true)

/-- What a call has written is in its session, or something later is. -/
def Client.Wrote (opened : List Session) (call : Client) : Prop :=
  match call.stage with
  | .found => True
  | .msgWritten => ∃ se, opened[call.session]? = some se ∧ se.clientMsg.isSome = true
  | .transporterWritten | .returned => ∃ se, opened[call.session]? = some se ∧
      se.clientMsg.isSome = true ∧ se.clientTransporter.isSome = true

theorem Client.Wrote.grows {opened opened' : List Session} {call : Client}
    (wrote : call.Wrote opened) (grows : Grows opened opened') : call.Wrote opened' := by
  unfold Client.Wrote at wrote ⊢
  cases stage : call.stage with
  | found => trivial
  | msgWritten =>
      simp only [stage] at wrote
      obtain ⟨se, there, msg⟩ := wrote
      obtain ⟨se', there', keeps, -⟩ := grows _ se there
      exact ⟨se', there', keeps msg⟩
  | transporterWritten =>
      simp only [stage] at wrote
      obtain ⟨se, there, msg, transporter⟩ := wrote
      obtain ⟨se', there', keeps, keeps'⟩ := grows _ se there
      exact ⟨se', there', keeps msg, keeps' transporter⟩
  | returned =>
      simp only [stage] at wrote
      obtain ⟨se, there, msg, transporter⟩ := wrote
      obtain ⟨se', there', keeps, keeps'⟩ := grows _ se there
      exact ⟨se', there', keeps msg, keeps' transporter⟩

theorem grows_set {opened : List Session} {i : Nat} (there : opened[i]? = some se)
    (msg : se.clientMsg.isSome = true → se'.clientMsg.isSome = true)
    (transporter : se.clientTransporter.isSome = true → se'.clientTransporter.isSome = true) :
    Grows opened (opened.set i se') := by
  intro j sej at_j
  by_cases same : i = j
  · subst same
    cases there.symm.trans at_j
    exact ⟨se', Slots.set_self there, msg, transporter⟩
  · exact ⟨sej, (List.getElem?_set_ne same).trans at_j, id, id⟩

theorem grows_append (opened : List Session) (se : Session) : Grows opened (opened ++ [se]) :=
  fun _ sej at_j => ⟨sej, Slots.append_old at_j, id, id⟩

theorem Visited.keeps (visited : Visited md5 se v se') :
    se'.clientMsg = se.clientMsg ∧ se'.clientTransporter = se.clientTransporter := by
  cases visited <;> exact ⟨rfl, rfl⟩

structure Inv (s : State) : Prop where
  sessions : ∀ se ∈ s.opened, se.Inv
  clients : ∀ call ∈ s.clients, call.Wrote s.opened

theorem start_inv : Inv start :=
  ⟨fun _ none => absurd none List.not_mem_nil, fun _ none => absurd none List.not_mem_nil⟩

theorem Session.Inv.writeMsg (inv : se.Inv) (arrival : Arrival) :
    Session.Inv { se with clientMsg := some arrival } where
  held now := ⟨rfl, (inv.held now).2⟩
  used := inv.used
  visitorLeft := inv.visitorLeft
  clientLeft := inv.clientLeft
  vResp := inv.vResp
  cResp := inv.cResp
  once := inv.once.congr rfl rfl rfl rfl

theorem Session.Inv.writeTransporter (inv : se.Inv) (transporter : Nat) :
    Session.Inv { se with clientTransporter := some transporter } where
  held now := ⟨(inv.held now).1, rfl⟩
  used := inv.used
  visitorLeft := inv.visitorLeft
  clientLeft := inv.clientLeft
  vResp := inv.vResp
  cResp := inv.cResp
  once := inv.once.congr rfl rfl rfl rfl

theorem Session.Inv.notify (inv : se.Inv) (msg : se.clientMsg.isSome = true)
    (transporter : se.clientTransporter.isSome = true) :
    Session.Inv { se with notifyCh := true } where
  held _ := ⟨msg, transporter⟩
  used := inv.used
  visitorLeft := inv.visitorLeft
  clientLeft := inv.clientLeft
  vResp := inv.vResp
  cResp := inv.cResp
  once := inv.once.congr rfl rfl rfl rfl

/-- A call writes into its session. -/
theorem Inv.write (inv : Inv s) {h : Nat} {call : Client} (calls : s.clients[h]? = some call)
    (there : s.opened[call.session]? = some se) {stage : ClientStage} (after : se'.Inv)
    (msg : se.clientMsg.isSome = true → se'.clientMsg.isSome = true)
    (transporter : se.clientTransporter.isSome = true → se'.clientTransporter.isSome = true)
    (wrote : Client.Wrote (s.opened.set call.session se') { call with stage := stage }) :
    Inv (s.write h call stage se') where
  sessions := (Slots.forall_mem_set_iff se' inv.sessions there).2 after
  clients := by
    have grows := grows_set there msg transporter
    have old : ∀ call' ∈ s.clients, call'.Wrote (s.opened.set call.session se') :=
      fun call' inside => (inv.clients call' inside).grows grows
    exact (Slots.forall_mem_set_iff _ old calls).2 wrote

theorem Inv.moves (inv : Inv s) (moves : Moves md5 s l t) : Inv t := by
  cases moves with
  | visitor m transporter sid =>
      refine ⟨?_, fun call inside => (inv.clients call inside).grows (grows_append _ _)⟩
      intro se inside
      rcases List.mem_append.1 inside with old | new
      · exact inv.sessions se old
      · cases List.mem_singleton.1 new
        exact newSession_inv sid m transporter
  | visit there visited =>
      have after := (inv.sessions _ (List.mem_of_getElem? there)).visited visited
      refine ⟨(Slots.forall_mem_set_iff _ inv.sessions there).2 after, ?_⟩
      intro call inside
      refine (inv.clients call inside).grows (grows_set there ?_ ?_)
      · rw [visited.keeps.1]
        exact id
      · rw [visited.keeps.2]
        exact id
  | miss => exact inv
  | client m transporter i =>
      refine ⟨inv.sessions, fun call inside => ?_⟩
      rcases List.mem_append.1 inside with old | new
      · exact inv.clients call old
      · cases List.mem_singleton.1 new
        trivial
  | writeMsg calls there stage =>
      have before := inv.sessions _ (List.mem_of_getElem? there)
      exact inv.write calls there (before.writeMsg _) (fun _ => rfl) id
        ⟨_, Slots.set_self there, rfl⟩
  | @writeTransporter h call se calls there stage =>
      have before := inv.sessions _ (List.mem_of_getElem? there)
      have wrote := inv.clients _ (List.mem_of_getElem? calls)
      simp only [Client.Wrote, stage] at wrote
      obtain ⟨se', there', msg⟩ := wrote
      cases there.symm.trans there'
      exact inv.write calls there (before.writeTransporter _) id (fun _ => rfl)
        ⟨_, Slots.set_self there, msg, rfl⟩
  | @notify h call se calls there stage =>
      have before := inv.sessions _ (List.mem_of_getElem? there)
      have wrote := inv.clients _ (List.mem_of_getElem? calls)
      simp only [Client.Wrote, stage] at wrote
      obtain ⟨se', there', msg, transporter⟩ := wrote
      cases there.symm.trans there'
      exact inv.write calls there (before.notify msg transporter) id id
        ⟨_, Slots.set_self there, msg, transporter⟩

theorem Inv.once (inv : Inv s) : Once s := fun se inside => (inv.sessions se inside).once

/-! ## Runs that meet the condition -/

/-- Until it is sent, the response to the client will go where `cm` came from. -/
structure Session.Settled (se : Session) : Prop where
  transporter : se.stage.Pending → ∀ cm, se.cm = some cm →
    se.clientTransporter = some cm.transporter
  failed : ∀ err cm clientMsg, se.stage = .failed err → se.cm = some cm →
    se.clientMsg = some clientMsg → clientMsg.msg.transactionID = cm.msg.transactionID
  cResp : ∀ vLeft cm cResp, se.stage = .responding vLeft true → se.cm = some cm →
    se.cResp = some cResp → cResp.transactionID = cm.msg.transactionID
  paired : se.Paired

def Settled (s : State) : Prop := ∀ se ∈ s.opened, se.Settled

/-- Outside of the stages in which the response is decided only what was sent counts. -/
theorem settled_of_not_pending (idle : ¬ se.stage.Pending) (paired : se.Paired) :
    se.Settled where
  transporter pending := absurd pending idle
  failed _ _ _ stage := absurd (by rw [stage]; trivial) idle
  cResp _ _ _ stage := absurd (by rw [stage]; trivial) idle
  paired := paired

theorem Session.Settled.visited (settled : se.Settled) (inv : se.Inv)
    (guard : v = .analysis → ∀ cm, se.clientMsg = some cm →
      se.clientTransporter = some cm.transporter)
    (visited : Visited md5 se v se') : se'.Settled := by
  cases visited with
  | handSid panics stage =>
      refine settled_of_not_pending ?_ settled.paired
      cases panics <;> exact id
  | timeout => exact settled_of_not_pending id settled.paired
  | receive => exact settled_of_not_pending id settled.paired
  | fail err stage held =>
      have unsent := inv.clientLeft (by rw [stage]; trivial)
      refine ⟨fun _ cm' used => ?_, fun _ cm' clientMsg _ used held' => ?_,
        by rintro _ _ _ ⟨⟩, fun transporter resp sent => ?_⟩
      · cases used
        exact guard rfl _ held
      · cases used
        cases held.symm.trans held'
        rfl
      · rw [show se.cSent = [] from unsent] at sent
        cases sent
  | classify c v stage held =>
      have unsent := inv.clientLeft (by rw [stage]; trivial)
      refine ⟨fun _ cm' used => ?_, by rintro _ _ _ ⟨⟩, by rintro _ _ _ ⟨⟩,
        fun transporter resp sent => ?_⟩
      · cases used
        exact guard rfl _ held
      · rw [show se.cSent = [] from unsent] at sent
        cases sent
  | recommand mode index stage used held =>
      refine ⟨fun _ => settled.transporter (by rw [stage]; trivial), by rintro _ _ _ ⟨⟩, ?_,
        settled.paired⟩
      intro _ cm' cResp _ used' resp
      cases used.symm.trans used'
      cases resp
      rfl
  | @genErrors err clientMsg stage held =>
      refine ⟨fun _ => settled.transporter (by rw [stage]; trivial), by rintro _ _ _ ⟨⟩, ?_,
        settled.paired⟩
      intro _ cm' cResp _ used' resp
      cases resp
      exact settled.failed err cm' clientMsg stage used' held
  | @sendVisitor cLeft vResp stage resp =>
      refine ⟨fun pending => settled.transporter ?_, by rintro _ _ _ ⟨⟩, ?_, settled.paired⟩
      · rw [stage]
        cases cLeft <;> exact pending
      · intro _ cm' cResp stage' used' resp'
        cases cLeft with
        | false => cases stage'
        | true => exact settled.cResp true cm' cResp stage used' resp'
  | @sendClient vLeft cResp transporter stage resp has =>
      refine settled_of_not_pending id ?_
      intro transporter' resp' sent
      rcases List.mem_append.1 sent with old | new
      · exact settled.paired transporter' resp' old
      · cases List.mem_singleton.1 new
        have pending : se.stage.Pending := by
          rw [stage]
          trivial
        obtain ⟨cm, used⟩ := Option.isSome_iff_exists.1 (inv.used pending)
        have from_ := settled.transporter pending cm used
        exact ⟨cm, used, Option.some.inj (has.symm.trans from_),
          settled.cResp vLeft cm cResp stage used resp⟩
  | finish => exact settled_of_not_pending id settled.paired

theorem Settled.set (settled : Settled s) {i : Nat} (there : s.opened[i]? = some se)
    (after : se'.Settled) : ∀ x ∈ s.opened.set i se', x.Settled :=
  (Slots.forall_mem_set_iff se' settled there).2 after

theorem Settled.moves (settled : Settled s) (inv : Inv s) (guard : Guard s l)
    (moves : Moves md5 s l t) : Settled t := by
  cases moves with
  | visitor m transporter sid =>
      intro se inside
      rcases List.mem_append.1 inside with old | new
      · exact settled se old
      · cases List.mem_singleton.1 new
        exact settled_of_not_pending id fun _ _ sent => by cases sent
  | @visit i v se se' there visited =>
      have inside := List.mem_of_getElem? there
      refine settled.set there
        ((settled se inside).visited (inv.sessions se inside) ?_ visited)
      rintro rfl cm held
      exact guard se cm there held
  | miss => exact settled
  | client => exact settled
  | @writeMsg h call se calls there stage =>
      have before := settled se (List.mem_of_getElem? there)
      refine settled.set there ⟨before.transporter, ?_, before.cResp, before.paired⟩
      intro err cm clientMsg failed used held
      cases held
      exact guard call se cm err calls there failed used
  | @writeTransporter h call se calls there stage =>
      have before := settled se (List.mem_of_getElem? there)
      refine settled.set there ⟨?_, before.failed, before.cResp, before.paired⟩
      intro pending cm used
      rw [guard call se cm calls there pending used]
  | @notify h call se calls there stage =>
      have before := settled se (List.mem_of_getElem? there)
      exact settled.set there ⟨before.transporter, before.failed, before.cResp, before.paired⟩

theorem Settled.paired (settled : Settled s) : Paired s := fun se inside =>
  (settled se inside).paired

/-! ## Responses that go elsewhere -/

/-- A session that sent the response over this transporter, and for what it holds now if
`analysis` has failed. -/
def SentOver (se : Session) (transporter : Nat) (u : Session) : Prop :=
  u.cm = se.cm ∧ ∃ resp, (transporter, resp) ∈ u.cSent ∧
    ∀ err clientMsg, se.stage = .failed err → se.clientMsg = some clientMsg →
      resp.transactionID = clientMsg.msg.transactionID

theorem canReach_send {vLeft : Bool} {cResp : Resp} {transporter : Nat}
    (stage : se.stage = .responding vLeft true) (resp : se.cResp = some cResp)
    (has : se.clientTransporter = some transporter) :
    CanReach (visit md5) (fun u => u.cm = se.cm ∧ (transporter, cResp) ∈ u.cSent) se := by
  have next : visit md5 se .sendClient = some { se with
      stage := .responding vLeft false
      cSent := se.cSent ++ [(transporter, cResp)] } := by
    simp only [visit, stage, resp, has]
  exact .of_step next (.here ⟨rfl, List.mem_append_right _ (List.mem_singleton.2 rfl)⟩)

/-- Once `analysis` has read the message, the response can be sent without another step
of a client. -/
theorem canReach_sentOver (inv : se.Inv) (pending : se.stage.Pending) {transporter : Nat}
    (has : se.clientTransporter = some transporter) :
    CanReach (visit md5) (SentOver se transporter) se := by
  cases stage : se.stage with
  | handing => rw [stage] at pending; exact pending.elim
  | waiting => rw [stage] at pending; exact pending.elim
  | notified => rw [stage] at pending; exact pending.elim
  | ended => rw [stage] at pending; exact pending.elim
  | classified c v =>
      obtain ⟨cm, used⟩ := Option.isSome_iff_exists.1 (inv.used pending)
      obtain ⟨clientMsg, held⟩ := Option.isSome_iff_exists.1
        (inv.held (.inr (by rw [stage]; trivial))).1
      have next := show visit md5 se (.recommand 0 0) = some _ by
        simp only [visit, stage, used, held]
        rfl
      refine .of_step next (CanReach.trans (canReach_send rfl rfl has) ?_)
      rintro u ⟨same, sent⟩
      refine .here ⟨same.trans used.symm, _, sent, ?_⟩
      intro err _ failed
      cases stage.symm.trans failed
  | failed err =>
      obtain ⟨clientMsg, held⟩ := Option.isSome_iff_exists.1
        (inv.held (.inr (by rw [stage]; trivial))).1
      have next := show visit md5 se .genErrors = some _ by
        simp only [visit, stage, held]
        rfl
      refine .of_step next (CanReach.trans (canReach_send rfl rfl has) ?_)
      rintro u ⟨same, sent⟩
      refine .here ⟨same, _, sent, ?_⟩
      intro _ clientMsg' _ held'
      cases held.symm.trans held'
      rfl
  | responding vLeft cLeft =>
      cases cLeft with
      | false => rw [stage] at pending; exact pending.elim
      | true =>
          obtain ⟨cResp, resp⟩ := Option.isSome_iff_exists.1 (inv.cResp vLeft true stage)
          refine (canReach_send stage resp has).trans ?_
          rintro u ⟨same, sent⟩
          refine .here ⟨same, _, sent, ?_⟩
          intro err _ failed
          cases stage.symm.trans failed

/-- What `HandleVisitor` can do with a session it can do among all of them. -/
theorem canReach_opened {goal : Session → Prop} {i : Nat} (there : s.opened[i]? = some se)
    (reach : CanReach (visit md5) goal se) :
    CanReach (step md5) (fun u => ∃ se ∈ u.opened, goal se) s := by
  obtain ⟨vs, u, run, reached⟩ := reach
  induction vs generalizing s se with
  | nil =>
      cases run
      exact .here ⟨_, List.mem_of_getElem? there, reached⟩
  | cons v vs ih =>
      obtain ⟨se', first, rest⟩ := exec_cons_eq_some.1 run
      have next : step md5 s (.visit i v) = some (s.put i se') := by
        simp only [step, there, Option.bind_some, first, Option.map_some]
      exact .of_step next (ih (Slots.set_self there) rest)

/-- A session whose response can only go elsewhere. -/
def Session.Lost (se : Session) : Prop :=
  se.stage.Pending ∧ ∃ cm, se.cm = some cm ∧ (se.clientTransporter ≠ some cm.transporter ∨
    ∃ err clientMsg, se.stage = .failed err ∧ se.clientMsg = some clientMsg ∧
      clientMsg.msg.transactionID ≠ cm.msg.transactionID)

theorem not_paired_of_lost (inv : Inv t) {i : Nat} (there : t.opened[i]? = some se)
    (lost : se.Lost) : CanReach (step md5) (fun u => ¬ Paired u) t := by
  obtain ⟨pending, cm, used, wrong⟩ := lost
  have own := inv.sessions se (List.mem_of_getElem? there)
  have woken : se.stage.Woken := by
    cases stage : se.stage <;> rw [stage] at pending <;> trivial
  obtain ⟨transporter, has⟩ := Option.isSome_iff_exists.1 (own.held (.inr woken)).2
  refine (canReach_opened there (canReach_sentOver own pending has)).trans ?_
  rintro u ⟨se', inside, same, resp, sent, decided⟩
  refine .here fun paired => ?_
  obtain ⟨cm', used', from_, transaction⟩ := paired se' inside transporter resp sent
  rw [same, used] at used'
  cases used'
  rcases wrong with other | ⟨err, clientMsg, failed, held, other⟩
  · exact other (has.trans (congrArg some from_))
  · exact other ((decided err clientMsg failed held).symm.trans transaction)

theorem not_paired_of_unguarded (inv : Inv s) (unguarded : ¬ Guard s l)
    (next : step md5 s l = some t) :
    ∃ more, ¬ Along (step md5) (fun _ _ t => Paired t) s (l :: more) := by
  have inv' := inv.moves (step_moves next)
  refine not_along_of_canReach next ?_
  cases step_moves next with
  | visitor => exact absurd trivial unguarded
  | miss => exact absurd trivial unguarded
  | client => exact absurd trivial unguarded
  | notify => exact absurd trivial unguarded
  | @visit i v se se' there visited =>
      refine not_paired_of_lost inv' (Slots.set_self there) ?_
      cases visited with
      | handSid | timeout | receive | recommand | genErrors | sendVisitor | sendClient | finish =>
          exact absurd trivial unguarded
      | @fail cm err stage held =>
          refine ⟨trivial, cm, rfl, .inl fun same => unguarded ?_⟩
          intro se'' cm' there' held'
          cases there.symm.trans there'
          cases held.symm.trans held'
          exact same
      | @classify cm c v stage held =>
          refine ⟨trivial, cm, rfl, .inl fun same => unguarded ?_⟩
          intro se'' cm' there' held'
          cases there.symm.trans there'
          cases held.symm.trans held'
          exact same
  | @writeMsg h call se calls there stage =>
      simp only [Guard, not_forall] at unguarded
      obtain ⟨call', se', cm, err, calls', there', failed, used, other⟩ := unguarded
      cases calls.symm.trans calls'
      cases there.symm.trans there'
      refine not_paired_of_lost inv' (Slots.set_self there) ⟨?_, cm, used, .inr ?_⟩
      · show se.stage.Pending
        rw [failed]
        trivial
      · exact ⟨err, call.arrival, failed, rfl, other⟩
  | @writeTransporter h call se calls there stage =>
      simp only [Guard, not_forall] at unguarded
      obtain ⟨call', se', cm, calls', there', pending, used, other⟩ := unguarded
      cases calls.symm.trans calls'
      cases there.symm.trans there'
      refine not_paired_of_lost inv' (Slots.set_self there) ⟨pending, cm, used, .inl ?_⟩
      intro same
      exact other (Option.some.inj same)

end Steps

/-- **A session sends at most one response to each party, and the visitor's own to the
visitor; and the client's goes where the message that was used came from** in the runs in
which a session holds a message with its transporter when `analysis` reads, and no other is
written in before the response is sent.  Any other step leads to a response that goes
elsewhere. -/
theorem responses_paired (md5 : GoString → GoString) :
    (∀ ls, Along (step md5) (fun _ _ t => Once t) start ls) ∧
    (∀ ls, Along (step md5) (fun s l _ => Guard s l) start ls →
      Along (step md5) (fun _ _ t => Paired t) start ls) ∧
    ∀ ls s l t, Along (step md5) (fun s l _ => Guard s l) start ls →
      exec (step md5) start ls = some s → ¬ Guard s l → step md5 s l = some t →
        ∃ more, ¬ Along (step md5) (fun _ _ t => Paired t) start (ls ++ l :: more) := by
  have kept : ∀ s l t, Inv s ∧ Settled s → Guard s l → step md5 s l = some t →
      Inv t ∧ Settled t := fun _ _ _ inv guard next =>
    ⟨inv.1.moves (step_moves next), inv.2.moves inv.1 guard (step_moves next)⟩
  have tight := strengthen_and_tight (fun s : State => Inv s ∧ Settled s) kept
    (fun _ _ _ inv guard next => (inv.2.moves inv.1 guard (step_moves next)).paired)
    (fun _ _ _ inv unguarded next => not_paired_of_unguarded inv.1 unguarded next)
    ⟨start_inv, fun _ none => absurd none List.not_mem_nil⟩
  refine ⟨fun ls => ?_, fun ls => (tight ls).1, fun ls => (tight ls).2⟩
  exact Along.strengthen Inv (fun _ _ _ inv _ next => inv.moves (step_moves next))
    (fun _ _ _ inv _ next => (inv.moves (step_moves next)).once) start_inv
    (along_of_forall (fun _ _ _ => trivial) _ ls)

/-! ## A late message -/

def visitorMsg : NatHoleVisitor :=
  ⟨"v1", "p2p_tcp", false, .lit "quic", "", 0, [.lit "192.0.2.1:4000", .lit "192.0.2.1:4000"], []⟩

/-- The messages of the proxy and of another control that knows the sid. -/
def clientMsg (transactionID : String) : NatHoleClient :=
  ⟨transactionID, "p2p_tcp", "sid", [.lit "192.0.2.7:5000", .lit "192.0.2.7:5000"], []⟩

/-- The other control sends the sid while the first message is answered. -/
def lateClient : List Label :=
  [.visitor visitorMsg 1 "sid", .visit 0 (.handSid false),
    .client (clientMsg "c1") 2, .writeMsg 0, .writeTransporter 0, .notify 0,
    .visit 0 .receive, .visit 0 .analysis, .visit 0 (.recommand 0 0),
    .client (clientMsg "c2") 3, .writeMsg 1, .writeTransporter 1, .visit 0 .sendClient]

theorem late_client_gets_response :
    ¬ Along (step id) (fun _ _ t => Paired t) start lateClient := by
  have run : (exec (step id) start lateClient).map (fun s =>
      s.opened.map fun se => (se.cm.map Arrival.transporter, se.cSent.map Prod.fst)) =
        some [(some 2, [3])] := by
    decide +kernel
  obtain ⟨s, done, found⟩ := Option.map_eq_some_iff.1 run
  intro along
  have paired : Paired s := along.last done
  obtain ⟨se, rest, opened, first, -⟩ := List.map_eq_cons_iff.1 found
  obtain ⟨used, sent⟩ := Prod.mk.inj first
  obtain ⟨cm, is_cm, from_⟩ := Option.map_eq_some_iff.1 used
  obtain ⟨⟨transporter, resp⟩, sentRest, cSent, carried, -⟩ := List.map_eq_cons_iff.1 sent
  have inside : se ∈ s.opened := by
    rw [opened]
    exact List.mem_cons_self
  obtain ⟨cm', is_cm', same, -⟩ := paired se inside transporter resp (by
    rw [cSent]
    exact List.mem_cons_self)
  rw [is_cm] at is_cm'
  cases is_cm'
  have clash : 3 = 2 := carried.symm.trans (same.trans from_)
  cases clash

end ChmlFrp.Nathole.Responses
