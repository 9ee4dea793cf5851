/-
# ChmlFrp.System.Registration — one proxy name on both ends of a control

The client's `Wrapper` (`client/proxy/proxy_wrapper.go`) and the server's
`manager` loop (`server/control.go`), joined by one FIFO channel per direction.
The server answers every `NewProxy` with a `NewProxyResp` that names the proxy
and carries no request id, so a wrapper in "wait start" applies whatever answer
arrives first, also one to a request it has since withdrawn or repeated.

`Misleads` is that moment: an answer is applied although the server no longer
holds what it says, or a request still on its way can change it.

* `registration_agreement`: as long as no applied answer misleads, both ends
  agree whenever both channels are empty; and every answer that misleads can
  still lead to a quiet state in which they do not.
* `closed_wrapper_stays_registered`: the wrapper closes on the error to its first
  request while its second request succeeds.
-/
import ChmlFrp.Client.Wrapper
import ChmlFrp.Lib.Transition

namespace ChmlFrp.System.Registration

set_option autoImplicit false

open ChmlFrp.Client
open ChmlFrp.Lib.Transition

/-! ## The two ends and the channels -/

structure NewProxyResp where
  proxyName : String
  remoteAddr : String
  error : String
  deriving DecidableEq, Repr

structure State where
  pw : Wrapper
  /-- The wrapper is in the client manager's `proxies`; `Reload` takes it out
  before it stops it. -/
  managed : Bool
  /-- The time and the health flag `checkWorker` read and has not acted on yet. -/
  worker : Option (Nat × Nat)
  toServer : List ProxyMsg
  toClient : List NewProxyResp
  /-- The server's `ctl.proxies` has the name. -/
  registered : Bool
  deriving DecidableEq, Repr

def start (monitored : Bool) : State where
  pw := newWrapper monitored
  managed := true
  worker := none
  toServer := []
  toClient := []
  registered := false

inductive Label where
  | load (now : Nat)
  | act
  | healthNormal
  | healthFailed
  | newProxyResp (runErr : Option String)
  | stop
  /-- The server takes the next request.  `outcome` is what `RegisterProxy`, or
  the plugins before it, would answer to a name that is free. -/
  | serve (outcome : Except String String)

/-- `util.GenerateResponseErrorString` -/
def generateResponseErrorString (summary err : String) (detailed : Bool) : String :=
  if detailed then err else summary

/-- The server's configuration, as far as this conversation depends on it, and
the proxy's name. -/
structure Config where
  proxyName : String
  detailedErrorsToClient : Bool

namespace Config

variable (cfg : Config)

def respond (outcome : Except String String) : NewProxyResp :=
  match outcome with
  | .ok remoteAddr => ⟨cfg.proxyName, remoteAddr, ""⟩
  | .error err => ⟨cfg.proxyName, "", generateResponseErrorString
      ("new proxy [" ++ cfg.proxyName ++ "] error") err cfg.detailedErrorsToClient⟩

/-- A name that is registered is refused, whatever else is wrong with the request. -/
def registerProxy (registered : Bool) (outcome : Except String String) : Except String String :=
  if registered then
    .error ("proxy [" ++ cfg.proxyName ++ "] already exists")
  else outcome

def serve (s : State) (outcome : Except String String) : Option State :=
  match s.toServer with
  | [] => none
  | .newProxy :: rest =>
      let result := cfg.registerProxy s.registered outcome
      some { s with
        toServer := rest
        toClient := s.toClient ++ [cfg.respond result]
        registered := s.registered || result.isOk }
  | .closeProxy :: rest => some { s with toServer := rest, registered := false }

def step (s : State) : Label → Option State
  | .load now =>
      if s.worker = none then some { s with worker := some (now, s.pw.health) } else none
  | .act =>
      match s.worker with
      | none => none
      | some (now, health) =>
          let (pw, msgs) := s.pw.checkWorker now health
          some { s with pw := pw, worker := none, toServer := s.toServer ++ msgs }
  | .healthNormal =>
      if s.pw.monitored then some { s with pw := s.pw.statusNormalCallback } else none
  | .healthFailed =>
      if s.pw.monitored then some { s with pw := s.pw.statusFailedCallback } else none
  | .newProxyResp runErr =>
      match s.toClient with
      | [] => none
      | resp :: rest =>
          if s.managed then
            let (pw, msgs, _) := s.pw.setRunningStatus resp.remoteAddr resp.error runErr
            some { s with pw := pw, toClient := rest, toServer := s.toServer ++ msgs }
          else some { s with toClient := rest }
  | .stop =>
      if s.managed then
        let (pw, msgs) := s.pw.stop
        some { s with pw := pw, managed := false, toServer := s.toServer ++ msgs }
      else none
  | .serve outcome => cfg.serve s outcome

end Config

/-- No message is in flight in either direction. -/
def Quiet (s : State) : Prop := s.toServer = [] ∧ s.toClient = []

def Agree (s : State) : Prop := s.pw.phase = .running ↔ s.registered = true

/-- The answer about to be applied misleads the waiting wrapper: it reports an
error though the name is registered or another `NewProxy` is on its way, or it
reports success though the name is not registered or a `CloseProxy` is. -/
def Misleads (s : State) : Label → Prop
  | .newProxyResp runErr =>
      s.managed = true ∧ s.pw.phase = .waitStart ∧ ∃ resp ∈ s.toClient.head?,
        (resp.error ≠ "" ∧ (s.registered = true ∨ .newProxy ∈ s.toServer)) ∨
        (resp.error = "" ∧ runErr = none ∧
          (s.registered = false ∨ .closeProxy ∈ s.toServer))
  | _ => False

instance (s : State) (l : Label) : Decidable (Misleads s l) :=
  match l with
  | .newProxyResp _ => inferInstanceAs (Decidable (_ ∧ _))
  | .load _ | .act | .healthNormal | .healthFailed | .stop | .serve _ =>
      inferInstanceAs (Decidable False)

/-! ## What the server's steps keep -/

/-- The last request on its way closes the proxy, or none is and the name is free. -/
def Settled (s : State) : Prop :=
  s.toServer.getLast? = some .closeProxy ∨ s.toServer = [] ∧ s.registered = false

/-- The wrapper's last request is on its way, or an answer is. -/
def Awaiting (s : State) : Prop :=
  s.toServer.getLast? = some .newProxy ∨ s.toServer = [] ∧ s.toClient ≠ []

/-- The name is registered and no request on its way closes it. -/
def Held (s : State) : Prop := s.registered = true ∧ .closeProxy ∉ s.toServer

section Serve

variable {cfg : Config} {s t : State} {outcome : Except String String}

theorem serve_cases (next : cfg.serve s outcome = some t) :
    t.pw = s.pw ∧ t.managed = s.managed ∧ ∃ m rest, s.toServer = m :: rest ∧ t.toServer = rest ∧
      (m = .closeProxy ∧ t.registered = false ∧ t.toClient = s.toClient ∨
        m = .newProxy ∧ t.registered = (s.registered || outcome.isOk) ∧ t.toClient ≠ []) := by
  unfold Config.serve at next
  split at next
  · cases next
  · rename_i rest queue
    cases next
    refine ⟨rfl, rfl, _, rest, queue, rfl, .inr ⟨rfl, ?_, by simp⟩⟩
    cases taken : s.registered <;> simp [Config.registerProxy]
  · rename_i rest queue
    cases next
    exact ⟨rfl, rfl, _, rest, queue, rfl, .inl ⟨rfl, rfl, rfl⟩⟩

theorem serve_settled (settled : Settled s) (next : cfg.serve s outcome = some t) :
    Settled t := by
  obtain ⟨-, -, m, rest, queue, queue', effect⟩ := serve_cases next
  unfold Settled at settled ⊢
  rw [queue'] at *
  rw [queue] at settled
  cases rest with
  | nil =>
      rcases effect with ⟨-, free, -⟩ | ⟨rfl, -, -⟩
      · exact .inr ⟨rfl, free⟩
      · simp at settled
  | cons m' rest => simpa using settled

theorem serve_awaiting (awaiting : Awaiting s) (next : cfg.serve s outcome = some t) :
    Awaiting t := by
  obtain ⟨-, -, m, rest, queue, queue', effect⟩ := serve_cases next
  unfold Awaiting at awaiting ⊢
  rw [queue'] at *
  rw [queue] at awaiting
  cases rest with
  | nil =>
      rcases effect with ⟨rfl, -, -⟩ | ⟨-, -, answered⟩
      · simp at awaiting
      · exact .inr ⟨rfl, answered⟩
  | cons m' rest => simpa using awaiting

theorem serve_held (held : Held s) (next : cfg.serve s outcome = some t) : Held t := by
  obtain ⟨-, -, m, rest, queue, queue', effect⟩ := serve_cases next
  obtain ⟨registered, noClose⟩ := held
  rw [queue, List.mem_cons, not_or] at noClose
  rcases effect with ⟨rfl, -, -⟩ | ⟨-, keeps, -⟩
  · exact absurd rfl noClose.1
  · exact ⟨by simp [keeps, registered], by rw [queue']; exact noClose.2⟩

end Serve

/-! ## The invariant of runs in which no answer misleads -/

def Coherent (s : State) : Prop :=
  match s.pw.phase with
  | .new => s.toServer = [] ∧ s.toClient = [] ∧ s.registered = false
  | .waitStart => Awaiting s
  | .startErr => False
  | .running => Held s
  | .checkFailed | .closed => Settled s

/-- A wrapper that is out of the manager has been stopped. -/
def Retired (s : State) : Prop := s.managed = false → s.pw.phase = .closed

theorem settled_of_closeProxy {s : State} {q : List ProxyMsg}
    (sent : s.toServer = q ++ [.closeProxy]) : Settled s :=
  .inl (by simp [sent])

theorem awaiting_of_newProxy {s : State} {q : List ProxyMsg}
    (sent : s.toServer = q ++ [.newProxy]) : Awaiting s :=
  .inl (by simp [sent])

theorem coherent_agree {s : State} (coherent : Coherent s) (quiet : Quiet s) : Agree s := by
  obtain ⟨noRequest, noAnswer⟩ := quiet
  unfold Coherent at coherent
  unfold Agree
  cases phase : s.pw.phase <;> simp only [phase] at coherent
  case new => simp [coherent.2.2]
  case waitStart => simp [Awaiting, noRequest, noAnswer] at coherent
  case running => simp [coherent.1]
  case checkFailed | closed => simpa [Settled, noRequest] using coherent

/-- An answer that is applied and does not mislead leaves both ends coherent. -/
theorem setRunningStatus_coherent {s t : State} {resp : NewProxyResp} {rest : List NewProxyResp}
    {runErr : Option String} (managed : s.managed = true) (waiting : s.pw.phase = .waitStart)
    (queue : s.toClient = resp :: rest) (truthful : ¬ Misleads s (.newProxyResp runErr))
    (pw : t.pw = (s.pw.setRunningStatus resp.remoteAddr resp.error runErr).1)
    (sent : t.toServer =
      s.toServer ++ (s.pw.setRunningStatus resp.remoteAddr resp.error runErr).2.1)
    (registered : t.registered = s.registered) : Coherent t := by
  by_cases error : resp.error = ""
  · rw [error] at pw sent
    cases runErr with
    | some e =>
        rw [Wrapper.setRunningStatus_runErr waiting] at pw sent
        simpa [Coherent, pw] using settled_of_closeProxy sent
    | none =>
        rw [Wrapper.setRunningStatus_ok waiting] at pw sent
        have held : Held s := by
          simpa [Misleads, managed, waiting, queue, error, Held] using truthful
        simpa [Coherent, pw, Held, sent, registered] using held
  · rw [Wrapper.setRunningStatus_error waiting error] at pw sent
    have free : s.registered = false ∧ .newProxy ∉ s.toServer := by
      simpa [Misleads, managed, waiting, queue, error] using truthful
    have settled : Settled t := by
      unfold Settled
      rw [sent, registered, List.append_nil]
      cases last : s.toServer.getLast? with
      | none => exact .inr ⟨List.getLast?_eq_none_iff.1 last, free.1⟩
      | some m =>
          cases m with
          | closeProxy => exact .inl rfl
          | newProxy => exact absurd (List.mem_of_getLast? last) free.2
    simpa [Coherent, pw] using settled

/-- The check worker does nothing, sends a `NewProxy` or sends a `CloseProxy`. -/
theorem act_cases {cfg : Config} {s t : State} (next : cfg.step s .act = some t) :
    t = { s with worker := none } ∨
    (s.pw.phase ≠ .closed ∧ ∃ now, t = { s with
      pw := { s.pw with phase := .waitStart, lastSendStartMsg := now }
      worker := none
      toServer := s.toServer ++ [.newProxy] }) ∨
    ((s.pw.phase = .running ∨ s.pw.phase = .waitStart) ∧ t = { s with
      pw := { s.pw with phase := .checkFailed }
      worker := none
      toServer := s.toServer ++ [.closeProxy] }) := by
  simp only [Config.step] at next
  split at next
  · cases next
  · rename_i now health _
    cases next
    rcases s.pw.checkWorker_cases now health with same | ⟨-, alive, act⟩ | ⟨busy, act⟩
    · exact .inl (by simp [same])
    · exact .inr (.inl ⟨alive, now, by simp [act]⟩)
    · exact .inr (.inr ⟨busy, by simp [act]⟩)

theorem step_coherent (cfg : Config) (s : State) (l : Label) (t : State)
    (inv : Coherent s ∧ Retired s) (truthful : ¬ Misleads s l)
    (next : cfg.step s l = some t) : Coherent t ∧ Retired t := by
  obtain ⟨coherent, retired⟩ := inv
  cases l with
  | load now =>
      simp only [Config.step, Option.ite_none_right_eq_some] at next
      obtain ⟨-, ⟨⟩⟩ := next
      exact ⟨coherent, retired⟩
  | act =>
      obtain rfl | ⟨alive, now, rfl⟩ | ⟨busy, rfl⟩ := act_cases next
      · exact ⟨coherent, retired⟩
      · exact ⟨awaiting_of_newProxy rfl, fun out => absurd (retired out) alive⟩
      · refine ⟨settled_of_closeProxy rfl, fun out => ?_⟩
        rw [retired out] at busy
        simp at busy
  | healthNormal =>
      simp only [Config.step, Option.ite_none_right_eq_some] at next
      obtain ⟨-, ⟨⟩⟩ := next
      exact ⟨coherent, retired⟩
  | healthFailed =>
      simp only [Config.step, Option.ite_none_right_eq_some] at next
      obtain ⟨-, ⟨⟩⟩ := next
      exact ⟨coherent, retired⟩
  | newProxyResp runErr =>
      simp only [Config.step] at next
      split at next
      · cases next
      · rename_i resp rest queue
        split at next
        · rename_i managed
          cases next
          refine ⟨?_, fun out => by simp [managed] at out⟩
          by_cases waiting : s.pw.phase = .waitStart
          · exact setRunningStatus_coherent managed waiting queue truthful rfl rfl rfl
          · simp only [Wrapper.setRunningStatus_ignored waiting, List.append_nil]
            revert coherent
            cases phase : s.pw.phase <;> simp_all [Coherent, Held, Settled]
        · rename_i out
          cases next
          have closed := retired (by simpa using out)
          refine ⟨?_, retired⟩
          simpa [Coherent, closed, Settled] using coherent
  | stop =>
      simp only [Config.step, Option.ite_none_right_eq_some] at next
      obtain ⟨-, ⟨⟩⟩ := next
      exact ⟨settled_of_closeProxy rfl, fun _ => rfl⟩
  | serve outcome =>
      obtain ⟨pw, managed, m, rest, queue, -⟩ := serve_cases next
      refine ⟨?_, by simpa [Retired, pw, managed] using retired⟩
      unfold Coherent at coherent ⊢
      rw [pw]
      cases phase : s.pw.phase <;> simp only [phase] at coherent
      case new => simp [queue] at coherent
      case waitStart => exact serve_awaiting coherent next
      case running => exact serve_held coherent next
      case checkFailed | closed => exact serve_settled coherent next

/-! ## Where an answer that misleads can lead -/

/-- What holds of every run: a waiting wrapper has a request or an answer coming. -/
def Waits (s : State) : Prop := (s.pw.phase = .waitStart → Awaiting s) ∧ Retired s

theorem setRunningStatus_phase_ne {pw : Wrapper} (waiting : pw.phase = .waitStart)
    (remoteAddr respErr : String) (runErr : Option String) :
    (pw.setRunningStatus remoteAddr respErr runErr).1.phase ≠ .waitStart := by
  unfold Wrapper.setRunningStatus
  rw [if_neg (not_not.2 waiting)]
  split
  · simp
  · cases runErr <;> simp

theorem step_waits (cfg : Config) (s : State) (l : Label) (t : State) (inv : Waits s)
    (next : cfg.step s l = some t) : Waits t := by
  obtain ⟨awaits, retired⟩ := inv
  cases l with
  | load now =>
      simp only [Config.step, Option.ite_none_right_eq_some] at next
      obtain ⟨-, ⟨⟩⟩ := next
      exact ⟨awaits, retired⟩
  | act =>
      obtain rfl | ⟨alive, now, rfl⟩ | ⟨busy, rfl⟩ := act_cases next
      · exact ⟨awaits, retired⟩
      · exact ⟨fun _ => awaiting_of_newProxy rfl, fun out => absurd (retired out) alive⟩
      · refine ⟨fun waiting => by simp at waiting, fun out => ?_⟩
        rw [retired out] at busy
        simp at busy
  | healthNormal =>
      simp only [Config.step, Option.ite_none_right_eq_some] at next
      obtain ⟨-, ⟨⟩⟩ := next
      exact ⟨awaits, retired⟩
  | healthFailed =>
      simp only [Config.step, Option.ite_none_right_eq_some] at next
      obtain ⟨-, ⟨⟩⟩ := next
      exact ⟨awaits, retired⟩
  | newProxyResp runErr =>
      simp only [Config.step] at next
      split at next
      · cases next
      · rename_i resp rest queue
        split at next
        · rename_i managed
          cases next
          refine ⟨fun waiting => ?_, fun out => by simp [managed] at out⟩
          by_cases before : s.pw.phase = .waitStart
          · exact absurd waiting (setRunningStatus_phase_ne before _ _ _)
          · rw [Wrapper.setRunningStatus_ignored before] at waiting
            exact absurd waiting before
        · rename_i out
          cases next
          have closed := retired (by simpa using out)
          exact ⟨fun waiting => by simp [closed] at waiting, retired⟩
  | stop =>
      simp only [Config.step, Option.ite_none_right_eq_some] at next
      obtain ⟨-, ⟨⟩⟩ := next
      exact ⟨fun waiting => by simp [Wrapper.stop] at waiting, fun _ => rfl⟩
  | serve outcome =>
      obtain ⟨pw, managed, -⟩ := serve_cases next
      refine ⟨fun waiting => ?_, by simpa [Retired, pw, managed] using retired⟩
      exact serve_awaiting (awaits (pw ▸ waiting)) next

/-- Once the wrapper no longer waits, the channels can be drained, every request
with the same outcome, without changing the wrapper. -/
theorem drain (cfg : Config) (outcome : Except String String) (keep : State → Prop)
    (served : ∀ s t, keep s → cfg.serve s outcome = some t → keep t)
    (received : ∀ s rest, keep s → keep { s with toClient := rest })
    {s : State} (kept : keep s) (settled : s.pw.phase ≠ .waitStart) :
    CanReach cfg.step (fun u => Quiet u ∧ u.pw = s.pw ∧ keep u) s := by
  refine canReach_of_measure (fun u => u.pw = s.pw ∧ keep u)
    (fun u => 2 * u.toServer.length + u.toClient.length) ?_ ⟨rfl, kept⟩
  rintro u ⟨same, kept⟩ busy
  cases requests : u.toServer with
  | cons m rest =>
      obtain ⟨t, next, shorter⟩ : ∃ t, cfg.serve u outcome = some t ∧
          2 * t.toServer.length + t.toClient.length <
            2 * u.toServer.length + u.toClient.length := by
        cases m <;> simp only [Config.serve, requests, Option.some.injEq, exists_eq_left',
          List.length_cons, List.length_append, List.length_nil] <;> omega
      obtain ⟨pw, -⟩ := serve_cases next
      exact ⟨.serve outcome, t, next, ⟨pw.trans same, served u t kept next⟩,
        by simpa [requests] using shorter⟩
  | nil =>
      cases answers : u.toClient with
      | nil => exact absurd ⟨⟨requests, answers⟩, same, kept⟩ busy
      | cons resp rest =>
          have notWaiting : u.pw.phase ≠ .waitStart := by rwa [same]
          have ignored :=
            Wrapper.setRunningStatus_ignored notWaiting resp.remoteAddr resp.error none
          refine ⟨.newProxyResp none, { u with toClient := rest }, ?_, ⟨same, received _ _ kept⟩,
            by simp [requests]⟩
          simp [Config.step, answers, ignored, requests]

/-- Granting every request from here on leaves the name registered. -/
def Takes (s : State) : Prop :=
  s.toServer.getLast? = some .newProxy ∨ s.toServer = [] ∧ s.registered = true

/-- Refusing every request from here on leaves the name free. -/
def Loses (s : State) : Prop := s.registered = false ∨ .closeProxy ∈ s.toServer

theorem serve_takes {cfg : Config} {s t : State} {addr : String} (takes : Takes s)
    (next : cfg.serve s (.ok addr) = some t) : Takes t := by
  obtain ⟨-, -, m, rest, queue, queue', effect⟩ := serve_cases next
  unfold Takes at takes ⊢
  rw [queue'] at *
  rw [queue] at takes
  cases rest with
  | nil =>
      rcases effect with ⟨rfl, -, -⟩ | ⟨-, granted, -⟩
      · simp at takes
      · exact .inr ⟨rfl, by simp [granted, Except.isOk, Except.toBool]⟩
  | cons m' rest => simpa using takes

theorem serve_loses {cfg : Config} {s t : State} {e : String} (loses : Loses s)
    (next : cfg.serve s (.error e) = some t) : Loses t := by
  obtain ⟨-, -, m, rest, queue, queue', effect⟩ := serve_cases next
  rcases effect with ⟨-, free, -⟩ | ⟨rfl, refused, -⟩
  · exact .inl free
  · unfold Loses at loses ⊢
    rw [queue', refused]
    simpa [queue, Except.isOk, Except.toBool] using loses

theorem newProxyResp_effect {cfg : Config} {s t : State} {runErr : Option String}
    {resp : NewProxyResp} {rest : List NewProxyResp} (managed : s.managed = true)
    (queue : s.toClient = resp :: rest)
    (next : cfg.step s (.newProxyResp runErr) = some t) :
    t.pw = (s.pw.setRunningStatus resp.remoteAddr resp.error runErr).1 ∧
      t.toServer =
        s.toServer ++ (s.pw.setRunningStatus resp.remoteAddr resp.error runErr).2.1 ∧
      t.registered = s.registered := by
  simp only [Config.step, queue, managed, if_true, Option.some.injEq] at next
  subst next
  exact ⟨rfl, rfl, rfl⟩

/-- A wrapper that closed on an error, and requests that can still be granted. -/
theorem refused_disagrees {cfg : Config} {t : State} (closed : t.pw.phase = .closed)
    (takes : Takes t) : CanReach cfg.step (fun u => Quiet u ∧ ¬ Agree u) t := by
  obtain ⟨ls, u, run, quiet, pw, takes⟩ := drain cfg (.ok "") Takes
    (fun _ _ => serve_takes) (fun _ _ => id) takes (by simp [closed])
  have taken : u.registered = true := by simpa [Takes, quiet.1] using takes
  exact ⟨ls, u, run, quiet, by simp [Agree, pw, closed, taken]⟩

/-- A wrapper that runs on a success, and a name that can still be lost. -/
theorem granted_disagrees {cfg : Config} {t : State} (running : t.pw.phase = .running)
    (loses : Loses t) : CanReach cfg.step (fun u => Quiet u ∧ ¬ Agree u) t := by
  obtain ⟨ls, u, run, quiet, pw, loses⟩ := drain cfg (.error "refused") Loses
    (fun _ _ => serve_loses) (fun _ _ => id) loses (by simp [running])
  have free : u.registered = false := by simpa [Loses, quiet.1] using loses
  exact ⟨ls, u, run, quiet, by simp [Agree, pw, running, free]⟩

theorem misled_disagrees {cfg : Config} {s t : State} {l : Label} (inv : Waits s)
    (misleads : Misleads s l) (next : cfg.step s l = some t) :
    CanReach cfg.step (fun u => Quiet u ∧ ¬ Agree u) t := by
  cases l with
  | newProxyResp runErr =>
      obtain ⟨managed, waiting, resp, first, cause⟩ := misleads
      obtain ⟨rest, queue⟩ : ∃ rest, s.toClient = resp :: rest := by
        cases answers : s.toClient <;> simp_all
      obtain ⟨pw, sent, registered⟩ := newProxyResp_effect managed queue next
      rcases cause with ⟨error, stale⟩ | ⟨noError, rfl, stale⟩
      · rw [Wrapper.setRunningStatus_error waiting error] at pw sent
        apply refused_disagrees (by simp [pw])
        unfold Takes
        rw [sent, registered, List.append_nil]
        exact (inv.1 waiting).imp_right fun ⟨empty, _⟩ => ⟨empty, by simpa [empty] using stale⟩
      · rw [noError, Wrapper.setRunningStatus_ok waiting] at pw sent
        apply granted_disagrees (by simp [pw])
        simpa [Loses, sent, registered] using stale
  | _ => exact misleads.elim

/-! ## Agreement -/

theorem start_coherent (monitored : Bool) :
    Coherent (start monitored) ∧ Retired (start monitored) := by
  refine ⟨?_, fun out => nomatch out⟩
  simp [Coherent, start, newWrapper]

theorem start_waits (monitored : Bool) : Waits (start monitored) :=
  ⟨fun waiting => by simp [start, newWrapper] at waiting, (start_coherent monitored).2⟩

/-- **Both ends agree in every quiet state of a run in which no applied answer
misleads**; and an answer that misleads, in whatever run, can be continued to a
quiet state in which they do not. -/
theorem registration_agreement (cfg : Config) (monitored : Bool) :
    (∀ ls s, exec cfg.step (start monitored) ls = some s →
      Along cfg.step (fun s l _ => ¬ Misleads s l) (start monitored) ls →
      Quiet s → Agree s) ∧
    (∀ s l t, Reachable cfg.step (start monitored) s → cfg.step s l = some t → Misleads s l →
      CanReach cfg.step (fun u => Quiet u ∧ ¬ Agree u) t) := by
  constructor
  · intro ls s run truthful quiet
    have inv := invariant_of_along (fun s => Coherent s ∧ Retired s)
      (step_coherent cfg) (start_coherent monitored) truthful run
    exact coherent_agree inv.1 quiet
  · intro s l t reached next misleads
    have waits : Waits s := reached.invariant (step_waits cfg) (start_waits monitored)
    exact misled_disagrees waits misleads next

/-- The end of a first start that the server grants. -/
def granted : State :=
  { start false with
    pw := { newWrapper false with
      phase := .running, remoteAddr := ":6000", lastSendStartMsg := 1 }
    registered := true }

theorem registration_agreement_granted : Agree granted :=
  (registration_agreement ⟨"web", true⟩ false).1
    [.load 1, .act, .serve (.ok ":6000"), .newProxyResp none] granted (by decide)
    (by decide) ⟨rfl, rfl⟩

/-- The wrapper repeats its request after the timeout.  The server fails the first
request and grants the second; the wrapper closes on the first answer, for good,
and ignores the second, so its proxy stays registered. -/
def abandoned : State :=
  { start false with
    pw := { newWrapper false with
      phase := .closed, err := "work connection error",
      lastSendStartMsg := waitResponseTimeout + 2 }
    registered := true }

theorem closed_wrapper_stays_registered :
    exec (Config.step ⟨"web", true⟩) (start false)
        [.load 1, .act, .load (waitResponseTimeout + 2), .act,
          .serve (.error "work connection error"), .serve (.ok ":6000"),
          .newProxyResp none, .newProxyResp none] = some abandoned ∧
      Quiet abandoned ∧ ¬ Agree abandoned := by
  refine ⟨by decide, ⟨rfl, rfl⟩, ?_⟩
  simp [Agree, abandoned]
end ChmlFrp.System.Registration
