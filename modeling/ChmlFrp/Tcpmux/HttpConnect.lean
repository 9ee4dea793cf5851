/-
# ChmlFrp.Tcpmux.HttpConnect — CONNECT requests to the tcpmux proxies

`pkg/util/tcpmux/httpconnect.go`: the three hooks that make a `Muxer` of the CONNECT
muxer.  The muxer calls `sendConnectResponse` before `auth`, and `auth` only for a
listener with a user name.

* `handle_protects_iff`: when a request without the credentials of its listener gets
  neither the 200 response nor the listener.
* `wrong_credentials_answered`: a wrong password is answered with 200 first, and a
  listener with a password alone is not protected at all.
-/
import ChmlFrp.Util.Http
import ChmlFrp.Vhost.Muxer

namespace ChmlFrp.Tcpmux

set_option autoImplicit false

open ChmlFrp.Lib
open ChmlFrp.Util
open ChmlFrp.Vhost

/-- What `http.ReadRequest` reads. -/
structure ConnectRequest where
  method : GoString
  host : GoString
  /-- Empty if the header is absent. -/
  proxyAuthorization : GoString
  deriving DecidableEq, Repr

section Hooks

variable (unicode : GoString → GoString) (passthrough : Bool)

/-- `readHTTPConnectRequest`: host, user and password of a CONNECT request; `none` for
bytes that are no request. -/
def readHTTPConnectRequest (rd : Option ConnectRequest) :
    Option (GoString × GoString × GoString) := do
  let req ← rd
  if req.method ≠ GoString.lit "CONNECT" then none
  else
    let (httpUser, httpPwd) :=
      if req.proxyAuthorization ≠ [] then basicAuth req.proxyAuthorization else ([], [])
    return (hostName unicode req.host, httpUser, httpPwd)

def getHostFromHTTPConnect (rd : Option ConnectRequest) : Option ReqInfo := do
  let (host, httpUser, httpPwd) ← readHTTPConnectRequest unicode rd
  return ((((∅ : ReqInfo).set (GoString.lit "Host") host).set (GoString.lit "Scheme")
    (GoString.lit "tcp")).set (GoString.lit "HTTPUser") httpUser).set (GoString.lit "HTTPPwd")
    httpPwd

def sendConnectResponse (env : ConnEnv) (_ : ReqInfo) : List Event × Bool :=
  if passthrough then ([], true) else (env.respond 200, env.write)

def auth (env : ConnEnv) (username password : GoString) (reqInfo : ReqInfo) :
    List Event × Bool :=
  let reqUsername := reqInfo.at (GoString.lit "HTTPUser")
  let reqPassword := reqInfo.at (GoString.lit "HTTPPwd")
  if username = reqUsername ∧ password = reqPassword then ([], true)
  else (env.respond 407, false)

/-- `NewHTTPConnectTCPMuxer`, with the listeners that are registered by now. -/
def newHTTPConnectTCPMuxer (registryRouter : Routers Listener) :
    Muxer (Option ConnectRequest) where
  vhostFunc := getHostFromHTTPConnect unicode
  checkAuth := some auth
  successHook := some (sendConnectResponse passthrough)
  registryRouter := registryRouter

end Hooks

/-! ## Which requests get past the credentials -/

/-- The listener has an `http_user` or an `http_pwd`. -/
def Protected (l : Listener) : Prop := l.username ≠ [] ∨ l.password ≠ []

/-- The request names the user and the password of the listener. -/
def Authorized (l : Listener) (info : ReqInfo) : Prop :=
  info.at (GoString.lit "HTTPUser") = l.username ∧ info.at (GoString.lit "HTTPPwd") = l.password

instance (l : Listener) (info : ReqInfo) : Decidable (Authorized l info) :=
  inferInstanceAs (Decidable (_ ∧ _))

section Safety

variable (unicode : GoString → GoString) (passthrough : Bool)
  (registryRouter : Routers Listener)

/-- The request is for a protected listener and does not have its credentials. -/
def Intrudes (rd : Option ConnectRequest) (l : Listener) : Prop :=
  ∃ info, getHostFromHTTPConnect unicode rd = some info ∧
    (newHTTPConnectTCPMuxer unicode passthrough registryRouter).selected unicode info = some l ∧
    Protected l ∧ ¬ Authorized l info

/-- An intruder is never answered with 200 and never reaches the listener. -/
def Protects (env : ConnEnv) (rd : Option ConnectRequest) : Prop :=
  ∀ l, Intrudes unicode passthrough registryRouter rd l →
    Event.write 200 ∉ (newHTTPConnectTCPMuxer unicode passthrough registryRouter).handle
        unicode env rd ∧
      Event.deliver l ∉ (newHTTPConnectTCPMuxer unicode passthrough registryRouter).handle
        unicode env rd

/-- The check turns an intruder away if it is made at all. -/
theorem runCheckAuth_intruder {env : ConnEnv} {l : Listener} {info : ReqInfo}
    (unauthorized : ¬ Authorized l info) :
    (newHTTPConnectTCPMuxer unicode passthrough registryRouter).runCheckAuth env l info =
      if l.username ≠ [] then (env.respond 407, false) else ([], true) := by
  have differs : ¬ (l.username = info.at (GoString.lit "HTTPUser") ∧
      l.password = info.at (GoString.lit "HTTPPwd")) :=
    fun same => unauthorized ⟨same.1.symm, same.2.symm⟩
  show (if l.username ≠ [] then auth env l.username l.password info else ([], true)) = _
  rw [auth, if_neg differs]

/-- What happens on the connection of an intruder. -/
theorem handle_intruder {env : ConnEnv} {rd : Option ConnectRequest} {l : Listener}
    (deadline : env.setDeadline = true)
    (intrudes : Intrudes unicode passthrough registryRouter rd l) :
    (newHTTPConnectTCPMuxer unicode passthrough registryRouter).handle unicode env rd =
      if passthrough = false ∧ env.write = false then [.close]
      else
        (if passthrough then [] else [.write 200]) ++
          if l.username ≠ [] then env.respond 407 ++ [.close]
          else if env.clearDeadline then if env.accepted then [.deliver l] else []
          else [.close] := by
  obtain ⟨info, read, found, -, unauthorized⟩ := intrudes
  rw [Muxer.handle_of_selected deadline read found, runCheckAuth_intruder _ _ _ unauthorized]
  show (sendConnectResponse passthrough env info).1 ++
    (if (sendConnectResponse passthrough env info).2 then _ else _) = _
  unfold sendConnectResponse
  cases passthrough with
  | true => by_cases anonymous : l.username = [] <;> simp [anonymous]
  | false =>
      cases writes : env.write with
      | false => simp [ConnEnv.respond, writes]
      | true => by_cases anonymous : l.username = [] <;> simp [anonymous, ConnEnv.respond, writes]

/-- **The muxer protects its listeners from a request iff**, should that be an
intruder, the deadline cannot be set or the 200 response cannot be written, or in
passthrough mode the listener has a user name or is not reached after all. -/
theorem handle_protects_iff (env : ConnEnv) (rd : Option ConnectRequest) :
    Protects unicode passthrough registryRouter env rd ↔
      ∀ l, Intrudes unicode passthrough registryRouter rd l →
        env.setDeadline = false ∨ (passthrough = false ∧ env.write = false) ∨
          (passthrough = true ∧
            (l.username ≠ [] ∨ env.clearDeadline = false ∨ env.accepted = false)) := by
  refine forall_congr' fun l => imp_congr_right ?_
  intro intrudes
  cases deadline : env.setDeadline with
  | false =>
      have closed : (newHTTPConnectTCPMuxer unicode passthrough registryRouter).handle unicode
          env rd = [.close] := by
        rw [Muxer.handle, deadline]
        rfl
      rw [closed]
      simp
  | true =>
      rw [handle_intruder unicode passthrough registryRouter deadline intrudes]
      cases passthrough with
      | true =>
          by_cases anonymous : l.username = []
          · cases env.clearDeadline <;> cases env.accepted <;> simp [anonymous]
          · cases writes : env.write <;> simp [anonymous, ConnEnv.respond, writes]
      | false => cases writes : env.write <;> simp

end Safety

/-- A muxer with one listener, for all hosts. -/
def oneListener (username password : GoString) : Routers Listener :=
  (newRouters.add Routers.star [] [] ⟨Routers.star, [], [], username, password⟩).getD newRouters

/-- "test" with the password "invalid". -/
def wrongPassword : ConnectRequest where
  method := GoString.lit "CONNECT"
  host := GoString.lit "normal.example.com:80"
  proxyAuthorization := GoString.lit "Basic dGVzdDppbnZhbGlk"

theorem wrong_credentials_answered :
    ¬ Protects id false (oneListener (GoString.lit "test") (GoString.lit "test"))
        ⟨true, true, true, true⟩ (some wrongPassword) ∧
      ¬ Protects id true (oneListener [] (GoString.lit "test")) ⟨true, true, true, true⟩
        (some wrongPassword) := by
  constructor
  · intro protects
    refine (protects _ ⟨_, rfl, rfl, .inl ?_, ?_⟩).1 ?_
    · decide
    · decide
    · decide
  · intro protects
    refine (protects _ ⟨_, rfl, rfl, .inr ?_, ?_⟩).2 ?_
    · decide
    · decide
    · decide

end ChmlFrp.Tcpmux
