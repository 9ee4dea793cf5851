/-
# ChmlFrp.Vhost.Muxer — the muxer of the https and tcpmux proxies

`pkg/util/vhost/vhost.go`.  `Muxer.handle` reads the request of an accepted connection,
finds the listener, runs the success hook, checks the user and hands the connection to
the listener's `Accept`, in this order.  The three hooks are fields of the muxer; which
operations on the connection fail is an argument.
-/
import ChmlFrp.Lib.GoMap
import ChmlFrp.Lib.GoString
import ChmlFrp.Vhost.Router

namespace ChmlFrp.Vhost

set_option autoImplicit false

universe u

open ChmlFrp.Lib

structure Listener where
  name : GoString
  location : GoString
  routeByHTTPUser : GoString
  username : GoString
  password : GoString
  deriving DecidableEq, Repr

/-- What `vhostFunc` reports of a request. -/
abbrev ReqInfo := GoMap GoString GoString

/-- `reqInfoMap[key]` -/
def ReqInfo.at (info : ReqInfo) (key : GoString) : GoString := (info.get key).getD []

/-- What the operations on one connection come to. -/
structure ConnEnv where
  setDeadline : Bool
  write : Bool
  clearDeadline : Bool
  /-- An `Accept` takes the connection before the listener is closed. -/
  accepted : Bool
  deriving DecidableEq, Repr

inductive Event where
  | write (statusCode : Nat)
  | close
  | deliver (l : Listener)
  deriving DecidableEq, Repr

/-- A response; nothing of it reaches the client if the write fails. -/
def ConnEnv.respond (env : ConnEnv) (statusCode : Nat) : List Event :=
  if env.write then [.write statusCode] else []

structure Muxer (ρ : Type u) where
  vhostFunc : ρ → Option ReqInfo
  checkAuth : Option (ConnEnv → GoString → GoString → ReqInfo → List Event × Bool)
  successHook : Option (ConnEnv → ReqInfo → List Event × Bool)
  registryRouter : Routers Listener

namespace Muxer

variable {ρ : Type u} (unicode : GoString → GoString) (v : Muxer ρ)

/-- `getListener` -/
def getListener (name path httpUser : GoString) : Option Listener :=
  (v.registryRouter.search name path httpUser).map Router.payload

/-- The listener that `handle` finds for a request. -/
def selected (info : ReqInfo) : Option Listener :=
  v.getListener (GoString.toLower unicode (info.at (GoString.lit "Host")))
    (GoString.toLower unicode (info.at (GoString.lit "Path")))
    (info.at (GoString.lit "HTTPUser"))

def runSuccessHook (env : ConnEnv) (info : ReqInfo) : List Event × Bool :=
  match v.successHook with
  | some hook => hook env info
  | none => ([], true)

/-- The check is made if there is a function for it and the listener has a user name. -/
def runCheckAuth (env : ConnEnv) (l : Listener) (info : ReqInfo) : List Event × Bool :=
  match v.checkAuth with
  | some auth => if l.username ≠ [] then auth env l.username l.password info else ([], true)
  | none => ([], true)

/-- `Muxer.handle`: what happens on the connection. -/
def handle (env : ConnEnv) (req : ρ) : List Event :=
  if !env.setDeadline then [.close]
  else
    match v.vhostFunc req with
    | none => [.close]
    | some info =>
        match v.selected unicode info with
        | none => env.respond 404 ++ [.close]
        | some l =>
            let (said, success) := v.runSuccessHook env info
            if !success then said ++ [.close]
            else
              let (checked, ok) := v.runCheckAuth env l info
              if !ok then said ++ checked ++ [.close]
              else if !env.clearDeadline then said ++ checked ++ [.close]
              else said ++ checked ++ if env.accepted then [.deliver l] else []

variable {unicode} {v}

/-- What `handle` does once it has found a listener. -/
theorem handle_of_selected {env : ConnEnv} {req : ρ} {info : ReqInfo} {l : Listener}
    (deadline : env.setDeadline = true) (read : v.vhostFunc req = some info)
    (found : v.selected unicode info = some l) :
    v.handle unicode env req =
      (v.runSuccessHook env info).1 ++
        if (v.runSuccessHook env info).2 then
          (v.runCheckAuth env l info).1 ++
            if (v.runCheckAuth env l info).2 ∧ env.clearDeadline then
              if env.accepted then [.deliver l] else []
            else [.close]
        else [.close] := by
  rw [handle, deadline, read]
  simp only [found, Bool.not_true, Bool.false_eq_true, if_false]
  cases (v.runSuccessHook env info).2 with
  | false => rfl
  | true =>
      cases (v.runCheckAuth env l info).2 with
      | false => simp
      | true => cases env.clearDeadline <;> simp

end Muxer

end ChmlFrp.Vhost
