/-
# ChmlFrp.Server.Visitor — who may visit an stcp or sudp proxy

`server/visitor/visitor.go`, and `GetAuthKey` of `pkg/util/util/util.go`.  The md5 hash
is a parameter.

* `newConn_ok_iff`: a visitor connection is put on the listener of a proxy iff the
  visitor is admitted by the proxy's key and `allowUsers`.
-/
import ChmlFrp.Lib.GoMap

namespace ChmlFrp.Server.Visitor

set_option autoImplicit false

open ChmlFrp.Lib

/-- `GetAuthKey`, where `hash` is the md5 sum of a string in hex. -/
def getAuthKey (hash : String → String) (token : String) (timestamp : Int) : String :=
  hash (token ++ toString timestamp)

/-- The user is allowed. -/
def Allows (allowUsers : List String) (user : String) : Prop :=
  user ∈ allowUsers ∨ "*" ∈ allowUsers

instance (allowUsers : List String) (user : String) : Decidable (Allows allowUsers user) :=
  inferInstanceAs (Decidable (_ ∨ _))

/-- The user is allowed, and the key was made with the secret of the proxy. -/
def Admits (hash : String → String) (sk : String) (allowUsers : List String) (user : String)
    (timestamp : Int) (signKey : String) : Prop :=
  Allows allowUsers user ∧ signKey = getAuthKey hash sk timestamp

structure ListenerBundle where
  /-- The listener; which one it is. -/
  l : Nat
  sk : String
  allowUsers : List String
  deriving DecidableEq, Repr

abbrev Manager := GoMap String ListenerBundle

inductive ConnError where
  | authFailed (name : String)
  | userNotAllowed (name user : String)
  | createEncryption (err : String)
  | putConn (err : String)
  | doesNotExist (name : String)
  deriving DecidableEq, Repr

def ConnError.text : ConnError → String
  | .authFailed name => "visitor connection of [" ++ name ++ "] auth failed"
  | .userNotAllowed name user =>
      "visitor connection of [" ++ name ++ "] user [" ++ user ++ "] not allowed"
  | .createEncryption err => "create encryption connection failed: " ++ err
  | .putConn err => err
  | .doesNotExist name => "custom listener for [" ++ name ++ "] doesn't exist"

/-- `Manager.Listen`; `none` is the error for a repeated name. -/
def listen (vm : Manager) (name sk : String) (allowUsers : List String) (l : Nat) :
    Option Manager :=
  match vm.get name with
  | some _ => none
  | none => some (vm.set name ⟨l, sk, allowUsers⟩)

def closeListener (vm : Manager) (name : String) : Manager := vm.delete name

/-- `Manager.NewConn`: the listener that gets the connection.  `encryption` and
`putConn` are the outcomes of wrapping the connection and of `PutConn`. -/
def newConn (hash : String → String) (vm : Manager) (name : String) (timestamp : Int)
    (signKey : String) (useEncryption : Bool) (visitorUser : String)
    (encryption putConn : Except String Unit) : Except ConnError Nat :=
  match vm.get name with
  | none => .error (.doesNotExist name)
  | some l =>
      if getAuthKey hash l.sk timestamp ≠ signKey then .error (.authFailed name)
      else if ¬ Allows l.allowUsers visitorUser then .error (.userNotAllowed name visitorUser)
      else
        match useEncryption, encryption with
        | true, .error err => .error (.createEncryption err)
        | _, _ =>
            match putConn with
            | .error err => .error (.putConn err)
            | .ok () => .ok l.l

/-- The relay admits exactly the visitors with the key that `allowUsers` lets in. -/
theorem newConn_ok_iff (hash : String → String) (vm : Manager) (name : String)
    (timestamp : Int) (signKey : String) (useEncryption : Bool) (visitorUser : String) (l : Nat) :
    newConn hash vm name timestamp signKey useEncryption visitorUser (.ok ()) (.ok ()) = .ok l ↔
      ∃ bundle, vm.get name = some bundle ∧ bundle.l = l ∧
        Admits hash bundle.sk bundle.allowUsers visitorUser timestamp signKey := by
  unfold newConn
  cases listening : vm.get name with
  | none => simp
  | some bundle =>
      simp only [Option.some.injEq, exists_eq_left']
      split
      · rename_i forged
        simp only [reduceCtorEq, Admits, false_iff, not_and]
        intro _ _ valid
        exact forged valid.symm
      · rename_i valid
        rw [not_not] at valid
        split
        · rename_i refused
          simp [Admits, refused]
        · rename_i allowed
          rw [not_not] at allowed
          cases useEncryption <;> simp [Admits, allowed, valid]

end ChmlFrp.Server.Visitor
