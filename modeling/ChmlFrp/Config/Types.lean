/-
# ChmlFrp.Config.Types — the bandwidth quantity and the settings of the server

`pkg/config/types.go`, and the fields of `ServerCommonConf` that the checks of a proxy
read.  `ParseFloat` and the product with the unit, converted to an int64, are an argument.

* `newBandwidthQuantity_s`: a quantity that was built is built again from its text.
-/
import ChmlFrp.Lib.GoString

namespace ChmlFrp.Config

set_option autoImplicit false

open ChmlFrp.Lib

def MB : Nat := 1024 * 1024
def KB : Nat := 1024

def bandwidthLimitModeClient : GoString := GoString.lit "client"

structure BandwidthQuantity where
  /-- The text, without the spaces around it. -/
  s : GoString := []
  /-- The bytes. -/
  i : Int := 0
  deriving DecidableEq, Repr

structure ServerCommonConf where
  vhostHTTPPort : Int
  vhostHTTPSPort : Int
  tcpMuxHTTPConnectPort : Int
  subDomainHost : GoString
  deriving DecidableEq, Repr

namespace BandwidthQuantity

def string (q : BandwidthQuantity) : GoString := q.s

section Parse

variable (parse : GoString → Nat → Except GoString Int)

/-- The text of a quantity in the given unit. -/
def parseUnit (s : GoString) (base : Nat) : Except GoString BandwidthQuantity :=
  match parse (s.take (s.length - 2)) base with
  | .ok i => .ok ⟨s, i⟩
  | .error err => .error err

/-- `UnmarshalString`, on a quantity that is not set yet. -/
def unmarshalString (s : GoString) : Except GoString BandwidthQuantity :=
  let s := GoString.trimSpace s
  if s = [] then .ok {}
  else if GoString.hasSuffix s (GoString.lit "MB") then parseUnit parse s MB
  else if GoString.hasSuffix s (GoString.lit "KB") then parseUnit parse s KB
  else .error (GoString.lit "unit not support")

/-- `NewBandwidthQuantity`: the quantity, which is not set if there is an error. -/
def newBandwidthQuantity (s : GoString) : BandwidthQuantity × Option GoString :=
  match unmarshalString parse s with
  | .ok q => (q, none)
  | .error err => ({}, some err)

variable {parse}

theorem parseUnit_s {s : GoString} {base : Nat} {q : BandwidthQuantity}
    (parsed : parseUnit parse s base = .ok q) : q.s = s := by
  unfold parseUnit at parsed
  split at parsed
  · cases parsed
    rfl
  · cases parsed

/-- The text of a quantity is the trimmed text that it was read from, unless that is empty. -/
theorem unmarshalString_s {s : GoString} {q : BandwidthQuantity}
    (read : unmarshalString parse s = .ok q) : q = {} ∨ q.s = GoString.trimSpace s := by
  unfold unmarshalString at read
  dsimp only at read
  split at read
  · cases read
    exact .inl rfl
  · split at read
    · exact .inr (parseUnit_s read)
    · split at read
      · exact .inr (parseUnit_s read)
      · cases read

theorem unmarshalString_trimSpace (s : GoString) :
    unmarshalString parse (GoString.trimSpace s) = unmarshalString parse s := by
  unfold unmarshalString
  rw [GoString.trimSpace_trimSpace]

/-- **Bandwidth.** A quantity is built again from its text, and has an empty text only
if it is not set. -/
theorem newBandwidthQuantity_s (s : GoString) :
    let q := (newBandwidthQuantity parse s).1
    if q.s = [] then q = {} else (newBandwidthQuantity parse q.s).1 = q := by
  unfold newBandwidthQuantity
  cases read : unmarshalString parse s with
  | error err => rfl
  | ok q =>
      show if q.s = [] then q = {} else (newBandwidthQuantity parse q.s).1 = q
      rcases unmarshalString_s read with rfl | text
      · rfl
      · split
        · rename_i empty
          rw [text] at empty
          unfold unmarshalString at read
          simp only [empty, if_true, Except.ok.injEq] at read
          exact read.symm
        · rw [text, newBandwidthQuantity, unmarshalString_trimSpace, read]

end Parse

end BandwidthQuantity

end ChmlFrp.Config
