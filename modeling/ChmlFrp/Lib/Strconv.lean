/-
# ChmlFrp.Lib.Strconv — reading decimal integers

`strconv.ParseInt(s, 10, 64)` of Go: an optional sign, then at least one digit, and a
value that fits.  The digits are read from the left, and the first byte that is not one,
or the first that makes the number too large, decides which error it is.

`parseInt_mem_range`: what is read fits, and is negative only behind a minus sign.
-/
import ChmlFrp.Lib.GoString
import Mathlib.Algebra.Group.Int.Defs
import Mathlib.Algebra.Group.Nat.Defs

namespace ChmlFrp.Lib

set_option autoImplicit false

/-- The `Err` of a `NumError`. -/
inductive NumError where
  | syntax_
  | range
  deriving DecidableEq, Repr

namespace Strconv

def maxUint64 : Nat := 2 ^ 64 - 1
def cutoff : Nat := 2 ^ 63

def digit (b : UInt8) : Option Nat := if 48 ≤ b ∧ b ≤ 57 then some (b.toNat - 48) else none

/-- The loop of `ParseUint` over the digits, with what is read so far. -/
def parseDigits (n : Nat) : GoString → Except NumError Nat
  | [] => .ok n
  | b :: s =>
      match digit b with
      | none => .error .syntax_
      | some d => if maxUint64 < 10 * n + d then .error .range else parseDigits (10 * n + d) s

/-- `strconv.ParseUint(s, 10, 64)` -/
def parseUint : GoString → Except NumError Nat
  | [] => .error .syntax_
  | s => parseDigits 0 s

def plus : UInt8 := 43
def minus : UInt8 := 45

/-- `strconv.ParseInt(s, 10, 64)` -/
def parseInt (s : GoString) : Except NumError Int :=
  let neg := s.head? == some minus
  let digits := if neg || s.head? == some plus then s.drop 1 else s
  match parseUint digits with
  | .error err => .error err
  | .ok un =>
      if neg = false ∧ cutoff ≤ un then .error .range
      else if neg = true ∧ cutoff < un then .error .range
      else .ok (if neg then -un else un)

example : parseInt (GoString.lit "+6000") = .ok 6000 := rfl

example : parseInt (GoString.lit "99999999999999999999x") = .error .range := rfl

/-- What is read fits into 64 bits, and is negative only behind a minus sign. -/
theorem parseInt_mem_range {s : GoString} {n : Int} (read : parseInt s = .ok n) :
    -2 ^ 63 ≤ n ∧ n < 2 ^ 63 ∧ (n < 0 → s.head? = some minus) := by
  unfold parseInt at read
  simp only at read
  split at read
  · cases read
  · rename_i un _
    split at read
    · cases read
    · rename_i small
      split at read
      · cases read
      · rename_i small'
        cases read
        unfold cutoff at small small'
        cases neg : s.head? == some minus with
        | true =>
            have bound : ¬ 2 ^ 63 < un := fun large => small' ⟨neg, large⟩
            simp only [if_true]
            exact ⟨by omega, by omega, fun _ => by simpa using neg⟩
        | false =>
            have bound : ¬ 2 ^ 63 ≤ un := fun large => small ⟨neg, large⟩
            simp only [Bool.false_eq_true, if_false]
            exact ⟨by omega, by omega, fun less => by omega⟩

end Strconv

end ChmlFrp.Lib
