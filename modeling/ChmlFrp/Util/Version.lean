/-
# ChmlFrp.Util.Version — the oldest client that is let in

`pkg/util/version/version.go`.  A version is cut at its dots and a part that is no number
counts as 0.  The versions of this program begin with its name and end with a date, so of
the three parts only the one in the middle is ever read.

* `compat_exact_iff`: the check is the order of versions, but of the program's own only
  those with protocol 0 or with 18 or more in the middle.
* `own_version_refused`: version 1.0.0 of the program counts as 0.0.0.
-/
import ChmlFrp.Lib.Decimal
import Mathlib.Data.Prod.Lex
import Mathlib.Order.Nat

namespace ChmlFrp.Util.Version

set_option autoImplicit false

open ChmlFrp.Lib
open ChmlFrp.Lib.GoString

def getSubVersion (v : GoString) (position : Nat) : Int :=
  let arr := split v dot
  if arr.length < 3 then 0 else Strconv.parsedValue (arr.getD position [])

def proto (v : GoString) : Int := getSubVersion v 0
def major (v : GoString) : Int := getSubVersion v 1
def minor (v : GoString) : Int := getSubVersion v 2

def lessThan (client server : GoString) : Bool :=
  if proto client > proto server then false
  else if proto client < proto server then true
  else if major client > major server then false
  else if major client < major server then true
  else if minor client > minor server then false
  else if minor client < minor server then true
  else false

/-- `Compat`, with the message for the client that is refused. -/
def compat (client : GoString) : Bool × String :=
  if lessThan client (lit "0.18.0") then (false, "请将您的frpc版本至少升级到0.18.0") else (true, "")

example : (compat (lit "ChmlFrp-0.51.2_251023")).1 = true := by decide +kernel

/-! ## Versions as they are written -/

/-- How a version is written: with the name of the program and a date, or without. -/
inductive Form
  | plain
  | own
  deriving DecidableEq, Repr

def programName : GoString := lit "ChmlFrp-"
def underscore : UInt8 := 95

/-- `v` is the version `P.M.m`, written so. -/
def Written (form : Form) (v : GoString) (P M m : Nat) : Prop :=
  ∃ p q r date, Strconv.Decimal p P ∧ Strconv.Decimal q M ∧ Strconv.Decimal r m ∧
    P < 2 ^ 63 ∧ M < 2 ^ 63 ∧ m < 2 ^ 63 ∧
    v = match form with
      | .plain => p ++ dot :: (q ++ dot :: r)
      | .own => programName ++ p ++ dot :: (q ++ dot :: (r ++ underscore :: date))

/-- From `0.18.0` on, in the order of versions. -/
def AtLeast (P M m : Nat) : Prop :=
  toLex (0, toLex (18, 0)) ≤ toLex (P, toLex (M, m))

theorem atLeast_iff (P M m : Nat) : AtLeast P M m ↔ 0 < P ∨ 18 ≤ M := by
  unfold AtLeast
  simp only [Prod.Lex.le_iff, ofLex_toLex]
  omega

/-! ## The three parts -/

theorem dot_notMem {s : GoString} {n : Nat} (decimal : Strconv.Decimal s n) : dot ∉ s :=
  fun mem => absurd (decimal.digits dot mem) (by decide)

theorem getSubVersion_eq {v : GoString} {a b c : GoString} {more : List GoString}
    (parts : split v dot = a :: b :: c :: more) :
    proto v = Strconv.parsedValue a ∧ major v = Strconv.parsedValue b ∧
      minor v = Strconv.parsedValue c := by
  have long : ¬ (a :: b :: c :: more).length < 3 := by simp
  simp only [proto, major, minor, getSubVersion, parts, if_neg long]
  exact ⟨rfl, rfl, rfl⟩

/-- With a first part that has no dot, only what follows is cut. -/
theorem exists_split_append {s : GoString} (absent : dot ∉ s) (t : GoString) :
    ∃ u more, split (s ++ t) dot = (s ++ u) :: more := by
  unfold split
  by_cases mem : dot ∈ t
  · obtain ⟨x, y, rfl, absent'⟩ := List.eq_append_cons_of_mem mem
    refine ⟨x, y.splitOn dot, ?_⟩
    rw [← List.append_assoc, List.splitOn_append_cons_self_of_not_mem (by simp [absent, absent'])]
  · exact ⟨t, [], List.splitOn_eq_singleton (by simp [absent, mem])⟩

theorem parsedValue_programName (s : GoString) : Strconv.parsedValue (programName ++ s) = 0 := rfl

/-- Without the name every part counts, with it only the one in the middle. -/
theorem Written.parts {form : Form} {v : GoString} {P M m : Nat}
    (written : Written form v P M m) :
    proto v = (if form = .plain then (P : Int) else 0) ∧ major v = M ∧
      minor v = (if form = .plain then (m : Int) else 0) := by
  obtain ⟨p, q, r, date, isP, isM, ism, fitsP, fitsM, fitsm, rfl⟩ := written
  cases form with
  | plain =>
      have cut : split (p ++ dot :: (q ++ dot :: r)) dot = [p, q, r] := by
        unfold split
        rw [List.splitOn_append_cons_self_of_not_mem (dot_notMem isP),
          List.splitOn_append_cons_self_of_not_mem (dot_notMem isM),
          List.splitOn_eq_singleton (dot_notMem ism)]
      obtain ⟨first, second, third⟩ := getSubVersion_eq cut
      simp only [first, second, third, isP.parsedValue_eq fitsP, isM.parsedValue_eq fitsM,
        ism.parsedValue_eq fitsm, if_true, and_self]
  | own =>
      have clear : dot ∉ r ++ [underscore] := by
        have other : dot ≠ underscore := by decide
        simp [dot_notMem ism, other]
      have clear' : dot ∉ programName ++ p := by
        have other : dot ∉ programName := by decide
        simp [other, dot_notMem isP]
      obtain ⟨u, more, last⟩ := exists_split_append clear date
      have cut : split (programName ++ p ++ dot :: (q ++ dot :: (r ++ underscore :: date))) dot =
          (programName ++ p) :: q :: (r ++ underscore :: u) :: more := by
        unfold split at last ⊢
        rw [List.append_assoc, List.singleton_append, List.append_assoc,
          List.singleton_append] at last
        rw [List.splitOn_append_cons_self_of_not_mem clear',
          List.splitOn_append_cons_self_of_not_mem (dot_notMem isM), last]
      obtain ⟨first, second, third⟩ := getSubVersion_eq cut
      have trailing : Strconv.parsedValue (r ++ underscore :: u) = 0 :=
        Strconv.parsedValue_trailing ism fitsm (by decide) u
      simp only [first, second, third, parsedValue_programName, isM.parsedValue_eq fitsM, trailing,
        reduceCtorEq, if_false, and_self]

/-! ## The check -/

theorem server_parts :
    proto (lit "0.18.0") = 0 ∧ major (lit "0.18.0") = 18 ∧ minor (lit "0.18.0") = 0 := by
  decide +kernel

theorem lessThan_eq_false_iff (client server : GoString) :
    lessThan client server = false ↔
      proto server < proto client ∨ proto client = proto server ∧
        (major server < major client ∨ major client = major server ∧
          minor server ≤ minor client) := by
  unfold lessThan
  split_ifs <;> simp only [true_iff, false_iff] <;> omega

theorem compat_iff (client : GoString) :
    (compat client).1 = true ↔
      0 < proto client ∨ proto client = 0 ∧ (18 < major client ∨
        major client = 18 ∧ 0 ≤ minor client) := by
  obtain ⟨protoServer, majorServer, minorServer⟩ := server_parts
  have order := lessThan_eq_false_iff client (lit "0.18.0")
  rw [protoServer, majorServer, minorServer] at order
  rw [← order, compat]
  cases lessThan client (lit "0.18.0") <;> simp

/-- What the check says of a version in either form. -/
theorem Written.compat_iff {form : Form} {v : GoString} {P M m : Nat}
    (written : Written form v P M m) :
    (compat v).1 = true ↔ form = .plain ∧ 0 < P ∨ 18 ≤ M := by
  rw [Version.compat_iff, written.parts.1, written.parts.2.1, written.parts.2.2]
  cases form with
  | plain =>
      simp only [eq_self, if_true, true_and]
      omega
  | own =>
      simp
      omega

/-- **The check is the order of versions, but for the program's own versions below
protocol 1 or from 18 on in the middle only.** -/
theorem compat_exact_iff {form : Form} {v : GoString} {P M m : Nat}
    (written : Written form v P M m) :
    ((compat v).1 = true ↔ AtLeast P M m) ↔ (form = .plain ∨ P = 0 ∨ 18 ≤ M) := by
  rw [written.compat_iff, atLeast_iff]
  cases form with
  | plain => simp
  | own =>
      simp only [reduceCtorEq, false_and, false_or]
      omega

theorem written_own_1_0_0 : Written .own (lit "ChmlFrp-1.0.0_251023") 1 0 0 :=
  ⟨lit "1", lit "0", lit "0", lit "251023", ⟨by decide, by decide +kernel, by decide +kernel⟩,
    ⟨by decide, by decide +kernel, by decide +kernel⟩,
    ⟨by decide, by decide +kernel, by decide +kernel⟩, by decide, by decide, by decide, rfl⟩

theorem compat_exact_own_1_0_0 :
    ¬ ((compat (lit "ChmlFrp-1.0.0_251023")).1 = true ↔ AtLeast 1 0 0) := by
  rw [compat_exact_iff written_own_1_0_0]
  decide

/-- Version 1.0.0 of the program is refused, as if it were 0.0.0. -/
theorem own_version_refused :
    Written .own (lit "ChmlFrp-1.0.0_251023") 1 0 0 ∧ AtLeast 1 0 0 ∧
      (compat (lit "ChmlFrp-1.0.0_251023")).1 = false :=
  ⟨written_own_1_0_0, (atLeast_iff 1 0 0).2 (by decide), by decide +kernel⟩

end ChmlFrp.Util.Version
