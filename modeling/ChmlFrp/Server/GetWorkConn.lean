/-
# ChmlFrp.Server.GetWorkConn — the pool size and the loop over the pool

`NewControl` of `server/control.go` sizes the channel of the work connections by the pool
count of the login, and `GetWorkConnFromPool` of `server/proxy/proxy.go` tries as many of
them, plus one.  The count is an `int` that the client sends.  It is bounded from above
only, so that the channel may not be made and the loop may not run.

In the loop the error of the write is a variable of its own, and the result keeps the one
of `getWorkConnFn`, which is nil there.

* `pool_size_safe_iff`: no panic and no nil connection exactly for a count of at least 0
  whose channel fits.
* `tells_truth_iff`: the error is true to the connection exactly if some round does not
  end with a failed write.
-/
import ChmlFrp.Lib.Chan
import ChmlFrp.Lib.Strconv

namespace ChmlFrp.Server.GetWorkConn

set_option autoImplicit false

open ChmlFrp.Lib
open ChmlFrp.Lib.GoString (splitHostPort)

/-! ## The channel -/

structure Runtime where
  /-- The largest buffer of connections that `make` accepts; it panics for others. -/
  maxChan : Nat
  fits : maxChan < 2 ^ 63

/-- `make(chan net.Conn, size)` -/
def Runtime.makeChan (rt : Runtime) (size : Int64) : Option (Chan Nat) :=
  if 0 ≤ size.toInt ∧ size.toInt ≤ rt.maxChan then some (.make size.toInt.toNat) else none

structure Control where
  poolCount : Int64
  workConnCh : Chan Nat
  deriving DecidableEq

/-- `NewControl`, for the pool; `none` is a panic. -/
def newControl (rt : Runtime) (loginPoolCount maxPoolCount : Int64) : Option Control :=
  let poolCount := if maxPoolCount < loginPoolCount then maxPoolCount else loginPoolCount
  (rt.makeChan (poolCount + 10)).map fun ch => ⟨poolCount, ch⟩

/-! ## The loop -/

structure StartWorkConn where
  proxyName : GoString
  srcAddr : GoString := []
  dstAddr : GoString := []
  srcPort : UInt16 := 0
  dstPort : UInt16 := 0
  error : GoString := []
  deriving DecidableEq, Repr

/-- The first result of `strconv.Atoi`. -/
def atoi (s : GoString) : Int :=
  match Strconv.parseInt s with
  | .ok n => n
  | .error .syntax_ => 0
  | .error .range => if s.head? = some Strconv.minus then -2 ^ 63 else 2 ^ 63 - 1

/-- Host and port of an address, if there is one. -/
def addrParts (addr : Option GoString) : GoString × UInt16 :=
  match addr.map splitHostPort with
  | some (.ok (host, port)) => (host, UInt16.ofInt (atoi port))
  | _ => ([], 0)

def startWorkConn (name : GoString) (src dst : Option GoString) : StartWorkConn where
  proxyName := name
  srcAddr := (addrParts src).1
  srcPort := (addrParts src).2
  dstAddr := (addrParts dst).1
  dstPort := (addrParts dst).2
  error := []

/-- What a round of the loop meets. -/
inductive Round where
  /-- `getWorkConnFn` returns an error. -/
  | noConn (err : String)
  | writeFails (err : String)
  | written
  deriving DecidableEq

def Round.Fails : Round → Prop
  | .writeFails _ => True
  | _ => False

instance (r : Round) : Decidable r.Fails := by
  cases r <;> unfold Round.Fails <;> infer_instance

/-- What is done to a connection, which is named by the round that got it. -/
inductive Act where
  /-- `msg.WriteMsg`, and whether it succeeds. -/
  | start (conn : Nat) (m : StartWorkConn) (ok : Bool)
  | close (conn : Nat)
  deriving DecidableEq

structure Result where
  workConn : Option Nat
  err : Option String
  acts : List Act
  deriving DecidableEq

/-- The rounds of the loop that are left, from the `i`-th one. -/
def tryAll (m : StartWorkConn) (rounds : Nat → Round) : Nat → Nat → Result → Result
  | 0, _, r => r
  | left + 1, i, r =>
      match rounds i with
      | .noConn err => { r with workConn := none, err := some err }
      | .writeFails _ =>
          tryAll m rounds left (i + 1)
            ⟨some i, none, r.acts ++ [.start i m false, .close i]⟩
      | .written => ⟨some i, none, r.acts ++ [.start i m true]⟩

/-- How often `i < pxy.poolCount+1` holds. -/
def attempts (poolCount : Int64) : Nat := (poolCount + 1).toInt.toNat

/-- `GetWorkConnFromPool` -/
def getWorkConnFromPool (name : GoString) (poolCount : Int64) (src dst : Option GoString)
    (rounds : Nat → Round) : Result :=
  tryAll (startWorkConn name src dst) rounds (attempts poolCount) 0 ⟨none, none, []⟩

/-- The writes that fail and the closes that follow them. -/
def failures (m : StartWorkConn) : Nat → Nat → List Act
  | _, 0 => []
  | i, k + 1 => .start i m false :: .close i :: failures m (i + 1) k

section Loop

variable {m : StartWorkConn} {rounds : Nat → Round}

theorem mem_start_failures {i k c : Nat} {m' : StartWorkConn} {ok : Bool} :
    Act.start c m' ok ∈ failures m i k ↔ m' = m ∧ ok = false ∧ i ≤ c ∧ c < i + k := by
  induction k generalizing i with
  | zero =>
      simp only [failures, List.not_mem_nil, false_iff]
      rintro ⟨-, -, low, high⟩
      exact absurd low (Nat.not_le.2 high)
  | succ k ih =>
      simp only [failures, List.mem_cons, Act.start.injEq, reduceCtorEq, false_or, ih]
      constructor
      · rintro (⟨rfl, rfl, rfl⟩ | ⟨rfl, rfl, low, high⟩)
        · exact ⟨rfl, rfl, by omega, by omega⟩
        · exact ⟨rfl, rfl, by omega, by omega⟩
      · rintro ⟨rfl, rfl, low, high⟩
        by_cases first : c = i
        · exact .inl ⟨first, rfl, rfl⟩
        · exact .inr ⟨rfl, rfl, by omega, by omega⟩

theorem mem_close_failures {i k c : Nat} :
    Act.close c ∈ failures m i k ↔ i ≤ c ∧ c < i + k := by
  induction k generalizing i with
  | zero =>
      simp only [failures, List.not_mem_nil, false_iff]
      omega
  | succ k ih =>
      simp only [failures, List.mem_cons, reduceCtorEq, false_or, Act.close.injEq, ih]
      omega

/-- The three ways the loop ends: no connection, a connection that is started, or a failed
write in every round, and then the error of the last `getWorkConnFn`. -/
theorem tryAll_cases (m : StartWorkConn) (rounds : Nat → Round) (left i : Nat) (r : Result) :
    (∃ k err, k < left ∧ (∀ j < k, (rounds (i + j)).Fails) ∧ rounds (i + k) = .noConn err ∧
      tryAll m rounds left i r = ⟨none, some err, r.acts ++ failures m i k⟩) ∨
    (∃ k, k < left ∧ (∀ j < k, (rounds (i + j)).Fails) ∧ rounds (i + k) = .written ∧
      tryAll m rounds left i r =
        ⟨some (i + k), none, r.acts ++ failures m i k ++ [.start (i + k) m true]⟩) ∨
    ((∀ j < left, (rounds (i + j)).Fails) ∧
      tryAll m rounds left i r =
        if left = 0 then r else ⟨some (i + left - 1), none, r.acts ++ failures m i left⟩) := by
  induction left generalizing i r with
  | zero => exact .inr (.inr ⟨fun j less => absurd less (Nat.not_lt_zero j), rfl⟩)
  | succ left ih =>
      cases here : rounds i with
      | noConn err =>
          refine .inl ⟨0, err, Nat.succ_pos left, fun j less => absurd less (Nat.not_lt_zero j),
            here, ?_⟩
          simp [tryAll, here, failures]
      | written =>
          refine .inr (.inl ⟨0, Nat.succ_pos left, fun j less => absurd less (Nat.not_lt_zero j),
            here, ?_⟩)
          simp [tryAll, here, failures]
      | writeFails err =>
          have failing : ∀ k, (∀ j < k, (rounds (i + 1 + j)).Fails) →
              ∀ j < k + 1, (rounds (i + j)).Fails := by
            intro k later j less
            cases j with
            | zero =>
                rw [Nat.add_zero, here]
                trivial
            | succ j =>
                rw [show i + (j + 1) = i + 1 + j by omega]
                exact later j (by omega)
          simp only [tryAll, here]
          rcases ih (i + 1) ⟨some i, none, r.acts ++ [.start i m false, .close i]⟩ with
            ⟨k, err', less, later, last, ends⟩ | ⟨k, less, later, last, ends⟩ | ⟨later, ends⟩
          · refine .inl ⟨k + 1, err', by omega, failing k later, ?_, ?_⟩
            · rw [show i + (k + 1) = i + 1 + k by omega]
              exact last
            · rw [ends]
              simp [failures]
          · refine .inr (.inl ⟨k + 1, by omega, failing k later, ?_, ?_⟩)
            · rw [show i + (k + 1) = i + 1 + k by omega]
              exact last
            · rw [ends, show i + (k + 1) = i + 1 + k by omega]
              simp [failures]
          · refine .inr (.inr ⟨failing left later, ?_⟩)
            rw [ends, if_neg (Nat.succ_ne_zero left)]
            cases left with
            | zero => simp [failures]
            | succ left =>
                have same : i + (left + 1 + 1) - 1 = i + 1 + (left + 1) - 1 := by omega
                rw [if_neg (Nat.succ_ne_zero left), same]
                simp [failures]

end Loop

theorem attempts_of_nonneg {poolCount : Int64} (low : 0 ≤ poolCount.toInt)
    (high : poolCount.toInt < 2 ^ 63 - 1) : (attempts poolCount : Int) = poolCount.toInt + 1 := by
  unfold attempts
  rw [Int64.toInt_add, Int64.toInt_one, Int.bmod_eq_of_le (by omega) (by omega)]
  omega

theorem attempts_le (poolCount : Int64) :
    (attempts poolCount : Int) ≤ max 0 (poolCount.toInt + 1) := by
  have low := poolCount.le_toInt
  have high := poolCount.toInt_lt
  unfold attempts
  rw [Int64.toInt_add, Int64.toInt_one]
  by_cases top : poolCount.toInt = 2 ^ 63 - 1
  · rw [top]
    decide
  · rw [Int.bmod_eq_of_le (by omega) (by omega)]
    omega

/-! ## What the callers rely on -/

def IsStartFailure : Act → Bool
  | .start _ _ ok => !ok
  | .close _ => false

/-- The error is nil exactly for an open connection to which `StartWorkConn` was written; a
connection on which the write failed is closed; and as many failed writes as the loop is to
try are an error. -/
structure TellsTruth (poolCount : Int64) (r : Result) : Prop where
  truth : r.err = none ↔
    ∃ conn m, r.workConn = some conn ∧ .close conn ∉ r.acts ∧ .start conn m true ∈ r.acts
  closed : ∀ conn m, .start conn m false ∈ r.acts → .close conn ∈ r.acts
  failed : (r.acts.countP IsStartFailure : Int) = poolCount.toInt + 1 → r.err ≠ none

theorem countP_failures {m : StartWorkConn} (i k : Nat) :
    (failures m i k).countP IsStartFailure = k := by
  induction k generalizing i with
  | zero => rfl
  | succ k ih => simp [failures, IsStartFailure, ih]

/-- **The result is true iff some round does not end with a failed write.** -/
theorem tells_truth_iff (name : GoString) (poolCount : Int64) (src dst : Option GoString)
    (rounds : Nat → Round) :
    TellsTruth poolCount (getWorkConnFromPool name poolCount src dst rounds) ↔
      ∃ i < attempts poolCount, ¬ (rounds i).Fails := by
  have bound := attempts_le poolCount
  unfold getWorkConnFromPool
  rcases tryAll_cases (startWorkConn name src dst) rounds (attempts poolCount) 0
      ⟨none, none, []⟩ with
    ⟨k, err, less, -, last, ends⟩ | ⟨k, less, -, last, ends⟩ | ⟨all, ends⟩
  · rw [Nat.zero_add] at last
    rw [ends]
    refine iff_of_true ⟨?_, ?_, ?_⟩ ⟨k, less, by rw [last]; exact not_false⟩
    · simp
    · intro conn m' failed
      rw [List.nil_append, mem_start_failures] at failed
      rw [List.nil_append, mem_close_failures]
      exact failed.2.2
    · intro _ none_
      cases none_
  · rw [Nat.zero_add] at last
    rw [ends]
    refine iff_of_true ⟨?_, ?_, ?_⟩ ⟨k, less, by rw [last]; exact not_false⟩
    · refine iff_of_true rfl ⟨k, startWorkConn name src dst, ?_, ?_, ?_⟩
      · rw [Nat.zero_add]
      · simp [mem_close_failures]
      · simp
    · intro conn m' failed
      simp only [List.nil_append, List.mem_append, mem_start_failures, List.mem_singleton,
        Act.start.injEq, Bool.false_eq_true, and_false, or_false] at failed
      simp only [List.nil_append, List.mem_append, mem_close_failures]
      exact .inl failed.2.2
    · intro count
      rw [List.nil_append, List.countP_append, countP_failures] at count
      simp only [List.countP_singleton, IsStartFailure, Bool.not_true, Bool.false_eq_true,
        if_false] at count
      have few : (k : Int) < attempts poolCount := by omega
      omega
  · refine iff_of_false ?_ ?_
    · intro told
      rw [ends] at told
      by_cases none_ : attempts poolCount = 0
      · rw [if_pos none_] at told
        obtain ⟨conn, m', some_, -⟩ := told.truth.1 rfl
        cases some_
      · rw [if_neg none_] at told
        obtain ⟨conn, m', -, -, started⟩ := told.truth.1 rfl
        rw [List.nil_append, mem_start_failures] at started
        exact absurd started.2.1 (by decide)
    · rintro ⟨i, less, goes⟩
      have fails := all i less
      rw [Nat.zero_add] at fails
      exact goes fails

/-- A pool of no connections: the one that is tried is broken. -/
theorem broken_conn_returned :
    ¬ TellsTruth 0 (getWorkConnFromPool (GoString.lit "ssh") 0 none none
      fun _ => .writeFails "broken pipe") := by
  have result : getWorkConnFromPool (GoString.lit "ssh") 0 none none
      (fun _ => .writeFails "broken pipe") =
        ⟨some 0, none, [.start 0 { proxyName := .lit "ssh" } false, .close 0]⟩ := by decide
  rw [result]
  intro told
  exact told.failed (by decide) rfl

/-! ## The size of the pool -/

theorem makeChan_isSome_iff {rt : Runtime} {size : Int64} :
    (rt.makeChan size).isSome ↔ 0 ≤ size.toInt ∧ size.toInt ≤ rt.maxChan := by
  unfold Runtime.makeChan
  split
  · rename_i fits
    exact iff_of_true rfl fits
  · rename_i small
    exact iff_of_false (by simp) small

theorem nil_result_iff {name : GoString} {poolCount : Int64} {src dst : Option GoString} :
    (∃ rounds, (getWorkConnFromPool name poolCount src dst rounds).workConn = none ∧
      (getWorkConnFromPool name poolCount src dst rounds).err = none) ↔ attempts poolCount = 0 := by
  constructor
  · rintro ⟨rounds, noConn, noErr⟩
    unfold getWorkConnFromPool at noConn noErr
    rcases tryAll_cases (startWorkConn name src dst) rounds (attempts poolCount) 0
      ⟨none, none, []⟩ with
      ⟨k, err, -, -, -, ends⟩ | ⟨k, -, -, -, ends⟩ | ⟨-, ends⟩
    · rw [ends] at noErr
      cases noErr
    · rw [ends] at noConn
      cases noConn
    · by_contra some_
      rw [ends, if_neg some_] at noConn
      cases noConn
  · intro none_
    refine ⟨fun _ => .written, ?_, ?_⟩
    · rw [getWorkConnFromPool, none_]
      rfl
    · rw [getWorkConnFromPool, none_]
      rfl

/-- The smaller of the login's pool count and the server's limit. -/
def bounded (loginPoolCount maxPoolCount : Int64) : Int :=
  min loginPoolCount.toInt maxPoolCount.toInt

theorem toInt_newControl (loginPoolCount maxPoolCount : Int64) :
    (if maxPoolCount < loginPoolCount then maxPoolCount else loginPoolCount).toInt =
      bounded loginPoolCount maxPoolCount := by
  unfold bounded
  split
  · rename_i less
    rw [Int64.lt_iff_toInt_lt] at less
    omega
  · rename_i less
    rw [Int64.lt_iff_toInt_lt] at less
    omega

/-- **The pool size is safe iff** the smaller of the two counts is not negative and its
channel can be made. -/
theorem pool_size_safe_iff (rt : Runtime) (loginPoolCount maxPoolCount : Int64) :
    (newControl rt loginPoolCount maxPoolCount ≠ none ∧
      ∀ ctl, newControl rt loginPoolCount maxPoolCount = some ctl → ∀ name src dst rounds,
        ¬ ((getWorkConnFromPool name ctl.poolCount src dst rounds).workConn = none ∧
          (getWorkConnFromPool name ctl.poolCount src dst rounds).err = none)) ↔
      0 ≤ bounded loginPoolCount maxPoolCount ∧
        bounded loginPoolCount maxPoolCount + 10 ≤ rt.maxChan := by
  have same := toInt_newControl loginPoolCount maxPoolCount
  have fits := rt.fits
  simp only [newControl]
  generalize (if maxPoolCount < loginPoolCount then maxPoolCount else loginPoolCount) = poolCount
    at same ⊢
  rw [← same]
  have low := poolCount.le_toInt
  have high := poolCount.toInt_lt
  have size : (poolCount + 10).toInt = (poolCount.toInt + 10).bmod (2 ^ 64) := Int64.toInt_add _ _
  constructor
  · rintro ⟨made, used⟩
    cases channel : rt.makeChan (poolCount + 10) with
    | none =>
        rw [channel] at made
        exact absurd rfl made
    | some ch =>
        have sized := makeChan_isSome_iff.1 (Option.isSome_iff_exists.2 ⟨ch, channel⟩)
        have tries : attempts poolCount ≠ 0 := by
          intro none_
          obtain ⟨rounds, nil⟩ :
              ∃ rounds, (getWorkConnFromPool [] poolCount none none rounds).workConn = none ∧
                (getWorkConnFromPool [] poolCount none none rounds).err = none :=
            nil_result_iff.2 none_
          exact used ⟨poolCount, ch⟩ (by rw [channel]; rfl) [] none none rounds nil
        have nonneg : 0 ≤ poolCount.toInt := by
          by_contra negative
          have next : (poolCount + 1).toInt = poolCount.toInt + 1 := by
            rw [Int64.toInt_add, Int64.toInt_one, Int.bmod_eq_of_le (by omega) (by omega)]
          unfold attempts at tries
          omega
        refine ⟨nonneg, ?_⟩
        by_cases small : poolCount.toInt + 10 < 2 ^ 63
        · rw [size, Int.bmod_eq_of_le (by omega) (by omega)] at sized
          exact sized.2
        · have wraps : (poolCount.toInt + 10).bmod (2 ^ 64) < 0 := by
            simp only [Int.bmod]
            omega
          rw [size] at sized
          omega
  · rintro ⟨nonneg, room⟩
    have sized : (rt.makeChan (poolCount + 10)).isSome := by
      rw [makeChan_isSome_iff, size, Int.bmod_eq_of_le (by omega) (by omega)]
      omega
    obtain ⟨ch, channel⟩ := Option.isSome_iff_exists.1 sized
    rw [channel]
    refine ⟨by simp, ?_⟩
    rintro ctl ⟨⟩ name src dst rounds nil
    have none_ : attempts poolCount = 0 := nil_result_iff.1 ⟨rounds, nil⟩
    have some_ := attempts_of_nonneg nonneg (by omega)
    omega

/-- On a 64-bit system a channel of interfaces has at most this many. -/
def linux64 : Runtime := ⟨(2 ^ 48 - 96) / 16, by decide⟩

/-- A login with pool count -11 panics; with -5 it makes a pool whose loop never runs. -/
theorem negative_pool_count :
    newControl linux64 (-11) 5 = none ∧
      ∃ ctl, newControl linux64 (-5) 5 = some ctl ∧
        getWorkConnFromPool (GoString.lit "ssh") ctl.poolCount none none (fun _ => .written) =
          ⟨none, none, []⟩ :=
  ⟨by decide, ⟨-5, .make 5⟩, by decide, by decide⟩

end ChmlFrp.Server.GetWorkConn
