/-
# ChmlFrp.Lib.Chan — buffered Go channels

A channel is a bounded queue and a flag that says whether it is closed.  A send on a
closed channel and a second close panic; a send into a full buffer and a receive from an
empty open one block, and a `select` with a `default` takes the default instead.  A
variable that was never made is nil: a receive from it blocks for ever, and closing it
panics.

The lemmas say what an operation leaves of the buffer, so that a machine can account for
every element that goes into a channel.
-/
import Mathlib.Data.List.Basic
import Mathlib.Tactic.Common

namespace ChmlFrp.Lib

set_option autoImplicit false

universe u

structure Chan (α : Type u) where
  buf : List α
  cap : Nat
  closed : Bool
  deriving DecidableEq, Repr

namespace Chan

variable {α : Type u}

/-- `make(chan α, cap)` -/
def make (cap : Nat) : Chan α := ⟨[], cap, false⟩

/-- What comes of an operation that can block or panic. -/
inductive Outcome (β : Type u) where
  | done (b : β)
  | blocks
  | panics
  deriving DecidableEq, Repr

def send (c : Chan α) (a : α) : Outcome (Chan α) :=
  if c.closed then .panics
  else if c.buf.length < c.cap then .done { c with buf := c.buf ++ [a] }
  else .blocks

/-- A receive: the element, or `none` from a closed channel that is empty. -/
def recv (c : Chan α) : Outcome (Option α × Chan α) :=
  match c.buf with
  | a :: rest => .done (some a, { c with buf := rest })
  | [] => if c.closed then .done (none, c) else .blocks

def close (c : Chan α) : Outcome (Chan α) :=
  if c.closed then .panics else .done { c with closed := true }

/-- A receive from a variable that may be nil. -/
def recvVar (c : Option (Chan α)) : Outcome (Option α × Chan α) :=
  match c with
  | some c => c.recv
  | none => .blocks

/-- The close of a variable that may be nil. -/
def closeVar (c : Option (Chan α)) : Outcome (Chan α) :=
  match c with
  | some c => c.close
  | none => .panics

section Lemmas

variable {c c' : Chan α} {a : α}

@[simp] theorem make_closed (cap : Nat) : (make cap : Chan α).closed = false := rfl

theorem send_eq_done_iff :
    c.send a = .done c' ↔
      c.closed = false ∧ c.buf.length < c.cap ∧ c' = { c with buf := c.buf ++ [a] } := by
  unfold send
  cases c.closed with
  | true => simp
  | false =>
      by_cases room : c.buf.length < c.cap
      · simp [room, eq_comm]
      · simp [room]

theorem send_eq_panics_iff : c.send a = .panics ↔ c.closed = true := by
  unfold send
  cases c.closed with
  | true => simp
  | false =>
      by_cases room : c.buf.length < c.cap
      · simp [room]
      · simp [room]

theorem recv_eq_some_iff :
    c.recv = .done (some a, c') ↔ ∃ rest, c.buf = a :: rest ∧ c' = { c with buf := rest } := by
  unfold recv
  split
  · rename_i b rest buf
    constructor
    · intro done
      cases done
      exact ⟨rest, buf, rfl⟩
    · rintro ⟨rest', buf', rfl⟩
      rw [buf] at buf'
      cases buf'
      rfl
  · rename_i buf
    split
    · simp [buf]
    · simp [buf]

theorem recv_eq_none_iff :
    c.recv = .done (none, c') ↔ c.buf = [] ∧ c.closed = true ∧ c' = c := by
  unfold recv
  split
  · rename_i b rest buf
    simp [buf]
  · rename_i buf
    cases closed : c.closed with
    | true => simp [buf, eq_comm]
    | false => simp [buf]

theorem close_eq_done_iff :
    c.close = .done c' ↔ c.closed = false ∧ c' = { c with closed := true } := by
  unfold close
  cases c.closed with
  | true => simp
  | false => simp [eq_comm]

end Lemmas

end Chan

end ChmlFrp.Lib
