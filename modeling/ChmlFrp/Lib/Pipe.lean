/-
# ChmlFrp.Lib.Pipe — one direction of a connection with a layer at each end

A cipher or a compressor over a connection is an `Encoder` at one end, which says what a
sequence of writes puts on the wire, and a `Decoder` at the other, which says what can be read
once some of the wire has come in.  Layers are laid over each other at both ends, and a decoder
that undoes each layer undoes all of them.

A `Pipe` counts what has come in and what has been read.

* `delivered_first`, `delivered_all`: where the decoder undoes the encoder, what has been read
  is the beginning of what was written, and all of it once nothing is on the way.
-/
import Mathlib.Data.List.Basic
import Mathlib.Tactic.Common

namespace ChmlFrp.Lib

set_option autoImplicit false

universe u

variable {α : Type u}

/-! ## Layers -/

/-- The writes below a layer, for the writes above it. -/
structure Encoder (α : Type u) where
  wire : List (List α) → List (List α)
  grows : ∀ ws more, wire ws <+: wire (ws ++ more)

/-- What can be read above a layer, for what has come in below it. -/
structure Decoder (α : Type u) where
  plain : List α → List α
  empty : plain [] = []
  grows : ∀ {seen more}, seen <+: more → plain seen <+: plain more

namespace Encoder

def id : Encoder α := ⟨fun ws => ws, List.prefix_append⟩

/-- `outer` is laid over `inner`. -/
def comp (inner outer : Encoder α) : Encoder α where
  wire ws := inner.wire (outer.wire ws)
  grows ws more := by
    obtain ⟨rest, same⟩ := outer.grows ws more
    rw [← same]
    exact inner.grows _ _

end Encoder

namespace Decoder

def id : Decoder α := ⟨fun seen => seen, rfl, fun shorter => shorter⟩

def comp (inner outer : Decoder α) : Decoder α where
  plain seen := outer.plain (inner.plain seen)
  empty := by rw [inner.empty, outer.empty]
  grows shorter := outer.grows (inner.grows shorter)

/-- The decoder gets what was written, when all of it has come in. -/
def Undoes (r : Decoder α) (w : Encoder α) : Prop :=
  ∀ ws, r.plain (w.wire ws).flatten = ws.flatten

theorem id_undoes : Undoes (id : Decoder α) .id := fun _ => rfl

theorem Undoes.comp {r r' : Decoder α} {w w' : Encoder α} (inner : Undoes r w)
    (outer : Undoes r' w') : Undoes (r.comp r') (w.comp w') := by
  intro ws
  show r'.plain (r.plain (w.wire (w'.wire ws)).flatten) = ws.flatten
  rw [inner, outer]

end Decoder

/-! ## Pipes -/

structure Pipe (α : Type u) where
  encoder : Encoder α
  decoder : Decoder α
  writes : List (List α)
  /-- How much of the wire has come in. -/
  taken : Nat
  /-- How much has been read. -/
  read : Nat

namespace Pipe

/-- A pipe on which nothing is written yet. -/
def make (encoder : Encoder α) (decoder : Decoder α) : Pipe α := ⟨encoder, decoder, [], 0, 0⟩

variable (p : Pipe α)

def wire : List α := (p.encoder.wire p.writes).flatten

def plain : List α := p.decoder.plain (p.wire.take p.taken)

def delivered : List α := p.plain.take p.read

def put (chunk : List α) : Pipe α := { p with writes := p.writes ++ [chunk] }

/-- More of the wire comes in. -/
def arrive (n : Nat) : Pipe α := { p with taken := min (p.taken + n) p.wire.length }

/-- What a read returns after `n` more bytes have come in, of at most `k` bytes. -/
def chunk (n k : Nat) : List α := ((p.arrive n).plain.drop p.read).take k

/-- The read. -/
def pull (n k : Nat) : Pipe α := { p.arrive n with read := p.read + (p.chunk n k).length }

structure Ok : Prop where
  taken : p.taken ≤ p.wire.length
  read : p.read ≤ p.plain.length

/-- The bytes that have not come in and those that have not been read, if `later` is written. -/
def left (later : List (List α)) : Nat :=
  ((p.encoder.wire (p.writes ++ later)).flatten.length - p.taken) +
    ((p.writes ++ later).flatten.length - p.read)

/-- Nothing is on the way. -/
def Drained : Prop := p.taken = p.wire.length ∧ p.read = p.plain.length

variable {p}

theorem make_ok (encoder : Encoder α) (decoder : Decoder α) : (make encoder decoder).Ok :=
  ⟨Nat.zero_le _, Nat.zero_le _⟩

/-- A pipe that nothing has come through yet, whatever its ends are. -/
theorem ok_of_unread (taken : p.taken = 0) (read : p.read = 0) : p.Ok :=
  ⟨by rw [taken]; exact Nat.zero_le _, by rw [read]; exact Nat.zero_le _⟩

theorem delivered_of_unread (read : p.read = 0) : p.delivered = [] := by
  unfold delivered
  rw [read, List.take_zero]

/-- Nothing can have come through a pipe that nothing is written to. -/
theorem Ok.unread (ok : p.Ok) (idle : p.wire = []) : p.taken = 0 ∧ p.read = 0 := by
  have taken := ok.taken
  have read := ok.read
  unfold plain at read
  rw [idle] at taken
  rw [idle, List.take_nil, p.decoder.empty] at read
  exact ⟨Nat.le_zero.1 taken, Nat.le_zero.1 read⟩

@[simp] theorem make_delivered (encoder : Encoder α) (decoder : Decoder α) :
    (make encoder decoder).delivered = [] := List.take_zero

theorem wire_put (chunk : List α) : p.wire <+: (p.put chunk).wire := by
  obtain ⟨rest, same⟩ := p.encoder.grows p.writes [chunk]
  unfold wire put
  rw [← same, List.flatten_append]
  exact List.prefix_append _ _

theorem plain_put (ok : p.Ok) (chunk : List α) : (p.put chunk).plain = p.plain := by
  obtain ⟨rest, same⟩ := p.wire_put chunk
  show p.decoder.plain ((p.put chunk).wire.take p.taken) = p.decoder.plain (p.wire.take p.taken)
  rw [← same, List.take_append_of_le_length ok.taken]

@[simp] theorem delivered_put (ok : p.Ok) (chunk : List α) :
    (p.put chunk).delivered = p.delivered := by
  unfold delivered
  rw [plain_put ok]
  rfl

theorem Ok.put (ok : p.Ok) (chunk : List α) : (p.put chunk).Ok where
  taken := Nat.le_trans ok.taken (wire_put chunk).length_le
  read := by
    rw [plain_put ok]
    exact ok.read

theorem plain_arrive (ok : p.Ok) (n : Nat) : p.plain <+: (p.arrive n).plain := by
  apply p.decoder.grows
  have later : p.taken ≤ min (p.taken + n) p.wire.length := by
    have taken := ok.taken
    omega
  exact List.take_prefix_take_left later

theorem delivered_pull (ok : p.Ok) (n k : Nat) :
    (p.pull n k).delivered = p.delivered ++ p.chunk n k := by
  obtain ⟨rest, same⟩ := p.plain_arrive ok n
  show ((p.arrive n).plain).take (p.read + (p.chunk n k).length) = _
  unfold delivered chunk
  rw [← same, List.drop_append_of_le_length ok.read, List.take_add,
    List.take_append_of_le_length ok.read, List.drop_append_of_le_length ok.read]
  congr 1
  exact List.prefix_iff_eq_take.1 (List.take_prefix _ _) |>.symm

theorem Ok.pull (ok : p.Ok) (n k : Nat) : (p.pull n k).Ok where
  taken := Nat.min_le_right ..
  read := by
    have longer := (p.plain_arrive ok n).length_le
    have read := ok.read
    have chunk : (p.chunk n k).length ≤ (p.arrive n).plain.length - p.read := by
      unfold Pipe.chunk
      rw [List.length_take, List.length_drop]
      exact Nat.min_le_right ..
    show p.read + (p.chunk n k).length ≤ (p.arrive n).plain.length
    omega

/-- What has been read is the beginning of what was written. -/
theorem delivered_first (undoes : p.decoder.Undoes p.encoder) :
    p.delivered <+: p.writes.flatten := by
  have seen : p.plain <+: p.writes.flatten := by
    rw [← undoes p.writes]
    exact p.decoder.grows (List.take_prefix _ _)
  exact (List.take_prefix _ _).trans seen

theorem delivered_all (undoes : p.decoder.Undoes p.encoder) (drained : p.Drained) :
    p.delivered = p.writes.flatten := by
  obtain ⟨taken, read⟩ := drained
  unfold delivered
  rw [read, List.take_length]
  unfold plain
  rw [taken, List.take_length]
  exact undoes p.writes

theorem left_put (chunk : List α) (later : List (List α)) :
    (p.put chunk).left later = p.left (chunk :: later) := by
  unfold left put
  rw [List.append_assoc, List.singleton_append]

theorem left_arrive (less : p.taken < p.wire.length) (later : List (List α)) :
    (p.pull 1 0).left later < p.left later := by
  obtain ⟨rest, same⟩ := p.encoder.grows p.writes later
  have bound : p.wire.length ≤ (p.encoder.wire (p.writes ++ later)).flatten.length := by
    rw [← same, List.flatten_append, List.length_append]
    exact Nat.le_add_right _ _
  have taken : (p.pull 1 0).taken = p.taken + 1 := Nat.min_eq_left less
  show (p.encoder.wire (p.writes ++ later)).flatten.length - (p.pull 1 0).taken + _ < _
  rw [taken]
  exact Nat.add_lt_add_right (by omega) _

theorem length_delivered (ok : p.Ok) : p.delivered.length = p.read := by
  unfold delivered
  rw [List.length_take, Nat.min_eq_left ok.read]

theorem left_read (undoes : p.decoder.Undoes p.encoder) (ok : p.Ok)
    (some_ : p.chunk 0 1 ≠ []) (later : List (List α)) :
    (p.pull 0 1).left later < p.left later := by
  have taken : (p.pull 0 1).taken = p.taken := Nat.min_eq_left ok.taken
  have read : p.read < (p.pull 0 1).read := Nat.lt_add_of_pos_right (List.length_pos_iff.2 some_)
  have bound : (p.pull 0 1).read ≤ (p.writes ++ later).flatten.length := by
    rw [← length_delivered (ok.pull 0 1), List.flatten_append, List.length_append]
    exact Nat.le_trans (delivered_first (p := p.pull 0 1) undoes).length_le (Nat.le_add_right _ _)
  show _ - (p.pull 0 1).taken + ((p.writes ++ later).flatten.length - (p.pull 0 1).read) < _
  rw [taken]
  exact Nat.add_lt_add_left (by omega) _

/-- With nothing on the wire nothing was written. -/
theorem flatten_of_idle {d : Decoder α} (undoes : d.Undoes p.encoder) (idle : p.wire = []) :
    p.writes.flatten = [] := by
  rw [← undoes p.writes]
  show d.plain p.wire = []
  rw [idle, d.empty]

end Pipe

end ChmlFrp.Lib
