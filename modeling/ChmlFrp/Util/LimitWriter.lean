/-
# ChmlFrp.Util.LimitWriter — writes through a rate limiter

`Writer.Write` of `pkg/util/limit/writer.go` cuts a buffer into chunks of at most the burst
of its limiter and waits for the limiter before each of them.

The limiter and the writer below are any two machines over a common state, so they stand for
every sequence of outcomes; that the writer obeys the contract of `io.Writer` is part of the
type of its answers.

* `Sends`: what a call does, chunk by chunk, without the loop;
* `Calls`: what the limiter and the writer are asked, and the state they come to;
* `writeLoop_sends`, `writeLoop_calls`: the loop does that, and every event is an answer;
* `write_complete`: it ends, and the chunks, the count and the error are right.
-/
import ChmlFrp.Config.Types
import Mathlib.Tactic.Common

namespace ChmlFrp.Util.LimitWriter

set_option autoImplicit false

open ChmlFrp.Config
open ChmlFrp.Lib

abbrev Bytes := List UInt8

variable {σ ε : Type}

/-! ## The loop -/

/-- What an `io.Writer` may answer to a write of `len` bytes. -/
structure Answer (ε : Type) (len : Nat) where
  n : Nat
  err : Option ε
  atMost : n ≤ len
  short : n < len → err ≠ none

structure Writer (σ ε : Type) where
  /-- `Burst` of the limiter. -/
  burst : Nat
  /-- `WaitN` of the limiter. -/
  waitN : σ → Nat → Option ε × σ
  /-- `Write` of the underlying writer. -/
  write : σ → (p : Bytes) → Answer ε p.length × σ

inductive Event (ε : Type) where
  | waits (n : Nat) (err : Option ε)
  | writes (chunk : Bytes) (n : Nat) (err : Option ε)

def Event.err : Event ε → Option ε
  | .waits _ err => err
  | .writes _ _ err => err

structure Outcome (σ ε : Type) where
  n : Nat
  err : Option ε
  events : List (Event ε)
  state : σ

/-- The end of the next chunk. -/
def chunkEnd (b : Nat) (p : Bytes) : Nat := if b < p.length then b else p.length

/-- The events of a round that comes to the writer. -/
def passed (b : Nat) (p : Bytes) (answer : Answer ε (p.take (chunkEnd b p)).length) :
    List (Event ε) :=
  [.waits (chunkEnd b p) none, .writes (p.take (chunkEnd b p)) answer.n answer.err]

/-- `none` says that the loop goes on after so many rounds. -/
def writeLoop (w : Writer σ ε) : Nat → σ → Bytes → Nat → Option (Outcome σ ε)
  | 0, _, _, _ => none
  | rounds + 1, s, p, n =>
      if p.length = 0 then some ⟨n, none, [], s⟩
      else
        match w.waitN s (chunkEnd w.burst p) with
        | (some err, s) => some ⟨n, some err, [.waits (chunkEnd w.burst p) (some err)], s⟩
        | (none, s) =>
            match w.write s (p.take (chunkEnd w.burst p)) with
            | (answer, s) =>
                match answer.err with
                | some err => some ⟨n + answer.n, some err, passed w.burst p answer, s⟩
                | none =>
                    (writeLoop w rounds s (p.drop (chunkEnd w.burst p)) (n + answer.n)).map
                      fun out => { out with events := passed w.burst p answer ++ out.events }

/-- `Write` -/
def Writer.Write (w : Writer σ ε) (rounds : Nat) (s : σ) (p : Bytes) : Option (Outcome σ ε) :=
  writeLoop w rounds s p 0

/-! ## What a call does -/

/-- The events of a call, the bytes it has passed on and its error. -/
inductive Sends (b : Nat) : Bytes → List (Event ε) → Nat → Option ε → Prop
  | done : Sends b [] [] 0 none
  | refused {p : Bytes} (more : p ≠ []) (err : ε) :
      Sends b p [.waits (chunkEnd b p) (some err)] 0 (some err)
  | failed {p : Bytes} (more : p ≠ []) (n : Nat) (err : ε) (atMost : n ≤ (p.take b).length) :
      Sends b p [.waits (chunkEnd b p) none, .writes (p.take b) n (some err)] n (some err)
  | passed {p : Bytes} {events : List (Event ε)} {n : Nat} {err : Option ε} (more : p ≠ [])
      (rest : Sends b (p.drop b) events n err) :
      Sends b p
        (.waits (chunkEnd b p) none :: .writes (p.take b) (p.take b).length none :: events)
        ((p.take b).length + n) err

/-- From `s`, the events are the calls of `w` one after the other with the answers it gives,
and the last of them leaves it in `t`. -/
inductive Calls (w : Writer σ ε) : σ → List (Event ε) → σ → Prop
  | done (s : σ) : Calls w s [] s
  | waits {s s' t : σ} {n : Nat} {err : Option ε} {events : List (Event ε)}
      (answers : w.waitN s n = (err, s')) (rest : Calls w s' events t) :
      Calls w s (.waits n err :: events) t
  | writes {s s' t : σ} {chunk : Bytes} {answer : Answer ε chunk.length}
      {events : List (Event ε)} (answers : w.write s chunk = (answer, s'))
      (rest : Calls w s' events t) :
      Calls w s (.writes chunk answer.n answer.err :: events) t

theorem take_chunkEnd (b : Nat) (p : Bytes) : p.take (chunkEnd b p) = p.take b := by
  unfold chunkEnd
  split
  · rfl
  · rw [List.take_length, List.take_of_length_le (by omega)]

theorem drop_chunkEnd (b : Nat) (p : Bytes) : p.drop (chunkEnd b p) = p.drop b := by
  unfold chunkEnd
  split
  · rfl
  · rw [List.drop_length, List.drop_eq_nil_of_le (by omega)]

theorem length_take_chunkEnd (b : Nat) (p : Bytes) : (p.take b).length = chunkEnd b p := by
  unfold chunkEnd
  rw [List.length_take]
  split <;> omega

/-- An answer without an error takes the whole chunk. -/
theorem Answer.n_eq {len : Nat} (answer : Answer ε len) (fine : answer.err = none) :
    answer.n = len := by
  by_contra differs
  have atMost := answer.atMost
  exact answer.short (by omega) fine

theorem writeLoop_sends {w : Writer σ ε} {rounds : Nat} {s : σ} {p : Bytes} {n : Nat}
    {out : Outcome σ ε} (ends : writeLoop w rounds s p n = some out) :
    ∃ k, out.n = n + k ∧ Sends w.burst p out.events k out.err := by
  induction rounds generalizing s p n out with
  | zero => cases ends
  | succ rounds ih =>
      unfold writeLoop at ends
      split at ends
      · rename_i empty
        cases ends
        obtain rfl := List.length_eq_zero_iff.1 empty
        exact ⟨0, rfl, .done⟩
      · rename_i more
        have more : p ≠ [] := fun empty => more (by rw [empty]; rfl)
        split at ends
        · rename_i err s' waits
          cases ends
          exact ⟨0, rfl, .refused more err⟩
        · rename_i s' waits
          split at ends
          rename_i answer s'' written
          have length := congrArg List.length (take_chunkEnd w.burst p)
          split at ends
          · rename_i err failed
            cases ends
            refine ⟨answer.n, rfl, ?_⟩
            simp only [passed, take_chunkEnd, failed]
            exact .failed more answer.n err (length ▸ answer.atMost)
          · rename_i fine
            obtain ⟨rest, later, rfl⟩ := Option.map_eq_some_iff.1 ends
            obtain ⟨k, count, sends⟩ := ih later
            have whole := (answer.n_eq fine).trans length
            rw [drop_chunkEnd] at sends
            refine ⟨(p.take w.burst).length + k, ?_, ?_⟩
            · simp only [count, whole]
              omega
            · simp only [passed, take_chunkEnd, fine, whole]
              exact .passed more sends

theorem writeLoop_calls {w : Writer σ ε} {rounds : Nat} {s : σ} {p : Bytes} {n : Nat}
    {out : Outcome σ ε} (ends : writeLoop w rounds s p n = some out) :
    Calls w s out.events out.state := by
  induction rounds generalizing s p n out with
  | zero => cases ends
  | succ rounds ih =>
      unfold writeLoop at ends
      split at ends
      · cases ends
        exact .done s
      · split at ends
        · rename_i err s' waits
          cases ends
          exact .waits waits (.done s')
        · rename_i s' waits
          split at ends
          rename_i answer s'' written
          split at ends
          · cases ends
            exact .waits waits (.writes written (.done s''))
          · obtain ⟨rest, later, rfl⟩ := Option.map_eq_some_iff.1 ends
            exact .waits waits (.writes written (ih later))

/-! ## What it amounts to -/

/-- The chunks that the writer is given. -/
def chunks : List (Event ε) → List Bytes
  | [] => []
  | .waits _ _ :: events => chunks events
  | .writes chunk _ _ :: events => chunk :: chunks events

/-- The bytes that the writer takes of them. -/
def accepted : List (Event ε) → List Bytes
  | [] => []
  | .waits _ _ :: events => accepted events
  | .writes chunk n _ :: events => chunk.take n :: accepted events

/-- How many they are. -/
def count : List (Event ε) → Nat
  | [] => 0
  | .waits _ _ :: events => count events
  | .writes _ n _ :: events => n + count events

/-- A call from the state `s` that is as it should be. -/
structure Complete (w : Writer σ ε) (s : σ) (p : Bytes) (out : Outcome σ ε) : Prop where
  calls : Calls w s out.events out.state
  /-- The limiter has let every chunk pass just before it is written. -/
  granted : ∀ before chunk n err after, out.events = before ++ .writes chunk n err :: after →
    ∃ earlier, before = earlier ++ [.waits chunk.length none]
  bounded : ∀ chunk ∈ chunks out.events, chunk.length ≤ w.burst
  inOrder : (chunks out.events).flatten <+: p
  counted : out.n = count out.events
  taken : (accepted out.events).flatten = p.take out.n
  /-- Nothing is written after the first error. -/
  stops : ∀ err, out.err = some err → ∃ before last, out.events = before ++ [last] ∧
    last.err = some err ∧ ∀ event ∈ before, event.err = none
  whole : out.err = none → (∀ event ∈ out.events, event.err = none) ∧ out.n = p.length

section Sends

variable {b : Nat} {p : Bytes} {events : List (Event ε)} {n : Nat} {err : Option ε}

theorem Sends.granted (sends : Sends b p events n err) :
    ∀ before chunk k failed after, events = before ++ .writes chunk k failed :: after →
      ∃ earlier, before = earlier ++ [.waits chunk.length none] := by
  induction sends with
  | done => simp
  | refused => simp [List.cons_eq_append_iff]
  | @failed p more n err atMost =>
      intro before chunk k failed after same
      rcases before with _ | ⟨first, _ | ⟨second, before⟩⟩
      · simp at same
      · simp only [List.cons_append, List.nil_append, List.cons.injEq, Event.writes.injEq] at same
        obtain ⟨rfl, ⟨rfl, -⟩, -⟩ := same
        exact ⟨[], by rw [length_take_chunkEnd, List.nil_append]⟩
      · simp at same
  | @passed p events n err more rest ih =>
      intro before chunk k failed after same
      rcases before with _ | ⟨first, _ | ⟨second, before⟩⟩
      · simp at same
      · simp only [List.cons_append, List.nil_append, List.cons.injEq, Event.writes.injEq] at same
        obtain ⟨rfl, ⟨rfl, -⟩, -⟩ := same
        exact ⟨[], by rw [length_take_chunkEnd, List.nil_append]⟩
      · simp only [List.cons_append, List.cons.injEq] at same
        obtain ⟨rfl, rfl, same⟩ := same
        obtain ⟨earlier, rfl⟩ := ih before chunk k failed after same
        exact ⟨_ :: _ :: earlier, rfl⟩

theorem Sends.bounded (sends : Sends b p events n err) :
    ∀ chunk ∈ chunks events, chunk.length ≤ b := by
  induction sends with
  | done | refused => simp [chunks]
  | @failed p more n err atMost =>
      intro chunk mem
      obtain rfl := List.mem_singleton.1 mem
      exact List.length_take_le b p
  | @passed p events n err more rest ih =>
      intro chunk mem
      rcases List.mem_cons.1 mem with rfl | mem
      · exact List.length_take_le b p
      · exact ih chunk mem

theorem Sends.inOrder (sends : Sends b p events n err) : (chunks events).flatten <+: p := by
  induction sends with
  | done | refused => simp [chunks]
  | @failed p more n err atMost => simpa [chunks] using List.take_prefix b p
  | @passed p events n err more rest ih =>
      have joined := (List.prefix_append_right_inj (p.take b)).2 ih
      rw [List.take_append_drop] at joined
      simpa [chunks] using joined

theorem Sends.counted (sends : Sends b p events n err) : n = count events := by
  induction sends with
  | done | refused | failed => rfl
  | passed more rest ih => simp [count, ih]

theorem Sends.taken (sends : Sends b p events n err) :
    (accepted events).flatten = p.take n := by
  induction sends with
  | done | refused => simp [accepted]
  | @failed p more n err atMost =>
      have fits : n ≤ b := by
        rw [List.length_take] at atMost
        omega
      simp [accepted, List.take_take, fits]
  | @passed p events n err more rest ih =>
      calc (accepted _).flatten = p.take b ++ (accepted events).flatten := by
            rw [accepted, accepted, List.flatten_cons, List.take_length]
        _ = p.take b ++ (p.drop b).take n := by rw [ih]
        _ = (p.take b ++ p.drop b).take ((p.take b).length + n) :=
          (List.take_length_add_append n).symm
        _ = p.take ((p.take b).length + n) := by rw [List.take_append_drop]

theorem Sends.stops (sends : Sends b p events n err) :
    ∀ first, err = some first → ∃ before last, events = before ++ [last] ∧
      last.err = some first ∧ ∀ event ∈ before, event.err = none := by
  intro first failed
  induction sends with
  | done => cases failed
  | refused more err =>
      cases failed
      exact ⟨[], _, rfl, rfl, by simp⟩
  | failed more n err atMost =>
      cases failed
      exact ⟨[.waits _ none], _, rfl, rfl, by simp [Event.err]⟩
  | passed more rest ih =>
      obtain ⟨before, last, rfl, stops, clear⟩ := ih failed
      refine ⟨.waits _ none :: .writes _ _ none :: before, last, rfl, stops, ?_⟩
      simpa [Event.err] using clear

theorem Sends.whole (sends : Sends b p events n err) (fine : err = none) :
    (∀ event ∈ events, event.err = none) ∧ n = p.length := by
  induction sends with
  | done => simp
  | refused | failed => cases fine
  | @passed p events n err more rest ih =>
      obtain ⟨clear, length⟩ := ih fine
      refine ⟨by simpa [Event.err] using clear, ?_⟩
      rw [length, List.length_take, List.length_drop]
      omega

end Sends

/-! ## The call -/

/-- A round takes at least one byte from the buffer, so there are no more rounds than bytes. -/
theorem writeLoop_ends {w : Writer σ ε} (positive : 1 ≤ w.burst) {rounds : Nat} {s : σ}
    {p : Bytes} {n : Nat} (enough : p.length < rounds) :
    ∃ out, writeLoop w rounds s p n = some out := by
  induction rounds generalizing s p n with
  | zero => cases enough
  | succ rounds ih =>
      unfold writeLoop
      split
      · exact ⟨_, rfl⟩
      · rename_i more
        split
        · exact ⟨_, rfl⟩
        · split
          rename_i s' _ answer s'' _
          split
          · exact ⟨_, rfl⟩
          · have shorter : (p.drop (chunkEnd w.burst p)).length < rounds := by
              rw [drop_chunkEnd, List.length_drop]
              omega
            obtain ⟨out, later⟩ := ih (s := s'') (n := n + answer.n) shorter
            rw [later]
            exact ⟨_, rfl⟩

theorem writeLoop_succ {w : Writer σ ε} {rounds : Nat} {s : σ} {p : Bytes} {n : Nat}
    {out : Outcome σ ε} (ends : writeLoop w rounds s p n = some out) :
    writeLoop w (rounds + 1) s p n = some out := by
  induction rounds generalizing s p n out with
  | zero => cases ends
  | succ rounds ih =>
      rw [writeLoop] at ends ⊢
      split at ends
      · rename_i empty
        rw [if_pos empty]
        exact ends
      · rename_i more
        rw [if_neg more]
        split at ends
        · exact ends
        · split at ends
          rename_i s' _ answer s'' _
          split at ends
          · exact ends
          · obtain ⟨rest, later, same⟩ := Option.map_eq_some_iff.1 ends
            rw [ih later, Option.map_some, same]

theorem writeLoop_of_le {w : Writer σ ε} {rounds more : Nat} {s : σ} {p : Bytes} {n : Nat}
    {out : Outcome σ ε} (ends : writeLoop w rounds s p n = some out) (le : rounds ≤ more) :
    writeLoop w more s p n = some out := by
  induction le with
  | refl => exact ends
  | step le ih => exact writeLoop_succ ih

/-- **A write through the limiter ends; it writes chunks that are at most a burst long, in the
order of the buffer, it counts what was taken, and it stops at the first error.** -/
theorem write_complete (w : Writer σ ε) (positive : 1 ≤ w.burst) (s : σ) (p : Bytes) :
    ∃ out, (∀ rounds, p.length < rounds → w.Write rounds s p = some out) ∧
      Complete w s p out := by
  obtain ⟨out, ends⟩ := writeLoop_ends positive (s := s) (n := 0) (Nat.lt_succ_self p.length)
  obtain ⟨k, count, sends⟩ := writeLoop_sends ends
  have same : out.n = k := by omega
  subst same
  exact ⟨out, fun rounds enough => writeLoop_of_le ends enough, writeLoop_calls ends,
    sends.granted, sends.bounded, sends.inOrder, sends.counted, sends.taken, sends.stops,
    sends.whole⟩

/-- A limiter and a writer that take everything; the state is what has been written. -/
def open_ : Writer Bytes GoString where
  burst := 2
  waitN s _ := (none, s)
  write s p := (⟨p.length, none, Nat.le_refl _, fun less => absurd less (Nat.lt_irrefl _)⟩, s ++ p)

theorem write_complete_open :
    ∃ out, (∀ rounds, 3 < rounds → open_.Write rounds [] [70, 82, 80] = some out) ∧
      Complete open_ [] [70, 82, 80] out :=
  write_complete open_ (by decide) [] [70, 82, 80]

/-! ## The limiter of a proxy -/

/-- The burst of the limiter that `NewProxy` makes, if the proxy is limited by the client. -/
def newProxyBurst (limit : BandwidthQuantity) (mode : GoString) : Option Nat :=
  if limit.i > 0 ∧ mode = bandwidthLimitModeClient then some limit.i.toNat else none

theorem newProxyBurst_pos {limit : BandwidthQuantity} {mode : GoString} {burst : Nat}
    (limited : newProxyBurst limit mode = some burst) : 1 ≤ burst := by
  unfold newProxyBurst at limited
  split at limited
  · rename_i positive
    cases limited
    omega
  · cases limited

end ChmlFrp.Util.LimitWriter
