/-
# ChmlFrp.Udp.Forwarder — the sockets of a udp client, one for each user

`Forwarder` of `pkg/proto/udp/udp.go`.  Its loop writes each packet to the socket of the
user's address, which it takes from a map or dials; for a new socket it starts a goroutine
that reads the answers, and at its end deletes the address from the map and closes the
socket.  Lookup and dial are under the mutex, the write and the start of the goroutine are
not.  An answer is read into a buffer of `bufSize` bytes, and the rest of a longer one is lost.

The entry of a socket stays until its own goroutine deletes it, so the address is not
dialled again before.

* `sessions_owned`: a goroutine deletes the entry of its own socket only; between two
  packets every socket has one goroutine, which closes it, and no address has two that
  are in use.
-/
import ChmlFrp.Lib.GoMap
import ChmlFrp.Lib.Slots
import ChmlFrp.Udp.Forward

namespace ChmlFrp.Udp.Forwarder

set_option autoImplicit false

open ChmlFrp.Lib
open ChmlFrp.Lib.Transition

/-! ## The goroutines -/

/-- What `ReadFromUDP` leaves of a datagram in a buffer of `bufSize` bytes. -/
def readFromUDP (bufSize : Nat) (datagram : GoString) : GoString := datagram.take bufSize

/-- `GetContent` -/
def getContent (m : UDPPacket) : Option GoString := Base64.decode m.content

/-- Where `writerFn` is. -/
inductive Writer where
  | reading
  /-- At the `select` with the send on `sendCh`. -/
  | sending (udpMsg : UDPPacket)
  /-- In the deferred function, before the mutex. -/
  | returning
  /-- The entry is deleted. -/
  | deleted
  | exited
  deriving DecidableEq, Repr

/-- A goroutine of `writerFn` with its arguments. -/
structure Goroutine where
  raddr : GoString
  udpConn : Nat
  writer : Writer
  deriving DecidableEq, Repr

/-- Where the loop is; `ok` says whether the socket was in the map. -/
inductive Loop where
  | receiving
  /-- At `udpConn.Write(buf)`. -/
  | writing (raddr : GoString) (udpConn : Nat) (ok : Bool) (buf : GoString)
  /-- The write has failed. -/
  | closing (raddr : GoString) (udpConn : Nat) (ok : Bool)
  /-- At `go writerFn`. -/
  | starting (raddr : GoString) (udpConn : Nat)
  | returned
  deriving DecidableEq, Repr

structure State where
  bufSize : Nat
  udpConnMap : GoMap GoString Nat
  /-- Whether each of the sockets is open. -/
  conns : List Bool
  goroutines : List Goroutine
  loop : Loop

def start (bufSize : Nat) : State := ⟨bufSize, ∅, [], [], .receiving⟩

inductive Label where
  /-- The loop receives a packet; whether a dial succeeds. -/
  | receive (udpMsg : UDPPacket) (dial : Bool)
  /-- `readCh` is closed. -/
  | readChClosed
  /-- `udpConn.Write` returns. -/
  | write (err : Bool)
  | close
  | go
  /-- `ReadFromUDP` of a goroutine returns: a datagram, or an error. -/
  | read (g : Nat) (datagram : Option GoString)
  /-- The send returns; an error is the panic of a closed `sendCh`. -/
  | send (g : Nat) (err : Bool)
  /-- The deferred function deletes the entry. -/
  | delete (g : Nat)
  | closeConn (g : Nat)
  deriving DecidableEq, Repr

namespace State

def IsOpen (s : State) (c : Nat) : Prop := s.conns[c]? = some true

instance (s : State) (c : Nat) : Decidable (s.IsOpen c) := inferInstanceAs (Decidable (_ = _))

def setWriter (s : State) (g : Nat) (gr : Goroutine) (writer : Writer) : State :=
  { s with goroutines := s.goroutines.set g { gr with writer := writer } }

/-- After the write of a packet: a new socket gets its goroutine. -/
def written (s : State) (raddr : GoString) (udpConn : Nat) (ok : Bool) : State :=
  { s with loop := if ok then .receiving else .starting raddr udpConn }

end State

def step (s : State) : Label → Option State
  | .receive udpMsg dial =>
      if s.loop = .receiving then
        match getContent udpMsg with
        | none => some s
        | some buf =>
            match s.udpConnMap.get udpMsg.remoteAddr with
            | some udpConn => some { s with loop := .writing udpMsg.remoteAddr udpConn true buf }
            | none =>
                if dial then
                  some { s with
                    udpConnMap := s.udpConnMap.set udpMsg.remoteAddr s.conns.length
                    conns := s.conns ++ [true]
                    loop := .writing udpMsg.remoteAddr s.conns.length false buf }
                else some s
      else none
  | .readChClosed => if s.loop = .receiving then some { s with loop := .returned } else none
  | .write err =>
      match s.loop with
      | .writing raddr udpConn ok _ =>
          if err then some { s with loop := .closing raddr udpConn ok }
          else if s.IsOpen udpConn then some (s.written raddr udpConn ok)
          else none
      | _ => none
  | .close =>
      match s.loop with
      | .closing raddr udpConn ok =>
          some ({ s with conns := s.conns.set udpConn false }.written raddr udpConn ok)
      | _ => none
  | .go =>
      match s.loop with
      | .starting raddr udpConn =>
          some { s with
            goroutines := s.goroutines ++ [⟨raddr, udpConn, .reading⟩]
            loop := .receiving }
      | _ => none
  | .read g datagram =>
      s.goroutines[g]?.bind fun gr =>
        match gr.writer, datagram with
        | .reading, some buf =>
            if s.IsOpen gr.udpConn then
              some (s.setWriter g gr
                (.sending (newUDPPacket (readFromUDP s.bufSize buf) gr.raddr)))
            else none
        | .reading, none => some (s.setWriter g gr .returning)
        | _, _ => none
  | .send g err =>
      s.goroutines[g]?.bind fun gr =>
        match gr.writer with
        | .sending _ => some (s.setWriter g gr (if err then .returning else .reading))
        | _ => none
  | .delete g =>
      s.goroutines[g]?.bind fun gr =>
        if gr.writer = .returning then
          some { s.setWriter g gr .deleted with udpConnMap := s.udpConnMap.delete gr.raddr }
        else none
  | .closeConn g =>
      s.goroutines[g]?.bind fun gr =>
        if gr.writer = .deleted then
          some { s.setWriter g gr .exited with conns := s.conns.set gr.udpConn false }
        else none

/-! ## Who owns a socket -/

/-- The goroutine has not deleted its entry. -/
def Writer.Listed : Writer → Prop
  | .reading | .sending _ | .returning => True
  | .deleted | .exited => False

/-- The goroutine has not begun to clean up. -/
def Writer.Running : Writer → Prop
  | .reading | .sending _ => True
  | .returning | .deleted | .exited => False

/-- The loop is between two packets, or has returned. -/
def Idle (s : State) : Prop := s.loop = .receiving ∨ s.loop = .returned

def State.Runs (s : State) (g : Nat) (gr : Goroutine) : Prop := s.goroutines[g]? = some gr

/-- Between two packets. -/
structure Owned (s : State) : Prop where
  /-- An open socket has one goroutine, which has not exited. -/
  one : ∀ c, s.IsOpen c → ∃! g, ∃ gr, s.Runs g gr ∧ gr.udpConn = c ∧ gr.writer ≠ .exited
  /-- Its exit closes the socket. -/
  closes : ∀ g gr, s.Runs g gr → gr.writer = .exited → ¬ s.IsOpen gr.udpConn
  listed : ∀ raddr c, s.udpConnMap.get raddr = some c →
    ∃ g gr, s.Runs g gr ∧ gr.raddr = raddr ∧ gr.udpConn = c ∧ gr.writer.Listed
  single : ∀ g g' gr gr', s.Runs g gr → s.Runs g' gr' → gr.raddr = gr'.raddr →
    gr.writer.Running → gr'.writer.Running → g = g'

/-- No step takes an entry out of the map but a goroutine that of its own socket. -/
def OwnEntry (s : State) (l : Label) (t : State) : Prop :=
  ∀ raddr c, s.udpConnMap.get raddr = some c → t.udpConnMap.get raddr ≠ some c →
    ∃ g gr, l = .delete g ∧ s.Runs g gr ∧ gr.udpConn = c

/-! ## The invariant -/

/-- The new socket that has no goroutine yet. -/
def Loop.fresh : Loop → Option (GoString × Nat)
  | .writing raddr c false _ | .closing raddr c false | .starting raddr c => some (raddr, c)
  | .receiving | .returned | .writing _ _ true _ | .closing _ _ true => none

structure Inv (s : State) : Prop where
  /-- Every socket has a goroutine, or is the new one. -/
  owned : ∀ c < s.conns.length, (∃ g gr, s.Runs g gr ∧ gr.udpConn = c) ∨
    ∃ raddr, s.loop.fresh = some (raddr, c)
  dialled : ∀ g gr, s.Runs g gr → gr.udpConn < s.conns.length
  distinct : ∀ g g' gr gr', s.Runs g gr → s.Runs g' gr' → gr.udpConn = gr'.udpConn → g = g'
  /-- A goroutine that has not deleted its entry finds it in the map. -/
  entry : ∀ g gr, s.Runs g gr → gr.writer.Listed → s.udpConnMap.get gr.raddr = some gr.udpConn
  listed : ∀ raddr c, s.udpConnMap.get raddr = some c →
    (∃ g gr, s.Runs g gr ∧ gr.raddr = raddr ∧ gr.udpConn = c ∧ gr.writer.Listed) ∨
      s.loop.fresh = some (raddr, c)
  fresh : ∀ raddr c, s.loop.fresh = some (raddr, c) → s.udpConnMap.get raddr = some c ∧
    c < s.conns.length ∧ ∀ g gr, s.Runs g gr → gr.udpConn ≠ c
  exited : ∀ g gr, s.Runs g gr → gr.writer = .exited → ¬ s.IsOpen gr.udpConn

theorem start_inv (bufSize : Nat) : Inv (start bufSize) where
  owned c less := absurd less (Nat.not_lt_zero c)
  dialled g gr runs := by cases runs
  distinct g g' gr gr' runs := by cases runs
  entry g gr runs := by cases runs
  listed raddr c found := by cases found
  fresh raddr c fresh := by cases fresh
  exited g gr runs := by cases runs

section Steps

variable {s t : State} {g : Nat} {gr : Goroutine}

theorem Writer.Running.listed {writer : Writer} (running : writer.Running) : writer.Listed := by
  cases writer <;> trivial

theorem Inv.idle (inv : Inv s) (idle : Idle s) : Owned s := by
  have none_ : s.loop.fresh = none := by
    rcases idle with loop | loop <;> rw [loop] <;> rfl
  constructor
  · intro c isOpen
    have less : c < s.conns.length := (List.getElem?_eq_some_iff.1 isOpen).1
    rcases inv.owned c less with ⟨g, gr, runs, rfl⟩ | ⟨raddr, fresh⟩
    · refine ⟨g, ⟨gr, runs, rfl, fun exited => inv.exited g gr runs exited isOpen⟩, ?_⟩
      rintro g' ⟨gr', runs', same, -⟩
      exact inv.distinct g' g gr' gr runs' runs same
    · rw [none_] at fresh
      cases fresh
  · exact inv.exited
  · intro raddr c found
    rcases inv.listed raddr c found with owner | fresh
    · exact owner
    · rw [none_] at fresh
      cases fresh
  · intro g g' gr gr' runs runs' same running running'
    apply inv.distinct g g' gr gr' runs runs'
    have entry := inv.entry g gr runs running.listed
    have entry' := inv.entry g' gr' runs' running'.listed
    rw [same, entry'] at entry
    exact (Option.some.inj entry).symm

/-! ### Goroutines -/

theorem setWriter_runs {writer : Writer} {h : Nat} {gr' : Goroutine}
    (runs' : (s.setWriter g gr writer).Runs h gr') :
    h = g ∧ gr' = { gr with writer := writer } ∨ h ≠ g ∧ s.Runs h gr' :=
  Slots.set_cases runs'

theorem setWriter_self (runs : s.Runs g gr) (writer : Writer) :
    (s.setWriter g gr writer).Runs g { gr with writer := writer } :=
  Slots.set_self runs

theorem setWriter_other {writer : Writer} {h : Nat} {gr' : Goroutine} (other : h ≠ g)
    (runs' : s.Runs h gr') : (s.setWriter g gr writer).Runs h gr' := by
  unfold State.Runs State.setWriter
  rw [List.getElem?_set_ne (Ne.symm other)]
  exact runs'

/-- A goroutine that goes on keeps its arguments. -/
theorem setWriter_same {writer : Writer} {h : Nat} {gr' : Goroutine} (runs : s.Runs g gr)
    (runs' : (s.setWriter g gr writer).Runs h gr') :
    ∃ old, s.Runs h old ∧ old.raddr = gr'.raddr ∧ old.udpConn = gr'.udpConn := by
  rcases setWriter_runs runs' with ⟨rfl, rfl⟩ | ⟨-, runs'⟩
  · exact ⟨gr, runs, rfl, rfl⟩
  · exact ⟨gr', runs', rfl, rfl⟩

theorem setWriter_of_runs {h : Nat} {gr' : Goroutine} (runs : s.Runs g gr) (writer : Writer)
    (runs' : s.Runs h gr') :
    ∃ new, (s.setWriter g gr writer).Runs h new ∧ new.raddr = gr'.raddr ∧
      new.udpConn = gr'.udpConn := by
  by_cases same : h = g
  · subst same
    cases Option.some.inj (runs.symm.trans runs')
    exact ⟨_, setWriter_self runs writer, rfl, rfl⟩
  · exact ⟨gr', setWriter_other same runs', rfl, rfl⟩

/-- A step of a goroutine; what it does to the map and the sockets is left open. -/
theorem Inv.setWriter (inv : Inv s) (runs : s.Runs g gr) (writer : Writer)
    {m : GoMap GoString Nat} {conns : List Bool} (length : conns.length = s.conns.length)
    (entry : ∀ h gr', (s.setWriter g gr writer).Runs h gr' → gr'.writer.Listed →
      m.get gr'.raddr = some gr'.udpConn)
    (listed : ∀ raddr c, m.get raddr = some c →
      (∃ h gr', (s.setWriter g gr writer).Runs h gr' ∧ gr'.raddr = raddr ∧ gr'.udpConn = c ∧
        gr'.writer.Listed) ∨ s.loop.fresh = some (raddr, c))
    (fresh : ∀ raddr c, s.loop.fresh = some (raddr, c) → m.get raddr = some c)
    (exited : ∀ h gr', (s.setWriter g gr writer).Runs h gr' → gr'.writer = .exited →
      ¬ conns[gr'.udpConn]? = some true) :
    Inv { s.setWriter g gr writer with udpConnMap := m, conns := conns } where
  owned := by
    intro c less
    rw [length] at less
    rcases inv.owned c less with ⟨h, gr', runs', rfl⟩ | new
    · obtain ⟨new, at_h, -, conn⟩ := setWriter_of_runs runs writer runs'
      exact .inl ⟨h, new, at_h, conn⟩
    · exact .inr new
  dialled := by
    intro h gr' runs'
    obtain ⟨old, at_h, -, conn⟩ := setWriter_same runs runs'
    show gr'.udpConn < conns.length
    rw [length, ← conn]
    exact inv.dialled h old at_h
  distinct := by
    intro h h' gr₁ gr₂ runs₁ runs₂ same
    obtain ⟨old₁, at₁, -, conn₁⟩ := setWriter_same runs runs₁
    obtain ⟨old₂, at₂, -, conn₂⟩ := setWriter_same runs runs₂
    exact inv.distinct h h' old₁ old₂ at₁ at₂ (by rw [conn₁, conn₂, same])
  entry := entry
  listed := listed
  fresh := by
    intro raddr c new
    obtain ⟨-, less, unowned⟩ := inv.fresh raddr c new
    refine ⟨fresh raddr c new, length ▸ less, ?_⟩
    intro h gr' runs'
    obtain ⟨old, at_h, -, conn⟩ := setWriter_same runs runs'
    rw [← conn]
    exact unowned h old at_h
  exited := exited

/-- A goroutine that has not deleted its entry goes on. -/
theorem Inv.advance (inv : Inv s) (runs : s.Runs g gr) (before : gr.writer.Listed)
    {writer : Writer} (after : writer.Listed) : Inv (s.setWriter g gr writer) := by
  refine inv.setWriter runs writer rfl ?_ ?_ ?_ ?_
  · intro h gr' runs' listed'
    rcases setWriter_runs runs' with ⟨rfl, rfl⟩ | ⟨-, runs'⟩
    · exact inv.entry h gr runs before
    · exact inv.entry h gr' runs' listed'
  · intro raddr c found
    rcases inv.listed raddr c found with ⟨h, gr', runs', rfl, rfl, listed'⟩ | new
    · by_cases same : h = g
      · subst same
        cases Option.some.inj (runs.symm.trans runs')
        exact .inl ⟨h, _, setWriter_self runs writer, rfl, rfl, after⟩
      · exact .inl ⟨h, gr', setWriter_other same runs', rfl, rfl, listed'⟩
    · exact .inr new
  · intro raddr c new
    exact (inv.fresh raddr c new).1
  · intro h gr' runs' exited
    rcases setWriter_runs runs' with ⟨rfl, rfl⟩ | ⟨-, runs'⟩
    · subst exited
      exact absurd after id
    · exact inv.exited h gr' runs' exited

theorem Inv.delete (inv : Inv s) (runs : s.Runs g gr) (before : gr.writer = .returning) :
    Inv { s.setWriter g gr .deleted with udpConnMap := s.udpConnMap.delete gr.raddr } := by
  have own : s.udpConnMap.get gr.raddr = some gr.udpConn :=
    inv.entry g gr runs (by rw [before]; trivial)
  refine inv.setWriter runs .deleted rfl ?_ ?_ ?_ ?_
  · intro h gr' runs' listed'
    rcases setWriter_runs runs' with ⟨rfl, rfl⟩ | ⟨other, runs'⟩
    · exact absurd listed' id
    · have entry := inv.entry h gr' runs' listed'
      rw [GoMap.get_delete, if_neg]
      · exact entry
      · intro same
        rw [same, own] at entry
        exact other (inv.distinct h g gr' gr runs' runs (Option.some.inj entry).symm)
  · intro raddr c found
    obtain ⟨other, found⟩ := GoMap.get_delete_eq_some.1 found
    rcases inv.listed raddr c found with ⟨h, gr', runs', rfl, rfl, listed'⟩ | new
    · refine .inl ⟨h, gr', setWriter_other ?_ runs', rfl, rfl, listed'⟩
      rintro rfl
      cases Option.some.inj (runs.symm.trans runs')
      exact other rfl
    · exact .inr new
  · intro raddr c new
    obtain ⟨found, -, unowned⟩ := inv.fresh raddr c new
    rw [GoMap.get_delete, if_neg]
    · exact found
    · rintro rfl
      exact unowned g gr runs (Option.some.inj (own.symm.trans found))
  · intro h gr' runs' exited
    rcases setWriter_runs runs' with ⟨rfl, rfl⟩ | ⟨-, runs'⟩
    · cases exited
    · exact inv.exited h gr' runs' exited

/-- A socket that is closed is not open, and the others are as they were. -/
theorem not_open_set {conns : List Bool} {c d : Nat} (closed : ¬ conns[d]? = some true ∨ d = c) :
    ¬ (conns.set c false)[d]? = some true := by
  intro isOpen
  rcases Slots.set_cases isOpen with ⟨-, differs⟩ | ⟨other, isOpen⟩
  · cases differs
  · rcases closed with closed | same
    · exact closed isOpen
    · exact other same

theorem Inv.closeConn (inv : Inv s) (runs : s.Runs g gr) (before : gr.writer = .deleted) :
    Inv { s.setWriter g gr .exited with conns := s.conns.set gr.udpConn false } := by
  refine inv.setWriter runs .exited List.length_set ?_ ?_ ?_ ?_
  · intro h gr' runs' listed'
    rcases setWriter_runs runs' with ⟨rfl, rfl⟩ | ⟨-, runs'⟩
    · exact absurd listed' id
    · exact inv.entry h gr' runs' listed'
  · intro raddr c found
    rcases inv.listed raddr c found with ⟨h, gr', runs', rfl, rfl, listed'⟩ | new
    · refine .inl ⟨h, gr', setWriter_other ?_ runs', rfl, rfl, listed'⟩
      rintro rfl
      cases Option.some.inj (runs.symm.trans runs')
      rw [before] at listed'
      exact listed'
    · exact .inr new
  · intro raddr c new
    exact (inv.fresh raddr c new).1
  · intro h gr' runs' exited
    rcases setWriter_runs runs' with ⟨rfl, rfl⟩ | ⟨-, runs'⟩
    · exact not_open_set (.inr rfl)
    · exact not_open_set (.inl (inv.exited h gr' runs' exited))

/-! ### The loop -/

/-- The loop goes on with the same new socket, and may have closed one. -/
theorem Inv.setLoop (inv : Inv s) {loop : Loop} (same : loop.fresh = s.loop.fresh)
    {conns : List Bool} (closed : conns = s.conns ∨ ∃ c, conns = s.conns.set c false) :
    Inv { s with conns := conns, loop := loop } where
  owned := by
    intro c less
    rw [same]
    refine inv.owned c ?_
    rcases closed with rfl | ⟨d, rfl⟩
    · exact less
    · rwa [List.length_set] at less
  dialled := by
    intro g gr runs
    rcases closed with rfl | ⟨d, rfl⟩
    · exact inv.dialled g gr runs
    · show gr.udpConn < (s.conns.set d false).length
      rw [List.length_set]
      exact inv.dialled g gr runs
  distinct := inv.distinct
  entry := inv.entry
  listed := by
    rw [same]
    exact inv.listed
  fresh := by
    intro raddr c new
    rw [same] at new
    obtain ⟨found, less, unowned⟩ := inv.fresh raddr c new
    refine ⟨found, ?_, unowned⟩
    rcases closed with rfl | ⟨d, rfl⟩
    · exact less
    · show c < (s.conns.set d false).length
      rwa [List.length_set]
  exited := by
    intro g gr runs exited
    rcases closed with rfl | ⟨d, rfl⟩
    · exact inv.exited g gr runs exited
    · exact not_open_set (.inl (inv.exited g gr runs exited))

/-- The loop dials, as the address is not in the map. -/
theorem Inv.dial (inv : Inv s) (idle : s.loop.fresh = none) {raddr : GoString}
    (free : s.udpConnMap.get raddr = none) {buf : GoString} :
    Inv { s with
      udpConnMap := s.udpConnMap.set raddr s.conns.length
      conns := s.conns ++ [true]
      loop := .writing raddr s.conns.length false buf } where
  owned := by
    intro c less
    rw [List.length_append, List.length_singleton] at less
    by_cases new : c = s.conns.length
    · exact .inr ⟨raddr, by rw [new]; rfl⟩
    · rcases inv.owned c (by omega) with owner | ⟨raddr', fresh⟩
      · exact .inl owner
      · rw [idle] at fresh
        cases fresh
  dialled := by
    intro g gr runs
    have less := inv.dialled g gr runs
    show gr.udpConn < (s.conns ++ [true]).length
    rw [List.length_append]
    omega
  distinct := inv.distinct
  entry := by
    intro g gr runs listed
    exact GoMap.get_set_of_fresh free (inv.entry g gr runs listed)
  listed := by
    intro raddr' c found
    rcases GoMap.get_set_eq_some.1 found with ⟨rfl, rfl⟩ | ⟨-, found⟩
    · exact .inr rfl
    · rcases inv.listed raddr' c found with owner | fresh
      · exact .inl owner
      · rw [idle] at fresh
        cases fresh
  fresh := by
    intro raddr' c new
    cases new
    refine ⟨GoMap.get_set_eq_some.2 (.inl ⟨rfl, rfl⟩), ?_, ?_⟩
    · show s.conns.length < (s.conns ++ [true]).length
      rw [List.length_append]
      exact Nat.lt_succ_self _
    · intro g gr runs
      exact Nat.ne_of_lt (inv.dialled g gr runs)
  exited := by
    intro g gr runs exited isOpen
    rcases Slots.append_cases isOpen with isOpen | ⟨new, -⟩
    · exact inv.exited g gr runs exited isOpen
    · have less := inv.dialled g gr runs
      omega

/-- The new socket gets its goroutine. -/
theorem Inv.go (inv : Inv s) {raddr : GoString} {c : Nat}
    (new : s.loop.fresh = some (raddr, c)) :
    Inv { s with goroutines := s.goroutines ++ [⟨raddr, c, .reading⟩], loop := .receiving } where
  owned := by
    intro d less
    rcases inv.owned d less with ⟨g, gr, runs, conn⟩ | ⟨raddr', fresh⟩
    · exact .inl ⟨g, gr, Slots.append_old runs, conn⟩
    · cases new.symm.trans fresh
      exact .inl ⟨_, _, List.getElem?_concat_length, rfl⟩
  dialled := by
    intro g gr runs
    rcases Slots.append_cases runs with runs | ⟨-, rfl⟩
    · exact inv.dialled g gr runs
    · exact (inv.fresh raddr c new).2.1
  distinct := by
    have unowned := (inv.fresh raddr c new).2.2
    intro g g' gr gr' runs runs' same
    rcases Slots.append_cases runs with runs | ⟨last, rfl⟩
    · rcases Slots.append_cases runs' with runs' | ⟨-, rfl⟩
      · exact inv.distinct g g' gr gr' runs runs' same
      · exact absurd same (unowned g gr runs)
    · rcases Slots.append_cases runs' with runs' | ⟨last', rfl⟩
      · exact absurd same.symm (unowned g' gr' runs')
      · exact last.trans last'.symm
  entry := by
    intro g gr runs listed
    rcases Slots.append_cases runs with runs | ⟨-, rfl⟩
    · exact inv.entry g gr runs listed
    · exact (inv.fresh raddr c new).1
  listed := by
    intro raddr' d found
    left
    rcases inv.listed raddr' d found with ⟨g, gr, runs, owner⟩ | fresh
    · exact ⟨g, gr, Slots.append_old runs, owner⟩
    · cases new.symm.trans fresh
      exact ⟨_, _, List.getElem?_concat_length, rfl, rfl, trivial⟩
  fresh := by
    intro raddr' d fresh
    cases fresh
  exited := by
    intro g gr runs exited
    rcases Slots.append_cases runs with runs | ⟨-, rfl⟩
    · exact inv.exited g gr runs exited
    · cases exited

/-! ### All steps -/

/-- What a step can do. -/
inductive Moves (s : State) : Label → State → Prop where
  | stay (l : Label) : Moves s l s
  | loop (l : Label) {loop : Loop} {conns : List Bool} (same : loop.fresh = s.loop.fresh)
      (closed : conns = s.conns ∨ ∃ c, conns = s.conns.set c false) :
      Moves s l { s with conns := conns, loop := loop }
  | dial (l : Label) {raddr : GoString} (buf : GoString) (idle : s.loop.fresh = none)
      (free : s.udpConnMap.get raddr = none) :
      Moves s l { s with
        udpConnMap := s.udpConnMap.set raddr s.conns.length
        conns := s.conns ++ [true]
        loop := .writing raddr s.conns.length false buf }
  | go (l : Label) {raddr : GoString} {c : Nat} (new : s.loop.fresh = some (raddr, c)) :
      Moves s l { s with
        goroutines := s.goroutines ++ [⟨raddr, c, .reading⟩], loop := .receiving }
  | advance (l : Label) {g : Nat} {gr : Goroutine} {writer : Writer} (runs : s.Runs g gr)
      (before : gr.writer.Listed) (after : writer.Listed) : Moves s l (s.setWriter g gr writer)
  | delete {g : Nat} {gr : Goroutine} (runs : s.Runs g gr) (before : gr.writer = .returning) :
      Moves s (.delete g)
        { s.setWriter g gr .deleted with udpConnMap := s.udpConnMap.delete gr.raddr }
  | closeConn (l : Label) {g : Nat} {gr : Goroutine} (runs : s.Runs g gr)
      (before : gr.writer = .deleted) :
      Moves s l { s.setWriter g gr .exited with conns := s.conns.set gr.udpConn false }

theorem step_moves {l : Label} (next : step s l = some t) : Moves s l t := by
  cases l with
  | receive udpMsg dial =>
      simp only [step] at next
      split at next
      · rename_i receiving
        have idle : s.loop.fresh = none := by
          rw [receiving]
          rfl
        split at next
        · cases next
          exact .stay _
        · rename_i buf content
          split at next
          · cases next
            refine .loop _ ?_ (.inl rfl)
            rw [idle]
            rfl
          · rename_i free
            split at next
            · cases next
              exact .dial _ buf idle free
            · cases next
              exact .stay _
      · cases next
  | readChClosed =>
      simp only [step] at next
      split at next
      · rename_i receiving
        cases next
        refine .loop _ ?_ (.inl rfl)
        rw [receiving]
        rfl
      · cases next
  | write err =>
      simp only [step] at next
      split at next
      · rename_i raddr c ok buf loop
        have fresh : s.loop.fresh = if ok then none else some (raddr, c) := by
          rw [loop]
          cases ok <;> rfl
        split at next
        · cases next
          refine .loop _ ?_ (.inl rfl)
          rw [fresh]
          cases ok <;> rfl
        · split at next
          · cases next
            refine .loop _ ?_ (.inl rfl)
            rw [fresh]
            cases ok <;> rfl
          · cases next
      · cases next
  | close =>
      simp only [step] at next
      split at next
      · rename_i raddr c ok loop
        cases next
        refine .loop _ ?_ (.inr ⟨c, rfl⟩)
        rw [loop]
        cases ok <;> rfl
      · cases next
  | go =>
      simp only [step] at next
      split at next
      · rename_i raddr c loop
        cases next
        refine .go _ ?_
        rw [loop]
        rfl
      · cases next
  | read g datagram =>
      obtain ⟨gr, runs, next⟩ := Option.bind_eq_some_iff.1 next
      cases writer : gr.writer with
      | reading =>
          simp only [writer] at next
          split at next
          · split at next
            · cases next
              exact .advance _ runs (writer ▸ trivial) trivial
            · cases next
          · cases next
            exact .advance _ runs (writer ▸ trivial) trivial
          · cases next
      | sending _ => simp [writer] at next
      | returning => simp [writer] at next
      | deleted => simp [writer] at next
      | exited => simp [writer] at next
  | send g err =>
      obtain ⟨gr, runs, next⟩ := Option.bind_eq_some_iff.1 next
      split at next
      · rename_i udpMsg is_sending
        cases next
        refine .advance _ runs (is_sending ▸ trivial) ?_
        cases err <;> trivial
      · cases next
  | delete g =>
      obtain ⟨gr, runs, next⟩ := Option.bind_eq_some_iff.1 next
      split at next
      · rename_i returning
        cases next
        exact .delete runs returning
      · cases next
  | closeConn g =>
      obtain ⟨gr, runs, next⟩ := Option.bind_eq_some_iff.1 next
      split at next
      · rename_i deleted
        cases next
        exact .closeConn _ runs deleted
      · cases next

theorem Moves.bufSize {l : Label} (moves : Moves s l t) : t.bufSize = s.bufSize := by
  cases moves <;> rfl

theorem Inv.moves {l : Label} (inv : Inv s) (moves : Moves s l t) : Inv t := by
  cases moves with
  | stay => exact inv
  | loop _ same closed => exact inv.setLoop same closed
  | dial _ buf idle free => exact inv.dial idle free
  | go _ new => exact inv.go new
  | advance _ runs before after => exact inv.advance runs before after
  | delete runs before => exact inv.delete runs before
  | closeConn _ runs before => exact inv.closeConn runs before

theorem Inv.ownEntry {l : Label} (inv : Inv s) (moves : Moves s l t) : OwnEntry s l t := by
  intro raddr c found gone
  cases moves with
  | stay | loop | go | advance | closeConn => exact absurd found gone
  | dial _ buf idle free => exact absurd (GoMap.get_set_of_fresh free found) gone
  | @delete g gr runs before =>
      have entry := inv.entry g gr runs (before ▸ trivial)
      refine ⟨g, gr, rfl, runs, ?_⟩
      by_cases own : raddr = gr.raddr
      · rw [own, entry] at found
        exact Option.some.inj found
      · exact absurd (GoMap.get_delete_eq_some.2 ⟨own, found⟩) gone

end Steps

/-- **In every run a goroutine deletes the entry of its own socket only, and between two
packets the sockets are owned.** -/
theorem sessions_owned (bufSize : Nat) (ls : List Label) :
    Along step (fun s l t => OwnEntry s l t ∧ (Idle t → Owned t)) (start bufSize) ls := by
  refine Along.strengthen Inv ?_ ?_ (start_inv bufSize)
    (along_of_forall (fun _ _ _ => trivial) (start bufSize) ls)
  · intro s l t inv _ next
    exact inv.moves (step_moves next)
  · intro s l t inv _ next
    have moves := step_moves next
    exact ⟨inv.ownEntry moves, (inv.moves moves).idle⟩

end ChmlFrp.Udp.Forwarder
