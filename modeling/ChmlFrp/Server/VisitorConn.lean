/-
# ChmlFrp.Server.VisitorConn — the handshake of a visitor connection

The case `NewVisitorConn` of `handleConnection`, `InternalListener` and
`handleUserTCPConnection`, for the connections of one proxy.  `NewConn` puts a connection
on the proxy's listener; after that, `handleConnection` writes `NewVisitorConnResp` to it
while the accept loop may join it to a work connection, whose bytes are copied to it.

What the writes leave on a connection is a list of writes, each with its origin.

* `response_first`: in the runs in which a connection is joined only after its response
  has been written, the response is the first thing written.
* `backend_first`: a run in which bytes of the backend are.
-/
import ChmlFrp.Lib.Chan
import ChmlFrp.Lib.GoString
import ChmlFrp.Lib.Transition
import ChmlFrp.Server.Visitor
import Mathlib.Logic.Function.Basic

namespace ChmlFrp.Server.VisitorConn

set_option autoImplicit false

open ChmlFrp.Lib
open ChmlFrp.Lib.Transition
open Visitor (ConnError ListenerBundle)

/-- Where `handleConnection` is. -/
inductive Handler where
  | reading
  /-- It is about to write the response, with an error or without. -/
  | responding (err : Option ConnError)
  /-- The write has returned; it was complete or failed. -/
  | responded (err : Option ConnError) (complete : Bool)
  deriving DecidableEq, Repr

/-- Where `handleUserTCPConnection` is. -/
inductive UserConn where
  | none
  /-- Taken by the accept loop; it has no work connection yet. -/
  | accepted
  /-- In `Join`. -/
  | joined
  | ended
  deriving DecidableEq, Repr

inductive Write where
  | response (bytes : GoString)
  | backend (bytes : GoString)
  deriving DecidableEq, Repr

structure Conn where
  handler : Handler
  userConn : UserConn
  isOpen : Bool
  wire : List Write
  deriving DecidableEq, Repr

/-- A connection that the server has accepted. -/
def acceptedConn : Conn := ⟨.reading, .none, true, []⟩

structure State where
  vm : Visitor.Manager
  /-- Of the listener of the proxy. -/
  acceptCh : Chan Nat
  conns : Nat → Conn

/-- The proxy listens under its name. -/
def start (name : String) (bundle : ListenerBundle) : State where
  vm := (∅ : Visitor.Manager).set name bundle
  acceptCh := .make 128
  conns := fun _ => acceptedConn

/-- `InternalListener.PutConn`: the channel, whether the connection is left open, and the
error, which is the panic of a send on the closed channel. -/
def putConn (acceptCh : Chan Nat) (c : Nat) : Chan Nat × Bool × Except String Unit :=
  match acceptCh.send c with
  | .done ch => (ch, true, .ok ())
  | .blocks => (acceptCh, false, .ok ())
  | .panics => (acceptCh, true, .error "send on closed channel")

inductive Label where
  /-- `NewConn`, with the fields of the message and the outcome of the encryption. -/
  | newConn (c : Nat) (timestamp : Int) (signKey : String) (useEncryption : Bool)
      (visitorUser : String) (encryption : Except String Unit)
  /-- The write of the response, of which the given number of bytes gets out. -/
  | respond (c : Nat) (n : Nat)
  /-- One round of the accept loop. -/
  | accept
  /-- `handleUserTCPConnection` gets a work connection and joins, or gives up. -/
  | join (c : Nat) (ok : Bool)
  /-- `Join` copies bytes of the backend. -/
  | copy (c : Nat) (bytes : GoString)
  | endJoin (c : Nat)
  /-- The proxy closes its listener. -/
  | closeListener
  /-- The name is taken out of the manager. -/
  | forget

section Machine

-- `resp` are the bytes of a `NewVisitorConnResp` with the proxy's name and the error.
variable (hash : String → String) (name : String) (resp : Option ConnError → GoString)

namespace Conn

/-- `WriteMsg` of the response; a connection with an error is closed then. -/
def respond (conn : Conn) (err : Option ConnError) (n : Nat) : Conn :=
  { conn with
    handler := .responded err (conn.isOpen && decide ((resp err).length ≤ n))
    wire := if conn.isOpen then conn.wire ++ [.response ((resp err).take n)] else conn.wire
    isOpen := conn.isOpen && err.isNone }

/-- Bytes of the backend are written to the connection. -/
def copy (conn : Conn) (bytes : GoString) : Conn :=
  { conn with wire := if conn.isOpen then conn.wire ++ [.backend bytes] else conn.wire }

end Conn

def State.setConn (s : State) (c : Nat) (conn : Conn) : State :=
  { s with conns := Function.update s.conns c conn }

def step (s : State) : Label → Option State
  | .newConn c timestamp signKey useEncryption visitorUser encryption =>
      if (s.conns c).handler = .reading then
        let (ch, stays, put) := putConn s.acceptCh c
        match Visitor.newConn hash s.vm name timestamp signKey useEncryption visitorUser
            encryption put with
        | .ok _ =>
            some
              { s with
                acceptCh := ch
                conns := Function.update s.conns c
                  { s.conns c with handler := .responding none, isOpen := stays } }
        | .error err =>
            some (s.setConn c { s.conns c with handler := .responding (some err) })
      else none
  | .respond c n =>
      match (s.conns c).handler with
      | .responding err => some (s.setConn c ((s.conns c).respond resp err n))
      | _ => none
  | .accept =>
      match s.acceptCh.recv with
      | .done (some c, ch) =>
          some
            { s with
              acceptCh := ch
              conns := Function.update s.conns c { s.conns c with userConn := .accepted } }
      | _ => none
  | .join c ok =>
      if (s.conns c).userConn = .accepted then
        some (s.setConn c
          (if ok then { s.conns c with userConn := .joined }
          else { s.conns c with userConn := .ended, isOpen := false }))
      else none
  | .copy c bytes =>
      if (s.conns c).userConn = .joined then some (s.setConn c ((s.conns c).copy bytes))
      else none
  | .endJoin c =>
      if (s.conns c).userConn = .joined then
        some (s.setConn c { s.conns c with userConn := .ended, isOpen := false })
      else none
  | .closeListener =>
      match s.acceptCh.close with
      | .done ch => some { s with acceptCh := ch }
      | _ => none
  | .forget => some { s with vm := Visitor.closeListener s.vm name }

/-- Bytes of the backend stand on the connection only after the complete response. -/
def ResponseFirst (conn : Conn) : Prop :=
  ∀ bytes, .backend bytes ∈ conn.wire → ∃ rest, conn.wire = .response (resp none) :: rest

/-- A connection is joined only after its response has been written. -/
def Guard (s : State) : Label → Prop
  | .join c ok => ok = true → (s.conns c).handler = .responded none true
  | _ => True

/-! ## The invariant -/

/-- The connection was put on the listener. -/
def Admitted (conn : Conn) : Prop :=
  conn.handler = .responding none ∨ ∃ complete, conn.handler = .responded none complete

structure ConnInv (conn : Conn) : Prop where
  fresh : conn.handler = .reading → conn.userConn = .none
  silent : conn.handler = .reading ∨ (∃ err, conn.handler = .responding err) → conn.wire = []
  active : conn.userConn = .accepted ∨ conn.userConn = .joined →
    conn.isOpen = true ∧ Admitted conn
  joined : conn.userConn = .joined → conn.handler = .responded none true
  complete : conn.handler = .responded none true →
    ∃ rest, conn.wire = .response (resp none) :: rest
  incomplete : conn.handler = .responded none false →
    ∀ rest, conn.wire ≠ .response (resp none) :: rest
  backend : ∀ bytes, .backend bytes ∈ conn.wire → conn.handler = .responded none true

structure Inv (s : State) : Prop where
  nodup : s.acceptCh.buf.Nodup
  queued : ∀ c ∈ s.acceptCh.buf,
    (s.conns c).userConn = .none ∧ (s.conns c).isOpen = true ∧ Admitted (s.conns c)
  conn : ∀ c, ConnInv resp (s.conns c)

theorem start_inv (bundle : ListenerBundle) : Inv resp (start name bundle) where
  nodup := List.nodup_nil
  queued c mem := by cases mem
  conn c :=
    { fresh := fun _ => rfl
      silent := fun _ => rfl
      active := by rintro (h | h) <;> cases h
      joined := nofun
      complete := nofun
      incomplete := nofun
      backend := fun bytes mem => by cases mem }

section Conns

variable {resp} {conn : Conn}

theorem ConnInv.responseFirst (inv : ConnInv resp conn) : ResponseFirst resp conn :=
  fun bytes mem => inv.complete (inv.backend bytes mem)

theorem ConnInv.respond {err : Option ConnError} (inv : ConnInv resp conn)
    (responding : conn.handler = .responding err) (n : Nat) :
    ConnInv resp (conn.respond resp err n) := by
  have empty : conn.wire = [] := inv.silent (.inr ⟨err, responding⟩)
  have notJoined : conn.userConn ≠ .joined := by
    intro joined
    rw [inv.joined joined] at responding
    cases responding
  refine ⟨nofun, ?_, ?_, ?_, ?_, ?_, ?_⟩
  · rintro (h | ⟨_, h⟩) <;> cases h
  · intro active
    obtain ⟨opened, admitted⟩ := inv.active active
    have none_ : err = none := by
      rcases admitted with same | ⟨_, other⟩
      · rw [responding] at same
        cases same
        rfl
      · rw [responding] at other
        cases other
    subst none_
    refine ⟨?_, .inr ⟨_, rfl⟩⟩
    show (conn.isOpen && true) = true
    rw [opened]
    rfl
  · intro joined
    exact absurd joined notJoined
  · intro complete
    simp only [Conn.respond, Handler.responded.injEq, Bool.and_eq_true,
      decide_eq_true_eq] at complete
    obtain ⟨rfl, opened, enough⟩ := complete
    refine ⟨[], ?_⟩
    simp only [Conn.respond, opened, if_true, empty, List.nil_append, List.take_of_length_le enough]
  · intro incomplete rest
    simp only [Conn.respond, Handler.responded.injEq] at incomplete
    obtain ⟨rfl, short⟩ := incomplete
    cases opened : conn.isOpen with
    | false => simp [Conn.respond, opened, empty]
    | true =>
        rw [opened, Bool.true_and, decide_eq_false_iff_not] at short
        simp only [Conn.respond, opened, if_true, empty, List.nil_append, ne_eq, List.cons.injEq,
          Write.response.injEq, not_and]
        intro same
        have length := congrArg List.length same
        rw [List.length_take] at length
        omega
  · intro bytes mem
    simp only [Conn.respond, empty, List.nil_append] at mem
    split at mem
    · rw [List.mem_singleton] at mem
      cases mem
    · cases mem

theorem ConnInv.copy (inv : ConnInv resp conn) (joined : conn.userConn = .joined)
    (bytes : GoString) : ConnInv resp (conn.copy bytes) := by
  have responded := inv.joined joined
  refine ⟨inv.fresh, ?_, inv.active, inv.joined, ?_, ?_, ?_⟩
  · rintro (h | ⟨_, h⟩)
    · cases responded.symm.trans h
    · cases responded.symm.trans h
  · intro complete
    obtain ⟨rest, wire⟩ := inv.complete complete
    simp only [Conn.copy, wire]
    split
    · exact ⟨rest ++ [.backend bytes], rfl⟩
    · exact ⟨rest, rfl⟩
  · intro incomplete
    cases responded.symm.trans incomplete
  · exact fun _ _ => responded

/-- The connection leaves `handleUserTCPConnection`. -/
theorem ConnInv.leave (inv : ConnInv resp conn) (notFresh : conn.userConn ≠ .none) :
    ConnInv resp { conn with userConn := .ended, isOpen := false } where
  fresh reading := absurd (inv.fresh reading) notFresh
  silent := inv.silent
  active := by rintro (h | h) <;> cases h
  joined := nofun
  complete := inv.complete
  incomplete := inv.incomplete
  backend := inv.backend

theorem ConnInv.accept (inv : ConnInv resp conn) (waits : conn.isOpen = true ∧ Admitted conn) :
    ConnInv resp { conn with userConn := .accepted } where
  fresh reading := by
    rcases waits.2 with h | ⟨_, h⟩
    · cases h.symm.trans reading
    · cases h.symm.trans reading
  silent := inv.silent
  active _ := waits
  joined := nofun
  complete := inv.complete
  incomplete := inv.incomplete
  backend := inv.backend

theorem ConnInv.join (inv : ConnInv resp conn) (accepted : conn.userConn = .accepted)
    (responded : conn.handler = .responded none true) :
    ConnInv resp { conn with userConn := .joined } where
  fresh reading := by cases responded.symm.trans reading
  silent := inv.silent
  active _ := inv.active (.inl accepted)
  joined _ := responded
  complete := inv.complete
  incomplete := inv.incomplete
  backend := inv.backend

end Conns

section Step

variable {hash} {name} {resp} {s t : State} {l : Label}

/-- One connection changes. -/
theorem Inv.setConn (inv : Inv resp s) {c : Nat} {conn : Conn} (kept : ConnInv resp conn)
    (waits : c ∈ s.acceptCh.buf →
      conn.userConn = .none ∧ conn.isOpen = true ∧ Admitted conn) :
    Inv resp (s.setConn c conn) where
  nodup := inv.nodup
  queued c' mem := by
    simp only [State.setConn]
    by_cases same : c' = c
    · subst same
      rw [Function.update_self]
      exact waits mem
    · rw [Function.update_of_ne same]
      exact inv.queued c' mem
  conn c' := by
    simp only [State.setConn]
    by_cases same : c' = c
    · subst same
      rw [Function.update_self]
      exact kept
    · rw [Function.update_of_ne same]
      exact inv.conn c'

theorem newConn_inv {c : Nat} {timestamp : Int} {signKey : String} {useEncryption : Bool}
    {visitorUser : String} {encryption : Except String Unit} (inv : Inv resp s)
    (next : step hash name resp s
      (.newConn c timestamp signKey useEncryption visitorUser encryption) = some t) :
    Inv resp t := by
  simp only [step, Option.ite_none_right_eq_some] at next
  obtain ⟨reading, next⟩ := next
  have old := inv.conn c
  have idle : ¬ ((s.conns c).userConn = .accepted ∨ (s.conns c).userConn = .joined) := by
    intro active
    rcases (old.active active).2 with h | ⟨_, h⟩
    · cases reading.symm.trans h
    · cases reading.symm.trans h
  have unqueued : c ∉ s.acceptCh.buf := by
    intro mem
    rcases (inv.queued c mem).2.2 with h | ⟨_, h⟩
    · cases reading.symm.trans h
    · cases reading.symm.trans h
  have waiting : ∀ err stays, ConnInv resp
      { s.conns c with handler := .responding err, isOpen := stays } := by
    intro err stays
    refine ⟨nofun, fun _ => old.silent (.inl reading), fun active => absurd active idle, ?_,
      nofun, nofun, ?_⟩
    · exact fun joined => absurd (.inr joined) idle
    · intro bytes mem
      rw [old.silent (.inl reading)] at mem
      cases mem
  split at next
  · rename_i bundle admitted
    cases next
    simp only [putConn]
    cases sent : s.acceptCh.send c with
    | done ch =>
        obtain ⟨-, -, rfl⟩ := Chan.send_eq_done_iff.1 sent
        refine ⟨?_, ?_, ?_⟩
        · rw [List.nodup_append]
          refine ⟨inv.nodup, List.nodup_singleton c, ?_⟩
          intro c' mem c'' single same
          rw [List.mem_singleton] at single
          subst single same
          exact unqueued mem
        · intro c' mem
          by_cases same : c' = c
          · subst same
            simp only [Function.update_self]
            exact ⟨old.fresh reading, trivial, .inl rfl⟩
          · rw [List.mem_append, List.mem_singleton] at mem
            simp only [Function.update_of_ne same]
            exact inv.queued c' (mem.resolve_right same)
        · exact (inv.setConn (waiting none true) (fun mem => absurd mem unqueued)).conn
    | blocks => exact inv.setConn (waiting none false) (fun mem => absurd mem unqueued)
    | panics => exact inv.setConn (waiting none true) (fun mem => absurd mem unqueued)
  · cases next
    exact inv.setConn (waiting _ _) (fun mem => absurd mem unqueued)

theorem accept_inv (inv : Inv resp s) (next : step hash name resp s .accept = some t) :
    Inv resp t := by
  simp only [step] at next
  split at next
  · rename_i c ch received
    cases next
    obtain ⟨rest, buf, rfl⟩ := Chan.recv_eq_some_iff.1 received
    have nodup := inv.nodup
    rw [buf, List.nodup_cons] at nodup
    refine ⟨nodup.2, ?_, ?_⟩
    · intro c' mem
      have different : c' ≠ c := by
        rintro rfl
        exact nodup.1 mem
      simp only [Function.update_of_ne different]
      exact inv.queued c' (buf ▸ List.mem_cons_of_mem c mem)
    · intro c'
      by_cases same : c' = c
      · subst same
        simp only [Function.update_self]
        have mem : c' ∈ s.acceptCh.buf := buf ▸ List.mem_cons_self
        exact (inv.conn c').accept (inv.queued c' mem).2
      · simp only [Function.update_of_ne same]
        exact inv.conn c'
  · cases next

theorem Inv.unqueued (inv : Inv resp s) {c : Nat} (busy : (s.conns c).userConn ≠ .none) :
    c ∉ s.acceptCh.buf := fun mem => busy (inv.queued c mem).1

theorem join_inv {c : Nat} {ok : Bool} (inv : Inv resp s) (guard : Guard s (.join c ok))
    (next : step hash name resp s (.join c ok) = some t) : Inv resp t := by
  simp only [step, Option.ite_none_right_eq_some] at next
  obtain ⟨accepted, ⟨⟩⟩ := next
  have busy : (s.conns c).userConn ≠ .none := by
    rw [accepted]
    decide
  cases ok with
  | true =>
      exact inv.setConn ((inv.conn c).join accepted (guard rfl))
        (fun mem => absurd mem (inv.unqueued busy))
  | false =>
      exact inv.setConn ((inv.conn c).leave busy) (fun mem => absurd mem (inv.unqueued busy))

theorem step_inv (inv : Inv resp s) (guard : Guard s l)
    (next : step hash name resp s l = some t) : Inv resp t := by
  cases l with
  | newConn => exact newConn_inv inv next
  | accept => exact accept_inv inv next
  | join => exact join_inv inv guard next
  | respond c n =>
      simp only [step] at next
      split at next
      · rename_i err responding
        cases next
        refine inv.setConn ((inv.conn c).respond responding n) (fun mem => ?_)
        obtain ⟨idle, opened, admitted⟩ := inv.queued c mem
        have none_ : err = none := by
          rcases admitted with same | ⟨_, other⟩
          · cases responding.symm.trans same
            rfl
          · cases responding.symm.trans other
        subst none_
        refine ⟨idle, ?_, .inr ⟨_, rfl⟩⟩
        show ((s.conns c).isOpen && true) = true
        rw [opened]
        rfl
      · cases next
  | copy c bytes =>
      simp only [step, Option.ite_none_right_eq_some] at next
      obtain ⟨joined, ⟨⟩⟩ := next
      have busy : (s.conns c).userConn ≠ .none := by
        rw [joined]
        decide
      exact inv.setConn ((inv.conn c).copy joined bytes)
        (fun mem => absurd mem (inv.unqueued busy))
  | endJoin c =>
      simp only [step, Option.ite_none_right_eq_some] at next
      obtain ⟨joined, ⟨⟩⟩ := next
      have busy : (s.conns c).userConn ≠ .none := by
        rw [joined]
        decide
      exact inv.setConn ((inv.conn c).leave busy) (fun mem => absurd mem (inv.unqueued busy))
  | closeListener =>
      simp only [step] at next
      split at next
      · rename_i ch closed
        cases next
        obtain ⟨-, rfl⟩ := Chan.close_eq_done_iff.1 closed
        exact ⟨inv.nodup, inv.queued, inv.conn⟩
      · cases next
  | forget =>
      cases next
      exact ⟨inv.nodup, inv.queued, inv.conn⟩

/-- What is copied to a connection that has no response yet comes first. -/
theorem backend_first_of_unguarded (inv : Inv resp s) (unguarded : ¬ Guard s l)
    (next : step hash name resp s l = some t) :
    ∃ call u c, step hash name resp t call = some u ∧ ¬ ResponseFirst resp (u.conns c) := by
  cases l with
  | join c ok =>
      obtain ⟨rfl, early⟩ := Classical.not_imp.1 unguarded
      simp only [step, Option.ite_none_right_eq_some, if_true] at next
      obtain ⟨accepted, ⟨⟩⟩ := next
      obtain ⟨opened, admitted⟩ := (inv.conn c).active (.inl accepted)
      refine ⟨.copy c [0], _, c, if_pos (by simp [State.setConn]), ?_⟩
      intro first
      simp only [State.setConn, Function.update_self, ResponseFirst, Conn.copy, opened,
        if_true] at first
      obtain ⟨rest, wire⟩ := first [0] (by simp)
      rcases admitted with responding | ⟨complete, responded⟩
      · rw [(inv.conn c).silent (.inr ⟨none, responding⟩)] at wire
        cases wire
      · cases complete with
        | true => exact early responded
        | false =>
            cases old : (s.conns c).wire with
            | nil =>
                rw [old] at wire
                cases wire
            | cons write writes =>
                rw [old, List.cons_append, List.cons.injEq] at wire
                exact (inv.conn c).incomplete responded writes (wire.1 ▸ old)
  | _ => exact absurd trivial unguarded

end Step

end Machine

/-- **The response is the first thing written** to every visitor connection, in the runs
that join a connection only after its response has been written; any other join can be
continued so that bytes of the backend are. -/
theorem response_first (hash : String → String) (name : String)
    (resp : Option ConnError → GoString) (bundle : ListenerBundle) :
    (∀ ls, Along (step hash name resp) (fun s l _ => Guard s l) (start name bundle) ls →
      Along (step hash name resp) (fun _ _ t => ∀ c, ResponseFirst resp (t.conns c))
        (start name bundle) ls) ∧
    ∀ ls s l t, Along (step hash name resp) (fun s l _ => Guard s l) (start name bundle) ls →
      exec (step hash name resp) (start name bundle) ls = some s → ¬ Guard s l →
        step hash name resp s l = some t →
          ∃ more, ¬ Along (step hash name resp)
            (fun _ _ t => ∀ c, ResponseFirst resp (t.conns c)) (start name bundle)
            (ls ++ l :: more) := by
  have kept : ∀ s l t, Inv resp s → Guard s l → step hash name resp s l = some t →
      Inv resp t := fun _ _ _ inv guard next => step_inv inv guard next
  have first : ∀ s l t, Inv resp s → Guard s l → step hash name resp s l = some t →
      ∀ c, ResponseFirst resp (t.conns c) := by
    intro s l t inv guard next c
    exact ((step_inv inv guard next).conn c).responseFirst
  have broken : ∀ s l t, Inv resp s → ¬ Guard s l → step hash name resp s l = some t →
      ∃ more, ¬ Along (step hash name resp) (fun _ _ t => ∀ c, ResponseFirst resp (t.conns c)) s
        (l :: more) := by
    intro s l t inv unguarded next
    obtain ⟨call, u, c, copied, wrong⟩ := backend_first_of_unguarded inv unguarded next
    exact ⟨[call], fun first => wrong (((first t next).2 u copied).1 c)⟩
  have tight := strengthen_and_tight (Inv resp) kept first broken (start_inv name resp bundle)
  exact ⟨fun ls => (tight ls).1, fun ls => (tight ls).2⟩

/-- The backend answers before `handleConnection` goes on. -/
def earlyBackend : List Label :=
  [.newConn 0 0 "key" false "alice" (.ok ()), .accept, .join 0 true,
    .copy 0 (GoString.lit "SSH-2.0"), .respond 0 100]

theorem backend_first :
    ¬ Along (step (fun _ => "key") "ssh" fun _ => GoString.lit "resp")
      (fun _ _ t => ∀ c, ResponseFirst (fun _ => GoString.lit "resp") (t.conns c))
      (start "ssh" ⟨0, "sk", ["alice"]⟩) earlyBackend := by
  have ran : (exec (step (fun _ => "key") "ssh" fun _ => GoString.lit "resp")
      (start "ssh" ⟨0, "sk", ["alice"]⟩) earlyBackend).map (fun s => (s.conns 0).wire) =
        some [.backend (GoString.lit "SSH-2.0"), .response (GoString.lit "resp")] := by decide
  obtain ⟨s, run, wire⟩ := Option.map_eq_some_iff.1 ran
  intro first
  have last : ∀ c, ResponseFirst (fun _ => GoString.lit "resp") (s.conns c) :=
    first.last run
  obtain ⟨rest, same⟩ := last 0 (GoString.lit "SSH-2.0") (by rw [wire]; simp)
  rw [wire] at same
  cases same

end ChmlFrp.Server.VisitorConn
