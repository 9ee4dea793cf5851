/-
# ChmlFrp.Nathole.Xtcp — the proxies behind the nat hole controller

`server/proxy/xtcp.go` over the controller.  `Run` and `Close` are cut where another
goroutine can come between: `Run` registers the client and then starts the goroutine of
the sids, `Close` takes the client out and then closes `closeCh`.  The goroutine waits in
a `select`, gets a work connection for a sid and writes it.

`NewXTCPProxy` does not make `closeCh`.  The first case of the `select` is thus never
ready, and the panic of `close` is turned into an error that nobody looks at.

* `refines`: what a run does to the controller is a run of the controller's machine.
* `handing_can_end`: a visitor is never stuck, closed or not; `exits_never`: the goroutine
  always is.
* `nothing_blocked_iff`: a `Close` leaves nothing blocked in a run iff no proxy is both
  started and closed.
-/
import ChmlFrp.Lib.Chan
import ChmlFrp.Lib.Slots
import ChmlFrp.Nathole.Controller

namespace ChmlFrp.Nathole.Xtcp

set_option autoImplicit false

open ChmlFrp.Lib
open ChmlFrp.Lib.Transition

/-! ## Proxies -/

/-- Where the goroutine of the sids is. -/
inductive Loop where
  | selecting
  /-- In `GetWorkConnFromPool`. -/
  | taken (sid : String)
  | writing (sid : String)
  | returned
  deriving DecidableEq, Repr

/-- How far `Run` is. -/
inductive Run where
  | idle
  | failed
  | listening (sidCh : Nat)
  | started (sidCh : Nat) (loop : Loop)
  deriving DecidableEq, Repr

/-- The channel that `ListenClient` returned. -/
def Run.sidCh : Run → Option Nat
  | .idle | .failed => none
  | .listening sidCh | .started sidCh _ => some sidCh

structure XTCPProxy where
  name : String
  sk : String
  allowUsers : List String
  user : String
  closeCh : Option (Chan Unit)
  run : Run
  /-- The calls of `Close` that are before `close(pxy.closeCh)`. -/
  closing : Nat
  /-- Whether a call of `Close` has returned. -/
  closed : Bool
  deriving DecidableEq, Repr

def newXTCPProxy (name sk : String) (allowUsers : List String) (user : String) : XTCPProxy :=
  { name, sk, allowUsers, user, closeCh := none, run := .idle, closing := 0, closed := false }

structure State where
  ctl : Nathole.State
  proxies : List XTCPProxy

def init : State := ⟨Nathole.start, []⟩

inductive Label where
  | newProxy (name sk : String) (allowUsers : List String) (user : String)
  /-- `Run` of the proxy, up to `ListenClient`. -/
  | listen (p : Nat)
  /-- The `go` of `Run`. -/
  | go (p : Nat)
  /-- The goroutine of the proxy receives from `closeCh`. -/
  | quit (p : Nat)
  /-- The goroutine of the proxy receives the sid of a call. -/
  | receive (p i : Nat)
  /-- `GetWorkConnFromPool` returns, with an error or without. -/
  | workConn (p : Nat) (err : Bool)
  /-- `WriteMsg` returns, and the work connection is closed. -/
  | write (p : Nat)
  /-- `Close` of the proxy, up to `CloseClient`. -/
  | closeClient (p : Nat)
  /-- The rest of `Close`. -/
  | closeCh (p : Nat)
  /-- A step of the controller that no proxy takes part in. -/
  | controller (l : Nathole.Label)

/-- The steps of the controller that messages and timers make. -/
def ofCalls : Nathole.Label → Bool
  | .run .. | .close .. | .takeSid .. => false
  | .visitor .. | .client .. | .respond .. | .timeout .. | .finish .. => true

namespace State

def setProxy (s : State) (p : Nat) (pxy : XTCPProxy) : State :=
  { s with proxies := s.proxies.set p pxy }

/-- `Run`, up to `ListenClient`: an empty list lets in the user of the proxy. -/
def listen (s : State) (p : Nat) (pxy : XTCPProxy) : State :=
  let allowUsers := if pxy.allowUsers.length = 0 then [pxy.user] else pxy.allowUsers
  match s.ctl.listenClient pxy.name pxy.sk allowUsers with
  | some ctl => { s.setProxy p { pxy with run := .listening s.ctl.next } with ctl := ctl }
  | none => s.setProxy p { pxy with run := .failed }

/-- `Close`, up to `CloseClient`. -/
def closeClient (s : State) (p : Nat) (pxy : XTCPProxy) : State :=
  { s.setProxy p { pxy with closing := pxy.closing + 1 } with
    ctl := s.ctl.closeClient pxy.name }

/-- The end of `Close`; `PanicToError` keeps a panic inside. -/
def closeCloseCh (s : State) (p : Nat) (pxy : XTCPProxy) : State :=
  let closeCh := match Chan.closeVar pxy.closeCh with
    | .done ch => some ch
    | .blocks | .panics => pxy.closeCh
  s.setProxy p { pxy with closeCh := closeCh, closing := pxy.closing - 1, closed := true }

end State

def step (hash : String → String) (s : State) : Label → Option State
  | .newProxy name sk allowUsers user =>
      some { s with proxies := s.proxies ++ [newXTCPProxy name sk allowUsers user] }
  | .listen p =>
      s.proxies[p]?.bind fun pxy => if pxy.run = .idle then some (s.listen p pxy) else none
  | .go p =>
      s.proxies[p]?.bind fun pxy =>
        match pxy.run with
        | .listening sidCh => some (s.setProxy p { pxy with run := .started sidCh .selecting })
        | _ => none
  | .quit p =>
      s.proxies[p]?.bind fun pxy =>
        match pxy.run, Chan.recvVar pxy.closeCh with
        | .started sidCh .selecting, .done _ =>
            some (s.setProxy p { pxy with run := .started sidCh .returned })
        | _, _ => none
  | .receive p i =>
      s.proxies[p]?.bind fun pxy =>
        match pxy.run, s.ctl.calls[i]? with
        | .started sidCh .selecting, some call =>
            if call.stage = .handing ∧ call.clientCfg.sidCh = sidCh then
              some { s.setProxy p { pxy with run := .started sidCh (.taken call.session.sid) } with
                ctl := s.ctl.takeSid i call }
            else none
        | _, _ => none
  | .workConn p err =>
      s.proxies[p]?.bind fun pxy =>
        match pxy.run with
        | .started sidCh (.taken sid) =>
            let loop := if err then .selecting else .writing sid
            some (s.setProxy p { pxy with run := .started sidCh loop })
        | _ => none
  | .write p =>
      s.proxies[p]?.bind fun pxy =>
        match pxy.run with
        | .started sidCh (.writing _) =>
            some (s.setProxy p { pxy with run := .started sidCh .selecting })
        | _ => none
  | .closeClient p => s.proxies[p]?.map fun pxy => s.closeClient p pxy
  | .closeCh p =>
      s.proxies[p]?.bind fun pxy =>
        if 0 < pxy.closing then some (s.closeCloseCh p pxy) else none
  | .controller l =>
      if ofCalls l then (Nathole.step hash s.ctl l).map fun ctl => { s with ctl := ctl } else none

/-! ## What a step can do to a proxy -/

section Steps

variable {hash : String → String} {s t : State} {l : Label}

namespace XTCPProxy

/-- `Run` has started the goroutine. -/
def Started (pxy : XTCPProxy) : Prop := ∃ sidCh loop, pxy.run = .started sidCh loop

/-- `closeCh` is nil, and the goroutine has not returned. -/
def Alive (pxy : XTCPProxy) : Prop :=
  pxy.closeCh = none ∧ ∀ sidCh, pxy.run ≠ .started sidCh .returned

/-- What every step of a proxy keeps: nothing makes `closeCh`, so nothing ends the
goroutine; and the channel of sids stays. -/
structure Follows (pxy pxy' : XTCPProxy) : Prop where
  alive : pxy.Alive → pxy'.Alive
  sidCh : ∀ ch, pxy.run.sidCh = some ch → pxy'.run.sidCh = some ch

theorem alive_new (name sk : String) (allowUsers : List String) (user : String) :
    (newXTCPProxy name sk allowUsers user).Alive := by
  refine ⟨rfl, ?_⟩
  intro sidCh returned
  cases returned

end XTCPProxy

open XTCPProxy

/-- `Run` and the goroutine move on. -/
theorem XTCPProxy.Follows.move {pxy : XTCPProxy} (run : Run)
    (goesOn : ∀ sidCh, run ≠ .started sidCh .returned)
    (same : ∀ ch, pxy.run.sidCh = some ch → run.sidCh = some ch) :
    pxy.Follows { pxy with run := run } :=
  ⟨fun alive => ⟨alive.1, goesOn⟩, same⟩

/-- What each step finds, and what it makes of the state. -/
inductive Moves (hash : String → String) (s : State) : Label → State → Prop
  | newProxy (name sk : String) (allowUsers : List String) (user : String) :
      Moves hash s (.newProxy name sk allowUsers user)
        { s with proxies := s.proxies ++ [newXTCPProxy name sk allowUsers user] }
  | listen {p : Nat} {pxy : XTCPProxy} (there : s.proxies[p]? = some pxy)
      (idle : pxy.run = .idle) : Moves hash s (.listen p) (s.listen p pxy)
  | go {p sidCh : Nat} {pxy : XTCPProxy} (there : s.proxies[p]? = some pxy)
      (listening : pxy.run = .listening sidCh) :
      Moves hash s (.go p) (s.setProxy p { pxy with run := .started sidCh .selecting })
  | quit {p sidCh : Nat} {pxy : XTCPProxy} {got : Option Unit × Chan Unit}
      (there : s.proxies[p]? = some pxy) (selecting : pxy.run = .started sidCh .selecting)
      (ready : Chan.recvVar pxy.closeCh = .done got) :
      Moves hash s (.quit p) (s.setProxy p { pxy with run := .started sidCh .returned })
  | receive {p i sidCh : Nat} {pxy : XTCPProxy} {call : Call} (there : s.proxies[p]? = some pxy)
      (selecting : pxy.run = .started sidCh .selecting) (pending : s.ctl.calls[i]? = some call)
      (ready : call.stage = .handing ∧ call.clientCfg.sidCh = sidCh) :
      Moves hash s (.receive p i)
        { s.setProxy p { pxy with run := .started sidCh (.taken call.session.sid) } with
          ctl := s.ctl.takeSid i call }
  | workConn {p sidCh : Nat} {pxy : XTCPProxy} {sid : String} (err : Bool)
      (there : s.proxies[p]? = some pxy) (taken : pxy.run = .started sidCh (.taken sid)) :
      Moves hash s (.workConn p err)
        (s.setProxy p
          { pxy with run := .started sidCh (if err then .selecting else .writing sid) })
  | write {p sidCh : Nat} {pxy : XTCPProxy} {sid : String} (there : s.proxies[p]? = some pxy)
      (writing : pxy.run = .started sidCh (.writing sid)) :
      Moves hash s (.write p) (s.setProxy p { pxy with run := .started sidCh .selecting })
  | closeClient {p : Nat} {pxy : XTCPProxy} (there : s.proxies[p]? = some pxy) :
      Moves hash s (.closeClient p) (s.closeClient p pxy)
  | closeCh {p : Nat} {pxy : XTCPProxy} (there : s.proxies[p]? = some pxy)
      (closing : 0 < pxy.closing) : Moves hash s (.closeCh p) (s.closeCloseCh p pxy)
  | controller {l : Nathole.Label} {ctl : Nathole.State} (calls : ofCalls l = true)
      (moved : Nathole.step hash s.ctl l = some ctl) :
      Moves hash s (.controller l) { s with ctl := ctl }

theorem step_moves (next : step hash s l = some t) : Moves hash s l t := by
  cases l with
  | newProxy name sk allowUsers user =>
      cases next
      exact .newProxy name sk allowUsers user
  | listen p =>
      obtain ⟨pxy, there, moved⟩ := Option.bind_eq_some_iff.1 next
      obtain ⟨idle, moved⟩ := Option.ite_none_right_eq_some.1 moved
      cases moved
      exact .listen there idle
  | go p =>
      obtain ⟨pxy, there, moved⟩ := Option.bind_eq_some_iff.1 next
      split at moved
      · rename_i sidCh listening
        cases moved
        exact .go there listening
      · cases moved
  | quit p =>
      obtain ⟨pxy, there, moved⟩ := Option.bind_eq_some_iff.1 next
      split at moved
      · rename_i sidCh got selecting ready
        cases moved
        exact .quit there selecting ready
      · cases moved
  | receive p i =>
      obtain ⟨pxy, there, moved⟩ := Option.bind_eq_some_iff.1 next
      split at moved
      · rename_i sidCh call selecting pending
        obtain ⟨ready, moved⟩ := Option.ite_none_right_eq_some.1 moved
        cases moved
        exact .receive there selecting pending ready
      · cases moved
  | workConn p err =>
      obtain ⟨pxy, there, moved⟩ := Option.bind_eq_some_iff.1 next
      split at moved
      · rename_i sidCh sid taken
        cases moved
        exact .workConn err there taken
      · cases moved
  | write p =>
      obtain ⟨pxy, there, moved⟩ := Option.bind_eq_some_iff.1 next
      split at moved
      · rename_i sidCh sid writing
        cases moved
        exact .write there writing
      · cases moved
  | closeClient p =>
      obtain ⟨pxy, there, rfl⟩ := Option.map_eq_some_iff.1 next
      exact .closeClient there
  | closeCh p =>
      obtain ⟨pxy, there, moved⟩ := Option.bind_eq_some_iff.1 next
      obtain ⟨closing, moved⟩ := Option.ite_none_right_eq_some.1 moved
      cases moved
      exact .closeCh there closing
  | controller l =>
      obtain ⟨calls, moved⟩ := Option.ite_none_right_eq_some.1 next
      obtain ⟨ctl, changed, rfl⟩ := Option.map_eq_some_iff.1 moved
      exact .controller calls changed

/-- What `Run` makes of a proxy that is idle. -/
theorem listen_cases (s : State) (p : Nat) (pxy : XTCPProxy) :
    ∃ run : Run, (∀ sidCh loop, run ≠ .started sidCh loop) ∧
      (s.listen p pxy).proxies = s.proxies.set p { pxy with run := run } := by
  unfold State.listen
  dsimp only
  split
  · exact ⟨.listening s.ctl.next, fun _ _ => Run.noConfusion, rfl⟩
  · exact ⟨.failed, fun _ _ => Run.noConfusion, rfl⟩

/-- The proxies after a step: one more, or one that moved on, or the same. -/
theorem Moves.proxies (moves : Moves hash s l t) :
    (∃ pxy, pxy.Alive ∧ t.proxies = s.proxies ++ [pxy]) ∨
      (∃ p pxy pxy', s.proxies[p]? = some pxy ∧ pxy.Follows pxy' ∧
        t.proxies = s.proxies.set p pxy') ∨
      t.proxies = s.proxies := by
  cases moves with
  | newProxy name sk allowUsers user => exact .inl ⟨_, alive_new name sk allowUsers user, rfl⟩
  | @listen p pxy there idle =>
      obtain ⟨run, other, moved⟩ := listen_cases s p pxy
      refine .inr (.inl ⟨p, pxy, _, there, .move run (fun sidCh => other sidCh _) ?_, moved⟩)
      intro ch had
      rw [idle] at had
      cases had
  | go there listening =>
      refine .inr (.inl ⟨_, _, _, there, .move _ (by simp) ?_, rfl⟩)
      simp [listening, Run.sidCh]
  | quit there selecting ready =>
      refine .inr (.inl ⟨_, _, _, there, ⟨?_, ?_⟩, rfl⟩)
      · intro alive
        -- a receive from a nil channel is never ready
        rw [alive.1] at ready
        cases ready
      · simp [selecting, Run.sidCh]
  | receive there selecting =>
      refine .inr (.inl ⟨_, _, _, there, .move _ (by simp) ?_, rfl⟩)
      simp [selecting, Run.sidCh]
  | workConn err there taken =>
      refine .inr (.inl ⟨_, _, _, there, .move _ ?_ ?_, rfl⟩)
      · cases err with
        | true => simp
        | false => simp
      · simp [taken, Run.sidCh]
  | write there writing =>
      refine .inr (.inl ⟨_, _, _, there, .move _ (by simp) ?_, rfl⟩)
      simp [writing, Run.sidCh]
  | @closeClient p pxy there =>
      have follows : pxy.Follows { pxy with closing := pxy.closing + 1 } :=
        ⟨fun alive => alive, fun _ had => had⟩
      exact .inr (.inl ⟨p, pxy, _, there, follows, rfl⟩)
  | @closeCh p pxy there =>
      refine .inr (.inl ⟨p, pxy, _, there, ?_, rfl⟩)
      refine ⟨fun alive => ⟨?_, alive.2⟩, fun _ had => had⟩
      -- the close of a nil channel panics
      simp only [alive.1, Chan.closeVar]
  | controller => exact .inr (.inr rfl)

/-- Some proxy has the channel of sids. -/
def HasProxy (s : State) (sidCh : Nat) : Prop := ∃ pxy ∈ s.proxies, pxy.run.sidCh = some sidCh

theorem HasProxy.moves {sidCh : Nat} (has : HasProxy s sidCh) (moves : Moves hash s l t) :
    HasProxy t sidCh := by
  obtain ⟨pxy, inside, own⟩ := has
  rcases moves.proxies with ⟨new, _, more⟩ | ⟨p, old, pxy', there, follows, moved⟩ | same
  · refine ⟨pxy, ?_, own⟩
    rw [more]
    exact List.mem_append_left _ inside
  · rcases Slots.eq_or_mem_set (b := pxy') there inside with rfl | kept
    · refine ⟨pxy', ?_, follows.sidCh sidCh own⟩
      obtain ⟨bound, _⟩ := List.getElem?_eq_some_iff.1 there
      rw [moved]
      exact List.mem_set bound pxy'
    · refine ⟨pxy, ?_, own⟩
      rw [moved]
      exact kept
  · rw [← same] at inside
    exact ⟨pxy, inside, own⟩

theorem alive_moves (alive : ∀ pxy ∈ s.proxies, pxy.Alive) (moves : Moves hash s l t) :
    ∀ pxy ∈ t.proxies, pxy.Alive := by
  rcases moves.proxies with ⟨new, starts, more⟩ | ⟨p, old, pxy', there, follows, moved⟩ | same
  · rw [more]
    intro pxy inside
    rcases List.mem_append.1 inside with before | now
    · exact alive pxy before
    · rw [List.mem_singleton.1 now]
      exact starts
  · rw [moved]
    intro pxy inside
    rcases List.mem_or_eq_of_mem_set inside with before | rfl
    · exact alive pxy before
    · exact follows.alive (alive old (List.mem_of_getElem? there))
  · rw [same]
    exact alive

/-! ## The channels that the visitors use -/

/-- Every channel that a call holds or could get meets `P`. -/
structure Channels (P : Nat → Prop) (c : Nathole.State) : Prop where
  calls : ∀ call ∈ c.calls, P call.clientCfg.sidCh
  cfgs : ∀ name cfg, c.clientCfgs.get name = some cfg → P cfg.sidCh

namespace Channels

variable {P Q : Nat → Prop} {c d : Nathole.State}

theorem mono (all : Channels P c) (weaker : ∀ ch, P ch → Q ch) : Channels Q c :=
  ⟨fun call inside => weaker _ (all.calls call inside),
    fun name cfg listed => weaker _ (all.cfgs name cfg listed)⟩

theorem congr (all : Channels P c) (calls : d.calls = c.calls)
    (cfgs : d.clientCfgs = c.clientCfgs) : Channels P d := by
  constructor
  · rw [calls]
    exact all.calls
  · rw [cfgs]
    exact all.cfgs

/-- What happens to a call later does not change its channel. -/
theorem modify {f : Call → Call} (all : Channels P c) (i : Nat)
    (same : ∀ call, (f call).clientCfg = call.clientCfg) :
    Channels P { c with calls := c.calls.modify i f } := by
  refine ⟨?_, all.cfgs⟩
  have samePred : ∀ call, P (f call).clientCfg.sidCh ↔ P call.clientCfg.sidCh := by
    intro call
    rw [same]
  exact (forall_mem_modify samePred c.calls i).2 all.calls

theorem setStage (all : Channels P c) (i : Nat) (stage : Stage) : Channels P (c.setStage i stage) :=
  all.modify i fun _ => rfl

theorem closeClient (all : Channels P c) (name : String) : Channels P (c.closeClient name) := by
  refine ⟨all.calls, ?_⟩
  intro other cfg listed
  exact all.cfgs other cfg (GoMap.get_delete_eq_some.1 listed).2

theorem listenClient (all : Channels P c) {name sk : String} {allowUsers : List String}
    (new : P c.next) (listened : c.listenClient name sk allowUsers = some d) : Channels P d := by
  unfold Nathole.State.listenClient at listened
  split at listened
  · cases listened
  · cases listened
    refine ⟨all.calls, ?_⟩
    intro other cfg listed
    rcases GoMap.get_set_eq_some.1 listed with ⟨_, rfl⟩ | ⟨_, before⟩
    · exact new
    · exact all.cfgs other cfg before

theorem openSession (all : Channels P c) (hash : String → String) (m : NatHoleVisitor)
    (transporter : Nat) (visitorUser sid : String) :
    Channels P (c.openSession hash m transporter visitorUser sid) := by
  unfold Nathole.State.openSession
  split
  · exact all.congr rfl rfl
  · rename_i cfg listed
    split
    · exact all.congr rfl rfl
    · refine ⟨?_, all.cfgs⟩
      intro call inside
      rcases List.mem_append.1 inside with before | now
      · exact all.calls call before
      · rw [List.mem_singleton.1 now]
        exact all.cfgs _ cfg listed

theorem preCheck (all : Channels P c) (m : NatHoleVisitor) (transporter : Nat)
    (visitorUser : String) : Channels P (c.preCheck m transporter visitorUser) := by
  unfold Nathole.State.preCheck
  split
  · exact all.congr rfl rfl
  · split
    · exact all.congr rfl rfl
    · exact all.congr rfl rfl

theorem step {hash : String → String} {l : Nathole.Label} (all : Channels P c)
    (calls : ofCalls l = true) (next : Nathole.step hash c l = some d) : Channels P d := by
  cases l with
  | run name sk allowUsers user => cases calls
  | close name => cases calls
  | takeSid i => cases calls
  | visitor m transporter visitorUser sid =>
      simp only [Nathole.step] at next
      split at next
      · cases next
        exact all.preCheck m transporter visitorUser
      · cases next
        exact all.openSession hash m transporter visitorUser sid
  | client m transporter =>
      cases next
      unfold Nathole.State.handleClient
      split
      · exact all
      · exact all.modify _ fun _ => rfl
  | respond i vResp cResp =>
      simp only [Nathole.step] at next
      split at next
      · split at next
        · split at next
          · cases next
            exact (all.setStage i .responded).congr rfl rfl
          · cases next
        · cases next
      · cases next
  | timeout i =>
      simp only [Nathole.step] at next
      split at next
      · split at next
        · cases next
          exact (all.setStage i .ended).congr rfl rfl
        · cases next
      · cases next
  | finish i =>
      simp only [Nathole.step] at next
      split at next
      · split at next
        · cases next
          exact (all.setStage i .ended).congr rfl rfl
        · cases next
      · cases next

end Channels

/-- Of every state of a run: no `closeCh` was made and no goroutine returned, and a
visitor sends to the channel of some proxy. -/
structure Running (s : State) : Prop where
  alive : ∀ pxy ∈ s.proxies, pxy.Alive
  channels : Channels (HasProxy s) s.ctl

theorem running_init : Running init := by
  constructor
  · intro pxy none
    cases none
  · constructor
    · intro call none
      cases none
    · intro name cfg none
      rw [show init.ctl.clientCfgs = ∅ from rfl, GoMap.get_empty] at none
      cases none

/-- Where a proxy listens, the controller has its channel. -/
theorem Channels.listen {p : Nat} {pxy : XTCPProxy}
    (all : Channels (HasProxy (s.listen p pxy)) s.ctl)
    (there : s.proxies[p]? = some pxy) :
    Channels (HasProxy (s.listen p pxy)) (s.listen p pxy).ctl := by
  unfold State.listen at all ⊢
  dsimp only at all ⊢
  generalize listened : s.ctl.listenClient pxy.name pxy.sk _ = result at all ⊢
  cases result with
  | some ctl =>
      refine all.listenClient ?_ listened
      obtain ⟨bound, _⟩ := List.getElem?_eq_some_iff.1 there
      exact ⟨_, List.mem_set bound _, rfl⟩
  | none => exact all

theorem channels_moves (all : Channels (HasProxy s) s.ctl) (moves : Moves hash s l t) :
    Channels (HasProxy t) t.ctl := by
  have kept : Channels (HasProxy t) s.ctl := all.mono fun _ has => has.moves moves
  cases moves with
  | newProxy | go | quit | workConn | write | closeCh => exact kept
  | listen there => exact kept.listen there
  | receive => exact (kept.setStage _ .waiting).congr rfl rfl
  | closeClient => exact kept.closeClient _
  | controller calls moved => exact kept.step calls moved

theorem running_step (running : Running s) (next : step hash s l = some t) : Running t :=
  have moves := step_moves next
  ⟨alive_moves running.alive moves, channels_moves running.channels moves⟩

/-! ## What can still happen -/

/-- The goroutine of the proxy has returned. -/
def Exited (p : Nat) (s : State) : Prop :=
  ∃ pxy sidCh, s.proxies[p]? = some pxy ∧ pxy.run = .started sidCh .returned

/-- The call has ended and its entry is gone. -/
def CallEnded (i : Nat) (s : State) : Prop :=
  ∃ call, s.ctl.calls[i]? = some call ∧ call.stage = .ended ∧
    s.ctl.sessions.get call.session.sid = none

/-- Nothing is stuck on the proxies of which a `Close` has returned: a goroutine that was
started can exit, and a visitor that is handing over its sid can get to its end. -/
structure Unblocked (hash : String → String) (s : State) : Prop where
  exits : ∀ (p : Nat) pxy, s.proxies[p]? = some pxy → pxy.closed = true → pxy.Started →
    CanReach (step hash) (Exited p) s
  visitors : ∀ (p : Nat) pxy, s.proxies[p]? = some pxy → pxy.closed = true →
    ∀ (i : Nat) call, s.ctl.calls[i]? = some call → call.stage = .handing →
      pxy.run.sidCh = some call.clientCfg.sidCh → CanReach (step hash) (CallEnded i) s

theorem exits_never (hash : String → String) (running : Running s) (p : Nat) :
    ¬ CanReach (step hash) (Exited p) s := by
  apply not_canReach_of_trap Running
  · intro s l t running next
    exact running_step running next
  · rintro s running ⟨pxy, sidCh, there, returned⟩
    exact (running.alive pxy (List.mem_of_getElem? there)).2 sidCh returned
  · exact running

/-- Wherever the goroutine is, it comes back to its `select`. -/
theorem selects_again (hash : String → String) {p : Nat} {pxy : XTCPProxy} {sidCh : Nat}
    (alive : pxy.Alive) (there : s.proxies[p]? = some pxy) (own : pxy.run.sidCh = some sidCh) :
    CanReach (step hash) (fun t => t.ctl = s.ctl ∧
      ∃ pxy', t.proxies[p]? = some pxy' ∧ pxy'.run = .started sidCh .selecting) s := by
  have back {l : Label}
      (next : step hash s l = some (s.setProxy p { pxy with run := .started sidCh .selecting })) :
      CanReach (step hash) (fun t => t.ctl = s.ctl ∧
        ∃ pxy', t.proxies[p]? = some pxy' ∧ pxy'.run = .started sidCh .selecting) s :=
    .of_step next (.here ⟨rfl, _, Slots.set_self there, rfl⟩)
  cases at_run : pxy.run with
  | idle =>
      rw [at_run] at own
      cases own
  | failed =>
      rw [at_run] at own
      cases own
  | listening ch =>
      rw [at_run] at own
      cases own
      apply back (l := .go p)
      simp only [step, there, Option.bind_some, at_run]
  | started ch loop =>
      rw [at_run] at own
      cases own
      cases loop with
      | selecting => exact .here ⟨rfl, pxy, there, at_run⟩
      | taken sid =>
          apply back (l := .workConn p true)
          simp only [step, there, Option.bind_some, at_run, if_true]
      | writing sid =>
          apply back (l := .write p)
          simp only [step, there, Option.bind_some, at_run]
      | returned => exact absurd at_run (alive.2 sidCh)

/-- A visitor that is handing over its sid is never stuck. -/
theorem handing_can_end (hash : String → String) (running : Running s) {i : Nat} {call : Call}
    (pending : s.ctl.calls[i]? = some call) (handing : call.stage = .handing) :
    CanReach (step hash) (CallEnded i) s := by
  obtain ⟨pxy, inside, own⟩ := running.channels.calls call (List.mem_of_getElem? pending)
  obtain ⟨p, there⟩ := List.getElem?_of_mem inside
  refine (selects_again hash (running.alive pxy inside) there own).trans ?_
  rintro t ⟨same, pxy', there', selecting⟩
  rw [← same] at pending
  let handed : State :=
    { t.setProxy p { pxy' with
        run := .started call.clientCfg.sidCh (.taken call.session.sid) } with
      ctl := t.ctl.takeSid i call }
  have first : step hash t (.receive p i) = some handed := by
    simp only [step, there', Option.bind_some, selecting, pending, handing, and_self, if_true]
    rfl
  have waiting : handed.ctl.calls[i]? = some { call with stage := .waiting } := by
    show (t.ctl.calls.modify i _)[i]? = _
    rw [List.getElem?_modify_eq, pending]
    rfl
  have second : step hash handed (.controller (.timeout i)) =
      some { handed with ctl := handed.ctl.endCall i call.session.sid } := by
    simp only [step, ofCalls, if_true, Nathole.step, waiting, Option.map_some]
  refine .of_step first (.of_step second (.here ?_))
  refine ⟨{ call with stage := .ended }, ?_, rfl, ?_⟩
  · show (handed.ctl.calls.modify i _)[i]? = _
    rw [List.getElem?_modify_eq, waiting]
    rfl
  · show (handed.ctl.sessions.delete call.session.sid).get call.session.sid = none
    rw [GoMap.get_delete, if_pos rfl]

/-- A goroutine is stuck for ever once its proxy is closed. -/
theorem unblocked_iff (hash : String → String) (running : Running s) :
    Unblocked hash s ↔ ∀ pxy ∈ s.proxies, pxy.closed = true → ¬ pxy.Started := by
  constructor
  · intro unblocked pxy inside closed started
    obtain ⟨p, there⟩ := List.getElem?_of_mem inside
    exact exits_never hash running p (unblocked.exits p pxy there closed started)
  · intro apart
    constructor
    · intro p pxy there closed started
      exact absurd started (apart pxy (List.mem_of_getElem? there) closed)
    · intro p pxy there closed i call pending handing own
      exact handing_can_end hash running pending handing

/-! ## The runs of the controller -/

/-- The controller with other channels that goroutines receive from. -/
def withReceiving (R : Finset Nat) (c : Nathole.State) : Nathole.State := { c with receiving := R }

/-- Messages and timers do not ask who receives. -/
theorem step_withReceiving {c : Nathole.State} {l : Nathole.Label} (R : Finset Nat)
    (calls : ofCalls l = true) :
    Nathole.step hash (withReceiving R c) l =
      (Nathole.step hash c l).map (withReceiving R) := by
  cases l with
  | run name sk allowUsers user => cases calls
  | close name => cases calls
  | takeSid i => cases calls
  | visitor m transporter visitorUser sid =>
      have check : (withReceiving R c).preCheck m transporter visitorUser =
          withReceiving R (c.preCheck m transporter visitorUser) := by
        simp only [Nathole.State.preCheck, withReceiving]
        split
        · rfl
        · split
          · rfl
          · rfl
      have opened : (withReceiving R c).openSession hash m transporter visitorUser sid =
          withReceiving R (c.openSession hash m transporter visitorUser sid) := by
        simp only [Nathole.State.openSession, withReceiving]
        split
        · rfl
        · split
          · rfl
          · rfl
      simp only [Nathole.step, check, opened]
      split
      · rfl
      · rfl
  | client m transporter =>
      simp only [Nathole.step, Nathole.State.handleClient, withReceiving, Option.map_some]
      split
      · rfl
      · rfl
  | respond i vResp cResp =>
      simp only [Nathole.step, withReceiving]
      split
      · split
        · split
          · rfl
          · rfl
        · rfl
      · rfl
  | timeout i =>
      simp only [Nathole.step, withReceiving]
      split
      · split
        · rfl
        · rfl
      · rfl
  | finish i =>
      simp only [Nathole.step, withReceiving]
      split
      · split
        · rfl
        · rfl
      · rfl

/-- The controller's machine, which starts the goroutine within `Run`, is in the state of
the controller. -/
structure Simulates (s : State) (c : Nathole.State) : Prop where
  same : c = withReceiving c.receiving s.ctl
  receiving : ∀ sidCh, HasProxy s sidCh → sidCh ∈ c.receiving

namespace Simulates

variable {c d : Nathole.State}

/-- A proxy moves on with its channel, and the controller does what its machine does. -/
theorem move (sim : Simulates s c) {p : Nat} {pxy pxy' : XTCPProxy} {ctl : Nathole.State}
    (there : s.proxies[p]? = some pxy) (own : pxy'.run.sidCh = pxy.run.sidCh)
    (same : d = withReceiving c.receiving ctl) :
    Simulates { s.setProxy p pxy' with ctl := ctl } d := by
  constructor
  · rw [same]
    rfl
  · rintro sidCh ⟨other, inside, its⟩
    rw [same]
    apply sim.receiving
    rcases List.mem_or_eq_of_mem_set inside with old | rfl
    · exact ⟨other, old, its⟩
    · exact ⟨pxy, List.mem_of_getElem? there, own ▸ its⟩

theorem stay (sim : Simulates s c) {p : Nat} {pxy pxy' : XTCPProxy}
    (there : s.proxies[p]? = some pxy) (own : pxy'.run.sidCh = pxy.run.sidCh) :
    ∃ ms d, exec (Nathole.step hash) c ms = some d ∧ Simulates (s.setProxy p pxy') d :=
  ⟨[], c, rfl, sim.move there own sim.same⟩

theorem run (sim : Simulates s c) {p : Nat} {pxy : XTCPProxy}
    (there : s.proxies[p]? = some pxy) (idle : pxy.run = .idle) :
    ∃ ms d, exec (Nathole.step hash) c ms = some d ∧ Simulates (s.listen p pxy) d := by
  refine ⟨[.run pxy.name pxy.sk pxy.allowUsers pxy.user], _, rfl, ?_⟩
  unfold Nathole.State.runProxy State.listen
  have listens : c.listenClient pxy.name pxy.sk
      (if pxy.allowUsers.length = 0 then [pxy.user] else pxy.allowUsers) =
        (s.ctl.listenClient pxy.name pxy.sk
          (if pxy.allowUsers.length = 0 then [pxy.user] else pxy.allowUsers)).map
          (withReceiving c.receiving) := by
    rw [sim.same]
    simp only [Nathole.State.listenClient, withReceiving]
    split
    · rfl
    · rfl
  have next : c.next = s.ctl.next := by
    rw [sim.same]
    rfl
  dsimp only
  rw [listens, next]
  cases s.ctl.listenClient pxy.name pxy.sk _ with
  | some ctl =>
      dsimp only [Option.map_some]
      constructor
      · rfl
      · rintro sidCh ⟨other, inside, its⟩
        rcases List.mem_or_eq_of_mem_set inside with old | rfl
        · exact Finset.mem_insert_of_mem (sim.receiving sidCh ⟨other, old, its⟩)
        · cases its
          exact Finset.mem_insert_self _ _
  | none =>
      dsimp only [Option.map_none]
      exact sim.move there (by rw [idle]; rfl) sim.same

theorem receive (sim : Simulates s c) {p i sidCh : Nat} {pxy pxy' : XTCPProxy} {call : Call}
    (there : s.proxies[p]? = some pxy) (own : pxy.run.sidCh = some sidCh)
    (still : pxy'.run.sidCh = some sidCh) (pending : s.ctl.calls[i]? = some call)
    (ready : call.stage = .handing ∧ call.clientCfg.sidCh = sidCh) :
    ∃ ms d, exec (Nathole.step hash) c ms = some d ∧
      Simulates { s.setProxy p pxy' with ctl := s.ctl.takeSid i call } d := by
  have receiving : call.clientCfg.sidCh ∈ c.receiving := by
    rw [ready.2]
    exact sim.receiving sidCh ⟨pxy, List.mem_of_getElem? there, own⟩
  have calls : c.calls[i]? = some call := by
    rw [sim.same]
    exact pending
  have next : Nathole.step hash c (.takeSid i) = some (c.takeSid i call) := by
    simp only [Nathole.step, calls, ready.1, receiving, and_self, if_true]
  refine ⟨[.takeSid i], _, exec_cons_eq_some.2 ⟨_, next, rfl⟩, ?_⟩
  refine sim.move there (still.trans own.symm) ?_
  rw [sim.same]
  rfl

/-- What one step does to the controller, the controller's machine does in at most one. -/
theorem moves (sim : Simulates s c) (moves : Moves hash s l t) :
    ∃ ms d, exec (Nathole.step hash) c ms = some d ∧ Simulates t d := by
  cases moves with
  | newProxy =>
      refine ⟨[], c, rfl, sim.same, ?_⟩
      rintro sidCh ⟨pxy, inside, own⟩
      rcases List.mem_append.1 inside with before | now
      · exact sim.receiving sidCh ⟨pxy, before, own⟩
      · rw [List.mem_singleton.1 now] at own
        cases own
  | listen there idle => exact sim.run there idle
  | go there running | quit there running | workConn _ there running | write there running =>
      exact sim.stay there (by rw [running]; rfl)
  | receive there selecting pending ready =>
      exact sim.receive there (by rw [selecting]; rfl) rfl pending ready
  | @closeClient p pxy there =>
      refine ⟨[.close pxy.name], _, rfl, sim.move there rfl ?_⟩
      rw [sim.same]
      rfl
  | closeCh there => exact sim.stay there rfl
  | @controller l ctl calls moved =>
      have same : Nathole.step hash c l = some (withReceiving c.receiving ctl) := by
        rw [sim.same, step_withReceiving c.receiving calls, moved]
        rfl
      exact ⟨[l], _, exec_cons_eq_some.2 ⟨_, same, rfl⟩, rfl, sim.receiving⟩

end Simulates

/-- What a run does to the controller is a run of the controller's machine. -/
theorem refines (hash : String → String) {ls : List Label}
    (run : exec (step hash) init ls = some s) :
    ∃ ms R, exec (Nathole.step hash) Nathole.start ms = some (withReceiving R s.ctl) := by
  let inv (s : State) : Prop :=
    ∃ ms d, exec (Nathole.step hash) Nathole.start ms = some d ∧ Simulates s d
  have kept : ∀ s l t, inv s → step hash s l = some t → inv t := by
    rintro s l t ⟨ms, c, reached, sim⟩ next
    obtain ⟨more, d, goesOn, later⟩ := sim.moves (step_moves next)
    exact ⟨ms ++ more, d, exec_append_eq_some.2 ⟨c, reached, goesOn⟩, later⟩
  have start : inv init := by
    refine ⟨[], Nathole.start, rfl, rfl, ?_⟩
    rintro sidCh ⟨pxy, none, _⟩
    cases none
  obtain ⟨ms, d, reached, sim⟩ := invariant_of_exec kept start run
  exact ⟨ms, d.receiving, sim.same ▸ reached⟩

/-! ## When a run leaves nothing blocked -/

/-- The proxy is closed and started. -/
def XTCPProxy.Stuck (pxy : XTCPProxy) : Prop := pxy.closed = true ∧ pxy.Started

/-- This step does not end a `Close` of a proxy that is started, and does not start the
goroutine of a proxy that is closed. -/
def NotStartedAndClosed (s : State) : Label → Prop
  | .closeCh p => ∀ pxy, s.proxies[p]? = some pxy → ¬ pxy.Started
  | .go p => ∀ pxy, s.proxies[p]? = some pxy → pxy.closed = false
  | _ => True

theorem not_started {pxy : XTCPProxy} (other : ∀ sidCh loop, pxy.run ≠ .started sidCh loop) :
    ¬ pxy.Started := by
  rintro ⟨sidCh, loop, started⟩
  exact other sidCh loop started

/-- A proxy that goes on where it was started is not stuck, if it was not. -/
theorem forall_not_stuck_set (free : ∀ pxy ∈ s.proxies, ¬ pxy.Stuck) {p : Nat}
    {pxy pxy' : XTCPProxy} (there : s.proxies[p]? = some pxy) (started : pxy.Started)
    (closed : pxy'.closed = pxy.closed) : ∀ pxy ∈ s.proxies.set p pxy', ¬ pxy.Stuck := by
  refine (Slots.forall_mem_set_iff _ free there).2 ?_
  intro stuck
  exact free pxy (List.mem_of_getElem? there) ⟨closed.symm.trans stuck.1, started⟩

/-- One step: only the two that the condition names make a proxy closed and started. -/
theorem stuck_iff_of_moves (free : ∀ pxy ∈ s.proxies, ¬ pxy.Stuck) (moves : Moves hash s l t) :
    (∀ pxy ∈ t.proxies, ¬ pxy.Stuck) ↔ NotStartedAndClosed s l := by
  cases moves with
  | newProxy =>
      apply iff_of_true ?_ trivial
      intro pxy inside
      rcases List.mem_append.1 inside with before | now
      · exact free pxy before
      · rw [List.mem_singleton.1 now]
        rintro ⟨closed, _⟩
        cases closed
  | @listen p pxy there =>
      obtain ⟨run, other, moved⟩ := listen_cases s p pxy
      apply iff_of_true ?_ trivial
      rw [moved]
      exact (Slots.forall_mem_set_iff _ free there).2 fun stuck => not_started other stuck.2
  | @go p sidCh pxy there listening =>
      refine (Slots.forall_mem_set_iff _ free there).trans ?_
      constructor
      · intro new other same
        cases there.symm.trans same
        by_contra closed
        exact new ⟨eq_true_of_ne_false closed, sidCh, .selecting, rfl⟩
      · rintro still ⟨closed, _⟩
        have stillOpen := still pxy there
        rw [stillOpen] at closed
        cases closed
  | quit there running | receive there running | workConn _ there running | write there running =>
      exact iff_of_true (forall_not_stuck_set free there ⟨_, _, running⟩ rfl) trivial
  | @closeClient p pxy there =>
      apply iff_of_true ?_ trivial
      exact (Slots.forall_mem_set_iff _ free there).2 (free pxy (List.mem_of_getElem? there))
  | @closeCh p pxy there =>
      refine (Slots.forall_mem_set_iff _ free there).trans ?_
      constructor
      · intro new other same started
        cases there.symm.trans same
        exact new ⟨rfl, started⟩
      · intro idle stuck
        exact idle pxy there stuck.2
  | controller => exact iff_of_true free trivial

end Steps

/-- **A run never leaves the goroutine or a visitor of a closed proxy blocked iff no step
of it ends a `Close` of a started proxy or starts a closed one.** -/
theorem nothing_blocked_iff (hash : String → String) (ls : List Label) :
    Along (step hash) (fun _ _ t => Unblocked hash t) init ls ↔
      Along (step hash) (fun s l _ => NotStartedAndClosed s l) init ls := by
  let inv (s : State) : Prop := Running s ∧ ∀ pxy ∈ s.proxies, ¬ pxy.Stuck
  have unblocked {t : State} (running : Running t) :
      Unblocked hash t ↔ ∀ pxy ∈ t.proxies, ¬ pxy.Stuck := by
    rw [unblocked_iff hash running]
    simp only [XTCPProxy.Stuck, not_and]
  have kept : ∀ s l t, inv s → Unblocked hash t → step hash s l = some t → inv t := by
    intro s l t started good next
    have running := running_step started.1 next
    exact ⟨running, (unblocked running).1 good⟩
  have agree : ∀ s l t, inv s → step hash s l = some t →
      (Unblocked hash t ↔ NotStartedAndClosed s l) := by
    intro s l t started next
    rw [unblocked (running_step started.1 next)]
    exact stuck_iff_of_moves started.2 (step_moves next)
  have start : inv init := by
    refine ⟨running_init, ?_⟩
    intro pxy none
    cases none
  exact along_iff_along inv kept agree start ls

/-- A proxy runs and is closed. -/
def runAndClose : List Label :=
  [.newProxy "alice.p2p_tcp" "abcdefg" [] "alice", .listen 0, .go 0, .closeClient 0, .closeCh 0]

/-- **`Close` has returned, and the goroutine of the proxy can never exit.** -/
theorem goroutine_outlives_close :
    ∃ t, exec (step id) init runAndClose = some t ∧
      t.proxies.map (fun pxy => (pxy.closed, pxy.run)) = [(true, .started 0 .selecting)] ∧
      ¬ CanReach (step id) (Exited 0) t ∧ ¬ Unblocked id t := by
  have run : (exec (step id) init runAndClose).map
      (fun t => t.proxies.map fun pxy => (pxy.closed, pxy.run)) =
      some [(true, .started 0 .selecting)] := by decide
  obtain ⟨t, last, found⟩ := Option.map_eq_some_iff.1 run
  have running : Running t :=
    invariant_of_exec (fun _ _ _ running next => running_step running next) running_init last
  have never : ¬ CanReach (step id) (Exited 0) t := exits_never id running 0
  refine ⟨t, last, found, never, ?_⟩
  intro unblocked
  have there : (true, Run.started 0 .selecting) ∈
      t.proxies.map fun pxy => (pxy.closed, pxy.run) := by
    rw [found]
    exact List.mem_singleton.2 rfl
  obtain ⟨pxy, inside, what⟩ := List.mem_map.1 there
  rw [Prod.mk.injEq] at what
  exact (unblocked_iff id running).1 unblocked pxy inside what.1 ⟨0, .selecting, what.2⟩

end ChmlFrp.Nathole.Xtcp
