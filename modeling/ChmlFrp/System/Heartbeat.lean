/-
# ChmlFrp.System.Heartbeat — pings, pongs and their timeouts

The heartbeats between `msgHandler` of `client/control.go` and `manager` of
`server/control.go`, with the clock.  The client sends a `Ping` at every tick of `hbSend`,
the server answers each with a `Pong`, and both look once a second whether the last message
of the other side is too old.  With TCPMux neither looks.

A ticker that fires is served, and a message that is sent is taken in, within `delay`; the
clock does not run past that.  The connection may be cut at any time, which loses what is
under way, but for what the peer's reader has received by then, and all that is sent later.
A `Ping` may be refused: `SetPing` fails, or a plugin or `VerifyPing` does, and then a `Pong`
says so and ends the client too.

* `no_false_timeout`: as long as the connection is not cut and no `Ping` is refused, nobody
  gives up, if the timeouts exceed the interval by three delays.
* `cut_detected`: after a cut a side that looks has given up a timeout, a second and two
  delays later.
* `time_passes`: the bound on the delays never stops the clock.
-/
import ChmlFrp.Lib.Cadence
import ChmlFrp.Lib.Transition

namespace ChmlFrp.System.Heartbeat

set_option autoImplicit false

open ChmlFrp.Lib
open ChmlFrp.Lib.Transition
open ChmlFrp.Lib.Cadence

/-! ## The two sides -/

/-- What both sides' settings say about heartbeats, in seconds. -/
structure Settings where
  heartbeatInterval : Int
  heartbeatTimeout : Int
  tcpMux : Bool
  serverHeartbeatTimeout : Int
  serverTCPMux : Bool
  deriving DecidableEq, Repr

/-- `time.Second` -/
def second : Nat := 1000000000

namespace Settings

variable (cfg : Settings)

def interval : Nat := cfg.heartbeatInterval.toNat * second

def timeout : Nat := cfg.heartbeatTimeout.toNat * second

def serverTimeout : Nat := cfg.serverHeartbeatTimeout.toNat * second

/-- When the client makes `hbSend`. -/
def Sends : Prop := 0 < cfg.heartbeatInterval

/-- When the client makes `hbCheck`. -/
def Checks : Prop := 0 < cfg.heartbeatInterval ∧ 0 < cfg.heartbeatTimeout ∧ cfg.tcpMux = false

/-- When the server makes `heartbeat`. -/
def ServerChecks : Prop := cfg.serverTCPMux = false ∧ 0 < cfg.serverHeartbeatTimeout

instance : Decidable cfg.Sends := inferInstanceAs (Decidable (_ < _))

instance : Decidable cfg.Checks := inferInstanceAs (Decidable (_ ∧ _ ∧ _))

instance : Decidable cfg.ServerChecks := inferInstanceAs (Decidable (_ ∧ _))

end Settings

structure Pong where
  sentAt : Nat
  /-- Whether it carries an error. -/
  error : Bool
  deriving DecidableEq, Repr

structure State where
  now : Nat
  linked : Bool
  /-- When the connection was cut. -/
  cutAt : Option Nat
  /-- Whether the client's handler is running. -/
  msgHandler : Bool
  lastPong : Nat
  /-- When the tickers of the client are due. -/
  hbSend : Option Nat
  hbCheck : Option Nat
  /-- Whether the server's manager is running. -/
  manager : Bool
  lastPing : Nat
  heartbeat : Option Nat
  /-- When each `Ping` under way was sent. -/
  pings : List Nat
  pongs : List Pong
  /-- Whether a `Ping` has been refused. -/
  refused : Bool
  deriving DecidableEq, Repr

/-- The server's control is made at time 0, and the client's handler starts at `login`. -/
def start (cfg : Settings) (login : Nat) : State where
  now := login
  linked := true
  cutAt := none
  msgHandler := true
  lastPong := login
  hbSend := if cfg.Sends then some (login + cfg.interval) else none
  hbCheck := if cfg.Checks then some (login + second) else none
  manager := true
  lastPing := 0
  heartbeat := if cfg.ServerChecks then some second else none
  pings := []
  pongs := []
  refused := false

inductive Label where
  | advance (d : Nat)
  /-- `msgHandler` receives from `hbSendCh`; `ok` is what `SetPing` says. -/
  | ping (ok : Bool)
  /-- `msgHandler` receives from `hbCheckCh`. -/
  | check
  /-- `manager` receives from `heartbeatCh`. -/
  | serverCheck
  /-- `manager` takes in a `Ping`; `ok` is what the plugins and `VerifyPing` say. -/
  | takePing (ok : Bool)
  /-- `msgHandler` takes in a `Pong`. -/
  | takePong
  /-- The connection is cut, when the readers have received so many of the messages. -/
  | cut (pings pongs : Nat)
  /-- `msgHandler` finds `readCh` closed. -/
  | closed
  /-- `manager` finds `readCh` closed. -/
  | serverClosed
  deriving DecidableEq, Repr

/-- A ticker of a goroutine that runs is served in time. -/
def Served (delay now : Nat) (running : Bool) (ticker : Option Nat) : Prop :=
  running = true → ∀ due ∈ ticker, now ≤ due + delay

instance (delay now : Nat) (running : Bool) (ticker : Option Nat) :
    Decidable (Served delay now running ticker) :=
  inferInstanceAs (Decidable (_ → _))

namespace State

/-- When the messages under way were sent. -/
def times (s : State) : List Nat := s.pings ++ s.pongs.map Pong.sentAt

/-- The clock may show `now`. -/
def Allows (s : State) (delay now : Nat) : Prop :=
  (∀ t ∈ s.times, now ≤ t + delay) ∧ Served delay now s.msgHandler s.hbSend ∧
    Served delay now s.msgHandler s.hbCheck ∧ Served delay now s.manager s.heartbeat

instance (s : State) (delay now : Nat) : Decidable (s.Allows delay now) :=
  inferInstanceAs (Decidable (_ ∧ _ ∧ _ ∧ _))

end State

/-- A message is under way unless the connection is cut. -/
def sent {α : Type} (s : State) (messages : List α) (message : α) : List α :=
  if s.linked then messages ++ [message] else messages

def step (cfg : Settings) (delay : Nat) (s : State) : Label → Option State
  | .advance d => if s.Allows delay (s.now + d) then some { s with now := s.now + d } else none
  | .ping ok =>
      if s.msgHandler then
        s.hbSend.bind fun due =>
          if due ≤ s.now then
            if ok then
              some { s with
                hbSend := some (next cfg.interval due s.now), pings := sent s s.pings s.now }
            else some { s with msgHandler := false, refused := true }
          else none
      else none
  | .check =>
      if s.msgHandler then
        s.hbCheck.bind fun due =>
          if due ≤ s.now then
            if cfg.timeout < s.now - s.lastPong then some { s with msgHandler := false }
            else some { s with hbCheck := some (next second due s.now) }
          else none
      else none
  | .serverCheck =>
      if s.manager then
        s.heartbeat.bind fun due =>
          if due ≤ s.now then
            if cfg.serverTimeout < s.now - s.lastPing then some { s with manager := false }
            else some { s with heartbeat := some (next second due s.now) }
          else none
      else none
  | .takePing ok =>
      match s.pings with
      | [] => none
      | _ :: rest =>
          if s.manager then
            if ok then
              some { s with
                pings := rest, lastPing := s.now, pongs := sent s s.pongs ⟨s.now, false⟩ }
            else
              some { s with
                pings := rest
                manager := false
                refused := true
                pongs := sent s s.pongs ⟨s.now, true⟩ }
          else some { s with pings := rest }
  | .takePong =>
      match s.pongs with
      | [] => none
      | pong :: rest =>
          if s.msgHandler then
            if pong.error then some { s with pongs := rest, msgHandler := false }
            else some { s with pongs := rest, lastPong := s.now }
          else some { s with pongs := rest }
  | .cut pings pongs =>
      if s.linked then
        some { s with
          linked := false
          cutAt := some s.now
          pings := s.pings.take pings
          pongs := s.pongs.take pongs }
      else none
  | .closed =>
      if s.linked = false ∧ s.pongs = [] then some { s with msgHandler := false } else none
  | .serverClosed =>
      if s.linked = false ∧ s.pings = [] then some { s with manager := false } else none

/-! ## What one step does -/

/-- The branches of `step`. -/
inductive Moves (cfg : Settings) (delay : Nat) (s : State) : Label → State → Prop where
  | advance {d : Nat} (allows : s.Allows delay (s.now + d)) :
      Moves cfg delay s (.advance d) { s with now := s.now + d }
  | ping {due : Nat} (runs : s.msgHandler = true) (is : s.hbSend = some due)
      (passed : due ≤ s.now) :
      Moves cfg delay s (.ping true) { s with
        hbSend := some (next cfg.interval due s.now), pings := sent s s.pings s.now }
  | unsent : Moves cfg delay s (.ping false) { s with msgHandler := false, refused := true }
  | checked {due : Nat} (is : s.hbCheck = some due) (passed : due ≤ s.now)
      (young : ¬ cfg.timeout < s.now - s.lastPong) :
      Moves cfg delay s .check { s with hbCheck := some (next second due s.now) }
  | timedOut {due : Nat} (is : s.hbCheck = some due) (old : cfg.timeout < s.now - s.lastPong) :
      Moves cfg delay s .check { s with msgHandler := false }
  | serverChecked {due : Nat} (is : s.heartbeat = some due) (passed : due ≤ s.now)
      (young : ¬ cfg.serverTimeout < s.now - s.lastPing) :
      Moves cfg delay s .serverCheck { s with heartbeat := some (next second due s.now) }
  | serverTimedOut {due : Nat} (is : s.heartbeat = some due)
      (old : cfg.serverTimeout < s.now - s.lastPing) :
      Moves cfg delay s .serverCheck { s with manager := false }
  | takePing {first : Nat} {rest : List Nat} (pings : s.pings = first :: rest) :
      Moves cfg delay s (.takePing true) { s with
        pings := rest, lastPing := s.now, pongs := sent s s.pongs ⟨s.now, false⟩ }
  | refusePing {first : Nat} {rest : List Nat} (pings : s.pings = first :: rest) :
      Moves cfg delay s (.takePing false) { s with
        pings := rest
        manager := false
        refused := true
        pongs := sent s s.pongs ⟨s.now, true⟩ }
  | dropPing {ok : Bool} {first : Nat} {rest : List Nat} (stopped : s.manager = false)
      (pings : s.pings = first :: rest) :
      Moves cfg delay s (.takePing ok) { s with pings := rest }
  | takePong {first : Pong} {rest : List Pong} (pongs : s.pongs = first :: rest) :
      Moves cfg delay s .takePong { s with pongs := rest, lastPong := s.now }
  | takeError {first : Pong} {rest : List Pong} (pongs : s.pongs = first :: rest)
      (error : first.error = true) :
      Moves cfg delay s .takePong { s with pongs := rest, msgHandler := false }
  | dropPong {first : Pong} {rest : List Pong} (stopped : s.msgHandler = false)
      (pongs : s.pongs = first :: rest) :
      Moves cfg delay s .takePong { s with pongs := rest }
  | cut {pings pongs : Nat} (linked : s.linked = true) :
      Moves cfg delay s (.cut pings pongs) { s with
        linked := false
        cutAt := some s.now
        pings := s.pings.take pings
        pongs := s.pongs.take pongs }
  | closed (unlinked : s.linked = false) :
      Moves cfg delay s .closed { s with msgHandler := false }
  | serverClosed (unlinked : s.linked = false) :
      Moves cfg delay s .serverClosed { s with manager := false }

section Moves

variable {cfg : Settings} {delay : Nat} {s t : State} {l : Label}

theorem step_moves (next : step cfg delay s l = some t) : Moves cfg delay s l t := by
  cases l with
  | advance d =>
      simp only [step, Option.ite_none_right_eq_some] at next
      obtain ⟨allows, next⟩ := next
      cases next
      exact .advance allows
  | ping ok =>
      simp only [step, Option.bind_eq_some_iff, Option.ite_none_right_eq_some] at next
      obtain ⟨runs, due, is, passed, next⟩ := next
      cases ok with
      | true =>
          cases next
          exact .ping runs is passed
      | false =>
          cases next
          exact .unsent
  | check =>
      simp only [step, Option.bind_eq_some_iff, Option.ite_none_right_eq_some] at next
      obtain ⟨-, due, is, passed, next⟩ := next
      split at next
      · rename_i old
        cases next
        exact .timedOut is old
      · rename_i young
        cases next
        exact .checked is passed young
  | serverCheck =>
      simp only [step, Option.bind_eq_some_iff, Option.ite_none_right_eq_some] at next
      obtain ⟨-, due, is, passed, next⟩ := next
      split at next
      · rename_i old
        cases next
        exact .serverTimedOut is old
      · rename_i young
        cases next
        exact .serverChecked is passed young
  | takePing ok =>
      simp only [step] at next
      split at next
      · cases next
      · rename_i first rest pings
        split at next
        · cases ok with
          | true =>
              cases next
              exact .takePing pings
          | false =>
              cases next
              exact .refusePing pings
        · rename_i stopped
          cases next
          exact .dropPing (eq_false_of_ne_true stopped) pings
  | takePong =>
      simp only [step] at next
      split at next
      · cases next
      · rename_i first rest pongs
        split at next
        · split at next
          · rename_i error
            cases next
            exact .takeError pongs error
          · cases next
            exact .takePong pongs
        · rename_i stopped
          cases next
          exact .dropPong (eq_false_of_ne_true stopped) pongs
  | cut pings pongs =>
      simp only [step, Option.ite_none_right_eq_some] at next
      obtain ⟨linked, next⟩ := next
      cases next
      exact .cut linked
  | closed =>
      simp only [step, Option.ite_none_right_eq_some] at next
      obtain ⟨⟨unlinked, -⟩, next⟩ := next
      cases next
      exact .closed unlinked
  | serverClosed =>
      simp only [step, Option.ite_none_right_eq_some] at next
      obtain ⟨⟨unlinked, -⟩, next⟩ := next
      cases next
      exact .serverClosed unlinked

theorem mem_sent {α : Type} {messages : List α} {m message : α}
    (inside : m ∈ sent s messages message) : m ∈ messages ∨ m = message ∧ s.linked = true := by
  unfold sent at inside
  split at inside
  · rename_i linked
    exact (List.mem_append.1 inside).imp_right fun new => ⟨List.mem_singleton.1 new, linked⟩
  · exact .inl inside

theorem map_sent {α β : Type} (f : α → β) (messages : List α) (message : α) :
    (sent s messages message).map f = sent s (messages.map f) (f message) := by
  unfold sent
  split <;> simp

/-- A message under way was so before, or is sent now. -/
theorem Moves.times (moves : Moves cfg delay s l t) :
    ∀ time ∈ t.times, time ∈ s.times ∨ time = s.now ∧ s.linked = true := by
  intro time inside
  unfold State.times at inside ⊢
  rw [List.mem_append] at inside ⊢
  cases moves with
  | ping runs is passed =>
      rcases inside with up | down
      · exact (mem_sent up).imp_left .inl
      · exact .inl (.inr down)
  | takePing pings | refusePing pings =>
      rcases inside with up | down
      · exact .inl (.inl (pings ▸ List.mem_cons_of_mem _ up))
      · rw [map_sent] at down
        exact (mem_sent down).imp_left .inr
  | dropPing stopped pings =>
      exact .inl (inside.imp_left fun up => pings ▸ List.mem_cons_of_mem _ up)
  | takePong pongs | takeError pongs error | dropPong stopped pongs =>
      exact .inl (inside.imp_right fun down => pongs ▸ List.mem_cons_of_mem _ down)
  | cut linked =>
      refine .inl (inside.imp List.mem_of_mem_take fun down => ?_)
      rw [List.map_take] at down
      exact List.mem_of_mem_take down
  | _ => exact .inl inside

theorem Moves.now_le (moves : Moves cfg delay s l t) : s.now ≤ t.now := by
  cases moves with
  | advance allows => exact Nat.le_add_right _ _
  | _ => exact Nat.le_refl _

/-- A cut connection stays cut. -/
theorem Moves.linked (moves : Moves cfg delay s l t) (linked : t.linked = true) :
    s.linked = true := by
  cases moves with
  | cut linked' => exact linked'
  | _ => exact linked

/-- A refusal stays one. -/
theorem Moves.refused (moves : Moves cfg delay s l t) (accepted : t.refused = false) :
    s.refused = false := by
  cases moves with
  | unsent | refusePing pings => cases accepted
  | _ => exact accepted

end Moves

/-! ## What holds on every run -/

/-- A ticker fires again within a timeout and a second of the last message. -/
def Watches (timeout last : Nat) (running : Bool) (ticker : Option Nat) : Prop :=
  running = true → ∃ due, ticker = some due ∧ due ≤ last + timeout + second

structure Clock (cfg : Settings) (delay : Nat) (s : State) : Prop where
  sent : ∀ t ∈ s.times, t ≤ s.now
  lastPing : s.lastPing ≤ s.now
  lastPong : s.lastPong ≤ s.now
  allowed : s.Allows delay s.now
  check : cfg.Checks → Watches cfg.timeout s.lastPong s.msgHandler s.hbCheck
  serverCheck : cfg.ServerChecks →
    Watches cfg.serverTimeout s.lastPing s.manager s.heartbeat
  /-- Nothing is sent after the cut. -/
  cut : ∀ c, s.cutAt = some c → s.linked = false ∧ s.lastPing ≤ c + delay ∧
    s.lastPong ≤ c + delay ∧ ∀ t ∈ s.times, t ≤ c

section Clock

variable {cfg : Settings} {delay login : Nat} {s t : State}

theorem start_clock (early : login ≤ delay) : Clock cfg delay (start cfg login) where
  sent t inside := by cases inside
  lastPing := Nat.zero_le _
  lastPong := Nat.le_refl _
  allowed := by
    refine ⟨fun t inside => (List.not_mem_nil inside).elim, ?_, ?_, ?_⟩
    all_goals
      intro _ due is
      simp only [start, Option.mem_def, Option.ite_none_right_eq_some, Option.some.injEq] at is ⊢
      omega
  check checks := fun _ => ⟨login + second, if_pos checks, by simp only [start]; omega⟩
  serverCheck checks := fun _ => ⟨second, if_pos checks, by simp only [start]; omega⟩
  cut c is := by cases is

theorem Served.stopped {now : Nat} {ticker : Option Nat} : Served delay now false ticker := by
  rintro ⟨⟩

theorem Served.tick {running : Bool} {due now : Nat} (period : Nat)
    (served : Served delay now running (some due)) :
    Served delay now running (some (next period due now)) := by
  intro runs due' is
  cases is
  have := served runs due rfl
  have := le_next period due now
  omega

/-- A check that finds the last message young enough. -/
theorem watches_tick {timeout last due now : Nat} {running : Bool} (passed : due ≤ now)
    (young : ¬ timeout < now - last) :
    Watches timeout last running (some (next second due now)) := by
  intro _
  have := @next_le second _ _ passed
  exact ⟨_, rfl, by omega⟩

theorem Watches.later {timeout last last' : Nat} {running : Bool} {ticker : Option Nat}
    (watches : Watches timeout last running ticker) (le : last ≤ last') :
    Watches timeout last' running ticker := by
  intro runs
  obtain ⟨due, is, bound⟩ := watches runs
  exact ⟨due, is, by omega⟩

theorem Watches.stopped {timeout last : Nat} {ticker : Option Nat} :
    Watches timeout last false ticker := by
  rintro ⟨⟩

variable {l : Label}

theorem Moves.served_send (moves : Moves cfg delay s l t) (clock : Clock cfg delay s) :
    Served delay t.now t.msgHandler t.hbSend := by
  obtain ⟨-, sends, -, -⟩ := clock.allowed
  cases moves with
  | advance allows => exact allows.2.1
  | ping runs is passed =>
      rw [is] at sends
      exact sends.tick _
  | unsent | timedOut | takeError | closed => exact Served.stopped
  | _ => exact sends

theorem Moves.served_check (moves : Moves cfg delay s l t) (clock : Clock cfg delay s) :
    Served delay t.now t.msgHandler t.hbCheck := by
  obtain ⟨-, -, checks, -⟩ := clock.allowed
  cases moves with
  | advance allows => exact allows.2.2.1
  | checked is passed young =>
      rw [is] at checks
      exact checks.tick _
  | unsent | timedOut | takeError | closed => exact Served.stopped
  | _ => exact checks

theorem Moves.served_server (moves : Moves cfg delay s l t) (clock : Clock cfg delay s) :
    Served delay t.now t.manager t.heartbeat := by
  obtain ⟨-, -, -, watches⟩ := clock.allowed
  cases moves with
  | advance allows => exact allows.2.2.2
  | serverChecked is passed young =>
      rw [is] at watches
      exact watches.tick _
  | serverTimedOut | refusePing | serverClosed => exact Served.stopped
  | _ => exact watches

theorem Moves.times_allowed (moves : Moves cfg delay s l t) (clock : Clock cfg delay s) :
    ∀ time ∈ t.times, t.now ≤ time + delay := by
  obtain ⟨messages, -, -, -⟩ := clock.allowed
  have after : ∀ time ∈ t.times, s.now ≤ time + delay := by
    intro time inside
    rcases moves.times time inside with before | ⟨rfl, -⟩
    · exact messages time before
    · exact Nat.le_add_right _ _
  cases moves with
  | advance allows => exact allows.1
  | _ => exact after

theorem Moves.check (moves : Moves cfg delay s l t) (clock : Clock cfg delay s)
    (checks : cfg.Checks) : Watches cfg.timeout t.lastPong t.msgHandler t.hbCheck := by
  have watches := clock.check checks
  cases moves with
  | checked is passed young => exact watches_tick passed young
  | takePong pongs => exact watches.later clock.lastPong
  | unsent | timedOut | takeError | closed => exact Watches.stopped
  | _ => exact watches

theorem Moves.serverCheck (moves : Moves cfg delay s l t) (clock : Clock cfg delay s)
    (checks : cfg.ServerChecks) : Watches cfg.serverTimeout t.lastPing t.manager t.heartbeat := by
  have watches := clock.serverCheck checks
  cases moves with
  | serverChecked is passed young => exact watches_tick passed young
  | takePing pings => exact watches.later clock.lastPing
  | serverTimedOut | refusePing | serverClosed => exact Watches.stopped
  | _ => exact watches

/-- A message that is taken in after the cut was sent before. -/
theorem Clock.now_le {c time : Nat} (clock : Clock cfg delay s) (cut : s.cutAt = some c)
    (inside : time ∈ s.times) : s.now ≤ c + delay := by
  obtain ⟨-, -, -, sent⟩ := clock.cut c cut
  have before := sent time inside
  have taken := clock.allowed.1 time inside
  omega

theorem Moves.cut_inv (moves : Moves cfg delay s l t) (clock : Clock cfg delay s) {c : Nat}
    (cut : t.cutAt = some c) :
    t.linked = false ∧ t.lastPing ≤ c + delay ∧ t.lastPong ≤ c + delay ∧
      ∀ time ∈ t.times, time ≤ c := by
  have whole := moves.times
  have kept : s.cutAt = some c → ∀ time ∈ t.times, time ≤ c := by
    intro cut time inside
    obtain ⟨unlinked, -, -, sent⟩ := clock.cut c cut
    rcases whole time inside with before | ⟨-, linked⟩
    · exact sent time before
    · rw [unlinked] at linked
      cases linked
  cases moves with
  | cut linked =>
      cases cut
      refine ⟨rfl, Nat.le_add_right_of_le clock.lastPing, Nat.le_add_right_of_le clock.lastPong,
        fun time inside => ?_⟩
      rcases whole time inside with before | ⟨rfl, -⟩
      · exact clock.sent time before
      · exact Nat.le_refl _
  | @takePing first rest pings =>
      obtain ⟨unlinked, -, second, -⟩ := clock.cut c cut
      have inside : first ∈ s.times := by simp [State.times, pings]
      exact ⟨unlinked, clock.now_le cut inside, second, kept cut⟩
  | @takePong first rest pongs =>
      obtain ⟨unlinked, first_, -, -⟩ := clock.cut c cut
      have inside : first.sentAt ∈ s.times := by simp [State.times, pongs]
      exact ⟨unlinked, first_, clock.now_le cut inside, kept cut⟩
  | _ =>
      obtain ⟨unlinked, first, second, -⟩ := clock.cut c cut
      exact ⟨unlinked, first, second, kept cut⟩

theorem Moves.clock (moves : Moves cfg delay s l t) (clock : Clock cfg delay s) :
    Clock cfg delay t where
  sent := by
    intro time inside
    have later := moves.now_le
    rcases moves.times time inside with before | ⟨rfl, -⟩
    · exact Nat.le_trans (clock.sent time before) later
    · exact later
  lastPing := by
    have later := moves.now_le
    cases moves with
    | takePing pings => exact Nat.le_refl _
    | _ => exact Nat.le_trans clock.lastPing later
  lastPong := by
    have later := moves.now_le
    cases moves with
    | takePong pongs => exact Nat.le_refl _
    | _ => exact Nat.le_trans clock.lastPong later
  allowed := ⟨moves.times_allowed clock, moves.served_send clock, moves.served_check clock,
    moves.served_server clock⟩
  check := moves.check clock
  serverCheck := moves.serverCheck clock
  cut _ := moves.cut_inv clock

theorem clock_of_reachable (early : login ≤ delay)
    (reached : Reachable (step cfg delay) (start cfg login) s) : Clock cfg delay s :=
  reached.invariant (fun _ _ _ inv next => (step_moves next).clock inv) (start_clock early)

end Clock

/-! ## As long as the connection holds -/

/-- The messages keep pace with `hbSend`; `origin` is when the last `Ping` that was taken in
was sent, or when the handler started. -/
structure Paced (cfg : Settings) (delay : Nat) (s : State) (origin due : Nat) : Prop where
  msgHandler : s.msgHandler = true
  manager : s.manager = true
  hbSend : s.hbSend = some due
  origin_ping : origin ≤ s.lastPing + delay
  origin_pong : origin ≤ (s.pongs.map Pong.sentAt).getLastD s.lastPong
  pings : Steady (cfg.interval + delay) origin s.pings
  due_le : due ≤ s.pings.getLastD origin + cfg.interval
  pongs : Steady (cfg.interval + 2 * delay) s.lastPong (s.pongs.map Pong.sentAt)
  fine : ∀ pong ∈ s.pongs, pong.error = false

section Paced

variable {cfg : Settings} {delay login origin due : Nat} {s t : State}

/-- The last `Ping` that the server has taken in is young. -/
theorem Paced.lastPing (paced : Paced cfg delay s origin due) (clock : Clock cfg delay s) :
    s.now ≤ s.lastPing + cfg.interval + 3 * delay := by
  obtain ⟨runs, -, hbSend, first, -, steady, bound, -, -⟩ := paced
  obtain ⟨messages, sends, -⟩ := clock.allowed
  cases pings : s.pings with
  | nil =>
      have served := sends runs due hbSend
      rw [pings, List.getLastD_nil] at bound
      omega
  | cons t rest =>
      have taken := messages t (by simp [State.times, pings])
      rw [pings] at steady
      have := steady.1
      omega

theorem Paced.lastPong (paced : Paced cfg delay s origin due) (clock : Clock cfg delay s) :
    s.now ≤ s.lastPong + cfg.interval + 3 * delay := by
  obtain ⟨runs, -, hbSend, -, second, steady, bound, steady', -⟩ := paced
  obtain ⟨messages, sends, -⟩ := clock.allowed
  cases pongs : s.pongs with
  | cons u rest =>
      have taken := messages u.sentAt (by simp [State.times, pongs])
      rw [pongs] at steady'
      have := steady'.1
      omega
  | nil =>
      rw [pongs, List.map_nil, List.getLastD_nil] at second
      cases pings : s.pings with
      | nil =>
          have served := sends runs due hbSend
          rw [pings, List.getLastD_nil] at bound
          omega
      | cons t rest =>
          have taken := messages t (by simp [State.times, pings])
          rw [pings] at steady
          have := steady.1
          omega

theorem start_paced (early : login ≤ delay) (sends : cfg.Sends) :
    Paced cfg delay (start cfg login) login (login + cfg.interval) where
  msgHandler := rfl
  manager := rfl
  hbSend := if_pos sends
  origin_ping := Nat.le_add_left_of_le early
  origin_pong := Nat.le_refl _
  pings := trivial
  due_le := Nat.le_refl _
  pongs := trivial
  fine pong inside := by cases inside

/-- The timeouts leave room for an interval and three delays. -/
structure Roomy (cfg : Settings) (delay : Nat) : Prop where
  sends : cfg.Sends
  timeout : cfg.Checks → cfg.interval + 3 * delay ≤ cfg.timeout
  serverTimeout : cfg.ServerChecks → cfg.interval + 3 * delay ≤ cfg.serverTimeout

/-- A side has its ticker only if it checks. -/
structure Tickers (cfg : Settings) (s : State) : Prop where
  send : s.hbSend ≠ none → cfg.Sends
  check : s.hbCheck ≠ none → cfg.Checks
  serverCheck : s.heartbeat ≠ none → cfg.ServerChecks

theorem start_tickers : Tickers cfg (start cfg login) := by
  constructor
  all_goals
    intro some_
    by_contra none_
    exact some_ (if_neg none_)

theorem Moves.tickers {l : Label} (moves : Moves cfg delay s l t) (inv : Tickers cfg s) :
    Tickers cfg t := by
  obtain ⟨send, check, serverCheck⟩ := inv
  cases moves with
  | ping runs is passed => exact ⟨fun _ => send (by simp [is]), check, serverCheck⟩
  | checked is passed young => exact ⟨send, fun _ => check (by simp [is]), serverCheck⟩
  | serverChecked is passed young => exact ⟨send, check, fun _ => serverCheck (by simp [is])⟩
  | _ => exact ⟨send, check, serverCheck⟩

theorem Moves.paced {l : Label} (moves : Moves cfg delay s l t) (roomy : Roomy cfg delay)
    (tickers : Tickers cfg s) (clock : Clock cfg delay s) (paced : Paced cfg delay s origin due)
    (linked : t.linked = true) (accepted : t.refused = false) :
    ∃ origin due, Paced cfg delay t origin due := by
  have young := paced.lastPing clock
  have young' := paced.lastPong clock
  have linked_ := moves.linked linked
  obtain ⟨runs, runs', hbSend, first, second, steady, bound, steady', fine⟩ := paced
  cases moves with
  | advance allows =>
      exact ⟨origin, due, runs, runs', hbSend, first, second, steady, bound, steady', fine⟩
  | ping _ is passed =>
      cases hbSend.symm.trans is
      have served := clock.allowed.2.1 runs due hbSend
      refine ⟨origin, _, runs, runs', rfl, first, second, ?_, ?_, steady', fine⟩
      · rw [sent, if_pos linked_]
        exact steady_concat.2 ⟨steady, by omega⟩
      · rw [sent, if_pos linked_, List.getLastD_concat]
        exact next_le passed
  | checked is passed _ | serverChecked is passed _ =>
      exact ⟨origin, due, runs, runs', hbSend, first, second, steady, bound, steady', fine⟩
  | timedOut is old =>
      have enough := roomy.timeout (tickers.check (by simp [is]))
      omega
  | serverTimedOut is old =>
      have enough := roomy.serverTimeout (tickers.serverCheck (by simp [is]))
      omega
  | @takePing taken rest pings =>
      have before := clock.sent taken (by simp [State.times, pings])
      have served := clock.allowed.1 taken (by simp [State.times, pings])
      rw [pings] at steady bound
      rw [List.getLastD_cons] at bound
      have near := steady.1
      refine ⟨taken, due, runs, runs', hbSend, by simp only; omega, ?_, steady.2, bound, ?_, ?_⟩
      · rw [map_sent, sent, if_pos linked_, List.getLastD_concat]
        exact before
      · have soon : s.now ≤ (s.pongs.map Pong.sentAt).getLastD s.lastPong +
            (cfg.interval + 2 * delay) := by omega
        show Steady _ s.lastPong ((sent s s.pongs ⟨s.now, false⟩).map Pong.sentAt)
        rw [map_sent, sent, if_pos linked_]
        exact steady_concat.2 ⟨steady', soon⟩
      · intro pong inside
        rcases mem_sent inside with old | ⟨rfl, -⟩
        · exact fine pong old
        · rfl
  | @takePong taken rest pongs =>
      have before := clock.sent taken.sentAt (by simp [State.times, pongs])
      rw [pongs, List.map_cons] at second steady'
      rw [List.getLastD_cons] at second
      rw [pongs] at fine
      refine ⟨origin, due, runs, runs', hbSend, first, ?_, steady, bound, steady'.2.later before,
        fun pong inside => fine pong (List.mem_cons_of_mem _ inside)⟩
      cases rest with
      | nil => exact Nat.le_trans second before
      | cons u rest => exact second
  | takeError pongs error =>
      rw [fine _ (pongs ▸ List.mem_cons_self)] at error
      cases error
  | dropPing stopped pings =>
      rw [runs'] at stopped
      cases stopped
  | dropPong stopped pongs =>
      rw [runs] at stopped
      cases stopped
  | unsent | refusePing pings => cases accepted
  | cut _ => cases linked
  | closed unlinked | serverClosed unlinked =>
      rw [linked_] at unlinked
      cases unlinked

structure Inv (cfg : Settings) (delay : Nat) (s : State) : Prop where
  clock : Clock cfg delay s
  tickers : Tickers cfg s
  paced : s.linked = true → s.refused = false → ∃ origin due, Paced cfg delay s origin due

theorem start_inv (roomy : Roomy cfg delay) (early : login ≤ delay) :
    Inv cfg delay (start cfg login) where
  clock := start_clock early
  tickers := start_tickers
  paced _ _ := ⟨_, _, start_paced early roomy.sends⟩

theorem Moves.inv (roomy : Roomy cfg delay) {l : Label} (moves : Moves cfg delay s l t)
    (inv : Inv cfg delay s) : Inv cfg delay t where
  clock := moves.clock inv.clock
  tickers := moves.tickers inv.tickers
  paced linked accepted := by
    obtain ⟨origin, due, paced⟩ := inv.paced (moves.linked linked) (moves.refused accepted)
    exact moves.paced roomy inv.tickers inv.clock paced linked accepted

end Paced

/-! ## Results -/

section Results

variable {cfg : Settings} {delay login : Nat} {s : State}

/-- **As long as the connection holds and no `Ping` is refused, neither side gives up**, if the
timeouts leave room. -/
theorem no_false_timeout (roomy : Roomy cfg delay) (early : login ≤ delay)
    (reached : Reachable (step cfg delay) (start cfg login) s) (linked : s.linked = true)
    (accepted : s.refused = false) : s.msgHandler = true ∧ s.manager = true := by
  have inv := reached.invariant (fun _ _ _ inv next => (step_moves next).inv roomy inv)
    (start_inv roomy early)
  obtain ⟨origin, due, paced⟩ := inv.paced linked accepted
  exact ⟨paced.msgHandler, paced.manager⟩

/-- The defaults of both sides, without TCPMux. -/
def defaults : Settings := ⟨30, 90, false, 90, false⟩

def firstBeat : List Label :=
  [.advance (20 * second), .check, .serverCheck, .advance (10 * second), .ping true,
    .takePing true, .takePong]

theorem no_false_timeout_defaults : ∃ s,
    exec (step defaults (20 * second)) (start defaults 0) firstBeat = some s ∧
      s.lastPong = 30 * second ∧ s.msgHandler = true ∧ s.manager = true := by
  have roomy : Roomy defaults (20 * second) := ⟨by decide, fun _ => by decide, fun _ => by decide⟩
  exact ⟨_, rfl, rfl, no_false_timeout roomy (Nat.zero_le _) ⟨firstBeat, rfl⟩ rfl rfl⟩

/-- **A side that looks gives up in time after a cut.** -/
theorem cut_detected (early : login ≤ delay)
    (reached : Reachable (step cfg delay) (start cfg login) s) {c : Nat}
    (cut : s.cutAt = some c) :
    (cfg.Checks → c + cfg.timeout + second + 2 * delay < s.now → s.msgHandler = false) ∧
      (cfg.ServerChecks → c + cfg.serverTimeout + second + 2 * delay < s.now →
        s.manager = false) := by
  have clock := clock_of_reachable early reached
  obtain ⟨-, lastPing, lastPong, -⟩ := clock.cut c cut
  obtain ⟨-, -, check, serverCheck⟩ := clock.allowed
  constructor
  · intro checks late
    by_contra runs
    have runs := eq_true_of_ne_false runs
    obtain ⟨due, is, bound⟩ := clock.check checks runs
    have served := check runs due is
    omega
  · intro checks late
    by_contra runs
    have runs := eq_true_of_ne_false runs
    obtain ⟨due, is, bound⟩ := clock.serverCheck checks runs
    have served := serverCheck runs due is
    omega

def hasty : Settings := ⟨1, 1, false, 1, false⟩

/-- A `Pong` is received before the cut, and handled after it. -/
def silence : List Label :=
  [.advance second, .ping true, .check, .serverCheck, .takePing true, .cut 0 1, .advance second,
    .takePong, .ping true, .check, .serverCheck, .advance second, .ping true, .check,
    .serverCheck, .advance second, .ping true, .check, .advance (3 * second)]

theorem cut_detected_silence : ∃ s,
    exec (step hasty second) (start hasty 0) silence = some s ∧ s.cutAt = some second ∧
      s.msgHandler = false ∧ s.manager = false := by
  obtain ⟨s, run, cut, late⟩ : ∃ s, exec (step hasty second) (start hasty 0) silence = some s ∧
      s.cutAt = some second ∧ s.now = 7 * second := ⟨_, rfl, rfl, rfl⟩
  have given_up := cut_detected (Nat.zero_le _) ⟨silence, run⟩ cut
  exact ⟨s, run, cut, given_up.1 (by decide) (by rw [late]; decide),
    given_up.2 (by decide) (by rw [late]; decide)⟩

/-! ### The clock goes on -/

/-- Whether a ticker has fired and waits for its goroutine. -/
def pending (now : Nat) (running : Bool) : Option Nat → Nat
  | some due => if running = true ∧ due ≤ now then 1 else 0
  | none => 0

theorem pending_le (now : Nat) (running : Bool) (ticker : Option Nat) :
    pending now running ticker ≤ 1 := by
  unfold pending
  split
  · split <;> omega
  · omega

@[simp] theorem pending_stopped (now : Nat) (ticker : Option Nat) :
    pending now false ticker = 0 := by cases ticker <;> simp [pending]

theorem pending_next {now due period : Nat} {running : Bool} (pos : 0 < period) :
    pending now running (some (next period due now)) = 0 := by
  have := @now_lt_next period due now pos
  simp only [pending]
  rw [if_neg (by omega)]

theorem pending_eq_one {now due : Nat} {running : Bool} (runs : running = true)
    (passed : due ≤ now) : pending now running (some due) = 1 := if_pos ⟨runs, passed⟩

theorem of_pending {now : Nat} {running : Bool} {ticker : Option Nat}
    (fired : pending now running ticker ≠ 0) :
    running = true ∧ ∃ due, ticker = some due ∧ due ≤ now := by
  cases ticker with
  | none => exact absurd rfl fired
  | some due =>
      by_contra idle
      exact fired (if_neg fun is => idle ⟨is.1, due, rfl, is.2⟩)

/-- A ticker that has not fired allows another nanosecond. -/
theorem served_of_not_pending {now : Nat} {running : Bool} {ticker : Option Nat}
    (idle : pending now running ticker = 0) : Served delay (now + 1) running ticker := by
  intro runs due is
  cases is
  by_contra late
  rw [pending_eq_one runs (by omega)] at idle
  cases idle

/-- What is to be done before the clock shows `n`. -/
def work (n : Nat) (s : State) : Nat :=
  6 * (n - s.now) + 3 * pending s.now s.msgHandler s.hbSend +
    pending s.now s.msgHandler s.hbCheck + pending s.now s.manager s.heartbeat +
    2 * s.pings.length + s.pongs.length

theorem length_sent {α : Type} (s : State) (messages : List α) (message : α) :
    (sent s messages message).length ≤ messages.length + 1 := by
  unfold sent
  split
  · exact Nat.le_of_eq (List.length_append ..)
  · exact Nat.le_succ _

theorem interval_pos (sends : cfg.Sends) : 0 < cfg.interval := by
  have pos : 0 < cfg.heartbeatInterval := sends
  have : 0 < cfg.heartbeatInterval.toNat := by omega
  exact Nat.mul_pos this (by decide)

theorem progress {n : Nat} (tickers : Tickers cfg s) (before : ¬ n ≤ s.now) :
    ∃ l t, step cfg delay s l = some t ∧ work n t < work n s := by
  have one := pending_le s.now s.msgHandler s.hbSend
  have two := pending_le s.now s.msgHandler s.hbCheck
  have three := pending_le s.now s.manager s.heartbeat
  have pos : 0 < second := by decide
  cases pongs : s.pongs with
  | cons u rest =>
      refine ⟨.takePong, if s.msgHandler then
          if u.error then { s with pongs := rest, msgHandler := false }
          else { s with pongs := rest, lastPong := s.now }
        else { s with pongs := rest }, ?_, ?_⟩
      · simp only [step, pongs]
        split
        · split <;> rfl
        · rfl
      · split
        · split
          · simp only [work, pongs, List.length_cons, pending_stopped]
            omega
          · simp only [work, pongs, List.length_cons]
            omega
        · simp only [work, pongs, List.length_cons]
          omega
  | nil =>
      cases pings : s.pings with
      | cons t rest =>
          have grows := length_sent s s.pongs ⟨s.now, false⟩
          refine ⟨.takePing true, if s.manager then
              { s with
                pings := rest, lastPing := s.now, pongs := sent s s.pongs ⟨s.now, false⟩ }
            else { s with pings := rest }, ?_, ?_⟩
          · simp only [step, pings]
            split <;> rfl
          · split <;> simp only [work, pings, List.length_cons] <;> omega
      | nil =>
          by_cases sends : pending s.now s.msgHandler s.hbSend = 0
          · by_cases checks : pending s.now s.msgHandler s.hbCheck = 0
            · by_cases watches : pending s.now s.manager s.heartbeat = 0
              · have allows : s.Allows delay (s.now + 1) := by
                  refine ⟨?_, served_of_not_pending sends, served_of_not_pending checks,
                    served_of_not_pending watches⟩
                  rw [State.times, pings, pongs]
                  exact fun t inside => (List.not_mem_nil inside).elim
                have one' := pending_le (s.now + 1) s.msgHandler s.hbSend
                have two' := pending_le (s.now + 1) s.msgHandler s.hbCheck
                have three' := pending_le (s.now + 1) s.manager s.heartbeat
                refine ⟨.advance 1, _, if_pos allows, ?_⟩
                simp only [work, pings, pongs]
                omega
              · obtain ⟨runs, due, is, passed⟩ := of_pending watches
                rw [is, pending_eq_one runs passed] at three
                by_cases old : cfg.serverTimeout < s.now - s.lastPing
                · refine ⟨.serverCheck, { s with manager := false }, ?_, ?_⟩
                  · simp [step, runs, is, passed, old]
                  · simp only [work, is, pending_eq_one runs passed, pending_stopped]
                    omega
                · refine ⟨.serverCheck,
                    { s with heartbeat := some (next second due s.now) }, ?_, ?_⟩
                  · simp [step, runs, is, passed, old]
                  · simp only [work, is, pending_eq_one runs passed, pending_next pos]
                    omega
            · obtain ⟨runs, due, is, passed⟩ := of_pending checks
              by_cases old : cfg.timeout < s.now - s.lastPong
              · refine ⟨.check, { s with msgHandler := false }, ?_, ?_⟩
                · simp [step, runs, is, passed, old]
                · simp only [work, is, pending_eq_one runs passed, pending_stopped]
                  omega
              · refine ⟨.check, { s with hbCheck := some (next second due s.now) }, ?_, ?_⟩
                · simp [step, runs, is, passed, old]
                · simp only [work, is, pending_eq_one runs passed, pending_next pos]
                  omega
          · obtain ⟨runs, due, is, passed⟩ := of_pending sends
            have pos' := interval_pos (tickers.send (by simp [is]))
            have grows := length_sent s s.pings s.now
            refine ⟨.ping true, { s with
              hbSend := some (next cfg.interval due s.now), pings := sent s s.pings s.now }, ?_, ?_⟩
            · simp [step, runs, is, passed]
            · simp only [work, is, pending_eq_one runs passed, pending_next pos']
              omega

/-- Whatever has happened, the clock can go on. -/
theorem time_passes (reached : Reachable (step cfg delay) (start cfg login) s) (n : Nat) :
    CanReach (step cfg delay) (fun t => n ≤ t.now) s := by
  have tickers := reached.invariant (fun _ _ _ inv next => (step_moves next).tickers inv)
    start_tickers
  refine canReach_of_measure (Tickers cfg) (work n) ?_ tickers
  intro s tickers before
  obtain ⟨l, t, next, less⟩ := progress tickers before
  exact ⟨l, t, next, (step_moves next).tickers tickers, less⟩

end Results

end ChmlFrp.System.Heartbeat
