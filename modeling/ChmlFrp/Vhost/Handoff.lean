/-
# ChmlFrp.Vhost.Handoff — who holds an accepted connection

A connection that a muxer or the listener of a tcp group accepts goes from goroutine to
goroutine over unbuffered channels: `Muxer.handle` sends it to `Listener.Accept`, and the
workers of `TCPGroup` and `TCPMuxGroup` to the `Accept` of a member; the worker of a
`TCPMuxGroup` gets it from a `Listener.Accept` itself.  The receiving side closes these
channels while senders may be at them.  Their panic is turned into an error, after which
the sender returns.

The machine has one muxer, its listeners and any number of groups.  It cuts `Close` and
`CloseListener` where a sender or a worker can come between.

* `conserved_and_tight`: no connection is given to two `Accept`s; and none is left open by
  the goroutine that had it in the runs in which a channel is closed only while nobody
  holds a connection for it, no worker accepts for a closed channel and the rewriting of
  the host does not fail.  Any other step leads to such a connection.
* `closed_under_sender`: a listener is closed while a handler is at its channel, and a group
  while its worker is.
-/
import ChmlFrp.Lib.Slots
import ChmlFrp.Vhost.Lookup
import ChmlFrp.Vhost.Muxer

namespace ChmlFrp.Vhost.Handoff

set_option autoImplicit false

universe u

open ChmlFrp.Lib
open ChmlFrp.Lib.Transition

/-! ## Listeners, groups, connections -/

inductive Owner where
  | proxy
  | group (g : Nat)
  deriving DecidableEq, Repr

/-- How far `Listener.Close` is. -/
inductive Stage where
  | listening
  /-- The route is deleted. -/
  | deleted
  /-- `accept` is closed. -/
  | closed
  deriving DecidableEq, Repr

/-- A `Listener` of the muxer. -/
structure MuxListener where
  config : Listener
  owner : Owner
  stage : Stage
  deriving DecidableEq, Repr

/-- The `tcpLn` of a tcp group or the `tcpMuxLn` of a tcpmux group. -/
inductive Source where
  | tcp (isOpen : Bool)
  | mux (l : Nat)
  deriving DecidableEq, Repr

structure Group where
  tcpMux : Bool
  source : Option Source
  acceptChClosed : Bool
  lns : List Nat
  /-- The members that were made so far. -/
  made : Nat
  /-- `CloseListener` has closed `acceptCh` and still holds the mutex. -/
  closing : Bool
  deriving DecidableEq, Repr

/-- `NewTCPGroup`, `NewTCPMuxGroup` -/
def newGroup (tcpMux : Bool) : Group := ⟨tcpMux, none, false, [], 0, false⟩

inductive WorkerStage where
  | accepting
  /-- It has accepted the connection. -/
  | holding (c : Nat)
  | returned
  deriving DecidableEq, Repr

/-- A goroutine that runs `worker`. -/
structure Worker where
  g : Nat
  stage : WorkerStage
  deriving DecidableEq, Repr

/-- Who calls `Listener.Accept`. -/
inductive Taker where
  | proxy
  | worker (w : Nat)
  deriving DecidableEq, Repr

/-- An `Accept` of a proxy. -/
inductive Receiver where
  | listener (l : Nat)
  | member (g ln : Nat)
  deriving DecidableEq, Repr

/-- Where an accepted connection is. -/
inductive Place where
  /-- In `handle`, before the listener is looked up. -/
  | handling
  /-- In `handle`, which has found the listener and will send the connection to it. -/
  | sending (l : Nat)
  /-- In `Listener.Accept`, which has received it. -/
  | rewriting (l : Nat) (taker : Taker)
  /-- In a worker, which sends it to `acceptCh`. -/
  | forwarding (w : Nat)
  | given (r : Receiver)
  /-- The goroutine that had it has returned. -/
  | gone
  deriving DecidableEq, Repr

structure Conn where
  isOpen : Bool
  place : Place
  deriving DecidableEq, Repr

structure State where
  registryRouter : Routers Nat
  listeners : List MuxListener
  groups : List Group
  workers : List Worker
  conns : List Conn
  /-- What the `Accept`s of the proxies returned. -/
  accepted : List (Nat × Receiver)

def start : State := ⟨newRouters, [], [], [], [], []⟩

inductive Label (ρ : Type u) where
  /-- `Muxer.Listen` of a proxy. -/
  | listen (config : Listener)
  /-- `Muxer.run` accepts a connection and starts `handle`. -/
  | accept
  /-- `handle`, up to the send. -/
  | handle (c : Nat) (env : ConnEnv) (req : ρ)
  /-- `Listener.Accept` receives the connection. -/
  | receive (c : Nat) (taker : Taker)
  /-- The `rewriteHost` of `Listener.Accept` returns. -/
  | rewrite (c : Nat) (err : Bool)
  /-- The send of `handle` panics. -/
  | handlePanics (c : Nat)
  /-- The two parts of `Listener.Close`. -/
  | deleteRoute (l : Nat)
  | closeAccept (l : Nat)
  | newGroup (tcpMux : Bool)
  /-- The first `Listen` of a group; the route, for a tcpmux group. -/
  | firstListen (g : Nat) (config : Option Listener)
  | joinGroup (g : Nat)
  /-- `CloseListener` of a member, up to the close of `acceptCh`. -/
  | closeMember (g ln : Nat)
  /-- The rest of the last `CloseListener`. -/
  | closeSource (g : Nat)
  /-- The worker of a tcp group accepts a connection. -/
  | acceptTCP (w : Nat)
  /-- The `Accept` of a member receives the connection of the worker. -/
  | take (w ln : Nat)
  /-- The send of the worker panics. -/
  | workerPanics (w : Nat)
  /-- The `Accept` of the worker returns an error. -/
  | workerStops (w : Nat)

/-! ## Steps -/

namespace State

def setListener (s : State) (l : Nat) (ml : MuxListener) : State :=
  { s with listeners := s.listeners.set l ml }

def setGroup (s : State) (g : Nat) (tg : Group) : State := { s with groups := s.groups.set g tg }

def setWorker (s : State) (w : Nat) (worker : Worker) : State :=
  { s with workers := s.workers.set w worker }

def setConn (s : State) (c : Nat) (conn : Conn) : State := { s with conns := s.conns.set c conn }

/-- `Muxer.Listen`: the route and the listener, unless there is one for it. -/
def listen (s : State) (config : Listener) (owner : Owner) : Option State :=
  (s.registryRouter.add config.name config.location config.routeByHTTPUser
    s.listeners.length).map fun registryRouter =>
      { s with
        registryRouter := registryRouter
        listeners := s.listeners ++ [⟨config, owner, .listening⟩] }

/-- The listener that `handle` finds for a request. -/
def getListener (unicode : GoString → GoString) (s : State) (info : ReqInfo) : Option Nat :=
  (s.registryRouter.search (GoString.toLower unicode (info.at (GoString.lit "Host")))
    (GoString.toLower unicode (info.at (GoString.lit "Path")))
    (info.at (GoString.lit "HTTPUser"))).map Router.payload

/-- The `Accept` of a proxy returns the connection. -/
def give (s : State) (c : Nat) (conn : Conn) (r : Receiver) : State :=
  { s.setConn c { conn with place := .given r } with accepted := s.accepted ++ [(c, r)] }

/-- `Listener.Accept` returns the connection to its caller. -/
def deliver (s : State) (c : Nat) (conn : Conn) (l : Nat) : Taker → State
  | .proxy => s.give c conn (.listener l)
  | .worker w => s.setConn c { conn with place := .forwarding w }

end State

section Machine

variable {ρ : Type u} (unicode : GoString → GoString) (v : Muxer ρ)

/-- Where `Muxer.handle` leaves the connection; the hooks are those of the muxer. -/
def handle (s : State) (conn : Conn) (env : ConnEnv) (req : ρ) : Conn :=
  if !env.setDeadline then ⟨false, .gone⟩
  else
    match v.vhostFunc req with
    | none => ⟨false, .gone⟩
    | some info =>
        match s.getListener unicode info with
        | none => ⟨false, .gone⟩
        | some l =>
            match s.listeners[l]? with
            | none => ⟨false, .gone⟩
            | some ml =>
                if !(v.runSuccessHook env info).2 then ⟨false, .gone⟩
                else if !(v.runCheckAuth env ml.config info).2 then ⟨false, .gone⟩
                else if !env.clearDeadline then ⟨false, .gone⟩
                else { conn with place := .sending l }

/-- `Listener.Accept` has received the connection. -/
def received (rewriteHost : Bool) (s : State) (c : Nat) (conn : Conn) (l : Nat) (taker : Taker) :
    State :=
  if rewriteHost then s.setConn c { conn with place := .rewriting l taker }
  else s.deliver c conn l taker

/-- `Listen` of a group without members opens the source and starts a worker. -/
def openSource (s : State) (g : Nat) (tg : Group) (source : Source) : State :=
  { s.setGroup g { tg with source := some source, lns := [tg.made], made := tg.made + 1 } with
    workers := s.workers ++ [⟨g, .accepting⟩] }

/-- Who may close the listener: its proxy, or the last `CloseListener` of its group. -/
def MayClose (s : State) (l : Nat) : Owner → Prop
  | .proxy => True
  | .group g => ∃ tg ∈ s.groups[g]?, tg.closing = true ∧ tg.source = some (.mux l)

instance (s : State) (l : Nat) : (owner : Owner) → Decidable (MayClose s l owner)
  | .proxy => inferInstanceAs (Decidable True)
  | .group g => inferInstanceAs (Decidable (∃ tg ∈ s.groups[g]?, _))

/-- The source of a group is closed, and `Accept` on it fails. -/
def SourceClosed (s : State) : Source → Prop
  | .tcp isOpen => isOpen = false
  | .mux l => ∃ ml ∈ s.listeners[l]?, ml.stage = .closed

instance (s : State) : (source : Source) → Decidable (SourceClosed s source)
  | .tcp isOpen => inferInstanceAs (Decidable (isOpen = false))
  | .mux l => inferInstanceAs (Decidable (∃ ml ∈ s.listeners[l]?, _))

/-- One step; `rewriteHost` says whether the muxer has that function. -/
def step (rewriteHost : Bool) (s : State) : Label ρ → Option State
  | .listen config => s.listen config .proxy
  | .accept => some { s with conns := s.conns ++ [⟨true, .handling⟩] }
  | .handle c env req =>
      s.conns[c]?.bind fun conn =>
        if conn.place = .handling then
          some (s.setConn c (handle unicode v s conn env req))
        else none
  | .receive c taker =>
      s.conns[c]?.bind fun conn =>
        match conn.place with
        | .sending l =>
            s.listeners[l]?.bind fun ml =>
              if ml.stage = .closed then none
              else
                match taker with
                | .proxy =>
                    if ml.owner = .proxy then some (received rewriteHost s c conn l .proxy)
                    else none
                | .worker w =>
                    s.workers[w]?.bind fun worker =>
                      s.groups[worker.g]?.bind fun tg =>
                        if worker.stage = .accepting ∧ tg.source = some (.mux l) then
                          some ((received rewriteHost s c conn l (.worker w)).setWorker w
                            { worker with stage := .holding c })
                        else none
        | _ => none
  | .rewrite c err =>
      s.conns[c]?.bind fun conn =>
        match conn.place with
        | .rewriting l taker =>
            if err then
              let s' := s.setConn c { conn with place := .gone }
              match taker with
              | .proxy => some s'
              | .worker w =>
                  s.workers[w]?.map fun worker => s'.setWorker w { worker with stage := .returned }
            else some (s.deliver c conn l taker)
        | _ => none
  | .handlePanics c =>
      s.conns[c]?.bind fun conn =>
        match conn.place with
        | .sending l =>
            s.listeners[l]?.bind fun ml =>
              if ml.stage = .closed then some (s.setConn c { conn with place := .gone }) else none
        | _ => none
  | .deleteRoute l =>
      s.listeners[l]?.bind fun ml =>
        if ml.stage = .listening ∧ MayClose s l ml.owner then
          some { s.setListener l { ml with stage := .deleted } with
            registryRouter := s.registryRouter.del ml.config.name ml.config.location
              ml.config.routeByHTTPUser }
        else none
  | .closeAccept l =>
      s.listeners[l]?.bind fun ml =>
        if ml.stage = .deleted then some (s.setListener l { ml with stage := .closed }) else none
  | .newGroup tcpMux => some { s with groups := s.groups ++ [newGroup tcpMux] }
  | .firstListen g config =>
      s.groups[g]?.bind fun tg =>
        if tg.lns = [] ∧ tg.closing = false ∧ config.isSome = tg.tcpMux then
          match config with
          | none => some (openSource s g tg (.tcp true))
          | some config =>
              (s.listen config (.group g)).map fun s' =>
                openSource s' g tg (.mux s.listeners.length)
        else none
  | .joinGroup g =>
      s.groups[g]?.bind fun tg =>
        if tg.lns ≠ [] ∧ tg.closing = false then
          some (s.setGroup g { tg with lns := tg.lns ++ [tg.made], made := tg.made + 1 })
        else none
  | .closeMember g ln =>
      s.groups[g]?.bind fun tg =>
        if ln ∈ tg.lns ∧ tg.closing = false then
          if tg.lns.erase ln = [] ∧ tg.acceptChClosed = false then
            some (s.setGroup g { tg with lns := [], acceptChClosed := true, closing := true })
          -- closing the channel once more panics
          else some (s.setGroup g { tg with lns := tg.lns.erase ln })
        else none
  | .closeSource g =>
      s.groups[g]?.bind fun tg =>
        if tg.closing = true then
          match tg.source with
          | some (.tcp _) =>
              some (s.setGroup g { tg with source := some (.tcp false), closing := false })
          | some (.mux l) =>
              if SourceClosed s (.mux l) then some (s.setGroup g { tg with closing := false })
              else none
          | none => none
        else none
  | .acceptTCP w =>
      s.workers[w]?.bind fun worker =>
        s.groups[worker.g]?.bind fun tg =>
          if worker.stage = .accepting ∧ tg.source = some (.tcp true) then
            some { s.setWorker w { worker with stage := .holding s.conns.length } with
              conns := s.conns ++ [⟨true, .forwarding w⟩] }
          else none
  | .take w ln =>
      s.workers[w]?.bind fun worker =>
        match worker.stage with
        | .holding c =>
            s.conns[c]?.bind fun conn =>
              s.groups[worker.g]?.bind fun tg =>
                if conn.place = .forwarding w ∧ tg.acceptChClosed = false ∧ ln < tg.made then
                  some ((s.give c conn (.member worker.g ln)).setWorker w
                    { worker with stage := .accepting })
                else none
        | _ => none
  | .workerPanics w =>
      s.workers[w]?.bind fun worker =>
        match worker.stage with
        | .holding c =>
            s.conns[c]?.bind fun conn =>
              s.groups[worker.g]?.bind fun tg =>
                if conn.place = .forwarding w ∧ tg.acceptChClosed = true then
                  some ((s.setConn c { conn with place := .gone }).setWorker w
                    { worker with stage := .returned })
                else none
        | _ => none
  | .workerStops w =>
      s.workers[w]?.bind fun worker =>
        s.groups[worker.g]?.bind fun tg =>
          tg.source.bind fun source =>
            if worker.stage = .accepting ∧ SourceClosed s source then
              some (s.setWorker w { worker with stage := .returned })
            else none

/-- What each step finds, and what it makes of the state. -/
inductive Moves (rewriteHost : Bool) (s : State) : Label ρ → State → Prop
  | listen {config : Listener} {t : State} (listened : s.listen config .proxy = some t) :
      Moves rewriteHost s (.listen config) t
  | accept : Moves rewriteHost s .accept { s with conns := s.conns ++ [⟨true, .handling⟩] }
  | handle {c : Nat} {conn : Conn} (env : ConnEnv) (req : ρ) (there : s.conns[c]? = some conn)
      (handling : conn.place = .handling) :
      Moves rewriteHost s (.handle c env req) (s.setConn c (handle unicode v s conn env req))
  | receive {c ln : Nat} {conn : Conn} (there : s.conns[c]? = some conn)
      (sending : conn.place = .sending ln) :
      Moves rewriteHost s (.receive c .proxy) (received rewriteHost s c conn ln .proxy)
  | grab {c ln w : Nat} {conn : Conn} {worker : Worker} {tg : Group}
      (there : s.conns[c]? = some conn) (sending : conn.place = .sending ln)
      (works : s.workers[w]? = some worker) (grouped : s.groups[worker.g]? = some tg)
      (accepting : worker.stage = .accepting) (sourced : tg.source = some (.mux ln)) :
      Moves rewriteHost s (.receive c (.worker w))
        ((received rewriteHost s c conn ln (.worker w)).setWorker w
          { worker with stage := .holding c })
  | rewrite {c ln : Nat} {conn : Conn} {taker : Taker} (there : s.conns[c]? = some conn)
      (rewriting : conn.place = .rewriting ln taker) :
      Moves rewriteHost s (.rewrite c false) (s.deliver c conn ln taker)
  | fail {c ln : Nat} {conn : Conn} (there : s.conns[c]? = some conn)
      (rewriting : conn.place = .rewriting ln .proxy) :
      Moves rewriteHost s (.rewrite c true) (s.setConn c { conn with place := .gone })
  | failWorker {c ln w : Nat} {conn : Conn} {worker : Worker} (there : s.conns[c]? = some conn)
      (rewriting : conn.place = .rewriting ln (.worker w))
      (works : s.workers[w]? = some worker) :
      Moves rewriteHost s (.rewrite c true)
        ((s.setConn c { conn with place := .gone }).setWorker w { worker with stage := .returned })
  | handlePanics {c ln : Nat} {conn : Conn} {ml : MuxListener} (there : s.conns[c]? = some conn)
      (sending : conn.place = .sending ln) (listens : s.listeners[ln]? = some ml)
      (closed : ml.stage = .closed) :
      Moves rewriteHost s (.handlePanics c) (s.setConn c { conn with place := .gone })
  | deleteRoute {n : Nat} {ml : MuxListener} (listens : s.listeners[n]? = some ml)
      (listening : ml.stage = .listening) (may : MayClose s n ml.owner) :
      Moves rewriteHost s (.deleteRoute n)
        { s.setListener n { ml with stage := .deleted } with
          registryRouter := s.registryRouter.del ml.config.name ml.config.location
            ml.config.routeByHTTPUser }
  | closeAccept {n : Nat} {ml : MuxListener} (listens : s.listeners[n]? = some ml)
      (deleted : ml.stage = .deleted) :
      Moves rewriteHost s (.closeAccept n) (s.setListener n { ml with stage := .closed })
  | newGroup (tcpMux : Bool) :
      Moves rewriteHost s (.newGroup tcpMux) { s with groups := s.groups ++ [newGroup tcpMux] }
  | openTCP {g : Nat} {tg : Group} (grouped : s.groups[g]? = some tg) (first : tg.lns = []) :
      Moves rewriteHost s (.firstListen g none) (openSource s g tg (.tcp true))
  | openMux {g : Nat} {tg : Group} {config : Listener} {s' : State}
      (grouped : s.groups[g]? = some tg) (first : tg.lns = [])
      (listened : s.listen config (.group g) = some s') :
      Moves rewriteHost s (.firstListen g (some config))
        (openSource s' g tg (.mux s.listeners.length))
  | joinGroup {g : Nat} {tg : Group} (grouped : s.groups[g]? = some tg) (more : tg.lns ≠ []) :
      Moves rewriteHost s (.joinGroup g)
        (s.setGroup g { tg with lns := tg.lns ++ [tg.made], made := tg.made + 1 })
  | lastMember {g ln : Nat} {tg : Group} (grouped : s.groups[g]? = some tg)
      (last : tg.lns.erase ln = []) (isOpen : tg.acceptChClosed = false) :
      Moves rewriteHost s (.closeMember g ln)
        (s.setGroup g { tg with lns := [], acceptChClosed := true, closing := true })
  | closeMember {g ln : Nat} {tg : Group} (grouped : s.groups[g]? = some tg)
      (other : ¬ (tg.lns.erase ln = [] ∧ tg.acceptChClosed = false)) :
      Moves rewriteHost s (.closeMember g ln) (s.setGroup g { tg with lns := tg.lns.erase ln })
  | closeTCP {g : Nat} {tg : Group} (grouped : s.groups[g]? = some tg) (closing : tg.closing = true) :
      Moves rewriteHost s (.closeSource g)
        (s.setGroup g { tg with source := some (.tcp false), closing := false })
  | closeMux {g ln : Nat} {tg : Group} (grouped : s.groups[g]? = some tg)
      (closing : tg.closing = true) (closed : SourceClosed s (.mux ln)) :
      Moves rewriteHost s (.closeSource g) (s.setGroup g { tg with closing := false })
  | acceptTCP {w : Nat} {worker : Worker} {tg : Group} (works : s.workers[w]? = some worker)
      (grouped : s.groups[worker.g]? = some tg) (accepting : worker.stage = .accepting) :
      Moves rewriteHost s (.acceptTCP w)
        { s.setWorker w { worker with stage := .holding s.conns.length } with
          conns := s.conns ++ [⟨true, .forwarding w⟩] }
  | take {c w ln : Nat} {conn : Conn} {worker : Worker} (there : s.conns[c]? = some conn)
      (forwarding : conn.place = .forwarding w) (works : s.workers[w]? = some worker)
      (holding : worker.stage = .holding c) :
      Moves rewriteHost s (.take w ln)
        ((s.give c conn (.member worker.g ln)).setWorker w { worker with stage := .accepting })
  | workerPanics {c w : Nat} {conn : Conn} {worker : Worker} {tg : Group}
      (there : s.conns[c]? = some conn) (forwarding : conn.place = .forwarding w)
      (works : s.workers[w]? = some worker) (holding : worker.stage = .holding c)
      (grouped : s.groups[worker.g]? = some tg) (closed : tg.acceptChClosed = true) :
      Moves rewriteHost s (.workerPanics w)
        ((s.setConn c { conn with place := .gone }).setWorker w { worker with stage := .returned })
  | workerStops {w : Nat} {worker : Worker} (works : s.workers[w]? = some worker)
      (accepting : worker.stage = .accepting) :
      Moves rewriteHost s (.workerStops w) (s.setWorker w { worker with stage := .returned })

variable {unicode} {v} {rewriteHost : Bool} {s t : State} {l : Label ρ}

theorem step_moves (next : step unicode v rewriteHost s l = some t) :
    Moves unicode v rewriteHost s l t := by
  cases l with
  | listen config => exact .listen next
  | accept =>
      cases next
      exact .accept
  | handle c env req =>
      obtain ⟨conn, there, moved⟩ := Option.bind_eq_some_iff.1 next
      obtain ⟨handling, moved⟩ := Option.ite_none_right_eq_some.1 moved
      cases moved
      exact .handle env req there handling
  | receive c taker =>
      obtain ⟨conn, there, moved⟩ := Option.bind_eq_some_iff.1 next
      split at moved
      · rename_i ln sending
        obtain ⟨ml, listens, moved⟩ := Option.bind_eq_some_iff.1 moved
        obtain ⟨-, moved⟩ := Option.ite_none_left_eq_some.1 moved
        cases taker with
        | proxy =>
            obtain ⟨-, moved⟩ := Option.ite_none_right_eq_some.1 moved
            cases moved
            exact .receive there sending
        | worker w =>
            obtain ⟨worker, works, moved⟩ := Option.bind_eq_some_iff.1 moved
            obtain ⟨tg, grouped, moved⟩ := Option.bind_eq_some_iff.1 moved
            obtain ⟨⟨accepting, sourced⟩, moved⟩ := Option.ite_none_right_eq_some.1 moved
            cases moved
            exact .grab there sending works grouped accepting sourced
      · cases moved
  | rewrite c err =>
      obtain ⟨conn, there, moved⟩ := Option.bind_eq_some_iff.1 next
      split at moved
      · rename_i ln taker rewriting
        cases err with
        | false =>
            cases moved
            exact .rewrite there rewriting
        | true =>
            cases taker with
            | proxy =>
                cases moved
                exact .fail there rewriting
            | worker w =>
                obtain ⟨worker, works, rfl⟩ := Option.map_eq_some_iff.1 moved
                exact .failWorker there rewriting works
      · cases moved
  | handlePanics c =>
      obtain ⟨conn, there, moved⟩ := Option.bind_eq_some_iff.1 next
      split at moved
      · rename_i ln sending
        obtain ⟨ml, listens, moved⟩ := Option.bind_eq_some_iff.1 moved
        obtain ⟨closed, moved⟩ := Option.ite_none_right_eq_some.1 moved
        cases moved
        exact .handlePanics there sending listens closed
      · cases moved
  | deleteRoute n =>
      obtain ⟨ml, listens, moved⟩ := Option.bind_eq_some_iff.1 next
      obtain ⟨⟨listening, may⟩, moved⟩ := Option.ite_none_right_eq_some.1 moved
      cases moved
      exact .deleteRoute listens listening may
  | closeAccept n =>
      obtain ⟨ml, listens, moved⟩ := Option.bind_eq_some_iff.1 next
      obtain ⟨deleted, moved⟩ := Option.ite_none_right_eq_some.1 moved
      cases moved
      exact .closeAccept listens deleted
  | newGroup tcpMux =>
      cases next
      exact .newGroup tcpMux
  | firstListen g config =>
      obtain ⟨tg, grouped, moved⟩ := Option.bind_eq_some_iff.1 next
      obtain ⟨⟨first, -⟩, moved⟩ := Option.ite_none_right_eq_some.1 moved
      cases config with
      | none =>
          cases moved
          exact .openTCP grouped first
      | some config =>
          obtain ⟨s', listened, rfl⟩ := Option.map_eq_some_iff.1 moved
          exact .openMux grouped first listened
  | joinGroup g =>
      obtain ⟨tg, grouped, moved⟩ := Option.bind_eq_some_iff.1 next
      obtain ⟨⟨more, -⟩, moved⟩ := Option.ite_none_right_eq_some.1 moved
      cases moved
      exact .joinGroup grouped more
  | closeMember g ln =>
      obtain ⟨tg, grouped, moved⟩ := Option.bind_eq_some_iff.1 next
      obtain ⟨-, moved⟩ := Option.ite_none_right_eq_some.1 moved
      split at moved
      · rename_i last
        cases moved
        exact .lastMember grouped last.1 last.2
      · rename_i other
        cases moved
        exact .closeMember grouped other
  | closeSource g =>
      obtain ⟨tg, grouped, moved⟩ := Option.bind_eq_some_iff.1 next
      obtain ⟨closing, moved⟩ := Option.ite_none_right_eq_some.1 moved
      split at moved
      · cases moved
        exact .closeTCP grouped closing
      · obtain ⟨closed, moved⟩ := Option.ite_none_right_eq_some.1 moved
        cases moved
        exact .closeMux grouped closing closed
      · cases moved
  | acceptTCP w =>
      obtain ⟨worker, works, moved⟩ := Option.bind_eq_some_iff.1 next
      obtain ⟨tg, grouped, moved⟩ := Option.bind_eq_some_iff.1 moved
      obtain ⟨⟨accepting, -⟩, moved⟩ := Option.ite_none_right_eq_some.1 moved
      cases moved
      exact .acceptTCP works grouped accepting
  | take w ln =>
      obtain ⟨worker, works, moved⟩ := Option.bind_eq_some_iff.1 next
      split at moved
      · rename_i c holding
        obtain ⟨conn, there, moved⟩ := Option.bind_eq_some_iff.1 moved
        obtain ⟨tg, -, moved⟩ := Option.bind_eq_some_iff.1 moved
        obtain ⟨⟨forwarding, -⟩, moved⟩ := Option.ite_none_right_eq_some.1 moved
        cases moved
        exact .take there forwarding works holding
      · cases moved
  | workerPanics w =>
      obtain ⟨worker, works, moved⟩ := Option.bind_eq_some_iff.1 next
      split at moved
      · rename_i c holding
        obtain ⟨conn, there, moved⟩ := Option.bind_eq_some_iff.1 moved
        obtain ⟨tg, grouped, moved⟩ := Option.bind_eq_some_iff.1 moved
        obtain ⟨⟨forwarding, closed⟩, moved⟩ := Option.ite_none_right_eq_some.1 moved
        cases moved
        exact .workerPanics there forwarding works holding grouped closed
      · cases moved
  | workerStops w =>
      obtain ⟨worker, works, moved⟩ := Option.bind_eq_some_iff.1 next
      obtain ⟨tg, -, moved⟩ := Option.bind_eq_some_iff.1 moved
      obtain ⟨source, -, moved⟩ := Option.bind_eq_some_iff.1 moved
      obtain ⟨⟨accepting, -⟩, moved⟩ := Option.ite_none_right_eq_some.1 moved
      cases moved
      exact .workerStops works accepting

/-- The routes of the machine and of the muxer lead to the same listeners. -/
def SameRoutes (unicode : GoString → GoString) (v : Muxer ρ) (s : State) : Prop :=
  ∀ info, v.selected unicode info =
    (s.getListener unicode info).bind fun n => s.listeners[n]?.map MuxListener.config

/-- `handle` closes the connection or sends it where the events of `Muxer.handle` say. -/
theorem handle_follows (same : SameRoutes unicode v s) (conn : Conn) (env : ConnEnv) (req : ρ)
    (accepted : env.accepted = true) :
    handle unicode v s conn env req = ⟨false, .gone⟩ ∧
        Event.close ∈ v.handle unicode env req ∨
      ∃ n ml, handle unicode v s conn env req = { conn with place := .sending n } ∧
        s.listeners[n]? = some ml ∧ Event.deliver ml.config ∈ v.handle unicode env req := by
  cases deadline : env.setDeadline with
  | false =>
      left
      simp [handle, Muxer.handle, deadline]
  | true =>
      cases read : v.vhostFunc req with
      | none =>
          left
          simp [handle, Muxer.handle, deadline, read]
      | some info =>
          have selected := same info
          cases found : s.getListener unicode info with
          | none =>
              left
              simp [handle, Muxer.handle, deadline, read, selected, found]
          | some n =>
              cases listens : s.listeners[n]? with
              | none =>
                  left
                  simp [handle, Muxer.handle, deadline, read, selected, found, listens]
              | some ml =>
                  rw [found, Option.bind_some, listens, Option.map_some] at selected
                  rw [Muxer.handle_of_selected deadline read selected]
                  cases success : (v.runSuccessHook env info).2 with
                  | false =>
                      left
                      simp [handle, deadline, read, found, listens, success]
                  | true =>
                      cases ok : (v.runCheckAuth env ml.config info).2 with
                      | false =>
                          left
                          simp [handle, deadline, read, found, listens, success, ok]
                      | true =>
                          cases clear : env.clearDeadline with
                          | false =>
                              left
                              simp [handle, deadline, read, found, listens, success, ok, clear]
                          | true =>
                              right
                              refine ⟨n, ml, ?_, listens, ?_⟩
                              · simp [handle, deadline, read, found, listens, success, ok, clear]
                              · simp [accepted]

/-! ## The routes -/

/-- The route is of a listener that is not being closed. -/
def Routed (s : State) (domain user : GoString) (vr : Router Nat) : Prop :=
  ∃ ml, s.listeners[vr.payload]? = some ml ∧ ml.stage = .listening ∧ domain = ml.config.name ∧
    user = ml.config.routeByHTTPUser ∧ vr.location = ml.config.location

def Routes (s : State) : Prop :=
  ∀ domain user, ∀ vr ∈ s.registryRouter.list domain user, Routed s domain user vr

theorem routes_start : Routes start := by
  intro domain user vr inside
  rw [show start.registryRouter = newRouters from rfl, Routers.list_newRouters] at inside
  cases inside

theorem mem_list_add {r r' : Routers Nat} {domain location user : GoString} {n : Nat}
    (added : r.add domain location user n = some r') {d u : GoString} {vr : Router Nat}
    (inside : vr ∈ r'.list d u) :
    vr ∈ r.list d u ∨ d = domain ∧ u = user ∧ vr = ⟨domain, location, user, n⟩ := by
  unfold Routers.add at added
  split at added
  · cases added
  · cases added
    rw [Routers.list_store] at inside
    split at inside
    · rename_i same
      rw [Routers.sortByLocation, List.mem_insertionSort, List.mem_append, List.mem_singleton]
        at inside
      rcases inside with old | new
      · rw [← same.1, ← same.2] at old
        exact .inl old
      · exact .inr ⟨same.1, same.2, new⟩
    · exact .inl inside

theorem mem_list_del {r : Routers Nat} {domain location user d u : GoString} {vr : Router Nat}
    (inside : vr ∈ (r.del domain location user).list d u) :
    vr ∈ r.list d u ∧ ¬ (d = domain ∧ u = user ∧ vr.location = location) := by
  rw [Routers.list_del] at inside
  split at inside
  · rename_i same
    rw [List.mem_filter, decide_eq_true_eq] at inside
    rw [same.1, same.2]
    exact ⟨inside.1, fun all => inside.2 all.2.2⟩
  · rename_i other
    exact ⟨inside, fun all => other ⟨all.1, all.2.1⟩⟩

theorem routes_listen (routes : Routes s) {config : Listener} {owner : Owner}
    (listened : s.listen config owner = some t) : Routes t := by
  obtain ⟨r, added, rfl⟩ := Option.map_eq_some_iff.1 listened
  intro d u vr inside
  rcases mem_list_add added inside with old | ⟨rfl, rfl, rfl⟩
  · obtain ⟨ml, there, rest⟩ := routes d u vr old
    exact ⟨ml, Slots.append_old there, rest⟩
  · exact ⟨_, List.getElem?_concat_length, rfl, rfl, rfl, rfl⟩

theorem Routes.congr (routes : Routes s) (router : t.registryRouter = s.registryRouter)
    (listeners : t.listeners = s.listeners) : Routes t := by
  unfold Routes Routed
  rw [router, listeners]
  exact routes

theorem routes_deliver (routes : Routes s) (c : Nat) (conn : Conn) (ln : Nat) (taker : Taker) :
    Routes (s.deliver c conn ln taker) := by
  cases taker with
  | proxy => exact routes.congr rfl rfl
  | worker w => exact routes.congr rfl rfl

theorem routes_received (routes : Routes s) (c : Nat) (conn : Conn) (ln : Nat) (taker : Taker) :
    Routes (received rewriteHost s c conn ln taker) := by
  unfold received
  split
  · exact routes.congr rfl rfl
  · exact routes_deliver routes c conn ln taker

/-- A listener to which no route leads is set. -/
theorem Routes.setListener (routes : Routes s) {n : Nat} {ml : MuxListener}
    (unrouted : ∀ domain user, ∀ vr ∈ t.registryRouter.list domain user,
      vr ∈ s.registryRouter.list domain user ∧ vr.payload ≠ n)
    (listeners : t.listeners = s.listeners.set n ml) : Routes t := by
  intro d u vr inside
  obtain ⟨old, different⟩ := unrouted d u vr inside
  obtain ⟨ml', there, rest⟩ := routes d u vr old
  refine ⟨ml', ?_, rest⟩
  rw [listeners, List.getElem?_set_ne (Ne.symm different), there]

theorem Routes.moves (routes : Routes s) (moves : Moves unicode v rewriteHost s l t) :
    Routes t := by
  cases moves with
  | listen listened => exact routes_listen routes listened
  | receive => exact routes_received routes _ _ _ _
  | grab => exact (routes_received routes _ _ _ _).congr rfl rfl
  | rewrite => exact routes_deliver routes _ _ _ _
  | openMux grouped first listened => exact (routes_listen routes listened).congr rfl rfl
  | @deleteRoute n ml listens =>
      apply routes.setListener (n := n) ?_ rfl
      intro d u vr inside
      obtain ⟨old, other⟩ := mem_list_del inside
      obtain ⟨ml', there, -, keys⟩ := routes d u vr old
      refine ⟨old, ?_⟩
      -- the routes of the listener are gone, so this one is of another
      rintro rfl
      cases there.symm.trans listens
      exact other keys
  | @closeAccept n ml listens deleted =>
      apply routes.setListener (n := n) ?_ rfl
      intro d u vr inside
      obtain ⟨ml', there, listening, -⟩ := routes d u vr inside
      refine ⟨inside, ?_⟩
      rintro rfl
      cases there.symm.trans listens
      rw [deleted] at listening
      cases listening
  | _ => exact routes.congr rfl rfl

/-! ## Who holds what -/

/-- The worker that has the connection. -/
def Place.heldBy : Place → Option Nat
  | .rewriting _ (.worker w) | .forwarding w => some w
  | .handling | .sending _ | .rewriting _ .proxy | .given _ | .gone => none

def Place.isGiven : Place → Bool
  | .given _ => true
  | .handling | .sending _ | .rewriting .. | .forwarding _ | .gone => false

/-- How often an `Accept` of a proxy has returned the connection. -/
def State.returned (s : State) (c : Nat) : Nat := (s.accepted.map Prod.fst).count c

/-- In every run. -/
structure Held (s : State) : Prop where
  /-- A connection that somebody has is open. -/
  live : ∀ (c : Nat) conn, s.conns[c]? = some conn → conn.place ≠ .gone → conn.isOpen = true
  holds : ∀ (w : Nat) worker c, s.workers[w]? = some worker → worker.stage = .holding c →
    ∃ conn, s.conns[c]? = some conn ∧ conn.place.heldBy = some w
  once : ∀ (c : Nat) conn, s.conns[c]? = some conn →
    s.returned c = if conn.place.isGiven then 1 else 0
  known : ∀ given ∈ s.accepted, given.1 < s.conns.length

/-- In the runs that keep the connections. -/
structure Kept (s : State) : Prop where
  gone : ∀ (c : Nat) conn, s.conns[c]? = some conn → conn.place = .gone → conn.isOpen = false
  /-- The channel that a handler will send to is open. -/
  sending : ∀ (c : Nat) conn ln, s.conns[c]? = some conn → conn.place = .sending ln →
    ∃ ml, s.listeners[ln]? = some ml ∧ ml.stage ≠ .closed
  /-- So is the one that a worker will send to. -/
  holding : ∀ (w : Nat) worker c, s.workers[w]? = some worker → worker.stage = .holding c →
    ∃ tg, s.groups[worker.g]? = some tg ∧ tg.acceptChClosed = false

theorem held_start : Held start where
  live c conn none := by cases none
  holds w worker c none := by cases none
  once c conn none := by cases none
  known given none := by cases none

theorem kept_start : Kept start where
  gone c conn none := by cases none
  sending c conn ln none := by cases none
  holding w worker c none := by cases none

/-- A step that touches no connection; workers that hold one go on. -/
theorem Held.quiet (held : Held s) (conns : t.conns = s.conns) (accepted : t.accepted = s.accepted)
    (workers : ∀ (w : Nat) worker c, t.workers[w]? = some worker → worker.stage = .holding c →
      s.workers[w]? = some worker) : Held t where
  live := by
    rw [conns]
    exact held.live
  holds w worker c works holding := by
    rw [conns]
    exact held.holds w worker c (workers w worker c works holding) holding
  once := by
    unfold State.returned
    rw [conns, accepted]
    exact held.once
  known := by
    rw [conns, accepted]
    exact held.known

/-- Such a step keeps the connections if it leaves the channels open that are needed. -/
theorem Kept.quiet (kept : Kept s) (conns : t.conns = s.conns)
    (workers : ∀ (w : Nat) worker c, t.workers[w]? = some worker → worker.stage = .holding c →
      s.workers[w]? = some worker)
    (listeners : ∀ (c : Nat) conn ln ml, s.conns[c]? = some conn → conn.place = .sending ln →
      s.listeners[ln]? = some ml → ml.stage ≠ .closed →
        ∃ ml', t.listeners[ln]? = some ml' ∧ ml'.stage ≠ .closed)
    (groups : ∀ (w : Nat) worker c tg, s.workers[w]? = some worker → worker.stage = .holding c →
      s.groups[worker.g]? = some tg → tg.acceptChClosed = false →
        ∃ tg', t.groups[worker.g]? = some tg' ∧ tg'.acceptChClosed = false) : Kept t where
  gone := by
    rw [conns]
    exact kept.gone
  sending c conn ln there sending := by
    rw [conns] at there
    obtain ⟨ml, listens, isOpen⟩ := kept.sending c conn ln there sending
    exact listeners c conn ln ml there sending listens isOpen
  holding w worker c works holding := by
    have works' := workers w worker c works holding
    obtain ⟨tg, grouped, isOpen⟩ := kept.holding w worker c works' holding
    exact groups w worker c tg works' holding grouped isOpen

/-- One connection changes hands.  The workers that hold another one still do. -/
theorem Held.move (held : Held s) {c : Nat} {conn conn' : Conn} (there : s.conns[c]? = some conn)
    (conns : t.conns = s.conns.set c conn')
    (live : conn'.place ≠ .gone → conn'.isOpen = true)
    (workers : ∀ (w : Nat) worker d, t.workers[w]? = some worker → worker.stage = .holding d →
      d = c ∧ conn'.place.heldBy = some w ∨ d ≠ c ∧ s.workers[w]? = some worker)
    (known : ∀ given ∈ t.accepted, given.1 < s.conns.length)
    (once : t.returned c = if conn'.place.isGiven then 1 else 0)
    (others : ∀ d, d ≠ c → t.returned d = s.returned d) : Held t where
  live d other at_d := by
    rw [conns] at at_d
    rcases Slots.set_cases at_d with ⟨-, rfl⟩ | ⟨-, before⟩
    · exact live
    · exact held.live d other before
  holds w worker d works holding := by
    rw [conns]
    rcases workers w worker d works holding with ⟨rfl, by_w⟩ | ⟨different, before⟩
    · exact ⟨conn', Slots.set_self there, by_w⟩
    · obtain ⟨other, at_d, by_w⟩ := held.holds w worker d before holding
      exact ⟨other, by rw [List.getElem?_set_ne (Ne.symm different), at_d], by_w⟩
  once d other at_d := by
    rw [conns] at at_d
    rcases Slots.set_cases at_d with ⟨rfl, rfl⟩ | ⟨different, before⟩
    · exact once
    · rw [others d different]
      exact held.once d other before
  known given inside := by
    rw [conns, List.length_set]
    exact known given inside

/-- It is not returned to a proxy. -/
theorem Held.pass (held : Held s) {c : Nat} {conn conn' : Conn} (there : s.conns[c]? = some conn)
    (conns : t.conns = s.conns.set c conn') (accepted : t.accepted = s.accepted)
    (live : conn'.place ≠ .gone → conn'.isOpen = true)
    (workers : ∀ (w : Nat) worker d, t.workers[w]? = some worker → worker.stage = .holding d →
      d = c ∧ conn'.place.heldBy = some w ∨ d ≠ c ∧ s.workers[w]? = some worker)
    (given : conn'.place.isGiven = conn.place.isGiven) : Held t := by
  have same : ∀ d, t.returned d = s.returned d := by
    intro d
    unfold State.returned
    rw [accepted]
  apply held.move there conns live workers
  · rw [accepted]
    exact held.known
  · rw [same, given]
    exact held.once c conn there
  · intro d _
    exact same d

/-- It is returned to a proxy, for the first time. -/
theorem Held.give (held : Held s) {c : Nat} {conn : Conn} {r : Receiver}
    (there : s.conns[c]? = some conn)
    (conns : t.conns = s.conns.set c { conn with place := .given r })
    (accepted : t.accepted = s.accepted ++ [(c, r)])
    (before : conn.place ≠ .gone) (first : conn.place.isGiven = false)
    (workers : ∀ (w : Nat) worker d, t.workers[w]? = some worker → worker.stage = .holding d →
      d ≠ c ∧ s.workers[w]? = some worker) : Held t := by
  have returned : ∀ d, t.returned d = s.returned d + if d = c then 1 else 0 := by
    intro d
    unfold State.returned
    rw [accepted, List.map_append, List.count_append]
    by_cases same : d = c
    · simp [same]
    · simp [same, Ne.symm same]
  apply held.move there conns
  · intro _
    exact held.live c conn there before
  · intro w worker d works holding
    exact .inr (workers w worker d works holding)
  · intro given inside
    rw [accepted] at inside
    rcases List.mem_append.1 inside with old | new
    · exact held.known given old
    · obtain ⟨bound, -⟩ := List.getElem?_eq_some_iff.1 there
      rw [List.mem_singleton.1 new]
      exact bound
  · rw [returned, held.once c conn there, first]
    simp [Place.isGiven]
  · intro d different
    rw [returned, if_neg different]
    rfl

/-- A connection is accepted. -/
theorem Held.enter (held : Held s) {place : Place} (given : place.isGiven = false)
    (conns : t.conns = s.conns ++ [⟨true, place⟩]) (accepted : t.accepted = s.accepted)
    (workers : ∀ (w : Nat) worker d, t.workers[w]? = some worker → worker.stage = .holding d →
      d = s.conns.length ∧ place.heldBy = some w ∨ s.workers[w]? = some worker) : Held t where
  live c conn there := by
    rw [conns] at there
    rcases Slots.append_cases there with old | ⟨-, rfl⟩
    · exact held.live c conn old
    · exact fun _ => rfl
  holds w worker c works holding := by
    rw [conns]
    rcases workers w worker c works holding with ⟨rfl, by_w⟩ | before
    · exact ⟨_, List.getElem?_concat_length, by_w⟩
    · obtain ⟨conn, there, by_w⟩ := held.holds w worker c before holding
      exact ⟨conn, Slots.append_old there, by_w⟩
  once c conn there := by
    have same : t.returned c = s.returned c := by
      unfold State.returned
      rw [accepted]
    rw [same]
    rw [conns] at there
    rcases Slots.append_cases there with old | ⟨rfl, rfl⟩
    · exact held.once c conn old
    · rw [given, if_neg (by decide)]
      apply List.count_eq_zero.2
      intro inside
      obtain ⟨pair, known, same⟩ := List.mem_map.1 inside
      exact absurd (held.known pair known) (by rw [same]; exact lt_irrefl _)
  known pair inside := by
    rw [accepted] at inside
    rw [conns, List.length_append]
    exact Nat.lt_succ_of_lt (held.known pair inside)

/-- A worker holds no connection that is elsewhere. -/
theorem Held.unheld (held : Held s) {c : Nat} {conn : Conn} (there : s.conns[c]? = some conn)
    (free : conn.place.heldBy = none) {w d : Nat} {worker : Worker}
    (works : s.workers[w]? = some worker) (holding : worker.stage = .holding d) : d ≠ c := by
  rintro rfl
  obtain ⟨other, at_d, by_w⟩ := held.holds w worker d works holding
  rw [there] at at_d
  cases at_d
  rw [free] at by_w
  cases by_w

theorem Held.other (held : Held s) {c w : Nat} {conn : Conn} (there : s.conns[c]? = some conn)
    (by_w : conn.place.heldBy = some w) {w' d : Nat} {worker : Worker} (different : w' ≠ w)
    (works : s.workers[w']? = some worker) (holding : worker.stage = .holding d) : d ≠ c := by
  rintro rfl
  obtain ⟨other, at_d, by_w'⟩ := held.holds w' worker d works holding
  rw [there] at at_d
  cases at_d
  rw [by_w] at by_w'
  exact different (Option.some.inj by_w').symm

/-- A connection that no worker has stays so, or goes to the worker that now holds it. -/
theorem Held.grabbed (held : Held s) {c w : Nat} {conn conn' : Conn} {worker : Worker}
    (there : s.conns[c]? = some conn) (free : conn.place.heldBy = none)
    (by_w : conn'.place.heldBy = some w) :
    ∀ (w' : Nat) worker' d,
      (s.workers.set w { worker with stage := .holding c })[w']? = some worker' →
        worker'.stage = .holding d →
          d = c ∧ conn'.place.heldBy = some w' ∨ d ≠ c ∧ s.workers[w']? = some worker' := by
  intro w' worker' d works holding
  rcases Slots.set_cases works with ⟨rfl, rfl⟩ | ⟨-, before⟩
  · cases holding
    exact .inl ⟨rfl, by_w⟩
  · exact .inr ⟨held.unheld there free before holding, before⟩

/-- The worker that had the connection holds none. -/
theorem Held.released (held : Held s) {c w : Nat} {conn : Conn} {worker : Worker}
    (there : s.conns[c]? = some conn) (by_w : conn.place.heldBy = some w)
    (none : ∀ d, worker.stage ≠ .holding d) :
    ∀ (w' : Nat) worker' d, (s.workers.set w worker)[w']? = some worker' →
      worker'.stage = .holding d → d ≠ c ∧ s.workers[w']? = some worker' := by
  intro w' worker' d works holding
  rcases Slots.set_cases works with ⟨rfl, rfl⟩ | ⟨different, before⟩
  · exact absurd holding (none d)
  · exact ⟨held.other there by_w different before holding, before⟩

theorem Kept.move (kept : Kept s) {c : Nat} {conn' : Conn}
    (conns : t.conns = s.conns.set c conn') (listeners : t.listeners = s.listeners)
    (groups : t.groups = s.groups) (gone : conn'.place = .gone → conn'.isOpen = false)
    (sending : ∀ ln, conn'.place = .sending ln →
      ∃ ml, s.listeners[ln]? = some ml ∧ ml.stage ≠ .closed)
    (workers : ∀ (w : Nat) worker d, t.workers[w]? = some worker → worker.stage = .holding d →
      s.workers[w]? = some worker ∨
        ∃ tg, s.groups[worker.g]? = some tg ∧ tg.acceptChClosed = false) : Kept t where
  gone d other at_d := by
    rw [conns] at at_d
    rcases Slots.set_cases at_d with ⟨-, rfl⟩ | ⟨-, before⟩
    · exact gone
    · exact kept.gone d other before
  sending d other ln at_d to_ln := by
    rw [conns] at at_d
    rw [listeners]
    rcases Slots.set_cases at_d with ⟨-, rfl⟩ | ⟨-, before⟩
    · exact sending ln to_ln
    · exact kept.sending d other ln before to_ln
  holding w worker d works holding := by
    rw [groups]
    rcases workers w worker d works holding with before | isOpen
    · exact kept.holding w worker d before holding
    · exact isOpen

theorem Kept.enter (kept : Kept s) {place : Place} (conns : t.conns = s.conns ++ [⟨true, place⟩])
    (listeners : t.listeners = s.listeners) (groups : t.groups = s.groups)
    (gone : place ≠ .gone) (sending : ∀ ln, place ≠ .sending ln)
    (workers : ∀ (w : Nat) worker d, t.workers[w]? = some worker → worker.stage = .holding d →
      s.workers[w]? = some worker ∨
        ∃ tg, s.groups[worker.g]? = some tg ∧ tg.acceptChClosed = false) : Kept t where
  gone c conn there := by
    rw [conns] at there
    rcases Slots.append_cases there with old | ⟨-, rfl⟩
    · exact kept.gone c conn old
    · exact fun is => absurd is gone
  sending c conn ln there to_ln := by
    rw [conns] at there
    rw [listeners]
    rcases Slots.append_cases there with old | ⟨-, rfl⟩
    · exact kept.sending c conn ln old to_ln
    · exact absurd to_ln (sending ln)
  holding w worker c works holding := by
    rw [groups]
    rcases workers w worker c works holding with before | isOpen
    · exact kept.holding w worker c before holding
    · exact isOpen

/-! ## The condition -/

/-- The channel that the worker sends to is open. -/
def ChannelOpen (s : State) (w : Nat) : Prop :=
  ∀ worker, s.workers[w]? = some worker → ∀ tg, s.groups[worker.g]? = some tg →
    tg.acceptChClosed = false

/-- A channel is closed only if nobody holds a connection for it, a worker accepts only if
the channel it sends to is open, and the rewriting of the host does not fail. -/
def Guard (s : State) : Label ρ → Prop
  | .closeAccept ln => ∀ (c : Nat) conn, s.conns[c]? = some conn → conn.place ≠ .sending ln
  | .closeMember g ln => ∀ tg, s.groups[g]? = some tg → tg.lns.erase ln = [] →
      ∀ (w : Nat) worker c, s.workers[w]? = some worker → worker.stage = .holding c →
        worker.g ≠ g
  | .acceptTCP w | .receive _ (.worker w) => ChannelOpen s w
  | .rewrite _ err => err = false
  | _ => True

/-! ## One step -/

/-- `handle` closes the connection or has found a listener that is not being closed. -/
theorem handle_cases (routes : Routes s) (conn : Conn) (env : ConnEnv) (req : ρ) :
    handle unicode v s conn env req = ⟨false, .gone⟩ ∨
      ∃ ln ml, handle unicode v s conn env req = { conn with place := .sending ln } ∧
        s.listeners[ln]? = some ml ∧ ml.stage = .listening := by
  unfold handle
  split
  · exact .inl rfl
  split
  · exact .inl rfl
  split
  · exact .inl rfl
  rename_i ln found
  split
  · exact .inl rfl
  rename_i ml listens
  split
  · exact .inl rfl
  split
  · exact .inl rfl
  split
  · exact .inl rfl
  right
  refine ⟨ln, ml, rfl, listens, ?_⟩
  obtain ⟨vr, search, rfl⟩ := Option.map_eq_some_iff.1 found
  have routed : ∃ domain user, Routed s domain user vr := by
    obtain ⟨domain, user | all⟩ := Routers.search_mem search
    · exact ⟨domain, _, routes domain _ vr user⟩
    · exact ⟨domain, _, routes domain _ vr all⟩
  obtain ⟨-, -, ml', there, listening, -⟩ := routed
  rw [listens] at there
  cases there
  exact listening

/-- What a step keeps in any run, and what it keeps under the condition. -/
def Preserves (s : State) (l : Label ρ) (t : State) : Prop :=
  Held t ∧ (Kept s → Guard s l → Kept t)

theorem held_setWorker {w : Nat} {worker : Worker} (none : ∀ c, worker.stage ≠ .holding c) :
    ∀ (w' : Nat) worker' c, (s.workers.set w worker)[w']? = some worker' →
      worker'.stage = .holding c → s.workers[w']? = some worker' := by
  intro w' worker' c works holding
  rcases Slots.set_cases works with ⟨rfl, rfl⟩ | ⟨-, before⟩
  · exact absurd holding (none c)
  · exact before

/-- A step that leaves the connections and what is done with them. -/
theorem preserves_quiet (held : Held s) (conns : t.conns = s.conns)
    (accepted : t.accepted = s.accepted)
    (workers : ∀ (w : Nat) worker c, t.workers[w]? = some worker → worker.stage = .holding c →
      s.workers[w]? = some worker)
    (listeners : Guard s l → ∀ (c : Nat) conn ln ml, s.conns[c]? = some conn →
      conn.place = .sending ln → s.listeners[ln]? = some ml → ml.stage ≠ .closed →
        ∃ ml', t.listeners[ln]? = some ml' ∧ ml'.stage ≠ .closed)
    (groups : Guard s l → ∀ (w : Nat) worker c tg, s.workers[w]? = some worker →
      worker.stage = .holding c → s.groups[worker.g]? = some tg → tg.acceptChClosed = false →
        ∃ tg', t.groups[worker.g]? = some tg' ∧ tg'.acceptChClosed = false) :
    Preserves s l t :=
  ⟨held.quiet conns accepted workers,
    fun kept guard => kept.quiet conns workers (listeners guard) (groups guard)⟩

theorem listeners_append {config : Listener} {owner : Owner}
    (listened : s.listen config owner = some t) :
    t.listeners = s.listeners ++ [⟨config, owner, .listening⟩] ∧ t.conns = s.conns ∧
      t.accepted = s.accepted ∧ t.workers = s.workers ∧ t.groups = s.groups := by
  obtain ⟨r, -, rfl⟩ := Option.map_eq_some_iff.1 listened
  exact ⟨rfl, rfl, rfl, rfl, rfl⟩

/-- A listener that is set keeps its channel open, unless somebody closes it. -/
theorem listeners_set {n : Nat} {ml new : MuxListener} (there : s.listeners[n]? = some ml)
    (isOpen : ∀ (c : Nat) conn, s.conns[c]? = some conn → conn.place = .sending n →
      ml.stage ≠ .closed → new.stage ≠ .closed) :
    ∀ (c : Nat) conn ln old, s.conns[c]? = some conn → conn.place = .sending ln →
      s.listeners[ln]? = some old → old.stage ≠ .closed →
        ∃ ml', (s.listeners.set n new)[ln]? = some ml' ∧ ml'.stage ≠ .closed := by
  intro c conn ln old at_c sending listens live
  by_cases same : ln = n
  · subst same
    rw [there] at listens
    cases listens
    exact ⟨new, Slots.set_self there, isOpen c conn at_c sending live⟩
  · exact ⟨old, by rw [List.getElem?_set_ne (Ne.symm same), listens], live⟩

theorem groups_set {g : Nat} {tg new : Group} (there : s.groups[g]? = some tg)
    (isOpen : ∀ (w : Nat) worker c, s.workers[w]? = some worker → worker.stage = .holding c →
      worker.g = g → tg.acceptChClosed = false → new.acceptChClosed = false) :
    ∀ (w : Nat) worker c old, s.workers[w]? = some worker → worker.stage = .holding c →
      s.groups[worker.g]? = some old → old.acceptChClosed = false →
        ∃ tg', (s.groups.set g new)[worker.g]? = some tg' ∧ tg'.acceptChClosed = false := by
  intro w worker c old works holding grouped live
  by_cases same : worker.g = g
  · rw [same, there] at grouped
    cases grouped
    exact ⟨new, by rw [same]; exact Slots.set_self there,
      isOpen w worker c works holding same live⟩
  · exact ⟨old, by rw [List.getElem?_set_ne (Ne.symm same), grouped], live⟩

/-- A proxy's `Listener.Accept` goes on with the connection. -/
theorem preserves_proxy (held : Held s) {c ln : Nat} {conn : Conn}
    (there : s.conns[c]? = some conn) (free : conn.place.heldBy = none)
    (first : conn.place.isGiven = false) (here : conn.place ≠ .gone) :
    Preserves s l (s.deliver c conn ln .proxy) := by
  have workers : ∀ (w : Nat) worker d, s.workers[w]? = some worker →
      worker.stage = .holding d → d ≠ c ∧ s.workers[w]? = some worker :=
    fun w worker d works holding => ⟨held.unheld there free works holding, works⟩
  refine ⟨held.give there rfl rfl here first workers, fun kept _ => ?_⟩
  exact kept.move rfl rfl rfl nofun nofun fun _ _ _ works _ => .inl works

theorem preserves_rewriting (held : Held s) {c ln : Nat} {conn : Conn}
    (there : s.conns[c]? = some conn) (free : conn.place.heldBy = none)
    (first : conn.place.isGiven = false) (here : conn.place ≠ .gone) :
    Preserves s l (s.setConn c { conn with place := .rewriting ln .proxy }) := by
  have live := held.live c conn there here
  refine ⟨held.pass there rfl rfl (fun _ => live) ?_ first.symm, fun kept _ => ?_⟩
  · exact fun w worker d works holding => .inr ⟨held.unheld there free works holding, works⟩
  · exact kept.move rfl rfl rfl nofun nofun fun _ _ _ works _ => .inl works

/-- A worker's `Accept` gets the connection. -/
theorem preserves_grab (held : Held s) {c w : Nat} {conn : Conn} {worker : Worker} {tg : Group}
    {place : Place} (there : s.conns[c]? = some conn) (works : s.workers[w]? = some worker)
    (grouped : s.groups[worker.g]? = some tg) (free : conn.place.heldBy = none)
    (first : conn.place.isGiven = false) (here : conn.place ≠ .gone)
    (by_w : place.heldBy = some w) (new : place.isGiven = false)
    (guard : Guard s l → ChannelOpen s w) :
    Preserves s l ((s.setConn c { conn with place := place }).setWorker w
      { worker with stage := .holding c }) := by
  have live := held.live c conn there here
  constructor
  · refine held.pass there rfl rfl (fun _ => live) ?_ (new.trans first.symm)
    exact held.grabbed there free by_w
  · intro kept fine
    refine kept.move rfl rfl rfl ?_ ?_ ?_
    · intro gone
      rw [show place = .gone from gone] at by_w
      cases by_w
    · intro ln sending
      rw [show place = .sending ln from sending] at by_w
      cases by_w
    · intro w' worker' d works' holding
      rcases Slots.set_cases works' with ⟨rfl, rfl⟩ | ⟨-, before⟩
      · exact .inr ⟨tg, grouped, guard fine worker works tg grouped⟩
      · exact .inl before

/-- The worker that has the connection gives it up. -/
theorem preserves_release (held : Held s) {c w : Nat} {conn conn' : Conn} {worker : Worker}
    (there : s.conns[c]? = some conn) (by_w : conn.place.heldBy = some w)
    (none : ∀ d, worker.stage ≠ .holding d) (place : conn'.place = .gone)
    (impossible : Kept s → Guard s l → False) :
    Preserves s l ((s.setConn c conn').setWorker w worker) := by
  constructor
  · refine held.pass there rfl rfl (fun other => absurd place other) ?_ ?_
    · exact fun w' worker' d works holding =>
        .inr (held.released there by_w none w' worker' d works holding)
    · rw [place]
      cases at_place : conn.place with
      | given r =>
          rw [at_place] at by_w
          cases by_w
      | _ => rfl
  · exact fun kept guard => (impossible kept guard).elim

theorem preserves_listen (held : Held s) {config : Listener}
    (listened : s.listen config .proxy = some t) : Preserves s l t := by
  obtain ⟨listeners, conns, accepted, workers, groups⟩ := listeners_append listened
  refine preserves_quiet held conns accepted ?_ ?_ ?_
  · rw [workers]
    exact fun _ _ _ works _ => works
  · rw [listeners]
    exact fun _ _ _ _ ml _ _ listens isOpen => ⟨ml, Slots.append_old listens, isOpen⟩
  · rw [groups]
    exact fun _ _ _ _ tg _ _ grouped isOpen => ⟨tg, grouped, isOpen⟩

theorem preserves_setListener (held : Held s) {n : Nat} {ml new : MuxListener} (r : Routers Nat)
    (listens : s.listeners[n]? = some ml)
    (isOpen : Guard s l → ∀ (c : Nat) conn, s.conns[c]? = some conn → conn.place = .sending n →
      ml.stage ≠ .closed → new.stage ≠ .closed) :
    Preserves s l { s.setListener n new with registryRouter := r } := by
  refine preserves_quiet held rfl rfl ?_ ?_ ?_
  · exact fun _ _ _ works _ => works
  · exact fun fine => listeners_set listens (isOpen fine)
  · exact fun _ _ _ _ tg _ _ grouped isOpen => ⟨tg, grouped, isOpen⟩

theorem preserves_setGroup (held : Held s) {g : Nat} {tg new : Group}
    (grouped : s.groups[g]? = some tg)
    (isOpen : Guard s l → ∀ (w : Nat) worker c, s.workers[w]? = some worker →
      worker.stage = .holding c → worker.g = g → tg.acceptChClosed = false →
        new.acceptChClosed = false) :
    Preserves s l (s.setGroup g new) := by
  refine preserves_quiet held rfl rfl ?_ ?_ ?_
  · exact fun _ _ _ works _ => works
  · exact fun _ _ _ _ ml _ _ listens isOpen => ⟨ml, listens, isOpen⟩
  · exact fun fine => groups_set grouped (isOpen fine)

/-- A worker that is started holds nothing. -/
theorem started_accepts {g : Nat} :
    ∀ (w : Nat) worker c, (s.workers ++ [⟨g, WorkerStage.accepting⟩])[w]? = some worker →
      worker.stage = .holding c → s.workers[w]? = some worker := by
  intro w worker c works holding
  rcases Slots.append_cases works with old | ⟨-, rfl⟩
  · exact old
  · cases holding

theorem preserves_openTCP (held : Held s) {g : Nat} {tg : Group}
    (grouped : s.groups[g]? = some tg) : Preserves s l (openSource s g tg (.tcp true)) := by
  refine preserves_quiet held rfl rfl started_accepts ?_ ?_
  · exact fun _ _ _ _ ml _ _ listens isOpen => ⟨ml, listens, isOpen⟩
  · exact fun _ => groups_set grouped fun _ _ _ _ _ _ => id

theorem preserves_openMux (held : Held s) {g : Nat} {tg : Group} {config : Listener} {s' : State}
    (grouped : s.groups[g]? = some tg) (listened : s.listen config (.group g) = some s') :
    Preserves s l (openSource s' g tg (.mux s.listeners.length)) := by
  obtain ⟨listeners, conns, accepted, workers, groups⟩ := listeners_append listened
  refine preserves_quiet held conns accepted ?_ ?_ ?_
  · simp only [openSource, State.setGroup, workers]
    exact started_accepts
  · simp only [openSource, State.setGroup, listeners]
    exact fun _ _ _ _ ml _ _ listens isOpen => ⟨ml, Slots.append_old listens, isOpen⟩
  · simp only [openSource, State.setGroup, groups]
    exact fun _ => groups_set grouped fun _ _ _ _ _ _ => id

theorem preserves_handle (routes : Routes s) (held : Held s) {c : Nat} {conn : Conn}
    (there : s.conns[c]? = some conn) (handling : conn.place = .handling) (env : ConnEnv)
    (req : ρ) : Preserves s l (s.setConn c (handle unicode v s conn env req)) := by
  have free : conn.place.heldBy = none := by
    rw [handling]
    rfl
  have workers : ∀ place' : Place, ∀ (w : Nat) worker d, s.workers[w]? = some worker →
      worker.stage = .holding d →
        d = c ∧ place'.heldBy = some w ∨ d ≠ c ∧ s.workers[w]? = some worker :=
    fun _ w worker d works holding => .inr ⟨held.unheld there free works holding, works⟩
  rcases handle_cases routes conn env req with closed | ⟨ln, ml, found, listens, listening⟩
  · rw [closed]
    constructor
    · exact held.pass there rfl rfl (fun other => absurd rfl other) (workers _)
        (by rw [handling]; rfl)
    · exact fun kept _ => kept.move rfl rfl rfl (fun _ => rfl) nofun
        fun _ _ _ works _ => .inl works
  · rw [found]
    have live := held.live c conn there (by rw [handling]; exact nofun)
    constructor
    · exact held.pass there rfl rfl (fun _ => live) (workers _) (by rw [handling]; rfl)
    · refine fun kept _ => kept.move rfl rfl rfl nofun ?_ fun _ _ _ works _ => .inl works
      intro ln' same
      cases same
      exact ⟨ml, listens, by rw [listening]; exact nofun⟩

theorem preserves_receive (held : Held s) {c ln : Nat} {conn : Conn}
    (there : s.conns[c]? = some conn) (sending : conn.place = .sending ln) :
    Preserves s l (received rewriteHost s c conn ln .proxy) := by
  have free : conn.place.heldBy = none := by
    rw [sending]
    rfl
  have first : conn.place.isGiven = false := by
    rw [sending]
    rfl
  have here : conn.place ≠ .gone := by
    rw [sending]
    exact nofun
  unfold received
  split
  · exact preserves_rewriting held there free first here
  · exact preserves_proxy held there free first here

theorem preserves_received (held : Held s) {c ln w : Nat} {conn : Conn} {worker : Worker}
    {tg : Group} (there : s.conns[c]? = some conn) (sending : conn.place = .sending ln)
    (works : s.workers[w]? = some worker) (grouped : s.groups[worker.g]? = some tg)
    (guard : Guard s l → ChannelOpen s w) :
    Preserves s l ((received rewriteHost s c conn ln (.worker w)).setWorker w
      { worker with stage := .holding c }) := by
  have free : conn.place.heldBy = none := by
    rw [sending]
    rfl
  have first : conn.place.isGiven = false := by
    rw [sending]
    rfl
  have here : conn.place ≠ .gone := by
    rw [sending]
    exact nofun
  unfold received
  split
  · exact preserves_grab held there works grouped free first here rfl rfl guard
  · exact preserves_grab held there works grouped free first here rfl rfl guard

/-- The worker goes on with the connection that it has. -/
theorem preserves_rewrite (held : Held s) {c ln : Nat} {conn : Conn} {taker : Taker}
    (there : s.conns[c]? = some conn) (rewriting : conn.place = .rewriting ln taker) :
    Preserves s l (s.deliver c conn ln taker) := by
  have first : conn.place.isGiven = false := by
    rw [rewriting]
    rfl
  have here : conn.place ≠ .gone := by
    rw [rewriting]
    exact nofun
  cases taker with
  | proxy => exact preserves_proxy held there (by rw [rewriting]; rfl) first here
  | worker w =>
      have by_w : conn.place.heldBy = some w := by
        rw [rewriting]
        rfl
      have live := held.live c conn there here
      constructor
      · refine held.pass there rfl rfl (fun _ => live) ?_ first.symm
        intro w' worker' d works holding
        by_cases same : d = c
        · subst same
          obtain ⟨other, at_d, by_w'⟩ := held.holds w' worker' d works holding
          cases there.symm.trans at_d
          exact .inl ⟨rfl, by_w.symm.trans by_w'⟩
        · exact .inr ⟨same, works⟩
      · exact fun kept _ => kept.move rfl rfl rfl nofun nofun fun _ _ _ works _ => .inl works

/-- A goroutine that is no worker gives the connection up. -/
theorem preserves_gone (held : Held s) {c : Nat} {conn : Conn} (there : s.conns[c]? = some conn)
    (free : conn.place.heldBy = none) (first : conn.place.isGiven = false)
    (impossible : Kept s → Guard s l → False) :
    Preserves s l (s.setConn c { conn with place := .gone }) := by
  constructor
  · refine held.pass there rfl rfl (fun other => absurd rfl other) ?_ first.symm
    exact fun w worker d works holding => .inr ⟨held.unheld there free works holding, works⟩
  · exact fun kept guard => (impossible kept guard).elim

theorem preserves_acceptTCP (held : Held s) {w : Nat} {worker : Worker} {tg : Group}
    (works : s.workers[w]? = some worker) (grouped : s.groups[worker.g]? = some tg)
    (guard : Guard s l → ChannelOpen s w) :
    Preserves s l { s.setWorker w { worker with stage := .holding s.conns.length } with
      conns := s.conns ++ [⟨true, .forwarding w⟩] } := by
  constructor
  · refine held.enter rfl rfl rfl ?_
    intro w' worker' d works' holding
    rcases Slots.set_cases works' with ⟨rfl, rfl⟩ | ⟨-, before⟩
    · cases holding
      exact .inl ⟨rfl, rfl⟩
    · exact .inr before
  · refine fun kept fine => kept.enter rfl rfl rfl nofun nofun ?_
    intro w' worker' d works' holding
    rcases Slots.set_cases works' with ⟨rfl, rfl⟩ | ⟨-, before⟩
    · exact .inr ⟨tg, grouped, guard fine worker works tg grouped⟩
    · exact .inl before

theorem preserves_take (held : Held s) {c w ln : Nat} {conn : Conn} {worker : Worker}
    (there : s.conns[c]? = some conn) (forwarding : conn.place = .forwarding w) :
    Preserves s l ((s.give c conn (.member worker.g ln)).setWorker w
      { worker with stage := .accepting }) := by
  have by_w : conn.place.heldBy = some w := by
    rw [forwarding]
    rfl
  constructor
  · refine held.give there rfl rfl (by rw [forwarding]; exact nofun) (by rw [forwarding]; rfl) ?_
    exact held.released there by_w nofun
  · refine fun kept _ => kept.move rfl rfl rfl nofun nofun ?_
    exact fun w' worker' d works' holding' =>
      .inl (held_setWorker (fun _ => WorkerStage.noConfusion) w' worker' d works' holding')

theorem preserves_workerStops (held : Held s) {w : Nat} {worker : Worker} :
    Preserves s l (s.setWorker w { worker with stage := .returned }) := by
  refine preserves_quiet held rfl rfl ?_ ?_ ?_
  · apply held_setWorker
    exact nofun
  · exact fun _ _ _ _ ml _ _ listens isOpen => ⟨ml, listens, isOpen⟩
  · exact fun _ _ _ _ tg _ _ grouped isOpen => ⟨tg, grouped, isOpen⟩

/-- The channel is open as long as the handler is at it. -/
theorem Kept.not_closed (kept : Kept s) {c ln : Nat} {conn : Conn} {ml : MuxListener}
    (there : s.conns[c]? = some conn) (sending : conn.place = .sending ln)
    (listens : s.listeners[ln]? = some ml) : ml.stage ≠ .closed := by
  obtain ⟨ml', listens', isOpen⟩ := kept.sending c conn ln there sending
  cases listens.symm.trans listens'
  exact isOpen

theorem Kept.channel_open (kept : Kept s) {c w : Nat} {worker : Worker} {tg : Group}
    (works : s.workers[w]? = some worker) (holding : worker.stage = .holding c)
    (grouped : s.groups[worker.g]? = some tg) : tg.acceptChClosed = false := by
  obtain ⟨tg', grouped', isOpen⟩ := kept.holding w worker c works holding
  cases grouped.symm.trans grouped'
  exact isOpen

theorem preserves_moves (routes : Routes s) (held : Held s)
    (moves : Moves unicode v rewriteHost s l t) : Preserves s l t := by
  cases moves with
  | listen listened => exact preserves_listen held listened
  | accept =>
      constructor
      · exact held.enter rfl rfl rfl fun _ _ _ works _ => .inr works
      · exact fun kept _ => kept.enter rfl rfl rfl nofun nofun fun _ _ _ works _ => .inl works
  | handle env req there handling => exact preserves_handle routes held there handling env req
  | receive there sending => exact preserves_receive held there sending
  | grab there sending works grouped =>
      exact preserves_received held there sending works grouped id
  | rewrite there rewriting => exact preserves_rewrite held there rewriting
  | fail there rewriting =>
      exact preserves_gone held there (by rw [rewriting]; rfl) (by rw [rewriting]; rfl)
        fun _ fine => Bool.noConfusion (fine : true = false)
  | failWorker there rewriting works =>
      exact preserves_release held there (by rw [rewriting]; rfl) nofun rfl
        fun _ fine => Bool.noConfusion (fine : true = false)
  | handlePanics there sending listens closed =>
      exact preserves_gone held there (by rw [sending]; rfl) (by rw [sending]; rfl)
        fun kept _ => kept.not_closed there sending listens closed
  | deleteRoute listens => exact preserves_setListener held _ listens fun _ _ _ _ _ _ => nofun
  | closeAccept listens =>
      exact preserves_setListener held _ listens fun idle c conn there sending =>
        absurd sending (idle c conn there)
  | newGroup tcpMux =>
      refine preserves_quiet held rfl rfl ?_ ?_ ?_
      · exact fun _ _ _ works _ => works
      · exact fun _ _ _ _ ml _ _ listens isOpen => ⟨ml, listens, isOpen⟩
      · exact fun _ _ _ _ tg _ _ grouped isOpen => ⟨tg, Slots.append_old grouped, isOpen⟩
  | openTCP grouped => exact preserves_openTCP held grouped
  | openMux grouped first listened => exact preserves_openMux held grouped listened
  | lastMember grouped last =>
      exact preserves_setGroup held grouped fun idle w worker c works holding same =>
        absurd same (idle _ grouped last w worker c works holding)
  | joinGroup grouped | closeMember grouped | closeTCP grouped | closeMux grouped =>
      exact preserves_setGroup held grouped fun _ _ _ _ _ _ _ => id
  | acceptTCP works grouped => exact preserves_acceptTCP held works grouped id
  | take there forwarding => exact preserves_take held there forwarding
  | workerPanics there forwarding works holding grouped closed =>
      refine preserves_release held there (by rw [forwarding]; rfl)
        (fun _ => WorkerStage.noConfusion) rfl ?_
      intro kept _
      rw [kept.channel_open works holding grouped] at closed
      cases closed
  | workerStops => exact preserves_workerStops held

/-! ## Conservation -/

/-- The `Accept`s of the proxies have returned a connection once, or not at all. -/
def OneAccept (s : State) : Prop :=
  ∀ (c : Nat) conn, s.conns[c]? = some conn → s.returned c = if conn.place.isGiven then 1 else 0

/-- A connection whose goroutine has returned without giving it to an `Accept` is closed. -/
def NoneDropped (s : State) : Prop :=
  ∀ (c : Nat) conn, s.conns[c]? = some conn → conn.place = .gone → conn.isOpen = false

theorem not_noneDropped {c : Nat} {conn : Conn} (there : s.conns[c]? = some conn)
    (isOpen : conn.isOpen = true) (gone : conn.place = .gone) : ¬ NoneDropped s := by
  intro none
  rw [none c conn there gone] at isOpen
  cases isOpen

/-! ## A connection that is dropped -/

/-- A worker that has a connection for a closed channel drops it. -/
theorem worker_drops {c w : Nat} {conn : Conn} {worker : Worker} {tg : Group}
    (there : s.conns[c]? = some conn) (isOpen : conn.isOpen = true)
    (by_w : conn.place.heldBy = some w) (works : s.workers[w]? = some worker)
    (holding : worker.stage = .holding c) (grouped : s.groups[worker.g]? = some tg)
    (closed : tg.acceptChClosed = true) :
    CanReach (step unicode v rewriteHost) (fun u => ¬ NoneDropped u) s := by
  cases at_place : conn.place with
  | forwarding w' =>
      rw [at_place] at by_w
      cases by_w
      have panics : step unicode v rewriteHost s (.workerPanics w) =
          some ((s.setConn c { conn with place := .gone }).setWorker w
            { worker with stage := .returned }) := by
        simp only [step, works, Option.bind_some, holding, there, grouped, at_place, closed,
          and_self, if_true]
      exact .of_step panics (.here (not_noneDropped (Slots.set_self there) isOpen rfl))
  | rewriting ln taker =>
      cases taker with
      | proxy =>
          rw [at_place] at by_w
          cases by_w
      | worker w' =>
          rw [at_place] at by_w
          cases by_w
          have fails : step unicode v rewriteHost s (.rewrite c true) =
              some ((s.setConn c { conn with place := .gone }).setWorker w
                { worker with stage := .returned }) := by
            simp only [step, there, Option.bind_some, at_place, if_true, works, Option.map_some]
          exact .of_step fails (.here (not_noneDropped (Slots.set_self there) isOpen rfl))
  | handling =>
      rw [at_place] at by_w
      cases by_w
  | sending ln =>
      rw [at_place] at by_w
      cases by_w
  | given r =>
      rw [at_place] at by_w
      cases by_w
  | gone =>
      rw [at_place] at by_w
      cases by_w

theorem handler_drops {c n : Nat} {conn : Conn} {ml : MuxListener}
    (there : s.conns[c]? = some conn) (isOpen : conn.isOpen = true)
    (sending : conn.place = .sending n) (listens : s.listeners[n]? = some ml)
    (closed : ml.stage = .closed) :
    CanReach (step unicode v rewriteHost) (fun u => ¬ NoneDropped u) s := by
  have panics : step unicode v rewriteHost s (.handlePanics c) =
      some (s.setConn c { conn with place := .gone }) := by
    simp only [step, there, Option.bind_some, sending, listens, closed, if_true]
  exact .of_step panics (.here (not_noneDropped (Slots.set_self there) isOpen rfl))

/-- A step that breaks the condition leads to a connection that is dropped. -/
theorem dropped_of_unguarded (held : Held s) (kept : Kept s) (unguarded : ¬ Guard s l)
    (moves : Moves unicode v rewriteHost s l t) :
    CanReach (step unicode v rewriteHost) (fun u => ¬ NoneDropped u) t := by
  cases moves with
  | closeAccept listens =>
      simp only [Guard, ne_eq, not_forall, Decidable.not_not] at unguarded
      obtain ⟨c, conn, there, sending⟩ := unguarded
      have isOpen := held.live c conn there (by rw [sending]; exact nofun)
      exact handler_drops there isOpen sending (Slots.set_self listens) rfl
  | lastMember grouped =>
      simp only [Guard, ne_eq, not_forall, Decidable.not_not] at unguarded
      obtain ⟨tg', -, -, w, worker, c, works, holding, rfl⟩ := unguarded
      obtain ⟨conn, there, by_w⟩ := held.holds w worker c works holding
      have live := held.live c conn there (by
        intro gone
        rw [gone] at by_w
        cases by_w)
      exact worker_drops there live by_w works holding (Slots.set_self grouped) rfl
  | closeMember grouped other =>
      simp only [Guard, ne_eq, not_forall, Decidable.not_not] at unguarded
      obtain ⟨tg', grouped', last, w, worker, c, works, holding, rfl⟩ := unguarded
      cases grouped.symm.trans grouped'
      exact absurd ⟨last, kept.channel_open works holding grouped⟩ other
  | acceptTCP works grouped =>
      simp only [Guard, ChannelOpen, not_forall, Bool.not_eq_false] at unguarded
      obtain ⟨worker', works', tg', grouped', closed⟩ := unguarded
      cases works.symm.trans works'
      cases grouped.symm.trans grouped'
      exact worker_drops List.getElem?_concat_length rfl rfl (Slots.set_self works) rfl grouped
        closed
  | @grab c ln w conn worker tg there sending works grouped =>
      simp only [Guard, ChannelOpen, not_forall, Bool.not_eq_false] at unguarded
      obtain ⟨worker', works', tg', grouped', closed⟩ := unguarded
      cases works.symm.trans works'
      cases grouped.symm.trans grouped'
      have isOpen := held.live c conn there (by rw [sending]; exact nofun)
      unfold received
      split
      · have at_c : (s.conns.set c { conn with place := .rewriting ln (.worker w) })[c]? =
            some { conn with place := .rewriting ln (.worker w) } := Slots.set_self there
        exact worker_drops at_c isOpen rfl (Slots.set_self works) rfl grouped closed
      · have at_c : (s.conns.set c { conn with place := .forwarding w })[c]? =
            some { conn with place := .forwarding w } := Slots.set_self there
        exact worker_drops at_c isOpen rfl (Slots.set_self works) rfl grouped closed
  | rewrite => exact absurd rfl unguarded
  | fail there rewriting =>
      have isOpen := held.live _ _ there (by rw [rewriting]; exact nofun)
      exact .here (not_noneDropped (Slots.set_self there) isOpen rfl)
  | failWorker there rewriting works =>
      have isOpen := held.live _ _ there (by rw [rewriting]; exact nofun)
      exact .here (not_noneDropped (Slots.set_self there) isOpen rfl)
  | _ => exact absurd trivial unguarded

end Machine

/-- **No connection is returned by two `Accept`s, in every run; and none is dropped while
it is open in the runs that close a channel only while nobody holds a connection for it,
accept for no closed channel and do not fail to rewrite the host**, while any other step
of such a run leads to one that is. -/
theorem conserved_and_tight {ρ : Type u} (unicode : GoString → GoString) (v : Muxer ρ)
    (rewriteHost : Bool) :
    (∀ ls, Along (step unicode v rewriteHost) (fun _ _ t => OneAccept t) start ls) ∧
    (∀ ls, Along (step unicode v rewriteHost) (fun s l _ => Guard s l) start ls →
      Along (step unicode v rewriteHost) (fun _ _ t => NoneDropped t) start ls) ∧
    ∀ ls s l t, Along (step unicode v rewriteHost) (fun s l _ => Guard s l) start ls →
      exec (step unicode v rewriteHost) start ls = some s → ¬ Guard s l →
        step unicode v rewriteHost s l = some t →
          ∃ more, ¬ Along (step unicode v rewriteHost) (fun _ _ t => NoneDropped t) start
            (ls ++ l :: more) := by
  let inv (s : State) : Prop := Routes s ∧ Held s
  have begin : inv start := ⟨routes_start, held_start⟩
  have kept : ∀ s l t, inv s → step unicode v rewriteHost s l = some t → inv t := by
    rintro s l t ⟨routes, held⟩ next
    exact ⟨routes.moves (step_moves next), (preserves_moves routes held (step_moves next)).1⟩
  have guarded : ∀ s l t, inv s ∧ Kept s → Guard s l → step unicode v rewriteHost s l = some t →
      inv t ∧ Kept t := by
    rintro s l t ⟨both, live⟩ guard next
    exact ⟨kept s l t both next, (preserves_moves both.1 both.2 (step_moves next)).2 live guard⟩
  have tight := strengthen_and_tight (fun s => inv s ∧ Kept s) guarded
    (fun s l t both guard next => (guarded s l t both guard next).2.gone)
    (fun s l t both unguarded next =>
      not_along_of_canReach next (dropped_of_unguarded both.1.2 both.2 unguarded (step_moves next)))
    ⟨begin, kept_start⟩
  refine ⟨?_, fun ls => (tight ls).1, fun ls => (tight ls).2⟩
  intro ls
  have free : Along (step unicode v rewriteHost) (fun _ _ _ => True) start ls :=
    along_of_forall (fun _ _ _ => trivial) start ls
  exact free.strengthen inv (fun s l t both _ next => kept s l t both next)
    (fun s l t both _ next => (kept s l t both next).2.once) begin

/-- An https muxer at which every client asks for the host `a`. -/
def hostA : Muxer Unit where
  vhostFunc _ := some ((∅ : ReqInfo).set (GoString.lit "Host") (GoString.lit "a"))
  checkAuth := none
  successHook := none
  registryRouter := newRouters

/-- The listener is closed when `handle` has found it. -/
def closedUnderHandler : List (Label Unit) :=
  [.listen ⟨GoString.lit "a", [], [], [], []⟩, .accept, .handle 0 ⟨true, true, true, true⟩ (),
    .deleteRoute 0, .closeAccept 0, .handlePanics 0]

/-- The only member of a tcp group is closed when the worker has accepted a connection. -/
def closedUnderWorker : List (Label Unit) :=
  [.newGroup false, .firstListen 0 none, .acceptTCP 0, .closeMember 0 0, .workerPanics 0]

theorem dropped_of_last {ls : List (Label Unit)}
    (last : (exec (step id hostA false) start ls).map State.conns = some [⟨true, .gone⟩])
    (some_step : ls ≠ []) :
    ¬ Along (step id hostA false) (fun _ _ t => NoneDropped t) start ls := by
  obtain ⟨t, run, conns⟩ := Option.map_eq_some_iff.1 last
  intro along
  cases ls with
  | nil => exact some_step rfl
  | cons l ls =>
      have none : NoneDropped t := along.last run
      have there : t.conns[0]? = some ⟨true, .gone⟩ := by
        rw [conns]
        rfl
      exact not_noneDropped there rfl rfl none

/-- **Both a handler and a worker drop the connection they have, open, if the other side
closes the channel.** -/
theorem closed_under_sender :
    ¬ Along (step id hostA false) (fun _ _ t => NoneDropped t) start closedUnderHandler ∧
      ¬ Along (step id hostA false) (fun _ _ t => NoneDropped t) start closedUnderWorker :=
  ⟨dropped_of_last (by decide +kernel) (List.cons_ne_nil _ _),
    dropped_of_last (by decide +kernel) (List.cons_ne_nil _ _)⟩

end ChmlFrp.Vhost.Handoff
