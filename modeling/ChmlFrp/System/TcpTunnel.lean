/-
# ChmlFrp.System.TcpTunnel — from the users' connections to the local service and back

`handleUserTCPConnection` of `server/proxy/proxy.go` and `HandleReqWorkConn` with
`HandleTCPWorkConnection` of the client, for all user connections and work connections of
one control.  The server hands each user connection a work connection from the pool, writes
`StartWorkConn` to it and joins the two; the client reads the message, looks the proxy up,
dials the local service and joins.  The proxies of both sides may change at any time, and
every connection may break.

The cipher, the compressor and the proxy protocol header are parameters.

* `carries_users`: a connection to a local service belongs to one user connection of the proxy
  of that name, and carries his bytes, each in its place; so does what the user gets.
-/
import ChmlFrp.Lib.GoMap
import ChmlFrp.Lib.Pipe
import ChmlFrp.Lib.Slots
import ChmlFrp.Lib.Transition
import ChmlFrp.Server.GetWorkConn
import Mathlib.Data.List.Nodup

namespace ChmlFrp.System.TcpTunnel

set_option autoImplicit false

open ChmlFrp.Lib
open ChmlFrp.Lib.Transition
open Server.GetWorkConn (StartWorkConn startWorkConn)

/-! ## Configurations -/

/-- The settings of a proxy that both sides read. -/
structure Layers where
  useEncryption : Bool
  useCompression : Bool
  deriving DecidableEq, Repr

/-- The settings of a proxy of the client. -/
structure LocalConf where
  localIP : GoString
  localPort : Int
  proxyProtocolVersion : GoString
  layers : Layers
  deriving DecidableEq, Repr

inductive TransportProtocol where
  | tcpv4
  | tcpv6
  deriving DecidableEq, Repr

/-- `pp.Header`, with the addresses before they are resolved. -/
structure Header where
  version : Nat
  sourceAddr : GoString × UInt16
  destinationAddr : GoString × UInt16
  transportProtocol : TransportProtocol
  deriving DecidableEq, Repr

/-- The libraries behind the connections. -/
structure Golib where
  /-- `crypto.NewWriter`, for the key and the initialization vector. -/
  encrypt : GoString → GoString → Encoder UInt8
  decrypt : GoString → Decoder UInt8
  compress : Encoder UInt8
  decompress : Decoder UInt8
  /-- The text of a header. -/
  format : Header → GoString

structure Golib.Lawful (lib : Golib) : Prop where
  decrypts : ∀ key iv, (lib.decrypt key).Undoes (lib.encrypt key iv)
  decompresses : lib.decompress.Undoes lib.compress

/-- The keys of both sides. -/
structure Tokens where
  server : GoString
  client : GoString
  deriving DecidableEq, Repr

section Layers

variable (lib : Golib)

/-- What is laid over a work connection for the writes of one side. -/
def encoder (layers : Layers) (key iv : GoString) : Encoder UInt8 :=
  (if layers.useEncryption then lib.encrypt key iv else .id).comp
    (if layers.useCompression then lib.compress else .id)

/-- And for its reads. -/
def decoder (layers : Layers) (key : GoString) : Decoder UInt8 :=
  (if layers.useEncryption then lib.decrypt key else .id).comp
    (if layers.useCompression then lib.decompress else .id)

/-- `extraInfo` -/
def extraInfo (conf : LocalConf) (m : StartWorkConn) : GoString :=
  if conf.proxyProtocolVersion ≠ [] ∧ m.srcAddr ≠ [] ∧ m.srcPort ≠ 0 then
    lib.format
      { version :=
          if conf.proxyProtocolVersion = GoString.lit "v1" then 1
          else if conf.proxyProtocolVersion = GoString.lit "v2" then 2
          else 0
        sourceAddr := (m.srcAddr, m.srcPort)
        destinationAddr :=
          (if m.dstAddr = [] then GoString.lit "127.0.0.1" else m.dstAddr, m.dstPort)
        transportProtocol := if GoString.dot ∈ m.srcAddr then .tcpv4 else .tcpv6 }
  else []

end Layers

/-! ## The connections -/

/-- Where `handleUserTCPConnection` is. -/
inductive UserPhase where
  /-- Before the plugins have let the connection through. -/
  | accepted
  /-- In `GetWorkConnFromPool`, after so many rounds. -/
  | getting (i : Nat)
  /-- At `msg.WriteMsg` in the round. -/
  | starting (i : Nat) (c : Nat)
  /-- In `Join`. -/
  | joined (c : Nat)
  | returned
  deriving DecidableEq, Repr

structure User where
  proxyName : GoString
  /-- `RemoteAddr` and `LocalAddr` of the connection. -/
  src : Option GoString
  dst : Option GoString
  layers : Layers
  phase : UserPhase
  /-- The work connection that it was joined with. -/
  workConn : Option Nat
  fromUser : GoString
  toUser : GoString

def User.startMsg (user : User) : StartWorkConn := startWorkConn user.proxyName user.src user.dst

/-- Where the goroutine of a work connection is on the client. -/
inductive ClientPhase where
  /-- At `ReadMsgInto`. -/
  | waiting
  /-- In `HandleTCPWorkConnection`, before the local service is connected. -/
  | dialing
  /-- In `Join`. -/
  | joined
  | returned
  deriving DecidableEq, Repr

structure WorkConn where
  /-- The user connection that it was taken for. -/
  owner : Option Nat
  /-- The server has not closed it. -/
  isOpen : Bool
  /-- The message on the way. -/
  startMsg : Option StartWorkConn
  /-- What the server has laid over it. -/
  sealed : Option Layers
  phase : ClientPhase
  /-- The message, and the proxy that was found for it. -/
  job : Option (StartWorkConn × LocalConf)
  /-- The local service is connected. -/
  dialed : Bool
  down : Pipe UInt8
  up : Pipe UInt8
  toLocal : GoString
  fromLocal : GoString

def freshConn : WorkConn where
  owner := none
  isOpen := true
  startMsg := none
  sealed := none
  phase := .waiting
  job := none
  dialed := false
  down := .make .id .id
  up := .make .id .id
  toLocal := []
  fromLocal := []

structure State where
  /-- The proxies of the server that belong to the client. -/
  registered : GoMap GoString Layers
  /-- The proxies of the client that run. -/
  proxies : GoMap GoString LocalConf
  workConnCh : Chan Nat
  users : List User
  conns : List WorkConn

def start (poolCap : Nat) : State where
  registered := ∅
  proxies := ∅
  workConnCh := .make poolCap
  users := []
  conns := []

/-- How connecting to the local service ends. -/
inductive Dial where
  | refused
  /-- The write of `extraInfo` fails, after so many bytes. -/
  | infoFails (n : Nat)
  | ok
  deriving DecidableEq, Repr

inductive Label where
  | register (name : GoString) (layers : Layers)
  | closeProxy (name : GoString)
  | startProxy (name : GoString) (conf : LocalConf)
  | stopProxy (name : GoString)
  /-- A listener of the proxy accepts a connection. -/
  | accept (name : GoString) (src dst : Option GoString)
  /-- `NewUserConn` of the plugins. -/
  | newUserConn (u : Nat) (rejected : Bool)
  /-- `RegisterWorkConn` of a new connection. -/
  | registerWorkConn
  /-- `getWorkConnFn` returns. -/
  | getWorkConn (u : Nat) (err : Bool)
  /-- `msg.WriteMsg` returns; a message may arrive for all the error.  The cipher of the
  server starts with `iv`. -/
  | writeStart (u : Nat) (err arrives : Bool) (iv : GoString)
  /-- `Join` of the server passes on what it has read from the user. -/
  | copyDown (u : Nat) (chunk : GoString) (err : Bool)
  /-- `Join` of the server reads from the work connection. -/
  | copyUp (u : Nat) (n k : Nat) (err : Bool)
  /-- The handler of the user connection returns. -/
  | leave (u : Nat)
  /-- `ReadMsgInto` of the client. -/
  | readStart (c : Nat) (err : Bool)
  | dial (c : Nat) (result : Dial) (iv : GoString)
  /-- `Join` of the client reads from the work connection. -/
  | deliver (c : Nat) (n k : Nat) (err : Bool)
  /-- `Join` of the client passes on what it has read from the local service. -/
  | answer (c : Nat) (chunk : GoString) (err : Bool)
  /-- The goroutine of the work connection returns. -/
  | drop (c : Nat)
  deriving DecidableEq, Repr

namespace State

def setUser (s : State) (u : Nat) (user : User) : State :=
  { s with users := s.users.set u user }

def setConn (s : State) (c : Nat) (conn : WorkConn) : State :=
  { s with conns := s.conns.set c conn }

end State

section Machine

variable (lib : Golib) (tokens : Tokens) (poolCount : Nat)

/-- The server lays its layers over a work connection. -/
def WorkConn.join (conn : WorkConn) (layers : Layers) (iv : GoString) : WorkConn :=
  { conn with
    sealed := some layers
    down := { conn.down with encoder := encoder lib layers tokens.server iv }
    up := { conn.up with decoder := decoder lib layers tokens.server } }

/-- The client does, and `n` bytes of `extraInfo` have been written to the local service. -/
def WorkConn.dial (conn : WorkConn) (conf : LocalConf) (m : StartWorkConn) (iv : GoString)
    (n : Nat) : WorkConn :=
  { conn with
    dialed := true
    up := { conn.up with encoder := encoder lib conf.layers tokens.client iv }
    down := { conn.down with decoder := decoder lib conf.layers tokens.client }
    toLocal := (extraInfo lib conf m).take n }

def step (s : State) : Label → Option State
  | .register name layers =>
      match s.registered.get name with
      | none => some { s with registered := s.registered.set name layers }
      | some _ => none
  | .closeProxy name => some { s with registered := s.registered.delete name }
  | .startProxy name conf => some { s with proxies := s.proxies.set name conf }
  | .stopProxy name => some { s with proxies := s.proxies.delete name }
  | .accept name src dst =>
      (s.registered.get name).map fun layers =>
        { s with users := s.users ++ [⟨name, src, dst, layers, .accepted, none, [], []⟩] }
  | .newUserConn u rejected =>
      s.users[u]?.bind fun user =>
        if user.phase = .accepted then
          some (s.setUser u { user with phase := if rejected then .returned else .getting 0 })
        else none
  | .registerWorkConn =>
      match s.workConnCh.send s.conns.length with
      | .done ch => some { s with workConnCh := ch, conns := s.conns ++ [freshConn] }
      -- "work connection pool is full, discarding"
      | _ => some { s with conns := s.conns ++ [{ freshConn with isOpen := false }] }
  | .getWorkConn u err =>
      s.users[u]?.bind fun user =>
        match user.phase with
        | .getting i =>
            if err then some (s.setUser u { user with phase := .returned })
            else
              match s.workConnCh.recv with
              | .done (some c, ch) =>
                  s.conns[c]?.map fun conn =>
                    { (s.setUser u { user with phase := .starting i c }).setConn c
                        { conn with owner := some u } with workConnCh := ch }
              | _ => none
        | _ => none
  | .writeStart u err arrives iv =>
      s.users[u]?.bind fun user =>
        match user.phase with
        | .starting i c =>
            s.conns[c]?.map fun conn =>
              let told := { conn with startMsg := some user.startMsg }
              if err then
                (s.setUser u
                  (if i < poolCount then { user with phase := .getting (i + 1) }
                  -- The error of the write is a variable of the loop, and is lost.
                  else { user with phase := .joined c, workConn := some c })).setConn c
                  { (if arrives then told else conn) with isOpen := false }
              else
                (s.setUser u { user with phase := .joined c, workConn := some c }).setConn c
                  (told.join lib tokens user.layers iv)
        | _ => none
  | .copyDown u chunk err =>
      s.users[u]?.bind fun user =>
        match user.phase with
        | .joined c =>
            s.conns[c]?.bind fun conn =>
              let user := { user with fromUser := user.fromUser ++ chunk }
              if err then
                some ((s.setUser u { user with phase := .returned }).setConn c
                  { conn with isOpen := false })
              else if conn.isOpen then
                some ((s.setUser u user).setConn c { conn with down := conn.down.put chunk })
              else none
        | _ => none
  | .copyUp u n k err =>
      s.users[u]?.bind fun user =>
        match user.phase with
        | .joined c =>
            s.conns[c]?.bind fun conn =>
              if conn.isOpen then
                let conn' := { conn with up := conn.up.pull n k }
                if err then
                  some ((s.setUser u { user with phase := .returned }).setConn c
                    { conn' with isOpen := false })
                else
                  some ((s.setUser u
                    { user with toUser := user.toUser ++ conn.up.chunk n k }).setConn c conn')
              else none
        | _ => none
  | .leave u =>
      s.users[u]?.bind fun user =>
        match user.phase with
        | .joined c =>
            s.conns[c]?.map fun conn =>
              (s.setUser u { user with phase := .returned }).setConn c { conn with isOpen := false }
        | _ => none
  | .readStart c err =>
      s.conns[c]?.bind fun conn =>
        if conn.phase = .waiting then
          if err then some (s.setConn c { conn with phase := .returned })
          else
            conn.startMsg.map fun m =>
              match s.proxies.get m.proxyName with
              | some conf =>
                  s.setConn c
                    { conn with startMsg := none, phase := .dialing, job := some (m, conf) }
              | none => s.setConn c { conn with startMsg := none, phase := .returned }
        else none
  | .dial c result iv =>
      s.conns[c]?.bind fun conn =>
        match conn.phase, conn.job with
        | .dialing, some (m, conf) =>
            match result with
            | .refused => some (s.setConn c { conn with phase := .returned })
            | .infoFails n =>
                some (s.setConn c { conn.dial lib tokens conf m iv n with phase := .returned })
            | .ok =>
                some (s.setConn c
                  { conn.dial lib tokens conf m iv (extraInfo lib conf m).length with
                    phase := .joined })
        | _, _ => none
  | .deliver c n k err =>
      s.conns[c]?.bind fun conn =>
        if conn.phase = .joined then
          let conn' := { conn with down := conn.down.pull n k }
          some (s.setConn c
            (if err then { conn' with phase := .returned }
            else { conn' with toLocal := conn.toLocal ++ conn.down.chunk n k }))
        else none
  | .answer c chunk err =>
      s.conns[c]?.bind fun conn =>
        if conn.phase = .joined then
          let conn' := { conn with fromLocal := conn.fromLocal ++ chunk }
          some (s.setConn c
            (if err then { conn' with phase := .returned }
            else { conn' with up := conn.up.put chunk }))
        else none
  | .drop c =>
      s.conns[c]?.bind fun conn =>
        if conn.phase = .joined ∨ conn.phase = .dialing then
          some (s.setConn c { conn with phase := .returned })
        else none

/-! ## The invariant -/

/-- Both ends of a work connection are laid over each other. -/
structure Agree (layers : Layers) (conf : LocalConf) : Prop where
  same : layers = conf.layers
  key : layers.useEncryption = true → tokens.server = tokens.client

/-- A work connection on its own. -/
structure ConnOk (past : List Label) (conn : WorkConn) : Prop where
  down : conn.down.Ok
  up : conn.up.Ok
  unsealed : conn.sealed = none → conn.down.encoder = .id ∧ conn.down.writes = [] ∧
    conn.up.taken = 0 ∧ conn.up.read = 0
  sealed_ : ∀ layers, conn.sealed = some layers →
    (∃ iv, conn.down.encoder = encoder lib layers tokens.server iv) ∧
      conn.up.decoder = decoder lib layers tokens.server
  undialed : conn.dialed = false → conn.up.encoder = .id ∧ conn.up.writes = [] ∧
    conn.down.taken = 0 ∧ conn.down.read = 0 ∧ conn.toLocal = [] ∧ conn.fromLocal = []
  dialed : conn.dialed = true → ∃ m conf, conn.job = some (m, conf) ∧
    (∃ iv, conn.up.encoder = encoder lib conf.layers tokens.client iv) ∧
    conn.down.decoder = decoder lib conf.layers tokens.client ∧
    conn.toLocal <+: extraInfo lib conf m ++ conn.down.delivered ∧
    conn.up.writes.flatten <+: conn.fromLocal ∧
    (conn.phase = .joined → conn.toLocal = extraInfo lib conf m ++ conn.down.delivered ∧
      conn.up.writes.flatten = conn.fromLocal)
  waiting : conn.phase = .waiting → conn.job = none
  joined : conn.phase = .joined → conn.dialed = true
  early : conn.phase = .waiting ∨ conn.phase = .dialing → conn.dialed = false
  found : ∀ m conf, conn.job = some (m, conf) → .startProxy m.proxyName conf ∈ past

/-- The client has not been told of a user. -/
structure Untold (conn : WorkConn) : Prop where
  startMsg : conn.startMsg = none
  job : conn.job = none
  sealed_ : conn.sealed = none

/-- A work connection and the user connection that it was taken for. -/
structure Link (c : Nat) (conn : WorkConn) (user : User) : Prop where
  startMsg : ∀ m, conn.startMsg = some m → m = user.startMsg
  job : ∀ m conf, conn.job = some (m, conf) → m = user.startMsg
  layers : ∀ layers, conn.sealed = some layers → layers = user.layers
  /-- A connection that was given up carries nothing. -/
  other : user.workConn ≠ some c → conn.sealed = none
  down : user.workConn = some c → conn.down.writes.flatten <+: user.fromUser
  up : user.workConn = some c → user.toUser <+: conn.up.delivered
  joined : user.phase = .joined c →
    conn.down.writes.flatten = user.fromUser ∧ user.toUser = conn.up.delivered
  isOpen : user.phase = .joined c → conn.isOpen = true → conn.sealed ≠ none

structure UserOk (past : List Label) (conns : List WorkConn) (u : Nat) (user : User) : Prop where
  registered : .register user.proxyName user.layers ∈ past
  starting : ∀ i c, user.phase = .starting i c → user.workConn = none ∧
    ∃ conn, conns[c]? = some conn ∧ conn.owner = some u ∧ Untold conn
  joined : ∀ c, user.phase = .joined c → user.workConn = some c
  early : user.phase = .accepted ∨ (∃ i, user.phase = .getting i) → user.workConn = none
  unjoined : user.workConn = none → user.fromUser = [] ∧ user.toUser = []
  workConn : ∀ c, user.workConn = some c → ∃ conn, conns[c]? = some conn ∧ conn.owner = some u

structure Inv (past : List Label) (s : State) : Prop where
  nodup : s.workConnCh.buf.Nodup
  pool : ∀ c ∈ s.workConnCh.buf, ∃ conn, s.conns[c]? = some conn ∧ conn.owner = none
  registered : ∀ name layers, s.registered.get name = some layers → .register name layers ∈ past
  proxies : ∀ name conf, s.proxies.get name = some conf → .startProxy name conf ∈ past
  ok : ∀ (c : Nat) conn, s.conns[c]? = some conn → ConnOk lib tokens past conn
  untold : ∀ (c : Nat) conn, s.conns[c]? = some conn → conn.owner = none → Untold conn
  link : ∀ (c : Nat) conn u, s.conns[c]? = some conn → conn.owner = some u →
    ∃ user, s.users[u]? = some user ∧ Link c conn user
  user : ∀ (u : Nat) user, s.users[u]? = some user → UserOk past s.conns u user

theorem start_inv (poolCap : Nat) : Inv lib tokens [] (start poolCap) where
  nodup := List.nodup_nil
  pool c inside := by cases inside
  registered name layers found := by cases found
  proxies name conf found := by cases found
  ok c conn there := by cases there
  untold c conn there := by cases there
  link c conn u there := by cases there
  user u user there := by cases there

section Steps

variable {lib tokens poolCount} {past : List Label} {s t : State} {c u : Nat} {conn conn' : WorkConn}
  {user user' : User}

theorem ConnOk.mono (ok : ConnOk lib tokens past conn) {more : List Label} (longer : past ⊆ more) :
    ConnOk lib tokens more conn :=
  { ok with found := fun m conf job => longer (ok.found m conf job) }

theorem Inv.mono (inv : Inv lib tokens past s) {more : List Label} (longer : past ⊆ more) :
    Inv lib tokens more s :=
  { inv with
    registered := fun name layers found => longer (inv.registered name layers found)
    proxies := fun name conf found => longer (inv.proxies name conf found)
    ok := fun c conn there => (inv.ok c conn there).mono longer
    user := fun u user there =>
      { inv.user u user there with registered := longer (inv.user u user there).registered } }

/-! ### One connection goes on -/

/-- What a user connection needs of the work connections. -/
theorem UserOk.setConn (ok : UserOk past s.conns u user) (there : s.conns[c]? = some conn)
    (owner : conn'.owner = conn.owner) (untold : conn.owner = some u → Untold conn → Untold conn') :
    UserOk past (s.conns.set c conn') u user :=
  { ok with
    starting := by
      intro i d starting
      obtain ⟨none_, old, at_d, owned, fresh⟩ := ok.starting i d starting
      refine ⟨none_, ?_⟩
      by_cases same : d = c
      · subst same
        cases there.symm.trans at_d
        exact ⟨conn', Slots.set_self there, owner.trans owned, untold owned fresh⟩
      · exact ⟨old, by rwa [List.getElem?_set_ne (Ne.symm same)], owned, fresh⟩
    workConn := by
      intro d joined
      obtain ⟨old, at_d, owned⟩ := ok.workConn d joined
      by_cases same : d = c
      · subst same
        cases there.symm.trans at_d
        exact ⟨conn', Slots.set_self there, owner.trans owned⟩
      · exact ⟨old, by rwa [List.getElem?_set_ne (Ne.symm same)], owned⟩ }

/-- The client's end of a work connection goes on. -/
theorem Inv.setConn (inv : Inv lib tokens past s) (there : s.conns[c]? = some conn)
    (owner : conn'.owner = conn.owner) (ok : ConnOk lib tokens past conn')
    (untold : Untold conn → Untold conn')
    (link : ∀ user, Link c conn user → Link c conn' user) :
    Inv lib tokens past (s.setConn c conn') where
  nodup := inv.nodup
  pool := by
    intro d inside
    obtain ⟨old, at_d, free⟩ := inv.pool d inside
    by_cases same : d = c
    · subst same
      cases there.symm.trans at_d
      exact ⟨conn', Slots.set_self there, owner.trans free⟩
    · exact ⟨old, by rwa [State.setConn, List.getElem?_set_ne (Ne.symm same)], free⟩
  registered := inv.registered
  proxies := inv.proxies
  ok := by
    intro d other at_d
    rcases Slots.set_cases at_d with ⟨-, rfl⟩ | ⟨-, at_d⟩
    · exact ok
    · exact inv.ok d other at_d
  untold := by
    intro d other at_d free
    rcases Slots.set_cases at_d with ⟨-, rfl⟩ | ⟨-, at_d⟩
    · exact untold (inv.untold c conn there (owner.symm.trans free))
    · exact inv.untold d other at_d free
  link := by
    intro d other u at_d owned
    rcases Slots.set_cases at_d with ⟨rfl, rfl⟩ | ⟨-, at_d⟩
    · obtain ⟨user, at_u, linked⟩ := inv.link d conn u there (owner.symm.trans owned)
      exact ⟨user, at_u, link user linked⟩
    · exact inv.link d other u at_d owned
  user := fun u user at_u => (inv.user u user at_u).setConn there owner fun _ => untold

/-- A user connection goes on. -/
theorem Inv.setUser (inv : Inv lib tokens past s) (there : s.users[u]? = some user)
    (ok : UserOk past s.conns u user')
    (link : ∀ c conn, Link c conn user → Link c conn user') :
    Inv lib tokens past (s.setUser u user') where
  nodup := inv.nodup
  pool := inv.pool
  registered := inv.registered
  proxies := inv.proxies
  ok := inv.ok
  untold := inv.untold
  link := by
    intro c conn v at_c owned
    obtain ⟨old, at_v, linked⟩ := inv.link c conn v at_c owned
    by_cases same : v = u
    · subst same
      cases there.symm.trans at_v
      exact ⟨user', Slots.set_self there, link c conn linked⟩
    · exact ⟨old, by rwa [State.setUser, List.getElem?_set_ne (Ne.symm same)], linked⟩
  user := by
    intro v other at_v
    rcases Slots.set_cases at_v with ⟨rfl, rfl⟩ | ⟨-, at_v⟩
    · exact ok
    · exact inv.user v other at_v

/-- A user connection and the work connection that was taken for it go on. -/
theorem Inv.setBoth (inv : Inv lib tokens past s) (at_u : s.users[u]? = some user)
    (at_c : s.conns[c]? = some conn) (owner : conn.owner = some u) (owner' : conn'.owner = some u)
    (ok : ConnOk lib tokens past conn') (userOk : UserOk past (s.conns.set c conn') u user')
    (link : Link c conn user → Link c conn' user')
    (others : ∀ d other, d ≠ c → Link d other user → Link d other user') :
    Inv lib tokens past ((s.setUser u user').setConn c conn') where
  nodup := inv.nodup
  pool := by
    intro d inside
    obtain ⟨old, at_d, free⟩ := inv.pool d inside
    have differs : d ≠ c := by
      rintro rfl
      cases at_c.symm.trans at_d
      cases owner.symm.trans free
    exact ⟨old, by
      rwa [State.setConn, State.setUser, List.getElem?_set_ne (Ne.symm differs)], free⟩
  registered := inv.registered
  proxies := inv.proxies
  ok := by
    intro d other at_d
    rcases Slots.set_cases at_d with ⟨-, rfl⟩ | ⟨-, at_d⟩
    · exact ok
    · exact inv.ok d other at_d
  untold := by
    intro d other at_d free
    rcases Slots.set_cases at_d with ⟨-, rfl⟩ | ⟨-, at_d⟩
    · cases owner'.symm.trans free
    · exact inv.untold d other at_d free
  link := by
    intro d other v at_d owned
    show ∃ old, (s.users.set u user')[v]? = some old ∧ _
    rcases Slots.set_cases at_d with ⟨rfl, rfl⟩ | ⟨differs, at_d⟩
    · cases owner'.symm.trans owned
      obtain ⟨old, at_v, linked⟩ := inv.link d conn u at_c owner
      cases at_u.symm.trans at_v
      exact ⟨user', Slots.set_self at_u, link linked⟩
    · obtain ⟨old, at_v, linked⟩ := inv.link d other v at_d owned
      by_cases same : v = u
      · subst same
        cases at_u.symm.trans at_v
        exact ⟨user', Slots.set_self at_u, others d other differs linked⟩
      · exact ⟨old, by rwa [List.getElem?_set_ne (Ne.symm same)], linked⟩
  user := by
    intro v other at_v
    rcases Slots.set_cases at_v with ⟨rfl, rfl⟩ | ⟨differs, at_v⟩
    · exact userOk
    · refine (inv.user v other at_v).setConn at_c (owner'.trans owner.symm) ?_
      intro owned
      cases owner.symm.trans owned
      exact absurd rfl differs

/-! ### The ends of a work connection -/

theorem ConnOk.fresh (isOpen : Bool) :
    ConnOk lib tokens past { freshConn with isOpen := isOpen } where
  down := Pipe.make_ok ..
  up := Pipe.make_ok ..
  unsealed _ := ⟨rfl, rfl, rfl, rfl⟩
  sealed_ layers sealed_ := by cases sealed_
  undialed _ := ⟨rfl, rfl, rfl, rfl, rfl, rfl⟩
  dialed dialed := by cases dialed
  waiting _ := rfl
  joined joined := by cases joined
  early _ := rfl
  found m conf job := by cases job

theorem Untold.fresh (isOpen : Bool) : Untold { freshConn with isOpen := isOpen } := ⟨rfl, rfl, rfl⟩

/-- What the pipes do not depend on. -/
theorem ConnOk.congr (ok : ConnOk lib tokens past conn) (owner : Option Nat) (isOpen : Bool)
    (startMsg : Option StartWorkConn) :
    ConnOk lib tokens past
      { conn with owner := owner, isOpen := isOpen, startMsg := startMsg } :=
  ⟨ok.down, ok.up, ok.unsealed, ok.sealed_, ok.undialed, ok.dialed, ok.waiting, ok.joined,
    ok.early, ok.found⟩

theorem ConnOk.returned (ok : ConnOk lib tokens past conn) (startMsg : Option StartWorkConn) :
    ConnOk lib tokens past { conn with phase := .returned, startMsg := startMsg } where
  down := ok.down
  up := ok.up
  unsealed := ok.unsealed
  sealed_ := ok.sealed_
  undialed := ok.undialed
  dialed dialed := by
    obtain ⟨m, conf, job, encoder, decoder, toLocal, fromLocal, -⟩ := ok.dialed dialed
    exact ⟨m, conf, job, encoder, decoder, toLocal, fromLocal, fun joined => by cases joined⟩
  waiting waiting := by cases waiting
  joined joined := by cases joined
  early early := by rcases early with early | early <;> cases early
  found := ok.found

theorem ConnOk.undialed_of_no_job (ok : ConnOk lib tokens past conn) (none_ : conn.job = none) :
    conn.dialed = false := by
  cases dialed : conn.dialed with
  | false => rfl
  | true =>
      obtain ⟨m, conf, job, -⟩ := ok.dialed dialed
      cases none_.symm.trans job

/-- Nothing comes through before the server has laid its layers over the connection. -/
theorem ConnOk.down_idle (ok : ConnOk lib tokens past conn) (none_ : conn.sealed = none) :
    conn.down.delivered = [] := by
  obtain ⟨encoder, writes, -⟩ := ok.unsealed none_
  have idle : conn.down.wire = [] := by
    unfold Pipe.wire
    rw [encoder, writes]
    rfl
  exact Pipe.delivered_of_unread (ok.down.unread idle).2

/-- Nothing comes back before the client has. -/
theorem ConnOk.up_unread (ok : ConnOk lib tokens past conn) (undialed : conn.dialed = false) :
    conn.up.taken = 0 ∧ conn.up.read = 0 := by
  obtain ⟨encoder, writes, -⟩ := ok.undialed undialed
  have idle : conn.up.wire = [] := by
    unfold Pipe.wire
    rw [encoder, writes]
    rfl
  exact ok.up.unread idle

/-- The server lays its layers over a connection that nothing has come through. -/
theorem ConnOk.join (ok : ConnOk lib tokens past conn) (untold : Untold conn) (layers : Layers)
    (iv : GoString) : ConnOk lib tokens past (conn.join lib tokens layers iv) := by
  have undialed := ok.undialed_of_no_job untold.job
  obtain ⟨encoder, writes, taken, read, toLocal, fromLocal⟩ := ok.undialed undialed
  obtain ⟨-, -, taken', read'⟩ := ok.unsealed untold.sealed_
  exact
    { down := Pipe.ok_of_unread taken read
      up := Pipe.ok_of_unread taken' read'
      unsealed := fun none_ => by cases none_
      sealed_ := by
        rintro other ⟨⟩
        exact ⟨⟨iv, rfl⟩, rfl⟩
      undialed := fun _ => ⟨encoder, writes, taken, read, toLocal, fromLocal⟩
      dialed := fun dialed => by cases undialed.symm.trans dialed
      waiting := ok.waiting
      joined := ok.joined
      early := ok.early
      found := ok.found }

/-- The client lays its own over it, and has written some of the header. -/
theorem ConnOk.dial (ok : ConnOk lib tokens past conn) (dialing : conn.phase = .dialing)
    {m : StartWorkConn} {conf : LocalConf} (job : conn.job = some (m, conf)) (iv : GoString)
    {n : Nat} {phase : ClientPhase}
    (is : phase = .returned ∨ phase = .joined ∧ n = (extraInfo lib conf m).length) :
    ConnOk lib tokens past { conn.dial lib tokens conf m iv n with phase := phase } := by
  have undialed := ok.early (.inr dialing)
  obtain ⟨-, writes, taken, read, toLocal, fromLocal⟩ := ok.undialed undialed
  obtain ⟨taken', read'⟩ := ok.up_unread undialed
  have unread : ∀ n, (conn.dial lib tokens conf m iv n).down.delivered = [] :=
    fun _ => Pipe.delivered_of_unread read
  exact
    { down := Pipe.ok_of_unread taken read
      up := Pipe.ok_of_unread taken' read'
      unsealed := ok.unsealed
      sealed_ := ok.sealed_
      undialed := fun undialed => by cases undialed
      dialed := by
        intro _
        refine ⟨m, conf, job, ⟨iv, rfl⟩, rfl, ?_, ?_, ?_⟩
        · show (extraInfo lib conf m).take n <+:
            extraInfo lib conf m ++ (conn.dial lib tokens conf m iv n).down.delivered
          rw [unread, List.append_nil]
          exact List.take_prefix _ _
        · show conn.up.writes.flatten <+: conn.fromLocal
          rw [writes, fromLocal]
          exact List.prefix_rfl
        · intro joined
          rcases is with rfl | ⟨-, rfl⟩
          · cases joined
          · refine ⟨?_, ?_⟩
            · show (extraInfo lib conf m).take _ =
                extraInfo lib conf m ++ (conn.dial lib tokens conf m iv 0).down.delivered
              rw [unread, List.append_nil, List.take_length]
            · show conn.up.writes.flatten = conn.fromLocal
              rw [writes, fromLocal]
              rfl
      waiting := by
        rintro rfl
        rcases is with is | ⟨is, -⟩ <;> cases is
      joined := fun _ => rfl
      early := by
        intro early
        rcases is with rfl | ⟨rfl, -⟩ <;> rcases early with early | early <;> cases early
      found := ok.found }

/-- The server writes to the pipe. -/
theorem ConnOk.copyDown (ok : ConnOk lib tokens past conn) (sealed_ : conn.sealed ≠ none)
    (chunk : GoString) : ConnOk lib tokens past { conn with down := conn.down.put chunk } where
  down := ok.down.put chunk
  up := ok.up
  unsealed none_ := absurd none_ sealed_
  sealed_ := ok.sealed_
  undialed := ok.undialed
  dialed dialed := by
    obtain ⟨m, conf, job, encoder, decoder, toLocal, fromLocal, joined⟩ := ok.dialed dialed
    refine ⟨m, conf, job, encoder, decoder, ?_, fromLocal, ?_⟩
    all_goals
      dsimp only
      rw [Pipe.delivered_put ok.down]
      assumption
  waiting := ok.waiting
  joined := ok.joined
  early := ok.early
  found := ok.found

/-- The server reads from the pipe. -/
theorem ConnOk.copyUp (ok : ConnOk lib tokens past conn) (sealed_ : conn.sealed ≠ none) (n k : Nat)
    (isOpen : Bool) :
    ConnOk lib tokens past { conn with up := conn.up.pull n k, isOpen := isOpen } where
  down := ok.down
  up := ok.up.pull n k
  unsealed none_ := absurd none_ sealed_
  sealed_ := ok.sealed_
  undialed := ok.undialed
  dialed := ok.dialed
  waiting := ok.waiting
  joined := ok.joined
  early := ok.early
  found := ok.found

/-- The client reads from the pipe, and writes to the local service unless that fails. -/
theorem ConnOk.deliver (ok : ConnOk lib tokens past conn) (joined : conn.phase = .joined)
    (n k : Nat) {toLocal : GoString} {phase : ClientPhase}
    (is : toLocal = conn.toLocal ++ conn.down.chunk n k ∧ phase = .joined ∨
      toLocal = conn.toLocal ∧ phase = .returned) :
    ConnOk lib tokens past
      { conn with down := conn.down.pull n k, toLocal := toLocal, phase := phase } where
  down := ok.down.pull n k
  up := ok.up
  unsealed := ok.unsealed
  sealed_ := ok.sealed_
  undialed undialed := by cases (ok.joined joined).symm.trans undialed
  dialed dialed := by
    obtain ⟨m, conf, job, encoder, decoder, -, fromLocal, same⟩ := ok.dialed dialed
    refine ⟨m, conf, job, encoder, decoder, ?_, fromLocal, ?_⟩
    · dsimp only
      rw [Pipe.delivered_pull ok.down]
      rcases is with ⟨rfl, -⟩ | ⟨rfl, -⟩
      · rw [(same joined).1, List.append_assoc]
      · rw [(same joined).1, ← List.append_assoc]
        exact List.prefix_append _ _
    · rintro rfl
      rcases is with ⟨rfl, -⟩ | ⟨-, is⟩
      · refine ⟨?_, (same joined).2⟩
        dsimp only
        rw [Pipe.delivered_pull ok.down, (same joined).1, List.append_assoc]
      · cases is
  waiting := by
    rintro rfl
    rcases is with ⟨-, is⟩ | ⟨-, is⟩ <;> cases is
  joined _ := ok.joined joined
  early := by
    intro early
    rcases is with ⟨-, rfl⟩ | ⟨-, rfl⟩ <;> rcases early with early | early <;> cases early
  found := ok.found

/-- The client writes to the pipe what it has read from the local service. -/
theorem ConnOk.answer (ok : ConnOk lib tokens past conn) (joined : conn.phase = .joined)
    (chunk : GoString) :
    ConnOk lib tokens past
      { conn with fromLocal := conn.fromLocal ++ chunk, up := conn.up.put chunk } where
  down := ok.down
  up := ok.up.put chunk
  unsealed := ok.unsealed
  sealed_ := ok.sealed_
  undialed undialed := by cases (ok.joined joined).symm.trans undialed
  dialed dialed := by
    obtain ⟨m, conf, job, encoder, decoder, toLocal, -, same⟩ := ok.dialed dialed
    have writes : (conn.up.put chunk).writes.flatten = conn.fromLocal ++ chunk := by
      show (conn.up.writes ++ [chunk]).flatten = _
      rw [List.flatten_append, (same joined).2, List.flatten_singleton]
    exact ⟨m, conf, job, encoder, decoder, toLocal, writes ▸ List.prefix_rfl,
      fun _ => ⟨(same joined).1, writes⟩⟩
  waiting waiting := by cases joined.symm.trans waiting
  joined := ok.joined
  early early := by rcases early with early | early <;> cases joined.symm.trans early
  found := ok.found

/-- What it has read is lost where the write fails. -/
theorem ConnOk.answer_lost (ok : ConnOk lib tokens past conn) (joined : conn.phase = .joined)
    (chunk : GoString) :
    ConnOk lib tokens past
      { conn with fromLocal := conn.fromLocal ++ chunk, phase := .returned } where
  down := ok.down
  up := ok.up
  unsealed := ok.unsealed
  sealed_ := ok.sealed_
  undialed undialed := by cases (ok.joined joined).symm.trans undialed
  dialed dialed := by
    obtain ⟨m, conf, job, encoder, decoder, toLocal, fromLocal, -⟩ := ok.dialed dialed
    exact ⟨m, conf, job, encoder, decoder, toLocal, fromLocal.trans (List.prefix_append _ _),
      fun returned => by cases returned⟩
  waiting waiting := by cases waiting
  joined returned := by cases returned
  early early := by rcases early with early | early <;> cases early
  found := ok.found

/-! ### The server -/

theorem accept_inv (inv : Inv lib tokens past s) {name : GoString} {src dst : Option GoString}
    {layers : Layers} (found : .register name layers ∈ past) :
    Inv lib tokens past
      { s with users := s.users ++ [⟨name, src, dst, layers, .accepted, none, [], []⟩] } :=
  { inv with
    link := by
      intro c conn u there owned
      obtain ⟨user, at_u, linked⟩ := inv.link c conn u there owned
      exact ⟨user, Slots.append_old at_u, linked⟩
    user := by
      intro u user at_u
      rcases Slots.append_cases at_u with at_u | ⟨-, rfl⟩
      · exact inv.user u user at_u
      · exact
          { registered := found
            starting := fun i c starting => by cases starting
            joined := fun c joined => by cases joined
            early := fun _ => rfl
            unjoined := fun _ => ⟨rfl, rfl⟩
            workConn := fun c none_ => by cases none_ } }

/-- The user connection goes on without a work connection. -/
theorem phase_inv (inv : Inv lib tokens past s) (there : s.users[u]? = some user)
    (early : user.phase = .accepted ∨ ∃ i, user.phase = .getting i) {phase : UserPhase}
    (is : (∃ i, phase = .getting i) ∨ phase = .returned) :
    Inv lib tokens past (s.setUser u { user with phase := phase }) := by
  have ok := inv.user u user there
  have none_ := ok.early early
  apply inv.setUser there
  · exact
      { registered := ok.registered
        starting := by
          rintro i c rfl
          rcases is with ⟨j, is⟩ | is <;> cases is
        joined := by
          rintro c rfl
          rcases is with ⟨j, is⟩ | is <;> cases is
        early := fun _ => none_
        unjoined := ok.unjoined
        workConn := ok.workConn }
  · intro c conn link
    exact
      { link with
        joined := by
          rintro rfl
          rcases is with ⟨j, is⟩ | is <;> cases is
        isOpen := by
          rintro rfl
          rcases is with ⟨j, is⟩ | is <;> cases is }

theorem register_inv (inv : Inv lib tokens past s) {ch : Chan Nat} {isOpen : Bool}
    (is : s.workConnCh.send s.conns.length = .done ch ∧ isOpen = true ∨ ch = s.workConnCh) :
    Inv lib tokens past
      { s with workConnCh := ch, conns := s.conns ++ [{ freshConn with isOpen := isOpen }] } := by
  have kept : ∀ c ∈ s.workConnCh.buf, ∃ conn,
      (s.conns ++ [{ freshConn with isOpen := isOpen }])[c]? = some conn ∧ conn.owner = none := by
    intro c inside
    obtain ⟨conn, at_c, free⟩ := inv.pool c inside
    exact ⟨conn, Slots.append_old at_c, free⟩
  have unused : s.conns.length ∉ s.workConnCh.buf := by
    intro inside
    obtain ⟨conn, at_c, -⟩ := inv.pool _ inside
    exact absurd (List.getElem?_eq_some_iff.1 at_c).1 (Nat.lt_irrefl _)
  have pool : ch.buf.Nodup ∧ ∀ c ∈ ch.buf, ∃ conn,
      (s.conns ++ [{ freshConn with isOpen := isOpen }])[c]? = some conn ∧ conn.owner = none := by
    rcases is with ⟨sent, rfl⟩ | rfl
    · obtain ⟨-, -, rfl⟩ := Chan.send_eq_done_iff.1 sent
      refine ⟨?_, ?_⟩
      · exact List.nodup_append.2 ⟨inv.nodup, List.nodup_singleton _, by
          rintro c inside d last rfl
          cases List.mem_singleton.1 last
          exact unused inside⟩
      · intro c inside
        rcases List.mem_append.1 inside with old | last
        · exact kept c old
        · cases List.mem_singleton.1 last
          exact ⟨_, List.getElem?_concat_length, rfl⟩
    · exact ⟨inv.nodup, kept⟩
  exact
    { nodup := pool.1
      pool := pool.2
      registered := inv.registered
      proxies := inv.proxies
      ok := by
        intro c conn at_c
        rcases Slots.append_cases at_c with at_c | ⟨-, rfl⟩
        · exact inv.ok c conn at_c
        · exact .fresh isOpen
      untold := by
        intro c conn at_c free
        rcases Slots.append_cases at_c with at_c | ⟨-, rfl⟩
        · exact inv.untold c conn at_c free
        · exact .fresh isOpen
      link := by
        intro c conn u at_c owned
        rcases Slots.append_cases at_c with at_c | ⟨-, rfl⟩
        · exact inv.link c conn u at_c owned
        · cases owned
      user := by
        intro u user at_u
        have ok := inv.user u user at_u
        exact
          { ok with
            starting := by
              intro i c starting
              obtain ⟨none_, conn, at_c, owned⟩ := ok.starting i c starting
              exact ⟨none_, conn, Slots.append_old at_c, owned⟩
            workConn := by
              intro c joined
              obtain ⟨conn, at_c, owned⟩ := ok.workConn c joined
              exact ⟨conn, Slots.append_old at_c, owned⟩ } }

/-- A connection that is not the user's changes. -/
theorem UserOk.setFree {conns : List WorkConn} (ok : UserOk past conns u user)
    {new : WorkConn} (unowned : ∀ old, conns[c]? = some old → old.owner ≠ some u) :
    UserOk past (conns.set c new) u user := by
  have moved : ∀ {d : Nat} {at_ : WorkConn}, conns[d]? = some at_ → at_.owner = some u →
      (conns.set c new)[d]? = some at_ := by
    intro d at_ at_d owned
    have differs : d ≠ c := by
      rintro rfl
      exact unowned at_ at_d owned
    rwa [List.getElem?_set_ne (Ne.symm differs)]
  exact
    { ok with
      starting := by
        intro j d starting
        obtain ⟨none_, old, at_d, owned, fresh⟩ := ok.starting j d starting
        exact ⟨none_, old, moved at_d owned, owned, fresh⟩
      workConn := by
        intro d joined
        obtain ⟨old, at_d, owned⟩ := ok.workConn d joined
        exact ⟨old, moved at_d owned, owned⟩ }

/-- A work connection is taken from the pool. -/
theorem get_inv (inv : Inv lib tokens past s) (at_u : s.users[u]? = some user) {i : Nat}
    (getting : user.phase = .getting i) {ch : Chan Nat}
    (recv : s.workConnCh.recv = .done (some c, ch)) (at_c : s.conns[c]? = some conn) :
    Inv lib tokens past
      { (s.setUser u { user with phase := .starting i c }).setConn c
          { conn with owner := some u } with workConnCh := ch } := by
  obtain ⟨rest, buf, rfl⟩ := Chan.recv_eq_some_iff.1 recv
  have nodup := inv.nodup
  rw [buf] at nodup
  obtain ⟨first, rest_nodup⟩ := List.nodup_cons.1 nodup
  have free : conn.owner = none := by
    obtain ⟨old, at_c', free⟩ := inv.pool c (by rw [buf]; exact List.mem_cons_self)
    cases at_c.symm.trans at_c'
    exact free
  have untold := inv.untold c conn at_c free
  have userOk := inv.user u user at_u
  have none_ := userOk.early (.inr ⟨i, getting⟩)
  have unowned : ∀ d other v, d = c → s.conns[d]? = some other → other.owner ≠ some v := by
    rintro d other v rfl at_d owned
    cases at_c.symm.trans at_d
    cases free.symm.trans owned
  exact
    { nodup := rest_nodup
      pool := by
        intro d inside
        obtain ⟨old, at_d, free⟩ := inv.pool d (by rw [buf]; exact List.mem_cons_of_mem c inside)
        have differs : d ≠ c := by
          rintro rfl
          exact first inside
        exact ⟨old, by
          rwa [State.setConn, State.setUser, List.getElem?_set_ne (Ne.symm differs)], free⟩
      registered := inv.registered
      proxies := inv.proxies
      ok := by
        intro d other at_d
        rcases Slots.set_cases at_d with ⟨-, rfl⟩ | ⟨-, at_d⟩
        · exact (inv.ok c conn at_c).congr (some u) conn.isOpen conn.startMsg
        · exact inv.ok d other at_d
      untold := by
        intro d other at_d free'
        rcases Slots.set_cases at_d with ⟨-, rfl⟩ | ⟨-, at_d⟩
        · cases free'
        · exact inv.untold d other at_d free'
      link := by
        intro d other v at_d owned
        show ∃ old, (s.users.set u _)[v]? = some old ∧ _
        rcases Slots.set_cases at_d with ⟨rfl, rfl⟩ | ⟨differs, at_d⟩
        · cases owned
          refine ⟨_, Slots.set_self at_u, ?_⟩
          exact
            { startMsg := fun m told => by cases untold.startMsg.symm.trans told
              job := fun m conf job => by cases untold.job.symm.trans job
              layers := fun layers is => by cases untold.sealed_.symm.trans is
              other := fun _ => untold.sealed_
              down := fun joined => by cases none_.symm.trans joined
              up := fun joined => by cases none_.symm.trans joined
              joined := fun joined => by cases joined
              isOpen := fun joined => by cases joined }
        · obtain ⟨old, at_v, linked⟩ := inv.link d other v at_d owned
          by_cases same : v = u
          · subst same
            cases at_u.symm.trans at_v
            refine ⟨_, Slots.set_self at_u, ?_⟩
            exact
              { linked with
                joined := fun joined => by cases joined
                isOpen := fun joined => by cases joined }
          · exact ⟨old, by rwa [List.getElem?_set_ne (Ne.symm same)], linked⟩
      user := by
        intro v other at_v
        have kept : ∀ {old : User}, UserOk past s.conns v old →
            UserOk past (s.conns.set c { conn with owner := some u }) v old := fun ok =>
          ok.setFree fun _ at_c' owned => unowned c _ v rfl at_c' owned
        rcases Slots.set_cases at_v with ⟨rfl, rfl⟩ | ⟨-, at_v⟩
        · have before := kept userOk
          exact
            { registered := before.registered
              starting := by
                rintro j d ⟨⟩
                exact ⟨none_, _, Slots.set_self at_c, rfl, untold.startMsg, untold.job,
                  untold.sealed_⟩
              joined := fun d joined => by cases joined
              early := fun _ => none_
              unjoined := before.unjoined
              workConn := before.workConn }
        · exact kept (inv.user v other at_v) }

/-- The write of the message fails. -/
theorem write_fails_inv (inv : Inv lib tokens past s) (at_u : s.users[u]? = some user) {i : Nat}
    (starting : user.phase = .starting i c) (at_c : s.conns[c]? = some conn) (arrives last : Bool) :
    Inv lib tokens past
      ((s.setUser u
        (if last then { user with phase := .joined c, workConn := some c }
        else { user with phase := .getting (i + 1) })).setConn c
        { (if arrives then { conn with startMsg := some user.startMsg } else conn) with
          isOpen := false }) := by
  have userOk := inv.user u user at_u
  obtain ⟨none_, old, at_c', owner, untold⟩ := userOk.starting i c starting
  cases at_c.symm.trans at_c'
  obtain ⟨fromUser, toUser⟩ := userOk.unjoined none_
  have ok := inv.ok c conn at_c
  have told : ∀ m, (if arrives then { conn with startMsg := some user.startMsg }
      else conn).startMsg = some m → m = user.startMsg := by
    intro m
    cases arrives with
    | true =>
        rintro ⟨⟩
        rfl
    | false =>
        intro old
        cases untold.startMsg.symm.trans old
  apply inv.setBoth at_u at_c owner
  · cases arrives <;> exact owner
  · cases arrives with
    | true => exact ok.congr conn.owner false (some user.startMsg)
    | false => exact ok.congr conn.owner false conn.startMsg
  · have at_c'' : ∀ new : WorkConn, (s.conns.set c new)[c]? = some new := fun new =>
      Slots.set_self at_c
    cases last with
    | true =>
        exact
          { registered := userOk.registered
            starting := fun j d is => by cases is
            joined := fun d is => by cases is; rfl
            early := by
              rintro (is | ⟨j, is⟩) <;> cases is
            unjoined := fun is => by cases is
            workConn := by
              rintro d ⟨⟩
              refine ⟨_, at_c'' _, ?_⟩
              cases arrives <;> exact owner }
    | false =>
        exact
          { registered := userOk.registered
            starting := fun j d is => by cases is
            joined := fun d is => by cases is
            early := fun _ => none_
            unjoined := userOk.unjoined
            workConn := fun d is => by cases none_.symm.trans is }
  · intro link
    obtain ⟨-, writes, -, unread⟩ := ok.unsealed untold.sealed_
    have nothing : conn.down.writes.flatten = user.fromUser ∧
        user.toUser = conn.up.delivered := by
      rw [writes, fromUser, toUser, Pipe.delivered_of_unread unread]
      exact ⟨rfl, rfl⟩
    constructor
    · cases last <;> exact told
    · intro m conf job
      cases arrives <;> cases untold.job.symm.trans job
    · intro layers is
      cases arrives <;> cases untold.sealed_.symm.trans is
    · intro _
      cases arrives <;> exact untold.sealed_
    · intro _
      cases arrives <;> cases last <;> exact nothing.1 ▸ List.prefix_rfl
    · intro _
      cases arrives <;> cases last <;> exact nothing.2 ▸ List.prefix_rfl
    · intro _
      cases arrives <;> cases last <;> exact nothing
    · intro _ isOpen
      cases isOpen
  · intro d other differs link
    cases last with
    | true =>
        exact
          { startMsg := link.startMsg
            job := link.job
            layers := link.layers
            other := fun _ => link.other (by simp [none_])
            down := fun is => absurd (Option.some.inj is).symm differs
            up := fun is => absurd (Option.some.inj is).symm differs
            joined := fun is => absurd (UserPhase.joined.inj is).symm differs
            isOpen := fun is => absurd (UserPhase.joined.inj is).symm differs }
    | false =>
        exact
          { link with
            joined := fun is => by cases is
            isOpen := fun is => by cases is }

/-- The message is written, and the server joins. -/
theorem write_inv (inv : Inv lib tokens past s) (at_u : s.users[u]? = some user) {i : Nat}
    (starting : user.phase = .starting i c) (at_c : s.conns[c]? = some conn) (iv : GoString) :
    Inv lib tokens past
      ((s.setUser u { user with phase := .joined c, workConn := some c }).setConn c
        (WorkConn.join lib tokens { conn with startMsg := some user.startMsg } user.layers iv)) := by
  have userOk := inv.user u user at_u
  obtain ⟨none_, old, at_c', owner, untold⟩ := userOk.starting i c starting
  cases at_c.symm.trans at_c'
  obtain ⟨fromUser, toUser⟩ := userOk.unjoined none_
  have ok := inv.ok c conn at_c
  have joins := (ok.join untold user.layers iv).congr conn.owner conn.isOpen (some user.startMsg)
  obtain ⟨-, writes, -, unread⟩ := ok.unsealed untold.sealed_
  have nothing : (conn.join lib tokens user.layers iv).down.writes.flatten = user.fromUser ∧
      user.toUser = (conn.join lib tokens user.layers iv).up.delivered := by
    have writes' : (conn.join lib tokens user.layers iv).down.writes = [] := writes
    have unread' : (conn.join lib tokens user.layers iv).up.delivered = [] :=
      Pipe.delivered_of_unread unread
    rw [fromUser, toUser, writes', unread']
    exact ⟨rfl, rfl⟩
  apply inv.setBoth at_u at_c owner
  · exact owner
  · exact joins
  · exact
      { registered := userOk.registered
        starting := fun j d is => by cases is
        joined := fun d is => by cases is; rfl
        early := by
          rintro (is | ⟨j, is⟩) <;> cases is
        unjoined := fun is => by cases is
        workConn := by
          rintro d ⟨⟩
          exact ⟨_, Slots.set_self at_c, owner⟩ }
  · intro link
    exact
      { startMsg := by
          rintro m ⟨⟩
          rfl
        job := fun m conf job => by cases untold.job.symm.trans job
        layers := by
          rintro layers ⟨⟩
          rfl
        other := fun differs => absurd rfl differs
        down := fun _ => nothing.1 ▸ List.prefix_rfl
        up := fun _ => nothing.2 ▸ List.prefix_rfl
        joined := fun _ => nothing
        isOpen := fun _ _ is => by cases is }
  · intro d other differs link
    exact
      { startMsg := link.startMsg
        job := link.job
        layers := link.layers
        other := fun _ => link.other (by simp [none_])
        down := fun is => absurd (Option.some.inj is).symm differs
        up := fun is => absurd (Option.some.inj is).symm differs
        joined := fun is => absurd (UserPhase.joined.inj is).symm differs
        isOpen := fun is => absurd (UserPhase.joined.inj is).symm differs }

/-- Either end of `Join` goes on or returns: what it takes to keep the invariant. -/
theorem join_inv (inv : Inv lib tokens past s) (at_u : s.users[u]? = some user)
    (joined : user.phase = .joined c) (at_c : s.conns[c]? = some conn) {fromUser toUser : GoString}
    {phase : UserPhase} (is : phase = .joined c ∨ phase = .returned)
    (owner : conn'.owner = conn.owner) (startMsg : conn'.startMsg = conn.startMsg)
    (job : conn'.job = conn.job) (sealed_ : conn'.sealed = conn.sealed)
    (ok : ConnOk lib tokens past conn')
    (down : Link c conn user → conn'.down.writes.flatten <+: fromUser)
    (up : Link c conn user → toUser <+: conn'.up.delivered)
    (same : Link c conn user → phase = .joined c →
      conn'.down.writes.flatten = fromUser ∧ toUser = conn'.up.delivered)
    (isOpen : phase = .joined c → conn'.isOpen = true → conn.isOpen = true) :
    Inv lib tokens past
      ((s.setUser u
        { user with fromUser := fromUser, toUser := toUser, phase := phase }).setConn c conn') := by
  have userOk := inv.user u user at_u
  have workConn := userOk.joined c joined
  obtain ⟨old, at_c', owned⟩ := userOk.workConn c workConn
  cases at_c.symm.trans at_c'
  apply inv.setBoth at_u at_c owned (owner.trans owned) ok
  · exact
      { registered := userOk.registered
        starting := by
          rintro j d rfl
          rcases is with is | is <;> cases is
        joined := by
          rintro d rfl
          rcases is with is | is <;> cases is
          exact workConn
        early := by
          rintro (rfl | ⟨j, rfl⟩) <;> rcases is with is | is <;> cases is
        unjoined := fun none_ => by cases none_.symm.trans workConn
        workConn := by
          intro d is
          cases workConn.symm.trans is
          exact ⟨conn', Slots.set_self at_c, owner.trans owned⟩ }
  · intro link
    exact
      { startMsg := startMsg ▸ link.startMsg
        job := job ▸ link.job
        layers := sealed_ ▸ link.layers
        other := fun differs => absurd workConn differs
        down := fun _ => down link
        up := fun _ => up link
        joined := same link
        isOpen := fun stays isOpen' => by
          rw [sealed_]
          exact link.isOpen joined (isOpen stays isOpen') }
  · intro d other differs link
    have not_joined : phase ≠ .joined d := by
      rintro rfl
      rcases is with is | is
      · exact differs (UserPhase.joined.inj is)
      · cases is
    exact
      { link with
        down := fun is => absurd (Option.some.inj (workConn.symm.trans is)).symm differs
        up := fun is => absurd (Option.some.inj (workConn.symm.trans is)).symm differs
        joined := fun is => absurd is not_joined
        isOpen := fun is => absurd is not_joined }

theorem sealed_of_open (inv : Inv lib tokens past s) (at_u : s.users[u]? = some user)
    (joined : user.phase = .joined c) (at_c : s.conns[c]? = some conn)
    (isOpen : conn.isOpen = true) : conn.sealed ≠ none := by
  have userOk := inv.user u user at_u
  obtain ⟨old, at_c', owned⟩ := userOk.workConn c (userOk.joined c joined)
  cases at_c.symm.trans at_c'
  obtain ⟨old, at_u', link⟩ := inv.link c conn u at_c owned
  cases at_u.symm.trans at_u'
  exact link.isOpen joined isOpen

theorem copyDown_inv (inv : Inv lib tokens past s) {chunk : GoString} {err : Bool}
    (next : step lib tokens poolCount s (.copyDown u chunk err) = some t) :
    Inv lib tokens past t := by
  obtain ⟨user, at_u, next⟩ := Option.bind_eq_some_iff.1 next
  split at next
  · rename_i c joined
    obtain ⟨conn, at_c, next⟩ := Option.bind_eq_some_iff.1 next
    have ok := inv.ok c conn at_c
    have workConn := (inv.user u user at_u).joined c joined
    cases err with
    | true =>
        cases next
        exact join_inv inv at_u joined at_c (.inr rfl) rfl rfl rfl rfl
          (ok.congr conn.owner false conn.startMsg)
          (fun link => (link.down workConn).trans (List.prefix_append _ _))
          (fun link => link.up workConn) (fun _ is => by cases is) (fun is => by cases is)
    | false =>
        simp only [Bool.false_eq_true, if_false] at next
        split at next
        · rename_i isOpen
          cases next
          have sealed_ := sealed_of_open inv at_u joined at_c isOpen
          have writes : Link c conn user →
              (conn.down.put chunk).writes.flatten = user.fromUser ++ chunk := by
            intro link
            show (conn.down.writes ++ [chunk]).flatten = _
            rw [List.flatten_append, (link.joined joined).1, List.flatten_singleton]
          exact join_inv inv at_u joined at_c (.inl joined) rfl rfl rfl rfl
            (ok.copyDown sealed_ chunk) (fun link => writes link ▸ List.prefix_rfl)
            (fun link => link.up workConn) (fun link _ => ⟨writes link, (link.joined joined).2⟩)
            (fun _ isOpen' => isOpen')
        · cases next
  · cases next

theorem copyUp_inv (inv : Inv lib tokens past s) {n k : Nat} {err : Bool}
    (next : step lib tokens poolCount s (.copyUp u n k err) = some t) :
    Inv lib tokens past t := by
  obtain ⟨user, at_u, next⟩ := Option.bind_eq_some_iff.1 next
  split at next
  · rename_i c joined
    obtain ⟨conn, at_c, next⟩ := Option.bind_eq_some_iff.1 next
    have ok := inv.ok c conn at_c
    have workConn := (inv.user u user at_u).joined c joined
    split at next
    · rename_i isOpen
      have sealed_ := sealed_of_open inv at_u joined at_c isOpen
      have delivered := Pipe.delivered_pull ok.up n k
      cases err with
      | true =>
          cases next
          exact join_inv inv at_u joined at_c (.inr rfl) rfl rfl rfl rfl
            (ok.copyUp sealed_ n k false) (fun link => link.down workConn)
            (fun link => (link.up workConn).trans (delivered ▸ List.prefix_append _ _))
            (fun _ is => by cases is) (fun is => by cases is)
      | false =>
          cases next
          have toUser : Link c conn user →
              user.toUser ++ conn.up.chunk n k = (conn.up.pull n k).delivered := by
            intro link
            rw [delivered, (link.joined joined).2]
          exact join_inv inv at_u joined at_c (.inl joined) rfl rfl rfl rfl
            (ok.copyUp sealed_ n k conn.isOpen) (fun link => link.down workConn)
            (fun link => toUser link ▸ List.prefix_rfl)
            (fun link _ => ⟨(link.joined joined).1, toUser link⟩) (fun _ isOpen' => isOpen')
    · cases next
  · cases next

theorem leave_inv (inv : Inv lib tokens past s)
    (next : step lib tokens poolCount s (.leave u) = some t) : Inv lib tokens past t := by
  obtain ⟨user, at_u, next⟩ := Option.bind_eq_some_iff.1 next
  split at next
  · rename_i c joined
    obtain ⟨conn, at_c, rfl⟩ := Option.map_eq_some_iff.1 next
    have ok := inv.ok c conn at_c
    have workConn := (inv.user u user at_u).joined c joined
    exact join_inv inv at_u joined at_c (.inr rfl) rfl rfl rfl rfl
      (ok.congr conn.owner false conn.startMsg) (fun link => link.down workConn)
      (fun link => link.up workConn) (fun _ is => by cases is) (fun is => by cases is)
  · cases next

/-! ### The client -/

/-- The client's end goes on without a new message or job. -/
theorem client_inv (inv : Inv lib tokens past s) (at_c : s.conns[c]? = some conn)
    (owner : conn'.owner = conn.owner) (startMsg : conn'.startMsg = conn.startMsg)
    (job : conn'.job = conn.job) (sealed_ : conn'.sealed = conn.sealed)
    (isOpen : conn'.isOpen = conn.isOpen) (writes : conn'.down.writes = conn.down.writes)
    (delivered : conn'.up.delivered = conn.up.delivered) (ok : ConnOk lib tokens past conn') :
    Inv lib tokens past (s.setConn c conn') := by
  apply inv.setConn at_c owner ok
  · intro untold
    exact ⟨startMsg.trans untold.startMsg, job.trans untold.job, sealed_.trans untold.sealed_⟩
  · intro user link
    exact
      { startMsg := startMsg ▸ link.startMsg
        job := job ▸ link.job
        layers := sealed_ ▸ link.layers
        other := sealed_ ▸ link.other
        down := writes ▸ link.down
        up := delivered ▸ link.up
        joined := by
          rw [writes, delivered]
          exact link.joined
        isOpen := by
          rw [sealed_, isOpen]
          exact link.isOpen }

theorem readStart_inv (inv : Inv lib tokens past s) {err : Bool}
    (next : step lib tokens poolCount s (.readStart c err) = some t) :
    Inv lib tokens past t := by
  obtain ⟨conn, at_c, next⟩ := Option.bind_eq_some_iff.1 next
  have ok := inv.ok c conn at_c
  split at next
  · rename_i waiting
    cases err with
    | true =>
        cases next
        exact client_inv inv at_c rfl rfl rfl rfl rfl rfl rfl (ok.returned conn.startMsg)
    | false =>
        obtain ⟨m, told, rfl⟩ := Option.map_eq_some_iff.1 next
        split
        · rename_i conf found
          have undialed := ok.early (.inl waiting)
          have no_job := ok.waiting waiting
          refine inv.setConn at_c ?_ ?_ ?_ ?_
          · rfl
          · exact
              { down := ok.down
                up := ok.up
                unsealed := ok.unsealed
                sealed_ := ok.sealed_
                undialed := ok.undialed
                dialed := fun dialed => by cases undialed.symm.trans dialed
                waiting := fun is => by cases is
                joined := fun is => by cases is
                early := fun _ => undialed
                found := by
                  rintro m' conf' ⟨⟩
                  exact inv.proxies m.proxyName conf found }
          · intro untold
            cases untold.startMsg.symm.trans told
          · intro user link
            exact
              { link with
                startMsg := fun m' none_ => by cases none_
                job := by
                  rintro m' conf' ⟨⟩
                  exact link.startMsg m told }
        · refine inv.setConn at_c ?_ (ok.returned none) ?_ ?_
          · rfl
          · intro untold
            cases untold.startMsg.symm.trans told
          · intro user link
            exact { link with startMsg := fun m' none_ => by cases none_ }
  · cases next

theorem dial_inv (inv : Inv lib tokens past s) {result : Dial} {iv : GoString}
    (next : step lib tokens poolCount s (.dial c result iv) = some t) :
    Inv lib tokens past t := by
  obtain ⟨conn, at_c, next⟩ := Option.bind_eq_some_iff.1 next
  have ok := inv.ok c conn at_c
  split at next
  · rename_i m conf dialing job
    -- Nothing has been read from the pipe that gets its writer now.
    have unread : ∀ n, (conn.dial lib tokens conf m iv n).up.delivered = conn.up.delivered := by
      have read := (ok.up_unread (ok.early (.inr dialing))).2
      intro n
      rw [Pipe.delivered_of_unread read]
      exact Pipe.delivered_of_unread read
    cases result with
    | refused =>
        cases next
        exact client_inv inv at_c rfl rfl rfl rfl rfl rfl rfl (ok.returned conn.startMsg)
    | infoFails n =>
        cases next
        exact client_inv inv at_c rfl rfl rfl rfl rfl rfl (unread n)
          (ok.dial dialing job iv (.inl rfl))
    | ok =>
        cases next
        exact client_inv inv at_c rfl rfl rfl rfl rfl rfl (unread 0)
          (ok.dial dialing job iv (.inr ⟨rfl, rfl⟩))
  · cases next

theorem deliver_inv (inv : Inv lib tokens past s) {n k : Nat} {err : Bool}
    (next : step lib tokens poolCount s (.deliver c n k err) = some t) :
    Inv lib tokens past t := by
  obtain ⟨conn, at_c, next⟩ := Option.bind_eq_some_iff.1 next
  have ok := inv.ok c conn at_c
  split at next
  · rename_i joined
    cases err with
    | true =>
        cases next
        exact client_inv inv at_c rfl rfl rfl rfl rfl rfl rfl
          (ok.deliver joined n k (.inr ⟨rfl, rfl⟩))
    | false =>
        cases next
        exact client_inv inv at_c rfl rfl rfl rfl rfl rfl rfl
          (ok.deliver joined n k (.inl ⟨rfl, joined⟩))
  · cases next

theorem answer_inv (inv : Inv lib tokens past s) {chunk : GoString} {err : Bool}
    (next : step lib tokens poolCount s (.answer c chunk err) = some t) :
    Inv lib tokens past t := by
  obtain ⟨conn, at_c, next⟩ := Option.bind_eq_some_iff.1 next
  have ok := inv.ok c conn at_c
  split at next
  · rename_i joined
    cases err with
    | true =>
        cases next
        exact client_inv inv at_c rfl rfl rfl rfl rfl rfl rfl (ok.answer_lost joined chunk)
    | false =>
        cases next
        exact client_inv inv at_c rfl rfl rfl rfl rfl rfl (Pipe.delivered_put ok.up chunk)
          (ok.answer joined chunk)
  · cases next

/-! ### All steps -/

theorem Inv.step {l : Label} (inv : Inv lib tokens past s) (taken : l ∈ past)
    (next : TcpTunnel.step lib tokens poolCount s l = some t) : Inv lib tokens past t := by
  cases l with
  | register name layers =>
      simp only [TcpTunnel.step] at next
      split at next
      · cases next
        refine { inv with registered := ?_ }
        intro name' layers' found
        rcases GoMap.get_set_eq_some.1 found with ⟨rfl, rfl⟩ | ⟨-, found⟩
        · exact taken
        · exact inv.registered name' layers' found
      · cases next
  | closeProxy name =>
      cases next
      exact { inv with
        registered := fun name' layers found =>
          inv.registered name' layers (GoMap.get_delete_eq_some.1 found).2 }
  | startProxy name conf =>
      cases next
      refine { inv with proxies := ?_ }
      intro name' conf' found
      rcases GoMap.get_set_eq_some.1 found with ⟨rfl, rfl⟩ | ⟨-, found⟩
      · exact taken
      · exact inv.proxies name' conf' found
  | stopProxy name =>
      cases next
      exact { inv with
        proxies := fun name' conf found =>
          inv.proxies name' conf (GoMap.get_delete_eq_some.1 found).2 }
  | accept name src dst =>
      obtain ⟨layers, found, rfl⟩ := Option.map_eq_some_iff.1 next
      exact accept_inv inv (inv.registered name layers found)
  | newUserConn u rejected =>
      obtain ⟨user, at_u, next⟩ := Option.bind_eq_some_iff.1 next
      split at next
      · rename_i accepted
        cases next
        refine phase_inv inv at_u (.inl accepted) ?_
        cases rejected with
        | true => exact .inr rfl
        | false => exact .inl ⟨0, rfl⟩
      · cases next
  | registerWorkConn =>
      simp only [TcpTunnel.step] at next
      split at next
      · rename_i ch sent
        cases next
        exact register_inv inv (.inl ⟨sent, rfl⟩)
      · cases next
        exact register_inv inv (.inr rfl)
  | getWorkConn u err =>
      obtain ⟨user, at_u, next⟩ := Option.bind_eq_some_iff.1 next
      split at next
      · rename_i i getting
        cases err with
        | true =>
            cases next
            exact phase_inv inv at_u (.inr ⟨i, getting⟩) (.inr rfl)
        | false =>
            simp only [Bool.false_eq_true, if_false] at next
            split at next
            · rename_i c ch recv
              obtain ⟨conn, at_c, rfl⟩ := Option.map_eq_some_iff.1 next
              exact get_inv inv at_u getting recv at_c
            · cases next
      · cases next
  | writeStart u err arrives iv =>
      obtain ⟨user, at_u, next⟩ := Option.bind_eq_some_iff.1 next
      split at next
      · rename_i i c starting
        obtain ⟨conn, at_c, rfl⟩ := Option.map_eq_some_iff.1 next
        cases err with
        | true =>
            have fails := write_fails_inv inv at_u starting at_c arrives (decide (¬ i < poolCount))
            by_cases more : i < poolCount
            · simpa [more] using fails
            · simpa [more] using fails
        | false => exact write_inv inv at_u starting at_c iv
      · cases next
  | copyDown u chunk err => exact copyDown_inv inv next
  | copyUp u n k err => exact copyUp_inv inv next
  | leave u => exact leave_inv inv next
  | readStart c err => exact readStart_inv inv next
  | dial c result iv => exact dial_inv inv next
  | deliver c n k err => exact deliver_inv inv next
  | answer c chunk err => exact answer_inv inv next
  | drop c =>
      obtain ⟨conn, at_c, next⟩ := Option.bind_eq_some_iff.1 next
      split at next
      · cases next
        exact client_inv inv at_c rfl rfl rfl rfl rfl rfl rfl
          ((inv.ok c conn at_c).returned conn.startMsg)
      · cases next

theorem exec_inv {poolCap : Nat} {ls : List Label}
    (run : exec (TcpTunnel.step lib tokens poolCount) (start poolCap) ls = some s) :
    Inv lib tokens ls s := by
  refine history_of_exec ?_ (start_inv lib tokens poolCap) run
  intro past s l t inv next
  exact (inv.mono (List.subset_append_left past [l])).step
    (List.mem_append_right past List.mem_cons_self) next

/-! ## What the connections carry -/

theorem Agree.down_undoes (lawful : lib.Lawful) {layers : Layers} {conf : LocalConf}
    (agree : Agree tokens layers conf) (iv : GoString) :
    (decoder lib conf.layers tokens.client).Undoes (encoder lib layers tokens.server iv) := by
  obtain ⟨rfl, key⟩ := agree
  apply Decoder.Undoes.comp
  · split
    · rename_i encrypts
      rw [key encrypts]
      exact lawful.decrypts tokens.client iv
    · exact Decoder.id_undoes
  · split
    · exact lawful.decompresses
    · exact Decoder.id_undoes

theorem Agree.up_undoes (lawful : lib.Lawful) {layers : Layers} {conf : LocalConf}
    (agree : Agree tokens layers conf) (iv : GoString) :
    (decoder lib layers tokens.server).Undoes (encoder lib conf.layers tokens.client iv) := by
  obtain ⟨rfl, key⟩ := agree
  apply Decoder.Undoes.comp
  · split
    · rename_i encrypts
      rw [key encrypts]
      exact lawful.decrypts tokens.client iv
    · exact Decoder.id_undoes
  · split
    · exact lawful.decompresses
    · exact Decoder.id_undoes

/-- The local service and the user have got what the other has sent, up to what is lost when
a connection ends. -/
structure Carries (user : User) (conn : WorkConn) (info : GoString) : Prop where
  toLocal : conn.toLocal <+: info ++ user.fromUser
  toUser : user.toUser <+: conn.fromLocal
  /-- Nothing is lost before. -/
  all : (∃ c, user.phase = .joined c) → conn.phase = .joined → conn.down.Drained →
    conn.up.Drained → conn.toLocal = info ++ user.fromUser ∧ user.toUser = conn.fromLocal

theorem Link.carries (lawful : lib.Lawful) (ok : ConnOk lib tokens past conn)
    (userOk : UserOk past s.conns u user) (link : Link c conn user) {m : StartWorkConn}
    {conf : LocalConf} (job : conn.job = some (m, conf)) (mine : user.workConn = some c)
    (agree : Agree tokens user.layers conf) : Carries user conn (extraInfo lib conf m) := by
  cases dialed : conn.dialed with
  | false =>
      obtain ⟨-, -, -, -, toLocal, fromLocal⟩ := ok.undialed dialed
      have toUser := link.up mine
      rw [Pipe.delivered_of_unread (ok.up_unread dialed).2] at toUser
      refine ⟨?_, ?_, ?_⟩
      · rw [toLocal]
        exact List.nil_prefix
      · rw [fromLocal]
        exact toUser
      · intro _ joined
        cases dialed.symm.trans (ok.joined joined)
  | true =>
      obtain ⟨m', conf', job', ⟨iv', upEncoder⟩, downDecoder, toLocal, fromLocal, joined⟩ :=
        ok.dialed dialed
      cases job.symm.trans job'
      cases sealed_ : conn.sealed with
      | none =>
          -- The last write of the message has failed, and nothing goes through.
          obtain ⟨-, writes, taken, unread⟩ := ok.unsealed sealed_
          have toUser := link.up mine
          rw [ok.down_idle sealed_] at toLocal joined
          rw [Pipe.delivered_of_unread unread] at toUser
          refine ⟨?_, toUser.trans List.nil_prefix, ?_⟩
          · rw [List.append_nil] at toLocal
            exact toLocal.trans (List.prefix_append _ _)
          · rintro ⟨d, isJoined⟩ clientJoined - drained
            cases (userOk.joined d isJoined).symm.trans mine
            obtain ⟨fromUser, -⟩ := link.joined isJoined
            obtain ⟨toLocal, fromLocal⟩ := joined clientJoined
            have upEncodes : (decoder lib user.layers tokens.server).Undoes conn.up.encoder := by
              rw [upEncoder]
              exact agree.up_undoes lawful iv'
            have upIdle : conn.up.wire = [] := by
              rw [← List.length_eq_zero_iff, ← drained.1, taken]
            rw [toLocal, ← fromUser, writes, List.prefix_nil.1 toUser, ← fromLocal,
              Pipe.flatten_of_idle upEncodes upIdle]
            exact ⟨rfl, rfl⟩
      | some layers =>
          obtain ⟨⟨iv, downEncoder⟩, upDecoder⟩ := ok.sealed_ layers sealed_
          cases link.layers layers sealed_
          have down : conn.down.decoder.Undoes conn.down.encoder := by
            rw [downDecoder, downEncoder]
            exact agree.down_undoes lawful iv
          have up : conn.up.decoder.Undoes conn.up.encoder := by
            rw [upDecoder, upEncoder]
            exact agree.up_undoes lawful iv'
          refine ⟨?_, ?_, ?_⟩
          · apply toLocal.trans
            rw [List.prefix_append_right_inj]
            exact (Pipe.delivered_first down).trans (link.down mine)
          · exact (link.up mine).trans ((Pipe.delivered_first up).trans fromLocal)
          · rintro ⟨d, isJoined⟩ clientJoined drained drained'
            cases (userOk.joined d isJoined).symm.trans mine
            obtain ⟨fromUser, toUser⟩ := link.joined isJoined
            obtain ⟨toLocal, fromLocal⟩ := joined clientJoined
            rw [toLocal, Pipe.delivered_all down drained, fromUser, toUser,
              Pipe.delivered_all up drained', fromLocal]
            exact ⟨rfl, rfl⟩

variable (lib tokens) in
/-- What holds of a work connection for which the client has found a proxy: it was taken for
one user connection of the proxy of that name, and carries what goes between the user and the
local service, or nothing if the server has given it up. -/
structure Serves (ls : List Label) (s : State) (c : Nat) (conn : WorkConn) (m : StartWorkConn)
    (conf : LocalConf) (u : Nat) (user : User) : Prop where
  there : s.users[u]? = some user
  startMsg : m = user.startMsg
  registered : .register user.proxyName user.layers ∈ ls
  found : .startProxy user.proxyName conf ∈ ls
  alone : ∀ (v : Nat) other, s.users[v]? = some other → other.workConn = some c → v = u
  givenUp : user.workConn ≠ some c → conn.toLocal <+: extraInfo lib conf m
  carries : user.workConn = some c → Agree tokens user.layers conf →
    Carries user conn (extraInfo lib conf m)

/-- **A local service is connected for one user connection of the proxy of that name, and gets
his bytes; a user gets those of the service that was connected for him, or none.** -/
theorem carries_users (lawful : lib.Lawful) {poolCap : Nat} {ls : List Label}
    (run : exec (TcpTunnel.step lib tokens poolCount) (start poolCap) ls = some s) :
    (∀ (c : Nat) conn m conf, s.conns[c]? = some conn → conn.job = some (m, conf) →
      ∃ u user, Serves lib tokens ls s c conn m conf u user) ∧
    ∀ (u : Nat) user, s.users[u]? = some user → user.toUser ≠ [] →
      ∃ c conn, user.workConn = some c ∧ s.conns[c]? = some conn ∧ conn.job ≠ none := by
  have inv := exec_inv run
  refine ⟨?_, ?_⟩
  · intro c conn m conf at_c job
    have ok := inv.ok c conn at_c
    have owned : ∃ u, conn.owner = some u := by
      cases owner : conn.owner with
      | some u => exact ⟨u, rfl⟩
      | none => cases (inv.untold c conn at_c owner).job.symm.trans job
    obtain ⟨u, owner⟩ := owned
    obtain ⟨user, at_u, link⟩ := inv.link c conn u at_c owner
    have userOk := inv.user u user at_u
    have startMsg := link.job m conf job
    refine ⟨u, user, at_u, startMsg, userOk.registered, ?_, ?_, ?_, ?_⟩
    · have found := ok.found m conf job
      rwa [startMsg] at found
    · intro v other at_v takes
      obtain ⟨old, at_c', owner'⟩ := (inv.user v other at_v).workConn c takes
      cases at_c.symm.trans at_c'
      exact Option.some.inj (owner'.symm.trans owner)
    · intro differs
      cases dialed : conn.dialed with
      | false =>
          rw [(ok.undialed dialed).2.2.2.2.1]
          exact List.nil_prefix
      | true =>
          obtain ⟨m', conf', job', -, -, toLocal, -⟩ := ok.dialed dialed
          cases job.symm.trans job'
          rwa [ok.down_idle (link.other differs), List.append_nil] at toLocal
    · intro mine agree
      exact link.carries lawful ok userOk job mine agree
  · intro u user at_u gets
    have userOk := inv.user u user at_u
    cases workConn : user.workConn with
    | none => exact absurd (userOk.unjoined workConn).2 gets
    | some c =>
        obtain ⟨conn, at_c, owner⟩ := userOk.workConn c workConn
        refine ⟨c, conn, rfl, at_c, ?_⟩
        intro no_job
        obtain ⟨old, at_u', link⟩ := inv.link c conn u at_c owner
        cases at_u.symm.trans at_u'
        have ok := inv.ok c conn at_c
        have toUser := link.up workConn
        rw [Pipe.delivered_of_unread (ok.up_unread (ok.undialed_of_no_job no_job)).2] at toUser
        exact gets (List.prefix_nil.1 toUser)

end Steps

end Machine

/-- Libraries for proxies without layers. -/
def plainLib : Golib := ⟨fun _ _ => .id, fun _ => .id, .id, .id, fun _ => []⟩

/-- A user's request and its answer. -/
def request : List Label :=
  [.register [115] ⟨false, false⟩, .startProxy [115] ⟨[], 22, [], ⟨false, false⟩⟩,
    .registerWorkConn, .accept [115] none none, .newUserConn 0 false, .getWorkConn 0 false,
    .writeStart 0 false true [], .readStart 0 false, .dial 0 .ok [], .copyDown 0 [1, 2] false,
    .deliver 0 2 16 false, .answer 0 [3] false, .copyUp 0 1 16 false]

theorem carries_users_request :
    ∃ s conn m conf u user, exec (step plainLib ⟨[], []⟩ 1) (start 11) request = some s ∧
      s.conns[0]? = some conn ∧ conn.job = some (m, conf) ∧
      Serves plainLib ⟨[], []⟩ request s 0 conn m conf u user ∧ conn.toLocal = [1, 2] := by
  obtain ⟨s, run, conn, at_c, m, conf, job, toLocal⟩ :
      ∃ s, exec (step plainLib ⟨[], []⟩ 1) (start 11) request = some s ∧
        ∃ conn, s.conns[0]? = some conn ∧
          ∃ m conf, conn.job = some (m, conf) ∧ conn.toLocal = [1, 2] :=
    ⟨_, rfl, _, rfl, _, _, rfl, rfl⟩
  obtain ⟨serves, -⟩ :=
    carries_users ⟨fun _ _ => Decoder.id_undoes, Decoder.id_undoes⟩ run
  obtain ⟨u, user, served⟩ := serves 0 conn m conf at_c job
  exact ⟨s, conn, m, conf, u, user, run, at_c, job, served, toLocal⟩

end ChmlFrp.System.TcpTunnel
