/-
# ChmlFrp.Server.Approval — what the panel approves and what the server then claims

`CheckProxy` of `pkg/api/api.go` asks the panel about a message; `RegisterProxy` of
`server/control.go` then reads the message and runs the proxy.  The query leaves out the
bandwidth limit and its mode, the metas, `route_by_http_user`, `allow_users` and the
multiplexer.

* `eq_withUnsent`: messages with the same query differ in these fields only.
* `calls_eq`: if what the server reads of them is the same too, so is all that it asks for.
* `approval_covers_iff`: the server claims the same for both exactly then.
* `approved_for_others`: a proxy that is approved for its own user is run for everybody.
-/
import ChmlFrp.Server.HttpProxy
import Mathlib.Data.Finset.Dedup

namespace ChmlFrp.Server.Approval

set_option autoImplicit false

open ChmlFrp.Lib
open ChmlFrp.Config
open ChmlFrp.Vhost
open ChmlFrp.Server.HttpGroup (HTTPProxy listenDomains)

/-! ## The query -/

/-- A value before it is encoded; the encodings of JSON and of URLs are injective. -/
inductive Param where
  | text (s : GoString)
  | array (elems : List GoString)
  | object (entries : List (GoString × GoString))
  deriving DecidableEq, Repr

def boolToString (val : Bool) : GoString :=
  if val then GoString.lit "true" else GoString.lit "false"

/-- The `url.Values` that `CheckProxy` sends. -/
def checkProxyQuery (user : GoString) (pMsg : NewProxy) (timestamp : Int) (stk : GoString) :
    List (GoString × Param) :=
  [(GoString.lit "action", .text (GoString.lit "checkproxy")),
    (GoString.lit "user", .text user),
    (GoString.lit "timestamp", .text (GoString.itoa timestamp)),
    (GoString.lit "apitoken", .text stk),
    (GoString.lit "proxy_name", .text pMsg.proxyName),
    (GoString.lit "proxy_type", .text pMsg.proxyType),
    (GoString.lit "use_encryption", .text (boolToString pMsg.useEncryption)),
    (GoString.lit "use_compression", .text (boolToString pMsg.useCompression)),
    (GoString.lit "domain", .array pMsg.customDomains),
    (GoString.lit "subdomain", .text pMsg.subDomain),
    (GoString.lit "locations", .array pMsg.locations),
    (GoString.lit "http_user", .text pMsg.httpUser),
    (GoString.lit "http_pwd", .text pMsg.httpPwd),
    (GoString.lit "host_header_rewrite", .text pMsg.hostHeaderRewrite),
    (GoString.lit "headers", .object pMsg.headers),
    (GoString.lit "remote_port", .text (GoString.itoa pMsg.remotePort)),
    (GoString.lit "sk", .text pMsg.sk),
    (GoString.lit "group", .text pMsg.group),
    (GoString.lit "group_key", .text pMsg.groupKey)]

theorem boolToString_injective {a b : Bool} (same : boolToString a = boolToString b) :
    a = b := by
  revert a b
  decide

/-- The fields of a message that are not in the query. -/
structure Unsent where
  bandwidthLimit : GoString
  bandwidthLimitMode : GoString
  metas : List (GoString × GoString)
  routeByHTTPUser : GoString
  allowUsers : List GoString
  multiplexer : GoString

def unsent (m : NewProxy) : Unsent :=
  ⟨m.bandwidthLimit, m.bandwidthLimitMode, m.metas, m.routeByHTTPUser, m.allowUsers,
    m.multiplexer⟩

def withUnsent (m : NewProxy) (u : Unsent) : NewProxy :=
  { m with
    bandwidthLimit := u.bandwidthLimit
    bandwidthLimitMode := u.bandwidthLimitMode
    metas := u.metas
    routeByHTTPUser := u.routeByHTTPUser
    allowUsers := u.allowUsers
    multiplexer := u.multiplexer }

/-- Messages with the same query are the same but for what is not in it. -/
theorem eq_withUnsent {user : GoString} {m m' : NewProxy} {timestamp timestamp' : Int}
    {stk stk' : GoString}
    (same : checkProxyQuery user m timestamp stk = checkProxyQuery user m' timestamp' stk') :
    m' = withUnsent m (unsent m') := by
  simp only [checkProxyQuery, List.cons.injEq, Prod.mk.injEq, Param.text.injEq,
    Param.array.injEq, Param.object.injEq, true_and, and_true] at same
  obtain ⟨-, -, proxyName, proxyType, encryption, compression, domains, subDomain, locations,
    httpUser, httpPwd, rewrite, headers, port, sk, group, groupKey⟩ := same
  have useEncryption := boolToString_injective encryption
  have useCompression := boolToString_injective compression
  have remotePort := GoString.itoa_injective port
  cases m
  cases m'
  unfold withUnsent unsent
  congr 1 <;> exact Eq.symm ‹_›

/-! ## The runs -/

/-- What a `Run` asks of the resource controller. -/
inductive Call where
  | tcpAcquire (name : GoString) (port : Int)
  | tcpGroupListen (name group groupKey : GoString) (port : Int)
  | udpAcquire (name : GoString) (port : Int)
  | httpRegister (routeConfig : RouteConfig)
  | httpGroupRegister (name group groupKey : GoString) (routeConfig : RouteConfig)
  | httpsListen (routeConfig : RouteConfig)
  | tcpMuxListen (routeConfig : RouteConfig)
  | tcpMuxGroupListen (multiplexer group groupKey : GoString) (routeConfig : RouteConfig)
  | visitorListen (name sk : GoString) (allowUsers : List GoString)
  | natHoleListen (name sk : GoString) (allowUsers : List GoString)
  deriving DecidableEq, Repr

/-- `vhost.RouteConfig{}` with a domain. -/
def domainRoute (domain : GoString) : RouteConfig where
  addr := 0
  domain := domain
  location := []
  rewriteHost := []
  username := []
  password := []
  headers := []
  routeByHTTPUser := []
  createConnFn := none
  chooseEndpointFn := none
  createConnByEndpointFn := none

/-- The users that a list admits: an empty one stands for the proxy's own user. -/
def admitted (user : GoString) (allowUsers : List GoString) : List GoString :=
  if allowUsers = [] then [user] else allowUsers

section Run

variable (serverCfg : ServerCommonConf) (user : GoString)

def TCPProxy.run (cfg : TCPProxyConf) : List Call :=
  if cfg.group ≠ [] then
    [.tcpGroupListen cfg.proxyName cfg.group cfg.groupKey cfg.remotePort]
  else [.tcpAcquire cfg.proxyName cfg.remotePort]

def UDPProxy.run (cfg : UDPProxyConf) : List Call :=
  [.udpAcquire cfg.proxyName cfg.remotePort]

/-- The routes of `HTTPProxy.Run`. -/
def HTTPProxy.calls (cfg : HTTPProxyConf) : List Call :=
  (HTTPProxy.mk cfg.proxyName cfg serverCfg 0).routes.map fun routeConfig =>
    if cfg.group ≠ [] then
      .httpGroupRegister cfg.proxyName cfg.group cfg.groupKey routeConfig
    else .httpRegister routeConfig

def HTTPSProxy.run (cfg : HTTPSProxyConf) : List Call :=
  (listenDomains cfg.toDomainConf serverCfg).map fun domain => .httpsListen (domainRoute domain)

def TCPMuxProxy.httpConnectListen (cfg : TCPMuxProxyConf) (domain : GoString) : Call :=
  let routeConfig : RouteConfig :=
    { domainRoute domain with
      routeByHTTPUser := cfg.routeByHTTPUser
      username := cfg.httpUser
      password := cfg.httpPwd }
  if cfg.group ≠ [] then
    .tcpMuxGroupListen cfg.multiplexer cfg.group cfg.groupKey routeConfig
  else .tcpMuxListen routeConfig

/-- A multiplexer that is not known is an error, before any call. -/
def TCPMuxProxy.run (cfg : TCPMuxProxyConf) : List Call :=
  if cfg.multiplexer = httpConnectTCPMultiplexer then
    (listenDomains cfg.toDomainConf serverCfg).map (TCPMuxProxy.httpConnectListen cfg)
  else []

/-- The `Run` of a proxy that only visitors use. -/
def runForVisitors (listen : GoString → GoString → List GoString → Call)
    (base : BaseProxyConf) (cfg : RoleServerCommonConf) : List Call :=
  [listen base.proxyName cfg.sk (admitted user cfg.allowUsers)]

def STCPProxy.run (cfg : STCPProxyConf) : List Call :=
  runForVisitors user .visitorListen cfg.toBaseProxyConf cfg.toRoleServerCommonConf

def XTCPProxy.run (cfg : XTCPProxyConf) : List Call :=
  runForVisitors user .natHoleListen cfg.toBaseProxyConf cfg.toRoleServerCommonConf

def SUDPProxy.run (cfg : SUDPProxyConf) : List Call :=
  runForVisitors user .visitorListen cfg.toBaseProxyConf cfg.toRoleServerCommonConf

def calls : ProxyConf → List Call
  | .tcp cfg => TCPProxy.run cfg
  | .tcpMux cfg => TCPMuxProxy.run serverCfg cfg
  | .udp cfg => UDPProxy.run cfg
  | .http cfg => HTTPProxy.calls serverCfg cfg
  | .https cfg => HTTPSProxy.run serverCfg cfg
  | .stcp cfg => STCPProxy.run user cfg
  | .xtcp cfg => XTCPProxy.run user cfg
  | .sudp cfg => SUDPProxy.run user cfg

end Run

/-! ## What the server claims -/

namespace Call

def port : Call → Option Int
  | .tcpAcquire _ port => some port
  | .tcpGroupListen _ _ _ port => some port
  | .udpAcquire _ port => some port
  | _ => none

def routeConfig : Call → Option RouteConfig
  | .httpRegister routeConfig => some routeConfig
  | .httpGroupRegister _ _ _ routeConfig => some routeConfig
  | .httpsListen routeConfig => some routeConfig
  | .tcpMuxListen routeConfig => some routeConfig
  | .tcpMuxGroupListen _ _ _ routeConfig => some routeConfig
  | _ => none

/-- Domain, location and user. -/
def route (call : Call) : Option (GoString × GoString × GoString) :=
  call.routeConfig.map fun r => (r.domain, r.location, r.routeByHTTPUser)

def allowUsers : Call → Option (List GoString)
  | .visitorListen _ _ allowUsers => some allowUsers
  | .natHoleListen _ _ allowUsers => some allowUsers
  | _ => none

end Call

structure Resources where
  remotePort : Option Int
  routes : Finset (GoString × GoString × GoString)
  multiplexer : Option GoString
  allowUsers : Option (List GoString)
  /-- The bytes, and the side that keeps to them. -/
  bandwidthLimit : Int × GoString
  deriving DecidableEq

def multiplexer : ProxyConf → Option GoString
  | .tcpMux cfg => some cfg.multiplexer
  | _ => none

def resources (serverCfg : ServerCommonConf) (user : GoString) (conf : ProxyConf) :
    Resources where
  remotePort := (calls serverCfg user conf).findSome? Call.port
  routes := ((calls serverCfg user conf).filterMap Call.route).toFinset
  multiplexer := multiplexer conf
  allowUsers := (calls serverCfg user conf).findSome? Call.allowUsers
  bandwidthLimit :=
    (conf.getBaseConfig.bandwidthLimit.i, conf.getBaseConfig.bandwidthLimitMode)

section Claims

variable (parse : GoString → Nat → Except GoString Int) (serverCfg : ServerCommonConf)
variable (user : GoString)

/-- `RegisterProxy`, from the answer of the panel on; nothing is claimed for a message
that is refused. -/
def claims (m : NewProxy) : Option Resources :=
  match newProxyConfFromMsg parse m serverCfg with
  | .ok conf => some (resources serverCfg user conf)
  | .error _ => none

def Accepted (m : NewProxy) : Prop := ∃ conf, newProxyConfFromMsg parse m serverCfg = .ok conf

end Claims

/-! ## What the query leaves out -/

/-- What the server reads of a message and the query does not carry. -/
@[ext] structure LeftOut where
  bandwidthLimit : Int
  bandwidthLimitMode : GoString
  multiplexer : Option GoString := none
  routeByHTTPUser : Option GoString := none
  allowUsers : Option (List GoString) := none
  deriving DecidableEq, Repr

/-- The user of the routes, if there is a domain to route. -/
def routeUser (m : NewProxy) : Option GoString :=
  if m.customDomains.any (· ≠ []) ∨ m.subDomain ≠ [] then some m.routeByHTTPUser else none

/-- What is left out of a message for a proxy of the type of `conf`. -/
def leftOutOf (parse : GoString → Nat → Except GoString Int) (user : GoString) (m : NewProxy)
    (conf : Option ProxyConf) : LeftOut :=
  let base : LeftOut :=
    { bandwidthLimit := (BandwidthQuantity.newBandwidthQuantity parse m.bandwidthLimit).1.i
      bandwidthLimitMode :=
        if m.bandwidthLimitMode ≠ [] then m.bandwidthLimitMode else bandwidthLimitModeClient }
  match conf with
  | some (.tcpMux _) =>
      { base with multiplexer := some m.multiplexer, routeByHTTPUser := routeUser m }
  | some (.http _) => { base with routeByHTTPUser := routeUser m }
  | some (.stcp _) | some (.xtcp _) | some (.sudp _) =>
      { base with allowUsers := some (admitted user m.allowUsers) }
  | _ => base

def leftOut (parse : GoString → Nat → Except GoString Int) (user : GoString) (m : NewProxy) :
    LeftOut :=
  leftOutOf parse user m (defaultProxyConf m.withType.proxyType)

section Twins

variable {parse : GoString → Nat → Except GoString Int} {serverCfg : ServerCommonConf}
variable {user : GoString} {m : NewProxy}

theorem withType_withUnsent (m : NewProxy) (u : Unsent) :
    (withUnsent m u).withType = withUnsent m.withType u := by
  unfold NewProxy.withType withUnsent
  split <;> rfl

/-- The defaults of all types agree in the limit and its mode. -/
theorem base_of_default {proxyType : GoString} {zero : ProxyConf}
    (known : defaultProxyConf proxyType = some zero) :
    zero.getBaseConfig = BaseProxyConf.setDefaultValues {} := by
  have all : ∀ entry ∈ proxyConfTypeMap,
      entry.2.setDefaultValues.getBaseConfig = BaseProxyConf.setDefaultValues {} := by
    decide
  obtain ⟨conf, listed, rfl⟩ := Option.map_eq_some_iff.1 known
  obtain ⟨front, back, list, -⟩ := List.lookup_eq_some_iff.1 listed
  rw [list] at all
  exact all _ (List.mem_append_right front List.mem_cons_self)

theorem getBaseConfig_unmarshalFromMsg (conf : ProxyConf) :
    (conf.unmarshalFromMsg parse m).getBaseConfig =
      conf.getBaseConfig.unmarshalFromMsg parse m := by
  cases conf <;> rfl

/-- The limit and its mode, as the server reads them. -/
theorem limit_received (parse : GoString → Nat → Except GoString Int) (user : GoString)
    (m : NewProxy) {zero : ProxyConf}
    (base : zero.getBaseConfig = BaseProxyConf.setDefaultValues {}) :
    let received := (zero.unmarshalFromMsg parse m).getBaseConfig
    (received.bandwidthLimit.i, received.bandwidthLimitMode) =
      ((leftOutOf parse user m (some zero)).bandwidthLimit,
        (leftOutOf parse user m (some zero)).bandwidthLimitMode) := by
  have limit : (leftOutOf parse user m (some zero)).bandwidthLimit =
      (BandwidthQuantity.newBandwidthQuantity parse m.bandwidthLimit).1.i := by
    cases zero <;> rfl
  have mode : (leftOutOf parse user m (some zero)).bandwidthLimitMode =
      if m.bandwidthLimitMode ≠ [] then m.bandwidthLimitMode
      else bandwidthLimitModeClient := by
    cases zero <;> rfl
  rw [limit, mode]
  dsimp only
  rw [getBaseConfig_unmarshalFromMsg, base]
  unfold BaseProxyConf.unmarshalFromMsg
  dsimp only
  congr 1
  by_cases text : m.bandwidthLimit = []
  · rw [text]
    rfl
  · rw [if_pos text]

theorem leftOut_multiplexer (zero : ProxyConf) :
    (leftOutOf parse user m (some zero)).multiplexer =
      multiplexer (zero.unmarshalFromMsg parse m) := by
  cases zero <;> rfl

theorem listenDomains_ne_nil_iff {cfg : DomainConf} :
    listenDomains cfg serverCfg ≠ [] ↔
      cfg.customDomains.any (· ≠ []) ∨ cfg.subDomain ≠ [] := by
  unfold listenDomains
  by_cases sub : cfg.subDomain = []
  · simp [sub]
  · simp [sub]

theorem routeUser_eq_some (serverCfg : ServerCommonConf) {x : GoString} :
    routeUser m = some x ↔
      listenDomains ⟨m.customDomains, m.subDomain⟩ serverCfg ≠ [] ∧ x = m.routeByHTTPUser := by
  rw [listenDomains_ne_nil_iff]
  unfold routeUser
  split
  · rename_i listed
    rw [Option.some.injEq]
    exact ⟨fun same => ⟨listed, same.symm⟩, fun both => both.2.symm⟩
  · rename_i silent
    exact ⟨fun none => (nomatch none), fun both => absurd both.1 silent⟩

/-- With the same user for the routes, either the users are the same or there is no route. -/
theorem user_eq_or_silent {m' : NewProxy} (serverCfg : ServerCommonConf)
    (same : routeUser m = routeUser m') :
    m.routeByHTTPUser = m'.routeByHTTPUser ∨
      listenDomains ⟨m.customDomains, m.subDomain⟩ serverCfg = [] := by
  by_cases silent : listenDomains ⟨m.customDomains, m.subDomain⟩ serverCfg = []
  · exact .inr silent
  · have user : routeUser m = some m.routeByHTTPUser :=
      (routeUser_eq_some serverCfg).2 ⟨silent, rfl⟩
    rw [same] at user
    exact .inl ((routeUser_eq_some serverCfg).1 user).2

/-! ## From what is left out to what is claimed -/

/-- Both messages pass the server's checks, or fail them with the same error. -/
theorem validate_eq {zero : ProxyConf} {u : Unsent}
    (base : zero.getBaseConfig = BaseProxyConf.setDefaultValues {})
    (same : leftOutOf parse user m (some zero) =
      leftOutOf parse user (withUnsent m u) (some zero)) :
    (zero.unmarshalFromMsg parse m).validateForServer serverCfg =
      (zero.unmarshalFromMsg parse (withUnsent m u)).validateForServer serverCfg := by
  have limits := limit_received parse user m base
  rw [same, ← limit_received parse user _ base] at limits
  have check : (zero.unmarshalFromMsg parse m).getBaseConfig.validateForServer =
      (zero.unmarshalFromMsg parse (withUnsent m u)).getBaseConfig.validateForServer := by
    unfold BaseProxyConf.validateForServer BaseProxyConf.validateMode
    rw [(Prod.mk.inj limits).2]
  cases zero with
  | tcp cfg => exact check
  | udp cfg => exact check
  | stcp cfg => exact check
  | xtcp cfg => exact check
  | sudp cfg => exact check
  | tcpMux cfg =>
      have mux : m.multiplexer = u.multiplexer :=
        Option.some.inj (congrArg LeftOut.multiplexer same)
      show TCPMuxProxyConf.validateForServer _ _ = TCPMuxProxyConf.validateForServer _ _
      have check : (cfg.unmarshalFromMsg parse m).toBaseProxyConf.validateForServer =
          (cfg.unmarshalFromMsg parse (withUnsent m u)).toBaseProxyConf.validateForServer :=
        check
      have read : (cfg.unmarshalFromMsg parse m).multiplexer =
          (cfg.unmarshalFromMsg parse (withUnsent m u)).multiplexer := mux
      unfold TCPMuxProxyConf.validateForServer
      rw [check, read]
      rfl
  | http cfg =>
      show HTTPProxyConf.validateForServer _ _ = HTTPProxyConf.validateForServer _ _
      have check : (cfg.unmarshalFromMsg parse m).toBaseProxyConf.validateForServer =
          (cfg.unmarshalFromMsg parse (withUnsent m u)).toBaseProxyConf.validateForServer :=
        check
      unfold HTTPProxyConf.validateForServer
      rw [check]
      rfl
  | https cfg =>
      show HTTPSProxyConf.validateForServer _ _ = HTTPSProxyConf.validateForServer _ _
      have check : (cfg.unmarshalFromMsg parse m).toBaseProxyConf.validateForServer =
          (cfg.unmarshalFromMsg parse (withUnsent m u)).toBaseProxyConf.validateForServer :=
        check
      unfold HTTPSProxyConf.validateForServer
      rw [check]
      rfl

/-- **Calls.** All that a `Run` asks for is the same, down to the headers and passwords. -/
theorem calls_eq {zero : ProxyConf} {u : Unsent}
    (same : leftOutOf parse user m (some zero) =
      leftOutOf parse user (withUnsent m u) (some zero)) :
    calls serverCfg user (zero.unmarshalFromMsg parse m) =
      calls serverCfg user (zero.unmarshalFromMsg parse (withUnsent m u)) := by
  obtain ⟨limit, mode, metas, routeByHTTPUser, allowUsers, mux⟩ := u
  have forVisitors : ∀ listen : GoString → GoString → List GoString → Call,
      admitted user m.allowUsers = admitted user allowUsers →
        [listen m.proxyName m.sk (admitted user m.allowUsers)] =
          [listen m.proxyName m.sk (admitted user allowUsers)] := by
    intro listen users
    rw [users]
  cases zero with
  | tcp cfg => rfl
  | udp cfg => rfl
  | https cfg => rfl
  | stcp cfg => exact forVisitors _ (Option.some.inj (congrArg LeftOut.allowUsers same))
  | xtcp cfg => exact forVisitors _ (Option.some.inj (congrArg LeftOut.allowUsers same))
  | sudp cfg => exact forVisitors _ (Option.some.inj (congrArg LeftOut.allowUsers same))
  | http cfg =>
      rcases user_eq_or_silent serverCfg (congrArg LeftOut.routeByHTTPUser same) with eq | silent
      · subst eq
        rfl
      · show List.map _ (List.flatMap _ (listenDomains ⟨m.customDomains, m.subDomain⟩ _)) =
          List.map _ (List.flatMap _ (listenDomains ⟨m.customDomains, m.subDomain⟩ _))
        rw [silent]
        rfl
  | tcpMux cfg =>
      obtain rfl : m.multiplexer = mux :=
        Option.some.inj (congrArg LeftOut.multiplexer same)
      rcases user_eq_or_silent serverCfg (congrArg LeftOut.routeByHTTPUser same) with eq | silent
      · subst eq
        rfl
      · show ite _ (List.map _ (listenDomains ⟨m.customDomains, m.subDomain⟩ _)) _ =
          ite _ (List.map _ (listenDomains ⟨m.customDomains, m.subDomain⟩ _)) _
        rw [silent]
        rfl

theorem resources_eq {zero : ProxyConf} {u : Unsent}
    (base : zero.getBaseConfig = BaseProxyConf.setDefaultValues {})
    (same : leftOutOf parse user m (some zero) =
      leftOutOf parse user (withUnsent m u) (some zero)) :
    resources serverCfg user (zero.unmarshalFromMsg parse m) =
      resources serverCfg user (zero.unmarshalFromMsg parse (withUnsent m u)) := by
  have limits := limit_received parse user m base
  rw [same, ← limit_received parse user _ base] at limits
  have muxes := congrArg LeftOut.multiplexer same
  rw [leftOut_multiplexer, leftOut_multiplexer] at muxes
  unfold resources
  rw [calls_eq same, muxes]
  congr 1

/-! ## From what is claimed to what is left out -/

theorem findSome_map_eq_none {α β γ : Type} {f : α → β} {g : β → Option γ}
    (clear : ∀ a, g (f a) = none) (list : List α) : (list.map f).findSome? g = none := by
  rw [List.findSome?_eq_none_iff]
  intro b mem
  obtain ⟨a, -, rfl⟩ := List.mem_map.1 mem
  exact clear a

theorem leftOut_allowUsers (serverCfg : ServerCommonConf) (zero : ProxyConf) :
    (leftOutOf parse user m (some zero)).allowUsers =
      (resources serverCfg user (zero.unmarshalFromMsg parse m)).allowUsers := by
  cases zero with
  | stcp cfg => rfl
  | xtcp cfg => rfl
  | sudp cfg => rfl
  | udp cfg => rfl
  | tcp cfg =>
      show none = List.findSome? _ (TCPProxy.run _)
      unfold TCPProxy.run
      split <;> rfl
  | https cfg =>
      symm
      apply findSome_map_eq_none
      intro domain
      rfl
  | http cfg =>
      symm
      apply findSome_map_eq_none
      intro routeConfig
      split <;> rfl
  | tcpMux cfg =>
      symm
      show List.findSome? _ (TCPMuxProxy.run _ _) = none
      unfold TCPMuxProxy.run
      split
      · apply findSome_map_eq_none
        intro domain
        unfold TCPMuxProxy.httpConnectListen
        dsimp only
        split <;> rfl
      · rfl

theorem mem_routes {conf : ProxyConf} {domain location x : GoString} :
    (domain, location, x) ∈ (resources serverCfg user conf).routes ↔
      ∃ call ∈ calls serverCfg user conf, call.route = some (domain, location, x) := by
  show (domain, location, x) ∈ List.toFinset _ ↔ _
  rw [List.mem_toFinset, List.mem_filterMap]

theorem http_routes {cfg : HTTPProxyConf} {x : GoString} :
    (∃ domain location, (domain, location, x) ∈ (resources serverCfg user (.http cfg)).routes) ↔
      listenDomains cfg.toDomainConf serverCfg ≠ [] ∧ x = cfg.routeByHTTPUser := by
  let pxy := HTTPProxy.mk cfg.proxyName cfg serverCfg 0
  have routed : ∀ r : RouteConfig, Call.route
      (if cfg.group ≠ [] then
        .httpGroupRegister cfg.proxyName cfg.group cfg.groupKey r
      else .httpRegister r) = some (r.domain, r.location, r.routeByHTTPUser) := by
    intro r
    split <;> rfl
  constructor
  · rintro ⟨domain, location, mem⟩
    obtain ⟨call, asked, route⟩ := mem_routes.1 mem
    obtain ⟨r, inRoutes, rfl⟩ := List.mem_map.1 asked
    obtain ⟨listed, inDomains, inLocations⟩ := List.mem_flatMap.1 inRoutes
    obtain ⟨place, -, rfl⟩ := List.mem_map.1 inLocations
    rw [routed] at route
    cases route
    exact ⟨List.ne_nil_of_mem inDomains, rfl⟩
  · rintro ⟨listed, rfl⟩
    obtain ⟨domain, inDomains⟩ := List.exists_mem_of_ne_nil _ listed
    have places : pxy.locations ≠ [] := by
      unfold HttpGroup.HTTPProxy.locations
      split
      · exact List.cons_ne_nil _ _
      · assumption
    obtain ⟨location, inLocations⟩ := List.exists_mem_of_ne_nil _ places
    have inRoutes : pxy.routeConfig domain location ∈ pxy.routes :=
      HttpGroup.mem_routes inDomains inLocations
    exact ⟨domain, location, mem_routes.2 ⟨_, List.mem_map_of_mem inRoutes, routed _⟩⟩

theorem tcpMux_routes {cfg : TCPMuxProxyConf} {x : GoString}
    (mux : cfg.multiplexer = httpConnectTCPMultiplexer) :
    (∃ domain location,
        (domain, location, x) ∈ (resources serverCfg user (.tcpMux cfg)).routes) ↔
      listenDomains cfg.toDomainConf serverCfg ≠ [] ∧ x = cfg.routeByHTTPUser := by
  have routed : ∀ domain, (TCPMuxProxy.httpConnectListen cfg domain).route =
      some (domain, [], cfg.routeByHTTPUser) := by
    intro domain
    unfold TCPMuxProxy.httpConnectListen
    dsimp only
    split <;> rfl
  have all : calls serverCfg user (.tcpMux cfg) =
      (listenDomains cfg.toDomainConf serverCfg).map (TCPMuxProxy.httpConnectListen cfg) :=
    if_pos mux
  constructor
  · rintro ⟨domain, location, mem⟩
    obtain ⟨call, asked, route⟩ := mem_routes.1 mem
    rw [all] at asked
    obtain ⟨listed, inDomains, rfl⟩ := List.mem_map.1 asked
    rw [routed] at route
    cases route
    exact ⟨List.ne_nil_of_mem inDomains, rfl⟩
  · rintro ⟨listed, rfl⟩
    obtain ⟨domain, inDomains⟩ := List.exists_mem_of_ne_nil _ listed
    refine ⟨domain, [], mem_routes.2 ⟨_, ?_, routed domain⟩⟩
    rw [all]
    exact List.mem_map_of_mem inDomains

theorem multiplexer_of_validate {cfg : TCPMuxProxyConf}
    (valid : cfg.validateForServer serverCfg = .ok ()) :
    cfg.multiplexer = httpConnectTCPMultiplexer := by
  by_contra wrong
  obtain ⟨_, -, rest⟩ := bind_eq_ok valid
  rw [if_pos wrong] at rest
  cases rest

/-- The user that is left out shows in the routes. -/
theorem leftOut_routeByHTTPUser {zero : ProxyConf} {m' : NewProxy}
    (valid : (zero.unmarshalFromMsg parse m).validateForServer serverCfg = .ok ())
    (valid' : (zero.unmarshalFromMsg parse m').validateForServer serverCfg = .ok ())
    (routes : (resources serverCfg user (zero.unmarshalFromMsg parse m)).routes =
      (resources serverCfg user (zero.unmarshalFromMsg parse m')).routes) :
    (leftOutOf parse user m (some zero)).routeByHTTPUser =
      (leftOutOf parse user m' (some zero)).routeByHTTPUser := by
  cases zero with
  | tcp cfg => rfl
  | udp cfg => rfl
  | https cfg => rfl
  | stcp cfg => rfl
  | xtcp cfg => rfl
  | sudp cfg => rfl
  | http cfg =>
      have shows : ∀ (n : NewProxy) (x : GoString), routeUser n = some x ↔ ∃ domain location,
          (domain, location, x) ∈
            (resources serverCfg user (.http (cfg.unmarshalFromMsg parse n))).routes := by
        intro n x
        rw [http_routes]
        exact routeUser_eq_some serverCfg
      apply Option.ext
      intro x
      exact (shows m x).trans (routes ▸ (shows m' x).symm)
  | tcpMux cfg =>
      have shows : ∀ (n : NewProxy) (x : GoString),
          (cfg.unmarshalFromMsg parse n).validateForServer serverCfg = .ok () →
            (routeUser n = some x ↔ ∃ domain location, (domain, location, x) ∈
              (resources serverCfg user (.tcpMux (cfg.unmarshalFromMsg parse n))).routes) := by
        intro n x valid
        rw [tcpMux_routes (multiplexer_of_validate valid)]
        exact routeUser_eq_some serverCfg
      apply Option.ext
      intro x
      exact (shows m x valid).trans (routes ▸ (shows m' x valid').symm)

/-- What is left out of two messages that pass the checks shows in what is claimed. -/
theorem leftOut_eq {zero : ProxyConf} {m' : NewProxy}
    (base : zero.getBaseConfig = BaseProxyConf.setDefaultValues {})
    (valid : (zero.unmarshalFromMsg parse m).validateForServer serverCfg = .ok ())
    (valid' : (zero.unmarshalFromMsg parse m').validateForServer serverCfg = .ok ())
    (same : resources serverCfg user (zero.unmarshalFromMsg parse m) =
      resources serverCfg user (zero.unmarshalFromMsg parse m')) :
    leftOutOf parse user m (some zero) = leftOutOf parse user m' (some zero) := by
  have limits := (limit_received parse user m base).symm.trans
    ((congrArg Resources.bandwidthLimit same).trans (limit_received parse user m' base))
  have muxes := congrArg Resources.multiplexer same
  have users := congrArg Resources.allowUsers same
  have routes := congrArg Resources.routes same
  apply LeftOut.ext
  · exact (Prod.mk.inj limits).1
  · exact (Prod.mk.inj limits).2
  · rw [leftOut_multiplexer, leftOut_multiplexer]
    exact muxes
  · exact leftOut_routeByHTTPUser valid valid' routes
  · rw [leftOut_allowUsers serverCfg, leftOut_allowUsers serverCfg]
    exact users

/-! ## Approval -/

theorem leftOutOf_withType (conf : Option ProxyConf) :
    leftOutOf parse user m.withType conf = leftOutOf parse user m conf := by
  unfold NewProxy.withType
  split <;> rfl

theorem proxyType_withUnsent (u : Unsent) :
    (withUnsent m u).withType.proxyType = m.withType.proxyType := by
  rw [withType_withUnsent]
  rfl

/-- A type that is not known is refused. -/
theorem refused_of_unknown (parse : GoString → Nat → Except GoString Int)
    (serverCfg : ServerCommonConf) (user : GoString)
    (unknown : defaultProxyConf m.withType.proxyType = none) :
    claims parse serverCfg user m = none ∧ ¬ Accepted parse serverCfg m := by
  have refused : ∃ err, newProxyConfFromMsg parse m serverCfg = .error err := by
    unfold newProxyConfFromMsg
    dsimp only
    rw [unknown]
    exact ⟨_, rfl⟩
  obtain ⟨err, refused⟩ := refused
  refine ⟨?_, ?_⟩
  · unfold claims
    rw [refused]
  · rintro ⟨conf, accepted⟩
    rw [refused] at accepted
    cases accepted

/-- A message of a known type is accepted if it passes the checks, and then the resources
of its configuration are claimed. -/
theorem accepted_or_refused (parse : GoString → Nat → Except GoString Int)
    (serverCfg : ServerCommonConf) (user : GoString) {zero : ProxyConf}
    (known : defaultProxyConf m.withType.proxyType = some zero) :
    let conf := zero.unmarshalFromMsg parse m.withType
    (conf.validateForServer serverCfg = .ok () ∧ Accepted parse serverCfg m ∧
        claims parse serverCfg user m = some (resources serverCfg user conf)) ∨
      (conf.validateForServer serverCfg ≠ .ok () ∧ ¬ Accepted parse serverCfg m ∧
        claims parse serverCfg user m = none) := by
  intro conf
  have read : newProxyConfFromMsg parse m serverCfg =
      (conf.validateForServer serverCfg).map fun _ => conf := newProxyConfFromMsg_of_default known
  cases valid : conf.validateForServer serverCfg with
  | ok _ =>
      have taken : newProxyConfFromMsg parse m serverCfg = .ok conf := by
        rw [read, valid]
        rfl
      refine .inl ⟨rfl, ⟨conf, taken⟩, ?_⟩
      unfold claims
      rw [taken]
  | error err =>
      have refused : newProxyConfFromMsg parse m serverCfg = .error err := by
        rw [read, valid]
        rfl
      refine .inr ⟨?_, ?_, ?_⟩
      · intro passed
        cases passed
      · rintro ⟨other, accepted⟩
        rw [refused] at accepted
        cases accepted
      · unfold claims
        rw [refused]

theorem leftOut_of_known {zero : ProxyConf}
    (known : defaultProxyConf m.withType.proxyType = some zero) :
    leftOut parse user m = leftOutOf parse user m.withType (some zero) := by
  rw [leftOutOf_withType, leftOut, known]

theorem claims_eq_iff_of_known {zero : ProxyConf}
    (known : defaultProxyConf m.withType.proxyType = some zero) (u : Unsent) :
    claims parse serverCfg user m = claims parse serverCfg user (withUnsent m u) ↔
      (Accepted parse serverCfg m ∨ Accepted parse serverCfg (withUnsent m u) →
        leftOut parse user m = leftOut parse user (withUnsent m u)) := by
  have known' : defaultProxyConf (withUnsent m u).withType.proxyType = some zero := by
    rw [proxyType_withUnsent, known]
  have base := base_of_default known
  rw [leftOut_of_known known, leftOut_of_known known', withType_withUnsent]
  have fate := accepted_or_refused parse serverCfg user known
  have fate' := accepted_or_refused parse serverCfg user known'
  rw [withType_withUnsent] at fate'
  constructor
  · intro claimed accepted
    rcases fate with ⟨valid, taken, some⟩ | ⟨-, refused, nothing⟩
    · rcases fate' with ⟨valid', -, some'⟩ | ⟨-, -, nothing'⟩
      · rw [some, some'] at claimed
        exact leftOut_eq base valid valid' (Option.some.inj claimed)
      · rw [some, nothing'] at claimed
        cases claimed
    · rcases fate' with ⟨-, -, some'⟩ | ⟨-, refused', -⟩
      · rw [nothing, some'] at claimed
        cases claimed
      · exact absurd accepted (not_or.2 ⟨refused, refused'⟩)
  · intro agrees
    rcases fate with ⟨valid, taken, some⟩ | ⟨invalid, -, nothing⟩
    · have agree := agrees (.inl taken)
      rcases fate' with ⟨-, -, some'⟩ | ⟨invalid', -, -⟩
      · rw [some, some', resources_eq base agree]
      · exact absurd (validate_eq base agree ▸ valid) invalid'
    · rcases fate' with ⟨valid', taken', -⟩ | ⟨-, -, nothing'⟩
      · have agree := agrees (.inr taken')
        exact absurd ((validate_eq base agree).trans valid') invalid
      · rw [nothing, nothing']

/-- **Approval.** Of two messages with the same query, the server claims the same exactly
if it refuses both or reads the same in what the query leaves out. -/
theorem approval_covers_iff (parse : GoString → Nat → Except GoString Int)
    (serverCfg : ServerCommonConf) (user : GoString) (m m' : NewProxy)
    (timestamp timestamp' : Int) (stk stk' : GoString)
    (same : checkProxyQuery user m timestamp stk = checkProxyQuery user m' timestamp' stk') :
    claims parse serverCfg user m = claims parse serverCfg user m' ↔
      (Accepted parse serverCfg m ∨ Accepted parse serverCfg m' →
        leftOut parse user m = leftOut parse user m') := by
  obtain ⟨u, rfl⟩ : ∃ u, m' = withUnsent m u := ⟨_, eq_withUnsent same⟩
  cases known : defaultProxyConf m.withType.proxyType with
  | none =>
      have known' : defaultProxyConf (withUnsent m u).withType.proxyType = none := by
        rw [proxyType_withUnsent, known]
      obtain ⟨nothing, refused⟩ := refused_of_unknown parse serverCfg user known
      obtain ⟨nothing', refused'⟩ := refused_of_unknown parse serverCfg user known'
      rw [nothing, nothing']
      exact ⟨fun _ accepted => absurd accepted (not_or.2 ⟨refused, refused'⟩), fun _ => rfl⟩
  | some zero => exact claims_eq_iff_of_known known u

/-- A site with a limit of one megabyte. -/
def site : NewProxy where
  proxyName := GoString.lit "alice.web"
  proxyType := GoString.lit "http"
  bandwidthLimit := GoString.lit "1MB"
  customDomains := [GoString.lit "www.example.com"]

/-- The same limit in other words, for the same site. -/
def siteAgain : NewProxy :=
  { site with
    bandwidthLimit := GoString.lit " 1024KB"
    bandwidthLimitMode := GoString.lit "client"
    allowUsers := [GoString.lit "bob"]
    metas := [(GoString.lit "note", GoString.lit "again")] }

theorem site_covers_siteAgain :
    claims parseDigits ⟨80, 443, 1337, []⟩ (GoString.lit "alice") site =
      claims parseDigits ⟨80, 443, 1337, []⟩ (GoString.lit "alice") siteAgain :=
  (approval_covers_iff parseDigits ⟨80, 443, 1337, []⟩ (GoString.lit "alice") site siteAgain
    1700000000 1700000000 (GoString.lit "stk") (GoString.lit "stk") rfl).2 fun _ => by decide

end Twins

/-! ## An approval that admits another proxy -/

/-- A secret proxy for the user's own visitors. -/
def secret : NewProxy where
  proxyName := GoString.lit "alice.ssh"
  proxyType := GoString.lit "stcp"
  sk := GoString.lit "abc"

/-- The same for the visitors of all users. -/
def shared : NewProxy := { secret with allowUsers := [GoString.lit "*"] }

/-- The panel sees no difference; the server admits alice to one and everybody to the
other. -/
theorem approved_for_others :
    (∀ timestamp stk, checkProxyQuery (GoString.lit "alice") secret timestamp stk =
      checkProxyQuery (GoString.lit "alice") shared timestamp stk) ∧
    (claims parseDigits ⟨80, 443, 1337, []⟩ (GoString.lit "alice") secret).map
      Resources.allowUsers = some (some [GoString.lit "alice"]) ∧
    (claims parseDigits ⟨80, 443, 1337, []⟩ (GoString.lit "alice") shared).map
      Resources.allowUsers = some (some [GoString.lit "*"]) :=
  ⟨fun _ _ => rfl, by decide, by decide⟩

end ChmlFrp.Server.Approval
