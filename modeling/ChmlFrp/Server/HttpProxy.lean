/-
# ChmlFrp.Server.HttpProxy — an http proxy and the requests for its custom domains

`server/proxy/http.go`.  `Run` registers a route under every custom domain and location
and under the subdomain, in the router or with the group of the proxy.  It registers the
domains as they are written; a request is looked up by `CanonicalHost` of its `Host`.

* `run_spec`: after a `Run` that succeeds, the routes of the proxy are in the router.
* `custom_domain_routed_iff`: the requests for the names of a custom domain get to it
  exactly if the domain is written in canonical spelling and has two labels after `*.`.
* `custom_domain_unreachable`: a domain with a capital letter, and one with one label.
-/
import ChmlFrp.Config.Proxy
import ChmlFrp.Server.HttpGroup
import ChmlFrp.Vhost.Names

namespace ChmlFrp.Server.HttpGroup

set_option autoImplicit false

open ChmlFrp.Lib
open ChmlFrp.Lib.Transition
open ChmlFrp.Config
open ChmlFrp.Vhost

structure HTTPProxy where
  name : GoString
  cfg : HTTPProxyConf
  serverCfg : ServerCommonConf
  getRealConn : Nat

/-- `net.JoinHostPort` -/
def joinHostPort (host port : GoString) : GoString :=
  if GoString.colon ∈ host then
    GoString.openBracket :: host ++ [GoString.closeBracket, GoString.colon] ++ port
  else host ++ GoString.colon :: port

/-- `util.CanonicalAddr` -/
def canonicalAddr (host : GoString) (port : Int) : GoString :=
  if port = 80 ∨ port = 443 then host else joinHostPort host (GoString.itoa port)

/-- The domains over which a `Run` goes: empty ones are skipped. -/
def listenDomains (cfg : DomainConf) (serverCfg : ServerCommonConf) : List GoString :=
  cfg.customDomains.filter (· ≠ []) ++
    if cfg.subDomain = [] then [] else [cfg.subDomain ++ GoString.dot :: serverCfg.subDomainHost]

namespace HTTPProxy

variable (pxy : HTTPProxy)

def locations : List GoString :=
  if pxy.cfg.locations = [] then [[]] else pxy.cfg.locations

def domains : List GoString := listenDomains pxy.cfg.toDomainConf pxy.serverCfg

/-- `routeConfig` for a domain and location; nothing here reads the address. -/
def routeConfig (domain location : GoString) : RouteConfig where
  addr := 0
  domain := domain
  location := location
  rewriteHost := pxy.cfg.hostHeaderRewrite
  username := pxy.cfg.httpUser
  password := pxy.cfg.httpPwd
  headers := pxy.cfg.headers
  routeByHTTPUser := pxy.cfg.routeByHTTPUser
  createConnFn := some pxy.getRealConn
  chooseEndpointFn := none
  createConnByEndpointFn := none

def routes : List RouteConfig :=
  pxy.domains.flatMap fun domain => pxy.locations.map (pxy.routeConfig domain)

/-- One turn of the loops of `Run`. -/
def register (s : State) (routeConfig : RouteConfig) : State × Option Err :=
  if pxy.cfg.group ≠ [] then
    let (g, s) := s.await.lookup pxy.cfg.group
    match s.register ⟨g, pxy.name, pxy.cfg.group, pxy.cfg.groupKey, routeConfig⟩ with
    | .error err => (s, some err)
    | .ok s => (s, none)
  else
    match s.add routeConfig with
    | .error err => (s, some err)
    | .ok s => (s, none)

/-- One of the `closeFuncs`. -/
def unRegister (s : State) (routeConfig : RouteConfig) : State :=
  if pxy.cfg.group ≠ [] then (s.await.unRegister pxy.name pxy.cfg.group).await
  else
    { s with
      vhostRouter := s.vhostRouter.del routeConfig.domain routeConfig.location
        routeConfig.routeByHTTPUser }

/-- The loops of `Run`; an error closes the proxy. -/
def registerAll : State → List RouteConfig → List RouteConfig → State × Option Err
  | s, _, [] => (s, none)
  | s, done, routeConfig :: rest =>
      match pxy.register s routeConfig with
      | (s, some err) => (done.foldl pxy.unRegister s, some err)
      | (s, none) => registerAll s (done ++ [routeConfig]) rest

/-- `HTTPProxy.Run` -/
def run (s : State) : State × Except Err GoString :=
  match pxy.registerAll s [] pxy.routes with
  | (s, some err) => (s, .error err)
  | (s, none) =>
      let addrs := pxy.routes.map fun routeConfig =>
        canonicalAddr routeConfig.domain pxy.serverCfg.vhostHTTPPort
      (s, .ok ([44].intercalate addrs))

end HTTPProxy

/-! ## What `Run` leaves -/

variable {s t : State} {pxy : HTTPProxy}

/-- A call that only registers: routes and members stay. -/
structure Grows (s t : State) : Prop where
  inv : Inv t
  table : ∀ domain location user payload, s.table domain location user = some payload →
    t.table domain location user = some payload
  members : ∀ g proxyName, ((s.heap g).createFuncs.get proxyName).isSome →
    ((t.heap g).createFuncs.get proxyName).isSome ∧ (t.heap g).group = (s.heap g).group

theorem Grows.refl (inv : Inv s) : Grows s s :=
  ⟨inv, fun _ _ _ _ route => route, fun _ _ member => ⟨member, rfl⟩⟩

theorem Grows.trans {u : State} (first : Grows s t) (second : Grows t u) : Grows s u where
  inv := second.inv
  table domain location user payload route :=
    second.table domain location user payload (first.table domain location user payload route)
  members g proxyName member := by
    obtain ⟨member', name⟩ := first.members g proxyName member
    obtain ⟨member'', name'⟩ := second.members g proxyName member'
    exact ⟨member'', name'.trans name⟩

theorem Inv.await (inv : Inv s) : Grows s s.await := by
  unfold State.await
  split
  · exact .refl inv
  · rename_i group removes
    exact ⟨inv.delete removes, fun _ _ _ _ route => route, fun _ _ member => ⟨member, rfl⟩⟩

theorem Inv.lookup_grows (inv : Inv s) {g : Nat} {group : GoString}
    (looks : s.lookup group = (g, t)) : Grows s t := by
  have spec := inv.looksUp looks
  refine ⟨inv.lookup looks, ?_, ?_⟩
  · intro domain location user payload route
    rw [State.table, spec.vhostRouter]
    exact route
  · intro g' proxyName member
    have less := (inv.live g' (not_isEmpty_of_member member)).1
    rw [(spec.old g' less).2]
    exact ⟨member, rfl⟩

theorem Table.set_of_free {α : Type} {table : Table α} {d l u d' l' u' : GoString} {p : α}
    {new : Option α} (free : table d l u = none) (entry : table d' l' u' = some p) :
    table.set d l u new d' l' u' = some p := by
  rw [Table.set, if_neg]
  · exact entry
  · rintro ⟨rfl, rfl, rfl⟩
    rw [free] at entry
    cases entry

theorem Inv.register_grows (inv : Inv s) {op : Fetched} (less : op.g < s.next)
    (domain : op.routeConfig.domain ≠ []) (registers : s.register op = .ok t) :
    Grows s t ∧ (∃ routeConfig, t.table op.routeConfig.domain op.routeConfig.location
        op.routeConfig.routeByHTTPUser = some ⟨some op.g, routeConfig⟩) ∧
      (t.heap op.g).group = op.group ∧ ((t.heap op.g).createFuncs.get op.proxyName).isSome := by
  have inv' := inv.register less domain registers
  obtain ⟨g', r', registers', rfl⟩ := register_eq_setGroup registers
  have joined := register_eq_ok inv.sorted registers'
  have at_g : (s.setGroup op.g g' r').heap op.g = g' := Function.update_self ..
  have nonempty : ¬ ((s.setGroup op.g g' r').heap op.g).IsEmpty := by
    rw [at_g]
    exact not_isEmpty_of_member joined.member
  have route := (inv'.live op.g nonempty).2
  rw [at_g, joined.fits.domain, joined.fits.location, joined.fits.routeByHTTPUser] at route
  refine ⟨⟨inv', ?_, ?_⟩, route, ?_⟩
  · intro d l u payload entry
    show r'.table d l u = some payload
    rcases joined.ends with ⟨-, free, table⟩ | ⟨-, rfl, -⟩
    · rw [table]
      exact Table.set_of_free free entry
    · exact entry
  · intro g proxyName member
    by_cases same : g = op.g
    · subst same
      rw [at_g]
      refine ⟨joined.members proxyName member, ?_⟩
      rcases joined.ends with ⟨empty, -⟩ | ⟨-, -, fits⟩
      · exact absurd empty (not_isEmpty_of_member member)
      · rw [joined.fits.group, fits.group]
    · simp only [State.setGroup, Function.update_of_ne same]
      exact ⟨member, trivial⟩
  · rw [at_g]
    exact ⟨joined.fits.group, joined.member⟩

/-- The proxy's own route, or one of a group that it is in. -/
def HTTPProxy.Owns (pxy : HTTPProxy) (s : State) (routeConfig : RouteConfig)
    (payload : Payload) : Prop :=
  match payload.group with
  | none => pxy.cfg.group = [] ∧ payload.routeConfig = routeConfig
  | some g => pxy.cfg.group ≠ [] ∧ (s.heap g).group = pxy.cfg.group ∧
      ((s.heap g).createFuncs.get pxy.name).isSome

/-- The route is in the router and leads to the proxy. -/
def HTTPProxy.Registered (pxy : HTTPProxy) (s : State) (routeConfig : RouteConfig) : Prop :=
  ∃ payload, s.table routeConfig.domain routeConfig.location routeConfig.routeByHTTPUser =
    some payload ∧ pxy.Owns s routeConfig payload

theorem HTTPProxy.Registered.grows {routeConfig : RouteConfig}
    (registered : pxy.Registered s routeConfig) (grows : Grows s t) :
    pxy.Registered t routeConfig := by
  obtain ⟨payload, route, owns⟩ := registered
  refine ⟨payload, grows.table _ _ _ _ route, ?_⟩
  unfold HTTPProxy.Owns at owns ⊢
  split at owns
  · exact owns
  · obtain ⟨grouped, name, member⟩ := owns
    obtain ⟨member', name'⟩ := grows.members _ _ member
    exact ⟨grouped, name'.trans name, member'⟩

theorem register_spec {routeConfig : RouteConfig} (inv : Inv s)
    (domain : routeConfig.domain ≠ []) (registers : pxy.register s routeConfig = (t, none)) :
    Grows s t ∧ pxy.Registered t routeConfig := by
  unfold HTTPProxy.register at registers
  split at registers
  · rename_i grouped
    have awaits := inv.await
    rcases looks : s.await.lookup pxy.cfg.group with ⟨g, s'⟩
    rw [looks] at registers
    dsimp only at registers
    have grows := awaits.trans (awaits.inv.lookup_grows looks)
    split at registers
    · cases registers
    · rename_i t' joins
      cases registers
      obtain ⟨grows', ⟨config, route⟩, name, member⟩ :=
        grows.inv.register_grows (awaits.inv.looksUp looks).known domain joins
      exact ⟨grows.trans grows', ⟨some g, config⟩, route, grouped, name, member⟩
  · rename_i single
    split at registers
    · cases registers
    · rename_i t' adds
      cases registers
      obtain ⟨r, rfl, sorted, free, table⟩ := add_spec inv.sorted adds
      refine ⟨⟨inv.add domain adds, ?_, fun _ _ member => ⟨member, rfl⟩⟩,
        ⟨none, routeConfig⟩, ?_, not_not.1 single, rfl⟩
      · intro d l u payload route
        show r.table d l u = some payload
        rw [table]
        exact Table.set_of_free free route
      · show r.table _ _ _ = _
        rw [table, Table.set, if_pos ⟨rfl, rfl, rfl⟩]

theorem registerAll_spec {done rest : List RouteConfig} (inv : Inv s)
    (domains : ∀ routeConfig ∈ rest, routeConfig.domain ≠ [])
    (registers : pxy.registerAll s done rest = (t, none)) :
    Grows s t ∧ ∀ routeConfig ∈ rest, pxy.Registered t routeConfig := by
  induction rest generalizing s done with
  | nil =>
      cases registers
      exact ⟨.refl inv, nofun⟩
  | cons routeConfig rest ih =>
      unfold HTTPProxy.registerAll at registers
      split at registers
      · cases registers
      · rename_i s' first
        obtain ⟨grows, registered⟩ := register_spec inv (domains _ List.mem_cons_self) first
        obtain ⟨grows', rest'⟩ :=
          ih grows.inv (fun _ mem => domains _ (List.mem_cons_of_mem _ mem)) registers
        refine ⟨grows.trans grows', ?_⟩
        intro other mem
        rw [List.mem_cons] at mem
        rcases mem with rfl | mem
        · exact registered.grows grows'
        · exact rest' other mem

theorem ne_nil_of_mem_listenDomains {cfg : DomainConf} {serverCfg : ServerCommonConf}
    {domain : GoString} (listed : domain ∈ listenDomains cfg serverCfg) : domain ≠ [] := by
  unfold listenDomains at listed
  rw [List.mem_append] at listed
  rcases listed with custom | sub
  · simpa using (List.mem_filter.1 custom).2
  · split at sub
    · cases sub
    · rw [List.mem_singleton] at sub
      subst sub
      exact List.append_ne_nil_of_right_ne_nil _ (List.cons_ne_nil _ _)

theorem mem_routes {domain location : GoString} :
    domain ∈ pxy.domains → location ∈ pxy.locations →
      pxy.routeConfig domain location ∈ pxy.routes := by
  intro inDomains inLocations
  exact List.mem_flatMap.2 ⟨domain, inDomains, List.mem_map_of_mem inLocations⟩

theorem domain_ne_nil_of_mem_routes {routeConfig : RouteConfig} (mem : routeConfig ∈ pxy.routes) :
    routeConfig.domain ≠ [] := by
  obtain ⟨domain, inDomains, mem⟩ := List.mem_flatMap.1 mem
  obtain ⟨location, -, rfl⟩ := List.mem_map.1 mem
  exact ne_nil_of_mem_listenDomains inDomains

/-- **Run.** A `Run` that succeeds leaves a route of the proxy, or of its group, under
every domain and location. -/
theorem run_spec {remoteAddr : GoString} (inv : Inv s) (runs : pxy.run s = (t, .ok remoteAddr)) :
    Inv t ∧ ∀ domain ∈ pxy.domains, ∀ location ∈ pxy.locations,
      pxy.Registered t (pxy.routeConfig domain location) := by
  unfold HTTPProxy.run at runs
  split at runs
  · cases runs
  · rename_i s' registers
    cases runs
    obtain ⟨grows, registered⟩ :=
      registerAll_spec inv (fun _ mem => domain_ne_nil_of_mem_routes mem) registers
    exact ⟨grows.inv, fun domain inDomains location inLocations =>
      registered _ (mem_routes inDomains inLocations)⟩

/-! ## The requests for a custom domain -/

/-- The route that a request is sent to. -/
def routedTo (unicode : GoString → GoString) (s : State) (req : Request) :
    Option (Router Payload) :=
  let info := injectRequestInfoToCtx req
  s.vhostRouter.search (Util.hostName unicode info.host) info.url info.httpUser

/-- An entry under the domain that takes the request. -/
def State.Serves (s : State) (req : Request) (domain location user : GoString) : Prop :=
  Takes s.table domain req.urlPath req.routingUser location user

/-- No other domain that covers the name, and takes the request, fixes more of the name. -/
def State.Unshadowed (s : State) (req : Request) (name domain : GoString) : Prop :=
  ∀ other location user, s.Serves req other location user → Covers other name →
    fixed name other ≤ fixed name (canonicalDomain domain)

namespace HTTPProxy

/-- The request is for a location and the user of the proxy. -/
structure IsFor (pxy : HTTPProxy) (req : Request) : Prop where
  location : ∃ location ∈ pxy.locations, location <+: req.urlPath
  user : pxy.cfg.routeByHTTPUser = req.routingUser ∨ pxy.cfg.routeByHTTPUser = []

/-- An entry of the same domain comes before those of the proxy: it names the user, or its
location is longer. -/
def Narrower (pxy : HTTPProxy) (req : Request) (location user : GoString) : Prop :=
  pxy.cfg.routeByHTTPUser = [] ∧ user ≠ [] ∨
    user = pxy.cfg.routeByHTTPUser ∧ ∀ own ∈ pxy.locations, own <+: req.urlPath →
      own.length < location.length

/-- The entry is one of the proxy's. -/
def IsOwn (pxy : HTTPProxy) (location user : GoString) : Prop :=
  location ∈ pxy.locations ∧ user = pxy.cfg.routeByHTTPUser

end HTTPProxy

/-- A search that tries the domain ends there, as no closer domain takes the request. -/
theorem search_of_unshadowed {domain name : GoString} {req : Request}
    (sorted : t.vhostRouter.Sorted) (isName : HostName name)
    (covers : Covers (canonicalDomain domain) name) (unshadowed : t.Unshadowed req name domain)
    (served : (t.vhostRouter.findRouter domain req.urlPath req.routingUser).isSome)
    (searched : Searched domain) :
    t.vhostRouter.search name req.urlPath req.routingUser =
      t.vhostRouter.findRouter domain req.urlPath req.routingUser := by
  apply search_eq_findRouter isName ((mem_candidates_iff isName covers).2 searched) served
  intro other mem closer
  cases found : t.vhostRouter.findRouter other req.urlPath req.routingUser with
  | none => rfl
  | some vr =>
      obtain ⟨-, -, takes, -⟩ := findRouter_spec sorted found
      have less := unshadowed other _ _ takes (covers_of_mem_candidates isName mem)
      rw [searched.1] at less
      exact absurd closer (Nat.not_lt.2 less)

/-- What is found under a domain of the proxy is its own, or narrower than all of its own. -/
theorem HTTPProxy.isOwn_or_narrower {domain : GoString} {req : Request} {vr : Router Payload}
    (sorted : t.vhostRouter.Sorted) (isFor : pxy.IsFor req)
    (own : ∀ location ∈ pxy.locations, location <+: req.urlPath →
      t.Serves req domain location pxy.cfg.routeByHTTPUser)
    (found : t.vhostRouter.findRouter domain req.urlPath req.routingUser = some vr) :
    pxy.IsOwn vr.location vr.httpUser ∨ pxy.Narrower req vr.location vr.httpUser := by
  obtain ⟨-, -, takes, first⟩ := findRouter_spec sorted found
  by_contra neither
  obtain ⟨foreign, wide⟩ := not_or.1 neither
  apply wide
  obtain ⟨location, inLocations, front⟩ := isFor.location
  rcases first location _ (own location inLocations front) with ⟨user, -⟩ | named
  · refine .inr ⟨user, fun location inLocations front => ?_⟩
    rcases first location _ (own location inLocations front) with ⟨-, le⟩ | ⟨anybody, named⟩
    · apply Nat.lt_of_le_of_ne le
      intro same
      have longest := List.prefix_of_prefix_length_le front takes.location le
      rw [longest.eq_of_length same] at inLocations
      exact foreign ⟨inLocations, user⟩
    · exact absurd (user.trans anybody) named
  · exact .inl named

/-- **A custom domain gets the requests for its names** exactly if it is written as a
search spells it, whatever the spelling of the request, as long as no other domain covers
the name more closely; and they are sent to the routes that `Run` left, unless another
proxy has a narrower one under the same domain. -/
theorem custom_domain_routed_iff (unicode : GoString → GoString) {s s' t : State}
    (reached : Reachable step start s) {pxy : HTTPProxy} {remoteAddr : GoString}
    (runs : pxy.run s = (s', .ok remoteAddr)) {ls : List Label} (later : exec step s' ls = some t)
    {domain : GoString} (custom : domain ∈ pxy.cfg.customDomains) (nonempty : domain ≠ [])
    (kept : ∀ location ∈ pxy.locations, t.table domain location pxy.cfg.routeByHTTPUser =
      s'.table domain location pxy.cfg.routeByHTTPUser)
    {req : Request} {name : GoString} (isName : HostName name) (spells : Spells req.host name)
    (covers : Covers (canonicalDomain domain) name) (isFor : pxy.IsFor req)
    (unshadowed : t.Unshadowed req name domain) :
    ((∃ vr, routedTo unicode t req = some vr ∧ vr.domain = domain) ↔ Searched domain) ∧
      ((∀ location user, t.Serves req domain location user →
          pxy.IsOwn location user ∨ ¬ pxy.Narrower req location user) →
        ((∃ vr, routedTo unicode t req = some vr ∧ vr.domain = domain ∧
            pxy.IsOwn vr.location vr.httpUser ∧
            s'.table domain vr.location vr.httpUser = some vr.payload) ↔
          Searched domain)) := by
  have inv : Inv s := reached.invariant step_inv start_inv
  obtain ⟨inv', registered⟩ := run_spec inv runs
  have sorted : t.vhostRouter.Sorted := (invariant_of_exec step_inv inv' later).sorted
  have host : Util.hostName unicode req.host = name := hostName_of_spells unicode isName spells
  have search : routedTo unicode t req =
      t.vhostRouter.search name req.urlPath req.routingUser := by
    rw [← host]
    rfl
  rw [search]
  have tried : ∀ vr, t.vhostRouter.search name req.urlPath req.routingUser = some vr →
      vr.domain = domain → Searched domain := by
    rintro vr found rfl
    exact (mem_candidates_iff isName covers).1 (domain_mem_of_search sorted found)
  have inDomains : domain ∈ pxy.domains := by
    unfold HTTPProxy.domains listenDomains
    rw [List.mem_append, List.mem_filter]
    exact .inl ⟨custom, by simpa using nonempty⟩
  -- The proxy's own entries take the request.
  have own : ∀ location ∈ pxy.locations, location <+: req.urlPath →
      t.Serves req domain location pxy.cfg.routeByHTTPUser := by
    intro location inLocations front
    obtain ⟨payload, entry, -⟩ := registered domain inDomains location inLocations
    refine ⟨?_, front, isFor.user⟩
    rw [kept location inLocations]
    exact Option.isSome_iff_exists.2 ⟨payload, entry⟩
  have asked : Searched domain → ∃ vr,
      t.vhostRouter.search name req.urlPath req.routingUser = some vr ∧
        t.vhostRouter.findRouter domain req.urlPath req.routingUser = some vr := by
    intro searched
    obtain ⟨location, inLocations, front⟩ := isFor.location
    have served : (t.vhostRouter.findRouter domain req.urlPath req.routingUser).isSome :=
      (findRouter_isSome_iff sorted).2 ⟨location, _, own location inLocations front⟩
    have found := search_of_unshadowed sorted isName covers unshadowed served searched
    obtain ⟨vr, here⟩ := Option.isSome_iff_exists.1 served
    exact ⟨vr, found.trans here, here⟩
  refine ⟨⟨fun ⟨vr, found, there⟩ => tried vr found there, fun searched => ?_⟩,
    fun others => ⟨fun ⟨vr, found, there, _⟩ => tried vr found there, fun searched => ?_⟩⟩
  · obtain ⟨vr, found, here⟩ := asked searched
    exact ⟨vr, found, (findRouter_spec sorted here).1⟩
  · obtain ⟨vr, found, here⟩ := asked searched
    obtain ⟨there, entry, takes, -⟩ := findRouter_spec sorted here
    have isOwn : pxy.IsOwn vr.location vr.httpUser := by
      rcases HTTPProxy.isOwn_or_narrower sorted isFor own here with isOwn | narrower
      · exact isOwn
      · exact (others _ _ takes).resolve_right (not_not_intro narrower)
    refine ⟨vr, found, there, isOwn, ?_⟩
    rw [isOwn.2, ← kept vr.location isOwn.1, ← isOwn.2]
    exact entry

/-- A proxy with the one custom domain, and a request for the host. -/
def onlyDomain (domain : GoString) : HTTPProxy where
  name := GoString.lit "web"
  cfg := { customDomains := [domain], bandwidthLimitMode := bandwidthLimitModeClient }
  serverCfg := ⟨80, 443, 0, []⟩
  getRealConn := 0

def requestFor (host : GoString) : Request :=
  ⟨GoString.lit "GET", [], GoString.lit "/", host, [], [], []⟩

theorem spelled_request_routed :
    let s := ((onlyDomain (GoString.lit "example.com")).run start).1
    (∃ vr, routedTo id s (requestFor (GoString.lit "Example.COM.:8080")) = some vr ∧
        vr.domain = GoString.lit "example.com") ↔ Searched (GoString.lit "example.com") := by
  intro s
  have isName : HostName (GoString.lit "example.com") :=
    ⟨List.all_eq_true.1 rfl, by decide, by decide⟩
  have digits : (GoString.lit "8080").all (fun b => decide (48 ≤ b ∧ b ≤ 57)) = true := rfl
  have isPort : IsPort (GoString.lit ":8080") :=
    .inr ⟨GoString.lit "8080", rfl,
      fun b mem => of_decide_eq_true (List.all_eq_true.1 digits b mem)⟩
  have spells : Spells (GoString.lit "Example.COM.:8080") (GoString.lit "example.com") :=
    ⟨GoString.lit "Example.COM", [GoString.dot], GoString.lit ":8080", by decide, .inr rfl, isPort,
      by decide⟩
  have runs : (onlyDomain (GoString.lit "example.com")).run start =
      (s, .ok (GoString.lit "example.com")) := Prod.ext rfl (by decide)
  have later : exec step s [] = some s := rfl
  refine (custom_domain_routed_iff id ⟨[], rfl⟩ runs later (by decide) (by decide)
    (fun _ _ => rfl) isName spells .literal
    ⟨⟨[], by decide, List.nil_prefix⟩, .inl (by decide)⟩ ?_).1
  intro other location user _ covers
  exact fixed_le covers

theorem domain_of_entry {domain user other location user' : GoString} {vrs : List (Router Payload)}
    (entry : ((newRouters.store domain user vrs).table other location user').isSome) :
    other = domain := by
  by_contra different
  have none : (newRouters.store domain user vrs).list other user' = [] := by
    rw [Routers.list_store, if_neg fun same => different same.1, Routers.list_newRouters]
  simp [Routers.table, Routers.exist, none] at entry

/-- A proxy with the domain is accepted and runs, and a request for a name that the domain
covers gets nowhere. -/
def Unreachable (domain host : GoString) : Prop :=
  let pxy := onlyDomain domain
  let req := requestFor host
  pxy.cfg.validateForServer pxy.serverCfg = .ok () ∧ domain ∈ pxy.cfg.customDomains ∧
    ∃ s remoteAddr, pxy.run start = (s, .ok remoteAddr) ∧ HostName host ∧
      Spells req.host host ∧ Covers (canonicalDomain domain) host ∧ pxy.IsFor req ∧
      s.Unshadowed req host domain ∧ routedTo id s req = none

/-- A capital letter in the domain, and one label after the star. -/
theorem custom_domain_unreachable :
    Unreachable (GoString.lit "Example.com") (GoString.lit "example.com") ∧
      Unreachable (GoString.lit "*.com") (GoString.lit "example.com") := by
  have isName : HostName (GoString.lit "example.com") :=
    ⟨List.all_eq_true.1 rfl, by decide, by decide⟩
  have spells : Spells (GoString.lit "example.com") (GoString.lit "example.com") :=
    ⟨GoString.lit "example.com", [], [], by decide, .inl rfl, .inl rfl, by decide⟩
  constructor
  · refine ⟨by decide, by decide, _, GoString.lit "Example.com", Prod.ext rfl (by decide), isName,
      spells, .literal, ⟨⟨[], by decide, List.nil_prefix⟩, .inl (by decide)⟩, ?_, by decide⟩
    intro other location user _ covers
    exact fixed_le covers
  · refine ⟨by decide, by decide, _, GoString.lit "*.com", Prod.ext rfl (by decide), isName,
      spells, @Covers.wildcard (GoString.lit "example") (GoString.lit "com") (by decide),
      ⟨⟨[], by decide, List.nil_prefix⟩, .inl (by decide)⟩, ?_, by decide⟩
    intro other location user serves _
    let vr : Router Payload := ⟨GoString.lit "*.com", [], [], none,
      (onlyDomain (GoString.lit "*.com")).routeConfig (GoString.lit "*.com") []⟩
    have entry : ((newRouters.store (GoString.lit "*.com") [] [vr]).table other location
      user).isSome := serves.entry
    rw [domain_of_entry entry]
    exact Nat.le_refl _

end ChmlFrp.Server.HttpGroup
