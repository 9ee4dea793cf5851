/-
# ChmlFrp.Vhost.Http — the reverse proxy for http routes

`pkg/util/vhost/http.go`.  `ServeHTTP` looks a route up to check the credentials; the
`Director` and `CreateConnection` look one up again, from the request info that
`injectRequestInfoToCtx` put into the context.  The two lookups agree on host and path
and need not agree on the user.

The functions of a route are handles here; what `ChooseEndpointFn` answers is an
argument.

* `forwarded_credentials_iff`: when a request is forwarded with valid credentials only, from
  the routes that the two lookups find.
* `forwarded_everywhere_iff`: the requests that are, whatever the routes are.
* `proxy_user_skips_check`: a user named in `Proxy-Authorization` alone selects a
  protected route that is not checked.
-/
import ChmlFrp.Util.Http
import ChmlFrp.Vhost.Router

namespace ChmlFrp.Vhost

set_option autoImplicit false

open ChmlFrp.Lib
open ChmlFrp.Util

structure RouteConfig where
  /-- Its address: `Register` stores a pointer to a config of its own. -/
  addr : Nat
  domain : GoString
  location : GoString
  rewriteHost : GoString
  username : GoString
  password : GoString
  headers : List (GoString × GoString)
  routeByHTTPUser : GoString
  createConnFn : Option Nat
  chooseEndpointFn : Option Nat
  createConnByEndpointFn : Option Nat
  deriving DecidableEq, Repr

/-- What the proxy reads of a request.  A header that is absent reads as empty. -/
structure Request where
  method : GoString
  /-- The host in the first line, as in `GET http://example.com/ HTTP/1.1`. -/
  urlHost : GoString
  urlPath : GoString
  host : GoString
  authorization : GoString
  proxyAuthorization : GoString
  remoteAddr : GoString
  deriving DecidableEq, Repr

structure RequestRouteInfo where
  url : GoString
  host : GoString
  httpUser : GoString
  remoteAddr : GoString
  urlHost : GoString
  endpoint : GoString
  deriving DecidableEq, Repr

/-- A call of one of the two functions that open a connection. -/
inductive Dial where
  | createConn (fn : Nat) (remoteAddr : GoString)
  | createConnByEndpoint (fn : Nat) (endpoint remoteAddr : GoString)
  deriving DecidableEq, Repr

/-- What the `Director` makes of a request. -/
structure Directed where
  route : Option RouteConfig
  host : GoString
  /-- `req.URL.Host`, by which the transport keeps its idle connections. -/
  urlHost : GoString
  setHeaders : List (GoString × GoString)
  deriving DecidableEq, Repr

inductive Served where
  | unauthorized
  | connect (dial : Option (RouteConfig × Dial))
  | proxied (directed : Directed) (dial : Option (RouteConfig × Dial))
  deriving DecidableEq, Repr

abbrev HTTPRouters := Routers RouteConfig

/-! ## Looking a route up -/

/-- `getVhost` -/
def getVhost (rp : HTTPRouters) (domain location routeByHTTPUser : GoString) :
    Option (Router RouteConfig) :=
  rp.search domain location routeByHTTPUser

def getRouteConfig (rp : HTTPRouters) (domain location routeByHTTPUser : GoString) :
    Option RouteConfig :=
  (getVhost rp domain location routeByHTTPUser).map Router.payload

def checkAuth (rp : HTTPRouters) (domain location routeByHTTPUser user passwd : GoString) :
    Bool :=
  match getVhost rp domain location routeByHTTPUser with
  | some vr =>
      let checkUser := vr.payload.username
      let checkPasswd := vr.payload.password
      !((checkUser != [] || checkPasswd != []) && (checkUser != user || checkPasswd != passwd))
  | none => true

section Serve

variable (unicode : GoString → GoString) (rp : HTTPRouters)

/-- `CreateConnection`; `none` is `ErrNoRouteFound`. -/
def createConnection (info : RequestRouteInfo) (byEndpoint : Bool) :
    Option (RouteConfig × Dial) :=
  match getVhost rp (hostName unicode info.host) info.url info.httpUser with
  | some vr =>
      match byEndpoint, vr.payload.createConnByEndpointFn, vr.payload.createConnFn with
      | true, some fn, _ =>
          some (vr.payload, .createConnByEndpoint fn info.endpoint info.remoteAddr)
      | _, _, some fn => some (vr.payload, .createConn fn info.remoteAddr)
      | _, _, none => none
  | none => none

/-! ## Serving a request -/

/-- The user and password of the `Authorization` header. -/
def Request.basicAuth (req : Request) : GoString × GoString := Util.basicAuth req.authorization

/-- The user that a proxy request names: there is a host in its first line. -/
def Request.proxyUser (req : Request) : GoString :=
  if req.urlHost ≠ [] ∧ req.proxyAuthorization ≠ [] then
    (Util.basicAuth req.proxyAuthorization).1
  else []

/-- The user whose routes the request is for. -/
def Request.routingUser (req : Request) : GoString :=
  if req.proxyUser = [] then req.basicAuth.1 else req.proxyUser

/-- `injectRequestInfoToCtx` -/
def injectRequestInfoToCtx (req : Request) : RequestRouteInfo where
  url := req.urlPath
  host := req.host
  httpUser := req.routingUser
  remoteAddr := req.remoteAddr
  urlHost := req.urlHost
  endpoint := []

/-- `{domain}.{location}.{routeByHTTPUser}.{endpoint}` -/
def poolKey (rc : RouteConfig) (endpoint : GoString) : GoString :=
  rc.domain ++ GoString.dot :: (Base64.encode rc.location ++ GoString.dot ::
    (Base64.encode rc.routeByHTTPUser ++ GoString.dot :: Base64.encode endpoint))

variable (chooseEndpoint : Nat → GoString)

def endpointOf (rc : RouteConfig) : GoString :=
  match rc.chooseEndpointFn with
  | some fn => chooseEndpoint fn
  | none => []

/-- The `Director`: the outgoing request, and the request info with the endpoint. -/
def director (req : Request) (info : RequestRouteInfo) : Directed × RequestRouteInfo :=
  match getRouteConfig rp (hostName unicode info.host) info.url info.httpUser with
  | some rc =>
      let endpoint := endpointOf chooseEndpoint rc
      ({ route := some rc
         host := if rc.rewriteHost ≠ [] then rc.rewriteHost else req.host
         urlHost := poolKey rc endpoint
         setHeaders := rc.headers },
        { info with endpoint := if rc.chooseEndpointFn = none then info.endpoint else endpoint })
  | none => ({ route := none, host := req.host, urlHost := req.host, setHeaders := [] }, info)

def methodConnect : GoString := GoString.lit "CONNECT"

/-- `ServeHTTP`, for a transport that has no idle connection to reuse. -/
def serveHTTP (req : Request) : Served :=
  let domain := hostName unicode req.host
  let location := req.urlPath
  let (user, passwd) := req.basicAuth
  if !checkAuth rp domain location user user passwd then .unauthorized
  else
    let info := injectRequestInfoToCtx req
    if req.method = methodConnect then .connect (createConnection unicode rp info false)
    else
      let (directed, info) := director unicode rp chooseEndpoint req info
      .proxied directed (createConnection unicode rp info true)

end Serve

/-! ## Which requests are forwarded with valid credentials -/

/-- The request goes to this route: the `Director` selects it or its function dials. -/
def Served.Over (rc : RouteConfig) : Served → Prop
  | .unauthorized => False
  | .connect dial => ∃ d, dial = some (rc, d)
  | .proxied directed dial => directed.route = some rc ∨ ∃ d, dial = some (rc, d)

/-- The pairs of user and password that the request presents. -/
def Request.credentials (req : Request) : List (GoString × GoString) :=
  req.basicAuth ::
    if req.urlHost ≠ [] then [Util.basicAuth req.proxyAuthorization] else []

/-- The route asks for no credentials, or the request presents them. -/
def Satisfies (req : Request) (rc : RouteConfig) : Prop :=
  rc.username = [] ∧ rc.password = [] ∨ (rc.username, rc.password) ∈ req.credentials

instance (req : Request) (rc : RouteConfig) : Decidable (Satisfies req rc) :=
  inferInstanceAs (Decidable (_ ∨ _))

/-- The route lets a request with this user and password pass. -/
def RouteConfig.Admits (rc : RouteConfig) (given : GoString × GoString) : Prop :=
  rc.username = [] ∧ rc.password = [] ∨ rc.username = given.1 ∧ rc.password = given.2

instance (rc : RouteConfig) (given : GoString × GoString) : Decidable (rc.Admits given) :=
  inferInstanceAs (Decidable (_ ∨ _))

def RouteConfig.SameCredentials (a b : RouteConfig) : Prop :=
  a.username = b.username ∧ a.password = b.password

/-- A request over this route finds a function that dials. -/
def Request.Dials (req : Request) (rc : RouteConfig) : Prop :=
  req.method = methodConnect → rc.createConnFn ≠ none

/-- The check of the one route is a check of the other too: it refuses the request, the two
ask for the same, or the other route is content with a header of the request all the same. -/
def CheckCovers (req : Request) (checked used : Option RouteConfig) : Prop :=
  ∀ rc, used = some rc → req.Dials rc →
    (∃ other, checked = some other ∧
      (¬ other.Admits req.basicAuth ∨ other.SameCredentials rc)) ∨
    rc.Admits req.basicAuth ∨
    req.urlHost ≠ [] ∧ rc.Admits (Util.basicAuth req.proxyAuthorization)

section Lookups

variable (unicode : GoString → GoString) (rp : HTTPRouters) (req : Request)

/-- The route that `ServeHTTP` checks. -/
def checkedRoute : Option RouteConfig :=
  getRouteConfig rp (hostName unicode req.host) req.urlPath req.basicAuth.1

/-- The route that the `Director` and `CreateConnection` find. -/
def usedRoute : Option RouteConfig :=
  getRouteConfig rp (hostName unicode req.host) req.urlPath req.routingUser

end Lookups

section Credentials

variable {unicode : GoString → GoString} {rp : HTTPRouters} {chooseEndpoint : Nat → GoString}
  {req : Request} {rc : RouteConfig}

theorem createConnection_route {info : RequestRouteInfo} {byEndpoint : Bool} {dial : Dial}
    (dialled : createConnection unicode rp info byEndpoint = some (rc, dial)) :
    getRouteConfig rp (hostName unicode info.host) info.url info.httpUser = some rc := by
  unfold createConnection at dialled
  unfold getRouteConfig
  split at dialled
  · rename_i vr found
    rw [found]
    split at dialled
    · cases dialled
      rfl
    · cases dialled
      rfl
    · cases dialled
  · cases dialled

theorem createConnection_dials {info : RequestRouteInfo} {dial : Dial}
    (dialled : createConnection unicode rp info false = some (rc, dial)) :
    rc.createConnFn ≠ none := by
  unfold createConnection at dialled
  split at dialled
  · rename_i vr found
    cases has : vr.payload.createConnFn with
    | none =>
        simp only [has] at dialled
        cases dialled
    | some fn =>
        simp only [has] at dialled
        cases dialled
        rw [has]
        exact Option.some_ne_none fn
  · cases dialled

theorem createConnection_of_route {info : RequestRouteInfo}
    (route : getRouteConfig rp (hostName unicode info.host) info.url info.httpUser = some rc)
    (dials : rc.createConnFn ≠ none) :
    ∃ dial, createConnection unicode rp info false = some (rc, dial) := by
  obtain ⟨vr, found, rfl⟩ := Option.map_eq_some_iff.1 route
  obtain ⟨fn, has⟩ := Option.ne_none_iff_exists'.1 dials
  refine ⟨.createConn fn info.remoteAddr, ?_⟩
  rw [createConnection, found]
  simp only [has]

theorem director_info (info : RequestRouteInfo) :
    (director unicode rp chooseEndpoint req info).2.host = info.host ∧
      (director unicode rp chooseEndpoint req info).2.url = info.url ∧
      (director unicode rp chooseEndpoint req info).2.httpUser = info.httpUser := by
  unfold director
  split
  · exact ⟨rfl, rfl, rfl⟩
  · exact ⟨rfl, rfl, rfl⟩

theorem director_route (info : RequestRouteInfo) :
    (director unicode rp chooseEndpoint req info).1.route =
      getRouteConfig rp (hostName unicode info.host) info.url info.httpUser := by
  unfold director
  split
  · rename_i found
    rw [found]
  · rename_i missing
    rw [missing]

/-- Whatever way the request is forwarded, it goes to the route of its routing user,
and the route of its `Authorization` user let it pass. -/
theorem served_over (served : (serveHTTP unicode rp chooseEndpoint req).Over rc) :
    checkAuth rp (hostName unicode req.host) req.urlPath req.basicAuth.1 req.basicAuth.1
        req.basicAuth.2 = true ∧
      getRouteConfig rp (hostName unicode req.host) req.urlPath req.routingUser = some rc := by
  unfold serveHTTP at served
  simp only at served
  split at served
  · exact served.elim
  · rename_i passed
    refine ⟨by simpa using passed, ?_⟩
    split at served
    · obtain ⟨dial, dialled⟩ := served
      have route := createConnection_route dialled
      dsimp only [injectRequestInfoToCtx] at route
      exact route
    · rcases served with selected | ⟨dial, dialled⟩
      · rw [director_route] at selected
        dsimp only [injectRequestInfoToCtx] at selected
        exact selected
      · have route := createConnection_route dialled
        obtain ⟨host, url, user⟩ :=
          @director_info unicode rp chooseEndpoint req (injectRequestInfoToCtx req)
        rw [host, url, user] at route
        dsimp only [injectRequestInfoToCtx] at route
        exact route

/-- A request that the check lets pass goes to the route of its routing user. -/
theorem over_usedRoute
    (passed : checkAuth rp (hostName unicode req.host) req.urlPath req.basicAuth.1
      req.basicAuth.1 req.basicAuth.2 = true)
    (route : usedRoute unicode rp req = some rc) (dials : req.Dials rc) :
    (serveHTTP unicode rp chooseEndpoint req).Over rc := by
  unfold serveHTTP
  simp only [passed, Bool.not_true, Bool.false_eq_true, if_false]
  split
  · rename_i connect
    exact createConnection_of_route route (dials connect)
  · left
    rw [director_route]
    exact route

theorem over_dials (served : (serveHTTP unicode rp chooseEndpoint req).Over rc) :
    req.Dials rc := by
  intro connect
  unfold serveHTTP at served
  simp only [connect, if_true] at served
  split at served
  · exact served.elim
  · obtain ⟨dial, dialled⟩ := served
    exact createConnection_dials dialled

theorem checkAuth_iff {domain location routeByHTTPUser user passwd : GoString} :
    checkAuth rp domain location routeByHTTPUser user passwd = true ↔
      ∀ rc, getRouteConfig rp domain location routeByHTTPUser = some rc →
        rc.Admits (user, passwd) := by
  unfold checkAuth getRouteConfig
  split
  · rename_i vr found
    simp only [found, Option.map_some, Option.some.injEq, forall_eq', RouteConfig.Admits]
    by_cases protected_ : vr.payload.username = [] ∧ vr.payload.password = []
    · simp [protected_.1, protected_.2]
    · by_cases given : vr.payload.username = user ∧ vr.payload.password = passwd
      · simp [given.1, given.2]
      · simp only [Bool.not_eq_true', Bool.and_eq_false_iff, Bool.or_eq_false_iff,
          bne_eq_false_iff_eq]
  · rename_i missing
    simp [missing]

theorem satisfies_iff :
    Satisfies req rc ↔ rc.Admits req.basicAuth ∨
      req.urlHost ≠ [] ∧ rc.Admits (Util.basicAuth req.proxyAuthorization) := by
  unfold Satisfies Request.credentials RouteConfig.Admits
  by_cases absolute : req.urlHost ≠ []
  · simp only [if_pos absolute, List.mem_cons, List.not_mem_nil, or_false, Prod.ext_iff]
    tauto
  · simp only [if_neg absolute, List.mem_singleton, Prod.ext_iff]
    tauto

theorem RouteConfig.SameCredentials.admits {a b : RouteConfig} {given : GoString × GoString}
    (same : a.SameCredentials b) (admits : a.Admits given) : b.Admits given := by
  rw [RouteConfig.Admits, same.1, same.2] at admits
  exact admits

/-- The route that is checked is the one that is used. -/
theorem checkCovers_of_same_user (same : req.routingUser = req.basicAuth.1) :
    CheckCovers req (checkedRoute unicode rp req) (usedRoute unicode rp req) := by
  intro rc used _
  refine .inl ⟨rc, ?_, .inr ⟨rfl, rfl⟩⟩
  rw [checkedRoute, ← same]
  exact used

theorem satisfies_of_covers
    (covers : CheckCovers req (checkedRoute unicode rp req) (usedRoute unicode rp req))
    (served : (serveHTTP unicode rp chooseEndpoint req).Over rc) : Satisfies req rc := by
  obtain ⟨passed, used⟩ := served_over served
  rw [satisfies_iff]
  rcases covers rc used (over_dials served) with ⟨other, checked, refused | same⟩ | admits
  · exact absurd (checkAuth_iff.1 passed other checked) refused
  · exact .inl (same.admits (checkAuth_iff.1 passed other checked))
  · exact admits

/-- A user other than the one of `Authorization` was named in `Proxy-Authorization`. -/
theorem routingUser_ne_nil (differs : req.routingUser ≠ req.basicAuth.1) :
    req.routingUser ≠ [] := by
  rw [Request.routingUser] at differs ⊢
  split at differs
  · exact absurd rfl differs
  · rename_i named
    rwa [if_neg named]

end Credentials

/-! ## A route for everybody else -/

/-- A route on all domains for one user, with a password that the request does not present. -/
def lockedRoute (req : Request) : RouteConfig where
  addr := 0
  domain := Routers.star
  location := []
  rewriteHost := []
  username := []
  password := req.basicAuth.2 ++ (Util.basicAuth req.proxyAuthorization).2 ++ [0]
  headers := []
  routeByHTTPUser := req.routingUser
  createConnFn := some 0
  chooseEndpointFn := none
  createConnByEndpointFn := none

def lockedRouters (req : Request) : HTTPRouters :=
  newRouters.store Routers.star req.routingUser
    [⟨Routers.star, [], req.routingUser, lockedRoute req⟩]

theorem lockedRouters_built (req : Request) : (lockedRouters req).Built := by
  refine ⟨[.add Routers.star [] req.routingUser (lockedRoute req)], ?_⟩
  rw [Transition.exec_cons_eq_some]
  refine ⟨lockedRouters req, ?_, rfl⟩
  simp [Routers.apply, Routers.add, Routers.exist, Routers.sortByLocation, lockedRouters]

theorem lockedRoute_not_satisfied (req : Request) : ¬ Satisfies req (lockedRoute req) := by
  rintro (⟨-, open_⟩ | presented)
  · simp [lockedRoute] at open_
  · have length := congrArg List.length
      (show (lockedRoute req).password =
        req.basicAuth.2 ++ (Util.basicAuth req.proxyAuthorization).2 ++ [0] from rfl)
    simp only [List.length_append, List.length_singleton] at length
    rw [Request.credentials, List.mem_cons] at presented
    rcases presented with same | same
    · rw [← same] at length
      simp only at length
      omega
    · split at same
      · rw [List.mem_singleton] at same
        rw [← same] at length
        simp only at length
        omega
      · cases same

theorem lockedRouters_list (req : Request) (domain httpUser : GoString) :
    (lockedRouters req).list domain httpUser =
      if domain = Routers.star ∧ httpUser = req.routingUser then
        [⟨Routers.star, [], req.routingUser, lockedRoute req⟩]
      else [] := by
  rw [lockedRouters, Routers.list_store, Routers.list_newRouters]

theorem lockedRouters_search_other (req : Request) {httpUser : GoString}
    (named : req.routingUser ≠ []) (other : httpUser ≠ req.routingUser)
    (domain location : GoString) :
    (lockedRouters req).search domain location httpUser = none := by
  rw [Option.eq_none_iff_forall_not_mem]
  intro vr found
  obtain ⟨name, member⟩ := Routers.search_mem found
  rw [lockedRouters_list, lockedRouters_list, if_neg fun same => other same.2,
    if_neg fun same => named same.2.symm] at member
  rcases member with none_ | none_
  · cases none_
  · cases none_

theorem lockedRouters_search_own (req : Request) (domain location : GoString) :
    ∃ vr, (lockedRouters req).search domain location req.routingUser = some vr ∧
      vr.payload = lockedRoute req := by
  have all : ((lockedRouters req).findRouter Routers.star location req.routingUser).isSome := by
    rw [Routers.findRouter, Routers.get, lockedRouters_list, if_pos ⟨rfl, rfl⟩]
    simp
  obtain ⟨vr, found⟩ : ∃ vr, (lockedRouters req).search domain location req.routingUser = some vr :=
    Option.isSome_iff_exists.1 (Routers.search_isSome_of_star all)
  refine ⟨vr, found, ?_⟩
  obtain ⟨name, member⟩ := Routers.search_mem found
  rw [lockedRouters_list, lockedRouters_list] at member
  have alone : ∀ {p : Prop} [Decidable p],
      vr ∈ (if p then [⟨Routers.star, [], req.routingUser, lockedRoute req⟩] else []) →
        vr.payload = lockedRoute req := by
    intro p _ member
    split at member
    · rw [List.mem_singleton.1 member]
    · cases member
  exact member.elim alone alone

/-- The route is not checked, and the request goes to it. -/
theorem served_over_lockedRoute (unicode : GoString → GoString)
    (chooseEndpoint : Nat → GoString) (req : Request)
    (differs : req.routingUser ≠ req.basicAuth.1) :
    (serveHTTP unicode (lockedRouters req) chooseEndpoint req).Over (lockedRoute req) := by
  refine over_usedRoute ?_ ?_ ?_
  · rw [checkAuth, getVhost, lockedRouters_search_other req (routingUser_ne_nil differs)
      (Ne.symm differs)]
  · obtain ⟨vr, found, payload⟩ :=
      lockedRouters_search_own req (hostName unicode req.host) req.urlPath
    rw [usedRoute, getRouteConfig, getVhost, found, Option.map_some, payload]
  · intro _
    exact Option.some_ne_none 0

/-- The requests that go only to routes whose credentials they present, whatever the routes
are, are those whose routes are looked up for the user that is checked. -/
theorem forwarded_everywhere_iff (unicode : GoString → GoString)
    (chooseEndpoint : Nat → GoString) (req : Request) :
    (∀ rp : HTTPRouters, rp.Built → ∀ rc,
      (serveHTTP unicode rp chooseEndpoint req).Over rc → Satisfies req rc) ↔
      req.routingUser = req.basicAuth.1 := by
  constructor
  · intro all
    by_contra differs
    exact lockedRoute_not_satisfied req (all (lockedRouters req) (lockedRouters_built req)
      (lockedRoute req) (served_over_lockedRoute unicode chooseEndpoint req differs))
  · intro same rp _ rc served
    exact satisfies_of_covers (checkCovers_of_same_user same) served

/-! ## The result -/

/-- **A request goes only to routes whose credentials it presents iff** the check of the
route that the `Authorization` user selects covers the route that the routing user selects. -/
theorem forwarded_credentials_iff (unicode : GoString → GoString) (rp : HTTPRouters)
    (chooseEndpoint : Nat → GoString) (req : Request) :
    (∀ rc, (serveHTTP unicode rp chooseEndpoint req).Over rc → Satisfies req rc) ↔
      CheckCovers req (checkedRoute unicode rp req) (usedRoute unicode rp req) := by
  constructor
  · intro valid rc used dials
    by_cases passed : checkAuth rp (hostName unicode req.host) req.urlPath req.basicAuth.1
        req.basicAuth.1 req.basicAuth.2 = true
    · exact .inr (satisfies_iff.1 (valid rc (over_usedRoute passed used dials)))
    · rw [checkAuth_iff] at passed
      push Not at passed
      obtain ⟨other, checked, refused⟩ := passed
      exact .inl ⟨other, checked, .inl refused⟩
  · intro covers rc served
    exact satisfies_of_covers covers served

/-- A proxy request that names the user in `Proxy-Authorization`, with a password that
the route does not have. -/
def namedByProxy : Request where
  method := GoString.lit "GET"
  urlHost := GoString.lit "web.example.com"
  urlPath := GoString.lit "/"
  host := GoString.lit "web.example.com"
  authorization := []
  proxyAuthorization := GoString.lit "Basic YWxpY2U6d3Jvbmc="
  remoteAddr := GoString.lit "10.0.0.1:4000"

def aliceRoute : RouteConfig where
  addr := 0
  domain := GoString.lit "web.example.com"
  location := []
  rewriteHost := []
  username := GoString.lit "alice"
  password := GoString.lit "secret"
  headers := []
  routeByHTTPUser := GoString.lit "alice"
  createConnFn := some 0
  chooseEndpointFn := none
  createConnByEndpointFn := none

def aliceRouters : HTTPRouters :=
  (newRouters.add aliceRoute.domain aliceRoute.location aliceRoute.routeByHTTPUser
    aliceRoute).getD newRouters

theorem proxy_user_skips_check :
    aliceRouters.Built ∧ (serveHTTP id aliceRouters (fun _ => []) namedByProxy).Over aliceRoute ∧
      ¬ Satisfies namedByProxy aliceRoute := by
  refine ⟨⟨[.add _ _ _ _], rfl⟩, ?_, by decide⟩
  have served : serveHTTP id aliceRouters (fun _ => []) namedByProxy =
      .proxied ⟨some aliceRoute, namedByProxy.host, poolKey aliceRoute [], []⟩
        (some (aliceRoute, .createConn 0 namedByProxy.remoteAddr)) := by decide
  rw [served]
  exact .inl rfl

end ChmlFrp.Vhost
