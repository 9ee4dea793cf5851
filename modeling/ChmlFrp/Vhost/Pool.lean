/-
# ChmlFrp.Vhost.Pool — which connection a request is sent over

`pkg/util/vhost/http.go` with the connection pool of `http.Transport`, which may reuse
any idle connection that was dialled for the same `req.URL.Host`.  The `Director` puts a
string made of domain, location, user and endpoint there, and dialling looks the route
up once more.  Routes come and go between any two of these steps.

* `poolKey_injective`: the string names the four parts.
* `guarded_runs_keep_routes_apart`: requests go over connections of the route that the
  `Director` selected as long as a route is not registered again over connections of
  its predecessor; the first step that allows it can be continued to a request that
  goes over such a connection.
* `successor_reuses_connection`: a domain is given up and registered by another proxy.
-/
import ChmlFrp.Vhost.Http

namespace ChmlFrp.Vhost.Pool

set_option autoImplicit false

open ChmlFrp.Lib
open ChmlFrp.Lib.Transition
open ChmlFrp.Util

/-! ## Runs -/

/-- A request between the `Director` and the end of its round trip. -/
structure InFlight where
  directed : Directed
  info : RequestRouteInfo
  deriving DecidableEq, Repr

structure Conn where
  /-- The `req.URL.Host` it was dialled for. -/
  urlHost : GoString
  /-- The route whose function created it, and the endpoint it was asked for. -/
  route : RouteConfig
  endpoint : GoString
  idle : Bool
  deriving DecidableEq, Repr

structure State where
  routers : HTTPRouters
  /-- The address of the next config. -/
  next : Nat
  inFlight : List InFlight
  conns : List Conn

def start : State := ⟨newRouters, 0, [], []⟩

inductive Label where
  | register (rc : RouteConfig)
  | unRegister (rc : RouteConfig)
  /-- The `Director` on a request that is not a CONNECT; `endpoint` is the answer of
  `ChooseEndpointFn`. -/
  | direct (req : Request) (endpoint : GoString)
  | dial (i : Nat)
  | send (i j : Nat)
  | done (i : Nat)
  /-- The response was read; the connection is kept, or closed. -/
  | release (j : Nat) (keep : Bool)
  | expire (j : Nat)

section Runs

variable (unicode : GoString → GoString)

/-- The request that the `Director` sends on. -/
def directed (s : State) (req : Request) (endpoint : GoString) : InFlight :=
  let (directed, info) :=
    director unicode s.routers (fun _ => endpoint) req (injectRequestInfoToCtx req)
  ⟨directed, info⟩

/-- The connection that dialling for the request makes. -/
def dialled (s : State) (r : InFlight) : Option Conn :=
  (createConnection unicode s.routers r.info true).map fun (rc, _) =>
    ⟨r.directed.urlHost, rc, r.info.endpoint, true⟩

def step (s : State) : Label → Option State
  | .register rc =>
      let rc := { rc with addr := s.next }
      match s.routers.add rc.domain rc.location rc.routeByHTTPUser rc with
      | some routers => some { s with routers := routers, next := s.next + 1 }
      | none => some s
  | .unRegister rc =>
      some { s with routers := s.routers.del rc.domain rc.location rc.routeByHTTPUser }
  | .direct req endpoint =>
      if req.method = methodConnect then none
      else some { s with inFlight := s.inFlight ++ [directed unicode s req endpoint] }
  | .dial i =>
      match s.inFlight[i]? with
      | some r => (dialled unicode s r).map fun c => { s with conns := s.conns ++ [c] }
      | none => none
  | .send i j =>
      match s.inFlight[i]?, s.conns[j]? with
      | some r, some c =>
          if c.idle = true ∧ c.urlHost = r.directed.urlHost then
            some { s with conns := s.conns.set j { c with idle := false } }
          else none
      | _, _ => none
  | .done i => some { s with inFlight := s.inFlight.eraseIdx i }
  | .release j keep =>
      match s.conns[j]? with
      | some c =>
          if c.idle = true then none
          else if keep = true then some { s with conns := s.conns.set j { c with idle := true } }
          else some { s with conns := s.conns.eraseIdx j }
      | none => none
  | .expire j =>
      match s.conns[j]? with
      | some c => if c.idle = true then some { s with conns := s.conns.eraseIdx j } else none
      | none => none

/-! ## Own connections, and how a foreign one gets under the same string -/

/-- The connection was created for the route and the endpoint of the request. -/
def Owns (r : InFlight) (c : Conn) : Prop :=
  r.directed.route = some c.route ∧ c.endpoint = r.info.endpoint

/-- A request is sent over a connection of its own route and endpoint only. -/
def SentOverOwn (s : State) : Label → Prop
  | .send i j => ∀ r ∈ s.inFlight[i]?, ∀ c ∈ s.conns[j]?, Owns r c
  | _ => True

def SameKey (rc rc' : RouteConfig) : Prop :=
  rc.domain = rc'.domain ∧ rc.location = rc'.location ∧ rc.routeByHTTPUser = rc'.routeByHTTPUser

/-- The connection is of another registration of the domain, location and user of the
request's route; or the request has no route, and its host reads like the string that
the connection was dialled for. -/
def Clashes (r : InFlight) (c : Conn) : Prop :=
  match r.directed.route with
  | some rc => SameKey c.route rc ∧ c.endpoint = r.info.endpoint ∧ c.route ≠ rc
  | none => c.urlHost = r.directed.urlHost

/-- No connection in the pool clashes with a request that is directed; dialling finds
the route that the `Director` selected, and no other request in flight clashes with the
new connection. -/
def Guarded (s : State) : Label → Prop
  | .direct req endpoint => ∀ c ∈ s.conns, ¬ Clashes (directed unicode s req endpoint) c
  | .dial i => ∀ r ∈ s.inFlight[i]?, ∀ c ∈ dialled unicode s r,
      r.directed.route = some c.route ∧ ∀ r' ∈ s.inFlight, ¬ Clashes r' c
  | _ => True

end Runs

/-! ## The string under which connections are kept -/

theorem split_last {sep : UInt8} {x x' y y' : GoString} (none_ : sep ∉ y) (none' : sep ∉ y')
    (same : x ++ sep :: y = x' ++ sep :: y') : x = x' ∧ y = y' := by
  rw [List.append_eq_append_iff] at same
  rcases same with ⟨z, rfl, tail⟩ | ⟨z, rfl, tail⟩
  · cases z with
    | nil =>
        rw [List.nil_append, List.cons.injEq] at tail
        exact ⟨(List.append_nil x).symm, tail.2⟩
    | cons b z =>
        rw [List.cons_append, List.cons.injEq] at tail
        refine absurd ?_ none_
        rw [tail.2]
        exact List.mem_append_right z (.head _)
  · cases z with
    | nil =>
        rw [List.nil_append, List.cons.injEq] at tail
        exact ⟨List.append_nil x', tail.2.symm⟩
    | cons b z =>
        rw [List.cons_append, List.cons.injEq] at tail
        refine absurd ?_ none'
        rw [tail.2]
        exact List.mem_append_right z (.head _)

theorem dot_not_mem_encode (src : GoString) : GoString.dot ∉ Base64.encode src :=
  Base64.not_mem_encode (by decide) (by decide) src

theorem poolKey_injective {rc rc' : RouteConfig} {endpoint endpoint' : GoString}
    (same : poolKey rc endpoint = poolKey rc' endpoint') :
    SameKey rc rc' ∧ endpoint = endpoint' := by
  rw [poolKey, poolKey, ← List.cons_append, ← List.append_assoc, ← List.cons_append,
    ← List.append_assoc, ← List.cons_append, ← List.append_assoc, ← List.cons_append,
    ← List.append_assoc] at same
  obtain ⟨same, endpoints⟩ := split_last (dot_not_mem_encode _) (dot_not_mem_encode _) same
  obtain ⟨same, users⟩ := split_last (dot_not_mem_encode _) (dot_not_mem_encode _) same
  obtain ⟨domains, locations⟩ := split_last (dot_not_mem_encode _) (dot_not_mem_encode _) same
  exact ⟨⟨domains, Base64.encode_injective locations, Base64.encode_injective users⟩,
    Base64.encode_injective endpoints⟩

/-! ## Guarded runs -/

/-- Connections and routed requests stand under the string of their own route, and no
request clashes with a connection. -/
structure Inv (s : State) : Prop where
  conns : ∀ c ∈ s.conns, c.urlHost = poolKey c.route c.endpoint
  routed : ∀ r ∈ s.inFlight, ∀ rc, r.directed.route = some rc →
    r.directed.urlHost = poolKey rc r.info.endpoint
  apart : ∀ r ∈ s.inFlight, ∀ c ∈ s.conns, ¬ Clashes r c

theorem start_inv : Inv start where
  conns := by intro c member; cases member
  routed := by intro r member; cases member
  apart := by intro r member; cases member

section Steps

variable {unicode : GoString → GoString} {s t : State} {l : Label}

theorem clashes_idle {r : InFlight} {c : Conn} {idle : Bool} :
    Clashes r { c with idle := idle } ↔ Clashes r c := Iff.rfl

/-- Requests and connections may go, and connections may change hands. -/
theorem Inv.of_sub (inv : Inv s) (inFlight : ∀ r ∈ t.inFlight, r ∈ s.inFlight)
    (conns : ∀ c ∈ t.conns, ∃ c' ∈ s.conns, ∃ idle, c = { c' with idle := idle }) : Inv t where
  conns := by
    intro c member
    obtain ⟨c', old, idle, rfl⟩ := conns c member
    exact inv.conns c' old
  routed := fun r member => inv.routed r (inFlight r member)
  apart := by
    intro r flying c member
    obtain ⟨c', old, idle, rfl⟩ := conns c member
    rw [clashes_idle]
    exact inv.apart r (inFlight r flying) c' old

theorem mem_set_idle {conns : List Conn} {j : Nat} {c : Conn} {idle : Bool}
    (there : conns[j]? = some c) :
    ∀ d ∈ conns.set j { c with idle := idle }, ∃ c' ∈ conns, ∃ i, d = { c' with idle := i } := by
  intro d member
  rcases List.mem_or_eq_of_mem_set member with old | rfl
  · exact ⟨d, old, d.idle, rfl⟩
  · exact ⟨c, List.mem_of_getElem? there, idle, rfl⟩

theorem mem_eraseIdx {conns : List Conn} {j : Nat} :
    ∀ d ∈ conns.eraseIdx j, ∃ c' ∈ conns, ∃ i, d = { c' with idle := i } :=
  fun d member => ⟨d, List.mem_of_mem_eraseIdx member, d.idle, rfl⟩

/-- The string of a routed request names the endpoint that the `Director` chose. -/
theorem directed_routed (s : State) (req : Request) (endpoint : GoString) (rc : RouteConfig)
    (routed : (directed unicode s req endpoint).directed.route = some rc) :
    (directed unicode s req endpoint).directed.urlHost =
      poolKey rc (directed unicode s req endpoint).info.endpoint := by
  simp only [directed, director] at routed ⊢
  split at routed
  · rename_i rc' _
    simp only [Option.some.injEq] at routed
    subst routed
    cases choose : rc'.chooseEndpointFn <;> simp [endpointOf, choose, injectRequestInfoToCtx]
  · cases routed

theorem dialled_spec {r : InFlight} {c : Conn} (made : dialled unicode s r = some c) :
    c.urlHost = r.directed.urlHost ∧ c.endpoint = r.info.endpoint ∧ c.idle = true := by
  rw [dialled, Option.map_eq_some_iff] at made
  obtain ⟨⟨rc, dial⟩, -, rfl⟩ := made
  exact ⟨rfl, rfl, rfl⟩

theorem direct_inv {req : Request} {endpoint : GoString} (inv : Inv s)
    (guarded : Guarded unicode s (.direct req endpoint))
    (next : step unicode s (.direct req endpoint) = some t) : Inv t := by
  simp only [step, Option.ite_none_left_eq_some] at next
  obtain ⟨-, ⟨⟩⟩ := next
  refine ⟨inv.conns, ?_, ?_⟩
  · intro r member
    rw [List.mem_append, List.mem_singleton] at member
    rcases member with old | rfl
    · exact inv.routed r old
    · exact directed_routed s req endpoint
  · intro r member
    rw [List.mem_append, List.mem_singleton] at member
    rcases member with old | rfl
    · exact inv.apart r old
    · exact guarded

theorem dial_inv {i : Nat} (inv : Inv s) (guarded : Guarded unicode s (.dial i))
    (next : step unicode s (.dial i) = some t) : Inv t := by
  simp only [step] at next
  split at next
  · rename_i r flying
    rw [Option.map_eq_some_iff] at next
    obtain ⟨c, made, rfl⟩ := next
    obtain ⟨selected, apart⟩ := guarded r flying c made
    obtain ⟨urlHost, endpoint, -⟩ := dialled_spec made
    refine ⟨?_, inv.routed, ?_⟩
    · intro d member
      rw [List.mem_append, List.mem_singleton] at member
      rcases member with old | rfl
      · exact inv.conns d old
      · rw [urlHost, endpoint]
        exact inv.routed r (List.mem_of_getElem? flying) _ selected
    · intro r' member d member'
      rw [List.mem_append, List.mem_singleton] at member'
      rcases member' with old | rfl
      · exact inv.apart r' member d old
      · exact apart r' member
  · cases next

theorem step_inv (inv : Inv s) (guarded : Guarded unicode s l)
    (next : step unicode s l = some t) : Inv t := by
  have kept : ∀ d ∈ s.conns, ∃ c' ∈ s.conns, ∃ idle, d = { c' with idle := idle } :=
    fun d member => ⟨d, member, d.idle, rfl⟩
  cases l with
  | register rc =>
      simp only [step] at next
      split at next
      · cases next
        exact inv.of_sub (fun _ => id) kept
      · cases next
        exact inv
  | unRegister rc =>
      cases next
      exact inv.of_sub (fun _ => id) kept
  | direct req endpoint => exact direct_inv inv guarded next
  | dial i => exact dial_inv inv guarded next
  | send i j =>
      simp only [step] at next
      split at next
      · rename_i r c flying there
        split at next
        · cases next
          exact inv.of_sub (fun _ => id) (mem_set_idle there)
        · cases next
      · cases next
  | done i =>
      cases next
      exact inv.of_sub (fun r member => List.mem_of_mem_eraseIdx member) kept
  | release j keep =>
      simp only [step] at next
      split at next
      · rename_i c there
        split at next
        · cases next
        · split at next
          · cases next
            exact inv.of_sub (fun _ => id) (mem_set_idle there)
          · cases next
            exact inv.of_sub (fun _ => id) mem_eraseIdx
      · cases next
  | expire j =>
      simp only [step] at next
      split at next
      · split at next
        · cases next
          exact inv.of_sub (fun _ => id) mem_eraseIdx
        · cases next
      · cases next

/-- A connection under the string of a request is its own unless the two clash. -/
theorem owns_of_not_clashes {r : InFlight} {c : Conn} (inv : Inv s) (flying : r ∈ s.inFlight)
    (there : c ∈ s.conns) (same : c.urlHost = r.directed.urlHost) : Owns r c := by
  have apart := inv.apart r flying c there
  cases route : r.directed.route with
  | none =>
      refine absurd ?_ apart
      rw [Clashes, route]
      exact same
  | some rc =>
      rw [inv.conns c there, inv.routed r flying rc route] at same
      obtain ⟨key, endpoint⟩ := poolKey_injective same
      refine ⟨?_, endpoint⟩
      by_contra other
      apply apart
      rw [Clashes, route]
      refine ⟨key, endpoint, fun equal => other ?_⟩
      rw [route, equal]

theorem sent_over_own (inv : Inv s) (next : step unicode s l = some t) : SentOverOwn s l := by
  cases l with
  | send i j =>
      intro r flying c there
      rw [Option.mem_def] at flying there
      simp only [step, flying, there, Option.ite_none_right_eq_some] at next
      exact owns_of_not_clashes inv (List.mem_of_getElem? flying) (List.mem_of_getElem? there)
        next.1.2
  | _ => trivial

/-! ## What an unguarded step leads to -/

theorem foreign_send_idle {i j : Nat} {r : InFlight} {c : Conn}
    (flying : s.inFlight[i]? = some r) (there : s.conns[j]? = some c) (idle : c.idle = true)
    (same : c.urlHost = r.directed.urlHost) (foreign : ¬ Owns r c) :
    ¬ Along (step unicode) (fun s l _ => SentOverOwn s l) s [.send i j] := by
  intro along
  have sent : step unicode s (.send i j) =
      some { s with conns := s.conns.set j { c with idle := false } } := by
    simp only [step, flying, there]
    rw [if_pos ⟨idle, same⟩]
  exact foreign ((along _ sent).1 r flying c there)

/-- The request can be sent over the connection, at once or when that is idle again. -/
theorem foreign_send {i j : Nat} {r : InFlight} {c : Conn} (flying : s.inFlight[i]? = some r)
    (there : s.conns[j]? = some c) (same : c.urlHost = r.directed.urlHost)
    (foreign : ¬ Owns r c) :
    ∃ ms, ¬ Along (step unicode) (fun s l _ => SentOverOwn s l) s ms := by
  by_cases idle : c.idle = true
  · exact ⟨[.send i j], foreign_send_idle flying there idle same foreign⟩
  · refine ⟨[.release j true, .send i j], ?_⟩
    intro along
    have released : step unicode s (.release j true) =
        some { s with conns := s.conns.set j { c with idle := true } } := by
      simp only [step, there]
      rw [if_neg idle, if_pos trivial]
    have there' : (s.conns.set j { c with idle := true })[j]? = some { c with idle := true } := by
      rw [List.getElem?_set_self (List.getElem?_eq_some_iff.1 there).1]
    have later := (along _ released).2
    refine foreign_send_idle (r := r) (c := { c with idle := true }) ?_ there' rfl same ?_ later
    · exact flying
    · exact foreign

theorem poolKey_congr {rc rc' : RouteConfig} (key : SameKey rc rc') (endpoint : GoString) :
    poolKey rc endpoint = poolKey rc' endpoint := by
  obtain ⟨domain, location, user⟩ := key
  rw [poolKey, poolKey, domain, location, user]

theorem foreign_of_clashes {r : InFlight} {c : Conn}
    (conn : c.urlHost = poolKey c.route c.endpoint)
    (routed : ∀ rc, r.directed.route = some rc → r.directed.urlHost = poolKey rc r.info.endpoint)
    (clashes : Clashes r c) : c.urlHost = r.directed.urlHost ∧ ¬ Owns r c := by
  unfold Clashes at clashes
  split at clashes
  · rename_i rc route
    obtain ⟨key, endpoint, other⟩ := clashes
    refine ⟨?_, fun owns => other ?_⟩
    · rw [conn, routed rc route, poolKey_congr key, endpoint]
    · have := owns.1
      rw [route, Option.some.injEq] at this
      exact this.symm
  · rename_i unrouted
    refine ⟨clashes, ?_⟩
    intro owns
    have := owns.1
    rw [unrouted] at this
    cases this

theorem unguarded_direct {req : Request} {endpoint : GoString} (inv : Inv s)
    (next : step unicode s (.direct req endpoint) = some t)
    (unguarded : ¬ Guarded unicode s (.direct req endpoint)) :
    ∃ ms, ¬ Along (step unicode) (fun s l _ => SentOverOwn s l) t ms := by
  simp only [step, Option.ite_none_left_eq_some] at next
  obtain ⟨-, ⟨⟩⟩ := next
  simp only [Guarded, not_forall, not_not] at unguarded
  obtain ⟨c, member, clashes⟩ := unguarded
  obtain ⟨j, there⟩ := List.mem_iff_getElem?.1 member
  obtain ⟨same, foreign⟩ := foreign_of_clashes (inv.conns c member)
    (directed_routed s req endpoint) clashes
  exact foreign_send (i := s.inFlight.length) List.getElem?_concat_length there same foreign

theorem unguarded_dial {i : Nat} (inv : Inv s) (next : step unicode s (.dial i) = some t)
    (unguarded : ¬ Guarded unicode s (.dial i)) :
    ∃ ms, ¬ Along (step unicode) (fun s l _ => SentOverOwn s l) t ms := by
  simp only [step] at next
  split at next
  · rename_i r flying
    rw [Option.map_eq_some_iff] at next
    obtain ⟨c, made, rfl⟩ := next
    obtain ⟨urlHost, endpoint, -⟩ := dialled_spec made
    have there : (s.conns ++ [c])[s.conns.length]? = some c := List.getElem?_concat_length
    by_cases selected : r.directed.route = some c.route
    · have conn : c.urlHost = poolKey c.route c.endpoint := by
        rw [urlHost, endpoint]
        exact inv.routed r (List.mem_of_getElem? flying) _ selected
      simp only [Guarded, Option.mem_def, flying, made, Option.some.injEq, forall_eq',
        selected, true_and, not_forall, not_not] at unguarded
      obtain ⟨r', member, clashes⟩ := unguarded
      obtain ⟨i', flying'⟩ := List.mem_iff_getElem?.1 member
      obtain ⟨same, foreign⟩ := foreign_of_clashes conn (inv.routed r' member) clashes
      exact foreign_send flying' there same foreign
    · exact foreign_send flying there urlHost fun owns => selected owns.1
  · cases next

theorem unguarded_step (inv : Inv s) (next : step unicode s l = some t)
    (unguarded : ¬ Guarded unicode s l) :
    ∃ ms, ¬ Along (step unicode) (fun s l _ => SentOverOwn s l) t ms := by
  cases l with
  | direct req endpoint => exact unguarded_direct inv next unguarded
  | dial i => exact unguarded_dial inv next unguarded
  | _ => exact absurd trivial unguarded

end Steps

/-! ## The result -/

/-- **In a guarded run every request goes over a connection of its own route and
endpoint**; and the first unguarded step of a run can be continued to a request that
does not. -/
theorem guarded_runs_keep_routes_apart (unicode : GoString → GoString) :
    (∀ ls, Along (step unicode) (fun s l _ => Guarded unicode s l) start ls →
      Along (step unicode) (fun s l _ => SentOverOwn s l) start ls) ∧
    (∀ ls s l t, Along (step unicode) (fun s l _ => Guarded unicode s l) start ls →
      exec (step unicode) start ls = some s → step unicode s l = some t →
      ¬ Guarded unicode s l →
      ∃ ms, ¬ Along (step unicode) (fun s l _ => SentOverOwn s l) t ms) := by
  have kept : ∀ s l t, Inv s → Guarded unicode s l → step unicode s l = some t → Inv t :=
    fun s l t inv guarded next => step_inv inv guarded next
  constructor
  · intro ls guarded
    exact guarded.strengthen Inv kept (fun s l t inv _ next => sent_over_own inv next) start_inv
  · intro ls s l t guarded run next unguarded
    exact unguarded_step (invariant_of_along Inv kept start_inv guarded run) next unguarded

/-- "web.example.com" of one proxy, and of the next one: another function. -/
def webRoute (fn : Nat) : RouteConfig where
  addr := 0
  domain := GoString.lit "web.example.com"
  location := []
  rewriteHost := []
  username := []
  password := []
  headers := []
  routeByHTTPUser := []
  createConnFn := some fn
  chooseEndpointFn := none
  createConnByEndpointFn := none

def webRequest : Request where
  method := GoString.lit "GET"
  urlHost := []
  urlPath := GoString.lit "/"
  host := GoString.lit "web.example.com"
  authorization := []
  proxyAuthorization := []
  remoteAddr := GoString.lit "10.0.0.1:4000"

/-- A request is answered over a connection of the first proxy; the domain goes to the
second one, and the next request finds that connection idle. -/
def domainHandedOver : List Label :=
  [.register (webRoute 1), .direct webRequest [], .dial 0, .send 0 0, .done 0, .release 0 true,
    .unRegister (webRoute 1), .register (webRoute 2), .direct webRequest []]

theorem successor_reuses_connection :
    ¬ Along (step id) (fun s l _ => SentOverOwn s l) start (domainHandedOver ++ [.send 0 0]) := by
  have run : (exec (step id) start domainHandedOver).map (fun s =>
      (s.inFlight[0]?.bind fun r => r.directed.route.bind RouteConfig.createConnFn,
        s.conns[0]?.bind fun c => c.route.createConnFn, (step id s (.send 0 0)).isSome)) =
      some (some 2, some 1, true) := by decide
  obtain ⟨s, first, found⟩ := Option.map_eq_some_iff.1 run
  simp only [Prod.mk.injEq, Option.bind_eq_some_iff] at found
  obtain ⟨⟨r, flying, rc, route, second⟩, ⟨c, there, firstFn⟩, enabled⟩ := found
  obtain ⟨t, next⟩ := Option.isSome_iff_exists.1 enabled
  intro along
  have owns : Owns r c := (along.of_append first t next).1 r flying c there
  rw [Owns, route, Option.some.injEq] at owns
  rw [owns.1, firstFn] at second
  exact absurd second (by decide)

end ChmlFrp.Vhost.Pool
