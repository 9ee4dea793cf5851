/-
# ChmlFrp.Vhost.Router — the table of routes and the search by host name

`pkg/util/vhost/router.go`, and the search that `HTTPReverseProxy.getVhost` and
`Muxer.getListener` make in it: the host itself, then its wildcard domains, then `*`,
and for each of them the user's routes before the routes for everybody.
-/
import ChmlFrp.Lib.GoMap
import ChmlFrp.Lib.GoString
import ChmlFrp.Lib.Transition
import Mathlib.Data.List.Sort

namespace ChmlFrp.Vhost

set_option autoImplicit false

universe u

open ChmlFrp.Lib

structure Router (α : Type u) where
  domain : GoString
  location : GoString
  httpUser : GoString
  payload : α
  deriving DecidableEq

structure Routers (α : Type u) where
  indexByDomain : GoMap GoString (GoMap GoString (List (Router α)))

/-- `NewRouters` -/
def newRouters {α : Type u} : Routers α := ⟨∅⟩

namespace Routers

variable {α : Type u} (r : Routers α)

/-- The routes of one domain and user, longest location first. -/
def list (domain httpUser : GoString) : List (Router α) :=
  match r.indexByDomain.get domain with
  | some routersByHTTPUser => (routersByHTTPUser.get httpUser).getD []
  | none => []

def exist (host path httpUser : GoString) : Option (Router α) :=
  (r.list host httpUser).find? fun vr => path == vr.location

/-- The new list under the domain and user. -/
def store (domain httpUser : GoString) (vrs : List (Router α)) : Routers α :=
  let routersByHTTPUser := (r.indexByDomain.get domain).getD ∅
  ⟨r.indexByDomain.set domain (routersByHTTPUser.set httpUser vrs)⟩

/-- `sort.Reverse(ByLocation(vrs))` -/
def sortByLocation (vrs : List (Router α)) : List (Router α) :=
  vrs.insertionSort fun a b => b.location ≤ a.location

/-- `Routers.Add`; `none` is `ErrRouterConfigConflict`. -/
def add (domain location httpUser : GoString) (payload : α) : Option (Routers α) :=
  match r.exist domain location httpUser with
  | some _ => none
  | none =>
      let vrs := r.list domain httpUser ++ [⟨domain, location, httpUser, payload⟩]
      some (r.store domain httpUser (sortByLocation vrs))

/-- `Routers.Del` -/
def del (domain location httpUser : GoString) : Routers α :=
  match r.indexByDomain.get domain with
  | none => r
  | some routersByHTTPUser =>
      match routersByHTTPUser.get httpUser with
      | none => r
      | some vrs => r.store domain httpUser (vrs.filter fun vr => vr.location ≠ location)

/-- `Routers.Get` -/
def get (host path httpUser : GoString) : Option (Router α) :=
  (r.list host httpUser).find? fun vr => vr.location.isPrefixOf path

/-! ## The search -/

/-- `findRouter`: the user's routes, then the routes that do not name a user. -/
def findRouter (domain location httpUser : GoString) : Option (Router α) :=
  (r.get domain location httpUser).or (r.get domain location [])

def star : GoString := GoString.lit "*"

/-- The loop over the wildcard domains `*.example.com`, `*.com`. -/
def findWildcard (location httpUser : GoString) : List GoString → Option (Router α)
  | [] => none
  | _ :: domainSplit =>
      if domainSplit.length + 1 < 3 then none
      else
        let domain := GoString.join (star :: domainSplit) GoString.dot
        (r.findRouter domain location httpUser).or (findWildcard location httpUser domainSplit)

/-- The body of `getVhost` and `getListener`. -/
def search (domain location httpUser : GoString) : Option (Router α) :=
  (r.findRouter domain location httpUser).or
    ((r.findWildcard location httpUser (GoString.split domain GoString.dot)).or
      (r.findRouter star location httpUser))

/-! ## What the operations do to the lists -/

section Lists

variable {r}
variable {domain location httpUser : GoString}

theorem list_store (domain' httpUser' : GoString) (vrs : List (Router α)) :
    (r.store domain httpUser vrs).list domain' httpUser' =
      if domain' = domain ∧ httpUser' = httpUser then vrs else r.list domain' httpUser' := by
  by_cases sameDomain : domain' = domain
  · subst sameDomain
    cases known : r.indexByDomain.get domain' with
    | none => by_cases sameUser : httpUser' = httpUser <;> simp [list, store, known, sameUser]
    | some users => by_cases sameUser : httpUser' = httpUser <;> simp [list, store, known, sameUser]
  · simp [list, store, sameDomain]

@[simp] theorem list_newRouters (domain httpUser : GoString) :
    (newRouters : Routers α).list domain httpUser = [] := by
  simp [list, newRouters]

theorem get_mem {path : GoString} {vr : Router α} (found : r.get domain path httpUser = some vr) :
    vr ∈ r.list domain httpUser := List.mem_of_find?_eq_some found

theorem findRouter_mem {vr : Router α} (found : r.findRouter domain location httpUser = some vr) :
    vr ∈ r.list domain httpUser ∨ vr ∈ r.list domain [] := by
  rw [findRouter, Option.or_eq_some_iff] at found
  rcases found with user | ⟨-, everybody⟩
  · exact .inl (get_mem user)
  · exact .inr (get_mem everybody)

/-- A search finds a route of the user or one that does not name a user. -/
theorem search_mem {vr : Router α} (found : r.search domain location httpUser = some vr) :
    ∃ name, vr ∈ r.list name httpUser ∨ vr ∈ r.list name [] := by
  have wildcard : ∀ labels, r.findWildcard location httpUser labels = some vr →
      ∃ name, vr ∈ r.list name httpUser ∨ vr ∈ r.list name [] := by
    intro labels found
    induction labels with
    | nil => cases found
    | cons label labels ih =>
        unfold findWildcard at found
        split at found
        · cases found
        · rw [Option.or_eq_some_iff] at found
          rcases found with here | ⟨-, later⟩
          · exact ⟨_, findRouter_mem here⟩
          · exact ih later
  rw [search, Option.or_eq_some_iff, Option.or_eq_some_iff] at found
  rcases found with exact_ | ⟨-, suffix | ⟨-, all⟩⟩
  · exact ⟨domain, findRouter_mem exact_⟩
  · exact wildcard _ suffix
  · exact ⟨star, findRouter_mem all⟩

theorem search_isSome_of_star (all : (r.findRouter star location httpUser).isSome) :
    (r.search domain location httpUser).isSome := by
  simp [search, all]

end Lists

/-! ## Reachable tables -/

inductive Op (α : Type u) where
  | add (domain location httpUser : GoString) (payload : α)
  | del (domain location httpUser : GoString)

/-- A call of `Add` or `Del`; an `Add` that fails changes nothing. -/
def apply : Op α → Option (Routers α)
  | .add domain location httpUser payload =>
      some ((r.add domain location httpUser payload).getD r)
  | .del domain location httpUser => some (r.del domain location httpUser)

end Routers

/-- The tables that calls of `Add` and `Del` make of an empty one. -/
def Routers.Built {α : Type u} (r : Routers α) : Prop :=
  Transition.Reachable Routers.apply newRouters r

end ChmlFrp.Vhost
