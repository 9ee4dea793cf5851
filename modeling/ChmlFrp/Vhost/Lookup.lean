/-
# ChmlFrp.Vhost.Lookup — what a search in the table of routes finds

The table for its users: at most one route under each domain, location and user.
`Add` and `Del` insert into that table and erase from it, and a search finds the first
route in an order of three levels: the candidate domains of the host, at each of them
the user before the empty user, and under each pair the longest location.

* `table_add`, `table_del`: the nested maps of sorted slices refine the table.
* `built_correct`: what `Add`, `Del` and `Get` do to the entries after any calls.
* `search_eq_some_iff`: the loop finds exactly the first match.
* `lookups_meet_spec`: `getVhost` and `getListener` both do.
-/
import ChmlFrp.Vhost.Http
import ChmlFrp.Vhost.Muxer

namespace ChmlFrp.Vhost

set_option autoImplicit false

universe u v

open ChmlFrp.Lib

variable {α : Type u}

/-! ## The table of routes -/

/-- The routes by domain, location and user. -/
abbrev Table (α : Type u) := GoString → GoString → GoString → Option α

namespace Table

def empty : Table α := fun _ _ _ => none

def set (t : Table α) (domain location user : GoString) (payload : Option α) : Table α :=
  fun d l u => if d = domain ∧ l = location ∧ u = user then payload else t d l u

/-- What a call of `Add` or `Del` is to do: an entry that is there is not overwritten. -/
def apply (t : Table α) : Routers.Op α → Table α
  | .add domain location user payload =>
      if (t domain location user).isSome then t else t.set domain location user (some payload)
  | .del domain location user => t.set domain location user none

/-- The table after calls of `Add` and `Del`, from the empty one. -/
def after (ops : List (Routers.Op α)) : Table α := ops.foldl apply empty

/-! ## The first match -/

/-- The suffixes of the host's labels, proper and of at least two labels, longest first. -/
def properSuffixes (labels : List GoString) : List (List GoString) :=
  (labels.tails.drop 1).filter fun labels => 2 ≤ labels.length

/-- `*.` before the labels of a suffix. -/
def wildcard (labels : List GoString) : GoString :=
  GoString.join (Routers.star :: labels) GoString.dot

/-- The domains that cover a host, in the order in which they are tried. -/
def candidates (host : GoString) : List GoString :=
  host :: (properSuffixes (GoString.split host GoString.dot)).map wildcard ++ [Routers.star]

/-- The pairs of domain and user that are tried. -/
def attempts (host user : GoString) : List (GoString × GoString) :=
  (candidates host).flatMap fun domain => [(domain, user), (domain, [])]

/-- The entry is under the pair, and its location is the longest prefix of the path there. -/
structure Longest (t : Table α) (path domain user : GoString) (vr : Router α) : Prop where
  key : vr.domain = domain ∧ vr.httpUser = user
  entry : t domain vr.location user = some vr.payload
  covers : vr.location <+: path
  longest : ∀ location payload, t domain location user = some payload → location <+: path →
    location.length ≤ vr.location.length

/-- No location under the pair is a prefix of the path. -/
def Misses (t : Table α) (path domain user : GoString) : Prop :=
  ∀ location payload, t domain location user = some payload → ¬ location <+: path

/-- The first match: the longest location under the first pair that does not miss. -/
def FirstMatch (t : Table α) (host path user : GoString) (vr : Router α) : Prop :=
  ∃ before domain user' after, attempts host user = before ++ (domain, user') :: after ∧
    (∀ pair ∈ before, t.Misses path pair.1 pair.2) ∧ t.Longest path domain user' vr

/-- The entry that a match names is the only one: a location is as long as the prefix of
the path that it is. -/
theorem Longest.unique {t : Table α} {path domain user : GoString} {vr vr' : Router α}
    (first : t.Longest path domain user vr) (second : t.Longest path domain user vr') :
    vr = vr' := by
  have same : vr.location = vr'.location := by
    have le := second.longest _ _ first.entry first.covers
    have ge := first.longest _ _ second.entry second.covers
    rcases List.prefix_or_prefix_of_prefix first.covers second.covers with shorter | shorter
    · exact shorter.eq_of_length_le ge
    · exact (shorter.eq_of_length_le le).symm
  have payload : vr.payload = vr'.payload := by
    have entry := first.entry
    rw [same, second.entry] at entry
    exact (Option.some.inj entry).symm
  obtain ⟨d, l, u, p⟩ := vr
  obtain ⟨d', l', u', p'⟩ := vr'
  have domains : d = d' := first.key.1.trans second.key.1.symm
  have users : u = u' := first.key.2.trans second.key.2.symm
  cases domains
  cases users
  cases same
  cases payload
  rfl

theorem Longest.not_misses {t : Table α} {path domain user : GoString} {vr : Router α}
    (found : t.Longest path domain user vr) : ¬ t.Misses path domain user :=
  fun misses => misses _ _ found.entry found.covers

end Table

/-! ## The slices of a reachable table -/

/-- What a route is registered under. -/
def Router.key (vr : Router α) : GoString × GoString × GoString :=
  (vr.domain, vr.location, vr.httpUser)

namespace Routers

variable {r : Routers α} {domain location user path host : GoString}

/-- What the slices of a table keep: each holds the routes of its own domain and user,
with different locations in descending order. -/
structure Sorted (r : Routers α) : Prop where
  keys : ∀ domain user, ∀ vr ∈ r.list domain user, vr.domain = domain ∧ vr.httpUser = user
  descending : ∀ domain user,
    (r.list domain user).Pairwise fun vr vr' => vr'.location < vr.location

theorem Sorted.different (sorted : r.Sorted) (domain user : GoString) :
    (r.list domain user).Pairwise fun vr vr' => vr.location ≠ vr'.location := by
  apply (sorted.descending domain user).imp
  intro vr vr' less same
  rw [same] at less
  exact List.lt_irrefl _ less

theorem exist_eq_none_iff :
    r.exist domain location user = none ↔
      ∀ vr ∈ r.list domain user, location ≠ vr.location := by
  unfold exist
  simp only [List.find?_eq_none, beq_iff_eq, ne_eq]

theorem descending_sortByLocation {vrs : List (Router α)}
    (different : vrs.Pairwise fun vr vr' => vr.location ≠ vr'.location) :
    (sortByLocation vrs).Pairwise fun vr vr' => vr'.location < vr.location := by
  have total : Std.Total fun a b : Router α => b.location ≤ a.location :=
    ⟨fun a b => List.le_total b.location a.location⟩
  have trans : IsTrans (Router α) fun a b => b.location ≤ a.location :=
    ⟨fun _ _ _ first second => List.le_trans second first⟩
  have ordered : (sortByLocation vrs).Pairwise fun vr vr' => vr'.location ≤ vr.location :=
    List.pairwise_insertionSort _ vrs
  have apart : (sortByLocation vrs).Pairwise fun vr vr' => vr.location ≠ vr'.location :=
    (List.Perm.pairwise_iff (fun ne => Ne.symm ne) (List.perm_insertionSort _ vrs)).2 different
  apply (ordered.and apart).imp
  intro vr vr' both
  rcases List.le_iff_lt_or_eq.1 both.1 with less | same
  · exact less
  · exact absurd same.symm both.2

theorem sorted_newRouters : (newRouters : Routers α).Sorted where
  keys domain user vr mem := by simp at mem
  descending domain user := by simp

theorem Sorted.store (sorted : r.Sorted) {vrs : List (Router α)}
    (keys : ∀ vr ∈ vrs, vr.domain = domain ∧ vr.httpUser = user)
    (descending : vrs.Pairwise fun vr vr' => vr'.location < vr.location) :
    (r.store domain user vrs).Sorted where
  keys d u vr mem := by
    rw [list_store] at mem
    split at mem
    · rename_i same
      rw [same.1, same.2]
      exact keys vr mem
    · exact sorted.keys d u vr mem
  descending d u := by
    rw [list_store]
    split
    · exact descending
    · exact sorted.descending d u

theorem Sorted.add (sorted : r.Sorted) {payload : α} {r' : Routers α}
    (added : r.add domain location user payload = some r') : r'.Sorted := by
  unfold Routers.add at added
  split at added
  · cases added
  · rename_i free
    cases added
    rw [exist_eq_none_iff] at free
    apply sorted.store
    · intro vr mem
      rw [sortByLocation, List.mem_insertionSort, List.mem_append, List.mem_singleton] at mem
      rcases mem with old | rfl
      · exact sorted.keys domain user vr old
      · exact ⟨rfl, rfl⟩
    · apply descending_sortByLocation
      rw [List.pairwise_append]
      refine ⟨sorted.different domain user, List.pairwise_singleton _ _, ?_⟩
      intro vr old vr' new
      rw [List.mem_singleton] at new
      subst new
      exact (free vr old).symm

theorem Sorted.del (sorted : r.Sorted) : (r.del domain location user).Sorted := by
  unfold Routers.del
  split
  · exact sorted
  · rename_i users known
    split
    · exact sorted
    · rename_i vrs present
      have listed : r.list domain user = vrs := by simp [list, known, present]
      apply sorted.store
      · intro vr mem
        exact sorted.keys domain user vr (listed ▸ List.mem_of_mem_filter mem)
      · exact (listed ▸ sorted.descending domain user).filter _

/-- **Sorted.** Every table that `Add` and `Del` make keeps its slices in order. -/
theorem Built.sorted (built : r.Built) : r.Sorted := by
  have kept : ∀ s (l : Op α) t, Sorted s → apply s l = some t → Sorted t := by
    intro s l t sorted next
    cases l with
    | add domain location user payload =>
        simp only [apply, Option.some.injEq] at next
        subst next
        cases added : s.add domain location user payload with
        | none => exact sorted
        | some s' => exact sorted.add added
    | del domain location user =>
        simp only [apply, Option.some.injEq] at next
        subst next
        exact sorted.del
  exact Transition.Reachable.invariant kept sorted_newRouters built

/-! ## The slices as a table -/

/-- The table that the slices hold. -/
def table (r : Routers α) : Table α :=
  fun domain location user => (r.exist domain location user).map Router.payload

theorem Sorted.table_eq_some_iff (sorted : r.Sorted) {payload : α} :
    r.table domain location user = some payload ↔
      ⟨domain, location, user, payload⟩ ∈ r.list domain user := by
  unfold table
  rw [Option.map_eq_some_iff]
  constructor
  · rintro ⟨vr, found, rfl⟩
    have mem : vr ∈ r.list domain user := List.mem_of_find?_eq_some found
    have loc : location = vr.location := by simpa using List.find?_some found
    have key := sorted.keys domain user vr mem
    rw [← key.1, ← key.2, loc]
    rw [← key.1, ← key.2] at mem
    exact mem
  · intro mem
    cases found : r.exist domain location user with
    | none => exact absurd rfl (exist_eq_none_iff.1 found _ mem)
    | some vr =>
        have mem' : vr ∈ r.list domain user := List.mem_of_find?_eq_some found
        have loc : location = vr.location := by simpa using List.find?_some found
        have same : vr = ⟨domain, location, user, payload⟩ := by
          by_contra ne
          have symm : Std.Symm fun a b : Router α => a.location ≠ b.location :=
            ⟨fun _ _ => Ne.symm⟩
          exact (sorted.different domain user).forall mem' mem ne loc.symm
        exact ⟨vr, rfl, by rw [same]⟩

theorem table_newRouters : (newRouters : Routers α).table = Table.empty := by
  funext domain location user
  simp [table, exist, Table.empty]

/-- **Add.** A taken entry is refused, and a free one is set. -/
theorem Sorted.table_add (sorted : r.Sorted) (payload : α) :
    ((r.add domain location user payload).getD r).table =
      r.table.apply (.add domain location user payload) := by
  show _ = if (r.table domain location user).isSome then r.table
    else r.table.set domain location user (some payload)
  cases found : r.exist domain location user with
  | some vr =>
      have taken : (r.table domain location user).isSome := by simp [table, found]
      rw [if_pos taken]
      simp [Routers.add, found]
  | none =>
      have free : r.table domain location user = none := by simp [table, found]
      rw [free, if_neg (by simp)]
      have added : r.add domain location user payload = some (r.store domain user
          (sortByLocation (r.list domain user ++ [⟨domain, location, user, payload⟩]))) := by
        simp [Routers.add, found]
      have sorted' := sorted.add added
      rw [added, Option.getD_some]
      funext d l u
      apply Option.ext
      intro p
      rw [sorted'.table_eq_some_iff, list_store]
      by_cases slice : d = domain ∧ u = user
      · obtain ⟨rfl, rfl⟩ := slice
        rw [if_pos ⟨rfl, rfl⟩, sortByLocation, List.mem_insertionSort, List.mem_append,
          ← sorted.table_eq_some_iff, List.mem_singleton]
        by_cases same : l = location
        · subst same
          simp [Table.set, free, eq_comm]
        · simp [Table.set, same]
      · have other : ¬ (d = domain ∧ l = location ∧ u = user) := fun h => slice ⟨h.1, h.2.2⟩
        rw [if_neg slice, ← sorted.table_eq_some_iff, Table.set, if_neg other]

theorem Sorted.add_eq_some (sorted : r.Sorted) {payload : α} {r' : Routers α}
    (added : r.add domain location user payload = some r') :
    r.table domain location user = none ∧
      r'.table = r.table.set domain location user (some payload) := by
  have free : r.table domain location user = none := by
    unfold Routers.add at added
    split at added
    · cases added
    · rename_i absent
      rw [table, absent, Option.map_none]
  have table' : ((r.add domain location user payload).getD r).table =
      r.table.apply (.add domain location user payload) := sorted.table_add payload
  rw [added, Option.getD_some, Table.apply, free] at table'
  exact ⟨free, table'⟩

theorem add_isSome_of_free {payload : α} (free : r.table domain location user = none) :
    (r.add domain location user payload).isSome := by
  rw [table, Option.map_eq_none_iff] at free
  simp [Routers.add, free]

theorem list_del (domain' user' : GoString) :
    (r.del domain location user).list domain' user' =
      if domain' = domain ∧ user' = user then
        (r.list domain user).filter fun vr => vr.location ≠ location
      else r.list domain' user' := by
  have absent : r.list domain user = [] → r.list domain' user' =
      if domain' = domain ∧ user' = user then
        (r.list domain user).filter fun vr => vr.location ≠ location
      else r.list domain' user' := by
    intro empty
    split
    · rename_i same
      rw [same.1, same.2, empty, List.filter_nil]
    · rfl
  unfold del
  cases known : r.indexByDomain.get domain with
  | none => exact absent (by simp [list, known])
  | some users =>
      cases present : users.get user with
      | none => simpa only [present] using absent (by simp [list, known, present])
      | some vrs =>
          have listed : r.list domain user = vrs := by simp [list, known, present]
          simp only [present, list_store, listed]

/-- **Del.** The entry is gone, and every other one stays. -/
theorem Sorted.table_del (sorted : r.Sorted) :
    (r.del domain location user).table = r.table.apply (.del domain location user) := by
  have sorted' : (r.del domain location user).Sorted := sorted.del
  funext d l u
  apply Option.ext
  intro p
  rw [sorted'.table_eq_some_iff, list_del, Table.apply, Table.set]
  by_cases slice : d = domain ∧ u = user
  · obtain ⟨rfl, rfl⟩ := slice
    rw [if_pos ⟨rfl, rfl⟩, List.mem_filter, ← sorted.table_eq_some_iff]
    by_cases same : l = location
    · simp [same]
    · simp [same]
  · have other : ¬ (d = domain ∧ l = location ∧ u = user) := fun h => slice ⟨h.1, h.2.2⟩
    rw [if_neg slice, if_neg other, sorted.table_eq_some_iff]

/-- **Refinement.** The calls of `Add` and `Del` do to the slices what they are to do to
the table. -/
theorem table_of_exec {ops : List (Op α)}
    (run : Transition.exec apply newRouters ops = some r) : r.table = Table.after ops := by
  have steps : ∀ (s : Routers α), s.Sorted → Transition.exec apply s ops = some r →
      r.table = ops.foldl Table.apply s.table := by
    clear run
    induction ops with
    | nil =>
        intro s sorted run
        cases run
        rfl
    | cons op ops ih =>
        intro s sorted run
        obtain ⟨t, next, rest⟩ := Transition.exec_cons_eq_some.1 run
        cases op with
        | add domain location user payload =>
            cases next
            have sorted' : ((s.add domain location user payload).getD s).Sorted := by
              cases added : s.add domain location user payload with
              | none => exact sorted
              | some s' => exact sorted.add added
            rw [ih _ sorted' rest, sorted.table_add, List.foldl_cons]
        | del domain location user =>
            cases next
            rw [ih _ sorted.del rest, sorted.table_del, List.foldl_cons]
  show r.table = ops.foldl Table.apply Table.empty
  rw [← table_newRouters]
  exact steps newRouters sorted_newRouters run

/-! ## One pair of domain and user -/

theorem Sorted.get_eq_none_iff (sorted : r.Sorted) :
    r.get domain path user = none ↔ r.table.Misses path domain user := by
  unfold get Table.Misses
  rw [List.find?_eq_none]
  constructor
  · intro none' location payload entry covers
    have mem := sorted.table_eq_some_iff.1 entry
    exact none' _ mem (List.isPrefixOf_iff_prefix.2 covers)
  · intro misses vr mem covers
    have key := sorted.keys domain user vr mem
    have entry : r.table domain vr.location user = some vr.payload := by
      rw [sorted.table_eq_some_iff, ← key.1, ← key.2]
      rwa [← key.1, ← key.2] at mem
    exact misses _ _ entry (List.isPrefixOf_iff_prefix.1 covers)

/-- In a descending slice the first location that is a prefix of the path is the longest. -/
theorem Sorted.longest_of_get (sorted : r.Sorted) {vr : Router α}
    (found : r.get domain path user = some vr) : r.table.Longest path domain user vr := by
  have mem : vr ∈ r.list domain user := get_mem found
  have key := sorted.keys domain user vr mem
  obtain ⟨covers, before, after, slice, skipped⟩ := List.find?_eq_some_iff_append.1 found
  rw [List.isPrefixOf_iff_prefix] at covers
  refine ⟨key, ?_, covers, ?_⟩
  · rw [sorted.table_eq_some_iff, ← key.1, ← key.2]
    rwa [← key.1, ← key.2] at mem
  · intro location payload entry covers'
    have mem' := sorted.table_eq_some_iff.1 entry
    rw [slice, List.mem_append, List.mem_cons] at mem'
    rcases mem' with earlier | rfl | later
    · have no := skipped _ earlier
      rw [List.isPrefixOf_iff_prefix.2 covers'] at no
      cases no
    · exact Nat.le_refl _
    · have descending := sorted.descending domain user
      rw [slice, List.pairwise_append, List.pairwise_cons] at descending
      have less : location < vr.location := descending.2.1.1 _ later
      rcases List.prefix_or_prefix_of_prefix covers' covers with shorter | longer
      · exact shorter.length_le
      · exact absurd less (List.not_lt.2 longer.le)

theorem Sorted.get_eq_some_iff (sorted : r.Sorted) {vr : Router α} :
    r.get domain path user = some vr ↔ r.table.Longest path domain user vr := by
  constructor
  · exact sorted.longest_of_get
  · intro longest
    cases found : r.get domain path user with
    | none => exact absurd (sorted.get_eq_none_iff.1 found) longest.not_misses
    | some vr' => rw [(sorted.longest_of_get found).unique longest]

/-! ## One call on the entries -/

/-- The route is in one of the slices. -/
def Holds (r : Routers α) (vr : Router α) : Prop := ∃ domain user, vr ∈ r.list domain user

/-- What a table keeps, and what each call on it does. -/
structure Correct (r : Routers α) : Prop where
  /-- No two places in the slices hold routes with one key. -/
  distinct : ∀ (d u d' u' : GoString) (i i' : Nat) (vr vr' : Router α),
    (r.list d u)[i]? = some vr → (r.list d' u')[i']? = some vr' →
    vr.key = vr'.key → d = d' ∧ u = u' ∧ i = i'
  descending : ∀ domain user,
    (r.list domain user).Pairwise fun vr vr' => vr'.location < vr.location
  add_fails_iff : ∀ d l u payload,
    r.add d l u payload = none ↔ ∃ vr, r.Holds vr ∧ vr.key = (d, l, u)
  add_failed : ∀ d l u payload,
    r.add d l u payload = none → r.apply (.add d l u payload) = some r
  add_done : ∀ d l u payload r', r.add d l u payload = some r' →
    ∀ vr, r'.Holds vr ↔ r.Holds vr ∨ vr = ⟨d, l, u, payload⟩
  del_done : ∀ d l u vr, (r.del d l u).Holds vr ↔ r.Holds vr ∧ vr.key ≠ (d, l, u)
  get_some_iff : ∀ host path user vr, r.get host path user = some vr ↔
    (r.Holds vr ∧ vr.domain = host ∧ vr.httpUser = user ∧ vr.location <+: path) ∧
      ∀ vr', r.Holds vr' → vr'.domain = host → vr'.httpUser = user → vr'.location <+: path →
        vr'.location.length ≤ vr.location.length
  get_none_iff : ∀ host path user, r.get host path user = none ↔
    ∀ vr, r.Holds vr → vr.domain = host → vr.httpUser = user → ¬ vr.location <+: path

theorem Sorted.holds_iff (sorted : r.Sorted) {vr : Router α} :
    r.Holds vr ↔ r.table vr.domain vr.location vr.httpUser = some vr.payload := by
  rw [sorted.table_eq_some_iff]
  constructor
  · rintro ⟨domain, user, mem⟩
    obtain ⟨rfl, rfl⟩ := sorted.keys domain user vr mem
    exact mem
  · intro mem
    exact ⟨vr.domain, vr.httpUser, mem⟩

theorem Sorted.distinct (sorted : r.Sorted) {d u d' u' : GoString} {i i' : Nat}
    {vr vr' : Router α} (first : (r.list d u)[i]? = some vr)
    (second : (r.list d' u')[i']? = some vr') (same : vr.key = vr'.key) :
    d = d' ∧ u = u' ∧ i = i' := by
  obtain ⟨domains, locations, users⟩ : vr.domain = vr'.domain ∧ vr.location = vr'.location ∧
      vr.httpUser = vr'.httpUser := by simpa only [Router.key, Prod.mk.injEq] using same
  have key := sorted.keys d u vr (List.mem_of_getElem? first)
  have key' := sorted.keys d' u' vr' (List.mem_of_getElem? second)
  obtain rfl : d = d' := key.1.symm.trans (domains.trans key'.1)
  obtain rfl : u = u' := key.2.symm.trans (users.trans key'.2)
  refine ⟨rfl, rfl, ?_⟩
  obtain ⟨small, at_⟩ := List.getElem?_eq_some_iff.1 first
  obtain ⟨small', at'⟩ := List.getElem?_eq_some_iff.1 second
  have apart := List.pairwise_iff_getElem.1 (sorted.different d u)
  rcases Nat.lt_trichotomy i i' with less | eq | greater
  · have ne := apart i i' small small' less
    rw [at_, at'] at ne
    exact absurd locations ne
  · exact eq
  · have ne := apart i' i small' small greater
    rw [at_, at'] at ne
    exact absurd locations.symm ne

theorem Sorted.add_eq_none_iff (sorted : r.Sorted) {payload : α} :
    r.add domain location user payload = none ↔
      ∃ vr, r.Holds vr ∧ vr.key = (domain, location, user) := by
  constructor
  · intro refused
    cases entry : r.table domain location user with
    | none =>
        have added : (r.add domain location user payload).isSome := add_isSome_of_free entry
        rw [refused] at added
        cases added
    | some other => exact ⟨⟨domain, location, user, other⟩, sorted.holds_iff.2 entry, rfl⟩
  · rintro ⟨vr, held, key⟩
    cases key
    cases added : r.add vr.domain vr.location vr.httpUser payload with
    | none => rfl
    | some r' =>
        have free := (sorted.add_eq_some added).1
        rw [sorted.holds_iff.1 held] at free
        cases free

theorem Sorted.holds_add (sorted : r.Sorted) {payload : α} {r' : Routers α}
    (added : r.add domain location user payload = some r') (vr : Router α) :
    r'.Holds vr ↔ r.Holds vr ∨ vr = ⟨domain, location, user, payload⟩ := by
  obtain ⟨free, table'⟩ := sorted.add_eq_some added
  obtain ⟨d, l, u, p⟩ := vr
  rw [(sorted.add added).holds_iff, sorted.holds_iff, table', Table.set]
  by_cases same : d = domain ∧ l = location ∧ u = user
  · obtain ⟨rfl, rfl, rfl⟩ := same
    simp [free, eq_comm]
  · have other : (⟨d, l, u, p⟩ : Router α) ≠ ⟨domain, location, user, payload⟩ := by
      intro eq
      cases eq
      exact same ⟨rfl, rfl, rfl⟩
    simp [same, other]

theorem Sorted.holds_del (sorted : r.Sorted) (vr : Router α) :
    (r.del domain location user).Holds vr ↔
      r.Holds vr ∧ vr.key ≠ (domain, location, user) := by
  have sorted' : (r.del domain location user).Sorted := sorted.del
  obtain ⟨d, l, u, p⟩ := vr
  rw [sorted'.holds_iff, sorted.holds_iff, sorted.table_del, Table.apply, Table.set]
  by_cases same : d = domain ∧ l = location ∧ u = user
  · obtain ⟨rfl, rfl, rfl⟩ := same
    simp [Router.key]
  · simp [Router.key, same]

theorem Sorted.get_eq_some_iff_holds (sorted : r.Sorted) {vr : Router α} :
    r.get host path user = some vr ↔
      (r.Holds vr ∧ vr.domain = host ∧ vr.httpUser = user ∧ vr.location <+: path) ∧
        ∀ vr', r.Holds vr' → vr'.domain = host → vr'.httpUser = user → vr'.location <+: path →
          vr'.location.length ≤ vr.location.length := by
  rw [sorted.get_eq_some_iff]
  constructor
  · rintro ⟨⟨rfl, rfl⟩, entry, covers, longest⟩
    refine ⟨⟨sorted.holds_iff.2 entry, rfl, rfl, covers⟩, ?_⟩
    intro vr' held domains users covers'
    rw [sorted.holds_iff, domains, users] at held
    exact longest vr'.location vr'.payload held covers'
  · rintro ⟨⟨held, rfl, rfl, covers⟩, longest⟩
    refine ⟨⟨rfl, rfl⟩, sorted.holds_iff.1 held, covers, ?_⟩
    intro location payload entry covers'
    exact longest ⟨vr.domain, location, vr.httpUser, payload⟩ (sorted.holds_iff.2 entry) rfl rfl
      covers'

theorem Sorted.get_eq_none_iff_holds (sorted : r.Sorted) :
    r.get host path user = none ↔
      ∀ vr, r.Holds vr → vr.domain = host → vr.httpUser = user → ¬ vr.location <+: path := by
  rw [sorted.get_eq_none_iff]
  constructor
  · intro misses vr held domains users
    rw [sorted.holds_iff, domains, users] at held
    exact misses vr.location vr.payload held
  · intro misses location payload entry
    exact misses ⟨host, location, user, payload⟩ (sorted.holds_iff.2 entry) rfl rfl

theorem exec_apply_isSome (r : Routers α) (ops : List (Op α)) :
    (Transition.exec apply r ops).isSome := by
  induction ops generalizing r with
  | nil => rfl
  | cons op ops ih =>
      cases op with
      | add domain location user payload => exact ih _
      | del domain location user => exact ih _

/-- **The table is correct** after every sequence of calls of `Add` and `Del`. -/
theorem built_correct (ops : List (Op α)) :
    ∃ r, Transition.exec apply newRouters ops = some r ∧ r.Correct := by
  obtain ⟨r, built⟩ := Option.isSome_iff_exists.1 (exec_apply_isSome newRouters ops)
  have sorted : r.Sorted := Built.sorted ⟨ops, built⟩
  refine ⟨r, built, ?_⟩
  exact
    { distinct := fun _ _ _ _ _ _ _ _ => sorted.distinct
      descending := sorted.descending
      add_fails_iff := fun _ _ _ _ => sorted.add_eq_none_iff
      add_failed := fun d l u payload refused => by simp [apply, refused]
      add_done := fun _ _ _ _ _ => sorted.holds_add
      del_done := fun _ _ _ => sorted.holds_del
      get_some_iff := fun _ _ _ _ => sorted.get_eq_some_iff_holds
      get_none_iff := fun _ _ _ => sorted.get_eq_none_iff_holds }

/-! ## The search -/

open Table (properSuffixes wildcard candidates attempts FirstMatch Misses)

variable {labels : List GoString}

theorem findRouter_eq_findSome :
    r.findRouter domain path user =
      [(domain, user), (domain, [])].findSome? fun pair => r.get pair.1 path pair.2 := by
  unfold findRouter
  rw [List.findSome?_cons, List.findSome?_cons, List.findSome?_nil]
  cases r.get domain path user with
  | none => cases r.get domain path [] <;> rfl
  | some vr => rfl

theorem properSuffixes_cons (label : GoString) :
    properSuffixes (label :: labels) =
      if labels.length + 1 < 3 then [] else labels :: properSuffixes labels := by
  unfold properSuffixes
  rw [List.tails_cons, List.drop_succ_cons, List.drop_zero]
  cases labels with
  | nil => rfl
  | cons next rest =>
      rw [List.tails_cons, List.drop_succ_cons, List.drop_zero, List.filter_cons]
      cases rest with
      | nil => rfl
      | cons third rest =>
          have long : decide (2 ≤ (next :: third :: rest).length) = true :=
            decide_eq_true (by simp only [List.length_cons]; omega)
          have enough : ¬ (next :: third :: rest).length + 1 < 3 := by
            simp only [List.length_cons]
            omega
          rw [if_pos long, if_neg enough]

/-- The loop over the labels tries the wildcard of each proper suffix. -/
theorem findWildcard_eq_findSome :
    r.findWildcard path user labels =
      (((properSuffixes labels).map wildcard).flatMap fun domain =>
        [(domain, user), (domain, [])]).findSome? fun pair => r.get pair.1 path pair.2 := by
  induction labels with
  | nil => rfl
  | cons label labels ih =>
      unfold findWildcard
      rw [properSuffixes_cons]
      split
      · rfl
      · rw [List.map_cons, List.flatMap_cons, List.findSome?_append, ← ih,
          ← findRouter_eq_findSome]
        rfl

theorem search_eq_findSome :
    r.search host path user =
      (attempts host user).findSome? fun pair => r.get pair.1 path pair.2 := by
  unfold search attempts candidates
  rw [findWildcard_eq_findSome, List.cons_append, List.flatMap_cons, List.flatMap_append,
    List.findSome?_append, List.findSome?_append, ← findRouter_eq_findSome, List.flatMap_singleton,
    ← findRouter_eq_findSome]

/-- **First match.** A search finds a route exactly if it is the first match. -/
theorem search_eq_some_iff (sorted : r.Sorted) {vr : Router α} :
    r.search host path user = some vr ↔ FirstMatch r.table host path user vr := by
  rw [search_eq_findSome, List.findSome?_eq_some_iff]
  constructor
  · rintro ⟨before, ⟨domain, user'⟩, after, order, found, skipped⟩
    refine ⟨before, domain, user', after, order, ?_, sorted.get_eq_some_iff.1 found⟩
    intro pair mem
    exact sorted.get_eq_none_iff.1 (skipped pair mem)
  · rintro ⟨before, domain, user', after, order, skipped, longest⟩
    refine ⟨before, (domain, user'), after, order, sorted.get_eq_some_iff.2 longest, ?_⟩
    intro pair mem
    exact sorted.get_eq_none_iff.2 (skipped pair mem)

theorem search_eq_none_iff (sorted : r.Sorted) :
    r.search host path user = none ↔
      ∀ pair ∈ attempts host user, Misses r.table path pair.1 pair.2 := by
  rw [search_eq_findSome, List.findSome?_eq_none_iff]
  exact forall₂_congr fun pair _ => sorted.get_eq_none_iff

end Routers

/-! ## The two lookups -/

open Table (attempts FirstMatch Misses)

/-- Whether a search finds a route depends on the keys of the table alone. -/
theorem misses_congr {β : Type v} {t : Table α} {t' : Table β} {path domain user : GoString}
    (keys : ∀ location, (t domain location user).isSome = (t' domain location user).isSome) :
    t.Misses path domain user ↔ t'.Misses path domain user := by
  have entries : ∀ location, (∃ payload, t domain location user = some payload) ↔
      ∃ payload, t' domain location user = some payload := by
    intro location
    rw [← Option.isSome_iff_exists, keys location, Option.isSome_iff_exists]
  constructor
  · intro misses location payload entry
    obtain ⟨payload', entry'⟩ := (entries location).2 ⟨payload, entry⟩
    exact misses location payload' entry'
  · intro misses location payload entry
    obtain ⟨payload', entry'⟩ := (entries location).1 ⟨payload, entry⟩
    exact misses location payload' entry'

/-- **Lookup.** After any calls of `Add` and `Del`, `getVhost` and `getListener` find the
first match and nothing else, and they find a route for the same hosts, paths and users
if the same keys are registered. -/
theorem lookups_meet_spec {ρ : Type v} (rp : HTTPRouters) (mux : Muxer ρ)
    (ops : List (Routers.Op RouteConfig)) (ops' : List (Routers.Op Listener))
    (built : Transition.exec Routers.apply newRouters ops = some rp)
    (built' : Transition.exec Routers.apply newRouters ops' = some mux.registryRouter) :
    (∀ host path user,
      (∀ vr, getVhost rp host path user = some vr ↔
        FirstMatch (Table.after ops) host path user vr) ∧
      (getVhost rp host path user = none ↔
        ∀ pair ∈ attempts host user, (Table.after ops).Misses path pair.1 pair.2)) ∧
    (∀ host path user,
      (∀ l, mux.getListener host path user = some l ↔
        ∃ vr, FirstMatch (Table.after ops') host path user vr ∧ vr.payload = l) ∧
      (mux.getListener host path user = none ↔
        ∀ pair ∈ attempts host user, (Table.after ops').Misses path pair.1 pair.2)) ∧
    ((∀ domain location user, (Table.after ops domain location user).isSome =
        (Table.after ops' domain location user).isSome) →
      ∀ host path user, (getVhost rp host path user).isSome =
        (mux.getListener host path user).isSome) := by
  have sorted : rp.Sorted := Routers.Built.sorted ⟨ops, built⟩
  have sorted' : mux.registryRouter.Sorted := Routers.Built.sorted ⟨ops', built'⟩
  have http : ∀ host path user, getVhost rp host path user = none ↔
      ∀ pair ∈ attempts host user, (Table.after ops).Misses path pair.1 pair.2 := by
    intro host path user
    rw [← Routers.table_of_exec built]
    exact Routers.search_eq_none_iff sorted
  have muxer : ∀ host path user, mux.getListener host path user = none ↔
      ∀ pair ∈ attempts host user, (Table.after ops').Misses path pair.1 pair.2 := by
    intro host path user
    rw [← Routers.table_of_exec built', Muxer.getListener, Option.map_eq_none_iff]
    exact Routers.search_eq_none_iff sorted'
  refine ⟨?_, ?_, ?_⟩
  · intro host path user
    refine ⟨fun vr => ?_, http host path user⟩
    rw [← Routers.table_of_exec built]
    exact Routers.search_eq_some_iff sorted
  · intro host path user
    refine ⟨fun l => ?_, muxer host path user⟩
    rw [← Routers.table_of_exec built', Muxer.getListener, Option.map_eq_some_iff]
    exact exists_congr fun vr => and_congr_left fun _ => Routers.search_eq_some_iff sorted'
  · intro keys host path user
    have same : getVhost rp host path user = none ↔ mux.getListener host path user = none := by
      rw [http, muxer]
      apply forall₂_congr
      intro pair _
      exact misses_congr fun location => keys pair.1 location pair.2
    rw [Bool.eq_iff_iff, Option.isSome_iff_ne_none, Option.isSome_iff_ne_none]
    exact not_congr same

/-- Calls after which `*.example.com` has two locations and one of another user. -/
def wildcardOps : List (Routers.Op RouteConfig) :=
  let route location user := .add (GoString.lit "*.example.com") location user aliceRoute
  [route [] [], route (GoString.lit "/a") [], route (GoString.lit "/ab") (GoString.lit "bob")]

theorem lookups_meet_spec_wildcard :
    FirstMatch (Table.after wildcardOps) (GoString.lit "x.y.example.com") (GoString.lit "/abc") []
      ⟨GoString.lit "*.example.com", GoString.lit "/a", [], aliceRoute⟩ := by
  let mux : Muxer Unit := ⟨fun _ => none, none, none, newRouters⟩
  obtain ⟨rp, built⟩ : ∃ rp, Transition.exec Routers.apply newRouters wildcardOps = some rp :=
    ⟨_, rfl⟩
  have spec := lookups_meet_spec rp mux wildcardOps [] built rfl
  apply ((spec.1 _ _ _).1 _).1
  cases built
  decide

end ChmlFrp.Vhost
