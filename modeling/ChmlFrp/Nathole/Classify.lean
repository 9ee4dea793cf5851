/-
# ChmlFrp.Nathole.Classify — the NAT behind a list of mapped addresses

`pkg/nathole/classify.go`.  One pass over the addresses keeps a base to compare with,
two flags and the extreme ports.  An empty base host means that there is no base yet,
ports are compared as they are spelled, and their difference is an `int`.

* `classify_iff`: the result reads off the endpoints from the first one with a host on.
* `classify_meaning_iff`: it means what it says, in any order of the addresses, iff what
  varies shows among the endpoints with a host, equal ports are spelled alike and the
  difference fits.
* `classify_order_matters`: behind an empty host the order of two addresses decides.
-/
import ChmlFrp.Lib.Strconv
import ChmlFrp.Lib.Vary
import Mathlib.Data.List.Forall2
import Mathlib.Data.List.TakeWhile

namespace ChmlFrp.Nathole

set_option autoImplicit false

open ChmlFrp.Lib

inductive NatType where
  | easyNAT
  | hardNAT
  deriving DecidableEq, Repr

inductive Behavior where
  | noChange
  | ipChanged
  | portChanged
  | bothChanged
  deriving DecidableEq, Repr

structure NatFeature where
  natType : NatType
  behavior : Behavior
  portsDifference : Int
  regularPortsChange : Bool
  publicNetwork : Bool
  deriving DecidableEq, Repr

inductive ClassifyError where
  | notEnoughAddresses
  | address (err : GoString.AddrError)
  | port (err : NumError)
  deriving DecidableEq, Repr

/-! ## The pass over the addresses -/

/-- An address taken apart, with the port as it is spelled and as a number. -/
structure Endpoint where
  ip : GoString
  port : GoString
  portNum : Int
  deriving DecidableEq, Repr

/-- `net.SplitHostPort`, then `strconv.Atoi` -/
def parseEndpoint (addr : GoString) : Except ClassifyError Endpoint :=
  match GoString.splitHostPort addr with
  | .error err => .error (.address err)
  | .ok (ip, port) =>
      match Strconv.parseInt port with
      | .error err => .error (.port err)
      | .ok portNum => .ok ⟨ip, port, portNum⟩

/-- The variables of the loop. -/
structure Scan where
  publicNetwork : Bool
  ipChanged : Bool
  portChanged : Bool
  baseIP : GoString
  basePort : GoString
  portMax : Int
  portMin : Int
  deriving DecidableEq, Repr

/-- What an `int` keeps of a number. -/
def int64 (n : Int) : Int := n.bmod (2 ^ 64)

namespace Scan

def start : Scan := ⟨false, false, false, [], [], 0, 0⟩

/-- The body of the loop for an address that parses. -/
def add (localIPs : List GoString) (s : Scan) (e : Endpoint) : Scan :=
  let publicNetwork := if e.ip ∈ localIPs then true else s.publicNetwork
  if s.baseIP = [] then
    { s with
      publicNetwork
      baseIP := e.ip
      basePort := e.port
      portMax := e.portNum
      portMin := e.portNum }
  else
    { s with
      publicNetwork
      portMax := if s.portMax < e.portNum then e.portNum else s.portMax
      portMin := if e.portNum < s.portMin then e.portNum else s.portMin
      ipChanged := if s.baseIP ≠ e.ip then true else s.ipChanged
      portChanged := if s.basePort ≠ e.port then true else s.portChanged }

/-- What comes after the loop. -/
def feature (s : Scan) : NatFeature :=
  let (natType, behavior) :=
    match s.ipChanged, s.portChanged with
    | true, true => (NatType.hardNAT, Behavior.bothChanged)
    | true, false => (.hardNAT, .ipChanged)
    | false, true => (.hardNAT, .portChanged)
    | false, false => (.easyNAT, .noChange)
  let portsDifference := if behavior = .portChanged then int64 (s.portMax - s.portMin) else 0
  { natType
    behavior
    portsDifference
    regularPortsChange :=
      decide (behavior = .portChanged ∧ portsDifference ≤ 5 ∧ 1 ≤ portsDifference)
    publicNetwork := s.publicNetwork }

end Scan

def scan (localIPs : List GoString) : Scan → List GoString → Except ClassifyError Scan
  | s, [] => .ok s
  | s, addr :: rest =>
      match parseEndpoint addr with
      | .error err => .error err
      | .ok e => scan localIPs (s.add localIPs e) rest

def classifyNATFeature (addresses localIPs : List GoString) : Except ClassifyError NatFeature :=
  if addresses.length ≤ 1 then .error .notEnoughAddresses
  else
    match scan localIPs .start addresses with
    | .error err => .error err
    | .ok s => .ok s.feature

example : classifyNATFeature [.lit "192.0.2.1:4000", .lit "192.0.2.1:4003"] [] =
    .ok ⟨.hardNAT, .portChanged, 3, true, false⟩ := by decide

/-! ## The endpoints of accepted addresses -/

/-- The endpoints of the addresses that parse. -/
def endpoints (addresses : List GoString) : List Endpoint :=
  addresses.filterMap fun addr => (parseEndpoint addr).toOption

def Parses (addresses : List GoString) : Prop := ∀ a ∈ addresses, ∃ e, parseEndpoint a = .ok e

theorem endpoints_cons {addr : GoString} {e : Endpoint} (parsed : parseEndpoint addr = .ok e)
    (rest : List GoString) : endpoints (addr :: rest) = e :: endpoints rest := by
  simp [endpoints, parsed, Except.toOption]

theorem scan_eq_ok_iff {localIPs addresses : List GoString} {s t : Scan} :
    scan localIPs s addresses = .ok t ↔
      Parses addresses ∧ t = (endpoints addresses).foldl (Scan.add localIPs) s := by
  induction addresses generalizing s with
  | nil => simp [scan, Parses, endpoints, eq_comm]
  | cons addr rest ih =>
      rw [scan]
      cases parsed : parseEndpoint addr with
      | error err => simp [Parses, parsed]
      | ok e =>
          show scan localIPs (s.add localIPs e) rest = .ok t ↔ _
          rw [ih, endpoints_cons parsed, List.foldl_cons]
          simp [Parses, parsed]

/-- What the loop leaves of the addresses. -/
def scanned (localIPs : List GoString) (es : List Endpoint) : Scan :=
  es.foldl (Scan.add localIPs) .start

/-- **The result reads off the endpoints.** -/
theorem classify_iff {addresses localIPs : List GoString} {f : NatFeature} :
    classifyNATFeature addresses localIPs = .ok f ↔
      1 < addresses.length ∧ Parses addresses ∧
        f = (scanned localIPs (endpoints addresses)).feature := by
  unfold classifyNATFeature
  split
  · rename_i few
    constructor
    · intro h
      cases h
    · rintro ⟨many, -⟩
      omega
  · rename_i many
    rw [scanned]
    cases result : scan localIPs .start addresses with
    | error err =>
        constructor
        · intro h
          cases h
        · rintro ⟨-, parses, -⟩
          rw [scan_eq_ok_iff.2 ⟨parses, rfl⟩] at result
          cases result
    | ok s =>
        obtain ⟨parses, rfl⟩ := scan_eq_ok_iff.1 result
        simp [parses, Nat.lt_of_not_le many, eq_comm]

/-! ## What the pass measures -/

abbrev HostsVary (es : List Endpoint) : Prop := Varies Endpoint.ip es
abbrev PortsVary (es : List Endpoint) : Prop := Varies Endpoint.portNum es
abbrev SpellingsVary (es : List Endpoint) : Prop := Varies Endpoint.port es

/-- The endpoints that the loop compares: from the first one with a host on. -/
def compared (es : List Endpoint) : List Endpoint := es.dropWhile fun e => decide (e.ip = [])

def named (es : List Endpoint) : List Endpoint := es.filter fun e => decide (e.ip ≠ [])

/-- The loop has a base, the first entry of `l`, and has compared the entries of `l`. -/
structure Measures (s : Scan) (l : List Endpoint) : Prop where
  base : ∃ b rest, l = b :: rest ∧ b.ip ≠ [] ∧ s.baseIP = b.ip ∧ s.basePort = b.port
  ip : s.ipChanged = true ↔ HostsVary l
  port : s.portChanged = true ↔ SpellingsVary l
  most : ∃ e ∈ l, e.portNum = s.portMax
  least : ∃ e ∈ l, e.portNum = s.portMin
  between : ∀ e ∈ l, s.portMin ≤ e.portNum ∧ e.portNum ≤ s.portMax

variable {localIPs : List GoString}

theorem Measures.first {s : Scan} {e : Endpoint} (fresh : s.baseIP = [])
    (ip : s.ipChanged = false) (port : s.portChanged = false) (host : e.ip ≠ []) :
    Measures (s.add localIPs e) [e] := by
  have single : ∀ f : Endpoint → GoString, ¬ Varies f [e] := by
    intro f varies
    obtain ⟨a, inA, -⟩ := varies_cons_iff.1 varies
    cases inA
  unfold Scan.add
  rw [if_pos fresh]
  exact {
    base := ⟨e, [], rfl, host, rfl, rfl⟩
    ip := by simp [ip, single]
    port := by simp [port, single]
    most := ⟨e, List.mem_singleton_self e, rfl⟩
    least := ⟨e, List.mem_singleton_self e, rfl⟩
    between := by simp }

/-- A flag that is set when an entry differs from the base. -/
theorem flag_iff {f : Endpoint → GoString} {b e : Endpoint} {rest : List Endpoint} {flag : Bool}
    (before : flag = true ↔ Varies f (b :: rest)) :
    (if f b ≠ f e then true else flag) = true ↔ Varies f (b :: rest ++ [e]) := by
  rw [List.cons_append, varies_cons_iff]
  rw [varies_cons_iff] at before
  constructor
  · intro set
    split at set
    · rename_i differ
      exact ⟨e, by simp, fun same => differ same.symm⟩
    · obtain ⟨a, member, differ⟩ := before.1 set
      exact ⟨a, List.mem_append_left _ member, differ⟩
  · rintro ⟨a, member, differ⟩
    split
    · rfl
    · rename_i same
      rcases List.mem_append.1 member with old | new
      · exact before.2 ⟨a, old, differ⟩
      · rw [List.mem_singleton.1 new] at differ
        exact absurd (Eq.symm (not_not.1 same)) differ

theorem Measures.next {s : Scan} {l : List Endpoint} (m : Measures s l) (e : Endpoint) :
    Measures (s.add localIPs e) (l ++ [e]) := by
  obtain ⟨b, rest, rfl, host, baseIP, basePort⟩ := m.base
  have based : s.baseIP ≠ [] := baseIP ▸ host
  obtain ⟨hi, inHi, isMax⟩ := m.most
  obtain ⟨lo, inLo, isMin⟩ := m.least
  have bounds := m.between lo inLo
  unfold Scan.add
  rw [if_neg based]
  exact {
    base := ⟨b, rest ++ [e], rfl, host, baseIP, basePort⟩
    ip := baseIP ▸ flag_iff m.ip
    port := basePort ▸ flag_iff m.port
    most := by
      show ∃ a ∈ b :: rest ++ [e],
        a.portNum = if s.portMax < e.portNum then e.portNum else s.portMax
      split
      · exact ⟨e, by simp, rfl⟩
      · exact ⟨hi, List.mem_append_left _ inHi, isMax⟩
    least := by
      show ∃ a ∈ b :: rest ++ [e],
        a.portNum = if e.portNum < s.portMin then e.portNum else s.portMin
      split
      · exact ⟨e, by simp, rfl⟩
      · exact ⟨lo, List.mem_append_left _ inLo, isMin⟩
    between := by
      intro a member
      show (if e.portNum < s.portMin then e.portNum else s.portMin) ≤ a.portNum ∧
        a.portNum ≤ if s.portMax < e.portNum then e.portNum else s.portMax
      rcases List.mem_append.1 member with old | new
      · have := m.between a old
        split <;> split <;> omega
      · rw [List.mem_singleton.1 new]
        split <;> split <;> omega }

theorem Measures.fold {s : Scan} {l : List Endpoint} (m : Measures s l) (es : List Endpoint) :
    Measures (es.foldl (Scan.add localIPs) s) (l ++ es) := by
  induction es generalizing s l with
  | nil => simpa using m
  | cons e es ih =>
      have compares : Measures (s.add localIPs e) (l ++ [e]) := m.next e
      have all := ih compares
      rwa [List.append_assoc] at all

/-- Before the base is found every flag is clear, and from there on everything is
compared. -/
theorem fold_cases {s : Scan} (fresh : s.baseIP = []) (ip : s.ipChanged = false)
    (port : s.portChanged = false) (es : List Endpoint) :
    (compared es = [] ∧ (es.foldl (Scan.add localIPs) s).ipChanged = false ∧
        (es.foldl (Scan.add localIPs) s).portChanged = false) ∨
      Measures (es.foldl (Scan.add localIPs) s) (compared es) := by
  induction es generalizing s with
  | nil => exact .inl ⟨rfl, ip, port⟩
  | cons e es ih =>
      by_cases host : e.ip = []
      · have skip : compared (e :: es) = compared es := by simp [compared, host]
        rw [skip]
        apply ih <;> simp [Scan.add, fresh, host, ip, port]
      · have stop : compared (e :: es) = [e] ++ es := by simp [compared, host]
        rw [stop]
        exact .inr ((Measures.first fresh ip port host).fold es)

theorem fold_start (localIPs : List GoString) (es : List Endpoint) :
    (compared es = [] ∧ (scanned localIPs es).ipChanged = false ∧
        (scanned localIPs es).portChanged = false) ∨
      Measures (scanned localIPs es) (compared es) :=
  fold_cases (s := .start) rfl rfl rfl es

theorem scanned_publicNetwork (es : List Endpoint) :
    (scanned localIPs es).publicNetwork = true ↔ ∃ e ∈ es, e.ip ∈ localIPs := by
  suffices all : ∀ s : Scan, (es.foldl (Scan.add localIPs) s).publicNetwork = true ↔
      s.publicNetwork = true ∨ ∃ e ∈ es, e.ip ∈ localIPs by
    rw [scanned, all]
    simp [Scan.start]
  induction es with
  | nil => simp
  | cons e es ih =>
      intro s
      have step : (s.add localIPs e).publicNetwork =
          if e.ip ∈ localIPs then true else s.publicNetwork := by
        unfold Scan.add
        by_cases fresh : s.baseIP = []
        · rw [if_pos fresh]
        · rw [if_neg fresh]
      rw [List.foldl_cons, ih, step]
      by_cases isLocal : e.ip ∈ localIPs <;> simp [isLocal]

theorem scanned_ipChanged (localIPs : List GoString) (es : List Endpoint) :
    (scanned localIPs es).ipChanged = true ↔ HostsVary (compared es) := by
  rcases fold_start localIPs es with ⟨none, ip, -⟩ | m
  · rw [ip, none]
    simp [not_varies_nil]
  · exact m.ip

theorem scanned_portChanged (localIPs : List GoString) (es : List Endpoint) :
    (scanned localIPs es).portChanged = true ↔ SpellingsVary (compared es) := by
  rcases fold_start localIPs es with ⟨none, -, port⟩ | m
  · rw [port, none]
    simp [not_varies_nil]
  · exact m.port

theorem scanned_spread (localIPs : List GoString) {es : List Endpoint}
    (some_ : compared es ≠ []) :
    Spread Endpoint.portNum (compared es)
      ((scanned localIPs es).portMax - (scanned localIPs es).portMin) := by
  rcases fold_start localIPs es with ⟨none, -⟩ | m
  · exact absurd none some_
  · obtain ⟨hi, inHi, isMax⟩ := m.most
    obtain ⟨lo, inLo, isMin⟩ := m.least
    refine ⟨hi, inHi, lo, inLo, ?_, ?_⟩
    · rw [isMax, isMin]
      exact m.between
    · rw [isMax, isMin]

/-! ## The meaning of a classification -/

/-- The behaviour says whether hosts and whether port numbers vary. -/
def Behavior.Tells (behavior : Behavior) (hosts ports : Prop) : Prop :=
  match behavior with
  | .noChange => ¬ hosts ∧ ¬ ports
  | .ipChanged => hosts ∧ ¬ ports
  | .portChanged => ¬ hosts ∧ ports
  | .bothChanged => hosts ∧ ports

/-- What a classification of the addresses means, whatever their order. -/
structure Means (addresses localIPs : List GoString) (f : NatFeature) : Prop where
  permuted : ∀ shuffled, shuffled.Perm addresses → classifyNATFeature shuffled localIPs = .ok f
  easy : f.natType = .easyNAT ↔
    ¬ HostsVary (endpoints addresses) ∧ ¬ PortsVary (endpoints addresses)
  behavior : f.behavior.Tells (HostsVary (endpoints addresses)) (PortsVary (endpoints addresses))
  difference :
    (¬ HostsVary (endpoints addresses) ∧ PortsVary (endpoints addresses) →
      Spread Endpoint.portNum (endpoints addresses) f.portsDifference) ∧
    (¬ (¬ HostsVary (endpoints addresses) ∧ PortsVary (endpoints addresses)) →
      f.portsDifference = 0)
  regular : f.regularPortsChange = true ↔
    (¬ HostsVary (endpoints addresses) ∧ PortsVary (endpoints addresses)) ∧
      ∃ d, Spread Endpoint.portNum (endpoints addresses) d ∧ 1 ≤ d ∧ d ≤ 5

/-- What varies shows among the endpoints with a host, equal ports are spelled alike, and
a difference of ports fits into an `int`. -/
structure Plain (es : List Endpoint) : Prop where
  hosts : HostsVary es → HostsVary (named es)
  ports : PortsVary es → SpellingsVary (named es)
  spellings : named es ≠ [] → SpellingsVary es → PortsVary es
  fits : ¬ HostsVary es → ∀ a ∈ es, ∀ b ∈ es, a.portNum - b.portNum < 2 ^ 63

theorem Behavior.Tells.unique {behavior : Behavior} {hosts ports hosts' ports' : Prop}
    (first : behavior.Tells hosts ports) (second : behavior.Tells hosts' ports') :
    (hosts ↔ hosts') ∧ (ports ↔ ports') := by
  cases behavior <;> simp only [Behavior.Tells] at first second <;> tauto

theorem Behavior.Tells.congr {behavior : Behavior} {hosts ports hosts' ports' : Prop}
    (tells : behavior.Tells hosts ports) (sameHosts : hosts ↔ hosts') (samePorts : ports ↔ ports') :
    behavior.Tells hosts' ports' := by
  rw [← propext sameHosts, ← propext samePorts]
  exact tells

namespace Scan

theorem feature_tells (s : Scan) :
    s.feature.behavior.Tells (s.ipChanged = true) (s.portChanged = true) := by
  unfold feature
  cases s.ipChanged <;> cases s.portChanged <;> simp [Behavior.Tells]

theorem feature_easy (s : Scan) :
    s.feature.natType = .easyNAT ↔ ¬ s.ipChanged = true ∧ ¬ s.portChanged = true := by
  unfold feature
  cases s.ipChanged <;> cases s.portChanged <;> simp

theorem feature_difference (s : Scan) :
    s.feature.portsDifference =
      if ¬ s.ipChanged = true ∧ s.portChanged = true then int64 (s.portMax - s.portMin)
      else 0 := by
  unfold feature
  cases s.ipChanged <;> cases s.portChanged <;> simp

theorem feature_regular (s : Scan) :
    s.feature.regularPortsChange = true ↔
      (¬ s.ipChanged = true ∧ s.portChanged = true) ∧
        1 ≤ s.feature.portsDifference ∧ s.feature.portsDifference ≤ 5 := by
  rw [feature_difference]
  unfold feature
  cases s.ipChanged <;> cases s.portChanged <;> simp [and_comm]

theorem feature_congr {s t : Scan} (network : s.publicNetwork = t.publicNetwork)
    (ip : s.ipChanged = t.ipChanged) (port : s.portChanged = t.portChanged)
    (difference : ¬ s.ipChanged = true ∧ s.portChanged = true →
      s.portMax - s.portMin = t.portMax - t.portMin) :
    s.feature = t.feature := by
  unfold feature
  rw [← network, ← ip, ← port]
  cases sip : s.ipChanged <;> cases sport : s.portChanged <;> try rfl
  rw [difference (by simp [sip, sport])]

end Scan

/-! ## Reordered addresses -/

theorem forall₂_endpoints {addresses : List GoString} (parses : Parses addresses) :
    List.Forall₂ (fun e a => parseEndpoint a = .ok e) (endpoints addresses) addresses := by
  induction addresses with
  | nil => exact .nil
  | cons addr rest ih =>
      obtain ⟨e, parsed⟩ := parses addr List.mem_cons_self
      rw [endpoints_cons parsed]
      exact .cons parsed (ih fun a member => parses a (List.mem_cons_of_mem addr member))

theorem endpoints_of_forall₂ {es : List Endpoint} {addresses : List GoString}
    (parsed : List.Forall₂ (fun e a => parseEndpoint a = .ok e) es addresses) :
    endpoints addresses = es := by
  induction parsed with
  | nil => rfl
  | cons first _ ih => rw [endpoints_cons first, ih]

/-- Every order of the endpoints is one of the addresses. -/
theorem exists_reordered {addresses : List GoString} (parses : Parses addresses)
    {es : List Endpoint} (order : es.Perm (endpoints addresses)) :
    ∃ shuffled : List GoString, shuffled.Perm addresses ∧ endpoints shuffled = es := by
  obtain ⟨shuffled, parsed, same⟩ := List.perm_comp_forall₂ order (forall₂_endpoints parses)
  exact ⟨shuffled, same, endpoints_of_forall₂ parsed⟩

theorem endpoints_perm {addresses shuffled : List GoString} (same : shuffled.Perm addresses) :
    (endpoints shuffled).Perm (endpoints addresses) := same.filterMap _

theorem classify_shuffled {addresses shuffled : List GoString} {f : NatFeature}
    (accepted : classifyNATFeature addresses localIPs = .ok f) (same : shuffled.Perm addresses) :
    classifyNATFeature shuffled localIPs = .ok (scanned localIPs (endpoints shuffled)).feature := by
  obtain ⟨many, parses, -⟩ := classify_iff.1 accepted
  exact classify_iff.2
    ⟨same.length_eq ▸ many, fun a member => parses a (same.mem_iff.1 member), rfl⟩

theorem mem_compared_of_named {es : List Endpoint} {e : Endpoint} (member : e ∈ named es) :
    e ∈ compared es := by
  obtain ⟨inside, host⟩ := List.mem_filter.1 member
  rw [← List.takeWhile_append_dropWhile (p := fun e : Endpoint => decide (e.ip = [])) (l := es)]
    at inside
  rcases List.mem_append.1 inside with skipped | kept
  · have noHost := List.mem_takeWhile_imp skipped
    simp_all
  · exact kept

theorem mem_of_compared {es : List Endpoint} {e : Endpoint} (member : e ∈ compared es) : e ∈ es :=
  (List.dropWhile_suffix _).mem member

/-- With the endpoints without a host first, only those with one are compared. -/
theorem compared_named_last (es : List Endpoint) :
    compared (es.filter (fun e => decide (e.ip = [])) ++ named es) = named es := by
  unfold compared
  rw [List.dropWhile_append_of_pos]
  · cases shape : named es with
    | nil => rfl
    | cons e rest =>
        have host : e.ip ≠ [] := by
          have : e ∈ named es := shape ▸ List.mem_cons_self
          simpa using (List.mem_filter.1 this).2
        simp [host]
  · intro e member
    exact (List.mem_filter.1 member).2

/-- With one that has a host first, all of them are. -/
theorem compared_named_first {es : List Endpoint} (some_ : named es ≠ []) :
    compared (named es ++ es.filter fun e => decide (e.ip = [])) =
      named es ++ es.filter fun e => decide (e.ip = []) := by
  cases shape : named es with
  | nil => exact absurd shape some_
  | cons e rest =>
      have host : e.ip ≠ [] := by
        have : e ∈ named es := shape ▸ List.mem_cons_self
        simpa using (List.mem_filter.1 this).2
      simp [compared, host]

theorem perm_named_first (es : List Endpoint) :
    (named es ++ es.filter fun e => decide (e.ip = [])).Perm es := by
  have := List.filter_append_perm (fun e : Endpoint => decide (e.ip ≠ [])) es
  simpa [named] using this

/-! ## When the classification means what it says -/

theorem int64_of_fits {n : Int} (low : 0 ≤ n) (high : n < 2 ^ 63) : int64 n = n :=
  Int.bmod_eq_of_le (by omega) (by omega)

theorem int64_lt (n : Int) : int64 n < 2 ^ 63 := by
  have := Int.bmod_lt (x := n) (m := 2 ^ 64) (by omega)
  unfold int64
  omega

namespace Plain

variable {es order : List Endpoint}

theorem compared_hosts (plain : Plain es) (same : order.Perm es) :
    HostsVary (compared order) ↔ HostsVary es := by
  constructor
  · intro varies
    exact varies.mono fun e member => same.mem_iff.1 (mem_of_compared member)
  · intro varies
    apply (plain.hosts varies).mono
    intro e member
    exact mem_compared_of_named ((same.filter _).mem_iff.2 member)

theorem compared_ports (plain : Plain es) (same : order.Perm es) :
    SpellingsVary (compared order) ↔ PortsVary es := by
  constructor
  · intro varies
    have spelled : SpellingsVary es :=
      varies.mono fun e member => same.mem_iff.1 (mem_of_compared member)
    apply plain.spellings _ spelled
    -- the first endpoint compared has a host
    intro none_
    have all : ∀ e ∈ order, e.ip = [] := by
      intro e member
      by_contra host
      have : e ∈ named es := List.mem_filter.2 ⟨same.mem_iff.1 member, by simpa using host⟩
      rw [none_] at this
      cases this
    have : compared order = [] := by
      apply List.dropWhile_eq_nil_iff.2
      intro e member
      simpa using all e member
    exact varies.nonempty this
  · intro varies
    apply (plain.ports varies).mono
    intro e member
    exact mem_compared_of_named ((same.filter _).mem_iff.2 member)

theorem ipChanged (plain : Plain es) (same : order.Perm es) (localIPs : List GoString) :
    (scanned localIPs order).ipChanged = true ↔ HostsVary es :=
  (scanned_ipChanged localIPs order).trans (plain.compared_hosts same)

theorem portChanged (plain : Plain es) (same : order.Perm es) (localIPs : List GoString) :
    (scanned localIPs order).portChanged = true ↔ PortsVary es :=
  (scanned_portChanged localIPs order).trans (plain.compared_ports same)

/-- When only ports vary, the loop compares all endpoints and finds their spread. -/
theorem scanned_spread (plain : Plain es) (same : order.Perm es) (localIPs : List GoString)
    (hosts : ¬ HostsVary es) (ports : PortsVary es) :
    Spread Endpoint.portNum es
      ((scanned localIPs order).portMax - (scanned localIPs order).portMin) := by
  have spelled : SpellingsVary (named es) := plain.ports ports
  obtain ⟨b, inNamed, -⟩ := spelled
  obtain ⟨inside, host⟩ := List.mem_filter.1 inNamed
  have all : compared order = order := by
    cases order with
    | nil => rfl
    | cons e rest =>
        have : e.ip = b.ip := eq_of_not_varies hosts (same.mem_iff.1 List.mem_cons_self) inside
        have : e.ip ≠ [] := by simpa [this] using host
        simp [compared, this]
  have nonempty : order ≠ [] := List.ne_nil_of_mem (same.mem_iff.2 inside)
  have spread := Nathole.scanned_spread localIPs (all.symm ▸ nonempty)
  rw [all] at spread
  exact spread.perm same

theorem difference (plain : Plain es) (same : order.Perm es) (hosts : ¬ HostsVary es)
    (ports : PortsVary es) :
    Spread Endpoint.portNum es (scanned localIPs order).feature.portsDifference := by
  have ip := (plain.ipChanged same localIPs).not.2 hosts
  have port := (plain.portChanged same localIPs).2 ports
  have spread := plain.scanned_spread same localIPs hosts ports
  rw [Scan.feature_difference, if_pos ⟨ip, port⟩]
  obtain ⟨most, inMost, least, inLeast, between, isDifference⟩ := id spread
  have low := (between most inMost).1
  have high := plain.fits hosts most inMost least inLeast
  rw [int64_of_fits (by omega) (by omega)]
  exact spread

/-- Reordered addresses are scanned to the same feature. -/
theorem feature_eq (plain : Plain es) {order' : List Endpoint} (same : order.Perm es)
    (same' : order'.Perm es) :
    (scanned localIPs order).feature = (scanned localIPs order').feature := by
  have ip := plain.ipChanged same localIPs
  have port := plain.portChanged same localIPs
  apply Scan.feature_congr
  · rw [Bool.eq_iff_iff, scanned_publicNetwork, scanned_publicNetwork]
    constructor
    · rintro ⟨e, member, here⟩
      exact ⟨e, same'.mem_iff.2 (same.mem_iff.1 member), here⟩
    · rintro ⟨e, member, here⟩
      exact ⟨e, same.mem_iff.2 (same'.mem_iff.1 member), here⟩
  · exact Bool.eq_iff_iff.2 (ip.trans (plain.ipChanged same' localIPs).symm)
  · exact Bool.eq_iff_iff.2 (port.trans (plain.portChanged same' localIPs).symm)
  · rintro ⟨noHosts, somePorts⟩
    have hosts := ip.not.1 noHosts
    have ports := port.1 somePorts
    exact (plain.scanned_spread same localIPs hosts ports).unique
      (plain.scanned_spread same' localIPs hosts ports)

end Plain

theorem means_of_plain {addresses : List GoString} {f : NatFeature}
    (accepted : classifyNATFeature addresses localIPs = .ok f)
    (plain : Plain (endpoints addresses)) : Means addresses localIPs f := by
  have refl := List.Perm.refl (endpoints addresses)
  obtain ⟨-, -, read⟩ := classify_iff.1 accepted
  have ip := plain.ipChanged refl localIPs
  have port := plain.portChanged refl localIPs
  have difference : ¬ HostsVary (endpoints addresses) ∧ PortsVary (endpoints addresses) →
      Spread Endpoint.portNum (endpoints addresses) f.portsDifference := by
    rintro ⟨hosts, ports⟩
    rw [read]
    exact plain.difference refl hosts ports
  constructor
  · intro shuffled same
    rw [classify_shuffled accepted same, read,
      plain.feature_eq (endpoints_perm same) refl]
  · rw [read, Scan.feature_easy, ip, port]
  · rw [read]
    exact (Scan.feature_tells _).congr ip port
  · refine ⟨difference, fun other => ?_⟩
    rw [read, Scan.feature_difference, if_neg]
    rwa [ip, port]
  · rw [read, Scan.feature_regular, ip, port, ← read]
    constructor
    · rintro ⟨only, low, high⟩
      exact ⟨only, _, difference only, low, high⟩
    · rintro ⟨only, d, spread, low, high⟩
      rw [spread.unique (difference only)] at low high
      exact ⟨only, low, high⟩

theorem plain_of_means {addresses : List GoString} {f : NatFeature}
    (accepted : classifyNATFeature addresses localIPs = .ok f)
    (means : Means addresses localIPs f) : Plain (endpoints addresses) := by
  obtain ⟨-, parses, -⟩ := classify_iff.1 accepted
  -- what the pass finds in any order of the endpoints is what they are
  have found : ∀ order, order.Perm (endpoints addresses) →
      (HostsVary (compared order) ↔ HostsVary (endpoints addresses)) ∧
        (SpellingsVary (compared order) ↔ PortsVary (endpoints addresses)) := by
    intro order same
    obtain ⟨shuffled, shuffles, rfl⟩ := exists_reordered parses same
    have result := classify_shuffled accepted shuffles
    rw [means.permuted shuffled shuffles] at result
    have tells := Scan.feature_tells (scanned localIPs (endpoints shuffled))
    rw [← Except.ok.inj result] at tells
    rw [← scanned_ipChanged localIPs, ← scanned_portChanged localIPs]
    exact tells.unique means.behavior
  have last := found _ (List.perm_append_comm.trans (perm_named_first (endpoints addresses)))
  rw [compared_named_last] at last
  constructor
  · exact last.1.2
  · exact last.2.2
  · intro some_ spelled
    have first := found _ (perm_named_first (endpoints addresses))
    rw [compared_named_first some_] at first
    exact first.2.1 ((Varies.perm_iff (perm_named_first _)).2 spelled)
  · intro hosts a inA b inB
    by_cases ports : PortsVary (endpoints addresses)
    · have spread := means.difference.1 ⟨hosts, ports⟩
      have := spread.le inA inB
      obtain ⟨-, -, read⟩ := classify_iff.1 accepted
      have small : f.portsDifference < 2 ^ 63 := by
        rw [read, Scan.feature_difference]
        split
        · exact int64_lt _
        · omega
      omega
    · have := eq_of_not_varies ports inA inB
      omega

/-- **A classification means what it says, in any order of the addresses, iff what varies
shows among the endpoints with a host, equal ports are spelled alike and the difference
fits.** -/
theorem classify_meaning_iff {addresses : List GoString} {f : NatFeature}
    (accepted : classifyNATFeature addresses localIPs = .ok f) :
    Means addresses localIPs f ↔ Plain (endpoints addresses) :=
  ⟨plain_of_means accepted, means_of_plain accepted⟩

theorem classify_meaning_two_ports :
    Means [.lit "192.0.2.1:4000", .lit "192.0.2.1:4003"] []
      ⟨.hardNAT, .portChanged, 3, true, false⟩ := by
  apply (classify_meaning_iff (by decide)).2
  constructor <;> decide

/-- A host that only one address has: it is taken for the base of the pass, or compared
with one, by where it stands. -/
theorem classify_order_matters :
    classifyNATFeature [.lit "192.0.2.1:80", .lit ":80"] [] =
        .ok ⟨.hardNAT, .ipChanged, 0, false, false⟩ ∧
      ¬ Means [.lit "192.0.2.1:80", .lit ":80"] [] ⟨.hardNAT, .ipChanged, 0, false, false⟩ := by
  refine ⟨by decide, fun means => ?_⟩
  have swapped := means.permuted [.lit ":80", .lit "192.0.2.1:80"] (.swap _ _ _)
  revert swapped
  decide

/-- One port written in two ways. -/
example : classifyNATFeature [.lit "192.0.2.1:80", .lit "192.0.2.1:080"] [] =
    .ok ⟨.hardNAT, .portChanged, 0, false, false⟩ := by decide

end ChmlFrp.Nathole
