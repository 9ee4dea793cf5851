/-
# ChmlFrp.Server.DomainGuard — custom domains under `subdomain_host`

`DomainConf.validateForServer` of `pkg/config/proxy.go` keeps the names under
`subdomain_host` for the proxies with a subdomain.  It refuses a custom domain that has
more labels than the host and contains it anywhere.

* `domain_guard_exact_iff`: it refuses exactly the domains under the host, unless a domain
  that only contains the host comes first.
* `guard_refuses_stranger`: such a domain is refused.
-/
import ChmlFrp.Server.HttpProxy

namespace ChmlFrp.Server.DomainGuard

set_option autoImplicit false

open ChmlFrp.Lib
open ChmlFrp.Lib.GoString
open ChmlFrp.Config
open ChmlFrp.Server.HttpGroup

/-! ## Under the host -/

/-- The domain ends with a dot and the host. -/
def Under (host domain : GoString) : Prop := dot :: host <:+ domain

instance (host domain : GoString) : Decidable (Under host domain) :=
  inferInstanceAs (Decidable (dot :: host <:+ domain))

/-- It has the host in it with a dot before or behind, and does not end so. -/
def Elsewhere (host domain : GoString) : Prop :=
  (∃ x y, domain = x ++ host ++ y ∧ dot ∈ x ++ y) ∧ ¬ Under host domain

theorem length_split (s : GoString) (sep : UInt8) : (split s sep).length = s.count sep + 1 := by
  unfold split
  induction s with
  | nil => rfl
  | cons b s ih =>
      rw [List.splitOn_cons_eq_if_modifyHead, List.count_cons]
      split
      · simp [ih]
      · simp [ih]

/-- What the check of a domain comes to. -/
theorem belongsTo_iff {host : GoString} (set : host ≠ []) (domain : GoString) :
    DomainConf.belongsTo host domain = true ↔ ∃ x y, domain = x ++ host ++ y ∧ dot ∈ x ++ y := by
  unfold DomainConf.belongsTo
  simp only [Bool.and_eq_true, bne_iff_ne, ne_eq, set, not_false_eq_true, true_and,
    decide_eq_true_eq, length_split, contains_iff]
  constructor
  · rintro ⟨more, x, y, rfl⟩
    refine ⟨x, y, rfl, ?_⟩
    rw [← List.count_pos_iff, List.count_append]
    simp only [List.count_append] at more
    omega
  · rintro ⟨x, y, rfl, stands⟩
    rw [← List.count_pos_iff, List.count_append] at stands
    refine ⟨?_, x, y, rfl⟩
    simp only [List.count_append]
    omega

theorem belongsTo_of_under {host domain : GoString} (set : host ≠ [])
    (under : Under host domain) : DomainConf.belongsTo host domain = true := by
  obtain ⟨x, rfl⟩ := under
  exact (belongsTo_iff set _).2 ⟨x ++ [dot], [], by simp, by simp⟩

theorem belongsTo_cases {host : GoString} (set : host ≠ []) (domain : GoString) :
    DomainConf.belongsTo host domain = true ↔ Under host domain ∨ Elsewhere host domain := by
  constructor
  · intro refused
    by_cases under : Under host domain
    · exact .inl under
    · exact .inr ⟨(belongsTo_iff set domain).1 refused, under⟩
  · rintro (under | elsewhere)
    · exact belongsTo_of_under set under
    · exact (belongsTo_iff set domain).2 elsewhere.1

/-! ## The error that names the host -/

variable {cfg : DomainConf} {serverCfg : ServerCommonConf}

/-- The text of the error. -/
def refusal (host domain : GoString) : GoString :=
  lit "custom domain [" ++ domain ++ lit "] should not belong to subdomain_host [" ++ host ++
    lit "]"

theorem refusal_injective {host d d' : GoString} (same : refusal host d = refusal host d') :
    d = d' := by
  unfold refusal at same
  simp only [List.append_assoc] at same
  exact List.append_cancel_right (List.append_cancel_left same)

theorem check_ne_refusal (host domain : GoString) : cfg.check ≠ .error (refusal host domain) := by
  unfold DomainConf.check
  split
  · intro same
    have texts := Except.error.inj same
    cases congrArg (·[6]?) texts
  · simp

theorem validateSubDomain_ne_refusal (host domain : GoString) :
    cfg.validateSubDomain serverCfg ≠ .error (refusal host domain) := by
  unfold DomainConf.validateSubDomain
  split_ifs
  · simp
  · intro same
    cases congrArg List.head? (Except.error.inj same)
  · intro same
    cases congrArg List.head? (Except.error.inj same)
  · simp

/-- The first domain that the check refuses is the one in the error. -/
theorem validateForServer_eq_refusal_iff (domain : GoString) :
    cfg.validateForServer serverCfg = .error (refusal serverCfg.subDomainHost domain) ↔
      cfg.customDomains.find? (DomainConf.belongsTo serverCfg.subDomainHost) = some domain := by
  have checked : cfg.check ≠ _ := check_ne_refusal serverCfg.subDomainHost domain
  have last : cfg.validateSubDomain serverCfg ≠ _ :=
    validateSubDomain_ne_refusal serverCfg.subDomainHost domain
  cases check : cfg.check with
  | error err =>
      have none_ : cfg.customDomains = [] := by
        unfold DomainConf.check at check
        split at check
        · rename_i empty
          exact empty.1
        · cases check
      have refused : cfg.validateForServer serverCfg = cfg.check := by
        rw [DomainConf.validateForServer, check]
        rfl
      rw [refused, none_]
      simp [checked]
  | ok =>
      cases found : cfg.customDomains.find? (DomainConf.belongsTo serverCfg.subDomainHost) with
      | none =>
          have rest : cfg.validateForServer serverCfg = cfg.validateSubDomain serverCfg := by
            rw [DomainConf.validateForServer, check, found]
            rfl
          simp [rest, last]
      | some first =>
          have rest : cfg.validateForServer serverCfg =
              .error (refusal serverCfg.subDomainHost first) := by
            rw [DomainConf.validateForServer, check, found]
            rfl
          rw [rest]
          simp only [Except.error.injEq, Option.some.injEq]
          exact ⟨refusal_injective, fun same => same ▸ rfl⟩

/-! ## What is accepted -/

/-- The domains of the three types that have them. -/
def domainConf : ProxyConf → Option DomainConf
  | .http cfg => some cfg.toDomainConf
  | .https cfg => some cfg.toDomainConf
  | .tcpMux cfg => some cfg.toDomainConf
  | _ => none

theorem bind_eq_ok {x : Except GoString Unit} {f : Unit → Except GoString Unit}
    (ok : x >>= f = .ok ()) : f () = .ok () := by
  cases x with
  | error err => cases ok
  | ok => exact ok

theorem validateForProxy_eq_ok {name : GoString}
    (ok : cfg.validateForProxy serverCfg name = .ok ()) :
    cfg.validateForServer serverCfg = .ok () := by
  unfold DomainConf.validateForProxy at ok
  cases valid : cfg.validateForServer serverCfg with
  | error err =>
      rw [valid] at ok
      cases ok
  | ok => rfl

theorem domains_valid {conf : ProxyConf} (domains : domainConf conf = some cfg)
    (accepted : conf.validateForServer serverCfg = .ok ()) :
    cfg.validateForServer serverCfg = .ok () := by
  cases conf with
  | http _ | https _ =>
      cases domains
      have rest := bind_eq_ok accepted
      split at rest
      · cases rest
      · exact validateForProxy_eq_ok rest
  | tcpMux mux =>
      cases domains
      have rest := bind_eq_ok accepted
      by_cases wrong : mux.multiplexer ≠ httpConnectTCPMultiplexer
      · rw [if_pos wrong] at rest
        cases rest
      · rw [if_neg wrong] at rest
        dsimp only at rest
        split at rest
        · cases rest
        · exact validateForProxy_eq_ok rest
  | tcp _ | udp _ | stcp _ | xtcp _ | sudp _ => cases domains

/-- The guard names the first custom domain under the host, and none else. -/
def Exact (cfg : DomainConf) (serverCfg : ServerCommonConf) : Prop :=
  ∀ domain,
    cfg.validateForServer serverCfg = .error (refusal serverCfg.subDomainHost domain) ↔
      cfg.customDomains.find? (Under serverCfg.subDomainHost ·) = some domain

/-- No proxy that is accepted listens by its custom domains where a subdomain would. -/
def Kept (cfg : DomainConf) (serverCfg : ServerCommonConf) : Prop :=
  ∀ conf : ProxyConf, domainConf conf = some cfg → conf.validateForServer serverCfg = .ok () →
    ∀ domain ∈ listenDomains { cfg with subDomain := [] } serverCfg,
      ∀ other : DomainConf, other.subDomain ≠ [] →
        domain ∉ listenDomains { other with customDomains := [] } serverCfg

/-- The guard comes upon a domain that only contains the host before any under it. -/
def Strays (cfg : DomainConf) (serverCfg : ServerCommonConf) : Prop :=
  ∃ before domain after, cfg.customDomains = before ++ domain :: after ∧
    (∀ other ∈ before, ¬ Under serverCfg.subDomainHost other) ∧
    Elsewhere serverCfg.subDomainHost domain

theorem kept (set : serverCfg.subDomainHost ≠ []) : Kept cfg serverCfg := by
  intro conf domains accepted domain listed other named stolen
  have valid := domains_valid domains accepted
  have under : Under serverCfg.subDomainHost domain := by
    unfold listenDomains at stolen
    rw [if_neg named] at stolen
    obtain rfl : domain = other.subDomain ++ dot :: serverCfg.subDomainHost := by
      simpa using stolen
    exact List.suffix_append _ _
  have mem : domain ∈ cfg.customDomains := by
    unfold listenDomains at listed
    rw [if_pos rfl, List.append_nil] at listed
    exact List.mem_of_mem_filter listed
  cases first : cfg.customDomains.find? (DomainConf.belongsTo serverCfg.subDomainHost) with
  | none =>
      have passed := List.find?_eq_none.1 first domain mem
      exact passed (belongsTo_of_under set under)
  | some refused =>
      rw [(validateForServer_eq_refusal_iff refused).2 first] at valid
      cases valid

theorem exact_of_not_strays (set : serverCfg.subDomainHost ≠ []) (right : ¬ Strays cfg serverCfg) :
    Exact cfg serverCfg := by
  intro domain
  rw [validateForServer_eq_refusal_iff]
  constructor
  · intro first
    obtain ⟨refused, before, after, whole, passed⟩ := List.find?_eq_some_iff_append.1 first
    have clear : ∀ other ∈ before, ¬ Under serverCfg.subDomainHost other := by
      intro other mem under
      have passed := passed other mem
      rw [belongsTo_of_under set under] at passed
      cases passed
    have under : Under serverCfg.subDomainHost domain := by
      rcases (belongsTo_cases set domain).1 refused with under | elsewhere
      · exact under
      · exact absurd ⟨before, domain, after, whole, clear, elsewhere⟩ right
    exact List.find?_eq_some_iff_append.2
      ⟨by simpa using under, before, after, whole, by simpa using clear⟩
  · intro first
    obtain ⟨under, before, after, whole, clear⟩ := List.find?_eq_some_iff_append.1 first
    simp only [decide_eq_true_eq, Bool.not_eq_true', decide_eq_false_iff_not] at under clear
    refine List.find?_eq_some_iff_append.2
      ⟨belongsTo_of_under set under, before, after, whole, ?_⟩
    intro other mem
    rw [Bool.not_eq_true', ← Bool.not_eq_true, belongsTo_cases set]
    rintro (under' | elsewhere)
    · exact clear other mem under'
    · obtain ⟨front, rest, rfl⟩ := List.append_of_mem mem
      refine right ⟨front, other, rest ++ domain :: after, by simp [whole], ?_, elsewhere⟩
      exact fun o mem' => clear o (List.mem_append_left _ mem')

theorem not_strays_of_exact (set : serverCfg.subDomainHost ≠ []) (exact_ : Exact cfg serverCfg) :
    ¬ Strays cfg serverCfg := by
  rintro ⟨before, domain, after, whole, clear, elsewhere⟩
  -- the guard stops at this domain or at one before it, and neither is under the host
  have stops := (belongsTo_cases set domain).2 (.inr elsewhere)
  cases first : cfg.customDomains.find? (DomainConf.belongsTo serverCfg.subDomainHost) with
  | none => exact List.find?_eq_none.1 first domain (by simp [whole]) stops
  | some refused =>
      have found := (exact_ refused).1 ((validateForServer_eq_refusal_iff refused).2 first)
      have under : Under serverCfg.subDomainHost refused := by
        simpa using List.find?_some found
      rw [whole, List.find?_append] at first
      cases early : before.find? (DomainConf.belongsTo serverCfg.subDomainHost) with
      | some other =>
          rw [early] at first
          cases first
          exact clear refused (List.mem_of_find?_eq_some early) under
      | none =>
          rw [early, Option.none_or, List.find?_cons_of_pos stops] at first
          cases first
          exact elsewhere.2 under

/-- **The guard is exact unless it comes upon a domain that only contains the host, and
the names under the host are kept in any case.** -/
theorem domain_guard_exact_iff (cfg : DomainConf) {serverCfg : ServerCommonConf}
    (set : serverCfg.subDomainHost ≠ []) :
    (Exact cfg serverCfg ∧ Kept cfg serverCfg) ↔ ¬ Strays cfg serverCfg :=
  ⟨fun both => not_strays_of_exact set both.1,
    fun right => ⟨exact_of_not_strays set right, kept set⟩⟩

section Stranger

/-- A domain of somebody else with the host in the middle. -/
def stranger : DomainConf := { customDomains := [lit "www.frp.org.cn"] }

def host : ServerCommonConf := ⟨80, 443, 0, lit "frp.org"⟩

theorem guard_exact_own : (Exact { customDomains := [lit "a.frp.org", lit "b.org"] } host ∧
    Kept { customDomains := [lit "a.frp.org", lit "b.org"] } host) ↔
    ¬ Strays { customDomains := [lit "a.frp.org", lit "b.org"] } host :=
  domain_guard_exact_iff _ (by decide)

/-- It is refused, though it does not lie under the host. -/
theorem guard_refuses_stranger :
    stranger.validateForServer host = .error (refusal host.subDomainHost (lit "www.frp.org.cn")) ∧
      ¬ Under host.subDomainHost (lit "www.frp.org.cn") ∧ ¬ Exact stranger host := by
  have refused : stranger.validateForServer host =
      .error (refusal host.subDomainHost (lit "www.frp.org.cn")) := by decide +kernel
  have outside : ¬ Under host.subDomainHost (lit "www.frp.org.cn") := by decide +kernel
  refine ⟨refused, outside, fun exact_ => outside ?_⟩
  simpa using List.find?_some ((exact_ _).1 refused)

end Stranger

end ChmlFrp.Server.DomainGuard
