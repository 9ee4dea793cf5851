/-
# ChmlFrp.Vhost.Names — host names, their spellings, and the domains that cover them

What a `Host` header and a registered domain mean, apart from the code that compares them.
A header spells a name in any letter case, with or without a final dot and a port.  A
domain is a name, or `*.` before a name, or `*`.

* `hostName_of_spells`: `CanonicalHost` gives the name, whatever the spelling.
* `mem_candidates_iff`: the domains that a search tries for a name, among those that cover
  it, are those written in lower case without a final dot, and with two labels after `*.`.
* `fixed_decreasing`: it tries the domains that fix more of the name first.
-/
import ChmlFrp.Vhost.Lookup

namespace ChmlFrp.Vhost

set_option autoImplicit false

open ChmlFrp.Lib
open ChmlFrp.Lib.GoString
open ChmlFrp.Util
open Table (candidates properSuffixes wildcard)

/-! ## Names and spellings -/

/-- The bytes of a host name: those that the http server accepts in a `Host` header,
without colon and brackets, which belong to the port, and without `*`. -/
def nameByte (b : UInt8) : Bool :=
  (48 ≤ b && b ≤ 57) || (65 ≤ b && b ≤ 90) || (97 ≤ b && b ≤ 122) ||
    [33, 36, 37, 38, 39, 40, 41, 43, 44, 45, 46, 59, 61, 95, 126].contains b

/-- A name in its canonical spelling. -/
structure HostName (name : GoString) : Prop where
  bytes : ∀ b ∈ name, nameByte b
  lower : name.map lowerByte = name
  labels : ∀ label ∈ split name dot, label ≠ []

/-- A port as a header has it, with the colon, or nothing. -/
def IsPort (port : GoString) : Prop :=
  port = [] ∨ ∃ digits, port = colon :: digits ∧ ∀ b ∈ digits, 48 ≤ b ∧ b ≤ 57

/-- The header denotes the name. -/
def Spells (host name : GoString) : Prop :=
  ∃ spelled final port, spelled.map lowerByte = name ∧ (final = [] ∨ final = [dot]) ∧
    IsPort port ∧ host = spelled ++ final ++ port

/-- A domain in lower case and without its final dot. -/
def canonicalDomain (domain : GoString) : GoString := trimSuffix (domain.map lowerByte) dot

/-- The domain is the name, or `*.` before a proper suffix of it, or `*`. -/
inductive Covers : GoString → GoString → Prop where
  | literal {name : GoString} : Covers name name
  | wildcard {labels suffix : GoString} (some : labels ≠ []) :
      Covers (Routers.star ++ dot :: suffix) (labels ++ dot :: suffix)
  | all {name : GoString} : Covers Routers.star name

/-- How much of the name a domain that covers it fixes. -/
def fixed (name domain : GoString) : Nat :=
  if domain = name then name.length else domain.length - 1

theorem fixed_le {name domain : GoString} (covers : Covers domain name) :
    fixed name domain ≤ name.length := by
  unfold fixed
  split
  · exact Nat.le_refl _
  · rename_i other
    cases covers with
    | literal => exact absurd rfl other
    | wildcard some =>
        have positive := List.length_pos_iff.2 some
        have one : Routers.star.length = 1 := rfl
        simp only [List.length_append, List.length_cons, one]
        omega
    | all => exact Nat.zero_le _

/-! ## `CanonicalHost` -/

theorem lowerByte_lt {b : UInt8} (ascii : lowerByte b < 128) : b < 128 := by
  unfold lowerByte at ascii
  split at ascii
  · rename_i upper
    obtain ⟨-, small⟩ := upper
    exact UInt8.lt_of_le_of_lt small (by decide)
  · exact ascii

theorem nameByte_lt : ∀ b, nameByte b → b < 128 := by
  intro b name
  simp only [nameByte, Bool.or_eq_true, Bool.and_eq_true, decide_eq_true_eq] at name
  rcases name with ((⟨-, digit⟩ | ⟨-, upper⟩) | ⟨-, lower⟩) | listed
  · exact UInt8.lt_of_le_of_lt digit (by decide)
  · exact UInt8.lt_of_le_of_lt upper (by decide)
  · exact UInt8.lt_of_le_of_lt lower (by decide)
  · have small : ([33, 36, 37, 38, 39, 40, 41, 43, 44, 45, 46, 59, 61, 95, 126] : List UInt8).all
        (fun c => decide (c < 128)) = true := rfl
    exact of_decide_eq_true (List.all_eq_true.1 small b (List.mem_of_elem_eq_true listed))

theorem nameByte_ne : ∀ b, nameByte b →
    b ≠ colon ∧ b ≠ openBracket ∧ b ≠ closeBracket ∧ b ≠ 42 := by
  intro b name
  refine ⟨?_, ?_, ?_, ?_⟩ <;> rintro rfl <;> exact absurd name (by decide)

theorem lowerByte_digit : ∀ b : UInt8, 48 ≤ b ∧ b ≤ 57 →
    lowerByte b = b ∧ b < 128 ∧ b ≠ colon ∧ b ≠ openBracket ∧ b ≠ closeBracket := by
  rintro b ⟨low, high⟩
  have small : b < 58 := UInt8.lt_of_le_of_lt high (by decide)
  refine ⟨if_neg ?_, UInt8.lt_trans small (by decide), ?_, ?_, ?_⟩
  · rintro ⟨upper, -⟩
    exact absurd (UInt8.lt_of_lt_of_le small (UInt8.le_trans (by decide) upper)) (UInt8.lt_irrefl b)
  · rintro rfl
    exact absurd high (by decide)
  · rintro rfl
    exact absurd high (by decide)
  · rintro rfl
    exact absurd high (by decide)

variable {name host : GoString}

theorem HostName.colon_notMem (isName : HostName name) : colon ∉ name :=
  fun mem => (nameByte_ne _ (isName.bytes _ mem)).1 rfl

theorem HostName.star_notMem (isName : HostName name) : (42 : UInt8) ∉ name :=
  fun mem => (nameByte_ne _ (isName.bytes _ mem)).2.2.2 rfl

theorem HostName.nonempty (isName : HostName name) : name ≠ [] := by
  rintro rfl
  exact isName.labels [] (by simp [split]) rfl

theorem HostName.final (isName : HostName name) : name.getLast? ≠ some dot := by
  intro last
  obtain ⟨front, rfl⟩ := List.getLast?_eq_some_iff.1 last
  have labels : split (front ++ [dot]) dot = split front dot ++ split [] dot :=
    List.splitOn_append_cons_self front []
  refine isName.labels [] ?_ rfl
  rw [labels]
  exact List.mem_append_right _ (by simp [split])

theorem trimSuffix_name (isName : HostName name) {final : GoString}
    (dots : final = [] ∨ final = [dot]) : trimSuffix (name ++ final) dot = name := by
  unfold trimSuffix
  rcases dots with rfl | rfl
  · rw [List.append_nil, if_neg isName.final]
  · rw [List.getLast?_append, List.getLast?_singleton, Option.some_or, if_pos rfl,
      List.dropLast_concat]

theorem IsPort.bytes {port : GoString} (isPort : IsPort port) :
    ∀ b ∈ port, lowerByte b = b ∧ b < 128 ∧ b ≠ openBracket ∧ b ≠ closeBracket := by
  intro b mem
  rcases isPort with rfl | ⟨digits, rfl, digit⟩
  · cases mem
  · rw [List.mem_cons] at mem
    rcases mem with rfl | mem
    · decide
    · obtain ⟨lower, ascii, -, brackets⟩ := lowerByte_digit b (digit b mem)
      exact ⟨lower, ascii, brackets⟩

/-- Lower case of a spelling: the name, and the rest as it is. -/
theorem toLower_of_spells (unicode : GoString → GoString) (isName : HostName name)
    (spells : Spells host name) : ∃ final port, (final = [] ∨ final = [dot]) ∧ IsPort port ∧
      toLower unicode host = name ++ final ++ port := by
  obtain ⟨spelled, final, port, rfl, dots, isPort, rfl⟩ := spells
  refine ⟨final, port, dots, isPort, ?_⟩
  have lowDots : final.map lowerByte = final ∧ ∀ b ∈ final, b < 128 := by
    rcases dots with rfl | rfl
    · simp
    · exact ⟨rfl, List.forall_mem_singleton.2 (by decide)⟩
  have lowPort : port.map lowerByte = port :=
    (List.map_congr_left fun b mem => (isPort.bytes b mem).1).trans (List.map_id port)
  have ascii : isASCII (spelled ++ final ++ port) := by
    simp only [isASCII, List.all_eq_true, decide_eq_true_eq, List.mem_append]
    rintro b ((inName | inDots) | inPort)
    · exact lowerByte_lt (nameByte_lt _ (isName.bytes _ (List.mem_map_of_mem inName)))
    · exact lowDots.2 b inDots
    · exact (isPort.bytes b inPort).2.1
  rw [toLower, if_pos ascii, List.map_append, List.map_append, lowDots.1, lowPort]

theorem hasPort_iff {final port : GoString} (isName : HostName name)
    (dots : final = [] ∨ final = [dot]) (isPort : IsPort port) :
    hasPort (name ++ final ++ port) = true ↔ port ≠ [] := by
  have none : (name ++ final).count colon = 0 := by
    rw [List.count_append, List.count_eq_zero.2 isName.colon_notMem]
    rcases dots with rfl | rfl <;> decide
  unfold hasPort
  rw [List.count_append, none]
  rcases isPort with rfl | ⟨digits, rfl, digit⟩
  · simp
  · have absent : colon ∉ digits := fun mem => (lowerByte_digit _ (digit _ mem)).2.2.1 rfl
    simp [List.count_eq_zero.2 absent]

theorem splitHostPort_of_name {final digits : GoString} (isName : HostName name)
    (dots : final = [] ∨ final = [dot]) (digit : ∀ b ∈ digits, 48 ≤ b ∧ b ≤ 57) :
    splitHostPort (name ++ final ++ colon :: digits) = .ok (name ++ final, digits) := by
  have front : ∀ b ∈ name ++ final, b ≠ colon ∧ b ≠ openBracket ∧ b ≠ closeBracket := by
    intro b mem
    rw [List.mem_append] at mem
    rcases mem with inName | inDots
    · obtain ⟨c, o, cl, -⟩ := nameByte_ne b (isName.bytes b inName)
      exact ⟨c, o, cl⟩
    · rcases dots with rfl | rfl
      · cases inDots
      · rw [List.mem_singleton] at inDots
        subst inDots
        decide
  have back : ∀ b ∈ colon :: digits, b ≠ openBracket ∧ b ≠ closeBracket := fun b mem =>
    ((IsPort.bytes (.inr ⟨digits, rfl, digit⟩)) b mem).2.2
  have last : cutLast (name ++ final ++ colon :: digits) colon = some (name ++ final, digits) :=
    cutLast_of_notMem fun mem => (lowerByte_digit _ (digit _ mem)).2.2.1 rfl
  have clear : ∀ c, c = openBracket ∨ c = closeBracket →
      c ∉ name ++ final ++ colon :: digits := by
    rintro c bracket mem
    rw [List.mem_append] at mem
    rcases mem with inFront | inBack
    · rcases bracket with rfl | rfl
      · exact (front _ inFront).2.1 rfl
      · exact (front _ inFront).2.2 rfl
    · rcases bracket with rfl | rfl
      · exact (back _ inBack).1 rfl
      · exact (back _ inBack).2 rfl
  unfold splitHostPort
  rw [last]
  dsimp only
  split
  · rename_i inner starts
    exact absurd (starts ▸ List.mem_cons_self) (clear openBracket (.inl rfl))
  · rw [if_neg fun mem => (front _ mem).1 rfl, if_neg (clear _ (.inl rfl)),
      if_neg (clear _ (.inr rfl))]

/-- **Canonical host.** Every spelling of a name has that name. -/
theorem hostName_of_spells (unicode : GoString → GoString) (isName : HostName name)
    (spells : Spells host name) : Util.hostName unicode host = name := by
  obtain ⟨final, port, dots, isPort, lower⟩ := toLower_of_spells unicode isName spells
  unfold Util.hostName canonicalHost
  dsimp only
  rw [lower]
  by_cases withPort : port = []
  · have without : ¬ hasPort (name ++ final ++ port) = true := by
      rw [hasPort_iff isName dots isPort]
      exact fun some => some withPort
    rw [if_neg without, withPort, List.append_nil]
    exact trimSuffix_name isName dots
  · rw [if_pos ((hasPort_iff isName dots isPort).2 withPort)]
    rcases isPort with none | ⟨digits, rfl, digit⟩
    · exact absurd none withPort
    · rw [splitHostPort_of_name isName dots digit]
      exact trimSuffix_name isName dots

/-! ## The candidates of a name -/

theorem join_cons {label : GoString} {rest : List GoString} (some : rest ≠ []) :
    join (label :: rest) dot = label ++ dot :: join rest dot := by
  obtain ⟨next, rest, rfl⟩ := List.exists_cons_of_ne_nil some
  show [dot].intercalate (label :: next :: rest) = _
  rw [List.intercalate_cons_cons, List.append_assoc]
  rfl

theorem join_append {before after : List GoString} (some : before ≠ []) (some' : after ≠ []) :
    join (before ++ after) dot = join before dot ++ dot :: join after dot := by
  induction before with
  | nil => exact absurd rfl some
  | cons label before ih =>
      cases before with
      | nil =>
          rw [List.singleton_append, join_cons some']
          exact congrArg (· ++ dot :: join after dot) List.intercalate_singleton.symm
      | cons second rest =>
          have more : second :: rest ++ after ≠ [] := List.cons_ne_nil _ _
          rw [List.cons_append, join_cons more, ih (List.cons_ne_nil _ _),
            join_cons (List.cons_ne_nil second rest), List.append_assoc, List.cons_append]

theorem join_split (s : GoString) : join (split s dot) dot = s := List.intercalate_splitOn dot

theorem two_le_split_join {labels : List GoString} (long : 2 ≤ labels.length) :
    2 ≤ (split (join labels dot) dot).length := by
  rcases labels with _ | ⟨first, _ | ⟨second, rest⟩⟩
  · simp at long
  · simp at long
  · have whole : join (first :: second :: rest) dot =
        first ++ dot :: join (second :: rest) dot :=
      join_cons (List.cons_ne_nil second rest)
    have parts : split (join (first :: second :: rest) dot) dot =
        split first dot ++ split (join (second :: rest) dot) dot := by
      rw [whole]
      exact List.splitOn_append_cons_self _ _
    have left := List.length_pos_iff.2 (List.splitOn_ne_nil dot first)
    have right := List.length_pos_iff.2 (List.splitOn_ne_nil dot (join (second :: rest) dot))
    rw [parts, List.length_append]
    exact Nat.add_le_add left right

theorem wildcard_eq {labels : List GoString} (some : labels ≠ []) :
    wildcard labels = Routers.star ++ dot :: join labels dot := by
  exact join_cons some

theorem mem_properSuffixes {labels suffix : List GoString} :
    suffix ∈ properSuffixes labels ↔
      ∃ front, front ≠ [] ∧ labels = front ++ suffix ∧ 2 ≤ suffix.length := by
  unfold properSuffixes
  rw [List.mem_filter, decide_eq_true_eq]
  cases labels with
  | nil =>
      constructor
      · rintro ⟨mem, -⟩
        cases mem
      · rintro ⟨front, some, whole, -⟩
        exact absurd (List.append_eq_nil_iff.1 whole.symm).1 some
  | cons label labels =>
      rw [List.tails_cons, List.drop_succ_cons, List.drop_zero, List.mem_tails]
      constructor
      · rintro ⟨⟨front, rfl⟩, long⟩
        exact ⟨label :: front, List.cons_ne_nil _ _, rfl, long⟩
      · rintro ⟨front, some, whole, long⟩
        obtain ⟨first, front, rfl⟩ := List.exists_cons_of_ne_nil some
        cases whole
        exact ⟨⟨front, rfl⟩, long⟩

/-- A name is the labels before a proper suffix, a dot and the suffix. -/
theorem name_of_mem_properSuffixes {suffix : List GoString}
    (mem : suffix ∈ properSuffixes (split name dot)) : suffix ≠ [] ∧ ∃ front, front ≠ [] ∧
      split name dot = front ++ suffix ∧ name = join front dot ++ dot :: join suffix dot := by
  obtain ⟨front, some, whole, long⟩ := mem_properSuffixes.1 mem
  have some' : suffix ≠ [] := by
    rintro rfl
    simp at long
  refine ⟨some', front, some, whole, ?_⟩
  rw [← join_append some some', ← whole, join_split]

theorem mem_candidates {domain : GoString} :
    domain ∈ candidates name ↔ domain = name ∨
      (∃ suffix ∈ properSuffixes (split name dot), domain = wildcard suffix) ∨
        domain = Routers.star := by
  unfold candidates
  simp only [List.cons_append, List.mem_cons, List.mem_append, List.mem_map, List.not_mem_nil,
    or_false, eq_comm]

theorem canonicalDomain_wildcard {before suffix : GoString}
    (isName : HostName (before ++ dot :: suffix)) :
    canonicalDomain (Routers.star ++ dot :: suffix) = Routers.star ++ dot :: suffix := by
  have lower := isName.lower
  rw [List.map_append, List.map_cons] at lower
  have lowSuffix : suffix.map lowerByte = suffix :=
    (List.cons.inj (List.append_inj' lower (by simp)).2).2
  have last := isName.final
  rw [List.getLast?_append, List.getLast?_cons, Option.some_or] at last
  unfold canonicalDomain trimSuffix
  rw [List.map_append, List.map_cons, lowSuffix]
  apply if_neg
  show (Routers.star ++ dot :: suffix).getLast? ≠ _
  rw [List.getLast?_append, List.getLast?_cons, Option.some_or]
  exact last

/-- The spelling of a domain that a search tries: lower case, no final dot, and two labels
after `*.`. -/
def Searched (domain : GoString) : Prop :=
  canonicalDomain domain = domain ∧
    ∀ suffix, domain = Routers.star ++ dot :: suffix → 2 ≤ (split suffix dot).length

/-- **Candidates.** Of the domains that cover a name, a search tries those in canonical
spelling, and of the wildcards those with two labels after the star. -/
theorem mem_candidates_iff {domain : GoString} (isName : HostName name)
    (covers : Covers (canonicalDomain domain) name) :
    domain ∈ candidates name ↔ Searched domain := by
  rw [mem_candidates]
  constructor
  · rintro (rfl | ⟨labels, mem, rfl⟩ | rfl)
    · refine ⟨?_, ?_⟩
      · have same := trimSuffix_name isName (.inl rfl)
        rw [List.append_nil] at same
        rw [canonicalDomain, isName.lower]
        exact same
      · rintro suffix rfl
        exact absurd (List.mem_append_left _ (List.mem_singleton_self _)) isName.star_notMem
    · obtain ⟨some, front, -, whole, split_⟩ := name_of_mem_properSuffixes mem
      rw [wildcard_eq some]
      refine ⟨?_, ?_⟩
      · rw [split_] at isName
        exact canonicalDomain_wildcard isName
      · intro suffix same
        cases List.append_cancel_left same
        obtain ⟨-, -, -, long⟩ := mem_properSuffixes.1 mem
        exact two_le_split_join long
    · refine ⟨by decide, ?_⟩
      intro suffix same
      cases same
  · rintro ⟨canonical, long⟩
    rw [canonical] at covers
    cases covers with
    | literal => exact .inl rfl
    | all => exact .inr (.inr rfl)
    | @wildcard labels suffix some =>
        have long := long suffix rfl
        refine .inr (.inl ⟨split suffix dot, ?_, ?_⟩)
        · rw [mem_properSuffixes]
          exact ⟨split labels dot, List.splitOn_ne_nil _ _,
            List.splitOn_append_cons_self labels suffix, long⟩
        · have some' : split suffix dot ≠ [] := List.splitOn_ne_nil _ _
          rw [wildcard_eq some', join_split]

theorem length_lt_of_mem_properSuffixes {labels suffix : List GoString}
    (mem : suffix ∈ properSuffixes labels) :
    (join suffix dot).length < (join labels dot).length := by
  obtain ⟨front, some, rfl, long⟩ := mem_properSuffixes.1 mem
  have some' : suffix ≠ [] := by
    rintro rfl
    simp at long
  rw [join_append some some', List.length_append, List.length_cons]
  omega

theorem properSuffixes_decreasing (labels : List GoString) : (properSuffixes labels).Pairwise
    fun suffix suffix' => (join suffix' dot).length < (join suffix dot).length := by
  induction labels with
  | nil => exact List.Pairwise.nil
  | cons label labels ih =>
      rw [Routers.properSuffixes_cons]
      split
      · exact List.Pairwise.nil
      · exact List.Pairwise.cons (fun _ mem => length_lt_of_mem_properSuffixes mem) ih

theorem join_ne_nil {labels : List GoString} (some : labels ≠ [])
    (each : ∀ label ∈ labels, label ≠ []) : join labels dot ≠ [] := by
  obtain ⟨first, rest, rfl⟩ := List.exists_cons_of_ne_nil some
  cases rest with
  | nil =>
      show [dot].intercalate [first] ≠ []
      rw [List.intercalate_singleton]
      exact each first List.mem_cons_self
  | cons second rest =>
      rw [join_cons (List.cons_ne_nil second rest)]
      exact List.append_ne_nil_of_right_ne_nil _ (List.cons_ne_nil _ _)

theorem fixed_wildcard {suffix : List GoString} (isName : HostName name)
    (mem : suffix ∈ properSuffixes (split name dot)) :
    fixed name (wildcard suffix) = (join suffix dot).length + 1 ∧
      (join suffix dot).length + 1 < name.length := by
  obtain ⟨some, front, some', whole, parts⟩ := name_of_mem_properSuffixes mem
  have other : wildcard suffix ≠ name := by
    intro same
    apply isName.star_notMem
    rw [← same, wildcard_eq some]
    exact List.mem_append_left _ (List.mem_singleton_self _)
  refine ⟨?_, ?_⟩
  · rw [fixed, if_neg other, wildcard_eq some]
    simp [Routers.star, lit]
  · have positive : 0 < (join front dot).length :=
      List.length_pos_iff.2 (join_ne_nil some' fun label mem =>
        isName.labels label (whole ▸ List.mem_append_left _ mem))
    have total := congrArg List.length parts
    rw [List.length_append, List.length_cons] at total
    omega

theorem fixed_star (isName : HostName name) : fixed name Routers.star = 0 := by
  have other : Routers.star ≠ name := by
    rintro rfl
    exact isName.star_notMem (List.mem_singleton_self _)
  rw [fixed, if_neg other]
  rfl

/-- **Order.** A search tries the domains that fix more of the name first. -/
theorem fixed_decreasing (isName : HostName name) : (candidates name).Pairwise
    fun domain domain' => fixed name domain' < fixed name domain := by
  have whole : fixed name name = name.length := if_pos rfl
  unfold candidates
  rw [List.cons_append, List.pairwise_cons, List.pairwise_append, List.pairwise_map]
  refine ⟨?_, ?_, List.pairwise_singleton _ _, ?_⟩
  · intro domain mem
    rw [whole]
    rw [List.mem_append, List.mem_map, List.mem_singleton] at mem
    rcases mem with ⟨suffix, mem, rfl⟩ | rfl
    · obtain ⟨eq, less⟩ := fixed_wildcard isName mem
      rw [eq]
      exact less
    · rw [fixed_star isName]
      exact List.length_pos_iff.2 isName.nonempty
  · apply (properSuffixes_decreasing _).imp_of_mem
    intro suffix suffix' mem mem' less
    rw [(fixed_wildcard isName mem).1, (fixed_wildcard isName mem').1]
    exact Nat.succ_lt_succ less
  · intro domain mem domain' mem'
    rw [List.mem_map] at mem
    rw [List.mem_singleton] at mem'
    obtain ⟨suffix, mem, rfl⟩ := mem
    rw [mem', fixed_star isName, (fixed_wildcard isName mem).1]
    exact Nat.succ_pos _

theorem covers_of_mem_candidates {domain : GoString} (isName : HostName name)
    (mem : domain ∈ candidates name) : Covers domain name := by
  rcases mem_candidates.1 mem with rfl | ⟨suffix, proper, rfl⟩ | rfl
  · exact .literal
  · obtain ⟨some, front, some', whole, parts⟩ := name_of_mem_properSuffixes proper
    rw [wildcard_eq some, parts]
    exact .wildcard (join_ne_nil some' fun label mem =>
      isName.labels label (whole ▸ List.mem_append_left _ mem))
  · exact .all

/-! ## What a search finds for a name -/

section Search

universe u

variable {α : Type u} {r : Routers α} {path user : GoString}

/-- A search asks the candidates in turn. -/
theorem search_eq_findSome_candidates :
    r.search host path user = (candidates host).findSome? fun domain =>
      r.findRouter domain path user := by
  rw [Routers.search_eq_findSome, Table.attempts]
  induction candidates host with
  | nil => rfl
  | cons domain domains ih =>
      rw [List.flatMap_cons, List.findSome?_append, ih, ← Routers.findRouter_eq_findSome,
        List.findSome?_cons]
      cases r.findRouter domain path user with
      | none => rfl
      | some vr => rfl

theorem domain_mem_of_search (sorted : r.Sorted) {vr : Router α}
    (found : r.search host path user = some vr) : vr.domain ∈ candidates host := by
  rw [search_eq_findSome_candidates] at found
  obtain ⟨domain, mem, found⟩ := List.exists_of_findSome?_eq_some found
  rcases Routers.findRouter_mem found with listed | listed
  · rw [(sorted.keys _ _ _ listed).1]
    exact mem
  · rw [(sorted.keys _ _ _ listed).1]
    exact mem

/-- An entry under the domain that takes the path and the user. -/
structure Takes (table : Table α) (domain path user location httpUser : GoString) : Prop where
  entry : (table domain location httpUser).isSome
  location : location <+: path
  user : httpUser = user ∨ httpUser = []

theorem get_isSome_iff (sorted : r.Sorted) {domain : GoString} :
    (r.get domain path user).isSome ↔
      ∃ location, (r.table domain location user).isSome ∧ location <+: path := by
  rw [← not_iff_not, Option.not_isSome_iff_eq_none, sorted.get_eq_none_iff]
  simp only [Table.Misses, Option.isSome_iff_exists, not_exists, not_and, forall_exists_index]

theorem findRouter_isSome_iff (sorted : r.Sorted) {domain : GoString} :
    (r.findRouter domain path user).isSome ↔
      ∃ location httpUser, Takes r.table domain path user location httpUser := by
  rw [Routers.findRouter, Option.isSome_or, Bool.or_eq_true, get_isSome_iff sorted,
    get_isSome_iff sorted]
  constructor
  · rintro (⟨location, entry, covers⟩ | ⟨location, entry, covers⟩)
    · exact ⟨location, user, entry, covers, .inl rfl⟩
    · exact ⟨location, [], entry, covers, .inr rfl⟩
  · rintro ⟨location, httpUser, entry, covers, rfl | rfl⟩
    · exact .inl ⟨location, entry, covers⟩
    · exact .inr ⟨location, entry, covers⟩

/-- What is found under a domain: the user's own entries come first, then the longest. -/
theorem findRouter_spec (sorted : r.Sorted) {domain : GoString} {vr : Router α}
    (found : r.findRouter domain path user = some vr) :
    vr.domain = domain ∧ r.table domain vr.location vr.httpUser = some vr.payload ∧
      Takes r.table domain path user vr.location vr.httpUser ∧
      ∀ location httpUser, Takes r.table domain path user location httpUser →
        vr.httpUser = httpUser ∧ location.length ≤ vr.location.length ∨
          httpUser = [] ∧ vr.httpUser ≠ [] := by
  rw [Routers.findRouter, Option.or_eq_some_iff] at found
  rcases found with found | ⟨none, found⟩
  · have longest := sorted.longest_of_get found
    obtain ⟨rfl, rfl⟩ := longest.key
    refine ⟨rfl, longest.entry, ⟨by rw [longest.entry]; rfl, longest.covers, .inl rfl⟩, ?_⟩
    rintro location httpUser ⟨entry, covers, rfl | rfl⟩
    · obtain ⟨payload, entry⟩ := Option.isSome_iff_exists.1 entry
      exact .inl ⟨rfl, longest.longest location payload entry covers⟩
    · by_cases same : vr.httpUser = []
      · obtain ⟨payload, entry⟩ := Option.isSome_iff_exists.1 entry
        rw [← same] at entry
        exact .inl ⟨same, longest.longest location payload entry covers⟩
      · exact .inr ⟨rfl, same⟩
  · have longest := sorted.longest_of_get found
    obtain ⟨rfl, anybody⟩ := longest.key
    have entry' := longest.entry
    rw [← anybody] at entry'
    refine ⟨rfl, entry', ⟨by rw [entry']; rfl, longest.covers, .inr anybody⟩, ?_⟩
    rintro location httpUser ⟨entry, covers, rfl | rfl⟩
    · obtain ⟨payload, entry⟩ := Option.isSome_iff_exists.1 entry
      exact absurd covers (sorted.get_eq_none_iff.1 none location payload entry)
    · obtain ⟨payload, entry⟩ := Option.isSome_iff_exists.1 entry
      exact .inl ⟨anybody, longest.longest location payload entry covers⟩

/-- A candidate is asked if no one that fixes more of the name has a route. -/
theorem search_eq_findRouter (isName : HostName name) {domain : GoString}
    (mem : domain ∈ candidates name) (served : (r.findRouter domain path user).isSome)
    (first : ∀ other ∈ candidates name, fixed name domain < fixed name other →
      r.findRouter other path user = none) :
    r.search name path user = r.findRouter domain path user := by
  obtain ⟨vr, found⟩ := Option.isSome_iff_exists.1 served
  obtain ⟨before, after, order⟩ := List.append_of_mem mem
  have decreasing := fixed_decreasing isName
  rw [order, List.pairwise_append] at decreasing
  rw [search_eq_findSome_candidates, found, List.findSome?_eq_some_iff]
  refine ⟨before, domain, after, order, found, ?_⟩
  intro other earlier
  refine first other ?_ (decreasing.2.2 other earlier domain List.mem_cons_self)
  rw [order]
  exact List.mem_append_left _ earlier

end Search

end ChmlFrp.Vhost
