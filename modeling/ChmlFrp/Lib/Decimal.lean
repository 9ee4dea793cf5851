/-
# ChmlFrp.Lib.Decimal — what is read as a number

The strings that `strconv.ParseInt` accepts, by their form and not by the loop that reads
them, and the blanks that `strings.TrimSpace` takes away from around them.

* `trimSpace_blank_append`, `trimSpace_append_blank`: blanks around a string do not count;
* `trimmed_split`: nor do they when the string is split first;
* `parseInt_eq_ok`: what `ParseInt` reads is a sign and the digits of a number that fits;
* `parsedValue_trailing`: a byte behind the digits that is none makes it return 0.
-/
import ChmlFrp.Lib.Strconv
import Mathlib.Data.List.Infix
import Mathlib.Tactic.Common

namespace ChmlFrp.Lib

set_option autoImplicit false

namespace GoString

/-! ## Blanks -/

/-- A string of such words. -/
def Blank (words : List GoString) (s : GoString) : Prop :=
  ∃ ws : List GoString, (∀ w ∈ ws, w ∈ words) ∧ s = ws.flatten

/-- No word is the beginning of another. -/
def PrefixFree (words : List GoString) : Prop := ∀ v ∈ words, ∀ w ∈ words, v <+: w → v = w

instance (words : List GoString) : Decidable (PrefixFree words) :=
  inferInstanceAs (Decidable (∀ v ∈ words, ∀ w ∈ words, v <+: w → v = w))

section Strip

variable {words : List GoString} {s : GoString}

theorem strip_found {word : GoString} (found : words.find? (·.isPrefixOf s) = some word) (n : Nat) :
    strip words (n + 1) s = strip words n (s.drop word.length) := by
  rw [strip, found]

theorem strip_absent (absent : words.find? (·.isPrefixOf s) = none) (n : Nat) :
    strip words n s = s := by
  cases n with
  | zero => rfl
  | succ n => rw [strip, absent]

theorem strip_add (m n : Nat) : strip words (m + n) s = strip words m (strip words n s) := by
  induction n generalizing s with
  | zero => rfl
  | succ n ih =>
      cases found : words.find? (·.isPrefixOf s) with
      | some word => rw [← Nat.add_assoc, strip_found found, strip_found found, ih]
      | none => rw [strip_absent found, strip_absent found, strip_absent found]

theorem strip_enough (nonempty : ∀ word ∈ words, word ≠ []) {n : Nat} (enough : s.length ≤ n) :
    strip words n s = trimLeft words s := by
  obtain ⟨m, rfl⟩ := Nat.exists_eq_add_of_le' enough
  rw [strip_add, strip_of_clear (strip_clear nonempty (Nat.le_refl _)), trimLeft]

/-- With no word the beginning of another, the word that stands in front is the one found. -/
theorem strip_word (free : PrefixFree words) {word : GoString} (mem : word ∈ words) (n : Nat) :
    strip words (n + 1) (word ++ s) = strip words n s := by
  have front : word <+: word ++ s := List.prefix_append word s
  cases found : words.find? (·.isPrefixOf (word ++ s)) with
  | none =>
      have clear := List.find?_eq_none.1 found word mem
      exact absurd (List.isPrefixOf_iff_prefix.2 front) clear
  | some other =>
      have mem' : other ∈ words := List.mem_of_find?_eq_some found
      have front' : other <+: word ++ s :=
        List.isPrefixOf_iff_prefix.1 (List.find?_eq_some_iff_append.1 found).1
      have same : other = word := by
        rcases List.prefix_or_prefix_of_prefix front' front with less | less
        · exact free other mem' word mem less
        · exact (free word mem other mem' less).symm
      rw [strip_found found, same, List.drop_left]

theorem trimLeft_blank_append (nonempty : ∀ word ∈ words, word ≠ []) (free : PrefixFree words)
    {before : GoString} (blank : Blank words before) :
    trimLeft words (before ++ s) = trimLeft words s := by
  obtain ⟨ws, mem, rfl⟩ := blank
  induction ws with
  | nil => rfl
  | cons w ws ih =>
      have positive : 0 < w.length := List.length_pos_iff.2 (nonempty w (mem w List.mem_cons_self))
      rw [List.flatten_cons, List.append_assoc, ← strip_enough nonempty (Nat.le_succ _),
        strip_word free (mem w List.mem_cons_self), strip_enough nonempty (by simp),
        ih fun v mem' => mem v (List.mem_cons_of_mem w mem')]

/-- What is taken away is blank. -/
theorem exists_blank_strip (words : List GoString) (s : GoString) (n : Nat) :
    ∃ before, Blank words before ∧ s = before ++ strip words n s := by
  induction n generalizing s with
  | zero => exact ⟨[], ⟨[], by simp, rfl⟩, rfl⟩
  | succ n ih =>
      cases found : words.find? (·.isPrefixOf s) with
      | none =>
          rw [strip_absent found]
          exact ⟨[], ⟨[], by simp, rfl⟩, rfl⟩
      | some word =>
          have mem : word ∈ words := List.mem_of_find?_eq_some found
          obtain ⟨rest, rfl⟩ : word <+: s :=
            List.isPrefixOf_iff_prefix.1 (List.find?_eq_some_iff_append.1 found).1
          obtain ⟨before, ⟨ws, mem', rfl⟩, same⟩ := ih rest
          refine ⟨(word :: ws).flatten, ⟨word :: ws, by simpa using ⟨mem, mem'⟩, rfl⟩, ?_⟩
          rw [strip_found found, List.drop_left, List.flatten_cons, List.append_assoc, ← same]

theorem Blank.reverse (blank : Blank words s) : Blank (words.map List.reverse) s.reverse := by
  obtain ⟨ws, mem, rfl⟩ := blank
  refine ⟨(ws.map List.reverse).reverse, ?_, List.reverse_flatten⟩
  intro w mem'
  obtain ⟨v, mem'', rfl⟩ := List.mem_map.1 (List.mem_reverse.1 mem')
  exact List.mem_map_of_mem (mem v mem'')

theorem Blank.of_reverse (blank : Blank (words.map List.reverse) s) : Blank words s.reverse := by
  have twice := blank.reverse
  rwa [List.map_map, List.reverse_involutive.comp_self, List.map_id] at twice

end Strip

theorem trimRight_append_blank {words : List GoString} {s after : GoString}
    (nonempty : ∀ word ∈ words, word ≠ []) (free : PrefixFree (words.map List.reverse))
    (blank : Blank words after) : trimRight words (s ++ after) = trimRight words s := by
  rw [trimRight, List.reverse_append,
    trimLeft_blank_append (reverse_nonempty nonempty) free blank.reverse, ← trimRight]

/-! ## `strings.TrimSpace` -/

theorem spaces_nonempty : ∀ word ∈ spaces, word ≠ [] := by decide

theorem spaces_prefixFree : PrefixFree spaces ∧ PrefixFree (spaces.map List.reverse) := by
  decide +kernel

/-- No blank goes on with a byte that another begins with. -/
theorem spaces_synchronize :
    ∀ word ∈ spaces, ∀ b ∈ word.tail, ∀ other ∈ spaces, other.head? ≠ some b := by
  decide +kernel

variable {s : GoString}

theorem Blank.head? {words : List GoString} (nonempty : ∀ word ∈ words, word ≠ [])
    (blank : Blank words s) : s = [] ∨ ∃ word ∈ words, word.head? = s.head? := by
  obtain ⟨ws, mem, rfl⟩ := blank
  cases ws with
  | nil => exact .inl rfl
  | cons w ws =>
      have front : w ≠ [] := nonempty w (mem w List.mem_cons_self)
      refine .inr ⟨w, mem w List.mem_cons_self, ?_⟩
      rw [List.flatten_cons, List.head?_append_of_ne_nil w front]

/-- Blanks in front do not count. -/
theorem trimSpace_blank_append {before : GoString} (blank : Blank spaces before) :
    trimSpace (before ++ s) = trimSpace s := by
  unfold trimSpace
  rw [trimLeft_blank_append spaces_nonempty spaces_prefixFree.1 blank]

/-- No blank stands across the end of a string and what is appended. -/
theorem clear_append {after : GoString} (nonempty : s ≠ [])
    (clear : ∀ word ∈ spaces, ¬ word <+: s) (blank : Blank spaces after) :
    ∀ word ∈ spaces, ¬ word <+: s ++ after := by
  intro word mem front
  obtain ⟨t, whole⟩ := front
  rcases List.append_eq_append_iff.1 whole with ⟨u, inside, -⟩ | ⟨rest, across, tail⟩
  · exact clear word mem ⟨u, inside.symm⟩
  cases rest with
  | nil => exact clear word mem ⟨[], by rw [across, List.append_nil, List.append_nil]⟩
  | cons b rest =>
      have inner : b ∈ word.tail := by
        rw [across, List.tail_append_of_ne_nil nonempty]
        exact List.mem_append_right _ List.mem_cons_self
      rcases blank.head? spaces_nonempty with empty | ⟨other, mem', same⟩
      · rw [empty] at tail
        cases tail
      · rw [tail] at same
        exact spaces_synchronize word mem b inner other mem' same

/-- Nor do blanks behind. -/
theorem trimSpace_append_blank {after : GoString} (blank : Blank spaces after) :
    trimSpace (s ++ after) = trimSpace s := by
  obtain ⟨before, front, whole⟩ := exists_blank_strip spaces s s.length
  have clear := strip_clear (s := s) spaces_nonempty (Nat.le_refl s.length)
  rw [whole, List.append_assoc, trimSpace_blank_append front, trimSpace_blank_append front]
  generalize strip spaces s.length s = t at clear ⊢
  by_cases empty : t = []
  · subst empty
    rw [List.nil_append, ← List.append_nil after, trimSpace_blank_append blank]
  · unfold trimSpace trimLeft
    rw [strip_of_clear clear, strip_of_clear (clear_append empty clear blank),
      trimRight_append_blank spaces_nonempty spaces_prefixFree.2 blank]

/-- What is trimmed away is blank. -/
theorem exists_blank_trimSpace (s : GoString) :
    ∃ before after, Blank spaces before ∧ Blank spaces after ∧
      s = before ++ trimSpace s ++ after := by
  obtain ⟨before, front, whole⟩ := exists_blank_strip spaces s s.length
  obtain ⟨after, back, rest⟩ := exists_blank_strip (spaces.map List.reverse)
    (trimLeft spaces s).reverse (trimLeft spaces s).reverse.length
  have trimmed : trimLeft spaces s = trimSpace s ++ after.reverse := by
    rw [← List.reverse_inj, rest, List.reverse_append, List.reverse_reverse]
    congr 1
    rw [trimSpace, trimRight, List.reverse_reverse]
    rfl
  refine ⟨before, after.reverse, front, back.of_reverse, ?_⟩
  rw [List.append_assoc, ← trimmed]
  exact whole

theorem trimSpace_of_clear (front : ∀ word ∈ spaces, ¬ word <+: s)
    (back : ∀ word ∈ spaces, ¬ word <:+ s) : trimSpace s = s := by
  rw [trimSpace, trimLeft, strip_of_clear front, trimRight_of_clear back]

/-! ## Splitting between blanks -/

/-- A byte that stands in no blank. -/
def Visible (b : UInt8) : Prop := ∀ word ∈ spaces, b ∉ word

instance (b : UInt8) : Decidable (Visible b) :=
  inferInstanceAs (Decidable (∀ word ∈ spaces, b ∉ word))

theorem Blank.notMem {sep : UInt8} (visible : Visible sep) (blank : Blank spaces s) :
    sep ∉ s := by
  obtain ⟨ws, mem, rfl⟩ := blank
  intro stands
  obtain ⟨word, mem', stands⟩ := List.mem_flatten.1 stands
  exact visible word (mem word mem') stands

theorem notMem_of_mem_split {sep : UInt8} {part : GoString} (mem : part ∈ split s sep) :
    sep ∉ part := by
  unfold split at mem
  induction s generalizing part with
  | nil =>
      rw [List.splitOn_nil, List.mem_singleton] at mem
      simp [mem]
  | cons b s ih =>
      rw [List.splitOn_cons_eq_if_modifyHead] at mem
      split at mem
      · rcases List.mem_cons.1 mem with rfl | mem
        · simp
        · exact ih mem
      · rename_i other
        obtain ⟨first, rest, parts⟩ := List.exists_cons_of_ne_nil (List.splitOn_ne_nil sep s)
        rw [parts] at mem ih
        rcases List.mem_cons.1 mem with rfl | mem
        · have absent := ih List.mem_cons_self
          simp only [beq_iff_eq] at other
          simp [absent, Ne.symm other]
        · exact ih (List.mem_cons_of_mem first mem)

section Split

variable {sep : UInt8} (visible : Visible sep)

include visible

theorem trimmed_split_blank_append {before : GoString} (blank : Blank spaces before) :
    (split (before ++ s) sep).map trimSpace = (split s sep).map trimSpace := by
  have absent := blank.notMem visible
  unfold split
  by_cases mem : sep ∈ s
  · obtain ⟨x, y, rfl, absent'⟩ := List.eq_append_cons_of_mem mem
    rw [← List.append_assoc, List.splitOn_append_cons_self_of_not_mem (by simp [absent, absent']),
      List.splitOn_append_cons_self_of_not_mem absent']
    simp only [List.map_cons, trimSpace_blank_append blank]
  · rw [List.splitOn_eq_singleton mem, List.splitOn_eq_singleton (by simp [absent, mem])]
    simp only [List.map_cons, List.map_nil, trimSpace_blank_append blank]

theorem trimmed_split_append_blank {after : GoString} (blank : Blank spaces after) :
    (split (s ++ after) sep).map trimSpace = (split s sep).map trimSpace := by
  have absent := blank.notMem visible
  unfold split
  induction len : s.length using Nat.strong_induction_on generalizing s with
  | _ n ih =>
      by_cases mem : sep ∈ s
      · obtain ⟨x, y, rfl, absent'⟩ := List.eq_append_cons_of_mem mem
        have shorter : y.length < n := by
          simp only [List.length_append, List.length_cons] at len
          omega
        rw [List.append_assoc, List.cons_append,
          List.splitOn_append_cons_self_of_not_mem absent',
          List.splitOn_append_cons_self_of_not_mem absent', List.map_cons, List.map_cons,
          ih y.length shorter rfl]
      · rw [List.splitOn_eq_singleton mem, List.splitOn_eq_singleton (by simp [absent, mem])]
        simp only [List.map_cons, List.map_nil, trimSpace_append_blank blank]

theorem trimmed_split_trimSpace (s : GoString) :
    (split (trimSpace s) sep).map trimSpace = (split s sep).map trimSpace := by
  obtain ⟨before, after, front, back, whole⟩ := exists_blank_trimSpace s
  calc (split (trimSpace s) sep).map trimSpace
      = (split (before ++ trimSpace s) sep).map trimSpace :=
        (trimmed_split_blank_append visible front).symm
    _ = (split (before ++ trimSpace s ++ after) sep).map trimSpace :=
        (trimmed_split_append_blank visible back).symm
    _ = (split s sep).map trimSpace := by rw [← whole]

/-- Strings that differ in blanks have parts that do. -/
theorem trimmed_split {s t : GoString} (alike : trimSpace s = trimSpace t) :
    (split s sep).map trimSpace = (split t sep).map trimSpace := by
  rw [← trimmed_split_trimSpace visible s, alike, trimmed_split_trimSpace visible t]

end Split

end GoString

/-! ## Numbers -/

namespace Strconv

def IsDigit (b : UInt8) : Prop := 48 ≤ b ∧ b ≤ 57

instance (b : UInt8) : Decidable (IsDigit b) := inferInstanceAs (Decidable (_ ∧ _))

/-- The digits of a number are read from the left. -/
def readOn (n : Nat) (b : UInt8) : Nat := 10 * n + (b.toNat - 48)

/-- The string is the number in decimal digits. -/
structure Decimal (s : GoString) (n : Nat) : Prop where
  nonempty : s ≠ []
  digits : ∀ b ∈ s, IsDigit b
  value : s.foldl readOn 0 = n

theorem digit_eq (b : UInt8) :
    digit b = if IsDigit b then some (b.toNat - 48) else none := rfl

theorem le_foldl_readOn (n : Nat) (s : GoString) : n ≤ s.foldl readOn n := by
  induction s generalizing n with
  | nil => exact Nat.le_refl n
  | cons b s ih =>
      have later := ih (readOn n b)
      rw [List.foldl_cons]
      unfold readOn at later ⊢
      omega

theorem parseDigits_eq_ok {n : Nat} {s : GoString} {v : Nat} (small : n ≤ maxUint64) :
    parseDigits n s = .ok v ↔
      (∀ b ∈ s, IsDigit b) ∧ s.foldl readOn n = v ∧ v ≤ maxUint64 := by
  induction s generalizing n with
  | nil =>
      simp only [parseDigits, List.foldl_nil, Except.ok.injEq]
      constructor
      · rintro rfl
        simp [small]
      · exact fun h => h.2.1
  | cons b s ih =>
      have later := le_foldl_readOn (readOn n b) s
      rw [parseDigits, digit_eq, List.foldl_cons, List.forall_mem_cons]
      by_cases isDigit : IsDigit b
      · rw [if_pos isDigit]
        by_cases large : maxUint64 < 10 * n + (b.toNat - 48)
        · simp only [if_pos large, reduceCtorEq, false_iff]
          rintro ⟨-, rfl, fits⟩
          unfold readOn at later fits
          omega
        · simp only [if_neg large]
          rw [← readOn, ih (by unfold readOn; omega)]
          simp [isDigit]
      · simp [isDigit]

theorem parseUint_eq_ok {s : GoString} {n : Nat} :
    parseUint s = .ok n ↔ Decimal s n ∧ n ≤ maxUint64 := by
  cases s with
  | nil =>
      simp only [parseUint, reduceCtorEq, false_iff]
      rintro ⟨⟨nonempty, -, -⟩, -⟩
      exact nonempty rfl
  | cons b s =>
      rw [parseUint, parseDigits_eq_ok (Nat.zero_le _)]
      · constructor
        · rintro ⟨digits, value, fits⟩
          exact ⟨⟨by simp, digits, value⟩, fits⟩
        · rintro ⟨⟨-, digits, value⟩, fits⟩
          exact ⟨digits, value, fits⟩
      · simp

theorem Decimal.head_ne {s : GoString} {n : Nat} (decimal : Decimal s n) {b : UInt8}
    (sign : ¬ IsDigit b) : s.head? ≠ some b := by
  intro front
  obtain ⟨rest, rfl⟩ := List.head?_eq_some_iff.1 front
  exact sign (decimal.digits b List.mem_cons_self)

theorem not_isDigit_sign : ¬ IsDigit plus ∧ ¬ IsDigit minus := by decide

theorem parseInt_unsigned {s : GoString} (unsigned : s.head? ≠ some minus) {n : Int} :
    parseInt s = .ok n ↔
      ∃ v : Nat, parseUint (if s.head? = some plus then s.drop 1 else s) = .ok v ∧ v < 2 ^ 63 ∧
        n = v := by
  have positive : (s.head? == some minus) = false := beq_eq_false_iff_ne.2 unsigned
  unfold parseInt
  simp only [positive, Bool.false_or, beq_iff_eq]
  cases parseUint (if s.head? = some plus then s.drop 1 else s) with
  | error err => simp
  | ok un =>
      by_cases large : cutoff ≤ un
      · simp only [large, and_self, if_true]
        unfold cutoff at large
        simp
        omega
      · have fits : un < 2 ^ 63 := by
          unfold cutoff at large
          omega
        simp only [large, and_false, if_false, Bool.false_eq_true, false_and, Except.ok.injEq,
          exists_eq_left', fits, true_and]
        exact eq_comm

/-- **What is read without a minus sign: an optional plus sign and the digits of a number
that fits.** -/
theorem parseInt_eq_ok {s : GoString} (unsigned : s.head? ≠ some minus) {n : Int} :
    parseInt s = .ok n ↔
      ∃ digits v, (s = digits ∨ s = plus :: digits) ∧ Decimal digits v ∧ v < 2 ^ 63 ∧
        n = (v : Int) := by
  rw [parseInt_unsigned unsigned]
  simp only [parseUint_eq_ok]
  constructor
  · rintro ⟨v, ⟨decimal, -⟩, fits, rfl⟩
    refine ⟨_, v, ?_, decimal, fits, rfl⟩
    split
    · rename_i sign
      obtain ⟨rest, rfl⟩ := List.head?_eq_some_iff.1 sign
      exact .inr rfl
    · exact .inl rfl
  · rintro ⟨digits, v, same, decimal, fits, rfl⟩
    have range : v ≤ maxUint64 := by unfold maxUint64; omega
    refine ⟨v, ⟨?_, range⟩, fits, rfl⟩
    rcases same with rfl | rfl
    · rwa [if_neg (decimal.head_ne not_isDigit_sign.1)]
    · exact decimal

/-! ## The number beside the error -/

/-- `res, _ := strconv.ParseInt(s, 10, 64)`: with an error the number is 0, or the last one
that fits. -/
def parsedValue (s : GoString) : Int :=
  match parseInt s with
  | .ok n => n
  | .error .syntax_ => 0
  | .error .range => if s.head? = some minus then -2 ^ 63 else 2 ^ 63 - 1

theorem Decimal.parsedValue_eq {s : GoString} {n : Nat} (decimal : Decimal s n)
    (fits : n < 2 ^ 63) : parsedValue s = n := by
  have read : parseInt s = .ok (n : Int) :=
    (parseInt_eq_ok (decimal.head_ne not_isDigit_sign.2)).2
      ⟨s, n, .inl rfl, decimal, fits, rfl⟩
  rw [parsedValue, read]

theorem parseDigits_append {n : Nat} {s : GoString} (digits : ∀ b ∈ s, IsDigit b)
    (small : s.foldl readOn n ≤ maxUint64) (t : GoString) :
    parseDigits n (s ++ t) = parseDigits (s.foldl readOn n) t := by
  induction s generalizing n with
  | nil => rfl
  | cons b s ih =>
      obtain ⟨first, rest⟩ := List.forall_mem_cons.1 digits
      have later := le_foldl_readOn (readOn n b) s
      rw [List.foldl_cons] at small
      have step : ¬ maxUint64 < 10 * n + (b.toNat - 48) := by
        unfold readOn at later small
        omega
      rw [List.cons_append, parseDigits, digit_eq, if_pos first]
      simp only [if_neg step]
      rw [← readOn, ih rest small, List.foldl_cons]

theorem parsedValue_trailing {s : GoString} {n : Nat} (decimal : Decimal s n)
    (fits : n < 2 ^ 63) {b : UInt8} (other : ¬ IsDigit b) (t : GoString) :
    parsedValue (s ++ b :: t) = 0 := by
  have small : s.foldl readOn 0 ≤ maxUint64 := by
    rw [decimal.value]
    unfold maxUint64
    omega
  have stops : parseUint (s ++ b :: t) = .error .syntax_ := by
    obtain ⟨first, rest, rfl⟩ := List.exists_cons_of_ne_nil decimal.nonempty
    have whole := parseDigits_append decimal.digits small (b :: t)
    rw [parseDigits, digit_eq, if_neg other] at whole
    exact whole
  have head : (s ++ b :: t).head? = s.head? :=
    List.head?_append_of_ne_nil s decimal.nonempty
  have unsigned : ((s ++ b :: t).head? == some minus) = false := by
    rw [head, beq_eq_false_iff_ne]
    exact decimal.head_ne not_isDigit_sign.2
  have unsigned' : ((s ++ b :: t).head? == some plus) = false := by
    rw [head, beq_eq_false_iff_ne]
    exact decimal.head_ne not_isDigit_sign.1
  have refused : parseInt (s ++ b :: t) = .error .syntax_ := by
    unfold parseInt
    simp only [unsigned, unsigned', Bool.or_false, Bool.false_eq_true, if_false, stops]
  rw [parsedValue, refused]

end Strconv

end ChmlFrp.Lib
