/-
# ChmlFrp.Lib.GoString — Go strings as byte lists

The functions of Go's `strings` and `net` that host names, headers and settings go
through.  A Go string is any sequence of bytes, so it is a list of bytes here and not a
`String`.
-/

namespace ChmlFrp.Lib

set_option autoImplicit false

abbrev GoString := List UInt8

namespace GoString

/-- An ASCII literal. -/
def lit (s : String) : GoString := s.toList.map fun c => UInt8.ofNat c.toNat

def dot : UInt8 := 46
def colon : UInt8 := 58
def openBracket : UInt8 := 91
def closeBracket : UInt8 := 93

/-! ## Letter case -/

def lowerByte (b : UInt8) : UInt8 := if 65 ≤ b ∧ b ≤ 90 then b + 32 else b

def isASCII (s : GoString) : Bool := s.all (· < 128)

/-- `strings.ToLower`, which maps an ASCII string byte by byte and asks the Unicode
tables for any other. -/
def toLower (unicode : GoString → GoString) (s : GoString) : GoString :=
  if isASCII s then s.map lowerByte else unicode s

/-- `strings.EqualFold` against an ASCII string of the same number of bytes. -/
def equalFold (s t : GoString) : Bool := s.map lowerByte == t.map lowerByte

/-! ## Searching and splitting -/

def split (s : GoString) (sep : UInt8) : List GoString := s.splitOn sep

def join (parts : List GoString) (sep : UInt8) : GoString := [sep].intercalate parts

def trimSuffix (s : GoString) (suffix : UInt8) : GoString :=
  if s.getLast? = some suffix then s.dropLast else s

/-- The parts before and after the first occurrence of the byte. -/
def cut (s : GoString) (sep : UInt8) : Option (GoString × GoString) :=
  if sep ∈ s then some (s.takeWhile (· ≠ sep), (s.dropWhile (· ≠ sep)).drop 1) else none

/-- The parts before and after the last occurrence of the byte. -/
def cutLast (s : GoString) (sep : UInt8) : Option (GoString × GoString) :=
  (cut s.reverse sep).map fun (after, before) => (before.reverse, after.reverse)

/-- Whether `t` occurs in `s`. -/
def contains : GoString → GoString → Bool
  | [], t => t.isEmpty
  | b :: s, t => t.isPrefixOf (b :: s) || contains s t

def hasSuffix (s t : GoString) : Bool := t.isSuffixOf s

theorem contains_iff {s t : GoString} : contains s t = true ↔ t <:+: s := by
  induction s with
  | nil =>
      rw [contains, List.isEmpty_iff, List.infix_nil]
  | cons b s ih =>
      rw [contains, Bool.or_eq_true, ih, List.isPrefixOf_iff_prefix, List.infix_cons_iff]

theorem cut_eq_some_iff {s before after : GoString} {sep : UInt8} :
    cut s sep = some (before, after) ↔ s = before ++ sep :: after ∧ sep ∉ before := by
  constructor
  · intro cuts
    unfold cut at cuts
    split at cuts
    · rename_i mem
      cases cuts
      have clear : sep ∉ s.takeWhile (· ≠ sep) := by
        intro inside
        simpa using List.all_eq_true.1 List.all_takeWhile sep inside
      refine ⟨?_, clear⟩
      have whole : s.takeWhile (· ≠ sep) ++ s.dropWhile (· ≠ sep) = s :=
        List.takeWhile_append_dropWhile
      cases tail : s.dropWhile (· ≠ sep) with
      | nil =>
          rw [tail, List.append_nil] at whole
          rw [whole] at clear
          exact absurd mem clear
      | cons first rest =>
          have here : first = sep := by
            have head := List.head?_dropWhile_not (· ≠ sep) s
            rw [tail] at head
            simpa using head
          rw [tail, here] at whole
          exact whole.symm
    · cases cuts
  · rintro ⟨rfl, absent⟩
    have clear : ∀ b ∈ before, decide (b ≠ sep) = true := by
      intro b mem
      exact decide_eq_true fun same => absent (same ▸ mem)
    rw [cut, if_pos (List.mem_append_right _ List.mem_cons_self),
      List.takeWhile_append_of_pos clear, List.dropWhile_append_of_pos clear,
      List.takeWhile_cons_of_neg (by simp), List.dropWhile_cons_of_neg (by simp),
      List.append_nil]
    rfl

theorem cutLast_of_notMem {before after : GoString} {sep : UInt8} (absent : sep ∉ after) :
    cutLast (before ++ sep :: after) sep = some (before, after) := by
  have rev : (before ++ sep :: after).reverse = after.reverse ++ sep :: before.reverse := by
    rw [List.reverse_append, List.reverse_cons, List.append_assoc, List.singleton_append]
  have clear : ∀ b ∈ after.reverse, decide (b ≠ sep) = true := by
    intro b mem
    rw [decide_eq_true_eq]
    rintro rfl
    exact absent (List.mem_reverse.1 mem)
  have mem : sep ∈ after.reverse ++ sep :: before.reverse :=
    List.mem_append_right _ List.mem_cons_self
  rw [cutLast, rev, cut, if_pos mem, List.takeWhile_append_of_pos clear,
    List.dropWhile_append_of_pos clear, List.takeWhile_cons_of_neg (by simp),
    List.dropWhile_cons_of_neg (by simp)]
  simp

/-! ## Trimming -/

/-- Drop words from the front as long as one of them stands there. -/
def strip (words : List GoString) : Nat → GoString → GoString
  | 0, s => s
  | n + 1, s =>
      match words.find? (·.isPrefixOf s) with
      | some word => strip words n (s.drop word.length)
      | none => s

/-- The UTF-8 encodings of the runes for which `unicode.IsSpace` holds. -/
def spaces : List GoString :=
  [[9], [10], [11], [12], [13], [32], [194, 133], [194, 160], [225, 154, 128],
    [226, 128, 128], [226, 128, 129], [226, 128, 130], [226, 128, 131], [226, 128, 132],
    [226, 128, 133], [226, 128, 134], [226, 128, 135], [226, 128, 136], [226, 128, 137],
    [226, 128, 138], [226, 128, 168], [226, 128, 169], [226, 128, 175], [226, 129, 159],
    [227, 128, 128]]

def trimLeft (words : List GoString) (s : GoString) : GoString := strip words s.length s

def trimRight (words : List GoString) (s : GoString) : GoString :=
  (trimLeft (words.map List.reverse) s.reverse).reverse

/-- `strings.TrimSpace` -/
def trimSpace (s : GoString) : GoString := trimRight spaces (trimLeft spaces s)

section Trim

variable {words : List GoString} {s : GoString}

theorem strip_suffix (n : Nat) : strip words n s <:+ s := by
  induction n generalizing s with
  | zero => exact List.suffix_refl s
  | succ n ih =>
      unfold strip
      split
      · exact ih.trans (List.drop_suffix _ s)
      · exact List.suffix_refl s

/-- Enough steps leave no word in front. -/
theorem strip_clear (nonempty : ∀ word ∈ words, word ≠ []) {n : Nat} (enough : s.length ≤ n) :
    ∀ word ∈ words, ¬ word <+: strip words n s := by
  induction n generalizing s with
  | zero =>
      intro word mem front
      have empty : s = [] := List.length_eq_zero_iff.1 (by omega)
      subst empty
      exact nonempty word mem (List.prefix_nil.1 front)
  | succ n ih =>
      unfold strip
      split
      · rename_i first found
        have mem : first ∈ words := List.mem_of_find?_eq_some found
        have positive : 0 < first.length := List.length_pos_iff.2 (nonempty first mem)
        apply ih
        rw [List.length_drop]
        omega
      · rename_i absent
        intro word mem front
        have clear := List.find?_eq_none.1 absent word mem
        exact clear (List.isPrefixOf_iff_prefix.2 front)

theorem strip_of_clear (clear : ∀ word ∈ words, ¬ word <+: s) (n : Nat) :
    strip words n s = s := by
  cases n with
  | zero => rfl
  | succ n =>
      unfold strip
      split
      · rename_i word found
        have mem : word ∈ words := List.mem_of_find?_eq_some found
        have front := (List.find?_eq_some_iff_append.1 found).1
        exact absurd (List.isPrefixOf_iff_prefix.1 front) (clear word mem)
      · rfl

theorem reverse_nonempty (nonempty : ∀ word ∈ words, word ≠ []) :
    ∀ word ∈ words.map List.reverse, word ≠ [] := by
  intro word mem
  obtain ⟨other, mem', rfl⟩ := List.mem_map.1 mem
  simpa using nonempty other mem'

theorem trimRight_prefix : trimRight words s <+: s := by
  have suffix : strip (words.map List.reverse) s.reverse.length s.reverse <:+ s.reverse :=
    strip_suffix s.reverse.length
  rw [← List.reverse_prefix, List.reverse_reverse] at suffix
  exact suffix

theorem trimRight_of_clear (clear : ∀ word ∈ words, ¬ word <:+ s) : trimRight words s = s := by
  have front : ∀ word ∈ words.map List.reverse, ¬ word <+: s.reverse := by
    intro word mem front
    obtain ⟨other, mem', rfl⟩ := List.mem_map.1 mem
    exact clear other mem' (List.reverse_prefix.1 front)
  rw [trimRight, trimLeft, strip_of_clear front, List.reverse_reverse]

/-- Trimming twice is trimming once: what is left of a string with no word in front has
none either. -/
theorem trim_idem (nonempty : ∀ word ∈ words, word ≠ []) :
    trimRight words (trimLeft words (trimRight words (trimLeft words s))) =
      trimRight words (trimLeft words s) := by
  have front : ∀ word ∈ words, ¬ word <+: trimRight words (trimLeft words s) := by
    intro word mem stands
    exact strip_clear nonempty (Nat.le_refl _) word mem (stands.trans trimRight_prefix)
  have back : ∀ word ∈ words, ¬ word <:+ trimRight words (trimLeft words s) := by
    intro word mem stands
    rw [← List.reverse_prefix, trimRight, List.reverse_reverse] at stands
    exact strip_clear (reverse_nonempty nonempty) (Nat.le_refl _) word.reverse
      (List.mem_map_of_mem mem) stands
  have kept : trimLeft words (trimRight words (trimLeft words s)) =
      trimRight words (trimLeft words s) := strip_of_clear front _
  rw [kept, trimRight_of_clear back]

theorem trimSpace_trimSpace : trimSpace (trimSpace s) = trimSpace s :=
  trim_idem (by decide)

end Trim

/-! ## Decimal numbers -/

/-- `strconv.Itoa` -/
def itoa (n : Int) : GoString := lit n.repr

/-- A literal of narrow characters is read back byte by byte. -/
theorem map_lit {s : String} (narrow : ∀ c ∈ s.toList, c.toNat < 256) :
    (lit s).map (fun b => Char.ofNat b.toNat) = s.toList := by
  unfold lit
  rw [List.map_map]
  calc s.toList.map _ = s.toList.map id := by
        apply List.map_congr_left
        intro c mem
        show Char.ofNat (UInt8.ofNat c.toNat).toNat = c
        rw [UInt8.toNat_ofNat_of_lt' (narrow c mem), Char.ofNat_toNat]
    _ = s.toList := List.map_id _

theorem toList_repr (n : Int) :
    n.repr.toList = if 0 ≤ n then Nat.toDigits 10 n.toNat
      else '-' :: Nat.toDigits 10 (-n).toNat := by
  rw [Int.repr_eq_if]
  split
  · exact Nat.toList_repr
  · rw [String.toList_append, Nat.toList_repr]
    rfl

theorem digit_narrow {n : Nat} {c : Char} (mem : c ∈ Nat.toDigits 10 n) :
    c.toNat < 256 ∧ c ≠ '-' := by
  have digit : c.isDigit = true := Nat.isDigit_of_mem_toDigits (by omega) (by omega) mem
  refine ⟨?_, ?_⟩
  · have bounds : 48 ≤ c.toNat ∧ c.toNat ≤ 57 := by
      simpa [Char.isDigit, UInt32.le_iff_toNat_le] using digit
    omega
  · rintro rfl
    cases digit

theorem toDigits_injective {m n : Nat} (same : Nat.toDigits 10 m = Nat.toDigits 10 n) :
    m = n := by
  rw [← Nat.ofDigitChars_toDigits (n := m) (b := 10) (by omega) (by omega), same,
    Nat.ofDigitChars_toDigits (by omega) (by omega)]

theorem itoa_injective {m n : Int} (same : itoa m = itoa n) : m = n := by
  have narrow : ∀ k : Int, ∀ c ∈ k.repr.toList, c.toNat < 256 := by
    intro k c mem
    rw [toList_repr] at mem
    split at mem
    · exact (digit_narrow mem).1
    · rcases List.mem_cons.1 mem with rfl | mem
      · decide
      · exact (digit_narrow mem).1
  have chars : m.repr.toList = n.repr.toList := by
    rw [← map_lit (narrow m), ← map_lit (narrow n)]
    exact congrArg _ same
  rw [toList_repr, toList_repr] at chars
  have minus : ∀ k l : Nat, Nat.toDigits 10 k ≠ '-' :: Nat.toDigits 10 l := by
    intro k l sign
    exact (digit_narrow (n := k) (sign ▸ List.mem_cons_self)).2 rfl
  split at chars <;> split at chars
  · have := toDigits_injective chars
    omega
  · exact absurd chars (minus _ _)
  · exact absurd chars.symm (minus _ _)
  · have := toDigits_injective (List.cons.inj chars).2
    omega

/-! ## `net.SplitHostPort` -/

inductive AddrError where
  | missingPort
  | tooManyColons
  | missingBracket
  | unexpectedOpenBracket
  | unexpectedCloseBracket
  deriving DecidableEq, Repr

/-- `net.SplitHostPort` -/
def splitHostPort (hostport : GoString) : Except AddrError (GoString × GoString) :=
  match cutLast hostport colon with
  | none => .error .missingPort
  | some (beforePort, port) =>
      match hostport with
      | 91 :: inner =>
          match cut inner closeBracket with
          | none => .error .missingBracket
          | some (host, after) =>
              if after = [] then .error .missingPort
              else if after = colon :: port then
                if openBracket ∈ inner then .error .unexpectedOpenBracket
                else if closeBracket ∈ after then .error .unexpectedCloseBracket
                else .ok (host, port)
              else if after.head? = some colon then .error .tooManyColons
              else .error .missingPort
      | _ =>
          if colon ∈ beforePort then .error .tooManyColons
          else if openBracket ∈ hostport then .error .unexpectedOpenBracket
          else if closeBracket ∈ hostport then .error .unexpectedCloseBracket
          else .ok (beforePort, port)

example : splitHostPort (lit "web.example.com:8080") =
    .ok (lit "web.example.com", lit "8080") := rfl

example : splitHostPort (lit "[::1]:80") = .ok (lit "::1", lit "80") := rfl

end GoString

end ChmlFrp.Lib
