/-
# ChmlFrp.Lib.Base64 — the standard base64 encoding

`encode` and `decode` are Go's `base64.StdEncoding`: padded, with line breaks ignored
and the unused bits of the last character not checked.

* `decode_encode`: decoding undoes encoding, so encoding is injective.
* `encode_alphabet`: what an encoded string is made of; a separator outside the
  alphabet stays recognisable next to it.
-/
import Mathlib.Logic.Function.Basic

namespace ChmlFrp.Lib.Base64

set_option autoImplicit false

/-- The 6-bit value of a character: upper case, lower case, digits, `+`, `/`. -/
def value (c : UInt8) : Option Nat :=
  let n := c.toNat
  if 65 ≤ n ∧ n ≤ 90 then some (n - 65)
  else if 97 ≤ n ∧ n ≤ 122 then some (n - 71)
  else if 48 ≤ n ∧ n ≤ 57 then some (n + 4)
  else if n = 43 then some 62
  else if n = 47 then some 63
  else none

/-- The character of a 6-bit value. -/
def char (v : Nat) : UInt8 :=
  UInt8.ofNat <|
    if v < 26 then v + 65
    else if v < 52 then v + 71
    else if v < 62 then v - 4
    else if v = 62 then 43
    else 47

def pad : UInt8 := 61

theorem value_char : ∀ v < 64, value (char v) = some v := by decide

/-! ## Encoding -/

def encode : List UInt8 → List UInt8
  | a :: b :: c :: rest =>
      char (a.toNat / 4) :: char (a.toNat % 4 * 16 + b.toNat / 16) ::
        char (b.toNat % 16 * 4 + c.toNat / 64) :: char (c.toNat % 64) :: encode rest
  | [a, b] =>
      [char (a.toNat / 4), char (a.toNat % 4 * 16 + b.toNat / 16), char (b.toNat % 16 * 4), pad]
  | [a] => [char (a.toNat / 4), char (a.toNat % 4 * 16), pad, pad]
  | [] => []

/-! ## Decoding -/

def first (p q : Nat) : UInt8 := UInt8.ofNat (p * 4 + q / 16)
def second (q r : Nat) : UInt8 := UInt8.ofNat (q % 16 * 16 + r / 4)
def third (r s : Nat) : UInt8 := UInt8.ofNat (r % 4 * 64 + s)

/-- Four characters at a time; padding is allowed in the last four only. -/
def decodeQuanta : List UInt8 → Option (List UInt8)
  | [] => some []
  | a :: b :: c :: d :: rest => do
      let p ← value a
      let q ← value b
      if c = pad ∧ d = pad ∧ rest = [] then
        return [first p q]
      let r ← value c
      if d = pad ∧ rest = [] then
        return [first p q, second q r]
      let s ← value d
      let more ← decodeQuanta rest
      return first p q :: second q r :: third r s :: more
  | _ => none

def isLineBreak (c : UInt8) : Bool := c == 10 || c == 13

def decode (src : List UInt8) : Option (List UInt8) :=
  decodeQuanta (src.filter fun c => !isLineBreak c)

/-! ## Decoding undoes encoding -/

theorem char_ne_pad : ∀ v < 64, char v ≠ pad := by decide

theorem char_not_lineBreak : ∀ v < 64, isLineBreak (char v) = false := by decide

theorem sextets_lt (a b c : UInt8) :
    a.toNat / 4 < 64 ∧ a.toNat % 4 * 16 + b.toNat / 16 < 64 ∧
      b.toNat % 16 * 4 + c.toNat / 64 < 64 ∧ c.toNat % 64 < 64 := by
  have := a.toNat_lt
  have := b.toNat_lt
  have := c.toNat_lt
  omega

theorem ofNat_of_toNat (a : UInt8) {n : Nat} (same : n = a.toNat) : UInt8.ofNat n = a := by
  rw [same, UInt8.ofNat_toNat]

theorem first_eq (a b : UInt8) : first (a.toNat / 4) (a.toNat % 4 * 16 + b.toNat / 16) = a := by
  apply ofNat_of_toNat
  have := b.toNat_lt
  omega

theorem second_eq (a b c : UInt8) :
    second (a.toNat % 4 * 16 + b.toNat / 16) (b.toNat % 16 * 4 + c.toNat / 64) = b := by
  apply ofNat_of_toNat
  have := b.toNat_lt
  have := c.toNat_lt
  omega

theorem third_eq (b c : UInt8) : third (b.toNat % 16 * 4 + c.toNat / 64) (c.toNat % 64) = c := by
  apply ofNat_of_toNat
  have := c.toNat_lt
  omega

theorem decodeQuanta_encode (src : List UInt8) : decodeQuanta (encode src) = some src := by
  induction src using encode.induct with
  | case1 a b c rest ih =>
      obtain ⟨hp, hq, hr, hs⟩ := sextets_lt a b c
      rw [encode, decodeQuanta, value_char _ hp, value_char _ hq, value_char _ hr,
        value_char _ hs, ih]
      simp [char_ne_pad _ hr, char_ne_pad _ hs, first_eq, second_eq, third_eq]
  | case2 a b =>
      obtain ⟨hp, hq, hr, -⟩ := sextets_lt a b 0
      rw [UInt8.toNat_zero, Nat.zero_div, Nat.add_zero] at hr
      have one := second_eq a b 0
      rw [UInt8.toNat_zero, Nat.zero_div, Nat.add_zero] at one
      rw [encode, decodeQuanta, value_char _ hp, value_char _ hq, value_char _ hr]
      simp [char_ne_pad _ hr, first_eq, one]
  | case3 a =>
      obtain ⟨hp, hq, -, -⟩ := sextets_lt a 0 0
      rw [UInt8.toNat_zero, Nat.zero_div, Nat.add_zero] at hq
      have one := first_eq a 0
      rw [UInt8.toNat_zero, Nat.zero_div, Nat.add_zero] at one
      rw [encode, decodeQuanta, value_char _ hp, value_char _ hq]
      simp [one]
  | case4 => rfl

/-- An encoded string is made of the alphabet and the padding character. -/
theorem encode_alphabet (src : List UInt8) :
    ∀ c ∈ encode src, c = pad ∨ ∃ v < 64, c = char v := by
  induction src using encode.induct with
  | case1 a b c rest ih =>
      obtain ⟨hp, hq, hr, hs⟩ := sextets_lt a b c
      intro x member
      simp only [encode, List.mem_cons] at member
      rcases member with rfl | rfl | rfl | rfl | member
      · exact .inr ⟨_, hp, rfl⟩
      · exact .inr ⟨_, hq, rfl⟩
      · exact .inr ⟨_, hr, rfl⟩
      · exact .inr ⟨_, hs, rfl⟩
      · exact ih x member
  | case2 a b =>
      obtain ⟨hp, hq, hr, -⟩ := sextets_lt a b 0
      intro x member
      simp only [encode, List.mem_cons, List.not_mem_nil, or_false] at member
      rcases member with rfl | rfl | rfl | rfl
      · exact .inr ⟨_, hp, rfl⟩
      · exact .inr ⟨_, hq, rfl⟩
      · exact .inr ⟨_, by simpa using hr, rfl⟩
      · exact .inl rfl
  | case3 a =>
      obtain ⟨hp, hq, -, -⟩ := sextets_lt a 0 0
      intro x member
      simp only [encode, List.mem_cons, List.not_mem_nil, or_false] at member
      rcases member with rfl | rfl | rfl | rfl
      · exact .inr ⟨_, hp, rfl⟩
      · exact .inr ⟨_, by simpa using hq, rfl⟩
      · exact .inl rfl
      · exact .inl rfl
  | case4 =>
      intro x member
      cases member

theorem decode_encode (src : List UInt8) : decode (encode src) = some src := by
  have kept : (encode src).filter (fun c => !isLineBreak c) = encode src := by
    rw [List.filter_eq_self]
    intro c member
    rcases encode_alphabet src c member with rfl | ⟨v, small, rfl⟩
    · rfl
    · rw [char_not_lineBreak v small]
      rfl
  rw [decode, kept, decodeQuanta_encode]

theorem encode_injective : Function.Injective encode := by
  intro src src' same
  have := decode_encode src
  rw [same, decode_encode] at this
  exact (Option.some.inj this).symm

/-- A character outside the alphabet does not occur in an encoded string. -/
theorem not_mem_encode {sep : UInt8} (notPad : sep ≠ pad) (outside : ∀ v < 64, sep ≠ char v)
    (src : List UInt8) : sep ∉ encode src := by
  intro member
  rcases encode_alphabet src sep member with rfl | ⟨v, small, same⟩
  · exact notPad rfl
  · exact outside v small same

end ChmlFrp.Lib.Base64
