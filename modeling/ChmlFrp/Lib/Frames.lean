/-
# ChmlFrp.Lib.Frames — messages on a stream of bytes

A `Framing` packs a message into bytes, and says of the bytes that have come in since the last
message whether they are a message, the beginning of one, or nothing the reader goes on with.
A reader that takes one byte after the other needs no more than that.

* `got_first`: the messages a reader has met are the first of those that were written.
* `got_all`: and all of them, when it has the whole stream and still waits.
* `refused_of_bad`: it has given up at a message that it does not accept.

`lengthPrefixed` is the framing with a byte for the type, the length in eight bytes and a body
that may not be too long.
-/
import Mathlib.Algebra.Group.Nat.Defs
import Mathlib.Data.List.Basic
import Mathlib.Tactic.Common

namespace ChmlFrp.Lib

set_option autoImplicit false

universe u v

inductive Unpacked (μ : Type u) where
  | more
  | msg (m : μ)
  | bad
  deriving DecidableEq, Repr

structure Framing (μ : Type u) (β : Type v) where
  pack : μ → List β
  unpack : List β → Unpacked μ
  accepts : μ → Bool

namespace Framing

variable {μ : Type u} {β : Type v} (f : Framing μ β)

structure Lawful : Prop where
  empty : f.unpack [] = .more
  whole : ∀ m, f.accepts m = true → f.unpack (f.pack m) = .msg m
  part : ∀ m p, f.accepts m = true → p <+: f.pack m → p ≠ f.pack m → f.unpack p = .more
  /-- What is not accepted is refused, before anything is made of it. -/
  refused : ∀ m p m', f.accepts m = false → p <+: f.pack m → f.unpack p ≠ .msg m'
  refuses : ∀ m, f.accepts m = false → ∃ p, p <+: f.pack m ∧ f.unpack p = .bad

def stream (ms : List μ) : List β := ms.flatMap f.pack

/-- What a reader has that waits for more. -/
def Waits (p : List β) : Prop := ∀ q, q <+: p → f.unpack q = .more

@[simp] theorem stream_nil : f.stream [] = [] := rfl

@[simp] theorem stream_cons (m : μ) (ms : List μ) :
    f.stream (m :: ms) = f.pack m ++ f.stream ms := rfl

@[simp] theorem stream_append (ms ns : List μ) :
    f.stream (ms ++ ns) = f.stream ms ++ f.stream ns := List.flatMap_append

theorem stream_grows {ms ns : List μ} (shorter : ms <+: ns) : f.stream ms <+: f.stream ns := by
  obtain ⟨rest, rfl⟩ := shorter
  rw [stream_append]
  exact List.prefix_append _ _

variable {f}

theorem Waits.before {p : List β} (waits : f.Waits p) (b : β) :
    ∀ q, q <+: p ++ [b] → q ≠ p ++ [b] → f.unpack q = .more := by
  intro q shorter other
  rcases List.prefix_concat_iff.1 shorter with all | shorter
  · exact absurd all other
  · exact waits q shorter

theorem Waits.concat {p : List β} {b : β} (waits : f.Waits p)
    (more : f.unpack (p ++ [b]) = .more) : f.Waits (p ++ [b]) := by
  intro q shorter
  rcases List.prefix_concat_iff.1 shorter with rfl | shorter
  · exact more
  · exact waits q shorter

namespace Lawful

variable (lawful : f.Lawful)

include lawful

theorem waits_nil : f.Waits [] := by
  intro q shorter
  rw [List.prefix_nil.1 shorter]
  exact lawful.empty

theorem pack_ne_nil (m : μ) : f.pack m ≠ [] := by
  intro nothing
  cases accepted : f.accepts m with
  | true =>
      have whole := lawful.whole m accepted
      rw [nothing, lawful.empty] at whole
      cases whole
  | false =>
      obtain ⟨p, shorter, bad⟩ := lawful.refuses m accepted
      rw [nothing] at shorter
      rw [List.prefix_nil.1 shorter, lawful.empty] at bad
      cases bad

/-- No message that is accepted begins with another message. -/
theorem eq_of_comparable {m n : μ} (accepted : f.accepts m = true)
    (comparable : f.pack m <+: f.pack n ∨ f.pack n <+: f.pack m) : m = n := by
  have whole := lawful.whole m accepted
  cases accepted' : f.accepts n with
  | false =>
      rcases comparable with shorter | longer
      · exact absurd whole (lawful.refused n _ m accepted' shorter)
      · obtain ⟨p, shorter, bad⟩ := lawful.refuses n accepted'
        by_cases all : p = f.pack m
        · rw [all, whole] at bad
          cases bad
        · rw [lawful.part m p accepted (shorter.trans longer) all] at bad
          cases bad
  | true =>
      have whole' := lawful.whole n accepted'
      by_cases same : f.pack m = f.pack n
      · rw [same, whole'] at whole
        cases whole
        rfl
      rcases comparable with shorter | longer
      · rw [lawful.part n _ accepted' shorter same] at whole
        cases whole
      · rw [lawful.part m _ accepted longer (Ne.symm same)] at whole'
        cases whole'

variable {got sent : List μ} {buf : List β}

/-- What a reader has met is the beginning of what was written. -/
theorem got_first (accepted : ∀ m ∈ got, f.accepts m = true)
    (seen : f.stream got ++ buf <+: f.stream sent) : got <+: sent := by
  induction got generalizing sent with
  | nil => exact List.nil_prefix
  | cons m got ih =>
      have first : f.pack m <+: f.stream sent := by
        refine List.IsPrefix.trans ?_ seen
        rw [stream_cons, List.append_assoc]
        exact List.prefix_append _ _
      cases sent with
      | nil => exact absurd (List.prefix_nil.1 first) (lawful.pack_ne_nil m)
      | cons n sent =>
          have comparable := List.prefix_or_prefix_of_prefix first
            (List.prefix_append (f.pack n) (f.stream sent))
          obtain rfl := lawful.eq_of_comparable (accepted m List.mem_cons_self) comparable
          rw [stream_cons, stream_cons, List.append_assoc] at seen
          have rest := ih (fun m' mem => accepted m' (List.mem_cons_of_mem m mem))
            ((List.prefix_append_right_inj (f.pack m)).1 seen)
          exact (List.prefix_cons_inj m).2 rest

/-- The next message, and what the reader has of it. -/
theorem next_message (accepted : ∀ m ∈ got, f.accepts m = true)
    (seen : f.stream got ++ buf <+: f.stream sent) :
    ∃ rest, sent = got ++ rest ∧ buf <+: f.stream rest := by
  obtain ⟨rest, rfl⟩ := lawful.got_first accepted seen
  rw [stream_append] at seen
  exact ⟨rest, rfl, (List.prefix_append_right_inj (f.stream got)).1 seen⟩

theorem got_all (accepted : ∀ m ∈ got, f.accepts m = true)
    (seen : f.stream got ++ buf = f.stream sent) (waits : f.Waits buf) : got = sent := by
  have all : f.stream got ++ buf <+: f.stream sent := by
    refine ⟨[], ?_⟩
    rw [List.append_nil, seen]
  obtain ⟨rest, rfl, -⟩ := lawful.next_message accepted all
  rw [stream_append] at seen
  obtain rfl := List.append_cancel_left seen
  cases rest with
  | nil => rw [List.append_nil]
  | cons m rest =>
      exfalso
      have first : f.pack m <+: f.stream (m :: rest) := List.prefix_append _ _
      cases accepted' : f.accepts m with
      | true =>
          have more := waits _ first
          rw [lawful.whole m accepted'] at more
          cases more
      | false =>
          obtain ⟨p, shorter, bad⟩ := lawful.refuses m accepted'
          rw [waits p (shorter.trans first)] at bad
          cases bad

/-- What the reader decides, it decides of the next message. -/
theorem verdict (accepted : ∀ m ∈ got, f.accepts m = true)
    (seen : f.stream got ++ buf <+: f.stream sent)
    (before : ∀ q, q <+: buf → q ≠ buf → f.unpack q = .more) (decided : f.unpack buf ≠ .more) :
    ∃ m, got ++ [m] <+: sent ∧
      (f.accepts m = true ∧ buf = f.pack m ∨ f.accepts m = false ∧ f.unpack buf = .bad) := by
  obtain ⟨rest, rfl, next⟩ := lawful.next_message accepted seen
  cases rest with
  | nil =>
      rw [List.prefix_nil.1 next, lawful.empty] at decided
      exact absurd rfl decided
  | cons m rest =>
      refine ⟨m, ?_, ?_⟩
      · rw [List.append_cons got m rest]
        exact List.prefix_append _ _
      have comparable := List.prefix_or_prefix_of_prefix next
        (List.prefix_append (f.pack m) (f.stream rest))
      cases accepted' : f.accepts m with
      | true =>
          refine .inl ⟨rfl, ?_⟩
          by_contra other
          rcases comparable with shorter | longer
          · exact decided (lawful.part m buf accepted' shorter other)
          · have more := before _ longer (Ne.symm other)
            rw [lawful.whole m accepted'] at more
            cases more
      | false =>
          refine .inr ⟨rfl, ?_⟩
          rcases comparable with shorter | longer
          · cases verdict : f.unpack buf with
            | more => exact absurd verdict decided
            | msg n => exact absurd verdict (lawful.refused m buf n accepted' shorter)
            | bad => rfl
          · obtain ⟨p, shorter, bad⟩ := lawful.refuses m accepted'
            by_cases all : p = buf
            · rwa [all] at bad
            · rw [before p (shorter.trans longer) all] at bad
              cases bad

/-- Where the reader has a message, it is the next one. -/
theorem met_of_msg (accepted : ∀ m ∈ got, f.accepts m = true)
    (seen : f.stream got ++ buf <+: f.stream sent)
    (before : ∀ q, q <+: buf → q ≠ buf → f.unpack q = .more) {m : μ} (msg : f.unpack buf = .msg m) :
    f.accepts m = true ∧ buf = f.pack m := by
  obtain ⟨n, -, ⟨accepted', whole⟩ | ⟨-, bad⟩⟩ :=
    lawful.verdict accepted seen before (by rw [msg]; simp)
  · have same := lawful.whole n accepted'
    rw [← whole, msg] at same
    cases same
    exact ⟨accepted', whole⟩
  · rw [msg] at bad
    cases bad

/-- Where it has given up, the next message is one that it does not accept. -/
theorem refused_of_bad (accepted : ∀ m ∈ got, f.accepts m = true)
    (seen : f.stream got ++ buf <+: f.stream sent)
    (before : ∀ q, q <+: buf → q ≠ buf → f.unpack q = .more) (bad : f.unpack buf = .bad) :
    ∃ m, got ++ [m] <+: sent ∧ f.accepts m = false := by
  obtain ⟨m, next, ⟨accepted', whole⟩ | ⟨refused, -⟩⟩ :=
    lawful.verdict accepted seen before (by rw [bad]; simp)
  · rw [whole, lawful.whole m accepted'] at bad
    cases bad
  · exact ⟨m, next, refused⟩

end Lawful

end Framing

/-! ## Messages with their length -/

/-- `n` in `k` bytes, the highest first. -/
def bigEndian : Nat → Nat → List UInt8
  | 0, _ => []
  | k + 1, n => bigEndian k (n / 256) ++ [UInt8.ofNat n]

def ofBigEndian (bytes : List UInt8) : Nat := bytes.foldl (fun n b => 256 * n + b.toNat) 0

@[simp] theorem length_bigEndian (k n : Nat) : (bigEndian k n).length = k := by
  induction k generalizing n with
  | zero => rfl
  | succ k ih => rw [bigEndian, List.length_append, ih, List.length_singleton]

theorem ofBigEndian_bigEndian {k n : Nat} (fits : n < 256 ^ k) :
    ofBigEndian (bigEndian k n) = n := by
  induction k generalizing n with
  | zero =>
      have none_ : n = 0 := by simpa using fits
      rw [none_]
      rfl
  | succ k ih =>
      have high : n / 256 < 256 ^ k := by
        rw [Nat.div_lt_iff_lt_mul (by decide)]
        rwa [Nat.pow_succ] at fits
      have last : ofBigEndian (bigEndian k (n / 256) ++ [UInt8.ofNat n]) =
          256 * ofBigEndian (bigEndian k (n / 256)) + n % 256 := by
        unfold ofBigEndian
        rw [List.foldl_append]
        simp
      rw [bigEndian, last, ih high]
      omega

structure Packet where
  typeByte : UInt8
  body : List UInt8
  /-- The length is an `int64`. -/
  short : body.length < 2 ^ 63
  deriving DecidableEq, Repr

section LengthPrefixed

variable (known : UInt8 → Bool) (max : Nat)

def unpackBody (typeByte : UInt8) (length : Nat) (body : List UInt8) : Unpacked Packet :=
  if max < length then .bad
  else if body.length < length then .more
  else if short : (body.take length).length < 2 ^ 63 then .msg ⟨typeByte, body.take length, short⟩
  else .bad

def unpackPacket : List UInt8 → Unpacked Packet
  | [] => .more
  | typeByte :: rest =>
      if known typeByte = false then .bad
      else if rest.length < 8 then .more
      else unpackBody max typeByte (ofBigEndian (rest.take 8)) (rest.drop 8)

def lengthPrefixed : Framing Packet UInt8 where
  pack m := m.typeByte :: (bigEndian 8 m.body.length ++ m.body)
  unpack := unpackPacket known max
  accepts m := known m.typeByte && decide (m.body.length ≤ max)

variable {known max}

/-- The reader has the length and so much of the body. -/
theorem unpackPacket_body {m : Packet} (type_ : known m.typeByte = true) {body : List UInt8} :
    unpackPacket known max (m.typeByte :: (bigEndian 8 m.body.length ++ body)) =
      unpackBody max m.typeByte m.body.length body := by
  have fits : m.body.length < 256 ^ 8 := Nat.lt_trans m.short (by decide)
  have head : (bigEndian 8 m.body.length ++ body).take 8 = bigEndian 8 m.body.length :=
    List.take_left' (length_bigEndian 8 _)
  have tail : (bigEndian 8 m.body.length ++ body).drop 8 = body :=
    List.drop_left' (length_bigEndian 8 _)
  have long : ¬ (bigEndian 8 m.body.length ++ body).length < 8 := by simp
  simp only [unpackPacket, type_, Bool.true_eq_false, if_false, long, head, tail,
    ofBigEndian_bigEndian fits]

/-- The reader has nothing, or not all of the length, or some of the body. -/
theorem prefix_pack_cases {m : Packet} {p : List UInt8}
    (shorter : p <+: (lengthPrefixed known max).pack m) :
    p = [] ∨ (∃ rest, p = m.typeByte :: rest ∧ rest.length < 8) ∨
      ∃ body, p = m.typeByte :: (bigEndian 8 m.body.length ++ body) ∧ body <+: m.body := by
  cases p with
  | nil => exact .inl rfl
  | cons b rest =>
      obtain ⟨rfl, behind⟩ := List.cons_prefix_cons.1 shorter
      refine .inr ?_
      by_cases length : rest.length < 8
      · exact .inl ⟨rest, rfl, length⟩
      · refine .inr ?_
        have head : bigEndian 8 m.body.length <+: rest :=
          List.prefix_of_prefix_length_le (List.prefix_append _ _) behind (by simpa using length)
        obtain ⟨body, rfl⟩ := head
        exact ⟨body, rfl, (List.prefix_append_right_inj _).1 behind⟩

theorem lengthPrefixed_lawful : (lengthPrefixed known max).Lawful where
  empty := rfl
  whole := by
    intro m accepted
    obtain ⟨type_, length⟩ : known m.typeByte = true ∧ m.body.length ≤ max := by
      simpa [lengthPrefixed] using accepted
    show unpackPacket known max (m.typeByte :: (bigEndian 8 m.body.length ++ m.body)) = .msg m
    have short : (m.body.take m.body.length).length < 2 ^ 63 := by
      rw [List.take_length]
      exact m.short
    rw [unpackPacket_body type_, unpackBody, if_neg (by omega), if_neg (by omega), dif_pos short]
    simp only [List.take_length]
  part := by
    intro m p accepted shorter other
    obtain ⟨type_, length⟩ : known m.typeByte = true ∧ m.body.length ≤ max := by
      simpa [lengthPrefixed] using accepted
    show unpackPacket known max p = .more
    rcases prefix_pack_cases shorter with rfl | ⟨rest, rfl, few⟩ | ⟨body, rfl, part⟩
    · rfl
    · simp [unpackPacket, type_, few]
    · have fewer : body.length < m.body.length := by
        refine Nat.lt_of_le_of_ne part.length_le ?_
        intro same
        exact other (by rw [part.eq_of_length same]; rfl)
      rw [unpackPacket_body type_, unpackBody, if_neg (by omega), if_pos fewer]
  refused := by
    intro m p m' refused shorter
    show unpackPacket known max p ≠ .msg m'
    rcases prefix_pack_cases shorter with rfl | ⟨rest, rfl, few⟩ | ⟨body, rfl, -⟩
    · simp [unpackPacket]
    · cases type_ : known m.typeByte <;> simp [unpackPacket, type_, few]
    · cases type_ : known m.typeByte with
      | false => simp [unpackPacket, type_]
      | true =>
          have length : max < m.body.length := by
            simpa [lengthPrefixed, type_] using refused
          rw [unpackPacket_body type_, unpackBody, if_pos length]
          simp
  refuses := by
    intro m refused
    cases type_ : known m.typeByte with
    | false =>
        refine ⟨[m.typeByte], List.cons_prefix_cons.2 ⟨rfl, List.nil_prefix⟩, ?_⟩
        simp [lengthPrefixed, unpackPacket, type_]
    | true =>
        have length : max < m.body.length := by
          simpa [lengthPrefixed, type_] using refused
        refine ⟨m.typeByte :: (bigEndian 8 m.body.length ++ []), ?_, ?_⟩
        · exact List.cons_prefix_cons.2 ⟨rfl, (List.prefix_append_right_inj _).2 List.nil_prefix⟩
        · exact (unpackPacket_body type_).trans (if_pos length)

end LengthPrefixed

end ChmlFrp.Lib
