/-
# ChmlFrp.Util.RangeNumbers — lists of numbers and ranges

`ParseRangeNumbers` of `pkg/util/util/util.go` reads `1000-2000,2001`.  The counter of
its inner loop is an `int64` that wraps around, so the loop is given a number of rounds
and `none` says that they did not suffice.

* `rangeLoop_max`: with the largest `int64` as its end the loop never ends;
* `mem_parseRangeNumbers`: the list holds exactly the numbers that its items name.
* `parseRangeNumbers_meets_iff`: it ends, and accepts and returns what the grammar of these
  lists says, iff no well-formed beginning of the list leads to a range up to that number.
-/
import ChmlFrp.Lib.Decimal
import Mathlib.Data.List.Forall2

namespace ChmlFrp.Util

set_option autoImplicit false

open ChmlFrp.Lib
open ChmlFrp.Lib.GoString

/-- "range number is invalid", with the error of `ParseInt` if there is one. -/
structure RangeError where
  errRet : Option NumError
  deriving DecidableEq, Repr

def comma : UInt8 := 44
def dash : UInt8 := 45

/-- `i++` -/
def increment (i : Int) : Int := Int.bmod (i + 1) (2 ^ 64)

/-- `for i := min; i <= max; i++`, for at most so many rounds. -/
def rangeLoop : Nat → Int → Int → Option (List Int)
  | 0, _, _ => none
  | rounds + 1, i, max =>
      if i ≤ max then (rangeLoop rounds (increment i) max).map (i :: ·) else some []

def readNumber (s : GoString) : Except RangeError Int :=
  (Strconv.parseInt (trimSpace s)).mapError fun err => ⟨some err⟩

/-- One `1000-2000` or `2001`. -/
def parseItem (rounds : Nat) (numRangeStr : GoString) : Option (Except RangeError (List Int)) :=
  match split numRangeStr dash with
  | [single] => some ((readNumber single).map ([·]))
  | [first, second] =>
      match readNumber first with
      | .error err => some (.error err)
      | .ok min =>
          match readNumber second with
          | .error err => some (.error err)
          | .ok max =>
              if max < min then some (.error ⟨none⟩)
              else (rangeLoop rounds min max).map .ok
  | _ => some (.error ⟨none⟩)

/-- The loop over the items, which the first error ends. -/
def parseItems (rounds : Nat) : List GoString → Option (Except RangeError (List Int))
  | [] => some (.ok [])
  | item :: items =>
      match parseItem rounds item with
      | none => none
      | some (.error err) => some (.error err)
      | some (.ok numbers) => (parseItems rounds items).map fun rest => rest.map (numbers ++ ·)

/-- `ParseRangeNumbers` -/
def parseRangeNumbers (rounds : Nat) (rangeStr : GoString) :
    Option (Except RangeError (List Int)) :=
  parseItems rounds (split (trimSpace rangeStr) comma)

example : parseRangeNumbers 5 (lit " 3-5,8, 10-12 ") = some (.ok [3, 4, 5, 8, 10, 11, 12]) := rfl

example : parseRangeNumbers 5 (lit "3-a") = some (.error ⟨some .syntax_⟩) := rfl

/-! ## The inner loop -/

theorem increment_of_lt {i : Int} (low : -2 ^ 63 ≤ i) (high : i < 2 ^ 63 - 1) :
    increment i = i + 1 := by
  unfold increment
  exact Int.bmod_eq_of_le (by omega) (by omega)

/-- No counter is above the largest `int64`, so a range up to it is never left. -/
theorem rangeLoop_max (rounds : Nat) (i : Int) (high : i ≤ 2 ^ 63 - 1) :
    rangeLoop rounds i (2 ^ 63 - 1) = none := by
  induction rounds generalizing i with
  | zero => rfl
  | succ rounds ih =>
      have next : increment i ≤ 2 ^ 63 - 1 := by
        have bound := Int.bmod_lt (x := i + 1) (m := 2 ^ 64) (by decide)
        unfold increment
        omega
      rw [rangeLoop, if_pos high, ih _ next, Option.map_none]

/-- A range that is left holds the numbers from the first to the last. -/
theorem mem_rangeLoop {max : Int} (below : max < 2 ^ 63 - 1) {rounds : Nat} {i : Int}
    (low : -2 ^ 63 ≤ i) (small : i ≤ max + 1) {numbers : List Int}
    (ends : rangeLoop rounds i max = some numbers) {p : Int} :
    p ∈ numbers ↔ i ≤ p ∧ p ≤ max := by
  induction rounds generalizing i numbers with
  | zero => cases ends
  | succ rounds ih =>
      unfold rangeLoop at ends
      split at ends
      · rename_i more
        rw [increment_of_lt low (by omega)] at ends
        obtain ⟨rest, later, rfl⟩ := Option.map_eq_some_iff.1 ends
        rw [List.mem_cons, ih (by omega) (by omega) later]
        omega
      · cases ends
        have empty : ¬ (i ≤ p ∧ p ≤ max) := by omega
        simp [empty]

/-! ## What the list names -/

/-- The number is the item, or in the range that it is. -/
def Denotes (item : GoString) (p : Int) : Prop :=
  (∃ single, split item dash = [single] ∧ readNumber single = .ok p) ∨
    ∃ first second min max, split item dash = [first, second] ∧ readNumber first = .ok min ∧
      readNumber second = .ok max ∧ min ≤ p ∧ p ≤ max

/-- One of the items names the number. -/
def Names (rangeStr : GoString) (p : Int) : Prop :=
  ∃ item ∈ split (trimSpace rangeStr) comma, Denotes item p

theorem readNumber_mem_range {s : GoString} {n : Int} (read : readNumber s = .ok n) :
    -2 ^ 63 ≤ n ∧ n ≤ 2 ^ 63 - 1 := by
  unfold readNumber at read
  cases parsed : Strconv.parseInt (trimSpace s) with
  | error err =>
      rw [parsed] at read
      cases read
  | ok m =>
      rw [parsed] at read
      cases read
      have range := Strconv.parseInt_mem_range parsed
      omega

theorem mem_parseItem {rounds : Nat} {item : GoString} {numbers : List Int}
    (parsed : parseItem rounds item = some (.ok numbers)) {p : Int} :
    p ∈ numbers ↔ Denotes item p := by
  unfold parseItem at parsed
  unfold Denotes
  split at parsed
  · rename_i single parts
    cases read : readNumber single with
    | error err =>
        rw [read] at parsed
        cases parsed
    | ok n =>
        rw [read] at parsed
        cases parsed
        simp [parts, read, eq_comm]
  · rename_i first second parts
    split at parsed
    · cases parsed
    · rename_i min readMin
      split at parsed
      · cases parsed
      · rename_i max readMax
        split at parsed
        · cases parsed
        · rename_i ordered
          obtain ⟨loop, ends, same⟩ := Option.map_eq_some_iff.1 parsed
          cases same
          have low := readNumber_mem_range readMin
          have high := readNumber_mem_range readMax
          have below : max < 2 ^ 63 - 1 := by
            by_contra top
            obtain rfl : max = 2 ^ 63 - 1 := by omega
            rw [rangeLoop_max rounds min low.2] at ends
            cases ends
          rw [mem_rangeLoop below low.1 (by omega) ends]
          simp [parts, readMin, readMax]
  · cases parsed

/-- **The list holds exactly the numbers that its items name.** -/
theorem mem_parseRangeNumbers {rounds : Nat} {rangeStr : GoString} {numbers : List Int}
    (parsed : parseRangeNumbers rounds rangeStr = some (.ok numbers)) {p : Int} :
    p ∈ numbers ↔ Names rangeStr p := by
  unfold parseRangeNumbers at parsed
  unfold Names
  generalize split (trimSpace rangeStr) comma = items at parsed ⊢
  induction items generalizing numbers with
  | nil =>
      cases parsed
      simp
  | cons item items ih =>
      unfold parseItems at parsed
      split at parsed
      · cases parsed
      · cases parsed
      · rename_i first here
        obtain ⟨result, later, same⟩ := Option.map_eq_some_iff.1 parsed
        cases result with
        | error err => cases same
        | ok rest =>
            cases same
            rw [List.mem_append, mem_parseItem here, ih later]
            simp

/-! ## The grammar -/

/-- Digits of a number that fits, with blanks around them and perhaps a plus sign. -/
def Number (s : GoString) (n : Nat) : Prop :=
  ∃ before sign digits after, s = before ++ (sign ++ digits) ++ after ∧
    Blank spaces before ∧ Blank spaces after ∧ (sign = [] ∨ sign = [Strconv.plus]) ∧
    Strconv.Decimal digits n ∧ n < 2 ^ 63

/-- `a, a+1, ..., b` -/
def ascending (a b : Int) : List Int :=
  (List.range (b + 1 - a).toNat).map fun k : Nat => a + (k : Int)

/-- A number, or two of them in order. -/
inductive Item : GoString → List Int → Prop
  | single {s : GoString} {n : Nat} : Number s n → Item s [(n : Int)]
  | pair {s t : GoString} {a b : Nat} :
      Number s a → Number t b → a ≤ b → Item (s ++ dash :: t) (ascending a b)

/-- The items between the commas, and their numbers one after the other. -/
def Lists (rangeStr : GoString) (numbers : List Int) : Prop :=
  ∃ lists, List.Forall₂ Item (split rangeStr comma) lists ∧ numbers = lists.flatten

/-- A range up to the largest `int64`. -/
def EndsAtMax (item : GoString) : Prop :=
  ∃ s t a, item = s ++ dash :: t ∧ Number s a ∧ Number t (2 ^ 63 - 1)

/-- Such a range comes up after items that are well formed. -/
def Reaches (items : List GoString) : Prop :=
  ∃ before item after, items = before ++ item :: after ∧
    (∀ other ∈ before, ∃ numbers, Item other numbers) ∧ EndsAtMax item

/-- It ends, and succeeds on the lists of the grammar, with their numbers. -/
structure Meets (rangeStr : GoString) : Prop where
  ends : ∃ rounds, parseRangeNumbers rounds rangeStr ≠ none
  denotes : ∀ rounds result, parseRangeNumbers rounds rangeStr = some result →
    ∀ numbers, result = .ok numbers ↔ Lists rangeStr numbers

/-! ## Reading an item -/

theorem clear_of_visible {t : GoString} {b : UInt8} (visible : Visible b)
    (front : t.head? = some b) : ∀ word ∈ spaces, ¬ word <+: t := by
  rintro word mem ⟨rest, rfl⟩
  rw [List.head?_append_of_ne_nil word (spaces_nonempty word mem)] at front
  exact visible word mem (List.mem_of_head? front)

theorem clear_of_visible_last {t : GoString} {b : UInt8} (visible : Visible b)
    (back : t.getLast? = some b) : ∀ word ∈ spaces, ¬ word <:+ t := by
  rintro word mem ⟨rest, rfl⟩
  rw [List.getLast?_append_of_ne_nil rest (spaces_nonempty word mem)] at back
  exact visible word mem (List.mem_of_getLast? back)

theorem visible_of_isDigit {b : UInt8} (isDigit : Strconv.IsDigit b) : Visible b := by
  have none_ : ∀ word ∈ spaces, ∀ c ∈ word, ¬ Strconv.IsDigit c := by decide +kernel
  exact fun word mem stands => none_ word mem b stands isDigit

/-- Nothing is trimmed from the digits and the sign before them. -/
theorem trimSpace_numeral {sign digits : GoString} {n : Nat}
    (signed : sign = [] ∨ sign = [Strconv.plus]) (decimal : Strconv.Decimal digits n) :
    trimSpace (sign ++ digits) = sign ++ digits := by
  obtain ⟨first, rest, rfl⟩ := List.exists_cons_of_ne_nil decimal.nonempty
  have back : (sign ++ first :: rest).getLast? = some ((first :: rest).getLast (by simp)) := by
    rw [List.getLast?_append_of_ne_nil sign (by simp), List.getLast?_eq_some_getLast]
  have lastDigit := decimal.digits _ (List.getLast_mem (List.cons_ne_nil first rest))
  refine trimSpace_of_clear ?_ (clear_of_visible_last (visible_of_isDigit lastDigit) back)
  rcases signed with rfl | rfl
  · exact clear_of_visible (visible_of_isDigit (decimal.digits _ List.mem_cons_self)) rfl
  · exact clear_of_visible (b := Strconv.plus) (by decide) rfl

theorem Number.trimSpace_eq {s : GoString} {n : Nat} (number : Number s n) :
    ∃ digits, (trimSpace s = digits ∨ trimSpace s = Strconv.plus :: digits) ∧
      Strconv.Decimal digits n ∧ n < 2 ^ 63 := by
  obtain ⟨before, sign, digits, after, rfl, front, back, signed, decimal, fits⟩ := number
  refine ⟨digits, ?_, decimal, fits⟩
  rw [trimSpace_append_blank back, trimSpace_blank_append front,
    trimSpace_numeral signed decimal]
  rcases signed with rfl | rfl
  · exact .inl rfl
  · exact .inr rfl

theorem Number.of_trimSpace {s digits : GoString} {n : Nat}
    (trimmed : trimSpace s = digits ∨ trimSpace s = Strconv.plus :: digits)
    (decimal : Strconv.Decimal digits n) (fits : n < 2 ^ 63) : Number s n := by
  obtain ⟨before, after, front, back, whole⟩ := exists_blank_trimSpace s
  rcases trimmed with same | same
  · exact ⟨before, [], digits, after, by rw [List.nil_append, ← same]; exact whole, front, back,
      .inl rfl, decimal, fits⟩
  · exact ⟨before, [Strconv.plus], digits, after,
      by rw [List.singleton_append, ← same]; exact whole, front, back, .inr rfl, decimal, fits⟩

/-- What is between the dashes is read as a number exactly when it is one. -/
theorem readNumber_eq_ok {s : GoString} (unsigned : dash ∉ s) {n : Int} :
    readNumber s = .ok n ↔ ∃ v : Nat, Number s v ∧ n = v := by
  have head : (trimSpace s).head? ≠ some Strconv.minus := by
    intro front
    obtain ⟨before, after, -, -, whole⟩ := exists_blank_trimSpace s
    apply unsigned
    rw [whole]
    exact List.mem_append_left _ (List.mem_append_right _ (List.mem_of_head? front))
  have read : readNumber s = .ok n ↔ Strconv.parseInt (trimSpace s) = .ok n := by
    unfold readNumber
    cases Strconv.parseInt (trimSpace s) <;> simp [Except.mapError]
  rw [read, Strconv.parseInt_eq_ok head]
  constructor
  · rintro ⟨digits, v, trimmed, decimal, fits, same⟩
    exact ⟨v, .of_trimSpace trimmed decimal fits, same⟩
  · rintro ⟨v, number, same⟩
    obtain ⟨digits, trimmed, decimal, fits⟩ := number.trimSpace_eq
    exact ⟨digits, v, trimmed, decimal, fits, same⟩

theorem Number.notMem {s : GoString} {n : Nat} (number : Number s n) {b : UInt8}
    (visible : Visible b) (other : ¬ Strconv.IsDigit b) (unsigned : b ≠ Strconv.plus) :
    b ∉ s := by
  obtain ⟨before, sign, digits, after, rfl, front, back, signed, decimal, -⟩ := number
  have inSign : b ∉ sign := by rcases signed with rfl | rfl <;> simp [unsigned]
  have inDigits : b ∉ digits := fun mem => other (decimal.digits b mem)
  simp [front.notMem visible, back.notMem visible, inSign, inDigits]

theorem Number.dash_notMem {s : GoString} {n : Nat} (number : Number s n) : dash ∉ s :=
  number.notMem (by decide) (by decide) (by decide)

theorem Number.unique {s : GoString} {m n : Nat} (first : Number s m) (second : Number s n) :
    m = n := by
  have left := (readNumber_eq_ok first.dash_notMem).2 ⟨m, first, rfl⟩
  have right := (readNumber_eq_ok first.dash_notMem).2 ⟨n, second, rfl⟩
  rw [left] at right
  exact Int.ofNat.inj (Except.ok.inj right)

/-! ## Rounds -/

theorem rangeLoop_mono {m n : Nat} (more : m ≤ n) {i max : Int} {numbers : List Int}
    (ends : rangeLoop m i max = some numbers) : rangeLoop n i max = some numbers := by
  induction m generalizing n i numbers with
  | zero => cases ends
  | succ m ih =>
      obtain ⟨n, rfl⟩ := Nat.exists_eq_add_of_le' (Nat.one_le_of_lt more)
      unfold rangeLoop at ends ⊢
      split at ends
      · rename_i below
        obtain ⟨rest, later, rfl⟩ := Option.map_eq_some_iff.1 ends
        rw [if_pos below, ih (by omega) later, Option.map_some]
      · rename_i above
        rw [if_neg above, ends]

/-- Below the largest `int64` the loop is left, with every number in order. -/
theorem rangeLoop_ends {max : Int} (below : max < 2 ^ 63 - 1) (k : Nat) {i : Int}
    (low : -2 ^ 63 ≤ i) (far : i + k = max + 1) :
    rangeLoop (k + 1) i max = some ((List.range k).map fun n : Nat => i + (n : Int)) := by
  induction k generalizing i with
  | zero =>
      rw [rangeLoop, if_neg (by omega)]
      rfl
  | succ k ih =>
      rw [rangeLoop, if_pos (by omega), increment_of_lt low (by omega),
        ih (by omega) (by omega), Option.map_some, List.range_succ_eq_map, List.map_cons,
        List.map_map]
      congr 2
      · omega
      · apply List.map_congr_left
        intro n _
        simp only [Function.comp_apply, Nat.succ_eq_add_one]
        omega

theorem parseItem_mono {m n : Nat} (more : m ≤ n) {item : GoString}
    {result : Except RangeError (List Int)} (ends : parseItem m item = some result) :
    parseItem n item = some result := by
  unfold parseItem at ends ⊢
  split at ends
  · exact ends
  · split at ends
    · exact ends
    · split at ends
      · exact ends
      · split at ends
        · rename_i unordered
          rw [if_pos unordered, ends]
        · rename_i ordered
          obtain ⟨numbers, loop, rfl⟩ := Option.map_eq_some_iff.1 ends
          rw [if_neg ordered, rangeLoop_mono more loop, Option.map_some]
  · exact ends

theorem parseItems_mono {m n : Nat} (more : m ≤ n) {items : List GoString}
    {result : Except RangeError (List Int)} (ends : parseItems m items = some result) :
    parseItems n items = some result := by
  induction items generalizing result with
  | nil => exact ends
  | cons item items ih =>
      unfold parseItems at ends ⊢
      split at ends
      · cases ends
      · rename_i err here
        cases ends
        rw [parseItem_mono more here]
      · rename_i numbers here
        obtain ⟨rest, later, rfl⟩ := Option.map_eq_some_iff.1 ends
        rw [parseItem_mono more here]
        simp only [ih later, Option.map_some]

/-! ## Blanks around the list -/

theorem readNumber_congr {s t : GoString} (alike : trimSpace s = trimSpace t) :
    readNumber s = readNumber t := by
  rw [readNumber, alike, ← readNumber]

theorem parseItem_congr {s t : GoString} (alike : trimSpace s = trimSpace t) (rounds : Nat) :
    parseItem rounds s = parseItem rounds t := by
  have visible : Visible dash := by decide
  have parts := trimmed_split visible alike
  unfold parseItem
  generalize split s dash = first at parts ⊢
  generalize split t dash = second at parts ⊢
  rcases first with _ | ⟨a, _ | ⟨a', _ | ⟨a'', first⟩⟩⟩ <;>
    rcases second with _ | ⟨b, _ | ⟨b', _ | ⟨b'', second⟩⟩⟩ <;>
    simp only [List.map_cons, List.map_nil, List.cons.injEq, reduceCtorEq, and_false,
      and_true] at parts
  · rfl
  · simp only [readNumber_congr parts]
  · simp only [readNumber_congr parts.1, readNumber_congr parts.2]
  · rfl

theorem parseItems_congr {items others : List GoString}
    (alike : items.map trimSpace = others.map trimSpace) (rounds : Nat) :
    parseItems rounds items = parseItems rounds others := by
  induction items generalizing others with
  | nil =>
      rw [List.map_nil, eq_comm, List.map_eq_nil_iff] at alike
      rw [alike]
  | cons item items ih =>
      cases others with
      | nil => cases alike
      | cons other others =>
          obtain ⟨first, rest⟩ := List.cons.inj alike
          rw [parseItems, parseItems, parseItem_congr first, ih rest]

/-- The blanks that are taken from the whole list would be taken from its items. -/
theorem parseRangeNumbers_eq (rounds : Nat) (rangeStr : GoString) :
    parseRangeNumbers rounds rangeStr = parseItems rounds (split rangeStr comma) :=
  parseItems_congr (trimmed_split_trimSpace (by decide) rangeStr) rounds

/-! ## One item -/

theorem split_single {s : GoString} {n : Nat} (number : Number s n) : split s dash = [s] :=
  List.splitOn_eq_singleton number.dash_notMem

theorem split_pair {s t : GoString} {a b : Nat} (first : Number s a) (second : Number t b) :
    split (s ++ dash :: t) dash = [s, t] := by
  unfold split
  rw [List.splitOn_append_cons_self_of_not_mem first.dash_notMem,
    List.splitOn_eq_singleton second.dash_notMem]

/-- An item has one list of numbers. -/
theorem Item.unique {item : GoString} {numbers others : List Int} (one : Item item numbers)
    (other : Item item others) : numbers = others := by
  cases one with
  | single number =>
      cases other with
      | single number' => rw [number.unique number']
      | pair first second ordered => exact absurd (by simp) number.dash_notMem
  | pair first second ordered =>
      generalize whole : _ ++ dash :: _ = item at other
      cases other with
      | single number => exact absurd (by simp [← whole]) number.dash_notMem
      | pair first' second' ordered' =>
          have parts := split_pair first second
          rw [whole, split_pair first' second'] at parts
          cases parts
          rw [first.unique first', second.unique second']

theorem Lists.unique {rangeStr : GoString} {numbers others : List Int}
    (one : Lists rangeStr numbers) (other : Lists rangeStr others) : numbers = others := by
  obtain ⟨lists, forms, rfl⟩ := one
  obtain ⟨lists', forms', rfl⟩ := other
  have unique : Relator.RightUnique Item := fun _ _ _ => Item.unique
  rw [unique.forall₂ forms forms']

theorem parseItem_single {s : GoString} {n : Nat} (number : Number s n) (rounds : Nat) :
    parseItem rounds s = some (.ok [(n : Int)]) := by
  have read := (readNumber_eq_ok number.dash_notMem).2 ⟨n, number, rfl⟩
  simp only [parseItem, split_single number, read]
  rfl

theorem parseItem_pair {s t : GoString} {a b : Nat} (first : Number s a) (second : Number t b)
    (ordered : a ≤ b) (rounds : Nat) :
    parseItem rounds (s ++ dash :: t) = (rangeLoop rounds a b).map .ok := by
  have readFirst := (readNumber_eq_ok first.dash_notMem).2 ⟨a, first, rfl⟩
  have readSecond := (readNumber_eq_ok second.dash_notMem).2 ⟨b, second, rfl⟩
  have notLess : ¬ (b : Int) < a := by omega
  simp only [parseItem, split_pair first second, readFirst, readSecond, if_neg notLess]

theorem Number.lt {s : GoString} {n : Nat} (number : Number s n) : n < 2 ^ 63 := by
  obtain ⟨_, _, _, _, -, -, -, -, -, fits⟩ := number
  exact fits

theorem parseItem_endsAtMax {item : GoString} (top : EndsAtMax item) (rounds : Nat) :
    parseItem rounds item = none := by
  obtain ⟨s, t, a, rfl, first, second⟩ := top
  have small := first.lt
  have last : ((2 ^ 63 - 1 : Nat) : Int) = 2 ^ 63 - 1 := by decide
  rw [parseItem_pair first second (by omega), last, rangeLoop_max rounds a (by omega),
    Option.map_none]

/-- An item is a number, a range that is left, one that is not, or nothing that is read. -/
inductive Kind (item : GoString) : Prop
  | single (n : Nat) (number : Number item n)
  | pair (s t : GoString) (a b : Nat) (whole : item = s ++ dash :: t) (first : Number s a)
      (second : Number t b) (ordered : a ≤ b) (below : b < 2 ^ 63 - 1)
  | endless (top : EndsAtMax item)
  | bad (err : RangeError) (refused : ∀ rounds, parseItem rounds item = some (.error err))

theorem kind (item : GoString) : Kind item := by
  have whole : [dash].intercalate (split item dash) = item := List.intercalate_splitOn dash
  have absent : ∀ part ∈ split item dash, dash ∉ part := fun _ => notMem_of_mem_split
  rcases parts : split item dash with _ | ⟨s, _ | ⟨t, _ | ⟨u, more⟩⟩⟩
  · exact .bad ⟨none⟩ fun rounds => by simp only [parseItem, parts]
  · rw [parts, List.intercalate_singleton] at whole
    rw [parts] at absent
    cases read : readNumber s with
    | error err =>
        refine .bad err fun rounds => ?_
        simp only [parseItem, parts, read]
        rfl
    | ok n =>
        obtain ⟨v, number, -⟩ := (readNumber_eq_ok (absent s (by simp))).1 read
        exact .single v (whole ▸ number)
  · have whole' : item = s ++ dash :: t := by rw [← whole, parts]; simp
    rw [parts] at absent
    cases readFirst : readNumber s with
    | error err => exact .bad err fun rounds => by simp only [parseItem, parts, readFirst]
    | ok min =>
        cases readSecond : readNumber t with
        | error err =>
            exact .bad err fun rounds => by simp only [parseItem, parts, readFirst, readSecond]
        | ok max =>
            obtain ⟨a, first, rfl⟩ := (readNumber_eq_ok (absent s (by simp))).1 readFirst
            obtain ⟨b, second, rfl⟩ := (readNumber_eq_ok (absent t (by simp))).1 readSecond
            have small := second.lt
            by_cases less : b < a
            · refine .bad ⟨none⟩ fun rounds => ?_
              simp only [parseItem, parts, readFirst, readSecond, Int.ofNat_lt, if_pos less]
            · by_cases top : b = 2 ^ 63 - 1
              · exact .endless ⟨s, t, a, whole', first, top ▸ second⟩
              · exact .pair s t a b whole' first second (by omega) (by omega)
  · exact .bad ⟨none⟩ fun rounds => by simp only [parseItem, parts]

theorem parseItem_unique {m n : Nat} {item : GoString}
    {result other : Except RangeError (List Int)} (one : parseItem m item = some result)
    (two : parseItem n item = some other) : result = other := by
  have left := parseItem_mono (Nat.le_max_left m n) one
  have right := parseItem_mono (Nat.le_max_right m n) two
  rw [left] at right
  exact Option.some.inj right

theorem parseItem_pair_ends {s t : GoString} {a b : Nat} (first : Number s a)
    (second : Number t b) (ordered : a ≤ b) (below : b < 2 ^ 63 - 1) :
    parseItem (b + 1 - a + 1) (s ++ dash :: t) = some (.ok (ascending a b)) := by
  have span : ((b : Int) + 1 - a).toNat = b + 1 - a := by omega
  rw [parseItem_pair first second ordered,
    rangeLoop_ends (by omega) (b + 1 - a) (by omega) (by omega), Option.map_some, ascending, span]

/-- Unless it is a range up to the largest `int64`, an item is read in some rounds. -/
theorem parseItem_ends {item : GoString} (low : ¬ EndsAtMax item) :
    ∃ rounds result, parseItem rounds item = some result := by
  cases kind item with
  | single n number => exact ⟨0, _, parseItem_single number 0⟩
  | pair s t a b whole first second ordered below =>
      rw [whole]
      exact ⟨_, _, parseItem_pair_ends first second ordered below⟩
  | endless top => exact absurd top low
  | bad err refused => exact ⟨0, _, refused 0⟩

/-- An item of the grammar is read as its numbers. -/
theorem parseItem_of_item {item : GoString} {numbers : List Int} (form : Item item numbers)
    {rounds : Nat} {result : Except RangeError (List Int)}
    (ends : parseItem rounds item = some result) : result = .ok numbers := by
  cases form with
  | single number =>
      rw [parseItem_single number] at ends
      exact (Option.some.inj ends).symm
  | pair first second ordered =>
      rename_i s t a b
      by_cases top : b = 2 ^ 63 - 1
      · rw [parseItem_endsAtMax ⟨s, t, a, rfl, first, top ▸ second⟩] at ends
        cases ends
      · have small := second.lt
        exact parseItem_unique ends (parseItem_pair_ends first second ordered (by omega))

/-- Only an item of the grammar is read as numbers. -/
theorem item_of_parseItem {rounds : Nat} {item : GoString} {numbers : List Int}
    (read : parseItem rounds item = some (.ok numbers)) : Item item numbers := by
  cases kind item with
  | single n number =>
      have same := parseItem_of_item (.single number) read
      rw [Except.ok.inj same]
      exact .single number
  | pair s t a b whole first second ordered below =>
      subst whole
      have same := parseItem_of_item (.pair first second ordered) read
      rw [Except.ok.inj same]
      exact .pair first second ordered
  | endless top =>
      rw [parseItem_endsAtMax top] at read
      cases read
  | bad err refused =>
      rw [refused rounds] at read
      cases read

/-! ## The whole list -/

theorem parseItems_of_items {items : List GoString} {lists : List (List Int)}
    (forms : List.Forall₂ Item items lists) {rounds : Nat}
    {result : Except RangeError (List Int)} (ends : parseItems rounds items = some result) :
    result = .ok lists.flatten := by
  induction forms generalizing result with
  | nil => exact (Option.some.inj ends).symm
  | cons form forms ih =>
      unfold parseItems at ends
      split at ends
      · cases ends
      · rename_i err here
        cases parseItem_of_item form here
      · rename_i numbers here
        obtain ⟨rest, later, rfl⟩ := Option.map_eq_some_iff.1 ends
        rw [ih later, Except.ok.inj (parseItem_of_item form here)]
        rfl

theorem items_of_parseItems {rounds : Nat} {items : List GoString} {numbers : List Int}
    (read : parseItems rounds items = some (.ok numbers)) :
    ∃ lists, List.Forall₂ Item items lists ∧ numbers = lists.flatten := by
  induction items generalizing numbers with
  | nil =>
      cases read
      exact ⟨[], .nil, rfl⟩
  | cons item items ih =>
      unfold parseItems at read
      split at read
      · cases read
      · cases read
      · rename_i first here
        obtain ⟨rest, later, same⟩ := Option.map_eq_some_iff.1 read
        cases rest with
        | error err => cases same
        | ok rest =>
            cases same
            obtain ⟨lists, forms, rfl⟩ := ih later
            exact ⟨first :: lists, .cons (item_of_parseItem here) forms, rfl⟩

theorem lists_of_parseRangeNumbers {rounds : Nat} {rangeStr : GoString} {numbers : List Int}
    (read : parseRangeNumbers rounds rangeStr = some (.ok numbers)) : Lists rangeStr numbers := by
  rw [parseRangeNumbers_eq] at read
  exact items_of_parseItems read

theorem parseItems_reaches {items : List GoString} (reaches : Reaches items) (rounds : Nat) :
    parseItems rounds items = none := by
  obtain ⟨before, item, after, rfl, forms, top⟩ := reaches
  induction before with
  | nil =>
      rw [List.nil_append, parseItems, parseItem_endsAtMax top]
  | cons other before ih =>
      have later := ih fun o mem => forms o (List.mem_cons_of_mem other mem)
      obtain ⟨numbers, form⟩ := forms other List.mem_cons_self
      rw [List.cons_append, parseItems]
      cases here : parseItem rounds other with
      | none => rfl
      | some result =>
          rw [parseItem_of_item form here, later]
          rfl

/-- Where no range up to the largest `int64` comes up, some rounds suffice. -/
theorem parseItems_ends {items : List GoString} (low : ¬ Reaches items) :
    ∃ rounds result, parseItems rounds items = some result := by
  induction items with
  | nil => exact ⟨0, _, rfl⟩
  | cons item items ih =>
      have here : ¬ EndsAtMax item := fun top => low ⟨[], item, items, rfl, by simp, top⟩
      obtain ⟨m, result, read⟩ := parseItem_ends here
      cases result with
      | error err => exact ⟨m, .error err, by rw [parseItems, read]⟩
      | ok numbers =>
          have rest : ¬ Reaches items := by
            rintro ⟨before, other, after, rfl, forms, top⟩
            refine low ⟨item :: before, other, after, rfl, ?_, top⟩
            exact List.forall_mem_cons.2 ⟨⟨numbers, item_of_parseItem read⟩, forms⟩
          obtain ⟨n, last, later⟩ := ih rest
          refine ⟨max m n, last.map (numbers ++ ·), ?_⟩
          rw [parseItems, parseItem_mono (Nat.le_max_left m n) read]
          simp only [parseItems_mono (Nat.le_max_right m n) later, Option.map_some]

theorem Meets.low {rangeStr : GoString} (meets : Meets rangeStr) :
    ¬ Reaches (split rangeStr comma) := by
  intro reaches
  obtain ⟨rounds, ends⟩ := meets.ends
  rw [parseRangeNumbers_eq, parseItems_reaches reaches] at ends
  exact ends rfl

theorem meets_of_low {rangeStr : GoString} (low : ¬ Reaches (split rangeStr comma)) :
    Meets rangeStr where
  ends := by
    obtain ⟨rounds, result, read⟩ := parseItems_ends low
    refine ⟨rounds, ?_⟩
    rw [parseRangeNumbers_eq, read]
    simp
  denotes := by
    intro rounds result read numbers
    constructor
    · rintro rfl
      exact lists_of_parseRangeNumbers read
    · rintro ⟨lists, forms, rfl⟩
      rw [parseRangeNumbers_eq] at read
      exact parseItems_of_items forms read

/-- **It ends, and denotes the grammar, iff no range up to the largest `int64` comes up
after items that are well formed.** -/
theorem parseRangeNumbers_meets_iff (rangeStr : GoString) :
    Meets rangeStr ↔ ¬ Reaches (split rangeStr comma) :=
  ⟨Meets.low, meets_of_low⟩

/-- The loop over this range is never left. -/
theorem range_to_max_never_ends : ¬ Meets (lit "6000,1-9223372036854775807") := by
  intro meets
  have plain : ∀ (digits : GoString) (n : Nat), Strconv.Decimal digits n → n < 2 ^ 63 →
      Number digits n := fun digits n decimal fits =>
    ⟨[], [], digits, [], by simp, ⟨[], by simp, rfl⟩, ⟨[], by simp, rfl⟩, .inl rfl, decimal, fits⟩
  have six : Number (lit "6000") 6000 :=
    plain _ _ ⟨by decide, by decide +kernel, by decide +kernel⟩ (by decide)
  have one : Number (lit "1") 1 :=
    plain _ _ ⟨by decide, by decide +kernel, by decide +kernel⟩ (by decide)
  have top : Number (lit "9223372036854775807") (2 ^ 63 - 1) :=
    plain _ _ ⟨by decide, by decide +kernel, by decide +kernel⟩ (by decide)
  apply meets.low
  refine ⟨[lit "6000"], lit "1-9223372036854775807", [], by decide +kernel, ?_,
    lit "1", lit "9223372036854775807", 1, by decide +kernel, one, top⟩
  intro other mem
  rw [List.mem_singleton] at mem
  exact ⟨_, mem ▸ Item.single six⟩

end ChmlFrp.Util
