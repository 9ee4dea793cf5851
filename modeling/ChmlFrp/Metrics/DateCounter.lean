/-
# ChmlFrp.Metrics.DateCounter — the counts of the last days

`pkg/util/metric/date_counter.go`.  A counter keeps one amount for each of the last
`reserveDays` days.  Every call first moves the amounts by the days since the call before
it, and takes for their number the hours from midnight to midnight, divided by 24 and cut
off.  A day of 23 hours counts for no day at all.

A midnight is what `time.Date` returns for a day, which is 23:00 of the day before where
the clocks go forward at midnight.

* `last_days_exact_iff`: the answers are those of a ledger by days, whatever was recorded,
  iff that number is right from every call to the next; and then they are as long as the
  amounts fit into an `int64`.
* `short_day_merges`: the amount of a short day stands under the day after it.
* `snapshot_faithful_iff`: a snapshot answers as the original would iff both stamps move the
  newest amount alike.
-/
import ChmlFrp.Lib.Transition
import ChmlFrp.Lib.Window
import Mathlib.Algebra.BigOperators.Group.List.Basic
import Mathlib.Algebra.Order.Ring.Int
import Mathlib.Algebra.Ring.Int.Defs
import Mathlib.Data.List.Chain
import Mathlib.Data.List.OfFn
import Mathlib.Tactic.SplitIfs

namespace ChmlFrp.Metrics

set_option autoImplicit false

open ChmlFrp.Lib
open ChmlFrp.Lib.Transition

/-! ## Time -/

/-- `time.Second`; times are in nanoseconds. -/
def second : Int := 1000000000

/-- `time.Hour` -/
def hour : Int := 3600 * second

/-- A time zone.  Its days may be of any length. -/
structure Zone where
  /-- The calendar day at an instant. -/
  day : Int → Int
  /-- What `time.Date` returns for a day. -/
  date : Int → Int
  /-- It is off by less than a day. -/
  date_strictMono : ∀ d d', d < d' → date d < date d'
  /-- So `Hours() / 24` is off by too little to matter when it is cut off. -/
  wholeSeconds : ∀ d, second ∣ date d

/-- `t.Sub(u)`, which stays within the range of a duration. -/
def sub (t u : Int) : Int := max (-2 ^ 63) (min (2 ^ 63 - 1) (t - u))

/-- The whole periods of 24 hours between two instants. -/
def periods (t u : Int) : Nat := ((sub u t).tdiv (24 * hour)).toNat

namespace Zone

variable (z : Zone)

/-- `time.Date` of the day of an instant. -/
def midnight (t : Int) : Int := z.date (z.day t)

/-- From the midnight before one time to the midnight before another. -/
def elapsed (t u : Int) : Int := sub (z.midnight u) (z.midnight t)

theorem date_mono {d d' : Int} (days : d ≤ d') : z.date d ≤ z.date d' := by
  rcases Int.lt_or_eq_of_le days with earlier | rfl
  · exact Int.le_of_lt (z.date_strictMono d d' earlier)
  · exact Int.le_refl _

theorem date_lt_iff {d d' : Int} : z.date d < z.date d' ↔ d < d' := by
  constructor
  · intro earlier
    by_contra later
    have back := z.date_mono (Int.not_lt.1 later)
    omega
  · exact z.date_strictMono d d'

theorem elapsed_nonneg {t u : Int} (days : z.day t ≤ z.day u) : 0 ≤ z.elapsed t u := by
  have later : z.midnight t ≤ z.midnight u := z.date_mono days
  unfold elapsed sub
  omega

theorem elapsed_nonpos {t u : Int} (days : z.day u ≤ z.day t) : z.elapsed t u ≤ 0 := by
  have earlier : z.midnight u ≤ z.midnight t := z.date_mono days
  unfold elapsed sub
  omega

/-- The days follow one another without a break, each 23 to 25 hours long, and `time.Date`
returns the first instant of a day or one at most an hour from it. -/
structure Regular (first : Int → Int) : Prop where
  within : ∀ t, first (z.day t) ≤ t ∧ t < first (z.day t + 1)
  lasts : ∀ d, 23 * hour ≤ first (d + 1) - first d ∧ first (d + 1) - first d ≤ 25 * hour
  date : ∀ d, first d - hour ≤ z.date d ∧ z.date d ≤ first d + hour

end Zone

/-! ## The counter -/

structure StandardDateCounter (reserveDays : Nat) where
  counts : Fin reserveDays → Int64
  lastUpdateDate : Int

/-- At least one day. -/
def reserve (reserveDays : Int) : Nat := if reserveDays ≤ 0 then 1 else reserveDays.toNat

instance (reserveDays : Int) : NeZero (reserve reserveDays) where
  out := by
    unfold reserve
    split <;> omega

def newStandardDateCounter (z : Zone) (reserveDays : Nat) (now : Int) :
    StandardDateCounter reserveDays :=
  ⟨fun _ => 0, z.midnight now⟩

def newDateCounter (z : Zone) (reserveDays : Int) (now : Int) :
    StandardDateCounter (reserve reserveDays) :=
  newStandardDateCounter z (reserve reserveDays) now

inductive Op where
  | todayCount
  | getLastDaysCount (lastdays : Int)
  | inc (count : Int64)
  | dec (count : Int64)
  deriving DecidableEq

inductive Answer where
  | nothing
  | count (n : Int64)
  | counts (l : List Int64)
  deriving DecidableEq

namespace StandardDateCounter

variable {n : Nat}

def rotate (z : Zone) (c : StandardDateCounter n) (now : Int) : StandardDateCounter n :=
  let today := z.midnight now
  let days := (sub today c.lastUpdateDate).tdiv (24 * hour)
  { counts :=
      if days ≤ 0 then c.counts
      else if (n : Int) ≤ days then fun _ => 0
      else slide days.toNat c.counts
    lastUpdateDate := today }

def setToday [NeZero n] (c : StandardDateCounter n) (count : Int64) : StandardDateCounter n :=
  { c with counts := Function.update c.counts 0 count }

/-- A call at the time `now`; `none` is the panic of `make` for a negative length. -/
def call [NeZero n] (z : Zone) (c : StandardDateCounter n) (now : Int) :
    Op → Option (Answer × StandardDateCounter n)
  | .todayCount =>
      let c := c.rotate z now
      some (.count (c.counts 0), c)
  | .getLastDaysCount lastdays =>
      let lastdays := if lastdays > n then (n : Int) else lastdays
      if lastdays < 0 then none
      else
        let c := c.rotate z now
        some (.counts ((List.ofFn c.counts).take lastdays.toNat), c)
  | .inc count =>
      let c := c.rotate z now
      some (.nothing, c.setToday (c.counts 0 + count))
  | .dec count =>
      let c := c.rotate z now
      some (.nothing, c.setToday (c.counts 0 - count))

def snapshot (z : Zone) (c : StandardDateCounter n) (now : Int) : StandardDateCounter n :=
  { newStandardDateCounter z n now with counts := c.counts }

/-- The three branches of `rotate` are one move. -/
theorem rotate_eq (z : Zone) (c : StandardDateCounter n) (now : Int) :
    c.rotate z now =
      ⟨slide (periods c.lastUpdateDate (z.midnight now)) c.counts,
        z.midnight now⟩ := by
  unfold rotate periods
  dsimp only
  generalize (sub (z.midnight now) c.lastUpdateDate).tdiv (24 * hour) = days
  congr 1
  by_cases none_ : days ≤ 0
  · rw [if_pos none_, Int.toNat_of_nonpos none_, slide_zero]
  · rw [if_neg none_]
    by_cases all : (n : Int) ≤ days
    · rw [if_pos all, slide_of_le c.counts (by omega)]
    · rw [if_neg all]

theorem call_getLastDaysCount [NeZero n] (z : Zone) (c : StandardDateCounter n)
    (now lastdays : Int) :
    c.call z now (.getLastDaysCount lastdays) =
      if lastdays < 0 then none
      else
        some (.counts ((List.ofFn (c.rotate z now).counts).take (min lastdays.toNat n)),
          c.rotate z now) := by
  unfold call
  dsimp only
  by_cases more : lastdays > n
  · rw [if_pos more, if_neg (by omega), if_neg (by omega), Nat.min_eq_right (by omega)]
    rfl
  · rw [if_neg more, Nat.min_eq_left (by omega)]

end StandardDateCounter

/-! ## A ledger by days -/

/-- The amounts that were recorded, each with its day. -/
abbrev Ledger := List (Int × Int)

/-- The net amount of a day. -/
def Ledger.net (ledger : Ledger) (day : Int) : Int :=
  ((ledger.filter fun e => e.1 = day).map Prod.snd).sum

namespace Ledger

theorem net_concat (ledger : Ledger) (day day' amount : Int) :
    net (ledger ++ [(day', amount)]) day =
      net ledger day + if day' = day then amount else 0 := by
  unfold net
  rw [List.filter_append, List.map_append, List.sum_append]
  by_cases here : day' = day <;> simp [here]

theorem net_of_lt {ledger : Ledger} {day day' : Int} (until_ : ∀ e ∈ ledger, e.1 ≤ day)
    (later : day < day') : net ledger day' = 0 := by
  unfold net
  rw [List.filter_eq_nil_iff.2]
  · rfl
  · intro e member
    have := until_ e member
    simp only [decide_eq_true_eq]
    omega

end Ledger

/-- A counter with the time of the last call and what was recorded. -/
structure Run (n : Nat) where
  counter : StandardDateCounter n
  called : Option Int
  ledger : Ledger

def start (z : Zone) (reserveDays : Int) (created : Int) : Run (reserve reserveDays) :=
  ⟨newDateCounter z reserveDays created, none, []⟩

/-- What an operation records. -/
def Op.amount : Op → Option Int
  | .todayCount | .getLastDaysCount _ => none
  | .inc count => some count.toInt
  | .dec count => some (-count.toInt)

def step {n : Nat} [NeZero n] (z : Zone) (s : Run n) (l : Int × Op) : Option (Run n) :=
  (s.counter.call z l.1 l.2).map fun r =>
    ⟨r.2, some l.1, s.ledger ++ (l.2.amount.map fun amount => (z.day l.1, amount)).toList⟩

/-- The amounts of the last days by the ledger, the day of the call first. -/
def expected (z : Zone) (n : Nat) (ledger : Ledger) (now lastdays : Int) : List Int :=
  (List.range (min lastdays.toNat n)).map fun (i : Nat) => ledger.net (z.day now - i)

/-- `GetLastDaysCount` answers by the ledger. -/
def Exact {n : Nat} [NeZero n] (z : Zone) (s : Run n) (l : Int × Op) : Prop :=
  ∀ lastdays answer c, l.2 = .getLastDaysCount lastdays →
    s.counter.call z l.1 l.2 = some (answer, c) →
    ∃ counts, answer = .counts counts ∧
      counts.map Int64.toInt = expected z n s.ledger l.1 lastdays

/-- The amounts that `GetLastDaysCount` is asked for fit. -/
def InRange {n : Nat} (z : Zone) (s : Run n) (l : Int × Op) : Prop :=
  ∀ lastdays, l.2 = .getLastDaysCount lastdays → 0 ≤ lastdays →
    ∀ amount ∈ expected z n s.ledger l.1 lastdays, -2 ^ 63 ≤ amount ∧ amount < 2 ^ 63

/-- The calendar does not go back, and the hours between the midnights make the number of days
in between, or both are more than the counter keeps. -/
def SameDays (z : Zone) (n : Nat) (t u : Int) : Prop :=
  let days := z.day u - z.day t
  0 ≤ days ∧
    (days * (24 * hour) ≤ z.elapsed t u ∧ z.elapsed t u < (days + 1) * (24 * hour) ∨
      (n : Int) ≤ days ∧ n * (24 * hour) ≤ z.elapsed t u)

instance (z : Zone) (n : Nat) (t u : Int) : Decidable (SameDays z n t u) :=
  inferInstanceAs (Decidable (_ ∧ (_ ∧ _ ∨ _ ∧ _)))

section Exact

variable {n : Nat} {z : Zone} {s : Run n} {t u : Int}

/-- What the counter holds, by the ledger. -/
structure Holds (z : Zone) (c : StandardDateCounter n) (ledger : Ledger) (t : Int) : Prop where
  lastUpdateDate : c.lastUpdateDate = z.midnight t
  until_ : ∀ e ∈ ledger, e.1 ≤ z.day t
  counts : ∀ i : Fin n, c.counts i = Int64.ofInt (ledger.net (z.day t - i.val))

/-- Nothing was recorded, or the counter holds the ledger at the last call. -/
def Inv (z : Zone) (s : Run n) : Prop :=
  match s.called with
  | none => s.ledger = [] ∧ s.counter.counts = fun _ => 0
  | some t => Holds z s.counter s.ledger t

/-- The days that `rotate` counts. -/
def Zone.counted (z : Zone) (t u : Int) : Int := (z.elapsed t u).tdiv (24 * hour)

theorem SameDays.day_le (same : SameDays z n t u) : z.day t ≤ z.day u := by
  have := same.1
  omega

theorem sameDays_iff (days : z.day t ≤ z.day u) :
    SameDays z n t u ↔ z.counted t u = z.day u - z.day t ∨
      (n : Int) ≤ z.day u - z.day t ∧ (n : Int) ≤ z.counted t u := by
  have positive : (0 : Int) < 24 * hour := by decide
  have forward : 0 ≤ z.day u - z.day t := by omega
  unfold SameDays Zone.counted
  dsimp only
  rw [and_iff_right forward, Int.tdiv_eq_ediv_of_nonneg (z.elapsed_nonneg days),
    Int.ediv_eq_iff_of_pos positive, Int.le_ediv_iff_mul_le positive, Int.add_mul, Int.one_mul]

theorem Zone.counted_nonneg (z : Zone) (days : z.day t ≤ z.day u) : 0 ≤ z.counted t u :=
  Int.tdiv_nonneg (z.elapsed_nonneg days) (by decide)

/-- A calendar that goes back moves nothing. -/
theorem Zone.counted_toNat_of_le (z : Zone) (days : z.day u ≤ z.day t) :
    (z.counted t u).toNat = 0 := by
  have back := Int.tdiv_nonneg (Int.neg_nonneg_of_nonpos (z.elapsed_nonpos days))
    (show 0 ≤ 24 * hour by decide)
  rw [Int.neg_tdiv] at back
  unfold Zone.counted
  omega

/-- The counts move by the number of days. -/
theorem SameDays.slide_eq (same : SameDays z n t u) (w : Fin n → Int64) :
    slide (z.counted t u).toNat w = slide (z.day u - z.day t).toNat w := by
  rcases (sameDays_iff same.day_le).1 same with equal | ⟨long, long'⟩
  · rw [equal]
  · rw [slide_of_le w (by omega), slide_of_le w (by omega)]

/-- The counts of a ledger, moved to a later day. -/
theorem Holds.slide {c : StandardDateCounter n} {ledger : Ledger} (holds : Holds z c ledger t)
    (days : z.day t ≤ z.day u) (i : Fin n) :
    Lib.slide (z.day u - z.day t).toNat c.counts i =
      Int64.ofInt (ledger.net (z.day u - i.val)) := by
  by_cases old : (z.day u - z.day t).toNat ≤ i.val
  · have back : i.val =
        (⟨i.val - (z.day u - z.day t).toNat, by omega⟩ : Fin n).val +
          (z.day u - z.day t).toNat := by
      show i.val = i.val - (z.day u - z.day t).toNat + (z.day u - z.day t).toNat
      omega
    rw [slide_of_eq c.counts back, holds.counts]
    congr 2
    show z.day t - ((i.val - (z.day u - z.day t).toNat : Nat) : Int) = _
    omega
  · rw [slide_of_lt c.counts (by omega), Ledger.net_of_lt holds.until_ (by omega)]
    rfl

theorem Holds.rotate {c : StandardDateCounter n} {ledger : Ledger}
    (holds : Holds z c ledger t) (same : SameDays z n t u) :
    Holds z (c.rotate z u) ledger u := by
  rw [StandardDateCounter.rotate_eq, holds.lastUpdateDate]
  refine ⟨rfl, ?_, ?_⟩
  · intro e member
    exact Int.le_trans (holds.until_ e member) same.day_le
  · intro i
    show Lib.slide (z.counted t u).toNat c.counts i = _
    rw [same.slide_eq]
    exact holds.slide same.day_le i

/-- The first call after an empty history. -/
theorem holds_of_empty (z : Zone) {c : StandardDateCounter n} (zero : c.counts = fun _ => 0)
    (u : Int) :
    Holds z (c.rotate z u) [] u := by
  rw [StandardDateCounter.rotate_eq, zero, slide_const_zero]
  refine ⟨rfl, ?_, ?_⟩
  · intro e member
    cases member
  · intro i
    rfl

/-- Whatever happened before, the counts follow the ledger once they are moved. -/
def Follows (z : Zone) (s : Run n) (u : Int) : Prop :=
  ∀ t, s.called = some t → SameDays z n t u

theorem Inv.rotate (inv : Inv z s) (follows : Follows z s u) :
    Holds z (s.counter.rotate z u) s.ledger u := by
  unfold Inv at inv
  cases called : s.called with
  | none =>
      rw [called] at inv
      obtain ⟨empty, zero⟩ := inv
      rw [empty]
      exact holds_of_empty z zero u
  | some t =>
      rw [called] at inv
      exact Holds.rotate inv (follows t called)

variable [NeZero n]

/-- An amount is added to the first count. -/
theorem Holds.setToday {c : StandardDateCounter n} {ledger : Ledger} (holds : Holds z c ledger u)
    {count : Int64} {amount : Int} (adds : count = c.counts 0 + Int64.ofInt amount) :
    Holds z (c.setToday count) (ledger ++ [(z.day u, amount)]) u := by
  refine ⟨holds.lastUpdateDate, ?_, ?_⟩
  · intro e member
    rcases List.mem_append.1 member with old | new
    · exact holds.until_ e old
    · rw [List.mem_singleton.1 new]
  · intro i
    show Function.update c.counts 0 count i = _
    rw [Ledger.net_concat]
    by_cases today : i = 0
    · rw [today, Function.update_self, adds, holds.counts, ← Int64.ofInt_add, Fin.val_zero]
      simp
    · have positive : i.val ≠ 0 := fun zero => today (Fin.ext zero)
      rw [Function.update_of_ne today, holds.counts, if_neg (by omega), Int.add_zero]

/-- One call of a counter that follows. -/
theorem Inv.step {op : Op} {s' : Run n} (inv : Inv z s) (follows : Follows z s u)
    (next : step z s (u, op) = some s') : Inv z s' := by
  have holds := inv.rotate follows
  obtain ⟨r, calls, rfl⟩ := Option.map_eq_some_iff.1 next
  show Holds z r.2 (s.ledger ++ (op.amount.map fun amount => (z.day u, amount)).toList) u
  cases op with
  | todayCount =>
      cases calls
      simpa [Op.amount] using holds
  | getLastDaysCount lastdays =>
      rw [StandardDateCounter.call_getLastDaysCount] at calls
      split at calls
      · cases calls
      · cases calls
        simpa [Op.amount] using holds
  | inc count =>
      cases calls
      exact holds.setToday (by rw [Int64.ofInt_toInt])
  | dec count =>
      cases calls
      exact holds.setToday (by rw [Int64.ofInt_neg, Int64.ofInt_toInt, Int64.sub_eq_add_neg])

omit [NeZero n] in
/-- The answer of a counter that holds the ledger. -/
theorem Holds.counts_eq {c : StandardDateCounter n} {ledger : Ledger} (holds : Holds z c ledger u)
    (lastdays : Int) :
    (List.ofFn c.counts).take (min lastdays.toNat n) =
      (expected z n ledger u lastdays).map Int64.ofInt := by
  unfold expected
  apply List.ext_getElem
  · simp
  · intro i within within'
    rw [List.getElem_take, List.getElem_ofFn, List.getElem_map, List.getElem_map,
      List.getElem_range, holds.counts]

/-- A sum modulo `2 ^ 64` is the sum iff it fits. -/
theorem toInt_ofInt_eq_iff (amount : Int) :
    (Int64.ofInt amount).toInt = amount ↔ -2 ^ 63 ≤ amount ∧ amount < 2 ^ 63 := by
  constructor
  · intro same
    rw [← same]
    exact ⟨Int64.le_toInt _, Int64.toInt_lt _⟩
  · rintro ⟨low, high⟩
    exact Int64.toInt_ofInt_of_le low high

theorem map_toInt_ofInt_eq_iff (amounts : List Int) :
    (amounts.map Int64.ofInt).map Int64.toInt = amounts ↔
      ∀ amount ∈ amounts, -2 ^ 63 ≤ amount ∧ amount < 2 ^ 63 := by
  calc (amounts.map Int64.ofInt).map Int64.toInt = amounts
      ↔ amounts.map (Int64.toInt ∘ Int64.ofInt) = amounts.map id := by
        rw [List.map_map, List.map_id]
    _ ↔ ∀ amount ∈ amounts, -2 ^ 63 ≤ amount ∧ amount < 2 ^ 63 := by
        simp only [List.map_inj_left, Function.comp_apply, id, toInt_ofInt_eq_iff]

/-- A counter that follows the ledger answers by it iff the amounts fit. -/
theorem Inv.exact_iff {op : Op} (inv : Inv z s) (follows : Follows z s u) :
    Exact z s (u, op) ↔ InRange z s (u, op) := by
  have holds := inv.rotate follows
  constructor
  · rintro exact_ lastdays (rfl : op = _) nonneg
    obtain ⟨counts, same, by_⟩ := exact_ lastdays _ _ rfl (by
      rw [StandardDateCounter.call_getLastDaysCount, if_neg (by omega)])
    cases same
    rw [holds.counts_eq] at by_
    exact (map_toInt_ofInt_eq_iff _).1 by_
  · rintro fits lastdays answer c (rfl : op = _) calls
    rw [StandardDateCounter.call_getLastDaysCount] at calls
    split at calls
    · cases calls
    · rename_i nonneg
      cases calls
      refine ⟨_, rfl, ?_⟩
      rw [holds.counts_eq]
      exact (map_toInt_ofInt_eq_iff _).2 (fits lastdays rfl (by omega))

/-! ### What a wrong number of days does -/

/-- Nothing was recorded. -/
def Empty (s : Run n) : Prop := s.ledger = [] ∧ s.counter.counts = fun _ => 0

/-- One is recorded on a day. -/
theorem net_one (day day' : Int) : Ledger.net [(day, 1)] day' = if day = day' then 1 else 0 := by
  unfold Ledger.net
  by_cases same : day = day' <;> simp [same]

omit [NeZero n] in
/-- An amount recorded once is never too large. -/
theorem inRange_one {called : StandardDateCounter n} {at_ : Option Int} {op : Op} :
    InRange z ⟨called, at_, [(z.day t, 1)]⟩ (u, op) := by
  intro lastdays _ _ amount member
  obtain ⟨i, -, rfl⟩ := List.mem_map.1 member
  dsimp only
  rw [net_one]
  split <;> decide

/-- The state after one is recorded in a counter that is empty. -/
theorem step_inc_one (empty : Empty s) :
    step z s (t, .inc 1) = some ⟨⟨Function.update (fun _ => 0) 0 1, z.midnight t⟩, some t,
      [(z.day t, 1)]⟩ := by
  have moved : s.counter.rotate z t = ⟨fun _ => 0, z.midnight t⟩ := by
    rw [StandardDateCounter.rotate_eq, empty.2, slide_const_zero]
  unfold step StandardDateCounter.call
  simp only [moved, empty.1]
  rfl

/-- One is recorded in a counter that is empty, and asked for at the next call. -/
theorem sameDays_of_exact (empty : Empty s)
    (exact_ : ∀ s', step z s (t, .inc 1) = some s' → Exact z s' (u, .getLastDaysCount n)) :
    SameDays z n t u := by
  let w : Fin n → Int64 := Function.update (fun _ => 0) 0 1
  obtain ⟨counts, answer, by_⟩ := exact_ _ (step_inc_one empty) n _ _ rfl (by
    rw [StandardDateCounter.call_getLastDaysCount, if_neg (by omega)])
  rw [StandardDateCounter.rotate_eq, Int.toNat_natCast, Nat.min_self,
    List.take_of_length_le (by rw [List.length_ofFn])] at answer
  cases answer
  -- What the counter shows for each day is what was recorded on it.
  have shown (i : Fin n) : (slide (z.counted t u).toNat w i).toInt =
      Ledger.net [(z.day t, 1)] (z.day u - i.val) := by
    have entry := congrArg (fun l : List Int => l[i.val]?) by_
    simp only [expected, List.getElem?_map, List.getElem?_ofFn, i.isLt, dif_pos,
      Option.map_some] at entry
    simpa [Zone.counted, Zone.elapsed, periods] using entry
  have one : w 0 = 1 := Function.update_self 0 1 _
  have newest : Newest w 0 := by
    refine ⟨?_, fun i negative => absurd negative (Nat.not_lt_zero _)⟩
    rw [one]
    decide
  by_cases days : z.day t ≤ z.day u
  · have counted := z.counted_nonneg days
    have clean := holds_of_empty z empty.2 t
    have holds : Holds z ⟨w, z.midnight t⟩ [(z.day t, 1)] t := by
      rw [StandardDateCounter.rotate_eq, empty.2, slide_const_zero] at clean
      exact clean.setToday rfl
    have same : slide (z.counted t u).toNat w = slide (z.day u - z.day t).toNat w := by
      funext i
      rw [holds.slide days i, ← shown i, Int64.ofInt_toInt]
    rw [sameDays_iff days]
    rcases (slide_eq_slide_iff newest).1 same with equal | ⟨out, out'⟩
    · left
      omega
    · right
      simp only [Fin.val_zero, Nat.zero_add] at out out'
      omega
  · have kept := shown 0
    rw [z.counted_toNat_of_le (by omega), slide_zero, Fin.val_zero, net_one,
      if_neg (by simp only [Nat.cast_zero]; omega)] at kept
    rw [one] at kept
    exact absurd kept (by decide)

/-! ## Runs -/

/-- The calls of a run, none of them misled by the midnights of it and of the one before. -/
theorem exact_iff_of_chain (inv : Inv z s) {times : List Int} {ops : List Op}
    (first : ∀ u ∈ times.head?, Follows z s u) (same : times.IsChain (SameDays z n)) :
    Along (step z) (fun s l _ => Exact z s l) s (times.zip ops) ↔
      Along (step z) (fun s l _ => InRange z s l) s (times.zip ops) := by
  induction times generalizing s ops with
  | nil => exact Iff.rfl
  | cons u rest ih =>
      cases ops with
      | nil => exact Iff.rfl
      | cons op ops =>
          have follows := first u rfl
          rw [List.zip_cons_cons]
          refine forall₂_congr fun s' next => and_congr (inv.exact_iff follows) ?_
          refine ih (inv.step follows next) ?_ same.tail
          intro u' head t called
          obtain ⟨r, -, rfl⟩ := Option.map_eq_some_iff.1 next
          cases called
          obtain ⟨rest', rfl⟩ : ∃ rest', rest = u' :: rest' := List.head?_eq_some_iff.1 head
          exact same.rel_head? rfl

/-- Calls that record nothing leave the counter empty. -/
theorem Empty.todayCount (empty : Empty s) (u : Int) :
    ∃ s', step z s (u, .todayCount) = some s' ∧ Empty s' := by
  refine ⟨_, rfl, ?_, ?_⟩
  · show s.ledger ++ [] = []
    rw [empty.1, List.append_nil]
  · show (s.counter.rotate z u).counts = _
    rw [StandardDateCounter.rotate_eq, empty.2, slide_const_zero]

omit [NeZero n] in
/-- `TodayCount` is asked for nothing that could be too large. -/
theorem inRange_todayCount : InRange z s (u, .todayCount) := by
  intro lastdays asks
  cases asks

theorem inRange_of_todayCounts (s : Run n) (times : List Int) :
    Along (step z) (fun s l _ => InRange z s l) s
      (times.zip (times.map fun _ => Op.todayCount)) := by
  induction times generalizing s with
  | nil => trivial
  | cons u rest ih =>
      intro s' _
      exact ⟨inRange_todayCount, ih s'⟩

theorem chain_of_exact (empty : Empty s) {times : List Int}
    (exact_ : ∀ ops : List Op, ops.length = times.length →
      Along (step z) (fun s l _ => InRange z s l) s (times.zip ops) →
      Along (step z) (fun s l _ => Exact z s l) s (times.zip ops)) :
    times.IsChain (SameDays z n) := by
  induction times generalizing s with
  | nil => exact .nil
  | cons t rest ih =>
      obtain ⟨s', next, empty'⟩ := empty.todayCount (z := z) t
      have later : rest.IsChain (SameDays z n) := by
        apply ih empty'
        intro ops length fits
        have along := exact_ (.todayCount :: ops) (by simp [length]) (by
          intro s'' next'
          obtain rfl : s' = s'' := Option.some.inj (next.symm.trans next')
          exact ⟨inRange_todayCount, fits⟩)
        exact (along s' next).2
      cases rest with
      | nil => exact .singleton t
      | cons u rest =>
          refine .cons_cons (sameDays_of_exact empty ?_) later
          intro s' next
          have along := exact_ (.inc 1 :: .getLastDaysCount n :: rest.map fun _ => .todayCount)
            (by simp) (by
              intro s₁ first
              obtain rfl := Option.some.inj ((step_inc_one empty).symm.trans first)
              refine ⟨by rintro _ ⟨⟩, fun s₂ _ => ⟨inRange_one, inRange_of_todayCounts s₂ rest⟩⟩)
          obtain ⟨s'', next'⟩ : ∃ s'', step z s' (u, .getLastDaysCount n) = some s'' := by
            unfold step
            rw [StandardDateCounter.call_getLastDaysCount, if_neg (by omega)]
            exact ⟨_, rfl⟩
          exact ((along s' next).2 s'' next').1

end Exact

/-- **At any times, the answers to calls whose amounts fit are those of the ledger whatever the
calls are iff from each call to the next the hours between the midnights make the number of
days; and then the answers are those of the ledger only if the amounts fit.** -/
theorem last_days_exact_iff (z : Zone) (reserveDays created : Int) (times : List Int) :
    ((∀ ops : List Op, ops.length = times.length →
        Along (step z) (fun s l _ => InRange z s l) (start z reserveDays created)
          (times.zip ops) →
        Along (step z) (fun s l _ => Exact z s l) (start z reserveDays created)
          (times.zip ops)) ↔
      times.IsChain (SameDays z (reserve reserveDays))) ∧
    (times.IsChain (SameDays z (reserve reserveDays)) → ∀ ops : List Op,
      Along (step z) (fun s l _ => Exact z s l) (start z reserveDays created) (times.zip ops) →
      Along (step z) (fun s l _ => InRange z s l) (start z reserveDays created)
        (times.zip ops)) := by
  have inv : Inv z (start z reserveDays created) := ⟨rfl, rfl⟩
  have first : ∀ u ∈ times.head?, Follows z (start z reserveDays created) u := by
    intro u _ t called
    cases called
  refine ⟨⟨chain_of_exact ⟨rfl, rfl⟩, ?_⟩, ?_⟩
  · intro same ops _ fits
    exact (exact_iff_of_chain inv first same).2 fits
  · intro same ops exact_
    exact (exact_iff_of_chain inv first same).1 exact_

/-- Every day lasts 24 hours. -/
def utc : Zone where
  day t := t / (24 * hour)
  date d := d * (24 * hour)
  date_strictMono d d' less := by
    simp only [hour, second]
    omega
  wholeSeconds d := by
    simp only [hour, second]
    omega

theorem last_days_exact_utc :
    Along (step utc) (fun s l _ => Exact utc s l) (start utc 7 0)
      [(hour, .inc 5), (30 * hour, .dec 2), (300 * hour, .getLastDaysCount 3)] := by
  refine (last_days_exact_iff utc 7 0 [hour, 30 * hour, 300 * hour]).1.2 (by decide)
    [.inc 5, .dec 2, .getLastDaysCount 3] rfl ?_
  rintro _ ⟨⟩
  refine ⟨by rintro _ ⟨⟩, ?_⟩
  rintro _ ⟨⟩
  refine ⟨by rintro _ ⟨⟩, fun s _ => ⟨?_, trivial⟩⟩
  rintro _ ⟨⟩ _
  decide

/-- The clocks go forward on day 0, which lasts 23 hours. -/
def spring : Zone where
  day t := if t < 23 * hour then t / (24 * hour) else (t + hour) / (24 * hour)
  date d := if d ≤ 0 then d * (24 * hour) else d * (24 * hour) - hour
  date_strictMono d d' less := by
    simp only [hour, second]
    split_ifs <;> omega
  wholeSeconds d := by
    simp only [hour, second]
    split <;> omega

theorem spring_regular : spring.Regular spring.date where
  within t := by
    simp only [spring, hour, second]
    split_ifs <;> omega
  lasts d := by
    simp only [spring, hour, second]
    split <;> split <;> omega
  date d := by
    simp only [hour, second]
    omega

theorem short_day_merges :
    spring.Regular spring.date ∧
      ¬ Along (step spring) (fun s l _ => Exact spring s l) (start spring 7 0)
        [(12 * hour, .inc 10), (36 * hour, .getLastDaysCount 2)] := by
  refine ⟨spring_regular, ?_⟩
  intro along
  obtain ⟨counts, answer, by_⟩ := ((along _ rfl).2 _ rfl).1 2 _ _ rfl rfl
  cases answer
  revert by_
  decide +kernel

/-! ## Snapshots -/

inductive Query where
  | todayCount
  | getLastDaysCount (lastdays : Int)
  deriving DecidableEq

def Query.op : Query → Op
  | .todayCount => .todayCount
  | .getLastDaysCount lastdays => .getLastDaysCount lastdays

section Snapshot

variable {n : Nat} {z : Zone} {c d : StandardDateCounter n} {now t : Int}

/-- From the snapshot on, both stamps, that of the counter and that of the snapshot, move the
newest count alike until it is out. -/
def SameMoves (z : Zone) (c : StandardDateCounter n) (now : Int) : Prop :=
  ∀ j : Fin n, Newest c.counts j → ∀ t, now ≤ t →
    let moves := periods c.lastUpdateDate (z.midnight t)
    let moves' := periods (z.midnight now) (z.midnight t)
    moves' = moves ∨ n ≤ j.val + moves' ∧ n ≤ j.val + moves

theorem SameMoves.rotate_eq (same : SameMoves z c now) (later : now ≤ t) :
    (c.snapshot z now).rotate z t = c.rotate z t := by
  rw [StandardDateCounter.rotate_eq, StandardDateCounter.rotate_eq]
  congr 1
  show slide _ c.counts = _
  by_cases zero : c.counts = fun _ => 0
  · rw [zero, slide_const_zero, slide_const_zero]
  · obtain ⟨j, newest⟩ := exists_newest zero
    exact (slide_eq_slide_iff newest).2 (same j newest t later)

variable [NeZero n]

/-- The answers to queries at these times; `none` is a panic. -/
def answers (z : Zone) (c : StandardDateCounter n) : List (Int × Query) → List (Option Answer)
  | [] => []
  | (t, query) :: rest =>
      match c.call z t query.op with
      | none => none :: answers z c rest
      | some (answer, c) => some answer :: answers z c rest

/-- A call sees no more of a counter than what `rotate` makes of it. -/
theorem call_congr (same : c.rotate z t = d.rotate z t) (op : Op) :
    c.call z t op = d.call z t op := by
  cases op <;> simp only [StandardDateCounter.call, same]

theorem SameMoves.answers_eq (same : SameMoves z c now) {queries : List (Int × Query)}
    (ordered : (now :: queries.map Prod.fst).IsChain (· ≤ ·)) :
    answers z (c.snapshot z now) queries = answers z c queries := by
  induction queries with
  | nil => rfl
  | cons query rest ih =>
      obtain ⟨t, query⟩ := query
      have later : now ≤ t := ordered.rel_head? rfl
      unfold answers
      rw [call_congr (same.rotate_eq later)]
      cases c.call z t query.op with
      | none =>
          dsimp only
          rw [ih (ordered.sublist (.cons_cons now (List.sublist_cons_self ..)))]
      | some r => rfl

/-- The query for all days shows all counts. -/
theorem rotate_counts_eq
    (same : answers z c [(t, .getLastDaysCount n)] = answers z d [(t, .getLastDaysCount n)]) :
    (c.rotate z t).counts = (d.rotate z t).counts := by
  have shows (e : StandardDateCounter n) : answers z e [(t, .getLastDaysCount n)] =
      [some (.counts (List.ofFn (e.rotate z t).counts))] := by
    unfold answers Query.op
    dsimp only
    rw [StandardDateCounter.call_getLastDaysCount, if_neg (by omega), Int.toNat_natCast,
      Nat.min_self, List.take_of_length_le (by rw [List.length_ofFn])]
    rfl
  rw [shows, shows] at same
  exact List.ofFn_injective (Answer.counts.inj (Option.some.inj (List.head_eq_of_cons_eq same)))

end Snapshot

/-- **A snapshot answers as the counter would iff both stamps move the newest count alike.** -/
theorem snapshot_faithful_iff (z : Zone) (reserveDays : Int)
    (c : StandardDateCounter (reserve reserveDays)) (now : Int) :
    (∀ queries : List (Int × Query), (now :: queries.map Prod.fst).IsChain (· ≤ ·) →
      answers z (c.snapshot z now) queries = answers z c queries) ↔ SameMoves z c now := by
  constructor
  · intro same j newest t later
    have answer := same [(t, .getLastDaysCount (reserve reserveDays))]
      (.cons_cons later (.singleton t))
    have equal := rotate_counts_eq answer
    rw [StandardDateCounter.rotate_eq, StandardDateCounter.rotate_eq] at equal
    exact (slide_eq_slide_iff newest).1 equal
  · intro same queries ordered
    exact same.answers_eq ordered

/-- Ten on one day, and a snapshot on the next. -/
theorem snapshot_moves_count : ∃ s, exec (step utc) (start utc 7 0) [(hour, .inc 10)] = some s ∧
    ¬ ∀ queries : List (Int × Query), (25 * hour :: queries.map Prod.fst).IsChain (· ≤ ·) →
      answers utc (s.counter.snapshot utc (25 * hour)) queries =
        answers utc s.counter queries := by
  refine ⟨_, rfl, ?_⟩
  intro same
  have today := same [(25 * hour, .todayCount)] (.cons_cons (Int.le_refl _) (.singleton _))
  revert today
  decide +kernel

end ChmlFrp.Metrics
