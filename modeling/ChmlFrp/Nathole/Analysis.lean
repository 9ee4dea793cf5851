/-
# ChmlFrp.Nathole.Analysis — which behaviours are recommended to a pair of peers

`pkg/nathole/analysis.go`.  A pair of features fixes the modes that are tried and the
first scores of their behaviours.  `Recommand` takes the behaviour of the highest score
and lowers it, a report of success raises it again.

* `recommand_fair`: no behaviour is recommended more than its head start and one time
  ahead of another.
* `scores_in_range_iff`: the scores stay in their range iff no call of `Recommand` finds
  them all at the bottom of it.
* `newMakeHoleRecords_suits`, `recommand_suits`, `reportSuccess_suits`: the behaviours of
  a record are those of the modes for its pair of features.
-/
import ChmlFrp.Lib.Credit
import ChmlFrp.Lib.Transition
import ChmlFrp.Nathole.Classify

namespace ChmlFrp.Nathole

set_option autoImplicit false

open ChmlFrp.Lib
open ChmlFrp.Lib.Transition

/-! ## The tables of behaviours -/

inductive DetectRole where
  | none
  | sender
  | receiver
  deriving DecidableEq, Repr

structure RecommandBehavior where
  role : DetectRole := .none
  ttl : Nat := 0
  sendDelayMs : Nat := 0
  portsRangeNumber : Nat := 0
  portsRandomNumber : Nat := 0
  listenRandomPorts : Nat := 0
  deriving DecidableEq, Repr

abbrev Pair := RecommandBehavior × RecommandBehavior

/-- Both EasyNAT. -/
def mode0Behaviors : List Pair :=
  [({ role := .sender }, { role := .receiver, ttl := 7 }),
   ({ role := .receiver, ttl := 7 }, { role := .sender }),
   ({ role := .sender }, { role := .receiver, ttl := 4 }),
   ({ role := .receiver, ttl := 4 }, { role := .sender }),
   ({ role := .sender }, { role := .receiver }),
   ({ role := .receiver }, { role := .sender }),
   ({ role := .sender, sendDelayMs := 5000 }, { role := .receiver }),
   ({ role := .sender, sendDelayMs := 10000 }, { role := .receiver }),
   ({ role := .receiver }, { role := .sender, sendDelayMs := 5000 }),
   ({ role := .receiver }, { role := .sender, sendDelayMs := 10000 })]

/-- HardNAT is sender, EasyNAT is receiver, port changes are regular. -/
def mode1Behaviors : List Pair :=
  [({ role := .sender }, { role := .receiver, ttl := 7, portsRangeNumber := 10 }),
   ({ role := .sender, sendDelayMs := 2000 },
    { role := .receiver, ttl := 7, portsRangeNumber := 10 }),
   ({ role := .sender }, { role := .receiver, ttl := 4, portsRangeNumber := 10 }),
   ({ role := .sender, sendDelayMs := 2000 },
    { role := .receiver, ttl := 4, portsRangeNumber := 10 }),
   ({ role := .sender }, { role := .receiver, portsRangeNumber := 10 }),
   ({ role := .sender, sendDelayMs := 2000 }, { role := .receiver, portsRangeNumber := 10 })]

/-- HardNAT is receiver, EasyNAT is sender. -/
def mode2Behaviors : List Pair :=
  [({ role := .sender, portsRandomNumber := 1000, sendDelayMs := 3000 },
    { role := .receiver, listenRandomPorts := 256, ttl := 7 }),
   ({ role := .sender, portsRandomNumber := 1000, sendDelayMs := 3000 },
    { role := .receiver, listenRandomPorts := 256, ttl := 4 }),
   ({ role := .sender, portsRandomNumber := 1000, sendDelayMs := 3000 },
    { role := .receiver, listenRandomPorts := 256 })]

/-- Both HardNAT, the changes of both ports are regular. -/
def mode3Behaviors : List Pair :=
  [({ role := .sender, portsRangeNumber := 10 },
    { role := .receiver, ttl := 7, portsRangeNumber := 10 }),
   ({ role := .sender, portsRangeNumber := 10 },
    { role := .receiver, ttl := 4, portsRangeNumber := 10 }),
   ({ role := .sender, portsRangeNumber := 10 }, { role := .receiver, portsRangeNumber := 10 }),
   ({ role := .receiver, ttl := 7, portsRangeNumber := 10 },
    { role := .sender, portsRangeNumber := 10 }),
   ({ role := .receiver, ttl := 4, portsRangeNumber := 10 },
    { role := .sender, portsRangeNumber := 10 }),
   ({ role := .receiver, portsRangeNumber := 10 }, { role := .sender, portsRangeNumber := 10 })]

/-- The side whose port changes are regular is the sender. -/
def mode4Behaviors : List Pair :=
  [({ role := .sender, portsRandomNumber := 1000, sendDelayMs := 3000 },
    { role := .receiver, listenRandomPorts := 256, ttl := 7, portsRangeNumber := 2 }),
   ({ role := .sender, portsRandomNumber := 1000, sendDelayMs := 3000 },
    { role := .receiver, listenRandomPorts := 256, ttl := 4, portsRangeNumber := 2 }),
   ({ role := .sender, portsRandomNumber := 1000, sendDelayMs := 3000 },
    { role := .receiver, listenRandomPorts := 256, portsRangeNumber := 2 })]

def getBehaviorByMode : Nat → List Pair
  | 0 => mode0Behaviors
  | 1 => mode1Behaviors
  | 2 => mode2Behaviors
  | 3 => mode3Behaviors
  | 4 => mode4Behaviors
  | _ => mode0Behaviors

def getBehaviorByModeAndIndex (mode index : Nat) : Pair :=
  ((getBehaviorByMode mode)[index]?).getD ({}, {})

/-! ## Records -/

structure BehaviorScore where
  mode : Nat
  index : Nat
  /-- Between -10 and 10. -/
  score : Int
  deriving DecidableEq, Repr

def scoresFrom (mode : Nat) (senderScore receiverScore : Int) :
    Nat → List Pair → List BehaviorScore
  | _, [] => []
  | i, behavior :: rest =>
      let score := if behavior.1.role = .sender then senderScore else receiverScore
      ⟨mode, i, score⟩ :: scoresFrom mode senderScore receiverScore (i + 1) rest

def getBehaviorScoresByMode2 (mode : Nat) (senderScore receiverScore : Int) :
    List BehaviorScore :=
  scoresFrom mode senderScore receiverScore 0 (getBehaviorByMode mode)

def getBehaviorScoresByMode (mode : Nat) (defaultScore : Int) : List BehaviorScore :=
  getBehaviorScoresByMode2 mode defaultScore defaultScore

structure FeatureCount where
  easy : Nat
  hard : Nat
  portsChangedRegular : Nat
  deriving DecidableEq, Repr

def FeatureCount.add (n : FeatureCount) (feature : NatFeature) : FeatureCount :=
  if feature.natType = .easyNAT then { n with easy := n.easy + 1 }
  else
    { n with
      hard := n.hard + 1
      portsChangedRegular :=
        if feature.regularPortsChange then n.portsChangedRegular + 1 else n.portsChangedRegular }

def classifyFeatureCount (features : List NatFeature) : FeatureCount :=
  features.foldl FeatureCount.add ⟨0, 0, 0⟩

structure MakeHoleRecords where
  scores : List BehaviorScore
  lastUpdateTime : Int
  deriving DecidableEq, Repr

/-- The scores of mode 0: the side with a public network is the receiver. -/
def mode0Scores (c v : NatFeature) : List BehaviorScore :=
  if c.publicNetwork then getBehaviorScoresByMode2 0 0 1
  else if v.publicNetwork then getBehaviorScoresByMode2 0 1 0
  else getBehaviorScoresByMode 0 0

def newScores (c v : NatFeature) : List BehaviorScore :=
  let n := classifyFeatureCount [c, v]
  if n.easy = 2 then mode0Scores c v
  else if n.hard = 1 ∧ n.portsChangedRegular = 1 then
    getBehaviorScoresByMode 1 0 ++ getBehaviorScoresByMode 2 0 ++ mode0Scores c v
  else if n.hard = 1 ∧ n.portsChangedRegular = 0 then
    getBehaviorScoresByMode 2 0 ++ getBehaviorScoresByMode 1 0 ++ mode0Scores c v
  else if n.hard = 2 ∧ n.portsChangedRegular = 2 then
    getBehaviorScoresByMode 3 0 ++ getBehaviorScoresByMode 4 0
  else if n.hard = 2 ∧ n.portsChangedRegular = 1 then getBehaviorScoresByMode 4 0
  else
    -- hard to make a hole, just trying
    getBehaviorScoresByMode 0 1 ++ getBehaviorScoresByMode 1 1 ++ getBehaviorScoresByMode 3 1

def newMakeHoleRecords (c v : NatFeature) (now : Int) : MakeHoleRecords := ⟨newScores c v, now⟩

/-- The loop of `ReportSuccess` over the scores. -/
def raise (mode index : Nat) : List BehaviorScore → List BehaviorScore
  | [] => []
  | score :: rest =>
      if score.mode ≠ mode ∨ score.index ≠ index then score :: raise mode index rest
      else { score with score := min (score.score + 2) 10 } :: rest

namespace MakeHoleRecords

def reportSuccess (mhr : MakeHoleRecords) (mode index : Nat) (now : Int) : MakeHoleRecords :=
  ⟨raise mode index mhr.scores, now⟩

/-- The mode and the index recommended, and the record after it. -/
def recommand (mhr : MakeHoleRecords) (now : Int) : (Nat × Nat) × MakeHoleRecords :=
  match maxBy (fun item max => decide (max.score < item.score)) mhr.scores with
  | none => ((0, 0), mhr)
  | some (i, maxScore) =>
      ((maxScore.mode, maxScore.index),
        ⟨mhr.scores.set i { maxScore with score := maxScore.score - 1 }, now⟩)

end MakeHoleRecords

/-! ## The first scores -/

theorem mode0Scores_cases (c v : NatFeature) :
    mode0Scores c v = getBehaviorScoresByMode2 0 0 1 ∨
      mode0Scores c v = getBehaviorScoresByMode2 0 1 0 ∨
      mode0Scores c v = getBehaviorScoresByMode2 0 0 0 := by
  unfold mode0Scores
  split
  · exact .inl rfl
  · split
    · exact .inr (.inl rfl)
    · exact .inr (.inr rfl)

/-- The modes of a pair of features, by its number of HardNAT sides and of these with
regular ports. -/
theorem newScores_cases (c v : NatFeature) :
    (newScores c v = mode0Scores c v) ∨
    (newScores c v =
      getBehaviorScoresByMode 1 0 ++ getBehaviorScoresByMode 2 0 ++ mode0Scores c v) ∨
    (newScores c v =
      getBehaviorScoresByMode 2 0 ++ getBehaviorScoresByMode 1 0 ++ mode0Scores c v) ∨
    (newScores c v = getBehaviorScoresByMode 3 0 ++ getBehaviorScoresByMode 4 0) ∨
    (newScores c v = getBehaviorScoresByMode 4 0) ∨
    (newScores c v = getBehaviorScoresByMode 0 1 ++ getBehaviorScoresByMode 1 1 ++
      getBehaviorScoresByMode 3 1) := by
  unfold newScores
  simp only
  split
  · exact .inl rfl
  · split
    · exact .inr (.inl rfl)
    · split
      · exact .inr (.inr (.inl rfl))
      · split
        · exact .inr (.inr (.inr (.inl rfl)))
        · split
          · exact .inr (.inr (.inr (.inr (.inl rfl))))
          · exact .inr (.inr (.inr (.inr (.inr rfl))))

/-- What holds of every list of first scores there is holds of a new record. -/
theorem newScores_induction {P : List BehaviorScore → Prop} (c v : NatFeature)
    (mode0 : ∀ scores0 ∈ [getBehaviorScoresByMode2 0 0 1, getBehaviorScoresByMode2 0 1 0,
        getBehaviorScoresByMode2 0 0 0],
      P scores0 ∧ P (getBehaviorScoresByMode 1 0 ++ getBehaviorScoresByMode 2 0 ++ scores0) ∧
        P (getBehaviorScoresByMode 2 0 ++ getBehaviorScoresByMode 1 0 ++ scores0))
    (mode3 : P (getBehaviorScoresByMode 3 0 ++ getBehaviorScoresByMode 4 0))
    (mode4 : P (getBehaviorScoresByMode 4 0))
    (trying : P (getBehaviorScoresByMode 0 1 ++ getBehaviorScoresByMode 1 1 ++
      getBehaviorScoresByMode 3 1)) :
    P (newScores c v) := by
  have member : mode0Scores c v ∈ [getBehaviorScoresByMode2 0 0 1,
      getBehaviorScoresByMode2 0 1 0, getBehaviorScoresByMode2 0 0 0] := by
    rcases mode0Scores_cases c v with is0 | is0 | is0 <;> rw [is0] <;> simp
  obtain ⟨easy, regular, other⟩ := mode0 _ member
  rcases newScores_cases c v with new | new | new | new | new | new <;> rw [new]
  all_goals assumption

/-! ## Recommendations are fair -/

/-- A score is the credit of its behaviour. -/
def scoreAccounts : Accounts BehaviorScore (Nat × Nat) where
  name s := (s.mode, s.index)
  credit s := s.score
  charge s := { s with score := s.score - 1 }
  name_charge _ := rfl
  credit_charge _ := rfl

theorem newScores_nonempty (c v : NatFeature) : newScores c v ≠ [] := by
  apply newScores_induction (P := fun l => l ≠ []) c v <;> decide

theorem newScores_distinct (c v : NatFeature) : ((newScores c v).map scoreAccounts.name).Nodup := by
  apply newScores_induction (P := fun l => (l.map scoreAccounts.name).Nodup) c v <;> decide

theorem newScores_first (c v : NatFeature) : ∀ s ∈ newScores c v, 0 ≤ s.score ∧ s.score ≤ 1 := by
  apply newScores_induction (P := fun l => ∀ s ∈ l, 0 ≤ s.score ∧ s.score ≤ 1) c v <;> decide

theorem newScores_balanced (c v : NatFeature) : scoreAccounts.Balanced (newScores c v) := by
  intro a inA b inB
  have := newScores_first c v a inA
  have := newScores_first c v b inB
  show a.score ≤ b.score + 1
  omega

namespace MakeHoleRecords

/-- A call of `Recommand` is a turn of the scores. -/
theorem recommand_pick {mhr : MakeHoleRecords} (nonempty : mhr.scores ≠ []) (now : Int) :
    scoreAccounts.pick mhr.scores =
      some ((mhr.recommand now).1, (mhr.recommand now).2.scores) := by
  obtain ⟨i, a, best⟩ := maxBy_isSome (richer scoreAccounts.credit) nonempty
  have best' : maxBy (fun item max : BehaviorScore => decide (max.score < item.score))
      mhr.scores = some (i, a) := best
  rw [Accounts.pick, best, recommand, best']
  rfl

/-- What a call returns and leaves, of a record that is not empty. -/
theorem recommand_cases {mhr : MakeHoleRecords} (nonempty : mhr.scores ≠ []) (now : Int) :
    ∃ i a, mhr.scores[i]? = some a ∧ (∀ s ∈ mhr.scores, s.score ≤ a.score) ∧
      (mhr.recommand now).1 = (a.mode, a.index) ∧
      (mhr.recommand now).2.scores = mhr.scores.set i { a with score := a.score - 1 } :=
  Accounts.pick_cases (recommand_pick nonempty now)

theorem recommand_nonempty {mhr : MakeHoleRecords} (nonempty : mhr.scores ≠ []) (now : Int) :
    (mhr.recommand now).2.scores ≠ [] := by
  obtain ⟨i, a, -, -, -, left⟩ := recommand_cases nonempty now
  rw [left]
  intro empty
  exact nonempty ((List.set_eq_nil_iff _ _).1 empty)

/-- The calls of `Recommand` at these times: what they return, and the record at last. -/
def recommandAll (mhr : MakeHoleRecords) : List Int → List (Nat × Nat) × MakeHoleRecords
  | [] => ([], mhr)
  | now :: rest =>
      let (recommended, after) := mhr.recommand now
      (recommended :: (after.recommandAll rest).1, (after.recommandAll rest).2)

theorem recommandAll_picks {mhr : MakeHoleRecords} (nonempty : mhr.scores ≠ []) (times : List Int) :
    ((mhr.recommandAll times).1, (mhr.recommandAll times).2.scores) =
      scoreAccounts.picks times.length mhr.scores := by
  induction times generalizing mhr with
  | nil => rfl
  | cons now rest ih =>
      have after := ih (recommand_nonempty nonempty now)
      rw [List.length_cons, Accounts.picks, recommand_pick nonempty now]
      simp only [recommandAll]
      rw [← after]

/-- **No behaviour of a new record is recommended more than its head start and one time
ahead of another.** -/
theorem recommand_fair (c v : NatFeature) (now : Int) (times : List Int) {i j : BehaviorScore}
    (inI : i ∈ (newMakeHoleRecords c v now).scores)
    (inJ : j ∈ (newMakeHoleRecords c v now).scores) :
    ((((newMakeHoleRecords c v now).recommandAll times).1.count (i.mode, i.index) : Nat) : Int) -
        ((newMakeHoleRecords c v now).recommandAll times).1.count (j.mode, j.index) ≤
      i.score - j.score + 1 := by
  have nonempty : (newMakeHoleRecords c v now).scores ≠ [] := newScores_nonempty c v
  have same := congrArg Prod.fst (recommandAll_picks nonempty times)
  dsimp only at same
  rw [same]
  exact Accounts.picks_fair times.length (newScores_distinct c v) (newScores_balanced c v) inI inJ

theorem recommand_fair_first_last :
    ((((newMakeHoleRecords ⟨.hardNAT, .portChanged, 3, true, false⟩
        ⟨.hardNAT, .ipChanged, 0, false, false⟩ 0).recommandAll [1, 2, 3, 4]).1.count
          (4, 0) : Nat) : Int) -
      ((newMakeHoleRecords ⟨.hardNAT, .portChanged, 3, true, false⟩
        ⟨.hardNAT, .ipChanged, 0, false, false⟩ 0).recommandAll [1, 2, 3, 4]).1.count (4, 2) ≤
      0 - 0 + 1 :=
  recommand_fair _ _ 0 [1, 2, 3, 4] (i := ⟨4, 0, 0⟩) (j := ⟨4, 2, 0⟩) (by decide) (by decide)
/-- Each call takes one at the most, so the scores, which nothing bounds below, still fit
into an `int` in the first `2 ^ 63` calls. -/
theorem recommandAll_low (c v : NatFeature) (now : Int) (times : List Int) {s : BehaviorScore}
    (member : s ∈ ((newMakeHoleRecords c v now).recommandAll times).2.scores) :
    -times.length ≤ s.score := by
  have nonempty : (newMakeHoleRecords c v now).scores ≠ [] := newScores_nonempty c v
  have same := congrArg Prod.snd (recommandAll_picks nonempty times)
  dsimp only at same
  rw [same] at member
  have low : ∀ a ∈ newScores c v, 0 ≤ scoreAccounts.credit a :=
    fun a inside => (newScores_first c v a inside).1
  have : (0 : Int) - times.length ≤ s.score := Accounts.picks_low low s member
  omega

end MakeHoleRecords

/-! ## The range of the scores -/

inductive RecordOp where
  | recommand (now : Int)
  | reportSuccess (mode index : Nat) (now : Int)
  deriving DecidableEq, Repr

/-- A call on a record, under its lock. -/
def recordStep (mhr : MakeHoleRecords) : RecordOp → Option MakeHoleRecords
  | .recommand now => some (mhr.recommand now).2
  | .reportSuccess mode index now => some (mhr.reportSuccess mode index now)

def InRange (mhr : MakeHoleRecords) : Prop := ∀ s ∈ mhr.scores, -10 ≤ s.score ∧ s.score ≤ 10

instance (mhr : MakeHoleRecords) : Decidable (InRange mhr) :=
  inferInstanceAs (Decidable (∀ s ∈ mhr.scores, -10 ≤ s.score ∧ s.score ≤ 10))

/-- A call of `Recommand` finds a score above the bottom of the range. -/
def FindsScore (mhr : MakeHoleRecords) : RecordOp → Prop
  | .recommand _ => ∃ s ∈ mhr.scores, -10 < s.score
  | .reportSuccess _ _ _ => True

theorem newMakeHoleRecords_inRange (c v : NatFeature) (now : Int) :
    InRange (newMakeHoleRecords c v now) := by
  intro s member
  have := newScores_first c v s member
  omega

theorem raise_inRange {mode index : Nat} {scores : List BehaviorScore}
    (range : ∀ s ∈ scores, -10 ≤ s.score ∧ s.score ≤ 10) :
    ∀ s ∈ raise mode index scores, -10 ≤ s.score ∧ s.score ≤ 10 := by
  induction scores with
  | nil => exact range
  | cons first rest ih =>
      have here := range first List.mem_cons_self
      have there := fun s member => range s (List.mem_cons_of_mem first member)
      unfold raise
      split
      · intro s member
        rcases List.mem_cons.1 member with rfl | member
        · exact here
        · exact ih there s member
      · intro s member
        rcases List.mem_cons.1 member with rfl | member
        · show -10 ≤ min (first.score + 2) 10 ∧ min (first.score + 2) 10 ≤ 10
          omega
        · exact there s member

theorem raise_nonempty {mode index : Nat} {scores : List BehaviorScore} (nonempty : scores ≠ []) :
    raise mode index scores ≠ [] := by
  cases scores with
  | nil => exact absurd rfl nonempty
  | cons first rest =>
      unfold raise
      split <;> exact List.cons_ne_nil _ _

theorem recommand_inRange_iff {mhr : MakeHoleRecords} (range : InRange mhr)
    (nonempty : mhr.scores ≠ []) (now : Int) :
    InRange (mhr.recommand now).2 ↔ ∃ s ∈ mhr.scores, -10 < s.score := by
  obtain ⟨i, a, found, most, -, left⟩ := MakeHoleRecords.recommand_cases nonempty now
  have member : a ∈ mhr.scores := List.mem_of_getElem? found
  have within : i < mhr.scores.length := (List.getElem?_eq_some_iff.1 found).1
  unfold InRange
  rw [left]
  constructor
  · intro after
    have := after _ (List.mem_set within _)
    exact ⟨a, member, by dsimp only at this; omega⟩
  · rintro ⟨s, inside, above⟩ b inB
    have := most s inside
    have := range a member
    rcases List.mem_or_eq_of_mem_set inB with old | rfl
    · exact range b old
    · dsimp only
      omega

/-- One call keeps the scores in their range iff it finds one to take from. -/
theorem findsScore_iff {mhr after : MakeHoleRecords} {op : RecordOp}
    (inv : InRange mhr ∧ mhr.scores ≠ []) (step : recordStep mhr op = some after) :
    FindsScore mhr op ↔ InRange after := by
  cases op with
  | recommand now =>
      cases step
      exact (recommand_inRange_iff inv.1 inv.2 now).symm
  | reportSuccess mode index now =>
      cases step
      exact ⟨fun _ => raise_inRange inv.1, fun _ => trivial⟩

theorem recordStep_nonempty {mhr after : MakeHoleRecords} {op : RecordOp}
    (nonempty : mhr.scores ≠ []) (step : recordStep mhr op = some after) : after.scores ≠ [] := by
  cases op with
  | recommand now =>
      cases step
      exact MakeHoleRecords.recommand_nonempty nonempty now
  | reportSuccess mode index now =>
      cases step
      exact raise_nonempty nonempty

/-- **The scores of a new record stay in their range iff no call of `Recommand` finds all
of them at its bottom.** -/
theorem scores_in_range_iff (c v : NatFeature) (now : Int) (ops : List RecordOp) :
    InRange (newMakeHoleRecords c v now) ∧
        Along recordStep (fun _ _ after => InRange after) (newMakeHoleRecords c v now) ops ↔
      Along recordStep (fun mhr op _ => FindsScore mhr op) (newMakeHoleRecords c v now) ops := by
  have start := newMakeHoleRecords_inRange c v now
  have agree : Along recordStep (fun mhr op _ => FindsScore mhr op) (newMakeHoleRecords c v now)
        ops ↔
      Along recordStep (fun _ _ after => InRange after) (newMakeHoleRecords c v now) ops := by
    apply along_iff_along fun mhr => InRange mhr ∧ mhr.scores ≠ []
    · intro mhr op after inv finds step
      exact ⟨(findsScore_iff inv step).1 finds, recordStep_nonempty inv.2 step⟩
    · intro mhr op after inv step
      exact findsScore_iff inv step
    · exact ⟨start, newScores_nonempty c v⟩
  exact ⟨fun all => agree.2 all.2, fun finds => ⟨start, agree.1 finds⟩⟩

/-- Three behaviours, and no report: the thirty-first call goes below the range. -/
theorem scores_leave_range :
    ¬ (InRange (newMakeHoleRecords ⟨.hardNAT, .portChanged, 3, true, false⟩
          ⟨.hardNAT, .ipChanged, 0, false, false⟩ 0) ∧
        Along recordStep (fun _ _ after => InRange after)
          (newMakeHoleRecords ⟨.hardNAT, .portChanged, 3, true, false⟩
            ⟨.hardNAT, .ipChanged, 0, false, false⟩ 0)
          (List.replicate 31 (.recommand 0))) := by
  decide

end ChmlFrp.Nathole
