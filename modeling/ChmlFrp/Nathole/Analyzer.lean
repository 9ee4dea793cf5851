/-
# ChmlFrp.Nathole.Analyzer — recommendations over many sessions

The analyzer of `pkg/nathole/analysis.go` under `analysis` and `HandleReport` of
`pkg/nathole/controller.go`.  A session classifies both peers, finds the record of its
key or makes one, and calls `Recommand` on it after the lock of the analyzer is released.
The records are pointers: a call may hold one that `Clean` has taken out of the map.

* `keyText_injective`: with address literals, a key determines what the modes and the
  roles depend on.
* `recommendations_suit`: whatever sessions, reports and cleanings came before, what is
  recommended suits the two features.
-/
import ChmlFrp.Lib.GoMap
import ChmlFrp.Lib.Suffix
import ChmlFrp.Nathole.Analysis

namespace ChmlFrp.Nathole.Analyzer

set_option autoImplicit false

open ChmlFrp.Lib
open ChmlFrp.Lib.Transition

/-! ## The key of a session -/

/-- `lo.Uniq(parseIPs(addrs))[0]`, if there is one. -/
def firstIP (addrs : List GoString) : GoString :=
  let ips := addrs.filterMap fun addr => (GoString.splitHostPort addr).toOption.map Prod.fst
  ips.eraseDups.head?.getD []

def natTypeText : NatType → GoString
  | .easyNAT => .lit "EasyNAT"
  | .hardNAT => .lit "HardNAT"

def behaviorText : Behavior → GoString
  | .noChange => .lit "BehaviorNoChange"
  | .ipChanged => .lit "BehaviorIPChanged"
  | .portChanged => .lit "BehaviorPortChanged"
  | .bothChanged => .lit "BehaviorBothChanged"

/-- `strconv.FormatBool` -/
def formatBool (b : Bool) : GoString := if b then .lit "true" else .lit "false"

/-- What is written of one peer into the hash. -/
def peerText (mappedAddrs : List GoString) (f : NatFeature) : GoString :=
  firstIP mappedAddrs ++ natTypeText f.natType ++ behaviorText f.behavior ++
    formatBool f.regularPortsChange

structure PeerMsg where
  mappedAddrs : List GoString
  assistedAddrs : List GoString
  deriving DecidableEq, Repr

/-- What `genAnalysisKey` writes into the hash. -/
def keyText (vm : PeerMsg) (v : NatFeature) (cm : PeerMsg) (c : NatFeature) : GoString :=
  peerText vm.mappedAddrs v ++ peerText cm.mappedAddrs c

/-! ## The analyzer and the calls on it -/

/-- The first part of `analysis`, up to the key. -/
def classifyPeer (m : PeerMsg) : Except ClassifyError NatFeature :=
  classifyNATFeature m.mappedAddrs
    (m.assistedAddrs.filterMap fun addr => (GoString.splitHostPort addr).toOption.map Prod.fst)

/-- The swap of `GetRecommandBehaviors`: the behaviours of the client and the visitor. -/
def assignBehaviors (mode index : Nat) (c : NatFeature) : Pair :=
  let (cBehavior, vBehavior) := getBehaviorByModeAndIndex mode index
  match mode with
  | 1 =>
      -- HardNAT is always the sender
      if c.natType = .easyNAT then (vBehavior, cBehavior) else (cBehavior, vBehavior)
  | 2 =>
      -- HardNAT is always the receiver
      if c.natType = .hardNAT then (vBehavior, cBehavior) else (cBehavior, vBehavior)
  | 4 =>
      -- regular port changes are always the sender
      if !c.regularPortsChange then (vBehavior, cBehavior) else (cBehavior, vBehavior)
  | _ => (cBehavior, vBehavior)

/-- A call of `GetRecommandBehaviors` that has its record. -/
structure Call where
  c : NatFeature
  v : NatFeature
  records : Nat
  deriving DecidableEq, Repr

/-- A call of `ReportSuccess` that has its record. -/
structure Report where
  records : Nat
  mode : Nat
  index : Nat
  deriving DecidableEq, Repr

/-- What a call of `GetRecommandBehaviors` has returned to its session. -/
structure Recommendation where
  c : NatFeature
  v : NatFeature
  mode : Nat
  index : Nat
  cBehavior : RecommandBehavior
  vBehavior : RecommandBehavior
  deriving DecidableEq, Repr

structure State where
  dataReserveDuration : Int
  /-- The records made so far; the map holds pointers to them. -/
  objects : List MakeHoleRecords
  records : GoMap GoString Nat
  calls : List Call
  reports : List Report
  returned : List Recommendation

def newAnalyzer (dataReserveDuration : Int) : State := ⟨dataReserveDuration, [], ∅, [], [], []⟩

inductive Label where
  /-- `analysis` of a session up to the end of the analyzer's lock. -/
  | analysis (cm vm : PeerMsg) (now : Int)
  /-- The rest of the call: `Recommand`, the table and the swap. -/
  | recommand (i : Nat) (now : Int)
  /-- `ReportSuccess` of a session, up to the end of the analyzer's lock. -/
  | report (key : GoString) (mode index : Nat)
  | reportSuccess (i : Nat) (now : Int)
  /-- `Clean`; the order in which it ranges over the map. -/
  | clean (now : Int) (order : List GoString)

namespace State

variable (md5 : GoString → GoString)

def getRecords (s : State) (key : GoString) (c v : NatFeature) (now : Int) : State :=
  match s.records.get key with
  | some records => { s with calls := s.calls ++ [⟨c, v, records⟩] }
  | none =>
      { s with
        objects := s.objects ++ [newMakeHoleRecords c v now]
        records := s.records.set key s.objects.length
        calls := s.calls ++ [⟨c, v, s.objects.length⟩] }

def analysis (s : State) (cm vm : PeerMsg) (now : Int) : State :=
  match classifyPeer cm, classifyPeer vm with
  | .ok c, .ok v => s.getRecords (md5 (keyText vm v cm c)) c v now
  | _, _ => s

def recommand (s : State) (i : Nat) (now : Int) : Option State := do
  let call ← s.calls[i]?
  let mhr ← s.objects[call.records]?
  let ((mode, index), after) := mhr.recommand now
  let (cBehavior, vBehavior) := assignBehaviors mode index call.c
  some { s with
    objects := s.objects.set call.records after
    calls := s.calls.eraseIdx i
    returned := s.returned ++ [⟨call.c, call.v, mode, index, cBehavior, vBehavior⟩] }

def report (s : State) (key : GoString) (mode index : Nat) : State :=
  match s.records.get key with
  | none => s
  | some records => { s with reports := s.reports ++ [⟨records, mode, index⟩] }

def reportSuccess (s : State) (i : Nat) (now : Int) : Option State := do
  let report ← s.reports[i]?
  let mhr ← s.objects[report.records]?
  some { s with
    objects := s.objects.set report.records (mhr.reportSuccess report.mode report.index now)
    reports := s.reports.eraseIdx i }

/-- The body of the loop of `Clean`. -/
def cleanKey (s : State) (now : Int) (records : GoMap GoString Nat) (key : GoString) :
    GoMap GoString Nat :=
  match (s.records.get key).bind (s.objects[·]?) with
  | none => records
  | some mhr =>
      if s.dataReserveDuration < now - mhr.lastUpdateTime then records.delete key else records

def clean (s : State) (now : Int) (order : List GoString) : Option State :=
  if s.records.keys ⊆ order.toFinset then
    some { s with records := order.foldl (s.cleanKey now) s.records }
  else none

def step (s : State) : Label → Option State
  | .analysis cm vm now => some (s.analysis md5 cm vm now)
  | .recommand i now => s.recommand i now
  | .report key mode index => some (s.report key mode index)
  | .reportSuccess i now => s.reportSuccess i now
  | .clean now order => s.clean now order

end State

/-! ## What suits a pair of features -/

/-- The modes for a pair of features. -/
def admissibleModes (c v : NatFeature) : List Nat :=
  match c.natType, v.natType with
  | .easyNAT, .easyNAT => [0]
  | .hardNAT, .hardNAT =>
      match c.regularPortsChange, v.regularPortsChange with
      | true, true => [3, 4]
      | false, false => [0, 1, 3]
      | _, _ => [4]
  | _, _ => [0, 1, 2]

structure Suitable (r : Recommendation) : Prop where
  entry : r.mode ≤ 4 ∧ r.index < (getBehaviorByMode r.mode).length
  mode : r.mode ∈ admissibleModes r.c r.v
  roles : r.cBehavior.role = .sender ∧ r.vBehavior.role = .receiver ∨
    r.cBehavior.role = .receiver ∧ r.vBehavior.role = .sender
  nonempty : r.cBehavior ≠ {} ∧ r.vBehavior ≠ {}
  hardSends : r.mode = 1 →
    (r.c.natType = .hardNAT ∧ r.v.natType = .easyNAT → r.cBehavior.role = .sender) ∧
      (r.c.natType = .easyNAT ∧ r.v.natType = .hardNAT → r.vBehavior.role = .sender)
  hardReceives : r.mode = 2 →
    (r.c.natType = .hardNAT → r.cBehavior.role = .receiver) ∧
      (r.v.natType = .hardNAT → r.vBehavior.role = .receiver)
  regularSends : r.mode = 4 →
    (r.cBehavior.role = .sender → r.c.regularPortsChange = true) ∧
      (r.vBehavior.role = .sender → r.v.regularPortsChange = true)

/-! ## The tables and the first scores -/

theorem scoresFrom_spec {mode : Nat} {senderScore receiverScore : Int} {i : Nat}
    {behaviors : List Pair} {s : BehaviorScore}
    (member : s ∈ scoresFrom mode senderScore receiverScore i behaviors) :
    s.mode = mode ∧ s.index < i + behaviors.length := by
  induction behaviors generalizing i with
  | nil => cases member
  | cons behavior rest ih =>
      rw [List.length_cons]
      rcases List.mem_cons.1 member with rfl | member
      · exact ⟨rfl, by dsimp only; omega⟩
      · obtain ⟨same, below⟩ := ih member
        exact ⟨same, by omega⟩

/-- The scores are of entries of the tables, of these modes. -/
def Entries (modes : List Nat) (scores : List BehaviorScore) : Prop :=
  ∀ s ∈ scores, s.mode ∈ modes ∧ s.index < (getBehaviorByMode s.mode).length

theorem behaviorScores_entries {modes : List Nat} {mode : Nat} (among : mode ∈ modes)
    (senderScore receiverScore : Int) :
    Entries modes (getBehaviorScoresByMode2 mode senderScore receiverScore) := by
  intro s member
  obtain ⟨rfl, below⟩ := scoresFrom_spec member
  exact ⟨among, by omega⟩

theorem mode0Scores_entries {modes : List Nat} (among : 0 ∈ modes) (c v : NatFeature) :
    Entries modes (mode0Scores c v) := by
  rcases mode0Scores_cases c v with is0 | is0 | is0 <;> rw [is0] <;>
    exact behaviorScores_entries among _ _

theorem Entries.append {modes : List Nat} {l t : List BehaviorScore} (first : Entries modes l)
    (second : Entries modes t) : Entries modes (l ++ t) := by
  intro s member
  rcases List.mem_append.1 member with inL | inT
  · exact first s inL
  · exact second s inT

/-- One side is hard; in which order the modes are tried depends on its ports. -/
theorem oneHard_entries (c v : NatFeature) :
    Entries [0, 1, 2]
        (getBehaviorScoresByMode 1 0 ++ getBehaviorScoresByMode 2 0 ++ mode0Scores c v) ∧
      Entries [0, 1, 2]
        (getBehaviorScoresByMode 2 0 ++ getBehaviorScoresByMode 1 0 ++ mode0Scores c v) := by
  have mode1 : Entries [0, 1, 2] (getBehaviorScoresByMode 1 0) :=
    behaviorScores_entries (by decide) 0 0
  have mode2 : Entries [0, 1, 2] (getBehaviorScoresByMode 2 0) :=
    behaviorScores_entries (by decide) 0 0
  have mode0 : Entries [0, 1, 2] (mode0Scores c v) := mode0Scores_entries (by decide) c v
  exact ⟨(mode1.append mode2).append mode0, (mode2.append mode1).append mode0⟩

/-- Both sides are hard; the modes depend on which ports are regular. -/
theorem bothHard_entries :
    Entries [3, 4] (getBehaviorScoresByMode 3 0 ++ getBehaviorScoresByMode 4 0) ∧
      Entries [4] (getBehaviorScoresByMode 4 0) ∧
      Entries [0, 1, 3] (getBehaviorScoresByMode 0 1 ++ getBehaviorScoresByMode 1 1 ++
        getBehaviorScoresByMode 3 1) := by
  refine ⟨.append ?_ ?_, ?_, .append (.append ?_ ?_) ?_⟩ <;>
    exact behaviorScores_entries (by decide) _ _

theorem newScores_entries (c v : NatFeature) : Entries (admissibleModes c v) (newScores c v) := by
  obtain ⟨cType, cBehavior, cDifference, cRegular, cPublic⟩ := c
  obtain ⟨vType, vBehavior, vDifference, vRegular, vPublic⟩ := v
  cases cType with
  | easyNAT =>
      cases vType with
      | easyNAT => exact mode0Scores_entries List.mem_cons_self _ _
      | hardNAT =>
          cases vRegular with
          | true => exact (oneHard_entries _ _).1
          | false => exact (oneHard_entries _ _).2
  | hardNAT =>
      cases vType with
      | easyNAT =>
          cases cRegular with
          | true => exact (oneHard_entries _ _).1
          | false => exact (oneHard_entries _ _).2
      | hardNAT =>
          cases cRegular <;> cases vRegular
          · exact bothHard_entries.2.2
          · exact bothHard_entries.2.1
          · exact bothHard_entries.2.1
          · exact bothHard_entries.1

/-- The modes and indices of a record, which no call changes. -/
def behaviors (mhr : MakeHoleRecords) : List (Nat × Nat) := mhr.scores.map scoreAccounts.name

/-- The behaviours of a record are entries of the tables, of modes for the features. -/
structure Suits (c v : NatFeature) (behaviors : List (Nat × Nat)) : Prop where
  nonempty : behaviors ≠ []
  entry : ∀ b ∈ behaviors, b.1 ∈ admissibleModes c v ∧ b.2 < (getBehaviorByMode b.1).length

theorem newMakeHoleRecords_suits (c v : NatFeature) (now : Int) :
    Suits c v (behaviors (newMakeHoleRecords c v now)) := by
  constructor
  · intro empty
    exact newScores_nonempty c v (List.map_eq_nil_iff.1 empty)
  · intro b member
    obtain ⟨s, inside, rfl⟩ := List.mem_map.1 member
    exact newScores_entries c v s inside

theorem Suits.scores_nonempty {c v : NatFeature} {mhr : MakeHoleRecords}
    (suits : Suits c v (behaviors mhr)) : mhr.scores ≠ [] := by
  intro empty
  exact suits.nonempty (by rw [behaviors, empty]; rfl)

theorem recommand_behaviors (mhr : MakeHoleRecords) (now : Int) :
    behaviors (mhr.recommand now).2 = behaviors mhr := by
  by_cases nonempty : mhr.scores = []
  · unfold MakeHoleRecords.recommand
    rw [nonempty]
    rfl
  · exact Accounts.pick_names (MakeHoleRecords.recommand_pick nonempty now)

theorem reportSuccess_behaviors (mhr : MakeHoleRecords) (mode index : Nat) (now : Int) :
    behaviors (mhr.reportSuccess mode index now) = behaviors mhr := by
  unfold behaviors MakeHoleRecords.reportSuccess
  dsimp only
  induction mhr.scores with
  | nil => rfl
  | cons s rest ih =>
      unfold raise
      split
      · rw [List.map_cons, List.map_cons, ih]
      · rfl

/-- What `Recommand` returns is one of the behaviours of the record. -/
theorem recommand_mem {mhr : MakeHoleRecords} (nonempty : mhr.scores ≠ []) (now : Int) :
    (mhr.recommand now).1 ∈ behaviors mhr := by
  obtain ⟨i, a, found, -, returned, -⟩ := MakeHoleRecords.recommand_cases nonempty now
  rw [returned]
  exact List.mem_map.2 ⟨a, List.mem_of_getElem? found, rfl⟩

/-! ## Roles -/

theorem admissible_le {c v : NatFeature} {mode : Nat} (among : mode ∈ admissibleModes c v) :
    mode ≤ 4 := by
  have all : ∀ m ∈ admissibleModes c v, m ≤ 4 := by
    unfold admissibleModes
    split
    · decide
    · split <;> decide
    · decide
  exact all mode among

/-- The two behaviours of an entry have opposite roles, and in the modes with a swap the
first one sends. -/
theorem table_roles : ∀ mode < 5, ∀ pair ∈ getBehaviorByMode mode,
    (pair.1.role = .sender ∧ pair.2.role = .receiver ∨
      pair.1.role = .receiver ∧ pair.2.role = .sender) ∧
    (mode = 1 ∨ mode = 2 ∨ mode = 4 → pair.1.role = .sender ∧ pair.2.role = .receiver) := by
  decide

theorem ne_empty_of_role {b : RecommandBehavior} (role : b.role ≠ .none) : b ≠ {} := by
  rintro rfl
  exact role rfl

theorem assignBehaviors_cases {mode index : Nat}
    (below : index < (getBehaviorByMode mode).length) :
    ∃ pair ∈ getBehaviorByMode mode, getBehaviorByModeAndIndex mode index = pair := by
  refine ⟨(getBehaviorByMode mode)[index], List.getElem_mem below, ?_⟩
  rw [getBehaviorByModeAndIndex, List.getElem?_eq_getElem below]
  rfl

theorem suitable_of_roles {c v : NatFeature} {mode index : Nat} {a b : RecommandBehavior}
    (among : mode ∈ admissibleModes c v) (below : index < (getBehaviorByMode mode).length)
    (roles : a.role = .sender ∧ b.role = .receiver ∨ a.role = .receiver ∧ b.role = .sender)
    (hardSends : mode = 1 → (c.natType = .hardNAT ∧ v.natType = .easyNAT → a.role = .sender) ∧
      (c.natType = .easyNAT ∧ v.natType = .hardNAT → b.role = .sender))
    (hardReceives : mode = 2 → (c.natType = .hardNAT → a.role = .receiver) ∧
      (v.natType = .hardNAT → b.role = .receiver))
    (regularSends : mode = 4 → (a.role = .sender → c.regularPortsChange = true) ∧
      (b.role = .sender → v.regularPortsChange = true)) :
    Suitable ⟨c, v, mode, index, a, b⟩ where
  entry := ⟨admissible_le among, below⟩
  mode := among
  roles := roles
  nonempty := by
    rcases roles with ⟨sends, receives⟩ | ⟨receives, sends⟩
    · exact ⟨ne_empty_of_role (by simp [sends]), ne_empty_of_role (by simp [receives])⟩
    · exact ⟨ne_empty_of_role (by simp [receives]), ne_empty_of_role (by simp [sends])⟩
  hardSends := hardSends
  hardReceives := hardReceives
  regularSends := regularSends

/-- In mode 2 exactly one side is hard. -/
theorem oneHard_of_mode2 {c v : NatFeature} (among : 2 ∈ admissibleModes c v) :
    c.natType ≠ v.natType := by
  intro same
  unfold admissibleModes at among
  rw [same] at among
  cases type : v.natType <;> simp only [type] at among
  · simp at among
  · split at among <;> simp at among

/-- In mode 4 the ports of one side are regular. -/
theorem regular_of_mode4 {c v : NatFeature} (among : 4 ∈ admissibleModes c v)
    (irregular : c.regularPortsChange = false) : v.regularPortsChange = true := by
  unfold admissibleModes at among
  split at among
  · simp at among
  · rw [irregular] at among
    cases regular : v.regularPortsChange with
    | true => rfl
    | false =>
        rw [regular] at among
        simp at among
  · simp at among

/-- The roles that the swap of `GetRecommandBehaviors` assigns to an entry of the table. -/
theorem assignBehaviors_suitable {c v : NatFeature} {mode index : Nat}
    (among : mode ∈ admissibleModes c v) (below : index < (getBehaviorByMode mode).length) :
    Suitable ⟨c, v, mode, index, (assignBehaviors mode index c).1,
      (assignBehaviors mode index c).2⟩ := by
  obtain ⟨⟨a, b⟩, member, isPair⟩ := assignBehaviors_cases below
  have small := admissible_le among
  obtain ⟨roles, first⟩ := table_roles mode (by omega) _ member
  have swapped := roles.symm.imp And.symm And.symm
  unfold assignBehaviors
  rw [isPair]
  dsimp only at roles first swapped ⊢
  split
  · -- mode 1
    obtain ⟨sends, receives⟩ := first (.inl rfl)
    split
    · rename_i easy
      exact suitable_of_roles among below swapped (fun _ => ⟨by simp [easy], fun _ => sends⟩)
        (by simp) (by simp)
    · rename_i hard
      exact suitable_of_roles among below roles (fun _ => ⟨fun _ => sends, by simp [hard]⟩)
        (by simp) (by simp)
  · -- mode 2
    obtain ⟨sends, receives⟩ := first (.inr (.inl rfl))
    have different := oneHard_of_mode2 among
    split
    · rename_i hard
      refine suitable_of_roles among below swapped (by simp)
        (fun _ => ⟨fun _ => receives, fun vHard => absurd (hard.trans vHard.symm) different⟩)
        (by simp)
    · rename_i easy
      exact suitable_of_roles among below roles (by simp)
        (fun _ => ⟨fun hard => absurd hard easy, fun _ => receives⟩) (by simp)
  · -- mode 4
    obtain ⟨sends, receives⟩ := first (.inr (.inr rfl))
    split
    · rename_i irregular
      have regular := regular_of_mode4 among (by simpa using irregular)
      exact suitable_of_roles among below swapped (by simp) (by simp)
        (fun _ => ⟨by simp [receives], fun _ => regular⟩)
    · rename_i regular
      exact suitable_of_roles among below roles (by simp) (by simp)
        (fun _ => ⟨fun _ => by simpa using regular, by simp [receives]⟩)
  · rename_i not1 not2 not4
    exact suitable_of_roles among below roles (fun is1 => absurd is1 not1)
      (fun is2 => absurd is2 not2) (fun is4 => absurd is4 not4)

/-! ## What a key determines -/

/-- A byte of an address literal without a zone. -/
def ipByte (b : UInt8) : Bool :=
  decide (48 ≤ b ∧ b ≤ 57) || decide (65 ≤ b ∧ b ≤ 70) || decide (97 ≤ b ∧ b ≤ 102) ||
    b == GoString.dot || b == GoString.colon

/-- The host, if there is one, is an address literal. -/
def literalHost (addr : GoString) : Bool :=
  match GoString.splitHostPort addr with
  | .error _ => true
  | .ok (host, _) => host.all ipByte

/-- The mapped hosts are address literals. -/
def PeerMsg.Literal (m : PeerMsg) : Prop := ∀ addr ∈ m.mappedAddrs, literalHost addr = true

/-- The features agree in what the modes and the roles depend on. -/
structure Alike (f g : NatFeature) : Prop where
  natType : f.natType = g.natType
  behavior : f.behavior = g.behavior
  regular : f.regularPortsChange = g.regularPortsChange

theorem firstIP_literal {m : PeerMsg} (literal : m.Literal) :
    ∀ b ∈ firstIP m.mappedAddrs, ipByte b = true := by
  intro b member
  unfold firstIP at member
  generalize ips : (m.mappedAddrs.filterMap fun addr =>
    (GoString.splitHostPort addr).toOption.map Prod.fst) = l at member
  cases l with
  | nil => cases member
  | cons ip rest =>
      simp only [List.eraseDups_cons, List.head?_cons, Option.getD_some] at member
      have inside : ip ∈ m.mappedAddrs.filterMap fun addr =>
          (GoString.splitHostPort addr).toOption.map Prod.fst := ips ▸ List.mem_cons_self
      obtain ⟨addr, from_, isHost⟩ := List.mem_filterMap.1 inside
      have allBytes := literal addr from_
      unfold literalHost at allBytes
      cases parsed : GoString.splitHostPort addr with
      | error err => simp [parsed, Except.toOption] at isHost
      | ok hostPort =>
          simp only [parsed, Except.toOption, Option.map_some, Option.some.injEq] at isHost
          simp only [parsed, List.all_eq_true] at allBytes
          exact allBytes b (isHost ▸ member)

theorem natTypeText_suffixFree : SuffixFree natTypeText := by
  intro i j ends
  cases i <;> cases j <;> first | rfl | exact absurd ends (by decide)

theorem behaviorText_suffixFree : SuffixFree behaviorText := by
  intro i j ends
  cases i <;> cases j <;> first | rfl | exact absurd ends (by decide)

theorem formatBool_suffixFree : SuffixFree formatBool := by
  intro i j ends
  cases i <;> cases j <;> first | rfl | exact absurd ends (by decide)

/-- The features of the last peer are read off the end of the text. -/
theorem split_features {x y : GoString} {f g : NatFeature}
    (same : x ++ natTypeText f.natType ++ behaviorText f.behavior ++
        formatBool f.regularPortsChange =
      y ++ natTypeText g.natType ++ behaviorText g.behavior ++ formatBool g.regularPortsChange) :
    x = y ∧ Alike f g := by
  obtain ⟨same, regular⟩ := formatBool_suffixFree.split same
  obtain ⟨same, behavior⟩ := behaviorText_suffixFree.split same
  obtain ⟨same, natType⟩ := natTypeText_suffixFree.split same
  exact ⟨same, natType, behavior, regular⟩

/-- The two spellings of a flag end in a letter that no address has, and in one. -/
theorem formatBool_mark (b : Bool) : ∃ stem mark, formatBool b = stem ++ mark :: [101] ∧
    ¬ ipByte mark = true := by
  cases b with
  | true => exact ⟨GoString.lit "tr", 117, by decide, by decide⟩
  | false => exact ⟨GoString.lit "fal", 115, by decide, by decide⟩

/-- An address literal behind a flag ends where the flag does. -/
theorem split_literal {x y ip ip' : GoString} {b b' : Bool} (literal : ∀ c ∈ ip, ipByte c = true)
    (literal' : ∀ c ∈ ip', ipByte c = true)
    (same : x ++ formatBool b ++ ip = y ++ formatBool b' ++ ip') :
    x ++ formatBool b = y ++ formatBool b' := by
  obtain ⟨stem, mark, text, outside⟩ := formatBool_mark b
  obtain ⟨stem', mark', text', outside'⟩ := formatBool_mark b'
  rw [text, text'] at same ⊢
  have parts : (x ++ stem) ++ mark :: (101 :: ip) = (y ++ stem') ++ mark' :: (101 :: ip') := by
    simpa using same
  have within : ∀ {l : GoString}, (∀ c ∈ l, ipByte c = true) →
      ∀ c ∈ (101 :: l : GoString), ipByte c = true := by
    intro l all c member
    rcases List.mem_cons.1 member with rfl | member
    · decide
    · exact all c member
  obtain ⟨front, rfl, -⟩ := last_mark (p := fun c => ipByte c = true) outside outside'
    (within literal) (within literal') parts
  rw [← List.append_assoc, ← List.append_assoc, front]

theorem keyText_eq (vm : PeerMsg) (v : NatFeature) (cm : PeerMsg) (c : NatFeature) :
    keyText vm v cm c =
      (firstIP vm.mappedAddrs ++ natTypeText v.natType ++ behaviorText v.behavior ++
          formatBool v.regularPortsChange ++ firstIP cm.mappedAddrs) ++
        natTypeText c.natType ++ behaviorText c.behavior ++ formatBool c.regularPortsChange := by
  simp only [keyText, peerText, List.append_assoc]

/-- **With address literals a key determines type, behaviour and port regularity of both
sides.** -/
theorem keyText_injective {vm vm' cm cm' : PeerMsg} {v v' c c' : NatFeature}
    (literal : cm.Literal) (literal' : cm'.Literal)
    (same : keyText vm v cm c = keyText vm' v' cm' c') : Alike v v' ∧ Alike c c' := by
  rw [keyText_eq, keyText_eq] at same
  obtain ⟨front, alikeC⟩ := split_features same
  have visitor := split_literal (firstIP_literal literal) (firstIP_literal literal') front
  exact ⟨(split_features visitor).2, alikeC⟩

/-! ## Runs -/

theorem Suits.congr {c c' v v' : NatFeature} {l : List (Nat × Nat)} (suits : Suits c v l)
    (alikeC : Alike c c') (alikeV : Alike v v') : Suits c' v' l := by
  have same : admissibleModes c v = admissibleModes c' v' := by
    unfold admissibleModes
    rw [alikeC.natType, alikeV.natType, alikeC.regular, alikeV.regular]
  exact ⟨suits.nonempty, same ▸ suits.entry⟩

/-- The record at this pointer suits the features. -/
def RecordSuits (objects : List MakeHoleRecords) (records : Nat) (c v : NatFeature) : Prop :=
  ∃ mhr, objects[records]? = some mhr ∧ Suits c v (behaviors mhr)

/-- Every record is one of a session with its key, whose features it suits; a call holds
one that suits its own. -/
structure Inv (md5 : GoString → GoString) (s : State) : Prop where
  records : ∀ key records, s.records.get key = some records →
    ∃ cm vm c v, PeerMsg.Literal cm ∧ key = md5 (keyText vm v cm c) ∧
      RecordSuits s.objects records c v
  calls : ∀ call ∈ s.calls, RecordSuits s.objects call.records call.c call.v
  returned : ∀ r ∈ s.returned, Suitable r

variable {md5 : GoString → GoString} {s t : State}

theorem RecordSuits.append {objects more : List MakeHoleRecords} {records : Nat} {c v : NatFeature}
    (suits : RecordSuits objects records c v) : RecordSuits (objects ++ more) records c v := by
  obtain ⟨mhr, found, entries⟩ := suits
  refine ⟨mhr, ?_, entries⟩
  rw [List.getElem?_append_left (List.getElem?_eq_some_iff.1 found).1]
  exact found

/-- A call on a record keeps its behaviours, and so what every record suits. -/
theorem RecordSuits.set {objects : List MakeHoleRecords} {k records : Nat} {c v : NatFeature}
    {mhr after : MakeHoleRecords} (found : objects[k]? = some mhr)
    (same : behaviors after = behaviors mhr) (suits : RecordSuits objects records c v) :
    RecordSuits (objects.set k after) records c v := by
  obtain ⟨old, foundOld, entries⟩ := suits
  by_cases here : k = records
  · subst here
    rw [found] at foundOld
    cases foundOld
    have within := (List.getElem?_eq_some_iff.1 found).1
    exact ⟨after, by rw [List.getElem?_set_self within], same ▸ entries⟩
  · exact ⟨old, by rw [List.getElem?_set_ne here]; exact foundOld, entries⟩

namespace Inv

theorem start (dataReserveDuration : Int) : Inv md5 (newAnalyzer dataReserveDuration) where
  records := by simp [newAnalyzer]
  calls := by simp [newAnalyzer]
  returned := by simp [newAnalyzer]

/-- Only the objects change, and keep their behaviours. -/
theorem set_object (inv : Inv md5 s) {k : Nat} {mhr after : MakeHoleRecords}
    (found : s.objects[k]? = some mhr) (same : behaviors after = behaviors mhr) :
    Inv md5 { s with objects := s.objects.set k after } where
  records key records entry := by
    obtain ⟨cm, vm, c, v, literal, isKey, suits⟩ := inv.records key records entry
    exact ⟨cm, vm, c, v, literal, isKey, suits.set found same⟩
  calls call member := (inv.calls call member).set found same
  returned := inv.returned

theorem getRecords (injective : Function.Injective md5) (inv : Inv md5 s) {cm vm : PeerMsg}
    {c v : NatFeature} (literal : cm.Literal) (now : Int) :
    Inv md5 (s.getRecords (md5 (keyText vm v cm c)) c v now) := by
  unfold State.getRecords
  split
  · rename_i records entry
    obtain ⟨cm', vm', c', v', literal', isKey, suits⟩ := inv.records _ records entry
    -- the key of the session that made the record is this one's
    obtain ⟨alikeV, alikeC⟩ := keyText_injective literal' literal (injective isKey).symm
    refine { inv with calls := ?_ }
    intro call member
    rcases List.mem_append.1 member with old | new
    · exact inv.calls call old
    · rw [List.mem_singleton.1 new]
      obtain ⟨mhr, found, entries⟩ := suits
      exact ⟨mhr, found, entries.congr alikeC alikeV⟩
  · have fresh : RecordSuits (s.objects ++ [newMakeHoleRecords c v now]) s.objects.length c v :=
      ⟨_, List.getElem?_concat_length, newMakeHoleRecords_suits c v now⟩
    refine { records := ?_, calls := ?_, returned := inv.returned }
    · intro key records entry
      rcases GoMap.get_set_eq_some.1 entry with ⟨rfl, rfl⟩ | ⟨-, old⟩
      · exact ⟨cm, vm, c, v, literal, rfl, fresh⟩
      · obtain ⟨cm', vm', c', v', literal', isKey, suits⟩ := inv.records key records old
        exact ⟨cm', vm', c', v', literal', isKey, suits.append⟩
    · intro call member
      rcases List.mem_append.1 member with old | new
      · exact (inv.calls call old).append
      · rw [List.mem_singleton.1 new]
        exact fresh

theorem analysis (injective : Function.Injective md5) (inv : Inv md5 s) {cm vm : PeerMsg}
    (literal : cm.Literal) (now : Int) : Inv md5 (s.analysis md5 cm vm now) := by
  unfold State.analysis
  split
  · exact inv.getRecords injective literal now
  · exact inv

theorem recommand (inv : Inv md5 s) {i : Nat} {now : Int} (next : s.recommand i now = some t) :
    Inv md5 t := by
  unfold State.recommand at next
  simp only [Option.bind_eq_bind, Option.bind_eq_some_iff, Option.some.injEq] at next
  obtain ⟨call, isCall, mhr, found, rfl⟩ := next
  have member : call ∈ s.calls := List.mem_of_getElem? isCall
  have kept := inv.set_object found (recommand_behaviors mhr now)
  refine { kept with
    calls := fun other inside => kept.calls other (List.mem_of_mem_eraseIdx inside)
    returned := ?_ }
  intro r inside
  rcases List.mem_append.1 inside with old | new
  · exact inv.returned r old
  · rw [List.mem_singleton.1 new]
    obtain ⟨mhr', found', suits⟩ := inv.calls call member
    rw [found] at found'
    cases found'
    obtain ⟨among, below⟩ := suits.entry _ (recommand_mem suits.scores_nonempty now)
    exact assignBehaviors_suitable among below

theorem report (inv : Inv md5 s) (key : GoString) (mode index : Nat) :
    Inv md5 (s.report key mode index) := by
  unfold State.report
  split
  · exact inv
  · exact { inv with }

theorem reportSuccess (inv : Inv md5 s) {i : Nat} {now : Int}
    (next : s.reportSuccess i now = some t) : Inv md5 t := by
  unfold State.reportSuccess at next
  simp only [Option.bind_eq_bind, Option.bind_eq_some_iff, Option.some.injEq] at next
  obtain ⟨report, -, mhr, found, rfl⟩ := next
  exact { inv.set_object found (reportSuccess_behaviors mhr report.mode report.index now) with }

/-- The loop of `Clean` takes entries out and adds none. -/
theorem clean_get {now : Int} {order : List GoString} {m : GoMap GoString Nat} {key : GoString}
    {records : Nat} (left : (order.foldl (s.cleanKey now) m).get key = some records) :
    m.get key = some records := by
  induction order generalizing m with
  | nil => exact left
  | cons first rest ih =>
      have after := ih left
      unfold State.cleanKey at after
      split at after
      · exact after
      · split at after
        · exact (GoMap.get_delete_eq_some.1 after).2
        · exact after

theorem clean (inv : Inv md5 s) {now : Int} {order : List GoString}
    (next : s.clean now order = some t) : Inv md5 t := by
  unfold State.clean at next
  split at next
  · cases next
    exact { inv with records := fun key records left => inv.records key records (clean_get left) }
  · cases next

end Inv

/-- The mapped hosts of the client of a session are address literals. -/
def Label.Literal : Label → Prop
  | .analysis cm _ _ => cm.Literal
  | _ => True

instance : DecidablePred Label.Literal
  | .analysis cm _ _ =>
      inferInstanceAs (Decidable (∀ addr ∈ cm.mappedAddrs, literalHost addr = true))
  | .recommand _ _ | .report _ _ _ | .reportSuccess _ _ | .clean _ _ => isTrue trivial

theorem Inv.step (injective : Function.Injective md5) (inv : Inv md5 s) {l : Label}
    (literal : l.Literal) (next : s.step md5 l = some t) : Inv md5 t := by
  cases l with
  | analysis cm vm now =>
      cases next
      exact inv.analysis injective literal now
  | recommand i now => exact inv.recommand next
  | report key mode index =>
      cases next
      exact inv.report key mode index
  | reportSuccess i now => exact inv.reportSuccess next
  | clean now order => exact inv.clean next

/-- **Whatever sessions, reports and cleanings came before, what is recommended suits the
two features.** -/
theorem recommendations_suit (injective : Function.Injective md5) (dataReserveDuration : Int)
    {ls : List Label} (literal : ∀ l ∈ ls, l.Literal)
    (run : exec (State.step md5) (newAnalyzer dataReserveDuration) ls = some s) :
    ∀ r ∈ s.returned, Suitable r := by
  have kept : ∀ s l t, Inv md5 s → l.Literal → s.step md5 l = some t → Inv md5 t := by
    intro s l t inv good next
    exact inv.step injective good next
  have inv : Inv md5 s := invariant_of_along (Inv md5) kept (.start dataReserveDuration)
    (along_of_labels literal _) run
  exact inv.returned

/-- Two sessions of one pair of peers, the first of which reports success. -/
def pairRun : List Label :=
  [.analysis ⟨[.lit "192.0.2.1:4000", .lit "192.0.2.1:4003"], []⟩
    ⟨[.lit "192.0.2.7:50", .lit "192.0.2.7:50"], []⟩ 0,
   .recommand 0 1,
   .report (.lit "192.0.2.7EasyNATBehaviorNoChangefalse192.0.2.1HardNATBehaviorPortChangedtrue") 1 0,
   .analysis ⟨[.lit "192.0.2.1:4100", .lit "192.0.2.1:4105"], []⟩
    ⟨[.lit "192.0.2.7:50", .lit "192.0.2.7:50"], []⟩ 2,
   .reportSuccess 0 3,
   .recommand 0 4]

theorem recommendations_suit_pairRun :
    ∃ s : State, exec (State.step id) (newAnalyzer 60) pairRun = some s ∧
      s.returned.map (fun r => (r.mode, r.index)) = [(1, 0), (1, 0)] ∧
      ∀ r ∈ s.returned, Suitable r := by
  have shown : (exec (State.step id) (newAnalyzer 60) pairRun).map
      (fun s => s.returned.map fun r => (r.mode, r.index)) = some [(1, 0), (1, 0)] := by
    decide +kernel
  obtain ⟨s, run, modes⟩ := Option.map_eq_some_iff.1 shown
  exact ⟨s, run, modes,
    recommendations_suit (fun _ _ same => same) 60 (by decide +kernel) run⟩

end ChmlFrp.Nathole.Analyzer
