/-
# ChmlFrp.Client.AdminApi — the token behind the configuration API

`GET /api/config` and `PUT /api/config` of `client/admin_api.go`.  The first one gives out
the configuration file without its token row, the second one writes a new file and puts
the token row of the old one behind its `[common]` row.

* `put_rows`: what a PUT leaves in the file, by the rows of its body and the token row;
* `good_iff`: a call goes wrong exactly when it brings a `[common]` row after the token is
  gone, or reads a file that is rendered to other rows;
* `admin_api_protects_iff`: so the token is protected in a run of calls exactly if the file
  had one `[common]` row, no PUT with such a row comes after one without, and every file
  that is read is rendered to its own rows.
-/
import ChmlFrp.Lib.Rows
import ChmlFrp.Lib.Transition

namespace ChmlFrp.Client.AdminApi

set_option autoImplicit false

open ChmlFrp.Lib
open ChmlFrp.Lib.GoString
open ChmlFrp.Lib.Transition

/-! ## The two handlers -/

structure GeneralResponse where
  code : Nat := 200
  msg : GoString := []
  deriving DecidableEq, Repr

def isToken (row : GoString) : Bool := (lit "token").isPrefixOf row

def isCommon (row : GoString) : Bool := (lit "[common]").isPrefixOf row

/-- Templates are executed by a library: what it makes of a file, or its error. -/
abbrev RenderContent := GoString → Except GoString GoString

/-- `config.GetRenderedConfFromFile` -/
def getRenderedConfFromFile (renderContent : RenderContent) (file : Except GoString GoString) :
    Except GoString GoString := do
  let b ← file
  renderContent b

/-- The rows without those of a token. -/
def withoutToken (content : GoString) : List GoString :=
  (rows content).filter fun row => !isToken row

/-- GET /api/config -/
def apiGetConfig (renderContent : RenderContent) (cfgFile : GoString)
    (file : Except GoString GoString) : GeneralResponse :=
  if cfgFile = [] then { code := 400, msg := lit "frpc has no config file path" }
  else
    match getRenderedConfFromFile renderContent file with
    | .error err => { code := 400, msg := err }
    | .ok content => { msg := join (withoutToken content) newline }

/-- The token row behind every row that begins the common section. -/
def insertToken (token : GoString) (tmpRows : List GoString) : List GoString :=
  tmpRows.flatMap fun row => if isCommon row then [row, token] else [row]

/-- PUT /api/config: the response, and what is written to the file.  `body` and `file` are
what is read, `written` is the error of the write. -/
def apiPutConfig (body file : Except GoString GoString) (written : Option GoString) :
    GeneralResponse × Option GoString :=
  match body with
  | .error err => ({ code := 400, msg := lit "read request body error: " ++ err }, none)
  | .ok body =>
      if body.length = 0 then ({ code := 400, msg := lit "body can't be empty" }, none)
      else
        match file with
        | .error err => ({ code := 400, msg := err }, none)
        | .ok content =>
            let token := ((rows content).find? isToken).getD []
            let tmpRows := withoutToken body
            let newRows := if token ≠ [] then insertToken token tmpRows else tmpRows
            let content := join newRows newline
            match written with
            | some err =>
                ({ code := 500, msg := lit "write content to frpc config file error: " ++ err },
                  some content)
            | none => ({}, some content)

/-! ## Calls one after the other -/

inductive Call where
  | get
  | put (body : GoString)
  deriving DecidableEq, Repr

/-- The file after a PUT. -/
def put (file body : GoString) : GoString :=
  (apiPutConfig (.ok body) (.ok file) none).2.getD file

def step (file : GoString) : Call → Option GoString
  | .get => some file
  | .put body => some (put file body)

/-- The rows of a token. -/
def tokens (content : GoString) : List GoString := (rows content).filter isToken

/-- How many rows begin the common section. -/
def commons (content : GoString) : Nat := (rows content).countP isCommon

/-- Up to blanks around the rows and to the places of the token rows. -/
def Same (file other : GoString) : Prop :=
  withoutToken file = withoutToken other ∧ tokens file = tokens other

instance (file other : GoString) : Decidable (Same file other) := instDecidableAnd

section Protects

variable (renderContent : RenderContent) (cfgFile : GoString)

/-- The answer to a GET. -/
def answer (file : GoString) : GeneralResponse := apiGetConfig renderContent cfgFile (.ok file)

/-- What a call does for the token `token` of the first file. -/
structure Protects (token file : GoString) (call : Call) (next : GoString) : Prop where
  hidden : call = .get → tokens (answer renderContent cfgFile file).msg = []
  entered : ∀ body, call = .put body → ∀ row ∈ tokens next, row = token
  carried : ∀ body, call = .put body → 0 < commons body → token ∈ tokens next
  /-- What a GET has answered can be put back. -/
  putBack : (answer renderContent cfgFile file).code = 200 →
    Same (put file (answer renderContent cfgFile file).msg) file

/-- The file is rendered to its own rows, or to none, or a GET shows an error without a token
row. -/
def Renders (file : GoString) (call : Call) : Prop :=
  match renderContent file with
  | .ok content =>
      withoutToken content = withoutToken file ∨ join (withoutToken content) newline = []
  | .error err => call = .get → tokens err = []

end Protects

/-- A PUT whose body has no row that begins the common section. -/
def Drops (call : Call) : Prop := ∃ body, call = .put body ∧ body ≠ [] ∧ commons body = 0

/-- A PUT whose body has one. -/
def Carries (call : Call) : Prop := ∃ body, call = .put body ∧ 0 < commons body

/-- The header of the common section: no bracket comes after the one that closes it. -/
def IsCommonHeader (row : GoString) : Prop :=
  ∃ rest, row = lit "[common]" ++ rest ∧ closeBracket ∉ rest

/-- A file without templates whose only token row is in its common section. -/
structure Start (file token : GoString) : Prop where
  templateFree : contains file (lit "\x7b\x7b") = false
  only : tokens file = [token]
  inCommon : ∃ before header between row after,
    split file newline = before ++ header :: (between ++ row :: after) ∧
      IsCommonHeader (trimSpace header) ∧ trimSpace row = token ∧
      ∀ other ∈ between, (trimSpace other).head? ≠ some openBracket

/-! ## The rows of a file -/

theorem isToken_of_isCommon {row : GoString} (common : isCommon row = true) :
    isToken row = false := by
  obtain ⟨rest, rfl⟩ := List.isPrefixOf_iff_prefix.1 common
  rfl

theorem ne_nil_of_isToken {row : GoString} (token : isToken row = true) : row ≠ [] := by
  rintro rfl
  cases token

theorem mem_withoutToken {content row : GoString} :
    row ∈ withoutToken content ↔ row ∈ rows content ∧ isToken row = false := by
  simp [withoutToken]

theorem row_of_mem_withoutToken {content : GoString} :
    ∀ row ∈ withoutToken content, Row row :=
  fun _ mem => row_of_mem_rows (mem_withoutToken.1 mem).1

/-- The rows that begin the common section are none of a token. -/
theorem countP_isCommon_filter (l : List GoString) :
    (l.filter fun row => !isToken row).countP isCommon = l.countP isCommon := by
  rw [List.countP_filter]
  apply List.countP_congr
  intro row _
  cases common : isCommon row with
  | false => simp
  | true => simp [isToken_of_isCommon common]

theorem commons_eq (content : GoString) :
    commons content = (withoutToken content).countP isCommon :=
  (countP_isCommon_filter (rows content)).symm

theorem commons_nil : commons [] = 0 := by decide +kernel

section Insert

variable {token : GoString} (isTok : isToken token = true) {l : List GoString}

include isTok

theorem filter_isToken_insertToken (kept : ∀ row ∈ l, isToken row = false) :
    (insertToken token l).filter isToken = List.replicate (l.countP isCommon) token := by
  induction l with
  | nil => rfl
  | cons row l ih =>
      obtain ⟨first, rest⟩ := List.forall_mem_cons.1 kept
      have later := ih rest
      unfold insertToken at later ⊢
      rw [List.flatMap_cons, List.filter_append, later, List.countP_cons]
      cases common : isCommon row with
      | false => simp [first]
      | true => simp [first, isTok, List.replicate_succ]

theorem filter_not_isToken_insertToken (kept : ∀ row ∈ l, isToken row = false) :
    (insertToken token l).filter (fun row => !isToken row) = l := by
  induction l with
  | nil => rfl
  | cons row l ih =>
      obtain ⟨first, rest⟩ := List.forall_mem_cons.1 kept
      have later := ih rest
      unfold insertToken at later ⊢
      rw [List.flatMap_cons, List.filter_append, later]
      cases common : isCommon row with
      | false => simp [first]
      | true => simp [first, isTok]

end Insert

theorem row_of_mem_insertToken {token : GoString} (rowTok : Row token) {l : List GoString}
    (all : ∀ row ∈ l, Row row) : ∀ row ∈ insertToken token l, Row row := by
  intro row mem
  obtain ⟨other, inside, mem⟩ := List.mem_flatMap.1 mem
  split at mem
  · rcases List.mem_cons.1 mem with rfl | mem
    · exact all row inside
    · exact List.mem_singleton.1 mem ▸ rowTok
  · exact List.mem_singleton.1 mem ▸ all other inside

/-! ## What a PUT leaves -/

@[simp] theorem put_nil (file : GoString) : put file [] = file := rfl

theorem put_of_none {file body : GoString} (none_ : tokens file = []) (some_ : body ≠ []) :
    put file body = join (withoutToken body) newline := by
  have absent : (rows file).find? isToken = none := by
    rw [← List.head?_filter]
    exact congrArg List.head? none_
  simp [put, apiPutConfig, some_, absent]

theorem put_of_some {file body token : GoString} (first : (tokens file).head? = some token)
    (some_ : body ≠ []) :
    put file body = join (insertToken token (withoutToken body)) newline := by
  have found : (rows file).find? isToken = some token := by
    rw [← List.head?_filter]
    exact first
  have isTok : token ≠ [] := ne_nil_of_isToken (List.find?_some found)
  simp [put, apiPutConfig, some_, found, isTok]

/-- The rows of a text that is joined, with the empty text aside. -/
theorem withoutToken_join {l : List GoString} (all : ∀ row ∈ l, Row row) (some_ : l ≠ []) :
    withoutToken (join l newline) = l.filter fun row => !isToken row := by
  rw [withoutToken, rows_join all some_]

theorem tokens_join {l : List GoString} (all : ∀ row ∈ l, Row row) :
    tokens (join l newline) = l.filter isToken :=
  filter_rows_join all rfl

theorem commons_join {l : List GoString} (all : ∀ row ∈ l, Row row) :
    commons (join l newline) = l.countP isCommon := by
  unfold commons
  rw [List.countP_eq_length_filter, List.countP_eq_length_filter, filter_rows_join all rfl]

theorem insertToken_ne_nil {token : GoString} {l : List GoString} (some_ : l ≠ []) :
    insertToken token l ≠ [] := by
  obtain ⟨row, l, rfl⟩ := List.exists_cons_of_ne_nil some_
  unfold insertToken
  rw [List.flatMap_cons]
  split <;> simp

/-- The file holds its token row once behind every row that begins the common section. -/
def Balanced (token file : GoString) : Prop :=
  tokens file = List.replicate (commons file) token

/-- What is put is written, with the token rows that the file has a token for. -/
structure Put (token file body next : GoString) : Prop where
  tokens : tokens next = List.replicate (if tokens file = [] then 0 else commons body) token
  commons : commons next = commons body
  others : withoutToken body ≠ [] → withoutToken next = withoutToken body

theorem put_spec {token file body : GoString} (first : ∀ row ∈ tokens file, row = token)
    (some_ : body ≠ []) : Put token file body (put file body) := by
  have all : ∀ row ∈ withoutToken body, Row row := row_of_mem_withoutToken
  have kept : ∀ row ∈ withoutToken body, isToken row = false :=
    fun row mem => (mem_withoutToken.1 mem).2
  have clear : (withoutToken body).filter isToken = [] :=
    List.filter_eq_nil_iff.2 fun row mem => by simp [kept row mem]
  have whole : (withoutToken body).filter (fun row => !isToken row) = withoutToken body :=
    List.filter_eq_self.2 fun row mem => by simp [kept row mem]
  cases held : AdminApi.tokens file with
  | nil =>
      rw [put_of_none held some_]
      refine ⟨?_, ?_, ?_⟩
      · rw [tokens_join all, clear, held]
        rfl
      · rw [commons_join all, commons_eq]
      · intro row
        rw [withoutToken_join all row, whole]
  | cons row rest =>
      have same : row = token := first row (by simp [held])
      subst same
      have mem : row ∈ AdminApi.tokens file := by simp [held]
      have isTok : isToken row = true := (List.mem_filter.1 mem).2
      have rowTok : Row row := row_of_mem_rows (List.mem_filter.1 mem).1
      have inserted := row_of_mem_insertToken rowTok all
      have head : (AdminApi.tokens file).head? = some row := by rw [held]; rfl
      rw [put_of_some head some_]
      refine ⟨?_, ?_, ?_⟩
      · rw [tokens_join inserted, filter_isToken_insertToken isTok kept, ← commons_eq, held]
        simp
      · rw [commons_join inserted, ← countP_isCommon_filter,
          filter_not_isToken_insertToken isTok kept, commons_eq]
      · intro more
        rw [withoutToken_join inserted (insertToken_ne_nil more),
          filter_not_isToken_insertToken isTok kept]

theorem Balanced.first {token file : GoString} (balanced : Balanced token file) :
    ∀ row ∈ tokens file, row = token := by
  intro row mem
  rw [balanced] at mem
  exact List.eq_of_mem_replicate mem

theorem Balanced.lost_iff {token file : GoString} (balanced : Balanced token file) :
    tokens file = [] ↔ commons file = 0 := by
  rw [balanced, List.replicate_eq_nil_iff]

theorem Balanced.tokens_put {token file body : GoString} (balanced : Balanced token file)
    (some_ : body ≠ []) : tokens (put file body) =
      List.replicate (if commons file = 0 then 0 else commons body) token := by
  simp only [(put_spec balanced.first some_).tokens, balanced.lost_iff]

section Calls

variable {renderContent : RenderContent} {cfgFile token file next : GoString} {call : Call}

/-- The file has no row that begins the common section after a PUT without one, and as long
as none brings such a row. -/
theorem commons_next (taken : step file call = some next) :
    commons next = 0 ↔ Drops call ∨ commons file = 0 ∧ ¬ Carries call := by
  cases call with
  | get =>
      cases taken
      simp [Drops, Carries]
  | put body =>
      cases taken
      by_cases empty : body = []
      · subst empty
        simp [Drops, Carries, commons_nil]
      · have after : commons (put file body) = commons body := by
          cases held : (tokens file).head? with
          | none =>
              rw [put_of_none (List.head?_eq_none_iff.1 held) empty,
                commons_join row_of_mem_withoutToken, commons_eq]
          | some row =>
              have mem : row ∈ tokens file := List.mem_of_head? held
              have isTok : isToken row = true := (List.mem_filter.1 mem).2
              have rowTok : Row row := row_of_mem_rows (List.mem_filter.1 mem).1
              rw [put_of_some held empty,
                commons_join (row_of_mem_insertToken rowTok row_of_mem_withoutToken),
                ← countP_isCommon_filter, filter_not_isToken_insertToken isTok
                  fun row mem => (mem_withoutToken.1 mem).2, commons_eq]
        simp only [after, Drops, Carries, Call.put.injEq, exists_eq_left', empty, ne_eq,
          not_false_eq_true, true_and]
        omega

theorem Balanced.after (balanced : Balanced token file) (taken : step file call = some next)
    (held : commons file = 0 → ¬ Carries call) : Balanced token next := by
  cases call with
  | get =>
      cases taken
      exact balanced
  | put body =>
      cases taken
      by_cases empty : body = []
      · subst empty
        exact balanced
      · unfold Balanced
        rw [balanced.tokens_put empty, (put_spec balanced.first empty).commons]
        split
        · rename_i lost
          have none_ : commons body = 0 := by
            by_contra some_
            exact held lost ⟨body, rfl, Nat.pos_of_ne_zero some_⟩
          rw [none_]
        · rfl

/-- The text of a GET can be put back if its rows are those of the file, or if there are
none. -/
theorem Balanced.same_put_iff (balanced : Balanced token file) (content : GoString) :
    Same (put file (join (withoutToken content) newline)) file ↔
      withoutToken content = withoutToken file ∨ join (withoutToken content) newline = [] := by
  by_cases empty : join (withoutToken content) newline = []
  · simp [empty, Same]
  · have some_ : withoutToken content ≠ [] := by
      intro none_
      rw [none_] at empty
      exact empty rfl
    have kept : withoutToken (join (withoutToken content) newline) = withoutToken content := by
      rw [withoutToken_join row_of_mem_withoutToken some_]
      exact List.filter_eq_self.2 fun row mem => by simp [(mem_withoutToken.1 mem).2]
    have count : commons (join (withoutToken content) newline) = commons content := by
      rw [commons_eq, kept, commons_eq]
    have others := (put_spec balanced.first empty).others (by rw [kept]; exact some_)
    rw [Same, balanced.tokens_put empty, others, kept, count]
    simp only [empty, or_false, and_iff_left_iff_imp]
    intro same
    have alike : commons content = commons file := by
      rw [commons_eq, same, commons_eq]
    rw [balanced, alike]
    split
    · rename_i lost
      rw [lost]
    · rfl

theorem Balanced.entered (balanced : Balanced token file) (body : GoString) :
    ∀ row ∈ tokens (put file body), row = token := by
  by_cases empty : body = []
  · subst empty
    exact balanced.first
  · intro row mem
    rw [balanced.tokens_put empty] at mem
    exact List.eq_of_mem_replicate mem

theorem Balanced.carried_iff (balanced : Balanced token file) {body : GoString}
    (brings : 0 < commons body) : token ∈ tokens (put file body) ↔ commons file ≠ 0 := by
  have some_ : body ≠ [] := by
    rintro rfl
    simp [commons_nil] at brings
  rw [balanced.tokens_put some_]
  split
  · rename_i lost
    simp [lost]
  · rename_i held
    simp [held, brings.ne']

/-- A call protects the token exactly if it brings no row for a token that is gone, and
reads a file that is rendered to its own rows. -/
theorem Balanced.protects_iff (named : cfgFile ≠ []) (balanced : Balanced token file)
    (taken : step file call = some next) :
    Protects renderContent cfgFile token file call next ↔
      Renders renderContent file call ∧ (commons file = 0 → ¬ Carries call) := by
  have carries : (∀ body, call = .put body → 0 < commons body → token ∈ tokens next) ↔
      (commons file = 0 → ¬ Carries call) := by
    constructor
    · rintro carried lost ⟨body, rfl, brings⟩
      cases taken
      exact (balanced.carried_iff brings).1 (carried body rfl brings) lost
    · rintro held body rfl brings
      cases taken
      exact (balanced.carried_iff brings).2 fun lost => held lost ⟨body, rfl, brings⟩
  have entered : ∀ body, call = .put body → ∀ row ∈ tokens next, row = token := by
    rintro body rfl
    cases taken
    exact balanced.entered body
  cases rendered : renderContent file with
  | ok content =>
      have shown : answer renderContent cfgFile file =
          { msg := join (withoutToken content) newline } := by
        simp [answer, apiGetConfig, named, getRenderedConfFromFile, rendered, bind, Except.bind]
      have hidden : tokens (join (withoutToken content) newline) = [] := by
        rw [tokens_join row_of_mem_withoutToken]
        exact List.filter_eq_nil_iff.2 fun row mem => by simp [(mem_withoutToken.1 mem).2]
      have back := balanced.same_put_iff content
      constructor
      · intro good
        refine ⟨?_, carries.1 good.carried⟩
        have same := good.putBack (by rw [shown])
        rw [shown] at same
        simpa [Renders, rendered] using back.1 same
      · rintro ⟨renders, held⟩
        refine ⟨fun _ => by rw [shown]; exact hidden, entered, carries.2 held, fun _ => ?_⟩
        rw [shown]
        exact back.2 (by simpa [Renders, rendered] using renders)
  | error err =>
      have shown : answer renderContent cfgFile file = { code := 400, msg := err } := by
        simp [answer, apiGetConfig, named, getRenderedConfFromFile, rendered, bind, Except.bind]
      constructor
      · intro good
        refine ⟨?_, carries.1 good.carried⟩
        have hidden := good.hidden
        rw [shown] at hidden
        simpa [Renders, rendered] using hidden
      · rintro ⟨renders, held⟩
        refine ⟨?_, entered, carries.2 held, ?_⟩
        · rw [shown]
          simpa [Renders, rendered] using renders
        · rw [shown]
          intro fine
          cases fine

/-! ## Runs of calls -/

theorem Balanced.along_iff (named : cfgFile ≠ []) (balanced : Balanced token file)
    (calls : List Call) :
    Along step (Protects renderContent cfgFile token) file calls ↔
      calls.Pairwise (fun a b => Drops a → ¬ Carries b) ∧
        (commons file = 0 → ∀ call ∈ calls, ¬ Carries call) ∧
        Along step (fun file call _ => Renders renderContent file call) file calls := by
  induction calls generalizing file with
  | nil => simp [Along]
  | cons call calls ih =>
      obtain ⟨next, taken⟩ : ∃ next, step file call = some next := by
        cases call <;> exact ⟨_, rfl⟩
      have protects : Protects renderContent cfgFile token file call next ↔
          Renders renderContent file call ∧ (commons file = 0 → ¬ Carries call) :=
        balanced.protects_iff named taken
      have lost := commons_next taken
      rw [along_cons_of_some taken, along_cons_of_some taken, protects, List.pairwise_cons]
      constructor
      · rintro ⟨⟨renders, held⟩, later⟩
        obtain ⟨apart, gone, rest⟩ := (ih (balanced.after taken held)).1 later
        refine ⟨⟨fun b mem drops => gone (lost.2 (.inl drops)) b mem, apart⟩, ?_, renders, rest⟩
        intro none_ b mem
        rcases List.mem_cons.1 mem with rfl | mem
        · exact held none_
        · exact gone (lost.2 (.inr ⟨none_, held none_⟩)) b mem
      · rintro ⟨⟨first, apart⟩, gone, renders, rest⟩
        have held : commons file = 0 → ¬ Carries call := fun none_ =>
          gone none_ call List.mem_cons_self
        refine ⟨⟨renders, held⟩, (ih (balanced.after taken held)).2 ⟨apart, ?_, rest⟩⟩
        intro none_ b mem
        rcases lost.1 none_ with drops | ⟨before, -⟩
        · exact first b mem drops
        · exact gone before b (List.mem_cons_of_mem call mem)

end Calls

variable {renderContent : RenderContent} {cfgFile file token : GoString}

theorem Start.commons_pos (start : Start file token) : 0 < commons file := by
  obtain ⟨before, header, between, row, after, parts, ⟨rest, named, -⟩, -, -⟩ := start.inCommon
  unfold commons rows
  rw [List.countP_pos_iff]
  refine ⟨trimSpace header, List.mem_map_of_mem ?_, ?_⟩
  · rw [parts]
    simp
  · rw [named]
    exact List.isPrefixOf_iff_prefix.2 (List.prefix_append _ rest)

/-- A file with the row of the common section twice gets the token row twice. -/
theorem Start.not_same (start : Start file token) (more : commons file ≠ 1) :
    ¬ Same (put file (join (withoutToken file) newline)) file := by
  have first : ∀ row ∈ tokens file, row = token := by
    intro row mem
    rw [start.only] at mem
    exact List.mem_singleton.1 mem
  have count := commons_eq file
  have kept : withoutToken file ≠ [] := by
    intro none_
    have pos := start.commons_pos
    rw [count, none_] at pos
    cases pos
  have some_ : join (withoutToken file) newline ≠ [] := by
    intro empty
    have pos := start.commons_pos
    rcases join_eq_nil empty with none_ | blank
    · exact kept none_
    · rw [count, blank] at pos
      revert pos
      decide +kernel
  rintro ⟨-, same⟩
  rw [(put_spec first some_).tokens, start.only, if_neg (by simp),
    commons_join row_of_mem_withoutToken, ← count] at same
  have length := congrArg List.length same
  simp only [List.length_replicate, List.length_singleton] at length
  exact more length

/-- **The token is protected in a run of calls exactly if the first file has one row that
begins the common section, no body with such a row is put after one without, and every file
that is read is rendered to its own rows.** -/
theorem admin_api_protects_iff
    (plain : ∀ content, contains content (lit "\x7b\x7b") = false →
      renderContent content = .ok content)
    (named : cfgFile ≠ []) (start : Start file token) (calls : List Call) :
    Along step (Protects renderContent cfgFile token) file calls ↔
      (calls ≠ [] → commons file = 1) ∧ calls.Pairwise (fun a b => Drops a → ¬ Carries b) ∧
        Along step (fun file call _ => Renders renderContent file call) file calls := by
  by_cases one : commons file = 1
  · have balanced : Balanced token file := by
      unfold Balanced
      rw [start.only, one]
      rfl
    rw [balanced.along_iff named]
    simp [one]
  · constructor
    · intro along
      cases calls with
      | nil => simp [Along]
      | cons call calls =>
          obtain ⟨next, taken⟩ : ∃ next, step file call = some next := by
            cases call <;> exact ⟨_, rfl⟩
          have good := ((along_cons_of_some taken).1 along).1
          have shown : answer renderContent cfgFile file =
              { msg := join (withoutToken file) newline } := by
            simp [answer, apiGetConfig, named, getRenderedConfFromFile, bind, Except.bind,
              plain file start.templateFree]
          have same := good.putBack (by rw [shown])
          rw [shown] at same
          exact absurd same (start.not_same one)
    · rintro ⟨single, -, -⟩
      cases calls with
      | nil => trivial
      | cons call calls => exact absurd (single (by simp)) one

section Settings

def settings : GoString := lit "[common]\nserver_port = 7000\n token = abc \n[ssh]"

def secret : GoString := lit "token = abc"

theorem start_settings : Start settings secret where
  templateFree := by decide +kernel
  only := by decide +kernel
  inCommon := ⟨[], lit "[common]", [lit "server_port = 7000"], lit " token = abc ", [lit "[ssh]"],
    by decide +kernel, ⟨[], by decide +kernel, by simp⟩, by decide +kernel, by decide +kernel⟩

theorem settings_protected :
    Along step (Protects .ok (lit "frpc.ini") secret) settings
      [.get, .put (lit "[common]\n[web]"), .get] := by
  refine (admin_api_protects_iff (fun _ _ => rfl) (by decide) start_settings _).2 ⟨?_, ?_, ?_⟩
  · exact fun _ => by decide +kernel
  · simp [Drops, Carries]
  · exact along_of_forall (fun _ _ _ => .inl rfl) _ _

/-- A body without the row of the common section, and the token is gone for good. -/
theorem token_lost :
    Start settings secret ∧ ¬ Along step (Protects .ok (lit "frpc.ini") secret) settings
      [.put (lit "[ssh]"), .put (lit "[common]")] := by
  refine ⟨start_settings, fun along => ?_⟩
  have second := (((along_cons_of_some rfl).1 along).2 _ rfl).1
  have held := second.carried _ rfl (by decide +kernel)
  revert held
  decide +kernel

end Settings

end ChmlFrp.Client.AdminApi
