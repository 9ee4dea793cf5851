/-
# ChmlFrp.Lib.Rows — a text as a list of trimmed rows

Programs that edit settings line by line split a text at its newlines, trim each row,
drop or add rows and join what is left.  `rows` is the first half of that; `rows_join`
says that it takes the second half back, and `Row` what a row is after it.
-/
import ChmlFrp.Lib.Decimal

namespace ChmlFrp.Lib

set_option autoImplicit false

namespace GoString

def newline : UInt8 := 10

/-- The rows of a text, trimmed. -/
def rows (s : GoString) : List GoString := (split s newline).map trimSpace

/-- What can stand in a list of rows. -/
structure Row (row : GoString) : Prop where
  oneLine : newline ∉ row
  trimmed : trimSpace row = row

variable {s row : GoString}

theorem notMem_trimSpace {b : UInt8} (absent : b ∉ s) : b ∉ trimSpace s := by
  obtain ⟨before, after, -, -, whole⟩ := exists_blank_trimSpace s
  intro mem
  apply absent
  rw [whole]
  simp [mem]

theorem row_of_mem_rows (mem : row ∈ rows s) : Row row := by
  obtain ⟨part, inside, rfl⟩ := List.mem_map.1 mem
  exact ⟨notMem_trimSpace (notMem_of_mem_split inside), trimSpace_trimSpace⟩

@[simp] theorem rows_nil : rows [] = [[]] := by decide +kernel

/-- Rows that are joined are found again. -/
theorem rows_join {l : List GoString} (all : ∀ row ∈ l, Row row) (some_ : l ≠ []) :
    rows (join l newline) = l := by
  unfold rows join split
  rw [List.splitOn_intercalate newline (fun row mem => (all row mem).oneLine) some_]
  calc l.map trimSpace = l.map id := List.map_congr_left fun row mem => (all row mem).trimmed
    _ = l := List.map_id l

theorem filter_rows_join {l : List GoString} (all : ∀ row ∈ l, Row row) {p : GoString → Bool}
    (empty : p [] = false) : (rows (join l newline)).filter p = l.filter p := by
  by_cases none_ : l = []
  · subst none_
    have nothing : join ([] : List GoString) newline = [] := rfl
    simp [nothing, empty]
  · rw [rows_join all none_]

/-- Only rows without a byte are joined to the empty text. -/
theorem join_eq_nil {l : List GoString} (empty : join l newline = []) : l = [] ∨ l = [[]] := by
  cases l with
  | nil => exact .inl rfl
  | cons row l =>
      cases l with
      | nil =>
          have same : join [row] newline = row := List.intercalate_singleton
          exact .inr (by rw [← same, empty])
      | cons next l =>
          have whole : join (row :: next :: l) newline =
              row ++ [newline] ++ join (next :: l) newline := List.intercalate_cons_cons
          rw [whole] at empty
          simp at empty

end GoString

end ChmlFrp.Lib
