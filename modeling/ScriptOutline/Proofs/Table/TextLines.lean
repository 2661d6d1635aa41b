import Mathlib.Algebra.BigOperators.Group.List.Basic
import Mathlib.Algebra.GroupWithZero.Nat
import Mathlib.Tactic.Common
import ScriptOutline.Proofs.Text.WhiteSpace
import ScriptOutline.Table.Text

/-!
# Lines of text tables

A text table is meant to have one line for each record, below its header and its rule. Cells are
written as they are, so a line feed in a cell breaks the row that the cell stands in, and the table
has as many lines more as there are line feeds in its cells (`length_lines_write`).

Only the end of a row is different: white space there is cut off, line feeds among it. What stands
between two cells keeps that cut from going further back than the last cell, which is what the
induction over the cells of a row is about (`count_row`).
-/

namespace ScriptOutline

/-! ## Trimming -/

/-- White space is cut off the first of two texts only if nothing is left of the second. -/
theorem trimEnd_append (first second : List Char) :
    trimEnd (first ++ second) =
      if trimEnd second = [] then trimEnd first else first ++ trimEnd second := by
  unfold trimEnd
  rw [List.reverse_append, List.dropWhile_append]
  by_cases h : second.reverse.dropWhile isWhiteSpace = []
  · simp [h]
  · simp [h, List.isEmpty_iff]

/-- White space is not cut off beyond a character that is none. -/
theorem trimEnd_append_cons (first second : List Char) {c : Char} (hc : isWhiteSpace c = false) :
    trimEnd (first ++ c :: second) = first ++ c :: trimEnd second := by
  have hlast : trimEnd [c] = [c] := by simp [trimEnd, hc]
  have hcons : trimEnd (c :: second) = c :: trimEnd second := by
    have happend := trimEnd_append [c] second
    rw [hlast] at happend
    by_cases hblank : trimEnd second = []
    · rw [if_pos hblank] at happend
      rw [hblank]
      exact happend
    · rw [if_neg hblank] at happend
      exact happend
  rw [trimEnd_append, if_neg (by simp [hcons]), hcons]

theorem trimEnd_replicate (n : Nat) : trimEnd (List.replicate n ' ') = [] := by
  have hspace : isWhiteSpace ' ' = true := by decide
  simp [trimEnd, hspace]

/-- A space at the start has no line feed that could be cut off. -/
theorem count_trimEnd_space (text : List Char) :
    (trimEnd (' ' :: text)).count '\n' = (trimEnd text).count '\n' := by
  have happend := trimEnd_append [' '] text
  rw [List.singleton_append] at happend
  have hspace : trimEnd [' '] = [] := trimEnd_replicate 1
  rw [happend, hspace]
  split
  · next hblank => rw [hblank]
  · simp

/-! ## Lines -/

/-- A text has one line more than it has line feeds. -/
theorem length_splitOn (text : List Char) :
    (text.splitOn '\n').length = text.count '\n' + 1 := by
  unfold List.splitOn
  induction text with
  | nil => rfl
  | cons c text ih =>
    rw [List.splitOnP_cons_eq_if_modifyHead, List.count_cons]
    split
    · rw [List.length_cons, ih]
    · rw [List.length_modifyHead, ih]

/-- A text without line feeds is one line. -/
theorem splitOn_of_count {text : List Char} (h : text.count '\n' = 0) :
    text.splitOn '\n' = [text] := by
  refine List.splitOnP_eq_singleton fun c hc => ?_
  have hne : c ≠ '\n' := by
    rintro rfl
    exact List.count_eq_zero.1 h hc
  simpa using hne

/-- Texts with line feeds between them have the lines of the texts. -/
theorem splitOn_intercalate_lines (first : List Char) (texts : List (List Char)) :
    (['\n'].intercalate (first :: texts)).splitOn '\n' =
      (first :: texts).flatMap (·.splitOn '\n') := by
  induction texts generalizing first with
  | nil => simp
  | cons second texts ih =>
    have hcut : (first ++ '\n' :: ['\n'].intercalate (second :: texts)).splitOn '\n' =
        first.splitOn '\n' ++ (['\n'].intercalate (second :: texts)).splitOn '\n' :=
      List.splitOnP_append_cons _ _ rfl
    rw [List.intercalate_cons_cons, List.append_assoc, List.singleton_append, hcut, ih]
    rfl

namespace TextTable

/-! ## Rows -/

/-- The line feeds that the cells of a row show. White space at the end of the last one is cut
off. -/
def lineFeeds : List String → Nat
  | [] => 0
  | [cell] => (trimEnd cell.toList).count '\n'
  | cell :: second :: cells => cell.toList.count '\n' + lineFeeds (second :: cells)

theorem count_pad (width : Nat) (cell : String) :
    (pad width cell).count '\n' = cell.toList.count '\n' := by
  simp [pad, List.count_replicate]

theorem trimEnd_pad (width : Nat) (cell : String) :
    trimEnd (pad width cell) = trimEnd cell.toList := by
  rw [pad, trimEnd_append, if_pos (trimEnd_replicate _)]

/-- A row has the line feeds of its cells. -/
theorem count_row {widths : List Nat} {cells : List String}
    (hlength : widths.length = cells.length) : (row widths cells).count '\n' = lineFeeds cells := by
  unfold row fullRow
  induction cells generalizing widths with
  | nil =>
    rw [List.length_eq_zero_iff.1 hlength]
    rfl
  | cons cell cells ih =>
    obtain ⟨width, widths, rfl⟩ := List.exists_cons_of_length_eq_add_one hlength
    have hrest : widths.length = cells.length := Nat.succ.inj hlength
    cases cells with
    | nil =>
      have hone : padRow [width] [cell] = [pad width cell] := rfl
      rw [List.length_eq_zero_iff.1 hrest, hone, List.intercalate_singleton, trimEnd_pad,
        lineFeeds]
    | cons second cells =>
      obtain ⟨next, widths, rfl⟩ := List.exists_cons_of_length_eq_add_one hrest
      have ih := ih hrest
      rw [padRow] at ih
      -- The bar after the cell is where the cut from the end stops.
      have hrow := trimEnd_append_cons (pad width cell ++ [' '])
        (' ' :: [' ', '|', ' '].intercalate (pad next second :: padRow widths cells))
        isWhiteSpace_bar
      rw [padRow, padRow, List.intercalate_cons_cons, lineFeeds, ← ih]
      simp only [List.append_assoc, List.cons_append, List.nil_append] at hrow ⊢
      rw [hrow, List.count_append, count_pad, List.count_cons, List.count_cons,
        count_trimEnd_space]
      rfl

theorem length_widen (widths : List Nat) (cells : List String) :
    (widen widths cells).length = widths.length := by
  induction widths generalizing cells with
  | nil => cases cells <;> rfl
  | cons width widths ih =>
    cases cells with
    | nil => rfl
    | cons cell cells => rw [widen, List.length_cons, ih, List.length_cons]

/-- There are as many widths as columns. -/
theorem length_widths (rows : List (List String)) :
    (widths rows).length = Record.columns.length := by
  have hfold : ∀ start : List Nat, (rows.foldl widen start).length = start.length := by
    induction rows with
    | nil => exact fun start => rfl
    | cons cells rows ih =>
      intro start
      rw [List.foldl_cons, ih, length_widen]
  rw [widths, hfold, List.length_map]

theorem mem_rule {widths : List Nat} {c : Char} (h : c ∈ rule widths) : c = '-' ∨ c = '+' := by
  unfold rule at h
  induction widths with
  | nil => simp at h
  | cons width widths ih =>
    cases widths with
    | nil =>
      have hdash : width ≠ 0 ∧ c = '-' := by simpa using h
      exact .inl hdash.2
    | cons next widths =>
      rw [List.map_cons, List.map_cons, List.intercalate_cons_cons] at h
      simp only [List.mem_append, List.mem_cons, List.mem_replicate, List.not_mem_nil,
        or_false] at h
      rcases h with (h | h) | h
      · exact .inl h.2
      · tauto
      · exact ih h

/-! ## The table -/

/-- The widths of the columns of a table. -/
abbrev tableWidths (records : List Record) : List Nat := widths (records.map Record.cells)

variable (records : List Record)

theorem count_header : (row (tableWidths records) Record.columns).count '\n' = 0 :=
  count_row (length_widths _)

theorem count_rule (widths : List Nat) : (rule widths).count '\n' = 0 := by
  refine List.count_eq_zero.2 fun h => ?_
  rcases mem_rule h with h | h <;> exact absurd h (by decide)

theorem count_record_row (r : Record) :
    (row (tableWidths records) r.cells).count '\n' = lineFeeds r.cells :=
  count_row (length_widths _)

/-- The lines of a table are its header, its rule, and the lines of each row. -/
theorem splitOn_write : (write records).splitOn '\n' =
    row (tableWidths records) Record.columns :: rule (tableWidths records) ::
      records.flatMap fun r => (row (tableWidths records) r.cells).splitOn '\n' := by
  unfold write lines
  rw [splitOn_intercalate_lines, List.flatMap_cons, List.flatMap_cons,
    splitOn_of_count (count_header records), splitOn_of_count (count_rule _), List.flatMap_map,
    List.flatMap_map]
  rfl

/-- A table has a line for its header, one for its rule, one for each record, and one more for each
line feed that the cells of a record show. -/
theorem length_lines_write : ((write records).splitOn '\n').length =
    records.length + 2 + (records.map fun r => lineFeeds r.cells).sum := by
  rw [length_splitOn]
  have hlines := congrArg List.length (splitOn_write records)
  rw [length_splitOn, List.length_cons, List.length_cons, List.length_flatMap] at hlines
  simp only [length_splitOn, count_record_row, List.sum_map_add, List.map_const',
    List.sum_replicate_nat] at hlines
  omega

/-- A table is its header, its rule and the rows of its records in their order, each on one line, if
and only if no cell shows a line feed; and otherwise it has more lines than that. -/
theorem write_one_line_each :
    ((write records).splitOn '\n' =
        row (tableWidths records) Record.columns :: rule (tableWidths records) ::
          records.flatMap fun r => (row (tableWidths records) r.cells).splitOn '\n') ∧
      ((write records).splitOn '\n').length =
        records.length + 2 + (records.map fun r => lineFeeds r.cells).sum ∧
      (((write records).splitOn '\n').length = records.length + 2 ↔
        ∀ r ∈ records, lineFeeds r.cells = 0) ∧
      ((write records).splitOn '\n' = lines records ↔ ∀ r ∈ records, lineFeeds r.cells = 0) := by
  have hlength := length_lines_write records
  have hcount : ((write records).splitOn '\n').length = records.length + 2 ↔
      ∀ r ∈ records, lineFeeds r.cells = 0 := by
    rw [hlength, Nat.add_eq_left, List.sum_eq_zero_iff_forall_eq_nat, List.forall_mem_map]
  refine ⟨splitOn_write records, hlength, hcount, fun hlines => ?_, fun hnone => ?_⟩
  · refine hcount.1 ?_
    rw [hlines]
    simp [lines]
  · have hrows : (records.flatMap fun r => (row (tableWidths records) r.cells).splitOn '\n') =
        records.flatMap fun r => [row (tableWidths records) r.cells] := by
      refine List.flatMap_congr fun r hr => splitOn_of_count ?_
      rw [count_record_row, hnone r hr]
    rw [splitOn_write, hrows, ← List.map_eq_flatMap, lines, List.map_map]
    rfl

/-- The record of `x = 'a\nb'`, whose value has a line feed in it. -/
def brokenRecord : Record :=
  .named 1 "AssignmentExpression" "x" (some (.literal (.string "a\nb")))

/-- The table of that one record has four lines. The last two are the halves of its row. -/
theorem row_on_two_lines :
    ((write [brokenRecord]).splitOn '\n').length ≠ [brokenRecord].length + 2 ∧
      ((write [brokenRecord]).splitOn '\n').drop 2 =
        ["1    | AssignmentExpression | x    |           | a".toList, "b".toList] := by
  decide +kernel

end TextTable

end ScriptOutline
