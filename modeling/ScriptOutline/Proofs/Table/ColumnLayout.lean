import Mathlib.Data.List.Forall2
import Mathlib.Order.Bounds.Basic
import Mathlib.Tactic.Common
import ScriptOutline.Proofs.Table.TextLines

/-!
# Columns of text tables

In every line of a text table a column stands in the same place, and it has room for every cell in
it. Two things are behind that. The width of a column is the largest length in it, which is a
property of all rows at once; it is proved of the fold over the rows from any widths on
(`isGreatest_foldl_widen`). And texts with marks of one length between them stand where the lengths
of the texts before them say, which holds of the cells of a row and of the dashes of the rule alike
(`places_of_lengths`).
-/

namespace ScriptOutline

namespace TextTable

/-- Where a column begins in a line: behind the columns before it, with three characters after each
of them. -/
def offset (widths : List Nat) (column : Nat) : Nat := (widths.take column).sum + 3 * column

/-- So many characters of a line, from a place on. -/
def excerpt (line : List Char) (start count : Nat) : List Char := (line.drop start).take count

/-- The line holds the cells of a row: each of them stands in its column, followed by spaces up to
the width of the column, and a bar stands between two columns. -/
structure IsAligned (widths : List Nat) (cells : List String) (line : List Char) : Prop where
  length : line.length = widths.sum + 12
  cell : ∀ i width cell, widths[i]? = some width → cells[i]? = some cell →
    cell.length ≤ width ∧ excerpt line (offset widths i) width =
      cell.toList ++ List.replicate (width - cell.length) ' '
  bar : ∀ i width, i + 1 < widths.length → widths[i]? = some width →
    excerpt line (offset widths i + width) 3 = [' ', '|', ' ']

/-- The line is a rule under the columns, with a crossing under each bar. -/
structure IsRule (widths : List Nat) (line : List Char) : Prop where
  length : line.length = widths.sum + 12
  dashes : ∀ i width, widths[i]? = some width →
    excerpt line (offset widths i) width = List.replicate width '-'
  crossing : ∀ i width, i + 1 < widths.length → widths[i]? = some width →
    excerpt line (offset widths i + width) 3 = ['-', '+', '-']

/-- No cell of the row is longer than its column is wide. -/
def Fits (widths : List Nat) (cells : List String) : Prop :=
  ∀ (i width : Nat) (cell : String), widths[i]? = some width → cells[i]? = some cell →
    cell.length ≤ width

/-- The lengths of the cells in a column. -/
def lengthsIn (rows : List (List String)) (column : Nat) : Set Nat :=
  {n | ∃ cells ∈ rows, ∃ cell, cells[column]? = some cell ∧ cell.length = n}

/-! ## Texts with marks between them -/

section Marks

variable {mark : List Char} {texts : List (List Char)} {text : List Char} {i width : Nat}

theorem excerpt_append (first rest : List Char) (start count : Nat) :
    excerpt (first ++ rest) (first.length + start) count = excerpt rest start count := by
  rw [excerpt, excerpt, List.drop_length_add_append]

theorem offset_succ (width : Nat) (widths : List Nat) (i : Nat) :
    offset (width :: widths) (i + 1) = width + (3 + offset widths i) := by
  rw [offset, offset, List.take_succ_cons, List.sum_cons]
  omega

theorem length_intercalate (hmark : mark.length = 3) (hne : texts ≠ []) :
    (mark.intercalate texts).length + 3 = (texts.map List.length).sum + 3 * texts.length := by
  induction texts with
  | nil => exact absurd rfl hne
  | cons first texts ih =>
    cases texts with
    | nil => simp
    | cons second texts =>
      have hrest := ih (List.cons_ne_nil second texts)
      rw [List.intercalate_cons_cons, List.append_assoc, List.length_append, List.length_append,
        hmark, List.map_cons, List.sum_cons, List.length_cons]
      omega

/-- What stands behind the first text and its mark is found that much further on. -/
theorem excerpt_intercalate_cons (hmark : mark.length = 3) (first second : List Char)
    (texts : List (List Char)) (start count : Nat) :
    excerpt (mark.intercalate (first :: second :: texts)) (first.length + (3 + start)) count =
      excerpt (mark.intercalate (second :: texts)) start count := by
  rw [List.intercalate_cons_cons, List.append_assoc, excerpt_append, ← hmark, excerpt_append]

/-- Each text stands behind the texts before it and their marks. -/
theorem excerpt_text (hmark : mark.length = 3) (h : texts[i]? = some text) :
    excerpt (mark.intercalate texts) (offset (texts.map List.length) i) text.length = text := by
  induction texts generalizing i with
  | nil => simp at h
  | cons first texts ih =>
    cases i with
    | zero =>
      obtain rfl : first = text := Option.some.inj h
      cases texts <;> simp [excerpt, offset, List.intercalate_cons_cons]
    | succ i =>
      rw [List.getElem?_cons_succ] at h
      cases texts with
      | nil => simp at h
      | cons second texts =>
        rw [List.map_cons, offset_succ, excerpt_intercalate_cons hmark, ih h]

/-- Behind each text but the last one stands a mark. -/
theorem excerpt_mark (hmark : mark.length = 3) (h : (texts.map List.length)[i]? = some width)
    (hnext : i + 1 < texts.length) :
    excerpt (mark.intercalate texts) (offset (texts.map List.length) i + width) 3 = mark := by
  induction texts generalizing i with
  | nil => simp at hnext
  | cons first texts ih =>
    cases texts with
    | nil => simp at hnext
    | cons second texts =>
      cases i with
      | zero =>
        obtain rfl : first.length = width := Option.some.inj h
        rw [List.intercalate_cons_cons, List.append_assoc, offset, Nat.add_comm, List.take_zero,
          List.sum_nil, excerpt_append]
        simp [excerpt, ← hmark]
      | succ i =>
        rw [List.map_cons, offset_succ, Nat.add_assoc, Nat.add_assoc,
          excerpt_intercalate_cons hmark]
        exact ih h (Nat.lt_of_succ_lt_succ hnext)

/-- Five texts of known lengths, their marks and the whole line are where the lengths say. -/
theorem places_of_lengths {widths : List Nat} (hmark : mark.length = 3)
    (hlengths : texts.map List.length = widths) (hfive : widths.length = 5) :
    (mark.intercalate texts).length = widths.sum + 12 ∧
      (∀ (i width : Nat) (text : List Char), widths[i]? = some width → texts[i]? = some text →
        excerpt (mark.intercalate texts) (offset widths i) width = text) ∧
      ∀ i width, i + 1 < widths.length → widths[i]? = some width →
        excerpt (mark.intercalate texts) (offset widths i + width) 3 = mark := by
  subst hlengths
  rw [List.length_map] at hfive ⊢
  refine ⟨?_, fun i width text hwidth htext => ?_, fun i width hnext hwidth => ?_⟩
  · have hsum := length_intercalate hmark (List.ne_nil_of_length_eq_add_one hfive)
    omega
  · rw [List.getElem?_map, htext] at hwidth
    obtain rfl : text.length = width := Option.some.inj hwidth
    exact excerpt_text hmark htext
  · exact excerpt_mark hmark hwidth hnext

end Marks

/-! ## Widths -/

theorem getElem?_widen (widths : List Nat) (cells : List String) (i : Nat) :
    (widen widths cells)[i]? =
      widths[i]?.map fun width => max width ((cells[i]?.map String.length).getD 0) := by
  induction widths generalizing cells i with
  | nil => cases cells <;> rfl
  | cons width widths ih =>
    cases cells with
    | nil => cases widths <;> cases i <;> simp [widen]
    | cons cell cells =>
      cases i with
      | zero => rfl
      | succ i => exact ih cells i

theorem lengthsIn_cons_some {cells : List String} {cell : String} {i : Nat}
    (h : cells[i]? = some cell) (rows : List (List String)) :
    lengthsIn (cells :: rows) i = insert cell.length (lengthsIn rows i) := by
  ext n
  simp [lengthsIn, h, eq_comm]

theorem lengthsIn_cons_none {cells : List String} {i : Nat} (h : cells[i]? = none)
    (rows : List (List String)) : lengthsIn (cells :: rows) i = lengthsIn rows i := by
  ext n
  simp [lengthsIn, h]

/-- The larger of two numbers may stand for both of them. -/
theorem isGreatest_insert_of_max {s : Set Nat} {a b n : Nat} (h : IsGreatest (insert (max a b) s) n) :
    IsGreatest (insert a (insert b s)) n := by
  obtain ⟨hmem, hupper⟩ := h
  have hmax : max a b ≤ n := hupper (Set.mem_insert _ s)
  refine ⟨?_, fun m hm => ?_⟩
  · rcases hmem with rfl | hmem
    · rcases le_total a b with hle | hle
      · exact .inr (.inl (max_eq_right hle))
      · exact .inl (max_eq_left hle)
    · exact .inr (.inr hmem)
  · rcases hm with rfl | rfl | hm
    · exact (le_max_left m b).trans hmax
    · exact (le_max_right a m).trans hmax
    · exact hupper (.inr hm)

/-- After any number of rows a column is as wide as it was, or as the longest cell in it if that is
more. -/
theorem isGreatest_foldl_widen {rows : List (List String)} {start : List Nat} {i first width : Nat}
    (hfirst : start[i]? = some first) (h : (rows.foldl widen start)[i]? = some width) :
    IsGreatest (insert first (lengthsIn rows i)) width := by
  induction rows generalizing start first with
  | nil =>
    obtain rfl : first = width := Option.some.inj (hfirst.symm.trans h)
    simp [lengthsIn]
  | cons cells rows ih =>
    have hwiden := getElem?_widen start cells i
    rw [hfirst, Option.map_some] at hwiden
    have hrest := ih hwiden h
    cases hcell : cells[i]? with
    | none =>
      rw [lengthsIn_cons_none hcell]
      simpa [hcell] using hrest
    | some cell =>
      rw [lengthsIn_cons_some hcell]
      refine isGreatest_insert_of_max ?_
      simpa [hcell] using hrest

/-- A column is as wide as the longest text in it, its header among them. -/
theorem isGreatest_width {rows : List (List String)} {i width : Nat}
    (h : (widths rows)[i]? = some width) :
    IsGreatest (lengthsIn (Record.columns :: rows) i) width := by
  obtain ⟨hi, -⟩ := List.getElem?_eq_some_iff.1 h
  rw [length_widths] at hi
  have hheader : Record.columns[i]? = some Record.columns[i] := List.getElem?_eq_getElem hi
  have hfirst : (Record.columns.map String.length)[i]? = some Record.columns[i].length := by
    rw [List.getElem?_map, hheader, Option.map_some]
  rw [lengthsIn_cons_some hheader]
  exact isGreatest_foldl_widen hfirst h

/-! ## Lines -/

theorem padRow_eq_zipWith (widths : List Nat) (cells : List String) :
    padRow widths cells = List.zipWith pad widths cells := by
  induction widths generalizing cells with
  | nil => rfl
  | cons width widths ih =>
    cases cells with
    | nil => rfl
    | cons cell cells => rw [padRow, ih, List.zipWith_cons_cons]

theorem length_pad {width : Nat} {cell : String} (h : cell.length ≤ width) :
    (pad width cell).length = width := by
  rw [pad, List.length_append, String.length_toList, List.length_replicate]
  omega

section Lines

variable {widths : List Nat} {cells : List String}

/-- Cells that fit are as long as their columns are wide. -/
theorem lengths_padRow (hlength : widths.length = cells.length)
    (hfits : Fits widths cells) :
    (padRow widths cells).map List.length = widths := by
  rw [padRow_eq_zipWith]
  refine List.ext_getElem (by simp [hlength]) fun i hi hwidth => ?_
  have hcell : i < cells.length := hlength ▸ hwidth
  rw [List.getElem_map, List.getElem_zipWith]
  exact length_pad (hfits i _ _ (List.getElem?_eq_getElem hwidth) (List.getElem?_eq_getElem hcell))

theorem isAligned_fullRow (hfive : widths.length = 5) (hlength : widths.length = cells.length)
    (hfits : Fits widths cells) : IsAligned widths cells (fullRow widths cells) := by
  have hmark : [' ', '|', ' '].length = 3 := rfl
  obtain ⟨hline, htexts, hmarks⟩ :=
    places_of_lengths hmark (lengths_padRow hlength hfits) hfive
  refine ⟨hline, fun i width cell hwidth hcell => ?_, hmarks⟩
  have hpad : (padRow widths cells)[i]? = some (pad width cell) := by
    rw [padRow_eq_zipWith, List.getElem?_zipWith, hwidth, hcell]
  exact ⟨hfits i width cell hwidth hcell, htexts i width _ hwidth hpad⟩

theorem isRule_rule (hfive : widths.length = 5) : IsRule widths (rule widths) := by
  have hlengths : (widths.map (List.replicate · '-')).map List.length = widths := by
    simp [Function.comp_def]
  have hmark : ['-', '+', '-'].length = 3 := rfl
  obtain ⟨hline, htexts, hmarks⟩ := places_of_lengths hmark hlengths hfive
  refine ⟨hline, fun i width hwidth => ?_, hmarks⟩
  have hdashes : (widths.map (List.replicate · '-'))[i]? = some (List.replicate width '-') := by
    rw [List.getElem?_map, hwidth, Option.map_some]
  exact htexts i width _ hwidth hdashes

end Lines

/-- A text table has five columns, each as wide as the longest text in it. Before the white space at
its end is cut off, every row, the header among them, holds its cells in these columns, and so is as
long as every other one; the rule has its dashes and crossings under them. Nothing but white space is
cut off a row, and no white space is left at its end. -/
theorem write_aligned (records : List Record) :
    ∃ widths : List Nat, widths.length = 5 ∧
      (∀ i width, widths[i]? = some width →
        IsGreatest (lengthsIn (Record.columns :: records.map Record.cells) i) width) ∧
      ∃ (header rule : List Char) (rows : List (List Char)),
        write records = ['\n'].intercalate (trimEnd header :: rule :: rows.map trimEnd) ∧
        IsAligned widths Record.columns header ∧
        IsRule widths rule ∧
        List.Forall₂ (fun r row => IsAligned widths r.cells row) records rows ∧
        ∀ row ∈ header :: rows,
          (∃ blank, row = trimEnd row ++ blank ∧ ∀ c ∈ blank, isWhiteSpace c = true) ∧
            ∀ c, (trimEnd row).getLast? = some c → isWhiteSpace c = false := by
  have hfive : (tableWidths records).length = 5 := length_widths _
  have hfits : ∀ cells ∈ Record.columns :: records.map Record.cells,
      Fits (tableWidths records) cells := by
    intro cells hcells i width cell hwidth hcell
    exact (isGreatest_width hwidth).2 ⟨cells, hcells, cell, hcell, rfl⟩
  refine ⟨tableWidths records, hfive, fun i width => isGreatest_width,
    fullRow (tableWidths records) Record.columns, rule (tableWidths records),
    records.map fun r => fullRow (tableWidths records) r.cells, ?_, ?_, isRule_rule hfive, ?_, ?_⟩
  · rw [List.map_map]
    simp only [write, lines, List.map_map]
    rfl
  · exact isAligned_fullRow hfive hfive (hfits _ List.mem_cons_self)
  · rw [List.forall₂_map_right_iff, List.forall₂_same]
    intro r hr
    exact isAligned_fullRow hfive hfive
      (hfits _ (List.mem_cons_of_mem _ (List.mem_map_of_mem hr)))
  · exact fun row _ => ⟨eq_trimEnd_append row, fun c => isWhiteSpace_getLast_trimEnd⟩

end TextTable

end ScriptOutline
