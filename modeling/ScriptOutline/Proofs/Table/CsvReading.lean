import Mathlib.Data.List.Basic
import ScriptOutline.Table.Format

/-!
# Reading comma-separated values

A reader of comma-separated values, as a machine that goes over the characters, and what it makes of
a written document: the table that was written, whatever its cells hold.

The reader is strict. It refuses a quote inside a field that does not begin with one, anything but
the end of the field after a closing quote, a carriage return outside quotes that does not belong to
a line break, and a quoted field without an end.

The proof follows the reader through a cell, a line and the document. After a cell it stands where
a field may end (`Reader.MayEnd`), and what it has then is said by how it goes on when the field
does end (`Reader.endField`): this is the same for all ways to write a cell.
-/

namespace ScriptOutline

namespace Csv

/-- Where a reader stands. -/
inductive Position where
  /-- Before the first character of a field. -/
  | start
  /-- In a field without quotes. -/
  | plain
  /-- Between the quotes of a field. -/
  | quoted
  /-- After a quote in a quoted field. It ends the field, unless it is the first of two. -/
  | quote
  /-- After a carriage return that has to be part of a line break. -/
  | lineBreak
  deriving DecidableEq

/-- A reader with what it has read. -/
structure Reader where
  position : Position
  /-- The text of the field so far. -/
  field : List Char
  /-- The fields of the row so far. -/
  row : List String
  /-- The rows so far. -/
  rows : List (List String)

namespace Reader

/-- Before a field. -/
def before (row : List String) (rows : List (List String)) : Reader := ⟨.start, [], row, rows⟩

/-- Takes a character into the field. -/
def take (r : Reader) (position : Position) (c : Char) : Reader :=
  { r with position, field := r.field ++ [c] }

/-- The field ends here. -/
def endField (r : Reader) : Reader := before (r.row ++ [String.ofList r.field]) r.rows

/-- The row ends here. -/
def endRow (r : Reader) : Reader := before [] (r.rows ++ [r.endField.row])

/-- Goes over a character where a field may end: a comma, a line feed, or a carriage return that a
line feed must follow. What any other character means is given. -/
def stepTo (r : Reader) (other : Option Reader) (c : Char) : Option Reader :=
  if c = ',' then some r.endField
  else if c = '\n' then some r.endRow
  else if c = '\r' then some { r with position := .lineBreak }
  else other

/-- Goes over a character. -/
def step (r : Reader) (c : Char) : Option Reader :=
  match r.position with
  | .start =>
    r.stepTo (some (if c = '"' then { r with position := .quoted } else r.take .plain c)) c
  | .plain => r.stepTo (if c = '"' then none else some (r.take .plain c)) c
  | .quoted => some (if c = '"' then { r with position := .quote } else r.take .quoted c)
  | .quote => r.stepTo (if c = '"' then some (r.take .quoted c) else none) c
  | .lineBreak => if c = '\n' then some r.endRow else none

/-- Goes over a text. -/
def run (r : Reader) (text : List Char) : Option Reader := text.foldlM step r

/-- The rows at the end of the document. The last line break may be missing. -/
def finish (r : Reader) : Option (List (List String)) :=
  match r.position with
  | .start => some (if r.row = [] then r.rows else r.endRow.rows)
  | .plain | .quote => some r.endRow.rows
  | .quoted | .lineBreak => none

end Reader

/-- The rows of a document. -/
def read? (text : List Char) : Option (List (List String)) :=
  ((Reader.before [] []).run text).bind Reader.finish

namespace Reader

variable {r : Reader} {text : List Char} {row : List String} {rows : List (List String)}

theorem run_append (r : Reader) (text rest : List Char) :
    r.run (text ++ rest) = (r.run text).bind (·.run rest) := List.foldlM_append

theorem run_cons (r : Reader) (c : Char) (rest : List Char) :
    r.run (c :: rest) = (r.step c).bind (·.run rest) := List.foldlM_cons

/-- The reader stands where a field may end. -/
def MayEnd (r : Reader) : Prop := r.position ≠ .quoted ∧ r.position ≠ .lineBreak

theorem exists_step_eq (h : r.MayEnd) (c : Char) : ∃ other, r.step c = r.stepTo other c := by
  unfold step
  cases hp : r.position with
  | start | plain | quote => exact ⟨_, rfl⟩
  | quoted => exact absurd hp h.1
  | lineBreak => exact absurd hp h.2

theorem step_comma (h : r.MayEnd) : r.step ',' = some r.endField := by
  obtain ⟨other, hstep⟩ := exists_step_eq h ','
  rw [hstep]
  rfl

theorem step_lineFeed (h : r.MayEnd) : r.step '\n' = some r.endRow := by
  obtain ⟨other, hstep⟩ := exists_step_eq h '\n'
  rw [hstep]
  rfl

/-- A row with a field before the last one ends with the document. -/
theorem finish_eq (h : r.MayEnd) (hrow : r.row ≠ []) : r.finish = some r.endRow.rows := by
  unfold finish
  cases hp : r.position with
  | start => rw [if_neg hrow]
  | plain | quote => rfl
  | quoted => exact absurd hp h.1
  | lineBreak => exact absurd hp h.2

/-- The row that ends here is the one whose last field ends here. -/
theorem endRow_eq (h : r.endField = before row rows) : r.endRow = before [] (rows ++ [row]) := by
  have hrows : r.rows = rows := congrArg Reader.rows h
  rw [endRow, h, hrows]
  rfl

/-! ## A cell -/

/-- Characters that have no meaning of their own are taken into a field without quotes. -/
theorem exists_run_plain (hposition : r.position = .start ∨ r.position = .plain)
    (hfree : needsQuotes text = false) :
    ∃ s, r.run text = some s ∧ s.MayEnd ∧ s.row = r.row ∧ s.rows = r.rows ∧
      s.field = r.field ++ text := by
  induction text generalizing r with
  | nil =>
    refine ⟨r, rfl, ?_, rfl, rfl, (List.append_nil _).symm⟩
    rcases hposition with h | h <;> simp [MayEnd, h]
  | cons c text ih =>
    simp only [needsQuotes, List.any_cons, Bool.or_eq_false_iff, beq_eq_false_iff_ne] at hfree
    obtain ⟨⟨⟨⟨hcomma, hquote⟩, hfeed⟩, hreturn⟩, hrest⟩ := hfree
    have hstep : r.step c = some (r.take .plain c) := by
      rcases hposition with h | h <;> simp [step, stepTo, h, hcomma, hquote, hfeed, hreturn]
    obtain ⟨s, hrun, hend, hrow, hrows, hfield⟩ := ih (r := r.take .plain c) (.inr rfl) hrest
    refine ⟨s, ?_, hend, hrow, hrows, ?_⟩
    · rw [run_cons, hstep, Option.bind_some, hrun]
    · rw [hfield, take, List.append_assoc, List.singleton_append]

/-- Between quotes every character is taken, and of two quotes one. -/
theorem run_quoted (field text : List Char) (row : List String) (rows : List (List String)) :
    run ⟨.quoted, field, row, rows⟩ (doubleQuotes text) =
      some ⟨.quoted, field ++ text, row, rows⟩ := by
  induction text generalizing field with
  | nil => rw [List.append_nil]; rfl
  | cons c text ih =>
    have happend : field ++ c :: text = field ++ [c] ++ text := by simp
    rw [doubleQuotes, happend, ← ih]
    split
    · next hquote =>
      subst hquote
      rfl
    · next hquote =>
      have hstep : step ⟨.quoted, field, row, rows⟩ c = some ⟨.quoted, field ++ [c], row, rows⟩ :=
        congrArg some (if_neg hquote)
      rw [run_cons, hstep, Option.bind_some]

/-- After a cell, the field that may end there is the text of the cell. -/
theorem exists_run_cell (text : String) (row : List String) (rows : List (List String)) :
    ∃ r, (before row rows).run (cell text.toList) = some r ∧ r.MayEnd ∧ r.row = row ∧
      r.endField = before (row ++ [text]) rows := by
  unfold cell
  cases hquotes : needsQuotes text.toList with
  | false =>
    obtain ⟨r, hrun, hend, hrow, hrows, hfield⟩ :=
      exists_run_plain (r := before row rows) (.inl rfl) hquotes
    refine ⟨r, hrun, hend, hrow, ?_⟩
    rw [endField, hrow, hrows, hfield]
    simp [before]
  | true =>
    refine ⟨⟨.quote, text.toList, row, rows⟩, ?_, by simp [MayEnd], rfl, by simp [endField]⟩
    have hopen : (before row rows).step '"' = some ⟨.quoted, [], row, rows⟩ := rfl
    rw [if_pos rfl, run_cons, hopen, Option.bind_some, run_append, run_quoted, List.nil_append]
    rfl

/-! ## A line -/

/-- After a line of two or more cells, its last field may end, and its row is that of the cells. -/
theorem exists_run_line (first second : String) (cells row : List String)
    (rows : List (List String)) :
    ∃ r, (before row rows).run (line (first :: second :: cells)) = some r ∧ r.MayEnd ∧
      r.row ≠ [] ∧ r.endRow = before [] (rows ++ [row ++ first :: second :: cells]) := by
  obtain ⟨r, hrun, hend, -, hnext⟩ := exists_run_cell first row rows
  have hline : (before row rows).run (line (first :: second :: cells)) =
      (before (row ++ [first]) rows).run (line (second :: cells)) := by
    rw [line, List.map_cons, List.map_cons, List.intercalate_cons_cons, List.append_assoc,
      run_append, hrun, Option.bind_some, List.singleton_append, run_cons, step_comma hend, hnext]
    rfl
  rw [hline]
  cases cells with
  | nil =>
    obtain ⟨s, hrun, hend, hrow, hnext⟩ := exists_run_cell second (row ++ [first]) rows
    refine ⟨s, ?_, hend, by simp [hrow], ?_⟩
    · rw [← hrun]
      simp [line]
    · rw [endRow_eq hnext, List.append_assoc, List.singleton_append]
  | cons third cells =>
    have ih := exists_run_line second third cells (row ++ [first]) rows
    rwa [List.append_assoc, List.singleton_append] at ih

end Reader

/-! ## A document -/

open Reader

variable {rows : List (List String)}

/-- After lines of two or more cells each, the last row may end, and the rows are those of the
cells. -/
theorem exists_run_lines (first : List String) (rows before : List (List String))
    (hfirst : 2 ≤ first.length) (hrows : ∀ row ∈ rows, 2 ≤ row.length) :
    ∃ r, (Reader.before [] before).run (['\n'].intercalate ((first :: rows).map line)) = some r ∧
      r.MayEnd ∧ r.row ≠ [] ∧ r.endRow = Reader.before [] (before ++ first :: rows) := by
  obtain ⟨one, two, cells, rfl⟩ : ∃ one two cells, first = one :: two :: cells := by
    match first, hfirst with
    | one :: two :: cells, _ => exact ⟨one, two, cells, rfl⟩
  obtain ⟨r, hrun, hend, hrow, hnext⟩ := exists_run_line one two cells [] before
  rw [List.nil_append] at hnext
  cases rows with
  | nil => exact ⟨r, by simpa using hrun, hend, hrow, hnext⟩
  | cons second rows =>
    obtain ⟨hsecond, hrows⟩ := List.forall_mem_cons.1 hrows
    obtain ⟨s, hrest, hs⟩ := exists_run_lines second rows (before ++ [one :: two :: cells])
      hsecond hrows
    refine ⟨s, ?_, by simpa using hs⟩
    rw [List.map_cons, List.map_cons, List.intercalate_cons_cons, List.append_assoc, run_append,
      hrun, Option.bind_some, List.singleton_append, run_cons, step_lineFeed hend, hnext,
      Option.bind_some, ← hrest, List.map_cons]

/-- The table that a list of records is written as. -/
def table (records : List Record) : List (List String) :=
  Record.columns :: records.map Record.cells

theorem write_eq (records : List Record) :
    write records = ['\n'].intercalate ((table records).map line) := by
  rw [write, table, List.map_cons, List.map_map]
  rfl

theorem exists_run_write (records : List Record) :
    ∃ r, (before [] []).run (write records) = some r ∧ r.MayEnd ∧ r.row ≠ [] ∧
      r.endRow = before [] (table records) := by
  have hrows : ∀ row ∈ records.map Record.cells, 2 ≤ row.length := by
    intro row hrow
    rw [Record.length_of_mem_rows records row (List.mem_cons_of_mem _ hrow)]
    decide
  rw [write_eq]
  exact exists_run_lines Record.columns _ [] (by decide) hrows

theorem read?_write (records : List Record) : read? (write records) = some (table records) := by
  obtain ⟨r, hrun, hend, hrow, hnext⟩ := exists_run_write records
  rw [read?, hrun, Option.bind_some, finish_eq hend hrow, hnext]
  rfl

/-- A written document is read as the header and the cells of the records in their order, five in each
row, with and without a line break at its end. So documents are the same only if their cells are. -/
theorem read?_write_records (records : List Record) :
    read? (write records) = some (Record.columns :: records.map Record.cells) ∧
      (∀ row ∈ Record.columns :: records.map Record.cells, row.length = 5) ∧
      read? (Format.csv.write records) = some (Record.columns :: records.map Record.cells) ∧
      ∀ others : List Record, write records = write others ↔
        records.map Record.cells = others.map Record.cells := by
  refine ⟨read?_write records, Record.length_of_mem_rows records, ?_,
    fun others => ⟨fun heq => ?_, fun hcells => ?_⟩⟩
  · obtain ⟨r, hrun, hend, -, hnext⟩ := exists_run_write records
    rw [Format.write, read?, run_append, hrun, Option.bind_some, run_cons, step_lineFeed hend,
      hnext]
    rfl
  · have htables : table records = table others := by
      rw [← Option.some_inj, ← read?_write, heq, read?_write]
    exact (List.cons.inj htables).2
  · rw [write_eq, write_eq, table, table, hcells]

end Csv

end ScriptOutline
