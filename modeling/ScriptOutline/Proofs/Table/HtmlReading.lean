import Mathlib.Data.List.Basic
import ScriptOutline.Table.Html

/-!
# Reading HTML tables

A written table is cut at its tags again. Nothing in the text of a cell can be taken for a tag,
since no cell text has an opening angle bracket left in it, so the cut gives the rows that were
written, and what was written for a character is told from the text that stands around it.

Escaping goes over the text once for each entity. It is a homomorphism for joining texts
(`escape_append`), so what the passes do to each other is seen on one character: an entity is left
as it is by the passes after its own. All that is said of escaped text goes by induction on the text
with these cases.
-/

namespace ScriptOutline

namespace Html

/-! ## Escaped text -/

/-- A text with the entities replaced back, in one pass from left to right. -/
def unescape : List Char → List Char
  | '&' :: 'a' :: 'm' :: 'p' :: ';' :: rest => '&' :: unescape rest
  | '&' :: 'l' :: 't' :: ';' :: rest => '<' :: unescape rest
  | '&' :: 'g' :: 't' :: ';' :: rest => '>' :: unescape rest
  | '&' :: 'q' :: 'u' :: 'o' :: 't' :: ';' :: rest => '"' :: unescape rest
  | c :: rest => c :: unescape rest
  | [] => []

theorem unescape_cons {c : Char} (h : c ≠ '&') (rest : List Char) :
    unescape (c :: rest) = c :: unescape rest := by
  conv_lhs => unfold unescape
  split <;> simp_all

theorem replace_append (c : Char) (new text rest : List Char) :
    replace c new (text ++ rest) = replace c new text ++ replace c new rest := List.flatMap_append

theorem escape_append (text rest : List Char) :
    escape (text ++ rest) = escape text ++ escape rest := by
  unfold escape
  induction entities generalizing text rest with
  | nil => rfl
  | cons entity entities ih =>
    rw [List.foldl_cons, replace_append, ih, List.foldl_cons, List.foldl_cons]

theorem escape_cons (c : Char) (rest : List Char) :
    escape (c :: rest) = escape [c] ++ escape rest := escape_append [c] rest

/-- A character that could be taken for markup becomes its entity, which the later passes leave
alone. -/
theorem escape_entity : ∀ e ∈ entities, escape [e.1] = e.2 := by
  decide

theorem escape_plain {c : Char} (h : ∀ e ∈ entities, c ≠ e.1) : escape [c] = [c] := by
  unfold escape
  revert h
  induction entities with
  | nil => exact fun _ => rfl
  | cons e rest ih =>
    intro h
    obtain ⟨hc, hrest⟩ := List.forall_mem_cons.1 h
    have hreplace : replace e.1 e.2 [c] = [c] := by simp [replace, hc]
    rw [List.foldl_cons, hreplace, ih hrest]

/-- What is said of escaped text is shown for the entities and for the characters without one. -/
theorem escape_induction {P : List Char → List Char → Prop} (nil : P [] [])
    (entity : ∀ e ∈ entities, ∀ rest, P rest (escape rest) → P (e.1 :: rest) (e.2 ++ escape rest))
    (plain : ∀ c rest, (∀ e ∈ entities, c ≠ e.1) → P rest (escape rest) →
      P (c :: rest) (c :: escape rest))
    (text : List Char) : P text (escape text) := by
  induction text with
  | nil => exact nil
  | cons c rest ih =>
    rw [escape_cons]
    by_cases hentity : ∃ e ∈ entities, c = e.1
    · obtain ⟨e, he, rfl⟩ := hentity
      rw [escape_entity e he]
      exact entity e he rest ih
    · have hplain : ∀ e ∈ entities, c ≠ e.1 := fun e he heq => hentity ⟨e, he, heq⟩
      rw [escape_plain hplain]
      exact plain c rest hplain ih

/-- The entity of a character is replaced back by the character. -/
theorem unescape_entity (rest : List Char) :
    ∀ e ∈ entities, unescape (e.2 ++ rest) = e.1 :: unescape rest := by
  simp [entities, unescape]

theorem unescape_escape (text : List Char) : unescape (escape text) = text := by
  refine escape_induction (P := fun text escaped => unescape escaped = text) rfl ?_ ?_ text
  · intro e he rest ih
    rw [unescape_entity _ e he, ih]
  · intro c rest hplain ih
    have hampersand : c ≠ '&' := hplain ('&', "&amp;".toList) (by decide)
    rw [unescape_cons hampersand, ih]

/-- Escaped text has no angle brackets and no quotes. -/
theorem notMem_escape (text : List Char) :
    '<' ∉ escape text ∧ '>' ∉ escape text ∧ '"' ∉ escape text := by
  have hentities : ∀ e ∈ entities, '<' ∉ e.2 ∧ '>' ∉ e.2 ∧ '"' ∉ e.2 := by decide
  refine escape_induction (P := fun _ escaped => '<' ∉ escaped ∧ '>' ∉ escaped ∧ '"' ∉ escaped)
    (by simp) ?_ ?_ text
  · intro e he rest ih
    simpa [hentities e he] using ih
  · intro c rest hplain ih
    have hlt : c ≠ '<' := hplain ('<', "&lt;".toList) (by decide)
    have hgt : c ≠ '>' := hplain ('>', "&gt;".toList) (by decide)
    have hquote : c ≠ '"' := hplain ('"', "&quot;".toList) (by decide)
    simpa [hlt.symm, hgt.symm, hquote.symm] using ih

/-- What ends a text and begins with a character that the first part of the text lacks ends the
second part. -/
theorem suffix_of_notMem {c : Char} {first second rest : List Char} (hc : c ∉ first)
    (h : c :: rest <:+ first ++ second) : c :: rest <:+ second := by
  induction first with
  | nil => exact h
  | cons d first ih =>
    rw [List.mem_cons, not_or] at hc
    rcases List.suffix_cons_iff.1 h with heq | hsuffix
    · exact absurd (List.cons.inj heq).1 hc.1
    · exact ih hc.2 hsuffix

/-- An ampersand in escaped text begins an entity. -/
theorem exists_entity_of_ampersand {text rest : List Char} (h : '&' :: rest <:+ escape text) :
    ∃ e ∈ entities, e.2 <+: '&' :: rest := by
  revert h
  refine escape_induction (P := fun _ escaped => '&' :: rest <:+ escaped →
    ∃ e ∈ entities, e.2 <+: '&' :: rest) (by simp) ?_ ?_ text
  · intro e he more ih hsuffix
    have hentities : ∀ e ∈ entities, e.2 = '&' :: e.2.tail ∧ '&' ∉ e.2.tail := by decide
    obtain ⟨hhead, htail⟩ := hentities e he
    rw [hhead, List.cons_append] at hsuffix
    rcases List.suffix_cons_iff.1 hsuffix with heq | hsuffix
    · refine ⟨e, he, ?_⟩
      rw [heq, ← List.cons_append, ← hhead]
      exact List.prefix_append _ _
    · exact ih (suffix_of_notMem htail hsuffix)
  · intro c more hplain ih hsuffix
    have hampersand : c ≠ '&' := hplain ('&', "&amp;".toList) (by decide)
    rcases List.suffix_cons_iff.1 hsuffix with heq | hsuffix
    · exact absurd (List.cons.inj heq).1.symm hampersand
    · exact ih hsuffix

/-! ## Tags -/

/-- The elements of a table. -/
inductive Element where
  | table
  | row
  /-- A cell of the header. -/
  | header
  | cell
  deriving DecidableEq

/-- The name of an element. -/
def Element.name : Element → String
  | .table => "table"
  | .row => "tr"
  | .header => "th"
  | .cell => "td"

/-- The beginning or the end of an element. -/
inductive Tag where
  | opening (element : Element)
  | closing (element : Element)
  deriving DecidableEq

namespace Tag

/-- How a tag is written. -/
def text : Tag → List Char
  | .opening .table => "<table id=\"resultTable\">".toList
  | .closing .table => "</table>".toList
  | .opening .row => "<tr>".toList
  | .closing .row => "</tr>".toList
  | .opening .header => "<th>".toList
  | .closing .header => "</th>".toList
  | .opening .cell => "<td>".toList
  | .closing .cell => "</td>".toList

/-- All tags. -/
def all : List Tag :=
  [.table, .row, .header, .cell].flatMap fun element => [.opening element, .closing element]

/-- The tag that a text begins with. -/
def leading? (text : List Char) : Option Tag := all.find? (·.text.isPrefixOf text)

theorem mem_all (tag : Tag) : tag ∈ all := by
  cases tag with
  | opening element => cases element <;> decide
  | closing element => cases element <;> decide

/-- No tag is the beginning of another one. -/
theorem eq_of_isPrefix_text :
    ∀ tag ∈ all, ∀ other ∈ all, tag.text <+: other.text → tag = other := by
  decide

theorem isPrefix_of_leading? {tag : Tag} {text : List Char} (h : leading? text = some tag) :
    tag.text <+: text := by
  rw [leading?] at h
  exact List.isPrefixOf_iff_prefix.1 (by simpa using List.find?_some h)

theorem leading?_text (tag : Tag) (rest : List Char) : leading? (tag.text ++ rest) = some tag := by
  cases h : leading? (tag.text ++ rest) with
  | none =>
    have hnone := List.find?_eq_none.1 h tag tag.mem_all
    exact absurd (List.isPrefixOf_iff_prefix.2 (List.prefix_append _ _)) hnone
  | some other =>
    have htag : tag.text <+: tag.text ++ rest := List.prefix_append _ _
    rcases List.prefix_or_prefix_of_prefix (isPrefix_of_leading? h) htag with hprefix | hprefix
    · rw [eq_of_isPrefix_text _ other.mem_all _ tag.mem_all hprefix]
    · rw [eq_of_isPrefix_text _ tag.mem_all _ other.mem_all hprefix]

/-- A tag begins with an angle bracket. -/
theorem text_eq_cons (tag : Tag) : tag.text = '<' :: tag.text.tail := by
  cases tag with
  | opening element => cases element <;> rfl
  | closing element => cases element <;> rfl

theorem leading?_cons {c : Char} (hc : c ≠ '<') (rest : List Char) :
    leading? (c :: rest) = none := by
  refine List.find?_eq_none.2 fun tag _ hprefix => hc ?_
  rw [List.isPrefixOf_iff_prefix, text_eq_cons, List.cons_prefix_cons] at hprefix
  exact hprefix.1.symm

end Tag

/-- An element is written between its tags. The tag that opens the table has an attribute as
well. -/
theorem element_eq {e : Element} (he : e ≠ .table) (inside rest : List Char) :
    element e.name inside ++ rest =
      (Tag.opening e).text ++ (inside ++ ((Tag.closing e).text ++ rest)) := by
  have hopen : ("<" ++ e.name ++ ">").toList = (Tag.opening e).text := by
    cases e with
    | table => exact absurd rfl he
    | row | header | cell => rfl
  have hclose : ("</" ++ e.name ++ ">").toList = (Tag.closing e).text := by
    cases e <;> rfl
  rw [element, hopen, hclose, List.append_assoc, List.append_assoc]

/-- What a text is cut into: tags, and characters between them. -/
inductive Piece where
  | tag (tag : Tag)
  | char (c : Char)

/-- Cuts a text at its tags. -/
def cut (text : List Char) : List Piece :=
  match text with
  | [] => []
  | c :: rest =>
    match Tag.leading? (c :: rest) with
    | some tag => .tag tag :: cut (rest.drop tag.text.tail.length)
    | none => .char c :: cut rest
termination_by text.length
decreasing_by
  · rw [List.length_drop, List.length_cons]
    omega
  · exact Nat.lt_succ_self _

theorem cut_nil : cut [] = [] := by
  rw [cut]

theorem cut_tag (tag : Tag) (rest : List Char) : cut (tag.text ++ rest) = .tag tag :: cut rest := by
  have hleading := tag.leading?_text rest
  rw [tag.text_eq_cons, List.cons_append] at hleading ⊢
  rw [cut, hleading]
  simp

theorem cut_char {c : Char} (hc : c ≠ '<') (rest : List Char) :
    cut (c :: rest) = .char c :: cut rest := by
  rw [cut, Tag.leading?_cons hc]

/-! ## Rows -/

/-- Where a reader stands. -/
inductive Position where
  /-- Before the table. -/
  | before
  /-- Between the rows of the table. -/
  | rows
  /-- Between the cells of a row. -/
  | cells
  /-- Inside a cell of the header or of another row. -/
  | inside (element : Element)
  /-- After the table. -/
  | after

/-- A cell of a table that was read, by its element and the text in it. -/
abbrev Cell := Element × List Char

/-- A reader of tables with what it has read. -/
structure Reader where
  position : Position
  /-- The text of the cell so far. -/
  text : List Char
  /-- The cells of the row so far. -/
  row : List Cell
  /-- The rows so far. -/
  rows : List (List Cell)

namespace Reader

/-- Goes over a tag or a character. There are rows in the table only, cells in rows only, and no
text outside cells but blanks between the rows. -/
def step (r : Reader) (piece : Piece) : Option Reader :=
  match r.position, piece with
  | .before, .tag (.opening .table) => some { r with position := .rows }
  | .rows, .char c => if c = ' ' ∨ c = '\n' then some r else none
  | .rows, .tag (.opening .row) => some { r with position := .cells }
  | .rows, .tag (.closing .table) => some { r with position := .after }
  | .cells, .tag (.opening .header) => some { r with position := .inside .header }
  | .cells, .tag (.opening .cell) => some { r with position := .inside .cell }
  | .cells, .tag (.closing .row) =>
    some { r with position := .rows, row := [], rows := r.rows ++ [r.row] }
  | .inside _, .char c => some { r with text := r.text ++ [c] }
  | .inside element, .tag (.closing other) =>
    if other = element then
      some { r with position := .cells, text := [], row := r.row ++ [(element, r.text)] }
    else none
  | _, _ => none

/-- Goes over a text. -/
def run (r : Reader) (text : List Char) : Option Reader := (cut text).foldlM step r

/-- The rows, if the table is closed. -/
def finish (r : Reader) : Option (List (List Cell)) :=
  match r.position with
  | .after => some r.rows
  | _ => none

end Reader

/-- The rows of a table with the elements of their cells and the texts in them. -/
def rows? (text : List Char) : Option (List (List Cell)) :=
  (Reader.run ⟨.before, [], [], []⟩ text).bind Reader.finish

namespace Reader

variable {e : Element} {row : List Cell} {rows : List (List Cell)}

theorem run_nil (r : Reader) : r.run [] = some r := by
  rw [run, cut_nil]
  rfl

theorem run_tag (r : Reader) (tag : Tag) (rest : List Char) :
    r.run (tag.text ++ rest) = (r.step (.tag tag)).bind (·.run rest) := by
  rw [run, cut_tag]
  exact List.foldlM_cons

theorem run_char (r : Reader) {c : Char} (hc : c ≠ '<') (rest : List Char) :
    r.run (c :: rest) = (r.step (.char c)).bind (·.run rest) := by
  rw [run, cut_char hc]
  exact List.foldlM_cons

/-- Text without angle brackets is the text of the cell. -/
theorem run_text {text : List Char} (h : '<' ∉ text) (before rest : List Char) :
    run ⟨.inside e, before, row, rows⟩ (text ++ rest) =
      run ⟨.inside e, before ++ text, row, rows⟩ rest := by
  induction text generalizing before with
  | nil => rw [List.append_nil, List.nil_append]
  | cons c text ih =>
    rw [List.mem_cons, not_or] at h
    rw [List.cons_append, run_char _ (Ne.symm h.1)]
    have hstep : step ⟨.inside e, before, row, rows⟩ (.char c) =
        some ⟨.inside e, before ++ [c], row, rows⟩ := rfl
    rw [hstep, Option.bind_some, ih h.2, List.append_assoc, List.singleton_append]

/-- A cell that is written as an element. -/
theorem run_cell (he : e = .header ∨ e = .cell) {text : List Char} (h : '<' ∉ text)
    (rest : List Char) :
    run ⟨.cells, [], row, rows⟩ (element e.name text ++ rest) =
      run ⟨.cells, [], row ++ [(e, text)], rows⟩ rest := by
  have hne : e ≠ .table := by rcases he with rfl | rfl <;> decide
  have hopen : step ⟨.cells, [], row, rows⟩ (.tag (.opening e)) =
      some ⟨.inside e, [], row, rows⟩ := by
    rcases he with rfl | rfl <;> rfl
  have hclose : step ⟨.inside e, [] ++ text, row, rows⟩ (.tag (.closing e)) =
      some ⟨.cells, [], row ++ [(e, text)], rows⟩ := by
    simp [step]
  rw [element_eq hne, run_tag, hopen, Option.bind_some, run_text h, run_tag, hclose,
    Option.bind_some]

/-- Cells that are written one after the other. -/
theorem run_cells (he : e = .header ∨ e = .cell) {cells : List (List Char)}
    (h : ∀ text ∈ cells, '<' ∉ text) (rest : List Char) :
    run ⟨.cells, [], row, rows⟩ ((cells.map (element e.name)).flatten ++ rest) =
      run ⟨.cells, [], row ++ cells.map (e, ·), rows⟩ rest := by
  induction cells generalizing row with
  | nil =>
    rw [List.map_nil, List.map_nil, List.append_nil]
    rfl
  | cons text cells ih =>
    obtain ⟨htext, hcells⟩ := List.forall_mem_cons.1 h
    rw [List.map_cons, List.flatten_cons, List.append_assoc, run_cell he htext, ih hcells,
      List.map_cons, List.append_assoc, List.singleton_append]

/-- A row of such cells. -/
theorem run_row (he : e = .header ∨ e = .cell) {cells : List (List Char)}
    (h : ∀ text ∈ cells, '<' ∉ text) (rest : List Char) :
    run ⟨.rows, [], [], rows⟩ (Html.row (cells.map (element e.name)) ++ rest) =
      run ⟨.rows, [], [], rows ++ [cells.map (e, ·)]⟩ rest := by
  have hrow : Html.row (cells.map (element e.name)) ++ rest =
      ' ' :: ' ' :: ((Tag.opening .row).text ++
        ((cells.map (element e.name)).flatten ++ ((Tag.closing .row).text ++ rest))) := by
    rw [← element_eq (by decide)]
    rfl
  have hblank : step ⟨.rows, [], [], rows⟩ (.char ' ') = some ⟨.rows, [], [], rows⟩ := rfl
  have hopen : step ⟨.rows, [], [], rows⟩ (.tag (.opening .row)) =
      some ⟨.cells, [], [], rows⟩ := rfl
  have hclose : step ⟨.cells, [], [] ++ cells.map (e, ·), rows⟩ (.tag (.closing .row)) =
      some ⟨.rows, [], [], rows ++ [cells.map (e, ·)]⟩ := rfl
  rw [hrow, run_char _ (by decide), hblank, Option.bind_some, run_char _ (by decide), hblank,
    Option.bind_some, run_tag, hopen, Option.bind_some, run_cells he h, run_tag, hclose,
    Option.bind_some]

/-- Lines between the rows mean nothing. -/
theorem run_lineBreak (rest : List Char) :
    run ⟨.rows, [], [], rows⟩ ('\n' :: rest) = run ⟨.rows, [], [], rows⟩ rest := by
  have hblank : step ⟨.rows, [], [], rows⟩ (.char '\n') = some ⟨.rows, [], [], rows⟩ := rfl
  rw [run_char _ (by decide), hblank, Option.bind_some]

/-- The lines of rows and the one that ends the table. -/
theorem run_rows (he : e = .header ∨ e = .cell) {table : List (List (List Char))}
    (h : ∀ cells ∈ table, ∀ text ∈ cells, '<' ∉ text) :
    run ⟨.rows, [], [], rows⟩
        (['\n'].intercalate
          (table.map (fun cells => Html.row (cells.map (element e.name))) ++
            [(Tag.closing .table).text])) =
      some ⟨.after, [], [], rows ++ table.map (·.map (e, ·))⟩ := by
  induction table generalizing rows with
  | nil =>
    have hclose : step ⟨.rows, [], [], rows⟩ (.tag (.closing .table)) =
        some ⟨.after, [], [], rows⟩ := rfl
    rw [List.map_nil, List.nil_append, List.intercalate_singleton, List.map_nil, List.append_nil,
      ← List.append_nil (Tag.text _), run_tag, hclose, Option.bind_some, run_nil]
  | cons cells table ih =>
    obtain ⟨hcells, htable⟩ := List.forall_mem_cons.1 h
    rw [List.map_cons, List.cons_append, List.intercalate_cons_of_ne_nil (by simp),
      List.append_assoc, run_row he hcells, List.singleton_append, run_lineBreak, ih htable,
      List.map_cons, List.append_assoc, List.singleton_append]

end Reader

/-! ## The whole table -/

open Reader

/-- The table that a list of records is written as, with the texts of the cells as they are
written. -/
def written (records : List Record) : List (List Cell) :=
  (Record.columns.map fun c => (.header, c.toList)) ::
    records.map fun r => r.cells.map fun c => (.cell, escape c.toList)

theorem rows?_write (records : List Record) : rows? (write records) = some (written records) := by
  have hheader : ∀ text ∈ Record.columns.map String.toList, '<' ∉ text := by decide
  have hcells : ∀ cells ∈ records.map fun r => r.cells.map fun c => escape c.toList,
      ∀ text ∈ cells, '<' ∉ text := by
    intro cells hcells text htext
    obtain ⟨r, -, rfl⟩ := List.mem_map.1 hcells
    obtain ⟨c, -, rfl⟩ := List.mem_map.1 htext
    exact (notMem_escape _).1
  have hwrite : write records =
      (Tag.opening .table).text ++ '\n' ::
        (Html.row ((Record.columns.map String.toList).map (element Element.header.name)) ++ '\n' ::
          ['\n'].intercalate
            ((records.map fun r => r.cells.map fun c => escape c.toList).map
              (fun cells => Html.row (cells.map (element Element.cell.name))) ++
                [(Tag.closing .table).text])) := by
    rw [write, lines, List.intercalate_cons_cons, List.intercalate_cons_of_ne_nil (by simp)]
    simp only [List.map_map, List.append_assoc, List.singleton_append]
    rfl
  have hopen : step ⟨.before, [], [], []⟩ (.tag (.opening .table)) =
      some ⟨.rows, [], [], []⟩ := rfl
  rw [rows?, hwrite, run_tag, hopen, Option.bind_some, run_lineBreak, run_row (.inl rfl) hheader,
    run_lineBreak, run_rows (.inr rfl) hcells]
  simp [written, finish]

/-- What is written depends on the cells only. -/
theorem write_of_cells {records others : List Record}
    (h : records.map Record.cells = others.map Record.cells) : write records = write others := by
  have hwrite (records : List Record) : write records = ['\n'].intercalate
      ((Tag.opening .table).text ::
        Html.row (Record.columns.map fun c => element "th" c.toList) ::
        ((records.map Record.cells).map
            (fun cells => Html.row (cells.map fun c => element "td" (escape c.toList))) ++
          [(Tag.closing .table).text])) := by
    rw [List.map_map]
    rfl
  rw [hwrite, h, ← hwrite]

/-- A written table is cut into one row of header cells and one row for each record, with the five
cells of the record in their order. Each text in them is an escaped cell, from which one pass makes the
cell again; it has no angle brackets and no quotes, and every ampersand in it begins an entity. So
tables are the same only if their cells are. -/
theorem rows?_write_records (records : List Record) :
    rows? (write records) =
        some ((Record.columns.map fun c => (.header, c.toList)) ::
          records.map fun r => r.cells.map fun c => (.cell, escape c.toList)) ∧
      (∀ row ∈ Record.columns :: records.map Record.cells, row.length = 5) ∧
      (∀ text, unescape (escape text) = text) ∧
      (∀ text, '<' ∉ escape text ∧ '>' ∉ escape text ∧ '"' ∉ escape text) ∧
      (∀ text rest, '&' :: rest <:+ escape text → ∃ e ∈ entities, e.2 <+: '&' :: rest) ∧
      ∀ others : List Record, write records = write others ↔
        records.map Record.cells = others.map Record.cells := by
  refine ⟨rows?_write records, Record.length_of_mem_rows records, unescape_escape, notMem_escape, ?_, fun others => ⟨?_, ?_⟩⟩
  · exact fun text rest h => exists_entity_of_ampersand h
  · intro heq
    have hwritten : written records = written others := by
      rw [← Option.some_inj, ← rows?_write, heq, rows?_write]
    have hcells (records : List Record) :
        (written records).tail.map (·.map fun cell => String.ofList (unescape cell.2)) =
          records.map Record.cells := by
      simp [written, Function.comp_def, unescape_escape]
    rw [← hcells, hwritten, hcells]
  · exact write_of_cells

end Html

end ScriptOutline
