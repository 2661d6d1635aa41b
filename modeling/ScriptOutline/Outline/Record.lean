import ScriptOutline.Syntax.Literal

/-!
# Outline records

A record is one row of an outline: the logical line where a construct starts, its kind, and what it
binds, tests or yields.
-/

namespace ScriptOutline

/-- A rendered expression: text, or a literal that is passed on as it is. -/
inductive Shown where
  | text (value : String)
  | literal (value : Literal)
  deriving DecidableEq

namespace Shown

/-- The text of a cell. -/
def toText : Shown → String
  | .text s => s
  | .literal v => v.shown

/-- The value in JSON; a literal keeps its type. -/
def toJson : Shown → Json
  | .text s => .string s
  | .literal v => v.toJson

/-- Equality of values: numbers are compared as numbers. -/
def sameValue : Shown → Shown → Bool
  | .literal a, .literal b => a.sameValue b
  | a, b => a == b

end Shown

/-- A row of an outline. -/
structure Record where
  /-- The logical line, counted from one. -/
  line : Nat
  /-- The kind of the construct, such as `WhileStatement`. -/
  kind : String
  /-- The name it binds. -/
  name : Option String
  /-- The condition it tests. -/
  condition : Option String
  /-- The value it binds or yields. -/
  value : Option Shown
  deriving DecidableEq

namespace Record

/-- A bound name, with a value if there is one. -/
def named (line : Nat) (kind name : String) (value : Option Shown) : Record :=
  ⟨line, kind, some name, none, value⟩

/-- A tested condition. -/
def conditional (line : Nat) (kind condition : String) : Record :=
  ⟨line, kind, none, some condition, none⟩

/-- A value on its own. -/
def valued (line : Nat) (kind : String) (value : Shown) : Record :=
  ⟨line, kind, none, none, some value⟩

/-- How many of name, condition and value are set. -/
def populatedFields (r : Record) : Nat :=
  r.name.isSome.toNat + r.condition.isSome.toNat + r.value.isSome.toNat

/-- Whether the line is positive and one or two of name, condition and value are set. -/
def isWellFormed (r : Record) : Bool :=
  0 < r.line && (r.populatedFields == 1 || r.populatedFields == 2)

/-- The headers of the columns. -/
def columns : List String := ["line", "type", "name", "condition", "value"]

/-- The cells of the row, in column order; what is absent is empty. -/
def cells (r : Record) : List String :=
  [toString r.line, r.kind, r.name.getD "", r.condition.getD "", (r.value.map Shown.toText).getD ""]

/-- Every row of a table, the headers among them, has five cells. -/
theorem length_of_mem_rows (records : List Record) :
    ∀ row ∈ columns :: records.map cells, row.length = 5 := by
  intro row hrow
  rcases List.mem_cons.1 hrow with rfl | hrow
  · rfl
  · obtain ⟨r, -, rfl⟩ := List.mem_map.1 hrow
    rfl

/-- The record in JSON. -/
def toJson (r : Record) : Json :=
  .object [
    ("line", .ofNat r.line),
    ("type", .string r.kind),
    ("name", .ofString? r.name),
    ("condition", .ofString? r.condition),
    ("value", (r.value.map Shown.toJson).getD .null)]

/-- Equality of records: numbers are compared as numbers. -/
def sameValue (a b : Record) : Bool :=
  a.line == b.line && a.kind == b.kind && a.name == b.name && a.condition == b.condition &&
    (match a.value, b.value with
      | some x, some y => x.sameValue y
      | none, none => true
      | _, _ => false)

/-- Equality of lists of records. -/
def sameValues : List Record → List Record → Bool
  | [], [] => true
  | a :: as, b :: bs => a.sameValue b && sameValues as bs
  | _, _ => false

end Record

end ScriptOutline
