import ScriptOutline.Number.Double

/-!
# JSON values

A JSON value is a tree of arrays and objects. The members of an object are kept as a list: in the
order they were written when a document is composed, and in ascending key order when it was read
(`Members.put`), where a repeated key keeps its last value.
-/

namespace ScriptOutline

/-- A JSON number: an integer that fits 64 bits, or a double. -/
inductive JsonNumber where
  | integer (value : Int)
  | float (value : Double)
  deriving DecidableEq

/-- A JSON value. -/
inductive Json where
  | null
  | boolean (value : Bool)
  | number (value : JsonNumber)
  | string (value : String)
  | array (items : List Json)
  | object (members : List (String × Json))

namespace Json

/-- The members of an object. -/
abbrev Members := List (String × Json)

/-- The value stored under a key. -/
def Members.get? : Members → String → Option Json
  | [], _ => none
  | (k, v) :: rest, key => if k = key then some v else Members.get? rest key

/-- Stores a value under a key in members sorted by key; the old value, if any, is dropped. -/
def Members.put (key : String) (value : Json) : Members → Members
  | [] => [(key, value)]
  | (k, v) :: rest =>
    if key < k then (key, value) :: (k, v) :: rest
    else if key = k then (key, value) :: rest
    else (k, v) :: Members.put key value rest

/-- The member of an object; other values have none. -/
def get? (v : Json) (key : String) : Option Json :=
  match v with
  | .object members => Members.get? members key
  | _ => none

/-- The text of a string value. -/
def asString? : Json → Option String
  | .string s => some s
  | _ => none

/-- The value of a boolean. -/
def asBoolean? : Json → Option Bool
  | .boolean b => some b
  | _ => none

/-- Whether the value is `null`. -/
def isNull : Json → Bool
  | .null => true
  | _ => false

/-- A natural number as a value. -/
def ofNat (n : Nat) : Json := .number (.integer n)

/-- A string, or `null` if there is none. -/
def ofString? : Option String → Json
  | some s => .string s
  | none => .null

mutual

/-- The same value with the members of every object in ascending key order. -/
def sorted : Json → Json
  | .array items => .array (sortedItems items)
  | .object members => .object (sortedMembers members)
  | v => v

/-- The items of an array, each sorted inside. -/
def sortedItems : List Json → List Json
  | [] => []
  | v :: rest => v.sorted :: sortedItems rest

/-- The members of an object, sorted by key and each sorted inside. Keys are taken to be
distinct. -/
def sortedMembers : List (String × Json) → Members
  | [] => []
  | (k, v) :: rest => Members.put k v.sorted (sortedMembers rest)

end

end Json

end ScriptOutline
