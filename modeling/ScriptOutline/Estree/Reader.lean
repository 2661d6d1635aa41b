import ScriptOutline.Error
import ScriptOutline.Json.Reader
import ScriptOutline.Syntax.Node

/-!
# Reading ESTree

A syntax tree is read from JSON in ESTree shape, as other tools write it. A `null` member counts as
absent, and a part that is normally an array may also be a single node. Of an unsupported node only
the parts are read that may hold statements.

A node lies deeper than another if it is one of its parts; the limit says how deep a node may lie
below the root. It is also what the recursion runs on.
-/

namespace ScriptOutline

namespace Estree

/-- The outcome of reading. -/
abbrev Result (α : Type) := Except AnalysisError α

/-- The parts of an unsupported node that may hold statements, in the order they are visited. -/
def statementSlots : List String :=
  ["declaration", "block", "handler", "cases", "consequent", "body", "finalizer"]

/-- Whether a type name is one of a statement or of something that holds statements. -/
def isStatementType (name : String) : Bool :=
  ["Statement", "Declaration", "Clause", "Body"].any (fun e => e.toList.isSuffixOf name.toList) ||
    name == "SwitchCase"

/-- Whether a value is a statement or holds statements, judged by its type. -/
def holdsStatements (v : Json) : Bool :=
  match (v.get? "type").bind Json.asString? with
  | some name => isStatementType name
  | none => false

/-- A member that is not `null`. -/
def present? (members : Json.Members) (slot : String) : Option Json :=
  (Json.Members.get? members slot).filter (!·.isNull)

/-- The values of a sequence: the items of an array that are not `null`, or a single value. -/
def oneOrMany : Option Json → List Json
  | none => []
  | some .null => []
  | some (.array items) => items.filter (!·.isNull)
  | some v => [v]

/-- The value of a literal. A regular expression is told by its member, a big integer by its digits;
a value of another type is told by its source text. -/
def literal (members : Json.Members) : Literal :=
  let get := Json.Members.get? members
  match get "regex" with
  | some regex =>
    let part (name : String) := ((regex.get? name).bind Json.asString?).getD ""
    .regexp ("/" ++ part "pattern" ++ "/" ++ part "flags")
  | none =>
    match ((get "bigint").bind Json.asString?).bind (Double.parse? ·.toList) with
    | some d => .number d
    | none =>
      match get "value" with
      | some (.number (.integer i)) => .number (.ofInt i)
      | some (.number (.float d)) => .number d
      | some (.string s) => .string s
      | some (.boolean b) => .boolean b
      | some .null => .null
      | none => .null
      | some _ =>
        match (get "raw").bind Json.asString? with
        | some raw => .string raw
        | none => .null

/-- A part that must be there. -/
def required (self : Json → Result Node) (members : Json.Members) (kind slot : String) :
    Result Node :=
  match present? members slot with
  | some v => self v
  | none => .error (.malformedNode kind slot)

/-- A part that may be absent. -/
def optional (self : Json → Result Node) (members : Json.Members) (slot : String) :
    Result (Option Node) :=
  match present? members slot with
  | some v => (self v).map some
  | none => .ok none

/-- A list of nodes; the first error wins. -/
def all (self : Json → Result Node) : List Json → Result (List Node)
  | [] => .ok []
  | v :: rest => do return (← self v) :: (← all self rest)

/-- A sequence that must be there. -/
def many (self : Json → Result Node) (members : Json.Members) (kind slot : String) :
    Result (List Node) :=
  match present? members slot with
  | some v => all self (oneOrMany (some v))
  | none => .error (.malformedNode kind slot)

/-- A string that must be there. -/
def requiredString (members : Json.Members) (kind slot : String) : Result String :=
  match (present? members slot).bind Json.asString? with
  | some s => .ok s
  | none => .error (.malformedNode kind slot)

/-- A string, or what stands for it. -/
def stringOr (members : Json.Members) (slot default : String) : String :=
  ((present? members slot).bind Json.asString?).getD default

/-- The statements inside an unsupported node. -/
def statements (members : Json.Members) : List Json :=
  (statementSlots.flatMap fun slot => oneOrMany (Json.Members.get? members slot)).filter
    holdsStatements

/-- A node of a kind with its members, given how its parts are read. -/
def ofMembers (self : Json → Result Node) (kind : String) (members : Json.Members) :
    Result Node := do
  let required := required self members kind
  let optional := optional self members
  let many := many self members kind
  match kind with
  | "Program" => return .program (← many "body")
  | "FunctionDeclaration" =>
    return .function (← required "id") (← many "params") (← required "body")
  | "BlockStatement" => return .block (← many "body")
  | "VariableDeclaration" =>
    return .variables (stringOr members "kind" "var") (← many "declarations")
  | "VariableDeclarator" => return .declarator (← required "id") (← optional "init")
  | "ExpressionStatement" => return .expression (← required "expression")
  | "AssignmentExpression" =>
    return .assignment (stringOr members "operator" "=") (← required "left") (← required "right")
  | "WhileStatement" => return .while (← required "test") (← required "body")
  | "IfStatement" =>
    return .if (← required "test") (← required "consequent") (← optional "alternate")
  | "ForStatement" =>
    return .for (← optional "init") (← optional "test") (← optional "update") (← required "body")
  | "ReturnStatement" => return .return (← optional "argument")
  | "MemberExpression" =>
    return .member (← required "object") (← required "property")
      (((Json.Members.get? members "computed").bind Json.asBoolean?).getD false)
  | "BinaryExpression" =>
    return .binary (← requiredString members kind "operator") (← required "left")
      (← required "right")
  | "LogicalExpression" =>
    return .logical (← requiredString members kind "operator") (← required "left")
      (← required "right")
  | "UnaryExpression" =>
    return .unary (← requiredString members kind "operator") (← required "argument")
  | "Literal" => return .literal (literal members)
  | "Identifier" => return .identifier (← requiredString members kind "name")
  | other =>
    return .unsupported other ((Json.Members.get? members "name").bind Json.asString?)
      (← all self (statements members))

/-- Reads a node that may lie `depth - 1` levels above the deepest one allowed. -/
def node (limit : Nat) : Nat → Json → Result Node
  | 0, _ => .error (.nestingTooDeep limit)
  | depth + 1, v =>
    match v with
    | .object members =>
      match (Json.Members.get? members "type").bind Json.asString? with
      | some kind => ofMembers (node limit depth) kind members
      | none => .error (.malformedNode "node" "type")
    | other => .error (.notANode other)

/-- Reads a whole tree, whose root must be a program. -/
def readValue (limit : Nat) (v : Json) : Result Node := do
  let root ← node limit (limit + 1) v
  if root.isProgram then return root else throw (.rootNotProgram root.typeName)

/-- Reads a tree from JSON text, given how JSON is read. Text that nests too deep for JSON is reported
with the smaller of the two limits. -/
def readWith (json : List Char → Except JsonFailure Json) (limit : Nat) (source : List Char) :
    Result Node :=
  match json source with
  | .ok v => readValue limit v
  | .error failure =>
    if failure.fault = .tooDeep then .error (.nestingTooDeep (min limit Json.depthLimit))
    else .error (.notJson (failure.message source))

/-- Reads a tree from JSON text. -/
def read (limit : Nat) (source : List Char) : Result Node := readWith Json.parse limit source

end Estree

end ScriptOutline
