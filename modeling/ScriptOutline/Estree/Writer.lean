import ScriptOutline.Syntax.Node

/-!
# Writing ESTree

A tree as a JSON value in ESTree shape: the kind under `type`, then the parts of that kind. An
unsupported node has its own kind there, its name, and the statements in it under `body`.
-/

namespace ScriptOutline

namespace Literal

/-- The members of a literal. A regular expression also tells its pattern and flags. -/
def estreeMembers (value : Literal) : Json.Members :=
  ("value", value.toJson) ::
    match value with
    | .regexp source =>
      match regexpParts? source with
      | some (pattern, flags) =>
        [("regex", .object [("pattern", .string pattern), ("flags", .string flags)])]
      | none => []
    | _ => []

end Literal

namespace Node

mutual

/-- The members that follow the type. -/
def estreeMembers : Node → Json.Members
  | .program body => [("sourceType", .string "script"), ("body", .array (estreeItems body))]
  | .function id params body =>
    [("id", .object (("type", .string id.typeName) :: id.estreeMembers)),
      ("params", .array (estreeItems params)),
      ("body", .object (("type", .string body.typeName) :: body.estreeMembers))]
  | .block body => [("body", .array (estreeItems body))]
  | .variables keyword declarations =>
    [("declarations", .array (estreeItems declarations)), ("kind", .string keyword)]
  | .declarator id init =>
    [("id", .object (("type", .string id.typeName) :: id.estreeMembers)),
      ("init", estreeOption init)]
  | .expression e => [("expression", .object (("type", .string e.typeName) :: e.estreeMembers))]
  | .assignment operator left right =>
    [("operator", .string operator),
      ("left", .object (("type", .string left.typeName) :: left.estreeMembers)),
      ("right", .object (("type", .string right.typeName) :: right.estreeMembers))]
  | .while test body =>
    [("test", .object (("type", .string test.typeName) :: test.estreeMembers)),
      ("body", .object (("type", .string body.typeName) :: body.estreeMembers))]
  | .if test consequent alternate =>
    [("test", .object (("type", .string test.typeName) :: test.estreeMembers)),
      ("consequent", .object (("type", .string consequent.typeName) :: consequent.estreeMembers)),
      ("alternate", estreeOption alternate)]
  | .for init test update body =>
    [("init", estreeOption init), ("test", estreeOption test), ("update", estreeOption update),
      ("body", .object (("type", .string body.typeName) :: body.estreeMembers))]
  | .return argument => [("argument", estreeOption argument)]
  | .member object property computed =>
    [("computed", .boolean computed),
      ("object", .object (("type", .string object.typeName) :: object.estreeMembers)),
      ("property", .object (("type", .string property.typeName) :: property.estreeMembers))]
  | .binary operator left right =>
    [("operator", .string operator),
      ("left", .object (("type", .string left.typeName) :: left.estreeMembers)),
      ("right", .object (("type", .string right.typeName) :: right.estreeMembers))]
  | .logical operator left right =>
    [("operator", .string operator),
      ("left", .object (("type", .string left.typeName) :: left.estreeMembers)),
      ("right", .object (("type", .string right.typeName) :: right.estreeMembers))]
  | .unary operator argument =>
    [("operator", .string operator), ("prefix", .boolean true),
      ("argument", .object (("type", .string argument.typeName) :: argument.estreeMembers))]
  | .literal value => value.estreeMembers
  | .identifier name => [("name", .string name)]
  | .unsupported _ name children =>
    (match name with
      | some s => [("name", .string s)]
      | none => []) ++
    (match children with
      | [] => []
      | first :: rest => [("body", .array (estreeItems (first :: rest)))])

/-- A list of trees. -/
def estreeItems : List Node → List Json
  | [] => []
  | n :: rest => .object (("type", .string n.typeName) :: n.estreeMembers) :: estreeItems rest

/-- An optional tree. -/
def estreeOption : Option Node → Json
  | none => .null
  | some n => .object (("type", .string n.typeName) :: n.estreeMembers)

end

/-- The tree in ESTree shape. -/
def toEstree (node : Node) : Json :=
  .object (("type", .string node.typeName) :: node.estreeMembers)

end Node

end ScriptOutline
