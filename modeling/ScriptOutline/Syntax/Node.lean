import ScriptOutline.Syntax.Literal

/-!
# Syntax trees

A tree in the shape of the ESTree format, reduced to the kinds that an outline understands. Every
other kind is `unsupported`: it keeps the name of its kind, a name of its own if it has one, and the
statements found inside it, so that the outline can descend into them.
-/

namespace ScriptOutline

/-- A node of a syntax tree. -/
inductive Node where
  | program (body : List Node)
  | function (id : Node) (params : List Node) (body : Node)
  | block (body : List Node)
  /-- `var`, `let` or `const` with its declarators. -/
  | variables (keyword : String) (declarations : List Node)
  | declarator (id : Node) (init : Option Node)
  | expression (expr : Node)
  | assignment (operator : String) (left right : Node)
  | «while» (test body : Node)
  | «if» (test consequent : Node) (alternate : Option Node)
  | «for» (init test update : Option Node) (body : Node)
  | «return» (argument : Option Node)
  | member (object property : Node) (computed : Bool)
  | binary (operator : String) (left right : Node)
  | logical (operator : String) (left right : Node)
  | unary (operator : String) (argument : Node)
  | literal (value : Literal)
  | identifier (name : String)
  | unsupported (kind : String) (name : Option String) (children : List Node)

namespace Node

/-- The ESTree name of the node's kind; an unsupported node has the kind it was read with. -/
def typeName : Node → String
  | .program .. => "Program"
  | .function .. => "FunctionDeclaration"
  | .block .. => "BlockStatement"
  | .variables .. => "VariableDeclaration"
  | .declarator .. => "VariableDeclarator"
  | .expression .. => "ExpressionStatement"
  | .assignment .. => "AssignmentExpression"
  | .while .. => "WhileStatement"
  | .if .. => "IfStatement"
  | .for .. => "ForStatement"
  | .return .. => "ReturnStatement"
  | .member .. => "MemberExpression"
  | .binary .. => "BinaryExpression"
  | .logical .. => "LogicalExpression"
  | .unary .. => "UnaryExpression"
  | .literal .. => "Literal"
  | .identifier .. => "Identifier"
  | .unsupported kind .. => kind

/-- The names of the supported kinds. -/
def supportedNames : List String :=
  ["Program", "FunctionDeclaration", "BlockStatement", "VariableDeclaration", "VariableDeclarator",
    "ExpressionStatement", "AssignmentExpression", "WhileStatement", "IfStatement", "ForStatement",
    "ReturnStatement", "MemberExpression", "BinaryExpression", "LogicalExpression",
    "UnaryExpression", "Literal", "Identifier"]

/-- Whether the node is of a kind that an outline understands. -/
def isSupported : Node → Bool
  | .unsupported .. => false
  | _ => true

/-- Whether the node is a program. -/
def isProgram : Node → Bool
  | .program _ => true
  | _ => false

/-- Whether the node is an assignment. -/
def isAssignment : Node → Bool
  | .assignment .. => true
  | _ => false

mutual

/-- The number of nodes in a tree. -/
def size : Node → Nat
  | .program body => 1 + sizes body
  | .function id params body => 1 + id.size + sizes params + body.size
  | .block body => 1 + sizes body
  | .variables _ declarations => 1 + sizes declarations
  | .declarator id init => 1 + id.size + sizeOption init
  | .expression e => 1 + e.size
  | .assignment _ left right => 1 + left.size + right.size
  | .while test body => 1 + test.size + body.size
  | .if test consequent alternate => 1 + test.size + consequent.size + sizeOption alternate
  | .for init test update body =>
    1 + sizeOption init + sizeOption test + sizeOption update + body.size
  | .return argument => 1 + sizeOption argument
  | .member object property _ => 1 + object.size + property.size
  | .binary _ left right => 1 + left.size + right.size
  | .logical _ left right => 1 + left.size + right.size
  | .unary _ argument => 1 + argument.size
  | .literal _ => 1
  | .identifier _ => 1
  | .unsupported _ _ children => 1 + sizes children

/-- The number of nodes in a list of trees. -/
def sizes : List Node → Nat
  | [] => 0
  | n :: rest => n.size + sizes rest

/-- The number of nodes in an optional tree. -/
def sizeOption : Option Node → Nat
  | none => 0
  | some n => n.size

end

/-- A tree has at least one node. -/
theorem size_pos (n : Node) : 0 < n.size := by
  cases n <;> simp only [size] <;> omega

end Node

end ScriptOutline
