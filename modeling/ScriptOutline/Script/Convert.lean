import ScriptOutline.Error
import ScriptOutline.Script.Tree
import ScriptOutline.Script.Value
import ScriptOutline.Syntax.Node

/-!
# From concrete to abstract syntax

The concrete tree of a script is turned into an abstract one: parentheses and comments go, and every
construct without a case of its own becomes an unsupported node under its ESTree name.

Every statement, expression, declarator and container takes one level of depth, and so does every
pair of parentheses. The number of levels left is also what the recursion runs on.
-/

namespace ScriptOutline

namespace Script

namespace Convert

/-- The outcome of a conversion. -/
abbrev Converted (α : Type) := Except AnalysisError α

/-- A part that the grammar guarantees. -/
def required (t : Tree) (role : Role) : Converted Tree :=
  match t.part? role with
  | some part => .ok part
  | none => .error (.malformedNode ((t.kind?.map Kind.typeName).getD "") role.label)

/-- The text of a required part, which is a keyword or punctuation. -/
def requiredText (t : Tree) (role : Role) : Converted String := (required t role).map Tree.text

/-- The value of a string literal, put together from its fragments and escape sequences. -/
def stringValue (t : Tree) : String :=
  String.ofList <| t.visibleChildren.flatMap fun part =>
    match part with
    | .leaf .stringFragment s => s.toList
    | .leaf .escapeSequence s => unescaped (s.toList.drop 1)
    | _ => []

/-- A parameter with a default or a rest parameter: of its target only a plain name is kept. -/
def patternParameter (t : Tree) (kind : Kind) : Node :=
  let target := (t.part? .left).orElse fun _ => t.visibleChildren.head?
  let name := target.bind fun x =>
    match x with
    | .leaf .identifier s => some s
    | _ => none
  .unsupported kind.typeName name []

/-- Converts a list; the first error wins. -/
def convertAll {α : Type} (f : Tree → Converted α) : List Tree → Converted (List α)
  | [] => .ok []
  | t :: rest => do return (← f t) :: (← convertAll f rest)

/-- The operators of logical expressions. -/
def isLogical (operator : String) : Bool := operator == "&&" || operator == "||" || operator == "??"

/-- An expression, given how its parts are converted. -/
def expressionWith (self : Tree → Converted Node) (t : Tree) : Converted Node := do
  let part (role : Role) : Converted Node := do self (← required t role)
  match t.kind? with
  | some .parenthesizedExpression =>
    match t.visibleChildren.head? with
    | some inner => self inner
    | none => throw (.malformedNode "ParenthesizedExpression" "expression")
  | some .identifier | some .propertyIdentifier | some .shorthandPropertyIdentifier
  | some .shorthandPropertyIdentifierPattern | some .privatePropertyIdentifier
  | some .statementIdentifier | some .undefined => return .identifier t.text
  | some .memberExpression => return .member (← part .object) (← part .property) false
  | some .subscriptExpression => return .member (← part .object) (← part .index) true
  | some .binaryExpression =>
    let operator ← requiredText t .operator
    let left ← part .left
    let right ← part .right
    return if isLogical operator then .logical operator left right else .binary operator left right
  | some .unaryExpression => return .unary (← requiredText t .operator) (← part .argument)
  | some .assignmentExpression | some .augmentedAssignmentExpression =>
    let operator := ((t.part? .operator).map Tree.text).getD "="
    return .assignment operator (← part .left) (← part .right)
  | some .number => return .literal (numberValue t.text)
  | some .string => return .literal (.string (stringValue t))
  | some .regex => return .literal (.regexp t.text)
  | some .trueLiteral => return .literal (.boolean true)
  | some .falseLiteral => return .literal (.boolean false)
  | some .nullLiteral => return .literal .null
  | some .this => return .unsupported Kind.this.typeName (some t.text) []
  | some .super => return .unsupported Kind.super.typeName (some t.text) []
  | some other => return .unsupported other.typeName none []
  | none => return .unsupported "" none []

/-- Converts an expression with a number of levels left. -/
def expression (limit : Nat) : Nat → Tree → Converted Node
  | 0, _ => .error (.nestingTooDeep limit)
  | depth + 1, t => expressionWith (expression limit depth) t

/-- Converts a parameter. -/
def parameter (limit depth : Nat) (t : Tree) : Converted Node :=
  match t.kind? with
  | some .assignmentPattern => .ok (patternParameter t .assignmentPattern)
  | some .restPattern => .ok (patternParameter t .restPattern)
  | _ => expression limit depth t

/-- Converts a declarator. -/
def declarator (limit : Nat) : Nat → Tree → Converted Node
  | 0, _ => .error (.nestingTooDeep limit)
  | depth + 1, t => do
    let id ← expression limit depth (← required t .name)
    let init ← (t.part? .value).mapM (expression limit depth)
    return .declarator id init

/-- Converts a part of the header of a `for` statement; an empty part is nothing. -/
def headerPart (limit depth : Nat) (t : Tree) : Converted (Option Node) :=
  match t with
  | .token _ => .ok none
  | t =>
    match t.kind? with
    | some .emptyStatement => .ok none
    | some .expressionStatement => t.visibleChildren.head?.mapM (expression limit depth)
    | _ => (expression limit depth t).map some

/-- Converts what stands in front of the first semicolon of a `for` statement, given how declarations
are converted. -/
def initializer (declaration : Tree → Converted Node) (limit depth : Nat) (t : Tree) :
    Converted (Option Node) :=
  if t.kind? == some .lexicalDeclaration || t.kind? == some .variableDeclaration then
    (declaration t).map some
  else
    headerPart limit depth t

/-- Converts a part of the header of a `for` statement that need not be there. -/
def optionalPart (f : Tree → Converted (Option Node)) : Option Tree → Converted (Option Node)
  | some part => f part
  | none => .ok none

/-- Whether a tree is a statement or holds statements. -/
def holdsStatements (t : Tree) : Bool :=
  match t.kind? with
  | some k => k.isStatement || k.isContainer
  | none => false

/-- Converts a statement, or something that holds statements, with a number of levels left. Of a
construct without a case of its own, the statements and what holds statements become the
children. -/
def statement (limit : Nat) : Nat → Tree → Converted Node
  | 0, _ => .error (.nestingTooDeep limit)
  | depth + 1, t => do
    match t.kind? with
    | some .functionDeclaration | some .generatorFunctionDeclaration =>
      let id ← expression limit depth (← required t .name)
      let params ← convertAll (parameter limit depth) (← required t .parameters).visibleChildren
      let body ← statement limit depth (← required t .body)
      return .function id params body
    | some .statementBlock =>
      return .block (← convertAll (statement limit depth) t.visibleChildren)
    | some .lexicalDeclaration | some .variableDeclaration =>
      let keyword := (t.children.head?.map (·.2.text)).getD "var"
      let declarators := t.visibleChildren.filter (·.kind? == some .variableDeclarator)
      return .variables keyword (← convertAll (declarator limit depth) declarators)
    | some .expressionStatement =>
      match t.visibleChildren.head? with
      | some inner => return .expression (← expression limit depth inner)
      | none => throw (.malformedNode "ExpressionStatement" "expression")
    | some .whileStatement =>
      let test ← expression limit depth (← required t .condition)
      let body ← statement limit depth (← required t .body)
      return .while test body
    | some .ifStatement =>
      let test ← expression limit depth (← required t .condition)
      let consequent ← statement limit depth (← required t .consequence)
      let alternate ← (t.part? .alternative).mapM fun clause => do
        match clause.visibleChildren.head? with
        | some branch => statement limit depth branch
        | none => throw (.malformedNode "IfStatement" "alternate")
      return .if test consequent alternate
    | some .forStatement =>
      let init ← optionalPart (initializer (statement limit depth) limit depth)
        (t.part? .initializer)
      let test ← optionalPart (headerPart limit depth) (t.part? .condition)
      let update ← (t.part? .increment).mapM (expression limit depth)
      let body ← statement limit depth (← required t .body)
      return .for init test update body
    | some .returnStatement =>
      return .return (← t.visibleChildren.head?.mapM (expression limit depth))
    | some kind =>
      let parts := t.visibleChildren.filter holdsStatements
      return .unsupported kind.typeName none (← convertAll (statement limit depth) parts)
    | none => return .unsupported "" none []

/-- Converts the tree of a whole script. -/
def toProgram (limit : Nat) (root : Tree) : Converted Node := do
  return .program (← convertAll (statement limit (limit + 1)) root.visibleChildren)

end Convert

end Script

end ScriptOutline
