import Mathlib.Data.List.Forall2
import Mathlib.Tactic.Common
import ScriptOutline.Estree.Reader
import ScriptOutline.Script.Convert

/-!
# The standard shape of trees

How the concrete tree of a script and the JSON value that parsers of the ESTree format write for the
same script correspond, for scripts made of the statements and expressions that an outline
understands, `this`, and plain, default and rest parameters. The rules say what a value has for each
part of a tree, and not how either of the two is read.

Most objects may have further members, such as positions. Those of `this` and of default and rest
parameters have none but their own and positions. These three are the constructs for which a script
has a name and the standard shape has none; the argument `named` of the rules says whether they may
occur.
-/

namespace ScriptOutline

namespace Script

namespace Standard

open Json (Members)

/-! ## Members -/

/-- Both sides have the part, and the two correspond. -/
inductive Has (R : Tree → Json → Prop) : Option Tree → Option Json → Prop where
  | intro {t : Tree} {v : Json} (h : R t v) : Has R (some t) (some v)

/-- The keys that any node may have. -/
def commonKeys : List String := ["type", "start", "end", "range", "loc"]

/-- The object has no members besides the common ones and those under the keys. -/
def HasOnly (members : Members) (keys : List String) : Prop :=
  ∀ key v, Members.get? members key = some v → key ∈ commonKeys ∨ key ∈ keys

/-- The members of a literal with some value. A regular expression is told by its parts and a big
integer by its digits; a number may be written as an integer or not. -/
inductive Denotes (members : Members) : Literal → Prop where
  | integer {i : Int} {d : Double} (hregex : Members.get? members "regex" = none)
      (hbigint : Members.get? members "bigint" = none)
      (hvalue : Members.get? members "value" = some (.number (.integer i)))
      (hd : Double.ofInt i = d) : Denotes members (.number d)
  | float {d : Double} (hregex : Members.get? members "regex" = none)
      (hbigint : Members.get? members "bigint" = none)
      (hvalue : Members.get? members "value" = some (.number (.float d))) :
      Denotes members (.number d)
  | bigint {digits : String} {d : Double} (hregex : Members.get? members "regex" = none)
      (hbigint : Members.get? members "bigint" = some (.string digits))
      (hd : Double.parse? digits.toList = some d) : Denotes members (.number d)
  | string {s : String} (hregex : Members.get? members "regex" = none)
      (hbigint : Members.get? members "bigint" = none)
      (hvalue : Members.get? members "value" = some (.string s)) : Denotes members (.string s)
  | boolean {b : Bool} (hregex : Members.get? members "regex" = none)
      (hbigint : Members.get? members "bigint" = none)
      (hvalue : Members.get? members "value" = some (.boolean b)) : Denotes members (.boolean b)
  | null (hregex : Members.get? members "regex" = none)
      (hbigint : Members.get? members "bigint" = none)
      (hvalue : Members.get? members "value" = some .null) : Denotes members .null
  | regexp {regex : Members} {pattern flags : String}
      (hregex : Members.get? members "regex" = some (.object regex))
      (hpattern : Members.get? regex "pattern" = some (.string pattern))
      (hflags : Members.get? regex "flags" = some (.string flags)) :
      Denotes members (.regexp ("/" ++ pattern ++ "/" ++ flags))

/-! ## Trees -/

/-- The value of a literal. -/
def constant? (t : Tree) : Option Literal :=
  match t.kind? with
  | some .number => some (numberValue t.text)
  | some .string => some (.string (Convert.stringValue t))
  | some .regex => some (.regexp t.text)
  | some .trueLiteral => some (.boolean true)
  | some .falseLiteral => some (.boolean false)
  | some .nullLiteral => some .null
  | _ => none

/-- The kinds of plain names. -/
def nameKinds : List Kind := [.identifier, .propertyIdentifier, .undefined]

/-- The type of an expression with two operands and an operator between them. -/
def binaryType (operator : String) : String :=
  if operator ∈ ["&&", "||", "??"] then "LogicalExpression" else "BinaryExpression"

/-- The expression in a part of the header of a `for` statement. There it may be a statement of its
own, with its semicolon, and a semicolon alone is none. -/
def headerExpression? (t : Tree) : Option Tree :=
  match t.kind? with
  | none => none
  | some .emptyStatement => none
  | some .expressionStatement => t.visibleChildren.head?
  | some _ => some t

/-- Whether the tree declares variables. -/
def declares (t : Tree) : Bool :=
  t.kind? == some .lexicalDeclaration || t.kind? == some .variableDeclaration

/-! ## Rules -/

/-- Expressions. Parentheses leave no trace. -/
inductive Expression (named : Bool) : Tree → Json → Prop where
  | parenthesized {t inner : Tree} {v : Json} (hk : t.kind? = some .parenthesizedExpression)
      (hinner : t.visibleChildren.head? = some inner) (h : Expression named inner v) :
      Expression named t v
  | name {t : Tree} {k : Kind} {members : Members} (hk : t.kind? = some k) (hname : k ∈ nameKinds)
      (htype : Members.get? members "type" = some (.string "Identifier"))
      (htext : Members.get? members "name" = some (.string t.text)) :
      Expression named t (.object members)
  | member {t : Tree} {members : Members} (hk : t.kind? = some .memberExpression)
      (htype : Members.get? members "type" = some (.string "MemberExpression"))
      (hobject : Has (Expression named) (t.part? .object) (Members.get? members "object"))
      (hproperty : Has (Expression named) (t.part? .property) (Members.get? members "property"))
      (hcomputed : Members.get? members "computed" = some (.boolean false)) :
      Expression named t (.object members)
  | subscript {t : Tree} {members : Members} (hk : t.kind? = some .subscriptExpression)
      (htype : Members.get? members "type" = some (.string "MemberExpression"))
      (hobject : Has (Expression named) (t.part? .object) (Members.get? members "object"))
      (hindex : Has (Expression named) (t.part? .index) (Members.get? members "property"))
      (hcomputed : Members.get? members "computed" = some (.boolean true)) :
      Expression named t (.object members)
  | binary {t operator : Tree} {members : Members} (hk : t.kind? = some .binaryExpression)
      (hoperator : t.part? .operator = some operator)
      (htype : Members.get? members "type" = some (.string (binaryType operator.text)))
      (htext : Members.get? members "operator" = some (.string operator.text))
      (hleft : Has (Expression named) (t.part? .left) (Members.get? members "left"))
      (hright : Has (Expression named) (t.part? .right) (Members.get? members "right")) :
      Expression named t (.object members)
  | unary {t operator : Tree} {members : Members} (hk : t.kind? = some .unaryExpression)
      (hoperator : t.part? .operator = some operator)
      (htype : Members.get? members "type" = some (.string "UnaryExpression"))
      (htext : Members.get? members "operator" = some (.string operator.text))
      (hargument : Has (Expression named) (t.part? .argument) (Members.get? members "argument")) :
      Expression named t (.object members)
  | assignment {t : Tree} {members : Members} (hk : t.kind? = some .assignmentExpression)
      (hoperator : t.part? .operator = none)
      (htype : Members.get? members "type" = some (.string "AssignmentExpression"))
      (htext : Members.get? members "operator" = some (.string "="))
      (hleft : Has (Expression named) (t.part? .left) (Members.get? members "left"))
      (hright : Has (Expression named) (t.part? .right) (Members.get? members "right")) :
      Expression named t (.object members)
  | augmented {t operator : Tree} {members : Members}
      (hk : t.kind? = some .augmentedAssignmentExpression)
      (hoperator : t.part? .operator = some operator)
      (htype : Members.get? members "type" = some (.string "AssignmentExpression"))
      (htext : Members.get? members "operator" = some (.string operator.text))
      (hleft : Has (Expression named) (t.part? .left) (Members.get? members "left"))
      (hright : Has (Expression named) (t.part? .right) (Members.get? members "right")) :
      Expression named t (.object members)
  | literal {t : Tree} {value : Literal} {members : Members} (ht : constant? t = some value)
      (htype : Members.get? members "type" = some (.string "Literal"))
      (hvalue : Denotes members value) : Expression named t (.object members)
  | this {t : Tree} {members : Members} (hnamed : named = true) (hk : t.kind? = some .this)
      (htype : Members.get? members "type" = some (.string "ThisExpression"))
      (honly : HasOnly members []) : Expression named t (.object members)

/-- Parameters: a plain name, a name with a default value, or a name for the rest. -/
inductive Parameter (named : Bool) : Tree → Json → Prop where
  | plain {t : Tree} {v : Json} (hk : t.kind? = some .identifier) (h : Expression named t v) :
      Parameter named t v
  | default {t : Tree} {members : Members} (hnamed : named = true)
      (hk : t.kind? = some .assignmentPattern)
      (htype : Members.get? members "type" = some (.string "AssignmentPattern"))
      (hleft : Has (Expression named) (t.part? .left) (Members.get? members "left"))
      (hright : Has (Expression named) (t.part? .right) (Members.get? members "right"))
      (honly : HasOnly members ["left", "right"]) : Parameter named t (.object members)
  | rest {t : Tree} {members : Members} (hnamed : named = true)
      (hk : t.kind? = some .restPattern)
      (htype : Members.get? members "type" = some (.string "RestElement"))
      (hargument : Has (Expression named) t.visibleChildren.head? (Members.get? members "argument"))
      (honly : HasOnly members ["argument"]) : Parameter named t (.object members)

/-- Declarators of variables. -/
inductive Declarator (named : Bool) : Tree → Json → Prop where
  | intro {t : Tree} {members : Members}
      (htype : Members.get? members "type" = some (.string "VariableDeclarator"))
      (hid : Has (Expression named) (t.part? .name) (Members.get? members "id"))
      (hinit : Option.Rel (Expression named) (t.part? .value) (Estree.present? members "init")) :
      Declarator named t (.object members)

/-- What may follow `else`. -/
inductive Alternative (R : Tree → Json → Prop) : Option Tree → Option Json → Prop where
  | none : Alternative R none none
  | some {clause branch : Tree} {v : Json} (hbranch : clause.visibleChildren.head? = some branch)
      (h : R branch v) : Alternative R (some clause) (some v)

/-- What may stand in front of the first semicolon of a `for` statement: a declaration or an
expression. -/
inductive Initial (named : Bool) (R : Tree → Json → Prop) :
    Option Tree → Option Json → Prop where
  | declaration {t : Tree} {v : Json} (ht : declares t = true) (h : R t v) :
      Initial named R (some t) (some v)
  | expression {o : Option Tree} {j : Option Json} (ho : ∀ t, o = some t → declares t = false)
      (h : Option.Rel (Expression named) (o.bind headerExpression?) j) : Initial named R o j

/-- Statements. -/
inductive Statement (named : Bool) : Tree → Json → Prop where
  | function {t list : Tree} {members : Members} {params : List Json}
      (hk : t.kind? = some .functionDeclaration ∨ t.kind? = some .generatorFunctionDeclaration)
      (htype : Members.get? members "type" = some (.string "FunctionDeclaration"))
      (hid : Has (Expression named) (t.part? .name) (Members.get? members "id"))
      (hlist : t.part? .parameters = some list)
      (hparams : Members.get? members "params" = some (.array params))
      (h : List.Forall₂ (Parameter named) list.visibleChildren params)
      (hbody : Has (Statement named) (t.part? .body) (Members.get? members "body")) :
      Statement named t (.object members)
  | block {t : Tree} {members : Members} {body : List Json} (hk : t.kind? = some .statementBlock)
      (htype : Members.get? members "type" = some (.string "BlockStatement"))
      (hbody : Members.get? members "body" = some (.array body))
      (h : List.Forall₂ (Statement named) t.visibleChildren body) :
      Statement named t (.object members)
  | variables {t keyword : Tree} {role : Option Role} {members : Members}
      {declarations : List Json} (hk : declares t = true)
      (htype : Members.get? members "type" = some (.string "VariableDeclaration"))
      (hkeyword : t.children.head? = some (role, keyword))
      (hkind : Members.get? members "kind" = some (.string keyword.text))
      (hdeclarations : Members.get? members "declarations" = some (.array declarations))
      (h : List.Forall₂ (Declarator named)
        (t.visibleChildren.filter (·.kind? == some .variableDeclarator)) declarations) :
      Statement named t (.object members)
  | expression {t : Tree} {members : Members} (hk : t.kind? = some .expressionStatement)
      (htype : Members.get? members "type" = some (.string "ExpressionStatement"))
      (h : Has (Expression named) t.visibleChildren.head? (Members.get? members "expression")) :
      Statement named t (.object members)
  | while {t : Tree} {members : Members} (hk : t.kind? = some .whileStatement)
      (htype : Members.get? members "type" = some (.string "WhileStatement"))
      (htest : Has (Expression named) (t.part? .condition) (Members.get? members "test"))
      (hbody : Has (Statement named) (t.part? .body) (Members.get? members "body")) :
      Statement named t (.object members)
  | if {t : Tree} {members : Members} (hk : t.kind? = some .ifStatement)
      (htype : Members.get? members "type" = some (.string "IfStatement"))
      (htest : Has (Expression named) (t.part? .condition) (Members.get? members "test"))
      (hconsequent : Has (Statement named) (t.part? .consequence)
        (Members.get? members "consequent"))
      (halternate : Alternative (Statement named) (t.part? .alternative)
        (Estree.present? members "alternate")) : Statement named t (.object members)
  | for {t : Tree} {members : Members} (hk : t.kind? = some .forStatement)
      (htype : Members.get? members "type" = some (.string "ForStatement"))
      (hinit : Initial named (Statement named) (t.part? .initializer)
        (Estree.present? members "init"))
      (htest : Option.Rel (Expression named) ((t.part? .condition).bind headerExpression?)
        (Estree.present? members "test"))
      (hupdate : Option.Rel (Expression named) (t.part? .increment)
        (Estree.present? members "update"))
      (hbody : Has (Statement named) (t.part? .body) (Members.get? members "body")) :
      Statement named t (.object members)
  | return {t : Tree} {members : Members} (hk : t.kind? = some .returnStatement)
      (htype : Members.get? members "type" = some (.string "ReturnStatement"))
      (h : Option.Rel (Expression named) t.visibleChildren.head?
        (Estree.present? members "argument")) :
      Statement named t (.object members)

/-- Whole scripts. -/
inductive Program (named : Bool) : Tree → Json → Prop where
  | intro {t : Tree} {members : Members} {body : List Json} (hk : t.kind? = some .program)
      (htype : Members.get? members "type" = some (.string "Program"))
      (hbody : Members.get? members "body" = some (.array body))
      (h : List.Forall₂ (Statement named) t.visibleChildren body) :
      Program named t (.object members)

end Standard

end Script

end ScriptOutline
