import ScriptOutline.Script.Grammar.Common

/-!
# Calls, members and operators
-/

namespace ScriptOutline

namespace Script

namespace Grammar

open Rule

/-- The binary operators that nest on their left, with their ranks, `in` apart. -/
def binaryOperators : List (String × Rank) :=
  [("&&", .logicalAnd), ("||", .logicalOr), (">>", .shift), (">>>", .shift), ("<<", .shift),
    ("&", .bitAnd), ("^", .bitXor), ("|", .bitOr), ("+", .plus), ("-", .plus), ("*", .times),
    ("/", .times), ("%", .times), ("<", .relation), ("<=", .relation), ("==", .equality),
    ("===", .equality), ("!=", .equality), ("!==", .equality), (">=", .relation), (">", .relation),
    ("??", .ternary), ("instanceof", .relation)]

/-- An operator between two operands. -/
def binary (left : Rule) (operator : String) : Rule :=
  sequence [part .left left, part .operator (text operator), part .right (group .expression)]

/-- The operators that assign the result of another operator. -/
def compoundOperators : List String :=
  ["+=", "-=", "*=", "/=", "%=", "^=", "&=", "|=", ">>=", ">>>=", "<<=", "**=", "&&=", "||=",
    "??="]

/-- Calls and members. -/
def memberRules : List Definition :=
  [Kind.callExpression.definition <| oneOf
      [rank .call <|
          sequence [part .callee (oneOf [group .expression, node .import]),
            part .arguments (node .arguments)],
        rank .templateCall <|
          sequence [part .callee (oneOf [group .primaryExpression, node .newExpression]),
            part .arguments (node .templateString)],
        rank .member <|
          sequence [part .callee (group .primaryExpression), text "?.",
            part .arguments (node .arguments)]],
    Kind.newExpression.definition <| rankRight .new <|
      sequence [text "new", part .maker (oneOf [group .primaryExpression, node .newExpression]),
        part .arguments (optional (weighted 1 (node .arguments)))],
    Kind.awaitExpression.definition <| rank .unary <| sequence [text "await", group .expression],
    Kind.memberExpression.definition <| rank .member <|
      sequence [part .object (oneOf [group .expression, group .primaryExpression, node .import]),
        oneOf [text ".", part .chain (text "?.")],
        part .property (oneOf [token .privateName, memberName])],
    Kind.subscriptExpression.definition <| rankRight .member <|
      sequence [part .object (oneOf [group .expression, group .primaryExpression]),
        optional (part .chain (text "?.")), text "[", part .index expressions, text "]"]]

/-- Operators. -/
def operatorRules : List Definition :=
  [Kind.assignmentExpression.definition <| rankRight .assign <|
      sequence [part .left (oneOf [node .parenthesizedExpression, assignable]), text "=",
        part .right (group .expression)],
    Group.compoundTarget.definition <| oneOf
      [node .memberExpression, node .subscriptExpression, shown .identifier reservedName,
        token .identifier, node .parenthesizedExpression],
    Kind.augmentedAssignmentExpression.definition <| rankRight .assign <|
      sequence [part .left (group .compoundTarget), part .operator (texts compoundOperators),
        part .right (group .expression)],
    Group.initializer.definition <| sequence [text "=", part .value (group .expression)],
    Group.destructuringPattern.definition <| oneOf [node .objectPattern, node .arrayPattern],
    Kind.spreadElement.definition <| sequence [text "...", group .expression],
    Kind.ternaryExpression.definition <| rankRight .ternary <|
      sequence [part .condition (group .expression), token .questionMark,
        part .consequence (group .expression), text ":", part .alternative (group .expression)],
    Kind.binaryExpression.definition <| oneOf <|
      binaryOperators.map (fun (operator, strength) =>
          rankLeft strength (binary (group .expression) operator)) ++
        [rankRight .power (binary (group .expression) "**"),
          rankLeft .relation (binary (oneOf [group .expression, token .privateName]) "in")],
    Kind.unaryExpression.definition <| rankLeft .unary <|
      sequence [part .operator (texts ["!", "~", "-", "+", "typeof", "void", "delete"]),
        part .argument (group .expression)],
    Kind.updateExpression.definition <| nestLeft <| oneOf
      [sequence [part .argument (group .expression), part .operator (texts ["++", "--"])],
        sequence [part .operator (texts ["++", "--"]), part .argument (group .expression)]],
    Kind.sequenceExpression.definition <| nestRight <|
      commaList (group .expression) .expressions]

end Grammar

end Script

end ScriptOutline
