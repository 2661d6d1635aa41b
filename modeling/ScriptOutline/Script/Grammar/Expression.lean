import ScriptOutline.Script.Grammar.Common

/-!
# Expressions

What an expression can be, objects, arrays and the patterns that look like them.
-/

namespace ScriptOutline

namespace Script

namespace Grammar

open Rule

/-- An element in markup. -/
def markup : Rule := oneOf [node .jsxElement, node .jsxSelfClosingElement]

/-- A member of an object. -/
def objectMember : Rule :=
  oneOf [node .pair, node .spreadElement, node .methodDefinition,
    anyName .shorthandPropertyIdentifier]

/-- A member of an object pattern. -/
def patternMember : Rule :=
  oneOf [node .pairPattern, node .restPattern, node .objectAssignmentPattern,
    anyName .shorthandPropertyIdentifierPattern]

/-- An element of an array, or an argument of a call. -/
def element : Rule := oneOf [group .expression, node .spreadElement]

/-- An element of an array pattern, or a parameter. -/
def patternElement : Rule := oneOf [group .pattern, node .assignmentPattern]

/-- Elements that may be left out between the commas. -/
def sparseList (element : Rule) (more : Repetition) : Rule :=
  optional (commaList (optional element) more)

/-- Expressions, objects and arrays. -/
def expressionRules : List Definition :=
  [Kind.parenthesizedExpression.definition <| sequence [text "(", expressions, text ")"],
    Group.expression.definition <| oneOf
      [group .primaryExpression, markup, node .assignmentExpression,
        node .augmentedAssignmentExpression, node .awaitExpression, node .unaryExpression,
        node .binaryExpression, node .ternaryExpression, node .updateExpression,
        node .newExpression, node .yieldExpression],
    Group.primaryExpression.definition <| oneOf
      [node .subscriptExpression, node .memberExpression, node .parenthesizedExpression,
        variableName, shown .identifier reservedName, text "this", text "super", token .number,
        node .string, node .templateString, node .regex, text "true", text "false", text "null",
        node .object, node .array, node .functionExpression, node .arrowFunction,
        node .generatorFunction, node .class, node .metaProperty, node .callExpression],
    Kind.yieldExpression.definition <| nestRight <|
      sequence [text "yield",
        oneOf [sequence [text "*", group .expression], optional (group .expression)]],
    Kind.object.definition <| rank .object <|
      sequence [text leftBrace, sparseList objectMember .properties, text rightBrace],
    Kind.objectPattern.definition <| rank .object <|
      sequence [text leftBrace, sparseList patternMember .patternProperties, text rightBrace],
    Kind.assignmentPattern.definition <|
      sequence [part .left (group .pattern), text "=", part .right (group .expression)],
    Kind.objectAssignmentPattern.definition <|
      sequence [part .left (oneOf [anyName .shorthandPropertyIdentifierPattern,
          group .destructuringPattern]),
        text "=", part .right (group .expression)],
    Kind.array.definition <| sequence [text "[", sparseList element .elements, text "]"],
    Kind.arrayPattern.definition <|
      sequence [text "[", sparseList patternElement .patternElements, text "]"]]

end Grammar

end Script

end ScriptOutline
