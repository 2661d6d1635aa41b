import ScriptOutline.Script.Grammar.Expression

/-!
# Arguments, parameters and members
-/

namespace ScriptOutline

namespace Script

namespace Grammar

open Rule

/-- What a decorator applies: a name or a member of one. -/
def decoratorTarget : Rule :=
  oneOf [token .identifier, shown .memberExpression (group .decoratorMember)]

/-- Arguments, parameters and members. -/
def classRules : List Definition :=
  [Kind.arguments.definition <| sequence [text "(", sparseList element .elements, text ")"],
    Kind.decorator.definition <|
      sequence [text "@",
        oneOf [decoratorTarget, shown .callExpression (group .decoratorCall)]],
    Group.decoratorMember.definition <| rank .member <|
      sequence [part .object decoratorTarget, text ".", part .property memberName],
    Group.decoratorCall.definition <| rank .call <|
      sequence [part .callee decoratorTarget, part .arguments (node .arguments)],
    Kind.classBody.definition <|
      sequence [text leftBrace, optional (repeated .classMembers), text rightBrace],
    Kind.fieldDefinition.definition <|
      sequence [optional (repeated .decorators), optional (text "static"),
        part .property (group .propertyName), optional (group .initializer)],
    Kind.formalParameters.definition <|
      sequence [text "(",
        optional (sequence [commaList patternElement .parameters, optional (text ",")]),
        text ")"],
    Kind.classStaticBlock.definition <|
      sequence [text "static", optional (token .automaticSemicolon),
        part .body (node .statementBlock)],
    Group.pattern.definition <| weighted (-1) <| oneOf [assignable, node .restPattern],
    Kind.restPattern.definition <| nestRight <| sequence [text "...", assignable],
    Kind.methodDefinition.definition <|
      sequence [optional (repeated .decorators),
        optional (oneOf [text "static", token .staticGetter]), optional (text "async"),
        optional (texts ["get", "set", "*"]), part .name (group .propertyName), signature,
        part .body (node .statementBlock)],
    Kind.pair.definition <|
      sequence [part .key (group .propertyName), text ":", part .value (group .expression)],
    Kind.pairPattern.definition <|
      sequence [part .key (group .propertyName), text ":", part .value patternElement],
    Group.propertyName.definition <| oneOf
      [anyName .propertyIdentifier, token .privateName, node .string, token .number,
        node .computedPropertyName],
    Kind.computedPropertyName.definition <| sequence [text "[", group .expression, text "]"]]

end Grammar

end Script

end ScriptOutline
