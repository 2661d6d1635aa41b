import ScriptOutline.Script.Grammar.Common

/-!
# Classes and functions
-/

namespace ScriptOutline

namespace Script

namespace Grammar

open Rule

/-- The first words of a function; an asterisk makes it a generator. -/
def functionWords (isGenerator : Bool) : List Rule :=
  [optional (text "async"), text "function"] ++ if isGenerator then [text "*"] else []

/-- A function whose name may be left out. -/
def functionValue (isGenerator : Bool) : Rule :=
  rank .literal <| sequence <| functionWords isGenerator ++
    [part .name (optional (token .identifier)), signature, part .body (node .statementBlock)]

/-- A function with a name. -/
def functionStatement (isGenerator : Bool) : Rule :=
  rankRight .declare <| sequence <| functionWords isGenerator ++
    [part .name (token .identifier), signature, part .body (node .statementBlock),
      optional (token .automaticSemicolon)]

/-- Classes and functions. -/
def functionRules : List Definition :=
  [Kind.class.definition <| rank .literal <|
      sequence [optional (repeated .decorators), text "class",
        part .name (optional (token .identifier)), optional (node .classHeritage),
        part .body (node .classBody)],
    Kind.classDeclaration.definition <| rank .declare <|
      sequence [optional (repeated .decorators), text "class", part .name (token .identifier),
        optional (node .classHeritage), part .body (node .classBody),
        optional (token .automaticSemicolon)],
    Kind.classHeritage.definition <| sequence [text "extends", group .expression],
    Kind.functionExpression.definition <| functionValue false,
    Kind.functionDeclaration.definition <| functionStatement false,
    Kind.generatorFunction.definition <| functionValue true,
    Kind.generatorFunctionDeclaration.definition <| functionStatement true,
    Kind.arrowFunction.definition <|
      sequence [optional (text "async"),
        oneOf [part .parameter (oneOf [shown .identifier reservedName, token .identifier]),
          signature],
        text "=>", part .body (oneOf [group .expression, node .statementBlock])]]

end Grammar

end Script

end ScriptOutline
