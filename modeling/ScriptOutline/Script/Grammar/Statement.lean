import ScriptOutline.Script.Grammar.Common

/-!
# Statements
-/

namespace ScriptOutline

namespace Script

namespace Grammar

open Rule

/-- Statements and declarations of variables. -/
def statementRules : List Definition :=
  [Group.statement.definition <| oneOf
      [node .exportStatement, node .importStatement, node .debuggerStatement,
        node .expressionStatement, group .declaration, node .statementBlock, node .ifStatement,
        node .switchStatement, node .forStatement, node .forInStatement, node .whileStatement,
        node .doStatement, node .tryStatement, node .withStatement, node .breakStatement,
        node .continueStatement, node .returnStatement, node .throwStatement,
        node .emptyStatement, node .labeledStatement],
    Kind.expressionStatement.definition <| sequence [expressions, semicolon],
    Kind.variableDeclaration.definition <|
      sequence [text "var", commaList (node .variableDeclarator) .declarators, semicolon],
    Kind.lexicalDeclaration.definition <|
      sequence [part .keyword (texts ["let", "const"]),
        commaList (node .variableDeclarator) .declarators, semicolon],
    Kind.variableDeclarator.definition <|
      sequence [part .name binding, optional (group .initializer)],
    Kind.statementBlock.definition <| nestRight <|
      sequence [text leftBrace, optional (repeated .statements), text rightBrace,
        optional (token .automaticSemicolon)],
    Kind.elseClause.definition <| sequence [text "else", group .statement],
    Kind.ifStatement.definition <| nestRight <|
      sequence [text "if", part .condition (node .parenthesizedExpression),
        part .consequence (group .statement), optional (part .alternative (node .elseClause))],
    Kind.switchStatement.definition <|
      sequence [text "switch", part .value (node .parenthesizedExpression),
        part .body (node .switchBody)]]

/-- Loops. In the header of a loop over a collection, a semicolon that is not written may follow what
`let` and `const` declare. -/
def loopRules : List Definition :=
  [Kind.forStatement.definition <|
      sequence [text "for", text "(",
        oneOf [part .initializer (oneOf [node .lexicalDeclaration, node .variableDeclaration]),
          sequence [part .initializer expressions, text ";"],
          part .initializer (node .emptyStatement)],
        part .condition (oneOf [sequence [expressions, text ";"], node .emptyStatement]),
        part .increment (optional expressions), text ")", part .body (group .statement)],
    Kind.forInStatement.definition <|
      sequence [text "for", optional (text "await"), group .forHeader,
        part .body (group .statement)],
    Group.forHeader.definition <|
      sequence [text "(",
        oneOf [part .left (oneOf [assignable, node .parenthesizedExpression]),
          sequence [part .keyword (text "var"), part .left binding,
            optional (group .initializer)],
          sequence [part .keyword (texts ["let", "const"]), part .left binding,
            optional (token .automaticSemicolon)]],
        part .operator (texts ["in", "of"]), part .right expressions, text ")"],
    Kind.whileStatement.definition <|
      sequence [text "while", part .condition (node .parenthesizedExpression),
        part .body (group .statement)],
    Kind.doStatement.definition <| nestRight <|
      sequence [text "do", part .body (group .statement), text "while",
        part .condition (node .parenthesizedExpression), optional semicolon]]

/-- A jump to a label, or out of what it stands in. -/
def jump (word : String) : Rule :=
  sequence [text word,
    part .target (optional (shown .statementIdentifier (token .identifier))), semicolon]

/-- The other statements. -/
def controlRules : List Definition :=
  [Kind.tryStatement.definition <|
      sequence [text "try", part .body (node .statementBlock),
        optional (part .handler (node .catchClause)),
        optional (part .finalizer (node .finallyClause))],
    Kind.withStatement.definition <|
      sequence [text "with", part .object (node .parenthesizedExpression),
        part .body (group .statement)],
    Kind.breakStatement.definition <| jump "break",
    Kind.continueStatement.definition <| jump "continue",
    Kind.debuggerStatement.definition <| sequence [text "debugger", semicolon],
    Kind.returnStatement.definition <| sequence [text "return", optional expressions, semicolon],
    Kind.throwStatement.definition <| sequence [text "throw", expressions, semicolon],
    Kind.emptyStatement.definition <| text ";",
    Kind.labeledStatement.definition <| weighted (-1) <|
      sequence [part .target (anyName .statementIdentifier), text ":",
        part .body (group .statement)],
    Kind.switchBody.definition <|
      sequence [text leftBrace, optional (repeated .switchCases), text rightBrace],
    Kind.switchCase.definition <|
      sequence [text "case", part .value expressions, text ":",
        part .body (optional (repeated .statements))],
    Kind.switchDefault.definition <|
      sequence [text "default", text ":", part .body (optional (repeated .statements))],
    Kind.catchClause.definition <|
      sequence [text "catch",
        optional (sequence [text "(", part .parameter binding, text ")"]),
        part .body (node .statementBlock)],
    Kind.finallyClause.definition <| sequence [text "finally", part .body (node .statementBlock)]]

end Grammar

end Script

end ScriptOutline
