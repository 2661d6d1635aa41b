import ScriptOutline.Script.Grammar.Common

/-!
# Scripts, imports and exports
-/

namespace ScriptOutline

namespace Script

namespace Grammar

open Rule

/-- The whole script, and what a script exports. -/
def exportRules : List Definition :=
  [Kind.program.definition <|
      sequence [optional (token .interpreterLine), optional (repeated .statements)],
    Kind.exportStatement.definition <| oneOf
      [sequence [text "export",
          oneOf [sequence [text "*", group .fromClause],
            sequence [node .namespaceExport, group .fromClause],
            sequence [node .exportClause, group .fromClause],
            node .exportClause],
          semicolon],
        sequence [optional (repeated .decorators), text "export",
          oneOf [part .declaration (group .declaration),
            sequence [text "default",
              oneOf [part .declaration (group .declaration),
                sequence [part .value (group .expression), semicolon]]]]]],
    Kind.namespaceExport.definition <| sequence [text "*", text "as", group .moduleName],
    Kind.exportClause.definition <|
      sequence [text leftBrace, optional (commaList (node .exportSpecifier) .exportSpecifiers),
        optional (text ","), text rightBrace],
    Kind.exportSpecifier.definition <|
      sequence [part .name (group .moduleName),
        optional (sequence [text "as", part .renaming (group .moduleName)])],
    Group.moduleName.definition <| oneOf [token .identifier, node .string],
    Group.declaration.definition <| oneOf
      [node .functionDeclaration, node .generatorFunctionDeclaration, node .classDeclaration,
        node .lexicalDeclaration, node .variableDeclaration]]

/-- What a script imports. -/
def importRules : List Definition :=
  [Kind.import.definition <| text "import",
    Kind.importStatement.definition <|
      sequence [text "import",
        oneOf [sequence [node .importClause, group .fromClause], part .source (node .string)],
        optional (node .importAttribute), semicolon],
    Kind.importClause.definition <| oneOf
      [node .namespaceImport, node .namedImports,
        sequence [token .identifier,
          optional (sequence [text ",", oneOf [node .namespaceImport, node .namedImports]])]],
    Group.fromClause.definition <| sequence [text "from", part .source (node .string)],
    Kind.namespaceImport.definition <| sequence [text "*", text "as", token .identifier],
    Kind.namedImports.definition <|
      sequence [text leftBrace, optional (commaList (node .importSpecifier) .importSpecifiers),
        optional (text ","), text rightBrace],
    Kind.importSpecifier.definition <| oneOf
      [part .name (token .identifier),
        sequence [part .name (group .moduleName), text "as",
          part .renaming (token .identifier)]],
    Kind.importAttribute.definition <| sequence [text "with", node .object]]

end Grammar

end Script

end ScriptOutline
