import ScriptOutline.Script.Grammar.Markup

/-!
# Literals

Strings, templates and regular expressions, and the two properties that belong to a keyword.
-/

namespace ScriptOutline

namespace Script

namespace Grammar

open Rule

/-- Literals. -/
def literalRules : List Definition :=
  [Kind.string.definition <| oneOf [quoted "\"" .doubleParts, quoted "'" .singleParts],
    Kind.templateString.definition <| quoted "`" .templateParts,
    Kind.templateSubstitution.definition <|
      sequence [text ("$" ++ leftBrace), expressions, text rightBrace],
    Kind.regex.definition <|
      sequence [text "/", part .pattern (token .regexBody), token .regexEnd,
        optional (part .flags (token .regexFlags))],
    Kind.metaProperty.definition <| oneOf
      [sequence [text "new", text ".", text "target"],
        sequence [text "import", text ".", text "meta"]]]

end Grammar

end Script

end ScriptOutline
