import ScriptOutline.Script.Grammar.Expression

/-!
# Markup

Elements with tags, attributes and text, which are expressions.
-/

namespace ScriptOutline

namespace Script

namespace Grammar

open Rule

/-- A name in a tag. -/
def tagWord : Rule := oneOf [shown .identifier (token .tagName), token .identifier]

/-- The name of an element. -/
def elementName : Rule :=
  oneOf [tagWord, shown .memberExpression (group .nestedName), node .jsxNamespaceName]

/-- The name of an attribute. -/
def attributeName : Rule := oneOf [shown .propertyIdentifier tagWord, node .jsxNamespaceName]

/-- The value of an attribute. -/
def attributeValue : Rule :=
  oneOf [shown .string (group .attributeString), node .jsxExpression, markup]

/-- An attribute. -/
def tagAttribute : Rule := oneOf [node .jsxAttribute, node .jsxExpression]

/-- What stands between the tags of an element. -/
def tagChild : Rule :=
  oneOf [token .tagText, token .characterReference, markup, node .jsxExpression]

/-- A name with its attributes. -/
def tagContent : List Rule :=
  [part .name elementName, optional (repeated .attributes)]

/-- A text between quotes. -/
def quoted (quote : String) (parts : Repetition) : Rule :=
  sequence [text quote, optional (repeated parts), text quote]

/-- Elements. -/
def markupRules : List Definition :=
  [Kind.jsxElement.definition <|
      sequence [part .openTag (node .jsxOpeningElement), optional (repeated .tagChildren),
        part .closeTag (node .jsxClosingElement)],
    Kind.jsxExpression.definition <|
      sequence [text leftBrace,
        optional (oneOf [group .expression, node .sequenceExpression, node .spreadElement]),
        text rightBrace],
    Kind.jsxOpeningElement.definition <| weighted (-1) <|
      sequence [text "<", optional (sequence tagContent), text ">"],
    Group.nestedName.definition <| rank .member <|
      sequence [part .object (oneOf [token .identifier,
          shown .memberExpression (group .nestedName)]),
        text ".", part .property memberName],
    Kind.jsxNamespaceName.definition <| sequence [tagWord, text ":", tagWord],
    Kind.jsxClosingElement.definition <|
      sequence [text "</", optional (part .name elementName), text ">"],
    Kind.jsxSelfClosingElement.definition <|
      sequence [text "<", sequence tagContent, text "/>"],
    Kind.jsxAttribute.definition <|
      sequence [attributeName, optional (sequence [text "=", attributeValue])],
    Group.attributeString.definition <| oneOf
      [quoted "\"" .doubleAttributeParts, quoted "'" .singleAttributeParts]]

end Grammar

end Script

end ScriptOutline
