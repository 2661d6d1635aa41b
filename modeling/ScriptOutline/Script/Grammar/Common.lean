import ScriptOutline.Script.Grammar.Rule

/-!
# Rules without a phrase

Parts that occur in many rules and that have no phrase of their own: wherever one of them stands, its
alternatives stand.
-/

namespace ScriptOutline

namespace Script

namespace Grammar

open Rule

/-- The end of a statement. -/
def semicolon : Rule := oneOf [token .automaticSemicolon, text ";"]

/-- An expression, or several with commas between them. -/
def expressions : Rule := oneOf [group .expression, node .sequenceExpression]

/-- The keywords that are names as well. -/
def reservedName : Rule := texts ["get", "set", "async", "static", "export", "let"]

/-- A name, or a keyword that is one as well, shown as a leaf of some kind. -/
def anyName (kind : Kind) : Rule := shown kind (oneOf [token .identifier, reservedName])

/-- A name that stands for a value. -/
def variableName : Rule := oneOf [text "undefined", token .identifier]

/-- What can be assigned to, parentheses apart. -/
def assignable : Rule :=
  oneOf [node .memberExpression, node .subscriptExpression, variableName,
    shown .identifier reservedName, group .destructuringPattern]

/-- What a declaration binds. -/
def binding : Rule := oneOf [token .identifier, group .destructuringPattern]

/-- The parameters of a function. -/
def signature : Rule := part .parameters (node .formalParameters)

/-- A property name, which is never taken for a keyword. -/
def memberName : Rule := shown .propertyIdentifier (token .identifier)

end Grammar

end Script

end ScriptOutline
