import ScriptOutline.Script.Grammar.Function
import ScriptOutline.Script.Grammar.Literal
import ScriptOutline.Script.Grammar.Member
import ScriptOutline.Script.Grammar.Module
import ScriptOutline.Script.Grammar.Operator
import ScriptOutline.Script.Grammar.Statement

/-!
# The language

All rules together, the repetitions that they use, and the orders of strength. `rankings` decides
between phrases that compete for the same tokens. A phrase takes part in a ranking by its rank or in
its own name.
-/

namespace ScriptOutline

namespace Script

namespace Grammar

open Rule

/-- A comma with what follows it. -/
def afterComma (rule : Rule) : Rule := sequence [text ",", rule]

/-- What the repetitions repeat. -/
def repetitionRules : List Definition :=
  [Repetition.statements.definition (group .statement),
    Repetition.decorators.definition (part .decorator (node .decorator)),
    Repetition.exportSpecifiers.definition (afterComma (node .exportSpecifier)),
    Repetition.importSpecifiers.definition (afterComma (node .importSpecifier)),
    Repetition.declarators.definition (afterComma (node .variableDeclarator)),
    Repetition.switchCases.definition (oneOf [node .switchCase, node .switchDefault]),
    Repetition.properties.definition (afterComma (optional objectMember)),
    Repetition.patternProperties.definition (afterComma (optional patternMember)),
    Repetition.elements.definition (afterComma (optional element)),
    Repetition.patternElements.definition (afterComma (optional patternElement)),
    Repetition.tagChildren.definition tagChild,
    Repetition.attributes.definition (part .tagAttribute tagAttribute),
    Repetition.doubleAttributeParts.definition
      (oneOf [token .doubleAttributeFragment, token .characterReference]),
    Repetition.singleAttributeParts.definition
      (oneOf [token .singleAttributeFragment, token .characterReference]),
    Repetition.expressions.definition (afterComma (group .expression)),
    Repetition.doubleParts.definition (oneOf [token .doubleFragment, token .escape]),
    Repetition.singleParts.definition (oneOf [token .singleFragment, token .escape]),
    Repetition.templateParts.definition
      (oneOf [token .templateFragment, token .escape, node .templateSubstitution]),
    Repetition.classMembers.definition <| oneOf
      [sequence [part .member (node .methodDefinition), optional (text ";")],
        sequence [part .member (node .fieldDefinition), semicolon],
        part .member (node .classStaticBlock), text ";"],
    Repetition.parameters.definition (afterComma patternElement)]

/-- All rules. The places of the phrases in this list are their numbers. -/
def definitions : List Definition :=
  exportRules ++ importRules ++ statementRules ++ loopRules ++ controlRules ++ expressionRules ++
    markupRules ++ functionRules ++ memberRules ++ operatorRules ++ literalRules ++ classRules ++
    repetitionRules

/-- What takes part in an order of strength. -/
inductive Contender where
  | rank (rank : Rank)
  | phrase (phrase : Phrase)
  deriving DecidableEq

/-- The orders of strength, the strongest first. Of two phrases, the first order that has both of
them decides. -/
def rankings : List (List Contender) :=
  let node (kind : Kind) : Contender := .phrase (.node kind)
  let group (group : Group) : Contender := .phrase (.group group)
  [[.rank .member, .rank .templateCall, .rank .call, node .updateExpression, .rank .unary,
      .rank .power, .rank .times, .rank .plus, .rank .shift, .rank .relation, .rank .equality,
      .rank .bitAnd, .rank .bitXor, .rank .bitOr, .rank .logicalAnd, .rank .logicalOr,
      .rank .ternary, node .sequenceExpression, node .arrowFunction],
    [.rank .assign, group .primaryExpression],
    [.rank .member, .rank .templateCall, .rank .new, .rank .call, group .expression],
    [.rank .declare, .rank .literal],
    [group .primaryExpression, node .statementBlock, .rank .object],
    [node .metaProperty, node .import],
    [node .importStatement, node .import],
    [node .exportStatement, group .primaryExpression],
    [node .lexicalDeclaration, group .primaryExpression]]

end Grammar

end Script

end ScriptOutline
