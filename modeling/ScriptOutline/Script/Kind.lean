import ScriptOutline.Text.Cut

/-!
# Kinds of concrete syntax

The kinds of nodes in the concrete syntax tree of a script. What is said of a kind is made from its name
in the grammar: its name in ESTree, and whether it belongs to one of the two groups that matter when
statements are looked for inside other constructs.
-/

namespace ScriptOutline

namespace Script

/-- The kind of a node in a concrete syntax tree. -/
inductive Kind where
  | program
  | comment
  | htmlComment
  | hashBangLine
  -- Statements and declarations
  | expressionStatement
  | variableDeclaration
  | lexicalDeclaration
  | functionDeclaration
  | generatorFunctionDeclaration
  | classDeclaration
  | statementBlock
  | ifStatement
  | switchStatement
  | forStatement
  | forInStatement
  | whileStatement
  | doStatement
  | tryStatement
  | withStatement
  | breakStatement
  | continueStatement
  | debuggerStatement
  | returnStatement
  | throwStatement
  | emptyStatement
  | labeledStatement
  | importStatement
  | exportStatement
  -- What holds statements without being one
  | elseClause
  | catchClause
  | finallyClause
  | importClause
  | exportClause
  | switchBody
  | switchCase
  | switchDefault
  | classBody
  -- Parts of statements and declarations
  | namespaceImport
  | namedImports
  | importSpecifier
  | importAttribute
  | namespaceExport
  | exportSpecifier
  | variableDeclarator
  | formalParameters
  | objectPattern
  | arrayPattern
  | assignmentPattern
  | objectAssignmentPattern
  | pairPattern
  | restPattern
  -- Parts of classes
  | classHeritage
  | decorator
  | methodDefinition
  | fieldDefinition
  | classStaticBlock
  | computedPropertyName
  -- Names
  | identifier
  | propertyIdentifier
  | shorthandPropertyIdentifier
  | shorthandPropertyIdentifierPattern
  | privatePropertyIdentifier
  | statementIdentifier
  | undefined
  -- Literals
  | number
  | string
  | stringFragment
  | escapeSequence
  | regex
  | regexPattern
  | regexFlags
  | trueLiteral
  | falseLiteral
  | nullLiteral
  | templateString
  | templateSubstitution
  -- Other expressions
  | «this»
  | super
  | parenthesizedExpression
  | memberExpression
  | subscriptExpression
  | binaryExpression
  | unaryExpression
  | assignmentExpression
  | augmentedAssignmentExpression
  | ternaryExpression
  | updateExpression
  | awaitExpression
  | yieldExpression
  | sequenceExpression
  | callExpression
  | arguments
  | optionalChain
  | newExpression
  | metaProperty
  | «import»
  | object
  | pair
  | array
  | spreadElement
  | arrowFunction
  | functionExpression
  | generatorFunction
  | «class»
  -- Markup
  | jsxElement
  | jsxSelfClosingElement
  | jsxOpeningElement
  | jsxClosingElement
  | jsxNamespaceName
  | jsxAttribute
  | jsxExpression
  | jsxText
  | htmlCharacterReference
  deriving DecidableEq

namespace Kind

/-- The name of a kind in the grammar: in lower case, with its words divided by underscores. -/
def plainName : Kind → String
  | .program => "program"
  | .comment => "comment"
  | .htmlComment => "html_comment"
  | .hashBangLine => "hash_bang_line"
  | .expressionStatement => "expression_statement"
  | .variableDeclaration => "variable_declaration"
  | .lexicalDeclaration => "lexical_declaration"
  | .functionDeclaration => "function_declaration"
  | .generatorFunctionDeclaration => "generator_function_declaration"
  | .classDeclaration => "class_declaration"
  | .statementBlock => "statement_block"
  | .ifStatement => "if_statement"
  | .switchStatement => "switch_statement"
  | .forStatement => "for_statement"
  | .forInStatement => "for_in_statement"
  | .whileStatement => "while_statement"
  | .doStatement => "do_statement"
  | .tryStatement => "try_statement"
  | .withStatement => "with_statement"
  | .breakStatement => "break_statement"
  | .continueStatement => "continue_statement"
  | .debuggerStatement => "debugger_statement"
  | .returnStatement => "return_statement"
  | .throwStatement => "throw_statement"
  | .emptyStatement => "empty_statement"
  | .labeledStatement => "labeled_statement"
  | .importStatement => "import_statement"
  | .exportStatement => "export_statement"
  | .elseClause => "else_clause"
  | .catchClause => "catch_clause"
  | .finallyClause => "finally_clause"
  | .importClause => "import_clause"
  | .exportClause => "export_clause"
  | .switchBody => "switch_body"
  | .switchCase => "switch_case"
  | .switchDefault => "switch_default"
  | .classBody => "class_body"
  | .namespaceImport => "namespace_import"
  | .namedImports => "named_imports"
  | .importSpecifier => "import_specifier"
  | .importAttribute => "import_attribute"
  | .namespaceExport => "namespace_export"
  | .exportSpecifier => "export_specifier"
  | .variableDeclarator => "variable_declarator"
  | .formalParameters => "formal_parameters"
  | .objectPattern => "object_pattern"
  | .arrayPattern => "array_pattern"
  | .assignmentPattern => "assignment_pattern"
  | .objectAssignmentPattern => "object_assignment_pattern"
  | .pairPattern => "pair_pattern"
  | .restPattern => "rest_pattern"
  | .classHeritage => "class_heritage"
  | .decorator => "decorator"
  | .methodDefinition => "method_definition"
  | .fieldDefinition => "field_definition"
  | .classStaticBlock => "class_static_block"
  | .computedPropertyName => "computed_property_name"
  | .identifier => "identifier"
  | .propertyIdentifier => "property_identifier"
  | .shorthandPropertyIdentifier => "shorthand_property_identifier"
  | .shorthandPropertyIdentifierPattern => "shorthand_property_identifier_pattern"
  | .privatePropertyIdentifier => "private_property_identifier"
  | .statementIdentifier => "statement_identifier"
  | .undefined => "undefined"
  | .number => "number"
  | .string => "string"
  | .stringFragment => "string_fragment"
  | .escapeSequence => "escape_sequence"
  | .regex => "regex"
  | .regexPattern => "regex_pattern"
  | .regexFlags => "regex_flags"
  | .trueLiteral => "true"
  | .falseLiteral => "false"
  | .nullLiteral => "null"
  | .templateString => "template_string"
  | .templateSubstitution => "template_substitution"
  | .this => "this"
  | .super => "super"
  | .parenthesizedExpression => "parenthesized_expression"
  | .memberExpression => "member_expression"
  | .subscriptExpression => "subscript_expression"
  | .binaryExpression => "binary_expression"
  | .unaryExpression => "unary_expression"
  | .assignmentExpression => "assignment_expression"
  | .augmentedAssignmentExpression => "augmented_assignment_expression"
  | .ternaryExpression => "ternary_expression"
  | .updateExpression => "update_expression"
  | .awaitExpression => "await_expression"
  | .yieldExpression => "yield_expression"
  | .sequenceExpression => "sequence_expression"
  | .callExpression => "call_expression"
  | .arguments => "arguments"
  | .optionalChain => "optional_chain"
  | .newExpression => "new_expression"
  | .metaProperty => "meta_property"
  | .import => "import"
  | .object => "object"
  | .pair => "pair"
  | .array => "array"
  | .spreadElement => "spread_element"
  | .arrowFunction => "arrow_function"
  | .functionExpression => "function_expression"
  | .generatorFunction => "generator_function"
  | .class => "class"
  | .jsxElement => "jsx_element"
  | .jsxSelfClosingElement => "jsx_self_closing_element"
  | .jsxOpeningElement => "jsx_opening_element"
  | .jsxClosingElement => "jsx_closing_element"
  | .jsxNamespaceName => "jsx_namespace_name"
  | .jsxAttribute => "jsx_attribute"
  | .jsxExpression => "jsx_expression"
  | .jsxText => "jsx_text"
  | .htmlCharacterReference => "html_character_reference"

/-! ## Names in ESTree -/

/-- A word with a capital. -/
def capitalized : List Char → List Char
  | [] => []
  | c :: rest => c.toUpper :: rest

/-- A name in the manner of ESTree: its words without anything between, each with a capital. -/
def pascalCase (name : List Char) : List Char :=
  ((cutAt '_' name).filter (!·.isEmpty)).flatMap capitalized

/-- The ESTree name of a kind, if it need not be made from the words of its name. -/
def ownName? : Kind → Option String
  | .arrowFunction => some "ArrowFunctionExpression"
  | .functionExpression => some "FunctionExpression"
  | .generatorFunction => some "FunctionExpression"
  | .templateString => some "TemplateLiteral"
  | .object => some "ObjectExpression"
  | .array => some "ArrayExpression"
  | .ternaryExpression => some "ConditionalExpression"
  | .this => some "ThisExpression"
  | .super => some "Super"
  | .objectPattern => some "ObjectPattern"
  | .arrayPattern => some "ArrayPattern"
  | .assignmentPattern => some "AssignmentPattern"
  | .restPattern => some "RestElement"
  | .spreadElement => some "SpreadElement"
  | .elseClause => some "ElseClause"
  | .catchClause => some "CatchClause"
  | .finallyClause => some "FinallyClause"
  | .switchCase | .switchDefault => some "SwitchCase"
  | .class => some "ClassExpression"
  | .importStatement => some "ImportDeclaration"
  | .exportStatement => some "ExportNamedDeclaration"
  | .labeledStatement => some "LabeledStatement"
  | .doStatement => some "DoWhileStatement"
  | .forInStatement => some "ForInStatement"
  | .emptyStatement => some "EmptyStatement"
  | _ => none

/-- The ESTree name of a kind. Kinds that ESTree does not have are named in its manner. -/
def typeName (k : Kind) : String :=
  k.ownName?.getD (String.ofList (pascalCase k.plainName.toList))

/-! ## Groups -/

/-- Whether the name of a kind ends with a text. -/
def endsWith (k : Kind) (ending : String) : Bool := ending.toList.isSuffixOf k.plainName.toList

/-- Whether nodes of the kind are statements, declarations among them. -/
def isStatement (k : Kind) : Bool :=
  k.plainName == "statement_block" || k.endsWith "_statement" || k.endsWith "_declaration"

/-- Whether nodes of the kind hold statements without being statements. -/
def isContainer (k : Kind) : Bool :=
  k.endsWith "_clause" ||
    ["switch_body", "switch_case", "switch_default", "class_body"].contains k.plainName

/-- Whether nodes of the kind are passed over when the parts of a construct are looked at. Comments
in the HTML manner are not. -/
def isHidden : Kind → Bool
  | .comment | .hashBangLine => true
  | _ => false

end Kind

end Script

end ScriptOutline
