import ScriptOutline.Script.Kind

/-!
# Concrete syntax trees

The tree of a script as it was written, with its comments, its keywords and its punctuation. A node
has named parts, such as the condition of a loop, and parts without a name. A regular expression is a
leaf: only its text as a whole matters.
-/

namespace ScriptOutline

namespace Script

/-- The part that a tree plays in the node above it. -/
inductive Role where
  | name
  | parameters
  | parameter
  | body
  | condition
  | consequence
  | alternative
  | initializer
  | increment
  | left
  | right
  | operator
  | object
  | property
  | index
  | argument
  | value
  | declaration
  | decorator
  | source
  | renaming
  | keyword
  | target
  | handler
  | finalizer
  | callee
  | arguments
  | maker
  | chain
  | pattern
  | flags
  | member
  | key
  | openTag
  | closeTag
  | tagAttribute
  deriving DecidableEq

/-- The name of a role. -/
def Role.label : Role → String
  | .name => "name"
  | .parameters => "parameters"
  | .parameter => "parameter"
  | .body => "body"
  | .condition => "condition"
  | .consequence => "consequence"
  | .alternative => "alternative"
  | .initializer => "initializer"
  | .increment => "increment"
  | .left => "left"
  | .right => "right"
  | .operator => "operator"
  | .object => "object"
  | .property => "property"
  | .index => "index"
  | .argument => "argument"
  | .value => "value"
  | .declaration => "declaration"
  | .decorator => "decorator"
  | .source => "source"
  | .renaming => "alias"
  | .keyword => "kind"
  | .target => "label"
  | .handler => "handler"
  | .finalizer => "finalizer"
  | .callee => "function"
  | .arguments => "arguments"
  | .maker => "constructor"
  | .chain => "optional_chain"
  | .pattern => "pattern"
  | .flags => "flags"
  | .member => "member"
  | .key => "key"
  | .openTag => "open_tag"
  | .closeTag => "close_tag"
  | .tagAttribute => "attribute"

/-- A concrete syntax tree. -/
inductive Tree where
  /-- Punctuation or a keyword. -/
  | token (text : String)
  /-- A token of a kind that has a name, or a regular expression. -/
  | leaf (kind : Kind) (text : String)
  /-- A node with its parts in source order. -/
  | node (kind : Kind) (children : List (Option Role × Tree))

/-- A tree and the part it plays, if that has a name. -/
abbrev Child := Option Role × Tree

namespace Tree

/-- The kind of a node; punctuation and keywords have none. -/
def kind? : Tree → Option Kind
  | .token _ => none
  | .leaf k _ => some k
  | .node k _ => some k

/-- The parts of a node. -/
def children : Tree → List Child
  | .node _ cs => cs
  | _ => []

/-- The text of a leaf or token. -/
def text : Tree → String
  | .token s => s
  | .leaf _ s => s
  | .node _ _ => ""

/-- Whether the tree is a node and not one that is passed over. -/
def isVisible (t : Tree) : Bool :=
  match t.kind? with
  | some k => !k.isHidden
  | none => false

/-- The parts that are nodes, without comments. -/
def visibleChildren (t : Tree) : List Tree := (t.children.map (·.2)).filter isVisible

/-- The first part that plays the given role. -/
def part? (t : Tree) (role : Role) : Option Tree :=
  (t.children.find? fun c => c.1 == some role).map (·.2)

end Tree

end Script

end ScriptOutline
