import Mathlib.Tactic.Common
import ScriptOutline.Proofs.Script.Conversion

/-!
# Statements of scripts are kept

What the tree of a script has in it can be found again in its written form. For nodes of a supported
kind that is clear, since each of their parts has a slot of its own. An unsupported node only has the
slot for its statements, and the reader of that slot looks at types alone: it follows those that are
named like statements or like what holds statements, and passes over all others. So no statement is
lost if the children of unsupported nodes have such names, which is what the conversion sees to.
-/

namespace ScriptOutline

namespace Estree

variable {kind : String} {name : Option String} {children : List Node}

/-- The reader finds all children of an unsupported node if it can tell by their types that they hold
statements. -/
theorem statements_toEstree (h : ∀ c ∈ children, isStatementType c.typeName = true) :
    statements (("type", .string kind) :: (Node.unsupported kind name children).estreeMembers) =
      children.map Node.toEstree := by
  have htold : ∀ key, Json.Members.get?
        (("type", .string kind) :: (Node.unsupported kind name children).estreeMembers) key =
      (Json.Members.get?
        (("type", .string kind) :: (Node.unsupported kind name children).estreeMembers) key).map
          id := by
    intro key
    rw [Option.map_id]
    rfl
  rw [statements_told Json.telling_id htold, List.filter_eq_self.2 h]
  rfl

end Estree

namespace Node.KeepsAllButNumbers

variable {n : Node} {k : Nat}

theorem unsupported {kind : String} {name : Option String} {children : List Node}
    (h : n.KeepsAllButNumbers) (hl : Lies n k (.unsupported kind name children)) :
    kind ∉ supportedNames ∧ ∀ c ∈ children, Estree.isStatementType c.typeName = true := by
  rcases h k _ hl with ⟨d, hd⟩ | hkeeps
  · cases hd
  · simpa [Estree.keepsItsData] using hkeeps

theorem regexp {source : String} (h : n.KeepsAllButNumbers)
    (hl : Lies n k (.literal (.regexp source))) :
    ∃ pattern flags, Literal.regexpParts? source = some (pattern, flags) ∧
      "/" ++ pattern ++ "/" ++ flags = source := by
  rcases h k _ hl with ⟨d, hd⟩ | hkeeps
  · cases hd
  · obtain ⟨⟨pattern, flags⟩, hparts⟩ := Option.isSome_iff_exists.1 hkeeps
    exact ⟨pattern, flags, hparts, Literal.join_of_regexpParts? hparts⟩

end Node.KeepsAllButNumbers

namespace Script

variable {limit : Nat} {t : Tree} {n : Node}

/-- The tree that a grammatical script is converted to loses no statement when it is written and read
again. Its root is a program, no unsupported node has the type of a supported one, all children of
unsupported nodes have types that the reader follows, so that it finds exactly these children in the
written node, and every regular expression falls into its pattern and its flags. -/
theorem toProgram_keeps_statements (hroot : t.kind? = some .program) (ht : t.isGrammatical = true)
    (hn : Convert.toProgram limit t = .ok n) :
    n.isProgram = true ∧
    (∀ k kind name children, Node.Lies n k (.unsupported kind name children) →
      kind ∉ Node.supportedNames ∧
      (∀ c ∈ children, Estree.isStatementType c.typeName = true) ∧
      Estree.statements
          (("type", .string kind) :: (Node.unsupported kind name children).estreeMembers) =
        children.map Node.toEstree) ∧
    ∀ k source, Node.Lies n k (.literal (.regexp source)) →
      ∃ pattern flags, Literal.regexpParts? source = some (pattern, flags) ∧
        "/" ++ pattern ++ "/" ++ flags = source := by
  obtain ⟨body, rfl, hkeeps⟩ := Convert.ensures_toProgram limit ht hroot n hn
  refine ⟨rfl, fun k kind name children hl => ?_, fun k source hl => hkeeps.regexp hl⟩
  obtain ⟨hkind, hchildren⟩ := hkeeps.unsupported hl
  exact ⟨hkind, hchildren, Estree.statements_toEstree hchildren⟩

/-- The tree of a `switch` statement with the only case `case 1: x = /b/g;`. -/
def switchTree : Tree :=
  .node .program [(none, .node .switchStatement [(none, .token "switch"),
    (some .value, .node .parenthesizedExpression [(none, .token "("),
      (none, .leaf .identifier "a"), (none, .token ")")]),
    (some .body, .node .switchBody [(none, .token "\x7b"),
      (none, .node .switchCase [(none, .token "case"), (some .value, .leaf .number "1"),
        (none, .token ":"),
        (some .body, .node .expressionStatement [
          (none, .node .assignmentExpression [(some .left, .leaf .identifier "x"),
            (none, .token "="), (some .right, .leaf .regex "/b/g")]),
          (none, .token ";")])]),
      (none, .token "\x7d")])])]

/-- The statement in the case of the `switch` statement. -/
def switchedStatement : Node :=
  .expression (.assignment "=" (.identifier "x") (.literal (.regexp "/b/g")))

/-- The program of the `switch` statement. -/
def switchProgram : Node :=
  .program [.unsupported "SwitchStatement" none
    [.unsupported "SwitchBody" none [.unsupported "SwitchCase" none [switchedStatement]]]]

theorem lies_switchCase :
    Node.Lies switchProgram 3 (.unsupported "SwitchCase" none [switchedStatement]) := by
  refine .inside List.mem_cons_self (.inside List.mem_cons_self (.inside List.mem_cons_self ?_))
  exact .here _

theorem lies_switchRegexp : Node.Lies switchProgram 6 (.literal (.regexp "/b/g")) := by
  refine .inside List.mem_cons_self (.inside List.mem_cons_self (.inside List.mem_cons_self ?_))
  refine .inside List.mem_cons_self (.inside List.mem_cons_self (.inside ?_ (.here _)))
  exact List.mem_cons_of_mem _ List.mem_cons_self

/-- The statement is found again in its case, three levels below the root, and the regular expression
in it falls into its two parts. -/
theorem toProgram_keeps_statements_switch :
    switchTree.kind? = some .program ∧ switchTree.isGrammatical = true ∧
    Convert.toProgram 5 switchTree = .ok switchProgram ∧
    Estree.statements (("type", .string "SwitchCase") ::
        (Node.unsupported "SwitchCase" none [switchedStatement]).estreeMembers) =
      [switchedStatement.toEstree] ∧
    ∃ pattern flags, Literal.regexpParts? "/b/g" = some (pattern, flags) ∧
      "/" ++ pattern ++ "/" ++ flags = "/b/g" := by
  have hroot : switchTree.kind? = some .program := rfl
  have hgrammar : switchTree.isGrammatical = true := by decide +kernel
  have htree : Convert.toProgram 5 switchTree = .ok switchProgram := rfl
  obtain ⟨-, hstatements, hregexps⟩ := toProgram_keeps_statements hroot hgrammar htree
  obtain ⟨-, -, hfound⟩ := hstatements _ _ _ _ lies_switchCase
  exact ⟨hroot, hgrammar, htree, hfound, hregexps _ _ lies_switchRegexp⟩

end Script

end ScriptOutline
