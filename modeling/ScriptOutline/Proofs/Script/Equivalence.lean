import Mathlib.Tactic.Common
import ScriptOutline.Proofs.Script.Correspondence
import ScriptOutline.Proofs.Script.Emission

/-!
# Scripts and their trees in the standard shape

A script and the tree that other parsers write for it are read by two readers that know nothing of
each other. Both give the same tree but for one thing: the reader of ESTree takes the name of an
unsupported node from a member `name`, which `this` and default and rest parameters do not have in
the standard shape, while the reader of scripts takes it from the text. So the two outlines are the
same for scripts without these three, and else differ in the cells that show them.
-/

namespace ScriptOutline

namespace Script

namespace Standard

open Json (Members)
open Script.Convert
open Estree (ReadsAs)

variable {t : Tree} {v : Json} {members : Members} {named : Bool} {f : Node → Node}
  {grammar : List Char → Except AnalysisError Tree} {limit limit' : Nat} {source text : List Char}

/-- A text is read as the program that its value stands for. -/
theorem analyze_of_readsAs {n : Node} (htext : Json.parse text = .ok v) (hn : ReadsAs v n)
    (hprogram : n.isProgram = true) (hlimit : Json.depthLimit ≤ limit') :
    analyze .estree limit' text = .ok ⟨n, n.outline⟩ := by
  rw [analyze, readTree, hn.read htext hprogram hlimit]
  rfl

theorem isProgram_of_toProgram (hf : Node.Erases named f) {n : Node}
    (h : toProgram limit t = .ok n) : (f n).isProgram = true := by
  have hprogram : Ensures (toProgram limit t) fun n => (f n).isProgram = true := by
    refine Ensures.bind (.any _) fun body _ => .pure ?_
    rw [hf.program, Node.isProgram]
  exact hprogram n h

/-- If a script is converted, the text of its tree is read as the same program after the change. -/
theorem analyze_of_toProgram (hf : Node.Erases named f) {n : Node} (hv : Program named t v)
    (hn : toProgram limit t = .ok n) (htext : Json.parse text = .ok v)
    (hlimit : Json.depthLimit ≤ limit') :
    analyze .estree limit' text = .ok ⟨f n, (f n).outline⟩ := by
  have hstands : ReadsAs v (f n) := by
    rcases converts_program hf limit hv with herror | ⟨m, hm, hstands⟩
    · rw [hn] at herror
      cases herror
    · rw [hn] at hm
      cases hm
      exact hstands
  exact analyze_of_readsAs htext hstands (isProgram_of_toProgram hf hn) hlimit

/-- A script and its tree in the standard shape, in a text that can be read, have the same outline
up to the names of unsupported nodes, and the very same outline if the script has neither `this` nor
default and rest parameters. The only other outcome is that the script is nested too deep for its
limit: parentheses count there and leave no trace in the tree. -/
theorem analyze_standard (limit : Nat) (htree : grammar source = .ok t) (hv : Program named t v)
    (htext : Json.parse text = .ok v) (hlimit : Json.depthLimit ≤ limit') :
    readWith grammar limit source = .error (.nestingTooDeep limit) ∨
      ∃ n, readWith grammar limit source = .ok n ∧
        analyze .estree limit' text = .ok ⟨n.withoutNames, n.withoutNames.outline⟩ ∧
        (named = false → analyze .estree limit' text = .ok ⟨n, n.outline⟩) := by
  have hread : readWith grammar limit source = toProgram limit t := by
    rw [readWith, htree]
    rfl
  have herases := Node.erases_withoutNames named
  rw [hread]
  rcases converts_program herases limit hv with herror | ⟨n, hn, -⟩
  · exact .inl herror
  · refine .inr ⟨n, hn, analyze_of_toProgram herases hv hn htext hlimit, ?_⟩
    rintro rfl
    exact analyze_of_toProgram Node.erases_id hv hn htext hlimit

/-! ## A script with a loop -/

/-- A plain name in the standard shape. -/
def nameValue (name : String) : Json :=
  .object [("name", .string name), ("type", .string "Identifier")]

theorem expression_name (named : Bool) (name : String) :
    Expression named (.leaf .identifier name) (nameValue name) :=
  .name rfl (by decide) rfl rfl

/-- An integer in the standard shape. -/
def integerValue (i : Int) : Json :=
  .object [("type", .string "Literal"), ("value", .number (.integer i))]

theorem expression_integer {text : String} {i : Int}
    (h : numberValue text = .number (.ofInt i)) :
    Expression named (.leaf .number text) (integerValue i) := by
  have hconstant : constant? (.leaf .number text) = some (.number (.ofInt i)) := congrArg some h
  exact .literal hconstant rfl (.integer rfl rfl rfl rfl)

/-- An operator between a variable and a number. -/
def operationTree (operator number : String) : Tree :=
  .node .binaryExpression [(some .left, .leaf .identifier "x"), (some .operator, .token operator),
    (some .right, .leaf .number number)]

/-- The same operation in the standard shape. -/
def operationValue (operator : String) (i : Int) : Json :=
  .object [("left", nameValue "x"), ("operator", .string operator), ("right", integerValue i),
    ("type", .string "BinaryExpression")]

theorem expression_operation {operator number : String} {i : Int}
    (hoperator : binaryType operator = "BinaryExpression")
    (h : numberValue number = .number (.ofInt i)) :
    Expression named (operationTree operator number) (operationValue operator i) := by
  have htype : some (Json.string "BinaryExpression") = some (.string (binaryType operator)) := by
    rw [hoperator]
  exact .binary rfl rfl htype rfl (.intro (expression_name named "x"))
    (.intro (expression_integer h))

/-- The script of a variable that is counted up in a loop. -/
def countingScript : String := "let x = 1; while (x < 10) \x7b x = x + 1; \x7d"

/-- The tree of the script. -/
def countingTree : Tree :=
  .node .program [
    (none, .node .lexicalDeclaration [(some .keyword, .token "let"),
      (none, .node .variableDeclarator [(some .name, .leaf .identifier "x"), (none, .token "="),
        (some .value, .leaf .number "1")]),
      (none, .token ";")]),
    (none, .node .whileStatement [(none, .token "while"),
      (some .condition, .node .parenthesizedExpression [(none, .token "("),
        (none, operationTree "<" "10"), (none, .token ")")]),
      (some .body, .node .statementBlock [(none, .token "\x7b"),
        (none, .node .expressionStatement [
          (none, .node .assignmentExpression [(some .left, .leaf .identifier "x"),
            (none, .token "="), (some .right, operationTree "+" "1")]),
          (none, .token ";")]),
        (none, .token "\x7d")])])]

/-- The tree of the script in the standard shape. -/
def countingValue : Json :=
  .object [
    ("body", .array [
      .object [
        ("declarations", .array [.object [
          ("id", nameValue "x"),
          ("init", integerValue 1),
          ("type", .string "VariableDeclarator")]]),
        ("kind", .string "let"),
        ("type", .string "VariableDeclaration")],
      .object [
        ("body", .object [
          ("body", .array [.object [
            ("expression", .object [
              ("left", nameValue "x"),
              ("operator", .string "="),
              ("right", operationValue "+" 1),
              ("type", .string "AssignmentExpression")]),
            ("type", .string "ExpressionStatement")]]),
          ("type", .string "BlockStatement")]),
        ("test", operationValue "<" 10),
        ("type", .string "WhileStatement")]]),
    ("type", .string "Program")]

/-- The program that the script is read as. -/
def counting : Node :=
  .program [
    .variables "let" [.declarator (.identifier "x") (some (.literal (numberValue "1")))],
    .while (.binary "<" (.identifier "x") (.literal (numberValue "10")))
      (.block [.expression (.assignment "=" (.identifier "x")
        (.binary "+" (.identifier "x") (.literal (numberValue "1"))))])]

theorem program_counting : Program false countingTree countingValue := by
  have hone : numberValue "1" = .number (.ofInt 1) := by decide +kernel
  have hten : numberValue "10" = .number (.ofInt 10) := by decide +kernel
  have hx := expression_name false "x"
  refine .intro rfl rfl rfl (.cons ?_ (.cons ?_ .nil))
  · refine .variables rfl rfl rfl rfl rfl (.cons ?_ .nil)
    exact .intro rfl (.intro hx) (.some (expression_integer hone))
  · refine .while rfl rfl (.intro ?_) (.intro (.block rfl rfl rfl (.cons ?_ .nil)))
    · exact .parenthesized rfl rfl (expression_operation rfl hten)
    · refine .expression rfl rfl (.intro ?_)
      exact .assignment rfl rfl rfl rfl (.intro hx) (.intro (expression_operation rfl hone))

/-- A value whose keys are in order and whose numbers are read back is what is read from its text. -/
theorem parse_sorted (hread : v.isRead = true) (hdepth : v.depth < Json.depthLimit)
    (hsorted : v.reread = v) : Json.parse v.compact = .ok v := by
  rw [Json.parse_compact hread hdepth, hsorted]

/-- The script and its tree in the standard shape have the same outline. -/
theorem analyze_standard_loop :
    Json.parse countingValue.compact = .ok countingValue ∧
    readWith (only countingScript countingTree) defaultNestingLimit countingScript.toList =
      .ok counting ∧
    analyze .estree defaultNestingLimit countingValue.compact =
      .ok ⟨counting, counting.outline⟩ := by
  have hone : (JsonNumber.integer 1).reread = .integer 1 :=
    (JsonNumber.reread_integer (by decide)).2
  have hten : (JsonNumber.integer 10).reread = .integer 10 :=
    (JsonNumber.reread_integer (by decide)).2
  have hsorted : countingValue.reread = countingValue := by
    simp only [countingValue, nameValue, integerValue, operationValue, Json.reread,
      Json.rereadItems, Json.rereadMembers, hone, hten]
    rfl
  have htext : Json.parse countingValue.compact = .ok countingValue :=
    parse_sorted (by decide +kernel) (by decide) hsorted
  have htree : only countingScript countingTree countingScript.toList = .ok countingTree :=
    if_pos rfl
  have hread : readWith (only countingScript countingTree) defaultNestingLimit
      countingScript.toList = .ok counting := (readWith_only _ _).trans rfl
  refine ⟨htext, hread, ?_⟩
  rcases analyze_standard defaultNestingLimit htree program_counting htext
    (show Json.depthLimit ≤ defaultNestingLimit by decide) with herror | ⟨n, hn, -, hsame⟩
  · rw [hread] at herror
    cases herror
  · rw [hread] at hn
    cases hn
    exact hsame rfl

/-! ## Lost names -/

/-- The tree of an assignment to a variable. -/
def assignmentTree (right : Tree) : Tree :=
  .node .program [(none, .node .expressionStatement [(none, .node .assignmentExpression
    [(some .left, .leaf .identifier "x"), (none, .token "="), (some .right, right)])])]

/-- The same assignment in the standard shape. -/
def assignmentValue (right : Json) : Json :=
  .object [
    ("body", .array [.object [
      ("expression", .object [
        ("left", nameValue "x"),
        ("operator", .string "="),
        ("right", right),
        ("type", .string "AssignmentExpression")]),
      ("type", .string "ExpressionStatement")]]),
    ("type", .string "Program")]

theorem program_assignment {right : Tree} (h : Expression named right v) :
    Program named (assignmentTree right) (assignmentValue v) := by
  refine .intro rfl rfl rfl (.cons (.expression rfl rfl (.intro ?_)) .nil)
  exact .assignment rfl rfl rfl rfl (.intro (expression_name _ "x")) (.intro h)

/-- The tree of a function with one parameter. -/
def functionTree (parameter : Tree) : Tree :=
  .node .program [(none, .node .functionDeclaration
    [(none, .token "function"), (some .name, .leaf .identifier "f"),
      (some .parameters, .node .formalParameters [(none, .token "("), (none, parameter),
        (none, .token ")")]),
      (some .body, .node .statementBlock [(none, .token "\x7b"), (none, .token "\x7d")])])]

/-- The same function in the standard shape. -/
def functionValue (parameter : Json) : Json :=
  .object [
    ("body", .array [.object [
      ("body", .object [("body", .array []), ("type", .string "BlockStatement")]),
      ("id", nameValue "f"),
      ("params", .array [parameter]),
      ("type", .string "FunctionDeclaration")]]),
    ("type", .string "Program")]

theorem program_function {parameter : Tree} {w : Json} (hvisible : parameter.isVisible = true)
    (h : Parameter named parameter w) :
    Program named (functionTree parameter) (functionValue w) := by
  have hparameters : (Tree.node .formalParameters [(none, .token "("), (none, parameter),
      (none, .token ")")]).visibleChildren = [parameter] := by
    show [Tree.token "(", parameter, .token ")"].filter Tree.isVisible = [parameter]
    rw [List.filter_cons_of_neg (by decide), List.filter_cons_of_pos hvisible]
    rfl
  refine .intro rfl rfl rfl (.cons ?_ .nil)
  refine .function (.inl rfl) rfl (.intro (expression_name _ "f")) rfl rfl ?_
    (.intro (.block rfl rfl rfl .nil))
  rw [hparameters]
  exact .cons h .nil

/-- The program of an assignment to a variable. -/
def assigned (right : Node) : Node :=
  .program [.expression (.assignment "=" (.identifier "x") right)]

/-- A script and its tree in the standard shape that have different outlines. -/
def OutlinesDiffer (script : String) (tree : Tree) (v : Json) : Prop :=
  Program true tree v ∧ Json.parse v.compact = .ok v ∧
    ∃ n a, readWith (only script tree) defaultNestingLimit script.toList = .ok n ∧
      analyze .estree defaultNestingLimit v.compact = .ok a ∧ a.records ≠ n.outline

/-- If the script is read as a program whose outline shows a name of an unsupported node, the
outlines differ. -/
theorem outlinesDiffer_of {script : String} {n : Node} (hv : Program true t v)
    (htext : Json.parse v.compact = .ok v) (hn : toProgram defaultNestingLimit t = .ok n)
    (hname : n.withoutNames.outline ≠ n.outline) : OutlinesDiffer script t v := by
  have hanalysis := analyze_of_toProgram (Node.erases_withoutNames true) hv hn htext
    (show Json.depthLimit ≤ defaultNestingLimit by decide)
  exact ⟨hv, htext, n, _, (readWith_only script t).trans hn, hanalysis, hname⟩

theorem renderText_unsupported (kind : String) (name : Option String) :
    (Node.unsupported kind name []).renderText = name.getD "" := by
  rw [← String.toList_inj, Node.renderText_toList]
  cases name <;> rfl

theorem outline_assigned (kind : String) (name : Option String) :
    (assigned (.unsupported kind name [])).outline =
      [.named 1 "AssignmentExpression" "x" (some (.text (name.getD "")))] := by
  rw [Node.outline, Outline.run_eq_walkTasks]
  simp [Outline.walkTasks, Outline.Task.walk, assigned, Node.walk, Node.walkProgram,
    Node.isAssignment, Walk.andThen, Walk.advance, Walk.emit, Walk.idle, Node.render,
    Node.renderText_identifier, renderText_unsupported]

/-- The program of a function with one parameter. -/
def functionOf (parameter : Node) : Node :=
  .program [.function (.identifier "f") [parameter] (.block [])]

theorem outline_functionOf (kind : String) (name : Option String) :
    (functionOf (.unsupported kind name [])).outline =
      [.named 1 "FunctionDeclaration" "f" none, .named 1 kind (name.getD "") none] := by
  rw [Node.outline, Outline.run_eq_walkTasks]
  simp [Outline.walkTasks, Outline.Task.walk, functionOf, Node.walk, Node.walkProgram,
    Node.walkAll, Walk.andThen, Walk.advance, Walk.emit, Walk.idle, Node.typeName,
    Node.renderText_identifier, renderText_unsupported]

theorem hasOnly_of_keys {keys : List String}
    (h : ∀ key ∈ members.map Prod.fst, key ∈ commonKeys ∨ key ∈ keys) : HasOnly members keys := by
  intro key v hget
  by_contra hkey
  have hnone := Members.get?_eq_none fun hmem => hkey (h key hmem)
  rw [hnone] at hget
  cases hget

/-- What is lost: `this` as a value, and the names of default and rest parameters. -/
theorem standard_names_are_lost :
    OutlinesDiffer "x = this" (assignmentTree (.leaf .this "this"))
      (assignmentValue (.object [("type", .string "ThisExpression")])) ∧
    OutlinesDiffer "function f(p = q) \x7b\x7d"
      (functionTree (.node .assignmentPattern [(some .left, .leaf .identifier "p"),
        (none, .token "="), (some .right, .leaf .identifier "q")]))
      (functionValue (.object [("left", nameValue "p"), ("right", nameValue "q"),
        ("type", .string "AssignmentPattern")])) ∧
    OutlinesDiffer "function f(...r) \x7b\x7d"
      (functionTree (.node .restPattern [(none, .token "..."), (none, .leaf .identifier "r")]))
      (functionValue (.object [("argument", nameValue "r"), ("type", .string "RestElement")])) := by
  have hthis : Expression true (.leaf .this "this")
      (.object [("type", .string "ThisExpression")]) :=
    .this rfl rfl rfl (hasOnly_of_keys (by decide))
  have hdefault : Parameter true
      (.node .assignmentPattern [(some .left, .leaf .identifier "p"), (none, .token "="),
        (some .right, .leaf .identifier "q")])
      (.object [("left", nameValue "p"), ("right", nameValue "q"),
        ("type", .string "AssignmentPattern")]) :=
    .default rfl rfl rfl (.intro (expression_name _ "p")) (.intro (expression_name _ "q"))
      (hasOnly_of_keys (by decide))
  have hrest : Parameter true
      (.node .restPattern [(none, .token "..."), (none, .leaf .identifier "r")])
      (.object [("argument", nameValue "r"), ("type", .string "RestElement")]) :=
    .rest rfl rfl rfl (.intro (expression_name _ "r")) (hasOnly_of_keys (by decide))
  refine ⟨?_, ?_, ?_⟩
  · refine outlinesDiffer_of (n := assigned (.unsupported "ThisExpression" (some "this") []))
      (program_assignment hthis) (parse_sorted rfl (by decide) rfl) rfl ?_
    show (assigned (.unsupported "ThisExpression" none [])).outline ≠ _
    rw [outline_assigned, outline_assigned]
    decide
  · refine outlinesDiffer_of (n := functionOf (.unsupported "AssignmentPattern" (some "p") []))
      (program_function rfl hdefault) (parse_sorted rfl (by decide) rfl) rfl ?_
    show (functionOf (.unsupported "AssignmentPattern" none [])).outline ≠ _
    rw [outline_functionOf, outline_functionOf]
    decide
  · refine outlinesDiffer_of (n := functionOf (.unsupported "RestElement" (some "r") []))
      (program_function rfl hrest) (parse_sorted rfl (by decide) rfl) rfl ?_
    show (functionOf (.unsupported "RestElement" none [])).outline ≠ _
    rw [outline_functionOf, outline_functionOf]
    decide

end Standard

end Script

end ScriptOutline
