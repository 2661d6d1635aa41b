import Mathlib.Tactic.Common
import ScriptOutline.Analysis
import ScriptOutline.CommandLine.Reports
import ScriptOutline.Proofs.Estree.WrittenTree
import ScriptOutline.Proofs.Outline.ShownNumbers
import ScriptOutline.Proofs.Script.Conversion

/-!
# Emitted trees

The tree of a script, emitted as JSON text and analysed in the ESTree dialect, is the tree of the
script but for its numbers, whatever grammar the script was read with (`Script.read` is
`Script.readWith` for one of them). The text is refused if it is nested deeper than the reader of JSON
follows. In the place of a number stands what is read from its text: `null` for a number that is not
finite, and for others a number that is not always the same. So the outline is that of the script if
the numbers that it shows come back from their texts; the scripts at the end have others.
-/

namespace ScriptOutline

namespace Script

variable {grammar : List Char → Except AnalysisError Tree} {limit : Nat} {source : List Char}
  {t : Node}

/-- What is read as a script is a program that keeps its data, its numbers apart. -/
theorem keeps_of_readWith (hgrammar : IsGrammar grammar)
    (hread : readWith grammar limit source = .ok t) :
    ∃ body, t = .program body ∧ t.KeepsAllButNumbers := by
  have hresult : Ensures (readWith grammar limit source)
      fun n => ∃ body, n = .program body ∧ n.KeepsAllButNumbers := by
    have htree : Ensures (grammar source)
        fun tree => tree.kind? = some .program ∧ tree.isGrammatical = true := hgrammar source
    exact htree.bind fun tree h => Convert.ensures_toProgram limit h.2 h.1
  exact hresult t hread

/-- The two texts that a tree is emitted as are its value in a layout with blanks behind it. -/
theorem text_cases {text : List Char} (v : Json) (h : text ∈ [v.compact, Reports.document v]) :
    ∃ layout blanks, Json.Layout.IsBlank layout ∧ (∀ c ∈ blanks, Json.isBlank c = true) ∧
      text = v.write layout 0 ++ blanks := by
  simp only [List.mem_cons, List.not_mem_nil, or_false] at h
  rcases h with rfl | rfl
  · exact ⟨.tight, [], Json.Layout.tight_isBlank, nofun, (List.append_nil _).symm⟩
  · have hblank : ∀ c ∈ ['\n'], Json.isBlank c = true := by
      intro c hc
      rw [List.mem_singleton.1 hc]
      rfl
    exact ⟨.indented, ['\n'], Json.Layout.indented_isBlank, hblank, rfl⟩

/-- The emitted tree of a script, on one line or as a document, is read as the tree of the script with
the numbers that are read from their texts, unless it is nested deeper than the reader of JSON
follows. It has the outline of the script if the numbers that the outline shows come back. Whole
numbers below the bound and numbers with few digits always do. -/
theorem analyze_emitted (hgrammar : IsGrammar grammar)
    (hread : readWith grammar defaultNestingLimit source = .ok t) :
    (∀ text ∈ [t.toEstree.compact, Reports.document t.toEstree],
      (t.toEstree.depth < Json.depthLimit →
        ∃ a, analyze .estree defaultNestingLimit text = .ok a ∧
          a.tree = t.renumber Double.reread ∧
          ((∀ d ∈ t.shownNumbers, d.reread.sameValue (.number d) = true) →
            Record.sameValues a.records t.outline = true)) ∧
      (Json.depthLimit ≤ t.toEstree.depth →
        analyze .estree defaultNestingLimit text = .error (.nestingTooDeep Json.depthLimit))) ∧
    ∀ d : Double, d.ReadsBack d.reread := by
  refine ⟨fun text htext => ?_, Double.readsBack_reread⟩
  obtain ⟨layout, blanks, hlayout, hblanks, rfl⟩ := text_cases t.toEstree htext
  obtain ⟨body, rfl, hkeeps⟩ := keeps_of_readWith hgrammar hread
  have hlimit : Json.depthLimit ≤ defaultNestingLimit := by decide
  rcases Estree.read_write hlayout hblanks hlimit hkeeps with ⟨hdepth, hu⟩ | ⟨hdepth, hrefused⟩
  · refine ⟨fun _ => ⟨⟨_, _⟩, ?_, rfl, Node.outline_renumber⟩, fun hdeep => ?_⟩
    · rw [analyze, readTree, hu]
      rfl
    · exact absurd hdepth (Nat.not_lt.2 hdeep)
  · refine ⟨fun hflat => absurd hflat (Nat.not_lt.2 hdepth), fun _ => ?_⟩
    rw [analyze, readTree, hrefused]
    rfl

/-! ## Single scripts -/

/-- The grammar of a single script. -/
def only (script : String) (tree : Tree) (source : List Char) : Except AnalysisError Tree :=
  if source = script.toList then .ok tree else .error (.syntaxError 1 1 .invalid)

theorem isGrammar_only {script : String} {tree : Tree} (hk : tree.kind? = some .program)
    (ht : tree.isGrammatical = true) : IsGrammar (only script tree) := by
  intro source u hu
  unfold only at hu
  split at hu
  · cases hu
    exact ⟨hk, ht⟩
  · cases hu

theorem readWith_only (script : String) (tree : Tree) :
    readWith (only script tree) limit script.toList = Convert.toProgram limit tree := by
  rw [readWith, only, if_pos rfl]
  rfl

/-- The tree of an assignment of a number to a variable. -/
def assignmentTree (number : String) : Tree :=
  .node .program [(none, .node .expressionStatement [(none, .node .assignmentExpression
    [(some .left, .leaf .identifier "x"), (none, .token "="),
      (some .right, .leaf .number number)])])]

/-- The program of an assignment of a literal to a variable. -/
def assignment (value : Literal) : Node :=
  .program [.expression (.assignment "=" (.identifier "x") (.literal value))]

theorem read_assignmentTree (script number : String) :
    readWith (only script (assignmentTree number)) defaultNestingLimit script.toList =
      .ok (assignment (numberValue number)) := by
  rw [readWith_only]
  rfl

theorem isGrammar_assignmentTree (script number : String) :
    IsGrammar (only script (assignmentTree number)) := isGrammar_only rfl rfl

/-- The tree of a statement that is a number, and an assignment of another one behind it. -/
def hiddenNumberTree (hidden number : String) : Tree :=
  .node .program [
    (none, .node .expressionStatement [(none, .leaf .number hidden), (none, .token ";")]),
    (none, .node .expressionStatement [(none, .node .assignmentExpression
      [(some .left, .leaf .identifier "x"), (none, .token "="),
        (some .right, .leaf .number number)])])]

/-- The program of a statement that is a literal, and an assignment of another one behind it. -/
def hiddenLiteral (hidden value : Literal) : Node :=
  .program [.expression (.literal hidden),
    .expression (.assignment "=" (.identifier "x") (.literal value))]

theorem read_hiddenNumberTree (script hidden number : String) :
    readWith (only script (hiddenNumberTree hidden number)) defaultNestingLimit script.toList =
      .ok (hiddenLiteral (numberValue hidden) (numberValue number)) := by
  rw [readWith_only]
  rfl

theorem shownNumbers_hiddenLiteral (hidden value : Literal) :
    (hiddenLiteral hidden value).shownNumbers = (Node.literal value).textNumbers := by
  simp [hiddenLiteral, Node.shownNumbers, Node.shownNumbersIn, Node.isAssignment, Node.textNumbers]

theorem renumber_hiddenLiteral (f : Double → Literal) (hidden value : Literal) :
    (hiddenLiteral hidden value).renumber f =
      hiddenLiteral (hidden.renumber f) (value.renumber f) := rfl

/-- The tree of `1e309; x = 0.5`, as a document, has the outline of the script: the number that does not
come back is not shown. -/
theorem analyze_emitted_hidden_number :
    ∃ a, analyze .estree defaultNestingLimit
          (Reports.document (hiddenLiteral (numberValue "1e309") (numberValue "0.5")).toEstree) =
            .ok a ∧
      a.tree = hiddenLiteral .null (numberValue "0.5") ∧
      Record.sameValues a.records
        (hiddenLiteral (numberValue "1e309") (numberValue "0.5")).outline = true := by
  have hdepth : (hiddenLiteral (numberValue "1e309") (numberValue "0.5")).toEstree.depth <
      Json.depthLimit := by decide +kernel
  have hshort : ∀ d ∈ (Node.literal (numberValue "0.5")).textNumbers, d.isShort = true := by
    decide +kernel
  have hhidden : (numberValue "1e309").renumber Double.reread = .null := by decide +kernel
  have hvalue : (numberValue "0.5").renumber Double.reread = numberValue "0.5" := by decide +kernel
  have hgrammar : IsGrammar (only "1e309; x = 0.5" (hiddenNumberTree "1e309" "0.5")) :=
    isGrammar_only rfl rfl
  have hread := read_hiddenNumberTree "1e309; x = 0.5" "1e309" "0.5"
  obtain ⟨hemitted, hback⟩ := analyze_emitted hgrammar hread
  obtain ⟨a, ha, htree, hrecords⟩ :=
    (hemitted _ (List.mem_cons_of_mem _ List.mem_cons_self)).1 hdepth
  refine ⟨a, ha, ?_, hrecords fun d hd => ?_⟩
  · rw [htree, renumber_hiddenLiteral, hhidden, hvalue]
  · rw [shownNumbers_hiddenLiteral] at hd
    exact (hback d).short (hshort d hd)

/-- A script whose emitted tree is refused or has another outline. -/
def IsLost (script : String) (tree : Tree) : Prop :=
  IsGrammar (only script tree) ∧
    ∃ t, readWith (only script tree) defaultNestingLimit script.toList = .ok t ∧
      ¬ ∃ a, analyze .estree defaultNestingLimit t.toEstree.compact = .ok a ∧
        Record.sameValues a.records t.outline = true

/-- The literal of a program that assigns it to the variable. -/
def literal? : Except AnalysisError Node → Option Literal
  | .ok (.program [.expression (.assignment "=" (.identifier "x") (.literal value))]) => some value
  | _ => none

theorem eq_of_literal? {r : Except AnalysisError Node} {value : Literal}
    (h : literal? r = some value) : r = .ok (assignment value) := by
  unfold literal? at h
  split at h
  · cases h
    rfl
  · cases h

theorem outline_assignment (value : Literal) :
    (assignment value).outline = [.named 1 "AssignmentExpression" "x" (some (.literal value))] := by
  rw [Node.outline, Outline.run_eq_walkTasks]
  simp [Outline.walkTasks, Outline.Task.walk, assignment, Node.walk, Node.walkProgram,
    Node.isAssignment, Walk.andThen, Walk.advance, Walk.emit, Walk.idle, Node.renderText_identifier,
    Node.render]

theorem isLost_assignment {script number : String}
    (h : (literal? (Estree.read defaultNestingLimit
      (assignment (numberValue number)).toEstree.compact)).map (·.sameValue (numberValue number)) =
        some false) :
    IsLost script (assignmentTree number) := by
  obtain ⟨value, hvalue, hother⟩ := Option.map_eq_some_iff.1 h
  refine ⟨isGrammar_assignmentTree script number, _, read_assignmentTree script number, ?_⟩
  rintro ⟨a, ha, hsame⟩
  rw [analyze, readTree, eq_of_literal? hvalue] at ha
  cases ha
  simp only [outline_assignment] at hsame
  simp [Record.sameValues, Record.sameValue, Record.named, Shown.sameValue, hother] at hsame

/-- The concrete tree of blocks inside each other. -/
def blocksTree : Nat → Tree
  | 0 => .node .statementBlock [(none, .token "\x7b"), (none, .token "\x7d")]
  | k + 1 =>
    .node .statementBlock [(none, .token "\x7b"), (none, blocksTree k), (none, .token "\x7d")]

/-- Blocks inside each other. -/
def blocks : Nat → Node
  | 0 => .block []
  | k + 1 => .block [blocks k]

/-- The script of blocks inside each other. -/
def blocksScript (k : Nat) : String :=
  String.ofList (List.replicate (k + 1) '\x7b' ++ List.replicate (k + 1) '\x7d')

theorem visibleChildren_blocksTree (k : Nat) :
    (blocksTree (k + 1)).visibleChildren = [blocksTree k] := by
  cases k <;> rfl

theorem statement_blocksTree (limit k depth : Nat) (h : k < depth) :
    Convert.statement limit depth (blocksTree k) = .ok (blocks k) := by
  induction k generalizing depth with
  | zero =>
    cases depth with
    | zero => cases h
    | succ depth => rfl
  | succ k ih =>
    cases depth with
    | zero => cases h
    | succ depth =>
      have hk : (blocksTree (k + 1)).kind? = some .statementBlock := rfl
      rw [Convert.statement, hk, visibleChildren_blocksTree, Convert.convertAll, ih depth (by omega)]
      rfl

theorem visibleChildren_blocksProgram (k : Nat) :
    (Tree.node .program [(none, blocksTree k)]).visibleChildren = [blocksTree k] := by
  cases k <;> rfl

theorem toProgram_blocksTree {limit k : Nat} (h : k ≤ limit) :
    Convert.toProgram limit (.node .program [(none, blocksTree k)]) = .ok (.program [blocks k]) := by
  rw [Convert.toProgram, visibleChildren_blocksProgram, Convert.convertAll,
    statement_blocksTree _ _ _ (by omega)]
  rfl

theorem isLost_blocks : IsLost (blocksScript 63) (.node .program [(none, blocksTree 63)]) := by
  refine ⟨isGrammar_only rfl (by decide +kernel), .program [blocks 63], ?_, ?_⟩
  · rw [readWith_only, toProgram_blocksTree (by decide)]
  · rintro ⟨a, ha, -⟩
    have hdepth : Json.depthLimit ≤ (Node.program [blocks 63]).toEstree.depth := by decide +kernel
    have hnone : ∀ c ∈ ([] : List Char), Json.isBlank c = true := nofun
    rcases Json.parse_write Json.Layout.tight_isBlank (Node.isRead_toEstree _) hnone with
      ⟨hflat, -⟩ | ⟨-, f, hf, hfault⟩
    · exact absurd hflat (Nat.not_lt.2 hdepth)
    · rw [List.append_nil] at hf
      rw [analyze, readTree, Estree.read, Estree.readWith, Json.compact, hf] at ha
      simp [hfault, Except.map] at ha

/-- The emitted tree does not always have the outline of the script: the text has no infinite numbers,
the reader of JSON does not read all fractions exactly, and it follows less nesting than the reader of
scripts. -/
theorem emitted_not_always_same :
    IsLost "x = 1e309" (assignmentTree "1e309") ∧
      IsLost "x = 123456789.123456789" (assignmentTree "123456789.123456789") ∧
      IsLost (blocksScript 63) (.node .program [(none, blocksTree 63)]) :=
  ⟨isLost_assignment (by decide +kernel), isLost_assignment (by decide +kernel), isLost_blocks⟩

end Script

end ScriptOutline
