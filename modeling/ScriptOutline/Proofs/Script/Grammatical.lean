import Mathlib.Tactic.Common
import ScriptOutline.Script.Convert

/-!
# What a grammar guarantees

The conversion of a concrete tree relies on the grammar that gave it: where a statement should stand,
the tree has a statement, where an expression should stand, it has none, and a regular expression has
its slashes. `Tree.isGrammatical` says so of a tree and of everything in it. Comments in the manner of
a web page may stand anywhere.
-/

namespace ScriptOutline

namespace Script

namespace Kind

/-- Whether nodes of the kind can stand where a statement should. -/
def fitsStatement (k : Kind) : Bool := k.isStatement || k.isContainer || k == .htmlComment

/-- Whether nodes of the kind can stand where an expression should. -/
def fitsExpression (k : Kind) : Bool :=
  !k.isStatement && k != .program && k != .variableDeclarator

/-- Whether nodes of the kind can stand in the header of a `for` statement, in front of a semicolon,
without being expressions. -/
def fitsHeader (k : Kind) : Bool := k == .emptyStatement || k == .expressionStatement

/-- Whether nodes of the kind declare variables. -/
def declaresVariables (k : Kind) : Bool := k == .lexicalDeclaration || k == .variableDeclaration

end Kind

namespace Tree

/-- Whether the kind of the tree, if it has one, is of some sort. -/
def isOfKind (t : Tree) (p : Kind → Bool) : Bool := t.kind?.all p

/-- The parts of a tree that should be statements. -/
def statementPlaces (t : Tree) : List Tree :=
  match t.kind? with
  | some .program | some .statementBlock => t.visibleChildren
  | some .functionDeclaration | some .generatorFunctionDeclaration | some .whileStatement
  | some .forStatement => (t.part? .body).toList
  | some .ifStatement =>
    (t.part? .consequence).toList ++ (t.part? .alternative).toList.flatMap visibleChildren
  | _ => []

/-- The parts of a tree that should be expressions. -/
def expressionPlaces (t : Tree) : List Tree :=
  match t.kind? with
  | some .functionDeclaration | some .generatorFunctionDeclaration =>
    (t.part? .name).toList ++ (t.part? .parameters).toList.flatMap visibleChildren
  | some .variableDeclarator => (t.part? .name).toList ++ (t.part? .value).toList
  | some .expressionStatement | some .returnStatement | some .parenthesizedExpression =>
    t.visibleChildren
  | some .whileStatement | some .ifStatement => (t.part? .condition).toList
  | some .forStatement => (t.part? .increment).toList
  | some .memberExpression => (t.part? .object).toList ++ (t.part? .property).toList
  | some .subscriptExpression => (t.part? .object).toList ++ (t.part? .index).toList
  | some .binaryExpression | some .assignmentExpression | some .augmentedAssignmentExpression =>
    (t.part? .left).toList ++ (t.part? .right).toList
  | some .unaryExpression => (t.part? .argument).toList
  | _ => []

/-- Whether a tree has statements and expressions where they should stand. -/
def fits (t : Tree) : Bool :=
  t.statementPlaces.all (·.isOfKind Kind.fitsStatement) &&
    t.expressionPlaces.all (·.isOfKind Kind.fitsExpression) &&
    match t.kind? with
    | some .forStatement =>
      (t.part? .initializer).all (·.isOfKind fun k =>
          k.fitsExpression || k.fitsHeader || k.declaresVariables) &&
        (t.part? .condition).all (·.isOfKind fun k => k.fitsExpression || k.fitsHeader)
    | some .regex => (Literal.regexpParts? t.text).isSome
    | _ => true

mutual

/-- Whether a tree and everything in it has statements and expressions where they should stand. -/
def isGrammatical : Tree → Bool
  | .token s => (Tree.token s).fits
  | .leaf k s => (Tree.leaf k s).fits
  | .node k children => (Tree.node k children).fits && areGrammatical children

/-- Whether all of some parts are grammatical. -/
def areGrammatical : List Child → Bool
  | [] => true
  | (_, t) :: rest => t.isGrammatical && areGrammatical rest

end

variable {t u : Tree}

theorem fits_of_isGrammatical (h : t.isGrammatical = true) : t.fits = true := by
  cases t with
  | token s => exact h
  | leaf k s => exact h
  | node k children =>
    rw [isGrammatical, Bool.and_eq_true] at h
    exact h.1

theorem isGrammatical_of_mem {children : List Child} {c : Child}
    (h : areGrammatical children = true) (hc : c ∈ children) : c.2.isGrammatical = true := by
  induction children with
  | nil => cases hc
  | cons first rest ih =>
    rw [areGrammatical, Bool.and_eq_true] at h
    rcases List.mem_cons.1 hc with rfl | hc
    · exact h.1
    · exact ih h.2 hc

/-- The parts of a grammatical tree are grammatical. -/
theorem isGrammatical_child (h : t.isGrammatical = true) {c : Child} (hc : c ∈ t.children) :
    c.2.isGrammatical = true := by
  cases t with
  | token s => cases hc
  | leaf k s => cases hc
  | node k children =>
    rw [isGrammatical, Bool.and_eq_true] at h
    exact isGrammatical_of_mem h.2 hc

theorem isGrammatical_visible (h : t.isGrammatical = true) (hu : u ∈ t.visibleChildren) :
    u.isGrammatical = true := by
  rw [visibleChildren, List.mem_filter, List.mem_map] at hu
  obtain ⟨⟨c, hc, rfl⟩, -⟩ := hu
  exact isGrammatical_child h hc

theorem isGrammatical_part (h : t.isGrammatical = true) {role : Role} (hu : t.part? role = some u) :
    u.isGrammatical = true := by
  obtain ⟨c, hc, rfl⟩ := Option.map_eq_some_iff.1 hu
  exact isGrammatical_child h (List.mem_of_find?_eq_some hc)

theorem isGrammatical_of_mem_part (h : t.isGrammatical = true) {role : Role}
    (hu : u ∈ (t.part? role).toList) : u.isGrammatical = true :=
  isGrammatical_part h (Option.mem_toList.1 hu)

theorem isGrammatical_inside_part (h : t.isGrammatical = true) {role : Role}
    (hu : u ∈ (t.part? role).toList.flatMap visibleChildren) : u.isGrammatical = true := by
  obtain ⟨part, hpart, hu⟩ := List.mem_flatMap.1 hu
  exact isGrammatical_visible (isGrammatical_of_mem_part h hpart) hu

/-- A grammatical tree that stands where a statement should. -/
def IsStatement (t : Tree) : Prop := t.isGrammatical = true ∧ t.isOfKind Kind.fitsStatement = true

/-- A grammatical tree that stands where an expression should. -/
def IsExpression (t : Tree) : Prop := t.isGrammatical = true ∧ t.isOfKind Kind.fitsExpression = true

/-- A place for a statement holds a statement. -/
theorem isStatement_of_place (h : t.isGrammatical = true) (hu : u ∈ t.statementPlaces) :
    u.IsStatement := by
  have hfits := fits_of_isGrammatical h
  simp only [fits, Bool.and_eq_true, List.all_eq_true] at hfits
  refine ⟨?_, hfits.1.1 u hu⟩
  unfold statementPlaces at hu
  split at hu
  case h_7 =>
    rcases List.mem_append.1 hu with hu | hu
    · exact isGrammatical_of_mem_part h hu
    · exact isGrammatical_inside_part h hu
  all_goals first
    | exact isGrammatical_visible h hu
    | exact isGrammatical_of_mem_part h hu
    | exact absurd hu List.not_mem_nil

/-- A place for an expression holds no statement. -/
theorem isExpression_of_place (h : t.isGrammatical = true) (hu : u ∈ t.expressionPlaces) :
    u.IsExpression := by
  have hfits := fits_of_isGrammatical h
  simp only [fits, Bool.and_eq_true, List.all_eq_true] at hfits
  refine ⟨?_, hfits.1.2 u hu⟩
  unfold expressionPlaces at hu
  split at hu
  all_goals first
    | exact isGrammatical_visible h hu
    | exact isGrammatical_of_mem_part h hu
    | exact absurd hu List.not_mem_nil
    | rcases List.mem_append.1 hu with hu | hu
  all_goals first
    | exact isGrammatical_of_mem_part h hu
    | exact isGrammatical_inside_part h hu

end Tree

/-- What the reader relies on about a grammar: its trees are those of whole scripts, with statements
and expressions where they should stand. -/
def IsGrammar (grammar : List Char → Except AnalysisError Tree) : Prop :=
  ∀ source tree, grammar source = .ok tree →
    tree.kind? = some .program ∧ tree.isGrammatical = true

end Script

end ScriptOutline
