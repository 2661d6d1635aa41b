import Mathlib.Tactic.Common
import ScriptOutline.Proofs.Estree.WrittenLevels
import ScriptOutline.Proofs.Script.Emission

/-!
# Levels of scripts

The conversion of a script takes a level for every node it makes, so that no node of its result lies
deeper than it had levels. Every function of the conversion has one lemma that says so. Those that
count their levels (`expression`, `declarator`, `statement`) have it from what they call with one
level less.

The program itself costs nothing here, but it takes a level when a tree is read. That is all the
difference between the two limits: a script that is converted with some limit has a tree that is read
with any greater one, and with the same limit unless the script needed all of its levels. Whatever the
limit is, some script does (`exists_refused`).
-/

namespace ScriptOutline

namespace Script

namespace Convert

open Node (Within within_succ_iff)

variable {depth : Nat}

/-! ## Expressions -/

theorem within_part {self : Tree → Converted Node} (hself : ∀ u, Ensures (self u) (·.Within depth))
    (t : Tree) (role : Role) : Ensures (required t role >>= self) (·.Within depth) :=
  (Ensures.any _).bind fun u _ => hself u

theorem within_expressionWith {self : Tree → Converted Node}
    (hself : ∀ u, Ensures (self u) (·.Within depth)) (t : Tree) :
    Ensures (expressionWith self t) (·.Within (depth + 1)) := by
  have hpart (role : Role) := within_part hself t role
  unfold expressionWith
  simp only
  split
  -- Parentheses take a level and leave no node
  case h_1 =>
    split
    · exact (hself _).mono fun n hn => hn.mono (Nat.le_succ depth)
    · exact .error
  -- Members, by name and by index
  case h_9 | h_10 =>
    refine (hpart _).bind fun object hobject => ?_
    refine (hpart _).bind fun property hproperty => ?_
    exact .pure (within_succ_iff.2 (by simp [Node.parts, hobject, hproperty]))
  -- Binary and logical operators
  case h_11 =>
    refine Ensures.bind (.any _) fun operator _ => ?_
    refine (hpart _).bind fun left hleft => ?_
    refine (hpart _).bind fun right hright => ?_
    refine .pure ?_
    split <;> exact within_succ_iff.2 (by simp [Node.parts, hleft, hright])
  -- Unary operators
  case h_12 =>
    refine Ensures.bind (.any _) fun operator _ => ?_
    refine (hpart _).bind fun argument hargument => ?_
    exact .pure (within_succ_iff.2 (by simp [Node.parts, hargument]))
  -- Assignments, plain and with an operator
  case h_13 | h_14 =>
    refine (hpart _).bind fun left hleft => ?_
    refine (hpart _).bind fun right hright => ?_
    exact .pure (within_succ_iff.2 (by simp [Node.parts, hleft, hright]))
  -- Everything else has no parts
  all_goals exact .pure (within_succ_iff.2 (by simp [Node.parts]))

variable (limit : Nat)

theorem within_expression (depth : Nat) (t : Tree) :
    Ensures (expression limit depth t) (·.Within depth) := by
  induction depth generalizing t with
  | zero => exact .error
  | succ depth ih => exact within_expressionWith ih t

/-- A parameter with a default and a rest parameter take no level, but their function's name does. -/
theorem within_parameter (hdepth : 0 < depth) (t : Tree) :
    Ensures (parameter limit depth t) (·.Within depth) := by
  obtain ⟨depth, rfl⟩ : ∃ k, depth = k + 1 := ⟨depth - 1, by omega⟩
  have hpattern (kind : Kind) : (patternParameter t kind).Within (depth + 1) :=
    within_succ_iff.2 (by simp [patternParameter, Node.parts])
  unfold parameter
  split
  · exact .pure (hpattern _)
  · exact .pure (hpattern _)
  · exact within_expression limit (depth + 1) t

theorem within_optionalExpression (depth : Nat) (o : Option Tree) :
    Ensures (o.mapM (expression limit depth)) (fun r => ∀ n ∈ r.toList, n.Within depth) :=
  ensures_mapM fun u _ => within_expression limit depth u

theorem within_declarator (depth : Nat) (t : Tree) :
    Ensures (declarator limit depth t) (·.Within depth) := by
  cases depth with
  | zero => exact .error
  | succ depth =>
    refine Ensures.bind (.any _) fun name _ => ?_
    refine (within_expression limit depth name).bind fun id hid => ?_
    refine (within_optionalExpression limit depth _).bind fun init hinit => ?_
    exact .pure (within_succ_iff.2 (List.forall_mem_cons.2 ⟨hid, hinit⟩))

theorem within_headerPart (depth : Nat) (t : Tree) :
    Ensures (headerPart limit depth t) (fun r => ∀ n ∈ r.toList, n.Within depth) := by
  unfold headerPart
  split
  · exact .pure (by simp)
  · split
    · exact .pure (by simp)
    · exact within_optionalExpression limit depth _
    · exact ((within_expression limit depth t).mono fun n hn => by simpa using hn).map

theorem within_initializer {self : Tree → Converted Node}
    (hself : ∀ u, Ensures (self u) (·.Within depth)) (t : Tree) :
    Ensures (initializer self limit depth t) (fun r => ∀ n ∈ r.toList, n.Within depth) := by
  unfold initializer
  split
  · exact ((hself t).mono fun n hn => by simpa using hn).map
  · exact within_headerPart limit depth t

/-! ## Statements -/

/-- The branch of an `if` statement after `else`; the clause that holds it takes no level. -/
theorem within_alternate {self : Tree → Converted Node}
    (hself : ∀ u, Ensures (self u) (·.Within depth)) (clause : Option Tree) :
    Ensures
      (clause.mapM fun clause =>
        match clause.visibleChildren.head? with
        | some branch => self branch
        | none => throw (.malformedNode "IfStatement" "alternate"))
      (fun r => ∀ n ∈ r.toList, n.Within depth) := by
  refine ensures_mapM fun u _ => ?_
  split
  · exact hself _
  · exact .error

theorem within_statement (depth : Nat) (t : Tree) :
    Ensures (statement limit depth t) (·.Within depth) := by
  induction depth generalizing t with
  | zero => exact .error
  | succ depth ih =>
    have hstatements (ts : List Tree) :
        Ensures (convertAll (statement limit depth) ts) fun body => ∀ n ∈ body, n.Within depth :=
      ensures_convertAll fun u _ => ih u
    unfold statement
    split
    -- Functions and generators
    case h_1 | h_2 =>
      refine Ensures.bind (.any _) fun name _ => ?_
      refine (within_expression limit depth name).bind fun id hid => ?_
      refine Ensures.bind (.any _) fun list _ => ?_
      refine (ensures_convertAll fun u _ => within_parameter limit hid.pos u).bind
        fun params hparams => ?_
      refine Ensures.bind (.any _) fun inner _ => ?_
      refine (ih inner).bind fun body hbody => ?_
      refine .pure (within_succ_iff.2 ?_)
      simpa [Node.parts, hid, hbody, or_imp, forall_and] using hparams
    -- Blocks
    case h_3 =>
      exact (hstatements _).bind fun body hbody => .pure (within_succ_iff.2 hbody)
    -- Declarations of variables
    case h_4 | h_5 =>
      refine (ensures_convertAll fun u _ => within_declarator limit depth u).bind
        fun declarations hdeclarations => ?_
      exact .pure (within_succ_iff.2 hdeclarations)
    -- Expressions
    case h_6 =>
      split
      · refine (within_expression limit depth _).bind fun inner hinner => ?_
        exact .pure (within_succ_iff.2 (by simp [Node.parts, hinner]))
      · exact .error
    -- `while`
    case h_7 =>
      refine Ensures.bind (.any _) fun condition _ => ?_
      refine (within_expression limit depth condition).bind fun test htest => ?_
      refine Ensures.bind (.any _) fun inner _ => ?_
      refine (ih inner).bind fun body hbody => ?_
      exact .pure (within_succ_iff.2 (by simp [Node.parts, htest, hbody]))
    -- `if`
    case h_8 =>
      refine Ensures.bind (.any _) fun condition _ => ?_
      refine (within_expression limit depth condition).bind fun test htest => ?_
      refine Ensures.bind (.any _) fun consequence _ => ?_
      refine (ih consequence).bind fun consequent hconsequent => ?_
      refine (within_alternate ih _).bind fun alternate halternate => .pure (within_succ_iff.2 ?_)
      simpa [Node.parts, htest, hconsequent] using halternate
    -- `for`
    case h_9 =>
      refine (ensures_optionalPart fun u _ => within_initializer limit ih u).bind
        fun init hinit => ?_
      refine (ensures_optionalPart fun u _ => within_headerPart limit depth u).bind
        fun test htest => ?_
      refine (within_optionalExpression limit depth _).bind fun update hupdate => ?_
      refine Ensures.bind (.any _) fun inner _ => ?_
      refine (ih inner).bind fun body hbody => ?_
      refine .pure (within_succ_iff.2 ?_)
      simp only [Node.parts, List.mem_append, List.mem_singleton]
      rintro p (((hp | hp) | hp) | rfl)
      · exact hinit p hp
      · exact htest p hp
      · exact hupdate p hp
      · exact hbody
    -- `return`
    case h_10 =>
      refine (within_optionalExpression limit depth _).bind fun argument hargument => ?_
      exact .pure (within_succ_iff.2 hargument)
    -- Statements without a case of their own
    case h_11 =>
      exact (hstatements _).bind fun children hchildren => .pure (within_succ_iff.2 hchildren)
    case h_12 => exact .pure (within_succ_iff.2 (by simp [Node.parts]))

/-- The statements of a script have one level more than the limit, and the program lies above them. -/
theorem within_toProgram (root : Tree) : Ensures (toProgram limit root) (·.Within (limit + 2)) := by
  refine (ensures_convertAll fun u _ => within_statement limit (limit + 1) u).bind
    fun body hbody => ?_
  exact .pure (within_succ_iff.2 hbody)

end Convert

variable {grammar : List Char → Except AnalysisError Tree} {limit : Nat} {source : List Char}
  {t : Node}

theorem within_of_readWith (hread : readWith grammar limit source = .ok t) :
    t.Within (limit + 2) := by
  have hresult : Ensures (readWith grammar limit source) (·.Within (limit + 2)) :=
    Ensures.bind (.any _) fun root _ => Convert.within_toProgram limit root
  exact hresult t hread

/-- A tree that lies within one level more than there are has a node on the last one, or lies within
those there are. -/
theorem within_iff_forall_not_lies {depth : Nat} (h : t.Within (depth + 1)) :
    t.Within depth ↔ ∀ m, ¬ Node.Lies t depth m := by
  constructor
  · intro hwithin m hm
    exact Nat.lt_irrefl depth (hwithin depth m hm)
  · intro hlast k m hm
    refine Nat.lt_of_le_of_ne (Nat.le_of_lt_succ (h k m hm)) ?_
    rintro rfl
    exact hlast m hm

/-- The tree of a script, in its written form, is read with every limit greater than the script's own.
With the script's own limit it is refused for its nesting if one of its nodes lies a level deeper than
the limit, and read otherwise. -/
theorem readValue_of_readWith (hgrammar : IsGrammar grammar)
    (hread : readWith grammar limit source = .ok t) :
    (∀ greater, limit < greater → ∃ u, Estree.readValue greater t.toEstree = .ok u) ∧
      ((∃ m, Node.Lies t (limit + 1) m) →
        Estree.readValue limit t.toEstree = .error (.nestingTooDeep limit)) ∧
      ((∀ m, ¬ Node.Lies t (limit + 1) m) →
        ∃ u, Estree.readValue limit t.toEstree = .ok u) := by
  have hwithin := within_of_readWith hread
  have hlast := within_iff_forall_not_lies hwithin
  obtain ⟨body, rfl, hkeeps⟩ := keeps_of_readWith hgrammar hread
  refine ⟨fun greater hgreater => ?_, ?_, fun hnone => ?_⟩
  · rcases Estree.readValue_toEstree hkeeps greater with ⟨-, hok⟩ | ⟨hdeep, -⟩
    · exact hok
    · exact absurd (hwithin.mono (Nat.succ_le_succ hgreater)) hdeep
  · rintro ⟨m, hm⟩
    rcases Estree.readValue_toEstree hkeeps limit with ⟨hflat, -⟩ | ⟨-, herror⟩
    · exact absurd hm (hlast.1 hflat m)
    · exact herror
  · rcases Estree.readValue_toEstree hkeeps limit with ⟨-, hok⟩ | ⟨hdeep, -⟩
    · exact hok
    · exact absurd (hlast.2 hnone) hdeep

theorem read_assignment_in_two :
    readWith (only "x = 1" (assignmentTree "1")) 2 "x = 1".toList =
      .ok (assignment (numberValue "1")) := by
  rw [readWith_only]
  rfl

/-- With one level more than it was read with, the tree of `x = 1` is read. -/
theorem readValue_of_readWith_assignment :
    readWith (only "x = 1" (assignmentTree "1")) 2 "x = 1".toList =
        .ok (assignment (numberValue "1")) ∧
      ∃ u, Estree.readValue 3 (assignment (numberValue "1")).toEstree = .ok u := by
  have hgrammar := isGrammar_assignmentTree "x = 1" "1"
  have hlevels := readValue_of_readWith hgrammar read_assignment_in_two
  exact ⟨read_assignment_in_two, hlevels.1 3 (by decide)⟩

/-- The two limits do not mean the same: with two levels `x = 1` is read, and its tree is refused. -/
theorem limits_differ :
    IsGrammar (only "x = 1" (assignmentTree "1")) ∧
      readWith (only "x = 1" (assignmentTree "1")) 2 "x = 1".toList =
        .ok (assignment (numberValue "1")) ∧
      Estree.readValue 2 (assignment (numberValue "1")).toEstree = .error (.nestingTooDeep 2) :=
  ⟨isGrammar_assignmentTree "x = 1" "1", read_assignment_in_two, rfl⟩

/-! ## Blocks that need all levels -/

theorem isOfKind_blocksTree (k : Nat) : (blocksTree k).isOfKind Kind.fitsStatement = true := by
  cases k <;> rfl

theorem isGrammatical_blocksTree (k : Nat) : (blocksTree k).isGrammatical = true := by
  induction k with
  | zero => rfl
  | succ k ih =>
    have htoken (s : String) : (Tree.token s).fits = true := rfl
    have hkind : (blocksTree (k + 1)).kind? = some .statementBlock := rfl
    have hfits : (blocksTree (k + 1)).fits = true := by
      simp [Tree.fits, Tree.statementPlaces, Tree.expressionPlaces, hkind,
        visibleChildren_blocksTree, isOfKind_blocksTree]
    rw [blocksTree] at hfits ⊢
    simp [Tree.isGrammatical, Tree.areGrammatical, htoken, hfits, ih]

theorem isGrammatical_blocksProgram (k : Nat) :
    (Tree.node .program [(none, blocksTree k)]).isGrammatical = true := by
  have hkind : (Tree.node .program [(none, blocksTree k)]).kind? = some .program := rfl
  simp [Tree.isGrammatical, Tree.areGrammatical, Tree.fits, Tree.statementPlaces,
    Tree.expressionPlaces, hkind, visibleChildren_blocksProgram, isOfKind_blocksTree,
    isGrammatical_blocksTree]

/-- The innermost block. -/
theorem lies_blocks (k : Nat) : Node.Lies (blocks k) k (.block []) := by
  induction k with
  | zero => exact .here _
  | succ k ih => exact .inside List.mem_cons_self ih

/-- With every limit there is a script that is read and whose tree is refused: blocks inside each
other that need all levels. -/
theorem exists_refused (limit : Nat) :
    ∃ script tree t, IsGrammar (only script tree) ∧
      readWith (only script tree) limit script.toList = .ok t ∧
      Estree.readValue limit t.toEstree = .error (.nestingTooDeep limit) := by
  have hgrammar : IsGrammar
      (only (blocksScript limit) (.node .program [(none, blocksTree limit)])) :=
    isGrammar_only rfl (isGrammatical_blocksProgram limit)
  have hread : readWith (only (blocksScript limit) (.node .program [(none, blocksTree limit)])) limit
      (blocksScript limit).toList = .ok (.program [blocks limit]) := by
    rw [readWith_only, toProgram_blocksTree (Nat.le_refl limit)]
  refine ⟨_, _, _, hgrammar, hread, ?_⟩
  obtain ⟨body, hbody, hkeeps⟩ := keeps_of_readWith hgrammar hread
  cases hbody
  rcases Estree.readValue_toEstree hkeeps limit with ⟨hflat, -⟩ | ⟨-, herror⟩
  · have hinnermost : Node.Lies (.program [blocks limit]) (limit + 1) (.block []) :=
      .inside List.mem_cons_self (lies_blocks limit)
    exact absurd (hflat _ _ hinnermost) (Nat.lt_irrefl _)
  · exact herror

end Script

end ScriptOutline
