import Mathlib.Tactic.Common
import ScriptOutline.Proofs.Yields
import ScriptOutline.Script.Reader

/-!
# The limit on the nesting of scripts

A conversion with fewer levels either runs out of them or does what a conversion with more levels
does. Every function of the conversion has one lemma that says so. Those that only pass their levels
on get it from the functions they call; the three that count them (`expression`, `declarator`,
`statement`) by going on with one level less.
-/

namespace ScriptOutline

namespace Script

namespace Convert

variable {α β : Type} {e : AnalysisError} {t : Tree}

theorem convertAll_eq_mapM (f : Tree → Converted α) (ts : List Tree) :
    convertAll f ts = ts.mapM f := by
  induction ts with
  | nil => rfl
  | cons t ts ih => rw [convertAll, ih, List.mapM_cons]

theorem agrees_convertAll {f g : Tree → Converted α} (h : ∀ u, AgreesUnless e (f u) (g u))
    (ts : List Tree) : AgreesUnless e (convertAll f ts) (convertAll g ts) := by
  rw [convertAll_eq_mapM, convertAll_eq_mapM]
  exact .mapM fun u _ => h u

theorem agrees_mapM {f g : Tree → Converted α} (h : ∀ u, AgreesUnless e (f u) (g u))
    (o : Option Tree) : AgreesUnless e (o.mapM f) (o.mapM g) := by
  cases o with
  | none => exact .refl _
  | some u => exact .bind (h u) fun _ => .refl _

theorem agrees_optionalPart {f g : Tree → Converted (Option Node)}
    (h : ∀ u, AgreesUnless e (f u) (g u)) (o : Option Tree) :
    AgreesUnless e (optionalPart f o) (optionalPart g o) := by
  cases o with
  | none => exact .refl _
  | some u => exact h u

/-! ## Expressions -/

theorem agrees_expressionWith {self other : Tree → Converted Node}
    (h : ∀ u, AgreesUnless e (self u) (other u)) (t : Tree) :
    AgreesUnless e (expressionWith self t) (expressionWith other t) := by
  have hpart (role : Role) :
      AgreesUnless e (required t role >>= self) (required t role >>= other) := .bind (.refl _) h
  unfold expressionWith
  simp only
  split
  -- Parentheses
  case h_1 =>
    split
    · exact h _
    · exact .refl _
  -- Members, by name and by index
  case h_9 | h_10 =>
    refine .bind (hpart _) fun object => ?_
    exact .bind (hpart _) fun property => .refl _
  -- Binary operators
  case h_11 =>
    refine .bind (.refl _) fun operator => ?_
    refine .bind (hpart _) fun left => ?_
    exact .bind (hpart _) fun right => .refl _
  -- Unary operators
  case h_12 =>
    refine .bind (.refl _) fun operator => ?_
    exact .bind (hpart _) fun argument => .refl _
  -- Assignments, plain and with an operator
  case h_13 | h_14 =>
    refine .bind (hpart _) fun left => ?_
    exact .bind (hpart _) fun right => .refl _
  -- Everything else has no parts that are converted
  all_goals exact .refl _

variable {limit limit' depth depth' : Nat}

theorem agrees_expression (h : depth ≤ depth') (t : Tree) :
    AgreesUnless (.nestingTooDeep limit) (expression limit depth t)
      (expression limit' depth' t) := by
  induction depth generalizing depth' t with
  | zero => exact .of_error _
  | succ depth ih =>
    obtain ⟨depth', rfl⟩ : ∃ k, depth' = k + 1 := ⟨depth' - 1, by omega⟩
    exact agrees_expressionWith (ih (Nat.le_of_succ_le_succ h)) t

theorem agrees_parameter (h : depth ≤ depth') (t : Tree) :
    AgreesUnless (.nestingTooDeep limit) (parameter limit depth t) (parameter limit' depth' t) := by
  unfold parameter
  split
  · exact .refl _
  · exact .refl _
  · exact agrees_expression h t

theorem agrees_declarator (h : depth ≤ depth') (t : Tree) :
    AgreesUnless (.nestingTooDeep limit) (declarator limit depth t)
      (declarator limit' depth' t) := by
  cases depth with
  | zero => exact .of_error _
  | succ depth =>
    obtain ⟨depth', rfl⟩ : ∃ k, depth' = k + 1 := ⟨depth' - 1, by omega⟩
    have hexpression (u : Tree) : AgreesUnless (.nestingTooDeep limit)
        (expression limit depth u) (expression limit' depth' u) :=
      agrees_expression (Nat.le_of_succ_le_succ h) u
    refine .bind (.refl _) fun name => ?_
    refine .bind (hexpression _) fun id => ?_
    exact .bind (agrees_mapM hexpression _) fun init => .refl _

theorem agrees_headerPart (h : depth ≤ depth') (t : Tree) :
    AgreesUnless (.nestingTooDeep limit) (headerPart limit depth t)
      (headerPart limit' depth' t) := by
  unfold headerPart
  split
  · exact .refl _
  · split
    · exact .refl _
    · exact agrees_mapM (agrees_expression h) _
    · exact .map _ (agrees_expression h t)

theorem agrees_initializer {self other : Tree → Converted Node}
    (hself : ∀ u, AgreesUnless (.nestingTooDeep limit) (self u) (other u)) (h : depth ≤ depth')
    (t : Tree) :
    AgreesUnless (.nestingTooDeep limit) (initializer self limit depth t)
      (initializer other limit' depth' t) := by
  unfold initializer
  split
  · exact .map _ (hself t)
  · exact agrees_headerPart h t

/-! ## Statements -/

theorem agrees_statement (h : depth ≤ depth') (t : Tree) :
    AgreesUnless (.nestingTooDeep limit) (statement limit depth t) (statement limit' depth' t) := by
  induction depth generalizing depth' t with
  | zero => exact .of_error _
  | succ depth ih =>
    obtain ⟨depth', rfl⟩ : ∃ k, depth' = k + 1 := ⟨depth' - 1, by omega⟩
    have hle : depth ≤ depth' := Nat.le_of_succ_le_succ h
    have hstatement := ih hle
    have hexpression (u : Tree) : AgreesUnless (.nestingTooDeep limit)
        (expression limit depth u) (expression limit' depth' u) := agrees_expression hle u
    unfold statement
    split
    -- Functions and generators
    case h_1 | h_2 =>
      refine .bind (.refl _) fun name => ?_
      refine .bind (hexpression name) fun id => ?_
      refine .bind (.refl _) fun list => ?_
      refine .bind (agrees_convertAll (agrees_parameter hle) _) fun params => ?_
      refine .bind (.refl _) fun inner => ?_
      exact .bind (hstatement inner) fun body => .refl _
    -- Blocks
    case h_3 => exact .bind (agrees_convertAll hstatement _) fun body => .refl _
    -- Declarations of variables
    case h_4 | h_5 => exact .bind (agrees_convertAll (agrees_declarator hle) _) fun _ => .refl _
    -- Expressions
    case h_6 =>
      split
      · exact .bind (hexpression _) fun inner => .refl _
      · exact .refl _
    -- `while`
    case h_7 =>
      refine .bind (.refl _) fun condition => ?_
      refine .bind (hexpression condition) fun test => ?_
      refine .bind (.refl _) fun inner => ?_
      exact .bind (hstatement inner) fun body => .refl _
    -- `if`
    case h_8 =>
      refine .bind (.refl _) fun condition => ?_
      refine .bind (hexpression condition) fun test => ?_
      refine .bind (.refl _) fun consequence => ?_
      refine .bind (hstatement consequence) fun consequent => ?_
      refine .bind (agrees_mapM (fun clause => ?_) _) fun alternate => .refl _
      split
      · exact hstatement _
      · exact .refl _
    -- `for`
    case h_9 =>
      refine .bind (agrees_optionalPart (agrees_initializer hstatement hle) _) fun init => ?_
      refine .bind (agrees_optionalPart (agrees_headerPart hle) _) fun test => ?_
      refine .bind (agrees_mapM hexpression _) fun update => ?_
      refine .bind (.refl _) fun inner => ?_
      exact .bind (hstatement inner) fun body => .refl _
    -- `return`
    case h_10 => exact .bind (agrees_mapM hexpression _) fun argument => .refl _
    -- Statements without a case of their own
    case h_11 => exact .bind (agrees_convertAll hstatement _) fun children => .refl _
    case h_12 => exact .refl _

theorem agrees_toProgram {d d' : Nat} (h : d ≤ d') (root : Tree) :
    AgreesUnless (.nestingTooDeep d) (toProgram d root) (toProgram d' root) :=
  .bind (agrees_convertAll (agrees_statement (Nat.succ_le_succ h)) _) fun _ => .refl _

end Convert

theorem readWith_agrees {d d' : Nat} (h : d ≤ d') (grammar : List Char → Except AnalysisError Tree)
    (source : List Char) :
    AgreesUnless (.nestingTooDeep d) (readWith grammar d source) (readWith grammar d' source) :=
  .bind (.refl _) (Convert.agrees_toProgram h)

end Script

end ScriptOutline
