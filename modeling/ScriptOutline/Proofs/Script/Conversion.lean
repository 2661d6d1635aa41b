import Mathlib.Tactic.Common
import ScriptOutline.Proofs.Estree.RoundTrip
import ScriptOutline.Proofs.Script.Grammatical
import ScriptOutline.Proofs.Script.KindName
import ScriptOutline.Proofs.Yields

/-!
# Converted trees keep their data

The abstract tree that comes from a grammatical concrete one has nothing in it that the ESTree format
cannot hold, its numbers apart: its regular expressions have their slashes, its unsupported nodes have
kinds of their own, and the children of those are statements.

Every function of the conversion has one lemma that says so of its result. A result of `statement` is
moreover of a statement's type if its tree is a statement or holds statements, which is what an
unsupported node needs to know about its children.
-/

namespace ScriptOutline

namespace Script

namespace Kind

variable {k : Kind}

/-- A kind that stands for an expression has an unsupported name or one of an expression that is
converted to a supported node. -/
theorem typeName_of_fitsExpression (h : k.fitsExpression = true) :
    k.typeName ∉ Node.supportedNames ∨
      k ∈ [identifier, memberExpression, binaryExpression, unaryExpression,
        assignmentExpression] := by
  have hsupported : ∀ k ∈ supportedKinds, k.fitsExpression = true →
      k ∈ [identifier, memberExpression, binaryExpression, unaryExpression,
        assignmentExpression] := by decide +kernel
  exact or_iff_not_imp_left.2 fun hname => hsupported k (mem_supportedKinds (not_not.1 hname)) h

/-- A kind that stands for a statement has an unsupported name or one of a statement that is converted
to a supported node. -/
theorem typeName_of_fitsStatement (h : k.fitsStatement = true) :
    k.typeName ∉ Node.supportedNames ∨
      k ∈ [functionDeclaration, variableDeclaration, expressionStatement, whileStatement,
        ifStatement, forStatement, returnStatement] := by
  have hsupported : ∀ k ∈ supportedKinds, k.fitsStatement = true →
      k ∈ [functionDeclaration, variableDeclaration, expressionStatement, whileStatement,
        ifStatement, forStatement, returnStatement] := by decide +kernel
  exact or_iff_not_imp_left.2 fun hname => hsupported k (mem_supportedKinds (not_not.1 hname)) h

end Kind

namespace Convert

open Node (KeepsAllButNumbers)

variable {α : Type} {P : α → Prop} {t : Tree}

theorem ensures_required {P : Tree → Prop} {role : Role}
    (h : ∀ u, t.part? role = some u → P u) : Ensures (required t role) P := by
  unfold required
  split
  · exact .pure (h _ ‹_›)
  · exact .error

theorem ensures_convertAll {f : Tree → Converted α} {ts : List Tree}
    (h : ∀ u ∈ ts, Ensures (f u) P) : Ensures (convertAll f ts) (fun as => ∀ a ∈ as, P a) := by
  induction ts with
  | nil => exact .pure (by simp)
  | cons u rest ih =>
    refine (h u List.mem_cons_self).bind fun a ha => ?_
    refine (ih fun v hv => h v (List.mem_cons_of_mem u hv)).bind fun as has => ?_
    exact .pure (List.forall_mem_cons.2 ⟨ha, has⟩)

theorem ensures_mapM {f : Tree → Converted α} {o : Option Tree}
    (h : ∀ u, o = some u → Ensures (f u) P) : Ensures (o.mapM f) (fun r => ∀ a ∈ r.toList, P a) := by
  cases o with
  | none => exact .pure (by simp)
  | some u =>
    refine (h u rfl).bind fun a ha => ?_
    exact .pure (by simpa using ha)

theorem ensures_optionalPart {P : Node → Prop} {f : Tree → Converted (Option Node)}
    {o : Option Tree} (h : ∀ u, o = some u → Ensures (f u) fun r => ∀ n ∈ r.toList, P n) :
    Ensures (optionalPart f o) (fun r => ∀ n ∈ r.toList, P n) := by
  cases o with
  | none => exact .pure (by simp)
  | some u => exact h u rfl

/-! ## Expressions -/

theorem ensures_requiredExpression {role : Role} (ht : t.isGrammatical = true)
    (hrole : ∀ u, t.part? role = some u → u ∈ t.expressionPlaces) :
    Ensures (required t role) Tree.IsExpression :=
  ensures_required fun u hu => Tree.isExpression_of_place ht (hrole u hu)

/-- A part that the grammar guarantees to be an expression. -/
theorem ensures_part {self : Tree → Converted Node} {role : Role}
    (hself : ∀ u, u.IsExpression → Ensures (self u) KeepsAllButNumbers)
    (ht : t.isGrammatical = true) (hrole : ∀ u, t.part? role = some u → u ∈ t.expressionPlaces) :
    Ensures (required t role >>= self) KeepsAllButNumbers :=
  (ensures_requiredExpression ht hrole).bind hself

theorem keeps_unsupported {kind : String} {name : Option String} (hk : kind ∉ Node.supportedNames) :
    (Node.unsupported kind name []).KeepsAllButNumbers :=
  .of_no_parts (by simp [Estree.keepsItsData, hk]) rfl

theorem keeps_numberValue (source : String) :
    (Node.literal (numberValue source)).KeepsAllButNumbers := by
  unfold numberValue
  simp only
  split
  · exact .number _
  · exact .of_no_parts rfl rfl

theorem keeps_regexp (ht : t.isGrammatical = true) (hk : t.kind? = some .regex) :
    (Node.literal (.regexp t.text)).KeepsAllButNumbers := by
  have hfits := Tree.fits_of_isGrammatical ht
  simp only [Tree.fits, hk, Bool.and_eq_true] at hfits
  exact .of_no_parts hfits.2 rfl

/-- An expression without a case of its own. -/
theorem keeps_otherExpression {k : Kind} (hfits : k.fitsExpression = true)
    (hother : k ∉ [Kind.identifier, .memberExpression, .binaryExpression, .unaryExpression,
      .assignmentExpression]) :
    (Node.unsupported k.typeName none []).KeepsAllButNumbers :=
  keeps_unsupported ((Kind.typeName_of_fitsExpression hfits).resolve_right hother)

theorem ensures_expressionWith {self : Tree → Converted Node}
    (hself : ∀ u, u.IsExpression → Ensures (self u) KeepsAllButNumbers)
    (ht : t.IsExpression) : Ensures (expressionWith self t) KeepsAllButNumbers := by
  obtain ⟨hgrammar, hkind⟩ := ht
  have hpart (role : Role) (h : ∀ u, t.part? role = some u → u ∈ t.expressionPlaces) :=
    ensures_part hself hgrammar h
  unfold expressionWith
  simp only
  split
  -- Parentheses
  case h_1 hk =>
    split
    · next inner hinner =>
      have hplace : inner ∈ t.expressionPlaces := by
        simpa [Tree.expressionPlaces, hk] using List.mem_of_mem_head? hinner
      exact hself inner (Tree.isExpression_of_place hgrammar hplace)
    · exact .error
  -- Members, by name and by index
  case h_9 hk | h_10 hk =>
    refine (hpart _ fun u hu => ?_).bind fun object hobject => ?_
    · simp [Tree.expressionPlaces, hk, hu]
    refine (hpart _ fun u hu => ?_).bind fun property hproperty => ?_
    · simp [Tree.expressionPlaces, hk, hu]
    exact .pure (.of_parts rfl (by simp [Node.parts, hobject, hproperty]))
  -- Binary and logical operators
  case h_11 hk =>
    refine Ensures.bind (.any _) fun operator _ => ?_
    refine (hpart _ fun u hu => ?_).bind fun left hleft => ?_
    · simp [Tree.expressionPlaces, hk, hu]
    refine (hpart _ fun u hu => ?_).bind fun right hright => ?_
    · simp [Tree.expressionPlaces, hk, hu]
    refine .pure ?_
    split <;> exact .of_parts rfl (by simp [Node.parts, hleft, hright])
  -- Unary operators
  case h_12 hk =>
    refine Ensures.bind (.any _) fun operator _ => ?_
    refine (hpart _ fun u hu => ?_).bind fun argument hargument => ?_
    · simp [Tree.expressionPlaces, hk, hu]
    exact .pure (.of_parts rfl (by simp [Node.parts, hargument]))
  -- Assignments
  case h_13 hk | h_14 hk =>
    refine (hpart _ fun u hu => ?_).bind fun left hleft => ?_
    · simp [Tree.expressionPlaces, hk, hu]
    refine (hpart _ fun u hu => ?_).bind fun right hright => ?_
    · simp [Tree.expressionPlaces, hk, hu]
    exact .pure (.of_parts rfl (by simp [Node.parts, hleft, hright]))
  -- Numbers, regular expressions, `this` and `super`
  case h_15 => exact .pure (keeps_numberValue t.text)
  case h_17 hk => exact .pure (keeps_regexp hgrammar hk)
  case h_21 | h_22 => exact .pure (keeps_unsupported (by decide))
  case h_23 other _ hid _ _ _ _ _ _ hmember _ hbinary hunary hassign _ _ _ _ _ _ _ _ _ hk =>
    have hfits : other.fitsExpression = true := by simpa [Tree.isOfKind, hk] using hkind
    -- Of the kinds with a supported name, each has a case above.
    have hother := keeps_otherExpression hfits
    exact .pure (hother (by simpa using ⟨hid, hmember, hbinary, hunary, hassign⟩))
  case h_24 => exact .pure (keeps_unsupported (by decide))
  -- Names and the other literals
  all_goals exact .pure (.of_no_parts rfl rfl)

theorem ensures_expression (limit depth : Nat) (ht : t.IsExpression) :
    Ensures (expression limit depth t) KeepsAllButNumbers := by
  induction depth generalizing t with
  | zero => exact .error
  | succ depth ih => exact ensures_expressionWith (fun u hu => ih hu) ht

/-- Of the target of a parameter with a default or a rest parameter, only the name is kept. -/
theorem ensures_parameter (limit depth : Nat) (ht : t.IsExpression) :
    Ensures (parameter limit depth t) KeepsAllButNumbers := by
  unfold parameter
  split
  · exact .pure (keeps_unsupported (by decide))
  · exact .pure (keeps_unsupported (by decide))
  · exact ensures_expression limit depth ht

/-! ## Statements -/

theorem ensures_optionalExpression (limit depth : Nat) {o : Option Tree}
    (ht : t.isGrammatical = true) (ho : ∀ u, o = some u → u ∈ t.expressionPlaces) :
    Ensures (o.mapM (expression limit depth)) (fun r => ∀ n ∈ r.toList, n.KeepsAllButNumbers) :=
  ensures_mapM fun u hu => ensures_expression limit depth (Tree.isExpression_of_place ht (ho u hu))

theorem ensures_declarator (limit depth : Nat) (ht : t.isGrammatical = true)
    (hk : t.kind? = some .variableDeclarator) :
    Ensures (declarator limit depth t) KeepsAllButNumbers := by
  cases depth with
  | zero => exact .error
  | succ depth =>
    refine (ensures_requiredExpression ht fun u hu => ?_).bind fun u hu => ?_
    · simp [Tree.expressionPlaces, hk, hu]
    refine (ensures_expression limit depth hu).bind fun id hid => ?_
    refine (ensures_optionalExpression limit depth ht fun u hu => ?_).bind fun init hinit => ?_
    · simp [Tree.expressionPlaces, hk, hu]
    exact .pure (.of_parts rfl (List.forall_mem_cons.2 ⟨hid, hinit⟩))

theorem ensures_headerPart (limit depth : Nat) (ht : t.isGrammatical = true)
    (hkind : t.isOfKind (fun k => k.fitsExpression || k.fitsHeader) = true) :
    Ensures (headerPart limit depth t) (fun r => ∀ n ∈ r.toList, n.KeepsAllButNumbers) := by
  unfold headerPart
  split
  · exact .pure (by simp)
  split
  · exact .pure (by simp)
  · next hk =>
    refine ensures_optionalExpression limit depth ht fun u hu => ?_
    simpa [Tree.expressionPlaces, hk] using List.mem_of_mem_head? hu
  · next hempty hexpression =>
    have hexpr : t.IsExpression := by
      refine ⟨ht, ?_⟩
      cases hk : t.kind? with
      | none => simp [Tree.isOfKind, hk]
      | some k => simp_all [Tree.isOfKind, Kind.fitsHeader]
    exact ((ensures_expression limit depth hexpr).mono fun n hn => by simpa using hn).map

/-- What a statement becomes: a tree that keeps its data, of a statement's type if the statement is
one or holds some. -/
def Becomes (t : Tree) (n : Node) : Prop :=
  n.KeepsAllButNumbers ∧ (holdsStatements t = true → Estree.isStatementType n.typeName = true)

theorem ensures_requiredStatement {role : Role} (ht : t.isGrammatical = true)
    (hrole : ∀ u, t.part? role = some u → u ∈ t.statementPlaces) :
    Ensures (required t role) Tree.IsStatement :=
  ensures_required fun u hu => Tree.isStatement_of_place ht (hrole u hu)

/-- The nodes that a case of their own makes of statements have the types of statements. -/
theorem becomes_supported {n : Node} (hn : n.KeepsAllButNumbers)
    (hname : n.typeName ∈ ["FunctionDeclaration", "BlockStatement", "VariableDeclaration",
      "ExpressionStatement", "WhileStatement", "IfStatement", "ForStatement", "ReturnStatement"]) :
    Becomes t n := by
  have hnames : ∀ name ∈ ["FunctionDeclaration", "BlockStatement", "VariableDeclaration",
      "ExpressionStatement", "WhileStatement", "IfStatement", "ForStatement", "ReturnStatement"],
      Estree.isStatementType name = true := by decide
  exact ⟨hn, fun _ => hnames _ hname⟩

theorem isStatement_of_holdsStatements (ht : t.isGrammatical = true)
    (h : holdsStatements t = true) : t.IsStatement := by
  refine ⟨ht, ?_⟩
  unfold holdsStatements at h
  cases hk : t.kind? with
  | none => simp [Tree.isOfKind, hk]
  | some k =>
    rw [hk] at h
    simp only [Tree.isOfKind, hk, Option.all_some, Kind.fitsStatement, Bool.or_eq_true]
    exact .inl (by simpa using h)

/-- A statement without a case of its own keeps the statements in it as its children. -/
theorem becomes_unsupported {k : Kind} {children : List Node} (hk : t.kind? = some k)
    (hname : k.typeName ∉ Node.supportedNames) (hblock : k ≠ .statementBlock)
    (hchildren : ∀ c ∈ children,
      c.KeepsAllButNumbers ∧ Estree.isStatementType c.typeName = true) :
    Becomes t (.unsupported k.typeName none children) := by
  refine ⟨.of_parts ?_ fun c hc => (hchildren c hc).1, fun h => ?_⟩
  · simpa [Estree.keepsItsData, hname] using fun c hc => (hchildren c hc).2
  · rw [holdsStatements, hk] at h
    exact Kind.isStatementType_typeName h hblock

theorem ensures_unsupported {k : Kind} {self : Tree → Converted Node}
    (hself : ∀ u, u.IsStatement → Ensures (self u) (Becomes u)) (ht : t.isGrammatical = true)
    (hk : t.kind? = some k) (hname : k.typeName ∉ Node.supportedNames)
    (hblock : k ≠ .statementBlock) :
    Ensures (convertAll self (t.visibleChildren.filter holdsStatements) >>= fun children =>
      pure (.unsupported k.typeName none children)) (Becomes t) := by
  have hparts : Ensures (convertAll self (t.visibleChildren.filter holdsStatements)) fun children =>
      ∀ c ∈ children, c.KeepsAllButNumbers ∧ Estree.isStatementType c.typeName = true := by
    refine ensures_convertAll fun u hu => ?_
    obtain ⟨hu, hholds⟩ := List.mem_filter.1 hu
    have hstatement := isStatement_of_holdsStatements (Tree.isGrammatical_visible ht hu) hholds
    exact (hself u hstatement).mono fun n hn => ⟨hn.1, hn.2 hholds⟩
  exact hparts.bind fun children hchildren => .pure (becomes_unsupported hk hname hblock hchildren)

/-! The lists and options that the cases of `statement` are put together from. -/

theorem ensures_requiredParameters (ht : t.isGrammatical = true)
    (hplaces : ∀ u ∈ (t.part? .parameters).toList.flatMap Tree.visibleChildren,
      u ∈ t.expressionPlaces) :
    Ensures (required t .parameters) fun params =>
      ∀ u ∈ params.visibleChildren, u.IsExpression := by
  refine ensures_required fun params hparams u hu => Tree.isExpression_of_place ht ?_
  exact hplaces u (by simpa [hparams] using hu)

theorem ensures_parameters (limit depth : Nat) {ts : List Tree} (hts : ∀ u ∈ ts, u.IsExpression) :
    Ensures (convertAll (parameter limit depth) ts) fun params =>
      ∀ n ∈ params, n.KeepsAllButNumbers :=
  ensures_convertAll fun u hu => ensures_parameter limit depth (hts u hu)

theorem ensures_declarators (limit depth : Nat) (ht : t.isGrammatical = true) :
    Ensures
      (convertAll (declarator limit depth)
        (t.visibleChildren.filter (·.kind? == some .variableDeclarator)))
      (fun declarations => ∀ n ∈ declarations, n.KeepsAllButNumbers) := by
  refine ensures_convertAll fun u hu => ?_
  obtain ⟨hu, hk⟩ := List.mem_filter.1 hu
  exact ensures_declarator limit depth (Tree.isGrammatical_visible ht hu) (by simpa using hk)

theorem ensures_statements {self : Tree → Converted Node} {ts : List Tree}
    (hself : ∀ u : Tree, u.IsStatement → Ensures (self u) (Becomes u))
    (hts : ∀ u ∈ ts, u.IsStatement) :
    Ensures (convertAll self ts) fun body => ∀ n ∈ body, n.KeepsAllButNumbers :=
  ensures_convertAll fun u hu => (hself u (hts u hu)).mono fun _ hn => hn.1

/-- The branch of an `if` statement after `else`. -/
theorem ensures_alternate {self : Tree → Converted Node}
    (hself : ∀ u : Tree, u.IsStatement → Ensures (self u) (Becomes u))
    (ht : t.isGrammatical = true) (hk : t.kind? = some .ifStatement) :
    Ensures
      ((t.part? .alternative).mapM fun clause =>
        match clause.visibleChildren.head? with
        | some branch => self branch
        | none => throw (.malformedNode "IfStatement" "alternate"))
      (fun alternate => ∀ n ∈ alternate.toList, n.KeepsAllButNumbers) := by
  refine ensures_mapM fun clause hclause => ?_
  split
  · next branch hbranch =>
    have hplace : branch ∈ t.statementPlaces := by
      simp [Tree.statementPlaces, hk, hclause, List.mem_of_mem_head? hbranch]
    exact (hself branch (Tree.isStatement_of_place ht hplace)).mono fun _ hn => hn.1
  · exact .error

theorem ensures_initializer {self : Tree → Converted Node} (limit depth : Nat)
    (hself : ∀ u : Tree, u.IsStatement → Ensures (self u) (Becomes u))
    (ht : t.isGrammatical = true)
    (hkind : t.isOfKind (fun k =>
      k.fitsExpression || k.fitsHeader || k.declaresVariables) = true) :
    Ensures (initializer self limit depth t) (fun r => ∀ n ∈ r.toList, n.KeepsAllButNumbers) := by
  unfold initializer
  split
  · next hdeclares =>
    have hstatement : t.IsStatement := by
      refine ⟨ht, ?_⟩
      rcases Bool.or_eq_true_iff.1 hdeclares with hk | hk
      all_goals
        rw [Tree.isOfKind, eq_of_beq hk]
        rfl
    exact ((hself t hstatement).mono fun n hn => by simpa using hn.1).map
  · next hdeclares =>
    refine ensures_headerPart limit depth ht ?_
    cases hk : t.kind? with
    | none => simp [Tree.isOfKind, hk]
    | some k => simp_all [Tree.isOfKind, Kind.declaresVariables]

/-- The conversion of statements, by induction on the levels left. -/
theorem ensures_statement (limit depth : Nat) (ht : t.IsStatement) :
    Ensures (statement limit depth t) (Becomes t) := by
  induction depth generalizing t with
  | zero => exact .error
  | succ depth ih =>
    obtain ⟨hgrammar, hkind⟩ := ht
    unfold statement
    split
    -- Functions and generators
    case h_1 hk | h_2 hk =>
      refine (ensures_requiredExpression hgrammar fun u hu => ?_).bind fun u hu => ?_
      · simp [Tree.expressionPlaces, hk, hu]
      refine (ensures_expression limit depth hu).bind fun id hid => ?_
      refine (ensures_requiredParameters hgrammar fun u hu => ?_).bind fun ts hts => ?_
      · simp only [Tree.expressionPlaces, hk, List.mem_append]
        exact .inr hu
      refine (ensures_parameters limit depth hts).bind fun params hparams => ?_
      refine (ensures_requiredStatement hgrammar fun u hu => ?_).bind fun u hu => ?_
      · simp [Tree.statementPlaces, hk, hu]
      refine (ih hu).bind fun body hbody => ?_
      refine .pure (becomes_supported (.of_parts rfl ?_) (by simp [Node.typeName]))
      simpa [Node.parts, hid, hbody.1, or_imp, forall_and] using hparams
    -- Blocks
    case h_3 hk =>
      refine (ensures_statements (fun u hu => ih hu) fun u hu => ?_).bind fun body hbody => ?_
      · exact Tree.isStatement_of_place hgrammar (by simpa [Tree.statementPlaces, hk] using hu)
      exact .pure (becomes_supported (.of_parts rfl hbody) (by simp [Node.typeName]))
    -- Declarations of variables
    case h_4 | h_5 =>
      refine (ensures_declarators limit depth hgrammar).bind fun declarations hall => ?_
      exact .pure (becomes_supported (.of_parts rfl hall) (by simp [Node.typeName]))
    -- Expressions that are statements
    case h_6 hk =>
      split
      · next inner hinner =>
        have hplace : inner ∈ t.expressionPlaces := by
          simpa [Tree.expressionPlaces, hk] using List.mem_of_mem_head? hinner
        refine (ensures_expression limit depth (Tree.isExpression_of_place hgrammar hplace)).bind
          fun e he => ?_
        exact .pure (becomes_supported (.of_parts rfl (by simpa [Node.parts] using he))
          (by simp [Node.typeName]))
      · exact .error
    -- `while`
    case h_7 hk =>
      refine (ensures_requiredExpression hgrammar fun u hu => ?_).bind fun u hu => ?_
      · simp [Tree.expressionPlaces, hk, hu]
      refine (ensures_expression limit depth hu).bind fun test htest => ?_
      refine (ensures_requiredStatement hgrammar fun u hu => ?_).bind fun u hu => ?_
      · simp [Tree.statementPlaces, hk, hu]
      refine (ih hu).bind fun body hbody => ?_
      refine .pure (becomes_supported (.of_parts rfl ?_) (by simp [Node.typeName]))
      simp [Node.parts, htest, hbody.1]
    -- `if`
    case h_8 hk =>
      refine (ensures_requiredExpression hgrammar fun u hu => ?_).bind fun u hu => ?_
      · simp [Tree.expressionPlaces, hk, hu]
      refine (ensures_expression limit depth hu).bind fun test htest => ?_
      refine (ensures_requiredStatement hgrammar fun u hu => ?_).bind fun u hu => ?_
      · simp [Tree.statementPlaces, hk, hu]
      refine (ih hu).bind fun consequent hconsequent => ?_
      refine (ensures_alternate (fun u hu => ih hu) hgrammar hk).bind fun alternate halternate => ?_
      refine .pure (becomes_supported (.of_parts rfl ?_) (by simp [Node.typeName]))
      simpa [Node.parts, htest, hconsequent.1] using halternate
    -- `for`
    case h_9 hk =>
      have hfits := Tree.fits_of_isGrammatical hgrammar
      simp only [Tree.fits, hk, Bool.and_eq_true, Option.all_eq_true] at hfits
      -- The header is no list of places: its parts may be statements or expressions.
      obtain ⟨-, hinitializer, hcondition⟩ := hfits
      refine (ensures_optionalPart fun u hu => ensures_initializer limit depth (fun v hv => ih hv)
        (Tree.isGrammatical_part hgrammar hu) (hinitializer u hu)).bind fun init hinit => ?_
      refine (ensures_optionalPart fun u hu => ensures_headerPart limit depth
        (Tree.isGrammatical_part hgrammar hu) (hcondition u hu)).bind fun test htest => ?_
      refine (ensures_optionalExpression limit depth hgrammar fun u hu => ?_).bind
        fun update hupdate => ?_
      · simp [Tree.expressionPlaces, hk, hu]
      refine (ensures_requiredStatement hgrammar fun u hu => ?_).bind fun u hu => ?_
      · simp [Tree.statementPlaces, hk, hu]
      refine (ih hu).bind fun body hbody => ?_
      refine .pure (becomes_supported (.of_parts rfl ?_) (by simp [Node.typeName]))
      simp only [Node.parts, List.mem_append, List.mem_singleton]
      rintro p (((hp | hp) | hp) | rfl)
      · exact hinit p hp
      · exact htest p hp
      · exact hupdate p hp
      · exact hbody.1
    -- `return`
    case h_10 hk =>
      refine (ensures_optionalExpression limit depth hgrammar fun u hu => ?_).bind
        fun argument hargument => ?_
      · simpa [Tree.expressionPlaces, hk] using List.mem_of_mem_head? hu
      exact .pure (becomes_supported (.of_parts rfl hargument) (by simp [Node.typeName]))
    -- Statements without a case of their own, and what holds statements
    case h_11 k hfunction _ hblock _ hvariables hexpression hwhile hif hfor hreturn hk =>
      have hfits : k.fitsStatement = true := by simpa [Tree.isOfKind, hk] using hkind
      have hname := (Kind.typeName_of_fitsStatement hfits).resolve_right (by
        simpa using ⟨hfunction, hvariables, hexpression, hwhile, hif, hfor, hreturn⟩)
      exact ensures_unsupported (fun u hu => ih hu) hgrammar hk hname hblock
    case h_12 hk =>
      refine .pure ⟨keeps_unsupported (by decide), fun h => ?_⟩
      rw [holdsStatements, hk] at h
      cases h

/-- What a grammatical tree of a whole script becomes is a program that keeps its data, its numbers
apart. -/
theorem ensures_toProgram (limit : Nat) (ht : t.isGrammatical = true)
    (hk : t.kind? = some .program) :
    Ensures (toProgram limit t) fun n => ∃ body, n = .program body ∧ n.KeepsAllButNumbers := by
  refine (ensures_statements (fun u hu => ensures_statement limit (limit + 1) hu)
    fun u hu => ?_).bind fun body hbody => ?_
  · exact Tree.isStatement_of_place ht (by simpa [Tree.statementPlaces, hk] using hu)
  exact .pure ⟨body, rfl, .of_parts rfl hbody⟩

end Convert

end Script

end ScriptOutline
