import Mathlib.Data.List.Forall2
import ScriptOutline.Proofs.Outline.Flattening
import ScriptOutline.Proofs.Outline.Rendering
import ScriptOutline.Proofs.Outline.Walk

/-!
# What an outline does not show

An outline shows only some of a tree: no keywords of declarations, no operators of assignments, no
first and last part of a loop's head. Changing what it does not show leaves it as it is.

Whether a part is shown depends on where it stands. The statements of an unsupported node are found
where the outline walks, and are passed over inside an expression; there it is the name that is shown,
which no record tells of where the outline walks. So the relation between a tree and a changed one
(`Alike`) is indexed by the role of the place, and so is what it means that the outline cannot tell
two nodes apart (`SameIn`): where it walks, their walks are the same; where a text is shown, so are
the text at every depth, the value of the cell and the name of the kind, which is shown of a
parameter. The relation is one on lists, so that it is a single induction.
-/

namespace ScriptOutline

namespace Node

open Walk

/-- What an outline does with a part of a tree. -/
inductive Role where
  /-- It is walked over for records. -/
  | visited
  /-- It is shown in a record. -/
  | shown

/-- Whether the node is an expression that a cell shows by its text. As a statement it leaves
nothing. -/
def isOperand : Node → Bool
  | .member .. | .binary .. | .logical .. | .unary .. | .literal _ | .identifier _ => true
  | _ => false

/-- Whether the node is a statement or an assignment. A cell shows nothing of it. -/
def isSilent (n : Node) : Bool := n.isSupported && !n.isOperand

/-- The trees of the two lists, in places with the same role, differ at most in parts that an outline
does not show. -/
inductive Alike : Role → List Node → List Node → Prop where
  | refl (role : Role) (nodes : List Node) : Alike role nodes nodes
  | cons {role : Role} {n n' : Node} {rest rest' : List Node} (h : Alike role [n] [n'])
      (h' : Alike role rest rest') : Alike role (n :: rest) (n' :: rest')
  | program {body body' : List Node} (h : Alike .visited body body') :
      Alike .visited [.program body] [.program body']
  | function {id id' body body' : Node} {params params' : List Node}
      (hid : Alike .shown [id] [id']) (hparams : Alike .shown params params')
      (hbody : Alike .visited [body] [body']) :
      Alike .visited [.function id params body] [.function id' params' body']
  | block {body body' : List Node} (h : Alike .visited body body') :
      Alike .visited [.block body] [.block body']
  /-- The keyword of a declaration may be another one. -/
  | «variables» {declarations declarations' : List Node} (keyword keyword' : String)
      (h : Alike .visited declarations declarations') :
      Alike .visited [.variables keyword declarations] [.variables keyword' declarations']
  | declarator {id id' : Node} {init init' : Option Node} (hid : Alike .shown [id] [id'])
      (hinit : Alike .shown init.toList init'.toList) :
      Alike .visited [.declarator id init] [.declarator id' init']
  /-- An expression that stands as a statement may be any other one, as long as neither is an
  assignment. -/
  | expression {e e' : Node} (h : e.isAssignment = false) (h' : e'.isAssignment = false) :
      Alike .visited [.expression e] [.expression e']
  /-- The operator of an assignment may be another one. -/
  | assignment {left left' right right' : Node} (operator operator' : String)
      (hleft : Alike .shown [left] [left']) (hright : Alike .shown [right] [right']) :
      Alike .visited [.assignment operator left right] [.assignment operator' left' right']
  | assigned {e e' : Node} (h : e.isAssignment = true) (h' : e'.isAssignment = true)
      (hassignment : Alike .visited [e] [e']) : Alike .visited [.expression e] [.expression e']
  | «while» {test test' body body' : Node} (htest : Alike .shown [test] [test'])
      (hbody : Alike .visited [body] [body']) :
      Alike .visited [.while test body] [.while test' body']
  | «if» {test test' consequent consequent' : Node} {alternate alternate' : Option Node}
      (htest : Alike .shown [test] [test']) (hconsequent : Alike .visited [consequent] [consequent'])
      (halternate : Alike .visited alternate.toList alternate'.toList) :
      Alike .visited [.if test consequent alternate] [.if test' consequent' alternate']
  /-- The first and the last part of a loop's head may be anything, or missing. -/
  | «for» {test test' : Option Node} {body body' : Node} (init init' update update' : Option Node)
      (htest : Alike .shown test.toList test'.toList) (hbody : Alike .visited [body] [body']) :
      Alike .visited [.for init test update body] [.for init' test' update' body']
  | «return» {argument argument' : Option Node}
      (h : Alike .shown argument.toList argument'.toList) :
      Alike .visited [.return argument] [.return argument']
  /-- Where the outline walks, an unsupported node may be of another kind and have another name. -/
  | wrapper {children children' : List Node} (kind kind' : String) (name name' : Option String)
      (h : Alike .visited children children') :
      Alike .visited [.unsupported kind name children] [.unsupported kind' name' children']
  /-- Where the outline walks, an expression may be any other one. -/
  | operand {n n' : Node} (h : n.isOperand = true) (h' : n'.isOperand = true) :
      Alike .visited [n] [n']
  /-- A member expression may be written with brackets or with a dot. -/
  | member {object object' property property' : Node} (computed computed' : Bool)
      (hobject : Alike .shown [object] [object'])
      (hproperty : Alike .shown [property] [property']) :
      Alike .shown [.member object property computed] [.member object' property' computed']
  | binary {left left' right right' : Node} (operator : String)
      (hleft : Alike .shown [left] [left']) (hright : Alike .shown [right] [right']) :
      Alike .shown [.binary operator left right] [.binary operator left' right']
  | logical {left left' right right' : Node} (operator : String)
      (hleft : Alike .shown [left] [left']) (hright : Alike .shown [right] [right']) :
      Alike .shown [.logical operator left right] [.logical operator left' right']
  | unary {argument argument' : Node} (operator : String)
      (h : Alike .shown [argument] [argument']) :
      Alike .shown [.unary operator argument] [.unary operator argument']
  /-- Inside an expression, an unsupported node may have other statements in it. -/
  | unsupported (kind : String) (name : Option String) (children children' : List Node) :
      Alike .shown [.unsupported kind name children] [.unsupported kind name children']
  /-- Inside an expression, a statement or an assignment may be any other one of its kind. -/
  | silent {n n' : Node} (h : n.isSilent = true) (h' : n'.isSilent = true)
      (hkind : n.typeName = n'.typeName) : Alike .shown [n] [n']

/-! ## What cannot be told apart -/

/-- Both nodes are shown alike, as a whole and inside an expression. -/
structure ShownAlike (a b : Node) : Prop where
  typeName : a.typeName = b.typeName
  rendered : a.rendered = b.rendered
  render : a.render = b.render

/-- The outline cannot tell the nodes apart in places with this role. -/
def SameIn : Role → Node → Node → Prop
  | .visited, a, b => a.walk = b.walk
  | .shown, a, b => ShownAlike a b

theorem SameIn.refl (role : Role) (n : Node) : SameIn role n n := by
  cases role with
  | visited => exact rfl
  | shown => exact ⟨rfl, rfl, rfl⟩

theorem renderText_of_rendered {a b : Node} (h : a.rendered = b.rendered) :
    a.renderText = b.renderText := by
  rw [← String.toList_inj, renderText_toList, renderText_toList, h]

theorem ShownAlike.renderText {a b : Node} (h : ShownAlike a b) : a.renderText = b.renderText :=
  renderText_of_rendered h.rendered

/-- Nodes that are not literals are shown as their texts. -/
theorem shownAlike_of_rendered {a b : Node} (htype : a.typeName = b.typeName)
    (htext : a.rendered = b.rendered) (ha : a.render = .text a.renderText)
    (hb : b.render = .text b.renderText) : ShownAlike a b := by
  refine ⟨htype, htext, ?_⟩
  rw [ha, hb, renderText_of_rendered htext]

theorem walk_of_isOperand {n : Node} (h : n.isOperand = true) : n.walk = idle := by
  cases n <;> first | rfl | cases h

theorem rendered_of_isSilent {n : Node} (h : n.isSilent = true) :
    (n.rendered = fun _ => []) ∧ n.render = .text n.renderText := by
  cases n <;> first | exact ⟨rfl, rfl⟩ | cases h

/-! ## Lists -/

variable {as bs : List Node} {a b : Option Node}

theorem walkAll_of_same (h : List.Forall₂ (SameIn .visited) as bs) : walkAll as = walkAll bs := by
  induction h with
  | nil => rfl
  | cons hn _ ih => rw [walkAll, walkAll, hn, ih]

theorem walkProgram_of_same (h : List.Forall₂ (SameIn .visited) as bs) :
    walkProgram as = walkProgram bs := by
  induction h with
  | nil => rfl
  | cons hn _ ih => rw [walkProgram, walkProgram, hn, ih]

theorem walkOption_of_same (h : List.Forall₂ (SameIn .visited) a.toList b.toList) :
    walkOption a = walkOption b := by
  rw [← walkAll_toList, ← walkAll_toList, walkAll_of_same h]

/-- What is shown of an optional part. -/
theorem map_of_shownAlike {α : Type} {f : Node → α} (hf : ∀ {a b}, ShownAlike a b → f a = f b)
    (h : List.Forall₂ (SameIn .shown) a.toList b.toList) : a.map f = b.map f := by
  cases a with
  | none =>
    cases b with
    | none => rfl
    | some b => cases h
  | some a =>
    cases b with
    | none => cases h
    | some b => exact congrArg some (hf (List.forall₂_cons.1 h).1)

theorem renderOption_eq (o : Option Node) : renderOption o = (o.map render).getD (.text "") := by
  cases o <;> rfl

/-- The records of parameters that are shown alike. -/
theorem params_of_shownAlike (line : Nat) (h : List.Forall₂ (SameIn .shown) as bs) :
    as.map (fun p => Record.named line p.typeName p.renderText none) =
      bs.map fun p => Record.named line p.typeName p.renderText none := by
  induction h with
  | nil => rfl
  | cons hn _ ih =>
    have hn : ShownAlike _ _ := hn
    rw [List.map_cons, List.map_cons, hn.typeName, hn.renderText, ih]

theorem walk_of_same {n n' : Node} (h : List.Forall₂ (SameIn .visited) [n] [n']) :
    n.walk = n'.walk :=
  (List.forall₂_cons.1 h).1

theorem shownAlike_of_same {n n' : Node} (h : List.Forall₂ (SameIn .shown) [n] [n']) :
    ShownAlike n n' :=
  (List.forall₂_cons.1 h).1

theorem same_of_walk {n n' : Node} (h : n.walk = n'.walk) :
    List.Forall₂ (SameIn .visited) [n] [n'] :=
  .cons h .nil

theorem same_of_rendered {n n' : Node} (htype : n.typeName = n'.typeName)
    (htext : n.rendered = n'.rendered) (hn : n.render = .text n.renderText)
    (hn' : n'.render = .text n'.renderText) : List.Forall₂ (SameIn .shown) [n] [n'] :=
  .cons (shownAlike_of_rendered htype htext hn hn') .nil

/-! ## Trees -/

/-- The outline cannot tell apart what differs in hidden parts only. -/
theorem same_of_alike {role : Role} (h : Alike role as bs) : List.Forall₂ (SameIn role) as bs := by
  induction h with
  | refl role nodes => exact List.forall₂_same.2 fun n _ => SameIn.refl role n
  | cons _ _ ih ih' => exact .cons (List.forall₂_cons.1 ih).1 ih'
  | program _ ih => exact same_of_walk (by rw [walk, walk, walkProgram_of_same ih])
  | block _ ih => exact same_of_walk (by rw [walk, walk, walkAll_of_same ih])
  | «variables» _ _ _ ih => exact same_of_walk (by rw [walk, walk, walkAll_of_same ih])
  | wrapper _ _ _ _ _ ih => exact same_of_walk (by rw [walk, walk, walkAll_of_same ih])
  | function _ _ _ ihid ihparams ihbody =>
    refine same_of_walk ?_
    rw [walk, walk, (shownAlike_of_same ihid).renderText, walk_of_same ihbody]
    simp only [params_of_shownAlike _ ihparams]
  | declarator _ _ ihid ihinit =>
    refine same_of_walk ?_
    rw [walk, walk, (shownAlike_of_same ihid).renderText,
      map_of_shownAlike ShownAlike.render ihinit]
  | expression h h' =>
    refine same_of_walk ?_
    rw [walk, walk, h, h']
    rfl
  | assigned h h' _ ih =>
    refine same_of_walk ?_
    rw [walk, walk, h, h', walk_of_same ih]
  | assignment _ _ _ _ ihleft ihright =>
    refine same_of_walk ?_
    rw [walk, walk, (shownAlike_of_same ihleft).renderText, (shownAlike_of_same ihright).render]
  | «while» _ _ ihtest ihbody =>
    refine same_of_walk ?_
    rw [walk, walk, (shownAlike_of_same ihtest).renderText, walk_of_same ihbody]
  | «if» _ _ _ ihtest ihconsequent ihalternate =>
    refine same_of_walk ?_
    rw [walk, walk, (shownAlike_of_same ihtest).renderText, walk_of_same ihconsequent,
      walkOption_of_same ihalternate]
  | «for» _ _ _ _ _ _ ihtest ihbody =>
    refine same_of_walk ?_
    rw [walk, walk, map_of_shownAlike ShownAlike.renderText ihtest, walk_of_same ihbody]
  | «return» _ ih =>
    refine same_of_walk ?_
    rw [walk, walk, renderOption_eq, renderOption_eq, map_of_shownAlike ShownAlike.render ih]
  | operand h h' => exact same_of_walk (by rw [walk_of_isOperand h, walk_of_isOperand h'])
  | member _ _ _ _ ihobject ihproperty =>
    refine same_of_rendered rfl ?_ rfl rfl
    funext depth
    rw [rendered, rendered, (shownAlike_of_same ihobject).rendered,
      (shownAlike_of_same ihproperty).rendered]
  | binary _ _ _ ihleft ihright | logical _ _ _ ihleft ihright =>
    refine same_of_rendered rfl ?_ rfl rfl
    funext depth
    rw [rendered, rendered, (shownAlike_of_same ihleft).rendered,
      (shownAlike_of_same ihright).rendered]
  | unary _ _ ih =>
    refine same_of_rendered rfl ?_ rfl rfl
    funext depth
    rw [rendered, rendered, (shownAlike_of_same ih).rendered]
  | unsupported _ name _ _ =>
    refine same_of_rendered rfl ?_ rfl rfl
    cases name <;> rfl
  | silent h h' hkind =>
    obtain ⟨htext, hrender⟩ := rendered_of_isSilent h
    obtain ⟨htext', hrender'⟩ := rendered_of_isSilent h'
    exact same_of_rendered hkind (htext.trans htext'.symm) hrender hrender'

/-- An outline does not depend on what it does not show: a tree and any tree that differs from it in
hidden parts only, at any number of places, have the same records on the same lines. -/
theorem outline_of_alike {t u : Node} (h : Alike .visited [t] [u]) : u.outline = t.outline :=
  outline_congr (walk_of_same (same_of_alike h)).symm

/-- The loop `for (var i = 0; i < a.b; i++) { try { x += f(i); } y; }` after `var z = f(i);`. -/
def sumLoop : List Node :=
  [.variables "var" [.declarator (.identifier "z") (some (.unsupported "CallExpression" none []))],
    .for (some (.variables "var" [.declarator (.identifier "i") none]))
      (some (.binary "<" (.identifier "i") (.member (.identifier "a") (.identifier "b") false)))
      (some (.unsupported "UpdateExpression" none []))
      (.block [.unsupported "TryStatement" none
        [.expression (.assignment "+=" (.identifier "x") (.unsupported "CallExpression" none []))],
        .expression (.identifier "y")])]

/-- The same with another keyword, without the first and the last part of the head, with `a[b]`, a
label in the place of `try`, another operator, a statement inside the call, and `null;` at the end. -/
def changedLoop : List Node :=
  [.variables "const" [.declarator (.identifier "z") (some (.unsupported "CallExpression" none []))],
    .for none
      (some (.binary "<" (.identifier "i") (.member (.identifier "a") (.identifier "b") true))) none
      (.block [.unsupported "LabeledStatement" (some "l")
        [.expression
          (.assignment "=" (.identifier "x") (.unsupported "CallExpression" none [.return none]))],
        .expression (.literal .null)])]

/-- All of these changes together leave the outline as it is. -/
theorem outline_of_alike_loop :
    Alike .visited [.program sumLoop] [.program changedLoop] ∧
      (program changedLoop).outline = (program sumLoop).outline := by
  have htest := Alike.binary "<" (.refl .shown [.identifier "i"])
    (.member false true (.refl .shown [.identifier "a"]) (.refl .shown [.identifier "b"]))
  have hassignment := Alike.assigned rfl rfl (.assignment "+=" "=" (.refl .shown [.identifier "x"])
    (.unsupported "CallExpression" none [] [.return none]))
  have hlast : Alike .visited [.expression (.identifier "y")] [.expression (.literal .null)] :=
    .expression rfl rfl
  have hbody := Alike.block
    (.cons (.wrapper "TryStatement" "LabeledStatement" none (some "l") hassignment) hlast)
  have hloop : Alike .visited [.program sumLoop] [.program changedLoop] :=
    .program (.cons (.variables "var" "const" (.refl .visited _)) (.for _ none _ none htest hbody))
  exact ⟨hloop, outline_of_alike hloop⟩

end Node

end ScriptOutline
