import ScriptOutline.Proofs.Outline.Grouping

/-!
# Brackets in rendered expressions

Rendering writes brackets in pairs, around the text of what is inside them: square ones around the
property of a member expression, round ones around an operation that stands deep enough. So the text
of an expression is properly nested, as long as the words in it (names, operators and literals) bring
no brackets of their own.

How many brackets there are is told by the nodes that are rendered. They are listed together with the
expressions around them (`Node.occurrences`), and the numbers are counts over that list. The proof
adds up words that are nested and have known numbers of opening brackets (`Brackets`).
-/

namespace ScriptOutline

/-- Whether the character is a round or a square bracket. -/
def isBracket (c : Char) : Bool := c == '(' || c == ')' || c == '[' || c == ']'

/-- Every bracket in the text is closed by one of its own kind, and what stands between the two is
nested again. -/
inductive Nested : List Char → Prop where
  | nil : Nested []
  | char {c : Char} (h : isBracket c = false) : Nested [c]
  | append {first second : List Char} (h : Nested first) (h' : Nested second) :
      Nested (first ++ second)
  | round {text : List Char} (h : Nested text) : Nested ('(' :: (text ++ [')']))
  | square {text : List Char} (h : Nested text) : Nested ('[' :: (text ++ [']']))

/-- A nested text with so many opening brackets of either kind. -/
structure Brackets (text : List Char) (round square : Nat) : Prop where
  nested : Nested text
  round : text.count '(' = round
  square : text.count '[' = square

namespace Brackets

variable {text first second : List Char} {r r' s s' : Nat}

theorem of_plain (h : ∀ c ∈ text, isBracket c = false) : Brackets text 0 0 := by
  induction text with
  | nil => exact ⟨.nil, rfl, rfl⟩
  | cons c text ih =>
    obtain ⟨hnested, hround, hsquare⟩ := ih fun d hd => h d (List.mem_cons_of_mem c hd)
    have hc := h c List.mem_cons_self
    refine ⟨.append (.char hc) hnested, ?_, ?_⟩
    · rw [List.count_cons_of_ne, hround]
      rintro rfl
      cases hc
    · rw [List.count_cons_of_ne, hsquare]
      rintro rfl
      cases hc

theorem append (h : Brackets first r s) (h' : Brackets second r' s') :
    Brackets (first ++ second) (r + r') (s + s') :=
  ⟨.append h.nested h'.nested, by rw [List.count_append, h.round, h'.round],
    by rw [List.count_append, h.square, h'.square]⟩

theorem inRound (h : Brackets text r s) : Brackets ('(' :: (text ++ [')'])) (r + 1) s :=
  ⟨.round h.nested, by simp [h.round], by simp [h.square]⟩

theorem inSquare (h : Brackets text r s) : Brackets ('[' :: (text ++ [']'])) r (s + 1) :=
  ⟨.square h.nested, by simp [h.round], by simp [h.square]⟩

end Brackets

namespace Node

/-- Whether the node is a member expression. -/
def isMember : Node → Bool
  | .member .. => true
  | _ => false

/-- The word that a node itself adds to the text, apart from its parts. -/
def word : Node → String
  | .identifier name => name
  | .literal value => value.shown
  | .unary operator _ | .binary operator _ _ | .logical operator _ _ => operator
  | .unsupported _ name _ => name.getD ""
  | _ => ""

/-- A node that is rendered, with the expressions around it. -/
structure Occurrence where
  node : Node
  around : List Node

/-- Whether it is an operation with at least two operations around it. -/
def Occurrence.isGrouped (o : Occurrence) : Bool :=
  o.node.isOperation && 2 ≤ o.around.countP isOperation

/-- The nodes that are rendered for a node, itself among them, given the expressions around it. -/
def occurrences (around : List Node) : Node → List Occurrence
  | .member object property computed =>
    let inside := .member object property computed :: around
    ⟨.member object property computed, around⟩ ::
      (object.occurrences inside ++ property.occurrences inside)
  | .unary operator argument =>
    ⟨.unary operator argument, around⟩ ::
      argument.occurrences (.unary operator argument :: around)
  | .binary operator left right =>
    let inside := .binary operator left right :: around
    ⟨.binary operator left right, around⟩ :: (left.occurrences inside ++ right.occurrences inside)
  | .logical operator left right =>
    let inside := .logical operator left right :: around
    ⟨.logical operator left right, around⟩ :: (left.occurrences inside ++ right.occurrences inside)
  -- What is inside other nodes is not rendered.
  | n => [⟨n, around⟩]

/-- No word of these nodes has a bracket in it. -/
def HasPlainWords (occurrences : List Occurrence) : Prop :=
  ∀ o ∈ occurrences, ∀ c ∈ o.node.word.toList, isBracket c = false

instance (occurrences : List Occurrence) : Decidable (HasPlainWords occurrences) :=
  decidable_of_iff (occurrences.all fun o => o.node.word.toList.all fun c => !isBracket c)
    (by simp [HasPlainWords])

/-! ## Counting -/

/-- If their words are plain, the brackets in the text of a node are those of the nodes that are
rendered for it. -/
def TellBrackets (n : Node) (around : List Node) : Prop :=
  HasPlainWords (n.occurrences around) →
    Brackets (n.rendered (around.countP isOperation))
      ((n.occurrences around).countP Occurrence.isGrouped)
      ((n.occurrences around).countP fun o => o.node.isMember)

/-- The text of an operation adds a pair of round brackets to those of its sides if it is grouped. -/
theorem brackets_operation (n : Node) {around : List Node} {left right : List Char}
    {r r' s s' : Nat} (hn : n.isOperation = true)
    (hword : ∀ c ∈ n.word.toList, isBracket c = false) (hleft : Brackets left r s)
    (hright : Brackets right r' s') :
    Brackets
      (Render.grouped (around.countP isOperation)
        (left ++ ' ' :: (n.word.toList ++ ' ' :: right)))
      (r + r' + if (Occurrence.mk n around).isGrouped then 1 else 0) (s + s') := by
  have hspaced : Brackets (' ' :: (n.word.toList ++ [' '])) 0 0 := by
    refine .of_plain fun c hc => ?_
    simp only [List.mem_cons, List.mem_append, List.not_mem_nil, or_false] at hc
    rcases hc with rfl | hc | rfl
    · rfl
    · exact hword c hc
    · rfl
  have htext : Brackets (left ++ ' ' :: (n.word.toList ++ ' ' :: right)) (r + r') (s + s') := by
    have hboth := hleft.append (hspaced.append hright)
    rw [Nat.zero_add, Nat.zero_add] at hboth
    simpa using hboth
  unfold Render.grouped Render.groupDepth Occurrence.isGrouped
  by_cases hdeep : 2 ≤ around.countP isOperation
  · simpa [hn, hdeep] using htext.inRound
  · simpa [hn, hdeep] using htext

/-- What the nodes tell of both sides they tell of the operation. -/
theorem tellBrackets_operation {n left right : Node} {around : List Node}
    (hn : n.isOperation = true) (hmember : n.isMember = false)
    (hparts : n.occurrences around =
      ⟨n, around⟩ :: (left.occurrences (n :: around) ++ right.occurrences (n :: around)))
    (htext : ∀ depth, n.rendered depth =
      Render.grouped depth
        (left.rendered (depth + 1) ++ ' ' :: (n.word.toList ++ ' ' :: right.rendered (depth + 1))))
    (hleft : TellBrackets left (n :: around)) (hright : TellBrackets right (n :: around)) :
    TellBrackets n around := by
  intro h
  rw [hparts] at h ⊢
  obtain ⟨hword, hsides⟩ := List.forall_mem_cons.1 h
  obtain ⟨hl, hr⟩ := List.forall_mem_append.1 hsides
  have hleft := hleft hl
  have hright := hright hr
  -- The sides have one more operation around them.
  rw [List.countP_cons_of_pos hn] at hleft hright
  rw [htext, List.countP_cons, List.countP_cons_of_neg (by simp [hmember]), List.countP_append,
    List.countP_append]
  exact brackets_operation n hn hword hleft hright

/-- The brackets in the text of any node are told. -/
theorem tellBrackets : ∀ (n : Node) (around : List Node), TellBrackets n around
  | .member object property computed, around => by
    intro h
    rw [occurrences] at h ⊢
    obtain ⟨-, hparts⟩ := List.forall_mem_cons.1 h
    obtain ⟨hobject, hproperty⟩ := List.forall_mem_append.1 hparts
    -- What is inside a member expression has no more operations around it.
    have hobject := tellBrackets object _ hobject
    have hproperty := tellBrackets property _ hproperty
    rw [List.countP_cons_of_neg Bool.false_ne_true] at hobject hproperty
    have hboth := hobject.append hproperty.inSquare
    rw [rendered, List.countP_cons_of_neg Bool.false_ne_true, List.countP_cons_of_pos rfl,
      List.countP_append, List.countP_append, Nat.add_assoc]
    exact hboth
  | .unary operator argument, around => by
    intro h
    rw [occurrences] at h ⊢
    obtain ⟨hword, hargument⟩ := List.forall_mem_cons.1 h
    have hargument := tellBrackets argument _ hargument
    rw [List.countP_cons_of_neg Bool.false_ne_true] at hargument
    have hboth := (Brackets.of_plain hword).append hargument
    rw [Nat.zero_add, Nat.zero_add] at hboth
    rw [rendered, List.countP_cons_of_neg Bool.false_ne_true,
      List.countP_cons_of_neg Bool.false_ne_true]
    exact hboth
  | .binary operator left right, around =>
    tellBrackets_operation rfl rfl (by rw [occurrences]) (fun depth => by rw [rendered]; rfl)
      (tellBrackets left _) (tellBrackets right _)
  | .logical operator left right, around =>
    tellBrackets_operation rfl rfl (by rw [occurrences]) (fun depth => by rw [rendered]; rfl)
      (tellBrackets left _) (tellBrackets right _)
  -- The text of the other nodes is their own word.
  | .unsupported _ none _, around => fun h => .of_plain (h _ List.mem_cons_self)
  | .unsupported _ (some _) _, around => fun h => .of_plain (h _ List.mem_cons_self)
  | .identifier _, around | .literal _, around | .program _, around | .function .., around
  | .block _, around | .variables .., around | .declarator .., around | .expression _, around
  | .assignment .., around | .while .., around | .if .., around | .for .., around
  | .return _, around => fun h => .of_plain (h _ List.mem_cons_self)

/-- If no word in it has a bracket, the text of an expression is nested. It has a pair of round
brackets for each operation in it with at least two operations around it, and a pair of square
brackets for each member expression in it. -/
theorem renderText_brackets (n : Node) (h : HasPlainWords (n.occurrences [])) :
    Nested n.renderText.toList ∧
      n.renderText.toList.count '(' =
        (n.occurrences []).countP (fun o => o.node.isOperation && 2 ≤ o.around.countP isOperation) ∧
      n.renderText.toList.count '[' = (n.occurrences []).countP (fun o => o.node.isMember) := by
  obtain ⟨hnested, hround, hsquare⟩ := tellBrackets n [] h
  rw [renderText_toList]
  exact ⟨hnested, hround, hsquare⟩

/-- The expression `a[b] + !(c * (d - e[f[0]]))`. -/
def nestedSum : Node :=
  .binary "+" (.member (.identifier "a") (.identifier "b") true)
    (.unary "!" (.binary "*" (.identifier "c")
      (.binary "-" (.identifier "d")
        (.member (.identifier "e") (.member (.identifier "f") (.literal .null) true) true))))

/-- Three member expressions and three operations, of which one has the other two around it. -/
theorem renderText_brackets_sum :
    HasPlainWords (nestedSum.occurrences []) ∧
      Nested nestedSum.renderText.toList ∧ nestedSum.renderText.toList.count '(' = 1 ∧
      nestedSum.renderText.toList.count '[' = 3 := by
  have hplain : HasPlainWords (nestedSum.occurrences []) := by decide
  exact ⟨hplain, renderText_brackets nestedSum hplain⟩

end Node

end ScriptOutline
