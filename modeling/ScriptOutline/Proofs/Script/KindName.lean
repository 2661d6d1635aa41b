import Mathlib.Tactic.Common
import ScriptOutline.Estree.Reader
import ScriptOutline.Proofs.Text.Cut
import ScriptOutline.Script.Kind

/-!
# Names of kinds

The ESTree name of most kinds is made from the words of their name in the grammar. The last word stays
the last one (`capitalized_isSuffixOf_pascalCase`), so what is a statement by its name in the grammar
is one by its name in ESTree, apart from blocks, which the conversion names itself. Only a few kinds
have a name that the reader of ESTree has a case for.
-/

namespace ScriptOutline

namespace Script

namespace Kind

open Estree (isStatementType)

variable {k : Kind}

/-- The name of a kind whose name in the grammar is spelled out. -/
theorem typeName_of_spelling {spelling : List Char} (h : k.plainName = String.ofList spelling) :
    k.typeName = k.ownName?.getD (String.ofList (pascalCase spelling)) := by
  rw [typeName, h, String.toList_ofList]

/-! ## The last word -/

/-- The last word of a name is the last one of the name that is made of its words. -/
theorem capitalized_isSuffixOf_pascalCase {name word : List Char} (h : '_' :: word <:+ name)
    (hword : '_' ∉ word) : capitalized word <:+ pascalCase name := by
  obtain ⟨front, rfl⟩ := h
  rw [pascalCase, cutAt_append_cons, cutAt_of_notMem hword, List.filter_append,
    List.flatMap_append]
  refine List.IsSuffix.trans ?_ (List.suffix_append _ _)
  cases word with
  | nil => exact List.nil_suffix
  | cons c word => simp

/-- The words by which the grammar tells statements and what holds them. -/
def statementWords : List String := ["statement", "declaration", "clause", "body"]

/-- The last word of such a name tells ESTree the same. -/
theorem isStatementType_of_word {word : String} (hword : word ∈ statementWords)
    (h : '_' :: word.toList <:+ k.plainName.toList) :
    isStatementType (String.ofList (pascalCase k.plainName.toList)) = true := by
  have hmade : '_' ∉ word.toList ∧ String.ofList (capitalized word.toList) ∈
      ["Statement", "Declaration", "Clause", "Body"] := by
    simp only [statementWords, List.mem_cons, List.not_mem_nil, or_false] at hword
    rcases hword with rfl | rfl | rfl | rfl <;> decide
  have hlast := capitalized_isSuffixOf_pascalCase h hmade.1
  rw [isStatementType, Bool.or_eq_true, List.any_eq_true]
  refine .inl ⟨_, hmade.2, ?_⟩
  rw [List.isSuffixOf_iff_suffix, String.toList_ofList, String.toList_ofList]
  exact hlast

/-- Names that do not end with such a word are told as a whole. -/
theorem exists_word (h : (k.isStatement || k.isContainer) = true) :
    (∃ word ∈ statementWords, '_' :: word.toList <:+ k.plainName.toList) ∨
      k.plainName ∈ ["statement_block", "switch_case", "switch_default"] := by
  simp only [isStatement, isContainer, endsWith, Bool.or_eq_true, beq_iff_eq,
    List.isSuffixOf_iff_suffix, List.contains_iff_mem, List.mem_cons, List.not_mem_nil,
    or_false] at h
  rcases h with ((hname | hend) | hend) | hend | hname | hname | hname | hname
  · exact .inr (by simp [hname])
  · exact .inl ⟨"statement", by decide, hend⟩
  · exact .inl ⟨"declaration", by decide, hend⟩
  · exact .inl ⟨"clause", by decide, hend⟩
  · exact .inl ⟨"body", by decide, "switch".toList, by rw [hname]; decide⟩
  · exact .inr (by simp [hname])
  · exact .inr (by simp [hname])
  · exact .inl ⟨"body", by decide, "class".toList, by rw [hname]; decide⟩

/-- The name of a statement, or of something that holds statements, says so; blocks, lexical
declarations and generators are renamed by the conversion. -/
theorem isStatementType_typeName (h : (k.isStatement || k.isContainer) = true)
    (hblock : k ≠ .statementBlock) : isStatementType k.typeName = true := by
  by_cases hown : k.ownName? = none
  · rcases exists_word h with ⟨word, hword, hend⟩ | hname
    · rw [typeName, hown]
      exact isStatementType_of_word hword hend
    · revert hname hown hblock
      cases k <;> simp [plainName, ownName?]
  · revert h
    cases k <;> simp only [ownName?, not_true_eq_false, reduceCtorEq] at hown <;> decide +kernel

/-! ## Names with a meaning -/

/-- The kinds with a name that the reader of ESTree has a case for. -/
def supportedKinds : List Kind :=
  [program, functionDeclaration, variableDeclaration, variableDeclarator, expressionStatement,
    whileStatement, ifStatement, forStatement, returnStatement, memberExpression, binaryExpression,
    unaryExpression, assignmentExpression, identifier]

theorem mem_supportedKinds (h : k.typeName ∈ Node.supportedNames) : k ∈ supportedKinds := by
  revert h
  cases k <;> rw [typeName_of_spelling rfl] <;> decide +kernel

end Kind

end Script

end ScriptOutline
