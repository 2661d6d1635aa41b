import ScriptOutline.Proofs.Estree.Nesting
import ScriptOutline.Proofs.Script.Nesting

/-!
# Limits on nesting

What a limit does to an answer, for both dialects: it may replace it by the error that names the
limit, and nothing else.
-/

namespace ScriptOutline

variable {d d' : Nat}

/-- A text that is read with a smaller limit is refused as nested too deep, under that limit, or
answered as with the larger one: with the same tree or the same error. Scripts may have any grammar,
and JSON any reader that accepts no value nested 128 deep, as the one in use does not. JSON has that
limit of its own, so there the smaller of the two is reported, and all limits from that one on are
the same. -/
theorem nesting_limit_only_refuses (h : d ≤ d') (source : List Char) :
    (∀ grammar : List Char → Except AnalysisError Script.Tree,
      Script.readWith grammar d source = .error (.nestingTooDeep d) ∨
        Script.readWith grammar d source = Script.readWith grammar d' source) ∧
    (∀ json : List Char → Except JsonFailure Json, Json.ReadsBelow 128 json →
      (Estree.readWith json d source = .error (.nestingTooDeep (min d 128)) ∨
        Estree.readWith json d source = Estree.readWith json d' source) ∧
      ∀ a b : Nat, 128 ≤ a → 128 ≤ b →
        Estree.readWith json a source = Estree.readWith json b source) ∧
    Json.ReadsBelow 128 Json.parse ∧
    (Estree.read d source = .error (.nestingTooDeep (min d 128)) ∨
      Estree.read d source = Estree.read d' source) ∧
    ∀ a b : Nat, 128 ≤ a → 128 ≤ b → Estree.read a source = Estree.read b source := by
  refine ⟨fun grammar => ?_, fun json hjson => ⟨?_, fun a b ha hb => ?_⟩, Json.parse_readsBelow, ?_,
    fun a b ha hb => ?_⟩
  · exact Script.readWith_agrees h grammar source
  · exact Estree.readWith_agrees hjson h source
  · exact Estree.readWith_eq hjson ha hb source
  · exact Estree.readWith_agrees Json.parse_readsBelow h source
  · exact Estree.readWith_eq Json.parse_readsBelow ha hb source

/-- A program with a block, as ESTree. -/
def blockText : List Char :=
  "\x7b\"type\":\"Program\",\"body\":[\x7b\"type\":\"BlockStatement\",\"body\":[]\x7d]\x7d".toList

/-- A block takes one level below the program: no level is too few, and one is as good as the limit
that is used unless something else is said. -/
theorem nesting_limit_only_refuses_block :
    0 ≤ 1 ∧ Estree.read 0 blockText = .error (.nestingTooDeep 0) ∧
    1 ≤ 512 ∧ Estree.read 1 blockText = Estree.read 512 blockText := by
  have hrefused : (Estree.read 0 blockText).isOk = false := by decide +kernel
  have hread : (Estree.read 1 blockText).isOk = true := by decide +kernel
  refine ⟨by decide, ?_, by decide, ?_⟩
  · refine (nesting_limit_only_refuses (Nat.zero_le 1) blockText).2.2.2.1.resolve_right fun heq => ?_
    rw [heq, hread] at hrefused
    cases hrefused
  · refine (nesting_limit_only_refuses (by decide) blockText).2.2.2.1.resolve_left fun herror => ?_
    rw [herror] at hread
    cases hread

end ScriptOutline
