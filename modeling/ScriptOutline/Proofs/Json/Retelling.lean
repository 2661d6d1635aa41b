import Mathlib.Tactic.Common
import ScriptOutline.Json.Basic

/-!
# Retelling JSON values

A value can be told anew without a reader of trees noticing: the members of an object may come in
another order, and a float may be replaced by one of the same value. Nothing else may change. The
identity is such a retelling. When the text of a value is read back, its numbers may become other ones
as well, so that is only a telling.
-/

namespace ScriptOutline

namespace Double

theorem sameValue_self {d : Double} (h : d.isFinite = true) : d.sameValue d = true := by
  cases d with
  | finite s m => simp [sameValue]
  | infinite s => simp [isFinite] at h
  | nan => simp [isFinite] at h

end Double

namespace Json

/-- A function that tells values anew and keeps what matters of them, their numbers apart. -/
structure Telling (tell : Json → Json) : Prop where
  null : tell .null = .null
  boolean (b : Bool) : tell (.boolean b) = .boolean b
  string (s : String) : tell (.string s) = .string s
  array (items : List Json) : tell (.array items) = .array (items.map tell)
  /-- An object keeps its members, but not their order. -/
  object {members : Members} (h : (members.map Prod.fst).Nodup) :
    ∃ told, tell (.object members) = .object told ∧
      ∀ key, Members.get? told key = (Members.get? members key).map tell

/-- A function that tells values anew and keeps the numbers, too. -/
structure Retelling (tell : Json → Json) : Prop extends Telling tell where
  integer (i : Int) : tell (.number (.integer i)) = .number (.integer i)
  /-- A finite number keeps its value. -/
  float {d : Double} (h : d.isFinite = true) :
    ∃ e, tell (.number (.float d)) = .number (.float e) ∧ e.sameValue d = true

theorem telling_id : Telling id where
  null := rfl
  boolean _ := rfl
  string _ := rfl
  array items := by rw [List.map_id]; rfl
  object {members} _ := ⟨members, rfl, fun key => by rw [Option.map_id]; rfl⟩

theorem retelling_id : Retelling id where
  toTelling := telling_id
  integer _ := rfl
  float {d} h := ⟨d, rfl, Double.sameValue_self h⟩

end Json

end ScriptOutline
