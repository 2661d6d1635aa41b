import Mathlib.Tactic.Common
import ScriptOutline.Outline.Visit

/-!
# Lines and fields of records

Every record of an outline is well formed, and the lines of an outline never go back.

One visit says what the loop needs: its records carry the line on which the node is met, each of
them sets one or two of its fields, and the line after the visit is no smaller (`visit_found`). From
that, whatever tasks are on the stack, the loop only finds records from the current line on, in
order (`run_found`). Line zero, where the loop starts, belongs to no record: a program leaves a task
that takes a line in front of each of its statements.
-/

namespace ScriptOutline

/-- Records that are found from a line on: none of them stands before that line, each of them sets
one or two of name, condition and value, and their lines never go back. -/
structure FoundFrom (line : Nat) (records : List Record) : Prop where
  line_le : ∀ r ∈ records, line ≤ r.line
  fields : ∀ r ∈ records, r.populatedFields = 1 ∨ r.populatedFields = 2
  order : records.Pairwise fun r s => r.line ≤ s.line

namespace FoundFrom

variable {line next : Nat} {records more : List Record}

theorem nil (line : Nat) : FoundFrom line [] := ⟨by simp, by simp, .nil⟩

theorem mono (h : FoundFrom next records) (hle : line ≤ next) : FoundFrom line records :=
  ⟨fun r hr => Nat.le_trans hle (h.line_le r hr), h.fields, h.order⟩

/-- Records that all stand on one line, in front of those found from a later line on. -/
theorem append (hline : ∀ r ∈ records, r.line = line)
    (hfields : ∀ r ∈ records, r.populatedFields = 1 ∨ r.populatedFields = 2)
    (hle : line ≤ next) (h : FoundFrom next more) : FoundFrom line (records ++ more) := by
  have hmore := h.mono hle
  refine ⟨?_, ?_, List.pairwise_append.2 ⟨?_, h.order, ?_⟩⟩
  · intro r hr
    rcases List.mem_append.1 hr with hr | hr
    · exact Nat.le_of_eq (hline r hr).symm
    · exact hmore.line_le r hr
  · intro r hr
    rcases List.mem_append.1 hr with hr | hr
    · exact hfields r hr
    · exact h.fields r hr
  · refine List.pairwise_of_forall_mem_list ?_
    intro r hr s hs
    exact Nat.le_of_eq ((hline r hr).trans (hline s hs).symm)
  · intro r hr s hs
    rw [hline r hr]
    exact hmore.line_le s hs

end FoundFrom

namespace Outline

/-- A visit finds records on its line with one or two fields set, and does not go back. -/
theorem visit_found (node : Node) (line : Nat) :
    (∀ r ∈ (visit node line).records,
      r.line = line ∧ (r.populatedFields = 1 ∨ r.populatedFields = 2)) ∧
    line ≤ (visit node line).line := by
  cases node with
  | function id params body =>
    refine ⟨?_, Nat.le_succ line⟩
    intro r hr
    rcases List.mem_cons.1 hr with rfl | hr
    · exact ⟨rfl, .inl rfl⟩
    · obtain ⟨p, -, rfl⟩ := List.mem_map.1 hr
      exact ⟨rfl, .inl rfl⟩
  | declarator id init =>
    refine ⟨?_, Nat.le_refl line⟩
    intro r hr
    rw [List.mem_singleton.1 hr]
    -- A declarator without a value only sets the name.
    cases init with
    | none => exact ⟨rfl, .inl rfl⟩
    | some value => exact ⟨rfl, .inr rfl⟩
  | assignment operator left right =>
    refine ⟨?_, Nat.le_refl line⟩
    intro r hr
    rw [List.mem_singleton.1 hr]
    exact ⟨rfl, .inr rfl⟩
  | «while» test body | «if» test consequent alternate | «for» init test update body =>
    refine ⟨?_, Nat.le_succ line⟩
    intro r hr
    rw [List.mem_singleton.1 hr]
    exact ⟨rfl, .inl rfl⟩
  | «return» argument =>
    refine ⟨?_, Nat.le_refl line⟩
    intro r hr
    rw [List.mem_singleton.1 hr]
    exact ⟨rfl, .inl rfl⟩
  | program | block | «variables» | expression | member | binary | logical | unary | literal
  | identifier | unsupported =>
    refine ⟨?_, Nat.le_refl line⟩
    intro r hr
    exact absurd hr List.not_mem_nil

/-- The loop finds records from the current line on, whatever is on the stack. -/
theorem run_found (line : Nat) (tasks : List Task) : FoundFrom line (run line tasks) := by
  fun_induction run line tasks with
  | case1 line => exact .nil line
  | case2 line rest ih => exact ih.mono (Nat.le_succ line)
  | case3 line node rest ih =>
    obtain ⟨hrecords, hle⟩ := visit_found node line
    exact .append (fun r hr => (hrecords r hr).1) (fun r hr => (hrecords r hr).2) hle ih

/-- The tasks of a program take a line before anything is visited. -/
theorem run_programTasks_found (line : Nat) (body : List Node) :
    FoundFrom (line + 1) (run line (programTasks body)) := by
  cases body with
  | nil =>
    rw [programTasks, run]
    exact .nil (line + 1)
  | cons n rest =>
    rw [programTasks, run]
    exact run_found (line + 1) _

end Outline

theorem Record.isWellFormed_iff (r : Record) :
    r.isWellFormed = true ↔ 1 ≤ r.line ∧ (r.populatedFields = 1 ∨ r.populatedFields = 2) := by
  simp [isWellFormed, Nat.succ_le_iff]

theorem Node.outline_found (body : List Node) : FoundFrom 1 (program body).outline := by
  have h := Outline.run_programTasks_found 0 body
  rw [outline, Outline.run]
  simpa [Outline.visit] using h

/-- Every record of a program, whatever its parts are, is on a positive line and sets one or two of
name, condition and value; so all records are well formed. The lines never go back. -/
theorem Node.outline_isWellFormed (body : List Node) :
    (∀ r ∈ (program body).outline,
      1 ≤ r.line ∧ (r.populatedFields = 1 ∨ r.populatedFields = 2) ∧ r.isWellFormed = true) ∧
    ((program body).outline.map Record.line).Pairwise (· ≤ ·) := by
  have h := outline_found body
  constructor
  · intro r hr
    have hline := h.line_le r hr
    have hfields := h.fields r hr
    exact ⟨hline, hfields, r.isWellFormed_iff.2 ⟨hline, hfields⟩⟩
  · exact List.pairwise_map.2 h.order

end ScriptOutline
