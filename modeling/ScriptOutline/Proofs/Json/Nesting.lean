import ScriptOutline.Proofs.Json.Rereading
import ScriptOutline.Proofs.Yields

/-!
# Nesting of values that were read

The reader of JSON counts the levels that are left. So what it has read is nested less deep than the
levels it started with, whatever the text is. The three readers of values, items and members call
each other with one step less; `StaysAbove` says of all three what a number of steps guarantees.
-/

namespace ScriptOutline

namespace Json

variable {ms : Members} {key : String} {v : Json}

theorem depth_le_of_get? (h : Members.get? ms key = some v) : v.depth ≤ depthMembers ms := by
  induction ms with
  | nil => cases h
  | cons member rest ih =>
    obtain ⟨k, u⟩ := member
    rw [Members.get?] at h
    rw [depthMembers]
    split at h
    · cases h
      exact Nat.le_max_left _ _
    · exact Nat.le_trans (ih h) (Nat.le_max_right _ _)

theorem depth_le_of_mem {vs : List Json} (h : v ∈ vs) : v.depth ≤ depthItems vs := by
  induction vs with
  | nil => cases h
  | cons u rest ih =>
    rw [depthItems]
    rcases List.mem_cons.1 h with rfl | h
    · exact Nat.le_max_left _ _
    · exact Nat.le_trans (ih h) (Nat.le_max_right _ _)

/-- A new member adds no more than its own depth. -/
theorem depthMembers_put (key : String) (v : Json) (ms : Members) :
    depthMembers (Members.put key v ms) ≤ max v.depth (depthMembers ms) := by
  induction ms with
  | nil =>
    rw [Members.put, depthMembers, depthMembers]
    exact Nat.le_refl _
  | cons member rest ih =>
    obtain ⟨k, u⟩ := member
    rw [Members.put]
    split
    · simp only [depthMembers]
      exact Nat.le_refl _
    · split
      · simp only [depthMembers]
        omega
      · simp only [depthMembers]
        omega

/-- What is found with a number of steps is nested less deep than the levels that were left. -/
structure StaysAbove (fuel : Nat) : Prop where
  value (depth : Nat) (cs : List Char) (hdepth : 0 < depth) :
    Ensures (value .value fuel depth cs) fun r => r.1.depth < depth
  items (depth : Nat) (first : Bool) (cs : List Char) (hdepth : 0 < depth) :
    Ensures (items .value fuel depth first cs) fun r => depthItems r.1 < depth
  members (depth : Nat) (first : Bool) (before : Members) (cs : List Char)
      (hbefore : depthMembers before < depth) :
    Ensures (members .value fuel depth first before cs) fun r => depthMembers r.1 < depth

variable {fuel depth : Nat}

theorem one_lt_of_mayOpen (h : mayOpen .value depth = true) : 1 < depth := by
  simpa [mayOpen] using h

/-- Only arrays and objects take a level, and they may only be opened if one is left. -/
theorem ensures_value (ih : StaysAbove fuel) (cs : List Char) (hdepth : 0 < depth) :
    Ensures (value .value (fuel + 1) depth cs) fun r => r.1.depth < depth := by
  rw [value]
  split
  case h_7 =>
    split
    · next hopen =>
      have hlevels := one_lt_of_mayOpen hopen
      refine (ih.items (depth - 1) true _ (by omega)).bind fun r hr => .pure ?_
      rw [Json.depth]
      omega
    · exact .error
  case h_8 =>
    split
    · next hopen =>
      have hlevels := one_lt_of_mayOpen hopen
      have hnone : depthMembers [] < depth - 1 := by
        rw [depthMembers]
        omega
      refine (ih.members (depth - 1) true [] _ hnone).bind fun r hr => .pure ?_
      rw [Json.depth]
      omega
    · exact .error
  case h_9 =>
    split
    · exact Ensures.bind (.any _) fun _ _ => .pure hdepth
    · exact .error
  case h_1 => exact .error
  all_goals exact Ensures.bind (.any _) fun _ _ => .pure hdepth

theorem ensures_items (ih : StaysAbove fuel) (first : Bool) (cs : List Char) (hdepth : 0 < depth) :
    Ensures (items .value (fuel + 1) depth first cs) fun r => depthItems r.1 < depth := by
  rw [items]
  refine Ensures.bind (.any _) fun ⟨grows, rest⟩ _ => ?_
  dsimp only
  split
  · refine (ih.value depth _ hdepth).bind fun v hv => ?_
    refine (ih.items depth false _ hdepth).bind fun vs hvs => .pure ?_
    rw [depthItems]
    omega
  · refine .pure ?_
    rw [depthItems]
    exact hdepth

theorem ensures_members (ih : StaysAbove fuel) (first : Bool) {before : Members} (cs : List Char)
    (hbefore : depthMembers before < depth) :
    Ensures (members .value (fuel + 1) depth first before cs) fun r =>
      depthMembers r.1 < depth := by
  rw [members]
  refine Ensures.bind (.any _) fun ⟨grows, rest⟩ _ => ?_
  dsimp only
  split
  · refine Ensures.bind (.any _) fun key _ => ?_
    refine Ensures.bind (.any _) fun colon _ => ?_
    refine (ih.value depth _ (by omega)).bind fun v hv => ih.members depth false _ _ ?_
    have hput := depthMembers_put key.1 v.1 before
    omega
  · exact .pure hbefore

/-- By induction on the steps. -/
theorem staysAbove (fuel : Nat) : StaysAbove fuel := by
  induction fuel with
  | zero => exact ⟨fun _ _ _ => .error, fun _ _ _ _ => .error, fun _ _ _ _ _ => .error⟩
  | succ fuel ih =>
    exact ⟨fun _ => ensures_value ih, fun _ => ensures_items ih,
      fun _ first _ => ensures_members ih first⟩

/-- A reader of JSON that accepts no value in which `limit` arrays and objects or more stand inside
each other. -/
def ReadsBelow (limit : Nat) (json : List Char → Except JsonFailure Json) : Prop :=
  ∀ cs v, json cs = .ok v → v.depth < limit

/-- A value that was read from a text is nested less deep than the reader follows. -/
theorem parse_readsBelow : ReadsBelow depthLimit parse := by
  intro cs v h
  have hparse : Ensures (parse cs) fun v => v.depth < depthLimit := by
    refine ((staysAbove _).value depthLimit cs (by decide)).bind fun r hr => ?_
    exact Ensures.bind (.any _) fun _ _ => .pure hr
  exact hparse v h

end Json

end ScriptOutline
