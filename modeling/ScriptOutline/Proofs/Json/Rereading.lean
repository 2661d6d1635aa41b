import ScriptOutline.Proofs.Json.NumberText
import ScriptOutline.Proofs.Json.Retelling
import ScriptOutline.Proofs.Json.StringText

/-!
# Reading values back

What becomes of a value when its text is read back, in whatever layout it was written: objects get
their members in ascending order, and each number becomes what its text is read as, which for a float
need not be the same number.
-/

namespace ScriptOutline

namespace JsonNumber

/-- Whether the text of a number is read as a number. -/
def isRead (n : JsonNumber) : Bool :=
  match Json.signedNumber .value n.text with
  | .ok (_, []) => true
  | _ => false

/-- The number that the text of a number is read as. -/
def reread (n : JsonNumber) : JsonNumber :=
  match Json.signedNumber .value n.text with
  | .ok (m, []) => m
  | _ => n

theorem signedNumber_text {n : JsonNumber} (h : n.isRead = true) :
    Json.signedNumber .value n.text = .ok (n.reread, []) := by
  unfold isRead at h
  unfold reread
  split at h
  · next m hm => rw [hm]
  · cases h

/-- An integer of 64 bits is read as itself. -/
theorem reread_integer {i : Int} (hi : i.natAbs ≤ twoPow 63) :
    (integer i).isRead = true ∧ (integer i).reread = .integer i := by
  rw [isRead, reread, text, Json.signedNumber_integerText hi]
  exact ⟨rfl, rfl⟩

end JsonNumber

namespace Json

mutual

/-- How many arrays and objects stand inside each other. -/
def depth : Json → Nat
  | .array items => 1 + depthItems items
  | .object members => 1 + depthMembers members
  | _ => 0

/-- The depth of the deepest item. -/
def depthItems : List Json → Nat
  | [] => 0
  | v :: rest => max v.depth (depthItems rest)

/-- The depth of the deepest member. -/
def depthMembers : List (String × Json) → Nat
  | [] => 0
  | (_, v) :: rest => max v.depth (depthMembers rest)

end

mutual

/-- Whether the texts of all numbers in a value are read as numbers. -/
def isRead : Json → Bool
  | .number n => n.isRead
  | .array items => itemsAreRead items
  | .object members => membersAreRead members
  | _ => true

/-- Whether the texts of all numbers in a list of values are read as numbers. -/
def itemsAreRead : List Json → Bool
  | [] => true
  | v :: rest => v.isRead && itemsAreRead rest

/-- Whether the texts of all numbers in a list of members are read as numbers. -/
def membersAreRead : List (String × Json) → Bool
  | [] => true
  | (_, v) :: rest => v.isRead && membersAreRead rest

end

mutual

/-- What is read from the text of a value. -/
def reread : Json → Json
  | .number n => .number n.reread
  | .array items => .array (rereadItems items)
  | .object members => .object (rereadMembers [] members)
  | v => v

/-- What is read from the text of a list of values. -/
def rereadItems : List Json → List Json
  | [] => []
  | v :: rest => v.reread :: rereadItems rest

/-- What is read from the text of a list of members, added to those read before. -/
def rereadMembers (before : Members) : List (String × Json) → Members
  | [] => before
  | (k, v) :: rest => rereadMembers (Members.put k v.reread before) rest

end

theorem rereadItems_eq_map (items : List Json) : rereadItems items = items.map reread := by
  induction items with
  | nil => rfl
  | cons v rest ih => rw [rereadItems, ih, List.map_cons]

/-- A member that is put in is found, and the other ones stay. -/
theorem Members.get?_put (key : String) (value : Json) (members : Members) (slot : String) :
    Members.get? (Members.put key value members) slot =
      if key = slot then some value else Members.get? members slot := by
  induction members with
  | nil => rfl
  | cons member rest ih =>
    obtain ⟨k, v⟩ := member
    rw [Members.put]
    split
    · rfl
    split
    · next hkey =>
      subst hkey
      rw [Members.get?, Members.get?]
      split <;> rfl
    · next hkey =>
      rw [Members.get?, Members.get?, ih]
      by_cases hk : k = slot
      · rw [if_pos hk, if_pos hk, if_neg (by rw [← hk]; exact hkey)]
      · rw [if_neg hk, if_neg hk]

theorem Members.get?_eq_none {members : Members} {slot : String}
    (h : slot ∉ members.map Prod.fst) : Members.get? members slot = none := by
  induction members with
  | nil => rfl
  | cons member rest ih =>
    obtain ⟨k, v⟩ := member
    rw [List.map_cons, List.mem_cons, not_or] at h
    rw [Members.get?, if_neg (Ne.symm h.1), ih h.2]

/-- Members with different keys are all found again. -/
theorem get?_rereadMembers {members : Members} (hkeys : (members.map Prod.fst).Nodup)
    (before : Members) (slot : String) :
    Members.get? (rereadMembers before members) slot =
      ((Members.get? members slot).map reread).or (Members.get? before slot) := by
  induction members generalizing before with
  | nil => rfl
  | cons member rest ih =>
    obtain ⟨k, v⟩ := member
    rw [List.map_cons, List.nodup_cons] at hkeys
    rw [rereadMembers, ih hkeys.2, Members.get?_put, Members.get?]
    by_cases hk : k = slot
    · subst hk
      rw [if_pos rfl, if_pos rfl, Members.get?_eq_none hkeys.1]
      rfl
    · rw [if_neg hk, if_neg hk]

/-- Reading the text of a value tells it anew. -/
theorem telling_reread : Telling reread where
  null := by rw [reread] <;> nofun
  boolean b := by rw [reread] <;> nofun
  string s := by rw [reread] <;> nofun
  array items := by rw [reread, rereadItems_eq_map]
  object {members} h := by
    refine ⟨rereadMembers [] members, by rw [reread], fun key => ?_⟩
    rw [get?_rereadMembers h]
    exact Option.or_none

end Json

end ScriptOutline
