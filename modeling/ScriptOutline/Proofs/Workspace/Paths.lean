import Mathlib.Data.List.Basic
import ScriptOutline.Proofs.Text.Cut
import ScriptOutline.Workspace.Path

/-!
# Names below a path

The components of a path followed by names are those of the path and then the names. So the names
can be told from the path, and what is asked of the last component of a path is asked of the last
name.
-/

namespace ScriptOutline

namespace Path

/-- A text that an entry of a folder can have as its name. -/
structure IsName (name : String) : Prop where
  ne_empty : name ≠ ""
  ne_dot : name ≠ "."
  ne_dots : name ≠ ".."
  noSlash : '/' ∉ name.toList

instance (name : String) : Decidable (IsName name) :=
  decidable_of_iff (name ≠ "" ∧ name ≠ "." ∧ name ≠ ".." ∧ '/' ∉ name.toList)
    ⟨fun ⟨h₁, h₂, h₃, h₄⟩ => ⟨h₁, h₂, h₃, h₄⟩, fun ⟨h₁, h₂, h₃, h₄⟩ => ⟨h₁, h₂, h₃, h₄⟩⟩

/-- The path of what names lead to from a path. -/
def below (path : String) (names : List String) : String := names.foldl join path

variable {path name : String} {names others : List String}

/-- A slash divides the components of a path. -/
theorem components_append_slash (path rest : String) :
    components (path ++ "/" ++ rest) = components path ++ components rest := by
  have hcut : cutAt '/' (path ++ "/" ++ rest).toList =
      cutAt '/' path.toList ++ cutAt '/' rest.toList := by
    rw [← cutAt_append_cons, String.toList_append, String.toList_append, List.append_assoc]
    rfl
  rw [components, hcut, List.map_append, List.filter_append]
  rfl

theorem components_name (h : IsName name) : components name = [name] := by
  rw [components, cutAt_of_notMem h.noSlash]
  simp [h.ne_empty, h.ne_dot]

theorem components_join (h : IsName name) :
    components (join path name) = components path ++ [name] := by
  rw [← components_name h]
  unfold join
  split
  · next hend =>
    rw [Bool.or_eq_true, beq_iff_eq, beq_iff_eq] at hend
    rcases hend with rfl | hslash
    · rw [String.empty_append]
      rfl
    · -- The slash at the end is the one that would be put there.
      obtain ⟨before, hbefore⟩ := List.getLast?_eq_some_iff.1 hslash
      have hpath : path = String.ofList before ++ "/" ++ "" := by
        rw [← String.toList_inj, hbefore]
        simp
      have hjoin : path ++ name = String.ofList before ++ "/" ++ name := by
        rw [hpath, String.append_empty]
      rw [hjoin, hpath, components_append_slash, components_append_slash, List.append_assoc]
      rfl
  · exact components_append_slash path name

theorem components_below (h : ∀ name ∈ names, IsName name) :
    components (below path names) = components path ++ names := by
  induction names generalizing path with
  | nil => exact (List.append_nil _).symm
  | cons name names ih =>
    obtain ⟨hname, hnames⟩ := List.forall_mem_cons.1 h
    have hbelow : below path (name :: names) = below (join path name) names := rfl
    rw [hbelow, ih hnames, components_join hname, List.append_assoc, List.singleton_append]

theorem below_injective (hnames : ∀ name ∈ names, IsName name)
    (hothers : ∀ name ∈ others, IsName name) (h : below path names = below path others) :
    names = others := by
  have hcomponents := congrArg components h
  rw [components_below hnames, components_below hothers] at hcomponents
  exact List.append_cancel_left hcomponents

/-! ## The last component -/

theorem getLast?_components_join (h : IsName name) :
    (components (join path name)).getLast? = some name := by
  rw [components_join h, List.getLast?_concat]

theorem endsWith_join (h : IsName name) (other : String) :
    endsWith (join path name) other = (name == other) := by
  rw [endsWith, getLast?_components_join h]
  exact Option.some_beq_some

end Path

/-- No extension belongs to two dialects. -/
theorem Dialect.eq_of_mem_extensions {d e : Dialect} {word : String} (hd : word ∈ d.extensions)
    (he : word ∈ e.extensions) : d = e := by
  have hdisjoint : ∀ word ∈ script.extensions, word ∉ estree.extensions := by decide
  cases d <;> cases e
  · rfl
  · exact absurd he (hdisjoint word hd)
  · exact absurd hd (hdisjoint word he)
  · rfl

/-- A path is that of a dialect if its extension, in small letters, belongs to the dialect. -/
theorem Dialect.ofPath?_eq_some_iff {path : String} {dialect : Dialect} :
    Dialect.ofPath? path = some dialect ↔ ∃ extension, Path.extension? path = some extension ∧
      String.ofList (extension.toList.map Char.toLower) ∈ dialect.extensions := by
  rw [Dialect.ofPath?, Option.bind_eq_some_iff]
  refine exists_congr fun extension => and_congr_right fun _ => ?_
  have hmem {found : Dialect} (h : Dialect.ofExtension? extension = some found) :
      String.ofList (extension.toList.map Char.toLower) ∈ found.extensions :=
    List.contains_iff_mem.1
      (List.find?_some (p := fun d : Dialect => d.extensions.contains _) h)
  refine ⟨hmem, fun h => ?_⟩
  cases hfound : Dialect.ofExtension? extension with
  | none =>
    have hnone := List.find?_eq_none.1 hfound dialect (by cases dialect <;> decide)
    exact absurd (List.contains_iff_mem.2 h) hnone
  | some found => rw [Dialect.eq_of_mem_extensions (hmem hfound) h]

end ScriptOutline
