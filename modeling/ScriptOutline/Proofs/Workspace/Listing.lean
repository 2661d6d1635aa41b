import Mathlib.Data.List.Basic
import Mathlib.Data.List.Nodup
import ScriptOutline.Proofs.Workspace.Paths
import ScriptOutline.Workspace.FileSystem

/-!
# Listings of file trees

A folder lists its entries in some order. What stands at the end of a list of names does not depend
on that order (`Relisted.get?`), and neither does what a path leads to (`lookup?_of_relisted`).
-/

namespace ScriptOutline

namespace FileTree

/-- The entries of every folder have names, and no two of them the same. -/
inductive IsWellFormed : FileTree → Prop where
  | file (content : List UInt8) : IsWellFormed (.file content)
  | folder {entries : List (String × FileTree)} (hnames : ∀ e ∈ entries, Path.IsName e.1)
      (hdistinct : (entries.map Prod.fst).Nodup) (htrees : ∀ e ∈ entries, IsWellFormed e.2) :
      IsWellFormed (.folder entries)

/-- Two trees are the same but for the order in which folders list their entries. -/
inductive Relisted : FileTree → FileTree → Prop where
  | file (content : List UInt8) : Relisted (.file content) (.file content)
  | folder {entries others : List (String × FileTree)}
      (hnames : (entries.map Prod.fst).Perm (others.map Prod.fst))
      (htrees : ∀ e ∈ entries, ∀ f ∈ others, e.1 = f.1 → Relisted e.2 f.2) :
      Relisted (.folder entries) (.folder others)

variable {t u : FileTree} {name : String} {entries others : List (String × FileTree)}

/-- Among entries with distinct names each one is found by its name. -/
theorem entry?_folder_iff (h : (entries.map Prod.fst).Nodup) :
    entry? (folder entries) name = some t ↔ (name, t) ∈ entries := by
  rw [FileTree.entry?, FileTree.entries, Option.map_eq_some_iff]
  constructor
  · rintro ⟨e, hfind, rfl⟩
    have hname : e.1 = name := by simpa using List.find?_some hfind
    rw [← hname]
    exact List.mem_of_find?_eq_some hfind
  · intro hmem
    cases hfind : entries.find? (·.1 == name) with
    | none =>
      have hnone := List.find?_eq_none.1 hfind _ hmem
      exact absurd (beq_self_eq_true name) hnone
    | some e =>
      have hname : e.1 = name := by simpa using List.find?_some hfind
      have he : e = (name, t) :=
        List.inj_on_of_nodup_map h (List.mem_of_find?_eq_some hfind) hmem hname
      exact ⟨e, rfl, by rw [he]⟩

theorem entry?_eq_none_iff : entry? (folder entries) name = none ↔ name ∉ entries.map Prod.fst := by
  rw [FileTree.entry?, FileTree.entries, Option.map_eq_none_iff, List.find?_eq_none]
  constructor
  · intro h hname
    obtain ⟨e, he, rfl⟩ := List.mem_map.1 hname
    exact h e he (beq_self_eq_true e.1)
  · intro h e he heq
    exact h (List.mem_map.2 ⟨e, he, eq_of_beq heq⟩)

theorem get?_cons (t : FileTree) (name : String) (names : List String) :
    t.get? (name :: names) = (t.entry? name).bind (·.get? names) := by
  rw [get?]

theorem IsWellFormed.of_entry? (h : t.IsWellFormed) (hu : t.entry? name = some u) :
    u.IsWellFormed := by
  cases h with
  | file => cases hu
  | folder hnames hdistinct htrees => exact htrees _ ((entry?_folder_iff hdistinct).1 hu)

theorem IsWellFormed.of_get? {names : List String} (h : t.IsWellFormed)
    (hu : t.get? names = some u) : u.IsWellFormed := by
  induction names generalizing t with
  | nil =>
    cases hu
    exact h
  | cons name names ih =>
    rw [get?_cons, Option.bind_eq_some_iff] at hu
    obtain ⟨v, hv, hu⟩ := hu
    exact ih (h.of_entry? hv) hu

/-- What leads somewhere is names. -/
theorem IsWellFormed.isName {names : List String} (h : t.IsWellFormed)
    (hu : t.get? names = some u) : ∀ name ∈ names, Path.IsName name := by
  induction names generalizing t with
  | nil => exact fun _ hname => nomatch hname
  | cons name names ih =>
    rw [get?_cons, Option.bind_eq_some_iff] at hu
    obtain ⟨v, hv, hu⟩ := hu
    refine List.forall_mem_cons.2 ⟨?_, ih (h.of_entry? hv) hu⟩
    cases h with
    | file => cases hv
    | folder hnames hdistinct _ => exact hnames _ ((entry?_folder_iff hdistinct).1 hv)

/-! ## Other orders -/

namespace Relisted

theorem entry? (h : t.Relisted u) (ht : t.IsWellFormed) (name : String) :
    Option.Rel Relisted (t.entry? name) (u.entry? name) := by
  cases h with
  | file => exact .none
  | @folder entries others hnames htrees =>
    cases ht with
    | folder _ hdistinct _ =>
      have hdistinct' := hnames.nodup_iff.1 hdistinct
      cases hentry : FileTree.entry? (.folder entries) name with
      | none =>
        rw [entry?_eq_none_iff, hnames.mem_iff, ← entry?_eq_none_iff] at hentry
        rw [hentry]
        exact .none
      | some v =>
        have hv := (entry?_folder_iff hdistinct).1 hentry
        have hname : name ∈ others.map Prod.fst :=
          hnames.mem_iff.1 (List.mem_map.2 ⟨_, hv, rfl⟩)
        obtain ⟨f, hf, rfl⟩ := List.mem_map.1 hname
        rw [(entry?_folder_iff hdistinct').2 hf]
        exact .some (htrees _ hv _ hf rfl)

theorem get? (h : t.Relisted u) (ht : t.IsWellFormed) (names : List String) :
    Option.Rel Relisted (t.get? names) (u.get? names) := by
  induction names generalizing t u with
  | nil => exact .some h
  | cons name names ih =>
    rw [get?_cons, get?_cons]
    have hentry := h.entry? ht name
    generalize hv : t.entry? name = v at hentry ⊢
    generalize u.entry? name = w at hentry ⊢
    cases hentry with
    | none => exact .none
    | some hvw => exact ih hvw (ht.of_entry? hv)

theorem symm (h : t.Relisted u) : u.Relisted t := by
  induction h with
  | file content => exact .file content
  | folder hnames htrees ih => exact .folder hnames.symm fun f hf e he heq => ih e he f hf heq.symm

/-- Trees that are listed otherwise are well formed as well. -/
theorem isWellFormed (h : t.Relisted u) (ht : t.IsWellFormed) : u.IsWellFormed := by
  induction ht generalizing u with
  | file content =>
    cases h
    exact .file content
  | @folder entries hnames hdistinct htrees ih =>
    cases h with
    | @folder _ others hperm hrelisted =>
      have hentry : ∀ f ∈ others, ∃ e ∈ entries, e.1 = f.1 := fun f hf =>
        List.mem_map.1 (hperm.mem_iff.2 (List.mem_map.2 ⟨f, hf, rfl⟩))
      refine .folder (fun f hf => ?_) (hperm.nodup_iff.1 hdistinct) fun f hf => ?_
      · obtain ⟨e, he, heq⟩ := hentry f hf
        rw [← heq]
        exact hnames e he
      · obtain ⟨e, he, heq⟩ := hentry f hf
        exact ih e he (hrelisted e he f hf heq)

end Relisted

end FileTree

namespace FileSystem

open FileTree

variable {root other : FileTree} {fs others : FileSystem}

/-- The way of a path does not depend on the order. -/
theorem locateFrom_of_relisted
    (h : ∀ names, Option.Rel Relisted (root.get? names) (other.get? names))
    (parts place : List String) : locateFrom root place parts = locateFrom other place parts := by
  induction parts generalizing place with
  | nil => rfl
  | cons part parts ih =>
    have hplace := h place
    have hsome (names : List String) : (root.get? names).isSome = (other.get? names).isSome := by
      have hnames := h names
      generalize root.get? names = v at hnames ⊢
      generalize other.get? names = w at hnames ⊢
      cases hnames <;> rfl
    rw [locateFrom, locateFrom]
    generalize root.get? place = v at hplace ⊢
    generalize other.get? place = w at hplace ⊢
    cases hplace with
    | none => rfl
    | some hvw =>
      cases hvw with
      | file => rfl
      | folder => simp only [ih, hsome]

/-- What a path leads to is the same but for the order. -/
theorem lookup?_of_relisted (h : fs.root.Relisted others.root) (hroot : fs.root.IsWellFormed)
    (hplace : others.place = fs.place) (path : String) :
    Option.Rel Relisted (fs.lookup? path) (others.lookup? path) := by
  have hlocate : fs.locate? path = others.locate? path := by
    rw [locate?, locate?, hplace, locateFrom_of_relisted (h.get? hroot)]
  rw [lookup?, lookup?, hlocate]
  cases others.locate? path with
  | none => exact .none
  | some names => exact h.get? hroot names

theorem isWellFormed_of_lookup? {path : String} {t : FileTree} (hroot : fs.root.IsWellFormed)
    (h : fs.lookup? path = some t) : t.IsWellFormed := by
  obtain ⟨names, -, hget⟩ := Option.bind_eq_some_iff.1 h
  exact hroot.of_get? hget

end FileSystem

end ScriptOutline
