import Mathlib.Data.List.Basic
import Mathlib.Data.List.Nodup
import Mathlib.Data.List.Sort
import ScriptOutline.Proofs.Workspace.Listing
import ScriptOutline.Proofs.Yields
import ScriptOutline.Workspace.Loading

/-!
# Loading folders

Which files a folder yields, said of the tree and not of the walk through it: the files of the
dialect that names lead to, with no folder on the way that is passed over. The walk goes over these
files one by one (`collect_eq_mapM`), each with a path of its own (`nodup_paths`), and sorting puts
them in the only order in which their paths ascend. So the order in which folders list their entries
is of no consequence.
-/

namespace ScriptOutline

namespace Workspace

open FileTree (IsWellFormed)

/-- The names of folders that are passed over. -/
def passedOver : List String := ["node_modules", ".git"]

/-- Whether an entry of a folder is a folder that is passed over. -/
def isHidden (name : String) : FileTree → Bool
  | .file _ => false
  | .folder _ => passedOver.contains name

mutual

/-- The files in a tree that are not in folders passed over, each with the names that lead to it. -/
def reached : FileTree → List (List String × List UInt8)
  | .file content => [([], content)]
  | .folder entries => reachedIn entries

/-- The files that are reached from the entries of a folder. -/
def reachedIn : List (String × FileTree) → List (List String × List UInt8)
  | [] => []
  | (name, t) :: rest =>
    (if isHidden name t then [] else (reached t).map fun f => (name :: f.1, f.2)) ++ reachedIn rest

end

/-- The files that are reached from one entry. -/
def reachedUnder (e : String × FileTree) : List (List String × List UInt8) :=
  if isHidden e.1 e.2 then [] else (reached e.2).map fun f => (e.1 :: f.1, f.2)

/-- Loads a file that is reached from a path, if it is of the dialect. -/
def load (path : String) (dialect : Dialect) (f : List String × List UInt8) :
    Except LoadError (List Source) :=
  sourceOf (Path.below path f.1) dialect f.2

variable {fs others : FileSystem} {path name : String} {dialect : Dialect} {t : FileTree}
  {names : List String} {content : List UInt8} {entries : List (String × FileTree)}
  {sources : List Source} {s : Source}

/-! ## The files that are reached -/

theorem reachedIn_eq (entries : List (String × FileTree)) :
    reachedIn entries = entries.flatMap reachedUnder := by
  induction entries with
  | nil => rfl
  | cons e entries ih => rw [reachedIn, ih, List.flatMap_cons]; rfl

/-- Names that lead somewhere from an entry are not stopped there unless they go into a folder that
is passed over. -/
theorem isHidden_eq_false_iff (h : t.get? names = some (.file content)) :
    isHidden name t = false ∧ (∀ n ∈ names.dropLast, n ∉ passedOver) ↔
      ∀ n ∈ (name :: names).dropLast, n ∉ passedOver := by
  cases names with
  | nil =>
    cases h
    simp [isHidden]
  | cons next names =>
    cases t with
    | file => rw [FileTree.get?_cons] at h; cases h
    | folder entries => simp [isHidden]

theorem mem_reachedUnder {e : String × FileTree} :
    (names, content) ∈ reachedUnder e ↔
      isHidden e.1 e.2 = false ∧ ∃ rest, (rest, content) ∈ reached e.2 ∧ e.1 :: rest = names := by
  unfold reachedUnder
  cases isHidden e.1 e.2 <;> simp

/-- What is reached from a tree is the files in it that names lead to without going into a folder
that is passed over. -/
theorem mem_reached_iff (h : t.IsWellFormed) :
    (names, content) ∈ reached t ↔
      t.get? names = some (.file content) ∧ ∀ name ∈ names.dropLast, name ∉ passedOver := by
  induction h generalizing names with
  | file other =>
    rw [reached, List.mem_singleton]
    cases names with
    | nil => simp [FileTree.get?, eq_comm]
    | cons name names => simp [FileTree.get?_cons, FileTree.entry?, FileTree.entries]
  | @folder entries hnames hdistinct htrees ih =>
    rw [reached, reachedIn_eq, List.mem_flatMap]
    cases names with
    | nil => simp [mem_reachedUnder, FileTree.get?]
    | cons name names =>
      rw [FileTree.get?_cons, Option.bind_eq_some_iff]
      constructor
      · rintro ⟨e, he, hunder⟩
        obtain ⟨hshown, rest, hrest, heq⟩ := mem_reachedUnder.1 hunder
        obtain ⟨rfl, rfl⟩ := List.cons.inj heq
        obtain ⟨hget, hvisible⟩ := (ih e he).1 hrest
        refine ⟨⟨e.2, (FileTree.entry?_folder_iff hdistinct).2 he, hget⟩, ?_⟩
        exact (isHidden_eq_false_iff hget).1 ⟨hshown, hvisible⟩
      · rintro ⟨⟨u, hu, hget⟩, hvisible⟩
        have he := (FileTree.entry?_folder_iff hdistinct).1 hu
        obtain ⟨hshown, hrest⟩ := (isHidden_eq_false_iff hget).2 hvisible
        refine ⟨(name, u), he, mem_reachedUnder.2 ⟨hshown, names, ?_, rfl⟩⟩
        exact (ih _ he).2 ⟨hget, hrest⟩

/-- No names lead to two files. -/
theorem nodup_reached (h : t.IsWellFormed) : ((reached t).map Prod.fst).Nodup := by
  induction h with
  | file => exact List.nodup_singleton _
  | @folder entries hnames hdistinct htrees ih =>
    rw [reached, reachedIn_eq, List.map_flatMap, List.nodup_flatMap]
    constructor
    · intro e he
      unfold reachedUnder
      split
      · exact List.nodup_nil
      · rw [List.map_map]
        have hcons : Prod.fst ∘ (fun f : List String × List UInt8 => (e.1 :: f.1, f.2)) =
            (e.1 :: ·) ∘ Prod.fst := rfl
        rw [hcons, ← List.map_map]
        exact (ih e he).map (List.cons_injective)
    · refine (List.pairwise_map.1 hdistinct).imp fun {d e} hne names hd he => ?_
      obtain ⟨f, hf, rfl⟩ := List.mem_map.1 hd
      obtain ⟨g, hg, heq⟩ := List.mem_map.1 he
      obtain ⟨-, _, -, hfirst⟩ := mem_reachedUnder.1 hf
      obtain ⟨-, _, -, hother⟩ := mem_reachedUnder.1 hg
      rw [← hfirst, ← hother] at heq
      exact hne (List.cons.inj heq).1.symm

/-! ## The walk -/

/-- A folder is passed over if its name is that of one. -/
theorem isSkipped_join (path : String) (h : Path.IsName name) :
    isSkipped (Path.join path name) = passedOver.contains name := by
  rw [isSkipped, Path.endsWith_join h, Path.endsWith_join h, passedOver, List.contains_cons,
    List.contains_cons, List.contains_nil, Bool.or_false]

/-- The walk through the entries of a folder goes over the files that are reached, if the walk
through each entry does. -/
theorem collectAll_eq
    (h : ∀ e ∈ entries, collect dialect (Path.join path e.1) e.2 =
      List.flatten <$> (reachedUnder e).mapM (load path dialect)) :
    collectAll dialect path entries =
      List.flatten <$> (entries.flatMap reachedUnder).mapM (load path dialect) := by
  induction entries with
  | nil => rfl
  | cons e entries ih =>
    obtain ⟨hfirst, hrest⟩ := List.forall_mem_cons.1 h
    rw [collectAll, hfirst, ih hrest, List.flatMap_cons, List.mapM_append]
    cases (reachedUnder e).mapM (load path dialect) with
    | error d => rfl
    | ok first =>
      cases (entries.flatMap reachedUnder).mapM (load path dialect) with
      | error d => rfl
      | ok rest => exact congrArg Except.ok List.flatten_append.symm

/-- The walk through a tree goes over the files that are reached, unless the tree is a folder that
is passed over. -/
theorem collect_eq_mapM (h : t.IsWellFormed)
    (hpath : ∀ entries, t = .folder entries → isSkipped path = false) :
    collect dialect path t = List.flatten <$> (reached t).mapM (load path dialect) := by
  induction h generalizing path with
  | file content =>
    have hload : load path dialect ([], content) = sourceOf path dialect content := rfl
    rw [collect, reached, List.mapM_cons, hload]
    cases sourceOf path dialect content with
    | error e => rfl
    | ok sources => exact congrArg Except.ok (List.flatten_singleton).symm
  | @folder entries hnames hdistinct htrees ih =>
    rw [collect, if_neg (by simp [hpath entries rfl]), reached, reachedIn_eq]
    refine collectAll_eq fun e he => ?_
    have hskipped := isSkipped_join path (hnames e he)
    unfold reachedUnder
    cases hhidden : isHidden e.1 e.2 with
    | true =>
      cases hfolder : e.2 with
      | file content => rw [hfolder] at hhidden; cases hhidden
      | folder inner =>
        rw [hfolder] at hhidden
        rw [collect, if_pos (hskipped.trans hhidden), if_pos rfl]
        rfl
    | false =>
      rw [if_neg Bool.false_ne_true, List.mapM_map]
      refine ih e he fun inner hfolder => ?_
      rw [hfolder] at hhidden
      exact hskipped.trans hhidden

/-! ## What is loaded -/

/-- A source that is made of a file. -/
def IsMadeOf (path : String) (dialect : Dialect) (f : List String × List UInt8) (s : Source) :
    Prop :=
  Dialect.ofPath? (Path.below path f.1) = some dialect ∧
    ∃ text, Utf8.decode? f.2 = some text ∧
      s = ⟨Path.below path f.1, dialect, String.ofList text⟩

theorem load_error_iff {f : List String × List UInt8} :
    (∃ e, load path dialect f = .error e) ↔
      Dialect.ofPath? (Path.below path f.1) = some dialect ∧ Utf8.decode? f.2 = none := by
  unfold load sourceOf
  split
  · next hdialect => cases Utf8.decode? f.2 <;> simp [hdialect]
  · next hdialect => simp [hdialect]

theorem mem_of_load {f : List String × List UInt8} (h : load path dialect f = .ok sources) :
    s ∈ sources ↔ IsMadeOf path dialect f s := by
  unfold load sourceOf at h
  unfold IsMadeOf
  split at h
  · next hdialect =>
    cases htext : Utf8.decode? f.2 with
    | none =>
      rw [htext] at h
      cases h
    | some text =>
      rw [htext] at h
      cases h
      simp [hdialect]
  · next hdialect =>
    cases h
    simp [hdialect]

theorem paths_sublist_of_load {f : List String × List UInt8}
    (h : load path dialect f = .ok sources) :
    (sources.map Source.path).Sublist [Path.below path f.1] := by
  unfold load sourceOf at h
  split at h
  · cases htext : Utf8.decode? f.2 with
    | none =>
      rw [htext] at h
      cases h
    | some text =>
      rw [htext] at h
      cases h
      exact .refl _
  · cases h
    exact List.nil_sublist _

/-- The sources loaded from a list of files are those made of the files. -/
theorem mem_flatten_of_mapM {files : List (List String × List UInt8)} {parts : List (List Source)}
    (h : files.mapM (load path dialect) = .ok parts) :
    s ∈ parts.flatten ↔ ∃ f ∈ files, IsMadeOf path dialect f s := by
  have hparts := forall₂_of_mapM h
  clear h
  induction hparts with
  | nil => simp
  | cons hfirst hrest ih =>
    rw [List.flatten_cons, List.mem_append, List.exists_mem_cons_iff]
    exact or_congr (mem_of_load hfirst) ih

/-- Each of them has the path of its file. -/
theorem paths_sublist_of_mapM {files : List (List String × List UInt8)}
    {parts : List (List Source)} (h : files.mapM (load path dialect) = .ok parts) :
    (parts.flatten.map Source.path).Sublist (files.map fun f => Path.below path f.1) := by
  have hparts := forall₂_of_mapM h
  clear h
  induction hparts with
  | nil => exact .refl _
  | cons hfirst hrest ih =>
    rw [List.flatten_cons, List.map_append, List.map_cons]
    exact (paths_sublist_of_load hfirst).append ih

/-- Files that are reached by different names have different paths. -/
theorem nodup_paths (h : t.IsWellFormed) (path : String) :
    ((reached t).map fun f => Path.below path f.1).Nodup := by
  have hbelow : (reached t).map (fun f => Path.below path f.1) =
      ((reached t).map Prod.fst).map (Path.below path) := by
    rw [List.map_map]
    rfl
  rw [hbelow]
  refine (nodup_reached h).map_on fun names hnames others hothers heq => ?_
  obtain ⟨f, hf, rfl⟩ := List.mem_map.1 hnames
  obtain ⟨g, hg, rfl⟩ := List.mem_map.1 hothers
  exact Path.below_injective (h.isName ((mem_reached_iff h).1 hf).1)
    (h.isName ((mem_reached_iff h).1 hg).1) heq

/-! ## Order -/

/-- Sorting sources with different paths puts them in strictly ascending order. -/
theorem pairwise_mergeSort_path (h : (sources.map Source.path).Nodup) :
    (sources.mergeSort fun a b => a.path ≤ b.path).Pairwise (·.path < ·.path) := by
  have htrans (a b c : Source) (hab : decide (a.path ≤ b.path)) (hbc : decide (b.path ≤ c.path)) :
      decide (a.path ≤ c.path) := by
    rw [decide_eq_true_eq] at hab hbc ⊢
    exact String.le_trans hab hbc
  have htotal (a b : Source) : decide (a.path ≤ b.path) || decide (b.path ≤ a.path) := by
    rw [Bool.or_eq_true, decide_eq_true_eq, decide_eq_true_eq]
    exact String.le_total a.path b.path
  have hle := List.pairwise_mergeSort htrans htotal sources
  have hperm := List.mergeSort_perm sources fun a b => decide (a.path ≤ b.path)
  have hne : (sources.mergeSort fun a b => a.path ≤ b.path).Pairwise (·.path ≠ ·.path) :=
    List.pairwise_map.1 ((hperm.map Source.path).nodup_iff.2 h)
  refine (hle.and hne).imp fun {a b} hab => ?_
  rw [decide_eq_true_eq] at hab
  by_contra hlt
  exact hab.2 (String.le_antisymm hab.1 (String.not_lt.1 hlt))

/-- Among sources with different paths there is nothing to drop. -/
theorem dropRepeated_eq {before : Option String}
    (hbefore : ∀ p ∈ before, p ∉ sources.map Source.path) (h : (sources.map Source.path).Nodup) :
    dropRepeated before sources = sources := by
  induction sources generalizing before with
  | nil => rfl
  | cons s sources ih =>
    rw [List.map_cons, List.nodup_cons] at h
    have hne : ¬ (before == some s.path) = true := by
      intro heq
      have hmem := hbefore s.path (eq_of_beq heq)
      exact hmem List.mem_cons_self
    rw [dropRepeated, if_neg hne, ih _ h.2]
    intro p hp
    cases hp
    exact h.1

/-- Sources in strictly ascending order are told by what they are. -/
theorem eq_of_ascending {sources others : List Source} (h : sources.Pairwise (·.path < ·.path))
    (hothers : others.Pairwise (·.path < ·.path)) (hmem : ∀ s, s ∈ sources ↔ s ∈ others) :
    sources = others := by
  have hirrefl : Std.Irrefl fun a b : Source => a.path < b.path :=
    ⟨fun a => String.lt_irrefl a.path⟩
  have hantisymm : Std.Antisymm fun a b : Source => a.path < b.path :=
    ⟨fun a b hab hba => absurd (String.lt_trans hab hba) (String.lt_irrefl a.path)⟩
  exact h.eq_of_mem_iff hothers hmem

/-! ## Folders -/

/-- A file that is selected in the folder at a path. -/
structure Selects (fs : FileSystem) (path : String) (dialect : Dialect) (names : List String)
    (content : List UInt8) : Prop where
  /-- The names lead to the file. -/
  isFile : ∃ t, fs.lookup? path = some t ∧ t.get? names = some (.file content)
  /-- Its extension, in small letters, belongs to the dialect. -/
  hasExtension : ∃ extension, Path.extension? (Path.below path names) = some extension ∧
    String.ofList (extension.toList.map Char.toLower) ∈ dialect.extensions
  /-- It does not lie under a folder that is passed over. The folder at the path counts by the last
  component of the path. -/
  isVisible : ∀ name ∈ (Path.components path).getLast?.toList ++ names.dropLast, name ∉ passedOver

theorem isSkipped_eq_false_iff :
    isSkipped path = false ↔ ∀ name ∈ (Path.components path).getLast?, name ∉ passedOver := by
  rw [isSkipped, Path.endsWith, Path.endsWith]
  cases (Path.components path).getLast? with
  | none => simp
  | some name => simp [passedOver]

theorem Selects.isName (hselects : Selects fs path dialect names content)
    (hroot : fs.root.IsWellFormed) : ∀ name ∈ names, Path.IsName name := by
  obtain ⟨t, hlookup, hget⟩ := hselects.isFile
  exact (FileSystem.isWellFormed_of_lookup? hroot hlookup).isName hget

theorem not_selects_of_isSkipped (h : isSkipped path = true) :
    ¬ Selects fs path dialect names content := by
  intro hselects
  have hvisible : isSkipped path = false := isSkipped_eq_false_iff.2 fun name hname =>
    hselects.isVisible name (List.mem_append_left _ (Option.mem_toList.2 hname))
  rw [hvisible] at h
  cases h

/-- The files that are selected are those of the dialect that are reached. -/
theorem selects_iff (hlookup : fs.lookup? path = some t) (h : t.IsWellFormed)
    (hpath : isSkipped path = false) :
    Selects fs path dialect names content ↔
      (names, content) ∈ reached t ∧ Dialect.ofPath? (Path.below path names) = some dialect := by
  rw [mem_reached_iff h, Dialect.ofPath?_eq_some_iff]
  constructor
  · rintro ⟨⟨u, hu, hget⟩, hextension, hvisible⟩
    rw [hlookup] at hu
    cases hu
    exact ⟨⟨hget, fun name hname => hvisible name (List.mem_append_right _ hname)⟩, hextension⟩
  · rintro ⟨⟨hget, hvisible⟩, hextension⟩
    refine ⟨⟨t, hlookup, hget⟩, hextension, fun name hname => ?_⟩
    rcases List.mem_append.1 hname with hlast | hname
    · exact isSkipped_eq_false_iff.1 hpath name (Option.mem_toList.1 hlast)
    · exact hvisible name hname

/-- A folder that is there and not passed over is loaded by going over the files reached in it. -/
theorem loadFolder_eq (hlookup : fs.lookup? path = some t) (h : t.IsWellFormed)
    (hpath : isSkipped path = false) :
    loadFolder fs path dialect =
      (fun parts => parts.flatten.mergeSort fun a b => a.path ≤ b.path) <$>
        (reached t).mapM (load path dialect) := by
  rw [loadFolder, if_neg (by simp [hpath]), hlookup]
  simp only
  rw [collect_eq_mapM h fun _ _ => hpath]
  cases hparts : (reached t).mapM (load path dialect) with
  | error e => rfl
  | ok parts =>
    have hnodup := (paths_sublist_of_mapM hparts).nodup (nodup_paths h path)
    have hperm := List.mergeSort_perm parts.flatten fun a b => decide (a.path ≤ b.path)
    refine congrArg Except.ok (dropRepeated_eq (by simp) ?_)
    exact (hperm.map Source.path).nodup_iff.2 hnodup

theorem loadFolder_of_isSkipped (h : isSkipped path = true) :
    loadFolder fs path dialect = .ok [] := by
  rw [loadFolder, if_pos h]

theorem loadFolder_of_missing (hpath : isSkipped path = false) (hlookup : fs.lookup? path = none) :
    loadFolder fs path dialect = .error (.missingFolder path) := by
  rw [loadFolder, if_neg (by simp [hpath]), hlookup]

/-- What is loaded is nothing if the folder is passed over, and otherwise what is made of the files
reached in it, sorted. -/
theorem loadFolder_ok (hroot : fs.root.IsWellFormed)
    (hload : loadFolder fs path dialect = .ok sources) :
    (isSkipped path = true ∧ sources = []) ∨
      ∃ t parts, isSkipped path = false ∧ fs.lookup? path = some t ∧ t.IsWellFormed ∧
        (reached t).mapM (load path dialect) = .ok parts ∧
        sources = parts.flatten.mergeSort fun a b => a.path ≤ b.path := by
  cases hpath : isSkipped path with
  | true =>
    rw [loadFolder_of_isSkipped hpath] at hload
    cases hload
    exact .inl ⟨rfl, rfl⟩
  | false =>
    cases hlookup : fs.lookup? path with
    | none =>
      rw [loadFolder_of_missing hpath hlookup] at hload
      cases hload
    | some t =>
      have ht := FileSystem.isWellFormed_of_lookup? hroot hlookup
      rw [loadFolder_eq hlookup ht hpath] at hload
      cases hparts : (reached t).mapM (load path dialect) with
      | error e =>
        rw [hparts] at hload
        cases hload
      | ok parts =>
        rw [hparts] at hload
        cases hload
        exact .inr ⟨t, parts, rfl, rfl, ht, hparts, rfl⟩

/-- The sources of a folder ascend strictly by their paths. -/
theorem pairwise_of_loadFolder (hroot : fs.root.IsWellFormed)
    (hload : loadFolder fs path dialect = .ok sources) : sources.Pairwise (·.path < ·.path) := by
  rcases loadFolder_ok hroot hload with ⟨-, rfl⟩ | ⟨t, parts, -, -, ht, hparts, rfl⟩
  · exact .nil
  · exact pairwise_mergeSort_path ((paths_sublist_of_mapM hparts).nodup (nodup_paths ht path))

/-- The sources of a folder are those made of the files that are selected in it. -/
theorem mem_of_loadFolder (hroot : fs.root.IsWellFormed)
    (hload : loadFolder fs path dialect = .ok sources) :
    s ∈ sources ↔ ∃ names content text, Selects fs path dialect names content ∧
      Utf8.decode? content = some text ∧
      s = ⟨Path.below path names, dialect, String.ofList text⟩ := by
  rcases loadFolder_ok hroot hload with ⟨hpath, rfl⟩ | ⟨t, parts, hpath, hlookup, ht, hparts, rfl⟩
  · simp [not_selects_of_isSkipped hpath]
  · rw [List.mem_mergeSort, mem_flatten_of_mapM hparts]
    simp only [selects_iff hlookup ht hpath, IsMadeOf, Prod.exists, and_assoc, exists_and_left]

/-- A folder cannot be loaded: it is missing and would not be passed over, or a file that is
selected in it is no text. -/
def IsUnloadable (fs : FileSystem) (path : String) (dialect : Dialect) : Prop :=
  (fs.lookup? path = none ∧ ∀ name ∈ (Path.components path).getLast?, name ∉ passedOver) ∨
    ∃ names content, Selects fs path dialect names content ∧ Utf8.decode? content = none

theorem loadFolder_error_iff (hroot : fs.root.IsWellFormed) :
    (∃ e, loadFolder fs path dialect = .error e) ↔ IsUnloadable fs path dialect := by
  rw [IsUnloadable, ← isSkipped_eq_false_iff]
  cases hpath : isSkipped path with
  | true => simp [loadFolder_of_isSkipped hpath, not_selects_of_isSkipped hpath]
  | false =>
    cases hlookup : fs.lookup? path with
    | none => simp [loadFolder_of_missing hpath hlookup]
    | some t =>
      have ht := FileSystem.isWellFormed_of_lookup? hroot hlookup
      have hfails : (∃ e, loadFolder fs path dialect = .error e) ↔
          ∃ e, (reached t).mapM (load path dialect) = .error e := by
        rw [loadFolder_eq hlookup ht hpath]
        cases (reached t).mapM (load path dialect) <;> simp
      rw [hfails, mapM_error_iff]
      simp only [load_error_iff, selects_iff hlookup ht hpath, Prod.exists, and_assoc, reduceCtorEq,
        false_and, false_or]

/-! ## Other orders -/

theorem lookup?_eq_none_of_relisted (hroot : fs.root.IsWellFormed)
    (hplace : others.place = fs.place) (h : fs.root.Relisted others.root)
    (hlookup : others.lookup? path = none) : fs.lookup? path = none := by
  have hrel := FileSystem.lookup?_of_relisted h hroot hplace path
  rw [hlookup] at hrel
  cases hfs : fs.lookup? path with
  | none => rfl
  | some t =>
    rw [hfs] at hrel
    cases hrel

/-- Which files are selected does not depend on the order in which folders list their entries. -/
theorem selects_of_relisted (hroot : fs.root.IsWellFormed) (hplace : others.place = fs.place)
    (h : fs.root.Relisted others.root) (hselects : Selects fs path dialect names content) :
    Selects others path dialect names content := by
  refine ⟨?_, hselects.hasExtension, hselects.isVisible⟩
  obtain ⟨t, hlookup, hget⟩ := hselects.isFile
  have hrel := FileSystem.lookup?_of_relisted h hroot hplace path
  rw [hlookup] at hrel
  generalize others.lookup? path = found at hrel ⊢
  cases hrel with
  | @some _ u htu =>
    refine ⟨u, rfl, ?_⟩
    have hfile := htu.get? (FileSystem.isWellFormed_of_lookup? hroot hlookup) names
    rw [hget] at hfile
    generalize u.get? names = reached at hfile ⊢
    cases hfile with
    | some hsame =>
      cases hsame
      rfl

theorem loadFolder_of_relisted (hroot : fs.root.IsWellFormed) (hplace : others.place = fs.place)
    (h : fs.root.Relisted others.root) (hload : loadFolder fs path dialect = .ok sources) :
    loadFolder others path dialect = .ok sources := by
  have hroot' := h.isWellFormed hroot
  have hselects (names : List String) (content : List UInt8) :
      Selects others path dialect names content ↔ Selects fs path dialect names content :=
    ⟨selects_of_relisted hroot' hplace.symm h.symm, selects_of_relisted hroot hplace h⟩
  cases hother : loadFolder others path dialect with
  | error e =>
    have hfails : ∃ e, loadFolder fs path dialect = .error e := by
      refine (loadFolder_error_iff hroot).2 ?_
      rcases (loadFolder_error_iff hroot').1 ⟨e, hother⟩ with ⟨hmissing, hpath⟩ | hbad
      · exact .inl ⟨lookup?_eq_none_of_relisted hroot hplace h hmissing, hpath⟩
      · simp only [hselects] at hbad
        exact .inr hbad
    obtain ⟨d, hd⟩ := hfails
    rw [hd] at hload
    cases hload
  | ok found =>
    refine congrArg Except.ok (eq_of_ascending (pairwise_of_loadFolder hroot' hother)
      (pairwise_of_loadFolder hroot hload) fun s => ?_)
    rw [mem_of_loadFolder hroot' hother, mem_of_loadFolder hroot hload]
    simp only [hselects]

/-- Loading a folder of a well-formed file system. It fails if and only if the folder is missing,
unless it would be passed over, or a file that is selected in it is no text. Otherwise it gives the
files that are selected in the folder, each as one source, in strictly ascending order of their
paths. No two files have the same path, and the order in which folders list their entries makes no
difference. -/
theorem loadFolder_selects (hroot : fs.root.IsWellFormed) (path : String) (dialect : Dialect) :
    ((∃ e, loadFolder fs path dialect = .error e) ↔ IsUnloadable fs path dialect) ∧
    (¬ IsUnloadable fs path dialect → ∃ sources, loadFolder fs path dialect = .ok sources ∧
      sources.Pairwise (·.path < ·.path) ∧
      ∀ s, s ∈ sources ↔ ∃ names content text, Selects fs path dialect names content ∧
        Utf8.decode? content = some text ∧
        s = ⟨Path.below path names, dialect, String.ofList text⟩) ∧
    (∀ names content others content', Selects fs path dialect names content →
      Selects fs path dialect others content' →
      Path.below path names = Path.below path others → names = others) ∧
    ∀ others : FileSystem, others.place = fs.place → fs.root.Relisted others.root →
      ∀ sources, loadFolder others path dialect = .ok sources ↔
        loadFolder fs path dialect = .ok sources := by
  refine ⟨loadFolder_error_iff hroot, fun hloadable => ?_, ?_, ?_⟩
  · cases hload : loadFolder fs path dialect with
    | error e => exact absurd ((loadFolder_error_iff hroot).1 ⟨e, hload⟩) hloadable
    | ok sources =>
      exact ⟨sources, rfl, pairwise_of_loadFolder hroot hload, fun _ =>
        mem_of_loadFolder hroot hload⟩
  · intro names content others content' hselects hothers heq
    exact Path.below_injective (hselects.isName hroot) (hothers.isName hroot) heq
  · intro others hplace h sources
    exact ⟨loadFolder_of_relisted (h.isWellFormed hroot) hplace.symm h.symm,
      loadFolder_of_relisted hroot hplace h⟩

/-- A folder with a library, installed packages and a file of its own. -/
def project : FileSystem :=
  ⟨.folder [("app", .folder [
    ("lib", .folder [("util.mjs", .file []), ("notes.txt", .file [0xFF])]),
    ("node_modules", .folder [("dep.js", .file [0xFF])]),
    ("Main.JS", .file [0x78])])], []⟩

/-- The same folder with its entries in another order. -/
def projectListedOtherwise : FileSystem :=
  ⟨.folder [("app", .folder [
    ("Main.JS", .file [0x78]),
    ("node_modules", .folder [("dep.js", .file [0xFF])]),
    ("lib", .folder [("notes.txt", .file [0xFF]), ("util.mjs", .file [])])])], []⟩

theorem isWellFormed_project : project.root.IsWellFormed := by
  have hlib :
      (FileTree.folder [("util.mjs", .file []), ("notes.txt", .file [0xFF])]).IsWellFormed :=
    .folder (by decide) (by decide) (by simp [IsWellFormed.file])
  have hpackages : (FileTree.folder [("dep.js", .file [0xFF])]).IsWellFormed :=
    .folder (by decide) (by decide) (by simp [IsWellFormed.file])
  refine .folder (by decide) (by decide) ?_
  simp only [List.mem_singleton, forall_eq]
  exact .folder (by decide) (by decide) (by simp [IsWellFormed.file, hlib, hpackages])

theorem relisted_project : project.root.Relisted projectListedOtherwise.root := by
  have hlib : (FileTree.folder [("util.mjs", .file []), ("notes.txt", .file [0xFF])]).Relisted
      (.folder [("notes.txt", .file [0xFF]), ("util.mjs", .file [])]) :=
    .folder (by decide) (by simp [FileTree.Relisted.file])
  have hpackages : (FileTree.folder [("dep.js", .file [0xFF])]).Relisted
      (.folder [("dep.js", .file [0xFF])]) :=
    .folder (by decide) (by simp [FileTree.Relisted.file])
  refine .folder (by decide) ?_
  simp only [List.mem_singleton, forall_eq, forall_const]
  exact .folder (by decide) (by simp [FileTree.Relisted.file, hlib, hpackages])

theorem loadFolder_project : loadFolder project "app" .script =
    .ok [⟨"app/Main.JS", .script, "x"⟩, ⟨"app/lib/util.mjs", .script, ""⟩] := by
  have hlookup : ∃ t, project.lookup? "app" = some t ∧ collect .script "app" t =
      .ok [⟨"app/lib/util.mjs", .script, ""⟩, ⟨"app/Main.JS", .script, "x"⟩] := ⟨_, rfl, rfl⟩
  obtain ⟨t, hlookup, hcollect⟩ := hlookup
  rw [loadFolder, if_neg (by decide), hlookup]
  simp only [hcollect]
  refine congrArg Except.ok ?_
  rw [List.mergeSort]
  simp
  rfl

theorem loadFolder_selects_project :
    project.root.IsWellFormed ∧ project.root.Relisted projectListedOtherwise.root ∧
      loadFolder projectListedOtherwise "app" .script =
        .ok [⟨"app/Main.JS", .script, "x"⟩, ⟨"app/lib/util.mjs", .script, ""⟩] := by
  refine ⟨isWellFormed_project, relisted_project, ?_⟩
  have hselects := loadFolder_selects isWellFormed_project "app" .script
  exact (hselects.2.2.2 projectListedOtherwise rfl relisted_project _).2 loadFolder_project

end Workspace

end ScriptOutline
