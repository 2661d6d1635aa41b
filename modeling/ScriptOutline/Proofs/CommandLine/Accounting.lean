import Mathlib.Algebra.GroupWithZero.Nat
import Mathlib.Data.List.Induction
import Mathlib.Tactic.Common
import ScriptOutline.CommandLine.Run
import ScriptOutline.Proofs.Text.ByteOrder

/-!
# The account of several reports

When several sources are analysed, the output accounts for each of them. A source without an outline
is counted and gets a notice; one with an outline gets a part of the text under its path, or a
member of the object that is written. Where sources share a path, the last outline gets the member.
All this is what a run that comes to these reports leaves behind: it prints the notices, then the count
if there is anything to count, and ends accordingly.

The object is filled report by report. What it is after some reports (`HoldsLast`) is carried on by
the next one, which puts a member in, puts one in the place of another, or has none to put in.
-/

namespace ScriptOutline

namespace Json

/-- The keys are in ascending order, and each stands there once. -/
def Members.IsAscending (members : Members) : Prop :=
  members.Pairwise fun m n => m.1 < n.1

namespace Members

variable {members : Members} {member : String × Json}

/-- Putting a value in changes the member of that key and no other one. -/
theorem mem_put (h : members.IsAscending) (key : String) (value : Json) :
    member ∈ put key value members ↔
      member = (key, value) ∨ member.1 ≠ key ∧ member ∈ members := by
  induction members with
  | nil => simp [put]
  | cons first rest ih =>
    obtain ⟨k, v⟩ := first
    obtain ⟨hfirst, hrest⟩ := List.pairwise_cons.1 h
    rw [put]
    split
    · next hlt =>
      -- All the keys are behind the new one, so none of them is it.
      have hne (hmem : member ∈ (k, v) :: rest) : member.1 ≠ key := by
        rintro rfl
        rcases List.mem_cons.1 hmem with rfl | hmem
        · exact String.lt_irrefl _ hlt
        · exact String.lt_asymm hlt (hfirst member hmem)
      rw [List.mem_cons]
      exact or_congr_right ⟨fun hmem => ⟨hne hmem, hmem⟩, And.right⟩
    split
    · next heq =>
      subst heq
      have hne (hmem : member ∈ rest) : member.1 ≠ key := by
        rintro rfl
        exact String.lt_irrefl _ (hfirst member hmem)
      rw [List.mem_cons, List.mem_cons]
      refine or_congr_right ⟨fun hmem => ⟨hne hmem, .inr hmem⟩, ?_⟩
      rintro ⟨hkey, rfl | hmem⟩
      · exact absurd rfl hkey
      · exact hmem
    · next hne =>
      rw [List.mem_cons, List.mem_cons, ih hrest]
      constructor
      · rintro (rfl | rfl | ⟨hkey, hmem⟩)
        · exact .inr ⟨Ne.symm hne, .inl rfl⟩
        · exact .inl rfl
        · exact .inr ⟨hkey, .inr hmem⟩
      · rintro (rfl | ⟨hkey, rfl | hmem⟩)
        · exact .inr (.inl rfl)
        · exact .inl rfl
        · exact .inr (.inr ⟨hkey, hmem⟩)

/-- A value is put in where its key belongs. -/
theorem IsAscending.put (h : members.IsAscending) (key : String) (value : Json) :
    (put key value members).IsAscending := by
  induction members with
  | nil => exact List.pairwise_singleton _ _
  | cons first rest ih =>
    obtain ⟨k, v⟩ := first
    obtain ⟨hfirst, hrest⟩ := List.pairwise_cons.1 h
    rw [Members.put]
    split
    · next hlt =>
      refine List.pairwise_cons.2 ⟨fun m hm => ?_, h⟩
      rcases List.mem_cons.1 hm with rfl | hm
      · exact hlt
      · exact String.lt_trans hlt (hfirst m hm)
    split
    · next heq =>
      subst heq
      exact List.pairwise_cons.2 ⟨hfirst, hrest⟩
    · next hlt hne =>
      have hgt : k < key := by
        by_contra hgt
        exact hne (String.le_antisymm (String.not_lt.1 hgt) (String.not_lt.1 hlt))
      refine List.pairwise_cons.2 ⟨fun m hm => ?_, ih hrest⟩
      rcases (mem_put hrest key value).1 hm with rfl | ⟨-, hm⟩
      · exact hgt
      · exact hfirst m hm

end Members

end Json

namespace Report

/-- Whether the source has no outline. -/
def failed (r : Report) : Bool :=
  match r.outcome with
  | .ok _ => false
  | .error _ => true

/-- What is printed about a source that has no outline: its path and what is wrong with it. -/
def notice (r : Report) : List Char :=
  match r.outcome with
  | .ok _ => []
  | .error e => r.path.toList ++ ": ".toList ++ e.message.toList ++ ['\n']

/-- The line feeds in the path and in the message of a source that has no outline. -/
def lineFeeds (r : Report) : Nat :=
  match r.outcome with
  | .ok _ => 0
  | .error e => r.path.toList.count '\n' + e.message.toList.count '\n'

/-- What is written about a source that has an outline: a line with its path, and the outline by
itself. -/
def passage (format : Format) (r : Report) : List Char :=
  match r.outcome with
  | .ok a => "== ".toList ++ r.path.toList ++ " ==\n".toList ++ format.write a.records
  | .error _ => []

/-- A notice is one line, unless there are line feeds in it. -/
theorem count_notice (r : Report) :
    r.notice.count '\n' = (if r.failed then 1 else 0) + r.lineFeeds := by
  obtain ⟨path, a | a⟩ := r
  · have hcolon : ": ".toList.count '\n' = 0 := by decide
    simp only [notice, failed, lineFeeds, List.count_append, hcolon, List.count_singleton_self,
      if_true]
    omega
  · rfl

end Report

namespace Reports

open CommandLine

variable {reports : List Report}

/-- The outline is the last one for that path: the reports behind it that are on the path have
none. -/
def IsLast (reports : List Report) (path : String) (a : Analysis) : Prop :=
  ∃ before after, reports = before ++ ⟨path, .ok a⟩ :: after ∧
    ∀ r ∈ after, r.path = path → r.failed = true

/-- The members have the last outline for each path, in the order of the bytes of the paths. -/
structure HoldsLast (value : Analysis → Json) (reports : List Report) (members : Json.Members) :
    Prop where
  ascending : members.Pairwise fun m n => Utf8.encode m.1 < Utf8.encode n.1
  keys : ∀ path, path ∈ members.map Prod.fst ↔ ∃ r ∈ reports, r.path = path ∧ r.failed = false
  values : ∀ path v, (path, v) ∈ members ↔ ∃ a, IsLast reports path a ∧ v = value a

/-- What is printed at the end if there are sources without an outline. -/
def verdict (reports : List Report) : List Char :=
  if reports.countP Report.failed = 0 then []
  else ("Error: " ++ (toString (reports.countP Report.failed) ++ " of " ++ toString reports.length ++
    " inputs failed to analyze")).toList ++ ['\n']

/-- A run that came to the reports has this outcome. -/
structure IsOutcome (world : World) (o : AnalyzeOptions) (format : Format) (reports : List Report)
    (outcome : Outcome) : Prop where
  /-- The notices are printed in the order of the reports, and behind them how many there are. -/
  errors : outcome.errors = reports.flatMap Report.notice ++ verdict reports
  /-- The run succeeds if there is an outline of every source. -/
  exit : outcome.exit = if reports.countP Report.failed = 0 then 0 else 1
  /-- What is written is printed or put into the file that was asked for. -/
  output : ∃ text, text = (if o.emitTree then writeTrees reports else writeOutlines format reports) ∧
    (o.output = none ∧ outcome.output = text ∧ outcome.files = world.files ∨
      ∃ path, o.output = some path ∧ outcome.output = [] ∧
        world.files.write? path (Utf8.encode (String.ofList text)) = some outcome.files)

/-- The sources that a run is to analyse have these reports. -/
def ComesTo (world : World) (settings : Settings) (o : AnalyzeOptions) (format : Format)
    (reports : List Report) : Prop :=
  ∃ dialect sources, chooseDialect settings o.dialect = .ok dialect ∧
    chooseFormat settings o.format = .ok format ∧ loadSources world o dialect = .ok sources ∧
    analyzeAll settings.nestingLimit sources = reports

/-- The output accounts for all reports. -/
structure Accounted (reports : List Report) : Prop where
  /-- Those without an outline are counted. -/
  count : (complaints reports).length = reports.countP Report.failed
  /-- Each of them gets its notice, in the order of the reports. -/
  notices : printed (complaints reports) = reports.flatMap Report.notice
  /-- There is one line for each of them, unless there is a line feed in what is printed. -/
  lines : (printed (complaints reports)).count '\n' = reports.countP Report.failed ↔
    ∀ r ∈ reports, ∀ e, r.outcome = .error e → '\n' ∉ r.path.toList ∧ '\n' ∉ e.message.toList
  /-- As JSON, the outlines are one object. -/
  outlines : ∃ members, HoldsLast (fun a => Format.recordsJson a.records) reports members ∧
    writeOutlines .json reports = (Json.object members).pretty ++ ['\n']
  /-- The trees are one object. -/
  trees : ∃ members, HoldsLast (fun a => a.tree.toEstree) reports members ∧
    writeTrees reports = (Json.object members).pretty ++ ['\n']
  /-- In the other formats there is one passage after the other, in the order of the reports. -/
  passages : ∀ format ∈ [Format.text, .html, .csv],
    writeOutlines format reports = reports.flatMap (Report.passage format)
  /-- A run that comes to the reports ends with them. -/
  run : ∀ world settings o format, ComesTo world settings o format reports →
    runAnalyze world settings o = conclude world o format reports
  /-- It leaves all this behind, unless the file that was asked for cannot be written. -/
  outcome : ∀ world o format,
    (∃ outcome, conclude world o format reports = .ok outcome ∧
      IsOutcome world o format reports outcome) ∨
    ∃ path, o.output = some path ∧
      world.files.write? path (Utf8.encode (String.ofList (result o format reports))) = none ∧
      conclude world o format reports = .error (.uncreatableOutput path)

/-! ## Notices -/

theorem length_complaints (reports : List Report) :
    (complaints reports).length = reports.countP Report.failed := by
  induction reports with
  | nil => rfl
  | cons r reports ih =>
    obtain ⟨path, e | a⟩ := r
    · rw [List.countP_cons_of_pos rfl, ← ih]
      rfl
    · rw [List.countP_cons_of_neg Bool.false_ne_true, ← ih]
      rfl

theorem printed_complaints (reports : List Report) :
    printed (complaints reports) = reports.flatMap Report.notice := by
  induction reports with
  | nil => rfl
  | cons r reports ih =>
    rw [List.flatMap_cons, ← ih]
    obtain ⟨path, e | a⟩ := r
    · simp [printed, complaints, Report.notice]
    · rfl

/-- There are as many lines as notices and line feeds in them. -/
theorem count_notices (reports : List Report) :
    (reports.flatMap Report.notice).count '\n' =
      reports.countP Report.failed + (reports.map Report.lineFeeds).sum := by
  induction reports with
  | nil => rfl
  | cons r reports ih =>
    rw [List.flatMap_cons, List.count_append, ih, Report.count_notice, List.countP_cons,
      List.map_cons, List.sum_cons]
    omega

theorem lineFeeds_eq_zero_iff {r : Report} :
    r.lineFeeds = 0 ↔
      ∀ e, r.outcome = .error e → '\n' ∉ r.path.toList ∧ '\n' ∉ e.message.toList := by
  obtain ⟨path, e | a⟩ := r
  · simp [Report.lineFeeds, List.count_eq_zero]
  · simp [Report.lineFeeds]

/-! ## Members -/

/-- The members that the outlines of the reports are put in as. -/
def gathered (value : Analysis → Json) (reports : List Report) : Json.Members :=
  ((succeeded reports).map fun (path, a) => (path, value a)).foldl
    (fun members (path, v) => Json.Members.put path v members) []

theorem gathered_append_ok (value : Analysis → Json) (reports : List Report) (path : String)
    (a : Analysis) :
    gathered value (reports ++ [⟨path, .ok a⟩]) =
      Json.Members.put path (value a) (gathered value reports) := by
  simp [gathered, succeeded]

theorem gathered_append_error (value : Analysis → Json) (reports : List Report) (path : String)
    (e : AnalysisError) :
    gathered value (reports ++ [⟨path, .error e⟩]) = gathered value reports := by
  simp [gathered, succeeded]

/-- The last outline for a path is that of the last report, or that report has none for it and there
was one before. -/
theorem isLast_append_iff {r : Report} {path : String} {a : Analysis} :
    IsLast (reports ++ [r]) path a ↔
      r = ⟨path, .ok a⟩ ∨ (r.path = path → r.failed = true) ∧ IsLast reports path a := by
  constructor
  · rintro ⟨before, after, hreports, hafter⟩
    -- The last report has that outline itself, or is among those behind it.
    rcases List.eq_nil_or_concat after with rfl | ⟨after, r', rfl⟩
    · exact .inl (List.append_inj' hreports rfl |>.2 |> List.head_eq_of_cons_eq)
    · rw [List.concat_eq_append, ← List.cons_append, ← List.append_assoc] at hreports
      obtain ⟨hinit, hr⟩ := List.append_inj' hreports rfl
      obtain rfl := List.head_eq_of_cons_eq hr
      rw [List.concat_eq_append] at hafter
      exact .inr ⟨hafter r (by simp), before, after, hinit, fun s hs => hafter s (by simp [hs])⟩
  · rintro (rfl | ⟨hr, before, after, rfl, hafter⟩)
    · exact ⟨reports, [], rfl, nofun⟩
    · refine ⟨before, after ++ [r], by simp, fun s hs => ?_⟩
      rcases List.mem_append.1 hs with hs | hs
      · exact hafter s hs
      · rw [List.mem_singleton.1 hs]
        exact hr

namespace HoldsLast

variable {value : Analysis → Json} {members : Json.Members}

theorem isAscending (h : HoldsLast value reports members) : members.IsAscending :=
  h.ascending.imp Utf8.encode_lt_iff.1

/-- A report without an outline changes nothing. -/
theorem append_error (h : HoldsLast value reports members) (path : String) (e : AnalysisError) :
    HoldsLast value (reports ++ [⟨path, .error e⟩]) members where
  ascending := h.ascending
  keys slot := by
    rw [h.keys]
    constructor
    · rintro ⟨r, hr, hpath, hok⟩
      exact ⟨r, List.mem_append_left _ hr, hpath, hok⟩
    · rintro ⟨r, hr, hpath, hok⟩
      rcases List.mem_append.1 hr with hr | hr
      · exact ⟨r, hr, hpath, hok⟩
      · rw [List.mem_singleton.1 hr] at hok
        cases hok
  values slot v := by
    rw [h.values]
    refine exists_congr fun a => and_congr_left' ?_
    rw [isLast_append_iff]
    constructor
    · exact fun hlast => .inr ⟨fun _ => rfl, hlast⟩
    · rintro (hr | ⟨-, hlast⟩)
      · cases hr
      · exact hlast

/-- An outline takes the place of those before it on the same path. -/
theorem append_ok (h : HoldsLast value reports members) (path : String) (a : Analysis) :
    HoldsLast value (reports ++ [⟨path, .ok a⟩]) (Json.Members.put path (value a) members) where
  ascending := (h.isAscending.put path (value a)).imp Utf8.encode_lt_iff.2
  keys slot := by
    have hput : slot ∈ (Json.Members.put path (value a) members).map Prod.fst ↔
        slot = path ∨ slot ∈ members.map Prod.fst := by
      simp only [List.mem_map, Json.Members.mem_put h.isAscending]
      constructor
      · rintro ⟨member, rfl | ⟨-, hmem⟩, rfl⟩
        · exact .inl rfl
        · exact .inr ⟨member, hmem, rfl⟩
      · rintro (rfl | ⟨member, hmem, rfl⟩)
        · exact ⟨_, .inl rfl, rfl⟩
        · by_cases hkey : member.1 = path
          · exact ⟨_, .inl rfl, hkey.symm⟩
          · exact ⟨member, .inr ⟨hkey, hmem⟩, rfl⟩
    rw [hput, h.keys]
    constructor
    · rintro (rfl | ⟨r, hr, hpath, hok⟩)
      · exact ⟨_, List.mem_append_right _ (List.mem_singleton_self _), rfl, rfl⟩
      · exact ⟨r, List.mem_append_left _ hr, hpath, hok⟩
    · rintro ⟨r, hr, hpath, hok⟩
      rcases List.mem_append.1 hr with hr | hr
      · exact .inr ⟨r, hr, hpath, hok⟩
      · rw [List.mem_singleton.1 hr] at hpath
        exact .inl hpath.symm
  values slot v := by
    rw [Json.Members.mem_put h.isAscending, h.values]
    constructor
    · rintro (hmember | ⟨hne, b, hlast, hv⟩)
      · obtain ⟨rfl, rfl⟩ := Prod.mk.inj hmember
        exact ⟨a, isLast_append_iff.2 (.inl rfl), rfl⟩
      · exact ⟨b, isLast_append_iff.2 (.inr ⟨fun hpath => absurd hpath.symm hne, hlast⟩), hv⟩
    · rintro ⟨b, hlast, rfl⟩
      rcases isLast_append_iff.1 hlast with hr | ⟨hr, hlast⟩
      · cases hr
        exact .inl rfl
      · exact .inr ⟨fun hpath => Bool.false_ne_true (hr hpath.symm), b, hlast, rfl⟩

end HoldsLast

/-- After all reports the object has the last outline for each path. -/
theorem holdsLast_gathered (value : Analysis → Json) (reports : List Report) :
    HoldsLast value reports (gathered value reports) := by
  induction reports using List.reverseRecOn with
  | nil =>
    refine ⟨.nil, fun path => by simp [gathered, succeeded], fun path v => ?_⟩
    simp [gathered, succeeded, IsLast]
  | append_singleton reports r ih =>
    obtain ⟨path, e | a⟩ := r
    · rw [gathered_append_error]
      exact ih.append_error path e
    · rw [gathered_append_ok]
      exact ih.append_ok path a

/-! ## Passages -/

theorem flatMap_succeeded (format : Format) (reports : List Report) :
    ((succeeded reports).map fun (path, a) => (path, a.records)).flatMap
        (fun (path, records) => heading path ++ format.write records) =
      reports.flatMap (Report.passage format) := by
  induction reports with
  | nil => rfl
  | cons r reports ih =>
    rw [List.flatMap_cons, ← ih]
    obtain ⟨path, e | a⟩ := r <;> rfl

/-! ## The outcome -/

section Outcome

variable {world : World} {o : AnalyzeOptions} {format : Format}

theorem runAnalyze_eq_conclude {settings : Settings} (h : ComesTo world settings o format reports)
    (hsome : reports ≠ []) : runAnalyze world settings o = conclude world o format reports := by
  obtain ⟨dialect, sources, hdialect, hformat, hsources, rfl⟩ := h
  have hload : sources.isEmpty = false := by
    rw [List.isEmpty_eq_false_iff]
    rintro rfl
    exact hsome rfl
  simp [runAnalyze, hdialect, hformat, hsources, loading, hload, bind, Except.bind]

theorem complaints_isEmpty_iff (reports : List Report) :
    (complaints reports).isEmpty = true ↔ reports.countP Report.failed = 0 := by
  rw [List.isEmpty_iff_length_eq_zero, length_complaints]

theorem printed_append (first second : List String) :
    printed (first ++ second) = printed first ++ printed second :=
  List.flatMap_append

variable (reports) (files : FileSystem) (output : List Char) (written : Option String)

theorem complaints_ofReports : (Outcome.ofReports reports files output written).complaints =
    complaints reports ++ if reports.countP Report.failed = 0 then [] else
      ["Error: " ++ (RunError.failedInputs (reports.countP Report.failed) reports.length).message] := by
  rw [← length_complaints, Outcome.ofReports, apply_ite Outcome.complaints]
  by_cases hnone : complaints reports = []
  · rw [if_pos (List.isEmpty_iff.2 hnone), if_pos (List.length_eq_zero_iff.2 hnone), hnone]
    rfl
  · rw [if_neg (mt List.isEmpty_iff.1 hnone), if_neg (mt List.length_eq_zero_iff.1 hnone)]

theorem errors_ofReports : (Outcome.ofReports reports files output written).errors =
    reports.flatMap Report.notice ++ verdict reports := by
  rw [Outcome.errors, complaints_ofReports, printed_append, printed_complaints, verdict]
  split
  · rfl
  · have hmessage : (RunError.failedInputs (reports.countP Report.failed) reports.length).message =
        toString (reports.countP Report.failed) ++ " of " ++ toString reports.length ++
          " inputs failed to analyze" := rfl
    simp only [printed, List.flatMap_cons, List.flatMap_nil, List.append_nil, hmessage]

theorem exit_ofReports : (Outcome.ofReports reports files output written).exit =
    if reports.countP Report.failed = 0 then 0 else 1 := by
  rw [Outcome.ofReports, apply_ite Outcome.exit]
  exact if_congr (complaints_isEmpty_iff reports) rfl rfl

/-- Complaints change neither what is printed nor the files. -/
theorem output_ofReports : (Outcome.ofReports reports files output written).output = output ∧
    (Outcome.ofReports reports files output written).files = files := by
  rw [Outcome.ofReports]
  split <;> exact ⟨rfl, rfl⟩

theorem conclude_cases (world : World) (o : AnalyzeOptions) (format : Format) :
    (∃ outcome, conclude world o format reports = .ok outcome ∧
      IsOutcome world o format reports outcome) ∨
    ∃ path, o.output = some path ∧
      world.files.write? path (Utf8.encode (String.ofList (result o format reports))) = none ∧
      conclude world o format reports = .error (.uncreatableOutput path) := by
  have haccount (files output) (h : deliver world o.output (result o format reports) =
      .ok (files, output)) (houtput : o.output = none ∧ output = result o format reports ∧
        files = world.files ∨ ∃ path, o.output = some path ∧ output = [] ∧
          world.files.write? path (Utf8.encode (String.ofList (result o format reports))) =
            some files) :
      ∃ outcome, conclude world o format reports = .ok outcome ∧
        IsOutcome world o format reports outcome := by
    obtain ⟨hprinted, hfiles⟩ := output_ofReports reports files output o.output
    refine ⟨_, by rw [conclude, h]; rfl, errors_ofReports _ _ _ _, exit_ofReports _ _ _ _, _, rfl, ?_⟩
    rw [hprinted, hfiles]
    exact houtput
  cases hpath : o.output with
  | none =>
    exact .inl (haccount world.files _ (by rw [hpath]; rfl) (.inl ⟨hpath, rfl, rfl⟩))
  | some path =>
    cases hwrite : world.files.write? path
        (Utf8.encode (String.ofList (result o format reports))) with
    | some files =>
      refine .inl (haccount files [] ?_ (.inr ⟨path, hpath, rfl, hwrite⟩))
      simp only [deliver, hpath, hwrite]
    | none =>
      refine .inr ⟨path, rfl, hwrite, ?_⟩
      simp only [conclude, deliver, hpath, hwrite]
      rfl

end Outcome

/-! ## The output -/

/-- The output on several sources accounts for all of them. -/
theorem accounted_of_several (h : 2 ≤ reports.length) : Accounted reports where
  count := length_complaints reports
  notices := printed_complaints reports
  lines := by
    have hnone : (reports.map Report.lineFeeds).sum = 0 ↔ ∀ r ∈ reports, r.lineFeeds = 0 := by
      rw [List.sum_eq_zero_iff_forall_eq_nat, List.forall_mem_map]
    rw [printed_complaints, count_notices, Nat.add_eq_left, hnone]
    exact forall₂_congr fun r _ => lineFeeds_eq_zero_iff
  outlines := by
    refine ⟨_, holdsLast_gathered _ reports, ?_⟩
    simp only [writeOutlines, if_neg (show reports.length ≠ 1 by omega), document, byPath, gathered,
      List.map_map]
    rfl
  trees := by
    refine ⟨_, holdsLast_gathered _ reports, ?_⟩
    rw [writeTrees, if_neg (by omega)]
    rfl
  passages format hformat := by
    rw [← flatMap_succeeded]
    simp only [writeOutlines, if_neg (show reports.length ≠ 1 by omega)]
    simp only [List.mem_cons, List.not_mem_nil, or_false] at hformat
    rcases hformat with rfl | rfl | rfl <;> rfl
  run world settings o format hreports := runAnalyze_eq_conclude hreports (by
    rintro rfl
    exact absurd h (by decide))
  outcome := conclude_cases reports

/-- Two sources on one path, a source without an outline between them, and one whose path is behind
them in the order of letters but before them in that of bytes. -/
def mixedReports : List Report :=
  let loop := Node.program [.while (.identifier "x") (.return none)]
  [⟨"b.js", .ok ⟨.program [], []⟩⟩, ⟨"a.js", .error (.nestingTooDeep 3)⟩,
    ⟨"b.js", .ok ⟨loop, loop.outline⟩⟩, ⟨"C.js", .ok ⟨.program [], []⟩⟩]

theorem accounted_of_several_mixed :
    2 ≤ mixedReports.length ∧ Accounted mixedReports ∧ mixedReports.countP Report.failed = 1 ∧
      (gathered (fun a => Format.recordsJson a.records) mixedReports).map Prod.fst =
        ["C.js", "b.js"] :=
  ⟨by decide, accounted_of_several (by decide), by decide, by decide +kernel⟩

/-- The first of two files has a root of no known type, and there is a line feed in its type. -/
def brokenReports : List Report :=
  analyzeAll defaultNestingLimit
    [⟨"a.json", .estree, "\x7b\"type\":\"A\\nB\"\x7d"⟩,
      ⟨"b.json", .estree, "\x7b\"type\":\"Program\",\"body\":[]\x7d"⟩]

/-- The notice on the first file takes two lines. -/
theorem notice_on_two_lines :
    brokenReports.length = 2 ∧ brokenReports.countP Report.failed = 1 ∧
      printed (complaints brokenReports) =
        "a.json: Invalid input: expected a Program at the root, found A\nB\n".toList ∧
      (printed (complaints brokenReports)).count '\n' = 2 := by
  decide +kernel

end Reports

end ScriptOutline
