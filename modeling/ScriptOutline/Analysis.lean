import ScriptOutline.Dialect
import ScriptOutline.Estree.Reader
import ScriptOutline.Estree.Writer
import ScriptOutline.Outline.Visit
import ScriptOutline.Script.Reader

/-!
# Analyses

An analysis reads a text in its dialect and keeps the tree together with its outline. It either
gives both or says why there are none.
-/

namespace ScriptOutline

/-- A syntax tree and its outline. -/
structure Analysis where
  tree : Node
  records : List Record

/-- The limit on nesting unless something else is said. -/
def defaultNestingLimit : Nat := 512

/-- Reads a text as a tree. -/
def readTree (dialect : Dialect) (limit : Nat) (source : List Char) : Except AnalysisError Node :=
  match dialect with
  | .script => Script.read limit source
  | .estree => Estree.read limit source

/-- Reads a text and outlines it. -/
def analyze (dialect : Dialect) (limit : Nat) (source : List Char) :
    Except AnalysisError Analysis :=
  (readTree dialect limit source).map fun tree => ⟨tree, tree.outline⟩

/-- A text to be analysed, with the path it is reported under. -/
structure Source where
  path : String
  dialect : Dialect
  content : String

/-- The outcome for one source. -/
structure Report where
  path : String
  outcome : Except AnalysisError Analysis

/-- Analyses sources one by one; the reports are in the order of the sources. -/
def analyzeAll (limit : Nat) (sources : List Source) : List Report :=
  sources.map fun s => ⟨s.path, analyze s.dialect limit s.content.toList⟩

end ScriptOutline
