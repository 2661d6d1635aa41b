import ScriptOutline.Script.Parsing.Constituent

/-!
# The stack

The readings of a text that are followed at the same time share one stack, which is a graph. A vertex
stands for a state at a place; the edges from it lead to the vertices that were there before, each
with the constituent in between. A path along edges is one way to have read what is before the vertex.

Vertices are only added, so the number of a vertex always means the same vertex. Edges may be added
to a vertex later, when another reading comes to the same state at the same place.
-/

namespace ScriptOutline

namespace Script

/-- An edge of the stack. -/
structure Edge where
  /-- The number of the vertex before. -/
  target : Nat
  /-- What was read in between; nothing where an error starts. -/
  piece : Option Constituent
  /-- How much that counts as progress. -/
  progress : Nat

namespace Edge

/-- The edge over a constituent. -/
def across (t : Table) (target : Nat) (piece : Option Constituent) : Edge :=
  { target, piece, progress := (piece.map (·.progress t)).getD 0 }

/-- The weight of what is in between. -/
def weight (edge : Edge) : Int := (edge.piece.map (·.weight)).getD 0

/-- Whether two edges are over the same sort of constituent. -/
def isLike (a b : Edge) : Bool :=
  match a.piece, b.piece with
  | none, none => true
  | some x, some y => x.isLike y
  | _, _ => false

end Edge

/-- A vertex of the stack. -/
structure Vertex where
  /-- The state; nothing while what follows an error is passed over. -/
  state : Option Nat := none
  place : Place := Place.startOf []
  /-- The edges from it, the oldest first. -/
  edges : List Edge := []
  weight : Int := 0
  /-- What the errors before it cost. -/
  cost : Nat := 0
  /-- The progress before it. -/
  progress : Nat := 0

/-- The vertex after another one. -/
def Vertex.after (v : Vertex) (edge : Edge) (state : Option Nat) : Vertex :=
  { state, place := (edge.piece.map (·.stop)).getD v.place, edges := [edge],
    weight := v.weight + edge.weight, cost := v.cost + (edge.piece.map (·.cost)).getD 0,
    progress := v.progress + edge.progress }

/-- Whether two vertices stand for the same. -/
def Vertex.isLike (a b : Vertex) : Bool :=
  a.state == b.state && a.place.offset == b.place.offset && a.cost == b.cost

/-- The stack. -/
structure Stack where
  vertices : Array Vertex

namespace Stack

/-- The vertex with a number. -/
def vertex (s : Stack) (n : Nat) : Vertex := s.vertices.getD n {}

/-- Adds a vertex, whose number is the size before. -/
def push (s : Stack) (v : Vertex) : Stack := { vertices := s.vertices.push v }

/-- Changes a vertex. -/
def modify (s : Stack) (n : Nat) (f : Vertex → Vertex) : Stack :=
  { vertices := s.vertices.modify n f }

/-! ## Adding edges -/

/-- How many edges there can be from a vertex. -/
def maxEdges : Nat := 8

/-- Adds an edge to a vertex. Of two edges that are over the same sort of constituent and lead to the
same vertex the heavier stays; if they lead to vertices that stand for the same, what is before one of
these is added to the other. -/
def addEdge : Nat → Stack → Nat → Edge → Stack
  | 0, s, _, _ => s
  | fuel + 1, s, n, edge =>
    if edge.target == n then s
    else
      let v := s.vertex n
      let source := s.vertex edge.target
      let weight := source.weight + edge.weight
      let matching := v.edges.findIdx? fun known =>
        known.isLike edge &&
          (known.target == edge.target || (s.vertex known.target).isLike source)
      match matching.bind fun i => v.edges[i]?.map fun known => (i, known) with
      | some (i, known) =>
        if known.target == edge.target then
          if known.weight < edge.weight then
            s.modify n fun v => { v with edges := v.edges.set i edge, weight }
          else s
        else
          let s := source.edges.foldl (fun s inner => addEdge fuel s known.target inner) s
          s.modify n fun v => { v with weight := max v.weight weight }
      | none =>
        if maxEdges ≤ v.edges.length then s
        else
          s.modify n fun v =>
            { v with
              edges := v.edges ++ [edge], weight := max v.weight weight,
              progress := max v.progress (source.progress + edge.progress) }

/-- Adds to a vertex all edges from another one. -/
def join (s : Stack) (n other : Nat) : Stack :=
  (s.vertex other).edges.foldl (fun s edge => addEdge s.vertices.size s n edge) s

/-! ## Paths -/

/-- A path down the stack. -/
structure Path where
  /-- The number of the vertex it has come to. -/
  vertex : Nat
  /-- The constituents on it, in the order of the text. -/
  pieces : List Constituent := []
  /-- How many edges are on it, without those over what may stand anywhere. -/
  length : Nat := 0

/-- A path with one more edge. -/
def Path.along (path : Path) (edge : Edge) : Path :=
  match edge.piece with
  | none => { path with vertex := edge.target, length := path.length + 1 }
  | some piece =>
    { vertex := edge.target, pieces := piece :: path.pieces,
      length := if piece.isExtra then path.length else path.length + 1 }

/-- What becomes of a path. -/
structure Fate where
  /-- Whether the path is one that was looked for. -/
  isFound : Bool
  /-- Whether it goes no further. -/
  isDone : Bool

/-- A search for paths. -/
structure Walk (σ : Type) where
  /-- What the search has noted. -/
  notes : σ
  /-- The paths that were found, the latest first. -/
  found : List Path := []

/-- How many paths are followed at the same time. -/
def maxPaths : Nat := 64

/-- Takes each path one edge further. Where there are several edges, the path goes on along the oldest
one and the others are followed by new paths, which come last. -/
def advancePaths {σ : Type} (s : Stack) (judge : σ → Vertex → Path → Fate × σ) :
    List Path → (moved added : List Path) → (total : Nat) → Walk σ → List Path × Walk σ
  | [], moved, added, _, walk => (moved.reverse ++ added.reverse, walk)
  | path :: rest, moved, added, total, walk =>
    let v := s.vertex path.vertex
    let (fate, notes) := judge walk.notes v path
    let walk := { notes, found := if fate.isFound then path :: walk.found else walk.found }
    match v.edges with
    | [] => advancePaths s judge rest moved added (total - 1) walk
    | first :: others =>
      if fate.isDone then advancePaths s judge rest moved added (total - 1) walk
      else
        let (added, total) := others.foldl (fun (added, total) edge =>
          if maxPaths ≤ total then (added, total) else (path.along edge :: added, total + 1))
          (added, total)
        advancePaths s judge rest (path.along first :: moved) added total walk

/-- Follows paths until all of them are done. -/
def followPaths {σ : Type} (s : Stack) (judge : σ → Vertex → Path → Fate × σ) :
    Nat → List Path → Walk σ → Walk σ
  | 0, _, walk => walk
  | _, [], walk => walk
  | fuel + 1, paths, walk =>
    let (paths, walk) := advancePaths s judge paths [] [] paths.length walk
    followPaths s judge fuel paths walk

/-- Follows all paths from a vertex. No path is longer than there are vertices. -/
def walk {σ : Type} (s : Stack) (n : Nat) (notes : σ) (judge : σ → Vertex → Path → Fate × σ) :
    Walk σ :=
  followPaths s judge (s.vertices.size + 1) [{ vertex := n }] { notes }

/-- The ways to have come from a vertex to another one: what was read in between. -/
structure Ways where
  /-- The number of the other vertex. -/
  base : Nat
  alternatives : List (List Constituent)

/-- Puts together the paths to the same vertex. -/
def gather (paths : List Path) : List Ways :=
  paths.foldl (fun groups path =>
    if groups.any fun ways : Ways => ways.base == path.vertex then
      groups.map fun ways =>
        if ways.base == path.vertex then
          { ways with alternatives := ways.alternatives ++ [path.pieces] }
        else ways
    else groups ++ [{ base := path.vertex, alternatives := [path.pieces] }]) []

/-- The ways that a number of edges lead down from a vertex. -/
def waysDown (s : Stack) (n count : Nat) : List Ways :=
  let judge (_ : Unit) (_ : Vertex) (path : Path) : Fate × Unit :=
    ({ isFound := path.length == count, isDone := path.length == count }, ())
  gather (s.walk n () judge).found.reverse

end Stack

end Script

end ScriptOutline
