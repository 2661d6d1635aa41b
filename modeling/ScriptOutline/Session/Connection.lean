import ScriptOutline.Session.Command
import ScriptOutline.Text.Blank
import ScriptOutline.Text.Utf8

/-!
# Connections

A client sends bytes, the server answers lines. A request is a line; the last one may lack its line
break. A line whose content is as long as the limit, or longer, is passed over and answered by a
complaint. A line of nothing but white space gets no answer. After the answer to a request to shut
down nothing is answered any more.

Bytes come in reads of any size. The server goes over a read in passes: inside a line a pass looks
for a line feed among as many bytes as the limit still allows, and while it passes over a line that
is too long it looks for a line feed among all of them. `Framing` is where it stands when a read is
used up.
-/

namespace ScriptOutline

/-- The byte that ends a line. -/
def lineFeed : UInt8 := 10

/-- What a server finds in the bytes of a client. -/
inductive Frame where
  /-- The bytes of a line, with the line feed if there is one. -/
  | line (bytes : List UInt8)
  /-- A line that is too long. -/
  | oversized

/-- How far a line was read. -/
inductive Framing where
  /-- Its bytes, the last one first. -/
  | inside (reversed : List UInt8)
  /-- It is too long, and the rest of it is passed over. -/
  | discarding

namespace Framing

/-- Before a line. -/
def start : Framing := .inside []

/-- The number of bytes up to the first line feed, which counts too. -/
def throughLineFeed? (bytes : List UInt8) : Option Nat :=
  (bytes.findIdx? (· == lineFeed)).map (· + 1)

/-- What one pass over the bytes of a read comes to. -/
structure Pass where
  framing : Framing
  /-- What was found. -/
  frame : Option Frame
  /-- The bytes that are left. -/
  rest : List UInt8

/-- Goes over the bytes of a read until a line ends or becomes too long, or no byte is left. -/
def pass (limit : Nat) (bytes : List UInt8) : Framing → Pass
  | .inside reversed =>
    let available := bytes.take (limit - reversed.length)
    match throughLineFeed? available with
    | some n => ⟨start, some (.line ((available.take n).reverse ++ reversed).reverse), bytes.drop n⟩
    | none =>
      let reversed := available.reverse ++ reversed
      ⟨if limit ≤ reversed.length then .discarding else .inside reversed, none,
        bytes.drop available.length⟩
  | .discarding =>
    match throughLineFeed? bytes with
    | some n => ⟨start, some .oversized, bytes.drop n⟩
    | none => ⟨.discarding, none, []⟩

/-- The number of passes that can go by without a byte used. -/
def patience : Framing → Nat
  | .inside _ => 1
  | .discarding => 0

theorem throughLineFeed?_pos {bytes : List UInt8} {n : Nat} (h : throughLineFeed? bytes = some n) :
    0 < n := by
  obtain ⟨i, -, rfl⟩ := Option.map_eq_some_iff.1 h
  exact Nat.succ_pos i

/-- A pass uses a byte, or the line is found to be too long. -/
theorem pass_decreases (limit : Nat) {bytes : List UInt8} (hbytes : bytes ≠ []) (f : Framing) :
    2 * (pass limit bytes f).rest.length + (pass limit bytes f).framing.patience <
      2 * bytes.length + f.patience := by
  have hlength := List.length_pos_iff.2 hbytes
  cases f with
  | inside reversed =>
    simp only [pass]
    split
    · next n hn =>
      have := throughLineFeed?_pos hn
      simp only [start, patience, List.length_drop]
      omega
    · split
      · simp only [patience, List.length_drop]
        omega
      · simp only [patience, List.length_append, List.length_reverse, List.length_drop,
          List.length_take] at *
        omega
  | discarding =>
    simp only [pass]
    split
    · next n hn =>
      have := throughLineFeed?_pos hn
      simp only [start, patience, List.length_drop]
      omega
    · simp only [patience, List.length_nil]
      omega

/-- Takes the bytes of one read. -/
def feed (limit : Nat) : List UInt8 → Framing → Framing × List Frame
  | [], f => (f, [])
  | b :: bytes, f =>
    let p := pass limit (b :: bytes) f
    let after := feed limit p.rest p.framing
    (after.1, p.frame.toList ++ after.2)
termination_by bytes f => 2 * bytes.length + f.patience
decreasing_by exact pass_decreases limit (List.cons_ne_nil b bytes) f

/-- Takes the bytes of several reads. -/
def feedAll (limit : Nat) : List (List UInt8) → Framing → Framing × List Frame
  | [], f => (f, [])
  | bytes :: rest, f =>
    let first := feed limit bytes f
    let after := feedAll limit rest first.1
    (after.1, first.2 ++ after.2)

/-- What is left when the client has sent everything. -/
def finish : Framing → List Frame
  | .discarding => [.oversized]
  | .inside [] => []
  | .inside reversed => [.line reversed.reverse]

end Framing

/-- The frames in what a client sends, read by read. With a limit of zero nothing is read. -/
def framesOf (limit : Nat) (reads : List (List UInt8)) : List Frame :=
  if limit = 0 then []
  else
    let found := Framing.feedAll limit reads .start
    found.2 ++ found.1.finish

namespace Connection

/-- The line that reports success. -/
def successLine (data : Json) : String :=
  (Json.object [("data", data.sorted), ("status", .string "success")]).text

/-- The line that reports an error. -/
def errorLine (message : String) : String :=
  (Json.object [("message", .string message), ("status", .string "error")]).text

/-- The line that reports a request that is too long. -/
def oversizedLine (settings : ServerSettings) : String :=
  errorLine ("Request exceeds " ++ toString settings.requestLimit ++ " bytes")

/-- The request in a line: its text without white space around. -/
def requestText (bytes : List UInt8) : List Char := trimBoth (Utf8.decodeLenient bytes)

/-- The answer to a line that is neither too long nor blank. -/
def answerTo (settings : ServerSettings) (text : List Char) : String :=
  match processCommand settings text with
  | .ok data => successLine data
  | .error e => errorLine e.message

/-- The answers to frames, up to the one that shuts down the server, and whether there was such. -/
def answers (settings : ServerSettings) : List Frame → List String × Bool
  | [] => ([], false)
  | .oversized :: rest =>
    let (lines, ended) := answers settings rest
    (oversizedLine settings :: lines, ended)
  | .line bytes :: rest =>
    let text := requestText bytes
    if text.isEmpty then answers settings rest
    else if isShutdown text then ([answerTo settings text], true)
    else
      let (lines, ended) := answers settings rest
      (answerTo settings text :: lines, ended)

/-- The lines that a server answers to what a client sends, and whether they shut it down. -/
def converse (settings : ServerSettings) (reads : List (List UInt8)) : List String × Bool :=
  answers settings (framesOf settings.requestLimit reads)

/-- The bytes in which a line is sent. -/
def lineBytes (line : String) : List UInt8 := Utf8.encode line ++ [lineFeed]

/-- The bytes that a server writes when a client sends these. -/
def written (settings : ServerSettings) (reads : List (List UInt8)) : List UInt8 :=
  (converse settings reads).1.flatMap lineBytes

end Connection

end ScriptOutline
