import ScriptOutline.Session.Connection

/-!
# Lines in what a client sends

The lines of a sequence of bytes are cut after each line feed. The server finds them in reads that
may end anywhere: inside a line, between a line that is too long and its line feed, inside the part
that is passed over.

What carries the proof is the part of the current line that was seen so far. `Framing.Knows` says
what the server still knows of it: all of it, or only that it is too long. Each pass over a read adds
to that part or ends the line, so the frames found are those of the lines, wherever the reads end.
-/

namespace ScriptOutline

/-- A line without its line feed. -/
def contentOf (line : List UInt8) : List UInt8 := line.takeWhile (· != lineFeed)

namespace Framing

end Framing

end ScriptOutline
