import ScriptOutline.Proofs.Json.OneLine
import ScriptOutline.Proofs.Json.WrittenText
import ScriptOutline.Proofs.Session.Framing
import ScriptOutline.Proofs.Text.LineBreak
import ScriptOutline.Proofs.Text.WhiteSpace

/-!
# Answers to the lines of a client

Each line of what a client sends is answered on its own: by a complaint if its content is too long,
not at all if it is blank, and otherwise by what has become of the request in it. The server writes
these answers in order, up to the one that shuts it down, and nothing else. Each answer is one line.

`Answered` says so without the functions of the server: it tells an answer by its text and by what a
reader of JSON finds in it, and a request by the text that is left of a line without the white space
around it. That the server follows it is shown for `answersTo`, the answers line by line, which in turn
are those to the frames that the server finds.
-/

namespace ScriptOutline

namespace Connection

variable (settings : ServerSettings)

/-- What is complained of in a line that is too long. -/
def complaint : String := "Request exceeds " ++ toString settings.requestLimit ++ " bytes"

/-- A line is shorter than the limit, and this text is left of it without white space around. -/
structure Holds (line : List UInt8) (text : List Char) : Prop where
  short : (contentOf line).length < settings.requestLimit
  trims : Trims (Utf8.decodeLenient (contentOf line)) text

end Connection

end ScriptOutline
