/-!
# Cutting texts

The parts into which the occurrences of a mark divide a text.
-/

namespace ScriptOutline

/-- Cuts a text at every occurrence of a mark. -/
def cutAt (mark : Char) : List Char → List (List Char)
  | [] => [[]]
  | c :: rest =>
    if c = mark then [] :: cutAt mark rest
    else match cutAt mark rest with
      | part :: parts => (c :: part) :: parts
      | [] => [[c]]

end ScriptOutline
