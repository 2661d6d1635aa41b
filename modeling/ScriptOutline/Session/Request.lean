import ScriptOutline.Json.Reader
import ScriptOutline.Session.Shape

/-!
# Requests

A request is a JSON object with a command and, if need be, its parameters, or an array of the two.
It is read from its text in one go: of two things that are wrong with it, the first one in the text
is reported, with the place up to which the text was read.
-/

namespace ScriptOutline

/-- A request. -/
structure Request where
  command : String
  params : Option Json

namespace Request

/-- Why a text is no request. -/
inductive Fault where
  /-- It is no JSON. -/
  | text (fault : JsonFault)
  /-- It has another shape. -/
  | shape (fault : ShapeFault)

/-- The wording of a fault. -/
def Fault.message : Fault → String
  | .text fault => fault.message
  | .shape fault => fault.message

/-- A fault, the text that was left when it was noticed, and how many bytes beyond that count as
read. -/
structure Failure where
  fault : Fault
  rest : List Char
  extra : Nat := 0

/-- A failure of the JSON reader. -/
def Failure.ofJson (f : JsonFailure) : Failure := ⟨.text f.fault, f.rest, f.extra⟩

/-- The message with its place in the text. -/
def Failure.message (f : Failure) (text : List Char) : String :=
  let read := TextPosition.byteCount text - TextPosition.byteCount f.rest + f.extra
  f.fault.message ++ (TextPosition.after text read).suffix

/-- A step of the JSON reader. -/
def step {α : Type} (r : Except JsonFailure (α × List Char)) :
    Except Failure (α × List Char) :=
  match r with
  | .ok x => .ok x
  | .error f => .error (.ofJson f)

/-- Refuses the value that starts here, because another kind was expected. Of arrays and objects
nothing is read. -/
def refuseKind {α : Type} (expected : String) (cs : List Char) :
    Except Failure (α × List Char) :=
  let refuse (found : Json) (rest : List Char) : Except Failure (α × List Char) :=
    .error { fault := .shape (.wrongKind found expected), rest }
  match cs with
  | '[' :: _ => refuse (.array []) cs
  | '{' :: _ => refuse (.object []) cs
  | _ =>
    match Json.value .value (Json.stepsFor cs) Json.depthLimit cs with
    | .ok (found, rest) => refuse found rest
    | .error f => .error (.ofJson f)

/-- Reads the command, which is a string. -/
def commandAt (cs : List Char) : Except Failure (String × List Char) :=
  match Json.skipBlanks cs with
  | [] => .error { fault := .text .eofValue, rest := [] }
  | '"' :: rest => step (Json.stringBody .value (rest.length + 1) [] rest)
  | rest => refuseKind "a string" rest

/-- Reads the parameters; `null` is none. -/
def paramsAt (cs : List Char) : Except Failure (Option Json × List Char) := do
  let (v, rest) ← step (Json.value .value (Json.stepsFor cs) (Json.depthLimit - 1) cs)
  match v with
  | .null => return (none, rest)
  | v => return (some v, rest)

/-- Passes over the value of a member that is not asked for. -/
def skipAt (cs : List Char) : Except Failure (Unit × List Char) := do
  let (_, rest) ← step (Json.value .skip (Json.stepsFor cs) (Json.depthLimit - 1) cs)
  return ((), rest)

/-- What was read of an object. -/
structure Draft where
  command : Option String := none
  params : Option (Option Json) := none

/-- Refuses a member that was there before. The blanks after its name count as read. -/
def refuseDuplicate {α : Type} (field : String) (rest : List Char) :
    Except Failure (α × List Char) :=
  .error { fault := .shape (.duplicate field), rest := Json.skipBlanks rest }

/-- Reads the members of an object after its brace or after a member. -/
def membersAt : Nat → Bool → Draft → List Char → Except Failure (Request × List Char)
  | 0, _, _, cs => .error { fault := .text .tooDeep, rest := cs }
  | fuel + 1, first, draft, cs => do
    let (more, rest) ← step (Json.nextKey .value first cs)
    if more then
      let (key, rest) ← step (Json.stringBody .value (rest.length + 1) [] rest)
      if key == "command" then
        if draft.command.isSome then refuseDuplicate key rest
        else
          let ((), rest) ← step (Json.colon rest)
          let (command, rest) ← commandAt rest
          membersAt fuel false { draft with command := some command } rest
      else if key == "params" then
        if draft.params.isSome then refuseDuplicate key rest
        else
          let ((), rest) ← step (Json.colon rest)
          let (params, rest) ← paramsAt rest
          membersAt fuel false { draft with params := some params } rest
      else
        let ((), rest) ← step (Json.colon rest)
        let ((), rest) ← skipAt rest
        membersAt fuel false draft rest
    else
      match draft.command with
      | some command => return (⟨command, draft.params.getD none⟩, rest)
      | none => .error { fault := .shape (.missing "command"), rest }

/-- What an array that stands for a request should be. -/
def arrayExpectation : String := "struct CommandReq with 2 elements"

/-- Takes the bracket that closes an array after its last item. -/
def closeArray (cs : List Char) : Except Failure (Unit × List Char) :=
  let refuse (fault : JsonFault) (rest : List Char) : Except Failure (Unit × List Char) :=
    .error { fault := .text fault, rest, extra := if rest.isEmpty then 0 else 1 }
  match Json.skipBlanks cs with
  | ']' :: rest => .ok ((), rest)
  | ',' :: rest =>
    match Json.skipBlanks rest with
    | ']' :: more => refuse .trailingComma (']' :: more)
    | more => refuse .trailingCharacters more
  | [] => refuse .eofList []
  | rest => refuse .trailingCharacters rest

/-- Reads the two items of an array after its bracket. -/
def itemsAt (cs : List Char) : Except Failure (Request × List Char) := do
  let refuseLength (n : Nat) (rest : List Char) : Except Failure (Request × List Char) :=
    .error { fault := .shape (.wrongLength n arrayExpectation), rest }
  let (more, rest) ← step (Json.nextItem .value true cs)
  if more then
    let (command, rest) ← commandAt rest
    let (more, rest) ← step (Json.nextItem .value false rest)
    if more then
      let (params, rest) ← paramsAt rest
      let ((), rest) ← closeArray rest
      return (⟨command, params⟩, rest)
    else refuseLength 1 rest
  else refuseLength 0 rest

/-- Reads a text as a request. -/
def parse (text : List Char) : Except Failure Request := do
  let (request, rest) ←
    match Json.skipBlanks text with
    | [] => .error { fault := .text .eofValue, rest := [] }
    | '{' :: rest => membersAt (rest.length + 1) true {} rest
    | '[' :: rest => itemsAt rest
    | rest => refuseKind "struct CommandReq" rest
  match Json.atEnd rest with
  | .ok () => return request
  | .error f => .error (.ofJson f)

end Request

end ScriptOutline
