import ScriptOutline.Script.Parsing.Recovery

/-!
# Reading on

A branch reads one token at a time. Before it can put the token on the stack it makes up the phrases
that the token calls for. Where the text can be read in more than one way, each further way becomes
a branch of its own.
-/

namespace ScriptOutline

namespace Script

namespace Reading

/-- Whether a branch has passed some text since its last error. -/
def hasAdvanced (r : Reading) (b : Nat) : Bool :=
  let branch := r.branch b
  (r.stack.vertex branch.vertex).cost == 0 ||
    go (r.stack.vertices.size + 1) branch.progressAtError branch.vertex
where
  /-- Looks further down the stack. -/
  go : Nat → Nat → Nat → Bool
    | 0, _, _ => false
    | fuel + 1, progress, n =>
      let v := r.stack.vertex n
      match v.edges with
      | { piece := some piece, target, .. } :: _ =>
        if piece.before.offset < piece.stop.offset then true
        else if progress < v.progress && piece.cost == 0 then go fuel progress target
        else false
      | _ => false

/-- The next token of a branch. -/
def nextToken (r : Reading) (b : Nat) : Constituent :=
  let v := r.top b
  match v.state.bind r.automaton.state? with
  | some state => .ofToken (Lexer.next state.expected (r.hasAdvanced b) v.place)
  | none => .ofToken (Lexer.anyToken (fun _ => true) v.place)

/-- What has come of the actions for a token. -/
inductive Outcome where
  /-- The branch is done with the token. -/
  | done
  /-- Phrases were made up; the number of the first branch that came of the last one. -/
  | reduced (new : Nat)
  /-- The token does not fit. -/
  | stuck

/-- Carries out actions of a branch on a token. -/
def act (b : Nat) (token : Constituent) (state : Nat) :
    List Action → Outcome → Reading → Outcome × Reading
  | [], outcome, r => (outcome, r)
  | .shift true :: rest, outcome, r => act b token state rest outcome r
  | .shift false :: _, _, r =>
    let (next, r) := r.after (some state) token.symbol
    (.done, r.push b (some token) next)
  | .extra :: _, _, r =>
    let token := { token with isExtra := true, isKeyword := false }
    (.done, r.push b (some token) (some state))
  | .accept :: _, _, r => (.done, r.accept b token)
  | .reduce production phrase count weight :: rest, outcome, r =>
    let (new, r) := r.reduce b production phrase count weight
    act b token state rest ((new.map Outcome.reduced).getD outcome) r

/-- Reads a token. A keyword that does not fit is read as a name, if a name fits. -/
def read (b : Nat) : Nat → Constituent → Reading → Reading
  | 0, _, r => r.halt b
  | fuel + 1, token, r =>
    match (r.top b).state with
    | none => r.recover b token
    | some state =>
      let (outcome, r) := act b token state (r.actions (some state) token.symbol) .stuck r
      match outcome with
      | .done => r
      | .reduced new => read b fuel token (r.replaceBranch new b)
      | .stuck =>
        let name := { token with symbol := Lexer.identifierNumber }
        if token.isKeyword && token.symbol != Lexer.identifierNumber &&
            !(r.actions (some state) Lexer.identifierNumber).isEmpty then
          read b fuel name r
        else r.modifyBranch b fun x => { x with status := .paused token }

/-- Reads the next token of a branch. Between two tokens no more phrases are made up than there are
vertices for each phrase of the grammar. -/
def advance (r : Reading) (b : Nat) : Reading :=
  let fuel := r.stack.vertices.size * r.table.phrases.size + r.table.phrases.size
  read b fuel (r.nextToken b) r

end Reading

end Script

end ScriptOutline
