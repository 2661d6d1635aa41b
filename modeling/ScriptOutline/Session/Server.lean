import ScriptOutline.Session.Connection

/-!
# Servers

A server listens on a port of the local machine and answers its clients one after the other, until
one of them shuts it down. Where programs cannot reach each other it does not even start.
-/

namespace ScriptOutline

/-- Whether programs on this machine can reach each other. -/
inductive Network where
  | available
  | unavailable
  deriving DecidableEq

namespace Server

/-- The address of a port. -/
def address (port : Nat) : String := "127.0.0.1:" ++ toString port

/-- What is said when a server cannot listen. -/
def bindMessage (port : Nat) : String := "Failed to bind to " ++ address port

/-- The lines that a client receives who sends these bytes. -/
def exchange (network : Network) (settings : ServerSettings) (bytes : List UInt8) : List String :=
  match network with
  | .available => (Connection.converse settings [bytes]).1
  | .unavailable => []

/-- The answers to each client in turn, up to the one who shuts the server down. -/
def serveAll (settings : ServerSettings) : List (List UInt8) → List (List String)
  | [] => []
  | bytes :: rest =>
    match Connection.converse settings [bytes] with
    | (lines, true) => [lines]
    | (lines, false) => lines :: serveAll settings rest

/-- Serves clients, or says why it cannot. -/
def serve (network : Network) (port : Nat) (settings : ServerSettings)
    (clients : List (List UInt8)) : Except String (List (List String)) :=
  match network with
  | .available => .ok (serveAll settings clients)
  | .unavailable => .error (bindMessage port)

end Server

end ScriptOutline
