import RemoteShell.Soap.Envelope
import RemoteShell.Failure

/-!
# Connectors

A connector sends the requests of a session.  For each request it says when the answer comes, in
milliseconds, and what it is; or that no answer ever comes.

`Script` is a connector whose answers are laid down beforehand.  When they are used up, every request
fails.
-/

namespace RemoteShell.Shell

open Soap (Envelope Parameters Request)
open Xml (Document)

/-- When an answer comes and what it is; `none` if it never comes. -/
abbrev Reception := Option (Nat × Except Failure Document)

/-- A type of states of a connector. -/
class Connector (σ : Type) where
  send : σ → Request → Reception × σ

/-- What is said of a response that is no XML document. -/
def notWellFormed : String := "Response is not well-formed XML"

/-- The document of a response to a request. -/
def readResponse (request response : String) : Except Failure Document :=
  match Document.parse response with
  | .ok d => .ok d
  | .error e => .error (.transport notWellFormed request (some response) (.malformed e))

/-- What a request is answered. -/
inductive Answer where
  /-- A response, as text, after some milliseconds. -/
  | text (xml : String) (delay : Nat)
  | failure (failure : Failure) (delay : Nat)
  | silence

/-- Answers that are laid down, and the requests answered so far. -/
structure Script where
  parameters : Parameters
  answers : List Answer
  /-- The requests, last one first, with the document that was sent for each. -/
  sent : List (Request × Envelope)

namespace Script

/-- What is said when the answers are used up. -/
def exhausted : String := "script exhausted"

/-- The answer to one more request. -/
def send (s : Script) (r : Request) : Reception × Script :=
  let envelope := r.envelope s.parameters (Soap.MessageId.ofBits s.sent.length)
  let s' := { s with answers := s.answers.tail, sent := (r, envelope) :: s.sent }
  let reception := match s.answers.head? with
    | none => some (0, .error (.transport exhausted envelope.xml none .none))
    | some (.text xml delay) => some (delay, readResponse envelope.xml xml)
    | some (.failure f delay) => some (delay, .error f)
    | some .silence => none
  (reception, s')

instance : Connector Script := ⟨send⟩

/-- A number of steps that is enough to use up the answers. -/
def steps (s : Script) : Nat :=
  (s.answers.map fun a => match a with
    | .text xml _ => xml.length + 8
    | _ => 8).foldr (· + ·) 64

end Script

end RemoteShell.Shell
