import RemoteShell.Authorization
import RemoteShell.Http.Status
import RemoteShell.Shell.Connector
import RemoteShell.Soap.Response

/-!
# HTTP exchanges

Requests are posted to the endpoint one by one, each with the next authorization value.
`Http.classify` says what becomes of a reply: a document, or a failure with the request and, if it was
read, the response.

The client that sends a request and reads its response is not part of an exchange.  All that counts is
what it delivers: a status with the text of a body, a status without it, or nothing (`Reply`).  A
`Network` is what it delivers for the requests, in order, each with the time it takes; when that is used
up, nothing comes back.
-/

namespace RemoteShell.Http

open Soap (Envelope)
open Xml (Document)

/-- A request as it is posted. -/
structure Message where
  url : String
  contentType : String
  soapAction : Option String
  authorization : Option String
  body : String
  deriving DecidableEq, Repr

/-- What the client delivers for a request. -/
inductive Reply where
  /-- The request could not be sent, or no response came. -/
  | nothing
  /-- A status, and a body that could not be read. -/
  | broken (status : Nat)
  /-- A status and the text of the body. -/
  | whole (status : Nat) (body : String)
  deriving DecidableEq, Repr

/-- A reply and the milliseconds until it comes. -/
structure Arrival where
  delay : Nat
  reply : Reply
  deriving DecidableEq, Repr

/-- What the client delivers for the requests, in order. -/
abbrev Network := List Arrival

/-- The reply to the next request. -/
def Network.next (n : Network) : Arrival :=
  n.headD ⟨0, .nothing⟩

/-- The milliseconds until all replies have come. -/
def Network.duration (n : Network) : Nat :=
  n.foldr (fun a total => a.delay + total) 0

/-- The content type of every request. -/
def soapContentType : String := "application/soap+xml; charset=UTF-8"

/-- What becomes of a response that was read. -/
def classifyBody (request : String) (status : Nat) (body : String) : Except Failure Document :=
  let failed := isFailing status
  match Document.parse body with
  | .error e =>
    let detail := if failed then "HTTP " ++ statusText status else Shell.notWellFormed
    .error (.transport detail request (some body) (.malformed e))
  | .ok document =>
    if failed then
      let reason := match Soap.Response.faultReason? document with
        | some r => ": " ++ r
        | none => ""
      .error (.transport ("HTTP " ++ statusText status ++ reason) request (some body) .none)
    else .ok document

/-- What becomes of a reply to a request. -/
def classify (url request : String) : Reply → Except Failure Document
  | .nothing => .error (.transport ("HTTP request to " ++ url ++ " failed") request none .other)
  | .broken status =>
    .error (.transport ("Failed to read response body (HTTP " ++ statusText status ++ ")") request
      none .other)
  | .whole status body => classifyBody request status body

/-- What posts the requests of one session. -/
structure Poster where
  surroundings : Surroundings
  parameters : Soap.Parameters
  generator : Generator
  network : Network
  /-- The bits of the next message identifier. -/
  nextId : Nat
  /-- The requests that the client was given, last one first. -/
  posted : List Message
  /-- The calls of the login mechanism. -/
  calls : List LoginCall

namespace Poster

/-- A poster that has posted nothing. -/
def start (s : Surroundings) (parameters : Soap.Parameters) (generator : Generator) (n : Network)
    (nextId : Nat) : Poster :=
  ⟨s, parameters, generator, n, nextId, [], []⟩

/-- The URL that requests are posted to. -/
def url (p : Poster) : String :=
  p.parameters.endpoint

/-- Post a request document, unless getting an authorization value for it fails: the time that it takes,
the answer, and the poster afterwards. -/
def post (p : Poster) (envelope : Envelope) : Nat × Except Failure Document × Poster :=
  let (value, generator, calls) := p.generator.next p.surroundings
  let p := { p with generator, nextId := p.nextId + 1, calls := p.calls ++ calls }
  match value with
  | .error e => (0, .error e, p)
  | .ok authorization =>
    let message := ⟨p.url, soapContentType, envelope.action.map (·.uri), authorization, envelope.xml⟩
    let arrival := p.network.next
    (arrival.delay, classify p.url envelope.xml arrival.reply,
      { p with network := p.network.tail, posted := message :: p.posted })

instance : Shell.Connector Poster where
  send p r :=
    let (delay, answer, p) := p.post (r.envelope p.parameters (Soap.MessageId.ofBits p.nextId))
    (some (delay, answer), p)

open Text (Shown)

/-- The description of a poster. -/
def shown (p : Poster) : Shown :=
  .record "HttpConnector" [("url", .text p.url)] true

end Poster

end RemoteShell.Http
