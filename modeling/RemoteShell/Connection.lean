import RemoteShell.Certificate
import RemoteShell.Command
import RemoteShell.Http.Exchange
import RemoteShell.RemoteProcess
import RemoteShell.Target

/-!
# Connections

A connection is a target that has been checked.  Making one sends nothing; every command gets a session
of its own, and so does every identification.

A `Link` is the connection together with what happens to it: the network, the requests that were
posted, and the calls of the login mechanism.
-/

namespace RemoteShell

open Http (Message Network Poster)

/-- A target that has been checked. -/
structure Connection where
  target : Target
  /-- The login mechanism that every session starts with, if there is one. -/
  mechanism : Option Mechanism

namespace Connection

/-- Check the certificate that is to be trusted in addition.  If no client can be built with it, the failure says
so, without the colon and the client's own words that would follow. -/
def checkTrust (s : Surroundings) (t : Target) : Except Failure Unit :=
  match t.protocol, t.caCert with
  | .https, some path =>
    match s.read path with
    | .error f =>
      .error (.badSetting ("Failed to read CA cert '" ++ path ++ "': " ++ f.message))
    | .ok file =>
      if Certificate.areUsable file then .ok ()
      else .error (.badSetting "Failed to build HTTP client")
  | _, _ => .ok ()

/-- The connection to a target. -/
def ofTarget (s : Surroundings) (t : Target) : Except Failure Connection := do
  t.validate
  checkTrust s t
  return ⟨t, none⟩

/-- What a connection is known by to its user. -/
def identifier (c : Connection) : String := c.target.host

/-- The generator of authorization values for a new session, and the calls that this takes. -/
def generator (s : Surroundings) (c : Connection) :
    Except Failure Generator × List LoginCall :=
  match c.target.credentials with
  | .basic username password => (.ok (.ofPassword username password), [])
  | .token token => (.ok (.static token), [])
  | .kerberos username password settings =>
    match settings.check s with
    | .error e => (.error e, [])
    | .ok _ =>
      match c.mechanism with
      | none => (.error (.unsupported "Kerberos authentication requires a GSS provider"), [])
      | some m =>
        (.ok (.negotiate (.start username password c.target.host c.target.port settings m)),
          [.provider])

end Connection

/-- What a host says of itself. -/
structure Identity where
  protocolVersion : String
  productVendor : String
  productVersion : String
  deriving DecidableEq, Repr

/-- The identity in a response; what the response does not say is empty. -/
def Identity.ofResponse (d : Xml.Document) : Identity :=
  let text := fun (name : String) =>
    match (Soap.Response.named d Soap.identityUri name).head? with
    | some e => Text.trim e.text
    | none => ""
  ⟨text "ProtocolVersion", text "ProductVendor", text "ProductVersion"⟩

/-- A connection in use. -/
structure Link where
  surroundings : Surroundings
  connection : Connection
  network : Network
  /-- The bits of the next message identifier. -/
  nextId : Nat
  /-- The requests that the client was given, in order. -/
  posted : List Message
  /-- The calls of the login mechanism, in order. -/
  calls : List LoginCall

namespace Link

/-- A connection that has not been used; message identifiers are counted from `nextId`. -/
def start (s : Surroundings) (c : Connection) (n : Network) (nextId : Nat) : Link :=
  ⟨s, c, n, nextId, [], []⟩

/-- The poster of a new session. -/
def poster (l : Link) : Except Failure Poster × Link :=
  let (generator, calls) := l.connection.generator l.surroundings
  let l := { l with calls := l.calls ++ calls }
  (generator.map fun g =>
    .start l.surroundings l.connection.target.parameters g l.network l.nextId, l)

/-- Take over what a poster has done. -/
def finish (l : Link) (p : Poster) : Link :=
  { l with
    network := p.network, nextId := p.nextId, posted := l.posted ++ p.posted.reverse,
    calls := l.calls ++ p.calls }

/-- Ask the host what it is. -/
def identify (l : Link) : Except Failure Identity × Link :=
  match l.poster with
  | (.error e, l) => (.error e, l)
  | (.ok p, l) =>
    let (_, answer, p) := p.post (.identify (Soap.MessageId.ofBits p.nextId))
    (answer.map .ofResponse, l.finish p)

/-- The deadline of a command: its own timeout, or else the one of the target. -/
def deadline (l : Link) (o : CommandOptions) : Option Duration :=
  (o.timeout.map fun seconds => .ofParts seconds.toNat 0) <|> l.connection.target.receiveDeadline

/-- A number of steps that a session with the given replies cannot exceed. -/
def steps (n : Network) : Nat :=
  (n.map fun a => match a.reply with
    | .whole _ body => 2 * body.length + 8
    | _ => 8).foldr (· + ·) 64

/-- Start a command. -/
def startProcess (l : Link) (command : String) (o : CommandOptions) :
    Except Failure (RemoteProcess Poster) × Link :=
  let (poster, l) := l.poster
  (poster.map fun p =>
    RemoteProcess.start p (l.deadline o) l.connection.target.pipeCapacity.toNat
      l.connection.target.endpoint (o.line command), l)

/-- Run a command to its end. -/
def execute (l : Link) (command : String) (o : CommandOptions) :
    Except Failure CommandResult × Link :=
  match l.startProcess command o with
  | (.error e, l) => (.error e, l)
  | (.ok p, l) =>
    let (result, p) := p.waitWithOutput l.network.duration (steps l.network)
    (result.getD (.error .notFinished), l.finish p.worker.connector)

/-- Run a PowerShell script to its end. -/
def executePowershell (l : Link) (script : String) : Except Failure CommandResult × Link :=
  l.execute (powershellCommand script) .unset

/-- Run some commands, one after the other. -/
def executeAll (l : Link) (o : CommandOptions) :
    List String → List (Except Failure CommandResult) × Link
  | [] => ([], l)
  | command :: rest =>
    let (result, l) := l.execute command o
    let (results, l) := l.executeAll o rest
    (result :: results, l)

/-- Whether the host answers. -/
def isAlive (l : Link) : Bool × Link :=
  let (identity, l) := l.identify
  (identity.isOk, l)

/-- Check the target again, and then whether the host answers. -/
def reconnect (l : Link) : Except Failure String × Link :=
  match Connection.ofTarget l.surroundings l.connection.target with
  | .error e => (.error e, l)
  | .ok _ =>
    let (identity, l) := l.identify
    (identity.map fun _ => l.connection.identifier, l)

end Link

end RemoteShell
