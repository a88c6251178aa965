import RemoteShell.Soap.Envelope
import RemoteShell.Soap.Response

/-!
# Sessions

A session opens a shell on a host, runs one command in it, polls its output until the command has
finished, and closes the shell.  `Session` is what is known of the shell; a `Work` is a call under way,
which waits either for the answer to a request or for room in an output stream (`Work.demand`).  The
functions `answered`, `written` and `expired` say how it goes on; whoever drives the session decides
what the answers are and when they come.

`execute` makes the whole way.  Once the shell is open it always ends with the termination of the
command, if that was started, and with the closing of the shell; what these two are answered does not
matter.
-/

namespace RemoteShell.Shell

open Soap (Request Field)
open Xml (Document)

/-- How far a session is. -/
inductive Stage where
  | unopened
  | shellOpen
  | commandRunning
  | commandDone
  | closed
  | failed
  deriving DecidableEq, Repr

/-- The name of a stage. -/
def Stage.name : Stage → String
  | unopened => "Unopened"
  | shellOpen => "ShellOpen"
  | commandRunning => "CommandRunning"
  | commandDone => "CommandDone"
  | closed => "Closed"
  | failed => "Failed"

/-- What is known of a shell. -/
structure Session where
  /-- The URL of the endpoint. -/
  endpoint : String
  stage : Stage
  shellId : Option String
  commandId : Option String
  exitCode : Option Int
  deriving DecidableEq, Repr

/-- What can be asked of a session. -/
inductive Call where
  | «open»
  | run (command : String)
  | receive
  /-- The whole way, from opening to closing. -/
  | execute (command : String)
  | signal
  | close
  deriving DecidableEq, Repr

/-- What a call gives. -/
inductive Returned where
  /-- The name of a shell or a command. -/
  | id (id : String)
  | code (exitCode : Int)
  | nothing
  deriving DecidableEq, Repr

/-- How a call ends. -/
abbrev Result := Except Failure Returned

/-- The two output streams. -/
inductive Stream where
  | stdout
  | stderr
  deriving DecidableEq, Repr

/-- The field that carries a stream. -/
def Stream.field : Stream → Field
  | stdout => .stdout
  | stderr => .stderr

/-- What is to be done behind the step under way. -/
inductive Plan where
  /-- Nothing. -/
  | single
  /-- The rest of `execute`. -/
  | execute (command : String)
  /-- Terminating and closing, after which this is the result. -/
  | cleanup (result : Result)

/-- What polling has to remember: the exit code of the first answer, once there is one. -/
structure Polling where
  shellId : String
  commandId : String
  polled : Bool
  early : Option Int

/-- The step under way. -/
inductive Activity where
  | opening
  | starting (shellId command : String)
  /-- A request for output is out. -/
  | polling (p : Polling)
  /-- Output of an answer is being written to a stream. -/
  | writing (p : Polling) (answer : Document) (stream : Stream) (bytes : List UInt8)
  | signalling (shellId commandId : String)
  | closing (shellId : String)

/-- A call under way. -/
structure Work where
  session : Session
  plan : Plan
  activity : Activity

/-- A call, under way or finished. -/
inductive Progress where
  | busy (work : Work)
  | finished (session : Session) (result : Result)

/-- The session of a call. -/
def Progress.session : Progress → Session
  | busy w => w.session
  | finished s _ => s

namespace Session

/-- The session before the first call. -/
def unopened (endpoint : String) : Session := ⟨endpoint, .unopened, none, none, none⟩

/-- The exit code, which is there once the command has finished. -/
def exitCodeOr (s : Session) : Except Failure Int :=
  match s.exitCode with
  | some n => .ok n
  | none => .error .notFinished

/-- Refuse an operation at any other stage than the expected one. -/
def expect (s : Session) (stage : Stage) (operation : String) : Except Failure Unit :=
  if s.stage = stage then .ok ()
  else .error (.unsupported
    ("cannot " ++ operation ++ " while the shell is " ++ s.stage.name))

/-- The name of the shell. -/
def requireShell (s : Session) : Except Failure String :=
  match s.shellId with
  | some id => .ok id
  | none => .error (.unsupported "shell is not open")

/-- The name of the command. -/
def requireCommand (s : Session) : Except Failure String :=
  match s.commandId with
  | some id => .ok id
  | none => .error (.unsupported "no command is running")

/-- The session after a failure. -/
def fail (s : Session) : Session := { s with stage := .failed }

/-- A failure as the caller sees it: failures of configuration as they are, all others with the phase
and the endpoint. -/
def wrap (s : Session) (p : Phase) (e : Failure) : Failure :=
  if e.isConfiguration then e else .phase p s.endpoint e

/-- Close the shell, if there is one.  From here on its name is forgotten. -/
def beginClose (s : Session) (plan : Plan) (result : Result) : Progress :=
  match s.shellId with
  | none => .finished s result
  | some id => .busy ⟨{ s with shellId := none }, plan, .closing id⟩

/-- Terminate the command, if there is one, and then close the shell. -/
def beginCleanup (s : Session) (result : Result) : Progress :=
  match s.shellId, s.commandId with
  | some shell, some command => .busy ⟨s, .cleanup result, .signalling shell command⟩
  | _, _ => s.beginClose (.cleanup result) result

/-- Go on behind the running of a command or the receiving of its output. -/
def conclude (s : Session) (plan : Plan) (result : Result) : Progress :=
  match plan with
  | .execute _ => s.beginCleanup result
  | _ => .finished s result

/-- Start a command in the open shell. -/
def beginRun (s : Session) (plan : Plan) (command : String) : Progress :=
  match s.expect .shellOpen "run a command" with
  | .error e => s.conclude plan (.error e)
  | .ok () =>
    match s.requireShell with
    | .error e => s.conclude plan (.error e)
    | .ok id => .busy ⟨s, plan, .starting id command⟩

/-- Poll the output of the running command. -/
def beginReceive (s : Session) (plan : Plan) : Progress :=
  let ids : Except Failure (String × String) := do
    s.expect .commandRunning "receive output"
    let shell ← s.requireShell
    let command ← s.requireCommand
    return (shell, command)
  match ids with
  | .error e => s.conclude plan (.error e)
  | .ok (shell, command) => .busy ⟨s, plan, .polling ⟨shell, command, false, none⟩⟩

/-- Open a shell. -/
def beginOpen (s : Session) (plan : Plan) : Progress :=
  match s.expect .unopened "open a shell" with
  | .error e => .finished s (.error e)
  | .ok () => .busy ⟨s, plan, .opening⟩

/-- Begin a call. -/
def begin (s : Session) : Call → Progress
  | .open => s.beginOpen .single
  | .run command => s.beginRun .single command
  | .receive => s.beginReceive .single
  | .execute command => s.beginOpen (.execute command)
  | .signal =>
    match s.shellId, s.commandId with
    | some shell, some command => .busy ⟨s, .single, .signalling shell command⟩
    | _, _ => .finished s (.ok .nothing)
  | .close => s.beginClose .single (.ok .nothing)

end Session

/-- What a call waits for. -/
inductive Demand where
  | answer (request : Request)
  | room (stream : Stream) (bytes : List UInt8)

namespace Work

/-- What the call waits for. -/
def demand (w : Work) : Demand :=
  match w.activity with
  | .opening => .answer .create
  | .starting shell command => .answer (.command shell command)
  | .polling p => .answer (.receive p.shellId p.commandId)
  | .writing _ _ stream bytes => .room stream bytes
  | .signalling shell command => .answer (.signal shell command)
  | .closing shell => .answer (.delete shell)

/-- Whether the call receives output, which a deadline can end. -/
def isReceiving (w : Work) : Bool :=
  match w.activity with
  | .polling _ => true
  | .writing .. => true
  | _ => false

/-- Receiving has failed. -/
def failReceiving (w : Work) (e : Failure) : Progress :=
  w.session.fail.conclude w.plan (.error (w.session.wrap .receive e))

/-- The output of a stream in an answer is to be written. -/
def beginWriting (w : Work) (p : Polling) (answer : Document) (stream : Stream) : Progress :=
  match Soap.Response.stream answer stream.field with
  | .error e => w.failReceiving e
  | .ok bytes => .busy { w with activity := .writing p answer stream bytes }

/-- All output of an answer has been written: poll again, unless the command has finished.  The exit
code is that of the last answer, or else that of the first one. -/
def finishAnswer (w : Work) (p : Polling) (answer : Document) : Progress :=
  let code := Soap.Response.exitCode? answer
  let early := if p.polled then p.early else code.toOption.bind id
  if Soap.Response.contains answer .commandDone then
    match code with
    | .error e => w.failReceiving e
    | .ok found =>
      match found <|> early with
      | none => w.failReceiving (.fieldMissing .exitCode answer.source)
      | some n =>
        { w.session with stage := .commandDone, exitCode := some n : Session }.conclude w.plan
          (.ok (.code n))
  else .busy { w with activity := .polling { p with polled := true, early } }

/-- The answer to the request has come. -/
def answered (w : Work) (answer : Except Failure Document) : Progress :=
  let s := w.session
  match w.activity with
  | .opening =>
    match answer.bind fun d => Soap.Response.required d .shellId with
    | .error e => .finished s.fail (.error (s.wrap .open e))
    | .ok id =>
      let s' := { s with shellId := some id, stage := .shellOpen }
      match w.plan with
      | .execute command => s'.beginRun w.plan command
      | _ => .finished s' (.ok (.id id))
  | .starting _ _ =>
    match answer.bind fun d => Soap.Response.required d .commandId with
    | .error e => s.fail.conclude w.plan (.error (s.wrap .run e))
    | .ok id =>
      let s' := { s with commandId := some id, stage := .commandRunning }
      match w.plan with
      | .execute _ => s'.beginReceive w.plan
      | _ => .finished s' (.ok (.id id))
  | .polling p =>
    match answer with
    | .error e => w.failReceiving e
    | .ok d => w.beginWriting p d .stdout
  | .writing .. => .busy w
  | .signalling _ _ =>
    match w.plan with
    | .cleanup result => s.beginClose w.plan result
    | _ => .finished s (.ok .nothing)
  | .closing _ =>
    let s' := if s.stage = .failed then s else { s with stage := .closed }
    match w.plan with
    | .cleanup result => .finished s' result
    | _ => .finished s' (.ok .nothing)

/-- The bytes have been written. -/
def written (w : Work) : Progress :=
  match w.activity with
  | .writing p d .stdout _ => w.beginWriting p d .stderr
  | .writing p d .stderr _ => w.finishAnswer p d
  | _ => .busy w

/-- The deadline for receiving has struck. -/
def expired (w : Work) (after : Duration) : Progress :=
  if w.isReceiving then w.failReceiving (.timeout after) else .busy w

end Work

open Text (Shown)

/-- The description of a session. -/
def Session.shown (s : Session) : Shown :=
  .record "WinRmShell"
    [("endpoint", .text s.endpoint), ("state", .word s.stage.name),
     ("shell_id", .option .text s.shellId), ("command_id", .option .text s.commandId),
     ("exit_code", .option (fun n => .word (toString n)) s.exitCode)] false

end RemoteShell.Shell
