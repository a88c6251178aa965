import RemoteShell.Pipe
import RemoteShell.Shell.Connector
import RemoteShell.Shell.Session

/-!
# Sessions on a clock

A worker drives one call of a session with a connector, a clock in milliseconds and two output pipes.
Time goes on only by waiting.  `Worker.step` makes the next thing happen that can happen until a given
time: the rest of some output is written, an answer comes, or the deadline strikes.  Everything that can
happen up to the deadline happens first.
-/

namespace RemoteShell.Shell

open Soap (Request)
open Xml (Document)

/-- What a worker does. -/
inductive Doing where
  /-- An answer is on its way; `none` if it never comes. -/
  | waiting (work : Work) (reception : Reception)
  /-- Some bytes have not been written yet. -/
  | writing (work : Work) (stream : Stream) (rest : List UInt8)
  | finished (session : Session) (result : Result)

/-- A call of a session that is driven on a clock. -/
structure Worker (σ : Type) where
  connector : σ
  /-- How long receiving may take. -/
  deadline : Option Duration
  /-- When the deadline strikes, while output is received. -/
  expires : Option Nat
  stdout : Pipe
  stderr : Pipe
  now : Nat
  doing : Doing

namespace Worker

variable {σ : Type}

/-- The pipe of a stream. -/
def pipe (w : Worker σ) : Stream → Pipe
  | .stdout => w.stdout
  | .stderr => w.stderr

/-- The worker with another pipe for a stream. -/
def setPipe (w : Worker σ) (p : Pipe) : Stream → Worker σ
  | .stdout => { w with stdout := p }
  | .stderr => { w with stderr := p }

/-- The session as it is. -/
def session (w : Worker σ) : Session :=
  match w.doing with
  | .waiting work _ => work.session
  | .writing work _ _ => work.session
  | .finished s _ => s

/-- The result of the call, if it has finished. -/
def result? (w : Worker σ) : Option Result :=
  match w.doing with
  | .finished _ r => some r
  | _ => none

/-- When the deadline strikes for a call that goes on like this: it is set when receiving begins. -/
def nextExpiry (w : Worker σ) (work : Work) : Option Nat :=
  if work.isReceiving then w.expires <|> w.deadline.map (w.now + ·.millisUp) else none

/-- Go on with a call: send its request, or begin to write its bytes. -/
def proceed [Connector σ] (w : Worker σ) : Progress → Worker σ
  | .finished s r => { w with expires := none, doing := .finished s r }
  | .busy work =>
    let expires := w.nextExpiry work
    match work.demand with
    | .answer request =>
      let (reception, connector) := Connector.send w.connector request
      let due := reception.map fun (delay, answer) => (w.now + delay, answer)
      { w with connector, expires, doing := .waiting work due }
    | .room stream bytes =>
      let (p, rest) := (w.pipe stream).append bytes
      { w.setPipe p stream with expires, doing := .writing work stream rest }

/-- Begin a call of a session. -/
def start [Connector σ] (connector : σ) (deadline : Option Duration) (stdout stderr : Pipe)
    (session : Session) (call : Call) : Worker σ :=
  proceed ⟨connector, deadline, none, stdout, stderr, 0, .finished session (.ok .nothing)⟩
    (session.begin call)

/-- The deadline strikes, if it does so until a given time. -/
def expire [Connector σ] (w : Worker σ) (limit : Nat) (work : Work) : Option (Worker σ) :=
  match w.expires, w.deadline with
  | some due, some deadline =>
    if due ≤ limit then some (proceed { w with now := max w.now due } (work.expired deadline))
    else none
  | _, _ => none

/-- The next thing that happens until a given time. -/
def step [Connector σ] (w : Worker σ) (limit : Nat) : Option (Worker σ) :=
  match w.doing with
  | .finished _ _ => none
  | .writing work stream rest =>
    if (w.pipe stream).isStuck rest then w.expire limit work
    else
      let (p, rest') := (w.pipe stream).offer rest
      let w' := w.setPipe p stream
      some (if rest'.isEmpty then w'.proceed work.written
        else { w' with doing := .writing work stream rest' })
  | .waiting work none => w.expire limit work
  | .waiting work (some (due, answer)) =>
    if w.expires.all (due ≤ ·) then
      if due ≤ limit then
        some (proceed { w with now := max w.now due } (work.answered answer))
      else none
    else w.expire limit work

/-- Everything that happens until a given time. -/
def advance [Connector σ] (limit : Nat) : Nat → Worker σ → Worker σ
  | 0, w => w
  | fuel + 1, w =>
    match w.step limit with
    | none => if w.result?.isSome then w else { w with now := max w.now limit }
    | some w' => advance limit fuel w'

end Worker

end RemoteShell.Shell
