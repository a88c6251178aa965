import RemoteShell.Command
import RemoteShell.Pipe
import RemoteShell.Shell.Session
import RemoteShell.Text.Utf8

/-!
# Jobs

A `Program` writes to two pipes until it ends with an exit code or a failure.  A job is a program that
runs, with its two output pipes as the caller sees them.  The caller reads the pipes while the program
runs, waits for the exit code, or destroys the job.  A destroyed job writes nothing more and does nothing
more; what is in the pipes by then can still be read.

What takes time has a limit, up to which the job's own clock may go on.  `none` as a result says that the
limit was reached first.
-/

namespace RemoteShell

open Shell (Stream)

/-- A type of states of a program that writes to two pipes. -/
class Program (τ : Type) where
  pipe : τ → Stream → Pipe
  setPipe : τ → Pipe → Stream → τ
  /-- What its clock shows. -/
  now : τ → Nat
  setNow : τ → Nat → τ
  /-- The next thing that it does until a given time. -/
  step : τ → Nat → Option τ
  /-- What it has ended with, if it has ended. -/
  result? : τ → Option (Except Failure Int)

/-- A program that runs. -/
structure Job (τ : Type) where
  worker : τ
  now : Nat
  hasStdin : Bool
  /-- Whether the result of the program has not been taken yet. -/
  isPending : Bool
  isAborted : Bool
  exitCode : Option Int

namespace Job

variable {τ : Type} [Program τ]

/-- How the program of a job has ended. -/
inductive Fate where
  | returned (result : Except Failure Int)
  | aborted

/-- How the program has ended, if it has. -/
def fate? (p : Job τ) : Option Fate :=
  match Program.result? p.worker with
  | some r => some (.returned r)
  | none => if p.isAborted then some .aborted else none

/-- Whether the program runs. -/
def isRunning (p : Job τ) : Bool :=
  p.isPending && p.fate?.isNone

/-- Close the pipe of a stream. -/
def closePipe (p : Job τ) (stream : Stream) : Job τ :=
  { p with worker := Program.setPipe p.worker (Program.pipe p.worker stream).close stream }

/-- The pipes are closed once the program has ended. -/
def settle (p : Job τ) : Job τ :=
  if p.fate?.isSome then (p.closePipe .stdout).closePipe .stderr else p

/-- Start a program. -/
def ofProgram (worker : τ) : Job τ :=
  settle ⟨worker, 0, true, true, false, none⟩

/-- The next thing that the program does until a given time. -/
def tick (p : Job τ) (limit : Nat) : Option (Job τ) :=
  if p.isAborted then none
  else
    (Program.step (Program.setNow p.worker (max (Program.now p.worker) p.now)) limit).map fun w =>
      settle { p with worker := w, now := Program.now w }

/-- Let time go on. -/
def sleepUntil (limit : Nat) : Nat → Job τ → Job τ
  | 0, p => p
  | fuel + 1, p =>
    match p.tick limit with
    | none => { p with now := max p.now limit }
    | some p' => sleepUntil limit fuel p'

/-- Take the result of a program that has ended. -/
def collect (p : Job τ) (f : Fate) : Except Failure Int × Job τ :=
  let p := { p with isPending := false }
  match f with
  | .aborted => (.error .destroyed, p)
  | .returned (.error e) => (.error e, p)
  | .returned (.ok n) => (.ok n, { p with exitCode := some n })

/-- What waiting for the exit code gives, if it gives something at once.  The exit code can be asked for
again; a failure is reported once. -/
def resolve? (p : Job τ) : Option (Except Failure Int × Job τ) :=
  match p.exitCode with
  | some n => some (.ok n, p)
  | none => if p.isPending then p.fate?.map p.collect else some (.error .destroyed, p)

/-- Wait for the exit code. -/
def wait (limit : Nat) : Nat → Job τ → Option (Except Failure Int) × Job τ
  | 0, p => (none, p)
  | fuel + 1, p =>
    match p.resolve? with
    | some (r, p) => (some r, p)
    | none =>
      match p.tick limit with
      | some p' => wait limit fuel p'
      | none => (none, { p with now := max p.now limit })

/-- Take at most some bytes out of a pipe. -/
def take (p : Job τ) (stream : Stream) (count : Nat) : List UInt8 × Job τ :=
  let (bytes, pipe) := (Program.pipe p.worker stream).take count
  (bytes, { p with worker := Program.setPipe p.worker pipe stream })

/-- Read a number of bytes from a stream. -/
def read (stream : Stream) (limit : Nat) :
    Nat → Nat → Job τ → List UInt8 × Pipe.Ending × Job τ
  | 0, _, p => ([], .blocked, p)
  | fuel + 1, count, p =>
    let (bytes, p) := p.take stream count
    let wanted := count - bytes.length
    match (Program.pipe p.worker stream).ending? wanted with
    | some ending => (bytes, ending, p)
    | none =>
      match p.tick limit with
      | some p' =>
        let (more, ending, p'') := read stream limit fuel wanted p'
        (bytes ++ more, ending, p'')
      | none => (bytes, .blocked, { p with now := max p.now limit })

/-- Take everything that is in a pipe. -/
def drain (p : Job τ) (stream : Stream) : List UInt8 × Job τ :=
  p.take stream (Program.pipe p.worker stream).buffer.length

/-- Read both streams to the end and wait for the exit code. -/
def readAll (limit : Nat) :
    Nat → Job τ → Option (List UInt8 × List UInt8 × Except Failure Int) × Job τ
  | 0, p => (none, p)
  | fuel + 1, p =>
    let (out, p) := p.drain .stdout
    let (err, p) := p.drain .stderr
    match p.fate?, p.resolve? with
    | some _, some (code, p) => (some (out, err, code), p)
    | _, _ =>
      match p.tick limit with
      | some p' =>
        let (rest, p'') := readAll limit fuel p'
        (rest.map fun (moreOut, moreErr, code) => (out ++ moreOut, err ++ moreErr, code), p'')
      | none => (none, { p with now := max p.now limit })

/-- What is made of the bytes of both streams and the exit code.  Bytes that are no text are replaced. -/
def outcome (out err : List UInt8) (code : Except Failure Int) : Except Failure CommandResult :=
  code.map fun n => .ofExitCode n (Utf8.decodeLossy out) (Utf8.decodeLossy err)

/-- Read both streams to the end and make a result of them. -/
def waitWithOutput (limit fuel : Nat) (p : Job τ) :
    Option (Except Failure CommandResult) × Job τ :=
  let (rest, p) := p.readAll limit fuel
  (rest.map fun (out, err, code) => outcome out err code, p)

/-- Stop the program, unless it has ended, and forget the standard input. -/
def destroy (p : Job τ) : Job τ :=
  let aborts := p.isPending && p.fate?.isNone
  settle { p with isAborted := p.isAborted || aborts, hasStdin := false }

/-- Stop reading a stream; the flag says whether it was read until now. -/
def dropReader (p : Job τ) (stream : Stream) : Bool × Job τ :=
  let pipe := Program.pipe p.worker stream
  (pipe.hasReader, { p with worker := Program.setPipe p.worker pipe.dropReader stream })

end Job

end RemoteShell
