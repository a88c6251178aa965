import RemoteShell.Job
import RemoteShell.Shell.Worker

/-!
# Running commands

A process is a job whose program is a worker that runs a command on a host.
-/

namespace RemoteShell

open Shell (Worker Session Connector)

/-- The exit code that a call of a session ends with. -/
def Shell.Result.exitCode (r : Shell.Result) : Except Failure Int :=
  r.bind fun returned =>
    match returned with
    | .code n => .ok n
    | _ => .error .notFinished

instance {σ : Type} [Connector σ] : Program (Worker σ) where
  pipe := Worker.pipe
  setPipe := Worker.setPipe
  now := Worker.now
  setNow w time := { w with now := time }
  step := Worker.step
  result? w := w.result?.map Shell.Result.exitCode

/-- A running command. -/
abbrev RemoteProcess (σ : Type) := Job (Worker σ)

/-- Start a command. -/
def RemoteProcess.start {σ : Type} [Connector σ] (connector : σ) (deadline : Option Duration)
    (capacity : Nat) (endpoint command : String) : RemoteProcess σ :=
  .ofProgram (.start connector deadline (.ofCapacity capacity) (.ofCapacity capacity)
    (.unopened endpoint) (.execute command))

end RemoteShell
