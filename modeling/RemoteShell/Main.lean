import RemoteShell.CommandLine.Report
import RemoteShell.Http.Wire
import Std.Async.DNS
import Std.Async.TCP

/-!
# The command line program

Looks at the machine, lets the library say what to do, and does it.  The library is asked again with all
replies so far, until it wants no other one.  Encrypted connections cannot be made.
-/

namespace RemoteShell.CommandLine

open Http (Arrival Destination Message Network Reply)
open Std.Async (Async)
open Std.Async.TCP.Socket (Client)

/-- The environment variables. -/
def environment : IO (List (String × String)) := do
  let bytes ← try IO.FS.readBinFile "/proc/self/environ" catch _ => pure ByteArray.empty
  return (bytes.toList.splitOn 0).filterMap fun entry => do
    let cs := (← Utf8.decode? entry).toList
    guard (cs.contains '=')
    return (String.ofList (cs.takeWhile (· ≠ '=')), String.ofList ((cs.dropWhile (· ≠ '=')).drop 1))

/-- What a path names. -/
def look (path : String) : IO (List (String × Entry)) := do
  try
    let bytes ← IO.FS.readBinFile path
    return [(path, .file bytes.toList)]
  catch
    | .inappropriateType .. => return [(path, .directory)]
    | _ => return []

/-- The surroundings with the files that matter for an invocation in view. -/
def lookAround (s : Surroundings) (i : Invocation) : IO Surroundings := do
  let files ← (i.paths s).mapM look
  return { s with files := files.flatten }

/-- Everything that comes until the other side closes. -/
partial def receive (client : Client) (soFar : ByteArray) : Async ByteArray := do
  match ← client.recv? 65536 with
  | some bytes => receive client (soFar ++ bytes)
  | none => return soFar

/-- What comes back for a request. -/
def transmit (m : Message) (d : Destination) : Async ByteArray := do
  let addresses ← Std.Async.DNS.getAddrInfo d.host (toString d.port.toNat)
  match addresses[0]? with
  | none => return ByteArray.empty
  | some address =>
    let client ← Client.mk
    match address with
    | .v4 addr => client.connect (.v4 ⟨addr, d.port⟩)
    | .v6 addr => client.connect (.v6 ⟨addr, d.port⟩)
    client.send ⟨(m.bytes d).toArray⟩
    receive client ByteArray.empty

/-- Send a request, if it can be sent. -/
def exchange (m : Message) : IO Arrival := do
  let before ← IO.monoMsNow
  let bytes ← match (Destination.ofUrl? m.url).filter fun _ => m.isSendable with
    | none => pure ByteArray.empty
    | some d => try (transmit m d).block catch _ => pure ByteArray.empty
  let after ← IO.monoMsNow
  return ⟨after - before, Reply.ofBytes bytes.toList⟩

/-- Carry an invocation out. -/
partial def carryOut (s : Surroundings) (i : Invocation) (nextId : Nat) (n : Network) :
    IO Report := do
  let (report, posted) := i.run s n nextId
  match posted[n.length]? with
  | none => return report
  | some m => carryOut s i nextId (n ++ [← exchange m])

/-- The report on a command line. -/
def answer (arguments : List String) : IO Report := do
  let s : Surroundings := ⟨← environment, []⟩
  match Invocation.read s arguments with
  | .error stop => return stop.report
  | .ok i =>
    let s ← lookAround s i
    let s ← lookAround s i
    carryOut s i (← IO.rand 0 ((1 <<< 128) - 1)) []

end RemoteShell.CommandLine

/-- The program. -/
def main (arguments : List String) : IO UInt32 := do
  let report ← RemoteShell.CommandLine.answer arguments
  let stdout ← IO.getStdout
  stdout.write ⟨report.stdout.toArray⟩
  let stderr ← IO.getStderr
  stderr.write ⟨report.stderr.toArray⟩
  return .ofNat report.status
