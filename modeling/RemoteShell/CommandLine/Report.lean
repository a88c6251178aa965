import RemoteShell.CommandLine.Help
import RemoteShell.CommandLine.Invocation
import RemoteShell.Connection
import RemoteShell.Settings.File

/-!
# Running a command line

`Invocation.run` carries a command line out: it reads the configuration, makes the connection and does
what is asked for.  The `Report` is what the program leaves behind: its exit status and its two outputs.
A failure before the command runs ends the program with the failure and what it was about to do.
-/

namespace RemoteShell

/-- The target of a host where some settings win over those of the table. -/
def HostTable.resolveWith (s : Surroundings) (t : HostTable) (settings : HostSettings)
    (host : String) : Except Failure Target :=
  (t.put host (settings.mergedOver (t.merged host))).resolve s host

namespace CommandLine

open Http (Message Network)

/-- What the program leaves behind. -/
structure Report where
  /-- The exit status, below 256. -/
  status : Nat
  stdout : List UInt8
  stderr : List UInt8
  deriving DecidableEq, Repr

/-- The exit status of a program that ends with a code: the low eight bits of it. -/
def exitStatus (code : Int) : Nat :=
  (code % 256).toNat

/-- The exit status after a failure. -/
def failedStatus : Nat := 1

/-- The exit status after a mistaken command line. -/
def mistakenStatus : Nat := 2

/-- The report of a command line that is not carried out. -/
def Stop.report : Stop → Report
  | mistake => ⟨mistakenStatus, [], Utf8.encode mistakeText⟩
  | help verb => ⟨0, Utf8.encode (helpText verb), []⟩
  | version verb => ⟨0, Utf8.encode (versionText verb), []⟩

/-- A failure together with what was about to be done. -/
structure Abort where
  context : String
  cause : Failure

/-- A text with every line indented. -/
def indented (text : String) : String :=
  "    " ++ String.join (text.toList.map fun c => if c = '\n' then "\n    " else String.singleton c)

/-- An abort in words. -/
def Abort.message (a : Abort) : String :=
  "Error: " ++ a.context ++ "\n\nCaused by:\n" ++ indented a.cause.message ++ "\n"

/-- Say what was about to be done, should it fail. -/
def during {α : Type} (context : String) : Except Failure α → Except Abort α
  | .ok a => .ok a
  | .error e => .error ⟨context, e⟩

/-- A line of diagnosis. -/
def errorLine (host : String) (e : Failure) : List UInt8 :=
  Utf8.encode ("ERROR: " ++ host ++ ": " ++ e.message ++ "\n")

/-- A line of information, for those who want it. -/
def infoLine (verbosity : Nat) (text : String) : List UInt8 :=
  if 0 < verbosity then Utf8.encode ("INFO: " ++ text ++ "\n") else []

/-- Lines of keys and values, with the values in one column. -/
def fieldLines (rows : List (String × String)) : String :=
  let width := (rows.map (·.1.length)).foldl max 0
  String.join (rows.map fun r =>
    r.1 ++ String.ofList (List.replicate (width - r.1.length) ' ') ++ "  " ++ r.2 ++ "\n")

/-- An identity as lines. -/
def identityLines (endpoint : String) (i : Identity) : String :=
  fieldLines
    [("Endpoint", endpoint), ("Protocol", i.protocolVersion), ("Vendor", i.productVendor),
     ("Version", i.productVersion)]

/-- An identity as a value of JSON. -/
def identityJson (i : Identity) : String :=
  "\x7b\n  \"protocol_version\": " ++ Json.quote i.protocolVersion ++
    ",\n  \"product_vendor\": " ++ Json.quote i.productVendor ++
    ",\n  \"product_version\": " ++ Json.quote i.productVersion ++ "\n\x7d\n"

namespace Invocation

/-- The command that is run on the host. -/
def command (i : Invocation) : String :=
  let line := String.intercalate " " i.words
  if i.powershell then powershellCommand line else line

/-- What is about to be done when the configuration is read. -/
def loading (i : Invocation) : String :=
  "Failed to load config" ++ (i.config.map fun p => " from " ++ p).getD ""

/-- The target of the invocation. -/
def target (s : Surroundings) (i : Invocation) : Except Abort Target := do
  let table ← during i.loading (HostTable.load s i.config)
  during ("Invalid connection settings for '" ++ i.host ++ "'")
    (table.resolveWith s i.settings i.host)

/-- Run a command. -/
def exec (i : Invocation) (l : Link) : Except Abort Report × Link :=
  match l.startProcess i.command i.options with
  | (.error e, l) => (.error ⟨"Failed to start command on " ++ i.host, e⟩, l)
  | (.ok p, l) =>
    let (output, p) := p.readAll l.network.duration (Link.steps l.network)
    let l := l.finish p.worker.connector
    let (out, err, code) := output.getD ([], [], .error .notFinished)
    match code with
    | .ok n =>
      let line := infoLine i.verbosity (i.host ++ " exited with code " ++ toString n)
      (.ok ⟨exitStatus n, out, err ++ line⟩, l)
    | .error e => (.ok ⟨failedStatus, out, err ++ errorLine i.host e⟩, l)

/-- Ask a host what it is. -/
def identify (i : Invocation) (l : Link) : Report × Link :=
  match l.identify with
  | (.error e, l) => (⟨failedStatus, [], errorLine i.host e⟩, l)
  | (.ok identity, l) =>
    let text := if i.json then identityJson identity
      else identityLines l.connection.target.endpoint identity
    (⟨0, Utf8.encode text, []⟩, l)

/-- Do what is asked for over a link. -/
def serve (i : Invocation) (l : Link) : Except Abort Report × Link :=
  match i.verb with
  | .exec => i.exec l
  | .identify =>
    let (report, l) := i.identify l
    (.ok report, l)

/-- The report with what was said before. -/
def conclude (said : List UInt8) : Except Abort Report → Report
  | .ok r => { r with stderr := said ++ r.stderr }
  | .error a => ⟨failedStatus, [], said ++ Utf8.encode a.message⟩

/-- Paths of files that matter for an invocation, as far as the files in view tell. -/
def paths (s : Surroundings) (i : Invocation) : List String :=
  let files := match i.target s with
    | .error _ => []
    | .ok t =>
      let kerberos := match t.credentials with
        | .kerberos _ _ k => k.realmFile.toList ++ k.loginFile.toList
        | _ => []
      t.caCert.toList ++ kerberos
  i.config.toList ++ (HostTable.userPath? s).toList ++ files

/-- Carry an invocation out; the second component is the requests that were posted. -/
def run (s : Surroundings) (n : Network) (nextId : Nat) (i : Invocation) :
    Report × List Message :=
  let banner := if 2 ≤ i.verbosity then programName ++ " v" ++ programVersion ++ "\n" else ""
  let said := Utf8.encode banner
  match i.target s with
  | .error a => (conclude said (.error a), [])
  | .ok t =>
    let said := said ++ infoLine i.verbosity
      ("Connecting to " ++ t.endpoint ++ " (" ++ t.credentials.scheme ++ " auth)")
    match during ("Failed to set up connection to " ++ i.host) (Connection.ofTarget s t) with
    | .error a => (conclude said (.error a), [])
    | .ok c =>
      let (report, l) := i.serve (.start s c n nextId)
      (conclude said report, l.posted)

end Invocation

end CommandLine

end RemoteShell
