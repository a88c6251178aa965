import RemoteShell.Base64
import RemoteShell.Text.Utf16

/-!
# Commands and their results

`CommandOptions.line` puts what a command needs in front of it: the change of directory, then the
variables in the order of their names.  `powershellCommand` wraps a script so that no character of it
can have a meaning on the way.
-/

namespace RemoteShell

/-- What a command left behind. -/
structure CommandResult where
  exitCode : Int
  stdout : String
  stderr : String
  success : Bool
  deriving DecidableEq, Repr

namespace CommandResult

/-- The result of a command that succeeded. -/
def succeeded (stdout stderr : String) : CommandResult := ⟨0, stdout, stderr, true⟩

/-- The result of a command that failed. -/
def failed (exitCode : Int) (stdout stderr : String) : CommandResult :=
  ⟨exitCode, stdout, stderr, false⟩

/-- The result of a command that ended with an exit code: it succeeded if that is zero. -/
def ofExitCode (exitCode : Int) (stdout stderr : String) : CommandResult :=
  if exitCode = 0 then succeeded stdout stderr else failed exitCode stdout stderr

/-- Both outputs as one text, with a line break between them if neither is empty. -/
def combined (r : CommandResult) : String :=
  if r.stderr = "" then r.stdout
  else if r.stdout = "" then r.stderr
  else r.stdout ++ "\n" ++ r.stderr

end CommandResult

/-- How a command is to be run. -/
structure CommandOptions where
  directory : Option String
  /-- The variables to set, each name once. -/
  environment : List (String × String)
  /-- Seconds after which polling stops. -/
  timeout : Option UInt64
  deriving DecidableEq, Repr

namespace CommandOptions

/-- No wishes. -/
def unset : CommandOptions := ⟨none, [], none⟩

/-- Set a variable; a value it has already is replaced. -/
def setVariable (o : CommandOptions) (name value : String) : CommandOptions :=
  { o with environment := o.environment.filter (·.1 ≠ name) ++ [(name, value)] }

/-- Put an entry into a list that is sorted by name. -/
def insertSorted (entry : String × String) : List (String × String) → List (String × String)
  | [] => [entry]
  | e :: rest => if entry.1 < e.1 then entry :: e :: rest else e :: insertSorted entry rest

/-- The variables in the order of their names. -/
def sorted (o : CommandOptions) : List (String × String) :=
  o.environment.foldr insertSorted []

/-- The part of a command line that sets one variable. -/
def assignment (entry : String × String) : String :=
  "set " ++ entry.1 ++ "=" ++ entry.2 ++ "&& "

/-- The part of a command line that changes the directory. -/
def changeDirectory (directory : String) : String :=
  "cd /d \"" ++ directory ++ "\" && "

/-- The command line that runs a command as wished. -/
def line (o : CommandOptions) (command : String) : String :=
  (o.directory.map changeDirectory).getD "" ++ String.join (o.sorted.map assignment) ++ command

end CommandOptions

/-- The command line that runs a PowerShell script. -/
def powershellCommand (script : String) : String :=
  "powershell.exe -NoProfile -NonInteractive -EncodedCommand " ++
    Base64.encode (Utf16.encodeLittle script)

end RemoteShell
