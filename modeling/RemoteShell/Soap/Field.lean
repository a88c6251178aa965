import RemoteShell.Soap.Vocabulary
import RemoteShell.Xml.Document

/-!
# Fields of a response

A session reads six things out of responses.  `Field.carriedBy` says which elements carry a field, by
namespace, local name and attribute value; `Field.expression` is the same query as a path.
-/

namespace RemoteShell.Soap

/-- What a session reads out of responses. -/
inductive Field where
  /-- The name that the server gave to a new shell. -/
  | shellId
  /-- The name that the server gave to a started command. -/
  | commandId
  | exitCode
  /-- Chunks of standard output, in Base64. -/
  | stdout
  /-- Chunks of standard error, in Base64. -/
  | stderr
  /-- The mark of a finished command. -/
  | commandDone
  deriving DecidableEq, Repr

namespace Field

/-- All fields. -/
def all : List Field := [shellId, commandId, exitCode, stdout, stderr, commandDone]

/-- The field's query as a path. -/
def expression : Field → String
  | shellId => "//w:Selector[@Name='ShellId'] | //rsp:ShellId"
  | commandId => "//rsp:CommandId"
  | exitCode => "//rsp:ExitCode"
  | stdout => "//rsp:Stream[@Name='stdout']"
  | stderr => "//rsp:Stream[@Name='stderr']"
  | commandDone => "//rsp:CommandState[@State='" ++ Soap.commandDone ++ "']"

/-- Whether an element carries the field. -/
def carriedBy (f : Field) (e : Xml.Element) : Bool :=
  match f with
  | shellId =>
    (e.named managementUri "Selector" && e.attribute? "Name" == some "ShellId") ||
      e.named shellUri "ShellId"
  | commandId => e.named shellUri "CommandId"
  | exitCode => e.named shellUri "ExitCode"
  | stdout => e.named shellUri "Stream" && e.attribute? "Name" == some "stdout"
  | stderr => e.named shellUri "Stream" && e.attribute? "Name" == some "stderr"
  | commandDone => e.named shellUri "CommandState" && e.attribute? "State" == some Soap.commandDone

end Field

end RemoteShell.Soap
