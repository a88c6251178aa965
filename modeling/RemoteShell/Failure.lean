import RemoteShell.Duration
import RemoteShell.Soap.Field

/-!
# Failures

Everything that can go wrong between a host name and the exit code of a command on that host.
`Failure.message` is the wording.

A failure is of *configuration* when a required setting is missing or names a file that does not
exist.  Such a failure reaches the caller as it is; all others are wrapped once by the phase of the
session in which they arise.
-/

namespace RemoteShell

/-- The phases of a session, in order. -/
inductive Phase where
  | «open»
  | run
  | receive
  deriving DecidableEq, Repr

/-- The name of a phase. -/
def Phase.name : Phase → String
  | «open» => "open"
  | run => "run"
  | receive => "receive"

/-- What made the transport of a request fail, apart from the failure's own text. -/
inductive Cause where
  | none
  /-- The response is no XML document. -/
  | malformed (error : Xml.ParseError)
  | other
  deriving DecidableEq, Repr

/-- What can go wrong. -/
inductive Failure where
  /-- A required setting is absent or blank. -/
  | settingMissing (key : String)
  /-- A setting names a file that does not exist. -/
  | fileMissing (key path : String)
  /-- A request could not be sent, or its response not be read. -/
  | transport (detail request : String) (response : Option String) (cause : Cause)
  /-- A response lacks a field. -/
  | fieldMissing (field : Soap.Field) (document : String)
  /-- The content of a field is of no use. -/
  | fieldMalformed (field : Soap.Field) (reason : String)
  /-- The exit code was asked for too early. -/
  | notFinished
  /-- A phase of a session failed. -/
  | phase (phase : Phase) (target : String) (source : Failure)
  | authentication (detail : String)
  /-- A setting is invalid. -/
  | badSetting (detail : String)
  | timeout (after : Duration)
  /-- The process was destroyed before it finished. -/
  | destroyed
  | unsupported (detail : String)
  | io (detail : String)
  deriving DecidableEq, Repr

namespace Failure

/-- Whether the failure is one of configuration. -/
def isConfiguration : Failure → Bool
  | settingMissing _ => true
  | fileMissing .. => true
  | _ => false

/-- The failure in words. -/
def message : Failure → String
  | settingMissing key => "Missing configuration: '" ++ key ++ "' must be set"
  | fileMissing key path =>
    "Invalid configuration: '" ++ key ++ "' points to '" ++ path ++ "', which does not exist"
  | transport detail .. => "WinRM transport failure: " ++ detail
  | fieldMissing field document =>
    "Response element '" ++ field.expression ++ "' not found in document: " ++ document
  | fieldMalformed field reason =>
    "Malformed response element '" ++ field.expression ++ "': " ++ reason
  | notFinished => "Command has not finished; exit code is not available yet"
  | phase p target source =>
    "Failed to " ++ p.name ++ " remote command on '" ++ target ++ "': " ++ source.message
  | authentication detail => "Authentication failed: " ++ detail
  | badSetting detail => "Invalid configuration: " ++ detail
  | timeout after => "Operation timed out after " ++ after.brief
  | destroyed => "Remote process was destroyed"
  | unsupported detail => "Unsupported operation: " ++ detail
  | io detail => "IO error: " ++ detail

end Failure

end RemoteShell
