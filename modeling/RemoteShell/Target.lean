import RemoteShell.Credentials
import RemoteShell.Fingerprint
import RemoteShell.Protocol
import RemoteShell.Soap.Envelope
import RemoteShell.Url

/-!
# Targets

A target is everything that is needed to run commands on a host: where its endpoint is, how to
authenticate, and how long to wait.  `Target.validate` checks that there is a host and that the
endpoint is a URL.

`Target.Change` is one deliberate change of a target.  A change of protocol moves the port along as
long as it is the usual one of the protocol before.
-/

namespace RemoteShell

open Text (Shown)

/-- A host with all settings. -/
structure Target where
  host : String
  port : UInt16
  protocol : Protocol
  /-- The path of the endpoint. -/
  context : String
  credentials : Credentials
  /-- Seconds that making a connection may take. -/
  timeout : UInt64
  /-- The file with a certificate that is trusted in addition, for checked HTTPS. -/
  caCert : Option String
  maxEnvelopeSize : UInt32
  operationTimeout : String
  locale : String
  codepage : UInt32
  /-- How long the output of a command is polled. -/
  receiveDeadline : Option Duration
  /-- How many bytes of output can wait to be read. -/
  pipeCapacity : UInt64
  deriving DecidableEq, Repr

namespace Target

/-- The context of an endpoint that is not told another one. -/
def defaultContext : String := "/wsman"

/-- Seconds that making a connection may take by default. -/
def defaultTimeout : UInt64 := 30

/-- The largest envelope by default. -/
def defaultEnvelopeSize : UInt32 := 153600

/-- The operation timeout by default. -/
def defaultOperationTimeout : String := "PT60.000S"

/-- The locale by default. -/
def defaultLocale : String := "en-US"

/-- The code page by default: UTF-8. -/
def defaultCodepage : UInt32 := 65001

/-- The capacity of an output pipe by default. -/
def defaultPipeCapacity : UInt64 := 65536

/-- The target for a host, with all settings at their defaults. -/
def ofHost (host : String) : Target where
  host
  port := Protocol.http.defaultPort
  protocol := .http
  context := defaultContext
  credentials := .basic "" ""
  timeout := defaultTimeout
  caCert := none
  maxEnvelopeSize := defaultEnvelopeSize
  operationTimeout := defaultOperationTimeout
  locale := defaultLocale
  codepage := defaultCodepage
  receiveDeadline := none
  pipeCapacity := defaultPipeCapacity

/-- The URL of the endpoint. -/
def endpoint (t : Target) : String :=
  let context := if t.context.toList.head? = some '/' then t.context else "/" ++ t.context
  t.protocol.scheme ++ "://" ++ t.host ++ ":" ++ toString t.port.toNat ++ context

/-- What a connection to the target is known by: the endpoint and the credentials. -/
def fingerprint (t : Target) : Fingerprint :=
  .ofTexts [t.endpoint, t.credentials.scheme, t.credentials.username, t.credentials.secret]

/-- What every request to the target repeats. -/
def parameters (t : Target) : Soap.Parameters :=
  ⟨t.endpoint, t.maxEnvelopeSize.toNat, t.locale, t.operationTimeout, t.codepage.toNat⟩

/-- Check that there is a host and that the endpoint is a URL. -/
def validate (t : Target) : Except Failure Unit :=
  if Text.isBlank t.host then .error (.settingMissing "host")
  else
    match Url.check t.endpoint with
    | .ok () => .ok ()
    | .error f =>
      .error (.badSetting ("Invalid endpoint '" ++ t.endpoint ++ "': " ++ f.message))

/-- The description of a connection to the target. -/
def shown (t : Target) : Shown :=
  .record "WinRmConnection"
    [("host", .text t.host), ("port", .word (toString t.port.toNat)),
     ("protocol", .word t.protocol.title), ("auth", t.credentials.shown)] false

/-- One change of a target. -/
inductive Change where
  | port (port : UInt16)
  | protocol (protocol : Protocol)
  | context (context : String)
  | credentials (credentials : Credentials)
  | timeout (seconds : UInt64)
  | caCert (path : String)
  | maxEnvelopeSize (bytes : UInt32)
  | operationTimeout (timeout : Duration)
  | locale (locale : String)
  | codepage (codepage : UInt32)
  | receiveDeadline (deadline : Duration)
  | pipeCapacity (bytes : UInt64)
  deriving DecidableEq, Repr

/-- Make a change. -/
def change (t : Target) : Change → Target
  | .port port => { t with port }
  | .protocol protocol =>
    let port := if t.port = t.protocol.defaultPort then protocol.defaultPort else t.port
    { t with protocol, port }
  | .context context => { t with context }
  | .credentials credentials => { t with credentials }
  | .timeout timeout => { t with timeout }
  | .caCert path => { t with caCert := some path }
  | .maxEnvelopeSize maxEnvelopeSize => { t with maxEnvelopeSize }
  | .operationTimeout timeout => { t with operationTimeout := timeout.operationTimeout }
  | .locale locale => { t with locale }
  | .codepage codepage => { t with codepage }
  | .receiveDeadline deadline => { t with receiveDeadline := some deadline }
  | .pipeCapacity pipeCapacity => { t with pipeCapacity }

/-- Make some changes, in order. -/
def changeAll (t : Target) (changes : List Change) : Target :=
  changes.foldl change t

end Target

end RemoteShell
