/-!
# The vocabulary of WS-Management

Namespaces, resource names and actions of the requests that open a shell on a Windows host, run a
command in it, poll its output and close it.
-/

namespace RemoteShell.Soap

/-- The namespace of SOAP envelopes. -/
def soapUri : String := "http://www.w3.org/2003/05/soap-envelope"

/-- The namespace of WS-Addressing. -/
def addressingUri : String := "http://schemas.xmlsoap.org/ws/2004/08/addressing"

/-- The namespace of WS-Management. -/
def managementUri : String := "http://schemas.dmtf.org/wbem/wsman/1/wsman.xsd"

/-- The namespace of the Windows additions to WS-Management. -/
def windowsUri : String := "http://schemas.microsoft.com/wbem/wsman/1/wsman.xsd"

/-- The namespace of remote shells. -/
def shellUri : String := "http://schemas.microsoft.com/wbem/wsman/1/windows/shell"

/-- The namespace of identification requests. -/
def identityUri : String := "http://schemas.dmtf.org/wbem/wsman/identity/1/wsmanidentity.xsd"

/-- The resource that requests address: the command shell. -/
def shellResource : String := "http://schemas.microsoft.com/wbem/wsman/1/windows/shell/cmd"

/-- The address that stands for the sender itself. -/
def anonymousAddress : String := "http://schemas.xmlsoap.org/ws/2004/08/addressing/role/anonymous"

/-- The signal that ends a command. -/
def terminateSignal : String :=
  "http://schemas.microsoft.com/wbem/wsman/1/windows/shell/signal/terminate"

/-- The state of a command that has finished. -/
def commandDone : String :=
  "http://schemas.microsoft.com/wbem/wsman/1/windows/shell/CommandState/Done"

/-- What a request asks for. -/
inductive Action where
  | create
  | command
  | receive
  | signal
  | delete
  deriving DecidableEq, Repr

namespace Action

/-- The actions in the order of a session. -/
def all : List Action := [create, command, receive, signal, delete]

/-- The name of an action as servers know it. -/
def uri : Action → String
  | create => "http://schemas.xmlsoap.org/ws/2004/09/transfer/Create"
  | delete => "http://schemas.xmlsoap.org/ws/2004/09/transfer/Delete"
  | command => "http://schemas.microsoft.com/wbem/wsman/1/windows/shell/Command"
  | receive => "http://schemas.microsoft.com/wbem/wsman/1/windows/shell/Receive"
  | signal => "http://schemas.microsoft.com/wbem/wsman/1/windows/shell/Signal"

/-- The short name of an action. -/
def name : Action → String
  | create => "Create"
  | command => "Command"
  | receive => "Receive"
  | signal => "Signal"
  | delete => "Delete"

end Action

end RemoteShell.Soap
