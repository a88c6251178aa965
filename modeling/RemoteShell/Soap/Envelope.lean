import RemoteShell.Duration
import RemoteShell.Soap.MessageId
import RemoteShell.Soap.Vocabulary
import RemoteShell.Xml.Escape

/-!
# Request documents

`Envelope.build` writes a request: a header with the addressing and management fields, and one of
five bodies.  All texts that come from outside are escaped, so they can neither end an element nor
open one.  `Envelope.identify` is the request that asks an endpoint what it is; it needs no header.
-/

namespace RemoteShell.Soap

/-- What every request to one endpoint repeats. -/
structure Parameters where
  /-- The URL of the endpoint. -/
  endpoint : String
  /-- The largest answer accepted, in bytes. -/
  maxEnvelopeSize : Nat
  locale : String
  /-- How long the server may hold a request open. -/
  operationTimeout : String
  /-- The code page that a shell is asked to print in. -/
  codepage : Nat
  deriving DecidableEq, Repr

/-- Options of a request, in order. -/
abbrev Options := List (String × String)

namespace Options

/-- The options of a request for a shell. -/
def openShell (codepage : Nat) : Options :=
  [("WINRS_NOPROFILE", "FALSE"), ("WINRS_CODEPAGE", toString codepage)]

/-- The options of a request to start a command. -/
def runCommand : Options :=
  [("WINRS_CONSOLEMODE_STDIN", "TRUE"), ("WINRS_SKIP_CMD_SHELL", "FALSE")]

end Options

/-- What the body of a request holds. -/
inductive Body where
  /-- The names of the streams of a new shell. -/
  | shell (input output : String)
  /-- The command to start. -/
  | commandLine (text : String)
  /-- The command whose output is asked for. -/
  | receive (commandId : String)
  /-- The command to terminate. -/
  | signal (commandId : String)
  | empty
  deriving DecidableEq, Repr

/-- A request document. -/
structure Envelope where
  /-- What is asked for; an identification request has no action. -/
  action : Option Action
  messageId : String
  xml : String
  deriving DecidableEq, Repr

open Xml (escape)

/-- A text between the tags of an element without attributes. -/
def enclose (name content : String) : String :=
  "<" ++ name ++ ">" ++ content ++ "</" ++ name ++ ">"

/-- A text in an element that the receiver has to understand. -/
def encloseMandatory (name content : String) : String :=
  "<" ++ name ++ " s:mustUnderstand=\"true\">" ++ content ++ "</" ++ name ++ ">"

/-- An empty element that carries the locale. -/
def localeElement (name locale : String) : String :=
  "<" ++ name ++ " xml:lang=\"" ++ escape locale ++ "\" s:mustUnderstand=\"false\"/>"

/-- The body element. -/
def Body.render : Body → String
  | shell input output =>
    enclose "s:Body" (enclose "rsp:Shell"
      (enclose "rsp:InputStreams" (escape input) ++ enclose "rsp:OutputStreams" (escape output)))
  | commandLine text =>
    enclose "s:Body" (enclose "rsp:CommandLine" (enclose "rsp:Command" (escape text)))
  | receive commandId =>
    enclose "s:Body" (enclose "rsp:Receive"
      ("<rsp:DesiredStream CommandId=\"" ++ escape commandId ++
        "\">stdout stderr</rsp:DesiredStream>"))
  | signal commandId =>
    enclose "s:Body" ("<rsp:Signal CommandId=\"" ++ escape commandId ++ "\">" ++
      enclose "rsp:Code" terminateSignal ++ "</rsp:Signal>")
  | empty => "<s:Body/>"

/-- The selector that names the shell a request is for. -/
def selectorElement (shellId : String) : String :=
  enclose "w:SelectorSet"
    ("<w:Selector Name=\"ShellId\">" ++ escape shellId ++ "</w:Selector>")

/-- One option. -/
def optionElement (name value : String) : String :=
  "<w:Option Name=\"" ++ escape name ++ "\">" ++ escape value ++ "</w:Option>"

/-- The options of a request. -/
def optionsElement (options : Options) : String :=
  enclose "w:OptionSet" (String.join (options.map fun o => optionElement o.1 o.2))

/-- The declaration in front of every document. -/
def declaration : String := "<?xml version=\"1.0\" encoding=\"UTF-8\"?>\n"

namespace Envelope

/-- The fields of the header. -/
def header (p : Parameters) (id : String) (action : Action) (shellId : Option String)
    (options : Option Options) : String :=
  enclose "a:To" (escape p.endpoint) ++
  enclose "a:ReplyTo" (encloseMandatory "a:Address" anonymousAddress) ++
  encloseMandatory "w:MaxEnvelopeSize" (toString p.maxEnvelopeSize) ++
  enclose "a:MessageID" id ++
  localeElement "w:Locale" p.locale ++
  localeElement "p:DataLocale" p.locale ++
  enclose "w:OperationTimeout" (escape p.operationTimeout) ++
  encloseMandatory "a:Action" action.uri ++
  (shellId.map selectorElement).getD "" ++
  encloseMandatory "w:ResourceURI" shellResource ++
  (options.map optionsElement).getD ""

/-- A request document.  It names a shell or holds options only if it is given them. -/
def build (p : Parameters) (id : String) (action : Action) (shellId : Option String)
    (options : Option Options) (body : Body) : Envelope where
  action := some action
  messageId := id
  xml :=
    declaration ++
    "<s:Envelope xmlns:s=\"" ++ soapUri ++ "\" xmlns:a=\"" ++ addressingUri ++
    "\" xmlns:w=\"" ++ managementUri ++ "\" xmlns:p=\"" ++ windowsUri ++
    "\" xmlns:rsp=\"" ++ shellUri ++ "\">" ++
    enclose "s:Header" (header p id action shellId options) ++ body.render ++ "</s:Envelope>"

/-- The request for identification. -/
def identify (id : String) : Envelope where
  action := none
  messageId := id
  xml :=
    declaration ++
    "<s:Envelope xmlns:s=\"" ++ soapUri ++ "\" xmlns:wsmid=\"" ++ identityUri ++
    "\"><s:Header/><s:Body><wsmid:Identify/></s:Body></s:Envelope>"

end Envelope

/-- The command line as a request holds it: in double quotes, which are added unless a quote stands
at both ends already. -/
def quoteCommand (command : String) : String :=
  let cs := command.toList
  if cs.head? = some '"' && cs.getLast? = some '"' then command else "\"" ++ command ++ "\""

/-- The requests of a session. -/
inductive Request where
  | create
  | command (shellId line : String)
  | receive (shellId commandId : String)
  | signal (shellId commandId : String)
  | delete (shellId : String)
  | identify
  deriving DecidableEq, Repr

namespace Request

/-- What a request asks for. -/
def action : Request → Option Action
  | create => some .create
  | command .. => some .command
  | receive .. => some .receive
  | signal .. => some .signal
  | delete _ => some .delete
  | identify => none

/-- The document of a request. -/
def envelope (p : Parameters) (id : String) : Request → Envelope
  | create =>
    .build p id .create none (some (Options.openShell p.codepage)) (.shell "stdin" "stdout stderr")
  | command shellId line =>
    .build p id .command (some shellId) (some Options.runCommand) (.commandLine (quoteCommand line))
  | receive shellId commandId => .build p id .receive (some shellId) none (.receive commandId)
  | signal shellId commandId => .build p id .signal (some shellId) none (.signal commandId)
  | delete shellId => .build p id .delete (some shellId) none .empty
  | identify => .identify id

end Request

end RemoteShell.Soap
