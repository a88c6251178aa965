/-!
# Switches

A command line starts with switches that every command knows, goes on with the name of a command, and
ends with the arguments of that command.  A switch is written as a letter behind one hyphen or as a
word behind two; some switches take a value.
-/

namespace RemoteShell.CommandLine

/-- The commands. -/
inductive Verb where
  /-- Run a command on a host. -/
  | exec
  /-- Ask a host what it is. -/
  | identify
  deriving DecidableEq, Repr

namespace Verb

/-- All commands. -/
def all : List Verb := [exec, identify]

/-- The name of a command. -/
def name : Verb → String
  | exec => "exec"
  | identify => "identify"

end Verb

/-- The switches. -/
inductive Switch where
  | verbose
  | config
  | noColor
  | help
  | version
  | user
  | password
  | port
  | protocol
  | auth
  | caCert
  | connectTimeout
  | directory
  | environment
  | timeout
  | powershell
  | json
  deriving DecidableEq, Repr

namespace Switch

/-- The word of a switch. -/
def word : Switch → String
  | verbose => "verbose"
  | config => "config"
  | noColor => "no-color"
  | help => "help"
  | version => "version"
  | user => "user"
  | password => "password"
  | port => "port"
  | protocol => "protocol"
  | auth => "auth"
  | caCert => "ca-cert"
  | connectTimeout => "connect-timeout"
  | directory => "cwd"
  | environment => "env"
  | timeout => "timeout"
  | powershell => "powershell"
  | json => "json"

/-- The letter of a switch. -/
def letter? : Switch → Option Char
  | verbose => some 'v'
  | config => some 'c'
  | help => some 'h'
  | version => some 'V'
  | user => some 'u'
  | password => some 'p'
  | port => some 'P'
  | environment => some 'e'
  | _ => none

/-- Whether a switch takes a value. -/
def takesValue : Switch → Bool
  | verbose | noColor | help | version | powershell | json => false
  | _ => true

/-- Whether a switch may stand more than once. -/
def repeats : Switch → Bool
  | verbose | environment => true
  | _ => false

/-- The switches that stand everywhere. -/
def shared : List Switch := [verbose, config, noColor, help, version]

/-- The switches of both commands. -/
def connection : List Switch := [user, password, port, protocol, auth, caCert, connectTimeout]

/-- The switches of a command, or those in front of one. -/
def known : Option Verb → List Switch
  | none => shared
  | some .exec => shared ++ connection ++ [directory, environment, timeout, powershell]
  | some .identify => shared ++ connection ++ [json]

end Switch

/-- What an argument stands for. -/
inductive Item where
  /-- A switch without a value. -/
  | flag (s : Switch)
  /-- A switch with its value. -/
  | set (s : Switch) (value : String)
  /-- An argument that is no switch. -/
  | operand (text : String)
  /-- An argument behind a double hyphen, where nothing is a switch. -/
  | trailing (text : String)
  /-- An argument that cannot stand here. -/
  | mistake
  deriving DecidableEq, Repr

namespace Item

/-- Whether an argument is no value, because it starts with a hyphen and is not only that. -/
def startsSwitch (argument : String) : Bool :=
  argument.toList.head? = some '-' && argument ≠ "-"

/-- What letters behind a hyphen stand for: some items and, if the last letter still needs a value,
its switch.  The value of a letter is the rest of the argument, less an equals sign in front. -/
def ofLetters (known : List Switch) : List Char → List Item × Option Switch
  | [] => ([], none)
  | c :: rest =>
    match known.find? (·.letter? = some c) with
    | none => ([mistake], none)
    | some s =>
      if s.takesValue then
        match rest with
        | [] => ([], some s)
        | '=' :: value => ([set s (String.ofList value)], none)
        | value => ([set s (String.ofList value)], none)
      else
        let (items, last) := ofLetters known rest
        (flag s :: items, last)

/-- What the characters behind two hyphens stand for: a word, and a value if there is an equals sign. -/
def ofWord (known : List Switch) (cs : List Char) : List Item × Option Switch :=
  match known.find? (·.word.toList = cs.takeWhile (· ≠ '=')) with
  | none => ([mistake], none)
  | some s =>
    match cs.dropWhile (· ≠ '='), s.takesValue with
    | [], true => ([], some s)
    | [], false => ([flag s], none)
    | _ :: value, true => ([set s (String.ofList value)], none)
    | _ :: _, false => ([mistake], none)

/-- What an argument that starts with a hyphen stands for. -/
def ofSwitch (known : List Switch) (argument : String) : List Item × Option Switch :=
  match argument.toList with
  | '-' :: '-' :: cs => ofWord known cs
  | '-' :: cs => ofLetters known cs
  | _ => ([mistake], none)

/-- What arguments stand for, up to the first operand for which `stops` holds; that one and what
follows it are given back. -/
def read (known : List Switch) (stops : String → Bool) :
    List String → List Item × List String
  | [] => ([], [])
  | argument :: rest =>
    if argument = "--" then (rest.map trailing, [])
    else if startsSwitch argument then
      match ofSwitch known argument, rest with
      | (items, none), rest =>
        let (more, left) := read known stops rest
        (items ++ more, left)
      | (items, some s), value :: rest =>
        if startsSwitch value then (items ++ [mistake], [])
        else
          let (more, left) := read known stops rest
          (items ++ set s value :: more, left)
      | (items, some _), [] => (items ++ [mistake], [])
    else if stops argument then ([], argument :: rest)
    else
      let (more, left) := read known stops rest
      (operand argument :: more, left)

end Item

end RemoteShell.CommandLine
