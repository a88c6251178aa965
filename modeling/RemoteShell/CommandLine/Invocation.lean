import RemoteShell.Command
import RemoteShell.CommandLine.Switch
import RemoteShell.Settings.Resolve

/-!
# Invocations

`Invocation.read` says what a command line asks for, or why it is not carried out: it is mistaken, or
it asks for help or for the version.  Arguments count in their order, so of a mistake and a request
for help the one further left decides.

A switch that every command knows can stand in front of the command and behind it; if both hold, the
one behind counts.
-/

namespace RemoteShell.CommandLine

/-- Why a command line is not carried out. -/
inductive Stop where
  | mistake
  | help (verb : Option Verb)
  | version (verb : Option Verb)
  deriving DecidableEq, Repr

/-- What the arguments of one level say, in front of the command or behind it. -/
structure Level where
  /-- The switches so far. -/
  seen : List Switch := []
  config : Option String := none
  /-- The settings that switches make. -/
  settings : HostSettings := {}
  options : CommandOptions := .unset
  /-- The operand of a command. -/
  host : Option String := none
  /-- What stands behind a double hyphen. -/
  words : List String := []

namespace Level

/-- How often a switch stands in the level. -/
def count (l : Level) (s : Switch) : Nat :=
  l.seen.count s

/-- Note that a switch stands in the level. -/
def note (l : Level) (s : Switch) : Except Stop Level :=
  if s ∈ l.seen && !s.repeats then .error .mistake else .ok { l with seen := s :: l.seen }

/-- The value of a switch, if it can be read. -/
def need {α : Type} : Option α → Except Stop α
  | some a => .ok a
  | none => .error .mistake

/-- A port, which may have a sign. -/
def port? (text : String) : Option UInt16 :=
  match text.toList with
  | '-' :: cs => if (Numeral.natural 10 0 .tooSmall cs).isOk then some 0 else none
  | cs => (Numeral.unsigned 10 65535 cs).toOption.map UInt16.ofNat

/-- A number of seconds. -/
def seconds? (text : String) : Option UInt64 :=
  (Numeral.unsigned 10 (UInt64.size - 1) text.toList).toOption.map UInt64.ofNat

/-- The name and the value of a variable, around the first equals sign; the name is not empty. -/
def assignment? (text : String) : Option (String × String) :=
  match text.toList.span (· ≠ '=') with
  | ([], _) => none
  | (_, []) => none
  | (name, _ :: value) => some (String.ofList name, String.ofList value)

/-- The level with the value of a switch. -/
def setValue (l : Level) (s : Switch) (value : String) : Except Stop Level :=
  let set := fun (settings : HostSettings) => Except.ok { l with settings }
  match s with
  | .config => if value = "" then .error .mistake else .ok { l with config := some value }
  | .user => set { l.settings with username := some value }
  | .password => set { l.settings with password := some value }
  | .port => do set { l.settings with port := some (← need (port? value)) }
  | .protocol => do set { l.settings with protocol := some (← need (Protocol.read value).toOption) }
  | .auth => do set { l.settings with auth := some (← need (AuthMethod.read value).toOption) }
  | .caCert => set { l.settings with caCert := some value }
  | .connectTimeout => do set { l.settings with timeout := some (← need (seconds? value)) }
  | .directory => .ok { l with options := { l.options with directory := some value } }
  | .environment => do
    let (name, value) ← need (assignment? value)
    return { l with options := l.options.setVariable name value }
  | .timeout => do
    return { l with options := { l.options with timeout := some (← need (seconds? value)) } }
  | _ => .error .mistake

/-- The level with its operand, of which there is one. -/
def setHost (l : Level) (text : String) : Except Stop Level :=
  match l.host with
  | none => .ok { l with host := some text }
  | some _ => .error .mistake

/-- The level with one more item. -/
def take (verb : Option Verb) (l : Level) : Item → Except Stop Level
  | .mistake => .error .mistake
  | .flag .help => .error (.help verb)
  | .flag .version => .error (.version verb)
  | .flag s => l.note s
  | .set s value => do (← l.note s).setValue s value
  | .operand text => if verb.isSome then l.setHost text else .error .mistake
  | .trailing text =>
    match verb with
    | some .exec => .ok { l with words := l.words ++ [text] }
    | some .identify => l.setHost text
    | none => .error .mistake

/-- The level that some items make. -/
def ofItems (verb : Option Verb) (items : List Item) : Except Stop Level :=
  items.foldlM (take verb) {}

end Level

/-- What a command line asks for. -/
structure Invocation where
  verb : Verb
  host : String
  verbosity : Nat
  /-- The path of the configuration file. -/
  config : Option String
  /-- The settings that switches make. -/
  settings : HostSettings
  options : CommandOptions
  /-- The words of the command to run. -/
  words : List String
  powershell : Bool
  json : Bool

namespace Invocation

/-- The greatest verbosity. -/
def maxVerbosity : Nat := 3

/-- The path of the configuration file that an environment variable names. -/
def configFromEnvironment (s : Surroundings) : Except Stop (Option String) :=
  match s.lookup? "HOSTLINK_CONFIG" with
  | some "" => .error .mistake
  | path => .ok path

/-- The path of the configuration file.  A variable that names no path is a mistake, unless both levels
say something else. -/
def configPath (s : Surroundings) (front back : Level) : Except Stop (Option String) :=
  match front.config, back.config with
  | some _, some path => .ok (some path)
  | given, given' => do
    let path ← configFromEnvironment s
    return given' <|> given <|> path

/-- What the two levels of a command line ask for. -/
def ofLevels (s : Surroundings) (verb : Verb) (front back : Level) : Except Stop Invocation := do
  let config ← configPath s front back
  let host ← Level.need back.host
  if verb = .exec && back.words.isEmpty then throw .mistake
  let settings := { back.settings with
    password := back.settings.password <|> s.lookup? "HOSTLINK_PASSWORD" }
  let verbosity := if 0 < back.count .verbose then back.count .verbose else front.count .verbose
  return {
    verb, host, verbosity := min verbosity maxVerbosity, config, settings, options := back.options,
    words := back.words, powershell := 0 < back.count .powershell, json := 0 < back.count .json }

/-- What arguments behind the word `help` ask for. -/
def readHelp : List String → Except Stop Invocation
  | [] => .error (.help none)
  | ["help"] => .error (.help none)
  | [name] => do
    let verb ← Level.need (Verb.all.find? (·.name = name))
    throw (.help (some verb))
  | _ => .error .mistake

/-- What a command line asks for. -/
def read (s : Surroundings) (arguments : List String) : Except Stop Invocation := do
  let (items, rest) := Item.read (Switch.known none) (fun _ => true) arguments
  let front ← Level.ofItems none items
  match rest with
  | [] => throw .mistake
  | name :: rest =>
    if name = "help" then readHelp rest
    else
      let verb ← Level.need (Verb.all.find? (·.name = name))
      let (items, _) := Item.read (Switch.known (some verb)) (fun _ => false) rest
      ofLevels s verb front (← Level.ofItems (some verb) items)

end Invocation

end RemoteShell.CommandLine
