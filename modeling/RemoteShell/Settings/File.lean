import RemoteShell.Settings.Format.Json
import RemoteShell.Settings.Format.Toml
import RemoteShell.Settings.Format.Yaml
import RemoteShell.Settings.Record
import RemoteShell.Settings.Resolve

/-!
# Configuration files

The extension of a file's name tells its format; a file with any other name is read as TOML, or else
as YAML.  `HostTable.load` reads the file that is asked for, or the user's own file if there is one,
and lets the environment override its defaults.
-/

namespace RemoteShell

/-- The formats of configuration texts. -/
inductive Format where
  | toml
  | yaml
  | json
  deriving DecidableEq, Repr

namespace Format

/-- The value of a text. -/
def parse? : Format → String → Option Value
  | toml, text => Toml.parse? text
  | yaml, text => Yaml.parse? text
  | json, text => Json.parse? text

/-- The extension of the last step of a path: what follows its last point, unless that is its first
character. -/
def extension (path : String) : String :=
  match (Surroundings.steps path).getLast? with
  | none => ""
  | some name =>
    let behind := name.toList.reverse.takeWhile (· ≠ '.')
    if behind.length + 1 < name.length then String.ofList behind.reverse else ""

/-- The formats to try for a file with an extension, in order. -/
def ofExtension (extension : String) : List Format :=
  if extension = "yml" || extension = "yaml" then [yaml]
  else if extension = "json" then [json]
  else if extension = "toml" then [toml]
  else [toml, yaml]

end Format

namespace HostTable

/-- The table that a text in a format describes. -/
def ofText? (format : Format) (text : String) : Option HostTable :=
  (format.parse? text).bind ofValue?

/-- The table that a text in TOML describes. -/
def ofToml (text : String) : Except Failure HostTable :=
  match ofText? .toml text with
  | some t => .ok t
  | none => .error (.badSetting "Failed to parse config")

/-- The table in a file. -/
def ofFile (s : Surroundings) (path : String) : Except Failure HostTable :=
  match s.readText path with
  | .error f =>
    .error (.badSetting ("Failed to read config file " ++ path ++ ": " ++ f.message))
  | .ok text =>
    match (Format.ofExtension (Format.extension path)).findSome? fun f => ofText? f text with
    | some t => .ok t
    | none => .error (.badSetting ("Failed to parse config file " ++ path))

/-- The path where the user's own file would be. -/
def userPath? (s : Surroundings) : Option String :=
  s.configDirectory?.map fun d => Surroundings.join (Surroundings.join d "hostlink") "config.toml"

/-- The path of the user's own file, if there is such a file. -/
def userFile? (s : Surroundings) : Option String :=
  (userPath? s).filter s.isFile

/-- The table in a file, or in the user's own file if none is asked for, with the defaults that the
environment replaces. -/
def load (s : Surroundings) (path : Option String) : Except Failure HostTable := do
  let t ← match path <|> userFile? s with
    | some p => ofFile s p
    | none => .ok empty
  return t.override s

end HostTable

end RemoteShell
