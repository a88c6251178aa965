import RemoteShell.Text.Utf8

/-!
# Surroundings

What the program can see of the machine it runs on: environment variables and files.  Paths are
resolved from the current directory, component by component; a fault is that of the first component
at which the path cannot go on.

A place is given by its steps from the root, which is a step of its own, or else by its steps from the
current directory, of which the first ones may lead upwards.  Nothing is known of other directories than
those that hold a file in view, apart from the current one, those above it and the root.
-/

namespace RemoteShell

/-- What a path can name. -/
inductive Entry where
  | file (bytes : List UInt8)
  | directory
  deriving DecidableEq, Repr

/-- Why a file cannot be read. -/
inductive PathFault where
  | absent
  /-- A component in front of the last one is a file. -/
  | notDirectory
  | isDirectory
  /-- The bytes of the file are not UTF-8. -/
  | notText
  deriving DecidableEq, Repr

/-- The fault in words. -/
def PathFault.message : PathFault → String
  | absent => "No such file or directory (os error 2)"
  | notDirectory => "Not a directory (os error 20)"
  | isDirectory => "Is a directory (os error 21)"
  | notText => "stream did not contain valid UTF-8"

/-- The visible part of a machine. -/
structure Surroundings where
  environment : List (String × String)
  /-- Files and directories by their paths.  A directory that holds something need not be listed. -/
  files : List (String × Entry)

namespace Surroundings

/-- The value of an environment variable. -/
def lookup? (s : Surroundings) (name : String) : Option String :=
  (s.environment.find? (·.1 == name)).map (·.2)

/-- The components of a path. -/
def components (path : String) : List String :=
  (path.toList.splitOn '/').map String.ofList

/-- The components of a path that lead somewhere. -/
def steps (path : String) : List String :=
  (components path).filter fun c => c ≠ "" && c ≠ "."

/-- The root of all places. -/
def root : List String := ["/"]

/-- Whether a place is the current directory or one above it. -/
def isAbove (place : List String) : Bool :=
  place.all (· == "..")

/-- One step further from a place. -/
def walk (place : List String) (c : String) : List String :=
  if c = "" || c = "." then place
  else if c = ".." then
    if isAbove place then place ++ [".."] else if place = root then root else place.dropLast
  else place ++ [c]

/-- Where a path starts. -/
def start (path : String) : List String :=
  if path.toList.head? = some '/' then root else []

/-- The place that a path leads to if all of its steps can be made. -/
def placeOf (path : String) : List String :=
  (components path).foldl walk (start path)

/-- What is found at a place. -/
def entryAt? (s : Surroundings) (place : List String) : Option Entry :=
  if isAbove place || place = root then some .directory
  else
    match s.files.find? fun f => placeOf f.1 == place with
    | some f => some f.2
    | none => if s.files.any fun f => place.isPrefixOf (placeOf f.1) then some .directory else none

/-- Follow the components of a path from a place. -/
def follow (s : Surroundings) (place : List String) : List String → Except PathFault Entry
  | [] =>
    match s.entryAt? place with
    | some e => .ok e
    | none => .error .absent
  | c :: rest =>
    match s.entryAt? place with
    | none => .error .absent
    | some (.file _) => .error .notDirectory
    | some .directory => s.follow (walk place c) rest

/-- What a path names. -/
def entry (s : Surroundings) (path : String) : Except PathFault Entry :=
  if path = "" then .error .absent else s.follow (start path) (components path)

/-- Whether a path names something. -/
def pathExists (s : Surroundings) (path : String) : Bool :=
  (s.entry path).isOk

/-- Whether a path names a file. -/
def isFile (s : Surroundings) (path : String) : Bool :=
  match s.entry path with
  | .ok (.file _) => true
  | _ => false

/-- The bytes of a file. -/
def read (s : Surroundings) (path : String) : Except PathFault (List UInt8) :=
  match s.entry path with
  | .ok (.file bytes) => .ok bytes
  | .ok .directory => .error .isDirectory
  | .error f => .error f

/-- The text of a file. -/
def readText (s : Surroundings) (path : String) : Except PathFault String := do
  match Utf8.decode? (← s.read path) with
  | some text => return text
  | none => throw .notText

/-- The home directory of the user. -/
def home? (s : Surroundings) : Option String :=
  (s.lookup? "HOME").filter (· ≠ "")

/-- The path of something in a directory. -/
def join (directory name : String) : String :=
  if directory = "" || directory.toList.getLast? = some '/' then directory ++ name
  else directory ++ "/" ++ name

/-- The directory of the user's configuration files: `XDG_CONFIG_HOME` if that is a path from the
root, or else `.config` in the home directory. -/
def configDirectory? (s : Surroundings) : Option String :=
  match (s.lookup? "XDG_CONFIG_HOME").filter fun p => p.toList.head? = some '/' with
  | some p => some p
  | none => s.home?.map fun h => join h ".config"

end Surroundings

end RemoteShell
