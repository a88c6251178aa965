import RemoteShell.CommandLine.Switch

/-!
# Help

The texts that explain the command line.
-/

namespace RemoteShell.CommandLine

/-- The name of the program. -/
def programName : String := "hostlink"

/-- The version of the program. -/
def programVersion : String := "0.1.0"

/-- The text of the version, of the program or of one of its commands. -/
def versionText (verb : Option Verb) : String :=
  programName ++ (verb.map fun v => "-" ++ v.name).getD "" ++ " " ++ programVersion ++ "\n"

/-- How a command line looks. -/
def usage : Option Verb → String
  | none => programName ++ " [SWITCHES] exec|identify ..."
  | some .exec => programName ++ " exec [SWITCHES] HOST -- COMMAND..."
  | some .identify => programName ++ " identify [SWITCHES] HOST"

/-- One line on a switch. -/
def helpLine (s : Switch) : String :=
  let letter := match s.letter? with
    | some c => "-" ++ String.singleton c ++ ", "
    | none => "    "
  "  " ++ letter ++ "--" ++ s.word ++ (if s.takesValue then " VALUE" else "") ++ "\n"

/-- The text of the help. -/
def helpText (verb : Option Verb) : String :=
  "Usage: " ++ usage verb ++ "\n\nSwitches:\n" ++ String.join ((Switch.known verb).map helpLine)

/-- What is said of a mistaken command line. -/
def mistakeText : String :=
  "error: the arguments cannot be understood\n\nUsage: " ++ usage none ++ "\n"

end RemoteShell.CommandLine
