import RemoteShell.Settings.Glob
import RemoteShell.Settings.Host

/-!
# Tables of hosts

A table holds default settings and settings for hosts, each under a name or a pattern of names.  The
settings of a host are those under exactly its name, or else those under a pattern that covers it.
-/

namespace RemoteShell

/-- Settings for all hosts. -/
structure HostTable where
  defaults : HostSettings := {}
  /-- Settings by names and patterns; no key stands twice. -/
  hosts : List (String × HostSettings) := []
  deriving DecidableEq, Repr

namespace HostTable

/-- The table without any settings. -/
def empty : HostTable := {}

/-- Put the settings of a host into the table, in the place of those it has. -/
def put (t : HostTable) (name : String) (settings : HostSettings) : HostTable :=
  { t with hosts := t.hosts.filter (·.1 ≠ name) ++ [(name, settings)] }

/-- Whether a key of the table stands for a host although it is not its name, as an engine for regular
expressions sees it. -/
def isPatternBy (engine : Regex.Engine) (key host : String) : Bool :=
  Glob.hasWildcard key.toList && Glob.covers engine key.toList host.toList

/-- Whether a key of the table stands for a host although it is not its name. -/
def isPatternFor (key host : String) : Bool :=
  isPatternBy Regex.search? key host

/-- The settings of a host, as an engine for regular expressions sees the keys. -/
def findBy? (engine : Regex.Engine) (t : HostTable) (host : String) : Option HostSettings :=
  match t.hosts.find? (·.1 == host) with
  | some entry => some entry.2
  | none => (t.hosts.find? fun entry => isPatternBy engine entry.1 host).map (·.2)

/-- The settings of a host. -/
def find? (t : HostTable) (host : String) : Option HostSettings :=
  t.findBy? Regex.search? host

/-- The settings of a host with the defaults of the table. -/
def merged (t : HostTable) (host : String) : HostSettings :=
  ((t.find? host).getD .unset).mergedOver t.defaults

end HostTable

end RemoteShell
