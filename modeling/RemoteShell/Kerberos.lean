import RemoteShell.Failure
import RemoteShell.Surroundings
import RemoteShell.Text.Quoted

/-!
# Kerberos settings

Kerberos needs two files: the configuration of the realm and that of the login.  `Kerberos.check`
looks at both before anything is asked of a login mechanism, the realm's first.
-/

namespace RemoteShell

open Text (Shown)

/-- The Kerberos settings of a target. -/
structure Kerberos where
  /-- The path of the realm's configuration. -/
  realmFile : Option String
  /-- The path of the login's configuration. -/
  loginFile : Option String
  /-- Whether the service is named `HTTP` instead of `WSMAN`. -/
  httpService : Bool
  /-- Whether the port is part of the service's name. -/
  portInService : Bool
  deriving DecidableEq, Repr

namespace Kerberos

/-- The settings when none are made. -/
def unset : Kerberos := ⟨none, none, false, false⟩

/-- The name of the setting of the realm's file. -/
def realmKey : String := "kerberos.krb5_config"

/-- The name of the setting of the login's file. -/
def loginKey : String := "kerberos.login_config"

/-- The name of the service on a host. -/
def servicePrincipal (k : Kerberos) (host : String) (port : UInt16) : String :=
  (if k.httpService then "HTTP/" else "WSMAN/") ++ host ++
    (if k.portInService then ":" ++ toString port.toNat else "")

/-- A path that has to be set and to name something. -/
def requiredPath (s : Surroundings) (key : String) (path : Option String) :
    Except Failure String :=
  match path.filter (· ≠ "") with
  | none => .error (.settingMissing key)
  | some p => if s.pathExists p then .ok p else .error (.fileMissing key p)

/-- The paths of the two files, both of which have to exist. -/
def check (s : Surroundings) (k : Kerberos) : Except Failure (String × String) := do
  let realm ← requiredPath s realmKey k.realmFile
  let login ← requiredPath s loginKey k.loginFile
  return (realm, login)

/-- The description of the settings. -/
def shown (k : Kerberos) : Shown :=
  .record "KerberosConfig"
    [("krb5_config", .option .path k.realmFile), ("login_config", .option .path k.loginFile),
     ("use_http_spn", .flag k.httpService), ("add_port_to_spn", .flag k.portInService)] false

end Kerberos

end RemoteShell
