import RemoteShell.Settings.Expansion
import RemoteShell.Settings.Table
import RemoteShell.Text.Numeral

/-!
# From settings to targets

`HostTable.override` lets environment variables replace defaults of a table; a value that cannot be
read is passed over.  `HostTable.resolve` makes the target of a host: the settings of the host, over
the defaults of the table, over the built-in defaults.
-/

namespace RemoteShell

/-- A text that has to be set and not blank. -/
def requiredText (value : Option String) (key : String) : Except Failure String :=
  match value.filter fun v => !Text.isBlank v with
  | some v => .ok v
  | none => .error (.settingMissing key)

/-- The settings that a Kerberos section stands for.  A blank path stays blank, so that it is
reported as missing where it is needed. -/
def KerberosSection.resolve (s : Surroundings) (k : KerberosSection) : Kerberos :=
  let path := fun (p : String) => if Text.isBlank p then "" else Expansion.expand s p
  ⟨k.realmFile.map path, k.loginFile.map path, k.httpService, k.portInService⟩

/-- The credentials that a settings record gives. -/
def HostSettings.credentials (s : Surroundings) (h : HostSettings) : Except Failure Credentials :=
  match h.auth.getD .basic with
  | .basic => do
    let username ← requiredText h.username "username"
    return .basic username (h.password.getD "")
  | .kerberos => do
    let username ← requiredText h.username "username"
    return .kerberos username (h.password.getD "") ((h.kerberos.getD .unset).resolve s)
  | .token => do
    let token ← requiredText h.token "token"
    return .token token

/-- The target that a settings record gives for a host. -/
def HostSettings.target (s : Surroundings) (h : HostSettings) (host : String) :
    Except Failure Target := do
  let protocol := h.protocol.getD .http
  let credentials ← h.credentials s
  return {
    host := h.hostname.getD host
    port := h.port.getD protocol.defaultPort
    protocol
    context := h.context.getD Target.defaultContext
    credentials
    timeout := h.timeout.getD Target.defaultTimeout
    caCert := h.caCert.map (Expansion.expand s)
    maxEnvelopeSize := h.envelopeSize.getD Target.defaultEnvelopeSize
    operationTimeout := h.operationTimeout.getD Target.defaultOperationTimeout
    locale := h.locale.getD Target.defaultLocale
    codepage := h.codepage.getD Target.defaultCodepage
    receiveDeadline := h.receiveDeadline
    pipeCapacity := h.pipeCapacity.getD Target.defaultPipeCapacity }

namespace HostTable

/-- The target of a host. -/
def resolve (s : Surroundings) (t : HostTable) (host : String) : Except Failure Target :=
  (t.merged host).target s host

/-- The settings that environment variables make. -/
def fromEnvironment (s : Surroundings) : HostSettings where
  username := s.lookup? "HOSTLINK_USER"
  password := s.lookup? "HOSTLINK_PASSWORD"
  port := (s.lookup? "HOSTLINK_PORT").bind fun text =>
    (Numeral.unsigned 10 65535 text.toList).toOption.map UInt16.ofNat
  protocol := (s.lookup? "HOSTLINK_PROTOCOL").bind fun text => (Protocol.read text).toOption
  auth := (s.lookup? "HOSTLINK_AUTH").bind fun text => (AuthMethod.read text).toOption
  operationTimeout := s.lookup? "HOSTLINK_OPERATION_TIMEOUT"
  locale := s.lookup? "HOSTLINK_LOCALE"

/-- The table with the defaults that environment variables replace. -/
def override (s : Surroundings) (t : HostTable) : HostTable :=
  { t with defaults := (fromEnvironment s).mergedOver t.defaults }

end HostTable

end RemoteShell
