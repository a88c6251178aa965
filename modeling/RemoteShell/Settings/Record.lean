import RemoteShell.Duration.Human
import RemoteShell.Settings.Table
import RemoteShell.Settings.Value

/-!
# Settings as configuration values

`HostTable.ofValue?` reads a table of hosts out of the value of a configuration file, and
`HostTable.toValue` writes one.  Fields that are not known are passed over, and a field that is null is
unset.  Passwords and tokens are read but never written.
-/

namespace RemoteShell

open Value

/-- A duration as people write it. -/
def Value.duration? (v : Value) : Option Duration :=
  v.text?.bind Duration.Human.read?

/-- The reader of a Kerberos section. -/
def KerberosSection.reader : FieldReader KerberosSection := do
  let realmFile ← optionalField "krb5_config" text?
  let loginFile ← optionalField "login_config" text?
  let httpService ← fieldWithDefault "use_http_spn" false flag?
  let portInService ← fieldWithDefault "add_port_to_spn" false flag?
  return ⟨realmFile, loginFile, httpService, portInService⟩

/-- The Kerberos section that a value holds. -/
def KerberosSection.ofValue? : Value → Option KerberosSection :=
  record? KerberosSection.reader

/-- The reader of settings of a host. -/
def HostSettings.reader : FieldReader HostSettings := do
  let hostname ← optionalField "hostname" text?
  let port ← optionalField "port" (number? 65535)
  let protocol ← optionalField "protocol" (choice? Protocol.all Protocol.name)
  let auth ← optionalField "auth" (choice? AuthMethod.all AuthMethod.name)
  let context ← optionalField "context" text?
  let username ← optionalField "username" text?
  let password ← optionalField "password" text?
  let token ← optionalField "token" text?
  let operationTimeout ← optionalField "operation_timeout" text?
  let envelopeSize ← optionalField "envelope_size" (number? (UInt32.size - 1))
  let locale ← optionalField "locale" text?
  let codepage ← optionalField "codepage" (number? (UInt32.size - 1))
  let timeout ← optionalField "timeout" (number? maxWord)
  let caCert ← optionalField "ca_cert" text?
  let receiveDeadline ← fieldWithDefault "receive_deadline" none (optional? duration?)
  let pipeCapacity ← optionalField "pipe_capacity" (number? maxWord)
  let kerberos ← optionalField "kerberos" KerberosSection.ofValue?
  return {
    hostname, port := port.map UInt16.ofNat, protocol, auth, context, username, password, token,
    operationTimeout, envelopeSize := envelopeSize.map UInt32.ofNat, locale,
    codepage := codepage.map UInt32.ofNat, timeout := timeout.map UInt64.ofNat, caCert,
    receiveDeadline, pipeCapacity := pipeCapacity.map UInt64.ofNat, kerberos }

/-- The settings of a host that a value holds. -/
def HostSettings.ofValue? : Value → Option HostSettings :=
  record? HostSettings.reader

/-- The hosts that the entries of a value hold.  Of entries with the same key the last one counts. -/
def HostTable.hostsOfValue? (v : Value) : Option (List (String × HostSettings)) := do
  let entries ← v.entries?
  let hosts ← entries.mapM fun e => (HostSettings.ofValue? e.2).map fun s => (e.1, s)
  return (hosts.foldl (fun t e => HostTable.put t e.1 e.2) HostTable.empty).hosts

/-- The reader of a table. -/
def HostTable.reader : FieldReader HostTable := do
  let defaults ← fieldWithDefault "defaults" HostSettings.unset HostSettings.ofValue?
  let hosts ← fieldWithDefault "hosts" [] HostTable.hostsOfValue?
  return ⟨defaults, hosts⟩

/-- The table that a value holds. -/
def HostTable.ofValue? : Value → Option HostTable :=
  record? HostTable.reader

/-- The value of a setting that may be unset. -/
def Value.ofOption {α : Type} (write : α → Value) : Option α → Value
  | none => .null
  | some a => write a

/-- The value of a number. -/
def Value.ofNat (n : Nat) : Value := .integer (Int.ofNat n)

/-- The value of a Kerberos section. -/
def KerberosSection.toValue (k : KerberosSection) : Value :=
  .table
    [("krb5_config", ofOption .text k.realmFile), ("login_config", ofOption .text k.loginFile),
     ("use_http_spn", .flag k.httpService), ("add_port_to_spn", .flag k.portInService)]

/-- The value of settings, without the secrets. -/
def HostSettings.toValue (s : HostSettings) : Value :=
  .table
    [("hostname", ofOption .text s.hostname),
     ("port", ofOption (fun p => Value.ofNat p.toNat) s.port),
     ("protocol", ofOption (fun p => .text p.name) s.protocol),
     ("auth", ofOption (fun a => .text a.name) s.auth),
     ("context", ofOption .text s.context),
     ("username", ofOption .text s.username),
     ("operation_timeout", ofOption .text s.operationTimeout),
     ("envelope_size", ofOption (fun n => Value.ofNat n.toNat) s.envelopeSize),
     ("locale", ofOption .text s.locale),
     ("codepage", ofOption (fun n => Value.ofNat n.toNat) s.codepage),
     ("timeout", ofOption (fun n => Value.ofNat n.toNat) s.timeout),
     ("ca_cert", ofOption .text s.caCert),
     ("receive_deadline", ofOption (fun d => .text (Duration.Human.render d)) s.receiveDeadline),
     ("pipe_capacity", ofOption (fun n => Value.ofNat n.toNat) s.pipeCapacity),
     ("kerberos", ofOption KerberosSection.toValue s.kerberos)]

/-- The value of a table, without the secrets. -/
def HostTable.toValue (t : HostTable) : Value :=
  .table
    [("defaults", t.defaults.toValue),
     ("hosts", .table (t.hosts.map fun e => (e.1, e.2.toValue)))]

end RemoteShell
