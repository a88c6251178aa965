import RemoteShell.Target

/-!
# Settings of a host

A settings record says what is known about a host; every field may be unset.  `mergedOver` fills what
is unset from another record, each field on its own, where the Kerberos section counts as one field.
-/

namespace RemoteShell

/-- The Kerberos section of a settings record.  Paths are as written, before expansion. -/
structure KerberosSection where
  realmFile : Option String
  loginFile : Option String
  httpService : Bool
  portInService : Bool
  deriving DecidableEq, Repr

/-- The section in which nothing is set. -/
def KerberosSection.unset : KerberosSection := ⟨none, none, false, false⟩

/-- What is known about a host. -/
structure HostSettings where
  hostname : Option String := none
  port : Option UInt16 := none
  protocol : Option Protocol := none
  auth : Option AuthMethod := none
  context : Option String := none
  username : Option String := none
  password : Option String := none
  token : Option String := none
  operationTimeout : Option String := none
  envelopeSize : Option UInt32 := none
  locale : Option String := none
  codepage : Option UInt32 := none
  timeout : Option UInt64 := none
  caCert : Option String := none
  receiveDeadline : Option Duration := none
  pipeCapacity : Option UInt64 := none
  kerberos : Option KerberosSection := none
  deriving DecidableEq, Repr

namespace HostSettings

/-- The record in which nothing is set. -/
def unset : HostSettings := {}

/-- The record with every unset field taken from `defaults`. -/
def mergedOver (s defaults : HostSettings) : HostSettings where
  hostname := s.hostname <|> defaults.hostname
  port := s.port <|> defaults.port
  protocol := s.protocol <|> defaults.protocol
  auth := s.auth <|> defaults.auth
  context := s.context <|> defaults.context
  username := s.username <|> defaults.username
  password := s.password <|> defaults.password
  token := s.token <|> defaults.token
  operationTimeout := s.operationTimeout <|> defaults.operationTimeout
  envelopeSize := s.envelopeSize <|> defaults.envelopeSize
  locale := s.locale <|> defaults.locale
  codepage := s.codepage <|> defaults.codepage
  timeout := s.timeout <|> defaults.timeout
  caCert := s.caCert <|> defaults.caCert
  receiveDeadline := s.receiveDeadline <|> defaults.receiveDeadline
  pipeCapacity := s.pipeCapacity <|> defaults.pipeCapacity
  kerberos := s.kerberos <|> defaults.kerberos

/-- The record with the secrets taken out. -/
def withoutSecrets (s : HostSettings) : HostSettings :=
  { s with password := none, token := none }

end HostSettings

end RemoteShell
