import RemoteShell.Base64
import RemoteShell.Credentials

/-!
# Authorization headers

A `Generator` gives the value of the authorization header for one request after the other.  Basic and
static generators give the same value every time.  A Kerberos generator logs in for its first value
and gives none afterwards, since the security context is then established; as long as it fails, it
starts again from the beginning each time.

The login mechanism is outside this library.  A `Mechanism` is the outcomes of its calls, in order,
and every call that is made is reported as a `LoginCall`.
-/

namespace RemoteShell

open Text (Shown)

/-- The outcomes of the calls of a login mechanism.  When they are used up, logins succeed and
contexts start with an empty token. -/
structure Mechanism where
  logins : List (Except Failure Unit)
  contexts : List (Except Failure (List UInt8))

/-- A call of a login mechanism. -/
inductive LoginCall where
  /-- A new mechanism is asked for. -/
  | provider
  | login (principal password realmFile loginFile : String)
  | context (service : String)
  deriving DecidableEq, Repr

/-- A Kerberos login that may have been made already. -/
structure Negotiation where
  username : String
  password : String
  service : String
  settings : Kerberos
  mechanism : Mechanism
  established : Bool

/-- What gives the authorization values of one connection. -/
inductive Generator where
  | basic (header : String)
  /-- The same value, as it is, for every request. -/
  | static (token : String)
  | negotiate (negotiation : Negotiation)

/-- The value for a request (or no value), the generator for the next one, and the calls made. -/
abbrev Generator.Answer := Except Failure (Option String) × Generator × List LoginCall

namespace Negotiation

/-- A login that has not been made. -/
def start (username password host : String) (port : UInt16) (settings : Kerberos)
    (mechanism : Mechanism) : Negotiation :=
  ⟨username, password, settings.servicePrincipal host port, settings, mechanism, false⟩

/-- The value for the next request. -/
def next (s : Surroundings) (n : Negotiation) : Generator.Answer :=
  if n.established then (.ok none, .negotiate n, [])
  else
    match n.settings.check s with
    | .error e => (.error e, .negotiate n, [])
    | .ok (realm, login) =>
      let call := LoginCall.login n.username n.password realm login
      let m := n.mechanism
      let n' := { n with mechanism := { m with logins := m.logins.tail } }
      match m.logins.headD (.ok ()) with
      | .error e => (.error e, .negotiate n', [call])
      | .ok () =>
        let calls := [call, .context n.service]
        let n'' := { n' with mechanism := ⟨m.logins.tail, m.contexts.tail⟩ }
        match m.contexts.headD (.ok []) with
        | .error e => (.error e, .negotiate n'', calls)
        | .ok bytes =>
          (.ok (some ("Negotiate " ++ Base64.encode bytes)),
            .negotiate { n'' with established := true }, calls)

/-- The description of a login. -/
def shown (n : Negotiation) : Shown :=
  .record "KerberosTokenGenerator"
    [("username", .text n.username), ("password", Credentials.hidden),
     ("service_principal", .text n.service), ("config", n.settings.shown),
     ("established", .flag n.established)] false

end Negotiation

namespace Generator

/-- The generator for a user name and a password. -/
def ofPassword (username password : String) : Generator :=
  .basic ("Basic " ++ Base64.encode (Utf8.encode (username ++ ":" ++ password)))

/-- The generator for an access token. -/
def bearer (token : String) : Generator :=
  .static ("Bearer " ++ token)

/-- The value for the next request. -/
def next (s : Surroundings) : Generator → Answer
  | basic header => (.ok (some header), basic header, [])
  | static token => (.ok (some token), static token, [])
  | negotiate n => n.next s

/-- The description of a generator. -/
def shown : Generator → Shown
  | basic _ => .record "BasicTokenGenerator" [("header", .text "Basic ***")] false
  | static _ => .record "StaticTokenGenerator" [("token", Credentials.hidden)] false
  | negotiate n => n.shown

/-- Ask for a number of values. -/
def take (s : Surroundings) : Nat → Generator →
    List (Except Failure (Option String)) × Generator × List LoginCall
  | 0, g => ([], g, [])
  | n + 1, g =>
    let (value, g', calls) := g.next s
    let (values, g'', more) := g'.take s n
    (value :: values, g'', calls ++ more)

end Generator

end RemoteShell
