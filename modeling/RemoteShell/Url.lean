import RemoteShell.Text.Hex
import RemoteShell.Url.Address
import RemoteShell.Url.Domain

/-!
# URLs of endpoints

`Url.check` says whether a text that starts with `http://` or `https://` is a URL, and otherwise what
is wrong with it.  Only the host and the port can be wrong; paths may hold anything.

Tabs and line breaks count for nothing, and any number of slashes and backslashes may stand in front
of the host.
-/

namespace RemoteShell.Url

/-- Why a text is no URL. -/
inductive Fault where
  | emptyHost
  | badPort
  | badIpv4
  | badIpv6
  | badDomain
  deriving DecidableEq, Repr

/-- The fault in words. -/
def Fault.message : Fault → String
  | emptyHost => "empty host"
  | badPort => "invalid port number"
  | badIpv4 => "invalid IPv4 address"
  | badIpv6 => "invalid IPv6 address"
  | badDomain => "invalid international domain name"

/-- Whether a character ends the part of a URL that names the host. -/
def endsAuthority (c : Char) : Bool :=
  c == '/' || c == '\\' || c == '?' || c == '#'

/-- Bytes with the escapes `%41` resolved. -/
def percentDecode : List UInt8 → List UInt8
  | 37 :: a :: b :: rest =>
    match Hex.value? (Char.ofNat a.toNat), Hex.value? (Char.ofNat b.toNat) with
    | some hi, some lo => UInt8.ofNat (hi * 16 + lo) :: percentDecode rest
    | _, _ => 37 :: percentDecode (a :: b :: rest)
  | b :: rest => b :: percentDecode rest
  | [] => []

/-- What stands behind the last `@`, or everything if there is none. -/
def dropUser (cs : List Char) : List Char :=
  (cs.reverse.takeWhile (· ≠ '@')).reverse

/-- Split in front of the colon of the port, which does not stand in brackets. -/
def splitPort (bracketed : Bool) : List Char → List Char × List Char
  | [] => ([], [])
  | c :: rest =>
    if c = ':' && !bracketed then ([], c :: rest)
    else
      let bracketed' := if c = '[' then true else if c = ']' then false else bracketed
      let (host, port) := splitPort bracketed' rest
      (c :: host, port)

/-- What is wrong with a host, if anything is. -/
def checkHost (host : List Char) : Except Fault Unit :=
  if host.isEmpty then .error .emptyHost
  else if host.head? = some '[' then
    if host.getLast? = some ']' && isIpv6 (host.drop 1).dropLast then .ok () else .error .badIpv6
  else
    match domain? (percentDecode (Utf8.encode (String.ofList host))) with
    | none => .error .badDomain
    | some name =>
      if name.isEmpty then .error .emptyHost
      else if endsInNumber name && !isIpv4 name then .error .badIpv4
      else .ok ()

/-- What is wrong with a port, which starts with a colon, if anything is. -/
def checkPort (port : List Char) : Except Fault Unit :=
  let digits := port.drop 1
  if digits.all Char.isDigit && digits.foldl (fun n c => n * 10 + digitValue c) 0 < 65536 then
    .ok ()
  else .error .badPort

/-- What is wrong with the part of a URL that names the host, if anything is. -/
def checkAuthority (cs : List Char) : Except Fault Unit := do
  let (host, port) := splitPort false (dropUser cs)
  checkHost host
  checkPort port

/-- What is wrong with a URL, if anything is. -/
def check (url : String) : Except Fault Unit :=
  let cs := url.toList.filter fun c => c ≠ '\t' && c ≠ '\n' && c ≠ '\r'
  let behindScheme := (cs.dropWhile (· ≠ ':')).drop 1
  let rest := behindScheme.dropWhile fun c => c == '/' || c == '\\'
  checkAuthority (rest.takeWhile (!endsAuthority ·))

end RemoteShell.Url
