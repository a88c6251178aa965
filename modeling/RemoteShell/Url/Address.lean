/-!
# Numeric host addresses

Which texts are IPv4 and IPv6 addresses in URLs.  A number of an IPv4 address can be written in
decimal, octal or hexadecimal, and the last one fills all bytes that are left.
-/

namespace RemoteShell.Url

/-- The digits of a number in an IPv4 address, with their base. -/
def ipv4Digits : List Char → Nat × List Char
  | '0' :: 'x' :: rest => (16, rest)
  | '0' :: 'X' :: rest => (16, rest)
  | '0' :: c :: rest => (8, c :: rest)
  | cs => (10, cs)

/-- The value of a digit up to `f`. -/
def digitValue (c : Char) : Nat :=
  if c.isDigit then c.toNat - 48 else if 'a' ≤ c then c.toNat - 87 else c.toNat - 55

/-- Whether a character is a digit in a base. -/
def isDigitIn (base : Nat) (c : Char) : Bool :=
  (c.isDigit || ('a' ≤ c && c ≤ 'f') || ('A' ≤ c && c ≤ 'F')) && digitValue c < base

/-- A number in an IPv4 address. -/
def ipv4Number? (cs : List Char) : Option Nat :=
  if cs.isEmpty then none
  else
    let (base, digits) := ipv4Digits cs
    if digits.all (isDigitIn base) then
      some (digits.foldl (fun n c => n * base + digitValue c) 0)
    else none

/-- The parts of a text between points, where a point at the end counts for nothing. -/
def dottedParts (cs : List Char) : List (List Char) :=
  let parts := cs.splitOn '.'
  if parts.getLast? = some [] then parts.dropLast else parts

/-- Whether a host name is to be read as an IPv4 address: its last part is a number. -/
def endsInNumber (cs : List Char) : Bool :=
  match (dottedParts cs).getLast? with
  | none => false
  | some last => !last.isEmpty && (last.all Char.isDigit || (ipv4Number? last).isSome)

/-- Whether a text is an IPv4 address: at most four numbers, of which all but the last are bytes. -/
def isIpv4 (cs : List Char) : Bool :=
  match (dottedParts cs).mapM ipv4Number? with
  | none => false
  | some numbers =>
    numbers.length ≤ 4 && numbers.dropLast.all (· < 256) &&
      numbers.getLast?.any (· < 1 <<< (8 * (5 - numbers.length)))

/-- A byte in decimal without leading zeros. -/
def isByte (cs : List Char) : Bool :=
  !cs.isEmpty && cs.all Char.isDigit && (cs.length = 1 || cs.head? ≠ some '0') &&
    cs.foldl (fun n c => n * 10 + digitValue c) 0 < 256

/-- How many groups of an IPv6 address a part of it stands for, if it may stand there.  Only the
last part may be an IPv4 address, which fills two groups. -/
def ipv6Groups? (isLast : Bool) (cs : List Char) : Option Nat :=
  if !cs.isEmpty && cs.length ≤ 4 && cs.all (isDigitIn 16) then some 1
  else
    let numbers := cs.splitOn '.'
    if isLast && numbers.length = 4 && numbers.all isByte then some 2 else none

/-- The number of groups that some parts of an IPv6 address stand for. -/
def groupCount? : List (List Char) → Option Nat
  | [] => some 0
  | [part] => ipv6Groups? true part
  | part :: rest => do
    let n ← ipv6Groups? false part
    let m ← groupCount? rest
    return n + m

/-- Whether a text is an IPv6 address: eight groups, or at most seven around one `::`. -/
def isIpv6 (cs : List Char) : Bool :=
  let parts := cs.splitOn ':'
  match parts.findIdx? List.isEmpty with
  | none => groupCount? parts = some 8
  | some i =>
    let front := parts.take i
    let back := parts.drop (i + 1)
    -- Each end of the address that `::` touches holds one more empty part.
    let back := if i = 0 then (match back with | [] :: rest => some rest | _ => none) else some back
    match back with
    | none => false
    | some back =>
      if !front.isEmpty && front.any fun p => (ipv6Groups? false p).isNone then false
      else if back = [[]] then front.length ≤ 7
      else if back.isEmpty then false
      else
        match groupCount? back with
        | none => false
        | some n => front.length + n ≤ 7

end RemoteShell.Url
