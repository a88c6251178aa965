/-!
# Bytes in hexadecimal

Two lowercase digits for each byte, the high one first.
-/

namespace RemoteShell.Hex

/-- The lowercase digit of a number below sixteen. -/
def digit (n : Nat) : Char :=
  if n < 10 then Char.ofNat (48 + n) else Char.ofNat (87 + n)

/-- The text of some bytes. -/
def encode (bytes : List UInt8) : String :=
  String.ofList (bytes.flatMap fun b => [digit (b.toNat / 16), digit (b.toNat % 16)])

/-- The value of a digit in either case. -/
def value? (c : Char) : Option Nat :=
  if '0' ≤ c ∧ c ≤ '9' then some (c.toNat - 48)
  else if 'a' ≤ c ∧ c ≤ 'f' then some (c.toNat - 87)
  else if 'A' ≤ c ∧ c ≤ 'F' then some (c.toNat - 55)
  else none

/-- The bytes of pairs of digits; `none` if a digit is missing or is none. -/
def decodeChars? : List Char → Option (List UInt8)
  | [] => some []
  | a :: b :: rest => do
    let hi ← value? a
    let lo ← value? b
    let tail ← decodeChars? rest
    return UInt8.ofNat (hi * 16 + lo) :: tail
  | [_] => none

/-- The bytes of a text of digits. -/
def decode? (s : String) : Option (List UInt8) :=
  decodeChars? s.toList

end RemoteShell.Hex
