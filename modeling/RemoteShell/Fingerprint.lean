import RemoteShell.Sha256
import RemoteShell.Text.Hex

/-!
# Fingerprints

A fingerprint stands for a list of byte strings without showing them.  Each part is written with its
length in front, so the bytes that are hashed determine the list.
-/

namespace RemoteShell

/-- A hash in hexadecimal. -/
structure Fingerprint where
  text : String
  deriving DecidableEq, Repr

namespace Fingerprint

/-- The `count` lowest bytes of a number, the low byte first. -/
def littleEndian (count n : Nat) : List UInt8 :=
  match count with
  | 0 => []
  | k + 1 => UInt8.ofNat (n % 256) :: littleEndian k (n / 256)

/-- A part as it is hashed: its length in eight bytes, then its bytes. -/
def delimited (part : List UInt8) : List UInt8 :=
  littleEndian 8 part.length ++ part

/-- The bytes that are hashed for a list of parts. -/
def preimage (parts : List (List UInt8)) : List UInt8 :=
  parts.flatMap delimited

/-- The fingerprint of a list of parts. -/
def ofParts (parts : List (List UInt8)) : Fingerprint :=
  ⟨Hex.encode (Sha256.digest (preimage parts))⟩

/-- The fingerprint of a list of texts. -/
def ofTexts (parts : List String) : Fingerprint :=
  ofParts (parts.map Utf8.encode)

/-- The form for logs: the first twelve digits. -/
def short (f : Fingerprint) : String :=
  String.ofList (f.text.toList.take 12)

end Fingerprint

end RemoteShell
