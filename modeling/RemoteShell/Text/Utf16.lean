import RemoteShell.Text.Utf8

/-!
# UTF-16

Characters above U+FFFF take two units, a high surrogate and a low one.  `encodeLittle` writes the
units of a text with the low byte first.  `decodeLossy` reads bytes in either order and puts U+FFFD
in the place of a surrogate without its partner and of an odd byte at the end.
-/

namespace RemoteShell.Utf16

/-- The code units of one character. -/
def units (c : Char) : List Nat :=
  if c.toNat < 0x10000 then [c.toNat]
  else [0xD800 + (c.toNat - 0x10000) / 0x400, 0xDC00 + (c.toNat - 0x10000) % 0x400]

/-- The code units of a text. -/
def encode (s : String) : List Nat :=
  s.toList.flatMap units

/-- The bytes of a text, low byte first. -/
def encodeLittle (s : String) : List UInt8 :=
  (encode s).flatMap fun u => [UInt8.ofNat (u % 256), UInt8.ofNat (u / 256)]

/-- Units out of bytes; `none` stands for an odd byte at the end. -/
def pair (little : Bool) : List UInt8 → List (Option Nat)
  | a :: b :: rest =>
    some (if little then a.toNat + 256 * b.toNat else 256 * a.toNat + b.toNat) :: pair little rest
  | [_] => [none]
  | [] => []

/-- Whether a unit is the first of a surrogate pair. -/
def isHigh (u : Nat) : Bool := 0xD800 ≤ u && u < 0xDC00

/-- Whether a unit is the second of a surrogate pair. -/
def isLow (u : Nat) : Bool := 0xDC00 ≤ u && u < 0xE000

/-- Characters out of units, where `high` is a first surrogate that waits for its partner; `none`
stands for what is malformed. -/
def joinFrom (high : Option Nat) : List (Option Nat) → List (Option Char)
  | [] => if high.isSome then [none] else []
  | u? :: rest =>
    let alone := fun (_ : Unit) => match u? with
      | none => none :: joinFrom none rest
      | some u =>
        if isHigh u then joinFrom (some u) rest
        else if isLow u then none :: joinFrom none rest
        else some (Char.ofNat u) :: joinFrom none rest
    match high, u? with
    | some h, some u =>
      if isLow u then
        some (Char.ofNat (0x10000 + (h - 0xD800) * 0x400 + (u - 0xDC00))) :: joinFrom none rest
      else none :: alone ()
    | some _, none => none :: alone ()
    | none, _ => alone ()

/-- Characters out of units; `none` stands for what is malformed. -/
def join (us : List (Option Nat)) : List (Option Char) :=
  joinFrom none us

/-- The text of bytes in the given order, with U+FFFD for what is malformed. -/
def decodeLossy (little : Bool) (bytes : List UInt8) : String :=
  String.ofList ((join (pair little bytes)).map (·.getD Utf8.replacement))

end RemoteShell.Utf16
