/-!
# UTF-8

`Utf8.encode` writes a text as bytes.  Reading goes through `Utf8.scan`, which gives one item for
each character and one empty item for each malformed sequence: the longest run of bytes that could
still have become a character, or else a single byte.  Two readers look at the items:

* `decode?` accepts well-formed bytes only;
* `decodeLossy` puts U+FFFD in the place of every malformed sequence.
-/

namespace RemoteShell.Utf8

/-- The bytes of a text. -/
def encode (s : String) : List UInt8 :=
  s.toList.flatMap String.utf8EncodeChar

/-- A sequence that has begun: how many bytes are still owed, the bits read so far, and the bounds
of the next byte. -/
structure Begun where
  owed : Nat
  bits : Nat
  low : UInt8
  high : UInt8

/-- What the first byte of a sequence says. -/
inductive Lead where
  /-- The byte is a character of its own. -/
  | whole (c : Char)
  /-- More bytes are owed. -/
  | begins (seq : Begun)
  /-- No sequence begins with the byte. -/
  | malformed

/-- The meaning of a first byte.  The bounds on the second byte shut out overlong forms, surrogates
and numbers above U+10FFFF. -/
def lead (b : UInt8) : Lead :=
  if b ≤ 0x7F then .whole (Char.ofNat b.toNat)
  else if 0xC2 ≤ b && b ≤ 0xDF then .begins ⟨1, b.toNat % 0x20, 0x80, 0xBF⟩
  else if b == 0xE0 then .begins ⟨2, 0, 0xA0, 0xBF⟩
  else if b == 0xED then .begins ⟨2, 0xD, 0x80, 0x9F⟩
  else if 0xE1 ≤ b && b ≤ 0xEF then .begins ⟨2, b.toNat % 0x10, 0x80, 0xBF⟩
  else if b == 0xF0 then .begins ⟨3, 0, 0x90, 0xBF⟩
  else if 0xF1 ≤ b && b ≤ 0xF3 then .begins ⟨3, b.toNat % 0x8, 0x80, 0xBF⟩
  else if b == 0xF4 then .begins ⟨3, 4, 0x80, 0x8F⟩
  else .malformed

/-- One item for each character (`some`) or malformed sequence (`none`); `seq` is the sequence that
the bytes continue. -/
def scanFrom (seq : Option Begun) : List UInt8 → List (Option Char)
  | [] => if seq.isSome then [none] else []
  | b :: rest =>
    let first := fun (_ : Unit) => match lead b with
      | .whole c => some c :: scanFrom none rest
      | .begins s => scanFrom (some s) rest
      | .malformed => none :: scanFrom none rest
    match seq with
    | none => first ()
    | some s =>
      if s.low ≤ b && b ≤ s.high then
        let bits := s.bits * 64 + b.toNat % 64
        if s.owed ≤ 1 then some (Char.ofNat bits) :: scanFrom none rest
        else scanFrom (some ⟨s.owed - 1, bits, 0x80, 0xBF⟩) rest
      else none :: first ()

/-- The characters and malformed sequences of some bytes, in order. -/
def scan (bytes : List UInt8) : List (Option Char) :=
  scanFrom none bytes

/-- The text of well-formed bytes. -/
def decode? (bytes : List UInt8) : Option String :=
  ((scan bytes).mapM id).map String.ofList

/-- The character written for what cannot be read. -/
def replacement : Char := '\uFFFD'

/-- The text with U+FFFD for every malformed sequence. -/
def decodeLossy (bytes : List UInt8) : String :=
  String.ofList ((scan bytes).map (·.getD replacement))

end RemoteShell.Utf8
