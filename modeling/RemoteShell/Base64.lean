import RemoteShell.Text.Utf8

/-!
# Base64

The standard alphabet with padding.  `encode` writes three bytes as four symbols and fills the last
group with `=`.  `decode` accepts exactly what `encode` writes: the padding has to be there, and the
bits of the last symbol that stand for no byte have to be zero.

A text that is refused gets the fault of the place where reading stops.  Reading takes eight bytes at
a time; only the last, possibly shorter, group may hold padding.
-/

namespace RemoteShell.Base64

/-- The symbol of a six-bit number. -/
def symbol (n : Nat) : UInt8 :=
  if n < 26 then UInt8.ofNat (65 + n)
  else if n < 52 then UInt8.ofNat (97 + (n - 26))
  else if n < 62 then UInt8.ofNat (48 + (n - 52))
  else if n = 62 then 43
  else 47

/-- The six-bit number of a symbol. -/
def value? (b : UInt8) : Option Nat :=
  if 65 ≤ b && b ≤ 90 then some (b.toNat - 65)
  else if 97 ≤ b && b ≤ 122 then some (b.toNat - 97 + 26)
  else if 48 ≤ b && b ≤ 57 then some (b.toNat - 48 + 52)
  else if b == 43 then some 62
  else if b == 47 then some 63
  else none

/-- The padding symbol `=`. -/
def pad : UInt8 := 61

/-- The symbols of some bytes. -/
def encodeBytes : List UInt8 → List UInt8
  | a :: b :: c :: rest =>
    symbol (a.toNat / 4) :: symbol (a.toNat % 4 * 16 + b.toNat / 16) ::
      symbol (b.toNat % 16 * 4 + c.toNat / 64) :: symbol (c.toNat % 64) :: encodeBytes rest
  | [a, b] =>
    [symbol (a.toNat / 4), symbol (a.toNat % 4 * 16 + b.toNat / 16), symbol (b.toNat % 16 * 4), pad]
  | [a] => [symbol (a.toNat / 4), symbol (a.toNat % 4 * 16), pad, pad]
  | [] => []

/-- The text of some bytes. -/
def encode (bytes : List UInt8) : String :=
  String.ofList ((encodeBytes bytes).map fun b => Char.ofNat b.toNat)

/-- Why a text is not Base64. -/
inductive Fault where
  /-- A byte that may not stand where it does. -/
  | byte (value : UInt8) (offset : Nat)
  /-- A single symbol is left over after the groups of four. -/
  | remainder
  /-- The last symbol has bits that belong to no byte. -/
  | lastSymbol (value : UInt8) (offset : Nat)
  /-- Symbols and padding together do not fill groups of four. -/
  | padding
  deriving DecidableEq, Repr

/-- The fault in words. -/
def Fault.message : Fault → String
  | byte v o => "Invalid byte " ++ toString v.toNat ++ ", offset " ++ toString o ++ "."
  | remainder => "Encoded text cannot have a 6-bit remainder."
  | lastSymbol v o => "Invalid last symbol " ++ toString v.toNat ++ ", offset " ++ toString o ++ "."
  | padding => "Invalid padding"

/-- The values of symbols that must all be in the alphabet; `offset` is the place of the first. -/
def symbols (offset : Nat) : List UInt8 → Except Fault (List Nat)
  | [] => .ok []
  | b :: rest =>
    match value? b with
    | none => .error (.byte b offset)
    | some v => (symbols (offset + 1) rest).map (v :: ·)

/-- What has been read of the last group. -/
structure Ending where
  /-- The values read, the last one first. -/
  values : List Nat
  /-- The last symbol read. -/
  last : UInt8
  /-- How many padding symbols have been read. -/
  pads : Nat
  /-- The place of the first padding symbol. -/
  firstPad : Nat

/-- Read the last group, which starts at `start`; `index` counts from there. -/
def ending (start index : Nat) (e : Ending) : List UInt8 → Except Fault Ending
  | [] => .ok e
  | b :: rest =>
    if b == pad then
      if index % 4 < 2 then
        .error (.byte b (if e.pads = 0 then start + index else e.firstPad))
      else
        let firstPad := if e.pads = 0 then start + index else e.firstPad
        ending start (index + 1) { e with pads := e.pads + 1, firstPad } rest
    else if 0 < e.pads then .error (.byte pad e.firstPad)
    else
      match value? b with
      | none => .error (.byte b (start + index))
      | some v => ending start (index + 1) { e with values := v :: e.values, last := b } rest

/-- The bits that the last of `n` values holds beyond whole bytes. -/
def spareBits (n last : Nat) : Nat :=
  match n % 4 with
  | 2 => last % 16
  | 3 => last % 4
  | _ => 0

/-- Whole bytes out of six-bit values; spare bits are dropped. -/
def bytesOf : List Nat → List UInt8
  | a :: b :: c :: d :: rest =>
    UInt8.ofNat (a * 4 + b / 16) :: UInt8.ofNat (b % 16 * 16 + c / 4) ::
      UInt8.ofNat (c % 4 * 64 + d) :: bytesOf rest
  | [a, b, c] => [UInt8.ofNat (a * 4 + b / 16), UInt8.ofNat (b % 16 * 16 + c / 4)]
  | [a, b] => [UInt8.ofNat (a * 4 + b / 16)]
  | _ => []

/-- The bytes that some symbols stand for. -/
def decodeBytes (input : List UInt8) : Except Fault (List UInt8) := do
  let length := input.length
  if length % 4 = 1 then
    match input.getLast? with
    | some b =>
      if b != pad && (value? b).isNone then throw (.byte b (length - 1))
    | none => pure ()
    throw .remainder
  let start := (length - 1) / 8 * 8
  let body ← symbols 0 (input.take start)
  let e ← ending start 0 ⟨[], 0, 0, 0⟩ (input.drop start)
  let count := e.values.length
  if (e.pads + count) % 4 ≠ 0 then throw .padding
  if spareBits count (e.values.headD 0) ≠ 0 then throw (.lastSymbol e.last (start + count - 1))
  return bytesOf (body ++ e.values.reverse)

/-- The bytes that a text stands for. -/
def decode (text : String) : Except Fault (List UInt8) :=
  decodeBytes (Utf8.encode text)

end RemoteShell.Base64
