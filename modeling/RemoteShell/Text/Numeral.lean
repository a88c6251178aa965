/-!
# Reading integers

`Numeral.digits` reads digits from left to right against an upper bound, so of two faults in a
numeral the one further left is reported: `12x` has a bad digit, and a numeral that leaves its range
before a bad digit is too large.  `unsigned` allows a plus sign, `signed` either sign.
-/

namespace RemoteShell

/-- Why a text is not the numeral of a number in range. -/
inductive NumeralFault where
  | empty
  | badDigit
  | tooLarge
  | tooSmall
  deriving DecidableEq, Repr

/-- The fault in words. -/
def NumeralFault.message : NumeralFault → String
  | empty => "cannot parse integer from empty string"
  | badDigit => "invalid digit found in string"
  | tooLarge => "number too large to fit in target type"
  | tooSmall => "number too small to fit in target type"

namespace Numeral

/-- The value of an ASCII digit in bases up to sixteen. -/
def digit? (base : Nat) (c : Char) : Option Nat :=
  let value :=
    if '0' ≤ c ∧ c ≤ '9' then some (c.toNat - '0'.toNat)
    else if 'a' ≤ c ∧ c ≤ 'f' then some (c.toNat - 'a'.toNat + 10)
    else if 'A' ≤ c ∧ c ≤ 'F' then some (c.toNat - 'A'.toNat + 10)
    else none
  value.filter (· < base)

/-- Continue the numeral that has the value `acc` so far; `fault` is reported once the value
exceeds `limit`. -/
def digits (base limit : Nat) (fault : NumeralFault) (acc : Nat) :
    List Char → Except NumeralFault Nat
  | [] => .ok acc
  | c :: rest =>
    match digit? base c with
    | none => .error .badDigit
    | some d =>
      let value := acc * base + d
      if limit < value then .error fault else digits base limit fault value rest

/-- A nonempty row of digits. -/
def natural (base limit : Nat) (fault : NumeralFault) : List Char → Except NumeralFault Nat
  | [] => .error .badDigit
  | cs => digits base limit fault 0 cs

/-- A number from zero to `limit`, with an optional plus sign. -/
def unsigned (base limit : Nat) : List Char → Except NumeralFault Nat
  | [] => .error .empty
  | '+' :: rest => natural base limit .tooLarge rest
  | cs => natural base limit .tooLarge cs

/-- A number from `-2^31` to `2^31 - 1` in decimal, with an optional sign. -/
def int32 : List Char → Except NumeralFault Int
  | [] => .error .empty
  | '+' :: rest => (natural 10 ((1 <<< 31) - 1) .tooLarge rest).map Int.ofNat
  | '-' :: rest => (natural 10 (1 <<< 31) .tooSmall rest).map fun n => -Int.ofNat n
  | cs => (natural 10 ((1 <<< 31) - 1) .tooLarge cs).map Int.ofNat

end Numeral

end RemoteShell
