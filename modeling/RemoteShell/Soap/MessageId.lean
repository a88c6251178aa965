/-!
# Message identifiers

Every request carries an identifier of its own: a random (version 4) UUID in uppercase, with the
scheme `uuid:` in front.
-/

namespace RemoteShell.Soap.MessageId

/-- The uppercase digit of a number below sixteen. -/
def digit (n : Nat) : Char :=
  if n < 10 then Char.ofNat (48 + n) else Char.ofNat (55 + n)

/-- The `count` lowest hexadecimal digits of a number. -/
def digits (count n : Nat) : String :=
  String.ofList ((List.range count).map fun i => digit (n >>> (4 * (count - 1 - i)) % 16))

/-- The identifier made from 128 random bits, six of which are overwritten by the version and the
variant. -/
def ofBits (n : Nat) : String :=
  let a := n >>> 96
  let b := n >>> 80
  let c := n >>> 64 % 0x1000 + 0x4000
  let d := n >>> 48 % 0x4000 + 0x8000
  "uuid:" ++ String.intercalate "-" [digits 8 a, digits 4 b, digits 4 c, digits 4 d, digits 12 n]

/-- Whether a text has the form of an identifier: groups of 8, 4, 4, 4 and 12 uppercase hexadecimal
digits behind `uuid:`. -/
def wellFormed (id : String) : Bool :=
  let isDigit := fun (c : Char) => ('0' ≤ c && c ≤ '9') || ('A' ≤ c && c ≤ 'F')
  match id.toList.splitOn '-' with
  | [a, b, c, d, e] =>
    a.take 5 == "uuid:".toList &&
      ([(a.drop 5, 8), (b, 4), (c, 4), (d, 4), (e, 12)] : List (List Char × Nat)).all fun g =>
        g.1.length == g.2 && g.1.all isDigit
  | _ => false

end RemoteShell.Soap.MessageId
