import RemoteShell.Settings.Value
import RemoteShell.Text.Quoted
import RemoteShell.Text.Utf16

/-!
# JSON

`Json.parse?` reads a text that holds exactly one value, and `Json.render` writes a value on one line.
A number with a fraction or an exponent is no integer, even if its value is one.

Texts are put together in UTF-16: an escape gives one unit, and a text whose units do not pair up is
refused.  Fuel bounds the nesting; the length of the text is always enough.
-/

namespace RemoteShell.Json

/-- The characters that may stand between tokens. -/
def isBlank (c : Char) : Bool :=
  c == ' ' || c == '\t' || c == '\n' || c == '\r'

/-- What follows the blanks at the front. -/
def skip (cs : List Char) : List Char :=
  cs.dropWhile isBlank

/-- The character that a one-letter escape stands for. -/
def escaped? : Char → Option Char
  | '"' => some '"'
  | '\\' => some '\\'
  | '/' => some '/'
  | 'b' => some '\x08'
  | 'f' => some '\x0c'
  | 'n' => some '\n'
  | 'r' => some '\r'
  | 't' => some '\t'
  | _ => none

/-- The number of four hexadecimal digits. -/
def unit? (a b c d : Char) : Option Nat := do
  let a ← Numeral.digit? 16 a
  let b ← Numeral.digit? 16 b
  let c ← Numeral.digit? 16 c
  let d ← Numeral.digit? 16 d
  return ((a * 16 + b) * 16 + c) * 16 + d

/-- The units of a text up to its closing quote, and what follows. -/
def units? : List Char → Option (List Nat × List Char)
  | [] => none
  | '"' :: rest => some ([], rest)
  | '\\' :: 'u' :: a :: b :: c :: d :: rest => do
    let u ← unit? a b c d
    let (us, rest) ← units? rest
    return (u :: us, rest)
  | '\\' :: e :: rest => do
    let c ← escaped? e
    let (us, rest) ← units? rest
    return (Utf16.units c ++ us, rest)
  | c :: rest =>
    if c.toNat < 0x20 || c = '\\' then none
    else do
      let (us, rest) ← units? rest
      return (Utf16.units c ++ us, rest)

/-- A text behind its opening quote, and what follows. -/
def text? (cs : List Char) : Option (String × List Char) := do
  let (us, rest) ← units? cs
  let chars ← (Utf16.join (us.map some)).mapM id
  return (String.ofList chars, rest)

/-- The digits at the front, of which there has to be one, and what follows. -/
def digits? (cs : List Char) : Option (List Char × List Char) :=
  let ds := cs.takeWhile Char.isDigit
  if ds.isEmpty then none else some (ds, cs.dropWhile Char.isDigit)

/-- The whole part of a number: zero, or digits without a zero in front. -/
def whole? : List Char → Option (List Char × List Char)
  | '0' :: rest => some (['0'], rest)
  | cs => digits? cs

/-- Drop the fraction of a number, if there is one; the flag says so. -/
def fraction? : List Char → Option (Bool × List Char)
  | '.' :: rest => (digits? rest).map fun (_, rest) => (true, rest)
  | cs => some (false, cs)

/-- Drop the exponent of a number, if there is one; the flag says so. -/
def exponent? : List Char → Option (Bool × List Char)
  | c :: rest =>
    if c = 'e' || c = 'E' then
      let behind := match rest with
        | '+' :: rest => rest
        | '-' :: rest => rest
        | rest => rest
      (digits? behind).map fun (_, rest) => (true, rest)
    else some (false, c :: rest)
  | [] => some (false, [])

/-- A number without its sign, and what follows.  The value is `none` if it is no integer. -/
def magnitude? (cs : List Char) : Option (Option Nat × List Char) := do
  let (ds, rest) ← whole? cs
  let (hasFraction, rest) ← fraction? rest
  let (hasExponent, rest) ← exponent? rest
  let n := ds.foldl (fun n c => n * 10 + (c.toNat - '0'.toNat)) 0
  return (if hasFraction || hasExponent then none else some n, rest)

/-- A number, and what follows.  Minus zero is no integer. -/
def number? : List Char → Option (Value × List Char)
  | '-' :: cs => do
    let (n, rest) ← magnitude? cs
    match n with
    | some (n + 1) => return (.integer (-(n + 1)), rest)
    | _ => return (.real, rest)
  | cs => do
    let (n, rest) ← magnitude? cs
    match n with
    | some n => return (.integer n, rest)
    | none => return (.real, rest)

/-- What follows a literal. -/
def behind? (literal : String) (cs : List Char) : Option (List Char) :=
  if literal.toList.isPrefixOf cs then some (cs.drop literal.length) else none

mutual

/-- A value, and what follows. -/
def value? : Nat → List Char → Option (Value × List Char)
  | 0, _ => none
  | fuel + 1, cs =>
    match skip cs with
    | '"' :: rest => (text? rest).map fun (s, rest) => (.text s, rest)
    | '[' :: rest =>
      match skip rest with
      | ']' :: rest => some (.list [], rest)
      | _ => (items? fuel rest).map fun (items, rest) => (.list items, rest)
    | '\x7b' :: rest =>
      match skip rest with
      | '\x7d' :: rest => some (.table [], rest)
      | _ => (entries? fuel rest).map fun (entries, rest) => (.table entries, rest)
    | 't' :: rest => (behind? "rue" rest).map fun rest => (.flag true, rest)
    | 'f' :: rest => (behind? "alse" rest).map fun rest => (.flag false, rest)
    | 'n' :: rest => (behind? "ull" rest).map fun rest => (.null, rest)
    | cs => number? cs

/-- The items of a list up to its end, of which there is at least one, and what follows. -/
def items? : Nat → List Char → Option (List Value × List Char)
  | 0, _ => none
  | fuel + 1, cs => do
    let (v, rest) ← value? fuel cs
    match skip rest with
    | ',' :: rest =>
      let (vs, rest) ← items? fuel rest
      return (v :: vs, rest)
    | ']' :: rest => return ([v], rest)
    | _ => none

/-- The entries of a table up to its end, of which there is at least one, and what follows. -/
def entries? : Nat → List Char → Option (List (String × Value) × List Char)
  | 0, _ => none
  | fuel + 1, cs =>
    match skip cs with
    | '"' :: rest => do
      let (key, rest) ← text? rest
      match skip rest with
      | ':' :: rest =>
        let (v, rest) ← value? fuel rest
        match skip rest with
        | ',' :: rest =>
          let (es, rest) ← entries? fuel rest
          return ((key, v) :: es, rest)
        | '\x7d' :: rest => return ([(key, v)], rest)
        | _ => none
      | _ => none
    | _ => none

end

/-- The value that a text holds. -/
def parse? (text : String) : Option Value := do
  let cs := text.toList
  let (v, rest) ← value? (2 * cs.length + 2) cs
  if (skip rest).isEmpty then some v else none

/-- One character of a text between quotes. -/
def escapeChar : Char → String
  | '"' => "\\\""
  | '\\' => "\\\\"
  | '\x08' => "\\b"
  | '\x0c' => "\\f"
  | '\n' => "\\n"
  | '\r' => "\\r"
  | '\t' => "\\t"
  | c =>
    if c.toNat < 0x20 then
      "\\u00" ++ (if c.toNat < 0x10 then "0" else "1") ++ Text.hexDigits (c.toNat % 16)
    else String.singleton c

/-- A text between quotes. -/
def quote (s : String) : String :=
  "\"" ++ String.join (s.toList.map escapeChar) ++ "\""

mutual

/-- A value on one line.  Words are written as texts. -/
def render : Value → String
  | .null => "null"
  | .flag b => if b then "true" else "false"
  | .integer n => toString n
  | .real => "0.0"
  | .text s => quote s
  | .word s => quote s
  | .list items => "[" ++ String.intercalate "," (renderItems items) ++ "]"
  | .table entries => "\x7b" ++ String.intercalate "," (renderEntries entries) ++ "\x7d"

/-- The values of a list. -/
def renderItems : List Value → List String
  | [] => []
  | v :: rest => render v :: renderItems rest

/-- The entries of a table. -/
def renderEntries : List (String × Value) → List String
  | [] => []
  | (k, v) :: rest => (quote k ++ ":" ++ render v) :: renderEntries rest

end

end RemoteShell.Json
