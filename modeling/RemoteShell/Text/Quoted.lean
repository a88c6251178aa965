import RemoteShell.Text.Printable

/-!
# Quoted texts and one-line records

Descriptions of values are written for logs on one line.  A text is written between double quotes
with escapes for the quote, the backslash and everything that would not be visible; a record is
written as `Name { field: value, .. }`.

`Shown` is the tree of such a description and `Shown.render` its text.
-/

namespace RemoteShell.Text

/-- The lowercase hexadecimal digits of a number, without leading zeros. -/
def hexDigits (n : Nat) : String :=
  String.ofList (Nat.toDigits 16 n)

/-- One character inside quotes.  File paths also escape the apostrophe, other texts do not. -/
def quotedChar (apostrophe : Bool) (c : Char) : String :=
  match c with
  | '\x00' => "\\0"
  | '\t' => "\\t"
  | '\r' => "\\r"
  | '\n' => "\\n"
  | '\\' => "\\\\"
  | '"' => "\\\""
  | '\'' => if apostrophe then "\\'" else "'"
  | c =>
    if !isExtending c && isPrintable c then String.singleton c
    else "\\u\x7b" ++ hexDigits c.toNat ++ "\x7d"

/-- The text between double quotes. -/
def quoted (s : String) : String :=
  "\"" ++ String.join (s.toList.map (quotedChar false)) ++ "\""

/-- A file path between double quotes. -/
def quotedPath (s : String) : String :=
  "\"" ++ String.join (s.toList.map (quotedChar true)) ++ "\""

/-- One byte inside quotes: visible ASCII and the space as they are, all else by its number. -/
def quotedByte (b : UInt8) : String :=
  if b == 34 then "\\\""
  else if 32 ≤ b && b ≤ 126 then String.singleton (Char.ofNat b.toNat)
  else "0x" ++ String.ofList ((Nat.toDigits 16 b.toNat).map Char.toUpper)

/-- Bytes between double quotes. -/
def quotedBytes (bytes : List UInt8) : String :=
  "\"" ++ String.join (bytes.map quotedByte) ++ "\""

/-- What a one-line description is made of. -/
inductive Shown where
  /-- A number, a flag or a name. -/
  | word (text : String)
  /-- A text, shown between quotes. -/
  | text (s : String)
  /-- A file path, shown between quotes. -/
  | path (s : String)
  /-- A value that may be absent and is. -/
  | absent
  /-- A value that may be absent and is not. -/
  | present (value : Shown)
  /-- A record; `more` says that some of its fields are left out. -/
  | record (name : String) (fields : List (String × Shown)) (more : Bool)

namespace Shown

/-- An optional value. -/
def option {α : Type} (show_ : α → Shown) : Option α → Shown
  | none => absent
  | some a => present (show_ a)

/-- A flag. -/
def flag (b : Bool) : Shown :=
  word (if b then "true" else "false")

mutual

/-- The description on one line. -/
def render : Shown → String
  | word t => t
  | text s => quoted s
  | path s => quotedPath s
  | absent => "None"
  | present v => "Some(" ++ v.render ++ ")"
  | record name fields more =>
    let parts := renderFields fields
    name ++ " \x7b " ++ String.intercalate ", " (if more then parts ++ [".."] else parts) ++ " \x7d"

/-- The fields of a record, each as `name: value`. -/
def renderFields : List (String × Shown) → List String
  | [] => []
  | (k, v) :: rest => (k ++ ": " ++ v.render) :: renderFields rest

end

end Shown

end RemoteShell.Text
