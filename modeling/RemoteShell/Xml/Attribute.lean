import RemoteShell.Xml.Escape

/-!
# The inside of a tag

A tag holds a name, up to the first blank, and then attributes.  `Tag.attributes` reads them one
after the other and stops at the first fault, so what it finds is a list of attributes and the fault
that ended it, if any.  Names are taken as they stand; two attributes with one name are a fault
unless the reader does not ask for unique names.
-/

namespace RemoteShell.Xml

/-- The inside of an opening or empty tag. -/
structure Tag where
  name : List Char
  /-- What follows the name. -/
  rest : List Char
  deriving DecidableEq, Repr

/-- Split the inside of a tag behind its name. -/
def Tag.ofContent (content : List Char) : Tag :=
  ⟨content.takeWhile (!isSpace ·), content.dropWhile (!isSpace ·)⟩

/-- An attribute as it is written, with references unresolved. -/
structure RawAttribute where
  name : List Char
  value : List Char
  deriving DecidableEq, Repr

/-- The attributes before the first fault, and that fault. -/
structure Attributes where
  found : List RawAttribute
  fault : Option AttributeFault

/-- Where the reader of attributes stands. -/
inductive AttributePlace where
  | between
  /-- In a name that starts at `start`; its characters are kept last first. -/
  | name (start : Nat) (chars : List Char)
  /-- In the blanks behind a name. -/
  | afterName (start : Nat) (name : List Char)
  /-- Behind an equals sign. -/
  | beforeValue (name : List Char)
  /-- In a quoted value, kept last character first. -/
  | value (name : List Char) (quote : Char) (chars : List Char)

/-- Names used so far, with their places. -/
abbrev UsedNames := List (List Char × Nat)

namespace Attributes

/-- Nothing but a fault. -/
def failed (fault : AttributeFault) : Attributes := ⟨[], some fault⟩

/-- One attribute more in front. -/
def cons (a : RawAttribute) (rest : Attributes) : Attributes := ⟨a :: rest.found, rest.fault⟩

/-- The fault of a name that has been used before, if names have to be unique. -/
def repeated (unique : Bool) (used : UsedNames) (start : Nat) (name : List Char) :
    Option AttributeFault :=
  if unique then (used.find? (·.1 == name)).map fun u => .duplicate start u.2 else none

/-- Read the attributes in what follows byte `offset`. -/
def scan (unique : Bool) (offset : Nat) (used : UsedNames) (place : AttributePlace) :
    List Char → Attributes
  | [] =>
    match place with
    | .between => ⟨[], none⟩
    | .name .. | .afterName .. => failed (.noEquals offset)
    | .beforeValue _ => failed (.noValue offset)
    | .value _ q _ => failed (.noQuote offset q)
  | c :: rest =>
    let next := offset + c.utf8Size
    let named := fun (start : Nat) (name : List Char) =>
      match repeated unique used start name with
      | some f => failed f
      | none => scan unique next ((name, start) :: used) (.beforeValue name) rest
    match place with
    | .between =>
      if isSpace c then scan unique next used .between rest
      else scan unique next used (.name offset [c]) rest
    | .name start chars =>
      if c = '=' then named start chars.reverse
      else if isSpace c then scan unique next used (.afterName start chars.reverse) rest
      else scan unique next used (.name start (c :: chars)) rest
    | .afterName start name =>
      if c = '=' then named start name
      else if isSpace c then scan unique next used (.afterName start name) rest
      else failed (.noEquals offset)
    | .beforeValue name =>
      if isSpace c then scan unique next used (.beforeValue name) rest
      else if c = '"' || c = '\'' then scan unique next used (.value name c []) rest
      else failed (.unquoted offset)
    | .value name quote chars =>
      if c = quote then cons ⟨name, chars.reverse⟩ (scan unique next used .between rest)
      else scan unique next used (.value name quote (c :: chars)) rest

end Attributes

/-- The attributes of a tag. -/
def Tag.attributes (unique : Bool) (t : Tag) : Attributes :=
  Attributes.scan unique (byteLength t.name) [] .between t.rest

/-- The part of a name before its first colon, if it has one, and the rest. -/
def splitName (name : List Char) : Option (List Char) × List Char :=
  match name.dropWhile (· ≠ ':') with
  | [] => (none, name)
  | _ :: rest => (some (name.takeWhile (· ≠ ':')), rest)

end RemoteShell.Xml
