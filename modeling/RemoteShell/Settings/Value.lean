import RemoteShell.Text.Numeral

/-!
# Values in configuration texts

The formats of configuration files share one kind of value.  Where a format writes words without
quotes, a word has no type of its own: `80` is a number where a number is asked for and a text where a
text is asked for.

The readers below give `none` for a value of the wrong type or out of range.
-/

namespace RemoteShell

/-- A value in a configuration text. -/
inductive Value where
  | null
  | flag (b : Bool)
  | integer (n : Int)
  /-- A number that is no integer. -/
  | real
  | text (s : String)
  /-- A word without quotes, in a format where the reader of the value gives it a type. -/
  | word (s : String)
  | list (items : List Value)
  /-- The entries in order; a key may stand twice. -/
  | table (entries : List (String × Value))

namespace Value

/-- Whether a word stands for an absent value. -/
def isNullWord (w : String) : Bool :=
  w = "" || w = "~" || w = "null" || w = "Null" || w = "NULL"

/-- A value that may be absent. -/
def optional? {α : Type} (read : Value → Option α) : Value → Option (Option α)
  | null => some none
  | word w => if isNullWord w then some none else (read (word w)).map some
  | v => (read v).map some

/-- A text. -/
def text? : Value → Option String
  | text s => some s
  | word w => some w
  | _ => none

/-- A flag. -/
def flag? : Value → Option Bool
  | flag b => some b
  | word w =>
    if w = "true" || w = "True" || w = "TRUE" then some true
    else if w = "false" || w = "False" || w = "FALSE" then some false
    else none
  | _ => none

/-- The largest number of 64 bits. -/
def maxWord : Nat := UInt64.size - 1

/-- A number written in one base, without a sign. -/
def based? (base : Nat) (cs : List Char) : Option Nat :=
  match cs with
  | '+' :: _ => none
  | _ => (Numeral.unsigned base maxWord cs).toOption

/-- The number that a word stands for: in decimal without zeros in front, or behind a mark of another
base. -/
def wordNumber? (cs : List Char) : Option Nat :=
  let behind := match cs with
    | '+' :: rest => rest
    | cs => cs
  match behind with
  | '0' :: 'x' :: rest => based? 16 rest
  | '0' :: 'o' :: rest => based? 8 rest
  | '0' :: 'b' :: rest => based? 2 rest
  | '0' :: _ :: _ => none
  | _ => based? 10 behind

/-- A number from zero to `max`. -/
def number? (max : Nat) : Value → Option Nat
  | integer n => if 0 ≤ n && n ≤ max then some n.toNat else none
  | word w => (wordNumber? w.toList).filter (· ≤ max)
  | _ => none

/-- One of some names. -/
def choice? {α : Type} (all : List α) (name : α → String) : Value → Option α
  | text s => all.find? (name · == s)
  | word s => all.find? (name · == s)
  | table [(s, null)] => all.find? (name · == s)
  | _ => none

/-- The entries of a table.  Where words have no type, nothing at all is an empty table. -/
def entries? : Value → Option (List (String × Value))
  | table entries => some entries
  | word "" => some []
  | _ => none

/-- What is left of a list of fields once a record has taken its value for one of them: the value of
a field in a table (`none` within if it is absent), or the next item of a list. -/
inductive Fields where
  | named (entries : List (String × Value))
  | ordered (items : List Value)

/-- The fields of a record, which is a table, or a list of the values in the record's order. -/
def fields? : Value → Option Fields
  | list items => some (.ordered items)
  | v => v.entries?.map .named

/-- Take the value of a field.  In a table it must not stand twice. -/
def Fields.take? (name : String) : Fields → Option (Option Value × Fields)
  | .named entries =>
    match entries.filter (·.1 == name) with
    | [] => some (none, .named entries)
    | [e] => some (some e.2, .named entries)
    | _ => none
  | .ordered [] => some (none, .ordered [])
  | .ordered (v :: rest) => some (some v, .ordered rest)

/-- Whether fields of a list are left over. -/
def Fields.isDone : Fields → Bool
  | .named _ => true
  | .ordered items => items.isEmpty

/-- Whether the fields come as a list. -/
def Fields.isOrdered : Fields → Bool
  | .named _ => false
  | .ordered _ => true

/-- A reader of the fields of a record. -/
abbrev FieldReader := StateT Fields Option

/-- The value of a field that may be absent or null.  A list has to have an item for it. -/
def optionalField {α : Type} (name : String) (read : Value → Option α) :
    FieldReader (Option α) := fun fields => do
  let (value, rest) ← fields.take? name
  match value with
  | none => if fields.isOrdered then none else some (none, rest)
  | some v => (optional? read v).map fun a => (a, rest)

/-- The value of a field, or `default` if it is absent; also a list may end in front of it. -/
def fieldWithDefault {α : Type} (name : String) (default : α) (read : Value → Option α) :
    FieldReader α := fun fields => do
  let (value, rest) ← fields.take? name
  match value with
  | none => some (default, rest)
  | some v => (read v).map fun a => (a, rest)

/-- A record, by a reader of its fields. -/
def record? {α : Type} (read : FieldReader α) (v : Value) : Option α := do
  let (a, rest) ← read (← v.fields?)
  if rest.isDone then some a else none

end Value

end RemoteShell
