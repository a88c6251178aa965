import RemoteShell.Xml.Fault

/-!
# References in texts and attribute values

`escape` replaces the five characters with a role in markup by entities.  `unescape` resolves the
five entities and numeric character references; it is a machine with one step for each character,
whose state is the reference it is inside of, if any.
-/

namespace RemoteShell.Xml

/-- The bytes of a text given as characters. -/
def byteLength (cs : List Char) : Nat :=
  cs.foldr (fun c n => c.utf8Size + n) 0

/-- The blanks of XML. -/
def isSpace (c : Char) : Bool :=
  c == ' ' || c == '\t' || c == '\n' || c == '\r'

/-- A character as it stands in a text or an attribute value. -/
def escapeChar : Char → List Char
  | '&' => "&amp;".toList
  | '<' => "&lt;".toList
  | '>' => "&gt;".toList
  | '"' => "&quot;".toList
  | '\'' => "&apos;".toList
  | c => [c]

/-- A text with entities for the characters that have a role in markup. -/
def escape (s : String) : String :=
  String.ofList (s.toList.flatMap escapeChar)

/-- The character of a predefined entity. -/
def entity? : List Char → Option Char
  | ['l', 't'] => some '<'
  | ['g', 't'] => some '>'
  | ['a', 'm', 'p'] => some '&'
  | ['a', 'p', 'o', 's'] => some '\''
  | ['q', 'u', 'o', 't'] => some '"'
  | _ => none

/-- The character with a number, given as the digits between `#` and the semicolon. -/
def characterNumbered (digits : List Char) : Except ReferenceFault Char :=
  let (base, ds) := match digits with
    | 'x' :: rest => (16, rest)
    | ds => (10, ds)
  match ds with
  | '+' :: _ => .error .sign
  | '-' :: _ => .error .sign
  | _ =>
    match Numeral.unsigned base (UInt32.size - 1) ds with
    | .error f => .error (.numeral f)
    | .ok n =>
      if n = 0 then .error (.forbidden n)
      else if n.isValidChar then .ok (Char.ofNat n)
      else .error (.noCharacter n)

/-- The character that the name between `&` and `;` stands for; the name starts at byte `start`. -/
def resolve (start : Nat) (name : List Char) : Except ReferenceFault Char :=
  match name with
  | '#' :: digits => characterNumbered digits
  | _ =>
    match entity? name with
    | some c => .ok c
    | none => .error (.unknown start (start + byteLength name) (String.ofList name))

/-- Resolve the references in what follows.  `place` counts the bytes before it; `inside` is the
name read so far of a reference that is open, last character first. -/
def unescapeFrom (place : Nat) (inside : Option (List Char)) :
    List Char → Except ReferenceFault (List Char)
  | [] =>
    match inside with
    | none => .ok []
    | some name => .error (.unterminated (place - byteLength name - 1) place)
  | c :: rest =>
    let next := place + c.utf8Size
    match inside with
    | none =>
      if c = '&' then unescapeFrom next (some []) rest
      else (unescapeFrom next none rest).map (c :: ·)
    | some name =>
      let start := place - byteLength name
      if c = '&' then .error (.unterminated (start - 1) (place + byteLength (c :: rest)))
      else if c = ';' then do
        let x ← resolve start name.reverse
        let xs ← unescapeFrom next none rest
        return x :: xs
      else unescapeFrom next (some (c :: name)) rest

/-- The text with all references resolved. -/
def unescape (cs : List Char) : Except ReferenceFault (List Char) :=
  unescapeFrom 0 none cs

end RemoteShell.Xml
