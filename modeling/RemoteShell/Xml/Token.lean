import RemoteShell.Xml.Attribute

/-!
# Tokens of an XML text

`Lexer.step` reads one character.  A token is finished at the `<` that ends a text, or at the `>`
that ends a piece of markup; it starts where the token before it ended, so blanks that are dropped in
front of markup belong to the markup.

Texts are trimmed at both ends, and a text of blanks alone is no token.  Within a tag, `>` between
quotes does not end it.  A closing tag has to carry the name of the innermost open tag.

`tokens` is the whole reading: the tokens with their places, and the fault that ended it, if any.
-/

namespace RemoteShell.Xml

/-- A piece of an XML text. -/
inductive Token where
  | opening (tag : Tag)
  | empty (tag : Tag)
  | closing
  /-- A trimmed text, with references unresolved. -/
  | text (raw : List Char)
  /-- The inside of a CDATA section. -/
  | data (raw : List Char)
  /-- A comment, a declaration, an instruction or a document type. -/
  | aside
  deriving DecidableEq, Repr

/-- The piece of the text that the lexer is inside of.  Characters are kept last first. -/
inductive Mode where
  /-- In a text whose leading blanks have been dropped. -/
  | text (chars : List Char)
  /-- Behind `<`. -/
  | markup
  /-- In a tag, and in a quoted part of it if there is a `quote`. -/
  | tag (quote : Option Char) (chars : List Char)
  /-- Behind `<!`. -/
  | bang
  | instruction (chars : List Char)
  | comment (chars : List Char)
  | data (chars : List Char)
  /-- In a document type with `depth` unmatched `<` inside. -/
  | doctype (depth : Nat) (chars : List Char)

/-- The state of reading. -/
structure Lexer where
  /-- Bytes read. -/
  place : Nat
  /-- Where the current token starts. -/
  mark : Nat
  /-- The names of the open tags, innermost first. -/
  opened : List (List Char)
  mode : Mode

/-- A token and the byte at which it starts. -/
abbrev Placed := Nat × Token

/-- Without the blanks at the front. -/
def dropSpaces (cs : List Char) : List Char :=
  cs.dropWhile isSpace

namespace Lexer

/-- The state before the first character. -/
def start : Lexer := ⟨0, 0, [], .text []⟩

/-- The token that the inside of a closing tag, behind its slash, gives. -/
def closing (opened : List (List Char)) (content : List Char) :
    Except Fault (Token × List (List Char)) :=
  let trimmed := (dropSpaces content.reverse).reverse
  let name := if trimmed.isEmpty then content else trimmed
  match opened with
  | [] => .error (.unmatched (String.ofList name))
  | expected :: rest =>
    if name = expected then .ok (.closing, rest)
    else .error (.mismatched (String.ofList expected) (String.ofList name))

/-- The token that the inside of a tag gives, and the names of the tags open behind it. -/
def tagToken (opened : List (List Char)) (content : List Char) :
    Except Fault (Token × List (List Char)) :=
  match content with
  | '/' :: rest => closing opened rest
  | _ =>
    if content.getLast? = some '/' then .ok (.empty (Tag.ofContent content.dropLast), opened)
    else
      let tag := Tag.ofContent content
      .ok (.opening tag, tag.name :: opened)

/-- The token of a finished `<!…>` that began as a comment. -/
def commentToken (chars : List Char) : Except Fault Token :=
  if "!--".toList.isPrefixOf chars.reverse then .ok .aside else .error (.unclosed .comment)

/-- The token of a finished `<!…>` that began as a CDATA section; `chars` ends in `]]`. -/
def dataToken (chars : List Char) : Except Fault Token :=
  if "![CDATA[".toList.isPrefixOf chars.reverse then
    .ok (.data ((chars.drop 2).reverse.drop 8))
  else .error (.unclosed .characterData)

/-- The token of a finished `<!…>` that began as a document type. -/
def doctypeToken (chars : List Char) : Except Fault Token :=
  let content := chars.reverse
  if (content.take 8).map Char.toUpper = "!DOCTYPE".toList then
    if (dropSpaces (content.drop 8)).isEmpty then .error .noDoctypeName else .ok .aside
  else .error (.unclosed .doctype)

/-- The state behind a finished piece of markup. -/
def finish (l : Lexer) (next : Nat) (opened : List (List Char)) : Lexer :=
  { l with place := next, mark := next, opened, mode := .text [] }

/-- One character of a tag. -/
def stepTag (l : Lexer) (next : Nat) (quote : Option Char) (chars : List Char) (c : Char) :
    Except Fault (Lexer × Option Placed) :=
  match quote with
  | some q =>
    let quote' := if c = q then none else quote
    .ok ({ l with place := next, mode := .tag quote' (c :: chars) }, none)
  | none =>
    if c = '>' then do
      let (token, opened) ← tagToken l.opened chars.reverse
      return (l.finish next opened, some (l.mark, token))
    else
      let quote' := if c = '"' || c = '\'' then some c else none
      .ok ({ l with place := next, mode := .tag quote' (c :: chars) }, none)

/-- Read one character; a token may be finished by it. -/
def step (l : Lexer) (c : Char) : Except Fault (Lexer × Option Placed) :=
  let next := l.place + c.utf8Size
  let on := fun (mode : Mode) => .ok ({ l with place := next, mode }, none)
  let done := fun (token : Except Fault Token) =>
    token.map fun t => (l.finish next l.opened, some (l.mark, t))
  match l.mode with
  | .text chars =>
    if c = '<' then
      if chars.isEmpty then on .markup
      else
        let token := Token.text (dropSpaces chars).reverse
        .ok ({ l with place := next, mark := l.place, mode := .markup }, some (l.mark, token))
    else if chars.isEmpty && isSpace c then on (.text [])
    else on (.text (c :: chars))
  | .markup =>
    if c = '!' then on .bang
    else if c = '?' then on (.instruction [c])
    else stepTag l next none [] c
  | .tag quote chars => stepTag l next quote chars c
  | .bang =>
    if c = '-' then on (.comment [c, '!'])
    else if c = '[' then on (.data [c, '!'])
    else if c = 'D' || c = 'd' then on (.doctype 0 [c, '!'])
    else .error .unknownMarkup
  | .instruction chars =>
    if c = '>' && chars.head? = some '?' then
      done (if chars.length < 2 then .error (.unclosed .instruction) else .ok .aside)
    else on (.instruction (c :: chars))
  | .comment chars =>
    if c = '>' && 4 < chars.length && chars.take 2 = ['-', '-'] then done (commentToken chars)
    else on (.comment (c :: chars))
  | .data chars =>
    if c = '>' && chars.take 2 = [']', ']'] then done (dataToken chars)
    else on (.data (c :: chars))
  | .doctype depth chars =>
    if c = '>' && depth = 0 then done (doctypeToken chars)
    else
      let depth' := if c = '<' then depth + 1 else if c = '>' then depth - 1 else depth
      on (.doctype depth' (c :: chars))

/-- What the end of the input gives: the token of a last text, or the fault of open markup. -/
def last (l : Lexer) : Except Fault (Option Placed) :=
  match l.mode with
  | .text chars =>
    .ok (if chars.isEmpty then none else some (l.mark, .text (dropSpaces chars).reverse))
  | .markup | .tag .. => .error (.unclosed .tag)
  | .bang => .error .unknownMarkup
  | .instruction _ => .error (.unclosed .instruction)
  | .comment _ => .error (.unclosed .comment)
  | .data _ => .error (.unclosed .characterData)
  | .doctype .. => .error (.unclosed .doctype)

/-- The tokens in what follows, and the fault that ends them. -/
def run (l : Lexer) : List Char → List Placed × Option ParseError
  | [] =>
    match l.last with
    | .ok token => (token.toList, none)
    | .error f => ([], some ⟨l.mark, f⟩)
  | c :: rest =>
    match l.step c with
    | .error f => ([], some ⟨l.mark, f⟩)
    | .ok (l', none) => l'.run rest
    | .ok (l', some token) =>
      let (tokens, fault) := l'.run rest
      (token :: tokens, fault)

end Lexer

/-- The byte order mark, which is no part of the text behind it. -/
def byteOrderMark : Char := '\uFEFF'

/-- The tokens of a text, and the fault that ended reading, if any.  A byte order mark at the front
is dropped and not counted. -/
def tokens (text : String) : List Placed × Option ParseError :=
  let chars := text.toList
  Lexer.start.run (if chars.head? = some byteOrderMark then chars.tail else chars)

end RemoteShell.Xml
