import RemoteShell.Text.Numeral
import RemoteShell.Text.Quoted
import RemoteShell.Text.Utf8

/-!
# What can be wrong with an XML text

Faults are sorted by the rule they break: the lexical form of markup, attributes, references in
texts, namespaces, and the structure of the document.  `Fault.message` is the wording of each.  A
`ParseError` is a fault with the byte at which the offending piece of the text starts.
-/

namespace RemoteShell.Xml

/-- What can be wrong with a reference such as `&amp;` or `&#65;`.  Ranges count bytes. -/
inductive ReferenceFault where
  /-- No entity has the name. -/
  | unknown (start stop : Nat) (name : String)
  /-- No semicolon ends the reference. -/
  | unterminated (start stop : Nat)
  /-- A character number has a sign. -/
  | sign
  /-- A character number is no numeral in range. -/
  | numeral (fault : NumeralFault)
  /-- No character has the number. -/
  | noCharacter (code : Nat)
  /-- The character is shut out of XML. -/
  | forbidden (code : Nat)
  deriving DecidableEq, Repr

/-- The fault in words. -/
def ReferenceFault.message : ReferenceFault → String
  | unknown a b name =>
    "at " ++ toString a ++ ".." ++ toString b ++ ": unrecognized entity `" ++ name ++ "`"
  | unterminated a b =>
    "Error while escaping character at range " ++ toString a ++ ".." ++ toString b ++
      ": Cannot find ';' after '&'"
  | sign => "invalid character reference: unexpected number sign"
  | numeral f => "invalid character reference: " ++ f.message
  | noCharacter n => "invalid character reference: `" ++ toString n ++ "` is not a valid codepoint"
  | forbidden n =>
    "invalid character reference: 0x" ++ Text.hexDigits n ++ " character is not permitted in XML"

/-- What can be wrong with the attributes of a tag.  Places count bytes from the start of the tag's
name. -/
inductive AttributeFault where
  /-- A name has no value. -/
  | noEquals (place : Nat)
  /-- Nothing follows the equals sign. -/
  | noValue (place : Nat)
  /-- The value is not quoted. -/
  | unquoted (place : Nat)
  /-- The value does not end. -/
  | noQuote (place : Nat) (quote : Char)
  /-- The name was used before. -/
  | duplicate (place earlier : Nat)
  deriving DecidableEq, Repr

/-- The fault in words. -/
def AttributeFault.message : AttributeFault → String
  | noEquals p =>
    "position " ++ toString p ++ ": attribute key must be directly followed by `=` or space"
  | noValue p => "position " ++ toString p ++ ": `=` must be followed by an attribute value"
  | unquoted p =>
    "position " ++ toString p ++ ": attribute value must be enclosed in `\"` or `'`"
  | noQuote p q =>
    "position " ++ toString p ++ ": missing closing quote `" ++ String.singleton q ++
      "` in attribute value"
  | duplicate p e =>
    "position " ++ toString p ++ ": duplicated attribute, previous declaration at position " ++
      toString e

/-- The kinds of markup that can be left open. -/
inductive Construct where
  | instruction
  | comment
  | characterData
  | doctype
  | tag
  deriving DecidableEq, Repr

/-- What is missing when a construct is left open. -/
def Construct.unclosed : Construct → String
  | instruction =>
    "processing instruction or xml declaration not closed: `?>` not found before end of input"
  | comment => "comment not closed: `-->` not found before end of input"
  | characterData => "CDATA not closed: `]]>` not found before end of input"
  | doctype => "DOCTYPE not closed: `>` not found before end of input"
  | tag => "tag not closed: `>` not found before end of input"

/-- Everything that can be wrong with an XML text. -/
inductive Fault where
  | unclosed (what : Construct)
  | unknownMarkup
  | noDoctypeName
  /-- A closing tag with another name than the element it ends. -/
  | mismatched (expected found : String)
  /-- A closing tag that ends no element. -/
  | unmatched (name : String)
  | badAttribute (fault : AttributeFault)
  | badReference (fault : ReferenceFault)
  /-- A declaration that would change the meaning of a reserved prefix or name. -/
  | reserved (label uri : String)
  | undeclared (label : String)
  | tooDeep (limit : Nat)
  | unclosedElements (count : Nat)
  | noRoot
  | manyRoots
  deriving DecidableEq, Repr

/-- The fault in words. -/
def Fault.message : Fault → String
  | unclosed c => "syntax error: " ++ c.unclosed
  | unknownMarkup => "syntax error: unknown or missed symbol in markup"
  | noDoctypeName =>
    "ill-formed document: `<!DOCTYPE>` declaration does not contain a name of a document type"
  | mismatched e f =>
    "ill-formed document: expected `</" ++ e ++ ">`, but `</" ++ f ++ ">` was found"
  | unmatched n => "ill-formed document: close tag `</" ++ n ++ ">` does not match any open tag"
  | badAttribute f => f.message
  | badReference f => f.message
  | reserved p u =>
    "The namespace prefix '" ++ Text.quotedBytes (Utf8.encode p) ++ "' cannot be bound to '" ++
      Text.quotedBytes (Utf8.encode u) ++ "'"
  | undeclared p => "undeclared namespace prefix '" ++ p ++ "'"
  | tooDeep n => "elements nested deeper than " ++ toString n
  | unclosedElements n => toString n ++ " unclosed element(s)"
  | noRoot => "document has no root element"
  | manyRoots => "document has more than one root element"

/-- A fault and the byte of the text at which the offending piece starts. -/
structure ParseError where
  position : Nat
  fault : Fault
  deriving DecidableEq, Repr

/-- The error on one line. -/
def ParseError.message (e : ParseError) : String :=
  "Malformed XML at byte " ++ toString e.position ++ ": " ++ e.fault.message

end RemoteShell.Xml
