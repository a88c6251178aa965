import RemoteShell.Xml.Element
import RemoteShell.Xml.Scope
import RemoteShell.Xml.Token

/-!
# Documents

`Document.parse` builds the element tree of a text from its tokens.  Open elements form a stack; a
text goes to the innermost open element, and a finished element becomes the next child of the element
that encloses it, or the root.

Texts outside the root are ignored.  A document has exactly one root and is at most `maxDepth`
elements deep.
-/

namespace RemoteShell.Xml

/-- The greatest depth of an element, where the root has depth one. -/
def maxDepth : Nat := 256

/-- An element whose closing tag has not come yet.  Its children are kept last first. -/
structure OpenElement where
  uri : Option String
  name : String
  attributes : List (String × String)
  text : String
  children : List Element
  scope : Scope

/-- The finished element. -/
def OpenElement.close (e : OpenElement) : Element :=
  ⟨e.uri, e.name, e.attributes, e.text, e.children.reverse⟩

/-- What has been built of a document. -/
structure Partial where
  /-- The open elements, innermost first. -/
  stack : List OpenElement
  root : Option Element

namespace Partial

/-- Nothing yet. -/
def empty : Partial := ⟨[], none⟩

/-- The declarations in force. -/
def scope (p : Partial) : Scope :=
  match p.stack with
  | [] => .outermost
  | e :: _ => e.scope

/-- The attributes of a tag that are no declarations, with values resolved. -/
def plainAttributes : List RawAttribute → Except Fault (List (String × String))
  | [] => .ok []
  | a :: rest =>
    if (declaredLabel? a.name).isSome then plainAttributes rest
    else
      match unescape a.value with
      | .error f => .error (.badReference f)
      | .ok value =>
        (plainAttributes rest).map
          ((String.ofList (splitName a.name).2, String.ofList value) :: ·)

/-- The attributes of a tag, unless one of them has a fault. -/
def readAttributes (tag : Tag) : Except Fault (List (String × String)) := do
  let attributes := tag.attributes true
  let found ← plainAttributes attributes.found
  match attributes.fault with
  | some f => throw (.badAttribute f)
  | none => return found

/-- The element that a tag opens. -/
def openElement (p : Partial) (tag : Tag) : Except Fault OpenElement := do
  let scope ← p.scope.enter tag
  if maxDepth ≤ p.stack.length then throw (.tooDeep maxDepth)
  let (label, name) := splitName tag.name
  let uri ← match scope.resolve label with
    | .bound uri => pure (some uri)
    | .unbound => pure none
    | .undeclared l => throw (.undeclared l)
  let attributes ← readAttributes tag
  return ⟨uri, String.ofList name, attributes, "", [], scope⟩

/-- Put a finished element into its place. -/
def attach (p : Partial) (e : Element) : Except Fault Partial :=
  match p.stack with
  | parent :: rest => .ok { p with stack := { parent with children := e :: parent.children } :: rest }
  | [] =>
    match p.root with
    | none => .ok { p with root := some e }
    | some _ => .error .manyRoots

/-- More text for the innermost open element; text outside the root is ignored. -/
def addText (p : Partial) (text : String) : Partial :=
  match p.stack with
  | [] => p
  | e :: rest => { p with stack := { e with text := e.text ++ text } :: rest }

/-- One token more. -/
def step (p : Partial) : Token → Except Fault Partial
  | .opening tag => do
    let e ← p.openElement tag
    return { p with stack := e :: p.stack }
  | .empty tag => do
    let e ← p.openElement tag
    p.attach e.close
  | .closing =>
    match p.stack with
    | [] => .error (.unmatched "")
    | e :: rest => attach { p with stack := rest } e.close
  | .text raw =>
    if p.stack.isEmpty then .ok p
    else
      match unescape raw with
      | .error f => .error (.badReference f)
      | .ok text => .ok (p.addText (String.ofList text))
  | .data raw => .ok (p.addText (String.ofList raw))
  | .aside => .ok p

/-- All tokens that follow. -/
def run (p : Partial) : List Placed → Except ParseError Partial
  | [] => .ok p
  | (place, token) :: rest =>
    match p.step token with
    | .error f => .error ⟨place, f⟩
    | .ok p' => p'.run rest

end Partial

/-- A parsed document with the text it was parsed from. -/
structure Document where
  root : Element
  source : String

namespace Document

/-- The document of a text. -/
def parse (source : String) : Except ParseError Document := do
  let (tokens, fault) := tokens source
  let p ← Partial.empty.run tokens
  if let some e := fault then throw e
  if !p.stack.isEmpty then throw ⟨source.utf8ByteSize, .unclosedElements p.stack.length⟩
  match p.root with
  | none => throw ⟨0, .noRoot⟩
  | some root => return ⟨root, source⟩

/-- Every element in document order. -/
def elements (d : Document) : List Element :=
  d.root.descendants

end Document

end RemoteShell.Xml
