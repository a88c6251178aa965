import RemoteShell.Xml.Attribute

/-!
# Namespaces in scope

A scope is the list of declarations in force at an element, innermost first.  `declare` reads the
declarations of a tag, in order and up to its first malformed attribute; `Scope.resolve` finds the
namespace of an element's prefix.  The prefixes `xml` and `xmlns` keep their meaning everywhere.
-/

namespace RemoteShell.Xml

/-- The namespace of the prefix `xml`. -/
def xmlUri : String := "http://www.w3.org/XML/1998/namespace"

/-- The namespace of the prefix `xmlns`. -/
def xmlnsUri : String := "http://www.w3.org/2000/xmlns/"

/-- A declaration: a prefix, empty for the default namespace, and what it stands for. -/
structure Binding where
  label : List Char
  uri : List Char
  deriving DecidableEq, Repr

/-- The declarations in force, innermost first. -/
abbrev Scope := List Binding

/-- The meaning of a prefix. -/
inductive Resolved where
  | bound (uri : String)
  | unbound
  | undeclared (label : String)
  deriving DecidableEq, Repr

namespace Scope

/-- What is in force outside the root element. -/
def outermost : Scope :=
  [⟨"xml".toList, xmlUri.toList⟩, ⟨"xmlns".toList, xmlnsUri.toList⟩]

/-- What a prefix stands for without a declaration. -/
def undeclared : Option (List Char) → Resolved
  | none => .unbound
  | some label => .undeclared (String.ofList label)

/-- The namespace of an element with the given prefix.  The innermost declaration counts, and an
empty one takes the meaning away. -/
def resolve (scope : Scope) (label : Option (List Char)) : Resolved :=
  let found := scope.find? fun b =>
    match label with
    | none => b.label.isEmpty
    | some l => !b.label.isEmpty && b.label = l
  match found with
  | none => undeclared label
  | some b => if b.uri.isEmpty then undeclared label else .bound (String.ofList b.uri)

end Scope

/-- The prefix that an attribute of this name declares: empty for the default namespace, `none` if
the attribute is no declaration. -/
def declaredLabel? (name : List Char) : Option (List Char) :=
  match name with
  | 'x' :: 'm' :: 'l' :: 'n' :: 's' :: [] => some []
  | 'x' :: 'm' :: 'l' :: 'n' :: 's' :: ':' :: label => some label
  | _ => none

/-- Add the declaration in one attribute, if it is one. -/
def declare (scope : Scope) (a : RawAttribute) : Except Fault Scope :=
  let refused := .error (.reserved (String.ofList ((splitName a.name).2)) (String.ofList a.value))
  match declaredLabel? a.name with
  | none => .ok scope
  | some label =>
    if a.name = "xmlns".toList then .ok (⟨[], a.value⟩ :: scope)
    else if label = "xml".toList then
      if a.value = xmlUri.toList then .ok scope else refused
    else if label = "xmlns".toList then refused
    else if a.value = xmlUri.toList || a.value = xmlnsUri.toList then refused
    else .ok (⟨label, a.value⟩ :: scope)

/-- The scope inside an element with this tag. -/
def Scope.enter (scope : Scope) (tag : Tag) : Except Fault Scope :=
  (tag.attributes false).found.foldlM declare scope

end RemoteShell.Xml
