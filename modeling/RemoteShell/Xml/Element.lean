/-!
# Element trees

An element has a namespace (or none), a local name, attributes by local name, the text directly
inside it, and child elements.

`descendants` lists an element and everything below it in document order.  A `Walk` visits one element
after the other with an explicit stack, so that it needs no recursion on the tree; `preorder` is the
same list by recursion.
-/

namespace RemoteShell.Xml

/-- An element of a parsed document. -/
structure Element where
  uri : Option String
  name : String
  attributes : List (String × String)
  text : String
  children : List Element

namespace Element

/-- Whether the element has the given namespace and local name. -/
def named (e : Element) (uri name : String) : Bool :=
  e.uri == some uri && e.name == name

/-- The value of the first attribute with a local name. -/
def attribute? (e : Element) (name : String) : Option String :=
  (e.attributes.find? (·.1 == name)).map (·.2)

mutual

/-- The number of elements in a tree. -/
def count : Element → Nat
  | ⟨_, _, _, _, children⟩ => countAll children + 1

/-- The number of elements in some trees. -/
def countAll : List Element → Nat
  | [] => 0
  | e :: rest => count e + countAll rest

end

mutual

/-- The element, then what is below each child, from the first child to the last. -/
def preorder : Element → List Element
  | ⟨uri, name, attributes, text, children⟩ =>
    ⟨uri, name, attributes, text, children⟩ :: preorderAll children

/-- The elements of some trees, tree after tree. -/
def preorderAll : List Element → List Element
  | [] => []
  | e :: rest => preorder e ++ preorderAll rest

end

theorem countAll_append (xs ys : List Element) :
    countAll (xs ++ ys) = countAll xs + countAll ys := by
  induction xs with
  | nil => simp [countAll]
  | cons e rest ih => simp [countAll, ih, Nat.add_assoc]

end Element

/-- A walk through some trees under way. -/
structure Walk where
  /-- The trees that are still to be visited.  The last one is on top and is visited next. -/
  stack : Array Element

namespace Walk

/-- The next element of a walk and the walk behind it: the tree on top is visited, and its children
take its place, the last one first, so that the first one is on top. -/
def next? (w : Walk) : Option (Element × Walk) :=
  w.stack.back?.map fun e => (e, ⟨w.stack.pop ++ e.children.reverse⟩)

/-- The trees that are still to be visited, the next one first. -/
def trees (w : Walk) : List Element :=
  w.stack.toList.reverse

/-- A walk ends when no trees are left. -/
theorem next?_eq_none_iff {w : Walk} : w.next? = none ↔ w.trees = [] := by
  simp [next?, trees]

/-- The first tree is visited, and its children are visited before the other trees. -/
theorem next?_eq_some {w w' : Walk} {e : Element} (h : w.next? = some (e, w')) :
    ∃ rest, w.trees = e :: rest ∧ w'.trees = e.children ++ rest := by
  obtain ⟨top, htop, hnext⟩ := Option.map_eq_some_iff.1 h
  obtain ⟨below, hbelow⟩ := Array.back?_eq_some_iff.1 htop
  obtain ⟨rfl, rfl⟩ := Prod.mk.inj hnext
  refine ⟨below.toList.reverse, ?_, ?_⟩
  · simp [trees, hbelow]
  · simp [trees, hbelow]

/-- The elements that a walk still visits. -/
def elements (w : Walk) : List Element :=
  match _hnext : w.next? with
  | none => []
  | some (e, w') => e :: w'.elements
termination_by Element.countAll w.trees
decreasing_by
  obtain ⟨rest, htrees, hbehind⟩ := next?_eq_some _hnext
  obtain ⟨_, _, _, _, children⟩ := e
  rw [htrees, hbehind]
  simp only [Element.countAll, Element.countAll_append, Element.count]
  omega

end Walk

namespace Element

/-- The walk through an element that begins at the element itself. -/
def walk (e : Element) : Walk :=
  ⟨#[e]⟩

/-- The element and everything below it, in document order. -/
def descendants (e : Element) : List Element :=
  e.walk.elements

end Element

end RemoteShell.Xml
