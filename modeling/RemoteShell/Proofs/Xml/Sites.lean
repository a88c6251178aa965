import RemoteShell.Proofs.Xml.Namespaces
import RemoteShell.Proofs.Xml.Traversal

/-!
# Where elements stand among tokens

Each opening or empty tag among some tokens begins an element.  Its *site* is what the tokens say of it: the tag,
the elements around it with their numbers in the order of their tags, and the texts directly inside it (`sites`).
No tree is built for this; a counter and the tags that are open suffice.

A site is *sound* if its attributes and the references in its texts are well-formed, its prefix is declared, and
not too many elements are around it.  It then has an *entry*, which is what the tree says of the element at that
place: the number of its parent, its name, its attributes and its text.
-/

namespace RemoteShell.Xml

/-! ## Tokens -/

/-- The tag of the element that a token begins. -/
def Token.tag? : Token → Option Tag
  | opening tag => some tag
  | empty tag => some tag
  | _ => none

/-- Every reference in a text is well-formed and stands for a character. -/
def Resolves (raw : List Char) : Prop :=
  ∃ cs, unescape raw = .ok cs

/-- A text with its references resolved; nothing if one of them is malformed. -/
def resolved (raw : List Char) : List Char :=
  match unescape raw with
  | .ok cs => cs
  | .error _ => []

theorem unescape_eq_ok {raw : List Char} (h : Resolves raw) : unescape raw = .ok (resolved raw) := by
  obtain ⟨cs, hcs⟩ := h
  rw [resolved, hcs]

theorem exists_unescape_eq_error {raw : List Char} (h : ¬ Resolves raw) :
    ∃ fault, unescape raw = .error fault := by
  cases hraw : unescape raw with
  | ok cs => exact absurd ⟨cs, hraw⟩ h
  | error fault => exact ⟨fault, rfl⟩

/-- What a token adds to the text of the element that it stands in: references in texts are resolved, and data is
taken as it is. -/
def Token.said : Token → List Char
  | text raw => resolved raw
  | data raw => raw
  | _ => []

/-- The texts and data directly inside an element in what follows, where `level` elements inside it are open. -/
def inside (level : Nat) : List Token → List Token
  | [] => []
  | t :: rest =>
    match t with
    | .opening _ => inside (level + 1) rest
    | .closing => if level = 0 then [] else inside (level - 1) rest
    | .text _ | .data _ => if level = 0 then t :: inside level rest else inside level rest
    | .empty _ | .aside => inside level rest

/-- How many elements are open behind some tokens, where `level` are open in front. -/
def levelBehind (level : Nat) : List Token → Nat
  | [] => level
  | .opening _ :: rest => levelBehind (level + 1) rest
  | .closing :: rest => levelBehind (level - 1) rest
  | _ :: rest => levelBehind level rest

/-- Every closing tag in what follows closes an element, where `level` are open in front. -/
def Closable (level : Nat) : List Token → Prop
  | [] => True
  | .opening _ :: rest => Closable (level + 1) rest
  | .closing :: rest => level ≠ 0 ∧ Closable (level - 1) rest
  | _ :: rest => Closable level rest

/-! ## Sites -/

/-- What tokens say of an element. -/
structure Site where
  tag : Tag
  /-- The elements around it by number and tag, innermost first. -/
  around : List (Nat × Tag)
  /-- The texts and data directly inside it. -/
  pieces : List Token

/-- The sites of what follows the opening tags of the elements `around`; the next one has the number `next`. -/
def sitesFrom (around : List (Nat × Tag)) (next : Nat) : List Token → List Site
  | [] => []
  | .opening tag :: rest =>
    ⟨tag, around, inside 0 rest⟩ :: sitesFrom ((next, tag) :: around) (next + 1) rest
  | .empty tag :: rest => ⟨tag, around, []⟩ :: sitesFrom around (next + 1) rest
  | .closing :: rest => sitesFrom around.tail next rest
  | _ :: rest => sitesFrom around next rest

/-- The sites of some tokens, in the order of the tags. -/
def sites (ts : List Token) : List Site :=
  sitesFrom [] 0 ts

/-- There is a site for each opening or empty tag. -/
theorem map_tag_sitesFrom (around : List (Nat × Tag)) (next : Nat) (ts : List Token) :
    (sitesFrom around next ts).map Site.tag = ts.filterMap Token.tag? := by
  induction ts generalizing around next with
  | nil => rfl
  | cons t ts ih => cases t <;> simp [sitesFrom, Token.tag?, ih, List.filterMap_cons]

/-- What the tree says of an element. -/
structure Entry where
  /-- The number of its parent in document order. -/
  parent : Option Nat
  uri : Option String
  name : String
  attributes : List (String × String)
  text : String
  deriving DecidableEq, Repr

/-- The attributes of a tag that are no declarations. -/
def Tag.plain (t : Tag) : List RawAttribute :=
  (t.attributes true).found.filter fun a => (declaredLabel? a.name).isNone

namespace Site

/-- How deep an element is, where the root has depth one. -/
def depth (s : Site) : Nat :=
  s.around.length + 1

/-- The prefix of an element's name, if it has one. -/
def label? (s : Site) : Option (List Char) :=
  (splitName s.tag.name).1

/-- What the prefix of an element stands for. -/
def uri? (s : Site) : Option (List Char) :=
  namespaceOf (declaredIn (s.tag :: s.around.map Prod.snd)) s.label?

/-- The text of an element. -/
def text (s : Site) : List Char :=
  s.pieces.flatMap Token.said

/-- What the tree is to say of an element. -/
def entry (s : Site) : Entry where
  parent := s.around.head?.map Prod.fst
  uri := s.uri?.map String.ofList
  name := String.ofList (splitName s.tag.name).2
  attributes := s.tag.plain.map fun a => (String.ofList (splitName a.name).2, String.ofList (resolved a.value))
  text := String.ofList s.text

/-- The tag of an element is well-formed and may stand where it does. -/
structure Opens (s : Site) : Prop where
  /-- The attributes are well-formed, and no two have the same name. -/
  attributes : (s.tag.attributes true).fault = none
  /-- No declaration is refused. -/
  declarations : ∀ a ∈ (s.tag.attributes true).found, ¬ a.IsReserved
  /-- The references in the values of the other attributes are well-formed. -/
  values : ∀ a ∈ s.tag.plain, Resolves a.value
  /-- The prefix is declared, if there is one. -/
  declared : s.label? ≠ none → s.uri? ≠ none
  depth_le : s.depth ≤ maxDepth

/-- Whether a tag may stand where it does is independent of what is inside its element. -/
theorem Opens.congr {s s' : Site} (h : s.Opens) (htag : s'.tag = s.tag) (haround : s'.around = s.around) :
    s'.Opens := by
  obtain ⟨tag, around, pieces⟩ := s
  obtain ⟨_, _, pieces'⟩ := s'
  obtain rfl := htag
  obtain rfl := haround
  exact ⟨h.1, h.2, h.3, h.4, h.5⟩

/-- An element is well-formed and may stand where it does. -/
structure Sound (s : Site) : Prop extends s.Opens where
  /-- The references in the texts directly inside it are well-formed. -/
  texts : ∀ raw, .text raw ∈ s.pieces → Resolves raw

end Site

/-! ## Trees -/

namespace Element

mutual

/-- An element and everything below it in document order, each with the number of its parent; the element itself
has the number `number`. -/
def numbered (parent : Option Nat) (number : Nat) : Element → List (Option Nat × Element)
  | ⟨uri, name, attributes, text, children⟩ =>
    (parent, ⟨uri, name, attributes, text, children⟩) :: numberedAll number (number + 1) children

/-- The children of the element numbered `parent`, and everything below them. -/
def numberedAll (parent next : Nat) : List Element → List (Option Nat × Element)
  | [] => []
  | e :: rest => numbered (some parent) next e ++ numberedAll parent (next + count e) rest

end

theorem numberedAll_append (parent next : Nat) (xs ys : List Element) :
    numberedAll parent next (xs ++ ys) =
      numberedAll parent next xs ++ numberedAll parent (next + countAll xs) ys := by
  induction xs generalizing next with
  | nil => rw [List.nil_append, numberedAll, countAll, Nat.add_zero, List.nil_append]
  | cons e xs ih =>
    rw [List.cons_append, numberedAll, ih, numberedAll, countAll, List.append_assoc, Nat.add_assoc]

theorem count_eq (e : Element) : e.count = countAll e.children + 1 := by
  cases e
  rw [count]

mutual

/-- Numbering keeps document order. -/
theorem map_numbered (parent : Option Nat) (number : Nat) :
    (e : Element) → (numbered parent number e).map Prod.snd = e.preorder
  | ⟨uri, name, attributes, text, children⟩ => by
    rw [numbered, List.map_cons, map_numberedAll, preorder]

theorem map_numberedAll (parent next : Nat) :
    (es : List Element) → (numberedAll parent next es).map Prod.snd = preorderAll es
  | [] => by rw [numberedAll, preorderAll, List.map_nil]
  | e :: rest => by
    rw [numberedAll, List.map_append, map_numbered, map_numberedAll, preorderAll]

end

end Element

/-- What a tree says of an element of it. -/
def Entry.of (x : Option Nat × Element) : Entry :=
  ⟨x.1, x.2.uri, x.2.name, x.2.attributes, x.2.text⟩

end RemoteShell.Xml
