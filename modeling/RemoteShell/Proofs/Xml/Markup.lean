import RemoteShell.Proofs.Xml.Escape
import RemoteShell.Xml.Document

/-!
# Markup and what it means

`Markup` is what stands between two tags: texts and elements in turn.  `Markup.render` writes it down, with
texts and attribute values escaped.  `Markup.Means` says which text and which elements it stands for, under
the declarations in force; elements may be written with any prefixes, as long as these are in scope.

Every text is trimmed on its own, and the text of an element consists of all the texts in it.

Tags are written with one blank in front of each attribute.  `Layout` says how else they may be laid out.
-/

namespace RemoteShell.Xml

/-! ## Names -/

/-- A character that may occur in the name of a tag or of an attribute. -/
def isNameChar (c : Char) : Bool :=
  !(isSpace c || ['<', '>', '"', '\'', '=', '/', '!', '?'].contains c)

/-- A name that can be written as it is. -/
def isName (name : List Char) : Bool :=
  !name.isEmpty && name.all isNameChar

/-- What a character of a name is not. -/
theorem not_of_isNameChar {c : Char} (h : isNameChar c = true) :
    isSpace c = false ∧ c ≠ '>' ∧ c ≠ '"' ∧ c ≠ '\'' ∧ c ≠ '=' ∧ c ≠ '/' ∧ c ≠ '!' ∧ c ≠ '?' := by
  simp only [isNameChar, List.contains_eq_mem, Bool.not_eq_true', Bool.or_eq_false_iff,
    decide_eq_false_iff_not, List.mem_cons, List.not_mem_nil, or_false, not_or] at h
  obtain ⟨hspace, -, hgt, hquot, hapos, hequals, hslash, hbang, hquestion⟩ := h
  exact ⟨hspace, hgt, hquot, hapos, hequals, hslash, hbang, hquestion⟩

/-- A name has a first character. -/
theorem exists_cons_of_isName {name : List Char} (h : isName name = true) :
    ∃ c cs, name = c :: cs ∧ isNameChar c = true ∧ ∀ x ∈ cs, isNameChar x = true := by
  cases name with
  | nil => cases h
  | cons c cs =>
    simp only [isName, List.isEmpty_cons, Bool.not_false, Bool.true_and, List.all_cons,
      Bool.and_eq_true, List.all_eq_true] at h
    exact ⟨c, cs, rfl, h.1, h.2⟩

theorem isNameChar_of_isName {name : List Char} (h : isName name = true) :
    ∀ c ∈ name, isNameChar c = true := by
  simp only [isName, Bool.and_eq_true, List.all_eq_true] at h
  exact h.2

/-! ## Tags -/

/-- An attribute with the value that is meant. -/
structure Attribute where
  name : List Char
  value : List Char

namespace Attribute

/-- The attribute as it is written. -/
def raw (a : Attribute) : RawAttribute := ⟨a.name, escapeChars a.value⟩

/-- The attribute in a tag, with a blank in front. -/
def render (a : Attribute) : List Char :=
  ' ' :: (a.name ++ '=' :: '"' :: (escapeChars a.value ++ ['"']))

end Attribute

/-- The name and the attributes of a tag. -/
structure Head where
  name : List Char
  attributes : List Attribute

namespace Head

/-- The inside of the tag. -/
def tag (h : Head) : Tag := ⟨h.name, h.attributes.flatMap Attribute.render⟩

/-- The inside of the tag as it is written. -/
def render (h : Head) : List Char := h.tag.name ++ h.tag.rest

/-- Whether all names can be written as they are, and no two attributes have the same name. -/
def isLegible (h : Head) : Bool :=
  isName h.name && h.attributes.all (fun a => isName a.name) &&
    decide (h.attributes.map Attribute.name).Nodup

/-- The name without its prefix. -/
def localName (h : Head) : String := String.ofList (splitName h.name).2

/-- The attributes that are no declarations, by local name. -/
def plain (h : Head) : List (String × String) :=
  (h.attributes.filter fun a => (declaredLabel? a.name).isNone).map fun a =>
    (String.ofList (splitName a.name).2, String.ofList a.value)

/-- A tag is legible, its declarations lead from one scope to another, and there its prefix stands for a
namespace. -/
structure Means (scope : Scope) (h : Head) (inner : Scope) (uri : String) : Prop where
  legible : h.isLegible = true
  declared : (h.attributes.map Attribute.raw).foldlM declare scope = .ok inner
  resolved : inner.resolve (splitName h.name).1 = .bound uri

end Head

/-! ### Layout -/

/-- An attribute with the blanks around its parts and the quotes of its value. -/
structure Slot where
  /-- The blanks in front. -/
  lead : List Char
  item : Attribute
  /-- The blanks in front of the equals sign. -/
  before : List Char
  /-- The blanks behind the equals sign. -/
  after : List Char
  quote : Char

namespace Slot

/-- The attribute as it is laid out. -/
def render (s : Slot) : List Char :=
  s.lead ++ (s.item.name ++ (s.before ++
    '=' :: (s.after ++ s.quote :: (escapeChars s.item.value ++ [s.quote]))))

/-- Blanks are blanks, one at least stands in front, and quotes are quotes. -/
structure IsLegible (s : Slot) : Prop where
  lead_ne_nil : s.lead ≠ []
  lead : ∀ c ∈ s.lead, isSpace c = true
  before : ∀ c ∈ s.before, isSpace c = true
  after : ∀ c ∈ s.after, isSpace c = true
  quote : s.quote = '"' ∨ s.quote = '\''

end Slot

/-- The name and the attributes of a tag with blanks between them. -/
structure Layout where
  name : List Char
  slots : List Slot
  /-- The blanks at the end. -/
  trail : List Char

namespace Layout

/-- What is laid out. -/
def head (l : Layout) : Head := ⟨l.name, l.slots.map Slot.item⟩

/-- The inside of the tag. -/
def tag (l : Layout) : Tag := ⟨l.name, l.slots.flatMap Slot.render ++ l.trail⟩

/-- The inside of the tag as it is written. -/
def render (l : Layout) : List Char := l.tag.name ++ l.tag.rest

/-- What is laid out is legible, and so is its layout. -/
structure IsLegible (l : Layout) : Prop where
  head : l.head.isLegible = true
  slots : ∀ s ∈ l.slots, s.IsLegible
  trail : ∀ c ∈ l.trail, isSpace c = true

end Layout

namespace Head

/-- One blank in front of every attribute, and double quotes. -/
def layout (h : Head) : Layout := ⟨h.name, h.attributes.map fun a => ⟨[' '], a, [], [], '"'⟩, []⟩

@[simp] theorem head_layout (h : Head) : h.layout.head = h := by
  cases h
  simp [layout, Layout.head, Function.comp_def]

@[simp] theorem tag_layout (h : Head) : h.layout.tag = h.tag := by
  simp only [layout, Layout.tag, tag, List.flatMap_map, List.append_nil]
  rfl

@[simp] theorem render_layout (h : Head) : h.layout.render = h.render := by
  rw [Layout.render, tag_layout, render]

theorem isLegible_layout {h : Head} (hlegible : h.isLegible = true) : h.layout.IsLegible where
  head := by rw [head_layout, hlegible]
  slots := by
    intro s hs
    obtain ⟨a, -, rfl⟩ := List.mem_map.1 hs
    exact ⟨List.cons_ne_nil _ _, by simp [isSpace], nofun, nofun, .inl rfl⟩
  trail := nofun

end Head

/-! ## Markup -/

/-- Texts and elements in turn. -/
inductive Markup where
  | done (text : List Char)
  /-- A text, and an element written as one tag. -/
  | empty (text : List Char) (head : Head) (rest : Markup)
  /-- A text, and an element written as two tags with something inside. -/
  | element (text : List Char) (head : Head) (inside rest : Markup)

/-- The token of what stands between two tags, if it is not blank. -/
def gapTokens (gap : List Char) : List Token :=
  if trimSpaces gap = [] then [] else [.text (trimSpaces gap)]

namespace Markup

/-- The markup as it is written. -/
def render : Markup → List Char
  | done text => escapeChars text
  | empty text head rest => escapeChars text ++ '<' :: (head.render ++ '/' :: '>' :: render rest)
  | element text head inside rest =>
    escapeChars text ++ '<' :: (head.render ++
      '>' :: (render inside ++ '<' :: '/' :: (head.name ++ '>' :: render rest)))

/-- How deep elements are nested. -/
def depth : Markup → Nat
  | done _ => 0
  | empty _ _ rest => max 1 (depth rest)
  | element _ _ inside rest => max (depth inside + 1) (depth rest)

/-- What markup stands for: the trimmed texts, one after the other, and the elements. -/
inductive Means : Scope → Markup → String → List Element → Prop
  | done {scope : Scope} {text : List Char} :
      Means scope (.done text) (String.ofList (trimSpaces text)) []
  | empty {scope inner : Scope} {text : List Char} {head : Head} {rest : Markup} {uri more : String}
      {children : List Element} (hhead : head.Means scope inner uri)
      (hrest : Means scope rest more children) :
      Means scope (.empty text head rest) (String.ofList (trimSpaces text) ++ more)
        (⟨some uri, head.localName, head.plain, "", []⟩ :: children)
  | element {scope inner : Scope} {text : List Char} {head : Head} {inside rest : Markup}
      {uri content more : String} {below children : List Element} (hhead : head.Means scope inner uri)
      (hinside : Means inner inside content below) (hrest : Means scope rest more children) :
      Means scope (.element text head inside rest) (String.ofList (trimSpaces text) ++ more)
        (⟨some uri, head.localName, head.plain, content, below⟩ :: children)

/-- Whether the tags of some markup are legible. -/
def Legible : Markup → Prop
  | done _ => True
  | empty _ head rest => head.isLegible = true ∧ Legible rest
  | element _ head inside rest => head.isLegible = true ∧ Legible inside ∧ Legible rest

theorem Means.legible {scope : Scope} {m : Markup} {text : String} {children : List Element}
    (h : Means scope m text children) : m.Legible := by
  induction h with
  | done => trivial
  | empty hhead _ ih => exact ⟨hhead.legible, ih⟩
  | element hhead _ _ ihInside ihRest => exact ⟨hhead.legible, ihInside, ihRest⟩

/-! ## Tokens -/

/-- The token of a text, unless it is blank. -/
def textTokens (text : List Char) : List Token :=
  if dropSpaces (escapeChars text) = [] then [] else [.text (trimSpaces (escapeChars text))]

theorem textTokens_eq (text : List Char) : textTokens text = gapTokens (escapeChars text) := by
  simp only [textTokens, gapTokens, trimSpaces_eq_nil_iff]

/-- The tokens of some markup. -/
def tokens : Markup → List Token
  | done text => textTokens text
  | empty text head rest => textTokens text ++ .empty head.tag :: tokens rest
  | element text head inside rest =>
    textTokens text ++ .opening head.tag :: (tokens inside ++ .closing :: tokens rest)

end Markup

end RemoteShell.Xml
