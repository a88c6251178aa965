import Mathlib.Data.List.Nodup
import RemoteShell.Proofs.Xml.Markup
import RemoteShell.Proofs.Xml.Traversal

/-!
# Renderings of a tree

A tree can be written in many ways: prefixes are chosen freely and declared anywhere above their use, tags are laid
out with any blanks and either kind of quotes, an element without content may be one tag or two, and blanks,
comments and instructions may stand between tags.  `Renders` says which texts these are.  The prefixes that are
declared are kept as a list, innermost first, so that a prefix may be declared again for another namespace.

A tree whose names and namespaces can be written has a rendering (`exists_isRendering`): each element may declare its
namespace as the default namespace.
-/

namespace RemoteShell.Xml

/-! ## Names -/

/-- A name that can be written as it is and has no colon. -/
def isPlainName (name : List Char) : Bool :=
  isName name && !name.contains ':'

/-- A name behind a prefix, if there is one. -/
def qualified : Option (List Char) → List Char → List Char
  | none, name => name
  | some label, name => label ++ ':' :: name

/-- A prefix that may be chosen, or none. -/
def Usable (label : Option (List Char)) : Prop :=
  ∀ l, label = some l → isPlainName l = true ∧ l ≠ "xml".toList ∧ l ≠ "xmlns".toList

/-- An element may go without a prefix. -/
theorem usable_none : Usable none := nofun

theorem usable_some {label : List Char}
    (h : isPlainName label = true ∧ label ≠ "xml".toList ∧ label ≠ "xmlns".toList) : Usable (some label) := by
  rintro l ⟨rfl⟩
  exact h

theorem isName_of_isPlainName {name : List Char} (h : isPlainName name = true) : isName name = true := by
  rw [isPlainName, Bool.and_eq_true] at h
  exact h.1

/-! ## Tags -/

/-- What an attribute in a rendered tag is. -/
inductive Item where
  /-- A prefix, or none for the default namespace, is declared. -/
  | declaration (label : Option (List Char)) (uri : List Char)
  /-- An attribute of the element, perhaps with a prefix. -/
  | plain (label : Option (List Char)) (name value : String)

namespace Item

/-- The attribute as it is written. -/
def written : Item → Attribute
  | declaration none uri => ⟨"xmlns".toList, uri⟩
  | declaration (some label) uri => ⟨"xmlns:".toList ++ label, uri⟩
  | plain label name value => ⟨qualified label name.toList, value.toList⟩

/-- What is declared. -/
def declared? : Item → Option (Option (List Char) × List Char)
  | declaration label uri => some (label, uri)
  | plain .. => none

/-- The attribute of the element. -/
def plain? : Item → Option (String × String)
  | declaration .. => none
  | plain _ name value => some (name, value)

/-- Only usable prefixes are declared, for namespaces that are not reserved, and the prefix `xmlns` is used for
nothing else. -/
def IsProper : Item → Prop
  | declaration label uri => Usable label ∧ uri ≠ xmlUri.toList ∧ uri ≠ xmlnsUri.toList
  | plain label _ _ => ∀ l, label = some l → isPlainName l = true ∧ l ≠ "xmlns".toList

end Item

/-- Prefixes and the namespaces they are declared for, innermost first. -/
abbrev Prefixes := List (Option (List Char) × List Char)

/-- A tag opens an element: it has its name under some prefix and its attributes, and with the declarations in it
in front of those around it, the prefix stands for the namespace of the element. -/
structure Layout.Opens (outer : Prefixes) (l : Layout) (label : Option (List Char)) (items : List Item)
    (e : Element) (inner : Prefixes) : Prop where
  legible : l.IsLegible
  name_eq : l.name = qualified label e.name.toList
  usable : Usable label
  slots_eq : l.slots.map Slot.item = items.map Item.written
  proper : ∀ item ∈ items, item.IsProper
  attributes_eq : items.filterMap Item.plain? = e.attributes
  inner_eq : inner = (items.filterMap Item.declared?).reverse ++ outer
  uri_eq : ∃ uri, inner.lookup label = some uri ∧ e.uri = some (String.ofList uri)

/-- A tag with one blank in front of every attribute opens an element if its name and its attributes do. -/
theorem Head.opens_layout {outer inner : Prefixes} {h : Head} {label : Option (List Char)} {items : List Item}
    {e : Element} (hlegible : h.isLegible = true) (hname : h.name = qualified label e.name.toList)
    (husable : Usable label) (hitems : h.attributes = items.map Item.written)
    (hproper : ∀ item ∈ items, item.IsProper) (hattributes : items.filterMap Item.plain? = e.attributes)
    (hinner : inner = (items.filterMap Item.declared?).reverse ++ outer)
    (huri : ∃ uri, inner.lookup label = some uri ∧ e.uri = some (String.ofList uri)) :
    h.layout.Opens outer label items e inner where
  legible := isLegible_layout hlegible
  name_eq := hname
  usable := husable
  slots_eq := by
    rw [← hitems]
    exact congrArg Head.attributes (head_layout h)
  proper := hproper
  attributes_eq := hattributes
  inner_eq := hinner
  uri_eq := huri

/-! ## Contents -/

/-- A text as it stands between two tags, with blanks around it.  It has no blanks at its own ends. -/
structure IsGap (gap text : List Char) : Prop where
  padded : ∃ before after, (∀ c ∈ before, isSpace c = true) ∧ (∀ c ∈ after, isSpace c = true) ∧
    gap = before ++ (escapeChars text ++ after)
  trimmed : trimSpaces text = text

/-- What may stand between tags behind a `<` and is no part of the tree. -/
inductive IsAside : List Char → Prop
  | instruction {content : List Char} (hcontent : ¬ ['?', '>'] <:+: '?' :: content) :
      IsAside ('?' :: (content ++ ['?', '>']))
  | comment {content : List Char} (hcontent : ¬ ['-', '-'] <:+: content) :
      IsAside ('!' :: '-' :: '-' :: (content ++ ['-', '-', '>']))

/-- Some characters between two tags are a text and some elements, inside the given declarations.  The text consists
of all the texts between the elements. -/
inductive Renders : Prefixes → List Char → List Char → List Element → Prop
  | done {outer : Prefixes} {gap text : List Char} (hgap : IsGap gap text) : Renders outer gap text []
  | aside {outer : Prefixes} {gap text aside rest more : List Char} {children : List Element}
      (hgap : IsGap gap text) (haside : IsAside aside) (hrest : Renders outer rest more children) :
      Renders outer (gap ++ '<' :: (aside ++ rest)) (text ++ more) children
  | empty {outer inner : Prefixes} {gap text rest more : List Char} {l : Layout} {label : Option (List Char)}
      {items : List Item} {e : Element} {children : List Element} (hgap : IsGap gap text)
      (hopens : l.Opens outer label items e inner) (htext : e.text = "") (hchildren : e.children = [])
      (hrest : Renders outer rest more children) :
      Renders outer (gap ++ '<' :: (l.render ++ '/' :: '>' :: rest)) (text ++ more) (e :: children)
  | element {outer inner : Prefixes} {gap text inside trail rest more : List Char} {l : Layout}
      {label : Option (List Char)} {items : List Item} {e : Element} {children : List Element}
      (hgap : IsGap gap text) (hopens : l.Opens outer label items e inner)
      (hinside : Renders inner inside e.text.toList e.children) (htrail : ∀ c ∈ trail, isSpace c = true)
      (hrest : Renders outer rest more children) :
      Renders outer (gap ++ '<' :: (l.render ++ '>' :: (inside ++ '<' :: '/' :: (l.name ++
        (trail ++ '>' :: rest))))) (text ++ more) (e :: children)

/-- A text that renders a tree: outside all declarations it is the root and nothing else. -/
def IsRendering (cs : List Char) (root : Element) : Prop :=
  Renders [] cs [] [root]

/-! ## Trees that can be rendered -/

/-- What an element needs to be rendered.  Its namespace is not empty, is not reserved and can be written as it is,
which matters since the reader takes it as it is written.  Names have no colons, and no attribute is called `xmlns`.
Nothing is asked of the values of attributes; the text has no blanks at its ends. -/
structure Element.IsRenderable (e : Element) : Prop where
  uri : ∃ uri : List Char, e.uri = some (String.ofList uri) ∧ uri ≠ [] ∧ (∀ c ∈ uri, c ∉ special) ∧
    uri ≠ xmlUri.toList ∧ uri ≠ xmlnsUri.toList
  name : isPlainName e.name.toList = true
  attributes : ∀ a ∈ e.attributes, isPlainName a.1.toList = true ∧ a.1 ≠ "xmlns"
  distinct : (e.attributes.map Prod.fst).Nodup
  trimmed : trimSpaces e.text.toList = e.text.toList

namespace Element

mutual

/-- The levels of a tree. -/
def height : Element → Nat
  | ⟨_, _, _, _, children⟩ => heightAll children + 1

/-- The levels of the highest of some trees. -/
def heightAll : List Element → Nat
  | [] => 0
  | e :: rest => max (height e) (heightAll rest)

end

/-- An element consists of its parts. -/
theorem eta (e : Element) : ⟨e.uri, e.name, e.attributes, e.text, e.children⟩ = e := by
  cases e
  rfl

theorem height_eq (e : Element) : e.height = heightAll e.children + 1 := by
  cases e
  rw [height]

theorem heightAll_append (es fs : List Element) :
    heightAll (es ++ fs) = max (heightAll es) (heightAll fs) := by
  induction es with
  | nil => simp [heightAll]
  | cons e es ih => rw [List.cons_append, heightAll, heightAll, ih, max_assoc]

end Element

/-! ## Every tree has a rendering -/

namespace Element

/-- A declaration of the default namespace, and the attributes of an element. -/
def defaultItems (e : Element) (uri : List Char) : List Item :=
  .declaration none uri :: e.attributes.map fun a => .plain none a.1 a.2

/-- The tag of an element with its namespace as the default namespace. -/
def defaultHead (e : Element) (uri : List Char) : Head := ⟨e.name.toList, (e.defaultItems uri).map Item.written⟩

variable {e : Element} {uri : List Char}

theorem names_defaultHead : (e.defaultHead uri).attributes.map Attribute.name =
    "xmlns".toList :: (e.attributes.map Prod.fst).map String.toList := by
  simp only [defaultHead, defaultItems, List.map_cons, List.map_map]
  rfl

theorem filterMap_plain_defaultItems : (e.defaultItems uri).filterMap Item.plain? = e.attributes := by
  have hall : ∀ as : List (String × String),
      (as.map fun a => Item.plain none a.1 a.2).filterMap Item.plain? = as := by
    intro as
    rw [List.filterMap_map]
    exact List.filterMap_some
  exact hall e.attributes

theorem filterMap_declared_defaultItems : (e.defaultItems uri).filterMap Item.declared? = [(none, uri)] := by
  simp [defaultItems, Item.declared?, List.filterMap_map, Function.comp_def]

theorem IsRenderable.isLegible_defaultHead (he : e.IsRenderable) : (e.defaultHead uri).isLegible = true := by
  have hfresh : "xmlns".toList ∉ (e.attributes.map Prod.fst).map String.toList := by
    intro hmem
    obtain ⟨name, hname, hsame⟩ := List.mem_map.1 hmem
    obtain ⟨a, ha, rfl⟩ := List.mem_map.1 hname
    exact (he.attributes a ha).2 (String.toList_inj.1 hsame)
  have hdistinct : ((e.defaultHead uri).attributes.map Attribute.name).Nodup := by
    rw [names_defaultHead]
    exact List.nodup_cons.2 ⟨hfresh, he.distinct.map fun _ _ hsame => String.toList_inj.1 hsame⟩
  have hall : ∀ a ∈ (e.defaultHead uri).attributes, isName a.name = true := by
    intro a ha
    have hname : a.name ∈ (e.defaultHead uri).attributes.map Attribute.name := List.mem_map_of_mem ha
    rw [names_defaultHead, List.mem_cons, List.map_map] at hname
    rcases hname with hname | hname
    · rw [hname]
      decide
    · obtain ⟨b, hb, hsame⟩ := List.mem_map.1 hname
      rw [← hsame]
      exact isName_of_isPlainName (he.attributes b hb).1
  rw [Head.isLegible, List.all_eq_true.2 hall, decide_eq_true hdistinct]
  rw [show isName (e.defaultHead uri).name = true from isName_of_isPlainName he.name]
  rfl

/-- An element can be opened with its namespace as the default namespace, wherever it stands. -/
theorem IsRenderable.exists_opens (he : e.IsRenderable) (outer : Prefixes) :
    ∃ l items inner, Layout.Opens outer l none items e inner := by
  obtain ⟨uri, huri, -, -, hreserved⟩ := he.uri
  refine ⟨(e.defaultHead uri).layout, e.defaultItems uri, (none, uri) :: outer,
    Head.opens_layout he.isLegible_defaultHead rfl usable_none rfl ?_ filterMap_plain_defaultItems ?_
      ⟨uri, rfl, huri⟩⟩
  · intro item hitem
    rcases List.mem_cons.1 hitem with rfl | hplain
    · exact ⟨usable_none, hreserved⟩
    · obtain ⟨a, -, rfl⟩ := List.mem_map.1 hplain
      exact nofun
  · rw [filterMap_declared_defaultItems]
    rfl

end Element

/-- A text and elements that are renderable have a rendering, whatever is declared around them. -/
theorem Renders.exists_of_isRenderable (outer : Prefixes) {text : List Char} (htext : trimSpaces text = text)
    {es : List Element} (hes : ∀ x ∈ Element.preorderAll es, x.IsRenderable) : ∃ cs, Renders outer cs text es := by
  induction hcount : Element.countAll es using Nat.strong_induction_on generalizing outer text es with
  | _ n ih =>
    subst hcount
    have hgap : IsGap (escapeChars text) text := ⟨⟨[], [], nofun, nofun, by simp⟩, htext⟩
    cases es with
    | nil => exact ⟨_, .done hgap⟩
    | cons e es =>
      obtain ⟨he, hbelow, hmore⟩ := Element.forall_preorderAll_cons.1 hes
      have hcount : Element.countAll (e :: es) = Element.countAll e.children + 1 + Element.countAll es := by
        cases e
        rw [Element.countAll, Element.count]
      obtain ⟨l, items, inner, hopens⟩ := he.exists_opens outer
      obtain ⟨inside, hinside⟩ := ih (Element.countAll e.children) (by omega) inner he.trimmed hbelow rfl
      have hnone : trimSpaces [] = [] := rfl
      obtain ⟨rest, hrest⟩ := ih (Element.countAll es) (by omega) outer hnone hmore rfl
      have htrail : ∀ c ∈ ([] : List Char), isSpace c = true := nofun
      have hall := Renders.element hgap hopens hinside htrail hrest
      rw [List.append_nil] at hall
      exact ⟨_, hall⟩

/-- **Every renderable tree has a rendering.** -/
theorem exists_isRendering {root : Element} (hroot : ∀ x ∈ root.preorder, x.IsRenderable) :
    ∃ cs, IsRendering cs root := by
  refine Renders.exists_of_isRenderable [] rfl ?_
  rwa [Element.preorderAll, Element.preorderAll, List.append_nil]

end RemoteShell.Xml
