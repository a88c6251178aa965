import Mathlib.Data.List.TakeWhile
import RemoteShell.Proofs.Xml.Namespaces
import RemoteShell.Proofs.Xml.Reading
import RemoteShell.Proofs.Xml.Rendering

/-!
# Renderings are read back

Whatever the rendering of a tree, it is parsed as the tree (`IsRendering.parse_eq`).  The induction is on the
rendering; what is carried along is that the reader's declarations say of every usable prefix what the rendering's
say (`Prefixes.Agrees`).  Each piece of a rendering is read as some tokens (`IsReadAs`), and these are built into the
text and the elements that it stands for (`IsBuiltAs`), in the root as well as outside of it.
-/

namespace RemoteShell.Xml

/-! ## Names -/

section

variable {name : List Char} {label : Option (List Char)}

theorem colon_not_mem (h : isPlainName name = true) : ':' ∉ name := by
  rw [isPlainName, Bool.and_eq_true] at h
  simpa using h.2

/-- A qualified name is split where it was put together. -/
theorem splitName_qualified (hname : ':' ∉ name) (hlabel : ∀ l, label = some l → ':' ∉ l) :
    splitName (qualified label name) = (label, name) := by
  have hall : ∀ {cs : List Char}, ':' ∉ cs → ∀ c ∈ cs, decide (c ≠ ':') = true := by
    intro cs hcs c hc
    exact decide_eq_true fun h => hcs (h ▸ hc)
  cases label with
  | none =>
    rw [splitName, qualified, List.dropWhile_eq_nil_iff.2 (hall hname)]
  | some l =>
    have hl := hall (hlabel l rfl)
    rw [splitName, qualified, List.dropWhile_append_of_pos hl, List.takeWhile_append_of_pos hl]
    simp

end

/-! ## Declarations -/

namespace Item

variable {item : Item} {label : Option (List Char)} {uri : List Char} {name value : String}

theorem declaredLabel?_declaration :
    declaredLabel? (declaration label uri).written.name = some (label.getD []) := by
  cases label with
  | none => exact declaredLabel?_eq_some_iff.2 (.inl ⟨rfl, rfl⟩)
  | some l => exact declaredLabel?_eq_some_iff.2 (.inr rfl)

theorem declaredLabel?_plain (hproper : (plain label name value).IsProper)
    (hname : isPlainName name.toList = true) (hxmlns : name ≠ "xmlns") :
    declaredLabel? (plain label name value).written.name = none := by
  cases hdeclared : declaredLabel? (plain label name value).written.name with
  | none => rfl
  | some l =>
    exfalso
    have hcolon := colon_not_mem hname
    rcases declaredLabel?_eq_some_iff.1 hdeclared with ⟨hsame, -⟩ | hsame
    · cases label with
      | none => exact hxmlns (String.toList_inj.1 hsame)
      | some p =>
        have hmem : ':' ∈ "xmlns".toList := hsame ▸ List.mem_append_right p List.mem_cons_self
        exact absurd hmem (by decide)
    · cases label with
      | none =>
        have hmem : ':' ∈ name.toList := by
          rw [show name.toList = _ from hsame]
          exact List.mem_append_left l (by decide)
        exact hcolon hmem
      | some p =>
        -- both sides are split at their first colon
        obtain ⟨hp, hne⟩ := hproper p rfl
        have hsplit : splitName (qualified (some p) name.toList) = (some p, name.toList) :=
          splitName_qualified hcolon fun q hq => by
            rw [← Option.some.inj hq]
            exact colon_not_mem hp
        have hright : splitName ("xmlns:".toList ++ l) = (some "xmlns".toList, l) := rfl
        rw [show qualified (some p) name.toList = _ from hsame, hright] at hsplit
        exact hne (Option.some.inj (congrArg Prod.fst hsplit)).symm

/-- No proper declaration is refused. -/
theorem not_isReserved_declaration (h : (declaration label uri).IsProper) :
    ¬ (declaration label uri).written.raw.IsReserved := by
  obtain ⟨husable, hxml, hxmlns⟩ := h
  rintro ⟨l, hl, hnamed, hreserved⟩
  have hlabel : label.getD [] = l := Option.some.inj (declaredLabel?_declaration.symm.trans hl)
  have hvalue : (declaration label uri).written.raw.value = escapeChars uri := by cases label <;> rfl
  cases label with
  | none => exact hnamed rfl
  | some p =>
    obtain rfl : p = l := hlabel
    obtain ⟨-, hpxml, hpxmlns⟩ := husable p rfl
    rw [hvalue] at hreserved
    rcases hreserved with ⟨hbad, -⟩ | hbad | ⟨-, hbad | hbad⟩
    · exact hpxml hbad
    · exact hpxmlns hbad
    · exact hxml (escapeChars_injective (hbad.trans (escapeChars_of_isPlain (by decide)).symm))
    · exact hxmlns (escapeChars_injective (hbad.trans (escapeChars_of_isPlain (by decide)).symm))

theorem binding?_declaration (h : Usable label) :
    (declaration label uri).written.raw.binding? = some ⟨label.getD [], escapeChars uri⟩ := by
  have hlabel : label.getD [] ≠ "xml".toList := by
    cases label with
    | none => decide
    | some l => exact (h l rfl).2.1
  have hvalue : (declaration label uri).written.raw.value = escapeChars uri := by cases label <;> rfl
  have hname : (declaration label uri).written.raw.name = (declaration label uri).written.name := rfl
  rw [RawAttribute.binding?, hname, declaredLabel?_declaration, Option.bind_some, if_neg hlabel, hvalue]

end Item

/-- What is declared in a rendering is what the reader knows to be declared. -/
def Prefixes.Agrees (prefixes : Prefixes) (scope : Scope) : Prop :=
  ∀ label uri, Usable label → prefixes.lookup label = some uri → scope.lookup (label.getD []) = some (escapeChars uri)

/-- Outside of the root nothing has been declared. -/
theorem Prefixes.agrees_nil {scope : Scope} : Prefixes.Agrees [] scope := by
  intro label uri _ hlookup
  cases hlookup

/-- Usable prefixes are told apart by their characters, and from having none. -/
theorem Usable.getD_inj {label label' : Option (List Char)} (h : Usable label) (h' : Usable label') :
    label.getD [] = label'.getD [] ↔ label = label' := by
  have hsome : ∀ {l : List Char}, Usable (some l) → l ≠ [] := by
    rintro l hl rfl
    exact absurd (hl [] rfl).1 (by decide)
  cases label with
  | none =>
    cases label' with
    | none => exact iff_of_true rfl rfl
    | some l' => exact iff_of_false (hsome h').symm nofun
  | some l =>
    cases label' with
    | none => exact iff_of_false (hsome h) nofun
    | some l' => exact (Option.some_inj).symm

/-- One declaration more. -/
theorem Prefixes.Agrees.declaration {prefixes : Prefixes} {scope : Scope} (h : prefixes.Agrees scope)
    {label : Option (List Char)} (husable : Usable label) (uri : List Char) :
    Prefixes.Agrees ((label, uri) :: prefixes) (⟨label.getD [], escapeChars uri⟩ :: scope) := by
  intro label' uri' husable' hlookup
  rw [Scope.lookup_cons]
  by_cases hsame : label = label'
  · subst hsame
    rw [List.lookup_cons_self] at hlookup
    rw [if_pos rfl, Option.some.inj hlookup]
  · rw [if_neg (mt (husable.getD_inj husable').1 hsame)]
    refine h label' uri' husable' ?_
    rwa [List.lookup_cons, beq_false_of_ne (Ne.symm hsame)] at hlookup

/-- **A tag is entered**: none of its declarations is refused, and the reader knows what is declared inside. -/
theorem Prefixes.Agrees.enter {prefixes : Prefixes} {scope : Scope} {items : List Item}
    (h : prefixes.Agrees scope) (hproper : ∀ item ∈ items, item.IsProper)
    (hnames : ∀ a ∈ items.filterMap Item.plain?, isPlainName a.1.toList = true ∧ a.1 ≠ "xmlns") :
    (∀ a ∈ items.map fun item => item.written.raw, ¬ a.IsReserved) ∧
      Prefixes.Agrees ((items.filterMap Item.declared?).reverse ++ prefixes)
        (((items.map fun item => item.written.raw).filterMap RawAttribute.binding?).reverse ++ scope) := by
  induction items generalizing prefixes scope with
  | nil => exact ⟨nofun, h⟩
  | cons item items ih =>
    obtain ⟨hfirst, hmore⟩ := List.forall_mem_cons.1 hproper
    cases item with
    | declaration label uri =>
      obtain ⟨hrest, hagrees⟩ := ih (h.declaration hfirst.1 uri) hmore hnames
      have hdeclared : (Item.declaration label uri :: items).filterMap Item.declared? =
          (label, uri) :: items.filterMap Item.declared? := rfl
      refine ⟨List.forall_mem_cons.2 ⟨Item.not_isReserved_declaration hfirst, hrest⟩, ?_⟩
      rw [List.map_cons, List.filterMap_cons_some (Item.binding?_declaration hfirst.1),
        hdeclared, List.reverse_cons, List.reverse_cons, List.append_assoc, List.append_assoc]
      exact hagrees
    | plain label name value =>
      obtain ⟨⟨hname, hxmlns⟩, hothers⟩ := List.forall_mem_cons.1 hnames
      have hnone : declaredLabel? (Item.plain label name value).written.raw.name = none :=
        Item.declaredLabel?_plain hfirst hname hxmlns
      have hbinding : (Item.plain label name value).written.raw.binding? = none := by
        rw [RawAttribute.binding?, hnone, Option.bind_none]
      have hfree : ¬ (Item.plain label name value).written.raw.IsReserved := by
        rintro ⟨l, hl, -⟩
        rw [hnone] at hl
        cases hl
      obtain ⟨hrest, hagrees⟩ := ih h hmore hothers
      refine ⟨List.forall_mem_cons.2 ⟨hfree, hrest⟩, ?_⟩
      rw [List.map_cons, List.filterMap_cons_none hbinding]
      exact hagrees

/-! ## Tags -/

/-- The attributes of the element are read as they are meant. -/
theorem plain_written {items : List Item} (hproper : ∀ item ∈ items, item.IsProper)
    (hnames : ∀ a ∈ items.filterMap Item.plain?, isPlainName a.1.toList = true ∧ a.1 ≠ "xmlns") :
    (((items.map Item.written).filter fun a => (declaredLabel? a.name).isNone).map fun a =>
      (String.ofList (splitName a.name).2, String.ofList a.value)) = items.filterMap Item.plain? := by
  induction items with
  | nil => rfl
  | cons item items ih =>
    obtain ⟨hfirst, hmore⟩ := List.forall_mem_cons.1 hproper
    cases item with
    | declaration label uri =>
      have hdeclared : declaredLabel? (Item.declaration label uri).written.name = some (label.getD []) :=
        Item.declaredLabel?_declaration
      rw [List.map_cons, List.filter_cons_of_neg (by rw [hdeclared]; exact Bool.false_ne_true)]
      exact ih hmore hnames
    | plain label name value =>
      obtain ⟨⟨hname, hxmlns⟩, hothers⟩ := List.forall_mem_cons.1 hnames
      have hnone := Item.declaredLabel?_plain hfirst hname hxmlns
      have hsplit : splitName (Item.plain label name value).written.name = (label, name.toList) :=
        splitName_qualified (colon_not_mem hname) fun l hl => colon_not_mem (hfirst l hl).1
      have hvalue : (Item.plain label name value).written.value = value.toList := rfl
      rw [List.map_cons, List.filter_cons_of_pos (by rw [hnone]; rfl), List.map_cons, hsplit, hvalue,
        String.ofList_toList, String.ofList_toList, ih hmore hothers]
      rfl

/-- A usable prefix stands for what it is declared as. -/
theorem namespaceOf_eq_some {declared : List Char → Option (List Char)} {label : Option (List Char)}
    {uri : List Char} (husable : Usable label) (h : declared (label.getD []) = some uri) (hne : uri ≠ []) :
    namespaceOf declared label = some uri := by
  match label, husable with
  | none, _ =>
    rw [namespaceOf, show declared [] = some uri from h]
    simp [hne]
  | some [], husable => exact absurd (husable [] rfl).1 (by decide)
  | some (c :: l), _ =>
    rw [namespaceOf, show declared (c :: l) = some uri from h]
    simp [hne]

/-- **A tag that opens an element means it.** -/
theorem Layout.Opens.means {outer inner : Prefixes} {l : Layout} {label : Option (List Char)} {items : List Item}
    {e : Element} {scope : Scope} (hopens : l.Opens outer label items e inner) (hagrees : outer.Agrees scope)
    (he : e.IsRenderable) : ∃ inside uri, inner.Agrees inside ∧ e.uri = some uri ∧
      l.head.Means scope inside uri ∧ l.head.localName = e.name ∧ l.head.plain = e.attributes := by
  have hnames : ∀ a ∈ items.filterMap Item.plain?, isPlainName a.1.toList = true ∧ a.1 ≠ "xmlns" := by
    rw [hopens.attributes_eq]
    exact he.attributes
  have hattributes : l.head.attributes = items.map Item.written := hopens.slots_eq
  have hraw : l.head.attributes.map Attribute.raw = items.map fun item => item.written.raw := by
    rw [hattributes, List.map_map]
    rfl
  have hsplit : splitName l.head.name = (label, e.name.toList) := by
    rw [show l.head.name = _ from hopens.name_eq]
    exact splitName_qualified (colon_not_mem he.name) fun l hl => colon_not_mem (hopens.usable l hl).1
  obtain ⟨hfree, hinside⟩ := hagrees.enter hopens.proper hnames
  rw [← hopens.inner_eq] at hinside
  obtain ⟨uri, hlookup, huri⟩ := hopens.uri_eq
  obtain ⟨uri', huri', hne, hspecial, -⟩ := he.uri
  obtain rfl : uri' = uri := by
    rw [huri'] at huri
    exact String.ofList_injective (Option.some.inj huri)
  have hfound := hinside label uri' hopens.usable hlookup
  rw [escapeChars_of_not_mem hspecial] at hfound
  refine ⟨_, String.ofList uri', hinside, huri', ⟨hopens.legible.head, ?_, ?_⟩, ?_, ?_⟩
  · rw [hraw]
    exact foldlM_declare_eq_ok_iff.2 ⟨hfree, rfl⟩
  · rw [hsplit, Scope.resolve_eq, namespaceOf_eq_some hopens.usable hfound hne]
    rfl
  · rw [Head.localName, hsplit, String.ofList_toList]
  · rw [Head.plain, hattributes, plain_written hopens.proper hnames, hopens.attributes_eq]

/-! ## Gaps and asides -/

theorem dropSpaces_of_blank {cs : List Char} (h : ∀ c ∈ cs, isSpace c = true) : dropSpaces cs = [] :=
  List.dropWhile_eq_nil_iff.2 h

/-- What is left of a gap without the blanks at its ends is its text. -/
theorem IsGap.trimSpaces_eq {gap text : List Char} (h : IsGap gap text) : trimSpaces gap = escapeChars text := by
  obtain ⟨before, after, hbefore, hafter, rfl⟩ := h.padded
  have hescaped : trimSpaces (escapeChars text) = escapeChars text := by
    rw [trimSpaces_escapeChars, h.trimmed]
  have hfront : dropSpaces (before ++ (escapeChars text ++ after)) = dropSpaces (escapeChars text ++ after) :=
    List.dropWhile_append_of_pos hbefore
  have hboth : dropSpaces (escapeChars text ++ after) =
      if (dropSpaces (escapeChars text)).isEmpty then dropSpaces after
      else dropSpaces (escapeChars text) ++ after := List.dropWhile_append
  rw [trimSpaces, hfront, hboth]
  split
  · rename_i hblank
    have hnil := trimSpaces_eq_nil_iff.2 (List.isEmpty_iff.1 hblank)
    rw [dropSpaces_of_blank hafter, ← hescaped, hnil]
    rfl
  · have hback : dropSpaces (after.reverse ++ (dropSpaces (escapeChars text)).reverse) =
        dropSpaces (dropSpaces (escapeChars text)).reverse :=
      List.dropWhile_append_of_pos fun c hc => hafter c (List.mem_reverse.1 hc)
    rw [List.reverse_append, hback]
    exact hescaped

theorem IsGap.not_mem {gap text : List Char} (h : IsGap gap text) : '<' ∉ gap := by
  obtain ⟨before, after, hbefore, hafter, rfl⟩ := h.padded
  simp only [List.mem_append, not_or]
  exact ⟨fun hmem => absurd (hbefore _ hmem) (by decide), not_mem_escapeChars (by decide) (by decide) text,
    fun hmem => absurd (hafter _ hmem) (by decide)⟩

/-- A gap is read as its text. -/
theorem IsGap.gapTokens_eq {gap text : List Char} (h : IsGap gap text) :
    gapTokens gap = Markup.textTokens text := by
  rw [Markup.textTokens_eq, gapTokens, gapTokens, h.trimSpaces_eq, trimSpaces_escapeChars, h.trimmed]

/-- A gap is read up to the next `<`. -/
theorem IsGap.reads {gap text : List Char} (h : IsGap gap text) (opened : List (List Char)) :
    Lexer.Reads opened (.text []) (gap ++ ['<']) (Markup.textTokens text) opened .markup := by
  rw [← h.gapTokens_eq]
  exact Lexer.reads_gap opened h.not_mem

/-- A gap without text is passed over. -/
theorem IsGap.reads_blank {gap : List Char} (h : IsGap gap []) (opened : List (List Char)) :
    Lexer.Reads opened (.text []) gap [] opened (.text []) := by
  have hread := Lexer.reads_leading opened h.not_mem
  rwa [trimSpaces_eq_nil_iff.1 h.trimSpaces_eq] at hread

theorem IsAside.reads {cs : List Char} (h : IsAside cs) (opened : List (List Char)) :
    Lexer.Reads opened .markup cs [.aside] opened (.text []) := by
  cases h with
  | instruction hcontent => exact Lexer.reads_aside_instruction opened hcontent
  | comment hcontent => exact Lexer.reads_aside_comment opened hcontent

/-! ## Tokens -/

/-- Some characters are read as some tokens, whatever tag follows, and at the end of a document too if they hold no
text. -/
structure IsReadAs (cs text : List Char) (ts : List Token) : Prop where
  inside : ∀ opened, Lexer.Reads opened (.text []) (cs ++ ['<']) ts opened .markup
  outside : text = [] → ∀ opened, Lexer.Reads opened (.text []) cs ts opened (.text [])

theorem IsGap.isReadAs {gap text : List Char} (h : IsGap gap text) : IsReadAs gap text (Markup.textTokens text) where
  inside := h.reads
  outside := by
    rintro rfl opened
    exact h.reads_blank opened

/-- A gap and a piece of markup in front. -/
theorem IsReadAs.behind {gap text piece rest more : List Char} {us ts : List Token} (hgap : IsGap gap text)
    (hpiece : ∀ opened, Lexer.Reads opened .markup piece us opened (.text [])) (hrest : IsReadAs rest more ts) :
    IsReadAs (gap ++ '<' :: (piece ++ rest)) (text ++ more) (Markup.textTokens text ++ (us ++ ts)) where
  inside opened := by
    simpa using (hgap.reads opened).trans ((hpiece opened).trans (hrest.inside opened))
  outside hnone opened := by
    have hmore := hrest.outside (List.append_eq_nil_iff.1 hnone).2 opened
    simpa using (hgap.reads opened).trans ((hpiece opened).trans hmore)

/-- An element in two tags, behind its `<`. -/
theorem IsReadAs.element {inside text trail : List Char} {l : Layout} {ts : List Token} (hlegible : l.IsLegible)
    (hinside : IsReadAs inside text ts) (htrail : ∀ c ∈ trail, isSpace c = true) (opened : List (List Char)) :
    Lexer.Reads opened .markup (l.render ++ '>' :: (inside ++ '<' :: '/' :: (l.name ++ (trail ++ ['>']))))
      (.opening l.tag :: (ts ++ [.closing])) opened (.text []) := by
  simpa using (Lexer.reads_opening_layout opened hlegible).trans ((hinside.inside (l.name :: opened)).trans
    (Lexer.reads_closing_layout opened hlegible.isName_name htrail))

/-! ## Building -/

namespace Partial

variable {p : Partial} {text more : List Char} {es fs : List Element} {e : Element}

/-- A text and some elements more, in the innermost open element.  Outside the root texts are ignored, and the first
element is the root. -/
def receive (p : Partial) (text : List Char) (es : List Element) : Partial :=
  match p.stack with
  | [] => { p with root := p.root.or es.head? }
  | parent :: rest => { p with stack := filled parent (String.ofList text) es :: rest }

/-- There are places for some elements: outside the root there is one at most. -/
def HasPlaces (p : Partial) (es : List Element) : Prop :=
  p.stack = [] → p.root.toList.length + es.length ≤ 1

theorem receive_receive : (p.receive text es).receive more fs = p.receive (text ++ more) (es ++ fs) := by
  obtain ⟨_ | ⟨parent, rest⟩, root⟩ := p
  · simp [receive, Option.or_assoc, List.head?_append]
  · simp [receive, filled_filled]

theorem scope_receive : (p.receive text es).scope = p.scope := by
  obtain ⟨_ | ⟨parent, rest⟩, root⟩ := p <;> rfl

theorem length_receive : (p.receive text es).stack.length = p.stack.length := by
  obtain ⟨_ | ⟨parent, rest⟩, root⟩ := p <;> rfl

theorem HasPlaces.left (h : p.HasPlaces (es ++ fs)) : p.HasPlaces es := by
  intro hstack
  have hone := h hstack
  rw [List.length_append] at hone
  omega

/-- When some elements have their places, there are places for the others. -/
theorem HasPlaces.right (h : p.HasPlaces (es ++ fs)) : (p.receive text es).HasPlaces fs := by
  obtain ⟨_ | ⟨parent, rest⟩, root⟩ := p
  · intro _
    have hone := h rfl
    rw [List.length_append] at hone
    cases root with
    | some r =>
      simp only [receive, Option.some_or, Option.toList_some, List.length_singleton] at hone ⊢
      omega
    | none =>
      cases es with
      | nil => simpa [receive] using hone
      | cons x es =>
        simp only [receive, Option.none_or, List.head?_cons, Option.toList_some, Option.toList_none, List.length_cons,
          List.length_nil] at hone ⊢
        omega
  · exact nofun

/-- A finished element is put into its place. -/
theorem attach_eq_receive (h : p.HasPlaces [e]) : p.attach e = .ok (p.receive [] [e]) := by
  obtain ⟨_ | ⟨parent, rest⟩, _ | root⟩ := p
  · rfl
  · exact absurd (h rfl) (by simp)
  · simp [attach, receive, filled]
  · simp [attach, receive, filled]

/-- Behind some text more the rest of a document is built as before. -/
theorem buildAll_text (htrimmed : trimSpaces text = text) :
    p.buildAll (Markup.textTokens text) = .ok (p.receive text []) := by
  obtain ⟨_ | ⟨parent, rest⟩, root⟩ := p
  · rw [Markup.textTokens]
    split
    · simp [buildAll, receive, pure, Except.pure]
    · simp [buildAll, step, receive]
  · have hbuilt : buildAll ⟨parent :: rest, root⟩ (Markup.textTokens text) = _ := buildAll_textTokens text
    rwa [htrimmed] at hbuilt

end Partial

open Element (height heightAll)

/-- Some tokens are built into a text and some elements, wherever the given declarations hold and there is room. -/
def IsBuiltAs (outer : Prefixes) (ts : List Token) (text : List Char) (es : List Element) : Prop :=
  ∀ p : Partial, outer.Agrees p.scope → p.stack.length + heightAll es ≤ maxDepth → p.HasPlaces es →
    p.buildAll ts = .ok (p.receive text es)

namespace IsBuiltAs

variable {outer inner : Prefixes} {ts us : List Token} {text more : List Char} {es fs : List Element}
  {l : Layout} {label : Option (List Char)} {items : List Item} {e : Element}

theorem append (h : IsBuiltAs outer ts text es) (h' : IsBuiltAs outer us more fs) :
    IsBuiltAs outer (ts ++ us) (text ++ more) (es ++ fs) := by
  intro p hagrees hdepth hplaces
  rw [Element.heightAll_append] at hdepth
  rw [Partial.buildAll_append (h p hagrees (by omega) hplaces.left), ← Partial.receive_receive]
  refine h' _ ?_ ?_ hplaces.right
  · rwa [Partial.scope_receive]
  · rw [Partial.length_receive]
    omega

theorem textTokens (htrimmed : trimSpaces text = text) : IsBuiltAs outer (Markup.textTokens text) text [] :=
  fun _ _ _ _ => Partial.buildAll_text htrimmed

theorem aside : IsBuiltAs outer [.aside] [] [] := by
  intro p _ _ _
  obtain ⟨_ | ⟨parent, rest⟩, root⟩ := p
  · simp [Partial.buildAll, Partial.step, Partial.receive]
  · simp [Partial.buildAll, Partial.step, Partial.receive, Partial.filled]

/-- A tag of its own is an element without content. -/
theorem empty (hopens : l.Opens outer label items e inner) (he : e.IsRenderable) (htext : e.text = "")
    (hchildren : e.children = []) : IsBuiltAs outer [.empty l.tag] [] [e] := by
  intro p hagrees hdepth hplaces
  have hheight : heightAll [e] = 1 := by
    rw [heightAll, Element.height_eq, hchildren]
    rfl
  obtain ⟨inside, uri, -, huri, hmeans, hname, hattributes⟩ := hopens.means hagrees he
  have hopen := Layout.openElement hopens.legible hmeans (p := p) rfl (by omega)
  have hclose : OpenElement.close ⟨some uri, l.head.localName, l.head.plain, "", [], inside⟩ = e := by
    rw [hname, hattributes, ← huri, ← htext, OpenElement.close, List.reverse_nil, ← hchildren]
    exact e.eta
  have hstep : p.step (.empty l.tag) = .ok (p.receive [] [e]) := by
    rw [Partial.step, hopen, ← Partial.attach_eq_receive hplaces]
    exact congrArg p.attach hclose
  exact Partial.buildAll_cons hstep []

/-- Two tags and what is between them are an element with content. -/
theorem element (hopens : l.Opens outer label items e inner) (he : e.IsRenderable)
    (hinside : IsBuiltAs inner ts e.text.toList e.children) :
    IsBuiltAs outer (.opening l.tag :: (ts ++ [.closing])) [] [e] := by
  intro p hagrees hdepth hplaces
  have hheight : heightAll [e] = heightAll e.children + 1 := by
    rw [heightAll, Element.height_eq]
    simp [heightAll]
  obtain ⟨inside, uri, hinner, huri, hmeans, hname, hattributes⟩ := hopens.means hagrees he
  have hopen := Layout.openElement hopens.legible hmeans (p := p) rfl (by omega)
  rw [hname, hattributes, ← huri] at hopen
  have hstep : p.step (.opening l.tag) =
      .ok { p with stack := ⟨e.uri, e.name, e.attributes, "", [], inside⟩ :: p.stack } := by
    rw [Partial.step, hopen]
    rfl
  have hbuilt := hinside { p with stack := ⟨e.uri, e.name, e.attributes, "", [], inside⟩ :: p.stack } hinner
    (by rw [List.length_cons]; omega) fun hnil => absurd hnil (List.cons_ne_nil _ _)
  have hclosing : Partial.buildAll
      (Partial.receive { p with stack := ⟨e.uri, e.name, e.attributes, "", [], inside⟩ :: p.stack }
        e.text.toList e.children) [.closing] = .ok (p.receive [] [e]) := by
    rw [← Partial.attach_eq_receive hplaces]
    simp [Partial.buildAll, Partial.step, Partial.receive, Partial.filled, OpenElement.close, Element.eta]
  rw [Partial.buildAll_cons hstep, Partial.buildAll_append hbuilt, hclosing]

end IsBuiltAs

/-! ## Renderings -/

/-- **A rendering is read back**: it gives tokens of which the text and the elements are built. -/
theorem Renders.exists_tokens {outer : Prefixes} {cs text : List Char} {children : List Element}
    (h : Renders outer cs text children) (hchildren : ∀ x ∈ Element.preorderAll children, x.IsRenderable) :
    ∃ ts, IsReadAs cs text ts ∧ IsBuiltAs outer ts text children := by
  induction h with
  | done hgap => exact ⟨_, hgap.isReadAs, .textTokens hgap.trimmed⟩
  | aside hgap haside _ ih =>
    obtain ⟨ts, hread, hbuilt⟩ := ih hchildren
    exact ⟨_, .behind hgap haside.reads hread,
      (IsBuiltAs.textTokens hgap.trimmed).append (IsBuiltAs.aside.append hbuilt)⟩
  | @empty _ _ _ _ rest more l _ _ e _ hgap hopens htext hnone _ ih =>
    obtain ⟨he, -, hmore⟩ := Element.forall_preorderAll_cons.1 hchildren
    obtain ⟨ts, hread, hbuilt⟩ := ih hmore
    have hpiece : l.render ++ '/' :: '>' :: rest = (l.render ++ ['/', '>']) ++ rest := by simp
    rw [hpiece]
    exact ⟨_, .behind hgap (fun opened => Lexer.reads_empty_layout opened hopens.legible) hread,
      (IsBuiltAs.textTokens hgap.trimmed).append ((IsBuiltAs.empty hopens he htext hnone).append hbuilt)⟩
  | @element _ _ _ _ inside trail rest more l _ _ e _ hgap hopens _ htrail _ ihInside ihRest =>
    obtain ⟨he, hbelow, hmore⟩ := Element.forall_preorderAll_cons.1 hchildren
    obtain ⟨us, hreadInside, hbuiltInside⟩ := ihInside hbelow
    obtain ⟨ts, hread, hbuilt⟩ := ihRest hmore
    have hpiece : l.render ++ '>' :: (inside ++ '<' :: '/' :: (l.name ++ (trail ++ '>' :: rest))) =
        (l.render ++ '>' :: (inside ++ '<' :: '/' :: (l.name ++ (trail ++ ['>'])))) ++ rest := by simp
    rw [hpiece]
    exact ⟨_, .behind hgap (IsReadAs.element hopens.legible hreadInside htrail) hread,
      (IsBuiltAs.textTokens hgap.trimmed).append ((IsBuiltAs.element hopens he hbuiltInside).append hbuilt)⟩

/-- A rendering does not begin with a byte order mark: it begins with a blank or with markup. -/
theorem IsRendering.head?_ne {cs : List Char} {root : Element} (h : IsRendering cs root) :
    cs.head? ≠ some byteOrderMark := by
  have hblank : ∀ {gap : List Char}, IsGap gap [] → ∀ rest : List Char,
      (gap ++ '<' :: rest).head? ≠ some byteOrderMark := by
    intro gap hgap rest hmark
    have hdropped := trimSpaces_eq_nil_iff.1 hgap.trimSpaces_eq
    cases gap with
    | nil => exact absurd (Option.some.inj hmark) (by decide)
    | cons c gap =>
      have hc : isSpace c = true := List.dropWhile_eq_nil_iff.1 hdropped c List.mem_cons_self
      obtain rfl : c = byteOrderMark := Option.some.inj hmark
      exact absurd hc (by decide)
  have hnil : ∀ {text more : List Char}, text ++ more = [] → text = [] := fun h => (List.append_eq_nil_iff.1 h).1
  unfold IsRendering at h
  generalize htext : ([] : List Char) = text at h
  cases h with
  | aside hgap _ _ => exact hblank (hnil htext.symm ▸ hgap) _
  | empty hgap _ _ _ _ => exact hblank (hnil htext.symm ▸ hgap) _
  | element hgap _ _ _ _ => exact hblank (hnil htext.symm ▸ hgap) _

/-- **Decoding undoes rendering**: whatever prefixes and whatever layout, a rendering of a tree is parsed as that
tree. -/
theorem IsRendering.parse_eq {cs : List Char} {root : Element} (h : IsRendering cs root)
    (hroot : ∀ x ∈ root.preorder, x.IsRenderable) (hdepth : root.height ≤ maxDepth) :
    Document.parse (String.ofList cs) = .ok ⟨root, String.ofList cs⟩ := by
  have hall : ∀ x ∈ Element.preorderAll [root], x.IsRenderable := by
    rwa [Element.preorderAll, Element.preorderAll, List.append_nil]
  obtain ⟨ts, hread, hbuilt⟩ := Renders.exists_tokens h hall
  have hheight : Partial.empty.stack.length + Element.heightAll [root] ≤ maxDepth := by
    simpa [Partial.empty, Element.heightAll] using hdepth
  exact parse_of_reads ts (hread.outside rfl []) h.head?_ne
    (hbuilt .empty Prefixes.agrees_nil hheight fun _ => le_rfl)

end RemoteShell.Xml
