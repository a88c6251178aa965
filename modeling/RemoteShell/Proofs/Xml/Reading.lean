import RemoteShell.Proofs.Xml.Lexing

/-!
# Reading rendered markup

The tree builder makes of the tokens of rendered markup what the markup means (`buildAll_tokens`).  With the
lexer this gives `parse_render`: a document whose root is rendered from some markup is parsed as the element
that the root stands for.
-/

namespace RemoteShell.Xml

/-! ## Declarations -/

/-- A declaration of a prefix is put in front of the others. -/
theorem declare_label (scope : Scope) {label uri : List Char}
    (hlabel : label ≠ "xml".toList ∧ label ≠ "xmlns".toList)
    (huri : uri ≠ xmlUri.toList ∧ uri ≠ xmlnsUri.toList) :
    declare scope ⟨"xmlns:".toList ++ label, uri⟩ = .ok (⟨label, uri⟩ :: scope) := by
  have hdeclared : declaredLabel? ("xmlns:".toList ++ label) = some label := by
    simp [declaredLabel?]
  have hnamed : "xmlns:".toList ++ label ≠ "xmlns".toList := by
    simp
  simp only [declare, hdeclared, hnamed, hlabel, huri, if_false, decide_false, Bool.or_self,
    Bool.false_eq_true]

/-- Attributes that are no declarations change no scope. -/
theorem foldlM_declare_plain (scope : Scope) {as : List RawAttribute}
    (has : ∀ a ∈ as, declaredLabel? a.name = none) : as.foldlM declare scope = .ok scope := by
  induction as with
  | nil => rfl
  | cons a as ih =>
    have hfirst : declare scope a = .ok scope := by
      simp only [declare, has a List.mem_cons_self]
    rw [List.foldlM_cons, hfirst]
    exact ih fun x hx => has x (List.mem_cons_of_mem a hx)

/-! ## Attributes -/

namespace Attributes

variable (unique : Bool)

/-- Blanks in front of an attribute are passed over. -/
theorem scan_between {blanks : List Char} (hblanks : ∀ c ∈ blanks, isSpace c = true) (used : UsedNames)
    (rest : List Char) (offset : Nat) : ∃ offset',
      scan unique offset used .between (blanks ++ rest) = scan unique offset' used .between rest := by
  induction blanks generalizing offset with
  | nil => exact ⟨offset, rfl⟩
  | cons c blanks ih =>
    obtain ⟨offset', hread⟩ := ih (fun x hx => hblanks x (List.mem_cons_of_mem c hx)) (offset + c.utf8Size)
    refine ⟨offset', ?_⟩
    rw [List.cons_append, scan]
    simp only [hblanks c List.mem_cons_self, if_true]
    exact hread

/-- Behind the blanks behind a name the equals sign is found. -/
theorem scan_afterName {blanks : List Char} (hblanks : ∀ c ∈ blanks, isSpace c = true) (used : UsedNames)
    (start : Nat) (name rest : List Char) (hfresh : repeated unique used start name = none) (offset : Nat) :
    ∃ offset', scan unique offset used (.afterName start name) (blanks ++ '=' :: rest) =
      scan unique offset' ((name, start) :: used) (.beforeValue name) rest := by
  induction blanks generalizing offset with
  | nil =>
    refine ⟨offset + Char.utf8Size '=', ?_⟩
    rw [List.nil_append, scan]
    simp only [if_true, hfresh]
  | cons c blanks ih =>
    have hc := hblanks c List.mem_cons_self
    have hequals : c ≠ '=' := by
      rintro rfl
      exact absurd hc (by decide)
    obtain ⟨offset', hread⟩ := ih (fun x hx => hblanks x (List.mem_cons_of_mem c hx)) (offset + c.utf8Size)
    refine ⟨offset', ?_⟩
    rw [List.cons_append, scan]
    simp only [hequals, hc, if_false, if_true]
    exact hread

/-- A name is read up to the equals sign behind it, which blanks may precede. -/
theorem scan_name {cs blanks : List Char} (hcs : ∀ c ∈ cs, isNameChar c = true)
    (hblanks : ∀ c ∈ blanks, isSpace c = true) (used : UsedNames) (start : Nat) (seen rest : List Char)
    (hfresh : repeated unique used start (seen.reverse ++ cs) = none) (offset : Nat) :
    ∃ offset', scan unique offset used (.name start seen) (cs ++ (blanks ++ '=' :: rest)) =
      scan unique offset' ((seen.reverse ++ cs, start) :: used) (.beforeValue (seen.reverse ++ cs))
        rest := by
  induction cs generalizing seen offset with
  | nil =>
    rw [List.append_nil] at hfresh ⊢
    cases blanks with
    | nil =>
      refine ⟨offset + Char.utf8Size '=', ?_⟩
      rw [List.nil_append, List.nil_append, scan]
      simp only [if_true, hfresh]
    | cons c blanks =>
      have hc := hblanks c List.mem_cons_self
      have hequals : c ≠ '=' := by
        rintro rfl
        exact absurd hc (by decide)
      obtain ⟨offset', hread⟩ := scan_afterName unique (fun x hx => hblanks x (List.mem_cons_of_mem c hx)) used start
        seen.reverse rest hfresh (offset + c.utf8Size)
      refine ⟨offset', ?_⟩
      rw [List.nil_append, List.cons_append, scan]
      simp only [hequals, hc, if_false, if_true]
      exact hread
  | cons c cs ih =>
    obtain ⟨hspace, -, -, -, hequals, -⟩ := not_of_isNameChar (hcs c List.mem_cons_self)
    have hseen : (c :: seen).reverse ++ cs = seen.reverse ++ c :: cs := by simp
    obtain ⟨offset', hread⟩ := ih (fun x hx => hcs x (List.mem_cons_of_mem c hx)) (c :: seen)
      (hseen ▸ hfresh) (offset + c.utf8Size)
    rw [hseen] at hread
    refine ⟨offset', ?_⟩
    rw [List.cons_append, scan]
    simp only [hequals, hspace, if_false, Bool.false_eq_true]
    exact hread

/-- A value is read up to the quote behind it. -/
theorem scan_value {quote : Char} {value : List Char} (hvalue : quote ∉ value) (used : UsedNames)
    (name seen rest : List Char) (offset : Nat) :
    ∃ offset', scan unique offset used (.value name quote seen) (value ++ quote :: rest) =
      cons ⟨name, seen.reverse ++ value⟩ (scan unique offset' used .between rest) := by
  induction value generalizing seen offset with
  | nil =>
    refine ⟨offset + quote.utf8Size, ?_⟩
    rw [List.nil_append, List.append_nil, scan]
    simp only [if_true]
  | cons c value ih =>
    obtain ⟨hc, hvalue⟩ := List.ne_and_not_mem_of_not_mem_cons hvalue
    obtain ⟨offset', hread⟩ := ih hvalue (c :: seen) (offset + c.utf8Size)
    refine ⟨offset', ?_⟩
    rw [List.cons_append, scan]
    simp only [hc.symm, if_false]
    rw [hread]
    simp

/-- Behind an equals sign, which blanks may follow, a value begins with either quote. -/
theorem scan_beforeValue {blanks : List Char} (hblanks : ∀ c ∈ blanks, isSpace c = true) {quote : Char}
    (hquote : quote = '"' ∨ quote = '\'') (used : UsedNames) (name rest : List Char) (offset : Nat) :
    ∃ offset', scan unique offset used (.beforeValue name) (blanks ++ quote :: rest) =
      scan unique offset' used (.value name quote []) rest := by
  induction blanks generalizing offset with
  | nil =>
    refine ⟨offset + quote.utf8Size, ?_⟩
    rw [List.nil_append, scan]
    rcases hquote with rfl | rfl <;> rfl
  | cons c blanks ih =>
    obtain ⟨offset', hread⟩ := ih (fun x hx => hblanks x (List.mem_cons_of_mem c hx)) (offset + c.utf8Size)
    refine ⟨offset', ?_⟩
    rw [List.cons_append, scan]
    simp only [hblanks c List.mem_cons_self, if_true]
    exact hread

/-- An attribute is read as it is written, however it is laid out. -/
theorem scan_slot {s : Slot} (h : s.IsLegible) (hname : isName s.item.name = true)
    (used : UsedNames) (rest : List Char) (hfresh : ∀ u ∈ used, u.1 ≠ s.item.name) (offset : Nat) :
    ∃ offset' start, scan unique offset used .between (s.render ++ rest) =
      cons s.item.raw (scan unique offset' ((s.item.name, start) :: used) .between rest) := by
  obtain ⟨c, cs, hcons, hc, hcs⟩ := exists_cons_of_isName hname
  have hspace : isSpace c = false := (not_of_isNameChar hc).1
  obtain ⟨start, hlead⟩ := scan_between unique h.lead used (s.item.name ++ (s.before ++
    '=' :: (s.after ++ s.quote :: (escapeChars s.item.value ++ s.quote :: rest)))) offset
  have hunused : repeated unique used start s.item.name = none := by
    have hnone : used.find? (·.1 == s.item.name) = none := by
      rw [List.find?_eq_none]
      intro u hu
      simpa using hfresh u hu
    rw [repeated, hnone]
    cases unique <;> rfl
  obtain ⟨place, hread⟩ := scan_name unique hcs h.before used start [c]
    (s.after ++ s.quote :: (escapeChars s.item.value ++ s.quote :: rest))
    (by rw [hcons] at hunused; exact hunused) (start + c.utf8Size)
  obtain ⟨place', hread'⟩ := scan_beforeValue unique h.after h.quote ((s.item.name, start) :: used)
    s.item.name (escapeChars s.item.value ++ s.quote :: rest) place
  obtain ⟨offset', hread''⟩ := scan_value unique h.quote_not_mem ((s.item.name, start) :: used)
    s.item.name [] rest place'
  refine ⟨offset', start, ?_⟩
  have hrender : s.render ++ rest = s.lead ++ (s.item.name ++ (s.before ++
      '=' :: (s.after ++ s.quote :: (escapeChars s.item.value ++ s.quote :: rest)))) := by
    simp [Slot.render]
  rw [hrender, hlead, hcons, List.cons_append, scan]
  simp only [hspace, Bool.false_eq_true, if_false]
  rw [hread, List.reverse_singleton, List.singleton_append, ← hcons, hread', hread'']
  rfl

/-- **Attributes are read as they are written**, however they are laid out. -/
theorem scan_slots {slots : List Slot} (h : ∀ s ∈ slots, s.IsLegible)
    (hnames : ∀ s ∈ slots, isName s.item.name = true) (hdistinct : (slots.map fun s => s.item.name).Nodup)
    {trail : List Char} (htrail : ∀ c ∈ trail, isSpace c = true) (used : UsedNames)
    (hfresh : ∀ s ∈ slots, ∀ u ∈ used, u.1 ≠ s.item.name) (offset : Nat) :
    scan unique offset used .between (slots.flatMap Slot.render ++ trail) =
      ⟨slots.map fun s => s.item.raw, none⟩ := by
  induction slots generalizing used offset with
  | nil =>
    obtain ⟨offset', hread⟩ := scan_between unique htrail used [] offset
    rw [List.append_nil] at hread
    exact hread
  | cons s slots ih =>
    obtain ⟨offset', start, hread⟩ := scan_slot unique (h s List.mem_cons_self) (hnames s List.mem_cons_self) used
      (slots.flatMap Slot.render ++ trail) (hfresh s List.mem_cons_self) offset
    rw [List.map_cons, List.nodup_cons] at hdistinct
    rw [List.flatMap_cons, List.append_assoc, hread,
      ih (fun x hx => h x (List.mem_cons_of_mem s hx)) (fun x hx => hnames x (List.mem_cons_of_mem s hx)) hdistinct.2]
    · rfl
    · intro x hx u hu
      rcases List.mem_cons.1 hu with rfl | hu
      · intro hsame
        exact hdistinct.1 (List.mem_map.2 ⟨x, hx, hsame.symm⟩)
      · exact hfresh x (List.mem_cons_of_mem s hx) u hu

end Attributes

theorem Layout.attributes_tag {l : Layout} (h : l.IsLegible) (unique : Bool) :
    l.tag.attributes unique = ⟨l.head.attributes.map Attribute.raw, none⟩ := by
  have hdistinct : (l.slots.map fun s => s.item.name).Nodup := by
    have hnodup := Head.nodup_names h.head
    rwa [head, List.map_map] at hnodup
  rw [head, List.map_map]
  exact Attributes.scan_slots unique h.slots h.isName_slot hdistinct h.trail [] (by simp) _

namespace Head

variable {h : Head} {scope inner : Scope} {uri : String}

/-- The plain attributes are those that are no declarations, with the values that are meant. -/
theorem plainAttributes_raw (as : List Attribute) :
    Partial.plainAttributes (as.map Attribute.raw) =
      .ok ((as.filter fun a => (declaredLabel? a.name).isNone).map fun a =>
        (String.ofList (splitName a.name).2, String.ofList a.value)) := by
  induction as with
  | nil => rfl
  | cons a as ih =>
    rw [List.map_cons, Partial.plainAttributes, ih]
    have hvalue : unescape a.raw.value = .ok a.value := unescape_escapeChars a.value
    have hname : a.raw.name = a.name := rfl
    rw [hname]
    cases hlabel : declaredLabel? a.name with
    | none =>
      rw [List.filter_cons_of_pos (by rw [hlabel]; rfl), hvalue]
      rfl
    | some label =>
      rw [List.filter_cons_of_neg (by rw [hlabel]; exact Bool.false_ne_true)]
      rfl

end Head

/-- **What a tag means is what it opens**, however it is laid out. -/
theorem Layout.openElement {l : Layout} {scope inner : Scope} {uri : String} (hlegible : l.IsLegible)
    (hmeans : l.head.Means scope inner uri) {p : Partial} (hscope : p.scope = scope)
    (hdepth : p.stack.length < maxDepth) :
    p.openElement l.tag = .ok ⟨some uri, l.head.localName, l.head.plain, "", [], inner⟩ := by
  have henter : p.scope.enter l.tag = .ok inner := by
    rw [hscope, Scope.enter, attributes_tag hlegible]
    exact hmeans.declared
  have hread : Partial.readAttributes l.tag = .ok l.head.plain := by
    rw [Partial.readAttributes, attributes_tag hlegible]
    simp only [Head.plainAttributes_raw]
    rfl
  have hname : l.tag.name = l.head.name := rfl
  have hresolved := hmeans.resolved
  rw [Partial.openElement, henter, hread, hname]
  obtain ⟨label, name, hsplit⟩ : ∃ label name, splitName l.head.name = (label, name) := ⟨_, _, rfl⟩
  rw [hsplit] at hresolved
  have hlocal : l.head.localName = String.ofList name := by rw [Head.localName, hsplit]
  rw [hsplit, hlocal]
  have hshallow : ¬ maxDepth ≤ p.stack.length := Nat.not_le.2 hdepth
  simp only [Except.bind, bind, pure, Except.pure, hshallow, if_false, hresolved]

theorem Head.Means.openElement {h : Head} {scope inner : Scope} {uri : String} (hmeans : h.Means scope inner uri)
    {p : Partial} (hscope : p.scope = scope) (hdepth : p.stack.length < maxDepth) :
    p.openElement h.tag = .ok ⟨some uri, h.localName, h.plain, "", [], inner⟩ := by
  have hopen := Layout.openElement (l := h.layout) (isLegible_layout hmeans.legible)
    (by rwa [head_layout]) hscope hdepth
  rwa [tag_layout, head_layout] at hopen

/-! ## Building the tree -/

namespace Partial

/-- Some tokens more. -/
def buildAll (p : Partial) (ts : List Token) : Except Fault Partial :=
  ts.foldlM step p

/-- Building does not depend on where the tokens stand. -/
theorem run_eq_of_buildAll {p p' : Partial} {placed : List Placed}
    (h : p.buildAll (placed.map Prod.snd) = .ok p') : p.run placed = .ok p' := by
  induction placed generalizing p with
  | nil =>
    obtain rfl := Except.ok.inj h
    rfl
  | cons t placed ih =>
    rw [buildAll, List.map_cons, List.foldlM_cons] at h
    rw [run]
    cases hstep : p.step t.2 with
    | error f =>
      rw [hstep] at h
      cases h
    | ok q =>
      rw [hstep] at h
      exact ih h

theorem buildAll_append {p q : Partial} {ts : List Token} (h : p.buildAll ts = .ok q) (us : List Token) :
    p.buildAll (ts ++ us) = q.buildAll us := by
  rw [buildAll, List.foldlM_append]
  show p.buildAll ts >>= _ = _
  rw [h]
  rfl

theorem buildAll_cons {p q : Partial} {t : Token} (h : p.step t = .ok q) (ts : List Token) :
    p.buildAll (t :: ts) = q.buildAll ts := by
  rw [buildAll, List.foldlM_cons, h]
  rfl

/-- The innermost open element with more text and more children. -/
def filled (e : OpenElement) (text : String) (children : List Element) : OpenElement :=
  { e with text := e.text ++ text, children := children.reverse ++ e.children }

theorem filled_filled (e : OpenElement) (text text' : String) (children children' : List Element) :
    filled (filled e text children) text' children' = filled e (text ++ text') (children ++ children') := by
  simp [filled, String.append_assoc]

variable {e : OpenElement} {stack : List OpenElement} {root : Option Element}

/-- A text is added to the innermost open element. -/
theorem buildAll_textTokens (text : List Char) :
    buildAll ⟨e :: stack, root⟩ (Markup.textTokens text) =
      .ok ⟨filled e (String.ofList (trimSpaces text)) [] :: stack, root⟩ := by
  have htrim := trimSpaces_escapeChars text
  rw [Markup.textTokens]
  split
  · rename_i hblank
    rw [trimSpaces, hblank] at htrim
    have hnil : trimSpaces text = [] := by
      have hvalue := unescape_escapeChars (trimSpaces text)
      rw [← htrim] at hvalue
      exact (Except.ok.inj hvalue).symm
    rw [hnil, filled, String.append_eq_left_iff.2 rfl]
    rfl
  · have hstep : step ⟨e :: stack, root⟩ (.text (trimSpaces (escapeChars text))) =
        .ok ⟨filled e (String.ofList (trimSpaces text)) [] :: stack, root⟩ := by
      rw [htrim]
      simp only [step, List.isEmpty_cons, Bool.false_eq_true, if_false, unescape_escapeChars]
      rfl
    exact buildAll_cons hstep []

/-- **The tree builder makes of markup what it means.** -/
theorem buildAll_tokens (e : OpenElement) (stack : List OpenElement) (root : Option Element) {m : Markup}
    {scope : Scope} {text : String} {children : List Element}
    (h : m.Means scope text children) (hscope : e.scope = scope)
    (hdepth : stack.length + 1 + m.depth ≤ maxDepth) :
    buildAll ⟨e :: stack, root⟩ m.tokens = .ok ⟨filled e text children :: stack, root⟩ := by
  induction h generalizing e stack with
  | done => exact buildAll_textTokens _
  | @empty scope inner text head rest uri more children hhead hrest ih =>
    rw [Markup.depth] at hdepth
    have hopen := hhead.openElement (p := ⟨filled e (String.ofList (trimSpaces text)) [] :: stack, root⟩)
      hscope (by rw [List.length_cons]; omega)
    have hstep : step ⟨filled e (String.ofList (trimSpaces text)) [] :: stack, root⟩ (.empty head.tag) =
        .ok ⟨filled e (String.ofList (trimSpaces text)) [⟨some uri, head.localName, head.plain, "", []⟩]
          :: stack, root⟩ := by
      rw [step, hopen]
      rfl
    have hmore := ih (filled e (String.ofList (trimSpaces text))
      [⟨some uri, head.localName, head.plain, "", []⟩]) stack hscope (by omega)
    rw [Markup.tokens, buildAll_append (buildAll_textTokens text), buildAll_cons hstep, hmore,
      filled_filled]
    rfl
  | @element scope inner text head inside rest uri content more below children hhead _ _ ihInside ihRest =>
    rw [Markup.depth] at hdepth
    have hopen := hhead.openElement (p := ⟨filled e (String.ofList (trimSpaces text)) [] :: stack, root⟩)
      hscope (by rw [List.length_cons]; omega)
    have hstep : step ⟨filled e (String.ofList (trimSpaces text)) [] :: stack, root⟩ (.opening head.tag) =
        .ok ⟨⟨some uri, head.localName, head.plain, "", [], inner⟩ ::
          filled e (String.ofList (trimSpaces text)) [] :: stack, root⟩ := by
      rw [step, hopen]
      rfl
    have hinside := ihInside ⟨some uri, head.localName, head.plain, "", [], inner⟩
      (filled e (String.ofList (trimSpaces text)) [] :: stack) rfl
      (by rw [List.length_cons]; omega)
    have hclose : step ⟨filled ⟨some uri, head.localName, head.plain, "", [], inner⟩ content below ::
          filled e (String.ofList (trimSpaces text)) [] :: stack, root⟩ .closing =
        .ok ⟨filled e (String.ofList (trimSpaces text))
          [⟨some uri, head.localName, head.plain, content, below⟩] :: stack, root⟩ := by
      simp [step, attach, filled, OpenElement.close]
    have hmore := ihRest (filled e (String.ofList (trimSpaces text))
      [⟨some uri, head.localName, head.plain, content, below⟩]) stack hscope (by omega)
    rw [Markup.tokens, buildAll_append (buildAll_textTokens text), buildAll_cons hstep,
      buildAll_append hinside, buildAll_cons hclose, hmore, filled_filled]
    rfl

end Partial

/-! ## Documents -/

/-- A document is what its tokens are built into. -/
theorem parse_of_reads {cs : List Char} (ts : List Token) {root : Element}
    (hreads : Lexer.Reads [] (.text []) cs ts [] (.text [])) (hmark : cs.head? ≠ some byteOrderMark)
    (hbuild : Partial.empty.buildAll ts = .ok ⟨[], some root⟩) :
    Document.parse (String.ofList cs) = .ok ⟨root, String.ofList cs⟩ := by
  obtain ⟨placed, rfl, htokens⟩ := hreads.tokens_eq hmark
  rw [Document.parse, htokens]
  simp only [Partial.run_eq_of_buildAll hbuild]
  rfl

/-- The characters of a document: what stands in front, and the root in two tags. -/
def document (front : List Char) (head : Head) (inside : Markup) : List Char :=
  front ++ '<' :: (head.render ++ '>' :: (inside.render ++ '<' :: '/' :: (head.name ++ ['>'])))

/-- **Parsing undoes rendering.**  A document whose front gives nothing that is built is parsed as the element
that its root means, if it is not too deep. -/
theorem parse_document {front : List Char} {asides : List Token} {head : Head} {inside : Markup}
    {inner : Scope} {uri text : String} {children : List Element}
    (hfront : Lexer.Reads [] (.text []) (front ++ ['<']) asides [] .markup)
    (hasides : ∀ t ∈ asides, t = .aside) (hmark : front.head? ≠ some byteOrderMark)
    (hhead : head.Means .outermost inner uri) (hinside : inside.Means inner text children)
    (hdepth : inside.depth < maxDepth) :
    Document.parse (String.ofList (document front head inside)) =
      .ok ⟨⟨some uri, head.localName, head.plain, text, children⟩,
        String.ofList (document front head inside)⟩ := by
  have hreads := hfront.trans ((Lexer.reads_opening [] hhead.legible).trans
    ((Lexer.reads_render [head.name] hinside.legible).trans
      (Lexer.reads_closing [] (Head.isName_name hhead.legible))))
  have hskip : Partial.empty.buildAll asides = .ok .empty := by
    clear hreads hfront
    induction asides with
    | nil => rfl
    | cons t asides ih =>
      obtain rfl := hasides t List.mem_cons_self
      rw [Partial.buildAll_cons (q := .empty) rfl]
      exact ih fun x hx => hasides x (List.mem_cons_of_mem _ hx)
  have hopen : Partial.empty.step (.opening head.tag) =
      .ok ⟨[⟨some uri, head.localName, head.plain, "", [], inner⟩], none⟩ := by
    rw [Partial.step, hhead.openElement rfl (by decide)]
    rfl
  have hbuilt := Partial.buildAll_tokens ⟨some uri, head.localName, head.plain, "", [], inner⟩ [] none
    hinside rfl (by rw [List.length_nil]; omega)
  refine parse_of_reads (asides ++ ([.opening head.tag] ++ (inside.tokens ++ [.closing]))) ?_ ?_ ?_
  · simpa [document] using hreads
  · cases front with
    | nil => exact nofun
    | cons c front => exact hmark
  · rw [Partial.buildAll_append hskip, List.singleton_append, Partial.buildAll_cons hopen,
      Partial.buildAll_append hbuilt]
    simp [Partial.buildAll, Partial.step, Partial.attach, Partial.filled, OpenElement.close]

end RemoteShell.Xml
