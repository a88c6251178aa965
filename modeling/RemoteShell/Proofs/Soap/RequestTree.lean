import RemoteShell.Proofs.Soap.RequestMarkup
import RemoteShell.Proofs.Xml.Traversal
import RemoteShell.Soap.Response

/-!
# What a request document says

`requestTree` is the element tree of a request.  Its form is fixed but for what is plain to see: which
optional parts there are, how many options, and which kind of body.  Texts from outside stand in attribute
values, as they are, and between the tags of elements that hold nothing else, trimmed.

The markup of a request means this tree (`says_requestMarkup`), so `parse_build` says that every request
document is parsed as it.
-/

namespace RemoteShell.Soap

open Xml (Attribute Document Element Head Markup Scope isPlain trimmed)

/-! ## The tree -/

/-- The attribute of a field that the receiver has to understand. -/
def mandatory : List (String × String) := [("mustUnderstand", "true")]

/-- The attributes of an element that carries the locale. -/
def localeAttributes (locale : String) : List (String × String) :=
  [("lang", locale), ("mustUnderstand", "false")]

/-- The selector of a shell. -/
def selectorTree (shellId : String) : Element :=
  ⟨some managementUri, "Selector", [("Name", "ShellId")], trimmed shellId, []⟩

/-- One option. -/
def optionTree (option : String × String) : Element :=
  ⟨some managementUri, "Option", [("Name", option.1)], trimmed option.2, []⟩

/-- The field that asks for something. -/
def actionTree (action : Action) : Element :=
  ⟨some addressingUri, "Action", mandatory, action.uri, []⟩

/-- The fields of the header. -/
def headerTrees (p : Parameters) (id : String) (action : Action) (shellId : Option String)
    (options : Option Options) : List Element :=
  [⟨some addressingUri, "To", [], trimmed p.endpoint, []⟩,
    ⟨some addressingUri, "ReplyTo", [], "",
      [⟨some addressingUri, "Address", mandatory, anonymousAddress, []⟩]⟩,
    ⟨some managementUri, "MaxEnvelopeSize", mandatory, toString p.maxEnvelopeSize, []⟩,
    ⟨some addressingUri, "MessageID", [], id, []⟩,
    ⟨some managementUri, "Locale", localeAttributes p.locale, "", []⟩,
    ⟨some windowsUri, "DataLocale", localeAttributes p.locale, "", []⟩,
    ⟨some managementUri, "OperationTimeout", [], trimmed p.operationTimeout, []⟩,
    actionTree action] ++
  (shellId.map fun s => ⟨some managementUri, "SelectorSet", [], "", [selectorTree s]⟩).toList ++
  ⟨some managementUri, "ResourceURI", mandatory, shellResource, []⟩ ::
    (options.map fun o => ⟨some managementUri, "OptionSet", [], "", o.map optionTree⟩).toList

/-- What a body holds. -/
def Body.trees : Body → List Element
  | shell input output =>
    [⟨some shellUri, "Shell", [], "",
      [⟨some shellUri, "InputStreams", [], trimmed input, []⟩,
        ⟨some shellUri, "OutputStreams", [], trimmed output, []⟩]⟩]
  | commandLine text =>
    [⟨some shellUri, "CommandLine", [], "", [⟨some shellUri, "Command", [], trimmed text, []⟩]⟩]
  | receive commandId =>
    [⟨some shellUri, "Receive", [], "",
      [⟨some shellUri, "DesiredStream", [("CommandId", commandId)], "stdout stderr", []⟩]⟩]
  | signal commandId =>
    [⟨some shellUri, "Signal", [("CommandId", commandId)], "",
      [⟨some shellUri, "Code", [], terminateSignal, []⟩]⟩]
  | empty => []

/-- The element tree of a request. -/
def requestTree (p : Parameters) (id : String) (action : Action) (shellId : Option String)
    (options : Option Options) (body : Body) : Element :=
  ⟨some soapUri, "Envelope", [], "",
    [⟨some soapUri, "Header", [], "", headerTrees p id action shellId options⟩,
      ⟨some soapUri, "Body", [], "", body.trees⟩]⟩

/-! ## What the markup means -/

/-- The declarations in force inside a request. -/
def requestScope : Scope :=
  [⟨"rsp".toList, shellUri.toList⟩, ⟨"p".toList, windowsUri.toList⟩,
    ⟨"w".toList, managementUri.toList⟩, ⟨"a".toList, addressingUri.toList⟩,
    ⟨"s".toList, soapUri.toList⟩] ++ Scope.outermost

theorem resolve_requestScope : ∀ b ∈ [("s", soapUri), ("a", addressingUri), ("w", managementUri),
    ("p", windowsUri), ("rsp", shellUri)],
    requestScope.resolve (some b.1.toList) = .bound b.2 := by
  have huris := namespaces_plain
  simp only [List.mem_cons, List.not_mem_nil, or_false, forall_eq_or_imp, forall_eq] at huris ⊢
  obtain ⟨⟨-, hs, -⟩, ⟨-, ha, -⟩, ⟨-, hw, -⟩, ⟨-, hp, -⟩, -, hrsp, -⟩ := huris
  simp [requestScope, Scope.resolve, hs, ha, hw, hp, hrsp]

/-- A tag is legible if its names are. -/
theorem isLegible_tag {name : String} {attributes : List (String × String)}
    (hname : Xml.isName name.toList = true) (names : List String) (hnames : attributes.map Prod.fst = names)
    (hlegible : (∀ n ∈ names, Xml.isName n.toList = true) ∧ (names.map String.toList).Nodup) :
    (tag name attributes).isLegible = true := by
  subst hnames
  simp only [List.map_map] at hlegible
  simp only [tag, Head.isLegible, Bool.and_eq_true, List.all_eq_true, decide_eq_true_eq, List.map_map]
  refine ⟨⟨hname, ?_⟩, hlegible.2⟩
  intro a ha
  obtain ⟨b, hb, rfl⟩ := List.mem_map.1 ha
  exact hlegible.1 b.1 (List.mem_map_of_mem hb)

/-- The root declares the prefixes of a request. -/
theorem means_envelopeTag : envelopeTag.Means .outermost requestScope soapUri := by
  refine ⟨?_, ?_, ?_⟩
  · exact isLegible_tag (by decide) _ rfl (by decide)
  · have huris := namespaces_plain
    simp only [List.mem_cons, List.not_mem_nil, or_false, forall_eq_or_imp, forall_eq] at huris
    obtain ⟨⟨hs, -, hs'⟩, ⟨ha, -, ha'⟩, ⟨hw, -, hw'⟩, ⟨hp, -, hp'⟩, hrsp, -, hrsp'⟩ := huris
    have hprefix (name label : String) (h : name.toList = "xmlns:".toList ++ label.toList)
        (hlabel : label.toList ≠ "xml".toList ∧ label.toList ≠ "xmlns".toList) {uri : List Char}
        (huri : uri ≠ Xml.xmlUri.toList ∧ uri ≠ Xml.xmlnsUri.toList) (scope : Scope) :
        Xml.declare scope ⟨name.toList, uri⟩ = .ok (⟨label.toList, uri⟩ :: scope) := by
      rw [h, Xml.declare_label scope hlabel huri]
    simp only [envelopeTag, tag, Attribute.raw, List.map_cons, List.map_nil, List.foldlM_cons,
      List.foldlM_nil, hs, ha, hw, hp, hrsp, hprefix "xmlns:s" "s" (by decide) (by decide) hs',
      hprefix "xmlns:a" "a" (by decide) (by decide) ha', hprefix "xmlns:w" "w" (by decide) (by decide) hw',
      hprefix "xmlns:p" "p" (by decide) (by decide) hp',
      hprefix "xmlns:rsp" "rsp" (by decide) (by decide) hrsp', bind, Except.bind, pure, Except.pure,
      requestScope, List.cons_append, List.nil_append]
  · exact resolve_requestScope ("s", soapUri) (by simp)

/-- A tag that declares nothing means that its prefix is in scope. -/
theorem means_tag {name localName uri : String} {label : List Char}
    (attributes : List (String × String)) (hlegible : (tag name attributes).isLegible = true)
    (hplain : ∀ a ∈ attributes, Xml.declaredLabel? a.1.toList = none)
    (hname : Xml.splitName name.toList = (some label, localName.toList))
    (hresolve : requestScope.resolve (some label) = .bound uri) :
    (tag name attributes).Means requestScope requestScope uri ∧
      (tag name attributes).localName = localName := by
  have hnone : ∀ a ∈ (tag name attributes).attributes.map Attribute.raw,
      Xml.declaredLabel? a.name = none := by
    intro a ha
    obtain ⟨b, hb, rfl⟩ := List.mem_map.1 ha
    obtain ⟨c, hc, rfl⟩ := List.mem_map.1 hb
    exact hplain c hc
  have hdeclared := Xml.foldlM_declare_plain requestScope hnone
  refine ⟨⟨hlegible, hdeclared, ?_⟩, ?_⟩
  · rw [tag, hname]
    exact hresolve
  · rw [Head.localName, tag, hname, String.ofList_toList]

/-- The elements that some markup of a request means, when there is no text between them. -/
def Says (m : Markup) (es : List Element) : Prop := m.Means requestScope "" es

/-- The tag of a request with its prefix resolved. -/
structure Tagged (head : Head) (uri localName : String) (attributes : List (String × String)) : Prop where
  means : head.Means requestScope requestScope uri
  localName : head.localName = localName
  attributes : head.plain = attributes

section Says

variable {head : Head} {uri localName : String} {attributes : List (String × String)}
  {inside rest : Markup} {below es : List Element}

theorem says_nothing : Says nothing [] :=
  .done

theorem says_leaf (h : Tagged head uri localName attributes) (text : String) (hrest : Says rest es) :
    Says (leaf head text rest) (⟨some uri, localName, attributes, trimmed text, []⟩ :: es) := by
  have hmeans : Says (leaf head text rest)
      (⟨some uri, head.localName, head.plain, trimmed text, []⟩ :: es) := .element h.means .done hrest
  rw [h.localName, h.attributes] at hmeans
  exact hmeans

theorem says_node (h : Tagged head uri localName attributes) (hinside : Says inside below)
    (hrest : Says rest es) :
    Says (node head inside rest) (⟨some uri, localName, attributes, "", below⟩ :: es) := by
  have hmeans : Says (node head inside rest)
      (⟨some uri, head.localName, head.plain, "", below⟩ :: es) := .element h.means hinside hrest
  rw [h.localName, h.attributes] at hmeans
  exact hmeans

theorem says_empty (h : Tagged head uri localName attributes) (hrest : Says rest es) :
    Says (.empty [] head rest) (⟨some uri, localName, attributes, "", []⟩ :: es) := by
  have hmeans : Says (.empty [] head rest)
      (⟨some uri, head.localName, head.plain, "", []⟩ :: es) := .empty h.means hrest
  rw [h.localName, h.attributes] at hmeans
  exact hmeans

end Says

section Tagged

variable (name localName : String) {uri : String} {label : List Char}
  (hname : Xml.isName name.toList = true ∧ Xml.splitName name.toList = (some label, localName.toList))
  (hresolve : requestScope.resolve (some label) = .bound uri)
include hname hresolve

theorem tagged_bare : Tagged (tag name []) uri localName [] := by
  obtain ⟨hmeans, hlocal⟩ := means_tag [] (isLegible_tag hname.1 [] rfl (by decide)) nofun hname.2 hresolve
  exact ⟨hmeans, hlocal, rfl⟩

theorem tagged_mandatory : Tagged (mandatoryTag name) uri localName mandatory := by
  obtain ⟨hmeans, hlocal⟩ := means_tag [("s:mustUnderstand", "true")]
    (isLegible_tag hname.1 ["s:mustUnderstand"] rfl (by decide)) (by simp [Xml.declaredLabel?]) hname.2 hresolve
  exact ⟨hmeans, hlocal, by
    simp [mandatoryTag, tag, Head.plain, Xml.splitName, Xml.declaredLabel?, mandatory]⟩

theorem tagged_locale (locale : String) :
    Tagged (localeTag name locale) uri localName (localeAttributes locale) := by
  obtain ⟨hmeans, hlocal⟩ := means_tag [("xml:lang", locale), ("s:mustUnderstand", "false")]
    (isLegible_tag hname.1 ["xml:lang", "s:mustUnderstand"] rfl (by decide)) (by simp [Xml.declaredLabel?]) hname.2 hresolve
  exact ⟨hmeans, hlocal, by
    simp [localeTag, tag, Head.plain, Xml.splitName, Xml.declaredLabel?, localeAttributes]⟩

/-- A tag with one attribute without a prefix. -/
theorem tagged_single (field : String) (hfield : Xml.isName field.toList = true ∧
      Xml.declaredLabel? field.toList = none ∧ Xml.splitName field.toList = (none, field.toList))
    (value : String) : Tagged (tag name [(field, value)]) uri localName [(field, value)] := by
  obtain ⟨hmeans, hlocal⟩ := means_tag [(field, value)]
    (isLegible_tag hname.1 [field] rfl (by simpa using hfield.1)) (by simpa using hfield.2.1) hname.2 hresolve
  exact ⟨hmeans, hlocal, by simp [tag, Head.plain, hfield.2.1, hfield.2.2]⟩

end Tagged

theorem says_selectorMarkup (shellId : Option String) {rest : Markup} {es : List Element}
    (hrest : Says rest es) : Says (selectorMarkup shellId rest)
      ((shellId.map fun s => ⟨some managementUri, "SelectorSet", [], "", [selectorTree s]⟩).toList ++ es) := by
  have hw := resolve_requestScope ("w", managementUri) (by simp)
  cases shellId with
  | none => exact hrest
  | some s =>
    have hselector := says_leaf (tagged_single "w:Selector" "Selector" (by decide) hw "Name" (by decide)
      "ShellId") s says_nothing
    exact says_node (tagged_bare "w:SelectorSet" "SelectorSet" (by decide) hw) hselector hrest

theorem says_optionMarkup (options : Options) : Says (optionMarkup options) (options.map optionTree) := by
  have hw := resolve_requestScope ("w", managementUri) (by simp)
  induction options with
  | nil => exact says_nothing
  | cons o options ih =>
    exact says_leaf (tagged_single "w:Option" "Option" (by decide) hw "Name" (by decide) o.1) o.2 ih

theorem says_optionsMarkup (options : Option Options) : Says (optionsMarkup options)
    (options.map fun o => ⟨some managementUri, "OptionSet", [], "", o.map optionTree⟩).toList := by
  have hw := resolve_requestScope ("w", managementUri) (by simp)
  cases options with
  | none => exact says_nothing
  | some o =>
    exact says_node (tagged_bare "w:OptionSet" "OptionSet" (by decide) hw) (says_optionMarkup o)
      says_nothing

/-- **The markup of the header means its fields.** -/
theorem says_headerMarkup (p : Parameters) {id : String} (hid : isPlain id.toList = true) (action : Action)
    (shellId : Option String) (options : Option Options) :
    Says (headerMarkup p id action shellId options) (headerTrees p id action shellId options) := by
  have ha := resolve_requestScope ("a", addressingUri) (by simp)
  have hw := resolve_requestScope ("w", managementUri) (by simp)
  have hp := resolve_requestScope ("p", windowsUri) (by simp)
  have hresource := says_leaf (tagged_mandatory "w:ResourceURI" "ResourceURI" (by decide) hw) shellResource
    (says_optionsMarkup options)
  have hselector := says_selectorMarkup shellId hresource
  have haction := says_leaf (tagged_mandatory "a:Action" "Action" (by decide) ha) action.uri hselector
  have htimeout := says_leaf (tagged_bare "w:OperationTimeout" "OperationTimeout" (by decide) hw)
    p.operationTimeout haction
  have hdataLocale := says_empty (tagged_locale "p:DataLocale" "DataLocale" (by decide) hp p.locale) htimeout
  have hlocale := says_empty (tagged_locale "w:Locale" "Locale" (by decide) hw p.locale) hdataLocale
  have hmessage := says_leaf (tagged_bare "a:MessageID" "MessageID" (by decide) ha) id hlocale
  have hsize := says_leaf (tagged_mandatory "w:MaxEnvelopeSize" "MaxEnvelopeSize" (by decide) hw)
    (toString p.maxEnvelopeSize) hmessage
  have haddress := says_leaf (tagged_mandatory "a:Address" "Address" (by decide) ha) anonymousAddress
    says_nothing
  have hreply := says_node (tagged_bare "a:ReplyTo" "ReplyTo" (by decide) ha) haddress hsize
  have hto := says_leaf (tagged_bare "a:To" "To" (by decide) ha) p.endpoint hreply
  rw [Xml.trimmed_of_isPlain plain_shellResource, Xml.trimmed_of_isPlain (plain_uri action),
    Xml.trimmed_of_isPlain hid, Xml.trimmed_of_isPlain (plain_toString p.maxEnvelopeSize),
    Xml.trimmed_of_isPlain plain_anonymousAddress] at hto
  simpa [headerMarkup, headerTrees, actionTree] using hto

/-- **The markup of the body means what the body holds.** -/
theorem says_bodyMarkup (body : Body) :
    Says body.markup [⟨some soapUri, "Body", [], "", body.trees⟩] := by
  have hs := resolve_requestScope ("s", soapUri) (by simp)
  have hrsp := resolve_requestScope ("rsp", shellUri) (by simp)
  have hbody := tagged_bare "s:Body" "Body" (by decide) hs
  cases body with
  | shell input output =>
    have houtput := says_leaf (tagged_bare "rsp:OutputStreams" "OutputStreams" (by decide) hrsp) output
      says_nothing
    have hinput := says_leaf (tagged_bare "rsp:InputStreams" "InputStreams" (by decide) hrsp) input houtput
    exact says_node hbody (says_node (tagged_bare "rsp:Shell" "Shell" (by decide) hrsp) hinput says_nothing)
      says_nothing
  | commandLine text =>
    have hcommand := says_leaf (tagged_bare "rsp:Command" "Command" (by decide) hrsp) text says_nothing
    exact says_node hbody (says_node (tagged_bare "rsp:CommandLine" "CommandLine" (by decide) hrsp)
      hcommand says_nothing) says_nothing
  | receive commandId =>
    have hstream := says_leaf (tagged_single "rsp:DesiredStream" "DesiredStream" (by decide) hrsp
      "CommandId" (by decide) commandId) "stdout stderr" says_nothing
    have htrimmed : trimmed "stdout stderr" = "stdout stderr" := by decide
    rw [htrimmed] at hstream
    exact says_node hbody (says_node (tagged_bare "rsp:Receive" "Receive" (by decide) hrsp) hstream
      says_nothing) says_nothing
  | signal commandId =>
    have hcode := says_leaf (tagged_bare "rsp:Code" "Code" (by decide) hrsp) terminateSignal says_nothing
    rw [Xml.trimmed_of_isPlain plain_terminateSignal] at hcode
    exact says_node hbody (says_node (tagged_single "rsp:Signal" "Signal" (by decide) hrsp "CommandId"
      (by decide) commandId) hcode says_nothing) says_nothing
  | empty => exact says_empty hbody says_nothing

theorem says_requestMarkup (p : Parameters) {id : String} (hid : isPlain id.toList = true) (action : Action)
    (shellId : Option String) (options : Option Options) (body : Body) :
    Says (requestMarkup p id action shellId options body)
      (requestTree p id action shellId options body).children := by
  have hs := resolve_requestScope ("s", soapUri) (by simp)
  exact says_node (tagged_bare "s:Header" "Header" (by decide) hs)
    (says_headerMarkup p hid action shellId options) (says_bodyMarkup body)

/-! ## Message identifiers -/

theorem plain_digits (count n : Nat) : isPlain (MessageId.digits count n).toList = true := by
  have hdigit : ∀ m < 16, isPlain [MessageId.digit m] = true := by decide
  rw [MessageId.digits, String.toList_ofList, Xml.isPlain_iff]
  intro c hc
  obtain ⟨i, -, rfl⟩ := List.mem_map.1 hc
  exact Xml.isPlain_iff.1 (hdigit _ (Nat.mod_lt _ (by decide))) _ List.mem_cons_self

/-- Message identifiers are plain. -/
theorem plain_ofBits (n : Nat) : isPlain (MessageId.ofBits n).toList = true := by
  have hdash : isPlain "-".toList = true := by decide
  have hscheme : isPlain "uuid:".toList = true := by decide
  simp only [MessageId.ofBits, String.intercalate_cons_cons, String.intercalate_singleton,
    String.toList_append, List.append_assoc]
  refine Xml.isPlain_append hscheme ?_
  iterate 4
    refine Xml.isPlain_append (plain_digits _ _) ?_
    refine Xml.isPlain_append hdash ?_
  exact plain_digits _ _

/-! ## Main result -/

/-- The declaration in front of a request is set aside. -/
theorem reads_declaration : Xml.Lexer.Reads [] (.text []) (declaration.toList ++ ['<']) [.aside] []
    .markup := by
  have hdeclaration : declaration.toList ++ ['<'] =
      '<' :: '?' :: ("xml version=\"1.0\" encoding=\"UTF-8\"".toList ++ ['?', '>']) ++ ['\n', '<'] := by
    decide
  have hbreak : Xml.Lexer.Reads [] (.text []) ['\n'] [] [] (.text []) :=
    .silent fun place mark => ⟨place + Char.utf8Size '\n', mark, rfl⟩
  have hopen : Xml.Lexer.Reads [] (.text []) ['<'] [] [] .markup :=
    .silent fun place mark => ⟨place + Char.utf8Size '<', mark, rfl⟩
  rw [hdeclaration]
  exact (Xml.Lexer.reads_instruction [] (by decide)).trans (.cons hbreak hopen)

theorem parse_build_eq (p : Parameters) {id : String} (hid : isPlain id.toList = true) (action : Action)
    (shellId : Option String) (options : Option Options) (body : Body) :
    Document.parse (Envelope.build p id action shellId options body).xml =
      .ok ⟨requestTree p id action shellId options body,
        (Envelope.build p id action shellId options body).xml⟩ := by
  have hdepth := depth_requestMarkup p id action shellId options body
  have hparse := Xml.parse_document reads_declaration (by simp) (by decide) means_envelopeTag
    (says_requestMarkup p hid action shellId options body)
    (Nat.lt_of_le_of_lt hdepth (by decide))
  have hroot : requestTree p id action shellId options body = ⟨some soapUri, envelopeTag.localName,
      envelopeTag.plain, "", (requestTree p id action shellId options body).children⟩ := by
    have hname : envelopeTag.localName = "Envelope" := by decide
    have hplain : envelopeTag.plain = [] := by
      simp [envelopeTag, tag, Head.plain, Xml.declaredLabel?]
    rw [hname, hplain]
    rfl
  rw [← toList_build p hid, String.ofList_toList, ← hroot] at hparse
  exact hparse

/-! ### The elements of a request -/

/-- The same kind of body without texts. -/
def Body.blank : Body → Body
  | shell _ _ => shell "" ""
  | commandLine _ => commandLine ""
  | receive _ => receive ""
  | signal _ => signal ""
  | empty => empty

/-- The outline of a request.  It depends on whether the request names a shell, whether it has options and
how many, and on the kind of its body. -/
def requestOutline (hasShell : Bool) (optionCount : Option Nat) (kind : Body) : Element :=
  (requestTree ⟨"", 0, "", "", 0⟩ "" .create (if hasShell then some "" else none)
    (optionCount.map fun n => List.replicate n ("", "")) kind).outline

/-- **Texts do not change the form of a request.** -/
theorem outline_requestTree (p : Parameters) (id : String) (action : Action) (shellId : Option String)
    (options : Option Options) (body : Body) :
    (requestTree p id action shellId options body).outline =
      requestOutline shellId.isSome (options.map List.length) body.blank := by
  have hbody : Element.outlineAll body.trees = Element.outlineAll body.blank.trees := by
    cases body <;> simp only [Body.trees, Body.blank, Element.outlineAll, Element.outline, List.map_cons,
      List.map_nil]
  have hoptions : ∀ o : Options, Element.outlineAll (o.map optionTree) =
      Element.outlineAll ((List.replicate o.length ("", "")).map optionTree) := by
    intro o
    rw [Element.outlineAll_eq_map, Element.outlineAll_eq_map, List.map_map, List.map_replicate,
      List.map_replicate]
    exact (List.map_const' (l := o) (b := (optionTree ("", "")).outline))
  cases shellId <;> cases options <;>
    simp [requestOutline, requestTree, headerTrees, Element.outline, Element.outlineAll, hbody, hoptions,
      mandatory, localeAttributes, selectorTree, actionTree]

theorem named_mk (uri other name label : String) (attributes : List (String × String)) (text : String)
    (children : List Element) :
    (⟨some uri, name, attributes, text, children⟩ : Element).named other label =
      (uri == other && name == label) := by
  simp [Element.named]

/-- Options are the only elements among themselves. -/
theorem filter_optionTrees (options : Options) (uri name : String) :
    (Element.preorderAll (options.map optionTree)).filter (·.named uri name) =
      if managementUri == uri && "Option" == name then options.map optionTree else [] := by
  have hnamed : ∀ o, (optionTree o).named uri name = (managementUri == uri && "Option" == name) :=
    fun o => named_mk _ _ _ _ _ _ _
  induction options with
  | nil => simp [Element.preorderAll]
  | cons o options ih =>
    rw [List.map_cons, Element.preorderAll, Element.preorder_eq, List.cons_append, List.filter_cons,
      hnamed]
    split
    · rename_i hsame
      rw [if_pos hsame] at ih
      exact congrArg (optionTree o :: ·) ih
    · rename_i hother
      rw [if_neg hother] at ih
      exact ih

/-- What a body holds is in the namespace of shells. -/
theorem filter_bodyTrees (body : Body) {uri : String} (huri : uri ≠ shellUri) (name : String) :
    (Element.preorderAll body.trees).filter (·.named uri name) = [] := by
  have hshell : ∀ e ∈ Element.preorderAll body.trees, e.uri = some shellUri := by
    cases body <;> simp [Body.trees, Element.preorder, Element.preorderAll]
  refine List.filter_eq_nil_iff.2 fun e he => ?_
  simp [Element.named, hshell e he, huri.symm]

/-- **The elements of a request.**  It has one action, a selector if it names a shell, its options in order,
and one body. -/
theorem filter_requestTree (p : Parameters) (id : String) (action : Action) (shellId : Option String)
    (options : Option Options) (body : Body) :
    let elements := (requestTree p id action shellId options body).preorder
    elements.filter (·.named addressingUri "Action") = [actionTree action] ∧
      elements.filter (·.named managementUri "Selector") = (shellId.map selectorTree).toList ∧
      elements.filter (·.named managementUri "Option") = (options.getD []).map optionTree ∧
      elements.filter (·.named soapUri "Body") = [⟨some soapUri, "Body", [], "", body.trees⟩] := by
  have haction := filter_bodyTrees body (by decide : addressingUri ≠ shellUri) "Action"
  have hselector := filter_bodyTrees body (by decide : managementUri ≠ shellUri) "Selector"
  have hoption := filter_bodyTrees body (by decide : managementUri ≠ shellUri) "Option"
  have hbody := filter_bodyTrees body (by decide : soapUri ≠ shellUri) "Body"
  refine ⟨?_, ?_, ?_, ?_⟩ <;> cases shellId <;> cases options <;>
    simp [requestTree, headerTrees, Element.preorder_eq, Element.preorderAll, named_mk, haction,
      hselector, hoption, hbody, filter_optionTrees, selectorTree, actionTree, -List.filter_eq_nil_iff]

/-- **Request documents are right.**  Whatever the texts in it, the document of a request is parsed as the
tree of the request.  The form of the tree depends only on which optional parts there are, on the number of
options and on the kind of the body.  There is one action with the name of what is asked for, a selector
exactly if a shell is named, one option for each option in order, and one body that holds what belongs into
it. -/
theorem parse_build (p : Parameters) (bits : Nat) (action : Action) (shellId : Option String)
    (options : Option Options) (body : Body) :
    let envelope := Envelope.build p (MessageId.ofBits bits) action shellId options body
    ∃ d, Document.parse envelope.xml = .ok d ∧
      d.root = requestTree p envelope.messageId action shellId options body ∧
      d.root.outline = requestOutline shellId.isSome (options.map List.length) body.blank ∧
      Response.named d addressingUri "Action" =
        [⟨some addressingUri, "Action", mandatory, action.uri, []⟩] ∧
      Response.named d managementUri "Selector" = (shellId.map selectorTree).toList ∧
      Response.named d managementUri "Option" = (options.getD []).map optionTree ∧
      Response.named d soapUri "Body" = [⟨some soapUri, "Body", [], "", body.trees⟩] := by
  intro envelope
  refine ⟨⟨requestTree p envelope.messageId action shellId options body, envelope.xml⟩,
    parse_build_eq p (plain_ofBits bits) action shellId options body, rfl,
    outline_requestTree p _ action shellId options body, ?_⟩
  simp only [Response.named, Document.elements, Element.descendants_eq_preorder]
  exact filter_requestTree p _ action shellId options body

end RemoteShell.Soap
