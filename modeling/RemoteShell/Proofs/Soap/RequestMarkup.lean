import RemoteShell.Proofs.Xml.Reading
import RemoteShell.Soap.Envelope

/-!
# The markup of a request

`Envelope.build` puts a document together from texts.  Here the same document is put together from tags and
what stands between them (`requestMarkup`), and `toList_build` says that both are the same: every text from
outside is escaped where it is written, and nothing else needs to be.

The markup is never more than three elements deep below the root (`depth_requestMarkup`).
-/

namespace RemoteShell.Soap

open Xml (Attribute Head Markup escapeChars isPlain)

/-! ## The markup -/

/-- A tag with its attributes as they are meant. -/
def tag (name : String) (attributes : List (String × String)) : Head :=
  ⟨name.toList, attributes.map fun a => ⟨a.1.toList, a.2.toList⟩⟩

/-- The tag of an element that the receiver has to understand. -/
def mandatoryTag (name : String) : Head := tag name [("s:mustUnderstand", "true")]

/-- The tag of an element that carries the locale. -/
def localeTag (name locale : String) : Head :=
  tag name [("xml:lang", locale), ("s:mustUnderstand", "false")]

/-- The tag of the root, which declares the prefixes. -/
def envelopeTag : Head :=
  tag "s:Envelope" [("xmlns:s", soapUri), ("xmlns:a", addressingUri), ("xmlns:w", managementUri),
    ("xmlns:p", windowsUri), ("xmlns:rsp", shellUri)]

/-- No markup. -/
def nothing : Markup := .done []

/-- An element that holds a text, and more. -/
def leaf (head : Head) (text : String) (rest : Markup) : Markup :=
  .element [] head (.done text.toList) rest

/-- An element that holds other elements, and more. -/
def node (head : Head) (inside rest : Markup) : Markup :=
  .element [] head inside rest

/-- The selector of a shell, if there is one, and more. -/
def selectorMarkup (shellId : Option String) (rest : Markup) : Markup :=
  match shellId with
  | none => rest
  | some s => node (tag "w:SelectorSet" []) (leaf (tag "w:Selector" [("Name", "ShellId")]) s nothing) rest

/-- Some options. -/
def optionMarkup : Options → Markup
  | [] => nothing
  | o :: rest => leaf (tag "w:Option" [("Name", o.1)]) o.2 (optionMarkup rest)

/-- The options of a request, if it has any. -/
def optionsMarkup : Option Options → Markup
  | none => nothing
  | some o => node (tag "w:OptionSet" []) (optionMarkup o) nothing

/-- The fields of the header. -/
def headerMarkup (p : Parameters) (id : String) (action : Action) (shellId : Option String)
    (options : Option Options) : Markup :=
  leaf (tag "a:To" []) p.endpoint <|
  node (tag "a:ReplyTo" []) (leaf (mandatoryTag "a:Address") anonymousAddress nothing) <|
  leaf (mandatoryTag "w:MaxEnvelopeSize") (toString p.maxEnvelopeSize) <|
  leaf (tag "a:MessageID" []) id <|
  .empty [] (localeTag "w:Locale" p.locale) <|
  .empty [] (localeTag "p:DataLocale" p.locale) <|
  leaf (tag "w:OperationTimeout" []) p.operationTimeout <|
  leaf (mandatoryTag "a:Action") action.uri <|
  selectorMarkup shellId <|
  leaf (mandatoryTag "w:ResourceURI") shellResource <|
  optionsMarkup options

/-- The body. -/
def Body.markup : Body → Markup
  | shell input output =>
    node (tag "s:Body" []) (node (tag "rsp:Shell" [])
      (leaf (tag "rsp:InputStreams" []) input (leaf (tag "rsp:OutputStreams" []) output nothing))
      nothing) nothing
  | commandLine text =>
    node (tag "s:Body" []) (node (tag "rsp:CommandLine" [])
      (leaf (tag "rsp:Command" []) text nothing) nothing) nothing
  | receive commandId =>
    node (tag "s:Body" []) (node (tag "rsp:Receive" [])
      (leaf (tag "rsp:DesiredStream" [("CommandId", commandId)]) "stdout stderr" nothing) nothing)
      nothing
  | signal commandId =>
    node (tag "s:Body" []) (node (tag "rsp:Signal" [("CommandId", commandId)])
      (leaf (tag "rsp:Code" []) terminateSignal nothing) nothing) nothing
  | empty => .empty [] (tag "s:Body" []) nothing

/-- What stands in the root of a request. -/
def requestMarkup (p : Parameters) (id : String) (action : Action) (shellId : Option String)
    (options : Option Options) (body : Body) : Markup :=
  node (tag "s:Header" []) (headerMarkup p id action shellId options) body.markup

/-! ## The document is the markup -/

theorem render_nothing : nothing.render = [] := rfl

section Render

variable (name text : String) (inside rest : Markup)

theorem render_leaf : (leaf (tag name []) text rest).render =
    (enclose name (Xml.escape text)).toList ++ rest.render := by
  simp [leaf, tag, Markup.render, Head.render, Head.tag, enclose, Xml.toList_escape,
    Xml.escapeChars]

theorem render_mandatory : (leaf (mandatoryTag name) text rest).render =
    (encloseMandatory name (Xml.escape text)).toList ++ rest.render := by
  have htrue : escapeChars "true".toList = "true".toList := by decide
  simp only [leaf, mandatoryTag, tag, Markup.render, Head.render, Head.tag, Attribute.render,
    List.map_cons, List.map_nil, List.flatMap_cons, List.flatMap_nil, htrue]
  simp [encloseMandatory, Xml.toList_escape, Xml.escapeChars]

theorem render_locale (locale : String) : (Markup.empty [] (localeTag name locale) rest).render =
    (localeElement name locale).toList ++ rest.render := by
  have hfalse : escapeChars "false".toList = "false".toList := by decide
  simp only [localeTag, tag, Markup.render, Head.render, Head.tag, Attribute.render, List.map_cons,
    List.map_nil, List.flatMap_cons, List.flatMap_nil, hfalse]
  simp [localeElement, Xml.toList_escape, Xml.escapeChars]

theorem render_node : (node (tag name []) inside rest).render =
    (enclose name (String.ofList inside.render)).toList ++ rest.render := by
  simp [node, tag, Markup.render, Head.render, Head.tag, enclose, Xml.escapeChars]

theorem render_option (value : String) :
    (leaf (tag "w:Option" [("Name", name)]) value rest).render =
      (optionElement name value).toList ++ rest.render := by
  unfold optionElement
  simp [leaf, tag, Markup.render, Head.render, Head.tag, Attribute.render, Xml.toList_escape,
    Xml.escapeChars]

theorem render_selector (shellId : String) :
    (leaf (tag "w:Selector" [("Name", "ShellId")]) shellId nothing).render =
      ("<w:Selector Name=\"ShellId\">" ++ Xml.escape shellId ++ "</w:Selector>").toList := by
  have hname : escapeChars "ShellId".toList = "ShellId".toList := by decide
  simp only [leaf, tag, nothing, Markup.render, Head.render, Head.tag, Attribute.render, List.map_cons,
    List.map_nil, List.flatMap_cons, List.flatMap_nil, hname]
  simp [Xml.toList_escape, Xml.escapeChars]

end Render

theorem render_desiredStream (commandId : String) :
    (leaf (tag "rsp:DesiredStream" [("CommandId", commandId)]) "stdout stderr" nothing).render =
      ("<rsp:DesiredStream CommandId=\"" ++ Xml.escape commandId ++
        "\">stdout stderr</rsp:DesiredStream>").toList := by
  have htext : escapeChars "stdout stderr".toList = "stdout stderr".toList := by decide
  simp only [leaf, tag, nothing, Markup.render, Head.render, Head.tag, Attribute.render, List.map_cons,
    List.map_nil, List.flatMap_cons, List.flatMap_nil, htext]
  simp [Xml.toList_escape, Xml.escapeChars]

theorem render_signal (commandId : String) (inside : Markup) :
    (node (tag "rsp:Signal" [("CommandId", commandId)]) inside nothing).render =
      ("<rsp:Signal CommandId=\"" ++ Xml.escape commandId ++ "\">" ++ String.ofList inside.render ++
        "</rsp:Signal>").toList := by
  simp [node, tag, nothing, Markup.render, Head.render, Head.tag, Attribute.render, Xml.toList_escape,
    Xml.escapeChars]

theorem render_selectorMarkup (shellId : Option String) (rest : Markup) :
    (selectorMarkup shellId rest).render =
      ((shellId.map selectorElement).getD "").toList ++ rest.render := by
  cases shellId with
  | none => rfl
  | some s =>
    simp only [selectorMarkup, render_node, render_selector, String.ofList_toList, selectorElement,
      Option.map_some, Option.getD_some]

theorem render_optionMarkup (options : Options) :
    (optionMarkup options).render = (String.join (options.map fun o => optionElement o.1 o.2)).toList := by
  induction options with
  | nil => rfl
  | cons o options ih =>
    rw [optionMarkup, render_option, ih, List.map_cons, String.join_cons, String.toList_append]

theorem render_optionsMarkup (options : Option Options) :
    (optionsMarkup options).render = ((options.map optionsElement).getD "").toList := by
  cases options with
  | none => rfl
  | some o =>
    simp only [optionsMarkup, render_node, render_optionMarkup, String.ofList_toList, render_nothing,
      List.append_nil, optionsElement, Option.map_some, Option.getD_some]

theorem plain_anonymousAddress : isPlain anonymousAddress.toList = true := by
  decide +kernel

theorem plain_shellResource : isPlain shellResource.toList = true := by
  decide +kernel

theorem plain_terminateSignal : isPlain terminateSignal.toList = true := by
  decide +kernel

theorem plain_uri (action : Action) : isPlain action.uri.toList = true := by
  cases action <;> decide +kernel

/-- The namespaces of a request are plain, not empty, and not reserved. -/
theorem namespaces_plain : ∀ uri ∈ [soapUri, addressingUri, managementUri, windowsUri, shellUri],
    escapeChars uri.toList = uri.toList ∧ uri.toList.isEmpty = false ∧
      uri.toList ≠ Xml.xmlUri.toList ∧ uri.toList ≠ Xml.xmlnsUri.toList := by
  decide +kernel

theorem plain_toString (n : Nat) : isPlain (toString n).toList = true := by
  rw [Nat.toString_eq_repr, Nat.toList_repr]
  exact Xml.isPlain_of_isDigit fun c hc => Nat.isDigit_of_mem_toDigits (by decide) (by decide) hc

/-- **The header is written as its markup.** -/
theorem render_headerMarkup (p : Parameters) {id : String} (hid : isPlain id.toList = true) (action : Action)
    (shellId : Option String) (options : Option Options) :
    (headerMarkup p id action shellId options).render =
      (Envelope.header p id action shellId options).toList := by
  simp only [headerMarkup, render_leaf, render_mandatory, render_locale, render_node,
    render_selectorMarkup, render_optionsMarkup, render_nothing, List.append_nil, String.ofList_toList,
    Xml.escape_of_isPlain plain_anonymousAddress, Xml.escape_of_isPlain plain_shellResource,
    Xml.escape_of_isPlain (plain_toString p.maxEnvelopeSize),
    Xml.escape_of_isPlain hid, Xml.escape_of_isPlain (plain_uri action), Envelope.header, String.toList_append,
    List.append_assoc]

/-- **The body is written as its markup.** -/
theorem render_bodyMarkup (body : Body) : body.markup.render = body.render.toList := by
  cases body with
  | shell input output =>
    simp only [Body.markup, Body.render, render_node, render_leaf, render_nothing, List.append_nil,
      String.ofList_toList, ← String.toList_append]
  | commandLine text =>
    simp only [Body.markup, Body.render, render_node, render_leaf, render_nothing, List.append_nil,
      String.ofList_toList]
  | receive commandId =>
    simp only [Body.markup, Body.render, render_node, render_desiredStream, render_nothing,
      List.append_nil, String.ofList_toList]
  | signal commandId =>
    simp only [Body.markup, Body.render, render_node, render_signal, render_leaf, render_nothing,
      Xml.escape_of_isPlain plain_terminateSignal, List.append_nil, String.ofList_toList]
  | empty =>
    simp [Body.markup, Body.render, tag, nothing, Markup.render, Head.render, Head.tag, escapeChars]

/-- **The document is written as its markup.** -/
theorem toList_build (p : Parameters) {id : String} (hid : isPlain id.toList = true) (action : Action)
    (shellId : Option String) (options : Option Options) (body : Body) :
    (Envelope.build p id action shellId options body).xml.toList =
      Xml.document declaration.toList envelopeTag (requestMarkup p id action shellId options body) := by
  have hinside : (requestMarkup p id action shellId options body).render =
      (enclose "s:Header" (Envelope.header p id action shellId options) ++ body.render).toList := by
    rw [requestMarkup, render_node, render_headerMarkup p hid, render_bodyMarkup, String.ofList_toList,
      String.toList_append]
  have htag : '<' :: (envelopeTag.render ++ ['>']) = ("<s:Envelope xmlns:s=\"" ++ soapUri ++
      "\" xmlns:a=\"" ++ addressingUri ++ "\" xmlns:w=\"" ++ managementUri ++ "\" xmlns:p=\"" ++
      windowsUri ++ "\" xmlns:rsp=\"" ++ shellUri ++ "\">").toList := by
    have huris := namespaces_plain
    simp only [List.mem_cons, List.not_mem_nil, or_false, forall_eq_or_imp, forall_eq] at huris
    obtain ⟨⟨hs, -⟩, ⟨ha, -⟩, ⟨hw, -⟩, ⟨hp, -⟩, hrsp, -⟩ := huris
    simp only [envelopeTag, tag, Head.render, Head.tag, Attribute.render, List.map_cons, List.map_nil,
      List.flatMap_cons, List.flatMap_nil, hs, ha, hw, hp, hrsp, String.toList_append]
    simp
  have hend : '<' :: '/' :: (envelopeTag.name ++ ['>']) = "</s:Envelope>".toList := by
    simp [envelopeTag, tag]
  have hroot : ∀ cs, '<' :: (envelopeTag.render ++ '>' :: cs) =
      '<' :: (envelopeTag.render ++ ['>']) ++ cs := by simp
  rw [Xml.document, hinside, hend, hroot, htag]
  simp only [Envelope.build, String.toList_append, List.append_assoc]

/-! ## Depth -/

theorem depth_optionMarkup (options : Options) : (optionMarkup options).depth ≤ 1 := by
  induction options with
  | nil => exact Nat.zero_le 1
  | cons o options ih => exact Nat.max_le.2 ⟨Nat.le_refl 1, ih⟩

theorem depth_requestMarkup (p : Parameters) (id : String) (action : Action) (shellId : Option String)
    (options : Option Options) (body : Body) :
    (requestMarkup p id action shellId options body).depth ≤ 3 := by
  have hoptions : (optionsMarkup options).depth ≤ 2 := by
    cases options with
    | none => exact Nat.zero_le 2
    | some o => exact Nat.max_le.2 ⟨Nat.succ_le_succ (depth_optionMarkup o), Nat.zero_le 2⟩
  have hselector : ∀ rest, (selectorMarkup shellId rest).depth ≤ max 2 rest.depth := by
    intro rest
    cases shellId with
    | none => exact Nat.le_max_right 2 rest.depth
    | some s => exact Nat.le_refl _
  have hbody : body.markup.depth ≤ 3 := by
    cases body <;> simp [Body.markup, Markup.depth, node, leaf, nothing]
  have hheader : (headerMarkup p id action shellId options).depth ≤ 2 := by
    have hrest := hselector (leaf (mandatoryTag "w:ResourceURI") shellResource (optionsMarkup options))
    simp only [headerMarkup, leaf, node, nothing, Markup.depth] at hrest ⊢
    omega
  rw [requestMarkup, node, Markup.depth]
  omega

end RemoteShell.Soap
