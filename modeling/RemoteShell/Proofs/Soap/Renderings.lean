import RemoteShell.Proofs.Xml.Decoding
import RemoteShell.Soap.Response

/-!
# What a server's choice of prefixes changes

A response is read through its elements: which fields they carry depends on namespaces, local names and attributes,
not on prefixes.  Every rendering of a tree is parsed as that tree, so two renderings of it say the same
(`parse_renderings`), except that an error about a missing field quotes the text of the response.
-/

namespace RemoteShell.Soap.Response

open Xml (Document Element IsRendering maxDepth)

/-- Nothing that is read out of two documents tells them apart, except for the text that is quoted when a field is
missing. -/
structure Alike (d d' : Document) : Prop where
  carriers : ∀ f, carriers d f = carriers d' f
  named : ∀ uri name, named d uri name = named d' uri name
  first? : ∀ f, first? d f = first? d' f
  contains : ∀ f, contains d f = contains d' f
  required : ∀ f, (∃ text, required d f = .ok text ∧ required d' f = .ok text) ∨
    required d f = .error (.fieldMissing f d.source) ∧ required d' f = .error (.fieldMissing f d'.source)
  exitCode? : exitCode? d = exitCode? d'
  stream : ∀ f, stream d f = stream d' f
  faultReason? : faultReason? d = faultReason? d'

/-- Documents with the same root are alike, whatever their texts are. -/
theorem alike_of_root (root : Element) (source source' : String) : Alike ⟨root, source⟩ ⟨root, source'⟩ where
  carriers _ := rfl
  named _ _ := rfl
  first? _ := rfl
  contains _ := rfl
  required f := by
    have hfirst : Response.first? ⟨root, source⟩ f = Response.first? ⟨root, source'⟩ f := rfl
    rw [Response.required, Response.required, hfirst]
    cases (Response.first? ⟨root, source'⟩ f).filter (· ≠ "") with
    | none => exact .inr ⟨rfl, rfl⟩
    | some text => exact .inl ⟨text, rfl, rfl⟩
  exitCode? := rfl
  stream _ := rfl
  faultReason? := rfl

/-- **Prefixes do not matter.**  Every rendering of a tree is parsed as the tree, and any two of its renderings are
alike to whoever reads them. -/
theorem parse_renderings {root : Element} (hroot : ∀ x ∈ root.preorder, x.IsRenderable)
    (hdepth : root.height ≤ maxDepth) :
    (∀ cs, IsRendering cs root → Document.parse (String.ofList cs) = .ok ⟨root, String.ofList cs⟩) ∧
      ∀ cs cs', IsRendering cs root → IsRendering cs' root → ∃ d d',
        Document.parse (String.ofList cs) = .ok d ∧ Document.parse (String.ofList cs') = .ok d' ∧ Alike d d' := by
  have hparse : ∀ cs, IsRendering cs root → Document.parse (String.ofList cs) = .ok ⟨root, String.ofList cs⟩ :=
    fun _ hcs => hcs.parse_eq hroot hdepth
  exact ⟨hparse, fun cs cs' hcs hcs' => ⟨_, _, hparse cs hcs, hparse cs' hcs', alike_of_root root _ _⟩⟩

/-! ### Two renderings of one tree -/

section

open Xml (Head Item Layout Prefixes Usable Renders IsGap)

/-- A fault with a text that has to be escaped. -/
def refusal : Element :=
  ⟨some "urn:e", "Fault", [], "", [⟨some "urn:t", "Text", [("lang", "\"en\"")], "a < b", []⟩]⟩

/-- The prefix `p` is declared in both tags. -/
def shadowed : String :=
  "<p:Fault xmlns:p=\"urn:e\"><p:Text xmlns:p=\"urn:t\" lang=\"&quot;en&quot;\">a &lt; b</p:Text></p:Fault>"

/-- The outer element has no prefix, and the inner one has a prefix that the outer one declares. -/
def declaredAbove : String :=
  "<Fault xmlns=\"urn:e\" xmlns:q=\"urn:t\"><q:Text lang=\"&quot;en&quot;\">a &lt; b</q:Text></Fault>"

theorem isRenderable_of_mem_refusal : ∀ x ∈ refusal.preorder, x.IsRenderable := by
  have hplain : ∀ {uri : List Char}, Xml.isPlain uri = true → ∀ c ∈ uri, c ∉ Xml.special :=
    fun h c hc => (Xml.isPlain_iff.1 h c hc).2
  have hroot : refusal.IsRenderable :=
    ⟨⟨"urn:e".toList, rfl, by decide, hplain (by decide), by decide, by decide⟩, by decide, by decide, by decide,
      by decide⟩
  have hchild : ∀ x ∈ refusal.children, x.IsRenderable := by
    intro x hx
    obtain rfl := List.mem_singleton.1 hx
    exact ⟨⟨"urn:t".toList, rfl, by decide, hplain (by decide), by decide, by decide⟩, by decide, by decide, by decide,
      by decide⟩
  exact List.forall_mem_cons.2 ⟨hroot, hchild⟩

theorem isGap_nil : IsGap [] [] := ⟨⟨[], [], nofun, nofun, rfl⟩, rfl⟩

theorem isGap_refusal : IsGap "a &lt; b".toList "a < b".toList := ⟨⟨[], [], nofun, nofun, by decide⟩, by decide⟩

theorem isRendering_shadowed : IsRendering shadowed.toList refusal := by
  have husable : Usable (some "p".toList) := Xml.usable_some (by decide)
  have houter : Layout.Opens [] (Head.layout ⟨"p:Fault".toList, [⟨"xmlns:p".toList, "urn:e".toList⟩]⟩)
      (some "p".toList) [.declaration (some "p".toList) "urn:e".toList] refusal
      [(some "p".toList, "urn:e".toList)] :=
    Head.opens_layout (by decide) (by decide) husable rfl (by simpa [Item.IsProper] using ⟨husable, by decide⟩)
      rfl rfl ⟨_, rfl, rfl⟩
  have hinner : Layout.Opens [(some "p".toList, "urn:e".toList)]
      (Head.layout ⟨"p:Text".toList,
        [⟨"xmlns:p".toList, "urn:t".toList⟩, ⟨"lang".toList, "\"en\"".toList⟩]⟩)
      (some "p".toList) [.declaration (some "p".toList) "urn:t".toList, .plain none "lang" "\"en\""]
      ⟨some "urn:t", "Text", [("lang", "\"en\"")], "a < b", []⟩
      [(some "p".toList, "urn:t".toList), (some "p".toList, "urn:e".toList)] :=
    Head.opens_layout (by decide) (by decide) husable rfl (by simpa [Item.IsProper] using ⟨husable, by decide⟩)
      rfl rfl ⟨_, rfl, rfl⟩
  have htrail : ∀ c ∈ ([] : List Char), Xml.isSpace c = true := nofun
  have hchild := Renders.element isGap_nil hinner (.done isGap_refusal) htrail (.done isGap_nil)
  exact Renders.element isGap_nil houter hchild htrail (.done isGap_nil)

theorem isRendering_declaredAbove : IsRendering declaredAbove.toList refusal := by
  have husable : Usable (some "q".toList) := Xml.usable_some (by decide)
  have houter : Layout.Opens [] (Head.layout ⟨"Fault".toList,
        [⟨"xmlns".toList, "urn:e".toList⟩, ⟨"xmlns:q".toList, "urn:t".toList⟩]⟩)
      none [.declaration none "urn:e".toList, .declaration (some "q".toList) "urn:t".toList] refusal
      [(some "q".toList, "urn:t".toList), (none, "urn:e".toList)] :=
    Head.opens_layout (by decide) (by decide) Xml.usable_none rfl
      (by simpa [Item.IsProper] using ⟨⟨Xml.usable_none, by decide⟩, husable, by decide⟩) rfl rfl ⟨_, rfl, rfl⟩
  have hinner : Layout.Opens [(some "q".toList, "urn:t".toList), (none, "urn:e".toList)]
      (Head.layout ⟨"q:Text".toList, [⟨"lang".toList, "\"en\"".toList⟩]⟩)
      (some "q".toList) [.plain none "lang" "\"en\""]
      ⟨some "urn:t", "Text", [("lang", "\"en\"")], "a < b", []⟩
      [(some "q".toList, "urn:t".toList), (none, "urn:e".toList)] :=
    Head.opens_layout (by decide) (by decide) husable rfl (by simp [Item.IsProper]) rfl rfl ⟨_, rfl, rfl⟩
  have htrail : ∀ c ∈ ([] : List Char), Xml.isSpace c = true := nofun
  have hchild := Renders.element isGap_nil hinner (.done isGap_refusal) htrail (.done isGap_nil)
  exact Renders.element isGap_nil houter hchild htrail (.done isGap_nil)

/-- A prefix that is declared again, and one that is declared further out. -/
theorem parse_renderings_shadowed :
    Document.parse shadowed = .ok ⟨refusal, shadowed⟩ ∧
      ∃ d d', Document.parse shadowed = .ok d ∧ Document.parse declaredAbove = .ok d' ∧ Alike d d' := by
  obtain ⟨hparse, halike⟩ := parse_renderings isRenderable_of_mem_refusal (by decide)
  have hfirst := hparse _ isRendering_shadowed
  have hboth := halike _ _ isRendering_shadowed isRendering_declaredAbove
  simp only [String.ofList_toList] at hfirst hboth
  exact ⟨hfirst, hboth⟩

end

end RemoteShell.Soap.Response
