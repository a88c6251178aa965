import RemoteShell.Proofs.Xml.Nesting
import RemoteShell.Proofs.Xml.Segments

/-!
# The structure of a parsed text

Which texts are parsed, and what into, is said by their tokens alone.  A text is parsed exactly if no fault ends
reading, every element of it is sound, every opened element is closed, and one element has none around it
(`IsDocument`).  The tree has one element for each opening or empty tag, in the order of the tags, and says of each
what its site says: the element around it, its name, its attributes and the texts directly inside it
(`Document.Mirrors`).
-/

namespace RemoteShell.Xml

/-- The tokens of a text. -/
def tokensOf (source : String) : List Token :=
  (tokens source).1.map Prod.snd

/-- Some tokens make a document. -/
structure IsDocument (ts : List Token) : Prop where
  sound : ∀ s ∈ sites ts, s.Sound
  /-- Every opened element is closed. -/
  closed : levelBehind 0 ts = 0
  /-- There is exactly one root. -/
  root : (sites ts).countP (·.around.isEmpty) = 1

namespace Document

/-- A document says of its elements what the tokens of its source say. -/
structure Mirrors (d : Document) : Prop where
  /-- The source is cut into the tokens. -/
  cut : Cut (bodyOf d.source) (tokensOf d.source)
  /-- There is one element for each opening or empty tag. -/
  size : d.elements.length = ((tokensOf d.source).filterMap Token.tag?).length
  /-- The walk visits the elements in the order in which they are numbered. -/
  order : d.elements = (d.root.numbered none 0).map Prod.snd
  /-- The elements are those of the sites, in the order of their tags. -/
  entries : (d.root.numbered none 0).map Entry.of = (sites (tokensOf d.source)).map Site.entry

end Document

theorem isDocument_iff {ts : List Token} : IsDocument ts ↔ Partial.empty.Accepts [] ts := by
  have hroots : Partial.empty.roots + (sites ts).countP (·.around.isEmpty) =
      (sites ts).countP (·.around.isEmpty) := Nat.zero_add _
  constructor
  · exact fun h => ⟨h.sound, nofun, h.closed, hroots.trans h.root⟩
  · exact fun h => ⟨h.sound, h.closed, hroots.symm.trans h.root⟩

/-- Building does not depend on where the tokens stand. -/
theorem Partial.run_eq_ok_iff {p q : Partial} {placed : List Placed} :
    p.run placed = .ok q ↔ p.buildAll (placed.map Prod.snd) = .ok q := by
  refine ⟨fun h => ?_, run_eq_of_buildAll⟩
  induction placed generalizing p with
  | nil => exact congrArg Except.ok (Except.ok.inj h)
  | cons t placed ih =>
    rw [run] at h
    cases hstep : p.step t.2 with
    | error f =>
      rw [hstep] at h
      cases h
    | ok next =>
      rw [hstep] at h
      rw [List.map_cons, buildAll_cons hstep]
      exact ih h

/-- A text is parsed if its tokens are built into a whole document and no fault ends them. -/
theorem parse_eq_ok_iff {source : String} {d : Document} : Document.parse source = .ok d ↔
    (tokens source).2 = none ∧ d.source = source ∧
      Partial.empty.buildAll (tokensOf source) = .ok ⟨[], some d.root⟩ := by
  rw [tokensOf, ← Partial.run_eq_ok_iff, Document.parse]
  generalize tokens source = read
  obtain ⟨placed, fault⟩ := read
  obtain ⟨root, text⟩ := d
  simp only
  cases Partial.empty.run placed with
  | error e => simp [bind, Except.bind]
  | ok q =>
    obtain ⟨stack, found⟩ := q
    cases fault <;> cases stack <;> cases found <;>
      simp [bind, Except.bind, pure, Except.pure, throw, throwThe, MonadExceptOf.throw, and_comm, eq_comm]

/-- **Parsing keeps exactly the structure of a text.** -/
theorem parse_mirrors (source : String) :
    ((∃ d, Document.parse source = .ok d) ↔ (tokens source).2 = none ∧ IsDocument (tokensOf source)) ∧
      (¬ ((tokens source).2 = none ∧ IsDocument (tokensOf source)) → ∃ e, Document.parse source = .error e) ∧
      ∀ d, Document.parse source = .ok d → d.source = source ∧ d.Mirrors := by
  have hinside : Partial.empty.IsInside [] := .nil
  have hclosable : Closable Partial.empty.stack.length (tokensOf source) := closable_tokens source
  have hok : (∃ d, Document.parse source = .ok d) ↔
      (tokens source).2 = none ∧ IsDocument (tokensOf source) := by
    rw [isDocument_iff, ← Partial.exists_buildAll_iff hinside hclosable]
    constructor
    · rintro ⟨d, hd⟩
      obtain ⟨hfault, -, hbuild⟩ := parse_eq_ok_iff.1 hd
      exact ⟨hfault, _, hbuild, rfl, rfl⟩
    · rintro ⟨hfault, ⟨stack, root⟩, hbuild, rfl, hroot⟩
      obtain ⟨root, rfl⟩ := Option.isSome_iff_exists.1 hroot
      exact ⟨⟨root, source⟩, parse_eq_ok_iff.2 ⟨hfault, rfl, hbuild⟩⟩
  refine ⟨hok, fun hnot => ?_, fun d hd => ?_⟩
  · cases hparse : Document.parse source with
    | ok d => exact absurd (hok.1 ⟨d, hparse⟩) hnot
    | error e => exact ⟨e, rfl⟩
  · obtain ⟨hfault, hsource, hbuild⟩ := parse_eq_ok_iff.1 hd
    have horder : d.elements = (d.root.numbered none 0).map Prod.snd := by
      rw [Document.elements, Element.descendants_eq_preorder, Element.map_numbered]
    have hentries : (d.root.numbered none 0).map Entry.of = (sites (tokensOf source)).map Site.entry :=
      Partial.entries_buildAll hinside hbuild rfl
    have hsize := congrArg List.length hentries
    rw [List.length_map, List.length_map, ← List.length_map (f := Site.tag), sites, map_tag_sitesFrom] at hsize
    rw [← hsource] at hfault hentries hsize
    exact ⟨hsource, cut_tokens hfault, by rw [horder, List.length_map, hsize], horder, hentries⟩

/-- An element with two texts around an element, and an element that is not closed. -/
theorem parse_mirrors_nested :
    (∃ d, Document.parse "<a n='1'> x <b/><![CDATA[ y ]]></a>" = .ok d ∧ d.Mirrors) ∧
      ∃ e, Document.parse "<a>" = .error e := by
  have hok : Document.parse "<a n='1'> x <b/><![CDATA[ y ]]></a>" =
      .ok ⟨⟨none, "a", [("n", "1")], "x y ", [⟨none, "b", [], "", []⟩]⟩, "<a n='1'> x <b/><![CDATA[ y ]]></a>"⟩ := by
    rfl
  obtain ⟨-, -, hmirrors⟩ := parse_mirrors "<a n='1'> x <b/><![CDATA[ y ]]></a>"
  obtain ⟨-, herror, -⟩ := parse_mirrors "<a>"
  refine ⟨⟨_, hok, (hmirrors _ hok).2⟩, herror ?_⟩
  rintro ⟨-, hdocument⟩
  have hclosed := hdocument.closed
  exact absurd hclosed (by decide)

end RemoteShell.Xml
