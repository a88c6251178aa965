import RemoteShell.Proofs.Xml.Places
import RemoteShell.Soap.Response

/-!
# Queries in document order

A query for a field goes through the elements of a response in document order, that is, in the order of
`Element.preorder`.  Its answer is the text of the first element that carries the field (`first?_eq_some_iff`); a
required field fails if there is none or its text is blank (`required_eq_ok_iff`, `required_eq_error_iff`).
-/

namespace RemoteShell.Soap.Response

open Xml (Document Element)

/-- How the queries for a field are answered. -/
structure Answered (d : Document) (f : Field) : Prop where
  /-- The carriers are the elements, in document order, that satisfy the query. -/
  members : carriers d f = d.root.preorder.filter f.carriedBy
  /-- The text of the field is that of the earliest carrier. -/
  earliest : first? d f = (carriers d f).head?.map fun e => Text.trim e.text
  /-- The required text is that of the earliest carrier. -/
  found : ∀ text, required d f = .ok text ↔
    ∃ e, (carriers d f).head? = some e ∧ Text.trim e.text = text ∧ text ≠ ""
  /-- Only the failure that names the field is possible, if nothing carries it or the earliest carrier is blank. -/
  missing : ∀ failure, required d f = .error failure ↔ failure = .fieldMissing f d.source ∧
    (carriers d f = [] ∨ ∃ e, (carriers d f).head? = some e ∧ Text.trim e.text = "")
  /-- The field occurs if something carries it. -/
  occurs : contains d f = true ↔ carriers d f ≠ []

variable {d : Document} {f : Field} {text : String}

theorem elements_eq_preorder (d : Document) : d.elements = d.root.preorder :=
  Element.descendants_eq_preorder d.root

theorem first?_eq_head? : first? d f = (carriers d f).head?.map fun e => Text.trim e.text := by
  rw [first?, carriers, List.head?_filter]

/-- The text of a field is that of the first element that carries it. -/
theorem first?_eq_some_iff : first? d f = some text ↔
    ∃ before e after, d.root.preorder = before ++ e :: after ∧ f.carriedBy e = true ∧
      (∀ x ∈ before, f.carriedBy x = false) ∧ Text.trim e.text = text := by
  rw [first?, elements_eq_preorder, Option.map_eq_some_iff]
  constructor
  · rintro ⟨e, he, rfl⟩
    obtain ⟨hcarries, before, after, hsplit, hbefore⟩ := List.find?_eq_some_iff_append.1 he
    exact ⟨before, e, after, hsplit, hcarries, fun x hx => by simpa using hbefore x hx, rfl⟩
  · rintro ⟨before, e, after, hsplit, hcarries, hbefore, rfl⟩
    refine ⟨e, List.find?_eq_some_iff_append.2 ⟨hcarries, before, after, hsplit, fun x hx => ?_⟩, rfl⟩
    simpa using hbefore x hx

theorem first?_eq_none_iff : first? d f = none ↔ ∀ x ∈ d.root.preorder, f.carriedBy x = false := by
  rw [first?, elements_eq_preorder, Option.map_eq_none_iff, List.find?_eq_none]
  simp only [Bool.not_eq_true]

/-! ## Texts that must not be blank -/

theorem filter_first?_eq_some_iff :
    (first? d f).filter (· ≠ "") = some text ↔ first? d f = some text ∧ text ≠ "" := by
  rw [Option.filter_eq_some_iff, decide_eq_true_eq]

theorem filter_first?_eq_none_iff :
    (first? d f).filter (· ≠ "") = none ↔ first? d f = none ∨ first? d f = some "" := by
  cases h : first? d f with
  | none => simp
  | some text => simp

/-- A required text is that of the field, if it is not empty. -/
theorem required_eq_ok_iff : required d f = .ok text ↔ first? d f = some text ∧ text ≠ "" := by
  rw [← filter_first?_eq_some_iff, required]
  split
  · rename_i found hfound
    rw [hfound, Except.ok.injEq, Option.some.injEq]
  · rename_i hnone
    rw [hnone]
    exact ⟨nofun, nofun⟩

/-- A required text is missing if the field has none, or an empty one. -/
theorem required_eq_error_iff {failure : Failure} : required d f = .error failure ↔
    failure = .fieldMissing f d.source ∧ (first? d f = none ∨ first? d f = some "") := by
  rw [← filter_first?_eq_none_iff, required]
  split
  · rename_i found hfound
    rw [hfound]
    exact ⟨nofun, nofun⟩
  · rename_i hnone
    rw [Except.error.injEq, eq_comm]
    exact (and_iff_left hnone).symm

/-! ## Answers -/

/-- **Walks and queries.**  A walk through an element ends.  It yields the element and then what is below each child,
from the first child to the last, so the element of every place once and in the order of the places.  The queries of
a response are answered in this order. -/
theorem answered_inOrder :
    (∀ e : Element, e.preorder = e :: e.children.flatMap Element.preorder ∧
      (∀ es, e.walk.Yields es ↔ es = e.preorder) ∧ e.InPlaces e.preorder) ∧
    ∀ (d : Document) (f : Field), Answered d f := by
  refine ⟨fun e => ⟨e.preorder_eq_flatMap, fun es => Element.yields_walk_iff, e.inPlaces_preorder⟩, fun d f => ?_⟩
  have hhead {t : String} : first? d f = some t ↔ ∃ e, (carriers d f).head? = some e ∧ Text.trim e.text = t := by
    rw [first?_eq_head?, Option.map_eq_some_iff]
  have hnil : first? d f = none ↔ carriers d f = [] := by
    rw [first?_eq_head?, Option.map_eq_none_iff, List.head?_eq_none_iff]
  constructor
  · rw [carriers, elements_eq_preorder]
  · exact first?_eq_head?
  · intro text
    rw [required_eq_ok_iff, hhead, ← exists_and_right]
    simp only [and_assoc]
  · intro failure
    rw [required_eq_error_iff, hnil, hhead]
  · rw [contains, carriers, List.any_eq_true, Ne, List.filter_eq_nil_iff]
    simp

end RemoteShell.Soap.Response
