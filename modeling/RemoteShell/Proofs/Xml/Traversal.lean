import RemoteShell.Xml.Document

/-!
# Walking through element trees

A walk visits the trees on its stack one after the other, each in document order (`Walk.Yields.eq_preorderAll`), and
it ends (`Walk.yields_elements`).  So the elements of a document are those of its tree.

The *outline* of an element is what is left of it without texts and attribute values.
-/

namespace RemoteShell.Xml

namespace Element

theorem preorder_eq (e : Element) : preorder e = e :: preorderAll e.children := by
  cases e
  rw [preorder]

theorem preorderAll_eq_flatMap (es : List Element) : preorderAll es = es.flatMap preorder := by
  induction es with
  | nil => rfl
  | cons e es ih => rw [preorderAll, ih, List.flatMap_cons]

theorem preorderAll_append (xs ys : List Element) :
    preorderAll (xs ++ ys) = preorderAll xs ++ preorderAll ys := by
  rw [preorderAll_eq_flatMap, preorderAll_eq_flatMap, preorderAll_eq_flatMap, List.flatMap_append]

/-- Document order by recursion: the element, then what is below each child. -/
theorem preorder_eq_flatMap (e : Element) : e.preorder = e :: e.children.flatMap preorder := by
  rw [preorder_eq, preorderAll_eq_flatMap]

/-- Something holds of all elements of some trees if it holds of the first root, of what is below it, and of the other
trees. -/
theorem forall_preorderAll_cons {e : Element} {es : List Element} {P : Element → Prop} :
    (∀ x ∈ preorderAll (e :: es), P x) ↔
      P e ∧ (∀ x ∈ preorderAll e.children, P x) ∧ ∀ x ∈ preorderAll es, P x := by
  rw [preorderAll, List.forall_mem_append, preorder_eq, List.forall_mem_cons, and_assoc]

end Element

namespace Walk

/-! ## What a walk visits -/

/-- The calls of `next?` on a walk give some elements, one after the other, and then none. -/
inductive Yields : Walk → List Element → Prop
  | nil {w : Walk} (ends : w.next? = none) : Yields w []
  | cons {w w' : Walk} {e : Element} {es : List Element} (visits : w.next? = some (e, w')) (rest : Yields w' es) :
      Yields w (e :: es)

/-- A walk ends, and yields its elements. -/
theorem yields_elements (w : Walk) : Yields w w.elements := by
  -- the induction is on the elements that are left, as in the walk itself
  induction w using elements.induct with
  | case1 w hends =>
    rw [elements]
    split
    · exact .nil hends
    · rename_i hnext
      cases hends.symm.trans hnext
  | case2 w e w' hnext ih =>
    rw [elements]
    split
    · rename_i hends
      cases hends.symm.trans hnext
    · rename_i hnext'
      obtain ⟨rfl, rfl⟩ := Prod.mk.inj (Option.some.inj (hnext.symm.trans hnext'))
      exact .cons hnext ih

/-- **A walk visits the trees on its stack in document order.** -/
theorem Yields.eq_preorderAll {w : Walk} {es : List Element} (h : Yields w es) :
    es = Element.preorderAll w.trees := by
  induction h with
  | nil ends => rw [next?_eq_none_iff.1 ends, Element.preorderAll]
  | cons visits _ ih =>
    obtain ⟨rest, htrees, hbehind⟩ := next?_eq_some visits
    rw [ih, htrees, hbehind, Element.preorderAll_append, Element.preorderAll, Element.preorder_eq, List.cons_append]

end Walk

namespace Element

/-- A walk through an element ends, and it yields the element and everything below it in document order. -/
theorem yields_walk_iff {e : Element} {es : List Element} : e.walk.Yields es ↔ es = e.preorder := by
  have horder {es : List Element} (h : e.walk.Yields es) : es = e.preorder := by
    have htrees : e.walk.trees = [e] := rfl
    rw [h.eq_preorderAll, htrees, preorderAll, preorderAll, List.append_nil]
  refine ⟨horder, ?_⟩
  rintro rfl
  have helements := e.walk.yields_elements
  rwa [horder helements] at helements

theorem descendants_eq_preorder (e : Element) : e.descendants = e.preorder :=
  yields_walk_iff.1 e.walk.yields_elements

/-! ## Outlines -/

mutual

/-- An element without texts and attribute values. -/
def outline : Element → Element
  | ⟨uri, name, attributes, _, children⟩ =>
    ⟨uri, name, attributes.map fun a => (a.1, ""), "", outlineAll children⟩

/-- Some elements without texts and attribute values. -/
def outlineAll : List Element → List Element
  | [] => []
  | e :: rest => outline e :: outlineAll rest

end

theorem outlineAll_eq_map (es : List Element) : outlineAll es = es.map outline := by
  induction es with
  | nil => rfl
  | cons e es ih => rw [outlineAll, ih, List.map_cons]

end Element

end RemoteShell.Xml
