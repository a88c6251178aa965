import RemoteShell.Proofs.Xml.Traversal

/-!
# Places in element trees

The *place* of an element in a tree is the row of child numbers on the way to it from the root (`Element.at?`).  Places
are ordered like words in a dictionary: a place comes before those inside it, and of two siblings the left one, with
everything inside it, comes before the right one.

The elements in document order are what stands at the places of the tree, in this order and each place once
(`Element.inPlaces_preorder`).  So no element is left out or visited twice, also where equal elements stand at
different places.
-/

namespace RemoteShell.Xml.Element

/-- What stands at a place of a tree. -/
def at? (e : Element) : List Nat → Option Element
  | [] => some e
  | i :: place => (e.children[i]?).bind (·.at? place)

/-- Some elements are those of a tree, with the element of each place once, in the order of the places. -/
def InPlaces (e : Element) (es : List Element) : Prop :=
  ∃ places : List (List Nat), places.Pairwise (· < ·) ∧ (∀ place, place ∈ places ↔ (e.at? place).isSome) ∧
    es.map some = places.map e.at?

mutual

/-- An element and everything below it in document order, each with its place. -/
def placed : Element → List (List Nat × Element)
  | ⟨uri, name, attributes, text, children⟩ =>
    ([], ⟨uri, name, attributes, text, children⟩) :: placedFrom 0 children

/-- Some children, of which the first has the number `next`, and everything below them. -/
def placedFrom (next : Nat) : List Element → List (List Nat × Element)
  | [] => []
  | e :: rest => (placed e).map (fun x => (next :: x.1, x.2)) ++ placedFrom (next + 1) rest

end

mutual

/-- Placing keeps document order. -/
theorem map_placed : (e : Element) → (placed e).map Prod.snd = e.preorder
  | ⟨uri, name, attributes, text, children⟩ => by
    rw [placed, List.map_cons, map_placedFrom, preorder]

theorem map_placedFrom (next : Nat) : (es : List Element) → (placedFrom next es).map Prod.snd = preorderAll es
  | [] => by rw [placedFrom, preorderAll, List.map_nil]
  | e :: rest => by
    rw [placedFrom, List.map_append, List.map_map, map_placedFrom, preorderAll, ← map_placed e]
    rfl

end

mutual

/-- An element is placed where it stands, and nowhere else. -/
theorem mem_placed {place : List Nat} {x : Element} :
    (e : Element) → ((place, x) ∈ placed e ↔ e.at? place = some x)
  | ⟨uri, name, attributes, text, children⟩ => by
    rw [placed, List.mem_cons, mem_placedFrom children]
    cases place with
    | nil =>
      rw [at?, Option.some.injEq]
      constructor
      · rintro (hroot | ⟨i, below, e, hplace, -⟩)
        · exact (Prod.mk.inj hroot).2.symm
        · cases hplace
      · rintro rfl
        exact .inl rfl
    | cons i place =>
      rw [at?, Option.bind_eq_some_iff]
      constructor
      · rintro (hroot | ⟨j, below, e, hplace, he, hx⟩)
        · cases hroot
        · obtain ⟨rfl, rfl⟩ := List.cons.inj hplace
          exact ⟨e, by rwa [Nat.zero_add], hx⟩
      · rintro ⟨e, he, hx⟩
        exact .inr ⟨i, place, e, by rw [Nat.zero_add], he, hx⟩

theorem mem_placedFrom {next : Nat} {place : List Nat} {x : Element} :
    (es : List Element) → ((place, x) ∈ placedFrom next es ↔
      ∃ i below e, place = (next + i) :: below ∧ es[i]? = some e ∧ e.at? below = some x)
  | [] => by simp [placedFrom]
  | e :: rest => by
    have hfirst : (place, x) ∈ (placed e).map (fun y => (next :: y.1, y.2)) ↔
        ∃ below, place = next :: below ∧ e.at? below = some x := by
      rw [List.mem_map]
      constructor
      · rintro ⟨⟨below, y⟩, hy, hplace⟩
        obtain ⟨rfl, rfl⟩ := Prod.mk.inj hplace
        exact ⟨below, rfl, (mem_placed e).1 hy⟩
      · rintro ⟨below, rfl, hx⟩
        exact ⟨(below, x), (mem_placed e).2 hx, rfl⟩
    rw [placedFrom, List.mem_append, hfirst, mem_placedFrom rest]
    constructor
    · rintro (⟨below, rfl, hx⟩ | ⟨i, below, e', rfl, he', hx⟩)
      · exact ⟨0, below, e, rfl, rfl, hx⟩
      · exact ⟨i + 1, below, e', by rw [Nat.add_right_comm, Nat.add_assoc], he', hx⟩
    · rintro ⟨i, below, e', rfl, he', hx⟩
      cases i with
      | zero => exact .inl ⟨below, rfl, Option.some.inj he' ▸ hx⟩
      | succ i => exact .inr ⟨i, below, e', by rw [Nat.add_right_comm, Nat.add_assoc], he', hx⟩

end

mutual

/-- Elements are placed in the order of the places. -/
theorem pairwise_placed : (e : Element) → (placed e).Pairwise fun x y => x.1 < y.1
  | ⟨uri, name, attributes, text, children⟩ => by
    rw [placed, List.pairwise_cons]
    refine ⟨fun y hy => ?_, pairwise_placedFrom 0 children⟩
    obtain ⟨i, below, -, hplace, -⟩ := (mem_placedFrom children).1 hy
    rw [hplace]
    exact List.nil_lt_cons _ _

theorem pairwise_placedFrom (next : Nat) :
    (es : List Element) → (placedFrom next es).Pairwise fun x y => x.1 < y.1
  | [] => by
    rw [placedFrom]
    exact .nil
  | e :: rest => by
    rw [placedFrom, List.pairwise_append]
    refine ⟨?_, pairwise_placedFrom (next + 1) rest, fun x hx y hy => ?_⟩
    · rw [List.pairwise_map]
      exact (pairwise_placed e).imp fun h => List.cons_lt_cons_iff.2 (.inr ⟨rfl, h⟩)
    · obtain ⟨x, -, rfl⟩ := List.mem_map.1 hx
      obtain ⟨i, below, -, hplace, -⟩ := (mem_placedFrom rest).1 hy
      rw [hplace]
      exact List.cons_lt_cons_iff.2 (.inl (by omega))

end

/-- **The elements in document order are those of all places in their order.** -/
theorem inPlaces_preorder (e : Element) : e.InPlaces e.preorder := by
  refine ⟨(placed e).map Prod.fst, List.pairwise_map.2 (pairwise_placed e), fun place => ?_, ?_⟩
  · rw [List.mem_map, Option.isSome_iff_exists]
    constructor
    · rintro ⟨⟨_, x⟩, hx, rfl⟩
      exact ⟨x, (mem_placed e).1 hx⟩
    · rintro ⟨x, hx⟩
      exact ⟨(place, x), (mem_placed e).2 hx, rfl⟩
  · rw [← map_placed, List.map_map, List.map_map]
    exact List.map_congr_left fun x hx => ((mem_placed e).1 hx).symm

end RemoteShell.Xml.Element
