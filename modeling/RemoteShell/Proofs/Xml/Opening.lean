import RemoteShell.Proofs.Xml.Sites

/-!
# What a tag opens

A tag can be opened exactly if its site says so: its attributes are well-formed, no declaration in it is refused,
its prefix is declared, and the elements around it are not too many (`openElement_eq_ok_iff`).  The element that it
opens has the name, the namespace and the attributes of the site.
-/

namespace RemoteShell.Xml

/-! ## Attributes -/

/-- Behind a name both readers go on alike, or the one that asks for unique names stops. -/
theorem Attributes.named_eq {repetition : Option AttributeFault} {free asking : Attributes}
    (hrest : asking.fault = none → free = asking) :
    (match repetition with
      | some f => failed f
      | none => asking).fault = none →
    free = match repetition with
      | some f => failed f
      | none => asking := by
  intro h
  cases repetition with
  | some f => cases h
  | none => exact hrest h

/-- A reader that asks for unique names and finds no fault finds what a reader finds that does not ask. -/
theorem Attributes.scan_false {offset : Nat} {used : UsedNames} {place : AttributePlace} {cs : List Char}
    (h : (scan true offset used place cs).fault = none) :
    scan false offset used place cs = scan true offset used place cs := by
  induction cs generalizing offset used place with
  | nil => cases place <;> rfl
  | cons c cs ih =>
    cases place with
    | between =>
      rw [scan] at h ⊢
      rw [scan]
      split_ifs at h ⊢ <;> exact ih h
    | name start chars =>
      rw [scan] at h ⊢
      rw [scan]
      split_ifs at h ⊢
      · exact named_eq ih h
      · exact ih h
      · exact ih h
    | afterName start name =>
      rw [scan] at h ⊢
      rw [scan]
      split_ifs at h ⊢
      · exact named_eq ih h
      · exact ih h
      · rfl
    | beforeValue name =>
      rw [scan] at h ⊢
      rw [scan]
      split_ifs at h ⊢
      · exact ih h
      · exact ih h
      · rfl
    | value name quote chars =>
      rw [scan] at h ⊢
      rw [scan]
      split_ifs at h ⊢
      · rw [ih h]
      · exact ih h

theorem Tag.attributes_false {tag : Tag} (h : (tag.attributes true).fault = none) :
    tag.attributes false = tag.attributes true :=
  Attributes.scan_false h

namespace Partial

/-- **The attributes that are no declarations** are read if all references in their values resolve. -/
theorem plainAttributes_eq_ok_iff {as : List RawAttribute} {values : List (String × String)} :
    plainAttributes as = .ok values ↔
      (∀ a ∈ as.filter fun a => (declaredLabel? a.name).isNone, Resolves a.value) ∧
        values = (as.filter fun a => (declaredLabel? a.name).isNone).map fun a =>
          (String.ofList (splitName a.name).2, String.ofList (resolved a.value)) := by
  induction as generalizing values with
  | nil => simp [plainAttributes, eq_comm]
  | cons a as ih =>
    rw [plainAttributes]
    cases hlabel : declaredLabel? a.name with
    | some label =>
      rw [List.filter_cons_of_neg (by rw [hlabel]; exact Bool.false_ne_true)]
      exact ih
    | none =>
      rw [List.filter_cons_of_pos (by rw [hlabel]; rfl), List.forall_mem_cons, List.map_cons]
      by_cases hvalue : Resolves a.value
      · simp only [Option.isSome_none, Bool.false_eq_true, if_false, unescape_eq_ok hvalue, hvalue, true_and]
        cases hrest : plainAttributes as with
        | ok more =>
          obtain ⟨hmore, rfl⟩ := ih.1 hrest
          simp only [Except.map, Except.ok.injEq]
          exact ⟨fun h => ⟨hmore, h.symm⟩, fun h => h.2.symm⟩
        | error f =>
          refine iff_of_false nofun ?_
          rintro ⟨hmore, -⟩
          rw [ih.2 ⟨hmore, rfl⟩] at hrest
          cases hrest
      · obtain ⟨f, hf⟩ := exists_unescape_eq_error hvalue
        simp only [Option.isSome_none, Bool.false_eq_true, if_false, hf, hvalue, false_and, reduceCtorEq]

theorem readAttributes_eq_ok_iff {tag : Tag} {values : List (String × String)} :
    readAttributes tag = .ok values ↔
      (tag.attributes true).fault = none ∧ (∀ a ∈ tag.plain, Resolves a.value) ∧
        values = tag.plain.map fun a =>
          (String.ofList (splitName a.name).2, String.ofList (resolved a.value)) := by
  rw [Tag.plain, ← plainAttributes_eq_ok_iff, readAttributes]
  cases plainAttributes (tag.attributes true).found <;> cases (tag.attributes true).fault <;>
    simp [bind, Except.bind, pure, Except.pure, throw, throwThe, MonadExceptOf.throw]

/-! ## Elements -/

/-- The element that a tag opens inside some declarations, if its site is the one given. -/
def opened (scope : Scope) (s : Site) : OpenElement where
  uri := s.uri?.map String.ofList
  name := String.ofList (splitName s.tag.name).2
  attributes := s.tag.plain.map fun a => (String.ofList (splitName a.name).2, String.ofList (resolved a.value))
  text := ""
  children := []
  scope := ((s.tag.attributes true).found.filterMap RawAttribute.binding?).reverse ++ scope

variable {p : Partial} {s : Site} {e : OpenElement}

/-- Behind its declarations a tag is opened if there is room, if its prefix is declared and if its attributes are
read. -/
theorem openElement_of_enter {tag : Tag} {inner : Scope} (hinner : p.scope.enter tag = .ok inner) :
    p.openElement tag = .ok e ↔ p.stack.length < maxDepth ∧
      ((splitName tag.name).1 ≠ none → namespaceOf inner.lookup (splitName tag.name).1 ≠ none) ∧
      ∃ values, readAttributes tag = .ok values ∧
        e = ⟨(namespaceOf inner.lookup (splitName tag.name).1).map String.ofList,
          String.ofList (splitName tag.name).2, values, "", [], inner⟩ := by
  rw [openElement, hinner]
  by_cases hroom : p.stack.length < maxDepth
  · have hshallow : ¬ maxDepth ≤ p.stack.length := Nat.not_le.2 hroom
    simp only [bind, Except.bind, hshallow, if_false, pure, Except.pure, Scope.resolve_eq, hroom, true_and]
    cases huri : namespaceOf inner.lookup (splitName tag.name).1 with
    | some uri => cases readAttributes tag <;> simp [eq_comm]
    | none =>
      cases hlabel : (splitName tag.name).1 with
      | none => cases readAttributes tag <;> simp [Scope.undeclared, eq_comm]
      | some label => simp [Scope.undeclared, throw, throwThe, MonadExceptOf.throw]
  · have hdeep : maxDepth ≤ p.stack.length := Nat.not_lt.1 hroom
    simp only [bind, Except.bind, hdeep, if_true]
    exact iff_of_false nofun fun h => hroom h.1

/-- **A tag is opened exactly if it may stand where it does.** -/
theorem openElement_eq_ok_iff (hlength : p.stack.length = s.around.length)
    (hscope : ∀ label, p.scope.lookup label = declaredIn (s.around.map Prod.snd) label) :
    p.openElement s.tag = .ok e ↔ s.Opens ∧ e = opened p.scope s := by
  constructor
  · intro h
    cases hinner : p.scope.enter s.tag with
    | error f =>
      rw [openElement, hinner] at h
      cases h
    | ok inner =>
      obtain ⟨hroom, hprefix, values, hvalues, rfl⟩ := (openElement_of_enter hinner).1 h
      obtain ⟨hfault, hresolves, rfl⟩ := readAttributes_eq_ok_iff.1 hvalues
      rw [Scope.enter, Tag.attributes_false hfault, foldlM_declare_eq_ok_iff] at hinner
      obtain ⟨hplain, rfl⟩ := hinner
      rw [hlength] at hroom
      rw [funext (lookup_tag hplain hscope)] at hprefix ⊢
      exact ⟨⟨hfault, hplain, hresolves, hprefix, hroom⟩, rfl⟩
  · rintro ⟨hopens, rfl⟩
    have hinner : p.scope.enter s.tag = .ok (opened p.scope s).scope := by
      rw [Scope.enter, Tag.attributes_false hopens.attributes, foldlM_declare_eq_ok_iff]
      exact ⟨hopens.declarations, rfl⟩
    have hlookup : (opened p.scope s).scope.lookup = declaredIn (s.tag :: s.around.map Prod.snd) :=
      funext (lookup_tag hopens.declarations hscope)
    rw [openElement_of_enter hinner, hlookup, hlength]
    exact ⟨hopens.depth_le, hopens.declared, _,
      readAttributes_eq_ok_iff.2 ⟨hopens.attributes, hopens.values, rfl⟩, rfl⟩

end Partial

end RemoteShell.Xml
