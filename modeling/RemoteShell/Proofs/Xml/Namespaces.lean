import Mathlib.Data.List.Basic
import RemoteShell.Xml.Document

/-!
# What a prefix stands for

A prefix is looked up in the declarations in force, the innermost one first (`Scope.lookup`, `resolve_eq`).  A tag
adds its own declarations to those around it, the last one of a tag in front, unless one of them is refused because
it takes a reserved prefix or a reserved namespace (`foldlM_declare_eq_ok_iff`).

So a prefix stands for what the innermost tag around it says that declares it, and the two reserved prefixes stand
for what they always do (`lookup_enter`, `lookup_tag`).
-/

namespace RemoteShell.Xml

/-! ## Looking up -/

/-- The namespace of a prefix, or the default namespace, if prefixes are declared in some way; the empty prefix is
that of the default namespace.  An empty namespace is none, and so is that of a name that begins with a colon. -/
def namespaceOf (declared : List Char → Option (List Char)) : Option (List Char) → Option (List Char)
  | none => (declared []).filter (· ≠ [])
  | some [] => none
  | some (c :: label) => (declared (c :: label)).filter (· ≠ [])

namespace Scope

/-- What a prefix is declared as. -/
def lookup (scope : Scope) (label : List Char) : Option (List Char) :=
  (scope.find? fun b => b.label = label).map Binding.uri

/-- What is found for a prefix counts unless it is empty. -/
theorem resolve_found (label : Option (List Char)) (found : Option Binding) :
    (match found with
      | none => undeclared label
      | some b => if b.uri.isEmpty then undeclared label else .bound (String.ofList b.uri)) =
    ((found.map Binding.uri).filter (· ≠ [])).elim (undeclared label) fun uri => .bound (String.ofList uri) := by
  obtain _ | ⟨l, _ | ⟨c, uri⟩⟩ := found <;> rfl

/-- **Resolving is looking up.** -/
theorem resolve_eq (scope : Scope) (label : Option (List Char)) : scope.resolve label =
    (namespaceOf scope.lookup label).elim (undeclared label) fun uri => .bound (String.ofList uri) := by
  rw [resolve]
  -- the cases are those of `namespaceOf`
  obtain _ | _ | ⟨c, label⟩ := label
  · have hdefault : (fun b : Binding => b.label.isEmpty) = fun b => decide (b.label = []) := by
      funext b
      cases b.label <;> rfl
    simp only [hdefault]
    exact resolve_found none _
  · have hnone : (fun b : Binding => !b.label.isEmpty && decide (b.label = [])) = fun _ => false := by
      funext b
      cases b.label <;> rfl
    simp only [hnone, List.find?_eq_none.2 fun _ _ => Bool.false_ne_true]
    rfl
  · have hlabel : (fun b : Binding => !b.label.isEmpty && decide (b.label = c :: label)) =
        fun b => decide (b.label = c :: label) := by
      funext b
      cases hb : b.label <;> simp
    simp only [hlabel]
    exact resolve_found (some (c :: label)) _

theorem lookup_cons (b : Binding) (scope : Scope) (label : List Char) :
    lookup (b :: scope) label = if b.label = label then some b.uri else lookup scope label := by
  rw [lookup, List.find?_cons]
  by_cases h : b.label = label <;> simp [h, lookup]

end Scope

/-- What the two reserved prefixes stand for. -/
def predefined? (label : List Char) : Option (List Char) :=
  if label = "xml".toList then some xmlUri.toList
  else if label = "xmlns".toList then some xmlnsUri.toList
  else none

/-- What a tag declares a prefix as: the last declaration counts. -/
def Tag.declares? (t : Tag) (label : List Char) : Option (List Char) :=
  ((t.attributes true).found.reverse.find? fun a => declaredLabel? a.name = some label).map RawAttribute.value

/-- What a prefix is declared as inside some tags, innermost first.  The reserved prefixes keep their meaning, and
otherwise the innermost tag counts that declares the prefix. -/
def declaredIn (tags : List Tag) (label : List Char) : Option (List Char) :=
  (predefined? label).or (tags.findSome? (·.declares? label))

/-- Outside all tags only the reserved prefixes are declared. -/
theorem lookup_outermost (label : List Char) : Scope.outermost.lookup label = declaredIn [] label := by
  rw [Scope.outermost, Scope.lookup_cons, Scope.lookup_cons, declaredIn, List.findSome?_nil, Option.or_none,
    predefined?]
  simp only [eq_comm (b := label)]
  rfl

/-! ## Declaring -/

namespace RawAttribute

/-- An attribute declares a reserved prefix as something else, or another prefix as a reserved namespace. -/
def IsReserved (a : RawAttribute) : Prop :=
  ∃ label, declaredLabel? a.name = some label ∧ a.name ≠ "xmlns".toList ∧
    (label = "xml".toList ∧ a.value ≠ xmlUri.toList ∨ label = "xmlns".toList ∨
      label ≠ "xml".toList ∧ (a.value = xmlUri.toList ∨ a.value = xmlnsUri.toList))

/-- The declaration that an attribute adds to those in force. -/
def binding? (a : RawAttribute) : Option Binding :=
  (declaredLabel? a.name).bind fun label =>
    if label = "xml".toList then none else some ⟨label, a.value⟩

end RawAttribute

/-- Only names in front of which `xmlns` stands declare anything. -/
theorem declaredLabel?_eq_some_iff {name label : List Char} : declaredLabel? name = some label ↔
    name = "xmlns".toList ∧ label = [] ∨ name = "xmlns:".toList ++ label := by
  rw [declaredLabel?.eq_def]
  split
  · simp [eq_comm]
  · simp [eq_comm]
  · rename_i hnone hsome
    refine iff_of_false nofun ?_
    rintro (⟨rfl, -⟩ | rfl)
    · exact hnone rfl
    · exact hsome label rfl

theorem declaredLabel?_xmlns : declaredLabel? "xmlns".toList = some [] := rfl

/-- The name `xmlns` is the only one without a colon that declares anything. -/
theorem ne_xmlns_of_declaredLabel? {name label : List Char} (h : declaredLabel? name = some label)
    (hlabel : label ≠ []) : name ≠ "xmlns".toList := by
  rintro rfl
  rw [declaredLabel?_xmlns] at h
  exact hlabel (Option.some.inj h).symm

/-- **What one attribute does to the declarations in force**: it adds one at most, unless it is refused. -/
theorem declare_eq_ok_iff {scope inner : Scope} {a : RawAttribute} :
    declare scope a = .ok inner ↔ ¬ a.IsReserved ∧ inner = a.binding?.toList ++ scope := by
  rw [declare, RawAttribute.IsReserved, RawAttribute.binding?]
  cases hlabel : declaredLabel? a.name with
  | none => simp [eq_comm]
  | some label =>
    simp only [Option.some.injEq, exists_eq_left', Option.bind_some]
    by_cases hname : a.name = "xmlns".toList
    · have hdefault : label = [] := by
        rw [hname, declaredLabel?_xmlns] at hlabel
        exact (Option.some.inj hlabel).symm
      have hxml : label ≠ "xml".toList := by
        rw [hdefault]
        decide
      rw [if_pos hname, if_neg hxml, hname, hdefault]
      simp only [ne_eq, not_true_eq_false, false_and, not_false_eq_true, true_and, Except.ok.injEq]
      exact eq_comm
    · rw [if_neg hname]
      simp only [ne_eq, hname, not_false_eq_true, true_and]
      by_cases hxml : label = "xml".toList
      · have hdistinct : label ≠ "xmlns".toList := by
          rw [hxml]
          decide
        by_cases hvalue : a.value = xmlUri.toList
        · simp only [hxml, if_true, hvalue, not_true_eq_false, and_false, false_and, or_false,
            hxml ▸ hdistinct, not_false_eq_true, true_and, Except.ok.injEq, Option.toList_none,
            List.nil_append]
          exact eq_comm
        · simp only [hxml, if_true, hvalue, if_false, not_false_eq_true, and_self, true_or,
            not_true_eq_false, false_and, reduceCtorEq]
      · by_cases hxmlns : label = "xmlns".toList
        · simp only [hxml, if_false]
          simp only [hxmlns, if_true, true_or, or_true, not_true_eq_false, false_and, reduceCtorEq]
        · by_cases hvalue : a.value = xmlUri.toList ∨ a.value = xmlnsUri.toList
          · simp only [hxml, hxmlns, if_false, Bool.or_eq_true, decide_eq_true_eq, hvalue, if_true,
              not_false_eq_true, and_self, or_true, not_true_eq_false, false_and, reduceCtorEq]
          · simp only [hxml, hxmlns, if_false, Bool.or_eq_true, decide_eq_true_eq, hvalue,
              false_and, and_false, or_self, not_false_eq_true, true_and, Except.ok.injEq,
              Option.toList_some, List.singleton_append]
            exact eq_comm

/-- **What the attributes of a tag do to the declarations in force.** -/
theorem foldlM_declare_eq_ok_iff {scope inner : Scope} {as : List RawAttribute} :
    as.foldlM declare scope = .ok inner ↔
      (∀ a ∈ as, ¬ a.IsReserved) ∧ inner = (as.filterMap RawAttribute.binding?).reverse ++ scope := by
  induction as generalizing scope with
  | nil => simp [pure, Except.pure, eq_comm]
  | cons a as ih =>
    have hbindings : ((a :: as).filterMap RawAttribute.binding?).reverse ++ scope =
        (as.filterMap RawAttribute.binding?).reverse ++ (a.binding?.toList ++ scope) := by
      cases hb : a.binding? <;> simp [hb]
    rw [List.foldlM_cons, List.forall_mem_cons, hbindings]
    cases hfirst : declare scope a with
    | error f =>
      refine iff_of_false nofun fun h => ?_
      rw [declare_eq_ok_iff.2 ⟨h.1.1, rfl⟩] at hfirst
      cases hfirst
    | ok next =>
      obtain ⟨ha, rfl⟩ := declare_eq_ok_iff.1 hfirst
      show as.foldlM declare _ = _ ↔ _
      rw [ih, and_assoc]
      exact (and_iff_right ha).symm

/-- One declaration more in front. -/
theorem lookup_binding {a : RawAttribute} (ha : ¬ a.IsReserved) (scope : Scope) (label : List Char) :
    Scope.lookup (a.binding?.toList ++ scope) label =
      if predefined? label = none ∧ declaredLabel? a.name = some label then some a.value
      else scope.lookup label := by
  rw [RawAttribute.binding?]
  cases hlabel : declaredLabel? a.name with
  | none => simp
  | some l =>
    have hxmlns : l ≠ "xmlns".toList := by
      rintro rfl
      exact ha ⟨_, hlabel, ne_xmlns_of_declaredLabel? hlabel (by decide), .inr (.inl rfl)⟩
    simp only [Option.bind_some, Option.some.injEq]
    by_cases hxml : l = "xml".toList
    · have hreserved : ¬ (predefined? label = none ∧ l = label) := by
        rintro ⟨hnone, rfl⟩
        rw [predefined?, if_pos hxml] at hnone
        cases hnone
      rw [if_pos hxml, if_neg hreserved, Option.toList_none, List.nil_append]
    · rw [if_neg hxml, Option.toList_some, List.singleton_append, Scope.lookup_cons]
      by_cases hsame : l = label
      · have hfree : predefined? l = none := by rw [predefined?, if_neg hxml, if_neg hxmlns]
        rw [if_pos hsame, if_pos ⟨hsame ▸ hfree, hsame⟩]
      · rw [if_neg hsame, if_neg fun h => hsame h.2]

/-- **Inside a tag a prefix stands for what the tag declares last for it, or else for what it stands for outside.**
The reserved prefixes keep their meaning. -/
theorem lookup_enter {as : List RawAttribute} (has : ∀ a ∈ as, ¬ a.IsReserved) (scope : Scope)
    (label : List Char) :
    Scope.lookup ((as.filterMap RawAttribute.binding?).reverse ++ scope) label =
      if predefined? label = none then
        ((as.reverse.find? fun a => declaredLabel? a.name = some label).map RawAttribute.value).or
          (scope.lookup label)
      else scope.lookup label := by
  induction as generalizing scope with
  | nil => simp
  | cons a as ih =>
    rw [List.forall_mem_cons] at has
    have hbindings : ((a :: as).filterMap RawAttribute.binding?).reverse ++ scope =
        (as.filterMap RawAttribute.binding?).reverse ++ (a.binding?.toList ++ scope) := by
      cases hb : a.binding? <;> simp [hb]
    rw [hbindings, ih has.2, lookup_binding has.1, List.reverse_cons, List.find?_append]
    by_cases hfree : predefined? label = none
    · by_cases hdeclared : declaredLabel? a.name = some label <;>
        cases as.reverse.find? fun a => declaredLabel? a.name = some label <;> simp [hfree, hdeclared]
    · simp [hfree]

/-- A tag is entered: what is declared inside it is what its declarations and the tags around it say. -/
theorem lookup_tag {scope : Scope} {tag : Tag} {tags : List Tag}
    (hplain : ∀ a ∈ (tag.attributes true).found, ¬ a.IsReserved)
    (hscope : ∀ label, scope.lookup label = declaredIn tags label) (label : List Char) :
    Scope.lookup (((tag.attributes true).found.filterMap RawAttribute.binding?).reverse ++ scope) label =
      declaredIn (tag :: tags) label := by
  rw [lookup_enter hplain, hscope, declaredIn, declaredIn, List.findSome?_cons]
  cases hreserved : predefined? label with
  | some uri => rfl
  | none =>
    cases hdeclared : tag.declares? label <;> rw [Tag.declares?] at hdeclared <;> simp [hdeclared]

end RemoteShell.Xml
