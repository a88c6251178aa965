import RemoteShell.Proofs.Xml.Opening
import RemoteShell.Proofs.Xml.Reading

/-!
# Building trees from tokens

The builder keeps the open elements on a stack and puts an element into its place only when its closing tag comes.
What one token does is said once (`step_eq_ok_iff`): when it is allowed, and what it makes of what has been built.
Two facts about a run from any state follow by induction on the tokens that are left.

* It ends with a whole document exactly if every element that is still to come may stand where it does, the texts
  that are still to come inside the open elements are well-formed, as many closing tags come as are needed, and
  there is one root in all (`exists_buildAll_iff`).
* The tree that it ends with lists the elements begun so far, with the texts that are still to come added to those
  of the open ones, and then the elements that are still to come (`entries_buildAll`).
-/

namespace RemoteShell.Xml

open Element (countAll numberedAll)

theorem countAll_reverse (es : List Element) : countAll es.reverse = countAll es := by
  induction es with
  | nil => rfl
  | cons e es ih =>
    rw [List.reverse_cons, Element.countAll_append, ih]
    simp only [countAll]
    omega

theorem count_close (e : OpenElement) : e.close.count = countAll e.children + 1 := by
  rw [Element.count_eq, OpenElement.close, countAll_reverse]

/-- An open element with one child more. -/
def OpenElement.adopt (e : OpenElement) (child : Element) : OpenElement :=
  { e with children := child :: e.children }

/-! ## Numbers -/

/-- How many elements have been begun when these are open and `base` elements stand in front of the outermost. -/
def begunFrom (base : Nat) : List OpenElement → Nat
  | [] => base
  | e :: outer => begunFrom base outer + (countAll e.children + 1)

/-- The open elements are those with the given numbers and tags, innermost first. -/
inductive Fits (base : Nat) : List OpenElement → List (Nat × Tag) → Prop
  | nil : Fits base [] []
  | cons {e : OpenElement} {outer : List OpenElement} {tag : Tag} {around : List (Nat × Tag)}
      (houter : Fits base outer around)
      (hscope : ∀ label, e.scope.lookup label = declaredIn (tag :: around.map Prod.snd) label) :
      Fits base (e :: outer) ((begunFrom base outer, tag) :: around)

namespace Fits

variable {base : Nat} {e e' : OpenElement} {outer : List OpenElement} {around : List (Nat × Tag)}

theorem length_eq {stack : List OpenElement} (h : Fits base stack around) : stack.length = around.length := by
  induction h with
  | nil => rfl
  | cons _ _ ih => rw [List.length_cons, List.length_cons, ih]

theorem isEmpty_eq {stack : List OpenElement} (h : Fits base stack around) : around.isEmpty = stack.isEmpty := by
  cases h <;> rfl

theorem lookup {p : Partial} (h : Fits base p.stack around) (label : List Char) :
    p.scope.lookup label = declaredIn (around.map Prod.snd) label := by
  obtain ⟨stack, root⟩ := p
  cases h with
  | nil => exact lookup_outermost label
  | cons _ hscope => exact hscope label

/-- Texts and children of the innermost element make no difference. -/
theorem congr (h : Fits base (e :: outer) around) (hscope : e'.scope = e.scope) :
    Fits base (e' :: outer) around := by
  cases h with
  | cons houter hinner => exact .cons houter (hscope ▸ hinner)

theorem tail (h : Fits base (e :: outer) around) : Fits base outer around.tail := by
  cases h with
  | cons houter _ => exact houter

end Fits

/-! ## One token -/

/-- The elements around what follows a token, if the next element has the number `next`. -/
def aroundBehind (around : List (Nat × Tag)) (next : Nat) : Token → List (Nat × Tag)
  | .opening tag => (next, tag) :: around
  | .closing => around.tail
  | _ => around

namespace Partial

/-- How many elements have been begun. -/
def begun (p : Partial) : Nat :=
  begunFrom (p.root.elim 0 Element.count) p.stack

/-- The open elements are those `around`. -/
def IsInside (p : Partial) (around : List (Nat × Tag)) : Prop :=
  Fits (p.root.elim 0 Element.count) p.stack around

/-- Put a finished element into its place, if there is one. -/
def put (p : Partial) (e : Element) : Partial :=
  match p.stack with
  | [] => { p with root := some e }
  | parent :: rest => { p with stack := parent.adopt e :: rest }

/-- There is a place for one element more. -/
def HasRoom (p : Partial) : Prop :=
  p.stack = [] → p.root = none

/-- What has been built without the innermost open element. -/
def outside (p : Partial) : Partial :=
  { p with stack := p.stack.tail }

/-- A token may follow. -/
def Allows (p : Partial) (around : List (Nat × Tag)) : Token → Prop
  | .opening tag => (Site.mk tag around []).Opens
  | .empty tag => (Site.mk tag around []).Opens ∧ p.HasRoom
  | .closing => p.stack ≠ [] ∧ p.outside.HasRoom
  | .text raw => p.stack ≠ [] → Resolves raw
  | .data _ => True
  | .aside => True

/-- What a token makes of what has been built, if it may follow. -/
def after (p : Partial) (around : List (Nat × Tag)) : Token → Partial
  | .opening tag => { p with stack := opened p.scope ⟨tag, around, []⟩ :: p.stack }
  | .empty tag => p.put (opened p.scope ⟨tag, around, []⟩).close
  | .closing => p.stack.head?.elim p fun e => p.outside.put e.close
  | .text raw => p.addText (String.ofList (resolved raw))
  | .data raw => p.addText (String.ofList raw)
  | .aside => p

variable {p q : Partial} {around : List (Nat × Tag)} {t : Token} {e : Element}

/-! ### Putting elements into their places -/

theorem attach_eq_ok_iff : p.attach e = .ok q ↔ p.HasRoom ∧ q = p.put e := by
  obtain ⟨_ | ⟨parent, outer⟩, _ | root⟩ := p <;> simp [attach, HasRoom, put, OpenElement.adopt, eq_comm]

theorem length_put : (p.put e).stack.length = p.stack.length := by
  obtain ⟨_ | ⟨parent, outer⟩, root⟩ := p <;> rfl

theorem begun_put (hroom : p.HasRoom) : (p.put e).begun = p.begun + e.count := by
  obtain ⟨_ | ⟨parent, outer⟩, root⟩ := p
  · obtain rfl : root = none := hroom rfl
    exact (Nat.zero_add e.count).symm
  · simp only [put, begun, begunFrom, OpenElement.adopt, countAll]
    omega

theorem isInside_put (hinside : p.IsInside around) : (p.put e).IsInside around := by
  obtain ⟨_ | ⟨parent, outer⟩, root⟩ := p
  · cases hinside
    exact .nil
  · exact Fits.congr hinside rfl

theorem isInside_outside (hinside : p.IsInside around) : p.outside.IsInside around.tail := by
  obtain ⟨_ | ⟨e, outer⟩, root⟩ := p
  · cases hinside
    exact .nil
  · exact hinside.tail

/-! ### Steps -/

/-- **What one token does**: if it may follow, it makes of what has been built what it is to make of it. -/
theorem step_eq_ok_iff (hinside : p.IsInside around) :
    p.step t = .ok q ↔ p.Allows around t ∧ q = p.after around t := by
  -- a tag that cannot be opened is a fault
  have hclosed : ∀ tag, ¬ (Site.mk tag around []).Opens → ∃ f, p.openElement tag = .error f := by
    intro tag hopens
    cases hopen : p.openElement tag with
    | error f => exact ⟨f, rfl⟩
    | ok e =>
      exact absurd ((openElement_eq_ok_iff (s := ⟨tag, around, []⟩) hinside.length_eq hinside.lookup).1 hopen).1
        hopens
  cases t with
  | opening tag =>
    by_cases hopens : (Site.mk tag around []).Opens
    · have hopen := (openElement_eq_ok_iff hinside.length_eq hinside.lookup).2 ⟨hopens, rfl⟩
      rw [step, hopen]
      exact ⟨fun h => ⟨hopens, (Except.ok.inj h).symm⟩, fun h => congrArg Except.ok h.2.symm⟩
    · obtain ⟨f, hf⟩ := hclosed tag hopens
      rw [step, hf]
      exact iff_of_false (fun h => by cases h) fun h => hopens h.1
  | empty tag =>
    by_cases hopens : (Site.mk tag around []).Opens
    · have hopen := (openElement_eq_ok_iff hinside.length_eq hinside.lookup).2 ⟨hopens, rfl⟩
      rw [step, hopen]
      exact attach_eq_ok_iff.trans (and_congr_left fun _ => (and_iff_right hopens).symm)
    · obtain ⟨f, hf⟩ := hclosed tag hopens
      rw [step, hf]
      exact iff_of_false (fun h => by cases h) fun h => hopens h.1.1
  | closing =>
    obtain ⟨_ | ⟨e, outer⟩, root⟩ := p
    · exact iff_of_false (fun h => by cases h) fun h => h.1.1 rfl
    · exact attach_eq_ok_iff.trans
        (and_congr_left fun _ => (and_iff_right (List.cons_ne_nil e outer)).symm)
  | text raw =>
    obtain ⟨_ | ⟨e, outer⟩, root⟩ := p
    · exact ⟨fun h => ⟨fun hnil => absurd rfl hnil, (Except.ok.inj h).symm⟩, fun h => congrArg Except.ok h.2.symm⟩
    · by_cases hraw : Resolves raw
      · rw [step, unescape_eq_ok hraw]
        exact ⟨fun h => ⟨fun _ => hraw, (Except.ok.inj h).symm⟩, fun h => congrArg Except.ok h.2.symm⟩
      · obtain ⟨f, hf⟩ := exists_unescape_eq_error hraw
        rw [step, hf]
        exact iff_of_false (fun h => by cases h) fun h => hraw (h.1 (List.cons_ne_nil e outer))
  | data raw => exact ⟨fun h => ⟨trivial, (Except.ok.inj h).symm⟩, fun h => congrArg Except.ok h.2.symm⟩
  | aside => exact ⟨fun h => ⟨trivial, (Except.ok.inj h).symm⟩, fun h => congrArg Except.ok h.2.symm⟩

theorem isInside_addText {text : String} (hinside : p.IsInside around) : (p.addText text).IsInside around := by
  obtain ⟨_ | ⟨e, outer⟩, root⟩ := p
  · exact hinside
  · exact Fits.congr hinside rfl

theorem begun_addText {text : String} : (p.addText text).begun = p.begun := by
  obtain ⟨_ | ⟨e, outer⟩, root⟩ := p <;> rfl

/-- The open elements are kept track of. -/
theorem isInside_after (hinside : p.IsInside around) (hallows : p.Allows around t) :
    (p.after around t).IsInside (aroundBehind around p.begun t) := by
  cases t with
  | opening tag => exact Fits.cons hinside (lookup_tag hallows.declarations hinside.lookup)
  | empty tag => exact isInside_put hinside
  | closing =>
    obtain ⟨_ | ⟨e, outer⟩, root⟩ := p
    · exact absurd rfl hallows.1
    · exact isInside_put (isInside_outside hinside)
  | text raw => exact isInside_addText hinside
  | data raw => exact isInside_addText hinside
  | aside => exact hinside

/-- Each opening or empty tag begins one element. -/
theorem begun_after (hallows : p.Allows around t) :
    (p.after around t).begun = p.begun + if t.tag?.isSome then 1 else 0 := by
  cases t with
  | opening tag => rfl
  | empty tag => exact begun_put hallows.2
  | closing =>
    obtain ⟨_ | ⟨e, outer⟩, root⟩ := p
    · exact absurd rfl hallows.1
    · refine (begun_put hallows.2).trans ?_
      rw [count_close]
      rfl
  | text raw => exact begun_addText
  | data raw => exact begun_addText
  | aside => rfl

end Partial

/-! ## Acceptance -/

/-- What is left may follow when `level` elements are open, which are those `around`, and there are so many roots. -/
structure Acceptable (level roots : Nat) (around : List (Nat × Tag)) (next : Nat) (ts : List Token) : Prop where
  sound : ∀ s ∈ sitesFrom around next ts, s.Sound
  /-- The texts still to come inside the open elements are well-formed. -/
  texts : ∀ l < level, ∀ raw, .text raw ∈ inside l ts → Resolves raw
  /-- All elements are closed in the end. -/
  closed : levelBehind level ts = 0
  /-- There is one root in all. -/
  root : roots + (sitesFrom around next ts).countP (·.around.isEmpty) = 1

namespace Acceptable

variable {level roots next : Nat} {around : List (Nat × Tag)} {ts : List Token} {tag : Tag} {raw : List Char}

theorem nil_iff : Acceptable level roots around next [] ↔ level = 0 ∧ roots = 1 :=
  ⟨fun h => ⟨h.closed, h.root⟩, fun h => ⟨nofun, fun _ _ _ => nofun, h.1, h.2⟩⟩

theorem roots_le (h : Acceptable level roots around next ts) : roots ≤ 1 := by
  have hroot := h.root
  omega

theorem aside_iff :
    Acceptable level roots around next (.aside :: ts) ↔ Acceptable level roots around next ts :=
  ⟨fun h => ⟨h.1, h.2, h.3, h.4⟩, fun h => ⟨h.1, h.2, h.3, h.4⟩⟩

theorem data_iff :
    Acceptable level roots around next (.data raw :: ts) ↔ Acceptable level roots around next ts := by
  have hinside : ∀ l r, .text r ∈ inside l (.data raw :: ts) ↔ .text r ∈ inside l ts := by
    intro l r
    by_cases hl : l = 0 <;> simp [inside, hl]
  exact ⟨fun h => ⟨h.1, fun l hl r hr => h.2 l hl r ((hinside l r).2 hr), h.3, h.4⟩,
    fun h => ⟨h.1, fun l hl r hr => h.2 l hl r ((hinside l r).1 hr), h.3, h.4⟩⟩

/-- The references in a text count if it stands in an element. -/
theorem text_iff : Acceptable level roots around next (.text raw :: ts) ↔
    (level ≠ 0 → Resolves raw) ∧ Acceptable level roots around next ts := by
  have hinside : ∀ l r, .text r ∈ inside l (.text raw :: ts) ↔
      l = 0 ∧ r = raw ∨ .text r ∈ inside l ts := by
    intro l r
    by_cases hl : l = 0 <;> simp [inside, hl]
  constructor
  · intro h
    refine ⟨fun hlevel => ?_, h.1, fun l hl r hr => h.2 l hl r ((hinside l r).2 (.inr hr)), h.3, h.4⟩
    exact h.texts 0 (Nat.pos_of_ne_zero hlevel) raw ((hinside 0 raw).2 (.inl ⟨rfl, rfl⟩))
  · rintro ⟨hraw, h⟩
    refine ⟨h.1, fun l hl r hr => ?_, h.3, h.4⟩
    rcases (hinside l r).1 hr with ⟨rfl, rfl⟩ | hr
    · exact hraw (Nat.ne_of_gt hl)
    · exact h.2 l hl r hr

/-- An opening tag may stand where it does, and what follows may follow inside its element. -/
theorem opening_iff : Acceptable level roots around next (.opening tag :: ts) ↔
    (Site.mk tag around []).Opens ∧
      Acceptable (level + 1) (roots + if around.isEmpty then 1 else 0) ((next, tag) :: around) (next + 1) ts := by
  constructor
  · intro h
    obtain ⟨hsite, hsound⟩ := List.forall_mem_cons.1 h.sound
    refine ⟨hsite.toOpens.congr rfl rfl, hsound, fun l hl raw hraw => ?_, h.closed, ?_⟩
    · cases l with
      | zero => exact hsite.texts raw hraw
      | succ l => exact h.texts l (Nat.lt_of_succ_lt_succ hl) raw hraw
    · have hroot := h.root
      simp only [sitesFrom, List.countP_cons] at hroot
      omega
  · rintro ⟨hopens, h⟩
    refine ⟨List.forall_mem_cons.2 ⟨⟨hopens.congr rfl rfl, h.texts 0 (Nat.succ_pos level)⟩, h.sound⟩,
      fun l hl => h.texts (l + 1) (Nat.succ_lt_succ hl), h.closed, ?_⟩
    have hroot := h.root
    simp only [sitesFrom, List.countP_cons]
    omega

/-- An empty tag may stand where it does, and what follows may follow behind it. -/
theorem empty_iff : Acceptable level roots around next (.empty tag :: ts) ↔
    (Site.mk tag around []).Opens ∧
      Acceptable level (roots + if around.isEmpty then 1 else 0) around (next + 1) ts := by
  constructor
  · intro h
    obtain ⟨hsite, hsound⟩ := List.forall_mem_cons.1 h.sound
    refine ⟨hsite.toOpens, hsound, h.texts, h.closed, ?_⟩
    have hroot := h.root
    simp only [sitesFrom, List.countP_cons] at hroot
    omega
  · rintro ⟨hopens, h⟩
    refine ⟨List.forall_mem_cons.2 ⟨⟨hopens, by simp⟩, h.sound⟩, h.texts, h.closed, ?_⟩
    have hroot := h.root
    simp only [sitesFrom, List.countP_cons]
    omega

theorem closing_iff : Acceptable (level + 1) roots around next (.closing :: ts) ↔
    Acceptable level roots around.tail next ts := by
  constructor
  · exact fun h => ⟨h.sound, fun l hl => h.texts (l + 1) (Nat.succ_lt_succ hl), h.closed, h.root⟩
  · intro h
    refine ⟨h.sound, fun l hl raw hraw => ?_, h.closed, h.root⟩
    cases l with
    | zero => cases hraw
    | succ l => exact h.texts l (Nat.lt_of_succ_lt_succ hl) raw hraw

end Acceptable

namespace Partial

variable {p q : Partial} {around : List (Nat × Tag)} {t : Token} {ts : List Token} {e : Element}

/-- How many roots there are, finished or open. -/
def roots (p : Partial) : Nat :=
  (if p.root.isSome then 1 else 0) + if p.stack.isEmpty then 0 else 1

theorem buildAll_cons_error {f : Fault} (h : p.step t = .error f) (ts : List Token) :
    p.buildAll (t :: ts) = .error f := by
  rw [buildAll, List.foldlM_cons, h]
  rfl

/-- What is left may follow what has been built. -/
def Accepts (p : Partial) (around : List (Nat × Tag)) (ts : List Token) : Prop :=
  Acceptable p.stack.length p.roots around p.begun ts

/-- What has been built is a whole document. -/
def IsWhole (p : Partial) : Prop :=
  p.stack = [] ∧ p.root.isSome = true

theorem accepts_nil_iff : p.Accepts around [] ↔ p.IsWhole := by
  refine Acceptable.nil_iff.trans ?_
  obtain ⟨_ | ⟨e, outer⟩, _ | root⟩ := p <;> simp [IsWhole, roots]

theorem accepts_addText {text : String} : (p.addText text).Accepts around ts ↔ p.Accepts around ts := by
  obtain ⟨_ | ⟨e, outer⟩, root⟩ := p <;> rfl

theorem roots_put (hinside : p.IsInside around) (hroom : p.HasRoom) :
    (p.put e).roots = p.roots + if around.isEmpty then 1 else 0 := by
  rw [hinside.isEmpty_eq]
  obtain ⟨_ | ⟨parent, outer⟩, root⟩ := p
  · obtain rfl : root = none := hroom rfl
    rfl
  · rfl

/-- An element may be followed by what may follow it in its place.  There is no place for a second root. -/
theorem acceptable_put_iff (hinside : p.IsInside around) :
    Acceptable p.stack.length (p.roots + if around.isEmpty then 1 else 0) around (p.begun + e.count) ts ↔
      p.HasRoom ∧ (p.put e).Accepts around ts := by
  by_cases hroom : p.HasRoom
  · rw [and_iff_right hroom, Accepts, length_put, roots_put hinside hroom, begun_put hroom]
  · refine iff_of_false (fun h => hroom fun hstack => ?_) fun h => hroom h.1
    obtain ⟨stack, root⟩ := p
    obtain rfl : stack = [] := hstack
    cases hinside
    have hroots := h.roots_le
    cases root with
    | none => rfl
    | some root => simp [roots] at hroots

/-- **One token of what may follow.** -/
theorem accepts_cons_iff (hinside : p.IsInside around) (hclosable : Closable p.stack.length (t :: ts)) :
    p.Accepts around (t :: ts) ↔
      p.Allows around t ∧ (p.after around t).Accepts (aroundBehind around p.begun t) ts := by
  cases t with
  | opening tag =>
    refine Acceptable.opening_iff.trans (and_congr_right fun _ => ?_)
    have hroots : p.roots + (if around.isEmpty then 1 else 0) = (p.after around (.opening tag)).roots := by
      rw [hinside.isEmpty_eq]
      obtain ⟨_ | ⟨e, outer⟩, root⟩ := p <;> rfl
    rw [hroots]
    exact Iff.rfl
  | empty tag =>
    refine Acceptable.empty_iff.trans ?_
    have hcount : (opened p.scope ⟨tag, around, []⟩).close.count = 1 := rfl
    rw [Allows, and_assoc, ← hcount]
    exact and_congr_right fun _ => acceptable_put_iff hinside
  | closing =>
    obtain ⟨_ | ⟨e, outer⟩, root⟩ := p
    · exact absurd rfl hclosable.1
    · refine Acceptable.closing_iff.trans ?_
      rw [Allows, and_iff_right (List.cons_ne_nil e outer)]
      refine Iff.trans ?_ (acceptable_put_iff (isInside_outside hinside))
      have hroots : (outside ⟨e :: outer, root⟩).roots + (if around.tail.isEmpty then 1 else 0) =
          roots ⟨e :: outer, root⟩ := by
        rw [(isInside_outside hinside).isEmpty_eq]
        cases outer <;> rfl
      show _ ↔ Acceptable _ ((outside ⟨e :: outer, root⟩).roots + if around.tail.isEmpty then 1 else 0) _ _ ts
      rw [hroots, count_close]
      exact Iff.rfl
  | text raw =>
    refine Acceptable.text_iff.trans (and_congr ?_ accepts_addText.symm)
    rw [Allows, ne_eq, List.length_eq_zero_iff]
  | data raw => exact Acceptable.data_iff.trans (accepts_addText.symm.trans (and_iff_right trivial).symm)
  | aside => exact Acceptable.aside_iff.trans (and_iff_right trivial).symm

theorem closable_after (hclosable : Closable p.stack.length (t :: ts)) :
    Closable (p.after around t).stack.length ts := by
  have haddText : ∀ text, (p.addText text).stack.length = p.stack.length := by
    intro text
    obtain ⟨_ | ⟨e, outer⟩, root⟩ := p <;> rfl
  cases t with
  | opening tag => exact hclosable
  | empty tag =>
    rw [after, length_put]
    exact hclosable
  | closing =>
    obtain ⟨_ | ⟨e, outer⟩, root⟩ := p
    · exact absurd rfl hclosable.1
    · show Closable (put (outside _) _).stack.length ts
      rw [length_put]
      exact hclosable.2
  | text raw =>
    rw [after, haddText]
    exact hclosable
  | data raw =>
    rw [after, haddText]
    exact hclosable
  | aside => exact hclosable

/-- **A run ends with a whole document exactly if what is left may follow.** -/
theorem exists_buildAll_iff (hinside : p.IsInside around) (hclosable : Closable p.stack.length ts) :
    (∃ q, p.buildAll ts = .ok q ∧ q.IsWhole) ↔ p.Accepts around ts := by
  induction ts generalizing p around with
  | nil =>
    rw [accepts_nil_iff]
    exact ⟨fun ⟨q, hq, hwhole⟩ => Except.ok.inj hq ▸ hwhole, fun h => ⟨p, rfl, h⟩⟩
  | cons t ts ih =>
    rw [accepts_cons_iff hinside hclosable]
    cases hstep : p.step t with
    | ok next =>
      obtain ⟨hallows, rfl⟩ := (step_eq_ok_iff hinside).1 hstep
      rw [buildAll_cons hstep, and_iff_right hallows]
      exact ih (isInside_after hinside hallows) (closable_after hclosable)
    | error f =>
      rw [buildAll_cons_error hstep]
      refine iff_of_false (fun ⟨q, hq, _⟩ => nomatch hq) fun h => ?_
      rw [(step_eq_ok_iff hinside).2 ⟨h.1, rfl⟩] at hstep
      cases hstep

end Partial

/-! ## Contents -/

/-- The number of the innermost open element. -/
def innermost? (base : Nat) : List OpenElement → Option Nat
  | [] => none
  | _ :: outer => some (begunFrom base outer)

/-- The entries of open elements and of what is finished inside them, in document order.  The texts still to come
are given by level. -/
def pending (base : Nat) (texts : Nat → List Char) : List OpenElement → List Entry
  | [] => []
  | e :: outer =>
    pending base (fun level => texts (level + 1)) outer ++
      ⟨innermost? base outer, e.uri, e.name, e.attributes, e.text ++ String.ofList (texts 0)⟩ ::
        (numberedAll (begunFrom base outer) (begunFrom base outer + 1) e.children.reverse).map Entry.of

/-- The texts directly inside the open elements in what follows, by level. -/
def textsOf (ts : List Token) (level : Nat) : List Char :=
  (inside level ts).flatMap Token.said

theorem Fits.head? {base : Nat} {stack : List OpenElement} {around : List (Nat × Tag)}
    (h : Fits base stack around) : around.head?.map Prod.fst = innermost? base stack := by
  cases h <;> rfl

namespace Partial

variable {p q : Partial} {around : List (Nat × Tag)} {t : Token} {ts : List Token} {e : Element}
  {texts : Nat → List Char}

/-- The entries of everything begun so far. -/
def entries (p : Partial) (texts : Nat → List Char) : List Entry :=
  (p.root.elim [] (Element.numbered none 0)).map Entry.of ++ pending (p.root.elim 0 Element.count) texts p.stack

/-- The entries of an element are added where it is put. -/
theorem entries_put (hinside : p.IsInside around) (hroom : p.HasRoom) : (p.put e).entries texts =
    p.entries texts ++ (Element.numbered (around.head?.map Prod.fst) p.begun e).map Entry.of := by
  rw [hinside.head?]
  obtain ⟨_ | ⟨parent, outer⟩, root⟩ := p
  · obtain rfl : root = none := hroom rfl
    simp [put, entries, pending, innermost?, begun, begunFrom]
  · have hnumber : ∀ b : Nat, b + 1 + countAll parent.children.reverse = b + (countAll parent.children + 1) := by
      intro b
      rw [countAll_reverse]
      omega
    simp [put, entries, pending, innermost?, begun, begunFrom, OpenElement.adopt, Element.numberedAll_append,
      numberedAll, hnumber]

/-- A text is added to that of the innermost open element. -/
theorem entries_addText {cs : List Char} (h0 : texts 0 = cs ++ textsOf ts 0)
    (hsucc : ∀ level, texts (level + 1) = textsOf ts (level + 1)) :
    (p.addText (String.ofList cs)).entries (textsOf ts) = p.entries texts := by
  obtain ⟨_ | ⟨e, outer⟩, root⟩ := p
  · rfl
  · simp [addText, entries, pending, h0, hsucc, String.append_assoc]

/-- **One token more**: what is known of the elements stays the same, whether it is known from what has been built
or from what is left. -/
theorem entries_after (hinside : p.IsInside around) (hallows : p.Allows around t) :
    p.entries (textsOf (t :: ts)) ++ (sitesFrom around p.begun (t :: ts)).map Site.entry =
      (p.after around t).entries (textsOf ts) ++
        (sitesFrom (aroundBehind around p.begun t) (p.after around t).begun ts).map Site.entry := by
  rw [begun_after hallows]
  cases t with
  | opening tag =>
    have htexts : textsOf (.opening tag :: ts) = fun level => textsOf ts (level + 1) := rfl
    have huri : (⟨tag, around, inside 0 ts⟩ : Site).uri? = (⟨tag, around, []⟩ : Site).uri? := rfl
    rw [htexts]
    simp [entries, after, pending, opened, numberedAll, sitesFrom, aroundBehind, Site.entry, Site.text,
      ← hinside.head?, textsOf, Token.tag?, huri]
  | empty tag =>
    have htexts : textsOf (.empty tag :: ts) = textsOf ts := rfl
    rw [htexts, after, entries_put hinside hallows.2]
    simp [opened, sitesFrom, aroundBehind, Site.entry, Site.text, OpenElement.close, Element.numbered, numberedAll,
      Entry.of, Token.tag?]
  | closing =>
    obtain ⟨_ | ⟨e, outer⟩, root⟩ := p
    · exact absurd rfl hallows.1
    · have hlast : textsOf (.closing :: ts) 0 = [] := rfl
      have htexts : (fun level => textsOf (.closing :: ts) (level + 1)) = textsOf ts := rfl
      have hput : (put (outside ⟨e :: outer, root⟩) e.close).entries (textsOf ts) = _ :=
        entries_put (isInside_outside hinside) hallows.2
      have hbegun : (⟨outer, root⟩ : Partial).begun = begunFrom (root.elim 0 Element.count) outer := rfl
      show _ = (put (outside _) _).entries _ ++ _
      rw [hput, (isInside_outside hinside).head?]
      simp [entries, outside, pending, hlast, htexts, sitesFrom, aroundBehind, Token.tag?, Element.numbered,
        OpenElement.close, Entry.of, hbegun]
  | text raw =>
    have hzero : textsOf (.text raw :: ts) 0 = resolved raw ++ textsOf ts 0 := rfl
    rw [after, entries_addText hzero fun _ => rfl]
    rfl
  | data raw =>
    have hzero : textsOf (.data raw :: ts) 0 = raw ++ textsOf ts 0 := rfl
    rw [after, entries_addText hzero fun _ => rfl]
    rfl
  | aside => rfl

/-- **The tree that a run ends with.** -/
theorem entries_buildAll (hinside : p.IsInside around) (h : p.buildAll ts = .ok q) (hclosed : q.stack = []) :
    (q.root.elim [] (Element.numbered none 0)).map Entry.of =
      p.entries (textsOf ts) ++ (sitesFrom around p.begun ts).map Site.entry := by
  induction ts generalizing p around with
  | nil =>
    obtain rfl := Except.ok.inj h
    rw [entries, hclosed, pending, List.append_nil, sitesFrom, List.map_nil, List.append_nil]
  | cons t ts ih =>
    cases hstep : p.step t with
    | error f =>
      rw [buildAll_cons_error hstep] at h
      cases h
    | ok next =>
      obtain ⟨hallows, rfl⟩ := (step_eq_ok_iff hinside).1 hstep
      rw [buildAll_cons hstep] at h
      rw [entries_after hinside hallows]
      exact ih (isInside_after hinside hallows) h

end Partial

end RemoteShell.Xml
