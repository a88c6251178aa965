import Mathlib.Algebra.Ring.Nat
import RemoteShell.Proofs.Xml.Structure

/-!
# The volume of a document

The volume of a document is the number of characters that its elements hold as texts.  Every character of them is
read from the source: a reference is longer than the character that it stands for, and what is dropped from a text
adds nothing.  So the volume is at most the length of the source (`parse_volume_le`).

One token adds at most its own characters to what has been built (`Partial.volume_after_le`), and the tokens that a
text is cut into hold no more characters than the text (`Cut.volume_le`).
-/

namespace RemoteShell.Xml

namespace Element

/-- The number of characters that some trees hold as texts. -/
def volumeAll (es : List Element) : Nat :=
  ((preorderAll es).map (·.text.length)).sum

/-- The number of characters that an element and all below it hold as texts. -/
def volume (e : Element) : Nat :=
  (e.preorder.map (·.text.length)).sum

theorem volume_eq (e : Element) : e.volume = e.text.length + volumeAll e.children := by
  rw [volume, preorder_eq, List.map_cons, List.sum_cons, volumeAll]

theorem volumeAll_cons (e : Element) (es : List Element) : volumeAll (e :: es) = e.volume + volumeAll es := by
  rw [volumeAll, preorderAll, List.map_append, List.sum_append, volume, volumeAll]

theorem volumeAll_reverse (es : List Element) : volumeAll es.reverse = volumeAll es := by
  induction es with
  | nil => rfl
  | cons e es ih =>
    rw [volumeAll_cons, ← ih, List.reverse_cons, volumeAll, preorderAll_append, List.map_append, List.sum_append,
      ← volumeAll, ← volumeAll, volumeAll_cons, Nat.add_comm]
    rfl

end Element

open Element (volumeAll)

/-- The number of characters of the texts of a document. -/
def Document.volume (d : Document) : Nat :=
  (d.elements.map (·.text.length)).sum

/-! ## Tokens -/

/-- The number of characters that a token can add to a text. -/
def Token.volume : Token → Nat
  | .text raw => raw.length
  | .data raw => raw.length
  | _ => 0

/-- The number of characters that some tokens can add to texts. -/
def volumeOf (ts : List Token) : Nat :=
  (ts.map Token.volume).sum

theorem volumeOf_append (ts us : List Token) : volumeOf (ts ++ us) = volumeOf ts + volumeOf us := by
  rw [volumeOf, List.map_append, List.sum_append, volumeOf, volumeOf]

theorem volumeOf_cons (t : Token) (ts : List Token) : volumeOf (t :: ts) = t.volume + volumeOf ts := by
  rw [volumeOf, List.map_cons, List.sum_cons, volumeOf]

theorem length_dropSpaces_le (cs : List Char) : (dropSpaces cs).length ≤ cs.length :=
  (List.dropWhile_suffix isSpace).length_le

theorem volumeOf_gapTokens_le (gap : List Char) : volumeOf (gapTokens gap) ≤ gap.length := by
  rw [gapTokens]
  split_ifs
  · exact Nat.zero_le _
  · have hback := length_dropSpaces_le (dropSpaces gap).reverse
    have hfront := length_dropSpaces_le gap
    rw [List.length_reverse] at hback
    rw [volumeOf_cons, Token.volume, trimSpaces, List.length_reverse]
    exact Nat.le_trans hback hfront

theorem Writes.volume_le {content : List Char} {t : Token} (h : Writes content t) : t.volume ≤ content.length := by
  cases t with
  | text => exact h.elim
  | data raw =>
    obtain rfl : content = _ := h
    simp only [Token.volume, List.length_append]
    omega
  | _ => exact Nat.zero_le _

/-- The tokens that a text is cut into have no more characters than the text. -/
theorem Cut.volume_le {cs : List Char} {ts : List Token} (h : Cut cs ts) : volumeOf ts ≤ cs.length := by
  induction h with
  | last => exact volumeOf_gapTokens_le _
  | @cons gap content rest t ts _ hcontent _ ih =>
    have hgap := volumeOf_gapTokens_le gap
    have htoken := hcontent.volume_le
    rw [volumeOf_append, volumeOf_cons]
    simp only [List.length_append, List.length_cons]
    omega

/-- A reference is longer than its character. -/
theorem length_unescapeFrom_le {cs text : List Char} {place : Nat} {inside : Option (List Char)}
    (h : unescapeFrom place inside cs = .ok text) : text.length ≤ cs.length := by
  induction cs generalizing place inside text with
  | nil =>
    cases inside with
    | none => exact (congrArg List.length (Except.ok.inj h)).symm.le
    | some name => cases h
  | cons c rest ih =>
    -- one character gives at most one
    have hone : ∀ x, (unescapeFrom (place + c.utf8Size) none rest).map (x :: ·) = .ok text →
        text.length ≤ (c :: rest).length := by
      intro x hx
      cases hrest : unescapeFrom (place + c.utf8Size) none rest with
      | error f =>
        rw [hrest] at hx
        cases hx
      | ok more =>
        rw [hrest] at hx
        obtain rfl := Except.ok.inj hx
        exact Nat.succ_le_succ (ih hrest)
    cases inside with
    | none =>
      simp only [unescapeFrom] at h
      split_ifs at h
      · exact Nat.le_succ_of_le (ih h)
      · exact hone c h
    | some name =>
      simp only [unescapeFrom] at h
      split_ifs at h
      · cases hname : resolve (place - byteLength name) name.reverse with
        | error f =>
          rw [hname] at h
          cases h
        | ok x =>
          rw [hname] at h
          exact hone x h
      · exact Nat.le_succ_of_le (ih h)

/-! ## What has been built -/

/-- The number of characters that an open element holds, with its finished children. -/
def OpenElement.volume (e : OpenElement) : Nat :=
  e.text.length + volumeAll e.children

theorem OpenElement.volume_close (e : OpenElement) : e.close.volume = e.volume := by
  rw [Element.volume_eq, close, Element.volumeAll_reverse, volume]

namespace Partial

variable {p q : Partial} {around : List (Nat × Tag)}

/-- The number of characters in what has been built. -/
def volume (p : Partial) : Nat :=
  (p.stack.map OpenElement.volume).sum + (p.root.map Element.volume).getD 0

theorem volume_put_le (p : Partial) (e : Element) : (p.put e).volume ≤ p.volume + e.volume := by
  obtain ⟨_ | ⟨parent, outer⟩, root⟩ := p
  · simp only [put, volume, List.map_nil, List.sum_nil, Option.map_some, Option.getD_some]
    omega
  · simp only [put, volume, OpenElement.adopt, OpenElement.volume, Element.volumeAll_cons, List.map_cons, List.sum_cons]
    omega

theorem volume_addText_le (p : Partial) (text : String) : (p.addText text).volume ≤ p.volume + text.length := by
  obtain ⟨_ | ⟨e, outer⟩, root⟩ := p
  · exact Nat.le_add_right _ _
  · simp only [addText, volume, OpenElement.volume, List.map_cons, List.sum_cons, String.length_append]
    omega

/-- **One token adds no more than its own characters.** -/
theorem volume_after_le {t : Token} (hallows : p.Allows around t) :
    (p.after around t).volume ≤ p.volume + t.volume := by
  cases t with
  | opening tag =>
    refine Nat.le_of_eq ?_
    simp only [after, volume, List.map_cons, List.sum_cons]
    exact congrArg (· + _) (Nat.zero_add _)
  | empty tag => exact volume_put_le p _
  | closing =>
    obtain ⟨_ | ⟨e, outer⟩, root⟩ := p
    · exact absurd rfl hallows.1
    · refine Nat.le_trans (volume_put_le _ _) (Nat.le_of_eq ?_)
      rw [OpenElement.volume_close]
      simp only [outside, volume, List.tail_cons, List.map_cons, List.sum_cons, Token.volume]
      omega
  | text raw =>
    obtain ⟨_ | ⟨e, outer⟩, root⟩ := p
    · exact Nat.le_add_right _ _
    · have hraw := length_unescapeFrom_le (unescape_eq_ok (hallows (List.cons_ne_nil e outer)))
      refine Nat.le_trans (volume_addText_le _ _) (Nat.add_le_add_left ?_ _)
      rwa [String.length_ofList]
  | data raw =>
    refine Nat.le_trans (volume_addText_le _ _) (Nat.add_le_add_left ?_ _)
    rw [String.length_ofList]
    exact Nat.le_refl _
  | aside => exact Nat.le_add_right _ _

theorem volume_buildAll_le {ts : List Token} (hinside : p.IsInside around) (h : p.buildAll ts = .ok q) :
    q.volume ≤ p.volume + volumeOf ts := by
  induction ts generalizing p around with
  | nil => exact (congrArg volume (Except.ok.inj h)).symm.le
  | cons t ts ih =>
    cases hstep : p.step t with
    | error f =>
      rw [buildAll_cons_error hstep] at h
      cases h
    | ok next =>
      rw [buildAll_cons hstep] at h
      obtain ⟨hallows, rfl⟩ := (step_eq_ok_iff hinside).1 hstep
      have hrest := ih (isInside_after hinside hallows) h
      have hone := volume_after_le hallows
      rw [volumeOf_cons]
      omega

end Partial

/-- **A document has no more text than its source.** -/
theorem parse_volume_le {source : String} {d : Document} (h : Document.parse source = .ok d) :
    d.volume ≤ source.length := by
  obtain ⟨hfault, -, hbuild⟩ := parse_eq_ok_iff.1 h
  have hinside : Partial.empty.IsInside [] := .nil
  have hbuilt := Partial.volume_buildAll_le hinside hbuild
  have hcut := (cut_tokens hfault).volume_le
  have hbody : (bodyOf source).length ≤ source.length := by
    rw [bodyOf, ← String.length_toList]
    split_ifs
    · rw [List.length_tail]
      exact Nat.sub_le _ _
    · exact Nat.le_refl _
  have hvolume : d.volume = Partial.volume ⟨[], some d.root⟩ := by
    rw [Document.volume, Document.elements, Element.descendants_eq_preorder]
    exact (Nat.zero_add _).symm
  rw [hvolume]
  refine Nat.le_trans hbuilt (Nat.le_trans ?_ (Nat.le_trans hcut hbody))
  exact (Nat.zero_add _).le

end RemoteShell.Xml
