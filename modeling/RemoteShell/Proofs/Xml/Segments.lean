import Mathlib.Data.List.TakeWhile
import RemoteShell.Proofs.Xml.Markup
import RemoteShell.Proofs.Xml.Sites

/-!
# How a text is cut into tokens

A text is cut into pieces of markup and the gaps between them (`Cut`).  Each piece of markup is one token, and says
what the token holds; a gap is the token of what is left of it without the blanks at its ends, or no token if
nothing is left.  Data is the inside of a CDATA section, blanks included.  A text that is read to its end without a
fault is cut into the tokens that it gives (`cut_tokens`).

The reader refuses closing tags that close nothing, so among its tokens every closing tag closes an element, also
when a fault ends reading (`closable_tokens`).
-/

namespace RemoteShell.Xml

/-- What stands between `<` and `>` is read as a token. -/
def Writes (content : List Char) : Token → Prop
  | .opening tag => content = tag.name ++ tag.rest
  | .empty tag => content = tag.name ++ tag.rest ++ ['/']
  | .closing => content.head? = some '/'
  | .data raw => content = "![CDATA[".toList ++ raw ++ "]]".toList
  | .aside => content.head? = some '!' ∨ content.getLast? = some '?'
  | .text _ => False

/-- A text is cut into tokens. -/
inductive Cut : List Char → List Token → Prop
  | last {gap : List Char} (hgap : '<' ∉ gap) : Cut gap (gapTokens gap)
  | cons {gap content rest : List Char} {t : Token} {ts : List Token} (hgap : '<' ∉ gap)
      (hcontent : Writes content t) (hrest : Cut rest ts) :
      Cut (gap ++ '<' :: (content ++ '>' :: rest)) (gapTokens gap ++ t :: ts)

/-! ## One character -/

/-- What has been read behind the `<` of open markup. -/
def Mode.seen? : Mode → Option (List Char)
  | text _ => none
  | markup => some []
  | tag _ chars => some chars.reverse
  | bang => some ['!']
  | instruction chars => some chars.reverse
  | comment chars => some chars.reverse
  | data chars => some chars.reverse
  | doctype _ chars => some chars.reverse

/-- What one character does in a mode: the token that it finishes, and the next mode. -/
inductive Moves (mode : Mode) (c : Char) : Option Token → Mode → Prop
  | blank (hmode : mode = .text []) (hc : isSpace c = true) : Moves mode c none (.text [])
  | text {chars : List Char} (hmode : mode = .text chars) (hopen : c ≠ '<')
      (hc : chars = [] → isSpace c = false) : Moves mode c none (.text (c :: chars))
  | markup (hmode : mode = .text []) (hc : c = '<') : Moves mode c none .markup
  | gap {chars : List Char} (hmode : mode = .text chars) (hchars : chars ≠ []) (hc : c = '<') :
      Moves mode c (some (.text (dropSpaces chars).reverse)) .markup
  | inside {seen : List Char} {mode' : Mode} (hmode : mode.seen? = some seen)
      (hmode' : mode'.seen? = some (seen ++ [c])) : Moves mode c none mode'
  | finish {seen : List Char} {t : Token} (hmode : mode.seen? = some seen) (hc : c = '>')
      (ht : Writes seen t) : Moves mode c (some t) (.text [])

/-- The tags open behind a token, or where none is finished. -/
def Leads (opened : List (List Char)) : Option Token → List (List Char) → Prop
  | some (.opening tag), opened' => opened' = tag.name :: opened
  | some .closing, opened' => ∃ name, opened = name :: opened'
  | _, opened' => opened' = opened

theorem writes_ofContent (content : List Char) :
    (Tag.ofContent content).name ++ (Tag.ofContent content).rest = content :=
  List.takeWhile_append_dropWhile

namespace Lexer

/-- A finished tag is written as it is, and opens or closes what it says. -/
theorem tagToken_spec {opened opened' : List (List Char)} {content : List Char} {t : Token}
    (h : tagToken opened content = .ok (t, opened')) : Writes content t ∧ Leads opened (some t) opened' := by
  rw [tagToken.eq_def] at h
  split at h
  · rw [closing.eq_def] at h
    simp only at h
    split at h
    · cases h
    · rename_i expected rest
      split_ifs at h <;> cases h <;> exact ⟨rfl, expected, rfl⟩
  · split_ifs at h with hlast
    · cases h
      obtain ⟨front, rfl⟩ := List.getLast?_eq_some_iff.1 hlast
      refine ⟨?_, rfl⟩
      rw [List.dropLast_concat]
      exact congrArg (· ++ ['/']) (writes_ofContent front).symm
    · cases h
      exact ⟨(writes_ofContent content).symm, rfl⟩

theorem writes_commentToken {chars : List Char} {t : Token} (h : commentToken chars = .ok t) :
    Writes chars.reverse t ∧ ∀ opened, Leads opened (some t) opened := by
  rw [commentToken] at h
  split_ifs at h with hprefix
  obtain rfl := Except.ok.inj h
  obtain ⟨rest, hrest⟩ := List.isPrefixOf_iff_prefix.1 hprefix
  exact ⟨.inl (by rw [← hrest]; rfl), fun _ => rfl⟩

/-- Only an exclamation mark is one in upper case. -/
theorem eq_of_toUpper {c : Char} (h : c.toUpper = '!') : c = '!' := by
  delta Char.toUpper at h
  split_ifs at h with hlower
  · exfalso
    obtain ⟨hlow, hhigh⟩ := hlower
    have hlow : 97 ≤ c.toNat := hlow
    have hhigh : c.toNat ≤ 122 := hhigh
    have hval := congrArg UInt32.toNat (congrArg Char.val h)
    simp at hval
    omega
  · exact h

theorem writes_doctypeToken {chars : List Char} {t : Token} (h : doctypeToken chars = .ok t) :
    Writes chars.reverse t ∧ ∀ opened, Leads opened (some t) opened := by
  rw [doctypeToken] at h
  split_ifs at h with hname
  obtain rfl := Except.ok.inj h
  refine ⟨.inl ?_, fun _ => rfl⟩
  cases hchars : chars.reverse with
  | nil =>
    rw [hchars] at hname
    cases hname
  | cons c rest =>
    rw [hchars, List.take_succ_cons, List.map_cons] at hname
    exact congrArg some (eq_of_toUpper (List.cons.inj hname).1)

theorem writes_dataToken {chars : List Char} {t : Token} (h : dataToken chars = .ok t)
    (hend : chars.take 2 = [']', ']']) : Writes chars.reverse t ∧ ∀ opened, Leads opened (some t) opened := by
  rw [dataToken] at h
  split_ifs at h with hprefix
  obtain rfl := Except.ok.inj h
  refine ⟨?_, fun _ => rfl⟩
  obtain ⟨rest, hrest⟩ := List.isPrefixOf_iff_prefix.1 hprefix
  -- the end does not reach into the front, which ends in another character
  have hchars : chars = rest.reverse ++ "![CDATA[".toList.reverse := by
    rw [← List.reverse_append, hrest, List.reverse_reverse]
  match hback : rest.reverse with
  | [] =>
    rw [hchars, hback] at hend
    cases hend
  | [a] =>
    rw [hchars, hback] at hend
    cases hend
  | a :: b :: front =>
    rw [hchars, hback] at hend ⊢
    obtain ⟨rfl, rfl⟩ : a = ']' ∧ b = ']' := by simpa using hend
    simp [Writes]

/-- A character of a tag. -/
theorem stepTag_spec {l l' : Lexer} {next : Nat} {quote : Option Char} {chars : List Char} {c : Char}
    {out : Option Placed} (hmode : l.mode.seen? = some chars.reverse)
    (h : l.stepTag next quote chars c = .ok (l', out)) :
    Moves l.mode c (out.map Prod.snd) l'.mode ∧ Leads l.opened (out.map Prod.snd) l'.opened := by
  cases quote with
  | some q =>
    cases h
    exact ⟨.inside hmode (congrArg some List.reverse_cons), rfl⟩
  | none =>
    rw [stepTag] at h
    by_cases hc : c = '>'
    · rw [if_pos hc] at h
      cases htag : tagToken l.opened chars.reverse with
      | error f =>
        rw [htag] at h
        cases h
      | ok result =>
        rw [htag] at h
        cases h
        obtain ⟨hwrites, hleads⟩ := tagToken_spec htag
        exact ⟨.finish hmode hc hwrites, hleads⟩
    · rw [if_neg hc] at h
      cases h
      exact ⟨.inside hmode (congrArg some List.reverse_cons), rfl⟩

/-- The `>` that ends other markup. -/
theorem finish_spec {l l' : Lexer} {next : Nat} {seen : List Char} {c : Char} {out : Option Placed}
    {token : Except Fault Token} (hmode : l.mode.seen? = some seen) (hc : c = '>')
    (htoken : ∀ t, token = .ok t → Writes seen t ∧ Leads l.opened (some t) l.opened)
    (h : (token.map fun t => (l.finish next l.opened, some (l.mark, t))) = .ok (l', out)) :
    Moves l.mode c (out.map Prod.snd) l'.mode ∧ Leads l.opened (out.map Prod.snd) l'.opened := by
  cases token with
  | error f => cases h
  | ok t =>
    cases h
    obtain ⟨hwrites, hleads⟩ := htoken t rfl
    exact ⟨.finish hmode hc hwrites, hleads⟩

/-- **What one character does.** -/
theorem step_spec {l l' : Lexer} {c : Char} {out : Option Placed} (h : l.step c = .ok (l', out)) :
    Moves l.mode c (out.map Prod.snd) l'.mode ∧ Leads l.opened (out.map Prod.snd) l'.opened := by
  obtain ⟨place, mark, opened, mode⟩ := l
  cases mode with
  | text chars =>
    simp only [step] at h
    split_ifs at h with hc hchars hblank <;> cases h
    · exact ⟨.markup (by simpa using hchars) hc, rfl⟩
    · exact ⟨.gap rfl (by simpa using hchars) hc, rfl⟩
    · exact ⟨.blank (by simp_all) (by simp_all), rfl⟩
    · refine ⟨.text rfl hc fun hnil => ?_, rfl⟩
      simpa [hnil] using hblank
  | markup =>
    simp only [step] at h
    split_ifs at h with hbang hquestion
    · cases h
      exact ⟨.inside rfl (by rw [hbang]; rfl), rfl⟩
    · cases h
      exact ⟨.inside rfl rfl, rfl⟩
    · exact stepTag_spec rfl h
  | tag quote chars => exact stepTag_spec rfl h
  | bang =>
    simp only [step] at h
    split_ifs at h <;> cases h <;> exact ⟨.inside rfl rfl, rfl⟩
  | instruction chars =>
    simp only [step] at h
    split_ifs at h with hend hshort
    · cases h
    · simp only [Bool.and_eq_true, decide_eq_true_eq] at hend
      refine finish_spec rfl hend.1 (fun t ht => ?_) h
      obtain rfl := Except.ok.inj ht
      exact ⟨.inr (by rw [List.getLast?_reverse, hend.2]), rfl⟩
    · cases h
      exact ⟨.inside rfl (congrArg some List.reverse_cons), rfl⟩
  | comment chars =>
    simp only [step] at h
    split_ifs at h with hend
    · simp only [Bool.and_eq_true, decide_eq_true_eq] at hend
      refine finish_spec rfl hend.1.1 (fun t ht => ?_) h
      exact (writes_commentToken ht).imp_right fun hleads => hleads opened
    · cases h
      exact ⟨.inside rfl (congrArg some List.reverse_cons), rfl⟩
  | data chars =>
    simp only [step] at h
    split_ifs at h with hend
    · simp only [Bool.and_eq_true, decide_eq_true_eq] at hend
      refine finish_spec rfl hend.1 (fun t ht => ?_) h
      exact (writes_dataToken ht hend.2).imp_right fun hleads => hleads opened
    · cases h
      exact ⟨.inside rfl (congrArg some List.reverse_cons), rfl⟩
  | doctype depth chars =>
    simp only [step] at h
    split_ifs at h with hend
    · simp only [Bool.and_eq_true, decide_eq_true_eq] at hend
      refine finish_spec rfl hend.1 (fun t ht => ?_) h
      exact (writes_doctypeToken ht).imp_right fun hleads => hleads opened
    all_goals
      cases h
      exact ⟨.inside rfl (congrArg some List.reverse_cons), rfl⟩

/-- A step and what follows it. -/
theorem run_cons_of_step {l l' : Lexer} {c : Char} {out : Option Placed} (h : l.step c = .ok (l', out))
    (cs : List Char) : l.run (c :: cs) = (out.toList ++ (l'.run cs).1, (l'.run cs).2) := by
  rw [run, h]
  cases out <;> rfl

/-! ## Closing tags -/

/-- **Every closing tag closes an element**, whether or not a fault ends reading. -/
theorem closable_run (l : Lexer) (cs : List Char) :
    Closable l.opened.length ((l.run cs).1.map Prod.snd) := by
  induction cs generalizing l with
  | nil =>
    obtain ⟨place, mark, opened, mode⟩ := l
    cases mode with
    | text chars => cases chars <;> trivial
    | _ => trivial
  | cons c cs ih =>
    cases hstep : l.step c with
    | error f =>
      rw [run, hstep]
      trivial
    | ok result =>
      obtain ⟨l', out⟩ := result
      have hleads := (step_spec hstep).2
      have hrest := ih l'
      rw [run_cons_of_step hstep]
      match out, hleads with
      | none, hleads => exact hleads ▸ hrest
      | some (_, .opening tag), hleads =>
        rw [show l'.opened = tag.name :: l.opened from hleads] at hrest
        exact hrest
      | some (_, .closing), ⟨name, hleads⟩ =>
        rw [hleads]
        exact ⟨Nat.succ_ne_zero _, hrest⟩
      | some (_, .empty tag), hleads => exact hleads ▸ hrest
      | some (_, .text raw), hleads => exact hleads ▸ hrest
      | some (_, .data raw), hleads => exact hleads ▸ hrest
      | some (_, .aside), hleads => exact hleads ▸ hrest

end Lexer

/-! ## Cutting -/

/-- What a gap is read as, from what is kept of it: its leading blanks are dropped when they come. -/
theorem gapTokens_eq {blanks chars : List Char} (hblanks : ∀ c ∈ blanks, isSpace c = true)
    (hfirst : ∀ c, chars.getLast? = some c → isSpace c = false) : gapTokens (blanks ++ chars.reverse) =
      if chars = [] then [] else [.text (dropSpaces chars).reverse] := by
  have hdrop : dropSpaces (blanks ++ chars.reverse) = dropSpaces chars.reverse :=
    List.dropWhile_append_of_pos hblanks
  rw [gapTokens, trimSpaces, hdrop]
  rcases List.eq_nil_or_concat' chars with rfl | ⟨front, b, rfl⟩
  · rfl
  · have hb : isSpace b = false := hfirst b List.getLast?_concat
    have hsome : dropSpaces (front ++ [b]) ≠ [] := by
      intro hnil
      have hblank := List.dropWhile_eq_nil_iff.1 hnil b (List.mem_append_right front List.mem_cons_self)
      rw [hb] at hblank
      cases hblank
    have hfront : dropSpaces (front ++ [b]).reverse = (front ++ [b]).reverse := by
      rw [List.reverse_concat]
      exact List.dropWhile_cons_of_neg (by rw [hb]; exact Bool.false_ne_true)
    rw [hfront, List.reverse_reverse, if_neg (mt List.reverse_eq_nil_iff.1 hsome), if_neg (by simp)]

theorem not_mem_gap {blanks chars : List Char} (hblanks : ∀ c ∈ blanks, isSpace c = true) (hopen : '<' ∉ chars) :
    '<' ∉ blanks ++ chars.reverse := by
  rw [List.mem_append, List.mem_reverse, not_or]
  exact ⟨fun hmem => absurd (hblanks _ hmem) (by decide), hopen⟩

/-- What a mode keeps of a gap has no `<` in it and does not begin with a blank. -/
def Mode.Keeps (mode : Mode) : Prop :=
  ∀ chars, mode = .text chars → '<' ∉ chars ∧ ∀ c, chars.getLast? = some c → isSpace c = false

/-- What follows is cut into tokens together with what a mode holds: a gap without its leading blanks, or a piece of
markup. -/
structure Mode.Cuts (mode : Mode) (cs : List Char) (ts : List Token) : Prop where
  gap : ∀ blanks chars, mode = .text chars → (∀ c ∈ blanks, isSpace c = true) →
    Cut (blanks ++ chars.reverse ++ cs) ts
  markup : ∀ seen, mode.seen? = some seen → ∃ content rest t us, seen ++ cs = content ++ '>' :: rest ∧
    ts = t :: us ∧ Writes content t ∧ Cut rest us

section

variable {mode mode' : Mode} {c : Char} {out : Option Token} {cs : List Char} {ts : List Token}

theorem keeps_nil : Mode.Keeps (.text []) := by
  rintro _ ⟨rfl⟩
  exact ⟨List.not_mem_nil, fun _ hlast => by cases hlast⟩

theorem Moves.keeps (h : Moves mode c out mode') (hkeeps : mode.Keeps) : mode'.Keeps := by
  cases h with
  | blank => exact keeps_nil
  | finish => exact keeps_nil
  | @text chars hmode hopen hfirst =>
    obtain ⟨hkept, hlast⟩ := hkeeps chars hmode
    rintro _ ⟨rfl⟩
    refine ⟨by simp [hkept, Ne.symm hopen], fun x hx => ?_⟩
    cases chars with
    | nil => exact Option.some.inj hx ▸ hfirst rfl
    | cons d chars => exact hlast x (by rwa [List.getLast?_cons_cons] at hx)
  | markup => exact fun _ hmode' => by cases hmode'
  | gap => exact fun _ hmode' => by cases hmode'
  | inside hmode hmode' =>
    rintro _ rfl
    cases hmode'

/-- Markup behind a gap. -/
theorem Mode.Cuts.cut {gap : List Char} (h : Mode.Cuts .markup cs ts) (hgap : '<' ∉ gap) :
    Cut (gap ++ '<' :: cs) (gapTokens gap ++ ts) := by
  obtain ⟨content, rest, t, us, hcontent, rfl, hwrites, hcut⟩ := h.markup [] rfl
  rw [List.nil_append] at hcontent
  rw [hcontent]
  exact .cons hgap hwrites hcut

/-- **One character more.** -/
theorem Moves.cuts (h : Moves mode c out mode') (hkeeps : mode.Keeps) (hrest : mode'.Cuts cs ts) :
    mode.Cuts (c :: cs) (out.toList ++ ts) := by
  cases h with
  | blank hmode hc =>
    subst hmode
    refine ⟨?_, fun _ hseen => by cases hseen⟩
    rintro blanks _ ⟨rfl⟩ hblanks
    have hmore : ∀ x ∈ blanks ++ [c], isSpace x = true :=
      List.forall_mem_append.2 ⟨hblanks, by simpa using hc⟩
    simpa using hrest.gap (blanks ++ [c]) [] rfl hmore
  | @text chars hmode =>
    subst hmode
    refine ⟨?_, fun _ hseen => by cases hseen⟩
    rintro blanks _ ⟨rfl⟩ hblanks
    simpa using hrest.gap blanks (c :: chars) rfl hblanks
  | markup hmode hc =>
    subst hmode hc
    refine ⟨?_, fun _ hseen => by cases hseen⟩
    rintro blanks _ ⟨rfl⟩ hblanks
    obtain ⟨hopen, hfirst⟩ := hkeeps [] rfl
    have hall := hrest.cut (not_mem_gap hblanks hopen)
    rwa [gapTokens_eq hblanks hfirst, if_pos rfl] at hall
  | @gap chars hmode hchars hc =>
    subst hmode hc
    refine ⟨?_, fun _ hseen => by cases hseen⟩
    rintro blanks _ ⟨rfl⟩ hblanks
    obtain ⟨hopen, hfirst⟩ := hkeeps chars rfl
    have hall := hrest.cut (not_mem_gap hblanks hopen)
    rwa [gapTokens_eq hblanks hfirst, if_neg hchars] at hall
  | @inside seen _ hmode hmode' =>
    refine ⟨?_, fun seen' hseen => ?_⟩
    · rintro blanks chars rfl
      cases hmode
    · obtain rfl := Option.some.inj (hseen.symm.trans hmode)
      have hmore := hrest.markup _ hmode'
      rwa [List.append_assoc] at hmore
  | @finish seen t hmode hc hwrites =>
    subst hc
    refine ⟨?_, fun seen' hseen => ?_⟩
    · rintro blanks chars rfl
      cases hmode
    · obtain rfl := Option.some.inj (hseen.symm.trans hmode)
      exact ⟨seen', cs, t, ts, rfl, rfl, hwrites, hrest.gap [] [] rfl fun _ hc => by cases hc⟩

end

/-- A text that is read to its end without a fault is cut into its tokens, also when a piece of it has been read
before. -/
theorem Lexer.cut_run {l : Lexer} {cs : List Char} (hkeeps : l.mode.Keeps) (h : (l.run cs).2 = none) :
    l.mode.Cuts cs ((l.run cs).1.map Prod.snd) := by
  induction cs generalizing l with
  | nil =>
    obtain ⟨place, mark, opened, mode⟩ := l
    constructor
    · rintro blanks chars rfl hblanks
      obtain ⟨hopen, hfirst⟩ := hkeeps chars rfl
      have htokens : ((run ⟨place, mark, opened, .text chars⟩ []).1.map Prod.snd) =
          gapTokens (blanks ++ chars.reverse) := by
        rw [gapTokens_eq hblanks hfirst]
        cases chars <;> rfl
      rw [htokens, List.append_nil]
      exact .last (not_mem_gap hblanks hopen)
    · intro seen hseen
      cases mode <;> cases h
      cases hseen
  | cons c cs ih =>
    cases hstep : l.step c with
    | error f =>
      rw [run, hstep] at h
      cases h
    | ok result =>
      obtain ⟨l', out⟩ := result
      have hmoves := (step_spec hstep).1
      rw [run_cons_of_step hstep] at h ⊢
      have hall := hmoves.cuts hkeeps (ih (hmoves.keeps hkeeps) h)
      rw [List.map_append]
      cases out <;> exact hall

/-- **Every closing tag of a text closes an element.** -/
theorem closable_tokens (source : String) : Closable 0 ((tokens source).1.map Prod.snd) :=
  Lexer.closable_run .start _

/-- The characters of a text without a byte order mark in front. -/
def bodyOf (source : String) : List Char :=
  if source.toList.head? = some byteOrderMark then source.toList.tail else source.toList

/-- **A text that is read to its end is cut into its tokens.** -/
theorem cut_tokens {source : String} (h : (tokens source).2 = none) :
    Cut (bodyOf source) ((tokens source).1.map Prod.snd) :=
  (Lexer.cut_run (l := .start) keeps_nil h).gap [] [] rfl fun _ hc => by cases hc

end RemoteShell.Xml
