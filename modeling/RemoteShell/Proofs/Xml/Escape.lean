import Mathlib.Data.List.TakeWhile
import RemoteShell.Xml.Token

/-!
# Escaping

Escaped characters have no role in markup, and resolving the references gives back what was escaped
(`unescape_escapeChars`).  Blanks are escaped as they are, and an escaped character neither begins nor ends
with a blank unless it is one, so trimming and escaping commute (`trimSpaces_escapeChars`).

Escaping and trimming leave a text as it is that is *plain*: it has neither blanks nor characters with a
role in markup.
-/

namespace RemoteShell.Xml

/-- Characters with entities for those that have a role in markup. -/
def escapeChars (cs : List Char) : List Char :=
  cs.flatMap escapeChar

/-- Without the blanks at both ends. -/
def trimSpaces (cs : List Char) : List Char :=
  (dropSpaces (dropSpaces cs).reverse).reverse

/-- A text without the blanks of XML at both ends. -/
def trimmed (s : String) : String :=
  String.ofList (trimSpaces s.toList)

theorem toList_escape (s : String) : (escape s).toList = escapeChars s.toList := by
  rw [escape, String.toList_ofList, escapeChars]

theorem escapeChars_cons (c : Char) (cs : List Char) :
    escapeChars (c :: cs) = escapeChar c ++ escapeChars cs := by
  rw [escapeChars, List.flatMap_cons, escapeChars]

/-! ## Entities -/

/-- The characters that have a role in markup. -/
def special : List Char := ['&', '<', '>', '"', '\'']

/-- Whether a text has neither blanks nor characters with a role in markup. -/
def isPlain (cs : List Char) : Bool :=
  cs.all fun c => !(isSpace c || special.contains c)

theorem escapeChar_of_not_mem {c : Char} (h : c ∉ special) : escapeChar c = [c] := by
  simp only [special, List.mem_cons, List.not_mem_nil, or_false, not_or] at h
  obtain ⟨hamp, hlt, hgt, hquot, hapos⟩ := h
  unfold escapeChar
  split <;> first | rfl | contradiction

/-- **What escaping does to a character.**  It leaves it as it is or puts the entity that stands for it, whose
name consists of letters. -/
theorem escapeChar_cases (c : Char) :
    (escapeChar c = [c] ∧ c ∉ special) ∨
      ∃ name, entity? name = some c ∧ escapeChar c = '&' :: (name ++ [';']) ∧
        ∀ x ∈ name, x.isAlpha = true := by
  by_cases hc : c ∈ special
  · simp only [special, List.mem_cons, List.not_mem_nil, or_false] at hc
    rcases hc with rfl | rfl | rfl | rfl | rfl
    · exact .inr ⟨['a', 'm', 'p'], rfl, rfl, by simp⟩
    · exact .inr ⟨['l', 't'], rfl, rfl, by simp⟩
    · exact .inr ⟨['g', 't'], rfl, rfl, by simp⟩
    · exact .inr ⟨['q', 'u', 'o', 't'], rfl, rfl, by simp⟩
    · exact .inr ⟨['a', 'p', 'o', 's'], rfl, rfl, by simp⟩
  · exact .inl ⟨escapeChar_of_not_mem hc, hc⟩

/-- Escaping leaves no character that has a role in markup, but for the ampersands of entities. -/
theorem not_mem_escapeChars {x : Char} (hx : x ∈ special) (hamp : x ≠ '&') (cs : List Char) :
    x ∉ escapeChars cs := by
  intro hmem
  obtain ⟨c, -, hc⟩ := List.mem_flatMap.1 hmem
  rcases escapeChar_cases c with ⟨hsame, hplain⟩ | ⟨name, -, hentity, hletters⟩
  · rw [hsame, List.mem_singleton] at hc
    exact hplain (hc ▸ hx)
  · simp only [hentity, List.mem_cons, List.mem_append, List.not_mem_nil, or_false] at hc
    rcases hc with hc | hc | hc
    · exact hamp hc
    · have hletter := hletters x hc
      simp only [special, List.mem_cons, List.not_mem_nil, or_false] at hx
      rcases hx with rfl | rfl | rfl | rfl | rfl <;> exact absurd hletter (by decide)
    · subst hc
      exact absurd hx (by decide)

/-! ### One character after the other -/

/-- A text with some characters in place of every occurrence of one. -/
def replaceChar (c : Char) (instead cs : List Char) : List Char :=
  cs.flatMap fun x => if x = c then instead else [x]

theorem replaceChar_append (c : Char) (instead cs ds : List Char) :
    replaceChar c instead (cs ++ ds) = replaceChar c instead cs ++ replaceChar c instead ds := by
  simp only [replaceChar, List.flatMap_append]

theorem replaceChar_singleton {c x : Char} (h : x ≠ c) (instead : List Char) :
    replaceChar c instead [x] = [x] := by
  simp [replaceChar, h]

/-- **Escaping is replacing.**  The characters may be replaced one kind after the other, if ampersands come
first. -/
theorem escapeChars_eq_replaceChar (cs : List Char) : escapeChars cs =
    replaceChar '\'' "&apos;".toList (replaceChar '"' "&quot;".toList (replaceChar '>' "&gt;".toList
      (replaceChar '<' "&lt;".toList (replaceChar '&' "&amp;".toList cs)))) := by
  induction cs with
  | nil => rfl
  | cons c cs ih =>
    rw [escapeChars_cons, ih, ← List.singleton_append (l := cs)]
    simp only [replaceChar_append]
    congr 1
    by_cases hc : c ∈ special
    · simp only [special, List.mem_cons, List.not_mem_nil, or_false] at hc
      rcases hc with rfl | rfl | rfl | rfl | rfl <;> decide
    · rw [escapeChar_of_not_mem hc]
      simp only [special, List.mem_cons, List.not_mem_nil, or_false, not_or] at hc
      obtain ⟨hamp, hlt, hgt, hquot, hapos⟩ := hc
      rw [replaceChar_singleton hamp, replaceChar_singleton hlt, replaceChar_singleton hgt,
        replaceChar_singleton hquot, replaceChar_singleton hapos]

/-! ## Resolving references -/

/-- A reference that has been read up to its semicolon is resolved. -/
theorem unescapeFrom_name {name : List Char} {c : Char} (hname : ∀ x ∈ name, x.isAlpha = true)
    (seen rest : List Char) (hc : ∀ start, resolve start (seen.reverse ++ name) = .ok c) (place : Nat) :
    ∃ place', unescapeFrom place (some seen) (name ++ ';' :: rest) =
      (unescapeFrom place' none rest).map (c :: ·) := by
  induction name generalizing seen place with
  | nil =>
    rw [List.append_nil] at hc
    refine ⟨place + Char.utf8Size ';', ?_⟩
    rw [List.nil_append, unescapeFrom]
    simp only [Char.reduceEq, if_false, if_true, hc]
    cases unescapeFrom (place + Char.utf8Size ';') none rest <;> rfl
  | cons x name ih =>
    have hletter : x.isAlpha = true := hname x List.mem_cons_self
    have hamp : x ≠ '&' := by
      rintro rfl
      exact absurd hletter (by decide)
    have hsemicolon : x ≠ ';' := by
      rintro rfl
      exact absurd hletter (by decide)
    obtain ⟨place', hrest⟩ := ih (fun y hy => hname y (List.mem_cons_of_mem x hy)) (x :: seen)
      (fun start => by simpa using hc start) (place + x.utf8Size)
    refine ⟨place', ?_⟩
    rw [List.cons_append, unescapeFrom]
    simp only [hamp, hsemicolon, if_false]
    exact hrest

/-- An escaped character is read as the character itself. -/
theorem unescapeFrom_escapeChar (c : Char) (rest : List Char) (place : Nat) :
    ∃ place', unescapeFrom place none (escapeChar c ++ rest) =
      (unescapeFrom place' none rest).map (c :: ·) := by
  rcases escapeChar_cases c with ⟨hsame, hplain⟩ | ⟨name, hentity, hescaped, hletters⟩
  · have hamp : c ≠ '&' := by
      rintro rfl
      exact hplain (by decide)
    refine ⟨place + c.utf8Size, ?_⟩
    rw [hsame, List.singleton_append, unescapeFrom]
    simp only [hamp, if_false]
  · have hresolve : ∀ start, resolve start name = .ok c := by
      intro start
      unfold resolve
      split
      · exact absurd (hletters '#' List.mem_cons_self) (by decide)
      · rw [hentity]
    obtain ⟨place', hread⟩ := unescapeFrom_name hletters [] rest hresolve (place + Char.utf8Size '&')
    refine ⟨place', ?_⟩
    rw [hescaped, List.cons_append, List.append_assoc, List.singleton_append, unescapeFrom]
    simp only [if_true]
    exact hread

/-- **Resolving undoes escaping.** -/
theorem unescape_escapeChars (cs : List Char) : unescape (escapeChars cs) = .ok cs := by
  have hfrom : ∀ place, unescapeFrom place none (escapeChars cs) = .ok cs := by
    induction cs with
    | nil => intro place; rfl
    | cons c cs ih =>
      intro place
      obtain ⟨place', hread⟩ := unescapeFrom_escapeChar c (escapeChars cs) place
      rw [escapeChars_cons, hread, ih]
      rfl
  exact hfrom 0

/-- Texts that are escaped alike are the same. -/
theorem escapeChars_injective {cs ds : List Char} (h : escapeChars cs = escapeChars ds) : cs = ds := by
  have hread := unescape_escapeChars cs
  rw [h, unescape_escapeChars] at hread
  exact (Except.ok.inj hread).symm

/-! ## Blanks -/

/-- What a character is replaced by begins with a blank only if the character is one, and is then left as it
is. -/
def KeepsBlanks (f : Char → List Char) : Prop :=
  ∀ c, (isSpace c = true → f c = [c]) ∧ (isSpace c = false → ∃ d ds, f c = d :: ds ∧ isSpace d = false)

theorem dropSpaces_flatMap {f : Char → List Char} (hf : KeepsBlanks f) (cs : List Char) :
    dropSpaces (cs.flatMap f) = (dropSpaces cs).flatMap f := by
  induction cs with
  | nil => rfl
  | cons c cs ih =>
    rw [dropSpaces, dropSpaces] at ih ⊢
    cases hc : isSpace c with
    | true =>
      rw [List.flatMap_cons, (hf c).1 hc, List.singleton_append, List.dropWhile_cons_of_pos hc, ih,
        List.dropWhile_cons_of_pos hc]
    | false =>
      obtain ⟨d, ds, hd, hspace⟩ := (hf c).2 hc
      rw [List.dropWhile_cons_of_neg (by rw [hc]; exact Bool.false_ne_true), List.flatMap_cons, hd,
        List.cons_append, List.dropWhile_cons_of_neg (by rw [hspace]; exact Bool.false_ne_true)]

theorem keepsBlanks_escapeChar : KeepsBlanks escapeChar := by
  intro c
  rcases escapeChar_cases c with ⟨hsame, -⟩ | ⟨name, hentity, hescaped, -⟩
  · exact ⟨fun _ => hsame, fun hc => ⟨c, [], hsame, hc⟩⟩
  · refine ⟨fun hc => ?_, fun _ => ⟨'&', name ++ [';'], hescaped, rfl⟩⟩
    -- no blank has an entity
    simp only [isSpace, Bool.or_eq_true, beq_iff_eq] at hc
    rcases hc with ((rfl | rfl) | rfl) | rfl <;> rfl

theorem keepsBlanks_reverse_escapeChar : KeepsBlanks fun c => (escapeChar c).reverse := by
  intro c
  refine ⟨fun hc => ?_, fun hc => ?_⟩
  · exact congrArg List.reverse ((keepsBlanks_escapeChar c).1 hc)
  · rcases escapeChar_cases c with ⟨hsame, -⟩ | ⟨name, -, hescaped, -⟩
    · exact ⟨c, [], congrArg List.reverse hsame, hc⟩
    · exact ⟨';', name.reverse ++ ['&'], (congrArg List.reverse hescaped).trans (by simp), rfl⟩

/-- Nothing is left of a text without the blanks at its ends if nothing is left without those in front. -/
theorem trimSpaces_eq_nil_iff {cs : List Char} : trimSpaces cs = [] ↔ dropSpaces cs = [] := by
  rw [trimSpaces, List.reverse_eq_nil_iff, dropSpaces, dropSpaces]
  constructor
  · intro h
    cases hcs : cs.dropWhile isSpace with
    | nil => rfl
    | cons c rest =>
      have hblank := List.dropWhile_eq_nil_iff.1 h c (by simp [hcs])
      have hfirst := List.head?_dropWhile_not isSpace cs
      rw [hcs] at hfirst
      simp [hblank] at hfirst
  · intro h
    rw [h]
    rfl

/-- **Trimming and escaping commute.** -/
theorem trimSpaces_escapeChars (cs : List Char) :
    trimSpaces (escapeChars cs) = escapeChars (trimSpaces cs) := by
  have hreverse : ∀ ds : List Char, (escapeChars ds).reverse =
      ds.reverse.flatMap fun c => (escapeChar c).reverse := by
    intro ds
    rw [escapeChars, List.reverse_flatMap]
    rfl
  rw [trimSpaces, trimSpaces, escapeChars, dropSpaces_flatMap keepsBlanks_escapeChar]
  show (dropSpaces (escapeChars (dropSpaces cs)).reverse).reverse = _
  rw [hreverse, dropSpaces_flatMap keepsBlanks_reverse_escapeChar, List.reverse_eq_iff, hreverse,
    List.reverse_reverse]

/-! ## Plain texts -/

section Plain

variable {cs ds : List Char}

theorem isPlain_iff : isPlain cs = true ↔ ∀ c ∈ cs, isSpace c = false ∧ c ∉ special := by
  simp only [isPlain, List.all_eq_true, Bool.not_eq_true', Bool.or_eq_false_iff, List.contains_eq_mem,
    decide_eq_false_iff_not]

/-- Digits are plain. -/
theorem isPlain_of_isDigit (h : ∀ c ∈ cs, c.isDigit = true) : isPlain cs = true := by
  refine isPlain_iff.2 fun c hc => ⟨?_, fun hspecial => ?_⟩
  · cases hspace : isSpace c with
    | false => rfl
    | true =>
      simp only [isSpace, Bool.or_eq_true, beq_iff_eq] at hspace
      rcases hspace with ((rfl | rfl) | rfl) | rfl <;> exact absurd (h _ hc) (by decide)
  · simp only [special, List.mem_cons, List.not_mem_nil, or_false] at hspecial
    rcases hspecial with rfl | rfl | rfl | rfl | rfl <;> exact absurd (h _ hc) (by decide)

theorem isPlain_append (hcs : isPlain cs = true) (hds : isPlain ds = true) :
    isPlain (cs ++ ds) = true := by
  rw [isPlain, List.all_append, Bool.and_eq_true]
  exact ⟨hcs, hds⟩

theorem escapeChars_of_not_mem (h : ∀ c ∈ cs, c ∉ special) : escapeChars cs = cs := by
  induction cs with
  | nil => rfl
  | cons c cs ih =>
    rw [escapeChars_cons, escapeChar_of_not_mem (h c List.mem_cons_self),
      ih fun x hx => h x (List.mem_cons_of_mem c hx)]
    rfl

theorem escapeChars_of_isPlain (h : isPlain cs = true) : escapeChars cs = cs :=
  escapeChars_of_not_mem fun c hc => (isPlain_iff.1 h c hc).2

theorem dropSpaces_of_isPlain (h : isPlain cs = true) : dropSpaces cs = cs := by
  cases cs with
  | nil => rfl
  | cons c cs =>
    have hc := (isPlain_iff.1 h c List.mem_cons_self).1
    exact List.dropWhile_cons_of_neg (by rw [hc]; exact Bool.false_ne_true)

theorem trimSpaces_of_isPlain (h : isPlain cs = true) : trimSpaces cs = cs := by
  have hreverse : isPlain cs.reverse = true := by
    rw [isPlain, List.all_reverse]
    exact h
  rw [trimSpaces, dropSpaces_of_isPlain h, dropSpaces_of_isPlain hreverse, List.reverse_reverse]

end Plain

theorem escape_of_isPlain {s : String} (h : isPlain s.toList = true) : escape s = s := by
  rw [← String.toList_inj, toList_escape, escapeChars_of_isPlain h]

theorem trimmed_of_isPlain {s : String} (h : isPlain s.toList = true) : trimmed s = s := by
  rw [trimmed, trimSpaces_of_isPlain h, String.ofList_toList]

end RemoteShell.Xml
