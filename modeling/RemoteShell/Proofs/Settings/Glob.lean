import Mathlib.Tactic.SplitIfs
import RemoteShell.Proofs.Text.Regex
import RemoteShell.Settings.Glob

/-!
# Which names a pattern fits

`Fits` says what patterns mean: an asterisk stands for any characters and a question mark for one character, but
neither for a line break; every other character stands for itself.

A pattern is matched as a regular expression, and this is made by replacing in a text: first the whole pattern is
escaped, then the wildcards, which have a backslash in front of them by now, are replaced.  The text is a row of tokens
(`IsToken`), a mark behind a backslash or characters without any backslash.  No token can be confused with the end of
one token and the start of the next, so replacing a mark replaces the tokens of the mark and nothing else
(`replace_flatMap`), whatever backslashes and marks the pattern holds.

Hence the expression of a pattern has one piece for each character of it (`expression_eq`), and an engine that
understands the expression finds exactly the names that the pattern fits (`covers_iff`).
-/

namespace RemoteShell.Glob

open Regex (Piece)

variable {mark : Char} {pattern name t rest : List Char}

/-- What patterns mean: a pattern fits a name as a whole. -/
inductive Fits : List Char → List Char → Prop
  | nil : Fits [] []
  | many (part : List Char) {pattern name : List Char} (noBreak : '\n' ∉ part) (rest : Fits pattern name) :
      Fits ('*' :: pattern) (part ++ name)
  | one {c : Char} {pattern name : List Char} (noBreak : c ≠ '\n') (rest : Fits pattern name) :
      Fits ('?' :: pattern) (c :: name)
  | same {c : Char} {pattern name : List Char} (plain : c ≠ '*' ∧ c ≠ '?') (rest : Fits pattern name) :
      Fits (c :: pattern) (c :: name)

theorem hasWildcard_iff : hasWildcard pattern = true ↔ '*' ∈ pattern ∨ '?' ∈ pattern := by
  simp only [hasWildcard, List.any_eq_true, Bool.or_eq_true, beq_iff_eq]
  constructor
  · rintro ⟨c, hc, rfl | rfl⟩
    · exact .inl hc
    · exact .inr hc
  · rintro (hc | hc)
    · exact ⟨_, hc, .inl rfl⟩
    · exact ⟨_, hc, .inr rfl⟩

/-! ## Replacing a mark behind a backslash -/

/-- What a text is a row of in which a mark is replaced: characters behind a backslash, and characters without any
backslash that do not begin with the mark. -/
inductive IsToken (mark : Char) : List Char → Prop
  | escaped (c : Char) : IsToken mark ['\\', c]
  | plain {t : List Char} (bare : '\\' ∉ t) (head : t.head? ≠ some mark) : IsToken mark t

/-- The mark does not stand in front of a row of tokens. -/
theorem head?_flatMap_ne (hmark : mark ≠ '\\') {token : Char → List Char} (h : ∀ c, IsToken mark (token c))
    (text : List Char) : (text.flatMap token).head? ≠ some mark := by
  induction text with
  | nil => simp
  | cons c text ih =>
    rw [List.flatMap_cons]
    generalize token c = t, h c = ht
    cases ht with
    | escaped c => simpa using Ne.symm hmark
    | plain bare head =>
      cases t with
      | nil => exact ih
      | cons d t => exact head

/-- What has no backslash stays as it is. -/
theorem replaceFrom_bare (mark : Char) (new : List Char) (ht : '\\' ∉ t) :
    replaceFrom ['\\', mark] new 0 (t ++ rest) = t ++ replaceFrom ['\\', mark] new 0 rest := by
  induction t with
  | nil => rfl
  | cons c t ih =>
    rw [List.mem_cons, not_or] at ht
    have hc : ('\\' == c) = false := beq_false_of_ne ht.1
    rw [List.cons_append, replaceFrom, ih ht.2]
    simp [List.isPrefixOf, hc]

/-- A backslash stays if the mark does not follow it. -/
theorem replaceFrom_backslash (new : List Char) (h : rest.head? ≠ some mark) :
    replaceFrom ['\\', mark] new 0 ('\\' :: rest) = '\\' :: replaceFrom ['\\', mark] new 0 rest := by
  cases rest with
  | nil => rfl
  | cons c rest =>
    have hc : (mark == c) = false := beq_false_of_ne fun hc => h (congrArg some hc.symm)
    rw [replaceFrom]
    simp [List.isPrefixOf, hc]

theorem replaceFrom_mark (mark : Char) (new rest : List Char) :
    replaceFrom ['\\', mark] new 0 ('\\' :: mark :: rest) = new ++ replaceFrom ['\\', mark] new 0 rest := by
  rw [replaceFrom]
  simp [List.isPrefixOf, replaceFrom]

/-- A token of another character stays as it is. -/
theorem replaceFrom_token (new : List Char) (ht : IsToken mark t) (hother : t ≠ ['\\', mark])
    (hrest : rest.head? ≠ some mark) :
    replaceFrom ['\\', mark] new 0 (t ++ rest) = t ++ replaceFrom ['\\', mark] new 0 rest := by
  cases ht with
  | plain bare _ => exact replaceFrom_bare mark new bare
  | escaped c =>
    have hc : c ≠ mark := fun hc => hother (by rw [hc])
    have hnext : (c :: rest).head? ≠ some mark := fun hhead => hc (Option.some.inj hhead)
    rw [List.cons_append, List.singleton_append, replaceFrom_backslash new hnext]
    by_cases hbackslash : c = '\\'
    · rw [hbackslash, replaceFrom_backslash new hrest]
      rfl
    · have hbare : '\\' ∉ [c] := by simpa using Ne.symm hbackslash
      exact congrArg ('\\' :: ·) (replaceFrom_bare mark new hbare)

/-- **Replacing a mark behind a backslash replaces the tokens of the mark**, and no others. -/
theorem replace_flatMap (new : List Char) (hmark : mark ≠ '\\') (token : Char → List Char)
    (h : ∀ c, IsToken mark (token c)) (htoken : ∀ c, token c = ['\\', mark] ↔ c = mark) (text : List Char) :
    replace ['\\', mark] new (text.flatMap token) = text.flatMap fun c => if c = mark then new else token c := by
  unfold replace
  induction text with
  | nil => rfl
  | cons c text ih =>
    rw [List.flatMap_cons, List.flatMap_cons, ← ih]
    by_cases hc : c = mark
    · rw [if_pos hc, (htoken c).2 hc]
      exact replaceFrom_mark mark new _
    · rw [if_neg hc]
      exact replaceFrom_token new (h c) (fun htext => hc ((htoken c).1 htext)) (head?_flatMap_ne hmark h text)

/-! ## The expression of a pattern -/

/-- What becomes of a character of a pattern. -/
def piece (c : Char) : Piece :=
  if c = '*' then .run else if c = '?' then .any else .literal c

/-- In an escaped text a character with a role of its own stands behind a backslash only. -/
theorem isToken_escapeChar (hmark : Regex.isSpecial mark = true) (c : Char) :
    IsToken mark (Regex.escapeChar c) := by
  rw [Regex.escapeChar]
  split
  · exact .escaped c
  · rename_i hplain
    have hne : ∀ d, Regex.isSpecial d = true → c ≠ d := by
      rintro d hd rfl
      exact hplain hd
    exact .plain (by simpa using Ne.symm (hne _ rfl)) (by simpa using hne mark hmark)

theorem escapeChar_eq_iff (hmark : Regex.isSpecial mark = true) {c : Char} :
    Regex.escapeChar c = ['\\', mark] ↔ c = mark := by
  rw [Regex.escapeChar]
  constructor
  · intro h
    split at h
    · simpa using h
    · simp at h
  · rintro rfl
    rw [if_pos hmark]

theorem piece_eq_run_iff {c : Char} : piece c = .run ↔ c = '*' := by
  rw [piece]
  split_ifs <;> simp_all

theorem piece_eq_any_iff {c : Char} : piece c = .any ↔ c = '?' := by
  rw [piece]
  split_ifs <;> simp_all

theorem piece_eq_literal_iff {c d : Char} : piece c = .literal d ↔ c = d ∧ c ≠ '*' ∧ c ≠ '?' := by
  rw [piece]
  split_ifs <;> simp_all

theorem written_piece (c : Char) : (piece c).written =
    if c = '?' then ['.'] else if c = '*' then ['.', '*'] else Regex.escapeChar c := by
  by_cases hstar : c = '*'
  · rw [piece, if_pos hstar, hstar]
    rfl
  · rw [piece, if_neg hstar, if_neg hstar]
    split <;> rfl

/-- **The expression of a pattern has one piece for each of its characters.** -/
theorem expression_eq (pattern : List Char) : expression pattern = Regex.anchored (pattern.map piece) := by
  let starred : Char → List Char := fun c => if c = '*' then ['.', '*'] else Regex.escapeChar c
  have hstars : replace ['\\', '*'] ['.', '*'] (Regex.escape pattern) = pattern.flatMap starred :=
    replace_flatMap _ (by decide) _ (isToken_escapeChar rfl) (fun c => escapeChar_eq_iff rfl) pattern
  have htoken : ∀ c, IsToken '?' (starred c) := by
    intro c
    by_cases hc : c = '*'
    · simp only [starred, if_pos hc]
      exact .plain (by decide) (by decide)
    · simp only [starred, if_neg hc]
      exact isToken_escapeChar rfl c
  have hquestion : ∀ c, starred c = ['\\', '?'] ↔ c = '?' := by
    intro c
    by_cases hc : c = '*'
    · simp [starred, hc]
    · simp only [starred, if_neg hc]
      exact escapeChar_eq_iff rfl
  have hpieces : (fun c => if c = '?' then ['.'] else starred c) = fun c => (piece c).written :=
    funext fun c => (written_piece c).symm
  rw [expression, hstars, replace_flatMap ['.'] (by decide) starred htoken hquestion, hpieces, Regex.anchored,
    List.flatMap_map]

/-- A backslash in front of a wildcard is a character like any other. -/
example : expression "a\\*?".toList = "^a\\\\.*.$".toList := by decide

/-! ## What an engine sees in a pattern -/

/-- The pieces of a pattern match the names that the pattern fits. -/
theorem matches_map_piece_iff : Regex.Matches (pattern.map piece) name ↔ Fits pattern name := by
  constructor
  · intro h
    generalize hpieces : pattern.map piece = pieces at h
    induction h generalizing pattern with
    | nil =>
      rw [List.map_eq_nil_iff.1 hpieces]
      exact .nil
    | literal _ ih =>
      obtain ⟨d, pattern, rfl, hd, hrest⟩ := List.map_eq_cons_iff.1 hpieces
      obtain ⟨rfl, hplain⟩ := piece_eq_literal_iff.1 hd
      exact .same hplain (ih hrest)
    | any noBreak _ ih =>
      obtain ⟨d, pattern, rfl, hd, hrest⟩ := List.map_eq_cons_iff.1 hpieces
      obtain rfl := piece_eq_any_iff.1 hd
      exact .one noBreak (ih hrest)
    | run part noBreak _ ih =>
      obtain ⟨d, pattern, rfl, hd, hrest⟩ := List.map_eq_cons_iff.1 hpieces
      obtain rfl := piece_eq_run_iff.1 hd
      exact .many part noBreak (ih hrest)
  · intro h
    induction h with
    | nil => exact .nil
    | many part noBreak _ ih => exact .run part noBreak ih
    | one noBreak _ ih => exact .any noBreak ih
    | same plain _ ih =>
      rw [List.map_cons, piece_eq_literal_iff.2 ⟨rfl, plain⟩]
      exact .literal ih

/-- **An engine that understands the expression of a pattern sees which names the pattern fits.** -/
theorem covers_iff {engine : Regex.Engine} (h : engine.Understands (expression pattern)) :
    covers engine pattern name = true ↔ Fits pattern name := by
  obtain ⟨found, hfound, hmatches⟩ := h _ (expression_eq pattern) name
  rw [covers, hfound, Option.getD_some, hmatches, matches_map_piece_iff]

end RemoteShell.Glob
