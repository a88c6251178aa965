import RemoteShell.Text.Regex

/-!
# What expressions match

An expression between its anchors is a row of pieces (`anchored`), and the pieces match a text if it can be cut so that
each of them matches its part (`Matches`).  An engine that sees this in an expression understands it
(`Engine.Understands`); the engine of the library understands them all (`search?_understands`).

Its rows of flags are told by `IsRow`, which one more character in front keeps (`IsRow.next`).
-/

namespace RemoteShell.Regex

variable {c x : Char} {p : Piece} {ps : List Piece} {cs : List Char}

/-! ## Expressions and what they match -/

/-- A piece, as an expression has it. -/
def Piece.written : Piece → List Char
  | literal c => escapeChar c
  | any => ['.']
  | run => ['.', '*']

/-- The expression that has to match a text as a whole. -/
def anchored (ps : List Piece) : List Char :=
  '^' :: ps.flatMap Piece.written ++ ['$']

/-- Pieces match a text, one after the other. -/
inductive Matches : List Piece → List Char → Prop
  | nil : Matches [] []
  | literal {c : Char} {ps : List Piece} {cs : List Char} (rest : Matches ps cs) :
      Matches (.literal c :: ps) (c :: cs)
  | any {c : Char} {ps : List Piece} {cs : List Char} (noBreak : c ≠ '\n') (rest : Matches ps cs) :
      Matches (.any :: ps) (c :: cs)
  | run (part : List Char) {ps : List Piece} {cs : List Char} (noBreak : '\n' ∉ part) (rest : Matches ps cs) :
      Matches (.run :: ps) (part ++ cs)

/-- An engine reads an expression that is made of pieces, and finds it in the texts that they match. -/
def Engine.Understands (engine : Engine) (expression : List Char) : Prop :=
  ∀ ps, expression = anchored ps → ∀ text, ∃ found, engine expression text = some found ∧
    (found = true ↔ Matches ps text)

/-! ## Reading an expression -/

/-- No piece begins with an asterisk. -/
theorem head?_flatMap_written (ps : List Piece) : (ps.flatMap Piece.written ++ ['$']).head? ≠ some '*' := by
  cases ps with
  | nil => decide
  | cons p ps =>
    cases p with
    | any | run => simp [Piece.written]
    | literal c =>
      by_cases hc : isSpecial c = true
      · simp [Piece.written, escapeChar, hc]
      · have hne : c ≠ '*' := by
          rintro rfl
          exact hc rfl
        simp [Piece.written, escapeChar, hc, hne]

theorem pieces?_any (h : cs.head? ≠ some '*') : pieces? ('.' :: cs) = (pieces? cs).map (.any :: ·) := by
  rcases cs with _ | ⟨c, cs⟩
  · rfl
  · have hne : c ≠ '*' := fun hc => h (congrArg some hc)
    rw [pieces?]
    simpa using hne

theorem pieces?_literal (hc : isSpecial c = false) : pieces? (c :: cs) = (pieces? cs).map (.literal c :: ·) := by
  have hne : ∀ d, isSpecial d = true → c ≠ d := by
    rintro d hd rfl
    rw [hc] at hd
    cases hd
  rw [pieces?, if_neg (by simp [hc])]
  · exact fun h => absurd h (hne _ rfl)
  · exact fun _ _ h => absurd h (hne _ rfl)
  · exact fun _ h => absurd h (hne _ rfl)
  · exact fun h => absurd h (hne _ rfl)

/-- **What is written for pieces is read as them.** -/
theorem pieces?_flatMap_written (ps : List Piece) : pieces? (ps.flatMap Piece.written ++ ['$']) = some ps := by
  induction ps with
  | nil => rfl
  | cons p ps ih =>
    rw [List.flatMap_cons, List.append_assoc]
    cases p with
    | run =>
      rw [Piece.written, List.cons_append, List.cons_append, List.nil_append, pieces?, ih]
      rfl
    | any =>
      rw [Piece.written, List.singleton_append, pieces?_any (head?_flatMap_written ps), ih]
      rfl
    | literal c =>
      cases hc : isSpecial c with
      | true =>
        rw [Piece.written, escapeChar, if_pos hc, List.cons_append, List.singleton_append, pieces?, if_pos hc, ih]
        rfl
      | false =>
        rw [Piece.written, escapeChar, if_neg (by simp [hc]), List.singleton_append, pieces?_literal hc, ih]
        rfl

/-! ## Rows of flags -/

theorem matches_literal_iff : Matches (.literal x :: ps) (c :: cs) ↔ c = x ∧ Matches ps cs := by
  constructor
  · rintro (_ | h)
    exact ⟨rfl, h⟩
  · rintro ⟨rfl, h⟩
    exact .literal h

theorem matches_any_iff : Matches (.any :: ps) (c :: cs) ↔ c ≠ '\n' ∧ Matches ps cs := by
  constructor
  · rintro (_ | _ | ⟨hc, h⟩)
    exact ⟨hc, h⟩
  · rintro ⟨hc, h⟩
    exact .any hc h

theorem matches_run_nil_iff : Matches (.run :: ps) [] ↔ Matches ps [] := by
  constructor
  · intro h
    generalize htext : ([] : List Char) = text at h
    obtain _ | _ | _ | @⟨part, _, _, -, h⟩ := h
    obtain ⟨rfl, rfl⟩ := List.append_eq_nil_iff.1 htext.symm
    exact h
  · exact fun h => .run [] List.not_mem_nil h

/-- A run takes nothing, or it takes the first character and goes on. -/
theorem matches_run_cons_iff :
    Matches (.run :: ps) (c :: cs) ↔ Matches ps (c :: cs) ∨ c ≠ '\n' ∧ Matches (.run :: ps) cs := by
  constructor
  · intro h
    generalize htext : c :: cs = text at h
    obtain _ | _ | _ | @⟨part, _, rest, hpart, h⟩ := h
    cases part with
    | nil =>
      rw [List.nil_append] at htext
      exact .inl (htext ▸ h)
    | cons d part =>
      obtain ⟨rfl, rfl⟩ := List.cons.inj htext
      rw [List.mem_cons, not_or] at hpart
      exact .inr ⟨Ne.symm hpart.1, .run part hpart.2 h⟩
  · rintro (h | ⟨hc, h⟩)
    · exact .run [] List.not_mem_nil h
    · generalize hpieces : Piece.run :: ps = pieces at h
      obtain _ | _ | _ | @⟨part, _, rest, hpart, h⟩ := h <;> cases hpieces
      exact .run (c :: part) (by simp [hpart, Ne.symm hc]) h

/-- The flags of a row say for every place between pieces whether those from there on match a text. -/
def IsRow : List Piece → List Char → List Bool → Prop
  | [], cs, row => (row.headD false = true ↔ Matches [] cs)
  | p :: ps, cs, row => (row.headD false = true ↔ Matches (p :: ps) cs) ∧ IsRow ps cs row.tail

theorem IsRow.head {row : List Bool} (h : IsRow ps cs row) : row.headD false = true ↔ Matches ps cs := by
  cases ps with
  | nil => exact h
  | cons p ps => exact h.1

theorem isRow_lastRow (ps : List Piece) : IsRow ps [] (lastRow ps) := by
  induction ps with
  | nil => exact ⟨fun _ => .nil, fun _ => rfl⟩
  | cons p ps ih =>
    refine ⟨?_, ih⟩
    cases p with
    | literal c | any => exact ⟨nofun, nofun⟩
    | run =>
      rw [matches_run_nil_iff, ← ih.head]
      simp [lastRow]

/-- **One more character in front.** -/
theorem IsRow.next {old : List Bool} (h : IsRow ps cs old) (c : Char) : IsRow ps (c :: cs) (nextRow c ps old) := by
  induction ps generalizing old with
  | nil => exact ⟨nofun, nofun⟩
  | cons p ps ih =>
    have hrest := ih h.2
    refine ⟨?_, hrest⟩
    cases p with
    | literal x => simp [nextRow, matches_literal_iff, ← h.2.head]
    | any => simp [nextRow, matches_any_iff, ← h.2.head]
    | run => simp [nextRow, matches_run_cons_iff, ← hrest.head, ← h.1]

theorem accepts_iff {text : List Char} : accepts ps text = true ↔ Matches ps text := by
  have hrow : IsRow ps text (text.foldr (fun c row => nextRow c ps row) (lastRow ps)) := by
    induction text with
    | nil => exact isRow_lastRow ps
    | cons c cs ih => exact ih.next c
  exact hrow.head

/-- **Every expression that is made of pieces is understood.** -/
theorem search?_understands (expression : List Char) : Engine.Understands search? expression := by
  rintro ps rfl text
  refine ⟨accepts ps text, ?_, accepts_iff⟩
  rw [anchored, List.cons_append, search?, pieces?_flatMap_written]
  rfl

end RemoteShell.Regex
