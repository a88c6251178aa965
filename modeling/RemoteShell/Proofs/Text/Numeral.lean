import Mathlib.Algebra.Group.Int.Defs
import RemoteShell.Text.Blank
import RemoteShell.Text.Numeral

/-!
# Which numerals are read

A decimal numeral is an optional sign and one or more digits; any number of zeros may stand in front (`Denotes`).  An
integer of 32 bits is read exactly from its numerals (`int32_eq_ok_iff`).  The numeral of an integer out of this range
is no fault of its digits: it is said to be too large or too small (`int32_eq_tooLarge`, `int32_eq_tooSmall`).

Digits are read from left to right and only ever make the value larger (`le_ofDigitChars`), so a value that has left
its range does not come back.
-/

namespace RemoteShell.Numeral

variable {c : Char} {cs : List Char} {limit acc value : Nat} {fault : NumeralFault} {n : Int}

/-! ## Digits -/

/-- The value of some digits is at least the value in front of them. -/
theorem le_ofDigitChars (cs : List Char) (n : Nat) : n ≤ Nat.ofDigitChars 10 cs n := by
  induction cs generalizing n with
  | nil => exact Nat.le_refl n
  | cons c cs ih =>
    rw [Nat.ofDigitChars_cons]
    exact Nat.le_trans (by omega) (ih _)

/-- The digits of a number, of which the first is zero for zero only. -/
theorem exists_toDigits (n : Nat) : ∃ c cs, Nat.toDigits 10 n = c :: cs ∧ c.isDigit = true ∧ (0 < n → c ≠ '0') := by
  induction n using Nat.strongRecOn with
  | ind n ih =>
    by_cases hlt : n < 10
    · have hdigit : ∀ m < 10, (Nat.digitChar m).isDigit = true ∧ (0 < m → Nat.digitChar m ≠ '0') := by decide
      exact ⟨Nat.digitChar n, [], Nat.toDigits_of_lt_base hlt, hdigit n hlt⟩
    · obtain ⟨c, cs, hcs, hc, hfirst⟩ := ih (n / 10) (by omega)
      rw [Nat.toDigits_of_base_le (by decide) (by omega), hcs]
      exact ⟨c, cs ++ [Nat.digitChar (n % 10)], rfl, hc, fun _ => hfirst (by omega)⟩

theorem isDigit_iff : c.isDigit = true ↔ 48 ≤ c.toNat ∧ c.toNat ≤ 57 := by
  simp only [Char.isDigit, Bool.and_eq_true, decide_eq_true_eq, ge_iff_le, UInt32.le_iff_toNat_le]
  exact Iff.rfl

/-- In base ten the digits are those of a decimal numeral. -/
theorem digit?_ten (c : Char) : digit? 10 c = if c.isDigit then some (c.toNat - '0'.toNat) else none := by
  have hle (a b : Char) : a ≤ b ↔ a.toNat ≤ b.toNat := by
    rw [Char.le_def, UInt32.le_iff_toNat_le]
    exact Iff.rfl
  have hzero : '0'.toNat = 48 := rfl
  have hnine : '9'.toNat = 57 := rfl
  simp only [digit?, isDigit_iff, hle, hzero, hnine]
  split
  · exact Option.filter_some_pos (by simp; omega)
  · -- letters stand for ten and more
    rw [Option.filter_eq_none_iff]
    intro value hvalue hsmall
    rw [decide_eq_true_eq] at hsmall
    split at hvalue
    · have := Option.some.inj hvalue
      omega
    · split at hvalue
      · have := Option.some.inj hvalue
        omega
      · cases hvalue

/-- One or more digits. -/
def IsDigits (cs : List Char) : Prop :=
  cs ≠ [] ∧ ∀ c ∈ cs, c.isDigit = true

/-- **Digits are read exactly**, as long as their value does not exceed the limit. -/
theorem digits_eq_ok_iff (hacc : acc ≤ limit) : digits 10 limit fault acc cs = .ok value ↔
    (∀ c ∈ cs, c.isDigit = true) ∧ Nat.ofDigitChars 10 cs acc = value ∧ value ≤ limit := by
  induction cs generalizing acc with
  | nil =>
    rw [digits, Except.ok.injEq, Nat.ofDigitChars_nil]
    constructor
    · rintro rfl
      exact ⟨nofun, rfl, hacc⟩
    · exact fun h => h.2.1
  | cons c cs ih =>
    rw [digits, digit?_ten, List.forall_mem_cons, Nat.ofDigitChars_cons, Nat.mul_comm 10]
    by_cases hc : c.isDigit = true
    · rw [if_pos hc]
      by_cases hlarge : limit < acc * 10 + (c.toNat - '0'.toNat)
      · simp only [hlarge, if_true]
        refine ⟨nofun, ?_⟩
        rintro ⟨-, hvalue, hle⟩
        have := le_ofDigitChars cs (acc * 10 + (c.toNat - '0'.toNat))
        omega
      · simp only [hlarge, if_false, hc, true_and]
        exact ih (Nat.le_of_not_lt hlarge)
    · rw [if_neg hc]
      exact ⟨nofun, fun h => absurd h.1.1 hc⟩

/-- Digits whose value exceeds the limit are at fault for that. -/
theorem digits_eq_error (hdigits : ∀ c ∈ cs, c.isDigit = true) (hacc : acc ≤ limit)
    (h : limit < Nat.ofDigitChars 10 cs acc) : digits 10 limit fault acc cs = .error fault := by
  induction cs generalizing acc with
  | nil => exact absurd h (Nat.not_lt.2 hacc)
  | cons c cs ih =>
    obtain ⟨hc, hcs⟩ := List.forall_mem_cons.1 hdigits
    rw [Nat.ofDigitChars_cons, Nat.mul_comm 10] at h
    rw [digits, digit?_ten, if_pos hc]
    by_cases hlarge : limit < acc * 10 + (c.toNat - '0'.toNat)
    · exact if_pos hlarge
    · simp only [hlarge, if_false]
      exact ih hcs (Nat.le_of_not_lt hlarge) h

theorem natural_eq_ok_iff : natural 10 limit fault cs = .ok value ↔
    IsDigits cs ∧ Nat.ofDigitChars 10 cs 0 = value ∧ value ≤ limit := by
  cases cs with
  | nil => exact ⟨nofun, fun h => absurd rfl h.1.1⟩
  | cons c cs =>
    have hne : c :: cs ≠ [] := List.cons_ne_nil c cs
    have hnatural : natural 10 limit fault (c :: cs) = digits 10 limit fault 0 (c :: cs) := rfl
    rw [hnatural, digits_eq_ok_iff (Nat.zero_le limit), IsDigits, and_iff_right hne]

theorem natural_eq_error (hdigits : IsDigits cs) (h : limit < Nat.ofDigitChars 10 cs 0) :
    natural 10 limit fault cs = .error fault := by
  obtain ⟨c, cs, rfl⟩ := List.exists_cons_of_ne_nil hdigits.1
  exact digits_eq_error hdigits.2 (Nat.zero_le limit) h

/-! ## Integers -/

/-- A text is a decimal numeral of an integer. -/
inductive Denotes : List Char → Int → Prop
  | bare {cs : List Char} (digits : IsDigits cs) : Denotes cs (Nat.ofDigitChars 10 cs 0)
  | plus {cs : List Char} (digits : IsDigits cs) : Denotes ('+' :: cs) (Nat.ofDigitChars 10 cs 0)
  | minus {cs : List Char} (digits : IsDigits cs) : Denotes ('-' :: cs) (-(Nat.ofDigitChars 10 cs 0 : Int))

/-- The integers of 32 bits. -/
def FitsInt32 (n : Int) : Prop :=
  -2 ^ 31 ≤ n ∧ n < 2 ^ 31

instance (n : Int) : Decidable (FitsInt32 n) :=
  inferInstanceAs (Decidable (_ ∧ _))

theorem not_isDigits_cons (hc : c.isDigit = false) (cs : List Char) : ¬ IsDigits (c :: cs) := fun h => by
  rw [h.2 c List.mem_cons_self] at hc
  cases hc

theorem denotes_plus_iff : Denotes ('+' :: cs) n ↔ IsDigits cs ∧ n = Nat.ofDigitChars 10 cs 0 := by
  constructor
  · rintro (hdigits | hdigits)
    · exact absurd hdigits (not_isDigits_cons rfl cs)
    · exact ⟨hdigits, rfl⟩
  · rintro ⟨hdigits, rfl⟩
    exact .plus hdigits

theorem denotes_minus_iff : Denotes ('-' :: cs) n ↔ IsDigits cs ∧ n = -(Nat.ofDigitChars 10 cs 0 : Int) := by
  constructor
  · rintro (hdigits | - | hdigits)
    · exact absurd hdigits (not_isDigits_cons rfl cs)
    · exact ⟨hdigits, rfl⟩
  · rintro ⟨hdigits, rfl⟩
    exact .minus hdigits

theorem denotes_bare_iff (hplus : ∀ rest, cs ≠ '+' :: rest) (hminus : ∀ rest, cs ≠ '-' :: rest) :
    Denotes cs n ↔ IsDigits cs ∧ n = Nat.ofDigitChars 10 cs 0 := by
  constructor
  · rintro (hdigits | hdigits | hdigits)
    · exact ⟨hdigits, rfl⟩
    · exact absurd rfl (hplus _)
    · exact absurd rfl (hminus _)
  · rintro ⟨hdigits, rfl⟩
    exact .bare hdigits

/-- A digit is no sign. -/
theorem int32_of_isDigits (h : IsDigits cs) :
    int32 cs = (natural 10 ((1 <<< 31) - 1) .tooLarge cs).map Int.ofNat := by
  unfold int32
  split
  · exact absurd rfl h.1
  · exact absurd h (not_isDigits_cons rfl _)
  · exact absurd h (not_isDigits_cons rfl _)
  · rfl

theorem map_natural_eq_ok_iff {f : Nat → Int} : (natural 10 limit fault cs).map f = .ok n ↔
    (IsDigits cs ∧ n = f (Nat.ofDigitChars 10 cs 0)) ∧ Nat.ofDigitChars 10 cs 0 ≤ limit := by
  constructor
  · intro h
    cases hread : natural 10 limit fault cs with
    | error e =>
      rw [hread] at h
      cases h
    | ok value =>
      rw [hread] at h
      obtain ⟨hdigits, rfl, hle⟩ := natural_eq_ok_iff.1 hread
      exact ⟨⟨hdigits, (Except.ok.inj h).symm⟩, hle⟩
  · rintro ⟨⟨hdigits, rfl⟩, hle⟩
    rw [natural_eq_ok_iff.2 ⟨hdigits, rfl, hle⟩]
    rfl

theorem le_max_iff {value : Nat} : value ≤ (1 <<< 31) - 1 ↔ FitsInt32 (Int.ofNat value) := by
  have hmax : (1 <<< 31) - 1 = 2147483647 := rfl
  rw [hmax, FitsInt32, Int.ofNat_eq_natCast]
  omega

theorem le_min_iff {value : Nat} : value ≤ 1 <<< 31 ↔ FitsInt32 (-Int.ofNat value) := by
  have hmin : 1 <<< 31 = 2147483648 := rfl
  rw [hmin, FitsInt32, Int.ofNat_eq_natCast]
  omega

/-- **The integers of 32 bits are read from their numerals, and from nothing else.** -/
theorem int32_eq_ok_iff : int32 cs = .ok n ↔ Denotes cs n ∧ FitsInt32 n := by
  unfold int32
  split
  · refine ⟨nofun, ?_⟩
    rintro ⟨⟨hdigits⟩, -⟩
    exact absurd rfl hdigits.1
  · rw [map_natural_eq_ok_iff, denotes_plus_iff, le_max_iff]
    exact and_congr_right fun h => by rw [h.2, Int.ofNat_eq_natCast]
  · rw [map_natural_eq_ok_iff, denotes_minus_iff, le_min_iff]
    exact and_congr_right fun h => by rw [h.2]
  · rename_i hplus hminus
    rw [map_natural_eq_ok_iff, denotes_bare_iff hplus hminus, le_max_iff]
    exact and_congr_right fun h => by rw [h.2, Int.ofNat_eq_natCast]

/-- An integer that is too large is said to be so. -/
theorem int32_eq_tooLarge (h : Denotes cs n) (hn : 2 ^ 31 ≤ n) : int32 cs = .error .tooLarge := by
  have hlarge {ds : List Char} (hds : 2 ^ 31 ≤ (Nat.ofDigitChars 10 ds 0 : Int)) :
      (1 <<< 31) - 1 < Nat.ofDigitChars 10 ds 0 := by
    have hmax : (1 <<< 31) - 1 = 2147483647 := rfl
    omega
  cases h with
  | bare hdigits =>
    rw [int32_of_isDigits hdigits, natural_eq_error hdigits (hlarge hn)]
    rfl
  | plus hdigits =>
    rw [int32, natural_eq_error hdigits (hlarge hn)]
    rfl
  | minus hdigits => omega

/-- An integer that is too small is said to be so. -/
theorem int32_eq_tooSmall (h : Denotes cs n) (hn : n < -2 ^ 31) : int32 cs = .error .tooSmall := by
  cases h with
  | bare hdigits | plus hdigits => omega
  | minus hdigits =>
    rename_i ds
    have hsmall : 1 <<< 31 < Nat.ofDigitChars 10 ds 0 := by
      have hmin : 1 <<< 31 = 2147483648 := rfl
      omega
    rw [int32, natural_eq_error hdigits hsmall]
    rfl

/-! ## Texts of integers -/

theorem isDigits_toDigits (n : Nat) : IsDigits (Nat.toDigits 10 n) :=
  ⟨Nat.toDigits_ne_nil, fun _ => Nat.isDigit_of_mem_toDigits (by decide) (by decide)⟩

/-- An integer is denoted by its text. -/
theorem denotes_toString (n : Int) : Denotes (toString n).toList n := by
  rw [Int.toString_eq_repr, Int.repr_eq_if]
  split
  · rename_i hn
    have hdenotes := Denotes.bare (isDigits_toDigits n.toNat)
    rwa [Nat.ofDigitChars_ten_toDigits, Int.toNat_of_nonneg hn, ← Nat.toList_repr] at hdenotes
  · rename_i hn
    have hdenotes := Denotes.minus (isDigits_toDigits (-n).toNat)
    rw [Nat.ofDigitChars_ten_toDigits, Int.toNat_of_nonneg (by omega), Int.neg_neg, ← Nat.toList_repr] at hdenotes
    rwa [String.toList_append]

theorem isBlankChar_of_isDigit (h : c.isDigit = true) : Text.isBlankChar c = false := by
  rw [isDigit_iff] at h
  simp only [Text.isBlankChar, Text.inRanges, Text.blankRanges, List.any_cons, List.any_nil, Bool.or_eq_false_iff,
    Bool.and_eq_false_iff, decide_eq_false_iff_not]
  refine ⟨?_, ?_, ?_, ?_, ?_, ?_, ?_, ?_, ?_, ?_, trivial⟩ <;> omega

/-- There are no blanks in a numeral. -/
theorem Denotes.not_blank (h : Denotes cs n) : ∀ c ∈ cs, Text.isBlankChar c = false := by
  have hdigits {ds : List Char} (hds : IsDigits ds) : ∀ c ∈ ds, Text.isBlankChar c = false := fun c hc =>
    isBlankChar_of_isDigit (hds.2 c hc)
  cases h with
  | bare hds => exact hdigits hds
  | plus hds => exact List.forall_mem_cons.2 ⟨by decide, hdigits hds⟩
  | minus hds => exact List.forall_mem_cons.2 ⟨by decide, hdigits hds⟩

end RemoteShell.Numeral
