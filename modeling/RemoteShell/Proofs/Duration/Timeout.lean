import Mathlib.Algebra.Order.Field.Basic
import Mathlib.Data.Rat.Floor
import Mathlib.Tactic.FieldSimp
import Mathlib.Tactic.Linarith
import RemoteShell.Duration
import RemoteShell.Proofs.Text.Numeral

/-!
# What operation timeouts say

The text of an operation timeout is a decimal number of seconds.  It is read back digit by digit, each digit behind the
point for a tenth of the one in front of it (`decimals`), so that zeros behind the point count (`seconds?`).  What is
read is the duration rounded down to whole milliseconds (`isTimeout_operationTimeout`), for every duration.

The milliseconds beyond the whole seconds have to fill three digits for that (`exists_fixedDigits`): `PT0.5S` would be
half a second and not five milliseconds.
-/

namespace RemoteShell.Duration

open Numeral (IsDigits)

/-! ## Numbers of seconds -/

/-- The duration in seconds. -/
def inSeconds (d : Duration) : ℚ :=
  d.nanoseconds / perSecond

/-- The duration in milliseconds, rounded down. -/
def wholeMillis (d : Duration) : ℤ :=
  ⌊d.inSeconds * 1000⌋

/-- The value of digits behind a point. -/
def decimals : List Char → ℚ
  | [] => 0
  | c :: cs => ((c.toNat - '0'.toNat : Nat) + decimals cs) / 10

/-- The number of seconds that a text of the form `PT60.000S` says, with any number of decimals. -/
def seconds? (text : String) : Option ℚ :=
  match text.toList with
  | 'P' :: 'T' :: rest =>
    match rest.span Char.isDigit with
    | (whole, '.' :: rest) =>
      match rest.span Char.isDigit with
      | (fraction, ['S']) =>
        if whole.isEmpty || fraction.isEmpty then none
        else some (Nat.ofDigitChars 10 whole 0 + decimals fraction)
      | _ => none
    | _ => none
  | _ => none

example : seconds? "PT0.5S" = some (1 / 2) := by decide +kernel

/-- A text is the timeout of a duration. -/
structure IsTimeout (d : Duration) (text : String) : Prop where
  /-- The text consists of the whole seconds, without zeros in front, and three decimals. -/
  form : ∃ whole fraction, text.toList = 'P' :: 'T' :: (whole ++ '.' :: (fraction ++ ['S'])) ∧
    IsDigits whole ∧ (whole.head? = some '0' → whole = ['0']) ∧ Nat.ofDigitChars 10 whole 0 = d.seconds ∧
    IsDigits fraction ∧ fraction.length = 3
  /-- It says how long the duration is, rounded down to whole milliseconds. -/
  value : seconds? text = some ((d.wholeMillis : ℚ) / 1000)

variable {d d' : Duration} {whole fraction : List Char} {n width : Nat}

theorem wholeMillis_eq (d : Duration) : d.wholeMillis = d.millis := by
  have hmillis : d.inSeconds * 1000 = (d.nanoseconds : ℚ) / (1000000 : ℕ) := by
    rw [inSeconds, perSecond]
    push_cast
    ring
  rw [wholeMillis, hmillis, Rat.floor_natCast_div_natCast, millis, Int.natCast_div]

/-! ## Reading -/

theorem decimals_eq (cs : List Char) : decimals cs = (Nat.ofDigitChars 10 cs 0 : ℚ) / 10 ^ cs.length := by
  induction cs with
  | nil => simp [decimals]
  | cons c cs ih =>
    have hvalue : Nat.ofDigitChars 10 (c :: cs) 0 =
        10 ^ cs.length * (c.toNat - '0'.toNat) + Nat.ofDigitChars 10 cs 0 := by
      rw [Nat.ofDigitChars_cons, Nat.ofDigitChars_eq_ofDigitChars_zero, Nat.mul_zero, Nat.zero_add]
    rw [decimals, ih, hvalue, List.length_cons, pow_succ]
    push_cast
    field_simp

theorem span_isDigit {rest : List Char} {c : Char} (hwhole : ∀ c ∈ whole, c.isDigit = true) (hc : c.isDigit = false) :
    (whole ++ c :: rest).span Char.isDigit = (whole, c :: rest) := by
  rw [List.span_eq_takeWhile_dropWhile, List.takeWhile_append_of_pos hwhole, List.dropWhile_append_of_pos hwhole,
    List.takeWhile_cons_of_neg (by simp [hc]), List.dropWhile_cons_of_neg (by simp [hc]), List.append_nil]

theorem seconds?_eq {text : String} (htext : text.toList = 'P' :: 'T' :: (whole ++ '.' :: (fraction ++ ['S'])))
    (hwhole : IsDigits whole) (hfraction : IsDigits fraction) :
    seconds? text = some (Nat.ofDigitChars 10 whole 0 + decimals fraction) := by
  have hempty : (whole.isEmpty || fraction.isEmpty) = false := by
    simp [hwhole.1, hfraction.1]
  rw [seconds?, htext]
  simp only [span_isDigit hwhole.2 (c := '.') rfl, span_isDigit hfraction.2 (c := 'S') rfl, hempty]
  rfl

/-! ## The text of a timeout -/

/-- A number below `10 ^ width` is written with exactly `width` digits. -/
theorem exists_fixedDigits (hwidth : 0 < width) (hn : n < 10 ^ width) :
    ∃ cs, (fixedDigits width n).toList = cs ∧ IsDigits cs ∧ cs.length = width ∧ Nat.ofDigitChars 10 cs 0 = n := by
  have htext : (toString n).toList = Nat.toDigits 10 n := Nat.toList_repr
  have hlength : (toString n).length = (Nat.toDigits 10 n).length := by
    rw [← String.length_toList, htext]
  have hle : (Nat.toDigits 10 n).length ≤ width := (Nat.length_toDigits_le_iff (by decide) hwidth).2 hn
  refine ⟨_, rfl, ?_⟩
  rw [fixedDigits, String.toList_append, String.toList_ofList, htext, hlength]
  obtain ⟨hne, hdigits⟩ := Numeral.isDigits_toDigits n
  refine ⟨⟨by simp [hne], List.forall_mem_append.2 ⟨fun c hc => ?_, hdigits⟩⟩, ?_, ?_⟩
  · rw [List.eq_of_mem_replicate hc]
    rfl
  · rw [List.length_append, List.length_replicate]
    omega
  · rw [Nat.ofDigitChars_append, Nat.ofDigitChars_replicate_zero, Nat.mul_zero, Nat.ofDigitChars_ten_toDigits]

/-- A number is written without zeros in front. -/
theorem toDigits_unpadded (n : Nat) (h : (Nat.toDigits 10 n).head? = some '0') : Nat.toDigits 10 n = ['0'] := by
  obtain ⟨c, cs, hcs, -, hfirst⟩ := Numeral.exists_toDigits n
  rcases Nat.eq_zero_or_pos n with rfl | hn
  · rfl
  · rw [hcs, List.head?_cons, Option.some.injEq] at h
    exact absurd h (hfirst hn)

theorem isTimeout_operationTimeout (d : Duration) : IsTimeout d (operationTimeout d) := by
  have hmillis : d.nanos / 1000000 < 10 ^ 3 := by
    have : d.nanos < perSecond := Nat.mod_lt _ (by decide)
    rw [perSecond] at this
    omega
  obtain ⟨fraction, hfixed, hfraction, hlength, hvalue⟩ := exists_fixedDigits (by decide) hmillis
  have htext : (operationTimeout d).toList =
      'P' :: 'T' :: (Nat.toDigits 10 d.seconds ++ '.' :: (fraction ++ ['S'])) := by
    rw [operationTimeout, String.toList_append, String.toList_append, String.toList_append, String.toList_append,
      hfixed, Nat.toString_eq_repr, Nat.toList_repr]
    simp
  have hwhole := Numeral.isDigits_toDigits d.seconds
  refine ⟨⟨_, fraction, htext, hwhole, toDigits_unpadded _, Nat.ofDigitChars_ten_toDigits, hfraction, hlength⟩, ?_⟩
  have hparts : d.millis = d.seconds * 1000 + d.nanos / 1000000 := by
    rw [millis, seconds, nanos, perSecond]
    omega
  have hwholeMillis : (d.wholeMillis : ℚ) = (d.seconds : ℚ) * 1000 + (d.nanos / 1000000 : ℕ) := by
    rw [wholeMillis_eq, hparts, Int.cast_natCast, Nat.cast_add, Nat.cast_mul, Nat.cast_ofNat]
  rw [seconds?_eq htext hwhole hfraction, decimals_eq, hvalue, hlength, Nat.ofDigitChars_ten_toDigits, hwholeMillis,
    Option.some.injEq]
  ring

/-- The text of a timeout depends on the whole milliseconds only. -/
theorem operationTimeout_congr (h : d.millis = d'.millis) : operationTimeout d = operationTimeout d' := by
  have hparts (d : Duration) : d.seconds = d.millis / 1000 ∧ d.nanos / 1000000 = d.millis % 1000 := by
    rw [millis, seconds, nanos, perSecond]
    omega
  rw [operationTimeout, operationTimeout, (hparts d).1, (hparts d).2, (hparts d').1, (hparts d').2, h]

/-- **Operation timeouts denote durations.**  The text of a timeout is a number of seconds with three decimals, and says
how long the duration is in whole milliseconds.  So a longer duration has no smaller timeout, and two durations have the
same text exactly if they agree in whole milliseconds. -/
theorem operationTimeout_denotes :
    (∀ d, IsTimeout d (operationTimeout d)) ∧
      (∀ d d' : Duration, d.nanoseconds ≤ d'.nanoseconds → ∃ q q', seconds? (operationTimeout d) = some q ∧
        seconds? (operationTimeout d') = some q' ∧ q ≤ q') ∧
      ∀ d d' : Duration, operationTimeout d = operationTimeout d' ↔ d.wholeMillis = d'.wholeMillis := by
  have hvalue := fun d => (isTimeout_operationTimeout d).value
  refine ⟨isTimeout_operationTimeout, fun d d' hle => ?_, fun d d' => ⟨fun h => ?_, fun h => ?_⟩⟩
  · refine ⟨_, _, hvalue d, hvalue d', ?_⟩
    have hmillis : d.millis ≤ d'.millis := Nat.div_le_div_right hle
    have hwhole : d.wholeMillis ≤ d'.wholeMillis := by
      rw [wholeMillis_eq, wholeMillis_eq]
      exact_mod_cast hmillis
    gcongr
  · have hsame := hvalue d
    rw [h, hvalue d', Option.some.injEq, div_left_inj' (by norm_num), Int.cast_inj] at hsame
    exact hsame.symm
  · rw [wholeMillis_eq, wholeMillis_eq] at h
    exact operationTimeout_congr (by exact_mod_cast h)

/-- Nearly six milliseconds are written with the zeros in front of the five, and half a second is not shorter. -/
theorem operationTimeout_denotes_padded :
    operationTimeout (ofParts 0 5999999) = "PT0.005S" ∧
      (ofParts 0 5999999).nanoseconds ≤ (ofParts 0 500000000).nanoseconds ∧
      ∃ q q', seconds? "PT0.005S" = some q ∧ seconds? "PT0.500S" = some q' ∧ q ≤ q' := by
  have htext : operationTimeout (ofParts 0 5999999) = "PT0.005S" := by decide +kernel
  have htext' : operationTimeout (ofParts 0 500000000) = "PT0.500S" := by decide +kernel
  have hle : (ofParts 0 5999999).nanoseconds ≤ (ofParts 0 500000000).nanoseconds := by decide
  have hread := operationTimeout_denotes.2.1 _ _ hle
  rw [htext, htext'] at hread
  exact ⟨htext, hle, hread⟩

end RemoteShell.Duration
