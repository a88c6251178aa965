import Mathlib.Algebra.Ring.Nat
import RemoteShell.Duration.Human
import RemoteShell.Proofs.Text.Numeral

/-!
# Reading back durations as people write them

Every duration of 64 bits of seconds is what is read from its text (`read?_render`).

Reading is a machine, and a text is a row of items.  The machine reads the digits of an amount (`run_digits`) and the
letters of a unit (`run_letters`), so it reads one item and is where it was before it, with the item added to the
duration (`run_item`).  An item adds its amount times what its unit holds (`addItem_eq`), and the amounts of a duration,
each times what its unit holds, are the duration (`total_amounts`).
-/

namespace RemoteShell.Duration.Human

variable {d d' : Duration} {n : Nat} {name : String} {u : Unit} {b : Bool} {cs rest : List Char}

/-! ## What an item adds -/

/-- The nanoseconds that a unit holds. -/
def Unit.nanoseconds : Unit → Nat
  | .nanos each => each
  | .seconds each => each * perSecond

/-- The durations that have 64 bits of seconds. -/
def Fits (d : Duration) : Prop :=
  d.seconds < UInt64.size

instance (d : Duration) : Decidable (Fits d) :=
  inferInstanceAs (Decidable (d.seconds < UInt64.size))

theorem fit_of_lt (h : n < UInt64.size) : fit n = some n :=
  if_pos h

/-- **Adding is exact** if the sum has 64 bits of seconds. -/
theorem add_eq {s ns : Nat} (hns : ns < perSecond) (h : Fits ⟨d.nanoseconds + s * perSecond + ns⟩) :
    add d s ns = some ⟨d.nanoseconds + s * perSecond + ns⟩ := by
  simp only [Fits, seconds, perSecond, UInt64.size] at h hns
  have hnanos : fit (d.nanos + ns) = some (d.nanos + ns) :=
    fit_of_lt (by simp only [nanos, perSecond, UInt64.size]; omega)
  have hseconds : fit (s + (d.nanos + ns) / perSecond) = some (s + (d.nanos + ns) / perSecond) :=
    fit_of_lt (by simp only [nanos, perSecond, UInt64.size]; omega)
  have htotal : fit (d.seconds + (s + (d.nanos + ns) / perSecond)) =
      some (d.seconds + (s + (d.nanos + ns) / perSecond)) :=
    fit_of_lt (by simp only [seconds, nanos, perSecond, UInt64.size]; omega)
  simp only [add, hnanos, hseconds, htotal, bind, Option.bind, pure, ofParts, Option.some.injEq, Duration.mk.injEq]
  simp only [seconds, nanos, perSecond]
  omega

/-- An amount of a unit below a second is less than a second. -/
def Small (n : Nat) : Unit → Prop
  | .nanos each => n * each < perSecond
  | .seconds _ => True

/-- **An item adds its amount times what its unit holds.** -/
theorem addItem_eq (hunit : unit? name = some u) (hsmall : Small n u) (h : Fits ⟨d.nanoseconds + n * u.nanoseconds⟩) :
    addItem d n none name = some ⟨d.nanoseconds + n * u.nanoseconds⟩ := by
  cases u with
  | nanos each =>
    have hsum : d.nanoseconds + 0 * perSecond + n * each = d.nanoseconds + n * each := by omega
    have hfit : fit (n * each) = some (n * each) :=
      fit_of_lt (Nat.lt_trans hsmall (by decide))
    have hadd := add_eq (d := d) (s := 0) hsmall (by rwa [hsum])
    simp only [addItem, hunit, hfit, bind, Option.bind, hadd, pure, hsum, Unit.nanoseconds]
  | seconds each =>
    have hsum : d.nanoseconds + n * each * perSecond + 0 = d.nanoseconds + n * (each * perSecond) := by
      rw [Nat.mul_assoc, Nat.add_zero]
    have hfit : fit (n * each) = some (n * each) := by
      refine fit_of_lt ?_
      simp only [Fits, Unit.nanoseconds, ← Nat.mul_assoc, seconds, perSecond, UInt64.size] at h ⊢
      omega
    have hzero : 0 < perSecond := by decide
    have hadd := add_eq (d := d) (s := n * each) hzero (by rwa [hsum])
    simp only [addItem, hunit, hfit, bind, Option.bind, hadd, pure, hsum, Unit.nanoseconds]

/-! ## What the machine reads -/

/-- The letters of units are told from digits and blanks. -/
theorem plain_of_isLetter {c : Char} (h : isLetter c = true) : c.isDigit = false ∧ Text.isBlankChar c = false := by
  have hranges : 65 ≤ c.toNat ∧ c.toNat ≤ 90 ∨ 97 ≤ c.toNat ∧ c.toNat ≤ 122 ∨ c.toNat = 181 := by
    change (c.isUpper || c.isLower || c == 'µ') = true at h
    rw [Bool.or_eq_true, Bool.or_eq_true, beq_iff_eq] at h
    rcases h with (hupper | hlower) | rfl
    · exact .inl (of_decide_eq_true hupper)
    · have hlower := Bool.and_eq_true_iff.1 hlower
      exact .inr (.inl ⟨of_decide_eq_true hlower.1, of_decide_eq_true hlower.2⟩)
    · exact .inr (.inr rfl)
  constructor
  · refine Bool.eq_false_iff.2 fun hdigit => ?_
    simp only [Char.isDigit, Bool.and_eq_true, decide_eq_true_eq, ge_iff_le, UInt32.le_iff_toNat_le] at hdigit
    obtain ⟨hlow, hhigh⟩ : 48 ≤ c.toNat ∧ c.toNat ≤ 57 := hdigit
    omega
  · simp only [Text.isBlankChar, Text.inRanges, Text.blankRanges, List.any_cons, List.any_nil, Bool.or_eq_false_iff,
      Bool.and_eq_false_iff, decide_eq_false_iff_not]
    refine ⟨?_, ?_, ?_, ?_, ?_, ?_, ?_, ?_, ?_, ?_, trivial⟩ <;> omega

/-- The machine reads the digits of an amount that it has begun to read. -/
theorem run_whole (hdigits : ∀ c ∈ cs, c.isDigit = true) (h : Nat.ofDigitChars 10 cs n < UInt64.size) :
    run d (.whole n) (cs ++ rest) = run d (.whole (Nat.ofDigitChars 10 cs n)) rest := by
  induction cs generalizing n with
  | nil => rfl
  | cons c cs ih =>
    obtain ⟨hc, hcs⟩ := List.forall_mem_cons.1 hdigits
    have hvalue : n * 10 + digit c = 10 * n + (c.toNat - '0'.toNat) := by rw [digit, Nat.mul_comm]
    rw [Nat.ofDigitChars_cons] at h ⊢
    have hfit := fit_of_lt (Nat.lt_of_le_of_lt (Numeral.le_ofDigitChars cs _) h)
    rw [List.cons_append, run, step, if_pos hc, hvalue, hfit]
    exact ih hcs h

/-- **The machine reads the digits of an amount.** -/
theorem run_digits (h : n < UInt64.size) :
    run d (.before b) (Nat.toDigits 10 n ++ rest) = run d (.whole n) rest := by
  have hdigits : ∀ c ∈ Nat.toDigits 10 n, c.isDigit = true := fun c =>
    Nat.isDigit_of_mem_toDigits (by decide) (by decide)
  have hvalue : Nat.ofDigitChars 10 (Nat.toDigits 10 n) 0 = n := Nat.ofDigitChars_toDigits (by decide) (by decide)
  obtain ⟨c, cs, hcs⟩ := List.exists_cons_of_ne_nil (Nat.toDigits_ne_nil (n := n) (b := 10))
  rw [hcs] at hdigits hvalue ⊢
  obtain ⟨hc, hcs⟩ := List.forall_mem_cons.1 hdigits
  rw [Nat.ofDigitChars_cons] at hvalue
  rw [List.cons_append, run, step, if_pos hc]
  have hfirst : 10 * 0 + (c.toNat - '0'.toNat) = digit c := by rw [digit, Nat.mul_zero, Nat.zero_add]
  rw [hfirst] at hvalue
  have hrest : run d (.whole (digit c)) (cs ++ rest) = run d (.whole (Nat.ofDigitChars 10 cs (digit c))) rest :=
    run_whole hcs (by rwa [hvalue])
  rw [hvalue] at hrest
  exact hrest

/-- The machine reads the letters of a unit that it has begun to read. -/
theorem run_letters {letters : List Char} (hletters : ∀ c ∈ cs, isLetter c = true) :
    run d (.unit n none letters) (cs ++ rest) = run d (.unit n none (cs.reverse ++ letters)) rest := by
  induction cs generalizing letters with
  | nil => rfl
  | cons c cs ih =>
    obtain ⟨hc, hcs⟩ := List.forall_mem_cons.1 hletters
    obtain ⟨hdigit, hblank⟩ := plain_of_isLetter hc
    rw [List.cons_append, run, step, hdigit, hblank, hc, List.reverse_cons, List.append_assoc]
    exact ih hcs

/-- **The machine reads an amount and its unit.** -/
theorem run_item (hn : n < UInt64.size) (hname : name.toList ≠ []) (hletters : ∀ c ∈ name.toList, isLetter c = true) :
    run d (.before b) ((toString n ++ name).toList ++ rest) = run d (.unit n none name.toList.reverse) rest := by
  obtain ⟨c, cs, hcs⟩ := List.exists_cons_of_ne_nil hname
  rw [String.toList_append, Nat.toString_eq_repr, Nat.toList_repr, List.append_assoc, run_digits hn, hcs]
  rw [hcs] at hletters
  obtain ⟨hc, hcs⟩ := List.forall_mem_cons.1 hletters
  obtain ⟨hdigit, hblank⟩ := plain_of_isLetter hc
  rw [List.cons_append, run, step, hdigit, hblank, hc, List.reverse_cons]
  exact run_letters hcs

/-! ## What the machine makes of a row of items -/

/-- An item that is read as it is meant. -/
structure Proper (e : String × Nat) : Prop where
  amount : e.2 < UInt64.size
  nonempty : e.1.toList ≠ []
  letters : ∀ c ∈ e.1.toList, isLetter c = true
  unit : ∃ u, unit? e.1 = some u ∧ Small e.2 u

/-- The nanoseconds of an item. -/
def weight (e : String × Nat) : Nat :=
  e.2 * ((unit? e.1).map Unit.nanoseconds).getD 0

/-- The nanoseconds of a row of items. -/
def total (es : List (String × Nat)) : Nat :=
  (es.map weight).sum

@[simp] theorem total_cons (e : String × Nat) (es : List (String × Nat)) : total (e :: es) = weight e + total es := rfl

/-- The text of an item. -/
def text (e : String × Nat) : String :=
  toString e.2 ++ e.1

theorem Proper.addItem {e : String × Nat} (he : Proper e) (h : Fits ⟨d.nanoseconds + weight e⟩) :
    addItem d e.2 none e.1 = some ⟨d.nanoseconds + weight e⟩ := by
  obtain ⟨u, hu, hsmall⟩ := he.unit
  simp only [weight, hu, Option.map_some, Option.getD_some] at h ⊢
  exact addItem_eq hu hsmall h

/-- **The machine adds up a row of items.** -/
theorem run_items {e : String × Nat} {es : List (String × Nat)} (hes : ∀ x ∈ e :: es, Proper x)
    (h : Fits ⟨d.nanoseconds + total (e :: es)⟩) :
    run d (.before b) (String.intercalate " " ((e :: es).map text)).toList =
      some ⟨d.nanoseconds + total (e :: es)⟩ := by
  induction es generalizing d b e with
  | nil =>
    have he := hes e List.mem_cons_self
    have htotal : total [e] = weight e := Nat.add_zero _
    rw [htotal] at h ⊢
    have hitem : run d (.before b) ((toString e.2 ++ e.1).toList ++ []) = run d (.unit e.2 none e.1.toList.reverse) [] :=
      run_item he.amount he.nonempty he.letters
    rw [List.append_nil] at hitem
    rw [List.map_singleton, String.intercalate_singleton, text, hitem, run, List.reverse_reverse, String.ofList_toList,
      he.addItem h]
  | cons e' es ih =>
    have he := hes e List.mem_cons_self
    have htotal : total (e :: e' :: es) = weight e + total (e' :: es) := rfl
    have hsum : d.nanoseconds + total (e :: e' :: es) = d.nanoseconds + weight e + total (e' :: es) := by
      rw [htotal, Nat.add_assoc]
    rw [hsum] at h ⊢
    have hfits : Fits ⟨d.nanoseconds + weight e⟩ := by
      simp only [Fits, seconds] at h ⊢
      exact Nat.lt_of_le_of_lt (Nat.div_le_div_right (Nat.le_add_right _ _)) h
    have hrest := ih (d := ⟨d.nanoseconds + weight e⟩) (b := true) (fun x hx => hes x (List.mem_cons_of_mem e hx)) h
    have hblank : step d (.unit e.2 none e.1.toList.reverse) ' ' =
        some (⟨d.nanoseconds + weight e⟩, .before true) := by
      rw [step, if_neg (by decide), if_pos (by decide), List.reverse_reverse, String.ofList_toList, he.addItem hfits]
      rfl
    rw [List.map_cons, List.map_cons, String.intercalate_cons_cons, String.toList_append, String.toList_append,
      List.append_assoc, text, run_item he.amount he.nonempty he.letters]
    change (step d (.unit e.2 none e.1.toList.reverse) ' ' >>= fun next => run next.1 next.2 _) = _
    rw [hblank]
    exact hrest

/-! ## The amounts of a duration -/

/-- An amount of a unit that is a word with a plural. -/
def word (unit : String) (n : Nat) : String × Nat :=
  (if 1 < n then unit ++ "s" else unit, n)

/-- The amounts of a duration, the largest unit first. -/
def amounts (d : Duration) : List (String × Nat) :=
  let s := d.seconds
  let ns := d.nanos
  [word "year" (s / year), word "month" (s % year / month), word "day" (s % year % month / 86400),
   ("h", s % year % month % 86400 / 3600), ("m", s % year % month % 86400 % 3600 / 60),
   ("s", s % year % month % 86400 % 60), ("ms", ns / 1000000), ("us", ns / 1000 % 1000), ("ns", ns % 1000)]

/-- The amounts that are written. -/
def written (d : Duration) : List (String × Nat) :=
  (amounts d).filter (0 < ·.2)

theorem item_eq (e : String × Nat) : item e.1 e.2 = (if 0 < e.2 then [text e] else []) := by
  rw [item, text]
  split <;> split <;> first | rfl | omega

theorem flatMap_item (es : List (String × Nat)) :
    (es.flatMap fun e => item e.1 e.2) = (es.filter (0 < ·.2)).map text := by
  induction es with
  | nil => rfl
  | cons e es ih =>
    rw [List.flatMap_cons, ih, item_eq]
    by_cases h : 0 < e.2 <;> simp [h]

/-- The text of a duration lists the amounts that are not zero. -/
theorem render_eq (d : Duration) :
    render d = if (written d).isEmpty then "0s" else String.intercalate " " ((written d).map text) := by
  have hitems : render d = if ((amounts d).flatMap fun e => item e.1 e.2).isEmpty then "0s"
      else String.intercalate " " ((amounts d).flatMap fun e => item e.1 e.2) := by
    simp only [amounts, word, List.flatMap_cons, List.flatMap_nil, render, plural, List.append_assoc, List.append_nil]
  rw [hitems, flatMap_item, written, List.isEmpty_map]

/-- Amounts that are zero count for nothing. -/
theorem total_filter (es : List (String × Nat)) : total (es.filter (0 < ·.2)) = total es := by
  induction es with
  | nil => rfl
  | cons e es ih =>
    by_cases h : 0 < e.2
    · rw [List.filter_cons_of_pos (by simpa using h), total_cons, total_cons, ih]
    · have hzero : weight e = 0 := by rw [weight, Nat.eq_zero_of_not_pos h, Nat.zero_mul]
      rw [List.filter_cons_of_neg (by simpa using h), total_cons, ih, hzero, Nat.zero_add]

/-- A unit has the same length in the singular and in the plural. -/
theorem weight_word (unit : String) (h : unit? (unit ++ "s") = unit? unit) (n : Nat) :
    weight (word unit n) = weight (unit, n) := by
  rw [weight, weight, word]
  split
  · rw [h]
  · rfl

theorem weight_of_seconds (name : String) {each : Nat} (h : unit? name = some (.seconds each)) (n : Nat) :
    weight (name, n) = n * each * perSecond := by
  rw [weight, h, Option.map_some, Option.getD_some, Unit.nanoseconds, Nat.mul_assoc]

theorem weight_of_nanos (name : String) {each : Nat} (h : unit? name = some (.nanos each)) (n : Nat) :
    weight (name, n) = n * each := by
  rw [weight, h, Option.map_some, Option.getD_some, Unit.nanoseconds]

/-- The seconds of the amounts from the second on. -/
theorem seconds_amounts (s : Nat) :
    s / year * year + (s % year / month * month + (s % year % month / 86400 * 86400 +
      (s % year % month % 86400 / 3600 * 3600 + (s % year % month % 86400 % 3600 / 60 * 60 +
        s % year % month % 86400 % 60)))) = s := by
  have hsplit : ∀ n k : Nat, n / k * k + n % k = n := fun n k => Nat.div_add_mod' n k
  have hminute : ∀ n : Nat, n % 60 = n % 3600 % 60 := fun n => (Nat.mod_mod_of_dvd n (by decide)).symm
  rw [hminute (s % year % month % 86400), hsplit, hsplit, hsplit, hsplit, hsplit]

/-- The nanoseconds of the amounts below the second. -/
theorem nanos_amounts (ns : Nat) : ns / 1000000 * 1000000 + (ns / 1000 % 1000 * 1000 + ns % 1000) = ns := by
  omega

/-- **The amounts of a duration are the duration.** -/
theorem total_amounts (d : Duration) : total (amounts d) = d.nanoseconds := by
  have hyear := fun n => (weight_word "year" rfl n).trans (weight_of_seconds "year" rfl n)
  have hmonth := fun n => (weight_word "month" rfl n).trans (weight_of_seconds "month" rfl n)
  have hday := fun n => (weight_word "day" rfl n).trans (weight_of_seconds "day" rfl n)
  have hparts : d.seconds * perSecond + d.nanos = d.nanoseconds := by
    rw [seconds, nanos, Nat.div_add_mod']
  rw [amounts, total_cons, hyear, total_cons, hmonth, total_cons, hday, total_cons,
    weight_of_seconds "h" rfl, total_cons, weight_of_seconds "m" rfl, total_cons,
    weight_of_seconds "s" rfl, Nat.mul_one, total_cons, weight_of_nanos "ms" rfl, total_cons,
    weight_of_nanos "us" rfl, total_cons, weight_of_nanos "ns" rfl, Nat.mul_one]
  rw [← seconds_amounts d.seconds, ← nanos_amounts d.nanos] at hparts
  rw [← hparts]
  simp only [Nat.add_mul, Nat.add_assoc, total, List.map_nil, List.sum_nil, Nat.add_zero]

/-- A name of a unit. -/
structure Names (name : String) (u : Unit) : Prop where
  nonempty : name.toList ≠ []
  letters : name.toList.all isLetter = true
  unit : unit? name = some u

theorem Names.proper (h : Names name u) (hn : n < UInt64.size) (hsmall : Small n u) : Proper (name, n) :=
  ⟨hn, h.nonempty, List.all_eq_true.1 h.letters, u, h.unit, hsmall⟩

theorem Names.proper_word {unit : String} (h : Names unit u) (h' : Names (unit ++ "s") u) (hn : n < UInt64.size)
    (hsmall : Small n u) : Proper (word unit n) := by
  rw [word]
  split
  · exact h'.proper hn hsmall
  · exact h.proper hn hsmall

/-- The amounts of a duration of 64 bits of seconds are read as they are meant. -/
theorem proper_of_mem_amounts (h : Fits d) : ∀ e ∈ amounts d, Proper e := by
  have hle : ∀ {n : Nat}, n ≤ d.seconds → n < UInt64.size := fun hn => Nat.lt_of_le_of_lt hn h
  have hdiv : ∀ {n : Nat} (k : Nat), n ≤ d.seconds → n / k ≤ d.seconds := fun k hn =>
    Nat.le_trans (Nat.div_le_self _ k) hn
  have hmod : ∀ {n : Nat} (k : Nat), n ≤ d.seconds → n % k ≤ d.seconds := fun k hn =>
    Nat.le_trans (Nat.mod_le _ k) hn
  have hs := Nat.le_refl d.seconds
  have hnanos : d.nanos < 1000000000 := Nat.mod_lt _ (by decide)
  simp only [amounts, List.forall_mem_cons, List.not_mem_nil, false_implies, implies_true, and_true]
  refine ⟨?_, ?_, ?_, ?_, ?_, ?_, ?_, ?_, ?_⟩
  · exact Names.proper_word (u := .seconds year) ⟨by decide, by decide, rfl⟩ ⟨by decide, by decide, rfl⟩
      (hle (hdiv _ hs)) trivial
  · exact Names.proper_word (u := .seconds month) ⟨by decide, by decide, rfl⟩ ⟨by decide, by decide, rfl⟩
      (hle (hdiv _ (hmod _ hs))) trivial
  · exact Names.proper_word (u := .seconds 86400) ⟨by decide, by decide, rfl⟩ ⟨by decide, by decide, rfl⟩
      (hle (hdiv _ (hmod _ (hmod _ hs)))) trivial
  · exact Names.proper (u := .seconds 3600) ⟨by decide, by decide, rfl⟩
      (hle (hdiv _ (hmod _ (hmod _ (hmod _ hs))))) trivial
  · exact Names.proper (u := .seconds 60) ⟨by decide, by decide, rfl⟩
      (hle (hdiv _ (hmod _ (hmod _ (hmod _ (hmod _ hs)))))) trivial
  · exact Names.proper (u := .seconds 1) ⟨by decide, by decide, rfl⟩
      (hle (hmod _ (hmod _ (hmod _ (hmod _ hs))))) trivial
  · exact Names.proper (u := .nanos 1000000) ⟨by decide, by decide, rfl⟩ (by simp only [UInt64.size]; omega)
      (by simp only [Small, perSecond]; omega)
  · exact Names.proper (u := .nanos 1000) ⟨by decide, by decide, rfl⟩ (by simp only [UInt64.size]; omega)
      (by simp only [Small, perSecond]; omega)
  · exact Names.proper (u := .nanos 1) ⟨by decide, by decide, rfl⟩ (by simp only [UInt64.size]; omega)
      (by simp only [Small, perSecond]; omega)

theorem total_written (d : Duration) : total (written d) = d.nanoseconds :=
  (total_filter _).trans (total_amounts d)

/-- **A duration is what is read from its text.** -/
theorem read?_render (h : Fits d) : read? (render d) = some d := by
  have htotal := total_written d
  have hproper : ∀ e ∈ written d, Proper e := fun e he => proper_of_mem_amounts h e (List.mem_filter.1 he).1
  rw [render_eq]
  rcases hwritten : written d with _ | ⟨e, es⟩
  · have hzero : d = ⟨0⟩ := by
      rw [hwritten] at htotal
      exact congrArg Duration.mk htotal.symm
    subst hzero
    decide
  · rw [hwritten] at htotal hproper
    have hrun : run ⟨0⟩ (.before false) (String.intercalate " " ((e :: es).map text)).toList = some d := by
      rw [run_items hproper (by rwa [Nat.zero_add, htotal]), Nat.zero_add, htotal]
    rw [List.isEmpty_cons, if_neg (by decide), read?, if_neg]
    · exact hrun
    · intro hzero
      rw [hzero] at hrun
      cases hrun

end RemoteShell.Duration.Human
