import RemoteShell.Proofs.Text.Numeral
import RemoteShell.Proofs.Text.Utf16
import RemoteShell.Settings.Format.Json

/-!
# Reading back JSON

Every value that is made of the kinds of JSON is what is read from its text (`parse?_render`).

A text is read one character after the other, and a character from its escape (`units?_escapeChar`); a number ends where
no digit follows (`number?_integer`); and a list or a table is read item by item, up to the bracket that closes it
(`items?_render`, `entries?_render`).  What follows a value is a comma, a closing bracket or nothing, so that it cannot
go on with the value (`Closes`).  The fuel of a reader is used up no faster than the characters.
-/

namespace RemoteShell.Json

variable {c : Char} {cs rest : List Char} {n : Nat}

/-! ## Texts -/

/-- The hexadecimal digits of a control character. -/
theorem unit?_control :
    ∀ n < 0x20, unit? '0' '0' (if n < 0x10 then '0' else '1') (Nat.digitChar (n % 16)) = some n := by
  decide

/-- One of the letters of an escape. -/
theorem units?_escape {e c : Char} (rest : List Char) (hu : e ≠ 'u') (h : escaped? e = some c) :
    units? ('\\' :: e :: rest) = (units? rest).map fun read => (Utf16.units c ++ read.1, read.2) := by
  rw [units?]
  · rw [h]
    cases units? rest <;> rfl
  · intro _ _ _ _ _ heq
    exact absurd heq (by simpa using hu)

theorem units?_plain {c : Char} (rest : List Char) (hquote : c ≠ '"') (hslash : c ≠ '\\')
    (hcontrol : ¬ c.toNat < 0x20) :
    units? (c :: rest) = (units? rest).map fun read => (Utf16.units c ++ read.1, read.2) := by
  rw [units?]
  · rw [if_neg (by simp [hcontrol, hslash])]
    cases units? rest <;> rfl
  · exact hquote
  · intros; simp_all
  · intros; simp_all

theorem units?_control {c : Char} (rest : List Char) (hcontrol : c.toNat < 0x20) :
    units? ('\\' :: 'u' :: '0' :: '0' :: (if c.toNat < 0x10 then '0' else '1') :: Nat.digitChar (c.toNat % 16) ::
        rest) =
      (units? rest).map fun read => (Utf16.units c ++ read.1, read.2) := by
  have hunits : Utf16.units c = [c.toNat] := if_pos (by omega)
  rw [units?, unit?_control c.toNat hcontrol, hunits]
  cases units? rest <;> rfl

/-- **A character is read from its escape**, whatever follows. -/
theorem units?_escapeChar (c : Char) (rest : List Char) :
    units? ((escapeChar c).toList ++ rest) = (units? rest).map fun read => (Utf16.units c ++ read.1, read.2) := by
  unfold escapeChar
  split
  case h_8 hquote hslash _ _ _ _ _ =>
    split
    · rename_i hcontrol
      rw [← units?_control rest hcontrol]
      congr 1
      have hdigit : Text.hexDigits (c.toNat % 16) = String.singleton (Nat.digitChar (c.toNat % 16)) := by
        rw [Text.hexDigits, Nat.toDigits_of_lt_base (by omega)]; rfl
      rw [hdigit]
      split <;> simp
    · rename_i hcontrol
      rw [String.toList_singleton, List.singleton_append]
      exact units?_plain rest hquote hslash hcontrol
  all_goals exact units?_escape rest (by decide) (by decide)

/-- The characters of a text between quotes. -/
def escaped (s : String) : List Char :=
  s.toList.flatMap fun c => (escapeChar c).toList

theorem toList_quote (s : String) : (quote s).toList = '"' :: (escaped s ++ ['"']) := by
  rw [quote, escaped, String.toList_append, String.toList_append, String.toList_join, List.flatMap_map]
  rfl

theorem mapM_id_map_some {α : Type} (as : List α) : (as.map some).mapM id = some as := by
  induction as with
  | nil => rfl
  | cons a as ih => rw [List.map_cons, List.mapM_cons, ih]; rfl

theorem units?_escaped (s : String) (rest : List Char) :
    units? (escaped s ++ '"' :: rest) = some (Utf16.encode s, rest) := by
  rw [escaped, Utf16.encode]
  induction s.toList with
  | nil => rfl
  | cons c cs ih => rw [List.flatMap_cons, List.append_assoc, units?_escapeChar, ih, Option.map_some, List.flatMap_cons]

/-- **A text is read from between its quotes.** -/
theorem text?_escaped (s : String) (rest : List Char) : text? (escaped s ++ '"' :: rest) = some (s, rest) := by
  rw [text?, units?_escaped]
  change ((Utf16.join ((Utf16.encode s).map some)).mapM id >>= fun chars => some (String.ofList chars, rest)) = _
  rw [Utf16.join_encode, mapM_id_map_some]
  change some (String.ofList s.toList, rest) = some (s, rest)
  rw [String.ofList_toList]

/-! ## Numbers -/

/-- What follows a value does not go on with it: nothing, a comma or a closing bracket. -/
def Closes (rest : List Char) : Prop :=
  ∀ c ∈ rest.head?, c = ',' ∨ c = ']' ∨ c = '\x7d'

theorem closes_cons (h : c = ',' ∨ c = ']' ∨ c = '\x7d') (cs : List Char) : Closes (c :: cs) := by
  rintro _ ⟨rfl⟩
  exact h

theorem Closes.isDigit_eq_false (h : Closes rest) : ∀ c ∈ rest.head?, c.isDigit = false := by
  intro c hc
  rcases h c hc with rfl | rfl | rfl <;> rfl

theorem Closes.takeWhile_isDigit (h : Closes rest) : rest.takeWhile Char.isDigit = [] := by
  cases rest with
  | nil => rfl
  | cons c rest => exact List.takeWhile_cons_of_neg (by rw [h.isDigit_eq_false c rfl]; decide)

theorem Closes.dropWhile_isDigit (h : Closes rest) : rest.dropWhile Char.isDigit = rest := by
  cases rest with
  | nil => rfl
  | cons c rest => exact List.dropWhile_cons_of_neg (by rw [h.isDigit_eq_false c rfl]; decide)

theorem digits?_append (hcs : ∀ c ∈ cs, c.isDigit = true) (hne : cs ≠ []) (h : Closes rest) :
    digits? (cs ++ rest) = some (cs, rest) := by
  rw [digits?, List.takeWhile_append_of_pos hcs, List.dropWhile_append_of_pos hcs, h.takeWhile_isDigit,
    h.dropWhile_isDigit, List.append_nil]
  simp only [List.isEmpty_iff, hne, if_false]

theorem whole?_toDigits (n : Nat) (h : Closes rest) :
    whole? (Nat.toDigits 10 n ++ rest) = some (Nat.toDigits 10 n, rest) := by
  rcases Nat.eq_zero_or_pos n with rfl | hn
  · rfl
  · have hdigits : ∀ c ∈ Nat.toDigits 10 n, c.isDigit = true := fun c =>
      Nat.isDigit_of_mem_toDigits (by decide) (by decide)
    obtain ⟨c, cs, hcs, -, hfirst⟩ := Numeral.exists_toDigits n
    rw [whole?]
    · exact digits?_append hdigits Nat.toDigits_ne_nil h
    · intro cs' heq
      rw [hcs] at heq
      exact hfirst hn (List.cons.inj heq).1

theorem Closes.fraction? (h : Closes rest) : fraction? rest = some (false, rest) := by
  rw [Json.fraction?]
  rintro rest' rfl
  rcases h '.' rfl with h | h | h <;> cases h

theorem Closes.exponent? (h : Closes rest) : exponent? rest = some (false, rest) := by
  cases rest with
  | nil => rfl
  | cons c rest =>
    refine if_neg ?_
    rcases h c rfl with rfl | rfl | rfl <;> decide

/-- **A number is read from its digits.** -/
theorem magnitude?_toDigits (n : Nat) (h : Closes rest) :
    magnitude? (Nat.toDigits 10 n ++ rest) = some (some n, rest) := by
  have hvalue : (Nat.toDigits 10 n).foldl (fun n c => n * 10 + (c.toNat - '0'.toNat)) 0 = n := by
    have hfold := Nat.ofDigitChars_toDigits (b := 10) (n := n) (by decide) (by decide)
    simpa only [Nat.ofDigitChars, Nat.mul_comm 10] using hfold
  rw [magnitude?, whole?_toDigits n h]
  change (fraction? rest >>= fun read => exponent? read.2 >>= fun read' => _) = _
  rw [h.fraction?]
  change (exponent? rest >>= fun read' => _) = _
  rw [h.exponent?]
  change some (some ((Nat.toDigits 10 n).foldl (fun n c => n * 10 + (c.toNat - '0'.toNat)) 0), rest) = _
  rw [hvalue]

/-- The first character of a numeral. -/
def OpensNumeral (c : Char) : Prop :=
  c = '-' ∨ c.isDigit = true

/-- **An integer is read from its numeral.** -/
theorem number?_integer (n : Int) (h : Closes rest) :
    number? ((toString n).toList ++ rest) = some (.integer n, rest) := by
  rw [Int.toString_eq_repr, Int.repr_eq_if]
  split
  · rename_i hn
    rw [Nat.toList_repr, number?, magnitude?_toDigits _ h]
    · change some (Value.integer n.toNat, rest) = _
      rw [Int.toNat_of_nonneg hn]
    · intro cs heq
      obtain ⟨c, cs', hcs, hc, -⟩ := Numeral.exists_toDigits n.toNat
      rw [hcs] at heq
      obtain rfl : c = '-' := (List.cons.inj heq).1
      cases hc
  · rename_i hn
    obtain ⟨m, hm⟩ : ∃ m, (-n).toNat = m + 1 := ⟨(-n).toNat - 1, by omega⟩
    rw [String.toList_append, Nat.toList_repr, List.append_assoc]
    change (magnitude? (Nat.toDigits 10 (-n).toNat ++ rest) >>= fun read => _) = _
    rw [magnitude?_toDigits _ h, hm]
    change some (Value.integer (-(m + 1)), rest) = _
    have hvalue : -((m : Int) + 1) = n := by omega
    rw [hvalue]

theorem exists_toString (n : Int) : ∃ c cs, (toString n).toList = c :: cs ∧ OpensNumeral c := by
  rw [Int.toString_eq_repr, Int.repr_eq_if]
  split
  · obtain ⟨c, cs, hcs, hc, -⟩ := Numeral.exists_toDigits n.toNat
    exact ⟨c, cs, by rw [Nat.toList_repr, hcs], .inr hc⟩
  · exact ⟨'-', _, String.toList_append, .inl rfl⟩

/-! ## Values -/

/-- The values of the kinds of JSON. -/
inductive IsData : Value → Prop
  | null : IsData .null
  | flag (b : Bool) : IsData (.flag b)
  | integer (n : Int) : IsData (.integer n)
  | text (s : String) : IsData (.text s)
  | list {items : List Value} (items_data : ∀ v ∈ items, IsData v) : IsData (.list items)
  | table {entries : List (String × Value)} (entries_data : ∀ e ∈ entries, IsData e.2) : IsData (.table entries)

theorem skip_cons (h : isBlank c = false) (cs : List Char) : skip (c :: cs) = c :: cs :=
  List.dropWhile_cons_of_neg (by rw [h]; decide)

theorem OpensNumeral.isBlank (h : OpensNumeral c) : isBlank c = false := by
  refine Bool.eq_false_iff.2 fun hblank => ?_
  simp only [Json.isBlank, Bool.or_eq_true, beq_iff_eq] at hblank
  rcases hblank with ((rfl | rfl) | rfl) | rfl <;> rcases h with h | h <;> cases h

/-- What opens a numeral opens nothing else. -/
theorem OpensNumeral.value?_cons (h : OpensNumeral c) (fuel : Nat) (cs : List Char) :
    value? (fuel + 1) (c :: cs) = number? (c :: cs) := by
  rw [value?, skip_cons h.isBlank]
  split
  case h_7 => rfl
  all_goals
    rename_i heq
    obtain rfl := (List.cons.inj heq).1
    rcases h with h | h <;> cases h

/-- The text of a value opens with a character that is neither blank nor closes a list. -/
theorem exists_render {v : Value} (h : IsData v) :
    ∃ c cs, (render v).toList = c :: cs ∧ Json.isBlank c = false ∧ c ≠ ']' := by
  cases h with
  | null => exact ⟨'n', _, rfl, rfl, by decide⟩
  | flag b => cases b with
    | true => exact ⟨'t', _, rfl, rfl, by decide⟩
    | false => exact ⟨'f', _, rfl, rfl, by decide⟩
  | integer n =>
    obtain ⟨c, cs, hcs, hc⟩ := exists_toString n
    refine ⟨c, cs, hcs, hc.isBlank, ?_⟩
    rintro rfl
    rcases hc with h | h <;> cases h
  | text s => exact ⟨'"', _, toList_quote s, rfl, by decide⟩
  | list _ => 
    rw [render, String.toList_append, String.toList_append]
    exact ⟨'[', _, rfl, rfl, by decide⟩
  | table _ => 
    rw [render, String.toList_append, String.toList_append]
    exact ⟨'\x7b', _, rfl, rfl, by decide⟩

/-- A value is read from its text if the fuel is as long as the text. -/
def Reads (v : Value) : Prop :=
  ∀ fuel rest, (render v).toList.length ≤ fuel → Closes rest → value? fuel ((render v).toList ++ rest) = some (v, rest)

/-- The items of a list, with commas in between. -/
def itemChars (items : List Value) : List Char :=
  (String.intercalate "," (renderItems items)).toList

theorem itemChars_singleton (v : Value) : itemChars [v] = (render v).toList := by
  rw [itemChars, renderItems, renderItems, String.intercalate_singleton]

theorem itemChars_cons_cons (v v' : Value) (items : List Value) :
    itemChars (v :: v' :: items) = (render v).toList ++ ',' :: itemChars (v' :: items) := by
  rw [itemChars, renderItems, renderItems, String.intercalate_cons_cons, String.toList_append, String.toList_append,
    List.append_assoc, itemChars, renderItems]
  rfl

/-- **The items of a list are read** up to its end. -/
theorem items?_render {v : Value} {items : List Value} (h : ∀ x ∈ v :: items, Reads x) {fuel : Nat}
    (hfuel : (itemChars (v :: items)).length < fuel) (rest : List Char) :
    items? fuel (itemChars (v :: items) ++ ']' :: rest) = some (v :: items, rest) := by
  induction items generalizing v fuel with
  | nil =>
    obtain ⟨fuel, rfl⟩ : ∃ n, fuel = n + 1 := ⟨fuel - 1, by omega⟩
    rw [itemChars_singleton] at hfuel ⊢
    have hv := h v List.mem_cons_self fuel (']' :: rest) (by omega) (closes_cons (by decide) rest)
    rw [items?, hv]
    rfl
  | cons v' items ih =>
    obtain ⟨fuel, rfl⟩ : ∃ n, fuel = n + 1 := ⟨fuel - 1, by omega⟩
    rw [itemChars_cons_cons] at hfuel ⊢
    rw [List.length_append, List.length_cons] at hfuel
    have hv := h v List.mem_cons_self fuel (',' :: (itemChars (v' :: items) ++ ']' :: rest)) (by omega)
      (closes_cons (by decide) _)
    have hrest := ih (fun x hx => h x (List.mem_cons_of_mem v hx)) (show _ < fuel by omega)
    rw [List.append_assoc, List.cons_append, items?, hv]
    change (items? fuel (itemChars (v' :: items) ++ ']' :: rest) >>= fun read => _) = _
    rw [hrest]
    rfl

/-- The entries of a table, with commas in between. -/
def entryChars (entries : List (String × Value)) : List Char :=
  (String.intercalate "," (renderEntries entries)).toList

theorem entryChars_singleton (e : String × Value) :
    entryChars [e] = '"' :: (escaped e.1 ++ '"' :: ':' :: (render e.2).toList) := by
  rw [entryChars, renderEntries, renderEntries, String.intercalate_singleton, String.toList_append,
    String.toList_append, toList_quote]
  simp

theorem entryChars_cons_cons (e e' : String × Value) (entries : List (String × Value)) :
    entryChars (e :: e' :: entries) = entryChars [e] ++ ',' :: entryChars (e' :: entries) := by
  rw [entryChars, renderEntries, renderEntries, String.intercalate_cons_cons, String.toList_append,
    String.toList_append, List.append_assoc, entryChars, entryChars, renderEntries, renderEntries, renderEntries,
    String.intercalate_singleton]
  rfl

/-- **The entries of a table are read** up to its end. -/
theorem entries?_render {e : String × Value} {entries : List (String × Value)} (h : ∀ x ∈ e :: entries, Reads x.2)
    {fuel : Nat} (hfuel : (entryChars (e :: entries)).length < fuel) (rest : List Char) :
    entries? fuel (entryChars (e :: entries) ++ '\x7d' :: rest) = some (e :: entries, rest) := by
  induction entries generalizing e fuel with
  | nil =>
    obtain ⟨fuel, rfl⟩ : ∃ n, fuel = n + 1 := ⟨fuel - 1, by omega⟩
    rw [entryChars_singleton] at hfuel ⊢
    simp only [List.length_cons, List.length_append] at hfuel
    have hv := h e List.mem_cons_self fuel ('\x7d' :: rest) (by omega) (closes_cons (by decide) rest)
    rw [List.cons_append, entries?, skip_cons rfl]
    simp only [List.append_assoc, List.cons_append, text?_escaped]
    change (value? fuel ((render e.2).toList ++ '\x7d' :: rest) >>= fun read => _) = _
    rw [hv]
    rfl
  | cons e' entries ih =>
    obtain ⟨fuel, rfl⟩ : ∃ n, fuel = n + 1 := ⟨fuel - 1, by omega⟩
    rw [entryChars_cons_cons, entryChars_singleton] at hfuel ⊢
    simp only [List.length_cons, List.length_append] at hfuel
    have hv := h e List.mem_cons_self fuel (',' :: (entryChars (e' :: entries) ++ '\x7d' :: rest)) (by omega)
      (closes_cons (by decide) _)
    have hrest := ih (fun x hx => h x (List.mem_cons_of_mem e hx)) (show _ < fuel by omega)
    rw [List.cons_append, List.cons_append, entries?, skip_cons rfl]
    simp only [List.append_assoc, List.cons_append, text?_escaped]
    change (value? fuel ((render e.2).toList ++ ',' :: (entryChars (e' :: entries) ++ '\x7d' :: rest)) >>=
      fun read => _) = _
    rw [hv]
    change (entries? fuel (entryChars (e' :: entries) ++ '\x7d' :: rest) >>= fun read => _) = _
    rw [hrest]
    rfl

/-- A text is not empty, so there is fuel. -/
theorem reads_of_succ {v : Value} (hv : IsData v)
    (h : ∀ fuel rest, (render v).toList.length ≤ fuel + 1 → Closes rest →
      value? (fuel + 1) ((render v).toList ++ rest) = some (v, rest)) : Reads v := by
  intro fuel rest hfuel hrest
  obtain ⟨c, cs, hcs, -⟩ := exists_render hv
  cases fuel with
  | zero =>
    rw [hcs] at hfuel
    exact absurd hfuel (Nat.not_succ_le_zero _)
  | succ fuel => exact h fuel rest hfuel hrest

theorem toList_render_list (items : List Value) :
    (render (.list items)).toList = '[' :: (itemChars items ++ [']']) := by
  rw [render, String.toList_append, String.toList_append, itemChars]
  rfl

theorem toList_render_table (entries : List (String × Value)) :
    (render (.table entries)).toList = '\x7b' :: (entryChars entries ++ ['\x7d']) := by
  rw [render, String.toList_append, String.toList_append, entryChars]
  rfl

/-- The items of a list do not open with the bracket that closes it. -/
theorem exists_itemChars {v : Value} (h : IsData v) (items : List Value) :
    ∃ c cs, itemChars (v :: items) = c :: cs ∧ Json.isBlank c = false ∧ c ≠ ']' := by
  obtain ⟨c, cs, hcs, hc⟩ := exists_render h
  cases items with
  | nil => exact ⟨c, cs, by rw [itemChars_singleton, hcs], hc⟩
  | cons v' items => exact ⟨c, _, by rw [itemChars_cons_cons, hcs, List.cons_append], hc⟩

theorem exists_entryChars (e : String × Value) (entries : List (String × Value)) :
    ∃ cs, entryChars (e :: entries) = '"' :: cs := by
  cases entries with
  | nil => exact ⟨_, entryChars_singleton e⟩
  | cons e' entries => exact ⟨_, by rw [entryChars_cons_cons, entryChars_singleton, List.cons_append]⟩

/-- **Every value of the kinds of JSON is read from its text**, whatever follows and closes it. -/
theorem reads_render {v : Value} (h : IsData v) : Reads v := by
  induction h with
  | null => exact reads_of_succ .null fun fuel rest _ _ => rfl
  | flag b => 
    refine reads_of_succ (.flag b) fun fuel rest _ _ => ?_
    cases b <;> rfl
  | integer n =>
    refine reads_of_succ (.integer n) fun fuel rest _ hrest => ?_
    obtain ⟨c, cs, hcs, hc⟩ := exists_toString n
    have hnumber := number?_integer n hrest
    rw [render]
    rw [hcs] at hnumber ⊢
    rw [List.cons_append, hc.value?_cons, ← List.cons_append, hnumber]
  | text s =>
    refine reads_of_succ (.text s) fun fuel rest _ _ => ?_
    rw [render, toList_quote, List.cons_append, List.append_assoc, value?, skip_cons rfl]
    change (text? (escaped s ++ '"' :: rest)).map _ = _
    rw [text?_escaped, Option.map_some]
  | @list items hdata ih =>
    refine reads_of_succ (.list hdata) fun fuel rest hfuel _ => ?_
    rw [toList_render_list] at hfuel ⊢
    cases items with
    | nil => rfl
    | cons v items =>
      simp only [List.length_cons, List.length_append, List.length_nil] at hfuel
      have hitems := items?_render ih (show _ < fuel by omega) rest
      obtain ⟨c, cs, hcs, hc, hclose⟩ := exists_itemChars (hdata v List.mem_cons_self) items
      rw [List.cons_append, List.append_assoc, value?, skip_cons rfl]
      rw [hcs] at hitems ⊢
      simp only [List.cons_append, List.nil_append] at hitems ⊢
      rw [skip_cons hc]
      split
      · rename_i heq
        exact absurd (List.cons.inj heq).1 hclose
      · rw [hitems, Option.map_some]
  | @table entries hdata ih =>
    refine reads_of_succ (.table hdata) fun fuel rest hfuel _ => ?_
    rw [toList_render_table] at hfuel ⊢
    cases entries with
    | nil => rfl
    | cons e entries =>
      simp only [List.length_cons, List.length_append, List.length_nil] at hfuel
      have hentries := entries?_render ih (show _ < fuel by omega) rest
      obtain ⟨cs, hcs⟩ := exists_entryChars e entries
      rw [List.cons_append, List.append_assoc, value?, skip_cons rfl]
      rw [hcs] at hentries ⊢
      simp only [List.cons_append, List.nil_append] at hentries ⊢
      rw [skip_cons rfl]
      change (entries? fuel _).map _ = _
      rw [hentries, Option.map_some]

/-- **Every value of the kinds of JSON is what is read from its text.** -/
theorem parse?_render {v : Value} (h : IsData v) : parse? (render v) = some v := by
  have hread := reads_render h (2 * (render v).toList.length + 2) [] (by omega) (by rintro c ⟨⟩)
  rw [List.append_nil] at hread
  change (value? (2 * (render v).toList.length + 2) (render v).toList >>= fun read => _) = _
  rw [hread]
  rfl

end RemoteShell.Json
