import Mathlib.Data.List.Basic
import RemoteShell.Base64
import RemoteShell.Proofs.Text.Utf8

/-!
# What Base64 is read as

A text of Base64 is a row of symbols for six-bit values and the padding behind it (`Spelled`): the padding fills
the last group of four, no group has a single symbol, and the bits of the last symbol that belong to no byte are
zero.  Reading takes a text exactly if it is such a row, and gives the bytes of the values
(`decodeBytes_eq_ok_iff_spelled`), although it reads the last bytes, up to eight of them, in another way than what
is in front of them.

Bytes and the rows that spell them determine each other.  So reading accepts exactly what writing produces, and
undoes it (`decode_eq_ok_iff`).
-/

namespace RemoteShell.Base64

/-! ## Symbols -/

theorem value?_symbol : ∀ v < 64, value? (symbol v) = some v := by
  decide

theorem symbol_ne_pad : ∀ v < 64, symbol v ≠ pad := by
  decide

theorem symbol_ascii : ∀ v < 64, (symbol v).toNat < 128 := by
  decide

/-- A byte has a value exactly if it is the symbol of the value. -/
theorem value?_eq_some_iff {b : UInt8} {v : Nat} : value? b = some v ↔ v < 64 ∧ b = symbol v := by
  have hall : ∀ n < 256, ∀ w ∈ value? (UInt8.ofNat n), w < 64 ∧ UInt8.ofNat n = symbol w := by
    decide +kernel
  refine ⟨fun h => ?_, ?_⟩
  · have hb : UInt8.ofNat b.toNat = b := UInt8.ofNat_toNat
    have hvalue := hall b.toNat b.toNat_lt v (by rw [hb]; exact h)
    rwa [hb] at hvalue
  · rintro ⟨hv, rfl⟩
    exact value?_symbol v hv

theorem symbol_inj {v w : Nat} (hv : v < 64) (hw : w < 64) (h : symbol v = symbol w) : v = w :=
  Option.some.inj ((value?_symbol v hv).symm.trans ((congrArg value? h).trans (value?_symbol w hw)))

/-! ## Rows of symbols -/

/-- Some bytes are the symbols of some values and some padding behind them. -/
structure Row (input : List UInt8) (vs : List Nat) (pads : Nat) : Prop where
  input_eq : input = vs.map symbol ++ List.replicate pads pad
  small : ∀ v ∈ vs, v < 64

section

variable {b : UInt8} {input : List UInt8} {v : Nat} {vs : List Nat} {pads : Nat}

theorem row_nil_iff : Row [] vs pads ↔ vs = [] ∧ pads = 0 := by
  constructor
  · intro h
    have hlength := congrArg List.length h.input_eq
    rw [List.length_nil, List.length_append, List.length_map, List.length_replicate] at hlength
    exact ⟨List.eq_nil_of_length_eq_zero (by omega), by omega⟩
  · rintro ⟨rfl, rfl⟩
    exact ⟨rfl, by simp⟩

/-- Behind a padding symbol there is only padding. -/
theorem row_pad_iff : Row (pad :: input) vs pads ↔ vs = [] ∧ ∃ n, pads = n + 1 ∧ Row input [] n := by
  constructor
  · intro h
    have hinput := h.input_eq
    cases vs with
    | cons v vs => exact absurd (List.cons.inj hinput).1.symm (symbol_ne_pad v (h.small v List.mem_cons_self))
    | nil =>
      cases pads with
      | zero => cases hinput
      | succ n => exact ⟨rfl, n, rfl, (List.cons.inj hinput).2, h.small⟩
  · rintro ⟨rfl, n, rfl, h⟩
    exact ⟨congrArg (pad :: ·) h.input_eq, h.small⟩

theorem row_symbol_iff (hv : v < 64) :
    Row (symbol v :: input) vs pads ↔ ∃ ws, vs = v :: ws ∧ Row input ws pads := by
  constructor
  · intro h
    have hinput := h.input_eq
    cases vs with
    | nil =>
      cases pads with
      | zero => cases hinput
      | succ n => exact absurd (List.cons.inj hinput).1 (symbol_ne_pad v hv)
    | cons w ws =>
      obtain ⟨hsymbol, hrest⟩ := List.cons.inj hinput
      obtain ⟨hw, hsmall⟩ := List.forall_mem_cons.1 h.small
      exact ⟨ws, by rw [symbol_inj hv hw hsymbol], hrest, hsmall⟩
  · rintro ⟨ws, rfl, h⟩
    exact ⟨congrArg (symbol v :: ·) h.input_eq, List.forall_mem_cons.2 ⟨hv, h.small⟩⟩

/-- In a row there are only symbols of values and padding symbols. -/
theorem not_row (hb : b ≠ pad) (hvalue : value? b = none) : ¬ Row (b :: input) vs pads := by
  intro h
  have hinput := h.input_eq
  cases vs with
  | nil =>
    cases pads with
    | zero => cases hinput
    | succ n => exact hb (List.cons.inj hinput).1
  | cons v vs =>
    have hsymbol := value?_symbol v (h.small v List.mem_cons_self)
    rw [← (List.cons.inj hinput).1, hvalue] at hsymbol
    cases hsymbol

end

/-- A row of symbols is read as its values. -/
theorem symbols_eq_ok_iff {offset : Nat} {input : List UInt8} {vs : List Nat} :
    symbols offset input = .ok vs ↔ Row input vs 0 := by
  induction input generalizing offset vs with
  | nil =>
    rw [symbols, row_nil_iff, Except.ok.injEq, eq_comm]
    exact (and_iff_left rfl).symm
  | cons b input ih =>
    rw [symbols]
    cases hvalue : value? b with
    | none =>
      refine iff_of_false (by simp) fun hrow => ?_
      by_cases hb : b = pad
      · rw [hb] at hrow
        obtain ⟨-, n, hn, -⟩ := row_pad_iff.1 hrow
        cases hn
      · exact not_row hb hvalue hrow
    | some v =>
      obtain ⟨hv, rfl⟩ := value?_eq_some_iff.1 hvalue
      simp only [row_symbol_iff hv, ← @ih (offset + 1)]
      cases symbols (offset + 1) input <;> simp [Except.map, eq_comm]

/-! ## The last group -/

/-- Padding symbols from a place on, none of which is among the first two of its group. -/
def Placed (index pads : Nat) : Prop :=
  ∀ j < pads, 2 ≤ (index + j) % 4

theorem placed_succ {index pads : Nat} :
    Placed index (pads + 1) ↔ 2 ≤ index % 4 ∧ Placed (index + 1) pads := by
  constructor
  · intro h
    refine ⟨h 0 (Nat.succ_pos pads), fun j hj => ?_⟩
    rw [Nat.add_assoc, Nat.add_comm 1 j]
    exact h (j + 1) (Nat.succ_lt_succ hj)
  · rintro ⟨hfirst, hrest⟩ j hj
    cases j with
    | zero => exact hfirst
    | succ j =>
      rw [Nat.add_comm j 1, ← Nat.add_assoc]
      exact hrest j (Nat.lt_of_succ_lt_succ hj)

/-- Behind a padding symbol there is only padding. -/
theorem ending_of_padded {start index : Nat} {e e' : Ending} (hpads : 0 < e.pads) {input : List UInt8} :
    ending start index e input = .ok e' ↔ ∃ pads, Row input [] pads ∧ Placed index pads ∧
      e' = { e with pads := e.pads + pads } := by
  induction input generalizing index e with
  | nil =>
    rw [ending, Except.ok.injEq]
    constructor
    · rintro rfl
      exact ⟨0, row_nil_iff.2 ⟨rfl, rfl⟩, fun j hj => absurd hj (Nat.not_lt_zero j), rfl⟩
    · rintro ⟨pads, hrow, -, rfl⟩
      obtain ⟨-, rfl⟩ := row_nil_iff.1 hrow
      rfl
  | cons b input ih =>
    have hsome : e.pads ≠ 0 := Nat.ne_of_gt hpads
    rw [ending]
    by_cases hb : b = pad
    · subst hb
      simp only [beq_self_eq_true, if_true, hsome, if_false, row_pad_iff, true_and]
      by_cases hindex : index % 4 < 2
      · simp only [hindex, if_true]
        refine iff_of_false (by simp) ?_
        rintro ⟨_, ⟨n, rfl, -⟩, hplaced, -⟩
        exact absurd (placed_succ.1 hplaced).1 (Nat.not_le.2 hindex)
      · simp only [hindex, if_false]
        rw [ih (Nat.succ_pos e.pads)]
        constructor
        · rintro ⟨n, hrow, hplaced, rfl⟩
          refine ⟨n + 1, ⟨n, rfl, hrow⟩, placed_succ.2 ⟨Nat.le_of_not_lt hindex, hplaced⟩, ?_⟩
          rw [Nat.add_assoc, Nat.add_comm 1 n]
        · rintro ⟨_, ⟨n, rfl, hrow⟩, hplaced, rfl⟩
          refine ⟨n, hrow, (placed_succ.1 hplaced).2, ?_⟩
          rw [Nat.add_assoc, Nat.add_comm 1 n]
    · have hother : (b == pad) = false := beq_false_of_ne hb
      simp only [hother, Bool.false_eq_true, if_false, hpads, if_true]
      refine iff_of_false (by simp) ?_
      rintro ⟨pads, hrow, -⟩
      have hinput := hrow.input_eq
      cases pads with
      | zero => cases hinput
      | succ n => exact hb (List.cons.inj hinput).1

/-- The last group is a row of symbols with padding behind it. -/
theorem ending_of_unpadded {start index : Nat} {e : Ending} (hpads : e.pads = 0) {input : List UInt8}
    {values : List Nat} {pads : Nat} :
    (∃ e', ending start index e input = .ok e' ∧ e'.values = values ∧ e'.pads = pads) ↔
      ∃ vs : List Nat, Row input vs pads ∧ Placed (index + vs.length) pads ∧ values = vs.reverse ++ e.values := by
  induction input generalizing index e with
  | nil =>
    simp only [ending, row_nil_iff]
    constructor
    · rintro ⟨_, ⟨⟩, rfl, rfl⟩
      exact ⟨[], ⟨rfl, hpads⟩, fun j hj => absurd (hpads ▸ hj) (Nat.not_lt_zero j), rfl⟩
    · rintro ⟨_, ⟨rfl, rfl⟩, -, rfl⟩
      exact ⟨e, rfl, rfl, hpads⟩
  | cons b input ih =>
    rw [ending]
    by_cases hb : b = pad
    · subst hb
      simp only [beq_self_eq_true, if_true, hpads, row_pad_iff]
      by_cases hindex : index % 4 < 2
      · simp only [hindex, if_true]
        refine iff_of_false (by simp) ?_
        rintro ⟨_, ⟨rfl, n, rfl, -⟩, hplaced, -⟩
        exact absurd (placed_succ.1 hplaced).1 (Nat.not_le.2 hindex)
      · simp only [hindex, if_false]
        constructor
        · rintro ⟨e', hread, rfl, rfl⟩
          obtain ⟨n, hrow, hplaced, rfl⟩ := (ending_of_padded (Nat.succ_pos 0)).1 hread
          have hcount : 0 + 1 + n = n + 1 := by omega
          refine ⟨[], ⟨rfl, n, hcount, hrow⟩, ?_, rfl⟩
          rw [hcount]
          exact placed_succ.2 ⟨Nat.le_of_not_lt hindex, hplaced⟩
        · rintro ⟨_, ⟨rfl, n, rfl, hrow⟩, hplaced, rfl⟩
          have hcount : 0 + 1 + n = n + 1 := by omega
          exact ⟨_, (ending_of_padded (Nat.succ_pos 0)).2 ⟨n, hrow, (placed_succ.1 hplaced).2, rfl⟩, rfl, hcount⟩
    · have hother : (b == pad) = false := beq_false_of_ne hb
      simp only [hother, Bool.false_eq_true, if_false, hpads, Nat.lt_irrefl]
      cases hvalue : value? b with
      | none =>
        refine iff_of_false (by simp) ?_
        rintro ⟨vs, hrow, -⟩
        exact not_row hb hvalue hrow
      | some v =>
        obtain ⟨hv, rfl⟩ := value?_eq_some_iff.1 hvalue
        have hplace : ∀ ws : List Nat, index + 1 + ws.length = index + (v :: ws).length := by
          intro ws
          rw [List.length_cons, Nat.add_assoc, Nat.add_comm 1]
        have hvalues : ∀ ws : List Nat, ws.reverse ++ v :: e.values = (v :: ws).reverse ++ e.values := by simp
        refine (ih (e := ⟨v :: e.values, symbol v, 0, e.firstPad⟩) rfl).trans ?_
        simp only [row_symbol_iff hv]
        constructor
        · rintro ⟨ws, hrow, hplaced, rfl⟩
          exact ⟨v :: ws, ⟨ws, rfl, hrow⟩, hplace ws ▸ hplaced, hvalues ws⟩
        · rintro ⟨_, ⟨ws, rfl, hrow⟩, hplaced, rfl⟩
          exact ⟨ws, hrow, (hplace ws).symm ▸ hplaced, (hvalues ws).symm⟩

/-! ## Whole texts -/

/-- How many padding symbols follow some symbols. -/
def padding (count : Nat) : Nat :=
  match count % 4 with
  | 2 => 2
  | 3 => 1
  | _ => 0

/-- Some bytes are the symbols of some values with the padding that belongs behind them.  No group has a single
symbol, and the last symbol has no bits that belong to no byte. -/
structure Spelled (input : List UInt8) (vs : List Nat) : Prop where
  input_eq : input = vs.map symbol ++ List.replicate (padding vs.length) pad
  small : ∀ v ∈ vs, v < 64
  whole : vs.length % 4 ≠ 1
  spare : ∀ v ∈ vs.getLast?, spareBits vs.length v = 0

theorem padding_cases {count : Nat} (h : count % 4 ≠ 1) :
    (count % 4 = 0 ∧ padding count = 0) ∨ (count % 4 = 2 ∧ padding count = 2) ∨
      (count % 4 = 3 ∧ padding count = 1) := by
  have hcases : count % 4 = 0 ∨ count % 4 = 2 ∨ count % 4 = 3 := by omega
  rcases hcases with hcount | hcount | hcount <;> simp [padding, hcount]

/-- Padding is placed well and fills the last group exactly if it is the padding that belongs there. -/
theorem placed_and_whole_iff {count pads : Nat} :
    (Placed count pads ∧ (pads + count) % 4 = 0) ↔ count % 4 ≠ 1 ∧ pads = padding count := by
  constructor
  · rintro ⟨hplaced, hwhole⟩
    have hfirst : 0 < pads → 2 ≤ (count + 0) % 4 := hplaced 0
    have hsecond : 1 < pads → 2 ≤ (count + 1) % 4 := hplaced 1
    have hthird : 2 < pads → 2 ≤ (count + 2) % 4 := hplaced 2
    have hone : count % 4 ≠ 1 := by omega
    refine ⟨hone, ?_⟩
    rcases padding_cases hone with ⟨hcount, hpadding⟩ | ⟨hcount, hpadding⟩ | ⟨hcount, hpadding⟩ <;> omega
  · rintro ⟨hone, rfl⟩
    rcases padding_cases hone with ⟨hcount, hpadding⟩ | ⟨hcount, hpadding⟩ | ⟨hcount, hpadding⟩ <;>
      exact ⟨fun j hj => by omega, by omega⟩

theorem spareBits_congr {m n : Nat} (h : m % 4 = n % 4) (v : Nat) : spareBits m v = spareBits n v := by
  rw [spareBits, spareBits, h]

theorem padding_congr {m n : Nat} (h : m % 4 = n % 4) : padding m = padding n := by
  rw [padding, padding, h]

theorem Spelled.row {input : List UInt8} {vs : List Nat} (h : Spelled input vs) : Row input vs (padding vs.length) :=
  ⟨h.input_eq, h.small⟩

/-- The bits of the last value that belong to no byte, where values are kept last first. -/
theorem spare_iff {vs : List Nat} :
    (∀ v ∈ vs.getLast?, spareBits vs.length v = 0) ↔ spareBits vs.length (vs.reverse.headD 0) = 0 := by
  rcases List.eq_nil_or_concat' vs with rfl | ⟨front, last, rfl⟩
  · simp [spareBits]
  · simp

/-- Symbols in groups of four may stand in front. -/
theorem spelled_append_iff {front vs : List Nat} {input : List UInt8} (hfront : front.length % 4 = 0) :
    Spelled (front.map symbol ++ input) (front ++ vs) ↔ (∀ v ∈ front, v < 64) ∧ Spelled input vs := by
  have hlength : (front ++ vs).length % 4 = vs.length % 4 := by
    rw [List.length_append]
    omega
  have hinput : front.map symbol ++ input =
        (front ++ vs).map symbol ++ List.replicate (padding (front ++ vs).length) pad ↔
      input = vs.map symbol ++ List.replicate (padding vs.length) pad := by
    rw [padding_congr hlength, List.map_append, List.append_assoc, List.append_cancel_left_eq]
  have hspare : (∀ v ∈ (front ++ vs).getLast?, spareBits (front ++ vs).length v = 0) ↔
      ∀ v ∈ vs.getLast?, spareBits vs.length v = 0 := by
    simp only [spareBits_congr hlength]
    rcases List.eq_nil_or_concat' vs with rfl | ⟨init, last, rfl⟩
    · simp [spareBits]
    · rw [← List.append_assoc, List.getLast?_concat, List.getLast?_concat]
  constructor
  · intro h
    obtain ⟨hsmall, hsmall'⟩ := List.forall_mem_append.1 h.small
    exact ⟨hsmall, hinput.1 h.input_eq, hsmall', hlength ▸ h.whole, hspare.1 h.spare⟩
  · rintro ⟨hsmall, h⟩
    exact ⟨hinput.2 h.input_eq, List.forall_mem_append.2 ⟨hsmall, h.small⟩, hlength ▸ h.whole, hspare.2 h.spare⟩

/-- A single symbol that is left over is refused. -/
theorem exists_decodeBytes_eq_error {input : List UInt8} (h : input.length % 4 = 1) :
    ∃ f, decodeBytes input = .error f := by
  rw [decodeBytes]
  simp only [h, if_true]
  cases hlast : input.getLast? with
  | none => exact ⟨_, rfl⟩
  | some b =>
    cases hbad : b != pad && (value? b).isNone with
    | true => exact ⟨_, by simp only [hbad, if_true]; rfl⟩
    | false => exact ⟨_, by simp only [hbad]; rfl⟩

/-- Otherwise the front is read as symbols only and the rest as the last group. -/
theorem decodeBytes_eq_ok_iff_parts {input bytes : List UInt8} (h : input.length % 4 ≠ 1) {start : Nat}
    (hstart : (input.length - 1) / 8 * 8 = start) :
    decodeBytes input = .ok bytes ↔ ∃ front e, symbols 0 (input.take start) = .ok front ∧
      ending start 0 ⟨[], 0, 0, 0⟩ (input.drop start) = .ok e ∧ (e.pads + e.values.length) % 4 = 0 ∧
      spareBits e.values.length (e.values.headD 0) = 0 ∧ bytesOf (front ++ e.values.reverse) = bytes := by
  have hopen : decodeBytes input = (symbols 0 (input.take start)).bind fun front =>
      (ending start 0 ⟨[], 0, 0, 0⟩ (input.drop start)).bind fun e =>
        if (e.pads + e.values.length) % 4 ≠ 0 then .error .padding
        else if spareBits e.values.length (e.values.headD 0) ≠ 0 then
          .error (.lastSymbol e.last (start + e.values.length - 1))
        else .ok (bytesOf (front ++ e.values.reverse)) := by
    rw [decodeBytes]
    simp only [h, if_false, hstart]
    cases symbols 0 (input.take start) with
    | error f => rfl
    | ok front =>
      cases ending start 0 ⟨[], 0, 0, 0⟩ (input.drop start) with
      | error f => rfl
      | ok e =>
        simp only [Except.bind, bind, pure, Except.pure]
        split
        · rfl
        · split <;> rfl
  rw [hopen]
  cases symbols 0 (input.take start) with
  | error f => exact iff_of_false nofun fun ⟨_, _, h, _⟩ => nomatch h
  | ok front =>
    cases ending start 0 ⟨[], 0, 0, 0⟩ (input.drop start) with
    | error f => exact iff_of_false nofun fun ⟨_, _, _, h, _⟩ => nomatch h
    | ok e =>
      simp only [Except.bind, Except.ok.injEq, exists_and_left, exists_eq_left']
      by_cases hpads : (e.pads + e.values.length) % 4 = 0
      · by_cases hspare : spareBits e.values.length (e.values.headD 0) = 0
        · simp only [hpads, hspare, ne_eq, not_true_eq_false, if_false, true_and, Except.ok.injEq]
        · simp only [hpads, hspare, ne_eq, not_true_eq_false, if_false, not_false_eq_true, if_true, false_and,
            and_false, reduceCtorEq]
      · simp only [hpads, ne_eq, not_false_eq_true, if_true, false_and, reduceCtorEq]

/-- **Reading takes exactly what is spelled.** -/
theorem decodeBytes_eq_ok_iff_spelled {input bytes : List UInt8} :
    decodeBytes input = .ok bytes ↔ ∃ vs, Spelled input vs ∧ bytesOf vs = bytes := by
  by_cases hone : input.length % 4 = 1
  · refine iff_of_false (fun h => ?_) ?_
    · obtain ⟨f, hf⟩ := exists_decodeBytes_eq_error hone
      rw [hf] at h
      cases h
    · rintro ⟨vs, hspelled, -⟩
      rw [hspelled.input_eq, List.length_append, List.length_map, List.length_replicate] at hone
      rcases padding_cases hspelled.whole with ⟨hcount, hpadding⟩ | ⟨hcount, hpadding⟩ | ⟨hcount, hpadding⟩ <;>
        omega
  obtain ⟨start, hstart⟩ : ∃ start, (input.length - 1) / 8 * 8 = start := ⟨_, rfl⟩
  rw [decodeBytes_eq_ok_iff_parts hone hstart]
  constructor
  · rintro ⟨front, e, hfront, hending, hwhole, hspare, hbytes⟩
    have htake := symbols_eq_ok_iff.1 hfront
    obtain ⟨vs, hdrop, hplaced, hvalues⟩ := (ending_of_unpadded rfl).1 ⟨e, hending, rfl, rfl⟩
    rw [List.append_nil] at hvalues
    rw [hvalues, List.length_reverse] at hwhole hspare
    rw [hvalues, List.reverse_reverse] at hbytes
    rw [Nat.zero_add] at hplaced
    have hinput : input.take start = front.map symbol := by simpa using htake.input_eq
    have hgroups : front.length % 4 = 0 := by
      have hboth := congrArg List.length hinput
      rw [List.length_take, List.length_map] at hboth
      omega
    obtain ⟨hsingle, hpads⟩ := placed_and_whole_iff.1 ⟨hplaced, hwhole⟩
    have hlast : Spelled (input.drop start) vs :=
      ⟨hpads ▸ hdrop.input_eq, hdrop.small, hsingle, spare_iff.2 hspare⟩
    have hall := (spelled_append_iff hgroups).2 ⟨htake.small, hlast⟩
    rw [← hinput, List.take_append_drop] at hall
    exact ⟨front ++ vs, hall, hbytes⟩
  · rintro ⟨vs, hspelled, hbytes⟩
    have hlength : input.length = vs.length + padding vs.length := by
      rw [hspelled.input_eq, List.length_append, List.length_map, List.length_replicate]
    -- what is read as the last group has room for the padding
    have hroom : start ≤ vs.length := by
      rcases padding_cases hspelled.whole with ⟨hcount, hpadding⟩ | ⟨hcount, hpadding⟩ | ⟨hcount, hpadding⟩ <;>
        omega
    have htake : input.take start = (vs.take start).map symbol := by
      rw [hspelled.input_eq, List.take_append_of_le_length (by rw [List.length_map]; exact hroom), List.map_take]
    have hgroups : (vs.take start).length % 4 = 0 := by
      rw [List.length_take]
      omega
    have hlast : Spelled (input.drop start) (vs.drop start) := by
      rw [← List.take_append_drop start input, ← List.take_append_drop start vs, htake,
        spelled_append_iff hgroups] at hspelled
      exact hspelled.2
    obtain ⟨hplaced, hwhole⟩ := placed_and_whole_iff.2 ⟨hlast.whole, rfl⟩
    have hfront : Row (input.take start) (vs.take start) 0 :=
      ⟨by simpa using htake, fun v hv => hspelled.small v (List.mem_of_mem_take hv)⟩
    obtain ⟨e, hending, hvalues, hpads⟩ := (@ending_of_unpadded start 0 ⟨[], 0, 0, 0⟩ rfl _ _ _).2
      ⟨vs.drop start, hlast.row, by rwa [Nat.zero_add], rfl⟩
    rw [List.append_nil] at hvalues
    refine ⟨vs.take start, e, symbols_eq_ok_iff.2 hfront, hending, ?_, ?_, ?_⟩
    · rwa [hvalues, hpads, List.length_reverse]
    · rw [hvalues, List.length_reverse]
      exact spare_iff.1 hlast.spare
    · rw [hvalues, List.reverse_reverse, List.take_append_drop]
      exact hbytes

/-! ## Writing and reading -/

/-- A row of symbols can be spelled group by group. -/
theorem spelled_group_iff {a b c d : Nat} {input : List UInt8} {vs : List Nat} :
    Spelled (symbol a :: symbol b :: symbol c :: symbol d :: input) (a :: b :: c :: d :: vs) ↔
      (a < 64 ∧ b < 64 ∧ c < 64 ∧ d < 64) ∧ Spelled input vs := by
  have hgroup : [a, b, c, d].length % 4 = 0 := by simp
  have hsmall : (∀ v ∈ [a, b, c, d], v < 64) ↔ a < 64 ∧ b < 64 ∧ c < 64 ∧ d < 64 := by simp
  rw [← hsmall]
  exact spelled_append_iff hgroup

/-- Bytes are written as a row of symbols that spells them. -/
theorem exists_spelled_encodeBytes (bytes : List UInt8) :
    ∃ vs, Spelled (encodeBytes bytes) vs ∧ bytesOf vs = bytes := by
  have hbyte : ∀ (b : UInt8) n, n = b.toNat → UInt8.ofNat n = b := by
    rintro b _ rfl
    exact UInt8.ofNat_toNat
  induction bytes using encodeBytes.induct with
  | case1 a b c rest ih =>
    obtain ⟨vs, hspelled, hbytes⟩ := ih
    have ha := a.toNat_lt
    have hb := b.toNat_lt
    have hc := c.toNat_lt
    refine ⟨a.toNat / 4 :: (a.toNat % 4 * 16 + b.toNat / 16) :: (b.toNat % 16 * 4 + c.toNat / 64) ::
      (c.toNat % 64) :: vs, spelled_group_iff.2 ⟨by omega, hspelled⟩, ?_⟩
    rw [bytesOf, hbytes, hbyte a _ (by omega), hbyte b _ (by omega), hbyte c _ (by omega)]
  | case2 a b =>
    have ha := a.toNat_lt
    have hb := b.toNat_lt
    refine ⟨[a.toNat / 4, a.toNat % 4 * 16 + b.toNat / 16, b.toNat % 16 * 4],
      ⟨rfl, ?_, by simp, fun v hv => ?_⟩, ?_⟩
    · intro v hv
      simp only [List.mem_cons, List.not_mem_nil, or_false] at hv
      omega
    · obtain rfl := Option.some.inj hv
      show b.toNat % 16 * 4 % 4 = 0
      omega
    · rw [bytesOf, hbyte a _ (by omega), hbyte b _ (by omega)]
  | case3 a =>
    have ha := a.toNat_lt
    refine ⟨[a.toNat / 4, a.toNat % 4 * 16], ⟨rfl, ?_, by simp, fun v hv => ?_⟩, ?_⟩
    · intro v hv
      simp only [List.mem_cons, List.not_mem_nil, or_false] at hv
      omega
    · obtain rfl := Option.some.inj hv
      show a.toNat % 4 * 16 % 16 = 0
      omega
    · rw [bytesOf, hbyte a _ (by omega)]
  | case4 => exact ⟨[], ⟨rfl, nofun, by decide, nofun⟩, rfl⟩

/-- The bytes that a row of symbols spells are written as this row. -/
theorem Spelled.encodeBytes_bytesOf {input : List UInt8} {vs : List Nat} (h : Spelled input vs) :
    encodeBytes (bytesOf vs) = input := by
  have hbyte : ∀ n < 256, (UInt8.ofNat n).toNat = n := fun _ hn => UInt8.toNat_ofNat_of_lt' hn
  induction vs using bytesOf.induct generalizing input with
  | case1 a b c d rest ih =>
    have hinput := h.input_eq
    simp only [List.map_cons, List.cons_append] at hinput
    rw [hinput] at h ⊢
    obtain ⟨⟨ha, hb, hc, hd⟩, hrest⟩ := spelled_group_iff.1 h
    have hx := hbyte (a * 4 + b / 16) (by omega)
    have hy := hbyte (b % 16 * 16 + c / 4) (by omega)
    have hz := hbyte (c % 4 * 64 + d) (by omega)
    have hfirst : (a * 4 + b / 16) / 4 = a := by omega
    have hsecond : (a * 4 + b / 16) % 4 * 16 + (b % 16 * 16 + c / 4) / 16 = b := by omega
    have hthird : (b % 16 * 16 + c / 4) % 16 * 4 + (c % 4 * 64 + d) / 64 = c := by omega
    have hfourth : (c % 4 * 64 + d) % 64 = d := by omega
    rw [bytesOf, encodeBytes, hx, hy, hz, ih hrest, hfirst, hsecond, hthird, hfourth]
  | case2 a b c =>
    obtain ⟨ha, hb, hc⟩ : a < 64 ∧ b < 64 ∧ c < 64 := by simpa using h.small
    have hspare : c % 4 = 0 := h.spare c rfl
    have hx := hbyte (a * 4 + b / 16) (by omega)
    have hy := hbyte (b % 16 * 16 + c / 4) (by omega)
    have hfirst : (a * 4 + b / 16) / 4 = a := by omega
    have hsecond : (a * 4 + b / 16) % 4 * 16 + (b % 16 * 16 + c / 4) / 16 = b := by omega
    have hthird : (b % 16 * 16 + c / 4) % 16 * 4 = c := by omega
    rw [bytesOf, encodeBytes, hx, hy, h.input_eq, hfirst, hsecond, hthird]
    rfl
  | case3 a b =>
    obtain ⟨ha, hb⟩ : a < 64 ∧ b < 64 := by simpa using h.small
    have hspare : b % 16 = 0 := h.spare b rfl
    have hx := hbyte (a * 4 + b / 16) (by omega)
    have hfirst : (a * 4 + b / 16) / 4 = a := by omega
    have hsecond : (a * 4 + b / 16) % 4 * 16 = b := by omega
    rw [bytesOf, encodeBytes, hx, h.input_eq, hfirst, hsecond]
    rfl
  | case4 vs hgroup hthree htwo =>
    rcases vs with _ | ⟨a, _ | ⟨b, _ | ⟨c, _ | ⟨d, vs⟩⟩⟩⟩
    · exact h.input_eq.symm
    · exact absurd rfl h.whole
    · exact (htwo a b rfl).elim
    · exact (hthree a b c rfl).elim
    · exact (hgroup a b c d vs rfl).elim

/-- **Reading accepts exactly what writing produces**, and undoes it. -/
theorem decodeBytes_eq_ok_iff {input bytes : List UInt8} :
    decodeBytes input = .ok bytes ↔ input = encodeBytes bytes := by
  rw [decodeBytes_eq_ok_iff_spelled]
  constructor
  · rintro ⟨vs, hspelled, rfl⟩
    exact hspelled.encodeBytes_bytesOf.symm
  · rintro rfl
    exact exists_spelled_encodeBytes bytes

/-- In what is written there are only symbols of values and padding symbols. -/
theorem mem_encodeBytes {bytes : List UInt8} {b : UInt8} (h : b ∈ encodeBytes bytes) :
    (∃ v < 64, b = symbol v) ∨ b = pad := by
  obtain ⟨vs, hspelled, -⟩ := exists_spelled_encodeBytes bytes
  rw [hspelled.input_eq, List.mem_append, List.mem_map] at h
  rcases h with ⟨v, hv, rfl⟩ | hpad
  · exact .inl ⟨v, hspelled.small v hv, rfl⟩
  · exact .inr (List.mem_replicate.1 hpad).2

theorem encodeBytes_ascii {bytes : List UInt8} : ∀ b ∈ encodeBytes bytes, b.toNat < 128 := by
  intro b hb
  obtain ⟨v, hv, rfl⟩ | rfl := mem_encodeBytes hb
  · exact symbol_ascii v hv
  · decide

/-- **Texts of Base64.**  A text is read as some bytes exactly if it is what these bytes are written as. -/
theorem decode_eq_ok_iff {text : String} {bytes : List UInt8} : decode text = .ok bytes ↔ text = encode bytes := by
  have hencode : Utf8.encode (encode bytes) = encodeBytes bytes := Utf8.encode_ofList_ascii encodeBytes_ascii
  rw [decode, decodeBytes_eq_ok_iff, ← hencode]
  exact ⟨fun h => Utf8.encode_injective h, congrArg Utf8.encode⟩

end RemoteShell.Base64
