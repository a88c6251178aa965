import RemoteShell.Text.Utf16

/-!
# Reading back UTF-16

The code units of a text are read back as its characters (`join_encode`), and the bytes that are written for the units,
low byte first, are read back as the units (`pair_encodeLittle`).  So a text is what is read from its bytes, and nothing
in them is malformed (`join_pair_encodeLittle`).
-/

namespace RemoteShell.Utf16

/-- A character is not in the range of surrogates, and its number has 21 bits at most. -/
theorem toNat_cases (c : Char) : c.toNat < 0xD800 ∨ 0xDFFF < c.toNat ∧ c.toNat < 0x110000 :=
  c.valid

/-- **The units of a character are read as the character**, whatever follows. -/
theorem joinFrom_units (c : Char) (rest : List (Option Nat)) :
    joinFrom none ((units c).map some ++ rest) = some c :: joinFrom none rest := by
  have hc := toNat_cases c
  rw [units]
  split
  · have hhigh : isHigh c.toNat = false := by
      simp only [isHigh, Bool.and_eq_false_iff, decide_eq_false_iff_not]
      omega
    have hlow : isLow c.toNat = false := by
      simp only [isLow, Bool.and_eq_false_iff, decide_eq_false_iff_not]
      omega
    simp [joinFrom, hhigh, hlow]
  · have hhigh : isHigh (0xD800 + (c.toNat - 0x10000) / 0x400) = true := by
      simp only [isHigh, Bool.and_eq_true, decide_eq_true_eq]
      omega
    have hlow : isLow (0xDC00 + (c.toNat - 0x10000) % 0x400) = true := by
      simp only [isLow, Bool.and_eq_true, decide_eq_true_eq]
      omega
    have hnumber : 0x10000 + (0xD800 + (c.toNat - 0x10000) / 0x400 - 0xD800) * 0x400 +
        (0xDC00 + (c.toNat - 0x10000) % 0x400 - 0xDC00) = c.toNat := by omega
    simp only [List.map_cons, List.map_nil, List.cons_append, List.nil_append, joinFrom, hhigh, hlow, if_true,
      hnumber, Char.ofNat_toNat]

/-- **The units of a text are read as its characters.** -/
theorem join_encode (s : String) : join ((encode s).map some) = s.toList.map some := by
  rw [join, encode]
  induction s.toList with
  | nil => rfl
  | cons c cs ih => rw [List.flatMap_cons, List.map_append, joinFrom_units, ih, List.map_cons]

/-- Units have sixteen bits. -/
theorem lt_of_mem_units {c : Char} {u : Nat} (h : u ∈ units c) : u < 0x10000 := by
  have hc := toNat_cases c
  rw [units] at h
  split at h
  · rwa [List.mem_singleton.1 h]
  · simp only [List.mem_cons, List.not_mem_nil, or_false] at h
    omega

/-- **The bytes of a text are read as its units.** -/
theorem pair_encodeLittle (s : String) : pair true (encodeLittle s) = (encode s).map some := by
  have hunits : ∀ u ∈ encode s, u < 0x10000 := by
    intro u hu
    obtain ⟨c, -, hc⟩ := List.mem_flatMap.1 hu
    exact lt_of_mem_units hc
  have hbyte : ∀ n < 256, (UInt8.ofNat n).toNat = n := fun _ hn => UInt8.toNat_ofNat_of_lt' hn
  rw [encodeLittle]
  generalize encode s = units at hunits
  induction units with
  | nil => rfl
  | cons u us ih =>
    obtain ⟨hu, hus⟩ := List.forall_mem_cons.1 hunits
    have hlow := hbyte (u % 256) (by omega)
    have hhigh := hbyte (u / 256) (by omega)
    have hunit : u % 256 + 256 * (u / 256) = u := Nat.mod_add_div u 256
    rw [List.flatMap_cons, List.cons_append, List.singleton_append, pair, ih hus, if_pos rfl, hlow, hhigh, hunit,
      List.map_cons]

theorem join_pair_encodeLittle (s : String) : join (pair true (encodeLittle s)) = s.toList.map some := by
  rw [pair_encodeLittle, join_encode]

/-- **A text is what is read from its bytes.** -/
theorem decodeLossy_encodeLittle (s : String) : decodeLossy true (encodeLittle s) = s := by
  have hread : (s.toList.map some).map (·.getD Utf8.replacement) = s.toList := by
    rw [List.map_map]
    exact List.map_id s.toList
  rw [decodeLossy, join_pair_encodeLittle, hread, String.ofList_toList]

theorem encodeLittle_injective {s t : String} (h : encodeLittle s = encodeLittle t) : s = t := by
  rw [← decodeLossy_encodeLittle s, h, decodeLossy_encodeLittle]

end RemoteShell.Utf16
