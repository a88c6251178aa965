import Mathlib.Data.String.Basic
import Mathlib.Tactic.SplitIfs
import RemoteShell.Text.Utf8

/-!
# The order of bytes

Texts are ordered by their characters, and this is the order of their bytes (`Utf8.encode_lt_iff`).  The reason is in
the first bytes: the longer the sequence of a character, the larger its first byte, and sequences of one length hold
the digits of a number, the highest first.
-/

namespace RemoteShell.Utf8

/-- Numbers are in the order of their digits. -/
theorem div_lt_or_mod_lt {m n : Nat} (h : m < n) (k : Nat) : m / k < n / k ∨ m / k = n / k ∧ m % k < n % k := by
  rcases Nat.lt_or_eq_of_le (Nat.div_le_div_right (c := k) h.le) with hdiv | hdiv
  · exact .inl hdiv
  · refine .inr ⟨hdiv, ?_⟩
    have hm := Nat.div_add_mod m k
    have hn := Nat.div_add_mod n k
    rw [hdiv] at hm
    omega

theorem toNat_ofNat_byte {n : Nat} (h : n < 256) : (UInt8.ofNat n).toNat = n :=
  UInt8.toNat_ofNat_of_lt' h

/-- **A smaller character has smaller bytes**, whatever follows. -/
theorem utf8EncodeChar_append_lt {c d : Char} (h : c < d) (r r' : List UInt8) :
    String.utf8EncodeChar c ++ r < String.utf8EncodeChar d ++ r' := by
  have hlt : c.val.toNat < d.val.toNat := h
  have hd : d.val.toNat < 0x110000 := by
    rcases d.valid with hlow | ⟨-, hhigh⟩ <;> omega
  simp only [String.utf8EncodeChar]
  generalize c.val.toNat = m at hlt
  generalize d.val.toNat = n at hlt hd
  -- The digits in base 64, from the last to the first.
  have hdigit : ∀ {m n : Nat}, m < n → m / 64 < n / 64 ∨ m / 64 = n / 64 ∧ m % 64 < n % 64 := fun h =>
    div_lt_or_mod_lt h 64
  have hlast := hdigit hlt
  have hthird := @hdigit (m / 64) (n / 64)
  have hsecond := @hdigit (m / 4096) (n / 4096)
  simp only [Nat.div_div_eq_div_mul, Nat.reduceMul] at hsecond hthird
  have hm : m / 262144 < 8 := by omega
  have hn : n / 262144 < 8 := by omega
  split_ifs <;>
  simp (disch := omega) only [List.cons_append, List.nil_append, List.cons_lt_cons_iff, UInt8.lt_iff_toNat_lt,
    ← UInt8.toNat_inj, toNat_ofNat_byte, Nat.mod_eq_of_lt hm, Nat.mod_eq_of_lt hn] <;>
  omega

theorem utf8EncodeChar_ne_nil (c : Char) : String.utf8EncodeChar c ≠ [] := by
  rw [String.utf8EncodeChar]
  split_ifs <;> exact List.cons_ne_nil _ _

/-- Texts that are in order have bytes that are in order. -/
theorem encode_lt_of_lt {s t : String} (h : s < t) : encode s < encode t := by
  rw [String.lt_iff_toList_lt] at h
  rw [encode, encode]
  generalize s.toList = cs at h
  generalize t.toList = ds at h
  induction h with
  | @nil d ds =>
    obtain ⟨b, bytes, hbytes⟩ := List.exists_cons_of_ne_nil (utf8EncodeChar_ne_nil d)
    rw [List.flatMap_nil, List.flatMap_cons, hbytes]
    exact List.nil_lt_cons _ _
  | rel hlt => exact utf8EncodeChar_append_lt hlt _ _
  | cons _ ih =>
    rw [List.flatMap_cons, List.flatMap_cons]
    exact List.append_left_lt ih

/-- **Texts are in the order of their bytes.** -/
theorem encode_lt_iff {s t : String} : encode s < encode t ↔ s < t := by
  refine ⟨fun h => ?_, encode_lt_of_lt⟩
  rcases lt_trichotomy s t with hlt | rfl | hgt
  · exact hlt
  · exact absurd h (List.lt_irrefl _)
  · exact absurd (encode_lt_of_lt hgt) (List.lt_asymm h)

end RemoteShell.Utf8
