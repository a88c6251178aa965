import Mathlib.Algebra.Group.Nat.Defs
import Mathlib.Data.List.Basic
import RemoteShell.Proofs.Text.Utf8
import RemoteShell.Target

/-!
# What fingerprints tell apart

Each part of a fingerprint is hashed behind its length, and the length takes eight bytes whatever it is.  So the
bytes that are hashed can be read back from the front, part by part (`preimage_injective`), as long as every
length fits.  The hexadecimal digits of a hash tell all hashes apart (`Hex.encode_injective`), and the bytes of a
text all texts (`Utf8.encode_injective`).

Hence two targets with one fingerprint have the same endpoint and credentials, unless the bytes that are hashed
for them collide (`Target.fingerprint_eq_iff`), and no way to deal out the same bytes to other parts goes unnoticed
(`Fingerprint.ofParts_unambiguous`).
-/

namespace RemoteShell

namespace Hex

theorem digit_injective : ∀ m < 16, ∀ n < 16, digit m = digit n → m = n := by
  decide

/-- **The digits of some bytes determine them.** -/
theorem encode_injective {bytes bytes' : List UInt8} (h : encode bytes = encode bytes') : bytes = bytes' := by
  have hchars := String.ofList_inj.1 h
  induction bytes generalizing bytes' with
  | nil =>
    cases bytes' with
    | nil => rfl
    | cons b' bytes' => cases hchars
  | cons b bytes ih =>
    cases bytes' with
    | nil => cases hchars
    | cons b' bytes' =>
      simp only [List.flatMap_cons, List.cons_append, List.nil_append, List.cons.injEq] at hchars
      obtain ⟨hhigh, hlow, hrest⟩ := hchars
      have hb := b.toNat_lt
      have hb' := b'.toNat_lt
      have hhigh' := digit_injective _ (by omega) _ (by omega) hhigh
      have hlow' := digit_injective _ (by omega) _ (by omega) hlow
      have hnat : b.toNat = b'.toNat := by omega
      rw [UInt8.toNat_inj.1 hnat, ih (String.ofList_inj.2 hrest) hrest]

end Hex

/-- The hashes of two messages do not collide. -/
def Sha256.Separates (message other : List UInt8) : Prop :=
  digest message = digest other → message = other

namespace Fingerprint

@[simp] theorem length_littleEndian (count n : Nat) : (littleEndian count n).length = count := by
  induction count generalizing n with
  | zero => rfl
  | succ count ih => rw [littleEndian, List.length_cons, ih]

/-- The bytes of a number that fits determine it. -/
theorem littleEndian_injective {count m n : Nat} (hm : m < 256 ^ count) (hn : n < 256 ^ count)
    (h : littleEndian count m = littleEndian count n) : m = n := by
  induction count generalizing m n with
  | zero => omega
  | succ count ih =>
    rw [Nat.pow_succ] at hm hn
    obtain ⟨hlow, hrest⟩ := List.cons.inj h
    have hbyte := congrArg UInt8.toNat hlow
    rw [UInt8.toNat_ofNat', UInt8.toNat_ofNat'] at hbyte
    have hquotient := ih (by omega) (by omega) hrest
    omega

/-- A part can be read from the front of some bytes. -/
theorem delimited_append_injective {part part' rest rest' : List UInt8} (hpart : part.length < 2 ^ 64)
    (hpart' : part'.length < 2 ^ 64) (h : delimited part ++ rest = delimited part' ++ rest') :
    part = part' ∧ rest = rest' := by
  rw [delimited, delimited, List.append_assoc, List.append_assoc] at h
  obtain ⟨hlength, hbytes⟩ := List.append_inj h (by rw [length_littleEndian, length_littleEndian])
  have hsame : part.length = part'.length :=
    littleEndian_injective (Nat.lt_of_lt_of_eq hpart (by decide)) (Nat.lt_of_lt_of_eq hpart' (by decide)) hlength
  exact List.append_inj hbytes hsame

/-- **The bytes that are hashed determine the parts.** -/
theorem preimage_injective {parts parts' : List (List UInt8)} (hparts : ∀ part ∈ parts, part.length < 2 ^ 64)
    (hparts' : ∀ part ∈ parts', part.length < 2 ^ 64) (h : preimage parts = preimage parts') :
    parts = parts' := by
  have hne : ∀ (part : List UInt8) rest, delimited part ++ rest ≠ [] := by
    intro part rest hnil
    have hlength := congrArg List.length hnil
    rw [delimited, List.append_assoc, List.length_append, length_littleEndian, List.length_nil] at hlength
    omega
  induction parts generalizing parts' with
  | nil =>
    cases parts' with
    | nil => rfl
    | cons part' parts' => exact absurd h.symm (hne part' _)
  | cons part parts ih =>
    cases parts' with
    | nil => exact absurd h (hne part _)
    | cons part' parts' =>
      rw [List.forall_mem_cons] at hparts hparts'
      obtain ⟨rfl, hrest⟩ := delimited_append_injective hparts.1 hparts'.1 h
      rw [ih hparts.2 hparts'.2 hrest]

/-- The length of every part fits into eight bytes. -/
def Fits (parts : List (List UInt8)) : Prop :=
  ∀ part ∈ parts, part.length < 2 ^ 64

instance (parts : List (List UInt8)) : Decidable (Fits parts) :=
  inferInstanceAs (Decidable (∀ part ∈ parts, part.length < 2 ^ 64))

/-- Fingerprints are equal if the lists of parts are, and only then, unless the hashes collide. -/
theorem ofParts_eq_iff {parts parts' : List (List UInt8)} (h : Fits parts) (h' : Fits parts')
    (hhash : Sha256.Separates (preimage parts) (preimage parts')) : ofParts parts = ofParts parts' ↔ parts = parts' := by
  refine ⟨fun hkey => preimage_injective h h' (hhash ?_), congrArg ofParts⟩
  exact Hex.encode_injective (congrArg Fingerprint.text hkey)

end Fingerprint

namespace Target

variable {t u : Target}

/-- The texts that the fingerprint of a target stands for. -/
def marks (t : Target) : List String :=
  [t.endpoint, t.credentials.scheme, t.credentials.username, t.credentials.secret]

/-- The bytes that are hashed for the fingerprint of a target. -/
def preimage (t : Target) : List UInt8 :=
  Fingerprint.preimage (t.marks.map Utf8.encode)

/-- Two targets have the same endpoint and credentials. -/
structure Alike (t u : Target) : Prop where
  endpoint : t.endpoint = u.endpoint
  scheme : t.credentials.scheme = u.credentials.scheme
  username : t.credentials.username = u.credentials.username
  secret : t.credentials.secret = u.credentials.secret

theorem alike_iff : t.Alike u ↔ t.marks = u.marks := by
  simp only [marks, List.cons.injEq, and_true]
  exact ⟨fun h => ⟨h.endpoint, h.scheme, h.username, h.secret⟩, fun ⟨h₁, h₂, h₃, h₄⟩ => ⟨h₁, h₂, h₃, h₄⟩⟩

theorem Alike.fingerprint (h : t.Alike u) : t.fingerprint = u.fingerprint :=
  congrArg Fingerprint.ofTexts (alike_iff.1 h)

/-- **Fingerprints tell targets apart**, unless the hashes of what is hashed for them collide. -/
theorem fingerprint_eq_iff (ht : ∀ mark ∈ t.marks, (Utf8.encode mark).length < 2 ^ 64)
    (hu : ∀ mark ∈ u.marks, (Utf8.encode mark).length < 2 ^ 64)
    (hhash : Sha256.digest t.preimage = Sha256.digest u.preimage → t.preimage = u.preimage) :
    t.fingerprint = u.fingerprint ↔ t.Alike u := by
  have hencode : Function.Injective (List.map Utf8.encode) :=
    List.map_injective_iff.2 fun _ _ => Utf8.encode_injective
  rw [alike_iff, ← hencode.eq_iff]
  exact Fingerprint.ofParts_eq_iff (List.forall_mem_map.2 ht) (List.forall_mem_map.2 hu) hhash

end Target

/-! ## Unambiguous keys -/

namespace Fingerprint

variable {parts parts' : List (List UInt8)}

/-- One list of parts is made of another one: bytes are moved between neighbours, a part is added or dropped, or it is
emptied. -/
inductive Edited : List (List UInt8) → List (List UInt8) → Prop
  | moved (front : List (List UInt8)) (part bytes next : List UInt8) (back : List (List UInt8))
      (nonempty : bytes ≠ []) :
      Edited (front ++ (part ++ bytes) :: next :: back) (front ++ part :: (bytes ++ next) :: back)
  | added (front : List (List UInt8)) (part : List UInt8) (back : List (List UInt8)) :
      Edited (front ++ back) (front ++ part :: back)
  | dropped (front : List (List UInt8)) (part : List UInt8) (back : List (List UInt8)) :
      Edited (front ++ part :: back) (front ++ back)
  | emptied (front : List (List UInt8)) {part : List UInt8} (back : List (List UInt8))
      (nonempty : part ≠ []) :
      Edited (front ++ part :: back) (front ++ [] :: back)

theorem Edited.ne (h : Edited parts parts') : parts ≠ parts' := by
  have hlength : ∀ front back : List (List UInt8), ∀ part, front ++ back ≠ front ++ part :: back := by
    intro front back part heq
    have hcount := congrArg List.length heq
    rw [List.length_append, List.length_append, List.length_cons] at hcount
    omega
  intro heq
  cases h with
  | moved front part bytes next back nonempty => simp [nonempty] at heq
  | added front part back => exact hlength front back part heq
  | dropped front part back => exact hlength front back part heq.symm
  | emptied front back nonempty => simp [nonempty] at heq

/-- **Keys are unambiguous.**  For any two lists of parts, the bytes that are hashed are the same if and only if the
lists are.  So moving bytes between neighbouring parts, adding a part, dropping one or emptying one changes these bytes,
and it changes the fingerprint unless the hashes of the two collide.  Likewise two targets have one fingerprint if and
only if they have the same endpoint, authentication scheme, user name and secret. -/
theorem ofParts_unambiguous :
    (∀ parts parts', Fits parts → Fits parts' → (preimage parts = preimage parts' ↔ parts = parts')) ∧
    (∀ parts parts', Fits parts → Fits parts' → Edited parts parts' → preimage parts ≠ preimage parts' ∧
      (Sha256.Separates (preimage parts) (preimage parts') → ofParts parts ≠ ofParts parts')) ∧
    ∀ t u : Target, Fits (t.marks.map Utf8.encode) → Fits (u.marks.map Utf8.encode) →
      Sha256.Separates t.preimage u.preimage → (t.fingerprint = u.fingerprint ↔ t.Alike u) := by
  refine ⟨fun parts parts' h h' => ⟨preimage_injective h h', congrArg preimage⟩, ?_, ?_⟩
  · intro parts parts' h h' hedited
    refine ⟨fun hbytes => hedited.ne (preimage_injective h h' hbytes), fun hhash hkey => ?_⟩
    exact hedited.ne ((ofParts_eq_iff h h' hhash).1 hkey)
  · intro t u ht hu hhash
    exact Target.fingerprint_eq_iff (List.forall_mem_map.1 ht) (List.forall_mem_map.1 hu) hhash

/-- A letter that is moved from the user name into the password changes the key. -/
theorem ofParts_unambiguous_moved :
    let parts : List (List UInt8) := ["ab", "c"].map Utf8.encode
    let parts' : List (List UInt8) := ["a", "bc"].map Utf8.encode
    let t : Target := { Target.ofHost "win-01" with credentials := .basic "ab" "c" }
    let u : Target := { Target.ofHost "win-01" with credentials := .basic "a" "bc" }
    (Fits parts ∧ Fits parts' ∧ Edited parts parts' ∧ Sha256.Separates (preimage parts) (preimage parts')) ∧
      ofParts parts ≠ ofParts parts' ∧ Fits (t.marks.map Utf8.encode) ∧ Fits (u.marks.map Utf8.encode) ∧
      Sha256.Separates t.preimage u.preimage ∧ t.fingerprint ≠ u.fingerprint := by
  intro parts parts' t u
  have hfits : Fits parts ∧ Fits parts' := by decide
  have hmarks : Fits (t.marks.map Utf8.encode) ∧ Fits (u.marks.map Utf8.encode) := by decide
  have hedited : Edited parts parts' :=
    .moved [] (Utf8.encode "a") (Utf8.encode "b") (Utf8.encode "c") [] (by decide)
  have hhash : Sha256.Separates (preimage parts) (preimage parts') := by
    have hne : Sha256.digest (preimage parts) ≠ Sha256.digest (preimage parts') := by decide +kernel
    exact fun h => absurd h hne
  have hhash' : Sha256.Separates t.preimage u.preimage := by
    have hne : Sha256.digest t.preimage ≠ Sha256.digest u.preimage := by decide +kernel
    exact fun h => absurd h hne
  obtain ⟨-, hkeys, htargets⟩ := ofParts_unambiguous
  refine ⟨⟨hfits.1, hfits.2, hedited, hhash⟩, (hkeys _ _ hfits.1 hfits.2 hedited).2 hhash, hmarks.1, hmarks.2, hhash',
    fun hkey => ?_⟩
  have husername : "ab" = "a" := ((htargets t u hmarks.1 hmarks.2 hhash').1 hkey).username
  exact absurd husername (by decide)

end Fingerprint

end RemoteShell
