import RemoteShell.Text.Utf8

/-!
# Bytes of texts

The bytes of a text determine the text (`Utf8.encode_injective`), and a text of ASCII characters has one byte for
each character (`Utf8.encode_ofList_ascii`).
-/

namespace RemoteShell.Utf8

theorem encode_injective {s t : String} (h : encode s = encode t) : s = t := by
  have hbytes : s.toList.utf8Encode = t.toList.utf8Encode := congrArg List.toByteArray h
  have hchars : s.toList.toArray = t.toList.toArray := by
    rw [← Option.some_inj, ← List.utf8Decode?_utf8Encode, hbytes, List.utf8Decode?_utf8Encode]
  exact String.toList_inj.1 (List.toArray_inj hchars)

theorem utf8EncodeChar_ascii : ∀ n < 128, String.utf8EncodeChar (Char.ofNat n) = [UInt8.ofNat n] := by
  decide +kernel

/-- **Bytes of ASCII are the bytes of the text that has them as characters.** -/
theorem encode_ofList_ascii {bytes : List UInt8} (h : ∀ b ∈ bytes, b.toNat < 128) :
    encode (String.ofList (bytes.map fun b => Char.ofNat b.toNat)) = bytes := by
  rw [encode, String.toList_ofList]
  induction bytes with
  | nil => rfl
  | cons b bytes ih =>
    rw [List.map_cons, List.flatMap_cons, utf8EncodeChar_ascii _ (h b List.mem_cons_self), UInt8.ofNat_toNat,
      ih fun x hx => h x (List.mem_cons_of_mem b hx), List.singleton_append]

end RemoteShell.Utf8
