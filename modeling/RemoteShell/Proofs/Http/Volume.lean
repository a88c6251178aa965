import Mathlib.Algebra.Order.BigOperators.Group.List
import Mathlib.Algebra.Order.Group.Nat
import RemoteShell.Proofs.Http.Classification
import RemoteShell.Proofs.Soap.Streams
import RemoteShell.Proofs.Xml.Volume

/-!
# The output in a reply

A reply holds no more bytes of output than its body has characters (`Http.length_stream_le`).  Output stands in Base64
in texts of the document, and the document has no more text than the body.
-/

namespace RemoteShell

open Soap (Field)
open Xml (Document Element)

theorem Base64.length_le_length_encodeBytes (bytes : List UInt8) : bytes.length ≤ (encodeBytes bytes).length := by
  induction bytes using encodeBytes.induct with
  | case1 a b c rest ih =>
    simp only [encodeBytes, List.length_cons]
    omega
  | case2 | case3 | case4 => simp [encodeBytes]

theorem Base64.length_le_of_decode {text : String} {bytes : List UInt8} (h : decode text = .ok bytes) :
    bytes.length ≤ text.length := by
  rw [decode_eq_ok_iff.1 h, encode, String.length_ofList, List.length_map]
  exact length_le_length_encodeBytes bytes

theorem Text.length_trim_le (s : String) : (trim s).length ≤ s.length := by
  have hfront := (List.dropWhile_suffix isBlankChar (l := s.toList)).length_le
  have hback := (List.dropWhile_suffix isBlankChar (l := (s.toList.dropWhile isBlankChar).reverse)).length_le
  rw [List.length_reverse] at hback
  rw [trim, String.length_ofList, trimChars, List.length_reverse, ← String.length_toList]
  exact Nat.le_trans hback hfront

namespace Soap.Response

variable {f : Field} {e : Element} {es : List Element} {bytes : List UInt8}

theorem Holds.length_le (h : Holds e bytes) : bytes.length ≤ e.text.length :=
  Nat.le_trans (Base64.length_le_of_decode (Base64.decode_eq_ok_iff.2 (holds_iff.1 h))) (Text.length_trim_le e.text)

/-- Elements that can be read hold the chunks that they are read as. -/
theorem exists_chunks_of_joinChunks (h : joinChunks f es = .ok bytes) :
    ∃ chunks, List.Forall₂ Holds es chunks ∧ bytes = chunks.flatten := by
  by_cases hall : ∀ e ∈ es, ∃ chunk, Holds e chunk
  · obtain ⟨chunks, hchunks⟩ := exists_forall₂_holds hall
    exact ⟨chunks, hchunks, Except.ok.inj (h.symm.trans (joinChunks_of_holds hchunks))⟩
  · push Not at hall
    obtain ⟨reason, hfault⟩ := exists_joinChunks_eq_error (f := f) hall
    cases h.symm.trans hfault

theorem length_chunks_le {chunks : List (List UInt8)} (h : List.Forall₂ Holds es chunks) :
    chunks.flatten.length ≤ (es.map (·.text.length)).sum := by
  induction h with
  | nil => exact Nat.le_refl _
  | cons hfirst _ ih =>
    rw [List.flatten_cons, List.length_append, List.map_cons, List.sum_cons]
    exact Nat.add_le_add hfirst.length_le ih

/-- The output of a stream is no longer than the texts of the response. -/
theorem length_stream_le {d : Document} (h : stream d f = .ok bytes) : bytes.length ≤ d.volume := by
  obtain ⟨chunks, hchunks, rfl⟩ := exists_chunks_of_joinChunks h
  refine Nat.le_trans (length_chunks_le hchunks) ?_
  have hsome : ((carriers d f).map fun e => e.text.length).Sublist (d.elements.map fun e => e.text.length) :=
    List.filter_sublist.map _
  exact hsome.sum_le_sum fun _ _ => Nat.zero_le _

end Soap.Response

namespace Http

/-- **A reply holds no more bytes of output than its body has characters.** -/
theorem length_stream_le {url request body : String} {status : Nat} {bytes : List UInt8} {d : Document} {f : Field}
    (h : classify url request (.whole status body) = .ok d) (hstream : Soap.Response.stream d f = .ok bytes) :
    bytes.length ≤ body.length := by
  obtain ⟨_, _, hreply, -, hparse⟩ := classify_eq_ok_iff.1 h
  cases hreply
  exact Nat.le_trans (Soap.Response.length_stream_le hstream) (Xml.parse_volume_le hparse)

end Http

end RemoteShell
