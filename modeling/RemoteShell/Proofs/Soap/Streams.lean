import Mathlib.Data.List.Forall2
import RemoteShell.Proofs.Base64
import RemoteShell.Proofs.Xml.Traversal
import RemoteShell.Soap.Response

/-!
# The output that a response holds

A response holds the output of a stream in elements that name the stream, in document order.  Such an element holds
a chunk if its trimmed text is empty or the chunk in Base64 (`Holds`), and there is at most one such chunk.  Reading
a stream puts one chunk behind the other, and fails at the first element that holds none (`joinChunks_of_holds`,
`exists_joinChunks_eq_error`).

Which elements are read for a stream depends on their namespace, their name and the stream that they name, and on
nothing else in the document.  So what is read for one stream does not depend on the chunks of the other, on where
the elements stand among other elements, or on what these say (`stream_decodes`).
-/

namespace RemoteShell.Soap.Response

open Xml (Document Element)

/-- The elements of a document that hold output of the stream with a name, in document order. -/
def streamsNamed (d : Document) (name : String) : List Element :=
  d.root.preorder.filter fun e => e.named shellUri "Stream" && e.attribute? "Name" == some name

/-- The trimmed text of an element is empty, and so is the chunk, or it is the chunk in Base64. -/
def Holds (e : Element) (chunk : List UInt8) : Prop :=
  Text.trim e.text = "" ∧ chunk = [] ∨ Text.trim e.text = Base64.encode chunk

/-- What reading the stream with a name as a field gives. -/
structure Decodes (d : Document) (f : Field) (name : String) : Prop where
  /-- Reading succeeds exactly if every element of the stream holds a chunk. -/
  succeeds : (∃ bytes, stream d f = .ok bytes) ↔ ∀ e ∈ streamsNamed d name, ∃ chunk, Holds e chunk
  /-- The bytes read are the chunks of the elements, one behind the other. -/
  joined : ∀ chunks, List.Forall₂ Holds (streamsNamed d name) chunks → stream d f = .ok chunks.flatten
  /-- If one of the elements holds no chunk, the field is said to be malformed. -/
  refused : (¬ ∀ e ∈ streamsNamed d name, ∃ chunk, Holds e chunk) →
    ∃ reason, stream d f = .error (.fieldMalformed f reason)

variable {f : Field} {e : Element} {es : List Element} {bytes : List UInt8}

/-! ## One chunk -/

/-- The empty text is the empty chunk in Base64. -/
theorem holds_iff : Holds e bytes ↔ Text.trim e.text = Base64.encode bytes := by
  refine ⟨?_, .inr⟩
  rintro (⟨hempty, rfl⟩ | hencoded)
  · rw [hempty]
    rfl
  · exact hencoded

theorem chunk_eq_ok_iff : chunk f e = .ok bytes ↔ Holds e bytes := by
  rw [holds_iff, ← Base64.decode_eq_ok_iff, chunk]
  cases Base64.decode (Text.trim e.text) with
  | ok found => exact ⟨fun h => congrArg _ (Except.ok.inj h), fun h => congrArg _ (Except.ok.inj h)⟩
  | error fault => exact ⟨nofun, nofun⟩

/-- A chunk that cannot be read is a fault of the field. -/
theorem exists_chunk_eq_error (h : ∀ bytes, ¬ Holds e bytes) :
    ∃ reason, chunk f e = .error (.fieldMalformed f reason) := by
  cases hdecoded : Base64.decode (Text.trim e.text) with
  | ok bytes => exact absurd (holds_iff.2 (Base64.decode_eq_ok_iff.1 hdecoded)) (h bytes)
  | error fault =>
    refine ⟨"invalid Base64 chunk: " ++ fault.message, ?_⟩
    rw [chunk, hdecoded]

/-! ## All chunks -/

/-- Elements that hold chunks are read as these chunks, one behind the other. -/
theorem joinChunks_of_holds {chunks : List (List UInt8)} (h : List.Forall₂ Holds es chunks) :
    joinChunks f es = .ok chunks.flatten := by
  induction h with
  | nil => rfl
  | cons hfirst _ ih =>
    rw [joinChunks, chunk_eq_ok_iff.2 hfirst, ih]
    rfl

/-- Reading fails at the first element that holds no chunk. -/
theorem exists_joinChunks_eq_error (h : ∃ e ∈ es, ∀ bytes, ¬ Holds e bytes) :
    ∃ reason, joinChunks f es = .error (.fieldMalformed f reason) := by
  induction es with
  | nil =>
    obtain ⟨e, he, -⟩ := h
    cases he
  | cons e es ih =>
    by_cases hfirst : ∃ bytes, Holds e bytes
    · obtain ⟨bytes, hbytes⟩ := hfirst
      obtain ⟨x, hx, hnone⟩ := h
      have hrest : x ∈ es := by
        refine (List.mem_cons.1 hx).resolve_left ?_
        rintro rfl
        exact hnone bytes hbytes
      obtain ⟨reason, hfault⟩ := ih ⟨x, hrest, hnone⟩
      refine ⟨reason, ?_⟩
      rw [joinChunks, chunk_eq_ok_iff.2 hbytes, hfault]
      rfl
    · obtain ⟨reason, hfault⟩ := exists_chunk_eq_error (f := f) (not_exists.1 hfirst)
      refine ⟨reason, ?_⟩
      rw [joinChunks, hfault]
      rfl

/-- If each element holds a chunk, the elements together hold a row of chunks. -/
theorem exists_forall₂_holds (h : ∀ e ∈ es, ∃ chunk, Holds e chunk) :
    ∃ chunks, List.Forall₂ Holds es chunks := by
  induction es with
  | nil => exact ⟨[], .nil⟩
  | cons e es ih =>
    obtain ⟨first, hfirst⟩ := h e List.mem_cons_self
    obtain ⟨chunks, hchunks⟩ := ih fun x hx => h x (List.mem_cons_of_mem e hx)
    exact ⟨first :: chunks, .cons hfirst hchunks⟩

/-- Elements whose texts are some chunks in Base64 hold these chunks. -/
theorem forall₂_holds {chunks : List (List UInt8)}
    (h : (es.map fun e => Text.trim e.text) = chunks.map Base64.encode) : List.Forall₂ Holds es chunks := by
  have hpairs : List.Forall₂ (fun e chunk => Text.trim e.text = Base64.encode chunk) es chunks := by
    rwa [← List.forall₂_eq_eq_eq, List.forall₂_map_left_iff, List.forall₂_map_right_iff] at h
  exact hpairs.imp fun _ _ => .inr

/-! ## Streams -/

theorem carriers_stdout (d : Document) : carriers d .stdout = streamsNamed d "stdout" := by
  rw [carriers, Document.elements, Element.descendants_eq_preorder]
  rfl

theorem carriers_stderr (d : Document) : carriers d .stderr = streamsNamed d "stderr" := by
  rw [carriers, Document.elements, Element.descendants_eq_preorder]
  rfl

/-- A field whose carriers are the elements of a stream is read as these say. -/
theorem decodes_of_carriers {d : Document} {name : String} (h : carriers d f = streamsNamed d name) :
    Decodes d f name where
  succeeds := by
    rw [stream, h]
    constructor
    · rintro ⟨bytes, hbytes⟩
      by_contra hsome
      push Not at hsome
      obtain ⟨reason, hfault⟩ := exists_joinChunks_eq_error (f := f) hsome
      rw [hfault] at hbytes
      cases hbytes
    · intro hall
      obtain ⟨chunks, hchunks⟩ := exists_forall₂_holds hall
      exact ⟨chunks.flatten, joinChunks_of_holds hchunks⟩
  joined := fun chunks hchunks => by
    rw [stream, h]
    exact joinChunks_of_holds hchunks
  refused := fun hsome => by
    rw [stream, h]
    push Not at hsome
    exact exists_joinChunks_eq_error hsome

/-- **The output of a response.**  Each stream is read from the elements that name it, if every one of them holds a
chunk, and is malformed otherwise.  So of a response that holds chunks of both streams, in any order and among
anything else, each stream is read as its own chunks. -/
theorem stream_decodes (d : Document) :
    Decodes d .stdout "stdout" ∧ Decodes d .stderr "stderr" ∧
      (∀ xs : List (List UInt8), ((streamsNamed d "stdout").map fun e => Text.trim e.text) = xs.map Base64.encode →
        stream d .stdout = .ok xs.flatten) ∧
      ∀ ys : List (List UInt8), ((streamsNamed d "stderr").map fun e => Text.trim e.text) = ys.map Base64.encode →
        stream d .stderr = .ok ys.flatten := by
  have hout := decodes_of_carriers (carriers_stdout d)
  have herr := decodes_of_carriers (carriers_stderr d)
  refine ⟨hout, herr, fun xs hxs => ?_, fun ys hys => ?_⟩
  · exact hout.joined xs (forall₂_holds hxs)
  · exact herr.joined ys (forall₂_holds hys)

/-- A response in which chunks of the two streams alternate; one chunk is empty, one stands between blanks, and an
exit code follows. -/
def alternating : Document where
  root :=
    ⟨some shellUri, "ReceiveResponse", [], "",
      [⟨some shellUri, "Stream", [("Name", "stderr")], "ZQ==", []⟩,
        ⟨some shellUri, "Stream", [("Name", "stdout")], " aGk=\n", []⟩,
        ⟨some shellUri, "Stream", [("Name", "stderr"), ("End", "true")], "", []⟩,
        ⟨some shellUri, "Stream", [("Name", "stdout")], "IQ==", []⟩,
        ⟨some shellUri, "CommandState", [("State", commandDone)], "",
          [⟨some shellUri, "ExitCode", [], "1", []⟩]⟩]⟩
  source := ""

theorem stream_decodes_alternating :
    stream alternating .stdout = .ok [104, 105, 33] ∧ stream alternating .stderr = .ok [101] := by
  obtain ⟨-, -, hout, herr⟩ := stream_decodes alternating
  have hxs : ((streamsNamed alternating "stdout").map fun e => Text.trim e.text) =
      [[104, 105], [33]].map Base64.encode := by
    decide +kernel
  have hys : ((streamsNamed alternating "stderr").map fun e => Text.trim e.text) =
      [[101], []].map Base64.encode := by
    decide +kernel
  exact ⟨hout _ hxs, herr _ hys⟩

end RemoteShell.Soap.Response
