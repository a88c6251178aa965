import RemoteShell.Proofs.Soap.Queries
import RemoteShell.Proofs.Text.Numeral

/-!
# The exit code that a response holds

The exit code of a response is read from its first `ExitCode` element, and nothing else in the response counts
(`FirstCode`).  Its trimmed text is empty, and then there is no code; or it is a decimal numeral of an integer of 32
bits, and then this integer is the code; or the field is malformed (`exitCode?_exact`).  In particular an integer out
of range is no code, and not some other code either.
-/

namespace RemoteShell.Soap.Response

open Numeral (Denotes FitsInt32 denotes_toString int32 int32_eq_ok_iff int32_eq_tooLarge int32_eq_tooSmall)
open Xml (Document Element)

/-- An element is there to hold an exit code. -/
def IsCode (e : Element) : Prop :=
  e.uri = some shellUri ∧ e.name = "ExitCode"

/-- The element that counts: the first one, in document order, that is there to hold an exit code. -/
def FirstCode (d : Document) (e : Element) : Prop :=
  ∃ before after, d.root.preorder = before ++ e :: after ∧ (∀ x ∈ before, ¬ IsCode x) ∧ IsCode e

/-- What is said of a text that is no exit code. -/
def notCode (text : String) (fault : NumeralFault) : Failure :=
  .fieldMalformed .exitCode ("'" ++ text ++ "' is not an exit code: " ++ fault.message)

/-- What is read as the exit code of a response. -/
structure ReadsCode (d : Document) : Prop where
  /-- There is no code if no element is there to hold one, or the first one is blank. -/
  absent : exitCode? d = .ok none ↔
    (∀ x ∈ d.root.preorder, ¬ IsCode x) ∨ ∃ e, FirstCode d e ∧ Text.trim e.text = ""
  /-- A code is an integer of 32 bits of which the first element holds a numeral. -/
  present : ∀ n, exitCode? d = .ok (some n) ↔
    ∃ e, FirstCode d e ∧ Denotes (Text.trim e.text).toList n ∧ FitsInt32 n
  /-- In all other cases the field is malformed. -/
  malformed : ∀ e, FirstCode d e → Text.trim e.text ≠ "" →
    (∀ n, Denotes (Text.trim e.text).toList n → ¬ FitsInt32 n) →
    ∃ fault, exitCode? d = .error (notCode (Text.trim e.text) fault)
  /-- An integer above the range is said to be too large. -/
  tooLarge : ∀ e n, FirstCode d e → Denotes (Text.trim e.text).toList n → 2 ^ 31 ≤ n →
    exitCode? d = .error (notCode (Text.trim e.text) .tooLarge)
  /-- An integer below the range is said to be too small. -/
  tooSmall : ∀ e n, FirstCode d e → Denotes (Text.trim e.text).toList n → n < -2 ^ 31 →
    exitCode? d = .error (notCode (Text.trim e.text) .tooSmall)
  /-- The text of an integer of 32 bits is read between any blanks. -/
  spaced : ∀ e n before after, FirstCode d e → FitsInt32 n → (∀ c ∈ before, Text.isBlankChar c = true) →
    (∀ c ∈ after, Text.isBlankChar c = true) → e.text.toList = before ++ (toString n).toList ++ after →
    exitCode? d = .ok (some n)
  /-- Nothing but the text of the first element counts. -/
  sameText : ∀ d' e e', FirstCode d e → FirstCode d' e' → Text.trim e.text = Text.trim e'.text →
    exitCode? d = exitCode? d'

variable {d : Document} {e : Element} {text : String} {n : Int}

theorem carriedBy_exitCode_iff : Field.exitCode.carriedBy e = true ↔ IsCode e := by
  rw [Field.carriedBy, Element.named, IsCode, Bool.and_eq_true, beq_iff_eq, beq_iff_eq]

theorem carriedBy_exitCode_eq_false_iff : Field.exitCode.carriedBy e = false ↔ ¬ IsCode e := by
  rw [← carriedBy_exitCode_iff, Bool.not_eq_true]

/-! ## The text of the first element -/

theorem first?_of_firstCode (h : FirstCode d e) : first? d .exitCode = some (Text.trim e.text) := by
  obtain ⟨before, after, hsplit, hbefore, hcode⟩ := h
  exact first?_eq_some_iff.2 ⟨before, e, after, hsplit, carriedBy_exitCode_iff.2 hcode,
    fun x hx => carriedBy_exitCode_eq_false_iff.2 (hbefore x hx), rfl⟩

theorem exists_firstCode (h : first? d .exitCode = some text) : ∃ e, FirstCode d e ∧ Text.trim e.text = text := by
  obtain ⟨before, e, after, hsplit, hcarries, hbefore, htext⟩ := first?_eq_some_iff.1 h
  exact ⟨e, ⟨before, after, hsplit, fun x hx => carriedBy_exitCode_eq_false_iff.1 (hbefore x hx),
    carriedBy_exitCode_iff.1 hcarries⟩, htext⟩

theorem first?_exitCode_eq_none_iff : first? d .exitCode = none ↔ ∀ x ∈ d.root.preorder, ¬ IsCode x := by
  rw [first?_eq_none_iff]
  exact forall₂_congr fun _ _ => carriedBy_exitCode_eq_false_iff

/-! ## From the text to the code -/

theorem exitCode?_of_blank (h : first? d .exitCode = none ∨ first? d .exitCode = some "") :
    exitCode? d = .ok none := by
  rw [exitCode?, filter_first?_eq_none_iff.2 h]

theorem exitCode?_of_ok (h : first? d .exitCode = some text) (hne : text ≠ "") (hread : int32 text.toList = .ok n) :
    exitCode? d = .ok (some n) := by
  rw [exitCode?, filter_first?_eq_some_iff.2 ⟨h, hne⟩]
  simp only [hread]

theorem exitCode?_of_error {fault : NumeralFault} (h : first? d .exitCode = some text) (hne : text ≠ "")
    (hread : int32 text.toList = .error fault) : exitCode? d = .error (notCode text fault) := by
  rw [exitCode?, filter_first?_eq_some_iff.2 ⟨h, hne⟩]
  simp only [hread]
  rfl

/-- There is no text, or it is read as a numeral. -/
theorem exitCode?_cases (d : Document) :
    ((first? d .exitCode = none ∨ first? d .exitCode = some "") ∧ exitCode? d = .ok none) ∨
      ∃ text, first? d .exitCode = some text ∧ text ≠ "" ∧
        ((∃ n, int32 text.toList = .ok n ∧ exitCode? d = .ok (some n)) ∨
          ∃ fault, int32 text.toList = .error fault ∧ exitCode? d = .error (notCode text fault)) := by
  cases hfirst : first? d .exitCode with
  | none => exact .inl ⟨.inl rfl, exitCode?_of_blank (.inl hfirst)⟩
  | some text =>
    by_cases hne : text = ""
    · subst hne
      exact .inl ⟨.inr rfl, exitCode?_of_blank (.inr hfirst)⟩
    · refine .inr ⟨text, rfl, hne, ?_⟩
      cases hread : int32 text.toList with
      | ok n => exact .inl ⟨n, rfl, exitCode?_of_ok hfirst hne hread⟩
      | error fault => exact .inr ⟨fault, rfl, exitCode?_of_error hfirst hne hread⟩

/-- The empty text is no numeral. -/
theorem ne_empty_of_denotes (h : Denotes text.toList n) : text ≠ "" := by
  rintro rfl
  obtain ⟨hdigits⟩ := h
  exact hdigits.1 rfl

theorem exitCode?_eq_none_iff : exitCode? d = .ok none ↔
    first? d .exitCode = none ∨ first? d .exitCode = some "" := by
  refine ⟨fun h => ?_, exitCode?_of_blank⟩
  rcases exitCode?_cases d with ⟨hblank, -⟩ | ⟨text, -, -, ⟨n, -, hcode⟩ | ⟨fault, -, hcode⟩⟩
  · exact hblank
  · cases h.symm.trans hcode
  · cases h.symm.trans hcode

theorem exitCode?_eq_some_iff : exitCode? d = .ok (some n) ↔
    ∃ text, first? d .exitCode = some text ∧ Denotes text.toList n ∧ FitsInt32 n := by
  constructor
  · intro h
    rcases exitCode?_cases d with ⟨-, hcode⟩ | ⟨text, hfirst, -, ⟨m, hread, hcode⟩ | ⟨fault, -, hcode⟩⟩
    · cases h.symm.trans hcode
    · obtain rfl := Option.some.inj (Except.ok.inj (h.symm.trans hcode))
      exact ⟨text, hfirst, int32_eq_ok_iff.1 hread⟩
    · cases h.symm.trans hcode
  · rintro ⟨text, hfirst, hdenotes, hn⟩
    exact exitCode?_of_ok hfirst (ne_empty_of_denotes hdenotes) (int32_eq_ok_iff.2 ⟨hdenotes, hn⟩)

/-- **Exit codes are read exactly.** -/
theorem exitCode?_exact (d : Document) : ReadsCode d where
  absent := by
    rw [exitCode?_eq_none_iff, first?_exitCode_eq_none_iff]
    refine or_congr_right ⟨exists_firstCode, ?_⟩
    rintro ⟨e, he, hblank⟩
    rw [first?_of_firstCode he, hblank]
  present := fun n => by
    rw [exitCode?_eq_some_iff]
    constructor
    · rintro ⟨text, hfirst, hdenotes⟩
      obtain ⟨e, he, rfl⟩ := exists_firstCode hfirst
      exact ⟨e, he, hdenotes⟩
    · rintro ⟨e, he, hdenotes⟩
      exact ⟨_, first?_of_firstCode he, hdenotes⟩
  malformed := fun e he hne hnone => by
    cases hread : int32 (Text.trim e.text).toList with
    | ok n =>
      obtain ⟨hdenotes, hn⟩ := int32_eq_ok_iff.1 hread
      exact absurd hn (hnone n hdenotes)
    | error fault => exact ⟨fault, exitCode?_of_error (first?_of_firstCode he) hne hread⟩
  tooLarge := fun e n he hdenotes hn =>
    exitCode?_of_error (first?_of_firstCode he) (ne_empty_of_denotes hdenotes) (int32_eq_tooLarge hdenotes hn)
  tooSmall := fun e n he hdenotes hn =>
    exitCode?_of_error (first?_of_firstCode he) (ne_empty_of_denotes hdenotes) (int32_eq_tooSmall hdenotes hn)
  spaced := fun e n before after he hn hbefore hafter htext => by
    have hdenotes := denotes_toString n
    have hne : (toString n).toList ≠ [] := fun hnil =>
      ne_empty_of_denotes hdenotes (String.toList_eq_nil_iff.1 hnil)
    have htrim : (Text.trim e.text).toList = (toString n).toList := by
      rw [Text.toList_trim, htext, Text.trimChars_between hbefore hafter hdenotes.not_blank hne]
    exact exitCode?_eq_some_iff.2 ⟨_, first?_of_firstCode he, by rwa [htrim], hn⟩
  sameText := fun d' e e' he he' htext => by
    rw [exitCode?, exitCode?, first?_of_firstCode he, first?_of_firstCode he', htext]

/-- A response whose exit code is a text.  In front of it stands an element of the same name in no namespace, and
behind it another code. -/
def holding (text : String) : Document where
  root :=
    ⟨some shellUri, "ReceiveResponse", [], "",
      [⟨none, "ExitCode", [], "1", []⟩,
        ⟨some shellUri, "CommandState", [("State", commandDone)], "", [⟨some shellUri, "ExitCode", [], text, []⟩]⟩,
        ⟨some shellUri, "ExitCode", [], "2", []⟩]⟩
  source := ""

theorem firstCode_holding (text : String) : FirstCode (holding text) ⟨some shellUri, "ExitCode", [], text, []⟩ := by
  let state : Element :=
    ⟨some shellUri, "CommandState", [("State", commandDone)], "", [⟨some shellUri, "ExitCode", [], text, []⟩]⟩
  refine ⟨[(holding text).root, ⟨none, "ExitCode", [], "1", []⟩, state], [⟨some shellUri, "ExitCode", [], "2", []⟩],
    rfl, ?_, rfl, rfl⟩
  simp [IsCode, holding, state]

/-- The smallest exit code between blanks, and a text that is one more than the largest. -/
theorem exitCode?_exact_limits :
    exitCode? (holding " \n-2147483648\t") = .ok (some (-2147483648)) ∧
      exitCode? (holding "+2147483648") = .error (notCode "+2147483648" .tooLarge) := by
  have htrim : Text.trim "+2147483648" = "+2147483648" := by decide +kernel
  have hlarge : Denotes (Text.trim "+2147483648").toList 2147483648 := by
    rw [htrim]
    exact .plus ⟨by decide, List.all_eq_true.1 (by decide)⟩
  constructor
  · have hfits : FitsInt32 (-2147483648) := by decide
    have hbefore : ∀ c ∈ [' ', '\n'], Text.isBlankChar c = true := List.all_eq_true.1 (by decide)
    have hafter : ∀ c ∈ ['\t'], Text.isBlankChar c = true := List.all_eq_true.1 (by decide)
    have htext : " \n-2147483648\t".toList = [' ', '\n'] ++ (toString (-2147483648 : Int)).toList ++ ['\t'] := by
      decide +kernel
    exact (exitCode?_exact _).spaced _ _ _ _ (firstCode_holding _) hfits hbefore hafter htext
  · have herror := (exitCode?_exact _).tooLarge _ _ (firstCode_holding "+2147483648") hlarge (by decide)
    rwa [htrim] at herror

end RemoteShell.Soap.Response
