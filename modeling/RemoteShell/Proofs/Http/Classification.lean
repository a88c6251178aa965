import RemoteShell.Http.Exchange
import RemoteShell.Proofs.Xml.Traversal

/-!
# What becomes of a request

A request document is answered by a document, or fails.  It fails before anything is posted if getting an
authorization value for it fails.  Otherwise it is posted once, whatever the value is, and all depends on what the
client then delivers (`Http.Reply`).  The request is answered exactly if that is a status and a body, the status is not
one of failure, and the body is a document; the answer is that document (`Http.classify_eq_ok_iff`).  In all other cases
the transport has failed.  Such a failure carries the request, and the body if it was read, and says what has happened
(`Http.Explains`).

A response with a status of failure is explained by the reason of its first fault, if it has one
(`Soap.Response.FaultReason`).
-/

namespace RemoteShell

open Soap (Envelope)
open Xml (Document Element ParseError)

namespace Soap.Response

/-! ## Faults -/

/-- An element is a fault. -/
def IsFault (e : Element) : Prop :=
  e.uri = some soapUri ∧ e.name = "Fault"

/-- An element holds a text of the fault around it. -/
def IsText (e : Element) : Prop :=
  e.uri = some soapUri ∧ e.name = "Text"

/-- The reason that a fault gives: the first text inside it that is not blank. -/
inductive Gives (fault : Element) : String → Prop
  | text {before after : List Element} {e : Element} (inside : fault.preorder = before ++ e :: after)
      (isText : IsText e) (nonblank : Text.trim e.text ≠ "")
      (blank : ∀ x ∈ before, IsText x → Text.trim x.text = "") : Gives fault (Text.trim e.text)
  | nothing (blank : ∀ x ∈ fault.preorder, IsText x → Text.trim x.text = "") :
      Gives fault "SOAP fault without reason text"

/-- The first fault in a response, in document order, gives a reason. -/
def FaultReason (d : Document) (reason : String) : Prop :=
  ∃ before fault after, d.root.preorder = before ++ fault :: after ∧ (∀ x ∈ before, ¬ IsFault x) ∧
    IsFault fault ∧ Gives fault reason

variable {d : Document} {e : Element} {reason : String}

theorem named_fault_iff : e.named soapUri "Fault" = true ↔ IsFault e := by
  rw [Element.named, IsFault, Bool.and_eq_true, beq_iff_eq, beq_iff_eq]

theorem named_text_iff : e.named soapUri "Text" = true ↔ IsText e := by
  rw [Element.named, IsText, Bool.and_eq_true, beq_iff_eq, beq_iff_eq]

/-- The text that is taken for the reason of a fault is the one that it gives. -/
theorem gives_reason (fault : Element) :
    Gives fault ((((fault.descendants.filter (·.named soapUri "Text")).map fun e => Text.trim e.text).find?
      (· ≠ "")).getD noReason) := by
  rw [Element.descendants_eq_preorder, List.find?_map, List.find?_filter]
  cases hfind : fault.preorder.find? fun e => decide (e.named soapUri "Text" = true ∧
      ((fun t => decide (t ≠ "")) ∘ fun e => Text.trim e.text) e = true) with
  | none =>
    refine .nothing fun x hx htext => Decidable.byContradiction fun hnonblank => ?_
    exact List.find?_eq_none.1 hfind x hx (decide_eq_true ⟨named_text_iff.2 htext, decide_eq_true hnonblank⟩)
  | some e =>
    obtain ⟨he, before, after, hsplit, hbefore⟩ := List.find?_eq_some_iff_append.1 hfind
    obtain ⟨htext, hnonblank⟩ := of_decide_eq_true he
    refine .text hsplit (named_text_iff.1 htext) (of_decide_eq_true hnonblank) fun x hx hx' => ?_
    refine Decidable.byContradiction fun hfirst => ?_
    have hnot := hbefore x hx
    rw [decide_eq_true ⟨named_text_iff.2 hx', decide_eq_true hfirst⟩] at hnot
    cases hnot

theorem faultReason_of_eq_some (h : faultReason? d = some reason) : FaultReason d reason := by
  obtain ⟨fault, hfault, rfl⟩ := Option.map_eq_some_iff.1 h
  rw [Document.elements, Element.descendants_eq_preorder] at hfault
  obtain ⟨hnamed, before, after, hsplit, hbefore⟩ := List.find?_eq_some_iff_append.1 hfault
  refine ⟨before, fault, after, hsplit, fun x hx hx' => ?_, named_fault_iff.1 hnamed, gives_reason fault⟩
  simpa [named_fault_iff.2 hx'] using hbefore x hx

theorem not_isFault_of_eq_none (h : faultReason? d = none) : ∀ x ∈ d.root.preorder, ¬ IsFault x := by
  intro x hx hfault
  have hfind := Option.map_eq_none_iff.1 h
  rw [Document.elements, Element.descendants_eq_preorder] at hfind
  exact List.find?_eq_none.1 hfind x hx (named_fault_iff.2 hfault)

end Soap.Response

namespace Http

open Soap.Response (IsFault FaultReason)

/-! ## Replies -/

/-- A status says that the request has failed. -/
def Fails (status : Nat) : Prop :=
  400 ≤ status ∧ status < 600

/-- Why a reply to a request is no answer: what is said, the body if it was read, and the cause. -/
inductive Explains (url : String) : Reply → String → Option String → Cause → Prop
  | nothing : Explains url .nothing ("HTTP request to " ++ url ++ " failed") none .other
  | broken (status : Nat) :
      Explains url (.broken status) ("Failed to read response body (HTTP " ++ statusText status ++ ")") none .other
  | malformed {status : Nat} {body : String} {e : ParseError} (succeeds : ¬ Fails status)
      (parse : Document.parse body = .error e) :
      Explains url (.whole status body) "Response is not well-formed XML" (some body) (.malformed e)
  | unreadable {status : Nat} {body : String} {e : ParseError} (fails : Fails status)
      (parse : Document.parse body = .error e) :
      Explains url (.whole status body) ("HTTP " ++ statusText status) (some body) (.malformed e)
  | fault {status : Nat} {body : String} {d : Document} {reason : String} (fails : Fails status)
      (parse : Document.parse body = .ok d) (gives : FaultReason d reason) :
      Explains url (.whole status body) ("HTTP " ++ statusText status ++ ": " ++ reason) (some body) .none
  | faultless {status : Nat} {body : String} {d : Document} (fails : Fails status)
      (parse : Document.parse body = .ok d) (none : ∀ e ∈ d.root.preorder, ¬ IsFault e) :
      Explains url (.whole status body) ("HTTP " ++ statusText status) (some body) .none

variable {url request : String} {reply : Reply} {status : Nat} {d : Document} {f : Failure}

theorem isFailing_iff : isFailing status = true ↔ Fails status := by
  rw [isFailing, Fails, Bool.and_eq_true, decide_eq_true_iff, decide_eq_true_iff]

/-- **A request is answered** exactly if a status comes that is not one of failure, with a body that is a document. -/
theorem classify_eq_ok_iff : classify url request reply = .ok d ↔ ∃ status body,
    reply = .whole status body ∧ ¬ Fails status ∧ Document.parse body = .ok d := by
  cases reply with
  | nothing => exact iff_of_false nofun fun ⟨_, _, h, _⟩ => nomatch h
  | broken status => exact iff_of_false nofun fun ⟨_, _, h, _⟩ => nomatch h
  | whole status body =>
    have hreply : (∃ status' body', Reply.whole status body = .whole status' body' ∧ ¬ Fails status' ∧
        Document.parse body' = .ok d) ↔ ¬ Fails status ∧ Document.parse body = .ok d :=
      ⟨fun ⟨_, _, heq, h⟩ => by cases heq; exact h, fun h => ⟨_, _, rfl, h⟩⟩
    rw [hreply, ← isFailing_iff, classify, classifyBody]
    cases hfails : isFailing status <;> cases Document.parse body <;> simp

/-- **Otherwise the transport has failed**, and the failure says why. -/
theorem exists_classify_eq_error (h : classify url request reply = .error f) :
    ∃ detail response cause, f = .transport detail request response cause ∧
      Explains url reply detail response cause := by
  cases reply with
  | nothing =>
    cases h
    exact ⟨_, _, _, rfl, .nothing⟩
  | broken status =>
    cases h
    exact ⟨_, _, _, rfl, .broken status⟩
  | whole status body =>
    rw [classify, classifyBody] at h
    cases hparse : Document.parse body with
    | error e =>
      rw [hparse] at h
      cases h
      cases hfails : isFailing status with
      | true => exact ⟨_, _, _, rfl, .unreadable (isFailing_iff.1 hfails) hparse⟩
      | false => exact ⟨_, _, _, rfl, .malformed ((Bool.eq_false_iff.1 hfails ∘ isFailing_iff.2)) hparse⟩
    | ok d =>
      rw [hparse] at h
      cases hfails : isFailing status with
      | false =>
        simp only [hfails, Bool.false_eq_true, if_false] at h
        cases h
      | true =>
        simp only [hfails, if_true, Except.error.injEq] at h
        cases hreason : Soap.Response.faultReason? d with
        | none =>
          rw [hreason, String.append_empty] at h
          exact ⟨_, _, _, h.symm, .faultless (isFailing_iff.1 hfails) hparse
            (Soap.Response.not_isFault_of_eq_none hreason)⟩
        | some reason =>
          rw [hreason, ← String.append_assoc] at h
          exact ⟨_, _, _, h.symm, .fault (isFailing_iff.1 hfails) hparse
            (Soap.Response.faultReason_of_eq_some hreason)⟩

/-! ## Requests -/

namespace Poster

variable {p : Poster} {envelope : Envelope}

/-- The authorization value for the next request, if one is needed, or the reason why getting it fails. -/
def authorization (p : Poster) : Except Failure (Option String) :=
  (p.generator.next p.surroundings).1

/-- The request that carries a document, with an authorization value. -/
def message (p : Poster) (envelope : Envelope) (value : Option String) : Message where
  url := p.url
  contentType := "application/soap+xml; charset=UTF-8"
  soapAction := envelope.action.map (·.uri)
  authorization := value
  body := envelope.xml

/-- What becomes of a request document. -/
structure Classified (p : Poster) (envelope : Envelope) (answer : Except Failure Document) (p' : Poster) : Prop where
  /-- If getting an authorization value fails, nothing is posted, and the reason for this is the answer. -/
  unauthorized : ∀ e, p.authorization = .error e → answer = .error e ∧ p'.posted = p.posted ∧ p'.network = p.network
  /-- With one, or none that is needed, the document is posted once, and one reply is taken for it. -/
  posted : ∀ value, p.authorization = .ok value →
    p'.posted = p.message envelope value :: p.posted ∧ p'.network = p.network.tail
  /-- What is answered. -/
  answered : ∀ d, answer = .ok d ↔ ∃ value status body, p.authorization = .ok value ∧
    p.network.next.reply = .whole status body ∧ ¬ Fails status ∧ Document.parse body = .ok d
  /-- All else is a failure of the transport. -/
  failed : ∀ value, p.authorization = .ok value → (∀ d, answer ≠ .ok d) →
    ∃ detail response cause, answer = .error (.transport detail envelope.xml response cause) ∧
      Explains p.url p.network.next.reply detail response cause

/-- Without an authorization value for it, a document fails at once. -/
theorem post_of_error {e : Failure} (h : p.authorization = .error e) (envelope : Envelope) :
    (p.post envelope).1 = 0 ∧ (p.post envelope).2.1 = .error e ∧ (p.post envelope).2.2.posted = p.posted ∧
      (p.post envelope).2.2.network = p.network := by
  rw [authorization] at h
  simp only [post, h, and_self]

/-- A document that is posted waits for the next reply, and becomes what is made of it. -/
theorem post_of_ok {value : Option String} (h : p.authorization = .ok value) (envelope : Envelope) :
    (p.post envelope).1 = p.network.next.delay ∧
      (p.post envelope).2.1 = classify p.url envelope.xml p.network.next.reply ∧
      (p.post envelope).2.2.posted = p.message envelope value :: p.posted ∧
      (p.post envelope).2.2.network = p.network.tail := by
  rw [authorization] at h
  simp only [post, h]
  exact ⟨trivial, rfl, rfl, trivial⟩

/-- **What becomes of a request document**, whatever the generator of authorization values gives and whatever the
client delivers. -/
theorem post_classified (p : Poster) (envelope : Envelope) :
    p.Classified envelope (p.post envelope).2.1 (p.post envelope).2.2 := by
  cases hvalue : p.authorization with
  | error e =>
    obtain ⟨-, hanswer, hposted, hnetwork⟩ := post_of_error hvalue envelope
    refine ⟨fun e' he => ?_, fun value hok => ?_, fun d => ?_, fun value hok => ?_⟩
    · cases hvalue.symm.trans he
      exact ⟨hanswer, hposted, hnetwork⟩
    · cases hvalue.symm.trans hok
    · rw [hanswer]
      exact iff_of_false nofun fun ⟨_, _, _, hok, _⟩ => nomatch hvalue.symm.trans hok
    · cases hvalue.symm.trans hok
  | ok value =>
    obtain ⟨-, hanswer, hposted⟩ := post_of_ok hvalue envelope
    refine ⟨fun e he => ?_, fun value' hok => ?_, fun d => ?_, fun value' hok hnone => ?_⟩
    · cases hvalue.symm.trans he
    · cases hvalue.symm.trans hok
      exact hposted
    · rw [hanswer, classify_eq_ok_iff]
      constructor
      · rintro ⟨status, body, hreply, hd⟩
        exact ⟨value, status, body, hvalue, hreply, hd⟩
      · rintro ⟨value', status, body, -, hreply, hd⟩
        exact ⟨status, body, hreply, hd⟩
    · rw [hanswer] at hnone ⊢
      cases hclassify : classify p.url envelope.xml p.network.next.reply with
      | ok d => exact absurd hclassify (hnone d)
      | error f =>
        obtain ⟨detail, response, cause, rfl, hexplains⟩ := exists_classify_eq_error hclassify
        exact ⟨detail, response, cause, rfl, hexplains⟩

end Poster

end Http

end RemoteShell
