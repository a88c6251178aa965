import Mathlib.Data.List.Chain
import RemoteShell.Target

/-!
# The port of a target that is changed

A target whose port was never chosen has the port that is usual for its protocol, however often the protocol is changed
(`port_changeAll_of_usual`).

Nothing tells a port that was chosen from one that is usual.  So a chosen port is given up as well, once the protocol
for which it is usual is left for one for which it is not, and from there on the port follows the protocol; as long as
no protocol is left in this way, the port is kept (`port_changeAll_of_keeps`, `port_changeAll_of_not_keeps`).
-/

namespace RemoteShell.Target

namespace Change

/-- The port that a change chooses. -/
def port? : Change → Option UInt16
  | .port p => some p
  | _ => none

/-- The protocol that a change chooses. -/
def protocol? : Change → Option Protocol
  | .protocol q => some q
  | _ => none

end Change

/-- The port that is chosen last. -/
def chosenPort? (changes : List Change) : Option UInt16 :=
  (changes.filterMap Change.port?).getLast?

/-- The protocols that are chosen, in order. -/
def chosenProtocols (changes : List Change) : List Protocol :=
  changes.filterMap Change.protocol?

/-- No protocol for which a port is usual is left for one for which it is not. -/
def Keeps (port : UInt16) (protocols : List Protocol) : Prop :=
  protocols.IsChain fun p q => p.defaultPort = port → q.defaultPort = port

instance (port : UInt16) (protocols : List Protocol) : Decidable (Keeps port protocols) :=
  inferInstanceAs (Decidable (protocols.IsChain fun p q => p.defaultPort = port → q.defaultPort = port))

variable {t : Target} {c : Change} {changes : List Change} {p : UInt16} {q : Protocol}

/-! ## One change -/

theorem protocol_change (t : Target) (c : Change) : (t.change c).protocol = c.protocol?.getD t.protocol := by
  cases c <;> rfl

/-- A change that chooses neither a port nor a protocol leaves the port as it is. -/
theorem port_change (hport : c.port? = none) (hprotocol : c.protocol? = none) : (t.change c).port = t.port := by
  cases c with
  | port _ => cases hport
  | protocol _ => cases hprotocol
  | _ => rfl

theorem Change.eq_of_protocol? (h : c.protocol? = some q) : c = .protocol q := by
  cases c with
  | protocol _ => exact congrArg Change.protocol (Option.some.inj h)
  | _ => cases h

/-- A change of protocol leaves the port as it is, unless the port was usual and is not any more. -/
theorem port_change_protocol (h : t.protocol.defaultPort = t.port → q.defaultPort = t.port) :
    (t.change (.protocol q)).port = t.port := by
  rw [change]
  split
  · rename_i husual
    exact h husual.symm
  · rfl

/-- **A usual port stays usual**, unless another one is chosen. -/
theorem usual_change (h : t.port = t.protocol.defaultPort) (hport : c.port? = none) :
    (t.change c).port = (t.change c).protocol.defaultPort := by
  cases hprotocol : c.protocol? with
  | none => rw [port_change hport hprotocol, protocol_change, hprotocol, Option.getD_none, h]
  | some q =>
    obtain rfl := Change.eq_of_protocol? hprotocol
    exact if_pos h

/-! ## Many changes -/

theorem chosenPort?_cons_eq_none (h : chosenPort? (c :: changes) = none) :
    c.port? = none ∧ chosenPort? changes = none := by
  rw [chosenPort?, List.getLast?_eq_none_iff, List.filterMap_eq_nil_iff, List.forall_mem_cons] at h
  exact ⟨h.1, List.getLast?_eq_none_iff.2 (List.filterMap_eq_nil_iff.2 h.2)⟩

theorem chosenProtocols_cons_of_none (h : c.protocol? = none) :
    chosenProtocols (c :: changes) = chosenProtocols changes :=
  List.filterMap_cons_none h

theorem chosenProtocols_cons_of_some (h : c.protocol? = some q) :
    chosenProtocols (c :: changes) = q :: chosenProtocols changes :=
  List.filterMap_cons_some h

/-- **The protocol of a target is the one that was chosen last.** -/
theorem protocol_changeAll (t : Target) (changes : List Change) :
    (t.changeAll changes).protocol = (chosenProtocols changes).getLastD t.protocol := by
  induction changes generalizing t with
  | nil => rfl
  | cons c changes ih =>
    rw [changeAll, List.foldl_cons, ← changeAll, ih, protocol_change]
    cases hprotocol : c.protocol? with
    | none => rw [chosenProtocols_cons_of_none hprotocol, Option.getD_none]
    | some q => rw [chosenProtocols_cons_of_some hprotocol, Option.getD_some, List.getLastD_cons]

/-- **A usual port follows the protocol** as long as no other one is chosen. -/
theorem port_changeAll_of_usual (h : t.port = t.protocol.defaultPort) (hport : chosenPort? changes = none) :
    (t.changeAll changes).port = (t.changeAll changes).protocol.defaultPort := by
  induction changes generalizing t with
  | nil => exact h
  | cons c changes ih =>
    obtain ⟨hc, hrest⟩ := chosenPort?_cons_eq_none hport
    exact ih (usual_change h hc) hrest

/-- **A port is kept** if no protocol for which it is usual is left. -/
theorem port_changeAll_of_keeps (hport : chosenPort? changes = none)
    (h : Keeps t.port (t.protocol :: chosenProtocols changes)) : (t.changeAll changes).port = t.port := by
  induction changes generalizing t with
  | nil => rfl
  | cons c changes ih =>
    obtain ⟨hc, hrest⟩ := chosenPort?_cons_eq_none hport
    rw [changeAll, List.foldl_cons, ← changeAll]
    cases hprotocol : c.protocol? with
    | none =>
      have hsame : (t.change c).port = t.port := port_change hc hprotocol
      rw [chosenProtocols_cons_of_none hprotocol] at h
      rw [ih hrest (by rwa [hsame, protocol_change, hprotocol]), hsame]
    | some q =>
      obtain rfl := Change.eq_of_protocol? hprotocol
      rw [chosenProtocols_cons_of_some hprotocol] at h
      obtain ⟨hstep, hkeeps⟩ := List.isChain_cons_cons.1 h
      have hsame : (t.change (.protocol q)).port = t.port := port_change_protocol hstep
      rw [ih hrest (by rwa [hsame]), hsame]

/-- **A port is given up** if a protocol for which it is usual is left, and follows the protocol from there on. -/
theorem port_changeAll_of_not_keeps (hport : chosenPort? changes = none)
    (h : ¬ Keeps t.port (t.protocol :: chosenProtocols changes)) :
    (t.changeAll changes).port = (t.changeAll changes).protocol.defaultPort := by
  induction changes generalizing t with
  | nil => exact absurd (List.isChain_singleton _) h
  | cons c changes ih =>
    -- The port follows the protocol if it is the usual one now; else it is given up later on.
    by_cases husual : t.port = t.protocol.defaultPort
    · exact port_changeAll_of_usual husual hport
    · obtain ⟨hc, hrest⟩ := chosenPort?_cons_eq_none hport
      rw [changeAll, List.foldl_cons, ← changeAll]
      cases hprotocol : c.protocol? with
      | none =>
        rw [chosenProtocols_cons_of_none hprotocol] at h
        exact ih hrest (by rwa [port_change hc hprotocol, protocol_change, hprotocol])
      | some q =>
        obtain rfl := Change.eq_of_protocol? hprotocol
        have hstep : t.protocol.defaultPort = t.port → q.defaultPort = t.port := fun heq => absurd heq.symm husual
        rw [chosenProtocols_cons_of_some hprotocol, Keeps, List.isChain_cons_cons] at h
        exact ih hrest (by rw [port_change_protocol hstep]; exact fun hkeeps => h ⟨hstep, hkeeps⟩)

/-! ## The port of a new target -/

/-- **The port of a target that is made by changes.**  If none was chosen, it is the usual one of the protocol.  The one
that was chosen last is kept if no protocol for which it is usual is left afterwards; else the port is the usual one of
the protocol. -/
theorem port_changeAll (host : String) (changes : List Change) :
    let t := (ofHost host).changeAll changes
    t.protocol = (chosenProtocols changes).getLastD .http ∧
      (chosenPort? changes = none → t.port = t.protocol.defaultPort) ∧
      ∀ before p after, changes = before ++ .port p :: after → chosenPort? after = none →
        t.port = if Keeps p ((chosenProtocols before).getLastD .http :: chosenProtocols after) then p
          else t.protocol.defaultPort := by
  refine ⟨protocol_changeAll (ofHost host) changes, port_changeAll_of_usual rfl, ?_⟩
  rintro before p after rfl hport
  have hstart : (ofHost host).changeAll (before ++ .port p :: after) =
      (((ofHost host).changeAll before).change (.port p)).changeAll after := by
    simp only [changeAll, List.foldl_append, List.foldl_cons]
  have hprotocol : (((ofHost host).changeAll before).change (.port p)).protocol =
      (chosenProtocols before).getLastD .http := protocol_changeAll (ofHost host) before
  rw [hstart, ← hprotocol]
  split
  · rename_i hkeeps
    exact port_changeAll_of_keeps hport hkeeps
  · rename_i hkeeps
    exact port_changeAll_of_not_keeps hport hkeeps

/-- A port that is not usual is kept through two changes of protocol; a usual one is kept while its protocol is not
left, even if it was chosen for another protocol. -/
theorem port_changeAll_kept :
    let changes : List Change :=
      [.port 80, .protocol .https, .port 8443, .locale "de-DE", .protocol .http, .protocol .https]
    let usual : List Change := [.port 5986, .protocol .https, .protocol .httpsLazy]
    (changes = [.port 80, .protocol .https] ++ .port 8443 :: [.locale "de-DE", .protocol .http, .protocol .https] ∧
        chosenPort? [.locale "de-DE", .protocol .http, .protocol .https] = none ∧
        ((ofHost "win-01").changeAll changes).port = 8443) ∧
      usual = [] ++ .port 5986 :: [.protocol .https, .protocol .httpsLazy] ∧
        chosenPort? [.protocol .https, .protocol .httpsLazy] = none ∧
        ((ofHost "win-01").changeAll usual).port = 5986 ∧
      chosenPort? [.protocol .https] = none ∧ ((ofHost "win-01").changeAll [.protocol .https]).port = 5986 :=
  ⟨⟨rfl, rfl, (port_changeAll "win-01" _).2.2 [.port 80, .protocol .https] 8443 _ rfl rfl⟩,
    rfl, rfl, (port_changeAll "win-01" _).2.2 [] 5986 _ rfl rfl,
    rfl, (port_changeAll "win-01" [.protocol .https]).2.1 rfl⟩

/-- **A port that was chosen may be given up**: the usual port of the protocol in use is taken for one that was not
chosen. -/
theorem port_not_always_kept :
    ¬ ∀ (host : String) (changes : List Change),
      ((ofHost host).changeAll changes).port =
        (chosenPort? changes).getD ((ofHost host).changeAll changes).protocol.defaultPort := by
  intro hkept
  have hgiven : ((ofHost "win-01").changeAll [.port 5985, .protocol .https]).port = 5985 :=
    hkept "win-01" [.port 5985, .protocol .https]
  exact absurd hgiven (by decide)

end RemoteShell.Target
