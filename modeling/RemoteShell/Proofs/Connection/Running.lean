import RemoteShell.Connection
import RemoteShell.Proofs.Http.Volume
import RemoteShell.Proofs.Job.Attending

/-!
# Commands run to their ends

The replies of a network take only so much time and hold only so much output (`Http.Poster.budget`), and when they are
used up, every request fails.  So a command that has been started over a link ends, whatever comes back, and the time
and the number of steps that a link allows are enough to see it (`Link.startProcess_endsWith`).
-/

namespace RemoteShell

open Shell (Stream Connector Budget answerEffort outputLength)

namespace Http

/-- How many steps a reply can take at most. -/
def Reply.effort : Reply → Nat
  | .whole _ body => 2 * body.length + 8
  | _ => 8

/-- How many steps the replies of a network can take at most. -/
def Network.effort (n : Network) : Nat :=
  (n.map fun a => a.reply.effort).sum

variable {url request : String}

/-- **An answer takes no more steps than its reply can take.** -/
theorem answerEffort_classify_le (url request : String) (reply : Reply) :
    answerEffort (classify url request reply) ≤ reply.effort := by
  cases hclassify : classify url request reply with
  | error f => exact Nat.zero_le _
  | ok d =>
    obtain ⟨status, body, rfl, -⟩ := classify_eq_ok_iff.1 hclassify
    have houtput : ∀ stream, outputLength d stream ≤ body.length := by
      intro stream
      rw [outputLength]
      cases hstream : Soap.Response.stream d stream.field with
      | error e => exact Nat.zero_le _
      | ok bytes => exact length_stream_le hclassify hstream
    have hout := houtput .stdout
    have herr := houtput .stderr
    simp only [answerEffort, Reply.effort]
    omega

namespace Poster

/-- What a poster answers comes at once and is a failure, or it is made of the next reply. -/
theorem post_cases (p : Poster) (envelope : Soap.Envelope) :
    ((p.post envelope).1 = 0 ∧ (∃ e, (p.post envelope).2.1 = .error e) ∧
        (p.post envelope).2.2.network = p.network) ∨
      ((p.post envelope).1 = p.network.next.delay ∧
        (p.post envelope).2.1 = classify p.url envelope.xml p.network.next.reply ∧
        (p.post envelope).2.2.network = p.network.tail) := by
  cases hvalue : p.authorization with
  | error e =>
    obtain ⟨hdelay, hanswer, -, hnetwork⟩ := post_of_error hvalue envelope
    exact .inl ⟨hdelay, ⟨e, hanswer⟩, hnetwork⟩
  | ok value =>
    obtain ⟨hdelay, hanswer, -, hnetwork⟩ := post_of_ok hvalue envelope
    exact .inr ⟨hdelay, hanswer, hnetwork⟩

/-- What the replies to a poster take at most. -/
def budget : Budget Poster where
  time p := p.network.duration
  effort p := p.network.effort
  answers p r := by
    have hsend : Connector.send p r =
        (some ((p.post (r.envelope p.parameters (Soap.MessageId.ofBits p.nextId))).1,
          (p.post (r.envelope p.parameters (Soap.MessageId.ofBits p.nextId))).2.1),
          (p.post (r.envelope p.parameters (Soap.MessageId.ofBits p.nextId))).2.2) := rfl
    rw [hsend]
    refine ⟨_, _, rfl, ?_⟩
    obtain ⟨hdelay, ⟨e, hanswer⟩, hnetwork⟩ | ⟨hdelay, hanswer, hnetwork⟩ :=
      p.post_cases (r.envelope p.parameters (Soap.MessageId.ofBits p.nextId))
    · rw [hdelay, hanswer, hnetwork]
      exact ⟨(Nat.zero_add _).le, (Nat.zero_add _).le⟩
    · rw [hdelay, hanswer, hnetwork]
      cases p.network with
      | nil => exact ⟨Nat.le_refl _, Nat.le_refl _⟩
      | cons a n => exact ⟨Nat.le_refl _, Nat.add_le_add_right (answerEffort_classify_le ..) _⟩

end Poster

end Http

namespace Link

open Http (Network)

/-- The steps that a link allows are more than the replies of its network can take. -/
theorem steps_eq (n : Network) : steps n = n.effort + 64 := by
  rw [steps, Network.effort]
  induction n with
  | nil => rfl
  | cons a n ih =>
    rw [List.map_cons, List.foldr_cons, ih, List.map_cons, List.sum_cons, Nat.add_assoc]
    cases a.reply <;> rfl

/-- **A command that has been started ends**, with one thing only, and whoever reads all of its output while the link
allows it is told with what. -/
theorem startProcess_endsWith {l l' : Link} {command : String} {o : CommandOptions} {p : RemoteProcess Http.Poster}
    (h : l.startProcess command o = (.ok p, l')) :
    ∃ r, p.EndsWith r ∧ (∀ r', p.EndsWith r' → r' = r) ∧
      ∃ out err q, p.readAll l'.network.duration (steps l'.network) = (some (out, err, r), q) := by
  rcases hposter : l.poster with ⟨poster, l₁⟩
  rw [startProcess, hposter] at h
  cases poster with
  | error e => cases h
  | ok poster =>
    have hnetwork : poster.network = l₁.network := by
      rw [Link.poster] at hposter
      generalize l.connection.generator l.surroundings = made at hposter
      obtain ⟨_ | generator, calls⟩ := made <;> cases hposter
      rfl
    cases h
    rw [steps_eq, ← hnetwork]
    exact RemoteProcess.exists_endsWith (b := Http.Poster.budget) (Nat.le_refl _) _ _ _ _
      (by show 5 + poster.network.effort < poster.network.effort + 64; omega)

end Link

end RemoteShell
