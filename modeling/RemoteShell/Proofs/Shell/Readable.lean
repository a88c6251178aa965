import RemoteShell.Proofs.Shell.Scene

/-!
# What is readable stays readable

Bytes that have been put into a pipe are there until they are read.  Whatever the worker does, it only adds
bytes at the end of a pipe (`Worker.grows_step`), also when its call fails or its deadline strikes.  So what
a reader has got, followed by what it can still get, only grows (`Scene.readable_play`), as long as there is
a reader.
-/

namespace RemoteShell

namespace Pipe

/-- A writer has only added bytes at the end. -/
structure Grows (p p' : Pipe) : Prop where
  hasReader : p'.hasReader = p.hasReader
  buffer : p.buffer <+: p'.buffer

theorem Grows.refl (p : Pipe) : p.Grows p :=
  ⟨rfl, List.prefix_refl _⟩

theorem Grows.trans {p q r : Pipe} (h : p.Grows q) (h' : q.Grows r) : p.Grows r :=
  ⟨h'.hasReader.trans h.hasReader, h.buffer.trans h'.buffer⟩

theorem grows_offer (p : Pipe) (bytes : List UInt8) : p.Grows (p.offer bytes).1 := by
  rw [Pipe.offer]
  split
  · exact ⟨rfl, List.prefix_append _ _⟩
  · exact .refl p

theorem grows_append (p : Pipe) (bytes : List UInt8) : p.Grows (p.append bytes).1 := by
  obtain ⟨hreader, hbuffer⟩ := grows_offer { p with written := p.written + bytes.length } bytes
  exact ⟨hreader, hbuffer⟩

end Pipe

namespace Shell

variable {σ : Type}

namespace Worker

variable {w w' : Worker σ} {limit : Nat}

/-! ## Steps and pipes

A worker does nothing to its pipes but offer bytes and append them.  So a relation of pipes that goes with these
two goes with every step. -/

section Pipes

variable {R : Pipe → Pipe → Prop}

theorem pipe_setPipe_of (hrefl : ∀ p, R p p) {p : Pipe} {stream : Stream} (h : R (w.pipe stream) p)
    (other : Stream) : R (w.pipe other) ((w.setPipe p stream).pipe other) := by
  by_cases hsame : other = stream
  · rw [hsame, pipe_setPipe]
    exact h
  · rw [pipe_setPipe_of_ne _ _ hsame]
    exact hrefl _

theorem pipe_proceed_of [Connector σ] (hrefl : ∀ p, R p p) (happend : ∀ p bytes, R p (p.append bytes).1)
    (w : Worker σ) (q : Progress) (stream : Stream) : R (w.pipe stream) ((w.proceed q).pipe stream) := by
  cases q with
  | finished s r => cases stream <;> exact hrefl _
  | busy work =>
    cases hdemand : work.demand with
    | answer request =>
      rw [pipe_proceed_of_answer w hdemand]
      exact hrefl _
    | room other bytes =>
      rw [proceed_of_room w hdemand]
      have happended := pipe_setPipe_of hrefl (happend (w.pipe other) bytes) stream
      cases stream <;> exact happended

/-- What goes with offering and appending goes with a step. -/
theorem pipe_step_of [Connector σ] (hrefl : ∀ p, R p p) (htrans : ∀ p q r, R p q → R q r → R p r)
    (hoffer : ∀ p bytes, R p (p.offer bytes).1) (happend : ∀ p bytes, R p (p.append bytes).1)
    (hstep : w.step limit = some w') (stream : Stream) : R (w.pipe stream) (w'.pipe stream) := by
  obtain ⟨u, p, hturn, rfl⟩ := step_eq_some_iff.1 hstep
  cases hturn with
  | @answered work due answer =>
    have hproceeds :=
      pipe_proceed_of hrefl happend { w with now := max w.now due } (work.answered answer) stream
    cases stream <;> exact hproceeds
  | @expired work due after =>
    have hproceeds := pipe_proceed_of hrefl happend { w with now := max w.now due } (work.expired after) stream
    cases stream <;> exact hproceeds
  | @wrote work other rest =>
    have hoffers := pipe_setPipe_of hrefl (hoffer (w.pipe other) rest) stream
    exact htrans _ _ _ hoffers (pipe_proceed_of hrefl happend _ work.written stream)
  | @writes work other rest =>
    have hoffers := pipe_setPipe_of hrefl (hoffer (w.pipe other) rest) stream
    cases stream <;> exact hoffers

end Pipes

/-- A step of a worker takes nothing out of a pipe. -/
theorem grows_step [Connector σ] (hstep : w.step limit = some w') (stream : Stream) :
    (w.pipe stream).Grows (w'.pipe stream) :=
  pipe_step_of Pipe.Grows.refl (fun _ _ _ => Pipe.Grows.trans) Pipe.grows_offer Pipe.grows_append hstep stream

end Worker

namespace Scene

/-- What the reader of a stream has got or can still get. -/
def readable (a : Scene σ) (stream : Stream) : List UInt8 :=
  a.taken stream ++ (a.worker.pipe stream).buffer

variable {a : Scene σ} {stream : Stream}

theorem pipe_read (a : Scene σ) (stream : Stream) (count : Nat) :
    (a.read stream count).worker.pipe stream = ((a.worker.pipe stream).take count).2 :=
  Worker.pipe_setPipe ..

theorem pipe_read_of_ne (a : Scene σ) (count : Nat) {stream other : Stream} (h : stream ≠ other) :
    (a.read other count).worker.pipe stream = a.worker.pipe stream :=
  Worker.pipe_setPipe_of_ne _ _ h

/-- Reading moves bytes from the pipe to the reader. -/
theorem readable_read (a : Scene σ) (other : Stream) (count : Nat) (stream : Stream) :
    (a.read other count).readable stream = a.readable stream := by
  by_cases hsame : stream = other
  · have htaken : (a.read stream count).taken stream =
        a.taken stream ++ (a.worker.pipe stream).buffer.take count := Function.update_self ..
    rw [← hsame, readable, readable, htaken, pipe_read, Pipe.take, List.append_assoc,
      List.take_append_drop]
  · have htaken : (a.read other count).taken stream = a.taken stream := Function.update_of_ne hsame ..
    rw [readable, readable, htaken, pipe_read_of_ne a count hsame]

/-- Whatever is let happen, nothing is lost that can be read, unless the reader goes away. -/
theorem readable_act [Connector σ] (act : Act)
    (h : ((a.act act).worker.pipe stream).hasReader = true) :
    (a.worker.pipe stream).hasReader = true ∧ a.readable stream <+: (a.act act).readable stream := by
  cases act with
  | work limit =>
    have hgrows : (a.worker.pipe stream).Grows ((a.act (.work limit)).worker.pipe stream) := by
      show (a.worker.pipe stream).Grows (((a.worker.step limit).getD a.worker).pipe stream)
      cases hstep : a.worker.step limit with
      | none => exact .refl _
      | some w => exact Worker.grows_step hstep stream
    exact ⟨hgrows.hasReader.symm.trans h, (List.prefix_append_right_inj _).2 hgrows.buffer⟩
  | read other count =>
    have hpipe : ((a.read other count).worker.pipe stream).hasReader = (a.worker.pipe stream).hasReader := by
      by_cases hsame : stream = other
      · rw [← hsame, pipe_read]
        rfl
      · rw [pipe_read_of_ne a count hsame]
    exact ⟨hpipe.symm.trans h, (readable_read a other count stream).symm ▸ List.prefix_refl _⟩
  | drop other =>
    have hne : stream ≠ other := by
      rintro rfl
      rw [show (a.act (.drop stream)).worker.pipe stream = (a.worker.pipe stream).dropReader from
        Worker.pipe_setPipe ..] at h
      cases h
    have hpipe : (a.act (.drop other)).worker.pipe stream = a.worker.pipe stream :=
      Worker.pipe_setPipe_of_ne _ _ hne
    rw [hpipe] at h
    refine ⟨h, ?_⟩
    rw [readable, readable, hpipe]
    exact List.prefix_refl _
  | pause time => cases stream <;> exact ⟨h, List.prefix_refl _⟩

/-- **What is readable stays readable**, as long as there is a reader. -/
theorem readable_play [Connector σ] (a : Scene σ) (acts : List Act)
    (h : ((a.play acts).worker.pipe stream).hasReader = true) :
    (a.worker.pipe stream).hasReader = true ∧ a.readable stream <+: (a.play acts).readable stream := by
  induction acts generalizing a with
  | nil => exact ⟨h, List.prefix_refl _⟩
  | cons act acts ih =>
    obtain ⟨hreader, hmore⟩ := ih (a.act act) h
    obtain ⟨hreader', hfirst⟩ := readable_act act hreader
    exact ⟨hreader', hfirst.trans hmore⟩

end Scene

end Shell

end RemoteShell
