import Mathlib.Logic.Function.Basic
import RemoteShell.Proofs.Shell.Exchange

/-!
# Workers and their readers

A `Scene` is a worker together with what has been read from its two pipes.  The worker goes on by itself;
readers take bytes out of a pipe, or go away; time passes.

## What becomes of bytes

`Flow` follows one pipe.  Bytes whose writing has begun are counted, and while the pipe carries bytes they
are in one of three places, in this order: taken by the reader, in the pipe, or left with the writer.  Every
operation on a pipe keeps this.

## Fair runs

A run is an infinite sequence of scenes.  It is `Fair` when a worker that can go on for good does go on,
and no pipe stays full for ever under its writer.  Then a worker that has not finished always takes another
step (`Fair.exists_step`), unless it waits for an answer that never comes.
-/

namespace RemoteShell

/-! ## Pipes -/

/-- What became of the bytes appended to a pipe: `taken` were read, and `rest` are left to be written. -/
structure Pipe.Flow (p₀ p : Pipe) (taken appended rest : List UInt8) : Prop where
  written : p.written = p₀.written + appended.length
  order : ∃ tail, taken ++ p.buffer ++ tail = p₀.buffer ++ appended ∧ (p.carries = true → tail = rest)

namespace Pipe

variable {p₀ p : Pipe} {taken appended rest : List UInt8}

theorem Flow.refl (p : Pipe) : Flow p p [] [] [] :=
  ⟨rfl, [], by simp only [List.nil_append, List.append_nil], fun _ => rfl⟩

/-- Offering the rest leaves less of it. -/
theorem Flow.offer (h : Flow p₀ p taken appended rest) :
    Flow p₀ (p.offer rest).1 taken appended (p.offer rest).2 := by
  obtain ⟨hwritten, tail, horder, htail⟩ := h
  rw [Pipe.offer]
  split
  · rename_i hcarries
    refine ⟨hwritten, rest.drop p.room, ?_, fun _ => rfl⟩
    rw [htail hcarries] at horder
    rw [← horder]
    simp only [List.append_assoc, List.take_append_drop]
  · rename_i hcarries
    exact ⟨hwritten, tail, horder, fun h => absurd h hcarries⟩

/-- Appending begins with all of the bytes. -/
theorem Flow.append (h : Flow p₀ p taken appended []) (bytes : List UInt8) :
    Flow p₀ (p.append bytes).1 taken (appended ++ bytes) (p.append bytes).2 := by
  obtain ⟨hwritten, tail, horder, htail⟩ := h
  refine Flow.offer (p := { p with written := p.written + bytes.length }) ⟨?_, tail ++ bytes, ?_, ?_⟩
  · simp only [hwritten, List.length_append, Nat.add_assoc]
  · rw [← List.append_assoc, horder, List.append_assoc]
  · intro hcarries
    rw [htail hcarries, List.nil_append]

theorem Flow.take (h : Flow p₀ p taken appended rest) (count : Nat) :
    Flow p₀ (p.take count).2 (taken ++ (p.take count).1) appended rest := by
  obtain ⟨hwritten, tail, horder, htail⟩ := h
  refine ⟨hwritten, tail, ?_, htail⟩
  simpa only [Pipe.take, List.append_assoc, List.take_append_drop] using horder

theorem Flow.dropReader (h : Flow p₀ p taken appended rest) :
    Flow p₀ p.dropReader taken appended rest := by
  obtain ⟨hwritten, tail, horder, -⟩ := h
  refine ⟨hwritten, p.buffer ++ tail, ?_, ?_⟩
  · simpa only [Pipe.dropReader, List.append_assoc, List.append_nil, List.nil_append] using horder
  · intro hcarries
    simp [Pipe.dropReader, Pipe.carries] at hcarries

/-- A pipe that its writer can go on with stays so when bytes are taken out. -/
theorem isStuck_take (h : p.isStuck rest = false) (count : Nat) :
    (p.take count).2.isStuck rest = false := by
  have hroom : p.room ≤ (p.take count).2.room := by
    simp only [Pipe.take, Pipe.room, List.length_drop]
    omega
  simp only [Pipe.isStuck, Bool.and_eq_false_iff, decide_eq_false_iff_not] at h ⊢
  rcases h with h | h
  · exact .inl h
  · exact .inr (by omega)

theorem isStuck_dropReader (rest : List UInt8) : p.dropReader.isStuck rest = false := by
  simp [Pipe.isStuck, Pipe.dropReader, Pipe.carries]

/-- A writer that is not stuck gets rid of bytes, or of all of them. -/
theorem length_offer_lt (h : p.isStuck rest = false) (hrest : rest ≠ []) :
    (p.offer rest).2.length < rest.length := by
  have hpos : 0 < rest.length := List.length_pos_iff.2 hrest
  rw [Pipe.offer]
  split
  · rename_i hcarries
    have hroom : p.room ≠ 0 := by
      simpa [Pipe.isStuck, hcarries, hrest] using h
    simp only [List.length_drop]
    omega
  · exact hpos

end Pipe

namespace Shell

open Soap (Request)

variable {σ : Type}

/-! ## Scenes -/

/-- A worker and what has been read from its pipes. -/
structure Scene (σ : Type) where
  worker : Worker σ
  taken : Stream → List UInt8

namespace Scene

/-- Bytes are read from a stream. -/
def read (a : Scene σ) (stream : Stream) (count : Nat) : Scene σ :=
  let (bytes, pipe) := (a.worker.pipe stream).take count
  ⟨a.worker.setPipe pipe stream, Function.update a.taken stream (a.taken stream ++ bytes)⟩

/-- The reader of a stream goes away. -/
def drop (a : Scene σ) (stream : Stream) : Scene σ :=
  { a with worker := a.worker.setPipe (a.worker.pipe stream).dropReader stream }

/-- What can happen in a scene. -/
inductive Move [Connector σ] : Scene σ → Scene σ → Prop
  | work {a : Scene σ} {w : Worker σ} (limit : Nat) (h : a.worker.step limit = some w) :
      Move a { a with worker := w }
  | read (a : Scene σ) (stream : Stream) (count : Nat) : Move a (a.read stream count)
  | drop (a : Scene σ) (stream : Stream) : Move a (a.drop stream)
  | pause (a : Scene σ) (time : Nat) :
      Move a { a with worker := { a.worker with now := max a.worker.now time } }

/-- What can be let happen in a scene. -/
inductive Act where
  /-- The worker does what it can do next until a given time. -/
  | work (limit : Nat)
  | read (stream : Stream) (count : Nat)
  | drop (stream : Stream)
  | pause (time : Nat)

/-- The scene when something has been let happen. -/
def act [Connector σ] (a : Scene σ) : Act → Scene σ
  | .work limit => { a with worker := (a.worker.step limit).getD a.worker }
  | .read stream count => a.read stream count
  | .drop stream => a.drop stream
  | .pause time => { a with worker := { a.worker with now := max a.worker.now time } }

/-- The scene after a schedule. -/
def play [Connector σ] (a : Scene σ) (acts : List Act) : Scene σ :=
  acts.foldl act a

end Scene

namespace Worker

/-- Without a deadline, a worker that waits goes on when the answer comes. -/
theorem step_of_waiting [Connector σ] {w w' : Worker σ} {limit : Nat} {work : Work}
    {reception : Reception} (hdoing : w.doing = .waiting work reception) (hexpires : w.expires = none)
    (h : w.step limit = some w') :
    ∃ due answer, reception = some (due, answer) ∧
      w' = ({ w with now := max w.now due } : Worker σ).proceed (work.answered answer) := by
  obtain ⟨u, p, hturn, rfl⟩ := step_eq_some_iff.1 h
  cases hturn with
  | answered hdoing' _ _ =>
    cases hdoing.symm.trans hdoing'
    exact ⟨_, _, rfl, rfl⟩
  | expired _ hsome _ _ => cases hexpires.symm.trans hsome
  | wrote hdoing' _ _ => cases hdoing.symm.trans hdoing'
  | writes hdoing' _ _ => cases hdoing.symm.trans hdoing'

/-- Without a deadline, a worker that writes goes on when some bytes fit: to the next ones, or behind the
last one with its call. -/
theorem step_of_writing [Connector σ] {w w' : Worker σ} {limit : Nat} {work : Work} {stream : Stream}
    {rest : List UInt8} (hdoing : w.doing = .writing work stream rest) (hexpires : w.expires = none)
    (h : w.step limit = some w') :
    (w.pipe stream).isStuck rest = false ∧
      ((((w.pipe stream).offer rest).2 ≠ [] ∧
          w' = { w.setPipe ((w.pipe stream).offer rest).1 stream with
            doing := .writing work stream ((w.pipe stream).offer rest).2 }) ∨
        (((w.pipe stream).offer rest).2 = [] ∧
          w' = (w.setPipe ((w.pipe stream).offer rest).1 stream).proceed work.written)) := by
  obtain ⟨u, p, hturn, rfl⟩ := step_eq_some_iff.1 h
  cases hturn with
  | answered hdoing' _ _ => cases hdoing.symm.trans hdoing'
  | expired _ hsome _ _ => cases hexpires.symm.trans hsome
  | wrote hdoing' hfree hall =>
    cases hdoing.symm.trans hdoing'
    exact ⟨hfree, .inr ⟨hall, rfl⟩⟩
  | writes hdoing' hfree hmore =>
    cases hdoing.symm.trans hdoing'
    exact ⟨hfree, .inl ⟨hmore, rfl⟩⟩

/-- The writer of a pipe waits for its reader. -/
def Blocked (w : Worker σ) : Prop :=
  ∃ work stream rest, w.doing = .writing work stream rest ∧ (w.pipe stream).isStuck rest = true

/-- A worker without a deadline that is neither finished nor blocked nor waits for ever can go on. -/
theorem exists_step [Connector σ] {w : Worker σ} (hexpires : w.expires = none)
    (hfinished : ∀ s r, w.doing ≠ .finished s r) (hwaiting : ∀ work, w.doing ≠ .waiting work none)
    (hblocked : ¬ w.Blocked) : ∃ limit w', w.step limit = some w' := by
  rcases hdoing : w.doing with ⟨work, _ | ⟨due, answer⟩⟩ | ⟨work, stream, rest⟩ | ⟨s, r⟩
  · exact absurd hdoing (hwaiting work)
  · have hstep : (w.step due).isSome = true := by
      simp only [step, hdoing, hexpires, Option.all_none, if_true, Nat.le_refl, Option.isSome_some]
    exact ⟨due, Option.isSome_iff_exists.1 hstep⟩
  · have hstuck : ¬ (w.pipe stream).isStuck rest = true := fun h =>
      hblocked ⟨work, stream, rest, hdoing, h⟩
    have hstep : (w.step 0).isSome = true := by
      simp only [step, hdoing, if_neg hstuck, Option.isSome_some]
    exact ⟨0, Option.isSome_iff_exists.1 hstep⟩
  · exact absurd hdoing (hfinished s r)

end Worker

namespace Scene

/-- The worker does something. -/
def Works [Connector σ] (a b : Scene σ) : Prop :=
  ∃ limit w, a.worker.step limit = some w ∧ b = { a with worker := w }

/-- The worker does nothing, and is not hindered. -/
structure Idles (a b : Scene σ) : Prop where
  doing : b.worker.doing = a.worker.doing
  connector : b.worker.connector = a.worker.connector
  expires : b.worker.expires = a.worker.expires
  unblocked : ¬ a.worker.Blocked → ¬ b.worker.Blocked

theorem Idles.refl (a : Scene σ) : a.Idles a :=
  ⟨rfl, rfl, rfl, id⟩

/-- Readers do not get into the way of the writer. -/
theorem idles_setPipe {a b : Scene σ} (stream : Stream) {p : Pipe}
    (hb : b.worker = a.worker.setPipe p stream)
    (hp : ∀ rest, (a.worker.pipe stream).isStuck rest = false → p.isStuck rest = false) :
    a.Idles b := by
  refine ⟨by rw [hb, Worker.setPipe_doing], by rw [hb, Worker.setPipe_connector],
    by rw [hb, Worker.setPipe_expires], ?_⟩
  rintro hfree ⟨work, other, rest, hdoing, hstuck⟩
  rw [hb, Worker.setPipe_doing] at hdoing
  by_cases hsame : other = stream
  · subst hsame
    rw [hb, Worker.pipe_setPipe] at hstuck
    have hbefore : (a.worker.pipe other).isStuck rest = true := by
      cases hnot : (a.worker.pipe other).isStuck rest with
      | true => rfl
      | false => rw [hp rest hnot] at hstuck; cases hstuck
    exact hfree ⟨work, other, rest, hdoing, hbefore⟩
  · rw [hb, Worker.pipe_setPipe_of_ne _ _ hsame] at hstuck
    exact hfree ⟨work, other, rest, hdoing, hstuck⟩

theorem Move.works_or_idles [Connector σ] {a b : Scene σ} (h : a.Move b) : a.Works b ∨ a.Idles b := by
  cases h with
  | work limit h => exact .inl ⟨limit, _, h, rfl⟩
  | read stream count =>
    exact .inr (idles_setPipe stream rfl fun rest h => Pipe.isStuck_take h count)
  | drop stream => exact .inr (idles_setPipe stream rfl fun rest _ => Pipe.isStuck_dropReader rest)
  | pause time => exact .inr ⟨rfl, rfl, rfl, id⟩

/-- A fair run. -/
structure Fair [Connector σ] (run : Nat → Scene σ) : Prop where
  moves : ∀ t, run (t + 1) = run t ∨ (run t).Move (run (t + 1))
  /-- Again and again, the worker goes on or cannot. -/
  works : ∀ t, ∃ t', t ≤ t' ∧
    ((∀ limit, (run t').worker.step limit = none) ∨ (run t').Works (run (t' + 1)))
  /-- Again and again, no pipe blocks its writer. -/
  flows : ∀ t, ∃ t', t ≤ t' ∧ ¬ (run t').worker.Blocked

/-- **A worker with something to do does it.**  In a fair run a worker without a deadline that has not
finished and does not wait for ever takes a step, and until then goes on with what it is doing. -/
theorem Fair.exists_step [Connector σ] {run : Nat → Scene σ} (h : Fair run) (t : Nat)
    (hexpires : (run t).worker.expires = none)
    (hfinished : ∀ s r, (run t).worker.doing ≠ .finished s r)
    (hwaiting : ∀ work, (run t).worker.doing ≠ .waiting work none) :
    ∃ t', t ≤ t' ∧ (run t').worker.doing = (run t).worker.doing ∧ (run t').Works (run (t' + 1)) := by
  apply Classical.byContradiction
  intro hno
  -- without a step of the worker nothing would change that matters
  have hidle : ∀ t', t ≤ t' → (run t').worker.doing = (run t).worker.doing →
      (run t').Idles (run (t' + 1)) := by
    intro t' ht' hdoing
    rcases h.moves t' with hsame | hmove
    · rw [hsame]
      exact Idles.refl _
    · rcases hmove.works_or_idles with hworks | hidles
      · exact absurd ⟨t', ht', hdoing, hworks⟩ hno
      · exact hidles
  have hkept : ∀ t', t ≤ t' → (run t').worker.doing = (run t).worker.doing ∧
      (run t').worker.expires = none := by
    intro t' ht'
    induction ht' with
    | refl => exact ⟨rfl, hexpires⟩
    | step ht' ih =>
      have hstep := hidle _ ht' ih.1
      exact ⟨hstep.doing.trans ih.1, hstep.expires.trans ih.2⟩
  obtain ⟨t₁, ht₁, hfree⟩ := h.flows t
  have hfree' : ∀ t', t₁ ≤ t' → ¬ (run t').worker.Blocked := by
    intro t' ht'
    induction ht' with
    | refl => exact hfree
    | @step t' ht' ih =>
      have ht : t ≤ t' := Nat.le_trans ht₁ ht'
      exact (hidle t' ht (hkept t' ht).1).unblocked ih
  obtain ⟨t₂, ht₂, hstuck | hworks⟩ := h.works t₁
  · have ht : t ≤ t₂ := Nat.le_trans ht₁ ht₂
    obtain ⟨hdoing, hexpires'⟩ := hkept t₂ ht
    obtain ⟨limit, w, hstep⟩ := Worker.exists_step hexpires'
      (fun s r => hdoing ▸ hfinished s r) (fun work => hdoing ▸ hwaiting work) (hfree' t₂ ht₂)
    rw [hstuck limit] at hstep
    cases hstep
  · have ht : t ≤ t₂ := Nat.le_trans ht₁ ht₂
    exact hno ⟨t₂, ht, (hkept t₂ ht).1, hworks⟩

/-- The run in which the worker does at once whatever it can, and nobody reads. -/
def steadily [Connector σ] (w : Worker σ) : Nat → Scene σ
  | 0 => ⟨w, fun _ => []⟩
  | t + 1 =>
    let a := steadily w t
    { a with worker := (a.worker.step 0).getD a.worker }

/-- A steady run in which the call returns is fair. -/
theorem fair_steadily [Connector σ] {w : Worker σ} {t : Nat} {s : Session} {r : Result}
    (h : (steadily w t).worker.doing = .finished s r) : Fair (steadily w) := by
  have hend : ∀ t', t ≤ t' → (steadily w t').worker.doing = .finished s r := by
    intro t' ht'
    induction ht' with
    | refl => exact h
    | @step t' _ ih =>
      have hstep : (steadily w t').worker.step 0 = none := Worker.step_of_finished 0 ih
      rw [steadily, hstep]
      exact ih
  refine ⟨?_, ?_, ?_⟩
  · intro t'
    cases hstep : (steadily w t').worker.step 0 with
    | none => exact .inl (by rw [steadily, hstep]; rfl)
    | some w' => exact .inr (by rw [steadily, hstep]; exact .work 0 hstep)
  · intro t'
    refine ⟨max t t', Nat.le_max_right t t', .inl fun limit => ?_⟩
    exact Worker.step_of_finished limit (hend _ (Nat.le_max_left t t'))
  · intro t'
    refine ⟨max t t', Nat.le_max_right t t', ?_⟩
    rintro ⟨work, stream, rest, hwriting, -⟩
    rw [hend _ (Nat.le_max_left t t')] at hwriting
    cases hwriting

end Scene

end Shell

end RemoteShell
