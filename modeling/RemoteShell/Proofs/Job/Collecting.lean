import RemoteShell.Proofs.Job.Recital

/-!
# Collecting the output of a job

A caller that wants all of the output reads both streams to the end and waits for the exit code, all at the
same time.  `Collection.Step` is one step of whoever comes next: the program, one of the two readers, or the
one that waits.  The order is left open, and so is how many bytes a reader takes at once.

For a recital this ends well in every order (`collect_recital`).  The argument has three parts.

* `Collects`: what a reader has got and what is ahead of it are together all that is appended to its
  stream.  Every step keeps this.
* `Collects.exists_step`: somebody can go on until all three are done, since the program waits only for a
  full pipe, and a full pipe has a reader.
* `Collects.effort_lt`: every step leaves less to do.

`Job.waitWithOutput` is one of these orders: it takes all bytes that are there before the program goes on.
-/

namespace RemoteShell

open Shell (Stream)

/-- A job whose output is collected: what the readers have got, which of them have come to the end, and what
waiting has given. -/
structure Collection (τ : Type) where
  job : Job τ
  got : Stream → List UInt8
  ended : Stream → Bool
  code : Option (Except Failure Int)

namespace Collection

section Steps

variable {τ : Type} [Program τ]

/-- Nothing has been collected yet. -/
def begin (job : Job τ) : Collection τ :=
  ⟨job, fun _ => [], fun _ => false, none⟩

/-- The reader of a stream takes at most some bytes. -/
def read (a : Collection τ) (stream : Stream) (count : Nat) : Collection τ :=
  let (bytes, job) := a.job.take stream count
  { a with job, got := Function.update a.got stream (a.got stream ++ bytes) }

/-- A step of the program, of a reader, or of the one that waits. -/
inductive Step : Collection τ → Collection τ → Prop
  | work {a : Collection τ} {job : Job τ} (limit : Nat) (h : a.job.tick limit = some job) :
      Step a { a with job }
  | read {a : Collection τ} (stream : Stream) (count : Nat) (reading : a.ended stream = false)
      (some_byte : (a.job.take stream count).1 ≠ []) : Step a (a.read stream count)
  | finish {a : Collection τ} (stream : Stream) (reading : a.ended stream = false)
      (h : (Program.pipe a.job.worker stream).ending? 1 = some .ended) :
      Step a { a with ended := Function.update a.ended stream true }
  | wait {a : Collection τ} {r : Except Failure Int} {job : Job τ} (waiting : a.code = none)
      (h : a.job.resolve? = some (r, job)) : Step a { a with job, code := some r }

/-- Some steps in a row. -/
inductive Run : Nat → Collection τ → Collection τ → Prop
  | refl (a : Collection τ) : Run 0 a a
  | tail {n : Nat} {a b c : Collection τ} (before : Run n a b) (step : Step b c) : Run (n + 1) a c

/-- The result, once both readers have come to the end and waiting has given something. -/
def result? (a : Collection τ) : Option (Except Failure CommandResult) :=
  if a.ended .stdout && a.ended .stderr then a.code.map (Job.outcome (a.got .stdout) (a.got .stderr))
  else none

theorem Run.trans {m n : Nat} {a b c : Collection τ} (h : Run m a b) (h' : Run n b c) :
    Run (m + n) a c := by
  induction h' with
  | refl => exact h
  | tail _ step ih => exact .tail (ih h) step

end Steps

variable {chunks : List (Stream × List UInt8)} {result : Except Failure Int} {a b : Collection Recital}

/-! ## What every step keeps -/

/-- What is collected of a recital. -/
structure Collects (chunks : List (Stream × List UInt8)) (result : Except Failure Int)
    (a : Collection Recital) : Prop where
  sound : a.job.worker.Sound
  result_eq : a.job.worker.result = result
  isAborted : a.job.isAborted = false
  /-- A reader gets what is ahead of it. -/
  bytes : ∀ stream, a.got stream ++ a.job.worker.ahead stream = said chunks stream
  ended : ∀ stream, a.ended stream = true →
    (a.job.worker.pipe stream).isOpen = false ∧ (a.job.worker.pipe stream).buffer = []
  code : (a.code = none ∧ a.job.isPending = true ∧ a.job.exitCode = none) ∨
    (a.code = some result ∧ a.job.worker.result? = some result)

/-- Closing the pipes of a recital that has ended changes nothing. -/
theorem settle_eq {p : Job Recital} (h : p.isAborted = false) : p.settle = p := by
  rw [Job.settle]
  split
  · rename_i hfate
    obtain ⟨r, hr⟩ : ∃ r, p.worker.result? = some r := by
      cases hresult : p.worker.result? with
      | some r => exact ⟨r, rfl⟩
      | none =>
        have hnone : p.fate? = none := by
          simp only [Job.fate?, h]
          rw [show Program.result? p.worker = none from hresult]
          rfl
        rw [hnone] at hfate
        cases hfate
    obtain ⟨-, -, hclosed, -⟩ := Recital.result?_eq_some_iff.1 hr
    have hclose : ∀ stream, p.closePipe stream = p := by
      intro stream
      have hsame : p.worker.setPipe (p.worker.pipe stream).close stream = p.worker := by
        rw [Pipe.close_of_not_isOpen (hclosed stream), Recital.setPipe_pipe]
      exact congrArg (fun w => { p with worker := w }) hsame
    rw [hclose, hclose]
  · rfl

/-- The program of a job goes on by itself. -/
theorem tick_eq_some {p p' : Job Recital} {limit : Nat} (h : p.isAborted = false)
    (htick : p.tick limit = some p') :
    ∃ w, p.worker.step = some w ∧ p' = { p with worker := w, now := 0 } := by
  rw [Job.tick, if_neg (by rw [h]; decide)] at htick
  obtain ⟨w, hstep, rfl⟩ := Option.map_eq_some_iff.1 htick
  exact ⟨w, hstep, settle_eq h⟩

theorem tick_of_step {p : Job Recital} {w : Recital} (limit : Nat) (h : p.isAborted = false)
    (hstep : p.worker.step = some w) : p.tick limit = some { p with worker := w, now := 0 } := by
  rw [Job.tick, if_neg (by rw [h]; decide)]
  have hsettle : ({ p with worker := w, now := 0 } : Job Recital).settle = { p with worker := w, now := 0 } :=
    settle_eq h
  rw [← hsettle]
  exact congrArg (Option.map _) hstep

/-- Waiting gives something only when the program has ended. -/
theorem Collects.resolve? (h : Collects chunks result a) (hwaiting : a.code = none) :
    a.job.resolve? = (a.job.worker.result?).map fun r => a.job.collect (.returned r) := by
  obtain ⟨-, hpending, hcode⟩ | ⟨hcode, -⟩ := h.code
  · rw [Job.resolve?, hcode, hpending]
    simp only [if_true, Job.fate?, h.isAborted]
    rw [show Program.result? a.job.worker = a.job.worker.result? from rfl]
    cases a.job.worker.result? <;> rfl
  · rw [hwaiting] at hcode
    cases hcode

/-- What a reader takes is ahead of it no longer, and nothing else changes. -/
theorem Collects.read (h : Collects chunks result a) (stream : Stream) (count : Nat)
    (hreading : a.ended stream = false) : Collects chunks result (a.read stream count) := by
  refine ⟨h.sound.taken stream count, (Recital.result_taken _ _ _).trans h.result_eq, h.isAborted,
    ?_, ?_, h.code.imp id fun hcode => ⟨hcode.1, (Recital.result?_taken _ _ _).trans hcode.2⟩⟩
  · intro other
    by_cases hsame : other = stream
    · have htaken := Recital.ahead_taken a.job.worker other count
      rw [← h.bytes other, ← htaken, ← List.append_assoc, hsame]
      exact congrArg (· ++ _) (Function.update_self ..)
    · have htaken := Recital.ahead_taken_of_ne a.job.worker count hsame
      rw [← h.bytes other, ← htaken]
      exact congrArg (· ++ _) (Function.update_of_ne hsame ..)
  · intro other hended
    have hne : other ≠ stream := by
      rintro rfl
      rw [show (a.read other count).ended = a.ended from rfl, hreading] at hended
      cases hended
    have hpipe := Recital.pipe_taken_of_ne a.job.worker count hne
    obtain ⟨hclosed, hempty⟩ := h.ended other hended
    exact ⟨(congrArg Pipe.isOpen hpipe).trans hclosed, (congrArg Pipe.buffer hpipe).trans hempty⟩

/-- **Every step keeps the books.** -/
theorem Collects.step (h : Collects chunks result a) (hstep : Step a b) : Collects chunks result b := by
  cases hstep with
  | work limit htick =>
    obtain ⟨w, hw, rfl⟩ := tick_eq_some h.isAborted htick
    have hturn := Recital.turn_of_step h.sound hw
    refine ⟨hturn.sound h.sound, hturn.result.trans h.result_eq, h.isAborted, ?_, ?_, ?_⟩
    · intro stream
      rw [hturn.ahead h.sound]
      exact h.bytes stream
    · intro stream hended
      obtain ⟨hclosed, hempty⟩ := h.ended stream hended
      rw [hturn.pipe_of_closed h.sound hclosed]
      exact ⟨hclosed, hempty⟩
    · obtain hcode | ⟨-, hover⟩ := h.code
      · exact .inl hcode
      · rw [Recital.step_eq_none hover] at hw
        cases hw
  | read stream count hreading _ => exact h.read stream count hreading
  | finish stream hreading hend =>
    refine ⟨h.sound, h.result_eq, h.isAborted, h.bytes, ?_, h.code⟩
    intro other hended
    by_cases hsame : other = stream
    · rw [hsame]
      exact Pipe.ending?_eq_ended_iff.1 hend
    · exact h.ended other ((Function.update_of_ne hsame ..).symm.trans hended)
  | wait hwaiting hresolve =>
    rw [h.resolve? hwaiting] at hresolve
    obtain ⟨r, hr, hcollect⟩ := Option.map_eq_some_iff.1 hresolve
    obtain rfl : r = result := by
      obtain ⟨-, -, -, hsame⟩ := Recital.result?_eq_some_iff.1 hr
      exact hsame.symm.trans h.result_eq
    -- whether the result is a failure or not, taking it leaves the program as it is
    cases r with
    | error e =>
      obtain ⟨rfl, rfl⟩ := Prod.mk.inj hcollect
      exact ⟨h.sound, h.result_eq, h.isAborted, h.bytes, h.ended, .inr ⟨rfl, hr⟩⟩
    | ok n =>
      obtain ⟨rfl, rfl⟩ := Prod.mk.inj hcollect
      exact ⟨h.sound, h.result_eq, h.isAborted, h.bytes, h.ended, .inr ⟨rfl, hr⟩⟩

/-! ## Nobody waits for ever -/

/-- **Somebody can go on**, until the result is there. -/
theorem Collects.exists_step (h : Collects chunks result a) (hbusy : a.result? = none) :
    ∃ b, Step a b := by
  by_cases hread : ∃ stream, a.ended stream = false ∧ (a.job.worker.pipe stream).buffer ≠ []
  · obtain ⟨stream, hreading, hbytes⟩ := hread
    refine ⟨_, .read stream 1 hreading ?_⟩
    show (a.job.worker.pipe stream).buffer.take 1 ≠ []
    rw [Ne, List.take_eq_nil_iff]
    exact not_or.2 ⟨Nat.one_ne_zero, hbytes⟩
  have hempty : ∀ stream, (a.job.worker.pipe stream).buffer = [] := by
    intro stream
    by_contra hbytes
    cases hended : a.ended stream with
    | false => exact hread ⟨stream, hended, hbytes⟩
    | true => exact hbytes (h.ended stream hended).2
  cases hstep : a.job.worker.step with
  | some w => exact ⟨_, .work 0 (tick_of_step 0 h.isAborted hstep)⟩
  | none =>
    obtain ⟨stream, hbytes⟩ | hover := Recital.result?_of_step_eq_none h.sound.capacity hstep
    · exact absurd (hempty stream) hbytes
    cases hcode : a.code with
    | none =>
      have hresolve := h.resolve? hcode
      rw [hover, Option.map_some] at hresolve
      exact ⟨_, .wait hcode hresolve⟩
    | some code =>
      -- only a reader that has not noticed the end can be missing
      obtain ⟨stream, hreading⟩ : ∃ stream, a.ended stream = false := by
        by_contra hall
        have hended : ∀ stream, a.ended stream = true := by simpa using hall
        rw [result?, hended, hended, hcode] at hbusy
        cases hbusy
      obtain ⟨-, -, hclosed, -⟩ := Recital.result?_eq_some_iff.1 hover
      exact ⟨_, .finish stream hreading (Pipe.ending?_eq_ended_iff.2 ⟨hclosed stream, hempty stream⟩)⟩

/-- How much is left to do until the result is there. -/
def effort (a : Collection Recital) : Nat :=
  a.job.worker.effort + (!a.ended .stdout).toNat + (!a.ended .stderr).toNat + a.code.isNone.toNat

/-- **Every step is progress.** -/
theorem Collects.effort_lt (h : Collects chunks result a) (hstep : Step a b) : b.effort < a.effort := by
  cases hstep with
  | work limit htick =>
    obtain ⟨w, hw, rfl⟩ := tick_eq_some h.isAborted htick
    have hless := (Recital.turn_of_step h.sound hw).effort_lt h.sound
    simp only [effort]
    omega
  | read stream count _ hbytes =>
    have hread : (a.read stream count).job.worker.effort +
        ((a.job.worker.pipe stream).take count).1.length = a.job.worker.effort :=
      Recital.effort_taken a.job.worker stream count
    have hpos : 0 < ((a.job.worker.pipe stream).take count).1.length := List.length_pos_iff.2 hbytes
    simp only [effort]
    rw [show (a.read stream count).ended = a.ended from rfl,
      show (a.read stream count).code = a.code from rfl]
    omega
  | finish stream hreading _ =>
    cases stream <;> simp [effort, hreading, Function.update]
  | wait hwaiting hresolve =>
    rw [h.resolve? hwaiting] at hresolve
    obtain ⟨r, -, hcollect⟩ := Option.map_eq_some_iff.1 hresolve
    cases r <;> obtain ⟨rfl, rfl⟩ := Prod.mk.inj hcollect <;> simp [effort, hwaiting]

/-! ## Runs -/

/-- Nothing has been collected of a recital that begins. -/
theorem collects_begin (capacity : Nat) (chunks : List (Stream × List UInt8))
    (result : Except Failure Int) :
    Collects chunks result (begin (.ofProgram (.ofCapacity capacity chunks result))) := by
  have hjob : (Job.ofProgram (Recital.ofCapacity capacity chunks result)) =
      ⟨.ofCapacity capacity chunks result, 0, true, true, false, none⟩ := settle_eq rfl
  rw [hjob]
  refine ⟨Recital.sound_ofCapacity capacity chunks result, rfl, rfl, ?_, nofun, .inl ⟨rfl, rfl, rfl⟩⟩
  intro stream
  cases stream <;> rfl

theorem Run.collects {n : Nat} (h : Run n a b) (ha : Collects chunks result a) :
    Collects chunks result b ∧ n + b.effort ≤ a.effort := by
  induction h with
  | refl => exact ⟨ha, Nat.le_of_eq (Nat.zero_add _)⟩
  | tail _ hstep ih =>
    obtain ⟨hb, hle⟩ := ih ha
    have hless := hb.effort_lt hstep
    exact ⟨hb.step hstep, by omega⟩

/-- **What is collected.**  When the result is there, it is made of all the bytes. -/
theorem Collects.result?_eq {r : Except Failure CommandResult} (h : Collects chunks result a)
    (hr : a.result? = some r) : r = Job.outcome (said chunks .stdout) (said chunks .stderr) result := by
  rw [result?] at hr
  split at hr
  case isFalse => cases hr
  case isTrue hended =>
    obtain ⟨hout, herr⟩ : a.ended .stdout = true ∧ a.ended .stderr = true := by simpa using hended
    have hgot : ∀ stream, a.ended stream = true → a.got stream = said chunks stream := by
      intro stream hstream
      obtain ⟨hclosed, hempty⟩ := h.ended stream hstream
      have hahead : a.job.worker.ahead stream = [] := by
        rw [Recital.ahead, hempty, h.sound.todo_eq_nil hclosed]
        rfl
      rw [← h.bytes stream, hahead, List.append_nil]
    obtain ⟨code, hcode, rfl⟩ := Option.map_eq_some_iff.1 hr
    obtain ⟨hnone, -⟩ | ⟨hsome, -⟩ := h.code
    · rw [hnone] at hcode
      cases hcode
    · rw [hgot .stdout hout, hgot .stderr herr, ← Option.some.inj (hsome.symm.trans hcode)]

/-! ## One run -/

/-- Both readers take everything that is there. -/
def sweep (a : Collection Recital) : Collection Recital :=
  let a := a.read .stdout (a.job.worker.pipe .stdout).buffer.length
  a.read .stderr (a.job.worker.pipe .stderr).buffer.length

/-- Taking everything out of a pipe is a step of its reader, if there is anything. -/
theorem exists_run_read (a : Collection Recital) (stream : Stream) (hreading : a.ended stream = false) :
    ∃ n, Run n a (a.read stream (a.job.worker.pipe stream).buffer.length) := by
  by_cases hempty : (a.job.worker.pipe stream).buffer = []
  · have htake : a.job.take stream 0 = ([], a.job) :=
      congrArg (fun w => ([], { a.job with worker := w })) (Recital.setPipe_pipe a.job.worker stream)
    have hsame : a.read stream 0 = a := by
      simp only [read, htake, List.append_nil, Function.update_eq_self]
    rw [hempty, List.length_nil, hsame]
    exact ⟨0, .refl a⟩
  · refine ⟨1, .tail (.refl a) (.read stream _ hreading ?_)⟩
    show (a.job.worker.pipe stream).buffer.take _ ≠ []
    rwa [List.take_length]

theorem exists_run_sweep (a : Collection Recital) (hreading : ∀ stream, a.ended stream = false) :
    ∃ n, Run n a a.sweep := by
  obtain ⟨m, hout⟩ := exists_run_read a .stdout (hreading .stdout)
  obtain ⟨n, herr⟩ := exists_run_read (a.read .stdout (a.job.worker.pipe .stdout).buffer.length) .stderr
    (hreading .stderr)
  exact ⟨m + n, hout.trans herr⟩

theorem sweep_empty (a : Collection Recital) (stream : Stream) :
    (a.sweep.job.worker.pipe stream).buffer = [] := by
  cases stream <;> exact List.drop_length

/-- When the program has ended and nothing is left to read, all three come to their ends. -/
theorem Collects.exists_run_end (h : Collects chunks result a) (hempty : ∀ stream,
    (a.job.worker.pipe stream).buffer = []) (hreading : ∀ stream, a.ended stream = false)
    (hcode : a.code = none) {code : Except Failure Int} {p : Job Recital}
    (hresolve : a.job.resolve? = some (code, p)) :
    ∃ n b, Run n a b ∧ b.result? = some (Job.outcome (a.got .stdout) (a.got .stderr) code) := by
  have hwait : Step a { a with job := p, code := some code } := .wait hcode hresolve
  have hclosed : ∀ stream, (Program.pipe p.worker stream).ending? 1 = some .ended := by
    rw [h.resolve? hcode] at hresolve
    obtain ⟨r, hover, hcollect⟩ := Option.map_eq_some_iff.1 hresolve
    obtain ⟨-, -, hclosed, -⟩ := Recital.result?_eq_some_iff.1 hover
    have hworker : p.worker = a.job.worker := by
      cases r <;> obtain ⟨-, rfl⟩ := Prod.mk.inj hcollect <;> rfl
    intro stream
    rw [hworker]
    exact Pipe.ending?_eq_ended_iff.2 ⟨hclosed stream, hempty stream⟩
  have hout : Step { a with job := p, code := some code }
      { a with job := p, code := some code, ended := Function.update a.ended .stdout true } :=
    .finish .stdout (hreading .stdout) (hclosed .stdout)
  have hreadingErr : Function.update a.ended .stdout true .stderr = false :=
    hreading .stderr
  exact ⟨3, _, .tail (.tail (.tail (.refl a) hwait) hout)
    (.finish .stderr hreadingErr (hclosed .stderr)), rfl⟩

theorem got_sweep_stdout (a : Collection Recital) :
    a.sweep.got .stdout = a.got .stdout ++ (a.job.drain .stdout).1 :=
  rfl

theorem got_sweep_stderr (a : Collection Recital) :
    a.sweep.got .stderr = a.got .stderr ++ ((a.job.drain .stdout).2.drain .stderr).1 :=
  rfl

/-- A round of reading all that comes to the end. -/
theorem readAll_of_resolve {limit fuel : Nat} {f : Job.Fate} {code : Except Failure Int}
    {p : Job Recital} (hfate : a.sweep.job.fate? = some f)
    (hresolve : a.sweep.job.resolve? = some (code, p)) :
    a.job.readAll limit (fuel + 1) =
      (some ((a.job.drain .stdout).1, ((a.job.drain .stdout).2.drain .stderr).1, code), p) := by
  have hjob : a.sweep.job = ((a.job.drain .stdout).2.drain .stderr).2 := rfl
  rw [hjob] at hfate hresolve
  simp only [Job.readAll, hfate, hresolve]

/-- A round of reading all after which the program goes on. -/
theorem readAll_of_tick {limit : Nat} (fuel : Nat) {p : Job Recital} (hfate : a.sweep.job.fate? = none)
    (htick : a.sweep.job.tick limit = some p) :
    a.job.readAll limit (fuel + 1) =
      ((p.readAll limit fuel).1.map fun (out, err, code) =>
        ((a.job.drain .stdout).1 ++ out, ((a.job.drain .stdout).2.drain .stderr).1 ++ err, code),
        (p.readAll limit fuel).2) := by
  have hjob : a.sweep.job = ((a.job.drain .stdout).2.drain .stderr).2 := rfl
  rw [hjob] at hfate htick
  simp only [Job.readAll, hfate, htick]

/-- **Taking whatever is there before the program goes on is one of the orders.**  With enough fuel it
comes to an end. -/
theorem Collects.readAll {fuel : Nat} (limit : Nat) (h : Collects chunks result a)
    (hreading : ∀ stream, a.ended stream = false) (hcode : a.code = none)
    (hfuel : a.job.worker.effort < fuel) :
    ∃ out err code p n b, a.job.readAll limit fuel = (some (out, err, code), p) ∧ Run n a b ∧
      b.result? = some (Job.outcome (a.got .stdout ++ out) (a.got .stderr ++ err) code) := by
  induction fuel generalizing a with
  | zero => exact absurd hfuel (Nat.not_lt_zero _)
  | succ fuel ih =>
    obtain ⟨m, hsweep⟩ := exists_run_sweep a hreading
    obtain ⟨hswept, hless⟩ := hsweep.collects h
    have hreading' : ∀ stream, a.sweep.ended stream = false := hreading
    have hcode' : a.sweep.code = none := hcode
    have hresolve := hswept.resolve? hcode'
    cases hover : a.sweep.job.worker.result? with
    | some r =>
      have hfate : a.sweep.job.fate? = some (.returned r) := by
        rw [Job.fate?, show Program.result? a.sweep.job.worker = some r from hover]
      rw [hover, Option.map_some] at hresolve
      obtain ⟨code, p, hresolve⟩ : ∃ code p, a.sweep.job.resolve? = some (code, p) := ⟨_, _, hresolve⟩
      obtain ⟨n, b, hrun, hb⟩ := hswept.exists_run_end (sweep_empty a) hreading' hcode' hresolve
      rw [got_sweep_stdout, got_sweep_stderr] at hb
      exact ⟨_, _, code, p, m + n, b, readAll_of_resolve hfate hresolve, hsweep.trans hrun, hb⟩
    | none =>
      have hfate : a.sweep.job.fate? = none := by
        rw [Job.fate?, show Program.result? a.sweep.job.worker = none from hover, hswept.isAborted]
        rfl
      cases hstep : a.sweep.job.worker.step with
      | none =>
        -- the pipes are empty, so the program does not wait
        obtain ⟨stream, hbytes⟩ | hresult := Recital.result?_of_step_eq_none hswept.sound.capacity hstep
        · exact absurd (sweep_empty a stream) hbytes
        · rw [hover] at hresult
          cases hresult
      | some w =>
        have htick := tick_of_step limit hswept.isAborted hstep
        have hwork : Step a.sweep { a.sweep with job := { a.sweep.job with worker := w, now := 0 } } :=
          .work limit htick
        have hlower := (Recital.turn_of_step hswept.sound hstep).effort_lt hswept.sound
        have hsame : a.sweep.job.worker.effort ≤ a.job.worker.effort := by
          simp only [effort, hreading, hreading', hcode, hcode'] at hless
          omega
        obtain ⟨out, err, code, p, n, b, hrest, hrun, hb⟩ :=
          ih (hswept.step hwork) hreading' hcode' (by show w.effort < fuel; omega)
        have hround := readAll_of_tick fuel hfate htick
        rw [hrest, Option.map_some] at hround
        refine ⟨_, _, code, p, m + (1 + n), b, hround,
          hsweep.trans ((Run.tail (.refl _) hwork).trans hrun), ?_⟩
        rw [hb, ← List.append_assoc, ← List.append_assoc, ← got_sweep_stdout, ← got_sweep_stderr]

/-! ## Main result -/

/-- How many steps it takes at most to collect some chunks. -/
def stepsFor (chunks : List (Stream × List UInt8)) : Nat :=
  Recital.chunkEffort chunks + 5

/-- What is made of a result and all the bytes of both streams. -/
theorem outcome_cases {out err : List UInt8} {r : Except Failure CommandResult}
    (h : r = Job.outcome out err result) :
    (∃ e, result = .error e ∧ r = .error e) ∨
      ∃ code c, result = .ok code ∧ r = .ok c ∧ c.exitCode = code ∧ (c.success = true ↔ code = 0) ∧
        c.stdout = Utf8.decodeLossy out ∧ c.stderr = Utf8.decodeLossy err := by
  cases result with
  | error e => exact .inl ⟨e, rfl, h⟩
  | ok code =>
    refine .inr ⟨code, .ofExitCode code (Utf8.decodeLossy out) (Utf8.decodeLossy err), rfl, h, ?_⟩
    by_cases hzero : code = 0
    · simp only [CommandResult.ofExitCode, if_pos hzero]
      exact ⟨hzero.symm, iff_of_true rfl hzero, rfl, rfl⟩
    · simp only [CommandResult.ofExitCode, if_neg hzero]
      exact ⟨rfl, iff_of_false Bool.false_ne_true hzero, rfl, rfl⟩

/-- **Collecting the output of a recital ends well.**  For every capacity of the pipes, all chunks and
every result:

* in every order of the steps there are no more than `stepsFor chunks` of them, and until the result is
  there somebody can go on;
* the result that is there at the end is the failure of the recital, or it has the exit code of the
  recital, says success if that is zero, and has the texts of all the bytes of both streams;
* `Job.waitWithOutput` gives a result, and gives it in one of these orders. -/
theorem collect_recital (capacity : Nat) (chunks : List (Stream × List UInt8))
    (result : Except Failure Int) :
    (∀ n a, Run n (begin (.ofProgram (Recital.ofCapacity capacity chunks result))) a →
      n ≤ stepsFor chunks ∧ (a.result? = none → ∃ b, Step a b) ∧
      ∀ r, a.result? = some r → (∃ e, result = .error e ∧ r = .error e) ∨
        ∃ code c, result = .ok code ∧ r = .ok c ∧ c.exitCode = code ∧ (c.success = true ↔ code = 0) ∧
          c.stdout = Utf8.decodeLossy (said chunks .stdout) ∧
          c.stderr = Utf8.decodeLossy (said chunks .stderr)) ∧
    ∀ limit, ∃ fuel r,
      ((Job.ofProgram (Recital.ofCapacity capacity chunks result)).waitWithOutput limit fuel).1 = some r ∧
      ∃ n a, Run n (begin (.ofProgram (Recital.ofCapacity capacity chunks result))) a ∧ a.result? = some r := by
  have hbegin := collects_begin capacity chunks result
  constructor
  · intro n a hrun
    obtain ⟨ha, hless⟩ := hrun.collects hbegin
    refine ⟨?_, ha.exists_step, fun r hr => outcome_cases (ha.result?_eq hr)⟩
    have hall : (begin (.ofProgram (Recital.ofCapacity capacity chunks result)) : Collection Recital).effort =
        stepsFor chunks := by
      have hjob : (Job.ofProgram (Recital.ofCapacity capacity chunks result)).worker =
          .ofCapacity capacity chunks result := congrArg Job.worker (settle_eq rfl)
      simp only [effort, begin, hjob]
      rfl
    omega
  · intro limit
    obtain ⟨fuel, hfuel⟩ : ∃ fuel,
        (Job.ofProgram (Recital.ofCapacity capacity chunks result)).worker.effort < fuel :=
      ⟨_, Nat.lt_succ_self _⟩
    obtain ⟨out, err, code, p, n, a, hread, hrun, ha⟩ := hbegin.readAll limit (fun _ => rfl) rfl hfuel
    have hall : (Job.ofProgram (Recital.ofCapacity capacity chunks result)).readAll limit fuel =
        (some (out, err, code), p) := hread
    refine ⟨fuel, Job.outcome out err code, ?_, n, a, hrun, ha⟩
    simp only [Job.waitWithOutput, hall, Option.map_some]

/-- A character whose bytes are appended in two pieces, with output to the other stream in between,
through pipes that hold one byte. -/
theorem collect_recital_split_character :
    let chunks : List (Stream × List UInt8) :=
      [(.stdout, [0xE2, 0x82]), (.stderr, [0x21, 0xFF]), (.stdout, [0xAC])]
    ∃ n a, Run n (begin (.ofProgram (Recital.ofCapacity 0 chunks (.ok 3)))) a ∧ n ≤ 21 ∧
      a.result? = some (.ok ⟨3, "€", "!\uFFFD", false⟩) := by
  intro chunks
  obtain ⟨horders, hone⟩ := collect_recital 0 chunks (.ok 3)
  obtain ⟨-, r, -, n, a, hrun, hr⟩ := hone 0
  obtain ⟨hn, -, hresult⟩ := horders n a hrun
  refine ⟨n, a, hrun, Nat.le_trans hn (by decide), ?_⟩
  obtain ⟨e, he, -⟩ | ⟨code, ⟨exitCode, stdout, stderr, success⟩, hcode, rfl, rfl, hsuccess, rfl, rfl⟩ :=
    hresult r hr
  · cases he
  · cases hcode
    have hfailed : success = false := by simpa using hsuccess
    rw [hr, hfailed]
    rfl

end Collection

end RemoteShell
