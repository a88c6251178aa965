import RemoteShell.Proofs.Job.Destroying
import RemoteShell.Proofs.Shell.Effort

/-!
# Attended jobs

A job is *attended* when both streams of it are read all the time: before each thing that the program does, everything
that is in the pipes is taken out.  `Job.EndsWith` says what the program of an attended job ends with.  It does not
bound the time or the number of steps, and it has no default.

`Job.readAll` attends a job with a limit and with fuel.  Where the program always has less to do, the job ends, and
enough fuel finds what it ends with (`Job.exists_endsWith`).  A command on a connector with a `Budget` is such a
program (`RemoteProcess.exists_endsWith`).
-/

namespace RemoteShell

open Shell (Stream Worker Connector Budget)

theorem Pipe.close_capacity (p : Pipe) : p.close.capacity = p.capacity := by
  rw [close]
  split <;> rfl

namespace Job

section

variable {τ : Type} [Program τ]

/-- The job when everything that is in its pipes has been read. -/
def swept (p : Job τ) : Job τ :=
  ((p.drain .stdout).2.drain .stderr).2

/-- What the program of an attended job ends with. -/
inductive EndsWith : Job τ → Except Failure Int → Prop
  | ended {p : Job τ} {r : Except Failure Int} (result : Program.result? p.worker = some r) : EndsWith p r
  | goes {p p' : Job τ} {r : Except Failure Int} (limit : Nat) (tick : p.swept.tick limit = some p')
      (rest : EndsWith p' r) : EndsWith p r

/-- The result of the program has not been taken, and the program has not been stopped. -/
structure IsFresh (p : Job τ) : Prop where
  isPending : p.isPending = true
  isAborted : p.isAborted = false
  exitCode : p.exitCode = none

theorem IsFresh.swept {p : Job τ} (h : p.IsFresh) : p.swept.IsFresh :=
  ⟨h.isPending, h.isAborted, h.exitCode⟩

/-- A tick of a job that has not been stopped is a step of its program. -/
theorem IsFresh.tick {p : Job τ} (h : p.IsFresh) {w : τ} {limit : Nat}
    (hstep : Program.step (Program.setNow p.worker (max (Program.now p.worker) p.now)) limit = some w) :
    p.tick limit = some (settle { p with worker := w, now := Program.now w }) := by
  rw [Job.tick, if_neg (by rw [h.isAborted]; exact Bool.false_ne_true), hstep, Option.map_some]

end

section Lawful

variable {τ : Type} [Program τ] [LawfulProgram τ] {p p' : Job τ} {r : Except Failure Int} {limit fuel : Nat}

@[simp] theorem result?_swept (p : Job τ) : Program.result? p.swept.worker = Program.result? p.worker := by
  rw [swept, drain, take, LawfulProgram.result_setPipe, drain, take, LawfulProgram.result_setPipe]

/-- Nothing is left in the pipes, and nothing else happens to them. -/
theorem pipe_swept (p : Job τ) (stream : Stream) :
    Program.pipe p.swept.worker stream = { Program.pipe p.worker stream with buffer := [] } := by
  have hout : Program.pipe (p.drain .stdout).2.worker stream =
      if stream = .stdout then { Program.pipe p.worker stream with buffer := [] } else Program.pipe p.worker stream := by
    rw [drain, pipe_take]
    split
    · rename_i hsame
      rw [Pipe.take, hsame, List.drop_length]
    · rfl
  rw [swept, drain, pipe_take, hout]
  cases stream <;> simp [Pipe.take, hout]

/-- A round of reading all behind the end of the program. -/
theorem readAll_of_result (h : p.IsFresh) (hresult : Program.result? p.worker = some r) (limit fuel : Nat) :
    ∃ out err q, p.readAll limit (fuel + 1) = (some (out, err, r), q) := by
  have hfate : p.swept.fate? = some (.returned r) := fate?_eq_returned_iff.2 ((result?_swept p).trans hresult)
  have hresolve : p.swept.resolve? = some (p.swept.collect (.returned r)) := by
    rw [resolve?, h.swept.exitCode, h.swept.isPending, hfate]
    rfl
  have hcollect : (p.swept.collect (.returned r)).1 = r := by
    cases r <;> rfl
  rw [swept] at hfate hresolve
  rw [readAll]
  simp only [hfate, hresolve]
  exact ⟨_, _, _, by rw [← swept, hcollect]⟩

/-- A round of reading all after which the program goes on. -/
theorem readAll_of_tick (h : p.IsFresh) (hbusy : Program.result? p.worker = none) (htick : p.swept.tick limit = some p')
    (hrest : ∃ out err q, p'.readAll limit fuel = (some (out, err, r), q)) :
    ∃ out err q, p.readAll limit (fuel + 1) = (some (out, err, r), q) := by
  obtain ⟨out, err, q, hrest⟩ := hrest
  have hfate : p.swept.fate? = none := fate?_eq_none_iff.2 ⟨(result?_swept p).trans hbusy, h.swept.isAborted⟩
  rw [swept] at hfate htick
  rw [readAll]
  simp only [hfate, htick, hrest, Option.map_some]
  exact ⟨_, _, _, rfl⟩

/-- **A job that always goes on with less to do ends**, and whoever reads all of its output is told with what. -/
theorem exists_endsWith {P : Job τ → Prop} (effort : Job τ → Nat)
    (hgoes : ∀ p, P p → Program.result? p.worker = none →
      ∃ p', p.swept.tick limit = some p' ∧ P p' ∧ effort p' < effort p)
    (hfresh : ∀ p, P p → p.IsFresh) (h : P p) (hfuel : effort p < fuel) :
    ∃ r, p.EndsWith r ∧ ∃ out err q, p.readAll limit fuel = (some (out, err, r), q) := by
  induction fuel generalizing p with
  | zero => exact absurd hfuel (Nat.not_lt_zero _)
  | succ fuel ih =>
    cases hresult : Program.result? p.worker with
    | some r => exact ⟨r, .ended hresult, readAll_of_result (hfresh p h) hresult limit fuel⟩
    | none =>
      obtain ⟨p', htick, hp', hless⟩ := hgoes p h hresult
      obtain ⟨r, hends, hread⟩ := ih hp' (by omega)
      exact ⟨r, .goes limit htick hends, readAll_of_tick (hfresh p h) hresult htick hread⟩

/-- A program that does the same whatever the limit is, if it does anything, ends with one thing. -/
theorem EndsWith.unique {r' : Except Failure Int} (hmono : ∀ {w w' : τ} {limit limit' : Nat}, limit ≤ limit' →
    Program.step w limit = some w' → Program.step w limit' = some w') (h : p.EndsWith r) (h' : p.EndsWith r') :
    r = r' := by
  have htick : ∀ {p p' : Job τ} {limit limit' : Nat}, limit ≤ limit' → p.tick limit = some p' →
      p.tick limit' = some p' := by
    intro p p' limit limit' hle hsome
    have hrunning := (tick_eq_some hsome).1
    rw [tick, if_neg (by rw [(fate?_eq_none_iff.1 hrunning).2]; exact Bool.false_ne_true)] at hsome ⊢
    obtain ⟨w, hstep, rfl⟩ := Option.map_eq_some_iff.1 hsome
    rw [hmono hle hstep, Option.map_some]
  have hbusy : ∀ {p p' : Job τ} {limit : Nat}, p.swept.tick limit = some p' → Program.result? p.worker = none :=
    fun hsome => (result?_swept _).symm.trans (fate?_eq_none_iff.1 (tick_eq_some hsome).1).1
  induction h with
  | ended hresult =>
    cases h' with
    | ended hresult' => exact Option.some.inj (hresult.symm.trans hresult')
    | goes _ hsome => cases hresult.symm.trans (hbusy hsome)
  | goes limit hsome _ ih =>
    cases h' with
    | ended hresult => cases hresult.symm.trans (hbusy hsome)
    | goes limit' hsome' hrest =>
      have hsame := (htick (Nat.le_max_left limit limit') hsome).symm.trans
        (htick (Nat.le_max_right limit limit') hsome')
      obtain rfl := Option.some.inj hsame
      exact ih hrest

end Lawful

end Job

/-! ## Commands -/

namespace Shell.Worker

variable {σ : Type} [Connector σ] {b : Budget σ} {limit : Nat} {w w' : Worker σ}

/-- What can happen until some time can happen until a later one. -/
theorem step_of_le {limit' : Nat} (hle : limit ≤ limit') (h : w.step limit = some w') : w.step limit' = some w' := by
  obtain ⟨u, p, hturn, rfl⟩ := step_eq_some_iff.1 h
  refine step_eq_some_iff.2 ⟨u, p, ?_, rfl⟩
  cases hturn with
  | answered hdoing hearly hdue => exact .answered hdoing hearly (Nat.le_trans hdue hle)
  | expired hexposed hexpires hdeadline hdue => exact .expired hexposed hexpires hdeadline (Nat.le_trans hdue hle)
  | wrote hdoing hfree hall => exact .wrote hdoing hfree hall
  | writes hdoing hfree hmore => exact .writes hdoing hfree hmore

/-- Readers do not keep a worker from being on time. -/
theorem OnTime.setPipe (h : w.OnTime b limit) {p : Pipe} {stream : Stream}
    (hcapacity : p.capacity = (w.pipe stream).capacity) : (w.setPipe p stream).OnTime b limit := by
  refine ⟨h.toSteady.setPipe hcapacity, ?_, ?_, ?_⟩
  · rw [setPipe_doing, setPipe_connector]
    exact h.waiting
  · rw [setPipe_doing]
    exact h.writing
  · rw [setPipe_expires, setPipe_progress]
    exact h.receiving

/-- Nor does time that passes before all answers have come. -/
theorem OnTime.wait (h : w.OnTime b limit) {time : Nat} (htime : time + b.time w.connector ≤ limit) :
    ({ w with now := max w.now time } : Worker σ).OnTime b limit :=
  ⟨h.toSteady.wait htime, h.waiting, h.writing, h.receiving⟩

@[simp] theorem effort_setPipe (b : Budget σ) (w : Worker σ) (p : Pipe) (stream : Stream) :
    (w.setPipe p stream).effort b = w.effort b := by
  rw [effort, effort, setPipe_doing, setPipe_connector]

end Shell.Worker

namespace RemoteProcess

open Job

variable {σ : Type} [Connector σ] {b : Budget σ} {limit : Nat} {p : RemoteProcess σ}

/-- A running command on a connector whose answers come in time. -/
structure IsOnTime (b : Budget σ) (limit : Nat) (p : RemoteProcess σ) : Prop where
  isFresh : p.IsFresh
  worker : p.worker.OnTime b limit
  now : p.now + b.time p.worker.connector ≤ limit

/-- What readers do to a pipe makes no difference. -/
theorem IsOnTime.setPipe (h : IsOnTime b limit p) (pipe : Pipe) (stream : Stream)
    (hcapacity : pipe.capacity = (p.worker.pipe stream).capacity) :
    IsOnTime b limit { p with worker := p.worker.setPipe pipe stream } :=
  ⟨⟨h.isFresh.isPending, h.isFresh.isAborted, h.isFresh.exitCode⟩, h.worker.setPipe hcapacity,
    by rw [Worker.setPipe_connector]; exact h.now⟩

theorem IsOnTime.drain (h : IsOnTime b limit p) (stream : Stream) : IsOnTime b limit (p.drain stream).2 :=
  h.setPipe ((p.worker.pipe stream).take (p.worker.pipe stream).buffer.length).2 stream rfl

theorem IsOnTime.swept (h : IsOnTime b limit p) : IsOnTime b limit p.swept :=
  (h.drain .stdout).drain .stderr

theorem IsOnTime.settle (h : IsOnTime b limit p) : IsOnTime b limit p.settle := by
  rw [Job.settle]
  split
  · exact (h.setPipe _ .stdout (Pipe.close_capacity _)).setPipe _ .stderr (Pipe.close_capacity _)
  · exact h

theorem effort_settle (b : Budget σ) (p : RemoteProcess σ) : p.settle.worker.effort b = p.worker.effort b := by
  rw [Job.settle]
  split
  · exact (Worker.effort_setPipe b _ _ .stderr).trans (Worker.effort_setPipe b _ _ .stdout)
  · rfl

theorem effort_swept (b : Budget σ) (p : RemoteProcess σ) : p.swept.worker.effort b = p.worker.effort b :=
  (Worker.effort_setPipe b _ _ .stderr).trans (Worker.effort_setPipe b _ _ .stdout)

/-- An attended command goes on with less to do until it ends. -/
theorem IsOnTime.tick (h : IsOnTime b limit p) (hbusy : Program.result? p.worker = none) : ∃ p',
    p.swept.tick limit = some p' ∧ IsOnTime b limit p' ∧ p'.worker.effort b < p.worker.effort b := by
  have hswept := h.swept
  have hempty : ∀ stream, (p.swept.worker.pipe stream).buffer = [] := fun stream =>
    congrArg Pipe.buffer (pipe_swept p stream)
  have hresult : p.swept.worker.result? = none := Option.map_eq_none_iff.1 ((result?_swept p).trans hbusy)
  obtain ⟨w, hstep, hw, hless⟩ := (hswept.worker.wait hswept.now).advances hempty hresult
  refine ⟨_, hswept.isFresh.tick hstep, IsOnTime.settle ⟨⟨hswept.isFresh.isPending, hswept.isFresh.isAborted,
    hswept.isFresh.exitCode⟩, hw, hw.now⟩, ?_⟩
  rw [effort_settle, ← effort_swept b p]
  exact hless

/-- **An attended command on a connector with a budget ends**, with one thing only, and whoever reads all of its output
is told with what. -/
theorem exists_endsWith {connector : σ} (htime : b.time connector ≤ limit) (deadline : Option Duration) (capacity : Nat)
    (endpoint command : String) {fuel : Nat} (hfuel : 5 + b.effort connector < fuel) :
    ∃ r, (start connector deadline capacity endpoint command).EndsWith r ∧
      (∀ r', (start connector deadline capacity endpoint command).EndsWith r' → r' = r) ∧
      ∃ out err q, (start connector deadline capacity endpoint command).readAll limit fuel = (some (out, err, r), q) := by
  have hcapacity : 0 < (Pipe.ofCapacity capacity).capacity := Nat.lt_of_lt_of_le Nat.one_pos (Nat.le_max_right _ _)
  obtain ⟨hworker, heffort⟩ := Worker.onTime_start htime deadline hcapacity hcapacity (.unopened endpoint)
    (.execute command)
  have hbegin : IsOnTime b limit (start connector deadline capacity endpoint command) := by
    refine IsOnTime.settle (p := ⟨_, 0, true, true, false, none⟩) ⟨⟨rfl, rfl, rfl⟩, hworker, ?_⟩
    exact Nat.le_trans (Nat.add_le_add_right (Nat.zero_le _) _) hworker.now
  have hless : (start connector deadline capacity endpoint command).worker.effort b < fuel := by
    rw [start, Job.ofProgram, effort_settle]
    exact Nat.lt_of_le_of_lt heffort hfuel
  obtain ⟨r, hends, hread⟩ := Job.exists_endsWith (P := IsOnTime b limit) (fun p => p.worker.effort b)
    (fun _ h hbusy => h.tick hbusy) (fun _ h => h.isFresh) hbegin hless
  exact ⟨r, hends, fun r' hends' => hends'.unique Worker.step_of_le hends, hread⟩

end RemoteProcess

end RemoteShell
