import Mathlib.Logic.Relation
import RemoteShell.Proofs.Pipe.Fifo
import RemoteShell.Proofs.Shell.Exchange
import RemoteShell.RemoteProcess

/-!
# Destroying a job

Whoever has a job reads its two streams, waits for the exit code, gives up waiting and begins again, and may ask
for the job to be destroyed, at any time and as often as they like.  Asking is not yet stopping: the program can
still do something, and even end, before the abort takes effect.  `Handle.Step` is one step of all this, and what
a job is told to do is made of such steps (`Handle.reaches_wait`, `Handle.reaches_read`,
`Handle.Settled.reaches_destroy`).

* How a program has ended, by itself or aborted, is settled once (`Handle.Step.fate?_eq`).
* Who waits first is told how; afterwards the exit code can be asked for again, but a failure is not repeated
  (`Handle.Settled`).
* Behind an abort the program does nothing, and its pipes are closed with what is in them (`Handle.Stopped`).

Each of these is kept by every step, whatever the program is, as long as its pipes are just pipes to it
(`LawfulProgram`).
-/

namespace RemoteShell

open Shell (Stream Worker Connector Exchange Recorder Replies)

namespace Pipe

/-- Closing a pipe does nothing to what was written. -/
theorem close_keeps (p : Pipe) :
    p.close.connected = p.connected ∧ p.close.buffer = p.buffer ∧ p.close.written = p.written := by
  rw [close]
  split <;> exact ⟨rfl, rfl, rfl⟩

theorem close_isOpen {p : Pipe} (h : p.connected = true) : p.close.isOpen = false := by
  rw [close, if_pos h]

end Pipe

/-! ## Programs and their pipes -/

/-- A program whose pipes are independent of each other and of whether it has ended; one that has ended does
nothing, and no step disconnects a pipe. -/
class LawfulProgram (τ : Type) [Program τ] : Prop where
  pipe_setPipe (w : τ) (p : Pipe) (stream : Stream) : Program.pipe (Program.setPipe w p stream) stream = p
  pipe_setPipe_of_ne (w : τ) (p : Pipe) {stream other : Stream} (h : other ≠ stream) :
    Program.pipe (Program.setPipe w p stream) other = Program.pipe w other
  setPipe_pipe (w : τ) (stream : Stream) : Program.setPipe w (Program.pipe w stream) stream = w
  result_setPipe (w : τ) (p : Pipe) (stream : Stream) :
    Program.result? (Program.setPipe w p stream) = Program.result? w
  pipe_setNow (w : τ) (time : Nat) (stream : Stream) :
    Program.pipe (Program.setNow w time) stream = Program.pipe w stream
  result_setNow (w : τ) (time : Nat) : Program.result? (Program.setNow w time) = Program.result? w
  result_of_step {w w' : τ} {limit : Nat} (h : Program.step w limit = some w') : Program.result? w = none
  connected_of_step {w w' : τ} {limit : Nat} (h : Program.step w limit = some w') (stream : Stream) :
    (Program.pipe w' stream).connected = (Program.pipe w stream).connected

namespace Shell.Worker

variable {σ : Type} {w w' u : Worker σ}

theorem setPipe_connected {p : Pipe} {stream : Stream} (h : p.connected = (w.pipe stream).connected)
    (other : Stream) : ((w.setPipe p stream).pipe other).connected = (w.pipe other).connected := by
  by_cases hsame : other = stream
  · rw [hsame, pipe_setPipe, h]
  · rw [pipe_setPipe_of_ne w p hsame]

/-- Going on with a call disconnects no pipe. -/
theorem proceed_connected [Connector σ] (w : Worker σ) (p : Progress) (stream : Stream) :
    ((w.proceed p).pipe stream).connected = (w.pipe stream).connected := by
  cases p with
  | finished => cases stream <;> rfl
  | busy work =>
    cases hdemand : work.demand with
    | answer request => rw [pipe_proceed_of_answer w hdemand]
    | room other bytes =>
      rw [proceed_of_room w hdemand]
      refine Eq.trans ?_ (setPipe_connected ((w.pipe other).accepts_append bytes).connected stream)
      cases stream <;> rfl

theorem step_connected [Connector σ] {limit : Nat} (h : w.step limit = some w') (stream : Stream) :
    (w'.pipe stream).connected = (w.pipe stream).connected := by
  obtain ⟨u, p, hturn, rfl⟩ := step_eq_some_iff.1 h
  have hgoOn : ((u.goOn p).pipe stream).connected = (u.pipe stream).connected := by
    cases p with
    | none => rfl
    | some p => exact proceed_connected u p stream
  rw [hgoOn]
  cases hturn with
  | answered => cases stream <;> rfl
  | expired => cases stream <;> rfl
  | wrote => exact setPipe_connected (Pipe.accepts_offer _ _).connected stream
  | @writes work other rest =>
    refine Eq.trans ?_ (setPipe_connected ((w.pipe other).accepts_offer rest).connected stream)
    cases stream <;> rfl

end Shell.Worker

instance {σ : Type} [Connector σ] : LawfulProgram (Worker σ) where
  pipe_setPipe := Worker.pipe_setPipe
  pipe_setPipe_of_ne := Worker.pipe_setPipe_of_ne
  setPipe_pipe w stream := by
    cases stream <;> rfl
  result_setPipe w p stream := by
    cases stream <;> rfl
  pipe_setNow w time stream := by
    cases stream <;> rfl
  result_setNow _ _ := rfl
  result_of_step {w w' limit} h := by
    cases hdoing : w.doing with
    | finished s r => cases (Worker.step_of_finished limit hdoing).symm.trans h
    | waiting => simp only [Program.result?, Worker.result?, hdoing, Option.map_none]
    | writing => simp only [Program.result?, Worker.result?, hdoing, Option.map_none]
  connected_of_step h := Worker.step_connected h

/-! ## What a job does -/

namespace Job

variable {τ : Type} [Program τ]

/-- What waiting for the first time gives. -/
def Fate.reply : Fate → Except Failure Int
  | .returned r => r
  | .aborted => .error .destroyed

/-- What waiting again gives. -/
def Fate.again (f : Fate) : Except Failure Int :=
  match f.reply with
  | .ok c => .ok c
  | .error _ => .error .destroyed

theorem Fate.again_of_toOption {f : Fate} {code : Option Int} (h : f.reply.toOption = code) :
    f.again = code.elim (.error .destroyed) .ok := by
  subst h
  rw [again]
  cases f.reply <;> rfl

theorem fate?_eq_none_iff {p : Job τ} :
    p.fate? = none ↔ Program.result? p.worker = none ∧ p.isAborted = false := by
  rw [fate?]
  cases Program.result? p.worker with
  | some r => simp
  | none => simp

theorem fate?_eq_returned_iff {p : Job τ} {r : Except Failure Int} :
    p.fate? = some (.returned r) ↔ Program.result? p.worker = some r := by
  rw [fate?]
  cases Program.result? p.worker with
  | some r' => simp
  | none => simp

theorem fate?_eq_aborted_iff {p : Job τ} :
    p.fate? = some .aborted ↔ Program.result? p.worker = none ∧ p.isAborted = true := by
  rw [fate?]
  cases Program.result? p.worker with
  | some r => simp
  | none => simp

theorem resolve?_eq_some {p : Job τ} {r : Except Failure Int} {p' : Job τ} (h : p.resolve? = some (r, p')) :
    (∃ c, p.exitCode = some c ∧ r = .ok c ∧ p' = p) ∨
      (p.exitCode = none ∧ p.isPending = false ∧ r = .error .destroyed ∧ p' = p) ∨
      (p.exitCode = none ∧ p.isPending = true ∧ ∃ f, p.fate? = some f ∧ r = f.reply ∧
        p' = { p with isPending := false, exitCode := f.reply.toOption }) := by
  rw [resolve?] at h
  cases hcode : p.exitCode with
  | some c =>
    simp only [hcode, Option.some.injEq, Prod.mk.injEq] at h
    exact .inl ⟨c, rfl, h.1.symm, h.2.symm⟩
  | none =>
    cases hpending : p.isPending with
    | false =>
      simp only [hcode, hpending, Bool.false_eq_true, if_false, Option.some.injEq, Prod.mk.injEq] at h
      exact .inr (.inl ⟨rfl, rfl, h.1.symm, h.2.symm⟩)
    | true =>
      simp only [hcode, hpending, if_true] at h
      obtain ⟨f, hfate, hcollect⟩ := Option.map_eq_some_iff.1 h
      refine .inr (.inr ⟨rfl, rfl, f, hfate, ?_⟩)
      rcases f with (e | c) | _ <;> cases hcollect <;> exact ⟨rfl, by simp [Fate.reply, Except.toOption, hcode]⟩

theorem resolve?_isSome {p : Job τ} (h : p.fate? ≠ none) : p.resolve?.isSome = true := by
  obtain ⟨f, hf⟩ := Option.ne_none_iff_exists'.1 h
  rw [resolve?]
  cases p.exitCode with
  | some c => rfl
  | none =>
    simp only
    split
    · rw [hf, Option.map_some, Option.isSome_some]
    · rfl

/-- A job that is aborted does nothing. -/
theorem tick_of_isAborted {p : Job τ} (h : p.isAborted = true) (limit : Nat) : p.tick limit = none := by
  rw [tick, if_pos h]

@[simp] theorem settle_isAborted (p : Job τ) : p.settle.isAborted = p.isAborted := by
  rw [settle]
  split <;> rfl

@[simp] theorem settle_isPending (p : Job τ) : p.settle.isPending = p.isPending := by
  rw [settle]
  split <;> rfl

@[simp] theorem settle_exitCode (p : Job τ) : p.settle.exitCode = p.exitCode := by
  rw [settle]
  split <;> rfl

section Lawful

variable [LawfulProgram τ] {p p' : Job τ} {stream other : Stream} {limit count : Nat}

theorem fate?_setPipe (p : Job τ) (pipe : Pipe) (stream : Stream) :
    ({ p with worker := Program.setPipe p.worker pipe stream } : Job τ).fate? = p.fate? := by
  rw [fate?, fate?, LawfulProgram.result_setPipe]

theorem pipe_closePipe (p : Job τ) (stream other : Stream) :
    Program.pipe (p.closePipe stream).worker other =
      if other = stream then (Program.pipe p.worker other).close else Program.pipe p.worker other := by
  rw [closePipe]
  split
  · rename_i hsame
    rw [hsame, LawfulProgram.pipe_setPipe]
  · rename_i hne
    rw [LawfulProgram.pipe_setPipe_of_ne _ _ hne]

@[simp] theorem result?_settle (p : Job τ) : Program.result? p.settle.worker = Program.result? p.worker := by
  rw [settle]
  split
  · rw [closePipe, LawfulProgram.result_setPipe, closePipe, LawfulProgram.result_setPipe]
  · rfl

@[simp] theorem fate?_settle (p : Job τ) : p.settle.fate? = p.fate? := by
  rw [settle]
  split
  · rw [closePipe, fate?_setPipe, closePipe, fate?_setPipe]
  · rfl

/-- The pipes of a job whose program has ended are closed, and those of one that goes on are left alone. -/
theorem pipe_settle (p : Job τ) (stream : Stream) :
    Program.pipe p.settle.worker stream =
      if p.fate?.isSome then (Program.pipe p.worker stream).close else Program.pipe p.worker stream := by
  rw [settle]
  split
  · rw [pipe_closePipe, pipe_closePipe]
    cases stream <;> rfl
  · rfl

/-- Closing the pipes at the end does nothing to what was written. -/
theorem settle_keeps (p : Job τ) (stream : Stream) :
    (Program.pipe p.settle.worker stream).connected = (Program.pipe p.worker stream).connected ∧
      (Program.pipe p.settle.worker stream).buffer = (Program.pipe p.worker stream).buffer ∧
      (Program.pipe p.settle.worker stream).written = (Program.pipe p.worker stream).written := by
  rw [pipe_settle]
  split
  · exact Pipe.close_keeps _
  · exact ⟨rfl, rfl, rfl⟩

/-- The pipes of a job whose program has ended are closed. -/
theorem isOpen_settle (hended : p.fate? ≠ none) (hconnected : (Program.pipe p.worker stream).connected = true) :
    (Program.pipe p.settle.worker stream).isOpen = false := by
  rw [pipe_settle, if_pos (Option.isSome_iff_ne_none.2 hended), Pipe.close_isOpen hconnected]

/-- Pipes that are closed already are left alone. -/
theorem settle_of_closed (hclosed : ∀ stream, (Program.pipe p.worker stream).isOpen = false) : p.settle = p := by
  have hsame : ∀ stream, p.closePipe stream = p := by
    intro stream
    rw [closePipe, Pipe.close_of_not_isOpen (hclosed stream), LawfulProgram.setPipe_pipe]
  rw [settle, hsame, hsame, ite_self]

/-- A step of a job is a step of its program, which has not ended before. -/
theorem tick_eq_some (h : p.tick limit = some p') : p.fate? = none ∧ p'.isAborted = false ∧
    p'.isPending = p.isPending ∧ p'.exitCode = p.exitCode ∧
      (∀ stream, (Program.pipe p'.worker stream).connected = (Program.pipe p.worker stream).connected) ∧
      (p'.fate? ≠ none → (∀ stream, (Program.pipe p.worker stream).connected = true) →
        ∀ stream, (Program.pipe p'.worker stream).isOpen = false) := by
  have hrunning : p.isAborted = false := by
    by_contra habort
    rw [tick_of_isAborted (Bool.not_eq_false _ ▸ habort) limit] at h
    cases h
  rw [tick, if_neg (by rw [hrunning]; exact Bool.false_ne_true)] at h
  obtain ⟨w, hstep, rfl⟩ := Option.map_eq_some_iff.1 h
  have hresult := LawfulProgram.result_of_step hstep
  rw [LawfulProgram.result_setNow] at hresult
  have hconnected : ∀ stream, (Program.pipe w stream).connected = (Program.pipe p.worker stream).connected := by
    intro stream
    rw [LawfulProgram.connected_of_step hstep, LawfulProgram.pipe_setNow]
  refine ⟨fate?_eq_none_iff.2 ⟨hresult, hrunning⟩, by simpa using hrunning, by simp, by simp, fun stream => ?_,
    fun hended hall stream => ?_⟩
  · exact (settle_keeps _ stream).1.trans (hconnected stream)
  · rw [fate?_settle] at hended
    exact isOpen_settle hended ((hconnected stream).trans (hall stream))

theorem pipe_take (p : Job τ) (stream : Stream) (count : Nat) (other : Stream) :
    Program.pipe (p.take stream count).2.worker other =
      if other = stream then ((Program.pipe p.worker other).take count).2 else Program.pipe p.worker other := by
  have htake : (p.take stream count).2.worker =
      Program.setPipe p.worker ((Program.pipe p.worker stream).take count).2 stream := rfl
  rw [htake]
  split
  · rename_i hsame
    rw [hsame, LawfulProgram.pipe_setPipe]
  · rename_i hne
    rw [LawfulProgram.pipe_setPipe_of_ne _ _ hne]

/-- **A reader of a closed pipe** gets what is in it, and comes to the end if this is not enough. -/
theorem read_of_closed (h : (Program.pipe p.worker stream).isOpen = false) (limit fuel count : Nat) :
    p.read stream limit (fuel + 1) count =
      ((Program.pipe p.worker stream).buffer.take count,
        if count ≤ (Program.pipe p.worker stream).buffer.length then .filled else .ended,
        (p.take stream count).2) := by
  have hpipe : Program.pipe (p.take stream count).2.worker stream =
      ((Program.pipe p.worker stream).take count).2 := by
    rw [pipe_take, if_pos rfl]
  have hbytes : (p.take stream count).1 = (Program.pipe p.worker stream).buffer.take count := rfl
  have hending : (Program.pipe (p.take stream count).2.worker stream).ending?
      (count - ((Program.pipe p.worker stream).buffer.take count).length) =
        some (if count ≤ (Program.pipe p.worker stream).buffer.length then .filled else .ended) := by
    rw [hpipe, List.length_take, Pipe.take, Pipe.ending?]
    split
    · rw [if_pos (by omega)]
    · have hmore : ¬ count ≤ (Program.pipe p.worker stream).buffer.length := by omega
      rw [if_neg hmore, List.drop_of_length_le (by omega)]
      simp [h]
  rw [read]
  simp only [hbytes, hending]

end Lawful

end Job

/-! ## Jobs in the hands of a caller -/

/-- A job and what its caller does with it. -/
structure Handle (τ : Type) where
  job : Job τ
  /-- Whether it was asked to stop the program when it could still run. -/
  isCondemned : Bool
  /-- Whether somebody waits for the exit code. -/
  isWaiting : Bool
  /-- What was read. -/
  got : Stream → List UInt8
  /-- What waiting gave, each time that it gave something. -/
  replies : List (Except Failure Int)

namespace Handle

variable {τ : Type} [Program τ]

/-- A job that was just started. -/
def start (worker : τ) : Handle τ :=
  ⟨.ofProgram worker, false, false, fun _ => [], []⟩

/-- The reader of a stream takes at most some bytes. -/
def read (a : Handle τ) (stream : Stream) (count : Nat) : Handle τ :=
  { a with
    job := (a.job.take stream count).2
    got := Function.update a.got stream (a.got stream ++ (a.job.take stream count).1) }

/-- Somebody asks for the job to be destroyed. -/
def ask (a : Handle τ) : Handle τ :=
  { a with job := { a.job with hasStdin := false }, isCondemned := a.isCondemned || a.job.isPending }

/-- The abort that was asked for takes effect, since the program has not ended before. -/
structure Aborts (a b : Handle τ) : Prop where
  isCondemned : a.isCondemned = true
  running : a.job.fate? = none
  eq : b = { a with job := a.job.destroy }

/-- What can happen next. -/
inductive Step : Handle τ → Handle τ → Prop
  | work {a : Handle τ} {job : Job τ} (limit : Nat) (tick : a.job.tick limit = some job) :
      Step a { a with job }
  | pass (a : Handle τ) (limit : Nat) : Step a { a with job := { a.job with now := max a.job.now limit } }
  | read (a : Handle τ) (stream : Stream) (count : Nat) : Step a (a.read stream count)
  | wait (a : Handle τ) : Step a { a with isWaiting := true }
  | giveUp (a : Handle τ) : Step a { a with isWaiting := false }
  | resolve {a : Handle τ} {r : Except Failure Int} {job : Job τ} (waiting : a.isWaiting = true)
      (gives : a.job.resolve? = some (r, job)) :
      Step a { a with job, isWaiting := false, replies := a.replies ++ [r] }
  | ask (a : Handle τ) : Step a a.ask
  | abort {a b : Handle τ} (aborts : a.Aborts b) : Step a b

/-- Some steps in a row. -/
abbrev Reaches : Handle τ → Handle τ → Prop :=
  Relation.ReflTransGen Step

/-! ### What a job is told to do -/

/-- Letting time go on is made of steps. -/
theorem reaches_sleepUntil (limit fuel : Nat) (a : Handle τ) :
    Reaches a { a with job := a.job.sleepUntil limit fuel } := by
  induction fuel generalizing a with
  | zero => exact .refl
  | succ fuel ih =>
    rw [Job.sleepUntil]
    cases htick : a.job.tick limit with
    | none => exact .single (.pass a limit)
    | some job => exact .head (.work limit htick) (ih { a with job })

/-- Somebody waits until a given time. -/
def waited (a : Handle τ) (limit fuel : Nat) : Handle τ :=
  { a with
    job := (a.job.wait limit fuel).2
    isWaiting := (a.job.wait limit fuel).1.isNone
    replies := a.replies ++ (a.job.wait limit fuel).1.toList }

/-- Waiting is made of steps.  Who gets no answer in time is still waiting. -/
theorem reaches_wait (limit fuel : Nat) (a : Handle τ) : Reaches a (a.waited limit fuel) := by
  have hwait : Reaches a { a with isWaiting := true } := .single (.wait a)
  induction fuel generalizing a with
  | zero => simpa [waited, Job.wait] using hwait
  | succ fuel ih =>
    rw [waited, Job.wait]
    cases hgives : a.job.resolve? with
    | some reply => exact hwait.tail (.resolve rfl hgives)
    | none =>
      cases htick : a.job.tick limit with
      | some job => exact .head (.work limit htick) (ih { a with job } (.single (.wait _)))
      | none => simpa using hwait.tail (.pass _ limit)

/-- Reading is made of steps. -/
theorem reaches_read (stream : Stream) (limit fuel count : Nat) (a : Handle τ) :
    Reaches a { a with
      job := (a.job.read stream limit fuel count).2.2
      got := Function.update a.got stream (a.got stream ++ (a.job.read stream limit fuel count).1) } := by
  induction fuel generalizing a count with
  | zero =>
    rw [Job.read, List.append_nil, Function.update_eq_self]
  | succ fuel ih =>
    have hread : Reaches a (a.read stream count) := .single (.read a stream count)
    rw [Job.read]
    simp only
    split
    · exact hread
    · split
      · rename_i job htick
        have hmore := ih (count - (a.job.take stream count).1.length)
          ⟨job, a.isCondemned, a.isWaiting, (a.read stream count).got, a.replies⟩
        simp only [read, Function.update_self, Function.update_idem, List.append_assoc] at hmore
        exact hread.trans (.head (.work limit htick) hmore)
      · exact hread.tail (.pass _ limit)

theorem read_got (a : Handle τ) (stream : Stream) (count : Nat) (other : Stream) :
    (a.read stream count).got other =
      if other = stream then a.got other ++ (Program.pipe a.job.worker other).buffer.take count
      else a.got other := by
  simp only [read, Function.update_apply]
  split
  · rename_i hsame
    rw [hsame]
    rfl
  · rfl

variable [LawfulProgram τ] {a b c : Handle τ} {f : Job.Fate} {stream : Stream}

/-- **How the program has ended is settled.** -/
theorem Step.fate?_eq (h : Step a b) (hfate : a.job.fate? = some f) : b.job.fate? = some f := by
  cases h with
  | work limit tick => cases hfate.symm.trans (Job.tick_eq_some tick).1
  | pass => exact hfate
  | read stream count => exact (Job.fate?_setPipe _ _ _).trans hfate
  | wait => exact hfate
  | giveUp => exact hfate
  | resolve _ gives =>
    obtain ⟨-, -, -, rfl⟩ | ⟨-, -, -, rfl⟩ | ⟨-, -, -, -, -, rfl⟩ := Job.resolve?_eq_some gives <;> exact hfate
  | ask => exact hfate
  | abort aborts => cases hfate.symm.trans aborts.running

theorem Reaches.fate?_eq (h : Reaches a b) (hfate : a.job.fate? = some f) : b.job.fate? = some f := by
  induction h with
  | refl => exact hfate
  | tail _ step ih => exact step.fate?_eq ih

/-- What holds of a job whatever is done with it. -/
structure Settled (a : Handle τ) : Prop where
  connected : ∀ stream, (Program.pipe a.job.worker stream).connected = true
  closed : a.job.fate? ≠ none → ∀ stream, (Program.pipe a.job.worker stream).isOpen = false
  aborted : a.job.isAborted = true → Program.result? a.job.worker = none
  /-- Who waits first is told how the program has ended, and whoever waits later is told so again. -/
  replies : (a.job.isPending = true ∧ a.job.exitCode = none ∧ a.replies = []) ∨
    (a.job.isPending = false ∧ ∃ f n, a.job.fate? = some f ∧ a.job.exitCode = f.reply.toOption ∧
      a.replies = f.reply :: List.replicate n f.again)

theorem settled_start {worker : τ} (hconnected : ∀ stream, (Program.pipe worker stream).connected = true) :
    (start worker).Settled := by
  refine ⟨fun stream => ?_, fun hended stream => ?_, fun haborted => ?_, .inl ?_⟩
  · exact (Job.settle_keeps _ stream).1.trans (hconnected stream)
  · rw [start, Job.ofProgram, Job.fate?_settle] at hended
    exact Job.isOpen_settle hended (hconnected stream)
  · rw [start, Job.ofProgram, Job.settle_isAborted] at haborted
    cases haborted
  · exact ⟨by rw [start, Job.ofProgram, Job.settle_isPending], by rw [start, Job.ofProgram, Job.settle_exitCode], rfl⟩

omit [LawfulProgram τ] in
/-- Nobody has been told anything as long as the program has not ended. -/
theorem Settled.pending (h : a.Settled) (hrunning : a.job.fate? = none) :
    a.job.isPending = true ∧ a.job.exitCode = none ∧ a.replies = [] := by
  obtain hpending | ⟨-, f, -, hfate, -⟩ := h.replies
  · exact hpending
  · cases hrunning.symm.trans hfate

omit [LawfulProgram τ] in
/-- What an abort does to the job. -/
theorem Settled.destroy_eq (h : a.Settled) (hrunning : a.job.fate? = none) :
    a.job.destroy = Job.settle { a.job with isAborted := true, hasStdin := false } := by
  have haborts : (a.job.isAborted || a.job.isPending && a.job.fate?.isNone) = true := by
    rw [hrunning, (h.pending hrunning).1, Option.isNone_none, Bool.and_self, Bool.or_true]
  simp only [Job.destroy, haborts]

/-- **One step** keeps a job settled. -/
theorem Settled.step (h : a.Settled) (step : Step a b) : b.Settled := by
  cases step with
  | work limit tick =>
    obtain ⟨hrunning, haborted, hpending, hcode, hconnected, hclosed⟩ := Job.tick_eq_some tick
    obtain ⟨hpending', hcode', hreplies⟩ := h.pending hrunning
    refine ⟨fun stream => (hconnected stream).trans (h.connected stream), fun hended => hclosed hended h.connected,
      fun haborted' => ?_, .inl ⟨hpending.trans hpending', hcode.trans hcode', hreplies⟩⟩
    cases haborted.symm.trans haborted'
  | pass => exact ⟨h.connected, h.closed, h.aborted, h.replies⟩
  | read stream count =>
    have hfate : (a.read stream count).job.fate? = a.job.fate? := Job.fate?_setPipe _ _ _
    have hpipe : ∀ other, (Program.pipe (a.read stream count).job.worker other).connected =
        (Program.pipe a.job.worker other).connected ∧
        (Program.pipe (a.read stream count).job.worker other).isOpen =
          (Program.pipe a.job.worker other).isOpen := by
      intro other
      rw [read, Job.pipe_take]
      split <;> exact ⟨rfl, rfl⟩
    refine ⟨fun other => (hpipe other).1.trans (h.connected other), fun hended other => ?_, fun haborted => ?_, ?_⟩
    · exact (hpipe other).2.trans (h.closed (hfate ▸ hended) other)
    · exact (LawfulProgram.result_setPipe _ _ _).trans (h.aborted haborted)
    · rw [hfate]
      exact h.replies
  | wait => exact ⟨h.connected, h.closed, h.aborted, h.replies⟩
  | giveUp => exact ⟨h.connected, h.closed, h.aborted, h.replies⟩
  | resolve _ gives =>
    obtain ⟨c, hcode, rfl, rfl⟩ | ⟨hcode, hpending, rfl, rfl⟩ | ⟨-, hpending, f, hfate, rfl, rfl⟩ :=
      Job.resolve?_eq_some gives
    · refine ⟨h.connected, h.closed, h.aborted, .inr ?_⟩
      obtain ⟨-, hnone, -⟩ | ⟨hpending, f, n, hfate, hcode', hreplies⟩ := h.replies
      · cases hcode.symm.trans hnone
      · refine ⟨hpending, f, n + 1, hfate, hcode', ?_⟩
        rw [List.replicate_succ', ← List.cons_append, ← hreplies, Job.Fate.again_of_toOption hcode'.symm, hcode]
        rfl
    · refine ⟨h.connected, h.closed, h.aborted, .inr ?_⟩
      obtain ⟨hpending', -, -⟩ | ⟨-, f, n, hfate, hcode', hreplies⟩ := h.replies
      · cases hpending.symm.trans hpending'
      · refine ⟨hpending, f, n + 1, hfate, hcode', ?_⟩
        rw [List.replicate_succ', ← List.cons_append, ← hreplies, Job.Fate.again_of_toOption hcode'.symm, hcode]
        rfl
    · refine ⟨h.connected, h.closed, h.aborted, .inr ⟨rfl, f, 0, hfate, rfl, ?_⟩⟩
      obtain ⟨-, -, hreplies⟩ | ⟨hpending', -⟩ := h.replies
      · simp only [hreplies, List.nil_append, List.replicate_zero]
      · cases hpending.symm.trans hpending'
  | ask => exact ⟨h.connected, h.closed, h.aborted, h.replies⟩
  | abort aborts =>
    obtain ⟨-, hrunning, rfl⟩ := aborts
    obtain ⟨hpending, hcode, hreplies⟩ := h.pending hrunning
    have hdestroy := h.destroy_eq hrunning
    refine ⟨fun stream => ?_, fun hended stream => ?_, fun _ => ?_, .inl ⟨?_, ?_, hreplies⟩⟩
    · rw [hdestroy]
      exact (Job.settle_keeps _ stream).1.trans (h.connected stream)
    · rw [hdestroy, Job.fate?_settle] at hended
      rw [hdestroy]
      exact Job.isOpen_settle hended (h.connected stream)
    · rw [hdestroy, Job.result?_settle]
      exact (Job.fate?_eq_none_iff.1 hrunning).1
    · rw [hdestroy, Job.settle_isPending]
      exact hpending
    · rw [hdestroy, Job.settle_exitCode]
      exact hcode

/-- Destroying is asking for it and, unless the program has ended, the abort. -/
theorem Settled.reaches_destroy (h : a.Settled) : Reaches a { a.ask with job := a.job.destroy } := by
  have hask : Reaches a a.ask := .single (.ask a)
  cases hfate : a.job.fate? with
  | none =>
    have hcondemned : a.ask.isCondemned = true := by
      rw [ask, (h.pending hfate).1, Bool.or_true]
    exact hask.tail (.abort ⟨hcondemned, hfate, rfl⟩)
  | some f =>
    have hclosed := h.closed (by rw [hfate]; exact Option.some_ne_none f)
    have hdestroy : a.job.destroy = a.ask.job := by
      rw [Job.destroy, hfate, Option.isNone_some, Bool.and_false, Bool.or_false]
      exact Job.settle_of_closed hclosed
    rw [hdestroy]
    exact hask

theorem Reaches.settled (h : Reaches a b) (hsettled : a.Settled) : b.Settled := by
  induction h with
  | refl => exact hsettled
  | tail _ step ih => exact ih.step step

/-! ### Behind an abort -/

/-- Nothing happens behind an abort but that the pipes are read.  `a` is the job when the abort takes effect. -/
structure Stopped (a b : Handle τ) : Prop where
  isAborted : b.job.isAborted = true
  /-- Nothing is written. -/
  written : ∀ stream, (Program.pipe b.job.worker stream).written = (Program.pipe a.job.worker stream).written
  /-- What is read was in the pipes. -/
  bytes : ∀ stream, b.got stream ++ (Program.pipe b.job.worker stream).buffer =
    a.got stream ++ (Program.pipe a.job.worker stream).buffer
  /-- Whatever of the program does not belong to its pipes stays as it is. -/
  apart : ∀ {β : Type} (view : τ → β), (∀ w p stream, view (Program.setPipe w p stream) = view w) →
    view b.job.worker = view a.job.worker

theorem Settled.stopped (h : a.Settled) (aborts : a.Aborts b) : Stopped a b := by
  obtain ⟨-, hrunning, rfl⟩ := aborts
  have hdestroy := h.destroy_eq hrunning
  refine ⟨?_, fun stream => ?_, fun stream => ?_, fun view hview => ?_⟩
  · rw [hdestroy, Job.settle_isAborted]
  · rw [hdestroy]
    exact (Job.settle_keeps _ stream).2.2
  · rw [hdestroy]
    exact congrArg (a.got stream ++ ·) (Job.settle_keeps _ stream).2.1
  · rw [hdestroy, Job.settle]
    split
    · exact (hview _ _ _).trans (hview _ _ _)
    · rfl

/-- **One step** behind an abort. -/
theorem Stopped.step (h : Stopped a b) (step : Step b c) : Stopped a c := by
  cases step with
  | work limit tick => cases (Job.tick_of_isAborted h.isAborted limit).symm.trans tick
  | pass => exact ⟨h.isAborted, h.written, h.bytes, h.apart⟩
  | read stream count =>
    refine ⟨h.isAborted, fun other => ?_, fun other => ?_, fun view hview => ?_⟩
    · rw [← h.written other, read, Job.pipe_take]
      split <;> rfl
    · rw [← h.bytes other, read_got, read, Job.pipe_take]
      split
      · rw [List.append_assoc, Pipe.take, List.take_append_drop]
      · rfl
    · exact (hview _ _ _).trans (h.apart view hview)
  | wait => exact ⟨h.isAborted, h.written, h.bytes, h.apart⟩
  | giveUp => exact ⟨h.isAborted, h.written, h.bytes, h.apart⟩
  | resolve _ gives =>
    obtain ⟨-, -, -, rfl⟩ | ⟨-, -, -, rfl⟩ | ⟨-, -, -, -, -, rfl⟩ := Job.resolve?_eq_some gives <;>
      exact ⟨h.isAborted, h.written, h.bytes, h.apart⟩
  | ask => exact ⟨h.isAborted, h.written, h.bytes, h.apart⟩
  | abort aborts =>
    have hrunning := (Job.fate?_eq_none_iff.1 aborts.running).2
    cases h.isAborted.symm.trans hrunning

theorem Stopped.reaches (h : Stopped a b) (hreaches : Reaches b c) : Stopped a c := by
  induction hreaches with
  | refl => exact h
  | tail _ step ih => exact ih.step step

/-! ## Main result -/

omit [LawfulProgram τ] in
/-- What was told first is how the program has ended. -/
theorem Settled.head?_eq (h : a.Settled) {r : Except Failure Int} (hfirst : a.replies.head? = some r) :
    ∃ f, a.job.fate? = some f ∧ r = f.reply := by
  obtain ⟨-, -, hreplies⟩ | ⟨-, f, n, hfate, -, hreplies⟩ := h.replies
  · rw [hreplies] at hfirst
    cases hfirst
  · rw [hreplies] at hfirst
    exact ⟨f, hfate, (Option.some.inj hfirst).symm⟩

omit [LawfulProgram τ] in
/-- The exit code is known if and only if somebody was told. -/
theorem Settled.exitCode_eq_some_iff (h : a.Settled) {code : Int} :
    a.job.exitCode = some code ↔ .ok code ∈ a.replies := by
  obtain ⟨-, hcode, hreplies⟩ | ⟨-, f, n, -, hcode, hreplies⟩ := h.replies
  · rw [hcode, hreplies]
    exact iff_of_false nofun List.not_mem_nil
  · rw [hcode, hreplies, List.mem_cons, List.mem_replicate, Job.Fate.again_of_toOption rfl]
    cases hreply : f.reply with
    | ok c => simp [Except.toOption, eq_comm]
    | error e => simp [Except.toOption]

/-- What becomes of a job. -/
structure Outcome (a : Handle τ) : Prop where
  /-- Behind an abort the program does nothing.  A reader gets what was in its pipe, and then comes to the end
  of it.  Who waits first is told that the job was destroyed. -/
  aborted : ∀ b c, a.Aborts b → Reaches b c → Stopped a c ∧ (∀ limit, c.job.tick limit = none) ∧
    (∀ stream limit fuel count, c.job.read stream limit (fuel + 1) count =
      ((Program.pipe c.job.worker stream).buffer.take count,
        if count ≤ (Program.pipe c.job.worker stream).buffer.length then .filled else .ended,
        (c.job.take stream count).2)) ∧
    ∀ r, c.replies.head? = some r → r = .error .destroyed
  /-- A program that has ended by itself is not aborted any more.  Who waits first is told its result. -/
  ended : ∀ r, Program.result? a.job.worker = some r → ∀ b, Reaches a b →
    Program.result? b.job.worker = some r ∧ b.job.isAborted = false ∧ ∀ r', b.replies.head? = some r' → r' = r
  /-- Nobody is told anything before, and then whoever waits is told. -/
  told : (a.replies ≠ [] → (Program.result? a.job.worker).isSome = true ∨ a.job.isAborted = true) ∧
    ((Program.result? a.job.worker).isSome = true ∨ a.job.isAborted = true → a.job.resolve?.isSome = true)
  /-- The exit code is known as soon as somebody was told it, and not before. -/
  code : ∀ code, a.job.exitCode = some code ↔ .ok code ∈ a.replies
  /-- From then on everybody is told it. -/
  again : ∀ code, .ok code ∈ a.replies → ∀ b, Reaches a b → b.job.exitCode = some code ∧
    b.job.resolve? = some (.ok code, b.job) ∧ ∃ n, b.replies = a.replies ++ List.replicate n (.ok code)

/-- A step behind an exit code tells nobody anything else. -/
theorem Settled.step_code (h : a.Settled) (step : Step a b) {code : Int} (hcode : a.job.exitCode = some code) :
    b.job.exitCode = some code ∧ (b.replies = a.replies ∨ b.replies = a.replies ++ [.ok code]) := by
  have hended : a.job.fate? ≠ none := fun hrunning => by cases (h.pending hrunning).2.1.symm.trans hcode
  cases step with
  | work limit tick => exact absurd (Job.tick_eq_some tick).1 hended
  | pass => exact ⟨hcode, .inl rfl⟩
  | read stream count => exact ⟨hcode, .inl rfl⟩
  | wait => exact ⟨hcode, .inl rfl⟩
  | giveUp => exact ⟨hcode, .inl rfl⟩
  | resolve _ gives =>
    obtain ⟨c, hcode', rfl, rfl⟩ | ⟨hnone, -, -, -⟩ | ⟨hnone, -, -, -⟩ := Job.resolve?_eq_some gives
    · cases hcode.symm.trans hcode'
      exact ⟨hcode, .inr rfl⟩
    · cases hcode.symm.trans hnone
    · cases hcode.symm.trans hnone
  | ask => exact ⟨hcode, .inl rfl⟩
  | abort aborts => exact absurd aborts.running hended

theorem Reaches.code (hreaches : Reaches a b) (h : a.Settled) {code : Int} (hcode : a.job.exitCode = some code) :
    b.job.exitCode = some code ∧ ∃ n, b.replies = a.replies ++ List.replicate n (.ok code) := by
  induction hreaches with
  | refl => exact ⟨hcode, 0, (List.append_nil _).symm⟩
  | tail before step ih =>
    obtain ⟨hcode', n, hreplies⟩ := ih
    obtain ⟨hcode'', hsame | hmore⟩ := (Reaches.settled before h).step_code step hcode'
    · exact ⟨hcode'', n, hsame.trans hreplies⟩
    · refine ⟨hcode'', n + 1, ?_⟩
      rw [hmore, hreplies, List.replicate_succ', List.append_assoc]

/-- **What becomes of a job that may be destroyed.**  Whatever the program is, as long as its pipes are just pipes
to it, and in whatever order the program works, time passes, bytes are read, somebody waits, gives up or is told
the exit code, it is asked for the job to be destroyed, and the abort takes effect: what becomes of it is what
`Outcome` says. -/
theorem reaches_outcome {worker : τ} (hconnected : ∀ stream, (Program.pipe worker stream).connected = true)
    (h : Reaches (start worker) a) : a.Outcome := by
  have hsettled := h.settled (settled_start hconnected)
  refine ⟨fun b c haborts hreaches => ?_, fun r hresult b hreaches => ?_, ⟨fun htold => ?_, fun hended => ?_⟩,
    fun code => hsettled.exitCode_eq_some_iff, fun code htold b hreaches => ?_⟩
  · have hc := hreaches.settled (hsettled.step (.abort haborts))
    have hstopped := (hsettled.stopped haborts).reaches hreaches
    have hfate := Job.fate?_eq_aborted_iff.2 ⟨hc.aborted hstopped.isAborted, hstopped.isAborted⟩
    refine ⟨hstopped, Job.tick_of_isAborted hstopped.isAborted, fun stream limit fuel count => ?_, fun r hfirst => ?_⟩
    · exact Job.read_of_closed (hc.closed (by rw [hfate]; nofun) stream) limit fuel count
    · obtain ⟨f, hf, rfl⟩ := hc.head?_eq hfirst
      cases hfate.symm.trans hf
      rfl
  · have hfate := hreaches.fate?_eq (Job.fate?_eq_returned_iff.2 hresult)
    have hb := hreaches.settled hsettled
    have hresult' := Job.fate?_eq_returned_iff.1 hfate
    refine ⟨hresult', ?_, fun r' hfirst => ?_⟩
    · by_contra haborted
      cases hresult'.symm.trans (hb.aborted (Bool.not_eq_false _ ▸ haborted))
    · obtain ⟨f, hf, rfl⟩ := hb.head?_eq hfirst
      cases hfate.symm.trans hf
      rfl
  · obtain ⟨-, -, hnone⟩ | ⟨-, f, -, hfate, -, -⟩ := hsettled.replies
    · exact absurd hnone htold
    · cases f with
      | returned r => exact .inl (Option.isSome_iff_exists.2 ⟨r, Job.fate?_eq_returned_iff.1 hfate⟩)
      | aborted => exact .inr (Job.fate?_eq_aborted_iff.1 hfate).2
  · refine Job.resolve?_isSome fun hrunning => ?_
    obtain ⟨hresult, haborted⟩ := Job.fate?_eq_none_iff.1 hrunning
    rw [hresult, haborted] at hended
    cases hended <;> contradiction
  · obtain ⟨hcode, hreplies⟩ := hreaches.code hsettled (hsettled.exitCode_eq_some_iff.2 htold)
    exact ⟨hcode, by rw [Job.resolve?, hcode], hreplies⟩

/-- A command that has more output than fits into its pipe is destroyed by somebody who waited for it, gave up and
waits again.  What has fitted can be read. -/
theorem reaches_outcome_full_pipe :
    let worker : Worker (Recorder Replies) :=
      .start (.fresh ⟨[.ok (Replies.document Soap.shellUri "ShellId" "S"),
          .ok (Replies.document Soap.shellUri "CommandId" "C"),
          .ok ⟨⟨some Soap.shellUri, "Stream", [("Name", "stdout")], "AQID", []⟩, ""⟩]⟩) none
        (.ofCapacity 2) (.ofCapacity 2) (.unopened "http://host/wsman") (.execute "dir")
    ∃ a b c, Reaches (start worker) a ∧ a.Aborts b ∧ Reaches b c ∧
      c.replies = [.error .destroyed, .error .destroyed] ∧ c.job.exitCode = none ∧
      c.job.worker.connector.record.map Exchange.request =
        [.create, .command "S" "dir", .receive "S" "C"] ∧
      (c.job.read .stdout 0 1 3).1 = [1, 2] ∧ (c.job.read .stdout 0 1 3).2.1 = .ended := by
  intro worker
  have hconnected : ∀ stream, (Program.pipe worker stream).connected = true := by
    intro stream
    cases stream <;> cbv
  let a : Handle (Worker (Recorder Replies)) := ask { (start worker).waited 0 9 with isWaiting := false }
  let b : Handle (Worker (Recorder Replies)) := { a with job := a.job.destroy }
  let c : Handle (Worker (Recorder Replies)) := (b.waited 0 1).waited 0 1
  have hreached : Reaches (start worker) a :=
    ((reaches_wait 0 9 (start worker)).tail (.giveUp _)).tail (.ask _)
  have haborts : a.Aborts b := ⟨by cbv, by cbv, rfl⟩
  have hreaches : Reaches b c := (reaches_wait 0 1 b).trans (reaches_wait 0 1 _)
  obtain ⟨hstopped, -, hread, -⟩ := (reaches_outcome hconnected hreached).aborted b c haborts hreaches
  have hpipe : (Program.pipe c.job.worker .stdout).buffer = [1, 2] := by cbv
  refine ⟨a, b, c, hreached, haborts, hreaches, by cbv, by cbv, ?_, ?_, ?_⟩
  · rw [hstopped.apart (fun w => w.connector.record.map Exchange.request) (fun w p stream => by cases stream <;> rfl)]
    cbv
  · rw [hread, hpipe]
    rfl
  · rw [hread, hpipe]
    rfl

end Handle

end RemoteShell
