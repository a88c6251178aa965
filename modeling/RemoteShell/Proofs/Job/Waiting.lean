import RemoteShell.Proofs.Job.Destroying

/-!
# Waiting for a job that nobody destroys

A job that nobody asks to be destroyed is never aborted (`Handle.Reaches.spared`), so its program alone decides how
it ends.  Whoever waits first is told the result of the program, also behind waits that were given up.  An exit code
is told again to everybody who asks; a failure is not.  Whoever waits behind a failure is told that the job was
destroyed, although nobody did that (`Handle.reaches_told`).
-/

namespace RemoteShell.Handle

open Shell (Worker Replies)

variable {τ : Type} [Program τ] {a b : Handle τ}

/-- Who has asked for a job to be destroyed cannot take it back. -/
theorem Step.isCondemned (h : Step a b) (hcondemned : a.isCondemned = true) : b.isCondemned = true := by
  cases h with
  | ask => rw [Handle.ask, hcondemned, Bool.true_or]
  | abort aborts => rw [aborts.eq, hcondemned]
  | _ => exact hcondemned

variable [LawfulProgram τ]

/-- A step of a job that nobody asks to be destroyed does not abort it. -/
theorem Step.spared (h : Step a b) (hspared : b.isCondemned = false) (hrunning : a.job.isAborted = false) :
    b.job.isAborted = false := by
  cases h with
  | work limit tick => exact (Job.tick_eq_some tick).2.1
  | resolve _ gives =>
    obtain ⟨-, -, -, rfl⟩ | ⟨-, -, -, rfl⟩ | ⟨-, -, -, -, -, rfl⟩ := Job.resolve?_eq_some gives <;> exact hrunning
  | abort aborts =>
    rw [aborts.eq, aborts.isCondemned] at hspared
    cases hspared
  | _ => exact hrunning

/-- **A job that nobody asks to be destroyed is not aborted.** -/
theorem Reaches.spared (h : Reaches a b) (hspared : b.isCondemned = false) (hrunning : a.job.isAborted = false) :
    b.job.isAborted = false := by
  induction h with
  | refl => exact hrunning
  | tail _ step ih =>
    -- a condemnation would still be there
    have hbefore := Bool.eq_false_iff.2 fun hcondemned => Bool.eq_false_iff.1 hspared (step.isCondemned hcondemned)
    exact step.spared hspared (ih hbefore)

/-- What those are told who wait for a job. -/
structure Told (a : Handle τ) : Prop where
  /-- The first one is told the result of the program. -/
  first : ∀ r, a.replies.head? = some r → Program.result? a.job.worker = some r
  /-- Behind an exit code everybody is told the exit code. -/
  code : ∀ c, a.replies.head? = some (.ok c) →
    (∀ r ∈ a.replies, r = .ok c) ∧ a.job.resolve? = some (.ok c, a.job)
  /-- Behind a failure everybody is told that the job was destroyed. -/
  failure : ∀ e, a.replies.head? = some (.error e) →
    (∀ r ∈ a.replies.tail, r = .error .destroyed) ∧ a.job.resolve? = some (.error .destroyed, a.job)
  /-- Nobody is told so otherwise, unless the program itself says it. -/
  destroyed : .error .destroyed ∈ a.replies ↔ ∃ e, a.replies.head? = some (.error e) ∧
    (e = .destroyed ∨ 2 ≤ a.replies.length)

omit [LawfulProgram τ] in
/-- What those are told who wait for a job whose program has ended by itself. -/
theorem Settled.told (h : a.Settled) (hrunning : a.job.isAborted = false) : a.Told := by
  obtain ⟨-, -, hreplies⟩ | ⟨hpending, f, n, hfate, hcode, hreplies⟩ := h.replies
  · have hhead : a.replies.head? = none := congrArg List.head? hreplies
    refine ⟨fun r hr => ?_, fun c hc => ?_, fun e he => ?_, iff_of_false ?_ ?_⟩
    · cases hhead.symm.trans hr
    · cases hhead.symm.trans hc
    · cases hhead.symm.trans he
    · rw [hreplies]
      exact List.not_mem_nil
    · rintro ⟨e, he, -⟩
      cases hhead.symm.trans he
  · cases f with
    | aborted => cases (Job.fate?_eq_aborted_iff.1 hfate).2.symm.trans hrunning
    | returned r =>
      have hresult := Job.fate?_eq_returned_iff.1 hfate
      have hhead : a.replies.head? = some r := congrArg List.head? hreplies
      have hagain : ∀ x ∈ List.replicate n (Job.Fate.returned r).again, x = (Job.Fate.returned r).again :=
        fun x hx => (List.mem_replicate.1 hx).2
      have hfirst : ∀ x, a.replies.head? = some x → Program.result? a.job.worker = some x := by
        intro x hx
        cases hhead.symm.trans hx
        exact hresult
      cases r with
      | ok c =>
        have hall : ∀ x ∈ a.replies, x = .ok c := by
          rw [hreplies]
          exact List.forall_mem_cons.2 ⟨rfl, hagain⟩
        refine ⟨hfirst, fun c' hc => ?_, fun e he => ?_, iff_of_false (fun hmem => ?_) ?_⟩
        · cases hhead.symm.trans hc
          exact ⟨hall, by rw [Job.resolve?, hcode]; rfl⟩
        · cases hhead.symm.trans he
        · cases hall _ hmem
        · rintro ⟨e, he, -⟩
          cases hhead.symm.trans he
      | error e =>
        refine ⟨hfirst, fun c hc => ?_, fun e' he => ?_, ?_⟩
        · cases hhead.symm.trans hc
        · refine ⟨by rw [hreplies]; exact hagain, ?_⟩
          have hnone : a.job.exitCode = none := hcode
          rw [Job.resolve?, hnone, hpending]
          rfl
        · rw [hreplies]
          simp only [Job.Fate.reply, Job.Fate.again, List.mem_cons, List.mem_replicate, List.head?_cons,
            List.length_cons, List.length_replicate, Option.some.injEq, Except.error.injEq, exists_eq_left']
          grind

/-- **Who waits for a job that nobody destroys.**  Whatever the program is, as long as its pipes are just pipes to it,
and in whatever order the program works, time passes, bytes are read and somebody waits, gives up or is told something:
if nobody has asked for the job to be destroyed before its result was taken, the job is not aborted, and those who wait
are told what `Told` says. -/
theorem reaches_told {worker : τ} (hconnected : ∀ stream, (Program.pipe worker stream).connected = true)
    (h : Reaches (start worker) a) (hspared : a.isCondemned = false) : a.job.isAborted = false ∧ a.Told := by
  have hbegin : (start worker).job.isAborted = false := by
    rw [start, Job.ofProgram, Job.settle_isAborted]
  have hrunning := h.spared hspared hbegin
  exact ⟨hrunning, (h.settled (settled_start hconnected)).told hrunning⟩

/-- Somebody waits for a command that has more output than fits into its pipe, gives up, reads, and waits again.  By
then polling has failed. -/
theorem reaches_told_given_up :
    let worker : Worker Replies :=
      .start ⟨[.ok (Replies.document Soap.shellUri "ShellId" "S"),
          .ok (Replies.document Soap.shellUri "CommandId" "C"),
          .ok ⟨⟨some Soap.shellUri, "Stream", [("Name", "stdout")], "AQID", []⟩, ""⟩]⟩ none
        (.ofCapacity 2) (.ofCapacity 2) (.unopened "http://host/wsman") (.execute "dir")
    ∃ a, Reaches (start worker) a ∧ a.isCondemned = false ∧ a.job.isAborted = false ∧
      a.replies = [.error (.phase .receive "http://host/wsman" .notFinished)] ∧
      a.job.resolve? = some (.error .destroyed, a.job) := by
  intro worker
  have hconnected : ∀ stream, (Program.pipe worker stream).connected = true := by
    intro stream
    cases stream <;> cbv
  let b : Handle (Worker Replies) := { (start worker).waited 0 9 with isWaiting := false }
  let a : Handle (Worker Replies) := (b.read .stdout 3).waited 0 9
  have hgivenUp : Reaches (start worker) b := (reaches_wait 0 9 (start worker)).tail (.giveUp _)
  have hreached : Reaches (start worker) a := (hgivenUp.tail (.read b .stdout 3)).trans (reaches_wait 0 9 _)
  have hspared : a.isCondemned = false := by cbv
  have hreplies : a.replies = [.error (.phase .receive "http://host/wsman" .notFinished)] := by cbv
  obtain ⟨hrunning, htold⟩ := reaches_told hconnected hreached hspared
  exact ⟨a, hreached, hspared, hrunning, hreplies, (htold.failure _ (congrArg List.head? hreplies)).2⟩

/-- A command that cannot be started is waited for twice, and nobody asks for it to be destroyed.  The second time
it is said to have been destroyed. -/
theorem destroyed_unasked :
    let worker : Worker Replies :=
      .start ⟨[.error .notFinished]⟩ none (.ofCapacity 65536) (.ofCapacity 65536) (.unopened "http://win-01:5985/wsman")
        (.execute "dir")
    ∃ a, Reaches (start worker) a ∧ a.isCondemned = false ∧ a.job.isAborted = false ∧
      a.replies = [.error (.phase .open "http://win-01:5985/wsman" .notFinished), .error .destroyed] := by
  intro worker
  refine ⟨((start worker).waited 0 9).waited 0 1, ?_, by cbv, by cbv, by cbv⟩
  exact (reaches_wait 0 9 (start worker)).trans (reaches_wait 0 1 _)

end RemoteShell.Handle
