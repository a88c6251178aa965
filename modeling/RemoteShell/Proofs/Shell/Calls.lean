import Mathlib
import RemoteShell.Proofs.Shell.Lifecycle

/-!
# One call after the other

Between calls a session is at one of six stages.  `Stage.Step` lists the ways from one stage to the next
one, to the end and into failure, and `Session.Knows` says what the session knows at each of them.

`Calls` is a log of calls that have returned, each with its result.  By `calls_lifecycle` such a log never
leads backwards, and there is an exit code if and only if the log has it as the result of a call that
receives output; from then on it stays.  A call that comes at the wrong stage is refused before anything
happens.

What one call can do to the stage and the exit code is `Yields`.  `Serving` carries it through the call:
every way to go on keeps it (`Serving.next`), next to the `Lifecycle` of the session.
-/

namespace RemoteShell.Shell

open Soap (Request)
open Xml (Document)

variable {σ : Type} {endpoint : String} {record : List Exchange}

/-! ## Stages -/

/-- The ways from one stage to another. -/
inductive Stage.Step : Stage → Stage → Prop
  | opened : Step .unopened .shellOpen
  | started : Step .shellOpen .commandRunning
  | received : Step .commandRunning .commandDone
  | closed {a : Stage} (h : a = .shellOpen ∨ a = .commandRunning ∨ a = .commandDone) : Step a .closed
  | failed {a : Stage} (h : a = .unopened ∨ a = .shellOpen ∨ a = .commandRunning) : Step a .failed

/-- Any number of ways, one after the other. -/
abbrev Stage.Leads : Stage → Stage → Prop :=
  Relation.ReflTransGen Stage.Step

/-- A closed shell stays closed, and a failed one stays failed. -/
theorem Stage.Leads.eq_of_over {a b : Stage} (h : a.Leads b) (hover : a = .closed ∨ a = .failed) :
    b = a := by
  induction h with
  | refl => rfl
  | tail _ hstep ih =>
    subst ih
    rcases hover with rfl | rfl <;> cases hstep <;> simp_all

/-- What a session knows at each stage. -/
def Session.Knows (s : Session) : Prop :=
  match s.stage with
  | .unopened => s.shellId = none ∧ s.commandId = none ∧ s.exitCode = none
  | .shellOpen => s.shellId.isSome ∧ s.commandId = none ∧ s.exitCode = none
  | .commandRunning => s.shellId.isSome ∧ s.commandId.isSome ∧ s.exitCode = none
  | .commandDone => s.shellId.isSome ∧ s.commandId.isSome ∧ s.exitCode.isSome
  | .closed => s.shellId = none
  | .failed => s.exitCode = none

/-- **What a session knows fits its stage**, all its life. -/
theorem Lifecycle.knows {s : Session} (h : Lifecycle endpoint record s) : s.Knows := by
  induction h with
  | unopened => exact ⟨rfl, rfl, rfl⟩
  | opened _ hstage _ _ ih =>
    rw [Session.Knows, hstage] at ih
    exact ⟨rfl, ih.2⟩
  | openFailed _ hstage _ _ ih =>
    rw [Session.Knows, hstage] at ih
    exact ih.2.2
  | started _ hstage hshell _ _ ih =>
    rw [Session.Knows, hstage] at ih
    exact ⟨ih.1, rfl, ih.2.2⟩
  | startFailed _ hstage _ _ _ ih =>
    rw [Session.Knows, hstage] at ih
    exact ih.2.2
  | polled _ _ _ _ _ ih => exact ih
  | received code _ hstage ih =>
    rw [Session.Knows, hstage] at ih
    exact ⟨ih.1, ih.2.1, rfl⟩
  | receiveFailed _ hstage ih =>
    rw [Session.Knows, hstage] at ih
    exact ih.2.2
  | signalled _ _ _ _ ih => exact ih
  | @closed _ s _ _ _ _ _ ih =>
    by_cases hfailed : s.stage = .failed
    · rw [Session.Knows, hfailed] at ih
      rw [Session.Knows, if_pos hfailed]
      exact ih
    · rw [Session.Knows, if_neg hfailed]

/-- A session that knows its shell can be closed, or has failed. -/
theorem Lifecycle.closable {s : Session} {shell : String} (h : Lifecycle endpoint record s)
    (hshell : s.shellId = some shell) :
    s.stage = .failed ∨ s.stage = .shellOpen ∨ s.stage = .commandRunning ∨ s.stage = .commandDone := by
  have hknows := h.knows
  rw [Session.Knows] at hknows
  cases hstage : s.stage with
  | unopened =>
    rw [hstage] at hknows
    rw [hknows.1] at hshell
    cases hshell
  | closed =>
    rw [hstage] at hknows
    rw [hknows] at hshell
    cases hshell
  | shellOpen => exact .inr (.inl rfl)
  | commandRunning => exact .inr (.inr (.inl rfl))
  | commandDone => exact .inr (.inr (.inr rfl))
  | failed => exact .inl rfl

/-! ## What a call can do -/

/-- Whether a call receives the output of a command. -/
def Call.receives : Call → Bool
  | .receive => true
  | .execute _ => true
  | _ => false

/-- What becomes of the exit code: a call that receives finds it out, or it stays as it is. -/
inductive Bears (call : Call) (before : Option Int) : Option Int → Result → Prop
  | found {n : Int} (receives : call.receives = true) (fresh : before = none) :
      Bears call before (some n) (.ok (.code n))
  | kept {r : Result} (none_found : ∀ n, r ≠ .ok (.code n)) : Bears call before before r

/-- What a call with this result can make of a session. -/
structure Yields (call : Call) (before after : Session) (r : Result) : Prop where
  stage : before.stage.Leads after.stage
  code : Bears call before.exitCode after.exitCode r

/-- The plans that a call has before its result is known. -/
inductive Call.Drives (call : Call) : Plan → Prop
  | single : Drives call .single
  | execute (line : String) (receives : call.receives = true) : Drives call (.execute line)

/-- Whether an activity belongs to the cleanup. -/
def Activity.ends : Activity → Bool
  | .signalling .. => true
  | .closing _ => true
  | _ => false

/-- A call on the way.  The exit code is as it was until the result is known. -/
inductive Serving (call : Call) (before : Session) : Progress → Prop
  | underway {work : Work} (plan : call.Drives work.plan)
      (stage : before.stage.Leads work.session.stage) (code : work.session.exitCode = before.exitCode)
      (receives : work.isReceiving = true → call.receives = true) : Serving call before (.busy work)
  | ending {s : Session} {r : Result} {activity : Activity} (ends : activity.ends = true)
      (yields : Yields call before s r) : Serving call before (.busy ⟨s, .cleanup r, activity⟩)
  | finished {s : Session} {r : Result} (yields : Yields call before s r) :
      Serving call before (.finished s r)

section Serving

variable {call : Call} {before s : Session} {plan : Plan} {r : Result}

/-- A result that is not an exit code leaves the exit code as it is. -/
theorem Yields.of_kept (hstage : before.stage.Leads s.stage) (hcode : s.exitCode = before.exitCode)
    (hr : ∀ n, r ≠ .ok (.code n)) : Yields call before s r :=
  ⟨hstage, hcode ▸ .kept hr⟩

theorem Yields.of_error (e : Failure) (hstage : before.stage.Leads s.stage)
    (hcode : s.exitCode = before.exitCode) : Yields call before s (.error e) :=
  .of_kept hstage hcode fun _ hn => by cases hn

theorem Yields.of_nothing (hstage : before.stage.Leads s.stage) (hcode : s.exitCode = before.exitCode) :
    Yields call before s (.ok .nothing) :=
  .of_kept hstage hcode fun _ hn => by cases hn

theorem Yields.of_id {id : String} (hstage : before.stage.Leads s.stage)
    (hcode : s.exitCode = before.exitCode) : Yields call before s (.ok (.id id)) :=
  .of_kept hstage hcode fun _ hn => by cases hn

/-- A call that waits for an answer, and not for output. -/
theorem Serving.asking {work : Work} (hplan : call.Drives work.plan)
    (hstage : before.stage.Leads work.session.stage) (hcode : work.session.exitCode = before.exitCode)
    (hreceives : work.isReceiving = false) : Serving call before (.busy work) :=
  .underway hplan hstage hcode fun hreceives' => absurd (hreceives.symm.trans hreceives') Bool.false_ne_true

theorem Yields.beginClose (h : Yields call before s r) :
    Serving call before (s.beginClose (.cleanup r) r) := by
  rw [Session.beginClose]
  split
  · exact .finished h
  · exact .ending rfl ⟨h.stage, h.code⟩

theorem Yields.conclude (h : Yields call before s r) (plan : Plan) :
    Serving call before (s.conclude plan r) := by
  cases plan with
  | single => exact .finished h
  | cleanup _ => exact .finished h
  | execute line =>
    rw [Session.conclude, Session.beginCleanup]
    split
    · exact .ending rfl h
    · exact h.beginClose

variable (hstage : before.stage.Leads s.stage) (hcode : s.exitCode = before.exitCode)
include hstage hcode

theorem serving_beginOpen (hplan : call.Drives plan) : Serving call before (s.beginOpen plan) := by
  rw [Session.beginOpen]
  split
  · exact .finished (.of_error _ hstage hcode)
  · exact .asking hplan hstage hcode rfl

theorem serving_beginRun (hplan : call.Drives plan) (line : String) :
    Serving call before (s.beginRun plan line) := by
  rw [Session.beginRun]
  split
  · exact Yields.conclude (.of_error _ hstage hcode) plan
  · split
    · exact Yields.conclude (.of_error _ hstage hcode) plan
    · exact .asking hplan hstage hcode rfl

theorem serving_beginReceive (hplan : call.Drives plan) (hreceives : call.receives = true) :
    Serving call before (s.beginReceive plan) := by
  unfold Session.beginReceive
  simp only
  split
  · exact Yields.conclude (.of_error _ hstage hcode) plan
  · exact .underway hplan hstage hcode fun _ => hreceives

end Serving

/-- **What a call begins with.** -/
theorem serving_begin (call : Call) (s : Session) : Serving call s (s.begin call) := by
  cases call with
  | «open» => exact serving_beginOpen .refl rfl .single
  | run line => exact serving_beginRun .refl rfl .single line
  | receive => exact serving_beginReceive .refl rfl .single rfl
  | execute line => exact serving_beginOpen .refl rfl (.execute line rfl)
  | signal =>
    rw [Session.begin]
    split
    · exact .asking .single .refl rfl rfl
    · exact .finished (.of_nothing .refl rfl)
  | close =>
    rw [Session.begin, Session.beginClose]
    split
    · exact .finished (.of_nothing .refl rfl)
    · exact .asking .single .refl rfl rfl

section Next

variable {call : Call} {before s : Session} {plan : Plan} {p : Polling}

/-- The shell has been opened, or could not be. -/
theorem serving_opened (answer : Except Failure Document) (hplan : call.Drives plan)
    (hleads : before.stage.Leads s.stage) (hstage : s.stage = .unopened)
    (hcode : s.exitCode = before.exitCode) :
    Serving call before ((⟨s, plan, .opening⟩ : Work).answered answer) := by
  simp only [Work.answered]
  split
  · exact .finished (.of_error _ (hleads.tail (.failed (.inl hstage))) hcode)
  · have hopened := hleads.tail (hstage ▸ Stage.Step.opened)
    cases hplan with
    | single => exact .finished (.of_id hopened hcode)
    | execute line hreceives =>
      exact serving_beginRun (s := { s with shellId := _, stage := .shellOpen }) hopened hcode
        (.execute line hreceives) line

/-- The command has been started, or could not be. -/
theorem serving_started {shell line : String} (answer : Except Failure Document)
    (hplan : call.Drives plan) (hleads : before.stage.Leads s.stage) (hstage : s.stage = .shellOpen)
    (hcode : s.exitCode = before.exitCode) :
    Serving call before ((⟨s, plan, .starting shell line⟩ : Work).answered answer) := by
  simp only [Work.answered]
  split
  · have hfailed : before.stage.Leads s.fail.stage := hleads.tail (.failed (.inr (.inl hstage)))
    exact Yields.conclude (.of_error _ hfailed hcode) plan
  · have hstarted := hleads.tail (hstage ▸ Stage.Step.started)
    cases hplan with
    | single => exact .finished (.of_id hstarted hcode)
    | execute line hreceives => exact serving_beginReceive hstarted hcode (.execute line hreceives) hreceives

theorem serving_failReceiving (activity : Activity) (e : Failure)
    (hleads : before.stage.Leads s.stage) (hstage : s.stage = .commandRunning)
    (hcode : s.exitCode = before.exitCode) :
    Serving call before ((⟨s, plan, activity⟩ : Work).failReceiving e) := by
  have hfailed : before.stage.Leads s.fail.stage :=
    hleads.tail (.failed (.inr (.inr hstage)))
  exact Yields.conclude (.of_error _ hfailed hcode) plan

theorem serving_beginWriting (activity : Activity) (d : Document) (stream : Stream)
    (hplan : call.Drives plan) (hreceives : call.receives = true)
    (hleads : before.stage.Leads s.stage) (hstage : s.stage = .commandRunning)
    (hcode : s.exitCode = before.exitCode) :
    Serving call before ((⟨s, plan, activity⟩ : Work).beginWriting p d stream) := by
  rw [Work.beginWriting]
  split
  · exact serving_failReceiving activity _ hleads hstage hcode
  · exact .underway hplan hleads hcode fun _ => hreceives

/-- When an answer has been written, the exit code is known, or receiving has failed, or it goes on. -/
theorem serving_finishAnswer (activity : Activity) (d : Document) (hplan : call.Drives plan)
    (hreceives : call.receives = true) (hleads : before.stage.Leads s.stage)
    (hstage : s.stage = .commandRunning) (hfresh : s.exitCode = none)
    (hcode : s.exitCode = before.exitCode) :
    Serving call before ((⟨s, plan, activity⟩ : Work).finishAnswer p d) := by
  obtain ⟨e, hend⟩ | ⟨n, hend⟩ | ⟨early, hend⟩ := Work.finishAnswer_cases ⟨s, plan, activity⟩ p d <;>
    rw [hend]
  · exact serving_failReceiving activity e hleads hstage hcode
  · have hdone : before.stage.Leads .commandDone := hleads.tail (hstage ▸ .received)
    exact Yields.conclude (s := { s with stage := .commandDone, exitCode := some n })
      ⟨hdone, .found hreceives (hcode.symm.trans hfresh)⟩ plan
  · exact .underway hplan hleads hcode fun _ => hreceives

/-- Deleting the shell leads to the end, unless the session has failed. -/
theorem Lifecycle.yields_closed {shell : String} {r : Result} (h : Lifecycle endpoint record s)
    (hshell : s.shellId = some shell) (hyields : Yields call before s r) :
    Yields call before (if s.stage = .failed then { s with shellId := none }
      else { s with shellId := none, stage := .closed }) r := by
  split
  · exact ⟨hyields.stage, hyields.code⟩
  · rename_i hfailed
    exact ⟨hyields.stage.tail (.closed ((h.closable hshell).resolve_left hfailed)), hyields.code⟩

/-- **Every way for a call to go on** leads on from stage to stage, and finds out the exit code at the end
of receiving only. -/
theorem Serving.next {work : Work} {q : Progress} (hlife : Ongoing endpoint record (.busy work))
    (h : Serving call before (.busy work)) (hnext : Progress.Next record work q) :
    Serving call before q := by
  generalize hbusy : Progress.busy work = b at hlife
  cases hlife with
  | finished => cases hbusy
  | @opening _ s _ plan hbefore hstage hrequest =>
    obtain rfl := Progress.busy.inj hbusy
    obtain ⟨x, delay, answer, -, -, rfl⟩ := hnext.eq_answered rfl rfl
    cases h with
    | ending hends => cases hends
    | underway hplan hleads hcode _ => exact serving_opened answer hplan hleads hstage hcode
  | @starting _ s _ _ _ plan hbefore hstage hshell hrequest =>
    obtain rfl := Progress.busy.inj hbusy
    obtain ⟨x, delay, answer, -, -, rfl⟩ := hnext.eq_answered rfl rfl
    cases h with
    | ending hends => cases hends
    | underway hplan hleads hcode _ => exact serving_started answer hplan hleads hstage hcode
  | polling plan hbefore hstage hids =>
    obtain rfl := Progress.busy.inj hbusy
    cases h with
    | ending hends => cases hends
    | underway hplan hleads hcode hreceives =>
      cases hnext with
      | @answered _ _ answer _ _ _ =>
        cases answer with
        | error e => exact serving_failReceiving _ e hleads hstage hcode
        | ok d => exact serving_beginWriting _ d .stdout hplan (hreceives rfl) hleads hstage hcode
      | written hdemand => cases hdemand
      | expired after _ => exact serving_failReceiving _ _ hleads hstage hcode
  | writing plan d stream bytes hbefore hstage hids =>
    obtain rfl := Progress.busy.inj hbusy
    cases h with
    | ending hends => cases hends
    | underway hplan hleads hcode hreceives =>
      cases hnext with
      | answered hdemand _ _ => cases hdemand
      | written _ =>
        cases stream with
        | stdout => exact serving_beginWriting _ d .stderr hplan (hreceives rfl) hleads hstage hcode
        | stderr =>
          have hknows := hbefore.knows
          rw [Session.Knows, hstage] at hknows
          exact serving_finishAnswer _ d hplan (hreceives rfl) hleads hstage hknows.2.2 hcode
      | expired after _ => exact serving_failReceiving _ _ hleads hstage hcode
  | signalling plan hbefore hshell hcommand hrequest =>
    obtain rfl := Progress.busy.inj hbusy
    obtain ⟨x, delay, answer, -, -, rfl⟩ := hnext.eq_answered rfl rfl
    cases h with
    | ending _ hyields => exact hyields.beginClose
    | underway hplan hleads hcode _ =>
      cases hplan <;> exact .finished (.of_nothing hleads hcode)
  | closing plan hbefore hshell hrequest =>
    obtain rfl := Progress.busy.inj hbusy
    obtain ⟨x, delay, answer, -, -, rfl⟩ := hnext.eq_answered rfl rfl
    cases h with
    | ending _ hyields => exact .finished (hbefore.yields_closed hshell ⟨hyields.stage, hyields.code⟩)
    | underway hplan hleads hcode _ =>
      have hyields : Yields call before _ (.ok .nothing) := .of_nothing hleads hcode
      have hclosed := hbefore.yields_closed hshell ⟨hyields.stage, hyields.code⟩
      cases hplan <;> exact .finished hclosed

end Next

/-! ## Logs -/

/-- Calls that were made one after the other and have returned, each with its result. -/
inductive Calls [Connector σ] (c₀ : Recorder σ) (s₀ : Session) :
    List (Call × Result) → Recorder σ → Session → Prop
  | nil : Calls c₀ s₀ [] c₀ s₀
  | call {log : List (Call × Result)} {c : Recorder σ} {w : Worker (Recorder σ)} {s s' : Session}
      {r : Result} (before : Calls c₀ s₀ log c s) (deadline : Option Duration) (stdout stderr : Pipe)
      (call : Call) (reached : (Worker.start c deadline stdout stderr s call).Reaches w)
      (returned : w.doing = .finished s' r) : Calls c₀ s₀ (log ++ [(call, r)]) w.connector s'

section Calls

variable [Connector σ] {c₀ c c' : Recorder σ} {s₀ s s' : Session} {log log' : List (Call × Result)}

/-- **What one call makes of a session.** -/
theorem Lifecycle.call {w : Worker (Recorder σ)} {deadline : Option Duration} {stdout stderr : Pipe}
    {call : Call} {r : Result} (h : Lifecycle endpoint c.record s)
    (hreached : (Worker.start c deadline stdout stderr s call).Reaches w)
    (hreturned : w.doing = .finished s' r) :
    Lifecycle endpoint w.connector.record s' ∧ Yields call s s' r := by
  obtain ⟨hcoherent, hprogress, hextends⟩ := Worker.start_coherent c deadline stdout stderr s call
  have hbegun := h.begin call hextends
  have hserving := serving_begin call s
  rw [← hprogress] at hbegun hserving
  obtain ⟨-, hongoing, hserved⟩ := hreached.invariant
    (P := fun record p => Ongoing endpoint record p ∧ Serving call s p)
    (fun hkept hnext hextends => ⟨hkept.1.next hnext hextends, Serving.next hkept.1 hkept.2 hnext⟩)
    hcoherent ⟨hbegun, hserving⟩
  have hfinished : w.progress = .finished s' r := by rw [Worker.progress, hreturned]
  rw [hfinished] at hongoing hserved
  cases hserved with
  | finished hyields => exact ⟨hongoing.lifecycle, hyields⟩

/-- Whatever is called, the shell lives its life. -/
theorem Calls.lifecycle (h : Calls c₀ s₀ log c s) (h₀ : Lifecycle endpoint c₀.record s₀) :
    Lifecycle endpoint c.record s := by
  induction h with
  | nil => exact h₀
  | call _ deadline stdout stderr call hreached hreturned ih =>
    exact (ih.call hreached hreturned).1

/-- **Calls lead on**, from stage to stage. -/
theorem Calls.leads (h : Calls c₀ s₀ log c s) (h₀ : Lifecycle endpoint c₀.record s₀) :
    s₀.stage.Leads s.stage := by
  induction h with
  | nil => exact .refl
  | call hbefore deadline stdout stderr call hreached hreturned ih =>
    exact ih.trans ((hbefore.lifecycle h₀).call hreached hreturned).2.stage

/-- **An exit code** is there if and only if it was there before, or a call that receives has returned
it. -/
theorem Calls.exitCode_eq_some_iff {n : Int} (h : Calls c₀ s₀ log c s)
    (h₀ : Lifecycle endpoint c₀.record s₀) :
    s.exitCode = some n ↔ s₀.exitCode = some n ∨
      ∃ call, call.receives = true ∧ (call, .ok (.code n)) ∈ log := by
  induction h with
  | nil => simp
  | @call log c w s s' r hbefore deadline stdout stderr call hreached hreturned ih =>
    obtain ⟨-, -, hcode⟩ := (hbefore.lifecycle h₀).call hreached hreturned
    generalize s.exitCode = old at hcode ih
    generalize s'.exitCode = new at hcode
    cases hcode with
    | kept hr =>
      have hmem : ∀ call', (call', Except.ok (Returned.code n)) ∈ log ++ [(call, r)] ↔
          (call', Except.ok (Returned.code n)) ∈ log := by
        intro call'
        rw [List.mem_append, List.mem_singleton, or_iff_left]
        intro hsame
        exact hr n (Prod.mk.inj hsame).2.symm
      simp only [ih, hmem]
    | @found m hreceives hfresh =>
      subst hfresh
      constructor
      · intro hsame
        obtain rfl := Option.some.inj hsame
        exact .inr ⟨call, hreceives, List.mem_append_right log (List.mem_singleton_self _)⟩
      · -- the exit code is found out once
        rintro (hbefore | ⟨call', hreceives', hmem⟩)
        · cases ih.2 (.inl hbefore)
        · rcases List.mem_append.1 hmem with hmem | hmem
          · cases ih.2 (.inr ⟨call', hreceives', hmem⟩)
          · cases List.mem_singleton.1 hmem
            rfl

end Calls

/-! ## Calls at the wrong stage -/

/-- The stage at which a call is accepted, and what it is called in a refusal. -/
def Call.accepted? : Call → Option (Stage × String)
  | .open => some (.unopened, "open a shell")
  | .execute _ => some (.unopened, "open a shell")
  | .run _ => some (.shellOpen, "run a command")
  | .receive => some (.commandRunning, "receive output")
  | .signal => none
  | .close => none

/-- **A call at the wrong stage is refused.** -/
theorem begin_of_ne_accepted {call : Call} {s : Session} {stage : Stage} {operation : String}
    (haccepted : call.accepted? = some (stage, operation)) (hstage : s.stage ≠ stage) :
    s.begin call = .finished s
      (.error (.unsupported ("cannot " ++ operation ++ " while the shell is " ++ s.stage.name))) := by
  cases call with
  | signal => cases haccepted
  | close => cases haccepted
  | «open» | execute =>
    obtain ⟨rfl, rfl⟩ := Prod.mk.inj (Option.some.inj haccepted)
    rw [Session.begin, Session.beginOpen, Session.expect, if_neg hstage]
  | run line =>
    obtain ⟨rfl, rfl⟩ := Prod.mk.inj (Option.some.inj haccepted)
    rw [Session.begin, Session.beginRun, Session.expect, if_neg hstage]
    rfl
  | receive =>
    obtain ⟨rfl, rfl⟩ := Prod.mk.inj (Option.some.inj haccepted)
    rw [Session.begin, Session.beginReceive, Session.expect, if_neg hstage]
    rfl

/-! ## Main result -/

/-- A session has an exit code if it remembers one. -/
theorem exitCodeOr_eq_ok_iff {s : Session} {n : Int} : s.exitCodeOr = .ok n ↔ s.exitCode = some n := by
  rw [Session.exitCodeOr]
  cases s.exitCode <;> simp

/-- **The life of a shell, call after call.**  After any calls, whatever the connector answers:

* what the session knows fits its stage;
* there is an exit code if and only if a call that receives has returned it;
* more calls lead on from stage to stage, never away from a closed or failed shell, and an exit code stays
  as it is;
* a call at a stage at which it is not accepted returns at once: it is refused, nothing is sent, nothing is
  written, and the session is as it was. -/
theorem calls_lifecycle [Connector σ] {connector : σ} {log : List (Call × Result)} {c : Recorder σ}
    {s : Session} (h : Calls (.fresh connector) (.unopened endpoint) log c s) :
    s.Knows ∧
      (∀ n, s.exitCodeOr = .ok n ↔ ∃ call, call.receives = true ∧ (call, .ok (.code n)) ∈ log) ∧
      (∀ log' c' s', Calls c s log' c' s' → s.stage.Leads s'.stage ∧
        (s.stage = .closed ∨ s.stage = .failed → s'.stage = s.stage) ∧
        ∀ n, s.exitCodeOr = .ok n → s'.exitCodeOr = .ok n) ∧
      ∀ call stage operation, call.accepted? = some (stage, operation) → s.stage ≠ stage →
        ∀ deadline stdout stderr, Worker.start c deadline stdout stderr s call =
          ⟨c, deadline, none, stdout, stderr, 0, .finished s (.error (.unsupported
            ("cannot " ++ operation ++ " while the shell is " ++ s.stage.name)))⟩ := by
  have hlife : Lifecycle endpoint c.record s := h.lifecycle .unopened
  refine ⟨hlife.knows, ?_, ?_, ?_⟩
  · intro n
    rw [exitCodeOr_eq_ok_iff, h.exitCode_eq_some_iff .unopened]
    exact or_iff_right (Option.some_ne_none n).symm
  · intro log' c' s' hmore
    have hleads := hmore.leads hlife
    refine ⟨hleads, hleads.eq_of_over, ?_⟩
    intro n hn
    rw [exitCodeOr_eq_ok_iff] at hn ⊢
    exact (hmore.exitCode_eq_some_iff hlife).2 (.inl hn)
  · intro call stage operation haccepted hstage deadline stdout stderr
    rw [Worker.start, begin_of_ne_accepted haccepted hstage]
    rfl

/-- A command that is run too early, and then the whole way. -/
theorem calls_lifecycle_closed : ∃ (c : Recorder Replies) (s : Session),
    Calls (.fresh ⟨[.ok (Replies.document Soap.shellUri "ShellId" "S"),
        .ok (Replies.document Soap.shellUri "CommandId" "C"),
        .ok ⟨⟨some Soap.shellUri, "CommandState", [("State", Soap.commandDone)], "",
          [⟨some Soap.shellUri, "ExitCode", [], "7", []⟩]⟩, ""⟩]⟩) (.unopened "http://host/wsman")
      [(.run "dir", .error (.unsupported "cannot run a command while the shell is Unopened")),
        (.execute "dir", .ok (.code 7))] c s ∧
    s.stage = .closed ∧ s.shellId = none ∧ s.exitCodeOr = .ok 7 ∧
      ∀ log' c' s', Calls c s log' c' s' → s'.stage = .closed ∧ s'.exitCodeOr = .ok 7 := by
  let c₀ : Recorder Replies := .fresh ⟨[.ok (Replies.document Soap.shellUri "ShellId" "S"),
    .ok (Replies.document Soap.shellUri "CommandId" "C"),
    .ok ⟨⟨some Soap.shellUri, "CommandState", [("State", Soap.commandDone)], "",
      [⟨some Soap.shellUri, "ExitCode", [], "7", []⟩]⟩, ""⟩]⟩
  let w : Worker (Recorder Replies) :=
    .start c₀ none .discarding .discarding (.unopened "http://host/wsman") (.execute "dir")
  have hearly : Calls c₀ (.unopened "http://host/wsman")
      [(.run "dir", .error (.unsupported "cannot run a command while the shell is Unopened"))] c₀
      (.unopened "http://host/wsman") :=
    .call .nil none .discarding .discarding (.run "dir") .refl rfl
  have hreturned : (w.advance 0 9).doing =
      .finished ⟨"http://host/wsman", .closed, none, some "C", some 7⟩ (.ok (.code 7)) := by cbv
  have hcalls := hearly.call none .discarding .discarding (.execute "dir") (Worker.reaches_advance 0 9 w)
    hreturned
  obtain ⟨hknows, -, hlater, -⟩ := calls_lifecycle hcalls
  refine ⟨_, _, hcalls, rfl, hknows, rfl, ?_⟩
  intro log' c' s' hmore
  obtain ⟨-, hover, hcode⟩ := hlater log' c' s' hmore
  exact ⟨hover (.inl rfl), hcode 7 rfl⟩

end RemoteShell.Shell
