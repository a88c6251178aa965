import RemoteShell.Proofs.Shell.Scene
import RemoteShell.Proofs.Shell.Teardown

/-!
# Cleanup does not matter

At its end a call of `execute` terminates the command and deletes the shell.  What these requests are
answered has no influence on what the caller gets.

The statement is about two runs.  Two connectors `Agree` when they make the same of every other request,
contents and time; a schedule (`Scene.Act`) says when the workers go on and what the readers do, so that
the two runs differ in nothing but the connectors.  Then they are `Alike` at every moment:

* at first both workers are the same but for what is behind their connectors;
* from the first request of the cleanup on, both are `Settled`: the requests to come, the session in the
  end and the result are fixed, and nothing more is written.
-/

namespace RemoteShell

open Soap (Request)

/-- Whether a request is for the work itself, and not for cleaning up. -/
def Soap.Request.works : Request → Bool
  | create => true
  | command .. => true
  | receive .. => true
  | signal .. => false
  | delete _ => false
  | identify => false

namespace Shell

open Xml (Document)

variable {σ τ : Type}

/-! ## Connectors that agree -/

/-- The connector after some requests. -/
def Connector.afterAll [Connector σ] (c : σ) (sent : List Request) : σ :=
  sent.foldl (fun c r => (Connector.send c r).2) c

/-- Two connectors make the same of every request for the work, as long as no other one is sent. -/
def Agree [Connector σ] [Connector τ] (c : σ) (d : τ) : Prop :=
  ∀ sent, (∀ q ∈ sent, q.works = true) → ∀ r, r.works = true →
    (Connector.send (Connector.afterAll c sent) r).1 = (Connector.send (Connector.afterAll d sent) r).1

/-- A connector answers every request for cleaning up, sooner or later, in some way. -/
def AnswersCleanup [Connector σ] (c : σ) : Prop :=
  ∀ sent r, r.works = false → (Connector.send (Connector.afterAll c sent) r).1 ≠ none

section Agree

variable [Connector σ] [Connector τ] {c : σ} {d : τ} {r : Request}

theorem Agree.reception (h : Agree c d) (hr : r.works = true) :
    (Connector.send c r).1 = (Connector.send d r).1 :=
  h [] (fun _ hq => absurd hq List.not_mem_nil) r hr

theorem Agree.send (h : Agree c d) (hr : r.works = true) :
    Agree (Connector.send c r).2 (Connector.send d r).2 := by
  intro sent hsent q hq
  refine h (r :: sent) ?_ q hq
  intro q' hq'
  rcases List.mem_cons.1 hq' with rfl | hq'
  · exact hr
  · exact hsent q' hq'

theorem AnswersCleanup.send (h : AnswersCleanup c) (r : Request) :
    AnswersCleanup (Connector.send c r).2 :=
  fun sent q hq => h (r :: sent) q hq

end Agree

/-! ## Settled calls -/

/-- The session when its shell has been deleted. -/
def Session.deleted (s : Session) : Session :=
  { s with shellId := none, stage := if s.stage = .failed then .failed else .closed }

/-- A call that cleans up behind some exchanges: all the requests of the cleanup, the session in the end
and the result are fixed. -/
inductive Settled (before : List Exchange) (requests : List Request) (final : Session) (r : Result) :
    List Exchange → Progress → Prop
  | signalling {x : Exchange} {s : Session} {shell command : String} (known : s.shellId = some shell)
      (deleted : s.deleted = final) (all : requests = [x.request, .delete shell]) :
      Settled before requests final r (before ++ [x]) (.busy ⟨s, .cleanup r, .signalling shell command⟩)
  | closing {sent : List Exchange} {s : Session} {shell : String} (forgotten : s.shellId = none)
      (deleted : s.deleted = final) (all : requests = sent.map Exchange.request) :
      Settled before requests final r (before ++ sent) (.busy ⟨s, .cleanup r, .closing shell⟩)
  | finished {sent : List Exchange} (all : requests = sent.map Exchange.request) :
      Settled before requests final r (before ++ sent) (.finished final r)

section Settled

variable {before record record' : List Exchange} {requests : List Request} {final : Session} {r : Result}
  {work : Work} {q : Progress}

/-- A settled call waits for an answer to a request of the cleanup. -/
theorem Settled.demand (h : Settled before requests final r record (.busy work)) :
    (∃ request, work.demand = .answer request ∧ request.works = false) ∧ work.isReceiving = false := by
  cases h with
  | signalling => exact ⟨⟨_, rfl, rfl⟩, rfl⟩
  | closing => exact ⟨⟨_, rfl, rfl⟩, rfl⟩

theorem Settled.eq_of_finished {s : Session} {r' : Result}
    (h : Settled before requests final r record (.finished s r')) :
    s = final ∧ r' = r ∧ record.map Exchange.request = before.map Exchange.request ++ requests := by
  cases h with
  | finished hall => exact ⟨rfl, rfl, by rw [List.map_append, hall]⟩

/-- **A settled call stays settled**, whatever it is answered. -/
theorem Settled.next (h : Settled before requests final r record (.busy work))
    (hnext : Progress.Next record work q) (hextends : q.Extends record record') :
    Settled before requests final r record' q := by
  cases h with
  | @signalling x s shell command hknown hdeleted hall =>
    obtain ⟨_, delay, answer, -, -, rfl⟩ := hnext.eq_answered rfl rfl
    simp only [Work.answered, Session.beginClose, hknown] at hextends ⊢
    obtain ⟨z, hz, rfl⟩ := hextends.eq_of_sent (r := .delete shell) rfl
    rw [List.append_assoc]
    refine .closing rfl hdeleted ?_
    rw [hall, ← hz]
    rfl
  | @closing sent s shell hforgotten hdeleted hall =>
    obtain ⟨_, delay, answer, -, -, rfl⟩ := hnext.eq_answered rfl rfl
    obtain rfl := hextends.eq_of_silent rfl
    have hfinal : (if s.stage = .failed then s else { s with stage := .closed }) = final := by
      rw [← hdeleted, Session.deleted]
      split
      · rename_i hfailed
        rw [← hfailed, ← hforgotten]
      · rw [← hforgotten]
    simp only [Work.answered, hfinal]
    exact .finished hall

end Settled

namespace Worker

/-- A worker whose call waits for an answer and receives no output waits for it without a deadline. -/
theorem Coherent.waits {w : Worker (Recorder σ)} {work : Work} {request : Request} (h : w.Coherent)
    (hbusy : w.progress = .busy work) (hdemand : work.demand = .answer request)
    (hreceiving : work.isReceiving = false) :
    w.expires = none ∧ ∃ reception, w.doing = .waiting work reception := by
  constructor
  · by_contra hexpires
    obtain ⟨work', hbusy', hreceives⟩ := h.expires hexpires
    obtain rfl : work = work' := Progress.busy.inj (hbusy.symm.trans hbusy')
    rw [hreceiving] at hreceives
    cases hreceives
  · rcases hdoing : w.doing with ⟨work', reception⟩ | ⟨work', stream, rest⟩ | ⟨s, r⟩ <;>
      rw [progress, hdoing] at hbusy
    · obtain rfl := Progress.busy.inj hbusy
      exact ⟨reception, rfl⟩
    · obtain rfl := Progress.busy.inj hbusy
      obtain ⟨bytes, hroom⟩ := h.writing hdoing
      rw [hdemand] at hroom
      cases hroom
    · cases hbusy

end Worker

section Settled

variable [Connector σ] {before : List Exchange} {requests : List Request} {final : Session} {r : Result}
  {w w' : Worker (Recorder σ)} {limit : Nat}

/-- A settled worker writes nothing. -/
theorem Settled.step (h : Settled before requests final r w.connector.record w.progress)
    (hw : w.Coherent) (hstep : w.step limit = some w') :
    Settled before requests final r w'.connector.record w'.progress ∧
      ∀ stream, w'.pipe stream = w.pipe stream := by
  obtain ⟨-, hfollows⟩ := Worker.step_next hw hstep
  rcases hprogress : w.progress with work | ⟨s, r'⟩
  · rw [hprogress] at h
    obtain ⟨⟨request, hdemand, hworks⟩, hreceiving⟩ := h.demand
    obtain ⟨hexpires, reception, hdoing⟩ := hw.waits hprogress hdemand hreceiving
    obtain ⟨due, answer, rfl, rfl⟩ := Worker.step_of_waiting hdoing hexpires hstep
    obtain ⟨hsame, hrecord⟩ | ⟨work', hbusy, hnext, hextends⟩ := hfollows
    · rw [hsame, hrecord, hprogress]
      refine ⟨h, ?_⟩
      rw [Worker.proceed_progress] at hsame
      rw [hsame, hprogress]
      exact Worker.pipe_proceed_of_answer _ hdemand
    · obtain rfl : work = work' := Progress.busy.inj (hprogress.symm.trans hbusy)
      have hsettled := h.next hnext hextends
      refine ⟨hsettled, ?_⟩
      rw [Worker.proceed_progress] at hsettled
      rcases hp : work.answered answer with work' | ⟨s, r'⟩
      · rw [hp] at hsettled
        obtain ⟨⟨request', hdemand', -⟩, -⟩ := hsettled.demand
        exact Worker.pipe_proceed_of_answer _ hdemand'
      · intro stream
        cases stream <;> rfl
  · rw [Worker.step_of_finished limit (Worker.progress_eq_finished_iff.1 hprogress)] at hstep
    cases hstep

/-- What a worker has sent for the cleanup is answered, and what it may still send will be. -/
structure Attended (w : Worker (Recorder σ)) : Prop where
  connector : AnswersCleanup w.connector.inner
  record : ∀ x ∈ w.connector.record, x.request.works = false → x.reception ≠ none

theorem Attended.proceed (h : Attended w) (p : Progress) : Attended (w.proceed p) := by
  cases p with
  | finished s r => exact ⟨h.connector, h.record⟩
  | busy work =>
    cases hdemand : work.demand with
    | room stream bytes =>
      rw [Worker.proceed_of_room w hdemand]
      exact ⟨by simpa using h.connector, by simpa using h.record⟩
    | answer request =>
      rw [Worker.proceed_of_answer w hdemand, Recorder.send_eq]
      refine ⟨h.connector.send request, ?_⟩
      intro x hx hworks
      rcases List.mem_append.1 hx with hx | hx
      · exact h.record x hx hworks
      · rw [List.mem_singleton.1 hx] at hworks ⊢
        exact h.connector [] request hworks

theorem Attended.step (h : Attended w) (hstep : w.step limit = some w') : Attended w' := by
  obtain ⟨u, p, hturn, rfl⟩ := Worker.step_eq_some_iff.1 hstep
  have hu : Attended u := by
    refine ⟨?_, ?_⟩ <;> rw [hturn.connector]
    · exact h.connector
    · exact h.record
  cases p with
  | none => exact hu
  | some p => exact hu.proceed p

/-- A settled worker goes on when the answer comes. -/
theorem Settled.exists_step {work : Work}
    (h : Settled before requests final r w.connector.record (.busy work)) (hw : w.Coherent)
    (hattended : Attended w) (hbusy : w.progress = .busy work) :
    ∃ due answer, ∀ limit, due ≤ limit → ∃ w', w.step limit = some w' ∧
      w'.progress = work.answered answer := by
  obtain ⟨⟨request, hdemand, hworks⟩, hreceiving⟩ := h.demand
  obtain ⟨hexpires, reception, hdoing⟩ := hw.waits hbusy hdemand hreceiving
  obtain ⟨x, hlast, hsent, hreception⟩ := hw.waiting hdoing
  obtain rfl : request = x.request := by injection hdemand.symm.trans hsent
  have hx : x ∈ w.connector.record := List.mem_of_getLast? hlast
  rcases reception with _ | ⟨due, answer⟩
  · have hnone : x.reception = none := Option.map_eq_none_iff.1 hreception.symm
    exact absurd hnone (hattended.record x hx hworks)
  · refine ⟨due, answer, fun limit hdue => ?_⟩
    have hturn : w.Turn limit { w with now := max w.now due } (some (work.answered answer)) :=
      .answered hdoing (by rw [hexpires]; rfl) hdue
    exact ⟨_, Worker.step_eq_some_iff.2 ⟨_, _, hturn, rfl⟩, Worker.proceed_progress _ _⟩

end Settled

section Settled

variable [Connector σ] {before : List Exchange} {requests : List Request} {final : Session} {r : Result}
  {a : Scene (Recorder σ)}

/-- The worker of a scene takes a step. -/
theorem act_work_of_step {w : Worker (Recorder σ)} {limit : Nat} (h : a.worker.step limit = some w) :
    a.act (.work limit) = { a with worker := w } := by
  rw [Scene.act, h, Option.getD_some]

theorem Settled.finishes_of_closing {s : Session} {shell : String}
    (h : Settled before requests final r a.worker.connector.record a.worker.progress)
    (hw : a.worker.Coherent) (hattended : Attended a.worker)
    (hbusy : a.worker.progress = .busy ⟨s, .cleanup r, .closing shell⟩) :
    ∃ limit, (a.act (.work limit)).worker.doing = .finished final r := by
  obtain ⟨due, answer, hsteps⟩ := (hbusy ▸ h).exists_step hw hattended hbusy
  obtain ⟨w', hstep, hprogress⟩ := hsteps due (Nat.le_refl due)
  refine ⟨due, ?_⟩
  rw [act_work_of_step hstep]
  obtain ⟨hsettled, -⟩ := h.step hw hstep
  rw [hprogress] at hsettled
  obtain ⟨s', hfinished⟩ : ∃ s', (⟨s, .cleanup r, .closing shell⟩ : Work).answered answer =
      .finished s' r := ⟨_, rfl⟩
  rw [hfinished] at hprogress hsettled
  obtain ⟨rfl, -, -⟩ := hsettled.eq_of_finished
  exact Worker.progress_eq_finished_iff.1 hprogress

/-- **A settled worker comes to its end**, when the requests of the cleanup are answered. -/
theorem Settled.finishes (h : Settled before requests final r a.worker.connector.record a.worker.progress)
    (hw : a.worker.Coherent) (hattended : Attended a.worker) :
    ∃ limits : List Nat, (a.play (limits.map .work)).worker.doing = .finished final r := by
  generalize hrecord : a.worker.connector.record = record at h
  generalize hprogress : a.worker.progress = p at h
  cases h with
  | finished => exact ⟨[], Worker.progress_eq_finished_iff.1 hprogress⟩
  | closing hforgotten hdeleted hall =>
    have h : Settled before requests final r a.worker.connector.record a.worker.progress := by
      rw [hrecord, hprogress]
      exact .closing hforgotten hdeleted hall
    obtain ⟨limit, hlast⟩ := h.finishes_of_closing hw hattended hprogress
    exact ⟨[limit], hlast⟩
  | @signalling x s shell command hknown hdeleted hall =>
    have h : Settled before requests final r a.worker.connector.record a.worker.progress := by
      rw [hrecord, hprogress]
      exact .signalling hknown hdeleted hall
    obtain ⟨due, answer, hsteps⟩ := (hprogress ▸ h).exists_step hw hattended hprogress
    obtain ⟨w', hstep, hprogress'⟩ := hsteps due (Nat.le_refl due)
    have hclosing : w'.progress = .busy ⟨{ s with shellId := none }, .cleanup r, .closing shell⟩ := by
      rw [hprogress']
      simp only [Work.answered, Session.beginClose, hknown]
    obtain ⟨limit, hlast⟩ := Settled.finishes_of_closing (a := { a with worker := w' })
      (h.step hw hstep).1 (Worker.step_next hw hstep).1 (hattended.step hstep) hclosing
    refine ⟨[due, limit], ?_⟩
    show ((a.act (.work due)).act (.work limit)).worker.doing = .finished final r
    rw [act_work_of_step hstep]
    exact hlast

end Settled

/-! ## Two runs -/

/-- A call of `execute` on an unopened session has begun, and nothing has been read. -/
def Scene.execute [Connector σ] (connector : σ) (deadline : Option Duration) (stdout stderr : Pipe)
    (endpoint line : String) : Scene (Recorder σ) :=
  ⟨.start (.fresh connector) deadline stdout stderr (.unopened endpoint) (.execute line), fun _ => []⟩

section Alike

variable [Connector σ] [Connector τ] {w w' : Worker (Recorder σ)} {v v' : Worker (Recorder τ)}
  {endpoint line : String}

/-- Two workers differ only behind their connectors, or both clean up in the same way. -/
inductive Alike (w : Worker (Recorder σ)) (v : Worker (Recorder τ)) : Prop
  | same {d : τ} (worker : v = w.on ⟨d, w.connector.record⟩) (agree : Agree w.connector.inner d) :
      Alike w v
  | settled {before : List Exchange} {requests : List Request} {final : Session} {r : Result}
      (pipes : ∀ stream, v.pipe stream = w.pipe stream)
      (left : Settled before requests final r w.connector.record w.progress)
      (right : Settled before requests final r v.connector.record v.progress) : Alike w v

theorem Alike.pipe (h : Alike w v) (stream : Stream) : v.pipe stream = w.pipe stream := by
  cases h with
  | same hworker => rw [hworker, Worker.pipe_on]
  | settled hpipes => exact hpipes stream

/-- What readers do to both pipes of a stream keeps the workers alike. -/
theorem Alike.setPipe (h : Alike w v) (p : Pipe) (stream : Stream) :
    Alike (w.setPipe p stream) (v.setPipe p stream) := by
  cases h with
  | same hworker hagree =>
    refine .same ?_ (by rwa [Worker.setPipe_connector])
    rw [hworker, ← Worker.on_setPipe, Worker.setPipe_connector]
  | settled hpipes hleft hright =>
    refine .settled ?_ (by rwa [Worker.setPipe_connector, Worker.setPipe_progress])
      (by rwa [Worker.setPipe_connector, Worker.setPipe_progress])
    intro other
    by_cases hsame : other = stream
    · rw [hsame, Worker.pipe_setPipe, Worker.pipe_setPipe]
    · rw [Worker.pipe_setPipe_of_ne _ _ hsame, Worker.pipe_setPipe_of_ne _ _ hsame, hpipes]

theorem Alike.pause (h : Alike w v) (time : Nat) :
    Alike { w with now := max w.now time } { v with now := max v.now time } := by
  cases h with
  | same hworker hagree => exact .same (by rw [hworker]; rfl) hagree
  | settled hpipes hleft hright =>
    refine .settled ?_ hleft hright
    intro stream
    cases stream
    · exact hpipes .stdout
    · exact hpipes .stderr

/-- A request of the cleanup settles a call of `execute`. -/
theorem Executing.settled {work : Work} {request : Request} {before : List Exchange} {x : Exchange}
    (h : Executing endpoint line (before ++ [x]) (.busy work)) (hdemand : work.demand = .answer request)
    (hworks : request.works = false) :
    ∃ requests final r, ∀ y : Exchange, y.request = request →
      Settled before requests final r (before ++ [y]) (.busy work) := by
  generalize before ++ [x] = record at h
  cases h with
  | opening | starting | polling =>
    obtain rfl : _ = request := by injection hdemand
    cases hworks
  | writing => cases hdemand
  | signalling _ _ _ _ hknown _ =>
    obtain rfl : _ = request := by injection hdemand
    exact ⟨_, _, _, fun y hy => .signalling hknown rfl (by rw [hy])⟩
  | closing _ hforgotten _ =>
    obtain rfl : _ = request := by injection hdemand
    exact ⟨[_], _, _, fun y hy => .closing hforgotten rfl (by rw [List.map_singleton, hy])⟩

/-- **When both calls go on**, the workers stay alike: they send the same request, and what it is answered
is the same or does not matter. -/
theorem Alike.proceed {d : τ} {p : Progress} (hagree : Agree w.connector.inner d)
    (hexecuting : Executing endpoint line (w.proceed p).connector.record p) :
    Alike (w.proceed p) ((w.on ⟨d, w.connector.record⟩).proceed p) := by
  cases p with
  | finished s r => exact .same rfl hagree
  | busy work =>
    cases hdemand : work.demand with
    | room stream bytes =>
      rw [Worker.proceed_of_room _ hdemand, Worker.proceed_of_room _ hdemand]
      refine .same ?_ (by simpa using hagree)
      cases stream <;> rfl
    | answer request =>
      rw [Worker.proceed_of_answer _ hdemand, Recorder.send_eq] at hexecuting
      cases hworks : request.works with
      | true =>
        have hreception := hagree.reception hworks
        rw [Worker.proceed_of_answer _ hdemand, Worker.proceed_of_answer _ hdemand]
        refine .same ?_ (hagree.send hworks)
        simp only [Recorder.send_eq, Worker.on, ← hreception]
        rfl
      | false =>
        obtain ⟨requests, final, r, hsettled⟩ := hexecuting.settled hdemand hworks
        have hleft : Settled w.connector.record requests final r
            (w.proceed (.busy work)).connector.record (w.proceed (.busy work)).progress := by
          rw [Worker.proceed_of_answer _ hdemand, Recorder.send_eq]
          exact hsettled _ rfl
        have hright : Settled w.connector.record requests final r
            ((w.on (⟨d, w.connector.record⟩ : Recorder τ)).proceed (.busy work)).connector.record
            ((w.on (⟨d, w.connector.record⟩ : Recorder τ)).proceed (.busy work)).progress := by
          rw [Worker.proceed_of_answer _ hdemand, Recorder.send_eq]
          exact hsettled _ rfl
        refine .settled ?_ hleft hright
        intro stream
        rw [Worker.pipe_proceed_of_answer _ hdemand, Worker.pipe_proceed_of_answer _ hdemand,
          Worker.pipe_on]

/-- A turn of two workers that are the same but for their connectors. -/
theorem Alike.turn {d : τ} {u : Worker (Recorder σ)} {limit : Nat} {p : Option Progress}
    (hagree : Agree w.connector.inner d) (hturn : w.Turn limit u p)
    (hexecuting : Executing endpoint line (u.goOn p).connector.record (u.goOn p).progress) :
    Alike (u.goOn p) ((u.on ⟨d, w.connector.record⟩).goOn p) := by
  rw [← hturn.connector] at hagree ⊢
  cases p with
  | none => exact .same rfl hagree
  | some p =>
    rw [Worker.goOn, Worker.proceed_progress] at hexecuting
    exact .proceed hagree hexecuting

/-- What holds of a worker that cannot go on and of one that has gone on. -/
theorem getD_step {P : Worker (Recorder σ) → Prop} {limit : Nat} (hstay : P w)
    (hstep : ∀ w', w.step limit = some w' → P w') : P ((w.step limit).getD w) := by
  cases h : w.step limit with
  | none => exact hstay
  | some w' => exact hstep w' h

/-- **What the workers do by themselves keeps them alike.** -/
theorem Alike.work (h : Alike w v) (hw : w.Coherent) (hv : v.Coherent) (limit : Nat)
    (hexecuting : ∀ w', w.step limit = some w' → Executing endpoint line w'.connector.record w'.progress) :
    Alike ((w.step limit).getD w) ((v.step limit).getD v) := by
  cases h with
  | @same d hworker hagree =>
    cases hstep : w.step limit with
    | some w' =>
      obtain ⟨u, p, hturn, rfl⟩ := Worker.step_eq_some_iff.1 hstep
      have hstep' : v.step limit = some ((u.on ⟨d, w.connector.record⟩).goOn p) := by
        rw [hworker]
        exact Worker.step_eq_some_iff.2 ⟨_, p, hturn.on _, rfl⟩
      rw [hstep']
      exact .turn hagree hturn (hexecuting _ hstep)
    | none =>
      rw [hworker, Worker.step_on_eq_none hstep]
      exact .same rfl hagree
  | @settled before requests final r hpipes hleft hright =>
    -- each worker cleans up at its own pace
    obtain ⟨hleft', hpipesLeft⟩ := getD_step
      (P := fun w' => Settled before requests final r w'.connector.record w'.progress ∧
        ∀ stream, w'.pipe stream = w.pipe stream) ⟨hleft, fun _ => rfl⟩ fun _ => hleft.step hw
    obtain ⟨hright', hpipesRight⟩ := getD_step
      (P := fun v' => Settled before requests final r v'.connector.record v'.progress ∧
        ∀ stream, v'.pipe stream = v.pipe stream) ⟨hright, fun _ => rfl⟩ fun _ => hright.step hv
    refine .settled ?_ hleft' hright'
    intro stream
    rw [hpipesLeft, hpipesRight, hpipes]

/-- Two runs of `execute` at the same point of one schedule. -/
structure Paired (endpoint line : String) (a : Scene (Recorder σ)) (b : Scene (Recorder τ)) : Prop where
  taken : b.taken = a.taken
  left : a.worker.Coherent
  right : b.worker.Coherent
  executing : Executing endpoint line a.worker.connector.record a.worker.progress
  alike : Alike a.worker b.worker

variable {a : Scene (Recorder σ)} {b : Scene (Recorder τ)}

/-- What readers do to both runs. -/
theorem Paired.setPipe (h : Paired endpoint line a b) (p : Pipe) (stream : Stream)
    (taken : Stream → List UInt8) :
    Paired endpoint line ⟨a.worker.setPipe p stream, taken⟩ ⟨b.worker.setPipe p stream, taken⟩ := by
  refine ⟨rfl, (Worker.move_next h.left (.pipe _ stream p)).1,
    (Worker.move_next h.right (.pipe _ stream p)).1, ?_, h.alike.setPipe p stream⟩
  rw [Worker.setPipe_connector, Worker.setPipe_progress]
  exact h.executing

/-- **Whatever is let happen, both runs go on together.** -/
theorem Paired.act (h : Paired endpoint line a b) (act : Scene.Act) :
    Paired endpoint line (a.act act) (b.act act) := by
  cases act with
  | work limit =>
    have hexecuting : ∀ w', a.worker.step limit = some w' →
        Executing endpoint line w'.connector.record w'.progress := by
      intro w' hstep
      exact (Worker.Reaches.invariant Executing.next (.single (.work limit hstep)) h.left h.executing).2
    exact ⟨h.taken, getD_step h.left fun _ hstep => (Worker.step_next h.left hstep).1,
      getD_step h.right fun _ hstep => (Worker.step_next h.right hstep).1,
      getD_step (P := fun w => Executing endpoint line w.connector.record w.progress) h.executing hexecuting,
      h.alike.work h.left h.right limit hexecuting⟩
  | read stream count =>
    have hread : b.read stream count = ⟨b.worker.setPipe ((a.worker.pipe stream).take count).2 stream,
        (a.read stream count).taken⟩ := by
      simp only [Scene.read, h.alike.pipe, h.taken]
    rw [Scene.act, Scene.act, hread]
    exact h.setPipe _ stream _
  | drop stream =>
    have hdrop : b.drop stream = ⟨b.worker.setPipe (a.worker.pipe stream).dropReader stream, a.taken⟩ := by
      rw [Scene.drop, h.alike.pipe, h.taken]
    rw [Scene.act, Scene.act, hdrop]
    exact h.setPipe _ stream _
  | pause time =>
    exact ⟨h.taken, (Worker.move_next h.left (.pause _ time)).1,
      (Worker.move_next h.right (.pause _ time)).1, h.executing, h.alike.pause time⟩

theorem Paired.play (h : Paired endpoint line a b) (acts : List Scene.Act) :
    Paired endpoint line (a.play acts) (b.play acts) := by
  induction acts generalizing a b with
  | nil => exact h
  | cons act acts ih => exact ih (h.act act)

/-- Two calls of `execute` begin together. -/
theorem paired_execute {c : σ} {d : τ} (hagree : Agree c d) (deadline : Option Duration)
    (stdout stderr : Pipe) (endpoint line : String) :
    Paired endpoint line (Scene.execute c deadline stdout stderr endpoint line)
      (Scene.execute d deadline stdout stderr endpoint line) := by
  obtain ⟨hleft, hprogress, hextends⟩ := Worker.start_coherent (.fresh c) deadline stdout stderr
    (.unopened endpoint) (.execute line)
  obtain ⟨hright, -, -⟩ := Worker.start_coherent (.fresh d) deadline stdout stderr
    (.unopened endpoint) (.execute line)
  obtain ⟨x, hx, hrecord⟩ := hextends.eq_of_sent (r := .create) rfl
  have hexecuting : Executing endpoint line [x] ((Session.unopened endpoint).begin (.execute line)) :=
    .opening hx
  rw [← show _ = [x] from hrecord] at hexecuting
  have halike : Alike (Worker.start (.fresh c) deadline stdout stderr (.unopened endpoint) (.execute line))
      (Worker.start (.fresh d) deadline stdout stderr (.unopened endpoint) (.execute line)) :=
    .proceed hagree hexecuting
  rw [← hprogress] at hexecuting
  exact ⟨rfl, hleft, hright, hexecuting, halike⟩

end Alike

/-! ## Main result -/

theorem Attended.act [Connector σ] {a : Scene (Recorder σ)} (h : Attended a.worker) (act : Scene.Act) :
    Attended (a.act act).worker := by
  have hset : ∀ (p : Pipe) stream, Attended (a.worker.setPipe p stream) := by
    intro p stream
    refine ⟨?_, ?_⟩ <;> rw [Worker.setPipe_connector]
    · exact h.connector
    · exact h.record
  cases act with
  | work limit => exact getD_step h fun _ => h.step
  | read stream count => exact hset _ _
  | drop stream => exact hset _ _
  | pause time => exact ⟨h.connector, h.record⟩

theorem Attended.play [Connector σ] {a : Scene (Recorder σ)} (h : Attended a.worker)
    (acts : List Scene.Act) : Attended (a.play acts).worker := by
  induction acts generalizing a with
  | nil => exact h
  | cons act acts ih => exact ih (h.act act)

/-- **What the cleanup is answered does not matter.**  Two calls of `execute` with connectors that make the
same of every request for the work, run to one schedule:

* at every moment the pipes hold the same, and the readers have got the same;
* when both have returned, the sessions, the results and the requests are the same;
* when one has returned, the other one returns the same, provided that its cleanup is answered. -/
theorem execute_ignores_cleanup [Connector σ] [Connector τ] {c : σ} {d : τ} (hagree : Agree c d)
    (deadline : Option Duration) (stdout stderr : Pipe) (endpoint line : String)
    (acts : List Scene.Act) :
    let a := (Scene.execute c deadline stdout stderr endpoint line).play acts
    let b := (Scene.execute d deadline stdout stderr endpoint line).play acts
    (∀ stream, b.worker.pipe stream = a.worker.pipe stream ∧ b.taken stream = a.taken stream) ∧
      (∀ s r s' r', a.worker.doing = .finished s r → b.worker.doing = .finished s' r' → s' = s ∧ r' = r ∧
        b.worker.connector.record.map Exchange.request =
          a.worker.connector.record.map Exchange.request) ∧
      ∀ s r, a.worker.doing = .finished s r → AnswersCleanup d →
        ∃ limits : List Nat, (b.play (limits.map .work)).worker.doing = .finished s r := by
  intro a b
  have hpaired : Paired endpoint line a b :=
    (paired_execute hagree deadline stdout stderr endpoint line).play acts
  refine ⟨fun stream => ⟨hpaired.alike.pipe stream, by rw [hpaired.taken]⟩, ?_, ?_⟩
  · intro s r s' r' ha hb
    cases hpaired.alike with
    | same hworker =>
      rw [hworker] at hb
      obtain ⟨rfl, rfl⟩ : s = s' ∧ r = r' := by simpa using ha.symm.trans hb
      exact ⟨rfl, rfl, by rw [hworker]; rfl⟩
    | settled _ hleft hright =>
      rw [Worker.progress_eq_finished_iff.2 ha] at hleft
      rw [Worker.progress_eq_finished_iff.2 hb] at hright
      obtain ⟨rfl, rfl, hrequests⟩ := hleft.eq_of_finished
      obtain ⟨rfl, rfl, hrequests'⟩ := hright.eq_of_finished
      exact ⟨rfl, rfl, hrequests'.trans hrequests.symm⟩
  · intro s r ha hanswers
    cases hpaired.alike with
    | same hworker =>
      refine ⟨[], ?_⟩
      show b.worker.doing = .finished s r
      rw [hworker]
      exact ha
    | settled _ hleft hright =>
      rw [Worker.progress_eq_finished_iff.2 ha] at hleft
      obtain ⟨rfl, rfl, -⟩ := hleft.eq_of_finished
      have hfresh : Attended (⟨.fresh d, deadline, none, stdout, stderr, 0,
          .finished (.unopened endpoint) (.ok .nothing)⟩ : Worker (Recorder τ)) :=
        ⟨hanswers, fun _ hx => absurd hx List.not_mem_nil⟩
      have hbegun : Attended (Scene.execute d deadline stdout stderr endpoint line).worker :=
        hfresh.proceed ((Session.unopened endpoint).begin (.execute line))
      exact hright.finishes hpaired.right (hbegun.play acts)

/-- A connector that refuses the cleanup, after some time. -/
structure Refusing (σ : Type) where
  inner : σ
  refusal : Failure
  delay : Nat

instance [Connector σ] : Connector (Refusing σ) where
  send c r :=
    if r.works then
      let (reception, inner) := Connector.send c.inner r
      (reception, { c with inner })
    else (some (c.delay, .error c.refusal), c)

/-- A connector agrees with itself when it refuses the cleanup. -/
theorem agree_refusing [Connector σ] (c : σ) (refusal : Failure) (delay : Nat) :
    Agree c (⟨c, refusal, delay⟩ : Refusing σ) := by
  intro sent hsent r hr
  have hafter : Connector.afterAll (⟨c, refusal, delay⟩ : Refusing σ) sent =
      ⟨Connector.afterAll c sent, refusal, delay⟩ := by
    induction sent generalizing c with
    | nil => rfl
    | cons q sent ih =>
      have hq : (Connector.send (⟨c, refusal, delay⟩ : Refusing σ) q).2 =
          ⟨(Connector.send c q).2, refusal, delay⟩ :=
        congrArg Prod.snd (if_pos (hsent q List.mem_cons_self))
      rw [Connector.afterAll, List.foldl_cons, hq]
      exact ih (Connector.send c q).2 fun q' hq' => hsent q' (List.mem_cons_of_mem q hq')
  rw [hafter]
  have hsame : (Connector.send (⟨Connector.afterAll c sent, refusal, delay⟩ : Refusing σ) r).1 =
      (Connector.send (Connector.afterAll c sent) r).1 := congrArg Prod.fst (if_pos hr)
  exact hsame.symm

theorem answersCleanup_refusing [Connector σ] (c : Refusing σ) : AnswersCleanup c := by
  intro sent r hr
  have hrefused : (Connector.send (Connector.afterAll c sent) r).1 =
      some ((Connector.afterAll c sent).delay, .error (Connector.afterAll c sent).refusal) :=
    congrArg Prod.fst (if_neg (by rw [hr]; exact Bool.false_ne_true))
  rw [hrefused]
  exact Option.some_ne_none _

/-- A cleanup that is refused for a missing setting, after a minute, changes nothing about an exit code. -/
theorem execute_ignores_refused_cleanup :
    let c : Replies := ⟨[.ok (Replies.document Soap.shellUri "ShellId" "S"),
      .ok (Replies.document Soap.shellUri "CommandId" "C"),
      .ok ⟨⟨some Soap.shellUri, "CommandState", [("State", Soap.commandDone)], "",
        [⟨some Soap.shellUri, "ExitCode", [], "7", []⟩]⟩, ""⟩]⟩
    let d : Refusing Replies := ⟨c, .settingMissing "krb5_config", 60000⟩
    ∃ limits : List Nat, ((Scene.execute d none .discarding .discarding "http://host/wsman" "dir").play
      (limits.map .work)).worker.doing =
        .finished ⟨"http://host/wsman", .closed, none, some "C", some 7⟩ (.ok (.code 7)) := by
  intro c d
  have hreturned : ((Scene.execute c none .discarding .discarding "http://host/wsman" "dir").play
      ((List.replicate 9 0).map .work)).worker.doing =
        .finished ⟨"http://host/wsman", .closed, none, some "C", some 7⟩ (.ok (.code 7)) := by cbv
  obtain ⟨-, -, hend⟩ := execute_ignores_cleanup (agree_refusing c (.settingMissing "krb5_config") 60000)
    none .discarding .discarding "http://host/wsman" "dir" ((List.replicate 9 0).map .work)
  obtain ⟨limits, hlast⟩ := hend _ _ hreturned (answersCleanup_refusing d)
  refine ⟨List.replicate 9 0 ++ limits, ?_⟩
  rw [List.map_append, Scene.play, List.foldl_append]
  exact hlast

end Shell

end RemoteShell
