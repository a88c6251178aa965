import RemoteShell.Proofs.Pipe.Fifo
import RemoteShell.Proofs.Shell.Cleanup
import RemoteShell.Proofs.Shell.Readable

/-!
# A deadline cuts receiving short

Two calls of `receive` on the same connector, the same session and the same pipes, one of them with a deadline,
run to one schedule.  They do the same, step by step, until the deadline strikes; from then on the one with the
deadline has failed and does nothing more, while the other one goes on.  So whatever the first one has sent and
written is a first part of what the other one has (`Trails`).

A deadline strikes where the worker waits for something that does not come in time.  Time goes on only by waiting,
so the worker has never been past its deadline before (`Worker.within_step`), and it strikes on time.

Nor does a deadline strike a call that would have returned in time.  Where it strikes, the other worker waits for an
answer that comes later or never, and so it is late for good (`Worker.Late`).  Only a worker that waits for its
readers is not: its clock stands still.  Hence the condition on blocking.
-/

namespace RemoteShell

/-- The first millisecond at which a duration is over. -/
theorem Duration.millisUp_le_iff (d : Duration) (ms : Nat) : d.millisUp ≤ ms ↔ d.nanoseconds ≤ ms * 1000000 := by
  rw [millisUp]
  omega

namespace Shell

open Soap (Request)
open Xml (Document)

variable {σ : Type} {s : Session}

/-! ## Calls that receive -/

/-- A call of `receive` on a session is under way. -/
structure Work.Receives (w : Work) (s : Session) : Prop where
  session : w.session = s
  plan : w.plan = .single
  receiving : w.isReceiving = true

/-- A call of `receive` goes on, or it has returned. -/
def Progress.Receives (p : Progress) (s : Session) : Prop :=
  ∀ work, p = .busy work → work.Receives s

theorem Progress.receives_finished (s' : Session) (r : Result) : (Progress.finished s' r).Receives s := by
  intro work hbusy
  cases hbusy

theorem Work.Receives.busy {work : Work} (h : work.Receives s) : (Progress.busy work).Receives s := by
  intro work' hbusy
  obtain rfl := Progress.busy.inj hbusy
  exact h

namespace Work

variable {work : Work}

theorem Receives.failReceiving (h : work.Receives s) (e : Failure) :
    work.failReceiving e = .finished s.fail (.error (s.wrap .receive e)) := by
  rw [Work.failReceiving, h.plan, h.session]
  rfl

theorem Receives.failed (h : work.Receives s) (e : Failure) : (work.failReceiving e).Receives s := by
  rw [h.failReceiving]
  exact Progress.receives_finished _ _

theorem Receives.beginWriting (h : work.Receives s) (p : Polling) (d : Document) (stream : Stream) :
    (work.beginWriting p d stream).Receives s := by
  rw [Work.beginWriting]
  split
  · exact h.failed _
  · exact Receives.busy ⟨h.session, h.plan, rfl⟩

theorem Receives.answered (h : work.Receives s) (answer : Except Failure Document) :
    (work.answered answer).Receives s := by
  have hreceiving := h.receiving
  rw [isReceiving] at hreceiving
  rw [Work.answered]
  cases hactivity : work.activity with
  | polling p =>
    cases answer with
    | error e => exact h.failed e
    | ok d => exact h.beginWriting p d .stdout
  | writing => exact h.busy
  | _ =>
    rw [hactivity] at hreceiving
    cases hreceiving

theorem Receives.written (h : work.Receives s) : work.written.Receives s := by
  rw [Work.written]
  cases hactivity : work.activity with
  | writing p d stream bytes =>
    cases stream with
    | stdout => exact h.beginWriting p d .stderr
    | stderr =>
      simp only
      obtain ⟨e, hend⟩ | ⟨n, hend⟩ | ⟨early, hend⟩ := work.finishAnswer_cases p d <;> rw [hend]
      · exact h.failed e
      · rw [h.plan]
        exact Progress.receives_finished _ _
      · exact Receives.busy ⟨h.session, h.plan, rfl⟩
  | _ => exact h.busy

theorem Receives.expired (h : work.Receives s) (after : Duration) :
    work.expired after = .finished s.fail (.error (.phase .receive s.endpoint (.timeout after))) := by
  rw [Work.expired, if_pos h.receiving, h.failReceiving]
  rfl

end Work

/-- A call of `receive` is refused, or it begins to poll. -/
theorem Session.receives_begin (s : Session) : (s.begin .receive).Receives s := by
  simp only [Session.begin, Session.beginReceive]
  split
  · exact Progress.receives_finished _ _
  · exact Work.Receives.busy ⟨rfl, rfl, rfl⟩

/-! ## The same worker with a deadline -/

namespace Worker

/-- The worker under a deadline, which it has been receiving under since its clock stood at zero. -/
def within (w : Worker σ) (d : Duration) : Worker σ :=
  { w with deadline := some d, expires := some d.millisUp }

/-- The worker when its deadline has struck while it received. -/
def struck (w : Worker σ) (d : Duration) (s : Session) : Worker σ :=
  { w with
    deadline := some d
    expires := none
    now := d.millisUp
    doing := .finished s.fail (.error (.phase .receive s.endpoint (.timeout d))) }

/-- No deadline is set, and none will be. -/
structure Unlimited (w : Worker σ) : Prop where
  deadline : w.deadline = none
  expires : w.expires = none

/-- A call goes on longer than until a time: its clock is beyond that time, or it has not returned and can do
nothing more until then. -/
def Outlasts [Connector σ] (w : Worker σ) (time : Nat) : Prop :=
  time < w.now ∨ ((∀ s r, w.doing ≠ .finished s r) ∧ w.step time = none)

/-- A worker has gone on past a time, or it waits for an answer that does not come before. -/
def Late (w : Worker σ) (time : Nat) : Prop :=
  time < w.now ∨ ∃ work reception, w.doing = .waiting work reception ∧
    ∀ due answer, reception = some (due, answer) → time < due

variable {w w' u : Worker σ} {d : Duration} {limit : Nat} {work : Work}

theorem pipe_within (w : Worker σ) (d : Duration) (stream : Stream) :
    (w.within d).pipe stream = w.pipe stream := by
  cases stream <;> rfl

theorem within_setPipe (w : Worker σ) (d : Duration) (p : Pipe) (stream : Stream) :
    (w.within d).setPipe p stream = (w.setPipe p stream).within d := by
  cases stream <;> rfl

/-- Nothing that happens sets a deadline. -/
theorem Turn.deadline {p : Option Progress} (hturn : w.Turn limit u p) : u.deadline = w.deadline := by
  cases hturn with
  | answered => rfl
  | expired => rfl
  | wrote => exact setPipe_deadline ..
  | writes => exact setPipe_deadline ..

theorem Turn.expires {p : Option Progress} (hturn : w.Turn limit u p) : u.expires = w.expires := by
  cases hturn with
  | answered => rfl
  | expired => rfl
  | wrote => exact setPipe_expires ..
  | writes => exact setPipe_expires ..

theorem Unlimited.turn (h : w.Unlimited) {p : Option Progress} (hturn : w.Turn limit u p) : u.Unlimited :=
  ⟨hturn.deadline.trans h.deadline, hturn.expires.trans h.expires⟩

/-- What goes on with a call that receives receives, until it returns. -/
theorem Turn.receives {p : Progress} (hturn : w.Turn limit u (some p)) (hbusy : w.progress = .busy work)
    (hreceives : work.Receives s) : p.Receives s := by
  have hsame : ∀ {work'}, w.progress = .busy work' → work' = work := fun hbusy' =>
    Progress.busy.inj (hbusy'.symm.trans hbusy)
  cases hturn with
  | answered hdoing =>
    obtain rfl := hsame (progress_of_waiting hdoing)
    exact hreceives.answered _
  | expired hexposed =>
    obtain rfl := hsame hexposed.progress
    rw [hreceives.expired]
    exact Progress.receives_finished _ _
  | wrote hdoing =>
    obtain rfl := hsame (progress_of_writing hdoing)
    exact hreceives.written

/-- Some bytes were written and some are left: the call is where it was. -/
theorem Turn.progress_of_none (hturn : w.Turn limit u none) : u.progress = w.progress := by
  cases hturn with
  | writes hdoing => rw [progress_of_writing hdoing, progress]

section Step

variable [Connector σ]

/-- A worker that goes on receiving does the same under a deadline, be it set already or only now. -/
theorem proceed_within (w : Worker σ) (d : Duration) {expires : Option Nat}
    (h : ({ w with deadline := some d, expires } : Worker σ).nextExpiry work = some d.millisUp) :
    ({ w with deadline := some d, expires } : Worker σ).proceed (.busy work) =
      (w.proceed (.busy work)).within d := by
  cases hdemand : work.demand with
  | answer request =>
    rw [proceed_of_answer _ hdemand, proceed_of_answer _ hdemand, h]
    rfl
  | room stream bytes =>
    rw [proceed_of_room _ hdemand, proceed_of_room _ hdemand, h]
    cases stream <;> rfl

theorem Unlimited.proceed (h : w.Unlimited) (p : Progress) : (w.proceed p).Unlimited := by
  refine ⟨(proceed_deadline w p).trans h.deadline, ?_⟩
  cases p with
  | finished => rfl
  | busy work =>
    have hexpires : w.nextExpiry work = none := by
      rw [nextExpiry, h.expires, h.deadline]
      split <;> rfl
    cases hdemand : work.demand with
    | answer request => rw [proceed_of_answer _ hdemand, hexpires]
    | room stream bytes => rw [proceed_of_room _ hdemand, hexpires]

theorem now_proceed (w : Worker σ) (p : Progress) : (w.proceed p).now = w.now := by
  cases p with
  | finished => rfl
  | busy work =>
    cases hdemand : work.demand with
    | answer request => rw [proceed_of_answer _ hdemand]
    | room stream bytes =>
      rw [proceed_of_room _ hdemand]
      exact setPipe_now ..

theorem now_goOn (w : Worker σ) (p : Option Progress) : (w.goOn p).now = w.now := by
  cases p with
  | none => rfl
  | some p => exact now_proceed w p

theorem Unlimited.goOn (h : w.Unlimited) (p : Option Progress) : (w.goOn p).Unlimited := by
  cases p with
  | none => exact h
  | some p => exact h.proceed p

/-- A worker without a deadline stays without one. -/
theorem Unlimited.step (h : w.Unlimited) (hstep : w.step limit = some w') : w'.Unlimited := by
  obtain ⟨u, p, hturn, rfl⟩ := step_eq_some_iff.1 hstep
  exact (h.turn hturn).goOn p

/-- A record only grows. -/
theorem record_step {w w' : Worker (Recorder σ)} (hstep : w.step limit = some w') :
    w.connector.record <+: w'.connector.record := by
  obtain ⟨u, p, hturn, rfl⟩ := step_eq_some_iff.1 hstep
  rw [← hturn.connector]
  cases p with
  | none => exact List.prefix_refl _
  | some p =>
    have hextends := (proceed_coherent u p).2
    rw [goOn]
    generalize (u.proceed p).connector.record = record at hextends ⊢
    cases hextends with
    | silent => exact List.prefix_refl _
    | sent => exact List.prefix_append _ _

/-- The clock does not go back. -/
theorem now_le_step (hstep : w.step limit = some w') : w.now ≤ w'.now := by
  obtain ⟨u, p, hturn, rfl⟩ := step_eq_some_iff.1 hstep
  rw [now_goOn]
  cases hturn with
  | answered => exact Nat.le_max_left _ _
  | expired => exact Nat.le_max_left _ _
  | wrote => exact Nat.le_of_eq (setPipe_now ..).symm
  | writes => exact Nat.le_of_eq (setPipe_now ..).symm

/-- **What is late stays late.** -/
theorem Late.step {time : Nat} (h : w.Late time) (hunlimited : w.Unlimited) (hstep : w.step limit = some w') :
    w'.Late time := by
  rcases h with hnow | ⟨work, reception, hdoing, hdue⟩
  · exact .inl (Nat.lt_of_lt_of_le hnow (now_le_step hstep))
  · obtain ⟨due, answer, hreception, rfl⟩ := step_of_waiting hdoing hunlimited.expires hstep
    refine .inl ?_
    rw [now_proceed]
    exact Nat.lt_of_lt_of_le (hdue due answer hreception) (Nat.le_max_right _ _)

/-- A worker that has not been past its deadline fails when it strikes, and on time. -/
theorem expire_within (hreceives : work.Receives s) (hclock : w.now ≤ d.millisUp) (hlimit : d.millisUp ≤ limit) :
    (w.within d).expire limit work = some (w.struck d s) := by
  refine expire_eq_some_iff.2 ⟨d.millisUp, d, rfl, rfl, hlimit, ?_⟩
  rw [hreceives.expired, proceed, struck, within]
  simp only [Nat.max_eq_right hclock]

/-- What happens to a worker while it receives, with and without a deadline: nothing, before the time
of the deadline; the same, until that time; or the deadline strikes, and it is late unless it is blocked. -/
inductive Compared (d : Duration) (s : Session) (limit : Nat) (w : Worker σ) : Prop
  | stays (free : w.step limit = none) (timed : (w.within d).step limit = none) (early : limit < d.millisUp)
  | goesOn {u : Worker σ} {p : Option Progress} (turn : w.Turn limit u p)
      (timed : (w.within d).Turn limit (u.within d) p) (clock : u.now ≤ d.millisUp)
  | strikes (timed : (w.within d).step limit = some (w.struck d s))
      (late : ¬ w.Blocked → ((w.step limit).getD w).Late d.millisUp)

/-- Without a deadline, a worker that is exposed to one can do nothing. -/
theorem Unlimited.step_of_exposed (h : w.Unlimited) (hexposed : w.Exposed work) : w.step limit = none := by
  rw [Worker.step_of_exposed hexposed, expire, h.expires]

/-- A worker whose answer comes later can do nothing. -/
theorem step_of_later {due : Nat} {answer : Except Failure Document}
    (hdoing : w.doing = .waiting work (some (due, answer))) (hearly : w.expires.all (due ≤ ·) = true)
    (hdue : limit < due) : w.step limit = none := by
  simp only [step, hdoing, hearly, if_true, if_neg (Nat.not_le.2 hdue)]

/-- A worker that is exposed to its deadline waits for it. -/
theorem compared_of_exposed (hunlimited : w.Unlimited) (hreceives : work.Receives s) (hclock : w.now ≤ d.millisUp)
    (hexposed : (w.within d).Exposed work) (hlate : ¬ w.Blocked → w.Late d.millisUp)
    (hstays : limit < d.millisUp → w.step limit = none) : Compared d s limit w := by
  by_cases hlimit : d.millisUp ≤ limit
  · refine .strikes ?_ fun hunblocked => ?_
    · rw [Worker.step_of_exposed hexposed, expire_within hreceives hclock hlimit]
    · cases hstep : w.step limit with
      | none => exact hlate hunblocked
      | some w' => exact (hlate hunblocked).step hunlimited hstep
  · refine .stays (hstays (Nat.not_le.1 hlimit)) ?_ (Nat.not_le.1 hlimit)
    rw [Worker.step_of_exposed hexposed, expire, within]
    exact if_neg hlimit

/-- A worker that can write does so, whether there is a deadline or not. -/
theorem compared_of_writing {stream : Stream} {rest : List UInt8} (hdoing : w.doing = .writing work stream rest)
    (hfree : (w.pipe stream).isStuck rest = false) (hclock : w.now ≤ d.millisUp) : Compared d s limit w := by
  have hclock' : ∀ p : Pipe, (w.setPipe p stream).now ≤ d.millisUp := by
    intro p
    rwa [setPipe_now]
  have hfree' : ((w.within d).pipe stream).isStuck rest = false := by
    rwa [pipe_within]
  by_cases hmore : ((w.pipe stream).offer rest).2 = []
  · have htimed : (w.within d).Turn limit
        ((w.within d).setPipe (((w.within d).pipe stream).offer rest).1 stream) (some work.written) :=
      .wrote hdoing hfree' (by rwa [pipe_within])
    rw [pipe_within, within_setPipe] at htimed
    exact .goesOn (.wrote hdoing hfree hmore) htimed (hclock' _)
  · have htimed : (w.within d).Turn limit
        { (w.within d).setPipe (((w.within d).pipe stream).offer rest).1 stream with
          doing := .writing work stream (((w.within d).pipe stream).offer rest).2 } none :=
      .writes hdoing hfree' (by rwa [pipe_within])
    rw [pipe_within, within_setPipe] at htimed
    exact .goesOn (.writes hdoing hfree hmore) htimed (hclock' _)

/-- **A deadline makes no difference until it strikes.** -/
theorem within_step (hunlimited : w.Unlimited) (hbusy : w.progress = .busy work) (hreceives : work.Receives s)
    (hclock : w.now ≤ d.millisUp) (limit : Nat) : Compared d s limit w := by
  have hsame : ∀ {work'}, w.progress = .busy work' → work' = work := fun hbusy' =>
    Progress.busy.inj (hbusy'.symm.trans hbusy)
  rcases hdoing : w.doing with ⟨work', _ | ⟨due, answer⟩⟩ | ⟨work', stream, rest⟩ | ⟨s', r⟩
  · -- an answer that never comes
    obtain rfl := hsame (progress_of_waiting hdoing)
    refine compared_of_exposed hunlimited hreceives hclock (.silent hdoing) (fun _ => .inr ?_)
      fun _ => hunlimited.step_of_exposed (.silent hdoing)
    refine ⟨work', none, hdoing, fun due answer hsome => ?_⟩
    cases hsome
  · obtain rfl := hsame (progress_of_waiting hdoing)
    have hall : w.expires.all (due ≤ ·) = true := by
      rw [hunlimited.expires]
      rfl
    by_cases hintime : due ≤ d.millisUp
    · -- an answer in time
      have hearly : (w.within d).expires.all (due ≤ ·) = true := by
        simp [within, hintime]
      by_cases hdue : due ≤ limit
      · exact .goesOn (.answered hdoing hall hdue) (.answered hdoing hearly hdue) (Nat.max_le.2 ⟨hclock, hintime⟩)
      · have hlater : limit < due := Nat.not_le.1 hdue
        exact .stays (step_of_later hdoing hall hlater) (step_of_later (w := w.within d) hdoing hearly hlater)
          (Nat.lt_of_lt_of_le hlater hintime)
    · -- an answer that comes too late
      have htoolate : d.millisUp < due := Nat.not_le.1 hintime
      have hlate : (w.within d).expires.all (due ≤ ·) = false := by
        simp [within, hintime]
      refine compared_of_exposed hunlimited hreceives hclock (.late hdoing hlate) (fun _ => .inr ?_)
        fun hlimit => step_of_later hdoing hall (Nat.lt_trans hlimit htoolate)
      refine ⟨work', _, hdoing, fun due' answer' hsome => ?_⟩
      cases hsome
      exact htoolate
  · obtain rfl := hsame (progress_of_writing hdoing)
    cases hstuck : (w.pipe stream).isStuck rest with
    | true =>
      exact compared_of_exposed hunlimited hreceives hclock (.stuck hdoing (by rwa [pipe_within]))
        (fun hunblocked => absurd ⟨work', stream, rest, hdoing, hstuck⟩ hunblocked)
        fun _ => hunlimited.step_of_exposed (.stuck hdoing hstuck)
    | false => exact compared_of_writing hdoing hstuck hclock
  · rw [progress_eq_finished_iff.2 hdoing] at hbusy
    cases hbusy

end Step

end Worker

/-! ## Two scenes -/

/-- A call of `receive` has begun, and nothing has been read. -/
def Scene.receive [Connector σ] (connector : σ) (deadline : Option Duration) (stdout stderr : Pipe)
    (s : Session) : Scene (Recorder σ) :=
  ⟨.start (.fresh connector) deadline stdout stderr s .receive, fun _ => []⟩

/-- What can be seen of a stream in one scene is a first part of what can be seen in another one. -/
structure Scene.Precedes (b a : Scene σ) (stream : Stream) : Prop where
  hasReader : (b.worker.pipe stream).hasReader = (a.worker.pipe stream).hasReader
  written : (b.worker.pipe stream).written ≤ (a.worker.pipe stream).written
  readable : (a.worker.pipe stream).hasReader = true → b.readable stream <+: a.readable stream

namespace Scene

variable {a b c : Scene σ} {stream : Stream}

theorem Precedes.trans (h : c.Precedes b stream) (h' : b.Precedes a stream) : c.Precedes a stream :=
  ⟨h.hasReader.trans h'.hasReader, Nat.le_trans h.written h'.written,
    fun hreader => (h.readable (h'.hasReader.trans hreader)).trans (h'.readable hreader)⟩

theorem precedes_of_same (hpipe : b.worker.pipe stream = a.worker.pipe stream) (htaken : b.taken = a.taken) :
    b.Precedes a stream := by
  refine ⟨by rw [hpipe], by rw [hpipe], fun _ => ?_⟩
  rw [readable, readable, hpipe, htaken]

/-- A worker only adds to what can be seen. -/
theorem precedes_work [Connector σ] (a : Scene σ) (limit : Nat) (stream : Stream) :
    a.Precedes (a.act (.work limit)) stream := by
  rw [act]
  cases hstep : a.worker.step limit with
  | none => exact precedes_of_same rfl rfl
  | some w =>
    have hgrows : (a.worker.pipe stream).Grows (w.pipe stream) := Worker.grows_step hstep stream
    have hwritten : (a.worker.pipe stream).written ≤ (w.pipe stream).written :=
      Worker.pipe_step_of (R := fun p q => p.written ≤ q.written) (fun _ => Nat.le_refl _)
        (fun _ _ _ => Nat.le_trans) (fun p bytes => Nat.le_of_eq (p.written_offer bytes).symm)
        (fun p bytes => by rw [p.written_append]; exact Nat.le_add_right _ _) hstep stream
    exact ⟨hgrows.hasReader.symm, hwritten, fun _ => (List.prefix_append_right_inj _).2 hgrows.buffer⟩

/-- What the readers do, they do in both scenes. -/
theorem Precedes.read (h : b.Precedes a stream) (other : Stream) (count : Nat) :
    (b.read other count).Precedes (a.read other count) stream := by
  have hreader : ∀ e : Scene σ, ((e.read other count).worker.pipe stream).hasReader =
      (e.worker.pipe stream).hasReader ∧
      ((e.read other count).worker.pipe stream).written = (e.worker.pipe stream).written := by
    intro e
    by_cases hsame : stream = other
    · rw [← hsame, pipe_read]
      exact ⟨rfl, rfl⟩
    · rw [pipe_read_of_ne e count hsame]
      exact ⟨rfl, rfl⟩
  refine ⟨?_, ?_, ?_⟩
  · rw [(hreader a).1, (hreader b).1, h.hasReader]
  · rw [(hreader a).2, (hreader b).2]
    exact h.written
  · rw [(hreader a).1, readable_read, readable_read]
    exact h.readable

theorem Precedes.drop (h : b.Precedes a stream) (other : Stream) :
    (b.drop other).Precedes (a.drop other) stream := by
  by_cases hsame : stream = other
  · subst hsame
    have hpipe : ∀ e : Scene σ, (e.drop stream).worker.pipe stream = (e.worker.pipe stream).dropReader :=
      fun e => Worker.pipe_setPipe ..
    refine ⟨?_, ?_, ?_⟩
    · rw [hpipe, hpipe]
      rfl
    · rw [hpipe, hpipe]
      exact h.written
    · rw [hpipe]
      intro hreader
      cases hreader
  · have hpipe : ∀ e : Scene σ, (e.drop other).worker.pipe stream = e.worker.pipe stream :=
      fun e => Worker.pipe_setPipe_of_ne _ _ hsame
    have hreadable : ∀ e : Scene σ, (e.drop other).readable stream = e.readable stream := by
      intro e
      rw [Scene.readable, Scene.readable, hpipe]
      rfl
    refine ⟨?_, ?_, ?_⟩
    · rw [hpipe, hpipe, h.hasReader]
    · rw [hpipe, hpipe]
      exact h.written
    · rw [hpipe, hreadable, hreadable]
      exact h.readable

/-- A worker whose pipes carry nothing is never blocked by its readers. -/
theorem not_blocked_of_not_carries [Connector σ] {a : Scene (Recorder σ)}
    (h : ∀ stream, (a.worker.pipe stream).carries = false) (acts : List Act) :
    ¬ (a.play acts).worker.Blocked := by
  induction acts generalizing a with
  | nil =>
    rintro ⟨work, stream, rest, -, hstuck⟩
    have hcarries : (a.worker.pipe stream).carries = true := by
      have hboth := (Bool.and_eq_true_iff.1 hstuck).1
      exact (Bool.and_eq_true_iff.1 hboth).2
    rw [h] at hcarries
    cases hcarries
  | cons act acts ih =>
    refine ih (a := a.act act) fun stream => ?_
    have hset : ∀ {p : Pipe} {other : Stream}, p.carries = false →
        ((a.worker.setPipe p other).pipe stream).carries = false := fun {p other} hp =>
      Worker.pipe_setPipe_of (R := fun p q => p.carries = false → q.carries = false) (fun _ => id)
        (fun _ => hp) stream (h stream)
    cases act with
    | work limit =>
      refine getD_step (P := fun w => (w.pipe stream).carries = false) (h stream) fun w hstep => ?_
      refine Worker.pipe_step_of (R := fun p q => p.carries = false → q.carries = false) (fun _ => id)
        (fun _ _ _ hq hr hp => hr (hq hp)) (fun p bytes hp => ?_) (fun p bytes hp => ?_) hstep stream (h stream)
      · rw [Pipe.offer_of_not_carries hp]
        exact hp
      · rw [Pipe.append_of_not_carries hp]
        exact hp
    | read other count => exact hset (h other)
    | drop other => exact hset (Bool.and_false _)
    | pause time =>
      cases stream with
      | stdout => exact h .stdout
      | stderr => exact h .stderr

end Scene

/-- A call of `receive` without a deadline, and the same one with a deadline behind it.  `unblocked` says that the
first one is never blocked. -/
inductive Trails (d : Duration) (s : Session) (unblocked : Prop) (a b : Scene (Recorder σ)) : Prop
  | going {work : Work} (busy : a.worker.progress = .busy work) (receives : work.Receives s)
      (unlimited : a.worker.Unlimited) (clock : a.worker.now ≤ d.millisUp)
      (worker : b.worker = a.worker.within d) (taken : b.taken = a.taken)
  | returned {s' : Session} {r : Result} (doing : a.worker.doing = .finished s' r)
      (clock : a.worker.now ≤ d.millisUp) (worker : b.worker = { a.worker with deadline := some d })
      (taken : b.taken = a.taken)
  | struck (doing : b.worker.doing = .finished s.fail (.error (.phase .receive s.endpoint (.timeout d))))
      (now : b.worker.now = d.millisUp) (record : b.worker.connector.record <+: a.worker.connector.record)
      (streams : ∀ stream, b.Precedes a stream) (unlimited : a.worker.Unlimited)
      (late : unblocked → a.worker.Late d.millisUp)

namespace Trails

variable {d : Duration} {unblocked : Prop} {a b : Scene (Recorder σ)}

/-- What readers do to both scenes alike. -/
theorem setPipe (h : Trails d s unblocked a b) {stream : Stream} {p q : Pipe} {taken taken' : Stream → List UInt8}
    (hsame : b.worker.pipe stream = a.worker.pipe stream → b.taken = a.taken → q = p ∧ taken' = taken)
    (hstreams : (∀ stream, b.Precedes a stream) → ∀ stream',
      (⟨b.worker.setPipe q stream, taken'⟩ : Scene _).Precedes ⟨a.worker.setPipe p stream, taken⟩ stream') :
    Trails d s unblocked ⟨a.worker.setPipe p stream, taken⟩ ⟨b.worker.setPipe q stream, taken'⟩ := by
  have hunlimited' : a.worker.Unlimited → (a.worker.setPipe p stream).Unlimited := fun h =>
    ⟨(Worker.setPipe_deadline ..).trans h.deadline, (Worker.setPipe_expires ..).trans h.expires⟩
  cases h with
  | going hbusy hreceives hunlimited hclock hworker htaken =>
    obtain ⟨rfl, rfl⟩ := hsame (by rw [hworker, Worker.pipe_within]) htaken
    refine .going ((Worker.setPipe_progress ..).trans hbusy) hreceives (hunlimited' hunlimited) ?_ ?_ rfl
    · rwa [Worker.setPipe_now]
    · rw [hworker, Worker.within_setPipe]
  | returned hdoing hclock hworker htaken =>
    obtain ⟨rfl, rfl⟩ := hsame (by rw [hworker]; cases stream <;> rfl) htaken
    refine .returned ((Worker.setPipe_doing ..).trans hdoing) ?_ ?_ rfl
    · rwa [Worker.setPipe_now]
    · rw [hworker]
      cases stream <;> rfl
  | struck hdoing htime hrecord hprecedes hunlimited hlate =>
    refine .struck ((Worker.setPipe_doing ..).trans hdoing) ((Worker.setPipe_now ..).trans htime) ?_ (hstreams hprecedes)
      (hunlimited' hunlimited) fun hunblocked => ?_
    · rw [Worker.setPipe_connector, Worker.setPipe_connector]
      exact hrecord
    · rw [Worker.Late, Worker.setPipe_now, Worker.setPipe_doing]
      exact hlate hunblocked

/-- What a call with a deadline has sent and written comes first in what the other one has. -/
theorem precedes (h : Trails d s unblocked a b) :
    b.worker.connector.record <+: a.worker.connector.record ∧ ∀ stream, b.Precedes a stream := by
  cases h with
  | going hbusy hreceives hunlimited hclock hworker htaken =>
    rw [hworker]
    refine ⟨List.prefix_refl _, fun stream => Scene.precedes_of_same ?_ htaken⟩
    rw [hworker, Worker.pipe_within]
  | returned hdoing hclock hworker htaken =>
    rw [hworker]
    refine ⟨List.prefix_refl _, fun stream => Scene.precedes_of_same ?_ htaken⟩
    rw [hworker]
    cases stream <;> rfl
  | struck hdoing hnow hrecord hstreams => exact ⟨hrecord, hstreams⟩

/-- A call that has returned by the time of the deadline is the same with it. -/
theorem eq_of_returned {s' : Session} {r : Result} (h : Trails d s unblocked a b) (hunblocked : unblocked)
    (hreturned : a.worker.doing = .finished s' r) (hclock : a.worker.now * 1000000 ≤ d.nanoseconds) :
    b.worker = { a.worker with deadline := some d } ∧ b.taken = a.taken := by
  cases h with
  | going hbusy =>
    rw [Worker.progress_eq_finished_iff.2 hreturned] at hbusy
    cases hbusy
  | returned _ _ hworker htaken => exact ⟨hworker, htaken⟩
  | struck _ _ _ _ _ hlate =>
    exfalso
    rcases hlate hunblocked with hnow | ⟨work, reception, hdoing, -⟩
    · have hlater := (d.millisUp_le_iff (a.worker.now - 1)).1 (by omega)
      omega
    · rw [hreturned] at hdoing
      cases hdoing

variable [Connector σ]

/-- A call goes on, with a deadline behind it or without. -/
theorem of_proceed {u : Worker (Recorder σ)} {p : Progress} {expires : Option Nat} (hreceives : p.Receives s)
    (hunlimited : u.Unlimited) (hclock : u.now ≤ d.millisUp)
    (hexpires : ∀ work, p = .busy work →
      ({ u with deadline := some d, expires } : Worker (Recorder σ)).nextExpiry work = some d.millisUp)
    (taken : Stream → List UInt8) :
    Trails d s unblocked ⟨u.proceed p, taken⟩
      ⟨({ u with deadline := some d, expires } : Worker (Recorder σ)).proceed p, taken⟩ := by
  cases p with
  | finished s' r => exact .returned rfl hclock rfl rfl
  | busy work =>
    refine .going (Worker.proceed_progress u _) (hreceives work rfl) (hunlimited.proceed (.busy work)) ?_ ?_
      rfl
    · rw [Worker.now_proceed]
      exact hclock
    · exact Worker.proceed_within u d (hexpires work rfl)

/-- When the deadline has struck, the other worker may still go on. -/
theorem of_struck {limit : Nat}
    (hdoing : b.worker.doing = .finished s.fail (.error (.phase .receive s.endpoint (.timeout d))))
    (hnow : b.worker.now = d.millisUp) (hrecord : b.worker.connector.record <+: a.worker.connector.record)
    (hstreams : ∀ stream, b.Precedes a stream) (hunlimited : a.worker.Unlimited)
    (hlate : unblocked → ((a.worker.step limit).getD a.worker).Late d.millisUp) :
    Trails d s unblocked (a.act (.work limit)) b := by
  refine .struck hdoing hnow ?_ ?_ ?_ hlate
  · exact getD_step (P := fun w => b.worker.connector.record <+: w.connector.record) hrecord
      fun _ hstep => hrecord.trans (Worker.record_step hstep)
  · exact fun stream => (hstreams stream).trans (Scene.precedes_work a limit stream)
  · exact getD_step hunlimited fun _ => hunlimited.step

/-- What the workers do by themselves. -/
theorem work (h : Trails d s unblocked a b) (hunblocked : unblocked → ¬ a.worker.Blocked) (limit : Nat) :
    Trails d s unblocked (a.act (.work limit)) (b.act (.work limit)) := by
  cases h with
  | @going work hbusy hreceives hunlimited hclock hworker htaken =>
    cases Worker.within_step hunlimited hbusy hreceives hclock limit with
    | stays hstep htimed _ =>
      rw [Scene.act, Scene.act, hworker, hstep, htimed]
      exact .going hbusy hreceives hunlimited hclock rfl htaken
    | @goesOn u p hturn htimed hclock' =>
      rw [Scene.act, Scene.act, hworker, htaken, Worker.step_eq_some_iff.2 ⟨u, p, hturn, rfl⟩,
        Worker.step_eq_some_iff.2 ⟨_, p, htimed, rfl⟩, Option.getD_some, Option.getD_some]
      have hunlimited' : u.Unlimited := hunlimited.turn hturn
      cases p with
      | none => exact .going (hturn.progress_of_none.trans hbusy) hreceives hunlimited' hclock' rfl rfl
      | some p =>
        have hreceives' : p.Receives s := hturn.receives hbusy hreceives
        have hexpires : ∀ work', p = .busy work' → (u.within d).nextExpiry work' = some d.millisUp :=
          fun work' hbusy' => if_pos (hreceives' work' hbusy').receiving
        exact .of_proceed hreceives' hunlimited' hclock' hexpires a.taken
    | strikes htimed hlate =>
      have hb : b.act (.work limit) = ⟨a.worker.struck d s, a.taken⟩ := by
        rw [Scene.act, hworker, htimed, htaken, Option.getD_some]
      rw [hb]
      refine .of_struck rfl rfl (List.prefix_refl _) (fun stream => ?_) hunlimited fun hu => hlate (hunblocked hu)
      refine Scene.precedes_of_same ?_ rfl
      cases stream <;> rfl
  | returned hdoing hclock hworker htaken =>
    have hstep : a.worker.step limit = none := Worker.step_of_finished limit hdoing
    have htimed : ({ a.worker with deadline := some d } : Worker (Recorder σ)).step limit = none :=
      Worker.step_of_finished limit hdoing
    rw [Scene.act, Scene.act, hworker, hstep, htimed]
    exact .returned hdoing hclock rfl htaken
  | struck hdoing hnow hrecord hstreams hunlimited hlate =>
    have hb : b.act (.work limit) = b := by
      rw [Scene.act, Worker.step_of_finished limit hdoing, Option.getD_none]
    rw [hb]
    refine .of_struck hdoing hnow hrecord hstreams hunlimited fun hu => ?_
    exact getD_step (P := fun w => w.Late d.millisUp) (hlate hu) fun _ => (hlate hu).step hunlimited

/-- **Whatever is let happen, one scene trails the other**, as long as time goes on only by waiting. -/
theorem act (h : Trails d s unblocked a b) (hunblocked : unblocked → ¬ a.worker.Blocked) {act : Scene.Act}
    (hpause : ∀ time, act ≠ .pause time) : Trails d s unblocked (a.act act) (b.act act) := by
  cases act with
  | work limit => exact h.work hunblocked limit
  | read stream count =>
    refine h.setPipe ?_ fun hstreams stream' => (hstreams stream').read stream count
    intro hpipe htaken
    rw [hpipe, htaken]
    exact ⟨rfl, rfl⟩
  | drop stream =>
    refine h.setPipe ?_ fun hstreams stream' => (hstreams stream').drop stream
    intro hpipe htaken
    rw [hpipe, htaken]
    exact ⟨rfl, rfl⟩
  | pause time => exact absurd rfl (hpause time)

/-- **A whole schedule** keeps one scene behind the other. -/
theorem play (h : Trails d s unblocked a b) {acts : List Scene.Act} (hpause : ∀ time, .pause time ∉ acts)
    (hunblocked : unblocked → ∀ n, ¬ (a.play (acts.take n)).worker.Blocked) :
    Trails d s unblocked (a.play acts) (b.play acts) := by
  induction acts generalizing a b with
  | nil => exact h
  | cons act acts ih =>
    refine ih (h.act (fun hu => hunblocked hu 0) ?_) ?_ fun hu n => hunblocked hu (n + 1)
    · rintro time rfl
      exact hpause time List.mem_cons_self
    · exact fun time hmem => hpause time (List.mem_cons_of_mem act hmem)

/-- When a call goes on longer than until the deadline, the one with the deadline fails then. -/
theorem fails_of_outlasts {time : Nat} (h : Trails d s unblocked a b) (htime : d.millisUp ≤ time)
    (houtlasts : a.worker.Outlasts time) :
    (b.act (.work time)).worker.doing = .finished s.fail (.error (.phase .receive s.endpoint (.timeout d))) ∧
      (b.act (.work time)).worker.now = d.millisUp := by
  cases h with
  | going hbusy hreceives hunlimited hclock hworker htaken =>
    have hstep : a.worker.step time = none := by
      rcases houtlasts with hnow | ⟨-, hstep⟩
      · omega
      · exact hstep
    cases Worker.within_step hunlimited hbusy hreceives hclock time with
    | stays _ _ hearly => omega
    | goesOn hturn =>
      rw [Worker.step_eq_some_iff.2 ⟨_, _, hturn, rfl⟩] at hstep
      cases hstep
    | strikes htimed =>
      rw [Scene.act, hworker, htimed]
      exact ⟨rfl, rfl⟩
  | returned hdoing hclock =>
    rcases houtlasts with hnow | ⟨hgoing, -⟩
    · omega
    · exact absurd hdoing (hgoing _ _)
  | struck hdoing hnow =>
    rw [Scene.act, Worker.step_of_finished time hdoing]
    exact ⟨hdoing, hnow⟩

end Trails

/-- Two calls begin together, with a deadline and without. -/
theorem trails_receive [Connector σ] (c : σ) (d : Duration) (stdout stderr : Pipe) (s : Session)
    (unblocked : Prop) :
    Trails d s unblocked (Scene.receive c none stdout stderr s) (Scene.receive c (some d) stdout stderr s) := by
  let idle : Worker (Recorder σ) := ⟨.fresh c, none, none, stdout, stderr, 0, .finished s (.ok .nothing)⟩
  have hreceives := s.receives_begin
  refine .of_proceed (u := idle) hreceives ⟨rfl, rfl⟩ (Nat.zero_le _) (fun work hbusy => ?_) fun _ => []
  rw [Worker.nextExpiry, if_pos (hreceives work hbusy).receiving]
  exact congrArg some (Nat.zero_add _)

/-! ## Cleaning up behind the deadline -/

/-- What is let happen in a scene is made of moves. -/
theorem Scene.reaches_play [Connector σ] (a : Scene σ) (acts : List Scene.Act) :
    a.worker.Reaches (a.play acts).worker := by
  induction acts generalizing a with
  | nil => exact .refl
  | cons act acts ih =>
    have hact : a.worker.Reaches (a.act act).worker := by
      cases act with
      | work limit =>
        rw [Scene.act]
        cases hstep : a.worker.step limit with
        | none => exact .refl
        | some w => exact .single (.work limit hstep)
      | read stream count => exact .single (.pipe _ stream _)
      | drop stream => exact .single (.pipe _ stream _)
      | pause time => exact .single (.pause _ time)
    exact hact.trans (ih (a.act act))

/-- The deadline of a worker is what it was told in the beginning. -/
theorem Worker.deadline_of_reaches [Connector σ] {w w' : Worker σ} (h : w.Reaches w') :
    w'.deadline = w.deadline := by
  induction h with
  | refl => rfl
  | tail _ hmove ih =>
    refine Eq.trans ?_ ih
    cases hmove with
    | work limit hstep =>
      obtain ⟨u, p, hturn, rfl⟩ := step_eq_some_iff.1 hstep
      cases p with
      | none => exact hturn.deadline
      | some p => exact (proceed_deadline u p).trans hturn.deadline
    | pipe stream p => exact setPipe_deadline ..
    | pause => rfl

variable {endpoint line : String} {record : List Exchange}

/-- A call of `execute` whose deadline strikes terminates its command. -/
theorem Executing.expired {work : Work} (h : Executing endpoint line record (.busy work))
    (hreceiving : work.isReceiving = true) (d : Duration) : ∃ shell command t,
      Session.shellId t = some shell ∧ t.stage = .failed ∧
        work.expired d = .busy ⟨t, .cleanup (.error (.phase .receive endpoint (.timeout d))),
          .signalling shell command⟩ := by
  generalize hbusy : Progress.busy work = q at h
  cases h with
  | opening | starting | signalling | closing =>
    obtain rfl := Progress.busy.inj hbusy
    cases hreceiving
  | polling | writing =>
    obtain rfl := Progress.busy.inj hbusy
    exact ⟨_, _, _, rfl, rfl, rfl⟩
  | finished => cases hbusy

/-- Whatever a call of `execute` sends for its cleanup is answered, if the connector answers such requests. -/
theorem attended_execute [Connector σ] {c : σ} (hanswers : AnswersCleanup c) (deadline : Option Duration)
    (stdout stderr : Pipe) (endpoint line : String) :
    Attended (Scene.execute c deadline stdout stderr endpoint line).worker := by
  have hfresh : Attended (⟨.fresh c, deadline, none, stdout, stderr, 0,
      .finished (.unopened endpoint) (.ok .nothing)⟩ : Worker (Recorder σ)) :=
    ⟨hanswers, fun _ hx => absurd hx List.not_mem_nil⟩
  exact hfresh.proceed ((Session.unopened endpoint).begin (.execute line))

/-- A call of `execute` has begun to clean up: behind what was sent before, the command has been terminated; the shell
is deleted next, and nothing else is sent. -/
structure CleansUp [Connector σ] (c : σ) (before a : Scene (Recorder σ)) (r : Result) (shell command : String) :
    Prop where
  signalled : ∃ x : Exchange, x.request = .signal shell command ∧
    a.worker.connector.record = before.worker.connector.record ++ [x]
  returned : ∀ more s r', (a.play more).worker.doing = .finished s r' → s.stage = .failed ∧ r' = r ∧
    (a.play more).worker.connector.record.map Exchange.request =
      before.worker.connector.record.map Exchange.request ++ [.signal shell command, .delete shell]
  returns : AnswersCleanup c → ∀ more, ∃ (limits : List Nat) (s : Session) (r' : Result),
    ((a.play more).play (limits.map .work)).worker.doing = .finished s r'

/-- **A call of `execute` whose deadline strikes cleans up.** -/
theorem cleansUp_of_isDue [Connector σ] {c : σ} {d : Duration} {stdout stderr : Pipe} {a : Scene (Recorder σ)}
    {earlier : List Scene.Act} (ha : a = (Scene.execute c (some d) stdout stderr endpoint line).play earlier)
    {limit : Nat} (hdue : a.worker.IsDue limit) : ∃ shell command,
      CleansUp c a (a.act (.work limit)) (.error (.phase .receive endpoint (.timeout d))) shell command := by
  obtain ⟨-, hcoherent, -, hexecuting, -⟩ : Paired endpoint line a a := by
    rw [ha]
    exact (paired_execute (c := c) (d := c) (fun _ _ _ _ => rfl) (some d) stdout stderr endpoint line).play earlier
  have hdeadline : a.worker.deadline = some d := by
    rw [ha, Worker.deadline_of_reaches (Scene.reaches_play _ earlier)]
    exact Worker.proceed_deadline ..
  -- the deadline strikes
  obtain ⟨work, due, hexposed, hexpires, hlimit⟩ := hdue
  obtain ⟨work', hbusy, hreceiving⟩ := hcoherent.expires (by rw [hexpires]; exact Option.some_ne_none _)
  obtain rfl : work = work' := Progress.busy.inj (hexposed.progress.symm.trans hbusy)
  rw [hexposed.progress] at hexecuting
  obtain ⟨shell, command, t, hshell, hfailed, hexpired⟩ := hexecuting.expired hreceiving d
  have hstep : a.worker.step limit = some (({ a.worker with now := max a.worker.now due } : Worker _).proceed
      (work.expired d)) := by
    rw [Worker.step_of_exposed hexposed]
    exact Worker.expire_eq_some_iff.2 ⟨due, d, hexpires, hdeadline, hlimit, rfl⟩
  -- from here on the requests, the session and the result are settled
  obtain ⟨x, hx, hrecord⟩ : ∃ x : Exchange, x.request = .signal shell command ∧
      (a.act (.work limit)).worker.connector.record = a.worker.connector.record ++ [x] := by
    rw [act_work_of_step hstep, hexpired]
    exact (Worker.proceed_coherent _ _).2.eq_of_sent rfl
  have hsettled : Settled a.worker.connector.record [.signal shell command, .delete shell] t.deleted
      (.error (.phase .receive endpoint (.timeout d))) (a.act (.work limit)).worker.connector.record
      (a.act (.work limit)).worker.progress := by
    rw [hrecord, act_work_of_step hstep, Worker.proceed_progress, hexpired]
    exact .signalling hshell rfl (by rw [hx])
  have hcoherent' : (a.act (.work limit)).worker.Coherent := by
    rw [act_work_of_step hstep]
    exact (Worker.step_next hcoherent hstep).1
  have hlater := fun more =>
    (Scene.reaches_play (a.act (.work limit)) more).invariant Settled.next hcoherent' hsettled
  refine ⟨shell, command, ⟨x, hx, hrecord⟩, fun more s r hreturned => ?_, fun hanswers more => ?_⟩
  · obtain ⟨-, hend⟩ := hlater more
    rw [Worker.progress_eq_finished_iff.2 hreturned] at hend
    obtain ⟨rfl, rfl, hrequests⟩ := hend.eq_of_finished
    exact ⟨if_pos hfailed, rfl, hrequests⟩
  · have hattended : Attended a.worker := by
      rw [ha]
      exact (attended_execute hanswers (some d) stdout stderr endpoint line).play earlier
    obtain ⟨hlast, hend⟩ := hlater more
    obtain ⟨limits, hfinished⟩ := hend.finishes hlast ((hattended.act (.work limit)).play more)
    exact ⟨limits, _, _, hfinished⟩

/-! ## Main result -/

/-- **A deadline only cuts receiving short.**  Two calls of `receive`, the second one with a deadline, run to one
schedule in which time goes on only by waiting:

* the exchanges of the second one are the first ones of the other one, and so is all that can be seen in its pipes;
* if the first one is never blocked by its readers and has returned when the deadline strikes, the second one has
  done all the same;
* if the first one goes on longer than that, the second one fails when the deadline strikes.

A call of `execute` whose deadline strikes still terminates its command and deletes its shell. -/
theorem receive_deadline [Connector σ] (c : σ) (s : Session) (stdout stderr : Pipe) (deadline : Duration)
    (acts : List Scene.Act) (hpause : ∀ time, .pause time ∉ acts) :
    let start := Scene.receive c none stdout stderr s
    let free := start.play acts
    let timed := (Scene.receive c (some deadline) stdout stderr s).play acts
    (timed.worker.connector.record <+: free.worker.connector.record ∧ ∀ stream, timed.Precedes free stream) ∧
    (∀ s' r, (∀ n, ¬ (start.play (acts.take n)).worker.Blocked) → free.worker.doing = .finished s' r →
      free.worker.now * 1000000 ≤ deadline.nanoseconds →
        timed.worker = { free.worker with deadline := some deadline } ∧ timed.taken = free.taken) ∧
    (∀ time, deadline.nanoseconds ≤ time * 1000000 → free.worker.Outlasts time →
      (timed.act (.work time)).worker.doing =
          .finished s.fail (.error (.phase .receive s.endpoint (.timeout deadline))) ∧
        (timed.act (.work time)).worker.now = deadline.millisUp) ∧
    ∀ endpoint line earlier limit,
      let a := (Scene.execute c (some deadline) stdout stderr endpoint line).play earlier
      a.worker.IsDue limit → ∃ shell command,
        CleansUp c a (a.act (.work limit)) (.error (.phase .receive endpoint (.timeout deadline))) shell command := by
  intro start free timed
  have htrails : ∀ unblocked, (unblocked → ∀ n, ¬ (start.play (acts.take n)).worker.Blocked) →
      Trails deadline s unblocked free timed := fun unblocked =>
    (trails_receive c deadline stdout stderr s unblocked).play hpause
  refine ⟨(htrails False False.elim).precedes, ?_, ?_, ?_⟩
  · intro s' r hunblocked hreturned hclock
    exact (htrails True fun _ => hunblocked).eq_of_returned trivial hreturned hclock
  · intro time htime houtlasts
    exact (htrails False False.elim).fails_of_outlasts ((deadline.millisUp_le_iff time).2 htime) houtlasts
  · intro endpoint line earlier limit a hdue
    exact cleansUp_of_isDue rfl hdue

/-- A connector whose answers are laid down, each with the time it takes.  When they are used up, every request
fails. -/
structure Timetable where
  answers : List (Nat × Except Failure Document)

instance : Connector Timetable where
  send c _ := (some (c.answers.headD (0, .error .notFinished)), ⟨c.answers.tail⟩)

theorem answersCleanup_timetable (c : Timetable) : AnswersCleanup c :=
  fun _ _ _ => Option.some_ne_none _

/-- A command that takes three answers, each of them after 200 ms, is cut short by a deadline of 500 ms and not by one
of 700 ms. -/
theorem receive_deadline_slow_answers :
    let s : Session := ⟨"http://host/wsman", .commandRunning, some "S", some "C", none⟩
    let hello : Except Failure Document := .ok ⟨⟨some Soap.shellUri, "Stream", [("Name", "stdout")], "aGk=", []⟩, ""⟩
    let last : Except Failure Document := .ok ⟨⟨some Soap.shellUri, "CommandState", [("State", Soap.commandDone)], "",
      [⟨some Soap.shellUri, "ExitCode", [], "7", []⟩]⟩, ""⟩
    let c : Timetable := ⟨[(200, hello), (200, hello), (200, last)]⟩
    let timeout : Failure := .phase .receive "http://host/wsman" (.timeout (.ofMillis 500))
    let receiving := fun deadline stdout =>
      (Scene.receive c deadline stdout .discarding s).play (List.replicate 12 (.work 600))
    let e : Timetable := ⟨[(0, .ok (Replies.document Soap.shellUri "ShellId" "S")),
      (0, .ok (Replies.document Soap.shellUri "CommandId" "C")), (60000, hello)]⟩
    let a := (Scene.execute e (some (.ofMillis 500)) (.ofCapacity 64) .discarding "http://host/wsman" "dir").play
      (List.replicate 2 (.work 0))
    (receiving none (.ofCapacity 64)).worker.doing =
        .finished { s with stage := .commandDone, exitCode := some 7 } (.ok (.code 7)) ∧
      ((receiving (some (.ofMillis 500)) (.ofCapacity 64)).act (.work 500)).worker.doing =
        .finished s.fail (.error timeout) ∧
      (receiving (some (.ofMillis 500)) (.ofCapacity 64)).readable .stdout <+:
        (receiving none (.ofCapacity 64)).readable .stdout ∧
      (receiving (some (.ofMillis 700)) .discarding).worker.doing =
        .finished { s with stage := .commandDone, exitCode := some 7 } (.ok (.code 7)) ∧
      ∃ shell command, CleansUp e a (a.act (.work 500)) (.error timeout) shell command ∧
        ∃ (limits : List Nat) (t : Session) (r : Result),
          ((a.act (.work 500)).play (limits.map .work)).worker.doing = .finished t r := by
  intro s hello last c timeout receiving e a
  have hpause : ∀ time, Scene.Act.pause time ∉ List.replicate 12 (Scene.Act.work 600) := by
    intro time hmem
    cases List.eq_of_mem_replicate hmem
  have hreturned : ∀ stdout : Pipe, stdout = .ofCapacity 64 ∨ stdout = .discarding →
      (receiving none stdout).worker.doing =
          .finished { s with stage := .commandDone, exitCode := some 7 } (.ok (.code 7)) ∧
        (receiving none stdout).worker.now = 600 := by
    rintro stdout (rfl | rfl)
    · exact ⟨by cbv, by cbv⟩
    · exact ⟨by cbv, by cbv⟩
  obtain ⟨⟨-, hprecedes⟩, -, hfails, -⟩ :=
    receive_deadline c s (.ofCapacity 64) .discarding (.ofMillis 500) _ hpause
  obtain ⟨-, hsame, -, -⟩ := receive_deadline c s .discarding .discarding (.ofMillis 700) _ hpause
  obtain ⟨-, -, -, hcleans⟩ := receive_deadline e s (.ofCapacity 64) .discarding (.ofMillis 500) _ hpause
  refine ⟨(hreturned _ (.inl rfl)).1, ?_, ?_, ?_, ?_⟩
  · refine (hfails 500 (by decide) (.inl ?_)).1
    rw [show _ = 600 from (hreturned _ (.inl rfl)).2]
    decide
  · exact (hprecedes .stdout).readable (by cbv)
  · obtain ⟨hdone, hnow⟩ := hreturned _ (.inr rfl)
    have hfree := hsame _ _ (fun n => Scene.not_blocked_of_not_carries (fun stream => by cases stream <;> rfl) _) hdone
      (by rw [show _ = 600 from hnow]; decide)
    rw [show (receiving (some (.ofMillis 700)) .discarding).worker = _ from hfree.1]
    exact hdone
  · have hdoing : a.worker.doing = .waiting ⟨⟨"http://host/wsman", .commandRunning, some "S", some "C", none⟩,
        .execute "dir", .polling ⟨"S", "C", false, none⟩⟩ (some (60000, hello)) := by cbv
    have hexpires : a.worker.expires = some 500 := by cbv
    have hexposed : a.worker.Exposed _ := .late hdoing (by rw [hexpires]; decide)
    obtain ⟨shell, command, hcleansUp⟩ := hcleans "http://host/wsman" "dir" (List.replicate 2 (.work 0)) 500
      ⟨_, 500, hexposed, hexpires, Nat.le_refl 500⟩
    exact ⟨shell, command, hcleansUp, hcleansUp.returns (answersCleanup_timetable e) []⟩

end Shell

end RemoteShell
