import RemoteShell.Proofs.Pipe.Fifo
import RemoteShell.Proofs.Shell.Readable

/-!
# How long a worker has to work

A connector with a `Budget` answers every request, and its answers take only so much time and hold only so much
output in all.  A worker with such a connector that does not have to wait for its readers goes on until its call
returns, and has less to do with every step (`Worker.OnTime.advances`).  So it takes no more steps than there are
bytes to write and answers to come, and a few more.

Behind a failure nothing but the cleanup is left, which is two requests at most.  Each answer to a request for output
is paid for when the request is sent: with its bytes, and with a step for coming and for each of the two streams.
-/

namespace RemoteShell

/-- A pipe gives back no more than it was given. -/
theorem Pipe.Accepts.length_le {p p' : Pipe} {bytes rest : List UInt8} (h : p.Accepts bytes p' rest) :
    rest.length ≤ bytes.length := by
  cases hcarries : p.carries with
  | true =>
    obtain ⟨part, rfl, -⟩ := h.carried hcarries
    rw [List.length_append]
    exact Nat.le_add_left _ _
  | false =>
    rw [h.discarded hcarries]
    exact Nat.zero_le _

/-- A pipe with nothing in it does not hold up its writer. -/
theorem Pipe.isStuck_of_empty {p : Pipe} (hempty : p.buffer = []) (hcapacity : 0 < p.capacity) (rest : List UInt8) :
    p.isStuck rest = false := by
  rw [← Bool.not_eq_true]
  exact fun hstuck => buffer_ne_nil_of_isStuck hcapacity hstuck hempty

namespace Shell

open Soap (Request)
open Xml (Document)

variable {σ : Type}

/-! ## What is to be done -/

/-- How many bytes an answer holds for a stream. -/
def outputLength (d : Document) (stream : Stream) : Nat :=
  match Soap.Response.stream d stream.field with
  | .ok bytes => bytes.length
  | .error _ => 0

/-- How many steps an answer takes at most until its output has been written. -/
def answerEffort : Except Failure Document → Nat
  | .ok d => outputLength d .stdout + outputLength d .stderr + 3
  | .error _ => 0

/-- How many steps are left at most when a call is here, without those that answers take.  `rest` is the number of
bytes that have not been written yet. -/
def Activity.effort (rest : Nat) : Activity → Nat
  | .opening => 5
  | .starting .. => 4
  | .writing _ d .stdout _ => rest + outputLength d .stderr + 5
  | .writing _ _ .stderr _ => rest + 4
  | .polling _ => 3
  | .signalling .. => 2
  | .closing _ => 1

/-- How many bytes a call has to write. -/
def Work.load (w : Work) : Nat :=
  match w.demand with
  | .answer _ => 0
  | .room _ bytes => bytes.length

/-- How many steps are left at most to a call, without those that answers take. -/
def Progress.effort : Progress → Nat
  | .busy work => work.activity.effort work.load
  | .finished .. => 0

theorem Activity.effort_mono {m n : Nat} (h : m ≤ n) (a : Activity) : a.effort m ≤ a.effort n := by
  cases a with
  | writing p d stream bytes =>
    cases stream <;> simp only [effort] <;> omega
  | _ => exact Nat.le_refl _

namespace Session

/-! ### Behind a failure only the cleanup is left -/

theorem effort_beginClose (s : Session) (plan : Plan) (r : Result) : (s.beginClose plan r).effort ≤ 1 := by
  rw [beginClose]
  split
  · exact Nat.zero_le _
  · exact Nat.le_refl _

theorem effort_conclude (s : Session) (plan : Plan) (r : Result) : (s.conclude plan r).effort ≤ 2 := by
  cases plan with
  | execute command =>
    rw [conclude, beginCleanup]
    split
    · exact Nat.le_refl _
    · exact Nat.le_succ_of_le (effort_beginClose ..)
  | single | cleanup => exact Nat.zero_le _

theorem effort_beginRun (s : Session) (plan : Plan) (command : String) : (s.beginRun plan command).effort ≤ 4 := by
  rw [beginRun]
  split
  · exact Nat.le_trans (effort_conclude ..) (by decide)
  · split
    · exact Nat.le_trans (effort_conclude ..) (by decide)
    · exact Nat.le_refl _

theorem effort_beginReceive (s : Session) (plan : Plan) : (s.beginReceive plan).effort ≤ 3 := by
  unfold beginReceive
  simp only
  split
  · exact Nat.le_trans (effort_conclude ..) (by decide)
  · exact Nat.le_refl _

theorem effort_begin (s : Session) (call : Call) : (s.begin call).effort ≤ 5 := by
  have hopen : ∀ plan, (s.beginOpen plan).effort ≤ 5 := by
    intro plan
    rw [beginOpen]
    split
    · exact Nat.zero_le _
    · exact Nat.le_refl _
  cases call with
  | «open» => exact hopen _
  | execute command => exact hopen _
  | run command => exact Nat.le_succ_of_le (effort_beginRun ..)
  | receive => exact Nat.le_trans (effort_beginReceive ..) (by decide)
  | signal =>
    rw [begin]
    split
    · exact (by decide : 2 ≤ 5)
    · exact Nat.zero_le _
  | close => exact Nat.le_trans (effort_beginClose ..) (by decide)

end Session

namespace Work

variable {w : Work} {request : Request}

theorem effort_failReceiving (w : Work) (e : Failure) : (w.failReceiving e).effort ≤ 2 :=
  Session.effort_conclude ..

theorem effort_beginWriting (w : Work) (p : Polling) (d : Document) (stream : Stream) :
    (w.beginWriting p d stream).effort ≤ (Activity.writing p d stream []).effort (outputLength d stream) := by
  have hpos : 2 ≤ (Activity.writing p d stream []).effort (outputLength d stream) := by
    cases stream <;> simp only [Activity.effort] <;> omega
  rw [beginWriting]
  cases hstream : Soap.Response.stream d stream.field with
  | error e => exact Nat.le_trans (effort_failReceiving w e) hpos
  | ok bytes =>
    have hlength : outputLength d stream = bytes.length := by rw [outputLength, hstream]
    rw [hlength]
    cases stream <;> exact Nat.le_refl _

theorem effort_finishAnswer (w : Work) (p : Polling) (d : Document) : (w.finishAnswer p d).effort ≤ 3 := by
  unfold finishAnswer
  simp only
  split
  · split
    · exact Nat.le_succ_of_le (effort_failReceiving ..)
    · split
      · exact Nat.le_succ_of_le (effort_failReceiving ..)
      · exact Nat.le_succ_of_le (Session.effort_conclude ..)
  · exact Nat.le_refl _

/-- **An answer leaves less to do**, when what it takes to write its output is added before. -/
theorem effort_answered (hdemand : w.demand = .answer request) (answer : Except Failure Document) :
    (w.answered answer).effort < (Progress.busy w).effort + answerEffort answer := by
  obtain ⟨s, plan, activity⟩ := w
  have hload : (Work.mk s plan activity).load = 0 := by rw [load, hdemand]
  rw [Progress.effort, hload]
  cases activity with
  | writing => cases hdemand
  | opening =>
    refine Nat.lt_of_lt_of_le (Nat.lt_succ_of_le ?_) (Nat.le_add_right 5 _)
    simp only [answered]
    split
    · exact Nat.zero_le _
    · split
      · exact Session.effort_beginRun ..
      · exact Nat.zero_le _
  | starting =>
    refine Nat.lt_of_lt_of_le (Nat.lt_succ_of_le ?_) (Nat.le_add_right 4 _)
    simp only [answered]
    split
    · exact Nat.le_succ_of_le (Session.effort_conclude ..)
    · split
      · exact Session.effort_beginReceive ..
      · exact Nat.zero_le _
  | polling p =>
    cases answer with
    | error e => exact Nat.lt_succ_of_le (effort_failReceiving _ e)
    | ok d =>
      refine Nat.lt_of_le_of_lt (effort_beginWriting _ p d .stdout) ?_
      simp only [Activity.effort, answerEffort]
      omega
  | signalling =>
    refine Nat.lt_of_lt_of_le (Nat.lt_succ_of_le ?_) (Nat.le_add_right 2 _)
    simp only [answered]
    split
    · exact Session.effort_beginClose ..
    · exact Nat.zero_le _
  | closing =>
    refine Nat.lt_of_lt_of_le (Nat.lt_succ_of_le ?_) (Nat.le_add_right 1 _)
    simp only [answered]
    split <;> exact Nat.zero_le _

/-- When the last bytes have been written, there is less to do. -/
theorem effort_written {stream : Stream} {bytes : List UInt8} (hdemand : w.demand = .room stream bytes) (rest : Nat) :
    w.written.effort < w.activity.effort rest := by
  obtain ⟨s, plan, activity⟩ := w
  cases activity with
  | writing p d other =>
    cases other with
    | stdout =>
      refine Nat.lt_of_le_of_lt (effort_beginWriting _ p d .stderr) ?_
      simp only [Activity.effort]
      omega
    | stderr =>
      refine Nat.lt_of_le_of_lt (effort_finishAnswer _ p d) ?_
      simp only [Activity.effort]
      omega
  | _ => cases hdemand

/-- When some bytes have been written, there is less to do. -/
theorem effort_lt_of_writing {stream : Stream} {bytes : List UInt8} (hdemand : w.demand = .room stream bytes)
    {m n : Nat} (h : m < n) : w.activity.effort m < w.activity.effort n := by
  obtain ⟨s, plan, activity⟩ := w
  cases activity with
  | writing p d other =>
    cases other <;> simp only [Activity.effort] <;> omega
  | _ => cases hdemand

/-- A deadline cuts receiving short. -/
theorem effort_expired (hreceiving : w.isReceiving = true) (after : Duration) (rest : Nat) :
    (w.expired after).effort < w.activity.effort rest := by
  rw [expired, if_pos hreceiving]
  refine Nat.lt_of_le_of_lt (effort_failReceiving w _) ?_
  obtain ⟨s, plan, activity⟩ := w
  cases activity with
  | polling => exact Nat.lt_succ_self 2
  | writing p d stream =>
    cases stream <;> simp only [Activity.effort] <;> omega
  | _ => cases hreceiving

end Work

/-! ## What answers take -/

/-- A connector that answers every request, and a bound on what its answers take in all. -/
structure Budget (σ : Type) [Connector σ] where
  /-- The milliseconds until the last answer comes. -/
  time : σ → Nat
  /-- The steps that the answers take. -/
  effort : σ → Nat
  answers : ∀ (c : σ) (r : Request), ∃ delay answer, (Connector.send c r).1 = some (delay, answer) ∧
    delay + time (Connector.send c r).2 ≤ time c ∧
    answerEffort answer + effort (Connector.send c r).2 ≤ effort c

namespace Worker

variable [Connector σ] {b : Budget σ} {limit : Nat} {w u : Worker σ} {work : Work} {stream : Stream}
  {rest : List UInt8}

/-- How many steps are left to a worker at most. -/
def effort (b : Budget σ) (w : Worker σ) : Nat :=
  match w.doing with
  | .finished .. => 0
  | .writing work _ rest => work.activity.effort rest.length + b.effort w.connector
  | .waiting work reception =>
    (Progress.busy work).effort + (reception.map fun r => answerEffort r.2).getD 0 + b.effort w.connector

/-- There is time for all answers, and room in every pipe that is empty. -/
structure Steady (b : Budget σ) (limit : Nat) (w : Worker σ) : Prop where
  now : w.now + b.time w.connector ≤ limit
  capacity : ∀ stream, 0 < (w.pipe stream).capacity
  deadline : w.expires ≠ none → w.deadline ≠ none

/-- A steady worker waits for nothing else but answers that come in time and room in its pipes. -/
structure OnTime (b : Budget σ) (limit : Nat) (w : Worker σ) : Prop extends w.Steady b limit where
  waiting : ∀ {work reception}, w.doing = .waiting work reception → ∃ request due answer,
    work.demand = .answer request ∧ reception = some (due, answer) ∧ due + b.time w.connector ≤ limit
  writing : ∀ {work stream rest}, w.doing = .writing work stream rest → ∃ bytes, work.demand = .room stream bytes
  receiving : w.expires ≠ none → ∃ work, w.progress = .busy work ∧ work.isReceiving = true

theorem Steady.wait (h : w.Steady b limit) {time : Nat} (htime : time + b.time w.connector ≤ limit) :
    ({ w with now := max w.now time } : Worker σ).Steady b limit := by
  refine ⟨?_, h.capacity, h.deadline⟩
  have hnow := h.now
  simp only
  omega

theorem Steady.setPipe (h : w.Steady b limit) {p : Pipe} (hcapacity : p.capacity = (w.pipe stream).capacity) :
    (w.setPipe p stream).Steady b limit := by
  refine ⟨?_, fun other => ?_, ?_⟩
  · rw [setPipe_connector, setPipe_now]
    exact h.now
  · rw [pipe_setPipe_of (R := fun p q => q.capacity = p.capacity) (fun _ => rfl) hcapacity]
    exact h.capacity other
  · rw [setPipe_expires, setPipe_deadline]
    exact h.deadline

omit [Connector σ] in
theorem deadline_of_nextExpiry (hset : w.expires ≠ none → w.deadline ≠ none) (h : w.nextExpiry work ≠ none) :
    w.deadline ≠ none := by
  rw [nextExpiry, if_pos (isReceiving_of_nextExpiry h)] at h
  cases hexpires : w.expires with
  | some due => exact hset (hexpires ▸ Option.some_ne_none due)
  | none =>
    rw [hexpires] at h
    intro hnone
    rw [hnone] at h
    exact h rfl

/-- A steady worker is on time when it goes on with a call. -/
theorem Steady.proceed (h : w.Steady b limit) (p : Progress) : (w.proceed p).OnTime b limit := by
  have hcapacity : ∀ stream, 0 < ((w.proceed p).pipe stream).capacity := fun stream =>
    (pipe_proceed_of (R := fun p q => q.capacity = p.capacity) (fun _ => rfl)
      (fun p bytes => (p.accepts_append bytes).capacity) w p stream) ▸ h.capacity stream
  cases p with
  | finished s r => exact ⟨⟨h.now, hcapacity, fun hset => absurd rfl hset⟩, nofun, nofun, fun hset => absurd rfl hset⟩
  | busy work =>
    cases hdemand : work.demand with
    | answer request =>
      obtain ⟨delay, answer, hsend, htime, -⟩ := b.answers w.connector request
      have hnow := h.now
      rw [proceed_of_answer w hdemand, hsend] at hcapacity ⊢
      refine ⟨⟨?_, hcapacity, deadline_of_nextExpiry h.deadline⟩, ?_, nofun,
        fun hset => ⟨work, rfl, isReceiving_of_nextExpiry hset⟩⟩
      · simp only
        omega
      · rintro _ _ ⟨⟩
        refine ⟨request, w.now + delay, answer, hdemand, rfl, ?_⟩
        simp only
        omega
    | room stream bytes =>
      rw [proceed_of_room w hdemand] at hcapacity ⊢
      refine ⟨⟨?_, hcapacity, ?_⟩, nofun, ?_, fun hset => ⟨work, rfl, isReceiving_of_nextExpiry hset⟩⟩
      · simpa only [setPipe_connector, setPipe_now] using h.now
      · simpa only [setPipe_deadline] using deadline_of_nextExpiry h.deadline
      · rintro _ _ _ ⟨⟩
        exact ⟨bytes, hdemand⟩

/-- Going on with a call costs nothing that has not been paid for. -/
theorem effort_proceed_le (b : Budget σ) (w : Worker σ) (p : Progress) :
    (w.proceed p).effort b ≤ p.effort + b.effort w.connector := by
  cases p with
  | finished s r => exact Nat.zero_le _
  | busy work =>
    cases hdemand : work.demand with
    | answer request =>
      obtain ⟨delay, answer, hsend, -, heffort⟩ := b.answers w.connector request
      rw [proceed_of_answer w hdemand, hsend]
      simp only [effort, Option.map_some, Option.getD_some]
      omega
    | room stream bytes =>
      have hrest := ((w.pipe stream).accepts_append bytes).length_le
      have hload : work.load = bytes.length := by rw [Work.load, hdemand]
      rw [proceed_of_room w hdemand, Progress.effort, hload]
      simp only [effort, setPipe_connector]
      exact Nat.add_le_add_right (Activity.effort_mono hrest _) _

/-- A worker that begins a call is on time, if there is time for all answers. -/
theorem onTime_start {connector : σ} (htime : b.time connector ≤ limit) (deadline : Option Duration) {stdout stderr : Pipe}
    (hstdout : 0 < stdout.capacity) (hstderr : 0 < stderr.capacity) (s : Session) (call : Call) :
    (start connector deadline stdout stderr s call).OnTime b limit ∧
      (start connector deadline stdout stderr s call).effort b ≤ 5 + b.effort connector := by
  constructor
  · refine Steady.proceed ⟨(Nat.zero_add _).trans_le htime, fun stream => ?_, fun hset => absurd rfl hset⟩ _
    cases stream
    · exact hstdout
    · exact hstderr
  · exact Nat.le_trans (effort_proceed_le b _ _) (Nat.add_le_add_right (Session.effort_begin s call) _)

/-- A worker makes progress: a turn is possible, after which it is on time and has less to do. -/
def Advances (b : Budget σ) (limit : Nat) (w : Worker σ) : Prop :=
  ∃ w', w.step limit = some w' ∧ w'.OnTime b limit ∧ w'.effort b < w.effort b

/-- A turn behind which the call goes on with less to do is progress. -/
theorem advances_of_turn {q : Progress} (hturn : w.Turn limit u (some q)) (hsteady : u.Steady b limit)
    (hless : q.effort + b.effort u.connector < w.effort b) : w.Advances b limit :=
  ⟨u.proceed q, step_eq_some_iff.2 ⟨u, some q, hturn, rfl⟩, hsteady.proceed q,
    Nat.lt_of_le_of_lt (effort_proceed_le b u q) hless⟩

/-- An answer comes, unless the deadline strikes before. -/
theorem OnTime.advances_of_waiting {reception : Reception} (h : w.OnTime b limit)
    (hdoing : w.doing = .waiting work reception) : w.Advances b limit := by
  obtain ⟨request, due, answer, hdemand, rfl, htime⟩ := h.waiting hdoing
  have heffort : w.effort b = (Progress.busy work).effort + answerEffort answer + b.effort w.connector := by
    rw [effort, hdoing]
    rfl
  cases hearly : w.expires.all (due ≤ ·) with
  | true =>
    refine advances_of_turn (.answered hdoing hearly (by omega)) (h.wait htime) ?_
    have hless := Work.effort_answered hdemand answer
    rw [heffort]
    exact Nat.add_lt_add_right hless _
  | false =>
    obtain ⟨strikes, hstrikes⟩ : ∃ strikes, w.expires = some strikes := by
      cases hexpires : w.expires with
      | some strikes => exact ⟨strikes, rfl⟩
      | none => rw [hexpires] at hearly; cases hearly
    have hset : w.expires ≠ none := hstrikes ▸ Option.some_ne_none strikes
    obtain ⟨deadline, hdeadline⟩ := Option.ne_none_iff_exists'.1 (h.deadline hset)
    obtain ⟨work', hwork, hreceiving⟩ := h.receiving hset
    obtain rfl : work = work' := Progress.busy.inj ((progress_of_waiting hdoing).symm.trans hwork)
    have hbefore : strikes < due := by
      rw [hstrikes] at hearly
      simpa using hearly
    refine advances_of_turn (.expired (.late hdoing hearly) hstrikes hdeadline (by omega)) (h.wait (by omega)) ?_
    have hless := Work.effort_expired hreceiving deadline work.load
    rw [heffort, Progress.effort]
    simp only
    omega

/-- Bytes are written to a pipe that is empty. -/
theorem OnTime.advances_of_writing (h : w.OnTime b limit) (hdoing : w.doing = .writing work stream rest)
    (hempty : (w.pipe stream).buffer = []) : w.Advances b limit := by
  obtain ⟨bytes, hdemand⟩ := h.writing hdoing
  have hfree := Pipe.isStuck_of_empty hempty (h.capacity stream) rest
  have hoffer := (w.pipe stream).accepts_offer rest
  have hsteady := h.setPipe hoffer.capacity
  have heffort : w.effort b = work.activity.effort rest.length + b.effort w.connector := by
    rw [effort, hdoing]
  by_cases hall : ((w.pipe stream).offer rest).2 = []
  · refine advances_of_turn (.wrote hdoing hfree hall) hsteady ?_
    have hless := Work.effort_written hdemand rest.length
    rw [heffort, setPipe_connector]
    exact Nat.add_lt_add_right hless _
  · have hrest : rest ≠ [] := by
      rintro rfl
      exact hall (List.eq_nil_of_length_eq_zero (Nat.le_zero.1 hoffer.length_le))
    have hless := Work.effort_lt_of_writing hdemand (Pipe.length_offer_lt hfree hrest)
    refine ⟨_, step_eq_some_iff.2 ⟨_, _, .writes hdoing hfree hall, rfl⟩,
      ⟨⟨hsteady.now, fun other => ?_, hsteady.deadline⟩, nofun, ?_, fun hset => ?_⟩, ?_⟩
    · have hcapacity := hsteady.capacity other
      cases other <;> exact hcapacity
    · rintro _ _ _ ⟨⟩
      exact ⟨bytes, hdemand⟩
    · rw [goOn, setPipe_expires] at hset
      obtain ⟨work', hwork, hreceiving⟩ := h.receiving hset
      exact ⟨work, rfl, (Progress.busy.inj ((progress_of_writing hdoing).symm.trans hwork)) ▸ hreceiving⟩
    · rw [heffort]
      simp only [goOn, effort, setPipe_connector]
      exact Nat.add_lt_add_right hless _

/-- **A worker that does not wait for its readers goes on until its call returns**, and has less to do with every
step. -/
theorem OnTime.advances (h : w.OnTime b limit) (hempty : ∀ stream, (w.pipe stream).buffer = [])
    (hbusy : w.result? = none) : w.Advances b limit := by
  rcases hdoing : w.doing with ⟨work, reception⟩ | ⟨work, stream, rest⟩ | ⟨s, r⟩
  · exact h.advances_of_waiting hdoing
  · exact h.advances_of_writing hdoing (hempty stream)
  · rw [result?, hdoing] at hbusy
    cases hbusy

end Worker

end Shell

end RemoteShell
