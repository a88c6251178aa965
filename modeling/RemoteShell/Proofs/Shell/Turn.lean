import RemoteShell.Shell.Worker

/-!
# Turns of a worker

A step of a worker has two parts: something happens, and then the call goes on, which may send a request.
`Worker.Turn` is the first part, and lists what can happen: an answer comes, the deadline strikes, the last
bytes of an output are written, or some bytes that are not the last ones.  By `Worker.step_eq_some_iff` a
step is a turn and what `Worker.goOn` makes of it; whatever is to be known of steps follows from that.

The connector has no say in a turn (`Worker.Turn.on`).  It comes in only when a request is sent, which is
what `Worker.proceed_of_answer` says; `Worker.proceed_of_room` is the other way for a call to go on.
-/

namespace RemoteShell.Shell

open Soap (Request)
open Xml (Document)

variable {σ τ : Type}

namespace Worker

/-- The call that a worker drives. -/
def progress (w : Worker σ) : Progress :=
  match w.doing with
  | .waiting work _ => .busy work
  | .writing work _ _ => .busy work
  | .finished s r => .finished s r

theorem progress_of_waiting {w : Worker σ} {work : Work} {reception : Reception}
    (h : w.doing = .waiting work reception) : w.progress = .busy work := by
  rw [progress, h]

theorem progress_of_writing {w : Worker σ} {work : Work} {stream : Stream} {rest : List UInt8}
    (h : w.doing = .writing work stream rest) : w.progress = .busy work := by
  rw [progress, h]

theorem progress_eq_finished_iff {w : Worker σ} {s : Session} {r : Result} :
    w.progress = .finished s r ↔ w.doing = .finished s r := by
  rw [progress]
  cases w.doing <;> simp

/-! ## Pipes of a worker -/

@[simp] theorem setPipe_progress (w : Worker σ) (p : Pipe) (stream : Stream) :
    (w.setPipe p stream).progress = w.progress := by
  cases stream <;> rfl

@[simp] theorem setPipe_connector (w : Worker σ) (p : Pipe) (stream : Stream) :
    (w.setPipe p stream).connector = w.connector := by
  cases stream <;> rfl

@[simp] theorem setPipe_doing (w : Worker σ) (p : Pipe) (stream : Stream) :
    (w.setPipe p stream).doing = w.doing := by
  cases stream <;> rfl

@[simp] theorem setPipe_expires (w : Worker σ) (p : Pipe) (stream : Stream) :
    (w.setPipe p stream).expires = w.expires := by
  cases stream <;> rfl

@[simp] theorem setPipe_deadline (w : Worker σ) (p : Pipe) (stream : Stream) :
    (w.setPipe p stream).deadline = w.deadline := by
  cases stream <;> rfl

@[simp] theorem setPipe_now (w : Worker σ) (p : Pipe) (stream : Stream) :
    (w.setPipe p stream).now = w.now := by
  cases stream <;> rfl

theorem pipe_setPipe (w : Worker σ) (p : Pipe) (stream : Stream) :
    (w.setPipe p stream).pipe stream = p := by
  cases stream <;> rfl

theorem pipe_setPipe_of_ne (w : Worker σ) (p : Pipe) {stream other : Stream} (h : other ≠ stream) :
    (w.setPipe p stream).pipe other = w.pipe other := by
  cases stream <;> cases other <;> first | rfl | exact absurd rfl h

/-! ## Going on with a call -/

/-- A call that waits for an answer sends its request. -/
theorem proceed_of_answer [Connector σ] (w : Worker σ) {work : Work} {request : Request}
    (h : work.demand = .answer request) :
    w.proceed (.busy work) =
      { w with
        connector := (Connector.send w.connector request).2
        expires := w.nextExpiry work
        doing := .waiting work
          ((Connector.send w.connector request).1.map fun r => (w.now + r.1, r.2)) } := by
  simp only [proceed, h]

/-- A call that waits for room begins to write its bytes. -/
theorem proceed_of_room [Connector σ] (w : Worker σ) {work : Work} {stream : Stream}
    {bytes : List UInt8} (h : work.demand = .room stream bytes) :
    w.proceed (.busy work) =
      { w.setPipe ((w.pipe stream).append bytes).1 stream with
        expires := w.nextExpiry work
        doing := .writing work stream ((w.pipe stream).append bytes).2 } := by
  simp only [proceed, h]

@[simp] theorem proceed_progress [Connector σ] (w : Worker σ) (p : Progress) :
    (w.proceed p).progress = p := by
  cases p with
  | finished s r => rfl
  | busy work =>
    rw [proceed]
    split <;> rfl

/-- Going on with a call that writes nothing leaves the pipes as they are. -/
theorem pipe_proceed_of_answer [Connector σ] (w : Worker σ) {work : Work} {request : Request}
    (h : work.demand = .answer request) (stream : Stream) :
    (w.proceed (.busy work)).pipe stream = w.pipe stream := by
  rw [proceed_of_answer w h]
  cases stream <;> rfl

@[simp] theorem proceed_deadline [Connector σ] (w : Worker σ) (p : Progress) :
    (w.proceed p).deadline = w.deadline := by
  cases p with
  | finished => rfl
  | busy work =>
    cases hdemand : work.demand with
    | answer request => rw [proceed_of_answer w hdemand]
    | room stream bytes =>
      rw [proceed_of_room w hdemand]
      exact setPipe_deadline _ _ _

/-! ## Turns -/

/-- The deadline can strike: the worker waits for room, or for an answer that does not come before it. -/
inductive Exposed (w : Worker σ) : Work → Prop
  | silent {work : Work} (doing : w.doing = .waiting work none) : Exposed w work
  | late {work : Work} {due : Nat} {answer : Except Failure Document}
      (doing : w.doing = .waiting work (some (due, answer))) (late : w.expires.all (due ≤ ·) = false) :
      Exposed w work
  | stuck {work : Work} {stream : Stream} {rest : List UInt8}
      (doing : w.doing = .writing work stream rest) (stuck : (w.pipe stream).isStuck rest = true) :
      Exposed w work

theorem Exposed.progress {w : Worker σ} {work : Work} (h : w.Exposed work) : w.progress = .busy work := by
  cases h with
  | silent hdoing => exact progress_of_waiting hdoing
  | late hdoing _ => exact progress_of_waiting hdoing
  | stuck hdoing _ => exact progress_of_writing hdoing

/-- The time of the deadline has come, and the worker is exposed to it. -/
def IsDue (w : Worker σ) (limit : Nat) : Prop :=
  ∃ work due, w.Exposed work ∧ w.expires = some due ∧ due ≤ limit

/-- What happens next until a given time: the worker then, and how its call goes on, unless it has still
more bytes to write. -/
inductive Turn (w : Worker σ) (limit : Nat) : Worker σ → Option Progress → Prop
  | answered {work : Work} {due : Nat} {answer : Except Failure Document}
      (doing : w.doing = .waiting work (some (due, answer))) (early : w.expires.all (due ≤ ·) = true)
      (due_le : due ≤ limit) : Turn w limit { w with now := max w.now due } (some (work.answered answer))
  | expired {work : Work} {due : Nat} {deadline : Duration} (exposed : w.Exposed work)
      (expires : w.expires = some due) (deadline_eq : w.deadline = some deadline) (due_le : due ≤ limit) :
      Turn w limit { w with now := max w.now due } (some (work.expired deadline))
  | wrote {work : Work} {stream : Stream} {rest : List UInt8}
      (doing : w.doing = .writing work stream rest) (free : (w.pipe stream).isStuck rest = false)
      (all : ((w.pipe stream).offer rest).2 = []) :
      Turn w limit (w.setPipe ((w.pipe stream).offer rest).1 stream) (some work.written)
  | writes {work : Work} {stream : Stream} {rest : List UInt8}
      (doing : w.doing = .writing work stream rest) (free : (w.pipe stream).isStuck rest = false)
      (more : ((w.pipe stream).offer rest).2 ≠ []) :
      Turn w limit { w.setPipe ((w.pipe stream).offer rest).1 stream with
        doing := .writing work stream ((w.pipe stream).offer rest).2 } none

/-- The worker when its call has gone on. -/
def goOn [Connector σ] (w : Worker σ) : Option Progress → Worker σ
  | none => w
  | some p => w.proceed p

section Step

variable [Connector σ] {w w' u : Worker σ} {limit : Nat} {p : Option Progress} {work : Work}

theorem expire_eq_some_iff : w.expire limit work = some w' ↔ ∃ due deadline,
    w.expires = some due ∧ w.deadline = some deadline ∧ due ≤ limit ∧
      w' = ({ w with now := max w.now due } : Worker σ).proceed (work.expired deadline) := by
  rw [expire]
  constructor
  · intro h
    split at h
    case h_2 => cases h
    case h_1 due deadline hexpires hdeadline =>
      split at h
      case isTrue hdue => exact ⟨due, deadline, hexpires, hdeadline, hdue, (Option.some.inj h).symm⟩
      case isFalse => cases h
  · rintro ⟨due, deadline, hexpires, hdeadline, hdue, rfl⟩
    simp only [hexpires, hdeadline, if_pos hdue]

/-- A worker that is exposed to its deadline does nothing else. -/
theorem step_of_exposed (h : w.Exposed work) : w.step limit = w.expire limit work := by
  cases h with
  | silent hdoing => simp only [step, hdoing]
  | late hdoing hlate => simp only [step, hdoing, hlate, Bool.false_eq_true, if_false]
  | stuck hdoing hstuck => simp only [step, hdoing, hstuck, if_true]

theorem turn_of_expire (hexposed : w.Exposed work) (h : w.expire limit work = some w') :
    ∃ u p, w.Turn limit u p ∧ w' = u.goOn p := by
  obtain ⟨due, deadline, hexpires, hdeadline, hdue, rfl⟩ := expire_eq_some_iff.1 h
  exact ⟨_, _, .expired hexposed hexpires hdeadline hdue, rfl⟩

/-- **A step is a turn**, after which the call goes on. -/
theorem step_eq_some_iff : w.step limit = some w' ↔ ∃ u p, w.Turn limit u p ∧ w' = u.goOn p := by
  constructor
  · intro h
    rcases hdoing : w.doing with ⟨work, _ | ⟨due, answer⟩⟩ | ⟨work, stream, rest⟩ | ⟨s, r⟩
    · have hexposed : w.Exposed work := .silent hdoing
      rw [step_of_exposed hexposed] at h
      exact turn_of_expire hexposed h
    · cases hearly : w.expires.all (due ≤ ·) with
      | false =>
        have hexposed : w.Exposed work := .late hdoing hearly
        rw [step_of_exposed hexposed] at h
        exact turn_of_expire hexposed h
      | true =>
        simp only [step, hdoing, hearly, if_true] at h
        split at h
        case isTrue hdue =>
          refine ⟨_, _, .answered hdoing hearly hdue, ?_⟩
          rw [← Option.some.inj h, goOn, hdoing]
        case isFalse => cases h
    · cases hfree : (w.pipe stream).isStuck rest with
      | true =>
        have hexposed : w.Exposed work := .stuck hdoing hfree
        rw [step_of_exposed hexposed] at h
        exact turn_of_expire hexposed h
      | false =>
        simp only [step, hdoing, hfree, Bool.false_eq_true, if_false] at h
        split at h
        case isTrue hall =>
          exact ⟨_, _, .wrote hdoing hfree (List.isEmpty_iff.1 hall), (Option.some.inj h).symm⟩
        case isFalse hmore =>
          exact ⟨_, _, .writes hdoing hfree fun hnil => hmore (List.isEmpty_iff.2 hnil),
            (Option.some.inj h).symm⟩
    · simp only [step, hdoing] at h
      cases h
  · rintro ⟨u, p, hturn, rfl⟩
    cases hturn with
    | answered hdoing hearly hdue =>
      simp only [step, hdoing, hearly, if_true, if_pos hdue, goOn]
    | expired hexposed hexpires hdeadline hdue =>
      rw [step_of_exposed hexposed]
      exact expire_eq_some_iff.2 ⟨_, _, hexpires, hdeadline, hdue, rfl⟩
    | wrote hdoing hfree hall =>
      simp only [step, hdoing, hfree, Bool.false_eq_true, if_false, hall, List.isEmpty_nil, if_true, goOn]
    | writes hdoing hfree hmore =>
      have hsome : ¬ (((w.pipe _).offer _).2.isEmpty = true) := fun hnil => hmore (List.isEmpty_iff.1 hnil)
      simp only [step, hdoing, hfree, Bool.false_eq_true, if_false, if_neg hsome, goOn]

/-- A worker whose call has returned does nothing more. -/
theorem step_of_finished {s : Session} {r : Result} (limit : Nat) (h : w.doing = .finished s r) :
    w.step limit = none := by
  rw [step, h]

end Step

/-! ## The same worker with another connector -/

/-- The worker with another connector. -/
def on (w : Worker σ) (connector : τ) : Worker τ :=
  { w with connector }

theorem on_setPipe (w : Worker σ) (p : Pipe) (stream : Stream) (connector : τ) :
    (w.setPipe p stream).on connector = (w.on connector).setPipe p stream := by
  cases stream <;> rfl

theorem pipe_on (w : Worker σ) (connector : τ) (stream : Stream) :
    (w.on connector).pipe stream = w.pipe stream := by
  cases stream <;> rfl

theorem Exposed.on {w : Worker σ} {work : Work} (h : w.Exposed work) (connector : τ) :
    (w.on connector).Exposed work := by
  cases h with
  | silent hdoing => exact .silent hdoing
  | late hdoing hlate => exact .late hdoing hlate
  | stuck hdoing hstuck => exact .stuck hdoing (by rwa [pipe_on])

/-- **The connector has no say in a turn.** -/
theorem Turn.on {w u : Worker σ} {limit : Nat} {p : Option Progress} (h : w.Turn limit u p)
    (connector : τ) : (w.on connector).Turn limit (u.on connector) p := by
  cases h with
  | answered hdoing hearly hdue => exact .answered hdoing hearly hdue
  | expired hexposed hexpires hdeadline hdue => exact .expired (hexposed.on connector) hexpires hdeadline hdue
  | @wrote work stream rest hdoing hfree hall =>
    have hturn : (w.on connector).Turn limit
        ((w.on connector).setPipe (((w.on connector).pipe stream).offer rest).1 stream)
        (some work.written) :=
      .wrote hdoing (by rwa [pipe_on]) (by rwa [pipe_on])
    rwa [pipe_on, ← on_setPipe] at hturn
  | @writes work stream rest hdoing hfree hmore =>
    have hturn : (w.on connector).Turn limit
        { (w.on connector).setPipe (((w.on connector).pipe stream).offer rest).1 stream with
          doing := .writing work stream (((w.on connector).pipe stream).offer rest).2 } none :=
      .writes hdoing (by rwa [pipe_on]) (by rwa [pipe_on])
    rwa [pipe_on, ← on_setPipe] at hturn

/-- Whether a worker can go on does not depend on its connector. -/
theorem step_on_eq_none [Connector σ] [Connector τ] {w : Worker σ} {limit : Nat}
    (h : w.step limit = none) (connector : τ) : (w.on connector).step limit = none := by
  rw [Option.eq_none_iff_forall_ne_some]
  intro w' hw'
  obtain ⟨u, p, hturn, -⟩ := step_eq_some_iff.1 hw'
  have hback : w.step limit = some ((u.on w.connector).goOn p) :=
    step_eq_some_iff.2 ⟨_, p, hturn.on w.connector, rfl⟩
  rw [h] at hback
  cases hback

/-- A turn leaves the connector as it is. -/
theorem Turn.connector {w u : Worker σ} {limit : Nat} {p : Option Progress} (h : w.Turn limit u p) :
    u.connector = w.connector := by
  cases h with
  | answered => rfl
  | expired => rfl
  | wrote => exact setPipe_connector _ _ _
  | writes => exact setPipe_connector _ _ _

end Worker

end RemoteShell.Shell
