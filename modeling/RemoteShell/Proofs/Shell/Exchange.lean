import Mathlib.Logic.Relation
import RemoteShell.Proofs.Shell.Turn

/-!
# What a session exchanges

A `Recorder` is a connector that notes every request with what the connector behind it made of the
request.  It changes nothing else (`Worker.step_forget`), so what is shown of the record of a worker is
shown of every connector.

A worker goes on by itself, while readers change the pipes and time passes; `Worker.Move` is one of these
moves and `Worker.Reaches` some of them in a row.

## From workers to sessions

A worker knows of clocks, pipes and deadlines; a session does not.  `Progress.Next` says how a call goes on
as the session sees it: an answer comes, bytes have been written, or the deadline strikes.  By
`Worker.step_next` every step of a worker is such a step or leaves the call as it is.  Hence an invariant
of the record and the call that every `Next` keeps holds of every worker that is reached
(`Worker.Reaches.invariant`), and nobody has to look into `Worker.step` again.
-/

namespace RemoteShell.Shell

open Soap (Request Field)
open Xml (Document)

variable {σ : Type}

/-! ## Exchanges -/

/-- A request that was sent, and what the connector made of it. -/
structure Exchange where
  request : Request
  reception : Reception

namespace Exchange

/-- The text that the answer carries in a field, if there is an answer and the text is not blank. -/
def granted? (x : Exchange) (f : Field) : Option String :=
  x.reception.bind fun r => (r.2.bind fun d => Soap.Response.required d f).toOption

end Exchange

/-- A connector and its exchanges so far, first one first. -/
structure Recorder (σ : Type) where
  inner : σ
  record : List Exchange

namespace Recorder

/-- A connector without any exchange. -/
def fresh (connector : σ) : Recorder σ := ⟨connector, []⟩

/-- Send a request and note it. -/
def send [Connector σ] (c : Recorder σ) (r : Request) : Reception × Recorder σ :=
  let (reception, inner) := Connector.send c.inner r
  (reception, ⟨inner, c.record ++ [⟨r, reception⟩]⟩)

instance [Connector σ] : Connector (Recorder σ) := ⟨send⟩

theorem send_eq [Connector σ] (c : Recorder σ) (r : Request) :
    Connector.send c r = ((Connector.send c.inner r).1,
      ⟨(Connector.send c.inner r).2, c.record ++ [⟨r, (Connector.send c.inner r).1⟩]⟩) := rfl

end Recorder

/-- A document of one element. -/
def Replies.document (uri name text : String) : Document :=
  ⟨⟨some uri, name, [], text, []⟩, ""⟩

/-- A connector whose answers are laid down and come at once.  When they are used up, every request
fails. -/
structure Replies where
  answers : List (Except Failure Document)

instance : Connector Replies where
  send c _ := (some (0, c.answers.headD (.error .notFinished)), ⟨c.answers.tail⟩)

/-! ## Moves of a worker -/

namespace Worker

/-- What can happen to a worker: it does something by itself, somebody changes a pipe, or time passes. -/
inductive Move [Connector σ] : Worker σ → Worker σ → Prop
  | work {w w' : Worker σ} (limit : Nat) (h : w.step limit = some w') : Move w w'
  | pipe (w : Worker σ) (stream : Stream) (p : Pipe) : Move w (w.setPipe p stream)
  | pause (w : Worker σ) (time : Nat) : Move w { w with now := max w.now time }

/-- Some moves in a row. -/
abbrev Reaches [Connector σ] : Worker σ → Worker σ → Prop :=
  Relation.ReflTransGen Move

/-- Whatever a worker is let do until a given time is made of moves. -/
theorem reaches_advance [Connector σ] (limit fuel : Nat) (w : Worker σ) :
    w.Reaches (w.advance limit fuel) := by
  induction fuel generalizing w with
  | zero => exact .refl
  | succ fuel ih =>
    rw [advance]
    cases hstep : w.step limit with
    | none =>
      simp only
      split
      · exact .refl
      · exact .single (.pause w limit)
    | some w' => exact .head (.work limit hstep) (ih w')

/-! ### The record is only a record -/

/-- A worker on the connector behind its recorder. -/
def forget (w : Worker (Recorder σ)) : Worker σ :=
  ⟨w.connector.inner, w.deadline, w.expires, w.stdout, w.stderr, w.now, w.doing⟩

theorem forget_proceed [Connector σ] (w : Worker (Recorder σ)) (p : Progress) :
    (w.proceed p).forget = w.forget.proceed p := by
  cases p with
  | finished s r => rfl
  | busy work =>
    rw [proceed, proceed]
    cases work.demand with
    | answer request => rfl
    | room stream bytes => cases stream <;> rfl

theorem forget_goOn [Connector σ] (w : Worker (Recorder σ)) (p : Option Progress) :
    (w.goOn p).forget = w.forget.goOn p := by
  cases p with
  | none => rfl
  | some p => exact forget_proceed w p

/-- **Recording changes nothing.**  A step of a worker on a recorder is, without the record, the step of the
worker on the connector itself. -/
theorem step_forget [Connector σ] (w : Worker (Recorder σ)) (limit : Nat) :
    (w.step limit).map forget = w.forget.step limit := by
  cases hstep : w.step limit with
  | none => exact (step_on_eq_none hstep w.connector.inner).symm
  | some w' =>
    obtain ⟨u, p, hturn, rfl⟩ := step_eq_some_iff.1 hstep
    have hsame : u.forget = u.on w.connector.inner := by
      rw [← hturn.connector]
      rfl
    have hforget : w.forget.Turn limit u.forget p := hsame ▸ hturn.on w.connector.inner
    rw [Option.map_some, forget_goOn]
    exact (step_eq_some_iff.2 ⟨_, p, hforget, rfl⟩).symm

end Worker

/-! ## How a call goes on -/

/-- The request that a call waits for the answer to. -/
def Progress.request? : Progress → Option Request
  | .busy work =>
    match work.demand with
    | .answer r => some r
    | .room .. => none
  | .finished .. => none

/-- The record after a call has gone on: one exchange longer if the call sends a request. -/
inductive Progress.Extends (record : List Exchange) (p : Progress) : List Exchange → Prop
  | silent (h : p.request? = none) : Extends record p record
  | sent {x : Exchange} (h : p.request? = some x.request) : Extends record p (record ++ [x])

namespace Progress.Extends

variable {record record' : List Exchange} {p : Progress}

theorem eq_of_silent (h : p.Extends record record') (hp : p.request? = none) : record' = record := by
  cases h with
  | silent => rfl
  | sent h => rw [hp] at h; cases h

theorem eq_of_sent {r : Request} (h : p.Extends record record') (hp : p.request? = some r) :
    ∃ x : Exchange, x.request = r ∧ record' = record ++ [x] := by
  cases h with
  | silent h => rw [hp] at h; cases h
  | sent h =>
    rw [hp] at h
    exact ⟨_, (Option.some.inj h).symm, rfl⟩

end Progress.Extends

/-- How a call under way may go on after some exchanges: the answer to the last request has come, bytes
have been written, or the deadline has struck. -/
inductive Progress.Next (record : List Exchange) (work : Work) : Progress → Prop
  | answered {x : Exchange} {delay : Nat} {answer : Except Failure Document}
      (demand : work.demand = .answer x.request) (last : record.getLast? = some x)
      (reception : x.reception = some (delay, answer)) : Next record work (work.answered answer)
  | written {stream : Stream} {bytes : List UInt8} (demand : work.demand = .room stream bytes) :
      Next record work work.written
  | expired (after : Duration) (receiving : work.isReceiving = true) :
      Next record work (work.expired after)

/-- A call that does not receive output goes on with the answer to its last request. -/
theorem Progress.Next.eq_answered {record : List Exchange} {work : Work} {q : Progress} {r : Request}
    (h : Next record work q) (hdemand : work.demand = .answer r) (hreceiving : work.isReceiving = false) :
    ∃ x delay answer, record.getLast? = some x ∧ x.reception = some (delay, answer) ∧
      q = work.answered answer := by
  cases h with
  | answered _ hlast hreception => exact ⟨_, _, _, hlast, hreception, rfl⟩
  | written hroom =>
    rw [hdemand] at hroom
    cases hroom
  | expired _ hreceives =>
    rw [hreceiving] at hreceives
    cases hreceives

namespace Worker

/-- What a worker is waiting for and what it is writing fit its call and the last exchange, and a
deadline is set only while output is received. -/
structure Coherent (w : Worker (Recorder σ)) : Prop where
  waiting : ∀ {work reception}, w.doing = .waiting work reception →
    ∃ x, w.connector.record.getLast? = some x ∧ work.demand = .answer x.request ∧
      reception.map Prod.snd = x.reception.map Prod.snd
  writing : ∀ {work stream rest}, w.doing = .writing work stream rest →
    ∃ bytes, work.demand = .room stream bytes
  expires : w.expires ≠ none → ∃ work, w.progress = .busy work ∧ work.isReceiving = true

/-- A deadline is set only for a call that receives output. -/
theorem isReceiving_of_nextExpiry {w : Worker σ} {work : Work} (h : w.nextExpiry work ≠ none) :
    work.isReceiving = true := by
  rw [nextExpiry] at h
  split at h
  · assumption
  · exact absurd rfl h

/-- A worker that goes on with a call is coherent, whatever it was before, and notes what it sends. -/
theorem proceed_coherent [Connector σ] (w : Worker (Recorder σ)) (p : Progress) :
    (w.proceed p).Coherent ∧ p.Extends w.connector.record (w.proceed p).connector.record := by
  cases p with
  | finished s r =>
    refine ⟨⟨?_, ?_, ?_⟩, .silent rfl⟩
    · intro work reception h
      cases h
    · intro work stream rest h
      cases h
    · intro h
      exact absurd rfl h
  | busy work =>
    cases hdemand : work.demand with
    | answer request =>
      rw [proceed_of_answer w hdemand]
      refine ⟨⟨?_, ?_, ?_⟩, ?_⟩
      · intro work' reception h
        injection h with hwork hreception
        subst hwork hreception
        refine ⟨⟨request, (Connector.send w.connector.inner request).1⟩, ?_, hdemand, ?_⟩
        · simp [Recorder.send_eq]
        · rw [Recorder.send_eq]
          cases (Connector.send w.connector.inner request).1 <;> rfl
      · intro work' stream rest h
        cases h
      · intro h
        exact ⟨work, rfl, isReceiving_of_nextExpiry h⟩
      · exact .sent (x := ⟨request, _⟩) (by rw [Progress.request?, hdemand])
    | room stream bytes =>
      rw [proceed_of_room w hdemand]
      refine ⟨⟨?_, ?_, ?_⟩, ?_⟩
      · intro work' reception h
        cases h
      · intro work' stream' rest h
        injection h with hwork hstream hrest
        subst hwork hstream
        exact ⟨bytes, hdemand⟩
      · intro h
        exact ⟨work, rfl, isReceiving_of_nextExpiry h⟩
      · rw [setPipe_connector]
        exact .silent (by rw [Progress.request?, hdemand])

/-- What a step of a worker is for the call: nothing, or a way for it to go on. -/
def Follows (w w' : Worker (Recorder σ)) : Prop :=
  (w'.progress = w.progress ∧ w'.connector.record = w.connector.record) ∨
    ∃ work, w.progress = .busy work ∧ Progress.Next w.connector.record work w'.progress ∧
      w'.progress.Extends w.connector.record w'.connector.record

/-- A worker that proceeds in one of the ways in which its call may go on follows it. -/
theorem follows_proceed [Connector σ] {w v : Worker (Recorder σ)} {work : Work} {p : Progress}
    (hbusy : w.progress = .busy work) (hrecord : v.connector = w.connector)
    (hnext : Progress.Next w.connector.record work p) :
    (v.proceed p).Coherent ∧ Follows w (v.proceed p) := by
  obtain ⟨hcoherent, hextends⟩ := proceed_coherent v p
  rw [hrecord] at hextends
  refine ⟨hcoherent, .inr ⟨work, hbusy, ?_, ?_⟩⟩
  · rwa [proceed_progress]
  · rwa [proceed_progress]

/-- **Every step of a worker is a step of its call**, or leaves it as it is. -/
theorem step_next [Connector σ] {w w' : Worker (Recorder σ)} {limit : Nat} (hw : w.Coherent)
    (h : w.step limit = some w') : w'.Coherent ∧ Follows w w' := by
  obtain ⟨u, p, hturn, rfl⟩ := step_eq_some_iff.1 h
  cases hturn with
  | answered hdoing _ _ =>
    obtain ⟨x, hlast, hdemand, hreception⟩ := hw.waiting hdoing
    rw [Option.map_some] at hreception
    obtain ⟨⟨delay, answer⟩, hx, rfl⟩ := Option.map_eq_some_iff.1 hreception.symm
    exact follows_proceed (progress_of_waiting hdoing) rfl (.answered hdemand hlast hx)
  | @expired work _ deadline hexposed hexpires _ _ =>
    obtain ⟨work', hbusy, hreceiving⟩ := hw.expires (by rw [hexpires]; exact Option.some_ne_none _)
    obtain rfl : work = work' := Progress.busy.inj (hexposed.progress.symm.trans hbusy)
    exact follows_proceed hexposed.progress rfl (.expired deadline hreceiving)
  | wrote hdoing _ _ =>
    obtain ⟨bytes, hdemand⟩ := hw.writing hdoing
    exact follows_proceed (progress_of_writing hdoing) (setPipe_connector w _ _) (.written hdemand)
  | writes hdoing _ _ =>
    -- some bytes are left: the call waits as before
    obtain ⟨bytes, hdemand⟩ := hw.writing hdoing
    have hbusy := progress_of_writing hdoing
    refine ⟨⟨?_, ?_, ?_⟩, .inl ⟨hbusy.symm, congrArg Recorder.record (setPipe_connector w _ _)⟩⟩
    · intro work' reception h'
      cases h'
    · intro work' stream' rest' h'
      injection h' with hwork hstream hrest
      subst hwork hstream
      exact ⟨bytes, hdemand⟩
    · intro hexpires
      obtain ⟨work', hbusy', hreceiving⟩ := hw.expires (setPipe_expires w _ _ ▸ hexpires)
      exact ⟨work', hbusy.symm.trans hbusy', hreceiving⟩

theorem move_next [Connector σ] {w w' : Worker (Recorder σ)} (hw : w.Coherent) (h : Move w w') :
    w'.Coherent ∧ Follows w w' := by
  cases h with
  | work limit h => exact step_next hw h
  | pipe stream p =>
    refine ⟨⟨?_, ?_, ?_⟩, .inl ⟨setPipe_progress w p stream, by rw [setPipe_connector]⟩⟩
    · intro work reception h
      rw [setPipe_doing] at h
      rw [setPipe_connector]
      exact hw.waiting h
    · intro work stream' rest h
      rw [setPipe_doing] at h
      exact hw.writing h
    · rw [setPipe_expires, setPipe_progress]
      exact hw.expires
  | pause time => exact ⟨⟨hw.waiting, hw.writing, hw.expires⟩, .inl ⟨rfl, rfl⟩⟩

/-- **Invariants of a call.**  What every way to go on keeps of the record and the call, every worker keeps,
whatever becomes of its pipes and its clock. -/
theorem Reaches.invariant [Connector σ] {P : List Exchange → Progress → Prop}
    (hP : ∀ {record work p record'}, P record (.busy work) → Progress.Next record work p →
      p.Extends record record' → P record' p)
    {w w' : Worker (Recorder σ)} (h : Reaches w w') (hw : w.Coherent)
    (h₀ : P w.connector.record w.progress) :
    w'.Coherent ∧ P w'.connector.record w'.progress := by
  induction h with
  | refl => exact ⟨hw, h₀⟩
  | tail _ hmove ih =>
    obtain ⟨hcoherent, hkept⟩ := ih
    obtain ⟨hcoherent', ⟨hprogress, hrecord⟩ | ⟨work, hbusy, hnext, hextends⟩⟩ :=
      move_next hcoherent hmove
    · rw [hprogress, hrecord]
      exact ⟨hcoherent', hkept⟩
    · rw [hbusy] at hkept
      exact ⟨hcoherent', hP hkept hnext hextends⟩

/-- A worker that begins a call is coherent and has noted the first request of the call, if it sends one. -/
theorem start_coherent [Connector σ] (c : Recorder σ) (deadline : Option Duration)
    (stdout stderr : Pipe) (s : Session) (call : Call) :
    let w := start c deadline stdout stderr s call
    w.Coherent ∧ w.progress = s.begin call ∧ (s.begin call).Extends c.record w.connector.record := by
  obtain ⟨hcoherent, hextends⟩ := proceed_coherent
    (⟨c, deadline, none, stdout, stderr, 0, .finished s (.ok .nothing)⟩ : Worker (Recorder σ))
    (s.begin call)
  exact ⟨hcoherent, proceed_progress _ _, hextends⟩

end Worker

end RemoteShell.Shell
