import RemoteShell.Proofs.Shell.Exchange

/-!
# The life of a shell

`Lifecycle` lists what can happen to a session between calls, one exchange at a time, with the exchanges
that led to it.  It does not know of calls, plans or answers under way: a call of `execute` is five lines of
it, a call of `receive` one line for every poll and one for the end.

`History` is all that callers can do with one session: they make a call, wait until it returns, and make
the next one, with other pipes and another deadline if they like.  `History.ongoing` says that however they
go about it, and whatever the connector answers, the session lives a `Lifecycle`.
-/

namespace RemoteShell.Shell

open Soap (Request Field)
open Xml (Document)

variable {σ : Type} {endpoint : String}

/-- The exchanges of a session and what the session is after them. -/
inductive Lifecycle (endpoint : String) : List Exchange → Session → Prop
  | unopened : Lifecycle endpoint [] (.unopened endpoint)
  | opened {record : List Exchange} {s : Session} {x : Exchange} {shell : String}
      (before : Lifecycle endpoint record s) (stage : s.stage = .unopened)
      (request : x.request = .create) (granted : x.granted? .shellId = some shell) :
      Lifecycle endpoint (record ++ [x]) { s with shellId := some shell, stage := .shellOpen }
  | openFailed {record : List Exchange} {s : Session} {x : Exchange}
      (before : Lifecycle endpoint record s) (stage : s.stage = .unopened)
      (request : x.request = .create) (refused : x.granted? .shellId = none) :
      Lifecycle endpoint (record ++ [x]) s.fail
  | started {record : List Exchange} {s : Session} {x : Exchange} {shell line command : String}
      (before : Lifecycle endpoint record s) (stage : s.stage = .shellOpen)
      (shellId : s.shellId = some shell) (request : x.request = .command shell line)
      (granted : x.granted? .commandId = some command) :
      Lifecycle endpoint (record ++ [x]) { s with commandId := some command, stage := .commandRunning }
  | startFailed {record : List Exchange} {s : Session} {x : Exchange} {shell line : String}
      (before : Lifecycle endpoint record s) (stage : s.stage = .shellOpen)
      (shellId : s.shellId = some shell) (request : x.request = .command shell line)
      (refused : x.granted? .commandId = none) :
      Lifecycle endpoint (record ++ [x]) s.fail
  | polled {record : List Exchange} {s : Session} {x : Exchange} {shell command : String}
      (before : Lifecycle endpoint record s) (stage : s.stage = .commandRunning)
      (shellId : s.shellId = some shell) (commandId : s.commandId = some command)
      (request : x.request = .receive shell command) : Lifecycle endpoint (record ++ [x]) s
  | received {record : List Exchange} {s : Session} (code : Int)
      (before : Lifecycle endpoint record s) (stage : s.stage = .commandRunning) :
      Lifecycle endpoint record { s with stage := .commandDone, exitCode := some code }
  | receiveFailed {record : List Exchange} {s : Session}
      (before : Lifecycle endpoint record s) (stage : s.stage = .commandRunning) :
      Lifecycle endpoint record s.fail
  | signalled {record : List Exchange} {s : Session} {x : Exchange} {shell command : String}
      (before : Lifecycle endpoint record s)
      (shellId : s.shellId = some shell) (commandId : s.commandId = some command)
      (request : x.request = .signal shell command) : Lifecycle endpoint (record ++ [x]) s
  | closed {record : List Exchange} {s : Session} {x : Exchange} {shell : String}
      (before : Lifecycle endpoint record s)
      (shellId : s.shellId = some shell) (request : x.request = .delete shell) :
      Lifecycle endpoint (record ++ [x])
        { s with shellId := none, stage := if s.stage = .failed then .failed else .closed }

/-- The shell and the command that output is asked of. -/
def Polling.Of (p : Polling) (s : Session) : Prop :=
  s.shellId = some p.shellId ∧ s.commandId = some p.commandId

/-- A call of a session that lives a `Lifecycle`.  The last exchange belongs to the request under way. -/
inductive Ongoing (endpoint : String) : List Exchange → Progress → Prop
  | finished {record : List Exchange} {s : Session} (r : Result)
      (before : Lifecycle endpoint record s) : Ongoing endpoint record (.finished s r)
  | opening {record : List Exchange} {s : Session} {x : Exchange} (plan : Plan)
      (before : Lifecycle endpoint record s) (stage : s.stage = .unopened)
      (request : x.request = .create) : Ongoing endpoint (record ++ [x]) (.busy ⟨s, plan, .opening⟩)
  | starting {record : List Exchange} {s : Session} {x : Exchange} {shell line : String} (plan : Plan)
      (before : Lifecycle endpoint record s) (stage : s.stage = .shellOpen)
      (shellId : s.shellId = some shell) (request : x.request = .command shell line) :
      Ongoing endpoint (record ++ [x]) (.busy ⟨s, plan, .starting shell line⟩)
  | polling {record : List Exchange} {s : Session} {p : Polling} (plan : Plan)
      (before : Lifecycle endpoint record s) (stage : s.stage = .commandRunning) (ids : p.Of s) :
      Ongoing endpoint record (.busy ⟨s, plan, .polling p⟩)
  | writing {record : List Exchange} {s : Session} {p : Polling} (plan : Plan) (d : Document)
      (stream : Stream) (bytes : List UInt8)
      (before : Lifecycle endpoint record s) (stage : s.stage = .commandRunning) (ids : p.Of s) :
      Ongoing endpoint record (.busy ⟨s, plan, .writing p d stream bytes⟩)
  | signalling {record : List Exchange} {s : Session} {x : Exchange} {shell command : String}
      (plan : Plan) (before : Lifecycle endpoint record s)
      (shellId : s.shellId = some shell) (commandId : s.commandId = some command)
      (request : x.request = .signal shell command) :
      Ongoing endpoint (record ++ [x]) (.busy ⟨s, plan, .signalling shell command⟩)
  | closing {record : List Exchange} {s : Session} {x : Exchange} {shell : String} (plan : Plan)
      (before : Lifecycle endpoint record s)
      (shellId : s.shellId = some shell) (request : x.request = .delete shell) :
      Ongoing endpoint (record ++ [x]) (.busy ⟨{ s with shellId := none }, plan, .closing shell⟩)

/-! ## Beginning a step

Each function of a session that begins a step gives, after a `Lifecycle`, an `Ongoing` call with the
exchange of its request, if it sends one. -/

section Begin

variable {record record' : List Exchange} {s : Session} (plan : Plan)

/-- A call may return without another request. -/
theorem Lifecycle.returned (h : Lifecycle endpoint record s) (r : Result)
    (hextends : (Progress.finished s r).Extends record record') :
    Ongoing endpoint record' (.finished s r) := by
  obtain rfl := hextends.eq_of_silent rfl
  exact .finished r h

theorem Lifecycle.beginOpen (h : Lifecycle endpoint record s)
    (hextends : (s.beginOpen plan).Extends record record') :
    Ongoing endpoint record' (s.beginOpen plan) := by
  unfold Session.beginOpen at hextends ⊢
  by_cases hstage : s.stage = .unopened
  · rw [Session.expect, if_pos hstage] at hextends ⊢
    obtain ⟨x, hx, rfl⟩ := hextends.eq_of_sent (r := .create) rfl
    exact .opening plan h hstage hx
  · rw [Session.expect, if_neg hstage] at hextends ⊢
    exact h.returned _ hextends

theorem Lifecycle.beginClose (h : Lifecycle endpoint record s) (r : Result)
    (hextends : (s.beginClose plan r).Extends record record') :
    Ongoing endpoint record' (s.beginClose plan r) := by
  unfold Session.beginClose at hextends ⊢
  cases hshell : s.shellId with
  | none =>
    rw [hshell] at hextends
    exact h.returned r hextends
  | some shell =>
    rw [hshell] at hextends
    obtain ⟨x, hx, rfl⟩ := hextends.eq_of_sent (r := .delete shell) rfl
    exact .closing plan h hshell hx

theorem Lifecycle.beginCleanup (h : Lifecycle endpoint record s) (r : Result)
    (hextends : (s.beginCleanup r).Extends record record') :
    Ongoing endpoint record' (s.beginCleanup r) := by
  unfold Session.beginCleanup at hextends ⊢
  split at hextends
  case h_1 shell command hshell hcommand =>
    obtain ⟨x, hx, rfl⟩ := hextends.eq_of_sent (r := .signal shell command) rfl
    exact .signalling _ h hshell hcommand hx
  case h_2 => exact h.beginClose _ r hextends

theorem Lifecycle.conclude (h : Lifecycle endpoint record s) (r : Result)
    (hextends : (s.conclude plan r).Extends record record') :
    Ongoing endpoint record' (s.conclude plan r) := by
  cases plan with
  | execute line => exact h.beginCleanup r hextends
  | single => exact h.returned r hextends
  | cleanup _ => exact h.returned r hextends

theorem Lifecycle.beginRun (h : Lifecycle endpoint record s) (line : String)
    (hextends : (s.beginRun plan line).Extends record record') :
    Ongoing endpoint record' (s.beginRun plan line) := by
  unfold Session.beginRun at hextends ⊢
  by_cases hstage : s.stage = .shellOpen
  · rw [Session.expect, if_pos hstage] at hextends ⊢
    simp only [Session.requireShell] at hextends ⊢
    cases hshell : s.shellId with
    | none =>
      rw [hshell] at hextends
      exact h.conclude plan _ hextends
    | some shell =>
      rw [hshell] at hextends
      obtain ⟨x, hx, rfl⟩ := hextends.eq_of_sent (r := .command shell line) rfl
      exact .starting plan h hstage hshell hx
  · rw [Session.expect, if_neg hstage] at hextends ⊢
    exact h.conclude plan _ hextends

theorem Lifecycle.beginReceive (h : Lifecycle endpoint record s)
    (hextends : (s.beginReceive plan).Extends record record') :
    Ongoing endpoint record' (s.beginReceive plan) := by
  unfold Session.beginReceive at hextends ⊢
  by_cases hstage : s.stage = .commandRunning
  · simp only [Session.expect, if_pos hstage, Session.requireShell, Session.requireCommand]
      at hextends ⊢
    cases hshell : s.shellId with
    | none =>
      rw [hshell] at hextends
      exact h.conclude plan _ hextends
    | some shell =>
      cases hcommand : s.commandId with
      | none =>
        rw [hshell, hcommand] at hextends
        exact h.conclude plan _ hextends
      | some command =>
        rw [hshell, hcommand] at hextends
        obtain ⟨x, hx, rfl⟩ := hextends.eq_of_sent (r := .receive shell command) rfl
        exact .polling plan (h.polled hstage hshell hcommand hx) hstage ⟨hshell, hcommand⟩
  · simp only [Session.expect, if_neg hstage] at hextends ⊢
    exact h.conclude plan _ hextends

/-- Every call of a session begins as it may. -/
theorem Lifecycle.begin (h : Lifecycle endpoint record s) (call : Call)
    (hextends : (s.begin call).Extends record record') :
    Ongoing endpoint record' (s.begin call) := by
  cases call with
  | «open» => exact h.beginOpen _ hextends
  | run line => exact h.beginRun _ line hextends
  | receive => exact h.beginReceive _ hextends
  | execute line => exact h.beginOpen _ hextends
  | signal =>
    rw [Session.begin] at hextends ⊢
    split at hextends
    case h_1 shell command hshell hcommand =>
      obtain ⟨x, hx, rfl⟩ := hextends.eq_of_sent (r := .signal shell command) rfl
      exact .signalling _ h hshell hcommand hx
    case h_2 => exact h.returned _ hextends
  | close => exact h.beginClose _ _ hextends

end Begin

/-! ## Going on -/

/-- An answer carries a required field or grants nothing. -/
theorem Exchange.required_of_answer {x : Exchange} {delay : Nat} {answer : Except Failure Document}
    (h : x.reception = some (delay, answer)) (f : Field) :
    (∃ text, (answer.bind fun d => Soap.Response.required d f) = .ok text ∧ x.granted? f = some text) ∨
      ∃ e, (answer.bind fun d => Soap.Response.required d f) = .error e ∧ x.granted? f = none := by
  rw [granted?, h, Option.bind_some]
  cases (answer.bind fun d => Soap.Response.required d f) with
  | ok text => exact .inl ⟨text, rfl, rfl⟩
  | error e => exact .inr ⟨e, rfl, rfl⟩

/-- An answer whose output has been written ends receiving, with a failure or an exit code, or another
one is asked for. -/
theorem Work.finishAnswer_cases (w : Work) (p : Polling) (d : Document) :
    (∃ e, w.finishAnswer p d = w.failReceiving e) ∨
      (∃ n, w.finishAnswer p d =
        ({ w.session with stage := .commandDone, exitCode := some n } : Session).conclude w.plan
          (.ok (.code n))) ∨
      ∃ early, w.finishAnswer p d =
        .busy { w with activity := .polling { p with polled := true, early } } := by
  simp only [finishAnswer]
  split
  · split
    · exact .inl ⟨_, rfl⟩
    · split
      · exact .inl ⟨_, rfl⟩
      · exact .inr (.inl ⟨_, rfl⟩)
  · exact .inr (.inr ⟨_, rfl⟩)

theorem Ongoing.lifecycle {record : List Exchange} {s : Session} {r : Result}
    (h : Ongoing endpoint record (.finished s r)) : Lifecycle endpoint record s := by
  cases h with
  | finished _ before => exact before

section Next

variable {record record' : List Exchange} {s : Session} {p : Polling} {plan : Plan}

theorem Lifecycle.failReceiving (h : Lifecycle endpoint record s) (hstage : s.stage = .commandRunning)
    (activity : Activity) (e : Failure)
    (hextends : ((⟨s, plan, activity⟩ : Work).failReceiving e).Extends record record') :
    Ongoing endpoint record' ((⟨s, plan, activity⟩ : Work).failReceiving e) :=
  (h.receiveFailed hstage).conclude plan _ hextends

theorem Lifecycle.beginWriting (h : Lifecycle endpoint record s)
    (hstage : s.stage = .commandRunning) (hids : p.Of s) (activity : Activity) (d : Document)
    (stream : Stream)
    (hextends : ((⟨s, plan, activity⟩ : Work).beginWriting p d stream).Extends record record') :
    Ongoing endpoint record' ((⟨s, plan, activity⟩ : Work).beginWriting p d stream) := by
  unfold Work.beginWriting at hextends ⊢
  cases hbytes : Soap.Response.stream d stream.field with
  | error e =>
    rw [hbytes] at hextends
    exact h.failReceiving hstage activity e hextends
  | ok bytes =>
    rw [hbytes] at hextends
    obtain rfl := hextends.eq_of_silent rfl
    exact .writing plan d stream bytes h hstage hids

theorem Lifecycle.finishAnswer (h : Lifecycle endpoint record s)
    (hstage : s.stage = .commandRunning) (hids : p.Of s) (activity : Activity) (d : Document)
    (hextends : ((⟨s, plan, activity⟩ : Work).finishAnswer p d).Extends record record') :
    Ongoing endpoint record' ((⟨s, plan, activity⟩ : Work).finishAnswer p d) := by
  obtain ⟨e, hend⟩ | ⟨n, hend⟩ | ⟨early, hend⟩ := Work.finishAnswer_cases ⟨s, plan, activity⟩ p d <;>
    rw [hend] at hextends ⊢
  · exact h.failReceiving hstage activity e hextends
  · exact (h.received n hstage).conclude plan _ hextends
  · obtain ⟨x, hx, rfl⟩ := hextends.eq_of_sent (r := .receive p.shellId p.commandId) rfl
    exact .polling plan (h.polled hstage hids.1 hids.2 hx) hstage hids

/-- A shell has been asked for: the answer opens it or does not. -/
theorem Lifecycle.answeredOpening {x : Exchange} {delay : Nat} {answer : Except Failure Document}
    (h : Lifecycle endpoint record s) (hstage : s.stage = .unopened) (hrequest : x.request = .create)
    (hreception : x.reception = some (delay, answer))
    (hextends : ((⟨s, plan, .opening⟩ : Work).answered answer).Extends (record ++ [x]) record') :
    Ongoing endpoint record' ((⟨s, plan, .opening⟩ : Work).answered answer) := by
  simp only [Work.answered] at hextends ⊢
  obtain ⟨shell, hrequired, hgranted⟩ | ⟨e, hrequired, hrefused⟩ :=
    Exchange.required_of_answer hreception .shellId
  · have hopened := h.opened hstage hrequest hgranted
    rw [hrequired] at hextends ⊢
    cases plan with
    | execute line => exact hopened.beginRun _ line hextends
    | single => exact hopened.returned _ hextends
    | cleanup _ => exact hopened.returned _ hextends
  · rw [hrequired] at hextends ⊢
    exact (h.openFailed hstage hrequest hrefused).returned _ hextends

/-- A command has been asked for: the answer starts it or does not. -/
theorem Lifecycle.answeredStarting {x : Exchange} {shell line : String} {delay : Nat}
    {answer : Except Failure Document} (h : Lifecycle endpoint record s) (hstage : s.stage = .shellOpen)
    (hshell : s.shellId = some shell) (hrequest : x.request = .command shell line)
    (hreception : x.reception = some (delay, answer))
    (hextends : ((⟨s, plan, .starting shell line⟩ : Work).answered answer).Extends (record ++ [x])
      record') :
    Ongoing endpoint record' ((⟨s, plan, .starting shell line⟩ : Work).answered answer) := by
  simp only [Work.answered] at hextends ⊢
  obtain ⟨command, hrequired, hgranted⟩ | ⟨e, hrequired, hrefused⟩ :=
    Exchange.required_of_answer hreception .commandId
  · have hstarted := h.started hstage hshell hrequest hgranted
    rw [hrequired] at hextends ⊢
    cases plan with
    | execute _ => exact hstarted.beginReceive _ hextends
    | single => exact hstarted.returned _ hextends
    | cleanup _ => exact hstarted.returned _ hextends
  · rw [hrequired] at hextends ⊢
    exact (h.startFailed hstage hshell hrequest hrefused).conclude plan _ hextends

/-- The shell is forgotten, whatever its deletion was answered. -/
theorem Lifecycle.answeredClosing {x : Exchange} {shell : String} (answer : Except Failure Document)
    (h : Lifecycle endpoint record s) (hshell : s.shellId = some shell)
    (hrequest : x.request = .delete shell)
    (hextends : ((⟨{ s with shellId := none }, plan, .closing shell⟩ : Work).answered answer).Extends
      (record ++ [x]) record') :
    Ongoing endpoint record'
      ((⟨{ s with shellId := none }, plan, .closing shell⟩ : Work).answered answer) := by
  have hclosed := h.closed hshell hrequest
  have hsession : (if s.stage = .failed then { s with shellId := none }
      else { s with shellId := none, stage := .closed } : Session) =
      { s with shellId := none, stage := if s.stage = .failed then .failed else .closed } := by
    split
    · rename_i hfailed
      rw [← hfailed]
    · rfl
  simp only [Work.answered, hsession] at hextends ⊢
  cases plan with
  | cleanup _ => exact hclosed.returned _ hextends
  | single => exact hclosed.returned _ hextends
  | execute _ => exact hclosed.returned _ hextends

/-- **Every way for a call to go on continues the life of its shell.** -/
theorem Ongoing.next {work : Work} {q : Progress} (h : Ongoing endpoint record (.busy work))
    (hnext : Progress.Next record work q) (hextends : q.Extends record record') :
    Ongoing endpoint record' q := by
  generalize hbusy : Progress.busy work = b at h
  cases h with
  | finished r before => cases hbusy
  | opening plan before hstage hrequest =>
    obtain rfl := Progress.busy.inj hbusy
    obtain ⟨x, delay, answer, hlast, hreception, rfl⟩ := hnext.eq_answered rfl rfl
    rw [List.getLast?_concat] at hlast
    obtain rfl := Option.some.inj hlast
    exact before.answeredOpening hstage hrequest hreception hextends
  | starting plan before hstage hshell hrequest =>
    obtain rfl := Progress.busy.inj hbusy
    obtain ⟨x, delay, answer, hlast, hreception, rfl⟩ := hnext.eq_answered rfl rfl
    rw [List.getLast?_concat] at hlast
    obtain rfl := Option.some.inj hlast
    exact before.answeredStarting hstage hshell hrequest hreception hextends
  | polling plan before hstage hids =>
    obtain rfl := Progress.busy.inj hbusy
    cases hnext with
    | @answered _ _ answer _ _ _ =>
      cases answer with
      | error e => exact before.failReceiving hstage _ e hextends
      | ok d => exact before.beginWriting hstage hids _ d .stdout hextends
    | written hdemand => cases hdemand
    | expired after _ => exact before.failReceiving hstage _ _ hextends
  | writing plan d stream bytes before hstage hids =>
    obtain rfl := Progress.busy.inj hbusy
    cases hnext with
    | answered hdemand _ _ => cases hdemand
    | written _ =>
      cases stream with
      | stdout => exact before.beginWriting hstage hids _ d .stderr hextends
      | stderr => exact before.finishAnswer hstage hids _ d hextends
    | expired after _ => exact before.failReceiving hstage _ _ hextends
  | signalling plan before hshell hcommand hrequest =>
    obtain rfl := Progress.busy.inj hbusy
    have hsignalled := before.signalled hshell hcommand hrequest
    obtain ⟨x, delay, answer, -, -, rfl⟩ := hnext.eq_answered rfl rfl
    cases plan with
    | cleanup r => exact hsignalled.beginClose _ r hextends
    | single => exact hsignalled.returned _ hextends
    | execute _ => exact hsignalled.returned _ hextends
  | closing plan before hshell hrequest =>
    obtain rfl := Progress.busy.inj hbusy
    obtain ⟨x, delay, answer, -, -, rfl⟩ := hnext.eq_answered rfl rfl
    exact before.answeredClosing answer hshell hrequest hextends

end Next

/-! ## Any number of calls -/

/-- What callers can make of one session with one connector: call after call, each begun when the one
before has returned; the last one may be under way. -/
inductive Worker.History [Connector σ] (connector : σ) (endpoint : String) : Worker (Recorder σ) → Prop
  | first (deadline : Option Duration) (stdout stderr : Pipe) (call : Call) :
      History connector endpoint
        (.start (.fresh connector) deadline stdout stderr (.unopened endpoint) call)
  | move {w w' : Worker (Recorder σ)} (before : History connector endpoint w) (h : w.Move w') :
      History connector endpoint w'
  | call {w : Worker (Recorder σ)} {s : Session} {r : Result}
      (before : History connector endpoint w) (returned : w.doing = .finished s r)
      (deadline : Option Duration) (stdout stderr : Pipe) (call : Call) :
      History connector endpoint (.start w.connector deadline stdout stderr s call)

/-- Any number of moves may be made. -/
theorem Worker.History.reaches [Connector σ] {connector : σ} {w w' : Worker (Recorder σ)}
    (h : w.History connector endpoint) (hreached : w.Reaches w') : w'.History connector endpoint := by
  induction hreached with
  | refl => exact h
  | tail _ hmove ih => exact .move ih hmove

/-- One call after the other, with sinks that discard; a call that does not return in time is the last. -/
def Worker.calls [Connector σ] (limit fuel : Nat) (w : Worker (Recorder σ)) :
    List Call → Worker (Recorder σ)
  | [] => w
  | call :: rest =>
    match w.doing with
    | .finished s _ =>
      ((Worker.start w.connector none .discarding .discarding s call).advance limit fuel).calls
        limit fuel rest
    | _ => w

theorem Worker.History.calls [Connector σ] {connector : σ} {w : Worker (Recorder σ)}
    (h : w.History connector endpoint) (limit fuel : Nat) (calls : List Call) :
    (w.calls limit fuel calls).History connector endpoint := by
  induction calls generalizing w with
  | nil => exact h
  | cons call rest ih =>
    rw [Worker.calls]
    split
    · rename_i s r hreturned
      exact ih ((h.call hreturned none .discarding .discarding call).reaches
        (reaches_advance limit fuel _))
    · exact h

/-- **Whatever is called, the shell lives its life.** -/
theorem Worker.History.ongoing [Connector σ] {connector : σ} {w : Worker (Recorder σ)}
    (h : History connector endpoint w) :
    w.Coherent ∧ Ongoing endpoint w.connector.record w.progress := by
  induction h with
  | first deadline stdout stderr call =>
    obtain ⟨hcoherent, hprogress, hextends⟩ := start_coherent (.fresh connector) deadline stdout stderr
      (.unopened endpoint) call
    rw [hprogress]
    exact ⟨hcoherent, Lifecycle.unopened.begin call hextends⟩
  | move _ hmove ih =>
    exact Reaches.invariant Ongoing.next (Relation.ReflTransGen.single hmove) ih.1 ih.2
  | @call w s r _ hreturned deadline stdout stderr call ih =>
    obtain ⟨hcoherent, hprogress, hextends⟩ := start_coherent w.connector deadline stdout stderr s call
    have hfinished : w.progress = .finished s r := by rw [progress, hreturned]
    have hlife : Lifecycle endpoint w.connector.record s := by
      rw [hfinished] at ih
      exact ih.2.lifecycle
    rw [hprogress]
    exact ⟨hcoherent, hlife.begin call hextends⟩

end RemoteShell.Shell
