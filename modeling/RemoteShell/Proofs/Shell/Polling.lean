import Mathlib
import RemoteShell.Proofs.Shell.Lifecycle
import RemoteShell.Proofs.Shell.Scene

/-!
# Polling the output of a command

A connector that is asked for output again and again gives a sequence of answers (`Connector.reply`).  What
a call of `receive` makes of it depends on the first answer that *ends receiving*: one that is a failure, has
output that cannot be decoded, or says that the command is done (`EndsReceiving`).  Up to that answer the
output is passed on, chunk by chunk; behind it nothing is asked for.

* `Answer.output`: the bytes that an answer adds to a stream.
* `lastCode`: the exit code, or the failure, that the first and the last answer give.
* `Loop`: where a call stands in the sequence, and what the pipes have got by then.  It is kept by every
  move of a scene (`Loop.move`).
* `receive_loop`: in every fair run, the call polls until that answer has come, returns, and has done all
  that the sequence asks for and no more.
-/

namespace RemoteShell.Shell

open Soap (Request Field)
open Xml (Document)

variable {σ : Type}

/-! ## Asking again and again -/

namespace Connector

/-- The connector after some requests of one kind. -/
def after [Connector σ] (c : σ) (r : Request) : Nat → σ
  | 0 => c
  | n + 1 => (Connector.send (after c r n) r).2

/-- What the connector makes of a request that has been sent some times before. -/
def reply [Connector σ] (c : σ) (r : Request) (n : Nat) : Reception :=
  (Connector.send (after c r n) r).1

end Connector

/-- The exchanges of asking for the same some times. -/
def repeated [Connector σ] (c : σ) (r : Request) (n : Nat) : List Exchange :=
  (List.range n).map fun i => ⟨r, Connector.reply c r i⟩

theorem repeated_succ [Connector σ] (c : σ) (r : Request) (n : Nat) :
    repeated c r (n + 1) = repeated c r n ++ [⟨r, Connector.reply c r n⟩] := by
  simp only [repeated, List.range_succ, List.map_append, List.map_cons, List.map_nil]

theorem length_repeated [Connector σ] (c : σ) (r : Request) (n : Nat) :
    (repeated c r n).length = n := by
  simp only [repeated, List.length_map, List.length_range]

/-! ## What an answer means -/

/-- An answer to a request for output. -/
abbrev Output := Except Failure Document

/-- An answer behind which nothing more is asked for: a failure, output that cannot be decoded, or the
mark of a finished command. -/
def EndsReceiving : Output → Prop
  | .error _ => True
  | .ok d => (∃ e, Soap.Response.stream d .stdout = .error e) ∨
      (∃ e, Soap.Response.stream d .stderr = .error e) ∨
        Soap.Response.contains d .commandDone = true

/-- The bytes that an answer adds to a stream.  Standard error comes after standard output, so nothing is
added to it when the latter cannot be decoded. -/
def Output.bytes (a : Output) (stream : Stream) : List UInt8 :=
  match a with
  | .error _ => []
  | .ok d =>
    match Soap.Response.stream d .stdout, stream with
    | .error _, _ => []
    | .ok bytes, .stdout => bytes
    | .ok _, .stderr =>
      match Soap.Response.stream d .stderr with
      | .error _ => []
      | .ok bytes => bytes

/-- The bytes that the first answers add to a stream. -/
def delivered (answers : Nat → Output) (n : Nat) (stream : Stream) : List UInt8 :=
  (List.range n).flatMap fun i => (answers i).bytes stream

/-- The exit code of the first answer; one that is no number counts as none. -/
def earlyCode : Output → Option Int
  | .error _ => none
  | .ok d =>
    match Soap.Response.exitCode? d with
    | .error _ => none
    | .ok code => code

/-- What receiving results in: the failure of the last answer, or its exit code, or else that of the first
answer. -/
def lastCode (first : Output) : Output → Except Failure Int
  | .error e => .error e
  | .ok d =>
    match Soap.Response.stream d .stdout, Soap.Response.stream d .stderr with
    | .error e, _ => .error e
    | .ok _, .error e => .error e
    | .ok _, .ok _ =>
      match Soap.Response.exitCode? d, earlyCode first with
      | .error e, _ => .error e
      | .ok (some code), _ => .ok code
      | .ok none, some code => .ok code
      | .ok none, none => .error (.fieldMissing .exitCode d.source)

/-- The session and the result of receiving. -/
def Session.received (s : Session) : Except Failure Int → Session × Result
  | .ok code => ({ s with stage := .commandDone, exitCode := some code }, .ok (.code code))
  | .error e => (s.fail, .error (s.wrap .receive e))

theorem delivered_succ (answers : Nat → Output) (n : Nat) (stream : Stream) :
    delivered answers (n + 1) stream = delivered answers n stream ++ (answers n).bytes stream := by
  simp only [delivered, List.range_succ, List.flatMap_append, List.flatMap_cons, List.flatMap_nil,
    List.append_nil]

section Answer

variable {d : Document} {e : Failure} {out bytes : List UInt8}

theorem bytes_of_stdout_error (h : Soap.Response.stream d .stdout = .error e) (stream : Stream) :
    Output.bytes (.ok d) stream = [] := by
  cases stream <;> simp only [Output.bytes, h]

theorem bytes_stdout (h : Soap.Response.stream d .stdout = .ok out) :
    Output.bytes (.ok d) .stdout = out := by
  simp only [Output.bytes, h]

theorem bytes_of_stderr_error (hout : Soap.Response.stream d .stdout = .ok out)
    (h : Soap.Response.stream d .stderr = .error e) : Output.bytes (.ok d) .stderr = [] := by
  simp only [Output.bytes, hout, h]

theorem bytes_stderr (hout : Soap.Response.stream d .stdout = .ok out)
    (h : Soap.Response.stream d .stderr = .ok bytes) : Output.bytes (.ok d) .stderr = bytes := by
  simp only [Output.bytes, hout, h]

theorem lastCode_of_stdout_error (first : Output) (h : Soap.Response.stream d .stdout = .error e) :
    lastCode first (.ok d) = .error e := by
  simp only [lastCode, h]

theorem lastCode_of_stderr_error (first : Output) (hout : Soap.Response.stream d .stdout = .ok out)
    (h : Soap.Response.stream d .stderr = .error e) : lastCode first (.ok d) = .error e := by
  simp only [lastCode, hout, h]

/-- When both streams are decoded, the exit code decides. -/
theorem lastCode_of_decoded (first : Output) (hout : Soap.Response.stream d .stdout = .ok out)
    (h : Soap.Response.stream d .stderr = .ok bytes) :
    lastCode first (.ok d) =
      match Soap.Response.exitCode? d with
      | .error e => .error e
      | .ok found =>
        match found <|> earlyCode first with
        | some code => .ok code
        | none => .error (.fieldMissing .exitCode d.source) := by
  simp only [lastCode, hout, h]
  rcases Soap.Response.exitCode? d with e | _ | code
  · rfl
  · cases earlyCode first <;> rfl
  · rfl

end Answer

/-! ## Where a call stands -/

section Loop

variable [Connector σ] (connector : σ) (s : Session) (shell command : String)
  (answers : Nat → Output) (pipes : Stream → Pipe)

/-- What a call remembers when it asks for an answer. -/
def pollingAt (n : Nat) : Polling :=
  ⟨shell, command, decide (0 < n), if 0 < n then earlyCode (answers 0) else none⟩

/-- The call that waits for an answer. -/
def pollingWork (n : Nat) : Work :=
  ⟨s, .single, .polling (pollingAt shell command answers n)⟩

/-- The call that writes the bytes of an answer to a stream. -/
def writingWork (n : Nat) (d : Document) (stream : Stream) (bytes : List UInt8) : Work :=
  ⟨s, .single, .writing (pollingAt shell command answers n) d stream bytes⟩

/-- What a worker has to do with the number of requests sent. -/
structure Counts (n : Nat) (w : Worker (Recorder σ)) : Prop where
  inner : w.connector.inner = Connector.after connector (.receive shell command) n
  record : w.connector.record = repeated connector (.receive shell command) n
  deadline : w.deadline = none
  expires : w.expires = none

/-- The pipe of a stream. -/
def pipeOf (stdout stderr : Pipe) : Stream → Pipe
  | .stdout => stdout
  | .stderr => stderr

/-- A pipe has got the bytes of some answers, but for a rest. -/
def Got (n : Nat) (stream : Stream) (rest : List UInt8) (w : Worker (Recorder σ))
    (taken : Stream → List UInt8) : Prop :=
  (pipes stream).Flow (w.pipe stream) (taken stream) (delivered answers n stream) rest

/-- Where a call of `receive` stands: which answer it waits for, whose bytes it writes, or which answer
was the last. -/
inductive Loop (w : Worker (Recorder σ)) (taken : Stream → List UInt8) : Prop
  | waiting (n due : Nat) (counts : Counts connector shell command (n + 1) w)
      (before : ∀ i < n, ¬ EndsReceiving (answers i))
      (doing : w.doing = .waiting (pollingWork s shell command answers n) (some (due, answers n)))
      (got : ∀ stream, Got answers pipes n stream [] w taken)
  | stdout (n : Nat) (d : Document) (bytes rest : List UInt8)
      (counts : Counts connector shell command (n + 1) w)
      (before : ∀ i < n, ¬ EndsReceiving (answers i)) (answer : answers n = .ok d)
      (decoded : Soap.Response.stream d .stdout = .ok bytes)
      (doing : w.doing = .writing (writingWork s shell command answers n d .stdout bytes) .stdout rest)
      (gotOut : Got answers pipes (n + 1) .stdout rest w taken)
      (gotErr : Got answers pipes n .stderr [] w taken)
  | stderr (n : Nat) (d : Document) (out bytes rest : List UInt8)
      (counts : Counts connector shell command (n + 1) w)
      (before : ∀ i < n, ¬ EndsReceiving (answers i)) (answer : answers n = .ok d)
      (decodedOut : Soap.Response.stream d .stdout = .ok out)
      (decoded : Soap.Response.stream d .stderr = .ok bytes)
      (doing : w.doing = .writing (writingWork s shell command answers n d .stderr bytes) .stderr rest)
      (gotOut : Got answers pipes (n + 1) .stdout [] w taken)
      (gotErr : Got answers pipes (n + 1) .stderr rest w taken)
  | finished (n : Nat) (counts : Counts connector shell command (n + 1) w)
      (before : ∀ i < n, ¬ EndsReceiving (answers i)) (ends : EndsReceiving (answers n))
      (doing : w.doing = .finished (s.received (lastCode (answers 0) (answers n))).1
        (s.received (lastCode (answers 0) (answers n))).2)
      (got : ∀ stream, Got answers pipes (n + 1) stream [] w taken)

variable {connector s shell command answers pipes} {n : Nat} {w w' : Worker (Recorder σ)}
  {taken taken' : Stream → List UInt8}

theorem Counts.congr (h : Counts connector shell command n w) (hconnector : w'.connector = w.connector)
    (hdeadline : w'.deadline = w.deadline) (hexpires : w'.expires = w.expires) :
    Counts connector shell command n w' :=
  ⟨by rw [hconnector, h.inner], by rw [hconnector, h.record], by rw [hdeadline, h.deadline],
    by rw [hexpires, h.expires]⟩

theorem Counts.nextExpiry (h : Counts connector shell command n w) (work : Work) :
    w.nextExpiry work = none := by
  rw [Worker.nextExpiry, h.expires, h.deadline]
  split <;> rfl

theorem Loop.expires (h : Loop connector s shell command answers pipes w taken) : w.expires = none := by
  cases h with
  | waiting _ _ counts => exact counts.expires
  | stdout _ _ _ _ counts => exact counts.expires
  | stderr _ _ _ _ _ counts => exact counts.expires
  | finished _ counts => exact counts.expires

/-- Every answer that a call waits for comes. -/
theorem Loop.answered (h : Loop connector s shell command answers pipes w taken) (work : Work) :
    w.doing ≠ .waiting work none := by
  cases h with
  | waiting _ _ _ _ doing _ => rw [doing]; nofun
  | stdout _ _ _ _ _ _ _ _ doing _ _ => rw [doing]; nofun
  | stderr _ _ _ _ _ _ _ _ _ _ doing _ _ => rw [doing]; nofun
  | finished _ _ _ _ doing _ => rw [doing]; nofun

/-- What readers do and how time passes changes nothing but the pipes. -/
theorem Loop.of_same (h : Loop connector s shell command answers pipes w taken)
    (hconnector : w'.connector = w.connector) (hdeadline : w'.deadline = w.deadline)
    (hexpires : w'.expires = w.expires) (hdoing : w'.doing = w.doing)
    (hgot : ∀ n stream rest, Got answers pipes n stream rest w taken →
      Got answers pipes n stream rest w' taken') :
    Loop connector s shell command answers pipes w' taken' := by
  cases h with
  | waiting n due counts before doing got =>
    exact .waiting n due (counts.congr hconnector hdeadline hexpires) before (hdoing.trans doing)
      fun stream => hgot n stream [] (got stream)
  | stdout n d bytes rest counts before answer decoded doing gotOut gotErr =>
    exact .stdout n d bytes rest (counts.congr hconnector hdeadline hexpires) before answer decoded
      (hdoing.trans doing) (hgot _ _ _ gotOut) (hgot _ _ _ gotErr)
  | stderr n d out bytes rest counts before answer decodedOut decoded doing gotOut gotErr =>
    exact .stderr n d out bytes rest (counts.congr hconnector hdeadline hexpires) before answer
      decodedOut decoded (hdoing.trans doing) (hgot _ _ _ gotOut) (hgot _ _ _ gotErr)
  | finished n counts before ends doing got =>
    exact .finished n (counts.congr hconnector hdeadline hexpires) before ends (hdoing.trans doing)
      fun stream => hgot _ _ _ (got stream)

/-! ### What the call does by itself -/

/-- The call asks for the next answer. -/
theorem Counts.poll {delay : Nat} (h : Counts connector shell command n w)
    (hreply : Connector.reply connector (.receive shell command) n = some (delay, answers n))
    (hbefore : ∀ i < n, ¬ EndsReceiving (answers i))
    (hgot : ∀ stream, Got answers pipes n stream [] w taken) :
    Loop connector s shell command answers pipes
      (w.proceed (.busy (pollingWork s shell command answers n))) taken := by
  have hsend : Connector.send w.connector.inner (.receive shell command) =
      (some (delay, answers n), Connector.after connector (.receive shell command) (n + 1)) := by
    rw [← hreply, h.inner]
    rfl
  have hdemand : (pollingWork s shell command answers n).demand = .answer (.receive shell command) := rfl
  rw [Worker.proceed_of_answer w hdemand, Recorder.send_eq, hsend]
  refine .waiting n (w.now + delay) ⟨rfl, ?_, h.deadline,
    h.nextExpiry (pollingWork s shell command answers n)⟩ hbefore rfl ?_
  · rw [repeated_succ, hreply, ← h.record]
  · intro stream
    cases stream
    · exact hgot .stdout
    · exact hgot .stderr

/-- The call begins to write the bytes of an answer to a stream. -/
theorem Counts.write {d : Document} {stream : Stream} {bytes : List UInt8}
    (h : Counts connector shell command (n + 1) w)
    (hbytes : (answers n).bytes stream = bytes) (hgot : Got answers pipes n stream [] w taken) :
    ∃ w' rest, w.proceed (.busy (writingWork s shell command answers n d stream bytes)) = w' ∧
      w'.doing = .writing (writingWork s shell command answers n d stream bytes) stream rest ∧
      Counts connector shell command (n + 1) w' ∧ Got answers pipes (n + 1) stream rest w' taken ∧
      ∀ other m rest', other ≠ stream → Got answers pipes m other rest' w taken →
        Got answers pipes m other rest' w' taken := by
  have hdemand : (writingWork s shell command answers n d stream bytes).demand = .room stream bytes := rfl
  rw [Worker.proceed_of_room w hdemand]
  refine ⟨_, _, rfl, rfl, ?_, ?_, ?_⟩
  · exact h.congr (w.setPipe_connector _ _) (w.setPipe_deadline _ _)
      ((h.nextExpiry (writingWork s shell command answers n d stream bytes)).trans h.expires.symm)
  · have hflow := Pipe.Flow.append hgot bytes
    rw [← hbytes, ← delivered_succ] at hflow
    cases stream <;> exact hbytes ▸ hflow
  · intro other m rest' hne hother
    cases stream <;> cases other <;> first | exact absurd rfl hne | exact hother

/-- Receiving is over. -/
theorem Counts.finish (h : Counts connector shell command (n + 1) w)
    (hbefore : ∀ i < n, ¬ EndsReceiving (answers i)) (hends : EndsReceiving (answers n))
    (code : Except Failure Int) (hcode : lastCode (answers 0) (answers n) = code)
    (hgot : ∀ stream, Got answers pipes (n + 1) stream [] w taken) :
    Loop connector s shell command answers pipes
      (w.proceed (.finished (s.received code).1 (s.received code).2)) taken := by
  subst hcode
  exact .finished n ⟨h.inner, h.record, h.deadline, rfl⟩ hbefore hends rfl fun stream => by
    cases stream
    · exact hgot .stdout
    · exact hgot .stderr

omit [Connector σ] in
/-- An answer that adds nothing to a stream leaves it as it is. -/
theorem Got.succ {stream : Stream} {rest : List UInt8} (h : Got answers pipes n stream rest w taken)
    (hbytes : (answers n).bytes stream = []) : Got answers pipes (n + 1) stream rest w taken := by
  rw [Got, delivered_succ, hbytes, List.append_nil]
  exact h

/-- The answer has come: its standard output is written, if it can be decoded. -/
theorem Counts.answered (h : Counts connector shell command (n + 1) w)
    (hbefore : ∀ i < n, ¬ EndsReceiving (answers i))
    (hgot : ∀ stream, Got answers pipes n stream [] w taken) :
    Loop connector s shell command answers pipes
      (w.proceed ((pollingWork s shell command answers n).answered (answers n))) taken := by
  cases hanswer : answers n with
  | error e =>
    refine h.finish hbefore ?_ (.error e) ?_ fun stream => (hgot stream).succ ?_
    · rw [hanswer]
      trivial
    · rw [hanswer]
      rfl
    · rw [hanswer]
      rfl
  | ok d =>
    have hbegin : (pollingWork s shell command answers n).answered (.ok d) =
        (pollingWork s shell command answers n).beginWriting (pollingAt shell command answers n) d
          .stdout := rfl
    rw [hbegin, Work.beginWriting]
    cases hout : Soap.Response.stream d Stream.stdout.field with
    | error e =>
      refine h.finish hbefore ?_ (.error e) ?_ fun stream => (hgot stream).succ ?_
      · rw [hanswer]
        exact .inl ⟨e, hout⟩
      · rw [hanswer]
        exact lastCode_of_stdout_error _ hout
      · rw [hanswer]
        exact bytes_of_stdout_error hout stream
    | ok bytes =>
      have hbytes : (answers n).bytes .stdout = bytes := by
        rw [hanswer]
        exact bytes_stdout hout
      obtain ⟨w', rest, hproceed, hdoing, hcounts, hgotOut, hgotErr⟩ :=
        h.write (s := s) (d := d) hbytes (hgot .stdout)
      have hgotErr' := hgotErr .stderr n [] (by decide) (hgot .stderr)
      rw [← hproceed] at hdoing hcounts hgotOut hgotErr'
      exact .stdout n d bytes rest hcounts hbefore hanswer hout hdoing hgotOut hgotErr'

/-- Standard output has been written: standard error follows, if it can be decoded. -/
theorem Counts.writtenOut {d : Document} {out : List UInt8}
    (h : Counts connector shell command (n + 1) w) (hbefore : ∀ i < n, ¬ EndsReceiving (answers i))
    (hanswer : answers n = .ok d) (hout : Soap.Response.stream d .stdout = .ok out)
    (hgotOut : Got answers pipes (n + 1) .stdout [] w taken)
    (hgotErr : Got answers pipes n .stderr [] w taken) :
    Loop connector s shell command answers pipes
      (w.proceed (writingWork s shell command answers n d .stdout out).written) taken := by
  have hbegin : (writingWork s shell command answers n d .stdout out).written =
      (writingWork s shell command answers n d .stdout out).beginWriting
        (pollingAt shell command answers n) d .stderr := rfl
  rw [hbegin, Work.beginWriting]
  cases herr : Soap.Response.stream d Stream.stderr.field with
  | error e =>
    refine h.finish hbefore ?_ (.error e) ?_ fun stream => ?_
    · rw [hanswer]
      exact .inr (.inl ⟨e, herr⟩)
    · rw [hanswer]
      exact lastCode_of_stderr_error _ hout herr
    · cases stream with
      | stdout => exact hgotOut
      | stderr =>
        refine hgotErr.succ ?_
        rw [hanswer]
        exact bytes_of_stderr_error hout herr
  | ok bytes =>
    have hbytes : (answers n).bytes .stderr = bytes := by
      rw [hanswer]
      exact bytes_stderr hout herr
    obtain ⟨w', rest, hproceed, hdoing, hcounts, hgotErr', hgotOut'⟩ :=
      h.write (s := s) (d := d) hbytes hgotErr
    have hgotOut'' := hgotOut' .stdout (n + 1) [] (by decide) hgotOut
    rw [← hproceed] at hdoing hcounts hgotErr' hgotOut''
    exact .stderr n d out bytes rest hcounts hbefore hanswer hout herr hdoing hgotOut'' hgotErr'

/-- When the output of an answer has been written, the call asks for the next one or has its result. -/
theorem written_stderr {d : Document} {out bytes : List UInt8} (hanswer : answers n = .ok d)
    (hout : Soap.Response.stream d .stdout = .ok out)
    (herr : Soap.Response.stream d .stderr = .ok bytes) :
    (writingWork s shell command answers n d .stderr bytes).written =
      if Soap.Response.contains d .commandDone then
        .finished (s.received (lastCode (answers 0) (answers n))).1
          (s.received (lastCode (answers 0) (answers n))).2
      else .busy (pollingWork s shell command answers (n + 1)) := by
  have hfinish : (writingWork s shell command answers n d .stderr bytes).written =
      (writingWork s shell command answers n d .stderr bytes).finishAnswer
        (pollingAt shell command answers n) d := rfl
  -- the code that is remembered is that of the first answer, also when this is the first one
  have hearly : (if (pollingAt shell command answers n).polled = true
      then (pollingAt shell command answers n).early
      else (Soap.Response.exitCode? d).toOption.bind id) = earlyCode (answers 0) := by
    by_cases hn : 0 < n
    · simp only [pollingAt, hn, decide_true, if_true]
    · have hzero : n = 0 := by omega
      subst hzero
      simp only [pollingAt, Nat.lt_irrefl, decide_false, Bool.false_eq_true, if_false, hanswer, earlyCode]
      cases Soap.Response.exitCode? d <;> rfl
  rw [hfinish, Work.finishAnswer, hearly]
  split
  · rw [hanswer, lastCode_of_decoded _ hout herr]
    cases Soap.Response.exitCode? d with
    | error e => rfl
    | ok found =>
      simp only
      cases found <|> earlyCode (answers 0) <;> rfl
  · have hnext : ({ pollingAt shell command answers n with
        polled := true, early := earlyCode (answers 0) } : Polling) =
        pollingAt shell command answers (n + 1) := by
      simp only [pollingAt, Nat.zero_lt_succ, decide_true, if_true]
    rw [hnext]
    rfl

/-- Standard error has been written, too: the answer is done with. -/
theorem Counts.writtenErr {d : Document} {out bytes : List UInt8}
    (hreplies : ∀ i, ∃ delay, Connector.reply connector (.receive shell command) i =
      some (delay, answers i))
    (h : Counts connector shell command (n + 1) w) (hbefore : ∀ i < n, ¬ EndsReceiving (answers i))
    (hanswer : answers n = .ok d) (hout : Soap.Response.stream d .stdout = .ok out)
    (herr : Soap.Response.stream d .stderr = .ok bytes)
    (hgot : ∀ stream, Got answers pipes (n + 1) stream [] w taken) :
    Loop connector s shell command answers pipes
      (w.proceed (writingWork s shell command answers n d .stderr bytes).written) taken := by
  rw [written_stderr hanswer hout herr]
  split
  · rename_i hdone
    refine h.finish hbefore ?_ _ rfl hgot
    rw [hanswer]
    exact .inr (.inr hdone)
  · rename_i hdone
    obtain ⟨delay, hreply⟩ := hreplies (n + 1)
    refine h.poll hreply ?_ hgot
    intro i hi
    rcases Nat.lt_succ_iff_lt_or_eq.1 hi with hi | rfl
    · exact hbefore i hi
    · rw [hanswer]
      rintro (⟨e, he⟩ | ⟨e, he⟩ | hends)
      · rw [hout] at he
        cases he
      · rw [herr] at he
        cases he
      · exact hdone hends

omit [Connector σ] in
/-- Offering its rest to one pipe leaves a stream with less of it, and the other as it is. -/
theorem Got.offer {stream : Stream} {rest : List UInt8} (h : Got answers pipes n stream rest w taken) :
    Got answers pipes n stream ((w.pipe stream).offer rest).2
        (w.setPipe ((w.pipe stream).offer rest).1 stream) taken ∧
      ∀ other m rest', other ≠ stream → Got answers pipes m other rest' w taken →
        Got answers pipes m other rest' (w.setPipe ((w.pipe stream).offer rest).1 stream) taken := by
  constructor
  · rw [Got, Worker.pipe_setPipe]
    exact Pipe.Flow.offer h
  · intro other m rest' hne hother
    rw [Got, Worker.pipe_setPipe_of_ne _ _ hne]
    exact hother

/-- **Every step of the worker leads on along the sequence of answers.** -/
theorem Loop.step {limit : Nat}
    (hreplies : ∀ i, ∃ delay, Connector.reply connector (.receive shell command) i =
      some (delay, answers i))
    (h : Loop connector s shell command answers pipes w taken) (hstep : w.step limit = some w') :
    Loop connector s shell command answers pipes w' taken := by
  cases h with
  | waiting n due counts before doing got =>
    obtain ⟨due', answer, hreception, rfl⟩ := Worker.step_of_waiting doing counts.expires hstep
    obtain ⟨rfl, rfl⟩ : due = due' ∧ answers n = answer := by simpa using hreception
    refine Counts.answered (counts.congr rfl rfl rfl) before fun stream => ?_
    cases stream
    · exact got .stdout
    · exact got .stderr
  | stdout n d bytes rest counts before answer decoded doing gotOut gotErr =>
    obtain ⟨hgot, hother⟩ := gotOut.offer
    have hgotErr := hother .stderr n [] (by decide) gotErr
    obtain ⟨-, ⟨-, rfl⟩ | ⟨hempty, rfl⟩⟩ := Worker.step_of_writing doing counts.expires hstep
    · exact .stdout n d bytes _ (counts.congr (w.setPipe_connector _ _) (w.setPipe_deadline _ _)
        (w.setPipe_expires _ _)) before answer decoded rfl hgot hgotErr
    · rw [hempty] at hgot
      exact Counts.writtenOut (counts.congr (w.setPipe_connector _ _) (w.setPipe_deadline _ _)
        (w.setPipe_expires _ _)) before answer decoded hgot hgotErr
  | stderr n d out bytes rest counts before answer decodedOut decoded doing gotOut gotErr =>
    obtain ⟨hgot, hother⟩ := gotErr.offer
    have hgotOut := hother .stdout (n + 1) [] (by decide) gotOut
    obtain ⟨-, ⟨-, rfl⟩ | ⟨hempty, rfl⟩⟩ := Worker.step_of_writing doing counts.expires hstep
    · exact .stderr n d out bytes _ (counts.congr (w.setPipe_connector _ _) (w.setPipe_deadline _ _)
        (w.setPipe_expires _ _)) before answer decodedOut decoded rfl hgotOut hgot
    · rw [hempty] at hgot
      refine Counts.writtenErr hreplies (counts.congr (w.setPipe_connector _ _)
        (w.setPipe_deadline _ _) (w.setPipe_expires _ _)) before answer decodedOut decoded fun stream => ?_
      cases stream
      · exact hgotOut
      · exact hgot
  | finished n counts before ends doing got =>
    rw [Worker.step_of_finished _ doing] at hstep
    cases hstep

/-- **Every move in a scene leads on along the sequence of answers.** -/
theorem Loop.move {a b : Scene (Recorder σ)}
    (hreplies : ∀ i, ∃ delay, Connector.reply connector (.receive shell command) i =
      some (delay, answers i))
    (h : Loop connector s shell command answers pipes a.worker a.taken) (hmove : a.Move b) :
    Loop connector s shell command answers pipes b.worker b.taken := by
  cases hmove with
  | work limit hstep => exact h.step hreplies hstep
  | read stream count =>
    refine h.of_same (Worker.setPipe_connector _ _ _) (Worker.setPipe_deadline _ _ _)
      (Worker.setPipe_expires _ _ _) (Worker.setPipe_doing _ _ _) ?_
    intro n other rest hgot
    by_cases hsame : other = stream
    · subst hsame
      have hflow := Pipe.Flow.take hgot count
      simpa only [Got, Scene.read, Worker.pipe_setPipe, Function.update_self] using hflow
    · simpa only [Got, Scene.read, Worker.pipe_setPipe_of_ne _ _ hsame,
        Function.update_of_ne hsame] using hgot
  | drop stream =>
    refine h.of_same (Worker.setPipe_connector _ _ _) (Worker.setPipe_deadline _ _ _)
      (Worker.setPipe_expires _ _ _) (Worker.setPipe_doing _ _ _) ?_
    intro n other rest hgot
    by_cases hsame : other = stream
    · subst hsame
      have hflow := Pipe.Flow.dropReader hgot
      simpa only [Got, Scene.drop, Worker.pipe_setPipe] using hflow
    · simpa only [Got, Scene.drop, Worker.pipe_setPipe_of_ne _ _ hsame] using hgot
  | pause time =>
    refine h.of_same rfl rfl rfl rfl ?_
    intro n stream rest hgot
    cases stream <;> exact hgot

/-- A call of `receive` on a session with a running command asks for the first answer. -/
theorem loop_start (answers : Nat → Output) (stdout stderr : Pipe)
    (hreplies : ∀ i, ∃ delay, Connector.reply connector (.receive shell command) i =
      some (delay, answers i))
    (hstage : s.stage = .commandRunning) (hshell : s.shellId = some shell)
    (hcommand : s.commandId = some command) :
    Loop connector s shell command answers (pipeOf stdout stderr)
      (.start (.fresh connector) none stdout stderr s .receive) fun _ => [] := by
  have hbegin : s.begin .receive = .busy (pollingWork s shell command answers 0) := by
    simp only [Session.begin, Session.beginReceive, Session.expect, if_pos hstage,
      Session.requireShell, hshell, Session.requireCommand, hcommand]
    rfl
  obtain ⟨delay, hreply⟩ := hreplies 0
  rw [Worker.start, hbegin]
  refine Counts.poll ⟨rfl, rfl, rfl, rfl⟩ hreply (fun i hi => absurd hi i.not_lt_zero) fun stream => ?_
  cases stream <;> exact Pipe.Flow.refl _

/-! ### Rounds

From one request to the next, a call waits, writes standard output and writes standard error.  Every step
goes on to the next of the three or leaves fewer bytes to write. -/

/-- What is left to do before the next request: the parts of the round, and the bytes of this part. -/
def roundLeft : Doing → Nat × Nat
  | .waiting .. => (2, 0)
  | .writing _ .stdout rest => (1, rest.length)
  | .writing _ .stderr rest => (0, rest.length)
  | .finished .. => (0, 0)

/-- The number of requests sent so far. -/
def requestCount (w : Worker (Recorder σ)) : Nat :=
  w.connector.record.length

omit [Connector σ] in
theorem Counts.requestCount [Connector σ] (h : Counts connector shell command n w) :
    requestCount w = n := by
  rw [Shell.requestCount, h.record, length_repeated]

/-- A call that goes on with a round, or has ended it. -/
inductive RoundStep (w w' : Worker (Recorder σ)) : Prop
  | next (more : requestCount w' = requestCount w + 1)
  | finished (same : requestCount w' = requestCount w) {s : Session} {r : Result}
      (doing : w'.doing = .finished s r)
  | closer (same : requestCount w' = requestCount w)
      (less : Prod.Lex (· < ·) (· < ·) (roundLeft w'.doing) (roundLeft w.doing))

/-- A round in which nothing is left to write in one part ends, or goes on with a later part. -/
theorem roundStep_beginWriting {v : Worker (Recorder σ)} {work : Work} (p : Polling) (d : Document)
    (stream : Stream) (hplan : work.plan = .single) (hconnector : v.connector = w.connector)
    (hless : (roundLeft (.writing work stream [])).1 < (roundLeft w.doing).1) :
    RoundStep w (v.proceed (work.beginWriting p d stream)) := by
  rw [Work.beginWriting]
  split
  · rename_i e _
    have hfail : work.failReceiving e =
        .finished work.session.fail (.error (work.session.wrap .receive e)) := by
      simp only [Work.failReceiving, Session.conclude, hplan]
    rw [hfail]
    exact .finished (congrArg (fun c => c.record.length) hconnector) rfl
  · rename_i bytes _
    have hdemand : (⟨work.session, work.plan, .writing p d stream bytes⟩ : Work).demand =
        .room stream bytes := rfl
    rw [Worker.proceed_of_room v hdemand]
    refine .closer ?_ ?_
    · have hsame := (v.setPipe_connector ((v.pipe stream).append bytes).1 stream).trans hconnector
      exact congrArg (fun c => c.record.length) hsame
    · cases stream <;> exact Prod.Lex.left _ _ hless

/-- Offering nothing leaves nothing. -/
theorem offer_nil (p : Pipe) : (p.offer []).2 = [] := by
  rw [Pipe.offer]
  split <;> simp

/-- **Every step of the worker is a step of the round.** -/
theorem Loop.roundStep {limit : Nat} (h : Loop connector s shell command answers pipes w taken)
    (hstep : w.step limit = some w') : RoundStep w w' := by
  cases h with
  | waiting n due counts before doing got =>
    obtain ⟨due', answer, hreception, rfl⟩ := Worker.step_of_waiting doing counts.expires hstep
    obtain ⟨rfl, rfl⟩ : due = due' ∧ answers n = answer := by simpa using hreception
    cases answers n with
    | error e => exact .finished rfl rfl
    | ok d =>
      refine roundStep_beginWriting _ d .stdout rfl rfl ?_
      rw [doing]
      exact Nat.one_lt_two
  | stdout n d bytes rest counts before answer decoded doing gotOut gotErr =>
    obtain ⟨hfree, ⟨hmore, rfl⟩ | ⟨hempty, rfl⟩⟩ := Worker.step_of_writing doing counts.expires hstep
    · refine .closer (congrArg (fun c => c.record.length) (w.setPipe_connector _ _)) ?_
      have hrest : rest ≠ [] := by
        rintro rfl
        exact hmore (offer_nil _)
      rw [doing]
      exact Prod.Lex.right _ (Pipe.length_offer_lt hfree hrest)
    · refine roundStep_beginWriting _ d .stderr rfl (w.setPipe_connector _ _) ?_
      rw [doing]
      exact Nat.zero_lt_one
  | stderr n d out bytes rest counts before answer decodedOut decoded doing gotOut gotErr =>
    obtain ⟨hfree, ⟨hmore, rfl⟩ | ⟨hempty, rfl⟩⟩ := Worker.step_of_writing doing counts.expires hstep
    · refine .closer (congrArg (fun c => c.record.length) (w.setPipe_connector _ _)) ?_
      have hrest : rest ≠ [] := by
        rintro rfl
        exact hmore (offer_nil _)
      rw [doing]
      exact Prod.Lex.right _ (Pipe.length_offer_lt hfree hrest)
    · rw [written_stderr answer decodedOut decoded]
      have hsame := congrArg (fun c => c.record.length)
        (w.setPipe_connector ((w.pipe .stderr).offer rest).1 .stderr)
      split
      · exact .finished hsame rfl
      · refine .next ?_
        have hdemand : (pollingWork s shell command answers (n + 1)).demand =
            .answer (.receive shell command) := rfl
        rw [Worker.proceed_of_answer _ hdemand, requestCount, Recorder.send_eq, List.length_append,
          List.length_singleton]
        exact congrArg (· + 1) hsame
  | finished n counts before ends doing got =>
    rw [Worker.step_of_finished _ doing] at hstep
    cases hstep

/-! ### Runs -/

section Run

variable {run : Nat → Scene (Recorder σ)}

/-- The call stands somewhere in the sequence at all times. -/
theorem Loop.always (hfair : Scene.Fair run)
    (hreplies : ∀ i, ∃ delay, Connector.reply connector (.receive shell command) i =
      some (delay, answers i))
    (h₀ : Loop connector s shell command answers pipes (run 0).worker (run 0).taken) (t : Nat) :
    Loop connector s shell command answers pipes (run t).worker (run t).taken := by
  induction t with
  | zero => exact h₀
  | succ t ih =>
    rcases hfair.moves t with hsame | hmove
    · rw [hsame]
      exact ih
    · exact ih.move hreplies hmove

/-- Requests are never taken back. -/
theorem requestCount_mono (hfair : Scene.Fair run)
    (hloop : ∀ t, Loop connector s shell command answers pipes (run t).worker (run t).taken)
    {t t' : Nat} (h : t ≤ t') : requestCount (run t).worker ≤ requestCount (run t').worker := by
  induction h with
  | refl => exact Nat.le_refl _
  | @step t' _ ih =>
    refine Nat.le_trans ih ?_
    rcases hfair.moves t' with hsame | hmove
    · exact Nat.le_of_eq (by rw [hsame])
    · rcases hmove.works_or_idles with ⟨limit, w, hstep, hnext⟩ | hidles
      · rw [hnext]
        cases (hloop t').roundStep hstep with
        | next more => exact more ▸ Nat.le_succ _
        | finished same _ => exact same ▸ Nat.le_refl _
        | closer same _ => exact same ▸ Nat.le_refl _
      · exact Nat.le_of_eq (by rw [requestCount, requestCount, hidles.connector])

/-- **Every round ends.**  In a fair run a call that has not returned sends its next request or returns. -/
theorem round_ends (hfair : Scene.Fair run)
    (hloop : ∀ t, Loop connector s shell command answers pipes (run t).worker (run t).taken) (t : Nat) :
    ∃ t', t ≤ t' ∧ (requestCount (run t).worker < requestCount (run t').worker ∨
      ∃ s r, (run t').worker.doing = .finished s r) := by
  -- the induction is on what is left to do in the round
  generalize hleft : roundLeft (run t).worker.doing = left
  induction left using
    (Prod.lex (WellFoundedRelation.mk (· < ·) Nat.lt_wfRel.wf)
      (WellFoundedRelation.mk (· < ·) Nat.lt_wfRel.wf)).wf.induction generalizing t with
  | h left ih =>
    by_cases hfinished : ∃ s r, (run t).worker.doing = .finished s r
    · exact ⟨t, Nat.le_refl t, .inr hfinished⟩
    have hunfinished : ∀ s r, (run t).worker.doing ≠ .finished s r := fun s r h =>
      hfinished ⟨s, r, h⟩
    obtain ⟨t₁, ht₁, hdoing, limit, w, hstep, hnext⟩ := hfair.exists_step t (hloop t).expires
      hunfinished (hloop t).answered
    have hcount : requestCount (run t).worker ≤ requestCount (run t₁).worker :=
      requestCount_mono hfair hloop ht₁
    have hworker : (run (t₁ + 1)).worker = w := by rw [hnext]
    cases (hloop t₁).roundStep hstep with
    | next more =>
      refine ⟨t₁ + 1, Nat.le_succ_of_le ht₁, .inl ?_⟩
      rw [hworker]
      omega
    | finished _ doing =>
      exact ⟨t₁ + 1, Nat.le_succ_of_le ht₁, .inr ⟨_, _, (congrArg Worker.doing hworker).trans doing⟩⟩
    | closer same less =>
      rw [hdoing, hleft, ← hworker] at less
      obtain ⟨t₂, ht₂, hend⟩ := ih _ less (t₁ + 1) rfl
      refine ⟨t₂, by omega, hend.imp ?_ id⟩
      rw [hworker, same]
      omega

/-- The number of requests says which answer the call has got to. -/
theorem Loop.index (h : Loop connector s shell command answers pipes w taken) :
    ∃ n, requestCount w = n + 1 ∧ (∀ i < n, ¬ EndsReceiving (answers i)) ∧
      ((∃ s' r, w.doing = .finished s' r) → EndsReceiving (answers n)) := by
  have unfinished {s' : Session} {r : Result} {doing : Doing} (hdoing : w.doing = doing)
      (hne : doing ≠ .finished s' r) : w.doing ≠ .finished s' r := hdoing ▸ hne
  cases h with
  | waiting n _ counts before doing _ =>
    exact ⟨n, counts.requestCount, before, fun ⟨_, _, h⟩ => absurd h (unfinished doing nofun)⟩
  | stdout n _ _ _ counts before _ _ doing _ _ =>
    exact ⟨n, counts.requestCount, before, fun ⟨_, _, h⟩ => absurd h (unfinished doing nofun)⟩
  | stderr n _ _ _ _ counts before _ _ _ doing _ _ =>
    exact ⟨n, counts.requestCount, before, fun ⟨_, _, h⟩ => absurd h (unfinished doing nofun)⟩
  | finished n counts before ends _ _ => exact ⟨n, counts.requestCount, before, fun _ => ends⟩

/-- **The call keeps polling.**  As long as no answer ends receiving, it asks for the next one. -/
theorem keeps_polling (hfair : Scene.Fair run)
    (hloop : ∀ t, Loop connector s shell command answers pipes (run t).worker (run t).taken) (n : Nat)
    (hbefore : ∀ i < n, ¬ EndsReceiving (answers i)) :
    ∃ t, n < requestCount (run t).worker := by
  induction n with
  | zero =>
    obtain ⟨m, hm, -⟩ := (hloop 0).index
    exact ⟨0, by omega⟩
  | succ n ih =>
    obtain ⟨t, ht⟩ := ih fun i hi => hbefore i (Nat.lt_succ_of_lt hi)
    obtain ⟨t', -, hmore | hfinished⟩ := round_ends hfair hloop t
    · exact ⟨t', by omega⟩
    · obtain ⟨m, hm, -, hends⟩ := (hloop t').index
      have hlate : ¬ m < n + 1 := fun h => hbefore m h (hends hfinished)
      exact ⟨t', by omega⟩

/-- **The call returns.**  When an answer ends receiving, it returns. -/
theorem eventually_finished (hfair : Scene.Fair run)
    (hloop : ∀ t, Loop connector s shell command answers pipes (run t).worker (run t).taken) (n : Nat)
    (hbefore : ∀ i < n, ¬ EndsReceiving (answers i)) (hends : EndsReceiving (answers n)) :
    ∃ t s' r, (run t).worker.doing = .finished s' r := by
  obtain ⟨t, ht⟩ := keeps_polling hfair hloop n hbefore
  obtain ⟨t', -, hmore | hfinished⟩ := round_ends hfair hloop t
  · -- no request is sent behind the answer
    obtain ⟨m, hm, hbefore', -⟩ := (hloop t').index
    exact absurd hends (hbefore' n (by omega))
  · exact ⟨t', hfinished⟩

end Run

end Loop

/-! ## Main result -/

/-- **Polling is right.**  A call of `receive` without a deadline, on a session whose command is running,
asks a connector for output that answers every request, in a fair run.

* As long as no answer ends receiving, it asks for the next one.
* If an answer ends receiving, the call returns.
* When it has returned, it has asked exactly up to the first answer that ends receiving, and for nothing
  else.  The session and the result are those that this answer and the first one give, and every pipe has
  got the decoded output of all the answers: it is counted, and what was read and what is still in the pipe
  are together this output behind what was in the pipe before, while there is a reader. -/
theorem receive_loop [Connector σ] {connector : σ} {s : Session} {shell command : String}
    {answers : Nat → Output} {stdout stderr : Pipe} {run : Nat → Scene (Recorder σ)}
    (hstage : s.stage = .commandRunning) (hshell : s.shellId = some shell)
    (hcommand : s.commandId = some command)
    (hreplies : ∀ i, ∃ delay, Connector.reply connector (.receive shell command) i =
      some (delay, answers i))
    (hstart : run 0 = ⟨.start (.fresh connector) none stdout stderr s .receive, fun _ => []⟩)
    (hfair : Scene.Fair run) :
    (∀ n, (∀ i < n, ¬ EndsReceiving (answers i)) →
      ∃ t, n < (run t).worker.connector.record.length) ∧
    (∀ n, (∀ i < n, ¬ EndsReceiving (answers i)) → EndsReceiving (answers n) →
      ∃ t s' r, (run t).worker.doing = .finished s' r) ∧
    ∀ t s' r, (run t).worker.doing = .finished s' r →
      ∃ n, (∀ i < n, ¬ EndsReceiving (answers i)) ∧ EndsReceiving (answers n) ∧
        (run t).worker.connector.record.map Exchange.request =
          List.replicate (n + 1) (.receive shell command) ∧
        (s', r) = s.received (lastCode (answers 0) (answers n)) ∧
        ∀ stream, let before := pipeOf stdout stderr stream
          let pipe := (run t).worker.pipe stream
          pipe.written = before.written + (delivered answers (n + 1) stream).length ∧
            (pipe.carries = true → (run t).taken stream ++ pipe.buffer =
              before.buffer ++ delivered answers (n + 1) stream) := by
  have hbegun := loop_start answers stdout stderr hreplies hstage hshell hcommand
  have hloop := Loop.always hfair hreplies (by rw [hstart]; exact hbegun)
  refine ⟨keeps_polling hfair hloop, eventually_finished hfair hloop, ?_⟩
  intro t s' r hfinished
  have hend := hloop t
  generalize (run t).worker = w at hfinished hend
  cases hend with
  | waiting _ _ _ _ doing _ => rw [doing] at hfinished; cases hfinished
  | stdout _ _ _ _ _ _ _ _ doing _ _ => rw [doing] at hfinished; cases hfinished
  | stderr _ _ _ _ _ _ _ _ _ _ doing _ _ => rw [doing] at hfinished; cases hfinished
  | finished n counts before ends doing got =>
    rw [doing] at hfinished
    injection hfinished with hs hr
    refine ⟨n, before, ends, ?_, by rw [← hs, ← hr], ?_⟩
    · rw [counts.record, repeated, List.map_map]
      exact List.eq_replicate_iff.2 ⟨by simp, by simp⟩
    · intro stream
      obtain ⟨hwritten, tail, horder, htail⟩ := got stream
      constructor
      · cases stream <;> exact hwritten
      · intro hcarries
        rw [htail hcarries, List.append_nil] at horder
        cases stream <;> exact horder

/-- Laid-down answers come one after the other. -/
theorem reply_replies (answers : List Output) (r : Request) (n : Nat) :
    Connector.reply (⟨answers⟩ : Replies) r n = some (0, answers.getD n (.error .notFinished)) := by
  have hafter : Connector.after (⟨answers⟩ : Replies) r n = ⟨answers.drop n⟩ := by
    induction n with
    | zero => rfl
    | succ n ih =>
      rw [Connector.after, ih]
      exact congrArg Replies.mk List.tail_drop
  rw [Connector.reply, hafter]
  show some (0, (answers.drop n).headD (.error .notFinished)) = _
  rw [List.headD_eq_head?_getD, List.head?_drop, List.getD_eq_getElem?_getD]

/-- The code of the first answer is the result when the answer that marks the end holds none; the output of
the latter goes to the reader, through a pipe of the right size. -/
theorem receive_loop_early_code : ∃ (run : Nat → Scene (Recorder Replies)) (t n : Nat) (s : Session),
    run 0 = ⟨.start (.fresh ⟨[.ok (Replies.document Soap.shellUri "ExitCode" " 3 "),
        .ok ⟨⟨some Soap.shellUri, "CommandState", [("State", Soap.commandDone)], "",
          [⟨some Soap.shellUri, "Stream", [("Name", "stdout")], "aGk=", []⟩]⟩, ""⟩]⟩) none
      (.ofCapacity 2) .discarding ⟨"http://host/wsman", .commandRunning, some "S", some "C", none⟩
      .receive, fun _ => []⟩ ∧
    Scene.Fair run ∧ (run t).worker.doing = .finished s (.ok (.code 3)) ∧
      (run t).worker.connector.record.map Exchange.request = List.replicate (n + 1) (.receive "S" "C") ∧
      (run t).taken .stdout ++ (run t).worker.stdout.buffer = [104, 105] := by
  let answers : List Output := [.ok (Replies.document Soap.shellUri "ExitCode" " 3 "),
    .ok ⟨⟨some Soap.shellUri, "CommandState", [("State", Soap.commandDone)], "",
      [⟨some Soap.shellUri, "Stream", [("Name", "stdout")], "aGk=", []⟩]⟩, ""⟩]
  let s : Session := ⟨"http://host/wsman", .commandRunning, some "S", some "C", none⟩
  let w : Worker (Recorder Replies) :=
    .start (.fresh ⟨answers⟩) none (.ofCapacity 2) .discarding s .receive
  have hreturned : (Scene.steadily w 9).worker.doing =
      .finished { s with stage := .commandDone, exitCode := some 3 } (.ok (.code 3)) := by cbv
  have hfair := Scene.fair_steadily hreturned
  have hreplies : ∀ i, ∃ delay, Connector.reply (⟨answers⟩ : Replies) (.receive "S" "C") i =
      some (delay, answers.getD i (.error .notFinished)) := fun i => ⟨0, reply_replies answers _ i⟩
  obtain ⟨-, -, hresult⟩ := receive_loop (s := s) rfl rfl rfl hreplies rfl hfair
  obtain ⟨n, -, -, hrequests, -, -⟩ := hresult 9 _ _ hreturned
  exact ⟨_, 9, n, _, rfl, hfair, hreturned, hrequests, by cbv⟩

end RemoteShell.Shell
