import RemoteShell.Proofs.Shell.Order

/-!
# The teardown of a shell

A call of `execute` leaves nothing behind on the host.  `Teardown` lists the three records with which it
can return: the shell was not granted; it was, but the command was not; both were, and output was asked for
once or more often.  In the second case the shell is deleted, in the third the command is terminated
first, and these are the last requests.

How receiving ended does not occur in the list, and that is the point: a failed answer, output that cannot
be decoded, a bad exit code and a deadline in the middle of a poll all lead to the same two requests.

`Executing` follows a call from request to request; a call that has returned has the record and the session
that `execute_teardown` speaks of.
-/

namespace RemoteShell.Shell

open Soap (Request Field)
open Xml (Document)

variable {σ : Type} {endpoint line : String} {record record' : List Exchange}

/-! ## Granted and refused -/

namespace Exchange

/-- A shell was asked for and granted. -/
structure Opens (x : Exchange) (shell : String) : Prop where
  request : x.request = .create
  granted : x.granted? .shellId = some shell

/-- A command was to be started in a shell and was granted. -/
structure Starts (y : Exchange) (shell line command : String) : Prop where
  request : y.request = .command shell line
  granted : y.granted? .commandId = some command

end Exchange

/-- The output of a command was asked for, at least once. -/
structure Polls (polls : List Exchange) (shell command : String) : Prop where
  some_poll : polls ≠ []
  request : ∀ p ∈ polls, p.request = .receive shell command

/-- The records of a call of `execute` that has returned. -/
inductive Teardown (line : String) : List Exchange → Prop
  | openFailed {x : Exchange} (request : x.request = .create) (refused : x.granted? .shellId = none) :
      Teardown line [x]
  | runFailed {x y z : Exchange} {shell : String} (opened : x.Opens shell)
      (request : y.request = .command shell line) (refused : y.granted? .commandId = none)
      (deleted : z.request = .delete shell) : Teardown line [x, y, z]
  | ran {x y u z : Exchange} {polls : List Exchange} {shell command : String} (opened : x.Opens shell)
      (started : y.Starts shell line command) (polled : Polls polls shell command)
      (signalled : u.request = .signal shell command) (deleted : z.request = .delete shell) :
      Teardown line ([x, y] ++ polls ++ [u, z])

/-! ## From request to request -/

/-- The stage of a session whose command has run, or failed to. -/
def stageRun (r : Result) : Stage :=
  if r.isOk then .commandDone else .failed

/-- The stage of a session behind a call of `execute`. -/
def stageOver (r : Result) : Stage :=
  if r.isOk then .closed else .failed

/-- A call of `execute` on the way, with its record. -/
inductive Executing (endpoint line : String) : List Exchange → Progress → Prop
  | opening {x : Exchange} (request : x.request = .create) :
      Executing endpoint line [x] (.busy ⟨.unopened endpoint, .execute line, .opening⟩)
  | starting {x y : Exchange} {shell : String} (opened : x.Opens shell)
      (request : y.request = .command shell line) :
      Executing endpoint line [x, y]
        (.busy ⟨⟨endpoint, .shellOpen, some shell, none, none⟩, .execute line, .starting shell line⟩)
  | polling {x y : Exchange} {polls : List Exchange} {p : Polling} (opened : x.Opens p.shellId)
      (started : y.Starts p.shellId line p.commandId) (polled : Polls polls p.shellId p.commandId) :
      Executing endpoint line ([x, y] ++ polls)
        (.busy ⟨⟨endpoint, .commandRunning, some p.shellId, some p.commandId, none⟩, .execute line,
          .polling p⟩)
  | writing {x y : Exchange} {polls : List Exchange} {p : Polling} (d : Document) (stream : Stream)
      (bytes : List UInt8) (opened : x.Opens p.shellId)
      (started : y.Starts p.shellId line p.commandId) (polled : Polls polls p.shellId p.commandId) :
      Executing endpoint line ([x, y] ++ polls)
        (.busy ⟨⟨endpoint, .commandRunning, some p.shellId, some p.commandId, none⟩, .execute line,
          .writing p d stream bytes⟩)
  | signalling {x y u : Exchange} {polls : List Exchange} {shell command : String} {s : Session}
      {r : Result} (opened : x.Opens shell) (started : y.Starts shell line command)
      (polled : Polls polls shell command) (signalled : u.request = .signal shell command)
      (known : s.shellId = some shell) (stage : s.stage = stageRun r) :
      Executing endpoint line ([x, y] ++ polls ++ [u])
        (.busy ⟨s, .cleanup r, .signalling shell command⟩)
  | closing {record : List Exchange} {shell : String} {s : Session} {r : Result}
      (sent : Teardown line record) (forgotten : s.shellId = none) (stage : s.stage = stageRun r) :
      Executing endpoint line record (.busy ⟨s, .cleanup r, .closing shell⟩)
  | finished {record : List Exchange} {s : Session} {r : Result} (sent : Teardown line record)
      (forgotten : s.shellId = none) (stage : s.stage = stageOver r) :
      Executing endpoint line record (.finished s r)

section Ran

variable {x y : Exchange} {polls : List Exchange} {p : Polling}

/-- Once receiving has ended, whatever its result, the command is terminated. -/
theorem Executing.conclude {s : Session} {r : Result} (hopened : x.Opens p.shellId)
    (hstarted : y.Starts p.shellId line p.commandId) (hpolls : Polls polls p.shellId p.commandId)
    (hids : p.Of s) (hstage : s.stage = stageRun r)
    (hextends : (s.conclude (.execute line) r).Extends ([x, y] ++ polls) record') :
    Executing endpoint line record' (s.conclude (.execute line) r) := by
  obtain ⟨hshell, hcommand⟩ := hids
  have hsignal : s.conclude (.execute line) r =
      .busy ⟨s, .cleanup r, .signalling p.shellId p.commandId⟩ := by
    simp only [Session.conclude, Session.beginCleanup, hshell, hcommand]
  rw [hsignal] at hextends ⊢
  obtain ⟨u, hu, rfl⟩ := hextends.eq_of_sent (r := .signal p.shellId p.commandId) rfl
  exact .signalling hopened hstarted hpolls hu hshell hstage

theorem Executing.failReceiving (activity : Activity) (e : Failure) (hopened : x.Opens p.shellId)
    (hstarted : y.Starts p.shellId line p.commandId) (hpolls : Polls polls p.shellId p.commandId)
    (hextends : ((⟨⟨endpoint, .commandRunning, some p.shellId, some p.commandId, none⟩, .execute line,
      activity⟩ : Work).failReceiving e).Extends ([x, y] ++ polls) record') :
    Executing endpoint line record'
      ((⟨⟨endpoint, .commandRunning, some p.shellId, some p.commandId, none⟩, .execute line,
        activity⟩ : Work).failReceiving e) :=
  Executing.conclude hopened hstarted hpolls ⟨rfl, rfl⟩ rfl hextends

theorem Executing.beginWriting (activity : Activity) (d : Document) (stream : Stream)
    (hopened : x.Opens p.shellId) (hstarted : y.Starts p.shellId line p.commandId)
    (hpolls : Polls polls p.shellId p.commandId)
    (hextends : ((⟨⟨endpoint, .commandRunning, some p.shellId, some p.commandId, none⟩, .execute line,
      activity⟩ : Work).beginWriting p d stream).Extends ([x, y] ++ polls) record') :
    Executing endpoint line record'
      ((⟨⟨endpoint, .commandRunning, some p.shellId, some p.commandId, none⟩, .execute line,
        activity⟩ : Work).beginWriting p d stream) := by
  unfold Work.beginWriting at hextends ⊢
  cases hbytes : Soap.Response.stream d stream.field with
  | error e =>
    rw [hbytes] at hextends
    exact Executing.failReceiving activity e hopened hstarted hpolls hextends
  | ok bytes =>
    rw [hbytes] at hextends
    obtain rfl := hextends.eq_of_silent rfl
    exact .writing d stream bytes hopened hstarted hpolls

/-- An answer whose output has been written leads to the next poll or to the end of receiving. -/
theorem Executing.finishAnswer (activity : Activity) (d : Document)
    (hopened : x.Opens p.shellId) (hstarted : y.Starts p.shellId line p.commandId)
    (hpolls : Polls polls p.shellId p.commandId)
    (hextends : ((⟨⟨endpoint, .commandRunning, some p.shellId, some p.commandId, none⟩, .execute line,
      activity⟩ : Work).finishAnswer p d).Extends ([x, y] ++ polls) record') :
    Executing endpoint line record'
      ((⟨⟨endpoint, .commandRunning, some p.shellId, some p.commandId, none⟩, .execute line,
        activity⟩ : Work).finishAnswer p d) := by
  obtain ⟨e, hend⟩ | ⟨n, hend⟩ | ⟨early, hend⟩ := Work.finishAnswer_cases
      ⟨⟨endpoint, .commandRunning, some p.shellId, some p.commandId, none⟩, .execute line, activity⟩ p d <;>
    rw [hend] at hextends ⊢
  · exact Executing.failReceiving activity e hopened hstarted hpolls hextends
  · exact Executing.conclude hopened hstarted hpolls ⟨rfl, rfl⟩ rfl hextends
  · obtain ⟨z, hz, rfl⟩ := hextends.eq_of_sent (r := .receive p.shellId p.commandId) rfl
    rw [List.append_assoc]
    refine .polling (p := { p with polled := true, early }) hopened hstarted ⟨by simp, ?_⟩
    intro q hq
    rcases List.mem_append.1 hq with hq | hq
    · exact hpolls.request q hq
    · rw [List.mem_singleton.1 hq]
      exact hz

end Ran

/-- **Every way for a call of `execute` to go on leads on along the list.** -/
theorem Executing.next {work : Work} {q : Progress}
    (h : Executing endpoint line record (.busy work)) (hnext : Progress.Next record work q)
    (hextends : q.Extends record record') : Executing endpoint line record' q := by
  generalize hbusy : Progress.busy work = b at h
  cases h with
  | finished => cases hbusy
  | @opening x hrequest =>
    obtain rfl := Progress.busy.inj hbusy
    obtain ⟨x', delay, answer, hlast, hreception, rfl⟩ := hnext.eq_answered rfl rfl
    obtain rfl : x = x' := by simpa using hlast
    simp only [Work.answered] at hextends ⊢
    obtain ⟨shell, hrequired, hgranted⟩ | ⟨e, hrequired, hrefused⟩ :=
      Exchange.required_of_answer hreception .shellId <;> rw [hrequired] at hextends ⊢
    · obtain ⟨y, hy, rfl⟩ := hextends.eq_of_sent (r := .command shell line) rfl
      exact .starting ⟨hrequest, hgranted⟩ hy
    · obtain rfl := hextends.eq_of_silent rfl
      exact .finished (.openFailed hrequest hrefused) rfl rfl
  | @starting x y shell hopened hrequest =>
    obtain rfl := Progress.busy.inj hbusy
    obtain ⟨y', delay, answer, hlast, hreception, rfl⟩ := hnext.eq_answered rfl rfl
    obtain rfl : y = y' := by simpa using hlast
    simp only [Work.answered] at hextends ⊢
    obtain ⟨command, hrequired, hgranted⟩ | ⟨e, hrequired, hrefused⟩ :=
      Exchange.required_of_answer hreception .commandId <;> rw [hrequired] at hextends ⊢
    · obtain ⟨z, hz, rfl⟩ := hextends.eq_of_sent (r := .receive shell command) rfl
      refine .polling (p := ⟨shell, command, false, none⟩) hopened ⟨hrequest, hgranted⟩
        ⟨List.cons_ne_nil _ _, ?_⟩
      intro q hq
      rw [List.mem_singleton.1 hq]
      exact hz
    · obtain ⟨z, hz, rfl⟩ := hextends.eq_of_sent (r := .delete shell) rfl
      exact .closing (.runFailed hopened hrequest hrefused hz) rfl rfl
  | @polling x y polls p hopened hstarted hpolls =>
    obtain rfl := Progress.busy.inj hbusy
    cases hnext with
    | @answered _ _ answer _ _ _ =>
      cases answer with
      | error e => exact Executing.failReceiving _ e hopened hstarted hpolls hextends
      | ok d => exact Executing.beginWriting _ d .stdout hopened hstarted hpolls hextends
    | written hdemand => cases hdemand
    | expired after _ => exact Executing.failReceiving _ _ hopened hstarted hpolls hextends
  | @writing x y polls p d stream bytes hopened hstarted hpolls =>
    obtain rfl := Progress.busy.inj hbusy
    cases hnext with
    | answered hdemand _ _ => cases hdemand
    | written _ =>
      cases stream with
      | stdout => exact Executing.beginWriting _ d .stderr hopened hstarted hpolls hextends
      | stderr => exact Executing.finishAnswer _ d hopened hstarted hpolls hextends
    | expired after _ => exact Executing.failReceiving _ _ hopened hstarted hpolls hextends
  | @signalling x y u polls shell command s r hopened hstarted hpolls hsignalled hknown hstage =>
    obtain rfl := Progress.busy.inj hbusy
    obtain ⟨u', delay, answer, -, -, rfl⟩ := hnext.eq_answered rfl rfl
    -- whatever the signal is answered, the shell is deleted
    simp only [Work.answered, Session.beginClose, hknown] at hextends ⊢
    obtain ⟨z, hz, rfl⟩ := hextends.eq_of_sent (r := .delete shell) rfl
    rw [List.append_assoc]
    exact .closing (.ran hopened hstarted hpolls hsignalled hz) rfl hstage
  | @closing record shell s r hover hforgotten hstage =>
    obtain rfl := Progress.busy.inj hbusy
    obtain ⟨z, delay, answer, -, -, rfl⟩ := hnext.eq_answered rfl rfl
    obtain rfl := hextends.eq_of_silent rfl
    simp only [Work.answered]
    refine .finished hover ?_ ?_
    · split <;> exact hforgotten
    · cases hok : r.isOk <;> simp [stageRun, stageOver, hok] at hstage ⊢ <;> simp [hstage]

/-! ## What the list says -/

/-- The exchanges of the longest record. -/
theorem Polls.mem_cases {x y u z v : Exchange} {polls : List Exchange} {shell command : String}
    (hpolls : Polls polls shell command) (hsignalled : u.request = .signal shell command)
    (hdeleted : z.request = .delete shell) (hv : v ∈ [x, y] ++ polls ++ [u, z]) :
    v = x ∨ v = y ∨ v.request = .receive shell command ∨ v.request = .signal shell command ∨
      v.request = .delete shell := by
  simp only [List.mem_append, List.mem_cons, List.not_mem_nil, or_false] at hv
  rcases hv with ((hv | hv) | hv) | (hv | hv)
  · exact .inl hv
  · exact .inr (.inl hv)
  · exact .inr (.inr (.inl (hpolls.request v hv)))
  · exact .inr (.inr (.inr (.inl (hv ▸ hsignalled))))
  · exact .inr (.inr (.inr (.inr (hv ▸ hdeleted))))

/-- In the longest record, only the first request is for a shell. -/
theorem Exchange.Starts.eq_of_create {x y u z v : Exchange} {polls : List Exchange}
    {shell command : String} (hstarted : y.Starts shell line command)
    (hpolls : Polls polls shell command) (hsignalled : u.request = .signal shell command)
    (hdeleted : z.request = .delete shell) (hv : v ∈ [x, y] ++ polls ++ [u, z])
    (hcreate : v.request = .create) : v = x := by
  rcases hpolls.mem_cases hsignalled hdeleted hv with hvx | hvy | hv | hv | hv
  · exact hvx
  · rw [hvy, hstarted.request] at hcreate
    cases hcreate
  all_goals
    rw [hv] at hcreate
    cases hcreate

/-- In the longest record, only the second request is for a command. -/
theorem Exchange.Opens.eq_of_command {x y u z v : Exchange} {polls : List Exchange}
    {shell command : String} (hopened : x.Opens shell) (hpolls : Polls polls shell command)
    (hsignalled : u.request = .signal shell command) (hdeleted : z.request = .delete shell)
    (hv : v ∈ [x, y] ++ polls ++ [u, z]) (hcommand : v.request.action = some .command) : v = y := by
  rcases hpolls.mem_cases hsignalled hdeleted hv with hvx | hvy | hv | hv | hv
  · rw [hvx, hopened.request] at hcommand
    cases hcommand
  · exact hvy
  all_goals
    rw [hv] at hcommand
    cases hcommand

/-- A granted shell is deleted once, by the last request. -/
theorem Teardown.deleted {shell : String} (h : Teardown line record) (hopened : Opened record shell) :
    ∃ before z, record = before ++ [z] ∧ z.request = .delete shell ∧ Lacks before .delete := by
  obtain ⟨v, hv, hcreate, hgranted⟩ := hopened
  cases h with
  | @openFailed x hrequest hrefused =>
    obtain rfl := List.mem_singleton.1 hv
    rw [hrefused] at hgranted
    cases hgranted
  | @runFailed x y z shell' hopened hrequest hrefused hdeleted =>
    have hvx : v = x := by
      simp only [List.mem_cons, List.not_mem_nil, or_false] at hv
      rcases hv with rfl | rfl | rfl
      · rfl
      · rw [hrequest] at hcreate
        cases hcreate
      · rw [hdeleted] at hcreate
        cases hcreate
    rw [hvx, hopened.granted] at hgranted
    obtain rfl := Option.some.inj hgranted
    refine ⟨[x, y], z, rfl, hdeleted, ?_⟩
    intro u hu
    simp only [List.mem_cons, List.not_mem_nil, or_false] at hu
    rcases hu with rfl | rfl
    · rw [hopened.request]
      nofun
    · rw [hrequest]
      nofun
  | @ran x y u z polls shell' command hopened hstarted hpolls hsignalled hdeleted =>
    rw [hstarted.eq_of_create hpolls hsignalled hdeleted hv hcreate,
      hopened.granted] at hgranted
    obtain rfl := Option.some.inj hgranted
    refine ⟨[x, y] ++ polls ++ [u], z, by simp, hdeleted, ?_⟩
    intro q hq
    simp only [List.mem_append, List.mem_cons, List.not_mem_nil, or_false] at hq
    rcases hq with ((rfl | rfl) | hq) | rfl
    · rw [hopened.request]
      nofun
    · rw [hstarted.request]
      nofun
    · rw [hpolls.request q hq]
      nofun
    · rw [hsignalled]
      nofun

/-- The last request but one terminates a command exactly if that command was granted. -/
theorem Teardown.signalled_iff {command : String} (h : Teardown line record) :
    Started record command ↔ ∃ before u z shell,
      record = before ++ [u, z] ∧ u.request = .signal shell command ∧ z.request = .delete shell := by
  cases h with
  | @openFailed x hrequest hrefused =>
    constructor
    · rintro ⟨v, hv, hcommand, -⟩
      rw [List.mem_singleton.1 hv, hrequest] at hcommand
      cases hcommand
    · rintro ⟨before, u, z, shell, hrecord, -⟩
      have hlength := congrArg List.length hrecord
      simp at hlength
  | @runFailed x y z shell hopened hrequest hrefused hdeleted =>
    constructor
    · rintro ⟨v, hv, hcommand, hgranted⟩
      simp only [List.mem_cons, List.not_mem_nil, or_false] at hv
      rcases hv with rfl | rfl | rfl
      · rw [hopened.request] at hcommand
        cases hcommand
      · rw [hrefused] at hgranted
        cases hgranted
      · rw [hdeleted] at hcommand
        cases hcommand
    · rintro ⟨before, u, z', shell', hrecord, hsignal, -⟩
      have hparts : [x] ++ [y, z] = before ++ [u, z'] := hrecord
      obtain ⟨-, hlast⟩ := List.append_inj' hparts rfl
      obtain rfl : y = u := (List.cons.inj hlast).1
      rw [hrequest] at hsignal
      cases hsignal
  | @ran x y u z polls shell command' hopened hstarted hpolls hsignalled hdeleted =>
    constructor
    · rintro ⟨v, hv, hcommand, hgranted⟩
      rw [hopened.eq_of_command hpolls hsignalled hdeleted hv hcommand,
        hstarted.granted] at hgranted
      obtain rfl := Option.some.inj hgranted
      exact ⟨[x, y] ++ polls, u, z, shell, rfl, hsignalled, hdeleted⟩
    · rintro ⟨before, u', z', shell', hrecord, hsignal, -⟩
      obtain ⟨-, hlast⟩ := List.append_inj' hrecord rfl
      obtain rfl : u = u' := (List.cons.inj hlast).1
      rw [hsignalled] at hsignal
      injection hsignal with _ hsame
      rw [← hsame]
      refine ⟨y, by simp, ?_, hstarted.granted⟩
      rw [hstarted.request]
      rfl

/-! ## Main result -/

/-- **The teardown of a shell.**  When a call of `execute` on an unopened session returns, it has sent one
of the listed records, whatever the command, the deadline, the connector and the pipes.  Hence a granted
shell was deleted once, by the last request, and right before that a command was terminated exactly if it
was granted.  The session has forgotten the shell; it is closed if the call gave a result, and failed if it
gave a failure. -/
theorem execute_teardown [Connector σ] {connector : σ} {deadline : Option Duration}
    {stdout stderr : Pipe} {w : Worker (Recorder σ)} {s : Session} {r : Result}
    (h : (Worker.start (.fresh connector) deadline stdout stderr (.unopened endpoint)
      (.execute line)).Reaches w) (hreturned : w.doing = .finished s r) :
    Teardown line w.connector.record ∧
      (∀ shell, Opened w.connector.record shell → ∃ before z,
        w.connector.record = before ++ [z] ∧ z.request = .delete shell ∧ Lacks before .delete) ∧
      (∀ command, Started w.connector.record command ↔ ∃ before u z shell,
        w.connector.record = before ++ [u, z] ∧ u.request = .signal shell command ∧
          z.request = .delete shell) ∧
      s.shellId = none ∧ s.stage = if r.isOk then .closed else .failed := by
  obtain ⟨hcoherent, hprogress, hextends⟩ := Worker.start_coherent (.fresh connector) deadline stdout
    stderr (.unopened endpoint) (.execute line)
  obtain ⟨x, hx, hrecord⟩ := hextends.eq_of_sent (r := .create) rfl
  have hbegun : Executing endpoint line [x] ((Session.unopened endpoint).begin (.execute line)) :=
    .opening hx
  rw [← hprogress] at hbegun
  have hrecord' : [x] = (Worker.start (Recorder.fresh connector) deadline stdout stderr
      (.unopened endpoint) (.execute line)).connector.record := hrecord.symm
  rw [hrecord'] at hbegun
  have hover := (h.invariant Executing.next hcoherent hbegun).2
  have hfinished : w.progress = .finished s r := by rw [Worker.progress, hreturned]
  rw [hfinished] at hover
  generalize w.connector.record = record at hover ⊢
  cases hover with
  | finished hteardown hforgotten hstage =>
    exact ⟨hteardown, fun _ => hteardown.deleted, fun _ => hteardown.signalled_iff, hforgotten, hstage⟩

/-- A command whose second poll fails, on a host that then refuses everything, is terminated and its shell
deleted nevertheless. -/
theorem execute_teardown_failed_poll : ∃ (w : Worker (Recorder Replies)) (s : Session) (e : Failure),
    (Worker.start (.fresh ⟨[.ok (Replies.document Soap.shellUri "ShellId" " S "),
        .ok (Replies.document Soap.shellUri "CommandId" "C"),
        .ok (Replies.document Soap.shellUri "ReceiveResponse" "")]⟩) (some ⟨60⟩) (.ofCapacity 1)
      .discarding (.unopened "http://host/wsman") (.execute "dir")).Reaches w ∧
    w.doing = .finished s (.error e) ∧ Teardown "dir" w.connector.record ∧
      w.connector.record.map Exchange.request = [.create, .command "S" "dir", .receive "S" "C",
        .receive "S" "C", .signal "S" "C", .delete "S"] ∧ s.shellId = none ∧ s.stage = .failed := by
  let w₀ : Worker (Recorder Replies) :=
    .start (.fresh ⟨[.ok (Replies.document Soap.shellUri "ShellId" " S "),
        .ok (Replies.document Soap.shellUri "CommandId" "C"),
        .ok (Replies.document Soap.shellUri "ReceiveResponse" "")]⟩) (some ⟨60⟩) (.ofCapacity 1)
      .discarding (.unopened "http://host/wsman") (.execute "dir")
  have hreached : w₀.Reaches (w₀.advance 0 9) := Worker.reaches_advance 0 9 w₀
  have hreturned : (w₀.advance 0 9).doing =
      .finished ⟨"http://host/wsman", .failed, none, some "C", none⟩
        (.error (.phase .receive "http://host/wsman" .notFinished)) := by cbv
  obtain ⟨hteardown, -, -, hforgotten, hstage⟩ := execute_teardown hreached hreturned
  exact ⟨_, _, _, hreached, hreturned, hteardown, by cbv, hforgotten, hstage⟩

end RemoteShell.Shell
