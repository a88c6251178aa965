import RemoteShell.Proofs.Shell.Cleanup
import RemoteShell.Proofs.Shell.Polling
import RemoteShell.Proofs.Shell.Readable

/-!
# How a call of `execute` fails

`Fails` says of a record which failure is the first one in it, and in which phase: the answer that was to
open the shell or to start the command does not carry its name, an answer ends receiving without an exit
code, or the deadline strikes.  A record knows of no clock, so that the deadline strikes is left open there;
`Scene.Strikes` says it of a schedule.

`Course` follows a call of `execute` up to its cleanup.  With it goes what has not been written yet of the
output in the record; so the bytes in the pipes are accounted for at every moment, also when the deadline
strikes in the middle of an output.  `Standing` is the same for a scene, and every act keeps it.

By `execute_failure` a call that fails returns the first failure of its record, wrapped once or, if it is one
of configuration, not at all.
-/

namespace RemoteShell

/-!
## Bytes on their way

Output that is to be written may find no room, and then the writer waits with the rest of it.  So at any moment some
bytes have been taken out of the pipe, some are in it, and some are still with the writer.  `Keeps` says that no byte
leaves this account: what readers and the writer do moves bytes from one place to the next, and an answer brings new
ones.  Once the pipe carries nothing, nobody asks for an account.
-/

namespace Pipe

/-- As long as a pipe carries, what was taken out of it, what is in it and what has not been written yet are
together what was in it at first and all the output. -/
def Keeps (p₀ p : Pipe) (taken output unwritten : List UInt8) : Prop :=
  p.carries = true → taken ++ p.buffer ++ unwritten = p₀.buffer ++ output

variable {p₀ p : Pipe} {taken output unwritten : List UInt8}

/-- Offering what has not been written leaves less of it. -/
theorem Keeps.offer (h : Keeps p₀ p taken output unwritten) :
    Keeps p₀ (p.offer unwritten).1 taken output (p.offer unwritten).2 := by
  rw [Pipe.offer]
  split
  · rename_i hcarries
    intro _
    rw [← h hcarries]
    simp only [List.append_assoc, List.take_append_drop]
  · rename_i hcarries
    intro hcarries'
    exact absurd hcarries' hcarries

theorem Keeps.append (h : Keeps p₀ p taken output unwritten) :
    Keeps p₀ (p.append unwritten).1 taken output (p.append unwritten).2 :=
  Keeps.offer (p := { p with written := p.written + unwritten.length }) h

theorem Keeps.take (h : Keeps p₀ p taken output unwritten) (count : Nat) :
    Keeps p₀ (p.take count).2 (taken ++ (p.take count).1) output unwritten := by
  intro hcarries
  rw [← h hcarries]
  simp only [Pipe.take, List.append_assoc, List.take_append_drop]

theorem Keeps.dropReader (taken output unwritten : List UInt8) :
    Keeps p₀ p.dropReader taken output unwritten := by
  intro hcarries
  simp [Pipe.dropReader, Pipe.carries] at hcarries

/-- More output is to be written. -/
theorem Keeps.more (h : Keeps p₀ p taken output unwritten) (bytes : List UInt8) :
    Keeps p₀ p taken (output ++ bytes) (unwritten ++ bytes) := by
  intro hcarries
  rw [← List.append_assoc, h hcarries, List.append_assoc]

theorem offer_suffix (p : Pipe) (bytes : List UInt8) : (p.offer bytes).2 <:+ bytes := by
  rw [Pipe.offer]
  split
  · exact List.drop_suffix _ _
  · exact List.nil_suffix

theorem append_suffix (p : Pipe) (bytes : List UInt8) : (p.append bytes).2 <:+ bytes :=
  offer_suffix _ bytes

end Pipe

namespace Shell

open Soap (Request)
open Xml (Document)

variable {σ : Type} {endpoint line : String} {deadline : Option Duration}
  {strikes strikes' : List Exchange → Duration → Prop}

/-!
## The first failure of a record

`Fails` looks at what was exchanged, and otherwise only at whether the deadline strikes.  Its four cases are the ways
for the work of a call to end without an exit code.  In front of a failure in receiving there are only answers behind
which more was to follow, so that none of them is a failure.
-/

/-- The bytes that the answer to a request for output holds for a stream. -/
def Exchange.bytes (x : Exchange) (stream : Stream) : List UInt8 :=
  match x.request, x.reception with
  | .receive .., some (_, answer) => Output.bytes answer stream
  | _, _ => []

/-- The bytes that the answers of a record hold for a stream. -/
def outputOf (record : List Exchange) (stream : Stream) : List UInt8 :=
  record.flatMap (·.bytes stream)

/-- A request for output was answered, and another one is to follow. -/
def Exchange.Continues (x : Exchange) : Prop :=
  ∃ delay answer, x.reception = some (delay, answer) ∧ ¬ EndsReceiving answer

/-- The first answer to some requests for output, of which the last one was answered like this. -/
def firstAnswer (polls : List Exchange) (answer : Output) : Output :=
  ((polls.head?.bind Exchange.reception).map Prod.snd).getD answer

/-- The first failure of a record: its phase and what it is.  `strikes` says whether the deadline strikes
when so much has been exchanged. -/
inductive Fails (strikes : List Exchange → Duration → Prop) (line : String) :
    List Exchange → Phase → Failure → Prop
  | opening {x : Exchange} {delay : Nat} {answer : Except Failure Document} {e : Failure}
      (request : x.request = .create) (reception : x.reception = some (delay, answer))
      (failed : (answer.bind fun d => Soap.Response.required d .shellId) = .error e) :
      Fails strikes line [x] .open e
  | starting {x y : Exchange} {shell : String} {delay : Nat} {answer : Except Failure Document}
      {e : Failure} (opened : x.Opens shell) (request : y.request = .command shell line)
      (reception : y.reception = some (delay, answer))
      (failed : (answer.bind fun d => Soap.Response.required d .commandId) = .error e) :
      Fails strikes line [x, y] .run e
  | receiving {x y last : Exchange} {polls : List Exchange} {shell command : String} {delay : Nat}
      {answer : Output} {e : Failure} (opened : x.Opens shell) (started : y.Starts shell line command)
      (polled : Polls (polls ++ [last]) shell command) (before : ∀ q ∈ polls, q.Continues)
      (reception : last.reception = some (delay, answer)) (ends : EndsReceiving answer)
      (failed : lastCode (firstAnswer polls answer) answer = .error e) :
      Fails strikes line ([x, y] ++ (polls ++ [last])) .receive e
  | expired {x y last : Exchange} {polls : List Exchange} {shell command : String} {after : Duration}
      (opened : x.Opens shell) (started : y.Starts shell line command)
      (polled : Polls (polls ++ [last]) shell command) (before : ∀ q ∈ polls, q.Continues)
      (struck : strikes ([x, y] ++ (polls ++ [last])) after) :
      Fails strikes line ([x, y] ++ (polls ++ [last])) .receive (.timeout after)

theorem Fails.mono {record : List Exchange} {p : Phase} {e : Failure} (h : Fails strikes line record p e)
    (hmono : ∀ {record after}, strikes record after → strikes' record after) :
    Fails strikes' line record p e := by
  cases h with
  | opening hrequest hreception hfailed => exact .opening hrequest hreception hfailed
  | starting hopened hrequest hreception hfailed => exact .starting hopened hrequest hreception hfailed
  | receiving hopened hstarted hpolled hbefore hreception hends hfailed =>
    exact .receiving hopened hstarted hpolled hbefore hreception hends hfailed
  | expired hopened hstarted hpolled hbefore hstruck =>
    exact .expired hopened hstarted hpolled hbefore (hmono hstruck)

theorem bytes_of_request {x : Exchange} {r : Request} (stream : Stream) (hx : x.request = r)
    (hr : r.action ≠ some .receive) : x.bytes stream = [] := by
  rw [Exchange.bytes, hx]
  cases r with
  | receive => exact absurd rfl hr
  | _ => rfl

theorem bytes_of_reception {x : Exchange} {shell command : String} {delay : Nat} {answer : Output}
    (hx : x.request = .receive shell command) (hreception : x.reception = some (delay, answer))
    (stream : Stream) : x.bytes stream = Output.bytes answer stream := by
  rw [Exchange.bytes, hx, hreception]

@[simp] theorem outputOf_append (record more : List Exchange) (stream : Stream) :
    outputOf (record ++ more) stream = outputOf record stream ++ outputOf more stream :=
  List.flatMap_append

@[simp] theorem outputOf_singleton (x : Exchange) (stream : Stream) :
    outputOf [x] stream = x.bytes stream := by
  rw [outputOf, List.flatMap_singleton]

/-- Behind answers that continue, the first answer stays the first one. -/
theorem firstAnswer_append {polls : List Exchange} {last : Exchange} {delay : Nat} {d answer : Output}
    (hbefore : ∀ q ∈ polls, q.Continues) (hlast : last.reception = some (delay, d)) :
    firstAnswer (polls ++ [last]) answer = firstAnswer polls d := by
  cases polls with
  | nil =>
    rw [firstAnswer, firstAnswer, List.nil_append, List.head?_cons, Option.bind_some, hlast]
    rfl
  | cons first polls =>
    obtain ⟨delay', answer', hfirst, -⟩ := hbefore first List.mem_cons_self
    rw [firstAnswer, firstAnswer, List.cons_append, List.head?_cons, List.head?_cons, Option.bind_some,
      hfirst]
    rfl

/-!
## The course of a call

`Course` has one case for each thing that the call can be waiting for, and one for everything behind the work.  The
cases of the work know the whole record, so that a failure that comes next is the first one of it.  Behind the work,
`Settled` takes over, which knows of the cleanup what is needed here: it brings no output and keeps the result.
-/

/-- A running command whose output was asked for: every answer but the last one has come, and more was to
follow. -/
structure Heard (line : String) (x y : Exchange) (polls : List Exchange) (last : Exchange) (p : Polling) :
    Prop where
  opened : x.Opens p.shellId
  started : y.Starts p.shellId line p.commandId
  polled : Polls (polls ++ [last]) p.shellId p.commandId
  before : ∀ q ∈ polls, q.Continues
  /-- The call remembers the exit code of the first answer. -/
  early : ∀ answer, (if p.polled then p.early else earlyCode answer) = earlyCode (firstAnswer polls answer)

/-- The session whose output is asked for. -/
def Polling.session (p : Polling) (endpoint : String) : Session :=
  ⟨endpoint, .commandRunning, some p.shellId, some p.commandId, none⟩

/-- How the work of a call ended: its result, and what has not been written of its output. -/
inductive Ends (strikes : List Exchange → Duration → Prop) (endpoint line : String) (before : List Exchange) :
    Result → (Stream → List UInt8) → Prop
  | returned {returned : Returned} {unwritten : Stream → List UInt8}
      (all : ∀ stream, unwritten stream = []) : Ends strikes endpoint line before (.ok returned) unwritten
  | failed {p : Phase} {e : Failure} {unwritten : Stream → List UInt8}
      (fails : Fails strikes line before p e) (all : ∀ stream, unwritten stream = []) :
      Ends strikes endpoint line before (.error ((Session.unopened endpoint).wrap p e)) unwritten
  | expired {last : Exchange} {after : Duration} {unwritten : Stream → List UInt8}
      (fails : Fails strikes line before .receive (.timeout after)) (struck : strikes before after)
      (last_eq : before.getLast? = some last)
      (rest : ∀ stream, unwritten stream <:+ last.bytes stream) :
      Ends strikes endpoint line before
        (.error ((Session.unopened endpoint).wrap .receive (.timeout after))) unwritten

/-- A call of `execute` on the way, with its record and what has not been written of the output in it. -/
inductive Course (strikes : List Exchange → Duration → Prop) (endpoint line : String) :
    List Exchange → Progress → (Stream → List UInt8) → Prop
  | opening {x : Exchange} {unwritten : Stream → List UInt8} (request : x.request = .create)
      (all : ∀ stream, unwritten stream = []) :
      Course strikes endpoint line [x] (.busy ⟨.unopened endpoint, .execute line, .opening⟩) unwritten
  | starting {x y : Exchange} {shell : String} {unwritten : Stream → List UInt8} (opened : x.Opens shell)
      (request : y.request = .command shell line) (all : ∀ stream, unwritten stream = []) :
      Course strikes endpoint line [x, y]
        (.busy ⟨⟨endpoint, .shellOpen, some shell, none, none⟩, .execute line, .starting shell line⟩)
        unwritten
  | polling {x y last : Exchange} {polls : List Exchange} {p : Polling}
      {unwritten : Stream → List UInt8} (heard : Heard line x y polls last p)
      (rest : ∀ stream, unwritten stream = last.bytes stream) :
      Course strikes endpoint line ([x, y] ++ (polls ++ [last]))
        (.busy ⟨p.session endpoint, .execute line, .polling p⟩) unwritten
  | stdout {x y last : Exchange} {polls : List Exchange} {p : Polling} {d : Document} {delay : Nat}
      {bytes : List UInt8} {unwritten : Stream → List UInt8} (heard : Heard line x y polls last p)
      (reception : last.reception = some (delay, .ok d))
      (decoded : Soap.Response.stream d .stdout = .ok bytes)
      (rest : unwritten .stdout <:+ last.bytes .stdout) (later : unwritten .stderr = last.bytes .stderr) :
      Course strikes endpoint line ([x, y] ++ (polls ++ [last]))
        (.busy ⟨p.session endpoint, .execute line, .writing p d .stdout bytes⟩) unwritten
  | stderr {x y last : Exchange} {polls : List Exchange} {p : Polling} {d : Document} {delay : Nat}
      {out bytes : List UInt8} {unwritten : Stream → List UInt8} (heard : Heard line x y polls last p)
      (reception : last.reception = some (delay, .ok d))
      (decodedOut : Soap.Response.stream d .stdout = .ok out)
      (decoded : Soap.Response.stream d .stderr = .ok bytes)
      (written : unwritten .stdout = []) (rest : unwritten .stderr <:+ last.bytes .stderr) :
      Course strikes endpoint line ([x, y] ++ (polls ++ [last]))
        (.busy ⟨p.session endpoint, .execute line, .writing p d .stderr bytes⟩) unwritten
  | settled {before record : List Exchange} {requests : List Request} {final : Session} {r : Result}
      {q : Progress} {unwritten : Stream → List UInt8} (ends : Ends strikes endpoint line before r unwritten)
      (cleanup : ∀ request ∈ requests, request.works = false)
      (final_of_error : ∀ f, r = .error f → final.stage = .failed ∧ final.exitCode = none)
      (settled : Settled before requests final r record q) :
      Course strikes endpoint line record q unwritten

theorem Ends.mono {record : List Exchange} {r : Result} {unwritten : Stream → List UInt8}
    (h : Ends strikes endpoint line record r unwritten)
    (hmono : ∀ {record after}, strikes record after → strikes' record after) :
    Ends strikes' endpoint line record r unwritten := by
  cases h with
  | returned hall => exact .returned hall
  | failed hfails hall => exact .failed (hfails.mono hmono) hall
  | expired hfails hstruck hlast hrest => exact .expired (hfails.mono hmono) (hmono hstruck) hlast hrest

theorem Course.mono {record : List Exchange} {q : Progress} {unwritten : Stream → List UInt8}
    (h : Course strikes endpoint line record q unwritten)
    (hmono : ∀ {record after}, strikes record after → strikes' record after) :
    Course strikes' endpoint line record q unwritten := by
  cases h with
  | opening hrequest hall => exact .opening hrequest hall
  | starting hopened hrequest hall => exact .starting hopened hrequest hall
  | polling hheard hrest => exact .polling hheard hrest
  | stdout hheard hreception hdecoded hrest hlater =>
    exact .stdout hheard hreception hdecoded hrest hlater
  | stderr hheard hreception hout hdecoded hwritten hrest =>
    exact .stderr hheard hreception hout hdecoded hwritten hrest
  | settled hends hcleanup hfinal hsettled => exact .settled (hends.mono hmono) hcleanup hfinal hsettled

/-!
### One event

An answer, a written output and the deadline are the three events that a call waits for, and the main lemmas are about
these: `Course.answered`, `Course.written` and `Course.expired`.  Each goes through the cases of `Course`.  What comes
next is one of four things only, an answer, room in a pipe, the cleanup or the end, and for each of these `Advances` is
shown once (`advances_asking`, `advances_writing`, `advances_conclude`, `advances_settled`).
-/

/-- A call goes on, and what it sends is noted: the new record, and what has not been written of its
output.  If the call is to write something next, that is the same. -/
def Advances (strikes : List Exchange → Duration → Prop) (endpoint line : String) (record record' : List Exchange)
    (q : Progress) (unwritten : Stream → List UInt8) : Prop :=
  ∃ sent unwritten', record' = record ++ sent ∧
    (∀ stream, unwritten' stream = unwritten stream ++ outputOf sent stream) ∧
    Course strikes endpoint line record' q unwritten' ∧
    ∀ work stream bytes, q = .busy work → work.demand = .room stream bytes → unwritten' stream = bytes

section Advances

variable {record record' : List Exchange} {q : Progress} {unwritten : Stream → List UInt8}

/-- The requests of the cleanup bring no output. -/
theorem Settled.exists_sent {before : List Exchange} {requests : List Request} {final : Session}
    {r : Result} (h : Settled before requests final r record' q) (hextends : q.Extends record record') :
    ∃ sent, record' = record ++ sent ∧ ∀ stream, outputOf sent stream = [] := by
  cases hextends with
  | silent => exact ⟨[], (List.append_nil record).symm, fun _ => rfl⟩
  | @sent x hrequest =>
    refine ⟨[x], rfl, fun stream => ?_⟩
    cases q with
    | finished => cases hrequest
    | busy work =>
      obtain ⟨⟨request, hdemand, hworks⟩, -⟩ := h.demand
      rw [Progress.request?, hdemand] at hrequest
      rw [outputOf_singleton]
      refine bytes_of_request stream (Option.some.inj hrequest).symm ?_
      intro hreceive
      cases request with
      | receive => cases hworks
      | _ => cases hreceive

/-- The cleanup begins or goes on. -/
theorem advances_settled {before : List Exchange} {requests : List Request} {final : Session} {r : Result}
    (hends : Ends strikes endpoint line before r unwritten)
    (hcleanup : ∀ request ∈ requests, request.works = false)
    (hfinal : ∀ f, r = .error f → final.stage = .failed ∧ final.exitCode = none)
    (hsettled : Settled before requests final r record' q) (hextends : q.Extends record record') :
    Advances strikes endpoint line record record' q unwritten := by
  obtain ⟨sent, hrecord, hsent⟩ := hsettled.exists_sent hextends
  refine ⟨sent, unwritten, hrecord, fun stream => by rw [hsent, List.append_nil],
    .settled hends hcleanup hfinal hsettled, ?_⟩
  rintro work stream bytes rfl hroom
  obtain ⟨⟨request, hdemand, -⟩, -⟩ := hsettled.demand
  rw [hdemand] at hroom
  cases hroom

/-- When all is written, the next answer is asked for.  All of its output will have to be written. -/
theorem advances_asking {work : Work} {request : Request} (hdemand : work.demand = .answer request)
    (hall : ∀ stream, unwritten stream = [])
    (hcourse : ∀ z : Exchange, z.request = request →
      Course strikes endpoint line (record ++ [z]) (.busy work) z.bytes)
    (hextends : (Progress.busy work).Extends record record') :
    Advances strikes endpoint line record record' (.busy work) unwritten := by
  obtain ⟨z, hz, rfl⟩ := hextends.eq_of_sent (r := request) (by rw [Progress.request?, hdemand])
  refine ⟨[z], z.bytes, rfl, ?_, hcourse z hz, ?_⟩
  · intro stream
    rw [hall, List.nil_append, outputOf_singleton]
  · rintro work' stream bytes hwork hroom
    obtain rfl := Progress.busy.inj hwork
    rw [hdemand] at hroom
    cases hroom

/-- An output is to be written next. -/
theorem advances_writing {work : Work} {stream : Stream} {bytes : List UInt8}
    (hdemand : work.demand = .room stream bytes) (hall : unwritten stream = bytes)
    (hcourse : Course strikes endpoint line record (.busy work) unwritten)
    (hextends : (Progress.busy work).Extends record record') :
    Advances strikes endpoint line record record' (.busy work) unwritten := by
  obtain rfl := hextends.eq_of_silent (by rw [Progress.request?, hdemand])
  refine ⟨[], unwritten, (List.append_nil _).symm, fun _ => (List.append_nil _).symm, hcourse, ?_⟩
  rintro work' other bytes' hwork hroom
  obtain rfl := Progress.busy.inj hwork
  obtain ⟨rfl, rfl⟩ : stream = other ∧ bytes = bytes' := by
    simpa using hdemand.symm.trans hroom
  exact hall

/-- The work is done or has failed: the command is terminated, if there is one, and the shell deleted. -/
theorem advances_conclude {s : Session} {shell : String} {r : Result} (hshell : s.shellId = some shell)
    (hends : Ends strikes endpoint line record r unwritten)
    (hfailed : ∀ f, r = .error f → s.stage = .failed ∧ s.exitCode = none)
    (hextends : (s.conclude (.execute line) r).Extends record record') :
    Advances strikes endpoint line record record' (s.conclude (.execute line) r) unwritten := by
  have hfinal : ∀ f, r = .error f → s.deleted.stage = .failed ∧ s.deleted.exitCode = none := by
    intro f hf
    obtain ⟨hstage, hcode⟩ := hfailed f hf
    exact ⟨if_pos hstage, hcode⟩
  cases hcommand : s.commandId with
  | some command =>
    have hsignal : s.conclude (.execute line) r = .busy ⟨s, .cleanup r, .signalling shell command⟩ := by
      simp only [Session.conclude, Session.beginCleanup, hshell, hcommand]
    rw [hsignal] at hextends ⊢
    obtain ⟨u, hu, rfl⟩ := hextends.eq_of_sent (r := .signal shell command) rfl
    have hsettled : Settled record [u.request, .delete shell] s.deleted r (record ++ [u])
        (.busy ⟨s, .cleanup r, .signalling shell command⟩) := .signalling hshell rfl rfl
    refine advances_settled hends ?_ hfinal hsettled hextends
    intro request hrequest
    simp only [List.mem_cons, List.not_mem_nil, or_false] at hrequest
    rcases hrequest with rfl | rfl
    · rw [hu]
      rfl
    · rfl
  | none =>
    have hclose : s.conclude (.execute line) r =
        .busy ⟨{ s with shellId := none }, .cleanup r, .closing shell⟩ := by
      simp only [Session.conclude, Session.beginCleanup, Session.beginClose, hshell, hcommand]
    rw [hclose] at hextends ⊢
    obtain ⟨z, hz, rfl⟩ := hextends.eq_of_sent (r := .delete shell) rfl
    have hsettled : Settled record [z.request] s.deleted r (record ++ [z])
        (.busy ⟨{ s with shellId := none }, .cleanup r, .closing shell⟩) := .closing rfl rfl rfl
    refine advances_settled hends ?_ hfinal hsettled hextends
    intro request hrequest
    rw [List.mem_singleton.1 hrequest, hz]
    rfl

variable {x y last : Exchange} {polls : List Exchange} {p : Polling} {activity : Activity}

/-- Receiving fails. -/
theorem Heard.failReceiving {e : Failure}
    (hends : Ends strikes endpoint line record
      (.error ((Session.unopened endpoint).wrap .receive e)) unwritten)
    (hextends : ((⟨p.session endpoint, .execute line, activity⟩ : Work).failReceiving e).Extends record
      record') :
    Advances strikes endpoint line record record'
      ((⟨p.session endpoint, .execute line, activity⟩ : Work).failReceiving e) unwritten :=
  advances_conclude (s := (p.session endpoint).fail) rfl hends (fun _ _ => ⟨rfl, rfl⟩) hextends

/-- An answer that cannot be used, or says nothing of an exit code, is the first failure. -/
theorem Heard.failed {delay : Nat} {answer : Output} {e : Failure} (h : Heard line x y polls last p)
    (hreception : last.reception = some (delay, answer)) (hanswer : EndsReceiving answer)
    (hcode : lastCode (firstAnswer polls answer) answer = .error e)
    (hall : ∀ stream, unwritten stream = [])
    (hextends : ((⟨p.session endpoint, .execute line, activity⟩ : Work).failReceiving e).Extends
      ([x, y] ++ (polls ++ [last])) record') :
    Advances strikes endpoint line ([x, y] ++ (polls ++ [last])) record'
      ((⟨p.session endpoint, .execute line, activity⟩ : Work).failReceiving e) unwritten :=
  Heard.failReceiving
    (.failed (.receiving h.opened h.started h.polled h.before hreception hanswer hcode) hall) hextends

/-- The deadline strikes. -/
theorem Heard.timedOut {after : Duration} (h : Heard line x y polls last p)
    (hstruck : strikes ([x, y] ++ (polls ++ [last])) after)
    (hrest : ∀ stream, unwritten stream <:+ last.bytes stream)
    (hextends : ((⟨p.session endpoint, .execute line, activity⟩ : Work).failReceiving
      (.timeout after)).Extends ([x, y] ++ (polls ++ [last])) record') :
    Advances strikes endpoint line ([x, y] ++ (polls ++ [last])) record'
      ((⟨p.session endpoint, .execute line, activity⟩ : Work).failReceiving (.timeout after)) unwritten := by
  have hlast : ([x, y] ++ (polls ++ [last])).getLast? = some last := by
    rw [← List.append_assoc, List.getLast?_concat]
  exact Heard.failReceiving
    (.expired (.expired h.opened h.started h.polled h.before hstruck) hstruck hlast hrest) hextends

theorem Heard.last_bytes {delay : Nat} {answer : Output} (h : Heard line x y polls last p)
    (hreception : last.reception = some (delay, answer)) (stream : Stream) :
    last.bytes stream = Output.bytes answer stream :=
  bytes_of_reception (h.polled.request last (List.mem_append_right polls (List.mem_singleton_self last)))
    hreception stream

/-- The answer has come: its standard output is to be written. -/
theorem Heard.answered {delay : Nat} {answer : Output} (h : Heard line x y polls last p)
    (hreception : last.reception = some (delay, answer))
    (hrest : ∀ stream, unwritten stream = last.bytes stream)
    (hextends : ((⟨p.session endpoint, .execute line, .polling p⟩ : Work).answered answer).Extends
      ([x, y] ++ (polls ++ [last])) record') :
    Advances strikes endpoint line ([x, y] ++ (polls ++ [last])) record'
      ((⟨p.session endpoint, .execute line, .polling p⟩ : Work).answered answer) unwritten := by
  have hbytes : ∀ stream, unwritten stream = Output.bytes answer stream := by
    intro stream
    rw [hrest, h.last_bytes hreception]
  cases answer with
  | error e => exact h.failed hreception trivial rfl (fun stream => hbytes stream) hextends
  | ok d =>
    cases hout : Soap.Response.stream d .stdout with
    | error e =>
      have hfail : (⟨p.session endpoint, .execute line, .polling p⟩ : Work).answered (.ok d) =
          (⟨p.session endpoint, .execute line, .polling p⟩ : Work).failReceiving e := by
        simp only [Work.answered, Work.beginWriting, show Stream.stdout.field = .stdout from rfl, hout]
      rw [hfail] at hextends ⊢
      exact h.failed hreception (.inl ⟨e, hout⟩) (lastCode_of_stdout_error _ hout)
        (fun stream => by rw [hbytes, bytes_of_stdout_error hout]) hextends
    | ok bytes =>
      have hwrite : (⟨p.session endpoint, .execute line, .polling p⟩ : Work).answered (.ok d) =
          .busy ⟨p.session endpoint, .execute line, .writing p d .stdout bytes⟩ := by
        simp only [Work.answered, Work.beginWriting, show Stream.stdout.field = .stdout from rfl, hout]
      rw [hwrite] at hextends ⊢
      exact advances_writing rfl ((hbytes .stdout).trans (bytes_stdout hout))
        (.stdout h hreception hout (hrest .stdout ▸ List.suffix_refl _) (hrest .stderr)) hextends

/-- Standard output has been written: standard error follows. -/
theorem Heard.writtenOut {d : Document} {delay : Nat} {bytes : List UInt8}
    (h : Heard line x y polls last p) (hreception : last.reception = some (delay, .ok d))
    (hout : Soap.Response.stream d .stdout = .ok bytes) (hwritten : unwritten .stdout = [])
    (hlater : unwritten .stderr = last.bytes .stderr)
    (hextends : ((⟨p.session endpoint, .execute line, .writing p d .stdout bytes⟩ : Work).written).Extends
      ([x, y] ++ (polls ++ [last])) record') :
    Advances strikes endpoint line ([x, y] ++ (polls ++ [last])) record'
      (⟨p.session endpoint, .execute line, .writing p d .stdout bytes⟩ : Work).written unwritten := by
  rw [h.last_bytes hreception] at hlater
  cases herr : Soap.Response.stream d .stderr with
  | error e =>
    have hfail : (⟨p.session endpoint, .execute line, .writing p d .stdout bytes⟩ : Work).written =
        (⟨p.session endpoint, .execute line, .writing p d .stdout bytes⟩ : Work).failReceiving e := by
      simp only [Work.written, Work.beginWriting, show Stream.stderr.field = .stderr from rfl, herr]
    rw [hfail] at hextends ⊢
    rw [bytes_of_stderr_error hout herr] at hlater
    refine h.failed hreception (.inr (.inl ⟨e, herr⟩)) (lastCode_of_stderr_error _ hout herr) ?_ hextends
    intro stream
    cases stream
    · exact hwritten
    · exact hlater
  | ok bytes' =>
    have hwrite : (⟨p.session endpoint, .execute line, .writing p d .stdout bytes⟩ : Work).written =
        .busy ⟨p.session endpoint, .execute line, .writing p d .stderr bytes'⟩ := by
      simp only [Work.written, Work.beginWriting, show Stream.stderr.field = .stderr from rfl, herr]
    rw [hwrite] at hextends ⊢
    refine advances_writing rfl (hlater.trans (bytes_stderr hout herr))
      (.stderr h hreception hout herr hwritten ?_) hextends
    rw [hlater, h.last_bytes hreception]

/-- The next answer is asked for. -/
theorem Heard.next {d : Document} {delay : Nat} {z : Exchange} (h : Heard line x y polls last p)
    (hreception : last.reception = some (delay, .ok d)) (hmore : ¬ EndsReceiving (.ok d))
    (hz : z.request = .receive p.shellId p.commandId) :
    Heard line x y (polls ++ [last]) z
      { p with polled := true, early := earlyCode (firstAnswer polls (.ok d)) } := by
  refine ⟨h.opened, h.started, ⟨by simp, ?_⟩, ?_, ?_⟩
  · intro q hq
    rcases List.mem_append.1 hq with hq | hq
    · exact h.polled.request q hq
    · rw [List.mem_singleton.1 hq]
      exact hz
  · intro q hq
    rcases List.mem_append.1 hq with hq | hq
    · exact h.before q hq
    · rw [List.mem_singleton.1 hq]
      exact ⟨delay, .ok d, hreception, hmore⟩
  · intro answer
    rw [if_pos rfl, firstAnswer_append h.before hreception]

/-- All output of an answer has been written: the next one is asked for, or the exit code decides. -/
theorem Heard.writtenErr {d : Document} {delay : Nat} {out bytes : List UInt8}
    (h : Heard line x y polls last p) (hreception : last.reception = some (delay, .ok d))
    (hout : Soap.Response.stream d .stdout = .ok out)
    (herr : Soap.Response.stream d .stderr = .ok bytes) (hall : ∀ stream, unwritten stream = [])
    (hextends : ((⟨p.session endpoint, .execute line, .writing p d .stderr bytes⟩ : Work).written).Extends
      ([x, y] ++ (polls ++ [last])) record') :
    Advances strikes endpoint line ([x, y] ++ (polls ++ [last])) record'
      (⟨p.session endpoint, .execute line, .writing p d .stderr bytes⟩ : Work).written unwritten := by
  have hearly : (if p.polled then p.early else (Soap.Response.exitCode? d).toOption.bind id) =
      earlyCode (firstAnswer polls (.ok d)) := by
    rw [← h.early (.ok d), earlyCode]
    cases Soap.Response.exitCode? d <;> rfl
  have hcode := lastCode_of_decoded (firstAnswer polls (.ok d)) hout herr
  have hwritten : (⟨p.session endpoint, .execute line, .writing p d .stderr bytes⟩ : Work).written =
      (⟨p.session endpoint, .execute line, .writing p d .stderr bytes⟩ : Work).finishAnswer p d := rfl
  rw [hwritten, Work.finishAnswer, hearly] at hextends ⊢
  -- if the command is done, its exit code comes with this answer or came with the first one, or receiving fails
  by_cases hdone : Soap.Response.contains d .commandDone = true
  · have hends : EndsReceiving (.ok d) := .inr (.inr hdone)
    simp only [if_pos hdone] at hextends ⊢
    cases hexit : Soap.Response.exitCode? d with
    | error e =>
      rw [hexit] at hextends hcode
      exact h.failed hreception hends hcode hall hextends
    | ok found =>
      rw [hexit] at hextends hcode
      simp only at hextends hcode ⊢
      cases hfound : found <|> earlyCode (firstAnswer polls (.ok d)) with
      | none =>
        rw [hfound] at hextends hcode
        exact h.failed hreception hends hcode hall hextends
      | some n =>
        rw [hfound] at hextends
        exact advances_conclude (s := { p.session endpoint with stage := .commandDone, exitCode := some n })
          rfl (.returned hall) (fun _ hf => by cases hf) hextends
  · simp only [if_neg hdone] at hextends ⊢
    have hmore : ¬ EndsReceiving (.ok d) := by
      rintro (⟨e, he⟩ | ⟨e, he⟩ | hends)
      · rw [hout] at he
        cases he
      · rw [herr] at he
        cases he
      · exact hdone hends
    refine advances_asking rfl hall (fun z hz => ?_) hextends
    rw [List.append_assoc]
    exact .polling (h.next hreception hmore hz) fun _ => rfl

/-- A shell has been asked for: the answer opens it, or is the first failure. -/
theorem advances_opening {delay : Nat} {answer : Output} (hrequest : x.request = .create)
    (hreception : x.reception = some (delay, answer)) (hall : ∀ stream, unwritten stream = [])
    (hextends : ((⟨.unopened endpoint, .execute line, .opening⟩ : Work).answered answer).Extends [x]
      record') :
    Advances strikes endpoint line [x] record'
      ((⟨.unopened endpoint, .execute line, .opening⟩ : Work).answered answer) unwritten := by
  simp only [Work.answered] at hextends ⊢
  obtain ⟨shell, hrequired, hgranted⟩ | ⟨e, hrequired, -⟩ :=
    Exchange.required_of_answer hreception .shellId <;> rw [hrequired] at hextends ⊢
  · refine advances_asking rfl hall (fun y hy => .starting ⟨hrequest, hgranted⟩ hy ?_) hextends
    intro stream
    exact bytes_of_request stream hy (by simp [Request.action])
  · have hsettled : Settled [x] [] (Session.unopened endpoint).fail
        (.error ((Session.unopened endpoint).wrap .open e)) record'
        (.finished (Session.unopened endpoint).fail
          (.error ((Session.unopened endpoint).wrap .open e))) := by
      obtain rfl := hextends.eq_of_silent rfl
      exact @Settled.finished [x] [] _ _ [] rfl
    exact advances_settled (.failed (.opening hrequest hreception hrequired) hall)
      (fun _ hnone => absurd hnone List.not_mem_nil)
      (fun _ _ => ⟨rfl, rfl⟩) hsettled hextends

/-- A command was to be started: the answer starts it, or is the first failure. -/
theorem advances_starting {shell : String} {delay : Nat} {answer : Output} (hopened : x.Opens shell)
    (hrequest : y.request = .command shell line) (hreception : y.reception = some (delay, answer))
    (hall : ∀ stream, unwritten stream = [])
    (hextends : ((⟨⟨endpoint, .shellOpen, some shell, none, none⟩, .execute line, .starting shell line⟩ :
      Work).answered answer).Extends [x, y] record') :
    Advances strikes endpoint line [x, y] record'
      ((⟨⟨endpoint, .shellOpen, some shell, none, none⟩, .execute line, .starting shell line⟩ :
        Work).answered answer) unwritten := by
  simp only [Work.answered] at hextends ⊢
  obtain ⟨command, hrequired, hgranted⟩ | ⟨e, hrequired, -⟩ :=
    Exchange.required_of_answer hreception .commandId <;> rw [hrequired] at hextends ⊢
  · refine advances_asking rfl hall (fun z hz => ?_) hextends
    have hheard : Heard line x y [] z ⟨shell, command, false, none⟩ := by
      refine ⟨hopened, ⟨hrequest, hgranted⟩, ⟨List.cons_ne_nil _ _, ?_⟩,
        fun _ hnone => absurd hnone List.not_mem_nil, fun _ => rfl⟩
      intro q hq
      rw [List.mem_singleton.1 hq]
      exact hz
    exact .polling hheard fun _ => rfl
  · exact advances_conclude (s := (⟨endpoint, .shellOpen, some shell, none, none⟩ : Session).fail) rfl
      (.failed (.starting hopened hrequest hreception hrequired) hall) (fun _ _ => ⟨rfl, rfl⟩) hextends

variable {work : Work}

/-- **An answer comes.** -/
theorem Course.answered {v : Exchange} {delay : Nat} {answer : Output}
    (h : Course strikes endpoint line record (.busy work) unwritten)
    (hlast : record.getLast? = some v) (hdemand : work.demand = .answer v.request)
    (hreception : v.reception = some (delay, answer))
    (hextends : (work.answered answer).Extends record record') :
    Advances strikes endpoint line record record' (work.answered answer) unwritten := by
  -- the work gets a name of its own, so that each case of the course can say which work it is
  generalize hbusy : Progress.busy work = b at h
  cases h with
  | opening hrequest hall =>
    obtain rfl := Progress.busy.inj hbusy
    obtain rfl : _ = v := by simpa using hlast
    exact advances_opening hrequest hreception hall hextends
  | starting hopened hrequest hall =>
    obtain rfl := Progress.busy.inj hbusy
    obtain rfl : _ = v := by simpa using hlast
    exact advances_starting hopened hrequest hreception hall hextends
  | polling hheard hrest =>
    obtain rfl := Progress.busy.inj hbusy
    rw [← List.append_assoc, List.getLast?_concat] at hlast
    obtain rfl := Option.some.inj hlast
    exact hheard.answered hreception hrest hextends
  | stdout | stderr =>
    obtain rfl := Progress.busy.inj hbusy
    cases hdemand
  | settled hends hcleanup hfinal hsettled =>
    rw [← hbusy] at hsettled
    exact advances_settled hends hcleanup hfinal
      (hsettled.next (.answered hdemand hlast hreception) hextends) hextends

/-- **An output has been written.** -/
theorem Course.written {stream : Stream} {bytes : List UInt8}
    (h : Course strikes endpoint line record (.busy work) unwritten)
    (hdemand : work.demand = .room stream bytes) (hwritten : unwritten stream = [])
    (hextends : work.written.Extends record record') :
    Advances strikes endpoint line record record' work.written unwritten := by
  generalize hbusy : Progress.busy work = b at h
  cases h with
  | opening | starting | polling =>
    obtain rfl := Progress.busy.inj hbusy
    cases hdemand
  | stdout hheard hreception hdecoded _ hlater =>
    obtain rfl := Progress.busy.inj hbusy
    obtain rfl : Stream.stdout = stream := by injection hdemand
    exact hheard.writtenOut hreception hdecoded hwritten hlater hextends
  | stderr hheard hreception hout hdecoded hwrittenOut _ =>
    obtain rfl := Progress.busy.inj hbusy
    obtain rfl : Stream.stderr = stream := by injection hdemand
    refine hheard.writtenErr hreception hout hdecoded ?_ hextends
    intro other
    cases other
    · exact hwrittenOut
    · exact hwritten
  | settled _ _ _ hsettled =>
    rw [← hbusy] at hsettled
    obtain ⟨⟨request, hanswer, -⟩, -⟩ := hsettled.demand
    rw [hdemand] at hanswer
    cases hanswer

/-- **The deadline strikes.** -/
theorem Course.expired {after : Duration}
    (h : Course strikes endpoint line record (.busy work) unwritten) (hstruck : strikes record after)
    (hreceiving : work.isReceiving = true) (hextends : (work.expired after).Extends record record') :
    Advances strikes endpoint line record record' (work.expired after) unwritten := by
  rw [Work.expired, if_pos hreceiving] at hextends ⊢
  generalize hbusy : Progress.busy work = b at h
  cases h with
  | opening | starting =>
    obtain rfl := Progress.busy.inj hbusy
    cases hreceiving
  | polling hheard hrest =>
    obtain rfl := Progress.busy.inj hbusy
    exact hheard.timedOut hstruck (fun stream => hrest stream ▸ List.suffix_refl _) hextends
  | stdout hheard _ _ hrest hlater =>
    obtain rfl := Progress.busy.inj hbusy
    refine hheard.timedOut hstruck (fun stream => ?_) hextends
    cases stream
    · exact hrest
    · exact hlater ▸ List.suffix_refl _
  | stderr hheard _ _ _ hwritten hrest =>
    obtain rfl := Progress.busy.inj hbusy
    refine hheard.timedOut hstruck (fun stream => ?_) hextends
    cases stream
    · exact hwritten ▸ List.nil_suffix
    · exact hrest
  | settled _ _ _ hsettled =>
    rw [← hbusy] at hsettled
    rw [hsettled.demand.2] at hreceiving
    cases hreceiving

/-- Some more bytes of an output are written. -/
theorem Course.writes {stream : Stream} {bytes rest : List UInt8}
    (h : Course strikes endpoint line record (.busy work) unwritten)
    (hdemand : work.demand = .room stream bytes) (hrest : rest <:+ unwritten stream) :
    Course strikes endpoint line record (.busy work) (Function.update unwritten stream rest) := by
  generalize hbusy : Progress.busy work = b at h
  cases h with
  | opening | starting | polling =>
    obtain rfl := Progress.busy.inj hbusy
    cases hdemand
  | stdout hheard hreception hdecoded hout hlater =>
    obtain rfl := Progress.busy.inj hbusy
    obtain rfl : Stream.stdout = stream := by injection hdemand
    exact .stdout hheard hreception hdecoded (hrest.trans hout) hlater
  | stderr hheard hreception hout hdecoded hwritten herr =>
    obtain rfl := Progress.busy.inj hbusy
    obtain rfl : Stream.stderr = stream := by injection hdemand
    exact .stderr hheard hreception hout hdecoded hwritten (hrest.trans herr)
  | settled _ _ _ hsettled =>
    rw [← hbusy] at hsettled
    obtain ⟨⟨request, hanswer, -⟩, -⟩ := hsettled.demand
    rw [hdemand] at hanswer
    cases hanswer

end Advances

/-!
## Scenes

In a scene there are clocks, pipes and readers too.  `Standing` puts the course of the call and the accounts of both
pipes together.  Readers only touch the accounts (`Standing.setPipe`).  A step of the worker is one of four turns:
three of them are the events above, behind which the call goes on (`standing_proceed`), and in the fourth some bytes
are written and more are to follow.
-/

/-- Where a call of `execute` stands in a scene, with what has not been written of its output. -/
structure Standing (strikes : List Exchange → Duration → Prop) (deadline : Option Duration)
    (endpoint line : String) (pipes : Stream → Pipe) (a : Scene (Recorder σ))
    (unwritten : Stream → List UInt8) : Prop where
  coherent : a.worker.Coherent
  deadline_eq : a.worker.deadline = deadline
  course : Course strikes endpoint line a.worker.connector.record a.worker.progress unwritten
  writing : ∀ {work stream rest}, a.worker.doing = .writing work stream rest → unwritten stream = rest
  bytes : ∀ stream, (pipes stream).Keeps (a.worker.pipe stream) (a.taken stream)
    (outputOf a.worker.connector.record stream) (unwritten stream)

section Standing

variable {pipes : Stream → Pipe} {a : Scene (Recorder σ)} {unwritten : Stream → List UInt8}
  {u : Worker (Recorder σ)} {taken : Stream → List UInt8}

/-- What readers do to a pipe. -/
theorem Standing.setPipe [Connector σ] (h : Standing strikes deadline endpoint line pipes a unwritten) {p : Pipe}
    {stream : Stream} (hother : ∀ other, other ≠ stream → taken other = a.taken other)
    (hkeeps : (pipes stream).Keeps p (taken stream) (outputOf a.worker.connector.record stream)
      (unwritten stream)) :
    Standing strikes deadline endpoint line pipes ⟨a.worker.setPipe p stream, taken⟩ unwritten := by
  refine ⟨(Worker.move_next h.coherent (.pipe _ stream p)).1, ?_, ?_, ?_, ?_⟩
  · exact (Worker.setPipe_deadline _ _ _).trans h.deadline_eq
  · rw [Worker.setPipe_connector, Worker.setPipe_progress]
    exact h.course
  · intro work other rest hdoing
    rw [Worker.setPipe_doing] at hdoing
    exact h.writing hdoing
  · intro other
    rw [Worker.setPipe_connector]
    by_cases hsame : other = stream
    · rw [hsame, Worker.pipe_setPipe]
      exact hkeeps
    · have hkept := h.bytes other
      rw [← hother other hsame] at hkept
      rwa [Worker.pipe_setPipe_of_ne _ _ hsame]

/-- The worker goes on with its call. -/
theorem standing_proceed [Connector σ] {q : Progress}
    (hadvances : ∀ {record'}, q.Extends u.connector.record record' →
      Advances strikes endpoint line u.connector.record record' q unwritten)
    (hdeadline : u.deadline = deadline)
    (hkeeps : ∀ stream, (pipes stream).Keeps (u.pipe stream) (taken stream)
      (outputOf u.connector.record stream) (unwritten stream)) :
    ∃ unwritten', Standing strikes deadline endpoint line pipes ⟨u.proceed q, taken⟩ unwritten' := by
  obtain ⟨hcoherent, hextends⟩ := Worker.proceed_coherent u q
  obtain ⟨sent, unwritten', hrecord, hunwritten, hcourse, hroom⟩ := hadvances hextends
  have hkeeps' : ∀ stream, (pipes stream).Keeps (u.pipe stream) (taken stream)
      (outputOf (u.proceed q).connector.record stream) (unwritten' stream) := by
    intro stream
    rw [hrecord, outputOf_append, hunwritten]
    exact (hkeeps stream).more _
  have hdeadline' := (Worker.proceed_deadline u q).trans hdeadline
  have hprogress := Worker.proceed_progress u q
  cases q with
  | finished s r =>
    refine ⟨unwritten', hcoherent, hdeadline', by rwa [hprogress], nofun, ?_⟩
    intro stream
    cases stream
    · exact hkeeps' .stdout
    · exact hkeeps' .stderr
  | busy work =>
    cases hdemand : work.demand with
    | answer request =>
      refine ⟨unwritten', hcoherent, hdeadline', by rwa [hprogress], ?_, ?_⟩
      · intro work' stream rest hdoing
        rw [Worker.proceed_of_answer u hdemand] at hdoing
        cases hdoing
      · intro stream
        rw [Worker.pipe_proceed_of_answer u hdemand]
        exact hkeeps' stream
    | room stream bytes =>
      -- a worker that is to write begins with it at once, so the first bytes are in the pipe already
      have hall : unwritten' stream = bytes := hroom work stream bytes rfl hdemand
      refine ⟨Function.update unwritten' stream ((u.pipe stream).append bytes).2, hcoherent, hdeadline', ?_,
        ?_, ?_⟩
      · rw [hprogress]
        exact hcourse.writes hdemand (hall ▸ Pipe.append_suffix _ _)
      · intro work' other rest hdoing
        rw [Worker.proceed_of_room u hdemand] at hdoing
        injection hdoing with _ hstream hrest
        rw [← hstream, ← hrest, Function.update_self]
      · intro other
        have hsame : (u.proceed (.busy work)).pipe other =
            (u.setPipe ((u.pipe stream).append bytes).1 stream).pipe other := by
          rw [Worker.proceed_of_room u hdemand]
          cases other <;> rfl
        rw [hsame]
        by_cases hother : other = stream
        · rw [hother, Worker.pipe_setPipe, Function.update_self, ← hall]
          exact (hkeeps' stream).append
        · rw [Worker.pipe_setPipe_of_ne _ _ hother, Function.update_of_ne hother]
          exact hkeeps' other

/-- The worker puts bytes into a pipe. -/
theorem Standing.offers [Connector σ] (h : Standing strikes deadline endpoint line pipes a unwritten)
    {work : Work} {stream : Stream} {rest : List UInt8} (hdoing : a.worker.doing = .writing work stream rest) :
    let u := a.worker.setPipe ((a.worker.pipe stream).offer rest).1 stream
    let unwritten' := Function.update unwritten stream ((a.worker.pipe stream).offer rest).2
    (∃ bytes, work.demand = .room stream bytes) ∧ a.worker.progress = .busy work ∧
      Course strikes endpoint line a.worker.connector.record (.busy work) unwritten' ∧
      ∀ other, (pipes other).Keeps (u.pipe other) (a.taken other)
        (outputOf a.worker.connector.record other) (unwritten' other) := by
  intro u unwritten'
  obtain ⟨bytes, hdemand⟩ := h.coherent.writing hdoing
  have hbusy := Worker.progress_of_writing hdoing
  have hrest : unwritten stream = rest := h.writing hdoing
  have hcourse := h.course
  rw [hbusy] at hcourse
  refine ⟨⟨bytes, hdemand⟩, hbusy, hcourse.writes hdemand (hrest ▸ Pipe.offer_suffix _ _), ?_⟩
  intro other
  by_cases hsame : other = stream
  · have hleft : unwritten' other = ((a.worker.pipe stream).offer rest).2 := by
      rw [hsame]
      exact Function.update_self ..
    rw [hleft, hsame, Worker.pipe_setPipe, ← hrest]
    exact (h.bytes stream).offer
  · have hleft : unwritten' other = unwritten other := Function.update_of_ne hsame ..
    rw [hleft, Worker.pipe_setPipe_of_ne _ _ hsame]
    exact h.bytes other

/-- **Every step of the worker leads on.** -/
theorem Standing.step [Connector σ] {w : Worker (Recorder σ)} {limit : Nat}
    (h : Standing strikes deadline endpoint line pipes a unwritten)
    (hstrikes : a.worker.IsDue limit → ∀ after, deadline = some after →
      strikes a.worker.connector.record after) (hstep : a.worker.step limit = some w) :
    ∃ unwritten', Standing strikes deadline endpoint line pipes ⟨w, a.taken⟩ unwritten' := by
  obtain ⟨u, p, hturn, rfl⟩ := Worker.step_eq_some_iff.1 hstep
  cases hturn with
  | @answered work due answer hdoing hearly hdue =>
    -- the answer that is due was noted when the request was sent, as the last one of the record
    obtain ⟨x, hlast, hdemand, hreception⟩ := h.coherent.waiting hdoing
    rw [Option.map_some] at hreception
    obtain ⟨⟨delay, answer'⟩, hx, rfl⟩ := Option.map_eq_some_iff.1 hreception.symm
    have hcourse := h.course
    rw [Worker.progress, hdoing] at hcourse
    refine standing_proceed (fun hextends => hcourse.answered hlast hdemand hx hextends) h.deadline_eq
      fun stream => ?_
    cases stream
    · exact h.bytes .stdout
    · exact h.bytes .stderr
  | @expired work due after hexposed hexpires hdeadline hdue =>
    obtain ⟨work', hbusy', hreceiving⟩ := h.coherent.expires (by rw [hexpires]; exact Option.some_ne_none _)
    have hbusy := hexposed.progress
    obtain rfl : work = work' := Progress.busy.inj (hbusy.symm.trans hbusy')
    have hcourse := h.course
    rw [hbusy] at hcourse
    have hstruck := hstrikes ⟨work, due, hexposed, hexpires, hdue⟩ after (h.deadline_eq.symm.trans hdeadline)
    refine standing_proceed (fun hextends => hcourse.expired hstruck hreceiving hextends) h.deadline_eq
      fun stream => ?_
    cases stream
    · exact h.bytes .stdout
    · exact h.bytes .stderr
  | @wrote work stream rest hdoing hfree hall =>
    obtain ⟨⟨bytes, hdemand⟩, hbusy, hcourse, hkeeps⟩ := h.offers hdoing
    have hconnector := Worker.setPipe_connector a.worker ((a.worker.pipe stream).offer rest).1 stream
    rw [← hconnector] at hcourse hkeeps
    have hwritten : Function.update unwritten stream ((a.worker.pipe stream).offer rest).2 stream = [] := by
      rw [Function.update_self, hall]
    exact standing_proceed (fun hextends => hcourse.written hdemand hwritten hextends)
      ((Worker.setPipe_deadline _ _ _).trans h.deadline_eq) hkeeps
  | @writes work stream rest hdoing hfree hmore =>
    obtain ⟨⟨bytes, hdemand⟩, hbusy, hcourse, hkeeps⟩ := h.offers hdoing
    have hconnector := Worker.setPipe_connector a.worker ((a.worker.pipe stream).offer rest).1 stream
    rw [← hconnector] at hcourse hkeeps
    refine ⟨Function.update unwritten stream ((a.worker.pipe stream).offer rest).2,
      (Worker.step_next h.coherent hstep).1, (Worker.setPipe_deadline _ _ _).trans h.deadline_eq, hcourse,
      ?_, ?_⟩
    · intro work' other rest' hdoing'
      injection hdoing' with _ hstream hrest
      rw [← hstream, ← hrest, Function.update_self]
    · intro other
      cases other
      · exact hkeeps .stdout
      · exact hkeeps .stderr

/-- **Whatever is let happen leads on.** -/
theorem Standing.act [Connector σ] (h : Standing strikes deadline endpoint line pipes a unwritten)
    (act : Scene.Act) (hstrikes : ∀ limit, act = .work limit → a.worker.IsDue limit → ∀ after,
      deadline = some after → strikes a.worker.connector.record after) :
    ∃ unwritten', Standing strikes deadline endpoint line pipes (a.act act) unwritten' := by
  cases act with
  | work limit =>
    show ∃ unwritten', Standing strikes deadline endpoint line pipes
      ⟨(a.worker.step limit).getD a.worker, a.taken⟩ unwritten'
    cases hstep : a.worker.step limit with
    | none => exact ⟨unwritten, h⟩
    | some w => exact h.step (hstrikes limit rfl) hstep
  | read stream count =>
    refine ⟨unwritten, h.setPipe (fun other hother => Function.update_of_ne hother _ _) ?_⟩
    rw [Function.update_self]
    exact (h.bytes stream).take count
  | drop stream => exact ⟨unwritten, h.setPipe (fun _ _ => rfl) (.dropReader _ _ _)⟩
  | pause time =>
    refine ⟨unwritten, (Worker.move_next h.coherent (.pause _ time)).1, h.deadline_eq, h.course, h.writing, ?_⟩
    intro stream
    cases stream
    · exact h.bytes .stdout
    · exact h.bytes .stderr

theorem Standing.mono (h : Standing strikes deadline endpoint line pipes a unwritten)
    (hmono : ∀ {record after}, strikes record after → strikes' record after) :
    Standing strikes' deadline endpoint line pipes a unwritten :=
  ⟨h.coherent, h.deadline_eq, h.course.mono hmono, h.writing, h.bytes⟩

end Standing

/-- A call of `execute` begins. -/
theorem standing_execute [Connector σ] (connector : σ) (deadline : Option Duration) (stdout stderr : Pipe)
    (endpoint line : String) :
    Standing strikes deadline endpoint line (pipeOf stdout stderr)
      (Scene.execute connector deadline stdout stderr endpoint line) fun _ => [] := by
  obtain ⟨hcoherent, hprogress, hextends⟩ := Worker.start_coherent (.fresh connector) deadline stdout
    stderr (.unopened endpoint) (.execute line)
  obtain ⟨x, hx, hrecord⟩ := hextends.eq_of_sent (r := .create) rfl
  have hcourse : Course strikes endpoint line [x] ((Session.unopened endpoint).begin (.execute line))
      fun _ => [] := .opening hx fun _ => rfl
  refine ⟨hcoherent, rfl, ?_, nofun, ?_⟩
  · rw [← hprogress, ← show _ = [x] from hrecord] at hcourse
    exact hcourse
  · intro stream hcarries
    have hnone : outputOf [x] stream = [] := by
      rw [outputOf_singleton, bytes_of_request stream hx (by simp [Request.action])]
    rw [show (Scene.execute connector deadline stdout stderr endpoint line).worker.connector.record = [x]
      from hrecord, hnone]
    cases stream <;> rfl

/-- In a schedule, the deadline strikes when so much has been exchanged: the worker goes on, the time of the
deadline has come, and no answer has come before it, or there is no room for what is to be written. -/
def Scene.Strikes [Connector σ] (a : Scene (Recorder σ)) (acts : List Scene.Act)
    (record : List Exchange) (after : Duration) : Prop :=
  a.worker.deadline = some after ∧ ∃ earlier limit later, acts = earlier ++ .work limit :: later ∧
    (a.play earlier).worker.connector.record = record ∧ (a.play earlier).worker.IsDue limit

theorem Scene.Strikes.concat [Connector σ] {a : Scene (Recorder σ)} {acts : List Scene.Act}
    {record : List Exchange} {after : Duration} (h : a.Strikes acts record after) (act : Scene.Act) :
    a.Strikes (acts ++ [act]) record after := by
  obtain ⟨hdeadline, earlier, limit, later, rfl, hstruck⟩ := h
  exact ⟨hdeadline, earlier, limit, later ++ [act], by simp, hstruck⟩

/-- **A whole schedule leads on.** -/
theorem Standing.play [Connector σ] {pipes : Stream → Pipe} {a : Scene (Recorder σ)}
    {unwritten : Stream → List UInt8} (h : Standing (a.Strikes []) deadline endpoint line pipes a unwritten)
    (acts : List Scene.Act) :
    ∃ unwritten', Standing (a.Strikes acts) deadline endpoint line pipes (a.play acts) unwritten' := by
  -- the schedule grows at its end, and what has struck before still has
  induction acts using List.reverseRecOn with
  | nil => exact ⟨unwritten, h⟩
  | append_singleton acts act ih =>
    obtain ⟨unwritten', hacts⟩ := ih
    have hplay : a.play (acts ++ [act]) = (a.play acts).act act := List.foldl_append
    rw [hplay]
    refine (hacts.mono fun hstruck => hstruck.concat act).act act ?_
    rintro limit rfl hdue after hafter
    exact ⟨h.deadline_eq.trans hafter, acts, limit, [], rfl, rfl, hdue⟩

/-!
## Main result

A call that has returned a failure is at the end of its course, and there the course says what the first failure was
(`Course.of_failed`).  All else is read off the accounts of the pipes, which hold at the end of the schedule as well as
at any time before.
-/

/-- The requests of the cleanup bring no output. -/
theorem outputOf_cleanup {cleanup : List Exchange} (h : ∀ x ∈ cleanup, x.request.works = false)
    (stream : Stream) : outputOf cleanup stream = [] := by
  rw [outputOf, List.flatMap_eq_nil_iff]
  intro x hx
  refine bytes_of_request stream rfl ?_
  intro hreceive
  have hworks := h x hx
  cases hrequest : x.request with
  | receive =>
    rw [hrequest] at hworks
    cases hworks
  | _ =>
    rw [hrequest] at hreceive
    cases hreceive

/-- How a call that has failed got there. -/
theorem Course.of_failed {record : List Exchange} {s : Session} {f : Failure}
    {unwritten : Stream → List UInt8}
    (h : Course strikes endpoint line record (.finished s (.error f)) unwritten) :
    ∃ p e before cleanup, record = before ++ cleanup ∧ Fails strikes line before p e ∧
      (∀ x ∈ cleanup, x.request.works = false) ∧ f = (Session.unopened endpoint).wrap p e ∧
      s.stage = .failed ∧ s.exitCode = none ∧
      ∀ stream, unwritten stream = [] ∨ (∃ after, e = .timeout after ∧ strikes before after) ∧
        ∃ last, before.getLast? = some last ∧ unwritten stream <:+ last.bytes stream := by
  cases h with
  | @settled before _ requests final r _ _ hends hcleanup hfinal hsettled =>
    obtain ⟨rfl, rfl, -⟩ := hsettled.eq_of_finished
    obtain ⟨hstage, hcode⟩ := hfinal f rfl
    cases hsettled with
    | @finished sent hall =>
      have hsent : ∀ x ∈ sent, x.request.works = false := by
        intro x hx
        exact hcleanup x.request (hall ▸ List.mem_map_of_mem hx)
      cases hends with
      | @failed p e _ hfails hall =>
        exact ⟨p, e, before, sent, rfl, hfails, hsent, rfl, hstage, hcode, fun stream => .inl (hall stream)⟩
      | @expired last after _ hfails hstruck hlast hrest =>
        exact ⟨.receive, .timeout after, before, sent, rfl, hfails, hsent, rfl, hstage, hcode,
          fun stream => .inr ⟨⟨after, rfl, hstruck⟩, last, hlast, hrest stream⟩⟩

/-- **How a call of `execute` fails.**  When a call on an unopened session returns a failure, whatever the
connector, the deadline, the pipes and the schedule:

* the record is one with a first failure, in some phase, and then a cleanup; if it is the deadline that has
  struck, it did so in this schedule, at the end of this first part of the record;
* the call returns that failure as it is if it is one of configuration, and else wrapped once, with the
  phase and the endpoint;
* the session has failed and has no exit code;
* of the output of the answers up to the failure everything has been written to the pipes that carry, but
  for a rest of the last one when the deadline has struck;
* whatever could be read at any time before has been read or can still be read, as long as there is a
  reader. -/
theorem execute_failure [Connector σ] (connector : σ) (deadline : Option Duration)
    (stdout stderr : Pipe) (endpoint line : String) (acts : List Scene.Act) (s : Session) (f : Failure)
    (hreturned : ((Scene.execute connector deadline stdout stderr endpoint line).play acts).worker.doing =
      .finished s (.error f)) :
    let start := Scene.execute connector deadline stdout stderr endpoint line
    let a := start.play acts
    ∃ p e before cleanup,
      a.worker.connector.record = before ++ cleanup ∧ Fails (start.Strikes acts) line before p e ∧
        (∀ x ∈ cleanup, x.request.works = false) ∧
        f = (if e.isConfiguration then e else .phase p endpoint e) ∧
        s.stage = .failed ∧ s.exitCodeOr = .error .notFinished ∧
        (∀ stream, (a.worker.pipe stream).carries = true → ∃ unwritten,
          a.readable stream ++ unwritten = (pipeOf stdout stderr stream).buffer ++ outputOf before stream ∧
            (unwritten = [] ∨ (∃ after, e = .timeout after ∧ start.Strikes acts before after) ∧
              ∃ last, before.getLast? = some last ∧ unwritten <:+ last.bytes stream)) ∧
        ∀ earlier later stream, acts = earlier ++ later → (a.worker.pipe stream).hasReader = true →
          (start.play earlier).readable stream <+: a.readable stream := by
  intro start a
  have hstart : Standing (start.Strikes []) deadline endpoint line (pipeOf stdout stderr) start fun _ => [] :=
    standing_execute connector deadline stdout stderr endpoint line
  obtain ⟨unwritten, hstanding⟩ := hstart.play acts
  have hcourse := hstanding.course
  rw [Worker.progress_eq_finished_iff.2 hreturned] at hcourse
  obtain ⟨p, e, before, cleanup, hrecord, hfails, hcleanup, hf, hstage, hcode, hrest⟩ := hcourse.of_failed
  refine ⟨p, e, before, cleanup, hrecord, hfails, hcleanup, hf, hstage, ?_, ?_, ?_⟩
  · rw [Session.exitCodeOr, hcode]
  · intro stream hcarries
    have hbytes := hstanding.bytes stream hcarries
    rw [hrecord, outputOf_append, outputOf_cleanup hcleanup, List.append_nil] at hbytes
    exact ⟨unwritten stream, hbytes, hrest stream⟩
  · intro earlier later stream hacts hreader
    have hsplit : a = (start.play earlier).play later := by
      rw [show a = start.play acts from rfl, hacts]
      exact List.foldl_append
    rw [hsplit] at hreader ⊢
    exact (Scene.readable_play _ later hreader).2

/-- The deadline strikes while output waits for room: the call fails with a timeout in the phase of
receiving, and what went into the pipe can be read. -/
theorem execute_failure_expired :
    let c : Replies := ⟨[.ok (Replies.document Soap.shellUri "ShellId" "S"),
      .ok (Replies.document Soap.shellUri "CommandId" "C"),
      .ok ⟨⟨some Soap.shellUri, "Stream", [("Name", "stdout")], "aGk=", []⟩, ""⟩]⟩
    let start := Scene.execute c (some (.ofMillis 60000)) (.ofCapacity 1) .discarding "http://host/wsman"
      "dir"
    let acts := List.replicate 9 (.work 60000)
    let a := start.play acts
    a.worker.doing = .finished ⟨"http://host/wsman", .failed, none, some "C", none⟩
        (.error (.phase .receive "http://host/wsman" (.timeout (.ofMillis 60000)))) ∧
      ∃ p e before cleanup, a.worker.connector.record = before ++ cleanup ∧
        Fails (start.Strikes acts) "dir" before p e ∧
        .phase .receive "http://host/wsman" (.timeout (.ofMillis 60000)) =
          (if e.isConfiguration then e else .phase p "http://host/wsman" e) ∧
        a.readable .stdout = [104] ∧ ∃ unwritten, a.readable .stdout ++ unwritten = outputOf before .stdout := by
  intro c start acts a
  have hreturned : a.worker.doing = .finished ⟨"http://host/wsman", .failed, none, some "C", none⟩
      (.error (.phase .receive "http://host/wsman" (.timeout (.ofMillis 60000)))) := by cbv
  obtain ⟨p, e, before, cleanup, hrecord, hfails, -, hf, -, -, hbytes, -⟩ :=
    execute_failure c (some (.ofMillis 60000)) (.ofCapacity 1) .discarding "http://host/wsman" "dir"
      acts _ _ hreturned
  obtain ⟨unwritten, hunwritten, -⟩ := hbytes .stdout (by cbv)
  exact ⟨hreturned, p, e, before, cleanup, hrecord, hfails, hf, by cbv, unwritten, hunwritten⟩

end Shell

end RemoteShell
