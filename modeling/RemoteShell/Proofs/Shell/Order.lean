import Mathlib
import RemoteShell.Proofs.Chronicle
import RemoteShell.Proofs.Shell.Lifecycle

/-!
# The order of requests

Which requests a session may send depends on what it has sent and been answered before.  `Admissible`
says which, request by request; a record is `Orderly` when every exchange of it was admissible behind
those before it.

`Tied` connects a session with its record: a shell that is known was granted and not deleted, a command
that is known was granted, and an open shell without a command has been asked for none.  It holds all
through a `Lifecycle`, so every record of a session is orderly, for every history of calls and every
connector (`requests_inOrder`).
-/

namespace RemoteShell

open Soap (Request Field Action)

namespace Soap.Request

/-- The shell that a request is for. -/
def shellId? : Request → Option String
  | create => none
  | command shell _ => some shell
  | receive shell _ => some shell
  | signal shell _ => some shell
  | delete shell => some shell
  | identify => none

/-- The command that a request is about. -/
def commandId? : Request → Option String
  | receive _ name => some name
  | signal _ name => some name
  | _ => none

end Soap.Request

namespace Shell

variable {σ : Type} {endpoint : String} {record : List Exchange}

/-! ## Admissible requests -/

/-- A shell of this name was granted. -/
def Opened (record : List Exchange) (shell : String) : Prop :=
  ∃ y ∈ record, y.request = .create ∧ y.granted? .shellId = some shell

/-- A command of this name was granted. -/
def Started (record : List Exchange) (command : String) : Prop :=
  ∃ y ∈ record, y.request.action = some .command ∧ y.granted? .commandId = some command

/-- Nothing of this kind was asked for. -/
def Lacks (record : List Exchange) (a : Action) : Prop :=
  ∀ y ∈ record, y.request.action ≠ some a

/-- The requests that may follow a record. -/
inductive Admissible (record : List Exchange) : Request → Prop
  | create (first : record = []) : Admissible record .create
  | command {shell : String} (line : String) (opened : Opened record shell)
      (fresh : Lacks record .command) (alive : Lacks record .delete) :
      Admissible record (.command shell line)
  | receive {shell command : String} (opened : Opened record shell)
      (started : Started record command) (alive : Lacks record .delete) :
      Admissible record (.receive shell command)
  | signal {shell command : String} (opened : Opened record shell)
      (started : Started record command) (alive : Lacks record .delete) :
      Admissible record (.signal shell command)
  | delete {shell : String} (opened : Opened record shell) (alive : Lacks record .delete) :
      Admissible record (.delete shell)

/-- A record all of whose requests were admissible when they were sent. -/
inductive Orderly : List Exchange → Prop
  | nil : Orderly []
  | concat {record : List Exchange} {x : Exchange} (before : Orderly record)
      (admissible : Admissible record x.request) : Orderly (record ++ [x])

theorem Opened.append {shell : String} (h : Opened record shell) (more : List Exchange) :
    Opened (record ++ more) shell := by
  obtain ⟨y, hy, hrest⟩ := h
  exact ⟨y, List.mem_append_left more hy, hrest⟩

theorem Started.append {command : String} (h : Started record command) (more : List Exchange) :
    Started (record ++ more) command := by
  obtain ⟨y, hy, hrest⟩ := h
  exact ⟨y, List.mem_append_left more hy, hrest⟩

theorem Lacks.concat {a : Action} {x : Exchange} (h : Lacks record a)
    (hx : x.request.action ≠ some a) : Lacks (record ++ [x]) a := by
  intro y hy
  rcases List.mem_append.1 hy with hy | hy
  · exact h y hy
  · rw [List.mem_singleton.1 hy]
    exact hx

/-! ## The record of a session is orderly -/

/-- What a session and its record have to do with each other. -/
structure Tied (record : List Exchange) (s : Session) : Prop where
  orderly : Orderly record
  unopened : s.stage = .unopened → record = []
  shellOpen : s.stage = .shellOpen → Lacks record .command
  shell : ∀ shell, s.shellId = some shell → Opened record shell ∧ Lacks record .delete
  command : ∀ command, s.commandId = some command → Started record command

/-- A session that knows a shell has been opened. -/
theorem Tied.ne_unopened {s : Session} {shell : String} (h : Tied record s)
    (hshell : s.shellId = some shell) : s.stage ≠ .unopened := by
  intro hstage
  obtain ⟨y, hy, -⟩ := (h.shell shell hshell).1
  rw [h.unopened hstage] at hy
  cases hy

/-- A session that knows a command has been asked to run one. -/
theorem Tied.ne_shellOpen {s : Session} {command : String} (h : Tied record s)
    (hcommand : s.commandId = some command) : s.stage ≠ .shellOpen := by
  intro hstage
  obtain ⟨y, hy, haction, -⟩ := h.command command hcommand
  exact h.shellOpen hstage y hy haction

/-- One exchange more, which changes nothing that the session remembers but may change its stage. -/
theorem Tied.concat {s : Session} {x : Exchange} {r : Request} {stage : Stage} (h : Tied record s)
    (hrequest : x.request = r) (hr : Admissible record r) (hdelete : r.action ≠ some .delete)
    (hunopened : stage ≠ .unopened) (hopen : stage ≠ .shellOpen) :
    Tied (record ++ [x]) { s with stage := stage } where
  orderly := h.orderly.concat (hrequest ▸ hr)
  unopened hstage := absurd hstage hunopened
  shellOpen hstage := absurd hstage hopen
  shell shell hshell :=
    ⟨(h.shell shell hshell).1.append [x], (h.shell shell hshell).2.concat (hrequest ▸ hdelete)⟩
  command command hcommand := (h.command command hcommand).append [x]

/-- The end of receiving sends nothing. -/
theorem Tied.stop {s : Session} {stage : Stage} (h : Tied record s) (code : Option Int)
    (hunopened : stage ≠ .unopened) (hopen : stage ≠ .shellOpen) :
    Tied record { s with stage := stage, exitCode := code } where
  orderly := h.orderly
  unopened hstage := absurd hstage hunopened
  shellOpen hstage := absurd hstage hopen
  shell := h.shell
  command := h.command

/-- **A session is tied to its record**, all its life. -/
theorem Lifecycle.tied {s : Session} (h : Lifecycle endpoint record s) : Tied record s := by
  induction h with
  | unopened =>
    refine ⟨.nil, fun _ => rfl, fun _ => ?_, ?_, ?_⟩
    · intro y hy
      cases hy
    · intro shell hshell
      cases hshell
    · intro command hcommand
      cases hcommand
  | @opened record s x shell _ hstage hrequest hgranted ih =>
    have hempty : record = [] := ih.unopened hstage
    subst hempty
    refine ⟨ih.orderly.concat (hrequest ▸ .create rfl), nofun, fun _ => ?_, ?_, ?_⟩
    · intro y hy
      rw [List.mem_singleton.1 hy, hrequest]
      nofun
    · intro shell' hshell'
      obtain rfl : shell = shell' := Option.some.inj hshell'
      refine ⟨⟨x, List.mem_singleton_self x, hrequest, hgranted⟩, ?_⟩
      intro y hy
      rw [List.mem_singleton.1 hy, hrequest]
      nofun
    · intro command hcommand
      exact (ih.command command hcommand).append [x]
  | openFailed _ hstage hrequest _ ih =>
    exact ih.concat hrequest (.create (ih.unopened hstage)) nofun nofun nofun
  | @started record s x shell line command _ hstage hshell hrequest hgranted ih =>
    obtain ⟨hopened, halive⟩ := ih.shell shell hshell
    have hnext : Tied (record ++ [x]) { s with stage := .commandRunning } :=
      ih.concat hrequest (.command line hopened (ih.shellOpen hstage) halive) nofun nofun nofun
    refine ⟨hnext.orderly, nofun, nofun, hnext.shell, ?_⟩
    intro command' hcommand'
    obtain rfl : command = command' := Option.some.inj hcommand'
    refine ⟨x, List.mem_append_right record (List.mem_singleton_self x), ?_, hgranted⟩
    rw [hrequest]
    rfl
  | @startFailed record s x shell line _ hstage hshell hrequest _ ih =>
    obtain ⟨hopened, halive⟩ := ih.shell shell hshell
    exact ih.concat hrequest (.command line hopened (ih.shellOpen hstage) halive) nofun nofun nofun
  | @polled record s x shell command _ hstage hshell hcommand hrequest ih =>
    obtain ⟨hopened, halive⟩ := ih.shell shell hshell
    have hnext : Tied (record ++ [x]) { s with stage := s.stage } :=
      ih.concat hrequest (.receive hopened (ih.command command hcommand) halive) nofun
        (ih.ne_unopened hshell) (ih.ne_shellOpen hcommand)
    exact hnext
  | received code _ hstage ih => exact ih.stop (some code) nofun nofun
  | receiveFailed _ hstage ih => exact ih.stop _ nofun nofun
  | @signalled record s x shell command _ hshell hcommand hrequest ih =>
    obtain ⟨hopened, halive⟩ := ih.shell shell hshell
    have hnext : Tied (record ++ [x]) { s with stage := s.stage } :=
      ih.concat hrequest (.signal hopened (ih.command command hcommand) halive) nofun
        (ih.ne_unopened hshell) (ih.ne_shellOpen hcommand)
    exact hnext
  | @closed record s x shell _ hshell hrequest ih =>
    obtain ⟨hopened, halive⟩ := ih.shell shell hshell
    refine ⟨ih.orderly.concat (hrequest ▸ .delete hopened halive), ?_, ?_, nofun, ?_⟩
    · intro hstage
      simp only at hstage
      split at hstage <;> cases hstage
    · intro hstage
      simp only at hstage
      split at hstage <;> cases hstage
    · intro command hcommand
      exact (ih.command command hcommand).append [x]

/-- The record of a call, whatever it waits for, is orderly: the request under way was admissible, too. -/
theorem Ongoing.orderly {p : Progress} (h : Ongoing endpoint record p) : Orderly record := by
  cases h with
  | finished _ before => exact before.tied.orderly
  | opening _ before hstage hrequest =>
    exact before.tied.orderly.concat (hrequest ▸ .create (before.tied.unopened hstage))
  | starting _ before hstage hshell hrequest =>
    obtain ⟨hopened, halive⟩ := before.tied.shell _ hshell
    exact before.tied.orderly.concat
      (hrequest ▸ .command _ hopened (before.tied.shellOpen hstage) halive)
  | polling _ before _ _ => exact before.tied.orderly
  | writing _ _ _ _ before _ _ => exact before.tied.orderly
  | signalling _ before hshell hcommand hrequest =>
    exact (before.signalled hshell hcommand hrequest).tied.orderly
  | closing _ before hshell hrequest => exact (before.closed hshell hrequest).tied.orderly

/-! ## What an orderly record looks like -/

/-- The order of the requests of a session.  `before` is what was sent before an exchange, `after` what
was sent behind it. -/
structure InOrder (record : List Exchange) : Prop where
  /-- One shell is asked for, one command, and one deletion, at most. -/
  once : ∀ a, a = .create ∨ a = .command ∨ a = .delete →
    record.countP (fun x => x.request.action = some a) ≤ 1
  /-- The first request is for a shell. -/
  first : ∀ x ∈ record.head?, x.request = .create
  /-- Nothing is sent behind the deletion. -/
  last : ∀ before x after, record = before ++ x :: after → x.request.action = some .delete →
    after = []
  /-- Every other request names the shell, and exactly as it was granted. -/
  shell : ∀ before x after, record = before ++ x :: after → x.request ≠ .create →
    ∃ shell, x.request.shellId? = some shell ∧ Opened before shell
  /-- Output is asked for and signals are sent for the command, named exactly as it was granted. -/
  command : ∀ before x after, record = before ++ x :: after →
    x.request.action = some .receive ∨ x.request.action = some .signal →
      ∃ command, x.request.commandId? = some command ∧ Started before command
  /-- Behind a command that was not granted there is neither. -/
  refused : ∀ before x after, record = before ++ x :: after → x.request.action = some .command →
    x.granted? .commandId = none →
      ∀ y ∈ after, y.request.action ≠ some .receive ∧ y.request.action ≠ some .signal

theorem Lacks.countP_eq_zero {a : Action} (h : Lacks record a) :
    record.countP (fun x => x.request.action = some a) = 0 := by
  rw [List.countP_eq_zero]
  intro y hy
  rw [decide_eq_true_iff]
  exact h y hy

/-- What is asked for once has not been asked for before. -/
theorem Admissible.lacks {r : Request} {a : Action} (h : Admissible record r)
    (ha : a = .create ∨ a = .command ∨ a = .delete) (hr : r.action = some a)  : Lacks record a := by
  cases h with
  | create first =>
    subst first
    intro y hy
    cases hy
  | command line _ fresh _ =>
    obtain rfl := Option.some.inj hr
    exact fresh
  | receive =>
    obtain rfl := Option.some.inj hr
    simp at ha
  | signal =>
    obtain rfl := Option.some.inj hr
    simp at ha
  | delete _ alive =>
    obtain rfl := Option.some.inj hr
    exact alive

/-- Behind something sent, no shell is asked for and the shell has not been deleted. -/
theorem Admissible.of_ne_create {r : Request} (h : Admissible record r) (hr : r ≠ .create) :
    Lacks record .delete ∧ ∃ shell, r.shellId? = some shell ∧ Opened record shell := by
  cases h with
  | create first => exact absurd rfl hr
  | command line opened _ alive => exact ⟨alive, _, rfl, opened⟩
  | receive opened _ alive => exact ⟨alive, _, rfl, opened⟩
  | signal opened _ alive => exact ⟨alive, _, rfl, opened⟩
  | delete opened alive => exact ⟨alive, _, rfl, opened⟩

theorem Admissible.started {r : Request} (h : Admissible record r)
    (hr : r.action = some .receive ∨ r.action = some .signal) :
    ∃ command, r.commandId? = some command ∧ Started record command := by
  cases h with
  | create | command | delete => rcases hr with hr | hr <;> cases hr
  | receive _ started _ => exact ⟨_, rfl, started⟩
  | signal _ started _ => exact ⟨_, rfl, started⟩

/-- A request of one kind in a record in which that kind occurs once at most is the only one. -/
theorem eq_of_countP_le_one {a : Action} {before after : List Exchange} {x y : Exchange}
    (honce : (before ++ x :: after).countP (fun z => z.request.action = some a) ≤ 1)
    (hx : x.request.action = some a) (hy : y ∈ before ++ x :: after)
    (hya : y.request.action = some a) : y = x := by
  rw [List.countP_append, List.countP_cons, if_pos (decide_eq_true hx)] at honce
  have hbefore : before.countP (fun z => decide (z.request.action = some a)) = 0 := by omega
  have hafter : after.countP (fun z => decide (z.request.action = some a)) = 0 := by omega
  rw [List.countP_eq_zero] at hbefore hafter
  rcases List.mem_append.1 hy with hy | hy
  · exact absurd (decide_eq_true hya) (hbefore y hy)
  · rcases List.mem_cons.1 hy with hy | hy
    · exact hy
    · exact absurd (decide_eq_true hya) (hafter y hy)

/-- **An orderly record is in order.** -/
theorem Orderly.inOrder (h : Orderly record) : InOrder record := by
  induction h with
  | nil =>
    refine ⟨fun _ _ => by simp, nofun, ?_, ?_, ?_, ?_⟩ <;>
      · intro before x after hsplit
        simp at hsplit
  | @concat record x _ hadmissible ih =>
    have honce : ∀ a, a = .create ∨ a = .command ∨ a = .delete →
        (record ++ [x]).countP (fun y => y.request.action = some a) ≤ 1 := by
      intro a ha
      rw [List.countP_append, List.countP_singleton]
      by_cases hx : x.request.action = some a
      · exact Nat.le_of_eq (by rw [(hadmissible.lacks ha hx).countP_eq_zero,
          if_pos (decide_eq_true hx), Nat.zero_add])
      · rw [if_neg (by simpa using hx)]
        exact ih.once a ha
    refine ⟨honce, ?_, ?_, ?_, ?_, ?_⟩
    · intro y hy
      cases record with
      | nil =>
        obtain rfl : x = y := by simpa using hy
        by_cases hx : x.request = .create
        · exact hx
        · obtain ⟨-, shell, -, z, hz, -⟩ := hadmissible.of_ne_create hx
          cases hz
      | cons z rest => exact ih.first y hy
    · intro before y after hsplit hdelete
      obtain ⟨-, -, hafter⟩ | ⟨after', hafter, hrecord⟩ := split_concat hsplit
      · exact hafter
      · -- a request behind a deletion is not admissible
        have hy : y ∈ record := hrecord ▸ List.mem_append_right before List.mem_cons_self
        by_cases hx : x.request = .create
        · rw [hx] at hadmissible
          cases hadmissible with
          | create first =>
            rw [first] at hy
            cases hy
        · exact absurd hdelete ((hadmissible.of_ne_create hx).1 y hy)
    · intro before y after hsplit hne
      obtain ⟨rfl, rfl, -⟩ | ⟨after', -, hrecord⟩ := split_concat hsplit
      · exact (hadmissible.of_ne_create hne).2
      · exact ih.shell before y after' hrecord hne
    · intro before y after hsplit haction
      obtain ⟨rfl, rfl, -⟩ | ⟨after', -, hrecord⟩ := split_concat hsplit
      · exact hadmissible.started haction
      · exact ih.command before y after' hrecord haction
    · intro before y after hsplit haction hrefused z hz
      obtain ⟨-, -, rfl⟩ | ⟨after', rfl, hrecord⟩ := split_concat hsplit
      · cases hz
      · rcases List.mem_append.1 hz with hz | hz
        · exact ih.refused before y after' hrecord haction hrefused z hz
        · -- the command that was granted would be another one
          obtain rfl := List.mem_singleton.1 hz
          have hnot : ¬ (z.request.action = some .receive ∨ z.request.action = some .signal) := by
            intro hz'
            obtain ⟨command, -, u, hu, huaction, hgranted⟩ := hadmissible.started hz'
            rw [hrecord] at hu
            have hsame : u = y := by
              refine eq_of_countP_le_one ?_ haction hu huaction
              rw [← hrecord]
              exact ih.once .command (.inr (.inl rfl))
            rw [hsame, hrefused] at hgranted
            cases hgranted
          exact not_or.1 hnot

/-! ## Main result -/

/-- **The requests of a session are in order**, whatever calls are made one after the other, whatever
the connector answers and when, and whatever becomes of the pipes. -/
theorem requests_inOrder [Connector σ] {connector : σ} {w : Worker (Recorder σ)}
    (h : w.History connector endpoint) : InOrder w.connector.record :=
  h.ongoing.2.orderly.inOrder

/-- Receiving before opening, a command that is refused, and receiving, signalling and closing behind
it. -/
theorem requests_inOrder_refused_command : ∃ w : Worker (Recorder Replies),
    w.History (⟨[.ok (Replies.document Soap.shellUri "ShellId" " S ")]⟩ : Replies) "http://host/wsman" ∧
      w.connector.record.map Exchange.request = [.create, .command "S" "dir", .delete "S"] ∧
      InOrder w.connector.record := by
  have h : (Worker.calls 0 2 (.start
      (.fresh ⟨[.ok (Replies.document Soap.shellUri "ShellId" " S ")]⟩) none .discarding .discarding
      (.unopened "http://host/wsman") .receive) [.open, .run "dir", .receive, .signal, .close]).History
      (⟨[.ok (Replies.document Soap.shellUri "ShellId" " S ")]⟩ : Replies) "http://host/wsman" :=
    (Worker.History.first none .discarding .discarding .receive).calls 0 2 _
  exact ⟨_, h, by cbv, requests_inOrder h⟩

end Shell

end RemoteShell
