import RemoteShell.CommandLine.Report
import RemoteShell.Proofs.Connection.Running

/-!
# Exit statuses of remote runs

`Invocation.EndsWith` says how the remote run of an invocation ends: with an exit code, or with a failure, which may
come before the command is started.  Every invocation that runs a command has exactly one such end, and the exit status
of the program is made of it (`Invocation.run_status`).

A status has eight bits, and an exit code has more.  What is left of an exit code is its remainder by 256, so the
status is zero for every multiple of 256, and not for zero only (`Invocation.run_status_zero`).
-/

namespace RemoteShell.CommandLine.Invocation

open Http (Arrival Network Poster)

/-- The command that is started for an invocation, and the link behind it; or the failure because of which none is. -/
def process (s : Surroundings) (n : Network) (nextId : Nat) (i : Invocation) :
    Except Failure (RemoteProcess Poster × Link) :=
  match i.target s with
  | .error a => .error a.cause
  | .ok t =>
    match Connection.ofTarget s t with
    | .error e => .error e
    | .ok c =>
      match (Link.start s c n nextId).startProcess i.command i.options with
      | (.error e, _) => .error e
      | (.ok p, l) => .ok (p, l)

/-- What the remote run of an invocation ends with: the failure because of which no command is started, or what the
command ends with while its output is read all the time. -/
inductive EndsWith (s : Surroundings) (n : Network) (nextId : Nat) (i : Invocation) : Except Failure Int → Prop
  | unstarted {e : Failure} (process : i.process s n nextId = .error e) : EndsWith s n nextId i (.error e)
  | started {p : RemoteProcess Poster} {l : Link} {r : Except Failure Int} (process : i.process s n nextId = .ok (p, l))
      (ends : p.EndsWith r) : EndsWith s n nextId i r

/-- The exit code that those are told who read all of the output of the command, if there is one. -/
def exitCode? (s : Surroundings) (n : Network) (nextId : Nat) (i : Invocation) : Option Int :=
  match i.process s n nextId with
  | .error _ => none
  | .ok (p, l) =>
    (p.readAll l.network.duration (Link.steps l.network)).1.bind fun (_, _, code) => code.toOption

/-- The exit status that stands for the end of a remote run. -/
def statusOf : Except Failure Int → Nat
  | .ok c => exitStatus c
  | .error _ => failedStatus

variable {s : Surroundings} {n : Network} {nextId : Nat} {i : Invocation} {r : Except Failure Int}
  {p : RemoteProcess Poster} {l : Link}

theorem exists_startProcess (h : i.process s n nextId = .ok (p, l)) : ∃ t c, i.target s = .ok t ∧
    Connection.ofTarget s t = .ok c ∧ (Link.start s c n nextId).startProcess i.command i.options = (.ok p, l) := by
  unfold process at h
  split at h
  case h_1 => cases h
  case h_2 t htarget =>
    split at h
    case h_1 => cases h
    case h_2 c hconnection =>
      split at h
      case h_1 => cases h
      case h_2 hprocess =>
        cases h
        exact ⟨t, c, htarget, hconnection, hprocess⟩

/-- A run that starts no command has failed. -/
theorem status_of_unstarted {e : Failure} (hverb : i.verb = .exec) (h : i.process s n nextId = .error e) :
    (i.run s n nextId).1.status = failedStatus := by
  rw [run]
  cases htarget : i.target s with
  | error a => simp only [conclude]
  | ok t =>
    cases hconnection : Connection.ofTarget s t with
    | error e' => simp only [hconnection, during, conclude]
    | ok c =>
      cases hprocess : (Link.start s c n nextId).startProcess i.command i.options with
      | mk started l =>
        cases started with
        | error e' => simp only [hconnection, during, serve, hverb, exec, hprocess, conclude]
        | ok p =>
          simp only [process, htarget, hconnection, hprocess] at h
          cases h

/-- A run that starts a command reports what those are told who read all of its output. -/
theorem status_of_started (hverb : i.verb = .exec) (h : i.process s n nextId = .ok (p, l))
    {out err : List UInt8} {q : RemoteProcess Poster}
    (hread : p.readAll l.network.duration (Link.steps l.network) = (some (out, err, r), q)) :
    (i.run s n nextId).1.status = statusOf r := by
  obtain ⟨t, c, htarget, hconnection, hprocess⟩ := exists_startProcess h
  rw [run]
  simp only [htarget, hconnection, during, serve, hverb, exec, hprocess, hread, Option.getD_some]
  cases r <;> rfl

/-- **The remote run of an invocation ends with one thing only**, the exit code is seen if it is one, and the exit
status stands for it. -/
theorem exists_endsWith (s : Surroundings) (n : Network) (nextId : Nat) (i : Invocation) :
    ∃ r, i.EndsWith s n nextId r ∧ (∀ r', i.EndsWith s n nextId r' → r' = r) ∧ i.exitCode? s n nextId = r.toOption ∧
      (i.verb = .exec → (i.run s n nextId).1.status = statusOf r) := by
  rw [exitCode?]
  cases hprocess : i.process s n nextId with
  | error e =>
    refine ⟨.error e, .unstarted hprocess, fun r' h' => ?_, rfl, fun hverb => status_of_unstarted hverb hprocess⟩
    cases h' with
    | unstarted hprocess' => exact congrArg Except.error (Except.error.inj (hprocess'.symm.trans hprocess))
    | started hprocess' _ => cases hprocess'.symm.trans hprocess
  | ok started =>
    obtain ⟨p, l⟩ := started
    obtain ⟨t, c, -, -, hstart⟩ := exists_startProcess hprocess
    obtain ⟨r, hends, hunique, out, err, q, hread⟩ := Link.startProcess_endsWith hstart
    refine ⟨r, .started hprocess hends, fun r' h' => ?_, by simp only [hread, Option.bind_some],
      fun hverb => status_of_started hverb hprocess hread⟩
    cases h' with
    | unstarted hprocess' => cases hprocess'.symm.trans hprocess
    | started hprocess' hends' =>
      cases hprocess'.symm.trans hprocess
      exact hunique r' hends'

/-- The exit code is seen exactly if the run ends with it. -/
theorem exitCode?_eq_some_iff {c : Int} : i.exitCode? s n nextId = some c ↔ i.EndsWith s n nextId (.ok c) := by
  obtain ⟨r, hends, hunique, hseen, -⟩ := exists_endsWith s n nextId i
  rw [hseen]
  constructor
  · intro hcode
    cases r with
    | ok c' => exact Option.some.inj hcode ▸ hends
    | error e => cases hcode
  · intro hends'
    rw [← hunique _ hends']
    rfl

theorem exitStatus_cast (c : Int) : (exitStatus c : Int) = c % 256 := by
  rw [exitStatus]
  omega

/-- **The exit status of a remote run.**  Whatever the machine and the network are like, the remote run of an invocation
that runs a command ends with one thing only.  If that is an exit code, the status is its remainder by 256, which is
zero for the multiples of 256 and for no other code.  If it is a failure, the status is one. -/
theorem run_status (s : Surroundings) (n : Network) (nextId : Nat) (hverb : i.verb = .exec) :
    ∃ r, i.EndsWith s n nextId r ∧ (∀ r', i.EndsWith s n nextId r' → r' = r) ∧
      (∀ c, r = .ok c → ((i.run s n nextId).1.status : Int) = c % 256 ∧
        ((i.run s n nextId).1.status = 0 ↔ (256 : Int) ∣ c)) ∧
      ∀ e, r = .error e → (i.run s n nextId).1.status = 1 := by
  obtain ⟨r, hends, hunique, -, hreports⟩ := exists_endsWith s n nextId i
  have hstatus := hreports hverb
  refine ⟨r, hends, hunique, ?_, ?_⟩
  · rintro c rfl
    have hcode : ((i.run s n nextId).1.status : Int) = c % 256 := by
      rw [hstatus]
      exact exitStatus_cast c
    exact ⟨hcode, by omega⟩
  · rintro e rfl
    exact hstatus

/-- Someone with a password runs `dir` on a host. -/
def dir : Invocation :=
  ⟨.exec, "win-01", 0, none, { username := some "admin", password := some "secret" }, .unset, ["dir"], false, false⟩

/-- What is delivered when a host runs a command: it opens a shell, starts the command, names its exit code, and says
that it is done. -/
def ending (code : String) : Network :=
  let reply : String → Arrival := fun text => ⟨0, .whole 200 text⟩
  [reply "<ShellId xmlns='http://schemas.microsoft.com/wbem/wsman/1/windows/shell'>S</ShellId>",
    reply "<CommandId xmlns='http://schemas.microsoft.com/wbem/wsman/1/windows/shell'>C</CommandId>",
    reply ("<ExitCode xmlns='http://schemas.microsoft.com/wbem/wsman/1/windows/shell'>" ++ code ++ "</ExitCode>"),
    reply ("<CommandState xmlns='http://schemas.microsoft.com/wbem/wsman/1/windows/shell' " ++
      "State='http://schemas.microsoft.com/wbem/wsman/1/windows/shell/CommandState/Done'/>")]

/-- What two of these runs end with.  One evaluation is for both, so that the responses that they share are read only
once. -/
theorem exitCode?_ending : dir.exitCode? ⟨[], []⟩ (ending "-1") 0 = some (-1) ∧
    dir.exitCode? ⟨[], []⟩ (ending "256") 0 = some 256 := by
  decide +kernel

/-- Nothing comes back from the host, so the run fails.  And a run that ends with a negative exit code has its
remainder as its status. -/
theorem run_status_failed_and_negative :
    dir.verb = .exec ∧
      (∃ e, dir.EndsWith ⟨[], []⟩ [] 0 (.error e) ∧ (dir.run ⟨[], []⟩ [] 0).1.status = 1) ∧
      dir.EndsWith ⟨[], []⟩ (ending "-1") 0 (.ok (-1)) ∧ (dir.run ⟨[], []⟩ (ending "-1") 0).1.status = 255 := by
  refine ⟨rfl, ?_, exitCode?_eq_some_iff.1 exitCode?_ending.1, ?_⟩
  · obtain ⟨r, hends, -, -, herror⟩ := run_status (i := dir) ⟨[], []⟩ [] 0 rfl
    cases r with
    | error e => exact ⟨e, hends, herror e rfl⟩
    | ok c =>
      have hnone : dir.exitCode? ⟨[], []⟩ [] 0 = none := by decide +kernel
      cases hnone.symm.trans (exitCode?_eq_some_iff.2 hends)
  · obtain ⟨r, -, hunique, hcode, -⟩ := run_status (i := dir) ⟨[], []⟩ (ending "-1") 0 rfl
    have hstatus := (hcode (-1) (hunique _ (exitCode?_eq_some_iff.1 exitCode?_ending.1)).symm).1
    omega

/-- The command ends with an exit code that is not zero, and the status is zero. -/
theorem run_status_zero :
    dir.verb = .exec ∧ dir.EndsWith ⟨[], []⟩ (ending "256") 0 (.ok 256) ∧
      (dir.run ⟨[], []⟩ (ending "256") 0).1.status = 0 := by
  have hends : dir.EndsWith ⟨[], []⟩ (ending "256") 0 (.ok 256) := exitCode?_eq_some_iff.1 exitCode?_ending.2
  obtain ⟨r, -, hunique, -, hstatus⟩ := exists_endsWith ⟨[], []⟩ (ending "256") 0 dir
  rw [hstatus rfl, ← hunique _ hends]
  exact ⟨rfl, hends, rfl⟩

end RemoteShell.CommandLine.Invocation
