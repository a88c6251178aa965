import RemoteShell.Authorization
import RemoteShell.Proofs.Chronicle

/-!
# Logging in with Kerberos

Whoever asks a Kerberos generator for a value makes it attempt to log in (`Negotiation.Attempt`).  The attempt fails
without any call of the mechanism if one of the two files is of no use, the file of the realm coming first
(`Kerberos.Offends`); it fails behind one call if the login is refused, and behind two if no context can be
started.  A failed attempt leaves everything as it was, apart from the outcomes of the mechanism that it has used up,
so that the next one begins from the start.

The first attempt that succeeds gives the one value that there is; afterwards nothing is attempted
(`Negotiation.asks_once`).  The files may change from one call to the next.
-/

namespace RemoteShell

namespace Kerberos

variable {s : Surroundings} {k : Kerberos} {key : String} {path : Option String} {e : Failure} {p : String}

/-- A path is set, and names something. -/
structure Names (s : Surroundings) (path : Option String) (p : String) : Prop where
  eq : path = some p
  nonempty : p ≠ ""
  found : s.pathExists p = true

/-- A path is of no use, and what is said about it. -/
inductive Unusable (s : Surroundings) (key : String) (path : Option String) : Failure → Prop
  | unset (blank : path = none ∨ path = some "") : Unusable s key path (.settingMissing key)
  | missing {p : String} (eq : path = some p) (nonempty : p ≠ "") (missing : s.pathExists p = false) :
      Unusable s key path (.fileMissing key p)

/-- Both paths are set, and name something. -/
def Serves (s : Surroundings) (k : Kerberos) (realm login : String) : Prop :=
  Names s k.realmFile realm ∧ Names s k.loginFile login

/-- One of the paths is of no use; if both are, the one of the realm is said to be. -/
def Offends (s : Surroundings) (k : Kerberos) (e : Failure) : Prop :=
  Unusable s realmKey k.realmFile e ∨ (∃ realm, Names s k.realmFile realm) ∧ Unusable s loginKey k.loginFile e

theorem names_of_requiredPath (h : requiredPath s key path = .ok p) : Names s path p := by
  rw [requiredPath] at h
  split at h
  · cases h
  · rename_i q hq
    obtain ⟨hpath, hq⟩ := Option.filter_eq_some_iff.1 hq
    split at h
    · rename_i hfound
      cases h
      exact ⟨hpath, by simpa using hq, hfound⟩
    · cases h

theorem unusable_of_requiredPath (h : requiredPath s key path = .error e) : Unusable s key path e := by
  rw [requiredPath] at h
  split at h
  · rename_i hblank
    cases h
    refine .unset ?_
    cases path with
    | none => exact .inl rfl
    | some q => simpa [Option.filter_eq_none_iff] using hblank
  · rename_i q hq
    obtain ⟨hpath, hq⟩ := Option.filter_eq_some_iff.1 hq
    split at h
    · cases h
    · rename_i hmissing
      cases h
      exact .missing hpath (by simpa using hq) (Bool.eq_false_iff.2 hmissing)

/-- **What checking the settings finds out.** -/
theorem check_cases (s : Surroundings) (k : Kerberos) :
    (∃ realm login, k.check s = .ok (realm, login) ∧ k.Serves s realm login) ∨
      ∃ e, k.check s = .error e ∧ k.Offends s e := by
  rw [check]
  cases hrealm : requiredPath s realmKey k.realmFile with
  | error e => exact .inr ⟨e, rfl, .inl (unusable_of_requiredPath hrealm)⟩
  | ok realm =>
    have hnames := names_of_requiredPath hrealm
    cases hlogin : requiredPath s loginKey k.loginFile with
    | error e => exact .inr ⟨e, rfl, .inr ⟨⟨realm, hnames⟩, unusable_of_requiredPath hlogin⟩⟩
    | ok login => exact .inl ⟨realm, login, rfl, hnames, names_of_requiredPath hlogin⟩

end Kerberos

/-! ## Generators that are asked again and again -/

namespace Generator

/-- A generator that is asked for a value, and the files as they are then. -/
structure Ask where
  generator : Generator
  surroundings : Surroundings

namespace Ask

/-- The value that is given. -/
def value (x : Ask) : Except Failure (Option String) :=
  (x.generator.next x.surroundings).1

/-- The generator behind the call. -/
def after (x : Ask) : Generator :=
  (x.generator.next x.surroundings).2.1

/-- The calls of the mechanism. -/
def calls (x : Ask) : List LoginCall :=
  (x.generator.next x.surroundings).2.2

end Ask

/-- The calls of a generator, one after the other, with the files as each of them finds them. -/
abbrev asks (g : Generator) (files : List Surroundings) : List Ask :=
  record Ask.mk Ask.after g files

end Generator

namespace Negotiation

open Generator (Ask asks)

variable {n : Negotiation} {s : Surroundings} {m m' : Mechanism} {r : Except Failure (List UInt8)}
  {calls : List LoginCall} {x : Ask}

/-- An attempt to log in with the outcomes `m` of the mechanism: the token or the failure that it ends with, the
outcomes that are left, and the calls that are made. -/
inductive Attempt (n : Negotiation) (s : Surroundings) (m : Mechanism) :
    Except Failure (List UInt8) → Mechanism → List LoginCall → Prop
  | unusable {e : Failure} (offends : n.settings.Offends s e) : Attempt n s m (.error e) m []
  | refused {realm login : String} {e : Failure} (serves : n.settings.Serves s realm login)
      (outcome : m.logins.headD (.ok ()) = .error e) :
      Attempt n s m (.error e) ⟨m.logins.tail, m.contexts⟩ [.login n.username n.password realm login]
  | started {realm login : String} (serves : n.settings.Serves s realm login)
      (outcome : m.logins.headD (.ok ()) = .ok ()) :
      Attempt n s m (m.contexts.headD (.ok [])) ⟨m.logins.tail, m.contexts.tail⟩
        [.login n.username n.password realm login, .context n.service]

/-- The value that a token makes. -/
def header (token : List UInt8) : String :=
  "Negotiate " ++ Base64.encode token

/-- A call is an attempt to log in.  It leaves everything as it was, apart from the outcomes of the mechanism and, if
it succeeds, from being made. -/
def AttemptedBy (n : Negotiation) (r : Except Failure (List UInt8)) (x : Ask) : Prop :=
  ∃ m m', x.generator = .negotiate { n with mechanism := m } ∧ Attempt n x.surroundings m r m' x.calls ∧
    x.value = r.map (some <| header ·) ∧
    x.after = .negotiate { n with mechanism := m', established := r.isOk }

theorem attemptedBy_of_next (h : Attempt n s m r m' calls)
    (hnext : next s { n with mechanism := m } =
      (r.map (some <| header ·), .negotiate { n with mechanism := m', established := r.isOk }, calls)) :
    n.AttemptedBy r ⟨.negotiate { n with mechanism := m }, s⟩ := by
  refine ⟨m, m', rfl, ?_, congrArg Prod.fst hnext, congrArg (·.2.1) hnext⟩
  rwa [show Ask.calls _ = calls from congrArg (·.2.2) hnext]

/-- **A login that has not been made is attempted.** -/
theorem exists_attemptedBy (hn : n.established = false) (m : Mechanism) (s : Surroundings) :
    ∃ r, n.AttemptedBy r ⟨.negotiate { n with mechanism := m }, s⟩ := by
  obtain ⟨username, password, service, settings, mechanism, established⟩ := n
  obtain rfl : established = false := hn
  obtain ⟨realm, login, hcheck, hserves⟩ | ⟨e, hcheck, hoffends⟩ := settings.check_cases s
  · cases hlogin : m.logins.headD (.ok ()) with
    | error e =>
      refine ⟨.error e, attemptedBy_of_next (.refused hserves hlogin) ?_⟩
      simp only [next, Bool.false_eq_true, if_false, hcheck, hlogin]
      rfl
    | ok =>
      refine ⟨m.contexts.headD (.ok []), attemptedBy_of_next (.started hserves hlogin) ?_⟩
      simp only [next, Bool.false_eq_true, if_false, hcheck, hlogin]
      cases m.contexts.headD (.ok []) <;> rfl
  · refine ⟨.error e, attemptedBy_of_next (.unusable hoffends) ?_⟩
    simp only [next, Bool.false_eq_true, if_false, hcheck]
    rfl

/-- A login that has been made gives no value any more, and nothing is called. -/
theorem asks_of_established (hn : n.established = true) (files : List Surroundings) :
    ∀ x ∈ asks (.negotiate n) files, x.value = .ok none ∧ x.calls = [] := by
  have hnext : ∀ s, (Generator.negotiate n).next s = (.ok none, .negotiate n, []) := by
    intro s
    rw [Generator.next, next, if_pos hn]
  induction files with
  | nil => exact List.forall_mem_nil _
  | cons s files ih =>
    rw [asks, record, show Ask.after ⟨.negotiate n, s⟩ = _ from congrArg (·.2.1) (hnext s)]
    refine List.forall_mem_cons.2 ⟨⟨congrArg Prod.fst (hnext s), congrArg (·.2.2) (hnext s)⟩, ih⟩

/-- **A Kerberos login is made once.**  Whatever the settings, the mechanism, and the files as each call finds them:
either every call is an attempt to log in that fails, or some calls are, the next one is an attempt that gives a
token, and all later ones give no value and call nothing. -/
theorem asks_once (hn : n.established = false) (files : List Surroundings) :
    (∀ x ∈ asks (.negotiate n) files, ∃ e, n.AttemptedBy (.error e) x) ∨
      ∃ failures x later token, asks (.negotiate n) files = failures ++ x :: later ∧
        (∀ y ∈ failures, ∃ e, n.AttemptedBy (.error e) y) ∧ n.AttemptedBy (.ok token) x ∧
          ∀ y ∈ later, y.value = .ok none ∧ y.calls = [] := by
  suffices h : ∀ m : Mechanism, ∀ events, asks (.negotiate { n with mechanism := m }) files = events →
      (∀ x ∈ events, ∃ e, n.AttemptedBy (.error e) x) ∨
        ∃ failures x later token, events = failures ++ x :: later ∧
          (∀ y ∈ failures, ∃ e, n.AttemptedBy (.error e) y) ∧ n.AttemptedBy (.ok token) x ∧
            ∀ y ∈ later, y.value = .ok none ∧ y.calls = [] from h n.mechanism _ rfl
  -- the induction is on the calls; a failed one leaves a login that has not been made, with fewer outcomes
  induction files with
  | nil =>
    rintro m events rfl
    exact .inl (List.forall_mem_nil _)
  | cons s files ih =>
    rintro m events rfl
    rw [asks, record]
    obtain ⟨r, hattempt⟩ := exists_attemptedBy hn m s
    obtain ⟨-, m', -, -, -, hafter⟩ := id hattempt
    cases r with
    | ok token =>
      refine .inr ⟨[], _, _, token, rfl, List.forall_mem_nil _, hattempt, ?_⟩
      rw [hafter]
      exact asks_of_established rfl files
    | error e =>
      have hsame : ({ n with mechanism := m', established := (Except.error e : Except Failure (List UInt8)).isOk } :
          Negotiation) = { n with mechanism := m' } := by
        simp only [Except.isOk, Except.toBool, hn]
      rw [hafter, hsame]
      obtain hall | ⟨failures, x, later, token, hsplit, hfailures, hx, hlater⟩ := ih m' _ rfl
      · exact .inl (List.forall_mem_cons.2 ⟨⟨e, hattempt⟩, hall⟩)
      · refine .inr ⟨_ :: failures, x, later, token, ?_, List.forall_mem_cons.2 ⟨⟨e, hattempt⟩, hfailures⟩, hx, hlater⟩
        rw [List.cons_append, ← hsplit]

/-- The file of the login is not there at first, and then the first login is refused. -/
theorem asks_once_third_time :
    let n := start "svc" "secret" "win-01" 5985 ⟨some "krb5.conf", some "login.conf", true, true⟩
      ⟨[.error (.authentication "clock skew"), .ok ()], [.ok [1, 2]]⟩
    let realm : Surroundings := ⟨[], [("krb5.conf", .file [])]⟩
    let both : Surroundings := ⟨[], [("krb5.conf", .file []), ("login.conf", .file [])]⟩
    let login : LoginCall := .login "svc" "secret" "krb5.conf" "login.conf"
    n.established = false ∧
      (asks (.negotiate n) [realm, both, both, realm]).map (fun x => (x.value, x.calls)) =
        [(.error (.fileMissing "kerberos.login_config" "login.conf"), []),
          (.error (.authentication "clock skew"), [login]),
          (.ok (some "Negotiate AQI="), [login, .context "HTTP/win-01:5985"]), (.ok none, [])] ∧
      ∃ failures x later token, asks (.negotiate n) [realm, both, both, realm] = failures ++ x :: later ∧
        n.AttemptedBy (.ok token) x := by
  intro n realm both login
  have hvalues : (asks (.negotiate n) [realm, both, both, realm]).map (fun x => (x.value, x.calls)) =
      [(.error (.fileMissing "kerberos.login_config" "login.conf"), []),
        (.error (.authentication "clock skew"), [login]),
        (.ok (some "Negotiate AQI="), [login, .context "HTTP/win-01:5985"]), (.ok none, [])] := by
    decide +kernel
  refine ⟨rfl, hvalues, ?_⟩
  obtain hfail | ⟨failures, x, later, token, hsplit, -, hx, -⟩ :=
    asks_once (n := n) rfl [realm, both, both, realm]
  · -- the third call gives a value
    obtain ⟨x, hx, hvalue⟩ := List.mem_map.1 (hvalues ▸ List.mem_cons_of_mem _
      (List.mem_cons_of_mem _ List.mem_cons_self) : (Except.ok (some "Negotiate AQI="), _) ∈ _)
    obtain ⟨e, m, m', -, -, herror, -⟩ := hfail x hx
    cases (congrArg Prod.fst hvalue).symm.trans herror
  · exact ⟨failures, x, later, token, hsplit, hx⟩

end Negotiation

end RemoteShell
