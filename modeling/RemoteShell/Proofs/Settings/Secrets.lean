import RemoteShell.Connection
import RemoteShell.Proofs.Settings.Precedence
import RemoteShell.Proofs.Settings.Record

/-!
# What secrets leave no trace in

Two tables that differ in nothing but their passwords and tokens cannot be told apart by what is shown of them: the
text that they are written as, and the descriptions of what is made of them, up to the generators of authorization
values, however often these are asked (`secrets_unseen`).

Every secret can be masked (`HostSettings.masked`, `Credentials.masked`, `Generator.masked`), and what masking takes
away is no part of any description.  Masking commutes with everything that is done on the way: with looking up a host
and merging (`merged_mapSettings`), with making a target (`target_masked`), and with each call of a generator
(`next_masked`), hence with any number of calls.  So two things that are the same when they are masked go on being the
same.

A token may be blank, which is an error, so that whether there is a target can depend on a token; but it does not
depend on a password (`map_validate_withoutPassword`).
-/

namespace RemoteShell

/-- What stands for a secret. -/
def mask : String := "***"

/-! ## Credentials and targets -/

namespace Credentials

/-- The credentials with the secret masked. -/
def masked : Credentials → Credentials
  | basic u _ => basic u mask
  | kerberos u _ k => kerberos u mask k
  | token _ => token mask

theorem shown_masked (c : Credentials) : c.masked.shown = c.shown := by
  cases c <;> rfl

/-- The generators that can be made of credentials for a service on a host, with a login mechanism. -/
def generators (host : String) (port : UInt16) (m : Mechanism) : Credentials → List Generator
  | basic u p => [.ofPassword u p]
  | kerberos u p k => [.negotiate (.start u p host port k m)]
  | token t => [.static t, .bearer t]

end Credentials

namespace Target

/-- The target with the secret masked. -/
def masked (g : Target) : Target :=
  { g with credentials := g.credentials.masked }

theorem shown_masked (g : Target) : g.masked.shown = g.shown := by
  rw [shown, masked, Credentials.shown_masked, shown]

/-- A target is checked by its host and its endpoint. -/
theorem validate_congr {g g' : Target} (hhost : g.host = g'.host) (hendpoint : g.endpoint = g'.endpoint) :
    g.validate = g'.validate := by
  rw [validate, validate, hhost, hendpoint]

theorem validate_masked (g : Target) : g.masked.validate = g.validate :=
  validate_congr rfl rfl

end Target

/-! ## Generators -/

namespace Generator

/-- The generator with the secret masked. -/
def masked : Generator → Generator
  | basic _ => basic mask
  | static _ => static mask
  | negotiate n => negotiate { n with password := mask }

theorem masked_ofPassword (u p : String) : (ofPassword u p).masked = basic mask :=
  rfl

theorem shown_masked (g : Generator) : g.masked.shown = g.shown := by
  cases g <;> rfl

/-- **A call does not look at the secret**, except for what it gives. -/
theorem next_masked (g : Generator) (s : Surroundings) : (g.masked.next s).2.1 = (g.next s).2.1.masked := by
  cases g with
  | basic header => rfl
  | static token => rfl
  | negotiate n =>
    -- the password is told to the mechanism, whose outcomes are given; nothing else looks at it
    simp only [masked, next, Negotiation.next]
    split
    · rfl
    · split
      · rfl
      · split
        · rfl
        · split <;> rfl

/-- The generator behind some calls, which find the files one after the other. -/
def afterAll (g : Generator) (files : List Surroundings) : Generator :=
  files.foldl (fun g s => (g.next s).2.1) g

theorem afterAll_masked (g : Generator) (files : List Surroundings) :
    g.masked.afterAll files = (g.afterAll files).masked := by
  induction files generalizing g with
  | nil => rfl
  | cons s files ih =>
    change (g.masked.next s).2.1.afterAll files = ((g.next s).2.1.afterAll files).masked
    rw [next_masked, ih]

/-- The description of the generator behind some calls. -/
def shownAfter (files : List Surroundings) (g : Generator) : String :=
  (g.afterAll files).shown.render

/-- **What is shown of a generator does not depend on its secret**, after any calls. -/
theorem shownAfter_masked (files : List Surroundings) : shownAfter files ∘ masked = shownAfter files := by
  funext g
  rw [Function.comp_apply, shownAfter, afterAll_masked, shown_masked, shownAfter]

end Generator

theorem Credentials.map_masked_generators (c : Credentials) (host : String) (port : UInt16) (m : Mechanism) :
    (c.masked.generators host port m).map Generator.masked = (c.generators host port m).map Generator.masked := by
  cases c with
  | basic u p =>
    rw [masked, generators, generators, List.map_singleton, List.map_singleton, Generator.masked_ofPassword,
      Generator.masked_ofPassword]
  | kerberos => rfl
  | token => rfl

namespace Connection

theorem checkTrust_masked (s : Surroundings) (g : Target) : checkTrust s g.masked = checkTrust s g := by
  rw [checkTrust, checkTrust]
  rfl

/-- What is made of the target of a connection stays the same if masking leaves it the same. -/
theorem map_ofTarget_masked {α : Type} (f : Target → α) (s : Surroundings) (g : Target) (hf : f g.masked = f g) :
    (ofTarget s g.masked).map (fun c => f c.target) = (ofTarget s g).map fun c => f c.target := by
  rw [ofTarget, ofTarget, Target.validate_masked, checkTrust_masked]
  cases g.validate with
  | error e => rfl
  | ok =>
    cases checkTrust s g with
    | error e => rfl
    | ok => exact congrArg Except.ok hf

theorem map_masked_generator (s : Surroundings) (g : Target) (m : Option Mechanism) :
    (generator s ⟨g.masked, m⟩).1.map Generator.masked = (generator s ⟨g, m⟩).1.map Generator.masked := by
  obtain ⟨host, port, protocol, context, credentials, _⟩ := g
  cases credentials with
  | basic u p =>
    change Except.ok (Generator.ofPassword u mask).masked = Except.ok (Generator.ofPassword u p).masked
    rw [Generator.masked_ofPassword, Generator.masked_ofPassword]
  | token t => rfl
  | kerberos u p k =>
    simp only [generator, Target.masked, Credentials.masked]
    cases k.check s with
    | error e => rfl
    | ok => cases m <;> rfl

/-- What is shown of the generator of a connection does not depend on the secret. -/
theorem map_shownAfter_generator (s : Surroundings) (g : Target) (m : Option Mechanism) (files : List Surroundings) :
    (generator s ⟨g.masked, m⟩).1.map (Generator.shownAfter files) =
      (generator s ⟨g, m⟩).1.map (Generator.shownAfter files) := by
  have hmap : ∀ x : Except Failure Generator, x.map (Generator.shownAfter files) =
      (x.map Generator.masked).map (Generator.shownAfter files) := by
    rintro (e | x)
    · rfl
    · exact congrArg Except.ok (congrFun (Generator.shownAfter_masked files) x).symm
  rw [hmap, map_masked_generator, ← hmap]

end Connection

/-! ## What is shown of a target -/

/-- Nothing that is shown of two targets tells them apart: the descriptions of their credentials and of the connections
to them, whether there is a connection, and the descriptions of generators behind any calls, both of the ones that the
connections make and of all that can be made of the credentials. -/
structure Target.SeenAlike (s : Surroundings) (g g' : Target) : Prop where
  credentials : g.credentials.shown.render = g'.credentials.shown.render
  validate : g.validate = g'.validate
  connection : (Connection.ofTarget s g).map (·.target.shown.render) =
    (Connection.ofTarget s g').map (·.target.shown.render)
  generator : ∀ (m : Option Mechanism) (files : List Surroundings),
    (Connection.generator s ⟨g, m⟩).1.map (Generator.shownAfter files) =
      (Connection.generator s ⟨g', m⟩).1.map (Generator.shownAfter files)
  generators : ∀ (m : Mechanism) (files : List Surroundings),
    (g.credentials.generators g.host g.port m).map (Generator.shownAfter files) =
      (g'.credentials.generators g'.host g'.port m).map (Generator.shownAfter files)

theorem Target.seenAlike_masked (s : Surroundings) (g : Target) : SeenAlike s g.masked g where
  credentials := congrArg Text.Shown.render g.credentials.shown_masked
  validate := g.validate_masked
  connection := Connection.map_ofTarget_masked (·.shown.render) s g (congrArg Text.Shown.render g.shown_masked)
  generator m files := Connection.map_shownAfter_generator s g m files
  generators m files := by
    rw [← Generator.shownAfter_masked, ← List.map_map, ← List.map_map]
    exact congrArg _ (g.credentials.map_masked_generators g.host g.port m)

/-- Targets that are the same when they are masked are seen alike. -/
theorem Target.seenAlike_of_masked_eq {g g' : Target} (s : Surroundings) (h : g.masked = g'.masked) :
    SeenAlike s g g' := by
  have hg := seenAlike_masked s g
  have hg' := seenAlike_masked s g'
  rw [h] at hg
  exact {
    credentials := hg.credentials.symm.trans hg'.credentials
    validate := hg.validate.symm.trans hg'.validate
    connection := hg.connection.symm.trans hg'.connection
    generator := fun m files => (hg.generator m files).symm.trans (hg'.generator m files)
    generators := fun m files => (hg.generators m files).symm.trans (hg'.generators m files) }

/-! ## From tables to targets -/

namespace HostSettings

variable {s : Surroundings} {h h' : HostSettings} {host : String} {g g' : Target}

/-- Settings with the secrets masked. -/
def masked (h : HostSettings) : HostSettings :=
  { h with password := some mask, token := some mask }

/-- Settings without the password. -/
def withoutPassword (h : HostSettings) : HostSettings :=
  { h with password := none }

theorem masked_withoutSecrets (h : HostSettings) : h.withoutSecrets.masked = h.masked :=
  rfl

/-- The method of authentication. -/
def method (h : HostSettings) : AuthMethod :=
  h.auth.getD .basic

/-- The text that a method cannot do without. -/
def needed (h : HostSettings) : AuthMethod → Except Failure String
  | .basic | .kerberos => requiredText h.username "username"
  | .token => requiredText h.token "token"

/-- The credentials for a method, with the text that it cannot do without. -/
def credentialsOf (s : Surroundings) (h : HostSettings) : AuthMethod → String → Credentials
  | .basic, text => .basic text (h.password.getD "")
  | .kerberos, text => .kerberos text (h.password.getD "") ((h.kerberos.getD .unset).resolve s)
  | .token, text => .token text

theorem credentials_eq (h : HostSettings) (s : Surroundings) :
    h.credentials s = (h.needed h.method).map (h.credentialsOf s h.method) := by
  rw [credentials, ← method]
  cases h.method with
  | token => cases hneeded : requiredText h.token "token" <;> simp only [needed, hneeded] <;> rfl
  | basic => cases hneeded : requiredText h.username "username" <;> simp only [needed, hneeded] <;> rfl
  | kerberos => cases hneeded : requiredText h.username "username" <;> simp only [needed, hneeded] <;> rfl

/-- A method that has what it needs also has it when the secrets are masked. -/
theorem needed_masked {m : AuthMethod} {text : String} (htext : h.needed m = .ok text) :
    ∃ text', h.masked.needed m = .ok text' ∧ h.masked.credentialsOf s m text' = (h.credentialsOf s m text).masked := by
  cases m with
  | token => exact ⟨mask, rfl, rfl⟩
  | basic => exact ⟨text, htext, rfl⟩
  | kerberos => exact ⟨text, htext, rfl⟩

theorem credentials_masked {c : Credentials} (hc : h.credentials s = .ok c) :
    h.masked.credentials s = .ok c.masked := by
  have hmethod : h.masked.method = h.method := rfl
  rw [credentials_eq] at hc
  rw [credentials_eq, hmethod]
  cases htext : h.needed h.method with
  | error e => rw [htext] at hc; cases hc
  | ok text =>
    rw [htext] at hc
    cases hc
    obtain ⟨text', htext', hmasked⟩ := needed_masked (s := s) htext
    rw [htext', ← hmasked]
    rfl

/-- **Masking commutes with making a target**, where there is one. -/
theorem target_masked (hg : h.target s host = .ok g) : h.masked.target s host = .ok g.masked := by
  rw [target] at hg
  rw [target]
  cases hc : h.credentials s with
  | error e => rw [hc] at hg; cases hg
  | ok c =>
    rw [hc] at hg
    cases hg
    rw [credentials_masked hc]
    rfl

/-- Without the password there are other credentials, or the same error. -/
theorem credentials_withoutPassword (h : HostSettings) (s : Surroundings) :
    (∃ c c', h.credentials s = .ok c ∧ h.withoutPassword.credentials s = .ok c') ∨
      ∃ e, h.credentials s = .error e ∧ h.withoutPassword.credentials s = .error e := by
  have hmethod : h.withoutPassword.method = h.method := rfl
  have hneeded : h.withoutPassword.needed = h.needed := rfl
  rw [credentials_eq, credentials_eq, hmethod, hneeded]
  cases h.needed h.method with
  | error e => exact .inr ⟨e, rfl, rfl⟩
  | ok text => exact .inl ⟨_, _, rfl, rfl⟩

/-- Settings that are the same but for the secrets make targets that are seen alike. -/
theorem seenAlike_of_withoutSecrets_eq (heq : h.withoutSecrets = h'.withoutSecrets) (hg : h.target s host = .ok g)
    (hg' : h'.target s host = .ok g') : Target.SeenAlike s g g' := by
  have hmasked : h.masked = h'.masked := by rw [← masked_withoutSecrets, heq, masked_withoutSecrets]
  have hsame : Except.ok g.masked = (.ok g'.masked : Except Failure Target) := by
    rw [← target_masked hg, hmasked, target_masked hg']
  exact Target.seenAlike_of_masked_eq s (Except.ok.inj hsame)

/-- **Whether there is a target, whether it is valid, and which error there is, does not depend on the password.** -/
theorem map_validate_withoutPassword (h : HostSettings) (s : Surroundings) (host : String) :
    (h.withoutPassword.target s host).map Target.validate = (h.target s host).map Target.validate := by
  rw [target, target]
  obtain ⟨c, c', hc, hc'⟩ | ⟨e, he, he'⟩ := h.credentials_withoutPassword s
  · rw [hc, hc']
    exact congrArg Except.ok (Target.validate_congr rfl rfl)
  · rw [he, he']
    rfl

theorem map_validate_eq (heq : h.withoutPassword = h'.withoutPassword) :
    (h.target s host).map Target.validate = (h'.target s host).map Target.validate := by
  rw [← map_validate_withoutPassword, heq, map_validate_withoutPassword]

end HostSettings

namespace HostTable

variable {t t' : HostTable} {f : HostSettings → HostSettings} {host : String}

theorem find?_mapSettings (f : HostSettings → HostSettings) (t : HostTable) (host : String) :
    (t.mapSettings f).find? host = (t.find? host).map f := by
  have hmap : ∀ p : String → Bool, (t.mapSettings f).hosts.find? (fun e => p e.1) =
      (t.hosts.find? fun e => p e.1).map fun e => (e.1, f e.2) := fun p => by
    rw [mapSettings, List.find?_map]
    rfl
  rw [find?, find?, findBy?, findBy?, hmap (· == host), hmap (isPatternBy Regex.search? · host)]
  cases t.hosts.find? fun e => e.1 == host with
  | some e => rfl
  | none =>
    change Option.map _ (Option.map _ _) = Option.map f (Option.map _ _)
    rw [Option.map_map, Option.map_map]
    rfl

/-- **Changing all settings commutes with looking up and merging** if it commutes with merging two records. -/
theorem merged_mapSettings (hunset : f .unset = .unset)
    (hmerge : ∀ s defaults, f (s.mergedOver defaults) = (f s).mergedOver (f defaults)) (t : HostTable) (host : String) :
    (t.mapSettings f).merged host = f (t.merged host) := by
  have hfound : ((t.find? host).map f).getD .unset = f ((t.find? host).getD .unset) := by
    cases t.find? host with
    | none => exact hunset.symm
    | some s => rfl
  rw [merged, merged, hmerge, find?_mapSettings, hfound]
  rfl

theorem merged_withoutSecrets (t : HostTable) (host : String) :
    t.withoutSecrets.merged host = (t.merged host).withoutSecrets :=
  merged_mapSettings rfl (fun _ _ => rfl) t host

/-- The table with the passwords taken out. -/
def withoutPasswords (t : HostTable) : HostTable :=
  t.mapSettings HostSettings.withoutPassword

theorem merged_withoutPasswords (t : HostTable) (host : String) :
    t.withoutPasswords.merged host = (t.merged host).withoutPassword :=
  merged_mapSettings rfl (fun _ _ => rfl) t host

theorem toValue_withoutSecrets (t : HostTable) : t.withoutSecrets.toValue = t.toValue := by
  change Value.table [("defaults", t.defaults.toValue),
    ("hosts", .table ((t.hosts.map fun e => (e.1, e.2.withoutSecrets)).map fun e => (e.1, e.2.toValue)))] = t.toValue
  rw [List.map_map]
  rfl

/-- **Secrets leave no trace.**  If two tables are the same but for their passwords and tokens, they are written alike,
and targets that they have for a host are seen alike.  If they are the same but for their passwords, they have a target
for the host both or neither, with the same error, and checking the target comes out the same. -/
theorem secrets_unseen (s : Surroundings) (host : String) (h : t.withoutSecrets = t'.withoutSecrets) :
    Json.render t.toValue = Json.render t'.toValue ∧
      (∀ g g', t.resolve s host = .ok g → t'.resolve s host = .ok g' → Target.SeenAlike s g g') ∧
      (t.withoutPasswords = t'.withoutPasswords →
        (t.resolve s host).map Target.validate = (t'.resolve s host).map Target.validate) := by
  refine ⟨?_, fun g g' => HostSettings.seenAlike_of_withoutSecrets_eq ?_, fun hpasswords =>
    HostSettings.map_validate_eq ?_⟩
  · rw [← toValue_withoutSecrets t, h, toValue_withoutSecrets]
  · rw [← merged_withoutSecrets, h, merged_withoutSecrets]
  · rw [← merged_withoutPasswords, hpasswords, merged_withoutPasswords]

/-- A Kerberos login with one password and with another one, where the tokens differ as well or not. -/
theorem secrets_unseen_kerberos :
    let files : Surroundings := ⟨[], [("krb5.conf", .file []), ("login.conf", .file [])]⟩
    let login : HostSettings := {
      auth := some .kerberos, username := some "svc", token := some "abc"
      kerberos := some ⟨some "krb5.conf", some "login.conf", true, false⟩ }
    let t : HostTable := ⟨login, [("win-*", { password := some "hunter2" })]⟩
    let t' : HostTable := ⟨{ login with password := some "secret" }, [("win-*", {})]⟩
    let t'' : HostTable := ⟨login, [("win-*", { password := some "secret", token := some "xyz" })]⟩
    let target : String → Target := fun password =>
      { Target.ofHost "win-01" with
        credentials := .kerberos "svc" password ⟨some "krb5.conf", some "login.conf", true, false⟩ }
    t.resolve files "win-01" = .ok (target "hunter2") ∧ t''.resolve files "win-01" = .ok (target "secret") ∧
      Json.render t.toValue = Json.render t''.toValue ∧ Target.SeenAlike files (target "hunter2") (target "secret") ∧
      (t.resolve files "win-01").map Target.validate = (t'.resolve files "win-01").map Target.validate := by
  intro files login t t' t'' target
  have ht : t.resolve files "win-01" = .ok (target "hunter2") := by decide +kernel
  have ht'' : t''.resolve files "win-01" = .ok (target "secret") := by decide +kernel
  have hsecrets : t.withoutSecrets = t''.withoutSecrets := rfl
  have hpasswords : t.withoutSecrets = t'.withoutSecrets := rfl
  obtain ⟨hrender, hseen, -⟩ := secrets_unseen files "win-01" hsecrets
  obtain ⟨-, -, hvalidate⟩ := secrets_unseen files "win-01" hpasswords
  exact ⟨ht, ht'', hrender, hseen _ _ ht ht'', hvalidate rfl⟩

theorem Clear.mapSettings (h : t.Clear host) (f : HostSettings → HostSettings) : (t.mapSettings f).Clear host := by
  have hkeys : (t.mapSettings f).hosts.map Prod.fst = t.hosts.map Prod.fst := by
    rw [HostTable.mapSettings, List.map_map]
    rfl
  exact ⟨hkeys ▸ h.nodup, hkeys ▸ h.covered⟩

/-- The same holds of tables that list the hosts in different orders, for a host that at most one pattern covers. -/
theorem secrets_unseen_of_reorders (s : Surroundings) (hclear : t.Clear host)
    (h : t.withoutSecrets.Reorders t'.withoutSecrets) :
    (∀ g g', t.resolve s host = .ok g → t'.resolve s host = .ok g' → Target.SeenAlike s g g') ∧
      (t.withoutPasswords.Reorders t'.withoutPasswords →
        (t.resolve s host).map Target.validate = (t'.resolve s host).map Target.validate) := by
  refine ⟨fun g g' => HostSettings.seenAlike_of_withoutSecrets_eq ?_, fun hpasswords => HostSettings.map_validate_eq ?_⟩
  · have hmerged : t.withoutSecrets.merged host = t'.withoutSecrets.merged host := (hclear.mapSettings _).merged_eq h
    rw [← merged_withoutSecrets, hmerged, merged_withoutSecrets]
  · have hmerged : t.withoutPasswords.merged host = t'.withoutPasswords.merged host :=
      (hclear.mapSettings _).merged_eq hpasswords
    rw [← merged_withoutPasswords, hmerged, merged_withoutPasswords]

end HostTable

end RemoteShell
