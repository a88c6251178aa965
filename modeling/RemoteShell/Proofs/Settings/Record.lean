import RemoteShell.Proofs.Duration.Human
import RemoteShell.Proofs.Settings.Format.Json
import RemoteShell.Proofs.Settings.Lookup
import RemoteShell.Settings.File

/-!
# Settings that are written and read back

A table of hosts is written without passwords and tokens, and everything else is read back from the text
(`ofText?_render_toValue`).

A record is written as a table of its fields, each under a name of its own.  A reader takes one field after the other
and leaves them all in place, so each of them can be read on its own: a field that is written is found under its name
(`optionalField_of_mem`), and one that is not written is unset (`optionalField_of_notMem`).  A setting that is unset is
written as null, and no setting that is set is, so that a setting is read if what is set is (`optional?_ofOption`).
-/

namespace RemoteShell

namespace Value

variable {α β : Type} {name : String} {v : Value} {entries : List (String × Value)} {a : α}

/-! ## Fields of a table -/

theorem filter_of_notMem (h : name ∉ entries.map Prod.fst) : entries.filter (·.1 == name) = [] :=
  List.filter_eq_nil_iff.2 fun _ he heq => h (eq_of_beq heq ▸ List.mem_map.2 ⟨_, he, rfl⟩)

theorem filter_of_mem (hnodup : (entries.map Prod.fst).Nodup) (hmem : (name, v) ∈ entries) :
    entries.filter (·.1 == name) = [(name, v)] := by
  induction entries with
  | nil => cases hmem
  | cons e entries ih =>
    obtain ⟨hnotMem, hnodup⟩ := List.nodup_cons.1 hnodup
    rcases List.mem_cons.1 hmem with rfl | hmem
    · rw [List.filter_cons_of_pos (by simp), filter_of_notMem hnotMem]
    · have hne : e.1 ≠ name := fun heq => hnotMem (heq ▸ List.mem_map.2 ⟨_, hmem, rfl⟩)
      rw [List.filter_cons_of_neg (by simpa using hne), ih hnodup hmem]

theorem take?_of_mem (hnodup : (entries.map Prod.fst).Nodup) (hmem : (name, v) ∈ entries) :
    Fields.take? name (.named entries) = some (some v, .named entries) := by
  rw [Fields.take?, filter_of_mem hnodup hmem]

theorem take?_of_notMem (h : name ∉ entries.map Prod.fst) :
    Fields.take? name (.named entries) = some (none, .named entries) := by
  rw [Fields.take?, filter_of_notMem h]

/-- **A field that is written is read**, and all fields stay. -/
theorem optionalField_of_mem {read : Value → Option α} {a : Option α} (hnodup : (entries.map Prod.fst).Nodup)
    (hmem : (name, v) ∈ entries) (hread : optional? read v = some a) :
    optionalField name read (.named entries) = some (a, .named entries) := by
  unfold optionalField
  rw [take?_of_mem hnodup hmem]
  change (optional? read v).map (fun a => (a, Fields.named entries)) = _
  rw [hread, Option.map_some]

/-- **A field that is not written is unset.** -/
theorem optionalField_of_notMem (read : Value → Option α) (h : name ∉ entries.map Prod.fst) :
    optionalField name read (.named entries) = some (none, .named entries) := by
  unfold optionalField
  rw [take?_of_notMem h]
  rfl

/-- A field with a default is read if it is written. -/
theorem fieldWithDefault_of_mem {default : α} {read : Value → Option α} (hnodup : (entries.map Prod.fst).Nodup)
    (hmem : (name, v) ∈ entries) (hread : read v = some a) :
    fieldWithDefault name default read (.named entries) = some (a, .named entries) := by
  unfold fieldWithDefault
  rw [take?_of_mem hnodup hmem]
  change (read v).map (fun a => (a, Fields.named entries)) = _
  rw [hread, Option.map_some]

/-- A reader goes on with the field that it has read. -/
theorem bind_of_eq_some {x : FieldReader α} {f : α → FieldReader β} {fields : Fields}
    (h : x fields = some (a, fields)) :
    (x >>= f) fields = f a fields := by
  change (x fields >>= fun r => f r.1 r.2) = _
  rw [h]
  rfl

/-- A record is read from a table if its fields are. -/
theorem record?_of_table {read : FieldReader α} (h : read (.named entries) = some (a, .named entries)) :
    record? read (.table entries) = some a := by
  change (read (.named entries) >>= fun r => if r.2.isDone then some r.1 else none) = _
  rw [h]
  rfl

/-! ## Settings that may be unset -/

/-- A value that is there, and that has a type of its own. -/
def IsProper : Value → Prop
  | null => False
  | word _ => False
  | _ => True

theorem optional?_of_isProper {read : Value → Option α} (h : IsProper v) : optional? read v = (read v).map some := by
  cases v with
  | null => exact h.elim
  | word w => exact h.elim
  | _ => rfl

/-- **A setting is read back if what is set is**; `f` is what the reader takes it for. -/
theorem optional?_ofOption {write : α → Value} {read : Value → Option β} {f : α → β} {o : Option α}
    (hproper : ∀ a, IsProper (write a)) (hread : ∀ a ∈ o, read (write a) = some (f a)) :
    optional? read (ofOption write o) = some (o.map f) := by
  cases o with
  | none => rfl
  | some a => rw [ofOption, optional?_of_isProper (hproper a), hread a rfl]; rfl

/-- A setting is read back if what is set is, and stays as it is. -/
theorem optional?_ofOption_self {write : α → Value} {read : Value → Option α} {o : Option α}
    (hproper : ∀ a, IsProper (write a)) (hread : ∀ a ∈ o, read (write a) = some a) :
    optional? read (ofOption write o) = some o := by
  rw [optional?_ofOption (f := id) hproper hread, Option.map_id, id]

theorem flag?_flag (b : Bool) : flag? (.flag b) = some b :=
  rfl

theorem number?_ofNat {max n : Nat} (h : n ≤ max) : number? max (ofNat n) = some n := by
  rw [ofNat, number?, if_pos (by simpa using h)]
  rfl

/-- A number of a type with bounds is read back. -/
theorem optional?_number {max : Nat} {toNat : α → Nat} (h : ∀ a, toNat a ≤ max) (o : Option α) :
    optional? (number? max) (ofOption (fun a => ofNat (toNat a)) o) = some (o.map toNat) :=
  optional?_ofOption (fun _ => trivial) fun a _ => number?_ofNat (h a)

theorem map_ofNat_map_toNat {ofNat : Nat → α} {toNat : α → Nat} (h : ∀ a, ofNat (toNat a) = a) (o : Option α) :
    (o.map toNat).map ofNat = o := by
  rw [Option.map_map, show ofNat ∘ toNat = id from funext h, Option.map_id, id]

/-! ## The fields of a record -/

section Fields

variable (hnodup : (entries.map Prod.fst).Nodup)

include hnodup

/-- A reader goes on with a setting that is written. -/
theorem bind_optionalField {read : Value → Option α} {a : Option α} {f : Option α → FieldReader β} (name : String)
    (hmem : (name, v) ∈ entries) (hread : optional? read v = some a) :
    (optionalField name read >>= f) (.named entries) = f a (.named entries) :=
  bind_of_eq_some (optionalField_of_mem hnodup hmem hread)

theorem bind_text {f : Option String → FieldReader β} (name : String) (o : Option String)
    (hmem : (name, ofOption text o) ∈ entries) :
    (optionalField name text? >>= f) (.named entries) = f o (.named entries) :=
  bind_optionalField hnodup name hmem (optional?_ofOption_self (fun _ => trivial) fun _ _ => rfl)

theorem bind_number {max : Nat} {f : Option Nat → FieldReader β} (name : String) (toNat : α → Nat)
    (h : ∀ a, toNat a ≤ max) (o : Option α) (hmem : (name, ofOption (fun a => ofNat (toNat a)) o) ∈ entries) :
    (optionalField name (number? max) >>= f) (.named entries) = f (o.map toNat) (.named entries) :=
  bind_optionalField hnodup name hmem (optional?_number h o)

theorem bind_choice {all : List α} {choice : α → String} {f : Option α → FieldReader β}
    (h : ∀ a, all.find? (choice · == choice a) = some a) (name : String) (o : Option α)
    (hmem : (name, ofOption (fun a => .text (choice a)) o) ∈ entries) :
    (optionalField name (choice? all choice) >>= f) (.named entries) = f o (.named entries) :=
  bind_optionalField hnodup name hmem (optional?_ofOption_self (fun _ => trivial) fun a _ => h a)

/-- A reader goes on with a field that is written, where it has a default. -/
theorem bind_fieldWithDefault {default : α} {read : Value → Option α} {f : α → FieldReader β} (name : String)
    (hmem : (name, v) ∈ entries) (hread : read v = some a) :
    (fieldWithDefault name default read >>= f) (.named entries) = f a (.named entries) :=
  bind_of_eq_some (fieldWithDefault_of_mem hnodup hmem hread)

end Fields

/-- A reader goes on with an unset setting where there is no field. -/
theorem bind_optionalField_of_notMem {read : Value → Option α} {f : Option α → FieldReader β} (name : String)
    (h : name ∉ entries.map Prod.fst) :
    (optionalField name read >>= f) (.named entries) = f none (.named entries) :=
  bind_of_eq_some (optionalField_of_notMem read h)

end Value

open Value

namespace KerberosSection

/-- The fields of a section, as they are written. -/
def entries (k : KerberosSection) : List (String × Value) :=
  k.toValue.entries?.getD []

theorem nodup_entries (k : KerberosSection) : (k.entries.map Prod.fst).Nodup := by
  change ["krb5_config", "login_config", "use_http_spn", "add_port_to_spn"].Nodup
  decide

theorem reader_entries (k : KerberosSection) : reader (.named k.entries) = some (k, .named k.entries) := by
  have hnodup := k.nodup_entries
  rw [reader, bind_text hnodup "krb5_config" k.realmFile (by simp [entries, toValue, entries?]),
    bind_text hnodup "login_config" k.loginFile (by simp [entries, toValue, entries?]),
    bind_fieldWithDefault hnodup "use_http_spn" (by simp [entries, toValue, entries?]) (flag?_flag k.httpService),
    bind_fieldWithDefault hnodup "add_port_to_spn" (by simp [entries, toValue, entries?]) (flag?_flag k.portInService)]
  rfl

theorem ofValue?_toValue (k : KerberosSection) : ofValue? k.toValue = some k :=
  record?_of_table k.reader_entries

end KerberosSection

namespace HostSettings

/-- The fields of settings, as they are written. -/
def entries (s : HostSettings) : List (String × Value) :=
  s.toValue.entries?.getD []

/-- The names of the fields that are written. -/
def names : List String :=
  (unset.entries).map Prod.fst

theorem nodup_entries (s : HostSettings) : (s.entries.map Prod.fst).Nodup :=
  (by decide : names.Nodup)

theorem notMem_entries (s : HostSettings) {name : String} (h : name ∉ names) : name ∉ s.entries.map Prod.fst :=
  h

theorem find?_protocol (p : Protocol) : Protocol.all.find? (Protocol.name · == p.name) = some p := by
  cases p <;> decide

theorem find?_authMethod (a : AuthMethod) : AuthMethod.all.find? (AuthMethod.name · == a.name) = some a := by
  cases a <;> decide

theorem toNat_le_maxPort (n : UInt16) : n.toNat ≤ 65535 :=
  Nat.le_of_lt_succ n.toNat_lt

theorem toNat_le_maxUInt32 (n : UInt32) : n.toNat ≤ UInt32.size - 1 :=
  Nat.le_of_lt_succ n.toNat_lt

theorem toNat_le_maxWord (n : UInt64) : n.toNat ≤ maxWord :=
  Nat.le_of_lt_succ n.toNat_lt

/-- The deadline, if there is one, has 64 bits of seconds. -/
def DeadlineFits (s : HostSettings) : Prop :=
  ∀ d ∈ s.receiveDeadline, Duration.Human.Fits d

theorem reader_entries {s : HostSettings} (h : s.DeadlineFits) :
    reader (.named s.entries) = some (s.withoutSecrets, .named s.entries) := by
  have hnodup := s.nodup_entries
  have hdeadline : optional? duration? (ofOption (fun d => .text (Duration.Human.render d)) s.receiveDeadline) =
      some s.receiveDeadline :=
    optional?_ofOption_self (fun _ => trivial) fun d hd => Duration.Human.read?_render (h d hd)
  have hkerberos : optional? KerberosSection.ofValue? (ofOption KerberosSection.toValue s.kerberos) = some s.kerberos :=
    optional?_ofOption_self (fun _ => trivial) fun k _ => k.ofValue?_toValue
  -- one step for each field, in the order of the reader; the secrets are the fields that are not there
  rw [reader, bind_text hnodup "hostname" s.hostname (by simp [entries, toValue, entries?]),
    bind_number hnodup "port" UInt16.toNat toNat_le_maxPort s.port (by simp [entries, toValue, entries?]),
    bind_choice hnodup find?_protocol "protocol" s.protocol (by simp [entries, toValue, entries?]),
    bind_choice hnodup find?_authMethod "auth" s.auth (by simp [entries, toValue, entries?]),
    bind_text hnodup "context" s.context (by simp [entries, toValue, entries?]),
    bind_text hnodup "username" s.username (by simp [entries, toValue, entries?]),
    bind_optionalField_of_notMem "password" (s.notMem_entries (by decide)),
    bind_optionalField_of_notMem "token" (s.notMem_entries (by decide)),
    bind_text hnodup "operation_timeout" s.operationTimeout (by simp [entries, toValue, entries?]),
    bind_number hnodup "envelope_size" UInt32.toNat toNat_le_maxUInt32 s.envelopeSize
      (by simp [entries, toValue, entries?]),
    bind_text hnodup "locale" s.locale (by simp [entries, toValue, entries?]),
    bind_number hnodup "codepage" UInt32.toNat toNat_le_maxUInt32 s.codepage (by simp [entries, toValue, entries?]),
    bind_number hnodup "timeout" UInt64.toNat toNat_le_maxWord s.timeout (by simp [entries, toValue, entries?]),
    bind_text hnodup "ca_cert" s.caCert (by simp [entries, toValue, entries?]),
    bind_fieldWithDefault hnodup "receive_deadline" (by simp [entries, toValue, entries?]) hdeadline,
    bind_number hnodup "pipe_capacity" UInt64.toNat toNat_le_maxWord s.pipeCapacity
      (by simp [entries, toValue, entries?]),
    bind_optionalField hnodup "kerberos" (by simp [entries, toValue, entries?]) hkerberos,
    map_ofNat_map_toNat (fun _ => UInt16.ofNat_toNat), map_ofNat_map_toNat (fun _ => UInt32.ofNat_toNat),
    map_ofNat_map_toNat (fun _ => UInt32.ofNat_toNat), map_ofNat_map_toNat (fun _ => UInt64.ofNat_toNat),
    map_ofNat_map_toNat (fun _ => UInt64.ofNat_toNat)]
  rfl

/-- **Settings are read back without the secrets.** -/
theorem ofValue?_toValue {s : HostSettings} (h : s.DeadlineFits) :
    ofValue? s.toValue = some s.withoutSecrets :=
  record?_of_table (reader_entries h)

end HostSettings

/-! ## Values of JSON -/

namespace Json

theorem isData_ofOption {α : Type} {write : α → Value} (h : ∀ a, IsData (write a)) (o : Option α) :
    IsData (ofOption write o) := by
  cases o with
  | none => exact .null
  | some a => exact h a

theorem isData_text {α : Type} (write : α → String) (o : Option α) : IsData (ofOption (fun a => .text (write a)) o) :=
  isData_ofOption (fun _ => .text _) o

theorem isData_number {α : Type} (toNat : α → Nat) (o : Option α) :
    IsData (ofOption (fun a => Value.ofNat (toNat a)) o) :=
  isData_ofOption (fun _ => .integer _) o

theorem isData_kerberosSection (k : KerberosSection) : IsData k.toValue := by
  refine .table ?_
  simp only [List.forall_mem_cons]
  exact ⟨isData_text _ _, isData_text _ _, .flag _, .flag _, nofun⟩

theorem isData_hostSettings (s : HostSettings) : IsData s.toValue := by
  refine .table ?_
  simp only [List.forall_mem_cons]
  exact ⟨isData_text _ _, isData_number _ _, isData_text _ _, isData_text _ _, isData_text _ _, isData_text _ _,
    isData_text _ _, isData_number _ _, isData_text _ _, isData_number _ _, isData_number _ _, isData_text _ _,
    isData_text _ _, isData_number _ _, isData_ofOption isData_kerberosSection _, nofun⟩

theorem isData_hostTable (t : HostTable) : IsData t.toValue := by
  refine .table ?_
  simp only [List.forall_mem_cons]
  refine ⟨isData_hostSettings t.defaults, .table fun e he => ?_, nofun⟩
  obtain ⟨entry, -, rfl⟩ := List.mem_map.1 he
  exact isData_hostSettings entry.2

end Json

namespace HostTable

variable {t : HostTable}

/-- The table with its settings changed, those of the hosts and the defaults alike. -/
def mapSettings (f : HostSettings → HostSettings) (t : HostTable) : HostTable :=
  ⟨f t.defaults, t.hosts.map fun e => (e.1, f e.2)⟩

/-- The table with the secrets taken out. -/
def withoutSecrets (t : HostTable) : HostTable :=
  t.mapSettings HostSettings.withoutSecrets

theorem mapM_ofValue? {hosts : List (String × HostSettings)}
    (h : ∀ e ∈ hosts, e.2.DeadlineFits) :
    (hosts.map fun e => (e.1, e.2.toValue)).mapM (fun e => (HostSettings.ofValue? e.2).map fun s => (e.1, s)) =
      some (hosts.map fun e => (e.1, e.2.withoutSecrets)) := by
  induction hosts with
  | nil => rfl
  | cons e hosts ih =>
    rw [List.map_cons, List.mapM_cons, ih fun e' he' => h e' (List.mem_cons_of_mem _ he'),
      HostSettings.ofValue?_toValue (h e List.mem_cons_self)]
    rfl

/-- Entries under new keys are put behind those that a table has. -/
theorem hosts_foldl_put (hosts : List (String × HostSettings)) (t : HostTable)
    (h : ((t.hosts ++ hosts).map Prod.fst).Nodup) :
    (hosts.foldl (fun t e => put t e.1 e.2) t).hosts = t.hosts ++ hosts := by
  induction hosts generalizing t with
  | nil => exact (List.append_nil _).symm
  | cons e hosts ih =>
    have hput : (t.put e.1 e.2).hosts = t.hosts ++ [e] := by
      have hnew : ∀ x ∈ t.hosts, x.1 ≠ e.1 := by
        intro x hx heq
        rw [List.map_append, List.nodup_append] at h
        exact h.2.2 x.1 (List.mem_map_of_mem hx) e.1 (List.mem_map_of_mem List.mem_cons_self) heq
      rw [put, List.filter_eq_self.2 fun x hx => decide_eq_true (hnew x hx)]
    rw [List.foldl_cons, ih _ (by rw [hput, List.append_assoc]; exact h), hput, List.append_assoc]
    rfl

theorem hostsOfValue?_toValue {hosts : List (String × HostSettings)} (hnodup : (hosts.map Prod.fst).Nodup)
    (h : ∀ e ∈ hosts, e.2.DeadlineFits) :
    hostsOfValue? (.table (hosts.map fun e => (e.1, e.2.toValue))) =
      some (hosts.map fun e => (e.1, e.2.withoutSecrets)) := by
  have hkeys : ((hosts.map fun e => (e.1, e.2.withoutSecrets)).map Prod.fst).Nodup := by
    rw [List.map_map]
    exact hnodup
  refine (congrArg (Option.bind · _) (mapM_ofValue? h)).trans ?_
  exact congrArg some (hosts_foldl_put _ empty hkeys)

theorem ofValue?_toValue (hkeys : t.keys.Nodup) (hdefaults : t.defaults.DeadlineFits)
    (hhosts : ∀ e ∈ t.hosts, e.2.DeadlineFits) :
    ofValue? t.toValue = some t.withoutSecrets := by
  have hnodup : ([("defaults", t.defaults.toValue),
      ("hosts", .table (t.hosts.map fun e => (e.1, e.2.toValue)))].map Prod.fst).Nodup := by
    change ["defaults", "hosts"].Nodup
    decide
  refine record?_of_table ?_
  rw [reader, bind_fieldWithDefault hnodup "defaults" (by simp) (HostSettings.ofValue?_toValue hdefaults),
    bind_fieldWithDefault hnodup "hosts" (by simp) (hostsOfValue?_toValue hkeys hhosts)]
  rfl

/-- **A table that is written is read back without its secrets**, and every deadline that it can hold is read back from
its words. -/
theorem ofText?_render_toValue (hkeys : t.keys.Nodup)
    (hdefaults : t.defaults.DeadlineFits)
    (hhosts : ∀ e ∈ t.hosts, e.2.DeadlineFits) :
    ofText? .json (Json.render t.toValue) = some t.withoutSecrets ∧
      ∀ d : Duration, Duration.Human.Fits d → Duration.Human.read? (Duration.Human.render d) = some d := by
  refine ⟨?_, fun d => Duration.Human.read?_render⟩
  change (Json.parse? (Json.render t.toValue)).bind ofValue? = _
  rw [Json.parse?_render (Json.isData_hostTable t), Option.bind_some, ofValue?_toValue hkeys hdefaults hhosts]

/-- The longest deadline, a password and a token: the secrets are gone, and all else is there again. -/
theorem ofText?_render_toValue_longest :
    let longest : Duration := .ofParts 18446744073709551615 999999999
    let kerberos : KerberosSection := ⟨some "/etc/krb5.conf", none, true, false⟩
    let web : HostSettings := { port := some 65535, protocol := some .httpsLazy, token := some "ticket" }
    let defaults : HostSettings :=
      { auth := some .kerberos, username := some "LAB\\admin", password := some "pass", receiveDeadline := some longest,
        kerberos := some kerberos }
    ofText? .json (Json.render (toValue ⟨defaults, [("web-*", web), ("db", {})]⟩)) =
        some ⟨{ defaults with password := none }, [("web-*", { web with token := none }), ("db", {})]⟩ ∧
      Duration.Human.read? (Duration.Human.render longest) = some longest := by
  intro longest kerberos web defaults
  have hlongest : Duration.Human.Fits longest := by decide
  obtain ⟨hread, hhuman⟩ := ofText?_render_toValue (t := ⟨defaults, [("web-*", web), ("db", {})]⟩) (by decide)
    (by rintro d ⟨rfl⟩; exact hlongest) (by simp [HostSettings.DeadlineFits, web])
  exact ⟨hread, hhuman longest hlongest⟩

end HostTable

end RemoteShell
