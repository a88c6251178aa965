import RemoteShell.Pool
import RemoteShell.Proofs.Cache.Entries

/-!
# Whose connection a pool gives

A pool finds connections by the fingerprints of targets.  A connection that it gives to a host was made for a
target with the fingerprint of the host's own target, for this host or for one that was asked for before
(`Pool.Serves`, `get_served`).  That is not to say that it was made for the same target: the fingerprint
covers the endpoint and the credentials, but two targets with one endpoint may differ in whether they check
the certificate of the server, since both kinds of HTTPS have the same scheme.

So a pool follows the settings of every host (`FollowsPolicy`) only if the table has no two hosts that differ
in their protocol or their name but not in their fingerprint (`followsPolicy_iff_separate`), and there are
tables that do (`not_followsPolicy_lab`).
-/

namespace RemoteShell

/-- A connection has the target that it was made for. -/
theorem Connection.target_ofTarget {s : Surroundings} {t : Target} {c : Connection}
    (h : Connection.ofTarget s t = .ok c) : c.target = t := by
  rw [Connection.ofTarget] at h
  cases hvalid : t.validate with
  | error e => rw [hvalid] at h; cases h
  | ok _ =>
    cases htrust : Connection.checkTrust s t with
    | error e => rw [hvalid, htrust] at h; cases h
    | ok _ =>
      rw [hvalid, htrust] at h
      obtain rfl := Except.ok.inj h
      rfl

/-- There is a connection to every valid target that trusts no certificate of its own. -/
theorem Connection.ofTarget_of_validate {t : Target} (hvalid : t.validate.isOk = true) (hcert : t.caCert = none)
    (s : Surroundings) : Connection.ofTarget s t = .ok ⟨t, none⟩ := by
  have htrust : Connection.checkTrust s t = .ok () := by
    rw [Connection.checkTrust, hcert]
    cases t.protocol <;> rfl
  rw [Connection.ofTarget, htrust]
  cases h : t.validate with
  | error e => rw [h] at hvalid; cases hvalid
  | ok _ => rfl

/-- Endpoints show whether requests are encrypted. -/
theorem Target.scheme_of_endpoint {t u : Target} (h : t.endpoint = u.endpoint) :
    t.protocol.scheme = u.protocol.scheme := by
  have hlist := congrArg String.toList h
  simp only [Target.endpoint, String.toList_append, List.append_assoc] at hlist
  -- `http:` and `https` differ in their fifth character.
  cases ht : t.protocol <;> cases hu : u.protocol <;> first | rfl | skip
  all_goals
    rw [ht, hu] at hlist
    simp [Protocol.scheme] at hlist

namespace Pool

/-! ## Operations -/

/-- An operation on a pool. -/
inductive Call where
  | get (s : Surroundings) (now : Nat) (host : String)
  | evict (s : Surroundings) (host : String)
  | closeAll

/-- Perform an operation. -/
def call (p : Pool) : Call → Pool
  | .get s now host => (p.get s now host).2
  | .evict s host => (p.evict s host).2
  | .closeAll => p.closeAll

/-- A pool after some operations. -/
def after (p : Pool) (calls : List Call) : Pool :=
  calls.foldl call p

/-- A connection was made for a host that was asked for. -/
def Made (table : HostTable) (calls : List Call) (c : Connection) : Prop :=
  ∃ s now host target, .get s now host ∈ calls ∧ table.resolve s host = .ok target ∧
    Connection.ofTarget s target = .ok c

/-- All connections of a pool were made for hosts that were asked for, and can be found by what they are
connections to. -/
structure Serves (table : HostTable) (calls : List Call) (p : Pool) : Prop where
  sameTable : p.table = table
  entries : p.cache.All fun key c => key = c.connection.target.fingerprint ∧ Made table calls c.connection

variable {table : HostTable} {calls : List Call} {p : Pool} {s : Surroundings} {now : Nat} {host : String}
  {c : Pooled}

theorem serves_ofTable (table : HostTable) (capacity : Nat) (calls : List Call) :
    Serves table calls (ofTable table capacity) :=
  ⟨rfl, Cache.all_ofCapacity capacity none⟩

/-- A host gets a connection that was made for a target with the fingerprint of its own. -/
theorem Serves.get (h : Serves table calls p) (hcall : .get s now host ∈ calls) :
    Serves table calls (p.get s now host).2 ∧ ∀ c, (p.get s now host).1 = .ok c →
      ∃ target, table.resolve s host = .ok target ∧
        c.connection.target.fingerprint = target.fingerprint ∧ Made table calls c.connection := by
  rw [Pool.get, h.sameTable]
  cases htarget : table.resolve s host with
  | error e => exact ⟨h, fun c hc => by cases hc⟩
  | ok target =>
    simp only
    have hcreate : ∀ c, (Connection.ofTarget s target).map (Pooled.mk p.next) = .ok c →
        target.fingerprint = c.connection.target.fingerprint ∧ Made table calls c.connection := by
      intro c hc
      cases hmade : Connection.ofTarget s target with
      | error e => rw [hmade] at hc; cases hc
      | ok connection =>
        rw [hmade] at hc
        obtain rfl := Except.ok.inj hc
        have htarget' : connection.target = target := Connection.target_ofTarget hmade
        exact ⟨congrArg Target.fingerprint htarget'.symm, s, now, host, target, hcall, htarget, hmade⟩
    obtain ⟨hall, hresult⟩ := h.entries.getOrCreate now (fun _ => _) hcreate
    refine ⟨⟨rfl, hall⟩, fun c hc => ⟨target, rfl, (hresult c hc).1.symm, (hresult c hc).2⟩⟩

/-- **One operation** puts in only connections that were made for the host that it asks for. -/
theorem Serves.call (h : Serves table calls p) {op : Call} (hop : op ∈ calls) :
    Serves table calls (p.call op) := by
  cases op with
  | get s now host => exact (h.get hop).1
  | evict s host =>
    rw [Pool.call, Pool.evict]
    cases p.table.resolve s host with
    | error e => exact h
    | ok target =>
      simp only
      generalize target.fingerprint = key
      exact ⟨h.sameTable, h.entries.without key⟩
  | closeAll => exact ⟨h.sameTable, fun _ he => absurd he List.not_mem_nil⟩

/-- **A run** of operations puts in only connections that were made for hosts that it asks for. -/
theorem Serves.after (h : Serves table calls p) {ops : List Call} (hops : ∀ op ∈ ops, op ∈ calls) :
    Serves table calls (p.after ops) := by
  induction ops generalizing p with
  | nil => exact h
  | cons op ops ih =>
    exact ih (h.call (hops op List.mem_cons_self)) fun later hlater => hops later (List.mem_cons_of_mem op hlater)

/-- What a host gets after any operations. -/
theorem get_served {capacity : Nat} (hget : (((ofTable table capacity).after calls).get s now host).1 = .ok c) :
    ∃ target, table.resolve s host = .ok target ∧
      c.connection.target.fingerprint = target.fingerprint ∧
      Made table (calls ++ [.get s now host]) c.connection := by
  have hbefore : Serves table (calls ++ [.get s now host]) ((ofTable table capacity).after calls) :=
    (serves_ofTable table capacity _).after fun _ hop => List.mem_append_left _ hop
  exact (hbefore.get (by simp)).2 c hget

/-- A host gets the connection of the one that was asked for just before, if they have the same
fingerprint. -/
theorem get_of_get (hunlimited : p.cache.timeToLive = none) {target other : Target} {s' : Surroundings}
    {host' : String} (htarget : p.table.resolve s host = .ok target)
    (hother : p.table.resolve s' host' = .ok other) (hsame : target.fingerprint = other.fingerprint)
    (hget : (p.get s now host).1 = .ok c) (later : Nat) :
    ((p.get s now host).2.get s' later host').1 = .ok c := by
  simp only [Pool.get, htarget, hother] at hget ⊢
  rw [← hsame]
  exact Cache.getOrCreate_of_getOrCreate hunlimited hget later

/-! ## Main result -/

/-- Whether pools of a table give to every host a connection with the protocol and the host name of the host's
own settings, whatever was asked of them before. -/
def FollowsPolicy (table : HostTable) : Prop :=
  ∀ (capacity : Nat) (calls : List Call) (s : Surroundings) (now : Nat) (host : String) (c : Pooled),
    (((ofTable table capacity).after calls).get s now host).1 = .ok c →
      ∃ target, table.resolve s host = .ok target ∧
        c.connection.target.protocol = target.protocol ∧ c.connection.identifier = target.host

/-- Whether the hosts of a table have distinct fingerprints where they have other protocols or host names.
Hosts to which there is no connection do not count. -/
def Separate (table : HostTable) : Prop :=
  ∀ (s s' : Surroundings) (host host' : String) (target other : Target),
    table.resolve s host = .ok target → table.resolve s' host' = .ok other →
      (Connection.ofTarget s target).isOk = true → target.fingerprint = other.fingerprint →
        target.protocol = other.protocol ∧ target.host = other.host

/-- A new pool makes a connection to the host that is asked for first. -/
theorem get_ofTable {target : Target} {connection : Connection} (htarget : table.resolve s host = .ok target)
    (hmade : Connection.ofTarget s target = .ok connection) (capacity now : Nat) :
    ((ofTable table capacity).get s now host).1 = .ok ⟨0, connection⟩ := by
  simp only [Pool.get, ofTable, htarget, hmade]
  rfl

/-- A new pool that is asked for two hosts with one fingerprint gives the connection of the first one to the
second one. -/
theorem get_shared {s' : Surroundings} {host' : String} {target other : Target} {connection : Connection}
    (htarget : table.resolve s host = .ok target) (hother : table.resolve s' host' = .ok other)
    (hsame : target.fingerprint = other.fingerprint) (hmade : Connection.ofTarget s target = .ok connection)
    (capacity now later : Nat) :
    (((ofTable table capacity).after [.get s now host]).get s' later host').1 = .ok ⟨0, connection⟩ :=
  get_of_get (p := ofTable table capacity) rfl htarget hother hsame (get_ofTable htarget hmade capacity now) later

/-- **A pool follows the settings of every host exactly when the fingerprints of the hosts tell them apart.**
For every table:

* what a host gets after any operations was made for a target with the fingerprint of its own, for this host or
  for one that was asked for before; if the endpoints are the same too, which only a collision of hashes can
  prevent, then both use encryption or none does;
* this is a connection with the protocol and the host name of the host's own settings, in every run of every
  pool of the table, if and only if no two hosts to which there are connections share a fingerprint and differ
  in one of the two. -/
theorem followsPolicy_iff_separate (table : HostTable) :
    (∀ (capacity : Nat) (calls : List Call) (s : Surroundings) (now : Nat) (host : String) (c : Pooled),
      (((ofTable table capacity).after calls).get s now host).1 = .ok c →
        ∃ target, table.resolve s host = .ok target ∧ Made table (calls ++ [.get s now host]) c.connection ∧
          c.connection.target.fingerprint = target.fingerprint ∧
          (c.connection.target.endpoint = target.endpoint →
            c.connection.target.protocol.scheme = target.protocol.scheme)) ∧
      (FollowsPolicy table ↔ Separate table) := by
  refine ⟨?_, ?_, ?_⟩
  · intro capacity calls s now host c hget
    obtain ⟨target, htarget, hsame, hmade⟩ := get_served hget
    exact ⟨target, htarget, hmade, hsame, Target.scheme_of_endpoint⟩
  · intro hfollows s s' host host' target other htarget hother hisOk hsame
    obtain ⟨connection, hmade⟩ : ∃ connection, Connection.ofTarget s target = .ok connection := by
      cases hmade : Connection.ofTarget s target with
      | error e => rw [hmade] at hisOk; cases hisOk
      | ok connection => exact ⟨connection, rfl⟩
    obtain ⟨other', hother', hprotocol, hhost⟩ :=
      hfollows 1 _ s' 1 host' _ (get_shared htarget hother hsame hmade 1 0 1)
    obtain rfl := Except.ok.inj (hother.symm.trans hother')
    rw [Connection.identifier, Connection.target_ofTarget hmade] at hhost
    rw [Connection.target_ofTarget hmade] at hprotocol
    exact ⟨hprotocol, hhost⟩
  · intro hseparate capacity calls s now host c hget
    obtain ⟨target, htarget, hsame, s₀, now₀, host₀, target₀, -, htarget₀, hmade⟩ := get_served hget
    have hisOk : (Connection.ofTarget s₀ target₀).isOk = true := by
      rw [hmade]
      rfl
    rw [Connection.target_ofTarget hmade] at hsame
    have hagree := hseparate s₀ s host₀ host target₀ target htarget₀ htarget hisOk hsame
    refine ⟨target, htarget, ?_, ?_⟩
    · rw [Connection.target_ofTarget hmade]
      exact hagree.1
    · rw [Connection.identifier, Connection.target_ofTarget hmade]
      exact hagree.2

/-- A server is in the table twice: as a lab host whose certificate is not checked and as one whose certificate
is.  After the lab host was asked for, the other one gets its connection. -/
theorem not_followsPolicy_lab :
    let table : HostTable :=
      { defaults := { username := some "u", password := some "p" }
        hosts := [("lab", { hostname := some "win-01", protocol := some .httpsLazy }),
          ("prod", { hostname := some "win-01", protocol := some .https })] }
    let s : Surroundings := ⟨[], []⟩
    let pool := (ofTable table defaultCapacity).after [.get s 1 "lab"]
    (∃ c, (pool.get s 2 "prod").1 = .ok c ∧ c.connection.target.protocol = .httpsLazy) ∧
      (table.resolve s "prod").map Target.protocol = .ok .https ∧ ¬ FollowsPolicy table := by
  intro table s pool
  let lab : Target :=
    { Target.ofHost "win-01" with port := 5986, protocol := .httpsLazy, credentials := .basic "u" "p" }
  let prod : Target := { lab with protocol := .https }
  have hlab : table.resolve s "lab" = .ok lab := rfl
  have hprod : table.resolve s "prod" = .ok prod := rfl
  have hvalid : lab.validate.isOk = true := by
    simp only [lab]
    decide +kernel
  have hmade : Connection.ofTarget s lab = .ok ⟨lab, none⟩ := Connection.ofTarget_of_validate hvalid rfl s
  have hget : (pool.get s 2 "prod").1 = .ok ⟨0, lab, none⟩ :=
    get_shared hlab hprod rfl hmade defaultCapacity 1 2
  refine ⟨⟨_, hget, rfl⟩, by rw [hprod]; rfl, fun hfollows => ?_⟩
  obtain ⟨target, htarget, hprotocol, -⟩ := hfollows defaultCapacity _ s 2 "prod" _ hget
  obtain rfl := Except.ok.inj (hprod.symm.trans htarget)
  cases hprotocol

end Pool

end RemoteShell
