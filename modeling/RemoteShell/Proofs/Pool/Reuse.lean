import Mathlib.Data.List.Induction
import RemoteShell.Proofs.Cache.Trace
import RemoteShell.Proofs.Fingerprint
import RemoteShell.Proofs.Pool.Policy

/-!
# When a pool gives the same connection again

A pool numbers its connections, and no number is given to two of them: every one in the cache has a number of its
own that is smaller than the next one (`Ready`).  So whether two hosts got the same connection is a question of
numbers.

The connection that a host got stays under the fingerprint of the host's target until it is lost (`Event.Loses`):
evicted under any name with this fingerprint, closed with all others, or displaced by a new one.  As long as it is
not lost, who asks with this fingerprint gets it, and once it is lost its number never comes back
(`Trace.kept_or_gone`).  What is in the cache can be told from what the pool was asked for
(`Trace.find?_iff`): the connections that hosts got and that were not lost since.

Fingerprints stand for endpoints and credentials, as long as hashes do not collide (`Unambiguous`).
-/

namespace RemoteShell

namespace Pool

open Cached (Distinct)

/-- An operation and the pool that it finds. -/
structure Event where
  pool : Pool
  call : Call

namespace Event

/-- The pool behind the operation. -/
def after (x : Event) : Pool :=
  x.pool.call x.call

/-- A host with a target is given a connection. -/
def Gives (x : Event) (now : Nat) (t : Target) (c : Pooled) : Prop :=
  ∃ s host, x.call = .get s now host ∧ x.pool.table.resolve s host = .ok t ∧
    (x.pool.get s now host).1 = .ok c

/-- The connection to a host with a target is to be forgotten. -/
def Evicts (x : Event) (t : Target) : Prop :=
  ∃ s host, x.call = .evict s host ∧ x.pool.table.resolve s host = .ok t

/-- A connection has to go when another host is given one. -/
def Displaces (x : Event) (key : Fingerprint) : Prop :=
  (∃ now t c, x.Gives now t c ∧ t.fingerprint ≠ key) ∧ x.pool.cache.find? key ≠ none ∧
    x.after.cache.find? key = none

/-- The connection with a fingerprint is evicted, closed or displaced. -/
inductive Loses (x : Event) (key : Fingerprint) : Prop
  | evicted {t : Target} (evicts : x.Evicts t) (same : t.fingerprint = key)
  | closed (call_eq : x.call = .closeAll)
  | displaced (displaces : x.Displaces key)

/-- The connection with a fingerprint is neither lost nor given to a host. -/
structure Spares (x : Event) (key : Fingerprint) : Prop where
  kept : ¬ x.Loses key
  unasked : ∀ now t c, x.Gives now t c → t.fingerprint ≠ key

/-- An operation fails. -/
def Fails (x : Event) (f : Failure) : Prop :=
  (∃ s now host, x.call = .get s now host ∧ (x.pool.get s now host).1 = .error f) ∨
    ∃ s host, x.call = .evict s host ∧ (x.pool.evict s host).1 = .error f

/-- There is no target for the host of an operation, or no connection to its target. -/
def Refused (x : Event) (f : Failure) : Prop :=
  (∃ s host, (x.call = .evict s host ∨ ∃ now, x.call = .get s now host) ∧
      x.pool.table.resolve s host = .error f) ∨
    ∃ s now host t, x.call = .get s now host ∧ x.pool.table.resolve s host = .ok t ∧
      Connection.ofTarget s t = .error f

/-- What an operation does to a pool. -/
inductive Effect (x : Event) : Prop
  | failed (after_eq : x.after = x.pool)
  | found {now : Nat} {t : Target} {e : Cached Pooled} (gives : x.Gives now t e.value)
      (there : x.pool.cache.find? t.fingerprint = some e)
      (after_eq : x.after = { x.pool with
        cache := x.pool.cache.touch now t.fingerprint, next := max x.pool.next (e.value.number + 1) })
  | made {now : Nat} {t : Target} {connection : Connection} (gives : x.Gives now t ⟨x.pool.next, connection⟩)
      (absent : x.pool.cache.find? t.fingerprint = none)
      (after_eq : x.after = { x.pool with
        cache := x.pool.cache.insert now t.fingerprint ⟨x.pool.next, connection⟩, next := x.pool.next + 1 })
  | evicted {t : Target} (evicts : x.Evicts t)
      (after_eq : x.after = { x.pool with cache := x.pool.cache.without t.fingerprint })
  | closed (call_eq : x.call = .closeAll) (after_eq : x.after = { x.pool with cache := x.pool.cache.clear })

end Event

/-- The same pool, with the entries of its cache perhaps in another order. -/
structure Reorders (p q : Pool) : Prop where
  table : q.table = p.table
  next : q.next = p.next
  cache : p.cache.Reorders q.cache

/-- Some operations in a row.  Before each of them the entries of the cache may come to be in another order. -/
abbrev Trace (p : Pool) (events : List Event) (p' : Pool) : Prop :=
  Chronicle Reorders Event.pool Event.after p events p'

/-- The operations, with the entries of the cache as they are. -/
abbrev recorded (p : Pool) (calls : List Call) : List Event :=
  record Event.mk Event.after p calls

/-- The last time that a host with a fingerprint was given a connection that was not lost since. -/
def LastGet (events : List Event) (key : Fingerprint) (c : Pooled) (now : Nat) : Prop :=
  Latest (fun x => ∃ t, x.Gives now t c ∧ t.fingerprint = key) (fun y => y.Spares key) events

/-- A host with the same endpoint and credentials was given a connection that was not lost since. -/
def Held (events : List Event) (t : Target) : Prop :=
  Latest (fun x => ∃ now u c, x.Gives now u c ∧ u.Alike t) (fun y => ¬ y.Loses t.fingerprint) events

/-!
## What an operation does

A pool looks into its cache, makes a connection if there is none, and hands out the next number with it.  `Effect` lists
the five things that this comes to, with the pool behind each of them, and `Event.effect` says that there are no others.
What follows, up to the invariant `Ready`, is read off the list: no proof below opens `Pool.get` or `Pool.evict` again.
Nothing in the cache of a pool expires, so what is in it is what can be found (`Cache.fresh_of_unlimited`).
-/

variable {table : HostTable} {p q p' : Pool} {s : Surroundings} {now now' n bound capacity : Nat} {host : String}
  {t u : Target} {c d : Pooled} {e f : Cached Pooled} {key : Fingerprint} {x : Event}
  {events earlier later : List Event}

/-- A host is given a connection that is there, or a new one, or the connection cannot be made. -/
theorem get_eq (hsound : p.cache.Sound bound none) (htarget : p.table.resolve s host = .ok t) (now : Nat) :
    (∃ e, p.cache.find? t.fingerprint = some e ∧ p.get s now host = (.ok e.value,
        { p with cache := p.cache.touch now t.fingerprint, next := max p.next (e.value.number + 1) })) ∨
      (p.cache.find? t.fingerprint = none ∧
        ((∃ f, Connection.ofTarget s t = .error f ∧ p.get s now host = (.error f, p)) ∨
          ∃ connection, Connection.ofTarget s t = .ok connection ∧
            p.get s now host = (.ok ⟨p.next, connection⟩,
              { p with cache := p.cache.insert now t.fingerprint ⟨p.next, connection⟩, next := p.next + 1 }))) := by
  have halive := Cache.alive?_of_unlimited hsound.unchanged now t.fingerprint
  rw [Pool.get, htarget]
  simp only
  generalize hcreate : (fun _ : Unit => (Connection.ofTarget s t).map (Pooled.mk p.next)) = create
  have hcreated : create () = (Connection.ofTarget s t).map (Pooled.mk p.next) := by rw [← hcreate]
  cases hfind : p.cache.find? t.fingerprint with
  | some e =>
    left
    refine ⟨e, rfl, ?_⟩
    simp only [Cache.getOrCreate_of_alive (halive.trans hfind)]
  | none =>
    right
    refine ⟨rfl, ?_⟩
    cases hmade : Connection.ofTarget s t with
    | error f =>
      left
      have hfailed : create () = .error f := by rw [hcreated, hmade, Except.map]
      refine ⟨f, rfl, ?_⟩
      simp only [Cache.getOrCreate_of_error (halive.trans hfind) hfailed, Cache.without_of_find?_eq_none hfind]
    | ok connection =>
      right
      have hnew : create () = .ok ⟨p.next, connection⟩ := by rw [hcreated, hmade, Except.map]
      refine ⟨connection, rfl, ?_⟩
      simp only [Cache.getOrCreate_of_ok hsound.distinct (halive.trans hfind) hnew,
        Nat.max_eq_right (Nat.le_succ p.next)]

theorem evict_eq (htarget : p.table.resolve s host = .ok t) :
    p.evict s host =
      (.ok (p.cache.find? t.fingerprint).isSome, { p with cache := p.cache.without t.fingerprint }) := by
  simp only [Pool.evict, htarget, Cache.evict, Option.isSome_map]

/-- The call of the cache that stores a new connection. -/
def storing (p : Pool) (now : Nat) (key : Fingerprint) (c : Pooled) : Cache.Event Pooled Failure :=
  ⟨⟨0, now, .insert key c⟩, p.cache⟩

theorem stores_storing : (p.storing now key c).Stores key c :=
  .inl rfl

theorem after_storing : (p.storing now key c).after = p.cache.insert now key c := rfl

theorem fresh_storing (h : p.cache.Sound bound none) :
    (p.storing now key c).cache.fresh (p.storing now key c).now = p.cache.entries :=
  Cache.fresh_of_unlimited h.unchanged now

/-- What holds of the pools between operations: every connection has a number of its own, below the next one. -/
structure Ready (table : HostTable) (bound : Nat) (p : Pool) : Prop where
  sameTable : p.table = table
  sound : p.cache.Sound bound none
  numbered : ∀ e ∈ p.cache.entries, e.value.number < p.next
  apart : ∀ e ∈ p.cache.entries, ∀ f ∈ p.cache.entries, e.value.number = f.value.number → e.key = f.key

theorem ready_ofTable (table : HostTable) (capacity : Nat) :
    (ofTable table capacity).Ready table (max capacity 1) :=
  ⟨rfl, Cache.sound_ofCapacity capacity none, fun _ he => absurd he List.not_mem_nil,
    fun _ he => absurd he List.not_mem_nil⟩

theorem Ready.reorder (h : p.Ready table bound) (order : p.Reorders q) : q.Ready table bound := by
  have hmem : ∀ e, e ∈ q.cache.entries ↔ e ∈ p.cache.entries := fun e => order.cache.entries.mem_iff
  refine ⟨order.table.trans h.sameTable, h.sound.reorder order.cache, fun e he => ?_, fun e he f hf => ?_⟩
  · rw [order.next]
    exact h.numbered e ((hmem e).1 he)
  · exact h.apart e ((hmem e).1 he) f ((hmem f).1 hf)

theorem Ready.find?_reorder (h : p.Ready table bound) (order : p.Reorders q) (key : Fingerprint) :
    q.cache.find? key = p.cache.find? key :=
  Cached.find?_eq_of_perm h.sound.distinct order.cache.entries

namespace Event

/-- **What an operation does** is one of five things. -/
theorem effect (hsound : x.pool.cache.Sound bound none) : x.Effect := by
  cases hcall : x.call with
  | get s now host =>
    have hafter : x.after = (x.pool.get s now host).2 := by rw [after, hcall, Pool.call]
    cases htarget : x.pool.table.resolve s host with
    | error f =>
      have hget : x.pool.get s now host = (.error f, x.pool) := by rw [Pool.get, htarget]
      exact .failed (by rw [hafter, hget])
    | ok t =>
      rcases get_eq hsound htarget now with
        ⟨e, hfind, hget⟩ | ⟨hfind, ⟨f, -, hget⟩ | ⟨connection, -, hget⟩⟩
      · exact .found ⟨s, host, hcall, htarget, by rw [hget]⟩ hfind (by rw [hafter, hget])
      · exact .failed (by rw [hafter, hget])
      · exact .made ⟨s, host, hcall, htarget, by rw [hget]⟩ hfind (by rw [hafter, hget])
  | evict s host =>
    have hafter : x.after = (x.pool.evict s host).2 := by rw [after, hcall, Pool.call]
    cases htarget : x.pool.table.resolve s host with
    | error f =>
      have hevict : x.pool.evict s host = (.error f, x.pool) := by rw [Pool.evict, htarget]
      exact .failed (by rw [hafter, hevict])
    | ok t => exact .evicted ⟨s, host, hcall, htarget⟩ (by rw [hafter, evict_eq htarget])
  | closeAll => exact .closed hcall (by rw [after, hcall, Pool.call, closeAll])

theorem gives_unique (h : x.Gives now t c) (h' : x.Gives now' u d) : now = now' ∧ t = u ∧ c = d := by
  obtain ⟨s, host, hcall, htarget, hget⟩ := h
  obtain ⟨s', host', hcall', htarget', hget'⟩ := h'
  cases hcall.symm.trans hcall'
  exact ⟨rfl, Except.ok.inj (htarget.symm.trans htarget'), Except.ok.inj (hget.symm.trans hget')⟩

/-- A host is given the connection that is there, or a new one. -/
theorem after_of_gives (hsound : x.pool.cache.Sound bound none) (h : x.Gives now t c) :
    (∃ e, x.pool.cache.find? t.fingerprint = some e ∧ e.value = c ∧ x.after = { x.pool with
        cache := x.pool.cache.touch now t.fingerprint, next := max x.pool.next (c.number + 1) }) ∨
      (x.pool.cache.find? t.fingerprint = none ∧ c.number = x.pool.next ∧ x.after = { x.pool with
        cache := x.pool.cache.insert now t.fingerprint c, next := x.pool.next + 1 }) := by
  obtain ⟨s, host, hcall, htarget, hgiven⟩ := h
  have hafter : x.after = (x.pool.get s now host).2 := by rw [after, hcall, Pool.call]
  rcases get_eq hsound htarget now with
    ⟨e, hfind, hget⟩ | ⟨hfind, ⟨f, -, hget⟩ | ⟨connection, -, hget⟩⟩ <;> rw [hget] at hgiven hafter
  · obtain rfl := Except.ok.inj hgiven
    exact .inl ⟨e, hfind, rfl, hafter⟩
  · cases hgiven
  · obtain rfl := Except.ok.inj hgiven
    exact .inr ⟨hfind, rfl, hafter⟩

/-- A host is given a connection if one can be made. -/
theorem exists_gives (hsound : x.pool.cache.Sound bound none) (hcall : x.call = .get s now host)
    (htarget : x.pool.table.resolve s host = .ok t) {connection : Connection}
    (hmade : Connection.ofTarget s t = .ok connection) : ∃ c, x.Gives now t c := by
  rcases get_eq hsound htarget now with ⟨e, -, hget⟩ | ⟨-, ⟨f, hfailed, -⟩ | ⟨connection', -, hget⟩⟩
  · exact ⟨_, s, host, hcall, htarget, by rw [hget]⟩
  · cases hmade.symm.trans hfailed
  · exact ⟨_, s, host, hcall, htarget, by rw [hget]⟩

/-- **What fails** is refused, and changes nothing. -/
theorem refused_of_fails (hsound : x.pool.cache.Sound bound none) {f : Failure} (h : x.Fails f) :
    x.Refused f ∧ x.after = x.pool := by
  rcases h with ⟨s, now, host, hcall, hfailed⟩ | ⟨s, host, hcall, hfailed⟩
  · have hafter : x.after = (x.pool.get s now host).2 := by rw [after, hcall, Pool.call]
    cases htarget : x.pool.table.resolve s host with
    | error g =>
      have hget : x.pool.get s now host = (.error g, x.pool) := by rw [Pool.get, htarget]
      rw [hget] at hfailed hafter
      obtain rfl := Except.error.inj hfailed
      exact ⟨.inl ⟨s, host, .inr ⟨now, hcall⟩, htarget⟩, hafter⟩
    | ok t =>
      rcases get_eq hsound htarget now with
        ⟨e, -, hget⟩ | ⟨-, ⟨g, hmade, hget⟩ | ⟨connection, -, hget⟩⟩ <;> rw [hget] at hfailed hafter
      · cases hfailed
      · obtain rfl := Except.error.inj hfailed
        exact ⟨.inr ⟨s, now, host, t, hcall, htarget, hmade⟩, hafter⟩
      · cases hfailed
  · have hafter : x.after = (x.pool.evict s host).2 := by rw [after, hcall, Pool.call]
    cases htarget : x.pool.table.resolve s host with
    | error g =>
      have hevict : x.pool.evict s host = (.error g, x.pool) := by rw [Pool.evict, htarget]
      rw [hevict] at hfailed hafter
      obtain rfl := Except.error.inj hfailed
      exact ⟨.inl ⟨s, host, .inl hcall, htarget⟩, hafter⟩
    | ok t =>
      rw [evict_eq htarget] at hfailed
      cases hfailed

/-- **Who is given a connection** leaves it under the fingerprint of the target. -/
theorem find?_of_gives (hsound : x.pool.cache.Sound bound none) (h : x.Gives now t c) :
    x.after.cache.find? t.fingerprint = some ⟨t.fingerprint, c, now⟩ := by
  rcases after_of_gives hsound h with ⟨e, hfind, rfl, hafter⟩ | ⟨-, -, hafter⟩
  · rw [hafter, Cache.find?_touch_self hfind]
  · rw [hafter, Cache.find?_insert_self]

/-- **A connection that is lost is not there.** -/
theorem find?_of_loses (h : x.Loses key) : x.after.cache.find? key = none := by
  cases h with
  | evicted evicts same =>
    obtain ⟨s, host, hcall, htarget⟩ := evicts
    rw [after, hcall, Pool.call, evict_eq htarget, same]
    exact Cache.find?_without_self x.pool.cache key
  | closed call_eq =>
    rw [after, call_eq]
    rfl
  | displaced displaces => exact displaces.2.2

/-- **A connection that is spared stays as it is.** -/
theorem find?_of_spares (hsound : x.pool.cache.Sound bound none) (hbound : 0 < bound) (h : x.Spares key) :
    x.after.cache.find? key = x.pool.cache.find? key := by
  cases effect hsound with
  | failed hafter => rw [hafter]
  | found gives _ hafter => rw [hafter, Cache.find?_touch_of_ne (h.unasked _ _ _ gives).symm]
  | @made now t connection gives _ hafter =>
    have hne := h.unasked _ _ _ gives
    have hkept := hsound.find?_insert hbound now ⟨x.pool.next, connection⟩ hne.symm
    rw [Cache.alive?_of_unlimited hsound.unchanged] at hkept
    rcases hkept with hkept | hgone
    · rw [hafter, hkept]
    · have hafter' : x.after.cache.find? key = none := by rw [hafter, hgone]
      rw [hafter']
      by_contra hthere
      exact h.kept (.displaced ⟨⟨_, _, _, gives, hne⟩, Ne.symm hthere, hafter'⟩)
  | evicted evicts hafter =>
    have hne : key ≠ _ := fun hsame => h.kept (.evicted evicts hsame.symm)
    rw [hafter, Cache.find?_without_of_ne hsound.distinct hne]
  | closed call_eq => exact absurd (.closed call_eq) h.kept

/-- A connection behind an operation was there before, or is a new one with the next number. -/
theorem mem_after (hsound : x.pool.cache.Sound bound none) (hbound : 0 < bound) (hf : f ∈ x.after.cache.entries) :
    (∃ e ∈ x.pool.cache.entries, e.key = f.key ∧ e.value = f.value) ∨
      (f.value.number = x.pool.next ∧ x.after.next = x.pool.next + 1 ∧
        ∃ now t, x.Gives now t f.value ∧ t.fingerprint = f.key) := by
  cases effect hsound with
  | failed hafter =>
    rw [hafter] at hf
    exact .inl ⟨f, hf, rfl, rfl⟩
  | found _ _ hafter =>
    rw [hafter] at hf
    obtain ⟨e, he, rfl⟩ := List.mem_map.1 hf
    refine .inl ⟨e, he, ?_⟩
    split <;> exact ⟨rfl, rfl⟩
  | @made now t connection gives _ hafter =>
    rw [hafter, ← after_storing] at hf
    rcases (Cache.Event.mem_after_of_stores hsound hbound stores_storing).1 hf with rfl | ⟨hfresh, -, -⟩
    · exact .inr ⟨rfl, by rw [hafter], now, t, gives, rfl⟩
    · exact .inl ⟨f, (Cache.mem_fresh.1 hfresh).1, rfl, rfl⟩
  | evicted _ hafter =>
    rw [hafter] at hf
    exact .inl ⟨f, (Cached.mem_without.1 hf).1, rfl, rfl⟩
  | closed _ hafter =>
    rw [hafter] at hf
    exact absurd hf List.not_mem_nil

theorem next_le_after (hsound : x.pool.cache.Sound bound none) : x.pool.next ≤ x.after.next := by
  cases effect hsound with
  | failed hafter => exact Nat.le_of_eq (congrArg Pool.next hafter).symm
  | found _ _ hafter => exact Nat.le_trans (Nat.le_max_left _ _) (Nat.le_of_eq (congrArg Pool.next hafter).symm)
  | made _ _ hafter => exact Nat.le_trans (Nat.le_succ _) (Nat.le_of_eq (congrArg Pool.next hafter).symm)
  | evicted _ hafter => exact Nat.le_of_eq (congrArg Pool.next hafter).symm
  | closed _ hafter => exact Nat.le_of_eq (congrArg Pool.next hafter).symm

theorem sound_after (hsound : x.pool.cache.Sound bound none) (hbound : 0 < bound) :
    x.after.cache.Sound bound none := by
  cases effect hsound with
  | failed hafter => exact hafter ▸ hsound
  | found _ _ hafter => exact hafter ▸ hsound.touch _ _
  | made _ _ hafter => exact hafter ▸ hsound.insert hbound _ _ _
  | evicted _ hafter => exact hafter ▸ hsound.without _
  | closed _ hafter => exact hafter ▸ hsound.clear

theorem table_after (hsound : x.pool.cache.Sound bound none) : x.after.table = x.pool.table := by
  cases effect hsound with
  | failed hafter => rw [hafter]
  | found _ _ hafter => rw [hafter]
  | made _ _ hafter => rw [hafter]
  | evicted _ hafter => rw [hafter]
  | closed _ hafter => rw [hafter]

/-- **One operation** keeps every number to one connection. -/
theorem ready_after (h : x.pool.Ready table bound) (hbound : 0 < bound) : x.after.Ready table bound := by
  have hmem := fun f => mem_after (f := f) h.sound hbound
  refine ⟨(table_after h.sound).trans h.sameTable, sound_after h.sound hbound, fun f hf => ?_,
    fun f hf g hg hsame => ?_⟩
  · rcases hmem f hf with ⟨e, he, -, hvalue⟩ | ⟨hnumber, hnext, -⟩
    · rw [← hvalue]
      exact Nat.lt_of_lt_of_le (h.numbered e he) (next_le_after h.sound)
    · omega
  · -- of two entries with one number either both were there before, or both are the new one
    rcases hmem f hf with ⟨e, he, hkey, hvalue⟩ | ⟨hnumber, -, now, t, hgives, hkey⟩ <;>
      rcases hmem g hg with ⟨e', he', hkey', hvalue'⟩ | ⟨hnumber', -, now', t', hgives', hkey'⟩
    · rw [← hkey, ← hkey']
      exact h.apart e he e' he' (by rw [hvalue, hvalue', hsame])
    · have hlt := h.numbered e he
      rw [hvalue] at hlt
      omega
    · have hlt := h.numbered e' he'
      rw [hvalue'] at hlt
      omega
    · obtain ⟨-, rfl, -⟩ := gives_unique hgives hgives'
      exact hkey.symm.trans hkey'

/-- The number of a connection that was given is below the next one. -/
theorem number_lt_of_gives (h : x.pool.Ready table bound) (hbound : 0 < bound) (hgives : x.Gives now t c) :
    c.number < x.after.next := by
  have hfind := find?_of_gives h.sound hgives
  exact (ready_after h hbound).numbered _ (List.mem_of_find?_eq_some hfind)

end Event

/-- **What is displaced** when there is no room for a new connection: one that was not used after any other. -/
theorem Event.oldest_of_displaces (h : x.pool.Ready table bound) (hbound : 0 < bound) (hdisplaces : x.Displaces key) :
    (∃ now t c, x.Gives now t c ∧ c.number = x.pool.next) ∧ x.pool.cache.size = bound ∧
      ∀ e, x.pool.cache.find? key = some e → ∀ f ∈ x.pool.cache.entries, e.lastUsed ≤ f.lastUsed := by
  obtain ⟨⟨now, t, c, hgives, hne⟩, hthere, hgone⟩ := hdisplaces
  rcases after_of_gives h.sound hgives with ⟨e, hfind, rfl, hafter⟩ | ⟨-, hnumber, hafter⟩
  · rw [hafter, Cache.find?_touch_of_ne hne.symm] at hgone
    exact absurd hgone hthere
  · rw [hafter, ← after_storing] at hgone
    rw [← Cache.alive?_of_unlimited h.sound.unchanged now] at hthere
    have hdisplaces : (x.pool.storing now t.fingerprint c).Displaces key :=
      ⟨⟨t.fingerprint, c, stores_storing, hne.symm⟩, hthere, hgone⟩
    obtain ⟨-, -, o, -, -, hfull, ho, hkey, hleast⟩ :=
      Cache.Event.oldest_of_displaces h.sound hbound hdisplaces
    rw [fresh_storing h.sound] at hfull ho hleast
    refine ⟨⟨now, t, c, hgives, hnumber⟩, hfull, fun e he f hf => ?_⟩
    have hsame : some o = some e :=
      ((Cached.find?_eq_some_iff h.sound.distinct).2 ⟨ho, hkey⟩).symm.trans he
    cases hsame
    exact hleast f hf

/-!
## Connections that are gone

That a connection is lost is said of a fingerprint, and under this fingerprint there may soon be another connection.
What never comes back is the number.  So what is kept along a run is that nobody has the number (`Gone`), and not that
nothing is found under the fingerprint.
-/

/-- The connection with a number is not there, and no new one will have the number. -/
structure Gone (n : Nat) (p : Pool) : Prop where
  past : n < p.next
  absent : ∀ e ∈ p.cache.entries, e.value.number ≠ n

theorem Gone.reorder (h : p.Gone n) (order : p.Reorders q) : q.Gone n :=
  ⟨order.next ▸ h.past, fun e he => h.absent e (order.cache.entries.mem_iff.1 he)⟩

namespace Event

theorem gone_after (hsound : x.pool.cache.Sound bound none) (hbound : 0 < bound) (h : x.pool.Gone n) :
    x.after.Gone n := by
  refine ⟨Nat.lt_of_lt_of_le h.past (next_le_after hsound), fun f hf => ?_⟩
  rcases mem_after hsound hbound hf with ⟨e, he, -, hvalue⟩ | ⟨hnumber, -, -⟩
  · rw [← hvalue]
    exact h.absent e he
  · rw [hnumber]
    exact (Nat.ne_of_lt h.past).symm

/-- **What is lost is gone.** -/
theorem gone_of_loses (h : x.pool.Ready table bound) (hbound : 0 < bound)
    (hfind : x.pool.cache.find? key = some e) (hloses : x.Loses key) : x.after.Gone e.value.number := by
  have he : e ∈ x.pool.cache.entries := List.mem_of_find?_eq_some hfind
  have hnone := Cached.find?_eq_none_iff.1 (find?_of_loses hloses)
  refine ⟨Nat.lt_of_lt_of_le (h.numbered e he) (next_le_after h.sound), fun f hf hsame => ?_⟩
  rcases mem_after h.sound hbound hf with ⟨e', he', hkey, hvalue⟩ | ⟨hnumber, -, -⟩
  · have hkeys : e'.key = e.key := h.apart e' he' e he (by rw [hvalue, hsame])
    exact hnone f hf (hkey.symm.trans (hkeys.trans (Cache.key_of_find? hfind)))
  · have hlt := h.numbered e he
    omega

/-- Nobody is given a connection that is gone. -/
theorem number_ne_of_gone (hsound : x.pool.cache.Sound bound none) (h : x.pool.Gone n)
    (hgives : x.Gives now t c) : c.number ≠ n := by
  rcases after_of_gives hsound hgives with ⟨e, hfind, rfl, -⟩ | ⟨-, hnumber, -⟩
  · exact h.absent e (List.mem_of_find?_eq_some hfind)
  · have hpast := h.past
    omega

/-- Who is given the connection of an entry asks with its key. -/
theorem key_of_number (h : x.pool.Ready table bound) (hfind : x.pool.cache.find? key = some e)
    (hgives : x.Gives now t c) (hsame : e.value.number = c.number) : t.fingerprint = key := by
  have he : e ∈ x.pool.cache.entries := List.mem_of_find?_eq_some hfind
  rcases after_of_gives h.sound hgives with ⟨e', hfind', rfl, -⟩ | ⟨-, hnumber, -⟩
  · have hkeys := h.apart e he e' (List.mem_of_find?_eq_some hfind') hsame
    exact (Cache.key_of_find? hfind').symm.trans (hkeys.symm.trans (Cache.key_of_find? hfind))
  · have hlt := h.numbered e he
    omega

end Event

/-!
## Traces

Between two operations the entries may come to be in another order, which neither `Ready` nor `Gone` can tell.  So both
hold along a whole trace, and with them there are three statements about traces from which all others come: a
connection is kept or gone (`Trace.kept_or_gone`), what is absent stays absent as long as nobody asks for it
(`Trace.absent`), and numbers only grow (`Trace.number_lt`).
-/

theorem Reorders.refl (p : Pool) : p.Reorders p :=
  ⟨rfl, rfl, .refl p.cache⟩

/-- There is a trace of any operations. -/
theorem trace_recorded (p : Pool) (calls : List Call) :
    (∃ p', Trace p (recorded p calls) p') ∧ (recorded p calls).map Event.call = calls :=
  chronicle_record Reorders.refl (fun _ _ => rfl) (fun _ _ => rfl) p calls

theorem Trace.split (h : Trace p (earlier ++ x :: later) p') :
    ∃ q, Trace p earlier q ∧ q.Reorders x.pool ∧ Trace x.after later p' :=
  Chronicle.split h

theorem Trace.ready (h : Trace p events p') (hready : p.Ready table bound) (hbound : 0 < bound) :
    p'.Ready table bound :=
  h.preserved (fun _ _ order hp => hp.reorder order) (fun _ _ hx => Event.ready_after hx hbound) hready

theorem Trace.ready_of_mem (h : Trace p events p') (hready : p.Ready table bound) (hbound : 0 < bound)
    (hx : x ∈ events) : x.pool.Ready table bound :=
  h.holds_of_mem (fun _ _ order hp => hp.reorder order) (fun _ _ hx => Event.ready_after hx hbound) hready hx

/-- **A connection stays as long as it is not lost**, and then it is gone. -/
theorem Trace.kept_or_gone (h : Trace p events p') (hready : p.Ready table bound) (hbound : 0 < bound)
    (hfind : p.cache.find? key = some e) :
    ((∀ x ∈ events, ¬ x.Loses key) ∧ ∃ e', p'.cache.find? key = some e' ∧ e'.value = e.value) ∨
      ((∃ x ∈ events, x.Loses key) ∧ p'.Gone e.value.number) := by
  -- from the front, up to the first loss; a use puts another entry there, but with the same connection
  induction h generalizing e with
  | nil => exact .inl ⟨fun _ hx => absurd hx List.not_mem_nil, e, hfind, rfl⟩
  | @cons p p' x events order rest ih =>
    have hx := hready.reorder order
    have hfind' := (hready.find?_reorder order key).trans hfind
    by_cases hloses : x.Loses key
    · right
      refine ⟨⟨x, List.mem_cons_self, hloses⟩, ?_⟩
      have hkept : x.after.Ready table bound ∧ x.after.Gone e.value.number :=
        ⟨Event.ready_after hx hbound, Event.gone_of_loses hx hbound hfind' hloses⟩
      have hend := rest.preserved (P := fun q => q.Ready table bound ∧ q.Gone e.value.number)
        (fun _ _ order hq => ⟨hq.1.reorder order, hq.2.reorder order⟩)
        (fun _ _ hy => ⟨Event.ready_after hy.1 hbound, Event.gone_after hy.1.sound hbound hy.2⟩) hkept
      exact hend.2
    · obtain ⟨e₁, hfind₁, hvalue₁⟩ : ∃ e₁, x.after.cache.find? key = some e₁ ∧ e₁.value = e.value := by
        by_cases hgives : ∃ now t c, x.Gives now t c ∧ t.fingerprint = key
        · obtain ⟨now, t, c, hgives, rfl⟩ := hgives
          refine ⟨_, Event.find?_of_gives hx.sound hgives, ?_⟩
          rcases Event.after_of_gives hx.sound hgives with ⟨e', hfind₂, rfl, -⟩ | ⟨hnone, -, -⟩
          · have hsame : e' = e := Option.some.inj (hfind₂.symm.trans hfind')
            have hvalue : e'.value = e.value := congrArg Cached.value hsame
            exact hvalue
          · cases hfind'.symm.trans hnone
        · have hspares : x.Spares key := ⟨hloses, fun now t c hg hsame => hgives ⟨now, t, c, hg, hsame⟩⟩
          exact ⟨e, (Event.find?_of_spares hx.sound hbound hspares).trans hfind', rfl⟩
      rcases ih (Event.ready_after hx hbound) hfind₁ with ⟨hothers, e', hfind₂, hvalue₂⟩ | ⟨hlost, hgone⟩
      · exact .inl ⟨List.forall_mem_cons.2 ⟨hloses, hothers⟩, e', hfind₂, hvalue₂.trans hvalue₁⟩
      · obtain ⟨y, hy, hloses'⟩ := hlost
        exact .inr ⟨⟨y, List.mem_cons_of_mem x hy, hloses'⟩, hvalue₁ ▸ hgone⟩

/-- What is not there is not there as long as nobody asks for it. -/
theorem Trace.absent (h : Trace p events p') (hready : p.Ready table bound) (hbound : 0 < bound)
    (hfind : p.cache.find? key = none) (hunasked : ∀ x ∈ events, ∀ now t c, x.Gives now t c → t.fingerprint ≠ key) :
    p'.cache.find? key = none := by
  have hend := h.preserved (P := fun q => q.Ready table bound ∧ q.cache.find? key = none)
    (fun _ _ order hq => ⟨hq.1.reorder order, (hq.1.find?_reorder order key).trans hq.2⟩)
    (fun x hx hq => ?_) ⟨hready, hfind⟩
  · exact hend.2
  · refine ⟨Event.ready_after hq.1 hbound, ?_⟩
    by_cases hloses : x.Loses key
    · exact Event.find?_of_loses hloses
    · exact (Event.find?_of_spares hq.1.sound hbound ⟨hloses, hunasked x hx⟩).trans hq.2

/-- The numbers of connections that were given are below the next one. -/
theorem Trace.number_lt (h : Trace p events p') (hready : p.Ready table bound) (hbound : 0 < bound)
    (hx : x ∈ events) (hgives : x.Gives now t c) : c.number < p'.next := by
  obtain ⟨earlier, later, rfl⟩ := List.append_of_mem hx
  obtain ⟨q, hearlier, order, hlater⟩ := h.split
  have hx := (hearlier.ready hready hbound).reorder order
  have hend := hlater.preserved (P := fun q => q.Ready table bound ∧ c.number < q.next)
    (fun _ _ order hq => ⟨hq.1.reorder order, order.next ▸ hq.2⟩)
    (fun _ _ hy => ⟨Event.ready_after hy.1 hbound, Nat.lt_of_lt_of_le hy.2 (Event.next_le_after hy.1.sound)⟩)
    ⟨Event.ready_after hx hbound, Event.number_lt_of_gives hx hbound hgives⟩
  exact hend.2

/-- **What is in the cache** are the connections that hosts got last and that were not lost since. -/
theorem Trace.find?_iff (h : Trace (ofTable table capacity) events p') :
    p'.cache.find? key = some ⟨key, c, now⟩ ↔ LastGet events key c now := by
  have hbound : 0 < max capacity 1 := Nat.le_max_right capacity 1
  -- from the back, since the last operation decides if it gives or loses the connection, and else those before it
  induction events using List.reverseRecOn generalizing p' with
  | nil =>
    cases h
    exact iff_of_false nofun not_latest_nil
  | append_singleton events x ih =>
    obtain ⟨q, hearlier, order, hrest⟩ := h.split
    cases hrest
    have hq := hearlier.ready (ready_ofTable table capacity) hbound
    have hx := hq.reorder order
    have hbefore : LastGet events key c now ↔ x.pool.cache.find? key = some ⟨key, c, now⟩ := by
      rw [hq.find?_reorder order key]
      exact (ih hearlier).symm
    rw [LastGet, latest_concat, ← LastGet, hbefore]
    by_cases hgives : ∃ now t c, x.Gives now t c ∧ t.fingerprint = key
    · obtain ⟨now', t, d, hgives, rfl⟩ := hgives
      rw [Event.find?_of_gives hx.sound hgives]
      constructor
      · intro hsame
        cases hsame
        exact .inl ⟨t, hgives, rfl⟩
      · rintro (⟨u, hgives', -⟩ | ⟨-, hspares⟩)
        · obtain ⟨rfl, -, rfl⟩ := Event.gives_unique hgives hgives'
          rfl
        · exact absurd rfl (hspares.unasked now' t d hgives)
    · have hunasked : ∀ now t c, x.Gives now t c → t.fingerprint ≠ key :=
        fun now t c hg hsame => hgives ⟨now, t, c, hg, hsame⟩
      have hother : ¬ ∃ t, x.Gives now t c ∧ t.fingerprint = key := fun ⟨t, hg⟩ => hgives ⟨now, t, c, hg⟩
      rw [or_iff_right hother]
      by_cases hloses : x.Loses key
      · rw [Event.find?_of_loses hloses]
        exact iff_of_false nofun fun hspares => hspares.2.kept hloses
      · have hspares : x.Spares key := ⟨hloses, hunasked⟩
        rw [Event.find?_of_spares hx.sound hbound hspares, and_iff_left hspares]

/-- There is a connection for a target if and only if one is held, as long as fingerprints tell the targets
apart. -/
theorem Trace.isSome_find?_iff (h : Trace (ofTable table capacity) events p')
    (hclear : ∀ x ∈ events, ∀ now u c, x.Gives now u c → (u.fingerprint = t.fingerprint ↔ u.Alike t)) :
    (p'.cache.find? t.fingerprint).isSome = true ↔ Held events t := by
  have hbound : 0 < max capacity 1 := Nat.le_max_right capacity 1
  constructor
  · intro hsome
    obtain ⟨e, he⟩ := Option.isSome_iff_exists.1 hsome
    have hlast : LastGet events t.fingerprint e.value e.lastUsed := by
      rw [← h.find?_iff, he, ← Cache.key_of_find? he]
    obtain ⟨before, x, between, rfl, ⟨u, hgives, hsame⟩, hspares⟩ := hlast
    have hx : x ∈ before ++ x :: between := by simp
    exact ⟨before, x, between, rfl, ⟨_, u, _, hgives, (hclear x hx _ u _ hgives).1 hsame⟩,
      fun z hz => (hspares z hz).kept⟩
  · rintro ⟨before, x, between, rfl, ⟨now, u, c, hgives, halike⟩, hkept⟩
    have hready := h.ready_of_mem (ready_ofTable table capacity) hbound (x := x) (by simp)
    obtain ⟨q, -, -, hrest⟩ := h.split
    have hfind := Event.find?_of_gives hready.sound hgives
    rw [halike.fingerprint] at hfind
    rcases hrest.kept_or_gone (Event.ready_after hready hbound) hbound hfind with
      ⟨-, e, he, -⟩ | ⟨⟨z, hz, hloses⟩, -⟩
    · rw [he, Option.isSome_some]
    · exact absurd hloses (hkept z hz)

/-!
## Main result

The parts of `Reuses` are about two operations in a trace, the first one or the second one, with everything between
them.  A trace is split at both, so that the statements about traces apply to what is before, between and behind.  They
speak of fingerprints; only at the end are fingerprints replaced by endpoints and credentials, for the targets that
were asked for.
-/

/-- A host is asked for whose target is this. -/
def Asked (table : HostTable) (calls : List Call) (t : Target) : Prop :=
  ∃ s host, ((∃ now, .get s now host ∈ calls) ∨ .evict s host ∈ calls) ∧ table.resolve s host = .ok t

/-- The hashes of what is asked for do not collide, and the texts that are hashed are not longer than texts can
be. -/
structure Unambiguous (table : HostTable) (calls : List Call) : Prop where
  short : ∀ t, Asked table calls t → ∀ mark ∈ t.marks, (Utf8.encode mark).length < 2 ^ 64
  collisionFree : ∀ t u, Asked table calls t → Asked table calls u →
    Sha256.digest t.preimage = Sha256.digest u.preimage → t.preimage = u.preimage

theorem Unambiguous.fingerprint_eq_iff {calls : List Call} (h : Unambiguous table calls) (ht : Asked table calls t)
    (hu : Asked table calls u) : t.fingerprint = u.fingerprint ↔ t.Alike u :=
  Target.fingerprint_eq_iff (h.short t ht) (h.short u hu) (h.collisionFree t u ht hu)

/-- How a pool uses connections again. -/
structure Reuses (bound : Nat) (events : List Event) : Prop where
  /-- Two hosts are given the same connection if and only if they have the same endpoint and credentials and it
  was not lost in between. -/
  same : ∀ earlier x between y later now t c now' u d, events = earlier ++ x :: (between ++ y :: later) →
    x.Gives now t c → y.Gives now' u d →
      (c.number = d.number ↔ t.Alike u ∧ ∀ z ∈ between, ¬ z.Loses t.fingerprint) ∧
        (c.number = d.number → c = d)
  /-- A connection is displaced only by a new one for which there is no room, and only if no other connection was
  used last before it. -/
  displaced : ∀ earlier x later key, events = earlier ++ x :: later → x.Displaces key →
    (∃ now t c, x.Gives now t c ∧ c.number = x.pool.next) ∧ x.pool.cache.size = bound ∧
      ∀ c used key' c' used', LastGet earlier key c used → LastGet earlier key' c' used' → used ≤ used'
  /-- A connection is evicted if and only if a host with the same endpoint and credentials was given it and it was
  not lost since. -/
  evicted : ∀ earlier x later s host t, events = earlier ++ x :: later → x.call = .evict s host →
    x.pool.table.resolve s host = .ok t → ∃ held, (x.pool.evict s host).1 = .ok held ∧
      (held = true ↔ Held earlier t)
  /-- Who is the first to ask for it again gets what comes of making a connection, and a connection that is made
  has a number that nobody was given before. -/
  renewed : ∀ earlier x between y later s host t s' now host' u,
    events = earlier ++ x :: (between ++ y :: later) → x.call = .evict s host →
      x.pool.table.resolve s host = .ok t → y.call = .get s' now host' →
        y.pool.table.resolve s' host' = .ok u → u.Alike t →
          (∀ z ∈ between, ∀ now v c, z.Gives now v c → ¬ v.Alike t) →
            (y.pool.get s' now host').1 = (Connection.ofTarget s' u).map (Pooled.mk y.pool.next) ∧
              ∀ z ∈ earlier ++ x :: between, ∀ now v c, z.Gives now v c → c.number ≠ y.pool.next
  /-- An operation fails only because there is no target, or no connection to it, and then changes nothing. -/
  failed : ∀ x ∈ events, ∀ f, x.Fails f → x.Refused f ∧ x.after = x.pool
  room : ∀ x ∈ events, x.after.cache.size ≤ bound

section Asked

variable {calls : List Call}

theorem Event.asked_of_gives (hx : x.call ∈ calls) (htable : x.pool.table = table) (h : x.Gives now t c) :
    Asked table calls t := by
  obtain ⟨s, host, hcall, htarget, -⟩ := h
  exact ⟨s, host, .inl ⟨now, hcall ▸ hx⟩, htable ▸ htarget⟩

theorem Event.asked_of_evicts (hx : x.call ∈ calls) (htable : x.pool.table = table) (h : x.Evicts t) :
    Asked table calls t := by
  obtain ⟨s, host, hcall, htarget⟩ := h
  exact ⟨s, host, .inr (hcall ▸ hx), htable ▸ htarget⟩

end Asked

/-- **Two hosts are given the same connection** if they ask with the same fingerprint and it was not lost in
between. -/
theorem Trace.same_iff {y : Event} {between : List Event} (hready : x.pool.Ready table bound) (hbound : 0 < bound)
    (hbetween : Trace x.after between q) (order : q.Reorders y.pool) (hx : x.Gives now t c)
    (hy : y.Gives now' u d) :
    (c.number = d.number ↔ t.fingerprint = u.fingerprint ∧ ∀ z ∈ between, ¬ z.Loses t.fingerprint) ∧
      (c.number = d.number → c = d) := by
  have hafter := Event.ready_after hready hbound
  have hfind := Event.find?_of_gives hready.sound hx
  have hq := hbetween.ready hafter hbound
  have hy' := hq.reorder order
  rcases hbetween.kept_or_gone hafter hbound hfind with ⟨hkept, e, he, hvalue⟩ | ⟨⟨z, hz, hloses⟩, hgone⟩
  · have he' : y.pool.cache.find? t.fingerprint = some e := (hq.find?_reorder order _).trans he
    have hc : e.value = c := hvalue
    have hgiven : t.fingerprint = u.fingerprint → d = c := by
      intro hkey
      rcases Event.after_of_gives hy'.sound hy with ⟨e', hfind', rfl, -⟩ | ⟨hnone, -, -⟩
      · rw [← hkey, he'] at hfind'
        cases hfind'
        exact hc
      · rw [← hkey, he'] at hnone
        cases hnone
    have hkey : c.number = d.number → t.fingerprint = u.fingerprint := fun hsame =>
      (Event.key_of_number hy' he' hy (hc.symm ▸ hsame)).symm
    exact ⟨⟨fun hsame => ⟨hkey hsame, hkept⟩, fun h => congrArg Pooled.number (hgiven h.1).symm⟩,
      fun hsame => (hgiven (hkey hsame)).symm⟩
  · have hne : c.number ≠ d.number :=
      (Event.number_ne_of_gone hy'.sound (hgone.reorder order) hy).symm
    exact ⟨iff_of_false hne fun h => h.2 z hz hloses, fun hsame => absurd hsame hne⟩

/-- Without a connection for it, a target gets what comes of making one. -/
theorem get_of_find?_eq_none (hsound : p.cache.Sound bound none) (htarget : p.table.resolve s host = .ok t)
    (hnone : p.cache.find? t.fingerprint = none) (now : Nat) :
    (p.get s now host).1 = (Connection.ofTarget s t).map (Pooled.mk p.next) := by
  rcases get_eq hsound htarget now with ⟨e, hfind, -⟩ | ⟨-, ⟨f, hmade, hget⟩ | ⟨connection, hmade, hget⟩⟩
  · cases hfind.symm.trans hnone
  · rw [hget, hmade, Except.map]
  · rw [hget, hmade, Except.map]

/-- **What is evicted** is not there before somebody asks for it again. -/
theorem Trace.find?_of_evicts {y : Event} {between : List Event} (hready : x.pool.Ready table bound)
    (hbound : 0 < bound) (hevicts : x.Evicts t) (hbetween : Trace x.after between q) (order : q.Reorders y.pool)
    (hunasked : ∀ z ∈ between, ∀ now v c, z.Gives now v c → v.fingerprint ≠ t.fingerprint) :
    y.pool.cache.find? t.fingerprint = none := by
  have hafter := Event.ready_after hready hbound
  rw [(hbetween.ready hafter hbound).find?_reorder order]
  exact hbetween.absent hafter hbound (Event.find?_of_loses (.evicted hevicts rfl)) hunasked

/-- **When a pool uses connections again.**  For every table of hosts, every capacity and all operations, as long
as the hashes of what is asked for do not collide, at whatever instants, in whatever surroundings, and whatever
order the entries of the cache are in each time: the operations can be performed, and the pool uses connections
again as `Reuses` says. -/
theorem trace_reuses (table : HostTable) (capacity : Nat) (calls : List Call)
    (hclear : Unambiguous table calls) :
    (∃ events p', Trace (ofTable table capacity) events p' ∧ events.map (·.call) = calls) ∧
      ∀ events p', Trace (ofTable table capacity) events p' → events.map (·.call) = calls →
        p'.cache.size ≤ max capacity 1 ∧ Reuses (max capacity 1) events := by
  have hbound : 0 < max capacity 1 := Nat.le_max_right capacity 1
  have hstart := ready_ofTable table capacity
  refine ⟨?_, fun events p' h hcalls => ?_⟩
  · obtain ⟨⟨p', h⟩, hcalls⟩ := trace_recorded (ofTable table capacity) calls
    exact ⟨_, p', h, hcalls⟩
  have hready : ∀ x ∈ events, x.pool.Ready table (max capacity 1) := fun x hx => h.ready_of_mem hstart hbound hx
  have hmem : ∀ x ∈ events, x.call ∈ calls := fun x hx => hcalls ▸ List.mem_map_of_mem hx
  -- this is where fingerprints are replaced by endpoints and credentials
  have hgiven : ∀ x ∈ events, ∀ now u c, x.Gives now u c → ∀ t, Asked table calls t →
      (u.fingerprint = t.fingerprint ↔ u.Alike t) := fun x hx now u c hgives t ht =>
    hclear.fingerprint_eq_iff (Event.asked_of_gives (hmem x hx) (hready x hx).sameTable hgives) ht
  refine ⟨(h.ready hstart hbound).sound.room, ?_, ?_, ?_, ?_,
    fun x hx f hfails => Event.refused_of_fails (hready x hx).sound hfails,
    fun x hx => (Event.sound_after (hready x hx).sound hbound).room⟩
  · -- the connection is followed from the one operation to the other
    rintro earlier x between y later now t c now' u d rfl hx hy
    have hxmem : x ∈ earlier ++ x :: (between ++ y :: later) := by simp
    have hymem : y ∈ earlier ++ x :: (between ++ y :: later) := by simp
    obtain ⟨q, -, -, hrest⟩ := h.split
    obtain ⟨q', hbetween, order, -⟩ := hrest.split
    have hu := Event.asked_of_gives (hmem y hymem) (hready y hymem).sameTable hy
    rw [← hgiven x hxmem now t c hx u hu]
    exact Trace.same_iff (hready x hxmem) hbound hbetween order hx hy
  · -- the cache says what was used last, and the operations before say what is in the cache
    rintro earlier x later key rfl hdisplaces
    obtain ⟨q, hearlier, order, -⟩ := h.split
    have hq := hearlier.ready hstart hbound
    obtain ⟨hnew, hfull, hleast⟩ := Event.oldest_of_displaces (hready x (by simp)) hbound hdisplaces
    refine ⟨hnew, hfull, fun c used key' c' used' hlast hlast' => ?_⟩
    have hfind := hearlier.find?_iff.2 hlast
    have hfind' := hearlier.find?_iff.2 hlast'
    rw [← hq.find?_reorder order] at hfind hfind'
    exact hleast _ hfind _ (List.mem_of_find?_eq_some hfind')
  · rintro earlier x later s host t rfl hcall htarget
    have hx : x ∈ earlier ++ x :: later := by simp
    obtain ⟨q, hearlier, order, -⟩ := h.split
    have hq := hearlier.ready hstart hbound
    have ht := Event.asked_of_evicts (hmem x hx) (hready x hx).sameTable ⟨s, host, hcall, htarget⟩
    refine ⟨_, by rw [evict_eq htarget], ?_⟩
    rw [hq.find?_reorder order]
    exact hearlier.isSome_find?_iff fun y hy now u c hgives =>
      hgiven y (List.mem_append_left _ hy) now u c hgives t ht
  · -- nothing is found under the fingerprint, and the next number is above all that were given
    rintro earlier x between y later s host t s' now host' u rfl hcall htarget hcall' htarget' halike hunasked
    have hx : x ∈ earlier ++ x :: (between ++ y :: later) := by simp
    have hy : y ∈ earlier ++ x :: (between ++ y :: later) := by simp
    have hevicts : x.Evicts t := ⟨s, host, hcall, htarget⟩
    have ht := Event.asked_of_evicts (hmem x hx) (hready x hx).sameTable hevicts
    obtain ⟨q, -, -, hrest⟩ := h.split
    obtain ⟨q', hbetween, order, -⟩ := hrest.split
    have hnone := Trace.find?_of_evicts (hready x hx) hbound hevicts hbetween order
      fun z hz now v c hgives hsame =>
        hunasked z hz now v c hgives ((hgiven z (by simp [hz]) now v c hgives t ht).1 hsame)
    rw [← halike.fingerprint] at hnone
    refine ⟨get_of_find?_eq_none (hready y hy).sound htarget' hnone now, fun z hz now v c hgives => ?_⟩
    rw [← List.cons_append, ← List.append_assoc] at h
    obtain ⟨q'', hbefore, order', -⟩ := h.split
    rw [order'.next]
    exact Nat.ne_of_lt (hbefore.number_lt hstart hbound hz hgives)

/-- Two names of a server share a connection.  Evicted under one name, it is made again under the other one.
Another server has its own. -/
theorem trace_reuses_alias :
    let table : HostTable :=
      { defaults := { username := some "u", password := some "p" }
        hosts := [("web", { hostname := some "win-01" }), ("alias", { hostname := some "win-01" }),
          ("db", { hostname := some "win-02" })] }
    let s : Surroundings := ⟨[], []⟩
    let calls : List Call :=
      [.get s 1 "web", .get s 2 "alias", .evict s "web", .get s 3 "alias", .get s 4 "db"]
    Unambiguous table calls ∧ ∀ events p', Trace (ofTable table 2) events p' → events.map (·.call) = calls →
      p'.cache.size ≤ 2 ∧ ∃ web db c d e x₁ x₂ x₃ x₄ x₅, events = [x₁, x₂, x₃, x₄, x₅] ∧
        x₁.Gives 1 web c ∧ x₂.Gives 2 web c ∧ (x₃.pool.evict s "web").1 = .ok true ∧
          x₄.Gives 3 web d ∧ x₅.Gives 4 db e ∧ c.number ≠ d.number ∧ d.number ≠ e.number := by
  intro table s calls
  let web : Target := { Target.ofHost "win-01" with port := 5985, credentials := .basic "u" "p" }
  let db : Target := { web with host := "win-02" }
  have hweb : table.resolve s "web" = .ok web := rfl
  have halias : table.resolve s "alias" = .ok web := rfl
  have hdb : table.resolve s "db" = .ok db := rfl
  have hasked : ∀ t, Asked table calls t → t = web ∨ t = db := by
    rintro t ⟨s', host, hmem, htarget⟩
    have hhost : s' = s ∧ (host = "web" ∨ host = "alias" ∨ host = "db") := by
      simp only [calls, List.mem_cons, Call.get.injEq, Call.evict.injEq, List.not_mem_nil, reduceCtorEq,
        or_false, false_or] at hmem
      aesop
    obtain ⟨rfl, rfl | rfl | rfl⟩ := hhost
    · exact .inl (Except.ok.inj (htarget.symm.trans hweb))
    · exact .inl (Except.ok.inj (htarget.symm.trans halias))
    · exact .inr (Except.ok.inj (htarget.symm.trans hdb))
  have hdigest : Sha256.digest web.preimage ≠ Sha256.digest db.preimage := by
    simp only [web, db]
    decide +kernel
  have hclear : Unambiguous table calls := by
    refine ⟨fun t ht => ?_, fun t u ht hu hsame => ?_⟩
    · rcases hasked t ht with rfl | rfl
      · simp only [web]
        decide +kernel
      · simp only [db, web]
        decide +kernel
    · rcases hasked t ht with rfl | rfl <;> rcases hasked u hu with rfl | rfl
      · rfl
      · exact absurd hsame hdigest
      · exact absurd hsame.symm hdigest
      · rfl
  refine ⟨hclear, fun events p' h hcalls => ?_⟩
  obtain ⟨hroom, hreuses⟩ := (trace_reuses table 2 calls hclear).2 events p' h hcalls
  have hready : ∀ x ∈ events, x.pool.Ready table 2 := fun x hx =>
    h.ready_of_mem (ready_ofTable table 2) (by decide) hx
  have hmade : Connection.ofTarget s web = .ok ⟨web, none⟩ ∧ Connection.ofTarget s db = .ok ⟨db, none⟩ := by
    constructor <;> refine Connection.ofTarget_of_validate ?_ rfl s
    · simp only [web]
      decide +kernel
    · simp only [db, web]
      decide +kernel
  have hgiven : ∀ x ∈ events, ∀ now host t connection, x.call = .get s now host → table.resolve s host = .ok t →
      Connection.ofTarget s t = .ok connection → ∃ c, x.Gives now t c :=
    fun x hx now host t connection hcall htarget hmade =>
      Event.exists_gives (hready x hx).sound hcall ((hready x hx).sameTable.symm ▸ htarget) hmade
  obtain ⟨x₁, events, rfl, h₁, hcalls⟩ := List.map_eq_cons_iff.1 hcalls
  obtain ⟨x₂, events, rfl, h₂, hcalls⟩ := List.map_eq_cons_iff.1 hcalls
  obtain ⟨x₃, events, rfl, h₃, hcalls⟩ := List.map_eq_cons_iff.1 hcalls
  obtain ⟨x₄, events, rfl, h₄, hcalls⟩ := List.map_eq_cons_iff.1 hcalls
  obtain ⟨x₅, events, rfl, h₅, hcalls⟩ := List.map_eq_cons_iff.1 hcalls
  obtain rfl := List.map_eq_nil_iff.1 hcalls
  obtain ⟨c, hc⟩ := hgiven x₁ (by simp) 1 "web" web _ h₁ hweb hmade.1
  obtain ⟨c', hc'⟩ := hgiven x₂ (by simp) 2 "alias" web _ h₂ halias hmade.1
  obtain ⟨d, hd⟩ := hgiven x₄ (by simp) 3 "alias" web _ h₄ halias hmade.1
  obtain ⟨e, he⟩ := hgiven x₅ (by simp) 4 "db" db _ h₅ hdb hmade.2
  have halike : web.Alike web := ⟨rfl, rfl, rfl, rfl⟩
  have hevicts : x₃.pool.table.resolve s "web" = .ok web :=
    (hready x₃ (by simp)).sameTable.symm ▸ hweb
  obtain ⟨hsame, hshared⟩ := hreuses.same [] x₁ [] x₂ [x₃, x₄, x₅] 1 web c 2 web c' rfl hc hc'
  obtain rfl := hshared (hsame.2 ⟨halike, fun _ hz => absurd hz List.not_mem_nil⟩)
  obtain ⟨held, hreply, hheld⟩ := hreuses.evicted [x₁, x₂] x₃ [x₄, x₅] s "web" web rfl h₃ hevicts
  obtain rfl := hheld.2 ⟨[x₁], x₂, [], rfl, ⟨2, web, c, hc', halike⟩, fun _ hz => absurd hz List.not_mem_nil⟩
  have hagain := (hreuses.same [] x₁ [x₂, x₃] x₄ [x₅] 1 web c 3 web d rfl hc hd).1
  have hother := (hreuses.same [x₁, x₂, x₃] x₄ [] x₅ [] 3 web d 4 db e rfl hd he).1
  refine ⟨hroom, web, db, c, d, e, x₁, x₂, x₃, x₄, x₅, rfl, hc, hc', hreply, hd, he, fun hnumber => ?_,
    fun hnumber => ?_⟩
  · exact (hagain.1 hnumber).2 x₃ (by simp) (.evicted ⟨s, "web", h₃, hevicts⟩ rfl)
  · have hendpoint : web.endpoint ≠ db.endpoint := by
      simp only [web, db]
      decide +kernel
    exact hendpoint (hother.1 hnumber).1.endpoint

end Pool

end RemoteShell
