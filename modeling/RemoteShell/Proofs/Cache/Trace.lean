import RemoteShell.Proofs.Cache.Recency
import RemoteShell.Proofs.Chronicle

/-!
# Calls that share a cache

Callers take turns at a cache: whoever holds its lock makes one call as a whole.  So all that callers do
together, in whatever way they come in between each other, is one sequence of calls (`Turn`), and a `Trace` is
such a sequence with the cache that each call finds.  As in a run, the entries may come to be in another order
before each call.

With a time to live an entry may be expired and still be there.  What matters is whether a key has an entry that
is not (`Cache.alive?`).  By this a call does one of five things to the cache (`Event.Effect`), and this is what
becomes of the entry of a key:

* a call that uses the key leaves it with the value, used now (`Event.find?_of_uses`);
* a call that removes or displaces the key leaves none (`Event.find?_of_removes`, `Event.Displaces`);
* any other call spares the entry: it stays as it is, unless it is expired, when it may go
  (`Event.find?_of_spares`).

When a value is stored, only an entry that is not expired can be displaced, only if there is no room beside those
that are not expired, and then the one that goes is one that was not used after any other (`Event.displaces_iff`).
-/

namespace RemoteShell

variable {α ε : Type}

namespace Cache

open Cached

/-- A call that somebody makes at an instant. -/
structure Turn (α ε : Type) where
  caller : Nat
  now : Nat
  call : Call α ε

/-- A call and the cache that it finds. -/
structure Event (α ε : Type) extends Turn α ε where
  cache : Cache α

namespace Event

/-- What the call gives. -/
def reply (x : Event α ε) : Reply α ε :=
  (x.cache.call x.now x.call).1

/-- The cache behind the call. -/
def after (x : Event α ε) : Cache α :=
  (x.cache.call x.now x.call).2

end Event

/-- Some calls in a row.  Before each of them the entries may come to be in another order. -/
abbrev Trace (c : Cache α) (events : List (Event α ε)) (c' : Cache α) : Prop :=
  Chronicle Reorders Event.cache Event.after c events c'

/-- The calls of some turns, with the entries as they are. -/
abbrev recorded (c : Cache α) (turns : List (Turn α ε)) : List (Event α ε) :=
  record (fun c turn => ⟨turn, c⟩) Event.after c turns

variable {c c' d : Cache α} {events earlier later : List (Event α ε)} {x : Event α ε} {e f : Cached α}
  {key other : Fingerprint} {value : α} {now : Nat}

/-- The trace around one of its calls. -/
theorem Trace.split (h : Trace c (earlier ++ x :: later) c') :
    ∃ d, Trace c earlier d ∧ d.Reorders x.cache ∧ Trace x.after later c' :=
  Chronicle.split h

theorem Reorders.refl (c : Cache α) : c.Reorders c :=
  ⟨rfl, rfl, .refl _⟩

/-- There is a trace of any turns. -/
theorem trace_recorded (c : Cache α) (turns : List (Turn α ε)) :
    (∃ c', Trace c (recorded c turns) c') ∧ (recorded c turns).map Event.toTurn = turns :=
  chronicle_record Reorders.refl (fun _ _ => rfl) (fun _ _ => rfl) c turns

/-! ## Entries that are not expired -/

/-- The entries that are not expired. -/
def fresh (c : Cache α) (now : Nat) : List (Cached α) :=
  c.entries.filter fun e => !c.isExpired now e

/-- The entry of a key, if it is not expired. -/
def alive? (c : Cache α) (now : Nat) (key : Fingerprint) : Option (Cached α) :=
  (c.find? key).filter fun e => !c.isExpired now e

theorem mem_fresh : e ∈ c.fresh now ↔ e ∈ c.entries ∧ c.isExpired now e = false := by
  simp only [fresh, List.mem_filter, Bool.not_eq_true']

theorem alive?_eq_some_iff : c.alive? now key = some e ↔ c.find? key = some e ∧ c.isExpired now e = false := by
  simp only [alive?, Option.filter_eq_some_iff, Bool.not_eq_true']

theorem alive?_eq_none_iff :
    c.alive? now key = none ↔ ∀ e, c.find? key = some e → c.isExpired now e = true := by
  simp only [alive?, Option.filter_eq_none_iff, Bool.not_eq_true', Bool.not_eq_false]

theorem key_of_find? (h : c.find? key = some e) : e.key = key := by
  have hkey : (e.key == key) = true := by simpa using List.find?_some h
  exact beq_iff_eq.1 hkey

theorem mem_fresh_of_alive? (h : c.alive? now key = some e) : e ∈ c.fresh now ∧ e.key = key := by
  obtain ⟨hfind, hexpired⟩ := alive?_eq_some_iff.1 h
  exact ⟨mem_fresh.2 ⟨List.mem_of_find?_eq_some hfind, hexpired⟩, key_of_find? hfind⟩

/-- The entry of a key that is not expired is the only one with this key. -/
theorem alive?_of_mem_fresh (hdistinct : Distinct c.entries) (h : e ∈ c.fresh now) :
    c.alive? now e.key = some e :=
  alive?_eq_some_iff.2 ⟨(find?_eq_some_iff hdistinct).2 ⟨(mem_fresh.1 h).1, rfl⟩, (mem_fresh.1 h).2⟩

theorem ne_of_mem_fresh (hdistinct : Distinct c.entries) (h : c.alive? now key = none) (he : e ∈ c.fresh now) :
    e.key ≠ key := by
  rintro rfl
  rw [alive?_of_mem_fresh hdistinct he] at h
  cases h

theorem distinct_fresh (hdistinct : Distinct c.entries) (now : Nat) : Distinct (c.fresh now) :=
  hdistinct.sublist List.filter_sublist

theorem alive?_reorder (hdistinct : Distinct c.entries) (order : c.Reorders d) (now : Nat) (key : Fingerprint) :
    d.alive? now key = c.alive? now key := by
  have hfind : d.find? key = c.find? key := find?_eq_of_perm hdistinct order.entries
  have hexpired : d.isExpired now = c.isExpired now := by
    funext e
    rw [isExpired, isExpired, order.timeToLive]
  rw [alive?, alive?, hfind, hexpired]

theorem alive?_eq_none_iff_fresh (hdistinct : Distinct c.entries) :
    c.alive? now key = none ↔ ∀ f ∈ c.fresh now, f.key ≠ key := by
  refine ⟨fun hdead f hf => ne_of_mem_fresh hdistinct hdead hf, fun hne => ?_⟩
  by_contra halive
  obtain ⟨e, he⟩ := Option.ne_none_iff_exists'.1 halive
  exact hne e (mem_fresh_of_alive? he).1 (mem_fresh_of_alive? he).2

/-- Without a time to live nothing expires. -/
theorem alive?_of_unlimited (h : c.timeToLive = none) (now : Nat) (key : Fingerprint) :
    c.alive? now key = c.find? key := by
  cases hfind : c.find? key with
  | none => exact alive?_eq_none_iff.2 fun e he => by cases hfind.symm.trans he
  | some e => exact alive?_eq_some_iff.2 ⟨hfind, isExpired_of_unlimited h now e⟩

theorem fresh_of_unlimited (h : c.timeToLive = none) (now : Nat) : c.fresh now = c.entries :=
  List.filter_eq_self.2 fun e _ => by rw [isExpired_of_unlimited h now e, Bool.not_false]

/-! ## What a call does to the entries -/

/-- The entry of a key counts as used now. -/
def touch (c : Cache α) (now : Nat) (key : Fingerprint) : Cache α :=
  { c with entries := c.entries.map fun e => if e.key == key then { e with lastUsed := now } else e }

theorem get_of_alive (h : c.alive? now key = some e) : c.get now key = (some e.value, c.touch now key) := by
  obtain ⟨hfind, hexpired⟩ := alive?_eq_some_iff.1 h
  rw [get, hfind]
  simp only [hexpired, Bool.false_eq_true, if_false]
  rfl

/-- Without an entry of a key, there is nothing to take away. -/
theorem without_of_find?_eq_none (h : c.find? key = none) : c.without key = c := by
  have hentries : Cached.without c.entries key = c.entries :=
    without_of_forall_ne (find?_eq_none_iff.1 h)
  exact congrArg (fun entries => { c with entries }) hentries

theorem get_of_not_alive (h : c.alive? now key = none) : c.get now key = (none, c.without key) := by
  rw [get]
  cases hfind : c.find? key with
  | none => rw [without_of_find?_eq_none hfind]
  | some e => simp only [alive?_eq_none_iff.1 h e hfind, if_true]

/-- Storing a value takes the expired entries away, so it does not matter whether one has gone already. -/
theorem insert_without (hdistinct : Distinct c.entries) (h : c.alive? now key = none) (value : α) :
    (c.without key).insert now key value = c.insert now key value := by
  have hfresh : ((c.without key).entries.filter fun e => !(c.without key).isExpired now e) = c.fresh now := by
    have hkept : Cached.without (c.fresh now) key = c.fresh now :=
      without_of_forall_ne fun f hf => ne_of_mem_fresh hdistinct h hf
    have hcomm : (c.without key).fresh now = Cached.without (c.fresh now) key := by
      simp only [fresh, Cache.without, Cached.without, List.filter_filter, Bool.and_comm]
      rfl
    exact hcomm.trans hkept
  rw [Cache.insert, hfresh]
  rfl

section GetOrCreate

variable {create : Unit → Except ε α}

theorem getOrCreate_of_alive (h : c.alive? now key = some e) :
    c.getOrCreate now key create = (.ok e.value, false, c.touch now key) := by
  rw [getOrCreate, get_of_alive h]

theorem getOrCreate_of_error {error : ε} (h : c.alive? now key = none) (hcreate : create () = .error error) :
    c.getOrCreate now key create = (.error error, true, c.without key) := by
  rw [getOrCreate, get_of_not_alive h]
  simp only [hcreate]

theorem getOrCreate_of_ok (hdistinct : Distinct c.entries) (h : c.alive? now key = none)
    (hcreate : create () = .ok value) :
    c.getOrCreate now key create = (.ok value, true, c.insert now key value) := by
  rw [getOrCreate, get_of_not_alive h]
  simp only [hcreate, insert_without hdistinct h]

end GetOrCreate

/-! ### Room for a value -/

theorem any_fresh_iff (hdistinct : Distinct c.entries) :
    (c.fresh now).any (·.key == key) = true ↔ c.alive? now key ≠ none := by
  constructor
  · intro hany hnone
    obtain ⟨e, he, hkey⟩ := List.any_eq_true.1 hany
    exact ne_of_mem_fresh hdistinct hnone he (beq_iff_eq.1 hkey)
  · intro h
    obtain ⟨e, he⟩ := Option.ne_none_iff_exists'.1 h
    obtain ⟨hmem, hkey⟩ := mem_fresh_of_alive? he
    exact List.any_eq_true.2 ⟨e, hmem, beq_iff_eq.2 hkey⟩

/-- A value has room if its key has an entry that is not expired, or if there are few of these. -/
theorem entries_insert_of_room (hdistinct : Distinct c.entries)
    (hroom : c.alive? now key ≠ none ∨ (c.fresh now).length < c.capacity) (value : α) :
    (c.insert now key value).entries = ⟨key, value, now⟩ :: Cached.without (c.fresh now) key := by
  rw [Cache.insert, ← fresh]
  simp only
  by_cases halive : c.alive? now key = none
  · have hany : ¬ (c.fresh now).any (·.key == key) = true :=
      fun hany => (any_fresh_iff hdistinct).1 hany halive
    have hless : (c.fresh now).length < c.capacity := hroom.resolve_left (not_not_intro halive)
    have hkept : Cached.without (c.fresh now) key = c.fresh now :=
      without_of_forall_ne fun f hf => ne_of_mem_fresh hdistinct halive hf
    rw [if_neg hany, makeRoom_of_lt _ hless, hkept]
  · rw [if_pos ((any_fresh_iff hdistinct).2 halive)]
    rfl

/-- Else an entry that was not used after any other goes to make room. -/
theorem entries_insert_of_full (hdistinct : Distinct c.entries) (hcapacity : 0 < c.capacity)
    (halive : c.alive? now key = none) (hfull : (c.fresh now).length = c.capacity) (value : α) :
    ∃ o, o ∈ c.fresh now ∧ (∀ f ∈ c.fresh now, o.lastUsed ≤ f.lastUsed) ∧
      (c.insert now key value).entries = ⟨key, value, now⟩ :: Cached.without (c.fresh now) o.key := by
  have hany : ¬ (c.fresh now).any (·.key == key) = true :=
    fun hany => (any_fresh_iff hdistinct).1 hany halive
  cases holdest : oldest? (c.fresh now) with
  | none =>
    rw [oldest?_eq_none_iff] at holdest
    rw [holdest, List.length_nil] at hfull
    omega
  | some o =>
    obtain ⟨ho, hleast⟩ := oldest?_spec holdest
    obtain ⟨fuel, hfuel⟩ : ∃ fuel, (c.fresh now).length = fuel + 1 := ⟨(c.fresh now).length - 1, by omega⟩
    have hless : (Cached.without (c.fresh now) o.key).length < c.capacity :=
      Nat.lt_of_lt_of_eq (length_without_lt ho) hfull
    refine ⟨o, ho, hleast, ?_⟩
    rw [Cache.insert, ← fresh]
    simp only
    rw [if_neg hany, hfuel, makeRoom, if_neg (by omega), holdest]
    simp only
    rw [← Cached.without, makeRoom_of_lt fuel hless]

/-! ### The entry of a key -/

theorem find?_without_self (c : Cache α) (key : Fingerprint) : (c.without key).find? key = none :=
  find?_eq_none_iff.2 fun _ hf => (mem_without.1 hf).2

theorem find?_without_of_ne (hdistinct : Distinct c.entries) (hne : other ≠ key) :
    (c.without key).find? other = c.find? other := by
  apply Option.ext
  intro e
  have hkept : Distinct (c.without key).entries := hdistinct.sublist List.filter_sublist
  simp only [find?, find?_eq_some_iff hdistinct, find?_eq_some_iff hkept]
  refine ⟨fun h => ⟨(mem_without.1 h.1).1, h.2⟩, fun h => ⟨mem_without.2 ⟨h.1, ?_⟩, h.2⟩⟩
  rw [h.2]
  exact hne

theorem find?_touch (c : Cache α) (now : Nat) (key other : Fingerprint) :
    (c.touch now key).find? other =
      (c.find? other).map fun e => if e.key == key then { e with lastUsed := now } else e := by
  have hsame : ((·.key == other) ∘ fun e : Cached α => if e.key == key then { e with lastUsed := now } else e)
      = fun e => e.key == other := by
    funext e
    rw [Function.comp_apply]
    split <;> rfl
  rw [find?, touch, List.find?_map, hsame, find?]

theorem find?_touch_self (h : c.find? key = some e) :
    (c.touch now key).find? key = some ⟨key, e.value, now⟩ := by
  obtain rfl := key_of_find? h
  rw [find?_touch, h, Option.map_some, if_pos (beq_self_eq_true e.key)]

theorem find?_touch_of_ne (hne : other ≠ key) : (c.touch now key).find? other = c.find? other := by
  rw [find?_touch]
  cases hfind : c.find? other with
  | none => rfl
  | some e =>
    have hkey : ¬ (e.key == key) = true := by
      rw [key_of_find? hfind, beq_iff_eq]
      exact hne
    rw [Option.map_some, if_neg hkey]

theorem find?_insert_self (c : Cache α) (now : Nat) (key : Fingerprint) (value : α) :
    (c.insert now key value).find? key = some ⟨key, value, now⟩ := by
  rw [find?, Cache.insert, List.find?_cons_of_pos (by simp)]

theorem find?_cons_without {gone : Fingerprint} (hdistinct : Distinct c.entries) (hne : other ≠ key) :
    (⟨key, value, now⟩ :: Cached.without (c.fresh now) gone : List (Cached α)).find? (·.key == other) =
      if other = gone then none else c.alive? now other := by
  rw [List.find?_cons_of_neg (by simpa using hne.symm)]
  have hkept : Distinct (Cached.without (c.fresh now) gone) :=
    (distinct_fresh hdistinct now).sublist List.filter_sublist
  apply Option.ext
  intro e
  rw [find?_eq_some_iff hkept, mem_without]
  split
  · rename_i hgone
    simp only [reduceCtorEq, iff_false, not_and, and_imp]
    rintro - hkey rfl
    exact hkey hgone
  · rename_i hkept
    constructor
    · rintro ⟨⟨hmem, -⟩, rfl⟩
      exact alive?_of_mem_fresh hdistinct hmem
    · intro halive
      obtain ⟨hmem, rfl⟩ := mem_fresh_of_alive? halive
      exact ⟨⟨hmem, hkept⟩, rfl⟩

/-- When a value is stored and there is room, other keys keep their entries that are not expired. -/
theorem find?_insert_of_room (hdistinct : Distinct c.entries)
    (hroom : c.alive? now key ≠ none ∨ (c.fresh now).length < c.capacity) (value : α) (hne : other ≠ key) :
    (c.insert now key value).find? other = c.alive? now other := by
  rw [find?, entries_insert_of_room hdistinct hroom, find?_cons_without hdistinct hne, if_neg hne]

/-- When there is no room, one of them goes that was not used after any other. -/
theorem find?_insert_of_full (hdistinct : Distinct c.entries) (hcapacity : 0 < c.capacity)
    (halive : c.alive? now key = none) (hfull : (c.fresh now).length = c.capacity) (value : α) :
    ∃ o, o ∈ c.fresh now ∧ (∀ f ∈ c.fresh now, o.lastUsed ≤ f.lastUsed) ∧ ∀ other, other ≠ key →
      (c.insert now key value).find? other = if other = o.key then none else c.alive? now other := by
  obtain ⟨o, ho, hleast, hentries⟩ := entries_insert_of_full hdistinct hcapacity halive hfull value
  refine ⟨o, ho, hleast, fun other hne => ?_⟩
  rw [find?, hentries, find?_cons_without hdistinct hne]

/-! ### Soundness -/

/-- No two entries have the same key, and there is room for all of them. -/
structure Sound (bound : Nat) (timeToLive : Option Duration) (c : Cache α) : Prop where
  capacity : c.capacity = bound
  unchanged : c.timeToLive = timeToLive
  distinct : Distinct c.entries
  room : c.entries.length ≤ bound

variable {bound capacity : Nat} {timeToLive : Option Duration}

theorem sound_ofCapacity (capacity : Nat) (timeToLive : Option Duration) :
    (ofCapacity capacity timeToLive : Cache α).Sound (max capacity 1) timeToLive :=
  ⟨rfl, rfl, List.nodup_nil, Nat.zero_le _⟩

theorem Sound.reorder (h : c.Sound bound timeToLive) (order : c.Reorders d) : d.Sound bound timeToLive :=
  ⟨order.capacity.trans h.capacity, order.timeToLive.trans h.unchanged, h.distinct.perm order.entries,
    order.entries.length_eq ▸ h.room⟩

theorem Sound.without (h : c.Sound bound timeToLive) (key : Fingerprint) :
    (c.without key).Sound bound timeToLive :=
  ⟨h.capacity, h.unchanged, h.distinct.sublist List.filter_sublist,
    Nat.le_trans (List.length_filter_le _ _) h.room⟩

theorem Sound.clear (h : c.Sound bound timeToLive) : c.clear.Sound bound timeToLive :=
  ⟨h.capacity, h.unchanged, List.nodup_nil, Nat.zero_le _⟩

theorem Sound.touch (h : c.Sound bound timeToLive) (now : Nat) (key : Fingerprint) :
    (c.touch now key).Sound bound timeToLive := by
  refine ⟨h.capacity, h.unchanged, ?_, (List.length_map _).trans_le h.room⟩
  have hkeys : (c.touch now key).entries.map Cached.key = c.entries.map Cached.key := by
    rw [Cache.touch, List.map_map]
    refine List.map_congr_left fun e _ => ?_
    rw [Function.comp_apply]
    split <;> rfl
  rw [Distinct, hkeys]
  exact h.distinct

theorem Sound.length_fresh (h : c.Sound bound timeToLive) (now : Nat) : (c.fresh now).length ≤ c.capacity :=
  Nat.le_trans (List.length_filter_le _ _) (h.capacity.symm ▸ h.room)

/-- Of the entries that are not expired, all or all but one stay. -/
theorem Sound.insert (h : c.Sound bound timeToLive) (hbound : 0 < bound) (now : Nat) (key : Fingerprint)
    (value : α) : (c.insert now key value).Sound bound timeToLive := by
  have hcons : ∀ gone, (∀ f ∈ Cached.without (c.fresh now) gone, f.key ≠ key) →
      (Cached.without (c.fresh now) gone).length < bound →
      (c.insert now key value).entries = ⟨key, value, now⟩ :: Cached.without (c.fresh now) gone →
      (c.insert now key value).Sound bound timeToLive := by
    intro gone hkey hroom hentries
    refine ⟨h.capacity, h.unchanged, ?_, ?_⟩
    · rw [hentries]
      exact distinct_cons.2 ⟨hkey, (distinct_fresh h.distinct now).sublist List.filter_sublist⟩
    · rw [hentries]
      exact hroom
  by_cases hroom : c.alive? now key ≠ none ∨ (c.fresh now).length < c.capacity
  · refine hcons key (fun f hf => (mem_without.1 hf).2) ?_ (entries_insert_of_room h.distinct hroom value)
    rcases hroom with halive | hless
    · obtain ⟨e, he⟩ := Option.ne_none_iff_exists'.1 halive
      obtain ⟨hmem, rfl⟩ := mem_fresh_of_alive? he
      exact Nat.lt_of_lt_of_le (length_without_lt hmem) (h.capacity ▸ h.length_fresh now)
    · exact Nat.lt_of_le_of_lt (List.length_filter_le _ _) (h.capacity ▸ hless)
  · obtain ⟨halive, hfull⟩ := not_or.1 hroom
    have hdead : c.alive? now key = none := not_not.1 halive
    obtain ⟨o, ho, -, hentries⟩ := entries_insert_of_full h.distinct (h.capacity.symm ▸ hbound) hdead
      (Nat.le_antisymm (h.length_fresh now) (Nat.not_lt.1 hfull)) value
    refine hcons o.key (fun f hf => ne_of_mem_fresh h.distinct hdead (mem_without.1 hf).1) ?_ hentries
    exact Nat.lt_of_lt_of_le (length_without_lt ho) (h.capacity ▸ h.length_fresh now)

/-- Whether there is room or not, another key keeps its entry if it is not expired, or has none. -/
theorem Sound.find?_insert (h : c.Sound bound timeToLive) (hbound : 0 < bound) (now : Nat) (value : α)
    (hne : other ≠ key) : (c.insert now key value).find? other = c.alive? now other ∨
      (c.insert now key value).find? other = none := by
  by_cases hroom : c.alive? now key ≠ none ∨ (c.fresh now).length < c.capacity
  · exact .inl (find?_insert_of_room h.distinct hroom value hne)
  · obtain ⟨halive, hfull⟩ := not_or.1 hroom
    obtain ⟨o, -, -, hfind⟩ := find?_insert_of_full h.distinct (h.capacity.symm ▸ hbound) (not_not.1 halive)
      (Nat.le_antisymm (h.length_fresh now) (Nat.not_lt.1 hfull)) value
    rw [hfind other hne]
    split
    · exact .inr rfl
    · exact .inl rfl

namespace Event

/-! ## What a call does -/

/-- A value is stored under a key: it is inserted, or created. -/
def Stores (x : Event α ε) (key : Fingerprint) (value : α) : Prop :=
  x.call = .insert key value ∨ ∃ created, x.call = .getOrCreate key created ∧ x.reply = .result (.ok value) true

/-- A key is looked up. -/
def Looks (x : Event α ε) (key : Fingerprint) : Prop :=
  x.call = .get key ∨ ∃ created, x.call = .getOrCreate key created

/-- A key is looked up, and its value is there. -/
def Finds (x : Event α ε) (key : Fingerprint) (value : α) : Prop :=
  (x.call = .get key ∧ x.reply = .value (some value)) ∨
    ∃ created, x.call = .getOrCreate key created ∧ x.reply = .result (.ok value) false

/-- The entry of a key counts as used, with a value. -/
def Uses (x : Event α ε) (key : Fingerprint) (value : α) : Prop :=
  x.Stores key value ∨ x.Finds key value

/-- The entry of a key is removed on demand. -/
def Removes (x : Event α ε) (key : Fingerprint) : Prop :=
  x.call = .evict key ∨ x.call = .clear ∨ x.call = .drain

/-- An entry that is not expired has to go when a value is stored under another key. -/
def Displaces (x : Event α ε) (key : Fingerprint) : Prop :=
  (∃ other value, x.Stores other value ∧ key ≠ other) ∧ x.cache.alive? x.now key ≠ none ∧
    x.after.find? key = none

/-- The call has nothing to do with the entry of a key. -/
structure Spares (x : Event α ε) (key : Fingerprint) : Prop where
  unused : ∀ value, ¬ x.Uses key value
  unremoved : ¬ x.Removes key
  undisplaced : ¬ x.Displaces key

/-- What a call does to the cache. -/
inductive Effect (x : Event α ε) : Prop
  | stored {key : Fingerprint} {value : α} (stores : x.Stores key value)
      (after_eq : x.after = x.cache.insert x.now key value)
  | found {key : Fingerprint} {e : Cached α} (alive : x.cache.alive? x.now key = some e)
      (finds : x.Finds key e.value) (after_eq : x.after = x.cache.touch x.now key)
  | missed {key : Fingerprint} (dead : x.cache.alive? x.now key = none) (looks : x.Looks key)
      (after_eq : x.after = x.cache.without key)
  | evicted {key : Fingerprint} (call_eq : x.call = .evict key) (after_eq : x.after = x.cache.without key)
  | emptied (call_eq : x.call = .clear ∨ x.call = .drain) (after_eq : x.after = x.cache.clear)

variable {created : Except ε α} {error : ε}

theorem insert_eq (h : x.call = .insert key value) : x.after = x.cache.insert x.now key value := by
  rw [after, h]
  rfl

theorem get_eq (h : x.call = .get key) :
    (∃ e, x.cache.alive? x.now key = some e ∧ x.reply = .value (some e.value) ∧
        x.after = x.cache.touch x.now key) ∨
      (x.cache.alive? x.now key = none ∧ x.reply = .value none ∧ x.after = x.cache.without key) := by
  cases halive : x.cache.alive? x.now key with
  | some e => exact .inl ⟨e, rfl, by simp only [reply, after, h, call, get_of_alive halive, and_self]⟩
  | none => exact .inr ⟨rfl, by simp only [reply, after, h, call, get_of_not_alive halive, and_self]⟩

/-- **A value is created only if its key has no entry**, or one that is expired. -/
theorem getOrCreate_eq (hdistinct : Distinct x.cache.entries) (h : x.call = .getOrCreate key created) :
    (∃ e, x.cache.alive? x.now key = some e ∧ x.reply = .result (.ok e.value) false ∧
        x.after = x.cache.touch x.now key) ∨
      (x.cache.alive? x.now key = none ∧ x.reply = .result created true ∧
        ((∃ error, created = .error error ∧ x.after = x.cache.without key) ∨
          ∃ value, created = .ok value ∧ x.after = x.cache.insert x.now key value)) := by
  cases halive : x.cache.alive? x.now key with
  | some e => exact .inl ⟨e, rfl, by simp only [reply, after, h, call, getOrCreate_of_alive halive, and_self]⟩
  | none =>
    refine .inr ⟨rfl, ?_⟩
    cases created with
    | error error =>
      have hfailed : x.cache.getOrCreate x.now key (fun _ => Except.error error) =
          (.error error, true, x.cache.without key) := getOrCreate_of_error halive rfl
      simp only [reply, after, h, call, hfailed]
      exact ⟨trivial, .inl ⟨error, rfl, trivial⟩⟩
    | ok value =>
      have hmade : x.cache.getOrCreate x.now key (fun _ => (Except.ok value : Except ε α)) =
          (.ok value, true, x.cache.insert x.now key value) := getOrCreate_of_ok hdistinct halive rfl
      simp only [reply, after, h, call, hmade]
      exact ⟨trivial, .inr ⟨value, rfl, rfl⟩⟩

/-- **What a call does** is one of five things. -/
theorem effect (hdistinct : Distinct x.cache.entries) : x.Effect := by
  cases hcall : x.call with
  | insert key value => exact .stored (.inl hcall) (insert_eq hcall)
  | get key =>
    rcases get_eq hcall with ⟨e, halive, hreply, hafter⟩ | ⟨hdead, -, hafter⟩
    · exact .found halive (.inl ⟨hcall, hreply⟩) hafter
    · exact .missed hdead (.inl hcall) hafter
  | getOrCreate key created =>
    rcases getOrCreate_eq hdistinct hcall with ⟨e, halive, hreply, hafter⟩ | ⟨hdead, hreply, hmade⟩
    · exact .found halive (.inr ⟨created, hcall, hreply⟩) hafter
    · rcases hmade with ⟨error, -, hafter⟩ | ⟨value, rfl, hafter⟩
      · exact .missed hdead (.inr ⟨created, hcall⟩) hafter
      · exact .stored (.inr ⟨.ok value, hcall, hreply⟩) hafter
  | evict key => exact .evicted hcall (by rw [after, hcall]; rfl)
  | clear => exact .emptied (.inl hcall) (by rw [after, hcall]; rfl)
  | drain => exact .emptied (.inr hcall) (by rw [after, hcall]; rfl)

/-- **A key is found if and only if it has an entry that is not expired.** -/
theorem finds_iff (hdistinct : Distinct x.cache.entries) :
    x.Finds key value ↔ x.Looks key ∧ (x.cache.alive? x.now key).map (·.value) = some value := by
  constructor
  · rintro (⟨hcall, hreply⟩ | ⟨created, hcall, hreply⟩)
    · refine ⟨.inl hcall, ?_⟩
      rcases get_eq hcall with ⟨e, halive, hreply', -⟩ | ⟨-, hreply', -⟩
      · rw [hreply] at hreply'
        rw [halive, Option.map_some, ← Reply.value.inj hreply']
      · cases hreply.symm.trans hreply'
    · refine ⟨.inr ⟨created, hcall⟩, ?_⟩
      rcases getOrCreate_eq hdistinct hcall with ⟨e, halive, hreply', -⟩ | ⟨-, hreply', -⟩
      · rw [hreply] at hreply'
        rw [halive, Option.map_some, ← Except.ok.inj (Reply.result.inj hreply').1]
      · cases (Reply.result.inj (hreply.symm.trans hreply')).2
  · rintro ⟨hcall | ⟨created, hcall⟩, hvalue⟩
    · rcases get_eq hcall with ⟨e, halive, hreply, -⟩ | ⟨hdead, -, -⟩
      · rw [halive, Option.map_some, Option.some_inj] at hvalue
        exact .inl ⟨hcall, hvalue ▸ hreply⟩
      · rw [hdead] at hvalue
        cases hvalue
    · rcases getOrCreate_eq hdistinct hcall with ⟨e, halive, hreply, -⟩ | ⟨hdead, -, -⟩
      · rw [halive, Option.map_some, Option.some_inj] at hvalue
        exact .inr ⟨created, hcall, hvalue ▸ hreply⟩
      · rw [hdead] at hvalue
        cases hvalue

theorem after_of_stores (hdistinct : Distinct x.cache.entries) (h : x.Stores key value) :
    x.after = x.cache.insert x.now key value := by
  rcases h with hcall | ⟨created, hcall, hreply⟩
  · exact insert_eq hcall
  · rcases getOrCreate_eq hdistinct hcall with ⟨e, -, hreply', -⟩ | ⟨-, hreply', hmade⟩
    · cases (Reply.result.inj (hreply.symm.trans hreply')).2
    · have hcreated := (Reply.result.inj (hreply.symm.trans hreply')).1
      rcases hmade with ⟨error, rfl, -⟩ | ⟨value', rfl, hafter⟩
      · cases hcreated
      · rw [hafter, Except.ok.inj hcreated]

theorem after_of_finds (hdistinct : Distinct x.cache.entries) (h : x.Finds key value) :
    ∃ e, x.cache.alive? x.now key = some e ∧ e.value = value ∧ x.after = x.cache.touch x.now key := by
  obtain ⟨hlooks, hvalue⟩ := (finds_iff hdistinct).1 h
  obtain ⟨e, halive, rfl⟩ := Option.map_eq_some_iff.1 hvalue
  refine ⟨e, halive, rfl, ?_⟩
  rcases hlooks with hcall | ⟨created, hcall⟩
  · rcases get_eq hcall with ⟨-, -, -, hafter⟩ | ⟨hdead, -, -⟩
    · exact hafter
    · cases halive.symm.trans hdead
  · rcases getOrCreate_eq hdistinct hcall with ⟨-, -, -, hafter⟩ | ⟨hdead, -, -⟩
    · exact hafter
    · cases halive.symm.trans hdead

/-- A key that is looked up and not found has no entry behind the call, unless its value is created. -/
theorem after_of_misses (hdistinct : Distinct x.cache.entries) (hlooks : x.Looks key)
    (hmisses : ∀ value, ¬ x.Finds key value) : x.cache.alive? x.now key = none ∧
      (x.after = x.cache.without key ∨ ∃ value, x.Stores key value) := by
  have hdead : x.cache.alive? x.now key = none := by
    by_contra halive
    obtain ⟨e, he⟩ := Option.ne_none_iff_exists'.1 halive
    exact hmisses e.value ((finds_iff hdistinct).2 ⟨hlooks, by rw [he, Option.map_some]⟩)
  refine ⟨hdead, ?_⟩
  rcases hlooks with hcall | ⟨created, hcall⟩
  · rcases get_eq hcall with ⟨e, halive, -, -⟩ | ⟨-, -, hafter⟩
    · cases halive.symm.trans hdead
    · exact .inl hafter
  · rcases getOrCreate_eq hdistinct hcall with ⟨e, halive, -, -⟩ | ⟨-, hreply, hmade⟩
    · cases halive.symm.trans hdead
    · rcases hmade with ⟨error, -, hafter⟩ | ⟨value, rfl, -⟩
      · exact .inl hafter
      · exact .inr ⟨value, .inr ⟨_, hcall, hreply⟩⟩

/-- **A key that is used has its value**, used now. -/
theorem find?_of_uses (hdistinct : Distinct x.cache.entries) (h : x.Uses key value) :
    x.after.find? key = some ⟨key, value, x.now⟩ := by
  rcases h with hstores | hfinds
  · rw [after_of_stores hdistinct hstores, find?_insert_self]
  · obtain ⟨e, halive, rfl, hafter⟩ := after_of_finds hdistinct hfinds
    rw [hafter, find?_touch_self (alive?_eq_some_iff.1 halive).1]

/-- **A key that is removed has no entry.** -/
theorem find?_of_removes (h : x.Removes key) : x.after.find? key = none := by
  rcases h with hcall | hcall | hcall <;> rw [after, hcall]
  · exact find?_without_self x.cache key
  · rfl
  · rfl

/-- **An entry that is spared stays as it is**, unless it is expired. -/
theorem find?_of_spares (hsound : x.cache.Sound bound timeToLive) (hbound : 0 < bound) (h : x.Spares key) :
    x.after.find? key = x.cache.find? key ∨
      (x.after.find? key = none ∧ x.cache.alive? x.now key = none) := by
  cases effect hsound.distinct with
  | @stored other value hstores hafter =>
    have hne : key ≠ other := by
      rintro rfl
      exact h.unused value (.inl hstores)
    cases halive : x.cache.alive? x.now key with
    | none =>
      right
      refine ⟨?_, rfl⟩
      rcases hsound.find?_insert hbound x.now value hne with hkept | hgone
      · rw [hafter, hkept, halive]
      · rw [hafter, hgone]
    | some e =>
      left
      rcases hsound.find?_insert hbound x.now value hne with hkept | hgone
      · rw [hafter, hkept, halive, (alive?_eq_some_iff.1 halive).1]
      · have hdisplaced : x.Displaces key :=
          ⟨⟨other, value, hstores, hne⟩, by rw [halive]; nofun, by rw [hafter, hgone]⟩
        exact absurd hdisplaced h.undisplaced
  | @found other e halive hfinds hafter =>
    have hne : key ≠ other := by
      rintro rfl
      exact h.unused e.value (.inr hfinds)
    left
    rw [hafter, find?_touch_of_ne hne]
  | @missed other hdead hlooks hafter =>
    by_cases hsame : key = other
    · subst hsame
      right
      rw [hafter, find?_without_self]
      exact ⟨rfl, hdead⟩
    · left
      rw [hafter, find?_without_of_ne hsound.distinct hsame]
  | @evicted other hcall hafter =>
    have hne : key ≠ other := by
      rintro rfl
      exact h.unremoved (.inl hcall)
    left
    rw [hafter, find?_without_of_ne hsound.distinct hne]
  | emptied hcall _ => exact absurd (.inr hcall) h.unremoved

/-- **What is displaced.**  There was no room, and no entry that is not expired had been unused for longer. -/
theorem oldest_of_displaces (hsound : x.cache.Sound bound timeToLive) (hbound : 0 < bound)
    (h : x.Displaces key) : ∃ other value o, x.Stores other value ∧ x.cache.alive? x.now other = none ∧
      (x.cache.fresh x.now).length = bound ∧ o ∈ x.cache.fresh x.now ∧ o.key = key ∧
        ∀ f ∈ x.cache.fresh x.now, o.lastUsed ≤ f.lastUsed := by
  obtain ⟨⟨other, value, hstores, hne⟩, halive, hgone⟩ := h
  rw [after_of_stores hsound.distinct hstores] at hgone
  have hroom : ¬ (x.cache.alive? x.now other ≠ none ∨ (x.cache.fresh x.now).length < x.cache.capacity) := by
    intro hroom
    rw [find?_insert_of_room hsound.distinct hroom value hne] at hgone
    exact halive hgone
  obtain ⟨hdead, hfull⟩ := not_or.1 hroom
  have hlength : (x.cache.fresh x.now).length = x.cache.capacity :=
    Nat.le_antisymm (hsound.length_fresh x.now) (Nat.not_lt.1 hfull)
  obtain ⟨o, ho, hleast, hfind⟩ := find?_insert_of_full hsound.distinct (hsound.capacity.symm ▸ hbound)
    (not_not.1 hdead) hlength value
  refine ⟨other, value, o, hstores, not_not.1 hdead, hlength.trans hsound.capacity, ho, ?_, hleast⟩
  by_contra hkey
  rw [hfind key hne, if_neg (Ne.symm hkey)] at hgone
  exact halive hgone

/-- **Which entry is displaced**, if no two were used last at the same instant. -/
theorem displaces_iff (hsound : x.cache.Sound bound timeToLive) (hbound : 0 < bound)
    (hunique : ∀ e ∈ x.cache.fresh x.now, ∀ f ∈ x.cache.fresh x.now, e.lastUsed = f.lastUsed → e = f) :
    x.Displaces key ↔ ∃ other value o, x.Stores other value ∧ x.cache.alive? x.now other = none ∧
      (x.cache.fresh x.now).length = bound ∧ o ∈ x.cache.fresh x.now ∧ o.key = key ∧
        ∀ f ∈ x.cache.fresh x.now, f ≠ o → o.lastUsed < f.lastUsed := by
  constructor
  · intro h
    obtain ⟨other, value, o, hstores, hdead, hfull, ho, hkey, hleast⟩ := oldest_of_displaces hsound hbound h
    refine ⟨other, value, o, hstores, hdead, hfull, ho, hkey, fun f hf hne => ?_⟩
    refine Nat.lt_of_le_of_ne (hleast f hf) fun hsame => hne ?_
    exact (hunique o ho f hf hsame).symm
  · rintro ⟨other, value, o, hstores, hdead, hfull, ho, rfl, hleast⟩
    have hne : o.key ≠ other := ne_of_mem_fresh hsound.distinct hdead ho
    refine ⟨⟨other, value, hstores, hne⟩, ?_, ?_⟩
    · rw [alive?_of_mem_fresh hsound.distinct ho]
      nofun
    · obtain ⟨o', ho', hleast', hfind⟩ := find?_insert_of_full hsound.distinct
        (hsound.capacity.symm ▸ hbound) hdead (hfull.trans hsound.capacity.symm) value
      have hsame : o' = o := by
        by_contra hother
        exact absurd (hleast' o ho) (Nat.not_le.2 (hleast o' ho' hother))
      rw [after_of_stores hsound.distinct hstores, hfind o.key hne, hsame, if_pos rfl]

/-- What is there behind a value that was stored: it, and the entries that are not expired and not displaced. -/
theorem mem_after_of_stores (hsound : x.cache.Sound bound timeToLive) (hbound : 0 < bound)
    (h : x.Stores key value) :
    f ∈ x.after.entries ↔
      f = ⟨key, value, x.now⟩ ∨ (f ∈ x.cache.fresh x.now ∧ f.key ≠ key ∧ ¬ x.Displaces f.key) := by
  have hafter := after_of_stores hsound.distinct h
  have hdistinct : Distinct x.after.entries := hafter ▸ (hsound.insert hbound x.now key value).distinct
  have hmem : f ∈ x.after.entries ↔ x.after.find? f.key = some f := by
    rw [find?, find?_eq_some_iff hdistinct]
    exact (and_iff_left rfl).symm
  rw [hmem]
  by_cases hkey : f.key = key
  · have hself : x.after.find? f.key = some ⟨key, value, x.now⟩ := by
      rw [hkey, hafter, find?_insert_self]
    rw [hself, Option.some_inj, eq_comm]
    exact (or_iff_left fun hother => hother.2.1 hkey).symm
  · have hnew : f ≠ ⟨key, value, x.now⟩ := fun hsame => hkey (congrArg Cached.key hsame)
    rw [or_iff_right hnew]
    constructor
    · intro hfind
      refine ⟨?_, hkey, fun hdisplaced => by cases hfind.symm.trans hdisplaced.2.2⟩
      rcases hsound.find?_insert hbound x.now value hkey with hkept | hgone
      · rw [← hafter, hfind] at hkept
        exact (mem_fresh_of_alive? hkept.symm).1
      · rw [← hafter, hfind] at hgone
        cases hgone
    · rintro ⟨hfresh, -, hstays⟩
      have halive := alive?_of_mem_fresh hsound.distinct hfresh
      rcases hsound.find?_insert hbound x.now value hkey with hkept | hgone
      · rw [hafter, hkept, halive]
      · rw [← hafter] at hgone
        exact absurd ⟨⟨key, value, h, hkey⟩, by rw [halive]; exact Option.some_ne_none f, hgone⟩ hstays

theorem sound_after (hsound : x.cache.Sound bound timeToLive) (hbound : 0 < bound) :
    x.after.Sound bound timeToLive := by
  cases effect hsound.distinct with
  | stored _ hafter => exact hafter ▸ hsound.insert hbound _ _ _
  | found _ _ hafter => exact hafter ▸ hsound.touch _ _
  | missed _ _ hafter => exact hafter ▸ hsound.without _
  | evicted _ hafter => exact hafter ▸ hsound.without _
  | emptied _ hafter => exact hafter ▸ hsound.clear

/-- The call that uses a key is about this key. -/
theorem call_of_uses (h : x.Uses key value) :
    x.call = .insert key value ∨ x.call = .get key ∨ ∃ created, x.call = .getOrCreate key created := by
  rcases h with (hcall | ⟨created, hcall, -⟩) | (⟨hcall, -⟩ | ⟨created, hcall, -⟩)
  · exact .inl hcall
  · exact .inr (.inr ⟨created, hcall⟩)
  · exact .inr (.inl hcall)
  · exact .inr (.inr ⟨created, hcall⟩)

/-- A call uses one key at most, with one value. -/
theorem uses_unique {value' : α} (hdistinct : Distinct x.cache.entries) (h : x.Uses key value)
    (h' : x.Uses other value') : key = other ∧ value = value' := by
  have hkey : key = other := by
    rcases call_of_uses h with hcall | hcall | ⟨created, hcall⟩ <;>
      rcases call_of_uses h' with hcall' | hcall' | ⟨created', hcall'⟩ <;>
        cases hcall.symm.trans hcall' <;> rfl
  subst hkey
  have hfind := (find?_of_uses hdistinct h).symm.trans (find?_of_uses hdistinct h')
  exact ⟨rfl, congrArg Cached.value (Option.some.inj hfind)⟩

end Event

/-- **A trace keeps a cache sound.** -/
theorem Trace.sound (h : Trace c events c') (hsound : c.Sound bound timeToLive) (hbound : 0 < bound) :
    c'.Sound bound timeToLive :=
  h.preserved (fun _ _ order hc => hc.reorder order) (fun _ _ hx => Event.sound_after hx hbound) hsound

/-- Every call of a trace finds a sound cache. -/
theorem Trace.sound_of_mem (h : Trace c events c') (hsound : c.Sound bound timeToLive) (hbound : 0 < bound)
    (hx : x ∈ events) : x.cache.Sound bound timeToLive :=
  h.holds_of_mem (fun _ _ order hc => hc.reorder order) (fun _ _ hx => Event.sound_after hx hbound) hsound hx

end Cache

end RemoteShell
