import Mathlib.Data.Multiset.Basic
import RemoteShell.Proofs.Cache.Entries

/-!
# A cache keeps what was used last

A cache without a time to live is a list of values by keys in the order of their use (`Recency`), of bounded
length.  A key that is used goes to the front; a new key for which there is no room drops the last one.

The cache does not have this list.  It has entries in an order of its own, which may be another one every
time (`Cache.Reorders`), each with the instant of its last use, and looks for the oldest one when it needs
room.  `Cache.Keeps` says how the two belong together: the entries, sorted by their last use, are the list.
One operation after the other keeps it so and gives the same (`Cache.Keeps.call`), as long as time goes on;
hence so do whole runs (`runs_eq_recency`).
-/

namespace RemoteShell

variable {α ε : Type}

namespace Cache

/-! ## Operations -/

/-- An operation on a cache. -/
inductive Call (α ε : Type) where
  | insert (key : Fingerprint) (value : α)
  | get (key : Fingerprint)
  /-- Look a key up; if it is not there, an attempt to create its value gives this. -/
  | getOrCreate (key : Fingerprint) (created : Except ε α)
  | evict (key : Fingerprint)
  | clear
  | drain

/-- What an operation gives. -/
inductive Reply (α ε : Type) where
  | nothing
  /-- The value of a key, or the one that was removed. -/
  | value (value : Option α)
  /-- The value of a key, and whether it was tried to create one. -/
  | result (result : Except ε α) (tried : Bool)
  /-- All values, in no particular order. -/
  | all (values : Multiset α)

/-- Perform an operation. -/
def call (c : Cache α) (now : Nat) : Call α ε → Reply α ε × Cache α
  | .insert key value => (.nothing, c.insert now key value)
  | .get key => (.value (c.get now key).1, (c.get now key).2)
  | .getOrCreate key created =>
    let (result, tried, c') := c.getOrCreate now key fun _ => created
    (.result result tried, c')
  | .evict key => (.value (c.evict key).1, (c.evict key).2)
  | .clear => (.nothing, c.clear)
  | .drain => (.all c.drain.1, c.drain.2)

/-- What can be seen of an operation: what it gives, and what is said of the size behind it. -/
structure Report (α ε : Type) where
  reply : Reply α ε
  size : Nat
  isEmpty : Bool

/-- The report on an operation. -/
def report (c : Cache α) (now : Nat) (call : Call α ε) : Report α ε :=
  ⟨(c.call now call).1, (c.call now call).2.size, (c.call now call).2.isEmpty⟩

/-- A cache with the same entries, perhaps in another order. -/
structure Reorders (c d : Cache α) : Prop where
  capacity : d.capacity = c.capacity
  timeToLive : d.timeToLive = c.timeToLive
  entries : d.entries.Perm c.entries

/-- Some operations in a row, each at its instant, with the reports on them.  Before each of them the
entries may come to be in another order. -/
inductive Runs : Cache α → List (Nat × Call α ε) → List (Report α ε) → Cache α → Prop
  | nil (c : Cache α) : Runs c [] [] c
  | cons {c d c' : Cache α} {now : Nat} {call : Call α ε} {calls : List (Nat × Call α ε)}
      {reports : List (Report α ε)} (order : c.Reorders d)
      (rest : Runs (d.call now call).2 calls reports c') :
      Runs c ((now, call) :: calls) (d.report now call :: reports) c'

/-- There is a run of any operations, for one with the entries as they are. -/
theorem exists_runs (c : Cache α) (calls : List (Nat × Call α ε)) : ∃ reports c', Runs c calls reports c' := by
  induction calls generalizing c with
  | nil => exact ⟨[], c, .nil c⟩
  | cons head calls ih =>
    obtain ⟨now, call⟩ := head
    obtain ⟨reports, c', hrest⟩ := ih (c.call now call).2
    exact ⟨_, c', .cons ⟨rfl, rfl, .refl _⟩ hrest⟩

end Cache

/-! ## Values in the order of their use -/

/-- Values by keys, the one that was used last first. -/
abbrev Recency (α : Type) := List (Fingerprint × α)

namespace Recency

open Cache (Call Reply Report)

/-- The value of a key. -/
def find? (l : Recency α) (key : Fingerprint) : Option α :=
  (List.find? (·.1 == key) l).map (·.2)

/-- All values but the one of a key. -/
def without (l : Recency α) (key : Fingerprint) : Recency α :=
  l.filter (·.1 ≠ key)

/-- Put a value to the front.  A key that is there already gets the value; a new one drops the last key of
a list that is full. -/
def put (bound : Nat) (l : Recency α) (key : Fingerprint) (value : α) : Recency α :=
  match l.find? key with
  | some _ => (key, value) :: l.without key
  | none => if l.length < bound then (key, value) :: l else (key, value) :: l.dropLast

/-- Perform an operation on a list of bounded length. -/
def call (bound : Nat) (l : Recency α) : Call α ε → Reply α ε × Recency α
  | .insert key value => (.nothing, l.put bound key value)
  | .get key =>
    match l.find? key with
    | some value => (.value (some value), (key, value) :: l.without key)
    | none => (.value none, l)
  | .getOrCreate key created =>
    match l.find? key, created with
    | some value, _ => (.result (.ok value) false, (key, value) :: l.without key)
    | none, .ok value => (.result (.ok value) true, l.put bound key value)
    | none, .error e => (.result (.error e) true, l)
  | .evict key => (.value (l.find? key), l.without key)
  | .clear => (.nothing, [])
  | .drain => (.all (l.map (·.2) : List α), [])

/-- The list after some operations. -/
def after (bound : Nat) (l : Recency α) (calls : List (Call α ε)) : Recency α :=
  calls.foldl (fun l call => (l.call bound call).2) l

/-- The reports on some operations. -/
def reports (bound : Nat) (l : Recency α) : List (Call α ε) → List (Report α ε)
  | [] => []
  | call :: calls =>
    let (reply, l') := l.call bound call
    ⟨reply, l'.length, l'.isEmpty⟩ :: l'.reports bound calls

end Recency

/-! ## A cache and its list -/

open Cached

/-- The key and the value of an entry. -/
def Cached.pair (e : Cached α) : Fingerprint × α := (e.key, e.value)

namespace Cache

variable {c d : Cache α} {l : Recency α} {recent : List (Cached α)} {e : Cached α} {key : Fingerprint}
  {bound before now : Nat}

/-- The entries of a cache in the order of their use. -/
structure Sorts (bound before : Nat) (c : Cache α) (recent : List (Cached α)) : Prop where
  capacity : c.capacity = bound
  unlimited : c.timeToLive = none
  perm : c.entries.Perm recent
  distinct : Distinct recent
  byUse : ByUse recent
  /-- All were used before this instant. -/
  past : ∀ e ∈ recent, e.lastUsed < before
  room : recent.length ≤ bound

/-- A cache keeps a list: its entries in the order of their use are the list. -/
def Keeps (bound before : Nat) (c : Cache α) (l : Recency α) : Prop :=
  ∃ recent, c.Sorts bound before recent ∧ recent.map Cached.pair = l

/-! ### What the list says of the entries -/

theorem find?_pairs (recent : List (Cached α)) (key : Fingerprint) :
    Recency.find? (recent.map Cached.pair) key = (recent.find? (·.key == key)).map (·.value) := by
  rw [Recency.find?, List.find?_map, Option.map_map]
  rfl

theorem without_pairs (recent : List (Cached α)) (key : Fingerprint) :
    Recency.without (recent.map Cached.pair) key = (Cached.without recent key).map Cached.pair := by
  rw [Recency.without, List.filter_map]
  rfl

theorem Sorts.find? (h : c.Sorts bound before recent) (key : Fingerprint) :
    c.find? key = recent.find? (·.key == key) :=
  find?_eq_of_perm h.distinct h.perm

/-- Without a time to live nothing expires. -/
theorem Sorts.isExpired (h : c.Sorts bound before recent) (now : Nat) (e : Cached α) :
    c.isExpired now e = false :=
  isExpired_of_unlimited h.unlimited now e

theorem Sorts.reorder (h : c.Sorts bound before recent) (horder : c.Reorders d) :
    d.Sorts bound before recent :=
  ⟨horder.capacity.trans h.capacity, horder.timeToLive.trans h.unlimited, horder.entries.trans h.perm,
    h.distinct, h.byUse, h.past, h.room⟩

/-- Time goes on. -/
theorem Sorts.later (h : c.Sorts bound before recent) (hbefore : before ≤ now) : c.Sorts bound now recent :=
  ⟨h.capacity, h.unlimited, h.perm, h.distinct, h.byUse,
    fun e he => Nat.lt_of_lt_of_le (h.past e he) hbefore, h.room⟩

/-- Some of the entries are left, in the same order. -/
theorem Sorts.fewer (h : c.Sorts bound before recent) {kept : List (Cached α)} (hsub : kept.Sublist recent)
    {entries : List (Cached α)} (hperm : entries.Perm kept) :
    ({ c with entries } : Cache α).Sorts bound before kept :=
  ⟨h.capacity, h.unlimited, hperm, h.distinct.sublist hsub, h.byUse.sublist hsub,
    fun e he => h.past e (hsub.subset he), Nat.le_trans hsub.length_le h.room⟩

/-- An entry that is used now comes first. -/
theorem Sorts.use (h : c.Sorts bound before recent) (hbefore : before ≤ now) (value : α)
    {kept entries : List (Cached α)} (hsub : kept.Sublist recent) (hkey : ∀ f ∈ kept, f.key ≠ key)
    (hroom : kept.length < bound) (hperm : entries.Perm (⟨key, value, now⟩ :: kept)) :
    ({ c with entries } : Cache α).Sorts bound (now + 1) (⟨key, value, now⟩ :: kept) := by
  refine ⟨h.capacity, h.unlimited, hperm, ?_, ?_, ?_, hroom⟩
  · exact distinct_cons.2 ⟨hkey, h.distinct.sublist hsub⟩
  · refine List.pairwise_cons.2 ⟨fun f hf => ?_, h.byUse.sublist hsub⟩
    exact Nat.lt_of_lt_of_le (h.past f (hsub.subset hf)) hbefore
  · intro f hf
    rcases List.mem_cons.1 hf with rfl | hf
    · exact Nat.lt_succ_self now
    · have hpast := h.past f (hsub.subset hf)
      omega

/-- Without an entry that is there, there is room for another one. -/
theorem length_without_lt (h : e ∈ recent) : (Cached.without recent e.key).length < recent.length := by
  refine List.length_filter_lt_length_iff_exists.2 ⟨e, h, ?_⟩
  simp

/-! ### One operation -/

/-- A hit moves the key to the front, a miss changes nothing. -/
theorem Sorts.get (h : c.Sorts bound before recent) (hbefore : before ≤ now) (key : Fingerprint) :
    (recent.find? (·.key == key) = none ∧ c.get now key = (none, c)) ∨
      ∃ e, recent.find? (·.key == key) = some e ∧ (c.get now key).1 = some e.value ∧
        (c.get now key).2.Sorts bound (now + 1) (⟨key, e.value, now⟩ :: Cached.without recent key) := by
  cases hfind : recent.find? (·.key == key) with
  | none =>
    left
    rw [Cache.get, h.find?, hfind]
    exact ⟨rfl, rfl⟩
  | some e =>
    right
    obtain ⟨he, rfl⟩ := (find?_eq_some_iff h.distinct).1 hfind
    rw [Cache.get, h.find?, hfind]
    simp only [h.isExpired now e, Bool.false_eq_true, if_false]
    refine ⟨e, rfl, rfl, ?_⟩
    refine h.use hbefore e.value List.filter_sublist (fun f hf => (mem_without.1 hf).2)
      (Nat.lt_of_lt_of_le (length_without_lt he) h.room) ?_
    refine ((h.perm.trans (perm_cons_without h.distinct he)).map _).trans ?_
    have hothers : (Cached.without recent e.key).map
        (fun f => if f.key == e.key then { f with lastUsed := now } else f) = Cached.without recent e.key := by
      refine List.map_congr_left (g := id) (fun f hf => ?_) |>.trans (List.map_id _)
      rw [if_neg (by simpa using (mem_without.1 hf).2), id]
    rw [List.map_cons, hothers, if_pos (beq_self_eq_true e.key)]

/-- Storing a value puts its key to the front.  Only a new key drops another one, and only from a full
list. -/
theorem Sorts.insert (h : c.Sorts bound before recent) (hbound : 0 < bound) (hbefore : before ≤ now)
    (key : Fingerprint) (value : α) :
    (c.insert now key value).Keeps bound (now + 1) (Recency.put bound (recent.map Cached.pair) key value) := by
  have hfresh : (c.entries.filter fun e => !c.isExpired now e) = c.entries := by
    refine List.filter_eq_self.2 fun e _ => ?_
    rw [h.isExpired now e, Bool.not_false]
  rw [Recency.put, find?_pairs, Cache.insert, hfresh, List.length_map]
  cases hfind : recent.find? (·.key == key) with
  | some e =>
    obtain ⟨he, rfl⟩ := (find?_eq_some_iff h.distinct).1 hfind
    have hany : c.entries.any (·.key == e.key) = true :=
      List.any_eq_true.2 ⟨e, h.perm.mem_iff.2 he, beq_self_eq_true e.key⟩
    simp only [hany, if_true, Option.map_some, without_pairs]
    exact ⟨_, h.use hbefore value List.filter_sublist (fun f hf => (mem_without.1 hf).2)
      (Nat.lt_of_lt_of_le (length_without_lt he) h.room) ((h.perm.filter _).cons _), rfl⟩
  | none =>
    have hnew := find?_eq_none_iff.1 hfind
    have hany : c.entries.any (·.key == key) = false := by
      refine List.any_eq_false.2 fun f hf => ?_
      simpa using hnew f (h.perm.mem_iff.1 hf)
    simp only [hany, Bool.false_eq_true, if_false, Option.map_none]
    by_cases hroom : recent.length < bound
    · have hless : c.entries.length < c.capacity := by
        rwa [h.perm.length_eq, h.capacity]
      rw [if_pos hroom, makeRoom_of_lt _ hless]
      exact ⟨_, h.use hbefore value (List.Sublist.refl _) hnew hroom (h.perm.cons _), rfl⟩
    · have hfull : recent.length = c.capacity :=
        (Nat.le_antisymm h.room (Nat.not_lt.1 hroom)).trans h.capacity.symm
      have hpositive : 0 < c.capacity := h.capacity.symm ▸ hbound
      have hdropped : (makeRoom c.capacity c.entries.length c.entries).Perm recent.dropLast :=
        makeRoom_of_full h.distinct h.byUse h.perm hpositive hfull
      have hless : recent.dropLast.length < bound := by
        rw [List.length_dropLast, hfull, h.capacity]
        omega
      rw [if_neg hroom, ← List.map_dropLast]
      exact ⟨_, h.use hbefore value (List.dropLast_sublist _)
        (fun f hf => hnew f ((List.dropLast_sublist _).subset hf)) hless (hdropped.cons _), rfl⟩

/-- Looking a key up does to a cache and its list the same. -/
theorem Sorts.keeps_get (h : c.Sorts bound before recent) (hbefore : before ≤ now) (key : Fingerprint) :
    (Recency.find? (recent.map Cached.pair) key = none ∧ c.get now key = (none, c)) ∨
      ∃ value, Recency.find? (recent.map Cached.pair) key = some value ∧ (c.get now key).1 = some value ∧
        (c.get now key).2.Keeps bound (now + 1)
          ((key, value) :: Recency.without (recent.map Cached.pair) key) := by
  rcases h.get hbefore key with ⟨hfind, hget⟩ | ⟨e, hfind, hvalue, hsorts⟩
  · exact .inl ⟨by rw [find?_pairs, hfind, Option.map_none], hget⟩
  · refine .inr ⟨e.value, by rw [find?_pairs, hfind, Option.map_some], hvalue, _, hsorts, ?_⟩
    rw [without_pairs]
    rfl

/-- **One operation** gives the same on a cache and on its list, and the cache keeps the list behind it. -/
theorem Keeps.call (h : c.Keeps bound before l) (hbound : 0 < bound) (hbefore : before ≤ now)
    (op : Call α ε) :
    (c.call now op).1 = (l.call bound op).1 ∧ (c.call now op).2.Keeps bound (now + 1) (l.call bound op).2 := by
  obtain ⟨recent, hsorts, rfl⟩ := h
  have hlater : c.Keeps bound (now + 1) (recent.map Cached.pair) :=
    ⟨recent, hsorts.later (Nat.le_succ_of_le hbefore), rfl⟩
  have hnone : ({ c with entries := [] } : Cache α).Keeps bound (now + 1) [] :=
    ⟨[], (hsorts.later (Nat.le_succ_of_le hbefore)).fewer (List.nil_sublist _) (.refl _), rfl⟩
  cases op with
  | insert key value => exact ⟨rfl, hsorts.insert hbound hbefore key value⟩
  | get key =>
    rcases hsorts.keeps_get hbefore key with ⟨hfind, hget⟩ | ⟨value, hfind, hvalue, hkeeps⟩
    · simp only [Cache.call, Recency.call, hfind, hget]
      exact ⟨trivial, hlater⟩
    · simp only [Cache.call, Recency.call, hfind, hvalue]
      exact ⟨trivial, hkeeps⟩
  | getOrCreate key created =>
    rcases hsorts.keeps_get hbefore key with ⟨hfind, hget⟩ | ⟨value, hfind, hvalue, hkeeps⟩
    · cases created with
      | ok value =>
        simp only [Cache.call, Recency.call, Cache.getOrCreate, hfind, hget]
        exact ⟨trivial, hsorts.insert hbound hbefore key value⟩
      | error e =>
        simp only [Cache.call, Recency.call, Cache.getOrCreate, hfind, hget]
        exact ⟨trivial, hlater⟩
    · have hget : c.get now key = (some value, (c.get now key).2) := Prod.ext hvalue rfl
      have hfound : c.getOrCreate now key (fun _ => created) = (.ok value, false, (c.get now key).2) := by
        rw [Cache.getOrCreate, hget]
      simp only [Cache.call, Recency.call, hfind, hfound]
      exact ⟨trivial, hkeeps⟩
  | evict key =>
    refine ⟨?_, Cached.without recent key, ?_, ?_⟩
    · simp only [Cache.call, Recency.call, Cache.evict, hsorts.find?, find?_pairs]
    · exact (hsorts.later (Nat.le_succ_of_le hbefore)).fewer List.filter_sublist (hsorts.perm.filter _)
    · exact (without_pairs recent key).symm
  | clear => exact ⟨rfl, hnone⟩
  | drain =>
    refine ⟨?_, hnone⟩
    have hsame : (c.entries.map (·.value) : Multiset α) = (recent.map (·.value) : List α) :=
      Multiset.coe_eq_coe.2 (hsorts.perm.map _)
    simp only [Cache.call, Recency.call, Cache.drain, hsame, List.map_map]
    rfl

theorem Keeps.size (h : c.Keeps bound before l) : c.size = l.length := by
  obtain ⟨recent, hsorts, rfl⟩ := h
  rw [Cache.size, hsorts.perm.length_eq, List.length_map]

/-- Entries are counted alike. -/
theorem Keeps.isEmpty (h : c.Keeps bound before l) : c.isEmpty = l.isEmpty := by
  rw [Cache.isEmpty, h.size]
  cases l <;> rfl

/-- The value of a key, and which keys there are. -/
theorem Keeps.find? (h : c.Keeps bound before l) (key : Fingerprint) :
    (c.find? key).map (·.value) = l.find? key := by
  obtain ⟨recent, hsorts, rfl⟩ := h
  rw [hsorts.find?, find?_pairs]

/-- A list that a cache keeps is bounded and has distinct keys. -/
theorem Keeps.bounded (h : c.Keeps bound before l) : l.length ≤ bound ∧ (l.map (·.1)).Nodup := by
  obtain ⟨recent, hsorts, rfl⟩ := h
  refine ⟨(List.length_map _).symm ▸ hsorts.room, ?_⟩
  rw [List.map_map]
  exact hsorts.distinct

/-! ### Runs -/

/-- **A run** on a cache gives what it gives on the list. -/
theorem Runs.recency {calls : List (Nat × Call α ε)} {reports : List (Report α ε)} {c' : Cache α}
    (h : Runs c calls reports c') (hbound : 0 < bound) (hkeeps : c.Keeps bound before l)
    (hbefore : ∀ call ∈ calls, before ≤ call.1) (hincreasing : (calls.map (·.1)).Pairwise (· < ·)) :
    reports = l.reports bound (calls.map (·.2)) ∧
      ∃ before', c'.Keeps bound before' (l.after bound (calls.map (·.2))) := by
  induction h generalizing l before with
  | nil c => exact ⟨rfl, before, hkeeps⟩
  | @cons c d c' now call calls reports horder hrest ih =>
    obtain ⟨recent, hsorts, hl⟩ := hkeeps
    have hkeeps' : d.Keeps bound before l := ⟨recent, hsorts.reorder horder, hl⟩
    obtain ⟨hreply, hnext⟩ := hkeeps'.call hbound (hbefore _ List.mem_cons_self) call
    rw [List.map_cons, List.pairwise_cons] at hincreasing
    obtain ⟨hreports, hend⟩ := ih hnext
      (fun later hlater => hincreasing.1 later.1 (List.mem_map_of_mem hlater)) hincreasing.2
    refine ⟨?_, hend⟩
    rw [List.map_cons, Recency.reports, report, hreply, hnext.size, hnext.isEmpty, hreports]

theorem keeps_ofCapacity (capacity : Nat) :
    (ofCapacity capacity none : Cache α).Keeps (max capacity 1) 0 [] :=
  ⟨[], ⟨rfl, rfl, .refl _, List.nodup_nil, List.Pairwise.nil, nofun, Nat.zero_le _⟩, rfl⟩

/-! ## Main result -/

/-- The value at the front is the value of its key. -/
theorem find?_cons_self (l : Recency α) (key : Fingerprint) (value : α) :
    Recency.find? ((key, value) :: l) key = some value := by
  rw [Recency.find?, List.find?_cons_of_pos (by simp), Option.map_some]

/-- A value that was put into a list is there. -/
theorem find?_put (bound : Nat) (l : Recency α) (key : Fingerprint) (value : α) :
    (l.put bound key value).find? key = some value := by
  rw [Recency.put]
  split
  · exact find?_cons_self _ _ _
  · split <;> exact find?_cons_self _ _ _

/-- A key whose value was found or created is there. -/
theorem find?_getOrCreate (bound : Nat) (l : Recency α) (key : Fingerprint) (value : α) :
    ((l.call bound (.getOrCreate key (.ok value) : Call α ε)).2.find? key).isSome = true := by
  simp only [Recency.call]
  cases hfind : l.find? key with
  | some found => rw [find?_cons_self, Option.isSome_some]
  | none => rw [find?_put, Option.isSome_some]

/-- **A cache is a list in the order of use.**  Operations on a new cache without a time to live, at instants
that increase, can be performed, and whatever order its entries are in each time:

* every operation gives what it gives on the list of bounded length, and the size behind it is the length of
  the list; only the order of what is drained is left open;
* in the end every key has the value that it has in the list, which has at most `max capacity 1` keys, all
  distinct;
* a key that was stored last, or found or created last, is there. -/
theorem runs_eq_recency (capacity : Nat) (calls : List (Nat × Call α ε))
    (hincreasing : (calls.map (·.1)).Pairwise (· < ·)) :
    let bound := max capacity 1
    let list := Recency.after bound ([] : Recency α) (calls.map (·.2))
    (∃ reports c', Runs (.ofCapacity capacity none) calls reports c') ∧
      list.length ≤ bound ∧ (list.map (·.1)).Nodup ∧
      ∀ reports c', Runs (.ofCapacity capacity none) calls reports c' →
        reports = Recency.reports bound [] (calls.map (·.2)) ∧
          c'.size = list.length ∧ c'.isEmpty = list.isEmpty ∧
          (∀ key, (c'.find? key).map (·.value) = list.find? key) ∧
          (∀ earlier now key value, calls = earlier ++ [(now, .insert key value)] →
            (c'.find? key).map (·.value) = some value) ∧
          ∀ earlier now key value, calls = earlier ++ [(now, .getOrCreate key (.ok value))] →
            (c'.find? key).isSome = true := by
  intro bound list
  have hbound : 0 < bound := Nat.le_max_right capacity 1
  have hrun : ∀ reports c', Runs (.ofCapacity capacity none) calls reports c' →
      reports = Recency.reports bound [] (calls.map (·.2)) ∧ ∃ before, c'.Keeps bound before list :=
    fun reports c' h => h.recency hbound (keeps_ofCapacity capacity) (fun _ _ => Nat.zero_le _) hincreasing
  obtain ⟨reports₀, c₀, hexists⟩ := exists_runs (.ofCapacity capacity none) calls
  obtain ⟨-, before₀, hkeeps₀⟩ := hrun reports₀ c₀ hexists
  refine ⟨⟨reports₀, c₀, hexists⟩, hkeeps₀.bounded.1, hkeeps₀.bounded.2, ?_⟩
  intro reports c' h
  obtain ⟨hreports, before, hkeeps⟩ := hrun reports c' h
  refine ⟨hreports, hkeeps.size, hkeeps.isEmpty, hkeeps.find?, ?_, ?_⟩
  · rintro earlier now key value rfl
    have hlast : list = (Recency.after bound [] (earlier.map (·.2))).put bound key value := by
      simp only [list, Recency.after, List.map_append, List.foldl_append]
      rfl
    rw [hkeeps.find?, hlast, find?_put]
  · rintro earlier now key value rfl
    have hlast : list = ((Recency.after bound [] (earlier.map (·.2))).call bound
        (.getOrCreate key (.ok value) : Call α ε)).2 := by
      simp only [list, Recency.after, List.map_append, List.foldl_append]
      rfl
    have hfound := hkeeps.find? key
    rw [hlast] at hfound
    rw [← Option.isSome_map, hfound, find?_getOrCreate]

/-- Of two keys the one that was looked up stays when a third one comes; what failed to be created is not
there. -/
theorem runs_eq_recency_displaced :
    let a : Fingerprint := ⟨"a"⟩
    let b : Fingerprint := ⟨"b"⟩
    let c : Fingerprint := ⟨"c"⟩
    let calls : List (Nat × Call Nat String) :=
      [(1, .insert a 1), (2, .insert b 2), (3, .get a), (4, .getOrCreate c (.error "no route")),
        (5, .getOrCreate c (.ok 3)), (6, .get b), (7, .drain)]
    (calls.map (·.1)).Pairwise (· < ·) ∧ ∀ reports c', Runs (.ofCapacity 2 none) calls reports c' →
      reports.map (·.reply) = [.nothing, .nothing, .value (some 1), .result (.error "no route") true,
        .result (.ok 3) true, .value none, .all ([3, 1] : List Nat)] := by
  intro a b c calls
  have hincreasing : (calls.map (·.1)).Pairwise (· < ·) := by decide
  obtain ⟨-, -, -, hruns⟩ := runs_eq_recency 2 calls hincreasing
  refine ⟨hincreasing, fun reports c' h => ?_⟩
  obtain ⟨hreports, -⟩ := hruns reports c' h
  rw [hreports]
  rfl

end Cache

end RemoteShell
