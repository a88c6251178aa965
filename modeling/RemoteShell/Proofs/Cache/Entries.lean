import Mathlib.Data.List.Perm.Basic
import RemoteShell.Cache

/-!
# The entries of a cache

A cache is a list of entries in no particular order.  What its operations do is said here of every such
list whose keys are distinct, by membership and up to the order:

* `find?_eq_of_perm`: which entry a key has does not depend on the order;
* `perm_cons_without`: an entry can be taken to the front;
* `oldest?_eq_getLast?`: of entries in the order of their use, the last one is the oldest one;
* `makeRoom_of_full`: when there is no room for one more entry, the oldest one goes, and no other;
* `All.getOrCreate`: what holds of every key and its value, and of what is created, goes on to hold;
* `getOrCreate_of_getOrCreate`: what was found or created is what is found next.
-/

namespace RemoteShell

variable {α ε : Type} {entries recent : List (Cached α)} {e f : Cached α} {key : Fingerprint}

namespace Cached

/-- No two entries have the same key. -/
def Distinct (entries : List (Cached α)) : Prop :=
  (entries.map Cached.key).Nodup

theorem distinct_cons : Distinct (e :: entries) ↔ (∀ f ∈ entries, f.key ≠ e.key) ∧ Distinct entries := by
  simp only [Distinct, List.map_cons, List.nodup_cons, List.mem_map, not_exists, not_and]

theorem Distinct.sublist (h : Distinct recent) (hsub : entries.Sublist recent) : Distinct entries :=
  List.Nodup.sublist (hsub.map Cached.key) h

theorem Distinct.perm (h : Distinct recent) (hperm : entries.Perm recent) : Distinct entries :=
  (hperm.map Cached.key).nodup_iff.2 h

/-- The entries without the one of a key. -/
def without (entries : List (Cached α)) (key : Fingerprint) : List (Cached α) :=
  entries.filter (·.key ≠ key)

theorem mem_without : f ∈ without entries key ↔ f ∈ entries ∧ f.key ≠ key := by
  simp only [without, List.mem_filter, decide_eq_true_eq]

/-- A key that no entry has takes none away. -/
theorem without_of_forall_ne (h : ∀ f ∈ entries, f.key ≠ key) : without entries key = entries :=
  List.filter_eq_self.2 fun f hf => decide_eq_true (h f hf)

/-- The entry of a key is the only one with this key. -/
theorem find?_eq_some_iff (h : Distinct entries) :
    entries.find? (·.key == key) = some e ↔ e ∈ entries ∧ e.key = key := by
  constructor
  · intro hfound
    have hkey : (e.key == key) = true := by simpa using List.find?_some hfound
    exact ⟨List.mem_of_find?_eq_some hfound, beq_iff_eq.1 hkey⟩
  · rintro ⟨hmem, rfl⟩
    induction entries with
    | nil => cases hmem
    | cons f entries ih =>
      obtain ⟨hne, hdistinct⟩ := distinct_cons.1 h
      rcases List.mem_cons.1 hmem with rfl | hmem
      · simp
      · rw [List.find?_cons_of_neg (by simpa using (hne e hmem).symm)]
        exact ih hdistinct hmem

theorem find?_eq_none_iff : entries.find? (·.key == key) = none ↔ ∀ f ∈ entries, f.key ≠ key := by
  simp only [List.find?_eq_none, beq_iff_eq, ne_eq]

/-- **The entry of a key does not depend on the order.** -/
theorem find?_eq_of_perm (hdistinct : Distinct recent) (hperm : entries.Perm recent) :
    entries.find? (·.key == key) = recent.find? (·.key == key) := by
  apply Option.ext
  intro e
  rw [find?_eq_some_iff (hdistinct.perm hperm), find?_eq_some_iff hdistinct, hperm.mem_iff]

/-- **An entry can be taken to the front.** -/
theorem perm_cons_without (h : Distinct entries) (he : e ∈ entries) :
    entries.Perm (e :: without entries e.key) := by
  induction entries with
  | nil => cases he
  | cons f entries ih =>
    obtain ⟨hne, hdistinct⟩ := distinct_cons.1 h
    rcases List.mem_cons.1 he with rfl | he
    · have hsame : without (e :: entries) e.key = entries := by
        rw [without, List.filter_cons_of_neg (by simp), ← without, without_of_forall_ne hne]
      rw [hsame]
    · have hkept : without (f :: entries) e.key = f :: without entries e.key :=
        List.filter_cons_of_pos (decide_eq_true (hne e he).symm)
      rw [hkept]
      exact ((ih hdistinct he).cons f).trans (List.Perm.swap e f _)

/-! ## The oldest entry -/

/-- Entries in the order of their use, the one used last first. -/
def ByUse (recent : List (Cached α)) : Prop :=
  recent.Pairwise fun e f => f.lastUsed < e.lastUsed

/-- Of two entries in order that were used at the same instant, there is only one. -/
theorem ByUse.eq_of_lastUsed (h : ByUse recent) (he : e ∈ recent) (hf : f ∈ recent)
    (hsame : e.lastUsed = f.lastUsed) : e = f := by
  induction recent with
  | nil => cases he
  | cons g recent ih =>
    obtain ⟨hlater, hrest⟩ := List.pairwise_cons.1 h
    rcases List.mem_cons.1 he with heg | he <;> rcases List.mem_cons.1 hf with hfg | hf
    · rw [heg, hfg]
    · rw [heg] at hsame
      exact absurd hsame (Nat.ne_of_lt (hlater f hf)).symm
    · rw [hfg] at hsame
      exact absurd hsame (Nat.ne_of_lt (hlater e he))
    · exact ih hrest he hf

theorem ByUse.le_of_getLast? (h : ByUse recent) (hlast : recent.getLast? = some e) (hf : f ∈ recent) :
    e.lastUsed ≤ f.lastUsed := by
  obtain ⟨init, rfl⟩ := List.getLast?_eq_some_iff.1 hlast
  rcases List.mem_append.1 hf with hf | hf
  · exact Nat.le_of_lt ((List.pairwise_append.1 h).2.2 f hf e (List.mem_singleton_self e))
  · exact Nat.le_of_eq (congrArg Cached.lastUsed (List.mem_singleton.1 hf).symm)

end Cached

open Cached

namespace Cache

/-- The oldest entry is one of the entries, and none is older. -/
theorem oldest?_spec (h : oldest? entries = some e) : e ∈ entries ∧ ∀ f ∈ entries, e.lastUsed ≤ f.lastUsed := by
  induction entries generalizing e with
  | nil => cases h
  | cons g entries ih =>
    rw [oldest?] at h
    cases hrest : oldest? entries with
    | none =>
      rw [hrest] at h
      obtain rfl := Option.some.inj h
      have hnil : entries = [] := by
        cases entries with
        | nil => rfl
        | cons g' entries =>
          rw [oldest?] at hrest
          split at hrest <;> cases hrest
      subst hnil
      simp
    | some o =>
      rw [hrest] at h
      obtain ⟨hmem, hleast⟩ := ih hrest
      simp only [Option.some.injEq] at h
      split at h
      · rename_i hle
        subst h
        refine ⟨List.mem_cons_self, fun f hf => ?_⟩
        rcases List.mem_cons.1 hf with rfl | hf
        · exact Nat.le_refl _
        · exact Nat.le_trans hle (hleast f hf)
      · rename_i hlt
        subst h
        refine ⟨List.mem_cons_of_mem g hmem, fun f hf => ?_⟩
        rcases List.mem_cons.1 hf with rfl | hf
        · omega
        · exact hleast f hf

theorem oldest?_eq_none_iff : oldest? entries = none ↔ entries = [] := by
  cases entries with
  | nil => simp [oldest?]
  | cons e entries =>
    simp only [oldest?, reduceCtorEq, iff_false]
    split <;> nofun

/-- **The oldest entry is the last one in the order of use**, whatever the order they are looked at. -/
theorem oldest?_eq_getLast? (horder : ByUse recent) (hperm : entries.Perm recent) :
    oldest? entries = recent.getLast? := by
  cases hlast : recent.getLast? with
  | none =>
    rw [List.getLast?_eq_none_iff] at hlast
    rw [oldest?_eq_none_iff, ← List.perm_nil, ← hlast]
    exact hperm
  | some e =>
    have he : e ∈ recent := List.mem_of_getLast? hlast
    cases holdest : oldest? entries with
    | none =>
      rw [oldest?_eq_none_iff] at holdest
      rw [holdest] at hperm
      exact absurd (hperm.mem_iff.2 he) List.not_mem_nil
    | some o =>
      obtain ⟨ho, hleast⟩ := oldest?_spec holdest
      have hle : o.lastUsed ≤ e.lastUsed := hleast e (hperm.mem_iff.2 he)
      have hge : e.lastUsed ≤ o.lastUsed := horder.le_of_getLast? hlast (hperm.mem_iff.1 ho)
      rw [horder.eq_of_lastUsed (hperm.mem_iff.1 ho) he (Nat.le_antisymm hle hge)]

/-! ## Room for one more -/

/-- When there is room already, nothing goes. -/
theorem makeRoom_of_lt {capacity : Nat} (fuel : Nat) (h : entries.length < capacity) :
    makeRoom capacity fuel entries = entries := by
  cases fuel with
  | zero => rfl
  | succ fuel => rw [makeRoom, if_pos h]

/-- Without the last one, entries with distinct keys are all but those with its key. -/
theorem without_getLast (h : Distinct recent) (hlast : recent.getLast? = some e) :
    Cached.without recent e.key = recent.dropLast := by
  obtain ⟨init, rfl⟩ := List.getLast?_eq_some_iff.1 hlast
  have hne : ∀ f ∈ init, f.key ≠ e.key := by
    intro f hf
    rw [Distinct, List.map_append, List.nodup_append] at h
    exact h.2.2 f.key (List.mem_map_of_mem hf) e.key (List.mem_singleton_self _)
  have hkept : Cached.without init e.key = init := without_of_forall_ne hne
  rw [List.dropLast_concat, Cached.without, List.filter_append, ← Cached.without, hkept]
  simp

/-- **When there is no room, the oldest entry goes.** -/
theorem makeRoom_of_full {capacity : Nat} (hdistinct : Distinct recent) (horder : ByUse recent)
    (hperm : entries.Perm recent) (hcapacity : 0 < capacity) (hfull : recent.length = capacity) :
    (makeRoom capacity entries.length entries).Perm recent.dropLast := by
  have hlength : entries.length = capacity := hperm.length_eq.trans hfull
  obtain ⟨e, hlast⟩ : ∃ e, recent.getLast? = some e := by
    rw [← Option.ne_none_iff_exists', ne_eq, List.getLast?_eq_none_iff, ← List.length_eq_zero_iff]
    omega
  obtain ⟨fuel, hfuel⟩ : ∃ fuel, entries.length = fuel + 1 := ⟨capacity - 1, by omega⟩
  have hgone : (entries.filter (·.key ≠ e.key)).Perm recent.dropLast := by
    rw [← without_getLast hdistinct hlast]
    exact hperm.filter _
  have hroom : (entries.filter (·.key ≠ e.key)).length < capacity := by
    rw [hgone.length_eq, List.length_dropLast]
    omega
  rw [hfuel, makeRoom, if_neg (by omega), oldest?_eq_getLast? horder hperm, hlast]
  simp only
  rw [makeRoom_of_lt fuel hroom]
  exact hgone

theorem makeRoom_sublist (capacity fuel : Nat) (entries : List (Cached α)) :
    (makeRoom capacity fuel entries).Sublist entries := by
  induction fuel generalizing entries with
  | zero => exact .refl _
  | succ fuel ih =>
    rw [makeRoom]
    split
    · exact .refl _
    · split
      · exact .refl _
      · exact (ih _).trans List.filter_sublist

/-! ## What holds of all entries -/

variable {P : Fingerprint → α → Prop} {c : Cache α}

/-- Something holds of every key and its value. -/
def All (P : Fingerprint → α → Prop) (c : Cache α) : Prop :=
  ∀ e ∈ c.entries, P e.key e.value

theorem all_ofCapacity (capacity : Nat) (timeToLive : Option Duration) :
    (ofCapacity capacity timeToLive : Cache α).All P :=
  nofun

theorem All.without (h : c.All P) (key : Fingerprint) : (c.without key).All P :=
  fun e he => h e (List.mem_of_mem_filter he)

theorem All.get (h : c.All P) (now : Nat) (key : Fingerprint) :
    (c.get now key).2.All P ∧ ∀ value, (c.get now key).1 = some value → P key value := by
  rw [Cache.get]
  cases hfind : c.find? key with
  | none => exact ⟨h, nofun⟩
  | some e =>
    have hkey : (e.key == key) = true := by simpa using List.find?_some hfind
    have he : P e.key e.value := h e (List.mem_of_find?_eq_some hfind)
    simp only
    split
    · exact ⟨h.without key, nofun⟩
    · refine ⟨fun f hf => ?_, fun value hvalue => ?_⟩
      · obtain ⟨g, hg, rfl⟩ := List.mem_map.1 hf
        split <;> exact h g hg
      · rwa [← Option.some.inj hvalue, ← beq_iff_eq.1 hkey]

theorem All.insert (h : c.All P) (now : Nat) {key : Fingerprint} {value : α} (hnew : P key value) :
    (c.insert now key value).All P := by
  intro e he
  rw [Cache.insert] at he
  rcases List.mem_cons.1 he with rfl | he
  · exact hnew
  · refine h e (List.mem_of_mem_filter (p := fun e => !c.isExpired now e) ?_)
    split at he
    · exact List.mem_of_mem_filter he
    · exact (makeRoom_sublist _ _ _).subset he

/-- **What holds of all entries and of what is created goes on to hold**, and it holds of what is found. -/
theorem All.getOrCreate (h : c.All P) (now : Nat) {key : Fingerprint} (create : Unit → Except ε α)
    (hcreate : ∀ value, create () = .ok value → P key value) :
    (c.getOrCreate now key create).2.2.All P ∧
      ∀ value, (c.getOrCreate now key create).1 = .ok value → P key value := by
  obtain ⟨hrest, hfound⟩ := h.get now key
  rw [Cache.getOrCreate]
  rcases hget : c.get now key with ⟨found, c'⟩
  rw [hget] at hrest hfound
  cases found with
  | some value =>
    refine ⟨hrest, fun value' hvalue' => hfound value' ?_⟩
    rw [Except.ok.inj hvalue']
  | none =>
    simp only
    cases hnew : create () with
    | error e => exact ⟨hrest, nofun⟩
    | ok value =>
      refine ⟨hrest.insert now (hcreate value hnew), fun value' hvalue' => ?_⟩
      rw [← Except.ok.inj hvalue']
      exact hcreate value hnew

/-! ## What is found next

Without a time to live, a key that was looked up or stored has its value from then on, until something else is
done. -/

theorem isExpired_of_unlimited (hunlimited : c.timeToLive = none) (now : Nat) (e : Cached α) :
    c.isExpired now e = false := by
  rw [isExpired, hunlimited, Option.any_none]

theorem timeToLive_get (c : Cache α) (now : Nat) (key : Fingerprint) :
    (c.get now key).2.timeToLive = c.timeToLive := by
  rw [Cache.get]
  cases c.find? key with
  | none => rfl
  | some e =>
    simp only
    split <;> rfl

theorem get_eq_of_unlimited (hunlimited : c.timeToLive = none) (now : Nat) (key : Fingerprint) :
    (c.get now key).1 = (c.find? key).map (·.value) := by
  rw [Cache.get]
  cases c.find? key with
  | none => rfl
  | some e => simp only [isExpired_of_unlimited hunlimited, Bool.false_eq_true, if_false, Option.map_some]

/-- Looking a key up changes no value. -/
theorem value?_get (hunlimited : c.timeToLive = none) (now : Nat) (key other : Fingerprint) :
    ((c.get now key).2.find? other).map (·.value) = (c.find? other).map (·.value) := by
  rw [Cache.get]
  cases c.find? key with
  | none => rfl
  | some e =>
    simp only [isExpired_of_unlimited hunlimited, Bool.false_eq_true, if_false]
    have hsame : ((·.key == other) ∘ fun e : Cached α => if e.key == key then { e with lastUsed := now } else e)
        = fun e => e.key == other := by
      funext e
      rw [Function.comp_apply]
      split <;> rfl
    rw [find?, List.find?_map, hsame, ← find?, Option.map_map]
    congr 1
    funext e
    rw [Function.comp_apply]
    split <;> rfl

theorem getOrCreate_of_value (hunlimited : c.timeToLive = none) {create : Unit → Except ε α} {value : α}
    (h : (c.find? key).map (·.value) = some value) (now : Nat) :
    (c.getOrCreate now key create).1 = .ok value := by
  have hget : c.get now key = (some value, (c.get now key).2) :=
    Prod.ext ((get_eq_of_unlimited hunlimited now key).trans h) rfl
  rw [Cache.getOrCreate, hget]

/-- **What was found or created is what is found next.** -/
theorem getOrCreate_of_getOrCreate (hunlimited : c.timeToLive = none) {now : Nat}
    {create create' : Unit → Except ε α} {value : α} (h : (c.getOrCreate now key create).1 = .ok value)
    (later : Nat) : ((c.getOrCreate now key create).2.2.getOrCreate later key create').1 = .ok value := by
  have hlimit := (timeToLive_get c now key).trans hunlimited
  have hvalue := get_eq_of_unlimited hunlimited now key
  have hsame := value?_get hunlimited now key key
  generalize hafter : c.getOrCreate now key create = after at h ⊢
  rw [Cache.getOrCreate] at hafter
  rcases hget : c.get now key with ⟨found, c'⟩
  rw [hget] at hlimit hvalue hsame hafter
  cases found with
  | some found =>
    subst hafter
    refine getOrCreate_of_value hlimit ?_ later
    rw [hsame, ← hvalue, Except.ok.inj h]
  | none =>
    simp only at hafter
    cases hnew : create () with
    | error e =>
      rw [hnew] at hafter
      subst hafter
      cases h
    | ok created =>
      rw [hnew] at hafter
      subst hafter
      have hlimit' : (c'.insert now key created).timeToLive = none := hlimit
      refine getOrCreate_of_value hlimit' ?_ later
      rw [find?, Cache.insert, List.find?_cons_of_pos (by simp), Option.map_some, Except.ok.inj h]

end Cache

end RemoteShell
