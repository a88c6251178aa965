import Mathlib.Data.List.Induction
import Mathlib.Data.List.Nodup
import RemoteShell.Proofs.Cache.Trace

/-!
# Idle values expire

With a time to live, a value is given back as long as it is not idle for too long, and what counts is the last
use of its key: when it was stored, or found (`LastUse`).  A cache does not notice when a value expires.  It
finds out when the key is looked up, and when any value is stored, and until then the entry is there and is
counted.

So the entries alone do not tell what the history does; but those that are not expired do (`Trace.alive?_iff`): a
key has one if and only if its last use was recent.  This goes by induction on the trace from its end.  An entry
that is spared may go if it is expired, and then it would be expired later on as well.

If instants increase, no two entries were used last at the same one (`Trace.fresh_unique`), and the one that is
displaced when there is no room is the one that has been idle for longest.
-/

namespace RemoteShell

variable {α ε : Type}

namespace Cache

open Cached

variable {c c' : Cache α} {events earlier : List (Event α ε)} {x : Event α ε} {e f : Cached α}
  {key : Fingerprint} {value : α} {used now bound capacity : Nat} {timeToLive : Option Duration}

/-! ## The last use of a key -/

/-- Less than the time to live lies between two instants. -/
def Within (timeToLive : Option Duration) (used now : Nat) : Prop :=
  ∀ ttl, timeToLive = some ttl → now - used < ttl.nanoseconds

/-- A key was used last at an instant, with a value: since then its entry was not removed or displaced. -/
def LastUse (events : List (Event α ε)) (key : Fingerprint) (value : α) (used : Nat) : Prop :=
  Latest (fun x => x.Uses key value ∧ x.now = used) (fun y => y.Spares key) events

theorem isExpired_eq_false_iff (h : c.timeToLive = timeToLive) :
    c.isExpired now e = false ↔ Within timeToLive e.lastUsed now := by
  subst h
  rw [isExpired, Within]
  cases c.timeToLive with
  | none => simp
  | some ttl => simp

/-- What is expired stays expired. -/
theorem Within.since {since : Nat} (h : Within timeToLive used now) (hle : since ≤ now) :
    Within timeToLive used since :=
  fun ttl httl => Nat.lt_of_le_of_lt (Nat.sub_le_sub_right hle used) (h ttl httl)

/-! ## Entries that are not expired -/

/-- **A call** takes the last use of a key on to the entries that are not expired behind it. -/
theorem Event.alive?_after (hsound : x.cache.Sound bound timeToLive) (hbound : 0 < bound) (hnow : x.now ≤ now)
    (hbefore : ∀ value used, x.cache.alive? now key = some ⟨key, value, used⟩ ↔
      LastUse earlier key value used ∧ Within timeToLive used now) :
    x.after.alive? now key = some ⟨key, value, used⟩ ↔
      LastUse (earlier ++ [x]) key value used ∧ Within timeToLive used now := by
  have hafter := x.sound_after hsound hbound
  rw [LastUse, latest_concat, ← LastUse]
  by_cases huses : ∃ value', x.Uses key value'
  · obtain ⟨value', huses⟩ := huses
    have hfind := find?_of_uses hsound.distinct huses
    have hunspared : ¬ x.Spares key := fun hspares => hspares.unused value' huses
    rw [alive?_eq_some_iff, isExpired_eq_false_iff hafter.unchanged, hfind]
    constructor
    · rintro ⟨hentry, hwithin⟩
      cases hentry
      exact ⟨.inl ⟨huses, rfl⟩, hwithin⟩
    · rintro ⟨⟨hsame, rfl⟩ | ⟨-, hspares⟩, hwithin⟩
      · obtain ⟨-, rfl⟩ := uses_unique hsound.distinct huses hsame
        exact ⟨rfl, hwithin⟩
      · exact absurd hspares hunspared
  · by_cases hgone : x.Removes key ∨ x.Displaces key
    · have hfind : x.after.find? key = none := hgone.elim find?_of_removes fun h => h.2.2
      have hunspared : ¬ x.Spares key := fun hspares => hgone.elim hspares.unremoved hspares.undisplaced
      constructor
      · intro halive
        cases hfind.symm.trans (alive?_eq_some_iff.1 halive).1
      · rintro ⟨⟨hsame, -⟩ | ⟨-, hspares⟩, -⟩
        · exact absurd ⟨value, hsame⟩ huses
        · exact absurd hspares hunspared
    · obtain ⟨hunremoved, hundisplaced⟩ := not_or.1 hgone
      have hspares : x.Spares key := ⟨not_exists.1 huses, hunremoved, hundisplaced⟩
      have hlast : (x.Uses key value ∧ x.now = used) ∨ (LastUse earlier key value used ∧ x.Spares key) ↔
          LastUse earlier key value used := by
        rw [or_iff_right fun hsame => huses ⟨value, hsame.1⟩, and_iff_left hspares]
      rw [hlast, ← hbefore]
      have hexpired : ∀ f, x.after.isExpired now f = x.cache.isExpired now f := by
        intro f
        rw [isExpired, isExpired, hafter.unchanged, hsound.unchanged]
      rcases find?_of_spares hsound hbound hspares with hkept | ⟨hnone, hdead⟩
      · rw [alive?_eq_some_iff, alive?_eq_some_iff, hkept, hexpired]
      · -- what went was expired at the call, so it would be expired now
        have hdead' : x.cache.alive? now key = none := by
          refine alive?_eq_none_iff.2 fun f hf => ?_
          by_contra hfresh
          rw [Bool.not_eq_true, isExpired_eq_false_iff hsound.unchanged] at hfresh
          have hfresh' := (isExpired_eq_false_iff hsound.unchanged).2 (hfresh.since hnow)
          cases (alive?_eq_none_iff.1 hdead f hf).symm.trans hfresh'
        have hnone' : x.after.alive? now key = none :=
          alive?_eq_none_iff.2 fun f hf => by cases hnone.symm.trans hf
        rw [hdead', hnone']

/-- **A key has an entry that is not expired if and only if its last use is recent.** -/
theorem Trace.alive?_iff (h : Trace (.ofCapacity capacity timeToLive) events c')
    (hnow : ∀ x ∈ events, x.now ≤ now) :
    c'.alive? now key = some ⟨key, value, used⟩ ↔
      LastUse events key value used ∧ Within timeToLive used now := by
  induction events using List.reverseRecOn generalizing c' value used with
  | nil =>
    cases h
    exact iff_of_false nofun fun hlast => not_latest_nil hlast.1
  | append_singleton events x ih =>
    obtain ⟨d, hearlier, order, hrest⟩ := h.split
    cases hrest
    rw [List.forall_mem_append] at hnow
    have hbound : 0 < max capacity 1 := Nat.le_max_right capacity 1
    have hd : d.Sound (max capacity 1) timeToLive := hearlier.sound (sound_ofCapacity capacity timeToLive) hbound
    refine Event.alive?_after (hd.reorder order) hbound (hnow.2 x (List.mem_singleton_self x)) fun value used => ?_
    rw [alive?_reorder hd.distinct order]
    exact ih hearlier hnow.1

/-- The entries that are not expired are those that were used last not too long ago. -/
theorem Trace.mem_fresh_iff (h : Trace (.ofCapacity capacity timeToLive) events c')
    (hnow : ∀ x ∈ events, x.now ≤ now) (order : c'.Reorders c) :
    e ∈ c.fresh now ↔ LastUse events e.key e.value e.lastUsed ∧ Within timeToLive e.lastUsed now := by
  have hbound : 0 < max capacity 1 := Nat.le_max_right capacity 1
  have hsound : c'.Sound (max capacity 1) timeToLive := h.sound (sound_ofCapacity capacity timeToLive) hbound
  rw [← h.alive?_iff hnow, ← alive?_reorder hsound.distinct order]
  exact ⟨alive?_of_mem_fresh (hsound.reorder order).distinct, fun halive => (mem_fresh_of_alive? halive).1⟩

/-- **No two were used last at the same instant**, if instants increase. -/
theorem Trace.fresh_unique (h : Trace (.ofCapacity capacity timeToLive) events c')
    (hincreasing : (events.map (·.now)).Pairwise (· < ·)) (hnow : ∀ x ∈ events, x.now ≤ now)
    (order : c'.Reorders c) (he : e ∈ c.fresh now) (hf : f ∈ c.fresh now) (hsame : e.lastUsed = f.lastUsed) :
    e = f := by
  have hbound : 0 < max capacity 1 := Nat.le_max_right capacity 1
  obtain ⟨⟨before, x, behind, hsplit, ⟨huses, hx⟩, -⟩, -⟩ := (h.mem_fresh_iff hnow order).1 he
  obtain ⟨⟨before', y, behind', hsplit', ⟨huses', hy⟩, -⟩, -⟩ := (h.mem_fresh_iff hnow order).1 hf
  have hx' : x ∈ events := hsplit ▸ List.mem_append_right before List.mem_cons_self
  have hy' : y ∈ events := hsplit' ▸ List.mem_append_right before' List.mem_cons_self
  have hnodup : (events.map (·.now)).Nodup := hincreasing.imp Nat.ne_of_lt
  obtain rfl : x = y := List.inj_on_of_nodup_map hnodup hx' hy' (hx.trans (hsame.trans hy.symm))
  have hdistinct : Distinct x.cache.entries :=
    (h.sound_of_mem (sound_ofCapacity capacity timeToLive) hbound hx').distinct
  obtain ⟨hkey, hvalue⟩ := Event.uses_unique hdistinct huses huses'
  cases e
  cases f
  simp only at hkey hvalue hsame
  rw [hkey, hvalue, hsame]

/-! ## Main result -/

/-- How a call treats idle values.  `earlier` is what was called before. -/
structure Event.Timely (bound : Nat) (timeToLive : Option Duration) (earlier : List (Event α ε))
    (x : Event α ε) : Prop where
  /-- The entries that are not expired are those that were used last not too long ago. -/
  fresh : ∀ e, e ∈ x.cache.fresh x.now ↔
    LastUse earlier e.key e.value e.lastUsed ∧ Within timeToLive e.lastUsed x.now
  /-- A look-up finds a value if and only if the last use of its key was not too long ago. -/
  finds : ∀ key value, x.Finds key value ↔
    x.Looks key ∧ ∃ used, LastUse earlier key value used ∧ Within timeToLive used x.now
  /-- The time of a value that is found starts again. -/
  restarts : ∀ key value, x.Finds key value → x.after.find? key = some ⟨key, value, x.now⟩
  /-- A look-up that does not find a value leaves no entry of its key, unless the value is created. -/
  drops : ∀ key, x.Looks key → (∀ value, ¬ x.Finds key value) →
    ∀ e, x.after.find? key = some e → x.Stores key e.value ∧ e.lastUsed = x.now
  /-- Only for a new key, and only if there is no room beside the entries that are not expired, one of these
  is displaced: the one that was used before all others. -/
  displaces : ∀ key, x.Displaces key ↔ ∃ other value o, x.Stores other value ∧
    (∀ f ∈ x.cache.fresh x.now, f.key ≠ other) ∧ (x.cache.fresh x.now).length = bound ∧
      o ∈ x.cache.fresh x.now ∧ o.key = key ∧ ∀ f ∈ x.cache.fresh x.now, f ≠ o → o.lastUsed < f.lastUsed
  /-- Behind a value that was stored all other entries that are not expired and not displaced are there as they
  were, and no others. -/
  stored : ∀ key value, x.Stores key value → ∀ f, f ∈ x.after.entries ↔
    f = ⟨key, value, x.now⟩ ∨ (f ∈ x.cache.fresh x.now ∧ f.key ≠ key ∧ ¬ x.Displaces f.key)
  room : x.after.size ≤ bound

/-- **A call in a trace treats idle values as it should.** -/
theorem Trace.timely {later : List (Event α ε)}
    (h : Trace (.ofCapacity capacity timeToLive) (earlier ++ x :: later) c')
    (hincreasing : ((earlier ++ x :: later).map (·.now)).Pairwise (· < ·)) :
    x.Timely (max capacity 1) timeToLive earlier := by
  have hbound : 0 < max capacity 1 := Nat.le_max_right capacity 1
  obtain ⟨d, hearlier, order, -⟩ := h.split
  have hsound : x.cache.Sound (max capacity 1) timeToLive :=
    (hearlier.sound (sound_ofCapacity capacity timeToLive) hbound).reorder order
  obtain ⟨hearlier', -, hbetween⟩ := List.pairwise_append.1 (List.map_append ▸ hincreasing)
  have hnow : ∀ y ∈ earlier, y.now ≤ x.now := fun y hy =>
    Nat.le_of_lt (hbetween y.now (List.mem_map_of_mem hy) x.now (List.mem_map_of_mem List.mem_cons_self))
  have hfresh : ∀ e, e ∈ x.cache.fresh x.now ↔
      LastUse earlier e.key e.value e.lastUsed ∧ Within timeToLive e.lastUsed x.now :=
    fun _ => hearlier.mem_fresh_iff hnow order
  refine ⟨hfresh, fun key value => ?_, fun key value hfinds => Event.find?_of_uses hsound.distinct (.inr hfinds),
    fun key hlooks hmisses e he => ?_, fun key => ?_, fun key value hstores f =>
      Event.mem_after_of_stores hsound hbound hstores, (Event.sound_after hsound hbound).room⟩
  · rw [Event.finds_iff hsound.distinct, Option.map_eq_some_iff]
    refine and_congr_right fun _ => ⟨?_, ?_⟩
    · rintro ⟨e, he, rfl⟩
      obtain ⟨hmem, rfl⟩ := mem_fresh_of_alive? he
      exact ⟨e.lastUsed, (hfresh e).1 hmem⟩
    · rintro ⟨used, hused⟩
      exact ⟨⟨key, value, used⟩, alive?_of_mem_fresh hsound.distinct ((hfresh ⟨key, value, used⟩).2 hused), rfl⟩
  · obtain ⟨-, hafter | ⟨value, hstores⟩⟩ := Event.after_of_misses hsound.distinct hlooks hmisses
    · rw [hafter, find?_without_self] at he
      cases he
    · rw [Event.find?_of_uses hsound.distinct (.inl hstores)] at he
      obtain rfl := Option.some.inj he
      exact ⟨hstores, rfl⟩
  · have hunique : ∀ e ∈ x.cache.fresh x.now, ∀ f ∈ x.cache.fresh x.now, e.lastUsed = f.lastUsed → e = f :=
      fun e he f hf => hearlier.fresh_unique hearlier' hnow order he hf
    rw [Event.displaces_iff hsound hbound hunique]
    simp only [alive?_eq_none_iff_fresh hsound.distinct]

/-- **Idle values expire.**  At instants that increase, whatever the capacity and the time to live are, whatever
is called, and whatever order the entries are in each time:

* the calls can be made;
* each of them treats idle values as `Event.Timely` says;
* there are never more than `max capacity 1` entries, although a value that nobody looks up is still counted
  when it is expired. -/
theorem trace_timely (capacity : Nat) (timeToLive : Option Duration) (turns : List (Turn α ε))
    (hincreasing : (turns.map (·.now)).Pairwise (· < ·)) :
    (∃ events c', Trace (.ofCapacity capacity timeToLive) events c' ∧ events.map (·.toTurn) = turns) ∧
      (∀ events c', Trace (.ofCapacity capacity timeToLive) events c' → events.map (·.toTurn) = turns →
        c'.size ≤ max capacity 1 ∧
        ∀ earlier x later, events = earlier ++ x :: later → x.Timely (max capacity 1) timeToLive earlier) ∧
      ∀ ttl, timeToLive = some ttl → ∀ (turn : Turn α ε) key value, turn.call = .insert key value →
        ∃ c', Trace (.ofCapacity capacity timeToLive) [⟨turn, .ofCapacity capacity timeToLive⟩] c' ∧
          c'.size = 1 ∧ c'.fresh (turn.now + ttl.nanoseconds) = [] := by
  refine ⟨?_, ?_, ?_⟩
  · obtain ⟨⟨c', htrace⟩, hturns⟩ := trace_recorded (.ofCapacity capacity timeToLive) turns
    exact ⟨_, c', htrace, hturns⟩
  · rintro events c' htrace rfl
    refine ⟨(htrace.sound (sound_ofCapacity capacity timeToLive) (Nat.le_max_right capacity 1)).room, ?_⟩
    rintro earlier x later rfl
    rw [List.map_map] at hincreasing
    exact htrace.timely hincreasing
  · rintro ttl rfl turn key value hcall
    obtain ⟨caller, now, call⟩ := turn
    obtain rfl : call = .insert key value := hcall
    refine ⟨_, .cons (.refl _) (.nil _), rfl, ?_⟩
    simp [fresh, isExpired, Event.after, Cache.call, Cache.insert, ofCapacity, makeRoom]

/-- With room for two values, a value that was found in time is there when another one, stored after it, has
expired and made room; a value that is stored last displaces the one that was not looked up. -/
theorem trace_timely_refreshed :
    let a : Fingerprint := ⟨"a"⟩
    let b : Fingerprint := ⟨"b"⟩
    let c : Fingerprint := ⟨"c"⟩
    let d : Fingerprint := ⟨"d"⟩
    let turns : List (Turn Nat String) :=
      [⟨0, 1, .insert a 1⟩, ⟨1, 5, .insert b 2⟩, ⟨0, 8, .get a⟩, ⟨1, 16, .insert c 3⟩, ⟨0, 17, .get a⟩,
        ⟨1, 18, .getOrCreate d (.ok 4)⟩, ⟨0, 19, .get c⟩, ⟨0, 27, .get a⟩]
    let events := recorded (.ofCapacity 2 (some ⟨10⟩)) turns
    (turns.map (·.now)).Pairwise (· < ·) ∧
      events.map (·.cache.entries.map (·.value)) = [[], [1], [2, 1], [2, 1], [3, 1], [3, 1], [4, 1], [4, 1]] ∧
      (∀ earlier x later, events = earlier ++ x :: later → x.Timely 2 (some ⟨10⟩) earlier) ∧
      ∃ used, LastUse (events.take 4) a 1 used ∧ Within (some ⟨10⟩) used 17 := by
  intro a b c d turns events
  have hincreasing : (turns.map (·.now)).Pairwise (· < ·) := by decide
  obtain ⟨⟨c', htrace⟩, hturns⟩ := trace_recorded (.ofCapacity 2 (some ⟨10⟩)) turns
  obtain ⟨-, htimely, -⟩ := trace_timely 2 (some ⟨10⟩) turns hincreasing
  have htimely' := (htimely events c' htrace hturns).2
  refine ⟨hincreasing, by decide +kernel, htimely', ?_⟩
  obtain ⟨x, later, hsplit, hturn, hvalue⟩ : ∃ x later, events = events.take 4 ++ x :: later ∧
      x.toTurn = ⟨0, 17, .get a⟩ ∧ (x.cache.get 17 a).1 = some 1 :=
    ⟨_, _, rfl, rfl, by decide +kernel⟩
  have hcall : x.call = .get a := congrArg Turn.call hturn
  have hnow : x.now = 17 := congrArg Turn.now hturn
  have hfinds : x.Finds a 1 := .inl ⟨hcall, by rw [Event.reply, hcall, hnow, Cache.call, hvalue]⟩
  exact hnow ▸ (((htimely' _ x later hsplit).finds a 1).1 hfinds).2

end Cache

end RemoteShell
