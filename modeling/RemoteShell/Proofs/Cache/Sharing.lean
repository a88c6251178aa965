import RemoteShell.Proofs.Cache.Trace

/-!
# Callers share what one of them created

Any number of callers look keys up in one cache and create what is not there.  While one of them creates a value
the others wait, so all that they do is a trace, whoever takes the next turn and at whatever instant.

An entry that is there goes on to be there until it is lost (`Event.Loses`): it is removed on demand, displaced,
or expired at a call.  Until then its value is replaced only by an insertion (`Event.find?_of_not_loses`, and for
a whole trace `Trace.find?_of_not_loses`).  So nobody creates a value that somebody has created before unless it
was lost in between, and until it is lost or replaced everybody finds the one that was created.
-/

namespace RemoteShell

variable {α ε : Type}

namespace Cache

open Cached

variable {c c' : Cache α} {events earlier between later : List (Event α ε)} {x y : Event α ε} {e : Cached α}
  {key : Fingerprint} {value : α} {bound capacity : Nat} {timeToLive : Option Duration}
  {created : Except ε α} {error : ε}

namespace Event

/-- A value is created for a key, and stored. -/
def Creates (x : Event α ε) (key : Fingerprint) (value : α) : Prop :=
  ∃ created, x.call = .getOrCreate key created ∧ x.reply = .result (.ok value) true

/-- A call finds the entry of a key and loses it, or finds it expired. -/
inductive Loses (x : Event α ε) (key : Fingerprint) : Prop
  | removed (removes : x.Removes key) (there : x.cache.find? key ≠ none)
  | displaced (displaces : x.Displaces key)
  | expired {e : Cached α} (there : x.cache.find? key = some e) (expired : x.cache.isExpired x.now e = true)

/-- An entry that a call does not lose is not expired. -/
theorem alive?_of_not_loses (hfind : x.cache.find? key = some e) (hkept : ¬ x.Loses key) :
    x.cache.alive? x.now key = some e := by
  refine alive?_eq_some_iff.2 ⟨hfind, ?_⟩
  by_contra hexpired
  exact hkept (.expired hfind (Bool.not_eq_false _ ▸ hexpired))

/-- A value is created only for a key that has no entry, or an expired one. -/
theorem alive?_of_creates (hdistinct : Distinct x.cache.entries) (h : x.Creates key value) :
    x.cache.alive? x.now key = none := by
  obtain ⟨created, hcall, hreply⟩ := h
  rcases getOrCreate_eq hdistinct hcall with ⟨e, -, hreply', -⟩ | ⟨hdead, -, -⟩
  · cases (Reply.result.inj (hreply.symm.trans hreply')).2
  · exact hdead

/-- **An entry that a call does not lose is there behind it**, with its value or one that was inserted. -/
theorem find?_of_not_loses (hsound : x.cache.Sound bound timeToLive) (hbound : 0 < bound)
    (hfind : x.cache.find? key = some e) (hkept : ¬ x.Loses key) :
    ∃ e', x.after.find? key = some e' ∧ (e'.value = e.value ∨ x.call = .insert key e'.value) := by
  have halive := alive?_of_not_loses hfind hkept
  by_cases huses : ∃ value, x.Uses key value
  · obtain ⟨value, huses⟩ := huses
    refine ⟨_, find?_of_uses hsound.distinct huses, ?_⟩
    rcases huses with (hcall | hcreates) | hfinds
    · exact .inr hcall
    · cases halive.symm.trans (alive?_of_creates hsound.distinct hcreates)
    · obtain ⟨e', halive', rfl, -⟩ := after_of_finds hsound.distinct hfinds
      have hsame : e' = e := Option.some.inj (halive'.symm.trans halive)
      have hvalue : e'.value = e.value := congrArg Cached.value hsame
      exact .inl hvalue
  · have hspares : x.Spares key :=
      ⟨not_exists.1 huses, fun hremoves => hkept (.removed hremoves (by rw [hfind]; nofun)),
        fun hdisplaces => hkept (.displaced hdisplaces)⟩
    rcases find?_of_spares hsound hbound hspares with hsame | ⟨-, hdead⟩
    · exact ⟨e, hsame.trans hfind, .inl rfl⟩
    · cases halive.symm.trans hdead

/-- **Nothing is stored by a failure.**  Only an expired entry of the key goes. -/
theorem mem_after_of_error (hdistinct : Distinct x.cache.entries) (hcall : x.call = .getOrCreate key (.error error))
    (hdead : x.cache.alive? x.now key = none) : x.reply = .result (.error error) true ∧
      ∀ f, f ∈ x.after.entries ↔
        f ∈ x.cache.entries ∧ ¬ (f.key = key ∧ x.cache.isExpired x.now f = true) := by
  rcases getOrCreate_eq hdistinct hcall with ⟨e, halive, -, -⟩ | ⟨-, hreply, hmade⟩
  · cases halive.symm.trans hdead
  · refine ⟨hreply, fun f => ?_⟩
    obtain ⟨-, -, hafter⟩ | ⟨value, hvalue, -⟩ := hmade
    · rw [hafter]
      refine mem_without.trans (and_congr_right fun hf => not_congr ?_)
      refine ⟨fun hkey => ⟨hkey, alive?_eq_none_iff.1 hdead f ?_⟩, fun h => h.1⟩
      exact (find?_eq_some_iff hdistinct).2 ⟨hf, hkey⟩
    · cases hvalue

end Event

/-- **An entry that no call of a trace loses is there in the end**, with its value or one that was inserted. -/
theorem Trace.find?_of_not_loses (h : Trace c events c') (hsound : c.Sound bound timeToLive) (hbound : 0 < bound)
    (hfind : c.find? key = some e) (hkept : ∀ x ∈ events, ¬ x.Loses key) :
    ∃ e', c'.find? key = some e' ∧ (e'.value = e.value ∨ ∃ x ∈ events, x.call = .insert key e'.value) := by
  induction h generalizing e with
  | nil => exact ⟨e, hfind, .inl rfl⟩
  | @cons c c' x events order _ ih =>
    have hsound' := hsound.reorder order
    have hfind' : x.cache.find? key = some e := (find?_eq_of_perm hsound.distinct order.entries).trans hfind
    obtain ⟨hfirst, hothers⟩ := List.forall_mem_cons.1 hkept
    obtain ⟨e₁, he₁, hvalue₁⟩ := Event.find?_of_not_loses hsound' hbound hfind' hfirst
    obtain ⟨e', he', hvalue⟩ := ih (Event.sound_after hsound' hbound) he₁ hothers
    refine ⟨e', he', ?_⟩
    rcases hvalue with hvalue | ⟨z, hz, hinsert⟩
    · rcases hvalue₁ with hvalue₁ | hinsert
      · exact .inl (hvalue.trans hvalue₁)
      · exact .inr ⟨x, List.mem_cons_self, hvalue ▸ hinsert⟩
    · exact .inr ⟨z, List.mem_cons_of_mem x hz, hinsert⟩

/-- A value that was created is found by a later call, or replaced before, if it is not lost. -/
theorem Trace.alive?_of_creates
    (h : Trace (.ofCapacity capacity timeToLive) (earlier ++ x :: (between ++ y :: later)) c')
    (hcreates : x.Creates key value) (hkept : ∀ z ∈ between ++ [y], ¬ z.Loses key) :
    Distinct y.cache.entries ∧ ∃ e, y.cache.alive? y.now key = some e ∧
      (e.value = value ∨ ∃ z ∈ between, z.call = .insert key e.value) := by
  have hbound : 0 < max capacity 1 := Nat.le_max_right capacity 1
  obtain ⟨d, hearlier, order, hrest⟩ := h.split
  obtain ⟨d', hbetween, order', -⟩ := hrest.split
  have hx := (hearlier.sound (sound_ofCapacity capacity timeToLive) hbound).reorder order
  have hd' := hbetween.sound (Event.sound_after hx hbound) hbound
  have hfind := Event.find?_of_uses hx.distinct (.inl (.inr hcreates))
  rw [List.forall_mem_append, List.forall_mem_singleton] at hkept
  obtain ⟨e, he, hvalue⟩ :=
    hbetween.find?_of_not_loses (Event.sound_after hx hbound) hbound hfind hkept.1
  have he' : y.cache.find? key = some e := (find?_eq_of_perm hd'.distinct order'.entries).trans he
  exact ⟨(hd'.reorder order').distinct, e, Event.alive?_of_not_loses he' hkept.2, hvalue⟩

/-! ## Main result -/

/-- What callers share in a row of calls. -/
structure Shares (events : List (Event α ε)) : Prop where
  /-- It is tried to create a value if and only if its key has no entry that is not expired; then what comes of
  it is given back. -/
  tries : ∀ x ∈ events, ∀ key created, x.call = .getOrCreate key created →
    ((∃ result, x.reply = .result result true) ↔ ∀ f ∈ x.cache.fresh x.now, f.key ≠ key) ∧
      ∀ result, x.reply = .result result true → result = created
  /-- Between two creations for a key its entry is lost. -/
  recreated : ∀ earlier x between y later key value value', events = earlier ++ x :: (between ++ y :: later) →
    x.Creates key value → y.Creates key value' → ∃ z ∈ between ++ [y], z.Loses key
  /-- Until the entry is lost or replaced, whoever looks the key up finds what was created. -/
  shared : ∀ earlier x between y later key value, events = earlier ++ x :: (between ++ y :: later) →
    x.Creates key value → (∀ z ∈ between ++ [y], ¬ z.Loses key) →
      (∀ z ∈ between, ∀ value', z.call ≠ .insert key value') → y.Looks key → y.Finds key value
  /-- A failure to create a value is given back.  All entries stay as they are, but an expired one of the key
  goes. -/
  failed : ∀ x ∈ events, ∀ key error, x.call = .getOrCreate key (.error error) →
    (∀ f ∈ x.cache.fresh x.now, f.key ≠ key) → x.reply = .result (.error error) true ∧
      ∀ f, f ∈ x.after.entries ↔
        f ∈ x.cache.entries ∧ ¬ (f.key = key ∧ x.cache.isExpired x.now f = true)

/-- **Callers share what one of them created.**  Whatever the capacity and the time to live are, whoever takes a
turn next, at whatever instant and for whatever call, and whatever order the entries are in each time: the calls
can be made, and callers share values as `Shares` says. -/
theorem trace_shares (capacity : Nat) (timeToLive : Option Duration) (turns : List (Turn α ε)) :
    (∃ events c', Trace (.ofCapacity capacity timeToLive) events c' ∧ events.map (·.toTurn) = turns) ∧
      ∀ events c', Trace (.ofCapacity capacity timeToLive) events c' → events.map (·.toTurn) = turns →
        Shares events := by
  refine ⟨?_, fun events c' htrace _ => ⟨?_, ?_, ?_, ?_⟩⟩
  · obtain ⟨⟨c', htrace⟩, hturns⟩ := trace_recorded (.ofCapacity capacity timeToLive) turns
    exact ⟨_, c', htrace, hturns⟩
  · intro x hx key created hcall
    have hdistinct := (htrace.sound_of_mem (sound_ofCapacity capacity timeToLive)
      (Nat.le_max_right capacity 1) hx).distinct
    rw [← alive?_eq_none_iff_fresh hdistinct]
    rcases Event.getOrCreate_eq hdistinct hcall with ⟨e, halive, hreply, -⟩ | ⟨hdead, hreply, -⟩
    · rw [halive, hreply]
      exact ⟨iff_of_false nofun nofun, nofun⟩
    · rw [hdead, hreply]
      exact ⟨iff_of_true ⟨created, rfl⟩ rfl, fun result hresult => (Reply.result.inj hresult).1.symm⟩
  · rintro earlier x between y later key value value' rfl hx hy
    by_contra hkept
    obtain ⟨hdistinct, e, halive, -⟩ :=
      htrace.alive?_of_creates hx fun z hz hloses => hkept ⟨z, hz, hloses⟩
    cases halive.symm.trans (Event.alive?_of_creates hdistinct hy)
  · rintro earlier x between y later key value rfl hx hkept huninserted hlooks
    obtain ⟨hdistinct, e, halive, hvalue⟩ := htrace.alive?_of_creates hx hkept
    refine (Event.finds_iff hdistinct).2 ⟨hlooks, ?_⟩
    rcases hvalue with rfl | ⟨z, hz, hinsert⟩
    · rw [halive, Option.map_some]
    · exact absurd hinsert (huninserted z hz e.value)
  · intro x hx key error hcall hdead
    have hdistinct := (htrace.sound_of_mem (sound_ofCapacity capacity timeToLive)
      (Nat.le_max_right capacity 1) hx).distinct
    exact Event.mem_after_of_error hdistinct hcall ((alive?_eq_none_iff_fresh hdistinct).2 hdead)

/-- Of three callers one fails to create a value and one creates it, and all find this one.  It is created again
when another value has displaced it. -/
theorem trace_shares_displaced :
    let a : Fingerprint := ⟨"a"⟩
    let b : Fingerprint := ⟨"b"⟩
    let turns : List (Turn Nat String) :=
      [⟨0, 1, .getOrCreate a (.error "no route")⟩, ⟨1, 2, .getOrCreate a (.ok 1)⟩,
        ⟨2, 2, .getOrCreate a (.ok 2)⟩, ⟨0, 3, .get a⟩, ⟨1, 4, .insert b 3⟩, ⟨2, 5, .getOrCreate a (.ok 4)⟩]
    let events := recorded (.ofCapacity 1 none) turns
    events.map (·.cache.entries.map (·.value)) = [[], [], [1], [1], [1], [3]] ∧ Shares events ∧
      ∃ z ∈ events.drop 2, z.Loses a := by
  intro a b turns events
  obtain ⟨⟨c', htrace⟩, hturns⟩ := trace_recorded (.ofCapacity 1 none) turns
  obtain ⟨-, hshares⟩ := trace_shares 1 none turns
  have hshares' := hshares events c' htrace hturns
  have hcreates : ∀ x ∈ events, ∀ value, x.call = .getOrCreate a (.ok value) →
      (∀ f ∈ x.cache.fresh x.now, f.key ≠ a) → x.Creates a value := by
    intro x hx value hcall hdead
    obtain ⟨htries, hresult⟩ := hshares'.tries x hx a _ hcall
    obtain ⟨result, hreply⟩ := htries.2 hdead
    exact ⟨_, hcall, hresult result hreply ▸ hreply⟩
  refine ⟨by decide +kernel, hshares', ?_⟩
  obtain ⟨x, between, y, hsplit, hbehind, hfirst, hfirst', hagain, hagain'⟩ :
      ∃ (x : Event Nat String) (between : List (Event Nat String)) (y : Event Nat String),
      events = events.take 1 ++ x :: (between ++ y :: []) ∧ between ++ [y] = events.drop 2 ∧
      x.call = .getOrCreate a (.ok 1) ∧ (∀ f ∈ x.cache.fresh x.now, f.key ≠ a) ∧
      y.call = .getOrCreate a (.ok 4) ∧ ∀ f ∈ y.cache.fresh y.now, f.key ≠ a :=
    ⟨_, (events.drop 2).take 3, _, rfl, rfl, rfl, by decide +kernel, rfl, by decide +kernel⟩
  have hx : x ∈ events := hsplit ▸ List.mem_append_right _ List.mem_cons_self
  have hy : y ∈ events := List.mem_of_mem_drop (hbehind ▸ List.mem_append_right between (List.mem_singleton_self y))
  exact hbehind ▸ hshares'.recreated _ x between y [] a 1 4 hsplit (hcreates x hx 1 hfirst hfirst')
    (hcreates y hy 4 hagain hagain')

end Cache

end RemoteShell
