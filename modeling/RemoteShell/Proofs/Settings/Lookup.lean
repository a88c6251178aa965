import Mathlib.Data.List.Nodup
import RemoteShell.Proofs.Settings.Glob
import RemoteShell.Settings.Table

/-!
# Which settings a host has

A table is asked for a host by its name.  What stands under exactly this name is always the answer.  If nothing does,
the answer stands under a key that has a wildcard and fits the whole name (`StandsFor`), and there is an answer as soon
as there is such a key.  Keys without wildcards are names and nothing else, so they say nothing of any other host.

All of it is `Answers`, and `findBy?_answers` proves it for every engine that understands the expressions of the keys.
-/

namespace RemoteShell.HostTable

variable {engine : Regex.Engine} {t : HostTable} {host key : String}

/-- The keys of a table. -/
def keys (t : HostTable) : List String :=
  t.hosts.map Prod.fst

/-- A key stands for a host that may have another name: it has a wildcard, and it fits the whole name. -/
def StandsFor (key host : String) : Prop :=
  ('*' ∈ key.toList ∨ '?' ∈ key.toList) ∧ Glob.Fits key.toList host.toList

/-- A table without what stands under a key. -/
def without (t : HostTable) (key : String) : HostTable :=
  { t with hosts := t.hosts.filter (·.1 ≠ key) }

/-- What a table answers when it is asked for a host. -/
structure Answers (t : HostTable) (host : String) (answer : Option HostSettings) : Prop where
  /-- What stands under the name of the host goes first. -/
  named : ∀ settings, (host, settings) ∈ t.hosts → answer = some settings
  /-- Otherwise there is an answer exactly if a key stands for the host. -/
  isSome_iff : host ∉ t.keys → (answer.isSome ↔ ∃ key ∈ t.keys, StandsFor key host)
  /-- The answer is what stands under such a key. -/
  standing : host ∉ t.keys → ∀ settings, answer = some settings →
    ∃ key, (key, settings) ∈ t.hosts ∧ StandsFor key host
  /-- If there is only one such key, it is what stands under this one. -/
  single : host ∉ t.keys → ∀ key settings, (key, settings) ∈ t.hosts → StandsFor key host →
    (∀ other ∈ t.keys, StandsFor other host → other = key) → answer = some settings

/-- An engine understands the expressions of those keys that it is asked about. -/
def Understood (engine : Regex.Engine) (t : HostTable) : Prop :=
  ∀ key ∈ t.keys, Glob.hasWildcard key.toList = true → engine.Understands (Glob.expression key.toList)

theorem Understood.isPatternBy_iff (h : Understood engine t) (hkey : key ∈ t.keys) :
    isPatternBy engine key host = true ↔ StandsFor key host := by
  rw [isPatternBy, Bool.and_eq_true, StandsFor, ← Glob.hasWildcard_iff]
  exact and_congr_right fun hwildcard => Glob.covers_iff (h key hkey hwildcard)

/-- The search for a key that stands for a host. -/
theorem Understood.find?_cases (h : Understood engine t) (host : String) :
    (∃ key settings, (t.hosts.find? fun entry => isPatternBy engine entry.1 host) = some (key, settings) ∧
        (key, settings) ∈ t.hosts ∧ StandsFor key host) ∨
      ((t.hosts.find? fun entry => isPatternBy engine entry.1 host) = none ∧ ∀ key ∈ t.keys, ¬ StandsFor key host) := by
  cases hfind : t.hosts.find? fun entry => isPatternBy engine entry.1 host with
  | some entry =>
    have hmem := List.mem_of_find?_eq_some hfind
    have hpattern : isPatternBy engine entry.1 host = true := by simpa using List.find?_some hfind
    exact .inl ⟨entry.1, entry.2, rfl, hmem, (h.isPatternBy_iff (List.mem_map_of_mem hmem)).1 hpattern⟩
  | none =>
    refine .inr ⟨rfl, fun key hkey hstands => ?_⟩
    obtain ⟨entry, hmem, rfl⟩ := List.mem_map.1 hkey
    exact List.find?_eq_none.1 hfind entry hmem ((h.isPatternBy_iff hkey).2 hstands)

/-- Under one key stands one record. -/
theorem settings_unique (h : t.keys.Nodup) {s s' : HostSettings} (hs : (key, s) ∈ t.hosts)
    (hs' : (key, s') ∈ t.hosts) : s = s' :=
  congrArg Prod.snd (List.inj_on_of_nodup_map h hs hs' rfl)

/-- What stands under the name of a host is found first. -/
theorem findBy?_of_mem (engine : Regex.Engine) (h : t.keys.Nodup) {settings : HostSettings}
    (hmem : (host, settings) ∈ t.hosts) : t.findBy? engine host = some settings := by
  rw [findBy?]
  cases hnamed : t.hosts.find? (·.1 == host) with
  | some entry =>
    have hkey : entry.1 = host := by simpa using List.find?_some hnamed
    have hentry : (host, entry.2) ∈ t.hosts := hkey ▸ List.mem_of_find?_eq_some hnamed
    exact congrArg some (settings_unique h hentry hmem)
  | none => exact absurd (beq_self_eq_true host) (List.find?_eq_none.1 hnamed _ hmem)

/-- Without such an entry the patterns are searched. -/
theorem findBy?_of_notMem (engine : Regex.Engine) (h : host ∉ t.keys) :
    t.findBy? engine host = (t.hosts.find? fun entry => isPatternBy engine entry.1 host).map (·.2) := by
  have hnone : t.hosts.find? (·.1 == host) = none := by
    rw [List.find?_eq_none]
    intro entry hmem hkey
    exact h (List.mem_map.2 ⟨entry, hmem, by simpa using hkey⟩)
  rw [findBy?, hnone]

theorem answers_findBy? (hkeys : t.keys.Nodup) (h : Understood engine t) (host : String) :
    t.Answers host (t.findBy? engine host) where
  named settings hmem := findBy?_of_mem engine hkeys hmem
  isSome_iff hhost := by
    rw [findBy?_of_notMem engine hhost]
    obtain ⟨key, settings, hfind, hmem, hstands⟩ | ⟨hfind, hnone⟩ := h.find?_cases host
    · rw [hfind]
      exact iff_of_true rfl ⟨key, List.mem_map_of_mem hmem, hstands⟩
    · rw [hfind]
      refine iff_of_false nofun ?_
      rintro ⟨key, hkey, hstands⟩
      exact hnone key hkey hstands
  standing hhost settings hanswer := by
    rw [findBy?_of_notMem engine hhost] at hanswer
    obtain ⟨key, settings', hfind, hmem, hstands⟩ | ⟨hfind, -⟩ := h.find?_cases host
    · rw [hfind] at hanswer
      obtain rfl := Option.some.inj hanswer
      exact ⟨key, hmem, hstands⟩
    · rw [hfind] at hanswer
      cases hanswer
  single hhost key settings hmem hstands hsingle := by
    rw [findBy?_of_notMem engine hhost]
    obtain ⟨key', settings', hfind, hmem', hstands'⟩ | ⟨-, hnone⟩ := h.find?_cases host
    · obtain rfl := hsingle key' (List.mem_map_of_mem hmem') hstands'
      rw [hfind]
      exact congrArg some (settings_unique hkeys hmem' hmem)
    · exact absurd hstands (hnone key (List.mem_map_of_mem hmem))

/-- A name without wildcards does not count for other hosts. -/
theorem findBy?_without (engine : Regex.Engine) (t : HostTable) (hstar : '*' ∉ key.toList)
    (hquestion : '?' ∉ key.toList) (hne : key ≠ host) :
    (t.without key).findBy? engine host = t.findBy? engine host := by
  have hplain : Glob.hasWildcard key.toList = false := by
    rw [← Bool.not_eq_true, Glob.hasWildcard_iff]
    exact fun h => h.elim hstar hquestion
  have hfind : ∀ p : String × HostSettings → Bool, (∀ settings, p (key, settings) = false) →
      (t.without key).hosts.find? p = t.hosts.find? p := by
    intro p hp
    rw [without, List.find?_filter]
    congr 1
    funext entry
    by_cases hkey : entry.1 = key
    · subst hkey
      simp [hp entry.2]
    · simp [hkey]
  have hnamed := hfind (·.1 == host) fun _ => beq_false_of_ne hne
  have hpattern := hfind (fun entry => isPatternBy engine entry.1 host) fun _ => by
    rw [isPatternBy, hplain, Bool.false_and]
  rw [findBy?, findBy?, hnamed, hpattern]

/-- **Looking up a host.**  For every table and every host: what stands under exactly the name of the host is always
the answer; otherwise there is an answer if and only if some key with a wildcard fits the whole name, the answer
stands under such a key, and if there is only one, under this one.  A key without wildcards makes no difference to a
host of another name. -/
theorem findBy?_answers (engine : Regex.Engine) (t : HostTable) (host : String) (hkeys : t.keys.Nodup)
    (hengine : Understood engine t) :
    t.Answers host (t.findBy? engine host) ∧
      ∀ key, '*' ∉ key.toList → '?' ∉ key.toList → key ≠ host →
        (t.without key).findBy? engine host = t.findBy? engine host :=
  ⟨answers_findBy? hkeys hengine host, fun _ hstar hquestion hne => findBy?_without engine t hstar hquestion hne⟩

/-- A backslash in front of an asterisk is a part of the name, and so is a dot; a name without wildcards is no
prefix. -/
theorem findBy?_answers_backslash :
    let share : HostSettings := { hostname := some "files" }
    let t : HostTable := ⟨{}, [("box-?.lab", .unset), ("\\\\box.lab\\*", share), ("\\\\box", .unset)]⟩
    t.keys.Nodup ∧ Understood Regex.search? t ∧ t.find? "\\\\box.lab\\c$" = some share ∧
      (t.without "\\\\box").find? "\\\\box.lab\\c$" = some share := by
  intro share t
  have hkeys : t.keys.Nodup := by decide
  have hengine : Understood Regex.search? t := fun _ _ _ => Regex.search?_understands _
  have hpattern : ∀ key ∈ t.keys, isPatternBy Regex.search? key "\\\\box.lab\\c$" = true ↔
      key = "\\\\box.lab\\*" := by decide
  have hstands : ∀ key ∈ t.keys, StandsFor key "\\\\box.lab\\c$" ↔ key = "\\\\box.lab\\*" :=
    fun key hkey => (hengine.isPatternBy_iff hkey).symm.trans (hpattern key hkey)
  obtain ⟨hanswers, hwithout⟩ := findBy?_answers Regex.search? t "\\\\box.lab\\c$" hkeys hengine
  have hanswer := hanswers.single (by decide) "\\\\box.lab\\*" share (by decide)
    ((hstands _ (by decide)).2 rfl) fun key hkey => (hstands key hkey).1
  exact ⟨hkeys, hengine, hanswer, (hwithout "\\\\box" (by decide) (by decide) (by decide)).trans hanswer⟩

end RemoteShell.HostTable
