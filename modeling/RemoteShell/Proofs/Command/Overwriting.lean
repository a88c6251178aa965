import Mathlib.Data.List.Induction
import Mathlib.Data.List.Nodup
import Mathlib.Data.List.TakeDrop
import Mathlib.Data.List.TakeWhile
import RemoteShell.CommandLine.Invocation
import RemoteShell.Proofs.Command.Variables
import RemoteShell.Proofs.Text.ByteOrder

/-!
# Variables that are set again

Calls that set variables, one after the other, leave each name with the value it was given last (`mem_setAll_iff`).  The
switches of a command line are such calls: what stands in front of the first equals sign of a switch is the name
(`Invocation.exists_splits_of_read`).

A line asks for no more than that.  It lists the variables by ascending names, so it is the same for all calls that
leave the same values, in whatever order the environment holds its variables (`line_of_last`).
-/

namespace RemoteShell

namespace CommandOptions

variable {o o' : CommandOptions} {calls calls' : List (String × String)} {name value : String}

/-! ## What calls leave -/

/-- Set some variables, one after the other. -/
def setAll (o : CommandOptions) (calls : List (String × String)) : CommandOptions :=
  calls.foldl (fun o call => o.setVariable call.1 call.2) o

/-- The value that a name is given last. -/
def last? (calls : List (String × String)) (name : String) : Option String :=
  calls.reverse.lookup name

theorem setAll_concat (o : CommandOptions) (calls : List (String × String)) (call : String × String) :
    o.setAll (calls ++ [call]) = (o.setAll calls).setVariable call.1 call.2 := by
  rw [setAll, List.foldl_concat, setAll]

/-- What calls leave depends on what was there, and on nothing else. -/
theorem environment_setAll_congr (h : o.environment = o'.environment) (calls : List (String × String)) :
    (o.setAll calls).environment = (o'.setAll calls).environment := by
  induction calls generalizing o o' with
  | nil => exact h
  | cons call calls ih =>
    refine ih ?_
    simp only [setVariable, h]

theorem last?_concat (calls : List (String × String)) (call : String × String) (name : String) :
    last? (calls ++ [call]) name = if name = call.1 then some call.2 else last? calls name := by
  rw [last?, List.reverse_concat, List.lookup_cons, last?]
  split
  · rename_i h
    rw [if_pos (eq_of_beq h)]
  · rename_i h
    rw [if_neg (ne_of_beq_false h)]

/-- Setting a variable keeps each name once. -/
theorem nodup_setVariable (h : (o.environment.map Prod.fst).Nodup) (name value : String) :
    ((o.setVariable name value).environment.map Prod.fst).Nodup := by
  rw [setVariable, List.map_append, List.nodup_append']
  refine ⟨(List.filter_sublist.map Prod.fst).nodup h, List.nodup_singleton name, ?_⟩
  rw [List.map_singleton, List.disjoint_singleton]
  intro hmem
  obtain ⟨entry, hentry, heq⟩ := List.mem_map.1 hmem
  exact of_decide_eq_true (List.mem_filter.1 hentry).2 heq

/-- Each name stands once in what calls leave. -/
theorem nodup_setAll (calls : List (String × String)) : ((unset.setAll calls).environment.map Prod.fst).Nodup := by
  induction calls using List.reverseRecOn with
  | nil => exact .nil
  | append_singleton calls call ih =>
    rw [setAll_concat]
    exact nodup_setVariable ih call.1 call.2

/-- **Calls leave each name with the value it was given last.** -/
theorem mem_setAll_iff : (name, value) ∈ (unset.setAll calls).environment ↔ last? calls name = some value := by
  induction calls using List.reverseRecOn with
  | nil => exact iff_of_false List.not_mem_nil (Option.some_ne_none value).symm
  | append_singleton calls call ih =>
    rw [setAll_concat, last?_concat, setVariable, List.mem_append, List.mem_filter, List.mem_singleton, ih]
    by_cases hname : name = call.1
    · simp [hname, Prod.ext_iff, eq_comm]
    · simp [hname, Prod.ext_iff]

/-- The options hold what calls leave, in whatever order. -/
def Holds (o : CommandOptions) (calls : List (String × String)) : Prop :=
  o.environment.Perm (unset.setAll calls).environment

namespace Holds

theorem nodup (h : o.Holds calls) : (o.environment.map Prod.fst).Nodup :=
  (h.map Prod.fst).nodup_iff.2 (nodup_setAll calls)

/-- Each variable stands once in a line. -/
theorem nodup_sorted (h : o.Holds calls) : o.sorted.Nodup :=
  (sorted_perm o).nodup_iff.2 h.nodup.of_map

theorem mem_sorted_iff (h : o.Holds calls) : (name, value) ∈ o.sorted ↔ last? calls name = some value :=
  ((sorted_perm o).trans h).mem_iff.trans mem_setAll_iff

/-- **Calls that leave the same values make the same variables of a line.** -/
theorem sorted_eq (h : o.Holds calls) (h' : o'.Holds calls') (hlast : ∀ name, last? calls name = last? calls' name) :
    o.sorted = o'.sorted := by
  have hperm : o.sorted.Perm o'.sorted :=
    (List.perm_ext_iff_of_nodup h.nodup_sorted h'.nodup_sorted).2 fun (name, value) => by
      rw [h.mem_sorted_iff, h'.mem_sorted_iff, hlast name]
  exact hperm.eq_of_pairwise (fun _ _ _ _ hlt hgt => absurd hgt (String.lt_asymm hlt)) (ascending_sorted h.nodup)
    (ascending_sorted h'.nodup)

end Holds

end CommandOptions

/-! ## The switches of a command line -/

namespace CommandLine

/-- A text is a name, an equals sign, which is its first one, and a value. -/
structure Splits (text : String) (entry : String × String) : Prop where
  nonempty : entry.1 ≠ ""
  first : '=' ∉ entry.1.toList
  eq : text = entry.1 ++ "=" ++ entry.2

/-- Characters are split in front of the first mark. -/
theorem span_ne_eq_iff {mark c : Char} {cs name value : List Char} :
    cs.span (· ≠ mark) = (name, c :: value) ↔ mark ∉ name ∧ c = mark ∧ cs = name ++ mark :: value := by
  rw [List.span_eq_takeWhile_dropWhile, Prod.mk.injEq]
  constructor
  · rintro ⟨rfl, hbehind⟩
    have hmark : c = mark := by
      have hhead := List.head?_dropWhile_not (fun c => decide (c ≠ mark)) cs
      rw [hbehind] at hhead
      exact of_not_not (of_decide_eq_false hhead)
    refine ⟨fun hmem => ?_, hmark, ?_⟩
    · exact absurd rfl (of_decide_eq_true (List.mem_takeWhile_imp hmem :))
    · rw [hmark] at hbehind
      rw [← hbehind, List.takeWhile_append_dropWhile]
  · rintro ⟨hname, rfl, rfl⟩
    have hbefore : ∀ c' ∈ name, decide (c' ≠ c) = true := fun c' hc' => decide_eq_true fun heq => hname (heq ▸ hc')
    rw [List.takeWhile_append_of_pos hbefore, List.dropWhile_append_of_pos hbefore]
    simp

/-- What comes out of two steps came out of the first one. -/
theorem bind_eq_ok {α β : Type} {x : Except Stop α} {f : α → Except Stop β} {b : β} (h : (x >>= f) = .ok b) :
    ∃ a, x = .ok a ∧ f a = .ok b := by
  cases x with
  | error e => cases h
  | ok a => exact ⟨a, rfl, h⟩

namespace Level

variable {verb : Option Verb} {l l' : Level} {s : Switch} {item : Item} {items : List Item} {text : String}
  {entry : String × String}

/-- **A text is split at its first equals sign.** -/
theorem assignment?_eq_some_iff : assignment? text = some entry ↔ Splits text entry := by
  rw [assignment?]
  constructor
  · intro h
    split at h
    · cases h
    · cases h
    · rename_i name c value hname hspan
      obtain ⟨hfirst, -, htext⟩ := span_ne_eq_iff.1 hspan
      cases h
      refine ⟨fun hnil => hname (String.ofList_eq_empty_iff.1 hnil), by rwa [String.toList_ofList], ?_⟩
      rw [← String.toList_inj]
      simp [htext]
  · rintro ⟨hname, hfirst, rfl⟩
    have hspan : (entry.1 ++ "=" ++ entry.2).toList.span (· ≠ '=') = (entry.1.toList, '=' :: entry.2.toList) :=
      span_ne_eq_iff.2 ⟨hfirst, rfl, by simp⟩
    obtain ⟨c, cs, hcs⟩ := List.exists_cons_of_ne_nil (mt String.toList_eq_nil_iff.1 hname)
    rw [hspan, hcs]
    change some (String.ofList (c :: cs), String.ofList entry.2.toList) = some entry
    rw [← hcs, String.ofList_toList, String.ofList_toList]

theorem options_note (h : l.note s = .ok l') : l'.options = l.options := by
  unfold note at h
  split at h
  · cases h
  · cases h
    rfl

theorem options_setHost (h : l.setHost text = .ok l') : l'.options = l.options := by
  unfold setHost at h
  split at h
  · cases h
    rfl
  · cases h

theorem need_eq_ok {α : Type} {a? : Option α} {a : α} (h : need a? = .ok a) : a? = some a := by
  cases a? with
  | none => cases h
  | some _ => exact congrArg some (Except.ok.inj h)

/-- A switch that is not for variables leaves them as they are. -/
theorem environment_setValue (hs : s ≠ .environment) (h : l.setValue s text = .ok l') :
    l'.options.environment = l.options.environment := by
  cases s with
  | environment => exact absurd rfl hs
  | verbose | noColor | help | version | powershell | json => cases h
  | user | password | caCert | directory =>
    cases h
    rfl
  | port | protocol | auth | connectTimeout | timeout =>
    obtain ⟨_, -, h⟩ := bind_eq_ok h
    cases h
    rfl
  | config =>
    simp only [setValue] at h
    split at h
    · cases h
    · cases h
      rfl

/-- **The switch for variables sets the one that is written.** -/
theorem options_setValue_environment (h : l.setValue .environment text = .ok l') :
    ∃ entry, Splits text entry ∧ l'.options = l.options.setVariable entry.1 entry.2 := by
  obtain ⟨entry, hentry, h⟩ := bind_eq_ok h
  cases h
  exact ⟨entry, assignment?_eq_some_iff.1 (need_eq_ok hentry), rfl⟩

end Level

/-- The variable that an item sets, as it is written. -/
def Item.written? : Item → Option String
  | .set .environment text => some text
  | _ => none

theorem Item.eq_of_written? {item : Item} {text : String} (h : item.written? = some text) :
    item = .set .environment text := by
  cases item with
  | set s value =>
    cases s with
    | environment => exact congrArg (Item.set .environment) (Option.some.inj h)
    | _ => cases h
  | _ => cases h

namespace Level

variable {verb : Option Verb} {l l' : Level} {item : Item} {items : List Item}

/-- An item that sets no variable leaves them as they are. -/
theorem environment_take (hitem : item.written? = none) (h : l.take verb item = .ok l') :
    l'.options.environment = l.options.environment := by
  cases item with
  | mistake => cases h
  | flag s =>
    cases s with
    | help | version => cases h
    | _ => rw [options_note h]
  | set s value =>
    obtain ⟨noted, hnote, h⟩ := bind_eq_ok h
    have hs : s ≠ .environment := fun heq => by
      subst heq
      cases hitem
    rw [environment_setValue hs h, options_note hnote]
  | operand text =>
    simp only [take] at h
    split at h
    · rw [options_setHost h]
    · cases h
  | trailing text =>
    simp only [take] at h
    split at h
    · cases h
      rfl
    · rw [options_setHost h]
    · cases h

/-- **Items set the variables that are written in them**, in their order. -/
theorem exists_splits_of_foldlM (h : items.foldlM (take verb) l = .ok l') :
    ∃ calls, List.Forall₂ Splits (items.filterMap Item.written?) calls ∧
      l'.options.environment = (l.options.setAll calls).environment := by
  induction items generalizing l with
  | nil =>
    cases h
    exact ⟨[], .nil, rfl⟩
  | cons item items ih =>
    obtain ⟨taken, htake, h⟩ := bind_eq_ok h
    obtain ⟨calls, hcalls, hrest⟩ := ih h
    rcases hitem : item.written? with _ | text
    · rw [List.filterMap_cons_none hitem]
      exact ⟨calls, hcalls, hrest.trans (CommandOptions.environment_setAll_congr (environment_take hitem htake) calls)⟩
    · obtain rfl := Item.eq_of_written? hitem
      obtain ⟨noted, hnote, hset⟩ := bind_eq_ok htake
      obtain ⟨entry, hentry, hset⟩ := options_setValue_environment hset
      rw [List.filterMap_cons_some hitem]
      refine ⟨entry :: calls, .cons hentry hcalls, ?_⟩
      rw [hrest, hset, options_note hnote, CommandOptions.setAll, CommandOptions.setAll, List.foldl_cons]

end Level

namespace Invocation

variable {s : Surroundings} {arguments : List String} {i : Invocation}

/-- The variables of a command line that runs a command, as they are written. -/
def written (arguments : List String) : List String :=
  let behind := (Item.read (Switch.known none) (fun _ => true) arguments).2.drop 1
  (Item.read (Switch.known (some .exec)) (fun _ => false) behind).1.filterMap Item.written?

theorem readHelp_ne_ok (rest : List String) : readHelp rest ≠ .ok i := by
  intro h
  unfold readHelp at h
  split at h
  · cases h
  · cases h
  · obtain ⟨verb, -, h⟩ := bind_eq_ok h
    cases h
  · cases h

/-- The options of a command line are those of the level behind the name of the command. -/
theorem of_ofLevels {verb : Verb} {front back : Level} (h : ofLevels s verb front back = .ok i) :
    i.verb = verb ∧ i.options = back.options := by
  obtain ⟨config, -, h⟩ := bind_eq_ok h
  obtain ⟨host, -, h⟩ := bind_eq_ok h
  by_cases hempty : (verb = .exec && back.words.isEmpty) = true
  · rw [if_pos hempty] at h
    cases h
  · rw [if_neg hempty] at h
    cases h
    exact ⟨rfl, rfl⟩

/-- **A command line sets the variables that are written in it.** -/
theorem exists_splits_of_read (h : read s arguments = .ok i) (hverb : i.verb = .exec) :
    ∃ calls, List.Forall₂ Splits (written arguments) calls ∧ i.options.Holds calls := by
  unfold read at h
  rw [written]
  obtain ⟨front, -, h⟩ := bind_eq_ok h
  split at h
  · cases h
  · rename_i name rest hrest
    split at h
    · exact absurd h (readHelp_ne_ok rest)
    · obtain ⟨verb, -, h⟩ := bind_eq_ok h
      obtain ⟨back, hback, h⟩ := bind_eq_ok h
      obtain ⟨hverb', hoptions⟩ := of_ofLevels h
      obtain rfl : verb = .exec := hverb'.symm.trans hverb
      obtain ⟨calls, hcalls, henvironment⟩ := Level.exists_splits_of_foldlM hback
      rw [hrest]
      refine ⟨calls, hcalls, ?_⟩
      rw [CommandOptions.Holds, hoptions, henvironment]

end Invocation

end CommandLine

/-! ## Lines -/

namespace CommandOptions

open CommandLine (Splits Invocation)

/-- **A line depends on the values that are left, and on nothing else of the variables.**  Options that hold what calls
leave, in whatever order, make the same line if the directory is the same and each name is given the same value last.
The line changes the directory, if there is one to change to; then it sets each name once, by ascending bytes, to the
value it was given last; and then it has the command as it is.  The switches of a command line are such calls. -/
theorem line_of_last :
    (∀ (o o' : CommandOptions) (calls calls' : List (String × String)) (command : String), o.Holds calls →
      o'.Holds calls' → o.directory = o'.directory → (∀ name, last? calls name = last? calls' name) →
        o.line command = o'.line command ∧
        ∃ entries : List (String × String),
          entries.Pairwise (fun e e' => Utf8.encode e.1 < Utf8.encode e'.1) ∧
          (∀ name value, (name, value) ∈ entries ↔ last? calls name = some value) ∧
          o.line command =
            (match o.directory with
              | none => ""
              | some directory => "cd /d \"" ++ directory ++ "\" && ") ++
            String.join (entries.map fun e => "set " ++ e.1 ++ "=" ++ e.2 ++ "&& ") ++ command) ∧
    ∀ (s : Surroundings) (arguments : List String) (i : Invocation), Invocation.read s arguments = .ok i →
      i.verb = .exec → ∃ calls, List.Forall₂ Splits (Invocation.written arguments) calls ∧ i.options.Holds calls := by
  refine ⟨fun o o' calls calls' command h h' hdirectory hlast => ⟨?_, o.sorted, ?_, ?_, ?_⟩,
    fun s arguments i => CommandLine.Invocation.exists_splits_of_read⟩
  · rw [line, line, hdirectory, h.sorted_eq h' hlast]
  · exact (ascending_sorted h.nodup).imp fun hlt => Utf8.encode_lt_of_lt hlt
  · exact fun name value => h.mem_sorted_iff
  · rw [line]
    cases o.directory <;> rfl

/-- A variable is set twice and the environment holds the variables in another order; a command line sets the same ones
in two spellings. -/
theorem line_of_last_overwritten :
    let o : CommandOptions := ⟨none, [("B", "2"), ("A", "1")], none⟩
    let i : Invocation :=
      ⟨.exec, "win-01", 0, none, {}, ⟨none, [("A", "1=1"), ("B", "2")], none⟩, ["dir"], false, false⟩
    o.line "dir" = (unset.setAll [("A", "1"), ("B", "2")]).line "dir" ∧
      Invocation.read ⟨[], []⟩ ["exec", "win-01", "-e", "A=1=1", "--env=B=2", "--", "dir"] = .ok i ∧
      ∃ calls, List.Forall₂ Splits ["A=1=1", "B=2"] calls ∧ i.options.Holds calls := by
  intro o i
  have hread : Invocation.read ⟨[], []⟩ ["exec", "win-01", "-e", "A=1=1", "--env=B=2", "--", "dir"] = .ok i := by rfl
  refine ⟨?_, hread, line_of_last.2 _ _ _ hread rfl⟩
  refine (line_of_last.1 o _ [("B", "1"), ("A", "1"), ("B", "2")] _ "dir" ?_ (.refl _) rfl ?_).1
  · change List.Perm _ _
    decide +kernel
  · intro name
    cases hA : name == "A" <;> cases hB : name == "B" <;> simp [last?, List.lookup_cons, hA, hB]

end CommandOptions

end RemoteShell
