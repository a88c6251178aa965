import Mathlib.Data.List.Infix
import RemoteShell.Proofs.Command.Variables

/-!
# What a command line tells about its environment

A line sets a variable by its name, an equals sign and its value, and a mark ends the value: `&& `, or `&& set ` if
another variable follows.  Nothing in a value is quoted.  So a value that holds the mark ends early, and what it holds
behind the mark is a variable or a command to the reader of the line (`line_forged`).

* `append_inj_of_free`: a text without the mark ends where the mark first stands, since a mark does not overlap itself.
* `flatMap_chars_eq_iff`: hence assignments can be read off the front of a text, one after the other.
* `Named.exists_impostor`: if a value is cut at its mark, the line stays the same.
* `line_tells_iff`: a line tells which variables are set to which values exactly if no value holds the mark.
-/

namespace RemoteShell

/-! ## Texts before a mark -/

namespace Mark

variable {s x y r r' : List Char}

/-- A text that does not overlap itself. -/
def Unbordered (s : List Char) : Prop :=
  ∀ t ∈ s.inits, t <:+ s → t = [] ∨ t = s

instance (s : List Char) : Decidable (Unbordered s) :=
  inferInstanceAs (Decidable (∀ t ∈ s.inits, t <:+ s → t = [] ∨ t = s))

/-- A mark that stands a few characters further on stands in these characters, unless they are none. -/
theorem eq_nil_or_infix (hs : Unbordered s) (h : s ++ r = x ++ (s ++ r')) : x = [] ∨ s <:+: x := by
  obtain ⟨rest, hx, -⟩ | ⟨overlap, hoverlap, hr⟩ := List.append_eq_append_iff.1 h
  · exact .inr (hx ▸ (List.prefix_append s rest).isInfix)
  · have hsuffix : overlap <:+ s := ⟨x, hoverlap.symm⟩
    have hbegins : overlap <+: s :=
      List.prefix_of_prefix_length_le ⟨r, hr.symm⟩ (List.prefix_append s r') hsuffix.length_le
    rcases hs overlap (List.mem_inits _ _ |>.2 hbegins) hsuffix with rfl | rfl
    · rw [List.append_nil] at hoverlap
      exact .inr ⟨[], [], by simp [hoverlap]⟩
    · exact .inl (List.append_left_eq_self.1 hoverlap.symm)

/-- **A text without the mark ends where the mark first stands.** -/
theorem append_inj_of_free (hs : Unbordered s) (hx : ¬ s <:+: x) (hy : ¬ s <:+: y)
    (h : x ++ (s ++ r) = y ++ (s ++ r')) : x = y ∧ r = r' := by
  have hxy : x = y := by
    obtain ⟨d, rfl, hd⟩ | ⟨d, rfl, hd⟩ := List.append_eq_append_iff.1 h
    · rcases eq_nil_or_infix hs hd with rfl | hholds
      · exact (List.append_nil x).symm
      · exact absurd (hholds.trans (List.suffix_append x d).isInfix) hy
    · rcases eq_nil_or_infix hs hd with rfl | hholds
      · exact List.append_nil y
      · exact absurd (hholds.trans (List.suffix_append y d).isInfix) hx
  subst hxy
  exact ⟨rfl, List.append_cancel_left (List.append_cancel_left h)⟩

/-- A text that holds the mark holds it for the first time somewhere. -/
theorem exists_first (hs : s ≠ []) (h : s <:+: x) : ∃ a b, x = a ++ (s ++ b) ∧ ¬ s <:+: a := by
  induction x with
  | nil => exact absurd (List.eq_nil_of_infix_nil h) hs
  | cons c x ih =>
    by_cases hbegins : s <+: c :: x
    · obtain ⟨b, hb⟩ := hbegins
      exact ⟨[], b, hb.symm, fun hnil => hs (List.eq_nil_of_infix_nil hnil)⟩
    · obtain ⟨a, b, rfl, ha⟩ := ih ((List.infix_cons_iff.1 h).resolve_left hbegins)
      refine ⟨c :: a, b, rfl, fun hholds => ?_⟩
      rcases List.infix_cons_iff.1 hholds with hfront | hlater
      · exact hbegins (hfront.trans (List.prefix_append (c :: a) (s ++ b)))
      · exact ha hlater

end Mark

namespace CommandOptions

variable {o o' : CommandOptions} {entry : String × String} {es es' : List (String × String)}
  {lead mark c c' : List Char}

/-! ## Assignments on the front of a text -/

/-- The characters that set a variable, with what stands before the name and what ends the value. -/
def chars (lead mark : List Char) (entry : String × String) : List Char :=
  lead ++ (entry.1.toList ++ (['='] ++ (entry.2.toList ++ mark)))

/-- A name and a value that can be told from what ends them. -/
structure Readable (mark : List Char) (entry : String × String) : Prop where
  name : '=' ∉ entry.1.toList
  value : ¬ mark <:+: entry.2.toList

/-- **An assignment can be read off the front of a text.** -/
theorem chars_append_inj {entry' : String × String} (hmark : Mark.Unbordered mark) (h : Readable mark entry)
    (h' : Readable mark entry') (heq : chars lead mark entry ++ c = chars lead mark entry' ++ c') :
    entry = entry' ∧ c = c' := by
  simp only [chars, List.append_assoc] at heq
  obtain ⟨hname, hrest⟩ := Mark.append_inj_of_free (by decide) (mt (List.singleton_infix_iff '=' _).1 h.name)
    (mt (List.singleton_infix_iff '=' _).1 h'.name) (List.append_cancel_left heq)
  obtain ⟨hvalue, hrest⟩ := Mark.append_inj_of_free hmark h.value h'.value hrest
  exact ⟨Prod.ext (String.toList_inj.1 hname) (String.toList_inj.1 hvalue), hrest⟩

/-- **Assignments can be read off the front of a text**: two readings differ in how far they go only. -/
theorem flatMap_chars_eq_iff (hmark : Mark.Unbordered mark) (h : ∀ e ∈ es, Readable mark e)
    (h' : ∀ e ∈ es', Readable mark e) :
    es.flatMap (chars lead mark) ++ c = es'.flatMap (chars lead mark) ++ c' ↔
      (∃ more, es' = es ++ more ∧ c = more.flatMap (chars lead mark) ++ c') ∨
        ∃ more, es = es' ++ more ∧ c' = more.flatMap (chars lead mark) ++ c := by
  constructor
  · intro heq
    induction es generalizing es' with
    | nil => exact .inl ⟨es', rfl, heq⟩
    | cons e es ih =>
      cases es' with
      | nil => exact .inr ⟨e :: es, rfl, heq.symm⟩
      | cons e' es' =>
        rw [List.forall_mem_cons] at h h'
        rw [List.flatMap_cons, List.flatMap_cons, List.append_assoc, List.append_assoc] at heq
        obtain ⟨rfl, hrest⟩ := chars_append_inj hmark h.1 h'.1 heq
        obtain ⟨more, rfl, hc⟩ | ⟨more, rfl, hc⟩ := ih h.2 h'.2 hrest
        · exact .inl ⟨more, rfl, hc⟩
        · exact .inr ⟨more, rfl, hc⟩
  · rintro (⟨more, rfl, rfl⟩ | ⟨more, rfl, rfl⟩) <;> rw [List.flatMap_append, List.append_assoc]

/-- Assignments with nothing behind them can be read in one way. -/
theorem flatMap_chars_inj (hmark : Mark.Unbordered mark) (h : ∀ e ∈ es, Readable mark e)
    (h' : ∀ e ∈ es', Readable mark e) (heq : es.flatMap (chars lead mark) = es'.flatMap (chars lead mark)) :
    es = es' := by
  have hnone : ∀ more : List (String × String), [] = more.flatMap (chars lead mark) ++ [] → more = [] := by
    intro more hnil
    cases more with
    | nil => rfl
    | cons e more => simp [chars] at hnil
  obtain ⟨more, rfl, hc⟩ | ⟨more, rfl, hc⟩ := (flatMap_chars_eq_iff hmark h h').1 (congrArg (· ++ []) heq)
  · rw [hnone more hc, List.append_nil]
  · rw [hnone more hc, List.append_nil]

/-! ## Lines -/

/-- What stands before a name in a line. -/
def setLead : List Char := "set ".toList

/-- What ends a value in a line. -/
def setMark : List Char := "&& ".toList

theorem toList_join_assignment (es : List (String × String)) :
    (String.join (es.map assignment)).toList = es.flatMap (chars setLead setMark) := by
  rw [String.toList_join, List.flatMap_map]
  exact List.flatMap_congr fun e _ => by simp [assignment, chars, setLead, setMark]

/-- What stands before a name may as well end the value before it. -/
theorem flatMap_chars_append_lead (es : List (String × String)) :
    es.flatMap (chars lead mark) ++ lead = lead ++ es.flatMap (chars [] (mark ++ lead)) := by
  induction es with
  | nil => simp
  | cons e es ih => simp [chars, ih]

/-- Lines with the same change of directory differ in what comes after it. -/
theorem line_eq_iff (h : o.directory = o'.directory) {command command' : String} :
    o.line command = o'.line command' ↔
      o.sorted.flatMap (chars setLead setMark) ++ command.toList =
        o'.sorted.flatMap (chars setLead setMark) ++ command'.toList := by
  rw [← String.toList_inj, line, line, h]
  simp only [String.toList_append, List.append_assoc, List.append_right_inj, toList_join_assignment]

/-- The names of the variables. -/
def names (o : CommandOptions) : List String :=
  o.environment.map Prod.fst

/-- Variables that have proper names, each once. -/
structure Named (o : CommandOptions) : Prop where
  nodup : o.names.Nodup
  plain : ∀ name ∈ o.names, '=' ∉ name.toList

instance (o : CommandOptions) : Decidable o.Named :=
  decidable_of_iff (o.names.Nodup ∧ ∀ name ∈ o.names, '=' ∉ name.toList)
    ⟨fun h => ⟨h.1, h.2⟩, fun h => ⟨h.nodup, h.plain⟩⟩

theorem names_sorted_perm (o : CommandOptions) : (o.sorted.map Prod.fst).Perm o.names :=
  (sorted_perm o).map Prod.fst

/-- Some of the variables of a line are named if all are. -/
theorem Named.of_sublist (h : o.Named) (hsub : o'.names.Sublist (o.sorted.map Prod.fst)) : o'.Named where
  nodup := hsub.nodup ((names_sorted_perm o).nodup_iff.2 h.nodup)
  plain name hname := h.plain name ((names_sorted_perm o).mem_iff.1 (hsub.mem hname))

/-- No value holds a mark. -/
def Without (mark : String) (o : CommandOptions) : Prop :=
  ∀ e ∈ o.environment, ¬ mark.toList <:+: e.2.toList

instance (mark : String) (o : CommandOptions) : Decidable (o.Without mark) :=
  inferInstanceAs (Decidable (∀ e ∈ o.environment, ¬ mark.toList <:+: e.2.toList))

theorem Named.readable {mark : String} (h : o.Named) (hvalues : o.Without mark) :
    ∀ e ∈ o.sorted, Readable mark.toList e := by
  intro e he
  have hmem := (sorted_perm o).mem_iff.1 he
  exact ⟨h.plain e.1 (List.mem_map_of_mem hmem), hvalues e hmem⟩

/-- Environments are the same if their variables come in the same order in a line, and only then. -/
theorem Named.sorted_eq_iff (h : o.Named) (h' : o'.Named) :
    o.sorted = o'.sorted ↔ o.environment.Perm o'.environment := by
  refine ⟨fun heq => ((sorted_perm o).symm.trans (heq ▸ .refl _)).trans (sorted_perm o'), fun hperm => ?_⟩
  have hsorted : o.sorted.Perm o'.sorted := ((sorted_perm o).trans hperm).trans (sorted_perm o').symm
  refine hsorted.eq_of_pairwise ?_ (ascending_sorted h.nodup) (ascending_sorted h'.nodup)
  exact fun _ _ _ _ hlt hgt => absurd hgt (String.lt_asymm hlt)

/-- **Environments whose values do not hold the mark give different lines** for the same command. -/
theorem Named.line_inj_iff (h : o.Named) (h' : o'.Named) (hvalues : o.Without "&& set ")
    (hvalues' : o'.Without "&& set ") (hdirectory : o.directory = o'.directory) (command : String) :
    o.line command = o'.line command ↔ o.environment.Perm o'.environment := by
  rw [← h.sorted_eq_iff h', line_eq_iff hdirectory]
  refine ⟨fun heq => ?_, fun heq => by rw [heq]⟩
  have hmark : Mark.Unbordered "&& set ".toList := by decide +kernel
  have hshift := congrArg (· ++ setLead) (List.append_cancel_right heq)
  simp only [flatMap_chars_append_lead, List.append_right_inj] at hshift
  exact flatMap_chars_inj hmark (h.readable hvalues) (h'.readable hvalues') hshift

/-- The first options set the first variables of the second ones, and their command writes out the others. -/
def Continues (o : CommandOptions) (command : String) (o' : CommandOptions) (command' : String) : Prop :=
  ∃ more, o'.sorted = o.sorted ++ more ∧ command = String.join (more.map assignment) ++ command'

/-- What is set and what is run is the same, whether a variable is set by the options or by the command itself. -/
def Agree (o : CommandOptions) (command : String) (o' : CommandOptions) (command' : String) : Prop :=
  Continues o command o' command' ∨ Continues o' command' o command

/-- **Lines agree if no value holds the mark.** -/
theorem Named.line_eq_iff_agree (h : o.Named) (h' : o'.Named) (hvalues : o.Without "&& ")
    (hvalues' : o'.Without "&& ") (hdirectory : o.directory = o'.directory) (command command' : String) :
    o.line command = o'.line command' ↔ Agree o command o' command' := by
  have hmark : Mark.Unbordered setMark := by decide +kernel
  rw [line_eq_iff hdirectory, flatMap_chars_eq_iff hmark (h.readable hvalues) (h'.readable hvalues')]
  simp only [Agree, Continues, ← String.toList_inj, String.toList_append, toList_join_assignment]

/-- One of the values that hold a mark comes first in a line. -/
theorem exists_first_of_not_without {mark : String} (h : ¬ o.Without mark) :
    ∃ before e after, o.sorted = before ++ e :: after ∧ mark.toList <:+: e.2.toList ∧
      ∀ e' ∈ before, ¬ mark.toList <:+: e'.2.toList := by
  have hsome : (o.sorted.find? fun e => decide (mark.toList <:+: e.2.toList)).isSome := by
    simp only [Without, not_forall, Decidable.not_not] at h
    obtain ⟨e, he, hmark⟩ := h
    exact List.find?_isSome.2 ⟨e, (sorted_perm o).mem_iff.2 he, decide_eq_true hmark⟩
  obtain ⟨e, he⟩ := Option.isSome_iff_exists.1 hsome
  obtain ⟨hmark, before, after, hsorted, hbefore⟩ := List.find?_eq_some_iff_append.1 he
  exact ⟨before, e, after, hsorted, of_decide_eq_true hmark, fun e' he' => by simpa using hbefore e' he'⟩

/-- The options with some variables and, after them, one more that has a shorter value. -/
def cutTo (o : CommandOptions) (before : List (String × String)) (name : String) (value : List Char) :
    CommandOptions :=
  { o with environment := before ++ [(name, String.ofList value)] }

section Cut

variable {before after : List (String × String)} {name value : String} {a b : List Char}

theorem names_cutTo_sublist (hsorted : o.sorted = before ++ (name, value) :: after) (a : List Char) :
    (o.cutTo before name a).names.Sublist (o.sorted.map Prod.fst) := by
  rw [hsorted]
  simp [cutTo, names]

/-- The variables stay in their order, for their names do. -/
theorem Named.sorted_cutTo (h : o.Named) (hsorted : o.sorted = before ++ (name, value) :: after) (a : List Char) :
    (o.cutTo before name a).sorted = before ++ [(name, String.ofList a)] := by
  have hnames : (o.sorted.map Prod.fst).Pairwise (· < ·) := List.pairwise_map.2 (ascending_sorted h.nodup)
  exact Ascending.foldr_insertSorted (List.pairwise_map.1 (hnames.sublist (names_cutTo_sublist hsorted a)))

/-- **A value ends at its mark**: what stands behind it goes into the command. -/
theorem Named.line_cutTo (h : o.Named) (hsorted : o.sorted = before ++ (name, value) :: after)
    (hvalue : value.toList = a ++ (setMark ++ b)) (command : String) :
    o.line command = (o.cutTo before name a).line
      (String.ofList (b ++ (setMark ++ (after.flatMap (chars setLead setMark) ++ command.toList)))) := by
  have hdirectory : o.directory = (o.cutTo before name a).directory := rfl
  rw [line_eq_iff hdirectory, h.sorted_cutTo hsorted, hsorted]
  simp [chars, hvalue]

theorem Named.not_agree_cutTo (h : o.Named) (hsorted : o.sorted = before ++ (name, value) :: after)
    (hne : value.toList ≠ a) (command command' : String) :
    ¬ Agree o command (o.cutTo before name a) command' := by
  have hentry : (name, value) ≠ (name, String.ofList a) := by
    intro heq
    exact hne ((congrArg String.toList (Prod.ext_iff.1 heq).2).trans String.toList_ofList)
  rw [Agree, Continues, Continues, h.sorted_cutTo hsorted, hsorted]
  simp only [List.append_assoc, List.append_right_inj]
  rintro (⟨more, hmore, -⟩ | ⟨more, hmore, -⟩)
  · exact hentry (List.cons.inj hmore).1.symm
  · exact hentry (List.cons.inj hmore).1

end Cut

/-- **What a value holds behind a mark is read as more**: another environment without the mark, and another command,
give the same line. -/
theorem Named.exists_impostor (h : o.Named) (hvalues : ¬ o.Without "&& ") (command : String) :
    ∃ (o' : CommandOptions) (command' : String), o'.Named ∧ o'.Without "&& " ∧ o.directory = o'.directory ∧
      o.line command = o'.line command' ∧ ¬ Agree o command o' command' := by
  obtain ⟨before, ⟨name, value⟩, after, hsorted, hmark, hbefore⟩ := exists_first_of_not_without hvalues
  obtain ⟨a, b, hvalue, ha⟩ := Mark.exists_first (by decide) hmark
  have hne : value.toList ≠ a := fun heq => ha (heq ▸ hmark)
  have hwithout : (o.cutTo before name a).Without "&& " := by
    simp only [Without, cutTo, List.forall_mem_append, List.forall_mem_singleton, String.toList_ofList]
    exact ⟨hbefore, ha⟩
  exact ⟨o.cutTo before name a, _, h.of_sublist (names_cutTo_sublist hsorted a), hwithout, rfl,
    h.line_cutTo hsorted hvalue command, h.not_agree_cutTo hsorted hne command _⟩

/-- **What a line tells.**  For the same directory and the same command, different variables give different lines if no
value holds `&& set `.  And a line tells what is set and what is run, whatever the command, exactly if no value holds
`&& `. -/
theorem line_tells_iff (h : o.Named) (command : String) :
    (∀ o' : CommandOptions, o.Without "&& set " → o'.Named → o'.Without "&& set " → o.directory = o'.directory →
      (o.line command = o'.line command ↔ o.environment.Perm o'.environment)) ∧
    (o.Without "&& " ↔ ∀ (o' : CommandOptions) command', o'.Named → o'.Without "&& " → o.directory = o'.directory →
      (o.line command = o'.line command' ↔ Agree o command o' command')) := by
  refine ⟨fun o' hvalues h' hvalues' hdirectory => h.line_inj_iff h' hvalues hvalues' hdirectory command, ?_, ?_⟩
  · exact fun hvalues o' command' h' hvalues' hdirectory =>
      h.line_eq_iff_agree h' hvalues hvalues' hdirectory command command'
  · intro hagree
    by_contra hvalues
    obtain ⟨o', command', h', hvalues', hdirectory, hline, hnot⟩ := h.exists_impostor hvalues command
    exact hnot ((hagree o' command' h' hvalues' hdirectory).1 hline)

/-- The order of an environment makes no difference, and a command may set the last variable itself. -/
theorem line_tells_iff_order :
    Named ((unset.setVariable "B" "2").setVariable "A" "1") ∧
      (line ((unset.setVariable "B" "2").setVariable "A" "1") "dir" =
          line ((unset.setVariable "A" "1").setVariable "B" "2") "dir" ↔
        ((unset.setVariable "B" "2").setVariable "A" "1").environment.Perm
          ((unset.setVariable "A" "1").setVariable "B" "2").environment) ∧
      (line ((unset.setVariable "B" "2").setVariable "A" "1") "dir" =
          line (unset.setVariable "A" "1") "set B=2&& dir" ↔
        Agree ((unset.setVariable "B" "2").setVariable "A" "1") "dir" (unset.setVariable "A" "1") "set B=2&& dir") :=
  have htells := line_tells_iff (o := (unset.setVariable "B" "2").setVariable "A" "1") (by decide +kernel) "dir"
  ⟨by decide +kernel, htells.1 _ (by decide +kernel) (by decide +kernel) (by decide +kernel) rfl,
    htells.2.1 (by decide +kernel) _ _ (by decide +kernel) (by decide +kernel) rfl⟩

/-- A value sets a variable that is not in the environment, a value runs a command, and a name takes what is the start
of a value. -/
theorem line_forged :
    (line (unset.setVariable "A" "1&& set B=2") "dir" =
        line ((unset.setVariable "A" "1").setVariable "B" "2") "dir" ∧
      ¬ (unset.setVariable "A" "1&& set B=2").environment.Perm
        ((unset.setVariable "A" "1").setVariable "B" "2").environment) ∧
    line (unset.setVariable "A" "1&& del x") "dir" = line (unset.setVariable "A" "1") "del x&& dir" ∧
    line (unset.setVariable "A=B" "C") "dir" = line (unset.setVariable "A" "B=C") "dir" := by
  decide +kernel

end CommandOptions

end RemoteShell
