import Mathlib.Data.List.Basic
import RemoteShell.Proofs.Xml.Markup

/-!
# The tokens of rendered markup

`Lexer.Reads` says what some characters are read as when reading begins in a certain mode, wherever in a
document it does.  Such readings are put together one after the other, from single characters up to
`reads_render`: rendered markup, up to the `<` of the tag behind it, gives exactly its tokens.  Nothing that
stands in a text or in an attribute value can change that, since it is escaped.
-/

namespace RemoteShell.Xml

namespace Lexer

/-- Reading some characters in one mode gives some tokens and leads to another mode, wherever it begins. -/
def Reads (opened : List (List Char)) (mode : Mode) (cs : List Char) (ts : List Token)
    (opened' : List (List Char)) (mode' : Mode) : Prop :=
  ∀ place mark, ∃ place' mark', ∃ placed : List Placed, placed.map Prod.snd = ts ∧
    ∀ rest, run ⟨place, mark, opened, mode⟩ (cs ++ rest) =
      (placed ++ (run ⟨place', mark', opened', mode'⟩ rest).1,
        (run ⟨place', mark', opened', mode'⟩ rest).2)

namespace Reads

variable {opened opened' opened'' : List (List Char)} {mode mode' mode'' : Mode} {cs ds : List Char}
  {ts us : List Token} {c : Char}

theorem refl (opened : List (List Char)) (mode : Mode) : Reads opened mode [] [] opened mode :=
  fun place mark => ⟨place, mark, [], rfl, fun _ => rfl⟩

theorem trans (h : Reads opened mode cs ts opened' mode') (h' : Reads opened' mode' ds us opened'' mode'') :
    Reads opened mode (cs ++ ds) (ts ++ us) opened'' mode'' := by
  intro place mark
  obtain ⟨place', mark', placed, rfl, hread⟩ := h place mark
  obtain ⟨place'', mark'', placed', rfl, hread'⟩ := h' place' mark'
  refine ⟨place'', mark'', placed ++ placed', List.map_append, fun rest => ?_⟩
  rw [List.append_assoc, hread, hread', List.append_assoc]

/-- A character that finishes no token. -/
theorem silent (h : ∀ place mark, ∃ place' mark', step ⟨place, mark, opened, mode⟩ c =
    .ok (⟨place', mark', opened', mode'⟩, none)) : Reads opened mode [c] [] opened' mode' := by
  intro place mark
  obtain ⟨place', mark', hstep⟩ := h place mark
  refine ⟨place', mark', [], rfl, fun rest => ?_⟩
  rw [List.singleton_append, run, hstep]
  rfl

/-- A character that finishes a token. -/
theorem finishing {t : Token} (h : ∀ place mark, ∃ place' mark' start,
    step ⟨place, mark, opened, mode⟩ c = .ok (⟨place', mark', opened', mode'⟩, some (start, t))) :
    Reads opened mode [c] [t] opened' mode' := by
  intro place mark
  obtain ⟨place', mark', start, hstep⟩ := h place mark
  refine ⟨place', mark', [(start, t)], rfl, fun rest => ?_⟩
  rw [List.singleton_append, run, hstep]
  rfl

/-- A character that finishes no token, in front of others. -/
theorem cons (h : Reads opened mode [c] [] opened' mode') (h' : Reads opened' mode' cs ts opened'' mode'') :
    Reads opened mode (c :: cs) ts opened'' mode'' :=
  h.trans h'

/-- What is read is a whole document if it ends behind markup. -/
theorem tokens_eq (h : Reads [] (.text []) cs ts [] (.text [])) (hmark : cs.head? ≠ some byteOrderMark) :
    ∃ placed : List Placed, placed.map Prod.snd = ts ∧ tokens (String.ofList cs) = (placed, none) := by
  obtain ⟨place, mark, placed, hplaced, hread⟩ := h 0 0
  refine ⟨placed, hplaced, ?_⟩
  have hall := hread []
  have hend : run ⟨place, mark, [], .text []⟩ [] = ([], none) := rfl
  rw [List.append_nil, hend, List.append_nil] at hall
  rw [tokens, String.toList_ofList, if_neg hmark]
  exact hall

end Reads

section

variable (opened : List (List Char))

/-! ## Texts -/

/-- A text goes on until the next tag. -/
theorem reads_pending {cs : List Char} (hcs : '<' ∉ cs) (c : Char) (seen : List Char) :
    Reads opened (.text (c :: seen)) cs [] opened (.text (cs.reverse ++ c :: seen)) := by
  induction cs generalizing c seen with
  | nil => exact .refl _ _
  | cons d cs ih =>
    obtain ⟨hd, hcs⟩ := List.ne_and_not_mem_of_not_mem_cons hcs
    rw [List.reverse_cons, List.append_assoc, List.singleton_append]
    refine .cons (.silent fun place mark => ⟨place + d.utf8Size, mark, ?_⟩) (ih hcs d (c :: seen))
    simp only [step, hd.symm, if_false, List.isEmpty_cons, Bool.false_and, Bool.false_eq_true]

/-- Blanks in front of a text are dropped. -/
theorem reads_leading {cs : List Char} (hcs : '<' ∉ cs) :
    Reads opened (.text []) cs [] opened (.text (dropSpaces cs).reverse) := by
  induction cs with
  | nil => exact .refl _ _
  | cons d cs ih =>
    obtain ⟨hd, hcs⟩ := List.ne_and_not_mem_of_not_mem_cons hcs
    cases hspace : isSpace d with
    | true =>
      rw [dropSpaces, List.dropWhile_cons_of_pos hspace]
      refine .cons (.silent fun place mark => ⟨place + d.utf8Size, mark, ?_⟩) (ih hcs)
      simp only [step, hd.symm, if_false, List.isEmpty_nil, hspace, Bool.and_self, if_true]
    | false =>
      rw [dropSpaces, List.dropWhile_cons_of_neg (by rw [hspace]; exact Bool.false_ne_true),
        List.reverse_cons]
      refine .cons (.silent fun place mark => ⟨place + d.utf8Size, mark, ?_⟩)
        (reads_pending opened hcs d [])
      simp only [step, hd.symm, if_false, List.isEmpty_nil, hspace, Bool.and_false,
        Bool.false_eq_true]

/-- **What stands between two tags is one token**, trimmed, unless it is blank. -/
theorem reads_gap {gap : List Char} (hopen : '<' ∉ gap) :
    Reads opened (.text []) (gap ++ ['<']) (gapTokens gap) opened .markup := by
  rw [← List.nil_append (gapTokens gap)]
  refine (reads_leading opened hopen).trans ?_
  rw [gapTokens]
  split
  · rename_i hblank
    rw [trimSpaces_eq_nil_iff.1 hblank]
    exact .silent fun place mark => ⟨place + Char.utf8Size '<', mark, rfl⟩
  · rename_i hblank
    refine .finishing fun place mark => ⟨place + Char.utf8Size '<', place, mark, ?_⟩
    have hsome : (dropSpaces gap).reverse.isEmpty = false := by
      simpa using mt trimSpaces_eq_nil_iff.2 hblank
    simp only [step, if_true, hsome, Bool.false_eq_true, if_false]
    rfl

theorem reads_text (text : List Char) :
    Reads opened (.text []) (escapeChars text ++ ['<']) (Markup.textTokens text) opened .markup := by
  rw [Markup.textTokens_eq]
  exact reads_gap opened (not_mem_escapeChars (by decide) (by decide) text)

/-! ## Instructions and comments -/

/-- The inside of an instruction behind a character of it. -/
theorem reads_inside_instruction {content : List Char} (c : Char) (seen : List Char)
    (hcontent : ¬ ['?', '>'] <:+: c :: content) :
    Reads opened (.instruction (c :: seen)) (content ++ ['?', '>']) [.aside] opened (.text []) := by
  induction content generalizing c seen with
  | nil =>
    have hquestion : Reads opened (.instruction (c :: seen)) ['?'] [] opened (.instruction ('?' :: c :: seen)) :=
      .silent fun place mark => ⟨place + Char.utf8Size '?', mark, rfl⟩
    refine .cons hquestion (.finishing fun place mark =>
      ⟨place + Char.utf8Size '>', place + Char.utf8Size '>', mark, ?_⟩)
    have hlong : ¬ ('?' :: c :: seen).length < 2 := by simp
    simp only [step, List.head?_cons, decide_true, Bool.and_self, if_true, hlong, if_false]
    rfl
  | cons d content ih =>
    have hgoes : ¬ (d = '>' ∧ c = '?') := by
      rintro ⟨rfl, rfl⟩
      exact hcontent (List.prefix_append ['?', '>'] content).isInfix
    refine .cons (.silent fun place mark => ⟨place + d.utf8Size, mark, ?_⟩)
      (ih d (c :: seen) fun h => hcontent (h.trans (List.suffix_cons c _).isInfix))
    have hend : (decide (d = '>') && decide ((c :: seen).head? = some '?')) = false := by
      simpa using hgoes
    simp only [step, hend, Bool.false_eq_true, if_false]

/-- An instruction that nothing inside ends is set aside. -/
theorem reads_aside_instruction {content : List Char} (hcontent : ¬ ['?', '>'] <:+: '?' :: content) :
    Reads opened .markup ('?' :: (content ++ ['?', '>'])) [.aside] opened (.text []) := by
  have hmark : Reads opened .markup ['?'] [] opened (.instruction ['?']) :=
    .silent fun place mark => ⟨place + Char.utf8Size '?', mark, rfl⟩
  exact .cons hmark (reads_inside_instruction opened '?' [] hcontent)

/-- An instruction, or the declaration in front of a document, is set aside. -/
theorem reads_instruction {content : List Char} (hcontent : '>' ∉ content) :
    Reads opened (.text []) ('<' :: '?' :: (content ++ ['?', '>'])) [.aside] opened (.text []) := by
  have hopen : Reads opened (.text []) ['<'] [] opened .markup :=
    .silent fun place mark => ⟨place + Char.utf8Size '<', mark, rfl⟩
  refine .cons hopen (reads_aside_instruction opened fun h => ?_)
  have hmem : '>' ∈ '?' :: content := h.subset (List.mem_cons_of_mem '?' List.mem_cons_self)
  exact hcontent ((List.mem_cons.1 hmem).resolve_left (by decide))

/-- The inside of a comment behind what has been seen of it. -/
theorem reads_inside_comment {content : List Char} (seen : List Char)
    (hcontent : ¬ ['-', '-'] <:+: seen.reverse ++ content) :
    Reads opened (.comment (seen ++ ['-', '-', '!'])) (content ++ ['-', '-', '>']) [.aside] opened (.text []) := by
  induction content generalizing seen with
  | nil =>
    have hdash : ∀ chars, Reads opened (.comment chars) ['-'] [] opened (.comment ('-' :: chars)) :=
      fun chars => .silent fun place mark => ⟨place + Char.utf8Size '-', mark, rfl⟩
    refine .cons (hdash _) (.cons (hdash _) (.finishing fun place mark =>
      ⟨place + Char.utf8Size '>', place + Char.utf8Size '>', mark, ?_⟩))
    have hlong : 4 < ('-' :: '-' :: (seen ++ ['-', '-', '!'])).length := by simp
    have htoken : commentToken ('-' :: '-' :: (seen ++ ['-', '-', '!'])) = .ok .aside := by
      rw [commentToken, if_pos]
      simp [List.isPrefixOf]
    simp only [step, hlong, htoken, List.take_succ_cons, List.take_zero, decide_true, Bool.and_self, if_true]
    rfl
  | cons d content ih =>
    refine .cons (.silent fun place mark => ⟨place + d.utf8Size, mark, ?_⟩)
      (ih (d :: seen) (by simpa using hcontent))
    have hend : (decide (d = '>') && decide (4 < (seen ++ ['-', '-', '!']).length) &&
        decide ((seen ++ ['-', '-', '!']).take 2 = ['-', '-'])) = false := by
      -- two dashes behind the four characters that begin a comment would be inside it
      simp only [Bool.and_eq_false_iff, decide_eq_false_iff_not]
      match seen, hcontent with
      | [], _ => exact .inl (.inr (by simp))
      | [a], _ => exact .inl (.inr (by simp))
      | a :: b :: more, hcontent =>
        refine .inr fun hdashes => hcontent ?_
        obtain ⟨rfl, rfl⟩ : a = '-' ∧ b = '-' := by simpa using hdashes
        exact ⟨more.reverse, d :: content, by simp⟩
    simp only [step, hend, Bool.false_eq_true, if_false]
    rfl

/-- A comment is set aside. -/
theorem reads_aside_comment {content : List Char} (hcontent : ¬ ['-', '-'] <:+: content) :
    Reads opened .markup ('!' :: '-' :: '-' :: (content ++ ['-', '-', '>'])) [.aside] opened (.text []) := by
  have hbang : Reads opened .markup ['!'] [] opened .bang :=
    .silent fun place mark => ⟨place + Char.utf8Size '!', mark, rfl⟩
  have hfirst : Reads opened .bang ['-'] [] opened (.comment ['-', '!']) :=
    .silent fun place mark => ⟨place + Char.utf8Size '-', mark, rfl⟩
  have hsecond : Reads opened (.comment ['-', '!']) ['-'] [] opened (.comment ['-', '-', '!']) :=
    .silent fun place mark => ⟨place + Char.utf8Size '-', mark, rfl⟩
  exact .cons hbang (.cons hfirst (.cons hsecond (reads_inside_comment opened [] hcontent)))

/-! ## Tags -/

/-- Outside quotes, everything but `>` and quotes is read one character after the other. -/
theorem reads_unquoted {cs : List Char} (hcs : ∀ c ∈ cs, c ≠ '>' ∧ c ≠ '"' ∧ c ≠ '\'') (seen : List Char) :
    Reads opened (.tag none seen) cs [] opened (.tag none (cs.reverse ++ seen)) := by
  induction cs generalizing seen with
  | nil => exact .refl _ _
  | cons c cs ih =>
    obtain ⟨hgt, hquot, hapos⟩ := hcs c List.mem_cons_self
    rw [List.reverse_cons, List.append_assoc, List.singleton_append]
    refine .cons (.silent fun place mark => ⟨place + c.utf8Size, mark, ?_⟩)
      (ih (fun x hx => hcs x (List.mem_cons_of_mem c hx)) (c :: seen))
    simp only [step, stepTag, hgt, hquot, hapos, if_false, decide_false, Bool.or_self,
      Bool.false_eq_true]

/-- A quoted value is read up to the quote behind it. -/
theorem reads_quoted {quote : Char} {value : List Char} (hvalue : quote ∉ value) (seen : List Char) :
    Reads opened (.tag (some quote) seen) (value ++ [quote]) [] opened
      (.tag none (quote :: (value.reverse ++ seen))) := by
  induction value generalizing seen with
  | nil =>
    refine .silent fun place mark => ⟨place + quote.utf8Size, mark, ?_⟩
    simp only [step, stepTag, if_true]
    rfl
  | cons c value ih =>
    obtain ⟨hc, hvalue⟩ := List.ne_and_not_mem_of_not_mem_cons hvalue
    rw [List.reverse_cons, List.append_assoc, List.singleton_append]
    refine .cons (.silent fun place mark => ⟨place + c.utf8Size, mark, ?_⟩) (ih hvalue (c :: seen))
    simp only [step, stepTag, hc.symm, if_false]

end

end Lexer

/-- Blanks neither end a tag nor begin a value. -/
theorem unquoted_of_isSpace {c : Char} (h : isSpace c = true) : c ≠ '>' ∧ c ≠ '"' ∧ c ≠ '\'' := by
  refine ⟨?_, ?_, ?_⟩ <;>
    · rintro rfl
      exact absurd h (by decide)

theorem unquoted_of_isNameChar {c : Char} (h : isNameChar c = true) : c ≠ '>' ∧ c ≠ '"' ∧ c ≠ '\'' := by
  obtain ⟨-, hgt, hquot, hapos, -⟩ := not_of_isNameChar h
  exact ⟨hgt, hquot, hapos⟩

namespace Slot

variable {s : Slot}

/-- The quotes of a value do not occur in it. -/
theorem IsLegible.quote_not_mem (h : s.IsLegible) : s.quote ∉ escapeChars s.item.value := by
  rcases h.quote with hquote | hquote <;> rw [hquote]
  · exact not_mem_escapeChars (by decide) (by decide) _
  · exact not_mem_escapeChars (by decide) (by decide) _

end Slot

namespace Lexer

section

variable (opened : List (List Char))

/-- An attribute is read as a whole. -/
theorem reads_slot {s : Slot} (h : s.IsLegible) (hname : isName s.item.name = true) (seen : List Char) :
    Reads opened (.tag none seen) s.render [] opened (.tag none (s.render.reverse ++ seen)) := by
  have hfront : ∀ c ∈ s.lead ++ s.item.name ++ s.before ++ ['='] ++ s.after,
      c ≠ '>' ∧ c ≠ '"' ∧ c ≠ '\'' := by
    simp only [List.forall_mem_append, List.forall_mem_singleton]
    exact ⟨⟨⟨⟨fun c hc => unquoted_of_isSpace (h.lead c hc),
      fun c hc => unquoted_of_isNameChar (isNameChar_of_isName hname c hc)⟩,
      fun c hc => unquoted_of_isSpace (h.before c hc)⟩, by decide⟩,
      fun c hc => unquoted_of_isSpace (h.after c hc)⟩
  have hbegin : ∀ seen, Reads opened (.tag none seen) [s.quote] [] opened
      (.tag (some s.quote) (s.quote :: seen)) := by
    intro seen
    rcases h.quote with hquote | hquote <;> rw [hquote]
    · exact .silent fun place mark => ⟨place + Char.utf8Size '"', mark, rfl⟩
    · exact .silent fun place mark => ⟨place + Char.utf8Size '\'', mark, rfl⟩
  have hall := (reads_unquoted opened hfront seen).trans
    ((hbegin _).trans (reads_quoted opened h.quote_not_mem _))
  have hrender : s.render = s.lead ++ s.item.name ++ s.before ++ ['='] ++ s.after ++
      ([s.quote] ++ (escapeChars s.item.value ++ [s.quote])) := by
    simp [Slot.render]
  have hreverse : s.render.reverse ++ seen = s.quote :: ((escapeChars s.item.value).reverse ++
      s.quote :: ((s.lead ++ s.item.name ++ s.before ++ ['='] ++ s.after).reverse ++ seen)) := by
    simp [Slot.render]
  rw [hreverse, hrender]
  exact hall

theorem reads_slots {slots : List Slot} (h : ∀ s ∈ slots, s.IsLegible)
    (hnames : ∀ s ∈ slots, isName s.item.name = true) (seen : List Char) :
    Reads opened (.tag none seen) (slots.flatMap Slot.render) [] opened
      (.tag none ((slots.flatMap Slot.render).reverse ++ seen)) := by
  induction slots generalizing seen with
  | nil => exact .refl _ _
  | cons s slots ih =>
    have hfirst := reads_slot opened (h s List.mem_cons_self) (hnames s List.mem_cons_self) seen
    have hrest := ih (fun x hx => h x (List.mem_cons_of_mem s hx))
      (fun x hx => hnames x (List.mem_cons_of_mem s hx)) (s.render.reverse ++ seen)
    rw [List.flatMap_cons, List.reverse_append, List.append_assoc]
    exact hfirst.trans hrest

end

end Lexer

namespace Head

variable {h : Head}

theorem isName_name (hlegible : h.isLegible = true) : isName h.name = true := by
  simp only [isLegible, Bool.and_eq_true] at hlegible
  exact hlegible.1.1

theorem isName_attribute (hlegible : h.isLegible = true) :
    ∀ a ∈ h.attributes, isName a.name = true := by
  simp only [isLegible, Bool.and_eq_true, List.all_eq_true] at hlegible
  exact hlegible.1.2

theorem nodup_names (hlegible : h.isLegible = true) : (h.attributes.map Attribute.name).Nodup := by
  simp only [isLegible, Bool.and_eq_true, decide_eq_true_eq] at hlegible
  exact hlegible.2

end Head

namespace Layout

variable {l : Layout}

theorem IsLegible.isName_name (h : l.IsLegible) : isName l.name = true :=
  Head.isName_name h.head

theorem IsLegible.isName_slot (h : l.IsLegible) : ∀ s ∈ l.slots, isName s.item.name = true :=
  fun s hs => Head.isName_attribute h.head s.item (List.mem_map_of_mem hs)

/-- Behind its name, a tag goes on with a blank if it goes on. -/
theorem IsLegible.rest_cases (h : l.IsLegible) :
    l.tag.rest = [] ∨ ∃ c cs, l.tag.rest = c :: cs ∧ isSpace c = true := by
  rw [tag]
  cases hslots : l.slots with
  | nil =>
    cases htrail : l.trail with
    | nil => exact .inl rfl
    | cons c cs => exact .inr ⟨c, cs, rfl, h.trail c (htrail ▸ List.mem_cons_self)⟩
  | cons s slots =>
    have hs := h.slots s (hslots ▸ List.mem_cons_self)
    obtain ⟨c, cs, hlead⟩ := List.exists_cons_of_ne_nil hs.lead_ne_nil
    have hrest : ∃ more, (s :: slots).flatMap Slot.render ++ l.trail = s.lead ++ more := by
      rw [List.flatMap_cons, Slot.render]
      exact ⟨_, by rw [List.append_assoc, List.append_assoc]⟩
    obtain ⟨more, hmore⟩ := hrest
    exact .inr ⟨c, cs ++ more, by rw [hmore, hlead, List.cons_append], hs.lead c (hlead ▸ List.mem_cons_self)⟩

/-- The name of a tag ends at the first blank. -/
theorem ofContent_render (h : l.IsLegible) : Tag.ofContent l.render = l.tag := by
  have hname : ∀ c ∈ l.tag.name, (!isSpace c) = true := by
    intro c hc
    rw [(not_of_isNameChar (isNameChar_of_isName h.isName_name c hc)).1]
    rfl
  have hrest : l.tag.rest.takeWhile (!isSpace ·) = [] ∧
      l.tag.rest.dropWhile (!isSpace ·) = l.tag.rest := by
    rcases h.rest_cases with hnil | ⟨c, cs, hcons, hc⟩
    · rw [hnil]
      exact ⟨rfl, rfl⟩
    · rw [hcons]
      exact ⟨List.takeWhile_cons_of_neg (by simp [hc]), List.dropWhile_cons_of_neg (by simp [hc])⟩
  rw [Tag.ofContent, render, List.takeWhile_append_of_pos hname, List.dropWhile_append_of_pos hname,
    hrest.1, hrest.2, List.append_nil]

/-- A tag does not end with a slash of its own. -/
theorem getLast?_render (h : l.IsLegible) : l.render.getLast? ≠ some '/' := by
  intro hlast
  rw [render, tag] at hlast
  rcases List.eq_nil_or_concat' l.trail with htrail | ⟨trail, c, htrail⟩
  · rcases List.eq_nil_or_concat' l.slots with hslots | ⟨slots, s, hslots⟩
    · rw [htrail, hslots, List.flatMap_nil, List.append_nil, List.append_nil] at hlast
      have hslash := isNameChar_of_isName h.isName_name '/' (List.mem_of_getLast? hlast)
      exact absurd hslash (by decide)
    · have hquote := (h.slots s (by simp [hslots])).quote
      rw [htrail, hslots] at hlast
      simp only [List.flatMap_append, List.flatMap_cons, List.flatMap_nil, List.append_nil, Slot.render,
        ← List.append_assoc, ← List.cons_append, List.getLast?_concat] at hlast
      rcases hquote with hquote | hquote <;> rw [hquote] at hlast <;> exact absurd hlast (by decide)
  · have hblank := h.trail c (by simp [htrail])
    rw [htrail, ← List.append_assoc, ← List.append_assoc, List.getLast?_concat] at hlast
    rw [Option.some.inj hlast] at hblank
    exact absurd hblank (by decide)

end Layout

namespace Lexer

section

variable (opened : List (List Char)) {l : Layout} {head : Head}

/-- The inside of a tag is read as a whole. -/
theorem reads_layout (h : l.IsLegible) :
    Reads opened .markup l.render [] opened (.tag none l.render.reverse) := by
  obtain ⟨c, cs, hname, hc, hcs⟩ := exists_cons_of_isName h.isName_name
  obtain ⟨-, hgt, hquot, hapos, -, -, hbang, hquestion⟩ := not_of_isNameChar hc
  have hfirst : Reads opened .markup [c] [] opened (.tag none [c]) := by
    refine .silent fun place mark => ⟨place + c.utf8Size, mark, ?_⟩
    simp only [step, stepTag, hbang, hquestion, hgt, hquot, hapos, if_false, decide_false,
      Bool.or_self, Bool.false_eq_true]
  have hall := hfirst.trans
    ((reads_unquoted opened (fun x hx => unquoted_of_isNameChar (hcs x hx)) [c]).trans
      ((reads_slots opened h.slots h.isName_slot (cs.reverse ++ [c])).trans
        (reads_unquoted opened (fun x hx => unquoted_of_isSpace (h.trail x hx)) _)))
  have hrender : l.render = [c] ++ (cs ++ (l.slots.flatMap Slot.render ++ l.trail)) := by
    rw [Layout.render, Layout.tag, hname]
    rfl
  have hreverse : l.render.reverse =
      l.trail.reverse ++ ((l.slots.flatMap Slot.render).reverse ++ (cs.reverse ++ [c])) := by
    rw [hrender]
    simp
  rw [hreverse, hrender]
  exact hall

/-- The end of a tag. -/
theorem reads_end {opened' : List (List Char)} {seen : List Char} {t : Token}
    (h : tagToken opened seen.reverse = .ok (t, opened')) :
    Reads opened (.tag none seen) ['>'] [t] opened' (.text []) := by
  refine .finishing fun place mark => ⟨place + Char.utf8Size '>', place + Char.utf8Size '>', mark, ?_⟩
  simp only [step, stepTag, if_true, h]
  rfl

/-- What begins with a name does not begin with a slash. -/
theorem render_ne_slash (h : l.IsLegible) (cs rest : List Char) : l.render ++ cs ≠ '/' :: rest := by
  obtain ⟨c, name, hname, hc, -⟩ := exists_cons_of_isName h.isName_name
  rw [Layout.render, Layout.tag, hname]
  rintro hslash
  exact (not_of_isNameChar hc).2.2.2.2.2.1 (List.cons.inj hslash).1

/-- A tag that opens an element. -/
theorem reads_opening_layout (h : l.IsLegible) :
    Reads opened .markup (l.render ++ ['>']) [.opening l.tag] (l.name :: opened) (.text []) := by
  refine (reads_layout opened h).trans (reads_end opened ?_)
  rw [List.reverse_reverse, tagToken]
  · rw [if_neg (Layout.getLast?_render h), Layout.ofContent_render h]
    rfl
  · intro rest hcontent
    exact render_ne_slash h [] rest (by rw [List.append_nil, hcontent])

/-- A tag that is an element of its own. -/
theorem reads_empty_layout (h : l.IsLegible) :
    Reads opened .markup (l.render ++ ['/', '>']) [.empty l.tag] opened (.text []) := by
  have hslash : Reads opened (.tag none l.render.reverse) ['/'] [] opened (.tag none ('/' :: l.render.reverse)) :=
    .silent fun place mark => ⟨place + Char.utf8Size '/', mark, rfl⟩
  refine (reads_layout opened h).trans (.cons hslash (reads_end opened ?_))
  rw [List.reverse_cons, List.reverse_reverse, tagToken]
  · rw [if_pos List.getLast?_concat, List.dropLast_concat, Layout.ofContent_render h]
  · intro rest hcontent
    exact render_ne_slash h ['/'] rest hcontent

theorem reads_opening (hlegible : head.isLegible = true) :
    Reads opened .markup (head.render ++ ['>']) [.opening head.tag] (head.name :: opened)
      (.text []) := by
  have hall := reads_opening_layout opened (Head.isLegible_layout hlegible)
  rwa [Head.render_layout, Head.tag_layout] at hall

theorem reads_empty (hlegible : head.isLegible = true) :
    Reads opened .markup (head.render ++ ['/', '>']) [.empty head.tag] opened (.text []) := by
  have hall := reads_empty_layout opened (Head.isLegible_layout hlegible)
  rwa [Head.render_layout, Head.tag_layout] at hall

/-- A tag that closes the innermost open element. -/
theorem reads_closing_layout {name trail : List Char} (hname : isName name = true)
    (htrail : ∀ c ∈ trail, isSpace c = true) :
    Reads (name :: opened) .markup ('/' :: (name ++ (trail ++ ['>']))) [.closing] opened (.text []) := by
  have hslash : Reads (name :: opened) .markup ['/'] [] (name :: opened) (.tag none ['/']) :=
    .silent fun place mark => ⟨place + Char.utf8Size '/', mark, rfl⟩
  refine .cons hslash ((reads_unquoted _
    (fun c hc => unquoted_of_isNameChar (isNameChar_of_isName hname c hc)) ['/']).trans
    ((reads_unquoted _ (fun c hc => unquoted_of_isSpace (htrail c hc)) _).trans (reads_end _ ?_)))
  have hblank : dropSpaces (name ++ trail).reverse = name.reverse := by
    have hbackwards : isName name.reverse = true := by
      rw [isName, List.isEmpty_reverse, List.all_reverse]
      exact hname
    obtain ⟨c, cs, hreverse, hc, -⟩ := exists_cons_of_isName hbackwards
    rw [List.reverse_append, dropSpaces,
      List.dropWhile_append_of_pos fun x hx => htrail x (List.mem_reverse.1 hx), hreverse]
    exact List.dropWhile_cons_of_neg (by rw [(not_of_isNameChar hc).1]; exact Bool.false_ne_true)
  have hcontent : (trail.reverse ++ (name.reverse ++ ['/'])).reverse = '/' :: (name ++ trail) := by simp
  have hsome : name.isEmpty = false := by
    obtain ⟨c, cs, rfl, -⟩ := exists_cons_of_isName hname
    rfl
  rw [hcontent]
  show closing (name :: opened) (name ++ trail) = _
  rw [closing, hblank, List.reverse_reverse]
  simp only [hsome, Bool.false_eq_true, if_false, if_true]

theorem reads_closing {name : List Char} (hname : isName name = true) :
    Reads (name :: opened) .markup ('/' :: (name ++ ['>'])) [.closing] opened (.text []) := by
  have htrail : ∀ c ∈ ([] : List Char), isSpace c = true := nofun
  exact reads_closing_layout opened hname htrail

/-- **Rendered markup gives its tokens.**  Reading goes on up to the `<` of the tag behind the markup. -/
theorem reads_render {m : Markup} (h : m.Legible) :
    Reads opened (.text []) (m.render ++ ['<']) m.tokens opened .markup := by
  induction m generalizing opened with
  | done text => exact reads_text opened text
  | empty text head rest ih =>
    have hall := (reads_text opened text).trans ((reads_empty opened h.1).trans (ih opened h.2))
    simpa [Markup.render, Markup.tokens] using hall
  | element text head inside rest ihInside ihRest =>
    have hclosing := reads_closing opened (Head.isName_name h.1)
    have hall := (reads_text opened text).trans ((reads_opening opened h.1).trans
      ((ihInside (head.name :: opened) h.2.1).trans (hclosing.trans (ihRest opened h.2.2))))
    simpa [Markup.render, Markup.tokens] using hall

end

end Lexer

end RemoteShell.Xml
