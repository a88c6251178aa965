/-!
# Blank characters and trimming

A character is blank when it has the Unicode property `White_Space`; the property has twenty-five
members and is stable, so it is written out as ten ranges.

`trim` drops the blank characters at both ends of a text and nothing between them.  A text is
*blank* when nothing is left of it.
-/

namespace RemoteShell.Text

/-- The code points with the Unicode property `White_Space`, as inclusive ranges. -/
def blankRanges : List (Nat × Nat) :=
  [(0x09, 0x0D), (0x20, 0x20), (0x85, 0x85), (0xA0, 0xA0), (0x1680, 0x1680), (0x2000, 0x200A),
   (0x2028, 0x2029), (0x202F, 0x202F), (0x205F, 0x205F), (0x3000, 0x3000)]

/-- Membership of a code point in a list of inclusive ranges. -/
def inRanges (ranges : List (Nat × Nat)) (c : Char) : Bool :=
  ranges.any fun r => r.1 ≤ c.toNat && c.toNat ≤ r.2

/-- The characters that `trim` removes. -/
def isBlankChar (c : Char) : Bool :=
  inRanges blankRanges c

/-- `trim` on the characters of a text: first the leading blanks go, then the trailing ones. -/
def trimChars (s : List Char) : List Char :=
  ((s.dropWhile isBlankChar).reverse.dropWhile isBlankChar).reverse

/-- The text without the blank characters at its two ends. -/
def trim (s : String) : String :=
  String.ofList (trimChars s.toList)

/-- A text that is empty once trimmed. -/
def isBlank (s : String) : Bool :=
  s.toList.all isBlankChar

/-- ASCII letters in lower case; all other characters stay as they are. -/
def lower (s : String) : String :=
  String.ofList (s.toList.map Char.toLower)

@[simp] theorem toList_trim (s : String) : (trim s).toList = trimChars s.toList := by
  simp [trim]

/-- Trimming leaves a text that stands between blanks and has none itself. -/
theorem trimChars_between {before cs after : List Char} (hbefore : ∀ c ∈ before, isBlankChar c = true)
    (hafter : ∀ c ∈ after, isBlankChar c = true) (hcs : ∀ c ∈ cs, isBlankChar c = false) (hne : cs ≠ []) :
    trimChars (before ++ cs ++ after) = cs := by
  have hkeep {ds : List Char} (rest : List Char) (hds : ∀ c ∈ ds, isBlankChar c = false) (hne : ds ≠ []) :
      (ds ++ rest).dropWhile isBlankChar = ds ++ rest := by
    obtain ⟨c, ds, rfl⟩ := List.exists_cons_of_ne_nil hne
    exact List.dropWhile_cons_of_neg (by rw [hds c List.mem_cons_self]; decide)
  have hreverse : ∀ c ∈ cs.reverse, isBlankChar c = false := fun c hc => hcs c (List.mem_reverse.1 hc)
  have hback := hkeep [] hreverse (by simpa using hne)
  rw [List.append_nil] at hback
  rw [trimChars, List.append_assoc, List.dropWhile_append_of_pos hbefore, hkeep after hcs hne, List.reverse_append,
    List.dropWhile_append_of_pos (fun c hc => hafter c (List.mem_reverse.1 hc)), hback, List.reverse_reverse]

end RemoteShell.Text
