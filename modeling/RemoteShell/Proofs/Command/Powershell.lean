import RemoteShell.Command
import RemoteShell.Proofs.Base64
import RemoteShell.Proofs.Soap.RequestTree
import RemoteShell.Proofs.Text.Utf16

/-!
# Scripts on their way

A PowerShell script travels as the last word of a command line: its code units, low byte first, in Base64.  The symbols
of Base64 and the fixed words in front of it have no role in quotes or in markup, so the line comes through quoting and
escaping as it is (`special_notMem_powershellCommand`), and its last word can be read back (`last_powershellCommand`).

What a line has to do for a script is `Conveys`, and `powershellCommand_conveys` proves it for every script.
-/

namespace RemoteShell

/-! ## Characters of the line -/

/-- Base64 is plain. -/
theorem Base64.isPlain_encode (bytes : List UInt8) : Xml.isPlain (encode bytes).toList = true := by
  have hsymbol : ∀ v < 64, Xml.isPlain [Char.ofNat (symbol v).toNat] = true := by decide
  have hpad : Xml.isPlain [Char.ofNat pad.toNat] = true := by decide
  rw [encode, String.toList_ofList, Xml.isPlain_iff]
  intro c hc
  obtain ⟨b, hb, rfl⟩ := List.mem_map.1 hc
  obtain ⟨v, hv, rfl⟩ | rfl := mem_encodeBytes hb
  · exact Xml.isPlain_iff.1 (hsymbol v hv) _ List.mem_cons_self
  · exact Xml.isPlain_iff.1 hpad _ List.mem_cons_self

/-- The words in front of the script. -/
def launcher : List String :=
  ["powershell.exe", "-NoProfile", "-NonInteractive", "-EncodedCommand"]

/-- The line is the words in front and the script, with blanks between them. -/
theorem toList_powershellCommand (script : String) : (powershellCommand script).toList =
    [' '].intercalate ((launcher ++ [Base64.encode (Utf16.encodeLittle script)]).map String.toList) := by
  unfold powershellCommand launcher
  simp [List.intercalate]

/-- **The last word of the line is the script.** -/
theorem last_powershellCommand (script : String) : ((powershellCommand script).toList.splitOn ' ').getLast? =
    some (Base64.encode (Utf16.encodeLittle script)).toList := by
  have hlauncher : ∀ word ∈ launcher.map String.toList, ' ' ∉ word := by decide
  have hscript : ' ' ∉ (Base64.encode (Utf16.encodeLittle script)).toList := fun hmem =>
    absurd (Xml.isPlain_iff.1 (Base64.isPlain_encode _) ' ' hmem).1 (by decide)
  rw [toList_powershellCommand, List.map_append, List.map_singleton, List.splitOn_intercalate]
  · exact List.getLast?_concat
  · exact List.forall_mem_append.2 ⟨hlauncher, List.forall_mem_singleton.2 hscript⟩
  · simp

/-- No character of the line has a role in quotes or in markup. -/
theorem special_notMem_powershellCommand (script : String) :
    ∀ c ∈ (powershellCommand script).toList, c ∉ Xml.special := by
  have hlauncher : ∀ c ∈ "powershell.exe -NoProfile -NonInteractive -EncodedCommand ".toList, c ∉ Xml.special := by
    simp [Xml.special]
  intro c hc
  unfold powershellCommand at hc
  rw [String.toList_append, List.mem_append] at hc
  rcases hc with hc | hc
  · exact hlauncher c hc
  · exact (Xml.isPlain_iff.1 (Base64.isPlain_encode _) c hc).2

theorem powershellCommand_injective {script other : String} (h : powershellCommand script = powershellCommand other) :
    script = other := by
  have hlast := last_powershellCommand script
  rw [h, last_powershellCommand, Option.some_inj, String.toList_inj] at hlast
  have hbytes := (Base64.decode_eq_ok_iff.2 rfl).symm.trans (Base64.decode_eq_ok_iff.2 hlast)
  exact Utf16.encodeLittle_injective (Except.ok.inj hbytes).symm

/-! ## The line in a request -/

namespace Soap

/-- A text in double quotes is not trimmed. -/
theorem trimmed_quoted (s : String) : Xml.trimmed ("\"" ++ s ++ "\"") = "\"" ++ s ++ "\"" := by
  have hdrop : ∀ cs : List Char, Xml.dropSpaces ('"' :: cs) = '"' :: cs := fun cs =>
    List.dropWhile_cons_of_neg (by decide)
  have hchars : ("\"" ++ s ++ "\"").toList = '"' :: (s.toList ++ ['"']) := by simp
  have hreverse : ('"' :: (s.toList ++ ['"'])).reverse = '"' :: (s.toList.reverse ++ ['"']) := by simp
  rw [Xml.trimmed, hchars, Xml.trimSpaces, hdrop, hreverse, hdrop, ← hreverse, List.reverse_reverse, ← hchars,
    String.ofList_toList]

/-- A line that begins without a quote is put between quotes. -/
theorem quoteCommand_of_notMem {line : String} (h : '"' ∉ line.toList) : quoteCommand line = "\"" ++ line ++ "\"" := by
  have hhead : line.toList.head? ≠ some '"' := fun hhead => h (List.mem_of_head? hhead)
  rw [quoteCommand]
  simp [hhead]

/-- The request to start a command holds one command line. -/
theorem filter_command (p : Parameters) (id : String) (action : Action) (shellId : Option String)
    (options : Option Options) (text : String) :
    (requestTree p id action shellId options (.commandLine text)).preorder.filter (·.named shellUri "Command") =
      [⟨some shellUri, "Command", [], Xml.trimmed text, []⟩] := by
  cases shellId <;> cases options <;>
    simp [requestTree, headerTrees, Xml.Element.preorder_eq, Xml.Element.preorderAll, named_mk, Body.trees,
      filter_optionTrees, selectorTree, actionTree, -List.filter_eq_nil_iff]

/-- **A line of plain characters reaches the server between quotes.** -/
theorem parse_command (p : Parameters) (bits : Nat) (shellId : String) {line : String}
    (h : ∀ c ∈ line.toList, c ∉ Xml.special) :
    ∃ d, Xml.Document.parse ((Request.command shellId line).envelope p (MessageId.ofBits bits)).xml = .ok d ∧
      Response.named d shellUri "Command" = [⟨some shellUri, "Command", [], "\"" ++ line ++ "\"", []⟩] := by
  have hquoted : quoteCommand line = "\"" ++ line ++ "\"" :=
    quoteCommand_of_notMem fun hmem => h '"' hmem (by decide)
  refine ⟨_, parse_build_eq p (plain_ofBits bits) _ _ _ _, ?_⟩
  rw [Response.named, Xml.Document.elements, Xml.Element.descendants_eq_preorder, filter_command, hquoted,
    trimmed_quoted]

end Soap

/-! ## Main result -/

theorem CommandOptions.line_unset (command : String) : unset.line command = command := by
  simp [line, unset, sorted]

/-- What a command line has to do for a script. -/
structure Conveys (line script : String) : Prop where
  /-- The last word is Base64 of the script in UTF-16, low byte first, and nothing in it is malformed. -/
  word : ∃ (word : String) (bytes : List UInt8), (line.toList.splitOn ' ').getLast? = some word.toList ∧
    Base64.decode word = .ok bytes ∧ Utf16.join (Utf16.pair true bytes) = script.toList.map some
  /-- Neither quoting nor escaping does anything to a character of the line. -/
  plain : ∀ c ∈ line.toList, c ≠ '"' ∧ Xml.escapeChar c = [c]
  /-- The request to run the line holds it between one pair of quotes. -/
  request : ∀ (p : Soap.Parameters) (bits : Nat) (shellId : String), ∃ d, Xml.Document.parse
      ((Soap.Request.command shellId (CommandOptions.unset.line line)).envelope p (Soap.MessageId.ofBits bits)).xml =
        .ok d ∧
      Soap.Response.named d Soap.shellUri "Command" =
        [⟨some Soap.shellUri, "Command", [], "\"" ++ line ++ "\"", []⟩]

/-- **Scripts arrive.**  For every script, the last word of its command line decodes to exactly the script, the line
goes into a request as it is, and another script has another line. -/
theorem powershellCommand_conveys (script : String) :
    Conveys (powershellCommand script) script ∧
      ∀ other, powershellCommand other = powershellCommand script ↔ other = script := by
  have hspecial := special_notMem_powershellCommand script
  refine ⟨⟨?_, ?_, ?_⟩, fun other => ⟨powershellCommand_injective, congrArg powershellCommand⟩⟩
  · exact ⟨_, _, last_powershellCommand script, Base64.decode_eq_ok_iff.2 rfl, Utf16.join_pair_encodeLittle script⟩
  · intro c hc
    refine ⟨?_, Xml.escapeChar_of_not_mem (hspecial c hc)⟩
    rintro rfl
    exact hspecial _ hc (by decide)
  · intro p bits shellId
    rw [CommandOptions.line_unset]
    exact Soap.parse_command p bits shellId hspecial

end RemoteShell
