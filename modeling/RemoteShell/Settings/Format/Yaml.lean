import RemoteShell.Settings.Value
import RemoteShell.Text.Utf16

/-!
# YAML

`Yaml.parse?` reads the one document of a text.  Block tables and lists are told by their columns,
those in brackets by their signs; scalars are plain words, quoted texts, and blocks of lines.  Anchors,
tags and keys that are no scalars are refused.

A `Cursor` is a place in a text: what follows, and the column of the next character.  Fuel bounds how
deep values nest and how many parts they have; the length of the text is always enough.
-/

namespace RemoteShell.Yaml

/-- A place in a text. -/
structure Cursor where
  column : Nat
  /-- Whether only blanks stand in front of the place in its line. -/
  fresh : Bool
  rest : List Char

namespace Cursor

/-- The place behind the given characters, which stand in one line. -/
def past (c : Cursor) (text : List Char) : Cursor :=
  ⟨c.column + text.length, c.fresh && text.isEmpty, c.rest.drop text.length⟩

/-- The place behind one character. -/
def next (c : Cursor) : Cursor :=
  ⟨c.column + 1, false, c.rest.drop 1⟩

end Cursor

/-- Blanks within a line. -/
def isBlank (c : Char) : Bool :=
  c == ' ' || c == '\t'

/-- Line breaks. -/
def isBreak (c : Char) : Bool :=
  c == '\n' || c == '\r'

/-- Whether a character is a blank or a line break, or there is none. -/
def endsToken : List Char → Bool
  | [] => true
  | c :: _ => isBlank c || isBreak c

/-- The signs of lists and tables in brackets. -/
def isFlowSign (c : Char) : Bool :=
  c == ',' || c == '[' || c == ']' || c == '\x7b' || c == '\x7d'

/-- What follows a line break. -/
def lineBreak? : List Char → Option (List Char)
  | '\r' :: '\n' :: rest => some rest
  | '\r' :: rest => some rest
  | '\n' :: rest => some rest
  | _ => none

/-- Go on to the next token, past blanks, comments and line breaks.  Tabs are refused at the start of
a line, unless in brackets; `tabs` says whether they are allowed in the current one. -/
def skip (flow : Bool) : Nat → Bool → Cursor → Option Cursor
  | 0, _, _ => none
  | fuel + 1, tabs, c =>
    match c.rest with
    | ' ' :: rest => skip flow fuel tabs ⟨c.column + 1, c.fresh, rest⟩
    | '\t' :: rest =>
      if flow || tabs then skip flow fuel tabs ⟨c.column + 1, c.fresh, rest⟩ else none
    | '#' :: rest =>
      let text := rest.takeWhile fun x => !isBreak x
      skip flow fuel true ⟨c.column, c.fresh, rest.drop text.length⟩
    | rest =>
      match lineBreak? rest with
      | some rest => skip flow fuel false ⟨0, true, rest⟩
      | none => some c

/-- The next token. -/
def nextToken (flow tabs : Bool) (c : Cursor) : Option Cursor :=
  skip flow (c.rest.length + 1) (tabs && !c.fresh) c

/-- Whether a line starts with the mark of a document. -/
def isMark (c : Cursor) : Bool :=
  c.column == 0 &&
    (("---".toList.isPrefixOf c.rest || "...".toList.isPrefixOf c.rest) &&
      endsToken (c.rest.drop 3))

/-- The number of empty lines at the front, and the first line that is not empty, without the blanks
in front of it. -/
def foldBreaks : Nat → Nat → Cursor → Nat × Cursor
  | 0, n, c => (n, c)
  | fuel + 1, n, c =>
    match c.rest with
    | x :: rest =>
      if isBlank x then foldBreaks fuel n ⟨c.column + 1, c.fresh, rest⟩
      else
        match lineBreak? (x :: rest) with
        | some rest => foldBreaks fuel (n + 1) ⟨0, true, rest⟩
        | none => (n, c)
    | [] => (n, c)

/-- What stands for line breaks between two parts of a scalar: one is a blank, and of more the first
is left out. -/
def folded (breaks : Nat) : List Char :=
  if breaks ≤ 1 then [' '] else List.replicate (breaks - 1) '\n'

/-- Without the blanks at the end. -/
def trimEnd (cs : List Char) : List Char :=
  (cs.reverse.dropWhile isBlank).reverse

/-- The rest of a text between apostrophes, where two of them stand for one. -/
def single? : Nat → Cursor → Option (List Char × Cursor)
  | 0, _ => none
  | fuel + 1, c =>
    match c.rest with
    | [] => none
    | '\'' :: '\'' :: _ => do
      let (xs, c) ← single? fuel (c.past ['\'', '\''])
      return ('\'' :: xs, c)
    | '\'' :: _ => some ([], c.next)
    | x :: _ =>
      let blanks := c.rest.takeWhile isBlank
      let behind := c.past blanks
      if (lineBreak? behind.rest).isSome then
        let (breaks, c') := foldBreaks (behind.rest.length + 1) 0 behind
        if isMark c' then none
        else do
          let (xs, c) ← single? fuel c'
          return (folded breaks ++ xs, c)
      else if blanks.isEmpty then do
        let (xs, c) ← single? fuel c.next
        return (x :: xs, c)
      else do
        let (xs, c) ← single? fuel behind
        return (blanks ++ xs, c)

/-- The character that `count` hexadecimal digits stand for. -/
def numbered? (count : Nat) (cs : List Char) : Option Char := do
  let digits := cs.take count
  if digits.length ≠ count then none
  let n ← (digits.mapM (Numeral.digit? 16)).map (·.foldl (fun n d => n * 16 + d) 0)
  if n.isValidChar then some (Char.ofNat n) else none

/-- The character of an escape behind its backslash, and the length of the escape. -/
def escape? : List Char → Option (Char × Nat)
  | '0' :: _ => some ('\x00', 1)
  | 'a' :: _ => some ('\x07', 1)
  | 'b' :: _ => some ('\x08', 1)
  | 't' :: _ => some ('\t', 1)
  | '\t' :: _ => some ('\t', 1)
  | 'n' :: _ => some ('\n', 1)
  | 'v' :: _ => some ('\x0b', 1)
  | 'f' :: _ => some ('\x0c', 1)
  | 'r' :: _ => some ('\r', 1)
  | 'e' :: _ => some ('\x1b', 1)
  | ' ' :: _ => some (' ', 1)
  | '"' :: _ => some ('"', 1)
  | '/' :: _ => some ('/', 1)
  | '\\' :: _ => some ('\\', 1)
  | 'N' :: _ => some (Char.ofNat 0x85, 1)
  | '_' :: _ => some (Char.ofNat 0xA0, 1)
  | 'L' :: _ => some (Char.ofNat 0x2028, 1)
  | 'P' :: _ => some (Char.ofNat 0x2029, 1)
  | 'x' :: rest => (numbered? 2 rest).map fun c => (c, 3)
  | 'u' :: rest => (numbered? 4 rest).map fun c => (c, 5)
  | 'U' :: rest => (numbered? 8 rest).map fun c => (c, 9)
  | _ => none

/-- The rest of a text between double quotes. -/
def double? : Nat → Cursor → Option (List Char × Cursor)
  | 0, _ => none
  | fuel + 1, c =>
    match c.rest with
    | [] => none
    | '"' :: _ => some ([], c.next)
    | '\\' :: rest =>
      if (lineBreak? rest).isSome then
        let (breaks, c') := foldBreaks (rest.length + 1) 0 ⟨c.column + 1, false, rest⟩
        do
          let (xs, c) ← double? fuel c'
          return (List.replicate (breaks - 1) '\n' ++ xs, c)
      else do
        let (x, n) ← escape? rest
        let (xs, c) ← double? fuel ⟨c.column + 1 + n, false, rest.drop n⟩
        return (x :: xs, c)
    | x :: _ =>
      let blanks := c.rest.takeWhile isBlank
      let behind := c.past blanks
      if (lineBreak? behind.rest).isSome then
        let (breaks, c') := foldBreaks (behind.rest.length + 1) 0 behind
        if isMark c' then none
        else do
          let (xs, c) ← double? fuel c'
          return (folded breaks ++ xs, c)
      else if blanks.isEmpty then do
        let (xs, c) ← double? fuel c.next
        return (x :: xs, c)
      else do
        let (xs, c) ← double? fuel behind
        return (blanks ++ xs, c)

/-- A quoted text, if one starts here. -/
def quoted? (c : Cursor) : Option (String × Cursor) :=
  let asText := fun (r : List Char × Cursor) => (String.ofList r.1, r.2)
  match c.rest with
  | '\'' :: rest => (single? (rest.length + 1) c.next).map asText
  | '"' :: rest => (double? (rest.length + 1) c.next).map asText
  | _ => none

/-- Whether a plain word can start here. -/
def startsPlain (flow : Bool) : List Char → Bool
  | [] => false
  | c :: rest =>
    if c = '-' || c = '?' || c = ':' then
      !endsToken rest && !(flow && rest.head?.any isFlowSign)
    else
      !isBlank c && !isBreak c && !isFlowSign c &&
        c ∉ ['#', '&', '*', '!', '|', '>', '\'', '"', '%', '@', Char.ofNat 0x60]

/-- The characters of a plain word up to the end of its line.  `blank` says whether the character in
front is one. -/
def plainLine (flow : Bool) (blank : Bool) : List Char → List Char
  | [] => []
  | c :: rest =>
    if isBreak c || (c = '#' && blank) || (flow && isFlowSign c) then []
    else if c = ':' && (endsToken rest || (flow && rest.head?.any isFlowSign)) then []
    else c :: plainLine flow (isBlank c) rest

/-- A plain word, which may go on in the following lines as long as they start at column `indent` or
behind it. -/
def plain (flow : Bool) (indent : Nat) : Nat → Cursor → List Char × Cursor
  | 0, c => ([], c)
  | fuel + 1, c =>
    let word := trimEnd (plainLine flow false c.rest)
    let c := c.past word
    let blanks := c.rest.takeWhile isBlank
    let behind := c.past blanks
    if (lineBreak? behind.rest).isNone then (word, c)
    else
      let (breaks, c') := foldBreaks (behind.rest.length + 1) 0 behind
      let goesOn := !c'.rest.isEmpty && (flow || indent ≤ c'.column) && !isMark c' &&
        c'.rest.head? ≠ some '#' && !(plainLine flow true c'.rest).isEmpty
      if goesOn then
        let (more, c) := plain flow indent fuel c'
        (word ++ folded breaks ++ more, c)
      else (word, c)

/-- How the line breaks at the end of a block of lines are kept. -/
inductive Chomp where
  | strip
  | clip
  | keep
  deriving DecidableEq, Repr

/-- The signs behind `|` and `>`: how line breaks at the end are kept, and by how many columns the
block is indented if that is said. -/
def blockSigns (cs : List Char) : Chomp × Option Nat × List Char :=
  let step := fun (s : Chomp × Option Nat) (c : Char) =>
    if c = '-' then (.strip, s.2)
    else if c = '+' then (.keep, s.2)
    else (s.1, some (c.toNat - '0'.toNat))
  let signs := (cs.take 2).takeWhile fun c => c == '-' || c == '+' || ('1' ≤ c && c ≤ '9')
  let (chomp, indent) := signs.foldl step (.clip, none)
  (chomp, indent, cs.drop signs.length)

/-- The lines of a text without their breaks. -/
def rawLines (cs : List Char) : List (List Char) :=
  (String.ofList cs |>.replace "\r\n" "\n" |>.replace "\r" "\n").toList.splitOn '\n'

/-- The column of the first character of a line that is no blank. -/
def indentOf (line : List Char) : Nat :=
  (line.takeWhile (· == ' ')).length

/-- Whether a line holds nothing. -/
def isEmptyLine (line : List Char) : Bool :=
  line.all (· == ' ')

/-- Join the lines of a folded block: lines that start at the same column are one paragraph. -/
def foldLines : List (List Char) → List Char
  | [] => []
  | [line] => line
  | line :: next :: rest =>
    let isText := fun (l : List Char) => !l.isEmpty && !l.head?.any isBlank
    if line.isEmpty then '\n' :: foldLines (next :: rest)
    else if isText line && isText next then line ++ ' ' :: foldLines (next :: rest)
    else if isText line && next.isEmpty then
      let empty := (next :: rest).takeWhile List.isEmpty
      match (next :: rest).drop empty.length with
      | [] => line
      | after :: _ =>
        if isText after then line ++ foldLines (next :: rest)
        else line ++ '\n' :: foldLines (next :: rest)
    else line ++ '\n' :: foldLines (next :: rest)

/-- A block of lines behind `|` or `>`; its lines start at column `indent` or behind it. -/
def block? (indent : Nat) (fold : Bool) (c : Cursor) : Option (String × Cursor) :=
  let (chomp, said, rest) := blockSigns c.rest
  let tail := rest.dropWhile isBlank
  let tail := if tail.head? = some '#' then tail.dropWhile fun x => !isBreak x else tail
  match tail, lineBreak? tail with
  | [], _ => some ("", ⟨c.column, true, []⟩)
  | _, none => none
  | _, some body =>
    let lines := rawLines body
    let column := match said with
      | some n => indent - 1 + n
      | none => max (max indent 1) (((lines.find? fun l => !isEmptyLine l).map indentOf).getD 1)
    let inside := lines.takeWhile fun l => isEmptyLine l || column ≤ indentOf l
    let texts := inside.map (List.drop column)
    let filled := (texts.reverse.dropWhile List.isEmpty).reverse
    let after := lines.drop inside.length
    -- Every line but the last one of the whole text has a break.
    let breaks := texts.length - filled.length + (if after.isEmpty then 0 else 1) -
      (if filled.isEmpty then 1 else 0)
    let joined := if fold then foldLines filled else List.intercalate ['\n'] filled
    let kept := match chomp with
      | .strip => 0
      | .clip => if filled.isEmpty then 0 else min breaks 1
      | .keep => breaks
    some (String.ofList (joined ++ List.replicate kept '\n'),
      ⟨0, true, List.intercalate ['\n'] after⟩)

/-- A key of a table in one line, and the place behind its colon. -/
def key? (flow : Bool) (c : Cursor) : Option (String × Cursor) := do
  let (key, behind) ← match quoted? c with
    | some (key, behind) =>
      let width := c.rest.length - behind.rest.length
      if (c.rest.take width).any isBreak then none else some (key, behind)
    | none =>
      if startsPlain flow c.rest then
        let word := trimEnd (plainLine flow false c.rest)
        some (String.ofList word, c.past word)
      else none
  let behind := behind.past (behind.rest.takeWhile isBlank)
  match behind.rest with
  | ':' :: rest =>
    if endsToken rest || (flow && rest.head?.any isFlowSign) then some (key, behind.next) else none
  | _ => none

/-- Whether an item of a list starts here. -/
def isItem : List Char → Bool
  | '-' :: rest => endsToken rest
  | _ => false

mutual

/-- A value in brackets. -/
def flow? : Nat → Cursor → Option (Value × Cursor)
  | 0, _ => none
  | fuel + 1, c =>
    match c.rest with
    | '[' :: _ => (flowItems? fuel c.next).map fun (items, c) => (.list items, c)
    | '\x7b' :: _ => (flowEntries? fuel c.next).map fun (entries, c) => (.table entries, c)
    | _ =>
      match quoted? c with
      | some (s, c) => some (.text s, c)
      | none =>
        if startsPlain true c.rest then
          let (word, c) := plain true 0 (c.rest.length + 1) c
          some (.word (String.ofList word), c)
        else none

/-- The items of a list up to its end. -/
def flowItems? : Nat → Cursor → Option (List Value × Cursor)
  | 0, _ => none
  | fuel + 1, c => do
    let c ← nextToken true true c
    match c.rest with
    | ']' :: _ => return ([], c.next)
    | _ =>
      let (v, c) ← match key? true c with
        | some (key, behind) => do
          let (v, c) ← flowValue? fuel behind
          pure (Value.table [(key, v)], c)
        | none => flow? fuel c
      let c ← nextToken true true c
      match c.rest with
      | ',' :: _ =>
        let (vs, c) ← flowItems? fuel c.next
        return (v :: vs, c)
      | ']' :: _ => return ([v], c.next)
      | _ => none

/-- The value behind the colon of an entry in brackets. -/
def flowValue? : Nat → Cursor → Option (Value × Cursor)
  | 0, _ => none
  | fuel + 1, c => do
    let c ← nextToken true true c
    match c.rest with
    | ',' :: _ => return (.word "", c)
    | ']' :: _ => return (.word "", c)
    | '\x7d' :: _ => return (.word "", c)
    | _ => flow? fuel c

/-- The entries of a table up to its end. -/
def flowEntries? : Nat → Cursor → Option (List (String × Value) × Cursor)
  | 0, _ => none
  | fuel + 1, c => do
    let c ← nextToken true true c
    match c.rest with
    | '\x7d' :: _ => return ([], c.next)
    | _ =>
      let ((key, v), c) ← match key? true c with
        | some (key, behind) => do
          let (v, c) ← flowValue? fuel behind
          pure ((key, v), c)
        | none => do
          match ← flow? fuel c with
          | (.word w, c) => pure ((w, Value.word ""), c)
          | (.text s, c) =>
            -- Behind a quoted key the colon needs no blank.
            match c.rest with
            | ':' :: _ => do
              let (v, c) ← flowValue? fuel c.next
              pure ((s, v), c)
            | _ => pure ((s, Value.word ""), c)
          | _ => none
      let c ← nextToken true true c
      match c.rest with
      | ',' :: _ =>
        let (es, c) ← flowEntries? fuel c.next
        return ((key, v) :: es, c)
      | '\x7d' :: _ => return ([(key, v)], c.next)
      | _ => none

end

mutual

/-- A value that starts at column `indent` or behind it; a list may already start at column
`itemIndent`.  Tables and lists start a line, unless `inLine` is set. -/
def value? : Nat → Nat → Nat → Bool → Cursor → Option (Value × Cursor)
  | 0, _, _, _, _ => none
  | fuel + 1, indent, itemIndent, inLine, c => do
    let t ← nextToken false (!inLine) c
    let startsBlock := t.fresh || inLine
    if t.rest.isEmpty || (t.fresh && isMark t) then return (.word "", t)
    else if t.fresh && t.column < indent && !(isItem t.rest && itemIndent ≤ t.column) then
      return (.word "", t)
    else if isItem t.rest then
      if startsBlock then
        let (items, c) ← items? fuel t.column t
        return (.list items, c)
      else none
    else
      match (if startsBlock then key? false t else none) with
      | some _ =>
        let (entries, c) ← entries? fuel t.column t
        return (.table entries, c)
      | none =>
        match t.rest with
        | '|' :: _ => (block? indent false t.next).map fun (s, c) => (.text s, c)
        | '>' :: _ => (block? indent true t.next).map fun (s, c) => (.text s, c)
        | '[' :: _ => flow? fuel t
        | '\x7b' :: _ => flow? fuel t
        | _ =>
          match quoted? t with
          | some (s, c) => return (.text s, c)
          | none =>
            if startsPlain false t.rest then
              let (word, c) := plain false indent (t.rest.length + 1) t
              return (.word (String.ofList word), c)
            else none

/-- The items of a list at a column. -/
def items? : Nat → Nat → Cursor → Option (List Value × Cursor)
  | 0, _, _ => none
  | fuel + 1, column, c => do
    let (v, c) ← value? fuel (column + 1) (column + 1) true c.next
    let t ← nextToken false true c
    if t.rest.isEmpty || (t.fresh && (isMark t || t.column < column)) then return ([v], t)
    else if t.fresh && t.column = column then
      if isItem t.rest then
        let (vs, c) ← items? fuel column t
        return (v :: vs, c)
      else return ([v], t)
    else none

/-- The entries of a table at a column. -/
def entries? : Nat → Nat → Cursor → Option (List (String × Value) × Cursor)
  | 0, _, _ => none
  | fuel + 1, column, c => do
    let (key, behind) ← key? false c
    let (v, c) ← value? fuel (column + 1) column false behind
    let t ← nextToken false true c
    if t.rest.isEmpty || (t.fresh && (isMark t || t.column < column)) then return ([(key, v)], t)
    else if t.fresh && t.column = column then
      let (es, c) ← entries? fuel column t
      return ((key, v) :: es, c)
    else none

end

/-- The place behind the mark at the start of a document, if there is one. -/
def document? (c : Cursor) : Option Cursor := do
  let t ← nextToken false false c
  if "---".toList.isPrefixOf t.rest && isMark t then return t.past ['-', '-', '-']
  else if t.rest.head? = some '%' && t.column = 0 then none
  else return t

/-- Whether nothing but the end of the document follows. -/
def isOver (c : Cursor) : Bool :=
  match nextToken false true c with
  | none => false
  | some t =>
    if t.rest.isEmpty then true
    else
      t.fresh && isMark t && "...".toList.isPrefixOf t.rest &&
        match nextToken false true (t.past ['.', '.', '.']) with
        | some t => t.rest.isEmpty
        | none => false

/-- The value that a text holds.  A byte order mark at the front counts for nothing. -/
def parse? (text : String) : Option Value := do
  let cs := match text.toList with
    | '\uFEFF' :: rest => rest
    | cs => cs
  let c ← document? ⟨0, true, cs⟩
  let (v, c) ← value? (2 * cs.length + 4) 0 0 false c
  if isOver c then some v else none

end RemoteShell.Yaml
