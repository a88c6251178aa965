import RemoteShell.Settings.Format.Toml.Section

/-!
# TOML

`Toml.parse?` reads a text of headers and of lines `key = value`.  The readers of the parts of a text
give what they have read and what follows.  Fuel bounds how deep lists and tables nest and how many
parts they have; the length of the text is always enough.
-/

namespace RemoteShell.Toml

/-- Blanks within a line. -/
def isBlank (c : Char) : Bool :=
  c == ' ' || c == '\t'

/-- What follows the blanks at the front. -/
def skip (cs : List Char) : List Char :=
  cs.dropWhile isBlank

/-- The characters that may stand in comments and, but for the quote, in quoted texts. -/
def isVisible (c : Char) : Bool :=
  c == '\t' || (0x20 ≤ c.toNat && c.toNat ≠ 0x7F)

/-- What follows a line break at the front. -/
def lineBreak? : List Char → Option (List Char)
  | '\n' :: rest => some rest
  | '\r' :: '\n' :: rest => some rest
  | _ => none

/-- What follows a comment at the front, if there is one. -/
def skipComment (cs : List Char) : List Char :=
  match cs with
  | '#' :: rest => rest.dropWhile isVisible
  | cs => cs

/-- What follows the end of a line, which may hold blanks and a comment; the end of the text also
ends a line. -/
def endLine? (cs : List Char) : Option (List Char) :=
  match skipComment (skip cs) with
  | [] => some []
  | rest => lineBreak? rest

/-- The characters that `count` hexadecimal digits stand for, and what follows. -/
def numbered? (count : Nat) (cs : List Char) : Option (Char × List Char) := do
  let digits := cs.take count
  if digits.length ≠ count then none
  let n ← (digits.mapM (Numeral.digit? 16)).map (·.foldl (fun n d => n * 16 + d) 0)
  if n.isValidChar then some (Char.ofNat n, cs.drop count) else none

/-- The character that the escape behind a backslash stands for, and what follows. -/
def escape? : List Char → Option (Char × List Char)
  | 'b' :: rest => some ('\x08', rest)
  | 't' :: rest => some ('\t', rest)
  | 'n' :: rest => some ('\n', rest)
  | 'f' :: rest => some ('\x0c', rest)
  | 'r' :: rest => some ('\r', rest)
  | '"' :: rest => some ('"', rest)
  | '\\' :: rest => some ('\\', rest)
  | 'u' :: rest => numbered? 4 rest
  | 'U' :: rest => numbered? 8 rest
  | _ => none

/-- A text on one line, up to its closing quote.  Only double quotes know escapes. -/
def line? (quote : Char) : Nat → List Char → Option (List Char × List Char)
  | 0, _ => none
  | _, [] => none
  | fuel + 1, c :: rest =>
    if c = quote then some ([], rest)
    else if c = '\\' && quote = '"' then do
      let (x, rest) ← escape? rest
      let (xs, rest) ← line? quote fuel rest
      return (x :: xs, rest)
    else if isVisible c then do
      let (xs, rest) ← line? quote fuel rest
      return (c :: xs, rest)
    else none

/-- What follows the blanks and line breaks at the front. -/
def skipLines (cs : List Char) : List Char :=
  cs.dropWhile fun c => isBlank c || c == '\n' || c == '\r'

/-- Whether every carriage return in front of the first other character belongs to a line break. -/
def breaksAreWhole : List Char → Bool
  | '\r' :: '\n' :: rest => breaksAreWhole rest
  | '\r' :: _ => false
  | c :: rest => if isBlank c || c == '\n' then breaksAreWhole rest else true
  | [] => true

/-- A text over several lines, up to its three closing quotes.  Two more quotes in front of those
belong to the text.  A backslash at the end of a line takes all blanks and line breaks with it. -/
def lines? (quote : Char) : Nat → List Char → Option (List Char × List Char)
  | 0, _ => none
  | fuel + 1, cs =>
    let quotes := cs.takeWhile (· == quote)
    if 3 ≤ quotes.length then
      if 5 < quotes.length then none
      else some (List.replicate (quotes.length - 3) quote, cs.drop quotes.length)
    else if !quotes.isEmpty then do
      let (xs, rest) ← lines? quote fuel (cs.drop quotes.length)
      return (quotes ++ xs, rest)
    else
      match lineBreak? cs with
      | some rest => do
        let (xs, rest) ← lines? quote fuel rest
        return ('\n' :: xs, rest)
      | none =>
        match cs with
        | [] => none
        | c :: rest =>
          if c = '\\' && quote = '"' then
            match lineBreak? (skip rest) with
            | some behind =>
              if breaksAreWhole behind then lines? quote fuel (skipLines behind) else none
            | none => do
              let (x, rest) ← escape? rest
              let (xs, rest) ← lines? quote fuel rest
              return (x :: xs, rest)
          else if isVisible c then do
            let (xs, rest) ← lines? quote fuel rest
            return (c :: xs, rest)
          else none

/-- A quoted text of either kind, behind its first quote. -/
def quoted? (quote : Char) (cs : List Char) : Option (String × List Char) :=
  let fuel := cs.length + 1
  let asText := fun (r : List Char × List Char) => (String.ofList r.1, r.2)
  match cs with
  | a :: b :: rest =>
    if a = quote && b = quote then
      (lines? quote fuel ((lineBreak? rest).getD rest)).map asText
    else (line? quote fuel cs).map asText
  | _ => (line? quote fuel cs).map asText

/-- The characters of keys without quotes. -/
def isKeyChar (c : Char) : Bool :=
  c.isAlphanum || c == '_' || c == '-'

/-- One part of a key. -/
def keyPart? (cs : List Char) : Option (String × List Char) :=
  match cs with
  | '"' :: rest => (line? '"' (rest.length + 1) rest).map fun r => (String.ofList r.1, r.2)
  | '\'' :: rest => (line? '\'' (rest.length + 1) rest).map fun r => (String.ofList r.1, r.2)
  | _ =>
    let part := cs.takeWhile isKeyChar
    if part.isEmpty then none else some (String.ofList part, cs.dropWhile isKeyChar)

/-- A key: its path and its last part.  Blanks may stand around the points. -/
def key? : Nat → List Char → Option ((List String × String) × List Char)
  | 0, _ => none
  | fuel + 1, cs => do
    let (part, rest) ← keyPart? (skip cs)
    match skip rest with
    | '.' :: rest =>
      let ((path, last), rest) ← key? fuel rest
      return ((part :: path, last), rest)
    | rest => return (([], part), rest)

/-- The characters of words such as numbers, dates and flags. -/
def isWordChar (c : Char) : Bool :=
  c.isAlphanum || c == '_' || c == '-' || c == '+' || c == '.' || c == ':'

/-- Digits in which single underscores may stand between two digits, without the underscores. -/
def grouped? (isDigit : Char → Bool) : List Char → Option (List Char)
  | [] => none
  | [c] => if isDigit c then some [c] else none
  | c :: '_' :: rest => if isDigit c then (grouped? isDigit rest).map (c :: ·) else none
  | c :: rest => if isDigit c then (grouped? isDigit rest).map (c :: ·) else none

/-- The value of grouped digits in a base. -/
def groupedNumber? (base : Nat) (cs : List Char) : Option Nat := do
  let digits ← grouped? (fun c => (Numeral.digit? base c).isSome) cs
  return digits.foldl (fun n c => n * base + (Numeral.digit? base c).getD 0) 0

/-- Grouped decimal digits without a zero in front of others. -/
def wholePart? (cs : List Char) : Option Nat :=
  match cs with
  | '0' :: _ :: _ => none
  | _ => groupedNumber? 10 cs

/-- A number with its sign, unless it takes more than 64 bits. -/
def integer? (word : List Char) : Option Value :=
  let fit := fun (n : Int) =>
    if Int64.minValue.toInt ≤ n && n ≤ Int64.maxValue.toInt then some (Value.integer n) else none
  match word with
  | '0' :: 'x' :: rest => (groupedNumber? 16 rest).bind fun n => fit n
  | '0' :: 'o' :: rest => (groupedNumber? 8 rest).bind fun n => fit n
  | '0' :: 'b' :: rest => (groupedNumber? 2 rest).bind fun n => fit n
  | '-' :: rest => (wholePart? rest).bind fun n => fit (-n)
  | '+' :: rest => (wholePart? rest).bind fun n => fit n
  | _ => (wholePart? word).bind fun n => fit n

/-- A word without its sign. -/
def unsigned : List Char → List Char
  | '-' :: rest => rest
  | '+' :: rest => rest
  | cs => cs

/-- Whether a word is a number with a fraction or an exponent, or a special number. -/
def isReal (word : List Char) : Bool :=
  let cs := unsigned word
  if cs = "inf".toList || cs = "nan".toList then true
  else
    let isDigits := fun (cs : List Char) => (groupedNumber? 10 cs).isSome
    let mantissa := cs.takeWhile fun c => c ≠ 'e' && c ≠ 'E'
    let exponent := cs.drop mantissa.length
    let whole := mantissa.takeWhile (· ≠ '.')
    let fraction := mantissa.drop whole.length
    (wholePart? whole).isSome && (fraction.isEmpty || isDigits (fraction.drop 1)) &&
      (exponent.isEmpty || isDigits (unsigned (exponent.drop 1))) &&
      !(fraction.isEmpty && exponent.isEmpty)

/-- The number that exactly `count` decimal digits stand for. -/
def fixed? (count : Nat) (cs : List Char) : Option Nat :=
  if cs.length = count && cs.all Char.isDigit then
    some (cs.foldl (fun n c => n * 10 + (c.toNat - '0'.toNat)) 0)
  else none

/-- The days of a month. -/
def daysIn (year month : Nat) : Nat :=
  if month = 2 then
    if year % 4 = 0 && (year % 100 ≠ 0 || year % 400 = 0) then 29 else 28
  else if month ∈ [4, 6, 9, 11] then 30
  else 31

/-- Whether a text is a date such as `1979-05-27`. -/
def isDate (cs : List Char) : Bool :=
  match (cs.splitOn '-') with
  | [y, m, d] =>
    match fixed? 4 y, fixed? 2 m, fixed? 2 d with
    | some y, some m, some d => 1 ≤ m && m ≤ 12 && 1 ≤ d && d ≤ daysIn y m
    | _, _, _ => false
  | _ => false

/-- Whether a text is a time of day such as `07:32:00.5`. -/
def isTime (cs : List Char) : Bool :=
  let clock := cs.takeWhile (· ≠ '.')
  let fraction := cs.drop clock.length
  let hasFraction := match fraction with
    | [] => true
    | _ :: ds => !ds.isEmpty && ds.all Char.isDigit
  match clock.splitOn ':' with
  | [h, m, s] =>
    match fixed? 2 h, fixed? 2 m, fixed? 2 s with
    | some h, some m, some s => hasFraction && h < 24 && m < 60 && s ≤ 60
    | _, _, _ => false
  | _ => false

/-- Whether a text is a time of day with an optional offset such as `Z` or `-07:00`. -/
def isOffsetTime (cs : List Char) : Bool :=
  let time := cs.takeWhile fun c => c.isDigit || c == ':' || c == '.'
  let isOffset := match cs.drop time.length with
    | [] => true
    | ['Z'] => true
    | ['z'] => true
    | c :: rest =>
      (c == '+' || c == '-') &&
        match rest.splitOn ':' with
        | [h, m] =>
          match fixed? 2 h, fixed? 2 m with
          | some h, some m => h < 24 && m < 60
          | _, _ => false
        | _ => false
  isTime time && isOffset

/-- Whether a word is a date, a time, or both. -/
def isMoment (word : List Char) : Bool :=
  isDate word || isTime word ||
    (isDate (word.take 10) && (word.drop 10).head?.any (fun c => c ∈ ['T', 't', ' ']) &&
      isOffsetTime (word.drop 11))

/-- The value of a word.  A date is a table with one nameless entry. -/
def word? (word : List Char) : Option Value :=
  if word = "true".toList then some (.flag true)
  else if word = "false".toList then some (.flag false)
  else if isMoment word then some (.table [("", .text (String.ofList word))])
  else if isReal word then some .real
  else integer? word

/-- Split a word off; a date may go on behind a blank with a time. -/
def splitWord (cs : List Char) : List Char × List Char :=
  let word := cs.takeWhile isWordChar
  let rest := cs.drop word.length
  match rest with
  | ' ' :: d :: _ =>
    if isDate word && d.isDigit then
      let time := (rest.drop 1).takeWhile isWordChar
      (word ++ ' ' :: time, rest.drop (1 + time.length))
    else (word, rest)
  | _ => (word, rest)

/-- What follows blanks, line breaks and comments. -/
def skipSpace : Nat → List Char → Option (List Char)
  | 0, _ => none
  | fuel + 1, cs =>
    match skip cs with
    | '#' :: rest =>
      match rest.dropWhile isVisible with
      | [] => some []
      | rest => (lineBreak? rest).bind (skipSpace fuel)
    | rest =>
      match lineBreak? rest with
      | some rest => skipSpace fuel rest
      | none => some rest

mutual

/-- A value. -/
def value? : Nat → List Char → Option (Value × List Char)
  | 0, _ => none
  | fuel + 1, cs =>
    match cs with
    | '"' :: rest => (quoted? '"' rest).map fun (s, rest) => (.text s, rest)
    | '\'' :: rest => (quoted? '\'' rest).map fun (s, rest) => (.text s, rest)
    | '[' :: rest => (items? fuel rest).map fun (items, rest) => (.list items, rest)
    | '\x7b' :: rest =>
      match skip rest with
      | '\x7d' :: rest => some (.table [], rest)
      | rest => do
        let (entries, rest) ← entries? fuel rest
        let table ← ofEntries? entries
        return (table, rest)
    | cs =>
      let (word, rest) := splitWord cs
      (word? word).map fun v => (v, rest)

/-- The items of a list up to its end. -/
def items? : Nat → List Char → Option (List Value × List Char)
  | 0, _ => none
  | fuel + 1, cs => do
    match ← skipSpace (cs.length + 1) cs with
    | ']' :: rest => return ([], rest)
    | cs =>
      let (v, rest) ← value? fuel cs
      match ← skipSpace (rest.length + 1) rest with
      | ',' :: rest =>
        let (vs, rest) ← items? fuel rest
        return (v :: vs, rest)
      | ']' :: rest => return ([v], rest)
      | _ => none

/-- The entries of a table between braces, of which there is at least one. -/
def entries? : Nat → List Char → Option (List (List String × String × Value) × List Char)
  | 0, _ => none
  | fuel + 1, cs => do
    let ((path, key), rest) ← key? (cs.length + 1) cs
    match rest with
    | '=' :: rest =>
      let (v, rest) ← value? fuel (skip rest)
      match skip rest with
      | ',' :: rest =>
        let (es, rest) ← entries? fuel rest
        return ((path, key, v) :: es, rest)
      | '\x7d' :: rest => return ([(path, key, v)], rest)
      | _ => none
    | _ => none

end

/-- The end of a header, which closes the given number of brackets. -/
def closeHeader? (brackets : Nat) (cs : List Char) : Option (List Char) :=
  if (List.replicate brackets ']').isPrefixOf cs then endLine? (cs.drop brackets) else none

/-- The statements of a text. -/
def statements? : Nat → List Char → Option (List Statement)
  | 0, _ => none
  | fuel + 1, cs =>
    match skip cs with
    | [] => some []
    | '[' :: '[' :: rest => do
      let ((path, key), rest) ← key? (rest.length + 1) rest
      let rest ← closeHeader? 2 rest
      let more ← statements? fuel rest
      return .nextHeader path key :: more
    | '[' :: rest => do
      let ((path, key), rest) ← key? (rest.length + 1) rest
      let rest ← closeHeader? 1 rest
      let more ← statements? fuel rest
      return .header path key :: more
    | cs =>
      match endLine? cs with
      | some rest => statements? fuel rest
      | none => do
        let ((path, key), rest) ← key? (cs.length + 1) cs
        match rest with
        | '=' :: rest =>
          let (v, rest) ← value? (2 * rest.length + 2) (skip rest)
          let rest ← endLine? rest
          let more ← statements? fuel rest
          return .entry path key v :: more
        | _ => none

/-- The table that a text describes.  A byte order mark at the front counts for nothing. -/
def parse? (text : String) : Option Value := do
  let cs := match text.toList with
    | '\uFEFF' :: rest => rest
    | cs => cs
  ofStatements? (← statements? (cs.length + 1) cs)

end RemoteShell.Toml
