/-!
# Regular expressions

Regular expressions as far as patterns of names need them: between the anchors `^` and `$` there are
characters that stand for themselves, `.` for one character other than a line break, and `.*` for any
number of those.  A character with a role of its own stands for itself behind a backslash; `escape`
puts the backslashes in.

`accepts` runs from the end of the text to its start.  It keeps a row of flags, one for each place
between the pieces: whether the pieces from there on match the part of the text that has been read.
-/

namespace RemoteShell.Regex

/-- Decides whether an expression matches in a text; `none` for what it cannot read as an expression. -/
abbrev Engine := List Char → List Char → Option Bool

/-- Whether a character has a role of its own in expressions. -/
def isSpecial : Char → Bool
  | '\\' | '.' | '+' | '*' | '?' | '(' | ')' | '|' | '[' | ']' | '{' | '}' | '^' | '$' | '#' | '&' | '-' | '~' => true
  | _ => false

/-- A character that stands for itself, as an expression has it. -/
def escapeChar (c : Char) : List Char :=
  if isSpecial c then ['\\', c] else [c]

/-- A text that stands for itself, as an expression has it. -/
def escape (cs : List Char) : List Char :=
  cs.flatMap escapeChar

/-- What an expression is made of. -/
inductive Piece where
  | literal (c : Char)
  /-- One character other than a line break. -/
  | any
  /-- Any number of characters other than line breaks. -/
  | run
  deriving DecidableEq, Repr

/-- The pieces of an expression behind its first anchor; the other anchor stands at the end. -/
def pieces? : List Char → Option (List Piece)
  | ['$'] => some []
  | '\\' :: c :: rest => if isSpecial c then (pieces? rest).map (.literal c :: ·) else none
  | '.' :: '*' :: rest => (pieces? rest).map (.run :: ·)
  | '.' :: rest => (pieces? rest).map (.any :: ·)
  | c :: rest => if isSpecial c then none else (pieces? rest).map (.literal c :: ·)
  | [] => none

/-- The row for the empty end of a text. -/
def lastRow : List Piece → List Bool
  | [] => [true]
  | p :: ps =>
    let row := lastRow ps
    (p == .run && row.headD false) :: row

/-- The row for one more character in front. -/
def nextRow (c : Char) : List Piece → List Bool → List Bool
  | [], _ => [false]
  | p :: ps, old =>
    let row := nextRow c ps old.tail
    let here := match p with
      | .run => row.headD false || (c != '\n' && old.headD false)
      | .any => c != '\n' && old.tail.headD false
      | .literal x => c == x && old.tail.headD false
    here :: row

/-- Whether pieces match a whole text. -/
def accepts (ps : List Piece) (text : List Char) : Bool :=
  (text.foldr (fun c row => nextRow c ps row) (lastRow ps)).headD false

/-- The engine for expressions that are anchored at both ends. -/
def search? : Engine := fun expression text =>
  match expression with
  | '^' :: body => (pieces? body).map (accepts · text)
  | _ => none

end RemoteShell.Regex
