import RemoteShell.Text.Regex

/-!
# Patterns of host names

In a pattern `*` stands for any characters and `?` for one character; a line break is matched by
neither.  Every other character stands for itself, and a pattern has to match a whole name.

A pattern is matched as a regular expression.  All of it is escaped first, so that it stands for
itself; then `.*` and `.` take the places of the escaped wildcards.
-/

namespace RemoteShell.Glob

/-- Whether a text holds a wildcard. -/
def hasWildcard (pattern : List Char) : Bool :=
  pattern.any fun c => c == '*' || c == '?'

/-- A text with `new` in the place of every `old`, where the first `skip` characters are the rest of
an `old` that has been replaced. -/
def replaceFrom (old new : List Char) : Nat → List Char → List Char
  | _, [] => []
  | skip + 1, _ :: rest => replaceFrom old new skip rest
  | 0, c :: rest =>
    if old.isPrefixOf (c :: rest) then new ++ replaceFrom old new (old.length - 1) rest
    else c :: replaceFrom old new 0 rest

/-- A text with `new` in the place of every `old`, from left to right. -/
def replace (old new text : List Char) : List Char :=
  replaceFrom old new 0 text

/-- The regular expression of a pattern. -/
def expression (pattern : List Char) : List Char :=
  '^' :: replace ['\\', '?'] ['.'] (replace ['\\', '*'] ['.', '*'] (Regex.escape pattern)) ++ ['$']

/-- Whether a pattern matches a name, as an engine sees it; an expression that the engine cannot read
matches no name. -/
def covers (engine : Regex.Engine) (pattern name : List Char) : Bool :=
  (engine (expression pattern) name).getD false

end RemoteShell.Glob
