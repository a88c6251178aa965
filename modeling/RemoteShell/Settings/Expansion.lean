import RemoteShell.Surroundings
import RemoteShell.Text.Alphanumeric

/-!
# Variables in paths

`$NAME` and `$\x7bNAME\x7d` stand for the value of an environment variable, `$\x7bNAME:-text\x7d` for `text` if
the variable is not set, and `$$` for a dollar.  A tilde at the front stands for the home directory if
the path ends there or goes on with a slash.  A dollar in front of anything else stays.

A path with a variable that is neither set nor has a replacement is left as it is, all of it.
-/

namespace RemoteShell.Expansion

/-- The characters of variable names that are not in braces. -/
def isNameChar (c : Char) : Bool :=
  Text.isAlphanumeric c || c == '_'

/-- Split in front of the first `:-` that is not at the very front. -/
def splitDefault : List Char → List Char × Option (List Char)
  | [] => ([], none)
  | c :: rest =>
    match rest with
    | ':' :: '-' :: text => ([c], some text)
    | _ =>
      let (name, text) := splitDefault rest
      (c :: name, text)

/-- The value of what stands between braces. -/
def braced? (lookup : String → Option String) (inside : List Char) : Option (List Char) :=
  let (name, text) := if [':', '-'].isPrefixOf inside then (inside, none) else splitDefault inside
  match lookup (String.ofList name) with
  | some value => some value.toList
  | none => text

/-- Replace the variables in what follows; `none` if one has no value. -/
def replaceAll? (lookup : String → Option String) : List Char → Option (List Char)
  | [] => some []
  | '$' :: '$' :: rest => (replaceAll? lookup rest).map ('$' :: ·)
  | '$' :: '\x7b' :: rest =>
    if rest.contains '\x7d' then do
      let value ← braced? lookup (rest.takeWhile (· ≠ '\x7d'))
      let more ← replaceAll? lookup ((rest.dropWhile (· ≠ '\x7d')).drop 1)
      return value ++ more
    else (replaceAll? lookup rest).map ('$' :: '\x7b' :: ·)
  | '$' :: c :: rest =>
    if isNameChar c then do
      let value ← lookup (String.ofList (c :: rest.takeWhile isNameChar))
      let more ← replaceAll? lookup (rest.dropWhile isNameChar)
      return value.toList ++ more
    else (replaceAll? lookup (c :: rest)).map ('$' :: ·)
  | c :: rest => (replaceAll? lookup rest).map (c :: ·)
termination_by cs => cs.length
decreasing_by
  all_goals simp_wf
  all_goals
    have drop (p : Char → Bool) (l : List Char) : (l.dropWhile p).length ≤ l.length :=
      (List.dropWhile_sublist p).length_le
    have := drop (fun c => decide (c ≠ '\x7d')) rest
    have := drop isNameChar rest
    simp at *
    omega

/-- A path with its variables and its tilde replaced. -/
def expand (s : Surroundings) (path : String) : String :=
  match replaceAll? s.lookup? path.toList with
  | none => path
  | some cs =>
    match path.toList.head?, cs with
    | some '~', '~' :: rest =>
      match s.home? with
      | some home =>
        if rest.isEmpty || rest.head? = some '/' then home ++ String.ofList rest
        else String.ofList cs
      | none => String.ofList cs
    | _, _ => String.ofList cs

end RemoteShell.Expansion
