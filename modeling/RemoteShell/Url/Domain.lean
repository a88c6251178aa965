import RemoteShell.Text.Utf8
import RemoteShell.Url.Domain.Mapping
import RemoteShell.Url.Domain.Script
import RemoteShell.Url.Domain.Status
import RemoteShell.Url.Punycode

/-!
# Host names

A host name in a URL is percent-decoded, read as UTF-8 and brought into a normal form: characters are
replaced by those they stand for, and labels in Punycode are decoded.  `domain?` gives the normal form,
or `none` if a character or a label breaks a rule of international domain names (UTS 46).

Labels may be empty and of any length.
-/

namespace RemoteShell.Url

/-- The ASCII characters that no host name may hold. -/
def isForbidden (c : Char) : Bool :=
  c.toNat ≤ 0x20 || c.toNat = 0x7F ||
    c ∈ ['%', '#', '/', ':', '<', '>', '?', '@', '[', '\\', ']', '^', '|']

/-- What a character stands for. -/
def standsFor (c : Char) : List Char :=
  if isIgnored c then [] else (mapped? c).getD [c.toLower]

/-- What a text in Punycode starts with. -/
def punycodeMark : List Char := ['x', 'n', '-', '-']

/-- Whether a character may come out of Punycode: it stands for itself. -/
def isStable (c : Char) : Bool :=
  !isIgnored c && !isDisallowed c && !isMapped c && !isForbidden c

/-- A label with its Punycode decoded.  Punycode without a character outside ASCII is refused. -/
def decodeLabel? (label : List Char) : Option (List Char) :=
  if punycodeMark.isPrefixOf label then
    (Punycode.decode? (label.drop punycodeMark.length)).filter fun cs =>
      cs.all isStable && cs.any (0x80 ≤ ·.toNat)
  else some label

/-! ## Joiners -/

/-- Whether the letter that comes first, nonspacing marks apart, satisfies a condition. -/
def firstLetter (p : Char → Bool) (cs : List Char) : Bool :=
  (cs.dropWhile isNonspacing).head?.any p

/-- Whether a joiner may stand between what is before it, last character first, and what is behind
it: after a sign that takes the vowel, and a non-joiner also between two letters that would join. -/
def allowsJoiner (c : Char) (before behind : List Char) : Bool :=
  before.head?.any isVirama ||
    (c = nonJoiner && firstLetter joinsNext before && firstLetter joinsPrevious behind)

/-- Whether all joiners in a text stand where they may. -/
def joinersAreRight (before : List Char) : List Char → Bool
  | [] => true
  | c :: rest =>
    (c ≠ nonJoiner && c ≠ joiner || allowsJoiner c before rest) && joinersAreRight (c :: before) rest

/-! ## Directions -/

/-- Whether a direction makes a host name one that is written from right to left. -/
def Direction.isReversed (d : Direction) : Bool :=
  d = rightToLeft || d = arabicNumber

/-- The direction of the last character that takes up space. -/
def lastDirection? (ds : List Direction) : Option Direction :=
  ds.reverse.find? (· ≠ .nonspacing)

/-- Whether the directions of a label fit together: a label from left to right has nothing written the
other way and ends with a letter or a number; one from right to left has no letter written the other
way, ends with a letter or a number, and has numbers of one kind. -/
def directionsAreRight (ds : List Direction) : Bool :=
  match ds.head? with
  | none => true
  | some .leftToRight =>
    ds.all (!·.isReversed) &&
      (lastDirection? ds).any fun d => d = .leftToRight || d = .europeanNumber
  | some .rightToLeft =>
    ds.all (· ≠ .leftToRight) &&
      ((lastDirection? ds).any fun d => d.isReversed || d = .europeanNumber) &&
      !(ds.contains .arabicNumber && ds.contains .europeanNumber)
  | _ => false

/-! ## Host names -/

/-- Whether a label is right by itself: nothing in it is disallowed, it does not begin with a mark, and
its joiners stand where they may. -/
def isRightLabel (label : List Char) : Bool :=
  label.all (fun c => !isDisallowed c && !isForbidden c) && !label.head?.any isMark &&
    joinersAreRight [] label

/-- The normal form of a host name; `none` if it is no host name. -/
def domain? (bytes : List UInt8) : Option (List Char) := do
  let text ← Utf8.decode? bytes
  let labels ← ((text.toList.flatMap standsFor).splitOn '.').mapM decodeLabel?
  let directions := labels.map (·.map Direction.ofChar)
  if labels.all isRightLabel &&
      (!(directions.any (·.any Direction.isReversed)) || directions.all directionsAreRight) then
    some (List.intercalate ['.'] labels)
  else none

end RemoteShell.Url
