import RemoteShell.Base64
import RemoteShell.Text.Blank

/-!
# Certificate files

A certificate file holds sections between lines such as `-----BEGIN CERTIFICATE-----`; everything
outside of sections, and sections of other kinds, count for nothing.  `Certificate.areUsable` says
whether every certificate in a file can be trusted: it has to be Base64 for the DER encoding of a
certificate, of which the outer shape is checked.
-/

namespace RemoteShell.Certificate

/-- A DER element: its tag and content, and what follows. -/
def element? : List UInt8 → Option (UInt8 × List UInt8 × List UInt8)
  | tag :: first :: rest =>
    let (length, rest) :=
      if first < 0x80 then (some first.toNat, rest)
      else
        let count := first.toNat - 0x80
        let digits := rest.take count
        if count = 0 || 4 < count || digits.length ≠ count then (none, rest)
        else (some (digits.foldl (fun n b => n * 256 + b.toNat) 0), rest.drop count)
    match length with
    | none => none
    | some n => if n ≤ rest.length then some (tag, rest.take n, rest.drop n) else none
  | _ => none

/-- Whether bytes are exactly a row of elements with the given tags. -/
def hasTags (tags : List UInt8) (bytes : List UInt8) : Bool :=
  match tags with
  | [] => bytes.isEmpty
  | tag :: more =>
    match element? bytes with
    | some (t, _, rest) => t == tag && hasTags more rest
    | none => false

/-- Whether bytes start with elements with the given tags. -/
def startsWithTags (tags : List UInt8) (bytes : List UInt8) : Bool :=
  match tags with
  | [] => true
  | tag :: more =>
    match element? bytes with
    | some (t, _, rest) => t == tag && startsWithTags more rest
    | none => false

/-- Whether bytes have the shape of a certificate: a sequence of the signed part, the algorithm and
the signature, where the signed part holds a version, a number, an algorithm, an issuer, a period, a
subject and a key. -/
def isCertificate (der : List UInt8) : Bool :=
  match element? der with
  | some (0x30, body, []) =>
    hasTags [0x30, 0x30, 0x03] body &&
      match element? body with
      | some (_, signed, _) => startsWithTags [0xA0, 0x02, 0x30, 0x30, 0x30, 0x30, 0x30] signed
      | none => false
  | _ => false

/-- The label of a line that begins a section. -/
def label? (line : String) : Option String :=
  let start := "-----BEGIN "
  if start.isPrefixOf line then
    let label := (line.toList.drop start.length).reverse.dropWhile Text.isBlankChar
    if (List.replicate 5 '-').isPrefixOf label then some (String.ofList (label.drop 5).reverse)
    else none
  else none

/-- The section that the following lines end: its text, and the lines behind it. -/
def section? (label : String) : List String → Option (String × List String)
  | [] => none
  | line :: rest =>
    if ("-----END " ++ label ++ "-----").isPrefixOf line then some ("", rest)
    else (section? label rest).map fun (text, rest) => (Text.trim line ++ text, rest)

/-- The sections of a file, each with its label; `none` if one does not end. -/
def sections? : Nat → List String → Option (List (String × String))
  | 0, _ => none
  | _, [] => some []
  | fuel + 1, line :: rest =>
    match label? line with
    | none => sections? fuel rest
    | some label => do
      let (text, rest) ← section? label rest
      let more ← sections? fuel rest
      return (label, text) :: more

/-- Whether all certificates in a file can be trusted. -/
def areUsable (file : List UInt8) : Bool :=
  let lines := ((Utf8.decodeLossy file).toList.splitOn '\n').map String.ofList
  match sections? (lines.length + 1) lines with
  | none => false
  | some sections =>
    sections.all fun (label, text) =>
      label ≠ "CERTIFICATE" ||
        match Base64.decode text with
        | .ok der => isCertificate der
        | .error _ => false

end RemoteShell.Certificate
