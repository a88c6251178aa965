import RemoteShell.Http.Exchange
import RemoteShell.Text.Charset
import RemoteShell.Url

/-!
# Requests and replies as bytes

A request is written for a connection that carries nothing else, and a reply is everything that comes
back on it.  `Reply.ofBytes` finds the body behind the header, by its length, by its chunks, or else up
to the end, and reads it as a text.
-/

namespace RemoteShell.Http

/-- Where a request goes. -/
structure Destination where
  host : String
  port : UInt16
  path : String
  deriving DecidableEq, Repr

/-- The port of a URL that names none. -/
def usualPort : Nat := 80

/-- Where a request to a URL goes; `none` if it has to be encrypted. -/
def Destination.ofUrl? (url : String) : Option Destination :=
  match url.toList with
  | 'h' :: 't' :: 't' :: 'p' :: ':' :: '/' :: '/' :: rest =>
    let path := (rest.dropWhile (!Url.endsAuthority ·)).takeWhile (· ≠ '#')
    let (host, port) :=
      Url.splitPort false (Url.dropUser (rest.takeWhile (!Url.endsAuthority ·)))
    let number := (Numeral.unsigned 10 65535 (port.drop 1)).toOption.getD usualPort
    some ⟨String.ofList (host.filter fun c => c ≠ '[' && c ≠ ']'), .ofNat number,
      String.ofList (if path.isEmpty then ['/'] else path)⟩
  | _ => none

/-- One byte of a path: visible as it is, all others by their numbers. -/
def pathByte (b : UInt8) : List UInt8 :=
  if 0x21 ≤ b && b ≤ 0x7E then [b] else 37 :: Utf8.encode (Hex.encode [b])

/-- The end of a line. -/
def lineEnd : List UInt8 := [13, 10]

/-- The lines of the header of a request. -/
def Message.headerLines (m : Message) (d : Destination) : List String :=
  let field := fun (name : String) (value : Option String) =>
    (value.map fun v => name ++ ": " ++ v).toList
  ["Host: " ++ d.host ++ ":" ++ toString d.port.toNat, "Content-Type: " ++ m.contentType] ++
    field "SOAPAction" m.soapAction ++ field "Authorization" m.authorization ++
    ["Content-Length: " ++ toString m.body.utf8ByteSize, "Connection: close"]

/-- Whether a text can be the value of a field: control characters cannot, but for tabs. -/
def isFieldValue (value : String) : Bool :=
  value.toList.all fun c => c == '\t' || (0x20 ≤ c.toNat && c.toNat ≠ 0x7F)

/-- Whether a request can be written. -/
def Message.isSendable (m : Message) : Bool :=
  m.soapAction.all isFieldValue && m.authorization.all isFieldValue

/-- The bytes of a request that can be written. -/
def Message.bytes (m : Message) (d : Destination) : List UInt8 :=
  Utf8.encode "POST " ++ (Utf8.encode d.path).flatMap pathByte ++ Utf8.encode " HTTP/1.1" ++ lineEnd ++
    (m.headerLines d).flatMap (fun l => Utf8.encode l ++ lineEnd) ++ lineEnd ++ Utf8.encode m.body

/-- A line, and what follows it. -/
def line? : List UInt8 → Option (List UInt8 × List UInt8)
  | [] => none
  | 13 :: 10 :: rest => some ([], rest)
  | b :: rest => (line? rest).map fun (line, rest) => (b :: line, rest)

/-- The lines up to an empty one, and what follows; `fuel` bounds their number. -/
def head? : Nat → List UInt8 → Option (List String × List UInt8)
  | 0, _ => none
  | fuel + 1, bytes => do
    let (line, rest) ← line? bytes
    if line.isEmpty then return ([], rest)
    let (lines, rest) ← head? fuel rest
    return (Utf8.decodeLossy line :: lines, rest)

/-- The value of a field in the lines of a header. -/
def field? (lines : List String) (name : String) : Option String :=
  lines.findSome? fun line =>
    let (key, value) := line.toList.span (· ≠ ':')
    if Text.lower (String.ofList key) = name then some (Text.trim (String.ofList (value.drop 1)))
    else none

/-- The bytes of chunks; `none` if the last one is missing. -/
def joinChunks? : Nat → List UInt8 → Option (List UInt8)
  | 0, _ => none
  | fuel + 1, bytes => do
    let (line, rest) ← line? bytes
    let digits := (Utf8.decodeLossy line).toList.takeWhile (· ≠ ';')
    let size ← (Numeral.unsigned 16 (1 <<< 63) (Text.trimChars digits)).toOption
    if size = 0 then return []
    if rest.length < size then none
    let more ← joinChunks? fuel ((rest.drop size).drop 2)
    return rest.take size ++ more

/-- The body of a reply; `none` if it breaks off. -/
def body? (lines : List String) (rest : List UInt8) : Option (List UInt8) :=
  if (field? lines "transfer-encoding").map Text.lower = some "chunked" then
    joinChunks? (rest.length + 1) rest
  else
    match (field? lines "content-length").bind fun t =>
        (Numeral.unsigned 10 (1 <<< 63) t.toList).toOption with
    | none => some rest
    | some size => if rest.length < size then none else some (rest.take size)

/-- The reply in everything that came back. -/
def Reply.ofBytes (bytes : List UInt8) : Reply :=
  match head? (bytes.length + 1) bytes with
  | none => .nothing
  | some (lines, rest) =>
    match (lines.headD "").splitOn " " with
    | _ :: code :: _ =>
      match (Numeral.unsigned 10 999 code.toList).toOption with
      | none => .nothing
      | some status =>
        match body? (lines.drop 1) rest with
        | none => .broken status
        | some body =>
          match Charset.readBody? (field? (lines.drop 1) "content-type") body with
          | none => .broken status
          | some text => .whole status text
    | _ => .nothing

end RemoteShell.Http
