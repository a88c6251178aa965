import RemoteShell.Base64
import RemoteShell.Failure
import RemoteShell.Text.Blank
import RemoteShell.Text.Numeral

/-!
# Reading responses

Queries over the elements of a response in document order.  Where a field occurs more than once, the
first occurrence counts, except for output streams, whose chunks are joined.  Texts are trimmed.
-/

namespace RemoteShell.Soap

open Xml (Document Element)

namespace Response

/-- The elements that carry a field. -/
def carriers (d : Document) (f : Field) : List Element :=
  d.elements.filter f.carriedBy

/-- The elements with a namespace and a local name. -/
def named (d : Document) (uri name : String) : List Element :=
  d.elements.filter (·.named uri name)

/-- The text of the first element that carries a field. -/
def first? (d : Document) (f : Field) : Option String :=
  (d.elements.find? f.carriedBy).map fun e => Text.trim e.text

/-- Whether a field occurs. -/
def contains (d : Document) (f : Field) : Bool :=
  d.elements.any f.carriedBy

/-- The text of the first element that carries a field, which must not be blank. -/
def required (d : Document) (f : Field) : Except Failure String :=
  match (first? d f).filter (· ≠ "") with
  | some text => .ok text
  | none => .error (.fieldMissing f d.source)

/-- The exit code, if the response holds one. -/
def exitCode? (d : Document) : Except Failure (Option Int) :=
  match (first? d .exitCode).filter (· ≠ "") with
  | none => .ok none
  | some text =>
    match Numeral.int32 text.toList with
    | .ok n => .ok (some n)
    | .error e =>
      .error (.fieldMalformed .exitCode ("'" ++ text ++ "' is not an exit code: " ++ e.message))

/-- The bytes of one chunk of output. -/
def chunk (f : Field) (e : Element) : Except Failure (List UInt8) :=
  match Base64.decode (Text.trim e.text) with
  | .ok bytes => .ok bytes
  | .error fault => .error (.fieldMalformed f ("invalid Base64 chunk: " ++ fault.message))

/-- The bytes of some chunks, in order. -/
def joinChunks (f : Field) : List Element → Except Failure (List UInt8)
  | [] => .ok []
  | e :: rest => do
    let bytes ← chunk f e
    let more ← joinChunks f rest
    return bytes ++ more

/-- The output that a response holds for a stream. -/
def stream (d : Document) (f : Field) : Except Failure (List UInt8) :=
  joinChunks f (carriers d f)

/-- What is said of a fault without a reason. -/
def noReason : String := "SOAP fault without reason text"

/-- The reason of the first fault in a response: its first text that is not blank. -/
def faultReason? (d : Document) : Option String :=
  (d.elements.find? (·.named soapUri "Fault")).map fun fault =>
    (((fault.descendants.filter (·.named soapUri "Text")).map fun e => Text.trim e.text).find?
      (· ≠ "")).getD noReason

end Response

end RemoteShell.Soap
