/-!
# Durations

A duration is a number of nanoseconds.  Three texts of a duration are in use: the operation timeout
of a request header (here), the text people write in configuration files (`Duration.Human`), and the
short form of log lines (`Duration.brief`).
-/

namespace RemoteShell

/-- A length of time. -/
structure Duration where
  /-- The whole length in nanoseconds. -/
  nanoseconds : Nat
  deriving DecidableEq, Repr

namespace Duration

/-- Nanoseconds in a second. -/
def perSecond : Nat := 1000000000

/-- The duration of whole seconds and further nanoseconds. -/
def ofParts (seconds nanos : Nat) : Duration :=
  ⟨seconds * perSecond + nanos⟩

/-- The duration of whole milliseconds. -/
def ofMillis (ms : Nat) : Duration :=
  ⟨ms * 1000000⟩

/-- The whole seconds. -/
def seconds (d : Duration) : Nat :=
  d.nanoseconds / perSecond

/-- The nanoseconds beyond the whole seconds. -/
def nanos (d : Duration) : Nat :=
  d.nanoseconds % perSecond

/-- The whole milliseconds. -/
def millis (d : Duration) : Nat :=
  d.nanoseconds / 1000000

/-- The milliseconds after which the duration is over. -/
def millisUp (d : Duration) : Nat :=
  (d.nanoseconds + 999999) / 1000000

/-- A number below `10 ^ width` with exactly `width` digits. -/
def fixedDigits (width n : Nat) : String :=
  let text := toString n
  String.ofList (List.replicate (width - text.length) '0') ++ text

/-- The text of an operation timeout: seconds with three decimals, rounded down. -/
def operationTimeout (d : Duration) : String :=
  "PT" ++ toString d.seconds ++ "." ++ fixedDigits 3 (d.nanos / 1000000) ++ "S"

/-- A number with `width` decimals, of which the zeros at the end are left out. -/
def decimal (whole width fraction : Nat) : String :=
  let digits := ((fixedDigits width fraction).toList.reverse.dropWhile (· == '0')).reverse
  toString whole ++ (if fraction = 0 then "" else "." ++ String.ofList digits)

/-- The short text of a duration, in the largest unit of which it holds one. -/
def brief (d : Duration) : String :=
  let ns := d.nanos
  if 0 < d.seconds then decimal d.seconds 9 ns ++ "s"
  else if 1000000 ≤ ns then decimal (ns / 1000000) 6 (ns % 1000000) ++ "ms"
  else if 1000 ≤ ns then decimal (ns / 1000) 3 (ns % 1000) ++ "µs"
  else toString ns ++ "ns"

end Duration

end RemoteShell
