import RemoteShell.Duration
import RemoteShell.Text.Blank

/-!
# Durations as people write them

A duration in a configuration file is a row of amounts with units, such as `1h 30m` or `1.5 s`.
`Human.render` writes the largest units first and leaves out those with amount zero; `Human.read?`
accepts any row, in any order, with the units of `Human.units`.

Reading is a machine with one step for each character.  Blanks separate items and may also stand
between digits.  Every intermediate amount has to fit 64 bits, so a text may be refused although the
duration it describes would fit.
-/

namespace RemoteShell.Duration.Human

/-- A month of `render` and `read?`, in seconds: 30.44 days. -/
def month : Nat := 2630016

/-- A year of `render` and `read?`, in seconds: 365.25 days. -/
def year : Nat := 31557600

/-- One item of the text of a duration, with its unit; nothing for the amount zero. -/
def item (unit : String) (amount : Nat) : List String :=
  if amount = 0 then [] else [toString amount ++ unit]

/-- One item whose unit is a word with a plural. -/
def plural (unit : String) (amount : Nat) : List String :=
  item (if 1 < amount then unit ++ "s" else unit) amount

/-- The text of a duration. -/
def render (d : Duration) : String :=
  let s := d.seconds
  let ns := d.nanos
  let ofYear := s % year
  let ofMonth := ofYear % month
  let ofDay := ofMonth % 86400
  let items :=
    plural "year" (s / year) ++ plural "month" (ofYear / month) ++ plural "day" (ofMonth / 86400) ++
    item "h" (ofDay / 3600) ++ item "m" (ofDay % 3600 / 60) ++ item "s" (ofDay % 60) ++
    item "ms" (ns / 1000000) ++ item "us" (ns / 1000 % 1000) ++ item "ns" (ns % 1000)
  if items.isEmpty then "0s" else String.intercalate " " items

/-- A unit: below a second it counts in nanoseconds, from there on in seconds. -/
inductive Unit where
  | nanos (each : Nat)
  | seconds (each : Nat)

/-- The units and their names. -/
def units : List (List String × Unit) :=
  [(["ns", "nsec", "nanos"], .nanos 1),
   (["us", "usec", "µs"], .nanos 1000),
   (["ms", "msec", "millis"], .nanos 1000000),
   (["s", "sec", "secs", "second", "seconds"], .seconds 1),
   (["m", "min", "mins", "minute", "minutes"], .seconds 60),
   (["h", "hr", "hrs", "hour", "hours"], .seconds 3600),
   (["d", "day", "days"], .seconds 86400),
   (["w", "wk", "wks", "week", "weeks"], .seconds 604800),
   (["M", "month", "months"], .seconds month),
   (["y", "yr", "yrs", "year", "years"], .seconds year)]

/-- The unit with a name. -/
def unit? (name : String) : Option Unit :=
  (units.find? fun u => u.1.contains name).map (·.2)

/-- The numbers that fit 64 bits. -/
def fit (n : Nat) : Option Nat :=
  if n < UInt64.size then some n else none

/-- Decimals behind a point: `numerator / denominator`. -/
structure Fraction where
  numerator : Nat
  denominator : Nat

/-- Add seconds and nanoseconds to a duration. -/
def add (d : Duration) (seconds nanos : Nat) : Option Duration := do
  let ns ← fit (d.nanos + nanos)
  let s ← fit (seconds + ns / perSecond)
  let total ← fit (d.seconds + s)
  return ofParts total (ns % perSecond)

/-- Add the decimals of an amount.  Up to the minute they are rounded down to nanoseconds, from the
hour on to seconds, and a nanosecond has none. -/
def addFraction (d : Duration) (f : Fraction) : Unit → Option Duration
  | .nanos each => do
    if each = 1 then none
    else add d 0 ((← fit (f.numerator * each)) / f.denominator)
  | .seconds each => do
    if each ≤ 60 then add d 0 ((← fit (f.numerator * (each * perSecond))) / f.denominator)
    else add d ((← fit (f.numerator * each)) / f.denominator) 0

/-- Add one item. -/
def addItem (d : Duration) (amount : Nat) (fraction : Option Fraction) (name : String) :
    Option Duration := do
  let unit ← unit? name
  let d' ← match unit with
    | .nanos each => add d 0 (← fit (amount * each))
    | .seconds each => add d (← fit (amount * each)) 0
  match fraction with
  | none => return d'
  | some f => addFraction d' f unit

/-- Where reading stands. -/
inductive Place where
  /-- Before the first digit of an item; the flag says whether an item has been read. -/
  | before (some_ : Bool)
  /-- In the whole part of an amount. -/
  | whole (amount : Nat)
  /-- In the decimals of an amount. -/
  | decimals (amount : Nat) (fraction : Fraction)
  /-- In the name of a unit, whose letters are kept last first. -/
  | unit (amount : Nat) (fraction : Option Fraction) (letters : List Char)

/-- The letters that names of units are made of. -/
def isLetter (c : Char) : Bool :=
  c.isAlpha || c == 'µ'

/-- The value of a decimal digit. -/
def digit (c : Char) : Nat :=
  c.toNat - '0'.toNat

/-- One character more. -/
def step (d : Duration) (place : Place) (c : Char) : Option (Duration × Place) :=
  match place with
  | .before b =>
    if c.isDigit then some (d, .whole (digit c))
    else if Text.isBlankChar c then some (d, .before b)
    else none
  | .whole n =>
    if c.isDigit then (fit (n * 10 + digit c)).map fun m => (d, .whole m)
    else if Text.isBlankChar c then some (d, .whole n)
    else if isLetter c then some (d, .unit n none [c])
    else if c == '.' then some (d, .decimals n ⟨0, 1⟩)
    else none
  | .decimals n f =>
    if c.isDigit then do
      let numerator ← fit (f.numerator * 10 + digit c)
      let denominator ← fit (f.denominator * 10)
      return (d, .decimals n ⟨numerator, denominator⟩)
    else if Text.isBlankChar c then some (d, .decimals n f)
    else if isLetter c then
      if f.denominator = 1 then none else some (d, .unit n (some f) [c])
    else none
  | .unit n f letters =>
    if c.isDigit then
      (addItem d n f (String.ofList letters.reverse)).map fun d' => (d', .whole (digit c))
    else if Text.isBlankChar c then
      (addItem d n f (String.ofList letters.reverse)).map fun d' => (d', .before true)
    else if isLetter c then some (d, .unit n f (c :: letters))
    else none

/-- All characters that follow. -/
def run (d : Duration) (place : Place) : List Char → Option Duration
  | [] =>
    match place with
    | .before b => if b then some d else none
    | .unit n f letters => addItem d n f (String.ofList letters.reverse)
    | _ => none
  | c :: rest => do
    let (d', place') ← step d place c
    run d' place' rest

/-- The duration that a text describes.  A zero needs no unit. -/
def read? (text : String) : Option Duration :=
  if text = "0" then some ⟨0⟩ else run ⟨0⟩ (.before false) text.toList

end RemoteShell.Duration.Human
