/-!
# Punycode

Punycode writes the characters outside ASCII behind those within: each of them as a number of steps
over all places where one could stand and all characters that could stand there.  The numbers have
digits to the base 36, of which each has a threshold; a digit below its threshold is the last one.

`Punycode.decode?` reads the form back.  Numbers are kept below `2 ^ 32`.
-/

namespace RemoteShell.Url.Punycode

/-- The value of a digit. -/
def digit? (c : Char) : Option Nat :=
  if 'a' ≤ c && c ≤ 'z' then some (c.toNat - 'a'.toNat)
  else if c.isDigit then some (c.toNat - '0'.toNat + 26)
  else none

/-- Divide until at most 455 is left, and count 36 for each division. -/
def damp (n : Nat) : Nat × Nat :=
  if 455 < n then
    let (rest, count) := damp (n / 35)
    (rest, count + 36)
  else (n, 0)
termination_by n
decreasing_by omega

/-- The bias behind a number, when `count` characters have been placed. -/
def adapt (delta count : Nat) (isFirst : Bool) : Nat :=
  let delta := if isFirst then delta / 700 else delta / 2
  let (rest, base) := damp (delta + delta / count)
  base + 36 * rest / (rest + 38)

/-- The threshold of a digit. -/
def threshold (bias place : Nat) : Nat :=
  if place ≤ bias then 1 else min (place - bias) 26

/-- A number that begins with the value `sum`, and what follows it. -/
def number? (bias : Nat) (sum weight place : Nat) : List Char → Option (Nat × List Char)
  | [] => none
  | c :: rest => do
    let d ← digit? c
    let sum := sum + d * weight
    let t := threshold bias place
    if UInt32.size ≤ sum then none
    else if d < t then some (sum, rest)
    else number? bias sum (weight * (36 - t)) (place + 36) rest

theorem length_of_number? {bias sum weight place n : Nat} {cs rest : List Char}
    (h : number? bias sum weight place cs = some (n, rest)) : rest.length < cs.length := by
  induction cs generalizing sum weight place with
  | nil => simp [number?] at h
  | cons c cs ih =>
    simp only [number?, bind, Option.bind_eq_some_iff] at h
    obtain ⟨d, -, h⟩ := h
    split at h
    · simp at h
    · split at h
      · simp only [Option.some.injEq, Prod.mk.injEq] at h
        simp [h.2]
      · exact Nat.lt_succ_of_lt (ih h)

/-- Place the characters that some digits stand for.  The state is the last character, the place behind
the last one placed, and the bias. -/
def place? (code index bias : Nat) (placed : List Char) (cs : List Char) : Option (List Char) :=
  if cs.isEmpty then some placed
  else
    match _h : number? bias 0 1 36 cs with
    | none => none
    | some (delta, rest) =>
      let length := placed.length + 1
      let position := index + delta
      let code' := code + position / length
      let index' := position % length
      if code'.isValidChar then
        place? code' (index' + 1) (adapt delta length (index = 0))
          (placed.take index' ++ Char.ofNat code' :: placed.drop index') rest
      else none
termination_by cs.length
decreasing_by exact length_of_number? _h

/-- The text that a form stands for.  The characters within ASCII stand in front of the last hyphen,
which is there only if there are any. -/
def decode? (cs : List Char) : Option (List Char) :=
  let behind := cs.reverse.takeWhile (· ≠ '-')
  let basic := (cs.reverse.drop (behind.length + 1)).reverse
  if basic.isEmpty && behind.length < cs.length then none
  else if basic.all (·.toNat < 0x80) then place? 128 0 72 basic behind.reverse
  else none

end RemoteShell.Url.Punycode
