/-!
# Bounded pipes

A pipe carries bytes from one writer to one reader and holds at most `capacity` of them.  Writing is
done by `offer`, which puts in what fits and gives back the rest; the writer waits with the rest until
the reader has made room.  When nobody can read what is written (the reader is gone, the pipe is closed,
or it never had a reader), writing always succeeds and has no effect but on the count of bytes.
-/

namespace RemoteShell

/-- A pipe. -/
structure Pipe where
  capacity : Nat
  /-- The bytes written and not read. -/
  buffer : List UInt8
  /-- How many bytes writing has begun with.  The count has no bound, where a counter of 64 bits would start
  again from zero at 2^64 bytes. -/
  written : Nat
  /-- Whether the writer is connected to the reader at all. -/
  connected : Bool
  /-- Whether the writer may still write. -/
  isOpen : Bool
  hasReader : Bool
  deriving DecidableEq, Repr

namespace Pipe

/-- An empty pipe; it holds at least one byte. -/
def ofCapacity (capacity : Nat) : Pipe := ⟨max capacity 1, [], 0, true, true, true⟩

/-- A pipe whose writer writes into nothing. -/
def discarding : Pipe := ⟨1, [], 0, false, true, true⟩

/-- Whether what is written can be read. -/
def carries (p : Pipe) : Bool :=
  p.connected && p.isOpen && p.hasReader

/-- How many bytes fit. -/
def room (p : Pipe) : Nat :=
  p.capacity - p.buffer.length

/-- Put in what fits; the rest is given back. -/
def offer (p : Pipe) (bytes : List UInt8) : Pipe × List UInt8 :=
  if p.carries then
    ({ p with buffer := p.buffer ++ bytes.take p.room }, bytes.drop p.room)
  else (p, [])

/-- Begin to write some bytes: they count as written, whatever becomes of them. -/
def append (p : Pipe) (bytes : List UInt8) : Pipe × List UInt8 :=
  offer { p with written := p.written + bytes.length } bytes

/-- Whether the writer cannot go on with the rest of its bytes. -/
def isStuck (p : Pipe) (rest : List UInt8) : Bool :=
  !rest.isEmpty && p.carries && p.room = 0

/-- Take at most `count` bytes out. -/
def take (p : Pipe) (count : Nat) : List UInt8 × Pipe :=
  (p.buffer.take count, { p with buffer := p.buffer.drop count })

/-- Nothing more is written. -/
def close (p : Pipe) : Pipe :=
  if p.connected then { p with isOpen := false } else p

/-- The reader goes away, and what it has not read is lost. -/
def dropReader (p : Pipe) : Pipe :=
  { p with hasReader := false, buffer := [] }

/-- How a read of a number of bytes ended. -/
inductive Ending where
  /-- All bytes asked for came. -/
  | filled
  /-- The pipe is closed and empty. -/
  | ended
  /-- Nothing more comes for now. -/
  | blocked
  deriving DecidableEq, Repr

/-- Whether a reader that still wants `count` bytes is done, and how. -/
def ending? (p : Pipe) (count : Nat) : Option Ending :=
  if count = 0 then some .filled
  else if p.buffer.isEmpty && !p.isOpen then some .ended
  else none

/-- Read bytes that are there already. -/
def read (p : Pipe) (count : Nat) : List UInt8 × Ending × Pipe :=
  let (bytes, p') := p.take count
  (bytes, (p'.ending? (count - bytes.length)).getD .blocked, p')

/-- Write and read the same number of bytes at the same time: the bytes that were read, how reading
ended, and the pipe. -/
def exchange (p : Pipe) (bytes : List UInt8) : List UInt8 × Ending × Pipe :=
  let count := bytes.length
  let p := { p with written := p.written + count }
  let stream := if p.carries then p.buffer ++ bytes else p.buffer
  ({ p with buffer := stream } : Pipe).read count

end Pipe

end RemoteShell
