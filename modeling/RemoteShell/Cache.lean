import RemoteShell.Duration
import RemoteShell.Fingerprint
import RemoteShell.Text.Quoted

/-!
# A cache of values by credentials

The cache holds a bounded number of values, each under a fingerprint.  A value leaves it when there is
no room for a new one and no other value has been unused for longer, when it has been unused for the
time to live, or when it is evicted.

Every operation takes the instant at which it happens, in nanoseconds.  Instants are meant to increase
strictly, so that no two values were last used at the same one.
-/

namespace RemoteShell

/-- A value in a cache. -/
structure Cached (α : Type) where
  key : Fingerprint
  value : α
  lastUsed : Nat

/-- A bounded cache. -/
structure Cache (α : Type) where
  /-- The greatest number of values, which is at least one. -/
  capacity : Nat
  /-- How long a value may be unused. -/
  timeToLive : Option Duration
  entries : List (Cached α)

namespace Cache

variable {α ε : Type}

/-- An empty cache. -/
def ofCapacity (capacity : Nat) (timeToLive : Option Duration) : Cache α :=
  ⟨max capacity 1, timeToLive, []⟩

/-- The number of values, including those that are expired but still there. -/
def size (c : Cache α) : Nat :=
  c.entries.length

/-- Whether there are no values, expired ones included. -/
def isEmpty (c : Cache α) : Bool :=
  c.size == 0

/-- Whether a value has been unused for too long. -/
def isExpired (c : Cache α) (now : Nat) (e : Cached α) : Bool :=
  c.timeToLive.any fun ttl => ttl.nanoseconds ≤ now - e.lastUsed

/-- The entry of a key, expired or not. -/
def find? (c : Cache α) (key : Fingerprint) : Option (Cached α) :=
  c.entries.find? (·.key == key)

/-- The cache without the entry of a key. -/
def without (c : Cache α) (key : Fingerprint) : Cache α :=
  { c with entries := c.entries.filter (·.key ≠ key) }

/-- Look a key up.  A value that is found counts as used, and one that is expired is removed. -/
def get (c : Cache α) (now : Nat) (key : Fingerprint) : Option α × Cache α :=
  match c.find? key with
  | none => (none, c)
  | some e =>
    if c.isExpired now e then (none, c.without key)
    else
      let use := fun (e : Cached α) => if e.key == key then { e with lastUsed := now } else e
      (some e.value, { c with entries := c.entries.map use })

/-- The entry that has been unused for longest. -/
def oldest? : List (Cached α) → Option (Cached α)
  | [] => none
  | e :: rest =>
    match oldest? rest with
    | none => some e
    | some o => some (if e.lastUsed ≤ o.lastUsed then e else o)

/-- Remove the entries that have been unused for longest, until there are fewer than `capacity`. -/
def makeRoom (capacity : Nat) : Nat → List (Cached α) → List (Cached α)
  | 0, entries => entries
  | fuel + 1, entries =>
    if entries.length < capacity then entries
    else
      match oldest? entries with
      | none => entries
      | some o => makeRoom capacity fuel (entries.filter (·.key ≠ o.key))

/-- Store a value under a key.  Expired values go first; a new key may need the room of the value that
has been unused for longest. -/
def insert (c : Cache α) (now : Nat) (key : Fingerprint) (value : α) : Cache α :=
  let fresh := c.entries.filter fun e => !c.isExpired now e
  let kept :=
    if fresh.any (·.key == key) then fresh.filter (·.key ≠ key)
    else makeRoom c.capacity fresh.length fresh
  { c with entries := ⟨key, value, now⟩ :: kept }

/-- The value of a key, which is created and stored if it is not there.  The flag says whether it was
tried to create one. -/
def getOrCreate (c : Cache α) (now : Nat) (key : Fingerprint) (create : Unit → Except ε α) :
    Except ε α × Bool × Cache α :=
  match c.get now key with
  | (some v, c') => (.ok v, false, c')
  | (none, c') =>
    match create () with
    | .ok v => (.ok v, true, c'.insert now key v)
    | .error e => (.error e, true, c')

/-- Remove the value of a key. -/
def evict (c : Cache α) (key : Fingerprint) : Option α × Cache α :=
  ((c.find? key).map (·.value), c.without key)

/-- Remove all values. -/
def clear (c : Cache α) : Cache α :=
  { c with entries := [] }

/-- Remove all values and give them back. -/
def drain (c : Cache α) : List α × Cache α :=
  (c.entries.map (·.value), c.clear)

open Text (Shown)

/-- The description of a cache, which shows none of its values. -/
def shown (c : Cache α) : Shown :=
  .record "CredentialCache"
    [("capacity", .word (toString c.capacity)),
     ("ttl", .option (fun d => .word d.brief) c.timeToLive),
     ("len", .word (toString c.size))] false

end Cache

end RemoteShell
