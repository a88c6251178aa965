import RemoteShell.Cache
import RemoteShell.Connection
import RemoteShell.Settings.Resolve

/-!
# Pools of connections

A pool hands out connections to the hosts of a table.  Hosts with the same endpoint and credentials
share a connection as long as it is in the cache.  Every connection has a number, by which one can tell
whether two of them are the same.
-/

namespace RemoteShell

/-- A connection of a pool. -/
structure Pooled where
  number : Nat
  connection : Connection

/-- A pool of connections. -/
structure Pool where
  table : HostTable
  cache : Cache Pooled
  /-- The number of the next connection. -/
  next : Nat

namespace Pool

/-- The capacity of a pool that is not told another one. -/
def defaultCapacity : Nat := 10

/-- A pool without connections. -/
def ofTable (table : HostTable) (capacity : Nat) : Pool :=
  ⟨table, .ofCapacity capacity none, 0⟩

/-- The connection to a host. -/
def get (p : Pool) (s : Surroundings) (now : Nat) (host : String) : Except Failure Pooled × Pool :=
  match p.table.resolve s host with
  | .error e => (.error e, p)
  | .ok target =>
    let create := fun (_ : Unit) => (Connection.ofTarget s target).map (Pooled.mk p.next)
    let (result, _, cache) := p.cache.getOrCreate now target.fingerprint create
    let next := match result with
      | .ok c => max p.next (c.number + 1)
      | .error _ => p.next
    (result, { p with cache, next })

/-- Forget the connection to a host; the flag says whether there was one. -/
def evict (p : Pool) (s : Surroundings) (host : String) : Except Failure Bool × Pool :=
  match p.table.resolve s host with
  | .error e => (.error e, p)
  | .ok target =>
    let (found, cache) := p.cache.evict target.fingerprint
    (.ok found.isSome, { p with cache })

/-- Close all connections. -/
def closeAll (p : Pool) : Pool :=
  { p with cache := p.cache.clear }

end Pool

end RemoteShell
