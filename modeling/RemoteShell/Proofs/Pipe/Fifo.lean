import RemoteShell.Proofs.Job.Recital

/-!
# A pipe loses nothing

A pipe is used by one writer and one reader.  The writer appends one chunk of bytes after the other: an append
puts in what fits, goes on whenever there is room again, and may be cancelled before it is through.  The reader
takes bytes out, as many at a time as it likes, and may go away.  In between the writer may close the pipe.
`Traffic.run` follows such a history, whatever comes when, and keeps what became of every append.

As long as there is a reader, nothing is lost and nothing comes twice: what was read and what is in the pipe are
together what the appends have put in, one after the other.  `Books` says so, with what else holds in between;
every step keeps it (`Books.step`), so it holds after every history (`Books.run`).
-/

namespace RemoteShell

namespace Pipe

variable {p : Pipe} {bytes bytes' : List UInt8}

/-! ## What a pipe accepts -/

theorem offer_of_not_carries (h : p.carries = false) (bytes : List UInt8) : p.offer bytes = (p, []) := by
  rw [offer, h, if_neg Bool.false_ne_true]

theorem append_of_not_carries (h : p.carries = false) (bytes : List UInt8) :
    p.append bytes = ({ p with written := p.written + bytes.length }, []) :=
  offer_of_not_carries (p := { p with written := p.written + bytes.length }) h bytes

/-- Of some bytes a pipe takes those that it has room for and gives back the rest; if it carries nothing, it
gives back nothing. -/
structure Accepts (p : Pipe) (bytes : List UInt8) (p' : Pipe) (rest : List UInt8) : Prop where
  capacity : p'.capacity = p.capacity
  connected : p'.connected = p.connected
  isOpen : p'.isOpen = p.isOpen
  hasReader : p'.hasReader = p.hasReader
  bounded : p.buffer.length ≤ p.capacity → p'.buffer.length ≤ p.capacity
  carried : p.carries = true → ∃ part, part ++ rest = bytes ∧ p'.buffer = p.buffer ++ part
  discarded : p.carries = false → rest = []

theorem accepts_offer (p : Pipe) (bytes : List UInt8) : p.Accepts bytes (p.offer bytes).1 (p.offer bytes).2 := by
  cases hcarries : p.carries with
  | true =>
    obtain ⟨⟨hbuffer, hcapacity, hconnected, hopen, hreader⟩, hrest⟩ := puts_offer hcarries bytes
    refine ⟨hcapacity, hconnected, hopen, hreader, fun hfits => ?_, fun _ => ?_, fun h => ?_⟩
    · rw [hbuffer, List.length_append, List.length_take, room]
      omega
    · exact ⟨bytes.take p.room, by rw [hrest, List.take_append_drop], hbuffer⟩
    · exact absurd (h.symm.trans hcarries) Bool.false_ne_true
  | false =>
    rw [offer_of_not_carries hcarries]
    exact ⟨rfl, rfl, rfl, rfl, id, fun h => absurd (hcarries.symm.trans h) Bool.false_ne_true, fun _ => rfl⟩

theorem accepts_append (p : Pipe) (bytes : List UInt8) :
    p.Accepts bytes (p.append bytes).1 (p.append bytes).2 := by
  obtain ⟨hcapacity, hconnected, hopen, hreader, hbounded, hcarried, hdiscarded⟩ :=
    accepts_offer { p with written := p.written + bytes.length } bytes
  exact ⟨hcapacity, hconnected, hopen, hreader, hbounded, hcarried, hdiscarded⟩

theorem written_offer (p : Pipe) (bytes : List UInt8) : (p.offer bytes).1.written = p.written := by
  rw [offer]
  split <;> rfl

theorem written_append (p : Pipe) (bytes : List UInt8) :
    (p.append bytes).1.written = p.written + bytes.length :=
  written_offer _ bytes

/-! ## Histories of a pipe -/

/-- What became of an append. -/
inductive Fate where
  | completed
  | cancelled
  /-- It is under way, and so much is left to be put in. -/
  | underWay (rest : List UInt8)
  deriving DecidableEq, Repr

/-- An append that has begun. -/
structure Append where
  bytes : List UInt8
  fate : Fate
  deriving DecidableEq, Repr

/-- What an append may have put in: all of its bytes if it was completed, and some of the first ones if not. -/
def Append.Puts (a : Append) (part : List UInt8) : Prop :=
  match a.fate with
  | .completed => part = a.bytes
  | .cancelled => part <+: a.bytes
  | .underWay rest => part ++ rest = a.bytes

/-- What can happen to a pipe. -/
inductive Op where
  /-- The writer begins to append some bytes. -/
  | append (bytes : List UInt8)
  /-- It goes on with what is left. -/
  | resume
  /-- It gives up what is left. -/
  | cancel
  | read (count : Nat)
  | close
  | dropReader
  deriving DecidableEq, Repr

/-- The chunks with which appends begin. -/
def Op.begun (ops : List Op) : List (List UInt8) :=
  ops.filterMap fun
    | .append bytes => some bytes
    | _ => none

/-- What happens before the pipe is closed. -/
def Op.beforeClose (ops : List Op) : List Op :=
  ops.takeWhile (· ≠ .close)

/-- A pipe in use. -/
structure Traffic where
  pipe : Pipe
  /-- The bytes that were read. -/
  taken : List UInt8
  /-- The appends that were completed or cancelled, of those that began before the pipe was closed. -/
  settled : List Append
  /-- The append that is under way and what is left of it. -/
  current : Option (List UInt8 × List UInt8)

namespace Traffic

/-- A new pipe. -/
def ofCapacity (capacity : Nat) : Traffic :=
  ⟨.ofCapacity capacity, [], [], none⟩

/-- All appends that began before the pipe was closed, in order. -/
def ledger (t : Traffic) : List Append :=
  t.settled ++ (t.current.map fun (bytes, rest) => ⟨bytes, .underWay rest⟩).toList

/-- Enter what the pipe is when it was offered an append, and what is left of that; when nothing is, the append
is completed. -/
def enter (t : Traffic) (bytes : List UInt8) (accepted : Pipe × List UInt8) : Traffic :=
  if accepted.2 = [] then
    { t with pipe := accepted.1, settled := t.settled ++ [⟨bytes, .completed⟩], current := none }
  else { t with pipe := accepted.1, current := some (bytes, accepted.2) }

/-- What happens next, if it can happen: there is one append at a time, one that is stuck does not go on, the
pipe is not closed in the middle of one, and only a reader that is there reads. -/
def step (t : Traffic) : Op → Option Traffic
  | .append bytes =>
    if t.current.isSome then none
    else if t.pipe.isOpen then some (t.enter bytes (t.pipe.append bytes))
    else some { t with pipe := (t.pipe.append bytes).1 }
  | .resume =>
    match t.current with
    | none => none
    | some (bytes, rest) => if t.pipe.isStuck rest then none else some (t.enter bytes (t.pipe.offer rest))
  | .cancel =>
    match t.current with
    | none => none
    | some (bytes, _) => some { t with settled := t.settled ++ [⟨bytes, .cancelled⟩], current := none }
  | .read count =>
    if t.pipe.hasReader then
      some { t with pipe := (t.pipe.take count).2, taken := t.taken ++ (t.pipe.take count).1 }
    else none
  | .close => if t.current.isSome then none else some { t with pipe := t.pipe.close }
  | .dropReader => if t.pipe.hasReader then some { t with pipe := t.pipe.dropReader } else none

/-- What happens after one another. -/
def run (t : Traffic) : List Op → Option Traffic
  | [] => some t
  | op :: ops => (t.step op).bind (·.run ops)

/-- The last one of some appends, and what it put in. -/
theorem puts_concat {appends : List Append} {last : Append} {parts : List (List UInt8)}
    (h : List.Forall₂ Append.Puts (appends ++ [last]) parts) :
    ∃ init part, List.Forall₂ Append.Puts appends init ∧ last.Puts part ∧ parts = init ++ [part] := by
  induction appends generalizing parts with
  | nil =>
    obtain ⟨part, rest, hpart, hrest, rfl⟩ := List.forall₂_cons_left_iff.1 h
    obtain rfl := List.forall₂_nil_left_iff.1 hrest
    exact ⟨[], part, .nil, hpart, rfl⟩
  | cons a appends ih =>
    obtain ⟨first, rest, hfirst, hrest, rfl⟩ := List.forall₂_cons_left_iff.1 h
    obtain ⟨init, part, hinit, hpart, rfl⟩ := ih hrest
    exact ⟨first :: init, part, .cons hfirst hinit, hpart, rfl⟩

/-! ## One step -/

variable {capacity count : Nat} {ops : List Op} {t t' : Traffic} {rest rest' : List UInt8} {op : Op}

/-- The bytes that were put in by the appends, one after the other. -/
def Holds (t : Traffic) (stream : List UInt8) : Prop :=
  ∃ parts, List.Forall₂ Append.Puts t.ledger parts ∧ stream = parts.flatten

/-- What holds of a pipe that was new before some operations. -/
structure Books (capacity : Nat) (ops : List Op) (t : Traffic) : Prop where
  sized : t.pipe.capacity = max capacity 1
  connected : t.pipe.connected = true
  isOpen : t.pipe.isOpen = false ↔ .close ∈ ops
  hasReader : t.pipe.hasReader = false ↔ .dropReader ∈ ops
  bounded : t.pipe.buffer.length ≤ max capacity 1
  /-- An append that is under way has something left, and the pipe is open. -/
  current : ∀ bytes rest, t.current = some (bytes, rest) → rest ≠ [] ∧ t.pipe.isOpen = true
  begun : t.ledger.map (·.bytes) = Op.begun (Op.beforeClose ops)
  written : t.pipe.written = ((Op.begun ops).map List.length).sum
  stream : t.pipe.hasReader = true → t.Holds (t.taken ++ t.pipe.buffer)

theorem books_ofCapacity (capacity : Nat) : Books capacity [] (ofCapacity capacity) where
  sized := rfl
  connected := rfl
  isOpen := by simp [ofCapacity, Pipe.ofCapacity]
  hasReader := by simp [ofCapacity, Pipe.ofCapacity]
  bounded := Nat.zero_le _
  current := nofun
  begun := rfl
  written := rfl
  stream _ := ⟨[], .nil, rfl⟩

theorem begun_concat (ops : List Op) (op : Op) : Op.begun (ops ++ [op]) = Op.begun ops ++ Op.begun [op] :=
  List.filterMap_append

/-- After the pipe was closed, nothing more happens before. -/
theorem begun_beforeClose_concat (ops : List Op) (op : Op) :
    Op.begun (Op.beforeClose (ops ++ [op])) =
      Op.begun (Op.beforeClose ops) ++ if .close ∈ ops then [] else Op.begun [op] := by
  induction ops with
  | nil => cases op <;> rfl
  | cons head ops ih =>
    by_cases hhead : head = .close
    · subst hhead
      simp [Op.beforeClose]
    · have hkeep : ∀ more, Op.beforeClose (head :: more) = head :: Op.beforeClose more := by
        intro more
        rw [Op.beforeClose, List.takeWhile_cons_of_pos (by simpa using hhead), ← Op.beforeClose]
      have hclose : .close ∈ head :: ops ↔ .close ∈ ops := by
        simp [Ne.symm hhead]
      have hsplit : ∀ more, Op.begun (head :: more) = Op.begun [head] ++ Op.begun more :=
        fun more => List.filterMap_append (l := [head])
      rw [List.cons_append, hkeep, hkeep, hsplit, ih, hsplit (Op.beforeClose ops), List.append_assoc]
      simp only [hclose]

theorem ledger_of_none (h : t.current = none) : t.ledger = t.settled := by
  rw [ledger, h]
  exact List.append_nil _

theorem ledger_of_some (h : t.current = some (bytes, rest)) :
    t.ledger = t.settled ++ [⟨bytes, .underWay rest⟩] := by
  rw [ledger, h]
  rfl

@[simp] theorem pipe_enter (t : Traffic) (bytes : List UInt8) (accepted : Pipe × List UInt8) :
    (t.enter bytes accepted).pipe = accepted.1 := by
  rw [enter]
  split <;> rfl

@[simp] theorem taken_enter (t : Traffic) (bytes : List UInt8) (accepted : Pipe × List UInt8) :
    (t.enter bytes accepted).taken = t.taken := by
  rw [enter]
  split <;> rfl

/-- An append that is entered is the last one of the ledger. -/
theorem ledger_enter (t : Traffic) (bytes : List UInt8) (accepted : Pipe × List UInt8) :
    (t.enter bytes accepted).ledger =
      t.settled ++ [⟨bytes, if accepted.2 = [] then .completed else .underWay accepted.2⟩] := by
  rw [enter]
  split
  · exact List.append_nil _
  · rfl

theorem current_enter {accepted : Pipe × List UInt8}
    (h : (t.enter bytes accepted).current = some (bytes', rest)) : rest ≠ [] := by
  rw [enter] at h
  split at h
  · cases h
  · obtain ⟨rfl, rfl⟩ := Prod.mk.inj (Option.some.inj h)
    assumption

/-- What an append has put in so far. -/
theorem holds_enter {accepted : Pipe × List UInt8} {settled : List (List UInt8)} {part stream : List UInt8}
    (hsettled : List.Forall₂ Append.Puts t.settled settled) (hpart : part ++ accepted.2 = bytes)
    (hstream : stream = settled.flatten ++ part) : (t.enter bytes accepted).Holds stream := by
  refine ⟨settled ++ [part], ?_, by rw [hstream, List.flatten_append, List.flatten_singleton]⟩
  rw [ledger_enter]
  refine List.rel_append hsettled (.cons ?_ .nil)
  split
  · rename_i hrest
    rw [hrest, List.append_nil] at hpart
    exact hpart
  · exact hpart

theorem Books.close_notMem (h : Books capacity ops t) (hopen : t.pipe.isOpen = true) : .close ∉ ops := by
  intro hclose
  rw [h.isOpen.2 hclose] at hopen
  cases hopen

/-- When no append begins, the books on what has begun stay as they are. -/
theorem Books.quiet (h : Books capacity ops t) (op : Op) (hop : Op.begun [op] = []) :
    t.ledger.map (·.bytes) = Op.begun (Op.beforeClose (ops ++ [op])) ∧
      t.pipe.written = ((Op.begun (ops ++ [op])).map List.length).sum := by
  rw [begun_beforeClose_concat, begun_concat, hop, ite_self, List.append_nil, List.append_nil]
  exact ⟨h.begun, h.written⟩

/-- An append goes on, or has just begun: what is left of it is offered to the pipe. -/
theorem Books.enter (h : Books capacity ops t) {accepted : Pipe × List UInt8}
    (haccepts : t.pipe.Accepts rest accepted.1 accepted.2) (hopen : t.pipe.isOpen = true)
    (hbegun : t.settled.map (·.bytes) ++ [bytes] = Op.begun (Op.beforeClose (ops ++ [op])))
    (hwritten : accepted.1.written = ((Op.begun (ops ++ [op])).map List.length).sum)
    (hclose : .close ∈ ops ++ [op] ↔ .close ∈ ops) (hdrop : .dropReader ∈ ops ++ [op] ↔ .dropReader ∈ ops)
    (hstream : t.pipe.hasReader = true → ∃ settled part, List.Forall₂ Append.Puts t.settled settled ∧
      part ++ rest = bytes ∧ t.taken ++ t.pipe.buffer = settled.flatten ++ part) :
    Books capacity (ops ++ [op]) (t.enter bytes accepted) := by
  refine ⟨?_, ?_, ?_, ?_, ?_, ?_, ?_, ?_, ?_⟩
  · rw [pipe_enter, haccepts.capacity, h.sized]
  · rw [pipe_enter, haccepts.connected, h.connected]
  · rw [pipe_enter, haccepts.isOpen, h.isOpen, hclose]
  · rw [pipe_enter, haccepts.hasReader, h.hasReader, hdrop]
  · rw [pipe_enter, ← h.sized]
    exact haccepts.bounded (h.sized ▸ h.bounded)
  · intro bytes' rest' hcurrent
    rw [pipe_enter]
    exact ⟨current_enter hcurrent, haccepts.isOpen.trans hopen⟩
  · rw [ledger_enter, List.map_append]
    exact hbegun
  · rw [pipe_enter, hwritten]
  · rw [pipe_enter, taken_enter]
    intro hreader
    rw [haccepts.hasReader] at hreader
    obtain ⟨settled, part, hsettled, hpart, hstream⟩ := hstream hreader
    have hcarries : t.pipe.carries = true := by
      rw [carries, h.connected, hopen, hreader]
      rfl
    obtain ⟨more, hmore, hbuffer⟩ := haccepts.carried hcarries
    have hall : part ++ more ++ accepted.2 = bytes := by
      rw [List.append_assoc, hmore, hpart]
    refine holds_enter hsettled hall ?_
    rw [hbuffer, ← List.append_assoc, hstream, List.append_assoc]

theorem Books.append (h : Books capacity ops t) (hstep : t.step (.append bytes) = some t') :
    Books capacity (ops ++ [.append bytes]) t' := by
  have hwritten : t.pipe.written + bytes.length = ((Op.begun (ops ++ [.append bytes])).map List.length).sum := by
    rw [h.written, begun_concat, List.map_append, List.sum_append]
    rfl
  have hclose : .close ∈ ops ++ [.append bytes] ↔ .close ∈ ops := by simp
  have hdrop : .dropReader ∈ ops ++ [.append bytes] ↔ .dropReader ∈ ops := by simp
  rw [step] at hstep
  split at hstep
  · cases hstep
  rename_i hnone
  have hledger : t.ledger = t.settled := ledger_of_none (by simpa using hnone)
  split at hstep
  · rename_i hopen
    obtain rfl := Option.some.inj hstep
    refine h.enter (accepts_append t.pipe bytes) hopen ?_ ?_ hclose hdrop fun hreader => ?_
    · rw [begun_beforeClose_concat, if_neg (h.close_notMem hopen), ← h.begun, hledger]
      rfl
    · rw [written_append, hwritten]
    · obtain ⟨parts, hparts, hstream⟩ := h.stream hreader
      rw [hledger] at hparts
      exact ⟨parts, [], hparts, List.nil_append _, by rw [hstream, List.append_nil]⟩
  · rename_i hopen
    obtain rfl := Option.some.inj hstep
    have hclosed : t.pipe.isOpen = false := by simpa using hopen
    have hcarries : t.pipe.carries = false := by
      rw [carries, hclosed, Bool.and_false, Bool.false_and]
    rw [append_of_not_carries hcarries]
    refine ⟨h.sized, h.connected, h.isOpen.trans hclose.symm, h.hasReader.trans hdrop.symm, h.bounded, h.current,
      ?_, hwritten, h.stream⟩
    rw [begun_beforeClose_concat, if_pos (h.isOpen.1 hclosed), List.append_nil]
    exact h.begun

theorem Books.resume (h : Books capacity ops t) (hstep : t.step .resume = some t') :
    Books capacity (ops ++ [.resume]) t' := by
  rw [step] at hstep
  split at hstep
  · cases hstep
  · rename_i bytes rest hcurrent
    split at hstep
    · cases hstep
    · obtain rfl := Option.some.inj hstep
      obtain ⟨hbegun, hwritten⟩ := h.quiet .resume rfl
      rw [ledger_of_some hcurrent, List.map_append] at hbegun
      refine h.enter (accepts_offer t.pipe rest) (h.current bytes rest hcurrent).2 hbegun ?_ (by simp) (by simp)
        fun hreader => ?_
      · rw [written_offer, hwritten]
      · obtain ⟨parts, hparts, hstream⟩ := h.stream hreader
        rw [ledger_of_some hcurrent] at hparts
        obtain ⟨init, part, hinit, hpart, rfl⟩ := puts_concat hparts
        exact ⟨init, part, hinit, hpart, by rw [hstream, List.flatten_append, List.flatten_singleton]⟩

theorem Books.cancel (h : Books capacity ops t) (hstep : t.step .cancel = some t') :
    Books capacity (ops ++ [.cancel]) t' := by
  rw [step] at hstep
  split at hstep
  · cases hstep
  · rename_i bytes rest hcurrent
    obtain rfl := Option.some.inj hstep
    obtain ⟨hbegun, hwritten⟩ := h.quiet .cancel rfl
    rw [ledger_of_some hcurrent, List.map_append] at hbegun
    refine ⟨h.sized, h.connected, h.isOpen.trans (by simp), h.hasReader.trans (by simp), h.bounded, nofun, ?_,
      hwritten, fun hreader => ?_⟩
    · rw [ledger_of_none rfl, List.map_append]
      exact hbegun
    · obtain ⟨parts, hparts, hstream⟩ := h.stream hreader
      rw [ledger_of_some hcurrent] at hparts
      obtain ⟨init, part, hinit, hpart, rfl⟩ := puts_concat hparts
      refine ⟨init ++ [part], ?_, hstream⟩
      rw [ledger_of_none rfl]
      have hprefix : Append.Puts ⟨bytes, .cancelled⟩ part := ⟨rest, hpart⟩
      exact List.rel_append hinit (.cons hprefix .nil)

theorem Books.read (h : Books capacity ops t) (hstep : t.step (.read count) = some t') :
    Books capacity (ops ++ [.read count]) t' := by
  rw [step] at hstep
  split at hstep
  · obtain rfl := Option.some.inj hstep
    obtain ⟨hbegun, hwritten⟩ := h.quiet (.read count) rfl
    refine ⟨h.sized, h.connected, h.isOpen.trans (by simp), h.hasReader.trans (by simp), ?_, h.current, hbegun,
      hwritten, fun hreader => ?_⟩
    · exact Nat.le_trans (List.drop_sublist _ _).length_le h.bounded
    · obtain ⟨parts, hparts, hstream⟩ := h.stream hreader
      refine ⟨parts, hparts, ?_⟩
      rw [← hstream]
      simp only [Pipe.take, List.append_assoc, List.take_append_drop]
  · cases hstep

theorem Books.close (h : Books capacity ops t) (hstep : t.step .close = some t') :
    Books capacity (ops ++ [.close]) t' := by
  rw [step] at hstep
  split at hstep
  · cases hstep
  · rename_i hnone
    obtain rfl := Option.some.inj hstep
    have hcurrent : t.current = none := by simpa using hnone
    obtain ⟨hbegun, hwritten⟩ := h.quiet .close rfl
    have hclose : t.pipe.close = { t.pipe with isOpen := false } := by
      rw [Pipe.close, if_pos h.connected]
    rw [hclose]
    refine ⟨h.sized, h.connected, by simp, h.hasReader.trans (by simp), h.bounded, ?_, hbegun, hwritten, h.stream⟩
    intro bytes rest hsome
    exact absurd (hcurrent.symm.trans hsome) (by simp)

theorem Books.dropReader (h : Books capacity ops t) (hstep : t.step .dropReader = some t') :
    Books capacity (ops ++ [.dropReader]) t' := by
  rw [step] at hstep
  split at hstep
  · obtain rfl := Option.some.inj hstep
    obtain ⟨hbegun, hwritten⟩ := h.quiet .dropReader rfl
    exact ⟨h.sized, h.connected, h.isOpen.trans (by simp), by simp [Pipe.dropReader], Nat.zero_le _, h.current, hbegun,
      hwritten, nofun⟩
  · cases hstep

/-- **One step** keeps the books. -/
theorem Books.step (h : Books capacity ops t) (hstep : t.step op = some t') : Books capacity (ops ++ [op]) t' := by
  cases op with
  | append bytes => exact h.append hstep
  | resume => exact h.resume hstep
  | cancel => exact h.cancel hstep
  | read count => exact h.read hstep
  | close => exact h.close hstep
  | dropReader => exact h.dropReader hstep

/-- **A run** keeps the books. -/
theorem Books.run {more : List Op} (h : Books capacity ops t) (hrun : t.run more = some t') :
    Books capacity (ops ++ more) t' := by
  induction more generalizing ops t with
  | nil =>
    obtain rfl := Option.some.inj hrun
    rwa [List.append_nil]
  | cons op more ih =>
    obtain ⟨u, hstep, hrest⟩ := Option.bind_eq_some_iff.1 hrun
    rw [← List.singleton_append, ← List.append_assoc]
    exact ih (h.step hstep) hrest

/-! ## After the end -/

/-- Once the pipe is closed, no step adds to what is readable, and none but the reader's going takes away from
it. -/
theorem stream_step (hclosed : t.pipe.isOpen = false) (hstep : t.step op = some t') :
    t'.pipe.isOpen = false ∧ (t'.pipe.hasReader = true →
      t.pipe.hasReader = true ∧ t'.taken ++ t'.pipe.buffer = t.taken ++ t.pipe.buffer) := by
  have hcarries : t.pipe.carries = false := by
    rw [carries, hclosed, Bool.and_false, Bool.false_and]
  cases op with
  | append bytes =>
    rw [step, append_of_not_carries hcarries, if_neg (by simp [hclosed] : ¬ t.pipe.isOpen = true)] at hstep
    split at hstep
    · cases hstep
    · obtain rfl := Option.some.inj hstep
      exact ⟨hclosed, fun hreader => ⟨hreader, rfl⟩⟩
  | resume =>
    rw [step] at hstep
    split at hstep
    · cases hstep
    · split at hstep
      · cases hstep
      · obtain rfl := Option.some.inj hstep
        rw [offer_of_not_carries hcarries, pipe_enter, taken_enter]
        exact ⟨hclosed, fun hreader => ⟨hreader, rfl⟩⟩
  | cancel =>
    rw [step] at hstep
    split at hstep
    · cases hstep
    · obtain rfl := Option.some.inj hstep
      exact ⟨hclosed, fun hreader => ⟨hreader, rfl⟩⟩
  | read count =>
    rw [step] at hstep
    split at hstep
    · obtain rfl := Option.some.inj hstep
      refine ⟨hclosed, fun hreader => ⟨hreader, ?_⟩⟩
      simp only [Pipe.take, List.append_assoc, List.take_append_drop]
    · cases hstep
  | close =>
    rw [step, close_of_not_isOpen hclosed] at hstep
    split at hstep
    · cases hstep
    · obtain rfl := Option.some.inj hstep
      exact ⟨hclosed, fun hreader => ⟨hreader, rfl⟩⟩
  | dropReader =>
    rw [step] at hstep
    split at hstep
    · obtain rfl := Option.some.inj hstep
      refine ⟨hclosed, fun hreader => ?_⟩
      cases hreader
    · cases hstep

/-- Once the pipe is closed, what is readable stays so until it is read or the reader goes. -/
theorem stream_run (hclosed : t.pipe.isOpen = false) (hrun : t.run ops = some t')
    (hreader : t'.pipe.hasReader = true) : t'.taken ++ t'.pipe.buffer = t.taken ++ t.pipe.buffer := by
  have hboth : t.pipe.hasReader = true ∧ t'.taken ++ t'.pipe.buffer = t.taken ++ t.pipe.buffer := by
    induction ops generalizing t with
    | nil =>
      obtain rfl := Option.some.inj hrun
      exact ⟨hreader, rfl⟩
    | cons op ops ih =>
      obtain ⟨u, hstep, hrest⟩ := Option.bind_eq_some_iff.1 hrun
      obtain ⟨hclosed', hstream⟩ := stream_step hclosed hstep
      obtain ⟨hreader', hrest'⟩ := ih hclosed' hrest
      exact ⟨(hstream hreader').1, hrest'.trans (hstream hreader').2⟩
  exact hboth.2

/-- How a reader that still wants some bytes finds the pipe. -/
theorem ending?_spec (p : Pipe) (count : Nat) :
    ((p.ending? count).getD .blocked = .filled ↔ count = 0) ∧
      ((p.ending? count).getD .blocked = .ended ↔ 0 < count ∧ p.buffer = [] ∧ p.isOpen = false) := by
  rw [ending?]
  split
  · rename_i hzero
    simp [hzero]
  · rename_i hmore
    have hpos : 0 < count := Nat.pos_of_ne_zero hmore
    split
    · rename_i hend
      simp only [Bool.and_eq_true, List.isEmpty_iff, Bool.not_eq_true'] at hend
      simp [hmore, hpos, hend]
    · rename_i hgoing
      simp only [Bool.and_eq_true, List.isEmpty_iff, Bool.not_eq_true'] at hgoing
      simp only [Option.getD_none, reduceCtorEq, hmore, false_iff, not_and]
      exact ⟨trivial, fun _ hempty hclosed => hgoing ⟨hempty, hclosed⟩⟩

/-- How a read of bytes that are there already ends. -/
theorem ending_read (p : Pipe) (count : Nat) :
    ((p.read count).2.1 = .filled ↔ count ≤ p.buffer.length) ∧
      ((p.read count).2.1 = .ended ↔ p.isOpen = false ∧ p.buffer.length < count) := by
  have hlength : (p.take count).1.length = min count p.buffer.length := List.length_take
  have hempty : (p.take count).2.buffer = [] ↔ p.buffer.length ≤ count := List.drop_eq_nil_iff
  have hopen : (p.take count).2.isOpen = p.isOpen := rfl
  obtain ⟨hfilled, hended⟩ := ending?_spec (p.take count).2 (count - (p.take count).1.length)
  constructor
  · rw [Pipe.read, hfilled, hlength]
    omega
  · rw [Pipe.read, hended, hlength, hempty, hopen, ← and_assoc, and_comm]
    refine and_congr_right fun _ => ?_
    omega

/-! ## Main result -/

/-- **A pipe is bounded and loses nothing.**  After any history of a new pipe:

* the appends in the ledger are those that began before the pipe was closed, in order, and as long as there is a
  reader, what was read and what is in the pipe are together what they put in, one after the other: all of its
  bytes for one that was completed, some of its first bytes for one that was cancelled, and for the one that is
  under way all but what is left;
* the pipe holds at most `max capacity 1` bytes;
* an append that is under way cannot go on if and only if the pipe is full and there is a reader;
* a read gets the bytes that are there, in order; it comes to the end if and only if the pipe was closed and holds
  fewer bytes than were asked for, and all that is readable when the pipe is closed stays so until it is read;
* the count of bytes is that of all appends that have begun;
* once the pipe was closed or the reader has gone, an append is completed at once, whether it begins then or is
  under way, and does nothing but count. -/
theorem run_fifo {capacity : Nat} {ops : List Op} {t : Traffic} (hrun : (ofCapacity capacity).run ops = some t) :
    t.ledger.map (·.bytes) = Op.begun (Op.beforeClose ops) ∧
      (.dropReader ∉ ops → ∃ parts, List.Forall₂ Append.Puts t.ledger parts ∧
        t.taken ++ t.pipe.buffer = parts.flatten) ∧
      t.pipe.buffer.length ≤ max capacity 1 ∧
      (∀ bytes rest, t.current = some (bytes, rest) →
        (t.step .resume = none ↔ t.pipe.buffer.length = max capacity 1 ∧ .dropReader ∉ ops)) ∧
      (∀ count, (t.pipe.read count).1 = t.pipe.buffer.take count ∧
        ((t.pipe.read count).2.1 = .filled ↔ count ≤ t.pipe.buffer.length) ∧
        ((t.pipe.read count).2.1 = .ended ↔ .close ∈ ops ∧ t.pipe.buffer.length < count)) ∧
      (.close ∈ ops → ∀ later t', t.run later = some t' → .dropReader ∉ ops ++ later →
        t'.taken ++ t'.pipe.buffer = t.taken ++ t.pipe.buffer) ∧
      t.pipe.written = ((Op.begun ops).map List.length).sum ∧
      (.close ∈ ops ∨ .dropReader ∈ ops →
        (∀ bytes, t.pipe.append bytes = ({ t.pipe with written := t.pipe.written + bytes.length }, [])) ∧
        ∀ bytes rest, t.current = some (bytes, rest) → t.pipe.offer rest = (t.pipe, [])) := by
  have hbooks : Books capacity ops t := (books_ofCapacity capacity).run hrun
  have hreader : .dropReader ∉ ops ↔ t.pipe.hasReader = true := by
    rw [← hbooks.hasReader, Bool.not_eq_false]
  refine ⟨hbooks.begun, fun hdrop => hbooks.stream (hreader.1 hdrop), hbooks.bounded, ?_, ?_, ?_, hbooks.written, ?_⟩
  · intro bytes rest hcurrent
    obtain ⟨hrest, hopen⟩ := hbooks.current bytes rest hcurrent
    have hstuck : t.step .resume = none ↔ t.pipe.isStuck rest = true := by
      simp only [step, hcurrent]
      split <;> simp_all
    have hfull : t.pipe.room = 0 ↔ t.pipe.buffer.length = max capacity 1 := by
      have hbounded := hbooks.bounded
      rw [room, hbooks.sized]
      omega
    rw [hstuck, hreader, ← hfull, isStuck, carries, hbooks.connected, hopen]
    simp [hrest, and_comm]
  · intro count
    obtain ⟨hfilled, hended⟩ := ending_read t.pipe count
    exact ⟨rfl, hfilled, by rw [hended, hbooks.isOpen]⟩
  · intro hclose later t' hlater hdrop
    have hlast : t'.pipe.hasReader = true := by
      rw [← Bool.not_eq_false, (hbooks.run hlater).hasReader]
      exact hdrop
    exact stream_run (hbooks.isOpen.2 hclose) hlater hlast
  · intro hover
    have hcarries : t.pipe.carries = false := by
      rcases hover with hclose | hdrop
      · rw [carries, hbooks.isOpen.2 hclose, Bool.and_false, Bool.false_and]
      · rw [carries, hbooks.hasReader.2 hdrop, Bool.and_false]
    exact ⟨append_of_not_carries hcarries, fun _ rest _ => offer_of_not_carries hcarries rest⟩

/-- An append that is completed once something was read, one that is cancelled with half of it in the pipe, and
one that comes too late. -/
theorem run_fifo_cancelled :
    ∃ t, (ofCapacity 4).run [.append [1, 2, 3, 4, 5], .read 2, .resume, .append [6, 7], .cancel, .close,
        .append [8], .read 9] = some t ∧ t.taken = [1, 2, 3, 4, 5, 6] ∧ t.pipe.written = 8 ∧
      t.ledger = [⟨[1, 2, 3, 4, 5], .completed⟩, ⟨[6, 7], .cancelled⟩] ∧
      ∃ parts, List.Forall₂ Append.Puts t.ledger parts ∧ t.taken ++ t.pipe.buffer = parts.flatten := by
  have hrun : (ofCapacity 4).run [.append [1, 2, 3, 4, 5], .read 2, .resume, .append [6, 7], .cancel, .close,
      .append [8], .read 9] = some ⟨⟨4, [], 8, true, false, true⟩, [1, 2, 3, 4, 5, 6],
        [⟨[1, 2, 3, 4, 5], .completed⟩, ⟨[6, 7], .cancelled⟩], none⟩ := rfl
  obtain ⟨-, hstream, -⟩ := run_fifo hrun
  exact ⟨_, hrun, rfl, rfl, rfl, hstream (by decide)⟩

end Traffic

end Pipe

end RemoteShell
