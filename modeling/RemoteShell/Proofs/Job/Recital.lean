import Mathlib
import RemoteShell.Job

/-!
# Recitals

A `Recital` is a program that is laid down beforehand: it appends some chunks to the two streams, in any
mixture, closes both pipes and ends with a result.  Appending, going on with what did not fit, and closing
a pipe are steps of their own, so that readers can come in between.

`Turn` lists what one step can do.  Every turn leaves less to do (`Recital.effort`), and the bytes that are
in a pipe or still to come (`Recital.ahead`) stay the same, in the same order (`Turn.ahead`).
-/

namespace RemoteShell

open Shell (Stream)

namespace Pipe

variable {p : Pipe}

/-- Some bytes are put into a pipe, as far as they fit; nothing else changes but the count. -/
structure Puts (p : Pipe) (bytes : List UInt8) (p' : Pipe) : Prop where
  buffer : p'.buffer = p.buffer ++ bytes.take p.room
  capacity : p'.capacity = p.capacity
  connected : p'.connected = p.connected
  isOpen : p'.isOpen = p.isOpen
  hasReader : p'.hasReader = p.hasReader

/-- A pipe that carries takes what fits and gives back the rest. -/
theorem puts_offer (h : p.carries = true) (bytes : List UInt8) :
    p.Puts bytes (p.offer bytes).1 ∧ (p.offer bytes).2 = bytes.drop p.room := by
  rw [offer, if_pos h]
  exact ⟨⟨rfl, rfl, rfl, rfl, rfl⟩, rfl⟩

theorem puts_append (h : p.carries = true) (bytes : List UInt8) :
    p.Puts bytes (p.append bytes).1 ∧ (p.append bytes).2 = bytes.drop p.room := by
  obtain ⟨hputs, hrest⟩ := puts_offer (p := { p with written := p.written + bytes.length }) h bytes
  exact ⟨⟨hputs.buffer, hputs.capacity, hputs.connected, hputs.isOpen, hputs.hasReader⟩, hrest⟩

/-- A pipe that its writer cannot go on with is full, and somebody can read it. -/
theorem buffer_ne_nil_of_isStuck {rest : List UInt8} (hcapacity : 0 < p.capacity)
    (h : p.isStuck rest = true) : p.buffer ≠ [] := by
  intro hempty
  simp only [isStuck, room, hempty, List.length_nil, Bool.and_eq_true, decide_eq_true_eq] at h
  omega

/-- Closing twice is closing once. -/
theorem close_of_not_isOpen (h : p.isOpen = false) : p.close = p := by
  cases p
  simp only [close]
  split
  · simp only at h
    rw [h]
  · rfl

/-- A reader comes to the end of a pipe that is closed and empty. -/
theorem ending?_eq_ended_iff : p.ending? 1 = some .ended ↔ p.isOpen = false ∧ p.buffer = [] := by
  simp [ending?, and_comm]

end Pipe

/-- The bytes that some chunks hold for a stream. -/
def said (chunks : List (Stream × List UInt8)) (stream : Stream) : List UInt8 :=
  chunks.flatMap fun chunk => if chunk.1 = stream then chunk.2 else []

theorem said_cons (stream : Stream) (bytes : List UInt8) (chunks : List (Stream × List UInt8))
    (other : Stream) :
    said ((stream, bytes) :: chunks) other = (if stream = other then bytes else []) ++ said chunks other := by
  simp only [said, List.flatMap_cons]

/-- A program that is laid down beforehand. -/
structure Recital where
  stdout : Pipe
  stderr : Pipe
  /-- What is left of the chunk that is being appended. -/
  rest : Option (Stream × List UInt8)
  /-- The chunks to come. -/
  chunks : List (Stream × List UInt8)
  result : Except Failure Int

namespace Recital

/-- The pipe of a stream. -/
def pipe (w : Recital) : Stream → Pipe
  | .stdout => w.stdout
  | .stderr => w.stderr

/-- The recital with another pipe for a stream. -/
def setPipe (w : Recital) (p : Pipe) : Stream → Recital
  | .stdout => { w with stdout := p }
  | .stderr => { w with stderr := p }

/-- A recital before its first chunk. -/
def ofCapacity (capacity : Nat) (chunks : List (Stream × List UInt8)) (result : Except Failure Int) :
    Recital :=
  ⟨.ofCapacity capacity, .ofCapacity capacity, none, chunks, result⟩

/-- What it does next.  It waits only while a pipe is full. -/
def step (w : Recital) : Option Recital :=
  match w.rest, w.chunks with
  | some (_, []), _ => some { w with rest := none }
  | some (stream, rest), _ =>
    if (w.pipe stream).isStuck rest then none
    else
      let (p, rest) := (w.pipe stream).offer rest
      some { w.setPipe p stream with rest := some (stream, rest) }
  | none, (stream, bytes) :: chunks =>
    let (p, rest) := (w.pipe stream).append bytes
    some { w.setPipe p stream with rest := some (stream, rest), chunks }
  | none, [] =>
    if w.stdout.isOpen then some (w.setPipe w.stdout.close .stdout)
    else if w.stderr.isOpen then some (w.setPipe w.stderr.close .stderr)
    else none

/-- It has ended when nothing is left to append and both pipes are closed. -/
def result? (w : Recital) : Option (Except Failure Int) :=
  if w.rest.isNone && w.chunks.isEmpty && !w.stdout.isOpen && !w.stderr.isOpen then some w.result
  else none

instance : Program Recital where
  pipe := pipe
  setPipe := setPipe
  now _ := 0
  setNow w _ := w
  step w _ := w.step
  result? := result?

variable {w w' : Recital}

@[simp] theorem pipe_setPipe (w : Recital) (p : Pipe) (stream : Stream) :
    (w.setPipe p stream).pipe stream = p := by
  cases stream <;> rfl

theorem pipe_setPipe_of_ne (w : Recital) (p : Pipe) {stream other : Stream} (h : other ≠ stream) :
    (w.setPipe p stream).pipe other = w.pipe other := by
  cases stream <;> cases other <;> first | rfl | exact absurd rfl h

@[simp] theorem setPipe_rest (w : Recital) (p : Pipe) (stream : Stream) :
    (w.setPipe p stream).rest = w.rest := by
  cases stream <;> rfl

@[simp] theorem setPipe_chunks (w : Recital) (p : Pipe) (stream : Stream) :
    (w.setPipe p stream).chunks = w.chunks := by
  cases stream <;> rfl

@[simp] theorem setPipe_result (w : Recital) (p : Pipe) (stream : Stream) :
    (w.setPipe p stream).result = w.result := by
  cases stream <;> rfl

theorem setPipe_pipe (w : Recital) (stream : Stream) : w.setPipe (w.pipe stream) stream = w := by
  cases stream <;> rfl

/-- When it has ended. -/
theorem result?_eq_some_iff {r : Except Failure Int} :
    w.result? = some r ↔ w.rest = none ∧ w.chunks = [] ∧
      (∀ stream, (w.pipe stream).isOpen = false) ∧ w.result = r := by
  have hpipes : (∀ stream, (w.pipe stream).isOpen = false) ↔
      w.stdout.isOpen = false ∧ w.stderr.isOpen = false :=
    ⟨fun h => ⟨h .stdout, h .stderr⟩, fun h stream => by cases stream; exacts [h.1, h.2]⟩
  rw [result?, hpipes]
  simp only [Option.ite_none_right_eq_some, Bool.and_eq_true, Option.isNone_iff_eq_none,
    List.isEmpty_iff, Bool.not_eq_true', Option.some.injEq, and_assoc]

/-! ## Soundness -/

/-- What is left to append, the chunk under way first. -/
def todo (w : Recital) : List (Stream × List UInt8) :=
  w.rest.toList ++ w.chunks

/-- Pipes stay connected and read, and are open as long as something is to be appended. -/
structure Sound (w : Recital) : Prop where
  capacity : ∀ stream, 0 < (w.pipe stream).capacity
  connected : ∀ stream, (w.pipe stream).connected = true
  hasReader : ∀ stream, (w.pipe stream).hasReader = true
  isOpen : w.todo ≠ [] → ∀ stream, (w.pipe stream).isOpen = true

theorem sound_ofCapacity (capacity : Nat) (chunks : List (Stream × List UInt8))
    (result : Except Failure Int) : (ofCapacity capacity chunks result).Sound := by
  refine ⟨?_, ?_, ?_, fun _ => ?_⟩ <;> intro stream <;> cases stream
  case refine_1.stdout | refine_1.stderr => exact Nat.lt_of_lt_of_le Nat.one_pos (Nat.le_max_right _ _)
  all_goals rfl

variable {stream : Stream} {p : Pipe}

theorem Sound.carries (h : w.Sound) (hmore : w.todo ≠ []) (stream : Stream) :
    (w.pipe stream).carries = true := by
  rw [Pipe.carries, h.connected, h.isOpen hmore, h.hasReader, Bool.and_self, Bool.and_self]

/-- A recital stays sound when a pipe changes its bytes only, or is closed at the end. -/
theorem Sound.setPipe (h : w.Sound) (hcapacity : p.capacity = (w.pipe stream).capacity)
    (hconnected : p.connected = (w.pipe stream).connected)
    (hreader : p.hasReader = (w.pipe stream).hasReader)
    (hopen : w.todo ≠ [] → p.isOpen = (w.pipe stream).isOpen) : (w.setPipe p stream).Sound := by
  have hpipe : ∀ other, (w.setPipe p stream).pipe other = w.pipe other ∨
      other = stream ∧ (w.setPipe p stream).pipe other = p := by
    intro other
    by_cases hsame : other = stream
    · exact .inr ⟨hsame, by rw [hsame, pipe_setPipe]⟩
    · exact .inl (pipe_setPipe_of_ne w p hsame)
  refine ⟨?_, ?_, ?_, ?_⟩
  · intro other
    obtain hother | ⟨rfl, hother⟩ := hpipe other <;> rw [hother]
    · exact h.capacity other
    · exact hcapacity ▸ h.capacity other
  · intro other
    obtain hother | ⟨rfl, hother⟩ := hpipe other <;> rw [hother]
    · exact h.connected other
    · exact hconnected ▸ h.connected other
  · intro other
    obtain hother | ⟨rfl, hother⟩ := hpipe other <;> rw [hother]
    · exact h.hasReader other
    · exact hreader ▸ h.hasReader other
  · intro hmore other
    rw [todo, setPipe_rest, setPipe_chunks] at hmore
    obtain hother | ⟨rfl, hother⟩ := hpipe other <;> rw [hother]
    · exact h.isOpen hmore other
    · exact (hopen hmore).trans (h.isOpen hmore other)

/-- A sound recital stays sound when less is left to append. -/
theorem Sound.fewer (h : w.Sound) (hmore : w.todo ≠ []) (rest : Option (Stream × List UInt8))
    (chunks : List (Stream × List UInt8)) : ({ w with rest, chunks } : Recital).Sound :=
  ⟨h.capacity, h.connected, h.hasReader, fun _ => h.isOpen hmore⟩

/-! ## Turns -/

/-- What one step of a sound recital can do: come to the end of a chunk, put bytes into a pipe, or close a
pipe.  Bytes of a chunk that is under way are put only if some of them fit. -/
inductive Turn (w : Recital) : Recital → Prop
  | done {stream : Stream} (rest : w.rest = some (stream, [])) : Turn w { w with rest := none }
  | put {stream : Stream} {bytes : List UInt8} {chunks : List (Stream × List UInt8)} {p : Pipe}
      (todo : w.todo = (stream, bytes) :: chunks) (puts : (w.pipe stream).Puts bytes p)
      (progress : w.rest = none ∨ bytes ≠ [] ∧ 0 < (w.pipe stream).room) :
      Turn w { w.setPipe p stream with
        rest := some (stream, bytes.drop (w.pipe stream).room), chunks }
  | close {stream : Stream} (todo : w.todo = []) (isOpen : (w.pipe stream).isOpen = true) :
      Turn w (w.setPipe (w.pipe stream).close stream)

theorem turn_of_step (hw : w.Sound) (h : w.step = some w') : w.Turn w' := by
  rcases hrest : w.rest with _ | ⟨stream, _ | ⟨b, more⟩⟩
  · rcases hchunks : w.chunks with _ | ⟨⟨stream, bytes⟩, chunks⟩
    · have htodo : w.todo = [] := by rw [todo, hrest, hchunks]; rfl
      simp only [step, hrest, hchunks] at h
      split at h
      case isTrue hopen =>
        rw [← Option.some.inj h]
        exact @Turn.close w .stdout htodo hopen
      case isFalse =>
        split at h
        case isTrue hopen =>
          rw [← Option.some.inj h]
          exact @Turn.close w .stderr htodo hopen
        case isFalse => cases h
    · have htodo : w.todo = (stream, bytes) :: chunks := by rw [todo, hrest, hchunks]; rfl
      simp only [step, hrest, hchunks] at h
      obtain ⟨hputs, hleft⟩ := Pipe.puts_append (hw.carries (htodo ▸ List.cons_ne_nil _ _) stream) bytes
      rw [hleft] at h
      rw [← Option.some.inj h]
      exact .put htodo hputs (.inl hrest)
  · simp only [step, hrest] at h
    rw [← Option.some.inj h]
    exact .done hrest
  · have htodo : w.todo = (stream, b :: more) :: w.chunks := by rw [todo, hrest]; rfl
    have hcarries := hw.carries (htodo ▸ List.cons_ne_nil _ _) stream
    simp only [step, hrest] at h
    split at h
    case isTrue => cases h
    case isFalse hstuck =>
      obtain ⟨hputs, hleft⟩ := Pipe.puts_offer hcarries (b :: more)
      have hroom : 0 < (w.pipe stream).room := by
        simp only [Pipe.isStuck, hcarries, List.isEmpty_cons, Bool.not_false, Bool.and_self,
          Bool.true_and, decide_eq_true_eq] at hstuck
        exact Nat.pos_of_ne_zero hstuck
      have hsame : w' = { w.setPipe ((w.pipe stream).offer (b :: more)).1 stream with
          rest := some (stream, (b :: more).drop (w.pipe stream).room), chunks := w.chunks } := by
        rw [← Option.some.inj h, hleft]
        cases stream <;> rfl
      rw [hsame]
      exact .put htodo hputs (.inr ⟨List.cons_ne_nil b more, hroom⟩)

/-- A recital that cannot go on has ended, or waits for a reader. -/
theorem result?_of_step_eq_none (hcapacity : ∀ stream, 0 < (w.pipe stream).capacity)
    (h : w.step = none) :
    (∃ stream, (w.pipe stream).buffer ≠ []) ∨ w.result? = some w.result := by
  rcases hrest : w.rest with _ | ⟨stream, _ | ⟨b, more⟩⟩
  · rcases hchunks : w.chunks with _ | ⟨⟨stream, bytes⟩, chunks⟩
    · simp only [step, hrest, hchunks] at h
      split at h
      case isTrue => cases h
      case isFalse hout =>
        split at h
        case isTrue => cases h
        case isFalse herr =>
          refine .inr (result?_eq_some_iff.2 ⟨hrest, hchunks, ?_, rfl⟩)
          intro stream
          cases stream
          · exact Bool.eq_false_iff.2 hout
          · exact Bool.eq_false_iff.2 herr
    · simp only [step, hrest, hchunks] at h
      cases h
  · simp only [step, hrest] at h
    cases h
  · simp only [step, hrest] at h
    split at h
    case isTrue hstuck =>
      exact .inl ⟨stream, Pipe.buffer_ne_nil_of_isStuck (hcapacity stream) hstuck⟩
    case isFalse => cases h

theorem Turn.sound (h : w.Turn w') (hw : w.Sound) : w'.Sound := by
  cases h with
  | done hrest =>
    have hmore : w.todo ≠ [] := by
      rw [todo, hrest]
      exact List.cons_ne_nil _ _
    exact hw.fewer hmore _ _
  | put htodo hputs _ =>
    have hset := hw.setPipe hputs.capacity hputs.connected hputs.hasReader fun _ => hputs.isOpen
    refine hset.fewer ?_ _ _
    rw [todo, setPipe_rest, setPipe_chunks, ← todo, htodo]
    exact List.cons_ne_nil _ _
  | @close stream htodo _ =>
    have hclose : (w.pipe stream).close = { w.pipe stream with isOpen := false } := by
      rw [Pipe.close, if_pos (hw.connected stream)]
    rw [hclose]
    exact hw.setPipe rfl rfl rfl fun hmore => absurd htodo hmore

/-- When the pipe of a stream is closed, everything has been put into it. -/
theorem Sound.todo_eq_nil (h : w.Sound) (hclosed : (w.pipe stream).isOpen = false) : w.todo = [] := by
  by_contra hmore
  rw [h.isOpen hmore stream] at hclosed
  cases hclosed

/-- Nothing happens any more to a closed pipe. -/
theorem Turn.pipe_of_closed (h : w.Turn w') (hw : w.Sound) (hclosed : (w.pipe stream).isOpen = false) :
    w'.pipe stream = w.pipe stream := by
  have hspoken := hw.todo_eq_nil hclosed
  cases h with
  | done hrest =>
    rw [todo, hrest] at hspoken
    cases hspoken
  | put htodo =>
    rw [hspoken] at htodo
    cases htodo
  | close _ hopen =>
    refine pipe_setPipe_of_ne w _ ?_
    rintro rfl
    rw [hclosed] at hopen
    cases hopen

/-- A recital that has ended does nothing more. -/
theorem step_eq_none {r : Except Failure Int} (h : w.result? = some r) : w.step = none := by
  obtain ⟨hrest, hchunks, hclosed, -⟩ := result?_eq_some_iff.1 h
  have hout : w.stdout.isOpen = false := hclosed .stdout
  have herr : w.stderr.isOpen = false := hclosed .stderr
  simp only [step, hrest, hchunks, hout, herr, Bool.false_eq_true, if_false]

theorem Turn.result (h : w.Turn w') : w'.result = w.result := by
  cases h with
  | done => rfl
  | put => exact setPipe_result _ _ _
  | close => exact setPipe_result _ _ _

/-- The bytes that a reader of a stream can still come to see: those in the pipe, and those to be put
into it. -/
def ahead (w : Recital) (stream : Stream) : List UInt8 :=
  (w.pipe stream).buffer ++ said w.todo stream

/-- **Nothing is lost.**  A turn leaves what is ahead as it is. -/
theorem Turn.ahead (h : w.Turn w') (hw : w.Sound) (stream : Stream) :
    w'.ahead stream = w.ahead stream := by
  cases h with
  | @done other hrest =>
    have htodo : said w.todo stream = said w.chunks stream := by
      rw [todo, hrest]
      simp only [Option.toList_some, List.singleton_append, said_cons, ite_self, List.nil_append]
    rw [Recital.ahead, Recital.ahead, htodo]
    rfl
  | @put other bytes chunks p htodo hputs _ =>
    have htodo' : ({ w.setPipe p other with
        rest := some (other, bytes.drop (w.pipe other).room), chunks } : Recital).todo =
        (other, bytes.drop (w.pipe other).room) :: chunks := rfl
    rw [Recital.ahead, Recital.ahead, htodo', htodo, said_cons, said_cons]
    by_cases hsame : other = stream
    · subst hsame
      have hpipe : ({ w.setPipe p other with
          rest := some (other, bytes.drop (w.pipe other).room), chunks } : Recital).pipe other = p := by
        cases other <;> rfl
      rw [hpipe, hputs.buffer, if_pos rfl, if_pos rfl, List.append_assoc, ← List.append_assoc (bytes.take _),
        List.take_append_drop]
    · have hpipe : ({ w.setPipe p other with
          rest := some (other, bytes.drop (w.pipe other).room), chunks } : Recital).pipe stream =
          w.pipe stream := pipe_setPipe_of_ne w p (Ne.symm hsame)
      rw [hpipe, if_neg hsame, if_neg hsame]
  | @close other htodo _ =>
    have hbuffer : ((w.setPipe (w.pipe other).close other).pipe stream).buffer =
        (w.pipe stream).buffer := by
      by_cases hsame : stream = other
      · rw [hsame, pipe_setPipe, Pipe.close, if_pos (hw.connected other)]
      · rw [pipe_setPipe_of_ne w _ hsame]
    rw [Recital.ahead, Recital.ahead, hbuffer, todo, setPipe_rest, setPipe_chunks]
    rfl

/-! ## Readers -/

/-- The recital when some bytes have been taken out of a pipe. -/
def taken (w : Recital) (stream : Stream) (count : Nat) : Recital :=
  w.setPipe ((w.pipe stream).take count).2 stream

theorem Sound.taken (h : w.Sound) (stream : Stream) (count : Nat) : (w.taken stream count).Sound :=
  h.setPipe rfl rfl rfl fun _ => rfl

@[simp] theorem result?_taken (w : Recital) (stream : Stream) (count : Nat) :
    (w.taken stream count).result? = w.result? := by
  cases stream <;> rfl

@[simp] theorem result_taken (w : Recital) (stream : Stream) (count : Nat) :
    (w.taken stream count).result = w.result :=
  setPipe_result _ _ _

/-- What is taken out of a pipe was the first that was ahead. -/
theorem ahead_taken (w : Recital) (stream : Stream) (count : Nat) :
    ((w.pipe stream).take count).1 ++ (w.taken stream count).ahead stream = w.ahead stream := by
  rw [ahead, ahead, todo, taken, setPipe_rest, setPipe_chunks, ← todo, pipe_setPipe, ← List.append_assoc,
    Pipe.take, List.take_append_drop]

theorem pipe_taken_of_ne (w : Recital) (count : Nat) {other : Stream} (h : other ≠ stream) :
    (w.taken stream count).pipe other = w.pipe other :=
  pipe_setPipe_of_ne w _ h

theorem ahead_taken_of_ne (w : Recital) (count : Nat) {other : Stream} (h : other ≠ stream) :
    (w.taken stream count).ahead other = w.ahead other := by
  rw [ahead, ahead, pipe_taken_of_ne w count h, todo, taken, setPipe_rest, setPipe_chunks]
  rfl

/-! ## Effort -/

/-- How much is left to do before a pipe is empty and closed. -/
def pipeEffort (p : Pipe) : Nat :=
  p.buffer.length + p.isOpen.toNat

/-- How much is left to do for the chunks.  A byte counts twice here, as it is put into a pipe and then
taken out. -/
def chunkEffort (chunks : List (Stream × List UInt8)) : Nat :=
  (chunks.map fun chunk => 2 * chunk.2.length + 2).sum

/-- How much is left to do for the chunk under way. -/
def restEffort : Option (Stream × List UInt8) → Nat
  | none => 0
  | some (_, rest) => 2 * rest.length + 1

/-- How much is left to do until the recital has ended and both pipes are empty. -/
def effort (w : Recital) : Nat :=
  chunkEffort w.chunks + restEffort w.rest + pipeEffort w.stdout + pipeEffort w.stderr

theorem effort_setPipe (w : Recital) (p : Pipe) (stream : Stream) :
    (w.setPipe p stream).effort + pipeEffort (w.pipe stream) = w.effort + pipeEffort p := by
  cases stream <;> simp only [effort, setPipe, pipe] <;> omega

/-- **Every turn is progress.** -/
theorem Turn.effort_lt (h : w.Turn w') (hw : w.Sound) : w'.effort < w.effort := by
  cases h with
  | done hrest => simp only [effort, hrest, restEffort, List.length_nil]; omega
  | @put stream bytes chunks p htodo hputs hprogress =>
    have hput : pipeEffort p = pipeEffort (w.pipe stream) + min (w.pipe stream).room bytes.length := by
      rw [pipeEffort, hputs.buffer, hputs.isOpen, List.length_append, List.length_take, pipeEffort]
      omega
    have hafter : ({ w.setPipe p stream with
          rest := some (stream, bytes.drop (w.pipe stream).room), chunks } : Recital).effort +
          pipeEffort (w.pipe stream) + restEffort w.rest + chunkEffort w.chunks =
        w.effort + pipeEffort p + (2 * (bytes.length - (w.pipe stream).room) + 1) + chunkEffort chunks := by
      cases stream <;> simp only [effort, setPipe, pipe, restEffort, List.length_drop] <;> omega
    rcases hrest : w.rest with _ | ⟨other, rest⟩
    · have hchunks : chunkEffort w.chunks = 2 * bytes.length + 2 + chunkEffort chunks := by
        rw [todo, hrest] at htodo
        rw [show w.chunks = (stream, bytes) :: chunks from htodo, chunkEffort, List.map_cons,
          List.sum_cons, chunkEffort]
      rw [hrest, restEffort] at hafter
      omega
    · obtain ⟨hne, hroom⟩ := hprogress.resolve_left (by rw [hrest]; nofun)
      rw [todo, hrest] at htodo
      obtain ⟨hsame, rfl⟩ : (other, rest) = (stream, bytes) ∧ w.chunks = chunks := List.cons.inj htodo
      obtain ⟨-, rfl⟩ := Prod.mk.inj hsame
      have hlength : 0 < rest.length := List.length_pos_iff.2 hne
      rw [hrest, restEffort] at hafter
      omega
  | @close stream htodo hopen =>
    have hset := effort_setPipe w (w.pipe stream).close stream
    have hpipe : pipeEffort (w.pipe stream).close + 1 = pipeEffort (w.pipe stream) := by
      rw [Pipe.close, if_pos (hw.connected stream), pipeEffort, pipeEffort, hopen]
      rfl
    omega

/-- Reading is progress, too. -/
theorem effort_taken (w : Recital) (stream : Stream) (count : Nat) :
    (w.taken stream count).effort + ((w.pipe stream).take count).1.length = w.effort := by
  have hset := effort_setPipe w ((w.pipe stream).take count).2 stream
  have hpipe : pipeEffort ((w.pipe stream).take count).2 + ((w.pipe stream).take count).1.length =
      pipeEffort (w.pipe stream) := by
    simp only [pipeEffort, Pipe.take, List.length_drop, List.length_take]
    omega
  rw [taken]
  omega

end Recital

end RemoteShell
