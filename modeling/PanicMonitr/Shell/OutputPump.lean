import Mathlib.Algebra.Group.Int.Defs
import PanicMonitr.Foundation.Machine
import PanicMonitr.Wire.Streams

/-!
# The output pump of a shell

A reader callback puts what it reads from the pty into a queue, and a drainer takes it out
and writes it to the peer.  The callback takes the reader away when the queue is long; the
drainer puts it back when the queue is short.
-/

namespace PanicMonitr
namespace Shell

open Foundation
open Wire

def HIGH_WATER : Nat := 64
def LOW_WATER : Nat := 16

/-- The size `os.read` asks for. -/
def READ_MAX : Nat := 65536

inductive ExitStatus where
  | exited (code : UInt8)
  | signaled (signal : Fin 128)

/-- `proc.returncode` -/
def ExitStatus.returncode : ExitStatus -> Int
  | ExitStatus.exited code => code.toNat
  | ExitStatus.signaled signal => -(signal.val : Int)

/-- `struct.pack(">i", n)` of a return code. -/
def packSigned (n : Int) : List UInt8 :=
  let bits := (n % 2 ^ 32).toNat
  [UInt8.ofNat (bits / 2 ^ 24), UInt8.ofNat (bits / 2 ^ 16), UInt8.ofNat (bits / 2 ^ 8),
    UInt8.ofNat bits]

def dataFrame (chunk : List UInt8) : List UInt8 :=
  SHELL_TAG_DATA :: chunk

def exitFrame (rc : Int) : List UInt8 :=
  SHELL_TAG_EXIT :: packSigned rc

/-!
## The pump
-/

/-- The `await` the drainer is at. -/
inductive DrainPhase where
  /-- `queue.get()` -/
  | getting
  /-- `_write_framed` of a chunk -/
  | writing (chunk : List UInt8)
  /-- `_write_framed` of the exit code -/
  | exiting (rc : Int)
  /-- `send_stream.finish()` -/
  | finishing
  | done

/-- What `os.read` does; an `OSError` is taken as the end of the file. -/
inductive PtyRead where
  | data (chunk : List UInt8)
  | blocked
  | eof

/--
The queue holds chunks and `None` sentinels; `frames` are the payloads written so far.
`eof` and `read` are history variables: whether a read has come to the end of the file, and
the bytes read before.
-/
structure OutputPump where
  queue : List (Option (List UInt8))
  registered : Bool
  phase : DrainPhase
  frames : List (List UInt8)
  eof : Bool
  read : List UInt8

/-- The pty is readable, or the drainer goes on from its `await`. -/
inductive PumpEvent where
  | readable (result : PtyRead)
  | drain (status : Option ExitStatus)

namespace OutputPump

/-- `_on_readable()` -/
def onReadable (s : OutputPump) : PtyRead -> OutputPump
  | PtyRead.blocked => s
  | PtyRead.eof => { s with registered := false, queue := s.queue ++ [none], eof := true }
  | PtyRead.data chunk =>
      { s with
        queue := s.queue ++ [some chunk]
        read := s.read ++ chunk
        registered :=
          if HIGH_WATER <= s.queue.length + 1 then false else s.registered }

/-- The drainer up to its next `await`; `status` is the process at that time. -/
def drain (s : OutputPump) (status : Option ExitStatus) : OutputPump :=
  match s.phase with
  | DrainPhase.getting =>
      match s.queue with
      | [] => s
      | some chunk :: queue => { s with queue := queue, phase := DrainPhase.writing chunk }
      | none :: queue =>
          { s with
            queue := queue
            phase := DrainPhase.exiting ((status.map ExitStatus.returncode).getD (-1)) }
  | DrainPhase.writing chunk =>
      { s with
        frames := s.frames ++ [dataFrame chunk]
        phase := DrainPhase.getting
        registered := if s.queue.length <= LOW_WATER then true else s.registered }
  | DrainPhase.exiting rc =>
      { s with frames := s.frames ++ [exitFrame rc], phase := DrainPhase.finishing }
  | DrainPhase.finishing => { s with phase := DrainPhase.done, registered := false }
  | DrainPhase.done => s

def step (s : OutputPump) : PumpEvent -> OutputPump
  | PumpEvent.readable result => if s.registered then s.onReadable result else s
  | PumpEvent.drain status => s.drain status

end OutputPump

/-- The pump at its first `await`. -/
def OutputPump.started : OutputPump where
  queue := []
  registered := true
  phase := DrainPhase.getting
  frames := []
  eof := false
  read := []

def outputPump : Machine OutputPump PumpEvent where
  start s := s = OutputPump.started
  step := OutputPump.step

/-- A read returns some bytes, up to its size, and after the end of the file nothing else. -/
def PtyReads (s : OutputPump) : PumpEvent -> Prop
  | PumpEvent.readable (PtyRead.data chunk) =>
      s.eof = false ∧ chunk ≠ [] ∧ chunk.length <= READ_MAX
  | PumpEvent.readable PtyRead.blocked => s.eof = false
  | _ => True

/-!
## The invariant
-/

def DrainPhase.inFlight : DrainPhase -> List UInt8
  | DrainPhase.writing chunk => chunk
  | _ => []

def DrainPhase.LoopLeft : DrainPhase -> Prop
  | DrainPhase.getting => False
  | DrainPhase.writing _ => False
  | _ => True

def DrainPhase.Trailer (trailer : List (List UInt8)) : DrainPhase -> Prop
  | DrainPhase.finishing => exists rc, trailer = [exitFrame rc]
  | DrainPhase.done => exists rc, trailer = [exitFrame rc]
  | _ => trailer = []

/-- So few chunks are queued only because one of them is about to be written. -/
def DrainPhase.Backlog (queued : Nat) : DrainPhase -> Prop
  | DrainPhase.getting => LOW_WATER < queued
  | DrainPhase.writing _ => LOW_WATER <= queued
  | _ => False

/-- The chunks written, those queued, and the sentinels queued behind them. -/
structure Pumped (s : OutputPump) (bodies chunks : List (List UInt8)) (sentinels : Nat) :
    Prop where
  queue : s.queue = chunks.map some ++ List.replicate sentinels none
  frames : exists trailer, s.frames = bodies.map dataFrame ++ trailer ∧
    s.phase.Trailer trailer
  data : bodies.flatten ++ s.phase.inFlight ++ chunks.flatten = s.read
  sizes : forall chunk, chunk ∈ bodies ++ s.phase.inFlight :: chunks ->
    chunk.length <= READ_MAX
  before : s.eof = false -> sentinels = 0 ∧ ¬ s.phase.LoopLeft
  after : s.eof = true -> ¬ s.phase.LoopLeft -> 0 < sentinels
  left : s.phase.LoopLeft -> chunks = []
  bounded : chunks.length <= HIGH_WATER
  armed : s.eof = false -> s.registered = true -> chunks.length < HIGH_WATER
  unarmed : s.eof = false -> s.registered = false -> s.phase.Backlog chunks.length

section Steps

variable {s : OutputPump} {bodies chunks : List (List UInt8)} {sentinels : Nat}

theorem pumped_started : Pumped OutputPump.started [] [] 0 := by
  constructor
  · rfl
  · exact ⟨[], rfl, rfl⟩
  · rfl
  · intro chunk hchunk
    rw [List.mem_singleton.mp hchunk]
    exact Nat.zero_le _
  · exact fun _ => ⟨rfl, fun h => h⟩
  · exact fun h => by cases h
  · exact fun h => h.elim
  · exact Nat.zero_le _
  · exact fun _ _ => by decide
  · exact fun _ h => by cases h

theorem Pumped.queue_before (h : Pumped s bodies chunks sentinels) (heof : s.eof = false) :
    s.queue = chunks.map some ∧ s.queue.length = chunks.length := by
  have hqueue := h.queue
  rw [(h.before heof).left, List.replicate_zero, List.append_nil] at hqueue
  exact ⟨hqueue, by rw [hqueue, List.length_map]⟩

theorem Pumped.readData (h : Pumped s bodies chunks sentinels) {chunk : List UInt8}
    (heof : s.eof = false) (hregistered : s.registered = true)
    (hlength : chunk.length <= READ_MAX) :
    Pumped (s.onReadable (PtyRead.data chunk)) bodies (chunks ++ [chunk]) sentinels := by
  rcases h.queue_before heof with ⟨hqueue, hqueued⟩
  have hroom := h.armed heof hregistered
  have hnotLeft := (h.before heof).right
  constructor
  · show s.queue ++ [some chunk] = _
    rw [hqueue, (h.before heof).left, List.map_append, List.replicate_zero, List.append_nil]
    rfl
  · exact h.frames
  · show bodies.flatten ++ s.phase.inFlight ++ (chunks ++ [chunk]).flatten = s.read ++ chunk
    rw [List.flatten_append, ← List.append_assoc, h.data, List.flatten_singleton]
  · intro c hc
    rcases List.mem_append.mp hc with hbody | hrest
    · exact h.sizes c (List.mem_append_left _ hbody)
    · rcases List.mem_cons.mp hrest with hflight | hchunk
      · exact h.sizes c (List.mem_append_right _ (by rw [hflight]; exact List.mem_cons_self ..))
      · rcases List.mem_append.mp hchunk with hold | hnew
        · exact h.sizes c (List.mem_append_right _ (List.mem_cons_of_mem _ hold))
        · rw [List.mem_singleton.mp hnew]
          exact hlength
  · exact h.before
  · intro hnow
    have hnow' : s.eof = true := hnow
    rw [heof] at hnow'
    cases hnow'
  · exact fun hleft => absurd hleft hnotLeft
  · rw [List.length_append, List.length_singleton]
    exact hroom
  · intro _ hstill
    have hstill' : (if HIGH_WATER <= s.queue.length + 1 then false else s.registered) = true :=
      hstill
    split at hstill'
    · cases hstill'
    · rw [List.length_append, List.length_singleton]
      omega
  · intro _ hnow
    have hnow' : (if HIGH_WATER <= s.queue.length + 1 then false else s.registered) = false :=
      hnow
    rw [List.length_append, List.length_singleton]
    split at hnow'
    · rename_i hfull
      rw [hqueued] at hfull
      unfold HIGH_WATER at hfull
      show s.phase.Backlog (chunks.length + 1)
      cases hphase : s.phase with
      | getting => show LOW_WATER < _; unfold LOW_WATER; omega
      | writing c => show LOW_WATER <= _; unfold LOW_WATER; omega
      | exiting rc => rw [hphase] at hnotLeft; exact hnotLeft trivial
      | finishing => rw [hphase] at hnotLeft; exact hnotLeft trivial
      | done => rw [hphase] at hnotLeft; exact hnotLeft trivial
    · rw [hregistered] at hnow'
      cases hnow'

theorem Pumped.readEof (h : Pumped s bodies chunks sentinels) :
    Pumped (s.onReadable PtyRead.eof) bodies chunks (sentinels + 1) := by
  constructor
  · show s.queue ++ [none] = _
    rw [h.queue, List.append_assoc, List.replicate_succ']
  · exact h.frames
  · exact h.data
  · exact h.sizes
  · exact fun heof => by cases heof
  · exact fun _ _ => Nat.succ_pos sentinels
  · exact h.left
  · exact h.bounded
  · exact fun heof => by cases heof
  · exact fun heof => by cases heof

theorem Pumped.eof_of_left (h : Pumped s bodies chunks sentinels)
    (hleft : s.phase.LoopLeft) : s.eof = true := by
  cases heof : s.eof with
  | true => rfl
  | false => exact absurd hleft (h.before heof).right

theorem drain_chunk {chunk : List UInt8} {queue : List (Option (List UInt8))}
    (hphase : s.phase = DrainPhase.getting) (hqueue : s.queue = some chunk :: queue)
    (status : Option ExitStatus) :
    s.drain status = { s with queue := queue, phase := DrainPhase.writing chunk } := by
  simp only [OutputPump.drain, hphase, hqueue]

theorem drain_sentinel {queue : List (Option (List UInt8))}
    (hphase : s.phase = DrainPhase.getting) (hqueue : s.queue = none :: queue)
    (status : Option ExitStatus) :
    s.drain status =
      { s with
        queue := queue
        phase := DrainPhase.exiting ((status.map ExitStatus.returncode).getD (-1)) } := by
  simp only [OutputPump.drain, hphase, hqueue]

theorem drain_empty (hphase : s.phase = DrainPhase.getting) (hqueue : s.queue = [])
    (status : Option ExitStatus) : s.drain status = s := by
  simp only [OutputPump.drain, hphase, hqueue]

theorem drain_written {chunk : List UInt8} (hphase : s.phase = DrainPhase.writing chunk)
    (status : Option ExitStatus) :
    s.drain status =
      { s with
        frames := s.frames ++ [dataFrame chunk]
        phase := DrainPhase.getting
        registered := if s.queue.length <= LOW_WATER then true else s.registered } := by
  simp only [OutputPump.drain, hphase]

theorem Pumped.drainChunk {chunk : List UInt8}
    (h : Pumped s bodies (chunk :: chunks) sentinels)
    (hphase : s.phase = DrainPhase.getting) (status : Option ExitStatus) :
    Pumped (s.drain status) bodies chunks sentinels := by
  have hqueue : s.queue = some chunk :: (chunks.map some ++ List.replicate sentinels none) :=
    h.queue
  rw [drain_chunk hphase hqueue]
  constructor
  · rfl
  · rcases h.frames with ⟨trailer, hframes, htrailer⟩
    rw [hphase] at htrailer
    exact ⟨trailer, hframes, htrailer⟩
  · have hdata := h.data
    rw [hphase] at hdata
    show bodies.flatten ++ chunk ++ chunks.flatten = s.read
    rw [← hdata, List.flatten_cons, List.append_assoc, List.append_assoc]
    rfl
  · intro c hc
    rcases List.mem_append.mp hc with hbody | hrest
    · exact h.sizes c (List.mem_append_left _ hbody)
    · exact h.sizes c (List.mem_append_right _ (List.mem_cons_of_mem _ hrest))
  · exact fun heof => ⟨(h.before heof).left, fun hleft => hleft⟩
  · intro heof _
    exact h.after heof (by rw [hphase]; exact fun hleft => hleft)
  · exact fun hleft => hleft.elim
  · exact Nat.le_of_succ_le h.bounded
  · exact fun heof hregistered => Nat.lt_of_succ_lt (h.armed heof hregistered)
  · intro heof hregistered
    have hbacklog := h.unarmed heof hregistered
    rw [hphase] at hbacklog
    exact Nat.le_of_lt_succ hbacklog

theorem Pumped.drainSentinel (h : Pumped s bodies [] (sentinels + 1))
    (hphase : s.phase = DrainPhase.getting) (status : Option ExitStatus) :
    Pumped (s.drain status) bodies [] sentinels := by
  have hqueue : s.queue = none :: List.replicate sentinels none := h.queue
  have heof : s.eof = true := by
    cases heof : s.eof with
    | true => rfl
    | false => exact absurd (h.before heof).left (Nat.succ_ne_zero sentinels)
  rw [drain_sentinel hphase hqueue]
  have hlate : ¬ s.eof = false := by rw [heof]; exact fun h => by cases h
  constructor
  · rfl
  · rcases h.frames with ⟨trailer, hframes, htrailer⟩
    rw [hphase] at htrailer
    exact ⟨trailer, hframes, htrailer⟩
  · have hdata := h.data
    rw [hphase] at hdata
    exact hdata
  · intro c hc
    apply h.sizes c
    rw [hphase]
    exact hc
  · exact fun hearly => absurd hearly hlate
  · exact fun _ hstays => absurd trivial hstays
  · exact fun _ => rfl
  · exact Nat.zero_le _
  · exact fun hearly => absurd hearly hlate
  · exact fun hearly => absurd hearly hlate

theorem Pumped.drainWritten {chunk : List UInt8} (h : Pumped s bodies chunks sentinels)
    (hphase : s.phase = DrainPhase.writing chunk) (status : Option ExitStatus) :
    Pumped (s.drain status) (bodies ++ [chunk]) chunks sentinels := by
  rw [drain_written hphase]
  have hinFlight : s.phase.inFlight = chunk := by rw [hphase]; rfl
  constructor
  · exact h.queue
  · rcases h.frames with ⟨trailer, hframes, htrailer⟩
    rw [hphase] at htrailer
    have hnone : trailer = [] := htrailer
    refine ⟨[], ?_, rfl⟩
    show s.frames ++ [dataFrame chunk] = _
    rw [hframes, hnone, List.map_append, List.append_nil, List.append_nil]
    rfl
  · have hdata := h.data
    rw [hinFlight] at hdata
    show (bodies ++ [chunk]).flatten ++ [] ++ chunks.flatten = s.read
    rw [List.flatten_append, List.flatten_singleton, List.append_nil]
    exact hdata
  · intro c hc
    have hsizes := h.sizes c
    rw [hinFlight] at hsizes
    simp only [List.mem_append, List.mem_cons, List.not_mem_nil, or_false] at hc hsizes
    rcases hc with (hbody | hchunk) | hempty | hqueued
    · exact hsizes (Or.inl hbody)
    · exact hsizes (Or.inr (Or.inl hchunk))
    · rw [hempty]
      exact Nat.zero_le _
    · exact hsizes (Or.inr (Or.inr hqueued))
  · exact fun heof => ⟨(h.before heof).left, fun hleft => hleft⟩
  · intro heof _
    exact h.after heof (by rw [hphase]; exact fun hleft => hleft)
  · exact fun hleft => hleft.elim
  · exact h.bounded
  · intro heof hnow
    have hnow' : (if s.queue.length <= LOW_WATER then true else s.registered) = true := hnow
    split at hnow'
    · rename_i hlow
      rw [(h.queue_before heof).right] at hlow
      exact Nat.lt_of_le_of_lt hlow (by decide)
    · exact h.armed heof hnow'
  · intro heof hnow
    have hnow' : (if s.queue.length <= LOW_WATER then true else s.registered) = false := hnow
    split at hnow'
    · cases hnow'
    · rename_i hhigh
      rw [(h.queue_before heof).right] at hhigh
      exact Nat.lt_of_not_le hhigh

/-- Past the loop the phase and what has been written change, and nothing else does. -/
theorem Pumped.pastLoop {phase : DrainPhase} {frames trailer : List (List UInt8)}
    {registered : Bool} (h : Pumped s bodies chunks sentinels) (hleft : s.phase.LoopLeft)
    (hphase : phase.LoopLeft) (hinFlight : phase.inFlight = s.phase.inFlight)
    (hframes : frames = bodies.map dataFrame ++ trailer) (htrailer : phase.Trailer trailer) :
    Pumped { s with phase := phase, frames := frames, registered := registered } bodies chunks
      sentinels := by
  have hlate : ¬ s.eof = false := by rw [h.eof_of_left hleft]; exact fun h => by cases h
  refine { queue := h.queue, frames := ⟨trailer, hframes, htrailer⟩, data := ?_, sizes := ?_,
           before := fun hearly => absurd hearly hlate
           after := fun _ hstays => absurd hphase hstays
           left := fun _ => h.left hleft, bounded := h.bounded
           armed := fun hearly => absurd hearly hlate
           unarmed := fun hearly => absurd hearly hlate }
  · show bodies.flatten ++ phase.inFlight ++ chunks.flatten = s.read
    rw [hinFlight]
    exact h.data
  · intro c hc
    apply h.sizes c
    rw [← hinFlight]
    exact hc

theorem Pumped.drain (h : Pumped s bodies chunks sentinels) (status : Option ExitStatus) :
    exists bodies' chunks' sentinels', Pumped (s.drain status) bodies' chunks' sentinels' := by
  rcases h.frames with ⟨trailer, hframes, htrailer⟩
  cases hphase : s.phase with
  | getting =>
      cases chunks with
      | cons chunk chunks => exact ⟨bodies, chunks, sentinels, h.drainChunk hphase status⟩
      | nil =>
          cases sentinels with
          | succ sentinels => exact ⟨bodies, [], sentinels, h.drainSentinel hphase status⟩
          | zero =>
              rw [drain_empty hphase h.queue]
              exact ⟨bodies, [], 0, h⟩
  | writing chunk => exact ⟨bodies ++ [chunk], chunks, sentinels, h.drainWritten hphase status⟩
  | exiting rc =>
      have hleft : s.phase.LoopLeft := by rw [hphase]; exact trivial
      have hnone : trailer = [] := by rw [hphase] at htrailer; exact htrailer
      have hexit : s.frames ++ [exitFrame rc] = bodies.map dataFrame ++ [exitFrame rc] := by
        rw [hframes, hnone, List.append_nil]
      refine ⟨bodies, chunks, sentinels, ?_⟩
      simp only [OutputPump.drain, hphase]
      exact h.pastLoop hleft trivial (by rw [hphase]; rfl) hexit ⟨rc, rfl⟩
  | finishing =>
      have hleft : s.phase.LoopLeft := by rw [hphase]; exact trivial
      rw [hphase] at htrailer
      refine ⟨bodies, chunks, sentinels, ?_⟩
      simp only [OutputPump.drain, hphase]
      exact h.pastLoop hleft trivial (by rw [hphase]; rfl) hframes htrailer
  | done =>
      refine ⟨bodies, chunks, sentinels, ?_⟩
      simp only [OutputPump.drain, hphase]
      exact h

theorem Pumped.step (h : Pumped s bodies chunks sentinels) {e : PumpEvent}
    (hreads : PtyReads s e) :
    exists bodies' chunks' sentinels', Pumped (s.step e) bodies' chunks' sentinels' := by
  cases e with
  | drain status => exact h.drain status
  | readable result =>
      unfold OutputPump.step
      simp only
      split
      · rename_i hregistered
        cases result with
        | blocked => exact ⟨bodies, chunks, sentinels, h⟩
        | eof => exact ⟨bodies, chunks, sentinels + 1, h.readEof⟩
        | data chunk =>
            exact ⟨bodies, chunks ++ [chunk], sentinels,
              h.readData hreads.left hregistered hreads.right.right⟩
      · exact ⟨bodies, chunks, sentinels, h⟩

end Steps

/-!
## The pump goes on

After the end of the file each step of the drainer brings the end of the pump closer, and
what the callback still puts into the queue does not move it away.  Before it, as long as
the reader is away, each step brings its return closer.
-/

def PumpEvent.isDrain : PumpEvent -> Bool
  | PumpEvent.drain _ => true
  | PumpEvent.readable _ => false

/-- How often the drainer goes on, with so many chunks queued, until it is done. -/
def DrainPhase.stepsLeft (queued : Nat) : DrainPhase -> Nat
  | DrainPhase.getting => 2 * queued + 3
  | DrainPhase.writing _ => 2 * queued + 4
  | DrainPhase.exiting _ => 2
  | DrainPhase.finishing => 1
  | DrainPhase.done => 0

def OutputPump.stepsLeft (s : OutputPump) : Nat :=
  s.phase.stepsLeft (s.queue.countP Option.isSome)

/-- How often it goes on, with so many chunks queued, until the reader is back. -/
def DrainPhase.stepsToRearm (queued : Nat) : DrainPhase -> Nat
  | DrainPhase.getting => 2 * (queued - LOW_WATER)
  | DrainPhase.writing _ => 2 * (queued - LOW_WATER) + 1
  | _ => 0

section Progress

variable {s : OutputPump} {bodies chunks : List (List UInt8)} {sentinels : Nat}

theorem Pumped.queued (h : Pumped s bodies chunks sentinels) :
    s.queue.countP Option.isSome = chunks.length ∧ s.queue.filterMap id = chunks := by
  rw [h.queue]
  constructor
  · rw [List.countP_append, List.countP_map, List.countP_replicate]
    simp
  · simp

theorem stepsLeft_eq (h : Pumped s bodies chunks sentinels) :
    s.stepsLeft = s.phase.stepsLeft chunks.length := by
  unfold OutputPump.stepsLeft
  rw [h.queued.left]

theorem stepsLeft_drain (h : Pumped s bodies chunks sentinels) (heof : s.eof = true)
    (status : Option ExitStatus) :
    (s.drain status).eof = true ∧ (s.drain status).stepsLeft = s.stepsLeft - 1 := by
  cases hphase : s.phase with
  | getting =>
      cases chunks with
      | cons chunk chunks =>
          have hnext := h.drainChunk hphase status
          rw [stepsLeft_eq hnext, stepsLeft_eq h]
          rw [drain_chunk hphase h.queue, hphase]
          refine ⟨heof, ?_⟩
          show 2 * chunks.length + 4 = 2 * (chunks.length + 1) + 3 - 1
          omega
      | nil =>
          cases sentinels with
          | succ sentinels =>
              have hnext := h.drainSentinel hphase status
              rw [stepsLeft_eq hnext, stepsLeft_eq h, drain_sentinel hphase h.queue, hphase]
              exact ⟨heof, rfl⟩
          | zero =>
              have hpos := h.after heof (by rw [hphase]; exact fun hleft => hleft)
              exact absurd hpos (Nat.lt_irrefl 0)
  | writing chunk =>
      have hnext := h.drainWritten hphase status
      rw [stepsLeft_eq hnext, stepsLeft_eq h, drain_written hphase, hphase]
      exact ⟨heof, rfl⟩
  | exiting rc =>
      simp only [OutputPump.drain, OutputPump.stepsLeft, hphase]
      exact ⟨heof, rfl⟩
  | finishing =>
      simp only [OutputPump.drain, OutputPump.stepsLeft, hphase]
      exact ⟨heof, rfl⟩
  | done =>
      simp only [OutputPump.drain, OutputPump.stepsLeft, hphase]
      exact ⟨heof, rfl⟩

theorem stepsLeft_readable {result : PtyRead} (heof : s.eof = true)
    (hreads : PtyReads s (PumpEvent.readable result)) :
    (s.step (PumpEvent.readable result)).eof = true ∧
      (s.step (PumpEvent.readable result)).stepsLeft = s.stepsLeft := by
  unfold OutputPump.step
  simp only
  split
  · cases result with
    | data chunk =>
        have hearly := hreads.left
        rw [heof] at hearly
        cases hearly
    | blocked => exact ⟨heof, rfl⟩
    | eof =>
        refine ⟨rfl, ?_⟩
        show s.phase.stepsLeft ((s.queue ++ [none]).countP Option.isSome) = s.stepsLeft
        rw [List.countP_append]
        rfl
  · exact ⟨heof, rfl⟩

theorem done_of_stepsLeft (h : s.stepsLeft = 0) : s.phase = DrainPhase.done := by
  unfold OutputPump.stepsLeft at h
  cases hphase : s.phase with
  | done => rfl
  | getting => rw [hphase] at h; cases h
  | writing chunk => rw [hphase] at h; cases h
  | exiting rc => rw [hphase] at h; cases h
  | finishing => rw [hphase] at h; cases h

theorem drained (h : Pumped s bodies chunks sentinels) (heof : s.eof = true)
    {es : List PumpEvent} (hguard : outputPump.Guarded PtyReads s es)
    (henough : s.stepsLeft <= es.countP PumpEvent.isDrain) :
    (outputPump.exec s es).phase = DrainPhase.done := by
  induction es generalizing s bodies chunks sentinels with
  | nil => exact done_of_stepsLeft (Nat.le_zero.mp henough)
  | cons e es ih =>
      rcases hguard with ⟨hreads, hrest⟩
      rcases h.step hreads with ⟨bodies', chunks', sentinels', hnext⟩
      cases e with
      | drain status =>
          rcases stepsLeft_drain h heof status with ⟨heof', hless⟩
          apply ih hnext heof' hrest
          rw [List.countP_cons_of_pos rfl] at henough
          show (s.drain status).stepsLeft <= _
          omega
      | readable result =>
          rcases stepsLeft_readable heof hreads with ⟨heof', hsame⟩
          apply ih hnext heof' hrest
          rw [List.countP_cons_of_neg (by exact Bool.false_ne_true)] at henough
          show (s.step (PumpEvent.readable result)).stepsLeft <= _
          rw [hsame]
          exact henough

/-- Away from the reader and before the end of the file, a step of the drainer counts. -/
theorem stepsToRearm_drain (h : Pumped s bodies chunks sentinels) (heof : s.eof = false)
    (hregistered : s.registered = false) (status : Option ExitStatus) :
    exists bodies' chunks', Pumped (s.drain status) bodies' chunks' sentinels ∧
      (s.drain status).eof = false ∧
      ((s.drain status).registered = true ∨
        (s.drain status).phase.stepsToRearm chunks'.length + 1 =
          s.phase.stepsToRearm chunks.length) := by
  have hbacklog := h.unarmed heof hregistered
  cases hphase : s.phase with
  | getting =>
      rw [hphase] at hbacklog
      have hlow : LOW_WATER < chunks.length := hbacklog
      cases chunks with
      | nil => exact absurd hlow (Nat.not_lt_zero _)
      | cons chunk chunks =>
          refine ⟨bodies, chunks, h.drainChunk hphase status, ?_⟩
          rw [drain_chunk hphase h.queue]
          refine ⟨heof, Or.inr ?_⟩
          rw [List.length_cons] at hlow ⊢
          show 2 * (chunks.length - LOW_WATER) + 1 + 1 = 2 * (chunks.length + 1 - LOW_WATER)
          omega
  | writing chunk =>
      refine ⟨bodies ++ [chunk], chunks, h.drainWritten hphase status, ?_⟩
      rw [drain_written hphase]
      refine ⟨heof, ?_⟩
      simp only
      split
      · exact Or.inl rfl
      · exact Or.inr rfl
  | exiting rc =>
      rw [hphase] at hbacklog
      exact hbacklog.elim
  | finishing =>
      rw [hphase] at hbacklog
      exact hbacklog.elim
  | done =>
      rw [hphase] at hbacklog
      exact hbacklog.elim

theorem rearmed (h : Pumped s bodies chunks sentinels) (heof : s.eof = false)
    {es : List PumpEvent}
    (henough : s.phase.stepsToRearm chunks.length < es.countP PumpEvent.isDrain) :
    exists front back, es = front ++ back ∧ (outputPump.exec s front).registered = true := by
  induction es generalizing s bodies chunks sentinels with
  | nil => exact absurd henough (Nat.not_lt_zero _)
  | cons e es ih =>
      cases hregistered : s.registered with
      | true => exact ⟨[], e :: es, rfl, hregistered⟩
      | false =>
          cases e with
          | readable result =>
              have hstill : s.step (PumpEvent.readable result) = s := by
                unfold OutputPump.step
                simp only [hregistered, Bool.false_eq_true, if_false]
              rw [List.countP_cons_of_neg (by exact Bool.false_ne_true)] at henough
              rcases ih h heof henough with ⟨front, back, hsplit, hback⟩
              refine ⟨PumpEvent.readable result :: front, back, by rw [hsplit]; rfl, ?_⟩
              show (outputPump.exec (s.step (PumpEvent.readable result)) front).registered = true
              rw [hstill]
              exact hback
          | drain status =>
              rw [List.countP_cons_of_pos rfl] at henough
              rcases stepsToRearm_drain h heof hregistered status with
                ⟨bodies', chunks', hnext, heof', hback | hless⟩
              · exact ⟨[PumpEvent.drain status], es, rfl, hback⟩
              · rcases ih hnext heof' (by omega) with ⟨front, back, hsplit, hback⟩
                exact ⟨PumpEvent.drain status :: front, back, by rw [hsplit]; rfl, hback⟩

end Progress

/-!
## The law of the pump
-/

/--
What is written, being written and queued is what was read, in order.  All frames are
within the limit, so few chunks are queued, and the pump stalls neither before the end of
the file nor after it.
-/
structure PumpLaw (s : OutputPump) : Prop where
  lossless : exists bodies trailer : List (List UInt8), s.frames = bodies.map dataFrame ++ trailer ∧
    s.phase.Trailer trailer ∧
    bodies.flatten ++ s.phase.inFlight ++ (s.queue.filterMap id).flatten = s.read
  complete : s.phase = DrainPhase.done -> exists (bodies : List (List UInt8)) (rc : Int),
    s.frames = bodies.map dataFrame ++ [exitFrame rc] ∧ bodies.flatten = s.read
  framed : forall frame, frame ∈ s.frames -> frame.length <= SHELL_FRAME_MAX
  bounded : s.queue.countP Option.isSome <= HIGH_WATER
  unarmed : s.eof = false -> s.registered = false ->
    s.queue ≠ [] ∨ exists chunk, s.phase = DrainPhase.writing chunk
  rearms : s.eof = false -> forall es : List PumpEvent,
    2 * HIGH_WATER <= es.countP PumpEvent.isDrain ->
    exists front back, es = front ++ back ∧ (outputPump.exec s front).registered = true
  ends : s.eof = true -> forall es, outputPump.Guarded PtyReads s es ->
    s.stepsLeft <= es.countP PumpEvent.isDrain ->
    (outputPump.exec s es).phase = DrainPhase.done

section Law

variable {s : OutputPump} {bodies chunks : List (List UInt8)} {sentinels : Nat}

theorem Pumped.framed (h : Pumped s bodies chunks sentinels) {frame : List UInt8}
    (hframe : frame ∈ s.frames) : frame.length <= SHELL_FRAME_MAX := by
  have hsmall : READ_MAX + 1 <= SHELL_FRAME_MAX := by decide
  have hexit : forall rc, (exitFrame rc).length <= SHELL_FRAME_MAX := fun rc =>
    show 5 <= SHELL_FRAME_MAX by decide
  rcases h.frames with ⟨trailer, hframes, htrailer⟩
  rw [hframes] at hframe
  rcases List.mem_append.mp hframe with hdata | hexited
  · rcases List.mem_map.mp hdata with ⟨body, hbody, rfl⟩
    have hsize := h.sizes body (List.mem_append_left _ hbody)
    show body.length + 1 <= SHELL_FRAME_MAX
    omega
  · cases hphase : s.phase with
    | getting => rw [hphase] at htrailer; rw [htrailer] at hexited; cases hexited
    | writing chunk => rw [hphase] at htrailer; rw [htrailer] at hexited; cases hexited
    | exiting rc => rw [hphase] at htrailer; rw [htrailer] at hexited; cases hexited
    | finishing =>
        rw [hphase] at htrailer
        rcases htrailer with ⟨rc, rfl⟩
        rw [List.mem_singleton.mp hexited]
        exact hexit rc
    | done =>
        rw [hphase] at htrailer
        rcases htrailer with ⟨rc, rfl⟩
        rw [List.mem_singleton.mp hexited]
        exact hexit rc

theorem Pumped.law (h : Pumped s bodies chunks sentinels) : PumpLaw s := by
  rcases h.frames with ⟨trailer, hframes, htrailer⟩
  constructor
  · refine ⟨bodies, trailer, hframes, htrailer, ?_⟩
    rw [h.queued.right]
    exact h.data
  · intro hdone
    have hdata := h.data
    rw [hdone] at htrailer hdata
    rcases htrailer with ⟨rc, rfl⟩
    refine ⟨bodies, rc, hframes, ?_⟩
    rw [h.left (by rw [hdone]; exact trivial)] at hdata
    simpa [DrainPhase.inFlight] using hdata
  · exact fun frame => h.framed
  · rw [h.queued.left]
    exact h.bounded
  · intro heof hregistered
    have hbacklog := h.unarmed heof hregistered
    cases hphase : s.phase with
    | getting =>
        left
        rw [hphase] at hbacklog
        have hlow : LOW_WATER < chunks.length := hbacklog
        intro hempty
        have hnone := (h.queue_before heof).right
        rw [hempty, List.length_nil] at hnone
        omega
    | writing chunk => exact Or.inr ⟨chunk, rfl⟩
    | exiting rc => rw [hphase] at hbacklog; exact hbacklog.elim
    | finishing => rw [hphase] at hbacklog; exact hbacklog.elim
    | done => rw [hphase] at hbacklog; exact hbacklog.elim
  · intro heof es henough
    apply rearmed h heof
    have hbounded := h.bounded
    unfold HIGH_WATER at hbounded henough
    cases hphase : s.phase with
    | getting => show 2 * (chunks.length - 16) < _; omega
    | writing chunk => show 2 * (chunks.length - 16) + 1 < _; omega
    | exiting rc => show 0 < _; omega
    | finishing => show 0 < _; omega
    | done => show 0 < _; omega
  · exact fun heof es => drained h heof

theorem PumpLaw.delivered (h : PumpLaw s) (spill : List UInt8 -> List UInt8) :
    exists stream, writeAll s.frames = some stream ∧
      recvTimes spill SHELL_FRAME_MAX s.frames.length stream = (Except.ok s.frames, []) := by
  rcases writeAll_of_length (fun frame hframe =>
    Nat.lt_of_le_of_lt (h.framed frame hframe) (by decide)) with ⟨stream, hstream⟩
  exact ⟨stream, hstream, recvTimes_writeAll hstream h.framed⟩

/-- The law holds in every state of every run. -/
theorem pump_law (hreach : outputPump.Reachable PtyReads s) : PumpLaw s := by
  have hpumped : exists bodies chunks sentinels, Pumped s bodies chunks sentinels := by
    apply hreach.invariant
      (I := fun s => exists bodies chunks sentinels, Pumped s bodies chunks sentinels)
    · intro s hstart
      have hstarted : s = OutputPump.started := hstart
      rw [hstarted]
      exact ⟨[], [], 0, pumped_started⟩
    · intro s e hinv hreads
      rcases hinv with ⟨bodies, chunks, sentinels, h⟩
      exact h.step hreads
  rcases hpumped with ⟨bodies, chunks, sentinels, h⟩
  exact h.law

end Law

/-- Two reads, the end of the file, and the drainer until it is done. -/
def shortSession : List PumpEvent :=
  [PumpEvent.readable (PtyRead.data [104, 105]), PumpEvent.drain none,
    PumpEvent.readable (PtyRead.data [33]), PumpEvent.drain none,
    PumpEvent.readable PtyRead.eof, PumpEvent.drain none, PumpEvent.drain none,
    PumpEvent.drain (some (ExitStatus.exited 0)), PumpEvent.drain none, PumpEvent.drain none]

theorem pump_law_short :
    PumpLaw (outputPump.exec OutputPump.started shortSession) ∧
      (outputPump.exec OutputPump.started shortSession).frames =
        [[0, 104, 105], [0, 33], [3, 0, 0, 0, 0]] := by
  have hstart : outputPump.Run PtyReads [] OutputPump.started := Machine.Run.start rfl
  have hrun := hstart.exec shortSession
    ⟨⟨rfl, by decide, by decide⟩, trivial, ⟨rfl, by decide, by decide⟩, trivial, trivial,
      trivial, trivial, trivial, trivial, trivial, trivial⟩
  exact ⟨pump_law ⟨_, hrun⟩, by decide⟩

end Shell
end PanicMonitr
