import PanicMonitr.Wire.Streams

/-!
# A stream of frames on its way

One direction of a connection.  Bytes handed to `write_all` are accepted and arrive in
order, in pieces of any size; when the connection is gone, what has not arrived never will.
What has arrived and is not read yet belongs to the reader.
-/

namespace PanicMonitr
namespace Wire

/--
What a stream holds between its writer and its reader.  `written` and `lost` are history
variables: the payloads handed to `_write_framed`, and the bytes that never arrive.
-/
structure Pipe where
  written : List (List UInt8)
  pending : List UInt8
  transit : List UInt8
  lost : List UInt8
  writable : Bool
  stopped : Bool

namespace Pipe

def primed : Pipe where
  written := [[]]
  pending := [0, 0, 0, 0]
  transit := []
  lost := []
  writable := true
  stopped := false

def fresh : Pipe where
  written := []
  pending := []
  transit := []
  lost := []
  writable := true
  stopped := false

/-- `_write_framed(send_stream, payload)` up to its `await`; `none` is what it raises. -/
def put (p : Pipe) (payload : List UInt8) : Option Pipe :=
  if p.writable then
    (writeFramed payload).map (fun framed =>
      { p with written := p.written ++ [payload], pending := p.pending ++ framed })
  else none

def accept (p : Pipe) (n : Nat) : Pipe :=
  { p with transit := p.transit ++ p.pending.take n, pending := p.pending.drop n }

def deliver (p : Pipe) (n : Nat) : List UInt8 × Pipe :=
  (p.transit.take n, { p with transit := p.transit.drop n })

/-- `send_stream.finish()` -/
def finish (p : Pipe) : Pipe :=
  { p with writable := false }

/-- The connection is gone; so many of the bytes can still be read. -/
def gone (p : Pipe) (arrived : List UInt8) (kept : Nat) : List UInt8 × Pipe :=
  ((arrived ++ p.transit ++ p.pending).take kept,
    { p with
      pending := []
      transit := []
      lost := (arrived ++ p.transit ++ p.pending).drop kept ++ p.lost
      writable := false
      stopped := true })

/-- `_read_framed` does not wait: it has a frame, or a length above the cap, or no more comes. -/
def ready (p : Pipe) (max : Nat) (arrived : List UInt8) : Bool :=
  match readFramed max arrived with
  | Except.error ReadError.streamEnded => p.stopped
  | _ => true

end Pipe

/-!
## Reading the beginning of a stream
-/

variable {max : Nat}

theorem writeAll_snoc {payloads : List (List UInt8)} {payload stream framed : List UInt8}
    (hstream : writeAll payloads = some stream) (hframed : writeFramed payload = some framed) :
    writeAll (payloads ++ [payload]) = some (stream ++ framed) := by
  induction payloads generalizing stream with
  | nil =>
      cases hstream
      rw [List.nil_append, writeAll_cons hframed writeAll_nil, List.append_nil, List.nil_append]
  | cons first payloads ih =>
      rcases writeAll_cons_some hstream with ⟨framed', rest, hframed', hrest, rfl⟩
      rw [List.cons_append, writeAll_cons hframed' (ih hrest), List.append_assoc]

/-- What is read from the beginning of a stream is the first payload written to it. -/
theorem readFramed_front {left : List (List UInt8)} {arrived rest payload later : List UInt8}
    (hleft : writeAll left = some (arrived ++ rest))
    (hread : readFramed max arrived = Except.ok (payload, later)) :
    payload.length <= max ∧
      exists left', left = payload :: left' ∧ writeAll left' = some (later ++ rest) := by
  rcases readFramed_ok hread with ⟨hfits, framed, hframed, harrived⟩
  cases left with
  | nil =>
      have hempty : [] = arrived ++ rest := Option.some.inj hleft
      have hlength := congrArg List.length hempty
      rw [harrived, List.length_append, List.length_append, writeFramed_length hframed,
        List.length_nil] at hlength
      omega
  | cons first left =>
      rcases writeAll_cons_some hleft with ⟨framed', stream, hframed', hstream, hsplit⟩
      have hpayload := readFramed_writeFramed max hframed (later ++ rest)
      have hfirst := readFramed_writeFramed max hframed' stream
      have hsame : framed ++ (later ++ rest) = framed' ++ stream := by
        rw [← hsplit, harrived, List.append_assoc]
      rw [if_pos hfits, hsame, hfirst] at hpayload
      split at hpayload
      · cases hpayload
        exact ⟨hfits, left, rfl, hstream⟩
      · cases hpayload

theorem readFramed_cap {arrived : List UInt8} {length cap : Nat}
    (hread : readFramed max arrived = Except.error (ReadError.tooLarge length cap)) :
    cap = max := by
  rcases arrived with _ | ⟨a, _ | ⟨b, _ | ⟨c, _ | ⟨d, arrived⟩⟩⟩⟩
  · cases hread
  · cases hread
  · cases hread
  · cases hread
  · simp only [readFramed] at hread
    split at hread
    · cases hread
      rfl
    · split at hread
      · cases hread
      · split at hread
        · cases hread
        · cases hread

theorem readFramed_front_tooLarge {left : List (List UInt8)} {arrived rest : List UInt8}
    {length : Nat} (hleft : writeAll left = some (arrived ++ rest))
    (hread : readFramed max arrived = Except.error (ReadError.tooLarge length max)) :
    exists payload left', left = payload :: left' ∧ max < payload.length := by
  have hwhole : readFramed max (arrived ++ rest) =
      Except.error (ReadError.tooLarge length max) := by
    rcases arrived with _ | ⟨a, _ | ⟨b, _ | ⟨c, _ | ⟨d, arrived⟩⟩⟩⟩
    · cases hread
    · cases hread
    · cases hread
    · cases hread
    · simp only [readFramed] at hread
      simp only [List.cons_append, readFramed]
      split at hread
      · rename_i hlong
        rw [if_pos hlong]
        exact hread
      · split at hread
        · cases hread
        · split at hread
          · cases hread
          · cases hread
  cases left with
  | nil =>
      have hempty : [] = arrived ++ rest := Option.some.inj hleft
      rw [← hempty] at hwhole
      cases hwhole
  | cons first left =>
      rcases writeAll_cons_some hleft with ⟨framed, stream, hframed, hstream, hsplit⟩
      rw [hsplit, readFramed_writeFramed max hframed stream] at hwhole
      split at hwhole
      · cases hwhole
      · rename_i hlong
        exact ⟨first, left, rfl, Nat.lt_of_not_le hlong⟩

/-- When all of a stream has arrived, only an empty one makes its reader wait. -/
theorem nil_of_readFramed_ended {left : List (List UInt8)} {arrived : List UInt8}
    (hleft : writeAll left = some arrived)
    (hread : readFramed max arrived = Except.error ReadError.streamEnded) : left = [] := by
  cases left with
  | nil => rfl
  | cons first left =>
      rcases writeAll_cons_some hleft with ⟨framed, stream, hframed, hstream, hsplit⟩
      rw [hsplit, readFramed_writeFramed max hframed stream] at hread
      split at hread
      · cases hread
      · cases hread

/-!
## What is carried

The payloads not read yet are, as frames, the bytes arrived, in transit, pending and lost.
-/

structure Carries (p : Pipe) (arrived : List UInt8) (left : List (List UInt8)) : Prop where
  bytes : writeAll left = some (arrived ++ (p.transit ++ (p.pending ++ p.lost)))
  whole : p.stopped = false -> p.lost = []
  closed : p.stopped = true -> p.writable = false

variable {p : Pipe} {arrived : List UInt8} {left : List (List UInt8)}

theorem carries_primed : Carries Pipe.primed [] [[]] where
  bytes := rfl
  whole := fun _ => rfl
  closed := fun h => by cases h

theorem carries_fresh : Carries Pipe.fresh [] [] where
  bytes := rfl
  whole := fun _ => rfl
  closed := fun h => by cases h

theorem put_cases {payload : List UInt8} {p' : Pipe} (h : p.put payload = some p') :
    p.writable = true ∧ exists framed, writeFramed payload = some framed ∧
      p' = { p with written := p.written ++ [payload], pending := p.pending ++ framed } := by
  unfold Pipe.put at h
  split at h
  · rename_i hwritable
    cases hframed : writeFramed payload with
    | none => rw [hframed] at h; cases h
    | some framed =>
        rw [hframed] at h
        exact ⟨hwritable, framed, rfl, (Option.some.inj h).symm⟩
  · cases h

theorem put_written {payload : List UInt8} {p' : Pipe} (h : p.put payload = some p') :
    p'.written = p.written ++ [payload] := by
  rcases put_cases h with ⟨_, framed, _, rfl⟩
  rfl

theorem Carries.not_over (h : Carries p arrived left) (hwritable : p.writable = true) :
    p.stopped = false := by
  cases hstopped : p.stopped with
  | false => rfl
  | true =>
      rw [h.closed hstopped] at hwritable
      cases hwritable

theorem Carries.put (h : Carries p arrived left) {payload : List UInt8} {p' : Pipe}
    (hput : p.put payload = some p') : Carries p' arrived (left ++ [payload]) := by
  rcases put_cases hput with ⟨hwritable, framed, hframed, rfl⟩
  have hstopped := h.not_over hwritable
  constructor
  · have hbytes := writeAll_snoc h.bytes hframed
    rw [hbytes, h.whole hstopped]
    simp only [List.append_assoc, List.append_nil]
  · exact fun _ => h.whole hstopped
  · exact h.closed

theorem Carries.accept (h : Carries p arrived left) (n : Nat) :
    Carries (p.accept n) arrived left := by
  constructor
  · rw [h.bytes]
    show _ = some (arrived ++ ((p.transit ++ p.pending.take n) ++ (p.pending.drop n ++ p.lost)))
    rw [List.append_assoc p.transit, ← List.append_assoc (p.pending.take n),
      List.take_append_drop]
  · exact h.whole
  · exact h.closed

theorem Carries.deliver (h : Carries p arrived left) (n : Nat) :
    Carries (p.deliver n).2 (arrived ++ (p.deliver n).1) left := by
  constructor
  · rw [h.bytes]
    show _ = some (arrived ++ p.transit.take n ++ (p.transit.drop n ++ (p.pending ++ p.lost)))
    rw [List.append_assoc arrived, ← List.append_assoc (p.transit.take n),
      List.take_append_drop]
  · exact h.whole
  · exact h.closed

theorem Carries.finish (h : Carries p arrived left) : Carries p.finish arrived left where
  bytes := h.bytes
  whole := h.whole
  closed := fun _ => rfl

theorem Carries.gone (h : Carries p arrived left) (kept : Nat) :
    Carries (p.gone arrived kept).2 (p.gone arrived kept).1 left := by
  constructor
  · rw [h.bytes]
    show _ = some ((arrived ++ p.transit ++ p.pending).take kept ++
      ([] ++ ([] ++ ((arrived ++ p.transit ++ p.pending).drop kept ++ p.lost))))
    rw [List.nil_append, List.nil_append, ← List.append_assoc (List.take kept _),
      List.take_append_drop, List.append_assoc, List.append_assoc]
  · exact fun hstopped => by cases hstopped
  · exact fun _ => rfl

theorem Carries.read (h : Carries p arrived left) {payload later : List UInt8}
    (hread : readFramed max arrived = Except.ok (payload, later)) :
    payload.length <= max ∧ exists left', left = payload :: left' ∧ Carries p later left' := by
  rcases readFramed_front h.bytes hread with ⟨hfits, left', hleft, hbytes⟩
  exact ⟨hfits, left', hleft, hbytes, h.whole, h.closed⟩

/-- With nothing in transit, pending or lost, a reader that waits has read everything. -/
theorem Carries.nil_of_waiting (h : Carries p arrived left) (hstopped : p.stopped = false)
    (htransit : p.transit = []) (hpending : p.pending = [])
    (hwaits : p.ready max arrived = false) : left = [] := by
  have hbytes := h.bytes
  rw [htransit, hpending, h.whole hstopped] at hbytes
  simp only [List.append_nil] at hbytes
  unfold Pipe.ready at hwaits
  split at hwaits
  · rename_i hread
    exact nil_of_readFramed_ended hbytes hread
  · cases hwaits

end Wire
end PanicMonitr
