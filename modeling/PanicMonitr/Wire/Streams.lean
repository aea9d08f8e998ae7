import Mathlib.Data.List.Basic
import PanicMonitr.Wire.Framing

/-!
# Streams of frames

`_write_framed` and `_read_framed` called again and again on one stream.  The stream is
what is left of it; a failed `read_exact` may leave anything, so what it leaves is a
parameter.
-/

namespace PanicMonitr
namespace Wire

def SHELL_TAG_DATA : UInt8 := 0
def SHELL_TAG_RESIZE : UInt8 := 1
def SHELL_TAG_CLOSE : UInt8 := 2
def SHELL_TAG_EXIT : UInt8 := 3
def SHELL_FRAME_MAX : Nat := 1048576

/-!
## Reading
-/

/-- `read_exact(n)`; `spill` is what a read that raises leaves of the stream. -/
def readExact (spill : List UInt8 -> List UInt8) (n : Nat) (stream : List UInt8) :
    Except ReadError (List UInt8) × List UInt8 :=
  if stream.length < n then (Except.error ReadError.streamEnded, spill stream)
  else (Except.ok (stream.take n), stream.drop n)

/-- `struct.unpack(">I", header)` of the four bytes read. -/
def unpackHeader : List UInt8 -> Nat
  | [a, b, c, d] => unpackLength a b c d
  | _ => 0

/-- `_read_framed(recv_stream, max_size)` with the stream it leaves, however it ends. -/
def recvFramed (spill : List UInt8 -> List UInt8) (max : Nat) (stream : List UInt8) :
    Except ReadError (List UInt8) × List UInt8 :=
  match readExact spill 4 stream with
  | (Except.error error, left) => (Except.error error, left)
  | (Except.ok header, left) =>
      let length := unpackHeader header
      if max < length then (Except.error (ReadError.tooLarge length max), left)
      else if length = 0 then (Except.ok [], left)
      else readExact spill length left

/-- `_read_framed` so many times; the first read that raises ends it. -/
def recvTimes (spill : List UInt8 -> List UInt8) (max : Nat) :
    Nat -> List UInt8 -> Except ReadError (List (List UInt8)) × List UInt8
  | 0, stream => (Except.ok [], stream)
  | k + 1, stream =>
      match recvFramed spill max stream with
      | (Except.error error, left) => (Except.error error, left)
      | (Except.ok payload, left) =>
          match recvTimes spill max k left with
          | (Except.error error, left) => (Except.error error, left)
          | (Except.ok payloads, left) => (Except.ok (payload :: payloads), left)

/-!
## Writing
-/

/-- What a `_write_framed` for each payload writes, unless one raises. -/
def writeAll : List (List UInt8) -> Option (List UInt8)
  | [] => some []
  | payload :: payloads =>
      match writeFramed payload, writeAll payloads with
      | some framed, some stream => some (framed ++ stream)
      | _, _ => none

@[simp] theorem writeAll_nil : writeAll [] = some [] := rfl

theorem writeAll_cons {payload framed stream : List UInt8} {payloads : List (List UInt8)}
    (hframed : writeFramed payload = some framed) (hstream : writeAll payloads = some stream) :
    writeAll (payload :: payloads) = some (framed ++ stream) := by
  simp only [writeAll, hframed, hstream]

theorem writeAll_cons_some {payload stream : List UInt8} {payloads : List (List UInt8)}
    (h : writeAll (payload :: payloads) = some stream) :
    exists framed rest, writeFramed payload = some framed ∧ writeAll payloads = some rest ∧
      stream = framed ++ rest := by
  simp only [writeAll] at h
  cases hframed : writeFramed payload with
  | none => simp [hframed] at h
  | some framed =>
      cases hrest : writeAll payloads with
      | none => simp [hframed, hrest] at h
      | some rest =>
          rw [hframed, hrest] at h
          exact ⟨framed, rest, rfl, rfl, (Option.some.inj h).symm⟩

theorem writeFramed_of_length {payload : List UInt8} (h : payload.length < 2 ^ 32) :
    exists framed, writeFramed payload = some framed := by
  unfold writeFramed packLength
  rw [if_pos h]
  exact ⟨_, rfl⟩

theorem writeAll_of_length {payloads : List (List UInt8)}
    (h : forall payload, payload ∈ payloads -> payload.length < 2 ^ 32) :
    exists stream, writeAll payloads = some stream := by
  induction payloads with
  | nil => exact ⟨[], rfl⟩
  | cons payload payloads ih =>
      rcases writeFramed_of_length (h payload (List.mem_cons_self ..)) with ⟨framed, hframed⟩
      rcases ih (fun p hp => h p (List.mem_cons_of_mem payload hp)) with ⟨stream, hstream⟩
      exact ⟨framed ++ stream, writeAll_cons hframed hstream⟩

/-!
## One read
-/

variable {spill : List UInt8 -> List UInt8} {max : Nat}

theorem readExact_ok {n : Nat} {stream : List UInt8} (h : n <= stream.length) :
    readExact spill n stream = (Except.ok (stream.take n), stream.drop n) :=
  if_neg (Nat.not_lt.mpr h)

theorem readExact_short {n : Nat} {stream : List UInt8} (h : stream.length < n) :
    readExact spill n stream = (Except.error ReadError.streamEnded, spill stream) :=
  if_pos h

theorem recvFramed_short {stream : List UInt8} (h : stream.length < 4) :
    recvFramed spill max stream = (Except.error ReadError.streamEnded, spill stream) := by
  unfold recvFramed
  rw [readExact_short h]

/-- With a whole header, what happens depends on the length it announces. -/
theorem recvFramed_header (a b c d : UInt8) (rest : List UInt8) :
    recvFramed spill max (a :: b :: c :: d :: rest) =
      if max < unpackLength a b c d then
        (Except.error (ReadError.tooLarge (unpackLength a b c d) max), rest)
      else if unpackLength a b c d = 0 then (Except.ok [], rest)
      else readExact spill (unpackLength a b c d) rest := by
  unfold recvFramed
  rw [readExact_ok (by simp)]
  rfl

/-- The reader with the stream it leaves succeeds as `readFramed` does. -/
theorem recvFramed_ok_iff {stream payload left : List UInt8} :
    recvFramed spill max stream = (Except.ok payload, left) <->
      readFramed max stream = Except.ok (payload, left) := by
  by_cases hshort : stream.length < 4
  · rw [recvFramed_short hshort]
    rcases stream with _ | ⟨a, _ | ⟨b, _ | ⟨c, _ | ⟨d, rest⟩⟩⟩⟩
    · simp [readFramed]
    · simp [readFramed]
    · simp [readFramed]
    · simp [readFramed]
    · exact absurd hshort (by simp)
  · rcases stream with _ | ⟨a, _ | ⟨b, _ | ⟨c, _ | ⟨d, rest⟩⟩⟩⟩
    · exact absurd (by simp) hshort
    · exact absurd (by simp) hshort
    · exact absurd (by simp) hshort
    · exact absurd (by simp) hshort
    · rw [recvFramed_header]
      simp only [readFramed, readExact]
      split
      · simp
      · split
        · simp
        · split <;> simp

theorem packLength_unpackLength (a b c d : UInt8) :
    packLength (unpackLength a b c d) = some [a, b, c, d] := by
  have ha := a.toNat_lt
  have hb := b.toNat_lt
  have hc := c.toNat_lt
  have hd := d.toNat_lt
  have byte : forall (n : Nat) (x : UInt8), n % 2 ^ 8 = x.toNat -> UInt8.ofNat n = x := by
    intro n x h
    apply UInt8.toNat_inj.mp
    rw [UInt8.toNat_ofNat']
    exact h
  unfold packLength unpackLength
  rw [if_pos (by omega)]
  rw [byte _ a (by omega), byte _ b (by omega), byte _ c (by omega), byte _ d (by omega)]

theorem readFramed_ok {stream payload left : List UInt8}
    (h : readFramed max stream = Except.ok (payload, left)) :
    payload.length <= max ∧
      exists framed, writeFramed payload = some framed ∧ stream = framed ++ left := by
  rcases stream with _ | ⟨a, _ | ⟨b, _ | ⟨c, _ | ⟨d, rest⟩⟩⟩⟩
  · cases h
  · cases h
  · cases h
  · cases h
  · simp only [readFramed] at h
    split at h
    · cases h
    · rename_i hfits
      have hheader := packLength_unpackLength a b c d
      split at h
      · rename_i hempty
        cases h
        rw [hempty] at hheader
        refine ⟨Nat.zero_le max, [a, b, c, d], ?_, rfl⟩
        unfold writeFramed
        rw [List.length_nil, hheader]
        rfl
      · split at h
        · cases h
        · rename_i hlong
          cases h
          have hlength : (rest.take (unpackLength a b c d)).length = unpackLength a b c d := by
            rw [List.length_take]
            exact Nat.min_eq_left (Nat.le_of_not_lt hlong)
          refine ⟨?_, [a, b, c, d] ++ rest.take (unpackLength a b c d), ?_, ?_⟩
          · rw [hlength]
            exact Nat.le_of_not_lt hfits
          · unfold writeFramed
            rw [hlength, hheader]
            rfl
          · rw [List.append_assoc, List.take_append_drop]
            rfl

theorem recvFramed_framed {payload framed : List UInt8} (h : writeFramed payload = some framed)
    (hfits : payload.length <= max) (rest : List UInt8) :
    recvFramed spill max (framed ++ rest) = (Except.ok payload, rest) := by
  rw [recvFramed_ok_iff, readFramed_writeFramed max h rest, if_pos hfits]

theorem recvFramed_cut {payload framed : List UInt8} (h : writeFramed payload = some framed)
    {cut : Nat} (hcut : cut < framed.length) (got left : List UInt8) :
    recvFramed spill max (framed.take cut) ≠ (Except.ok got, left) := by
  intro hgot
  rcases readFramed_ok (recvFramed_ok_iff.mp hgot) with ⟨hfits, framed', hframed', hsplit⟩
  -- the frame that was read stands at the front of the whole frame as well
  have hwhole : framed = framed' ++ (left ++ framed.drop cut) := by
    rw [← List.append_assoc, ← hsplit, List.take_append_drop]
  have hread := readFramed_writeFramed max hframed' (left ++ framed.drop cut)
  rw [← hwhole, if_pos hfits] at hread
  have hread' := readFramed_writeFramed max h []
  rw [List.append_nil, hread] at hread'
  split at hread'
  · have hrest : left ++ framed.drop cut = [] := (Prod.mk.inj (Except.ok.inj hread')).right
    have hdrop : framed.length <= cut :=
      List.drop_eq_nil_iff.mp (List.append_eq_nil_iff.mp hrest).right
    omega
  · cases hread'

/-!
## Repeated reads
-/

def prepend (payloads : List (List UInt8))
    (read : Except ReadError (List (List UInt8)) × List UInt8) :
    Except ReadError (List (List UInt8)) × List UInt8 :=
  (read.1.map (fun later => payloads ++ later), read.2)

@[simp] theorem prepend_nil (read : Except ReadError (List (List UInt8)) × List UInt8) :
    prepend [] read = read := by
  rcases read with ⟨error | payloads, left⟩
  · rfl
  · rfl

theorem prepend_prepend (payloads payloads' : List (List UInt8))
    (read : Except ReadError (List (List UInt8)) × List UInt8) :
    prepend payloads (prepend payloads' read) = prepend (payloads ++ payloads') read := by
  rcases read with ⟨error | later, left⟩
  · rfl
  · simp [prepend, Except.map]

theorem recvTimes_succ_ok {stream payload left : List UInt8}
    (h : recvFramed spill max stream = (Except.ok payload, left)) (k : Nat) :
    recvTimes spill max (k + 1) stream = prepend [payload] (recvTimes spill max k left) := by
  simp only [recvTimes, h]
  rcases recvTimes spill max k left with ⟨error | payloads, left'⟩
  · rfl
  · rfl

theorem recvTimes_succ_error {stream left : List UInt8} {error : ReadError}
    (h : recvFramed spill max stream = (Except.error error, left)) (k : Nat) :
    recvTimes spill max (k + 1) stream = (Except.error error, left) := by
  simp only [recvTimes, h]

/-- The frames at the front are read first; then the reads go on behind them. -/
theorem recvTimes_append {payloads : List (List UInt8)} {stream : List UInt8}
    (hstream : writeAll payloads = some stream)
    (hfits : forall payload, payload ∈ payloads -> payload.length <= max)
    (k : Nat) (rest : List UInt8) :
    recvTimes spill max (payloads.length + k) (stream ++ rest) =
      prepend payloads (recvTimes spill max k rest) := by
  induction payloads generalizing stream with
  | nil =>
      cases hstream
      rw [List.length_nil, Nat.zero_add, List.nil_append, prepend_nil]
  | cons payload payloads ih =>
      rcases writeAll_cons_some hstream with ⟨framed, stream', hframed, hstream', rfl⟩
      have hread : recvFramed spill max (framed ++ stream' ++ rest) =
          (Except.ok payload, stream' ++ rest) := by
        rw [List.append_assoc]
        exact recvFramed_framed hframed (hfits payload (List.mem_cons_self ..)) _
      have hlater := ih hstream' (fun p hp => hfits p (List.mem_cons_of_mem payload hp))
      rw [List.length_cons, Nat.add_right_comm, recvTimes_succ_ok hread, hlater,
        prepend_prepend]
      rfl

theorem recvTimes_writeAll {payloads : List (List UInt8)} {stream : List UInt8}
    (hstream : writeAll payloads = some stream)
    (hfits : forall payload, payload ∈ payloads -> payload.length <= max) :
    recvTimes spill max payloads.length stream = (Except.ok payloads, []) := by
  have hread : recvTimes spill max (payloads.length + 0) (stream ++ []) =
      prepend payloads (recvTimes spill max 0 []) := recvTimes_append hstream hfits 0 []
  rw [Nat.add_zero, List.append_nil] at hread
  rw [hread]
  simp [recvTimes, prepend, Except.map]

theorem recvTimes_ok {k : Nat} {stream left : List UInt8} {payloads : List (List UInt8)}
    (h : recvTimes spill max k stream = (Except.ok payloads, left)) :
    payloads.length = k ∧ (forall payload, payload ∈ payloads -> payload.length <= max) ∧
      exists consumed, writeAll payloads = some consumed ∧ stream = consumed ++ left := by
  induction k generalizing stream payloads with
  | zero =>
      cases h
      exact ⟨rfl, by simp, [], rfl, rfl⟩
  | succ k ih =>
      rcases hread : recvFramed spill max stream with ⟨error | payload, left'⟩
      · rw [recvTimes_succ_error hread] at h
        cases h
      · rw [recvTimes_succ_ok hread] at h
        rcases hlater : recvTimes spill max k left' with ⟨error | later, left''⟩
        · rw [hlater] at h
          cases h
        · rw [hlater] at h
          cases h
          rcases readFramed_ok (recvFramed_ok_iff.mp hread) with ⟨hfits, framed, hframed, hsplit⟩
          rcases ih hlater with ⟨hlength, hall, consumed, hconsumed, hrest⟩
          refine ⟨by rw [List.length_append, hlength]; exact Nat.add_comm .., ?_,
            framed ++ consumed, writeAll_cons hframed hconsumed, ?_⟩
          · intro p hp
            rcases List.mem_cons.mp hp with rfl | hp
            · exact hfits
            · exact hall p hp
          · rw [hsplit, hrest, List.append_assoc]

theorem recvTimes_unreadable {payloads : List (List UInt8)} {stream rest : List UInt8}
    (hstream : writeAll payloads = some stream)
    (hrest : forall got left, recvFramed spill max rest ≠ (Except.ok got, left))
    {k : Nat} {got : List (List UInt8)} {left : List UInt8}
    (h : recvTimes spill max k (stream ++ rest) = (Except.ok got, left)) :
    k <= payloads.length ∧ got = payloads.take k := by
  induction payloads generalizing stream k got with
  | nil =>
      cases hstream
      cases k with
      | zero =>
          cases h
          exact ⟨Nat.le_refl 0, rfl⟩
      | succ k =>
          rw [List.nil_append] at h
          rcases hread : recvFramed spill max rest with ⟨error | payload, left'⟩
          · rw [recvTimes_succ_error hread] at h
            cases h
          · exact absurd hread (hrest payload left')
  | cons payload payloads ih =>
      cases k with
      | zero =>
          cases h
          exact ⟨Nat.zero_le _, rfl⟩
      | succ k =>
          rcases writeAll_cons_some hstream with ⟨framed, stream', hframed, hstream', rfl⟩
          rcases hread : recvFramed spill max (framed ++ stream' ++ rest) with
            ⟨error | first, left'⟩
          · rw [recvTimes_succ_error hread] at h
            cases h
          · have hfirst := recvFramed_ok_iff.mp hread
            rw [List.append_assoc, readFramed_writeFramed max hframed] at hfirst
            split at hfirst
            · cases hfirst
              rw [recvTimes_succ_ok hread] at h
              rcases hlater : recvTimes spill max k (stream' ++ rest) with
                ⟨error | later, left''⟩
              · rw [hlater] at h
                cases h
              · rw [hlater] at h
                cases h
                rcases ih hstream' hlater with ⟨hk, hlater⟩
                exact ⟨Nat.succ_le_succ hk, by rw [hlater]; rfl⟩
            · cases hfirst

/--
Framing is a bijection between lists of payloads and the streams read to their end, and
nothing of a frame is yielded before all of it has arrived.
-/
theorem framing_bijection (spill : List UInt8 -> List UInt8) (max : Nat) :
    (max < 2 ^ 32 -> forall payloads : List (List UInt8),
      (forall payload, payload ∈ payloads -> payload.length <= max) ->
      exists stream, writeAll payloads = some stream ∧
        recvTimes spill max payloads.length stream = (Except.ok payloads, []) ∧
        recvTimes spill max (payloads.length + 1) stream =
          (Except.error ReadError.streamEnded, spill [])) ∧
    (forall (stream left : List UInt8) (k : Nat) (payloads : List (List UInt8)),
      recvTimes spill max k stream = (Except.ok payloads, left) ->
      payloads.length = k ∧
        exists consumed, writeAll payloads = some consumed ∧ stream = consumed ++ left) ∧
    (forall (a b c d : UInt8) (rest : List UInt8), max < unpackLength a b c d ->
      recvFramed spill max (a :: b :: c :: d :: rest) =
        (Except.error (ReadError.tooLarge (unpackLength a b c d) max), rest)) ∧
    (forall (payloads : List (List UInt8)) (payload stream framed : List UInt8) (cut : Nat),
      writeAll payloads = some stream -> writeFramed payload = some framed ->
      cut < framed.length -> forall k got left,
      recvTimes spill max k (stream ++ framed.take cut) = (Except.ok got, left) ->
        k <= payloads.length ∧ got = payloads.take k) := by
  refine ⟨?_, ?_, ?_, ?_⟩
  · intro hmax payloads hfits
    rcases writeAll_of_length (fun p hp => Nat.lt_of_le_of_lt (hfits p hp) hmax) with
      ⟨stream, hstream⟩
    refine ⟨stream, hstream, recvTimes_writeAll hstream hfits, ?_⟩
    have hread : recvTimes spill max (payloads.length + 1) (stream ++ []) =
        prepend payloads (recvTimes spill max 1 []) := recvTimes_append hstream hfits 1 []
    have hend : recvFramed spill max [] = (Except.error ReadError.streamEnded, spill []) :=
      recvFramed_short (by decide)
    rw [List.append_nil, recvTimes_succ_error hend] at hread
    exact hread
  · intro stream left k payloads h
    rcases recvTimes_ok h with ⟨hlength, _, hconsumed⟩
    exact ⟨hlength, hconsumed⟩
  · intro a b c d rest h
    rw [recvFramed_header, if_pos h]
  · intro payloads payload stream framed cut hstream hframed hcut k got left h
    exact recvTimes_unreadable hstream (recvFramed_cut hframed hcut) h

theorem framing_bijection_two :
    (exists stream, writeAll [[7, 8], []] = some stream ∧
      recvTimes id 2 2 stream = (Except.ok [[7, 8], []], []) ∧
      recvTimes id 2 3 stream = (Except.error ReadError.streamEnded, [])) ∧
    (exists consumed, writeAll [[7]] = some consumed ∧ [0, 0, 0, 1, 7, 9] = consumed ++ [9]) ∧
    recvFramed id 1 [0, 0, 0, 2, 7, 8] = (Except.error (ReadError.tooLarge 2 1), [7, 8]) ∧
    (1 <= [([] : List UInt8)].length ∧ [([] : List UInt8)] = [[]].take 1) := by
  have hall := framing_bijection id 2
  refine ⟨hall.left (by decide) [[7, 8], []] (by decide), ?_, ?_, ?_⟩
  · exact (hall.right.left [0, 0, 0, 1, 7, 9] [9] 1 [[7]]
      (by simp [recvTimes, recvFramed, readExact, unpackHeader, unpackLength])).right
  · exact (framing_bijection id 1).right.right.left 0 0 0 2 [7, 8] (by decide)
  · exact hall.right.right.right [[]] [7, 8] [0, 0, 0, 0] [0, 0, 0, 2, 7, 8] 5 rfl rfl
      (by decide) 1 [[]] [0, 0, 0, 2, 7]
      (by simp [recvTimes, recvFramed, readExact, unpackHeader, unpackLength])

end Wire
end PanicMonitr
