import PanicMonitr.Foundation.Machine
import PanicMonitr.Wire.Streams

/-!
# The input pump of a shell

Frames from the peer are written to the pty or set its window size.  The pty does not
block: a write may take a part of what is offered, or nothing for now, or fail.
-/

namespace PanicMonitr
namespace Shell

open Foundation
open Wire

/-!
## The pump
-/

/-- What the pty sees: bytes, and the rows and columns `ioctl` is called with. -/
inductive PtyEffect where
  | byte (b : UInt8)
  | resize (size : Nat × Nat)
  deriving DecidableEq

def PtyEffect.byte? : PtyEffect -> Option UInt8
  | byte b => some b
  | resize _ => none

def PtyEffect.size? : PtyEffect -> Option (Nat × Nat)
  | byte _ => none
  | resize size => some size

/--
What `os.write` does: it takes this many bytes and one more, as far as there are so many,
or raises `BlockingIOError`, or raises another `OSError`.
-/
inductive WriteResult where
  | accepts (more : Nat)
  | blocks
  | raises
  deriving DecidableEq

/-- `_read_framed`, or the loop of `_pty_write_all` with what remains of the data. -/
inductive InputPhase where
  | reading
  | writing (remaining : List UInt8)
  | ended
  deriving DecidableEq

/--
The bytes still to come from the peer, the `await` the pump is at, and what the pty has
seen; `raised` counts the writes that failed.
-/
structure InputPump where
  stream : List UInt8
  phase : InputPhase
  effects : List PtyEffect
  raised : Nat

namespace InputPump

/-- `while mv:` of `_pty_write_all`; without data the next frame is read. -/
def offer (s : InputPump) (remaining : List UInt8) : InputPump :=
  { s with
    phase := if remaining = [] then InputPhase.reading else InputPhase.writing remaining }

def dispatch (s : InputPump) : List UInt8 -> InputPump
  | [] => s
  | tag :: body =>
      if tag = SHELL_TAG_DATA then s.offer body
      else if tag = SHELL_TAG_RESIZE then
        match body with
        | a :: b :: c :: d :: _ =>
            { s with
              effects := s.effects ++
                [PtyEffect.resize (a.toNat * 256 + b.toNat, c.toNat * 256 + d.toNat)] }
        | _ => s
      else if tag = SHELL_TAG_CLOSE then { s with phase := InputPhase.ended }
      else s

def readFrame (s : InputPump) : InputPump :=
  match readFramed SHELL_FRAME_MAX s.stream with
  | Except.error _ => { s with phase := InputPhase.ended }
  | Except.ok (frame, rest) => { s with stream := rest }.dispatch frame

/-- One turn of the loop of `_pty_write_all`. -/
def write (s : InputPump) (remaining : List UInt8) : WriteResult -> InputPump
  | WriteResult.accepts more =>
      { s with effects := s.effects ++ (remaining.take (more + 1)).map PtyEffect.byte }.offer
        (remaining.drop (more + 1))
  | WriteResult.blocks => s
  | WriteResult.raises => { s with phase := InputPhase.reading, raised := s.raised + 1 }

/-- The pump goes on; `result` is what a write does, should it write. -/
def step (s : InputPump) (result : WriteResult) : InputPump :=
  match s.phase with
  | InputPhase.reading => s.readFrame
  | InputPhase.writing remaining => s.write remaining result
  | InputPhase.ended => s

end InputPump

def InputPump.started (stream : List UInt8) : InputPump where
  stream := stream
  phase := InputPhase.reading
  effects := []
  raised := 0

def inputPump (stream : List UInt8) : Machine InputPump WriteResult where
  start s := s = InputPump.started stream
  step := InputPump.step

/-!
## What the frames ask for
-/

def dataBody : List UInt8 -> List UInt8
  | [] => []
  | tag :: body => if tag = SHELL_TAG_DATA then body else []

def windowSize : List UInt8 -> Option (Nat × Nat)
  | tag :: a :: b :: c :: d :: _ =>
      if tag = SHELL_TAG_RESIZE then
        some (a.toNat * 256 + b.toNat, c.toNat * 256 + d.toNat)
      else none
  | _ => none

def frameEffects (frame : List UInt8) : List PtyEffect :=
  (dataBody frame).map PtyEffect.byte ++ (windowSize frame).toList.map PtyEffect.resize

def isClose (frame : List UInt8) : Bool :=
  frame.head? = some SHELL_TAG_CLOSE

def openFrames (frames : List (List UInt8)) : List (List UInt8) :=
  frames.takeWhile (fun frame => !isClose frame)

/--
What the pty saw of a frame: all of it, or where a write failed, a part of the data from
its beginning.
-/
inductive Relayed : List UInt8 -> List PtyEffect -> Bool -> Prop where
  | whole (frame : List UInt8) : Relayed frame (frameEffects frame) false
  | cut (written lost : List UInt8) :
      Relayed (SHELL_TAG_DATA :: (written ++ lost)) (written.map PtyEffect.byte) true

structure Relay where
  frame : List UInt8
  effects : List PtyEffect
  cut : Bool
  relayed : Relayed frame effects cut

def Relay.ofFrame (frame : List UInt8) : Relay where
  frame := frame
  effects := frameEffects frame
  cut := false
  relayed := Relayed.whole frame

def Relay.ofCut (written lost : List UInt8) : Relay where
  frame := SHELL_TAG_DATA :: (written ++ lost)
  effects := written.map PtyEffect.byte
  cut := true
  relayed := Relayed.cut written lost

theorem openFrames_append {front : List (List UInt8)}
    (h : forall frame, frame ∈ front -> isClose frame = false) (back : List (List UInt8)) :
    openFrames (front ++ back) = front ++ openFrames back := by
  unfold openFrames
  exact List.takeWhile_append_of_pos (fun frame hframe => by rw [h frame hframe]; rfl)

theorem openFrames_close {frame : List UInt8} (h : isClose frame = true)
    (back : List (List UInt8)) : openFrames (frame :: back) = [] := by
  unfold openFrames
  rw [List.takeWhile_cons_of_neg (by rw [h]; exact Bool.false_ne_true)]

theorem openFrames_open {frame : List UInt8} (h : isClose frame = false)
    (back : List (List UInt8)) : openFrames (frame :: back) = frame :: openFrames back := by
  unfold openFrames
  rw [List.takeWhile_cons_of_pos (by rw [h]; rfl)]

@[simp] theorem dataBody_data (body : List UInt8) :
    dataBody (SHELL_TAG_DATA :: body) = body := by
  show (if SHELL_TAG_DATA = SHELL_TAG_DATA then body else []) = body
  exact if_pos rfl

@[simp] theorem windowSize_data (body : List UInt8) :
    windowSize (SHELL_TAG_DATA :: body) = none := by
  rcases body with _ | ⟨a, _ | ⟨b, _ | ⟨c, _ | ⟨d, rest⟩⟩⟩⟩
  · rfl
  · rfl
  · rfl
  · rfl
  · unfold windowSize
    exact if_neg (by decide)

theorem isClose_data (body : List UInt8) : isClose (SHELL_TAG_DATA :: body) = false := rfl

theorem frameEffects_data (body : List UInt8) :
    frameEffects (SHELL_TAG_DATA :: body) = body.map PtyEffect.byte := by
  unfold frameEffects
  rw [dataBody_data, windowSize_data]
  exact List.append_nil _

theorem frameEffects_unknown {tag : UInt8} (hdata : tag ≠ SHELL_TAG_DATA)
    (hresize : tag ≠ SHELL_TAG_RESIZE) (body : List UInt8) : frameEffects (tag :: body) = [] := by
  have hbody : dataBody (tag :: body) = [] := by
    unfold dataBody
    exact if_neg hdata
  have hsize : windowSize (tag :: body) = none := by
    rcases body with _ | ⟨a, _ | ⟨b, _ | ⟨c, _ | ⟨d, rest⟩⟩⟩⟩
    · rfl
    · rfl
    · rfl
    · rfl
    · unfold windowSize
      exact if_neg hresize
  unfold frameEffects
  rw [hbody, hsize]
  rfl

theorem bytes_map (data : List UInt8) :
    (data.map PtyEffect.byte).filterMap PtyEffect.byte? = data := by
  rw [List.filterMap_map]
  exact List.filterMap_some

theorem sizes_map (data : List UInt8) :
    (data.map PtyEffect.byte).filterMap PtyEffect.size? = [] := by
  rw [List.filterMap_map]
  exact List.filterMap_none data

theorem frameEffects_bytes (frame : List UInt8) :
    (frameEffects frame).filterMap PtyEffect.byte? = dataBody frame := by
  unfold frameEffects
  rw [List.filterMap_append, bytes_map, List.filterMap_map]
  exact (congrArg _ (List.filterMap_none _)).trans (List.append_nil _)

theorem frameEffects_sizes (frame : List UInt8) :
    (frameEffects frame).filterMap PtyEffect.size? = (windowSize frame).toList := by
  unfold frameEffects
  rw [List.filterMap_append, sizes_map, List.nil_append, List.filterMap_map]
  exact List.filterMap_some

theorem Relay.sizes (relay : Relay) :
    relay.effects.filterMap PtyEffect.size? = (windowSize relay.frame).toList := by
  rcases relay with ⟨frame, effects, cut, hrelayed⟩
  cases hrelayed with
  | whole => exact frameEffects_sizes frame
  | cut written lost =>
      show (written.map PtyEffect.byte).filterMap PtyEffect.size? = _
      rw [sizes_map, windowSize_data]
      rfl

theorem relays_whole {relays : List Relay} (h : relays.countP Relay.cut = 0) :
    relays.flatMap Relay.effects = (relays.map Relay.frame).flatMap frameEffects := by
  induction relays with
  | nil => rfl
  | cons relay relays ih =>
      rcases relay with ⟨frame, effects, cut, hrelayed⟩
      cases hrelayed with
      | whole =>
          rw [List.countP_cons_of_neg (by exact Bool.false_ne_true)] at h
          rw [List.flatMap_cons, List.map_cons, List.flatMap_cons, ih h]
      | cut written lost =>
          rw [List.countP_cons_of_pos rfl] at h
          exact absurd h (Nat.succ_ne_zero _)

theorem relays_sizes (relays : List Relay) :
    (relays.flatMap Relay.effects).filterMap PtyEffect.size? =
      (relays.map Relay.frame).filterMap windowSize := by
  induction relays with
  | nil => rfl
  | cons relay relays ih =>
      rw [List.flatMap_cons, List.filterMap_append, relay.sizes, ih, List.map_cons,
        List.filterMap_cons]
      cases windowSize relay.frame with
      | none => rfl
      | some size => rfl

/-!
## One step
-/

variable {frames left : List (List UInt8)} {relays : List Relay} {s : InputPump}

namespace InputPump

theorem offer_of_ne {remaining : List UInt8} (h : remaining ≠ []) (s : InputPump) :
    s.offer remaining = { s with phase := InputPhase.writing remaining } := by
  unfold offer
  rw [if_neg h]

theorem offer_nil (s : InputPump) : s.offer [] = { s with phase := InputPhase.reading } := rfl

theorem dispatch_cases (hreading : s.phase = InputPhase.reading) (frame : List UInt8) :
    (isClose frame = true ∧ s.dispatch frame = { s with phase := InputPhase.ended }) ∨
    (isClose frame = false ∧
      s.dispatch frame = { s with effects := s.effects ++ frameEffects frame }) ∨
    (exists data, data ≠ [] ∧ frame = SHELL_TAG_DATA :: data ∧
      s.dispatch frame = { s with phase := InputPhase.writing data }) := by
  cases frame with
  | nil =>
      refine Or.inr (Or.inl ⟨rfl, ?_⟩)
      show s = { s with effects := s.effects ++ [] }
      rw [List.append_nil]
  | cons tag body =>
      by_cases hdata : tag = SHELL_TAG_DATA
      · subst hdata
        have hdispatch : s.dispatch (SHELL_TAG_DATA :: body) = s.offer body := by
          unfold dispatch
          exact if_pos rfl
        by_cases hempty : body = []
        · subst hempty
          refine Or.inr (Or.inl ⟨rfl, ?_⟩)
          rw [hdispatch, offer_nil, frameEffects_data, <- hreading, List.map_nil,
            List.append_nil]
        · refine Or.inr (Or.inr ⟨body, hempty, rfl, ?_⟩)
          rw [hdispatch, offer_of_ne hempty]
      · by_cases hresize : tag = SHELL_TAG_RESIZE
        · subst hresize
          refine Or.inr (Or.inl ⟨rfl, ?_⟩)
          rcases body with _ | ⟨a, _ | ⟨b, _ | ⟨c, _ | ⟨d, rest⟩⟩⟩⟩
          · exact (congrArg (fun es => { s with effects := es }) (List.append_nil _)).symm
          · exact (congrArg (fun es => { s with effects := es }) (List.append_nil _)).symm
          · exact (congrArg (fun es => { s with effects := es }) (List.append_nil _)).symm
          · exact (congrArg (fun es => { s with effects := es }) (List.append_nil _)).symm
          · rfl
        · by_cases hclose : tag = SHELL_TAG_CLOSE
          · subst hclose
            exact Or.inl ⟨rfl, rfl⟩
          · refine Or.inr (Or.inl ⟨?_, ?_⟩)
            · simp [isClose, hclose]
            · have hdispatch : s.dispatch (tag :: body) = s := by
                simp only [dispatch]
                rw [if_neg hdata, if_neg hresize, if_neg hclose]
              rw [hdispatch, frameEffects_unknown hdata hresize, List.append_nil]

end InputPump

/-!
## The frames done with, and the one being written
-/

/-- Where the pump is: behind the frames relayed, or in one after what is written of it. -/
def Stage (frames left : List (List UInt8)) (relays : List Relay) (effects : List PtyEffect) :
    InputPhase -> Prop
  | InputPhase.reading =>
      frames = relays.map Relay.frame ++ left ∧ effects = relays.flatMap Relay.effects
  | InputPhase.writing remaining =>
      remaining ≠ [] ∧ exists written,
        frames = relays.map Relay.frame ++
          (SHELL_TAG_DATA :: (written ++ remaining)) :: left ∧
        effects = relays.flatMap Relay.effects ++ written.map PtyEffect.byte
  | InputPhase.ended =>
      openFrames frames = relays.map Relay.frame ∧ effects = relays.flatMap Relay.effects

/-- The frames relayed, and the frames whose encoding the stream still holds. -/
structure Carried (frames left : List (List UInt8)) (relays : List Relay) (s : InputPump) :
    Prop where
  unread : writeAll left = some s.stream
  raised : s.raised = relays.countP Relay.cut
  opened : forall relay, relay ∈ relays -> isClose relay.frame = false
  stage : Stage frames left relays s.effects s.phase

section Carried

theorem Carried.opened_frames (h : Carried frames left relays s) {frame : List UInt8}
    (hframe : frame ∈ relays.map Relay.frame) : isClose frame = false := by
  rcases List.mem_map.mp hframe with ⟨relay, hrelay, rfl⟩
  exact h.opened relay hrelay

theorem carried_started {stream : List UInt8} (hstream : writeAll frames = some stream) :
    Carried frames frames [] (InputPump.started stream) where
  unread := hstream
  raised := rfl
  opened := fun _ hrelay => absurd hrelay List.not_mem_nil
  stage := ⟨rfl, rfl⟩

theorem Carried.snoc {relay : Relay}
    (hopened : forall relay, relay ∈ relays -> isClose relay.frame = false)
    (hopen : isClose relay.frame = false)
    (hframes : frames = relays.map Relay.frame ++ relay.frame :: left)
    (hunread : writeAll left = some s.stream) (hphase : s.phase = InputPhase.reading)
    (heffects : s.effects = relays.flatMap Relay.effects ++ relay.effects)
    (hraised : s.raised = relays.countP Relay.cut + [relay].countP Relay.cut) :
    Carried frames left (relays ++ [relay]) s where
  unread := hunread
  raised := by rw [List.countP_append, hraised]
  opened := by
    intro r hr
    rcases List.mem_append.mp hr with hr | hr
    · exact hopened r hr
    · rw [List.mem_singleton.mp hr]
      exact hopen
  stage := by
    rw [hphase]
    constructor
    · rw [List.map_append, List.append_assoc]
      exact hframes
    · rw [List.flatMap_append, List.flatMap_singleton]
      exact heffects

theorem Carried.readFrame (h : Carried frames left relays s)
    (hreading : s.phase = InputPhase.reading)
    (hfits : forall frame, frame ∈ frames -> frame.length <= SHELL_FRAME_MAX) :
    exists left' relays', Carried frames left' relays' s.readFrame := by
  have hstage := h.stage
  rw [hreading] at hstage
  rcases hstage with ⟨hframes, heffects⟩
  cases left with
  | nil =>
      have hempty : s.stream = [] := (Option.some.inj h.unread).symm
      have hend : s.readFrame = { s with phase := InputPhase.ended } := by
        unfold InputPump.readFrame
        rw [hempty]
        rfl
      rw [hend]
      refine ⟨[], relays, h.unread, h.raised, h.opened, ?_, heffects⟩
      rw [hframes, openFrames_append (fun frame => h.opened_frames)]
      exact List.append_nil _
  | cons frame left =>
      rcases writeAll_cons_some h.unread with ⟨framed, rest, hframed, hrest, hstream⟩
      have hfit := hfits frame (by rw [hframes]; simp)
      have hread : s.readFrame = { s with stream := rest }.dispatch frame := by
        unfold InputPump.readFrame
        rw [hstream, readFramed_writeFramed SHELL_FRAME_MAX hframed rest, if_pos hfit]
      rw [hread]
      rcases InputPump.dispatch_cases (s := { s with stream := rest }) hreading frame with
        ⟨hclose, hnext⟩ | ⟨hopen, hnext⟩ | ⟨data, hdata, hframe, hnext⟩
      · rw [hnext]
        refine ⟨left, relays, hrest, h.raised, h.opened, ?_, heffects⟩
        rw [hframes, openFrames_append (fun frame => h.opened_frames), openFrames_close hclose,
          List.append_nil]
      · rw [hnext]
        refine ⟨left, relays ++ [Relay.ofFrame frame], ?_⟩
        refine Carried.snoc h.opened hopen hframes hrest hreading ?_ h.raised
        show s.effects ++ frameEffects frame = _
        rw [heffects]
        rfl
      · rw [hnext]
        refine ⟨left, relays, hrest, h.raised, h.opened, hdata, [], ?_, ?_⟩
        · rw [hframes, hframe]
          rfl
        · show s.effects = _
          rw [heffects]
          exact (List.append_nil _).symm

/-- One turn of the write loop keeps what is written in front of what remains. -/
theorem Carried.write (h : Carried frames left relays s) {remaining : List UInt8}
    (hwriting : s.phase = InputPhase.writing remaining) (result : WriteResult) :
    exists relays', Carried frames left relays' (s.write remaining result) := by
  have hstage := h.stage
  rw [hwriting] at hstage
  rcases hstage with ⟨hne, written, hframes, heffects⟩
  cases result with
  | accepts more =>
      have hsplit := List.take_append_drop (more + 1) remaining
      by_cases hdone : remaining.drop (more + 1) = []
      · refine ⟨relays ++ [Relay.ofFrame (SHELL_TAG_DATA :: (written ++ remaining))], ?_⟩
        simp only [InputPump.write]
        rw [hdone, InputPump.offer_nil]
        refine Carried.snoc h.opened (isClose_data _) hframes h.unread rfl ?_ h.raised
        rw [hdone, List.append_nil] at hsplit
        show s.effects ++ (remaining.take (more + 1)).map PtyEffect.byte =
          _ ++ frameEffects (SHELL_TAG_DATA :: (written ++ remaining))
        rw [hsplit, frameEffects_data, List.map_append, heffects, List.append_assoc]
      · refine ⟨relays, ?_⟩
        simp only [InputPump.write]
        rw [InputPump.offer_of_ne hdone]
        refine ⟨h.unread, h.raised, h.opened, hdone, written ++ remaining.take (more + 1), ?_, ?_⟩
        · rw [List.append_assoc, hsplit]
          exact hframes
        · show s.effects ++ _ = _
          rw [heffects, List.map_append, List.append_assoc]
  | blocks => exact ⟨relays, h⟩
  | raises =>
      refine ⟨relays ++ [Relay.ofCut written remaining], ?_⟩
      refine Carried.snoc h.opened (isClose_data _) hframes h.unread rfl heffects ?_
      show s.raised + 1 = _
      rw [h.raised]
      rfl

theorem Carried.step (h : Carried frames left relays s)
    (hfits : forall frame, frame ∈ frames -> frame.length <= SHELL_FRAME_MAX)
    (result : WriteResult) :
    exists left' relays', Carried frames left' relays' (s.step result) := by
  unfold InputPump.step
  cases hphase : s.phase with
  | reading => exact h.readFrame hphase hfits
  | writing remaining => exact ⟨left, h.write hphase result⟩
  | ended => exact ⟨left, relays, h⟩

end Carried

/-!
## Progress
-/

/-- The steps the pump takes at most, not counting writes that would block. -/
def InputPump.stepsLeft (s : InputPump) : Nat :=
  match s.phase with
  | InputPhase.reading => s.stream.length + 1
  | InputPhase.writing remaining => s.stream.length + remaining.length + 2
  | InputPhase.ended => 0

namespace InputPump

theorem stepsLeft_reading (h : s.phase = InputPhase.reading) :
    s.stepsLeft = s.stream.length + 1 := by
  unfold stepsLeft
  rw [h]

theorem stepsLeft_writing {remaining : List UInt8} (h : s.phase = InputPhase.writing remaining) :
    s.stepsLeft = s.stream.length + remaining.length + 2 := by
  unfold stepsLeft
  rw [h]

theorem stepsLeft_ended (h : s.phase = InputPhase.ended) : s.stepsLeft = 0 := by
  unfold stepsLeft
  rw [h]

theorem ended_of_stepsLeft (h : s.stepsLeft = 0) : s.phase = InputPhase.ended := by
  cases hphase : s.phase with
  | reading =>
      rw [stepsLeft_reading hphase] at h
      exact absurd h (Nat.succ_ne_zero _)
  | writing remaining =>
      rw [stepsLeft_writing hphase] at h
      exact absurd h (Nat.succ_ne_zero _)
  | ended => rfl

theorem stepsLeft_dispatch (hreading : s.phase = InputPhase.reading) (frame : List UInt8) :
    (s.dispatch frame).stepsLeft <= s.stream.length + frame.length + 1 := by
  rcases dispatch_cases hreading frame with
    ⟨_, hnext⟩ | ⟨_, hnext⟩ | ⟨data, _, hframe, hnext⟩
  · rw [hnext, stepsLeft_ended rfl]
    exact Nat.zero_le _
  · have hleft : (s.dispatch frame).stepsLeft = s.stream.length + 1 := by
      rw [hnext]
      exact stepsLeft_reading hreading
    omega
  · rw [hnext, stepsLeft_writing rfl, hframe, List.length_cons]
    show s.stream.length + data.length + 2 <= _
    omega

theorem stepsLeft_readFrame (hreading : s.phase = InputPhase.reading) :
    s.readFrame.stepsLeft < s.stepsLeft := by
  rw [stepsLeft_reading hreading]
  unfold readFrame
  cases hread : readFramed SHELL_FRAME_MAX s.stream with
  | error error =>
      show stepsLeft { s with phase := InputPhase.ended } < _
      rw [stepsLeft_ended rfl]
      exact Nat.succ_pos _
  | ok read =>
      rcases read with ⟨frame, rest⟩
      rcases readFramed_ok hread with ⟨_, framed, hframed, hstream⟩
      have hlength := congrArg List.length hstream
      rw [List.length_append, writeFramed_length hframed] at hlength
      have hbound := stepsLeft_dispatch (s := { s with stream := rest }) hreading frame
      show ({ s with stream := rest }.dispatch frame).stepsLeft < _
      have hrest : ({ s with stream := rest } : InputPump).stream.length = rest.length := rfl
      omega

theorem stepsLeft_offer (s : InputPump) (remaining : List UInt8) :
    (s.offer remaining).stepsLeft <= s.stream.length + remaining.length + 2 := by
  by_cases hempty : remaining = []
  · rw [hempty, offer_nil, stepsLeft_reading rfl]
    exact Nat.le_succ _
  · rw [offer_of_ne hempty, stepsLeft_writing rfl]

theorem stepsLeft_write {remaining : List UInt8}
    (hwriting : s.phase = InputPhase.writing remaining) {result : WriteResult}
    (hresult : result ≠ WriteResult.blocks) :
    (s.write remaining result).stepsLeft < s.stepsLeft := by
  rw [stepsLeft_writing hwriting]
  cases result with
  | accepts more =>
      cases remaining with
      | nil => exact Nat.lt_succ_self _
      | cons b remaining =>
          have hbound : (s.write (b :: remaining) (WriteResult.accepts more)).stepsLeft <=
              s.stream.length + ((b :: remaining).drop (more + 1)).length + 2 :=
            stepsLeft_offer _ _
          rw [List.length_drop] at hbound
          rw [List.length_cons] at hbound ⊢
          omega
  | blocks => exact absurd rfl hresult
  | raises =>
      simp only [write]
      rw [stepsLeft_reading rfl]
      show s.stream.length + 1 < _
      omega

theorem stepsLeft_step_lt {result : WriteResult} (hresult : result ≠ WriteResult.blocks)
    (hleft : s.stepsLeft ≠ 0) : (s.step result).stepsLeft < s.stepsLeft := by
  unfold step
  cases hphase : s.phase with
  | reading => exact stepsLeft_readFrame hphase
  | writing remaining => exact stepsLeft_write hphase hresult
  | ended => exact absurd (stepsLeft_ended hphase) hleft

theorem stepsLeft_step_le (s : InputPump) (result : WriteResult) :
    (s.step result).stepsLeft <= s.stepsLeft := by
  unfold step
  cases hphase : s.phase with
  | reading => exact Nat.le_of_lt (stepsLeft_readFrame hphase)
  | writing remaining =>
      by_cases hresult : result = WriteResult.blocks
      · rw [hresult]
        exact Nat.le_refl _
      · exact Nat.le_of_lt (stepsLeft_write hphase hresult)
  | ended => exact Nat.le_refl _

end InputPump

/-!
## What is delivered
-/

/--
What the pty saw is what the frames before the first close ask for, up to some point of
them: the frames relayed, and of the next one a part of its data.  At the end that is all
of them, the window sizes in any case and the data where no write failed.
-/
structure InputLaw (frames : List (List UInt8)) (s : InputPump) : Prop where
  relayed : exists (relays : List Relay) (written : List UInt8) (back : List (List UInt8)),
    openFrames frames = relays.map Relay.frame ++ back ∧
    written <+: dataBody (back.headD []) ∧
    s.effects = relays.flatMap Relay.effects ++ written.map PtyEffect.byte ∧
    s.raised = relays.countP Relay.cut ∧
    (s.phase = InputPhase.ended -> back = [])
  begun : s.raised = 0 -> s.effects <+: (openFrames frames).flatMap frameEffects
  exact : s.phase = InputPhase.ended -> s.raised = 0 ->
    s.effects = (openFrames frames).flatMap frameEffects
  bytes : s.phase = InputPhase.ended -> s.raised = 0 ->
    s.effects.filterMap PtyEffect.byte? = (openFrames frames).flatMap dataBody
  sizes : s.phase = InputPhase.ended ->
    s.effects.filterMap PtyEffect.size? = (openFrames frames).filterMap windowSize

theorem frames_bytes (frames : List (List UInt8)) :
    (frames.flatMap frameEffects).filterMap PtyEffect.byte? = frames.flatMap dataBody := by
  induction frames with
  | nil => rfl
  | cons frame frames ih =>
      rw [List.flatMap_cons, List.filterMap_append, frameEffects_bytes, ih, List.flatMap_cons]

theorem Carried.relayed (h : Carried frames left relays s) :
    exists (written : List UInt8) (back : List (List UInt8)),
      openFrames frames = relays.map Relay.frame ++ back ∧
      written <+: dataBody (back.headD []) ∧
      s.effects = relays.flatMap Relay.effects ++ written.map PtyEffect.byte ∧
      (s.phase = InputPhase.ended -> back = []) := by
  have hstage := h.stage
  cases hphase : s.phase with
  | reading =>
      rw [hphase] at hstage
      rcases hstage with ⟨hframes, heffects⟩
      refine ⟨[], openFrames left, ?_, List.nil_prefix, ?_, fun hend => by cases hend⟩
      · rw [hframes, openFrames_append (fun frame => h.opened_frames)]
      · rw [heffects]
        exact (List.append_nil _).symm
  | writing remaining =>
      rw [hphase] at hstage
      rcases hstage with ⟨_, written, hframes, heffects⟩
      refine ⟨written, (SHELL_TAG_DATA :: (written ++ remaining)) :: openFrames left, ?_, ?_,
        heffects, fun hend => by cases hend⟩
      · rw [hframes, openFrames_append (fun frame => h.opened_frames),
          openFrames_open (isClose_data _)]
      · show written <+: dataBody (SHELL_TAG_DATA :: (written ++ remaining))
        rw [dataBody_data]
        exact List.prefix_append written remaining
  | ended =>
      rw [hphase] at hstage
      rcases hstage with ⟨hframes, heffects⟩
      refine ⟨[], [], ?_, List.nil_prefix, ?_, fun _ => rfl⟩
      · rw [hframes, List.append_nil]
      · rw [heffects]
        exact (List.append_nil _).symm

/-- What is written of a frame begins what the pty is to see of the frames from it on. -/
theorem isPrefix_of_written {written : List UInt8} {back : List (List UInt8)}
    (h : written <+: dataBody (back.headD [])) :
    written.map PtyEffect.byte <+: back.flatMap frameEffects := by
  cases back with
  | nil =>
      have hempty : written = [] := List.prefix_nil.mp h
      rw [hempty]
      exact List.nil_prefix
  | cons frame back =>
      rw [List.flatMap_cons]
      unfold frameEffects
      rw [List.append_assoc]
      exact (h.map PtyEffect.byte).trans (List.prefix_append _ _)

theorem Carried.law (h : Carried frames left relays s) : InputLaw frames s := by
  rcases h.relayed with ⟨written, back, hframes, hwritten, heffects, hend⟩
  have hended : s.phase = InputPhase.ended ->
      openFrames frames = relays.map Relay.frame ∧ s.effects = relays.flatMap Relay.effects := by
    intro hphase
    have hstage := h.stage
    rw [hphase] at hstage
    exact hstage
  have hexact : s.phase = InputPhase.ended -> s.raised = 0 ->
      s.effects = (openFrames frames).flatMap frameEffects := by
    intro hphase hraised
    rw [(hended hphase).right, (hended hphase).left, relays_whole (h.raised ▸ hraised)]
  constructor
  · exact ⟨relays, written, back, hframes, hwritten, heffects, h.raised, hend⟩
  · intro hraised
    rw [heffects, hframes, List.flatMap_append, relays_whole (h.raised ▸ hraised)]
    exact List.prefix_append_right_inj _ |>.mpr (isPrefix_of_written hwritten)
  · exact hexact
  · intro hphase hraised
    rw [hexact hphase hraised, frames_bytes]
  · intro hphase
    rw [(hended hphase).right, (hended hphase).left, relays_sizes]

/--
The frames of a stream are delivered: what the pty has seen is right at every step, and
when writes do not block for ever the pump ends.
-/
theorem shell_input_delivered {stream : List UInt8} (hstream : writeAll frames = some stream)
    (hfits : forall frame, frame ∈ frames -> frame.length <= SHELL_FRAME_MAX)
    (results : Nat -> WriteResult) :
    (forall n, InputLaw frames
      ((inputPump stream).along (InputPump.started stream) results n)) ∧
    ((forall i, exists j, i <= j ∧ results j ≠ WriteResult.blocks) ->
      exists n, forall m, n <= m ->
        ((inputPump stream).along (InputPump.started stream) results m).phase =
          InputPhase.ended) := by
  constructor
  · intro n
    have hcarried : exists left relays, Carried frames left relays
        ((inputPump stream).along (InputPump.started stream) results n) := by
      apply Machine.along_invariant
        (I := fun s => exists left relays, Carried frames left relays s)
      · exact ⟨frames, [], carried_started hstream⟩
      · intro s result hinv
        rcases hinv with ⟨left, relays, h⟩
        exact h.step hfits result
    rcases hcarried with ⟨left, relays, h⟩
    exact h.law
  · intro hfair
    rcases Machine.along_measure_zero (M := inputPump stream) InputPump.stepsLeft_step_le
      (fun s result hresult hleft => InputPump.stepsLeft_step_lt hresult hleft)
      (InputPump.started stream) hfair with ⟨n, hn⟩
    exact ⟨n, fun m hm => InputPump.ended_of_stepsLeft (hn m hm)⟩

/-- Data, an empty frame, a window size, an unknown tag, data, a close and data after it. -/
def pasteFrames : List (List UInt8) :=
  [[0, 104, 105], [], [1, 0, 24, 0, 80], [9, 1], [0, 33], [2], [0, 7]]

def pasteStream : List UInt8 :=
  [0, 0, 0, 3, 0, 104, 105, 0, 0, 0, 0, 0, 0, 0, 5, 1, 0, 24, 0, 80, 0, 0, 0, 2, 9, 1,
    0, 0, 0, 2, 0, 33, 0, 0, 0, 1, 2, 0, 0, 0, 2, 0, 7]

def slowPty (i : Nat) : WriteResult :=
  if i % 2 = 0 then WriteResult.accepts 0 else WriteResult.blocks

theorem shell_input_delivered_slow :
    InputLaw pasteFrames
      ((inputPump pasteStream).along (InputPump.started pasteStream) slowPty 12) ∧
    ((inputPump pasteStream).along (InputPump.started pasteStream) slowPty 12).effects =
      [PtyEffect.byte 104, PtyEffect.byte 105, PtyEffect.resize (24, 80), PtyEffect.byte 33] ∧
    exists n, forall m, n <= m ->
      ((inputPump pasteStream).along (InputPump.started pasteStream) slowPty m).phase =
        InputPhase.ended := by
  have hstream : writeAll pasteFrames = some pasteStream := by decide
  have hdelivered := shell_input_delivered hstream (by decide) slowPty
  refine ⟨hdelivered.left 12, by decide, hdelivered.right ?_⟩
  intro i
  refine ⟨2 * i, by omega, ?_⟩
  unfold slowPty
  rw [if_pos (Nat.mul_mod_right 2 i)]
  exact WriteResult.noConfusion

end Shell
end PanicMonitr
