import Mathlib.Data.List.Infix
import PanicMonitr.Shell.InputPump
import PanicMonitr.Wire.Pipes

/-!
# From the keyboard to the pty

The whole way of what is typed into a remote shell: the handler `_serve_peer_shell` passes the
messages of the browser to `ShellSession.send`, which writes a frame for each to the stream,
and the input pump of the host writes what it reads there to the pty.
-/

namespace PanicMonitr
namespace Shell

open Foundation
open Wire

/-!
## The way there
-/

/-- What `ws.receive()` returns. -/
inductive Message where
  | text (s : String)
  | binary (bytes : List UInt8)

/-- A text is encoded as UTF-8. -/
def Message.bytes : Message -> List UInt8
  | text s => s.toUTF8.toList
  | binary bytes => bytes

/--
The messages received, whether the thread goes on receiving, `_closed`, the stream to the host,
and the input pump with what has arrived.
-/
structure Typing where
  received : List Message
  receiving : Bool
  closed : Bool
  stream : Pipe
  pump : InputPump

inductive TypingEvent where
  /-- `ws.receive()` returns a message. -/
  | receive (message : Message)
  /-- It returns `None` or raises, or `session.send` raises. -/
  | hangUp
  /-- `_aclose` writes its frame. -/
  | aclose
  /-- `_aclose` finishes the stream. -/
  | finish
  | accept (n : Nat)
  | deliver (n : Nat)
  /-- The connection is gone; so many bytes can still be read. -/
  | gone (kept : Nat)
  /-- The input pump goes on. -/
  | pump (result : WriteResult)

namespace Typing

/-- `session.send` for a message that is not empty; it returns when its bytes are accepted. -/
def receive (s : Typing) (message : Message) : Typing :=
  if s.receiving && s.stream.pending.isEmpty then
    if message.bytes.isEmpty then { s with received := s.received ++ [message] }
    else
      match s.stream.put message.bytes with
      | some stream => { s with received := s.received ++ [message], stream := stream }
      | none => { s with received := s.received ++ [message], receiving := false }
  else s

/-- `_aclose()` once; what its write raises is passed over. -/
def aclose (s : Typing) : Typing :=
  if s.closed then s
  else
    match s.stream.put [SHELL_TAG_CLOSE] with
    | some stream => { s with closed := true, stream := stream }
    | none => { s with closed := true }

def pumpStep (s : Typing) (result : WriteResult) : Typing :=
  if s.pump.phase = InputPhase.reading && !s.stream.ready SHELL_FRAME_MAX s.pump.stream then s
  else { s with pump := s.pump.step result }

def step (s : Typing) : TypingEvent -> Typing
  | TypingEvent.receive message => s.receive message
  | TypingEvent.hangUp => { s with receiving := false }
  | TypingEvent.aclose => s.aclose
  | TypingEvent.finish => if s.closed then { s with stream := s.stream.finish } else s
  | TypingEvent.accept n => { s with stream := s.stream.accept n }
  | TypingEvent.deliver n =>
      { s with
        stream := (s.stream.deliver n).2
        pump := { s.pump with stream := s.pump.stream ++ (s.stream.deliver n).1 } }
  | TypingEvent.gone kept =>
      { s with
        stream := (s.stream.gone s.pump.stream kept).2
        pump := { s.pump with stream := (s.stream.gone s.pump.stream kept).1 } }
  | TypingEvent.pump result => s.pumpStep result

end Typing

/-- The stream is open and primed. -/
def Typing.started : Typing where
  received := []
  receiving := true
  closed := false
  stream := Pipe.primed
  pump := InputPump.started []

def typing : Machine Typing TypingEvent where
  start s := s = Typing.started
  step := Typing.step

/-!
## The frames of the messages
-/

/-- The payloads `session.send` is called with. -/
def typedFrames (received : List Message) : List (List UInt8) :=
  (received.map Message.bytes).filter (fun bytes => !bytes.isEmpty)

def passes (frame : List UInt8) : Bool :=
  !isClose frame && decide (frame.length <= SHELL_FRAME_MAX)

/-- The frames in front of the first that closes or is too long to be read. -/
def deliverable (frames : List (List UInt8)) : List (List UInt8) :=
  frames.takeWhile passes

theorem typedFrames_snoc (received : List Message) (message : Message) :
    typedFrames (received ++ [message]) =
      typedFrames received ++ if message.bytes.isEmpty then [] else [message.bytes] := by
  unfold typedFrames
  rw [List.map_append, List.filter_append]
  cases hempty : message.bytes.isEmpty with
  | true => simp [hempty]
  | false => simp [hempty]

theorem deliverable_isPrefix {front whole : List (List UInt8)} (h : front <+: whole) :
    deliverable front <+: deliverable whole := by
  rcases h with ⟨back, rfl⟩
  unfold deliverable
  rw [List.takeWhile_append]
  split
  · exact (List.takeWhile_prefix passes).trans (List.prefix_append front _)
  · exact List.prefix_rfl

theorem deliverable_of_fits {frames : List (List UInt8)}
    (hfits : forall frame, frame ∈ frames -> frame.length <= SHELL_FRAME_MAX) :
    deliverable frames = openFrames frames := by
  induction frames with
  | nil => rfl
  | cons frame frames ih =>
      have hfit := hfits frame (List.mem_cons_self ..)
      have hrest := ih (fun f hf => hfits f (List.mem_cons_of_mem _ hf))
      cases hclose : isClose frame with
      | true =>
          rw [openFrames_close hclose]
          exact List.takeWhile_cons_of_neg (by simp [passes, hclose])
      | false =>
          rw [openFrames_open hclose, ← hrest]
          exact List.takeWhile_cons_of_pos (by simp [passes, hclose, hfit])

/-- A frame that closes, or is too long, keeps back what stands behind it. -/
theorem deliverable_append_stop {front : List (List UInt8)} {frame : List UInt8}
    (hstop : isClose frame = true ∨ SHELL_FRAME_MAX < frame.length)
    (back : List (List UInt8)) :
    deliverable (front ++ frame :: back) = deliverable front := by
  induction front with
  | nil =>
      apply List.takeWhile_cons_of_neg
      rcases hstop with hclose | hlong
      · simp [passes, hclose]
      · simp [passes, Nat.not_le.mpr hlong]
  | cons f front ih =>
      unfold deliverable at ih ⊢
      cases hf : passes f with
      | true =>
          rw [List.cons_append, List.takeWhile_cons_of_pos hf, List.takeWhile_cons_of_pos hf, ih]
      | false =>
          rw [List.cons_append,
            List.takeWhile_cons_of_neg (by rw [hf]; exact Bool.false_ne_true),
            List.takeWhile_cons_of_neg (by rw [hf]; exact Bool.false_ne_true)]

theorem deliverable_primed (frames : List (List UInt8)) :
    deliverable ([] :: frames) = [] :: deliverable frames :=
  List.takeWhile_cons_of_pos (by decide)

theorem frameEffects_primed (frames : List (List UInt8)) :
    ([] :: frames).flatMap frameEffects = frames.flatMap frameEffects := rfl

/-!
## The invariant
-/

def InputPump.withStream (pump : InputPump) (stream : List UInt8) : InputPump :=
  { pump with stream := stream }

/--
Where the pump is with the frames it has read: as it would be had the stream been just those,
or ended in front of a frame that is too long or never came.
-/
def Consumed (consumed left : List (List UInt8)) (relays : List Relay) (stopped : Bool)
    (pump : InputPump) : Prop :=
  (Carried consumed [] relays (pump.withStream []) ∧
    (pump.phase = InputPhase.ended -> exists frame, frame ∈ consumed ∧ isClose frame = true)) ∨
  (pump.phase = InputPhase.ended ∧
    Carried consumed [] relays { pump with stream := [], phase := InputPhase.reading } ∧
    (stopped = true ∨ exists frame rest, left = frame :: rest ∧ SHELL_FRAME_MAX < frame.length))

/--
The frames written are those consumed and those `left` in the stream; behind the priming frame
they are those `sent` for messages and, once the session closes, `later` ones.
-/
structure Typed (s : Typing) (sent later consumed left : List (List UInt8))
    (relays : List Relay) : Prop where
  carried : Carries s.stream s.pump.stream left
  split : s.stream.written = consumed ++ left
  fits : forall frame, frame ∈ consumed -> frame.length <= SHELL_FRAME_MAX
  stage : Consumed consumed left relays s.stream.stopped s.pump
  written : s.stream.written = [] :: (sent ++ later)
  messages : sent <+: typedFrames s.received
  current : s.receiving = true -> s.closed = false -> sent = typedFrames s.received
  before : s.closed = false -> later = []
  closing : later = [] ∨ exists rest, later = [SHELL_TAG_CLOSE] :: rest
  shut : s.closed = true -> later = [] -> s.stream.writable = false

section Steps

variable {s : Typing} {sent later consumed left : List (List UInt8)} {relays : List Relay}

theorem typed_started : Typed Typing.started [] [] [] [[]] [] where
  carried := carries_primed
  split := rfl
  fits := fun _ hframe => absurd hframe List.not_mem_nil
  stage := Or.inl ⟨carried_started rfl, fun hended => by cases hended⟩
  written := rfl
  messages := List.prefix_rfl
  current := fun _ _ => rfl
  before := fun _ => rfl
  closing := Or.inl rfl
  shut := fun hclosed => by cases hclosed

/-- More frames behind those left, or an end of the stream, leave the pump where it is. -/
theorem Consumed.mono {stopped stopped' : Bool} {pump : InputPump}
    (h : Consumed consumed left relays stopped pump) (hstopped : stopped = true -> stopped' = true)
    (more : List (List UInt8)) : Consumed consumed (left ++ more) relays stopped' pump := by
  rcases h with hcarried | ⟨hended, hcarried, hstopped' | ⟨frame, rest, hleft, hlong⟩⟩
  · exact Or.inl hcarried
  · exact Or.inr ⟨hended, hcarried, Or.inl (hstopped hstopped')⟩
  · refine Or.inr ⟨hended, hcarried, Or.inr ⟨frame, rest ++ more, ?_, hlong⟩⟩
    rw [hleft]
    rfl

theorem Typed.move (h : Typed s sent later consumed left relays) {stream : Pipe}
    {arrived : List UInt8} (hcarried : Carries stream arrived left)
    (hwritten : stream.written = s.stream.written)
    (hstopped : s.stream.stopped = true -> stream.stopped = true)
    (hwritable : s.stream.writable = false -> stream.writable = false) :
    Typed { s with stream := stream, pump := { s.pump with stream := arrived } } sent later
      consumed left relays where
  carried := hcarried
  split := hwritten.trans h.split
  fits := h.fits
  stage := by
    have hstage := h.stage.mono hstopped []
    rw [List.append_nil] at hstage
    exact hstage
  written := hwritten.trans h.written
  messages := h.messages
  current := h.current
  before := h.before
  closing := h.closing
  shut := fun hclosed hlater => hwritable (h.shut hclosed hlater)

theorem Typed.put_stage (h : Typed s sent later consumed left relays) {payload : List UInt8}
    {stream : Pipe} (hput : s.stream.put payload = some stream) :
    Carries stream s.pump.stream (left ++ [payload]) ∧
      stream.written = consumed ++ (left ++ [payload]) ∧
      Consumed consumed (left ++ [payload]) relays stream.stopped s.pump ∧
      stream.written = [] :: (sent ++ later ++ [payload]) := by
  have hstopped : s.stream.stopped = true -> stream.stopped = true := by
    rcases put_cases hput with ⟨_, framed, _, rfl⟩
    exact fun hstopped => hstopped
  refine ⟨h.carried.put hput, ?_, h.stage.mono hstopped [payload], ?_⟩
  · rw [put_written hput, h.split, List.append_assoc]
  · rw [put_written hput, h.written]
    rfl

theorem Typed.receive (h : Typed s sent later consumed left relays) (message : Message) :
    exists sent' later' left', Typed (s.receive message) sent' later' consumed left' relays := by
  unfold Typing.receive
  split
  · rename_i hready
    have hreceiving : s.receiving = true := (Bool.and_eq_true_iff.mp hready).left
    split
    · rename_i hempty
      have hsame : typedFrames (s.received ++ [message]) = typedFrames s.received := by
        rw [typedFrames_snoc, if_pos hempty, List.append_nil]
      refine ⟨sent, later, left, h.carried, h.split, h.fits, h.stage, h.written, ?_, ?_,
        h.before, h.closing, h.shut⟩
      · rw [hsame]
        exact h.messages
      · rw [hsame]
        exact h.current
    · rename_i hfull
      have hmore : typedFrames (s.received ++ [message]) =
          typedFrames s.received ++ [message.bytes] := by
        rw [typedFrames_snoc, if_neg hfull]
      cases hput : s.stream.put message.bytes with
      | none =>
          refine ⟨sent, later, left, h.carried, h.split, h.fits, h.stage, h.written, ?_,
            (fun hstill => by cases hstill), h.before, h.closing, h.shut⟩
          rw [hmore]
          exact h.messages.trans (List.prefix_append _ _)
      | some stream =>
          rcases h.put_stage hput with ⟨hcarried, hsplit, hstage, hwritten⟩
          cases hclosed : s.closed with
          | false =>
              -- the session is open: the frame is the one of the newest message
              have hlater := h.before hclosed
              have hsent := h.current hreceiving hclosed
              subst hlater
              refine ⟨sent ++ [message.bytes], [], left ++ [message.bytes], hcarried, hsplit,
                h.fits, hstage, ?_, ?_, ?_, fun _ => rfl, Or.inl rfl, ?_⟩
              · rw [List.append_nil] at hwritten ⊢
                exact hwritten
              · have hall := congrArg (fun frames => frames ++ [message.bytes]) hsent.symm
                exact hmore.trans hall ▸ List.prefix_rfl
              · intro _ _
                rw [hmore, hsent]
              · exact fun hnow => by cases hnow
          | true =>
              -- behind the closing frame, where it is not read
              rcases h.closing with hnone | ⟨rest, hrest⟩
              · have hwritable := h.shut hclosed hnone
                rw [(put_cases hput).left] at hwritable
                cases hwritable
              · refine ⟨sent, later ++ [message.bytes], left ++ [message.bytes], hcarried, hsplit,
                  h.fits, hstage, ?_, ?_, ?_, ?_, ?_, ?_⟩
                · rw [← List.append_assoc]
                  exact hwritten
                · rw [hmore]
                  exact h.messages.trans (List.prefix_append _ _)
                · exact fun _ hopen => by cases hopen
                · exact fun hopen => by cases hopen
                · exact Or.inr ⟨rest ++ [message.bytes], by rw [hrest]; rfl⟩
                · intro _ hnone
                  exact absurd hnone (List.append_ne_nil_of_right_ne_nil _ (List.cons_ne_nil _ _))
  · exact ⟨sent, later, left, h⟩

theorem Typed.aclose (h : Typed s sent later consumed left relays) :
    exists later' left', Typed s.aclose sent later' consumed left' relays := by
  unfold Typing.aclose
  split
  · exact ⟨later, left, h⟩
  · rename_i hopen
    have hclosed : s.closed = false := (Bool.not_eq_true _).mp hopen
    have hlater := h.before hclosed
    subst hlater
    cases hput : s.stream.put [SHELL_TAG_CLOSE] with
    | some stream =>
        rcases h.put_stage hput with ⟨hcarried, hsplit, hstage, hwritten⟩
        refine ⟨[[SHELL_TAG_CLOSE]], left ++ [[SHELL_TAG_CLOSE]], hcarried, hsplit, h.fits, hstage,
          ?_, h.messages, (fun _ hnow => by cases hnow), (fun hnow => by cases hnow),
          Or.inr ⟨[], rfl⟩, fun _ hnone => absurd hnone (List.cons_ne_nil _ _)⟩
        rw [List.append_nil] at hwritten
        exact hwritten
    | none =>
        refine ⟨[], left, h.carried, h.split, h.fits, h.stage, h.written, h.messages,
          (fun _ hnow => by cases hnow), (fun hnow => by cases hnow), Or.inl rfl, ?_⟩
        intro _ _
        unfold Pipe.put at hput
        split at hput
        · cases hput
        · rename_i hwritable
          exact (Bool.not_eq_true _).mp hwritable

theorem dispatch_withStream (pump : InputPump) (stream frame : List UInt8) :
    (pump.withStream stream).dispatch frame = (pump.dispatch frame).withStream stream := by
  cases frame with
  | nil => rfl
  | cons tag body =>
      simp only [InputPump.dispatch]
      split
      · rfl
      · split
        · rcases body with _ | ⟨a, _ | ⟨b, _ | ⟨c, _ | ⟨d, rest⟩⟩⟩⟩
          · rfl
          · rfl
          · rfl
          · rfl
          · rfl
        · split
          · rfl
          · rfl

/-- One more frame is read, and does what it would do at the end of the stream. -/
theorem consumed_read {pump : InputPump} {frame : List UInt8}
    (hcarried : Carried consumed [] relays (pump.withStream []))
    (hreading : pump.phase = InputPhase.reading)
    (hfits : forall f, f ∈ consumed ++ [frame] -> f.length <= SHELL_FRAME_MAX) :
    exists relays', Carried (consumed ++ [frame]) [] relays'
      ((pump.dispatch frame).withStream []) := by
  have hlength : frame.length < 2 ^ 32 :=
    Nat.lt_of_le_of_lt (hfits frame (by simp)) (by decide)
  rcases writeFramed_of_length hlength with ⟨framed, hframed⟩
  have hone : writeAll [frame] = some framed := by
    rw [writeAll_cons hframed writeAll_nil, List.append_nil]
  have hahead : Carried (consumed ++ [frame]) [frame] relays (pump.withStream framed) := by
    have hstage := hcarried.stage
    refine ⟨hone, hcarried.raised, hcarried.opened, ?_⟩
    have hphase : (pump.withStream framed).phase = InputPhase.reading := hreading
    have hphase' : (pump.withStream []).phase = InputPhase.reading := hreading
    rw [hphase'] at hstage
    rw [hphase]
    refine ⟨?_, hstage.right⟩
    rw [hstage.left, List.append_nil]
  rcases hahead.readFrame hreading hfits with ⟨left', relays', hnext⟩
  have hread : (pump.withStream framed).readFrame = (pump.dispatch frame).withStream [] := by
    have hfront := readFramed_writeFramed SHELL_FRAME_MAX hframed []
    rw [List.append_nil, if_pos (hfits frame (by simp))] at hfront
    unfold InputPump.readFrame
    rw [show (pump.withStream framed).stream = framed from rfl, hfront]
    exact dispatch_withStream pump [] frame
  rw [hread] at hnext
  cases left' with
  | nil => exact ⟨relays', hnext⟩
  | cons f left' =>
      rcases writeAll_cons_some hnext.unread with ⟨framed', rest, hframed', _, hempty⟩
      have hlength := congrArg List.length hempty
      rw [List.length_append, writeFramed_length hframed'] at hlength
      have hnil : ((pump.dispatch frame).withStream []).stream.length = 0 := rfl
      omega

theorem dispatch_ended {pump : InputPump} {frame : List UInt8}
    (hreading : pump.phase = InputPhase.reading)
    (hended : (pump.dispatch frame).phase = InputPhase.ended) : isClose frame = true := by
  rcases InputPump.dispatch_cases hreading frame with
    ⟨hclose, _⟩ | ⟨_, hnext⟩ | ⟨data, _, _, hnext⟩
  · exact hclose
  · rw [hnext] at hended
    have hended' : pump.phase = InputPhase.ended := hended
    rw [hreading] at hended'
    cases hended'
  · rw [hnext] at hended
    cases hended

theorem Typed.pumped (h : Typed s sent later consumed left relays) {pump : InputPump}
    {consumed' left' : List (List UInt8)} {relays' : List Relay}
    (hcarried : Carries s.stream pump.stream left')
    (hsplit : consumed' ++ left' = consumed ++ left)
    (hfits : forall frame, frame ∈ consumed' -> frame.length <= SHELL_FRAME_MAX)
    (hstage : Consumed consumed' left' relays' s.stream.stopped pump) :
    Typed { s with pump := pump } sent later consumed' left' relays' where
  carried := hcarried
  split := h.split.trans hsplit.symm
  fits := hfits
  stage := hstage
  written := h.written
  messages := h.messages
  current := h.current
  before := h.before
  closing := h.closing
  shut := h.shut

theorem Typed.readFrame (h : Typed s sent later consumed left relays)
    (hreading : s.pump.phase = InputPhase.reading)
    (hready : s.stream.ready SHELL_FRAME_MAX s.pump.stream = true) :
    exists consumed' left' relays',
      Typed { s with pump := s.pump.readFrame } sent later consumed' left' relays' := by
  have hcarried : Carried consumed [] relays (s.pump.withStream []) := by
    rcases h.stage with ⟨hcarried, _⟩ | ⟨hended, _⟩
    · exact hcarried
    · rw [hreading] at hended
      cases hended
  have hended : Carried consumed [] relays
      { s.pump with stream := [], phase := InputPhase.reading } := by
    rw [← hreading]
    exact hcarried
  unfold InputPump.readFrame
  cases hread : readFramed SHELL_FRAME_MAX s.pump.stream with
  | ok read =>
      rcases read with ⟨frame, rest⟩
      rcases h.carried.read hread with ⟨hfit, left', hleft, hnext⟩
      have hfits : forall f, f ∈ consumed ++ [frame] -> f.length <= SHELL_FRAME_MAX := by
        intro f hf
        rcases List.mem_append.mp hf with hold | hnew
        · exact h.fits f hold
        · rw [List.mem_singleton.mp hnew]
          exact hfit
      rcases consumed_read hcarried hreading hfits with ⟨relays', hrelays⟩
      have hdispatch : { s.pump with stream := rest }.dispatch frame =
          (s.pump.dispatch frame).withStream rest := dispatch_withStream s.pump rest frame
      refine ⟨consumed ++ [frame], left', relays', h.pumped ?_ ?_ hfits ?_⟩
      · show Carries s.stream ({ s.pump with stream := rest }.dispatch frame).stream left'
        rw [hdispatch]
        exact hnext
      · rw [hleft, List.append_assoc]
        rfl
      · show Consumed _ left' relays' _ ({ s.pump with stream := rest }.dispatch frame)
        rw [hdispatch]
        refine Or.inl ⟨hrelays, fun hend => ⟨frame, by simp, ?_⟩⟩
        exact dispatch_ended hreading hend
  | error error =>
      refine ⟨consumed, left, relays, h.pumped h.carried rfl h.fits (Or.inr ⟨rfl, hended, ?_⟩)⟩
      cases error with
      | streamEnded =>
          unfold Pipe.ready at hready
          rw [hread] at hready
          exact Or.inl hready
      | tooLarge length max =>
          have hmax : max = SHELL_FRAME_MAX := by
            rcases hstream : s.pump.stream with _ | ⟨a, _ | ⟨b, _ | ⟨c, _ | ⟨d, rest⟩⟩⟩⟩
            · rw [hstream] at hread; cases hread
            · rw [hstream] at hread; cases hread
            · rw [hstream] at hread; cases hread
            · rw [hstream] at hread; cases hread
            · rw [hstream] at hread
              simp only [readFramed] at hread
              split at hread
              · cases hread
                rfl
              · split at hread
                · cases hread
                · split at hread
                  · cases hread
                  · cases hread
          rw [hmax] at hread
          rcases readFramed_front_tooLarge h.carried.bytes hread with
            ⟨frame, rest, hleft, hlong⟩
          exact Or.inr ⟨frame, rest, hleft, hlong⟩

theorem Typed.pumpStep (h : Typed s sent later consumed left relays) (result : WriteResult) :
    exists consumed' left' relays',
      Typed (s.pumpStep result) sent later consumed' left' relays' := by
  unfold Typing.pumpStep
  cases hphase : s.pump.phase with
  | reading =>
      have hstep : s.pump.step result = s.pump.readFrame := by
        unfold InputPump.step
        rw [hphase]
      split
      · exact ⟨consumed, left, relays, h⟩
      · rename_i hready
        rw [hstep]
        apply h.readFrame hphase
        simpa using hready
  | writing remaining =>
      have hcarried : Carried consumed [] relays (s.pump.withStream []) := by
        rcases h.stage with ⟨hcarried, _⟩ | ⟨hended, _⟩
        · exact hcarried
        · rw [hphase] at hended
          cases hended
      have hstep : s.pump.step result = s.pump.write remaining result := by
        unfold InputPump.step
        rw [hphase]
      have hstream : (s.pump.write remaining result).withStream [] =
          (s.pump.withStream []).write remaining result := by
        cases result with
        | accepts more => rfl
        | blocks => rfl
        | raises => rfl
      have hstill : (s.pump.write remaining result).phase ≠ InputPhase.ended := by
        cases result with
        | accepts more =>
            simp only [InputPump.write, InputPump.offer]
            split
            · exact InputPhase.noConfusion
            · exact InputPhase.noConfusion
        | blocks =>
            simp only [InputPump.write]
            rw [hphase]
            exact InputPhase.noConfusion
        | raises => exact InputPhase.noConfusion
      rcases hcarried.write hphase result with ⟨relays', hnext⟩
      simp only [reduceCtorEq, decide_false, Bool.false_and, Bool.false_eq_true, if_false]
      rw [hstep]
      refine ⟨consumed, left, relays', h.pumped ?_ rfl h.fits (Or.inl ⟨?_, ?_⟩)⟩
      · have hsame : (s.pump.write remaining result).stream = s.pump.stream := by
          cases result with
          | accepts more => rfl
          | blocks => rfl
          | raises => rfl
        rw [hsame]
        exact h.carried
      · rw [hstream]
        exact hnext
      · exact fun hend => absurd hend hstill
  | ended =>
      have hstep : s.pump.step result = s.pump := by
        unfold InputPump.step
        rw [hphase]
      simp only [reduceCtorEq, decide_false, Bool.false_and, Bool.false_eq_true, if_false]
      rw [hstep]
      exact ⟨consumed, left, relays, h⟩

theorem Typed.hangUp (h : Typed s sent later consumed left relays) :
    Typed { s with receiving := false } sent later consumed left relays where
  carried := h.carried
  split := h.split
  fits := h.fits
  stage := h.stage
  written := h.written
  messages := h.messages
  current := fun hstill => by cases hstill
  before := h.before
  closing := h.closing
  shut := h.shut

theorem Typed.step (h : Typed s sent later consumed left relays) (e : TypingEvent) :
    exists sent' later' consumed' left' relays',
      Typed (s.step e) sent' later' consumed' left' relays' := by
  cases e with
  | receive message =>
      rcases h.receive message with ⟨sent', later', left', hnext⟩
      exact ⟨sent', later', consumed, left', relays, hnext⟩
  | hangUp => exact ⟨sent, later, consumed, left, relays, h.hangUp⟩
  | aclose =>
      rcases h.aclose with ⟨later', left', hnext⟩
      exact ⟨sent, later', consumed, left', relays, hnext⟩
  | finish =>
      simp only [Typing.step]
      split
      · exact ⟨sent, later, consumed, left, relays,
          h.move h.carried.finish rfl (fun hstopped => hstopped) (fun _ => rfl)⟩
      · exact ⟨sent, later, consumed, left, relays, h⟩
  | accept n =>
      exact ⟨sent, later, consumed, left, relays,
        h.move (h.carried.accept n) rfl (fun hstopped => hstopped) (fun hclosed => hclosed)⟩
  | deliver n =>
      exact ⟨sent, later, consumed, left, relays,
        h.move (h.carried.deliver n) rfl (fun hstopped => hstopped) (fun hclosed => hclosed)⟩
  | gone kept =>
      exact ⟨sent, later, consumed, left, relays,
        h.move (h.carried.gone kept) rfl (fun _ => rfl) (fun _ => rfl)⟩
  | pump result =>
      rcases h.pumpStep result with ⟨consumed', left', relays', hnext⟩
      exact ⟨sent, later, consumed', left', relays', hnext⟩

end Steps

/-!
## What reaches the pty
-/

/--
What the pty has seen is the beginning of what the messages ask for, up to the first that
closes or is too long; a write that fails loses bytes but no window size.  Once the pump waits
with nothing on its way, or has ended while the connection is there, nothing is missing.
-/
structure TypingLaw (s : Typing) : Prop where
  begun : s.pump.raised = 0 ->
    s.pump.effects <+: (deliverable (typedFrames s.received)).flatMap frameEffects
  bytes : s.pump.raised = 0 -> s.pump.effects.filterMap PtyEffect.byte? <+:
    (deliverable (typedFrames s.received)).flatMap dataBody
  sizes : s.pump.effects.filterMap PtyEffect.size? <+:
    (deliverable (typedFrames s.received)).filterMap windowSize
  settled : s.receiving = true -> s.closed = false -> s.stream.stopped = false ->
    s.stream.transit = [] -> s.stream.pending = [] -> s.pump.phase = InputPhase.reading ->
    s.stream.ready SHELL_FRAME_MAX s.pump.stream = false -> s.pump.raised = 0 ->
    s.pump.effects = (typedFrames s.received).flatMap frameEffects
  ended : s.pump.phase = InputPhase.ended -> s.stream.stopped = false -> s.pump.raised = 0 ->
    s.pump.effects = (deliverable s.stream.written).flatMap frameEffects

section Law

variable {s : Typing} {sent later consumed left : List (List UInt8)} {relays : List Relay}

/-- Of the frames written, those that can be delivered are the ones of messages. -/
theorem Typed.deliverable_written (h : Typed s sent later consumed left relays) :
    exists front, deliverable s.stream.written = [] :: front ∧
      front <+: deliverable (typedFrames s.received) := by
  have hsent : deliverable (sent ++ later) = deliverable sent := by
    rcases h.closing with hnone | ⟨rest, hrest⟩
    · rw [hnone, List.append_nil]
    · rw [hrest]
      exact deliverable_append_stop (Or.inl rfl) rest
  refine ⟨deliverable sent, ?_, deliverable_isPrefix h.messages⟩
  rw [h.written, deliverable_primed, hsent]

theorem Typed.opened_written (h : Typed s sent later consumed left relays) :
    openFrames consumed <+: deliverable s.stream.written := by
  rw [← deliverable_of_fits h.fits, h.split]
  exact deliverable_isPrefix (List.prefix_append consumed left)

theorem Typed.pumpLaw (h : Typed s sent later consumed left relays) :
    exists pump : InputPump, InputLaw consumed pump ∧ pump.effects = s.pump.effects ∧
      pump.raised = s.pump.raised := by
  rcases h.stage with ⟨hcarried, _⟩ | ⟨_, hcarried, _⟩
  · exact ⟨_, hcarried.law, rfl, rfl⟩
  · exact ⟨_, hcarried.law, rfl, rfl⟩

theorem relayed_sizes {frames : List (List UInt8)} {pump : InputPump}
    (h : InputLaw frames pump) :
    pump.effects.filterMap PtyEffect.size? <+: (openFrames frames).filterMap windowSize := by
  rcases h.relayed with ⟨relays, written, back, hframes, _, heffects, _⟩
  rw [heffects, hframes, List.filterMap_append, sizes_map, List.append_nil, relays_sizes,
    List.filterMap_append]
  exact List.prefix_append _ _

/-- Between frames, and without a write that failed, the pty has seen what was consumed. -/
theorem carried_reading {pump : InputPump} (h : Carried consumed [] relays pump)
    (hreading : pump.phase = InputPhase.reading) (hraised : pump.raised = 0) :
    pump.effects = consumed.flatMap frameEffects ∧
      forall frame, frame ∈ consumed -> isClose frame = false := by
  have hstage := h.stage
  rw [hreading] at hstage
  rcases hstage with ⟨hframes, heffects⟩
  rw [List.append_nil] at hframes
  constructor
  · rw [heffects, hframes]
    exact relays_whole (h.raised ▸ hraised)
  · intro frame hframe
    rw [hframes] at hframe
    exact h.opened_frames hframe

theorem Typed.settled (h : Typed s sent later consumed left relays)
    (hreceiving : s.receiving = true) (hclosed : s.closed = false)
    (hstopped : s.stream.stopped = false) (htransit : s.stream.transit = [])
    (hpending : s.stream.pending = []) (hreading : s.pump.phase = InputPhase.reading)
    (hwaits : s.stream.ready SHELL_FRAME_MAX s.pump.stream = false)
    (hraised : s.pump.raised = 0) :
    s.pump.effects = (typedFrames s.received).flatMap frameEffects := by
  have hleft := h.carried.nil_of_waiting hstopped htransit hpending hwaits
  have hcarried : Carried consumed [] relays (s.pump.withStream []) := by
    rcases h.stage with ⟨hcarried, _⟩ | ⟨hended, _⟩
    · exact hcarried
    · rw [hreading] at hended
      cases hended
  have heffects : s.pump.effects = consumed.flatMap frameEffects :=
    (carried_reading hcarried hreading hraised).left
  have hconsumed := h.split
  rw [hleft, List.append_nil, h.written, h.before hclosed, List.append_nil,
    h.current hreceiving hclosed] at hconsumed
  rw [heffects, ← hconsumed, frameEffects_primed]

theorem Typed.ended (h : Typed s sent later consumed left relays)
    (hended : s.pump.phase = InputPhase.ended) (hstopped : s.stream.stopped = false)
    (hraised : s.pump.raised = 0) :
    s.pump.effects = (deliverable s.stream.written).flatMap frameEffects := by
  rcases h.stage with ⟨hcarried, hclose⟩ | ⟨_, hcarried, hstopped' | ⟨frame, rest, hleft, hlong⟩⟩
  · rcases hclose hended with ⟨frame, hframe, hcloses⟩
    rcases List.append_of_mem hframe with ⟨front, back, hconsumed⟩
    have heffects : s.pump.effects = (openFrames consumed).flatMap frameEffects :=
      hcarried.law.exact hended hraised
    have hfront : deliverable consumed = deliverable front := by
      rw [hconsumed]
      exact deliverable_append_stop (Or.inl hcloses) back
    have hwhole : deliverable s.stream.written = deliverable front := by
      rw [h.split, hconsumed, List.append_assoc]
      exact deliverable_append_stop (Or.inl hcloses) _
    rw [heffects, ← deliverable_of_fits h.fits, hwhole, hfront]
  · rw [hstopped] at hstopped'
    cases hstopped'
  · rcases carried_reading hcarried rfl hraised with ⟨heffects, hopen⟩
    have hconsumed : deliverable consumed = consumed := by
      rw [deliverable_of_fits h.fits]
      have hall := openFrames_append hopen []
      rw [List.append_nil] at hall
      rw [hall]
      exact List.append_nil _
    rw [h.split, hleft, deliverable_append_stop (Or.inr hlong) rest, hconsumed]
    exact heffects

theorem Typed.law (h : Typed s sent later consumed left relays) : TypingLaw s := by
  rcases h.pumpLaw with ⟨pump, hlaw, heffects, hraised⟩
  rcases h.deliverable_written with ⟨front, hfront, hmessages⟩
  have hopened : openFrames consumed <+: [] :: front := by
    rw [← hfront]
    exact h.opened_written
  have hbegun : s.pump.raised = 0 ->
      s.pump.effects <+: (deliverable (typedFrames s.received)).flatMap frameEffects := by
    intro hnone
    rw [← heffects]
    refine (hlaw.begun (hraised.trans hnone)).trans ?_
    refine (hopened.flatMap frameEffects).trans ?_
    rw [frameEffects_primed]
    exact hmessages.flatMap frameEffects
  constructor
  · exact hbegun
  · intro hnone
    rw [← frames_bytes]
    exact (hbegun hnone).filterMap _
  · rw [← heffects]
    refine (relayed_sizes hlaw).trans ((hopened.filterMap windowSize).trans ?_)
    exact hmessages.filterMap windowSize
  · exact h.settled
  · exact h.ended

end Law

/--
In every state of every run, whatever the interleaving of the handler, the stream, the pump and
the pty: nothing typed is lost, repeated or put in another order on its way.
-/
theorem typing_law {s : Typing} (hreach : typing.Reachable (fun _ _ => True) s) :
    TypingLaw s := by
  have htyped : exists sent later consumed left relays,
      Typed s sent later consumed left relays := by
    apply hreach.invariant (I := fun s => exists sent later consumed left relays,
      Typed s sent later consumed left relays)
    · intro s hstart
      have hstarted : s = Typing.started := hstart
      rw [hstarted]
      exact ⟨[], [], [], [[]], [], typed_started⟩
    · intro s e hinv _
      rcases hinv with ⟨sent, later, consumed, left, relays, h⟩
      exact h.step e
  rcases htyped with ⟨sent, later, consumed, left, relays, h⟩
  exact h.law

/-- A text and a window size, brought in pieces to a pty that takes a byte at a time. -/
def typingSession : List TypingEvent :=
  [TypingEvent.accept 4, TypingEvent.receive (Message.binary [1, 0, 24, 0, 80]),
    TypingEvent.accept 9, TypingEvent.receive (Message.binary [0, 108, 115]),
    TypingEvent.deliver 7, TypingEvent.pump WriteResult.blocks, TypingEvent.deliver 99,
    TypingEvent.accept 99, TypingEvent.pump WriteResult.blocks, TypingEvent.deliver 99,
    TypingEvent.pump WriteResult.blocks, TypingEvent.pump (WriteResult.accepts 0),
    TypingEvent.pump (WriteResult.accepts 0)]

theorem typing_law_session :
    TypingLaw (typing.exec Typing.started typingSession) ∧
      (typing.exec Typing.started typingSession).pump.effects =
        [PtyEffect.resize (24, 80), PtyEffect.byte 108, PtyEffect.byte 115] := by
  have hstart : typing.Run (fun _ _ => True) [] Typing.started := Machine.Run.start rfl
  have hrun := hstart.exec typingSession
    ⟨trivial, trivial, trivial, trivial, trivial, trivial, trivial, trivial, trivial, trivial,
      trivial, trivial, trivial, trivial⟩
  exact ⟨typing_law ⟨_, hrun⟩, by decide⟩

end Shell
end PanicMonitr
