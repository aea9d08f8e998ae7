import Mathlib.Data.List.Infix
import PanicMonitr.Shell.OutputPump
import PanicMonitr.Wire.Pipes

/-!
# From the pty to the screen

The whole way of what a remote shell prints: the output pump of the host sends frames,
`_recv_pump` of the client's `ShellSession` queues them, and the relay thread of
`_serve_peer_shell` passes them to the browser, which writes the data to the terminal.
-/

namespace PanicMonitr
namespace Shell

open Foundation
open Wire

/-!
## The way back
-/

def isExit (frame : List UInt8) : Bool :=
  frame.head? = some SHELL_TAG_EXIT

/-- The bytes a message brings to the terminal; at an exit frame the page adds its own notice. -/
def screenBytes : List UInt8 -> List UInt8
  | [] => []
  | tag :: body => if tag = SHELL_TAG_DATA then body else []

def DrainPhase.frame : DrainPhase -> List (List UInt8)
  | DrainPhase.writing chunk => [dataFrame chunk]
  | DrainPhase.exiting rc => [exitFrame rc]
  | _ => []

/--
The output pump, whether its drainer still runs, the stream to the client and what has arrived
of it, `_recv_pump` with its queue, and the relay thread with the frames it has sent.
-/
structure Screen where
  pump : OutputPump
  draining : Bool
  stream : Pipe
  arrived : List UInt8
  pulling : Bool
  inbound : List (Option (List UInt8))
  relaying : Bool
  shown : List (List UInt8)

inductive ScreenEvent where
  /-- The pty is readable, or the drainer goes on. -/
  | pump (e : PumpEvent)
  | accept (n : Nat)
  | deliver (n : Nat)
  /-- The connection is gone; so many bytes can still be read. -/
  | gone (kept : Nat)
  /-- `_recv_pump` goes on. -/
  | pull
  /-- The relay thread goes on; `ws.send` may raise. -/
  | relay (sends : Bool)

namespace Screen

/-- The drainer has a chunk or the sentinel, and begins to write its frame. -/
def beginWrite (s : Screen) (pump : OutputPump) : Screen :=
  match pump.phase.frame with
  | frame :: _ =>
      match s.stream.put frame with
      | some stream => { s with pump := pump, stream := stream }
      | none => { s with pump := pump, draining := false }
  | [] => { s with pump := pump }

/-- A write that is not through yet keeps the drainer, one that raises ends it. -/
def endWrite (s : Screen) (pump : OutputPump) : Screen :=
  if s.stream.writable then
    if s.stream.pending.isEmpty then { s with pump := pump } else s
  else { s with draining := false }

def drain (s : Screen) (status : Option ExitStatus) : Screen :=
  match s.pump.phase with
  | DrainPhase.getting => s.beginWrite (s.pump.drain status)
  | DrainPhase.writing _ => s.endWrite (s.pump.drain status)
  | DrainPhase.exiting _ => s.endWrite (s.pump.drain status)
  | DrainPhase.finishing => { s with pump := s.pump.drain status, stream := s.stream.finish }
  | DrainPhase.done => s

def pumpStep (s : Screen) (e : PumpEvent) : Screen :=
  if s.draining then
    match e with
    | PumpEvent.readable result => { s with pump := s.pump.step (PumpEvent.readable result) }
    | PumpEvent.drain status => s.drain status
  else s

/-- A frame is queued; behind the exit frame, or when a read raises, `None`. -/
def pull (s : Screen) : Screen :=
  if s.pulling then
    match readFramed SHELL_FRAME_MAX s.arrived with
    | Except.ok (frame, rest) =>
        if isExit frame then
          { s with arrived := rest, inbound := s.inbound ++ [some frame, none], pulling := false }
        else { s with arrived := rest, inbound := s.inbound ++ [some frame] }
    | Except.error _ =>
        if s.stream.ready SHELL_FRAME_MAX s.arrived then
          { s with inbound := s.inbound ++ [none], pulling := false }
        else s
  else s

/-- `session.recv()` and `ws.send`; the thread ends behind the exit frame. -/
def relay (s : Screen) (sends : Bool) : Screen :=
  if s.relaying then
    match s.inbound with
    | [] => s
    | none :: inbound => { s with inbound := inbound, relaying := false }
    | some frame :: inbound =>
        if sends then
          { s with
            inbound := inbound
            shown := s.shown ++ [frame]
            relaying := !isExit frame }
        else { s with inbound := inbound, relaying := false }
  else s

def step (s : Screen) : ScreenEvent -> Screen
  | ScreenEvent.pump e => s.pumpStep e
  | ScreenEvent.accept n => { s with stream := s.stream.accept n }
  | ScreenEvent.deliver n =>
      { s with stream := (s.stream.deliver n).2, arrived := s.arrived ++ (s.stream.deliver n).1 }
  | ScreenEvent.gone kept =>
      { s with
        stream := (s.stream.gone s.arrived kept).2
        arrived := (s.stream.gone s.arrived kept).1 }
  | ScreenEvent.pull => s.pull
  | ScreenEvent.relay sends => s.relay sends

end Screen

/-- The stream is open and primed. -/
def Screen.started : Screen where
  pump := OutputPump.started
  draining := true
  stream := Pipe.primed
  arrived := []
  pulling := true
  inbound := []
  relaying := true
  shown := []

def screen : Machine Screen ScreenEvent where
  start s := s = Screen.started
  step := Screen.step

def ScreenReads (s : Screen) : ScreenEvent -> Prop
  | ScreenEvent.pump e => PtyReads s.pump e
  | _ => True

/-!
## What is on its way
-/

@[simp] theorem screenBytes_data (chunk : List UInt8) :
    screenBytes (dataFrame chunk) = chunk := by
  unfold screenBytes dataFrame
  exact if_pos rfl

@[simp] theorem screenBytes_exit (rc : Int) : screenBytes (exitFrame rc) = [] := by
  unfold screenBytes exitFrame
  exact if_neg (by decide)

theorem isExit_data (chunk : List UInt8) : isExit (dataFrame chunk) = false := rfl

theorem screenBytes_map (bodies : List (List UInt8)) :
    (bodies.map dataFrame).flatMap screenBytes = bodies.flatten := by
  induction bodies with
  | nil => rfl
  | cons body bodies ih =>
      rw [List.map_cons, List.flatMap_cons, screenBytes_data, ih, List.flatten_cons]

theorem screenBytes_phase (phase : DrainPhase) :
    phase.frame.flatMap screenBytes = phase.inFlight := by
  cases phase with
  | getting => rfl
  | writing chunk => exact List.append_nil chunk
  | exiting rc => rfl
  | finishing => rfl
  | done => rfl

theorem screenBytes_trailer {phase : DrainPhase} {trailer : List (List UInt8)}
    (h : phase.Trailer trailer) : trailer.flatMap screenBytes = [] := by
  cases phase with
  | getting => rw [show trailer = [] from h]; rfl
  | writing chunk => rw [show trailer = [] from h]; rfl
  | exiting rc => rw [show trailer = [] from h]; rfl
  | finishing => rcases h with ⟨rc, rfl⟩; rfl
  | done => rcases h with ⟨rc, rfl⟩; rfl

/--
The frames on their way: `taken` by the relay thread, queued, `left` in the stream, and
`unsent` since the drainer could not write them.
-/
structure Shown (s : Screen) (bodies chunks : List (List UInt8)) (sentinels : Nat)
    (taken left unsent : List (List UInt8)) : Prop where
  pumped : Pumped s.pump bodies chunks sentinels
  carried : Carries s.stream s.arrived left
  written : s.stream.written ++ unsent = [] :: (s.pump.frames ++ s.pump.phase.frame)
  draining : s.draining = true -> unsent = []
  queued : s.stream.written = taken ++ (s.inbound.filterMap id ++ left)
  shown : s.shown <+: taken
  relaying : s.relaying = true -> taken = s.shown
  running : s.relaying = true -> forall frame, frame ∈ s.shown -> isExit frame = false

section Steps

variable {s : Screen} {bodies chunks taken left unsent : List (List UInt8)} {sentinels : Nat}

theorem shown_started : Shown Screen.started [] [] 0 [] [[]] [] where
  pumped := pumped_started
  carried := carries_primed
  written := rfl
  draining := fun _ => rfl
  queued := rfl
  shown := List.prefix_rfl
  relaying := fun _ => rfl
  running := fun _ _ hframe => absurd hframe List.not_mem_nil

theorem Shown.move (h : Shown s bodies chunks sentinels taken left unsent) {stream : Pipe}
    {arrived : List UInt8} (hcarried : Carries stream arrived left)
    (hwritten : stream.written = s.stream.written) :
    Shown { s with stream := stream, arrived := arrived } bodies chunks sentinels taken left
      unsent where
  pumped := h.pumped
  carried := hcarried
  written := by rw [show ({ s with stream := stream, arrived := arrived } : Screen).stream.written
      = s.stream.written from hwritten]; exact h.written
  draining := h.draining
  queued := hwritten.trans h.queued
  shown := h.shown
  relaying := h.relaying
  running := h.running

theorem Shown.pumpOnly (h : Shown s bodies chunks sentinels taken left unsent)
    {pump : OutputPump} {bodies' chunks' : List (List UInt8)} {sentinels' : Nat}
    (hpumped : Pumped pump bodies' chunks' sentinels')
    (hframes : pump.frames ++ pump.phase.frame = s.pump.frames ++ s.pump.phase.frame) :
    Shown { s with pump := pump } bodies' chunks' sentinels' taken left unsent where
  pumped := hpumped
  carried := h.carried
  written := h.written.trans (congrArg (List.cons []) hframes.symm)
  draining := h.draining
  queued := h.queued
  shown := h.shown
  relaying := h.relaying
  running := h.running

theorem Shown.beginWrite (h : Shown s bodies chunks sentinels taken left [])
    {pump : OutputPump} {bodies' chunks' : List (List UInt8)} {sentinels' : Nat}
    (hpumped : Pumped pump bodies' chunks' sentinels') (hframes : pump.frames = s.pump.frames)
    (hphase : s.pump.phase = DrainPhase.getting) :
    exists left' unsent', Shown (s.beginWrite pump) bodies' chunks' sentinels' taken left'
      unsent' := by
  have hbefore : s.stream.written = [] :: pump.frames := by
    have hwritten := h.written
    rw [hphase, List.append_nil] at hwritten
    rw [hwritten, hframes]
    exact congrArg (List.cons []) (List.append_nil _)
  have hone : forall frame rest, pump.phase.frame = frame :: rest -> rest = [] := by
    intro frame rest hframe
    cases hnext : pump.phase with
    | getting => rw [hnext] at hframe; cases hframe
    | writing chunk => rw [hnext] at hframe; cases hframe; rfl
    | exiting rc => rw [hnext] at hframe; cases hframe; rfl
    | finishing => rw [hnext] at hframe; cases hframe
    | done => rw [hnext] at hframe; cases hframe
  unfold Screen.beginWrite
  cases hframe : pump.phase.frame with
  | nil =>
      refine ⟨left, [], h.pumpOnly hpumped ?_⟩
      rw [hframe, hframes, hphase]
      rfl
  | cons frame rest =>
      have hrest := hone frame rest hframe
      subst hrest
      simp only
      cases hput : s.stream.put frame with
      | some stream =>
          refine ⟨left ++ [frame], [], hpumped, h.carried.put hput, ?_, fun _ => rfl, ?_,
            h.shown, h.relaying, h.running⟩
          · show stream.written ++ [] = [] :: (pump.frames ++ pump.phase.frame)
            rw [put_written hput, hbefore, hframe, List.append_nil]
            rfl
          · show stream.written = taken ++ (s.inbound.filterMap id ++ (left ++ [frame]))
            rw [put_written hput, h.queued]
            simp only [List.append_assoc]
      | none =>
          refine ⟨left, [frame], hpumped, h.carried, ?_, (fun hdrains => by cases hdrains),
            h.queued, h.shown, h.relaying, h.running⟩
          show s.stream.written ++ [frame] = [] :: (pump.frames ++ pump.phase.frame)
          rw [hbefore, hframe]
          rfl

theorem Shown.stop (h : Shown s bodies chunks sentinels taken left unsent) :
    Shown { s with draining := false } bodies chunks sentinels taken left unsent where
  pumped := h.pumped
  carried := h.carried
  written := h.written
  draining := fun hdrains => by cases hdrains
  queued := h.queued
  shown := h.shown
  relaying := h.relaying
  running := h.running

theorem drain_frames {pump : OutputPump} (hphase : pump.phase.frame ≠ [])
    (status : Option ExitStatus) :
    (pump.drain status).frames ++ (pump.drain status).phase.frame =
      pump.frames ++ pump.phase.frame := by
  cases hnow : pump.phase with
  | getting => rw [hnow] at hphase; exact absurd rfl hphase
  | writing chunk =>
      rw [drain_written hnow]
      exact List.append_nil _
  | exiting rc =>
      simp only [OutputPump.drain, hnow]
      exact List.append_nil _
  | finishing => rw [hnow] at hphase; exact absurd rfl hphase
  | done => rw [hnow] at hphase; exact absurd rfl hphase

theorem Shown.endWrite (h : Shown s bodies chunks sentinels taken left unsent)
    (hphase : s.pump.phase.frame ≠ []) (status : Option ExitStatus) :
    exists bodies' chunks' sentinels',
      Shown (s.endWrite (s.pump.drain status)) bodies' chunks' sentinels' taken left unsent := by
  rcases h.pumped.step (e := PumpEvent.drain status) trivial with
    ⟨bodies', chunks', sentinels', hpumped⟩
  unfold Screen.endWrite
  split
  · split
    · exact ⟨bodies', chunks', sentinels', h.pumpOnly hpumped (drain_frames hphase status)⟩
    · exact ⟨bodies, chunks, sentinels, h⟩
  · exact ⟨bodies, chunks, sentinels, h.stop⟩

theorem Shown.drain (h : Shown s bodies chunks sentinels taken left unsent)
    (hdraining : s.draining = true) (status : Option ExitStatus) :
    exists bodies' chunks' sentinels' left' unsent',
      Shown (s.drain status) bodies' chunks' sentinels' taken left' unsent' := by
  rcases h.pumped.step (e := PumpEvent.drain status) trivial with
    ⟨bodies', chunks', sentinels', hpumped⟩
  have hpumped : Pumped (s.pump.drain status) bodies' chunks' sentinels' := hpumped
  unfold Screen.drain
  cases hphase : s.pump.phase with
  | getting =>
      have hunsent := h.draining hdraining
      rw [hunsent] at h
      have hframes : (s.pump.drain status).frames = s.pump.frames := by
        simp only [OutputPump.drain, hphase]
        split
        · rfl
        · rfl
        · rfl
      rcases h.beginWrite hpumped hframes hphase with ⟨left', unsent', hnext⟩
      exact ⟨bodies', chunks', sentinels', left', unsent', hnext⟩
  | writing chunk =>
      rcases h.endWrite (by rw [hphase]; exact List.cons_ne_nil _ _) status with
        ⟨bodies', chunks', sentinels', hnext⟩
      exact ⟨bodies', chunks', sentinels', left, unsent, hnext⟩
  | exiting rc =>
      rcases h.endWrite (by rw [hphase]; exact List.cons_ne_nil _ _) status with
        ⟨bodies', chunks', sentinels', hnext⟩
      exact ⟨bodies', chunks', sentinels', left, unsent, hnext⟩
  | finishing =>
      have hframes : (s.pump.drain status).frames ++ (s.pump.drain status).phase.frame =
          s.pump.frames ++ s.pump.phase.frame := by
        simp only [OutputPump.drain, hphase]
        rfl
      exact ⟨bodies', chunks', sentinels', left, unsent,
        (h.pumpOnly hpumped hframes).move h.carried.finish rfl⟩
  | done => exact ⟨bodies, chunks, sentinels, left, unsent, h⟩

theorem readable_frames (pump : OutputPump) (result : PtyRead) :
    (pump.step (PumpEvent.readable result)).frames = pump.frames ∧
      (pump.step (PumpEvent.readable result)).phase = pump.phase := by
  unfold OutputPump.step
  simp only
  split
  · cases result with
    | data chunk => exact ⟨rfl, rfl⟩
    | blocked => exact ⟨rfl, rfl⟩
    | eof => exact ⟨rfl, rfl⟩
  · exact ⟨rfl, rfl⟩

theorem Shown.pumpStep (h : Shown s bodies chunks sentinels taken left unsent) {e : PumpEvent}
    (hreads : PtyReads s.pump e) :
    exists bodies' chunks' sentinels' left' unsent',
      Shown (s.pumpStep e) bodies' chunks' sentinels' taken left' unsent' := by
  unfold Screen.pumpStep
  split
  · rename_i hdraining
    cases e with
    | readable result =>
        rcases h.pumped.step hreads with ⟨bodies', chunks', sentinels', hpumped⟩
        rcases readable_frames s.pump result with ⟨hframes, hphase⟩
        refine ⟨bodies', chunks', sentinels', left, unsent, h.pumpOnly hpumped ?_⟩
        rw [hframes, hphase]
    | drain status => exact h.drain hdraining status
  · exact ⟨bodies, chunks, sentinels, left, unsent, h⟩

theorem Shown.pull (h : Shown s bodies chunks sentinels taken left unsent) :
    exists left', Shown s.pull bodies chunks sentinels taken left' unsent := by
  unfold Screen.pull
  split
  · cases hread : readFramed SHELL_FRAME_MAX s.arrived with
    | ok read =>
        rcases read with ⟨frame, rest⟩
        rcases h.carried.read hread with ⟨_, left', rfl, hcarried⟩
        refine ⟨left', ?_⟩
        simp only
        split
        · refine ⟨h.pumped, hcarried, h.written, h.draining, ?_, h.shown, h.relaying, h.running⟩
          rw [h.queued]
          simp
        · refine ⟨h.pumped, hcarried, h.written, h.draining, ?_, h.shown, h.relaying, h.running⟩
          rw [h.queued]
          simp
    | error error =>
        refine ⟨left, ?_⟩
        simp only
        split
        · refine ⟨h.pumped, h.carried, h.written, h.draining, ?_, h.shown, h.relaying, h.running⟩
          rw [h.queued]
          simp
        · exact h
  · exact ⟨left, h⟩

theorem Shown.relay (h : Shown s bodies chunks sentinels taken left unsent) (sends : Bool) :
    exists taken', Shown (s.relay sends) bodies chunks sentinels taken' left unsent := by
  unfold Screen.relay
  split
  · rename_i hrelaying
    have htaken := h.relaying hrelaying
    have hqueued := h.queued
    cases hinbound : s.inbound with
    | nil => exact ⟨taken, h⟩
    | cons first inbound =>
        rw [hinbound] at hqueued
        cases first with
        | none =>
            exact ⟨taken, h.pumped, h.carried, h.written, h.draining, hqueued, h.shown,
              (fun hstill => by cases hstill), fun hstill => by cases hstill⟩
        | some frame =>
            have hnext : s.stream.written = (taken ++ [frame]) ++
                (inbound.filterMap id ++ left) := by
              rw [hqueued]
              simp
            simp only
            split
            · refine ⟨taken ++ [frame], h.pumped, h.carried, h.written, h.draining, hnext,
                ?_, ?_, ?_⟩
              · exact htaken ▸ List.prefix_rfl
              · intro _
                show taken ++ [frame] = s.shown ++ [frame]
                rw [htaken]
              · intro hstill shown hshown
                rcases List.mem_append.mp hshown with hbefore | hnow
                · exact h.running hrelaying shown hbefore
                · rw [List.mem_singleton.mp hnow]
                  exact (Bool.not_eq_true' _).mp hstill
            · exact ⟨taken ++ [frame], h.pumped, h.carried, h.written, h.draining, hnext,
                h.shown.trans (List.prefix_append _ _), (fun hstill => by cases hstill),
                fun hstill => by cases hstill⟩
  · exact ⟨taken, h⟩

theorem Shown.step (h : Shown s bodies chunks sentinels taken left unsent) {e : ScreenEvent}
    (hreads : ScreenReads s e) :
    exists bodies' chunks' sentinels' taken' left' unsent',
      Shown (s.step e) bodies' chunks' sentinels' taken' left' unsent' := by
  cases e with
  | pump e =>
      rcases h.pumpStep hreads with ⟨bodies', chunks', sentinels', left', unsent', hnext⟩
      exact ⟨bodies', chunks', sentinels', taken, left', unsent', hnext⟩
  | accept n =>
      exact ⟨bodies, chunks, sentinels, taken, left, unsent, h.move (h.carried.accept n) rfl⟩
  | deliver n =>
      exact ⟨bodies, chunks, sentinels, taken, left, unsent, h.move (h.carried.deliver n) rfl⟩
  | gone kept =>
      exact ⟨bodies, chunks, sentinels, taken, left, unsent, h.move (h.carried.gone kept) rfl⟩
  | pull =>
      rcases h.pull with ⟨left', hnext⟩
      exact ⟨bodies, chunks, sentinels, taken, left', unsent, hnext⟩
  | relay sends =>
      rcases h.relay sends with ⟨taken', hnext⟩
      exact ⟨bodies, chunks, sentinels, taken', left, unsent, hnext⟩

end Steps

/-!
## What the browser sees
-/

/--
The screen shows the beginning of what was read from the pty.  While the relay thread runs,
the rest is on its way; the exit frame comes when everything is shown, and nothing after it.
-/
structure ScreenLaw (s : Screen) : Prop where
  ordered : s.shown.flatMap screenBytes <+: s.pump.read
  conserved : s.relaying = true -> exists left unsent : List (List UInt8),
    writeAll left =
      some (s.arrived ++ (s.stream.transit ++ (s.stream.pending ++ s.stream.lost))) ∧
    (s.draining = true -> unsent = []) ∧
    s.shown.flatMap screenBytes ++
      ((s.inbound.filterMap id ++ left ++ unsent).flatMap screenBytes ++
        (s.pump.queue.filterMap id).flatten) = s.pump.read
  delivered : s.relaying = true -> s.draining = true -> s.stream.stopped = false ->
    s.inbound = [] -> s.arrived = [] -> s.stream.transit = [] -> s.stream.pending = [] ->
    s.pump.queue = [] -> s.shown.flatMap screenBytes = s.pump.read
  exited : forall front frame back, s.shown = front ++ frame :: back -> isExit frame = true ->
    back = [] ∧ (exists rc, frame = exitFrame rc) ∧ front.flatMap screenBytes = s.pump.read ∧
      s.relaying = false

section Law

variable {s : Screen} {bodies chunks taken left unsent : List (List UInt8)} {sentinels : Nat}

/-- Behind the chunks there is at most one frame, and an exit frame only after the loop. -/
theorem trailer_cases {phase : DrainPhase} {trailer : List (List UInt8)}
    (h : phase.Trailer trailer) :
    trailer ++ phase.frame = [] ∨ (exists chunk, trailer ++ phase.frame = [dataFrame chunk]) ∨
      (exists rc, trailer ++ phase.frame = [exitFrame rc] ∧ phase.LoopLeft) := by
  cases phase with
  | getting => rw [show trailer = [] from h]; exact Or.inl rfl
  | writing chunk => rw [show trailer = [] from h]; exact Or.inr (Or.inl ⟨chunk, rfl⟩)
  | exiting rc => rw [show trailer = [] from h]; exact Or.inr (Or.inr ⟨rc, rfl, trivial⟩)
  | finishing => rcases h with ⟨rc, rfl⟩; exact Or.inr (Or.inr ⟨rc, rfl, trivial⟩)
  | done => rcases h with ⟨rc, rfl⟩; exact Or.inr (Or.inr ⟨rc, rfl, trivial⟩)

/-- Where no frame in front is an exit frame, the one behind them is the last. -/
theorem exit_last {quiet front back : List (List UInt8)} {last frame : List UInt8}
    (hquiet : forall f, f ∈ quiet -> isExit f = false) (hexit : isExit frame = true)
    (hsplit : quiet ++ [last] = front ++ frame :: back) :
    front = quiet ∧ frame = last ∧ back = [] := by
  induction quiet generalizing front with
  | nil =>
      cases front with
      | nil =>
          cases hsplit
          exact ⟨rfl, rfl, rfl⟩
      | cons f front => simp at hsplit
  | cons q quiet ih =>
      cases front with
      | nil =>
          have hsame : q = frame := (List.cons.inj hsplit).left
          have hquietly := hquiet q (List.mem_cons_self ..)
          rw [hsame, hexit] at hquietly
          cases hquietly
      | cons f front =>
          rcases List.cons.inj hsplit with ⟨rfl, hrest⟩
          rcases ih (fun f hf => hquiet f (List.mem_cons_of_mem _ hf)) hrest with
            ⟨rfl, hframe, hback⟩
          exact ⟨rfl, hframe, hback⟩

/-- The bytes of everything the pump has begun to write, and what it has queued. -/
theorem Shown.total (h : Shown s bodies chunks sentinels taken left unsent) :
    (taken ++ (s.inbound.filterMap id ++ left) ++ unsent).flatMap screenBytes ++
      (s.pump.queue.filterMap id).flatten = s.pump.read := by
  rcases h.pumped.frames with ⟨trailer, hframes, htrailer⟩
  have htotal : taken ++ (s.inbound.filterMap id ++ left) ++ unsent =
      [] :: (bodies.map dataFrame ++ trailer ++ s.pump.phase.frame) := by
    rw [← h.queued, h.written, hframes]
  rw [htotal, h.pumped.queued.right, ← h.pumped.data]
  simp only [List.flatMap_cons, List.flatMap_append, screenBytes_map, screenBytes_phase,
    screenBytes_trailer htrailer, screenBytes, List.nil_append, List.append_nil]

theorem Shown.exited (h : Shown s bodies chunks sentinels taken left unsent)
    {front back : List (List UInt8)} {frame : List UInt8}
    (hshown : s.shown = front ++ frame :: back) (hexit : isExit frame = true) :
    back = [] ∧ (exists rc, frame = exitFrame rc) ∧
      front.flatMap screenBytes = s.pump.read := by
  rcases h.pumped.frames with ⟨trailer, hframes, htrailer⟩
  rcases h.shown with ⟨more, hmore⟩
  have htotal : ([] :: bodies.map dataFrame) ++ (trailer ++ s.pump.phase.frame) =
      front ++ frame :: (back ++ (more ++ (s.inbound.filterMap id ++ left ++ unsent))) := by
    have hwritten := h.written
    rw [h.queued, ← hmore, hshown, hframes] at hwritten
    simp only [List.append_assoc, List.cons_append] at hwritten ⊢
    exact hwritten.symm
  have hquiet : forall f, f ∈ [] :: bodies.map dataFrame -> isExit f = false := by
    intro f hf
    rcases List.mem_cons.mp hf with rfl | hbody
    · rfl
    · rcases List.mem_map.mp hbody with ⟨body, _, rfl⟩
      exact isExit_data body
  rcases trailer_cases htrailer with hnone | ⟨chunk, hdata⟩ | ⟨rc, hlast, hleft⟩
  · have hmem : frame ∈ [] :: bodies.map dataFrame := by
      rw [hnone, List.append_nil] at htotal
      rw [htotal]
      exact List.mem_append_right _ (List.mem_cons_self ..)
    rw [hquiet frame hmem] at hexit
    cases hexit
  · rw [hdata] at htotal
    rcases exit_last hquiet hexit htotal with ⟨_, hframe, _⟩
    rw [hframe, isExit_data] at hexit
    cases hexit
  · rw [hlast] at htotal
    rcases exit_last hquiet hexit htotal with ⟨hfront, hframe, hback⟩
    refine ⟨(List.append_eq_nil_iff.mp hback).left, ⟨rc, hframe⟩, ?_⟩
    have hdata := h.pumped.data
    rw [h.pumped.left hleft] at hdata
    have hflight : s.pump.phase.inFlight = [] := by
      cases hphase : s.pump.phase with
      | getting => rfl
      | writing chunk => rw [hphase] at hleft; exact hleft.elim
      | exiting rc => rfl
      | finishing => rfl
      | done => rfl
    rw [hflight, List.flatten_nil, List.append_nil, List.append_nil] at hdata
    rw [hfront, List.flatMap_cons, screenBytes_map, ← hdata]
    rfl

theorem Shown.law (h : Shown s bodies chunks sentinels taken left unsent) : ScreenLaw s := by
  have htotal := h.total
  constructor
  · refine (h.shown.flatMap screenBytes).trans ?_
    rw [← htotal, List.flatMap_append, List.flatMap_append, List.append_assoc, List.append_assoc]
    exact List.prefix_append _ _
  · intro hrelaying
    refine ⟨left, unsent, h.carried.bytes, h.draining, ?_⟩
    rw [← htotal, h.relaying hrelaying]
    simp only [List.flatMap_append, List.append_assoc]
  · intro hrelaying hdraining hstopped hinbound harrived htransit hpending hqueue
    have hleft : left = [] := by
      have hwaiting : s.stream.ready 0 s.arrived = false := by
        unfold Pipe.ready
        rw [harrived]
        exact hstopped
      exact h.carried.nil_of_waiting hstopped htransit hpending hwaiting
    rw [h.relaying hrelaying, h.draining hdraining, hinbound, hleft, hqueue] at htotal
    simpa using htotal
  · intro front frame back hshown hexit
    rcases h.exited hshown hexit with ⟨hback, hframe, hall⟩
    refine ⟨hback, hframe, hall, ?_⟩
    cases hrelaying : s.relaying with
    | false => rfl
    | true =>
        have hnone := h.running hrelaying frame (by rw [hshown]; simp)
        rw [hexit] at hnone
        cases hnone

end Law

/--
In every state of every run, whatever the interleaving of the pumps, the stream and the relay
thread: nothing of what the pty gave is lost, repeated or put in another order on its way.
-/
theorem screen_law {s : Screen} (hreach : screen.Reachable ScreenReads s) : ScreenLaw s := by
  have hshown : exists bodies chunks sentinels taken left unsent,
      Shown s bodies chunks sentinels taken left unsent := by
    apply hreach.invariant (I := fun s => exists bodies chunks sentinels taken left unsent,
      Shown s bodies chunks sentinels taken left unsent)
    · intro s hstart
      have hstarted : s = Screen.started := hstart
      rw [hstarted]
      exact ⟨[], [], 0, [], [[]], [], shown_started⟩
    · intro s e hinv hreads
      rcases hinv with ⟨bodies, chunks, sentinels, taken, left, unsent, h⟩
      exact h.step hreads
  rcases hshown with ⟨bodies, chunks, sentinels, taken, left, unsent, h⟩
  exact h.law

/-- The pty prints two bytes and ends; the stream takes and brings its bytes in pieces. -/
def screenSession : List ScreenEvent :=
  [ScreenEvent.pump (PumpEvent.readable (PtyRead.data [104, 105])),
    ScreenEvent.accept 4, ScreenEvent.deliver 4, ScreenEvent.pull, ScreenEvent.relay true,
    ScreenEvent.pump (PumpEvent.drain none), ScreenEvent.accept 9, ScreenEvent.deliver 5,
    ScreenEvent.pull, ScreenEvent.pump (PumpEvent.readable PtyRead.eof),
    ScreenEvent.pump (PumpEvent.drain none), ScreenEvent.deliver 2, ScreenEvent.pull,
    ScreenEvent.pump (PumpEvent.drain (some (ExitStatus.exited 0))), ScreenEvent.accept 9,
    ScreenEvent.deliver 9, ScreenEvent.relay true, ScreenEvent.pull, ScreenEvent.relay true]

theorem screen_law_session :
    ScreenLaw (screen.exec Screen.started screenSession) ∧
      (screen.exec Screen.started screenSession).shown = [[], [0, 104, 105], [3, 0, 0, 0, 0]] := by
  have hstart : screen.Run ScreenReads [] Screen.started := Machine.Run.start rfl
  have hrun := hstart.exec screenSession
    ⟨⟨rfl, by decide, by decide⟩, trivial, trivial, trivial, trivial, trivial, trivial, trivial,
      trivial, trivial, trivial, trivial, trivial, trivial, trivial, trivial, trivial, trivial,
      trivial, trivial⟩
  exact ⟨screen_law ⟨_, hrun⟩, by decide⟩

end Shell
end PanicMonitr
