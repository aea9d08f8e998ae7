import PanicMonitr.Foundation.Machine
import PanicMonitr.Foundation.Sequences
import PanicMonitr.Shell.Serve

/-!
# Permits of outbound shells

A dashboard terminal opens a shell on a peer: its handler thread waits for
`open_peer_shell` on the loop, relays the session, and schedules `_aclose` when it is
done.  A permit of `_shell_semaphore` goes from the call to the session and back.
-/

namespace PanicMonitr
namespace Shell

open Foundation

/-!
## A terminal
-/

/-- The thread of `_serve_peer_shell`; `left` has called `session.close()`. -/
inductive HandlerPhase where
  | waiting
  | relaying
  | left
  | gaveUp
  deriving DecidableEq

/-- The coroutine of `open_peer_shell`; `connecting` is everything behind `acquire()`. -/
inductive CallPhase where
  | queued
  | connecting
  | returned
  | raised
  deriving DecidableEq

/-- Who runs `_aclose`: the task that `close()` has scheduled, or the shutdown. -/
inductive Closer where
  | task
  | shutdown
  deriving DecidableEq

/--
A `ShellSession`.  `closing` has set `_closed` and awaits the last frame; an `_aclose`
that is cancelled there leaves the session `abandoned`.
-/
inductive SessionPhase where
  | absent
  | active
  | closing (closer : Closer)
  | abandoned
  | closed
  deriving DecidableEq

/--
`scheduled` is a task for `_aclose` that has not begun.  `acquired` and `released` are
history variables: the calls on the semaphore made for this terminal.
-/
structure Terminal where
  handler : HandlerPhase
  call : CallPhase
  session : SessionPhase
  scheduled : Bool
  acquired : Nat
  released : Nat

namespace Terminal

/-- The session is in `_shell_sessions`. -/
def Listed (t : Terminal) : Prop :=
  t.session ≠ SessionPhase.absent ∧ t.session ≠ SessionPhase.closed

/-- `open_peer_shell` is past `acquire()`, and its caller waits. -/
def CallRunning (t : Terminal) : Prop :=
  t.call = CallPhase.connecting ∧ t.handler = HandlerPhase.waiting

/-- `_aclose` has begun. -/
def Closing (t : Terminal) : Prop :=
  t.session = SessionPhase.closing Closer.task ∨
    t.session = SessionPhase.closing Closer.shutdown

/-- A handler has got the session, and its `_aclose` has not run. -/
def Attached (t : Terminal) : Prop :=
  (t.handler = HandlerPhase.relaying ∨ t.handler = HandlerPhase.left) ∧ t.Listed

/-- The handler has returned, and no `_aclose` is still to run. -/
def Gone (t : Terminal) : Prop :=
  (t.handler = HandlerPhase.left ∨ t.handler = HandlerPhase.gaveUp) ∧
    t.scheduled = false ∧ ¬ t.Closing

instance (t : Terminal) : Decidable t.Listed :=
  inferInstanceAs (Decidable (_ ∧ _))

instance (t : Terminal) : Decidable t.CallRunning :=
  inferInstanceAs (Decidable (_ ∧ _))

instance (t : Terminal) : Decidable t.Closing :=
  inferInstanceAs (Decidable (_ ∨ _))

instance (t : Terminal) : Decidable t.Attached :=
  inferInstanceAs (Decidable (_ ∧ _))

def owners (t : Terminal) : Nat :=
  (if t.CallRunning then 1 else 0) + (if t.Attached then 1 else 0)

/-- A terminal that is opened; `refused` is an error before `acquire()`. -/
def opened (refused : Bool) : Terminal :=
  { handler := if refused then HandlerPhase.gaveUp else HandlerPhase.waiting
    call := if refused then CallPhase.raised else CallPhase.queued
    session := SessionPhase.absent
    scheduled := false
    acquired := 0
    released := 0 }

def hears (result : HandlerPhase) (t : Terminal) : HandlerPhase :=
  if t.handler = HandlerPhase.waiting then result else t.handler

/-- The `except` of `open_peer_shell`: the permit goes back and the error to the caller. -/
def callRaised (t : Terminal) : Terminal :=
  { t with
    handler := t.hears HandlerPhase.gaveUp
    call := CallPhase.raised
    released := t.released + 1 }

/-- The end of `open_peer_shell`: the session owns the permit. -/
def callReturned (t : Terminal) : Terminal :=
  { t with
    handler := t.hears HandlerPhase.relaying
    call := CallPhase.returned
    session := SessionPhase.active }

/-- `_aclose` up to its first `await`; it returns at once if it has begun before. -/
def beginClose (closer : Closer) (t : Terminal) : Terminal :=
  if t.session = SessionPhase.active then { t with session := SessionPhase.closing closer }
  else t

/-- The end of `_aclose`. -/
def endClose (t : Terminal) : Terminal :=
  { t with session := SessionPhase.closed, released := t.released + 1 }

/-- The shutdown cancels the task for `_aclose`, begun or not. -/
def cancelClose (t : Terminal) : Terminal :=
  { t with
    scheduled := false
    session :=
      if t.session = SessionPhase.closing Closer.task then SessionPhase.abandoned
      else t.session }

end Terminal

/-!
## The engine
-/

/-- The semaphore, `_shell_sessions`, and the terminals opened so far. -/
structure Terminals where
  free : Nat
  shellSessions : List Nat
  terminals : List Terminal

inductive TerminalAction where
  | acquire
  | connectRaises
  | connected
  /-- `fut.result(timeout=35)` raises -/
  | timeout
  /-- the browser, the peer or an error ends the relay -/
  | leave
  | closeBegins
  | closeEnds
  | shutdownCloses
  | shutdownCancels

inductive TerminalEvent where
  | openTerminal (refused : Bool)
  | go (i : Nat) (action : TerminalAction)

namespace Terminals

def put (s : Terminals) (i : Nat) (t : Terminal) : Terminals :=
  { s with terminals := s.terminals.set i t }

def stepAt (s : Terminals) (i : Nat) (t : Terminal) : TerminalAction -> Terminals
  | TerminalAction.acquire =>
      if t.call = CallPhase.queued ∧ 0 < s.free then
        { s.put i { t with call := CallPhase.connecting, acquired := t.acquired + 1 } with
          free := s.free - 1 }
      else s
  | TerminalAction.connectRaises =>
      if t.call = CallPhase.connecting then
        { s.put i t.callRaised with free := s.free + 1 }
      else s
  | TerminalAction.connected =>
      if t.call = CallPhase.connecting then
        { s.put i t.callReturned with shellSessions := s.shellSessions ++ [i] }
      else s
  | TerminalAction.timeout =>
      if t.handler = HandlerPhase.waiting then
        s.put i { t with handler := HandlerPhase.gaveUp }
      else s
  | TerminalAction.leave =>
      if t.handler = HandlerPhase.relaying then
        s.put i { t with handler := HandlerPhase.left, scheduled := true }
      else s
  | TerminalAction.closeBegins =>
      if t.scheduled = true then
        s.put i { t.beginClose Closer.task with scheduled := false }
      else s
  | TerminalAction.closeEnds =>
      if t.Closing then
        { s.put i t.endClose with
          free := s.free + 1
          shellSessions := s.shellSessions.filter (fun j => decide (j ≠ i)) }
      else s
  | TerminalAction.shutdownCloses =>
      if i ∈ s.shellSessions then s.put i (t.beginClose Closer.shutdown) else s
  | TerminalAction.shutdownCancels => s.put i t.cancelClose

def step (s : Terminals) : TerminalEvent -> Terminals
  | TerminalEvent.openTerminal refused =>
      { s with terminals := s.terminals ++ [Terminal.opened refused] }
  | TerminalEvent.go i action =>
      match s.terminals[i]? with
      | none => s
      | some t => s.stepAt i t action

def taken (s : Terminals) : Nat :=
  SHELL_MAX_SESSIONS - s.free

def Start (s : Terminals) : Prop :=
  s = { free := SHELL_MAX_SESSIONS, shellSessions := [], terminals := [] }

/--
Every taken permit has its owner, every permit is released once, and when all terminals
are gone all permits are free and no session is left.
-/
structure Accounted (s : Terminals) : Prop where
  balanced : s.free <= SHELL_MAX_SESSIONS ∧
    s.taken = s.terminals.countP (fun t => decide t.CallRunning) +
      s.terminals.countP (fun t => decide t.Attached)
  once : forall t, t ∈ s.terminals ->
    t.acquired <= 1 ∧ t.acquired = t.released + t.owners
  drained : (forall t, t ∈ s.terminals -> t.Gone) ->
    s.free = SHELL_MAX_SESSIONS ∧ s.shellSessions = []

end Terminals

def dashboardTerminals : Machine Terminals TerminalEvent :=
  { start := Terminals.Start, step := Terminals.step }

/--
No permit is held for a caller that has stopped waiting, and the shutdown cancels no
`_aclose`.
-/
def Terminal.Owned (t : Terminal) : TerminalAction -> Prop
  | TerminalAction.acquire => t.call = CallPhase.queued -> t.handler = HandlerPhase.waiting
  | TerminalAction.timeout => t.call ≠ CallPhase.connecting
  | TerminalAction.shutdownCancels =>
      t.scheduled = false ∧ t.session ≠ SessionPhase.closing Closer.task
  | _ => True

def OwnedPermits (s : Terminals) : TerminalEvent -> Prop
  | TerminalEvent.openTerminal _ => True
  | TerminalEvent.go i action => forall t, s.terminals[i]? = some t -> t.Owned action

/-!
## The shapes of a terminal
-/

/-- What a terminal looks like whose permit always has an owner. -/
inductive Sound : Terminal -> Prop where
  | queued {handler : HandlerPhase} :
      handler = HandlerPhase.waiting ∨ handler = HandlerPhase.gaveUp ->
        Sound ⟨handler, CallPhase.queued, SessionPhase.absent, false, 0, 0⟩
  | refused : Sound ⟨HandlerPhase.gaveUp, CallPhase.raised, SessionPhase.absent, false, 0, 0⟩
  | connecting :
      Sound ⟨HandlerPhase.waiting, CallPhase.connecting, SessionPhase.absent, false, 1, 0⟩
  | failed : Sound ⟨HandlerPhase.gaveUp, CallPhase.raised, SessionPhase.absent, false, 1, 1⟩
  | relaying :
      Sound ⟨HandlerPhase.relaying, CallPhase.returned, SessionPhase.active, false, 1, 0⟩
  | leaving : Sound ⟨HandlerPhase.left, CallPhase.returned, SessionPhase.active, true, 1, 0⟩
  | closing {handler : HandlerPhase} {closer : Closer} {scheduled : Bool} :
      handler = HandlerPhase.relaying ∨ handler = HandlerPhase.left ->
        Sound ⟨handler, CallPhase.returned, SessionPhase.closing closer, scheduled, 1, 0⟩
  | closed {handler : HandlerPhase} {scheduled : Bool} :
      handler = HandlerPhase.relaying ∨ handler = HandlerPhase.left ->
        Sound ⟨handler, CallPhase.returned, SessionPhase.closed, scheduled, 1, 1⟩

theorem Terminal.Closing.session {t : Terminal} (h : t.Closing) :
    exists closer, t.session = SessionPhase.closing closer := by
  rcases h with h | h
  · exact ⟨Closer.task, h⟩
  · exact ⟨Closer.shutdown, h⟩

theorem Terminal.not_begun {t : Terminal} (hsession : t.session = SessionPhase.absent)
    (hscheduled : t.scheduled = false) : ¬ (t.Listed ∨ t.scheduled = true) := by
  intro h
  rcases h with hlisted | htrue
  · exact hlisted.left hsession
  · rw [hscheduled] at htrue
    cases htrue

section Shapes

variable {t : Terminal} (h : Sound t)
include h

theorem Sound.once : t.acquired <= 1 ∧ t.acquired = t.released + t.owners := by
  cases h with
  | queued hhandler =>
      simp [Terminal.owners, Terminal.CallRunning, Terminal.Attached, Terminal.Listed]
  | refused => decide
  | connecting => decide
  | failed => decide
  | relaying => decide
  | leaving => decide
  | closing hhandler =>
      simp [Terminal.owners, Terminal.CallRunning, Terminal.Attached, Terminal.Listed, hhandler]
  | closed hhandler =>
      simp [Terminal.owners, Terminal.CallRunning, Terminal.Attached, Terminal.Listed]

theorem Sound.gone (hgone : t.Gone) : t.acquired = t.released ∧ ¬ t.Listed := by
  rcases hgone with ⟨hhandler, hscheduled, hclosing⟩
  cases h with
  | queued => exact ⟨rfl, fun hlisted => hlisted.left rfl⟩
  | refused => exact ⟨rfl, fun hlisted => hlisted.left rfl⟩
  | connecting => rcases hhandler with hhandler | hhandler <;> cases hhandler
  | failed => exact ⟨rfl, fun hlisted => hlisted.left rfl⟩
  | relaying => rcases hhandler with hhandler | hhandler <;> cases hhandler
  | leaving => cases hscheduled
  | closing =>
      rename_i closer _ _
      cases closer with
      | task => exact absurd (Or.inl rfl) hclosing
      | shutdown => exact absurd (Or.inr rfl) hclosing
  | closed => exact ⟨rfl, fun hlisted => hlisted.right rfl⟩

theorem Sound.acquire (hcall : t.call = CallPhase.queued)
    (howned : t.handler = HandlerPhase.waiting) :
    Sound { t with call := CallPhase.connecting, acquired := t.acquired + 1 } := by
  cases h with
  | queued =>
      cases howned
      exact Sound.connecting
  | refused => cases hcall
  | connecting => cases hcall
  | failed => cases hcall
  | relaying => cases hcall
  | leaving => cases hcall
  | closing => cases hcall
  | closed => cases hcall

/-- A call that has its permit: its caller waits and there is no session yet. -/
theorem Sound.of_connecting (hcall : t.call = CallPhase.connecting) :
    t = ⟨HandlerPhase.waiting, CallPhase.connecting, SessionPhase.absent, false, 1, 0⟩ := by
  cases h with
  | connecting => rfl
  | queued => cases hcall
  | refused => cases hcall
  | failed => cases hcall
  | relaying => cases hcall
  | leaving => cases hcall
  | closing => cases hcall
  | closed => cases hcall

theorem Sound.timeout (hhandler : t.handler = HandlerPhase.waiting)
    (howned : t.call ≠ CallPhase.connecting) :
    Sound { t with handler := HandlerPhase.gaveUp } := by
  cases h with
  | queued => exact Sound.queued (Or.inr rfl)
  | refused => cases hhandler
  | connecting => exact absurd rfl howned
  | failed => cases hhandler
  | relaying => cases hhandler
  | leaving => cases hhandler
  | closing hleft =>
      cases hhandler
      rcases hleft with hleft | hleft <;> cases hleft
  | closed hleft =>
      cases hhandler
      rcases hleft with hleft | hleft <;> cases hleft

theorem Sound.leave (hhandler : t.handler = HandlerPhase.relaying) :
    Sound { t with handler := HandlerPhase.left, scheduled := true } := by
  cases h with
  | queued hwaits =>
      cases hhandler
      rcases hwaits with hwaits | hwaits <;> cases hwaits
  | refused => cases hhandler
  | connecting => cases hhandler
  | failed => cases hhandler
  | relaying => exact Sound.leaving
  | leaving => cases hhandler
  | closing => exact Sound.closing (Or.inr rfl)
  | closed => exact Sound.closed (Or.inr rfl)

theorem Sound.beginClose (closer : Closer) (hlisted : t.Listed ∨ t.scheduled = true)
    (scheduled : Bool) : Sound { t.beginClose closer with scheduled := scheduled } := by
  cases h with
  | queued => exact absurd hlisted (Terminal.not_begun rfl rfl)
  | refused => exact absurd hlisted (Terminal.not_begun rfl rfl)
  | connecting => exact absurd hlisted (Terminal.not_begun rfl rfl)
  | failed => exact absurd hlisted (Terminal.not_begun rfl rfl)
  | relaying => exact Sound.closing (Or.inl rfl)
  | leaving => exact Sound.closing (Or.inr rfl)
  | closing hhandler => exact Sound.closing hhandler
  | closed hhandler => exact Sound.closed hhandler

theorem Sound.endClose (hclosing : t.Closing) : Sound t.endClose := by
  rcases hclosing.session with ⟨closer, hsession⟩
  cases h with
  | closing hhandler => exact Sound.closed hhandler
  | queued => cases hsession
  | refused => cases hsession
  | connecting => cases hsession
  | failed => cases hsession
  | relaying => cases hsession
  | leaving => cases hsession
  | closed => cases hsession

end Shapes

/-!
## The accounts
-/

structure Accounts (s : Terminals) : Prop where
  sound : forall t, t ∈ s.terminals -> Sound t
  permits : s.free + s.terminals.countP (fun t => decide t.CallRunning) +
    s.terminals.countP (fun t => decide t.Attached) = SHELL_MAX_SESSIONS
  listed : forall i, i ∈ s.shellSessions <->
    exists t, s.terminals[i]? = some t ∧ t.Listed

namespace Terminal

variable (t : Terminal) (closer : Closer)

theorem beginClose_scheduled : { t.beginClose closer with scheduled := t.scheduled } =
    t.beginClose closer := by
  unfold beginClose
  split <;> rfl

theorem beginClose_listed : (t.beginClose closer).Listed <-> t.Listed := by
  unfold beginClose
  split
  · rename_i hactive
    unfold Listed
    rw [hactive]
    simp
  · exact Iff.rfl

theorem beginClose_permits (free : Nat) :
    free + (t.beginClose closer).acquired + t.released =
      free + t.acquired + (t.beginClose closer).released := by
  unfold beginClose
  split <;> rfl

end Terminal

theorem Terminal.owners_eq (t : Terminal) :
    t.owners = (if decide t.CallRunning then 1 else 0) + (if decide t.Attached then 1 else 0) := by
  unfold Terminal.owners
  simp

namespace Accounts

variable {s : Terminals} (h : Accounts s)
include h

/-- One terminal changes, with its place in the semaphore and among the sessions. -/
theorem change {i : Nat} {t t' : Terminal} (ht : s.terminals[i]? = some t) {free : Nat}
    {shellSessions : List Nat} (hsound : Sound t')
    (hfree : free + t'.acquired + t.released = s.free + t.acquired + t'.released)
    (hlisted : forall j, j ∈ shellSessions <->
      if j = i then t'.Listed else j ∈ s.shellSessions) :
    Accounts
      { free := free, shellSessions := shellSessions, terminals := s.terminals.set i t' } := by
  constructor
  · intro x hx
    rcases List.mem_or_eq_of_mem_set hx with hold | hnew
    · exact h.sound x hold
    · exact hnew ▸ hsound
  · have hpermits := h.permits
    have hrunning := countP_set_add (p := fun t => decide t.CallRunning) ht t'
    have hattached := countP_set_add (p := fun t => decide t.Attached) ht t'
    have hbefore := (h.sound t (List.mem_of_getElem? ht)).once.right
    have hafter := hsound.once.right
    rw [Terminal.owners_eq] at hbefore hafter
    show free + (s.terminals.set i t').countP (fun t => decide t.CallRunning) +
      (s.terminals.set i t').countP (fun t => decide t.Attached) = SHELL_MAX_SESSIONS
    omega
  · intro j
    rw [hlisted j]
    by_cases hij : j = i
    · subst hij
      have hlt : j < s.terminals.length := (List.getElem?_eq_some_iff.mp ht).1
      rw [if_pos rfl]
      constructor
      · exact fun hin => ⟨t', List.getElem?_set_self hlt, hin⟩
      · intro hin
        rcases hin with ⟨x, hx, hin⟩
        have hsame := (List.getElem?_set_self hlt).symm.trans hx
        cases hsame
        exact hin
    · rw [if_neg hij, h.listed j]
      have hother : (s.terminals.set i t')[j]? = s.terminals[j]? :=
        List.getElem?_set_ne (Ne.symm hij)
      show _ <-> exists x, (s.terminals.set i t')[j]? = some x ∧ x.Listed
      rw [hother]

theorem keep {i : Nat} {t t' : Terminal} (ht : s.terminals[i]? = some t) {free : Nat}
    (hsound : Sound t')
    (hfree : free + t'.acquired + t.released = s.free + t.acquired + t'.released)
    (hlisted : t'.Listed <-> t.Listed) :
    Accounts
      { free := free, shellSessions := s.shellSessions, terminals := s.terminals.set i t' } := by
  apply h.change ht hsound hfree
  intro j
  by_cases hij : j = i
  · rw [if_pos hij, hlisted, h.listed j, hij, ht]
    constructor
    · intro hin
      rcases hin with ⟨x, hx, hin⟩
      cases hx
      exact hin
    · exact fun hin => ⟨t, rfl, hin⟩
  · rw [if_neg hij]

theorem openTerminal (refused : Bool) :
    Accounts (s.step (TerminalEvent.openTerminal refused)) := by
  have hsound : Sound (Terminal.opened refused) := by
    cases refused with
    | true => exact Sound.refused
    | false => exact Sound.queued (Or.inl rfl)
  have hidle : (Terminal.opened refused).owners = 0 ∧ ¬ (Terminal.opened refused).Listed := by
    cases refused <;> decide
  constructor
  · intro x hx
    rcases List.mem_append.mp hx with hold | hnew
    · exact h.sound x hold
    · exact List.mem_singleton.mp hnew ▸ hsound
  · have hpermits := h.permits
    have howners := hidle.left
    rw [Terminal.owners_eq] at howners
    show s.free + (s.terminals ++ [Terminal.opened refused]).countP _ +
      (s.terminals ++ [Terminal.opened refused]).countP _ = SHELL_MAX_SESSIONS
    rw [List.countP_append, List.countP_append, List.countP_singleton, List.countP_singleton]
    omega
  · intro i
    show i ∈ s.shellSessions <->
      exists t, (s.terminals ++ [Terminal.opened refused])[i]? = some t ∧ t.Listed
    rw [h.listed i]
    by_cases hi : i < s.terminals.length
    · rw [List.getElem?_append_left hi]
    · have hnone : s.terminals[i]? = none := List.getElem?_eq_none (Nat.le_of_not_lt hi)
      constructor
      · intro hin
        rcases hin with ⟨t, ht, _⟩
        rw [hnone] at ht
        cases ht
      · intro hin
        rcases hin with ⟨t, ht, hlisted⟩
        rw [List.getElem?_append_right (Nat.le_of_not_lt hi)] at ht
        have hnew := List.mem_singleton.mp (List.mem_of_getElem? ht)
        rw [hnew] at hlisted
        exact absurd hlisted hidle.right

section Actions

variable {i : Nat} {t : Terminal} (ht : s.terminals[i]? = some t)
include ht

theorem acquire (howned : t.Owned TerminalAction.acquire) :
    Accounts (s.stepAt i t TerminalAction.acquire) := by
  unfold Terminals.stepAt
  simp only
  split
  · rename_i hdue
    have hsound := h.sound t (List.mem_of_getElem? ht)
    have hfree := hdue.right
    apply h.keep ht (hsound.acquire hdue.left (howned hdue.left)) _ Iff.rfl
    show s.free - 1 + (t.acquired + 1) + t.released = s.free + t.acquired + t.released
    omega
  · exact h

theorem connectRaises : Accounts (s.stepAt i t TerminalAction.connectRaises) := by
  unfold Terminals.stepAt
  simp only
  split
  · rename_i hcall
    have hshape := (h.sound t (List.mem_of_getElem? ht)).of_connecting hcall
    subst hshape
    exact h.keep ht Sound.failed rfl (by decide)
  · exact h

theorem connected : Accounts (s.stepAt i t TerminalAction.connected) := by
  unfold Terminals.stepAt
  simp only
  split
  · rename_i hcall
    have hshape := (h.sound t (List.mem_of_getElem? ht)).of_connecting hcall
    subst hshape
    apply h.change ht Sound.relaying rfl
    intro j
    rw [List.mem_append, List.mem_singleton]
    by_cases hij : j = i
    · rw [if_pos hij]
      exact iff_of_true (Or.inr hij) (by decide)
    · rw [if_neg hij]
      simp [hij]
  · exact h

theorem timeout (howned : t.Owned TerminalAction.timeout) :
    Accounts (s.stepAt i t TerminalAction.timeout) := by
  unfold Terminals.stepAt
  simp only
  split
  · rename_i hhandler
    have hsound := h.sound t (List.mem_of_getElem? ht)
    exact h.keep ht (hsound.timeout hhandler howned) rfl Iff.rfl
  · exact h

theorem leave : Accounts (s.stepAt i t TerminalAction.leave) := by
  unfold Terminals.stepAt
  simp only
  split
  · rename_i hhandler
    have hsound := h.sound t (List.mem_of_getElem? ht)
    exact h.keep ht (hsound.leave hhandler) rfl Iff.rfl
  · exact h

theorem closeBegins : Accounts (s.stepAt i t TerminalAction.closeBegins) := by
  unfold Terminals.stepAt
  simp only
  split
  · rename_i hscheduled
    have hsound := h.sound t (List.mem_of_getElem? ht)
    have hbegun := hsound.beginClose Closer.task (Or.inr hscheduled) false
    exact h.keep ht hbegun (t.beginClose_permits Closer.task s.free)
      (t.beginClose_listed Closer.task)
  · exact h

theorem closeEnds : Accounts (s.stepAt i t TerminalAction.closeEnds) := by
  unfold Terminals.stepAt
  simp only
  split
  · rename_i hclosing
    have hsound := h.sound t (List.mem_of_getElem? ht)
    apply h.change ht (hsound.endClose hclosing)
    · show s.free + 1 + t.acquired + t.released = s.free + t.acquired + (t.released + 1)
      omega
    · intro j
      rw [List.mem_filter, decide_eq_true_eq]
      by_cases hij : j = i
      · rw [if_pos hij]
        exact iff_of_false (fun hin => hin.right hij) (fun hin => hin.right rfl)
      · rw [if_neg hij]
        exact and_iff_left hij
  · exact h

theorem shutdownCloses : Accounts (s.stepAt i t TerminalAction.shutdownCloses) := by
  unfold Terminals.stepAt
  simp only
  split
  · rename_i hin
    rcases (h.listed i).mp hin with ⟨x, hx, hlisted⟩
    rw [ht] at hx
    cases hx
    have hsound := h.sound t (List.mem_of_getElem? ht)
    have hbegun := hsound.beginClose Closer.shutdown (Or.inl hlisted) t.scheduled
    rw [t.beginClose_scheduled] at hbegun
    exact h.keep ht hbegun (t.beginClose_permits Closer.shutdown s.free)
      (t.beginClose_listed Closer.shutdown)
  · exact h

theorem shutdownCancels (howned : t.Owned TerminalAction.shutdownCancels) :
    Accounts (s.stepAt i t TerminalAction.shutdownCancels) := by
  have hsame : t.cancelClose = t := by
    unfold Terminal.cancelClose
    rw [if_neg howned.right, ← howned.left]
  unfold Terminals.stepAt
  rw [hsame]
  exact h.keep ht (h.sound t (List.mem_of_getElem? ht)) rfl Iff.rfl

theorem stepAt {action : TerminalAction} (howned : t.Owned action) :
    Accounts (s.stepAt i t action) := by
  cases action with
  | acquire => exact h.acquire ht howned
  | connectRaises => exact h.connectRaises ht
  | connected => exact h.connected ht
  | timeout => exact h.timeout ht howned
  | leave => exact h.leave ht
  | closeBegins => exact h.closeBegins ht
  | closeEnds => exact h.closeEnds ht
  | shutdownCloses => exact h.shutdownCloses ht
  | shutdownCancels => exact h.shutdownCancels ht howned

end Actions

theorem step {e : TerminalEvent} (howned : OwnedPermits s e) : Accounts (s.step e) := by
  cases e with
  | openTerminal refused => exact h.openTerminal refused
  | go i action =>
      cases ht : s.terminals[i]? with
      | none =>
          have hstay : s.step (TerminalEvent.go i action) = s := by
            simp only [Terminals.step, ht]
          rw [hstay]
          exact h
      | some t =>
          have hgoes : s.step (TerminalEvent.go i action) = s.stepAt i t action := by
            simp only [Terminals.step, ht]
          rw [hgoes]
          exact h.stepAt ht (howned t ht)

theorem accounted : s.Accounted := by
  have hpermits := h.permits
  constructor
  · constructor
    · omega
    · unfold Terminals.taken
      omega
  · exact fun t ht => (h.sound t ht).once
  · intro hgone
    constructor
    · have hidle : forall t, t ∈ s.terminals -> ¬ t.CallRunning ∧ ¬ t.Attached := by
        intro t ht
        have hsound := h.sound t ht
        have howners := hsound.once.right
        have hreleased := (hsound.gone (hgone t ht)).left
        rw [Terminal.owners] at howners
        constructor
        · intro hrunning
          rw [if_pos hrunning] at howners
          omega
        · intro hattached
          rw [if_pos hattached] at howners
          omega
      have hrunning : s.terminals.countP (fun t => decide t.CallRunning) = 0 :=
        List.countP_eq_zero.mpr (fun t ht => by simpa using (hidle t ht).left)
      have hattached : s.terminals.countP (fun t => decide t.Attached) = 0 :=
        List.countP_eq_zero.mpr (fun t ht => by simpa using (hidle t ht).right)
      omega
    · apply List.eq_nil_iff_forall_not_mem.mpr
      intro i hi
      rcases (h.listed i).mp hi with ⟨t, ht, hlisted⟩
      have hmem := List.mem_of_getElem? ht
      exact ((h.sound t hmem).gone (hgone t hmem)).right hlisted

end Accounts

/-!
## Main result
-/

/--
As long as every taken permit has its owner, the permits are accounted for in every
state of every run.
-/
theorem permits_accounted {past : List Terminals} {s : Terminals}
    (hrun : dashboardTerminals.Run OwnedPermits past s) : s.Accounted := by
  have hstart : forall s, dashboardTerminals.start s -> Accounts s := by
    intro s hs
    cases hs
    constructor
    · intro t ht
      cases ht
    · rfl
    · intro i
      constructor
      · intro hi
        cases hi
      · intro hi
        rcases hi with ⟨t, ht, _⟩
        cases ht
  have hstep : forall s e, Accounts s -> OwnedPermits s e ->
      Accounts (dashboardTerminals.step s e) :=
    fun s e h howned => h.step howned
  exact (hrun.invariant hstart hstep).accounted

def noTerminals : Terminals :=
  { free := SHELL_MAX_SESSIONS, shellSessions := [], terminals := [] }

/-- A terminal from its open to the end of `_aclose`. -/
def relayScript : List TerminalEvent :=
  [TerminalEvent.openTerminal false, TerminalEvent.go 0 TerminalAction.acquire,
    TerminalEvent.go 0 TerminalAction.connected, TerminalEvent.go 0 TerminalAction.leave,
    TerminalEvent.go 0 TerminalAction.closeBegins,
    TerminalEvent.go 0 TerminalAction.closeEnds]

theorem permits_accounted_relay :
    let s := dashboardTerminals.exec noTerminals relayScript
    (forall t, t ∈ s.terminals -> t.Gone) ∧ s.free = SHELL_MAX_SESSIONS ∧
      s.shellSessions = [] := by
  have hgone : forall t, t ∈ (dashboardTerminals.exec noTerminals relayScript).terminals ->
      t.Gone := by
    intro t ht
    cases List.mem_singleton.mp ht
    exact ⟨Or.inl rfl, rfl, by decide⟩
  have hacquire : Terminal.Owned (Terminal.opened false) TerminalAction.acquire :=
    fun _ => rfl
  refine ⟨hgone, ?_⟩
  exact (permits_accounted ((Machine.Run.start rfl).exec relayScript
    ⟨trivial, fun t ht => Option.some.inj ht ▸ hacquire, fun _ _ => trivial,
      fun _ _ => trivial, fun _ _ => trivial, fun _ _ => trivial, trivial⟩)).drained hgone

/--
The caller gives up while the call connects, and the call gets through: the session has
no handler, and its permit never comes back.
-/
theorem permit_leaked :
    ¬ forall (past : List Terminals) (s : Terminals),
      dashboardTerminals.Run (fun _ _ => True) past s -> s.Accounted := by
  intro hclaim
  let late := [TerminalEvent.openTerminal false, TerminalEvent.go 0 TerminalAction.acquire,
    TerminalEvent.go 0 TerminalAction.timeout, TerminalEvent.go 0 TerminalAction.connected]
  have haccounted := hclaim _ (dashboardTerminals.exec noTerminals late)
    ((Machine.Run.start rfl).exec late
      ⟨trivial, trivial, trivial, trivial, trivial⟩)
  have hbalanced := haccounted.balanced.right
  revert hbalanced
  decide

end Shell
end PanicMonitr
