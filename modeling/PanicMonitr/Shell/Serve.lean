import PanicMonitr.Foundation.Machine
import PanicMonitr.Foundation.Dict
import PanicMonitr.Trust.RoundTrip

/-!
# Inbound shells

`_serve_shell` as the event loop runs it: each call goes on from one `await` to the next,
and any number of calls take turns.  The pumps, the watchdog and the shutdown of the
engine are known to a call by the `stop` event they set.
-/

namespace PanicMonitr
namespace Shell

open Foundation
open Trust

def SHELL_MAX_SESSIONS : Nat := 4
def SHELL_MAX_PER_PEER : Nat := 2

/-!
## A session
-/

/-- The `await` a call of `_serve_shell` is at. -/
inductive ServePhase where
  /-- `create_subprocess_exec`; no process yet -/
  | spawning
  /-- `open_uni`, the priming frame and `accept_uni` -/
  | connecting
  /-- `stop.wait()` -/
  | relaying
  /-- the two seconds for the output pump -/
  | flushing
  /-- the end of the process, in the `finally` block -/
  | reaping
  | ended
  deriving DecidableEq

/--
The locals of a call.  `bash` and `closed` are history variables: how long the log file
was when bash was spawned, and whether the `shell_close` append has returned.
-/
structure ServedSession where
  remote : String
  started : Datetime
  stop : Bool
  phase : ServePhase
  bash : Option Nat
  closed : Bool

namespace ServedSession

/-- The call goes on from one `await` to another. -/
def advance (src dst : ServePhase) (session : ServedSession) : Option ServedSession :=
  if session.phase = src then some { session with phase := dst } else none

/-- `stop.set()` -/
def setStop (session : ServedSession) : Option ServedSession :=
  some { session with stop := true }

/-- `create_subprocess_exec` has returned. -/
def spawned (fileLength : Nat) (session : ServedSession) : Option ServedSession :=
  (session.advance ServePhase.spawning ServePhase.connecting).map
    (fun s => { s with bash := some fileLength })

/-- A stream could not be opened: the `finally` block sets `stop` and kills bash. -/
def streamRaises (session : ServedSession) : Option ServedSession :=
  (session.advance ServePhase.connecting ServePhase.reaping).bind setStop

/-- `stop.wait()` returns once `stop` is set. -/
def stopped (session : ServedSession) : Option ServedSession :=
  if session.stop = true then session.advance ServePhase.relaying ServePhase.flushing
  else none

end ServedSession

/-!
## The host
-/

/--
The part of the engine that serves shells; the sessions by their id.  A crash inside an
append ends the process.
-/
structure ShellHost where
  log : TrustLog
  file : Option LogFile
  serverTeardowns : List String
  peerCounts : List (String × Nat)
  sessions : List (String × ServedSession)
  running : Bool

namespace ShellHost

/-- `self._log.append(type_, data)`; what it raises is caught by every caller. -/
def append (keys : Keyring) (h : ShellHost) (type : String) (data : List (String × Json))
    (now : Datetime) (writing : Writing) : ShellHost × Answer LogEntry :=
  let called := h.log.append keys type data now writing h.file
  ({ h with
      log := called.1
      file := called.2.1
      running :=
        match called.2.2 with
        | Answer.crashed => false
        | _ => h.running },
    called.2.2)

def openData (remote sessionId : String) (started : Datetime) : List (String × Json) :=
  [("node_id", Json.str remote), ("ts", Json.str (isoformat started)),
    ("session_id", Json.str sessionId)]

/-- `duration` is the text of `round(duration, 2)`. -/
def closeData (remote sessionId : String) (now : Datetime) (exitCode : Int)
    (duration : List Char) : List (String × Json) :=
  [("node_id", Json.str remote), ("session_id", Json.str sessionId),
    ("ts", Json.str (isoformat now)), ("exit_code", Json.int exitCode),
    ("duration_s", Json.float duration)]

/-- The call takes a place under both caps. -/
def register (h : ShellHost) (remote sessionId : String) (now : Datetime) : ShellHost :=
  { h with
    serverTeardowns := h.serverTeardowns ++ [sessionId]
    peerCounts := Assoc.set remote ((Assoc.get? remote h.peerCounts).getD 0 + 1) h.peerCounts
    sessions := Assoc.set sessionId
      { remote := remote
        started := now
        stop := false
        phase := ServePhase.spawning
        bash := none
        closed := false }
      h.sessions }

/-- From the start of `_serve_shell` to its first `await`. -/
def serve (keys : Keyring) (h : ShellHost) (remote sessionId : String) (now : Datetime)
    (writing : Writing) : ShellHost :=
  if SHELL_MAX_SESSIONS <= h.serverTeardowns.length then h
  else if SHELL_MAX_PER_PEER <= (Assoc.get? remote h.peerCounts).getD 0 then h
  else
    ((h.register remote sessionId now).append keys OP_SHELL_OPEN
      (openData remote sessionId now) now writing).1

def update (h : ShellHost) (sessionId : String)
    (go : ServedSession -> Option ServedSession) : ShellHost :=
  match (Assoc.get? sessionId h.sessions).bind go with
  | none => h
  | some session => { h with sessions := Assoc.set sessionId session h.sessions }

/-- `max(0, counts.get(remote, 1) - 1)`, and no key for 0. -/
def releasePeer (remote : String) (counts : List (String × Nat)) : List (String × Nat) :=
  let left := (Assoc.get? remote counts).getD 1 - 1
  if left = 0 then counts.filter (fun entry => decide (entry.1 ≠ remote))
  else Assoc.set remote left counts

def release (h : ShellHost) (remote sessionId : String) : ShellHost :=
  { h with
    serverTeardowns := h.serverTeardowns.erase sessionId
    peerCounts := releasePeer remote h.peerCounts }

/-- The state a call leaves behind; `answer` is that of its last append. -/
def endSession (session : ServedSession) (answer : Answer LogEntry) : ServedSession :=
  { session with
    stop := true
    phase := ServePhase.ended
    closed :=
      match answer with
      | Answer.returned _ => true
      | _ => false }

/-- The end of the `finally` block, after its last `await`. -/
def close (keys : Keyring) (h : ShellHost) (sessionId : String) (src : ServePhase)
    (exitCode : Int) (now : Datetime) (duration : List Char) (writing : Writing) :
    ShellHost :=
  match Assoc.get? sessionId h.sessions with
  | none => h
  | some session =>
      if session.phase = src then
        let data := closeData session.remote sessionId now exitCode duration
        let recorded := (h.release session.remote sessionId).append keys OP_SHELL_CLOSE data
          now writing
        { recorded.1 with
          sessions := Assoc.set sessionId (endSession session recorded.2) h.sessions }
      else h

end ShellHost

/-!
## The machine
-/

/--
What happens next.  `spawnRaises` is also a pty that could not be opened; `stop` is set
by a pump that ends, by the watchdog when the connection drops or idles, and by the
shutdown; `append` is an append of another task.
-/
inductive ShellEvent where
  | serve (remote sessionId : String) (now : Datetime) (writing : Writing)
  | spawnRaises (sessionId : String) (now : Datetime) (duration : List Char)
      (writing : Writing)
  | spawned (sessionId : String)
  | streamRaises (sessionId : String)
  | streamsOpened (sessionId : String)
  | stop (sessionId : String)
  | stopped (sessionId : String)
  | flushed (sessionId : String)
  | reaped (sessionId : String) (exitCode : Int) (now : Datetime) (duration : List Char)
      (writing : Writing)
  | append (type : String) (data : List (String × Json)) (now : Datetime)
      (writing : Writing)

namespace ShellHost

def step (keys : Keyring) (h : ShellHost) (e : ShellEvent) : ShellHost :=
  if h.running then
    match e with
    | ShellEvent.serve remote sessionId now writing =>
        h.serve keys remote sessionId now writing
    | ShellEvent.spawnRaises sessionId now duration writing =>
        h.close keys sessionId ServePhase.spawning (-1) now duration writing
    | ShellEvent.spawned sessionId =>
        h.update sessionId (ServedSession.spawned (fileText h.file).length)
    | ShellEvent.streamRaises sessionId => h.update sessionId ServedSession.streamRaises
    | ShellEvent.streamsOpened sessionId =>
        h.update sessionId
          (ServedSession.advance ServePhase.connecting ServePhase.relaying)
    | ShellEvent.stop sessionId => h.update sessionId ServedSession.setStop
    | ShellEvent.stopped sessionId => h.update sessionId ServedSession.stopped
    | ShellEvent.flushed sessionId =>
        h.update sessionId (ServedSession.advance ServePhase.flushing ServePhase.reaping)
    | ShellEvent.reaped sessionId exitCode now duration writing =>
        h.close keys sessionId ServePhase.reaping exitCode now duration writing
    | ShellEvent.append type data now writing => (h.append keys type data now writing).1
  else h

def Start (h : ShellHost) : Prop :=
  h.serverTeardowns = [] ∧ h.peerCounts = [] ∧ h.sessions = [] ∧ h.running = true

end ShellHost

def shellHost (keys : Keyring) : Machine ShellHost ShellEvent :=
  { start := ShellHost.Start, step := ShellHost.step keys }

end Shell
end PanicMonitr
