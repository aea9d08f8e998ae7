import PanicMonitr.Control.Requests
import PanicMonitr.Control.Clients
import PanicMonitr.Trust.Bounds
import PanicMonitr.Foundation.Calendar

/-!
# Scheduling maintenance

A window is scheduled over the control socket, from the command line or in the terminal
interface.  The two parsers of the front ends put a time without an offset on the clock of
the monitor; the socket takes it as it is, and no probe of the peer gets past the comparison
with the clock.
-/

namespace PanicMonitr
namespace Control

open Foundation
open Trust

/-!
## Times of the front ends
-/

/-- A time that can be compared with the clock. -/
abbrev AwareTime := { d : Datetime // d.isAware = true }

/-- The `ValueError` a front end shows, and the `OverflowError` it does not expect. -/
inductive TimeFault where
  | value (e : PyError)
  | overflow

/-- `d + timedelta(...)` on the clock of `d`; `none` when the year is out of range. -/
def addMicros (d : Datetime) (delta : Int) : Option Datetime :=
  let micros := d.localMicros + delta
  let time := (micros % dayMicros).toNat
  if ordinalOf micros < 1 ∨ 3652059 < ordinalOf micros then none
  else
    mkDatetime (ordinalToYmd (ordinalOf micros).toNat)
      (time / 3600000000, time / 60000000 % 60, time / 1000000 % 60, time % 1000000)
      d.utcoffset

theorem addMicros_aware {d d' : Datetime} {delta : Int} (h : addMicros d delta = some d')
    (haware : d.isAware = true) : d'.isAware = true := by
  unfold addMicros at h
  simp only at h
  split at h
  · cases h
  · have hoff := (mkDatetime_fields h).right.right
    rw [Datetime.isAware, hoff]
    exact haware

namespace AwareTime

def add (t : AwareTime) (delta : Int) : Option AwareTime :=
  match h : addMicros t.val delta with
  | none => none
  | some d => some ⟨d, addMicros_aware h t.property⟩

def ofParsed (d : Datetime) : AwareTime :=
  if h : d.isAware = true then ⟨d, h⟩
  else ⟨{ d with utcoffset := some 19800000000, hoffset := offset_ist }, rfl⟩

end AwareTime

def unitMicros : Char -> Option Int
  | 's' => some microsPerSecond
  | 'm' => some (60 * microsPerSecond)
  | 'h' => some (3600 * microsPerSecond)
  | 'd' => some (86400 * microsPerSecond)
  | _ => none

/-- The groups of `_REL_OFFSET_RE` after the sign; `decimal` is the `\d` of Unicode. -/
def relOffset (decimal : Char -> Option Nat) (body : List Char) : Option (List Nat × Int) :=
  match body.getLast?.bind unitMicros, body.dropLast.mapM decimal with
  | some unit, some (digit :: digits) => some (digit :: digits, unit)
  | _, _ => none

/-- `int(...)` of decimal digits -/
def digitsValue (digits : List Nat) : Nat :=
  digits.foldl (fun n digit => n * 10 + digit) 0

/-- How many digits `int(...)` takes. -/
def MAX_STR_DIGITS : Nat := 4300

/-- `_parse_time(value, anchor)` of the command line and of the terminal interface -/
def parseTime (decimal : Char -> Option Nat) (value : String) (anchor : AwareTime) :
    Except TimeFault AwareTime :=
  match strip value.toList with
  | '+' :: body =>
      match relOffset decimal body with
      | none =>
          if body = ['0'] then Except.ok anchor
          else
            Except.error (TimeFault.value (PyError.valueError
              ("invalid relative offset '" ++ value ++ "' (use +N[smhd])")))
      | some (digits, unit) =>
          if MAX_STR_DIGITS < digits.length then
            Except.error (TimeFault.value (PyError.valueError
              ("Exceeds the limit (4300 digits) for integer string conversion: value has " ++
                toString digits.length ++
                  " digits; use sys.set_int_max_str_digits() to increase the limit")))
          else
            match anchor.add ((digitsValue digits : Int) * unit) with
            | none => Except.error TimeFault.overflow
            | some t => Except.ok t
  | v =>
      match readIso (String.ofList v) with
      | Except.error e => Except.error (TimeFault.value e)
      | Except.ok d => Except.ok (AwareTime.ofParsed d)

/-- The start counts from now, and the end from the start. -/
def parseWindow (decimal : Char -> Option Nat) (now : AwareTime) (startRaw endRaw : String) :
    Except TimeFault (AwareTime × AwareTime) := do
  let start <- parseTime decimal startRaw now
  let end_ <- parseTime decimal endRaw start
  return (start, end_)

/-!
## The front ends
-/

/-- `PUT /v1/peers/<nid>/maint` as the command line sends it -/
def maintRequest (uid : Nat) (nid : String) (start end_ : Datetime) : Request where
  euid := some uid
  method := Method.put
  path := "/v1/peers/" ++ nid ++ "/maint"
  queryTag := none
  body := Except.ok (Json.obj
    [("start", Json.str (isoformat start)), ("end", Json.str (isoformat end_))])
  hbody := by
    intro v hv
    cases hv
    have hkeys : ["start", "end"].Nodup := by decide
    exact ⟨hkeys, trivial, trivial, trivial⟩

section FrontEnds

variable (engine : Engine)

/-- `--set-maintenance` through the socket; an unknown target sends nothing. -/
def cliSocket (env : Serving) (uid : Nat) (target : String) (start end_ : AwareTime)
    (s : TrustState) : Daemon :=
  match maintenanceTarget s.store.peers target with
  | none => Daemon.up s
  | some nid => Daemon.after (engine.serve env (maintRequest uid nid start.val end_.val) s)

/-- `--set-maintenance` in direct mode -/
def cliDirect (env : Surroundings) (target : String) (start end_ : AwareTime)
    (s : TrustState) : Daemon :=
  match resolveTarget s.store.peers target with
  | (some nid, none) =>
      Daemon.after (setMaintenance engine.keys env nid start.val end_.val s)
  | _ => Daemon.up s

/-- The `Set` button of the terminal interface. -/
def tuiSet (env : Surroundings) (nodeId : String) (start end_ : AwareTime)
    (s : TrustState) : Daemon :=
  if Datetime.le? end_.val start.val = some true then Daemon.up s
  else Daemon.after (setMaintenance engine.keys env nodeId start.val end_.val s)

end FrontEnds

/--
What happens to one process that holds the trust manager: the events of the daemon, the
three front ends, the other mutations, and a log file written by another process.
-/
inductive ProcessEvent where
  | daemon (e : DaemonEvent)
  | cli (env : Serving) (uid : Nat) (now : AwareTime) (target startRaw endRaw : String)
  | direct (env : Surroundings) (now : AwareTime) (target startRaw endRaw : String)
  | tui (env : Surroundings) (now : AwareTime) (nodeId startRaw endRaw : String)
  | mutate (env : Surroundings) (op : ManagerOp)
  | replaced (file : Option LogFile)

def Daemon.whenUp (d : Daemon) (next : TrustState -> Daemon) : Daemon :=
  match d with
  | Daemon.up s => next s
  | Daemon.down file => Daemon.down file

/-- A front end with its two texts; nothing happens when one cannot be read. -/
def Daemon.schedule (d : Daemon) (window : Except TimeFault (AwareTime × AwareTime))
    (next : AwareTime -> AwareTime -> TrustState -> Daemon) : Daemon :=
  match window with
  | Except.error _ => d
  | Except.ok (start, end_) => d.whenUp (next start end_)

def processes (engine : Engine) (decimal : Char -> Option Nat) :
    Machine Daemon ProcessEvent where
  start d := exists file, d = Daemon.down file
  step d e :=
    match e with
    | ProcessEvent.daemon e => (daemons engine).step d e
    | ProcessEvent.cli env uid now target startRaw endRaw =>
        d.schedule (parseWindow decimal now startRaw endRaw)
          (fun start end_ => cliSocket engine env uid target start end_)
    | ProcessEvent.direct env now target startRaw endRaw =>
        d.schedule (parseWindow decimal now startRaw endRaw)
          (fun start end_ => cliDirect engine env target start end_)
    | ProcessEvent.tui env now nodeId startRaw endRaw =>
        d.schedule (parseWindow decimal now startRaw endRaw)
          (fun start end_ => tuiSet engine env nodeId start end_)
    | ProcessEvent.mutate env op =>
        d.whenUp (fun s => Daemon.after (op.run engine.keys engine.pydantic env s))
    | ProcessEvent.replaced file =>
        match d with
        | Daemon.up s => Daemon.up { s with file := file }
        | Daemon.down _ => Daemon.down file

/-!
## The condition
-/

/-- A request the socket accepts as a window with these two ends. -/
inductive Schedules (env : Serving) (request : Request) (s : TrustState) :
    Datetime -> Datetime -> Prop where
  | mk {nid startText endText : String} {more : List String} {body : Json}
      {start end_ : Datetime} {peer : TrustedPeer} : request.euid = some env.euid ->
      Routed request (nid :: "maint" :: more) -> request.method = Method.put ->
      request.body = Except.ok body -> bodyGet "start" body = Except.ok (Json.str startText) ->
      bodyGet "end" body = Except.ok (Json.str endText) ->
      fromisoformat startText = some start -> fromisoformat endText = some end_ ->
      Datetime.le? end_ start = some false -> s.store.getPeer nid = some peer ->
        Schedules env request s start end_

/-- The request makes the daemon read its log file. -/
def Reloads (request : Request) : Prop :=
  trimPath request.path = "/v1/reload"

def AwareOp (engine : Engine) : ManagerOp -> Prop
  | ManagerOp.setMaintenance _ start until_ => start.isAware = true ∧ until_.isAware = true
  | ManagerOp.reload file _ _ => AwareFile engine.keys engine.pydantic file
  | _ => True

/--
The windows the socket accepts have offsets, and so have those of the log files that are
read.  Nothing is asked of the texts of the other front ends.
-/
def AwareStep (engine : Engine) (d : Daemon) : ProcessEvent -> Prop
  | ProcessEvent.daemon (DaemonEvent.start _ _) =>
      AwareFile engine.keys engine.pydantic d.file
  | ProcessEvent.daemon (DaemonEvent.serve env request) =>
      forall s, d = Daemon.up s ->
        (forall start end_, Schedules env request s start end_ ->
          start.isAware = true ∧ end_.isAware = true) ∧
        (Reloads request -> AwareFile engine.keys engine.pydantic s.file)
  | ProcessEvent.daemon (DaemonEvent.cycle _ _ _) =>
      AwareFile engine.keys engine.pydantic d.file
  | ProcessEvent.mutate _ op => AwareOp engine op
  | _ => True

end Control
end PanicMonitr
