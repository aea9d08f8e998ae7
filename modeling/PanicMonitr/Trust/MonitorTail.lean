import PanicMonitr.Trust.Sharing

/-!
# The tail of monitor events

Beside its entries the log keeps the last monitor events, so that the dashboard need not
scan the log.  `append` extends both; `load` and `reload_if_changed` replace both, with a
`stat` that may raise after the two assignments or between them.
-/

namespace PanicMonitr
namespace Trust

open Foundation

/-!
## What the tail stands for
-/

def scanEvents (entries : List LogEntry) : List LogEntry :=
  (entries.filter (fun e => isMonitorEvent e.type)).rtake MONITOR_EVENT_TAIL

/-- The answers from the tail are those of a scan of all entries. -/
structure TailScanned (log : TrustLog) : Prop where
  tail : log.monitorTail = scanEvents log.entries
  all : log.monitorEvents none = scanEvents log.entries
  ofNode : forall nodeId, log.monitorEvents (some nodeId) =
    (scanEvents log.entries).filter (TrustLog.namesNode nodeId)

theorem tailScanned_iff {log : TrustLog} :
    TailScanned log <-> log.monitorTail = scanEvents log.entries := by
  constructor
  · exact TailScanned.tail
  · intro h
    refine ⟨h, h, ?_⟩
    intro nodeId
    unfold TrustLog.monitorEvents
    rw [h]

theorem monitorTailFrom_eq (entries : List LogEntry) :
    TrustLog.monitorTailFrom entries = scanEvents entries := by
  unfold TrustLog.monitorTailFrom
  have h := foldl_pushBounded MONITOR_EVENT_TAIL []
    (entries.filter (fun e => isMonitorEvent e.type))
  rw [List.rtake_nil, List.nil_append] at h
  exact h

theorem tailScanned_new : TailScanned TrustLog.new :=
  tailScanned_iff.mpr (monitorTailFrom_eq [])

theorem scanEvents_snoc (entries : List LogEntry) (entry : LogEntry) :
    scanEvents (entries ++ [entry]) =
      if isMonitorEvent entry.type then
        pushBounded MONITOR_EVENT_TAIL (scanEvents entries) entry
      else scanEvents entries := by
  unfold scanEvents
  rw [List.filter_append]
  split
  · rename_i hmonitor
    rw [pushBounded_rtake, List.filter_singleton, hmonitor]
    rfl
  · rename_i hother
    rw [List.filter_singleton, Bool.eq_false_iff.mpr hother]
    simp

theorem TailScanned.remember {log : TrustLog} (h : TailScanned log) (entry : LogEntry) :
    TailScanned (log.remember entry) := by
  apply tailScanned_iff.mpr
  show (if isMonitorEvent entry.type then _ else _) = scanEvents (log.entries ++ [entry])
  rw [scanEvents_snoc, h.tail]

theorem TailScanned.persist {log : TrustLog} (h : TailScanned log) (entry : LogEntry)
    (writing : Writing) (file : Option LogFile) :
    TailScanned (TrustLog.persist entry writing log file).1 := by
  cases writing with
  | complete mtime => exact tailScanned_iff.mpr h.tail
  | mkdirRaises message => exact h
  | openRaises message => exact h
  | writeRaises written torn message => exact h
  | statRaises message => exact h
  | crash written torn => exact h
  | crashAfter => exact h

theorem TailScanned.append {log : TrustLog} (h : TailScanned log) (keys : Keyring)
    (type : String) (data : List (String × Json)) (now : Datetime) (writing : Writing)
    (file : Option LogFile) : TailScanned (log.append keys type data now writing file).1 := by
  rcases log.append_cases keys type data now writing file with
    ⟨_, e, hcall⟩ | ⟨sign, _, _, hcall⟩
  · rw [hcall]
    exact h
  · rw [hcall]
    exact (h.remember _).persist ..

/-!
## Calls in several steps

Each of `load` and `reload_if_changed` reads the file before it takes the lock, and asks
`stat` for the file time with the lock held.
-/

/-- How far a thread is in `load` or `reload_if_changed`. -/
inductive LogCall where
  | idle
  | reloadChecked
  | reloadRead (entries : List LogEntry)
  | loadRead (entries : List LogEntry)

structure LogCalls where
  log : TrustLog
  file : Option LogFile
  calls : Nat -> LogCall

/-- What a `stat` answers is `none` where it raises; anyone may change the file. -/
inductive LogCallEvent where
  | append (type : String) (data : List (String × Json)) (now : Datetime) (writing : Writing)
  | fileChanged (file : Option LogFile)
  | reloadCheck (i : Nat) (mtime : Option Int)
  | reloadFile (i : Nat)
  | reloadInstall (i : Nat) (after : Option Int)
  | loadFile (i : Nat)
  | loadInstall (i : Nat) (after : Option Int)

namespace LogCalls

def setCall (i : Nat) (call : LogCall) (w : LogCalls) : LogCalls :=
  { w with calls := fun j => if j = i then call else w.calls j }

def append (keys : Keyring) (type : String) (data : List (String × Json)) (now : Datetime)
    (writing : Writing) (w : LogCalls) : LogCalls :=
  match w.log.append keys type data now writing w.file with
  | (log, file, _) => { w with log := log, file := file }

/-- The checks of `reload_if_changed` up to its reading of the file. -/
def reloadCheck (i : Nat) (mtime : Option Int) (w : LogCalls) : LogCalls :=
  match w.file, mtime with
  | some _, some mtime =>
      if mtime <= w.log.lastMtime then w else w.setCall i LogCall.reloadChecked
  | _, _ => w

/-- `_read_verified_entries()`; what it raises ends the call. -/
def readFile (keys : Keyring) (pydantic : Pydantic) (i : Nat)
    (call : List LogEntry -> LogCall) (w : LogCalls) : LogCalls :=
  match w.file with
  | none => w.setCall i LogCall.idle
  | some file =>
      match readVerifiedEntries keys pydantic file with
      | Except.error _ => w.setCall i LogCall.idle
      | Except.ok entries => w.setCall i (call entries)

/-- `reload_if_changed` assigns the entries and the tail, then asks for the file time. -/
def reloadInstall (i : Nat) (entries : List LogEntry) (after : Option Int)
    (w : LogCalls) : LogCalls :=
  { w.setCall i LogCall.idle with
    log :=
      { entries := entries
        lastMtime := after.getD w.log.lastMtime
        monitorTail := TrustLog.monitorTailFrom entries } }

/-- `load` assigns the entries, then asks for the file time, then assigns the tail. -/
def loadInstall (i : Nat) (entries : List LogEntry) (after : Option Int)
    (w : LogCalls) : LogCalls :=
  match after with
  | none => { w.setCall i LogCall.idle with log := { w.log with entries := entries } }
  | some mtime =>
      { w.setCall i LogCall.idle with
        log :=
          { entries := entries
            lastMtime := mtime
            monitorTail := TrustLog.monitorTailFrom entries } }

def step (keys : Keyring) (pydantic : Pydantic) (w : LogCalls) : LogCallEvent -> LogCalls
  | LogCallEvent.append type data now writing => w.append keys type data now writing
  | LogCallEvent.fileChanged file => { w with file := file }
  | LogCallEvent.reloadCheck i mtime =>
      match w.calls i with
      | LogCall.idle => w.reloadCheck i mtime
      | _ => w
  | LogCallEvent.reloadFile i =>
      match w.calls i with
      | LogCall.reloadChecked => w.readFile keys pydantic i LogCall.reloadRead
      | _ => w
  | LogCallEvent.reloadInstall i after =>
      match w.calls i with
      | LogCall.reloadRead entries => w.reloadInstall i entries after
      | _ => w
  | LogCallEvent.loadFile i =>
      match w.calls i with
      | LogCall.idle => w.readFile keys pydantic i LogCall.loadRead
      | _ => w
  | LogCallEvent.loadInstall i after =>
      match w.calls i with
      | LogCall.loadRead entries => w.loadInstall i entries after
      | _ => w

end LogCalls

def logCalls (keys : Keyring) (pydantic : Pydantic) : Machine LogCalls LogCallEvent where
  start w := w.log = TrustLog.new ∧ forall i, w.calls i = LogCall.idle
  step := LogCalls.step keys pydantic

section Calls

variable {keys : Keyring} {pydantic : Pydantic} {w : LogCalls}

theorem logCalls_step (e : LogCallEvent) :
    (logCalls keys pydantic).step w e = w.step keys pydantic e :=
  rfl

@[simp] theorem calls_setCall_self (i : Nat) (call : LogCall) :
    (w.setCall i call).calls i = call :=
  if_pos rfl

theorem step_loadFile {i : Nat} (hidle : w.calls i = LogCall.idle) :
    w.step keys pydantic (LogCallEvent.loadFile i) =
      w.readFile keys pydantic i LogCall.loadRead := by
  simp only [LogCalls.step, hidle]

theorem step_loadInstall {i : Nat} {entries : List LogEntry}
    (hread : w.calls i = LogCall.loadRead entries) (after : Option Int) :
    w.step keys pydantic (LogCallEvent.loadInstall i after) =
      w.loadInstall i entries after := by
  simp only [LogCalls.step, hread]

theorem readFile_ok {file : LogFile} {entries : List LogEntry} (hfile : w.file = some file)
    (hread : readVerifiedEntries keys pydantic file = Except.ok entries) (i : Nat)
    (call : List LogEntry -> LogCall) :
    w.readFile keys pydantic i call = w.setCall i (call entries) := by
  simp only [LogCalls.readFile, hfile, hread]

theorem reloadCheck_log (i : Nat) (mtime : Option Int) : (w.reloadCheck i mtime).log = w.log := by
  unfold LogCalls.reloadCheck
  split
  · split
    · rfl
    · rfl
  · rfl

theorem readFile_log (i : Nat) (call : List LogEntry -> LogCall) :
    (w.readFile keys pydantic i call).log = w.log := by
  unfold LogCalls.readFile
  split
  · rfl
  · split
    · rfl
    · rfl

/-- Undisturbed, with a `stat` that answers, the two steps are `load()`. -/
theorem load_steps {i : Nat} (hidle : w.calls i = LogCall.idle) (mtime : Int) {log : TrustLog}
    (hload : w.log.load keys pydantic w.file mtime = Except.ok log) :
    ((logCalls keys pydantic).exec w [LogCallEvent.loadFile i,
      LogCallEvent.loadInstall i (some mtime)]).log = log := by
  show ((w.step keys pydantic (LogCallEvent.loadFile i)).step keys pydantic
    (LogCallEvent.loadInstall i (some mtime))).log = log
  rw [step_loadFile hidle]
  unfold TrustLog.load at hload
  cases hfile : w.file with
  | none =>
      rw [hfile] at hload
      cases hload
      have hstill : w.readFile keys pydantic i LogCall.loadRead = w.setCall i LogCall.idle := by
        simp only [LogCalls.readFile, hfile]
      rw [hstill]
      simp only [LogCalls.step, calls_setCall_self]
      rfl
  | some file =>
      rw [hfile] at hload
      simp only at hload
      split at hload
      · cases hload
      · rename_i entries hread
        cases hload
        rw [readFile_ok hfile hread, step_loadInstall (calls_setCall_self ..)]
        rfl

/-!
## Every run
-/

/-- A `load` whose `stat` raises has read entries with the tail that is in memory. -/
def Statted (w : LogCalls) : LogCallEvent -> Prop
  | LogCallEvent.loadInstall i none =>
      forall entries, w.calls i = LogCall.loadRead entries ->
        scanEvents entries = scanEvents w.log.entries
  | _ => True

theorem tailScanned_reloadInstall (i : Nat) (entries : List LogEntry) (after : Option Int) :
    TailScanned (w.reloadInstall i entries after).log :=
  tailScanned_iff.mpr (monitorTailFrom_eq entries)

theorem tailScanned_loadInstall (h : TailScanned w.log) (i : Nat) (entries : List LogEntry)
    (after : Option Int) :
    TailScanned (w.loadInstall i entries after).log <->
      (after = none -> scanEvents entries = scanEvents w.log.entries) := by
  cases after with
  | none =>
      have hkept : (w.loadInstall i entries none).log.monitorTail =
          scanEvents w.log.entries := h.tail
      rw [tailScanned_iff, hkept]
      constructor
      · intro heq _
        exact heq.symm
      · intro heq
        exact (heq rfl).symm
  | some mtime =>
      constructor
      · intro _ hnone
        cases hnone
      · intro _
        exact tailScanned_iff.mpr (monitorTailFrom_eq entries)

theorem tailScanned_step (h : TailScanned w.log) (e : LogCallEvent) :
    TailScanned (w.step keys pydantic e).log <-> Statted w e := by
  cases e with
  | append type data now writing => exact iff_of_true (h.append ..) trivial
  | fileChanged file => exact iff_of_true h trivial
  | reloadCheck i mtime =>
      refine iff_of_true ?_ trivial
      simp only [LogCalls.step]
      split
      · rw [reloadCheck_log]
        exact h
      · exact h
  | reloadFile i =>
      refine iff_of_true ?_ trivial
      simp only [LogCalls.step]
      split
      · rw [readFile_log]
        exact h
      · exact h
  | reloadInstall i after =>
      refine iff_of_true ?_ trivial
      simp only [LogCalls.step]
      split
      · exact tailScanned_reloadInstall ..
      · exact h
  | loadFile i =>
      refine iff_of_true ?_ trivial
      simp only [LogCalls.step]
      split
      · rw [readFile_log]
        exact h
      · exact h
  | loadInstall i after =>
      cases hcall : w.calls i with
      | loadRead entries =>
          rw [step_loadInstall hcall, tailScanned_loadInstall h]
          cases after with
          | none =>
              constructor
              · intro heq entries' hentries'
                rw [hcall] at hentries'
                cases hentries'
                exact heq rfl
              · intro heq _
                exact heq entries hcall
          | some mtime => exact iff_of_true (fun hnone => by cases hnone) trivial
      | idle =>
          refine iff_of_true (by simpa only [LogCalls.step, hcall] using h) ?_
          cases after <;> simp [Statted, hcall]
      | reloadChecked =>
          refine iff_of_true (by simpa only [LogCalls.step, hcall] using h) ?_
          cases after <;> simp [Statted, hcall]
      | reloadRead entries =>
          refine iff_of_true (by simpa only [LogCalls.step, hcall] using h) ?_
          cases after <;> simp [Statted, hcall]

/-- In every run of such calls the tail answers as a scan does, and the next step decides. -/
theorem tail_scanned {past : List LogCalls}
    (hrun : (logCalls keys pydantic).Run Statted past w) :
    TailScanned w.log ∧
      forall e, TailScanned (w.step keys pydantic e).log <-> Statted w e := by
  have hscanned : TailScanned w.log := by
    apply hrun.invariant (I := fun w => TailScanned w.log)
    · intro w hstart
      rw [hstart.left]
      exact tailScanned_new
    · intro w e h hstatted
      exact (tailScanned_step h e).mpr hstatted
  exact ⟨hscanned, tailScanned_step hscanned⟩

end Calls

/-!
## A load that stops half way
-/

def downEntry : LogEntry :=
  TrustLog.new.nextEntry checksumKeys (checksum 64) OP_MONITOR_DOWN downData noon

def unloaded : LogCalls where
  log := TrustLog.new
  file := some (fileOf downEntry)
  calls := fun _ => LogCall.idle

theorem read_downEntry :
    readVerifiedEntries checksumKeys strictPydantic (fileOf downEntry) =
      Except.ok [downEntry] := by
  have hsign : checksum 64 ∈ checksumKeys.signingKey := rfl
  have htype : OP_MONITOR_DOWN ∈ OP_TYPES := by decide
  have hempty : Stored checksumKeys TrustLog.new.entries none := stored_empty rfl rfl
  have hstored : Stored checksumKeys [downEntry] (some (fileOf downEntry)) :=
    hempty.snoc hsign htype wf_downData noon
  have hplain : forall e, e ∈ [downEntry] -> Plain e.data := by
    intro e he
    rw [List.mem_singleton.mp he]
    exact plain_downData
  have hread : readVerifiedEntries checksumKeys strictPydantic (fileOf downEntry) = _ :=
    hstored.toLines.read_plain strictPydantic hplain
  rw [hstored.chain] at hread
  exact hread

theorem step_unloaded :
    unloaded.step checksumKeys strictPydantic (LogCallEvent.loadFile 0) =
      unloaded.setCall 0 (LogCall.loadRead [downEntry]) := by
  have hidle : unloaded.calls 0 = LogCall.idle := rfl
  have hfile : unloaded.file = some (fileOf downEntry) := rfl
  rw [step_loadFile hidle, readFile_ok hfile read_downEntry]

theorem tail_scanned_loaded :
    TailScanned ((logCalls checksumKeys strictPydantic).exec unloaded
      [LogCallEvent.loadFile 0, LogCallEvent.loadInstall 0 (some 5)]).log := by
  have hstart : (logCalls checksumKeys strictPydantic).Run Statted [] unloaded :=
    Machine.Run.start ⟨rfl, fun _ => rfl⟩
  have hload := hstart.exec [LogCallEvent.loadFile 0, LogCallEvent.loadInstall 0 (some 5)]
    ⟨trivial, trivial, trivial⟩
  exact (tail_scanned hload).left

/-- The file is gone when `load` asks for its time, after it has installed the entries. -/
theorem load_half_way :
    ¬ forall past w, (logCalls checksumKeys strictPydantic).Run (fun _ _ => True) past w ->
      TailScanned w.log := by
  intro hall
  have hstart : (logCalls checksumKeys strictPydantic).Run (fun _ _ => True) [] unloaded :=
    Machine.Run.start ⟨rfl, fun _ => rfl⟩
  have hscanned := hall _ _
    ((hstart.step (LogCallEvent.loadFile 0) trivial).step (LogCallEvent.loadInstall 0 none)
      trivial)
  rw [logCalls_step, logCalls_step, step_unloaded,
    step_loadInstall (calls_setCall_self ..)] at hscanned
  have htail : [] = scanEvents [downEntry] := hscanned.tail
  have hlength : (scanEvents [downEntry]).length = 1 := by decide
  rw [← htail] at hlength
  cases hlength

end Trust
end PanicMonitr
