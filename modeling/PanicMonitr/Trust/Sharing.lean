import PanicMonitr.Trust.Tamper
import PanicMonitr.Foundation.Machine

/-!
# Several users of one log

An append takes the next number and the last hash from memory.  Memory falls behind the
file when a reload installs what it has read before somebody else appended, and when a
process in direct mode appends without the daemon.
-/

namespace PanicMonitr
namespace Trust

open Foundation

/-!
## What one append does
-/

/-- The whole line is written; at most the last `stat` raises. -/
def WritesLine : Writing -> Prop
  | Writing.complete _ => True
  | Writing.statRaises _ => True
  | _ => False

/-- The entry a call of `append` hands to its caller. -/
def Answer.entries : Answer LogEntry -> List LogEntry
  | Answer.returned entry => [entry]
  | _ => []

theorem append_returned {keys : Keyring} {sign : String -> List UInt8} {type : String}
    (hsign : keys.signingKey = some sign) (htype : type ∈ OP_TYPES)
    (data : List (String × Json)) (now : Datetime) (mtime : Int) (log : TrustLog)
    (file : Option LogFile) :
    log.append keys type data now (Writing.complete mtime) file =
      ({ log.remember (log.nextEntry keys sign type data now) with lastMtime := mtime },
        LogFile.extend file (TrustLog.lineOf (log.nextEntry keys sign type data now)) false,
        Answer.returned (log.nextEntry keys sign type data now)) := by
  unfold TrustLog.append
  rw [hsign]
  simp only [htype, not_true_eq_false, if_false]
  rfl

/-- What is left of a log and its file when a whole line is written, or nothing at all. -/
inductive LineWritten (keys : Keyring) (data : List (String × Json)) (log : TrustLog)
    (file : Option LogFile) : TrustLog × Option LogFile × Answer LogEntry -> Prop where
  | refused (e : PyError) : LineWritten keys data log file (log, file, Answer.raised e)
  | written {log' : TrustLog} {file' : Option LogFile} {entry : LogEntry}
      {answer : Answer LogEntry} : log'.entries = log.entries ++ [entry] ->
      entry.data = data -> (forall e, e ∈ answer.entries -> e = entry) ->
      (Stored keys log.entries file -> Stored keys (log.entries ++ [entry]) file') ->
        LineWritten keys data log file (log', file', answer)

theorem append_lineWritten {keys : Keyring} {type : String} {data : List (String × Json)}
    (now : Datetime) {writing : Writing} (hdata : Json.Wf (Json.obj data))
    (hwriting : WritesLine writing) (log : TrustLog) (file : Option LogFile) :
    LineWritten keys data log file (log.append keys type data now writing file) := by
  rcases log.append_cases keys type data now writing file with
    ⟨_, e, hcall⟩ | ⟨sign, hsign, htype, hcall⟩
  · rw [hcall]
    exact LineWritten.refused e
  · rw [hcall]
    have hstored : Stored keys log.entries file -> _ :=
      fun h => h.snoc hsign htype hdata now
    cases writing with
    | complete mtime =>
        refine LineWritten.written rfl rfl ?_ hstored
        intro e he
        exact List.mem_singleton.mp he
    | statRaises message =>
        refine LineWritten.written rfl rfl ?_ hstored
        intro e he
        cases he
    | mkdirRaises message => cases hwriting
    | openRaises message => cases hwriting
    | writeRaises written torn message => cases hwriting
    | crash written torn => cases hwriting
    | crashAfter => cases hwriting

/-!
## Reloading in several steps

`reload_if_changed()` looks at the file time, reads the file and only then takes the lock
to install what it has read.  Any number of threads may be on their way through it.
-/

/-- How far a thread is in `reload_if_changed()`. -/
inductive Reload where
  | idle
  | checked
  | read (entries : List LogEntry)

/-- A daemon's log with the threads that reload it, and the entries appends returned. -/
structure Reloading where
  log : TrustLog
  file : Option LogFile
  reloads : Nat -> Reload
  returned : List LogEntry

/-- The file times are what `stat` answers, so that anyone may touch the file. -/
inductive ReloadEvent where
  | append (type : String) (data : List (String × Json)) (now : Datetime)
      (writing : Writing) (hdata : Json.Wf (Json.obj data))
  | check (i : Nat) (mtime : Int)
  | read (i : Nat)
  | install (i : Nat) (after : Int)

namespace Reloading

def setReload (i : Nat) (reload : Reload) (w : Reloading) : Reloading :=
  { w with reloads := fun j => if j = i then reload else w.reloads j }

def append (keys : Keyring) (type : String) (data : List (String × Json)) (now : Datetime)
    (writing : Writing) (w : Reloading) : Reloading :=
  match w.log.append keys type data now writing w.file with
  | (log, file, answer) =>
      { w with log := log, file := file, returned := w.returned ++ answer.entries }

def check (i : Nat) (mtime : Int) (w : Reloading) : Reloading :=
  if w.file ≠ none ∧ w.log.lastMtime < mtime then w.setReload i Reload.checked else w

/-- `_read_verified_entries()` outside the lock; what it raises ends the reload. -/
def read (keys : Keyring) (pydantic : Pydantic) (i : Nat) (w : Reloading) : Reloading :=
  match w.file with
  | none => w.setReload i Reload.idle
  | some file =>
      match readVerifiedEntries keys pydantic file with
      | Except.error _ => w.setReload i Reload.idle
      | Except.ok entries => w.setReload i (Reload.read entries)

def install (i : Nat) (entries : List LogEntry) (after : Int) (w : Reloading) : Reloading :=
  { w.setReload i Reload.idle with
    log :=
      { entries := entries
        lastMtime := after
        monitorTail := TrustLog.monitorTailFrom entries } }

def step (keys : Keyring) (pydantic : Pydantic) (w : Reloading) : ReloadEvent -> Reloading
  | ReloadEvent.append type data now writing _ => w.append keys type data now writing
  | ReloadEvent.check i mtime =>
      match w.reloads i with
      | Reload.idle => w.check i mtime
      | _ => w
  | ReloadEvent.read i =>
      match w.reloads i with
      | Reload.checked => w.read keys pydantic i
      | _ => w
  | ReloadEvent.install i after =>
      match w.reloads i with
      | Reload.read entries => w.install i entries after
      | _ => w

end Reloading

/-- Runs from a log that the file holds, with no reload under way. -/
def reloaders (keys : Keyring) (pydantic : Pydantic) : Machine Reloading ReloadEvent where
  start w := Stored keys w.log.entries w.file ∧ (forall i, w.reloads i = Reload.idle) ∧
    w.returned = []
  step := Reloading.step keys pydantic

theorem reloads_setReload (i j : Nat) (reload : Reload) (w : Reloading) :
    (w.setReload i reload).reloads j = if j = i then reload else w.reloads j :=
  rfl

@[simp] theorem reloads_setReload_self (i : Nat) (reload : Reload) (w : Reloading) :
    (w.setReload i reload).reloads i = reload :=
  if_pos rfl

theorem reloaders_step (keys : Keyring) (pydantic : Pydantic) (w : Reloading)
    (e : ReloadEvent) : (reloaders keys pydantic).step w e = w.step keys pydantic e :=
  rfl

theorem step_check {keys : Keyring} {pydantic : Pydantic} {w : Reloading} {i : Nat}
    (hidle : w.reloads i = Reload.idle) (mtime : Int) :
    w.step keys pydantic (ReloadEvent.check i mtime) = w.check i mtime := by
  simp only [Reloading.step, hidle]

theorem step_read {keys : Keyring} {pydantic : Pydantic} {w : Reloading} {i : Nat}
    (hchecked : w.reloads i = Reload.checked) :
    w.step keys pydantic (ReloadEvent.read i) = w.read keys pydantic i := by
  simp only [Reloading.step, hchecked]

theorem step_install {keys : Keyring} {pydantic : Pydantic} {w : Reloading} {i : Nat}
    {entries : List LogEntry} (hread : w.reloads i = Reload.read entries) (after : Int) :
    w.step keys pydantic (ReloadEvent.install i after) = w.install i entries after := by
  simp only [Reloading.step, hread]

theorem read_ok {keys : Keyring} {pydantic : Pydantic} {w : Reloading} {file : LogFile}
    {entries : List LogEntry} (hfile : w.file = some file)
    (hread : readVerifiedEntries keys pydantic file = Except.ok entries) (i : Nat) :
    w.read keys pydantic i = w.setReload i (Reload.read entries) := by
  simp only [Reloading.read, hfile, hread]

/-- Undisturbed, the three steps are `reload_if_changed()`. -/
theorem reload_steps {keys : Keyring} {pydantic : Pydantic} {w : Reloading} {i : Nat}
    (hidle : w.reloads i = Reload.idle) (mtime after : Int) {log : TrustLog} {changed : Bool}
    (hreload : w.log.reloadIfChanged keys pydantic w.file mtime after =
      Except.ok (changed, log)) :
    ((reloaders keys pydantic).exec w [ReloadEvent.check i mtime, ReloadEvent.read i,
      ReloadEvent.install i after]).log = log := by
  show (((w.step keys pydantic (ReloadEvent.check i mtime)).step keys pydantic
    (ReloadEvent.read i)).step keys pydantic (ReloadEvent.install i after)).log = log
  rw [step_check hidle]
  unfold TrustLog.reloadIfChanged at hreload
  cases hfile : w.file with
  | none =>
      rw [hfile] at hreload
      cases hreload
      have hstill : w.check i mtime = w := if_neg (fun h => h.left hfile)
      simp only [hstill, Reloading.step, hidle]
  | some file =>
      rw [hfile] at hreload
      simp only at hreload
      split at hreload
      · rename_i hold
        cases hreload
        have hstill : w.check i mtime = w := if_neg (fun h => absurd h.right (by omega))
        simp only [hstill, Reloading.step, hidle]
      · rename_i hnew
        have hchecked : w.check i mtime = w.setReload i Reload.checked := by
          unfold Reloading.check
          rw [if_pos]
          refine ⟨?_, by omega⟩
          rw [hfile]
          exact Option.some_ne_none file
        split at hreload
        · cases hreload
        · rename_i entries hread
          cases hreload
          have hfile' : (w.setReload i Reload.checked).file = some file := hfile
          rw [hchecked, step_read (reloads_setReload_self ..), read_ok hfile' hread,
            step_install (reloads_setReload_self ..)]
          rfl

/-- Every entry that was returned is in memory, and the file passes the check. -/
structure KeepsAppends (keys : Keyring) (w : Reloading) : Prop where
  returned : forall e, e ∈ w.returned -> e ∈ w.log.entries
  file : exists entries, Stored keys entries w.file

/-- Appends write whole lines, and nobody has appended since the entries were read. -/
def Undisturbed (w : Reloading) : ReloadEvent -> Prop
  | ReloadEvent.append _ _ _ writing _ => WritesLine writing
  | ReloadEvent.install i _ => forall entries, w.reloads i = Reload.read entries ->
      w.log.entries.length <= entries.length
  | _ => True

/-- The file holds the memory, and what was read is an earlier state of it. -/
structure Current (keys : Keyring) (w : Reloading) : Prop where
  stored : Stored keys w.log.entries w.file
  returned : forall e, e ∈ w.returned -> e ∈ w.log.entries
  earlier : forall i entries, w.reloads i = Reload.read entries -> entries <+: w.log.entries

section Reloads

variable {keys : Keyring} {pydantic : Pydantic} {w : Reloading}

theorem Current.setReload (h : Current keys w) {i : Nat} {reload : Reload}
    (hreload : forall entries, reload = Reload.read entries -> entries <+: w.log.entries) :
    Current keys (w.setReload i reload) := by
  refine ⟨h.stored, h.returned, ?_⟩
  intro j entries hj
  rw [reloads_setReload] at hj
  split at hj
  · exact hreload entries hj
  · exact h.earlier j entries hj

theorem Current.append (h : Current keys w) {type : String} {data : List (String × Json)}
    (now : Datetime) {writing : Writing} (hdata : Json.Wf (Json.obj data))
    (hwriting : WritesLine writing) : Current keys (w.append keys type data now writing) := by
  have hwritten : LineWritten keys data w.log w.file
      (w.log.append keys type data now writing w.file) :=
    append_lineWritten now hdata hwriting w.log w.file
  unfold Reloading.append
  generalize w.log.append keys type data now writing w.file = result at hwritten
  cases hwritten with
  | refused e =>
      refine ⟨h.stored, ?_, h.earlier⟩
      intro e' he'
      exact h.returned e' (by simpa [Answer.entries] using he')
  | @written log' file' entry answer hentries _ hanswer hstored =>
      constructor
      · show Stored keys log'.entries file'
        rw [hentries]
        exact hstored h.stored
      · intro e he
        show e ∈ log'.entries
        rw [hentries]
        rcases List.mem_append.mp he with hold | hnew
        · exact List.mem_append_left _ (h.returned e hold)
        · rw [hanswer e hnew]
          exact List.mem_append_right _ (List.mem_singleton_self entry)
      · intro i entries hi
        show entries <+: log'.entries
        rw [hentries]
        exact (h.earlier i entries hi).trans (List.prefix_append ..)

theorem Current.install (h : Current keys w) {i : Nat} {entries : List LogEntry}
    (hread : w.reloads i = Reload.read entries)
    (hlength : w.log.entries.length <= entries.length) (after : Int) :
    Current keys (w.install i entries after) := by
  have hsame : entries = w.log.entries := (h.earlier i entries hread).eq_of_length_le hlength
  have hidle : Current keys (w.setReload i Reload.idle) :=
    h.setReload (fun _ heq => by cases heq)
  rw [hsame]
  exact ⟨hidle.stored, hidle.returned, hidle.earlier⟩

theorem Current.step (h : Current keys w) {e : ReloadEvent} (hundisturbed : Undisturbed w e) :
    Current keys (w.step keys pydantic e) := by
  cases e with
  | append type data now writing hdata => exact h.append now hdata hundisturbed
  | check i mtime =>
      simp only [Reloading.step]
      split
      · unfold Reloading.check
        split
        · exact h.setReload (fun _ heq => by cases heq)
        · exact h
      · exact h
  | read i =>
      simp only [Reloading.step]
      split
      · unfold Reloading.read
        split
        · exact h.setReload (fun _ heq => by cases heq)
        rename_i file hfile
        split
        · exact h.setReload (fun _ heq => by cases heq)
        · rename_i entries hread
          have hstored := h.stored
          rw [hfile] at hstored
          apply h.setReload
          intro entries' heq
          cases heq
          rw [hstored.read_eq hread]
      · exact h
  | install i after =>
      simp only [Reloading.step]
      split
      · rename_i entries hread
        exact h.install hread (hundisturbed entries hread) after
      · exact h

/--
In every run in which no append comes between the reading and the installing of a reload,
no entry is lost and the file passes the check.
-/
theorem reload_keeps_appends {past : List Reloading}
    (hrun : (reloaders keys pydantic).Run Undisturbed past w) : KeepsAppends keys w := by
  have hcurrent : Current keys w := by
    apply hrun.invariant (I := Current keys)
    · intro w hstart
      rcases hstart with ⟨hstored, hidle, hreturned⟩
      refine ⟨hstored, ?_, ?_⟩
      · intro e he
        rw [hreturned] at he
        cases he
      · intro i entries hread
        rw [hidle i] at hread
        cases hread
    · intro w e hw hundisturbed
      exact hw.step hundisturbed
  exact ⟨hcurrent.returned, _, hcurrent.stored⟩

end Reloads

/-!
A reload that reads the file, and a revocation that is appended before it installs what it
has read: the revocation is gone, and the next entry takes its number.
-/

def addEvent : ReloadEvent :=
  ReloadEvent.append OP_ADD_PEER downData noon (Writing.complete 1) wf_downData

def revokeEvent : ReloadEvent :=
  ReloadEvent.append OP_REVOKE_PEER downData noon (Writing.complete 6) wf_downData

def shellEvent : ReloadEvent :=
  ReloadEvent.append OP_SHELL_OPEN downData noon (Writing.complete 7) wf_downData

def emptyReloading : Reloading where
  log := TrustLog.new
  file := none
  reloads := fun _ => Reload.idle
  returned := []

/-- One entry is appended, the file is touched, and a reload reads it. -/
def readScript : List ReloadEvent :=
  [addEvent, ReloadEvent.check 0 5, ReloadEvent.read 0]

def addedEntry : LogEntry :=
  TrustLog.new.nextEntry checksumKeys (checksum 64) OP_ADD_PEER downData noon

def addedLog : TrustLog where
  entries := [addedEntry]
  lastMtime := 1
  monitorTail := []

def addedFile : LogFile where
  text := TrustLog.lineOf addedEntry
  torn := false

/-- After the append, with whatever reloads are under way. -/
def addedReloading (reload : Reload) : Reloading where
  log := addedLog
  file := some addedFile
  reloads := fun j => if j = 0 then reload else Reload.idle
  returned := [addedEntry]

theorem stored_addedEntry : Stored checksumKeys [addedEntry] (some addedFile) := by
  have hsign : checksum 64 ∈ checksumKeys.signingKey := rfl
  have htype : OP_ADD_PEER ∈ OP_TYPES := by decide
  have hempty : Stored checksumKeys TrustLog.new.entries none := stored_empty rfl rfl
  exact hempty.snoc hsign htype wf_downData noon

theorem step_addEvent :
    emptyReloading.step checksumKeys strictPydantic addEvent = addedReloading Reload.idle := by
  have hsign : checksumKeys.signingKey = some (checksum 64) := rfl
  have htype : OP_ADD_PEER ∈ OP_TYPES := by decide
  have hlog : emptyReloading.log = TrustLog.new := rfl
  have hidle : (fun _ : Nat => Reload.idle) =
      fun j => if j = 0 then Reload.idle else Reload.idle := by
    funext j
    rw [ite_self]
  rw [addEvent, Reloading.step, Reloading.append, append_returned hsign htype, hlog]
  unfold addedReloading
  rw [← hidle]
  rfl

theorem reloads_addedReloading (reload : Reload) :
    (addedReloading reload).reloads 0 = reload := by
  simp only [addedReloading, if_true]

theorem setReload_addedReloading (reload reload' : Reload) :
    (addedReloading reload).setReload 0 reload' = addedReloading reload' := by
  unfold Reloading.setReload addedReloading
  simp only [Reloading.mk.injEq, true_and, and_true]
  funext j
  split <;> rfl

theorem read_addedFile :
    readVerifiedEntries checksumKeys strictPydantic addedFile = Except.ok [addedEntry] := by
  have hplain : forall e, e ∈ [addedEntry] -> Plain e.data := by
    intro e he
    rw [List.mem_singleton.mp he]
    exact plain_downData
  have hread : readVerifiedEntries checksumKeys strictPydantic addedFile = _ :=
    stored_addedEntry.toLines.read_plain strictPydantic hplain
  rw [stored_addedEntry.chain] at hread
  exact hread

theorem exec_readScript :
    (reloaders checksumKeys strictPydantic).exec emptyReloading readScript =
      addedReloading (Reload.read [addedEntry]) := by
  have hcheck : (addedReloading Reload.idle).check 0 5 = addedReloading Reload.checked := by
    have hnewer : (addedReloading Reload.idle).file ≠ none ∧
        (addedReloading Reload.idle).log.lastMtime < 5 :=
      ⟨Option.some_ne_none _, show (1 : Int) < 5 by decide⟩
    rw [Reloading.check, if_pos hnewer, setReload_addedReloading]
  have hfile : (addedReloading Reload.checked).file = some addedFile := rfl
  rw [readScript, Machine.exec, Machine.exec, Machine.exec, Machine.exec, reloaders_step,
    reloaders_step, reloaders_step, step_addEvent, step_check (reloads_addedReloading _),
    hcheck, step_read (reloads_addedReloading _), read_ok hfile read_addedFile,
    setReload_addedReloading]

theorem reload_keeps_appends_read :
    KeepsAppends checksumKeys ((reloaders checksumKeys strictPydantic).exec emptyReloading
      (readScript ++ [ReloadEvent.install 0 6, revokeEvent])) := by
  have hstart : (reloaders checksumKeys strictPydantic).Run Undisturbed [] emptyReloading :=
    Machine.Run.start ⟨stored_empty rfl rfl, fun _ => rfl, rfl⟩
  have hread := hstart.exec readScript ⟨trivial, trivial, trivial, trivial⟩
  rw [exec_readScript] at hread
  rw [Machine.exec_append, exec_readScript]
  refine reload_keeps_appends
    (hread.exec [ReloadEvent.install 0 6, revokeEvent] ⟨?_, trivial, trivial⟩)
  intro entries hentries
  cases hentries
  exact Nat.le_refl _

def raceScript : List ReloadEvent :=
  readScript ++ [revokeEvent, ReloadEvent.install 0 6, shellEvent]

def revokedEntry : LogEntry :=
  addedLog.nextEntry checksumKeys (checksum 64) OP_REVOKE_PEER downData noon

def shellAfter : LogEntry :=
  addedLog.nextEntry checksumKeys (checksum 64) OP_SHELL_OPEN downData noon

theorem lines_race : Lines [addedEntry, revokedEntry, shellAfter]
    (LogFile.extend (LogFile.extend (some addedFile) (TrustLog.lineOf revokedEntry) false)
      (TrustLog.lineOf shellAfter) false) := by
  have hrevoke : OP_REVOKE_PEER ∈ OP_TYPES := by decide
  have hshell : OP_SHELL_OPEN ∈ OP_TYPES := by decide
  have hrevoked : Written revokedEntry := written_nextEntry hrevoke wf_downData noon addedLog
  have hshelled : Written shellAfter := written_nextEntry hshell wf_downData noon addedLog
  exact (stored_addedEntry.toLines.snoc hrevoked).snoc hshelled

/-- With the revocation, and the reload still to install. -/
def revokedReloading : Reloading where
  log :=
    { entries := [addedEntry, revokedEntry]
      lastMtime := 6
      monitorTail := [] }
  file := LogFile.extend (some addedFile) (TrustLog.lineOf revokedEntry) false
  reloads := fun j => if j = 0 then Reload.read [addedEntry] else Reload.idle
  returned := [addedEntry, revokedEntry]

/-- After the whole of `raceScript`. -/
def racedReloading : Reloading where
  log :=
    { entries := [addedEntry, shellAfter]
      lastMtime := 7
      monitorTail := [] }
  file :=
    LogFile.extend (LogFile.extend (some addedFile) (TrustLog.lineOf revokedEntry) false)
      (TrustLog.lineOf shellAfter) false
  reloads := fun _ => Reload.idle
  returned := [addedEntry, revokedEntry, shellAfter]

theorem step_revokeEvent :
    (addedReloading (Reload.read [addedEntry])).step checksumKeys strictPydantic revokeEvent =
      revokedReloading := by
  have hsign : checksumKeys.signingKey = some (checksum 64) := rfl
  have htype : OP_REVOKE_PEER ∈ OP_TYPES := by decide
  have hlog : (addedReloading (Reload.read [addedEntry])).log = addedLog := rfl
  rw [revokeEvent, Reloading.step, Reloading.append, append_returned hsign htype, hlog]
  rfl

theorem exec_raceScript :
    (reloaders checksumKeys strictPydantic).exec emptyReloading raceScript =
      racedReloading := by
  have hsign : checksumKeys.signingKey = some (checksum 64) := rfl
  have hshell : OP_SHELL_OPEN ∈ OP_TYPES := by decide
  have hinstalled : revokedReloading.step checksumKeys strictPydantic
      (ReloadEvent.install 0 6) = revokedReloading.install 0 [addedEntry] 6 := by
    apply step_install
    simp only [revokedReloading, if_true]
  rw [raceScript, Machine.exec_append, exec_readScript]
  rw [Machine.exec, Machine.exec, Machine.exec, Machine.exec, reloaders_step, reloaders_step,
    reloaders_step, step_revokeEvent, hinstalled, shellEvent, Reloading.step, Reloading.append,
    append_returned hsign hshell]
  have hnext : (revokedReloading.install 0 [addedEntry] 6).log.nextEntry checksumKeys
      (checksum 64) OP_SHELL_OPEN downData noon = shellAfter := rfl
  rw [hnext]
  unfold racedReloading
  simp only [Reloading.mk.injEq]
  refine ⟨?_, ?_, ?_, ?_⟩
  · rfl
  · rfl
  · funext j
    show (if j = 0 then Reload.idle else revokedReloading.reloads j) = Reload.idle
    split
    · rfl
    · rename_i hj
      exact if_neg hj
  · rfl

theorem append_lost :
    exists w, (reloaders checksumKeys strictPydantic).exec emptyReloading raceScript = w ∧
      (revokedEntry ∈ w.returned ∧ revokedEntry ∉ w.log.entries) ∧
      ¬ exists entries, Stored checksumKeys entries w.file := by
  refine ⟨racedReloading, exec_raceScript, ⟨?_, ?_⟩, ?_⟩
  · exact List.mem_cons_of_mem _ List.mem_cons_self
  · intro h
    have htype : revokedEntry.type ∈ racedReloading.log.entries.map LogEntry.type :=
      List.mem_map_of_mem h
    revert htype
    decide
  · intro h
    rcases h with ⟨entries, hstored⟩
    have hentries : [addedEntry, revokedEntry, shellAfter] = entries :=
      lines_race.unique hstored.toLines
    have hchain : verifyFrom checksumKeys ((-1 : Int), ZERO_HASH).1 ((-1 : Int), ZERO_HASH).2
        entries = Except.ok () := hstored.chain
    rw [← hentries] at hchain
    rcases linked_of_verifyFrom hchain with ⟨hlinked, _⟩
    have hseq : shellAfter.seq = revokedEntry.seq + 1 := hlinked.right.right.right.right.left
    revert hseq
    decide

end Trust
end PanicMonitr
