import PanicMonitr.Trust.AllOrNothing
import PanicMonitr.Trust.Sharing

/-!
# The daemon and direct mode

The daemon and any number of processes in direct mode work on one file.  Each takes the
next number from its own memory, the daemon sees that the file has changed by its time
alone, and an append of its own brings the time it remembers up to date.
-/

namespace PanicMonitr
namespace Trust

open Foundation

/-!
## Operations as a whole
-/

inductive Process where
  | daemon
  | direct (i : Nat)
  deriving DecidableEq

/-- The logs of the running processes, the file, and the entries appends returned. -/
structure SharedLog where
  memory : Process -> Option TrustLog
  file : Option LogFile
  appended : List LogEntry

inductive SharedEvent where
  | load (p : Process) (mtime : Int)
  | append (p : Process) (type : String) (data : List (String × Json)) (now : Datetime)
      (writing : Writing) (hdata : Json.Wf (Json.obj data))
  | reload (mtime after : Int)

namespace SharedLog

def host (p : Process) (w : SharedLog) : LogHost where
  memory := w.memory p
  file := w.file

def setHost (p : Process) (host : LogHost) (w : SharedLog) : SharedLog :=
  { w with
    memory := fun q => if q = p then host.memory else w.memory q
    file := host.file }

def append (keys : Keyring) (p : Process) (type : String) (data : List (String × Json))
    (now : Datetime) (writing : Writing) (w : SharedLog) : SharedLog :=
  match w.memory p with
  | none => w
  | some log =>
      { w.setHost p (LogHost.after (log.append keys type data now writing w.file)) with
        appended :=
          w.appended ++ (log.append keys type data now writing w.file).2.2.entries }

/-- The part of `_check_reload()` that is about the log; what it raises is logged only. -/
def reload (keys : Keyring) (pydantic : Pydantic) (mtime after : Int) (w : SharedLog) :
    SharedLog :=
  match w.memory Process.daemon with
  | none => w
  | some log =>
      match log.reloadIfChanged keys pydantic w.file mtime after with
      | Except.error _ => w
      | Except.ok (_, log') => w.setHost Process.daemon { memory := some log', file := w.file }

def step (keys : Keyring) (pydantic : Pydantic) (w : SharedLog) : SharedEvent -> SharedLog
  | SharedEvent.load p mtime => w.setHost p ((w.host p).restart keys pydantic mtime)
  | SharedEvent.append p type data now writing _ => w.append keys p type data now writing
  | SharedEvent.reload mtime after => w.reload keys pydantic mtime after

end SharedLog

/-- Runs from a file that loads, with no process running. -/
def sharers (keys : Keyring) (pydantic : Pydantic) : Machine SharedLog SharedEvent where
  start w := (exists entries, Stored keys entries w.file ∧
      forall e, e ∈ entries -> Plain e.data) ∧
    (forall p, w.memory p = none) ∧ w.appended = []
  step := SharedLog.step keys pydantic

theorem sharers_step (keys : Keyring) (pydantic : Pydantic) (w : SharedLog) (e : SharedEvent) :
    (sharers keys pydantic).step w e = w.step keys pydantic e :=
  rfl

theorem memory_setHost (p q : Process) (host : LogHost) (w : SharedLog) :
    (w.setHost p host).memory q = if q = p then host.memory else w.memory q :=
  rfl

/-- The file passes the check and has every entry that was appended. -/
def Intact (keys : Keyring) (w : SharedLog) : Prop :=
  exists entries, Stored keys entries w.file ∧ forall e, e ∈ w.appended -> e ∈ entries

def DaemonCurrent (w : SharedLog) : Prop :=
  forall log, log ∈ w.memory Process.daemon -> Lines log.entries w.file

/-!
## The condition
-/

/-- The file is as the daemon knows it, or newer than the daemon remembers. -/
def Noticed (mtime : Int) (w : SharedLog) : Prop :=
  forall log, log ∈ w.memory Process.daemon -> Lines log.entries w.file ∨ log.lastMtime < mtime

/--
A process appends a plain entry, all of its line, and only when it has seen every line of
the file.
-/
def InTurn (w : SharedLog) : SharedEvent -> Prop
  | SharedEvent.append p _ data _ writing _ =>
      WritesLine writing ∧ Plain data ∧
        forall log, log ∈ w.memory p -> Lines log.entries w.file
  | _ => True

/-!
## The invariant
-/

/-- What the file holds; every process knows some first part of it. -/
structure Shared (keys : Keyring) (entries : List LogEntry) (w : SharedLog) : Prop where
  stored : Stored keys entries w.file
  plain : forall e, e ∈ entries -> Plain e.data
  memory : forall p log, log ∈ w.memory p -> log.entries <+: entries
  appended : forall e, e ∈ w.appended -> e ∈ entries

section Steps

variable {keys : Keyring} {pydantic : Pydantic} {entries : List LogEntry} {w : SharedLog}

/-- What a call leaves: the file, and a memory unless the process is gone. -/
theorem after_file (result : TrustLog × Option LogFile × Answer LogEntry) :
    (LogHost.after result).file = result.2.1 := by
  rcases result with ⟨log, file, answer⟩
  cases answer <;> rfl

theorem after_memory {result : TrustLog × Option LogFile × Answer LogEntry} {log : TrustLog}
    (h : log ∈ (LogHost.after result).memory) : log = result.1 := by
  rcases result with ⟨log', file, answer⟩
  cases answer with
  | returned entry => exact (Option.some.inj h).symm
  | raised e => exact (Option.some.inj h).symm
  | crashed => cases h

theorem Shared.setHost (h : Shared keys entries w) (p : Process) {memory : Option TrustLog}
    (hmemory : forall log, log ∈ memory -> log.entries <+: entries) :
    Shared keys entries (w.setHost p { memory := memory, file := w.file }) := by
  refine ⟨h.stored, h.plain, ?_, h.appended⟩
  intro q log hlog
  rw [memory_setHost] at hlog
  split at hlog
  · exact hmemory log hlog
  · exact h.memory q log hlog

theorem Shared.load (h : Shared keys entries w) (p : Process) (mtime : Int) :
    Shared keys entries (w.setHost p ((w.host p).restart keys pydantic mtime)) := by
  rcases h.stored.load_plain pydantic h.plain mtime with ⟨fresh, hfresh, hentries, _⟩
  have hrestart : (w.host p).restart keys pydantic mtime =
      { memory := some fresh, file := w.file } := by
    rw [LogHost.restart]
    simp only [SharedLog.host, hfresh]
  rw [hrestart]
  apply h.setHost
  intro log hlog
  cases hlog
  rw [hentries]

theorem Shared.append (h : Shared keys entries w) {p : Process} {type : String}
    {data : List (String × Json)} (now : Datetime) {writing : Writing}
    (hdata : Json.Wf (Json.obj data)) (hwriting : WritesLine writing) (hplain : Plain data)
    (hknown : forall log, log ∈ w.memory p -> Lines log.entries w.file) :
    exists entries', Shared keys entries' (w.append keys p type data now writing) := by
  unfold SharedLog.append
  split
  · exact ⟨entries, h⟩
  rename_i log hlog
  have hentries : log.entries = entries := (hknown log hlog).unique h.stored.toLines
  have hwritten : LineWritten keys data log w.file
      (log.append keys type data now writing w.file) :=
    append_lineWritten now hdata hwriting log w.file
  generalize log.append keys type data now writing w.file = result at hwritten
  have hmemory : forall {entries'}, entries <+: entries' -> result.1.entries <+: entries' ->
      forall q log', log' ∈ (w.setHost p (LogHost.after result)).memory q ->
        log'.entries <+: entries' := by
    intro entries' hgrown hresult q log' hlog'
    rw [memory_setHost] at hlog'
    split at hlog'
    · rw [after_memory hlog']
      exact hresult
    · exact (h.memory q log' hlog').trans hgrown
  cases hwritten with
  | refused e =>
      refine ⟨entries, h.stored, h.plain, ?_, ?_⟩
      · apply hmemory (List.prefix_refl entries)
        rw [hentries]
      · intro e' he'
        exact h.appended e' (by simpa [Answer.entries] using he')
  | @written log' file' entry answer hlog' hentry hanswer hstored =>
      rw [hentries] at hlog' hstored
      refine ⟨entries ++ [entry], ?_, ?_, ?_, ?_⟩
      · show Stored keys (entries ++ [entry]) (LogHost.after (log', file', answer)).file
        rw [after_file]
        exact hstored h.stored
      · intro e he
        rcases List.mem_append.mp he with hold | hlast
        · exact h.plain e hold
        · rw [List.mem_singleton.mp hlast, hentry]
          exact hplain
      · apply hmemory (List.prefix_append ..)
        rw [hlog']
      · intro e he
        rcases List.mem_append.mp he with hold | hnew
        · exact List.mem_append_left _ (h.appended e hold)
        · rw [hanswer e hnew]
          exact List.mem_append_right _ (List.mem_singleton_self entry)

/-- Of a file that loads a reload takes everything, or leaves the log as it was. -/
theorem reloadIfChanged_plain (pydantic : Pydantic) {file : Option LogFile} (hstored : Stored keys entries file)
    (hplain : forall e, e ∈ entries -> Plain e.data) {log : TrustLog}
    (hmemory : log.entries <+: entries) (mtime after : Int) :
    exists changed log',
      log.reloadIfChanged keys pydantic file mtime after = Except.ok (changed, log') ∧
        (log' = log ∨ log'.entries = entries) ∧
        (log.lastMtime < mtime -> log'.entries = entries) := by
  cases file with
  | none =>
      have hempty : entries = [] := hstored.entries_eq_nil rfl
      rw [hempty] at hmemory
      refine ⟨false, log, rfl, Or.inl rfl, ?_⟩
      intro _
      rw [hempty, List.prefix_nil.mp hmemory]
  | some file =>
      have hread : readVerifiedEntries keys pydantic file = _ :=
        hstored.toLines.read_plain pydantic hplain
      rw [hstored.chain] at hread
      rw [TrustLog.reloadIfChanged, hread]
      rcases Int.lt_or_le log.lastMtime mtime with hnew | hold
      · rw [if_neg (by omega)]
        exact ⟨true, _, rfl, Or.inr rfl, fun _ => rfl⟩
      · rw [if_pos hold]
        exact ⟨false, log, rfl, Or.inl rfl, fun hnew => absurd hnew (by omega)⟩

/-- A reload that notices the file leaves the daemon with what it holds. -/
theorem Shared.reload (h : Shared keys entries w) (mtime after : Int) :
    Shared keys entries (w.reload keys pydantic mtime after) ∧
      (Noticed mtime w -> DaemonCurrent (w.reload keys pydantic mtime after)) := by
  unfold SharedLog.reload
  split
  · rename_i hdaemon
    refine ⟨h, ?_⟩
    intro _ log hlog
    rw [hdaemon] at hlog
    cases hlog
  rename_i log hdaemon
  have hprefix := h.memory Process.daemon log hdaemon
  rcases reloadIfChanged_plain pydantic h.stored h.plain hprefix mtime after with
    ⟨changed, log', hreload, hkept, hnewer⟩
  rw [hreload]
  constructor
  · apply h.setHost
    intro log'' hlog''
    cases hlog''
    rcases hkept with rfl | hentries
    · exact hprefix
    · rw [hentries]
  · intro hnoticed log'' hlog''
    cases hlog''
    have hentries : log'.entries = entries := by
      rcases hnoticed log hdaemon with hlines | hnew
      · have hsame : log.entries = entries := hlines.unique h.stored.toLines
        rcases hkept with rfl | hentries
        · exact hsame
        · exact hentries
      · exact hnewer hnew
    rw [hentries]
    exact h.stored.toLines

theorem Shared.step (h : Shared keys entries w) {e : SharedEvent} (hturn : InTurn w e) :
    exists entries', Shared keys entries' (w.step keys pydantic e) := by
  cases e with
  | load p mtime => exact ⟨entries, h.load p mtime⟩
  | append p type data now writing hdata =>
      rcases hturn with ⟨hwriting, hplain, hknown⟩
      exact h.append now hdata hwriting hplain hknown
  | reload mtime after => exact ⟨entries, (h.reload mtime after).left⟩

/--
In every run in which processes append in turn, the file passes the check with every
entry that was appended, and a reload that notices the file brings the daemon up to date.
-/
theorem shared_log {past : List SharedLog} (hrun : (sharers keys pydantic).Run InTurn past w) :
    Intact keys w ∧ forall mtime after, Noticed mtime w ->
      DaemonCurrent (w.step keys pydantic (SharedEvent.reload mtime after)) := by
  have hshared : exists entries, Shared keys entries w := by
    apply hrun.invariant (I := fun w => exists entries, Shared keys entries w)
    · intro w hstart
      rcases hstart with ⟨⟨entries, hstored, hplain⟩, hmemory, happended⟩
      refine ⟨entries, hstored, hplain, ?_, ?_⟩
      · intro p log hlog
        rw [hmemory p] at hlog
        cases hlog
      · intro e he
        rw [happended] at he
        cases he
    · intro w e h hturn
      rcases h with ⟨entries, h⟩
      exact h.step hturn
  rcases hshared with ⟨entries, hshared⟩
  exact ⟨⟨entries, hshared.stored, hshared.appended⟩,
    fun mtime after => (hshared.reload mtime after).right⟩

end Steps

/-!
A process in direct mode that adds a peer, and a daemon that opens a shell before it looks
at the file again: both entries have the first number, and the daemon never notices.
-/

def sharedOf (daemon direct : Option TrustLog) (file : Option LogFile)
    (appended : List LogEntry) : SharedLog where
  memory
    | Process.daemon => daemon
    | Process.direct i => if i = 0 then direct else none
  file := file
  appended := appended

theorem setHost_daemon (host : LogHost) (daemon direct : Option TrustLog)
    (file : Option LogFile) (appended : List LogEntry) :
    (sharedOf daemon direct file appended).setHost Process.daemon host =
      sharedOf host.memory direct host.file appended := by
  unfold SharedLog.setHost sharedOf
  simp only [SharedLog.mk.injEq, and_true]
  funext q
  cases q with
  | daemon => rfl
  | direct i => exact if_neg (fun h => by cases h)

theorem setHost_direct (host : LogHost) (daemon direct : Option TrustLog)
    (file : Option LogFile) (appended : List LogEntry) :
    (sharedOf daemon direct file appended).setHost (Process.direct 0) host =
      sharedOf daemon host.memory host.file appended := by
  unfold SharedLog.setHost sharedOf
  simp only [SharedLog.mk.injEq, and_true]
  funext q
  cases q with
  | daemon => rfl
  | direct i =>
      simp only [Process.direct.injEq]
      split <;> rfl

def loadEvents : List SharedEvent :=
  [SharedEvent.load Process.daemon 0, SharedEvent.load (Process.direct 0) 0]

def addDirect : SharedEvent :=
  SharedEvent.append (Process.direct 0) OP_ADD_PEER downData noon (Writing.complete 1)
    wf_downData

def shellDaemon : SharedEvent :=
  SharedEvent.append Process.daemon OP_SHELL_OPEN downData noon (Writing.complete 2)
    wf_downData

theorem exec_loadEvents (keys : Keyring) (pydantic : Pydantic) :
    (sharers keys pydantic).exec (sharedOf none none none []) loadEvents =
      sharedOf (some TrustLog.new) (some TrustLog.new) none [] := by
  have hdaemon : (sharedOf none none none []).step keys pydantic
      (SharedEvent.load Process.daemon 0) = sharedOf (some TrustLog.new) none none [] := by
    rw [SharedLog.step, setHost_daemon]
    rfl
  have hdirect : (sharedOf (some TrustLog.new) none none []).step keys pydantic
      (SharedEvent.load (Process.direct 0) 0) =
        sharedOf (some TrustLog.new) (some TrustLog.new) none [] := by
    rw [SharedLog.step, setHost_direct]
    rfl
  rw [loadEvents, Machine.exec, Machine.exec, Machine.exec, sharers_step, sharers_step,
    hdaemon, hdirect]

def openEntry : LogEntry :=
  TrustLog.new.nextEntry checksumKeys (checksum 64) OP_SHELL_OPEN downData noon

def openedLog : TrustLog where
  entries := [openEntry]
  lastMtime := 2
  monitorTail := []

def sharedFile : Option LogFile :=
  LogFile.extend (some addedFile) (TrustLog.lineOf openEntry) false

theorem step_addDirect :
    (sharedOf (some TrustLog.new) (some TrustLog.new) none []).step checksumKeys
        strictPydantic addDirect =
      sharedOf (some TrustLog.new) (some addedLog) (some addedFile) [addedEntry] := by
  have hsign : checksumKeys.signingKey = some (checksum 64) := rfl
  have htype : OP_ADD_PEER ∈ OP_TYPES := by decide
  have hmemory : (sharedOf (some TrustLog.new) (some TrustLog.new) none []).memory
      (Process.direct 0) = some TrustLog.new := rfl
  rw [addDirect, SharedLog.step, SharedLog.append, hmemory]
  simp only [append_returned hsign htype]
  rw [setHost_direct]
  rfl

theorem step_shellDaemon :
    (sharedOf (some TrustLog.new) (some addedLog) (some addedFile) [addedEntry]).step
        checksumKeys strictPydantic shellDaemon =
      sharedOf (some openedLog) (some addedLog) sharedFile [addedEntry, openEntry] := by
  have hsign : checksumKeys.signingKey = some (checksum 64) := rfl
  have htype : OP_SHELL_OPEN ∈ OP_TYPES := by decide
  have hmemory : (sharedOf (some TrustLog.new) (some addedLog) (some addedFile)
      [addedEntry]).memory Process.daemon = some TrustLog.new := rfl
  rw [shellDaemon, SharedLog.step, SharedLog.append, hmemory]
  simp only [append_returned hsign htype]
  rw [setHost_daemon]
  rfl

theorem step_reload_shell :
    (sharedOf (some openedLog) (some addedLog) sharedFile [addedEntry, openEntry]).step
        checksumKeys strictPydantic (SharedEvent.reload 2 2) =
      sharedOf (some openedLog) (some addedLog) sharedFile [addedEntry, openEntry] := by
  have hmemory : (sharedOf (some openedLog) (some addedLog) sharedFile
      [addedEntry, openEntry]).memory Process.daemon = some openedLog := rfl
  have hreload : forall file, openedLog.reloadIfChanged checksumKeys strictPydantic file 2 2 =
      Except.ok (false, openedLog) := by
    intro file
    cases file with
    | none => rfl
    | some file =>
        rw [TrustLog.reloadIfChanged]
        exact if_pos (Int.le_refl 2)
  rw [SharedLog.step, SharedLog.reload, hmemory]
  simp only [hreload]
  rw [setHost_daemon]
  rfl

/-- Both processes load, the one in direct mode appends, and the daemon reloads. -/
theorem shared_log_reload :
    Intact checksumKeys ((sharers checksumKeys strictPydantic).exec
        (sharedOf none none none []) (loadEvents ++ [addDirect])) ∧
      DaemonCurrent (((sharers checksumKeys strictPydantic).exec (sharedOf none none none [])
        (loadEvents ++ [addDirect])).step checksumKeys strictPydantic
          (SharedEvent.reload 1 1)) := by
  have hstart : (sharers checksumKeys strictPydantic).Run InTurn []
      (sharedOf none none none []) := by
    refine Machine.Run.start ⟨⟨[], stored_empty rfl rfl, ?_⟩, ?_, rfl⟩
    · intro e he
      cases he
    · intro p
      cases p with
      | daemon => rfl
      | direct i => exact ite_self none
  have hload := hstart.exec loadEvents ⟨trivial, trivial, trivial⟩
  rw [exec_loadEvents] at hload
  have hturn : InTurn (sharedOf (some TrustLog.new) (some TrustLog.new) none []) addDirect := by
    refine ⟨trivial, plain_downData, ?_⟩
    intro log hlog
    cases hlog
    exact lines_empty rfl rfl
  have hrun := Machine.Run.step addDirect hload hturn
  rw [sharers_step, step_addDirect] at hrun
  rw [Machine.exec_append, exec_loadEvents, Machine.exec, Machine.exec, sharers_step,
    step_addDirect]
  rcases shared_log hrun with ⟨hintact, hcurrent⟩
  refine ⟨hintact, hcurrent 1 1 ?_⟩
  intro log hlog
  cases hlog
  exact Or.inr (by decide)

def sharedScript : List SharedEvent :=
  loadEvents ++ [addDirect, shellDaemon, SharedEvent.reload 2 2]

theorem exec_sharedScript :
    (sharers checksumKeys strictPydantic).exec (sharedOf none none none []) sharedScript =
      sharedOf (some openedLog) (some addedLog) sharedFile [addedEntry, openEntry] := by
  rw [sharedScript, Machine.exec_append, exec_loadEvents, Machine.exec, Machine.exec,
    Machine.exec, Machine.exec, sharers_step, sharers_step, sharers_step, step_addDirect,
    step_shellDaemon, step_reload_shell]

theorem lines_sharedFile : Lines [addedEntry, openEntry] sharedFile := by
  have htype : OP_SHELL_OPEN ∈ OP_TYPES := by decide
  have hshell : Written openEntry := written_nextEntry htype wf_downData noon TrustLog.new
  exact stored_addedEntry.toLines.snoc hshell

theorem entries_collide :
    exists w, (sharers checksumKeys strictPydantic).exec (sharedOf none none none [])
        sharedScript = w ∧ ¬ Intact checksumKeys w ∧ ¬ DaemonCurrent w := by
  refine ⟨_, exec_sharedScript, ?_, ?_⟩
  · intro h
    rcases h with ⟨entries, hstored, _⟩
    have hentries : [addedEntry, openEntry] = entries :=
      lines_sharedFile.unique hstored.toLines
    have hchain : verifyFrom checksumKeys ((-1 : Int), ZERO_HASH).1 ((-1 : Int), ZERO_HASH).2
        entries = Except.ok () := hstored.chain
    rw [← hentries] at hchain
    rcases linked_of_verifyFrom hchain with ⟨hlinked, _⟩
    have hseq : openEntry.seq = addedEntry.seq + 1 := hlinked.right.right.left
    revert hseq
    decide
  · intro h
    have hlines : Lines [openEntry] sharedFile := h openedLog rfl
    have hentries := congrArg List.length (lines_sharedFile.unique hlines)
    revert hentries
    decide

end Trust
end PanicMonitr
