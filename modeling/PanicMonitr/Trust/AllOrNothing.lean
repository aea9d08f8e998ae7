import PanicMonitr.Trust.RoundTrip

/-!
# Appends that fail

A process that holds the log, the file, and appends whose file operations may fail or be
cut by a crash.  `append` has put the entry into memory before the first of them, so a
call that raises there leaves the memory ahead of the file.
-/

namespace PanicMonitr
namespace Trust

open Foundation

/-!
## Processes and the file
-/

/-- The log of the running process, if one is running, and the file. -/
structure LogHost where
  memory : Option TrustLog
  file : Option LogFile

inductive LogEvent where
  | append (type : String) (data : List (String × Json)) (now : Datetime)
      (writing : Writing) (hdata : Json.Wf (Json.obj data))
  | restart (mtime : Int)

/-- What a call leaves in memory; a crash leaves nothing. -/
def LogHost.after : TrustLog × Option LogFile × Answer LogEntry -> LogHost
  | (_, file, Answer.crashed) => { memory := none, file := file }
  | (log, file, _) => { memory := some log, file := file }

def LogHost.restart (keys : Keyring) (pydantic : Pydantic) (mtime : Int) (w : LogHost) :
    LogHost :=
  match TrustLog.new.load keys pydantic w.file mtime with
  | Except.ok log => { w with memory := some log }
  | Except.error _ => { w with memory := none }

def hosts (keys : Keyring) (pydantic : Pydantic) : Machine LogHost LogEvent where
  start w := w.memory = none ∧ fileText w.file = [] ∧ fileTorn w.file = false
  step w e :=
    match e with
    | LogEvent.restart mtime => w.restart keys pydantic mtime
    | LogEvent.append type data now writing _ =>
        match w.memory with
        | none => w
        | some log => LogHost.after (log.append keys type data now writing w.file)

/-!
## The property
-/

/-- The file loads, and holds the entries of the memory. -/
def InStep (keys : Keyring) (pydantic : Pydantic) (w : LogHost) : Prop :=
  forall mtime, exists fresh,
    TrustLog.new.load keys pydantic w.file mtime = Except.ok fresh ∧
      forall log, log ∈ w.memory -> fresh.entries = log.entries

/-- A call that raises changes nothing a reader of the memory sees. -/
def Unchanged (keys : Keyring) (log log' : TrustLog) : Prop :=
  log'.entries = log.entries ∧ log'.head keys = log.head keys ∧
    forall nodeId, log'.monitorEvents nodeId = log.monitorEvents nodeId

/-- The file loads, to the old entries or to these and the new one. -/
def OldOrNew (keys : Keyring) (pydantic : Pydantic) (type : String)
    (data : List (String × Json)) (log : TrustLog) (file : Option LogFile) : Prop :=
  forall mtime, exists fresh,
    TrustLog.new.load keys pydantic file mtime = Except.ok fresh ∧
      (fresh.entries = log.entries ∨ exists entry, entry.type = type ∧ entry.data = data ∧
        fresh.entries = log.entries ++ [entry])

def AllOrNothing (keys : Keyring) (pydantic : Pydantic) (w : LogHost) : LogEvent -> Prop
  | LogEvent.restart _ => True
  | LogEvent.append type data now writing _ =>
      forall log, log ∈ w.memory ->
        let (log', file', answer) := log.append keys type data now writing w.file
        (forall e, answer = Answer.raised e -> Unchanged keys log log') ∧
          OldOrNew keys pydantic type data log file'

/-!
## The condition
-/

/-- No file operation raises, and a crash does not fall inside the line. -/
def Settles (data : List (String × Json)) : Writing -> Prop
  | Writing.complete _ => Plain data
  | Writing.crashAfter => Plain data
  | Writing.crash written torn => written = 0 ∧ torn = false
  | _ => False

/-- The call is refused at once, or settles. -/
def Clean (keys : Keyring) (_ : LogHost) : LogEvent -> Prop
  | LogEvent.restart _ => True
  | LogEvent.append type data _ writing _ =>
      keys.signingKey = none ∨ type ∉ OP_TYPES ∨ Settles data writing

/-!
## The invariant
-/

section Steps

variable {keys : Keyring} (pydantic : Pydantic)

/-- The file holds plain entries, and so does the memory. -/
structure Kept (keys : Keyring) (entries : List LogEntry) (w : LogHost) : Prop where
  stored : Stored keys entries w.file
  plain : forall e, e ∈ entries -> Plain e.data
  memory : forall log, log ∈ w.memory -> log.entries = entries

theorem Kept.inStep {entries : List LogEntry} {w : LogHost} (h : Kept keys entries w) :
    InStep keys pydantic w := by
  intro mtime
  rcases h.stored.load_plain pydantic h.plain mtime with ⟨fresh, hfresh, hentries, _⟩
  refine ⟨fresh, hfresh, ?_⟩
  intro log hlog
  rw [hentries, h.memory log hlog]

theorem Kept.restart {entries : List LogEntry} {w : LogHost} (h : Kept keys entries w)
    (mtime : Int) : Kept keys entries (w.restart keys pydantic mtime) := by
  rcases h.stored.load_plain pydantic h.plain mtime with ⟨fresh, hfresh, hentries, _⟩
  rw [LogHost.restart, hfresh]
  constructor
  · exact h.stored
  · exact h.plain
  · intro log hlog
    cases hlog
    exact hentries

/-- What a clean call does: nothing, or all of it. -/
inductive CleanCall (keys : Keyring) (type : String) (data : List (String × Json))
    (log : TrustLog) (file : Option LogFile) :
    TrustLog × Option LogFile × Answer LogEntry -> Prop where
  | refused (e : PyError) : CleanCall keys type data log file (log, file, Answer.raised e)
  | nothing (log' : TrustLog) (file' : Option LogFile) :
      fileText file' = fileText file -> fileTorn file' = fileTorn file ->
        CleanCall keys type data log file (log', file', Answer.crashed)
  | all (log' : TrustLog) (entry : LogEntry) (answer : Answer LogEntry) :
      (forall e, answer ≠ Answer.raised e) -> log'.entries = log.entries ++ [entry] ->
      entry.type = type -> entry.data = data -> Plain data ->
      (Stored keys log.entries file -> Stored keys (log.entries ++ [entry])
        (LogFile.extend file (TrustLog.lineOf entry) false)) ->
        CleanCall keys type data log file
          (log', LogFile.extend file (TrustLog.lineOf entry) false, answer)

theorem append_clean {type : String} {data : List (String × Json)} (now : Datetime)
    {writing : Writing} (hdata : Json.Wf (Json.obj data)) (log : TrustLog)
    (file : Option LogFile)
    (hclean : keys.signingKey = none ∨ type ∉ OP_TYPES ∨ Settles data writing) :
    CleanCall keys type data log file (log.append keys type data now writing file) := by
  rcases log.append_cases keys type data now writing file with
    ⟨_, e, hcall⟩ | ⟨sign, hsign, htype, hcall⟩
  · rw [hcall]
    exact CleanCall.refused e
  · have hsettles : Settles data writing := by
      rcases hclean with hkey | hop | hsettles
      · rw [hkey] at hsign
        cases hsign
      · exact absurd htype hop
      · exact hsettles
    have hsnoc : Stored keys log.entries file ->
        Stored keys (log.entries ++ [log.nextEntry keys sign type data now])
          (LogFile.extend file
            (TrustLog.lineOf (log.nextEntry keys sign type data now)) false) :=
      fun hstored => hstored.snoc hsign htype hdata now
    rw [hcall]
    cases writing with
    | complete mtime =>
        exact CleanCall.all _ _ _ (fun e h => by cases h) rfl rfl rfl hsettles hsnoc
    | crashAfter =>
        exact CleanCall.all _ _ _ (fun e h => by cases h) rfl rfl rfl hsettles hsnoc
    | crash written torn =>
        rcases hsettles with ⟨hwritten, htorn⟩
        refine CleanCall.nothing _ _ ?_ ?_
        · rw [fileText_extend, hwritten, List.take_zero, List.append_nil]
        · rw [fileTorn_extend, htorn, Bool.or_false]
    | mkdirRaises message => cases hsettles
    | openRaises message => cases hsettles
    | writeRaises written torn message => cases hsettles
    | statRaises message => cases hsettles

theorem Kept.call {log : TrustLog} {file : Option LogFile} {type : String}
    {data : List (String × Json)} (hstored : Stored keys log.entries file)
    (hplain : forall e, e ∈ log.entries -> Plain e.data)
    {result : TrustLog × Option LogFile × Answer LogEntry}
    (hcall : CleanCall keys type data log file result) :
    exists entries, Kept keys entries (LogHost.after result) := by
  cases hcall with
  | refused e =>
      refine ⟨log.entries, hstored, hplain, ?_⟩
      intro log' hlog'
      cases hlog'
      rfl
  | nothing log' file' htext htorn =>
      refine ⟨log.entries, hstored.sameBytes htext htorn, hplain, ?_⟩
      intro log'' hlog''
      cases hlog''
  | all log' entry answer hreturn hlog' htype hdata hnew hsnoc =>
      refine ⟨log.entries ++ [entry], ?_, ?_, ?_⟩
      · cases answer with
        | returned _ => exact hsnoc hstored
        | raised e => exact absurd rfl (hreturn e)
        | crashed => exact hsnoc hstored
      · intro e he
        rcases List.mem_append.mp he with hold | hlast
        · exact hplain e hold
        · rw [List.mem_singleton.mp hlast, hdata]
          exact hnew
      · intro log'' hlog''
        cases answer with
        | returned _ =>
            cases hlog''
            exact hlog'
        | raised e => exact absurd rfl (hreturn e)
        | crashed => cases hlog''

theorem allOrNothing_call {log : TrustLog} {file : Option LogFile} {type : String}
    {data : List (String × Json)} (hstored : Stored keys log.entries file)
    (hplain : forall e, e ∈ log.entries -> Plain e.data)
    {result : TrustLog × Option LogFile × Answer LogEntry}
    (hcall : CleanCall keys type data log file result) :
    (forall e, result.2.2 = Answer.raised e -> Unchanged keys log result.1) ∧
      OldOrNew keys pydantic type data log result.2.1 := by
  cases hcall with
  | refused e =>
      refine ⟨fun _ _ => ⟨rfl, rfl, fun _ => rfl⟩, ?_⟩
      intro mtime
      rcases hstored.load_plain pydantic hplain mtime with ⟨fresh, hfresh, hentries, _⟩
      exact ⟨fresh, hfresh, Or.inl hentries⟩
  | nothing log' file' htext htorn =>
      refine ⟨fun _ h => (by cases h), ?_⟩
      intro mtime
      rcases (hstored.sameBytes htext htorn).load_plain pydantic hplain mtime with
        ⟨fresh, hfresh, hentries, _⟩
      exact ⟨fresh, hfresh, Or.inl hentries⟩
  | all log' entry answer hreturn hlog' htype hdata hnew hsnoc =>
      refine ⟨fun e h => absurd h (hreturn e), ?_⟩
      intro mtime
      have hplain' : forall e, e ∈ log.entries ++ [entry] -> Plain e.data := by
        intro e he
        rcases List.mem_append.mp he with hold | hlast
        · exact hplain e hold
        · rw [List.mem_singleton.mp hlast, hdata]
          exact hnew
      rcases (hsnoc hstored).load_plain pydantic hplain' mtime with
        ⟨fresh, hfresh, hentries, _⟩
      exact ⟨fresh, hfresh, Or.inr ⟨entry, htype, hdata, hentries⟩⟩

theorem step_append {w : LogHost} {log : TrustLog} (hmemory : w.memory = some log)
    (type : String) (data : List (String × Json)) (now : Datetime) (writing : Writing)
    (hdata : Json.Wf (Json.obj data)) :
    (hosts keys pydantic).step w (LogEvent.append type data now writing hdata) =
      LogHost.after (log.append keys type data now writing w.file) := by
  show (match w.memory with
    | none => w
    | some log => LogHost.after (log.append keys type data now writing w.file)) = _
  rw [hmemory]

theorem Kept.step {entries : List LogEntry} {w : LogHost} (h : Kept keys entries w)
    (e : LogEvent) (hclean : Clean keys w e) :
    exists entries', Kept keys entries' ((hosts keys pydantic).step w e) := by
  cases e with
  | restart mtime => exact ⟨entries, h.restart pydantic mtime⟩
  | append type data now writing hdata =>
      cases hmemory : w.memory with
      | none =>
          refine ⟨entries, ?_⟩
          show Kept keys entries (match w.memory with
            | none => w
            | some log => LogHost.after (log.append keys type data now writing w.file))
          rw [hmemory]
          exact h
      | some log =>
          have hentries := h.memory log hmemory
          have hstored := h.stored
          have hplain := h.plain
          rw [← hentries] at hstored hplain
          rw [step_append pydantic hmemory]
          exact Kept.call hstored hplain (append_clean now hdata log w.file hclean)

end Steps

/-!
## Main result

In every run whose appends settle, the file always loads to the entries of the memory,
and every further append that settles is all or nothing.
-/

theorem append_all_or_nothing {keys : Keyring} {pydantic : Pydantic}
    {past : List LogHost} {w : LogHost}
    (hrun : (hosts keys pydantic).Run (Clean keys) past w) :
    InStep keys pydantic w ∧
      forall e, Clean keys w e -> AllOrNothing keys pydantic w e := by
  have hkept : exists entries, Kept keys entries w := by
    apply hrun.invariant (I := fun w => exists entries, Kept keys entries w)
    · intro w hstart
      rcases hstart with ⟨hmemory, htext, htorn⟩
      refine ⟨[], stored_empty htext htorn, ?_, ?_⟩
      · intro e he
        cases he
      · intro log hlog
        rw [hmemory] at hlog
        cases hlog
    · intro w e hkept hclean
      rcases hkept with ⟨entries, hkept⟩
      exact hkept.step pydantic e hclean
  rcases hkept with ⟨entries, hkept⟩
  refine ⟨hkept.inStep pydantic, ?_⟩
  intro e hclean
  cases e with
  | restart mtime => trivial
  | append type data now writing hdata =>
      intro log hlog
      have hstored := hkept.stored
      have hplain := hkept.plain
      rw [← hkept.memory log hlog] at hstored hplain
      exact allOrNothing_call pydantic hstored hplain
        (append_clean now hdata log w.file hclean)

def downData : List (String × Json) :=
  [("node_id", Json.str "n")]

theorem wf_downData : Json.Wf (Json.obj downData) :=
  have hkeys : ["node_id"].Nodup := by decide
  ⟨hkeys, trivial, trivial⟩

theorem plain_downData : Plain downData := by
  intro c hc hin
  rcases isLineBreak_of_isWideBreak hc with ⟨_, _, hwide⟩
  have hkey : AsciiText "node_id" := asciiText_of_all (by decide)
  have htext : AsciiText "n" := asciiText_of_all (by decide)
  rcases hin with hin | hin | hin
  · have hlt := hkey c hin
    omega
  · have hlt := htext c hin
    omega
  · cases hin

def emptyHost : LogHost where
  memory := none
  file := none

def appendDown (writing : Writing) : LogEvent :=
  LogEvent.append OP_MONITOR_DOWN downData noon writing wf_downData

/-- Two entries are written, a crash loses a third, and the next process starts. -/
def cleanScript : List LogEvent :=
  [LogEvent.restart 1, appendDown (Writing.complete 2), appendDown Writing.crashAfter,
    LogEvent.restart 3, appendDown (Writing.crash 0 false), LogEvent.restart 4]

theorem start_emptyHost (keys : Keyring) (pydantic : Pydantic) :
    (hosts keys pydantic).start emptyHost :=
  ⟨rfl, rfl, rfl⟩

theorem append_all_or_nothing_crash :
    InStep checksumKeys strictPydantic
      ((hosts checksumKeys strictPydantic).exec emptyHost cleanScript) ∧
    forall e, Clean checksumKeys
        ((hosts checksumKeys strictPydantic).exec emptyHost cleanScript) e ->
      AllOrNothing checksumKeys strictPydantic
        ((hosts checksumKeys strictPydantic).exec emptyHost cleanScript) e :=
  append_all_or_nothing ((Machine.Run.start (start_emptyHost _ _)).exec cleanScript
    ⟨trivial, Or.inr (Or.inr plain_downData), Or.inr (Or.inr plain_downData), trivial,
      Or.inr (Or.inr ⟨rfl, rfl⟩), trivial, trivial⟩)

/-- A full disk: the entry of the call that raised stays in memory, and the next call
writes a line no process can load. -/
theorem append_leaves_gap :
    exists past w, (hosts checksumKeys strictPydantic).Run (fun _ _ => True) past w ∧
      ¬ AllOrNothing checksumKeys strictPydantic w
        (appendDown (Writing.writeRaises 0 false "No space left on device")) ∧
      forall mtime, TrustLog.new.load checksumKeys strictPydantic
        ((hosts checksumKeys strictPydantic).exec w
          [appendDown (Writing.writeRaises 0 false "No space left on device"),
            appendDown (Writing.complete 2)]).file mtime =
        Except.error (PyError.runtimeError "Log seq gap: got 1, expected 0") := by
  refine ⟨[emptyHost], { memory := some TrustLog.new, file := none }, ?_, ?_, ?_⟩
  · exact Machine.Run.step (LogEvent.restart 1) (Machine.Run.start (start_emptyHost _ _))
      trivial
  · intro hall
    have hraised := (hall TrustLog.new rfl).left (PyError.osError "No space left on device") rfl
    have hlength := congrArg List.length hraised.left
    cases hlength
  · intro mtime
    let ahead := TrustLog.new.remember
      (TrustLog.new.nextEntry checksumKeys (checksum 64) OP_MONITOR_DOWN downData noon)
    let entry := ahead.nextEntry checksumKeys (checksum 64) OP_MONITOR_DOWN downData noon
    let file := LogFile.extend none ((TrustLog.lineOf
      (TrustLog.new.nextEntry checksumKeys (checksum 64) OP_MONITOR_DOWN downData noon)).take
        0) false
    have hempty : Lines [] file := by
      apply lines_empty
      · rw [fileText_extend, List.take_zero]
        rfl
      · rfl
    have hlines : Lines [entry] (LogFile.extend file (TrustLog.lineOf entry) false) :=
      hempty.snoc (written_nextEntry (by decide) wf_downData noon ahead)
    refine hlines.load_refused strictPydantic ?_ rfl mtime
    intro e he
    rw [List.mem_singleton.mp he]
    exact plain_downData

end Trust
end PanicMonitr
