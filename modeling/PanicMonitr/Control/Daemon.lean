import PanicMonitr.Control.Effects
import PanicMonitr.Trust.Entries

/-!
# The daemon and its log

One process that loads the log, serves requests and records events.  A crash or a start
that fails leaves only the file; nobody else writes it.
-/

namespace PanicMonitr
namespace Control

open Foundation
open Trust

/-!
## Steps
-/

/-- The daemon with its trust manager, or the file it left. -/
inductive Daemon where
  | up (s : TrustState)
  | down (file : Option LogFile)

def Daemon.file : Daemon -> Option LogFile
  | up s => s.file
  | down file => file

/-- What a call leaves of the daemon; only a crash ends it. -/
def Daemon.after {α : Type} : TrustState × Answer α -> Daemon
  | (s, Answer.crashed) => Daemon.down s.file
  | (s, _) => Daemon.up s

/-- `ensure_genesis()` -/
def ensureGenesis (keys : Keyring) (env : Surroundings) (log : TrustLog)
    (file : Option LogFile) : TrustLog × Option LogFile × Answer Unit :=
  if log.entries ≠ [] then (log, file, Answer.returned ())
  else if keys.signingKey = none ∨ keys.ownNodeId = "" then
    (log, file, Answer.raised
      (PyError.runtimeError "Cannot write genesis entry without signing key and node_id"))
  else
    match log.append keys OP_GENESIS [("node_id", Json.str keys.ownNodeId)] env.now
        env.writing file with
    | (log', file', Answer.returned _) => (log', file', Answer.returned ())
    | (log', file', Answer.raised e) => (log', file', Answer.raised e)
    | (log', file', Answer.crashed) => (log', file', Answer.crashed)

/-- `_build_trust` with the seed -/
def buildTrust (keys : Keyring) (pydantic : Pydantic) (env : Surroundings) (mtime : Int)
    (file : Option LogFile) : TrustState × Answer Bool :=
  match TrustLog.new.load keys pydantic file mtime with
  | Except.error e =>
      ({ log := TrustLog.new, file := file, store := PeerTrustStore.empty }, Answer.raised e)
  | Except.ok log =>
      match ensureGenesis keys env log file with
      | (log', file', Answer.raised e) =>
          ({ log := log', file := file', store := PeerTrustStore.empty }, Answer.raised e)
      | (log', file', Answer.crashed) =>
          ({ log := log', file := file', store := PeerTrustStore.empty }, Answer.crashed)
      | (log', file', Answer.returned _) =>
          rebuildAndSave env { log := log', file := file', store := PeerTrustStore.empty }

/-- A start ends in a running daemon only when nothing is raised. -/
def Daemon.started : TrustState × Answer Bool -> Daemon
  | (s, Answer.returned _) => Daemon.up s
  | (s, _) => Daemon.down s.file

/-- The operations that record an event and change no peer. -/
def EVENT_OPS : List String :=
  [OP_MONITOR_DOWN, OP_MONITOR_UP, OP_SHELL_OPEN, OP_SHELL_CLOSE]

def recordEvent (keys : Keyring) (type : String) (data : List (String × Json))
    (env : Surroundings) (s : TrustState) : TrustState × Answer LogEntry :=
  match s.log.append keys type data env.now env.writing s.file with
  | (log, file, answer) => ({ s with log := log, file := file }, answer)

inductive DaemonEvent where
  | start (env : Surroundings) (mtime : Int)
  | serve (env : Serving) (request : Request)
  | record (env : Surroundings) (type : String) (data : List (String × Json))
      (htype : type ∈ EVENT_OPS) (hdata : Json.Wf (Json.obj data))
  | cycle (env : Surroundings) (mtime after : Int)

def daemons (engine : Engine) : Machine Daemon DaemonEvent where
  start d := exists file, d = Daemon.down file ∧ fileText file = [] ∧ fileTorn file = false
  step d e :=
    match d, e with
    | d, DaemonEvent.start env mtime =>
        Daemon.started (buildTrust engine.keys engine.pydantic env mtime d.file)
    | Daemon.up s, DaemonEvent.serve env request =>
        Daemon.after (engine.serve env request s)
    | Daemon.up s, DaemonEvent.record env type data _ _ =>
        Daemon.after (recordEvent engine.keys type data env s)
    | Daemon.up s, DaemonEvent.cycle env mtime after =>
        Daemon.up (engine.checkReload env mtime after s)
    | Daemon.down file, _ => Daemon.down file

/-!
## Health

The file holds the entries of the memory, all of them plain and well formed, and the
store is their projection.
-/

structure Sane (keys : Keyring) (entries : List LogEntry) (file : Option LogFile) : Prop where
  stored : Stored keys entries file
  plain : forall e, e ∈ entries -> Plain e.data
  wellFormed : forall e, e ∈ entries -> WellFormed e

structure Healthy (keys : Keyring) (s : TrustState) : Prop where
  sane : Sane keys s.log.entries s.file
  projected : rebuildFromLog s.log.entries = Except.ok s.store

def Daemon.Sound (keys : Keyring) : Daemon -> Prop
  | up s => Healthy keys s
  | down file => exists entries, Sane keys entries file

/-- No file operation raises, and a crash does not fall inside the line. -/
def Settled : Writing -> Prop
  | Writing.complete _ => True
  | Writing.crashAfter => True
  | Writing.crash written torn => written = 0 ∧ torn = false
  | _ => False

theorem settles_of_settled {writing : Writing} (h : Settled writing)
    {data : List (String × Json)} (hplain : Plain data) : Settles data writing := by
  cases writing with
  | complete mtime => exact hplain
  | crashAfter => exact hplain
  | crash written torn => exact h
  | mkdirRaises message => exact h
  | openRaises message => exact h
  | writeRaises written torn message => exact h
  | statRaises message => exact h

section Steps

variable {keys : Keyring}

theorem Sane.snoc {entries : List LogEntry} {file file' : Option LogFile}
    (h : Sane keys entries file) {entry : LogEntry}
    (hstored : Stored keys (entries ++ [entry]) file') (hplain : Plain entry.data)
    (hwf : WellFormed entry) : Sane keys (entries ++ [entry]) file' :=
  ⟨hstored, forall_mem_snoc.mpr ⟨h.plain, hplain⟩, forall_mem_snoc.mpr ⟨h.wellFormed, hwf⟩⟩

theorem Sane.projectable {entries : List LogEntry} {file : Option LogFile}
    (h : Sane keys entries file) : exists store, rebuildFromLog entries = Except.ok store :=
  rebuildFromLog_ok h.wellFormed

/-- A settled append of good data does nothing, or it writes the one entry. -/
inductive Grew (keys : Keyring) (type : String) (data : List (String × Json)) (s : TrustState) :
    TrustLog × Option LogFile × Answer LogEntry -> Prop where
  | refused (e : PyError) : Grew keys type data s (s.log, s.file, Answer.raised e)
  | lost {log' : TrustLog} {file' : Option LogFile} :
      Sane keys s.log.entries file' -> Grew keys type data s (log', file', Answer.crashed)
  | wrote {log' : TrustLog} {file' : Option LogFile} {entry : LogEntry}
      {answer : Answer LogEntry} :
      entry.type = type -> entry.data = data -> (forall e, answer ≠ Answer.raised e) ->
      log'.entries = s.log.entries ++ [entry] -> Sane keys (s.log.entries ++ [entry]) file' ->
        Grew keys type data s (log', file', answer)

theorem append_grew {type : String} {data : List (String × Json)} {env : Surroundings}
    {s : TrustState} (hs : Sane keys s.log.entries s.file) (hgood : GoodData type data)
    (hsettled : Settled env.writing) :
    Grew keys type data s (s.log.append keys type data env.now env.writing s.file) := by
  have hcall : CleanCall keys type data s.log s.file
      (s.log.append keys type data env.now env.writing s.file) :=
    append_clean env.now hgood.wf s.log s.file
      (Or.inr (Or.inr (settles_of_settled hsettled hgood.plain)))
  have hentries := append_entries keys type data env.now env.writing s.log s.file
  generalize s.log.append keys type data env.now env.writing s.file = result at hcall hentries
  cases hcall with
  | refused e => exact Grew.refused e
  | nothing log' file' htext htorn =>
      exact Grew.lost ⟨hs.stored.sameBytes htext htorn, hs.plain, hs.wellFormed⟩
  | all log' entry answer hreturn hlog' htype hdata _ hsnoc =>
      have hstamp : exists d, fromisoformat entry.timestamp = some d := by
        rcases hentries with hsame | ⟨e, ⟨_, _, hstamp⟩, hmore⟩
        · rw [hlog'] at hsame
          exact absurd (List.append_right_eq_self.mp hsame) (List.cons_ne_nil _ _)
        · rw [hlog'] at hmore
          rw [List.singleton_inj.mp (List.append_cancel_left hmore), hstamp]
          exact ⟨env.now, fromisoformat_isoformat env.now⟩
      have hplain : Plain entry.data := by
        rw [hdata]
        exact hgood.plain
      exact Grew.wrote htype hdata hreturn hlog' (hs.snoc (hsnoc hs.stored) hplain
        (hgood.projected entry htype hdata hstamp))

inductive Appended (keys : Keyring) (type : String) (s : TrustState) :
    TrustLog × Option LogFile × Answer LogEntry -> Prop where
  | refused (e : PyError) : Appended keys type s (s.log, s.file, Answer.raised e)
  | crashed {log' : TrustLog} {file' : Option LogFile} {entries : List LogEntry} :
      Sane keys entries file' -> Appended keys type s (log', file', Answer.crashed)
  | done {log' : TrustLog} {file' : Option LogFile} {entry entry' : LogEntry} :
      entry.type = type -> log'.entries = s.log.entries ++ [entry] ->
      Sane keys log'.entries file' ->
        Appended keys type s (log', file', Answer.returned entry')

theorem append_appended {type : String} {data : List (String × Json)} {env : Surroundings}
    {s : TrustState} (hs : Sane keys s.log.entries s.file) (hgood : GoodData type data)
    (hsettled : Settled env.writing) :
    Appended keys type s (s.log.append keys type data env.now env.writing s.file) := by
  have hgrew := append_grew hs hgood hsettled
  generalize s.log.append keys type data env.now env.writing s.file = result at hgrew
  cases hgrew with
  | refused e => exact Appended.refused e
  | lost hsane => exact Appended.crashed hsane
  | @wrote log' file' entry answer htype _ hreturn hlog' hsane =>
      cases answer with
      | raised e => exact absurd rfl (hreturn e)
      | crashed => exact Appended.crashed hsane
      | returned entry' =>
          rw [← hlog'] at hsane
          exact Appended.done htype hlog' hsane

/-- Projecting a sane log succeeds, whether or not the cache can be written. -/
theorem healthy_rebuildAndSave {env : Surroundings} {s : TrustState}
    (h : Sane keys s.log.entries s.file) : Healthy keys (rebuildAndSave env s).1 := by
  rcases h.projectable with ⟨store, hstore⟩
  unfold rebuildAndSave
  rw [hstore]
  simp only [saveCache]
  cases env.cacheFault with
  | none => exact ⟨h, hstore⟩
  | some e => exact ⟨h, hstore⟩

theorem sound_commit {type : String} {data : List (String × Json)} {env : Surroundings}
    {s : TrustState} (hs : Healthy keys s) (hgood : GoodData type data)
    (hsettled : Settled env.writing) :
    Daemon.Sound keys (Daemon.after (commit keys type data env s)) := by
  have happended := append_appended hs.sane hgood hsettled
  unfold commit
  generalize s.log.append keys type data env.now env.writing s.file = result at happended
  cases happended with
  | refused e => exact hs
  | crashed hsane => exact ⟨_, hsane⟩
  | @done log' file' entry entry' _ _ hsane =>
      have hhealthy : Healthy keys
          (rebuildAndSave env { s with log := log', file := file' }).1 :=
        healthy_rebuildAndSave hsane
      simp only
      rcases hresult : rebuildAndSave env { s with log := log', file := file' } with
        ⟨s', answer⟩
      rw [hresult] at hhealthy
      cases answer with
      | returned b => exact hhealthy
      | raised e => exact hhealthy
      | crashed => exact ⟨_, hhealthy.sane⟩

theorem sound_recordEvent {type : String} {data : List (String × Json)} {env : Surroundings}
    {s : TrustState} (hs : Healthy keys s) (htype : type ∈ EVENT_OPS)
    (hdata : Json.Wf (Json.obj data)) (hplain : Plain data) (hsettled : Settled env.writing) :
    Daemon.Sound keys (Daemon.after (recordEvent keys type data env s)) := by
  have hnot : type ∉ PEER_OPS := by
    have hdisjoint : forall op, op ∈ EVENT_OPS -> op ∉ PEER_OPS := by decide
    exact hdisjoint type htype
  have hgood : GoodData type data := by
    refine ⟨hdata, hplain, ?_⟩
    intro entry hentry _ _
    apply wellFormed_event
    rw [hentry]
    exact hnot
  have happended := append_appended hs.sane hgood hsettled
  unfold recordEvent
  generalize s.log.append keys type data env.now env.writing s.file = result at happended
  cases happended with
  | refused e => exact hs
  | crashed hsane => exact ⟨_, hsane⟩
  | done hentry hlog' hsane =>
      refine ⟨hsane, ?_⟩
      show rebuildFromLog _ = Except.ok s.store
      rw [hlog', rebuildFromLog_event (by rw [hentry]; exact hnot)]
      exact hs.projected

theorem Healthy.reloaded {pydantic : Pydantic} {s : TrustState} (hs : Healthy keys s)
    {mtime after : Int} {log : TrustLog}
    (hlog : s.log.reloadIfChanged keys pydantic s.file mtime after = Except.ok (true, log)) :
    log.entries = s.log.entries := by
  unfold TrustLog.reloadIfChanged at hlog
  cases hfile : s.file with
  | none =>
      rw [hfile] at hlog
      cases hlog
  | some file =>
      have hlines : Lines s.log.entries (some file) := by
        rw [← hfile]
        exact hs.sane.stored.toLines
      rw [hfile] at hlog
      simp only at hlog
      split at hlog
      · cases hlog
      rw [hlines.read_plain pydantic hs.sane.plain, hs.sane.stored.chain] at hlog
      cases hlog
      rfl

theorem healthy_checkReload {engine : Engine} {env : Surroundings} {s : TrustState}
    (hs : Healthy engine.keys s) (mtime after : Int) :
    Healthy engine.keys (engine.checkReload env mtime after s) := by
  unfold Engine.checkReload reloadStore
  split
  · exact ⟨hs.sane, hs.projected⟩
  · rename_i log hlog
    rw [reloadIfChanged_false hlog]
    exact ⟨hs.sane, hs.projected⟩
  · rename_i log hlog
    apply healthy_rebuildAndSave
    show Sane engine.keys log.entries s.file
    rw [hs.reloaded hlog]
    exact hs.sane

theorem sane_load {entries : List LogEntry} {file : Option LogFile} (pydantic : Pydantic)
    (h : Sane keys entries file) (mtime : Int) :
    exists fresh, TrustLog.new.load keys pydantic file mtime = Except.ok fresh ∧
      fresh.entries = entries := by
  rcases h.stored.load_plain pydantic h.plain mtime with ⟨fresh, hfresh, hentries, _⟩
  exact ⟨fresh, hfresh, hentries⟩

theorem goodData_genesis (hown : PlainText keys.ownNodeId) :
    GoodData OP_GENESIS [("node_id", Json.str keys.ownNodeId)] := by
  refine ⟨⟨List.nodup_singleton _, trivial, trivial⟩, ?_, ?_⟩
  · exact plain_cons.mpr ⟨plainText_of_all (by decide), plainValue_str.mpr hown, plain_nil⟩
  · intro entry hentry _ _
    apply wellFormed_event
    rw [hentry]
    decide

/-- After `ensure_genesis` the log is sane, and so is the file however it ended. -/
theorem ensureGenesis_sane {env : Surroundings} {log log' : TrustLog}
    {file file' : Option LogFile} {answer : Answer Unit} (h : Sane keys log.entries file)
    (hown : PlainText keys.ownNodeId) (hsettled : Settled env.writing)
    (hcall : ensureGenesis keys env log file = (log', file', answer)) :
    (answer = Answer.returned () -> Sane keys log'.entries file') ∧
      exists entries, Sane keys entries file' := by
  unfold ensureGenesis at hcall
  split at hcall
  · cases hcall
    exact ⟨fun _ => h, _, h⟩
  split at hcall
  · cases hcall
    exact ⟨fun _ => h, _, h⟩
  have happended : Appended keys OP_GENESIS
      { log := log, file := file, store := PeerTrustStore.empty }
      (log.append keys OP_GENESIS [("node_id", Json.str keys.ownNodeId)] env.now env.writing
        file) := append_appended h (goodData_genesis hown) hsettled
  generalize log.append keys OP_GENESIS [("node_id", Json.str keys.ownNodeId)] env.now
    env.writing file = result at happended hcall
  cases happended with
  | refused e =>
      cases hcall
      exact ⟨fun _ => h, _, h⟩
  | crashed hsane =>
      cases hcall
      exact ⟨fun heq => (by cases heq), _, hsane⟩
  | done _ _ hsane =>
      cases hcall
      exact ⟨fun _ => hsane, _, hsane⟩

theorem sound_buildTrust {pydantic : Pydantic} {env : Surroundings} {mtime : Int}
    {file : Option LogFile} {entries : List LogEntry} (h : Sane keys entries file)
    (hown : PlainText keys.ownNodeId) (hsettled : Settled env.writing) :
    Daemon.Sound keys (Daemon.started (buildTrust keys pydantic env mtime file)) := by
  rcases sane_load pydantic h mtime with ⟨log, hload, hentries⟩
  have hsane : Sane keys log.entries file := by
    rw [hentries]
    exact h
  unfold buildTrust
  rw [hload]
  simp only
  rcases hgenesis : ensureGenesis keys env log file with ⟨log', file', answer⟩
  rcases ensureGenesis_sane hsane hown hsettled hgenesis with ⟨hreturned, hfile⟩
  cases answer with
  | raised e => exact hfile
  | crashed => exact hfile
  | returned _ =>
      have hhealthy : Healthy keys (rebuildAndSave env
          { log := log', file := file', store := PeerTrustStore.empty }).1 :=
        healthy_rebuildAndSave (hreturned rfl)
      simp only
      rcases hresult : rebuildAndSave env
        { log := log', file := file', store := PeerTrustStore.empty } with ⟨s', answer⟩
      rw [hresult] at hhealthy
      cases answer with
      | returned b => exact hhealthy
      | raised e => exact ⟨_, hhealthy.sane⟩
      | crashed => exact ⟨_, hhealthy.sane⟩

end Steps

end Control
end PanicMonitr
