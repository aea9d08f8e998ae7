import PanicMonitr.Control.Requests

/-!
# What the log of a daemon grows by

Whatever a sound daemon goes through (requests, events, reloads, crashes and new starts),
its log, in memory while it runs and on the file while it does not, only grows, and an
event adds one entry at most.
-/

namespace PanicMonitr
namespace Control

open Foundation
open Trust

def Holds (keys : Keyring) (entries : List LogEntry) : Daemon -> Prop
  | Daemon.up s => s.log.entries = entries ∧ Healthy keys s
  | Daemon.down file => Sane keys entries file

/-- The log is the same as before, or it has one more entry that is allowed. -/
inductive Grows (keys : Keyring) (allowed : String -> List (String × Json) -> Prop)
    (entries : List LogEntry) (d : Daemon) : Prop where
  | same : Holds keys entries d -> Grows keys allowed entries d
  | more {entry : LogEntry} : allowed entry.type entry.data ->
      Holds keys (entries ++ [entry]) d -> Grows keys allowed entries d

/-- What an event may write. -/
inductive Wrote (engine : Engine) (d : Daemon) :
    DaemonEvent -> String -> List (String × Json) -> Prop where
  | genesis (env : Surroundings) (mtime : Int) : Wrote engine d (DaemonEvent.start env mtime)
      OP_GENESIS [("node_id", Json.str engine.keys.ownNodeId)]
  | record {env : Surroundings} {type : String} {data : List (String × Json)}
      (htype : type ∈ EVENT_OPS) (hdata : Json.Wf (Json.obj data)) :
      Wrote engine d (DaemonEvent.record env type data htype hdata) type data
  | request {env : Serving} {request : Request} {s : TrustState} {type : String}
      {data : List (String × Json)} : d = Daemon.up s ->
      Appends engine s request type data ->
        Wrote engine d (DaemonEvent.serve env request) type data

section Steps

variable {keys : Keyring}

theorem Grows.mono {allowed allowed' : String -> List (String × Json) -> Prop}
    {entries : List LogEntry} {d : Daemon} (h : Grows keys allowed entries d)
    (hmono : forall type data, allowed type data -> allowed' type data) :
    Grows keys allowed' entries d := by
  cases h with
  | same hholds => exact Grows.same hholds
  | more hallowed hholds => exact Grows.more (hmono _ _ hallowed) hholds

theorem Holds.sane {entries : List LogEntry} {d : Daemon} (h : Holds keys entries d) :
    Sane keys entries d.file := by
  cases d with
  | up s => exact h.left ▸ h.right.sane
  | down file => exact h

theorem Holds.sound {entries : List LogEntry} {d : Daemon} (h : Holds keys entries d) :
    Daemon.Sound keys d := by
  cases d with
  | up s => exact h.right
  | down file => exact ⟨entries, h⟩

/-- Projecting a sane log leaves its entries alone, whatever comes of it. -/
theorem holds_rebuildAndSave {env : Surroundings} {s : TrustState}
    (h : Sane keys s.log.entries s.file) :
    Holds keys s.log.entries (Daemon.after (rebuildAndSave env s)) ∧
      Holds keys s.log.entries (Daemon.started (rebuildAndSave env s)) := by
  have hhealthy : Healthy keys (rebuildAndSave env s).1 := healthy_rebuildAndSave h
  rcases rebuildAndSave_store env s with ⟨hlog, hfile, _⟩
  rcases hresult : rebuildAndSave env s with ⟨s', answer⟩
  rw [hresult] at hhealthy hlog hfile
  have hentries : s'.log.entries = s.log.entries := congrArg TrustLog.entries hlog
  have hsane : Sane keys s.log.entries s'.file := by
    rw [show s'.file = s.file from hfile]
    exact h
  cases answer with
  | returned b => exact ⟨⟨hentries, hhealthy⟩, ⟨hentries, hhealthy⟩⟩
  | raised e => exact ⟨⟨hentries, hhealthy⟩, hsane⟩
  | crashed => exact ⟨hsane, hsane⟩

/-- The type and data of one entry. -/
def Just (type : String) (data : List (String × Json)) (type' : String)
    (data' : List (String × Json)) : Prop :=
  type' = type ∧ data' = data

theorem grows_commit {type : String} {data : List (String × Json)} {env : Surroundings}
    {s : TrustState} (hs : Healthy keys s) (hgood : GoodData type data)
    (hsettled : Settled env.writing) :
    Grows keys (Just type data) s.log.entries (Daemon.after (commit keys type data env s)) := by
  have hgrew := append_grew hs.sane hgood hsettled
  unfold commit
  generalize s.log.append keys type data env.now env.writing s.file = result at hgrew
  cases hgrew with
  | refused e => exact Grows.same ⟨rfl, hs⟩
  | lost hsane => exact Grows.same hsane
  | @wrote log' file' entry answer htype hdata hreturn hlog' hsane =>
      have hallowed : Just type data entry.type entry.data := ⟨htype, hdata⟩
      apply Grows.more hallowed
      cases answer with
      | raised e => exact absurd rfl (hreturn e)
      | crashed => exact hsane
      | returned entry' =>
          rw [← hlog'] at hsane ⊢
          exact (holds_rebuildAndSave (s := { s with log := log', file := file' }) hsane).left

theorem grows_recordEvent {type : String} {data : List (String × Json)} {env : Surroundings}
    {s : TrustState} (hs : Healthy keys s) (htype : type ∈ EVENT_OPS)
    (hdata : Json.Wf (Json.obj data)) (hplain : Plain data) (hsettled : Settled env.writing) :
    Grows keys (Just type data) s.log.entries
      (Daemon.after (recordEvent keys type data env s)) := by
  have hnot : type ∉ PEER_OPS := by
    have hdisjoint : forall op, op ∈ EVENT_OPS -> op ∉ PEER_OPS := by decide
    exact hdisjoint type htype
  have hgood : GoodData type data := by
    refine ⟨hdata, hplain, ?_⟩
    intro entry hentry _ _
    apply wellFormed_event
    rw [hentry]
    exact hnot
  have hsound := sound_recordEvent hs htype hdata hplain hsettled
  have hgrew := append_grew hs.sane hgood hsettled
  unfold recordEvent at hsound ⊢
  generalize s.log.append keys type data env.now env.writing s.file = result at hgrew hsound
  cases hgrew with
  | refused e => exact Grows.same ⟨rfl, hs⟩
  | lost hsane => exact Grows.same hsane
  | @wrote log' file' entry answer hentry hsame hreturn hlog' hsane =>
      have hallowed : Just type data entry.type entry.data := ⟨hentry, hsame⟩
      apply Grows.more hallowed
      cases answer with
      | raised e => exact absurd rfl (hreturn e)
      | crashed => exact hsane
      | returned entry' => exact ⟨hlog', hsound⟩

theorem entries_checkReload {engine : Engine} {env : Surroundings} {s : TrustState}
    (hs : Healthy engine.keys s) (mtime after : Int) :
    (engine.checkReload env mtime after s).log.entries = s.log.entries := by
  unfold Engine.checkReload reloadStore
  split
  · rfl
  · rename_i log hlog
    rw [reloadIfChanged_false hlog]
  · rename_i log hlog
    rcases rebuildAndSave_store env { s with log := log } with ⟨hlog', _, _⟩
    rw [hlog']
    exact hs.reloaded hlog

theorem grows_buildTrust {pydantic : Pydantic} {env : Surroundings} {mtime : Int}
    {file : Option LogFile} {entries : List LogEntry} (h : Sane keys entries file)
    (hown : PlainText keys.ownNodeId) (hsettled : Settled env.writing) :
    Grows keys (Just OP_GENESIS [("node_id", Json.str keys.ownNodeId)]) entries
      (Daemon.started (buildTrust keys pydantic env mtime file)) := by
  rcases sane_load pydantic h mtime with ⟨log, hload, rfl⟩
  have hload' : Holds keys log.entries (Daemon.started (rebuildAndSave env
      { log := log, file := file, store := PeerTrustStore.empty })) :=
    (holds_rebuildAndSave (s := ⟨log, file, PeerTrustStore.empty⟩) h).right
  unfold buildTrust
  rw [hload]
  simp only
  by_cases hsome : log.entries ≠ []
  · have hcall : ensureGenesis keys env log file = (log, file, Answer.returned ()) :=
      if_pos hsome
    rw [hcall]
    exact Grows.same hload'
  by_cases hkey : keys.signingKey = none ∨ keys.ownNodeId = ""
  · have hcall : exists e, ensureGenesis keys env log file = (log, file, Answer.raised e) := by
      unfold ensureGenesis
      rw [if_neg hsome, if_pos hkey]
      exact ⟨_, rfl⟩
    rcases hcall with ⟨e, hcall⟩
    rw [hcall]
    exact Grows.same h
  have hgrew : Grew keys OP_GENESIS [("node_id", Json.str keys.ownNodeId)]
      { log := log, file := file, store := PeerTrustStore.empty }
      (log.append keys OP_GENESIS [("node_id", Json.str keys.ownNodeId)] env.now env.writing
        file) := append_grew h (goodData_genesis hown) hsettled
  unfold ensureGenesis
  rw [if_neg hsome, if_neg hkey]
  generalize log.append keys OP_GENESIS [("node_id", Json.str keys.ownNodeId)] env.now
    env.writing file = result at hgrew
  cases hgrew with
  | refused e => exact Grows.same h
  | lost hsane => exact Grows.same hsane
  | @wrote log' file' entry answer htype hdata hreturn hlog' hsane =>
      have hallowed : Just OP_GENESIS [("node_id", Json.str keys.ownNodeId)] entry.type
          entry.data := ⟨htype, hdata⟩
      apply Grows.more hallowed
      cases answer with
      | raised e => exact absurd rfl (hreturn e)
      | crashed => exact hsane
      | returned entry' =>
          rw [← hlog'] at hsane ⊢
          exact (holds_rebuildAndSave (s := ⟨log', file', PeerTrustStore.empty⟩) hsane).right

end Steps

section Daemons

variable {engine : Engine} {entries : List LogEntry} {d : Daemon}

theorem grows_serve {env : Serving} {request : Request} {s : TrustState}
    (hs : Healthy engine.keys s) (hsettled : Settled env.writing)
    (hharmless : request.euid = some env.euid -> HarmlessRequest engine s request) :
    Grows engine.keys (Appends engine s request) s.log.entries
      (Daemon.after (engine.serve env request s)) := by
  by_cases heuid : request.euid = some env.euid
  · have hserved : Served engine env request s (engine.serve env request s) := serve_served
    generalize engine.serve env request s = handled at hserved
    cases hserved with
    | reload response =>
        exact Grows.same ⟨entries_checkReload hs env.mtime env.mtimeAfter,
          healthy_checkReload hs env.mtime env.mtimeAfter⟩
    | effect heffect =>
        cases heffect with
        | quiet hanswer =>
            rw [after_quiet hanswer]
            exact Grows.same ⟨rfl, hs⟩
        | commits happends hcommit hcrash =>
            have hgrows := grows_commit hs (goodData_appends hs (hharmless heuid) happends)
              hsettled
            rw [hcommit] at hgrows
            rw [after_congr hcrash]
            apply hgrows.mono
            rintro _ _ ⟨rfl, rfl⟩
            exact happends
  · rcases serve_refused heuid s with ⟨response, hresponse⟩
    rw [hresponse]
    exact Grows.same ⟨rfl, hs⟩

theorem Holds.step (h : Holds engine.keys entries d) (e : DaemonEvent)
    (hharmless : Harmless engine d e) :
    Grows engine.keys (Wrote engine d e) entries ((daemons engine).step d e) := by
  cases e with
  | start env mtime =>
      have hgrows : Grows engine.keys
          (Just OP_GENESIS [("node_id", Json.str engine.keys.ownNodeId)]) entries
          (Daemon.started (buildTrust engine.keys engine.pydantic env mtime d.file)) :=
        grows_buildTrust h.sane (plainText_own engine) hharmless
      have hstep : (daemons engine).step d (DaemonEvent.start env mtime) =
          Daemon.started (buildTrust engine.keys engine.pydantic env mtime d.file) := by
        cases d with
        | up s => rfl
        | down file => rfl
      rw [hstep]
      apply hgrows.mono
      rintro _ _ ⟨rfl, rfl⟩
      exact Wrote.genesis env mtime
  | serve env request =>
      cases d with
      | down file => exact Grows.same h
      | up s =>
          rcases h with ⟨rfl, hs⟩
          apply (grows_serve hs hharmless.left
            (fun heuid => hharmless.right heuid s rfl)).mono
          exact fun _ _ happends => Wrote.request rfl happends
  | record env type data htype hdata =>
      cases d with
      | down file => exact Grows.same h
      | up s =>
          rcases h with ⟨rfl, hs⟩
          apply (grows_recordEvent hs htype hdata hharmless.right hharmless.left).mono
          rintro _ _ ⟨rfl, rfl⟩
          exact Wrote.record htype hdata
  | cycle env mtime after =>
      cases d with
      | down file => exact Grows.same h
      | up s =>
          rcases h with ⟨rfl, hs⟩
          exact Grows.same ⟨entries_checkReload hs mtime after, healthy_checkReload hs mtime after⟩

theorem holds_run {past : List Daemon} (hrun : (daemons engine).Run (Harmless engine) past d) :
    exists entries, Holds engine.keys entries d := by
  apply hrun.invariant (I := fun d => exists entries, Holds engine.keys entries d)
  · intro d hstart
    rcases hstart with ⟨file, rfl, htext, htorn⟩
    have hsane : Sane engine.keys [] file :=
      ⟨stored_empty htext htorn, fun _ he => (List.not_mem_nil he).elim,
        fun _ he => (List.not_mem_nil he).elim⟩
    exact ⟨[], hsane⟩
  · rintro d e ⟨entries, hd⟩ hharmless
    cases hd.step e hharmless with
    | same hsame => exact ⟨entries, hsame⟩
    | more _ hnext => exact ⟨_, hnext⟩

end Daemons

end Control
end PanicMonitr
