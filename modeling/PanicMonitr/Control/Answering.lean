import PanicMonitr.Control.Schedules
import PanicMonitr.Liveness.Reload

/-!
# Windows that answer

Every step of a process keeps the windows of its manager comparable with the clock, as long
as the socket accepts none without offsets; then no probe, page or listing raises.
-/

namespace PanicMonitr
namespace Control

open Foundation
open Trust

/-!
## Steps of a process
-/

def AwareDaemon (d : Daemon) : Prop :=
  forall s, d = Daemon.up s -> AwareState s

theorem awareDaemon_down (file : Option LogFile) : AwareDaemon (Daemon.down file) := by
  intro s h
  cases h

theorem awareDaemon_up {s : TrustState} (h : AwareState s) : AwareDaemon (Daemon.up s) := by
  intro s' heq
  cases heq
  exact h

theorem awareDaemon_after {α : Type} {result : TrustState × Answer α}
    (h : AwareState result.1) : AwareDaemon (Daemon.after result) := by
  rcases result with ⟨s, answer⟩
  cases answer with
  | returned a => exact awareDaemon_up h
  | raised e => exact awareDaemon_up h
  | crashed => exact awareDaemon_down s.file

section Steps

variable {engine : Engine} {s : TrustState}

theorem aware_mutation {env : Surroundings} {allowed : String -> List (String × Json) -> Prop}
    {result : TrustState × Answer Bool} (hs : AwareState s)
    (h : Mutation engine.keys env allowed s result)
    (hallowed : forall type data, allowed type data -> AwareData type data) :
    AwareState result.1 := by
  cases h with
  | quiet _ => exact hs
  | commits hdata => exact hs.commit (hallowed _ _ hdata)

theorem aware_effect {α : Type} {env : Surroundings}
    {allowed : String -> List (String × Json) -> Prop} {result : TrustState × Answer α}
    (hs : AwareState s) (h : Effect engine.keys env allowed s result)
    (hallowed : forall type data, allowed type data -> AwareData type data) :
    AwareState result.1 := by
  cases h with
  | quiet _ => exact hs
  | commits hdata hcommit _ =>
      have hstep : AwareState (commit engine.keys _ _ env s).1 :=
        hs.commit (hallowed _ _ hdata)
      rw [hcommit] at hstep
      exact hstep

theorem aware_rebuildAndSave (env : Surroundings) (hs : AwareState s) :
    AwareState (rebuildAndSave env s).1 := by
  rcases rebuildAndSave_store env s with ⟨hlog, _, hstore⟩
  rcases hstore with hsame | hrebuilt
  · constructor
    · rw [hlog]
      exact hs.entries
    · rw [hsame]
      exact hs.peers
    · rw [hsame]
      exact hs.found
  · apply AwareState.rebuilt
    · rw [hlog]
      exact hs.entries
    · rw [hlog]
      exact hrebuilt

theorem reloadIfChanged_aware {log log' : TrustLog} {file : Option LogFile}
    {mtime after : Int} (hfile : AwareFile engine.keys engine.pydantic file)
    (hlog : forall e, e ∈ log.entries -> AwareEntry e) {changed : Bool}
    (h : log.reloadIfChanged engine.keys engine.pydantic file mtime after =
      Except.ok (changed, log')) : forall e, e ∈ log'.entries -> AwareEntry e := by
  unfold TrustLog.reloadIfChanged at h
  cases file with
  | none =>
      cases h
      exact hlog
  | some f =>
      simp only at h
      split at h
      · cases h
        exact hlog
      split at h
      · cases h
      · rename_i entries hread
        cases h
        exact hfile f entries rfl hread

theorem aware_reloadStore {env : Surroundings} {file : Option LogFile} (hs : AwareState s)
    (hfile : AwareFile engine.keys engine.pydantic file) (mtime after : Int) :
    AwareState (reloadStore engine.keys engine.pydantic env file mtime after s).1 := by
  unfold reloadStore
  cases hreload : s.log.reloadIfChanged engine.keys engine.pydantic file mtime after with
  | error e => exact ⟨hs.entries, hs.peers, hs.found⟩
  | ok result =>
      rcases result with ⟨changed, log⟩
      have hentries := reloadIfChanged_aware hfile hs.entries hreload
      cases changed with
      | false => exact ⟨hentries, hs.peers, hs.found⟩
      | true => exact aware_rebuildAndSave env ⟨hentries, hs.peers, hs.found⟩

theorem awareState_empty {log : TrustLog} {file : Option LogFile}
    (hlog : forall e, e ∈ log.entries -> AwareEntry e) :
    AwareState { log := log, file := file, store := PeerTrustStore.empty } where
  entries := hlog
  peers _ hin := nomatch hin
  found _ _ hget := nomatch hget

theorem ensureGenesis_entries (keys : Keyring) (env : Surroundings) (log : TrustLog)
    (file : Option LogFile) :
    (ensureGenesis keys env log file).1.entries = log.entries ∨
      exists e, e.type = OP_GENESIS ∧
        (ensureGenesis keys env log file).1.entries = log.entries ++ [e] := by
  unfold ensureGenesis
  split
  · exact Or.inl rfl
  split
  · exact Or.inl rfl
  have happend := append_entries keys OP_GENESIS [("node_id", Json.str keys.ownNodeId)] env.now
    env.writing log file
  generalize log.append keys OP_GENESIS [("node_id", Json.str keys.ownNodeId)] env.now
    env.writing file = result at happend
  rcases result with ⟨log', file', answer⟩
  have hentries : log'.entries = log.entries ∨
      exists e, e.type = OP_GENESIS ∧ log'.entries = log.entries ++ [e] := by
    rcases happend with hsame | ⟨e, ⟨htype, _⟩, hmore⟩
    · exact Or.inl hsame
    · exact Or.inr ⟨e, htype, hmore⟩
  cases answer with
  | returned _ => exact hentries
  | raised e => exact hentries
  | crashed => exact hentries

theorem load_aware {file : Option LogFile} {mtime : Int} {log : TrustLog}
    (hfile : AwareFile engine.keys engine.pydantic file)
    (hload : TrustLog.new.load engine.keys engine.pydantic file mtime = Except.ok log) :
    forall e, e ∈ log.entries -> AwareEntry e := by
  unfold TrustLog.load at hload
  cases file with
  | none =>
      cases hload
      exact fun _ he => nomatch he
  | some f =>
      simp only at hload
      split at hload
      · cases hload
      · rename_i entries hread
        cases hload
        exact hfile f entries rfl hread

theorem aware_buildTrust {env : Surroundings} {file : Option LogFile}
    (hfile : AwareFile engine.keys engine.pydantic file) (mtime : Int) :
    AwareState (buildTrust engine.keys engine.pydantic env mtime file).1 := by
  unfold buildTrust
  cases hload : TrustLog.new.load engine.keys engine.pydantic file mtime with
  | error e => exact awareState_empty (fun _ he => nomatch he)
  | ok log =>
      have hlog := load_aware hfile hload
      have hgenesis : forall e, e ∈ (ensureGenesis engine.keys env log file).1.entries ->
          AwareEntry e := by
        intro e he
        rcases ensureGenesis_entries engine.keys env log file with hsame | ⟨entry, htype, hmore⟩
        · rw [hsame] at he
          exact hlog e he
        · rw [hmore] at he
          rcases List.mem_append.mp he with hold | hnew
          · exact hlog e hold
          · intro hwindow
            rw [List.mem_singleton.mp hnew, htype] at hwindow
            exact absurd hwindow (by decide)
      simp only
      rcases hensure : ensureGenesis engine.keys env log file with ⟨log', file', answer⟩
      rw [hensure] at hgenesis
      cases answer with
      | raised e => exact awareState_empty hgenesis
      | crashed => exact awareState_empty hgenesis
      | returned _ => exact aware_rebuildAndSave env (awareState_empty hgenesis)

theorem aware_started {result : TrustState × Answer Bool} (h : AwareState result.1) :
    AwareDaemon (Daemon.started result) := by
  rcases result with ⟨s, answer⟩
  cases answer with
  | returned a => exact awareDaemon_up h
  | raised e => exact awareDaemon_down s.file
  | crashed => exact awareDaemon_down s.file

theorem aware_recordEvent {env : Surroundings} {type : String} {data : List (String × Json)}
    (hs : AwareState s) (htype : type ∈ EVENT_OPS) :
    AwareState (recordEvent engine.keys type data env s).1 := by
  have hother : type ≠ OP_SET_MAINTENANCE := by
    intro hwindow
    rw [hwindow] at htype
    exact absurd htype (by decide)
  have happend := append_entries engine.keys type data env.now env.writing s.log s.file
  unfold recordEvent
  apply hs.step (t := { s with
    log := (s.log.append engine.keys type data env.now env.writing s.file).1
    file := (s.log.append engine.keys type data env.now env.writing s.file).2.1 })
    ⟨happend, Or.inl rfl⟩
  intro e he hwindow
  rw [he.left] at hwindow
  exact absurd hwindow hother

theorem aware_serve {env : Serving} {request : Request} (hs : AwareState s)
    (hwindows : forall start end_, Schedules env request s start end_ ->
      start.isAware = true ∧ end_.isAware = true)
    (hreads : Reloads request -> AwareFile engine.keys engine.pydantic s.file) :
    AwareState (engine.serve env request s).1 := by
  have hhandles : Handles engine env request s (engine.serve env request s) := serve_handles
  generalize engine.serve env request s = handled at hhandles
  cases hhandles with
  | effect heffect =>
      apply aware_effect hs heffect
      intro type data hscheduled
      cases hscheduled with
      | other hother => exact AwareData.other hother
      | window hwindow =>
          rcases hwindows _ _ hwindow with ⟨hstart, hend⟩
          exact AwareData.window hstart hend
  | reload response hpath => exact aware_reloadStore hs (hreads hpath) env.mtime env.mtimeAfter

theorem aware_setMaintenance (env : Surroundings) (hs : AwareState s) (nodeId : String)
    {start end_ : Datetime} (hstart : start.isAware = true) (hend : end_.isAware = true) :
    AwareState (setMaintenance engine.keys env nodeId start end_ s).1 := by
  apply aware_mutation hs (setMaintenance_result engine.keys env nodeId start end_ s)
  rintro _ _ ⟨rfl, rfl, _, _⟩
  exact AwareData.window hstart hend

theorem aware_run {env : Surroundings} {op : ManagerOp} (hs : AwareState s)
    (hop : AwareOp engine op) : AwareState (op.run engine.keys engine.pydantic env s).1 := by
  have hran := op.ran engine.keys engine.pydantic env s
  generalize op.run engine.keys engine.pydantic env s = result at hran
  cases hran with
  | mutation hresult =>
      apply aware_mutation hs hresult
      intro type data hwrites
      cases hwrites with
      | addPeer _ hadds => exact AwareData.other (noWindow_adds hadds)
      | revokePeer _ => exact AwareData.other (by decide)
      | updatePermissions _ => exact AwareData.other (by decide)
      | setAlias _ => exact AwareData.other (by decide)
      | setTags hsets => exact AwareData.other (noWindow_tags hsets)
      | addTag hsets => exact AwareData.other (noWindow_tags hsets)
      | removeTag hsets => exact AwareData.other (noWindow_tags hsets)
      | setMaintenance _ => exact AwareData.window hop.left hop.right
      | clearMaintenance _ => exact AwareData.other (by decide)
  | load => exact aware_rebuildAndSave env hs
  | reload file mtime after => exact aware_reloadStore hs hop mtime after

theorem schedules_maintRequest {env : Serving} {uid : Nat} {nid : String}
    {start end_ : AwareTime} {start' end' : Datetime}
    (h : Schedules env (maintRequest uid nid start.val end_.val) s start' end') :
    start'.isAware = true ∧ end'.isAware = true := by
  cases h with
  | mk _ _ _ hbody hstartText hendText hstart hend _ _ =>
      cases hbody
      cases hstartText
      cases hendText
      rw [fromisoformat_isoformat] at hstart hend
      rw [← Option.some.inj hstart, ← Option.some.inj hend]
      exact ⟨start.property, end_.property⟩

theorem not_reloads_maintRequest (uid : Nat) (nid : String) (start end_ : Datetime) :
    ¬ Reloads (maintRequest uid nid start end_) := by
  intro h
  unfold Reloads trimPath at h
  simp only at h
  split at h
  · exact absurd h (by decide)
  · have hlist := congrArg String.toList h
    rw [String.toList_ofList] at hlist
    have hprefix := List.rdropWhile_prefix (fun c => decide (c = '/'))
      (maintRequest uid nid start end_).path.toList
    rw [hlist] at hprefix
    rcases hprefix with ⟨rest, hrest⟩
    have hpath : (maintRequest uid nid start end_).path.toList =
        "/v1/peers/".toList ++ (nid.toList ++ "/maint".toList) := by
      show ("/v1/peers/" ++ nid ++ "/maint").toList = _
      rw [String.toList_append, String.toList_append, List.append_assoc]
    rw [hpath] at hrest
    have htake := congrArg (List.take 5) hrest
    exact absurd htake (by simp)

theorem awareDaemon_schedule {d : Daemon} (hd : AwareDaemon d)
    (window : Except TimeFault (AwareTime × AwareTime))
    {next : AwareTime -> AwareTime -> TrustState -> Daemon}
    (hnext : forall start end_ s, AwareState s -> AwareDaemon (next start end_ s)) :
    AwareDaemon (d.schedule window next) := by
  cases window with
  | error e => exact hd
  | ok times =>
      rcases times with ⟨start, end_⟩
      cases d with
      | up s => exact hnext start end_ s (hd s rfl)
      | down file => exact hd

theorem AwareDaemon.step {d : Daemon} {decimal : Char -> Option Nat} (hd : AwareDaemon d)
    {e : ProcessEvent} (he : AwareStep engine d e) :
    AwareDaemon ((processes engine decimal).step d e) := by
  cases e with
  | daemon e =>
      cases e with
      | start env mtime =>
          have hstarted : AwareDaemon (Daemon.started
              (buildTrust engine.keys engine.pydantic env mtime d.file)) :=
            aware_started (aware_buildTrust he mtime)
          cases d with
          | up s => exact hstarted
          | down file => exact hstarted
      | serve env request =>
          cases d with
          | down file => exact hd
          | up s =>
              rcases he s rfl with ⟨hwindows, hreads⟩
              exact awareDaemon_after (aware_serve (hd s rfl) hwindows hreads)
      | record env type data htype hdata =>
          cases d with
          | down file => exact hd
          | up s => exact awareDaemon_after (aware_recordEvent (hd s rfl) htype)
      | cycle env mtime after =>
          cases d with
          | down file => exact hd
          | up s => exact awareDaemon_up (aware_reloadStore (hd s rfl) he mtime after)
  | cli env uid now target startRaw endRaw =>
      apply awareDaemon_schedule hd
      intro start end_ s hs
      unfold cliSocket
      split
      · exact awareDaemon_up hs
      · apply awareDaemon_after
        apply aware_serve hs
        · intro start' end' hwindow
          exact schedules_maintRequest hwindow
        · intro hreads
          exact absurd hreads (not_reloads_maintRequest uid _ start.val end_.val)
  | direct env now target startRaw endRaw =>
      apply awareDaemon_schedule hd
      intro start end_ s hs
      unfold cliDirect
      split
      · exact awareDaemon_after
          (aware_setMaintenance env hs _ start.property end_.property)
      · exact awareDaemon_up hs
  | tui env now nodeId startRaw endRaw =>
      apply awareDaemon_schedule hd
      intro start end_ s hs
      unfold tuiSet
      split
      · exact awareDaemon_up hs
      · exact awareDaemon_after
          (aware_setMaintenance env hs nodeId start.property end_.property)
  | mutate env op =>
      cases d with
      | down file => exact hd
      | up s => exact awareDaemon_after (aware_run (hd s rfl) he)
  | replaced file =>
      cases d with
      | down old => exact awareDaemon_down file
      | up s =>
          have hs := hd s rfl
          exact awareDaemon_up ⟨hs.entries, hs.peers, hs.found⟩

end Steps

theorem healthy_awareFile {engine : Engine} {s : TrustState} (h : Healthy engine.keys s)
    (hs : AwareState s) : AwareFile engine.keys engine.pydantic s.file := by
  intro f entries hfile hread
  have hlines : Lines s.log.entries (some f) := by
    rw [← hfile]
    exact h.sane.stored.toLines
  rw [hlines.read_plain engine.pydantic h.sane.plain, h.sane.stored.chain] at hread
  cases hread
  exact hs.entries

/-!
## Every window answers
-/

open Liveness in
/-- No comparison of a stored window with the clock raises, wherever it is made. -/
structure Answering (s : TrustState) : Prop where
  bounds : forall peer, peer ∈ s.store.peers -> AwarePeer peer
  listed : forall peer, peer ∈ s.store.peers -> forall now, exists b,
    peer.inMaintenance now = some b
  found : forall n peer, s.store.getPeer n = some peer -> forall now, exists b,
    peer.inMaintenance now = some b
  inside : forall now, exists peers, peersInMaintenance now s.store.peers = some peers
  probed : forall (cfg : EngineConfig) (m : Monitored) (now : Instant) (outcome : ProbeOutcome)
    (n : String), (probePeer cfg (s.store.getPeer n) (s.store.getPeer n) m now outcome).2 = none ->
      exists peer, s.store.getPeer n = some peer ∧ peer.inMaintenance now = some true

open Liveness in
theorem answering_of_aware {s : TrustState} (h : AwareState s) : Answering s where
  bounds := h.peers
  listed peer hin now := (h.peers peer hin).answers now
  found n peer hget now := (h.found n peer hget).answers now
  inside now := peersInMaintenance_answers h.peers now
  probed cfg m now outcome n hnone := by
    cases hget : s.store.getPeer n with
    | none =>
        have hquiet : OutsideMaintenance (s.store.getPeer n) now := by
          rw [hget]
          exact fun _ hin => nomatch hin
        rw [probePeer_record cfg m outcome hquiet hquiet] at hnone
        cases hnone
    | some peer =>
        rcases (h.found n peer hget).answers now with ⟨inside, hinside⟩
        cases inside with
        | true => exact ⟨peer, rfl, hinside⟩
        | false =>
            have hquiet : OutsideMaintenance (s.store.getPeer n) now := by
              rw [hget]
              intro p hp
              rw [← Option.some.inj hp]
              exact hinside
            rw [probePeer_record cfg m outcome hquiet hquiet] at hnone
            cases hnone

/--
In every run in which the socket accepts no window without offsets, and no log file with one
is read, all windows answer.
-/
theorem maintenance_answers {engine : Engine} {decimal : Char -> Option Nat} {s : TrustState}
    (hreach : (processes engine decimal).Reachable (AwareStep engine) (Daemon.up s)) :
    Answering s := by
  have h : AwareDaemon (Daemon.up s) := hreach.invariant (I := AwareDaemon)
    (by
      intro d hstart
      rcases hstart with ⟨file, rfl⟩
      exact awareDaemon_down file)
    (fun _ _ hd he => hd.step he)
  exact answering_of_aware (h s rfl)

/-!
A window from the terminal interface, and one from the socket without offsets.
-/

def addPeerId : ProcessEvent :=
  ProcessEvent.mutate calmServing.toSurroundings
    (ManagerOp.addPeer peerId Json.null Json.null Json.null)

def windowFromTui : List ProcessEvent :=
  [ProcessEvent.daemon (DaemonEvent.start calmServing.toSurroundings 0), addPeerId,
    ProcessEvent.tui calmServing.toSurroundings ⟨noon, rfl⟩ peerId "+0" "2030-01-01T00:00:00"]

/-- `PUT /v1/peers/<nid>/maint` with the first two days of 2000 -/
def naiveWindow : Request where
  euid := some 1000
  method := Method.put
  path := "/v1/peers/" ++ peerId ++ "/maint"
  queryTag := none
  body := Except.ok (Json.obj
    [("start", Json.str "2000-01-01T00:00:00"), ("end", Json.str "2000-01-03T00:00:00")])
  hbody := by
    intro v hv
    cases hv
    have hkeys : ["start", "end"].Nodup := by decide
    exact ⟨hkeys, trivial, trivial, trivial⟩

def windowFromSocket : List ProcessEvent :=
  [ProcessEvent.daemon (DaemonEvent.start calmServing.toSurroundings 0), addPeerId,
    ProcessEvent.daemon (DaemonEvent.serve calmServing naiveWindow)]

def endState (es : List ProcessEvent) : TrustState :=
  match (processes testEngine (fun _ => none)).exec (Daemon.down none) es with
  | Daemon.up s => s
  | Daemon.down file => { log := TrustLog.new, file := file, store := PeerTrustStore.empty }

theorem exec_windowFromTui :
    (processes testEngine (fun _ => none)).exec (Daemon.down none) windowFromTui =
      Daemon.up (endState windowFromTui) := by
  rfl

theorem exec_windowFromSocket :
    (processes testEngine (fun _ => none)).exec (Daemon.down none) windowFromSocket =
      Daemon.up (endState windowFromSocket) := by
  rfl

theorem maintenance_answers_tui : Answering (endState windowFromTui) := by
  have hstart : (processes testEngine (fun _ => none)).Run (AwareStep testEngine) []
      (Daemon.down none) := Machine.Run.start ⟨none, rfl⟩
  have hguard : (processes testEngine (fun _ => none)).Guarded (AwareStep testEngine)
      (Daemon.down none) windowFromTui :=
    ⟨fun _ _ hfile => (nomatch hfile), trivial, trivial, trivial⟩
  have hrun := hstart.exec windowFromTui hguard
  rw [exec_windowFromTui] at hrun
  exact maintenance_answers ⟨_, hrun⟩

/-- The socket accepts the window, and from then on every comparison with it raises. -/
theorem naive_window_accepted :
    ¬ forall (engine : Engine) (decimal : Char -> Option Nat) (s : TrustState),
      (processes engine decimal).Reachable (fun _ _ => True) (Daemon.up s) ->
        forall peer, peer ∈ s.store.peers -> forall now, exists b,
          peer.inMaintenance now = some b := by
  intro hclaim
  have hstart : (processes testEngine (fun _ => none)).Run (fun _ _ => True) []
      (Daemon.down none) := Machine.Run.start ⟨none, rfl⟩
  have hrun := hstart.exec windowFromSocket ⟨trivial, trivial, trivial, trivial⟩
  rw [exec_windowFromSocket] at hrun
  have hanswers := hclaim testEngine (fun _ => none) (endState windowFromSocket) ⟨_, hrun⟩
  have hraises : (endState windowFromSocket).store.peers.map (fun p => p.inMaintenance 0) =
      [none] := by
    decide +kernel
  have hlisted : none ∈ (endState windowFromSocket).store.peers.map
      (fun p => p.inMaintenance 0) := by
    rw [hraises]
    exact List.mem_singleton_self none
  rcases List.mem_map.mp hlisted with ⟨peer, hin, hnone⟩
  rcases hanswers peer hin 0 with ⟨b, hb⟩
  rw [hnone] at hb
  cases hb

end Control
end PanicMonitr
