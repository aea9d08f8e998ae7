import PanicMonitr.Store.Watermark

/-!
# Gaps that are filled

In a run whose steps are in step the cursor stays a watermark, and a sync leaves no hole.
A live pull that comes before the sync moves the cursor over the gap.
-/

namespace PanicMonitr
namespace Store

open Foundation
open Wire

variable {V : Type} {c : Setting V} {s : TwoNodes V}

/-!
## Runs
-/

theorem Watermark.start (h : c.Start s) : Watermark c s := by
  have hnone : forall t, t ∉ compared c.rt c.peerNodeId s.peers := by
    intro t ht
    have hempty := maxEpoch_unknown c.rt c.peerNodeId s.peers h.peers
    rw [maxEpoch_eq, List.max?_eq_none_iff] at hempty
    rw [hempty] at ht
    cases ht
  constructor
  · exact h.times
  · exact h.windows
  · intro b hb hpeer
    have hend := mem_bucketEnds.mpr ⟨b, hb, hpeer, rfl⟩
    exact absurd (mem_compared_of_timed c.rt (Or.inr (Or.inr hend))) (hnone b.windowEnd)
  · exact fun t ht => absurd ht (hnone t)
  · intro f hf
    rw [h.flights] at hf
    cases hf
  · exact noHole_of_none h.finished

/-- A sync whose merge succeeds is in step when its tier reaches all that is needed. -/
theorem inStep_finishSync {i : Nat} {cursor : Datetime} {now : Instant} {node : Node V}
    {payload : List (String × Json)} {peers : PeerStore} {result : MergeResult}
    (hflight : s.flights[i]? = some (Flight.answered cursor now node payload))
    (hmerge : c.merge payload s.peers = (peers, Except.ok result))
    (hreach : forall x, x ∈ node.held -> x ∈ s.remote.held -> cursorEpoch cursor <= x.1.ts ->
      Represented c.peerNodeId s.peers x ∨ c.Reached s.peers cursor now node x) :
    c.InStep s (NodeEvent.finishSync i) := by
  intro cursor' now' node' payload' hflight'
  rw [hflight] at hflight'
  cases hflight'
  rw [hmerge]
  exact hreach

variable [LinearOrder V]

theorem Watermark.step (h : Watermark c s) (hints : KeepsIntegers c.rt) {e : NodeEvent}
    (hstep : c.InStep s e) : Watermark c (c.step s e) := by
  cases e with
  | record snap now => exact h.record snap hstep
  | rollUp5min now =>
      show Watermark c (s.work (rollUp5min c.mean now s.remote.store).1)
      apply h.work
      · rfl
      · exact fun r hr => hr
      intro b hb
      rcases of_mem_insertMany hb with hold | hnew
      · exact Or.inl hold
      · rcases List.mem_map.mp hnew with ⟨window, _, rfl⟩
        exact Or.inr rfl
  | rollHourly now =>
      show Watermark c (s.work (rollHourly c.mean now s.remote.store).1)
      apply h.work
      · rfl
      · exact fun r hr => hr
      intro b hb
      rcases of_mem_insertMany hb with hold | hnew
      · exact Or.inl hold
      · rcases mem_hourlyRows c.mean hnew with ⟨hour, _, _, rfl⟩
        exact Or.inr rfl
  | rollDaily now => exact h.work rfl (fun r hr => hr) (fun b hb => Or.inl hb)
  | prune now =>
      exact h.work rfl (fun r hr => List.mem_of_mem_filter hr)
        (fun b hb => Or.inl (List.mem_of_mem_filter hb))
  | askSync => exact h.askSync
  | answerSync i now => exact h.answerSync i now
  | finishSync i => exact h.finishSync hints hstep
  | answerStats => exact h.answerStats
  | finishStats i now => exact h.finishStats hstep
  | lose i => exact h.fly (fun f hf => h.flights f (List.mem_of_mem_eraseIdx hf))
  | retain now => exact h.retain hstep

/-- In every run in step, a sync that succeeds leaves no hole. -/
theorem sync_leaves_no_hole (hints : KeepsIntegers c.rt) {past : List (TwoNodes V)}
    (hrun : c.twoNodes.Run c.InStep past s) : NoHole c.peerNodeId s := by
  have h : Watermark c s := hrun.invariant (fun s hs => Watermark.start hs)
    (fun s e h hstep => h.step hints hstep)
  exact h.noHole

/-!
## Steps
-/

theorem step_finishStats {i : Nat} {now : Datetime} {ownStats : List (String × Json)} {ts : Int}
    (hflight : s.flights[i]? = some (Flight.stats ownStats))
    (hts : stampOf c.rt (stampedStats ownStats now) = some ts) :
    c.step s (NodeEvent.finishStats i now) =
      { s with
        peers :=
          { s.peers with
            snapshots := insertOrIgnore snapshotKey s.peers.snapshots
              (snapshotRow c.peerNodeId (stampedStats ownStats now) ts) }
        flights := s.flights.eraseIdx i
        finished := none } := by
  show c.finishStats i now s = _
  unfold Setting.finishStats Setting.merge
  rw [hflight]
  simp only [merge_live c.rt c.peerNodeId hts]

theorem step_askSync {cursor : Datetime} (hcursor : c.cursor s.peers = some cursor) :
    c.step s NodeEvent.askSync = s.fly (s.flights ++ [Flight.asked cursor]) := by
  show c.askSync s = _
  unfold Setting.askSync
  rw [hcursor]

theorem step_answerSync {i : Nat} {now : Instant} {cursor : Datetime}
    {payload : List (String × Json)} (hflight : s.flights[i]? = some (Flight.asked cursor))
    (hresponse : syncResponse (s.remote.syncHost c.printer now) (syncRequest cursor) =
      some (Json.obj payload)) :
    c.step s (NodeEvent.answerSync i now) =
      s.fly (s.flights.set i (Flight.answered cursor now s.remote payload)) := by
  show c.answerSync i now s = _
  unfold Setting.answerSync
  rw [hflight]
  simp only [hresponse]

theorem step_finishSync {i : Nat} {cursor : Datetime} {now : Instant} {node : Node V}
    {payload : List (String × Json)} {peers : PeerStore} {result : MergeResult}
    (hflight : s.flights[i]? = some (Flight.answered cursor now node payload))
    (hmerge : c.merge payload s.peers = (peers, Except.ok result)) :
    c.step s (NodeEvent.finishSync i) =
      { s with
        peers := peers
        flights := s.flights.eraseIdx i
        finished := some node.held } := by
  show c.finishSync i s = _
  unfold Setting.finishSync
  rw [hflight]
  simp only [hmerge]

/-!
## Runs of three snapshots

The first snapshot is pulled live, the next two are recorded while the local node is away.
-/

/-- A second of the first minute of 1970, on the clock of `IST`. -/
def atSecond (second : Nat) : Datetime :=
  (fromtimestamp (second * microsPerSecond) IST_MICROS).getD startedAt

def snapAt (second : Nat) (cpu : Int) : List (String × Json) :=
  [("timestamp", Json.str (isoformat (atSecond second))), ("cpu_percent", Json.int cpu)]

def cpuOf : Json -> Option Int
  | Json.obj fields =>
      match Assoc.get? "cpu_percent" fields with
      | some (Json.int n) => some n
      | _ => none
  | _ => none

def gapSetting : Setting Int where
  rt := plainRuntime
  peerNodeId := "n"
  printer :=
    { number := Json.int
      event := fun _ => none
      seconds := fun gap => Json.intText (gap / microsPerSecond) ++ ['.', '0'] }
  read snap :=
    { cpuPercent := cpuOf snap
      memPercent := none
      diskPercent := none
      netRecvBytes := none
      netSentBytes := none }
  mean _ := 0
  readable _ := true

def emptyNode : Node Int where
  store := { ownNodeId := "n", events := [], raw := [], buckets := [], daily := [] }
  payloads _ := []

def nodeAt10 : Node Int :=
  emptyNode.record gapSetting.read (snapAt 10 1) 10000000

def nodeAt30 : Node Int :=
  (nodeAt10.record gapSetting.read (snapAt 20 2) 20000000).record gapSetting.read (snapAt 30 3)
    30000000

def pulled (second : Nat) (cpu : Int) (stamp : Nat) : PeerSnapshot :=
  snapshotRow "n" (stampedStats (snapAt second cpu) (atSecond stamp)) stamp

def storing (snapshots : List PeerSnapshot) : PeerStore :=
  { PeerStore.empty with snapshots := snapshots }

def resting (remote : Node Int) (snapshots : List PeerSnapshot) : TwoNodes Int where
  remote := remote
  peers := storing snapshots
  flights := []
  finished := none

theorem stampOf_pulled (second : Nat) (cpu : Int) {stamp : Nat}
    (hstamp : (atSecond stamp).instant? = some (stamp * microsPerSecond))
    (hts : sqliteInt (epochOf (stamp * microsPerSecond)) = Except.ok stamp) :
    stampOf plainRuntime (stampedStats (snapAt second cpu) (atSecond stamp)) =
      some (stamp : Int) :=
  stampOf_time plainRuntime (snapshotTime_ts rfl) hstamp hts

theorem pulled_step {remote : Node Int} {snapshots : List PeerSnapshot} {second : Nat} {cpu : Int}
    {stamp : Nat}
    (hstamp : stampOf plainRuntime (stampedStats (snapAt second cpu) (atSecond stamp)) =
      some (stamp : Int))
    (hfree : snapshotKey (pulled second cpu stamp) ∉ snapshots.map snapshotKey) :
    gapSetting.step ((resting remote snapshots).fly [Flight.stats (snapAt second cpu)])
        (NodeEvent.finishStats 0 (atSecond stamp)) =
      resting remote (snapshots ++ [pulled second cpu stamp]) := by
  have hstats : ((resting remote snapshots).fly [Flight.stats (snapAt second cpu)]).flights[0]? =
      some (Flight.stats (snapAt second cpu)) := rfl
  have hinsert : insertOrIgnore snapshotKey snapshots (pulled second cpu stamp) =
      snapshots ++ [pulled second cpu stamp] := if_neg hfree
  have hstep : gapSetting.step ((resting remote snapshots).fly
      [Flight.stats (snapAt second cpu)]) (NodeEvent.finishStats 0 (atSecond stamp)) = _ :=
    step_finishStats hstats hstamp
  rw [hstep]
  show resting remote (insertOrIgnore snapshotKey snapshots (pulled second cpu stamp)) = _
  rw [hinsert]

theorem meeting_start : gapSetting.Start (resting emptyNode []) := by
  constructor
  · intro hknown
    rcases hknown with h | h | h | h <;> exact h rfl
  · intro x hx
    cases hx
  · intro b hb
    cases hb
  · rfl
  · rfl

/-- The peer has three snapshots, of which the local node has the first. -/
theorem waiting_reachable :
    gapSetting.twoNodes.Reachable gapSetting.InStep (resting nodeAt30 [pulled 10 1 11]) := by
  have hstart : gapSetting.twoNodes.Reachable gapSetting.InStep (resting emptyNode []) :=
    Machine.Reachable.start meeting_start
  have hfirst : gapSetting.twoNodes.Reachable gapSetting.InStep (resting nodeAt10 []) := by
    apply hstart.step (NodeEvent.record (snapAt 10 1) 10000000)
    intro t ht
    rw [List.mem_singleton.mp ht]
    decide
  have hanswered : gapSetting.twoNodes.Reachable gapSetting.InStep
      ((resting nodeAt10 []).fly [Flight.stats (snapAt 10 1)]) :=
    hfirst.step NodeEvent.answerStats trivial
  have hpulled : gapSetting.twoNodes.Reachable gapSetting.InStep
      (resting nodeAt10 [pulled 10 1 11]) := by
    have hstamp := stampOf_pulled 10 1 (show (atSecond 11).instant? = some 11000000 by decide) rfl
    have hpull : gapSetting.step ((resting nodeAt10 []).fly [Flight.stats (snapAt 10 1)])
        (NodeEvent.finishStats 0 (atSecond 11)) = resting nodeAt10 [pulled 10 1 11] :=
      pulled_step hstamp (by decide)
    rw [← hpull]
    apply hanswered.step (NodeEvent.finishStats 0 (atSecond 11))
    intro ownStats hflight x hx _
    cases hflight
    rw [List.mem_singleton.mp hx]
    exact Or.inl rfl
  have hknown : forall remote, gapSetting.knownTimes (resting remote [pulled 10 1 11]) = [0, 11] :=
    fun remote => rfl
  have hsecond := hpulled.step (NodeEvent.record (snapAt 20 2) 20000000) (by
    show forall t, t ∈ gapSetting.knownTimes _ -> _
    rw [hknown]
    decide)
  exact Machine.Reachable.step hsecond (NodeEvent.record (snapAt 30 3) 30000000) (by
    show forall t, t ∈ gapSetting.knownTimes (resting _ [pulled 10 1 11]) -> _
    rw [hknown]
    decide)

/-- What the peer sends when it is asked at 32 seconds. -/
def contentFrom (cursor : Nat) (rawSnapshots : List Json) : SyncContent where
  gapStart := isoformat (atSecond cursor)
  gapEnd := isoformat (atSecond 32)
  gapSeconds := Json.intText (32 - cursor) ++ ['.', '0']
  syncStrategy := "raw"
  events := []
  buckets := []
  rawSnapshots := rawSnapshots

/-- The fields of an answer. -/
def payloadFrom (cursor : Nat) (rawSnapshots : List Json) : List (String × Json) :=
  match (contentFrom cursor rawSnapshots).json with
  | Json.obj fields => fields
  | _ => []

def sentFrom (cursor : Nat) : SyncPayload Int :=
  syncPayload 32000000 (atSecond cursor) (cursor * microsPerSecond) nodeAt30.store

theorem answer_from {cursor : Nat} {rawSnapshots : List Json}
    (hinstant : (atSecond cursor).instant? = some (cursor * microsPerSecond))
    (hcontent : nodeAt30.content gapSetting.printer (sentFrom cursor) =
      some (contentFrom cursor rawSnapshots))
    (hshort : ¬ SYNC_RESPONSE_MAX <
      (encodeUtf8 (contentFrom cursor rawSnapshots).json.dumps).length) :
    nodeAt30.sent gapSetting.printer 32000000 (atSecond cursor) = some (sentFrom cursor) ∧
      syncResponse (nodeAt30.syncHost gapSetting.printer 32000000)
          (syncRequest (atSecond cursor)) =
        some (Json.obj (payloadFrom cursor rawSnapshots)) := by
  apply syncResponse_short _ hcontent hshort
  unfold getSyncPayload
  rw [hinstant]
  rfl

theorem answer_from_11 :
    nodeAt30.sent gapSetting.printer 32000000 (atSecond 11) = some (sentFrom 11) ∧
      syncResponse (nodeAt30.syncHost gapSetting.printer 32000000) (syncRequest (atSecond 11)) =
        some (Json.obj (payloadFrom 11 [Json.obj (snapAt 20 2), Json.obj (snapAt 30 3)])) :=
  answer_from (by decide) rfl (by decide +kernel)

theorem answer_from_31 :
    nodeAt30.sent gapSetting.printer 32000000 (atSecond 31) = some (sentFrom 31) ∧
      syncResponse (nodeAt30.syncHost gapSetting.printer 32000000) (syncRequest (atSecond 31)) =
        some (Json.obj (payloadFrom 31 [])) :=
  answer_from (by decide) rfl (by decide +kernel)

def answered (remote : Node Int) (snapshots : List PeerSnapshot) (cursor : Datetime)
    (payload : List (String × Json)) : TwoNodes Int :=
  (resting remote snapshots).fly [Flight.answered cursor 32000000 remote payload]

theorem answered_reachable {guard : TwoNodes Int -> NodeEvent -> Prop} {remote : Node Int}
    {snapshots : List PeerSnapshot} {cursor : Datetime} {payload : List (String × Json)}
    (hask : forall s, guard s NodeEvent.askSync)
    (hanswer : forall s, guard s (NodeEvent.answerSync 0 32000000))
    (hreach : gapSetting.twoNodes.Reachable guard (resting remote snapshots))
    (hcursor : gapSetting.cursor (storing snapshots) = some cursor)
    (hresponse : syncResponse (remote.syncHost gapSetting.printer 32000000)
        (syncRequest cursor) = some (Json.obj payload)) :
    gapSetting.twoNodes.Reachable guard (answered remote snapshots cursor payload) := by
  have hasked : gapSetting.step (resting remote snapshots) NodeEvent.askSync =
      (resting remote snapshots).fly [Flight.asked cursor] := step_askSync hcursor
  have hanswered : gapSetting.step ((resting remote snapshots).fly [Flight.asked cursor])
      (NodeEvent.answerSync 0 32000000) = answered remote snapshots cursor payload :=
    step_answerSync rfl hresponse
  rw [← hanswered, ← hasked]
  exact (hreach.step NodeEvent.askSync (hask _)).step (NodeEvent.answerSync 0 32000000) (hanswer _)

theorem cursor_at {cursor : Nat} {snapshots : List PeerSnapshot} {micros : Instant}
    (hlast : lastSeenForPeer plainRuntime "n" (storing snapshots) = Except.ok (some micros))
    (htime : fromtimestamp micros IST_MICROS = some (atSecond cursor)) :
    gapSetting.cursor (storing snapshots) = some (atSecond cursor) := by
  unfold Setting.cursor
  rw [show lastSeenForPeer gapSetting.rt gapSetting.peerNodeId _ = _ from hlast]
  exact htime

theorem cursor_at_11 : gapSetting.cursor (storing [pulled 10 1 11]) = some (atSecond 11) :=
  cursor_at (show lastSeenForPeer plainRuntime "n" _ = Except.ok (some 11000000) from rfl)
    (by decide)

theorem cursor_at_31 :
    gapSetting.cursor (storing [pulled 10 1 11, pulled 30 3 31]) = some (atSecond 31) :=
  cursor_at (show lastSeenForPeer plainRuntime "n" _ = Except.ok (some 31000000) from rfl)
    (by decide)

theorem lists_from (cursor : Nat) (rawSnapshots : List Json) :
    Lists (payloadFrom cursor rawSnapshots) rawSnapshots [] [] := by
  have hjson : (contentFrom cursor rawSnapshots).json =
      Json.obj (payloadFrom cursor rawSnapshots) := rfl
  exact lists_json hjson

theorem cpuOf_carries {second : Nat} {cpu : Int} {payload : Json}
    (h : Carries (snapAt second cpu) payload) : cpuOf payload = some cpu := by
  rcases h with rfl | ⟨now, rfl⟩
  · rfl
  · rfl

def synced (remote : Node Int) (snapshots : List PeerSnapshot) : TwoNodes Int :=
  { resting remote snapshots with finished := some remote.held }

theorem synced_step {remote : Node Int} {snapshots snapshots' : List PeerSnapshot}
    {cursor : Datetime} {payload : List (String × Json)} {result : MergeResult}
    (hmerge : gapSetting.merge payload (storing snapshots) =
      (storing snapshots', Except.ok result)) :
    gapSetting.step (answered remote snapshots cursor payload) (NodeEvent.finishSync 0) =
      synced remote snapshots' :=
  step_finishSync rfl hmerge

/-- A live pull moves the cursor over the gap: the sync after it succeeds and leaves a hole. -/
theorem sync_leaves_hole :
    ¬ forall past s, gapSetting.twoNodes.Run (fun _ _ => True) past s -> NoHole "n" s := by
  intro hclaim
  have hwaiting : gapSetting.twoNodes.Reachable (fun _ _ => True)
      (resting nodeAt30 [pulled 10 1 11]) := waiting_reachable.mono (fun _ _ _ => trivial)
  -- the pull
  have hpulled : gapSetting.twoNodes.Reachable (fun _ _ => True)
      (resting nodeAt30 [pulled 10 1 11, pulled 30 3 31]) := by
    have hstamp := stampOf_pulled 30 3 (show (atSecond 31).instant? = some 31000000 by decide) rfl
    have hpull : gapSetting.step ((resting nodeAt30 [pulled 10 1 11]).fly
        [Flight.stats (snapAt 30 3)]) (NodeEvent.finishStats 0 (atSecond 31)) =
          resting nodeAt30 [pulled 10 1 11, pulled 30 3 31] := pulled_step hstamp (by decide)
    rw [← hpull]
    exact (hwaiting.step NodeEvent.answerStats trivial).step
      (NodeEvent.finishStats 0 (atSecond 31)) trivial
  -- the sync
  have hsynced : gapSetting.twoNodes.Reachable (fun _ _ => True)
      (synced nodeAt30 [pulled 10 1 11, pulled 30 3 31]) := by
    rw [← synced_step ((lists_from 31 []).merge_raw rfl)]
    exact (answered_reachable (fun _ => trivial) (fun _ => trivial) hpulled cursor_at_31
      answer_from_31.right).step (NodeEvent.finishSync 0) trivial
  rcases hsynced with ⟨past, hrun⟩
  have hheld : exists x, x ∈ nodeAt30.held ∧ x.2 = snapAt 20 2 :=
    ⟨_, List.mem_cons_of_mem _ List.mem_cons_self, rfl⟩
  rcases hheld with ⟨x, hx, hsnap⟩
  rcases hclaim past _ hrun nodeAt30.held rfl x hx hx with ⟨r, hr, _, hcarries⟩ | ⟨b, hb, _⟩
  · rw [hsnap] at hcarries
    have hcpu := cpuOf_carries hcarries
    have hrows : r ∈ [pulled 10 1 11, pulled 30 3 31] := hr
    rcases List.mem_cons.mp hrows with rfl | hlast
    · cases hcpu
    · rw [List.mem_singleton.mp hlast] at hcpu
      cases hcpu
  · cases hb

def heldAt (second : Nat) (cpu : Int) : RawRow Int × List (String × Json) :=
  ({ peerNodeId := "n"
     ts := second
     payload := gapSetting.read (Json.obj (snapAt second cpu))
     seq := some cpu }, snapAt second cpu)

theorem held_at_30 : nodeAt30.held = [heldAt 10 1, heldAt 20 2, heldAt 30 3] := rfl

theorem stampOf_snapAt {second : Nat} (cpu : Int)
    (hinstant : (atSecond second).instant? = some (second * microsPerSecond))
    (hts : sqliteInt (epochOf (second * microsPerSecond)) = Except.ok (second : Int)) :
    stampOf plainRuntime (snapAt second cpu) = some (second : Int) :=
  stampOf_time plainRuntime (show snapshotTime (snapAt second cpu) = _ from rfl) hinstant hts

theorem stamps_at_30 : stampOf plainRuntime (snapAt 10 1) = some 10 ∧
    stampOf plainRuntime (snapAt 20 2) = some 20 ∧
      stampOf plainRuntime (snapAt 30 3) = some 30 := by
  refine ⟨stampOf_snapAt 1 ?_ rfl, stampOf_snapAt 2 ?_ rfl, stampOf_snapAt 3 ?_ rfl⟩
  · decide
  · decide
  · decide

def sentRow (second : Nat) (cpu : Int) : PeerSnapshot :=
  snapshotRow "n" (snapAt second cpu) second

theorem mergeSnapshot_sent {second : Nat} {cpu : Int} {snapshots : List PeerSnapshot}
    (hts : stampOf plainRuntime (snapAt second cpu) = some (second : Int))
    (hfree : snapshotKey (sentRow second cpu) ∉ snapshots.map snapshotKey) :
    exists merged, mergeSnapshot plainRuntime "n" (Json.obj (snapAt second cpu))
      (storing snapshots) = Except.ok (storing (snapshots ++ [sentRow second cpu]), merged) := by
  have hinsert : insertOrIgnore snapshotKey snapshots (sentRow second cpu) =
      snapshots ++ [sentRow second cpu] := if_neg hfree
  refine ⟨isFree snapshotKey snapshots (sentRow second cpu), ?_⟩
  rw [mergeSnapshot_stamped plainRuntime "n" hts, ← hinsert]
  rfl

theorem merge_from_11 :
    exists result,
      gapSetting.merge (payloadFrom 11 [Json.obj (snapAt 20 2), Json.obj (snapAt 30 3)])
          (storing [pulled 10 1 11]) =
        (storing [pulled 10 1 11, sentRow 20 2, sentRow 30 3], Except.ok result) := by
  rcases stamps_at_30 with ⟨_, h20, h30⟩
  have hfirst : exists merged, mergeSnapshot plainRuntime "n" (Json.obj (snapAt 20 2))
      (storing [pulled 10 1 11]) = Except.ok (storing [pulled 10 1 11, sentRow 20 2], merged) :=
    mergeSnapshot_sent h20 (by decide)
  have hsecond : exists merged, mergeSnapshot plainRuntime "n" (Json.obj (snapAt 30 3))
      (storing [pulled 10 1 11, sentRow 20 2]) =
        Except.ok (storing [pulled 10 1 11, sentRow 20 2, sentRow 30 3], merged) :=
    mergeSnapshot_sent h30 (by decide)
  rcases hfirst with ⟨first, hfirst⟩
  rcases hsecond with ⟨second, hsecond⟩
  exact ⟨_, (lists_from 11 _).merge_raw (forEach_cons hfirst (forEach_cons hsecond rfl))⟩

theorem only_at_30 {x y : RawRow Int × List (String × Json)} (hx : x ∈ nodeAt30.held)
    (hy : y ∈ nodeAt30.held) :
    stampOf plainRuntime x.2 = some x.1.ts ∧ (y.1.ts = x.1.ts -> y = x) := by
  rcases stamps_at_30 with ⟨h10, h20, h30⟩
  rw [held_at_30] at hx hy
  simp only [List.mem_cons, List.not_mem_nil, or_false] at hx hy
  rcases hx with rfl | rfl | rfl
  · refine ⟨h10, ?_⟩
    rcases hy with rfl | rfl | rfl
    · exact fun _ => rfl
    · exact fun hts => absurd hts (by decide)
    · exact fun hts => absurd hts (by decide)
  · refine ⟨h20, ?_⟩
    rcases hy with rfl | rfl | rfl
    · exact fun hts => absurd hts (by decide)
    · exact fun _ => rfl
    · exact fun hts => absurd hts (by decide)
  · refine ⟨h30, ?_⟩
    rcases hy with rfl | rfl | rfl
    · exact fun hts => absurd hts (by decide)
    · exact fun hts => absurd hts (by decide)
    · exact fun _ => rfl

theorem reached_from_11 {x : RawRow Int × List (String × Json)} (hx : x ∈ nodeAt30.held)
    (hasks : AsksRaw 32000000 (11 * microsPerSecond) x.1.ts)
    (hfree : ("n", x.1.ts) ∉ [pulled 10 1 11].map snapshotKey) :
    gapSetting.Reached (storing [pulled 10 1 11]) (atSecond 11) 32000000 nodeAt30 x := by
  have hinstant : (atSecond 11).instant? = some (11 * microsPerSecond) := by decide
  refine ⟨?_, 11 * microsPerSecond, hinstant, Or.inl ⟨hasks, x.1.ts, ?_, hfree, ?_⟩⟩
  · rw [show nodeAt30.sent gapSetting.printer 32000000 (atSecond 11) = _ from answer_from_11.left]
    rfl
  · exact (only_at_30 hx hx).left
  · intro y hy _ hsame _
    have hstamp : stampOf plainRuntime y.2 = some y.1.ts := (only_at_30 hy hx).left
    have hts : some y.1.ts = some x.1.ts := hstamp.symm.trans hsame
    exact (only_at_30 hx hy).right (Option.some.inj hts)

/-- Without the pull, the sync brings both snapshots. -/
theorem sync_leaves_no_hole_filled :
    exists past s, gapSetting.twoNodes.Run gapSetting.InStep past s ∧
      s.finished = some nodeAt30.held ∧ NoHole "n" s := by
  rcases merge_from_11 with ⟨result, hmerge⟩
  have hsynced : gapSetting.twoNodes.Reachable gapSetting.InStep
      (synced nodeAt30 [pulled 10 1 11, sentRow 20 2, sentRow 30 3]) := by
    rw [← synced_step hmerge]
    apply (answered_reachable (fun _ => trivial) (fun _ => trivial) waiting_reachable cursor_at_11
      answer_from_11.right).step (NodeEvent.finishSync 0)
    apply inStep_finishSync rfl hmerge
    intro x hx _ hlate
    apply Or.inr
    have hx' := hx
    rw [held_at_30] at hx'
    simp only [List.mem_cons, List.not_mem_nil, or_false] at hx'
    rcases hx' with rfl | rfl | rfl
    · exact absurd hlate (by decide)
    · exact reached_from_11 hx (show 11 <= 20 ∧ 20 <= RAW_UNTIL by decide) (by decide)
    · exact reached_from_11 hx (show 11 <= 30 ∧ 30 <= RAW_UNTIL by decide) (by decide)
  rcases hsynced with ⟨past, hrun⟩
  have hints : KeepsIntegers plainRuntime := by
    intro n value hbind
    cases hbind
    rfl
  exact ⟨past, _, hrun, rfl, sync_leaves_no_hole hints hrun⟩

end Store
end PanicMonitr
