import PanicMonitr.Foundation.Readings
import PanicMonitr.Liveness.Reconnect
import PanicMonitr.Liveness.Retention
import PanicMonitr.Trust.Projection
import Mathlib.Algebra.Order.BigOperators.Group.List
import Mathlib.Algebra.Order.Field.Basic

/-!
# The dashboard snapshot

`build_dashboard_snapshot` runs on the threads of the servers while the engine goes on: every
figure of it is a look of its own.  What is handed out is shared for a second.
-/

namespace PanicMonitr
namespace Web

open Foundation
open Trust
open Liveness

/-- In microseconds of the monotonic clock. -/
def SNAPSHOT_CACHE_TTL : Int := microsPerSecond

def SPARKLINE_POINTS : Nat := 120
def EVENTS_FEED_LIMIT : Nat := 30

/-!
## What it looks at
-/

/-- A `PeerState`. -/
structure Device where
  peer : PeerState
  syncStatus : SyncStatus
  lastSyncTs : Option Instant
  hasDashboardGap : Bool
  lastStats : Option Json

/-- One of `_devices`: its `entry` is set once, the object is written to all the time. -/
structure DeviceRef where
  entry : PeerEntry
  object : Nat

structure Source where
  nodeId : String
  intervalSeconds : Int
  downAfter : Nat
  upAfter : Nat
  flapMinDwellSeconds : Nat

/-- The engine, its stores and the clock at a moment; `[]` also where the log store raises. -/
structure View where
  source : Source
  devices : List DeviceRef
  object : Nat -> Device
  store : PeerTrustStore
  rows : List ProbeRow
  log : TrustLog
  ownStats : Option Json
  ownStatsHistory : List Json
  now : Instant

/-!
## What it says

Times are the instants their texts stand for.
-/

structure RttView where
  current : Option Rat
  min24h : Option Rat
  max24h : Option Rat
  avg24h : Option Rat
  probes24h : Nat
  alive24h : Nat
  dead24h : Nat

structure UptimeView where
  oneHour : Option Rat
  day : Option Rat
  week : Option Rat
  month : Option Rat

structure PeerView where
  nodeId : String
  alias_ : Option String
  tags : List String
  status : PeerStatus
  inMaintenance : Bool
  maintenanceStart : Option Datetime
  maintenanceEnd : Option Datetime
  lastSeen : Option Instant
  consecutiveFailures : Nat
  consecutiveSuccesses : Nat
  uptime : UptimeView
  hourly24h : List (Option Rat)
  rtt : RttView
  sparkline : List LatencyRecord
  syncStatus : SyncStatus
  lastSyncTs : Option Instant
  hasDashboardGap : Bool
  lastStats : Option Json

structure EventView where
  seq : Int
  type : String
  timestamp : String
  data : List (String × Json)
  peerAlias : Option String
  peerNodeId : Option Json

structure Counts where
  monitorTargets : Nat
  alive : Nat
  dead : Nat
  unknown : Nat
  maintenance : Nat
  peersTotal : Nat
  peersRevoked : Nat

structure Totals where
  probes24h : Nat
  avgUptime24h : Option Rat
  eventsLast24h : Nat

structure DashboardSnapshot where
  source : Source
  now : Instant
  counts : Counts
  totals : Totals
  peers : List PeerView
  events : List EventView
  ownStats : Option Json
  ownStatsHistory : List Json

/-!
## The program
-/

open Reading (see seeIfSet ofOption forEach)

/-- The newest points of the deque, or of the rows on disk while it is empty. -/
def sparkline (ref : DeviceRef) : Reading View (List LatencyRecord) := do
  let history <- see (fun v => (v.object ref.object).peer.latencyHistory)
  if history.isEmpty then
    let rows <- see (fun v => recentRows v.rows ref.entry.nodeId 6 v.now)
    return (rows.rtake SPARKLINE_POINTS).map recordOf
  else return history.rtake SPARKLINE_POINTS

def peerView (now : Instant) (ref : DeviceRef) : Reading View PeerView := do
  let trusted <- see (fun v => v.store.getPeer ref.entry.nodeId)
  let inMaintenance <- ofOption (trusted.elim (some false) (fun peer => peer.inMaintenance now))
  let hour <- see (fun v => uptimePercent v.rows ref.entry.nodeId (hoursMicros 1) v.now)
  let day <- see (fun v => uptimePercent v.rows ref.entry.nodeId (hoursMicros 24) v.now)
  let week <- see (fun v => uptimePercent v.rows ref.entry.nodeId (hoursMicros (24 * 7)) v.now)
  let month <- see (fun v => uptimePercent v.rows ref.entry.nodeId (hoursMicros (24 * 30)) v.now)
  let hourly <- see (fun v => hourlyUptimeBuckets v.rows ref.entry.nodeId 24 v.now)
  let rtt <- see (fun v => rttStats v.rows ref.entry.nodeId 24 v.now)
  let sparkline <- sparkline ref
  let current <- seeIfSet (fun v => (v.object ref.object).peer.latencyHistory.getLast?)
  let status <- see (fun v => (v.object ref.object).peer.currentStatus)
  let lastSeen <- seeIfSet (fun v => (v.object ref.object).peer.lastSeen)
  let failures <- see (fun v => (v.object ref.object).peer.consecutiveFailures)
  let successes <- see (fun v => (v.object ref.object).peer.consecutiveSuccesses)
  let syncStatus <- see (fun v => (v.object ref.object).syncStatus)
  let lastSyncTs <- seeIfSet (fun v => (v.object ref.object).lastSyncTs)
  let hasDashboardGap <- see (fun v => (v.object ref.object).hasDashboardGap)
  let lastStats <- see (fun v => (v.object ref.object).lastStats)
  return {
    nodeId := ref.entry.nodeId
    alias_ := ref.entry.alias_
    tags := trusted.elim [] TrustedPeer.tags
    status := status
    inMaintenance := inMaintenance
    maintenanceStart := trusted.bind TrustedPeer.maintenanceStart
    maintenanceEnd := trusted.bind TrustedPeer.maintenanceEnd
    lastSeen := lastSeen
    consecutiveFailures := failures
    consecutiveSuccesses := successes
    uptime := ⟨hour, day, week, month⟩
    hourly24h := hourly
    rtt := ⟨current.bind LatencyRecord.rttMs, rtt.rttMin, rtt.rttMax, rtt.rttAvg, rtt.probes,
      rtt.alive, rtt.dead⟩
    sparkline := sparkline
    syncStatus := syncStatus
    lastSyncTs := lastSyncTs
    hasDashboardGap := hasDashboardGap
    lastStats := lastStats }

/-- `{p.node_id: p.alias for p in all_peers}` -/
def aliasByNid (peers : List TrustedPeer) : List (String × Option String) :=
  peers.foldl (fun names peer => Assoc.set peer.nodeId peer.alias_ names) []

/-- `alias_by_nid.get(nid) if nid else None`; a list or an object cannot be looked up. -/
def peerAlias (names : List (String × Option String)) : Option Json -> Option (Option String)
  | some (Json.str nid) => some (if nid = "" then none else (Assoc.get? nid names).join)
  | some (Json.arr items) => if items.isEmpty then some none else none
  | some (Json.obj fields) => if fields.isEmpty then some none else none
  | _ => some none

def eventView (names : List (String × Option String)) (entry : LogEntry) : Option EventView := do
  let alias_ <- peerAlias names (Assoc.get? "node_id" entry.data)
  return ⟨entry.seq, entry.type, entry.timestamp, entry.data, alias_,
    Assoc.get? "node_id" entry.data⟩

/-- `(now - datetime.fromisoformat(timestamp)).total_seconds() <= 86400`, where that has one. -/
def withinLastDay (now : Instant) (event : EventView) : Option Bool := do
  let written <- fromisoformat event.timestamp
  let t <- written.instant?
  return decide (now - t <= 86400 * microsPerSecond)

/-- The mean of the 24-hour figures there are; that sum and quotient are not rounded here. -/
def avgUptime (peers : List PeerView) : Option Rat :=
  let figures := peers.filterMap (fun peer => peer.uptime.day)
  if figures.isEmpty then none else some (figures.sum / figures.length)

/-- `sum(1 for d in devices if d.current_status == status)`, a look for each device. -/
def countStatus (status : PeerStatus) (devices : List DeviceRef) : Reading View Nat := do
  let statuses <- forEach (fun ref => see (fun v => (v.object ref.object).peer.currentStatus))
    devices
  return statuses.countP (fun found => decide (found = status))

/-- `_build_dashboard_snapshot_uncached(engine)` -/
def buildDashboardSnapshotUncached : Reading View DashboardSnapshot := do
  let devices <- see View.devices
  let now <- see View.now
  let peers <- forEach (peerView now) devices
  let allPeers <- see (fun v => v.store.peers)
  let recent <- see (fun v => v.log.monitorEvents none)
  let events <- ofOption
    ((recent.rtake EVENTS_FEED_LIMIT).reverse.mapM (eventView (aliasByNid allPeers)))
  let probes <- see (fun v => countInWindow v.rows 24 none v.now)
  let ownStats <- see View.ownStats
  let ownStatsHistory <- see View.ownStatsHistory
  let source <- see View.source
  let alive <- countStatus PeerStatus.alive devices
  let dead <- countStatus PeerStatus.dead devices
  let unknown <- countStatus PeerStatus.unknown devices
  let lastDay <- ofOption (events.mapM (withinLastDay now))
  return {
    source := source
    now := now
    counts := {
      monitorTargets := devices.length
      alive := alive
      dead := dead
      unknown := unknown
      maintenance := peers.countP PeerView.inMaintenance
      peersTotal := allPeers.countP (fun peer => peer.revokedAt.isNone)
      peersRevoked := allPeers.countP (fun peer => peer.revokedAt.isSome) }
    totals := ⟨probes, avgUptime peers, lastDay.countP id⟩
    peers := peers
    events := events
    ownStats := ownStats
    ownStatsHistory := ownStatsHistory }

/-- `build_dashboard_snapshot(engine)`, called by any number of threads. -/
def snapshots : Machine (Shared View DashboardSnapshot) (SharedEvent View) :=
  shared SNAPSHOT_CACHE_TTL buildDashboardSnapshotUncached

/-!
## What each figure is

`I` holds of every view that is looked at; each figure is what the engine says in one of them.
-/

open Reading (Seen Under under_seen under_seeIfSet under_ofOption under_forEach)

section Figures

variable (I : View -> Prop)

def historyOf (ref : DeviceRef) (v : View) : List LatencyRecord :=
  (v.object ref.object).peer.latencyHistory

def statusOf (ref : DeviceRef) (v : View) : PeerStatus :=
  (v.object ref.object).peer.currentStatus

/-- A line of the trust store, or none. -/
structure TrustSeen (now : Instant) (trusted : Option TrustedPeer) (view : PeerView) : Prop where
  tags : view.tags = trusted.elim [] TrustedPeer.tags
  start : view.maintenanceStart = trusted.bind TrustedPeer.maintenanceStart
  stop : view.maintenanceEnd = trusted.bind TrustedPeer.maintenanceEnd
  inside : trusted.elim (some false) (fun peer => peer.inMaintenance now) =
    some view.inMaintenance

structure UptimeSeen (nodeId : String) (uptime : UptimeView) : Prop where
  oneHour : Seen I (fun v => uptimePercent v.rows nodeId (hoursMicros 1) v.now) uptime.oneHour
  day : Seen I (fun v => uptimePercent v.rows nodeId (hoursMicros 24) v.now) uptime.day
  week : Seen I (fun v => uptimePercent v.rows nodeId (hoursMicros (24 * 7)) v.now) uptime.week
  month : Seen I (fun v => uptimePercent v.rows nodeId (hoursMicros (24 * 30)) v.now) uptime.month

structure RttSeen (ref : DeviceRef) (view : RttView) : Prop where
  current : exists last, Seen I (fun v => (historyOf ref v).getLast?) last ∧
    view.current = last.bind LatencyRecord.rttMs
  stats : exists rtt, Seen I (fun v => rttStats v.rows ref.entry.nodeId 24 v.now) rtt ∧
    view.min24h = rtt.rttMin ∧ view.max24h = rtt.rttMax ∧ view.avg24h = rtt.rttAvg ∧
    view.probes24h = rtt.probes ∧ view.alive24h = rtt.alive ∧ view.dead24h = rtt.dead

def SparklineSeen (ref : DeviceRef) (points : List LatencyRecord) : Prop :=
  exists history, Seen I (historyOf ref) history ∧
    ((history ≠ [] ∧ points = history.rtake SPARKLINE_POINTS) ∨
      history = [] ∧ exists rows,
        Seen I (fun v => recentRows v.rows ref.entry.nodeId 6 v.now) rows ∧
        points = (rows.rtake SPARKLINE_POINTS).map recordOf)

structure PeerSeen (now : Instant) (ref : DeviceRef) (view : PeerView) : Prop where
  nodeId : view.nodeId = ref.entry.nodeId
  alias_ : view.alias_ = ref.entry.alias_
  trusted : exists trusted, Seen I (fun v => v.store.getPeer ref.entry.nodeId) trusted ∧
    TrustSeen now trusted view
  uptime : UptimeSeen I ref.entry.nodeId view.uptime
  hourly : Seen I (fun v => hourlyUptimeBuckets v.rows ref.entry.nodeId 24 v.now) view.hourly24h
  rtt : RttSeen I ref view.rtt
  sparkline : SparklineSeen I ref view.sparkline
  status : Seen I (statusOf ref) view.status
  lastSeen : Seen I (fun v => (v.object ref.object).peer.lastSeen) view.lastSeen
  failures : Seen I (fun v => (v.object ref.object).peer.consecutiveFailures)
    view.consecutiveFailures
  successes : Seen I (fun v => (v.object ref.object).peer.consecutiveSuccesses)
    view.consecutiveSuccesses
  syncStatus : Seen I (fun v => (v.object ref.object).syncStatus) view.syncStatus
  lastSyncTs : Seen I (fun v => (v.object ref.object).lastSyncTs) view.lastSyncTs
  gap : Seen I (fun v => (v.object ref.object).hasDashboardGap) view.hasDashboardGap
  lastStats : Seen I (fun v => (v.object ref.object).lastStats) view.lastStats

/-- The statuses are looked at again for each count. -/
def CountSeen (devices : List DeviceRef) (status : PeerStatus) (n : Nat) : Prop :=
  exists statuses, List.Forall₂ (fun ref => Seen I (statusOf ref)) devices statuses ∧
    n = statuses.countP (fun found => decide (found = status))

structure DashboardSeen (devices : List DeviceRef) (snap : DashboardSnapshot) : Prop where
  source : Seen I View.source snap.source
  listed : Seen I View.devices devices
  now : Seen I View.now snap.now
  targets : snap.counts.monitorTargets = devices.length
  peers : List.Forall₂ (PeerSeen I snap.now) devices snap.peers
  alive : CountSeen I devices PeerStatus.alive snap.counts.alive
  dead : CountSeen I devices PeerStatus.dead snap.counts.dead
  unknown : CountSeen I devices PeerStatus.unknown snap.counts.unknown
  maintenance : snap.counts.maintenance = snap.peers.countP PeerView.inMaintenance
  trust : exists all, Seen I (fun v => v.store.peers) all ∧
    snap.counts.peersTotal = all.countP (fun peer => peer.revokedAt.isNone) ∧
    snap.counts.peersRevoked = all.countP (fun peer => peer.revokedAt.isSome) ∧
    exists recent, Seen I (fun v => v.log.monitorEvents none) recent ∧
      (recent.rtake EVENTS_FEED_LIMIT).reverse.mapM (eventView (aliasByNid all)) =
        some snap.events
  probes : Seen I (fun v => countInWindow v.rows 24 none v.now) snap.totals.probes24h
  average : snap.totals.avgUptime24h = avgUptime snap.peers
  lastDay : exists within, snap.events.mapM (withinLastDay snap.now) = some within ∧
    snap.totals.eventsLast24h = within.countP id
  ownStats : Seen I View.ownStats snap.ownStats
  ownStatsHistory : Seen I View.ownStatsHistory snap.ownStatsHistory

theorem under_sparkline (ref : DeviceRef) : (sparkline ref).Under I (SparklineSeen I ref) := by
  refine Under.bind (under_seen I (historyOf ref)) ?_
  intro history hhistory
  split
  · rename_i hempty
    refine Under.bind (under_seen I _) ?_
    exact fun rows hrows =>
      ⟨history, hhistory, Or.inr ⟨List.isEmpty_iff.mp hempty, rows, hrows, rfl⟩⟩
  · rename_i hempty
    have hne : history ≠ [] := fun heq => hempty (List.isEmpty_iff.mpr heq)
    exact ⟨history, hhistory, Or.inl ⟨hne, rfl⟩⟩

theorem under_peerView (now : Instant) (ref : DeviceRef) :
    (peerView now ref).Under I (PeerSeen I now ref) := by
  refine Under.bind (under_seen I _) ?_
  intro trusted htrusted
  refine Under.bind (under_ofOption (fun _ h => h)) ?_
  intro inMaintenance hinside
  refine Under.bind (under_seen I _) ?_
  intro hour hhour
  refine Under.bind (under_seen I _) ?_
  intro day hday
  refine Under.bind (under_seen I _) ?_
  intro week hweek
  refine Under.bind (under_seen I _) ?_
  intro month hmonth
  refine Under.bind (under_seen I _) ?_
  intro hourly hhourly
  refine Under.bind (under_seen I _) ?_
  intro rtt hrtt
  refine Under.bind (under_sparkline I ref) ?_
  intro points hpoints
  refine Under.bind (under_seeIfSet I _) ?_
  intro last hlast
  refine Under.bind (under_seen I _) ?_
  intro status hstatus
  refine Under.bind (under_seeIfSet I _) ?_
  intro lastSeen hlastSeen
  refine Under.bind (under_seen I _) ?_
  intro failures hfailures
  refine Under.bind (under_seen I _) ?_
  intro successes hsuccesses
  refine Under.bind (under_seen I _) ?_
  intro syncStatus hsyncStatus
  refine Under.bind (under_seeIfSet I _) ?_
  intro lastSyncTs hlastSyncTs
  refine Under.bind (under_seen I _) ?_
  intro gap hgap
  refine Under.bind (under_seen I _) ?_
  intro lastStats hlastStats
  exact ⟨rfl, rfl, ⟨trusted, htrusted, rfl, rfl, rfl, hinside⟩, ⟨hhour, hday, hweek, hmonth⟩,
    hhourly, ⟨⟨last, hlast, rfl⟩, rtt, hrtt, rfl, rfl, rfl, rfl, rfl, rfl⟩, hpoints, hstatus,
    hlastSeen, hfailures, hsuccesses, hsyncStatus, hlastSyncTs, hgap, hlastStats⟩

theorem under_countStatus (status : PeerStatus) (devices : List DeviceRef) :
    (countStatus status devices).Under I (CountSeen I devices status) := by
  refine Under.bind (under_forEach (fun ref _ => under_seen I (statusOf ref))) ?_
  exact fun statuses hstatuses => ⟨statuses, hstatuses, rfl⟩

theorem under_build : buildDashboardSnapshotUncached.Under I
    (fun snap => exists devices, DashboardSeen I devices snap) := by
  refine Under.bind (under_seen I _) ?_
  intro devices hdevices
  refine Under.bind (under_seen I _) ?_
  intro now hnow
  refine Under.bind (under_forEach (fun ref _ => under_peerView I now ref)) ?_
  intro peers hpeers
  refine Under.bind (under_seen I _) ?_
  intro all hall
  refine Under.bind (under_seen I _) ?_
  intro recent hrecent
  refine Under.bind (under_ofOption (fun _ h => h)) ?_
  intro events hevents
  refine Under.bind (under_seen I _) ?_
  intro probes hprobes
  refine Under.bind (under_seen I _) ?_
  intro ownStats hownStats
  refine Under.bind (under_seen I _) ?_
  intro ownStatsHistory hownStatsHistory
  refine Under.bind (under_seen I _) ?_
  intro source hsource
  refine Under.bind (under_countStatus I PeerStatus.alive devices) ?_
  intro alive halive
  refine Under.bind (under_countStatus I PeerStatus.dead devices) ?_
  intro dead hdead
  refine Under.bind (under_countStatus I PeerStatus.unknown devices) ?_
  intro unknown hunknown
  refine Under.bind (under_ofOption (fun _ h => h)) ?_
  intro within hwithin
  exact ⟨devices, hsource, hdevices, hnow, rfl, hpeers, halive, hdead, hunknown, rfl,
    ⟨all, hall, rfl, rfl, recent, hrecent, hevents⟩, hprobes, rfl, ⟨within, hwithin, rfl⟩,
    hownStats, hownStatsHistory⟩

end Figures

/-!
## Its shape

This holds whatever the engine does in the meantime.
-/

structure PeerView.Shape (view : PeerView) : Prop where
  hours : view.hourly24h.length = 24
  hourly : forall figure, some figure ∈ view.hourly24h -> 0 <= figure ∧ figure <= 100
  probes : view.rtt.alive24h + view.rtt.dead24h = view.rtt.probes24h
  sparkline : view.sparkline.length <= SPARKLINE_POINTS
  uptime : forall figure, some figure ∈ [view.uptime.oneHour, view.uptime.day, view.uptime.week,
    view.uptime.month] -> 0 <= figure ∧ figure <= 100

structure DashboardSnapshot.Shape (snap : DashboardSnapshot) : Prop where
  peers : forall view, view ∈ snap.peers -> view.Shape
  targets : snap.counts.monitorTargets = snap.peers.length
  maintenance : snap.counts.maintenance <= snap.peers.length
  alive : snap.counts.alive <= snap.peers.length
  dead : snap.counts.dead <= snap.peers.length
  unknown : snap.counts.unknown <= snap.peers.length
  events : snap.events.length <= EVENTS_FEED_LIMIT
  lastDay : snap.totals.eventsLast24h <= snap.events.length
  average : forall figure, snap.totals.avgUptime24h = some figure -> 0 <= figure ∧ figure <= 100

section Shape

variable {I : View -> Prop} {now : Instant} {ref : DeviceRef} {view : PeerView}
variable {devices : List DeviceRef} {snap : DashboardSnapshot}

theorem exists_of_forall₂ {item value : Type} {R : item -> value -> Prop} {items : List item}
    {values : List value} (h : List.Forall₂ R items values) {b : value} (hb : b ∈ values) :
    exists a, a ∈ items ∧ R a b := by
  induction h with
  | nil => cases hb
  | @cons a b' items values hab _ ih =>
      rcases List.mem_cons.mp hb with rfl | hrest
      · exact ⟨a, List.mem_cons_self .., hab⟩
      · rcases ih hrest with ⟨a', ha', hR⟩
        exact ⟨a', List.mem_cons_of_mem a ha', hR⟩

theorem uptimeOf_range {found : List ProbeRow} {figure : Rat}
    (h : uptimeOf found = some figure) : 0 <= figure ∧ figure <= 100 := by
  unfold uptimeOf at h
  split at h
  · cases h
  · cases h
    exact percent_range List.countP_le_length

theorem hourlyUptimeBuckets_range {rows : List ProbeRow} {nodeId : String} {hours : Nat}
    {now : Instant} {figure : Rat}
    (h : some figure ∈ hourlyUptimeBuckets rows nodeId hours now) :
    0 <= figure ∧ figure <= 100 := by
  revert h
  apply hourlyUptimeBuckets_of_set
    (P := fun buckets => some figure ∈ buckets -> 0 <= figure ∧ figure <= 100)
  · intro hnone
    cases List.eq_of_mem_replicate hnone
  · intro buckets i group hbuckets hset
    rcases List.mem_or_eq_of_mem_set hset with hold | hnew
    · exact hbuckets hold
    · cases hnew
      exact percent_range List.countP_le_length

theorem UptimeSeen.range {nodeId : String} {uptime : UptimeView} (h : UptimeSeen I nodeId uptime)
    {figure : Rat}
    (hfigure : some figure ∈ [uptime.oneHour, uptime.day, uptime.week, uptime.month]) :
    0 <= figure ∧ figure <= 100 := by
  simp only [List.mem_cons, List.not_mem_nil, or_false] at hfigure
  rcases hfigure with hhour | hday | hweek | hmonth
  · rcases h.oneHour with ⟨_, _, heq⟩
    exact uptimeOf_range (heq.symm.trans hhour.symm)
  · rcases h.day with ⟨_, _, heq⟩
    exact uptimeOf_range (heq.symm.trans hday.symm)
  · rcases h.week with ⟨_, _, heq⟩
    exact uptimeOf_range (heq.symm.trans hweek.symm)
  · rcases h.month with ⟨_, _, heq⟩
    exact uptimeOf_range (heq.symm.trans hmonth.symm)

theorem length_rtake_le {item : Type} (items : List item) (n : Nat) :
    (items.rtake n).length <= n := by
  unfold List.rtake
  rw [List.length_drop]
  exact Nat.sub_le_iff_le_add.mpr (by omega)

theorem SparklineSeen.length {points : List LatencyRecord} (h : SparklineSeen I ref points) :
    points.length <= SPARKLINE_POINTS := by
  rcases h with ⟨history, _, ⟨_, rfl⟩ | ⟨_, rows, _, rfl⟩⟩
  · exact length_rtake_le history _
  · rw [List.length_map]
    exact length_rtake_le rows _

theorem PeerSeen.shape (h : PeerSeen I now ref view) : view.Shape := by
  constructor
  · rcases h.hourly with ⟨v, _, heq⟩
    rw [heq]
    exact length_hourlyUptimeBuckets _ _ _ _
  · rcases h.hourly with ⟨v, _, heq⟩
    rw [heq]
    exact fun figure hfigure => hourlyUptimeBuckets_range hfigure
  · rcases h.rtt.stats with ⟨rtt, ⟨v, _, rfl⟩, _, _, _, hprobes, halive, hdead⟩
    rw [hprobes, halive, hdead]
    exact Nat.add_sub_cancel' List.countP_le_length
  · exact h.sparkline.length
  · exact fun figure hfigure => h.uptime.range hfigure

theorem CountSeen.le {status : PeerStatus} {n : Nat} (h : CountSeen I devices status n) :
    n <= devices.length := by
  rcases h with ⟨statuses, hstatuses, rfl⟩
  rw [hstatuses.length_eq]
  exact List.countP_le_length

theorem length_of_mapM {item value : Type} {f : item -> Option value} {items : List item}
    {values : List value} (h : items.mapM f = some values) : values.length = items.length := by
  induction items generalizing values with
  | nil =>
      cases h
      rfl
  | cons item items ih =>
      simp only [List.mapM_cons, Option.bind_eq_bind, Option.bind_eq_some_iff, Option.pure_def,
        Option.some.injEq] at h
      rcases h with ⟨value, _, rest, hrest, rfl⟩
      rw [List.length_cons, ih hrest, List.length_cons]

theorem mean_range {figures : List Rat} (hne : figures ≠ [])
    (hall : forall x, x ∈ figures -> 0 <= x ∧ x <= 100) :
    0 <= figures.sum / figures.length ∧ figures.sum / figures.length <= 100 := by
  have hpositive : (0 : Rat) < figures.length := by
    exact_mod_cast List.length_pos_of_ne_nil hne
  have hlow : 0 <= figures.sum := List.sum_nonneg (fun x hx => (hall x hx).left)
  have hhigh : figures.sum <= figures.length * 100 := by
    have hcard := List.sum_le_card_nsmul figures 100 (fun x hx => (hall x hx).right)
    rwa [nsmul_eq_mul] at hcard
  constructor
  · exact div_nonneg hlow hpositive.le
  · rw [div_le_iff₀ hpositive]
    linarith

theorem DashboardSeen.shape (h : DashboardSeen I devices snap) : snap.Shape := by
  have hlength : devices.length = snap.peers.length := h.peers.length_eq
  have hpeers : forall view, view ∈ snap.peers -> view.Shape := by
    intro view hview
    rcases exists_of_forall₂ h.peers hview with ⟨ref, _, hseen⟩
    exact hseen.shape
  constructor
  · exact hpeers
  · exact h.targets.trans hlength
  · rw [h.maintenance]
    exact List.countP_le_length
  · exact hlength ▸ h.alive.le
  · exact hlength ▸ h.dead.le
  · exact hlength ▸ h.unknown.le
  · rcases h.trust with ⟨_, _, _, _, recent, _, hevents⟩
    rw [length_of_mapM hevents, List.length_reverse]
    exact length_rtake_le recent _
  · rcases h.lastDay with ⟨within, hwithin, hcount⟩
    rw [hcount, ← length_of_mapM hwithin]
    exact List.countP_le_length
  · intro figure hfigure
    rw [h.average] at hfigure
    unfold avgUptime at hfigure
    simp only at hfigure
    split at hfigure
    · cases hfigure
    · rename_i hsome
      cases hfigure
      apply mean_range (fun hnil => hsome (List.isEmpty_iff.mpr hnil))
      intro x hx
      rcases List.mem_filterMap.mp hx with ⟨view, hview, hday⟩
      exact (hpeers view hview).uptime x (by rw [← hday]; simp)

end Shape

/-!
## What it agrees on

Facts that hold of every view that is looked at.
-/

section Agreement

variable {I : View -> Prop} {devices : List DeviceRef} {snap : DashboardSnapshot}

structure DashboardSnapshot.Agrees (snap : DashboardSnapshot) : Prop where
  alive : snap.counts.alive =
    snap.peers.countP (fun view => decide (view.status = PeerStatus.alive))
  dead : snap.counts.dead =
    snap.peers.countP (fun view => decide (view.status = PeerStatus.dead))
  unknown : snap.counts.unknown =
    snap.peers.countP (fun view => decide (view.status = PeerStatus.unknown))

theorem eq_map_of_forall₂ {item value : Type} {f : item -> value} {items : List item}
    {values : List value} (h : List.Forall₂ (fun a b => b = f a) items values) :
    values = items.map f := by
  induction h with
  | nil => rfl
  | cons hab _ ih => rw [List.map_cons, hab, ih]

theorem CountSeen.agrees {f : Nat -> PeerStatus}
    (hI : forall v, I v -> forall n, (v.object n).peer.currentStatus = f n)
    (hpeers : List.Forall₂ (PeerSeen I snap.now) devices snap.peers) {status : PeerStatus}
    {n : Nat} (h : CountSeen I devices status n) :
    n = snap.peers.countP (fun view => decide (view.status = status)) := by
  rcases h with ⟨statuses, hstatuses, rfl⟩
  have hseen : forall (ref : DeviceRef) (found : PeerStatus), Seen I (statusOf ref) found ->
      found = f ref.object := by
    rintro ref found ⟨v, hv, rfl⟩
    exact hI v hv ref.object
  have hcounted : statuses = devices.map (fun ref => f ref.object) :=
    eq_map_of_forall₂ (hstatuses.imp hseen)
  have hshown : snap.peers.map PeerView.status = devices.map (fun ref => f ref.object) := by
    apply eq_map_of_forall₂
    rw [List.forall₂_map_right_iff]
    exact hpeers.imp (fun ref view hview => hseen ref view.status hview.status)
  rw [hcounted, ← hshown, List.countP_map]
  rfl

/-- While no device changes its status, the counts agree with the entries. -/
theorem DashboardSeen.agrees (h : DashboardSeen I devices snap) {f : Nat -> PeerStatus}
    (hI : forall v, I v -> forall n, (v.object n).peer.currentStatus = f n) : snap.Agrees :=
  ⟨h.alive.agrees hI h.peers, h.dead.agrees hI h.peers, h.unknown.agrees hI h.peers⟩

/-- The node is none of the devices. -/
def Away (nodeId : String) (v : View) : Prop :=
  forall ref, ref ∈ v.devices -> ref.entry.nodeId ≠ nodeId

theorem DashboardSeen.away (h : DashboardSeen I devices snap) {nodeId : String}
    (hI : forall v, I v -> Away nodeId v) {view : PeerView} (hview : view ∈ snap.peers) :
    view.nodeId ≠ nodeId := by
  rcases exists_of_forall₂ h.peers hview with ⟨ref, href, hseen⟩
  rcases h.listed with ⟨v, hv, hdevices⟩
  rw [hseen.nodeId]
  exact hI v hv ref (hdevices ▸ href)

theorem DashboardSeen.trusted (h : DashboardSeen I devices snap) {nodeId : String}
    {trusted : Option TrustedPeer} (hI : forall v, I v -> v.store.getPeer nodeId = trusted)
    {view : PeerView} (hview : view ∈ snap.peers) (hnode : view.nodeId = nodeId) :
    TrustSeen snap.now trusted view := by
  rcases exists_of_forall₂ h.peers hview with ⟨ref, _, hseen⟩
  rcases hseen.trusted with ⟨found, ⟨v, hv, hfound⟩, hshown⟩
  have hsame : found = trusted := by
    rw [hfound, ← hseen.nodeId, hnode]
    exact hI v hv
  exact hsame ▸ hshown

end Agreement

/-!
## Main result
-/

/-- A fact about the engine that no change of the run undoes. -/
def Stays (guard : Shared View DashboardSnapshot -> SharedEvent View -> Prop)
    (P : View -> Prop) : Prop :=
  forall s v, guard s (SharedEvent.change v) -> P s.current -> P v

/-- The fact was so a second before the time. -/
def SecondAgo (past : List (Shared View DashboardSnapshot)) (t : Int) (P : View -> Prop) : Prop :=
  exists s, s ∈ past ∧ s.now <= t - SNAPSHOT_CACHE_TTL ∧ P s.current

/--
What a call that began at a time is handed, whoever computed it: every figure is the engine's
own at a moment less than a second before the call or later, and these moments follow one
another.  What was so for longer is what it says.
-/
structure SnapshotLaw (guard : Shared View DashboardSnapshot -> SharedEvent View -> Prop)
    (past : List (Shared View DashboardSnapshot)) (t : Int) (snap : DashboardSnapshot) :
    Prop where
  fresh : exists seen : List (Shared View DashboardSnapshot), seen.Sublist past.reverse ∧
    (forall s, s ∈ seen -> t - SNAPSHOT_CACHE_TTL < s.now) ∧
    Reading.Looks buildDashboardSnapshotUncached (seen.map Shared.current) (Reading.done snap)
  shape : snap.Shape
  lasting : forall P, Stays guard P -> SecondAgo past t P ->
    exists devices, DashboardSeen P devices snap
  agrees : forall f : Nat -> PeerStatus,
    Stays guard (fun v => forall n, (v.object n).peer.currentStatus = f n) ->
    SecondAgo past t (fun v => forall n, (v.object n).peer.currentStatus = f n) -> snap.Agrees
  away : forall nodeId, Stays guard (Away nodeId) -> SecondAgo past t (Away nodeId) ->
    forall view, view ∈ snap.peers -> view.nodeId ≠ nodeId
  trusted : forall nodeId trusted, Stays guard (fun v => v.store.getPeer nodeId = trusted) ->
    SecondAgo past t (fun v => v.store.getPeer nodeId = trusted) ->
    forall view, view ∈ snap.peers -> view.nodeId = nodeId -> TrustSeen snap.now trusted view

/-- In every state of every run of calls, of changes of the engine, and of the clock. -/
theorem snapshot_law {guard : Shared View DashboardSnapshot -> SharedEvent View -> Prop}
    {past : List (Shared View DashboardSnapshot)} {s : Shared View DashboardSnapshot}
    (hrun : snapshots.Run guard past s) {t : Int} {snap : DashboardSnapshot}
    (hcall : SharedCall.returned t snap ∈ s.calls) : SnapshotLaw guard past t snap := by
  have httl : 0 < SNAPSHOT_CACHE_TTL := by decide
  have hfresh := shared_fresh httl hrun hcall
  have hlasting : forall P, Stays guard P -> SecondAgo past t P ->
      exists devices, DashboardSeen P devices snap := by
    rintro P hstays ⟨d, hd, hold, hP⟩
    exact shared_sees httl hstays (under_build P) hrun hcall hd hold hP
  constructor
  · exact hfresh
  · rcases hfresh with ⟨seen, _, _, hlooks⟩
    rcases (under_build (fun _ => True)).returns hlooks (fun _ _ => trivial) with ⟨_, hseen⟩
    exact hseen.shape
  · exact hlasting
  · intro f hstays hago
    rcases hlasting _ hstays hago with ⟨_, hseen⟩
    exact hseen.agrees (fun v hv => hv)
  · intro nodeId hstays hago view hview
    rcases hlasting _ hstays hago with ⟨_, hseen⟩
    exact hseen.away (fun v hv => hv) hview
  · intro nodeId trusted hstays hago view hview hnode
    rcases hlasting _ hstays hago with ⟨_, hseen⟩
    exact hseen.trusted (fun v hv => hv) hview hnode

def sampleView : View where
  source := ⟨"node", 30, 3, 2, 0⟩
  devices := [⟨⟨"peer", some "home"⟩, 0⟩]
  object := fun _ => ⟨PeerState.init ⟨"peer", some "home"⟩, SyncStatus.live, none, false, none⟩
  store := PeerTrustStore.empty
  rows := []
  log := TrustLog.new
  ownStats := none
  ownStatsHistory := []
  now := 0

def answeredView : View :=
  { sampleView with
    object := fun _ =>
      ⟨{ PeerState.init ⟨"peer", some "home"⟩ with currentStatus := PeerStatus.alive },
        SyncStatus.live, none, false, none⟩ }

/-- No change of the engine lists one device. -/
def NeverListed (_ : Shared View DashboardSnapshot) : SharedEvent View -> Prop
  | SharedEvent.change v => Away "gone" v
  | _ => True

instance (s : Shared View DashboardSnapshot) (e : SharedEvent View) :
    Decidable (NeverListed s e) :=
  match e with
  | SharedEvent.change v =>
      inferInstanceAs (Decidable (forall ref, ref ∈ v.devices -> ref.entry.nodeId ≠ "gone"))
  | SharedEvent.tick _ => isTrue trivial
  | SharedEvent.ask => isTrue trivial
  | SharedEvent.go _ => isTrue trivial

/--
One call computes, and the device answers between two of its looks; a second call is handed
what the first one kept.
-/
def twoCalls : List (SharedEvent View) :=
  SharedEvent.ask :: List.replicate 20 (SharedEvent.go 0) ++
    SharedEvent.change answeredView :: List.replicate 11 (SharedEvent.go 0) ++
      [SharedEvent.tick 400000, SharedEvent.ask, SharedEvent.go 1]

/-- What a call returned: when it began, and the statuses in the snapshot. -/
def statusesOf : SharedCall View DashboardSnapshot -> Option (Int × Nat × List PeerStatus)
  | SharedCall.returned t snap => some (t, snap.counts.alive, snap.peers.map PeerView.status)
  | _ => none

/-- The entry was read before the device answered, the count beside it after that. -/
theorem snapshot_law_kept :
    exists past s snap, snapshots.Run NeverListed past s ∧
      SharedCall.returned 1400000 snap ∈ s.calls ∧
      SnapshotLaw NeverListed past 1400000 snap ∧
      snap.counts.alive = 1 ∧ snap.peers.map PeerView.status = [PeerStatus.unknown] ∧
      forall view, view ∈ snap.peers -> view.nodeId ≠ "gone" := by
  have haway : Away "gone" sampleView := by
    intro ref href
    rw [List.mem_singleton.mp href]
    decide
  have hstart : snapshots.Run NeverListed [⟨0, sampleView, none, []⟩]
      ⟨1000000, sampleView, none, []⟩ :=
    Machine.Run.step (SharedEvent.tick 1000000) (Machine.Run.start ⟨rfl, rfl⟩) trivial
  have hguard : snapshots.Guarded NeverListed ⟨1000000, sampleView, none, []⟩ twoCalls := by
    decide +kernel
  have hrun := hstart.exec twoCalls hguard
  have hshown : ((snapshots.exec ⟨1000000, sampleView, none, []⟩ twoCalls).calls[1]?).bind
      statusesOf = some (1400000, 1, [PeerStatus.unknown]) := by decide +kernel
  rcases Option.bind_eq_some_iff.mp hshown with ⟨call, hcall, hstatuses⟩
  have hmem := List.mem_of_getElem? hcall
  cases call with
  | returned t snap =>
      simp only [statusesOf, Option.some.injEq, Prod.mk.injEq] at hstatuses
      rcases hstatuses with ⟨rfl, halive, hstatus⟩
      have hlaw := snapshot_law hrun hmem
      exact ⟨_, _, snap, hrun, hmem, hlaw, halive, hstatus,
        hlaw.away "gone" (fun _ _ hchange _ => hchange)
          ⟨_, Machine.mem_trail (List.mem_singleton_self _), by decide, haway⟩⟩
  | _ => cases hstatuses

end Web
end PanicMonitr
