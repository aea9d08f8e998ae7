import PanicMonitr.Store.TwoNodes

/-!
# The cursor as a watermark

Everything the peer holds that is older than the cursor, or than the cursor of a sync in
flight, is represented: what each step has to do with that.
-/

namespace PanicMonitr
namespace Store

open Foundation
open Trust
open Wire

variable {V : Type}

/-!
## Snapshots that stay represented
-/

theorem Represented.mono {peerNodeId : String} {s s' : PeerStore}
    (hsnapshots : forall r, r ∈ s.snapshots -> r ∈ s'.snapshots)
    (hbuckets : forall b, b ∈ s.buckets -> b ∈ s'.buckets)
    {x : RawRow V × List (String × Json)} (h : Represented peerNodeId s x) :
    Represented peerNodeId s' x := by
  rcases h with ⟨r, hr, hrow⟩ | ⟨b, hb, hwindow⟩
  · exact Or.inl ⟨r, hsnapshots r hr, hrow⟩
  · exact Or.inr ⟨b, hbuckets b hb, hwindow⟩

theorem represented_merge (c : Setting V) (payload : List (String × Json)) {s : PeerStore}
    {x : RawRow V × List (String × Json)} (h : Represented c.peerNodeId s x) :
    Represented c.peerNodeId (c.merge payload s).1 x := by
  rcases mergeSyncPayload_inserts c.rt c.peerNodeId payload with ⟨i, _, hmerge⟩
  have hinsert : (c.merge payload s).1 = s.insert i := by
    unfold Setting.merge
    rcases hmerge with ⟨e, herror⟩ | hok
    · rw [herror]
    · rcases hok s with ⟨result, hs⟩
      rw [hs]
  rw [hinsert]
  apply h.mono
  · intro r hr
    rcases insertMany_append snapshotKey s.snapshots i.snapshots with ⟨added, hadded, _⟩
    show r ∈ insertMany snapshotKey s.snapshots i.snapshots
    rw [hadded]
    exact List.mem_append_left added hr
  · intro b hb
    rcases insertMany_append peerBucketKey s.buckets i.buckets with ⟨added, hadded, _⟩
    show b ∈ insertMany peerBucketKey s.buckets i.buckets
    rw [hadded]
    exact List.mem_append_left added hb

/-!
## The invariant
-/

/-- The windows stored about the peer are as long as their size says. -/
def Sized (peerNodeId : String) (s : PeerStore) : Prop :=
  forall b, b ∈ s.buckets -> b.peerNodeId = peerNodeId ->
    exists n, b.bucketSize = Json.int n ∧ b.windowEnd = b.windowStart + n

/-- The windows of a node are as long as their size says. -/
def Spanned (n : Node V) : Prop :=
  forall b, b ∈ n.store.buckets -> b.windowEnd = b.windowStart + b.bucketSize

/-- What the peer holds that is older than a bound is represented. -/
def Below (peerNodeId : String) (s : TwoNodes V) (bound : Int) : Prop :=
  forall x, x ∈ s.remote.held -> x.1.ts < bound -> Represented peerNodeId s.peers x

/-- An answer, and what the peer has recorded since. -/
structure AnswerSound (c : Setting V) (s : TwoNodes V) (cursor : Datetime) (now : Instant)
    (node : Node V) (payload : List (String × Json)) : Prop where
  response : syncResponse (node.syncHost c.printer now) (syncRequest cursor) =
    some (Json.obj payload)
  spanned : Spanned node
  later : forall x, x ∈ s.remote.held -> x ∉ node.held ->
    forall t, t ∈ c.payloadTimes payload -> t <= x.1.ts

def FlightSound (c : Setting V) (s : TwoNodes V) : Flight V -> Prop
  | Flight.asked cursor => Below c.peerNodeId s (cursorEpoch cursor)
  | Flight.answered cursor now node payload =>
      Below c.peerNodeId s (cursorEpoch cursor) ∧ AnswerSound c s cursor now node payload
  | Flight.stats _ => True

structure Watermark (c : Setting V) (s : TwoNodes V) : Prop where
  times : forall x, x ∈ s.remote.held -> 0 <= x.1.ts
  spanned : Spanned s.remote
  sized : Sized c.peerNodeId s.peers
  below : forall t, t ∈ compared c.rt c.peerNodeId s.peers -> Below c.peerNodeId s t
  flights : forall f, f ∈ s.flights -> FlightSound c s f
  noHole : NoHole c.peerNodeId s

section Watermark

variable {c : Setting V} {s s' : TwoNodes V}

theorem Below.mono (hheld : forall x, x ∈ s'.remote.held -> x ∈ s.remote.held)
    (hkept : forall x, x ∈ s'.remote.held -> Represented c.peerNodeId s.peers x ->
      Represented c.peerNodeId s'.peers x)
    {bound : Int} (h : Below c.peerNodeId s bound) : Below c.peerNodeId s' bound := by
  intro x hx hbound
  exact hkept x hx (h x (hheld x hx) hbound)

theorem FlightSound.mono (hheld : forall x, x ∈ s'.remote.held -> x ∈ s.remote.held)
    (hkept : forall x, x ∈ s'.remote.held -> Represented c.peerNodeId s.peers x ->
      Represented c.peerNodeId s'.peers x)
    {f : Flight V} (h : FlightSound c s f) : FlightSound c s' f := by
  cases f with
  | asked cursor => exact Below.mono hheld hkept h
  | answered cursor now node payload =>
      rcases h with ⟨hbelow, hanswer⟩
      refine ⟨Below.mono hheld hkept hbelow, hanswer.response, hanswer.spanned, ?_⟩
      intro x hx
      exact hanswer.later x (hheld x hx)
  | stats ownStats => trivial

theorem noHole_of_none (h : s.finished = none) : NoHole c.peerNodeId s := by
  intro held hheld
  rw [h] at hheld
  cases hheld

/-!
## The peer
-/

theorem Watermark.work (h : Watermark c s) {store : LogStore V}
    (hown : store.own = s.remote.store.own)
    (hraw : forall r, r ∈ store.raw -> r ∈ s.remote.store.raw)
    (hbuckets : forall b, b ∈ store.buckets -> b ∈ s.remote.store.buckets ∨
      b.windowEnd = b.windowStart + b.bucketSize) : Watermark c (s.work store) := by
  have hheld : forall x, x ∈ (s.work store).remote.held -> x ∈ s.remote.held := by
    intro x hx
    rcases mem_held.mp hx with ⟨hr, hpeer, hpayload⟩
    exact mem_held.mpr ⟨hraw x.1 hr, hpeer.trans hown, hpayload⟩
  have hkept : forall x, x ∈ (s.work store).remote.held -> Represented c.peerNodeId s.peers x ->
      Represented c.peerNodeId (s.work store).peers x := fun x _ hx => hx
  constructor
  · exact fun x hx => h.times x (hheld x hx)
  · intro b hb
    exact (hbuckets b hb).elim (h.spanned b) id
  · exact h.sized
  · exact fun t ht => Below.mono hheld hkept (h.below t ht)
  · exact fun f hf => FlightSound.mono hheld hkept (h.flights f hf)
  · exact noHole_of_none rfl

/-- A snapshot recorded at or after all that is known is not below any mark. -/
theorem Watermark.record (h : Watermark c s) (snap : List (String × Json)) {now : Instant}
    (hknown : forall t, t ∈ c.knownTimes s -> t <= epochOf now) :
    Watermark c { s with remote := s.remote.record c.read snap now, finished := none } := by
  have hbelow : forall bound, bound ∈ c.knownTimes s -> Below c.peerNodeId s bound ->
      Below c.peerNodeId
        { s with remote := s.remote.record c.read snap now, finished := none } bound := by
    intro bound hin hold x hx hlt
    rcases mem_held_record hx with hx | hts
    · exact hold x hx hlt
    · have hle := hknown bound hin
      omega
  constructor
  · intro x hx
    rcases mem_held_record hx with hx | hts
    · exact h.times x hx
    · rw [hts]
      exact hknown 0 List.mem_cons_self
  · exact h.spanned
  · exact h.sized
  · intro t ht
    exact hbelow t (List.mem_cons_of_mem 0 (List.mem_append_left _ ht)) (h.below t ht)
  · intro f hf
    have hflight := h.flights f hf
    have htimes : forall t, t ∈ c.flightTimes f -> t ∈ c.knownTimes s := fun t ht =>
      List.mem_cons_of_mem 0 (List.mem_append_right _ (List.mem_flatMap.mpr ⟨f, hf, ht⟩))
    cases f with
    | asked cursor => exact hbelow _ (htimes _ List.mem_cons_self) hflight
    | answered cursor now' node payload =>
        rcases hflight with ⟨hold, hanswer⟩
        refine ⟨hbelow _ (htimes _ List.mem_cons_self) hold, hanswer.response, hanswer.spanned, ?_⟩
        intro x hx hnot t ht
        rcases mem_held_record hx with hx | hts
        · exact hanswer.later x hx hnot t ht
        · rw [hts]
          exact hknown t (htimes t (List.mem_cons_of_mem _ ht))
    | stats ownStats => trivial
  · exact noHole_of_none rfl

/-!
## Calls
-/

theorem Watermark.fly (h : Watermark c s) {flights : List (Flight V)}
    (hflights : forall f, f ∈ flights -> FlightSound c s f) : Watermark c (s.fly flights) := by
  constructor
  · exact h.times
  · exact h.spanned
  · exact h.sized
  · exact h.below
  · intro f hf
    apply FlightSound.mono (s := s) _ _ (hflights f hf)
    · exact fun _ hx => hx
    · exact fun _ _ hx => hx
  · exact noHole_of_none rfl

theorem Watermark.below_cursor (h : Watermark c s) {cursor : Datetime}
    (hcursor : c.cursor s.peers = some cursor) : Below c.peerNodeId s (cursorEpoch cursor) := by
  unfold Setting.cursor lastSeenForPeer at hcursor
  unfold cursorEpoch
  cases hmax : maxEpoch c.rt c.peerNodeId s.peers with
  | none =>
      rw [hmax] at hcursor
      rw [fromtimestamp_instant hcursor]
      intro x hx hlt
      have hpos := h.times x hx
      have hzero : epochOf 0 = 0 := rfl
      simp only [Option.getD_none, Option.getD_some, hzero] at hlt
      omega
  | some ts =>
      rw [hmax] at hcursor
      simp only at hcursor
      cases hfrom : fromEpoch ts with
      | error e =>
          rw [hfrom] at hcursor
          cases hcursor
      | ok t =>
          rw [hfrom] at hcursor
          rw [fromtimestamp_instant hcursor]
          rcases fromEpoch_ok.mp hfrom with ⟨_, rfl⟩
          have hts : epochOf (ts * microsPerSecond) = ts := Int.mul_tdiv_cancel ts (by decide)
          simp only [Option.getD_some, hts]
          rw [maxEpoch_eq, List.max?_eq_some_iff] at hmax
          exact h.below ts hmax.left

theorem Watermark.askSync (h : Watermark c s) : Watermark c (c.askSync s) := by
  unfold Setting.askSync
  split
  · exact h.fly h.flights
  · rename_i cursor hcursor
    apply h.fly
    intro f hf
    rcases List.mem_append.mp hf with hold | hnew
    · exact h.flights f hold
    · rw [List.mem_singleton.mp hnew]
      exact h.below_cursor hcursor

theorem Watermark.answerSync (h : Watermark c s) (i : Nat) (now : Instant) :
    Watermark c (c.answerSync i now s) := by
  unfold Setting.answerSync
  split
  · rename_i cursor hflight
    split
    · rename_i payload hresponse
      apply h.fly
      intro f hf
      rcases List.mem_or_eq_of_mem_set hf with hold | rfl
      · exact h.flights f hold
      · have hasked := h.flights _ (List.mem_of_getElem? hflight)
        refine ⟨hasked, hresponse, h.spanned, ?_⟩
        intro x hx hnot
        exact absurd hx hnot
    · exact h.fly (fun f hf => h.flights f (List.mem_of_mem_eraseIdx hf))
  · exact h.fly h.flights

theorem Watermark.answerStats (h : Watermark c s) : Watermark c s.answerStats := by
  unfold TwoNodes.answerStats
  split
  · exact h.fly h.flights
  · apply h.fly
    intro f hf
    rcases List.mem_append.mp hf with hold | hnew
    · exact h.flights f hold
    · rw [List.mem_singleton.mp hnew]
      trivial

/-!
## Merges
-/

/-- What is stored about the peer changes, and nothing it holds is forgotten. -/
theorem Watermark.change (h : Watermark c s) {peers : PeerStore} {flights : List (Flight V)}
    {finished : Option (List (RawRow V × List (String × Json)))}
    (hkept : forall x, x ∈ s.remote.held -> Represented c.peerNodeId s.peers x ->
      Represented c.peerNodeId peers x)
    (hsized : Sized c.peerNodeId peers)
    (hbelow : forall t, t ∈ compared c.rt c.peerNodeId peers -> forall x, x ∈ s.remote.held ->
      x.1.ts < t -> Represented c.peerNodeId peers x)
    (hflights : forall f, f ∈ flights -> f ∈ s.flights)
    (hfinished : forall held, finished = some held -> forall x, x ∈ held ->
      x ∈ s.remote.held -> Represented c.peerNodeId peers x) :
    Watermark c { s with peers := peers, flights := flights, finished := finished } := by
  constructor
  · exact h.times
  · exact h.spanned
  · exact hsized
  · exact hbelow
  · intro f hf
    apply FlightSound.mono (s := s) _ _ (h.flights f (hflights f hf))
    · exact fun _ hx => hx
    · exact hkept
  · exact hfinished

theorem Watermark.passed (h : Watermark c s) {payload : List (String × Json)} {t : Int}
    (ht : t ∈ compared c.rt c.peerNodeId (c.merge payload s.peers).1)
    {x : RawRow V × List (String × Json)} (hx : x ∈ s.remote.held) (hlt : x.1.ts < t) :
    Represented c.peerNodeId s.peers x ∨ c.Passes s.peers (c.payloadTimes payload) x := by
  by_cases hold : forall u, u ∈ compared c.rt c.peerNodeId s.peers -> u <= x.1.ts
  · rcases (within_merge c.rt c.peerNodeId payload s.peers).compared_le ht with
      hzero | ⟨m, hm, hle⟩ | ⟨m, hm, hle⟩
    · have hpos := h.times x hx
      omega
    · have hmost := hold m hm
      omega
    · exact Or.inr ⟨hold, m, hm, by omega⟩
  · simp only [not_forall, not_le] at hold
    rcases hold with ⟨u, hu, hxu⟩
    exact Or.inl (h.below u hu x hx hxu)

/-!
## Live pulls
-/

theorem not_mem_compared_empty (rt : Runtime) (peerNodeId : String) (t : Int) :
    t ∉ compared rt peerNodeId PeerStore.empty := by
  intro ht
  cases ht

theorem payloadTimes_live {ownStats : List (String × Json)} {now : Datetime} {t : Int}
    (ht : t ∈ c.payloadTimes (livePayload ownStats now)) :
    stampOf c.rt (stampedStats ownStats now) = some t := by
  unfold Setting.payloadTimes Setting.merge at ht
  cases hts : stampOf c.rt (stampedStats ownStats now) with
  | none =>
      rw [merge_live_unstamped c.rt c.peerNodeId hts] at ht
      exact absurd ht (not_mem_compared_empty c.rt c.peerNodeId t)
  | some ts =>
      rw [merge_live c.rt c.peerNodeId hts] at ht
      rcases of_mem_compared ht with (hsnapshot | hevent | hbucket) | ⟨day, hday, _⟩
      · rcases mem_snapshotTimes.mp hsnapshot with ⟨r, hr, _, rfl⟩
        have hrow : r ∈ insertOrIgnore snapshotKey [] _ := hr
        rcases of_mem_insertOrIgnore hrow with hold | rfl
        · cases hold
        · rfl
      · cases hevent
      · cases hbucket
      · cases hday

theorem sized_live (ownStats : List (String × Json)) (now : Datetime) {peers : PeerStore}
    (h : Sized c.peerNodeId peers) :
    Sized c.peerNodeId (c.merge (livePayload ownStats now) peers).1 := by
  unfold Setting.merge
  cases hts : stampOf c.rt (stampedStats ownStats now) with
  | none =>
      rw [merge_live_unstamped c.rt c.peerNodeId hts]
      exact h
  | some ts =>
      rw [merge_live c.rt c.peerNodeId hts]
      exact h

theorem pulled_represented {ownStats : List (String × Json)} {now : Datetime}
    {peers : PeerStore} {x : RawRow V × List (String × Json)}
    (hpasses : c.Passes peers (stampOf c.rt (stampedStats ownStats now)).toList x)
    (hpulled : x.2 = ownStats) :
    Represented c.peerNodeId (c.merge (livePayload ownStats now) peers).1 x := by
  rcases hpasses with ⟨hmost, t, ht, hlt⟩
  have hts := Option.mem_toList.mp ht
  have hfree : snapshotKey (snapshotRow c.peerNodeId (stampedStats ownStats now) t) ∉
      peers.snapshots.map snapshotKey := by
    intro hin
    rcases List.mem_map.mp hin with ⟨r, hr, hkey⟩
    rcases Prod.mk.inj hkey with ⟨hpeer, hsecond⟩
    have hin' := mem_snapshotTimes.mpr ⟨r, hr, hpeer, hsecond⟩
    have hle := hmost t (mem_compared_of_timed c.rt (Or.inl hin'))
    omega
  unfold Setting.merge
  rw [merge_live c.rt c.peerNodeId hts]
  refine Or.inl ⟨snapshotRow c.peerNodeId (stampedStats ownStats now) t, ?_, rfl, ?_⟩
  · show _ ∈ insertOrIgnore snapshotKey peers.snapshots _
    rw [insertOrIgnore, if_neg hfree]
    exact List.mem_append_right _ (List.mem_singleton_self _)
  · rw [hpulled]
    exact Or.inr ⟨now, rfl⟩

theorem Watermark.finishStats (h : Watermark c s) {i : Nat} {now : Datetime}
    (hstep : c.InStep s (NodeEvent.finishStats i now)) : Watermark c (c.finishStats i now s) := by
  unfold Setting.finishStats
  split
  · rename_i ownStats hflight
    apply h.change
    · exact fun x _ hx => represented_merge c _ hx
    · exact sized_live ownStats now h.sized
    · intro t ht x hx hlt
      rcases h.passed ht hx hlt with hstored | hpasses
      · exact represented_merge c _ hstored
      · rcases hpasses with ⟨hmost, u, hu, hxu⟩
        have hstamped : c.Passes s.peers (stampOf c.rt (stampedStats ownStats now)).toList x :=
          ⟨hmost, u, Option.mem_toList.mpr (payloadTimes_live hu), hxu⟩
        rcases hstep ownStats hflight x hx hstamped with hpulled | hstored
        · exact pulled_represented hstamped hpulled
        · exact represented_merge c _ hstored
    · exact fun f hf => List.mem_of_mem_eraseIdx hf
    · exact fun held hheld => by cases hheld
  · exact h.fly h.flights

/-!
## Answers
-/

section Tiers

variable {now : Instant} {cursor : Datetime} {node : Node V} {p : SyncPayload V}

theorem mem_payload_windows {since : Instant} {store : LogStore V} {b : StatBucket V} :
    SyncBucket.window b ∈ (syncPayload now cursor since store).buckets <->
      b ∈ store.buckets ∧ b.peerNodeId = store.own ∧
        AsksWindow now since b.bucketSize b.windowStart := by
  have hwindow : forall rows : List (StatBucket V),
      SyncBucket.window b ∈ rows.map SyncBucket.window <-> b ∈ rows := by
    intro rows
    constructor
    · intro h
      rcases List.mem_map.mp h with ⟨b', hb', heq⟩
      cases heq
      exact hb'
    · exact List.mem_map_of_mem
  unfold syncPayload AsksWindow
  simp only
  cases strategyFor (now - since) with
  | raw => simp only [List.not_mem_nil, and_false]
  | fiveMinutes => simp only [hwindow, mem_getBuckets, mem_sized, and_assoc]
  | oneHour => simp only [hwindow, mem_getBuckets, mem_sized, and_assoc]
  | daily =>
      simp only [and_false, iff_false]
      intro h
      rcases List.mem_map.mp h with ⟨d, _, heq⟩
      cases heq

theorem window_of_payload {store : LogStore V} {b : StatBucket V}
    (hp : getSyncPayload now cursor store = some p) (hb : SyncBucket.window b ∈ p.buckets) :
    b ∈ store.buckets := by
  rcases Option.map_eq_some_iff.mp hp with ⟨since, _, rfl⟩
  exact (mem_payload_windows.mp hb).left

theorem payload_raw (now : Instant) (cursor : Datetime) (since : Instant) (store : LogStore V) :
    (syncPayload now cursor since store).rawSnapshots.Pairwise (fun r r' => r.ts <= r'.ts) ∧
      forall r, r ∈ (syncPayload now cursor since store).rawSnapshots <->
        r ∈ store.raw ∧ r.peerNodeId = store.own ∧ AsksRaw now since r.ts := by
  unfold syncPayload AsksRaw
  simp only
  cases strategyFor (now - since) with
  | raw => exact ⟨orderBy_sorted RawRow.ts _, fun r => mem_getRawSnapshots⟩
  | fiveMinutes => exact ⟨orderBy_sorted RawRow.ts _, fun r => mem_getRawSnapshots⟩
  | oneHour =>
      refine ⟨List.Pairwise.nil, fun r => ?_⟩
      simp only [List.not_mem_nil, and_false]
  | daily =>
      refine ⟨List.Pairwise.nil, fun r => ?_⟩
      simp only [List.not_mem_nil, and_false]

/--
An answer brings a snapshot: as the first of its second among the raw rows it sends, when
nothing is stored at that second, or in a window it sends.
-/
def Brings (c : Setting V) (s : PeerStore) (cursor : Datetime) (now : Instant) (node : Node V)
    (x : RawRow V × List (String × Json)) : Prop :=
  exists p, node.sent c.printer now cursor = some p ∧
    ((exists ts, (p.rawSnapshots.map node.withPayload).find?
        (fun y => decide (stampOf c.rt y.2 = some ts)) = some x ∧
          (c.peerNodeId, ts) ∉ s.snapshots.map snapshotKey) ∨
      exists b, SyncBucket.window b ∈ p.buckets ∧
        b.windowStart <= x.1.ts ∧ x.1.ts < b.windowEnd)

theorem payload_of_sent (h : node.sent c.printer now cursor = some p) :
    getSyncPayload now cursor node.store = some p := by
  rcases Option.bind_eq_some_iff.mp h with ⟨p', hp, hrest⟩
  rcases Option.bind_eq_some_iff.mp hrest with ⟨content, _, hsame⟩
  split at hsame
  · cases hsame
  · cases hsame
    exact hp

theorem brings_of_reached {peers : PeerStore} {x : RawRow V × List (String × Json)}
    (hx : x ∈ node.held) (h : c.Reached peers cursor now node x) :
    Brings c peers cursor now node x := by
  rcases h with ⟨hsome, since, hsince, hreached⟩
  rcases Option.isSome_iff_exists.mp hsome with ⟨p, hsent⟩
  have hp := payload_of_sent hsent
  unfold getSyncPayload at hp
  rw [hsince] at hp
  cases hp
  refine ⟨_, hsent, ?_⟩
  rcases hreached with ⟨hasks, ts, hts, hfree, hfirst⟩ | ⟨b, hb, hown, hasks, hwindow⟩
  · refine Or.inl ⟨ts, ?_, hfree⟩
    rcases payload_raw now cursor since node.store with ⟨hsorted, hraw⟩
    rcases mem_held.mp hx with ⟨hrow, hpeer, hpayload⟩
    have hin : x ∈ (syncPayload now cursor since node.store).rawSnapshots.map node.withPayload := by
      refine List.mem_map.mpr ⟨x.1, (hraw x.1).mpr ⟨hrow, hpeer, hasks⟩, ?_⟩
      rw [Node.withPayload, ← hpayload]
    have hordered : ((syncPayload now cursor since node.store).rawSnapshots.map
        node.withPayload).Pairwise (fun y z => y.1.ts <= z.1.ts) := List.pairwise_map.mpr hsorted
    apply find?_first hordered hin (decide_eq_true hts)
    intro y hy hsame hle
    rcases List.mem_map.mp hy with ⟨r, hr, rfl⟩
    rcases (hraw r).mp hr with ⟨hrow', hpeer', hasks'⟩
    exact hfirst _ (mem_held.mpr ⟨hrow', hpeer', rfl⟩) hasks' (of_decide_eq_true hsame) hle
  · exact Or.inr ⟨b, mem_payload_windows.mpr ⟨hb, hown, hasks⟩, hwindow⟩

end Tiers

/-- An item of an answer is a day, or a window of the node that answered. -/
theorem AnswerSound.items {cursor : Datetime} {now : Instant} {node : Node V}
    {payload : List (String × Json)} (h : AnswerSound c s cursor now node payload) :
    exists raw events buckets, Lists payload raw events buckets ∧
      forall item, item ∈ buckets ->
        (exists b, b ∈ node.store.buckets ∧ windowItem c.printer b = some item) ∨
          exists d, item = dayItem c.printer d := by
  rcases syncResponse_cases h.response with ⟨p, content, hp, hcontent, hjson⟩
  rcases hjson with ⟨hjson, _⟩ | ⟨hjson, _⟩
  · refine ⟨_, _, _, lists_json hjson.symm, ?_⟩
    intro item hitem
    rcases (mem_mapM (content_fields hcontent).right).left item hitem with ⟨b, hb, hprinted⟩
    cases b with
    | window b => exact Or.inl ⟨b, window_of_payload hp hb, hprinted⟩
    | day d => exact Or.inr ⟨d, (Option.some.inj hprinted).symm⟩
  · refine ⟨_, _, _, lists_json hjson.symm, ?_⟩
    intro item hitem
    rcases List.mem_map.mp hitem with ⟨d, _, rfl⟩
    exact Or.inr ⟨d, rfl⟩

theorem AnswerSound.sized {cursor : Datetime} {now : Instant} {node : Node V}
    {payload : List (String × Json)} (h : AnswerSound c s cursor now node payload)
    (hints : KeepsIntegers c.rt) {peers : PeerStore} (hsized : Sized c.peerNodeId peers) :
    Sized c.peerNodeId (c.merge payload peers).1 := by
  rcases h.items with ⟨raw, events, buckets, hlists, hitems⟩
  apply hlists.merge_preserves (P := Sized c.peerNodeId) _ _ _ hsized
  · intro item _ t t' merged hmerge ht b hb
    rw [(mergeSnapshot_rows c.rt c.peerNodeId item hmerge).left] at hb
    exact ht b hb
  · intro item _ t t' merged hmerge ht b hb
    rw [(mergeEvent_rows c.rt c.peerNodeId item hmerge).left] at hb
    exact ht b hb
  · intro item hitem t t' merged hmerge ht
    rcases hitems item hitem with ⟨b, hb, hprinted⟩ | ⟨d, rfl⟩
    · rcases mergeBucket_window hints hprinted hmerge with ⟨r, ⟨_, hstart, hend, hsize⟩, rfl⟩
      intro b' hb' hpeer
      rcases of_mem_insertOrIgnore hb' with hold | rfl
      · exact ht b' hold hpeer
      · exact ⟨b.bucketSize, hsize, by rw [hend, hstart, h.spanned b hb]⟩
    · intro b' hb'
      rw [mergeBucket_day hmerge] at hb'
      exact ht b' hb'

theorem int_of_text {m n : Int}
    (h : String.ofList (Json.print (Json.int m)) = String.ofList (Json.print (Json.int n))) :
    m = n := by
  have hprint := congrArg String.toList h
  rw [String.toList_ofList, String.toList_ofList] at hprint
  exact Json.int.inj (Json.print_injective trivial trivial hprint)

theorem window_stored (hints : KeepsIntegers c.rt) {items : List Json} {b : StatBucket V}
    {item : Json} (hin : item ∈ items) (hitem : windowItem c.printer b = some item)
    (hspan : b.windowEnd = b.windowStart + b.bucketSize) {t t' : PeerStore} {n : Nat}
    (h : forEach (mergeBucket c.rt c.peerNodeId) items t = (t', Except.ok n))
    (hsized : Sized c.peerNodeId t') :
    exists r, r ∈ t'.buckets ∧ r.peerNodeId = c.peerNodeId ∧ r.windowStart = b.windowStart ∧
      r.windowEnd = b.windowEnd := by
  have hkey : (c.peerNodeId, b.windowStart, String.ofList (Json.print (Json.int b.bucketSize))) ∈
      t'.buckets.map peerBucketKey := by
    apply forEach_establishes hin _ _ h
    · intro v v' merged hmerge
      rcases mergeBucket_window hints hitem hmerge with ⟨r, ⟨hpeer, hstart, _, hsize⟩, rfl⟩
      have hrow : peerBucketKey r =
          (c.peerNodeId, b.windowStart, String.ofList (Json.print (Json.int b.bucketSize))) := by
        rw [peerBucketKey, hpeer, hstart, hsize]
      rw [← hrow]
      show peerBucketKey r ∈ (insertMany peerBucketKey v.buckets [r]).map peerBucketKey
      exact keys_insertMany.mpr (Or.inr List.mem_cons_self)
    · intro item' _ v v' merged hmerge hold
      rcases mergeBucket_ok c.rt c.peerNodeId item' hmerge with ⟨rows, daily, rfl⟩
      exact keys_insertMany.mpr (Or.inl hold)
  rcases List.mem_map.mp hkey with ⟨r, hr, hsame⟩
  rcases Prod.mk.inj hsame with ⟨hpeer, hrest⟩
  rcases Prod.mk.inj hrest with ⟨hstart, htext⟩
  rcases hsized r hr hpeer with ⟨m, hm, hend⟩
  rw [hm] at htext
  exact ⟨r, hr, hpeer, hstart, by rw [hend, hstart, int_of_text htext, hspan]⟩

theorem AnswerSound.brings {cursor : Datetime} {now : Instant} {node : Node V}
    {payload : List (String × Json)} (h : AnswerSound c s cursor now node payload)
    (hints : KeepsIntegers c.rt) {peers : PeerStore} (hsized : Sized c.peerNodeId peers)
    {result : MergeResult} (hmerge : (c.merge payload peers).2 = Except.ok result)
    {x : RawRow V × List (String × Json)} (hbrings : Brings c peers cursor now node x) :
    Represented c.peerNodeId (c.merge payload peers).1 x := by
  have hsized' := h.sized hints hsized
  rcases syncResponse_cases h.response with ⟨p, content, hp, hcontent, hjson⟩
  rcases hbrings with ⟨p', hsent, hbrings⟩
  rcases hjson with ⟨hjson, hsame⟩ | ⟨_, hnone⟩
  · rw [hsame] at hsent
    cases hsent
    rcases content_fields hcontent with ⟨hraw, hitems⟩
    have hboth : c.merge payload peers = ((c.merge payload peers).1, Except.ok result) := by
      rw [← hmerge]
    rcases (lists_json hjson.symm).merge_ok hboth with ⟨t, u, k, l, m, hone, htwo, hthree⟩
    have hsnapshots : forall r, r ∈ t.snapshots -> r ∈ (c.merge payload peers).1.snapshots := by
      intro r hr
      have hmid : r ∈ u.snapshots := by
        apply forEach_keeps_snapshot _ hr htwo
        intro item v v' merged hv r' hr'
        rw [(mergeEvent_rows c.rt c.peerNodeId item hv).right]
        exact hr'
      apply forEach_keeps_snapshot _ hmid hthree
      intro item v v' merged hv r' hr'
      rw [(mergeBucket_keeps c.rt c.peerNodeId item hv).left]
      exact hr'
    rcases hbrings with ⟨ts, hfirst, hfree⟩ | ⟨b, hb, hwindow⟩
    · rw [hraw] at hone
      rw [show (fun r => Json.obj (node.withPayload r).2) =
        (fun y : RawRow V × List (String × Json) => Json.obj y.2) ∘ node.withPayload from rfl,
        ← List.map_map] at hone
      have hrow := forEach_mergeSnapshot c.rt c.peerNodeId hfirst hfree hone
      exact Or.inl ⟨_, hsnapshots _ hrow, rfl, Or.inl rfl⟩
    · rcases (mem_mapM hitems).right _ hb with ⟨item, hitem, hprinted⟩
      have hspan := h.spanned b (window_of_payload hp hb)
      rcases window_stored hints hitem hprinted hspan hthree hsized' with
        ⟨r, hr, hpeer, hstart, hend⟩
      refine Or.inr ⟨r, hr, hpeer, ?_, ?_⟩
      · rw [hstart]
        exact hwindow.left
      · rw [hend]
        exact hwindow.right
  · rw [hnone] at hsent
    cases hsent

theorem Watermark.finishSync (h : Watermark c s) (hints : KeepsIntegers c.rt) {i : Nat}
    (hstep : c.InStep s (NodeEvent.finishSync i)) : Watermark c (c.finishSync i s) := by
  unfold Setting.finishSync
  split
  · rename_i cursor now node payload hflight
    have hguard := hstep cursor now node payload hflight
    rcases h.flights _ (List.mem_of_getElem? hflight) with ⟨hbelow, hanswer⟩
    -- what the peer held when it answered is represented after a merge that succeeds
    have hheld : forall result, (c.merge payload s.peers).2 = Except.ok result ->
        forall x, x ∈ node.held -> x ∈ s.remote.held ->
          Represented c.peerNodeId (c.merge payload s.peers).1 x := by
      intro result hresult x hx hstill
      rw [hresult] at hguard
      by_cases hold : x.1.ts < cursorEpoch cursor
      · exact represented_merge c payload (hbelow x hstill hold)
      · rcases hguard x hx hstill (Int.not_lt.mp hold) with hstored | hreached
        · exact represented_merge c payload hstored
        · exact hanswer.brings hints h.sized hresult (brings_of_reached hx hreached)
    apply h.change
    · exact fun x _ hx => represented_merge c payload hx
    · exact hanswer.sized hints h.sized
    · intro t ht x hx hlt
      rcases h.passed ht hx hlt with hstored | hpasses
      · exact represented_merge c payload hstored
      · cases hresult : (c.merge payload s.peers).2 with
        | error e =>
            rw [hresult] at hguard
            exact represented_merge c payload (hguard x hx hpasses)
        | ok result =>
            by_cases hin : x ∈ node.held
            · exact hheld result hresult x hin hx
            · rcases hpasses with ⟨_, u, hu, hxu⟩
              have hle := hanswer.later x hx hin u hu
              omega
    · exact fun f hf => List.mem_of_mem_eraseIdx hf
    · intro held hfinished x hx hstill
      cases hresult : (c.merge payload s.peers).2 with
      | error e =>
          rw [hresult] at hfinished
          cases hfinished
      | ok result =>
          rw [hresult] at hfinished
          cases hfinished
          exact hheld result hresult x hx hstill
  · exact h.fly h.flights

/-!
## Retention
-/

theorem within_retain (now : Instant) (peers : PeerStore) :
    Within (retainPeers now peers) peers PeerStore.empty := by
  constructor
  · exact fun r hr => Or.inl (List.mem_of_mem_filter hr)
  · exact fun r hr => Or.inl hr
  · exact fun r hr => Or.inl (List.mem_of_mem_filter hr)
  · intro peer date
    have hnone : date ∉ dates peer PeerStore.empty := fun hin => by cases hin
    simp only [hnone, or_false]
    exact Iff.rfl

theorem Watermark.retain (h : Watermark c s) {now : Instant}
    (hstep : c.InStep s (NodeEvent.retain now)) :
    Watermark c { s with peers := retainPeers now s.peers, finished := none } := by
  apply h.change hstep
  · intro b hb
    exact h.sized b (List.mem_of_mem_filter hb)
  · intro t ht x hx hlt
    apply hstep x hx
    rcases (within_retain now s.peers).compared_le ht with hzero | ⟨m, hm, hle⟩ | ⟨m, hm, _⟩
    · have hpos := h.times x hx
      omega
    · exact h.below m hm x hx (by omega)
    · exact absurd hm (not_mem_compared_empty c.rt c.peerNodeId m)
  · exact fun f hf => hf
  · exact fun held hheld => by cases hheld

end Watermark

end Store
end PanicMonitr
