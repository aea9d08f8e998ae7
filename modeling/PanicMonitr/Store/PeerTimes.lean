import PanicMonitr.Store.Cursor
import PanicMonitr.Store.MergeRows

/-!
# Times after a change

The rows of a store after a merge come from the store before it and from what the payload
makes of an empty one, and so does the cursor.
-/

namespace PanicMonitr
namespace Store

open Foundation

theorem mem_snapshotTimes {peerNodeId : String} {s : PeerStore} {t : Int} :
    t ∈ snapshotTimes peerNodeId s <->
      exists r, r ∈ s.snapshots ∧ r.peerNodeId = peerNodeId ∧ r.ts = t := by
  simp only [snapshotTimes, List.mem_map, List.mem_filter, decide_eq_true_iff, and_assoc]

theorem mem_eventTimes {peerNodeId : String} {s : PeerStore} {t : Int} :
    t ∈ eventTimes peerNodeId s <->
      exists r, r ∈ s.events ∧ r.peerNodeId = peerNodeId ∧ r.ts = t := by
  simp only [eventTimes, List.mem_map, List.mem_filter, decide_eq_true_iff, and_assoc]

theorem mem_bucketEnds {peerNodeId : String} {s : PeerStore} {t : Int} :
    t ∈ bucketEnds peerNodeId s <->
      exists r, r ∈ s.buckets ∧ r.peerNodeId = peerNodeId ∧ r.windowEnd = t := by
  simp only [bucketEnds, List.mem_map, List.mem_filter, decide_eq_true_iff, and_assoc]

theorem mem_dates {peerNodeId : String} {s : PeerStore} {date : String} :
    date ∈ dates peerNodeId s <-> (peerNodeId, date) ∈ s.daily.map dayKey := by
  simp only [dates, dayKey, List.mem_map, List.mem_filter, decide_eq_true_iff, and_assoc,
    Prod.mk.injEq]

/-- The times a store has for a peer, without its days. -/
def Timed (peerNodeId : String) (s : PeerStore) (t : Int) : Prop :=
  t ∈ snapshotTimes peerNodeId s ∨ t ∈ eventTimes peerNodeId s ∨ t ∈ bucketEnds peerNodeId s

theorem mem_compared_of_timed (rt : Runtime) {peerNodeId : String} {s : PeerStore} {n : Int}
    (h : Timed peerNodeId s n) : n ∈ compared rt peerNodeId s := by
  unfold compared
  apply List.mem_append_left
  simpa only [Timed, List.mem_append, or_assoc] using h

theorem mem_compared_of_lastDay {rt : Runtime} {peerNodeId : String} {s : PeerStore} {day : Int}
    (h : lastDay rt peerNodeId s = some day) :
    exists m, m ∈ compared rt peerNodeId s ∧ day <= m := by
  unfold compared
  simp only [h, Option.toList_some, List.map_cons, List.map_nil]
  refine ⟨_, List.mem_append_right _ (List.mem_singleton_self _), ?_⟩
  split
  · exact Int.le_max_right 0 day
  · exact Int.le_refl day

theorem of_mem_compared {rt : Runtime} {peerNodeId : String} {s : PeerStore} {n : Int}
    (h : n ∈ compared rt peerNodeId s) :
    Timed peerNodeId s n ∨ exists day, lastDay rt peerNodeId s = some day ∧ n <= max 0 day := by
  unfold compared at h
  rcases List.mem_append.mp h with htimed | hday
  · refine Or.inl ?_
    simpa only [Timed, List.mem_append, or_assoc] using htimed
  · rcases List.mem_map.mp hday with ⟨day, hlast, rfl⟩
    refine Or.inr ⟨day, Option.mem_toList.mp hlast, ?_⟩
    split
    · exact Int.le_refl _
    · exact Int.le_max_right 0 day

/-- The rows of a store come from two others, and their dates are all there. -/
structure Within (s' s t : PeerStore) : Prop where
  snapshots : forall r, r ∈ s'.snapshots -> r ∈ s.snapshots ∨ r ∈ t.snapshots
  events : forall r, r ∈ s'.events -> r ∈ s.events ∨ r ∈ t.events
  buckets : forall r, r ∈ s'.buckets -> r ∈ s.buckets ∨ r ∈ t.buckets
  dates : forall peerNodeId date,
    date ∈ dates peerNodeId s' <-> date ∈ dates peerNodeId s ∨ date ∈ dates peerNodeId t

section Within

variable {rt : Runtime} {peerNodeId : String} {s' s t : PeerStore}

theorem Within.timed (h : Within s' s t) {n : Int} (hn : Timed peerNodeId s' n) :
    Timed peerNodeId s n ∨ Timed peerNodeId t n := by
  unfold Timed at *
  simp only [mem_snapshotTimes, mem_eventTimes, mem_bucketEnds] at *
  rcases hn with ⟨r, hr, hpeer, hts⟩ | ⟨r, hr, hpeer, hts⟩ | ⟨r, hr, hpeer, hts⟩
  · exact (h.snapshots r hr).imp (fun hin => Or.inl ⟨r, hin, hpeer, hts⟩)
      (fun hin => Or.inl ⟨r, hin, hpeer, hts⟩)
  · exact (h.events r hr).imp (fun hin => Or.inr (Or.inl ⟨r, hin, hpeer, hts⟩))
      (fun hin => Or.inr (Or.inl ⟨r, hin, hpeer, hts⟩))
  · exact (h.buckets r hr).imp (fun hin => Or.inr (Or.inr ⟨r, hin, hpeer, hts⟩))
      (fun hin => Or.inr (Or.inr ⟨r, hin, hpeer, hts⟩))

theorem Within.lastDay (h : Within s' s t) {day : Int}
    (hday : lastDay rt peerNodeId s' = some day) :
    lastDay rt peerNodeId s = some day ∨ lastDay rt peerNodeId t = some day := by
  rcases Option.bind_eq_some_iff.mp hday with ⟨text, htext, hepoch⟩
  rcases List.max?_eq_some_iff.mp htext with ⟨hmem, hmost⟩
  rcases (h.dates peerNodeId text).mp hmem with hin | hin
  · refine Or.inl (Option.bind_eq_some_iff.mpr ⟨text, List.max?_eq_some_iff.mpr ⟨hin, ?_⟩, hepoch⟩)
    intro other hother
    exact hmost other ((h.dates peerNodeId other).mpr (Or.inl hother))
  · refine Or.inr (Option.bind_eq_some_iff.mpr ⟨text, List.max?_eq_some_iff.mpr ⟨hin, ?_⟩, hepoch⟩)
    intro other hother
    exact hmost other ((h.dates peerNodeId other).mpr (Or.inr hother))

theorem Within.compared_le (h : Within s' s t) {n : Int}
    (hn : n ∈ compared rt peerNodeId s') :
    n <= 0 ∨ (exists m, m ∈ compared rt peerNodeId s ∧ n <= m) ∨
      exists m, m ∈ compared rt peerNodeId t ∧ n <= m := by
  rcases of_mem_compared hn with htimed | ⟨day, hday, hle⟩
  · rcases h.timed htimed with hin | hin
    · exact Or.inr (Or.inl ⟨n, mem_compared_of_timed rt hin, Int.le_refl n⟩)
    · exact Or.inr (Or.inr ⟨n, mem_compared_of_timed rt hin, Int.le_refl n⟩)
  · rcases le_max_iff.mp hle with hzero | hle
    · exact Or.inl hzero
    · rcases h.lastDay hday with hin | hin
      · rcases mem_compared_of_lastDay hin with ⟨m, hm, hdaym⟩
        exact Or.inr (Or.inl ⟨m, hm, Int.le_trans hle hdaym⟩)
      · rcases mem_compared_of_lastDay hin with ⟨m, hm, hdaym⟩
        exact Or.inr (Or.inr ⟨m, hm, Int.le_trans hle hdaym⟩)

end Within

theorem within_merge (rt : Runtime) (peerNodeId : String) (payload : List (String × Json))
    (s : PeerStore) :
    Within (mergeSyncPayload rt peerNodeId payload s).1 s
      (mergeSyncPayload rt peerNodeId payload PeerStore.empty).1 := by
  rcases mergeSyncPayload_inserts rt peerNodeId payload with ⟨i, _, hmerge⟩
  have hinsert : forall u, (mergeSyncPayload rt peerNodeId payload u).1 = u.insert i := by
    intro u
    rcases hmerge with ⟨e, herror⟩ | hok
    · rw [herror]
    · rcases hok u with ⟨result, hu⟩
      rw [hu]
  rw [hinsert, hinsert]
  have hnokeys : forall {row key : Type} [DecidableEq key] (keyOf : row -> key) (rows : List row)
      (k : key), k ∈ ([] : List row).map keyOf -> k ∈ rows.map keyOf := by
    intro row key _ keyOf rows k hk
    cases hk
  constructor
  · exact fun r hr => mem_insertMany_of_keys (hnokeys snapshotKey s.snapshots) hr
  · exact fun r hr => mem_insertMany_of_keys (hnokeys eventKey s.events) hr
  · exact fun r hr => mem_insertMany_of_keys (hnokeys peerBucketKey s.buckets) hr
  · intro peer date
    simp only [mem_dates]
    unfold PeerStore.insert
    simp only [keys_replaceMany]
    have hnone : (peer, date) ∉ PeerStore.empty.daily.map dayKey := fun hin => by cases hin
    simp only [hnone, false_or]

end Store
end PanicMonitr
