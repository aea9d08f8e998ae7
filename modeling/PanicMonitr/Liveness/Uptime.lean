import PanicMonitr.Foundation.Double
import PanicMonitr.Foundation.Slots
import PanicMonitr.Liveness.History
import Mathlib.Algebra.Order.Ring.Rat
import Mathlib.Tactic.FieldSimp
import Mathlib.Tactic.Ring

/-!
# Uptime

The share of probes that were answered, over a window and for each of the last hours.
Percentages are doubles, and those of the hours make up that of the window but for rounding.
-/

namespace PanicMonitr
namespace Liveness

open Foundation
open Trust

/-!
## Queries
-/

/-- `SUM(CASE WHEN status = 'ALIVE' THEN 1 ELSE 0 END)` -/
def aliveCount (rows : List ProbeRow) : Nat :=
  rows.countP (fun row => decide (row.status = PeerStatus.alive))

/-- What `percent` rounds. -/
def share (ok total : Nat) : Rat :=
  100 * ok / total

/--
`100.0 * (ok or 0) / total`: the product and the divisor are exact as doubles for as many rows
as a SQLite file can hold, so only the quotient is rounded.
-/
def percent (ok total : Nat) : Rat :=
  toDouble (share ok total)

/-- The rows of a node from one second up to, but not including, another. -/
def rowsBetween (rows : List ProbeRow) (nodeId : String) (start endExclusive : Int) :
    List ProbeRow :=
  (rowsFor nodeId rows).filter (fun row => decide (start <= row.ts ∧ row.ts < endExclusive))

/-- What is returned for the rows that were found. -/
def uptimeOf (found : List ProbeRow) : Option Rat :=
  if found.length = 0 then none else some (percent (aliveCount found) found.length)

/-- `uptime_percent(node_id, window, now)`; both ends of the window belong to it. -/
def uptimePercent (rows : List ProbeRow) (nodeId : String) (window : Int) (now : Instant) :
    Option Rat :=
  uptimeOf ((rowsFor nodeId rows).filter
    (fun row => decide (toEpoch (now - window) <= row.ts ∧ row.ts <= toEpoch now)))

/-- `CAST(ts / 3600 AS INTEGER)`: the division of integers cuts towards zero. -/
def hourIdx (row : ProbeRow) : Int :=
  row.ts.tdiv 3600

def currentHourStart (now : Instant) : Int :=
  toEpoch now / 3600 * 3600

/-- `start_hour` -/
def startHour (hours : Nat) (now : Instant) : Int :=
  currentHourStart now - ((hours : Int) - 1) * 3600

def bucketIdx (start : Int) (group : Int × List ProbeRow) : Int :=
  (group.1 * 3600 - start) / 3600

def groupPercent (group : Int × List ProbeRow) : Option Rat :=
  some (percent (aliveCount group.2) group.2.length)

/-- `hourly_uptime_buckets(node_id, hours)` at a clock reading -/
def hourlyUptimeBuckets (rows : List ProbeRow) (nodeId : String) (hours : Nat)
    (now : Instant) : List (Option Rat) :=
  let start := startHour hours now
  let endExclusive := currentHourStart now + 3600
  (Assoc.groupBy hourIdx (rowsBetween rows nodeId start endExclusive)).foldl
    (fun buckets group =>
      if 0 <= bucketIdx start group ∧ bucketIdx start group < hours ∧ group.2.length ≠ 0 then
        buckets.set (bucketIdx start group).toNat (groupPercent group)
      else buckets)
    (List.replicate hours none)

/-- The query only sets places of a list that begins empty. -/
theorem hourlyUptimeBuckets_of_set {rows : List ProbeRow} {nodeId : String} {hours : Nat}
    {now : Instant} {P : List (Option Rat) -> Prop} (hstart : P (List.replicate hours none))
    (hset : forall buckets i group, P buckets -> P (buckets.set i (groupPercent group))) :
    P (hourlyUptimeBuckets rows nodeId hours now) := by
  unfold hourlyUptimeBuckets
  apply List.foldlRecOn
  · exact hstart
  · intro buckets hbuckets group _
    split
    · exact hset buckets _ group hbuckets
    · exact hbuckets

theorem length_hourlyUptimeBuckets (rows : List ProbeRow) (nodeId : String) (hours : Nat)
    (now : Instant) : (hourlyUptimeBuckets rows nodeId hours now).length = hours := by
  apply hourlyUptimeBuckets_of_set (P := fun buckets => buckets.length = hours)
  · exact List.length_replicate
  · intro buckets i group hbuckets
    rw [List.length_set, hbuckets]

/-!
## The partition

The rows of a bucket are those of its interval; the mean weighs a bucket by its rows.
-/

/-- The rows of the `i`-th hour from a start on. -/
def bucketRows (rows : List ProbeRow) (nodeId : String) (start : Int) (i : Nat) :
    List ProbeRow :=
  rowsBetween rows nodeId (start + 3600 * i) (start + 3600 * (i + 1))

def hourCounts (rows : List ProbeRow) (nodeId : String) (hours : Nat) (now : Instant)
    (count : List ProbeRow -> Nat) : List Nat :=
  (List.range hours).map (fun i => count (bucketRows rows nodeId (startHour hours now) i))

def hoursWindow (hours : Nat) (now : Instant) : Int :=
  (currentHourStart now + 3599 - startHour hours now) * microsPerSecond

/-- The pairs of a weight and a value in which there is a value. -/
def present (pairs : List (Nat × Option Rat)) : List (Nat × Rat) :=
  pairs.filterMap (fun pair => pair.2.map (fun value => (pair.1, value)))

/-- The mean of the values that are there, each with its weight. -/
def weightedMean (pairs : List (Nat × Option Rat)) : Option Rat :=
  if present pairs = [] then none
  else
    some (((present pairs).map (fun pair => (pair.1 : Rat) * pair.2)).sum /
      ((present pairs).map (fun pair => (pair.1 : Rat))).sum)

structure HourlyPartition (rows : List ProbeRow) (nodeId : String) (hours : Nat)
    (now : Instant) (buckets : List (Option Rat)) : Prop where
  length : buckets.length = hours
  empty : forall i, i < hours ->
    (buckets[i]? = some none <-> bucketRows rows nodeId (startHour hours now) i = [])
  filled : forall i, i < hours -> bucketRows rows nodeId (startHour hours now) i ≠ [] ->
    buckets[i]? = some (some (toDouble
      (100 * (aliveCount (bucketRows rows nodeId (startHour hours now) i) : Rat) /
        (bucketRows rows nodeId (startHour hours now) i).length)))
  counted : ((List.range hours).flatMap (bucketRows rows nodeId (startHour hours now))).Perm
    (rowsBetween rows nodeId (startHour hours now) (currentHourStart now + 3600))
  once : forall row, row ∈ rowsFor nodeId rows ->
    startHour hours now <= row.ts -> row.ts < currentHourStart now + 3600 ->
      exists i, (i < hours ∧ row ∈ bucketRows rows nodeId (startHour hours now) i) ∧
        forall j, row ∈ bucketRows rows nodeId (startHour hours now) j -> j = i
  outside : forall row, (row.ts < startHour hours now ∨ currentHourStart now + 3600 <= row.ts) ->
    forall i, i < hours -> row ∉ bucketRows rows nodeId (startHour hours now) i
  probed : (hourCounts rows nodeId hours now List.length).sum =
    (rowsBetween rows nodeId (startHour hours now) (currentHourStart now + 3600)).length
  answered : (hourCounts rows nodeId hours now aliveCount).sum =
    aliveCount (rowsBetween rows nodeId (startHour hours now) (currentHourStart now + 3600))
  mean : Option.Rel (fun mean uptime => |mean - uptime| <= 100 / 2 ^ 52)
    (weightedMean ((hourCounts rows nodeId hours now List.length).zip buckets))
    (uptimePercent rows nodeId (hoursWindow hours now) (fromEpoch (currentHourStart now + 3599)))

section Partition

variable {rows : List ProbeRow} {nodeId : String} {hours : Nat} {now : Instant}

theorem mem_rowsBetween {start endExclusive : Int} {row : ProbeRow} :
    row ∈ rowsBetween rows nodeId start endExclusive <->
      row ∈ rowsFor nodeId rows ∧ start <= row.ts ∧ row.ts < endExclusive := by
  unfold rowsBetween
  rw [List.mem_filter, decide_eq_true_iff]

theorem startHour_eq (hours : Nat) (now : Instant) :
    startHour hours now = (toEpoch now / 3600 - hours + 1) * 3600 := by
  unfold startHour currentHourStart
  ring

theorem currentHourStart_eq (hours : Nat) (now : Instant) :
    currentHourStart now + 3600 = startHour hours now + 3600 * hours := by
  unfold startHour
  ring

def slotOf (start : Int) (row : ProbeRow) : Int :=
  (row.ts - start) / 3600

theorem slotOf_eq_iff {start : Int} {row : ProbeRow} {i : Int} :
    slotOf start row = i <-> start + 3600 * i <= row.ts ∧ row.ts < start + 3600 * (i + 1) := by
  unfold slotOf
  omega

theorem bucketRows_eq (i : Nat) (hi : i < hours) :
    bucketRows rows nodeId (startHour hours now) i =
      classOf (slotOf (startHour hours now))
        (rowsBetween rows nodeId (startHour hours now) (currentHourStart now + 3600)) (i : Int) := by
  rw [currentHourStart_eq hours now]
  unfold bucketRows classOf rowsBetween
  rw [List.filter_filter]
  apply List.filter_congr
  intro row _
  rw [← Bool.decide_and, decide_eq_decide, slotOf_eq_iff]
  omega

/-- Hours of the epoch and slots go in step, as the list starts on the hour. -/
theorem hourIdx_eq_iff {row : ProbeRow} (hts : 0 <= row.ts) {i : Int} :
    hourIdx row = startHour hours now / 3600 + i <-> slotOf (startHour hours now) row = i := by
  unfold hourIdx slotOf
  rw [Int.tdiv_eq_ediv_of_nonneg hts, startHour_eq]
  omega

/-!
## Filling the list
-/

def foundRows (rows : List ProbeRow) (nodeId : String) (hours : Nat) (now : Instant) :
    List ProbeRow :=
  rowsBetween rows nodeId (startHour hours now) (currentHourStart now + 3600)

theorem slotOf_range {row : ProbeRow} (hrow : row ∈ foundRows rows nodeId hours now) :
    0 <= slotOf (startHour hours now) row ∧ slotOf (startHour hours now) row < hours := by
  rcases mem_rowsBetween.mp hrow with ⟨_, hstart, hend⟩
  rw [currentHourStart_eq hours now] at hend
  unfold slotOf
  omega

/-- What a group of the query is: the rows of one hour, under the number of that hour. -/
theorem group_eq (hts : forall row, row ∈ rows -> 0 <= row.ts) {group : Int × List ProbeRow}
    (hgroup : group ∈ Assoc.groupBy hourIdx (foundRows rows nodeId hours now)) :
    exists i : Nat, i < hours ∧ bucketIdx (startHour hours now) group = i ∧
      group.1 = startHour hours now / 3600 + i ∧
      group.2 = bucketRows rows nodeId (startHour hours now) i ∧ group.2 ≠ [] := by
  rcases group with ⟨k, members⟩
  rcases Assoc.mem_groupBy_iff.mp hgroup with ⟨hmembers, hne⟩
  have hnonneg : forall row, row ∈ foundRows rows nodeId hours now -> 0 <= row.ts := by
    intro row hrow
    exact hts row (List.mem_of_mem_filter (mem_rowsBetween.mp hrow).left)
  rcases List.exists_mem_of_ne_nil members hne with ⟨row, hrow⟩
  rw [hmembers, List.mem_filter, decide_eq_true_iff] at hrow
  rcases slotOf_range hrow.left with ⟨hlow, hhigh⟩
  have hk : k = startHour hours now / 3600 + slotOf (startHour hours now) row := by
    rw [← hrow.right]
    exact (hourIdx_eq_iff (hnonneg row hrow.left)).mpr rfl
  rcases Int.eq_ofNat_of_zero_le hlow with ⟨i, hi⟩
  rw [hi] at hk hhigh
  have hin : i < hours := Int.ofNat_lt.mp hhigh
  refine ⟨i, hin, ?_, hk, ?_, hne⟩
  · show (k * 3600 - startHour hours now) / 3600 = i
    rw [hk, startHour_eq]
    omega
  · show members = _
    rw [hmembers, bucketRows_eq i hin, hk]
    apply List.filter_congr
    intro row' hrow'
    rw [decide_eq_decide]
    exact hourIdx_eq_iff (hnonneg row' hrow')

theorem exists_group (hts : forall row, row ∈ rows -> 0 <= row.ts) {i : Nat} (hi : i < hours)
    (hne : bucketRows rows nodeId (startHour hours now) i ≠ []) :
    exists group, group ∈ Assoc.groupBy hourIdx (foundRows rows nodeId hours now) ∧
      (bucketIdx (startHour hours now) group).toNat = i ∧
      group.2 = bucketRows rows nodeId (startHour hours now) i := by
  rcases List.exists_mem_of_ne_nil _ hne with ⟨row, hrow⟩
  have hclass := hrow
  rw [bucketRows_eq i hi, classOf, List.mem_filter, decide_eq_true_iff] at hclass
  rcases Assoc.mem_groupBy_of_mem hourIdx hclass.left with ⟨members, hgroup⟩
  rcases group_eq hts hgroup with ⟨j, _, hidx, hkey, hmembers, _⟩
  have hnonneg := hts row (List.mem_of_mem_filter (mem_rowsBetween.mp hclass.left).left)
  have hslot : slotOf (startHour hours now) row = j := (hourIdx_eq_iff hnonneg).mp hkey
  have hij : j = i := Int.ofNat_inj.mp (hslot.symm.trans hclass.right)
  subst hij
  exact ⟨(hourIdx row, members), hgroup, by rw [hidx]; rfl, hmembers⟩

theorem nodup_slots (hts : forall row, row ∈ rows -> 0 <= row.ts) :
    ((Assoc.groupBy hourIdx (foundRows rows nodeId hours now)).map
      (fun group => (bucketIdx (startHour hours now) group).toNat)).Nodup := by
  apply List.Nodup.map_on
  · intro group hgroup group' hgroup' hsame
    rcases group_eq hts hgroup with ⟨i, _, hidx, hkey, hmembers, _⟩
    rcases group_eq hts hgroup' with ⟨j, _, hidx', hkey', hmembers', _⟩
    rw [hidx, hidx', Int.toNat_natCast, Int.toNat_natCast] at hsame
    subst hsame
    exact Prod.ext (hkey.trans hkey'.symm) (hmembers.trans hmembers'.symm)
  · exact List.Nodup.of_map Prod.fst (Assoc.nodup_keys_groupBy hourIdx _)

theorem hourlyUptimeBuckets_eq (hts : forall row, row ∈ rows -> 0 <= row.ts) :
    hourlyUptimeBuckets rows nodeId hours now =
      fillSlots (fun group => (bucketIdx (startHour hours now) group).toNat) groupPercent
        (Assoc.groupBy hourIdx (foundRows rows nodeId hours now))
        (List.replicate hours none) := by
  unfold hourlyUptimeBuckets fillSlots
  apply List.foldl_ext
  intro buckets group hgroup
  rcases group_eq hts hgroup with ⟨i, hi, hidx, _, _, hne⟩
  have hlength : group.2.length ≠ 0 := fun h => hne (List.length_eq_zero_iff.mp h)
  rw [if_pos ⟨by omega, by omega, hlength⟩]

theorem getElem?_hourlyUptimeBuckets (hts : forall row, row ∈ rows -> 0 <= row.ts) {i : Nat}
    (hi : i < hours) : (hourlyUptimeBuckets rows nodeId hours now)[i]? =
      some (uptimeOf (bucketRows rows nodeId (startHour hours now) i)) := by
  rw [hourlyUptimeBuckets_eq hts]
  by_cases hnil : bucketRows rows nodeId (startHour hours now) i = []
  · have hfresh : i ∉ (Assoc.groupBy hourIdx (foundRows rows nodeId hours now)).map
        (fun group => (bucketIdx (startHour hours now) group).toNat) := by
      intro hmem
      rcases List.mem_map.mp hmem with ⟨group, hgroup, hslot⟩
      rcases group_eq hts hgroup with ⟨j, _, hidx, _, hmembers, hne⟩
      rw [hidx, Int.toNat_natCast] at hslot
      rw [hslot, hnil] at hmembers
      exact hne hmembers
    rw [fillSlots_of_not_mem _ _ hfresh, List.getElem?_replicate, if_pos hi, hnil]
    rfl
  · rcases exists_group hts hi hnil with ⟨group, hgroup, hslot, hmembers⟩
    have hlength : (bucketRows rows nodeId (startHour hours now) i).length ≠ 0 :=
      fun h => hnil (List.length_eq_zero_iff.mp h)
    have hplace : (bucketIdx (startHour hours now) group).toNat <
        (List.replicate hours (none : Option Rat)).length := by
      rw [hslot, List.length_replicate]
      exact hi
    have hfilled := fillSlots_of_mem
      (fun group => (bucketIdx (startHour hours now) group).toNat) groupPercent
      (nodup_slots hts) hgroup hplace
    rw [hslot] at hfilled
    rw [hfilled, groupPercent, hmembers, uptimeOf, if_neg hlength]

theorem hourlyUptimeBuckets_map (hts : forall row, row ∈ rows -> 0 <= row.ts) :
    hourlyUptimeBuckets rows nodeId hours now =
      (List.range hours).map
        (fun i => uptimeOf (bucketRows rows nodeId (startHour hours now) i)) := by
  have hlength := length_hourlyUptimeBuckets rows nodeId hours now
  apply List.ext_getElem?
  intro i
  by_cases hi : i < hours
  · rw [getElem?_hourlyUptimeBuckets hts hi, List.getElem?_map, List.getElem?_range hi]
    rfl
  · rw [List.getElem?_eq_none (by omega), List.getElem?_eq_none (by simpa using hi)]

theorem bucketRows_perm :
    ((List.range hours).flatMap (bucketRows rows nodeId (startHour hours now))).Perm
      (foundRows rows nodeId hours now) := by
  have hclasses : (List.range hours).flatMap (bucketRows rows nodeId (startHour hours now)) =
      ((List.range hours).map Int.ofNat).flatMap
        (classOf (slotOf (startHour hours now)) (foundRows rows nodeId hours now)) := by
    rw [List.flatMap_map]
    apply List.flatMap_congr
    intro i hi
    exact bucketRows_eq i (List.mem_range.mp hi)
  rw [hclasses]
  apply flatMap_classOf_perm
  · exact List.nodup_range.map (fun i j h => Int.ofNat_inj.mp h)
  · intro row hrow
    rcases slotOf_range hrow with ⟨hlow, hhigh⟩
    rcases Int.eq_ofNat_of_zero_le hlow with ⟨i, hi⟩
    rw [hi] at hhigh ⊢
    exact List.mem_map_of_mem (List.mem_range.mpr (Int.ofNat_lt.mp hhigh))

end Partition

/-!
## The mean
-/

/-- The pair of a list of rows: how many there are, and their uptime. -/
def weighed (found : List ProbeRow) : Nat × Option Rat :=
  (found.length, uptimeOf found)

theorem present_cons_nil (groups : List (List ProbeRow)) :
    present (([] :: groups).map weighed) = present (groups.map weighed) := rfl

theorem present_cons {group : List ProbeRow} (hne : group.length ≠ 0)
    (groups : List (List ProbeRow)) :
    present ((group :: groups).map weighed) =
      (group.length, percent (aliveCount group) group.length) ::
        present (groups.map weighed) := by
  unfold present
  rw [List.map_cons, List.filterMap_cons, weighed, uptimeOf, if_neg hne]
  rfl

theorem sum_weights (groups : List (List ProbeRow)) :
    ((present (groups.map weighed)).map (fun pair => (pair.1 : Rat))).sum =
      (groups.flatten.length : Rat) := by
  induction groups with
  | nil => rfl
  | cons group groups ih =>
      by_cases hempty : group.length = 0
      · rw [List.length_eq_zero_iff.mp hempty, present_cons_nil, ih]
        rfl
      · rw [present_cons hempty, List.map_cons, List.sum_cons, ih, List.flatten_cons,
          List.length_append, Nat.cast_add]

theorem share_nonneg (ok total : Nat) : 0 <= share ok total := by
  unfold share
  positivity

theorem share_le {ok total : Nat} (h : ok <= total) : share ok total <= 100 := by
  have hcast : (ok : Rat) <= total := Nat.cast_le.mpr h
  unfold share
  apply div_le_of_le_mul₀ (Nat.cast_nonneg total) (by norm_num)
  exact mul_le_mul_of_nonneg_left hcast (by norm_num)

theorem percent_range {ok total : Nat} (h : ok <= total) :
    0 <= percent ok total ∧ percent ok total <= 100 := by
  constructor
  · exact toDouble_nonneg (share_nonneg ok total)
  · have hle : share ok total <= (100 : Nat) := by exact_mod_cast share_le h
    exact_mod_cast toDouble_le_natCast (share_nonneg ok total) hle (by norm_num)

theorem abs_percent_sub_le (ok total : Nat) :
    |percent ok total - share ok total| <= share ok total / 2 ^ 53 := by
  have herror := abs_toDouble_sub_le (share ok total)
  rw [abs_of_nonneg (share_nonneg ok total)] at herror
  exact herror

/-- A group weighs as much as its answered probes, in hundredths, but for the rounding. -/
theorem abs_weighed_sub_le {group : List ProbeRow} (hne : group.length ≠ 0) :
    |(group.length : Rat) * percent (aliveCount group) group.length -
        100 * (aliveCount group : Rat)| <= 100 * (aliveCount group : Rat) / 2 ^ 53 := by
  have hcast : (group.length : Rat) ≠ 0 := Nat.cast_ne_zero.mpr hne
  have hnonneg : (0 : Rat) <= group.length := Nat.cast_nonneg _
  have hexact : (group.length : Rat) * share (aliveCount group) group.length =
      100 * (aliveCount group : Rat) := by
    unfold share
    field_simp
  rw [← hexact, ← mul_sub, abs_mul, abs_of_nonneg hnonneg, mul_div_assoc]
  exact mul_le_mul_of_nonneg_left (abs_percent_sub_le _ _) hnonneg

theorem aliveCount_append (found found' : List ProbeRow) :
    aliveCount (found ++ found') = aliveCount found + aliveCount found' :=
  List.countP_append

theorem abs_sum_weighted_sub_le (groups : List (List ProbeRow)) :
    |((present (groups.map weighed)).map (fun pair => (pair.1 : Rat) * pair.2)).sum -
        100 * (aliveCount groups.flatten : Rat)| <=
      100 * (aliveCount groups.flatten : Rat) / 2 ^ 53 := by
  induction groups with
  | nil =>
      show |(0 : Rat) - 100 * ((0 : Nat) : Rat)| <= 100 * ((0 : Nat) : Rat) / 2 ^ 53
      rw [Nat.cast_zero, mul_zero, sub_zero, abs_zero, zero_div]
  | cons group groups ih =>
      by_cases hempty : group.length = 0
      · rw [List.length_eq_zero_iff.mp hempty, present_cons_nil]
        exact ih
      · have hhere := abs_le.mp (abs_weighed_sub_le hempty)
        have hrest := abs_le.mp ih
        rw [present_cons hempty, List.map_cons, List.sum_cons, List.flatten_cons,
          aliveCount_append, Nat.cast_add, abs_le]
        constructor
        · linarith [hhere.left, hrest.left]
        · linarith [hhere.right, hrest.right]

/-- The mean over groups is the uptime of all their rows, but for the rounding of both. -/
theorem weightedMean_weighed (groups : List (List ProbeRow)) :
    Option.Rel (fun mean uptime => |mean - uptime| <= 100 / 2 ^ 52)
      (weightedMean (groups.map weighed)) (uptimeOf groups.flatten) := by
  have hweights := sum_weights groups
  have hsum := abs_sum_weighted_sub_le groups
  unfold weightedMean
  rw [hweights]
  unfold uptimeOf
  by_cases hnone : present (groups.map weighed) = []
  · rw [hnone] at hweights
    have hzero : groups.flatten.length = 0 := Nat.cast_eq_zero.mp hweights.symm
    rw [if_pos hnone, if_pos hzero]
    exact Option.Rel.none
  · have hsome : groups.flatten.length ≠ 0 := by
      intro hzero
      apply hnone
      unfold present
      rw [List.filterMap_eq_nil_iff]
      intro pair hpair
      rcases List.mem_map.mp hpair with ⟨group, hgroup, rfl⟩
      have hnil : group = [] :=
        List.flatten_eq_nil_iff.mp (List.length_eq_zero_iff.mp hzero) group hgroup
      rw [hnil]
      rfl
    have hpos : (0 : Rat) < groups.flatten.length := Nat.cast_pos.mpr (Nat.pos_of_ne_zero hsome)
    have hle : share (aliveCount groups.flatten) groups.flatten.length <= 100 :=
      share_le List.countP_le_length
    rw [if_neg hnone, if_neg hsome]
    apply Option.Rel.some
    generalize hS : ((present (groups.map weighed)).map
      (fun pair => (pair.1 : Rat) * pair.2)).sum = S at hsum
    have hmean : |S / groups.flatten.length -
        share (aliveCount groups.flatten) groups.flatten.length| <=
          share (aliveCount groups.flatten) groups.flatten.length / 2 ^ 53 := by
      unfold share
      rw [← sub_div, abs_div, abs_of_pos hpos, div_right_comm]
      exact div_le_div_of_nonneg_right hsum hpos.le
    have huptime := abs_percent_sub_le (aliveCount groups.flatten) groups.flatten.length
    rw [abs_le] at hmean huptime ⊢
    constructor
    · linarith [hmean.left, huptime.right]
    · linarith [hmean.right, huptime.left]

theorem uptimeOf_perm {found found' : List ProbeRow} (h : found.Perm found') :
    uptimeOf found = uptimeOf found' := by
  unfold uptimeOf aliveCount
  rw [h.length_eq, h.countP_eq]

section Claim

variable {rows : List ProbeRow} {nodeId : String} {hours : Nat} {now : Instant}

theorem toEpoch_fromEpoch (ts : Int) : toEpoch (fromEpoch ts) = ts :=
  Int.mul_tdiv_cancel ts (by decide)

theorem uptimePercent_hours :
    uptimePercent rows nodeId (hoursWindow hours now) (fromEpoch (currentHourStart now + 3599)) =
    uptimeOf (foundRows rows nodeId hours now) := by
  have hcutoff : fromEpoch (currentHourStart now + 3599) - hoursWindow hours now =
      fromEpoch (startHour hours now) := by
    unfold fromEpoch hoursWindow
    ring
  unfold uptimePercent foundRows rowsBetween
  rw [hcutoff, toEpoch_fromEpoch, toEpoch_fromEpoch]
  congr 1
  apply List.filter_congr
  intro row _
  rw [decide_eq_decide]
  omega

theorem weightedMean_buckets (hts : forall row, row ∈ rows -> 0 <= row.ts) :
    Option.Rel (fun mean uptime => |mean - uptime| <= 100 / 2 ^ 52)
      (weightedMean ((hourCounts rows nodeId hours now List.length).zip
        (hourlyUptimeBuckets rows nodeId hours now)))
      (uptimeOf (foundRows rows nodeId hours now)) := by
  have hpairs : (hourCounts rows nodeId hours now List.length).zip
      (hourlyUptimeBuckets rows nodeId hours now) =
        ((List.range hours).map (bucketRows rows nodeId (startHour hours now))).map weighed := by
    unfold hourCounts
    rw [hourlyUptimeBuckets_map hts, List.zip_map', List.map_map]
    rfl
  rw [hpairs, ← uptimeOf_perm bucketRows_perm, List.flatMap_def]
  exact weightedMean_weighed _

/-- For rows of no negative time, whatever the clock reads. -/
theorem hourly_buckets_partition (hts : forall row, row ∈ rows -> 0 <= row.ts)
    (nodeId : String) (hours : Nat) (now : Instant) :
    HourlyPartition rows nodeId hours now (hourlyUptimeBuckets rows nodeId hours now) where
  length := length_hourlyUptimeBuckets rows nodeId hours now
  empty := by
    intro i hi
    rw [getElem?_hourlyUptimeBuckets hts hi, Option.some_inj, uptimeOf]
    constructor
    · intro h
      split at h
      · rename_i hzero
        exact List.length_eq_zero_iff.mp hzero
      · cases h
    · intro h
      rw [h]
      rfl
  filled := by
    intro i hi hne
    have hlength : (bucketRows rows nodeId (startHour hours now) i).length ≠ 0 :=
      fun h => hne (List.length_eq_zero_iff.mp h)
    rw [getElem?_hourlyUptimeBuckets hts hi, uptimeOf, if_neg hlength, percent, share]
  counted := bucketRows_perm
  once := by
    intro row hrow hstart hend
    have hfound : row ∈ foundRows rows nodeId hours now :=
      mem_rowsBetween.mpr ⟨hrow, hstart, hend⟩
    rcases List.mem_flatMap.mp (bucketRows_perm.mem_iff.mpr hfound) with ⟨i, hi, hin⟩
    refine ⟨i, ⟨List.mem_range.mp hi, hin⟩, ?_⟩
    intro j hj
    have hini := mem_rowsBetween.mp hin
    have hinj := mem_rowsBetween.mp hj
    omega
  outside := by
    intro row hrow i hi hin
    rcases mem_rowsBetween.mp hin with ⟨_, hlow, hhigh⟩
    rw [currentHourStart_eq hours now] at hrow
    omega
  probed := by
    rw [hourCounts, ← List.length_flatMap]
    exact bucketRows_perm.length_eq
  answered := by
    have hcounted : ((List.range hours).flatMap
        (bucketRows rows nodeId (startHour hours now))).Perm
          (foundRows rows nodeId hours now) := bucketRows_perm
    have hsame := hcounted.countP_eq (fun row => decide (row.status = PeerStatus.alive))
    rw [List.countP_flatMap] at hsame
    exact hsame
  mean := uptimePercent_hours ▸ weightedMean_buckets hts

end Claim

/-- A failed probe in the last second of an hour, and an answered one in the next second. -/
def boundaryRows : List ProbeRow :=
  [{ nodeId := "peer-a", ts := 1779425999, rttMs := none, status := PeerStatus.dead },
    { nodeId := "peer-a", ts := 1779426000, rttMs := some 5, status := PeerStatus.alive }]

theorem hourly_buckets_partition_boundary :
    HourlyPartition boundaryRows "peer-a" 2 (fromEpoch 1779426000)
      (hourlyUptimeBuckets boundaryRows "peer-a" 2 (fromEpoch 1779426000)) ∧
    hourlyUptimeBuckets boundaryRows "peer-a" 2 (fromEpoch 1779426000) =
      [some 0, some 100] :=
  ⟨hourly_buckets_partition (by decide) "peer-a" 2 (fromEpoch 1779426000), by decide +kernel⟩

/-- One probe of one is answered in an hour, and four of eleven in the next. -/
def unevenRows : List ProbeRow :=
  { nodeId := "peer-a", ts := 1779425999, rttMs := some 5, status := PeerStatus.alive } ::
    (List.range 11).map (fun i =>
      { nodeId := "peer-a", ts := 1779426000 + i, rttMs := none,
        status := if i < 4 then PeerStatus.alive else PeerStatus.dead })

/-- The mean is not the uptime, nor is the double nearest to the mean. -/
theorem hourly_buckets_mean_rounded :
    let now := fromEpoch 1779426010
    let buckets := hourlyUptimeBuckets unevenRows "peer-a" 2 now
    let mean := weightedMean ((hourCounts unevenRows "peer-a" 2 now List.length).zip buckets)
    let uptime := uptimePercent unevenRows "peer-a" (hoursWindow 2 now)
      (fromEpoch (currentHourStart now + 3599))
    (forall row, row ∈ unevenRows -> 0 <= row.ts) ∧ buckets ≠ [some 100, some (400 / 11)] ∧
      mean ≠ uptime ∧ mean.map toDouble ≠ uptime := by
  decide +kernel

end Liveness
end PanicMonitr
