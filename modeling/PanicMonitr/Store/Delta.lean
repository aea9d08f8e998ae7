import PanicMonitr.Store.Sequence
import Mathlib.Data.List.Perm.Subperm

/-!
# Delta pulls

A client asks for the snapshots above its cursor and moves the cursor to the highest
number the answer names.  The answer is capped, and it may be lost on either way; between
the answer and its arrival the server goes on recording and pruning.
-/

namespace PanicMonitr
namespace Store

open Foundation

variable {V : Type}

/-!
## The answer
-/

/-- The default of `max_entries`. -/
def MAX_ENTRIES : Nat := 360

/-- An item of `entries`, without the `timestamp` of the payload. -/
structure DeltaEntry (V : Type) where
  seq : Int
  cpuPercent : Option V
  memPercent : Option V
  diskPercent : Option V
  deriving DecidableEq

def entryOf (q : Int) (r : RawRow V) : DeltaEntry V :=
  { seq := q
    cpuPercent := r.payload.cpuPercent
    memPercent := r.payload.memPercent
    diskPercent := r.payload.diskPercent }

structure Delta (V : Type) where
  latestSeq : Int
  entries : List (DeltaEntry V)
  deriving DecidableEq

/-- The entry has the number of the row, and the readings of its payload. -/
structure DeltaEntry.Shows (entry : DeltaEntry V) (q : Int) (r : RawRow V) : Prop where
  seq : entry.seq = q
  cpuPercent : entry.cpuPercent = r.payload.cpuPercent
  memPercent : entry.memPercent = r.payload.memPercent
  diskPercent : entry.diskPercent = r.payload.diskPercent

theorem shows_iff {entry : DeltaEntry V} {q : Int} {r : RawRow V} :
    entry.Shows q r <-> entry = entryOf q r := by
  constructor
  · rintro ⟨rfl, hcpu, hmem, hdisk⟩
    unfold entryOf
    rw [← hcpu, ← hmem, ← hdisk]
  · rintro rfl
    exact ⟨rfl, rfl, rfl, rfl⟩

def entriesAbove (bound : Int) (s : LogStore V) : List (DeltaEntry V) :=
  (s.raw.filter (fun r => decide (r.peerNodeId = s.own))).filterMap (fun r =>
    r.seq.bind (fun q => if bound < q then some (entryOf q r) else none))

/-- `get_delta_since_seq(since_seq)` -/
def getDeltaSinceSeq (sinceSeq : Int) (s : LogStore V) : Delta V :=
  let latest := latestSeq s
  let effectiveSince := max sinceSeq (latest - MAX_ENTRIES)
  { latestSeq := latest
    entries := (orderBy DeltaEntry.seq (entriesAbove effectiveSince s)).take MAX_ENTRIES }

theorem mem_entriesAbove {bound : Int} {s : LogStore V} {entry : DeltaEntry V} :
    entry ∈ entriesAbove bound s <->
      exists r q, (r ∈ s.raw ∧ r.peerNodeId = s.own) ∧ r.seq = some q ∧ bound < q ∧
        entry = entryOf q r := by
  unfold entriesAbove
  rw [List.mem_filterMap]
  constructor
  · intro h
    rcases h with ⟨r, hr, hentry⟩
    rw [List.mem_filter, decide_eq_true_iff] at hr
    rcases Option.bind_eq_some_iff.mp hentry with ⟨q, hq, hentry⟩
    by_cases hbound : bound < q
    · rw [if_pos hbound] at hentry
      exact ⟨r, q, hr, hq, hbound, (Option.some.inj hentry).symm⟩
    · rw [if_neg hbound] at hentry
      cases hentry
  · intro h
    rcases h with ⟨r, q, hr, hq, hbound, rfl⟩
    refine ⟨r, ?_, ?_⟩
    · rw [List.mem_filter, decide_eq_true_iff]
      exact hr
    · rw [hq, Option.bind_some, if_pos hbound]

theorem seqs_entriesAbove (bound : Int) (s : LogStore V) :
    (entriesAbove bound s).map DeltaEntry.seq =
      (ownSeqs s).filter (fun q => decide (bound < q)) := by
  unfold entriesAbove ownSeqs
  generalize s.raw.filter (fun r => decide (r.peerNodeId = s.own)) = rows
  induction rows with
  | nil => rfl
  | cons r rows ih =>
      cases hseq : r.seq with
      | none =>
          rw [List.filterMap_cons_none (by rw [hseq]; rfl),
            List.filterMap_cons_none hseq, ih]
      | some q =>
          rw [List.filterMap_cons_some hseq]
          by_cases hbound : bound < q
          · rw [List.filterMap_cons_some (b := entryOf q r)
              (by rw [hseq, Option.bind_some, if_pos hbound]), List.map_cons,
              List.filter_cons_of_pos (p := fun q => decide (bound < q))
                (decide_eq_true hbound), ih]
            rfl
          · rw [List.filterMap_cons_none (by rw [hseq, Option.bind_some, if_neg hbound]),
              List.filter_cons_of_neg (by simpa using hbound), ih]

/-!
## The table of numbers

No two own rows share a number, and the numbers start at 1; then the cap on the bound
already is the limit of the query.
-/

structure SeqTable (s : LogStore V) : Prop where
  distinct : (ownSeqs s).Nodup
  positive : forall q, q ∈ ownSeqs s -> 0 < q

theorem SeqTable.latestSeq_nonneg {s : LogStore V} (h : SeqTable s) : 0 <= latestSeq s := by
  by_cases hne : ownSeqs s = []
  · rw [latestSeq, hne]
    exact Int.le_refl 0
  · exact Int.le_of_lt (h.positive _ (latestSeq_mem hne))

theorem ownSeqs_recordSnapshot (snap : Snapshot V) (now : Instant) (s : LogStore V) :
    exists kept, kept.Sublist (ownSeqs s) ∧
      ownSeqs (recordSnapshot snap now s) = kept ++ [latestSeq s + 1] := by
  refine ⟨((s.raw.filter (fun r => decide (rawKey r ≠ (s.own, epochOf now)))).filter
    (fun r => decide (r.peerNodeId = s.own))).filterMap RawRow.seq, ?_, ?_⟩
  · exact (List.filter_sublist.filter _).filterMap _
  · show ((insertOrReplace rawKey s.raw _).filter (fun r => decide (r.peerNodeId = s.own))
      ).filterMap RawRow.seq = _
    rw [insertOrReplace, List.filter_append, List.filterMap_append,
      List.filter_cons_of_pos (p := fun r : RawRow V => decide (r.peerNodeId = s.own))
        (decide_eq_true rfl)]
    rfl

theorem SeqTable.serverStep {s : LogStore V} (h : SeqTable s) (e : ServerEvent V) :
    SeqTable (serverStep s e) := by
  cases e with
  | recordSnapshot snap now =>
      rcases ownSeqs_recordSnapshot snap now s with ⟨kept, hsub, heq⟩
      constructor
      · show (ownSeqs (recordSnapshot snap now s)).Nodup
        rw [heq, List.nodup_append]
        refine ⟨hsub.nodup h.distinct, List.nodup_singleton _, ?_⟩
        intro q hq q' hq' hsame
        rw [List.mem_singleton] at hq'
        have hle := le_latestSeq (hsub.mem hq)
        omega
      · intro q hq
        rcases mem_ownSeqs_recordSnapshot hq with hold | hnew
        · exact h.positive q hold
        · have hnonneg := h.latestSeq_nonneg
          omega
  | prune now =>
      constructor
      · show (ownSeqs (prune now s).1).Nodup
        exact ((List.filter_sublist.filter _).filterMap _).nodup h.distinct
      · exact fun q hq => h.positive q (mem_ownSeqs_prune hq)

theorem length_le_of_interval {qs : List Int} (top : Int) {n : Nat} (hnodup : qs.Nodup)
    (hin : forall q, q ∈ qs -> top - n < q ∧ q <= top) : qs.length <= n := by
  have hsub : qs ⊆ (List.range n).map (fun i : Nat => top - i) := by
    intro q hq
    rcases hin q hq with ⟨hlow, hhigh⟩
    rw [List.mem_map]
    exact ⟨(top - q).toNat, by rw [List.mem_range]; omega, by omega⟩
  have hle := (List.subperm_of_subset hnodup hsub).length_le
  rwa [List.length_map, List.length_range] at hle

section Answer

variable {s : LogStore V} (h : SeqTable s) (sinceSeq : Int)
include h

theorem SeqTable.entries_eq : (getDeltaSinceSeq sinceSeq s).entries =
    orderBy DeltaEntry.seq (entriesAbove (max sinceSeq (latestSeq s - MAX_ENTRIES)) s) := by
  apply List.take_of_length_le
  rw [(orderBy_perm DeltaEntry.seq _).length_eq, ← List.length_map DeltaEntry.seq,
    seqs_entriesAbove]
  apply length_le_of_interval (latestSeq s) (h.distinct.filter _)
  intro q hq
  rw [List.mem_filter, decide_eq_true_iff] at hq
  exact ⟨Int.lt_of_le_of_lt (Int.le_max_right _ _) hq.right, le_latestSeq hq.left⟩

theorem SeqTable.mem_entries {entry : DeltaEntry V} :
    entry ∈ (getDeltaSinceSeq sinceSeq s).entries <->
      exists r q, (r ∈ s.raw ∧ r.peerNodeId = s.own) ∧ r.seq = some q ∧
        max sinceSeq (latestSeq s - MAX_ENTRIES) < q ∧ entry = entryOf q r := by
  rw [h.entries_eq, mem_orderBy, mem_entriesAbove]

theorem SeqTable.entries_increasing :
    ((getDeltaSinceSeq sinceSeq s).entries.map DeltaEntry.seq).Pairwise
      (fun a b => a < b) := by
  rw [h.entries_eq]
  have hsorted := orderBy_sorted DeltaEntry.seq
    (entriesAbove (max sinceSeq (latestSeq s - MAX_ENTRIES)) s)
  have hnodup : ((orderBy DeltaEntry.seq (entriesAbove
      (max sinceSeq (latestSeq s - MAX_ENTRIES)) s)).map DeltaEntry.seq).Nodup := by
    rw [((orderBy_perm DeltaEntry.seq _).map DeltaEntry.seq).nodup_iff, seqs_entriesAbove]
    exact h.distinct.filter _
  have hle := List.pairwise_map.mpr hsorted
  refine (hle.and hnodup).imp ?_
  intro a b hab
  exact lt_of_le_of_ne hab.left hab.right

end Answer

/-!
## Pulls
-/

/-- A pull in flight, with the rows the server had when it answered. -/
inductive PullPhase (V : Type) where
  | asked (sinceSeq : Int)
  | answered (sinceSeq : Int) (stored : List (RawRow V)) (delta : Delta V)

/-- A server and one client; `appended` has every entry put into `stats_history`. -/
structure DeltaPull (V : Type) where
  store : LogStore V
  lastPulledSeq : Int
  appended : List (DeltaEntry V)
  pull : Option (PullPhase V)

inductive DeltaEvent (V : Type) where
  | server (e : ServerEvent V)
  | ask
  | answer
  | receive
  | lose

namespace DeltaPull

/-- The client asks with its cursor, one pull at a time. -/
def ask (s : DeltaPull V) : DeltaPull V :=
  match s.pull with
  | none => { s with pull := some (PullPhase.asked s.lastPulledSeq) }
  | some _ => s

def answer (s : DeltaPull V) : DeltaPull V :=
  match s.pull with
  | some (PullPhase.asked sinceSeq) =>
      { s with
        pull := some (PullPhase.answered sinceSeq s.store.raw
          (getDeltaSinceSeq sinceSeq s.store)) }
  | _ => s

/-- The end of `_pull_one_peer_dashboard_inner` when the answer arrives. -/
def receive (s : DeltaPull V) : DeltaPull V :=
  match s.pull with
  | some (PullPhase.answered _ _ delta) =>
      { s with
        appended := s.appended ++ delta.entries
        lastPulledSeq := delta.latestSeq
        pull := none }
  | _ => s

def step (s : DeltaPull V) : DeltaEvent V -> DeltaPull V
  | DeltaEvent.server e => { s with store := serverStep s.store e }
  | DeltaEvent.ask => s.ask
  | DeltaEvent.answer => s.answer
  | DeltaEvent.receive => s.receive
  | DeltaEvent.lose => { s with pull := none }

structure Start (s : DeltaPull V) : Prop where
  table : SeqTable s.store
  cursor : s.lastPulledSeq = 0
  appended : s.appended = []
  pull : s.pull = none

/-- Retention on the server leaves the row with the highest number. -/
def TopKept (s : DeltaPull V) : DeltaEvent V -> Prop
  | DeltaEvent.server e => Store.TopKept s.store e
  | _ => True

instance (s : DeltaPull V) (e : DeltaEvent V) : Decidable (s.TopKept e) :=
  match e with
  | DeltaEvent.server e => inferInstanceAs (Decidable (Store.TopKept s.store e))
  | DeltaEvent.ask | DeltaEvent.answer | DeltaEvent.receive | DeltaEvent.lose =>
      isTrue trivial

end DeltaPull

def deltaPulls (V : Type) : Machine (DeltaPull V) (DeltaEvent V) :=
  { start := DeltaPull.Start, step := DeltaPull.step }

/-!
## What is delivered
-/

/-- What an answer gives for the rows it was made of. -/
structure Answers (own : String) (sinceSeq : Int) (stored : List (RawRow V))
    (delta : Delta V) : Prop where
  increasing : (delta.entries.map DeltaEntry.seq).Pairwise (fun a b => a < b)
  known : forall r q, r ∈ stored -> r.peerNodeId = own -> r.seq = some q -> q <= delta.latestSeq
  mem : forall entry, entry ∈ delta.entries <-> exists r q, (r ∈ stored ∧ r.peerNodeId = own) ∧
    r.seq = some q ∧ max sinceSeq (delta.latestSeq - MAX_ENTRIES) < q ∧ entry = entryOf q r

theorem SeqTable.answers {s : LogStore V} (h : SeqTable s) (sinceSeq : Int) :
    Answers s.own sinceSeq s.raw (getDeltaSinceSeq sinceSeq s) :=
  ⟨h.entries_increasing sinceSeq,
    fun r _ hr hown hq => le_latestSeq (mem_ownSeqs.mpr ⟨r, hr, hown, hq⟩),
    fun _ => h.mem_entries sinceSeq⟩

theorem Answers.within {own : String} {sinceSeq : Int} {stored : List (RawRow V)}
    {delta : Delta V} (h : Answers own sinceSeq stored delta) {q : Int}
    (hq : q ∈ delta.entries.map DeltaEntry.seq) : sinceSeq < q ∧ q <= delta.latestSeq := by
  rcases List.mem_map.mp hq with ⟨entry, hentry, rfl⟩
  rcases (h.mem entry).mp hentry with ⟨r, q, hr, hseq, hbound, rfl⟩
  exact ⟨Int.lt_of_le_of_lt (Int.le_max_left _ _) hbound, h.known r q hr.left hr.right hseq⟩

structure Answered (s : DeltaPull V) (sinceSeq : Int) (stored : List (RawRow V))
    (delta : Delta V) : Prop where
  since : sinceSeq = s.lastPulledSeq
  answers : Answers s.store.own sinceSeq stored delta
  latest : delta.latestSeq = latestSeq { s.store with raw := stored }
  cursor : s.lastPulledSeq <= delta.latestSeq
  behind : delta.latestSeq <= latestSeq s.store
  /-- What has been recorded since then has a higher number. -/
  stored : forall r q, r ∈ s.store.raw -> r.peerNodeId = s.store.own -> r.seq = some q ->
    q <= delta.latestSeq -> r ∈ stored

def Pulling (s : DeltaPull V) : PullPhase V -> Prop
  | PullPhase.asked sinceSeq => sinceSeq = s.lastPulledSeq
  | PullPhase.answered sinceSeq stored delta => Answered s sinceSeq stored delta

structure Delivered (s : DeltaPull V) : Prop where
  table : SeqTable s.store
  increasing : (s.appended.map DeltaEntry.seq).Pairwise (fun a b => a < b)
  behind : forall q, q ∈ s.appended.map DeltaEntry.seq -> q <= s.lastPulledSeq
  known : s.lastPulledSeq <= latestSeq s.store
  covered : forall r q, r ∈ s.store.raw -> r.peerNodeId = s.store.own -> r.seq = some q ->
    s.lastPulledSeq - MAX_ENTRIES < q -> q <= s.lastPulledSeq -> entryOf q r ∈ s.appended
  pulling : forall phase, s.pull = some phase -> Pulling s phase

theorem Delivered.start {s : DeltaPull V} (h : s.Start) : Delivered s := by
  constructor
  · exact h.table
  · rw [h.appended]
    exact List.Pairwise.nil
  · intro q hq
    rw [h.appended] at hq
    cases hq
  · rw [h.cursor]
    exact h.table.latestSeq_nonneg
  · intro r q hr hown hq _ hle
    rw [h.cursor] at hle
    exact absurd (h.table.positive q (mem_ownSeqs.mpr ⟨r, hr, hown, hq⟩)) (Int.not_lt.mpr hle)
  · intro phase hphase
    rw [h.pull] at hphase
    cases hphase

theorem mem_raw_of_serverStep {s : LogStore V} {e : ServerEvent V} {r : RawRow V} {q : Int}
    (hr : r ∈ (serverStep s e).raw) (hq : r.seq = some q) (hle : q <= latestSeq s) :
    r ∈ s.raw := by
  cases e with
  | recordSnapshot snap now =>
      rcases mem_raw_recordSnapshot.mp hr with ⟨hold, _⟩ | rfl
      · exact hold
      · have hnew := Option.some.inj hq
        omega
  | prune now => exact (mem_raw_prune.mp hr).left

theorem Delivered.server {s : DeltaPull V} (h : Delivered s) {e : ServerEvent V}
    (hkept : TopKept s.store e) :
    Delivered { s with store := serverStep s.store e } := by
  have hlatest := latestSeq_le_serverStep hkept
  have hown : (serverStep s.store e).own = s.store.own := serverStep_own s.store e
  constructor
  · exact h.table.serverStep e
  · exact h.increasing
  · exact h.behind
  · exact Int.le_trans h.known hlatest
  · intro r q hr hr' hq hlow hle
    have hold := mem_raw_of_serverStep hr hq (Int.le_trans hle h.known)
    exact h.covered r q hold (hr'.trans hown) hq hlow hle
  · intro phase hphase
    have hpulling := h.pulling phase hphase
    cases phase with
    | asked sinceSeq => exact hpulling
    | answered sinceSeq stored delta =>
        constructor
        · exact hpulling.since
        · show Answers (serverStep s.store e).own sinceSeq stored delta
          rw [hown]
          exact hpulling.answers
        · rw [hpulling.latest]
          cases e <;> rfl
        · exact hpulling.cursor
        · exact Int.le_trans hpulling.behind hlatest
        · intro r q hr hr' hq hle
          have hold := mem_raw_of_serverStep hr hq (Int.le_trans hle hpulling.behind)
          exact hpulling.stored r q hold (hr'.trans hown) hq hle

theorem Delivered.ask {s : DeltaPull V} (h : Delivered s) : Delivered s.ask := by
  unfold DeltaPull.ask
  split
  · refine ⟨h.table, h.increasing, h.behind, h.known, h.covered, ?_⟩
    intro phase hphase
    cases hphase
    rfl
  · exact h

theorem Delivered.answer {s : DeltaPull V} (h : Delivered s) : Delivered s.answer := by
  unfold DeltaPull.answer
  split
  · rename_i sinceSeq hpull
    have hsince : sinceSeq = s.lastPulledSeq := h.pulling _ hpull
    refine ⟨h.table, h.increasing, h.behind, h.known, h.covered, ?_⟩
    intro phase hphase
    cases hphase
    exact ⟨hsince, h.table.answers sinceSeq, rfl, h.known, Int.le_refl _,
      fun r _ hr _ _ _ => hr⟩
  · exact h

theorem Delivered.receive {s : DeltaPull V} (h : Delivered s) : Delivered s.receive := by
  unfold DeltaPull.receive
  split
  · rename_i sinceSeq stored delta hpull
    have hanswered : Answered s sinceSeq stored delta := h.pulling _ hpull
    have hsince := hanswered.since
    have hcursor := hanswered.cursor
    constructor
    · exact h.table
    · rw [List.map_append, List.pairwise_append]
      refine ⟨h.increasing, hanswered.answers.increasing, ?_⟩
      intro q hq q' hq'
      have hold := h.behind q hq
      have hnew := (hanswered.answers.within hq').left
      omega
    · intro q hq
      rw [List.map_append, List.mem_append] at hq
      rcases hq with hold | hnew
      · exact Int.le_trans (h.behind q hold) hcursor
      · exact (hanswered.answers.within hnew).right
    · exact hanswered.behind
    · intro r q hr hown hq hlow hle
      have hthere : r ∈ stored := hanswered.stored r q hr hown hq hle
      have hlow' : delta.latestSeq - MAX_ENTRIES < q := hlow
      by_cases hnew : sinceSeq < q
      · exact List.mem_append_right _ ((hanswered.answers.mem _).mpr
          ⟨r, q, ⟨hthere, hown⟩, hq, max_lt hnew hlow', rfl⟩)
      · exact List.mem_append_left _
          (h.covered r q hr hown hq (by omega) (by omega))
    · intro phase hphase
      cases hphase
  · exact h

theorem Delivered.step {s : DeltaPull V} (h : Delivered s) {e : DeltaEvent V}
    (hkept : s.TopKept e) : Delivered (s.step e) := by
  cases e with
  | server e => exact h.server hkept
  | ask => exact h.ask
  | answer => exact h.answer
  | receive => exact h.receive
  | lose =>
      refine ⟨h.table, h.increasing, h.behind, h.known, h.covered, ?_⟩
      intro phase hphase
      cases hphase

/-- What the arrival of an answer does to the client. -/
structure PullEffect (s : DeltaPull V) (sinceSeq : Int) (stored : List (RawRow V))
    (delta : Delta V) : Prop where
  since : sinceSeq = s.lastPulledSeq
  /-- The cursor moves to the highest number the server had. -/
  cursor : (s.step DeltaEvent.receive).lastPulledSeq = latestSeq { s.store with raw := stored }
  /-- What comes are the rows above the old cursor and within the cap, and nothing else. -/
  appended : forall entry, entry ∈ (s.step DeltaEvent.receive).appended <->
    entry ∈ s.appended ∨ exists r q, r ∈ stored ∧ r.peerNodeId = s.store.own ∧
      r.seq = some q ∧ sinceSeq < q ∧
        (s.step DeltaEvent.receive).lastPulledSeq - MAX_ENTRIES < q ∧ entry.Shows q r

structure OnceEach (s : DeltaPull V) : Prop where
  increasing : (s.appended.map DeltaEntry.seq).Pairwise (fun a b => a < b)
  behind : forall entry, entry ∈ s.appended -> entry.seq <= s.lastPulledSeq
  /-- The cursor has skipped no row that is stored and not too far behind it. -/
  unskipped : forall r q, r ∈ s.store.raw -> r.peerNodeId = s.store.own -> r.seq = some q ->
    s.lastPulledSeq - MAX_ENTRIES < q -> q <= s.lastPulledSeq ->
      exists entry, entry ∈ s.appended ∧ entry.Shows q r
  pulled : forall sinceSeq stored delta,
    s.pull = some (PullPhase.answered sinceSeq stored delta) ->
      PullEffect s sinceSeq stored delta

theorem Answered.effect {s : DeltaPull V} {sinceSeq : Int} {stored : List (RawRow V)}
    {delta : Delta V} (h : Answered s sinceSeq stored delta)
    (hpull : s.pull = some (PullPhase.answered sinceSeq stored delta)) :
    PullEffect s sinceSeq stored delta := by
  have hreceive : s.step DeltaEvent.receive =
      { s with
        appended := s.appended ++ delta.entries
        lastPulledSeq := delta.latestSeq
        pull := none } := by
    show s.receive = _
    unfold DeltaPull.receive
    rw [hpull]
  constructor
  · exact h.since
  · rw [hreceive]
    exact h.latest
  · intro entry
    rw [hreceive]
    show entry ∈ s.appended ++ delta.entries <-> _
    rw [List.mem_append, h.answers.mem]
    simp only [max_lt_iff, shows_iff, and_assoc]

/--
Over every run whose retention leaves the highest number: the delivered numbers go up, the
cursor follows the numbers of the server and skips none of them, and a pull delivers just the
rows above its cursor and below the cap.
-/
theorem deltas_exactly_once {past : List (DeltaPull V)} {s : DeltaPull V}
    (hrun : (deltaPulls V).Run DeltaPull.TopKept past s) : OnceEach s := by
  have h : Delivered s := hrun.invariant (fun s hs => Delivered.start hs)
    (fun s e h hkept => h.step hkept)
  constructor
  · exact h.increasing
  · exact fun entry hentry => h.behind entry.seq (List.mem_map_of_mem hentry)
  · exact fun r q hr hown hq hlow hle =>
      ⟨entryOf q r, h.covered r q hr hown hq hlow hle, shows_iff.mpr rfl⟩
  · intro sinceSeq stored delta hpull
    have hanswered : Answered s sinceSeq stored delta := h.pulling _ hpull
    exact hanswered.effect hpull

/-! A lost answer, a second recording in one second, and retention between two pulls. -/

def newDeltaPull : DeltaPull Int where
  store := newSequencer.store
  lastPulledSeq := 0
  appended := []
  pull := none

def recordAt (now : Instant) : DeltaEvent Int :=
  DeltaEvent.server (ServerEvent.recordSnapshot idleSnapshot now)

def pruneAt (now : Instant) : DeltaEvent Int :=
  DeltaEvent.server (ServerEvent.prune now)

def deltaScript : List (DeltaEvent Int) :=
  [recordAt 0, DeltaEvent.ask, DeltaEvent.answer, DeltaEvent.lose, DeltaEvent.ask,
    recordAt 10000000, DeltaEvent.answer, recordAt 10000001, DeltaEvent.receive,
    pruneAt 20000000, DeltaEvent.ask, DeltaEvent.answer]

theorem deltas_exactly_once_script :
    let s := (deltaPulls Int).exec newDeltaPull deltaScript
    s.appended.map DeltaEntry.seq = [1, 2] ∧ s.lastPulledSeq = 2 ∧
      (s.step DeltaEvent.receive).appended.map DeltaEntry.seq = [1, 2, 3] ∧
        (s.step DeltaEvent.receive).lastPulledSeq = 3 ∧ OnceEach s := by
  have hstart : newDeltaPull.Start := by
    refine ⟨⟨List.nodup_nil, ?_⟩, rfl, rfl, rfl⟩
    intro q hq
    cases hq
  have hrun : (deltaPulls Int).Run DeltaPull.TopKept [] newDeltaPull :=
    Machine.Run.start hstart
  exact ⟨by decide, by decide, by decide, by decide,
    deltas_exactly_once (hrun.exec deltaScript (by decide))⟩

end Store
end PanicMonitr
