import PanicMonitr.Foundation.Machine
import PanicMonitr.Store.LogStore

/-!
# Snapshot sequence numbers

`record_snapshot` numbers a row by the highest number among the own rows that are still
stored.  Retention deletes rows by their age, so the numbers go up for as long as it
leaves the row with the highest one.
-/

namespace PanicMonitr
namespace Store

open Foundation

variable {V : Type}

/-!
## The highest number
-/

def ownSeqs (s : LogStore V) : List Int :=
  (s.raw.filter (fun r => decide (r.peerNodeId = s.own))).filterMap RawRow.seq

/-- `COALESCE(MAX(seq), 0)` over the own rows. -/
def latestSeq (s : LogStore V) : Int :=
  ((ownSeqs s).max?).getD 0

theorem nextSeq_own (s : LogStore V) : nextSeq s.own s = latestSeq s + 1 := rfl

theorem mem_ownSeqs {s : LogStore V} {q : Int} :
    q ∈ ownSeqs s <-> exists r, r ∈ s.raw ∧ r.peerNodeId = s.own ∧ r.seq = some q := by
  simp only [ownSeqs, List.mem_filterMap, List.mem_filter, decide_eq_true_iff, and_assoc]

theorem le_latestSeq {s : LogStore V} {q : Int} (hq : q ∈ ownSeqs s) : q <= latestSeq s := by
  unfold latestSeq
  cases hmax : (ownSeqs s).max? with
  | none =>
      rw [List.max?_eq_none_iff.mp hmax] at hq
      cases hq
  | some m => exact (List.max?_eq_some_iff.mp hmax).right q hq

theorem latestSeq_mem {s : LogStore V} (hne : ownSeqs s ≠ []) : latestSeq s ∈ ownSeqs s := by
  unfold latestSeq
  cases hmax : (ownSeqs s).max? with
  | none => exact absurd (List.max?_eq_none_iff.mp hmax) hne
  | some m => exact (List.max?_eq_some_iff.mp hmax).left

theorem latestSeq_eq {s : LogStore V} {m : Int} (hmem : m ∈ ownSeqs s)
    (hmost : forall q, q ∈ ownSeqs s -> q <= m) : latestSeq s = m := by
  unfold latestSeq
  rw [List.max?_eq_some_iff.mpr ⟨hmem, hmost⟩]
  rfl

/-!
## Recording and retention
-/

inductive ServerEvent (V : Type) where
  | recordSnapshot (snap : Snapshot V) (now : Instant)
  | prune (now : Instant)

def ServerEvent.now : ServerEvent V -> Instant
  | recordSnapshot _ now => now
  | prune now => now

def serverStep (s : LogStore V) : ServerEvent V -> LogStore V
  | ServerEvent.recordSnapshot snap now => recordSnapshot snap now s
  | ServerEvent.prune now => (prune now s).1

def TopKept (s : LogStore V) : ServerEvent V -> Prop
  | ServerEvent.recordSnapshot _ _ => True
  | ServerEvent.prune now =>
      forall r, r ∈ s.raw -> r.peerNodeId = s.own -> r.seq = some (latestSeq s) ->
        epochOf (now - hours RAW_RETAIN_HOURS) <= r.ts

instance (s : LogStore V) (e : ServerEvent V) : Decidable (TopKept s e) :=
  match e with
  | ServerEvent.recordSnapshot _ _ => isTrue trivial
  | ServerEvent.prune now =>
      inferInstanceAs (Decidable (forall r, r ∈ s.raw -> r.peerNodeId = s.own ->
        r.seq = some (latestSeq s) -> epochOf (now - hours RAW_RETAIN_HOURS) <= r.ts))

theorem serverStep_own (s : LogStore V) (e : ServerEvent V) : (serverStep s e).own = s.own := by
  cases e <;> rfl

/-- The rows after a recording: the new one, and old ones of another second. -/
theorem mem_raw_recordSnapshot {snap : Snapshot V} {now : Instant} {s : LogStore V}
    {r : RawRow V} :
    r ∈ (recordSnapshot snap now s).raw <->
      (r ∈ s.raw ∧ rawKey r ≠ (s.own, epochOf now)) ∨
        r = { peerNodeId := s.own, ts := epochOf now, payload := snap,
              seq := some (latestSeq s + 1) } := by
  show r ∈ insertOrReplace rawKey s.raw _ <-> _
  rw [insertOrReplace, List.mem_append, List.mem_filter, decide_eq_true_iff,
    List.mem_singleton, nextSeq_own]
  rfl

theorem mem_raw_prune {now : Instant} {s : LogStore V} {r : RawRow V} :
    r ∈ (prune now s).1.raw <->
      r ∈ s.raw ∧ epochOf (now - hours RAW_RETAIN_HOURS) <= r.ts := by
  show r ∈ s.raw.filter _ <-> _
  rw [List.mem_filter, decide_eq_true_iff, Int.not_lt]

theorem mem_ownSeqs_recordSnapshot {snap : Snapshot V} {now : Instant} {s : LogStore V}
    {q : Int} (hq : q ∈ ownSeqs (recordSnapshot snap now s)) :
    q ∈ ownSeqs s ∨ q = latestSeq s + 1 := by
  rcases mem_ownSeqs.mp hq with ⟨r, hr, hown, hseq⟩
  rcases mem_raw_recordSnapshot.mp hr with ⟨hold, _⟩ | hnew
  · exact Or.inl (mem_ownSeqs.mpr ⟨r, hold, hown, hseq⟩)
  · rw [hnew] at hseq
    exact Or.inr (Option.some.inj hseq).symm

theorem latestSeq_recordSnapshot (snap : Snapshot V) (now : Instant) (s : LogStore V) :
    latestSeq (recordSnapshot snap now s) = latestSeq s + 1 := by
  apply latestSeq_eq
  · exact mem_ownSeqs.mpr ⟨_, mem_raw_recordSnapshot.mpr (Or.inr rfl), rfl, rfl⟩
  · intro q hq
    rcases mem_ownSeqs_recordSnapshot hq with hold | hnew
    · exact Int.le_add_one (le_latestSeq hold)
    · exact Int.le_of_eq hnew

theorem mem_ownSeqs_prune {now : Instant} {s : LogStore V} {q : Int}
    (hq : q ∈ ownSeqs (prune now s).1) : q ∈ ownSeqs s := by
  rcases mem_ownSeqs.mp hq with ⟨r, hr, hown, hseq⟩
  exact mem_ownSeqs.mpr ⟨r, (mem_raw_prune.mp hr).left, hown, hseq⟩

theorem latestSeq_prune {now : Instant} {s : LogStore V}
    (hkept : TopKept s (ServerEvent.prune now)) : latestSeq (prune now s).1 = latestSeq s := by
  by_cases hne : ownSeqs s = []
  · have hnone : ownSeqs (prune now s).1 = [] := by
      apply List.eq_nil_iff_forall_not_mem.mpr
      intro q hq
      have hold := mem_ownSeqs_prune hq
      rw [hne] at hold
      cases hold
    rw [latestSeq, latestSeq, hne, hnone]
  · rcases mem_ownSeqs.mp (latestSeq_mem hne) with ⟨r, hr, hown, hseq⟩
    apply latestSeq_eq
    · exact mem_ownSeqs.mpr
        ⟨r, mem_raw_prune.mpr ⟨hr, hkept r hr hown hseq⟩, hown, hseq⟩
    · exact fun q hq => le_latestSeq (mem_ownSeqs_prune hq)

theorem latestSeq_le_serverStep {s : LogStore V} {e : ServerEvent V} (hkept : TopKept s e) :
    latestSeq s <= latestSeq (serverStep s e) := by
  cases e with
  | recordSnapshot snap now =>
      show _ <= latestSeq (recordSnapshot snap now s)
      rw [latestSeq_recordSnapshot]
      exact Int.le_add_one (Int.le_refl _)
  | prune now => exact Int.le_of_eq (latestSeq_prune hkept).symm

/-!
## The numbers that are handed out
-/

/-- A store with the numbers `record_snapshot` has returned, newest first. -/
structure Sequencer (V : Type) where
  store : LogStore V
  clock : Instant
  returned : List Int

def Sequencer.step (s : Sequencer V) (e : ServerEvent V) : Sequencer V :=
  { store := serverStep s.store e
    clock := e.now
    returned :=
      match e with
      | ServerEvent.recordSnapshot _ _ => nextSeq s.store.own s.store :: s.returned
      | ServerEvent.prune _ => s.returned }

def sequencer (V : Type) : Machine (Sequencer V) (ServerEvent V) :=
  { start := fun s => s.returned = [], step := Sequencer.step }

/-- Each number is greater than all that were returned before it. -/
def Monotonic (s : Sequencer V) : Prop :=
  s.returned.Pairwise (fun later earlier => earlier < later)

/-- Time does not run backwards. -/
def Nondecreasing (s : Sequencer V) (e : ServerEvent V) : Prop :=
  s.clock <= e.now

instance (s : Sequencer V) (e : ServerEvent V) : Decidable (Nondecreasing s e) :=
  inferInstanceAs (Decidable (s.clock <= e.now))

structure Numbered (s : Sequencer V) : Prop where
  monotonic : Monotonic s
  stored : forall q, q ∈ s.returned -> q <= latestSeq s.store

theorem Numbered.step {s : Sequencer V} (h : Numbered s) {e : ServerEvent V}
    (hkept : TopKept s.store e) : Numbered (s.step e) := by
  have hlatest := latestSeq_le_serverStep hkept
  cases e with
  | recordSnapshot snap now =>
      constructor
      · apply List.pairwise_cons.mpr
        refine ⟨?_, h.monotonic⟩
        intro q hq
        rw [nextSeq_own]
        exact Int.lt_add_one_of_le (h.stored q hq)
      · intro q hq
        rcases List.mem_cons.mp hq with hnew | hold
        · show q <= latestSeq (recordSnapshot snap now s.store)
          rw [latestSeq_recordSnapshot, hnew, nextSeq_own]
        · exact Int.le_trans (h.stored q hold) hlatest
  | prune now => exact ⟨h.monotonic, fun q hq => Int.le_trans (h.stored q hq) hlatest⟩

/-- The numbers go up as long as retention never deletes the row with the highest one. -/
theorem seqs_monotonic {past : List (Sequencer V)} {s : Sequencer V}
    (hrun : (sequencer V).Run (fun s e => TopKept s.store e) past s) : Monotonic s := by
  have hstart : forall s : Sequencer V, (sequencer V).start s -> Numbered s := by
    intro s hs
    have hnil : s.returned = [] := hs
    constructor
    · rw [Monotonic, hnil]
      exact List.Pairwise.nil
    · intro q hq
      rw [hnil] at hq
      cases hq
  exact (hrun.invariant hstart (fun s e h hkept => h.step hkept)).monotonic

/-! Retention within two hours of the last recording, and after three. -/

def idleSnapshot : Snapshot Int where
  cpuPercent := none
  memPercent := none
  diskPercent := none
  netRecvBytes := none
  netSentBytes := none

def newSequencer : Sequencer Int where
  store :=
    { ownNodeId := "self", events := [], raw := [], buckets := [], daily := [] }
  clock := 0
  returned := []

theorem seqs_monotonic_hour :
    let s := (sequencer Int).exec newSequencer
      [ServerEvent.recordSnapshot idleSnapshot 0, ServerEvent.prune (hours 1),
        ServerEvent.recordSnapshot idleSnapshot (hours 1)]
    s.returned = [2, 1] ∧ Monotonic s :=
  ⟨by decide,
    seqs_monotonic (Machine.Run.exec (Machine.Run.start rfl)
      [ServerEvent.recordSnapshot idleSnapshot 0, ServerEvent.prune (hours 1),
        ServerEvent.recordSnapshot idleSnapshot (hours 1)]
      ⟨trivial, by decide, trivial, trivial⟩)⟩

/-- After a pause the first number is handed out again, for another snapshot. -/
theorem seqs_repeated :
    ¬ forall (past : List (Sequencer Int)) (s : Sequencer Int),
      (sequencer Int).Run Nondecreasing past s -> Monotonic s := by
  intro hclaim
  have hstart : (sequencer Int).Run Nondecreasing [] newSequencer := Machine.Run.start rfl
  have hmonotonic := hclaim _ _ (hstart.exec
    [ServerEvent.recordSnapshot idleSnapshot 0, ServerEvent.prune (hours 3),
      ServerEvent.recordSnapshot idleSnapshot (hours 3)]
    ⟨by decide, by decide, by decide, trivial⟩)
  have hreturned : ((sequencer Int).exec newSequencer
      [ServerEvent.recordSnapshot idleSnapshot 0, ServerEvent.prune (hours 3),
        ServerEvent.recordSnapshot idleSnapshot (hours 3)]).returned = [1, 1] := by decide
  rw [Monotonic, hreturned] at hmonotonic
  exact absurd hmonotonic (by decide)

end Store
end PanicMonitr
