import PanicMonitr.Store.Hourly
import PanicMonitr.Store.Ledger

/-!
# Samples between the tiers

Retention deletes raw rows by their age, whether or not a roll-up has counted them.  No
sample is lost for as long as the own rows that pruning deletes lie before the mark of the
roll-up, and that is the whole condition.
-/

namespace PanicMonitr
namespace Store

open Foundation

variable {V : Type}

def InOrder (w : Ledger V) (job : Job V) : Prop :=
  w.clock <= job.now

instance (w : Ledger V) (job : Job V) : Decidable (InOrder w job) :=
  inferInstanceAs (Decidable (w.clock <= job.now))

/-- The clock does not run backwards, and pruning only takes rows behind the mark. -/
def Covering (w : Ledger V) (job : Job V) : Prop :=
  w.clock <= job.now ∧
    match job with
    | Job.prune now => BehindMark now w.store
    | _ => True

instance (w : Ledger V) (job : Job V) : Decidable (Covering w job) := by
  unfold Covering
  cases job <;> infer_instance

/-- Every row alone in its second is still stored or was counted once, never twice. -/
def Conserved [DecidableEq V] (w : Ledger V) : Prop :=
  forall r, r ∈ w.recorded -> w.OwnSecond r ->
    (r ∈ w.store.raw ∨ w.timesCounted r = 1) ∧ w.timesCounted r <= 1

/-- Pruning at this time deletes no own raw row that was not counted. -/
def PrunesCounted [DecidableEq V] (w : Ledger V) (now : Instant) : Prop :=
  forall r, r ∈ w.store.raw -> r.peerNodeId = w.store.own -> r ∉ (prune now w.store).1.raw ->
    w.timesCounted r = 1

section Runs

variable [LinearOrder V] (mean : List V -> V) (readable : EventRow -> Bool)

theorem booked_of_reachable {guard : Ledger V -> Job V -> Prop}
    (hguard : forall w job, guard w job -> w.clock <= job.now) {w : Ledger V}
    (hreach : (ledgers mean readable).Reachable guard w) : Booked w := by
  refine hreach.invariant (I := Booked) (fun _ hw => booked_start hw) ?_
  intro w job hbooked hjob
  exact booked_step mean readable hbooked (hguard w job hjob)

theorem kept_of_reachable {w : Ledger V}
    (hreach : (ledgers mean readable).Reachable Covering w) : Kept w := by
  have hboth : Booked w ∧ Kept w := by
    refine hreach.invariant (I := fun w => Booked w ∧ Kept w) ?_ ?_
    · intro w hw
      exact ⟨booked_start hw, kept_start hw⟩
    · intro w job h hjob
      refine ⟨booked_step mean readable h.left hjob.left,
        kept_step mean readable h.right h.left ?_⟩
      intro now hprune
      rw [hprune] at hjob
      exact hjob.right
  exact hboth.right

theorem prunesCounted_iff {w : Ledger V} (h : Booked w) (now : Instant) :
    PrunesCounted w now <-> BehindMark now w.store := by
  constructor
  · intro hprunes r hr hown hold
    apply (h.counted r hr hown).mp
    apply h.timesCounted_eq.mp
    apply hprunes r hr hown
    intro hleft
    exact Int.not_le.mpr hold (mem_raw_prune.mp hleft).right
  · intro hcovers r hr hown hgone
    apply h.timesCounted_eq.mpr
    apply (h.counted r hr hown).mpr
    apply hcovers r hr hown
    apply Int.not_le.mp
    intro hyoung
    exact hgone (mem_raw_prune.mpr ⟨hr, hyoung⟩)

/--
Whatever the order and spacing of the jobs: while pruning stays behind the mark nothing
is lost, and it deletes an uncounted row exactly when it does not.
-/
theorem no_sample_lost {w : Ledger V}
    (hreach : (ledgers mean readable).Reachable Covering w) :
    Conserved w ∧ forall now, w.clock <= now -> (PrunesCounted w now <-> BehindMark now w.store) := by
  have hbooked := booked_of_reachable mean readable (fun _ _ hjob => hjob.left) hreach
  have hkept := kept_of_reachable mean readable hreach
  refine ⟨?_, fun now _ => prunesCounted_iff hbooked now⟩
  intro r hr hown
  refine ⟨?_, hbooked.timesCounted_le r⟩
  rw [hbooked.timesCounted_eq]
  exact hkept r (lastOf_ownSecond hr hown)

end Runs

/-!
A snapshot at the epoch, and retention three hours later: with a roll-up in between, and
after a pause in which no job ran.
-/

def newLedger : Ledger Int where
  store := { ownNodeId := "", events := [], raw := [], buckets := [], daily := [] }
  clock := 0
  recorded := []
  counted := []

theorem newLedger_start : newLedger.Start where
  raw := fun _ hr => nomatch hr
  buckets := rfl
  recorded := rfl
  counted := rfl

theorem no_sample_lost_rolled :
    let w := (ledgers integerMean (fun _ => true)).exec newLedger
      [Job.recordSnapshot idleSnapshot 0, Job.rollUp5min (hours 1), Job.prune (hours 3)]
    (w.store.raw = [] ∧ w.counted.map Prod.fst = [0]) ∧ Conserved w ∧
      forall now, w.clock <= now -> (PrunesCounted w now <-> BehindMark now w.store) :=
  ⟨by decide,
    no_sample_lost integerMean (fun _ => true)
      ⟨_, Machine.Run.exec (Machine.Run.start newLedger_start)
        [Job.recordSnapshot idleSnapshot 0, Job.rollUp5min (hours 1), Job.prune (hours 3)]
        (by decide)⟩⟩

/-- After the pause retention runs first, and takes a row that no roll-up has seen. -/
theorem sample_lost_after_pause :
    ¬ forall (mean : List Int -> Int) (readable : EventRow -> Bool) (w : Ledger Int),
      (ledgers mean readable).Reachable InOrder w ->
        Conserved w ∧ forall now, w.clock <= now -> PrunesCounted w now := by
  intro hclaim
  have hrun : (ledgers integerMean (fun _ => true)).Run InOrder [] newLedger :=
    Machine.Run.start newLedger_start
  have hconserved := (hclaim _ _ _ ⟨_, hrun.exec
    [Job.recordSnapshot idleSnapshot 0, Job.prune (hours 3)] (by decide)⟩).left
  have hlost := (hconserved (recordedRow idleSnapshot 0 newLedger.store)
    (by decide) (by unfold Ledger.OwnSecond; decide)).left
  revert hlost
  decide

end Store
end PanicMonitr
