import PanicMonitr.Liveness.RebuildNotes

/-!
# Rebuilds one at a time

An invariant ties the engine to its record: the lock and the stamp are what the last
rebuild left, and no counter is above the failures on record.  What the record says of
rebuilds and of the tasks behind them follows.
-/

namespace PanicMonitr
namespace Liveness

open Foundation

/-!
## The invariant
-/

namespace RefreshState

section Law

variable {node : Type} {cfg : RefreshConfig}

/-- The engine agrees with its record. -/
structure Accounted (cfg : RefreshConfig) (s : RefreshState node) (notes : List Note) : Prop where
  lawful : Lawful cfg notes
  building : s.building = if underWay notes = true then 1 else 0
  stamp : s.lastIrohRebuild = lastEnd notes
  sinceSuccess : forall i, s.failuresOf i <= failuresSince (isSuccess i) i notes
  known : Note.reloaded ∉ notes -> forall i, s.Refers i -> i ∈ s.peers
  sinceFresh : forall i, i ∈ s.peers ->
    s.failuresOf i <= failuresSince (isFresh i) i notes
  traced : forall task, task ∈ s.rebuilds ->
    exists i status current, Note.scheduled task.triggerPeerId i status current ∈ notes
  reset : forall now, notes.head? = some (Note.ended now true) ->
    forall i, i ∈ s.peers -> s.failuresOf i = 0

theorem isSuccess_failed (i j : Nat) : isSuccess i (Note.failed j) = false :=
  decide_eq_false (by simp)

theorem isFresh_failed (i j : Nat) : isFresh i (Note.failed j) = false :=
  isSuccess_failed i j

theorem failuresSince_failed {stops : Note -> Bool} {i j : Nat}
    (h : stops (Note.failed i) = false) (notes : List Note) :
    failuresSince stops j (Note.failed i :: notes) =
      (if j = i then 1 else 0) + failuresSince stops j notes := by
  rw [failuresSince, if_neg (by rw [h]; exact Bool.false_ne_true)]
  by_cases hij : j = i
  · rw [if_pos hij, if_pos (by rw [hij])]
  · rw [if_neg hij, if_neg (fun heq => hij (Note.failed.inj heq).symm)]

theorem failuresSince_other {stops : Note -> Bool} {j : Nat} {note : Note}
    (h : stops note = false) (hnote : note ≠ Note.failed j) (notes : List Note) :
    failuresSince stops j (note :: notes) = failuresSince stops j notes := by
  rw [failuresSince, if_neg (by rw [h]; exact Bool.false_ne_true), if_neg hnote, Nat.zero_add]

theorem accounted_start {w : Recorded node} (hstart : (recorded node cfg).start w) :
    Accounted cfg w.engine w.notes := by
  rcases hstart with ⟨hstart, hzero, hnotes⟩
  have hcounters : forall i, w.engine.failuresOf i = 0 := by
    intro i
    unfold failuresOf
    cases hpeer : w.engine.objects[i]? with
    | none => rfl
    | some peer => exact hzero peer (List.mem_of_getElem? hpeer)
  rw [hnotes]
  constructor
  · exact trivial
  · unfold RefreshState.building
    rw [hstart.idle.rebuilds]
    rfl
  · exact hstart.fresh.left
  · intro i
    rw [hcounters i]
    exact Nat.zero_le _
  · intro _ i hrefers
    rcases hrefers with ⟨nodeId, hrunning⟩ | hdevice
    · rw [hstart.idle.pulls] at hrunning
      cases hrunning
    · exact hdevice
  · intro i _
    rw [hcounters i]
    exact Nat.zero_le _
  · intro task htask
    rw [hstart.idle.rebuilds] at htask
    cases htask
  · intro now hhead
    cases hhead

section Step

variable {s s' : RefreshState node} {new notes : List Note}

theorem Noted.devices (h : Noted cfg s s' new) (hreload : Note.reloaded ∉ new) :
    s'.devices = s.devices := by
  cases h with
  | quiet hkept _ => exact hkept.devices
  | reloaded _ _ _ _ => exact absurd List.mem_cons_self hreload
  | succeeded i hkept _ => exact hkept.devices
  | failed i hkept _ => exact hkept.devices
  | scheduled nodeId i hkept _ _ _ _ => exact hkept.devices
  | begun now hdevices _ _ _ _ _ => exact hdevices
  | ended now succeeded hdevices _ _ _ => exact hdevices

theorem Noted.fresh (h : Noted cfg s s' new) (hreload : Note.reloaded ∈ new) (i : Nat)
    (hpeer : i ∈ s'.peers) : s'.failuresOf i = 0 := by
  cases h with
  | reloaded _ _ _ hzero => exact hzero i hpeer
  | quiet _ _ => cases hreload
  | succeeded j _ _ => simp at hreload
  | failed j _ _ => simp at hreload
  | scheduled nodeId j _ _ _ _ _ => simp at hreload
  | begun now _ _ _ _ _ _ => simp at hreload
  | ended now succeeded _ _ _ _ => simp at hreload

theorem Noted.building (h : Noted cfg s s' new)
    (hold : s.building = if underWay notes = true then 1 else 0) :
    s'.building = if underWay (new ++ notes) = true then 1 else 0 := by
  cases h with
  | quiet hkept _ => exact hkept.building.trans hold
  | reloaded _ hbuilding _ _ => exact hbuilding.trans hold
  | succeeded i hkept _ => exact hkept.building.trans hold
  | failed i hkept _ => exact hkept.building.trans hold
  | scheduled nodeId i hkept _ _ _ _ => exact hkept.building.trans hold
  | begun now _ _ _ hone _ _ => exact hone
  | ended now succeeded _ _ hless _ =>
      show s'.building = 0
      split at hold
      · omega
      · omega

theorem Noted.stamp (h : Noted cfg s s' new) (hold : s.lastIrohRebuild = lastEnd notes) :
    s'.lastIrohRebuild = lastEnd (new ++ notes) := by
  cases h with
  | quiet hkept _ => exact hkept.stamp.trans hold
  | reloaded hstamp _ _ _ => exact hstamp.trans hold
  | succeeded i hkept _ => exact hkept.stamp.trans hold
  | failed i hkept _ => exact hkept.stamp.trans hold
  | scheduled nodeId i hkept _ _ _ _ => exact hkept.stamp.trans hold
  | begun now _ hstamp _ _ _ _ => exact hstamp.trans hold
  | ended now succeeded _ hstamp _ _ => exact hstamp

/-- A count that every failure of the peer raises is not overtaken by the counter. -/
theorem Noted.since {stops : Note -> Bool} {i : Nat} (h : Noted cfg s s' new)
    (hfailed : forall j, stops (Note.failed j) = false)
    (hscheduled : forall nodeId j status current,
      stops (Note.scheduled nodeId j status current) = false)
    (hreloaded : stops Note.reloaded = false) (hbegun : forall now, stops (Note.begun now) = false)
    (hsucceeded : forall j, stops (Note.succeeded j) = true -> j = i)
    (hended : forall now succeeded, stops (Note.ended now succeeded) = true ->
      succeeded = true ∧ i ∈ s.peers)
    (hold : s.failuresOf i <= failuresSince stops i notes) :
    s'.failuresOf i <= failuresSince stops i (new ++ notes) := by
  cases h with
  | quiet _ hcounted =>
      rw [hcounted i]
      exact hold
  | reloaded _ _ hcounted _ =>
      rw [hcounted i, List.singleton_append, failuresSince_other hreloaded (by simp)]
      exact hold
  | succeeded j _ hcounted =>
      rw [hcounted i, List.singleton_append]
      by_cases hj : i = j
      · rw [if_pos hj]
        exact Nat.zero_le _
      · have hgoes : stops (Note.succeeded j) = false :=
          Bool.eq_false_iff.mpr (fun hstops => hj (hsucceeded j hstops).symm)
        rw [if_neg hj, failuresSince_other hgoes (by simp)]
        exact hold
  | failed j _ hcounted =>
      rw [hcounted i, List.singleton_append, failuresSince_failed (hfailed j)]
      exact Nat.add_le_add_left hold _
  | scheduled nodeId j _ _ _ _ hcounted =>
      rw [hcounted i, List.cons_append, failuresSince_other (hscheduled _ _ _ _) (by simp),
        List.singleton_append, failuresSince_failed (hfailed j)]
      exact Nat.add_le_add_left hold _
  | begun now _ _ _ _ _ hcounted =>
      rw [hcounted i, List.singleton_append, failuresSince_other (hbegun now) (by simp)]
      exact hold
  | ended now succeeded _ _ _ hcounted =>
      rw [hcounted i, List.singleton_append]
      by_cases hstops : stops (Note.ended now succeeded) = true
      · rw [if_pos (hended now succeeded hstops)]
        exact Nat.zero_le _
      · rw [failuresSince_other (Bool.eq_false_iff.mpr hstops) (by simp)]
        split
        · exact Nat.zero_le _
        · exact hold

theorem Noted.sinceSuccess (h : Noted cfg s s' new) {i : Nat}
    (hold : s.failuresOf i <= failuresSince (isSuccess i) i notes) :
    s'.failuresOf i <= failuresSince (isSuccess i) i (new ++ notes) := by
  apply h.since _ _ _ _ _ _ hold
  · exact fun j => by simp [isSuccess]
  · exact fun nodeId j status current => by simp [isSuccess]
  · simp [isSuccess]
  · exact fun now => by simp [isSuccess]
  · exact fun j hstops => by simpa [isSuccess] using hstops
  · exact fun now succeeded hstops => by simp [isSuccess] at hstops

theorem Noted.sinceFresh (h : Noted cfg s s' new) {i : Nat} (hpeer : i ∈ s.peers)
    (hold : s.failuresOf i <= failuresSince (isFresh i) i notes) :
    s'.failuresOf i <= failuresSince (isFresh i) i (new ++ notes) := by
  apply h.since _ _ _ _ _ _ hold
  · exact fun j => by simp [isFresh, isSuccess]
  · exact fun nodeId j status current => by simp [isFresh, isSuccess]
  · simp [isFresh, isSuccess]
  · exact fun now => by simp [isFresh, isSuccess]
  · exact fun j hstops => by simpa [isFresh, isSuccess] using hstops
  · exact fun now succeeded hstops => ⟨hstops, hpeer⟩

theorem Noted.lawful (h : Noted cfg s s' new) (hold : Accounted cfg s notes) :
    Lawful cfg (new ++ notes) := by
  cases h with
  | quiet _ _ => exact hold.lawful
  | reloaded _ _ _ _ => exact ⟨trivial, hold.lawful⟩
  | succeeded i _ _ => exact ⟨trivial, hold.lawful⟩
  | failed i _ _ => exact ⟨trivial, hold.lawful⟩
  | scheduled nodeId i _ hrefers henabled henough hcounted =>
      have hself := hcounted i
      rw [if_pos rfl] at hself
      refine ⟨⟨rfl, henabled, ?_, fun hcurrent => ?_, fun hreload => ?_⟩, trivial, hold.lawful⟩
      · show _ <= failuresSince (isSuccess i) i (Note.failed i :: notes)
        rw [failuresSince_failed (isSuccess_failed i i), if_pos rfl]
        have hcount := hold.sinceSuccess i
        omega
      · show _ <= failuresSince (isFresh i) i (Note.failed i :: notes)
        rw [failuresSince_failed (isFresh_failed i i), if_pos rfl]
        have hcount := hold.sinceFresh i (of_decide_eq_true hcurrent)
        omega
      · have hfirst : Note.reloaded ∉ notes := fun hmem => hreload (List.mem_cons_of_mem _ hmem)
        exact decide_eq_true (hold.known hfirst i hrefers)
  | begun now _ _ hzero _ hcooled _ =>
      refine ⟨⟨?_, fun last hlast => ?_⟩, hold.lawful⟩
      · show underWay notes = false
        have hbuilding := hold.building
        rw [hzero] at hbuilding
        cases hunderWay : underWay notes with
        | false => rfl
        | true =>
            rw [hunderWay] at hbuilding
            cases hbuilding
      · replace hlast : lastEnd notes = some last := hlast
        unfold coolingDown at hcooled
        rw [hold.stamp, hlast] at hcooled
        have hspaced : ¬ now - last < (cfg.refreshCooldownSeconds : Int) * microsPerSecond :=
          of_decide_eq_false hcooled
        exact Int.add_le_of_le_sub_left (Int.not_lt.mp hspaced)
  | ended now succeeded _ _ _ _ => exact ⟨trivial, hold.lawful⟩

/-- The counters are zero after a rebuild that succeeded, as long as nothing is recorded. -/
theorem Noted.reset (h : Noted cfg s s' new)
    (hold : forall now, notes.head? = some (Note.ended now true) ->
      forall i, i ∈ s.peers -> s.failuresOf i = 0) :
    forall now, (new ++ notes).head? = some (Note.ended now true) ->
      forall i, i ∈ s'.peers -> s'.failuresOf i = 0 := by
  intro now hhead i hpeer
  cases h with
  | quiet hkept hcounted =>
      rw [hcounted i]
      unfold peers at hpeer
      rw [hkept.devices] at hpeer
      exact hold now hhead i hpeer
  | reloaded _ _ _ _ => cases hhead
  | succeeded j _ _ => cases hhead
  | failed j _ _ => cases hhead
  | scheduled nodeId j _ _ _ _ _ => cases hhead
  | begun now' _ _ _ _ _ _ => cases hhead
  | ended now' succeeded hdevices _ _ hcounted =>
      cases hhead
      unfold peers at hpeer
      rw [hdevices] at hpeer
      rw [hcounted i]
      exact if_pos ⟨rfl, hpeer⟩

theorem Accounted.step (h : Accounted cfg s notes) (e : RefreshEvent node) :
    Accounted cfg (s.step cfg e) (s.notesOf cfg e ++ notes) := by
  have hnoted : Noted cfg s (s.step cfg e) (s.notesOf cfg e) := noted_step s e
  have hpeers : Note.reloaded ∉ s.notesOf cfg e ++ notes ->
      Note.reloaded ∉ notes ∧ (s.step cfg e).peers = s.peers := by
    intro hreload
    rw [List.mem_append] at hreload
    refine ⟨fun hmem => hreload (Or.inr hmem), ?_⟩
    unfold peers
    rw [hnoted.devices (fun hmem => hreload (Or.inl hmem))]
  constructor
  · exact hnoted.lawful h
  · exact hnoted.building h.building
  · exact hnoted.stamp h.stamp
  · exact fun i => hnoted.sinceSuccess (h.sinceSuccess i)
  · intro hreload i hrefers
    rcases hpeers hreload with ⟨hfirst, hsame⟩
    rcases hrefers with ⟨nodeId, hrunning⟩ | hdevice
    · rw [hsame]
      exact h.known hfirst i (pulls_step hrunning)
    · exact hdevice
  · intro i hpeer
    by_cases hreload : Note.reloaded ∈ s.notesOf cfg e
    · rw [hnoted.fresh hreload i hpeer]
      exact Nat.zero_le _
    · unfold peers at hpeer
      rw [hnoted.devices hreload] at hpeer
      exact hnoted.sinceFresh hpeer (h.sinceFresh i hpeer)
  · intro task htask
    rcases tasks_step htask with ⟨old, hold, htrigger⟩ | ⟨i, status, current, hnote⟩
    · rcases h.traced old hold with ⟨i, status, current, hnote⟩
      rw [htrigger] at hnote
      exact ⟨i, status, current, List.mem_append_right _ hnote⟩
    · exact ⟨i, status, current, List.mem_append_left _ hnote⟩
  · exact hnoted.reset h.reset

end Step

end Law

end RefreshState

open RefreshState

/-!
## The law
-/

/--
At most one rebuild holds the lock, as the record says; every note was lawful, so rebuilds
keep their distance and tasks have their reasons; every task was scheduled; and after a
rebuild that succeeded, until the next note, no peer has a failure.
-/
structure RebuildLaw {node : Type} (cfg : RefreshConfig) (w : Recorded node) : Prop where
  single : w.engine.building <= 1
  underWay : w.engine.building = 1 <-> underWay w.notes = true
  lawful : Lawful cfg w.notes
  traced : forall task, task ∈ w.engine.rebuilds ->
    exists i status current, Note.scheduled task.triggerPeerId i status current ∈ w.notes
  reset : forall now, w.notes.head? = some (Note.ended now true) ->
    forall device peer, device ∈ w.engine.devices ->
      w.engine.objects[device.2]? = some peer -> peer.consecutivePullFailures = 0

theorem RefreshState.Accounted.law {node : Type} {cfg : RefreshConfig} {w : Recorded node}
    (h : Accounted cfg w.engine w.notes) : RebuildLaw cfg w where
  single := by
    rw [h.building]
    split
    · exact Nat.le_refl 1
    · exact Nat.zero_le 1
  underWay := by
    rw [h.building]
    split
    · rename_i hunderWay
      exact ⟨fun _ => hunderWay, fun _ => rfl⟩
    · rename_i hunderWay
      exact ⟨fun hone => absurd hone Nat.zero_ne_one, fun hyes => absurd hyes hunderWay⟩
  lawful := h.lawful
  traced := h.traced
  reset := by
    intro now hhead device peer hdevice hpeer
    have hzero := h.reset now hhead device.2 (List.mem_map_of_mem hdevice)
    rw [failuresOf_of_some hpeer] at hzero
    exact hzero

/-- Rebuilds are serialized and rate-limited in every run. -/
theorem rebuilds_serialized {node : Type} {cfg : RefreshConfig} {w : Recorded node}
    (hreach : (recorded node cfg).Reachable (fun _ _ => True) w) : RebuildLaw cfg w := by
  have haccounted : Accounted cfg w.engine w.notes :=
    hreach.invariant (I := fun w => Accounted cfg w.engine w.notes)
      (fun _ hstart => accounted_start hstart) (fun _ e h _ => h.step e)
  exact haccounted.law

/-! Two peers fail in one cycle; the second task finds the first one's rebuild done. -/

def twoPeers : Recorded Unit where
  engine :=
    { running with
      objects := [{ currentStatus := PeerStatus.alive, consecutivePullFailures := 0 },
        { currentStatus := PeerStatus.alive, consecutivePullFailures := 0 }]
      devices := [("attic", 0), ("cellar", 1)] }
  notes := []

def twoFailures : List (RefreshEvent Unit) :=
  [RefreshEvent.dashboardPull 0 ["attic"] ["cellar"], RefreshEvent.admitted 0,
    RefreshEvent.admitted 1, RefreshEvent.pulled 0 PullOutcome.raised,
    RefreshEvent.pulled 0 PullOutcome.raised, RefreshEvent.rebuild 0 1000,
    RefreshEvent.rebuild 1 1000, RefreshEvent.rebuild 0 2000, RefreshEvent.rebuild 1 2500,
    RefreshEvent.build 0 3000 (BuildOutcome.built ()), RefreshEvent.rebuild 0 4000]

theorem rebuilds_serialized_two :
    RebuildLaw refreshOnce ((recorded Unit refreshOnce).exec twoPeers twoFailures) ∧
      ((recorded Unit refreshOnce).exec twoPeers twoFailures).notes =
        [Note.ended 3000 true, Note.begun 2000,
          Note.scheduled "cellar" 1 PeerStatus.alive true, Note.failed 1,
          Note.scheduled "attic" 0 PeerStatus.alive true, Note.failed 0] := by
  have hstart : (recorded Unit refreshOnce).Run (fun _ _ => True) [] twoPeers :=
    Machine.Run.start ⟨⟨by decide, ⟨rfl, rfl, rfl⟩, ⟨rfl, rfl, rfl, rfl⟩⟩, by decide, rfl⟩
  have hguarded : (recorded Unit refreshOnce).Guarded (fun _ _ => True) twoPeers twoFailures :=
    ⟨trivial, trivial, trivial, trivial, trivial, trivial, trivial, trivial, trivial, trivial,
      trivial, trivial⟩
  exact ⟨rebuilds_serialized ⟨_, hstart.exec twoFailures hguarded⟩, by decide⟩

end Liveness
end PanicMonitr
