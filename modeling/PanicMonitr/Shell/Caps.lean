import PanicMonitr.Shell.Serve

/-!
# The caps of inbound shells

Two structures bound the inbound sessions: the `stop` events of all calls, and the number
of calls of each peer.  A call takes its place in both before its first `await` and gives
it back at the end of its `finally` block, on whichever way it gets there.
-/

namespace PanicMonitr
namespace Shell

open Foundation
open Trust

/-!
## The calls
-/

/--
The calls that got past the caps, in the order they did.  An event in
`_shell_server_teardowns` is an object of its own; it is known by the place of its call.
-/
structure ShellCaps where
  calls : List ServedSession
  serverTeardowns : List Nat
  peerCounts : List (String × Nat)

namespace ShellCaps

def register (s : ShellCaps) (remote : String) (now : Datetime) : ShellCaps :=
  { calls := s.calls ++
      [{ remote := remote
         started := now
         stop := false
         phase := ServePhase.spawning
         bash := none
         closed := false }]
    serverTeardowns := s.serverTeardowns ++ [s.calls.length]
    peerCounts := Assoc.set remote ((Assoc.get? remote s.peerCounts).getD 0 + 1) s.peerCounts }

/-- From the start of `_serve_shell` to its first `await`; the audit append changes nothing. -/
def serve (s : ShellCaps) (remote : String) (now : Datetime) : ShellCaps :=
  if SHELL_MAX_SESSIONS <= s.serverTeardowns.length then s
  else if SHELL_MAX_PER_PEER <= (Assoc.get? remote s.peerCounts).getD 0 then s
  else s.register remote now

def update (s : ShellCaps) (i : Nat) (go : ServedSession -> Option ServedSession) : ShellCaps :=
  match s.calls[i]?.bind go with
  | none => s
  | some session => { s with calls := s.calls.set i session }

/-- The end of the `finally` block, after its last `await`. -/
def close (s : ShellCaps) (i : Nat) (src : ServePhase) : ShellCaps :=
  match s.calls[i]? with
  | none => s
  | some session =>
      if session.phase = src then
        { calls := s.calls.set i { session with stop := true, phase := ServePhase.ended }
          serverTeardowns := s.serverTeardowns.erase i
          peerCounts := ShellHost.releasePeer session.remote s.peerCounts }
      else s

end ShellCaps

/--
What happens next.  `spawnRaises` is also a pty that could not be opened; `stop` is set by
a pump that ends (the child has exited, the peer has closed), by the watchdog and by the
shutdown.
-/
inductive CapsEvent where
  | serve (remote : String) (now : Datetime)
  | spawnRaises (i : Nat)
  | spawned (i fileLength : Nat)
  | streamRaises (i : Nat)
  | streamsOpened (i : Nat)
  | stop (i : Nat)
  | stopped (i : Nat)
  | flushed (i : Nat)
  | reaped (i : Nat)

def ShellCaps.step (s : ShellCaps) : CapsEvent -> ShellCaps
  | CapsEvent.serve remote now => s.serve remote now
  | CapsEvent.spawnRaises i => s.close i ServePhase.spawning
  | CapsEvent.spawned i fileLength => s.update i (ServedSession.spawned fileLength)
  | CapsEvent.streamRaises i => s.update i ServedSession.streamRaises
  | CapsEvent.streamsOpened i =>
      s.update i (ServedSession.advance ServePhase.connecting ServePhase.relaying)
  | CapsEvent.stop i => s.update i ServedSession.setStop
  | CapsEvent.stopped i => s.update i ServedSession.stopped
  | CapsEvent.flushed i =>
      s.update i (ServedSession.advance ServePhase.flushing ServePhase.reaping)
  | CapsEvent.reaped i => s.close i ServePhase.reaping

def shellCaps : Machine ShellCaps CapsEvent where
  start s := s.calls = [] ∧ s.serverTeardowns = [] ∧ s.peerCounts = []
  step := ShellCaps.step

/-!
## Dictionaries of counts
-/

section Counts

def total {key : Type} (counts : List (key × Nat)) : Nat :=
  (counts.map Prod.snd).sum

theorem total_cons {key : Type} (k : key) (n : Nat) (counts : List (key × Nat)) :
    total ((k, n) :: counts) = n + total counts := by
  unfold total
  rw [List.map_cons, List.sum_cons]

theorem nodup_keys_filter {key : Type} {counts : List (key × Nat)}
    (hnodup : (Assoc.keys counts).Nodup) (p : key × Nat -> Bool) :
    (Assoc.keys (counts.filter p)).Nodup := by
  unfold Assoc.keys at hnodup ⊢
  exact hnodup.sublist (List.Sublist.map _ List.filter_sublist)

variable {key : Type} [DecidableEq key]

theorem total_set (k : key) (n : Nat) (counts : List (key × Nat)) :
    total (Assoc.set k n counts) + (Assoc.get? k counts).getD 0 = total counts + n := by
  induction counts with
  | nil => simp [Assoc.set, total]
  | cons entry counts ih =>
      rcases entry with ⟨k', n'⟩
      rw [Assoc.set, Assoc.get?_cons]
      by_cases hk : k' = k
      · rw [if_pos hk, if_pos hk, total_cons, total_cons, Option.getD_some]
        omega
      · rw [if_neg hk, if_neg hk, total_cons, total_cons]
        omega

theorem total_remove {counts : List (key × Nat)} (hnodup : (Assoc.keys counts).Nodup)
    (k : key) :
    total (counts.filter (fun entry => decide (entry.1 ≠ k))) +
      (Assoc.get? k counts).getD 0 = total counts := by
  induction counts with
  | nil => rfl
  | cons entry counts ih =>
      rcases entry with ⟨k', n'⟩
      simp only [Assoc.keys, List.map_cons, List.nodup_cons] at hnodup
      rw [Assoc.get?_cons, List.filter_cons]
      by_cases hk : k' = k
      · have hgone : counts.filter (fun entry => decide (entry.1 ≠ k)) = counts := by
          apply List.filter_eq_self.mpr
          intro entry hentry
          apply decide_eq_true
          intro heq
          apply hnodup.left
          rw [hk, ← heq]
          exact List.mem_map_of_mem hentry
        rw [if_neg (by simp [hk]), if_pos hk, hgone, total_cons, Option.getD_some]
        omega
      · rw [if_pos (by simp [hk]), if_neg hk, total_cons, total_cons]
        have hrest := ih hnodup.right
        omega

theorem eq_nil_of_get?_none {counts : List (key × Nat)}
    (h : forall k, Assoc.get? k counts = none) : counts = [] := by
  cases counts with
  | nil => rfl
  | cons entry counts =>
      have hfirst := h entry.1
      rw [Assoc.get?_cons, if_pos rfl] at hfirst
      cases hfirst

end Counts

section Release

variable {remote : String} {counts : List (String × Nat)} {n : Nat}

theorem releasePeer_last (hn : Assoc.get? remote counts = some 1) :
    ShellHost.releasePeer remote counts =
      counts.filter (fun entry => decide (entry.1 ≠ remote)) := by
  unfold ShellHost.releasePeer
  rw [hn]
  rfl

theorem releasePeer_more (hn : Assoc.get? remote counts = some (n + 2)) :
    ShellHost.releasePeer remote counts = Assoc.set remote (n + 1) counts := by
  unfold ShellHost.releasePeer
  rw [hn]
  rfl

theorem total_releasePeer (hnodup : (Assoc.keys counts).Nodup)
    (hn : Assoc.get? remote counts = some (n + 1)) :
    total (ShellHost.releasePeer remote counts) + 1 = total counts := by
  cases n with
  | zero =>
      have htotal := total_remove hnodup remote
      rw [hn] at htotal
      rw [releasePeer_last hn]
      exact htotal
  | succ n =>
      have htotal := total_set remote (n + 1) counts
      rw [hn, Option.getD_some] at htotal
      rw [releasePeer_more hn]
      omega

theorem nodup_releasePeer (hnodup : (Assoc.keys counts).Nodup)
    (hn : Assoc.get? remote counts = some (n + 1)) :
    (Assoc.keys (ShellHost.releasePeer remote counts)).Nodup := by
  cases n with
  | zero =>
      rw [releasePeer_last hn]
      exact nodup_keys_filter hnodup _
  | succ n =>
      rw [releasePeer_more hn]
      exact Assoc.nodup_keys_set hnodup

theorem get?_releasePeer (hn : Assoc.get? remote counts = some (n + 1)) (peer : String) :
    Assoc.get? peer (ShellHost.releasePeer remote counts) =
      if peer = remote then (if n = 0 then none else some n)
      else Assoc.get? peer counts := by
  by_cases hpeer : peer = remote
  · rw [if_pos hpeer, hpeer]
    cases n with
    | zero =>
        rw [releasePeer_last hn, if_pos rfl, Assoc.get?_eq_none_iff]
        intro hmem
        rcases List.mem_map.mp hmem with ⟨entry, hentry, hkey⟩
        exact of_decide_eq_true (List.mem_filter.mp hentry).right hkey
    | succ n => rw [releasePeer_more hn, Assoc.get?_set_self, if_neg (Nat.succ_ne_zero n)]
  · rw [if_neg hpeer]
    cases n with
    | zero =>
        rw [releasePeer_last hn]
        exact Assoc.get?_filter_keys (p := fun k => decide (k ≠ remote))
          (decide_eq_true hpeer) counts
    | succ n => rw [releasePeer_more hn, Assoc.get?_set_of_ne hpeer]

end Release

/-!
## What the caps keep
-/

/-- The call has taken its place and has not given it back. -/
def ServedSession.live (session : ServedSession) : Bool :=
  decide (session.phase ≠ ServePhase.ended)

def ShellCaps.liveOf (s : ShellCaps) (remote : String) : Nat :=
  s.calls.countP (fun session => decide (session.remote = remote) && session.live)

/--
The events are those of the live calls and the counts those of the peers that have some;
both are within their caps.
-/
structure CapsKept (s : ShellCaps) : Prop where
  registered : forall i, i ∈ s.serverTeardowns <->
    exists session, s.calls[i]? = some session ∧ session.live = true
  nodup : s.serverTeardowns.Nodup
  length : s.serverTeardowns.length = s.calls.countP ServedSession.live
  counts : forall remote, Assoc.get? remote s.peerCounts =
    if s.liveOf remote = 0 then none else some (s.liveOf remote)
  dict : (Assoc.keys s.peerCounts).Nodup
  sum : total s.peerCounts = s.serverTeardowns.length
  sessions : s.serverTeardowns.length <= SHELL_MAX_SESSIONS
  perPeer : forall remote, s.liveOf remote <= SHELL_MAX_PER_PEER

section Steps

variable {s : ShellCaps}

theorem CapsKept.getD_counts (h : CapsKept s) (remote : String) :
    (Assoc.get? remote s.peerCounts).getD 0 = s.liveOf remote := by
  rw [h.counts]
  split
  · rename_i hzero
    exact hzero.symm
  · rfl

theorem capsKept_start (h : shellCaps.start s) : CapsKept s := by
  rcases h with ⟨hcalls, hteardowns, hcounts⟩
  have hlive : forall remote, s.liveOf remote = 0 := by
    intro remote
    unfold ShellCaps.liveOf
    rw [hcalls]
    rfl
  constructor
  · intro i
    rw [hteardowns, hcalls]
    simp
  · rw [hteardowns]
    exact List.nodup_nil
  · rw [hteardowns, hcalls]
    rfl
  · intro remote
    rw [hcounts, hlive remote]
    rfl
  · rw [hcounts]
    exact List.nodup_nil
  · rw [hcounts, hteardowns]
    rfl
  · rw [hteardowns]
    exact Nat.zero_le _
  · intro remote
    rw [hlive remote]
    exact Nat.zero_le _

theorem liveOf_register (remote : String) (now : Datetime) (peer : String) :
    (s.register remote now).liveOf peer =
      s.liveOf peer + if peer = remote then 1 else 0 := by
  unfold ShellCaps.liveOf ShellCaps.register
  rw [List.countP_append, List.countP_singleton]
  by_cases hpeer : peer = remote
  · simp [ServedSession.live, hpeer]
  · have hother : ¬ remote = peer := fun h => hpeer h.symm
    simp [hpeer, hother]

theorem CapsKept.register (h : CapsKept s) {remote : String} (now : Datetime)
    (hsessions : s.serverTeardowns.length < SHELL_MAX_SESSIONS)
    (hpeer : s.liveOf remote < SHELL_MAX_PER_PEER) : CapsKept (s.register remote now) := by
  have hfresh : s.calls.length ∉ s.serverTeardowns := by
    intro hmem
    rcases (h.registered _).mp hmem with ⟨session, hsession, _⟩
    rw [List.getElem?_eq_none (Nat.le_refl _)] at hsession
    cases hsession
  have hsum := total_set remote ((Assoc.get? remote s.peerCounts).getD 0 + 1) s.peerCounts
  constructor
  · intro i
    show i ∈ s.serverTeardowns ++ [s.calls.length] <->
      exists session, (s.calls ++ [_])[i]? = some session ∧ session.live = true
    rcases Nat.lt_trichotomy i s.calls.length with hlt | heq | hgt
    · rw [List.getElem?_append_left hlt, List.mem_append, h.registered i, List.mem_singleton]
      simp only [Nat.ne_of_lt hlt, or_false]
    · rw [heq, List.getElem?_append_right (Nat.le_refl _), Nat.sub_self]
      simp [ServedSession.live]
    · rw [List.getElem?_eq_none (by rw [List.length_append, List.length_singleton]; omega),
        List.mem_append, h.registered i, List.getElem?_eq_none (by omega), List.mem_singleton]
      simp only [Nat.ne_of_gt hgt, or_false]
  · exact List.Nodup.append h.nodup (List.nodup_singleton _)
      (List.disjoint_singleton.mpr hfresh)
  · show (s.serverTeardowns ++ [s.calls.length]).length = (s.calls ++ [_]).countP _
    rw [List.length_append, List.countP_append, List.countP_singleton, h.length]
    rfl
  · intro peer
    rw [liveOf_register]
    show Assoc.get? peer (Assoc.set remote _ s.peerCounts) = _
    by_cases heq : peer = remote
    · rw [heq, Assoc.get?_set_self, h.getD_counts, if_pos rfl, if_neg (Nat.succ_ne_zero _)]
    · rw [Assoc.get?_set_of_ne heq, if_neg heq, Nat.add_zero]
      exact h.counts peer
  · exact Assoc.nodup_keys_set h.dict
  · show total (Assoc.set remote _ s.peerCounts) =
      (s.serverTeardowns ++ [s.calls.length]).length
    rw [List.length_append, List.length_singleton, ← h.sum]
    omega
  · show (s.serverTeardowns ++ [s.calls.length]).length <= SHELL_MAX_SESSIONS
    rw [List.length_append, List.length_singleton]
    exact hsessions
  · intro peer
    rw [liveOf_register]
    split
    · rename_i heq
      rw [heq]
      exact hpeer
    · exact h.perPeer peer

theorem CapsKept.serve (h : CapsKept s) (remote : String) (now : Datetime) :
    CapsKept (s.serve remote now) := by
  unfold ShellCaps.serve
  split
  · exact h
  · rename_i hsessions
    split
    · exact h
    · rename_i hpeer
      rw [h.getD_counts] at hpeer
      exact h.register now (Nat.lt_of_not_le hsessions) (Nat.lt_of_not_le hpeer)

theorem live_iff_of_set {i : Nat} {session session' : ServedSession}
    (hi : s.calls[i]? = some session) (j : Nat) :
    (exists x, (s.calls.set i session')[j]? = some x ∧ x.live = true) <->
      if j = i then session'.live = true
      else exists x, s.calls[j]? = some x ∧ x.live = true := by
  by_cases hij : j = i
  · rw [if_pos hij, hij, List.getElem?_set_self (List.getElem?_eq_some_iff.mp hi).1]
    constructor
    · intro h
      rcases h with ⟨x, hx, hlive⟩
      cases hx
      exact hlive
    · exact fun hlive => ⟨session', rfl, hlive⟩
  · rw [if_neg hij, List.getElem?_set_ne (Ne.symm hij)]

theorem CapsKept.set (h : CapsKept s) {i : Nat} {session session' : ServedSession}
    (hi : s.calls[i]? = some session) (hremote : session'.remote = session.remote)
    (hlive : session'.live = session.live) :
    CapsKept { s with calls := s.calls.set i session' } := by
  have hliveOf : forall remote,
      ShellCaps.liveOf { s with calls := s.calls.set i session' } remote =
        s.liveOf remote := by
    intro remote
    have hset := countP_set_add
      (p := fun c : ServedSession => decide (c.remote = remote) && c.live) hi session'
    unfold ShellCaps.liveOf
    rw [hremote, hlive] at hset
    exact Nat.add_right_cancel hset
  constructor
  · intro j
    show j ∈ s.serverTeardowns <->
      exists x, (s.calls.set i session')[j]? = some x ∧ x.live = true
    rw [live_iff_of_set hi, h.registered j]
    by_cases hij : j = i
    · rw [if_pos hij, hij, hi, hlive]
      simp
    · rw [if_neg hij]
  · exact h.nodup
  · have hset := countP_set_add (p := ServedSession.live) hi session'
    rw [hlive] at hset
    show s.serverTeardowns.length = (s.calls.set i session').countP ServedSession.live
    rw [Nat.add_right_cancel hset]
    exact h.length
  · intro remote
    rw [hliveOf]
    exact h.counts remote
  · exact h.dict
  · exact h.sum
  · exact h.sessions
  · intro remote
    rw [hliveOf]
    exact h.perPeer remote

theorem CapsKept.update (h : CapsKept s) {go : ServedSession -> Option ServedSession}
    (hgo : forall c c', go c = some c' -> c'.remote = c.remote ∧ c'.live = c.live) (i : Nat) :
    CapsKept (s.update i go) := by
  unfold ShellCaps.update
  cases hi : s.calls[i]? with
  | none => exact h
  | some session =>
      rw [Option.bind_some]
      cases hgone : go session with
      | none => exact h
      | some session' =>
          exact h.set hi (hgo session session' hgone).left (hgo session session' hgone).right

theorem liveOf_set_ended {i : Nat} {session session' : ServedSession}
    (hi : s.calls[i]? = some session) (hwas : session.live = true)
    (hnow : session'.live = false) (peer : String) :
    (s.calls.set i session').countP (fun c => decide (c.remote = peer) && c.live) +
      (if peer = session.remote then 1 else 0) = s.liveOf peer := by
  have hset := countP_set_add
    (p := fun c : ServedSession => decide (c.remote = peer) && c.live) hi session'
  have hpeer : decide (session.remote = peer) = decide (peer = session.remote) := by
    simp only [eq_comm]
  rw [hnow, hwas, Bool.and_false, Bool.and_true, hpeer] at hset
  unfold ShellCaps.liveOf
  simpa using hset

theorem CapsKept.release (h : CapsKept s) {i : Nat} {session session' : ServedSession}
    (hi : s.calls[i]? = some session) (hwas : session.live = true)
    (hnow : session'.live = false) :
    CapsKept
      { calls := s.calls.set i session'
        serverTeardowns := s.serverTeardowns.erase i
        peerCounts := ShellHost.releasePeer session.remote s.peerCounts } := by
  have hmem : i ∈ s.serverTeardowns := (h.registered i).mpr ⟨session, hi, hwas⟩
  have hliveOf := liveOf_set_ended hi hwas hnow
  have hown := hliveOf session.remote
  rw [if_pos rfl] at hown
  have hcount := h.counts session.remote
  rw [← hown, if_neg (Nat.succ_ne_zero _)] at hcount
  have hlength := List.length_erase_of_mem hmem
  have hpos := List.length_pos_of_mem hmem
  have htotal := total_releasePeer h.dict hcount
  have hsum := h.sum
  constructor
  · intro j
    show j ∈ s.serverTeardowns.erase i <->
      exists x, (s.calls.set i session')[j]? = some x ∧ x.live = true
    rw [live_iff_of_set hi, h.nodup.mem_erase_iff, h.registered j, hnow]
    by_cases hij : j = i
    · simp [hij]
    · simp [hij]
  · exact h.nodup.erase i
  · have hset := countP_set_add (p := ServedSession.live) hi session'
    rw [hnow, hwas] at hset
    show (s.serverTeardowns.erase i).length =
      (s.calls.set i session').countP ServedSession.live
    have hall := h.length
    simp only [if_true, Bool.false_eq_true, if_false] at hset
    omega
  · intro peer
    have hpeer := hliveOf peer
    show Assoc.get? peer (ShellHost.releasePeer session.remote s.peerCounts) =
      if (s.calls.set i session').countP _ = 0 then none
      else some ((s.calls.set i session').countP _)
    rw [get?_releasePeer hcount]
    by_cases heq : peer = session.remote
    · rw [if_pos heq, heq]
    · rw [if_neg heq, Nat.add_zero] at hpeer
      rw [if_neg heq, hpeer]
      exact h.counts peer
  · exact nodup_releasePeer h.dict hcount
  · show total (ShellHost.releasePeer session.remote s.peerCounts) =
      (s.serverTeardowns.erase i).length
    omega
  · have hcap := h.sessions
    show (s.serverTeardowns.erase i).length <= SHELL_MAX_SESSIONS
    omega
  · intro peer
    have hpeer := hliveOf peer
    have hcap := h.perPeer peer
    show (s.calls.set i session').countP _ <= SHELL_MAX_PER_PEER
    omega

theorem CapsKept.close (h : CapsKept s) (i : Nat) {src : ServePhase}
    (hsrc : src ≠ ServePhase.ended) : CapsKept (s.close i src) := by
  unfold ShellCaps.close
  cases hi : s.calls[i]? with
  | none => exact h
  | some session =>
      simp only
      split
      · rename_i hphase
        have hwas : session.live = true := by
          apply decide_eq_true
          rw [hphase]
          exact hsrc
        exact h.release hi hwas rfl
      · exact h

/-- On from one `await` to another, none of them the end. -/
theorem advance_keeps {src dst : ServePhase} (hsrc : src ≠ ServePhase.ended)
    (hdst : dst ≠ ServePhase.ended) {c c' : ServedSession} (h : c.advance src dst = some c') :
    c'.remote = c.remote ∧ c'.live = c.live := by
  unfold ServedSession.advance at h
  split at h
  · rename_i hphase
    cases h
    refine ⟨rfl, ?_⟩
    unfold ServedSession.live
    rw [hphase, decide_eq_true hsrc, decide_eq_true hdst]
  · cases h

theorem spawned_keeps {fileLength : Nat} {c c' : ServedSession}
    (h : c.spawned fileLength = some c') : c'.remote = c.remote ∧ c'.live = c.live := by
  unfold ServedSession.spawned at h
  rcases Option.map_eq_some_iff.mp h with ⟨c'', hadvance, rfl⟩
  have hkept := advance_keeps (by decide) (by decide) hadvance
  exact hkept

theorem streamRaises_keeps {c c' : ServedSession} (h : c.streamRaises = some c') :
    c'.remote = c.remote ∧ c'.live = c.live := by
  unfold ServedSession.streamRaises at h
  rcases Option.bind_eq_some_iff.mp h with ⟨c'', hadvance, hstop⟩
  cases hstop
  have hkept := advance_keeps (by decide) (by decide) hadvance
  exact hkept

theorem stopped_keeps {c c' : ServedSession} (h : c.stopped = some c') :
    c'.remote = c.remote ∧ c'.live = c.live := by
  unfold ServedSession.stopped at h
  split at h
  · exact advance_keeps (by decide) (by decide) h
  · cases h

theorem setStop_keeps {c c' : ServedSession} (h : c.setStop = some c') :
    c'.remote = c.remote ∧ c'.live = c.live := by
  cases h
  exact ⟨rfl, rfl⟩

theorem CapsKept.step (h : CapsKept s) (e : CapsEvent) : CapsKept (s.step e) := by
  cases e with
  | serve remote now => exact h.serve remote now
  | spawnRaises i => exact h.close i (by decide)
  | spawned i fileLength => exact h.update (fun _ _ => spawned_keeps) i
  | streamRaises i => exact h.update (fun _ _ => streamRaises_keeps) i
  | streamsOpened i => exact h.update (fun _ _ => advance_keeps (by decide) (by decide)) i
  | stop i => exact h.update (fun _ _ => setStop_keeps) i
  | stopped i => exact h.update (fun _ _ => stopped_keeps) i
  | flushed i => exact h.update (fun _ _ => advance_keeps (by decide) (by decide)) i
  | reaped i => exact h.close i (by decide)

theorem CapsKept.empty (h : CapsKept s)
    (hended : forall session, session ∈ s.calls -> session.phase = ServePhase.ended) :
    s.serverTeardowns = [] ∧ s.peerCounts = [] := by
  have hdead : forall session, session ∈ s.calls -> session.live = false := by
    intro session hmem
    unfold ServedSession.live
    rw [hended session hmem]
    rfl
  constructor
  · apply List.length_eq_zero_iff.mp
    rw [h.length, List.countP_eq_zero]
    intro session hmem
    rw [hdead session hmem]
    exact Bool.false_ne_true
  · apply eq_nil_of_get?_none
    intro remote
    rw [h.counts remote, if_pos]
    unfold ShellCaps.liveOf
    rw [List.countP_eq_zero]
    intro session hmem
    rw [hdead session hmem, Bool.and_false]
    exact Bool.false_ne_true

/-- A call that is turned away registers nothing and leaves everything as it is. -/
theorem serve_rejected (remote : String) (now : Datetime)
    (h : (s.serve remote now).calls.length = s.calls.length) : s.serve remote now = s := by
  unfold ShellCaps.serve at h ⊢
  split at h
  · rename_i hfull
    rw [if_pos hfull]
  · rename_i hroom
    rw [if_neg hroom]
    split at h
    · rename_i hfull
      rw [if_pos hfull]
    · exfalso
      unfold ShellCaps.register at h
      rw [List.length_append, List.length_singleton] at h
      omega

/--
The caps hold in every state, a rejected call changes nothing, and when all sessions have
ended nothing is left of them.
-/
theorem caps_held (hreach : shellCaps.Reachable (fun _ _ => True) s) :
    CapsKept s ∧
      (forall remote now, (s.step (CapsEvent.serve remote now)).calls.length = s.calls.length ->
        s.step (CapsEvent.serve remote now) = s) ∧
      ((forall session, session ∈ s.calls -> session.phase = ServePhase.ended) ->
        s.serverTeardowns = [] ∧ s.peerCounts = []) := by
  have hkept : CapsKept s := by
    apply hreach.invariant (I := CapsKept)
    · exact fun _ => capsKept_start
    · exact fun _ e h _ => h.step e
  exact ⟨hkept, serve_rejected, hkept.empty⟩

end Steps

/-- Two peers open three sessions; one cannot be spawned, the others go on. -/
def opened : List CapsEvent :=
  [CapsEvent.serve "a" noon, CapsEvent.serve "a" noon, CapsEvent.serve "b" noon,
    CapsEvent.spawnRaises 1, CapsEvent.spawned 0 0]

theorem caps_held_opened :
    CapsKept (shellCaps.exec { calls := [], serverTeardowns := [], peerCounts := [] } opened) ∧
      (shellCaps.exec { calls := [], serverTeardowns := [], peerCounts := [] }
        opened).serverTeardowns = [0, 2] := by
  have hstart : shellCaps.Run (fun _ _ => True) []
      { calls := [], serverTeardowns := [], peerCounts := [] } :=
    Machine.Run.start ⟨rfl, rfl, rfl⟩
  have hrun := hstart.exec opened ⟨trivial, trivial, trivial, trivial, trivial, trivial⟩
  exact ⟨(caps_held ⟨_, hrun⟩).left, rfl⟩

end Shell
end PanicMonitr
