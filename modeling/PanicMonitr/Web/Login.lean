import PanicMonitr.Foundation.Machine
import PanicMonitr.Foundation.Sequences
import PanicMonitr.Foundation.Datetime

/-!
# The login lock

The requests of a threaded server against the guard of `/login`: each one reads the clock
and checks the lock, has its password verified, and then updates the counters.  The guard
counts the failures of finished requests only, so the bound it is there for needs requests
that wait for each other.
-/

namespace PanicMonitr
namespace Web

open Foundation

/-!
## The guard
-/

def LOGIN_MAX_FAILS : Nat := 5

def LOGIN_LOCK_SECS : Int := 60

/-- How long the lock lasts on the clock of the model. -/
def lockTime : Int :=
  LOGIN_LOCK_SECS * microsPerSecond

/-- `_login_guard` -/
structure LoginGuard where
  fails : Nat
  lockUntil : Instant
  deriving DecidableEq

namespace LoginGuard

def init : LoginGuard :=
  { fails := 0, lockUntil := 0 }

/-- The error of a request that finds the lock set. -/
def refusal (g : LoginGuard) (now : Instant) : Option String :=
  if now < g.lockUntil then
    some ("Too many attempts — wait " ++
      toString ((g.lockUntil - now) / microsPerSecond + 1) ++ "s and try again.")
  else none

/-- The counters after a verification, and the error the page shows. -/
def update (g : LoginGuard) (now : Instant) (verified : Bool) : LoginGuard × Option String :=
  if verified then ({ fails := 0, lockUntil := 0 }, none)
  else if LOGIN_MAX_FAILS <= g.fails + 1 then
    ({ fails := 0, lockUntil := now + lockTime },
      some ("Too many attempts — locked for " ++ toString LOGIN_LOCK_SECS ++ "s."))
  else ({ g with fails := g.fails + 1 }, some "Incorrect password.")

end LoginGuard

/-!
## Requests in parallel
-/

/--
`checked` and `verifying` hold the clock readings of the requests between the steps.  The
starting times of the verifications are history variables: since the guard was last set
back in `round`, those before it in `rounds`, newest first.
-/
structure LoginServer where
  clock : Instant
  guard : LoginGuard
  checked : List Instant
  verifying : List Instant
  round : List Instant
  rounds : List (List Instant)

inductive LoginEvent where
  | wait (micros : Nat)
  | post
  | verify (i : Nat)
  | update (i : Nat) (verified : Bool)

namespace LoginServer

/-- A round ends when the guard forgets the failures. -/
def finish (s : LoginServer) (i : Nat) (now : Instant) (verified : Bool) : LoginServer :=
  let guard := (s.guard.update now verified).1
  { s with
    guard := guard
    verifying := s.verifying.eraseIdx i
    round := if guard.fails = 0 then [] else s.round
    rounds := if guard.fails = 0 then s.round :: s.rounds else s.rounds }

def step (s : LoginServer) : LoginEvent -> LoginServer
  | LoginEvent.wait micros => { s with clock := s.clock + micros }
  | LoginEvent.post =>
      match s.guard.refusal s.clock with
      | some _ => s
      | none => { s with checked := s.checked ++ [s.clock] }
  | LoginEvent.verify i =>
      match s.checked[i]? with
      | none => s
      | some now =>
          { s with
            checked := s.checked.eraseIdx i
            verifying := s.verifying ++ [now]
            round := s.round ++ [s.clock] }
  | LoginEvent.update i verified =>
      match s.verifying[i]? with
      | none => s
      | some now => s.finish i now verified

structure Start (s : LoginServer) : Prop where
  guard : s.guard = LoginGuard.init
  checked : s.checked = []
  verifying : s.verifying = []
  round : s.round = []
  rounds : s.rounds = []

/-- The password verifications that were started in the period from a time on. -/
def verifications (s : LoginServer) (start : Instant) : Nat :=
  inWindow start lockTime (s.round :: s.rounds).flatten

end LoginServer

def loginServer : Machine LoginServer LoginEvent where
  start := LoginServer.Start
  step := LoginServer.step

/-- No password is right. -/
def NoLogin (_ : LoginServer) : LoginEvent -> Prop
  | LoginEvent.update _ verified => verified = false
  | _ => True

/--
A request that passes the check has its place among the five of its round.  A verification of
an earlier round is covered by the lock, as it is when that was set from a clock reading not
before its start, or it was started a lock time ago.
-/
def Counted (s : LoginServer) : LoginEvent -> Prop
  | LoginEvent.post =>
      s.guard.refusal s.clock = none ->
        s.guard.fails + s.checked.length + s.verifying.length < LOGIN_MAX_FAILS ∧
          forall t, t ∈ s.rounds.flatten ->
            t + lockTime <= s.guard.lockUntil ∨ t + lockTime <= s.clock
  | _ => True

instance (s : LoginServer) (e : LoginEvent) : Decidable (NoLogin s e) :=
  match e with
  | LoginEvent.update _ verified => inferInstanceAs (Decidable (verified = false))
  | LoginEvent.wait _ => isTrue trivial
  | LoginEvent.post => isTrue trivial
  | LoginEvent.verify _ => isTrue trivial

instance (s : LoginServer) (e : LoginEvent) : Decidable (Counted s e) :=
  match e with
  | LoginEvent.post => inferInstanceAs (Decidable (s.guard.refusal s.clock = none -> _ ∧ _))
  | LoginEvent.wait _ => isTrue trivial
  | LoginEvent.verify _ => isTrue trivial
  | LoginEvent.update _ _ => isTrue trivial

/-!
## Rounds of five
-/

/-- The places of a round are booked at the check, and rounds are a lock time apart. -/
structure Booked (s : LoginServer) : Prop where
  places : s.guard.fails + s.checked.length + s.verifying.length <= LOGIN_MAX_FAILS
  started : s.round.length = s.guard.fails + s.verifying.length
  small : forall round, round ∈ s.rounds -> round.length <= LOGIN_MAX_FAILS
  past : forall now, now ∈ s.checked -> now <= s.clock
  waited : forall now, now ∈ s.checked -> forall t, t ∈ s.rounds.flatten -> t + lockTime <= now
  apart : (s.round :: s.rounds).Pairwise (fun later earlier =>
    forall t, t ∈ later -> forall t', t' ∈ earlier -> t' + lockTime <= t)

theorem booked_start {s : LoginServer} (h : s.Start) : Booked s := by
  constructor
  · rw [h.guard, h.checked, h.verifying]
    decide
  · rw [h.round, h.guard, h.verifying]
    rfl
  · rw [h.rounds]
    exact fun _ hround => nomatch hround
  · rw [h.checked]
    exact fun _ hnow => nomatch hnow
  · rw [h.checked]
    exact fun _ hnow => nomatch hnow
  · rw [h.round, h.rounds]
    exact List.pairwise_singleton _ _

theorem refusal_none {g : LoginGuard} {now : Instant} (h : g.refusal now = none) :
    g.lockUntil <= now := by
  rw [LoginGuard.refusal] at h
  by_cases hlocked : now < g.lockUntil
  · rw [if_pos hlocked] at h
    cases h
  · exact Int.not_lt.mp hlocked

section Steps

variable {s : LoginServer}

theorem Booked.wait (h : Booked s) (micros : Nat) : Booked (s.step (LoginEvent.wait micros)) where
  places := h.places
  started := h.started
  small := h.small
  past := by
    intro now hnow
    have hle := h.past now hnow
    show now <= s.clock + micros
    exact Int.le_trans hle (Int.le_add_of_nonneg_right (Int.natCast_nonneg micros))
  waited := h.waited
  apart := h.apart

theorem Booked.post (h : Booked s) (hcounted : Counted s LoginEvent.post) :
    Booked (s.step LoginEvent.post) := by
  cases hrefusal : s.guard.refusal s.clock with
  | some error =>
      rw [LoginServer.step, hrefusal]
      exact h
  | none =>
      rcases hcounted hrefusal with ⟨hplace, hwaited⟩
      rw [LoginServer.step, hrefusal]
      constructor
      · show s.guard.fails + (s.checked ++ [s.clock]).length + s.verifying.length <= _
        rw [List.length_append, List.length_singleton]
        omega
      · exact h.started
      · exact h.small
      · intro now hnow
        rcases List.mem_append.mp hnow with hold | hnew
        · exact h.past now hold
        · rw [List.mem_singleton.mp hnew]
      · intro now hnow t ht
        rcases List.mem_append.mp hnow with hold | hnew
        · exact h.waited now hold t ht
        · rw [List.mem_singleton.mp hnew]
          rcases hwaited t ht with hcovered | hover
          · exact Int.le_trans hcovered (refusal_none hrefusal)
          · exact hover
      · exact h.apart

theorem Booked.verify (h : Booked s) (i : Nat) : Booked (s.step (LoginEvent.verify i)) := by
  cases hnow : s.checked[i]? with
  | none =>
      rw [LoginServer.step, hnow]
      exact h
  | some now =>
      have hchecked := List.mem_of_getElem? hnow
      have hlength := List.length_eraseIdx_add_one (List.getElem?_eq_some_iff.mp hnow).1
      rw [LoginServer.step, hnow]
      constructor
      · show s.guard.fails + (s.checked.eraseIdx i).length + (s.verifying ++ [now]).length <= _
        rw [List.length_append, List.length_singleton]
        have hplaces := h.places
        omega
      · show (s.round ++ [s.clock]).length = s.guard.fails + (s.verifying ++ [now]).length
        rw [List.length_append, List.length_append, h.started]
        exact Nat.add_assoc _ _ _
      · exact h.small
      · intro now' hnow'
        exact h.past now' (List.mem_of_mem_eraseIdx hnow')
      · intro now' hnow'
        exact h.waited now' (List.mem_of_mem_eraseIdx hnow')
      · rcases List.pairwise_cons.mp h.apart with ⟨hhead, htail⟩
        apply List.pairwise_cons.mpr
        refine ⟨?_, htail⟩
        intro earlier hearlier t ht t' ht'
        rcases List.mem_append.mp ht with hold | hnew
        · exact hhead earlier hearlier t hold t' ht'
        · -- the verification starts after the check, which waited for the earlier rounds
          rw [List.mem_singleton.mp hnew]
          exact Int.le_trans
            (h.waited now hchecked t' (List.mem_flatten.mpr ⟨earlier, hearlier, ht'⟩))
            (h.past now hchecked)

theorem update_wrong (g : LoginGuard) (now : Instant) :
    (g.fails + 1 < LOGIN_MAX_FAILS ∧
        (g.update now false).1 = { g with fails := g.fails + 1 }) ∨
      (LOGIN_MAX_FAILS <= g.fails + 1 ∧
        (g.update now false).1 = { fails := 0, lockUntil := now + lockTime }) := by
  rw [LoginGuard.update, if_neg Bool.false_ne_true]
  by_cases hlast : LOGIN_MAX_FAILS <= g.fails + 1
  · rw [if_pos hlast]
    exact Or.inr ⟨hlast, rfl⟩
  · rw [if_neg hlast]
    exact Or.inl ⟨Nat.lt_of_not_le hlast, rfl⟩

theorem Booked.update (h : Booked s) (i : Nat) :
    Booked (s.step (LoginEvent.update i false)) := by
  cases hnow : s.verifying[i]? with
  | none =>
      rw [LoginServer.step, hnow]
      exact h
  | some now =>
      have hlength := List.length_eraseIdx_add_one (List.getElem?_eq_some_iff.mp hnow).1
      have hplaces := h.places
      have hstarted := h.started
      rw [LoginServer.step, hnow]
      show Booked (s.finish i now false)
      rw [LoginServer.finish]
      rcases update_wrong s.guard now with ⟨hfew, hguard⟩ | ⟨hlast, hguard⟩
      · rw [hguard]
        simp only [Nat.add_eq_zero_iff, one_ne_zero, and_false, if_false]
        constructor
        · show s.guard.fails + 1 + s.checked.length + (s.verifying.eraseIdx i).length <= _
          omega
        · show s.round.length = s.guard.fails + 1 + (s.verifying.eraseIdx i).length
          omega
        · exact h.small
        · exact h.past
        · exact h.waited
        · exact h.apart
      · -- the fifth failure: all places of the round are used, and no request is under way
        have hnone : s.checked = [] := List.eq_nil_of_length_eq_zero (by omega)
        rw [hguard]
        simp only [if_true]
        constructor
        · show 0 + s.checked.length + (s.verifying.eraseIdx i).length <= _
          omega
        · show 0 = 0 + (s.verifying.eraseIdx i).length
          omega
        · intro round hround
          rcases List.mem_cons.mp hround with hnew | hold
          · rw [hnew]
            omega
          · exact h.small round hold
        · exact h.past
        · show forall now, now ∈ s.checked -> _
          rw [hnone]
          exact fun _ hchecked => nomatch hchecked
        · apply List.pairwise_cons.mpr
          exact ⟨fun _ _ _ ht => (nomatch ht), h.apart⟩

theorem Booked.step (h : Booked s) {e : LoginEvent} (hwrong : NoLogin s e)
    (hcounted : Counted s e) : Booked (s.step e) := by
  cases e with
  | wait micros => exact h.wait micros
  | post => exact h.post hcounted
  | verify i => exact h.verify i
  | update i verified =>
      cases hwrong
      exact h.update i

end Steps

/-- No more than five verifications are started in any period of the lock time. -/
theorem login_verifications_bounded {s : LoginServer}
    (hreach : loginServer.Reachable (fun s e => NoLogin s e ∧ Counted s e) s)
    (start : Instant) : s.verifications start <= LOGIN_MAX_FAILS := by
  have h : Booked s := hreach.invariant (I := Booked) (fun _ hs => booked_start hs)
    (fun _ _ hs hguard => hs.step hguard.left hguard.right)
  apply inWindow_flatten_le _ h.apart
  intro round hround
  have hplaces := h.places
  have hstarted := h.started
  rcases List.mem_cons.mp hround with hnew | hold
  · rw [hnew]
    omega
  · exact h.small round hold

/-!
## Requests that wait for each other
-/

/-- A request comes when none is under way, and its verification starts at once. -/
def InTurn (s : LoginServer) : LoginEvent -> Prop
  | LoginEvent.wait _ => s.checked = []
  | LoginEvent.post => s.checked = [] ∧ s.verifying = []
  | LoginEvent.verify _ => True
  | LoginEvent.update _ _ => True

/-- The lock is measured from the last verification of the round. -/
structure Sequential (s : LoginServer) : Prop where
  one : s.checked.length + s.verifying.length <= 1
  few : s.guard.fails < LOGIN_MAX_FAILS
  fresh : forall now, now ∈ s.checked -> now = s.clock ∧ s.guard.lockUntil <= now
  last : forall now, now ∈ s.verifying ->
    s.guard.lockUntil <= now ∧ forall t, t ∈ s.round -> t <= now
  past : forall t, t ∈ s.round -> t <= s.clock
  locked : forall t, t ∈ s.rounds.flatten -> t + lockTime <= s.guard.lockUntil

theorem sequential_start {s : LoginServer} (h : s.Start) : Sequential s := by
  constructor
  · rw [h.checked, h.verifying]
    decide
  · rw [h.guard]
    decide
  · rw [h.checked]
    exact fun _ hnow => nomatch hnow
  · rw [h.verifying]
    exact fun _ hnow => nomatch hnow
  · rw [h.round]
    exact fun _ ht => nomatch ht
  · rw [h.rounds]
    exact fun _ ht => nomatch ht

section Turns

variable {s : LoginServer}

theorem Sequential.counted (h : Sequential s) {e : LoginEvent} (hturn : InTurn s e) :
    Counted s e := by
  cases e with
  | wait micros => exact trivial
  | verify i => exact trivial
  | update i verified => exact trivial
  | post =>
      intro hrefusal
      rw [hturn.left, hturn.right]
      exact ⟨h.few, fun t ht => Or.inl (h.locked t ht)⟩

theorem Sequential.wait (h : Sequential s) {micros : Nat}
    (hturn : InTurn s (LoginEvent.wait micros)) :
    Sequential (s.step (LoginEvent.wait micros)) where
  one := h.one
  few := h.few
  fresh := by
    show forall now, now ∈ s.checked -> _
    have hnone : s.checked = [] := hturn
    rw [hnone]
    exact fun _ hnow => nomatch hnow
  last := h.last
  past := by
    intro t ht
    exact Int.le_trans (h.past t ht) (Int.le_add_of_nonneg_right (Int.natCast_nonneg micros))
  locked := h.locked

theorem Sequential.post (h : Sequential s) (hturn : InTurn s LoginEvent.post) :
    Sequential (s.step LoginEvent.post) := by
  cases hrefusal : s.guard.refusal s.clock with
  | some error =>
      rw [LoginServer.step, hrefusal]
      exact h
  | none =>
      rw [LoginServer.step, hrefusal]
      constructor
      · show (s.checked ++ [s.clock]).length + s.verifying.length <= 1
        rw [hturn.left, hturn.right]
        exact Nat.le_refl 1
      · exact h.few
      · show forall now, now ∈ s.checked ++ [s.clock] -> _
        rw [hturn.left]
        intro now hnow
        rw [List.mem_singleton.mp hnow]
        exact ⟨rfl, refusal_none hrefusal⟩
      · exact h.last
      · exact h.past
      · exact h.locked

theorem Sequential.verify (h : Sequential s) (i : Nat) :
    Sequential (s.step (LoginEvent.verify i)) := by
  cases hnow : s.checked[i]? with
  | none =>
      rw [LoginServer.step, hnow]
      exact h
  | some now =>
      have hlength := List.length_eraseIdx_add_one (List.getElem?_eq_some_iff.mp hnow).1
      have hone := h.one
      have hnone : s.verifying = [] := List.eq_nil_of_length_eq_zero (by omega)
      rcases h.fresh now (List.mem_of_getElem? hnow) with ⟨hclock, hopen⟩
      rw [LoginServer.step, hnow]
      constructor
      · show (s.checked.eraseIdx i).length + (s.verifying ++ [now]).length <= 1
        rw [List.length_append, List.length_singleton]
        omega
      · exact h.few
      · intro now' hnow'
        exact h.fresh now' (List.mem_of_mem_eraseIdx hnow')
      · show forall now', now' ∈ s.verifying ++ [now] -> _
        rw [hnone]
        intro now' hnow'
        rw [List.mem_singleton.mp hnow']
        refine ⟨hopen, ?_⟩
        intro t ht
        rw [hclock]
        rcases List.mem_append.mp ht with hold | hnew
        · exact h.past t hold
        · exact Int.le_of_eq (List.mem_singleton.mp hnew)
      · intro t ht
        rcases List.mem_append.mp ht with hold | hnew
        · exact h.past t hold
        · exact Int.le_of_eq (List.mem_singleton.mp hnew)
      · exact h.locked

theorem Sequential.update (h : Sequential s) (i : Nat) :
    Sequential (s.step (LoginEvent.update i false)) := by
  cases hnow : s.verifying[i]? with
  | none =>
      rw [LoginServer.step, hnow]
      exact h
  | some now =>
      have hlength := List.length_eraseIdx_add_one (List.getElem?_eq_some_iff.mp hnow).1
      have hone := h.one
      have hchecked : s.checked = [] := List.eq_nil_of_length_eq_zero (by omega)
      have hverifying : s.verifying.eraseIdx i = [] := List.eq_nil_of_length_eq_zero (by omega)
      rcases h.last now (List.mem_of_getElem? hnow) with ⟨hopen, hlast⟩
      rw [LoginServer.step, hnow]
      show Sequential (s.finish i now false)
      rw [LoginServer.finish, hverifying]
      rcases update_wrong s.guard now with ⟨hfew, hguard⟩ | ⟨_, hguard⟩
      · rw [hguard]
        simp only [Nat.add_eq_zero_iff, one_ne_zero, and_false, if_false]
        constructor
        · show s.checked.length + 0 <= 1
          omega
        · exact hfew
        · exact h.fresh
        · exact fun _ hnone => nomatch hnone
        · exact h.past
        · exact h.locked
      · rw [hguard]
        simp only [if_true]
        constructor
        · show s.checked.length + 0 <= 1
          omega
        · exact Nat.zero_lt_succ 4
        · show forall now, now ∈ s.checked -> _
          rw [hchecked]
          exact fun _ hnone => nomatch hnone
        · exact fun _ hnone => nomatch hnone
        · exact fun _ hnone => nomatch hnone
        · show forall t, t ∈ (s.round :: s.rounds).flatten -> t + lockTime <= now + lockTime
          intro t ht
          apply Int.add_le_add_right
          rcases List.mem_append.mp ht with hround | hearlier
          · exact hlast t hround
          · have hgap := h.locked t hearlier
            have hpositive : 0 <= lockTime := by decide
            exact Int.le_trans (Int.le_add_of_nonneg_right hpositive)
              (Int.le_trans hgap hopen)

theorem Sequential.step (h : Sequential s) {e : LoginEvent} (hwrong : NoLogin s e)
    (hturn : InTurn s e) : Sequential (s.step e) := by
  cases e with
  | wait micros => exact h.wait hturn
  | post => exact h.post hturn
  | verify i => exact h.verify i
  | update i verified =>
      cases hwrong
      exact h.update i

end Turns

theorem in_turn_counted {s : LoginServer}
    (hreach : loginServer.Reachable (fun s e => NoLogin s e ∧ InTurn s e) s) :
    loginServer.Reachable (fun s e => NoLogin s e ∧ Counted s e) s := by
  have h : Sequential s ∧ loginServer.Reachable (fun s e => NoLogin s e ∧ Counted s e) s :=
    hreach.invariant
      (I := fun s => Sequential s ∧
        loginServer.Reachable (fun s e => NoLogin s e ∧ Counted s e) s)
      (fun _ hs => ⟨sequential_start hs, Machine.Reachable.start hs⟩)
      (fun _ e hs hguard => ⟨hs.left.step hguard.left hguard.right,
        hs.right.step e ⟨hguard.left, hs.left.counted hguard.right⟩⟩)
  exact h.right

/-!
Five wrong passwords one after the other, a request that finds the lock, and five more when
it has run out; and six requests at once.
-/

def freshServer : LoginServer where
  clock := 1000000
  guard := LoginGuard.init
  checked := []
  verifying := []
  round := []
  rounds := []

theorem freshServer_start : freshServer.Start :=
  ⟨rfl, rfl, rfl, rfl, rfl⟩

def wrongPassword : List LoginEvent :=
  [LoginEvent.post, LoginEvent.verify 0, LoginEvent.wait 100000, LoginEvent.update 0 false]

def patientGuesses : List LoginEvent :=
  (List.replicate 5 wrongPassword).flatten ++ [LoginEvent.post, LoginEvent.wait 60000000] ++
    (List.replicate 5 wrongPassword).flatten

theorem login_verifications_bounded_patient :
    (loginServer.exec freshServer patientGuesses).verifications 1000000 <= LOGIN_MAX_FAILS :=
  login_verifications_bounded
    ⟨_, Machine.Run.exec (Machine.Run.start freshServer_start) patientGuesses (by decide)⟩
    1000000

def parallelGuesses : List LoginEvent :=
  List.replicate 6 LoginEvent.post ++ List.replicate 6 (LoginEvent.verify 0)

/-- Six requests pass the check before the first one fails. -/
theorem parallel_guesses_unbounded :
    ¬ forall s, loginServer.Reachable NoLogin s -> forall start,
      s.verifications start <= LOGIN_MAX_FAILS := by
  intro hclaim
  have hrun : loginServer.Run NoLogin [] freshServer := Machine.Run.start freshServer_start
  have hbound := hclaim (loginServer.exec freshServer parallelGuesses)
    ⟨_, hrun.exec parallelGuesses (by decide)⟩ 1000000
  revert hbound
  decide

end Web
end PanicMonitr
