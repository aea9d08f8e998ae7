import Mathlib.Data.List.Basic

/-!
# Event machines and their runs

A machine takes one event at a time; everything the environment chooses (clock
readings, outcomes of calls, crash points) is part of the event.  A run keeps the
states it went through, so that a property may speak about the past.
-/

namespace PanicMonitr
namespace Foundation

structure Machine (state event : Type _) where
  start : state -> Prop
  step : state -> event -> state

namespace Machine

variable {state event : Type _}

/--
Runs of a machine whose steps all meet a guard.  The list holds the earlier
states, newest first.
-/
inductive Run (M : Machine state event) (guard : state -> event -> Prop) :
    List state -> state -> Prop where
  | start {s : state} : M.start s -> Run M guard [] s
  | step {past : List state} {s : state} (e : event) :
      Run M guard past s -> guard s e -> Run M guard (s :: past) (M.step s e)

def Reachable (M : Machine state event) (guard : state -> event -> Prop)
    (s : state) : Prop :=
  exists past, Run M guard past s

/-!
## Rules

An invariant that starts true and survives every guarded step is true in every
state of a run; the second rule lets the invariant speak about the past as well.
-/

theorem Run.invariant {M : Machine state event}
    {guard : state -> event -> Prop} {I : state -> Prop}
    (hstart : forall s, M.start s -> I s)
    (hstep : forall s e, I s -> guard s e -> I (M.step s e))
    {past : List state} {s : state} (hrun : Run M guard past s) : I s := by
  induction hrun with
  | start hs => exact hstart _ hs
  | step e _ hguard ih => exact hstep _ e ih hguard

theorem Run.invariant_past {M : Machine state event}
    {guard : state -> event -> Prop} {I : List state -> state -> Prop}
    (hstart : forall s, M.start s -> I [] s)
    (hstep : forall past s e, I past s -> guard s e ->
      I (s :: past) (M.step s e))
    {past : List state} {s : state} (hrun : Run M guard past s) : I past s := by
  induction hrun with
  | start hs => exact hstart _ hs
  | step e _ hguard ih => exact hstep _ _ e ih hguard

theorem Run.mono {M : Machine state event}
    {guard guard' : state -> event -> Prop}
    (hguard : forall s e, guard s e -> guard' s e)
    {past : List state} {s : state} (hrun : Run M guard past s) :
    Run M guard' past s := by
  induction hrun with
  | start hs => exact Run.start hs
  | step e _ he ih => exact Run.step e ih (hguard _ e he)

theorem Reachable.invariant {M : Machine state event}
    {guard : state -> event -> Prop} {I : state -> Prop}
    (hstart : forall s, M.start s -> I s)
    (hstep : forall s e, I s -> guard s e -> I (M.step s e))
    {s : state} (hreach : Reachable M guard s) : I s := by
  rcases hreach with ⟨past, hrun⟩
  exact hrun.invariant hstart hstep

theorem Reachable.start {M : Machine state event} {guard : state -> event -> Prop} {s : state}
    (hs : M.start s) : Reachable M guard s :=
  ⟨[], Run.start hs⟩

theorem Reachable.step {M : Machine state event} {guard : state -> event -> Prop} {s : state}
    (h : Reachable M guard s) (e : event) (hguard : guard s e) :
    Reachable M guard (M.step s e) := by
  rcases h with ⟨past, hrun⟩
  exact ⟨s :: past, Run.step e hrun hguard⟩

theorem Reachable.mono {M : Machine state event} {guard guard' : state -> event -> Prop}
    (hguard : forall s e, guard s e -> guard' s e) {s : state} (h : Reachable M guard s) :
    Reachable M guard' s := by
  rcases h with ⟨past, hrun⟩
  exact ⟨past, hrun.mono hguard⟩

/-!
## Executing a list of events
-/

def exec (M : Machine state event) : state -> List event -> state
  | s, [] => s
  | s, e :: es => M.exec (M.step s e) es

theorem exec_append (M : Machine state event) (s : state) (es es' : List event) :
    M.exec s (es ++ es') = M.exec (M.exec s es) es' := by
  induction es generalizing s with
  | nil => rfl
  | cons e es ih => exact ih (M.step s e)

theorem exec_invariant {M : Machine state event} {P : event -> Prop} {I : state -> Prop}
    (hstep : forall s e, I s -> P e -> I (M.step s e)) {s : state} (hs : I s)
    {es : List event} (hes : forall e, e ∈ es -> P e) : I (M.exec s es) := by
  induction es generalizing s with
  | nil => exact hs
  | cons e es ih =>
      exact ih (hstep s e hs (hes e (List.mem_cons_self ..)))
        (fun e' he' => hes e' (List.mem_cons_of_mem e he'))

/-- Every event of the list meets the guard in the state it is taken in. -/
def Guarded (M : Machine state event) (guard : state -> event -> Prop) :
    state -> List event -> Prop
  | _, [] => True
  | s, e :: es => guard s e ∧ M.Guarded guard (M.step s e) es

instance decidableGuarded (M : Machine state event) (guard : state -> event -> Prop)
    [forall s e, Decidable (guard s e)] :
    (s : state) -> (es : List event) -> Decidable (M.Guarded guard s es)
  | _, [] => isTrue trivial
  | s, e :: es =>
      have := decidableGuarded M guard (M.step s e) es
      inferInstanceAs (Decidable (guard s e ∧ M.Guarded guard (M.step s e) es))

/-- The states passed through by `exec`, newest first, on top of `past`. -/
def trail (M : Machine state event) :
    List state -> state -> List event -> List state
  | past, _, [] => past
  | past, s, e :: es => M.trail (s :: past) (M.step s e) es

theorem mem_trail {M : Machine state event} {past : List state} {s t : state}
    {es : List event} (h : t ∈ past) : t ∈ M.trail past s es := by
  induction es generalizing past s with
  | nil => exact h
  | cons e es ih => exact ih (List.mem_cons_of_mem s h)

theorem Run.exec {M : Machine state event} {guard : state -> event -> Prop}
    {past : List state} {s : state} (hrun : Run M guard past s)
    (es : List event) (hguard : M.Guarded guard s es) :
    Run M guard (M.trail past s es) (M.exec s es) := by
  induction es generalizing past s with
  | nil => exact hrun
  | cons e es ih => exact ih (Run.step e hrun hguard.left) hguard.right

/--
One machine follows another over a list of events, when the relation between their states
survives every guarded step.
-/
theorem exec_simulation {state' : Type _} {M : Machine state event} {N : Machine state' event}
    {guard : state -> event -> Prop} {R : state -> state' -> Prop}
    (hstep : forall s t e, R s t -> guard s e -> R (M.step s e) (N.step t e))
    {s : state} {t : state'} (h : R s t) {es : List event} (hes : M.Guarded guard s es) :
    R (M.exec s es) (N.exec t es) := by
  induction es generalizing s t with
  | nil => exact h
  | cons e es ih => exact ih (hstep s t e h hes.left) hes.right

/-!
## Endless schedules
-/

def along (M : Machine state event) (s : state) (events : Nat -> event) : Nat -> state
  | 0 => s
  | n + 1 => M.step (M.along s events n) (events n)

theorem along_invariant {M : Machine state event} {I : state -> Prop} {s : state} (hs : I s)
    (hstep : forall s e, I s -> I (M.step s e)) (events : Nat -> event) (n : Nat) :
    I (M.along s events n) := by
  induction n with
  | zero => exact hs
  | succ n ih => exact hstep _ _ ih

section Progress

variable {M : Machine state event} {measure : state -> Nat}

theorem along_measure_le (hkeeps : forall s e, measure (M.step s e) <= measure s) (s : state)
    (events : Nat -> event) {n m : Nat} (h : n <= m) :
    measure (M.along s events m) <= measure (M.along s events n) := by
  induction h with
  | refl => exact Nat.le_refl _
  | step _ ih => exact Nat.le_trans (hkeeps _ _) ih

/--
A measure that no step raises, and that a fair step lowers, comes to zero and stays there
when fair events never stop coming.
-/
theorem along_measure_zero {fair : event -> Prop}
    (hkeeps : forall s e, measure (M.step s e) <= measure s)
    (hlowers : forall s e, fair e -> measure s ≠ 0 -> measure (M.step s e) < measure s)
    (s : state) {events : Nat -> event} (hfair : forall i, exists j, i <= j ∧ fair (events j)) :
    exists n, forall m, n <= m -> measure (M.along s events m) = 0 := by
  have hreaches : forall bound i, measure (M.along s events i) <= bound ->
      exists n, measure (M.along s events n) = 0 := by
    intro bound
    induction bound with
    | zero => exact fun i hi => ⟨i, Nat.le_zero.mp hi⟩
    | succ bound ih =>
        intro i hi
        rcases hfair i with ⟨j, hij, hj⟩
        have hbound := Nat.le_trans (along_measure_le hkeeps s events hij) hi
        by_cases hzero : measure (M.along s events j) = 0
        · exact ⟨j, hzero⟩
        · have hless := hlowers _ _ hj hzero
          exact ih (j + 1) (by show measure (M.step _ _) <= bound; omega)
  rcases hreaches _ 0 (Nat.le_refl _) with ⟨n, hn⟩
  exact ⟨n, fun m hm => Nat.le_zero.mp (hn ▸ along_measure_le hkeeps s events hm)⟩

end Progress

end Machine

end Foundation
end PanicMonitr
