import Mathlib.Data.List.Infix

/-!
# Scripts that can be cut off

A script runs in phases: each looks at the state it finds and then runs a list of atomic
statements.  A crash leaves the state after some prefix of the statements.  Where a state
has parts and every statement belongs to one of them, a script is one script for each
part, run side by side.
-/

namespace PanicMonitr
namespace Foundation

variable {state stmt err : Type _}

/-!
## Running
-/

/-- Statements one after the other, up to the first that fails. -/
def execAll (exec : stmt -> state -> Except err state) :
    List stmt -> state -> Except err state
  | [], s => Except.ok s
  | t :: ts, s =>
      match exec t s with
      | Except.ok s' => execAll exec ts s'
      | Except.error e => Except.error e

/-- The statements a script runs, the one that fails included. -/
def statements (exec : stmt -> state -> Except err state) :
    List (state -> List stmt) -> state -> List stmt
  | [], _ => []
  | phase :: phases, s =>
      phase s ++
        match execAll exec (phase s) s with
        | Except.ok s' => statements exec phases s'
        | Except.error _ => []

def runScript (exec : stmt -> state -> Except err state)
    (phases : List (state -> List stmt)) (s : state) : Except err state :=
  execAll exec (statements exec phases s) s

section Running

variable {exec : stmt -> state -> Except err state}

theorem execAll_cons_ok {t : stmt} {ts : List stmt} {s m : state}
    (hstep : exec t s = Except.ok m) : execAll exec (t :: ts) s = execAll exec ts m := by
  rw [execAll, hstep]

/-- The first statement of a list that succeeds leaves the state the others start in. -/
theorem of_execAll_cons {t : stmt} {ts : List stmt} {s s' : state}
    (hrun : execAll exec (t :: ts) s = Except.ok s') :
    exists mid, exec t s = Except.ok mid ∧ execAll exec ts mid = Except.ok s' := by
  rw [execAll] at hrun
  cases hstep : exec t s with
  | error e =>
      rw [hstep] at hrun
      cases hrun
  | ok mid =>
      rw [hstep] at hrun
      exact ⟨mid, rfl, hrun⟩

theorem execAll_append_ok {ts us : List stmt} {s s' : state}
    (hrun : execAll exec ts s = Except.ok s') :
    execAll exec (ts ++ us) s = execAll exec us s' := by
  induction ts generalizing s with
  | nil =>
      cases hrun
      rfl
  | cons t ts ih =>
      rcases of_execAll_cons hrun with ⟨mid, hstep, hrest⟩
      rw [List.cons_append, execAll_cons_ok hstep]
      exact ih hrest

theorem runScript_nil (s : state) : runScript exec [] s = Except.ok s := rfl

theorem statements_cons_ok {phase : state -> List stmt} {phases : List (state -> List stmt)}
    {s m : state} (hphase : execAll exec (phase s) s = Except.ok m) :
    statements exec (phase :: phases) s = phase s ++ statements exec phases m := by
  rw [statements, hphase]

theorem runScript_cons_ok {phase : state -> List stmt} {phases : List (state -> List stmt)}
    {s m : state} (hphase : execAll exec (phase s) s = Except.ok m) :
    runScript exec (phase :: phases) s = runScript exec phases m := by
  unfold runScript
  rw [statements_cons_ok hphase, execAll_append_ok hphase]

theorem runScript_cons_error {phase : state -> List stmt}
    {phases : List (state -> List stmt)} {s : state} {e : err}
    (hphase : execAll exec (phase s) s = Except.error e) :
    runScript exec (phase :: phases) s = Except.error e := by
  unfold runScript
  rw [statements, hphase, List.append_nil, hphase]

theorem runScript_cons_inv {phase : state -> List stmt} {phases : List (state -> List stmt)}
    {s s' : state} (hrun : runScript exec (phase :: phases) s = Except.ok s') :
    exists mid, execAll exec (phase s) s = Except.ok mid ∧
      runScript exec phases mid = Except.ok s' := by
  cases hphase : execAll exec (phase s) s with
  | error e =>
      rw [runScript_cons_error hphase] at hrun
      cases hrun
  | ok mid =>
      rw [runScript_cons_ok hphase] at hrun
      exact ⟨mid, rfl, hrun⟩

end Running

/-!
## Crashes
-/

section Crashes

variable {exec : stmt -> state -> Except err state} {phases : List (state -> List stmt)}

end Crashes

/-!
## Parts
-/

/-- A state of independent parts: a statement acts on one of them, or on none. -/
structure Parts (exec : stmt -> state -> Except err state) {index : Type _}
    (state' stmt' : index -> Type _) where
  get : forall i, state -> state' i
  part : forall i, stmt -> Option (stmt' i)
  exec' : forall i, stmt' i -> state' i -> Except err (state' i)
  moves : forall i t u s s', part i t = some u -> exec t s = Except.ok s' ->
    exec' i u (get i s) = Except.ok (get i s')
  stays : forall i t s s', part i t = none -> exec t s = Except.ok s' -> get i s' = get i s
  fails : forall t s e, exec t s = Except.error e ->
    exists i u, part i t = some u ∧ exec' i u (get i s) = Except.error e

namespace Parts

variable {exec : stmt -> state -> Except err state} {index : Type _}
  {state' stmt' : index -> Type _} (P : Parts exec state' stmt')

def seen (i : index) (ts : List stmt) : List (stmt' i) :=
  ts.filterMap (P.part i)

theorem seen_append (i : index) (ts us : List stmt) :
    P.seen i (ts ++ us) = P.seen i ts ++ P.seen i us :=
  List.filterMap_append

theorem seen_map {i : index} {f : stmt' i -> stmt} (hpart : forall u, P.part i (f u) = some u)
    (us : List (stmt' i)) : P.seen i (us.map f) = us := by
  induction us with
  | nil => rfl
  | cons u us ih =>
      rw [List.map_cons, seen, List.filterMap_cons_some (hpart u)]
      exact congrArg (List.cons u) ih

theorem seen_other {other : Type _} {i : index} {f : other -> stmt}
    (hpart : forall u, P.part i (f u) = none) (us : List other) : P.seen i (us.map f) = [] := by
  induction us with
  | nil => rfl
  | cons u us ih =>
      rw [List.map_cons, seen, List.filterMap_cons_none (hpart u)]
      exact ih

theorem execAll_ok {ts : List stmt} {s s' : state} (hrun : execAll exec ts s = Except.ok s')
    (i : index) :
    execAll (P.exec' i) (P.seen i ts) (P.get i s) = Except.ok (P.get i s') := by
  induction ts generalizing s with
  | nil =>
      cases hrun
      rfl
  | cons t ts ih =>
      rcases of_execAll_cons hrun with ⟨mid, hstep, hrest⟩
      unfold seen
      cases hpart : P.part i t with
      | none =>
          rw [List.filterMap_cons_none hpart, ← P.stays i t s mid hpart hstep]
          exact ih hrest
      | some u =>
          rw [List.filterMap_cons_some hpart,
            execAll_cons_ok (P.moves i t u s mid hpart hstep)]
          exact ih hrest

theorem execAll_total {ts : List stmt} {s : state}
    (hparts : forall i, exists x, execAll (P.exec' i) (P.seen i ts) (P.get i s) =
      Except.ok x) :
    exists s', execAll exec ts s = Except.ok s' := by
  induction ts generalizing s with
  | nil => exact ⟨s, rfl⟩
  | cons t ts ih =>
      cases hstep : exec t s with
      | error e =>
          rcases P.fails t s e hstep with ⟨i, u, hpart, hfail⟩
          rcases hparts i with ⟨x, hx⟩
          unfold seen at hx
          rw [List.filterMap_cons_some hpart, execAll, hfail] at hx
          cases hx
      | ok mid =>
          rw [execAll_cons_ok hstep]
          apply ih
          intro i
          rcases hparts i with ⟨x, hx⟩
          refine ⟨x, ?_⟩
          unfold seen at hx
          cases hpart : P.part i t with
          | none =>
              rw [List.filterMap_cons_none hpart, ← P.stays i t s mid hpart hstep] at hx
              exact hx
          | some u =>
              rw [List.filterMap_cons_some hpart,
                execAll_cons_ok (P.moves i t u s mid hpart hstep)] at hx
              exact hx

structure Phase where
  run : state -> List stmt
  parts : forall i, state' i -> List (stmt' i)
  agree : forall i s, P.seen i (run s) = parts i (P.get i s)

variable {P}

def whole (script : List P.Phase) : List (state -> List stmt) :=
  script.map Phase.run

def ofPart (script : List P.Phase) (i : index) : List (state' i -> List (stmt' i)) :=
  script.map (fun phase => phase.parts i)

theorem runScript_ok {script : List P.Phase} {s s' : state}
    (hrun : runScript exec (whole script) s = Except.ok s') (i : index) :
    runScript (P.exec' i) (ofPart script i) (P.get i s) = Except.ok (P.get i s') := by
  induction script generalizing s with
  | nil =>
      cases hrun
      rfl
  | cons phase script ih =>
      rcases runScript_cons_inv hrun with ⟨mid, hphase, hrest⟩
      have hseen := P.execAll_ok hphase i
      rw [phase.agree i s] at hseen
      show runScript (P.exec' i) (phase.parts i :: ofPart script i) (P.get i s) = _
      rw [runScript_cons_ok hseen]
      exact ih hrest

theorem runScript_total {script : List P.Phase} {s : state}
    (hparts : forall i, exists x,
      runScript (P.exec' i) (ofPart script i) (P.get i s) = Except.ok x) :
    exists s', runScript exec (whole script) s = Except.ok s' := by
  induction script generalizing s with
  | nil => exact ⟨s, rfl⟩
  | cons phase script ih =>
      have hfirst : forall i, exists x,
          execAll (P.exec' i) (P.seen i (phase.run s)) (P.get i s) = Except.ok x := by
        intro i
        rcases hparts i with ⟨x, hx⟩
        rcases runScript_cons_inv hx with ⟨mid, hmid, _⟩
        rw [phase.agree i s]
        exact ⟨mid, hmid⟩
      rcases P.execAll_total hfirst with ⟨mid, hmid⟩
      show exists s', runScript exec (phase.run :: whole script) s = Except.ok s'
      rw [runScript_cons_ok hmid]
      apply ih
      intro i
      rcases hparts i with ⟨x, hx⟩
      have hseen := P.execAll_ok hmid i
      rw [phase.agree i s] at hseen
      rw [← runScript_cons_ok hseen]
      exact ⟨x, hx⟩

end Parts

end Foundation
end PanicMonitr
