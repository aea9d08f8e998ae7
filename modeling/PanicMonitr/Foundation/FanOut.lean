import Mathlib.Algebra.Order.BigOperators.Group.List
import Mathlib.Data.Int.Basic
import Mathlib.Tactic.Linarith
import Mathlib.Tactic.Ring

/-!
# Tasks that share a number of permits

Tasks that are started together wait for a permit in their order, hold it for a limited time and
give it back.  A free permit is taken at once, so that a bound on one hold is a bound on all of
them together.
-/

namespace PanicMonitr
namespace Foundation

/-- `running` has with each task the time at which it got its permit. -/
structure FanOut (item : Type) where
  began : Int
  waiting : List item
  running : List (item × Int)

namespace FanOut

variable {item : Type}

def opened (now : Int) (items : List item) : FanOut item :=
  ⟨now, items, []⟩

/-- The first one in the queue gets a permit, if one is free. -/
def acquire (permits : Nat) (now : Int) (f : FanOut item) : FanOut item :=
  match f.waiting with
  | [] => f
  | x :: rest =>
      if f.running.length < permits then
        { f with waiting := rest, running := f.running ++ [(x, now)] }
      else f

def release (i : Nat) (f : FanOut item) : FanOut item :=
  { f with running := f.running.eraseIdx i }

def items (f : FanOut item) : List item :=
  f.waiting ++ f.running.map Prod.fst

/-- Nothing is due before this time: no permit is free for a waiting task, and no hold is over. -/
def Idle (permits : Nat) (limit : Int) (f : FanOut item) (time : Int) : Prop :=
  (f.waiting = [] ∨ permits <= f.running.length) ∧
    forall hold, hold ∈ f.running -> time <= hold.2 + limit

instance (permits : Nat) (limit : Int) (f : FanOut item) (time : Int) :
    Decidable (f.Idle permits limit time) :=
  have : Decidable (f.waiting = []) := decidable_of_iff (f.waiting.isEmpty = true) (by simp)
  inferInstanceAs (Decidable (_ ∧ _))

/-!
## Who is where
-/

theorem acquire_cases (permits : Nat) (now : Int) (f : FanOut item) :
    f.acquire permits now = f ∨ exists x rest, f.waiting = x :: rest ∧
      f.running.length < permits ∧
      f.acquire permits now = { f with waiting := rest, running := f.running ++ [(x, now)] } := by
  unfold acquire
  split
  · exact Or.inl rfl
  · rename_i x rest hwaiting
    split
    · rename_i hfree
      exact Or.inr ⟨x, rest, hwaiting, hfree, rfl⟩
    · exact Or.inl rfl

theorem acquire_began (permits : Nat) (now : Int) (f : FanOut item) :
    (f.acquire permits now).began = f.began := by
  rcases acquire_cases permits now f with hsame | ⟨_, _, _, _, hacquired⟩
  · rw [hsame]
  · rw [hacquired]

theorem items_acquire (permits : Nat) (now : Int) (f : FanOut item) :
    (f.acquire permits now).items.Perm f.items := by
  rcases acquire_cases permits now f with hsame | ⟨x, rest, hwaiting, _, hacquired⟩
  · rw [hsame]
  · rw [hacquired]
    show (rest ++ (f.running ++ [(x, now)]).map Prod.fst).Perm
      (f.waiting ++ f.running.map Prod.fst)
    rw [hwaiting, List.map_append, ← List.append_assoc]
    exact List.perm_append_singleton x _

theorem running_release {f : FanOut item} {i : Nat} {hold : item × Int}
    (hi : f.running[i]? = some hold) : f.running.Perm (hold :: (f.release i).running) := by
  rcases List.getElem?_eq_some_iff.mp hi with ⟨hlt, rfl⟩
  exact (List.getElem_cons_eraseIdx_perm hlt).symm

theorem items_release {f : FanOut item} {i : Nat} {hold : item × Int}
    (hi : f.running[i]? = some hold) : f.items.Perm (hold.1 :: (f.release i).items) := by
  have hmoved : (f.running.map Prod.fst).Perm (hold.1 :: (f.release i).running.map Prod.fst) :=
    (running_release hi).map Prod.fst
  exact (hmoved.append_left f.waiting).trans List.perm_middle

/-!
## How long it takes

While somebody waits every permit is in use, so the time that has passed is paid for by the holds
so far; each of these is limited.
-/

section Time

variable {permits : Nat} {limit : Int} {count : Nat} {now : Int} {f : FanOut item}

/-- The time the present holds have lasted, all together. -/
def held (f : FanOut item) (now : Int) : Int :=
  (f.running.map (fun hold => now - hold.2)).sum

structure Sound (permits : Nat) (limit : Int) (count : Nat) (now : Int) (f : FanOut item) :
    Prop where
  begun : f.began <= now
  served : f.running.length <= permits
  counted : f.waiting.length + f.running.length <= count
  holds : forall hold, hold ∈ f.running -> hold.2 <= now ∧ now <= hold.2 + limit ∧
    permits * (hold.2 - f.began) <= limit * (count - 1)
  /-- The holds that are over have taken so much. -/
  paid : f.waiting ≠ [] -> exists worked : Int,
    worked <= limit * (count - f.waiting.length - f.running.length) ∧
      permits * (now - f.began) <= worked + f.held now

theorem opened_sound (hlimit : 0 <= limit) {tasks : List item} (hcount : tasks.length <= count) :
    (opened now tasks).Sound permits limit count now := by
  constructor
  · exact Int.le_refl now
  · exact Nat.zero_le permits
  · exact hcount
  · exact fun _ hhold => (List.not_mem_nil hhold).elim
  · intro _
    have hrest : (0 : Int) <= (count : Int) - tasks.length - ([] : List (item × Int)).length := by
      simp only [List.length_nil]
      omega
    refine ⟨0, mul_nonneg hlimit hrest, ?_⟩
    simp [opened, held]

theorem held_le (h : f.Sound permits limit count now) :
    f.held now <= limit * f.running.length := by
  have hall : forall x, x ∈ f.running.map (fun hold => now - hold.2) -> x <= limit := by
    intro x hx
    rcases List.mem_map.mp hx with ⟨hold, hhold, rfl⟩
    have := (h.holds hold hhold).right.left
    linarith
  have hcard := List.sum_le_card_nsmul _ limit hall
  rw [List.length_map, nsmul_eq_mul, mul_comm] at hcard
  exact hcard

/-- As long as somebody waits, all the others have not had their time yet. -/
theorem Sound.waited (h : f.Sound permits limit count now) (hlimit : 0 <= limit)
    (hwaiting : f.waiting ≠ []) : permits * (now - f.began) <= limit * (count - 1) := by
  rcases h.paid hwaiting with ⟨worked, hworked, hpaid⟩
  have hheld := held_le h
  have hlength : (1 : Int) <= f.waiting.length := by
    exact_mod_cast List.length_pos_of_ne_nil hwaiting
  have hless : limit * (count - f.waiting.length) <= limit * ((count : Int) - 1) :=
    mul_le_mul_of_nonneg_left (by linarith) hlimit
  calc permits * (now - f.began) <= worked + f.held now := hpaid
    _ <= limit * (count - f.waiting.length - f.running.length) + limit * f.running.length := by
        linarith
    _ = limit * (count - f.waiting.length) := by ring
    _ <= limit * (count - 1) := hless

theorem Sound.over_by (h : f.Sound permits limit count now) (hlimit : 0 <= limit)
    (hbusy : f.waiting ≠ [] ∨ f.running ≠ []) :
    permits * (now - f.began) <= limit * (count - 1 + permits) := by
  have hpermits : (0 : Int) <= limit * permits := mul_nonneg hlimit (Int.natCast_nonneg _)
  rcases hbusy with hwaiting | hrunning
  · have hwaited := h.waited hlimit hwaiting
    linarith
  · rcases List.exists_mem_of_ne_nil _ hrunning with ⟨hold, hhold⟩
    rcases h.holds hold hhold with ⟨_, hlast, hgot⟩
    have hlasts : permits * (now - hold.2) <= permits * limit :=
      mul_le_mul_of_nonneg_left (by linarith) (Int.natCast_nonneg _)
    calc permits * (now - f.began) = permits * (now - hold.2) + permits * (hold.2 - f.began) := by
          ring
      _ <= permits * limit + limit * (count - 1) := by linarith
      _ = limit * (count - 1 + permits) := by ring

theorem Sound.tick (h : f.Sound permits limit count now) {dt : Nat}
    (hidle : f.Idle permits limit (now + dt)) :
    f.Sound permits limit count (now + dt) := by
  have hlater : now <= now + dt := by omega
  constructor
  · exact Int.le_trans h.begun hlater
  · exact h.served
  · exact h.counted
  · intro hold hhold
    rcases h.holds hold hhold with ⟨hsince, _, hgot⟩
    exact ⟨Int.le_trans hsince hlater, hidle.right hold hhold, hgot⟩
  · intro hwaiting
    rcases h.paid hwaiting with ⟨worked, hworked, hpaid⟩
    refine ⟨worked, hworked, ?_⟩
    -- Somebody waits: every permit is held, and each hold has grown by `dt`.
    have hfull : f.running.length = permits :=
      Nat.le_antisymm h.served (hidle.left.resolve_left hwaiting)
    have hgrown : f.held (now + dt) = f.held now + f.running.length * dt := by
      unfold held
      induction f.running with
      | nil => simp
      | cons hold rest ih =>
          simp only [List.map_cons, List.sum_cons, List.length_cons, ih]
          push_cast
          ring
    rw [hgrown, hfull]
    linarith

theorem Sound.acquire (h : f.Sound permits limit count now) (hlimit : 0 <= limit) :
    (f.acquire permits now).Sound permits limit count now := by
  rcases acquire_cases permits now f with hsame | ⟨x, rest, hwaiting, hfree, hacquired⟩
  · rw [hsame]
    exact h
  · rw [hacquired]
    have hne : f.waiting ≠ [] := by simp [hwaiting]
    have hcounted := h.counted
    rw [hwaiting, List.length_cons] at hcounted
    constructor
    · exact h.begun
    · rw [List.length_append, List.length_singleton]
      exact hfree
    · show rest.length + (f.running ++ [(x, now)]).length <= count
      rw [List.length_append, List.length_singleton]
      omega
    · intro hold hhold
      rcases List.mem_append.mp hhold with hold' | hnew
      · exact h.holds hold hold'
      · rw [List.mem_singleton.mp hnew]
        exact ⟨Int.le_refl now, Int.le_add_of_nonneg_right hlimit, h.waited hlimit hne⟩
    · intro _
      rcases h.paid hne with ⟨worked, hworked, hpaid⟩
      refine ⟨worked, ?_, ?_⟩
      · rw [hwaiting, List.length_cons] at hworked
        refine le_of_le_of_eq hworked ?_
        rw [List.length_append, List.length_singleton]
        push_cast
        ring
      · refine le_of_le_of_eq hpaid ?_
        simp [held]

theorem Sound.release (h : f.Sound permits limit count now) {i : Nat} {hold : item × Int}
    (hi : f.running[i]? = some hold) : (f.release i).Sound permits limit count now := by
  have hperm := running_release hi
  have hlength : f.running.length = (f.release i).running.length + 1 := hperm.length_eq
  constructor
  · exact h.begun
  · have := h.served
    omega
  · have := h.counted
    show f.waiting.length + (f.release i).running.length <= count
    omega
  · intro other hother
    exact h.holds other (hperm.mem_iff.mpr (List.mem_cons_of_mem hold hother))
  · intro hwaiting
    rcases h.paid hwaiting with ⟨worked, hworked, hpaid⟩
    have hlast := (h.holds hold (List.mem_of_getElem? hi)).right.left
    have hheld : f.held now = (now - hold.2) + (f.release i).held now := by
      unfold held
      rw [(hperm.map (fun hold => now - hold.2)).sum_eq, List.map_cons, List.sum_cons]
    refine ⟨worked + (now - hold.2), ?_, ?_⟩
    · show worked + (now - hold.2) <=
        limit * (count - f.waiting.length - (f.release i).running.length)
      have hone : limit * (count - f.waiting.length - (f.release i).running.length) =
          limit * (count - f.waiting.length - f.running.length) + limit := by
        rw [hlength]
        push_cast
        ring
      linarith
    · show permits * (now - f.began) <= _
      linarith

end Time

end FanOut

end Foundation
end PanicMonitr
