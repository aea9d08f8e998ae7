import PanicMonitr.Foundation.Machine

/-!
# Computations over a state that changes

A reading looks at a state one time after another and may fail; between two looks the state may
have become another one.  One rule tells what a reading returns however it is interrupted.  A
cache that many callers share keeps what one of them read for a while.
-/

namespace PanicMonitr
namespace Foundation

inductive Reading (state value : Type) where
  | done (a : value)
  | fail
  | look (next : state -> Reading state value)

namespace Reading

variable {state value value' item : Type}

def bind : Reading state value -> (value -> Reading state value') -> Reading state value'
  | done a, f => f a
  | fail, _ => fail
  | look next, f => look (fun s => (next s).bind f)

instance : Monad (Reading state) where
  pure := done
  bind := bind

/-- One look. -/
def see (f : state -> value) : Reading state value :=
  look (fun s => done (f s))

def ofOption : Option value -> Reading state value
  | some a => done a
  | none => fail

/-- What is set at a first look is taken at a second one, where it has to be set still. -/
def seeIfSet (f : state -> Option value) : Reading state (Option value) := do
  let set <- see (fun s => (f s).isSome)
  if set then
    let found <- see f
    let a <- ofOption found
    return some a
  else return none

def forEach (f : item -> Reading state value) : List item -> Reading state (List value)
  | [] => done []
  | x :: xs => (f x).bind (fun a => (forEach f xs).bind (fun as => done (a :: as)))

/-- Looking at these states, one after the other, leaves this to be done. -/
inductive Looks : Reading state value -> List state -> Reading state value -> Prop where
  | nil (x : Reading state value) : Looks x [] x
  | cons {next : state -> Reading state value} {s : state} {seen : List state}
      {rest : Reading state value} : Looks (next s) seen rest -> Looks (look next) (s :: seen) rest

theorem Looks.snoc {x : Reading state value} {seen : List state}
    {next : state -> Reading state value} (h : Looks x seen (look next)) (s : state) :
    Looks x (seen ++ [s]) (next s) := by
  generalize hrest : look next = rest at h
  induction h with
  | nil x =>
      subst hrest
      exact Looks.cons (Looks.nil _)
  | cons _ ih => exact Looks.cons (ih hrest)

/-!
## What a reading returns

`x.Under I P`: as long as every state it looks at is in `I`, what it returns is in `P`.
-/

def Under (I : state -> Prop) (P : value -> Prop) : Reading state value -> Prop
  | done a => P a
  | fail => True
  | look next => forall s, I s -> (next s).Under I P

section Under

variable {I I' : state -> Prop} {P P' : value -> Prop} {Q : value' -> Prop}

theorem Under.returns {x : Reading state value} (h : x.Under I P) {seen : List state} {a : value}
    (hlooks : Looks x seen (done a)) (hseen : forall s, s ∈ seen -> I s) : P a := by
  generalize hrest : done a = rest at hlooks
  induction hlooks with
  | nil x =>
      subst hrest
      exact h
  | @cons next s seen rest _ ih =>
      exact ih (h s (hseen s (List.mem_cons_self ..)))
        (fun s' hs' => hseen s' (List.mem_cons_of_mem s hs')) hrest

theorem Under.mono {x : Reading state value} (h : x.Under I P) (hI : forall s, I' s -> I s)
    (hP : forall a, P a -> P' a) : x.Under I' P' := by
  induction x with
  | done a => exact hP a h
  | fail => trivial
  | look next ih => exact fun s hs => ih s (h s (hI s hs))

theorem Under.bind {x : Reading state value} {f : value -> Reading state value'}
    (h : x.Under I P) (hf : forall a, P a -> (f a).Under I Q) : (x.bind f).Under I Q := by
  induction x with
  | done a => exact hf a h
  | fail => trivial
  | look next ih => exact fun s hs => ih s (h s hs)

/-- What a look gave, at a state in `I`. -/
def Seen (I : state -> Prop) (f : state -> value) (a : value) : Prop :=
  exists s, I s ∧ a = f s

theorem under_seen (I : state -> Prop) (f : state -> value) : (see f).Under I (Seen I f) :=
  fun s hs => ⟨s, hs, rfl⟩

theorem under_ofOption {o : Option value} (h : forall a, o = some a -> P a) :
    (ofOption o : Reading state value).Under I P := by
  cases o with
  | none => trivial
  | some a => exact h a rfl

theorem under_seeIfSet (I : state -> Prop) (f : state -> Option value) :
    (seeIfSet f).Under I (Seen I f) := by
  apply (under_seen I (fun s => (f s).isSome)).bind
  rintro set ⟨s, hs, hset⟩
  split
  · apply (under_seen I f).bind
    rintro found ⟨s', hs', rfl⟩
    apply (under_ofOption (P := fun a => f s' = some a) (fun _ h => h)).bind
    exact fun a ha => ⟨s', hs', ha.symm⟩
  · rename_i hunset
    rw [hset] at hunset
    have hnone : f s = none := Option.not_isSome_iff_eq_none.mp hunset
    exact ⟨s, hs, hnone.symm⟩

theorem under_forEach {f : item -> Reading state value} {R : item -> value -> Prop}
    {items : List item} (h : forall x, x ∈ items -> (f x).Under I (R x)) :
    (forEach f items).Under I (List.Forall₂ R items) := by
  induction items with
  | nil => exact List.Forall₂.nil
  | cons x xs ih =>
      apply (h x (List.mem_cons_self ..)).bind
      intro a ha
      apply (ih (fun y hy => h y (List.mem_cons_of_mem x hy))).bind
      exact fun as has => List.Forall₂.cons ha has

end Under

end Reading

/-!
## A shared cache

A call reads the clock, then looks the cache up, then makes the reading if there is nothing
young enough, then keeps what it got under the time it read first.  Each of these is a step, and
the steps of all calls and of the state interleave.
-/

inductive SharedCall (state value : Type) where
  | asked (t : Int)
  | computing (t : Int) (rest : Reading state value)
  | returned (t : Int) (a : value)
  | raised (t : Int)

structure Shared (state value : Type) where
  now : Int
  current : state
  entry : Option (Int × value)
  calls : List (SharedCall state value)

inductive SharedEvent (state : Type) where
  | tick (dt : Nat)
  | change (s : state)
  | ask
  | go (i : Nat)

namespace Shared

variable {state value : Type}

/-- What is kept, if it is young enough, or a reading of one's own. -/
def lookUp (ttl : Int) (program : Reading state value) (s : Shared state value) (t : Int) :
    SharedCall state value :=
  match s.entry with
  | some (made, a) =>
      if t - made < ttl then SharedCall.returned t a else SharedCall.computing t program
  | none => SharedCall.computing t program

def goOn (ttl : Int) (program : Reading state value) (s : Shared state value) :
    SharedCall state value -> SharedCall state value × Option (Int × value)
  | SharedCall.asked t => (s.lookUp ttl program t, s.entry)
  | SharedCall.computing t (Reading.look next) =>
      (SharedCall.computing t (next s.current), s.entry)
  | SharedCall.computing t (Reading.done a) => (SharedCall.returned t a, some (t, a))
  | SharedCall.computing t Reading.fail => (SharedCall.raised t, s.entry)
  | SharedCall.returned t a => (SharedCall.returned t a, s.entry)
  | SharedCall.raised t => (SharedCall.raised t, s.entry)

def go (ttl : Int) (program : Reading state value) (s : Shared state value) (i : Nat) :
    Shared state value :=
  match s.calls[i]? with
  | none => s
  | some call =>
      { s with
        calls := s.calls.set i (s.goOn ttl program call).1
        entry := (s.goOn ttl program call).2 }

def step (ttl : Int) (program : Reading state value) (s : Shared state value) :
    SharedEvent state -> Shared state value
  | SharedEvent.tick dt => { s with now := s.now + dt }
  | SharedEvent.change s' => { s with current := s' }
  | SharedEvent.ask => { s with calls := s.calls ++ [SharedCall.asked s.now] }
  | SharedEvent.go i => s.go ttl program i

theorem go_now (ttl : Int) (program : Reading state value) (s : Shared state value) (i : Nat) :
    (s.go ttl program i).now = s.now ∧ (s.go ttl program i).current = s.current := by
  unfold go
  split <;> exact ⟨rfl, rfl⟩

end Shared

def shared {state value : Type} (ttl : Int) (program : Reading state value) :
    Machine (Shared state value) (SharedEvent state) where
  start s := s.entry = none ∧ s.calls = []
  step := Shared.step ttl program

section Cache

variable {state value : Type} {ttl : Int} {program rest : Reading state value}
variable {past : List (Shared state value)} {s : Shared state value}

/-- The program got so far by looking at states of the run, none older than a time. -/
def ReadSince (program : Reading state value) (past : List (Shared state value)) (since : Int)
    (rest : Reading state value) : Prop :=
  exists seen : List (Shared state value), seen.Sublist past.reverse ∧
    (forall d, d ∈ seen -> since <= d.now) ∧
    Reading.Looks program (seen.map Shared.current) rest

theorem ReadSince.later {since : Int} (h : ReadSince program past since rest)
    (s : Shared state value) : ReadSince program (s :: past) since rest := by
  rcases h with ⟨seen, hseen, hnew, hlooks⟩
  refine ⟨seen, ?_, hnew, hlooks⟩
  rw [List.reverse_cons]
  exact hseen.trans (List.sublist_append_left _ _)

theorem ReadSince.look {since : Int} {next : state -> Reading state value}
    (h : ReadSince program past since (Reading.look next)) (hnow : since <= s.now) :
    ReadSince program (s :: past) since (next s.current) := by
  rcases h with ⟨seen, hseen, hnew, hlooks⟩
  refine ⟨seen ++ [s], ?_, ?_, ?_⟩
  · rw [List.reverse_cons]
    exact hseen.append (List.Sublist.refl _)
  · intro d hd
    rcases List.mem_append.mp hd with hold | hlast
    · exact hnew d hold
    · rw [List.mem_singleton.mp hlast]
      exact hnow
  · rw [List.map_append]
    exact hlooks.snoc s.current

theorem readSince_start (program : Reading state value) (past : List (Shared state value))
    (since : Int) : ReadSince program past since program :=
  ⟨[], List.nil_sublist _, fun _ hd => (List.not_mem_nil hd).elim, Reading.Looks.nil program⟩

/-- How far a call has come, and on which states. -/
def SharedCall.Sound (ttl : Int) (program : Reading state value)
    (past : List (Shared state value)) (now : Int) : SharedCall state value -> Prop
  | asked t => t <= now
  | computing t rest => t <= now ∧ ReadSince program past t rest
  | returned t a => exists made, t - ttl < made ∧ ReadSince program past made (Reading.done a)
  | raised _ => True

structure CacheSound (ttl : Int) (program : Reading state value)
    (past : List (Shared state value)) (s : Shared state value) : Prop where
  entry : forall made a, s.entry = some (made, a) -> ReadSince program past made (Reading.done a)
  calls : forall call, call ∈ s.calls -> call.Sound ttl program past s.now

theorem SharedCall.Sound.later {call : SharedCall state value} {now now' : Int}
    (h : call.Sound ttl program past now) (hnow : now <= now') (s : Shared state value) :
    call.Sound ttl program (s :: past) now' := by
  cases call with
  | asked t => exact Int.le_trans h hnow
  | computing t rest => exact ⟨Int.le_trans h.left hnow, h.right.later s⟩
  | returned t a =>
      rcases h with ⟨made, hmade, hread⟩
      exact ⟨made, hmade, hread.later s⟩
  | raised t => trivial

theorem CacheSound.goOn (h : CacheSound ttl program past s) (httl : 0 < ttl)
    {call : SharedCall state value} (hcall : call.Sound ttl program past s.now) :
    (s.goOn ttl program call).1.Sound ttl program (s :: past) s.now ∧
      forall made a, (s.goOn ttl program call).2 = some (made, a) ->
        ReadSince program (s :: past) made (Reading.done a) := by
  have hentry : forall made a, s.entry = some (made, a) ->
      ReadSince program (s :: past) made (Reading.done a) :=
    fun made a hsome => (h.entry made a hsome).later s
  have hlater := hcall.later (Int.le_refl s.now) s
  cases call with
  | asked t =>
      have hcomputes : (SharedCall.computing t program).Sound ttl program (s :: past) s.now :=
        ⟨hlater, readSince_start program _ t⟩
      refine ⟨?_, hentry⟩
      show (s.lookUp ttl program t).Sound ttl program (s :: past) s.now
      unfold Shared.lookUp
      split
      · rename_i made a hsome
        split
        · rename_i hyoung
          exact ⟨made, by omega, hentry made a hsome⟩
        · exact hcomputes
      · exact hcomputes
  | computing t rest =>
      cases rest with
      | done a =>
          refine ⟨⟨t, by omega, hlater.right⟩, ?_⟩
          rintro made a' heq
          cases heq
          exact hlater.right
      | fail => exact ⟨trivial, hentry⟩
      | look next => exact ⟨⟨hcall.left, hcall.right.look hcall.left⟩, hentry⟩
  | returned t a => exact ⟨hlater, hentry⟩
  | raised t => exact ⟨trivial, hentry⟩

theorem CacheSound.step (h : CacheSound ttl program past s) (httl : 0 < ttl)
    (e : SharedEvent state) : CacheSound ttl program (s :: past) (s.step ttl program e) := by
  have hentry : forall made a, s.entry = some (made, a) ->
      ReadSince program (s :: past) made (Reading.done a) :=
    fun made a hsome => (h.entry made a hsome).later s
  cases e with
  | tick dt =>
      refine ⟨hentry, ?_⟩
      exact fun call hcall => (h.calls call hcall).later (Int.le_add_of_nonneg_right (by omega)) s
  | change s' =>
      exact ⟨hentry, fun call hcall => (h.calls call hcall).later (Int.le_refl _) s⟩
  | ask =>
      refine ⟨hentry, ?_⟩
      intro call hcall
      rcases List.mem_append.mp hcall with hold | hnew
      · exact (h.calls call hold).later (Int.le_refl _) s
      · rw [List.mem_singleton.mp hnew]
        exact Int.le_refl s.now
  | go i =>
      show CacheSound ttl program (s :: past) (s.go ttl program i)
      unfold Shared.go
      split
      · exact ⟨hentry, fun call hcall => (h.calls call hcall).later (Int.le_refl _) s⟩
      · rename_i call hi
        have hgoes := h.goOn httl (h.calls call (List.mem_of_getElem? hi))
        refine ⟨hgoes.right, ?_⟩
        intro call' hcall'
        rcases List.mem_or_eq_of_mem_set hcall' with hold | hnew
        · exact (h.calls call' hold).later (Int.le_refl _) s
        · exact hnew ▸ hgoes.left

/--
Whatever the interleaving, a call gets what the program makes of states the run went through, in
their order, all of them younger than the time to live when the call began.
-/
theorem shared_fresh {guard : Shared state value -> SharedEvent state -> Prop} (httl : 0 < ttl)
    (hrun : (shared ttl program).Run guard past s) {t : Int} {a : value}
    (hcall : SharedCall.returned t a ∈ s.calls) :
    exists seen : List (Shared state value), seen.Sublist past.reverse ∧
      (forall d, d ∈ seen -> t - ttl < d.now) ∧
      Reading.Looks program (seen.map Shared.current) (Reading.done a) := by
  have hsound : CacheSound ttl program past s := by
    apply hrun.invariant_past (I := CacheSound ttl program)
    · rintro s ⟨hentry, hcalls⟩
      constructor
      · intro made a hsome
        rw [hentry] at hsome
        cases hsome
      · intro call hmem
        rw [hcalls] at hmem
        cases hmem
    · exact fun past s e h _ => h.step httl e
  rcases hsound.calls _ hcall with ⟨made, hmade, seen, hseen, hnew, hlooks⟩
  exact ⟨seen, hseen, fun d hd => Int.lt_of_lt_of_le hmade (hnew d hd), hlooks⟩

/-!
### Facts that last

What is true from some time on, and was so before the cache could hold anything older, is seen.
-/

structure Lasting (P : state -> Prop) (past : List (Shared state value))
    (s : Shared state value) : Prop where
  clock : forall d, d ∈ past -> d.now <= s.now
  kept : forall d, d ∈ past -> P d.current -> P s.current
  ordered : forall d d', d ∈ past -> d' ∈ past -> d.now < d'.now -> P d.current -> P d'.current

theorem lasting {guard : Shared state value -> SharedEvent state -> Prop} {P : state -> Prop}
    (hstable : forall s s', guard s (SharedEvent.change s') -> P s.current -> P s')
    (hrun : (shared ttl program).Run guard past s) : Lasting P past s := by
  apply hrun.invariant_past (I := Lasting P)
  · intro s _
    exact ⟨fun _ h => (List.not_mem_nil h).elim, fun _ h => (List.not_mem_nil h).elim,
      fun _ _ h => (List.not_mem_nil h).elim⟩
  · intro past s e h hguard
    have hnow : s.now <= (s.step ttl program e).now := by
      cases e with
      | tick dt => exact Int.le_add_of_nonneg_right (by omega)
      | change s' => exact Int.le_refl _
      | ask => exact Int.le_refl _
      | go i => exact Int.le_of_eq (Shared.go_now ttl program s i).left.symm
    have hkeeps : P s.current -> P (s.step ttl program e).current := by
      intro hP
      cases e with
      | tick dt => exact hP
      | change s' => exact hstable s s' hguard hP
      | ask => exact hP
      | go i => exact (Shared.go_now ttl program s i).right ▸ hP
    constructor
    · intro d hd
      rcases List.mem_cons.mp hd with rfl | hold
      · exact hnow
      · exact Int.le_trans (h.clock d hold) hnow
    · intro d hd hP
      rcases List.mem_cons.mp hd with rfl | hold
      · exact hkeeps hP
      · exact hkeeps (h.kept d hold hP)
    · intro d d' hd hd' hlater hP
      rcases List.mem_cons.mp hd with rfl | hold
      · rcases List.mem_cons.mp hd' with rfl | hold'
        · exact hP
        · exact absurd hlater (Int.not_lt.mpr (h.clock d' hold'))
      · rcases List.mem_cons.mp hd' with rfl | hold'
        · exact h.kept d hold hP
        · exact h.ordered d d' hold hold' hlater hP

/-- A reading that is right about lasting facts is right about them through the cache. -/
theorem shared_sees {guard : Shared state value -> SharedEvent state -> Prop} {P : state -> Prop}
    {Q : value -> Prop} (httl : 0 < ttl)
    (hstable : forall s s', guard s (SharedEvent.change s') -> P s.current -> P s')
    (hprogram : program.Under P Q) (hrun : (shared ttl program).Run guard past s) {t : Int}
    {a : value} (hcall : SharedCall.returned t a ∈ s.calls) {d : Shared state value}
    (hd : d ∈ past) (hold : d.now <= t - ttl) (hP : P d.current) : Q a := by
  rcases shared_fresh httl hrun hcall with ⟨seen, hseen, hnew, hlooks⟩
  apply hprogram.returns hlooks
  intro v hv
  rcases List.mem_map.mp hv with ⟨d', hd', rfl⟩
  have hmem : d' ∈ past := List.mem_reverse.mp (hseen.subset hd')
  exact (lasting hstable hrun).ordered d d' hd hmem
    (Int.lt_of_le_of_lt hold (hnew d' hd')) hP

end Cache

end Foundation
end PanicMonitr
