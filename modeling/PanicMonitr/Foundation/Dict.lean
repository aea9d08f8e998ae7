import Mathlib.Data.List.Basic
import Mathlib.Data.List.Nodup
import Mathlib.Order.Defs.PartialOrder

/-!
# Insertion-ordered dictionaries

A Python dictionary as a list of pairs in insertion order: assigning to a key that
is there keeps its place, a new key goes to the end.
-/

namespace PanicMonitr
namespace Foundation

namespace Assoc

variable {key value : Type _} [DecidableEq key]

def get? (k : key) : List (key × value) -> Option value
  | [] => none
  | (k', v) :: rest => if k' = k then some v else get? k rest

def set (k : key) (v : value) : List (key × value) -> List (key × value)
  | [] => [(k, v)]
  | (k', v') :: rest => if k' = k then (k', v) :: rest else (k', v') :: set k v rest

def keys (entries : List (key × value)) : List key :=
  entries.map Prod.fst

@[simp] theorem get?_nil (k : key) :
    get? k ([] : List (key × value)) = none := rfl

theorem get?_cons (k k' : key) (v : value) (rest : List (key × value)) :
    get? k ((k', v) :: rest) = if k' = k then some v else get? k rest := rfl

@[simp] theorem get?_set_self (k : key) (v : value) (entries : List (key × value)) :
    get? k (set k v entries) = some v := by
  induction entries with
  | nil => simp [set, get?]
  | cons entry rest ih =>
      rcases entry with ⟨k', v'⟩
      by_cases hk : k' = k
      · simp [set, get?, hk]
      · simp [set, get?, hk, ih]

theorem get?_set_of_ne {k k' : key} (hne : k' ≠ k) (v : value)
    (entries : List (key × value)) :
    get? k' (set k v entries) = get? k' entries := by
  induction entries with
  | nil => simp [set, get?, hne.symm]
  | cons entry rest ih =>
      rcases entry with ⟨k'', v''⟩
      by_cases hk : k'' = k
      · simp [set, get?, hk, hne.symm]
      · simp [set, get?, hk, ih]

theorem of_get?_set {k k' : key} {v v' : value} {entries : List (key × value)}
    (h : get? k' (set k v entries) = some v') :
    (k' = k ∧ v' = v) ∨ (k' ≠ k ∧ get? k' entries = some v') := by
  by_cases hk : k' = k
  · rw [hk, get?_set_self] at h
    exact Or.inl ⟨hk, (Option.some.inj h).symm⟩
  · rw [get?_set_of_ne hk] at h
    exact Or.inr ⟨hk, h⟩

theorem get?_filter_keys {p : key -> Bool} {k : key} (hk : p k = true)
    (entries : List (key × value)) :
    get? k (entries.filter (fun entry => p entry.1)) = get? k entries := by
  induction entries with
  | nil => rfl
  | cons entry rest ih =>
      cases entry with
      | mk k' v =>
          rw [get?_cons, List.filter_cons]
          by_cases hsame : k' = k
          · have hkept : p k' = true := by
              rw [hsame]
              exact hk
            rw [if_pos hkept, get?_cons, if_pos hsame, if_pos hsame]
          · rw [if_neg hsame, ← ih]
            split
            · rw [get?_cons, if_neg hsame]
            · rfl

theorem get?_eq_none_iff {k : key} {entries : List (key × value)} :
    get? k entries = none <-> k ∉ keys entries := by
  induction entries with
  | nil => simp [keys]
  | cons entry rest ih =>
      rcases entry with ⟨k', v⟩
      by_cases hk : k' = k
      · simp [get?, keys, hk]
      · have hk' : ¬ k = k' := fun h => hk h.symm
        simpa [get?, keys, hk, hk'] using ih

theorem get?_append_of_not_mem {k : key} {front : List (key × value)} (hk : k ∉ keys front)
    (back : List (key × value)) : get? k (front ++ back) = get? k back := by
  induction front with
  | nil => rfl
  | cons entry front ih =>
      rcases entry with ⟨k', v⟩
      simp only [keys, List.map_cons, List.mem_cons, not_or] at hk
      rw [List.cons_append, get?_cons, if_neg (Ne.symm hk.left)]
      exact ih hk.right

theorem mem_of_get?_eq_some {k : key} {v : value} {entries : List (key × value)}
    (h : get? k entries = some v) : (k, v) ∈ entries := by
  induction entries with
  | nil => cases h
  | cons entry rest ih =>
      rcases entry with ⟨k', v'⟩
      rw [get?_cons] at h
      by_cases hk : k' = k
      · rw [if_pos hk] at h
        cases h
        rw [hk]
        exact List.mem_cons_self
      · rw [if_neg hk] at h
        exact List.mem_cons_of_mem _ (ih h)

theorem get?_eq_some_of_mem {k : key} {v : value} {entries : List (key × value)}
    (hnodup : (keys entries).Nodup) (h : (k, v) ∈ entries) :
    get? k entries = some v := by
  induction entries with
  | nil => cases h
  | cons entry rest ih =>
      rcases entry with ⟨k', v'⟩
      simp only [keys, List.map_cons, List.nodup_cons] at hnodup
      rcases List.mem_cons.mp h with hhead | htail
      · cases hhead
        rw [get?_cons, if_pos rfl]
      · have hk : ¬ k' = k := by
          intro hk
          apply hnodup.left
          rw [hk]
          exact List.mem_map_of_mem htail
        rw [get?_cons, if_neg hk]
        exact ih hnodup.right htail

theorem mem_iff_get? {k : key} {v : value} {entries : List (key × value)}
    (hnodup : (keys entries).Nodup) :
    (k, v) ∈ entries <-> get? k entries = some v := by
  constructor
  · exact get?_eq_some_of_mem hnodup
  · exact mem_of_get?_eq_some

theorem keys_set (k : key) (v : value) (entries : List (key × value)) :
    keys (set k v entries) =
      if k ∈ keys entries then keys entries else keys entries ++ [k] := by
  induction entries with
  | nil => simp [set, keys]
  | cons entry rest ih =>
      rcases entry with ⟨k', v'⟩
      by_cases hk : k' = k
      · simp [set, keys, hk]
      · have hk' : ¬ k = k' := fun h => hk h.symm
        simp only [keys] at ih
        by_cases hmem : k ∈ List.map Prod.fst rest
        · simp [set, keys, hk, ih, hmem]
        · simp [set, keys, hk, hk', ih, hmem]

theorem nodup_keys_set {k : key} {v : value} {entries : List (key × value)}
    (hnodup : (keys entries).Nodup) : (keys (set k v entries)).Nodup := by
  rw [keys_set]
  split
  · exact hnodup
  · rename_i hmem
    rw [List.nodup_append]
    refine ⟨hnodup, List.nodup_singleton k, ?_⟩
    intro a ha b hb hab
    rw [List.mem_singleton] at hb
    exact hmem (hb ▸ hab ▸ ha)

theorem mem_set {k k' : key} {v v' : value} {entries : List (key × value)}
    (h : (k', v') ∈ set k v entries) : (k' = k ∧ v' = v) ∨ (k', v') ∈ entries := by
  induction entries with
  | nil =>
      rw [set, List.mem_singleton] at h
      cases h
      exact Or.inl ⟨rfl, rfl⟩
  | cons entry rest ih =>
      rcases entry with ⟨k'', v''⟩
      rw [set] at h
      split at h
      · rename_i hk
        rcases List.mem_cons.mp h with hhead | htail
        · cases hhead
          exact Or.inl ⟨hk, rfl⟩
        · exact Or.inr (List.mem_cons_of_mem _ htail)
      · rcases List.mem_cons.mp h with hhead | htail
        · rw [hhead]
          exact Or.inr (List.mem_cons_self ..)
        · rcases ih htail with hnew | hold
          · exact Or.inl hnew
          · exact Or.inr (List.mem_cons_of_mem _ hold)

theorem set_of_not_mem {k : key} {v : value} {entries : List (key × value)}
    (hmem : k ∉ keys entries) : set k v entries = entries ++ [(k, v)] := by
  induction entries with
  | nil => rfl
  | cons entry rest ih =>
      rcases entry with ⟨k', v'⟩
      simp only [keys, List.map_cons, List.mem_cons, not_or] at hmem
      have hk : ¬ k' = k := fun h => hmem.left h.symm
      simp [set, hk, ih hmem.right]

theorem get?_foldl_set (entries acc : List (key × value)) (k : key) :
    get? k (entries.foldl (fun d e => set e.1 e.2 d) acc) =
      ((entries.filter (fun e => decide (e.1 = k))).getLast?.map Prod.snd).or (get? k acc) := by
  induction entries generalizing acc with
  | nil => rfl
  | cons entry rest ih =>
      rcases entry with ⟨k', v⟩
      rw [List.foldl_cons, ih]
      by_cases hk : k' = k
      · rw [hk, get?_set_self, List.filter_cons_of_pos (by simp), List.getLast?_cons]
        cases (rest.filter (fun e => decide (e.1 = k))).getLast? with
        | none => rfl
        | some e => rfl
      · rw [get?_set_of_ne (Ne.symm hk), List.filter_cons_of_neg (by simpa using hk)]

/-- A list with one pair for each key is what inserting its pairs one by one gives. -/
theorem foldl_set_eq_append {entries acc : List (key × value)}
    (hnodup : (keys (acc ++ entries)).Nodup) :
    entries.foldl (fun d e => set e.1 e.2 d) acc = acc ++ entries := by
  induction entries generalizing acc with
  | nil => simp
  | cons entry rest ih =>
      rcases entry with ⟨k, v⟩
      have hmem : k ∉ keys acc := by
        simp only [keys, List.map_append, List.map_cons] at hnodup
        intro hk
        exact (List.nodup_append.mp hnodup).right.right k hk k
          List.mem_cons_self rfl
      rw [List.foldl_cons, set_of_not_mem hmem, ih]
      · simp
      · simpa using hnodup

/-!
## Grouping

`groups.setdefault(f(x), []).append(x)` over a list: the group of a key is the
sublist of the elements with that key.
-/

variable {elem : Type _}

def push (k : key) (x : elem) (groups : List (key × List elem)) :
    List (key × List elem) :=
  set k ((get? k groups).getD [] ++ [x]) groups

def groupBy (f : elem -> key) (xs : List elem) : List (key × List elem) :=
  xs.foldl (fun groups x => push (f x) x groups) []

theorem nodup_keys_foldl_push (f : elem -> key) (xs : List elem)
    {groups : List (key × List elem)} (hnodup : (keys groups).Nodup) :
    (keys (xs.foldl (fun g x => push (f x) x g) groups)).Nodup := by
  induction xs generalizing groups with
  | nil => exact hnodup
  | cons x xs ih => exact ih (nodup_keys_set hnodup)

theorem nodup_keys_groupBy (f : elem -> key) (xs : List elem) :
    (keys (groupBy f xs)).Nodup :=
  nodup_keys_foldl_push f xs List.nodup_nil

theorem get?_foldl_push (f : elem -> key) (xs : List elem) (k : key)
    (groups : List (key × List elem)) :
    get? k (xs.foldl (fun g x => push (f x) x g) groups) =
      if xs.filter (fun x => decide (f x = k)) = [] then get? k groups
      else some ((get? k groups).getD [] ++ xs.filter (fun x => decide (f x = k))) := by
  induction xs generalizing groups with
  | nil => simp
  | cons x xs ih =>
      rw [List.foldl_cons, ih]
      by_cases hx : f x = k
      · have hget : get? k (push k x groups) =
            some ((get? k groups).getD [] ++ [x]) := by
          rw [push, get?_set_self]
        by_cases hxs : xs.filter (fun x => decide (f x = k)) = []
        · simp [hget, hx, hxs]
        · simp [hget, hx, hxs]
      · have hget : get? k (push (f x) x groups) = get? k groups := by
          rw [push, get?_set_of_ne (Ne.symm hx)]
        simp [hget, hx]

theorem get?_groupBy (f : elem -> key) (xs : List elem) (k : key) :
    get? k (groupBy f xs) =
      if xs.filter (fun x => decide (f x = k)) = [] then none
      else some (xs.filter (fun x => decide (f x = k))) := by
  simp [groupBy, get?_foldl_push]

theorem mem_groupBy_iff {f : elem -> key} {xs group : List elem} {k : key} :
    (k, group) ∈ groupBy f xs <->
      group = xs.filter (fun x => decide (f x = k)) ∧ group ≠ [] := by
  rw [mem_iff_get? (nodup_keys_groupBy f xs), get?_groupBy]
  constructor
  · intro h
    split at h
    · cases h
    · rename_i hne
      cases h
      exact ⟨rfl, hne⟩
  · rintro ⟨hgroup, hne⟩
    rw [← hgroup, if_neg hne]

theorem mem_groupBy_of_mem (f : elem -> key) {xs : List elem} {x : elem} (hx : x ∈ xs) :
    exists group, (f x, group) ∈ groupBy f xs := by
  refine ⟨_, mem_groupBy_iff.mpr ⟨rfl, ?_⟩⟩
  exact List.ne_nil_of_mem (List.mem_filter.mpr ⟨hx, decide_eq_true rfl⟩)

theorem pairwise_keys_foldl_push [PartialOrder key] {f : elem -> key} {xs : List elem}
    (hsorted : xs.Pairwise (fun a b => f a <= f b)) {groups : List (key × List elem)}
    (hgroups : (keys groups).Pairwise (fun k k' => k < k'))
    (hbefore : forall k, k ∈ keys groups -> forall x, x ∈ xs -> k <= f x) :
    (keys (xs.foldl (fun g x => push (f x) x g) groups)).Pairwise (fun k k' => k < k') := by
  induction xs generalizing groups with
  | nil => exact hgroups
  | cons x xs ih =>
      rcases List.pairwise_cons.mp hsorted with ⟨hx, hxs⟩
      have hkeys : keys (push (f x) x groups) =
          if f x ∈ keys groups then keys groups else keys groups ++ [f x] := keys_set _ _ _
      apply ih hxs
      · rw [hkeys]
        split
        · exact hgroups
        · rename_i hnew
          rw [List.pairwise_append]
          refine ⟨hgroups, List.pairwise_singleton _ _, ?_⟩
          intro k hk k' hk'
          rw [List.mem_singleton.mp hk']
          refine lt_of_le_of_ne (hbefore k hk x List.mem_cons_self) ?_
          intro heq
          rw [heq] at hk
          exact hnew hk
      · intro k hk y hy
        rw [hkeys] at hk
        split at hk
        · exact hbefore k hk y (List.mem_cons_of_mem x hy)
        · rcases List.mem_append.mp hk with hold | hnew
          · exact hbefore k hold y (List.mem_cons_of_mem x hy)
          · rw [List.mem_singleton.mp hnew]
            exact hx y hy

theorem pairwise_keys_groupBy [PartialOrder key] {f : elem -> key} {xs : List elem}
    (hsorted : xs.Pairwise (fun a b => f a <= f b)) :
    (keys (groupBy f xs)).Pairwise (fun k k' => k < k') :=
  pairwise_keys_foldl_push hsorted List.Pairwise.nil (fun _ hk => (nomatch hk))

end Assoc

end Foundation
end PanicMonitr
