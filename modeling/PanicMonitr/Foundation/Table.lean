import PanicMonitr.Foundation.Dict
import Mathlib.Data.List.Sort
import Mathlib.Order.MinMax

/-!
# Tables of rows

A database table as its rows in insertion order: inserts that respect a unique key,
sorted queries, and the aggregates taken of a query's result.
-/

namespace PanicMonitr
namespace Foundation

variable {row key : Type _} [DecidableEq key]

/-!
## Inserts under a unique key
-/

/-- `INSERT OR IGNORE` of one row. -/
def insertOrIgnore (keyOf : row -> key) (rows : List row) (r : row) : List row :=
  if keyOf r ∈ rows.map keyOf then rows else rows ++ [r]

/-- `INSERT OR IGNORE` of several rows, one after the other. -/
def insertMany (keyOf : row -> key) (rows news : List row) : List row :=
  news.foldl (insertOrIgnore keyOf) rows

/-- `INSERT OR REPLACE` of one row: the row of the same key is deleted first. -/
def insertOrReplace (keyOf : row -> key) (rows : List row) (r : row) : List row :=
  rows.filter (fun r' => decide (keyOf r' ≠ keyOf r)) ++ [r]

/-- No row has the key of `r` yet. -/
def isFree (keyOf : row -> key) (rows : List row) (r : row) : Bool :=
  decide (keyOf r ∉ rows.map keyOf)

theorem isFree_iff {keyOf : row -> key} {rows : List row} {r : row} :
    isFree keyOf rows r = true <-> keyOf r ∉ rows.map keyOf :=
  decide_eq_true_iff

theorem mem_insertOrIgnore {keyOf : row -> key}
    {rows : List row} {r r' : row} (h : r' ∈ rows) : r' ∈ insertOrIgnore keyOf rows r := by
  unfold insertOrIgnore
  split
  · exact h
  · exact List.mem_append_left _ h

theorem of_mem_insertOrIgnore {keyOf : row -> key}
    {rows : List row} {r r' : row} (h : r' ∈ insertOrIgnore keyOf rows r) :
    r' ∈ rows ∨ r' = r := by
  unfold insertOrIgnore at h
  split at h
  · exact Or.inl h
  · exact (List.mem_append.mp h).imp id List.mem_singleton.mp

/-- Rows whose keys are distinct go in exactly where their key was free. -/
theorem insertMany_eq (keyOf : row -> key) {rows news : List row}
    (hnodup : (news.map keyOf).Nodup) :
    insertMany keyOf rows news =
      rows ++ news.filter (isFree keyOf rows) := by
  induction news generalizing rows with
  | nil => simp [insertMany]
  | cons r news ih =>
      rw [List.map_cons, List.nodup_cons] at hnodup
      rcases hnodup with ⟨hfresh, hnodup⟩
      show insertMany keyOf (insertOrIgnore keyOf rows r) news = _
      rw [ih hnodup, insertOrIgnore]
      by_cases htaken : keyOf r ∈ rows.map keyOf
      · rw [if_pos htaken, List.filter_cons_of_neg (by simpa [isFree] using htaken)]
      · rw [if_neg htaken, List.filter_cons_of_pos (by simpa [isFree] using htaken),
          List.append_assoc, List.singleton_append]
        congr 2
        apply List.filter_congr
        intro r' hr'
        have hne : keyOf r' ≠ keyOf r := by
          intro heq
          exact hfresh (List.mem_map.mpr ⟨r', hr', heq⟩)
        simp [isFree, hne]

theorem mem_insertMany {keyOf : row -> key} {rows news : List row}
    (hnodup : (news.map keyOf).Nodup) {r : row} :
    r ∈ insertMany keyOf rows news <->
      r ∈ rows ∨ (r ∈ news ∧ keyOf r ∉ rows.map keyOf) := by
  rw [insertMany_eq keyOf hnodup, List.mem_append, List.mem_filter, isFree_iff]

/-- The keys after several inserts: those that were there, and the new ones. -/
theorem keys_insertMany {keyOf : row -> key}
    {rows news : List row} {k : key} :
    k ∈ (insertMany keyOf rows news).map keyOf <-> k ∈ rows.map keyOf ∨ k ∈ news.map keyOf := by
  induction news generalizing rows with
  | nil => simp [insertMany]
  | cons r news ih =>
      show k ∈ (insertMany keyOf (insertOrIgnore keyOf rows r) news).map keyOf <-> _
      rw [ih, insertOrIgnore, List.map_cons, List.mem_cons]
      split
      · rename_i htaken
        constructor
        · intro h
          rcases h with h | h
          · exact Or.inl h
          · exact Or.inr (Or.inr h)
        · intro h
          rcases h with h | rfl | h
          · exact Or.inl h
          · exact Or.inl htaken
          · exact Or.inr h
      · rw [List.map_append, List.mem_append, List.map_singleton, List.mem_singleton, or_assoc]

theorem of_mem_insertMany {keyOf : row -> key}
    {rows news : List row} {r : row} (h : r ∈ insertMany keyOf rows news) :
    r ∈ rows ∨ r ∈ news := by
  induction news generalizing rows with
  | nil => exact Or.inl h
  | cons r' news ih =>
      rcases ih h with hold | hnew
      · unfold insertOrIgnore at hold
        split at hold
        · exact Or.inl hold
        · rcases List.mem_append.mp hold with hold | hlast
          · exact Or.inl hold
          · rw [List.mem_singleton.mp hlast]
            exact Or.inr List.mem_cons_self
      · exact Or.inr (List.mem_cons_of_mem r' hnew)

theorem insertMany_sublist (keyOf : row -> key) (rows news : List row) :
    exists added, insertMany keyOf rows news = rows ++ added ∧ added.Sublist news := by
  induction news generalizing rows with
  | nil => exact ⟨[], (List.append_nil rows).symm, List.Sublist.refl _⟩
  | cons r news ih =>
      rcases ih (insertOrIgnore keyOf rows r) with ⟨added, hadded, hsub⟩
      show exists added, insertMany keyOf (insertOrIgnore keyOf rows r) news = rows ++ added ∧ _
      rw [hadded, insertOrIgnore]
      split
      · exact ⟨added, rfl, hsub.cons r⟩
      · exact ⟨r :: added, List.append_assoc .., hsub.cons_cons r⟩

/-- The rows that are there stay in front; what follows is among the new ones. -/
theorem insertMany_append (keyOf : row -> key) (rows news : List row) :
    exists added, insertMany keyOf rows news = rows ++ added ∧ forall r, r ∈ added -> r ∈ news := by
  rcases insertMany_sublist keyOf rows news with ⟨added, hadded, hsub⟩
  exact ⟨added, hadded, fun r hr => hsub.subset hr⟩

theorem mem_insertMany_of_keys {keyOf : row -> key} {rows rows' news : List row}
    (hkeys : forall k, k ∈ rows'.map keyOf -> k ∈ rows.map keyOf) {r : row}
    (h : r ∈ insertMany keyOf rows news) : r ∈ rows ∨ r ∈ insertMany keyOf rows' news := by
  induction news generalizing rows rows' with
  | nil => exact Or.inl h
  | cons r' news ih =>
      by_cases htaken : keyOf r' ∈ rows.map keyOf
      · have hsame : insertOrIgnore keyOf rows r' = rows := if_pos htaken
        refine ih ?_ (by rw [← hsame]; exact h)
        intro k hk
        rcases List.mem_map.mp hk with ⟨r'', hr'', rfl⟩
        rcases of_mem_insertOrIgnore hr'' with hold | rfl
        · exact hkeys _ (List.mem_map_of_mem hold)
        · exact htaken
      · have hfree : keyOf r' ∉ rows'.map keyOf := fun hin => htaken (hkeys _ hin)
        have hrows : insertOrIgnore keyOf rows r' = rows ++ [r'] := if_neg htaken
        have hrows' : insertOrIgnore keyOf rows' r' = rows' ++ [r'] := if_neg hfree
        have hstep : forall k, k ∈ (rows' ++ [r']).map keyOf -> k ∈ (rows ++ [r']).map keyOf := by
          intro k hk
          rw [List.map_append, List.mem_append] at *
          exact hk.imp (hkeys k) id
        have hrest : r ∈ insertMany keyOf (rows ++ [r']) news := by
          rw [← hrows]
          exact h
        show _ ∨ r ∈ insertMany keyOf (insertOrIgnore keyOf rows' r') news
        rw [hrows']
        rcases ih hstep hrest with hin | hin
        · rcases List.mem_append.mp hin with hold | hlast
          · exact Or.inl hold
          · rcases insertMany_append keyOf (rows' ++ [r']) news with ⟨added, hadded, _⟩
            rw [hadded]
            exact Or.inr (List.mem_append_left _ (List.mem_append_right _ hlast))
        · exact Or.inr hin

/-- What one insert statement after another appended. -/
def appended (before after : List row) : List row :=
  after.drop before.length

theorem appended_insertMany (keyOf : row -> key) {rows news : List row}
    (hnodup : (news.map keyOf).Nodup) :
    appended rows (insertMany keyOf rows news) =
      news.filter (isFree keyOf rows) := by
  rw [appended, insertMany_eq keyOf hnodup, List.drop_left]

/-!
## The same rows again
-/

theorem length_insertOrIgnore (keyOf : row -> key) (rows : List row) (r : row) :
    (insertOrIgnore keyOf rows r).length = rows.length + (isFree keyOf rows r).toNat := by
  unfold insertOrIgnore isFree
  by_cases htaken : keyOf r ∈ rows.map keyOf
  · rw [if_pos htaken, decide_eq_false (not_not_intro htaken)]
    rfl
  · rw [if_neg htaken, decide_eq_true htaken, List.length_append]
    rfl

theorem insertMany_of_taken {keyOf : row -> key} {rows news : List row}
    (htaken : forall r, r ∈ news -> keyOf r ∈ rows.map keyOf) :
    insertMany keyOf rows news = rows := by
  induction news with
  | nil => rfl
  | cons r news ih =>
      show insertMany keyOf (insertOrIgnore keyOf rows r) news = rows
      rw [insertOrIgnore, if_pos (htaken r List.mem_cons_self)]
      exact ih (fun r' hr' => htaken r' (List.mem_cons_of_mem r hr'))

theorem insertMany_insertMany (keyOf : row -> key) (rows news : List row) :
    insertMany keyOf (insertMany keyOf rows news) news = insertMany keyOf rows news := by
  apply insertMany_of_taken
  intro r hr
  exact keys_insertMany.mpr (Or.inr (List.mem_map_of_mem hr))

theorem nodup_insertOrIgnore {keyOf : row -> key} {rows : List row} (r : row)
    (hnodup : (rows.map keyOf).Nodup) : ((insertOrIgnore keyOf rows r).map keyOf).Nodup := by
  unfold insertOrIgnore
  split
  · exact hnodup
  · rename_i hfree
    rw [List.map_append, List.map_singleton, List.nodup_append]
    refine ⟨hnodup, List.nodup_singleton _, ?_⟩
    intro k hk k' hk' heq
    rw [List.mem_singleton.mp hk'] at heq
    rw [heq] at hk
    exact hfree hk

theorem nodup_insertMany {keyOf : row -> key} {rows : List row} (news : List row)
    (hnodup : (rows.map keyOf).Nodup) : ((insertMany keyOf rows news).map keyOf).Nodup := by
  induction news generalizing rows with
  | nil => exact hnodup
  | cons r news ih => exact ih (nodup_insertOrIgnore r hnodup)

/-- Into a table of distinct keys all rows go exactly when their keys are distinct and new. -/
theorem insertMany_eq_append_iff (keyOf : row -> key) {rows news : List row}
    (hrows : (rows.map keyOf).Nodup) :
    insertMany keyOf rows news = rows ++ news <->
      (news.map keyOf).Nodup ∧ forall r, r ∈ news -> keyOf r ∉ rows.map keyOf := by
  constructor
  · intro h
    have hnodup := nodup_insertMany news hrows
    rw [h, List.map_append, List.nodup_append] at hnodup
    refine ⟨hnodup.right.left, ?_⟩
    intro r hr hin
    exact hnodup.right.right _ hin _ (List.mem_map_of_mem hr) rfl
  · intro h
    rw [insertMany_eq keyOf h.left, List.filter_eq_self.mpr]
    intro r hr
    exact isFree_iff.mpr (h.right r hr)

theorem insertMany_nil {keyOf : row -> key} {news : List row}
    (hnodup : (news.map keyOf).Nodup) : insertMany keyOf [] news = news := by
  rw [insertMany_eq keyOf hnodup, List.nil_append, List.filter_eq_self]
  intro r _
  exact isFree_iff.mpr List.not_mem_nil

theorem filter_insertMany {keyOf : row -> key} {p : row -> Bool} {rows news : List row}
    (hnews : forall r, r ∈ news -> p r = false) :
    (insertMany keyOf rows news).filter p = rows.filter p := by
  induction news generalizing rows with
  | nil => rfl
  | cons r news ih =>
      show (insertMany keyOf (insertOrIgnore keyOf rows r) news).filter p = rows.filter p
      rw [ih (fun r' hr' => hnews r' (List.mem_cons_of_mem r hr')), insertOrIgnore]
      split
      · rfl
      · rw [List.filter_append, List.filter_cons_of_neg (by rw [hnews r List.mem_cons_self]; simp),
          List.filter_nil, List.append_nil]

theorem filter_insertMany_of_all {keyOf : row -> key} {p : row -> Bool} {rows news : List row}
    (hnews : forall r, r ∈ news -> p r = true)
    (hkey : forall r r', keyOf r = keyOf r' -> p r = p r') :
    (insertMany keyOf rows news).filter p = insertMany keyOf (rows.filter p) news := by
  induction news generalizing rows with
  | nil => rfl
  | cons r news ih =>
      have hr := hnews r List.mem_cons_self
      have hmem : keyOf r ∈ (rows.filter p).map keyOf <-> keyOf r ∈ rows.map keyOf := by
        simp only [List.mem_map, List.mem_filter]
        constructor
        · intro h
          rcases h with ⟨r', ⟨hr', _⟩, hsame⟩
          exact ⟨r', hr', hsame⟩
        · intro h
          rcases h with ⟨r', hr', hsame⟩
          exact ⟨r', ⟨hr', by rw [hkey r' r hsame, hr]⟩, hsame⟩
      show (insertMany keyOf (insertOrIgnore keyOf rows r) news).filter p =
        insertMany keyOf (insertOrIgnore keyOf (rows.filter p) r) news
      rw [ih (fun r' hr' => hnews r' (List.mem_cons_of_mem r hr'))]
      congr 1
      unfold insertOrIgnore
      by_cases htaken : keyOf r ∈ rows.map keyOf
      · rw [if_pos htaken, if_pos (hmem.mpr htaken)]
      · rw [if_neg htaken, if_neg (fun h => htaken (hmem.mp h)), List.filter_append,
          List.filter_cons_of_pos hr, List.filter_nil]

theorem length_insertMany_of_all {keyOf : row -> key} {p : row -> Bool} {rows news : List row}
    (hnews : forall r, r ∈ news -> p r = true)
    (hkey : forall r r', keyOf r = keyOf r' -> p r = p r') :
    (insertMany keyOf rows news).length - rows.length =
      (insertMany keyOf (rows.filter p) news).length - (rows.filter p).length := by
  rw [← filter_insertMany_of_all hnews hkey]
  rcases insertMany_append keyOf rows news with ⟨added, hadded, hin⟩
  have hall : added.filter p = added := by
    rw [List.filter_eq_self]
    exact fun r hr => hnews r (hin r hr)
  rw [hadded, List.filter_append, hall, List.length_append, List.length_append,
    Nat.add_sub_cancel_left, Nat.add_sub_cancel_left]

/-- `INSERT OR REPLACE` of several rows, one after the other. -/
def replaceMany (keyOf : row -> key) (rows news : List row) : List row :=
  news.foldl (insertOrReplace keyOf) rows

/-- What is there before only matters for the keys that are not replaced. -/
theorem replaceMany_eq (keyOf : row -> key) (rows news : List row) :
    replaceMany keyOf rows news =
      rows.filter (fun r => decide (keyOf r ∉ news.map keyOf)) ++ replaceMany keyOf [] news := by
  induction news generalizing rows with
  | nil => simp [replaceMany]
  | cons r news ih =>
      show replaceMany keyOf (insertOrReplace keyOf rows r) news =
        _ ++ replaceMany keyOf (insertOrReplace keyOf [] r) news
      rw [ih (insertOrReplace keyOf rows r), ih (insertOrReplace keyOf [] r),
        ← List.append_assoc]
      congr 1
      unfold insertOrReplace
      rw [List.filter_append, List.filter_append, List.filter_filter, List.filter_nil,
        List.filter_nil, List.nil_append]
      congr 1
      apply List.filter_congr
      intro r' _
      simp only [List.map_cons, List.mem_cons, not_or, ← Bool.decide_and, and_comm, ne_eq]

theorem of_mem_replaceMany {keyOf : row -> key} {rows news : List row} {r : row}
    (h : r ∈ replaceMany keyOf rows news) : r ∈ rows ∨ r ∈ news := by
  induction news generalizing rows with
  | nil => exact Or.inl h
  | cons r' news ih =>
      rcases ih h with hold | hnew
      · rcases List.mem_append.mp hold with hkept | hlast
        · exact Or.inl (List.mem_of_mem_filter hkept)
        · rw [List.mem_singleton.mp hlast]
          exact Or.inr List.mem_cons_self
      · exact Or.inr (List.mem_cons_of_mem r' hnew)

/-- The keys after several replacements: those that were there, and the new ones. -/
theorem keys_replaceMany {keyOf : row -> key} {rows news : List row} {k : key} :
    k ∈ (replaceMany keyOf rows news).map keyOf <-> k ∈ rows.map keyOf ∨ k ∈ news.map keyOf := by
  induction news generalizing rows with
  | nil => simp [replaceMany]
  | cons r news ih =>
      have hone : k ∈ (insertOrReplace keyOf rows r).map keyOf <->
          k ∈ rows.map keyOf ∨ k = keyOf r := by
        unfold insertOrReplace
        rw [List.map_append, List.mem_append, List.map_singleton, List.mem_singleton]
        by_cases hsame : k = keyOf r
        · simp [hsame]
        · have hkept : k ∈ (rows.filter (fun r' => decide (keyOf r' ≠ keyOf r))).map keyOf <->
              k ∈ rows.map keyOf := by
            simp only [List.mem_map, List.mem_filter, decide_eq_true_iff]
            constructor
            · intro h
              rcases h with ⟨r', ⟨hr', _⟩, hkey⟩
              exact ⟨r', hr', hkey⟩
            · intro h
              rcases h with ⟨r', hr', hkey⟩
              exact ⟨r', ⟨hr', fun heq => hsame (hkey.symm.trans heq)⟩, hkey⟩
          rw [hkept]
      show k ∈ (replaceMany keyOf (insertOrReplace keyOf rows r) news).map keyOf <-> _
      rw [ih, hone, List.map_cons, List.mem_cons, or_assoc]

/-- Replacing the same rows once more changes nothing, not even the order. -/
theorem replaceMany_replaceMany (keyOf : row -> key) (rows news : List row) :
    replaceMany keyOf (replaceMany keyOf rows news) news = replaceMany keyOf rows news := by
  rw [replaceMany_eq keyOf (replaceMany keyOf rows news), replaceMany_eq keyOf rows,
    List.filter_append, List.filter_filter]
  have hnone : (replaceMany keyOf [] news).filter
      (fun r => decide (keyOf r ∉ news.map keyOf)) = [] := by
    rw [List.filter_eq_nil_iff]
    intro r hr
    rcases of_mem_replaceMany hr with hnil | hnew
    · cases hnil
    · simpa using ⟨r, hnew, rfl⟩
  rw [hnone, List.append_nil]
  simp only [Bool.and_self]

theorem filter_replaceMany {keyOf : row -> key} {p : row -> Bool} {rows news : List row}
    (hnews : forall r, r ∈ news -> p r = false)
    (hkey : forall r r', keyOf r = keyOf r' -> p r = p r') :
    (replaceMany keyOf rows news).filter p = rows.filter p := by
  induction news generalizing rows with
  | nil => rfl
  | cons r news ih =>
      have hr := hnews r List.mem_cons_self
      show (replaceMany keyOf (insertOrReplace keyOf rows r) news).filter p = rows.filter p
      rw [ih (fun r' hr' => hnews r' (List.mem_cons_of_mem r hr')), insertOrReplace,
        List.filter_append, List.filter_cons_of_neg (by rw [hr]; simp), List.filter_nil,
        List.append_nil, List.filter_filter]
      apply List.filter_congr
      intro r' _
      -- a row that is deleted has the key of `r`, so the filter drops it anyway
      by_cases hsame : keyOf r' = keyOf r
      · rw [hkey r' r hsame, hr]
        rfl
      · simp [hsame]

/-!
## Sorted queries
-/

variable {elem : Type _}

/-- `ORDER BY rank ASC`; rows of one rank keep their order. -/
def orderBy (rank : elem -> Int) (xs : List elem) : List elem :=
  xs.insertionSort (fun a b => rank a <= rank b)

theorem mem_orderBy {rank : elem -> Int} {xs : List elem} {x : elem} :
    x ∈ orderBy rank xs <-> x ∈ xs :=
  List.mem_insertionSort _

theorem orderBy_perm (rank : elem -> Int) (xs : List elem) :
    (orderBy rank xs).Perm xs :=
  List.perm_insertionSort _ xs

instance rankTotal (rank : elem -> Int) :
    Std.Total (fun a b : elem => rank a <= rank b) :=
  ⟨fun a b => Int.le_total (rank a) (rank b)⟩

instance rankTrans (rank : elem -> Int) :
    IsTrans elem (fun a b : elem => rank a <= rank b) :=
  ⟨fun _ _ _ hab hbc => Int.le_trans hab hbc⟩

theorem orderBy_sorted (rank : elem -> Int) (xs : List elem) :
    (orderBy rank xs).Pairwise (fun a b => rank a <= rank b) :=
  List.pairwise_insertionSort _ xs

theorem find?_first {rank : elem -> Int} {test : elem -> Bool} {xs : List elem}
    (hsorted : xs.Pairwise (fun a b => rank a <= rank b)) {x : elem} (hx : x ∈ xs)
    (htest : test x = true)
    (hfirst : forall y, y ∈ xs -> test y = true -> rank y <= rank x -> y = x) :
    xs.find? test = some x := by
  induction xs with
  | nil => cases hx
  | cons y ys ih =>
      rcases List.pairwise_cons.mp hsorted with ⟨hlow, hrest⟩
      by_cases hy : test y = true
      · rw [List.find?_cons_of_pos hy]
        rcases List.mem_cons.mp hx with rfl | hin
        · rfl
        · rw [hfirst y List.mem_cons_self hy (hlow x hin)]
      · rw [List.find?_cons_of_neg hy]
        rcases List.mem_cons.mp hx with rfl | hin
        · exact absurd htest hy
        · exact ih hrest hin (fun z hz => hfirst z (List.mem_cons_of_mem y hz))

theorem filter_orderedInsert {rank : elem -> Int} (p : elem -> Bool) (x : elem)
    {xs : List elem} (hsorted : xs.Pairwise (fun a b => rank a <= rank b)) :
    (xs.orderedInsert (fun a b => rank a <= rank b) x).filter p =
      if p x then (xs.filter p).orderedInsert (fun a b => rank a <= rank b) x
      else xs.filter p := by
  induction xs with
  | nil =>
      cases hp : p x <;> simp [hp]
  | cons y ys ih =>
      rcases List.pairwise_cons.mp hsorted with ⟨hy, hys⟩
      rw [List.orderedInsert_cons]
      by_cases hle : rank x <= rank y
      · rw [if_pos hle]
        cases hp : p x with
        | false => simp [hp]
        | true =>
            rw [List.filter_cons_of_pos hp, if_pos rfl]
            -- everything the filter keeps is at least `x`, so `x` stays in front
            cases hkept : (y :: ys).filter p with
            | nil => rfl
            | cons z zs =>
                have hz : z ∈ y :: ys := by
                  have hin : z ∈ (y :: ys).filter p := by
                    rw [hkept]
                    exact List.mem_cons_self ..
                  exact List.mem_of_mem_filter hin
                have hxz : rank x <= rank z := by
                  rcases List.mem_cons.mp hz with hhead | htail
                  · rw [hhead]
                    exact hle
                  · exact Int.le_trans hle (hy z htail)
                rw [List.orderedInsert_cons, if_pos hxz]
      · rw [if_neg hle]
        cases hpy : p y with
        | false =>
            rw [List.filter_cons_of_neg (by simp [hpy]),
              List.filter_cons_of_neg (by simp [hpy])]
            exact ih hys
        | true =>
            rw [List.filter_cons_of_pos hpy, List.filter_cons_of_pos hpy, ih hys]
            split
            · rw [List.orderedInsert_cons, if_neg hle]
            · rfl

theorem filter_orderBy (rank : elem -> Int) (p : elem -> Bool) (xs : List elem) :
    (orderBy rank xs).filter p = orderBy rank (xs.filter p) := by
  induction xs with
  | nil => rfl
  | cons x xs ih =>
      show ((orderBy rank xs).orderedInsert _ x).filter p = _
      rw [filter_orderedInsert p x (orderBy_sorted rank xs), ih]
      cases hp : p x with
      | true =>
          rw [List.filter_cons_of_pos hp]
          rfl
      | false =>
          rw [List.filter_cons_of_neg (by simp [hp])]
          rfl

/-!
## Sorted queries with a limit
-/

section Limit

variable [DecidableEq elem]

/-- How many rows a sorted query returns before a row: lower ranks, then older rows. -/
def rowsBefore (rank : elem -> Int) (x : elem) (xs : List elem) : Nat :=
  xs.countP (fun y => decide (rank y < rank x)) +
    (xs.takeWhile (fun y => decide (y ≠ x))).countP (fun y => decide (rank y = rank x))

theorem idxOf_orderedInsert_self {rank : elem -> Int} (x : elem) {xs : List elem}
    (hsorted : xs.Pairwise (fun a b => rank a <= rank b)) :
    (xs.orderedInsert (fun a b => rank a <= rank b) x).idxOf x =
      xs.countP (fun y => decide (rank y < rank x)) := by
  induction xs with
  | nil => exact List.idxOf_cons_self
  | cons y ys ih =>
      rcases List.pairwise_cons.mp hsorted with ⟨hy, hys⟩
      rw [List.orderedInsert_cons]
      by_cases hle : rank x <= rank y
      · rw [if_pos hle, List.idxOf_cons_self]
        symm
        rw [List.countP_eq_zero]
        intro z hz
        rw [decide_eq_true_iff, Int.not_lt]
        rcases List.mem_cons.mp hz with hhead | htail
        · rw [hhead]
          exact hle
        · exact Int.le_trans hle (hy z htail)
      · have hlt : rank y < rank x := Int.not_le.mp hle
        have hne : y ≠ x := by
          intro heq
          rw [heq] at hlt
          exact Int.lt_irrefl _ hlt
        rw [if_neg hle, List.idxOf_cons_ne _ hne, ih hys,
          List.countP_cons_of_pos (by simpa using hlt)]

theorem idxOf_orderedInsert_of_ne {rank : elem -> Int} {x e : elem} (hne : x ≠ e)
    {xs : List elem} (hsorted : xs.Pairwise (fun a b => rank a <= rank b)) (he : e ∈ xs) :
    (xs.orderedInsert (fun a b => rank a <= rank b) x).idxOf e =
      xs.idxOf e + if rank x <= rank e then 1 else 0 := by
  induction xs with
  | nil => cases he
  | cons y ys ih =>
      rcases List.pairwise_cons.mp hsorted with ⟨hy, hys⟩
      rw [List.orderedInsert_cons]
      by_cases hle : rank x <= rank y
      · have hrank : rank x <= rank e := by
          rcases List.mem_cons.mp he with hhead | htail
          · rw [hhead]
            exact hle
          · exact Int.le_trans hle (hy e htail)
        rw [if_pos hle, if_pos hrank, List.idxOf_cons_ne _ hne]
      · rw [if_neg hle]
        by_cases hhead : y = e
        · rw [hhead] at hle
          rw [hhead, List.idxOf_cons_self, List.idxOf_cons_self, if_neg hle]
        · have htail : e ∈ ys := by
            rcases List.mem_cons.mp he with heq | htail
            · exact absurd heq.symm hhead
            · exact htail
          rw [List.idxOf_cons_ne _ hhead, List.idxOf_cons_ne _ hhead, ih hys htail,
            Nat.succ_eq_add_one, Nat.succ_eq_add_one, Nat.add_right_comm]

theorem idxOf_orderBy (rank : elem -> Int) {x : elem} {xs : List elem} (hx : x ∈ xs) :
    (orderBy rank xs).idxOf x = rowsBefore rank x xs := by
  induction xs with
  | nil => cases hx
  | cons y ys ih =>
      show ((orderBy rank ys).orderedInsert _ y).idxOf x = _
      have hsorted := orderBy_sorted rank ys
      unfold rowsBefore
      by_cases hhead : y = x
      · rw [hhead, idxOf_orderedInsert_self x hsorted, (orderBy_perm rank ys).countP_eq,
          List.takeWhile_cons_of_neg (by simp), List.countP_cons_of_neg (by simp)]
        rfl
      · have htail : x ∈ ys := by
          rcases List.mem_cons.mp hx with heq | htail
          · exact absurd heq.symm hhead
          · exact htail
        rw [idxOf_orderedInsert_of_ne hhead hsorted (mem_orderBy.mpr htail), ih htail,
          List.takeWhile_cons_of_pos (by simpa using hhead), List.countP_cons,
          List.countP_cons]
        unfold rowsBefore
        simp only [decide_eq_true_iff]
        -- the new row counts once, as a lower rank or as an older row
        split <;> split <;> split <;> omega

theorem mem_take_orderBy {rank : elem -> Int} {n : Nat} {x : elem} {xs : List elem} :
    x ∈ (orderBy rank xs).take n <-> x ∈ xs ∧ rowsBefore rank x xs < n := by
  constructor
  · intro h
    have hx := mem_orderBy.mp (List.mem_of_mem_take h)
    rw [← idxOf_orderBy rank hx]
    exact ⟨hx, (List.mem_take_iff_idxOf_lt (mem_orderBy.mpr hx)).mp h⟩
  · intro h
    rcases h with ⟨hx, hlt⟩
    rw [← idxOf_orderBy rank hx] at hlt
    exact (List.mem_take_iff_idxOf_lt (mem_orderBy.mpr hx)).mpr hlt

end Limit

/-!
## Aggregates

None of them depends on the order of the rows.
-/

variable {V : Type _} [LinearOrder V]

theorem max?_perm {xs ys : List V} (h : xs.Perm ys) : xs.max? = ys.max? := by
  cases hxs : xs.max? with
  | none =>
      rw [List.max?_eq_none_iff] at hxs
      rw [hxs] at h
      rw [h.symm.eq_nil]
      rfl
  | some m =>
      rw [List.max?_eq_some_iff] at hxs
      symm
      rw [List.max?_eq_some_iff]
      exact ⟨h.mem_iff.mp hxs.left, fun b hb => hxs.right b (h.mem_iff.mpr hb)⟩

end Foundation
end PanicMonitr
