import Mathlib.Data.List.Dedup
import MipitCore.Foundation.Entries

/-!
# Groups, and entries that are made from them

A query that groups rows answers with each key that occurs, in no particular order, and
with the number of its rows. Whoever goes through the groups and collects them under
coarser keys has counted the rows: what is summed over the groups of some kind is the number
of rows of that kind, and the entry under a key has seen the groups of that key only.

## Main definitions

* `IsGrouped` — `SELECT key, COUNT(*) ... GROUP BY key`
* `grouped` — one such answer
* `sumOf` — the rows of the groups of some kind

## Main results

* `IsGrouped.sumOf_eq` — a sum over groups counts rows
* `lookup_foldl` — an entry is changed under its own key only
* `total_foldl_sum` — the sum of a measure over all entries
-/

namespace MipitCore.Foundation

universe u v w

variable {α : Type u} {κ : Type v} [DecidableEq κ]

/-- What a query may answer with that groups `rows` by `keyOf` and counts them. -/
structure IsGrouped (keyOf : α → κ) (rows : List α) (groups : List (κ × ℕ)) : Prop where
  nodup : (groups.map Prod.fst).Nodup
  count : ∀ g ∈ groups, g.2 = rows.countP fun a => keyOf a = g.1
  keys : ∀ k, k ∈ groups.map Prod.fst ↔ ∃ a ∈ rows, keyOf a = k

/-- The groups in the order in which their keys occur last. -/
def grouped (keyOf : α → κ) (rows : List α) : List (κ × ℕ) :=
  (rows.map keyOf).dedup.map fun k => (k, rows.countP fun a => keyOf a = k)

theorem isGrouped_grouped (keyOf : α → κ) (rows : List α) :
    IsGrouped keyOf rows (grouped keyOf rows) := by
  have hkeys : (grouped keyOf rows).map Prod.fst = (rows.map keyOf).dedup := by
    simp [grouped, Function.comp_def]
  refine ⟨?_, fun g hg => ?_, fun k => ?_⟩
  · rw [hkeys]
    exact List.nodup_dedup _
  · obtain ⟨k, -, rfl⟩ := List.mem_map.mp hg
    rfl
  · rw [hkeys, List.mem_dedup, List.mem_map]

/-- The number of rows of the groups whose keys satisfy `p`. -/
def sumOf (p : κ → Bool) (groups : List (κ × ℕ)) : ℕ :=
  ((groups.filter fun g => p g.1).map Prod.snd).sum

section

variable {p : κ → Bool} {g : κ × ℕ} {groups : List (κ × ℕ)} {keyOf : α → κ} {rows : List α}

omit [DecidableEq κ] in
@[simp] theorem sumOf_nil : sumOf p [] = 0 := rfl

omit [DecidableEq κ] in
theorem sumOf_cons : sumOf p (g :: groups) = (if p g.1 = true then g.2 else 0) + sumOf p groups := by
  by_cases hg : p g.1 = true <;> simp [sumOf, hg]

/-- Rows of different keys are counted apart. -/
theorem countP_mem_cons {k : κ} {keys : List κ} (hk : k ∉ keys) (rows : List α) :
    rows.countP (fun a => keyOf a ∈ k :: keys) =
      rows.countP (fun a => keyOf a = k) + rows.countP fun a => keyOf a ∈ keys := by
  induction rows with
  | nil => rfl
  | cons a rows ih =>
    rw [List.countP_cons, List.countP_cons, List.countP_cons, ih]
    by_cases ha : keyOf a = k
    · simp [ha, hk]
      omega
    · simp [ha]
      omega

/-- Groups of different keys sum up to the rows with one of the keys. -/
theorem sum_counts (hnodup : (groups.map Prod.fst).Nodup)
    (hcount : ∀ g ∈ groups, g.2 = rows.countP fun a => keyOf a = g.1) :
    (groups.map Prod.snd).sum = rows.countP fun a => keyOf a ∈ groups.map Prod.fst := by
  induction groups with
  | nil => simp
  | cons g groups ih =>
    rw [List.map_cons, List.nodup_cons] at hnodup
    rw [List.forall_mem_cons] at hcount
    rw [List.map_cons, List.sum_cons, List.map_cons, countP_mem_cons hnodup.1, ih hnodup.2 hcount.2,
      hcount.1]

theorem IsGrouped.complete (h : IsGrouped keyOf rows groups) {a : α} (ha : a ∈ rows) :
    keyOf a ∈ groups.map Prod.fst :=
  (h.keys _).mpr ⟨a, ha, rfl⟩

/-- **A sum over the groups of a kind is the number of the rows of that kind.** -/
theorem IsGrouped.sumOf_eq (h : IsGrouped keyOf rows groups) (p : κ → Bool) :
    sumOf p groups = rows.countP fun a => p (keyOf a) := by
  have hsub : (groups.filter fun g => p g.1).Sublist groups := List.filter_sublist
  rw [sumOf, sum_counts ((hsub.map Prod.fst).nodup h.nodup) fun g hg => h.count g (hsub.subset hg)]
  refine List.countP_congr fun a ha => ?_
  obtain ⟨g, hg, hkey⟩ := List.mem_map.mp (h.complete ha)
  simp only [decide_eq_true_eq, List.mem_map, List.mem_filter]
  constructor
  · rintro ⟨g', ⟨-, hp⟩, hg'⟩
    rwa [← hg']
  · exact fun hp => ⟨g, ⟨hg, hkey ▸ hp⟩, hkey⟩

/-- A variable that is assigned the count of one key has, after all groups, the rows of that key. -/
theorem IsGrouped.assigned_eq (h : IsGrouped keyOf rows groups) (k : κ) :
    groups.foldl (fun n g => if g.1 = k then g.2 else n) 0 =
      rows.countP fun a => keyOf a = k := by
  have hassigned : ∀ {groups : List (κ × ℕ)} {n : ℕ}, (groups.map Prod.fst).Nodup →
      groups.foldl (fun n g => if g.1 = k then g.2 else n) n =
        if k ∈ groups.map Prod.fst then sumOf (fun k' => k' = k) groups else n := by
    intro groups
    induction groups with
    | nil => simp
    | cons g groups ih =>
      intro n hnodup
      rw [List.map_cons, List.nodup_cons] at hnodup
      rw [List.foldl_cons, ih hnodup.2, sumOf_cons, List.map_cons]
      by_cases hg : g.1 = k
      · -- no other group has the key
        have hk : k ∉ groups.map Prod.fst := hg ▸ hnodup.1
        have hrest : sumOf (fun k' => decide (k' = k)) groups = 0 := by
          rw [sumOf, List.filter_eq_nil_iff.mpr fun g' hg' => ?_]
          · rfl
          · have hne : g'.1 ≠ k := fun heq => hk (heq ▸ List.mem_map_of_mem hg')
            simpa using hne
        simp [hg, hk, hrest]
      · have hmem : k ∈ g.1 :: groups.map Prod.fst ↔ k ∈ groups.map Prod.fst := by
          rw [List.mem_cons, or_iff_right (Ne.symm hg)]
        simp only [hmem, hg, decide_false, Bool.false_eq_true, if_false, Nat.zero_add]
  rw [hassigned h.nodup, h.sumOf_eq]
  split_ifs with hk
  · rfl
  · refine (List.countP_eq_zero.mpr fun a ha heq => hk ?_).symm
    exact of_decide_eq_true heq ▸ h.complete ha

end

namespace Entries

variable {ν : Type w} {key k : κ} {f : Option ν → ν} {entries : List (κ × ν)}

section Lookup

variable [BEq κ] [LawfulBEq κ]

theorem lookup_cons_eq (value : ν) : ((key, value) :: entries).lookup k =
    if k = key then some value else entries.lookup k := by
  rw [List.lookup_cons]
  by_cases hk : k = key
  · simp [hk]
  · rw [beq_false_of_ne hk, if_neg hk]

/-- A change is seen under its own key only. -/
theorem lookup_update : (update key f entries).lookup k =
    if k = key then some (f (entries.lookup key)) else entries.lookup k := by
  induction entries with
  | nil => exact lookup_cons_eq _
  | cons entry entries ih =>
    obtain ⟨key', value⟩ := entry
    rw [update]
    by_cases hkey : key' = key
    · subst hkey
      by_cases hk : k = key' <;> simp [hk, lookup_cons_eq]
    · rw [if_neg hkey, lookup_cons_eq, lookup_cons_eq, lookup_cons_eq, ih]
      by_cases hk : k = key'
      · rw [if_pos hk, if_neg (hk ▸ hkey), if_pos hk]
      · rw [if_neg hk, if_neg (Ne.symm hkey), if_neg hk]

theorem lookup_map {μ : Type*} (f : ν → μ) :
    (entries.map fun entry => (entry.1, f entry.2)).lookup k = (entries.lookup k).map f := by
  induction entries with
  | nil => rfl
  | cons entry entries ih =>
    obtain ⟨key', value⟩ := entry
    rw [List.map_cons, lookup_cons_eq, lookup_cons_eq, ih]
    split_ifs <;> rfl

/-- **The value under a key** has seen the changes under that key, one after the other. -/
theorem lookup_foldl {keyOf : α → κ} {change : α → Option ν → ν} (l : List α) :
    (l.foldl (fun entries a => update (keyOf a) (change a) entries) entries).lookup k =
      (l.filter fun a => keyOf a = k).foldl (fun value a => some (change a value))
        (entries.lookup k) := by
  induction l generalizing entries with
  | nil => rfl
  | cons a l ih =>
    rw [List.foldl_cons, ih, lookup_update]
    by_cases ha : keyOf a = k
    · subst ha
      simp
    · simp [ha, Ne.symm ha]

end Lookup

/-- Changes that add amounts to a measure add their sum to its total. -/
theorem total_foldl_sum {keyOf : α → κ} {change : α → Option ν → ν} {measure : ν → ℕ}
    {amount : α → ℕ} (hchange : ∀ a value,
      measure (change a value) = value.elim 0 measure + amount a) (l : List α) :
    total measure (l.foldl (fun entries a => update (keyOf a) (change a) entries) entries) =
      total measure entries + (l.map amount).sum := by
  induction l generalizing entries with
  | nil => rfl
  | cons a l ih =>
    rw [List.foldl_cons, ih, total_update (hchange a), List.map_cons, List.sum_cons, Nat.add_assoc]

end Entries

end MipitCore.Foundation
