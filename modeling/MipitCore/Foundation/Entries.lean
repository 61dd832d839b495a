import Mathlib.Algebra.BigOperators.Group.List.Basic
import Mathlib.Algebra.Ring.Nat
import Mathlib.Data.List.Nodup

/-!
# Entries that are counted under keys

A list of entries with distinct keys, where the value under a key is made when it is first
needed and then changed in place. If some of the changes add one to a measure of the value that
they change, and the others leave it, then the measures of all values add up to their number.

## Main definitions

* `Entries.update` — the value under a key is made or changed
* `Entries.total` — a measure, summed over the entries

## Main results

* `Entries.total_foldl` — what a list of changes adds to a total
* `Entries.forall_foldl`, `Entries.nodup_foldl` — what they keep of the values and the keys
-/

namespace MipitCore.Foundation.Entries

universe u v w

variable {κ : Type u} {ν : Type v} [DecidableEq κ]

/-- The value under `key` becomes `f` of what it was; an entry that is new comes last. -/
def update (key : κ) (f : Option ν → ν) : List (κ × ν) → List (κ × ν)
  | [] => [(key, f none)]
  | (key', value) :: entries =>
    if key' = key then (key', f (some value)) :: entries
    else (key', value) :: update key f entries

/-- The sum of a measure of the values. -/
def total (measure : ν → ℕ) (entries : List (κ × ν)) : ℕ :=
  (entries.map fun entry => measure entry.2).sum

section

variable {key : κ} {f : Option ν → ν} {entries : List (κ × ν)} {measure : ν → ℕ} {amount : ℕ}

/-- A change that adds an amount to the measure of the value adds it to the total. -/
theorem total_update (hf : ∀ value, measure (f value) = value.elim 0 measure + amount) :
    total measure (update key f entries) = total measure entries + amount := by
  induction entries with
  | nil => simp [update, total, hf none]
  | cons entry entries ih =>
    obtain ⟨key', value⟩ := entry
    rw [update]
    split_ifs with hkey
    · simp only [total, List.map_cons, List.sum_cons, hf (some value), Option.elim_some]
      omega
    · simp only [total, List.map_cons, List.sum_cons] at ih ⊢
      rw [ih, Nat.add_assoc]

theorem forall_update {P : ν → Prop} (hf : ∀ value, (∀ v ∈ value, P v) → P (f value))
    (h : ∀ entry ∈ entries, P entry.2) : ∀ entry ∈ update key f entries, P entry.2 := by
  induction entries with
  | nil => simpa [update] using hf none (by simp)
  | cons entry entries ih =>
    obtain ⟨key', value⟩ := entry
    rw [List.forall_mem_cons] at h
    rw [update]
    split_ifs with hkey
    · exact List.forall_mem_cons.mpr ⟨hf (some value) (by simpa using h.1), h.2⟩
    · exact List.forall_mem_cons.mpr ⟨h.1, ih h.2⟩

/-- The keys stay as they are, or the one that was changed comes to them. -/
theorem keys_update :
    (update key f entries).map Prod.fst =
      if key ∈ entries.map Prod.fst then entries.map Prod.fst
      else entries.map Prod.fst ++ [key] := by
  induction entries with
  | nil => rfl
  | cons entry entries ih =>
    obtain ⟨key', value⟩ := entry
    rw [update]
    split_ifs with hkey hmem hmem
    · rfl
    · -- the key that was changed is there
      exact absurd (by simp [hkey]) hmem
    · rw [List.map_cons, List.mem_cons, or_iff_right (Ne.symm hkey)] at hmem
      rw [List.map_cons, List.map_cons, ih, if_pos hmem]
    · rw [List.map_cons, List.mem_cons, not_or] at hmem
      rw [List.map_cons, List.map_cons, ih, if_neg hmem.2, List.cons_append]

theorem nodup_update (h : (entries.map Prod.fst).Nodup) :
    ((update key f entries).map Prod.fst).Nodup := by
  rw [keys_update]
  split_ifs with hmem
  · exact h
  · exact List.Nodup.append h (List.nodup_singleton key) (List.disjoint_singleton.mpr hmem)

end

/-! ### One change after the other -/

section

variable {α : Type w} {keyOf : α → κ} {change : α → Option ν → ν} {entries : List (κ × ν)}

/-- If each of the changes that `counts` holds of adds one, the total grows by their number. -/
theorem total_foldl {measure : ν → ℕ} {counts : α → Bool}
    (hchange : ∀ a value,
      measure (change a value) = value.elim 0 measure + if counts a = true then 1 else 0)
    (l : List α) :
    total measure (l.foldl (fun entries a => update (keyOf a) (change a) entries) entries) =
      total measure entries + l.countP counts := by
  induction l generalizing entries with
  | nil => rfl
  | cons a l ih =>
    rw [List.foldl_cons, ih, total_update (hchange a), List.countP_cons]
    omega

theorem total_foldl_nil {measure : ν → ℕ} {counts : α → Bool}
    (hchange : ∀ a value,
      measure (change a value) = value.elim 0 measure + if counts a = true then 1 else 0)
    (l : List α) :
    total measure (l.foldl (fun entries a => update (keyOf a) (change a) entries) []) =
      l.countP counts := by
  rw [total_foldl hchange, total, List.map_nil, List.sum_nil, Nat.zero_add]

theorem forall_foldl {P : ν → Prop} (hchange : ∀ a value, (∀ v ∈ value, P v) → P (change a value))
    (h : ∀ entry ∈ entries, P entry.2) (l : List α) :
    ∀ entry ∈ l.foldl (fun entries a => update (keyOf a) (change a) entries) entries,
      P entry.2 := by
  induction l generalizing entries with
  | nil => exact h
  | cons a l ih => exact ih (forall_update (hchange a) h)

theorem nodup_foldl (h : (entries.map Prod.fst).Nodup) (l : List α) :
    ((l.foldl (fun entries a => update (keyOf a) (change a) entries) entries).map
      Prod.fst).Nodup := by
  induction l generalizing entries with
  | nil => exact h
  | cons a l ih => exact ih (nodup_update h)

end

end MipitCore.Foundation.Entries
