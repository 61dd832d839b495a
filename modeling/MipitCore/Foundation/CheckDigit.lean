import Mathlib.Algebra.BigOperators.Group.List.Basic
import Mathlib.Algebra.Ring.Nat
import Mathlib.Data.Nat.ModEq

/-!
# Check digits

A word of digits below `m` is in the code of some weights if the weighted sum of its digits is a
multiple of `m`. Where the weights are prime to `m`, each digit is determined by the others: no two
words of the code differ in a single digit. A digit of weight one that is put at the end can be
chosen in one way, which is the check digit.

It makes no difference whether the products are reduced modulo `m` before they are added up.

## Main definitions

* `weighted` — the weighted sum
* `IsCodeword`
* `checkDigit`

## Main results

* `IsCodeword.getElem_eq` — no single digit of a codeword can be replaced
* `isCodeword_append_iff` — the last digit is the check digit
-/

namespace MipitCore.Foundation.CheckDigit

/-- The sum of the digits, each times its weight. -/
def weighted (digits weights : List ℕ) : ℕ := (List.zipWith (· * ·) digits weights).sum

/-- The digits are below `m`, as many as there are weights, and their weighted sum is a multiple of
`m`. -/
structure IsCodeword (m : ℕ) (weights digits : List ℕ) : Prop where
  length_eq : digits.length = weights.length
  lt : ∀ d ∈ digits, d < m
  dvd : m ∣ weighted digits weights

/-- What the digits lack of a multiple of `m`. -/
def checkDigit (m : ℕ) (weights digits : List ℕ) : ℕ := (m - weighted digits weights % m) % m

section

variable {m d i : ℕ} {digits weights : List ℕ}

@[simp] theorem weighted_nil_left (weights : List ℕ) : weighted [] weights = 0 := rfl

@[simp] theorem weighted_cons (d w : ℕ) (digits weights : List ℕ) :
    weighted (d :: digits) (w :: weights) = d * w + weighted digits weights := by
  simp [weighted]

theorem weighted_append (h : digits.length = weights.length) (digits' weights' : List ℕ) :
    weighted (digits ++ digits') (weights ++ weights') =
      weighted digits weights + weighted digits' weights' := by
  rw [weighted, List.zipWith_append h, List.sum_append]
  rfl

/-- Another digit in one place changes the weighted sum by its own share. -/
theorem weighted_set (hi : i < digits.length) (hw : i < weights.length) (d : ℕ) :
    weighted (digits.set i d) weights + digits[i] * weights[i] =
      weighted digits weights + d * weights[i] := by
  induction digits generalizing i weights with
  | nil => cases hi
  | cons e digits ih =>
    cases weights with
    | nil => cases hw
    | cons w weights =>
      cases i with
      | zero =>
        simp only [List.set_cons_zero, weighted_cons, List.getElem_cons_zero]
        omega
      | succ i =>
        have hrest := ih (Nat.lt_of_succ_lt_succ hi) (Nat.lt_of_succ_lt_succ hw)
        simp only [List.set_cons_succ, weighted_cons, List.getElem_cons_succ]
        omega

/-- The products may be reduced before they are added up. -/
theorem weighted_mod (m : ℕ) (digits weights : List ℕ) :
    (List.zipWith (fun d w => d * w % m) digits weights).sum % m = weighted digits weights % m := by
  rw [weighted, List.sum_nat_mod (List.zipWith (· * ·) digits weights), List.map_zipWith]

/-- **No single digit of a codeword can be replaced**, in a place whose weight is prime to `m`. -/
theorem IsCodeword.getElem_eq (h : IsCodeword m weights digits) (hi : i < digits.length)
    (hw : i < weights.length) (hprime : Nat.gcd m weights[i] = 1)
    (h' : IsCodeword m weights (digits.set i d)) : digits[i] = d := by
  have hlt : digits[i] < m := h.lt _ (List.getElem_mem hi)
  have hlt' : d < m := h'.lt d (List.mem_set hi d)
  have hsum := weighted_set hi hw d
  have hmod : digits[i] * weights[i] ≡ d * weights[i] [MOD m] := by
    have hzero : weighted digits weights ≡ weighted (digits.set i d) weights [MOD m] :=
      (Nat.modEq_zero_iff_dvd.mpr h.dvd).trans (Nat.modEq_zero_iff_dvd.mpr h'.dvd).symm
    refine Nat.ModEq.add_left_cancel hzero.symm ?_
    rw [hsum]
  exact (Nat.ModEq.cancel_right_of_coprime hprime hmod).eq_of_lt_of_lt hlt hlt'

theorem checkDigit_lt (hm : 0 < m) (weights digits : List ℕ) : checkDigit m weights digits < m :=
  Nat.mod_lt _ hm

/-- The check digit makes up what is missing. -/
theorem weighted_add_checkDigit (hm : 0 < m) (weights digits : List ℕ) :
    weighted digits weights + checkDigit m weights digits ≡ 0 [MOD m] := by
  set sum := weighted digits weights with hsum
  have hle : sum % m ≤ m := (Nat.mod_lt sum hm).le
  calc sum + (m - sum % m) % m
      ≡ sum + (m - sum % m) [MOD m] := Nat.ModEq.add_left sum (Nat.mod_modEq _ m)
    _ ≡ sum % m + (m - sum % m) [MOD m] := Nat.ModEq.add_right _ (Nat.mod_modEq sum m).symm
    _ = m := Nat.add_sub_of_le hle
    _ ≡ 0 [MOD m] := Nat.modEq_zero_iff_dvd.mpr dvd_rfl

/-- **The last digit of a codeword**, where its weight is one, is the check digit of the others. -/
theorem isCodeword_append_iff (hm : 0 < m) (h : digits.length = weights.length) :
    IsCodeword m (weights ++ [1]) (digits ++ [d]) ↔
      (∀ e ∈ digits, e < m) ∧ d = checkDigit m weights digits := by
  have hsum : weighted (digits ++ [d]) (weights ++ [1]) = weighted digits weights + d := by
    rw [weighted_append h, weighted_cons, mul_one, weighted_nil_left, add_zero]
  have hcheck : weighted digits weights + checkDigit m weights digits ≡ 0 [MOD m] :=
    weighted_add_checkDigit hm weights digits
  constructor
  · intro hword
    have hdigits := List.forall_mem_append.mp hword.lt
    refine ⟨hdigits.1, ?_⟩
    have hdvd := hword.dvd
    rw [hsum] at hdvd
    have hmod : weighted digits weights + d ≡
        weighted digits weights + checkDigit m weights digits [MOD m] :=
      (Nat.modEq_zero_iff_dvd.mpr hdvd).trans hcheck.symm
    exact (Nat.ModEq.add_left_cancel' _ hmod).eq_of_lt_of_lt
      (hdigits.2 d (List.mem_singleton_self d)) (checkDigit_lt hm weights digits)
  · rintro ⟨hdigits, rfl⟩
    refine ⟨by simp [h], List.forall_mem_append.mpr ⟨hdigits, ?_⟩, ?_⟩
    · exact List.forall_mem_singleton.mpr (checkDigit_lt hm weights digits)
    · rw [hsum]
      exact Nat.modEq_zero_iff_dvd.mp hcheck

end

end MipitCore.Foundation.CheckDigit
