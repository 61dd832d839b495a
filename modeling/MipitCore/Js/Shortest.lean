import MipitCore.Js.Double

/-!
# Decimals of fifteen digits

Doubles are closer to each other than decimals of fifteen digits are. So a decimal of at most
fifteen digits is the only one next to its double, it is what `String` writes for that double,
and a text of such a decimal is written again as a text of the same number.

## Main definitions

* `OfFifteenDigits`

## Main results

* `shortest_nearest` — the shortest decimal of the nearest double is the decimal itself
* `denotes_toText_parseFloat`
-/

namespace MipitCore.Js

open Foundation (BinaryFormat roundEven)

/-- `q` has at most fifteen digits, and its size is that of a double with all of its digits. -/
def OfFifteenDigits (q : ℚ) : Prop :=
  ∃ (n : ℕ) (j : ℤ), n < 10 ^ 15 ∧ q = n * 10 ^ j ∧ 2 ^ (-1022 : ℤ) ≤ q ∧ q < 2 ^ 1024 - 2 ^ 970

section

variable {q u : ℚ} {j m n : ℤ}

/-- The relative error of a double with all of its digits. -/
theorem abs_nearest_sub_le_mul (hq : 0 < q) :
    |binary64.nearest q - q| ≤ max q (2 ^ (-1022 : ℤ)) / 2 ^ 53 := by
  have h := BinaryFormat.abs_nearest_sub_le_mul (F := binary64) hq
  have hpower : (2 : ℚ) ^ (binary64.lowest + binary64.precision - 1) = 2 ^ (-1022 : ℤ) := rfl
  have hprecision : (2 : ℚ) ^ binary64.precision = 2 ^ 53 := rfl
  rwa [hpower, hprecision] at h

theorem pos_of_normal (hnormal : 2 ^ (-1022 : ℤ) ≤ q) : 0 < q :=
  (zpow_pos (by norm_num) _).trans_le hnormal

/-- A number of normal size is off by a part of itself. -/
theorem abs_nearest_sub_le_of_normal (hnormal : 2 ^ (-1022 : ℤ) ≤ q) :
    |binary64.nearest q - q| ≤ q / 2 ^ 53 := by
  simpa only [max_eq_left hnormal] using abs_nearest_sub_le_mul (pos_of_normal hnormal)

theorem nearest_pos_of_normal (hnormal : 2 ^ (-1022 : ℤ) ≤ q) : 0 < binary64.nearest q := by
  have hpos := pos_of_normal hnormal
  have herror := abs_le.mp (abs_nearest_sub_le_of_normal hnormal)
  linarith

/-- **No other multiple of `u` is next to the double of a decimal** that is short of `10 ^ 15`
times `u`. -/
theorem multiple_unique (hu : 0 < u) (hn : (n : ℚ) < 10 ^ 15) (hnormal : 2 ^ (-1022 : ℤ) ≤ n * u)
    (h : binary64.nearest (m * u) = binary64.nearest (n * u)) : m = n := by
  have hq := pos_of_normal hnormal
  have herror := abs_le.mp (abs_nearest_sub_le_of_normal hnormal)
  -- the double is positive, and so is what is rounded to it
  have hp : 0 < (m : ℚ) * u := by
    by_contra hle
    have hnonpos := BinaryFormat.nearest_nonpos (F := binary64) (not_lt.mp hle)
    rw [h] at hnonpos
    exact absurd (nearest_pos_of_normal hnormal) (not_lt.mpr hnonpos)
  have herror' := abs_le.mp (abs_nearest_sub_le_mul hp)
  rw [h] at herror'
  have hsize : (n : ℚ) * u < 10 ^ 15 * u := mul_lt_mul_of_pos_right hn hu
  -- both are within a fourth of a unit of the double
  have hmax : max ((m : ℚ) * u) (2 ^ (-1022 : ℤ)) ≤ 2 * (n * u) := by
    rcases max_cases ((m : ℚ) * u) (2 ^ (-1022 : ℤ)) with ⟨heq, -⟩ | ⟨heq, -⟩
    · rw [heq] at herror' ⊢
      linarith
    · rw [heq]
      linarith
  have hlow : ((m : ℚ) - n) * u < 1 * u := by linarith
  have hhigh : ((n : ℚ) - m) * u < 1 * u := by linarith
  have hlow' : (m : ℚ) - n < 1 := lt_of_mul_lt_mul_right hlow hu.le
  have hhigh' : (n : ℚ) - m < 1 := lt_of_mul_lt_mul_right hhigh hu.le
  have hless : m - n < 1 := by exact_mod_cast hlow'
  have hmore : n - m < 1 := by exact_mod_cast hhigh'
  omega

/-- The decimal of a double is among the candidates of its last place. -/
theorem readBack_nearest (hn : (n : ℚ) < 10 ^ 15) (hnormal : (2 : ℚ) ^ (-1022 : ℤ) ≤ n * 10 ^ j) :
    readBack (binary64.nearest (n * 10 ^ j)) j = some ((n : ℚ) * 10 ^ j) := by
  have hu : (0 : ℚ) < 10 ^ j := zpow_pos (by norm_num) _
  have herror := abs_le.mp (abs_nearest_sub_le_of_normal hnormal)
  have hsize : (n : ℚ) * 10 ^ j < 10 ^ 15 * 10 ^ j := mul_lt_mul_of_pos_right hn hu
  have hround : roundEven (binary64.nearest (n * 10 ^ j) / 10 ^ j) = n := by
    refine Foundation.roundEven_of_abs_lt ?_
    rw [abs_lt, div_sub' hu.ne', lt_div_iff₀ hu, div_lt_iff₀ hu]
    constructor <;> linarith
  rw [readBack, hround, List.map_cons, List.find?_cons_of_pos (by simp)]

/-- The first digit of the double has the place of the first digit of the decimal, or the next. -/
theorem log_nearest {n : ℕ} (hn : n < 10 ^ 15) (hnormal : (2 : ℚ) ^ (-1022 : ℤ) ≤ n * 10 ^ j) :
    j ≤ Int.log 10 (binary64.nearest (n * 10 ^ j)) + 1 ∧
      Int.log 10 (binary64.nearest (n * 10 ^ j)) < j + 16 := by
  have hu : (0 : ℚ) < 10 ^ j := zpow_pos (by norm_num) _
  have hq := pos_of_normal hnormal
  have herror := abs_le.mp (abs_nearest_sub_le_of_normal hnormal)
  have hdouble := nearest_pos_of_normal hnormal
  have hone : (1 : ℚ) * 10 ^ j ≤ n * 10 ^ j := by
    have hpos : 0 < n := Nat.cast_pos.mp (pos_of_mul_pos_left hq hu.le)
    exact mul_le_mul_of_nonneg_right (by exact_mod_cast hpos) hu.le
  have hsize : (n : ℚ) * 10 ^ j < 10 ^ 15 * 10 ^ j :=
    mul_lt_mul_of_pos_right (by exact_mod_cast hn) hu
  constructor
  · rw [← sub_le_iff_le_add, ← Int.zpow_le_iff_le_log (by norm_num) hdouble]
    push_cast
    rw [zpow_sub_one₀ (by norm_num)]
    linarith
  · rw [← Int.lt_zpow_iff_log_lt (by norm_num) hdouble]
    push_cast
    rw [zpow_add₀ (by norm_num)]
    have hpower : (10 : ℚ) ^ (16 : ℤ) = 10 ^ 16 := by norm_cast
    rw [hpower]
    linarith

/-- **A decimal of fifteen digits is the shortest one** of its double. -/
theorem shortest_nearest {n : ℕ} (hn : n < 10 ^ 15)
    (hnormal : (2 : ℚ) ^ (-1022 : ℤ) ≤ n * 10 ^ j) :
    shortest (binary64.nearest (n * 10 ^ j)) = n * 10 ^ j := by
  have hu : (0 : ℚ) < 10 ^ j := zpow_pos (by norm_num) _
  have hcast : ((n : ℤ) : ℚ) < 10 ^ 15 := by exact_mod_cast hn
  obtain ⟨hlow, hhigh⟩ := log_nearest hn hnormal
  obtain ⟨i, hi⟩ := Int.eq_ofNat_of_zero_le (sub_nonneg.mpr hlow)
  have hplace : Int.log 10 (binary64.nearest (n * 10 ^ j)) + 1 - (i : ℤ) = j := by omega
  have hfound : readBack (binary64.nearest (n * 10 ^ j)) j = some ((n : ℚ) * 10 ^ j) :=
    readBack_nearest (n := (n : ℤ)) hcast hnormal
  unfold shortest
  generalize Int.log 10 (binary64.nearest (n * 10 ^ j)) = log at hplace hhigh
  -- what is found at a place before the last one is a multiple of its unit too
  have hfirst : ∀ i' ≤ i, ∀ r, readBack (binary64.nearest (n * 10 ^ j)) (log + 1 - i') = some r →
      r = n * 10 ^ j := by
    intro i' hi' r hr
    obtain ⟨⟨m, rfl⟩, hround⟩ := readBack_eq_some hr
    have hunit : (10 : ℚ) ^ (log + 1 - (i' : ℤ)) = 10 ^ (i - i') * 10 ^ j := by
      rw [← zpow_natCast, ← zpow_add₀ (by norm_num)]
      congr 1
      omega
    have hmultiple : (m : ℚ) * 10 ^ (log + 1 - (i' : ℤ)) =
        ((m * 10 ^ (i - i') : ℤ) : ℚ) * 10 ^ j := by
      rw [hunit]
      push_cast
      ring
    rw [hmultiple] at hround ⊢
    rw [multiple_unique hu hcast hnormal hround, Int.cast_natCast]
  have hrange : List.range 19 =
      List.range (i + 1) ++ (List.range (18 - i)).map (i + 1 + ·) := by
    rw [← List.range_add]
    congr 1
    omega
  obtain ⟨r, hr⟩ := Option.isSome_iff_exists.mp (List.findSome?_isSome_iff.mpr
    ⟨i, List.mem_range.mpr (Nat.lt_succ_self i), by rw [hplace, hfound]; rfl⟩ :
      ((List.range (i + 1)).findSome? fun i : ℕ =>
        readBack (binary64.nearest (n * 10 ^ j)) (log + 1 - i)).isSome = true)
  obtain ⟨i', hi', hread⟩ := List.exists_of_findSome?_eq_some hr
  rw [hrange, List.findSome?_append, hr, Option.some_or, Option.getD_some]
  exact hfirst i' (Nat.lt_succ_iff.mp (List.mem_range.mp hi')) r hread

/-- **A decimal of fifteen digits is written as it was read.** -/
theorem denotes_toText_parseFloat {s : Text} (h : Denotes s q) (hq : OfFifteenDigits q) :
    Denotes (@Number.toText .double (@parseFloat .double s)) q := by
  obtain ⟨n, j, hn, rfl, hnormal, hlt⟩ := hq
  have hpos := pos_of_normal hnormal
  have hdouble := (toDouble_eq_nearest_iff hpos.le).mpr hlt
  have htext : @Number.toText .double (.fin (binary64.nearest (n * 10 ^ j))) =
      positiveText (shortest (binary64.nearest (n * 10 ^ j))) :=
    @toText_of_pos _ .double (nearest_pos_of_normal hnormal)
  rw [h.parseFloat, hdouble, htext, shortest_nearest hn hnormal]
  exact @parseFloat_positiveText _ .exact hpos (isDecimal_mul_ten_zpow n j)

end

end MipitCore.Js
