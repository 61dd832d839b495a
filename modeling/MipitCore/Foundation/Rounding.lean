import Mathlib.Algebra.Order.Floor.Ring
import Mathlib.Data.Int.Log
import Mathlib.Data.Rat.Floor
import Mathlib.Tactic.FieldSimp
import Mathlib.Tactic.Linarith
import Mathlib.Tactic.Ring

/-!
# Rounding to a binary format

A binary format has the numbers `m * 2 ^ e` whose `m` has so many binary digits, and whose `e`
is not too small. A rational is rounded to the nearest of them, and to the one with the even
last digit if there are two. Where the digits start depends on the number, so the numbers of
the format lie the closer the smaller they are; what makes rounding manageable all the same is
that a number that lies on the grid of `q` is on the same side of `q` and of what `q` is
rounded to (`le_nearest`, `nearest_le`).

## Main definitions

* `roundEven` — to the nearest integer
* `BinaryFormat`, `BinaryFormat.nearest`
* `BinaryFormat.Representable` — the numbers of the format, large ones included

## Main results

* `le_roundEven_iff`, `roundEven_mono`
* `BinaryFormat.abs_nearest_sub_le` — the error is at most half a unit of the last place
* `BinaryFormat.abs_nearest_sub_le_mul` — and how large it is for the size of the number
* `BinaryFormat.nearest_le_nearest` — rounding is monotone
* `BinaryFormat.nearest_eq_self`, `BinaryFormat.representable_nearest`
* `BinaryFormat.nearest_pos_iff`, `BinaryFormat.nearest_lt_iff` — when nothing is left, and when
  it gets too large
-/

namespace MipitCore.Foundation

/-! ### To the nearest integer -/

/-- The integer nearest to `q`, the even one of two. -/
def roundEven (q : ℚ) : ℤ :=
  if q - ⌊q⌋ < 1 / 2 ∨ q - ⌊q⌋ = 1 / 2 ∧ ⌊q⌋ % 2 = 0 then ⌊q⌋ else ⌊q⌋ + 1

section

variable {p q : ℚ} {n : ℤ}

/-- **What an integer is at most.** A half goes up to an even number. -/
theorem le_roundEven_iff :
    n ≤ roundEven q ↔ (n : ℚ) - 1 / 2 < q ∨ (n : ℚ) - 1 / 2 = q ∧ n % 2 = 0 := by
  have hfloor := Int.floor_le q
  have hlt := Int.lt_floor_add_one q
  -- what is decided by the half is only the integer above the floor
  rcases lt_trichotomy n (⌊q⌋ + 1) with hn | rfl | hn
  · have hle : n ≤ ⌊q⌋ := Int.lt_add_one_iff.mp hn
    have hcast : (n : ℚ) ≤ ⌊q⌋ := by exact_mod_cast hle
    refine iff_of_true ?_ (Or.inl (by linarith))
    unfold roundEven
    split_ifs <;> omega
  · push_cast
    unfold roundEven
    split_ifs with hdown
    · refine iff_of_false (by omega) ?_
      rintro (hup | ⟨hhalf, heven⟩) <;> rcases hdown with hdown | ⟨hhalf', heven'⟩
      · linarith
      · linarith
      · linarith
      · omega
    · rw [not_or, not_lt, not_and] at hdown
      refine iff_of_true le_rfl ?_
      rcases hdown.1.lt_or_eq with hup | hhalf
      · exact Or.inl (by linarith)
      · have hodd := hdown.2 hhalf.symm
        exact Or.inr ⟨by linarith, by omega⟩
  · have hcast : (⌊q⌋ : ℚ) + 1 + 1 ≤ n := by exact_mod_cast hn
    refine iff_of_false ?_ ?_
    · unfold roundEven
      split_ifs <;> omega
    · rintro (hup | ⟨hhalf, -⟩) <;> linarith

theorem roundEven_mono (h : p ≤ q) : roundEven p ≤ roundEven q := by
  rcases le_roundEven_iff.mp (le_refl (roundEven p)) with hp | ⟨hp, heven⟩
  · exact le_roundEven_iff.mpr (Or.inl (hp.trans_le h))
  · refine le_roundEven_iff.mpr ?_
    rcases h.lt_or_eq with hlt | rfl
    · exact Or.inl (hp.trans_lt hlt)
    · exact Or.inr ⟨hp, heven⟩

theorem abs_roundEven_sub_le (q : ℚ) : |(roundEven q : ℚ) - q| ≤ 1 / 2 := by
  have hlow : (roundEven q : ℚ) - 1 / 2 ≤ q := by
    rcases le_roundEven_iff.mp (le_refl (roundEven q)) with h | h
    · exact h.le
    · exact h.1.le
  have hhigh : q ≤ ((roundEven q + 1 : ℤ) : ℚ) - 1 / 2 := by
    by_contra hlt
    have hle := le_roundEven_iff.mpr (Or.inl (not_le.mp hlt))
    omega
  push_cast at hhigh
  rw [abs_le]
  constructor <;> linarith

/-- What is less than a half off an integer is rounded to it. -/
theorem roundEven_of_abs_lt (h : |q - n| < 1 / 2) : roundEven q = n := by
  have hround := abs_le.mp (abs_roundEven_sub_le q)
  have hn := abs_lt.mp h
  have hlow : (roundEven q : ℚ) - n < 1 := by linarith
  have hhigh : (n : ℚ) - roundEven q < 1 := by linarith
  have hlow' : roundEven q - n < 1 := by exact_mod_cast hlow
  have hhigh' : n - roundEven q < 1 := by exact_mod_cast hhigh
  omega

@[simp] theorem roundEven_intCast (n : ℤ) : roundEven n = n := by
  refine le_antisymm ?_ (le_roundEven_iff.mpr (Or.inl (by linarith)))
  by_contra hlt
  have hle : n + 1 ≤ roundEven (n : ℚ) := by omega
  rw [le_roundEven_iff] at hle
  push_cast at hle
  rcases hle with h | h <;> linarith

theorem roundEven_le (h : q ≤ n) : roundEven q ≤ n :=
  (roundEven_mono h).trans_eq (roundEven_intCast n)

theorem le_roundEven (h : (n : ℚ) ≤ q) : n ≤ roundEven q :=
  (roundEven_intCast n).symm.trans_le (roundEven_mono h)

end

/-! ### To a format -/

/-- Numbers `m * 2 ^ e`, where `m` has at most `precision` binary digits and `e` is at least
`lowest`; the finite ones are below `2 ^ bound`. -/
structure BinaryFormat where
  precision : ℕ
  lowest : ℤ
  bound : ℤ
  precision_pos : 0 < precision
  lowest_le : lowest + precision ≤ bound

namespace BinaryFormat

variable (F : BinaryFormat)

/-- The exponent of the last digit that is kept of `q`. -/
def place (q : ℚ) : ℤ := max F.lowest (Int.log 2 |q| + 1 - F.precision)

/-- The unit of the last digit that is kept of `q`. -/
def ulp (q : ℚ) : ℚ := 2 ^ F.place q

/-- `q` with so many digits; its size is not looked at. -/
def nearest (q : ℚ) : ℚ := roundEven (q / F.ulp q) * F.ulp q

/-- `q` is a number of the format, or would be if it were not so large. -/
def Representable (q : ℚ) : Prop :=
  ∃ (m e : ℤ), |m| < 2 ^ F.precision ∧ F.lowest ≤ e ∧ q = m * 2 ^ e

section

variable {F} {p q : ℚ} {n e k : ℤ}

theorem ulp_pos : 0 < F.ulp q := zpow_pos (by norm_num) _

theorem lt_two_zpow (q : ℚ) : |q| < 2 ^ (Int.log 2 |q| + 1) := by
  simpa using Int.lt_zpow_succ_log_self (b := 2) (by norm_num) |q|

theorem two_zpow_le (hq : q ≠ 0) : 2 ^ Int.log 2 |q| ≤ |q| := by
  simpa using Int.zpow_log_le_self (b := 2) (by norm_num) (abs_pos.mpr hq)

theorem log_lt_of_lt (hq : q ≠ 0) (h : |q| < 2 ^ k) : Int.log 2 |q| < k :=
  (zpow_lt_zpow_iff_right₀ (by norm_num : (1 : ℚ) < 2)).mp ((two_zpow_le hq).trans_lt h)

/-- The digits of a smaller number end no earlier. -/
theorem place_le (hq : q ≠ 0) (h : |q| < 2 ^ k) (hk : F.lowest + F.precision ≤ k) :
    F.place q ≤ k - F.precision := by
  have hlog := log_lt_of_lt hq h
  rw [place, max_le_iff]
  omega

theorem ulp_le (hq : q ≠ 0) (h : |q| < 2 ^ k) (hk : F.lowest + F.precision ≤ k) :
    F.ulp q ≤ 2 ^ (k - F.precision) :=
  zpow_le_zpow_right₀ (by norm_num) (place_le hq h hk)

/-- **The error is at most half a unit of the last place.** -/
theorem abs_nearest_sub_le (q : ℚ) : |F.nearest q - q| ≤ F.ulp q / 2 := by
  have hpos := ulp_pos (F := F) (q := q)
  have heq : F.nearest q - q = (roundEven (q / F.ulp q) - q / F.ulp q) * F.ulp q := by
    rw [nearest, sub_mul, div_mul_cancel₀ _ hpos.ne']
  rw [heq, abs_mul, abs_of_pos hpos]
  have hround := abs_roundEven_sub_le (q / F.ulp q)
  nlinarith

/-- **The relative error** of a number with all of its digits. -/
theorem abs_nearest_sub_le_mul (hq : 0 < q) :
    |F.nearest q - q| ≤ max q (2 ^ (F.lowest + F.precision - 1)) / 2 ^ F.precision := by
  refine (abs_nearest_sub_le q).trans ?_
  have hunit : ∀ e : ℤ, (2 : ℚ) ^ e / 2 = 2 ^ (e + F.precision - 1) / 2 ^ F.precision := by
    intro e
    rw [zpow_sub_one₀ (by norm_num), zpow_add₀ (by norm_num), zpow_natCast]
    field_simp
  rw [ulp, hunit]
  refine div_le_div_of_nonneg_right ?_ (by positivity)
  rcases le_total (Int.log 2 |q| + 1 - F.precision) F.lowest with hle | hle
  · -- so small a number has lost digits, and the unit is the least one
    rw [place, max_eq_left hle]
    exact le_max_right _ _
  · rw [place, max_eq_right hle]
    refine le_max_of_le_left ?_
    have hlog := (two_zpow_le hq.ne').trans_eq (abs_of_pos hq)
    rwa [show Int.log 2 |q| + 1 - (F.precision : ℤ) + F.precision - 1 = Int.log 2 |q| by omega]

/-- A number of a coarser grid is a multiple of the unit. -/
theorem exists_mul_ulp (he : F.place q ≤ e) (n : ℤ) : ∃ m : ℤ, (n : ℚ) * 2 ^ e = m * F.ulp q := by
  obtain ⟨d, hd⟩ := Int.eq_ofNat_of_zero_le (sub_nonneg.mpr he)
  refine ⟨n * 2 ^ d, ?_⟩
  rw [ulp, show e = d + F.place q by omega, zpow_add₀ (by norm_num)]
  push_cast [zpow_natCast]
  ring

/-- **What lies on the grid of `q` and below `q`** is below what `q` is rounded to. -/
theorem le_nearest (he : F.place q ≤ e) (h : (n : ℚ) * 2 ^ e ≤ q) :
    (n : ℚ) * 2 ^ e ≤ F.nearest q := by
  obtain ⟨m, hm⟩ := exists_mul_ulp he n
  rw [hm] at h ⊢
  have hle : m ≤ roundEven (q / F.ulp q) := le_roundEven ((le_div_iff₀ ulp_pos).mpr h)
  exact mul_le_mul_of_nonneg_right (by exact_mod_cast hle) ulp_pos.le

/-- And what lies above `q` is above that. -/
theorem nearest_le (he : F.place q ≤ e) (h : q ≤ (n : ℚ) * 2 ^ e) :
    F.nearest q ≤ (n : ℚ) * 2 ^ e := by
  obtain ⟨m, hm⟩ := exists_mul_ulp he n
  rw [hm] at h ⊢
  have hle : roundEven (q / F.ulp q) ≤ m := roundEven_le ((div_le_iff₀ ulp_pos).mpr h)
  exact mul_le_mul_of_nonneg_right (by exact_mod_cast hle) ulp_pos.le

theorem nearest_nonneg (h : 0 ≤ q) : 0 ≤ F.nearest q := by
  simpa using le_nearest (F := F) (n := 0) le_rfl (by simpa using h)

theorem nearest_nonpos (h : q ≤ 0) : F.nearest q ≤ 0 := by
  simpa using nearest_le (F := F) (n := 0) le_rfl (by simpa using h)

@[simp] theorem nearest_zero : F.nearest 0 = 0 :=
  le_antisymm (nearest_nonpos le_rfl) (nearest_nonneg le_rfl)

theorem place_le_place (hp : 0 < p) (h : p ≤ q) : F.place p ≤ F.place q := by
  have hlog : Int.log 2 |p| ≤ Int.log 2 |q| := by
    rw [abs_of_pos hp, abs_of_pos (hp.trans_le h)]
    exact Int.log_mono_right hp h
  exact max_le_max le_rfl (by omega)

/-- **Rounding is monotone.** -/
theorem nearest_le_nearest (hp : 0 < p) (h : p ≤ q) : F.nearest p ≤ F.nearest q := by
  have hq := hp.trans_le h
  rcases (place_le_place (F := F) hp h).lt_or_eq with hlt | heq
  · -- a power of two lies between them
    have hplace : F.place q = Int.log 2 |q| + 1 - F.precision := by
      refine max_eq_right (not_lt.mp fun hless => ?_)
      have hlow : F.lowest ≤ F.place p := le_max_left _ _
      have hleast : F.place q = F.lowest := max_eq_left hless.le
      omega
    have hlog : Int.log 2 |p| + 1 ≤ Int.log 2 |q| := by
      have hle : Int.log 2 |p| + 1 - F.precision ≤ F.place p := le_max_right _ _
      omega
    have hprecision := F.precision_pos
    have hpower : p ≤ ((1 : ℤ) : ℚ) * 2 ^ Int.log 2 |q| := by
      rw [Int.cast_one, one_mul]
      refine (le_abs_self p).trans ((lt_two_zpow p).le.trans ?_)
      exact zpow_le_zpow_right₀ (by norm_num) hlog
    have hpower' : ((1 : ℤ) : ℚ) * 2 ^ Int.log 2 |q| ≤ q := by
      rw [Int.cast_one, one_mul]
      exact (two_zpow_le hq.ne').trans_eq (abs_of_pos hq)
    exact (nearest_le (by omega) hpower).trans (le_nearest (by omega) hpower')
  · -- both lie on the same grid
    have hulp : F.ulp p = F.ulp q := by rw [ulp, ulp, heq]
    rw [nearest, nearest, hulp]
    have hle := roundEven_mono ((div_le_div_iff_of_pos_right (ulp_pos (F := F) (q := q))).mpr h)
    exact mul_le_mul_of_nonneg_right (by exact_mod_cast hle) ulp_pos.le

/-! ### The numbers of the format -/

/-- **A number of the format is rounded to itself.** -/
theorem nearest_eq_self (h : F.Representable q) : F.nearest q = q := by
  obtain ⟨m, e, hm, he, rfl⟩ := h
  by_cases hzero : (m : ℚ) * 2 ^ e = 0
  · rw [hzero, nearest_zero]
  · have hlt : |(m : ℚ) * 2 ^ e| < 2 ^ (e + F.precision) := by
      rw [abs_mul, abs_of_pos (zpow_pos (by norm_num : (0 : ℚ) < 2) e), zpow_add₀ (by norm_num),
        mul_comm, zpow_natCast]
      have hcast : |(m : ℚ)| < 2 ^ F.precision := by exact_mod_cast hm
      have hunit : (0 : ℚ) < 2 ^ e := zpow_pos (by norm_num) e
      exact mul_lt_mul_of_pos_left hcast hunit
    have hplace : F.place ((m : ℚ) * 2 ^ e) ≤ e + F.precision - F.precision :=
      place_le hzero hlt (by omega)
    exact le_antisymm (nearest_le (by omega) le_rfl) (le_nearest (by omega) le_rfl)

theorem representable_two_zpow (he : F.lowest ≤ e) : F.Representable (2 ^ e) := by
  refine ⟨1, e, ?_, he, by simp⟩
  simpa using one_lt_pow₀ (by norm_num : (1 : ℤ) < 2) F.precision_pos.ne'

/-- The digits of a rounded number, of which there may be one too many. -/
theorem abs_roundEven_div_ulp_le (q : ℚ) : |roundEven (q / F.ulp q)| ≤ 2 ^ F.precision := by
  have hlt : |q| ≤ 2 ^ F.precision * F.ulp q := by
    refine (lt_two_zpow q).le.trans ?_
    rw [ulp, ← zpow_natCast, ← zpow_add₀ (by norm_num)]
    refine zpow_le_zpow_right₀ (by norm_num) ?_
    have hle : Int.log 2 |q| + 1 - F.precision ≤ F.place q := le_max_right _ _
    omega
  have hquot : |q / F.ulp q| ≤ ((2 ^ F.precision : ℤ) : ℚ) := by
    rw [abs_div, abs_of_pos ulp_pos, div_le_iff₀ ulp_pos]
    exact_mod_cast hlt
  obtain ⟨hlow, hhigh⟩ := abs_le.mp hquot
  refine abs_le.mpr ⟨le_roundEven (by push_cast at hlow ⊢; exact hlow), roundEven_le hhigh⟩

/-- **What is rounded is a number of the format.** -/
theorem representable_nearest (q : ℚ) : F.Representable (F.nearest q) := by
  have hlow : F.lowest ≤ F.place q := le_max_left _ _
  rcases (abs_roundEven_div_ulp_le (F := F) q).lt_or_eq with hlt | heq
  · exact ⟨_, _, hlt, hlow, rfl⟩
  · -- one digit too many: the last one is zero
    have hpow : (2 : ℤ) ^ F.precision = 2 ^ (F.precision - 1) * 2 := by
      rw [← pow_succ, Nat.sub_add_cancel F.precision_pos]
    have hlt : (2 : ℤ) ^ (F.precision - 1) < 2 ^ F.precision := by
      rw [hpow]
      have : (0 : ℤ) < 2 ^ (F.precision - 1) := by positivity
      omega
    have hulp : F.ulp q * 2 = 2 ^ (F.place q + 1) := by
      rw [ulp, zpow_add_one₀ (by norm_num)]
    rcases abs_choice (roundEven (q / F.ulp q)) with hsign | hsign
    · refine ⟨2 ^ (F.precision - 1), F.place q + 1, by rwa [abs_of_pos (by positivity)], by omega, ?_⟩
      rw [nearest, hsign.symm.trans heq, hpow, ← hulp]
      push_cast
      ring
    · refine ⟨-2 ^ (F.precision - 1), F.place q + 1,
        by rwa [abs_neg, abs_of_pos (by positivity)], by omega, ?_⟩
      have hneg : roundEven (q / F.ulp q) = -2 ^ F.precision := by omega
      rw [nearest, hneg, hpow, ← hulp]
      push_cast
      ring

/-- A number of the format that is not below a power of two lies on the grid there. -/
theorem exists_mul_of_representable (h : F.Representable q) (hk : 2 ^ k ≤ |q|) :
    ∃ n : ℤ, q = n * 2 ^ (k + 1 - F.precision) := by
  have hplace : k + 1 - F.precision ≤ F.place q := by
    have hlog : k < Int.log 2 |q| + 1 := by
      rw [← zpow_lt_zpow_iff_right₀ (by norm_num : (1 : ℚ) < 2)]
      exact hk.trans_lt (lt_two_zpow q)
    have hle : Int.log 2 |q| + 1 - F.precision ≤ F.place q := le_max_right _ _
    omega
  obtain ⟨d, hd⟩ := Int.eq_ofNat_of_zero_le (sub_nonneg.mpr hplace)
  have hulp : F.ulp q = 2 ^ d * 2 ^ (k + 1 - F.precision) := by
    rw [ulp, ← zpow_natCast, ← zpow_add₀ (by norm_num)]
    congr 1
    omega
  refine ⟨roundEven (q / F.ulp q) * 2 ^ d, ?_⟩
  calc q = roundEven (q / F.ulp q) * F.ulp q := (nearest_eq_self h).symm
    _ = roundEven (q / F.ulp q) * (2 ^ d * 2 ^ (k + 1 - F.precision)) := congrArg _ hulp
    _ = _ := by
      push_cast
      ring

/-! ### Too small and too large -/

/-- **Something is left of a number** above half of the least one. -/
theorem nearest_pos_iff (hq : 0 < q) : 0 < F.nearest q ↔ 2 ^ (F.lowest - 1) < q := by
  have hprecision := F.precision_pos
  constructor
  · intro hpos
    by_contra hle
    have hle := not_lt.mp hle
    have hplace : F.place q = F.lowest := by
      have hlog : Int.log 2 |q| < F.lowest := by
        refine log_lt_of_lt hq.ne' ((abs_of_pos hq).trans_lt (hle.trans_lt ?_))
        exact zpow_lt_zpow_right₀ (by norm_num) (by omega)
      exact max_eq_left (by omega)
    have hround : ¬ 1 ≤ roundEven (q / F.ulp q) := by
      have hquot : q / F.ulp q ≤ 1 / 2 := by
        rw [div_le_iff₀ ulp_pos, ulp, hplace]
        rw [zpow_sub_one₀ (by norm_num)] at hle
        linarith
      rw [le_roundEven_iff]
      push_cast
      rintro (h | ⟨-, h⟩)
      · linarith
      · omega
    have hnonpos : (roundEven (q / F.ulp q) : ℚ) ≤ 0 := by
      exact_mod_cast (by omega : roundEven (q / F.ulp q) ≤ 0)
    have := mul_nonpos_of_nonpos_of_nonneg hnonpos (ulp_pos (F := F) (q := q)).le
    rw [nearest] at hpos
    linarith
  · intro hlt
    have hround : 1 ≤ roundEven (q / F.ulp q) := by
      rw [le_roundEven_iff]
      push_cast
      left
      rw [lt_div_iff₀ ulp_pos]
      rcases le_total (Int.log 2 |q| + 1 - F.precision) F.lowest with hle | hle
      · rw [ulp, place, max_eq_left hle]
        rw [zpow_sub_one₀ (by norm_num)] at hlt
        linarith
      · have hulp : F.ulp q ≤ q := by
          rw [ulp, place, max_eq_right hle]
          refine le_trans ?_ ((two_zpow_le hq.ne').trans_eq (abs_of_pos hq))
          exact zpow_le_zpow_right₀ (by norm_num) (by omega)
        have hpos := ulp_pos (F := F) (q := q)
        linarith
    have hcast : (1 : ℚ) ≤ roundEven (q / F.ulp q) := by exact_mod_cast hround
    exact mul_pos (by linarith) ulp_pos

/-- **A number stays below the bound** unless it is within half a unit of it. -/
theorem nearest_lt_iff (hq : 0 < q) :
    F.nearest q < 2 ^ F.bound ↔ q < 2 ^ F.bound - 2 ^ (F.bound - F.precision - 1) := by
  have hprecision := F.precision_pos
  have hlowest := F.lowest_le
  have hself : F.nearest (2 ^ F.bound) = 2 ^ F.bound :=
    nearest_eq_self (representable_two_zpow (by omega))
  have hhalf : (2 : ℚ) ^ (F.bound - F.precision) = 2 ^ (F.bound - F.precision - 1) * 2 := by
    rw [← zpow_add_one₀ (by norm_num), sub_add_cancel]
  have hunit : (0 : ℚ) < 2 ^ (F.bound - F.precision - 1) := zpow_pos (by norm_num) _
  rcases le_or_gt (2 ^ F.bound) q with hle | hlt
  · refine iff_of_false (not_lt.mpr ?_) (by linarith)
    exact hself.symm.trans_le (nearest_le_nearest (zpow_pos (by norm_num) _) hle)
  · -- the unit of the last place is known close to the bound
    rcases lt_or_ge q (2 ^ (F.bound - 1)) with hsmall | hlarge
    · have hbound : (2 : ℚ) ^ F.bound = 2 ^ (F.bound - 1) * 2 := by
        rw [← zpow_add_one₀ (by norm_num), sub_add_cancel]
      have hself' : F.nearest (2 ^ (F.bound - 1)) = 2 ^ (F.bound - 1) :=
        nearest_eq_self (representable_two_zpow (by omega))
      have hless : (2 : ℚ) ^ (F.bound - F.precision - 1) ≤ 2 ^ (F.bound - 1) :=
        zpow_le_zpow_right₀ (by norm_num) (by omega)
      have hpower : (0 : ℚ) < 2 ^ (F.bound - 1) := zpow_pos (by norm_num) _
      refine iff_of_true ?_ (by linarith)
      refine ((nearest_le_nearest hq hsmall.le).trans_eq hself').trans_lt ?_
      linarith
    · have hlog : Int.log 2 |q| = F.bound - 1 := by
        have hlt' := log_lt_of_lt hq.ne' ((abs_of_pos hq).trans_lt hlt)
        have hge : F.bound - 1 < Int.log 2 |q| + 1 := by
          rw [← zpow_lt_zpow_iff_right₀ (by norm_num : (1 : ℚ) < 2)]
          exact (hlarge.trans_eq (abs_of_pos hq).symm).trans_lt (lt_two_zpow q)
        omega
      have hulp : F.ulp q = 2 ^ (F.bound - F.precision) := by
        rw [ulp, place, hlog, max_eq_right (by omega)]
        congr 1
        omega
      have hpow : (2 : ℚ) ^ F.bound = ((2 ^ F.precision : ℤ) : ℚ) * F.ulp q := by
        rw [hulp]
        push_cast
        rw [← zpow_natCast, ← zpow_add₀ (by norm_num)]
        congr 1
        omega
      have heven : (2 : ℤ) ^ F.precision % 2 = 0 := by
        rw [← Nat.sub_add_cancel hprecision, pow_succ]
        omega
      rw [← not_le, ← not_le, not_iff_not, nearest, hpow, mul_le_mul_iff_left₀ ulp_pos, Int.cast_le,
        le_roundEven_iff]
      rw [lt_div_iff₀ ulp_pos, eq_div_iff ulp_pos.ne', hulp, hhalf]
      constructor
      · rintro (h | ⟨h, -⟩) <;> linarith
      · intro h
        rcases h.lt_or_eq with h | h
        · exact Or.inl (by linarith)
        · exact Or.inr ⟨by linarith, heven⟩

end

end BinaryFormat

end MipitCore.Foundation
