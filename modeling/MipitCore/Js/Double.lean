import MipitCore.Foundation.Rounding
import MipitCore.Js.Rounding

/-!
# Doubles

What the language computes with are the numbers of IEEE 754's binary64. The result of an
operation, and what a text denotes, is rounded to the nearest of them (`toDouble`), and where
that is too large it is an infinity. `String` writes the shortest decimal that is rounded to
the number (`shortest`).

## Main definitions

* `binary64`, `toDouble`, `shortest`, `InRange`
* `Arithmetic.double` — the arithmetic of the language; under `open scoped Double` it is the one
  that is meant

## Main results

* `isPositive_toDouble_iff`, `isFinite_toDouble_iff`, `inRange_iff` — when a positive number stays
  one
* `le_toDouble` — rounding is monotone
* `parseFloat_toText_double` — what `String` writes is read as the same double
* `toFixed_toDouble` — cents below `2 ^ 46` are written as they are
* `round_mul_toDouble` — and below `2 ^ 45` they are the same cents after a division and a
  multiplication by a hundred
-/

namespace MipitCore.Js

open Foundation (BinaryFormat roundEven)

/-- The format of double precision. -/
def binary64 : BinaryFormat where
  precision := 53
  lowest := -1074
  bound := 1024
  precision_pos := by norm_num
  lowest_le := by norm_num

/-- The double nearest to `q`. -/
def toDouble (q : ℚ) : Number :=
  if 2 ^ 1024 ≤ |binary64.nearest q| then .inf (decide (q < 0)) else .fin (binary64.nearest q)

/-- The multiple of `10 ^ j` that is next to `q`, if it is rounded to `q`. -/
def readBack (q : ℚ) (j : ℤ) : Option ℚ :=
  ([roundEven (q / 10 ^ j), ⌊q / 10 ^ j⌋, ⌈q / 10 ^ j⌉].map fun n : ℤ => (n : ℚ) * 10 ^ j).find?
    fun d => binary64.nearest d = q

/-- The shortest decimal that is rounded to `q`: it has at most 17 digits. -/
def shortest (q : ℚ) : ℚ :=
  ((List.range 19).findSome? fun i : ℕ => readBack q (Int.log 10 q + 1 - i)).getD q

/-- `n` is what the language has for a number. -/
def Number.IsDouble : Number → Prop
  | .fin q => binary64.Representable q
  | _ => True

/-- The arithmetic of the language. -/
@[reducible] def Arithmetic.double : Arithmetic := ⟨toDouble, shortest⟩

namespace Double

scoped instance (priority := high) : Arithmetic := Arithmetic.double

end Double

section

variable {p q : ℚ}

theorem isDouble_toDouble (q : ℚ) : (toDouble q).IsDouble := by
  unfold toDouble
  split_ifs
  · trivial
  · exact BinaryFormat.representable_nearest q

theorem isDouble_mul (m n : Number) : (@Number.mul .double m n).IsDouble := by
  cases m <;> cases n <;> simp only [Number.mul]
  case fin.fin p q => exact isDouble_toDouble (p * q)
  case inf.fin negative q => split_ifs <;> trivial
  case fin.inf q negative => split_ifs <;> trivial
  all_goals trivial

/-! ### Large and small numbers -/

theorem toDouble_of_lt (hq : 0 ≤ q) (h : binary64.nearest q < 2 ^ 1024) :
    toDouble q = .fin (binary64.nearest q) := by
  rw [toDouble, abs_of_nonneg (BinaryFormat.nearest_nonneg hq), if_neg (not_le.mpr h)]

theorem toDouble_of_le (hq : 0 ≤ q) (h : 2 ^ 1024 ≤ binary64.nearest q) :
    toDouble q = .inf false := by
  rw [toDouble, abs_of_nonneg (BinaryFormat.nearest_nonneg hq), if_pos h,
    decide_eq_false (not_lt.mpr hq)]

/-- **A positive result is a number** unless it is rounded to an infinity. -/
theorem isFinite_toDouble_iff (hq : 0 < q) :
    (∃ d, toDouble q = .fin d) ↔ q < 2 ^ 1024 - 2 ^ 970 := by
  have hbound := BinaryFormat.nearest_lt_iff (F := binary64) hq
  have hcast : (2 : ℚ) ^ binary64.bound - 2 ^ (binary64.bound - binary64.precision - 1) =
      2 ^ 1024 - 2 ^ 970 := rfl
  have hpower : (2 : ℚ) ^ binary64.bound = 2 ^ 1024 := rfl
  rw [hcast, hpower] at hbound
  rw [← hbound]
  constructor
  · rintro ⟨d, hd⟩
    by_contra hle
    rw [toDouble_of_le hq.le (not_lt.mp hle)] at hd
    cases hd
  · exact fun h => ⟨_, toDouble_of_lt hq.le h⟩

/-- What is not too large is rounded to a number. -/
theorem toDouble_eq_nearest_iff (hq : 0 ≤ q) :
    toDouble q = .fin (binary64.nearest q) ↔ q < 2 ^ 1024 - 2 ^ 970 := by
  rcases hq.eq_or_lt with rfl | hpos
  · have hzero : (0 : ℚ) < 2 ^ 1024 - 2 ^ 970 :=
      sub_pos.mpr (pow_lt_pow_right₀ (by norm_num) (by omega))
    refine iff_of_true (toDouble_of_lt le_rfl ?_) hzero
    rw [BinaryFormat.nearest_zero]
    positivity
  · rw [← isFinite_toDouble_iff hpos]
    refine ⟨fun h => ⟨_, h⟩, ?_⟩
    rintro ⟨d, hd⟩
    unfold toDouble at hd ⊢
    split_ifs at hd ⊢
    rfl

/-- **A result stays positive** if it is above half of the least double. -/
theorem isPositive_toDouble_iff : (toDouble q).isPositive = true ↔ 2 ^ (-1075 : ℤ) < q := by
  rcases lt_or_ge 0 q with hq | hq
  · have hpos := BinaryFormat.nearest_pos_iff (F := binary64) hq
    have hpower : (2 : ℚ) ^ (binary64.lowest - 1) = 2 ^ (-1075 : ℤ) := rfl
    rw [hpower] at hpos
    rw [← hpos]
    rcases lt_or_ge (binary64.nearest q) (2 ^ 1024) with h | h
    · rw [toDouble_of_lt hq.le h, Number.isPositive_fin, decide_eq_true_eq]
    · rw [toDouble_of_le hq.le h]
      exact iff_of_true rfl (lt_of_lt_of_le (by positivity) h)
  · refine iff_of_false ?_ ?_
    · have hnonpos := BinaryFormat.nearest_nonpos (F := binary64) hq
      unfold toDouble
      split_ifs with h
      · rcases hq.lt_or_eq with hlt | rfl
        · simp [Number.isPositive, hlt]
        · rw [BinaryFormat.nearest_zero, abs_zero] at h
          exact absurd h (not_le.mpr (by positivity))
      · simpa using hnonpos
    · exact not_lt.mpr (hq.trans (zpow_nonneg (by norm_num) _))

/-- `q` is neither too small nor too large for a double. -/
def InRange (q : ℚ) : Prop := 2 ^ (-1075 : ℤ) < q ∧ q < 2 ^ 1024 - 2 ^ 970

instance (q : ℚ) : Decidable (InRange q) := inferInstanceAs (Decidable (_ ∧ _))

/-- **What is left of a number in the range of doubles** is a positive number. -/
theorem inRange_iff (hq : 0 < q) : InRange q ↔ ∃ d, toDouble q = .fin d ∧ 0 < d := by
  rw [InRange, ← isPositive_toDouble_iff, ← isFinite_toDouble_iff hq]
  constructor
  · rintro ⟨hpos, d, hd⟩
    exact ⟨d, hd, by simpa [hd] using hpos⟩
  · rintro ⟨d, hd, hpos⟩
    exact ⟨by simpa [hd] using hpos, d, hd⟩

theorem nearest_le_nearest (hp : 0 ≤ p) (hpq : p ≤ q) :
    binary64.nearest p ≤ binary64.nearest q := by
  rcases hp.eq_or_lt with rfl | hpos
  · rw [BinaryFormat.nearest_zero]
    exact BinaryFormat.nearest_nonneg hpq
  · exact BinaryFormat.nearest_le_nearest hpos hpq

/-- **Rounding is monotone**: what is at most a smaller result is at most a larger one. -/
theorem le_toDouble {n : Number} (hp : 0 ≤ p) (hpq : p ≤ q)
    (h : Number.le n (toDouble p) = true) : Number.le n (toDouble q) = true := by
  have hmono := nearest_le_nearest hp hpq
  rcases lt_or_ge (binary64.nearest q) (2 ^ 1024) with hlt | hle
  · rw [toDouble_of_lt (hp.trans hpq) hlt]
    rw [toDouble_of_lt hp (hmono.trans_lt hlt)] at h
    cases n with
    | nan => cases h
    | inf negative => exact h
    | fin r =>
      simp only [Number.le, Number.lt, Bool.not_eq_true', decide_eq_false_iff_not, not_lt] at h ⊢
      exact h.trans hmono
  · rw [toDouble_of_le (hp.trans hpq) hle]
    cases n with
    | nan => cases h
    | inf negative => cases negative <;> rfl
    | fin r => rfl

/-! ### Cents -/

/-- The double nearest to a positive number below `2 ^ k` is within half a unit of its place. -/
theorem abs_nearest_sub_le {k : ℕ} (hq : 0 < q) (h : q < 2 ^ k) :
    |binary64.nearest q - q| ≤ 2 ^ ((k : ℤ) - 54) := by
  have herror := BinaryFormat.abs_nearest_sub_le (F := binary64) q
  have hlt : |q| < 2 ^ (k : ℤ) := by
    rw [abs_of_pos hq]
    exact_mod_cast h
  have hulp : binary64.ulp q ≤ 2 ^ ((k : ℤ) - 53) :=
    BinaryFormat.ulp_le (F := binary64) hq.ne' hlt (by change (-1074 : ℤ) + 53 ≤ k; omega)
  have hhalf : (2 : ℚ) ^ ((k : ℤ) - 53) = 2 ^ ((k : ℤ) - 54) * 2 := by
    rw [← zpow_add_one₀ (by norm_num)]
    congr 1
    omega
  linarith

theorem toDouble_of_lt_two_pow {k : ℕ} (hk : k < 1024) (hq : 0 < q) (h : q < 2 ^ k) :
    toDouble q = .fin (binary64.nearest q) := by
  have hpower : (2 : ℚ) ^ k ≤ 2 ^ 1023 := pow_le_pow_right₀ (by norm_num) (by omega)
  have hhalf : (2 : ℚ) ^ 1023 + 2 ^ 970 ≤ 2 ^ 1024 :=
    calc (2 : ℚ) ^ 1023 + 2 ^ 970
        ≤ 2 ^ 1023 + 2 ^ 1023 := add_le_add_right (pow_le_pow_right₀ (by norm_num) (by omega)) _
      _ = 2 ^ 1024 := by rw [← mul_two, ← pow_succ]
  obtain ⟨d, hd⟩ := (isFinite_toDouble_iff hq).mpr
    (h.trans_le (hpower.trans (le_sub_iff_add_le.mpr hhalf)))
  unfold toDouble at hd ⊢
  split_ifs at hd ⊢ with hlarge
  rfl

theorem cent_le {m : ℕ} (hm : 0 < m) : (1 : ℚ) / 100 ≤ m / 100 := by
  have hone : (1 : ℚ) ≤ m := by exact_mod_cast hm
  linarith

/-- **Cents below `2 ^ 46`**: the double nearest to them is written as they are. -/
theorem toFixed_toDouble [Arithmetic] {m : ℕ} (hm : 0 < m) (h : (m : ℚ) / 100 < 2 ^ 46) :
    (toDouble (m / 100)).toFixed 2 = fixedText m 2 := by
  have hq : (0 : ℚ) < (m : ℚ) / 100 := by positivity
  have herror := abs_le.mp (abs_nearest_sub_le hq h)
  have hunit : (2 : ℚ) ^ (((46 : ℕ) : ℤ) - 54) = 1 / 256 := by norm_num
  rw [hunit] at herror
  have hcent := cent_le hm
  rw [toDouble_of_lt_two_pow (by norm_num) hq h]
  refine toFixed_of_abs_lt (by linarith) (by linarith) ?_
  rw [abs_lt]
  constructor <;> linarith

/-- **Cents below `2 ^ 45` dollars**: the nearest double, times a hundred, is rounded to them. -/
theorem round_mul_toDouble {m : ℕ} (hm : 0 < m) (h : (m : ℚ) / 100 < 2 ^ 45) :
    (@Number.mul .double (toDouble (m / 100)) (.fin 100)).round = .fin m := by
  have hq : (0 : ℚ) < (m : ℚ) / 100 := by positivity
  have herror := abs_le.mp (abs_nearest_sub_le hq h)
  have hunit : (2 : ℚ) ^ (((45 : ℕ) : ℤ) - 54) = 1 / 512 := by norm_num
  rw [hunit] at herror
  have hcent := cent_le hm
  rw [toDouble_of_lt_two_pow (by norm_num) hq h]
  generalize binary64.nearest ((m : ℚ) / 100) = d at herror
  -- the product is off by a fifth of a cent at most, and rounding it by a quarter
  have hd : 0 < d * 100 := by linarith
  have hd' : d * 100 < 2 ^ 52 := by
    have hbound : (2 : ℚ) ^ 45 * 100 + 1 < 2 ^ 52 := by norm_num
    linarith
  have herror' := abs_le.mp (abs_nearest_sub_le hd hd')
  have hunit' : (2 : ℚ) ^ (((52 : ℕ) : ℤ) - 54) = 1 / 4 := by norm_num
  rw [hunit'] at herror'
  have hmul : @Number.mul .double (.fin d) (.fin 100) = .fin (binary64.nearest (d * 100)) :=
    toDouble_of_lt_two_pow (by norm_num) hd hd'
  have hround : Number.roundHalfUp (binary64.nearest (d * 100)) = m := by
    refine roundHalfUp_of_abs_lt ?_
    rw [abs_lt]
    push_cast
    constructor <;> linarith
  rw [hmul, Number.round_fin, hround]
  rfl

/-! ### Texts -/

/-- The nearest double, of what is a number. -/
def Number.rounded : Number → Number
  | .fin q => toDouble q
  | n => n

theorem parseMagnitude_double (negative : Bool) (s : Text) :
    @parseMagnitude .double negative s = (@parseMagnitude .exact negative s).rounded := by
  unfold parseMagnitude
  split
  · rfl
  · cases parseUnsigned s <;> rfl

/-- **What is read** is the double nearest to what is written. -/
theorem parseFloat_double (s : Text) :
    @parseFloat .double s = (@parseFloat .exact s).rounded := by
  unfold parseFloat
  split
  · rfl
  · split_ifs <;> exact parseMagnitude_double _ _

/-- `q` is the number that `s` begins with, as it is written there. -/
def Denotes (s : Text) (q : ℚ) : Prop := @parseFloat .exact s = .fin q

instance (s : Text) (q : ℚ) : Decidable (Denotes s q) := inferInstanceAs (Decidable (_ = _))

theorem Denotes.parseFloat {s : Text} (h : Denotes s q) : @parseFloat .double s = toDouble q := by
  rw [parseFloat_double, h, Number.rounded]

/-- A text of an amount that has at most two decimals and is below `2 ^ 46`. -/
def IsCentsText (s : Text) : Prop :=
  ∃ (q : ℚ) (cents : ℤ), Denotes s q ∧ q * 10 ^ 2 = cents ∧ q < 2 ^ 46

/-- **An amount in cents is written as it was read.** -/
theorem IsCentsText.exists_fixedText {s : Text} (h : IsCentsText s)
    (hpos : (@parseFloat .double s).isPositive = true) :
    ∃ m : ℕ, Denotes s (m / 10 ^ 2) ∧ 0 < m ∧ (m : ℚ) / 10 ^ 2 < 2 ^ 46 ∧
      @Number.toFixed .double 2 (@parseFloat .double s) = fixedText m 2 := by
  obtain ⟨q, cents, hread, hcents, hlt⟩ := h
  have hq : 0 < q := by
    rw [hread.parseFloat, isPositive_toDouble_iff] at hpos
    exact (zpow_pos (by norm_num) _).trans hpos
  obtain ⟨m, hm⟩ := exists_nat_mul_eq hq hcents
  obtain rfl : q = m / 10 ^ 2 := by
    rw [← hm]
    field_simp
  have hnat : 0 < m := Nat.cast_pos.mp ((div_pos_iff_of_pos_right (by norm_num)).mp hq)
  refine ⟨m, hread, hnat, hlt, ?_⟩
  rw [hread.parseFloat, show (10 : ℚ) ^ 2 = 100 by norm_num]
  exact @toFixed_toDouble .double m hnat (by norm_num at hlt ⊢; exact hlt)

theorem IsCentsText.denotes {s : Text} (h : IsCentsText s)
    (hpos : (@parseFloat .double s).isPositive = true) :
    ∃ q, Denotes s q ∧ Denotes (@Number.toFixed .double 2 (@parseFloat .double s)) q := by
  obtain ⟨m, hread, -, -, htext⟩ := h.exists_fixedText hpos
  exact ⟨_, hread, by rw [htext]; exact @parseFloat_fixedText .exact m 2⟩

/-- Where it has two decimals, it is written with the same text. -/
theorem IsCentsText.toFixed_eq {s : Text} (h : IsCentsText s)
    (hpos : (@parseFloat .double s).isPositive = true) (hs : IsFixedText 2 s) :
    @Number.toFixed .double 2 (@parseFloat .double s) = s := by
  obtain ⟨m, hread, hm, hlt, htext⟩ := h.exists_fixedText hpos
  have hq : (0 : ℚ) < m / 10 ^ 2 := by positivity
  have hlt' : (m : ℚ) / 10 ^ 2 < 10 ^ 21 := hlt.trans (by norm_num)
  rw [htext, ← toFixed_parseFloat hs (by decide) hread hq hlt']
  exact (toFixed_of_lt hq hlt' (by field_simp)).symm

theorem isDecimal_mul_ten_zpow (n j : ℤ) : IsDecimal ((n : ℚ) * 10 ^ j) := by
  obtain ⟨k, rfl | rfl⟩ := j.eq_nat_or_neg
  · refine isDecimal_of_mul_eq (f := 0) (m := n * 10 ^ k) ?_
    push_cast [zpow_natCast]
    ring
  · refine isDecimal_of_mul_eq (f := k) (m := n) ?_
    rw [zpow_neg, zpow_natCast]
    field_simp

theorem isDecimal_of_representable (h : binary64.Representable q) : IsDecimal q := by
  obtain ⟨m, e, -, -, rfl⟩ := h
  obtain ⟨k, rfl | rfl⟩ := e.eq_nat_or_neg
  · refine isDecimal_of_mul_eq (f := 0) (m := m * 2 ^ k) ?_
    push_cast [zpow_natCast]
    ring
  · refine isDecimal_of_mul_eq (f := k) (m := m * 5 ^ k) ?_
    have hten : (10 : ℚ) ^ k = 2 ^ k * 5 ^ k := by
      rw [← mul_pow]
      norm_num
    rw [zpow_neg, zpow_natCast, hten]
    push_cast
    field_simp

/-- What is read back is a multiple of the power of ten, and is rounded to the double. -/
theorem readBack_eq_some {d : ℚ} {j : ℤ} (h : readBack d j = some q) :
    (∃ m : ℤ, q = m * 10 ^ j) ∧ binary64.nearest q = d := by
  obtain ⟨m, -, rfl⟩ := List.mem_map.mp (List.mem_of_find?_eq_some h)
  exact ⟨⟨m, rfl⟩, by simpa using List.find?_some h⟩

/-- **The shortest decimal** of a double is a decimal, and is rounded to it. -/
theorem shortest_spec (h : binary64.Representable q) :
    IsDecimal (shortest q) ∧ binary64.nearest (shortest q) = q := by
  unfold shortest
  cases hfound : (List.range 19).findSome? fun i : ℕ => readBack q (Int.log 10 q + 1 - i) with
  | none =>
    -- without a short decimal, the double is written with all of its digits
    exact ⟨isDecimal_of_representable h, BinaryFormat.nearest_eq_self h⟩
  | some d =>
    obtain ⟨i, -, hread⟩ := List.exists_of_findSome?_eq_some hfound
    obtain ⟨⟨n, rfl⟩, hnearest⟩ := readBack_eq_some hread
    exact ⟨isDecimal_mul_ten_zpow n _, hnearest⟩

/-- **What `String` writes for a positive double** is read as that double. -/
theorem parseFloat_toText_double {n : Number} (hn : n.isPositive = true) (hq : n = toDouble q) :
    @parseFloat .double (@Number.toText .double n) = n := by
  cases n with
  | nan => cases hn
  | inf negative =>
    obtain rfl : negative = false := by simpa [Number.isPositive] using hn
    decide +kernel
  | fin d =>
    have hd : 0 < d := by simpa using hn
    obtain ⟨hlt, rfl⟩ : ¬ 2 ^ 1024 ≤ |binary64.nearest q| ∧ d = binary64.nearest q := by
      unfold toDouble at hq
      split_ifs at hq with hlarge
      exact ⟨hlarge, Number.fin.inj hq⟩
    obtain ⟨hdecimal, hnearest⟩ := shortest_spec (BinaryFormat.representable_nearest q)
    have hpos : 0 < shortest (binary64.nearest q) := by
      by_contra hle
      have hnonpos := BinaryFormat.nearest_nonpos (F := binary64) (not_lt.mp hle)
      rw [hnearest] at hnonpos
      exact absurd hd (not_lt.mpr hnonpos)
    have hround : toDouble (shortest (binary64.nearest q)) = .fin (binary64.nearest q) := by
      rw [toDouble, hnearest, if_neg hlt]
    have htext : @Number.toText .double (.fin (binary64.nearest q)) =
        positiveText (shortest (binary64.nearest q)) := @toText_of_pos _ .double hd
    rw [htext]
    exact (@parseFloat_positiveText _ .double hpos hdecimal).trans hround

/-- A positive number that is read is a double. -/
theorem exists_parseFloat_eq_toDouble {s : Text} (h : (@parseFloat .double s).isPositive = true) :
    ∃ q, @parseFloat .double s = toDouble q := by
  have hread := parseFloat_double s
  cases hexact : @parseFloat .exact s with
  | fin q => exact ⟨q, hread.trans (by rw [hexact, Number.rounded])⟩
  | nan =>
    rw [hread, hexact] at h
    cases h
  | inf negative =>
    have hinf : @parseFloat .double s = .inf negative := hread.trans (by rw [hexact]; rfl)
    obtain rfl : negative = false := by simpa [hinf, Number.isPositive] using h
    exact ⟨2 ^ 1024, hinf.trans (by decide +kernel)⟩

/-- What is read from a text and written again is read as the same number. -/
theorem parseFloat_toText_parseFloat_double {s : Text}
    (h : (@parseFloat .double s).isPositive = true) :
    @parseFloat .double (@Number.toText .double (@parseFloat .double s)) =
      @parseFloat .double s := by
  obtain ⟨q, hq⟩ := exists_parseFloat_eq_toDouble h
  exact parseFloat_toText_double h hq

end

example : @Number.toText .double (toDouble (1 / 10 + 2 / 10)) = js "0.3" := by decide +kernel

example : @Number.toText .double (@Number.add .double (toDouble (1 / 10)) (toDouble (2 / 10))) =
    js "0.30000000000000004" := by decide +kernel

end MipitCore.Js
