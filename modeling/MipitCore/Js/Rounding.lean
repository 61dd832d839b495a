import MipitCore.Js.FixedText

/-!
# What rounding leaves

`Math.round` and `toFixed` round half up, so that a positive number becomes zero below one
half of the last place that is kept. From there up it stays positive, and `toFixed` writes a
text that is read as a positive number.

## Main definitions

* `Number.AtLeast` — a number is at least a bound; infinity is

## Main results

* `roundHalfUp_pos_iff`
* `isPositive_round_iff`, `isPositive_parseFloat_toFixed_iff`
* `replaceFirst_replaceFirst` — a decimal comma for the point, and the point again
-/

namespace MipitCore.Js

open CodeUnit (ascii isDigit)

namespace Number

/-- `bound ≤ n` -/
def AtLeast (bound : ℚ) : Number → Prop
  | .nan => False
  | .inf negative => negative = false
  | .fin q => bound ≤ q

instance (bound : ℚ) : DecidablePred (AtLeast bound)
  | .nan => inferInstanceAs (Decidable False)
  | .inf negative => inferInstanceAs (Decidable (negative = false))
  | .fin q => inferInstanceAs (Decidable (bound ≤ q))

theorem roundHalfUp_pos_iff {q : ℚ} : 0 < roundHalfUp q ↔ 1 / 2 ≤ q := by
  rw [roundHalfUp, Int.floor_pos]
  constructor <;> intro h <;> linarith

theorem roundHalfUp_nonneg {q : ℚ} (hq : 0 ≤ q) : 0 ≤ roundHalfUp q := by
  rw [roundHalfUp, Int.floor_nonneg]
  linarith

theorem roundHalfUp_le {q : ℚ} {n : ℤ} (h : q ≤ n) : roundHalfUp q ≤ n := by
  have hlt : ⌊q + 1 / 2⌋ < n + 1 := by
    rw [Int.floor_lt]
    push_cast
    linarith
  exact Int.lt_add_one_iff.mp hlt

theorem isPositive_mul {m n : Number} (hm : m.isPositive = true) (hn : n.isPositive = true) :
    (m.mul n).isPositive = true := by
  cases m with
  | nan => cases hm
  | inf s =>
    obtain rfl : s = false := by simpa [isPositive] using hm
    cases n with
    | nan => cases hn
    | inf t =>
      obtain rfl : t = false := by simpa [isPositive] using hn
      rfl
    | fin q =>
      have hq : 0 < q := by simpa using hn
      simp [mul, hq.ne', isPositive, hq.le]
  | fin p =>
    have hp : 0 < p := by simpa using hm
    cases n with
    | nan => cases hn
    | inf t =>
      obtain rfl : t = false := by simpa [isPositive] using hn
      simp [mul, hp.ne', isPositive, hp.le]
    | fin q =>
      have hq : 0 < q := by simpa using hn
      simpa using mul_pos hp hq

theorem isPositive_div_fin {q : ℚ} (hq : 0 < q) (n : Number) :
    (n.div (.fin q)).isPositive = n.isPositive := by
  cases n with
  | nan => rfl
  | inf negative => simp [div, isPositive, not_lt.mpr hq.le]
  | fin p => simp [div, hq.ne', div_pos_iff_of_pos_right hq]

/-- A hundred times a number, rounded. -/
theorem isPositive_round_iff {n : Number} :
    (n.mul (.fin 100)).round.isPositive = true ↔ n.AtLeast (1 / 200) := by
  cases n with
  | nan => exact iff_of_false (by decide) id
  | inf negative => cases negative <;> decide
  | fin q =>
    simp only [mul_fin, round_fin, isPositive_fin, decide_eq_true_eq, Int.cast_pos,
      roundHalfUp_pos_iff, AtLeast]
    constructor <;> intro h <;> linarith

end Number

/-! ### Fixed texts -/

/-- The text of a positive number is read as a positive number. -/
theorem isPositive_parseFloat_toText {q : ℚ} (hq : 0 < q) :
    (parseFloat (Number.toText (.fin q))).isPositive = true := by
  by_cases h : IsDecimal q
  · rw [parseFloat_toText hq h]
    simpa using hq
  · -- the fraction that stands for a number which is no decimal is read up to its bar
    have hnone : decimalPlaces q = none := by
      cases hplaces : decimalPlaces q with
      | none => rfl
      | some t =>
        exact absurd ⟨t, Nat.dvd_of_mod_eq_zero (by simpa using List.find?_some hplaces)⟩ h
    have hnum : 0 < q.num := Rat.num_pos.mpr hq
    have hdigits := isDigits_natText q.num.toNat
    have hbar : NoDigitFirst (ascii '/' :: natText q.den) := noDigitFirst_cons (by decide) _
    obtain ⟨c, r, hcons⟩ := List.exists_cons_of_ne_nil (natText_ne_nil q.num.toNat)
    have hread := parseUnsigned_digits hdigits hbar
      (fun r' h' => absurd (List.cons.inj h').1 (by decide)) (natText_ne_nil q.num.toNat)
    have hc : isDigit c = true := by
      rw [hcons] at hdigits
      exact (isDigits_cons.mp hdigits).1
    rw [hcons, List.cons_append] at hread
    have hexponent : exponentValue (ascii '/' :: natText q.den) = 0 := by
      rw [exponentValue.eq_def]
      exact if_neg (by decide)
    rw [Number.toText, if_neg hq.ne', if_neg (not_lt.mpr hq.le), decimal_exact,
      positiveText_of_none hnone, hcons, List.cons_append, parseFloat_cons (Or.inl hc), hread, ← hcons,
      digitsValue_natText, hexponent]
    simpa using hnum

/-- **A positive number that is written with `f` decimals** is read as a positive number exactly
from one half of the last of them up. -/
theorem isPositive_parseFloat_toFixed_iff {q : ℚ} (hq : 0 < q) {f : ℕ} :
    (parseFloat (Number.toFixed f (.fin q))).isPositive = true ↔ 1 / 2 ≤ q * 10 ^ f := by
  rw [Number.toFixed, abs_of_pos hq]
  split_ifs with hlarge hneg
  · refine iff_of_true (isPositive_parseFloat_toText hq) ?_
    have hpow : (1 : ℚ) ≤ 10 ^ f := one_le_pow₀ (by norm_num)
    nlinarith
  · exact absurd hneg (not_lt.mpr hq.le)
  · have hnonneg : 0 ≤ q * 10 ^ f := by positivity
    rw [List.nil_append, parseFloat_fixedText, round_exact, Number.isPositive_fin, decide_eq_true_eq,
      ← Number.roundHalfUp_pos_iff]
    have hpow : (0 : ℚ) < 10 ^ f := by positivity
    rw [div_pos_iff_of_pos_right hpow, Nat.cast_pos]
    have := Number.roundHalfUp_nonneg hnonneg
    omega

theorem isPositive_parseFloat_toFixed_two {n : Number} (hn : n.isPositive = true) :
    (parseFloat (n.toFixed 2)).isPositive = true ↔ n.AtLeast (1 / 200) := by
  cases n with
  | nan => cases hn
  | inf s =>
    obtain rfl : s = false := by simpa [Number.isPositive] using hn
    exact iff_of_true (by decide) rfl
  | fin q =>
    rw [isPositive_parseFloat_toFixed_iff (by simpa using hn), Number.AtLeast]
    constructor <;> intro h <;> linarith

/-! ### Decimal commas -/

/-- A text without commas gets one for its point, and the point back for it. -/
theorem replaceFirst_replaceFirst {s : Text} (hs : ascii ',' ∉ s) :
    Text.replaceFirst (js ",") (js ".") (Text.replaceFirst (js ".") (js ",") s) = s := by
  have hcomma : js "," = [ascii ','] := by decide
  have hpoint : js "." = [ascii '.'] := by decide
  rw [hcomma, hpoint]
  -- the first point is replaced, and is the first comma then
  by_cases hmem : ascii '.' ∈ s
  · obtain ⟨a, b, rfl, ha⟩ := List.eq_append_cons_of_mem hmem
    rw [Text.replaceFirst_append _ _ ha, List.append_assoc, List.singleton_append,
      Text.replaceFirst_append _ _ fun h => hs (List.mem_append_left _ h), List.append_assoc,
      List.singleton_append]
  · rw [Text.replaceFirst_eq_self _ hmem, Text.replaceFirst_eq_self _ hs]

theorem comma_notMem_digits {s : Text} (h : isDigits s = true) : ascii ',' ∉ s := fun hmem =>
  absurd (List.all_eq_true.mp h _ hmem) (by decide)

theorem comma_notMem_positiveText (q : ℚ) : ascii ',' ∉ positiveText q := by
  cases hplaces : decimalPlaces q with
  | some t =>
    exact fun hmem => absurd (List.all_eq_true.mp (all_isNumeric_positiveText hplaces) _ hmem)
      (by decide)
  | none =>
    rw [positiveText_of_none hplaces, List.mem_append, List.mem_cons]
    rintro (hmem | hmem | hmem)
    · exact comma_notMem_digits (isDigits_natText _) hmem
    · exact absurd hmem (by decide)
    · exact comma_notMem_digits (isDigits_natText _) hmem

theorem comma_notMem_fixedText (m f : ℕ) : ascii ',' ∉ fixedText m f := by
  have hd := comma_notMem_digits (isDigits_padStart m (f + 1))
  unfold fixedText
  split_ifs
  · exact hd
  · rw [List.mem_append, List.mem_cons]
    rintro (hmem | hmem | hmem)
    · exact hd (List.mem_of_mem_take hmem)
    · exact absurd hmem (by decide)
    · exact hd (List.mem_of_mem_drop hmem)

/-- No number is written with a comma. -/
theorem comma_notMem_toFixed {n : Number} (hn : n.isPositive = true) (f : ℕ) :
    ascii ',' ∉ n.toFixed f := by
  cases n with
  | nan => cases hn
  | inf s =>
    obtain rfl : s = false := by simpa [Number.isPositive] using hn
    show ascii ',' ∉ js "Infinity"
    decide
  | fin q =>
    have hq : 0 < q := by simpa using hn
    rw [Number.toFixed]
    split_ifs with hlarge hneg
    · rw [Number.toText, if_neg hq.ne', if_neg (not_lt.mpr hq.le)]
      exact comma_notMem_positiveText q
    · exact absurd hneg (not_lt.mpr hq.le)
    · exact comma_notMem_fixedText _ f

end MipitCore.Js
