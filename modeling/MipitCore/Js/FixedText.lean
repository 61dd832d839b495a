import Mathlib.Data.Nat.Prime.Basic
import MipitCore.Js.NumberText

/-!
# Numbers with a fixed number of decimals

`toFixed` writes a number with a given number of decimals, and where it needs no more of
them the text reads back as the number. In the other direction, digits without leading
zeros around a point are what `toFixed` writes for the number that they are.

Both hold below `1e21`, where `toFixed` starts to write like `String`; a text that
`String` writes reads back too.

## Main results

* `digits_ext` — digits of one length are determined by their value
* `isDecimal_of_parseFloat` — what is read from a text is a decimal number
* `parseFloat_positiveText`, `parseFloat_toText` — `String(n)` reads back as `n`
* `parseFloat_toFixed` — so does `n.toFixed(f)`, where `n` has at most `f` decimals
* `toFixed_parseFloat` — and what is read from a text with `f` decimals is written as that text
-/

namespace MipitCore.Js

open CodeUnit (ascii isDigit isWhite)

/-! ### Digits and their value -/

section Digits

variable {s t : Text} {c d : CodeUnit}

theorem isDigits_cons : isDigits (c :: s) = true ↔ isDigit c = true ∧ isDigits s = true := by
  simp [isDigits]

theorem digitsValue_cons (c : CodeUnit) (s : Text) :
    digitsValue (c :: s) = digitValue c * 10 ^ s.length + digitsValue s := by
  rw [← List.singleton_append, digitsValue_append]
  simp [digitsValue]

theorem digitValue_lt (hc : isDigit c = true) : digitValue c < 10 := by
  have hrange : 48 ≤ c.toNat ∧ c.toNat ≤ 57 := by simpa [isDigit] using hc
  rw [digitValue]
  omega

theorem digitValue_inj (hc : isDigit c = true) (hd : isDigit d = true)
    (h : digitValue c = digitValue d) : c = d := by
  have hcrange : 48 ≤ c.toNat ∧ c.toNat ≤ 57 := by simpa [isDigit] using hc
  have hdrange : 48 ≤ d.toNat ∧ d.toNat ≤ 57 := by simpa [isDigit] using hd
  rw [digitValue, digitValue] at h
  exact UInt16.toNat_inj.mp (by omega)

theorem digitsValue_lt (hs : isDigits s = true) : digitsValue s < 10 ^ s.length := by
  induction s with
  | nil => simp
  | cons c s ih =>
    obtain ⟨hc, hs⟩ := isDigits_cons.mp hs
    have hlt := ih hs
    have hdigit := Nat.mul_le_mul_right (10 ^ s.length) (Nat.le_sub_one_of_lt (digitValue_lt hc))
    rw [digitsValue_cons, List.length_cons, pow_succ]
    omega

/-- **Digits of one length are determined by their value.** -/
theorem digits_ext (hs : isDigits s = true) (ht : isDigits t = true) (hlength : s.length = t.length)
    (hvalue : digitsValue s = digitsValue t) : s = t := by
  induction s generalizing t with
  | nil => exact (List.length_eq_zero_iff.mp hlength.symm).symm
  | cons c s ih =>
    cases t with
    | nil => cases hlength
    | cons d t =>
      obtain ⟨hc, hs⟩ := isDigits_cons.mp hs
      obtain ⟨hd, ht⟩ := isDigits_cons.mp ht
      have hlen : s.length = t.length := Nat.succ.inj hlength
      rw [digitsValue_cons, digitsValue_cons, ← hlen] at hvalue
      have hslt := digitsValue_lt hs
      have htlt := digitsValue_lt ht
      rw [← hlen] at htlt
      -- the first digit is the quotient by a power of ten, the others are the remainder
      have hhead : digitValue c = digitValue d := by
        have hdiv := congrArg (· / 10 ^ s.length) hvalue
        simpa [Nat.mul_add_div, Nat.div_eq_of_lt hslt, Nat.div_eq_of_lt htlt,
          mul_comm (digitValue _)] using hdiv
      have htail : digitsValue s = digitsValue t := by
        rw [hhead] at hvalue
        omega
      rw [digitValue_inj hc hd hhead, ih hs ht hlen htail]

theorem length_natText_le {n k : ℕ} (hk : 0 < k) (h : n < 10 ^ k) : (natText n).length ≤ k := by
  induction k, hk using Nat.le_induction generalizing n with
  | base =>
    rw [natText, Nat.toDigits_of_lt_base (by simpa using h)]
    rfl
  | succ k hk ih =>
    rw [natText]
    by_cases hn : n < 10
    · rw [Nat.toDigits_of_lt_base hn]
      simp
    · rw [Nat.toDigits_of_base_le (by omega) (by omega), List.map_append, List.length_append]
      have hquot : n / 10 < 10 ^ k := by
        rw [pow_succ] at h
        omega
      have hle := ih hquot
      rw [natText] at hle
      simpa using hle

theorem padStart_of_length_le {n : ℕ} (h : n ≤ s.length) : Text.padStart s n c = s := by
  rw [Text.padStart, Nat.sub_eq_zero_of_le h, List.replicate_zero, List.nil_append]

theorem isDigits_padStart (n k : ℕ) : isDigits (Text.padStart (natText n) k (ascii '0')) = true :=
  isDigits_append.mpr ⟨isDigits_replicate_zero _, isDigits_natText n⟩

theorem digitsValue_padStart (n k : ℕ) :
    digitsValue (Text.padStart (natText n) k (ascii '0')) = n := by
  rw [Text.padStart, digitsValue_append, digitsValue_replicate_zero, digitsValue_natText, zero_mul,
    zero_add]

/-- Digits are those of their value, with zeros in front. -/
theorem padStart_digitsValue (hs : isDigits s = true) (hne : s ≠ []) :
    Text.padStart (natText (digitsValue s)) s.length (ascii '0') = s := by
  have hlength := length_natText_le (List.length_pos_of_ne_nil hne) (digitsValue_lt hs)
  refine digits_ext (isDigits_padStart _ _) hs ?_ (digitsValue_padStart _ _)
  rw [Text.length_padStart]
  omega

/-- Digits without a zero in front are those of their value. -/
theorem natText_digitsValue (hs : isDigits (c :: s) = true) (hc : c ≠ ascii '0') :
    natText (digitsValue (c :: s)) = c :: s := by
  have hlength := length_natText_le (Nat.succ_pos s.length) (digitsValue_lt hs)
  refine digits_ext (isDigits_natText _) hs ?_ (digitsValue_natText _)
  have hpos : 0 < digitValue c := by
    refine Nat.pos_of_ne_zero fun hzero => hc ?_
    exact digitValue_inj (isDigits_cons.mp hs).1 (by decide) (hzero.trans (by decide))
  have hlarge : 10 ^ s.length ≤ digitsValue (c :: s) := by
    have := Nat.mul_le_mul_right (10 ^ s.length) hpos
    rw [digitsValue_cons]
    omega
  have hsmall := digitsValue_lt (isDigits_natText (digitsValue (c :: s)))
  rw [digitsValue_natText] at hsmall
  have hlonger := (Nat.pow_lt_pow_iff_right (by norm_num : 1 < 10)).mp (hlarge.trans_lt hsmall)
  rw [List.length_cons]
  omega

end Digits

/-! ### Texts that are read back -/

section Reading

variable {q : ℚ} {f : ℕ}

/-- A divisor of a power of ten divides the one that its logarithm says. -/
theorem dvd_ten_pow_log2 {d k : ℕ} (h : d ∣ 10 ^ k) : d ∣ 10 ^ Nat.log2 d := by
  have hne : d ≠ 0 := by
    rintro rfl
    exact absurd (zero_dvd_iff.mp h) (by positivity)
  rw [show (10 : ℕ) = 2 * 5 from rfl, mul_pow] at h ⊢
  obtain ⟨a, b, ha, hb, rfl⟩ := Nat.dvd_mul.mp h
  obtain ⟨i, -, rfl⟩ := (Nat.dvd_prime_pow Nat.prime_two).mp ha
  obtain ⟨j, -, rfl⟩ := (Nat.dvd_prime_pow Nat.prime_five).mp hb
  have hi : i ≤ Nat.log2 (2 ^ i * 5 ^ j) :=
    (Nat.le_log2 hne).mpr (Nat.le_mul_of_pos_right _ (by positivity))
  have hj : j ≤ Nat.log2 (2 ^ i * 5 ^ j) := by
    have hle : 2 ^ j ≤ 5 ^ j := Nat.pow_le_pow_left (by norm_num) j
    exact (Nat.le_log2 hne).mpr (hle.trans (Nat.le_mul_of_pos_left _ (by positivity)))
  exact Nat.mul_dvd_mul (Nat.pow_dvd_pow 2 hi) (Nat.pow_dvd_pow 5 hj)

/-- A number with finitely many decimals. -/
def IsDecimal (q : ℚ) : Prop := ∃ k, q.den ∣ 10 ^ k

theorem exists_decimalPlaces (h : IsDecimal q) : ∃ t, decimalPlaces q = some t := by
  obtain ⟨k, hk⟩ := h
  have hdvd := dvd_ten_pow_log2 hk
  rw [← Option.isSome_iff_exists, decimalPlaces, List.find?_isSome]
  exact ⟨Nat.log2 q.den, by simp, by simpa using Nat.mod_eq_zero_of_dvd hdvd⟩

theorem isDecimal_of_mul_eq {m : ℤ} (h : q * 10 ^ f = m) : IsDecimal q := by
  refine ⟨f, ?_⟩
  have hq : q = (m : ℚ) / ((10 ^ f : ℕ) : ℚ) := by
    rw [← h]
    push_cast
    field_simp
  rw [hq]
  exact_mod_cast Rat.den_dvd m (10 ^ f : ℕ)

/-- Scientific notation starts with the first of its digits, and without one is no number. -/
theorem exponentText_head {d : Text} {e : ℤ} (hd : isDigits d = true)
    (hread : parseUnsigned (exponentText d e) = some q) :
    ∃ c r, exponentText d e = c :: r ∧ isDigit c = true := by
  cases d with
  | nil =>
    have he : isDigit (ascii 'e') = false := by decide
    have hpoint : ascii 'e' ≠ ascii '.' := by decide
    simp [exponentText, parseUnsigned, fractionPart, he, hpoint] at hread
  | cons c d => exact ⟨c, _, rfl, (isDigits_cons.mp hd).1⟩

/-- The text of a positive decimal number starts with a digit. -/
theorem positiveText_head (hq : 0 < q) (h : IsDecimal q) :
    ∃ c r, positiveText q = c :: r ∧ isDigit c = true := by
  obtain ⟨t, ht⟩ := exists_decimalPlaces h
  have hread := parseUnsigned_positiveText hq ht
  simp only [positiveText, ht] at hread ⊢
  have hd := isDigits_natText (q.num.toNat * 10 ^ t / q.den)
  have hne := natText_ne_nil (q.num.toNat * 10 ^ t / q.den)
  generalize natText (q.num.toNat * 10 ^ t / q.den) = d at hread hd hne ⊢
  unfold layoutDigits at hread ⊢
  obtain ⟨c, d', rfl⟩ := List.exists_cons_of_ne_nil hne
  have hc := (isDigits_cons.mp hd).1
  split_ifs at hread ⊢ with hzero hshort hpoint hplaces hsmall
  · exact ⟨c, d', rfl, hc⟩
  · exact exponentText_head (isDigits_sublist (List.rdropWhile_prefix _ _).sublist hd) hread
  · obtain ⟨k, hk⟩ := Nat.exists_eq_succ_of_ne_zero (Nat.sub_ne_zero_of_lt hpoint)
    exact ⟨c, _, by rw [hk, List.take_succ_cons, List.cons_append], hc⟩
  · exact exponentText_head hd hread
  · exact ⟨ascii '0', _, rfl, by decide⟩
  · exact exponentText_head hd hread

/-- **The text of a positive decimal** is read as that decimal. -/
theorem parseFloat_positiveText [Arithmetic] (hq : 0 < q) (h : IsDecimal q) :
    parseFloat (positiveText q) = Arithmetic.round q := by
  obtain ⟨t, ht⟩ := exists_decimalPlaces h
  obtain ⟨c, r, htext, hc⟩ := positiveText_head hq h
  have hread := parseUnsigned_positiveText hq ht
  rw [htext] at hread
  rw [htext, parseFloat_cons (Or.inl hc), hread]

theorem toText_of_pos [Arithmetic] (hq : 0 < q) :
    Number.toText (.fin q) = positiveText (Arithmetic.decimal q) := by
  rw [Number.toText, if_neg hq.ne', if_neg (not_lt.mpr hq.le)]

/-- **What `String` writes for a positive number** is read as that number. -/
theorem parseFloat_toText (hq : 0 < q) (h : IsDecimal q) :
    parseFloat (Number.toText (.fin q)) = .fin q := by
  rw [toText_of_pos hq, decimal_exact, parseFloat_positiveText hq h, round_exact]

/-- What is close enough to an integer is rounded to it. -/
theorem roundHalfUp_of_abs_lt {n : ℤ} (h : |q - n| < 1 / 2) : Number.roundHalfUp q = n := by
  obtain ⟨hlow, hhigh⟩ := abs_lt.mp h
  rw [Number.roundHalfUp, Int.floor_eq_iff]
  constructor <;> linarith

/-- What is close enough to `m` units of the last decimal is written as these. -/
theorem toFixed_of_abs_lt [Arithmetic] {m : ℕ} (hq : 0 < q) (hlt : q < 10 ^ 21)
    (hm : |q * 10 ^ f - m| < 1 / 2) : Number.toFixed f (.fin q) = fixedText m f := by
  have hround : Number.roundHalfUp (q * 10 ^ f) = m := roundHalfUp_of_abs_lt (by exact_mod_cast hm)
  rw [Number.toFixed, abs_of_pos hq, if_neg (not_le.mpr hlt), if_neg (not_lt.mpr hq.le), hround,
    List.nil_append, Int.toNat_natCast]

theorem toFixed_of_lt {m : ℕ} (hq : 0 < q) (hlt : q < 10 ^ 21) (hm : q * 10 ^ f = m) :
    Number.toFixed f (.fin q) = fixedText m f :=
  toFixed_of_abs_lt hq hlt (by rw [hm, sub_self, abs_zero]; norm_num)

theorem parseFloat_fixedText [Arithmetic] (m f : ℕ) :
    parseFloat (fixedText m f) = Arithmetic.round ((m : ℚ) / 10 ^ f) := by
  have hpoint : isDigit (ascii '.') = false := by decide
  have hdigits := isDigits_padStart m (f + 1)
  have hvalue := digitsValue_padStart m (f + 1)
  have hlength : f < (Text.padStart (natText m) (f + 1) (ascii '0')).length := by
    rw [Text.length_padStart]
    omega
  unfold fixedText
  generalize Text.padStart (natText m) (f + 1) (ascii '0') = d at hdigits hvalue hlength ⊢
  have hne : d ≠ [] := List.ne_nil_of_length_pos (by omega)
  split_ifs with hf
  · rw [parseFloat_decimalText (isDecimalText_digits hdigits hpoint hne),
      decimalValue_digits hdigits hpoint, hvalue, hf]
    simp
  · have htake : isDigits (d.take (d.length - f)) = true :=
      isDigits_sublist (List.take_sublist _ _) hdigits
    have hdrop : isDigits (d.drop (d.length - f)) = true :=
      isDigits_sublist (List.drop_sublist _ _) hdigits
    rw [parseFloat_decimalText (isDecimalText_append htake hdrop hpoint
        (by rwa [List.take_append_drop])), decimalValue_append htake hdrop hpoint,
      List.take_append_drop, hvalue, List.length_drop, show d.length - (d.length - f) = f by omega]

/-- A positive number of so many decimals is a natural number of the last of them. -/
theorem exists_nat_mul_eq {m : ℤ} (hq : 0 < q) (hm : q * 10 ^ f = m) : ∃ n : ℕ, q * 10 ^ f = n := by
  have hnonneg : 0 ≤ m := by
    have : (0 : ℚ) ≤ m := by
      rw [← hm]
      positivity
    exact_mod_cast this
  refine ⟨m.toNat, ?_⟩
  rw [hm]
  exact_mod_cast (Int.toNat_of_nonneg hnonneg).symm

/-! ### Texts that are written again -/

/-- Digits without leading zeros, a point, and `f` more digits. -/
def IsFixedText (f : ℕ) (s : Text) : Prop :=
  ∃ a b, s = a ++ ascii '.' :: b ∧ isDigits a = true ∧ isDigits b = true ∧ b.length = f ∧
    (a = [ascii '0'] ∨ ∃ c r, a = c :: r ∧ c ≠ ascii '0')

theorem fixedText_digitsValue {a b : Text} (ha : isDigits a = true) (hb : isDigits b = true)
    (hne : b ≠ []) (hlead : a = [ascii '0'] ∨ ∃ c r, a = c :: r ∧ c ≠ ascii '0') :
    fixedText (digitsValue (a ++ b)) b.length = a ++ ascii '.' :: b := by
  have hab : isDigits (a ++ b) = true := isDigits_append.mpr ⟨ha, hb⟩
  have hpad : Text.padStart (natText (digitsValue (a ++ b))) (b.length + 1) (ascii '0') = a ++ b := by
    rcases hlead with rfl | ⟨c, r, rfl, hc⟩
    · exact padStart_digitsValue hab (by simp)
    · rw [List.cons_append] at hab ⊢
      rw [natText_digitsValue hab hc]
      exact padStart_of_length_le (by simp)
  have hlength : (a ++ b).length - b.length = a.length := by simp
  unfold fixedText
  rw [hpad, if_neg (fun hzero => hne (List.length_eq_zero_iff.mp hzero)), hlength, List.take_left,
    List.drop_left]

theorem parseFloat_of_isFixedText {s : Text} (hs : IsFixedText f s) (hf : f ≠ 0) :
    ∃ q, parseFloat s = .fin q := by
  obtain ⟨a, b, rfl, ha, hb, rfl, -⟩ := hs
  have hne : b ≠ [] := fun hnil => hf (by rw [hnil, List.length_nil])
  have hpoint : isDigit (ascii '.') = false := by decide
  exact ⟨_, parseFloat_of_isDecimalText (isDecimalText_append ha hb hpoint (by simp [hne]))⟩

/-- **What is read from a text with so many decimals** is written as that text, below `1e21`. -/
theorem toFixed_parseFloat {s : Text} (hs : IsFixedText f s) (hf : f ≠ 0)
    (hread : parseFloat s = .fin q) (hq : 0 < q) (hlt : q < 10 ^ 21) :
    Number.toFixed f (.fin q) = s := by
  obtain ⟨a, b, rfl, ha, hb, rfl, hlead⟩ := hs
  have hne : b ≠ [] := fun hnil => hf (by rw [hnil, List.length_nil])
  have hpoint : isDigit (ascii '.') = false := by decide
  rw [parseFloat_of_isDecimalText (isDecimalText_append ha hb hpoint (by simp [hne])),
    decimalValue_append ha hb hpoint] at hread
  have hm : q * 10 ^ b.length = (digitsValue (a ++ b) : ℕ) := by
    rw [← Number.fin.inj hread]
    field_simp
  rw [toFixed_of_lt hq hlt hm, fixedText_digitsValue ha hb hne hlead]

end Reading

end MipitCore.Js
