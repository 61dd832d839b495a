import Mathlib.Algebra.Order.Field.Rat
import Mathlib.Tactic.FieldSimp
import Mathlib.Tactic.Linarith
import MipitCore.Js.Number

/-!
# Reading numbers from text, and writing them

`parseFloat` never fails on a decimal number and then takes all of it
(`parseFloat_decimalText`); what it makes of other texts depends on their
longest numeric prefix. In the other direction `String(n)` loses nothing: two
positive numbers with the same text are equal (`positiveText_injective`).

## Main results

* `parseUnsigned_append` — reading digits, a point, digits and an exponent
* `isDecimalText_cases` — a decimal text is digits, or digits around one point
* `parseFloat_decimalText`, and `parseFloat_of_isDecimalText` in exact arithmetic
* `parseUnsigned_positiveText` — `String(n)` reads back as `n`
* `positiveText_injective`
-/

namespace MipitCore.Js

open CodeUnit (ascii isDigit isWhite)

/-! ### Reading digits -/

theorem isDigits_append {s t : Text} :
    isDigits (s ++ t) = true ↔ isDigits s = true ∧ isDigits t = true := by
  simp [isDigits, List.all_append]

theorem isDigits_replicate_zero (n : ℕ) : isDigits (List.replicate n (ascii '0')) = true := by
  simp only [isDigits, List.all_eq_true, List.mem_replicate]
  rintro c ⟨-, rfl⟩
  decide

theorem isDigits_sublist {s t : Text} (h : s.Sublist t) (ht : isDigits t = true) :
    isDigits s = true := by
  simp only [isDigits, List.all_eq_true] at ht ⊢
  exact fun c hc => ht c (h.subset hc)

/-- No digit at the front. -/
def NoDigitFirst (s : Text) : Prop := ∀ c r, s = c :: r → isDigit c = false

theorem noDigitFirst_nil : NoDigitFirst [] := by
  intro c r h
  simp at h

theorem noDigitFirst_cons {c : CodeUnit} (h : isDigit c = false) (r : Text) :
    NoDigitFirst (c :: r) := by
  rintro c' r' heq
  obtain ⟨rfl, -⟩ := List.cons.inj heq
  exact h

theorem takeWhile_digits {s r : Text} (hs : isDigits s = true) (hr : NoDigitFirst r) :
    (s ++ r).takeWhile isDigit = s := by
  rw [isDigits, List.all_eq_true] at hs
  rw [List.takeWhile_append_of_pos hs]
  cases r with
  | nil => simp
  | cons c r => simp [hr c r rfl]

theorem dropWhile_digits {s r : Text} (hs : isDigits s = true) (hr : NoDigitFirst r) :
    (s ++ r).dropWhile isDigit = r := by
  rw [isDigits, List.all_eq_true] at hs
  rw [List.dropWhile_append_of_pos hs]
  cases r with
  | nil => simp
  | cons c r => simp [hr c r rfl]

theorem fractionPart_point {b r : Text} (hb : isDigits b = true) (hr : NoDigitFirst r) :
    fractionPart (ascii '.' :: (b ++ r)) = (b, r) := by
  simp [fractionPart, takeWhile_digits hb hr, dropWhile_digits hb hr]

theorem fractionPart_of_ne {c : CodeUnit} {r : Text} (hc : c ≠ ascii '.') :
    fractionPart (c :: r) = ([], c :: r) := by
  simp [fractionPart, hc]

/-- Digits, a point, digits, and whatever follows them. -/
theorem parseUnsigned_append {a b r : Text} (ha : isDigits a = true) (hb : isDigits b = true)
    (hr : NoDigitFirst r) (hne : a ++ b ≠ []) :
    parseUnsigned (a ++ ascii '.' :: (b ++ r)) =
      some ((digitsValue (a ++ b) : ℚ) / 10 ^ b.length * (10 : ℚ) ^ exponentValue r) := by
  have hpoint : NoDigitFirst (ascii '.' :: (b ++ r)) := noDigitFirst_cons (by decide) _
  have hnot : ¬ (a = [] ∧ b = []) := fun h => hne (by simp [h.1, h.2])
  simp only [parseUnsigned, takeWhile_digits ha hpoint, dropWhile_digits ha hpoint,
    fractionPart_point hb hr, hnot, ↓reduceIte]

/-- Digits alone, and whatever follows them. -/
theorem parseUnsigned_digits {a r : Text} (ha : isDigits a = true) (hr : NoDigitFirst r)
    (hpoint : ∀ r', r ≠ ascii '.' :: r') (hne : a ≠ []) :
    parseUnsigned (a ++ r) = some ((digitsValue a : ℚ) * (10 : ℚ) ^ exponentValue r) := by
  have hfrac : fractionPart r = ([], r) := by
    cases r with
    | nil => rfl
    | cons c r => exact fractionPart_of_ne fun h => hpoint r (by rw [h])
  simp [parseUnsigned, takeWhile_digits ha hr, dropWhile_digits ha hr, hfrac, hne]

/-! ### Decimal texts are read whole -/

section Decimal

variable {point : CodeUnit} {s : Text}

theorem isDecimalText_digits (hs : isDigits s = true) (hpoint : isDigit point = false)
    (hne : s ≠ []) : isDecimalText point s = true := by
  rw [isDigits, List.all_eq_true] at hs
  have hcount : s.count point = 0 := by
    rw [List.count_eq_zero]
    intro hmem
    rw [hs _ hmem] at hpoint
    cases hpoint
  obtain ⟨c, hc⟩ := List.exists_mem_of_ne_nil s hne
  simp only [isDecimalText, Bool.and_eq_true, List.all_eq_true, Bool.or_eq_true, hcount,
    List.any_eq_true]
  exact ⟨⟨fun c hc => Or.inl (hs c hc), by decide⟩, c, hc, hs c hc⟩

theorem isDecimalText_append {a b : Text} (ha : isDigits a = true) (hb : isDigits b = true)
    (hpoint : isDigit point = false) (hne : a ++ b ≠ []) :
    isDecimalText point (a ++ point :: b) = true := by
  have hcount : ∀ t : Text, isDigits t = true → t.count point = 0 := fun t ht => by
    rw [List.count_eq_zero]
    intro hmem
    rw [isDigits, List.all_eq_true] at ht
    exact Bool.false_ne_true (hpoint.symm.trans (ht _ hmem))
  have hall : isDigits (a ++ b) = true := isDigits_append.mpr ⟨ha, hb⟩
  rw [isDigits, List.all_eq_true] at ha hb hall
  obtain ⟨c, hc⟩ := List.exists_mem_of_ne_nil _ hne
  simp only [isDecimalText, Bool.and_eq_true, List.all_eq_true, Bool.or_eq_true, beq_iff_eq,
    decide_eq_true_eq, List.any_eq_true, List.mem_append, List.mem_cons]
  refine ⟨⟨?_, ?_⟩, c, (List.mem_append.mp hc).imp_right Or.inr, hall c hc⟩
  · rintro e (he | rfl | he)
    · exact Or.inl (ha e he)
    · exact Or.inr rfl
    · exact Or.inl (hb e he)
  · rw [List.count_append, List.count_cons_self, hcount a (by rwa [isDigits, List.all_eq_true]),
      hcount b (by rwa [isDigits, List.all_eq_true])]

/-- A decimal text is a string of digits, or two strings of digits around the point. -/
theorem isDecimalText_cases (hpoint : isDigit point = false) (h : isDecimalText point s = true) :
    (isDigits s = true ∧ s ≠ []) ∨
      ∃ a b, s = a ++ point :: b ∧ isDigits a = true ∧ isDigits b = true ∧ a ++ b ≠ [] := by
  simp only [isDecimalText, Bool.and_eq_true, List.all_eq_true, Bool.or_eq_true, beq_iff_eq,
    decide_eq_true_eq, List.any_eq_true] at h
  obtain ⟨⟨hall, hcount⟩, c, hc, hdigit⟩ := h
  by_cases hmem : point ∈ s
  · obtain ⟨a, b, rfl⟩ := List.append_of_mem hmem
    simp only [List.count_append, List.count_cons_self] at hcount
    have hdigits : ∀ t : Text, t.Sublist (a ++ point :: b) → t.count point = 0 →
        isDigits t = true := by
      intro t ht htc
      rw [isDigits, List.all_eq_true]
      intro d hd
      rcases hall d (ht.subset hd) with hdig | rfl
      · exact hdig
      · exact absurd hd (List.count_eq_zero.mp htc)
    have ha := hdigits a (List.sublist_append_left _ _) (by omega)
    have hb := hdigits b ((List.sublist_cons_self _ _).trans (List.sublist_append_right _ _))
      (by omega)
    refine Or.inr ⟨a, b, rfl, ha, hb, ?_⟩
    rintro hnil
    obtain ⟨rfl, rfl⟩ := List.append_eq_nil_iff.mp hnil
    obtain rfl := List.mem_singleton.mp hc
    rw [hpoint] at hdigit
    cases hdigit
  · refine Or.inl ⟨?_, List.ne_nil_of_mem hc⟩
    rw [isDigits, List.all_eq_true]
    intro d hd
    rcases hall d hd with hdig | rfl
    · exact hdig
    · exact absurd hd hmem

theorem filter_digits (hs : isDigits s = true) : s.filter isDigit = s := by
  rw [List.filter_eq_self]
  rwa [isDigits, List.all_eq_true] at hs

theorem afterFirst_digits (hs : isDigits s = true) (hpoint : isDigit point = false) :
    Text.afterFirst point s = none := by
  rw [Text.afterFirst_eq_none_iff, Text.includes, List.contains_eq_mem, decide_eq_false_iff_not]
  intro hmem
  rw [isDigits, List.all_eq_true] at hs
  rw [hs _ hmem] at hpoint
  cases hpoint

theorem afterFirst_append_point {a b : Text} (ha : isDigits a = true)
    (hpoint : isDigit point = false) :
    Text.afterFirst point (a ++ point :: b) = some b := by
  induction a with
  | nil => simp [Text.afterFirst]
  | cons c a ih =>
    simp only [isDigits, List.all_cons, Bool.and_eq_true] at ha
    have hc : c ≠ point := by
      rintro rfl
      rw [ha.1] at hpoint
      cases hpoint
    rw [List.cons_append, Text.afterFirst, if_neg hc]
    exact ih ha.2

theorem decimalValue_digits (hs : isDigits s = true) (hpoint : isDigit point = false) :
    decimalValue point s = digitsValue s := by
  simp [decimalValue, filter_digits hs, afterFirst_digits hs hpoint]

theorem decimalValue_append {a b : Text} (ha : isDigits a = true) (hb : isDigits b = true)
    (hpoint : isDigit point = false) :
    decimalValue point (a ++ point :: b) = (digitsValue (a ++ b) : ℚ) / 10 ^ b.length := by
  simp [decimalValue, filter_digits ha, filter_digits hb, hpoint,
    afterFirst_append_point ha hpoint]

/-- A text that starts with a digit or a point is read without a sign. -/
theorem parseFloat_cons [Arithmetic] {c : CodeUnit} {r : Text}
    (hc : isDigit c = true ∨ c = ascii '.') :
    parseFloat (c :: r) =
      match parseUnsigned (c :: r) with
      | some q => Arithmetic.round q
      | none => .nan := by
  have hne : c ≠ ascii '-' ∧ c ≠ ascii '+' ∧ isWhite c = false ∧
      Text.startsWith (c :: r) (js "Infinity") = false := by
    -- a digit or a point is neither a sign, nor white, nor the letter of an infinity
    have hbound : c.toNat = 46 ∨ (48 ≤ c.toNat ∧ c.toNat ≤ 57) := by
      rcases hc with hd | rfl
      · right
        simpa [isDigit] using hd
      · left
        decide
    have hI : js "Infinity" = ascii 'I' :: js "nfinity" := by decide
    refine ⟨?_, ?_, ?_, ?_⟩
    · rintro rfl
      revert hbound
      decide
    · rintro rfl
      revert hbound
      decide
    · simp only [isWhite, Bool.or_eq_false_iff, Bool.and_eq_false_iff, decide_eq_false_iff_not,
        beq_eq_false_iff_ne]
      omega
    · rw [hI, Text.startsWith, List.isPrefixOf_cons_cons, Bool.and_eq_false_iff]
      left
      rw [beq_eq_false_iff_ne]
      rintro rfl
      revert hbound
      decide
  obtain ⟨hminus, hplus, hwhite, hinf⟩ := hne
  cases hread : parseUnsigned (c :: r) <;>
    simp only [parseFloat, List.dropWhile_cons, hwhite, Bool.false_eq_true, ↓reduceIte, hminus,
      hplus, parseMagnitude, hinf, hread]

/-- **A decimal text is read whole.** -/
theorem parseFloat_decimalText [Arithmetic] (h : isDecimalText (ascii '.') s = true) :
    parseFloat s = Arithmetic.round (decimalValue (ascii '.') s) := by
  have hpoint : isDigit (ascii '.') = false := by decide
  rcases isDecimalText_cases hpoint h with ⟨hs, hne⟩ | ⟨a, b, rfl, ha, hb, hne⟩
  · obtain ⟨c, r, rfl⟩ := List.exists_cons_of_ne_nil hne
    have hc : isDigit c = true := by
      simp only [isDigits, List.all_cons, Bool.and_eq_true] at hs
      exact hs.1
    have hparse := parseUnsigned_digits (r := []) hs noDigitFirst_nil (by simp) hne
    rw [List.append_nil] at hparse
    rw [parseFloat_cons (Or.inl hc), hparse, decimalValue_digits hs hpoint]
    simp [exponentValue]
  · have hparse := parseUnsigned_append (r := []) ha hb noDigitFirst_nil hne
    rw [List.append_nil] at hparse
    rw [decimalValue_append ha hb hpoint]
    cases a with
    | nil =>
      rw [List.nil_append] at hparse ⊢
      rw [parseFloat_cons (Or.inr rfl), hparse]
      simp [exponentValue]
    | cons c a =>
      have hc : isDigit c = true := by
        simp only [isDigits, List.all_cons, Bool.and_eq_true] at ha
        exact ha.1
      rw [List.cons_append] at hparse ⊢
      rw [parseFloat_cons (Or.inl hc), hparse]
      simp [exponentValue]

theorem parseFloat_of_isDecimalText (h : isDecimalText (ascii '.') s = true) :
    parseFloat s = .fin (decimalValue (ascii '.') s) := parseFloat_decimalText h

end Decimal

/-! ### Numbers written by `String(n)` are read back -/

section Writing

variable {d : Text} {t : ℕ}

theorem noDigitFirst_exponent (r : Text) : NoDigitFirst (ascii 'e' :: r) :=
  noDigitFirst_cons (by decide) r

theorem takeWhile_natText (n : ℕ) : (natText n).takeWhile isDigit = natText n := by
  simpa using takeWhile_digits (r := []) (isDigits_natText n) noDigitFirst_nil

theorem exponentValue_exponentText (e : ℤ) :
    exponentValue (ascii 'e' :: (if e < 0 then ascii '-' else ascii '+') :: natText e.natAbs) =
      e := by
  have hplus : ascii '+' ≠ ascii '-' := by decide
  by_cases he : e < 0
  · simp only [exponentValue, he, true_or, ↓reduceIte, takeWhile_natText, digitsValue_natText]
    omega
  · simp only [exponentValue, he, true_or, ↓reduceIte, hplus, takeWhile_natText,
      digitsValue_natText]
    omega

theorem parseUnsigned_exponentText (hd : isDigits d = true) (hne : d ≠ []) (e : ℤ) :
    parseUnsigned (exponentText d e) =
      some ((digitsValue d : ℚ) / 10 ^ (d.length - 1) * (10 : ℚ) ^ e) := by
  obtain ⟨c, r, rfl⟩ := List.exists_cons_of_ne_nil hne
  have hc : isDigits [c] = true := isDigits_sublist (by simp) hd
  cases r with
  | nil =>
    have hparse := parseUnsigned_digits (a := [c]) hc
      (noDigitFirst_exponent ((if e < 0 then ascii '-' else ascii '+') :: natText e.natAbs))
      (by intro r' h; exact absurd (List.cons.inj h).1 (by decide)) (by simp)
    rw [exponentValue_exponentText] at hparse
    simpa [exponentText] using hparse
  | cons c' r =>
    have hr : isDigits (c' :: r) = true := isDigits_sublist (List.sublist_cons_self _ _) hd
    have hparse := parseUnsigned_append (a := [c]) (b := c' :: r) hc hr
      (noDigitFirst_exponent ((if e < 0 then ascii '-' else ascii '+') :: natText e.natAbs))
      (by simp)
    rw [exponentValue_exponentText] at hparse
    simpa [exponentText] using hparse

theorem digitsValue_pos_iff (s : Text) (hs : isDigits s = true) :
    0 < digitsValue s ↔ ∃ c ∈ s, c ≠ ascii '0' := by
  induction s with
  | nil => simp
  | cons c s ih =>
    simp only [isDigits, List.all_cons, Bool.and_eq_true] at hs
    have hsplit : digitsValue (c :: s) = digitValue c * 10 ^ s.length + digitsValue s := by
      rw [← List.singleton_append, digitsValue_append]
      simp [digitsValue]
    have hc : digitValue c = 0 ↔ c = ascii '0' := by
      have hrange : 48 ≤ c.toNat ∧ c.toNat ≤ 57 := by simpa [isDigit] using hs.1
      constructor
      · intro h
        apply UInt16.toNat_inj.mp
        rw [digitValue] at h
        change c.toNat = 48
        omega
      · rintro rfl
        decide
    rw [hsplit]
    constructor
    · intro h
      by_cases hz : c = ascii '0'
      · rw [hc.mpr hz, zero_mul, zero_add] at h
        obtain ⟨d, hd, hne⟩ := (ih hs.2).mp h
        exact ⟨d, List.mem_cons_of_mem _ hd, hne⟩
      · exact ⟨c, List.mem_cons_self, hz⟩
    · rintro ⟨d, hd, hne⟩
      rcases List.mem_cons.mp hd with rfl | hmem
      · have : 0 < digitValue d := Nat.pos_of_ne_zero fun h => hne (hc.mp h)
        positivity
      · have := (ih hs.2).mpr ⟨d, hmem, hne⟩
        omega

/-- Dropping trailing zeros divides by the power of ten that they stand for. -/
theorem digitsValue_rdropWhile (d : Text) :
    digitsValue d = digitsValue (d.rdropWhile (· = ascii '0')) *
      10 ^ (d.length - (d.rdropWhile (· = ascii '0')).length) := by
  have hsplit := List.rdropWhile_append_rtakeWhile (p := (· = ascii '0')) (l := d)
  have hzeros : ∀ c ∈ d.rtakeWhile (· = ascii '0'), c = ascii '0' := fun c hc => by
    simpa using List.mem_rtakeWhile_imp hc
  have hrep := List.eq_replicate_of_mem hzeros
  conv_lhs => rw [← hsplit, digitsValue_append, hrep]
  have hlen := congrArg List.length hsplit
  rw [List.length_append] at hlen
  rw [digitsValue_replicate_zero, List.length_replicate, add_zero]
  congr 2
  omega

/-- **The layout of `String(n)` reads back**: the digits, over ten to the number of places. -/
theorem parseUnsigned_layoutDigits (hd : isDigits d = true) (hpos : 0 < digitsValue d) :
    parseUnsigned (layoutDigits d t) = some ((digitsValue d : ℚ) / 10 ^ t) := by
  have hne : d ≠ [] := by
    rintro rfl
    simp at hpos
  have hlen : 0 < d.length := List.length_pos_of_ne_nil hne
  have hten : (10 : ℚ) ≠ 0 := by norm_num
  unfold layoutDigits
  split_ifs with ht hshort hpt hplaces hsmall
  · -- an integer written out
    have hparse := parseUnsigned_digits (r := []) hd noDigitFirst_nil (by simp) hne
    rw [List.append_nil] at hparse
    simpa [exponentValue, ht] using hparse
  · -- an integer of more than 21 digits
    set d' := d.rdropWhile (· = ascii '0') with hd'
    have hd'digits : isDigits d' = true :=
      isDigits_sublist (List.rdropWhile_prefix _ _).sublist hd
    have hd'ne : d' ≠ [] := by
      intro hnil
      obtain ⟨c, hc, hne0⟩ := (digitsValue_pos_iff d hd).mp hpos
      have hall := List.rdropWhile_eq_nil_iff.mp (hd'.symm.trans hnil) c hc
      exact hne0 (by simpa using hall)
    have hd'len : 0 < d'.length := List.length_pos_of_ne_nil hd'ne
    have hle : d'.length ≤ d.length := (List.rdropWhile_prefix _ _).sublist.length_le
    have hval := digitsValue_rdropWhile d
    rw [← hd'] at hval
    rw [parseUnsigned_exponentText hd'digits hd'ne, ht, hval, Nat.cast_mul, Nat.cast_pow]
    have hexp : ((d.length : ℤ) - 1) = ((d.length - 1 : ℕ) : ℤ) := by omega
    have hpow : (10 : ℚ) ^ (d.length - 1) =
        10 ^ (d.length - d'.length) * 10 ^ (d'.length - 1) := by
      rw [← pow_add]
      congr 1
      omega
    rw [hexp, zpow_natCast, hpow]
    congr 1
    push_cast
    field_simp
  · -- the point between the digits
    have htake : isDigits (d.take (d.length - t)) = true :=
      isDigits_sublist (List.take_sublist _ _) hd
    have hdrop : isDigits (d.drop (d.length - t)) = true :=
      isDigits_sublist (List.drop_sublist _ _) hd
    have hparse := parseUnsigned_append (r := []) htake hdrop noDigitFirst_nil
      (by rwa [List.take_append_drop])
    rw [List.append_nil, List.take_append_drop, List.length_drop] at hparse
    rw [hparse, show d.length - (d.length - t) = t by omega]
    simp [exponentValue]
  · -- a large number with decimal places
    rw [parseUnsigned_exponentText hd hne]
    have hexp : ((d.length : ℤ) - t - 1) = ((d.length - 1 : ℕ) : ℤ) - (t : ℤ) := by omega
    rw [hexp, zpow_sub₀ hten, zpow_natCast, zpow_natCast]
    congr 1
    field_simp
  · -- zeros after the point
    have hb : isDigits (List.replicate (t - d.length) (ascii '0') ++ d) = true :=
      isDigits_append.mpr ⟨isDigits_replicate_zero _, hd⟩
    have hparse := parseUnsigned_append (a := [ascii '0']) (r := []) (by decide) hb
      noDigitFirst_nil (by simp)
    rw [List.append_nil] at hparse
    have hzero : digitsValue [ascii '0'] = 0 := by decide
    have hval : digitsValue ([ascii '0'] ++ (List.replicate (t - d.length) (ascii '0') ++ d)) =
        digitsValue d := by
      rw [digitsValue_append, digitsValue_append, digitsValue_replicate_zero, hzero]
      simp
    rw [hval, List.length_append, List.length_replicate,
      show t - d.length + d.length = t by omega] at hparse
    simpa [exponentValue] using hparse
  · -- a small number
    rw [parseUnsigned_exponentText hd hne]
    have hexp : ((d.length : ℤ) - t - 1) = ((d.length - 1 : ℕ) : ℤ) - (t : ℤ) := by omega
    rw [hexp, zpow_sub₀ hten, zpow_natCast, zpow_natCast]
    congr 1
    field_simp

/-- **`String(n)` reads back as `n`**, for a positive decimal number. -/
theorem parseUnsigned_positiveText {q : ℚ} (hq : 0 < q) (h : decimalPlaces q = some t) :
    parseUnsigned (positiveText q) = some q := by
  have hdvd : q.den ∣ 10 ^ t := by
    have := List.find?_some h
    exact Nat.dvd_of_mod_eq_zero (by simpa using this)
  obtain ⟨k, hk⟩ := hdvd
  have hden : 0 < q.den := q.den_pos
  have hnum : 0 < q.num := Rat.num_pos.mpr hq
  have hkpos : 0 < k := Nat.pos_of_ne_zero fun h0 => by
    rw [h0, mul_zero] at hk
    exact absurd hk (by positivity)
  have hquot : q.num.toNat * 10 ^ t / q.den = q.num.toNat * k := by
    rw [hk, show q.num.toNat * (q.den * k) = q.num.toNat * k * q.den by ring]
    exact Nat.mul_div_cancel _ hden
  have hpos : 0 < q.num.toNat * k := Nat.mul_pos (by omega) hkpos
  simp only [positiveText, h, hquot]
  rw [parseUnsigned_layoutDigits (isDigits_natText _) (by rwa [digitsValue_natText]),
    digitsValue_natText]
  have hpow : (10 : ℚ) ^ t = q.den * k := by exact_mod_cast hk
  have hcast : ((q.num.toNat : ℕ) : ℚ) = q.num := by
    exact_mod_cast Int.toNat_of_nonneg hnum.le
  have hk' : (k : ℚ) ≠ 0 := by exact_mod_cast hkpos.ne'
  rw [hpow, Nat.cast_mul, hcast, mul_div_mul_right _ _ hk', Rat.num_div_den]

/-- The units of a decimal literal. -/
def isNumeric (c : CodeUnit) : Bool := isDigit c || (js ".e+-").contains c

theorem all_isNumeric_of_isDigits (hd : isDigits d = true) : d.all isNumeric = true := by
  rw [isDigits, List.all_eq_true] at hd
  rw [List.all_eq_true]
  intro c hc
  simp [isNumeric, hd c hc]

theorem all_isNumeric_exponentText (hd : isDigits d = true) (e : ℤ) :
    (exponentText d e).all isNumeric = true := by
  have htake := all_isNumeric_of_isDigits (isDigits_sublist (List.take_sublist 1 d) hd)
  have hdrop := all_isNumeric_of_isDigits (isDigits_sublist (List.drop_sublist 1 d) hd)
  have hexp := all_isNumeric_of_isDigits (isDigits_natText e.natAbs)
  have hpoint : isNumeric (ascii '.') = true := by decide
  have he : isNumeric (ascii 'e') = true := by decide
  have hsign : isNumeric (if e < 0 then ascii '-' else ascii '+') = true := by
    split <;> decide
  rw [exponentText]
  simp only [List.all_append, List.all_cons, List.all_nil, htake, hexp, he, hsign,
    Bool.true_and, Bool.and_true]
  split
  · rfl
  · rw [List.all_cons, hpoint, hdrop]
    rfl

theorem all_isNumeric_layoutDigits (hd : isDigits d = true) :
    (layoutDigits d t).all isNumeric = true := by
  have hzero : isNumeric (ascii '0') = true := by decide
  have hpoint : isNumeric (ascii '.') = true := by decide
  unfold layoutDigits
  split_ifs
  · exact all_isNumeric_of_isDigits hd
  · exact all_isNumeric_exponentText
      (isDigits_sublist (List.rdropWhile_prefix _ _).sublist hd) _
  · rw [List.all_append, List.all_cons, hpoint,
      all_isNumeric_of_isDigits (isDigits_sublist (List.take_sublist _ _) hd),
      all_isNumeric_of_isDigits (isDigits_sublist (List.drop_sublist _ _) hd)]
    rfl
  · exact all_isNumeric_exponentText hd _
  · rw [List.all_cons, List.all_cons, hzero, hpoint, List.all_append,
      all_isNumeric_of_isDigits (isDigits_replicate_zero _), all_isNumeric_of_isDigits hd]
    rfl
  · exact all_isNumeric_exponentText hd _

theorem positiveText_of_none {q : ℚ} (h : decimalPlaces q = none) :
    positiveText q = natText q.num.toNat ++ ascii '/' :: natText q.den := by
  simp only [positiveText, h]

theorem all_isNumeric_positiveText {q : ℚ} (h : decimalPlaces q = some t) :
    (positiveText q).all isNumeric = true := by
  simp only [positiveText, h]
  exact all_isNumeric_layoutDigits (isDigits_natText _)

/-- Every unit of the text of a positive number is numeric, or the bar of a fraction. -/
theorem mem_positiveText {q : ℚ} {c : CodeUnit} (hc : c ∈ positiveText q) :
    isNumeric c = true ∨ c = ascii '/' := by
  cases h : decimalPlaces q with
  | some t => exact Or.inl (List.all_eq_true.mp (all_isNumeric_positiveText h) c hc)
  | none =>
    rw [positiveText_of_none h, List.mem_append, List.mem_cons] at hc
    have hnat : ∀ n, c ∈ natText n → isNumeric c = true := fun n =>
      List.all_eq_true.mp (all_isNumeric_of_isDigits (isDigits_natText n)) c
    rcases hc with hnum | hbar | hden
    · exact Or.inl (hnat _ hnum)
    · exact Or.inr hbar
    · exact Or.inl (hnat _ hden)

/-- A fraction is not a decimal literal. -/
theorem positiveText_ne {p q : ℚ} (hp : decimalPlaces p = some t) (hq : decimalPlaces q = none) :
    positiveText p ≠ positiveText q := by
  intro h
  have hmem : ascii '/' ∈ positiveText p := by
    rw [h, positiveText_of_none hq]
    simp
  have hnumeric := List.all_eq_true.mp (all_isNumeric_positiveText hp) _ hmem
  exact absurd hnumeric (by decide)

theorem natText_append_bar {m n m' n' : ℕ}
    (h : natText m ++ ascii '/' :: natText n = natText m' ++ ascii '/' :: natText n') :
    m = m' ∧ n = n' := by
  have hbar : ∀ r, NoDigitFirst (ascii '/' :: r) := noDigitFirst_cons (by decide)
  have htake := congrArg (List.takeWhile isDigit) h
  have hdrop := congrArg (List.dropWhile isDigit) h
  rw [takeWhile_digits (isDigits_natText _) (hbar _),
    takeWhile_digits (isDigits_natText _) (hbar _)] at htake
  rw [dropWhile_digits (isDigits_natText _) (hbar _),
    dropWhile_digits (isDigits_natText _) (hbar _)] at hdrop
  exact ⟨natText_injective htake, natText_injective (List.cons.inj hdrop).2⟩

/-- **Positive numbers with the same text are equal.** -/
theorem positiveText_injective {p q : ℚ} (hp : 0 < p) (hq : 0 < q)
    (h : positiveText p = positiveText q) : p = q := by
  cases hpt : decimalPlaces p with
  | some t =>
    cases hqt : decimalPlaces q with
    | some t' =>
      have hread := parseUnsigned_positiveText hp hpt
      rw [h, parseUnsigned_positiveText hq hqt] at hread
      exact (Option.some.inj hread).symm
    | none => exact absurd h (positiveText_ne hpt hqt)
  | none =>
    cases hqt : decimalPlaces q with
    | some t' => exact absurd h.symm (positiveText_ne hqt hpt)
    | none =>
      rw [positiveText_of_none hpt, positiveText_of_none hqt] at h
      obtain ⟨hnum, hden⟩ := natText_append_bar h
      have hppos := Rat.num_pos.mpr hp
      have hqpos := Rat.num_pos.mpr hq
      exact Rat.ext (by omega) hden

end Writing

end MipitCore.Js
