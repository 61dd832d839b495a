import MipitCore.Js.Double
import MipitCore.Normalization.FxRates
import MipitCore.Normalization.Idempotent

/-!
# Normalization and the schema

A normalized message is published as it is, without being checked again. What
normalization writes into a message meets the schema, but for two things: upper case can
be longer than the currency was, and a conversion of less than half a cent comes to
nothing, where the schema wants a positive amount. What is half a cent is decided in
doubles, by products that are rounded twice before they are rounded to cents.

## Main definitions

* `Convertible` — the currency stays as long as it was, and the conversion comes to something

## Main results

* `isPositive_roundCents_iff` — a double is rounded to some cents exactly from the double `0.005` up
* `wellFormed_normalize_iff` — what the exchange service has to answer
* `schemaValid_normalize_iff`
-/

namespace MipitCore.Normalization

open Js
open Foundation (BinaryFormat)
open scoped Double

/-- In upper case the currency has three units, and if it is not that of the origin rail, the amount
in the currency of the rail is half a cent or more. -/
structure Convertible (runtime : Runtime) (rates : Rates) (c : CanonicalPacs008) : Prop where
  currency : (runtime.toUpperCase c.amount.currency).length = 3
  localAmount : runtime.toUpperCase c.amount.currency ≠ railLocalCurrency c.origin.rail →
    Number.le (toDouble 0.005) (c.amount.value.mul
      (rates.getRate (runtime.toUpperCase c.amount.currency)
        (railLocalCurrency c.origin.rail))) = true

/-! ### Half a cent -/

/-- The double that `0.005` denotes, a little more than half a cent. -/
theorem toDouble_halfCent : toDouble 0.005 = .fin (5764607523034235 / 2 ^ 60) := by decide +kernel

/-- **Half a cent, a hundred times**: the product of a double is rounded to one half or more exactly
if the double is at least `0.005`. -/
theorem half_le_nearest_iff {q : ℚ} (hq : binary64.Representable q) :
    1 / 2 ≤ binary64.nearest (q * 100) ↔ 5764607523034235 / 2 ^ 60 ≤ q := by
  constructor
  · intro h
    by_contra hlt
    have hlt := not_le.mp hlt
    rcases le_or_gt q 0 with hneg | hpos
    · have hnonpos := BinaryFormat.nearest_nonpos (F := binary64) (q := q * 100) (by linarith)
      linarith
    -- the double before it, or what is a little smaller
    have hle : q * 100 ≤ 5764607523034234 / 2 ^ 60 * 100 := by
      rcases lt_or_ge q (1 / 256) with hsmall | hlarge
      · have hfew : (1 : ℚ) / 256 ≤ 5764607523034234 / 2 ^ 60 := by norm_num
        linarith
      · obtain ⟨n, hn⟩ := BinaryFormat.exists_mul_of_representable (F := binary64) (k := -8) hq
          (by rw [abs_of_pos hpos]; exact le_trans (by norm_num) hlarge)
        have hunit : (2 : ℚ) ^ ((-8 : ℤ) + 1 - binary64.precision) = 1 / 2 ^ 60 := by
          change (2 : ℚ) ^ ((-8 : ℤ) + 1 - 53) = _
          norm_num
        rw [hunit] at hn
        have hless : (n : ℚ) < 5764607523034235 := by
          rw [hn] at hlt
          norm_num at hlt ⊢
          linarith
        have hmost : (n : ℚ) ≤ 5764607523034234 := by
          exact_mod_cast Int.lt_add_one_iff.mp (by exact_mod_cast hless)
        rw [hn]
        norm_num
        linarith
    have hbefore : binary64.nearest (5764607523034234 / 2 ^ 60 * 100) < 1 / 2 := by decide +kernel
    have hmono := BinaryFormat.nearest_le_nearest (F := binary64) (by linarith) hle
    linarith
  · intro h
    have hself : (1 : ℚ) / 2 = binary64.nearest (5764607523034235 / 2 ^ 60 * 100) := by
      decide +kernel
    rw [hself]
    exact BinaryFormat.nearest_le_nearest (by norm_num) (by linarith)

theorem isPositive_round_div_hundred (n : Number) :
    (n.round.div (.fin 100)).isPositive = true ↔ Number.le (.fin (1 / 2)) n = true := by
  cases n with
  | nan => exact iff_of_false (by decide) (by decide)
  | inf negative => cases negative <;> decide
  | fin q =>
    have hdiv : (Number.fin q).round.div (.fin 100) = toDouble (Number.roundHalfUp q / 100) := by
      rw [Number.round_fin, Number.div, if_neg (by norm_num)]
      rfl
    rw [hdiv, isPositive_toDouble_iff, show Number.le (.fin (1 / 2)) (.fin q) = true ↔ 1 / 2 ≤ q by
      simp [Number.le, Number.lt], ← Number.roundHalfUp_pos_iff]
    constructor
    · intro h
      have hpos : (0 : ℚ) < Number.roundHalfUp q := by
        have hleast : (0 : ℚ) < 2 ^ (-1075 : ℤ) := zpow_pos (by norm_num) _
        linarith
      exact_mod_cast hpos
    · intro h
      have hone : (1 : ℚ) ≤ Number.roundHalfUp q := by exact_mod_cast h
      have hsmall : (2 : ℚ) ^ (-1075 : ℤ) < 1 / 100 :=
        lt_of_le_of_lt (zpow_le_zpow_right₀ (by norm_num) (by norm_num : (-1075 : ℤ) ≤ -7))
          (by norm_num)
      linarith

/-- **A double is rounded to some cents** exactly from `0.005` up. -/
theorem isPositive_roundCents_iff {n : Number} (hn : n.IsDouble) :
    (roundCents n).isPositive = true ↔ Number.le (toDouble 0.005) n = true := by
  rw [roundCents, isPositive_round_div_hundred, toDouble_halfCent]
  cases n with
  | nan => exact iff_of_false (by decide) (by decide)
  | inf negative => cases negative <;> decide
  | fin q =>
    have hle (p : ℚ) : Number.le (.fin p) (.fin q) = true ↔ p ≤ q := by
      simp [Number.le, Number.lt]
    rw [hle, ← half_le_nearest_iff hn]
    change Number.le (.fin (1 / 2)) (toDouble (q * 100)) = true ↔ _
    rcases lt_or_ge q 0 with hneg | hpos
    · have hnonpos := BinaryFormat.nearest_nonpos (F := binary64) (q := q * 100) (by linarith)
      refine iff_of_false ?_ (by linarith)
      unfold toDouble
      split_ifs
      · simp [Number.le, Number.lt, show q * 100 < 0 by linarith]
      · simp only [Number.le, Number.lt, Bool.not_eq_true', decide_eq_false_iff_not, not_lt]
        linarith
    · have hpos' : 0 ≤ q * 100 := by linarith
      rcases lt_or_ge (binary64.nearest (q * 100)) (2 ^ 1024) with hlt | hlarge
      · rw [toDouble_of_lt hpos' hlt]
        simp [Number.le, Number.lt]
      · rw [toDouble_of_le hpos' hlarge]
        have hone : (1 : ℚ) ≤ 2 ^ 1024 := one_le_pow₀ (by norm_num)
        exact iff_of_true rfl (le_trans (by norm_num) (hone.trans hlarge))

section

variable {runtime : Runtime} {fx : FxService} {rates : Rates} {c : CanonicalPacs008}

theorem length_railLocalCurrency (rail : Rail) : (railLocalCurrency rail).length = 3 := by
  cases rail <;> rfl

theorem length_orElse_le {n : ℕ} {v w : Text} (hv : v.length ≤ n) (hw : w.length ≤ n) :
    (orElse v w).length ≤ n := by
  unfold orElse
  split_ifs
  · exact hw
  · exact hv

/-- **Only the currency and the conversion** can keep a normalized message from being well
formed. -/
theorem wellFormed_normalize_iff (h : c.WellFormed) :
    (normalize runtime fx c).WellFormed ↔
      (runtime.toUpperCase c.amount.currency).length = 3 ∧
        ∀ converted ∈ (normalizeCurrency runtime fx c).fx, converted.WellFormed := by
  have hid : (js "E2E-" ++ runtime.e2eUlid.1).length ≤ 35 := by
    rw [List.length_append, runtime.e2eUlid.2.1]
    decide
  -- everything but the currency and the conversion was checked, or is a constant, or is generated
  rw [normalize_eq]
  constructor
  · exact fun hn => ⟨hn.amount.currency, hn.fx⟩
  · rintro ⟨hcurrency, hfx⟩
    exact {
      h with
      grpHdr := ⟨h.grpHdr.nbOfTxs⟩
      pmtId := { h.pmtId with endToEndId := length_orElse_le h.pmtId.endToEndId hid }
      amount := { h.amount with currency := hcurrency }
      fx := hfx
      purpose := length_orElse_le h.purpose (by decide)
      reference := length_orElse_le h.reference (by decide) }

/-- A rate is positive if it takes an amount to half a cent. -/
theorem isPositive_of_mul {m n : Number} (hm : m.isPositive = true)
    (h : Number.le (toDouble 0.005) (m.mul n) = true) : n.isPositive = true := by
  rw [toDouble_halfCent] at h
  cases m with
  | nan => cases hm
  | inf negative =>
    obtain rfl : negative = false := by simpa [Number.isPositive] using hm
    cases n with
    | nan => cases h
    | inf t =>
      obtain rfl : t = false := by simpa [Number.mul, Number.le, Number.lt] using h
      rfl
    | fin q =>
      rcases lt_trichotomy q 0 with hq | rfl | hq
      · simp [Number.mul, hq.ne, Number.le, Number.lt, hq] at h
      · simp [Number.mul, Number.le] at h
      · simpa using hq
  | fin p =>
    have hp : 0 < p := by simpa using hm
    cases n with
    | nan => cases h
    | inf t =>
      cases t
      · rfl
      · simp [Number.mul, hp.ne', Number.le, Number.lt, not_lt.mpr hp.le] at h
    | fin q =>
      have hproduct : (toDouble (p * q)).isPositive = true := by
        change Number.le _ (toDouble (p * q)) = true at h
        generalize toDouble (p * q) = d at h
        cases d with
        | nan => cases h
        | inf negative => simpa [Number.le, Number.lt, Number.isPositive] using h
        | fin r =>
          have hle : 5764607523034235 / 2 ^ 60 ≤ r := by simpa [Number.le, Number.lt] using h
          have hr : 0 < r := lt_of_lt_of_le (by norm_num) hle
          simpa using hr
      have hleast : (0 : ℚ) < 2 ^ (-1075 : ℤ) := zpow_pos (by norm_num) _
      have hpq : 0 < p * q := hleast.trans (isPositive_toDouble_iff.mp hproduct)
      simpa using (mul_pos_iff_of_pos_left hp).mp hpq

/-- The conversion of a payment in another currency is well formed if it comes to half a cent. -/
theorem wellFormed_fx_iff (hvalue : c.amount.value.isPositive = true)
    (hcurrency : (runtime.toUpperCase c.amount.currency).length = 3)
    (hforeign : runtime.toUpperCase c.amount.currency ≠ railLocalCurrency c.origin.rail) :
    (∀ converted ∈ (normalizeCurrency runtime (.ofTables rates rates) c).fx, converted.WellFormed) ↔
      Number.le (toDouble 0.005) (c.amount.value.mul
        (rates.getRate (runtime.toUpperCase c.amount.currency)
          (railLocalCurrency c.origin.rail))) = true := by
  rw [normalizeCurrency_ofTables _ _ _ _ hforeign]
  constructor
  · intro h
    exact (isPositive_roundCents_iff (isDouble_mul _ _)).mp ((h _ rfl).localAmount _ rfl)
  · rintro h _ ⟨⟩
    -- the source, the target, the rate and the amount
    refine ⟨?_, ?_, ?_, ?_⟩ <;> rintro _ ⟨⟩
    · exact hcurrency
    · exact length_railLocalCurrency _
    · exact isPositive_of_mul hvalue h
    · exact (isPositive_roundCents_iff (isDouble_mul _ _)).mpr h

/-- **Normalization keeps a message valid** exactly if its currency can be written in three units in
upper case, and what it converts comes to half a cent or more, as doubles go. -/
theorem schemaValid_normalize_iff (h : c.SchemaValid) :
    (normalize runtime (.ofTables rates rates) c).SchemaValid ↔ Convertible runtime rates c := by
  have hc := schemaValid_iff.mp h
  rw [schemaValid_iff, wellFormed_normalize_iff hc]
  constructor
  · rintro ⟨hcurrency, hfx⟩
    exact ⟨hcurrency, fun hforeign => (wellFormed_fx_iff hc.amount.value hcurrency hforeign).mp hfx⟩
  · rintro ⟨hcurrency, hamount⟩
    refine ⟨hcurrency, ?_⟩
    -- a payment in the currency of its rail keeps the conversion it came with
    by_cases hforeign : runtime.toUpperCase c.amount.currency = railLocalCurrency c.origin.rail
    · rw [normalizeCurrency_local runtime _ c hforeign]
      exact hc.fx
    · exact (wellFormed_fx_iff hc.amount.value hcurrency hforeign).mpr (hamount hforeign)

end

namespace Example

open Translation.Example (inReais schemaValid_inReais)

/-- A customer of PIX pays in another currency. -/
def foreign (value : ℚ) (currency : String) : CanonicalPacs008 :=
  { inReais with amount := { inReais.amount with value := .fin value, currency := js currency } }

theorem schemaValid_foreign {value : ℚ} {currency : String} (hvalue : 0 < value)
    (hcurrency : (js currency).length = 3) : (foreign value currency).SchemaValid := by
  have h := schemaValid_iff.mp schemaValid_inReais
  refine schemaValid_iff.mpr { h with amount := { h.amount with value := ?_, currency := hcurrency } }
  simpa [foreign] using hvalue

end Example

/-- Ten dollars are a valid payment once they are converted. -/
theorem schemaValid_normalize_dollars :
    (normalize Example.host (.ofTables fallbackRates fallbackRates)
      (Example.foreign 10 "USD")).SchemaValid :=
  (schemaValid_normalize_iff (Example.schemaValid_foreign (by norm_num) (by decide))).mpr
    ⟨by decide +kernel, fun _ => by decide +kernel⟩

/-- A peso comes to no cent of a real: its payment is valid, and is not any more. -/
theorem not_schemaValid_normalize_peso :
    (Example.foreign 1 "COP").SchemaValid ∧ (∀ currency, (fallbackRates currency).isPositive = true) ∧
      ¬ (normalize Example.host (.ofTables fallbackRates fallbackRates)
        (Example.foreign 1 "COP")).SchemaValid := by
  refine ⟨Example.schemaValid_foreign (by norm_num) (by decide), ?_, fun h => ?_⟩
  · rintro (_ | _) <;> decide +kernel
  · have hfx := (schemaValid_iff.mp h).fx _ (normalizeCurrency_ofTables _ _ _ _ (by decide +kernel))
    exact absurd (hfx.localAmount _ rfl) (by decide +kernel)

end MipitCore.Normalization
