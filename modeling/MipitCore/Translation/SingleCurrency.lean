import MipitCore.Translation.AchNacha
import MipitCore.Translation.CreditorKey

/-!
# Encoders of rails with one currency

FedNow and ACH settle in dollars, Bre-B in Colombian pesos. Each encoder says so of the
amount that it emits. What the amount is to be is the payment's own, in that currency,
or else the result of the conversion into that currency (`dueAmount`); a payment with
neither is to be rejected. No encoder rejects a payment.

## Main definitions

* `SingleCurrencyRail`, `emittedAmount` — the amount as its encoder emits it
* `dueAmount`, `EmitsDue`

## Main results

* `emitsDue_iff`
-/

namespace MipitCore.Translation

open Js

/-- The rails that settle in one currency. -/
inductive SingleCurrencyRail
  | fednow | achNacha | breB
  deriving DecidableEq, Repr

namespace SingleCurrencyRail

/-- The currency that the rail settles in. -/
def currency : SingleCurrencyRail → Text
  | fednow => js "USD"
  | achNacha => js "USD"
  | breB => js "COP"

/-- How the rail writes an amount, rounded to two decimals: as text, or in cents. -/
def write : SingleCurrencyRail → Number → Text ⊕ Number
  | fednow, amount => .inl (amount.toFixed 2)
  | achNacha, amount => .inr (amount.mul (.fin 100)).round
  | breB, amount => .inl (amount.toFixed 2)

/-- The amount that the rail's encoder emits. -/
def emittedAmount (engine : Engine) (fresh : Fresh) (c : CanonicalPacs008) :
    SingleCurrencyRail → Text ⊕ Number
  | fednow => .inl (canonicalToFednow fresh c).value
  | achNacha => .inr (canonicalToAchNacha fresh c).entryDetail.amount
  | breB => .inl (canonicalToBreb engine fresh c).original

end SingleCurrencyRail

/-- What a conversion makes of an amount: its result where it says it, and else its rate's. -/
def Fx.converted (fx : Fx) (value : Number) : Option Number :=
  fx.localAmount.or (fx.rate.map value.mul)

/-- The payment's amount in `currency`, if it has one: its own, or that of its conversion. -/
def dueAmount (currency : Text) (c : CanonicalPacs008) : Option Number :=
  if c.amount.currency = currency then some c.amount.value
  else (c.fx.filter fun fx => fx.targetCurrency = some currency).bind fun fx =>
    Fx.converted fx c.amount.value

/-- The encoder emits the payment's amount in the rail's currency; it rejects no payment, so that
the payment has to have one. -/
def EmitsDue (engine : Engine) (fresh : Fresh) (rail : SingleCurrencyRail) (c : CanonicalPacs008) :
    Prop :=
  ∃ amount, dueAmount rail.currency c = some amount ∧
    rail.emittedAmount engine fresh c = rail.write amount

/-- What an encoder writes, which depends on the rail. -/
def encodedAmount (rail : SingleCurrencyRail) (c : CanonicalPacs008) : Number :=
  match rail with
  | .fednow => fednowAmount c
  | .achNacha | .breB => c.amount.value

section

variable {engine : Engine} {fresh : Fresh} {rail : SingleCurrencyRail} {c : CanonicalPacs008}

theorem emittedAmount_eq :
    rail.emittedAmount engine fresh c = rail.write (encodedAmount rail c) := by
  cases rail <;> rfl

/-- The condition under which an encoder does not relabel money. -/
def Labelled (rail : SingleCurrencyRail) (c : CanonicalPacs008) : Prop :=
  c.amount.currency = rail.currency ∨
    ∃ fx amount, c.fx = some fx ∧ fx.targetCurrency = some rail.currency ∧
      Fx.converted fx c.amount.value = some amount ∧
      match rail with
      | .fednow => True
      | rail => rail.write amount = rail.write c.amount.value

theorem dueAmount_own (h : c.amount.currency = rail.currency) :
    dueAmount rail.currency c = some c.amount.value := if_pos h

/-- A payment in another currency has an amount in the rail's exactly if it has a conversion into
it. -/
theorem dueAmount_eq_some (h : c.amount.currency ≠ rail.currency) {amount : Number} :
    dueAmount rail.currency c = some amount ↔
      ∃ fx, c.fx = some fx ∧ fx.targetCurrency = some rail.currency ∧
        Fx.converted fx c.amount.value = some amount := by
  rw [dueAmount, if_neg h, Option.bind_eq_some_iff]
  constructor
  · intro hdue
    obtain ⟨fx, hfx, hamount⟩ := hdue
    obtain ⟨hfx, htarget⟩ := Option.filter_eq_some_iff.mp hfx
    exact ⟨fx, hfx, of_decide_eq_true htarget, hamount⟩
  · intro hdue
    obtain ⟨fx, hfx, htarget, hamount⟩ := hdue
    exact ⟨fx, Option.filter_eq_some_iff.mpr ⟨hfx, decide_eq_true htarget⟩, hamount⟩

/-- FedNow takes what a conversion makes of the amount, whichever currency it is into. -/
theorem fednowAmount_converted {fx : Fx} {amount : Number} (h : c.amount.currency ≠ js "USD")
    (hfx : c.fx = some fx) (hamount : Fx.converted fx c.amount.value = some amount) :
    fednowAmount c = amount := by
  rw [fednowAmount, if_neg h, hfx, Option.bind_some, Option.bind_some]
  unfold Fx.converted at hamount
  cases hlocal : fx.localAmount with
  | some localAmount =>
    rw [hlocal, Option.some_or] at hamount
    exact Option.some.inj hamount
  | none =>
    rw [hlocal, Option.none_or, Option.map_eq_some_iff] at hamount
    obtain ⟨rate, hrate, rfl⟩ := hamount
    rw [hrate, Option.getD_none, Option.getD_some]

/-- The two conditions on a payment in the rail's own currency. -/
theorem encodedAmount_own (h : c.amount.currency = rail.currency) :
    encodedAmount rail c = c.amount.value := by
  cases rail with
  | fednow => exact if_pos h
  | achNacha | breB => rfl

/-- **An encoder emits the amount in its rail's currency** exactly if the payment is in that
currency, or has a conversion into it, whose result FedNow takes and the others write the payment's
own amount for. -/
theorem emitsDue_iff : EmitsDue engine fresh rail c ↔ Labelled rail c := by
  rw [EmitsDue, Labelled, emittedAmount_eq]
  by_cases hown : c.amount.currency = rail.currency
  · refine iff_of_true ⟨c.amount.value, dueAmount_own hown, ?_⟩ (Or.inl hown)
    rw [encodedAmount_own hown]
  · constructor
    · intro hemits
      obtain ⟨amount, hdue, hemitted⟩ := hemits
      obtain ⟨fx, hfx, htarget, hamount⟩ := (dueAmount_eq_some hown).mp hdue
      refine Or.inr ⟨fx, amount, hfx, htarget, hamount, ?_⟩
      cases rail with
      | fednow => trivial
      | achNacha | breB => exact hemitted.symm
    · intro hlabelled
      obtain ⟨fx, amount, hfx, htarget, hamount, hwrite⟩ := hlabelled.resolve_left hown
      refine ⟨amount, (dueAmount_eq_some hown).mpr ⟨fx, hfx, htarget, hamount⟩, ?_⟩
      cases rail with
      | fednow =>
        change SingleCurrencyRail.write .fednow (fednowAmount c) = _
        rw [fednowAmount_converted hown hfx hamount]
      | achNacha | breB => exact hwrite.symm

end

/-! ### Reais to FedNow -/

namespace Example

/-- A hundred reais, with nothing known of an exchange rate. -/
def inReais : CanonicalPacs008 :=
  requestCanonical pixRequest passage.engine fresh Pipeline.Example.request
    (paymentIdOf Pipeline.Example.ulid) none (js "bob")

theorem schemaValid_inReais : inReais.SchemaValid := by
  have hdecodes : inReais.Decodes (requestFields pixRequest passage.engine fresh
      Pipeline.Example.request (paymentIdOf Pipeline.Example.ulid) none (js "bob")) :=
    requestFields_decodes ⟨rfl, rfl⟩ (isPaymentId_paymentIdOf _) rfl
  exact ⟨_, canonicalPacs008Schema_eq_some.mpr ⟨_, rfl, hdecodes⟩⟩

end Example

/-- A hundred reais become a hundred dollars. -/
theorem reais_as_dollars :
    Example.inReais.SchemaValid ∧
      (canonicalToFednow Example.fresh Example.inReais).value = js "100.00" ∧
      ¬ EmitsDue Example.passage.engine Example.fresh .fednow Example.inReais := by
  refine ⟨Example.schemaValid_inReais, by decide +kernel, ?_⟩
  rintro ⟨amount, hdue, -⟩
  have hnone : dueAmount (js "USD") Example.inReais = none := rfl
  cases hnone.symm.trans hdue

end MipitCore.Translation
