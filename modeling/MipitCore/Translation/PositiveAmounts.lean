import MipitCore.Domain.WellFormed
import MipitCore.Js.Rounding
import MipitCore.Translation.Mt103Amount
import MipitCore.Translation.Mt103Text
import MipitCore.Translation.Receiver

/-!
# Amounts of nothing

The schema admits every positive amount, and every encoder rounds the amount that it emits
to cents. An amount below half a cent is emitted as nothing, by all five encoders: none of
them rejects it. FedNow rounds what a conversion leaves of the amount.

## Main definitions

* `Encoder`, `Encoder.amounts` — the numbers that an encoder's amounts denote
* `Encoder.Significant` — at least half a cent, of what the encoder rounds

## Main results

* `text32A_infix` — `:32A:` is a part of the message that is sent
* `amountOf32A` — and ends in the amount
* `emitsPositive_iff`
-/

namespace MipitCore.Translation

open Js
open CodeUnit (ascii)

/-- The encoders. -/
inductive Encoder
  | breB | fednow | iso20022Mx | achNacha | swiftMt103
  deriving DecidableEq, Repr

namespace Encoder

/-- The amount of a field `:32A:`, which follows the date and the currency. -/
def amountOf32A (field : Text) : Number :=
  parseFloat (Text.replaceFirst (js ",") (js ".") (field.drop 9))

/-- What the amounts of the encoder's message denote: texts, of which MT103 has one in a field, and
for ACH a number of cents. -/
def amounts (engine : Engine) (fresh : Fresh) (c : CanonicalPacs008) : Encoder → List Number
  | breB => [parseFloat (canonicalToBreb engine fresh c).original]
  | fednow => [parseFloat (canonicalToFednow fresh c).value]
  | iso20022Mx =>
    let msg := canonicalToIso20022Mx c
    parseFloat msg.intrBkSttlmAmt.value ::
      msg.instdAmt.toList.map fun amount => parseFloat amount.value
  | achNacha => [(canonicalToAchNacha fresh c).entryDetail.amount]
  | swiftMt103 => [amountOf32A (text32A (canonicalToSwiftMt103 c))]

/-- Every amount that the encoder emits is greater than zero. -/
def EmitsPositive (engine : Engine) (fresh : Fresh) (c : CanonicalPacs008) (e : Encoder) : Prop :=
  ∀ n ∈ e.amounts engine fresh c, n.isPositive = true

instance (engine : Engine) (fresh : Fresh) (c : CanonicalPacs008) (e : Encoder) :
    Decidable (e.EmitsPositive engine fresh c) :=
  inferInstanceAs (Decidable (∀ n ∈ e.amounts engine fresh c, n.isPositive = true))

/-- At least half a cent. -/
abbrev HalfCent : Number → Prop := Number.AtLeast (1 / 200)

/-- The payment's amount is at least half a cent. For FedNow that is its amount in dollars: its own,
or the result of a conversion, or else the amount at the rate; for ISO 20022 the instructed amount
too, if there is one. -/
def Significant (c : CanonicalPacs008) : Encoder → Prop
  | fednow =>
    if c.amount.currency = js "USD" then HalfCent c.amount.value
    else match c.fx.bind Fx.localAmount with
      | some localAmount => HalfCent localAmount
      | none => HalfCent (c.amount.value.mul ((c.fx.bind Fx.rate).getD (.fin 1)))
  | iso20022Mx => HalfCent c.amount.value ∧ ∀ instdAmt ∈ c.amount.instdAmt, HalfCent instdAmt
  | breB | achNacha | swiftMt103 => HalfCent c.amount.value

end Encoder

open Encoder

section

variable {engine : Engine} {fresh : Fresh} {c : CanonicalPacs008}

/-! ### FedNow -/

theorem isPositive_getD {o : Option Number} (h : IsPositive? o) :
    (o.getD (.fin 1)).isPositive = true := by
  cases o with
  | none => rfl
  | some n => exact h n rfl

theorem isPositive?_bind {o : Option Fx} {f : Fx → Option Number}
    (h : ∀ fx ∈ o, IsPositive? (f fx)) : IsPositive? (o.bind f) := by
  cases o with
  | none => exact fun _ hn => nomatch hn
  | some fx => exact h fx rfl

/-- The dollars of a message are positive before they are rounded. -/
theorem isPositive_fednowAmount (h : c.WellFormed) : (fednowAmount c).isPositive = true := by
  have hlocal : IsPositive? (c.fx.bind Fx.localAmount) :=
    isPositive?_bind fun fx hfx => (h.fx fx hfx).localAmount
  have hrate : IsPositive? (c.fx.bind Fx.rate) :=
    isPositive?_bind fun fx hfx => (h.fx fx hfx).rate
  unfold fednowAmount
  split_ifs
  · exact h.amount.value
  · cases hamount : c.fx.bind Fx.localAmount with
    | some localAmount => exact hlocal localAmount hamount
    | none => exact Number.isPositive_mul h.amount.value (isPositive_getD hrate)

theorem significant_fednow : Significant c .fednow ↔ HalfCent (fednowAmount c) := by
  unfold Significant fednowAmount
  split_ifs
  · exact Iff.rfl
  · cases c.fx.bind Fx.localAmount <;> exact Iff.rfl

/-! ### MT103 -/

/-- `:32A:` is a part of the message that is sent. -/
theorem text32A_infix (msg : SwiftMt103Message) :
    js ":32A:" ++ text32A msg <:+: serializeMt103 msg := by
  have hfield : fieldText ("32A", text32A msg) = js ":32A:" ++ text32A msg :=
    (js_tagged "32A" ":32A:" (by simp) _).symm
  rw [serializeMt103_eq, ← hfield]
  have hmem : fieldText ("32A", text32A msg) ∈ (mt103Fields msg).map fieldText :=
    List.mem_map_of_mem (by simp [mt103Fields])
  have hbody := (Text.infix_join (ascii '\n') hmem).trans (List.suffix_cons (ascii '\n') _).isInfix
  exact (hbody.trans (List.prefix_append _ _).isInfix).trans (List.suffix_append _ _).isInfix

/-- **The field ends in the amount**, after six digits of the date and three of the currency. -/
theorem amountOf32A_eq (h : c.WellFormed) :
    amountOf32A (text32A (canonicalToSwiftMt103 c)) = parseFloat (c.amount.value.toFixed 2) := by
  have hdate : (c.createdAt.1.slice 0 10) = c.createdAt.1.take 10 := rfl
  obtain ⟨-, hlength⟩ := isDigits_dateDigits c.createdAt.isDateText_take
  -- the amount starts behind the ninth unit
  have hnine : (dateDigits (c.createdAt.1.take 10) ++ c.amount.currency).length = 9 := by
    rw [List.length_append, hlength, h.amount.currency]
  have hdrop : (text32A (canonicalToSwiftMt103 c)).drop 9 = amountText c.amount.value := by
    rw [text32A_eq, ← hnine]
    exact List.drop_left
  rw [amountOf32A, hdrop, amountText,
    replaceFirst_replaceFirst (comma_notMem_toFixed h.amount.value 2)]

/-! ### All encoders -/

/-- **An encoder emits positive amounts only** exactly if what it rounds is at least half a cent. -/
theorem emitsPositive_iff (h : c.SchemaValid) (e : Encoder) :
    e.EmitsPositive engine fresh c ↔ e.Significant c := by
  have hformed := schemaValid_iff.mp h
  have hvalue := hformed.amount.value
  have htext : (parseFloat (c.amount.value.toFixed 2)).isPositive = true ↔
      HalfCent c.amount.value := isPositive_parseFloat_toFixed_two hvalue
  unfold EmitsPositive
  cases e with
  | breB => exact List.forall_mem_singleton.trans htext
  | fednow =>
    rw [significant_fednow]
    exact List.forall_mem_singleton.trans
      (isPositive_parseFloat_toFixed_two (isPositive_fednowAmount hformed))
  | iso20022Mx =>
    -- the instructed amount is emitted only where there is one, and is rounded by itself
    refine List.forall_mem_cons.trans (and_congr htext ?_)
    cases hinstd : c.amount.instdAmt with
    | none => simp [canonicalToIso20022Mx, hinstd]
    | some instdAmt =>
      have hpositive := hformed.amount.instdAmt instdAmt hinstd
      have hread : (parseFloat (instdAmt.toFixed 2)).isPositive = true ↔ HalfCent instdAmt :=
        isPositive_parseFloat_toFixed_two hpositive
      simpa [canonicalToIso20022Mx, hinstd, filter_truthy hpositive] using hread
  | achNacha =>
    -- cents are a whole number, and not a text that is read again
    exact List.forall_mem_singleton.trans Number.isPositive_round_iff
  | swiftMt103 =>
    have hamount := amountOf32A_eq hformed
    refine List.forall_mem_singleton.trans ?_
    rw [hamount]
    exact htext

end

/-- A hundred reais are emitted as a positive amount of dollars. -/
theorem emitsPositive_inReais :
    EmitsPositive Example.passage.engine Example.fresh Example.inReais .fednow :=
  (emitsPositive_iff Example.schemaValid_inReais .fednow).mpr
    (significant_fednow.mpr (by decide +kernel))

namespace Example

/-- A tenth of a cent. -/
def tiny : CanonicalPacs008 := { inReais with amount := { inReais.amount with value := .fin (1 / 1000) } }

theorem schemaValid_tiny : tiny.SchemaValid :=
  schemaValid_iff.mpr { schemaValid_iff.mp schemaValid_inReais with
    amount := ⟨by decide +kernel, by decide, by decide, by decide⟩ }

end Example

/-- A tenth of a cent is emitted as nothing, by all encoders. -/
theorem tiny_emitted_as_nothing :
    Example.tiny.SchemaValid ∧
      (canonicalToBreb Example.passage.engine Example.fresh Example.tiny).original = js "0.00" ∧
      ∀ e : Encoder, ¬ e.EmitsPositive Example.passage.engine Example.fresh Example.tiny := by
  refine ⟨Example.schemaValid_tiny, by decide +kernel, fun e => ?_⟩
  cases e <;> decide +kernel

end MipitCore.Translation
