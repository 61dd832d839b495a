import MipitCore.Domain.WellFormed

/-!
# When an object is accepted

A schema reads the properties of an object one by one, so an object is accepted exactly if
each of its parts is, and a part exactly if each of its properties is. The properties that a
translation writes are texts and numbers that may be absent, of which the schema checks a
length or a sign.

## Main definitions

* `FitsAddress` — the lines of an address that the schema takes

## Main results

* `exists_decodes_iff` — an object is accepted if its parts are
* `isSome_grpHdrSchema`, `isSome_amountSchema`, … — the parts
* `isSome_textUpTo_ofText?`, … — the properties
-/

namespace MipitCore

open Js

/-! ### Properties -/

namespace Js.Schema

variable {n : ℕ}

@[simp] theorem isSome_textUpTo_string {s : Text} :
    ((Schema.textUpTo n) (.string s)).isSome = true ↔ s.length ≤ n := by
  rw [Schema.textUpTo_string]
  split <;> simp_all

@[simp] theorem isSome_textOfLength_string {s : Text} :
    ((Schema.textOfLength n) (.string s)).isSome = true ↔ s.length = n := by
  rw [Schema.textOfLength_string]
  split <;> simp_all

@[simp] theorem isSome_positiveNumber_number {a : Number} :
    (Schema.positiveNumber (.number a)).isSome = true ↔ a.isPositive = true := by
  rw [Schema.positiveNumber_number]
  split <;> simp_all

/-- An optional text is accepted if it is absent or its schema accepts it. -/
theorem isSome_optional_ofText? {s : Schema Text} {o : Option Text} :
    (s.optional (JsValue.ofText? o)).isSome = true ↔ ∀ t ∈ o, (s (.string t)).isSome = true := by
  cases o with
  | none => simp [JsValue.ofText?]
  | some t => simp [JsValue.ofText?]

@[simp] theorem isSome_string_ofText? {o : Option Text} :
    (Schema.string.optional (JsValue.ofText? o)).isSome = true := by
  rw [isSome_optional_ofText?]
  exact fun _ _ => rfl

@[simp] theorem isSome_textUpTo_ofText? {o : Option Text} :
    ((Schema.textUpTo n).optional (JsValue.ofText? o)).isSome = true ↔ FitsIn n o := by
  rw [isSome_optional_ofText?]
  exact forall₂_congr fun _ _ => isSome_textUpTo_string

@[simp] theorem isSome_textOfLength_ofText? {o : Option Text} :
    ((Schema.textOfLength n).optional (JsValue.ofText? o)).isSome = true ↔ HasLength n o := by
  rw [isSome_optional_ofText?]
  exact forall₂_congr fun _ _ => isSome_textOfLength_string

@[simp] theorem isSome_positiveNumber_ofNumber? {o : Option Number} :
    (Schema.positiveNumber.optional (JsValue.ofNumber? o)).isSome = true ↔ IsPositive? o := by
  cases o with
  | none => simp [JsValue.ofNumber?, IsPositive?]
  | some a => simp [JsValue.ofNumber?, IsPositive?]

@[simp] theorem isSome_datetime {s : Text} :
    ((Schema.string.refine fun s => isDatetime s = true) (.string s)).isSome = true ↔
      isDatetime s = true := by
  rw [Schema.refine, Schema.string_string, Option.bind_some]
  split <;> simp_all

end Js.Schema

/-- The lines of an address that the schema takes. -/
def FitsAddress (address : Option (List Text)) : Prop :=
  ∀ lines ∈ address, lines.length ≤ 4 ∧ ∀ line ∈ lines, line.length ≤ 70

instance decidableFitsAddress (address : Option (List Text)) : Decidable (FitsAddress address) :=
  inferInstanceAs
    (Decidable (∀ lines ∈ address, lines.length ≤ 4 ∧ ∀ line ∈ lines, line.length ≤ 70))

theorem isSome_address {address : Option (List Text)} :
    (((Schema.array (Schema.textUpTo 70)).check fun l => l.length ≤ 4).optional
      (JsValue.ofTexts? address)).isSome = true ↔ FitsAddress address := by
  cases address with
  | none => simp [JsValue.ofTexts?, FitsAddress]
  | some lines =>
    have hoptional : ((Schema.array (Schema.textUpTo 70)).check fun l => l.length ≤ 4).optional
        (JsValue.ofTexts? (some lines)) = (((Schema.array (Schema.textUpTo 70)).check
          fun l => l.length ≤ 4) (JsValue.ofTexts? (some lines))).map some := rfl
    rw [hoptional, Option.isSome_map]
    constructor
    · intro h
      obtain ⟨lines', hlines⟩ := Option.isSome_iff_exists.mp h
      obtain ⟨harray, hcount⟩ := Option.filter_eq_some_iff.mp hlines
      -- what was decoded are the lines themselves
      have heq : some lines = some lines' := JsValue.ofTexts?_inj.mp (Schema.array_text harray)
      obtain rfl := Option.some.inj heq
      rintro _ ⟨⟩
      exact ⟨of_decide_eq_true hcount, length_of_array harray⟩
    · intro h
      obtain ⟨hcount, hlengths⟩ := h lines rfl
      rw [JsValue.ofTexts?, Schema.check, array_ofTexts hlengths, Option.filter_some,
        if_pos (decide_eq_true hcount)]
      rfl

/-! ### Parts -/

section Parts

variable {part : List (String × JsValue)}

theorem isSome_grpHdrSchema : (grpHdrSchema (.object part)).isSome = true ↔
    (Schema.string.field "msgId" part).isSome = true ∧
    ((Schema.string.refine fun s => isDatetime s = true).field "creDtTm" part).isSome = true ∧
    ((positiveInt.default (.fin 1)).field "nbOfTxs" part).isSome = true ∧
    (sttlmInfSchema.optional.field "sttlmInf" part).isSome = true := by
  simp [grpHdrSchema, Option.isSome_iff_exists, Option.bind_eq_some_iff]

theorem isSome_pmtIdSchema : (pmtIdSchema (.object part)).isSome = true ↔
    ((Schema.textUpTo 35).field "endToEndId" part).isSome = true ∧
    ((Schema.textUpTo 35).optional.field "instrId" part).isSome = true ∧
    ((Schema.textUpTo 35).optional.field "txId" part).isSome = true := by
  simp [pmtIdSchema, Option.isSome_iff_exists, Option.bind_eq_some_iff]

theorem isSome_amountSchema : (amountSchema (.object part)).isSome = true ↔
    (Schema.positiveNumber.field "value" part).isSome = true ∧
    ((Schema.textOfLength 3).field "currency" part).isSome = true ∧
    (Schema.positiveNumber.optional.field "instdAmt" part).isSome = true ∧
    ((Schema.textOfLength 3).optional.field "instdAmtCcy" part).isSome = true := by
  simp [amountSchema, Option.isSome_iff_exists, Option.bind_eq_some_iff]

theorem isSome_fxSchema : (fxSchema (.object part)).isSome = true ↔
    ((Schema.textOfLength 3).optional.field "source_currency" part).isSome = true ∧
    ((Schema.textOfLength 3).optional.field "target_currency" part).isSome = true ∧
    (Schema.positiveNumber.optional.field "rate" part).isSome = true ∧
    (Schema.positiveNumber.optional.field "local_amount" part).isSome = true := by
  simp [fxSchema, Option.isSome_iff_exists, Option.bind_eq_some_iff]

theorem isSome_agentSchema {ρ : Type} {rail : Schema ρ} :
    (agentSchema rail (.object part)).isSome = true ↔
      (rail.field "rail" part).isSome = true ∧
      ((Schema.textUpTo 11).optional.field "bic" part).isSome = true ∧
      ((Schema.textOfLength 9).optional.field "routingNumber" part).isSome = true ∧
      ((Schema.textOfLength 8).optional.field "ispb" part).isSome = true ∧
      ((Schema.textUpTo 5).optional.field "institutionCode" part).isSome = true := by
  simp [agentSchema, Option.isSome_iff_exists, Option.bind_eq_some_iff]

theorem isSome_partySchema : (partySchema (.object part)).isSome = true ↔
    ((Schema.textUpTo 140).optional.field "name" part).isSome = true ∧
    ((Schema.textOfLength 2).optional.field "country" part).isSome = true ∧
    (Schema.string.field "account_id" part).isSome = true ∧
    (Schema.string.optional.field "taxId" part).isSome = true ∧
    ((Schema.enumeration accountTypeNames).optional.field "accountType" part).isSome = true ∧
    (Schema.string.optional.field "agencia" part).isSome = true ∧
    (Schema.string.optional.field "email" part).isSome = true ∧
    (Schema.string.optional.field "phone" part).isSome = true ∧
    (((Schema.array (Schema.textUpTo 70)).check fun l => l.length ≤ 4).optional.field
      "address" part).isSome = true := by
  simp [partySchema, Option.isSome_iff_exists, Option.bind_eq_some_iff]

theorem isSome_aliasSchema : (aliasSchema (.object part)).isSome = true ↔
    ((Schema.enumeration aliasTypeNames).field "type" part).isSome = true ∧
    (Schema.string.field "value" part).isSome = true := by
  simp [aliasSchema, Option.isSome_iff_exists, Option.bind_eq_some_iff]

end Parts

/-- **An object is accepted exactly if its parts are.** -/
theorem exists_decodes_iff {fields : List (String × JsValue)} :
    (∃ c : CanonicalPacs008, c.Decodes fields) ↔
      ((Schema.string.check isPaymentId).field "payment_id" fields).isSome = true ∧
      ((Schema.string.refine fun s => isDatetime s = true).field "created_at" fields).isSome = true ∧
      (grpHdrSchema.field "grpHdr" fields).isSome = true ∧
      (pmtIdSchema.field "pmtId" fields).isSome = true ∧
      (amountSchema.field "amount" fields).isSome = true ∧
      (fxSchema.optional.field "fx" fields).isSome = true ∧
      ((agentSchema (Schema.enumeration railNames)).field "origin" fields).isSome = true ∧
      ((agentSchema (Schema.enumeration railNames).optional).field "destination" fields).isSome =
        true ∧
      (partySchema.field "debtor" fields).isSome = true ∧
      (partySchema.field "creditor" fields).isSome = true ∧
      (aliasSchema.field "alias" fields).isSome = true ∧
      (((Schema.textUpTo 35).default (js "P2P")).field "purpose" fields).isSome = true ∧
      (((Schema.textUpTo 140).default (js "MIPIT-POC")).field "reference" fields).isSome = true ∧
      ((Schema.textUpTo 140).optional.field "remittanceInfo" fields).isSome = true ∧
      (Schema.string.field "status" fields).isSome = true ∧
      (Schema.string.optional.field "trace_id" fields).isSome = true ∧
      (railAckSchema.nullable.optional.field "rail_ack" fields).isSome = true := by
  constructor
  · rintro ⟨c, d⟩
    simp [d.paymentId, d.createdAt, d.grpHdr, d.pmtId, d.amount, d.fx, d.origin, d.destination,
      d.debtor, d.creditor, d.alias, d.purpose, d.reference, d.remittanceInfo, d.status, d.traceId,
      d.railAck]
  · simp only [Option.isSome_iff_exists]
    rintro ⟨⟨_, h₁⟩, ⟨_, h₂⟩, ⟨_, h₃⟩, ⟨_, h₄⟩, ⟨_, h₅⟩, ⟨_, h₆⟩, ⟨_, h₇⟩, ⟨_, h₈⟩, ⟨_, h₉⟩, ⟨_, h₁₀⟩,
      ⟨_, h₁₁⟩, ⟨_, h₁₂⟩, ⟨_, h₁₃⟩, ⟨_, h₁₄⟩, ⟨_, h₁₅⟩, ⟨_, h₁₆⟩, ⟨_, h₁₇⟩⟩
    exact ⟨⟨_, _, _, _, _, _, _, _, _, _, _, _, _, _, _, _, _⟩,
      h₁, h₂, h₃, h₄, h₅, h₆, h₇, h₈, h₉, h₁₀, h₁₁, h₁₂, h₁₃, h₁₄, h₁₅, h₁₆, h₁₇⟩

end MipitCore
