import MipitCore.Domain.Canonical

/-!
# What an accepted object holds

The schema changes nothing that it accepts: the parts of a canonical message are the
properties of the object that was decoded. A translation can therefore be read off the
object that a decoder makes.

## Main definitions

* `GroupHeader.Holds`, `PaymentIdentification.Holds`, `Amount.Holds`, `Fx.Holds`,
  `Agent.Holds`, `Party.Holds`, `Alias.Holds` — the properties of an object are those of a part

## Main results

* `Decodes.grpHdr_holds`, `Decodes.debtor_holds`, … — each part of an accepted object
* `Decodes.withCreatedAt` — an object of another time is the message of that time
* `SchemaValid.isPaymentId`, `SchemaValid.length_purpose` — what was checked
-/

namespace MipitCore

open Js

/-- The properties of a group header. -/
structure GroupHeader.Holds (grpHdr : GroupHeader) (fields : List (String × JsValue)) : Prop where
  msgId : JsValue.field "msgId" fields = .string grpHdr.msgId
  creDtTm : JsValue.field "creDtTm" fields = .string grpHdr.creDtTm.1
  sttlmInf : sttlmInfSchema.optional.field "sttlmInf" fields = some grpHdr.sttlmInf

/-- The properties of the identifiers of a payment. -/
structure PaymentIdentification.Holds (pmtId : PaymentIdentification)
    (fields : List (String × JsValue)) : Prop where
  endToEndId : JsValue.field "endToEndId" fields = .string pmtId.endToEndId
  instrId : JsValue.field "instrId" fields = JsValue.ofText? pmtId.instrId
  txId : JsValue.field "txId" fields = JsValue.ofText? pmtId.txId

/-- The properties of an amount. -/
structure Amount.Holds (amount : Amount) (fields : List (String × JsValue)) : Prop where
  value : JsValue.field "value" fields = .number amount.value
  isPositive : amount.value.isPositive = true
  currency : JsValue.field "currency" fields = .string amount.currency
  instdAmt : JsValue.field "instdAmt" fields = JsValue.ofNumber? amount.instdAmt
  instdAmt_isPositive : ∀ n ∈ amount.instdAmt, n.isPositive = true
  instdAmtCcy : JsValue.field "instdAmtCcy" fields = JsValue.ofText? amount.instdAmtCcy

/-- The properties of a conversion. -/
structure Fx.Holds (fx : Fx) (fields : List (String × JsValue)) : Prop where
  rate : JsValue.field "rate" fields = JsValue.ofNumber? fx.rate
  rate_isPositive : ∀ n ∈ fx.rate, n.isPositive = true

/-- The properties of an agent, but for its rail. -/
structure Agent.Holds {ρ : Type} (agent : Agent ρ) (fields : List (String × JsValue)) : Prop where
  bic : JsValue.field "bic" fields = JsValue.ofText? agent.bic
  routingNumber : JsValue.field "routingNumber" fields = JsValue.ofText? agent.routingNumber
  ispb : JsValue.field "ispb" fields = JsValue.ofText? agent.ispb

/-- The properties of a party. -/
structure Party.Holds (party : Party) (fields : List (String × JsValue)) : Prop where
  name : JsValue.field "name" fields = JsValue.ofText? party.name
  country : JsValue.field "country" fields = JsValue.ofText? party.country
  accountId : JsValue.field "account_id" fields = .string party.accountId
  taxId : JsValue.field "taxId" fields = JsValue.ofText? party.taxId
  accountType : (Schema.enumeration accountTypeNames).optional.field "accountType" fields =
    some party.accountType
  address : JsValue.field "address" fields = JsValue.ofTexts? party.address

/-- The properties of an alias. -/
structure Alias.Holds («alias» : Alias) (fields : List (String × JsValue)) : Prop where
  type : (Schema.enumeration aliasTypeNames).field "type" fields = some «alias».type
  value : JsValue.field "value" fields = .string «alias».value

/-! ### The schemas of the parts -/

section

variable {key : String} {n : ℕ} {fields : List (String × JsValue)}

theorem field_text {t : Text} (h : Schema.string.field key fields = some t) :
    JsValue.field key fields = .string t :=
  Schema.string_eq_some.mp h

theorem field_optionalText {o : Option Text} (h : Schema.string.optional.field key fields = some o) :
    JsValue.field key fields = JsValue.ofText? o :=
  Schema.optional_text (fun _ => Schema.string_eq_some.mp) h

theorem field_optionalTextUpTo {o : Option Text}
    (h : (Schema.textUpTo n).optional.field key fields = some o) :
    JsValue.field key fields = JsValue.ofText? o :=
  Schema.optional_text (fun _ ht => (Schema.textUpTo_eq_some.mp ht).1) h

theorem field_optionalTextOfLength {o : Option Text}
    (h : (Schema.textOfLength n).optional.field key fields = some o) :
    JsValue.field key fields = JsValue.ofText? o :=
  Schema.optional_text (fun _ ht => (Schema.textOfLength_eq_some.mp ht).1) h

theorem field_datetime {d : Datetime}
    (h : (Schema.string.refine fun s => isDatetime s = true).field key fields = some d) :
    JsValue.field key fields = .string d.1 :=
  Schema.string_eq_some.mp (Schema.refine_eq_some.mp h)

theorem GroupHeader.holds {v : JsValue} {grpHdr : GroupHeader}
    (h : grpHdrSchema v = some grpHdr) : ∃ fields, v = .object fields ∧ grpHdr.Holds fields := by
  obtain ⟨fields, rfl, d⟩ := GroupHeader.decodes h
  exact ⟨fields, rfl, field_text d.msgId, field_datetime d.creDtTm, d.sttlmInf⟩

theorem PaymentIdentification.holds {v : JsValue} {pmtId : PaymentIdentification}
    (h : pmtIdSchema v = some pmtId) : ∃ fields, v = .object fields ∧ pmtId.Holds fields := by
  obtain ⟨fields, rfl, d⟩ := PaymentIdentification.decodes h
  exact ⟨fields, rfl, (Schema.textUpTo_eq_some.mp d.endToEndId).1, field_optionalTextUpTo d.instrId,
    field_optionalTextUpTo d.txId⟩

theorem Amount.holds {v : JsValue} {amount : Amount} (h : amountSchema v = some amount) :
    ∃ fields, v = .object fields ∧ amount.Holds fields := by
  obtain ⟨fields, rfl, d⟩ := Amount.decodes h
  obtain ⟨hvalue, hpositive⟩ := Schema.positiveNumber_eq_some.mp d.value
  obtain ⟨hinstdAmt, hinstdPositive⟩ := Schema.optional_positiveNumber d.instdAmt
  exact ⟨fields, rfl, hvalue, hpositive, (Schema.textOfLength_eq_some.mp d.currency).1, hinstdAmt,
    hinstdPositive, field_optionalTextOfLength d.instdAmtCcy⟩

theorem Fx.holds {v : JsValue} {fx : Fx} (h : fxSchema v = some fx) :
    ∃ fields, v = .object fields ∧ fx.Holds fields := by
  obtain ⟨fields, rfl, d⟩ := Fx.decodes h
  obtain ⟨hrate, hpositive⟩ := Schema.optional_positiveNumber d.rate
  exact ⟨fields, rfl, hrate, hpositive⟩

theorem Agent.holds {ρ : Type} {rail : Schema ρ} {v : JsValue} {agent : Agent ρ}
    (h : agentSchema rail v = some agent) : ∃ fields, v = .object fields ∧ agent.Holds fields := by
  obtain ⟨fields, rfl, d⟩ := Agent.decodes h
  exact ⟨fields, rfl, field_optionalTextUpTo d.bic, field_optionalTextOfLength d.routingNumber,
    field_optionalTextOfLength d.ispb⟩

theorem address_holds {v : JsValue} {address : Option (List Text)}
    (h : ((Schema.array (Schema.textUpTo n)).check fun l => l.length ≤ 4).optional v = some address) :
    v = JsValue.ofTexts? address := by
  rcases Schema.optional_eq_some h with ⟨rfl, rfl⟩ | ⟨lines, hlines, rfl⟩
  · rfl
  · exact Schema.array_text (Option.filter_eq_some_iff.mp hlines).1

theorem Party.holds {v : JsValue} {party : Party} (h : partySchema v = some party) :
    ∃ fields, v = .object fields ∧ party.Holds fields := by
  obtain ⟨fields, rfl, d⟩ := Party.decodes h
  exact ⟨fields, rfl, field_optionalTextUpTo d.name, field_optionalTextOfLength d.country,
    field_text d.accountId, field_optionalText d.taxId, d.accountType, address_holds d.address⟩

theorem Alias.holds {v : JsValue} {«alias» : Alias} (h : aliasSchema v = some «alias») :
    ∃ fields, v = .object fields ∧ «alias».Holds fields := by
  obtain ⟨fields, rfl, d⟩ := Alias.decodes h
  exact ⟨fields, rfl, d.type, field_text d.value⟩

end

/-! ### The parts of an accepted object -/

namespace CanonicalPacs008.Decodes

variable {fields part : List (String × JsValue)} {c : CanonicalPacs008}

theorem createdAt_holds (d : c.Decodes fields) :
    JsValue.field "created_at" fields = .string c.createdAt.1 :=
  field_datetime d.createdAt

theorem grpHdr_holds (d : c.Decodes fields) (h : JsValue.field "grpHdr" fields = .object part) :
    c.grpHdr.Holds part := by
  obtain ⟨part', hpart, hholds⟩ := GroupHeader.holds d.grpHdr
  obtain rfl := JsValue.object.inj (h.symm.trans hpart)
  exact hholds

theorem pmtId_holds (d : c.Decodes fields) (h : JsValue.field "pmtId" fields = .object part) :
    c.pmtId.Holds part := by
  obtain ⟨part', hpart, hholds⟩ := PaymentIdentification.holds d.pmtId
  obtain rfl := JsValue.object.inj (h.symm.trans hpart)
  exact hholds

theorem amount_holds (d : c.Decodes fields) (h : JsValue.field "amount" fields = .object part) :
    c.amount.Holds part := by
  obtain ⟨part', hpart, hholds⟩ := Amount.holds d.amount
  obtain rfl := JsValue.object.inj (h.symm.trans hpart)
  exact hholds

theorem fx_holds (d : c.Decodes fields) (h : JsValue.field "fx" fields = .object part) :
    ∃ fx, c.fx = some fx ∧ fx.Holds part := by
  rcases Schema.optional_eq_some d.fx with ⟨hundefined, -⟩ | ⟨fx, hfx, heq⟩
  · rw [h] at hundefined
    cases hundefined
  · obtain ⟨part', hpart, hholds⟩ := Fx.holds hfx
    obtain rfl := JsValue.object.inj (h.symm.trans hpart)
    exact ⟨fx, heq, hholds⟩

theorem fx_eq_none (d : c.Decodes fields) (h : JsValue.field "fx" fields = .undefined) :
    c.fx = none := by
  have hfx := d.fx
  rw [Schema.field, h] at hfx
  exact (Option.some.inj hfx).symm

theorem origin_holds (d : c.Decodes fields) (h : JsValue.field "origin" fields = .object part) :
    c.origin.Holds part := by
  obtain ⟨part', hpart, hholds⟩ := Agent.holds d.origin
  obtain rfl := JsValue.object.inj (h.symm.trans hpart)
  exact hholds

theorem destination_holds (d : c.Decodes fields)
    (h : JsValue.field "destination" fields = .object part) : c.destination.Holds part := by
  obtain ⟨part', hpart, hholds⟩ := Agent.holds d.destination
  obtain rfl := JsValue.object.inj (h.symm.trans hpart)
  exact hholds

theorem debtor_holds (d : c.Decodes fields) (h : JsValue.field "debtor" fields = .object part) :
    c.debtor.Holds part := by
  obtain ⟨part', hpart, hholds⟩ := Party.holds d.debtor
  obtain rfl := JsValue.object.inj (h.symm.trans hpart)
  exact hholds

theorem creditor_holds (d : c.Decodes fields)
    (h : JsValue.field "creditor" fields = .object part) : c.creditor.Holds part := by
  obtain ⟨part', hpart, hholds⟩ := Party.holds d.creditor
  obtain rfl := JsValue.object.inj (h.symm.trans hpart)
  exact hholds

theorem alias_holds (d : c.Decodes fields) (h : JsValue.field "alias" fields = .object part) :
    c.alias.Holds part := by
  obtain ⟨part', hpart, hholds⟩ := Alias.holds d.alias
  obtain rfl := JsValue.object.inj (h.symm.trans hpart)
  exact hholds

theorem purpose_holds (d : c.Decodes fields) {s : Text}
    (h : JsValue.field "purpose" fields = .string s) : c.purpose = s := by
  have hpurpose := d.purpose
  rw [Schema.field, h, Schema.default_string, Schema.textUpTo_eq_some] at hpurpose
  exact (JsValue.string.inj hpurpose.1).symm

theorem remittanceInfo_holds (d : c.Decodes fields) :
    JsValue.field "remittanceInfo" fields = JsValue.ofText? c.remittanceInfo :=
  field_optionalTextUpTo d.remittanceInfo

/-- An object that differs in its time only is the same message, of that time. -/
theorem withCreatedAt {fields' : List (String × JsValue)} (d : c.Decodes fields) {now : Datetime}
    (hnow : JsValue.field "created_at" fields' = .string now.1)
    (h : ∀ key, key ≠ "created_at" → JsValue.field key fields' = JsValue.field key fields) :
    { c with createdAt := now }.Decodes fields' where
  paymentId := by rw [Schema.field, h _ (by decide)]; exact d.paymentId
  createdAt := by
    rw [Schema.field, hnow]
    exact (dif_pos now.2).trans rfl
  grpHdr := by rw [Schema.field, h _ (by decide)]; exact d.grpHdr
  pmtId := by rw [Schema.field, h _ (by decide)]; exact d.pmtId
  amount := by rw [Schema.field, h _ (by decide)]; exact d.amount
  fx := by rw [Schema.field, h _ (by decide)]; exact d.fx
  origin := by rw [Schema.field, h _ (by decide)]; exact d.origin
  destination := by rw [Schema.field, h _ (by decide)]; exact d.destination
  debtor := by rw [Schema.field, h _ (by decide)]; exact d.debtor
  creditor := by rw [Schema.field, h _ (by decide)]; exact d.creditor
  «alias» := by rw [Schema.field, h _ (by decide)]; exact d.alias
  purpose := by rw [Schema.field, h _ (by decide)]; exact d.purpose
  reference := by rw [Schema.field, h _ (by decide)]; exact d.reference
  remittanceInfo := by rw [Schema.field, h _ (by decide)]; exact d.remittanceInfo
  status := by rw [Schema.field, h _ (by decide)]; exact d.status
  traceId := by rw [Schema.field, h _ (by decide)]; exact d.traceId
  railAck := by rw [Schema.field, h _ (by decide)]; exact d.railAck

end CanonicalPacs008.Decodes

/-! ### Accepted messages -/

namespace CanonicalPacs008.SchemaValid

variable {c : CanonicalPacs008}

theorem decodes (h : c.SchemaValid) : ∃ fields, c.Decodes fields := by
  obtain ⟨v, hv⟩ := h
  obtain ⟨fields, -, d⟩ := canonicalPacs008Schema_eq_some.mp hv
  exact ⟨fields, d⟩

theorem isPaymentId (h : c.SchemaValid) : isPaymentId c.paymentId = true := by
  obtain ⟨fields, d⟩ := h.decodes
  exact (Option.filter_eq_some_iff.mp d.paymentId).2

theorem length_purpose (h : c.SchemaValid) : c.purpose.length ≤ 35 := by
  obtain ⟨fields, d⟩ := h.decodes
  have hpurpose := d.purpose
  unfold Schema.field Schema.default at hpurpose
  split at hpurpose
  · rw [← Option.some.inj hpurpose]
    decide
  · exact (Schema.textUpTo_eq_some.mp hpurpose).2

end CanonicalPacs008.SchemaValid

end MipitCore
