import MipitCore.Domain.Accepted

/-!
# Which messages the schema returns

What the schema checks of a canonical message is a condition on its fields: lengths of
texts, and signs of numbers. A message that meets them is an object again
(`CanonicalPacs008.toValue`), which the schema accepts as that message. So a message was
returned by the schema exactly if it is well formed, and is accepted once more.

## Main definitions

* `GroupHeader.WellFormed`, `Amount.WellFormed`, …, `CanonicalPacs008.WellFormed`
* `CanonicalPacs008.toValue` — a message as an object

## Main results

* `canonicalPacs008Schema_toValue` — the schema accepts well-formed messages
* `schemaValid_iff` — and returns no others
-/

namespace MipitCore

open Js

/-! ### What is checked -/

/-- An optional text of an exact length. -/
def HasLength (n : ℕ) (o : Option Text) : Prop := ∀ s ∈ o, s.length = n

theorem HasLength.getD {n : ℕ} {o : Option Text} {s : Text} (h : HasLength n o) (hs : s.length = n) :
    (o.getD s).length = n := by
  cases o with
  | none => exact hs
  | some t => exact h t rfl

/-- An optional text of bounded length. -/
def FitsIn (n : ℕ) (o : Option Text) : Prop := ∀ s ∈ o, s.length ≤ n

/-- An optional number that is positive. -/
def IsPositive? (o : Option Number) : Prop := ∀ n ∈ o, n.isPositive = true

instance (n : ℕ) (o : Option Text) : Decidable (HasLength n o) :=
  inferInstanceAs (Decidable (∀ s ∈ o, s.length = n))

instance (n : ℕ) (o : Option Text) : Decidable (FitsIn n o) :=
  inferInstanceAs (Decidable (∀ s ∈ o, s.length ≤ n))

instance (o : Option Number) : Decidable (IsPositive? o) :=
  inferInstanceAs (Decidable (∀ n ∈ o, n.isPositive = true))

structure GroupHeader.WellFormed (grpHdr : GroupHeader) : Prop where
  nbOfTxs : grpHdr.nbOfTxs.isInteger = true ∧ grpHdr.nbOfTxs.isPositive = true

structure PaymentIdentification.WellFormed (pmtId : PaymentIdentification) : Prop where
  endToEndId : pmtId.endToEndId.length ≤ 35
  instrId : FitsIn 35 pmtId.instrId
  txId : FitsIn 35 pmtId.txId

structure Amount.WellFormed (amount : Amount) : Prop where
  value : amount.value.isPositive = true
  currency : amount.currency.length = 3
  instdAmt : IsPositive? amount.instdAmt
  instdAmtCcy : HasLength 3 amount.instdAmtCcy

structure Fx.WellFormed (fx : Fx) : Prop where
  sourceCurrency : HasLength 3 fx.sourceCurrency
  targetCurrency : HasLength 3 fx.targetCurrency
  rate : IsPositive? fx.rate
  localAmount : IsPositive? fx.localAmount

structure Agent.WellFormed {ρ : Type} (agent : Agent ρ) : Prop where
  bic : FitsIn 11 agent.bic
  routingNumber : HasLength 9 agent.routingNumber
  ispb : HasLength 8 agent.ispb
  institutionCode : FitsIn 5 agent.institutionCode

structure Party.WellFormed (party : Party) : Prop where
  name : FitsIn 140 party.name
  country : HasLength 2 party.country
  address : ∀ lines ∈ party.address, lines.length ≤ 4 ∧ ∀ line ∈ lines, line.length ≤ 70

/-- What the schema checks of a message. -/
structure CanonicalPacs008.WellFormed (c : CanonicalPacs008) : Prop where
  paymentId : isPaymentId c.paymentId = true
  grpHdr : c.grpHdr.WellFormed
  pmtId : c.pmtId.WellFormed
  amount : c.amount.WellFormed
  fx : ∀ fx ∈ c.fx, fx.WellFormed
  origin : c.origin.WellFormed
  destination : c.destination.WellFormed
  debtor : c.debtor.WellFormed
  creditor : c.creditor.WellFormed
  purpose : c.purpose.length ≤ 35
  reference : c.reference.length ≤ 140
  remittanceInfo : FitsIn 140 c.remittanceInfo

/-! ### Messages as objects -/

/-- The name of an answer of a rail. -/
def RailAckStatus.name : RailAckStatus → String
  | accepted => "ACCEPTED"
  | rejected => "REJECTED"
  | error => "ERROR"

/-- An optional part of a message. -/
def ofPart? {α : Type} (toValue : α → JsValue) : Option α → JsValue
  | none => .undefined
  | some a => toValue a

def SettlementInformation.toValue (info : SettlementInformation) : JsValue :=
  .object [("sttlmMtd", .string (js info.sttlmMtd.name))]

def GroupHeader.toValue (grpHdr : GroupHeader) : JsValue := .object
  [("msgId", .string grpHdr.msgId), ("creDtTm", .string grpHdr.creDtTm.1),
    ("nbOfTxs", .number grpHdr.nbOfTxs),
    ("sttlmInf", ofPart? SettlementInformation.toValue grpHdr.sttlmInf)]

def PaymentIdentification.toValue (pmtId : PaymentIdentification) : JsValue := .object
  [("endToEndId", .string pmtId.endToEndId), ("instrId", JsValue.ofText? pmtId.instrId),
    ("txId", JsValue.ofText? pmtId.txId)]

def Amount.toValue (amount : Amount) : JsValue := .object
  [("value", .number amount.value), ("currency", .string amount.currency),
    ("instdAmt", JsValue.ofNumber? amount.instdAmt),
    ("instdAmtCcy", JsValue.ofText? amount.instdAmtCcy)]

def Fx.toValue (fx : Fx) : JsValue := .object
  [("source_currency", JsValue.ofText? fx.sourceCurrency),
    ("target_currency", JsValue.ofText? fx.targetCurrency), ("rate", JsValue.ofNumber? fx.rate),
    ("local_amount", JsValue.ofNumber? fx.localAmount)]

/-- `origin` and `destination`, given the value of their rail. -/
def Agent.toValue {ρ : Type} (rail : ρ → JsValue) (agent : Agent ρ) : JsValue := .object
  [("rail", rail agent.rail), ("bic", JsValue.ofText? agent.bic),
    ("routingNumber", JsValue.ofText? agent.routingNumber), ("ispb", JsValue.ofText? agent.ispb),
    ("institutionCode", JsValue.ofText? agent.institutionCode)]

def Party.toValue (party : Party) : JsValue := .object
  [("name", JsValue.ofText? party.name), ("country", JsValue.ofText? party.country),
    ("account_id", .string party.accountId), ("taxId", JsValue.ofText? party.taxId),
    ("accountType", JsValue.ofText? (party.accountType.map fun t => js t.name)),
    ("agencia", JsValue.ofText? party.agencia), ("email", JsValue.ofText? party.email),
    ("phone", JsValue.ofText? party.phone), ("address", JsValue.ofTexts? party.address)]

def Alias.toValue («alias» : Alias) : JsValue := .object
  [("type", .string (js «alias».type.name)), ("value", .string «alias».value)]

def RailAckError.toValue (error : RailAckError) : JsValue := .object
  [("code", .string error.code), ("message", .string error.message)]

def RailAckSummary.toValue (summary : RailAckSummary) : JsValue := .object
  [("rail_tx_id", JsValue.ofText? summary.railTxId),
    ("status", JsValue.ofText? (summary.status.map fun s => js s.name)),
    ("error", ofPart? RailAckError.toValue summary.error)]

/-- `rail_ack`, which may be absent or `null`. -/
def railAckValue : Option (Option RailAckSummary) → JsValue
  | none => .undefined
  | some none => .null
  | some (some summary) => summary.toValue

/-- The properties of a message. -/
def CanonicalPacs008.fields (c : CanonicalPacs008) : List (String × JsValue) :=
  [("payment_id", .string c.paymentId),
    ("created_at", .string c.createdAt.1),
    ("grpHdr", c.grpHdr.toValue),
    ("pmtId", c.pmtId.toValue),
    ("amount", c.amount.toValue),
    ("fx", ofPart? Fx.toValue c.fx),
    ("origin", c.origin.toValue fun rail => .string (js rail.name)),
    ("destination", c.destination.toValue fun rail =>
      JsValue.ofText? (rail.map fun r => js r.name)),
    ("debtor", c.debtor.toValue),
    ("creditor", c.creditor.toValue),
    ("alias", c.alias.toValue),
    ("purpose", .string c.purpose),
    ("reference", .string c.reference),
    ("remittanceInfo", JsValue.ofText? c.remittanceInfo),
    ("status", .string c.status),
    ("trace_id", JsValue.ofText? c.traceId),
    ("rail_ack", railAckValue c.railAck)]

/-- A message as an object. -/
def CanonicalPacs008.toValue (c : CanonicalPacs008) : JsValue := .object c.fields

/-! ### What is accepted was checked -/

theorem fitsIn_of_schema {n : ℕ} {v : JsValue} {o : Option Text}
    (h : (Schema.textUpTo n).optional v = some o) : FitsIn n o := by
  rcases Schema.optional_eq_some h with ⟨-, rfl⟩ | ⟨s, hs, rfl⟩
  · exact fun s hs => nomatch hs
  · rintro _ ⟨⟩
    exact (Schema.textUpTo_eq_some.mp hs).2

theorem hasLength_of_schema {n : ℕ} {v : JsValue} {o : Option Text}
    (h : (Schema.textOfLength n).optional v = some o) : HasLength n o := by
  rcases Schema.optional_eq_some h with ⟨-, rfl⟩ | ⟨s, hs, rfl⟩
  · exact fun s hs => nomatch hs
  · rintro _ ⟨⟩
    exact (Schema.textOfLength_eq_some.mp hs).2

theorem isPositive_of_schema {v : JsValue} {o : Option Number}
    (h : Schema.positiveNumber.optional v = some o) : IsPositive? o :=
  (Schema.optional_positiveNumber h).2

theorem GroupHeader.wellFormed_of_schema {v : JsValue} {grpHdr : GroupHeader}
    (h : grpHdrSchema v = some grpHdr) : grpHdr.WellFormed := by
  obtain ⟨fields, -, d⟩ := GroupHeader.decodes h
  have hnbOfTxs := d.nbOfTxs
  refine ⟨?_⟩
  unfold Schema.field Schema.default at hnbOfTxs
  split at hnbOfTxs
  · rw [← Option.some.inj hnbOfTxs]
    exact ⟨rfl, rfl⟩
  · obtain ⟨hpositive, hinteger⟩ := Option.filter_eq_some_iff.mp hnbOfTxs
    exact ⟨hinteger, (Schema.positiveNumber_eq_some.mp hpositive).2⟩

theorem PaymentIdentification.wellFormed_of_schema {v : JsValue} {pmtId : PaymentIdentification}
    (h : pmtIdSchema v = some pmtId) : pmtId.WellFormed := by
  obtain ⟨fields, -, d⟩ := PaymentIdentification.decodes h
  exact ⟨(Schema.textUpTo_eq_some.mp d.endToEndId).2, fitsIn_of_schema d.instrId,
    fitsIn_of_schema d.txId⟩

theorem Amount.wellFormed_of_schema {v : JsValue} {amount : Amount}
    (h : amountSchema v = some amount) : amount.WellFormed := by
  obtain ⟨fields, -, d⟩ := Amount.decodes h
  exact ⟨(Schema.positiveNumber_eq_some.mp d.value).2, (Schema.textOfLength_eq_some.mp d.currency).2,
    isPositive_of_schema d.instdAmt, hasLength_of_schema d.instdAmtCcy⟩

theorem Fx.wellFormed_of_schema {v : JsValue} {fx : Fx} (h : fxSchema v = some fx) :
    fx.WellFormed := by
  obtain ⟨fields, -, d⟩ := Fx.decodes h
  exact ⟨hasLength_of_schema d.sourceCurrency, hasLength_of_schema d.targetCurrency,
    isPositive_of_schema d.rate, isPositive_of_schema d.localAmount⟩

theorem Agent.wellFormed_of_schema {ρ : Type} {rail : Schema ρ} {v : JsValue} {agent : Agent ρ}
    (h : agentSchema rail v = some agent) : agent.WellFormed := by
  obtain ⟨fields, -, d⟩ := Agent.decodes h
  exact ⟨fitsIn_of_schema d.bic, hasLength_of_schema d.routingNumber, hasLength_of_schema d.ispb,
    fitsIn_of_schema d.institutionCode⟩

theorem length_of_array {n : ℕ} {v : JsValue} {texts : List Text}
    (h : Schema.array (Schema.textUpTo n) v = some texts) : ∀ t ∈ texts, t.length ≤ n := by
  cases v with
  | array items =>
    rw [Schema.array] at h
    induction items generalizing texts with
    | nil =>
      obtain rfl : [] = texts := by simpa using h
      exact fun t ht => absurd ht List.not_mem_nil
    | cons v items ih =>
      rw [List.mapM_cons] at h
      obtain ⟨t, ht, h⟩ := Option.bind_eq_some_iff.mp h
      obtain ⟨rest, hrest, h⟩ := Option.bind_eq_some_iff.mp h
      obtain rfl := Option.some.inj h
      rintro t' (_ | ⟨_, ht'⟩)
      · exact (Schema.textUpTo_eq_some.mp ht).2
      · exact ih hrest t' ht'
  | _ => cases h

theorem Party.wellFormed_of_schema {v : JsValue} {party : Party} (h : partySchema v = some party) :
    party.WellFormed := by
  obtain ⟨fields, -, d⟩ := Party.decodes h
  refine ⟨fitsIn_of_schema d.name, hasLength_of_schema d.country, ?_⟩
  rcases Schema.optional_eq_some d.address with ⟨-, haddress⟩ | ⟨lines, hlines, haddress⟩
  · rw [haddress]
    exact fun lines hlines => nomatch hlines
  · obtain ⟨harray, hcount⟩ := Option.filter_eq_some_iff.mp hlines
    rw [haddress]
    rintro _ ⟨⟩
    exact ⟨of_decide_eq_true hcount, length_of_array harray⟩

/-- A text with a default is short enough where the default is. -/
theorem length_of_default {n : ℕ} {v : JsValue} {d s : Text} (hd : d.length ≤ n)
    (h : (Schema.textUpTo n).default d v = some s) : s.length ≤ n := by
  unfold Schema.default at h
  split at h
  · obtain rfl := Option.some.inj h
    exact hd
  · exact (Schema.textUpTo_eq_some.mp h).2

theorem CanonicalPacs008.Decodes.wellFormed {fields : List (String × JsValue)}
    {c : CanonicalPacs008} (d : c.Decodes fields) : c.WellFormed where
  paymentId := (Option.filter_eq_some_iff.mp d.paymentId).2
  grpHdr := GroupHeader.wellFormed_of_schema d.grpHdr
  pmtId := PaymentIdentification.wellFormed_of_schema d.pmtId
  amount := Amount.wellFormed_of_schema d.amount
  fx := by
    rcases Schema.optional_eq_some d.fx with ⟨-, hfx⟩ | ⟨fx, hschema, hfx⟩
    · rw [hfx]
      exact fun fx h => nomatch h
    · rw [hfx]
      rintro _ ⟨⟩
      exact Fx.wellFormed_of_schema hschema
  origin := Agent.wellFormed_of_schema d.origin
  destination := Agent.wellFormed_of_schema d.destination
  debtor := Party.wellFormed_of_schema d.debtor
  creditor := Party.wellFormed_of_schema d.creditor
  purpose := length_of_default (by decide) d.purpose
  reference := length_of_default (by decide) d.reference
  remittanceInfo := fitsIn_of_schema d.remittanceInfo

/-! ### What is well formed is accepted -/

namespace Js.Schema

theorem textUpTo_ofText? {n : ℕ} {o : Option Text} (h : FitsIn n o) :
    (Schema.textUpTo n).optional (JsValue.ofText? o) = some o :=
  Schema.optional_ofText? fun s hs => by rw [Schema.textUpTo_string, if_pos (h s hs)]

theorem textOfLength_ofText? {n : ℕ} {o : Option Text} (h : HasLength n o) :
    (Schema.textOfLength n).optional (JsValue.ofText? o) = some o :=
  Schema.optional_ofText? fun s hs => by rw [Schema.textOfLength_string, if_pos (h s hs)]

theorem string_ofText? (o : Option Text) : Schema.string.optional (JsValue.ofText? o) = some o :=
  Schema.optional_ofText? fun _ _ => rfl

theorem positiveNumber_ofNumber? {o : Option Number} (h : IsPositive? o) :
    Schema.positiveNumber.optional (JsValue.ofNumber? o) = some o := by
  cases o with
  | none => rfl
  | some n =>
    rw [JsValue.ofNumber?, Schema.optional_number, Schema.positiveNumber_number, if_pos (h n rfl),
      Option.map_some]

end Js.Schema

theorem array_ofTexts {n : ℕ} {lines : List Text} (h : ∀ line ∈ lines, line.length ≤ n) :
    Schema.array (Schema.textUpTo n) (.array (lines.map .string)) = some lines := by
  rw [Schema.array]
  induction lines with
  | nil => rfl
  | cons line lines ih =>
    rw [List.map_cons, List.mapM_cons, Schema.textUpTo_string, if_pos (h line List.mem_cons_self),
      ih fun l hl => h l (List.mem_cons_of_mem _ hl)]
    rfl

theorem sttlmInfSchema_toValue (info : SettlementInformation) :
    sttlmInfSchema info.toValue = some info := by
  obtain ⟨method⟩ := info
  cases method <;> decide

theorem railAckSchema_toValue (summary : RailAckSummary) :
    railAckSchema summary.toValue = some summary := by
  obtain ⟨railTxId, status, error⟩ := summary
  have hstatus : ∀ s : Option RailAckStatus, (Schema.enumeration [("ACCEPTED",
      RailAckStatus.accepted), ("REJECTED", .rejected), ("ERROR", .error)]).optional
        (JsValue.ofText? (s.map fun s => js s.name)) = some s := by
    rintro (_ | s)
    · rfl
    · cases s <;> decide
  cases error with
  | none =>
    simp [railAckSchema, RailAckSummary.toValue, ofPart?, Schema.field, Schema.string_ofText?,
      hstatus]
  | some error =>
    simp [railAckSchema, RailAckSummary.toValue, ofPart?, RailAckError.toValue, Schema.field,
      Schema.string_ofText?, hstatus]

theorem grpHdrSchema_toValue {grpHdr : GroupHeader} (h : grpHdr.WellFormed) :
    grpHdrSchema grpHdr.toValue = some grpHdr := by
  obtain ⟨msgId, creDtTm, nbOfTxs, sttlmInf⟩ := grpHdr
  obtain ⟨hinteger, hpositive⟩ := h.nbOfTxs
  have hcount : positiveInt (.number nbOfTxs) = some nbOfTxs := by
    rw [positiveInt, Schema.check, Schema.positiveNumber_number, if_pos hpositive,
      Option.filter_some, if_pos hinteger]
  have hinf : sttlmInfSchema.optional (ofPart? SettlementInformation.toValue sttlmInf) =
      some sttlmInf := by
    cases sttlmInf with
    | none => rfl
    | some info =>
      exact congrArg (Option.map some) (sttlmInfSchema_toValue info)
  simp [grpHdrSchema, GroupHeader.toValue, Schema.field, Schema.refine, creDtTm.2, hcount, hinf]

theorem pmtIdSchema_toValue {pmtId : PaymentIdentification} (h : pmtId.WellFormed) :
    pmtIdSchema pmtId.toValue = some pmtId := by
  simp [pmtIdSchema, PaymentIdentification.toValue, Schema.field, h.endToEndId,
    Schema.textUpTo_ofText? h.instrId, Schema.textUpTo_ofText? h.txId]

theorem amountSchema_toValue {amount : Amount} (h : amount.WellFormed) :
    amountSchema amount.toValue = some amount := by
  simp [amountSchema, Amount.toValue, Schema.field, h.value, h.currency,
    Schema.positiveNumber_ofNumber? h.instdAmt, Schema.textOfLength_ofText? h.instdAmtCcy]

theorem fxSchema_toValue {fx : Fx} (h : fx.WellFormed) : fxSchema fx.toValue = some fx := by
  simp [fxSchema, Fx.toValue, Schema.field, Schema.textOfLength_ofText? h.sourceCurrency,
    Schema.textOfLength_ofText? h.targetCurrency, Schema.positiveNumber_ofNumber? h.rate,
    Schema.positiveNumber_ofNumber? h.localAmount]

theorem agentSchema_toValue {ρ : Type} {rail : Schema ρ} {railValue : ρ → JsValue} {agent : Agent ρ}
    (hrail : rail (railValue agent.rail) = some agent.rail) (h : agent.WellFormed) :
    agentSchema rail (agent.toValue railValue) = some agent := by
  simp [agentSchema, Agent.toValue, Schema.field, hrail, Schema.textUpTo_ofText? h.bic,
    Schema.textOfLength_ofText? h.routingNumber, Schema.textOfLength_ofText? h.ispb,
    Schema.textUpTo_ofText? h.institutionCode]

theorem partySchema_toValue {party : Party} (h : party.WellFormed) :
    partySchema party.toValue = some party := by
  have htype : (Schema.enumeration accountTypeNames).optional
      (JsValue.ofText? (party.accountType.map fun t => js t.name)) = some party.accountType := by
    cases party.accountType with
    | none => rfl
    | some t => simp [JsValue.ofText?, accountTypeNames_find]
  have haddress : ((Schema.array (Schema.textUpTo 70)).check fun l => l.length ≤ 4).optional
      (JsValue.ofTexts? party.address) = some party.address := by
    cases hlines : party.address with
    | none => rfl
    | some lines =>
      obtain ⟨hcount, hlengths⟩ := h.address lines hlines
      rw [JsValue.ofTexts?, Schema.optional, Schema.check, array_ofTexts hlengths,
        Option.filter_some, if_pos (decide_eq_true hcount), Option.map_some]
      all_goals
        intro h
        cases h
  simp [partySchema, Party.toValue, Schema.field, Schema.textUpTo_ofText? h.name,
    Schema.textOfLength_ofText? h.country, Schema.string_ofText?, htype, haddress]

theorem aliasSchema_toValue («alias» : Alias) : aliasSchema «alias».toValue = some «alias» := by
  simp [aliasSchema, Alias.toValue, Schema.field, aliasTypeNames_find]

/-- **A well-formed message is accepted**, as an object. -/
theorem CanonicalPacs008.WellFormed.decodes {c : CanonicalPacs008} (h : c.WellFormed) :
    c.Decodes c.fields where
  paymentId := by simp [Schema.field, fields, Schema.check, Option.filter, h.paymentId]
  createdAt := by simp [Schema.field, fields, Schema.refine, c.createdAt.2]
  grpHdr := by simp [Schema.field, fields, grpHdrSchema_toValue h.grpHdr]
  pmtId := by simp [Schema.field, fields, pmtIdSchema_toValue h.pmtId]
  amount := by simp [Schema.field, fields, amountSchema_toValue h.amount]
  fx := by
    have hpart : fxSchema.optional (ofPart? Fx.toValue c.fx) = some c.fx := by
      cases hfx : c.fx with
      | none => rfl
      | some fx => exact congrArg (Option.map some) (fxSchema_toValue (h.fx fx hfx))
    simp [Schema.field, fields, hpart]
  origin := by
    simp [Schema.field, fields, agentSchema_toValue, railNames_find, h.origin]
  destination := by
    have hrail : ((Schema.enumeration railNames).optional
        (JsValue.ofText? (c.destination.rail.map fun r => js r.name))) =
          some c.destination.rail := by
      cases c.destination.rail with
      | none => rfl
      | some r => simp [JsValue.ofText?, railNames_find]
    simp only [Schema.field, fields, JsValue.field_cons, String.reduceEq, ↓reduceIte]
    exact agentSchema_toValue hrail h.destination
  debtor := by simp [Schema.field, fields, partySchema_toValue h.debtor]
  creditor := by simp [Schema.field, fields, partySchema_toValue h.creditor]
  «alias» := by simp [Schema.field, fields, aliasSchema_toValue]
  purpose := by simp [Schema.field, fields, h.purpose]
  reference := by simp [Schema.field, fields, h.reference]
  remittanceInfo := by simp [Schema.field, fields, Schema.textUpTo_ofText? h.remittanceInfo]
  status := by simp [Schema.field, fields]
  traceId := by simp [Schema.field, fields, Schema.string_ofText?]
  railAck := by
    have hpart : railAckSchema.nullable.optional (railAckValue c.railAck) = some c.railAck := by
      rcases c.railAck with _ | _ | summary
      · rfl
      · rfl
      · exact congrArg (fun s => (s.map some).map some) (railAckSchema_toValue summary)
    simp [Schema.field, fields, hpart]

theorem canonicalPacs008Schema_toValue {c : CanonicalPacs008} (h : c.WellFormed) :
    canonicalPacs008Schema c.toValue = some c :=
  canonicalPacs008Schema_eq_some.mpr ⟨c.fields, rfl, h.decodes⟩

/-- **The schema returns the well-formed messages**, and no others. -/
theorem schemaValid_iff {c : CanonicalPacs008} : c.SchemaValid ↔ c.WellFormed := by
  constructor
  · intro h
    obtain ⟨fields, d⟩ := h.decodes
    exact d.wellFormed
  · intro h
    exact ⟨c.toValue, canonicalPacs008Schema_toValue h⟩

/-- A message stays valid when its debtor gets another name, and no line of an address. -/
theorem CanonicalPacs008.SchemaValid.withDebtorName {c : CanonicalPacs008} (h : c.SchemaValid)
    {name : Text} (hname : name.length ≤ 140) :
    { c with debtor := { c.debtor with name := some name, address := some [] } }.SchemaValid := by
  have hc := schemaValid_iff.mp h
  refine schemaValid_iff.mpr { hc with debtor := { hc.debtor with name := ?_, address := ?_ } }
  · rintro _ ⟨⟩
    exact hname
  · rintro _ ⟨⟩
    exact ⟨Nat.zero_le 4, fun line hline => nomatch hline⟩

/-- What the schema has returned, it accepts once more. -/
theorem CanonicalPacs008.SchemaValid.accepted {c : CanonicalPacs008} (h : c.SchemaValid) :
    canonicalPacs008Schema c.toValue = some c :=
  canonicalPacs008Schema_toValue (schemaValid_iff.mp h)

end MipitCore
