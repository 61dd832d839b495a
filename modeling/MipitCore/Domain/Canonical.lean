import MipitCore.Config.Constants
import MipitCore.Js.Schema

/-!
# The canonical message

The canonical model is based on the ISO 20022 message pacs.008: every rail
translates to it and from it. `CanonicalPacs008` is what the schema infers, with the
source's field names in camel case; `canonicalPacs008Schema` decides which values
are canonical messages and decodes them.

## Main definitions

* `CanonicalPacs008` and its parts
* `canonicalPacs008Schema`
* `CanonicalPacs008.SchemaValid` — being the decoding of some value
* `CanonicalPacs008.Decodes` — the properties of an object decode to the fields of a message

## Main results

* `canonicalPacs008Schema_eq_some` — the schema accepts the objects whose properties decode
* `SchemaValid.isPositive` — amounts are positive
-/

namespace MipitCore

open Js

/-- Settlement methods. -/
inductive SettlementMethod
  | inda | inga | cove | clrg
  deriving DecidableEq, Repr

/-- The name of a settlement method. -/
def SettlementMethod.name : SettlementMethod → String
  | inda => "INDA"
  | inga => "INGA"
  | cove => "COVE"
  | clrg => "CLRG"

/-- Types of accounts: checking, savings, payment, salary. -/
inductive AccountType
  | cacc | svgs | tran | slry
  deriving DecidableEq, Repr

/-- The name of a type of account. -/
def AccountType.name : AccountType → String
  | cacc => "CACC"
  | svgs => "SVGS"
  | tran => "TRAN"
  | slry => "SLRY"

/-- What a rail answered to a payment. -/
inductive RailAckStatus
  | accepted | rejected | error
  deriving DecidableEq, Repr

/-- `sttlmInf` -/
structure SettlementInformation where
  sttlmMtd : SettlementMethod
  deriving DecidableEq

/-- `grpHdr` -/
structure GroupHeader where
  msgId : Text
  creDtTm : Datetime
  nbOfTxs : Number
  sttlmInf : Option SettlementInformation
  deriving DecidableEq

/-- `pmtId` -/
structure PaymentIdentification where
  endToEndId : Text
  instrId : Option Text
  txId : Option Text
  deriving DecidableEq

/-- `amount` -/
structure Amount where
  value : Number
  currency : Text
  instdAmt : Option Number
  instdAmtCcy : Option Text
  deriving DecidableEq

/-- `fx` -/
structure Fx where
  sourceCurrency : Option Text
  targetCurrency : Option Text
  rate : Option Number
  localAmount : Option Number
  deriving DecidableEq

/-- `origin` and `destination`, up to the type of `rail`. -/
structure Agent (ρ : Type) where
  rail : ρ
  bic : Option Text
  routingNumber : Option Text
  ispb : Option Text
  institutionCode : Option Text
  deriving DecidableEq

/-- `debtor` and `creditor` -/
structure Party where
  name : Option Text
  country : Option Text
  accountId : Text
  taxId : Option Text
  accountType : Option AccountType
  agencia : Option Text
  email : Option Text
  phone : Option Text
  address : Option (List Text)
  deriving DecidableEq

/-- `alias` -/
structure Alias where
  type : AliasType
  value : Text
  deriving DecidableEq

/-- `rail_ack.error` -/
structure RailAckError where
  code : Text
  message : Text
  deriving DecidableEq

/-- `rail_ack` -/
structure RailAckSummary where
  railTxId : Option Text
  status : Option RailAckStatus
  error : Option RailAckError
  deriving DecidableEq

/-- The canonical message. `railAck` may be absent or `null`. -/
structure CanonicalPacs008 where
  paymentId : Text
  createdAt : Datetime
  grpHdr : GroupHeader
  pmtId : PaymentIdentification
  amount : Amount
  fx : Option Fx
  origin : Agent Rail
  destination : Agent (Option Rail)
  debtor : Party
  creditor : Party
  «alias» : Alias
  purpose : Text
  reference : Text
  remittanceInfo : Option Text
  status : Text
  traceId : Option Text
  railAck : Option (Option RailAckSummary)
  deriving DecidableEq

/-! ### The schema -/

/-- `/^PMT-[A-Z0-9]{10,32}$/` -/
def isPaymentId (s : Text) : Bool :=
  s.startsWith (js "PMT-") && 10 ≤ (s.drop 4).length && (s.drop 4).length ≤ 32 &&
    (s.drop 4).all fun c => c.isUpper || c.isDigit

/-- `z.number().int().positive()` -/
def positiveInt : Schema Number := Schema.check Number.isInteger Schema.positiveNumber

def accountTypeNames : List (String × AccountType) :=
  [("CACC", .cacc), ("SVGS", .svgs), ("TRAN", .tran), ("SLRY", .slry)]

def railNames : List (String × Rail) := Rail.all.map fun r => (r.name, r)

def aliasTypeNames : List (String × AliasType) :=
  [AliasType.pixKey, .clabe, .iban, .account, .abaRouting, .bic, .llaveBreb].map
    fun t => (t.name, t)

theorem accountTypeNames_find (t : AccountType) :
    accountTypeNames.find? (fun n => n.1 = t.name) = some (t.name, t) := by
  cases t <;> decide

theorem railNames_find (r : Rail) :
    railNames.find? (fun n => n.1 = r.name) = some (r.name, r) := by
  cases r <;> decide

theorem aliasTypeNames_find (t : AliasType) :
    aliasTypeNames.find? (fun n => n.1 = t.name) = some (t.name, t) := by
  cases t <;> decide

def sttlmInfSchema : Schema SettlementInformation := Schema.object fun o => do
  let sttlmMtd ← ((Schema.enumeration
    [("INDA", SettlementMethod.inda), ("INGA", .inga), ("COVE", .cove), ("CLRG", .clrg)]).default
      .clrg).field "sttlmMtd" o
  return { sttlmMtd }

def grpHdrSchema : Schema GroupHeader := Schema.object fun o => do
  let msgId ← Schema.string.field "msgId" o
  let creDtTm ← (Schema.string.refine fun s => isDatetime s = true).field "creDtTm" o
  let nbOfTxs ← (positiveInt.default (.fin 1)).field "nbOfTxs" o
  let sttlmInf ← sttlmInfSchema.optional.field "sttlmInf" o
  return { msgId, creDtTm, nbOfTxs, sttlmInf }

def pmtIdSchema : Schema PaymentIdentification := Schema.object fun o => do
  let endToEndId ← (Schema.textUpTo 35).field "endToEndId" o
  let instrId ← (Schema.textUpTo 35).optional.field "instrId" o
  let txId ← (Schema.textUpTo 35).optional.field "txId" o
  return { endToEndId, instrId, txId }

def amountSchema : Schema Amount := Schema.object fun o => do
  let value ← Schema.positiveNumber.field "value" o
  let currency ← (Schema.textOfLength 3).field "currency" o
  let instdAmt ← Schema.positiveNumber.optional.field "instdAmt" o
  let instdAmtCcy ← (Schema.textOfLength 3).optional.field "instdAmtCcy" o
  return { value, currency, instdAmt, instdAmtCcy }

def fxSchema : Schema Fx := Schema.object fun o => do
  let sourceCurrency ← (Schema.textOfLength 3).optional.field "source_currency" o
  let targetCurrency ← (Schema.textOfLength 3).optional.field "target_currency" o
  let rate ← Schema.positiveNumber.optional.field "rate" o
  let localAmount ← Schema.positiveNumber.optional.field "local_amount" o
  return { sourceCurrency, targetCurrency, rate, localAmount }

/-- The schema of `origin` and `destination`, given that of `rail`. -/
def agentSchema {ρ : Type} (rail : Schema ρ) : Schema (Agent ρ) := Schema.object fun o => do
  let rail ← rail.field "rail" o
  let bic ← (Schema.textUpTo 11).optional.field "bic" o
  let routingNumber ← (Schema.textOfLength 9).optional.field "routingNumber" o
  let ispb ← (Schema.textOfLength 8).optional.field "ispb" o
  let institutionCode ← (Schema.textUpTo 5).optional.field "institutionCode" o
  return { rail, bic, routingNumber, ispb, institutionCode }

def partySchema : Schema Party := Schema.object fun o => do
  let name ← (Schema.textUpTo 140).optional.field "name" o
  let country ← (Schema.textOfLength 2).optional.field "country" o
  let accountId ← Schema.string.field "account_id" o
  let taxId ← Schema.string.optional.field "taxId" o
  let accountType ← (Schema.enumeration accountTypeNames).optional.field "accountType" o
  let agencia ← Schema.string.optional.field "agencia" o
  let email ← Schema.string.optional.field "email" o
  let phone ← Schema.string.optional.field "phone" o
  let address ← ((Schema.array (Schema.textUpTo 70)).check fun l => l.length ≤ 4).optional.field
    "address" o
  return { name, country, accountId, taxId, accountType, agencia, email, phone, address }

def aliasSchema : Schema Alias := Schema.object fun o => do
  let type ← (Schema.enumeration aliasTypeNames).field "type" o
  let value ← Schema.string.field "value" o
  return { type, value }

def railAckSchema : Schema RailAckSummary := Schema.object fun o => do
  let railTxId ← Schema.string.optional.field "rail_tx_id" o
  let status ← (Schema.enumeration
    [("ACCEPTED", RailAckStatus.accepted), ("REJECTED", .rejected), ("ERROR", .error)]).optional.field
      "status" o
  let error ← (Schema.object fun e => do
    let code ← Schema.string.field "code" e
    let message ← Schema.string.field "message" e
    return ({ code, message } : RailAckError)).optional.field "error" o
  return { railTxId, status, error }

/-- `canonicalPacs008Schema` -/
def canonicalPacs008Schema : Schema CanonicalPacs008 := Schema.object fun o => do
  let paymentId ← (Schema.string.check isPaymentId).field "payment_id" o
  let createdAt ← (Schema.string.refine fun s => isDatetime s = true).field "created_at" o
  let grpHdr ← grpHdrSchema.field "grpHdr" o
  let pmtId ← pmtIdSchema.field "pmtId" o
  let amount ← amountSchema.field "amount" o
  let fx ← fxSchema.optional.field "fx" o
  let origin ← (agentSchema (Schema.enumeration railNames)).field "origin" o
  let destination ← (agentSchema (Schema.enumeration railNames).optional).field "destination" o
  let debtor ← partySchema.field "debtor" o
  let creditor ← partySchema.field "creditor" o
  let «alias» ← aliasSchema.field "alias" o
  let purpose ← ((Schema.textUpTo 35).default (js "P2P")).field "purpose" o
  let reference ← ((Schema.textUpTo 140).default (js "MIPIT-POC")).field "reference" o
  let remittanceInfo ← (Schema.textUpTo 140).optional.field "remittanceInfo" o
  let status ← Schema.string.field "status" o
  let traceId ← Schema.string.optional.field "trace_id" o
  let railAck ← railAckSchema.nullable.optional.field "rail_ack" o
  return { paymentId, createdAt, grpHdr, pmtId, amount, fx, origin, destination, debtor, creditor,
           «alias», purpose, reference, remittanceInfo, status, traceId, railAck }

/-! ### What the schemas of the parts accept -/

/-- The properties of an object decode to the fields of a group header. -/
structure GroupHeader.Decodes (fields : List (String × JsValue)) (grpHdr : GroupHeader) : Prop where
  msgId : Schema.string.field "msgId" fields = some grpHdr.msgId
  creDtTm : (Schema.string.refine fun s => isDatetime s = true).field "creDtTm" fields =
    some grpHdr.creDtTm
  nbOfTxs : (positiveInt.default (.fin 1)).field "nbOfTxs" fields = some grpHdr.nbOfTxs
  sttlmInf : sttlmInfSchema.optional.field "sttlmInf" fields = some grpHdr.sttlmInf

structure PaymentIdentification.Decodes (fields : List (String × JsValue))
    (pmtId : PaymentIdentification) : Prop where
  endToEndId : (Schema.textUpTo 35).field "endToEndId" fields = some pmtId.endToEndId
  instrId : (Schema.textUpTo 35).optional.field "instrId" fields = some pmtId.instrId
  txId : (Schema.textUpTo 35).optional.field "txId" fields = some pmtId.txId

structure Amount.Decodes (fields : List (String × JsValue)) (amount : Amount) : Prop where
  value : Schema.positiveNumber.field "value" fields = some amount.value
  currency : (Schema.textOfLength 3).field "currency" fields = some amount.currency
  instdAmt : Schema.positiveNumber.optional.field "instdAmt" fields = some amount.instdAmt
  instdAmtCcy : (Schema.textOfLength 3).optional.field "instdAmtCcy" fields = some amount.instdAmtCcy

structure Fx.Decodes (fields : List (String × JsValue)) (fx : Fx) : Prop where
  sourceCurrency : (Schema.textOfLength 3).optional.field "source_currency" fields =
    some fx.sourceCurrency
  targetCurrency : (Schema.textOfLength 3).optional.field "target_currency" fields =
    some fx.targetCurrency
  rate : Schema.positiveNumber.optional.field "rate" fields = some fx.rate
  localAmount : Schema.positiveNumber.optional.field "local_amount" fields = some fx.localAmount

structure Agent.Decodes {ρ : Type} (rail : Schema ρ) (fields : List (String × JsValue))
    (agent : Agent ρ) : Prop where
  rail : rail.field "rail" fields = some agent.rail
  bic : (Schema.textUpTo 11).optional.field "bic" fields = some agent.bic
  routingNumber : (Schema.textOfLength 9).optional.field "routingNumber" fields =
    some agent.routingNumber
  ispb : (Schema.textOfLength 8).optional.field "ispb" fields = some agent.ispb
  institutionCode : (Schema.textUpTo 5).optional.field "institutionCode" fields =
    some agent.institutionCode

structure Party.Decodes (fields : List (String × JsValue)) (party : Party) : Prop where
  name : (Schema.textUpTo 140).optional.field "name" fields = some party.name
  country : (Schema.textOfLength 2).optional.field "country" fields = some party.country
  accountId : Schema.string.field "account_id" fields = some party.accountId
  taxId : Schema.string.optional.field "taxId" fields = some party.taxId
  accountType : (Schema.enumeration accountTypeNames).optional.field "accountType" fields =
    some party.accountType
  agencia : Schema.string.optional.field "agencia" fields = some party.agencia
  email : Schema.string.optional.field "email" fields = some party.email
  phone : Schema.string.optional.field "phone" fields = some party.phone
  address : ((Schema.array (Schema.textUpTo 70)).check fun l => l.length ≤ 4).optional.field
    "address" fields = some party.address

structure Alias.Decodes (fields : List (String × JsValue)) («alias» : Alias) : Prop where
  type : (Schema.enumeration aliasTypeNames).field "type" fields = some «alias».type
  value : Schema.string.field "value" fields = some «alias».value

section

variable {v : JsValue}

theorem GroupHeader.decodes {grpHdr : GroupHeader} (h : grpHdrSchema v = some grpHdr) :
    ∃ fields, v = .object fields ∧ grpHdr.Decodes fields := by
  cases v with
  | object fields =>
    rw [grpHdrSchema, Schema.object_object] at h
    obtain ⟨_, hmsgId, h⟩ := Option.bind_eq_some_iff.mp h
    obtain ⟨_, hcreDtTm, h⟩ := Option.bind_eq_some_iff.mp h
    obtain ⟨_, hnbOfTxs, h⟩ := Option.bind_eq_some_iff.mp h
    obtain ⟨_, hsttlmInf, h⟩ := Option.bind_eq_some_iff.mp h
    obtain rfl := Option.some.inj h
    exact ⟨fields, rfl, hmsgId, hcreDtTm, hnbOfTxs, hsttlmInf⟩
  | _ => cases h

theorem PaymentIdentification.decodes {pmtId : PaymentIdentification}
    (h : pmtIdSchema v = some pmtId) : ∃ fields, v = .object fields ∧ pmtId.Decodes fields := by
  cases v with
  | object fields =>
    rw [pmtIdSchema, Schema.object_object] at h
    obtain ⟨_, hendToEndId, h⟩ := Option.bind_eq_some_iff.mp h
    obtain ⟨_, hinstrId, h⟩ := Option.bind_eq_some_iff.mp h
    obtain ⟨_, htxId, h⟩ := Option.bind_eq_some_iff.mp h
    obtain rfl := Option.some.inj h
    exact ⟨fields, rfl, hendToEndId, hinstrId, htxId⟩
  | _ => cases h

theorem Amount.decodes {amount : Amount} (h : amountSchema v = some amount) :
    ∃ fields, v = .object fields ∧ amount.Decodes fields := by
  cases v with
  | object fields =>
    rw [amountSchema, Schema.object_object] at h
    obtain ⟨_, hvalue, h⟩ := Option.bind_eq_some_iff.mp h
    obtain ⟨_, hcurrency, h⟩ := Option.bind_eq_some_iff.mp h
    obtain ⟨_, hinstdAmt, h⟩ := Option.bind_eq_some_iff.mp h
    obtain ⟨_, hinstdAmtCcy, h⟩ := Option.bind_eq_some_iff.mp h
    obtain rfl := Option.some.inj h
    exact ⟨fields, rfl, hvalue, hcurrency, hinstdAmt, hinstdAmtCcy⟩
  | _ => cases h

theorem Fx.decodes {fx : Fx} (h : fxSchema v = some fx) :
    ∃ fields, v = .object fields ∧ fx.Decodes fields := by
  cases v with
  | object fields =>
    rw [fxSchema, Schema.object_object] at h
    obtain ⟨_, hsource, h⟩ := Option.bind_eq_some_iff.mp h
    obtain ⟨_, htarget, h⟩ := Option.bind_eq_some_iff.mp h
    obtain ⟨_, hrate, h⟩ := Option.bind_eq_some_iff.mp h
    obtain ⟨_, hlocal, h⟩ := Option.bind_eq_some_iff.mp h
    obtain rfl := Option.some.inj h
    exact ⟨fields, rfl, hsource, htarget, hrate, hlocal⟩
  | _ => cases h

theorem Agent.decodes {ρ : Type} {rail : Schema ρ} {agent : Agent ρ}
    (h : agentSchema rail v = some agent) :
    ∃ fields, v = .object fields ∧ agent.Decodes rail fields := by
  cases v with
  | object fields =>
    rw [agentSchema, Schema.object_object] at h
    obtain ⟨_, hrail, h⟩ := Option.bind_eq_some_iff.mp h
    obtain ⟨_, hbic, h⟩ := Option.bind_eq_some_iff.mp h
    obtain ⟨_, hroutingNumber, h⟩ := Option.bind_eq_some_iff.mp h
    obtain ⟨_, hispb, h⟩ := Option.bind_eq_some_iff.mp h
    obtain ⟨_, hinstitutionCode, h⟩ := Option.bind_eq_some_iff.mp h
    obtain rfl := Option.some.inj h
    exact ⟨fields, rfl, hrail, hbic, hroutingNumber, hispb, hinstitutionCode⟩
  | _ => cases h

theorem Party.decodes {party : Party} (h : partySchema v = some party) :
    ∃ fields, v = .object fields ∧ party.Decodes fields := by
  cases v with
  | object fields =>
    rw [partySchema, Schema.object_object] at h
    obtain ⟨_, hname, h⟩ := Option.bind_eq_some_iff.mp h
    obtain ⟨_, hcountry, h⟩ := Option.bind_eq_some_iff.mp h
    obtain ⟨_, haccountId, h⟩ := Option.bind_eq_some_iff.mp h
    obtain ⟨_, htaxId, h⟩ := Option.bind_eq_some_iff.mp h
    obtain ⟨_, haccountType, h⟩ := Option.bind_eq_some_iff.mp h
    obtain ⟨_, hagencia, h⟩ := Option.bind_eq_some_iff.mp h
    obtain ⟨_, hemail, h⟩ := Option.bind_eq_some_iff.mp h
    obtain ⟨_, hphone, h⟩ := Option.bind_eq_some_iff.mp h
    obtain ⟨_, haddress, h⟩ := Option.bind_eq_some_iff.mp h
    obtain rfl := Option.some.inj h
    exact ⟨fields, rfl, hname, hcountry, haccountId, htaxId, haccountType, hagencia, hemail, hphone,
      haddress⟩
  | _ => cases h

theorem Alias.decodes {«alias» : Alias} (h : aliasSchema v = some «alias») :
    ∃ fields, v = .object fields ∧ «alias».Decodes fields := by
  cases v with
  | object fields =>
    rw [aliasSchema, Schema.object_object] at h
    obtain ⟨_, htype, h⟩ := Option.bind_eq_some_iff.mp h
    obtain ⟨_, hvalue, h⟩ := Option.bind_eq_some_iff.mp h
    obtain rfl := Option.some.inj h
    exact ⟨fields, rfl, htype, hvalue⟩
  | _ => cases h

end

/-! ### What the schema accepts -/

/-- A message that the schema returns for some value. -/
def CanonicalPacs008.SchemaValid (c : CanonicalPacs008) : Prop :=
  ∃ v, canonicalPacs008Schema v = some c

/-- The properties of an object decode to the fields of `c`. -/
structure CanonicalPacs008.Decodes (fields : List (String × JsValue)) (c : CanonicalPacs008) :
    Prop where
  paymentId : (Schema.string.check isPaymentId).field "payment_id" fields = some c.paymentId
  createdAt : (Schema.string.refine fun s => isDatetime s = true).field "created_at" fields =
    some c.createdAt
  grpHdr : grpHdrSchema.field "grpHdr" fields = some c.grpHdr
  pmtId : pmtIdSchema.field "pmtId" fields = some c.pmtId
  amount : amountSchema.field "amount" fields = some c.amount
  fx : fxSchema.optional.field "fx" fields = some c.fx
  origin : (agentSchema (Schema.enumeration railNames)).field "origin" fields = some c.origin
  destination : (agentSchema (Schema.enumeration railNames).optional).field "destination" fields =
    some c.destination
  debtor : partySchema.field "debtor" fields = some c.debtor
  creditor : partySchema.field "creditor" fields = some c.creditor
  «alias» : aliasSchema.field "alias" fields = some c.alias
  purpose : ((Schema.textUpTo 35).default (js "P2P")).field "purpose" fields = some c.purpose
  reference : ((Schema.textUpTo 140).default (js "MIPIT-POC")).field "reference" fields =
    some c.reference
  remittanceInfo : (Schema.textUpTo 140).optional.field "remittanceInfo" fields =
    some c.remittanceInfo
  status : Schema.string.field "status" fields = some c.status
  traceId : Schema.string.optional.field "trace_id" fields = some c.traceId
  railAck : railAckSchema.nullable.optional.field "rail_ack" fields = some c.railAck

/-- **What the schema accepts**: objects whose properties decode. -/
theorem canonicalPacs008Schema_eq_some {v : JsValue} {c : CanonicalPacs008} :
    canonicalPacs008Schema v = some c ↔ ∃ fields, v = .object fields ∧ c.Decodes fields := by
  constructor
  · intro h
    cases v with
    | object fields =>
      refine ⟨fields, rfl, ?_⟩
      rw [canonicalPacs008Schema, Schema.object_object] at h
      obtain ⟨_, paymentId, h⟩ := Option.bind_eq_some_iff.mp h
      obtain ⟨_, createdAt, h⟩ := Option.bind_eq_some_iff.mp h
      obtain ⟨_, grpHdr, h⟩ := Option.bind_eq_some_iff.mp h
      obtain ⟨_, pmtId, h⟩ := Option.bind_eq_some_iff.mp h
      obtain ⟨_, amount, h⟩ := Option.bind_eq_some_iff.mp h
      obtain ⟨_, fx, h⟩ := Option.bind_eq_some_iff.mp h
      obtain ⟨_, origin, h⟩ := Option.bind_eq_some_iff.mp h
      obtain ⟨_, destination, h⟩ := Option.bind_eq_some_iff.mp h
      obtain ⟨_, debtor, h⟩ := Option.bind_eq_some_iff.mp h
      obtain ⟨_, creditor, h⟩ := Option.bind_eq_some_iff.mp h
      obtain ⟨_, alias', h⟩ := Option.bind_eq_some_iff.mp h
      obtain ⟨_, purpose, h⟩ := Option.bind_eq_some_iff.mp h
      obtain ⟨_, reference, h⟩ := Option.bind_eq_some_iff.mp h
      obtain ⟨_, remittanceInfo, h⟩ := Option.bind_eq_some_iff.mp h
      obtain ⟨_, status, h⟩ := Option.bind_eq_some_iff.mp h
      obtain ⟨_, traceId, h⟩ := Option.bind_eq_some_iff.mp h
      obtain ⟨_, railAck, h⟩ := Option.bind_eq_some_iff.mp h
      obtain rfl := Option.some.inj h
      exact ⟨paymentId, createdAt, grpHdr, pmtId, amount, fx, origin, destination, debtor,
        creditor, alias', purpose, reference, remittanceInfo, status, traceId, railAck⟩
    | _ => simp [canonicalPacs008Schema, Schema.object] at h
  · intro h
    obtain ⟨fields, rfl, d⟩ := h
    rw [canonicalPacs008Schema, Schema.object_object]
    refine Option.bind_eq_some_iff.mpr ⟨_, d.paymentId, ?_⟩
    refine Option.bind_eq_some_iff.mpr ⟨_, d.createdAt, ?_⟩
    refine Option.bind_eq_some_iff.mpr ⟨_, d.grpHdr, ?_⟩
    refine Option.bind_eq_some_iff.mpr ⟨_, d.pmtId, ?_⟩
    refine Option.bind_eq_some_iff.mpr ⟨_, d.amount, ?_⟩
    refine Option.bind_eq_some_iff.mpr ⟨_, d.fx, ?_⟩
    refine Option.bind_eq_some_iff.mpr ⟨_, d.origin, ?_⟩
    refine Option.bind_eq_some_iff.mpr ⟨_, d.destination, ?_⟩
    refine Option.bind_eq_some_iff.mpr ⟨_, d.debtor, ?_⟩
    refine Option.bind_eq_some_iff.mpr ⟨_, d.creditor, ?_⟩
    refine Option.bind_eq_some_iff.mpr ⟨_, d.alias, ?_⟩
    refine Option.bind_eq_some_iff.mpr ⟨_, d.purpose, ?_⟩
    refine Option.bind_eq_some_iff.mpr ⟨_, d.reference, ?_⟩
    refine Option.bind_eq_some_iff.mpr ⟨_, d.remittanceInfo, ?_⟩
    refine Option.bind_eq_some_iff.mpr ⟨_, d.status, ?_⟩
    refine Option.bind_eq_some_iff.mpr ⟨_, d.traceId, ?_⟩
    refine Option.bind_eq_some_iff.mpr ⟨_, d.railAck, ?_⟩
    rfl

/-- A number that is the amount of an accepted object is the message's amount, and positive. -/
theorem CanonicalPacs008.Decodes.amount_value {fields rest : List (String × JsValue)}
    {c : CanonicalPacs008} {n : Number} (d : c.Decodes fields)
    (h : JsValue.field "amount" fields = .object (("value", .number n) :: rest)) :
    c.amount.value = n ∧ n.isPositive = true := by
  obtain ⟨part, hpart, damount⟩ := Amount.decodes d.amount
  obtain rfl := JsValue.object.inj (h.symm.trans hpart)
  obtain ⟨hvalue, hpositive⟩ := Schema.positiveNumber_eq_some.mp damount.value
  obtain rfl : n = c.amount.value := JsValue.number.inj hvalue
  exact ⟨rfl, hpositive⟩

theorem CanonicalPacs008.SchemaValid.isPositive {c : CanonicalPacs008} (h : c.SchemaValid) :
    c.amount.value.isPositive = true := by
  obtain ⟨v, hv⟩ := h
  obtain ⟨fields, -, d⟩ := canonicalPacs008Schema_eq_some.mp hv
  obtain ⟨part, -, damount⟩ := Amount.decodes d.amount
  exact (Schema.positiveNumber_eq_some.mp damount.value).2

end MipitCore
