import MipitCore.Domain.Accepted
import MipitCore.Translation.FedNow

/-!
# ACH

A transaction of ACH is an entry in a batch. The code of the entry says whether money
goes to the receiver or comes from it, and into which kind of account; the decoder does
not read it, and the encoder writes that of a credit to a checking account. The encoder
writes the amount in cents, whatever its currency.

## Main definitions

* `AchTransactionCode`
* `AchEntryDetail`, `AchBatchHeader`, `AchAddenda`, `AchNachaTransaction`
* `achNachaObject`, `achNachaToCanonical`
* `canonicalToAchNacha`

## Main results

* `achNachaToCanonical_toValue` — an accepted transaction is the canonical message of its
  object
-/

namespace MipitCore.Translation

open Js
open CodeUnit (ascii isDigit)

/-- `AchTransactionCode` -/
inductive AchTransactionCode
  | checkingCredit | checkingCreditPrenote | checkingDebit | checkingDebitPrenote
  | savingsCredit | savingsCreditPrenote | savingsDebit | savingsDebitPrenote
  deriving DecidableEq, Repr

/-- The number of a code. -/
def AchTransactionCode.code : AchTransactionCode → ℕ
  | checkingCredit => 22
  | checkingCreditPrenote => 23
  | checkingDebit => 27
  | checkingDebitPrenote => 28
  | savingsCredit => 32
  | savingsCreditPrenote => 33
  | savingsDebit => 37
  | savingsDebitPrenote => 38

structure AchEntryDetail where
  transactionCode : AchTransactionCode
  routingTransitNumber : Text
  accountNumber : Text
  amount : Number
  individualIdNumber : Option Text
  individualName : Text
  discretionaryData : Option Text
  addendaRecordIndicator : Text
  traceNumber : Option Text
  deriving DecidableEq

structure AchBatchHeader where
  serviceClassCode : Text
  companyName : Text
  companyId : Text
  secCode : Text
  companyEntryDescription : Text
  companyDescriptiveDate : Option Text
  effectiveEntryDate : Text
  originatingDfiId : Text
  batchNumber : Text
  deriving DecidableEq

structure AchAddenda where
  addendaTypeCode : Text
  paymentRelatedInfo : Text
  addendaSequence : Text
  traceNumber : Text
  deriving DecidableEq

structure AchOriginator where
  name : Text
  accountNumber : Text
  routingNumber : Text
  taxId : Option Text
  deriving DecidableEq

structure AchOdfi where
  name : Text
  routingNumber : Text
  countryCode : Text
  deriving DecidableEq

structure AchNachaTransaction where
  batchHeader : AchBatchHeader
  entryDetail : AchEntryDetail
  originator : AchOriginator
  odfi : AchOdfi
  addenda : Option (List AchAddenda)
  deriving DecidableEq

/-! ### The decoder -/

/-- `entry.traceNumber`, and else a number that starts with the originating institution. -/
def achTraceNumber [Arithmetic] (fresh : Fresh) (entry batch : JsValue) : Option JsValue := do
  let number ← (← batch.get "originatingDfiId").toText
  return (← entry.get "traceNumber").nullish
    (.string (number ++ Text.padStart (natText fresh.randomNumber) 7 (ascii '0')))

/-- The object that is made of a transaction. -/
def achNachaObject [Arithmetic] (fresh : Fresh) (txn : JsValue) (paymentId : Text)
    (traceId : Option Text) : Option JsValue := do
  let entry ← txn.get "entryDetail"
  let batch ← txn.get "batchHeader"
  let originator ← txn.get "originator"
  let amount ← (← entry.get "amount").toNumber
  let traceNumber ← achTraceNumber fresh entry batch
  let companyId ← batch.get "companyId"
  let reference := (← companyId.toText) ++ ascii '-' :: (← (← batch.get "batchNumber").toText)
  let dfi ← (← batch.get "originatingDfiId").text
  let rtn ← (← entry.get "routingTransitNumber").text
  let account ← (← entry.get "accountNumber").text
  let individualName ← (← entry.get "individualName").text
  let description ← (← batch.get "companyEntryDescription").text
  let purpose := (Text.trim description).substring 35
  let addenda ← (← txn.get "addenda").chain JsValue.first
  return .object
    [("payment_id", .string paymentId),
      ("created_at", .string fresh.now.1),
      ("grpHdr", .object
        [("msgId", .string (js "MSG-" ++ fresh.msgUlid.1)), ("creDtTm", .string fresh.now.1),
          ("nbOfTxs", .number (.fin 1))]),
      ("pmtId", .object
        [("endToEndId", ← traceNumber.substring 35),
          ("instrId", .string (reference.substring 35))]),
      ("amount", .object
        [("value", .number (amount.div (.fin 100))), ("currency", .string (js "USD"))]),
      ("origin", .object
        [("rail", .string (js Rail.achNacha.name)),
          ("routingNumber", .string ((dfi.substring 9).padEnd 9 (ascii '0'))),
          ("bic", .undefined)]),
      ("destination", .object
        [("rail", .undefined), ("routingNumber", .string (rtn.substring 9)),
          ("bic", .undefined)]),
      ("debtor", .object
        [("name", ← ((originator.getOptional "name").nullish (← batch.get "companyName")).substring
            140),
          ("country", .string (js "US")),
          ("account_id", (originator.getOptional "accountNumber").nullish companyId),
          ("taxId", originator.getOptional "taxId")]),
      ("creditor", .object
        [("name", .string ((Text.trim individualName).substring 140)),
          ("country", .string (js "US")), ("account_id", .string (Text.trim account))]),
      ("alias", .object
        [("type", .string (js AliasType.abaRouting.name)),
          ("value", .string (rtn.substring 9 ++ ascii '/' :: Text.trim account))]),
      ("purpose", .string (if purpose = [] then js "P2P" else purpose)),
      ("reference", .string reference),
      ("remittanceInfo",
        ← (addenda.getOptional "paymentRelatedInfo").chain (JsValue.substring 140)),
      ("status", .string (js "RECEIVED")),
      ("trace_id", JsValue.ofText? traceId)]

/-- `achNachaToCanonical(payload, paymentId, traceId)` -/
def achNachaToCanonical [Arithmetic] (fresh : Fresh) (payload : JsValue) (paymentId : Text)
    (traceId : Option Text) : Except Failure CanonicalPacs008 :=
  decoded .achNacha "Invalid canonical output from ACH NACHA translation"
    "Unexpected error during ACH NACHA translation"
    (achNachaObject fresh payload paymentId traceId)

/-! ### Transactions as values -/

def AchEntryDetail.toValue (entry : AchEntryDetail) : JsValue := .object
  [("recordType", .string (js "6")), ("transactionCode", .number (.fin entry.transactionCode.code)),
    ("routingTransitNumber", .string entry.routingTransitNumber),
    ("accountNumber", .string entry.accountNumber), ("amount", .number entry.amount),
    ("individualIdNumber", JsValue.ofText? entry.individualIdNumber),
    ("individualName", .string entry.individualName),
    ("discretionaryData", JsValue.ofText? entry.discretionaryData),
    ("addendaRecordIndicator", .string entry.addendaRecordIndicator),
    ("traceNumber", JsValue.ofText? entry.traceNumber)]

def AchBatchHeader.toValue (batch : AchBatchHeader) : JsValue := .object
  [("recordType", .string (js "5")), ("serviceClassCode", .string batch.serviceClassCode),
    ("companyName", .string batch.companyName), ("companyId", .string batch.companyId),
    ("secCode", .string batch.secCode),
    ("companyEntryDescription", .string batch.companyEntryDescription),
    ("companyDescriptiveDate", JsValue.ofText? batch.companyDescriptiveDate),
    ("effectiveEntryDate", .string batch.effectiveEntryDate),
    ("originatingDfiId", .string batch.originatingDfiId),
    ("batchNumber", .string batch.batchNumber)]

def AchAddenda.toValue (addenda : AchAddenda) : JsValue := .object
  [("recordType", .string (js "7")), ("addendaTypeCode", .string addenda.addendaTypeCode),
    ("paymentRelatedInfo", .string addenda.paymentRelatedInfo),
    ("addendaSequence", .string addenda.addendaSequence),
    ("traceNumber", .string addenda.traceNumber)]

def AchOriginator.toValue (originator : AchOriginator) : JsValue := .object
  [("name", .string originator.name), ("accountNumber", .string originator.accountNumber),
    ("routingNumber", .string originator.routingNumber),
    ("taxId", JsValue.ofText? originator.taxId)]

def AchOdfi.toValue (odfi : AchOdfi) : JsValue := .object
  [("name", .string odfi.name), ("routingNumber", .string odfi.routingNumber),
    ("countryCode", .string odfi.countryCode)]

def AchNachaTransaction.toValue (txn : AchNachaTransaction) : JsValue := .object
  [("batchHeader", txn.batchHeader.toValue), ("entryDetail", txn.entryDetail.toValue),
    ("originator", txn.originator.toValue), ("odfi", txn.odfi.toValue),
    ("addenda", (txn.addenda.map fun records => JsValue.array (records.map AchAddenda.toValue)).getD
      .undefined)]

/-! ### What a transaction becomes -/

section

variable {fresh : Fresh} {txn : AchNachaTransaction} {paymentId : Text} {traceId : Option Text}

/-- The purpose of a transaction. -/
def achPurpose (txn : AchNachaTransaction) : Text :=
  let purpose := (Text.trim txn.batchHeader.companyEntryDescription).substring 35
  if purpose = [] then js "P2P" else purpose

/-- The remittance information of a transaction, in its first addenda. -/
def achRemittance (txn : AchNachaTransaction) : Option Text :=
  (txn.addenda.bind List.head?).map fun record => record.paymentRelatedInfo.substring 140

/-- `${batch.companyId}-${batch.batchNumber}` -/
def achReference (txn : AchNachaTransaction) : Text :=
  txn.batchHeader.companyId ++ ascii '-' :: txn.batchHeader.batchNumber

/-- The trace number of a transaction, which the decoder makes up where there is none. -/
def achTrace (fresh : Fresh) (txn : AchNachaTransaction) : Text :=
  txn.entryDetail.traceNumber.getD (txn.batchHeader.originatingDfiId ++
    Text.padStart (natText fresh.randomNumber) 7 (ascii '0'))

/-- What a transaction becomes. -/
def achFields [Arithmetic] (fresh : Fresh) (txn : AchNachaTransaction) (paymentId : Text)
    (traceId : Option Text) : List (String × JsValue) :=
  let account := Text.trim txn.entryDetail.accountNumber
  let rtn := txn.entryDetail.routingTransitNumber.substring 9
  [("payment_id", .string paymentId),
    ("created_at", .string fresh.now.1),
    ("grpHdr", .object
      [("msgId", .string (js "MSG-" ++ fresh.msgUlid.1)), ("creDtTm", .string fresh.now.1),
        ("nbOfTxs", .number (.fin 1))]),
    ("pmtId", .object
      [("endToEndId", .string ((achTrace fresh txn).substring 35)),
        ("instrId", .string ((achReference txn).substring 35))]),
    ("amount", .object
      [("value", .number (txn.entryDetail.amount.div (.fin 100))), ("currency", .string (js "USD"))]),
    ("origin", .object
      [("rail", .string (js Rail.achNacha.name)),
        ("routingNumber",
          .string ((txn.batchHeader.originatingDfiId.substring 9).padEnd 9 (ascii '0'))),
        ("bic", .undefined)]),
    ("destination", .object
      [("rail", .undefined), ("routingNumber", .string rtn), ("bic", .undefined)]),
    ("debtor", .object
      [("name", .string (txn.originator.name.substring 140)), ("country", .string (js "US")),
        ("account_id", .string txn.originator.accountNumber),
        ("taxId", JsValue.ofText? txn.originator.taxId)]),
    ("creditor", .object
      [("name", .string ((Text.trim txn.entryDetail.individualName).substring 140)),
        ("country", .string (js "US")), ("account_id", .string account)]),
    ("alias", .object
      [("type", .string (js AliasType.abaRouting.name)),
        ("value", .string (rtn ++ ascii '/' :: account))]),
    ("purpose", .string (achPurpose txn)),
    ("reference", .string (achReference txn)),
    ("remittanceInfo", JsValue.ofText? (achRemittance txn)),
    ("status", .string (js "RECEIVED")),
    ("trace_id", JsValue.ofText? traceId)]

theorem achTraceNumber_toValue [Arithmetic] :
    achTraceNumber fresh txn.entryDetail.toValue txn.batchHeader.toValue =
      some (.string (achTrace fresh txn)) := by
  unfold achTrace
  cases htrace : txn.entryDetail.traceNumber <;>
    simp [achTraceNumber, AchBatchHeader.toValue, AchEntryDetail.toValue, htrace, JsValue.ofText?]

theorem achAddenda_toValue (txn : AchNachaTransaction) :
    (do
      let addenda ← ((txn.addenda.map fun records =>
        JsValue.array (records.map AchAddenda.toValue)).getD .undefined).chain JsValue.first
      (addenda.getOptional "paymentRelatedInfo").chain (JsValue.substring 140)) =
        some (JsValue.ofText? (achRemittance txn)) := by
  unfold achRemittance
  cases txn.addenda with
  | none => rfl
  | some records => cases records <;> rfl

theorem achNachaObject_toValue [Arithmetic] :
    achNachaObject fresh txn.toValue paymentId traceId =
      some (.object (achFields fresh txn paymentId traceId)) := by
  have haddenda := achAddenda_toValue txn
  obtain ⟨addenda, hfirst, hinfo⟩ := Option.bind_eq_some_iff.mp haddenda
  rw [achNachaObject]
  iterate 5 refine Option.bind_eq_some_iff.mpr ⟨_, rfl, ?_⟩
  refine Option.bind_eq_some_iff.mpr ⟨_, achTraceNumber_toValue, ?_⟩
  iterate 15 refine Option.bind_eq_some_iff.mpr ⟨_, rfl, ?_⟩
  refine Option.bind_eq_some_iff.mpr ⟨_, hfirst, ?_⟩
  iterate 3 refine Option.bind_eq_some_iff.mpr ⟨_, rfl, ?_⟩
  exact Option.bind_eq_some_iff.mpr ⟨_, hinfo, rfl⟩

/-- What the fields of an accepted transaction's canonical message are. -/
structure AchDecoded [Arithmetic] (txn : AchNachaTransaction) (c : CanonicalPacs008) : Prop where
  amount : c.amount.value = txn.entryDetail.amount.div (.fin 100)
  isPositive : c.amount.value.isPositive = true
  routingNumber : c.origin.routingNumber =
    some ((txn.batchHeader.originatingDfiId.substring 9).padEnd 9 (ascii '0'))
  debtorName : c.debtor.name = some (txn.originator.name.substring 140)
  debtorAccount : c.debtor.accountId = txn.originator.accountNumber
  creditorName : c.creditor.name = some ((Text.trim txn.entryDetail.individualName).substring 140)
  creditorAccount : c.creditor.accountId = Text.trim txn.entryDetail.accountNumber
  «alias» : c.alias.value = txn.entryDetail.routingTransitNumber.substring 9 ++
    ascii '/' :: Text.trim txn.entryDetail.accountNumber
  purpose : c.purpose = achPurpose txn

/-- **An accepted transaction** becomes the canonical message of its object. -/
theorem achNachaToCanonical_toValue [Arithmetic] {c : CanonicalPacs008}
    (h : achNachaToCanonical fresh txn.toValue paymentId traceId = .ok c) : AchDecoded txn c := by
  rw [achNachaToCanonical, achNachaObject_toValue] at h
  have d := decoded_object_eq_ok.mp h
  have hamount := d.amount_holds rfl
  have horigin := d.origin_holds rfl
  have hdebtor := d.debtor_holds rfl
  have hcreditor := d.creditor_holds rfl
  have halias := d.alias_holds rfl
  constructor
  · simpa using hamount.value.symm
  · exact hamount.isPositive
  · simpa using horigin.routingNumber
  · simpa using hdebtor.name
  · simpa using hdebtor.accountId.symm
  · simpa using hcreditor.name
  · simpa using hcreditor.accountId.symm
  · simpa using halias.value.symm
  · exact d.purpose_holds rfl

end

/-! ### The encoder -/

/-- `parseAbaAlias(aliasValue, fallbackAccount)` -/
def parseAbaAlias (aliasValue fallbackAccount : Text) : Text × Text :=
  let parts := Text.split aliasValue (ascii '/')
  let routing := parts.headD []
  if 2 ≤ parts.length ∧ routing.length = 9 ∧ isDigits routing = true then
    (routing, stripRailPrefix (Text.join parts.tail (ascii '/')))
  else (js "021000021", stripRailPrefix fallbackAccount)

/-- `buildAddendaPaymentInfo(canonical)` -/
def buildAddendaPaymentInfo (c : CanonicalPacs008) : Text :=
  let parts := (c.remittanceInfo.filter fun info => info ≠ []).toList ++
    if c.reference ≠ [] ∧ c.reference ≠ js "MIPIT-POC" then [js "REF:" ++ c.reference] else []
  (Text.join parts (ascii ' ')).substring 80

/-- `yymmdd` of an ISO date. -/
def yymmdd (isoDate : Text) : Text :=
  isoDate.slice 2 4 ++ isoDate.slice 5 7 ++ isoDate.slice 8 10

/-- `canonicalToAchNacha(canonical)` -/
def canonicalToAchNacha [Arithmetic] (fresh : Fresh) (c : CanonicalPacs008) : AchNachaTransaction :=
  let date := yymmdd (c.createdAt.1.slice 0 10)
  let (cdtrRouting, cdtrAccount) := parseAbaAlias c.alias.value c.creditor.accountId
  let (dbtrRouting, dbtrAccount) := parseAbaAlias
    (c.origin.routingNumber.getD (js "000000000") ++ ascii '/' :: stripRailPrefix c.debtor.accountId)
    c.debtor.accountId
  let odfiRouting := c.origin.routingNumber.getD dbtrRouting
  let batchNum := ((Text.replaceFirst (js "PMT-") [] c.paymentId).substring 7).map fun unit =>
    if isDigit unit then unit else ascii '0'
  let traceNum := odfiRouting.substring 8 ++
    Text.padStart (natText (fresh.millis % 10000000)) 7 (ascii '0')
  let hasRemittance := c.remittanceInfo.any fun info => info ≠ []
  { batchHeader :=
      { serviceClassCode := js "220"
        companyName := ((c.debtor.name.getD (js "MIPIT")).substring 16).padEnd 16 (ascii ' ')
        companyId := (c.debtor.taxId.map fun taxId =>
          Text.substring (taxId.filter isDigit) 10).getD (js "1234567890")
        secCode := if c.destination.routingNumber.any fun rtn => rtn ≠ [] then js "CCD" else js "PPD"
        companyEntryDescription := (c.purpose.substring 10).padEnd 10 (ascii ' ')
        companyDescriptiveDate := some date
        effectiveEntryDate := date
        originatingDfiId := odfiRouting.substring 8
        batchNumber := Text.padStart batchNum 7 (ascii '0') }
    entryDetail :=
      { transactionCode := .checkingCredit
        routingTransitNumber := cdtrRouting.substring 9
        accountNumber := (cdtrAccount.substring 17).padEnd 17 (ascii ' ')
        amount := (c.amount.value.mul (.fin 100)).round
        individualIdNumber := c.creditor.taxId.map fun taxId => Text.substring taxId 15
        individualName :=
          ((c.creditor.name.getD (js "BENEFICIARY")).substring 22).padEnd 22 (ascii ' ')
        discretionaryData := some (js "  ")
        addendaRecordIndicator := if hasRemittance then js "1" else js "0"
        traceNumber := some traceNum }
    originator :=
      { name := c.debtor.name.getD (js "MIPIT")
        accountNumber := dbtrAccount
        routingNumber := dbtrRouting
        taxId := c.debtor.taxId }
    odfi := ⟨js "MIPIT FI", odfiRouting, js "US"⟩
    addenda :=
      if hasRemittance then
        some [⟨js "05", buildAddendaPaymentInfo c, js "0001", traceNum⟩]
      else none }

end MipitCore.Translation
