import MipitCore.Domain.Accepted
import MipitCore.Domain.AliasPatterns
import MipitCore.Translation.Decoder

/-!
# ISO 20022

The decoder of pacs.008 takes the message itself or one that is wrapped in a document. The
encoder does not know which kind of account a party had: it writes an IBAN where the alias
is one or the account looks like one.

## Main definitions

* `isoMessage`, `isoObject`, `iso20022MxToCanonical`
* `Iso20022Pacs008`, `buildAccount`, `canonicalToIso20022Mx`, `wrapInDocument`

## Main results

* `amount_of_isoObject` — the amount of a message
* `isoObject_toValue`, `isoObject_wrapInDocument` — what a message becomes, wrapped or not
* `iso20022MxToCanonical_toValue` — an accepted message is the canonical message of its object
-/

namespace MipitCore.Translation

open Js
open CodeUnit (isDigit)

/-- The message of a payload, which may be wrapped in a document. -/
def isoMessage (payload : JsValue) : Option JsValue := do
  let doc ← payload.get "Document"
  return (doc.getOptional "FIToFICstmrCdtTrf").nullish payload

/-- `agent?.FinInstnId.key` -/
def isoAgent (agent : JsValue) (key : String) : Option JsValue :=
  agent.chain fun agent => agent.path ["FinInstnId", key]

/-- An account: its IBAN, and its identifier. -/
def isoAccount (account : JsValue) : Option (JsValue × JsValue) := do
  let id ← account.get "Id"
  let iban ← id.get "IBAN"
  let othr := (← id.get "Othr").getOptional "Id"
  return (iban, iban.nullish (othr.nullish (.string (js "UNKNOWN"))))

/-- `amount ? parseFloat(amount.value) : undefined` -/
def instructedAmount [Arithmetic] (amount : JsValue) : Option JsValue :=
  if amount.truthy then do
    let value ← (← amount.get "value").parseFloat
    return .number value
  else some .undefined

/-- The conversion that a message states. -/
def isoFx [Arithmetic] (xchgRate instdAmt : JsValue) (currency : Text) : Option JsValue :=
  if xchgRate.truthy then do
    let rate ← xchgRate.parseFloat
    return .object
      [("rate", .number rate),
        ("source_currency", (instdAmt.getOptional "Ccy").nullish (.string currency)),
        ("local_amount", ← instructedAmount instdAmt)]
  else some .undefined

/-- `v?.[0]` -/
def firstItem (v : JsValue) : Option JsValue := v.chain JsValue.first

/-- The remittance information, unstructured or a reference. -/
def isoRemittance (rmtInf : JsValue) : Option JsValue := do
  let strd ← firstItem (rmtInf.getOptional "Strd")
  return (rmtInf.getOptional "Ustrd").nullish ((strd.getOptional "CdtrRefInf").getOptional "Ref")

/-- A party of a message, whose account is given. -/
def isoParty (party accountId : JsValue) : Option JsValue := do
  let address ← party.get "PstlAdr"
  return .object
    [("name", ← (← party.get "Nm").chain (JsValue.substring 140)),
      ("country", address.getOptional "Ctry"),
      ("account_id", accountId),
      ("address", ← (address.getOptional "AdrLine").chain (JsValue.slice 4))]

/-- The object that is made of a message. -/
def isoObject [Arithmetic] (engine : Engine) (fresh : Fresh) (payload : JsValue) (paymentId : Text)
    (traceId : Option Text) : Option JsValue := do
  let msg ← isoMessage payload
  let grp ← msg.get "GrpHdr"
  let txn ← msg.get "CdtTrfTxInf"
  let settlementAmount ← (← txn.path ["IntrBkSttlmAmt", "value"]).parseFloat
  let currency := engine.toUpperCase (← (← txn.path ["IntrBkSttlmAmt", "Ccy"]).text)
  let (_, debtorAccountId) ← isoAccount (← txn.get "DbtrAcct")
  let (creditorIban, creditorAccountId) ← isoAccount (← txn.get "CdtrAcct")
  let dbtrAgt ← txn.get "DbtrAgt"
  let cdtrAgt ← txn.get "CdtrAgt"
  let instdAmt ← txn.get "InstdAmt"
  let purp ← txn.get "Purp"
  let purpose := (purp.getOptional "Cd").nullish
    ((purp.getOptional "Prtry").nullish (.string (js "P2P")))
  let pmtId ← txn.get "PmtId"
  let endToEndId ← pmtId.get "EndToEndId"
  return .object
    [("payment_id", .string paymentId),
      ("created_at", .string fresh.now.1),
      ("grpHdr", .object
        [("msgId", (← grp.get "MsgId").nullish (.string (js "MSG-" ++ fresh.msgUlid.1))),
          ("creDtTm", (← grp.get "CreDtTm").nullish (.string fresh.now.1)),
          ("nbOfTxs", .number
            (← ((← grp.get "NbOfTxs").nullish (.string (js "1"))).parseInt)),
          ("sttlmInf", .object
            [("sttlmMtd", ((← grp.get "SttlmInf").getOptional "SttlmMtd").nullish
              (.string (js "CLRG")))])]),
      ("pmtId", .object
        [("endToEndId", ← endToEndId.substring 35),
          ("instrId", ← (← pmtId.get "InstrId").chain (JsValue.substring 35)),
          ("txId", ← (← pmtId.get "TxId").chain (JsValue.substring 35))]),
      ("amount", .object
        [("value", .number settlementAmount), ("currency", .string currency),
          ("instdAmt", ← instructedAmount instdAmt),
          ("instdAmtCcy", ← (instdAmt.getOptional "Ccy").chain fun ccy =>
            ccy.text.map fun s => JsValue.string (engine.toUpperCase s))]),
      ("fx", ← isoFx (← txn.get "XchgRate") instdAmt currency),
      ("origin", .object
        [("rail", .string (js Rail.iso20022Mx.name)), ("bic", ← isoAgent dbtrAgt "BICFI"),
          ("routingNumber", (← isoAgent dbtrAgt "ClrSysMmbId").getOptional "MmbId")]),
      ("destination", .object
        [("rail", .undefined), ("bic", ← isoAgent cdtrAgt "BICFI"),
          ("routingNumber", (← isoAgent cdtrAgt "ClrSysMmbId").getOptional "MmbId")]),
      ("debtor", ← isoParty (← txn.get "Dbtr") debtorAccountId),
      ("creditor", ← isoParty (← txn.get "Cdtr") creditorAccountId),
      ("alias", .object
        [("type", .string (js (if creditorIban.truthy then AliasType.iban.name
          else AliasType.account.name))), ("value", creditorAccountId)]),
      ("purpose", ← purpose.substring 35),
      ("reference", endToEndId),
      ("remittanceInfo", ← (← isoRemittance (← txn.get "RmtInf")).chain (JsValue.substring 140)),
      ("status", .string (js "RECEIVED")),
      ("trace_id", JsValue.ofText? traceId)]

/-- `iso20022MxToCanonical(payload, paymentId, traceId)` -/
def iso20022MxToCanonical [Arithmetic] (engine : Engine) (fresh : Fresh) (payload : JsValue)
    (paymentId : Text) (traceId : Option Text) : Except Failure CanonicalPacs008 :=
  decoded .iso20022Mx "Invalid canonical output from ISO 20022 translation"
    "Unexpected error during ISO 20022 translation"
    (isoObject engine fresh payload paymentId traceId)

/-! ### The encoder -/

/-- `PstlAdr` -/
structure PostalAddress where
  ctry : Option Text
  adrLine : Option (List Text)
  deriving DecidableEq

/-- `ClrSysMmbId`, with the code of the clearing system. -/
structure IsoMember where
  clrSysId : Option Text
  mmbId : Text
  deriving DecidableEq

/-- `FinInstnId` -/
structure IsoAgent where
  bicfi : Option Text
  clrSysMmbId : Option IsoMember
  deriving DecidableEq

/-- `Id` of a party: a private person's or an organisation's. -/
structure IsoPartyId where
  prvtId : Option Text
  orgId : Option Text
  deriving DecidableEq

/-- `Dbtr` and `Cdtr` -/
structure IsoParty where
  nm : Option Text
  pstlAdr : Option PostalAddress
  id : Option IsoPartyId
  deriving DecidableEq

/-- `SchmeNm` and `Purp`: a code of the standard or of someone else. -/
structure IsoCode where
  cd : Option Text
  prtry : Option Text
  deriving DecidableEq

/-- `Othr`, the identifier of an account that is no IBAN. -/
structure IsoOthr where
  id : Text
  schmeNm : Option IsoCode
  deriving DecidableEq

/-- `Id` of `DbtrAcct` and `CdtrAcct` -/
structure IsoAccount where
  iban : Option Text
  othr : Option IsoOthr
  deriving DecidableEq

/-- An amount, as text. -/
structure IsoAmount where
  ccy : Text
  value : Text
  deriving DecidableEq

/-- `RmtInf`; of each structured item the reference, `CdtrRefInf?.Ref`. -/
structure IsoRemittance where
  ustrd : Option Text
  strd : Option (List (Option Text))
  deriving DecidableEq

structure Iso20022Pacs008 where
  msgId : Text
  creDtTm : Text
  nbOfTxs : Text
  sttlmMtd : SettlementMethod
  instgAgt : Option IsoAgent
  instdAgt : Option IsoAgent
  instrId : Option Text
  endToEndId : Text
  txId : Option Text
  intrBkSttlmAmt : IsoAmount
  instdAmt : Option IsoAmount
  intrBkSttlmDt : Option Text
  xchgRate : Option Text
  dbtrAgt : Option IsoAgent
  dbtr : IsoParty
  dbtrAcct : IsoAccount
  cdtrAgt : Option IsoAgent
  cdtr : IsoParty
  cdtrAcct : IsoAccount
  purp : Option IsoCode
  rmtInf : Option IsoRemittance
  deriving DecidableEq

/-- `buildAgent(bic, routingNumber)` -/
def buildAgent (bic routingNumber : Option Text) : Option IsoAgent :=
  let member := routingNumber.filter (· ≠ [])
  if (bic.filter (· ≠ [])).isNone && member.isNone then none
  else some
    { bicfi := bic
      clrSysMmbId := member.map fun mmbId => ⟨some (js "USABA"), mmbId⟩ }

/-- `buildParty(party)` -/
def buildParty (party : Party) : IsoParty where
  nm := party.name.map fun name => name.substring 140
  pstlAdr :=
    if (party.country.filter (· ≠ [])).isSome || party.address.isSome then
      some ⟨party.country, party.address.map fun lines => lines.take 4⟩
    else none
  id := (party.taxId.filter (· ≠ [])).map fun taxId =>
    ⟨some (Text.substring (taxId.filter isDigit) 35), none⟩

/-- `mapAliasTypeToScheme(aliasType)` -/
def mapAliasTypeToScheme : Option AliasType → Option Text
  | some .pixKey | some .clabe => some (js "BBAN")
  | some .abaRouting => some (js "ABA")
  | some .bic => some (js "BIC")
  | _ => none

/-- `buildAccount(accountId, aliasType, aliasValue)` -/
def buildAccount (accountId : Text) (aliasType : Option AliasType) (aliasValue : Option Text) :
    IsoAccount :=
  let cleanId := stripNetworkPrefix accountId
  if aliasType = some .iban || isIban cleanId then ⟨some (aliasValue.getD cleanId), none⟩
  else
    { iban := none
      othr := some
        { id := aliasValue.getD cleanId
          schmeNm := match mapAliasTypeToScheme aliasType with
            | some schemeCode => some ⟨some schemeCode, none⟩
            | none => some ⟨none, some ((aliasType.map fun t => js t.name).getD (js "ACCOUNT"))⟩ } }

/-- `buildRemittance(canonical)` -/
def buildRemittance (c : CanonicalPacs008) : Option IsoRemittance :=
  let reference := if c.reference ≠ js "MIPIT-POC" then some c.reference else none
  ((c.remittanceInfo.or reference).filter (· ≠ [])).map fun unstrd =>
    ⟨some (Text.substring unstrd 140), none⟩

/-- `canonicalToIso20022Mx(canonical)` -/
def canonicalToIso20022Mx [Arithmetic] (c : CanonicalPacs008) : Iso20022Pacs008 where
  msgId := c.grpHdr.msgId
  creDtTm := c.grpHdr.creDtTm.1
  nbOfTxs := js "1"
  sttlmMtd := (c.grpHdr.sttlmInf.map SettlementInformation.sttlmMtd).getD .clrg
  instgAgt := (c.origin.bic.filter (· ≠ [])).map fun bic => ⟨some bic, none⟩
  instdAgt := (c.destination.bic.filter (· ≠ [])).map fun bic => ⟨some bic, none⟩
  instrId := c.pmtId.instrId
  endToEndId := c.pmtId.endToEndId
  txId := c.pmtId.txId
  intrBkSttlmAmt := ⟨c.amount.currency, c.amount.value.toFixed 2⟩
  instdAmt := (c.amount.instdAmt.filter fun n => (JsValue.number n).truthy).map fun n =>
    ⟨c.amount.instdAmtCcy.getD c.amount.currency, n.toFixed 2⟩
  intrBkSttlmDt := some (c.createdAt.1.slice 0 10)
  xchgRate := ((c.fx.bind Fx.rate).filter fun n => (JsValue.number n).truthy).map Number.toText
  dbtrAgt := buildAgent c.origin.bic c.origin.routingNumber
  dbtr := buildParty c.debtor
  dbtrAcct := buildAccount c.debtor.accountId
    (if c.alias.type = .iban then none else some c.alias.type) none
  cdtrAgt := buildAgent c.destination.bic c.destination.routingNumber
  cdtr := buildParty c.creditor
  cdtrAcct := buildAccount c.creditor.accountId (some c.alias.type) (some c.alias.value)
  purp := some ⟨some (c.purpose.substring 4), none⟩
  rmtInf := buildRemittance c

theorem filter_truthy {n : Number} (h : n.isPositive = true) :
    (some n).filter (fun n => (JsValue.number n).truthy) = some n := by
  have htruthy : (JsValue.number n).truthy = true := by
    cases n with
    | nan => cases h
    | inf negative => rfl
    | fin q =>
      have hq : 0 < q := by simpa using h
      simp [JsValue.truthy, hq.ne']
  rw [Option.filter, if_pos htruthy]

/-! ### Messages as values -/

/-- `v?.toValue`, absent where `v` is. -/
def ofOption {α : Type} (toValue : α → JsValue) (a : Option α) : JsValue :=
  (a.map toValue).getD .undefined

def PostalAddress.toValue (address : PostalAddress) : JsValue := .object
  [("Ctry", JsValue.ofText? address.ctry), ("AdrLine", JsValue.ofTexts? address.adrLine)]

def IsoMember.toValue (member : IsoMember) : JsValue := .object
  [("ClrSysId", ofOption (fun cd => .object [("Cd", .string cd)]) member.clrSysId),
    ("MmbId", .string member.mmbId)]

def IsoAgent.toValue (agent : IsoAgent) : JsValue := .object
  [("FinInstnId", .object
    [("BICFI", JsValue.ofText? agent.bicfi),
      ("ClrSysMmbId", ofOption IsoMember.toValue agent.clrSysMmbId)])]

def IsoPartyId.toValue (id : IsoPartyId) : JsValue :=
  let othr (id : Text) : JsValue := .object [("Othr", .object [("Id", .string id)])]
  .object [("PrvtId", ofOption othr id.prvtId), ("OrgId", ofOption othr id.orgId)]

def IsoParty.toValue (party : IsoParty) : JsValue := .object
  [("Nm", JsValue.ofText? party.nm), ("PstlAdr", ofOption PostalAddress.toValue party.pstlAdr),
    ("Id", ofOption IsoPartyId.toValue party.id)]

def IsoCode.toValue (code : IsoCode) : JsValue := .object
  [("Cd", JsValue.ofText? code.cd), ("Prtry", JsValue.ofText? code.prtry)]

def IsoOthr.toValue (othr : IsoOthr) : JsValue := .object
  [("Id", .string othr.id), ("SchmeNm", ofOption IsoCode.toValue othr.schmeNm)]

def IsoAccount.toValue (account : IsoAccount) : JsValue := .object
  [("Id", .object
    [("IBAN", JsValue.ofText? account.iban), ("Othr", ofOption IsoOthr.toValue account.othr)])]

def IsoAmount.toValue (amount : IsoAmount) : JsValue := .object
  [("Ccy", .string amount.ccy), ("value", .string amount.value)]

def IsoRemittance.toValue (info : IsoRemittance) : JsValue :=
  let item (ref : Option Text) : JsValue := .object
    [("CdtrRefInf", ofOption (fun ref => .object [("Ref", .string ref)]) ref)]
  .object [("Ustrd", JsValue.ofText? info.ustrd),
    ("Strd", ofOption (fun refs => .array (refs.map item)) info.strd)]

def Iso20022Pacs008.toValue (msg : Iso20022Pacs008) : JsValue := .object
  [("GrpHdr", .object
    [("MsgId", .string msg.msgId), ("CreDtTm", .string msg.creDtTm),
      ("NbOfTxs", .string msg.nbOfTxs),
      ("SttlmInf", .object [("SttlmMtd", .string (js msg.sttlmMtd.name))]),
      ("InstgAgt", ofOption IsoAgent.toValue msg.instgAgt),
      ("InstdAgt", ofOption IsoAgent.toValue msg.instdAgt)]),
    ("CdtTrfTxInf", .object
      [("PmtId", .object
        [("InstrId", JsValue.ofText? msg.instrId), ("EndToEndId", .string msg.endToEndId),
          ("TxId", JsValue.ofText? msg.txId)]),
        ("IntrBkSttlmAmt", msg.intrBkSttlmAmt.toValue),
        ("InstdAmt", ofOption IsoAmount.toValue msg.instdAmt),
        ("IntrBkSttlmDt", JsValue.ofText? msg.intrBkSttlmDt),
        ("XchgRate", JsValue.ofText? msg.xchgRate),
        ("DbtrAgt", ofOption IsoAgent.toValue msg.dbtrAgt), ("Dbtr", msg.dbtr.toValue),
        ("DbtrAcct", msg.dbtrAcct.toValue),
        ("CdtrAgt", ofOption IsoAgent.toValue msg.cdtrAgt), ("Cdtr", msg.cdtr.toValue),
        ("CdtrAcct", msg.cdtrAcct.toValue),
        ("Purp", ofOption IsoCode.toValue msg.purp),
        ("RmtInf", ofOption IsoRemittance.toValue msg.rmtInf)])]

/-- `wrapInDocument(msg)` -/
def wrapInDocument (msg : JsValue) : JsValue := .object
  [("Document", .object
    [("@xmlns", .string (js "urn:iso:std:iso:20022:tech:xsd:pacs.008.001.08")),
      ("FIToFICstmrCdtTrf", msg)])]

theorem getOptional_ofOption (key : String) (o : Option (Option Text)) :
    (ofOption (fun text => .object [(key, JsValue.ofText? text)]) o).getOptional key =
      JsValue.ofText? o.join := by
  cases o with
  | none => rfl
  | some text => simp [ofOption]

theorem PostalAddress.getOptional_ctry (address : Option PostalAddress) :
    (ofOption PostalAddress.toValue address).getOptional "Ctry" =
      JsValue.ofText? (address.bind PostalAddress.ctry) := by
  cases address <;> rfl

theorem PostalAddress.chain_adrLine (address : Option PostalAddress) :
    ((ofOption PostalAddress.toValue address).getOptional "AdrLine").chain (JsValue.slice 4) =
      some (JsValue.ofTexts? ((address.bind PostalAddress.adrLine).map fun lines => lines.take 4)) := by
  cases address with
  | none => rfl
  | some address => exact JsValue.slice_ofTexts? _ _

/-! ### What a message becomes -/

section

variable {engine : Engine} {fresh fresh' : Fresh} {msg : Iso20022Pacs008} {paymentId : Text}
  {traceId : Option Text} {c : CanonicalPacs008}

/-- The identifier of an account, its IBAN where it has one. -/
def IsoAccount.accountId (account : IsoAccount) : Text :=
  account.iban.getD ((account.othr.map IsoOthr.id).getD (js "UNKNOWN"))

/-- The conversion that a message states. -/
def isoFxValue [Arithmetic] (engine : Engine) (msg : Iso20022Pacs008) : JsValue :=
  ofOption (fun rate : Text => .object
    [("rate", .number (parseFloat rate)),
      ("source_currency", .string ((msg.instdAmt.map IsoAmount.ccy).getD
        (engine.toUpperCase msg.intrBkSttlmAmt.ccy))),
      ("local_amount", JsValue.ofNumber? (msg.instdAmt.map fun amount => parseFloat amount.value))])
    (msg.xchgRate.filter (· ≠ []))

/-- The agent that a message names, as part of the object. -/
def isoAgentFields (rail : JsValue) (agent : Option IsoAgent) : List (String × JsValue) :=
  [("rail", rail), ("bic", JsValue.ofText? (agent.bind IsoAgent.bicfi)),
    ("routingNumber",
      JsValue.ofText? ((agent.bind IsoAgent.clrSysMmbId).map IsoMember.mmbId))]

/-- What a party becomes. -/
def isoPartyFields (party : IsoParty) (account : IsoAccount) : List (String × JsValue) :=
  [("name", JsValue.ofText? (party.nm.map fun name => name.substring 140)),
    ("country", JsValue.ofText? (party.pstlAdr.bind PostalAddress.ctry)),
    ("account_id", .string account.accountId),
    ("address", JsValue.ofTexts?
      ((party.pstlAdr.bind PostalAddress.adrLine).map fun lines => lines.take 4))]

/-- The purpose of a message. -/
def isoPurpose (purp : Option IsoCode) : Text :=
  (purp.bind IsoCode.cd).getD ((purp.bind IsoCode.prtry).getD (js "P2P"))

/-- The remittance information of a message, unstructured or the first reference. -/
def isoRemittanceInfo (info : Option IsoRemittance) : Option Text :=
  (info.bind IsoRemittance.ustrd).or
    ((info.bind IsoRemittance.strd).bind fun refs => refs.head?.join)

/-- The type of a creditor's alias. -/
def isoAliasType (account : IsoAccount) : AliasType :=
  if (account.iban.filter (· ≠ [])).isSome then .iban else .account

/-- What a message becomes. -/
def isoFields [Arithmetic] (engine : Engine) (fresh : Fresh) (msg : Iso20022Pacs008)
    (paymentId : Text) (traceId : Option Text) : List (String × JsValue) :=
  [("payment_id", .string paymentId),
    ("created_at", .string fresh.now.1),
    ("grpHdr", .object
      [("msgId", .string msg.msgId), ("creDtTm", .string msg.creDtTm),
        ("nbOfTxs", .number (parseInt msg.nbOfTxs)),
        ("sttlmInf", .object [("sttlmMtd", .string (js msg.sttlmMtd.name))])]),
    ("pmtId", .object
      [("endToEndId", .string (msg.endToEndId.substring 35)),
        ("instrId", JsValue.ofText? (msg.instrId.map fun id => id.substring 35)),
        ("txId", JsValue.ofText? (msg.txId.map fun id => id.substring 35))]),
    ("amount", .object
      [("value", .number (parseFloat msg.intrBkSttlmAmt.value)),
        ("currency", .string (engine.toUpperCase msg.intrBkSttlmAmt.ccy)),
        ("instdAmt", JsValue.ofNumber? (msg.instdAmt.map fun amount => parseFloat amount.value)),
        ("instdAmtCcy",
          JsValue.ofText? (msg.instdAmt.map fun amount => engine.toUpperCase amount.ccy))]),
    ("fx", isoFxValue engine msg),
    ("origin", .object (isoAgentFields (.string (js Rail.iso20022Mx.name)) msg.dbtrAgt)),
    ("destination", .object (isoAgentFields .undefined msg.cdtrAgt)),
    ("debtor", .object (isoPartyFields msg.dbtr msg.dbtrAcct)),
    ("creditor", .object (isoPartyFields msg.cdtr msg.cdtrAcct)),
    ("alias", .object
      [("type", .string (js (isoAliasType msg.cdtrAcct).name)),
        ("value", .string msg.cdtrAcct.accountId)]),
    ("purpose", .string ((isoPurpose msg.purp).substring 35)),
    ("reference", .string msg.endToEndId),
    ("remittanceInfo",
      JsValue.ofText? ((isoRemittanceInfo msg.rmtInf).map fun info => info.substring 140)),
    ("status", .string (js "RECEIVED")),
    ("trace_id", JsValue.ofText? traceId)]

theorem isoAccount_toValue (account : IsoAccount) :
    isoAccount account.toValue =
      some (JsValue.ofText? account.iban, .string account.accountId) := by
  have hothr : ((ofOption IsoOthr.toValue account.othr).getOptional "Id").nullish
      (.string (js "UNKNOWN")) = .string ((account.othr.map IsoOthr.id).getD (js "UNKNOWN")) := by
    cases account.othr <;> rfl
  rw [isoAccount]
  iterate 3 refine Option.bind_eq_some_iff.mpr ⟨_, rfl, ?_⟩
  rw [IsoAccount.accountId, ← JsValue.nullish_ofText?, ← hothr]
  rfl

theorem instructedAmount_toValue [Arithmetic] (amount : Option IsoAmount) :
    instructedAmount (ofOption IsoAmount.toValue amount) =
      some (JsValue.ofNumber? (amount.map fun amount => parseFloat amount.value)) := by
  cases amount with
  | none => rfl
  | some amount => simp [instructedAmount, ofOption, IsoAmount.toValue, JsValue.truthy,
      JsValue.ofNumber?]

theorem isoFx_toValue [Arithmetic] :
    isoFx (JsValue.ofText? msg.xchgRate) (ofOption IsoAmount.toValue msg.instdAmt)
      (engine.toUpperCase msg.intrBkSttlmAmt.ccy) = some (isoFxValue engine msg) := by
  have hccy : ((ofOption IsoAmount.toValue msg.instdAmt).getOptional "Ccy").nullish
      (.string (engine.toUpperCase msg.intrBkSttlmAmt.ccy)) =
        .string ((msg.instdAmt.map IsoAmount.ccy).getD
          (engine.toUpperCase msg.intrBkSttlmAmt.ccy)) := by
    cases msg.instdAmt <;> rfl
  unfold isoFx isoFxValue
  cases msg.xchgRate with
  | none => rfl
  | some rate =>
    by_cases hrate : rate = []
    · rw [hrate]
      rfl
    · rw [Option.filter_some_pos (by simpa using hrate), ← hccy,
        if_pos (by simpa [JsValue.ofText?, JsValue.truthy] using hrate)]
      refine Option.bind_eq_some_iff.mpr ⟨_, JsValue.parseFloat_string rate, ?_⟩
      exact Option.bind_eq_some_iff.mpr ⟨_, instructedAmount_toValue msg.instdAmt, rfl⟩

theorem isoAgent_bicfi (agent : Option IsoAgent) :
    isoAgent (ofOption IsoAgent.toValue agent) "BICFI" =
      some (JsValue.ofText? (agent.bind IsoAgent.bicfi)) := by
  cases agent <;> rfl

theorem isoAgent_member (agent : Option IsoAgent) :
    isoAgent (ofOption IsoAgent.toValue agent) "ClrSysMmbId" =
      some (ofOption IsoMember.toValue (agent.bind IsoAgent.clrSysMmbId)) := by
  cases agent <;> rfl

theorem IsoMember.getOptional_mmbId (member : Option IsoMember) :
    (ofOption IsoMember.toValue member).getOptional "MmbId" =
      JsValue.ofText? (member.map IsoMember.mmbId) := by
  cases member <;> rfl

theorem isoParty_toValue (party : IsoParty) (account : IsoAccount) :
    isoParty party.toValue (.string account.accountId) =
      some (.object (isoPartyFields party account)) := by
  rw [isoParty]
  iterate 2 refine Option.bind_eq_some_iff.mpr ⟨_, rfl, ?_⟩
  refine Option.bind_eq_some_iff.mpr ⟨_, JsValue.substring_ofText? 140 party.nm, ?_⟩
  refine Option.bind_eq_some_iff.mpr ⟨_, PostalAddress.chain_adrLine party.pstlAdr, ?_⟩
  rw [isoPartyFields, ← PostalAddress.getOptional_ctry]
  rfl

theorem isoRemittance_toValue (info : Option IsoRemittance) :
    isoRemittance (ofOption IsoRemittance.toValue info) =
      some (JsValue.ofText? (isoRemittanceInfo info)) := by
  cases info with
  | none => rfl
  | some info =>
    obtain ⟨ustrd, strd⟩ := info
    obtain _ | refs := strd
    · cases ustrd <;> rfl
    · obtain _ | ⟨ref, refs⟩ := refs
      · cases ustrd <;> rfl
      · cases ustrd <;> cases ref <;> rfl

theorem isoMessage_toValue : isoMessage msg.toValue = some msg.toValue := rfl

theorem isoObject_toValue [Arithmetic] :
    isoObject engine fresh msg.toValue paymentId traceId =
      some (.object (isoFields engine fresh msg paymentId traceId)) := by
  have hcurrency : ((ofOption IsoAmount.toValue msg.instdAmt).getOptional "Ccy").chain
      (fun ccy => ccy.text.map fun s => JsValue.string (engine.toUpperCase s)) =
        some (JsValue.ofText? (msg.instdAmt.map fun amount => engine.toUpperCase amount.ccy)) := by
    cases msg.instdAmt <;> rfl
  have hpurpose : ((ofOption IsoCode.toValue msg.purp).getOptional "Cd").nullish
      (((ofOption IsoCode.toValue msg.purp).getOptional "Prtry").nullish (.string (js "P2P"))) =
        .string (isoPurpose msg.purp) := by
    obtain _ | ⟨cd, prtry⟩ := msg.purp
    · rfl
    · cases cd <;> cases prtry <;> rfl
  have htype : (if (JsValue.ofText? msg.cdtrAcct.iban).truthy then AliasType.iban.name
      else AliasType.account.name) = (isoAliasType msg.cdtrAcct).name := by
    unfold isoAliasType
    cases msg.cdtrAcct.iban with
    | none => rfl
    | some iban => by_cases hiban : iban = [] <;> simp [JsValue.ofText?, JsValue.truthy, hiban]
  have hinfo := JsValue.substring_ofText? 140 (isoRemittanceInfo msg.rmtInf)
  rw [isoObject]
  refine Option.bind_eq_some_iff.mpr ⟨_, isoMessage_toValue, ?_⟩
  iterate 3 refine Option.bind_eq_some_iff.mpr ⟨_, rfl, ?_⟩
  refine Option.bind_eq_some_iff.mpr ⟨_, JsValue.parseFloat_string _, ?_⟩
  iterate 3 refine Option.bind_eq_some_iff.mpr ⟨_, rfl, ?_⟩
  refine Option.bind_eq_some_iff.mpr ⟨_, isoAccount_toValue msg.dbtrAcct, ?_⟩
  refine Option.bind_eq_some_iff.mpr ⟨_, rfl, ?_⟩
  refine Option.bind_eq_some_iff.mpr ⟨_, isoAccount_toValue msg.cdtrAcct, ?_⟩
  iterate 9 refine Option.bind_eq_some_iff.mpr ⟨_, rfl, ?_⟩
  refine Option.bind_eq_some_iff.mpr ⟨_, JsValue.parseInt_string _, ?_⟩
  iterate 3 refine Option.bind_eq_some_iff.mpr ⟨_, rfl, ?_⟩
  refine Option.bind_eq_some_iff.mpr ⟨_, JsValue.substring_ofText? 35 msg.instrId, ?_⟩
  refine Option.bind_eq_some_iff.mpr ⟨_, rfl, ?_⟩
  refine Option.bind_eq_some_iff.mpr ⟨_, JsValue.substring_ofText? 35 msg.txId, ?_⟩
  refine Option.bind_eq_some_iff.mpr ⟨_, instructedAmount_toValue msg.instdAmt, ?_⟩
  refine Option.bind_eq_some_iff.mpr ⟨_, hcurrency, ?_⟩
  refine Option.bind_eq_some_iff.mpr ⟨_, rfl, ?_⟩
  refine Option.bind_eq_some_iff.mpr ⟨_, isoFx_toValue, ?_⟩
  refine Option.bind_eq_some_iff.mpr ⟨_, isoAgent_bicfi msg.dbtrAgt, ?_⟩
  refine Option.bind_eq_some_iff.mpr ⟨_, isoAgent_member msg.dbtrAgt, ?_⟩
  refine Option.bind_eq_some_iff.mpr ⟨_, isoAgent_bicfi msg.cdtrAgt, ?_⟩
  refine Option.bind_eq_some_iff.mpr ⟨_, isoAgent_member msg.cdtrAgt, ?_⟩
  refine Option.bind_eq_some_iff.mpr ⟨_, rfl, ?_⟩
  refine Option.bind_eq_some_iff.mpr ⟨_, isoParty_toValue msg.dbtr msg.dbtrAcct, ?_⟩
  refine Option.bind_eq_some_iff.mpr ⟨_, rfl, ?_⟩
  refine Option.bind_eq_some_iff.mpr ⟨_, isoParty_toValue msg.cdtr msg.cdtrAcct, ?_⟩
  refine Option.bind_eq_some_iff.mpr ⟨_, (congrArg (JsValue.substring 35) hpurpose).trans rfl, ?_⟩
  refine Option.bind_eq_some_iff.mpr ⟨_, rfl, ?_⟩
  refine Option.bind_eq_some_iff.mpr ⟨_, isoRemittance_toValue msg.rmtInf, ?_⟩
  refine Option.bind_eq_some_iff.mpr ⟨_, hinfo, ?_⟩
  rw [isoFields, isoAgentFields, isoAgentFields, ← IsoMember.getOptional_mmbId,
    ← IsoMember.getOptional_mmbId, ← htype]
  rfl

/-- **A wrapped message** becomes the object of the message itself. -/
theorem isoObject_wrapInDocument [Arithmetic] :
    isoObject engine fresh (wrapInDocument msg.toValue) paymentId traceId =
      isoObject engine fresh msg.toValue paymentId traceId := rfl

/-- What an agent of an accepted message's canonical message is. -/
structure IsoAgentDecoded {ρ : Type} (agent : Option IsoAgent) (a : Agent ρ) : Prop where
  bic : a.bic = agent.bind IsoAgent.bicfi
  routingNumber : a.routingNumber = (agent.bind IsoAgent.clrSysMmbId).map IsoMember.mmbId

/-- What a party of an accepted message's canonical message is. -/
structure IsoPartyDecoded (party : IsoParty) (account : IsoAccount) (p : Party) : Prop where
  name : p.name = party.nm.map fun name => name.substring 140
  country : p.country = party.pstlAdr.bind PostalAddress.ctry
  accountId : p.accountId = account.accountId
  address : p.address =
    (party.pstlAdr.bind PostalAddress.adrLine).map fun lines => lines.take 4

/-- What the fields of an accepted message's canonical message are. -/
structure IsoDecoded [Arithmetic] (engine : Engine) (msg : Iso20022Pacs008)
    (c : CanonicalPacs008) : Prop where
  msgId : c.grpHdr.msgId = msg.msgId
  creDtTm : c.grpHdr.creDtTm.1 = msg.creDtTm
  sttlmInf : c.grpHdr.sttlmInf = some ⟨msg.sttlmMtd⟩
  endToEndId : c.pmtId.endToEndId = msg.endToEndId.substring 35
  instrId : c.pmtId.instrId = msg.instrId.map fun id => id.substring 35
  txId : c.pmtId.txId = msg.txId.map fun id => id.substring 35
  amount : c.amount.value = parseFloat msg.intrBkSttlmAmt.value
  isPositive : c.amount.value.isPositive = true
  currency : c.amount.currency = engine.toUpperCase msg.intrBkSttlmAmt.ccy
  instdAmt : c.amount.instdAmt = msg.instdAmt.map fun amount => parseFloat amount.value
  instdAmt_isPositive : ∀ n ∈ c.amount.instdAmt, n.isPositive = true
  instdAmtCcy : c.amount.instdAmtCcy = msg.instdAmt.map fun amount => engine.toUpperCase amount.ccy
  rate : c.fx.bind Fx.rate = (msg.xchgRate.filter (· ≠ [])).map parseFloat
  rate_isPositive : ∀ n ∈ c.fx.bind Fx.rate, n.isPositive = true
  origin : IsoAgentDecoded msg.dbtrAgt c.origin
  destination : IsoAgentDecoded msg.cdtrAgt c.destination
  debtor : IsoPartyDecoded msg.dbtr msg.dbtrAcct c.debtor
  creditor : IsoPartyDecoded msg.cdtr msg.cdtrAcct c.creditor
  aliasType : c.alias.type = isoAliasType msg.cdtrAcct
  aliasValue : c.alias.value = msg.cdtrAcct.accountId
  purpose : c.purpose = (isoPurpose msg.purp).substring 35
  remittanceInfo : c.remittanceInfo =
    (isoRemittanceInfo msg.rmtInf).map fun info => info.substring 140

theorem isoAgentDecoded_of_holds {ρ : Type} {rail : JsValue} {agent : Option IsoAgent}
    {a : Agent ρ} (h : a.Holds (isoAgentFields rail agent)) : IsoAgentDecoded agent a where
  bic := by simpa [isoAgentFields] using h.bic.symm
  routingNumber := by simpa [isoAgentFields] using h.routingNumber.symm

theorem isoPartyDecoded_of_holds {party : IsoParty} {account : IsoAccount} {p : Party}
    (h : p.Holds (isoPartyFields party account)) : IsoPartyDecoded party account p where
  name := by simpa [isoPartyFields] using h.name.symm
  country := by simpa [isoPartyFields] using h.country.symm
  accountId := by simpa [isoPartyFields] using h.accountId.symm
  address := by simpa [isoPartyFields] using h.address.symm

/-- The rate of an accepted message, and that it is positive. -/
theorem isoRate_of_decodes [Arithmetic]
    (d : c.Decodes (isoFields engine fresh msg paymentId traceId)) :
    c.fx.bind Fx.rate = (msg.xchgRate.filter (· ≠ [])).map parseFloat ∧
      ∀ n ∈ c.fx.bind Fx.rate, n.isPositive = true := by
  have hfield : JsValue.field "fx" (isoFields engine fresh msg paymentId traceId) =
      isoFxValue engine msg := rfl
  cases hrate : msg.xchgRate.filter (· ≠ []) with
  | none =>
    rw [isoFxValue, hrate] at hfield
    rw [d.fx_eq_none hfield]
    exact ⟨rfl, by simp⟩
  | some rate =>
    rw [isoFxValue, hrate] at hfield
    obtain ⟨fx, hfx, hholds⟩ := d.fx_holds hfield
    have hn : JsValue.ofNumber? (some (parseFloat rate)) = JsValue.ofNumber? fx.rate := hholds.rate
    rw [hfx, Option.bind_some]
    exact ⟨(JsValue.ofNumber?_inj.mp hn).symm, hholds.rate_isPositive⟩

theorem sttlmInf_of_holds {grpHdr : GroupHeader} {fields : List (String × JsValue)}
    {method : SettlementMethod} (h : grpHdr.Holds fields)
    (hfield : JsValue.field "sttlmInf" fields =
      .object [("sttlmMtd", .string (js method.name))]) : grpHdr.sttlmInf = some ⟨method⟩ := by
  have hinf := h.sttlmInf
  have hschema : sttlmInfSchema.optional (.object [("sttlmMtd", .string (js method.name))]) =
      some (some ⟨method⟩) := by
    cases method <;> decide
  rw [Schema.field, hfield, hschema] at hinf
  exact (Option.some.inj hinf).symm

/-- **An accepted message** becomes the canonical message of its object. -/
theorem iso20022MxToCanonical_toValue [Arithmetic]
    (h : iso20022MxToCanonical engine fresh msg.toValue paymentId traceId = .ok c) :
    IsoDecoded engine msg c := by
  rw [iso20022MxToCanonical, isoObject_toValue] at h
  have d := decoded_object_eq_ok.mp h
  have hgrpHdr := d.grpHdr_holds rfl
  have hpmtId := d.pmtId_holds rfl
  have hamount := d.amount_holds rfl
  have halias := d.alias_holds rfl
  constructor
  · simpa using hgrpHdr.msgId.symm
  · simpa using hgrpHdr.creDtTm.symm
  · exact sttlmInf_of_holds hgrpHdr rfl
  · simpa using hpmtId.endToEndId.symm
  · simpa using hpmtId.instrId.symm
  · simpa using hpmtId.txId.symm
  · simpa using hamount.value.symm
  · exact hamount.isPositive
  · simpa using hamount.currency.symm
  · simpa using hamount.instdAmt.symm
  · exact hamount.instdAmt_isPositive
  · simpa using hamount.instdAmtCcy.symm
  · exact (isoRate_of_decodes d).1
  · exact (isoRate_of_decodes d).2
  · exact isoAgentDecoded_of_holds (d.origin_holds rfl)
  · exact isoAgentDecoded_of_holds (d.destination_holds rfl)
  · exact isoPartyDecoded_of_holds (d.debtor_holds rfl)
  · exact isoPartyDecoded_of_holds (d.creditor_holds rfl)
  · have htype := halias.type
    simp only [Schema.field, JsValue.field_cons, ↓reduceIte, Schema.enumeration_string, js_inj,
      aliasTypeNames_find, Option.map_some] at htype
    exact (Option.some.inj htype).symm
  · simpa using halias.value.symm
  · exact d.purpose_holds rfl
  · have hinfo := d.remittanceInfo_holds
    simpa [isoFields] using hinfo.symm

end

/-- The amount of the object that is made of a message. -/
theorem amount_of_isoObject [Arithmetic] {engine : Engine} {fresh : Fresh}
    {payload msg raw : JsValue} {paymentId s : Text} {traceId : Option Text}
    (hmsg : isoMessage payload = some msg)
    (hs : msg.path ["CdtTrfTxInf", "IntrBkSttlmAmt", "value"] = some (.string s))
    (h : isoObject engine fresh payload paymentId traceId = some raw) :
    HasAmount (parseFloat s) raw := by
  obtain ⟨msg', hmsg', h⟩ := Option.bind_eq_some_iff.mp h
  obtain rfl : msg = msg' := Option.some.inj (hmsg.symm.trans hmsg')
  obtain ⟨_, -, h⟩ := Option.bind_eq_some_iff.mp h
  obtain ⟨txn, htxn, h⟩ := Option.bind_eq_some_iff.mp h
  obtain ⟨value, hvalue, h⟩ := Option.bind_eq_some_iff.mp h
  obtain ⟨amount, hamount, h⟩ := Option.bind_eq_some_iff.mp h
  obtain rfl : value = .string s := by
    rw [JsValue.path_cons, htxn, Option.bind_some, hvalue] at hs
    exact Option.some.inj hs
  obtain rfl : parseFloat s = amount := by
    simpa using hamount
  iterate 38 obtain ⟨_, -, h⟩ := Option.bind_eq_some_iff.mp h
  obtain rfl := Option.some.inj h
  exact ⟨_, _, rfl, rfl⟩

end MipitCore.Translation
