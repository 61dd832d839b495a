import MipitCore.Translation.Iso20022Mx

/-!
# FedNow

FedNow settles in US dollars only. The encoder takes the dollars of a payment in another
currency from its conversion, without looking into which currency that is, and takes the
amount as it is where there is none.

## Main definitions

* `FedNowPaymentMessage`, `canonicalToFednow`
* `fednowAmount` — the amount that the encoder emits, before it is rounded
* `fednowObject`, `fednowToCanonical`

## Main results

* `amount_of_fednowObject` — the amount of a message
-/

namespace MipitCore.Translation

open Js
open CodeUnit (ascii isDigit)

/-- `s.replace(/^(PIX-|SPEI-)/, '')` -/
def stripRailPrefix (s : Text) : Text :=
  if s.startsWith (js "PIX-") then s.drop 4
  else if s.startsWith (js "SPEI-") then s.drop 5
  else s

/-- The account begins with the prefix of another rail. -/
def hasRailPrefix (s : Text) : Bool := s.startsWith (js "PIX-") || s.startsWith (js "SPEI-")

theorem stripRailPrefix_eq_self {s : Text} (h : hasRailPrefix s = false) : stripRailPrefix s = s := by
  obtain ⟨hpix, hspei⟩ := Bool.or_eq_false_iff.mp h
  rw [stripRailPrefix, hpix, hspei, if_neg Bool.false_ne_true, if_neg Bool.false_ne_true]

theorem hasRailPrefix_of_prefix {s t : Text} (hst : s <+: t) (h : hasRailPrefix t = false) :
    hasRailPrefix s = false := by
  have hbegins : ∀ p : Text, Text.startsWith t p = false → Text.startsWith s p = false := by
    intro p ht
    rw [← Bool.not_eq_true, Text.startsWith_iff] at ht ⊢
    exact fun hs => ht (hs.trans hst)
  obtain ⟨hpix, hspei⟩ := Bool.or_eq_false_iff.mp h
  exact Bool.or_eq_false_iff.mpr ⟨hbegins _ hpix, hbegins _ hspei⟩

theorem slash_notMem {s : Text} (h : isDigits s = true) : ascii '/' ∉ s := by
  intro hmem
  rw [isDigits, List.all_eq_true] at h
  exact absurd (h _ hmem) (by decide)

/-- `/^\d{9}\//` -/
def startsWithRtn (s : Text) : Bool :=
  (s.take 9).length = 9 && isDigits (s.take 9) && s[9]? = some (ascii '/')

/-- `extractRtnAndAccount(aliasValue, defaultRtn, accountFallback)` -/
def extractRtnAndAccount (aliasValue defaultRtn accountFallback : Text) : Text × Text :=
  let clean := stripRailPrefix aliasValue
  if startsWithRtn clean then
    let parts := Text.split clean (ascii '/')
    (parts.headD [], stripRailPrefix (Text.join parts.tail (ascii '/')))
  else (defaultRtn, stripRailPrefix accountFallback)

/-- `template.replace(/[xy]/g, …)`, given the random digits from the `n`th on. -/
def fillUetr (digits : ℕ → Fin 16) (n : ℕ) : Text → Text
  | [] => []
  | c :: template =>
    if c = ascii 'x' then hexDigit (digits n) :: fillUetr digits (n + 1) template
    else if c = ascii 'y' then hexDigit ((digits n).val % 4 + 8) :: fillUetr digits (n + 1) template
    else c :: fillUetr digits n template

/-- `generateUetr()` -/
def generateUetr (digits : ℕ → Fin 16) : Text :=
  fillUetr digits 0 (js "xxxxxxxx-xxxx-4xxx-yxxx-xxxxxxxxxxxx")

/-- The header of a FedNow message, which names the routing numbers of both agents. -/
structure FedNowHeader where
  frMmbId : Option Text
  toMmbId : Option Text
  bizMsgIdr : Text
  creDt : Text
  deriving DecidableEq

/-- A party of a FedNow message: its agent, its name and address, its account. -/
structure FedNowParty where
  rtn : Text
  name : Option Text
  address : Option PostalAddress
  account : Text
  deriving DecidableEq

/-- A FedNow message, up to what is the same in all of them and what no translation reads. -/
structure FedNowPaymentMessage where
  header : Option FedNowHeader
  msgId : Text
  creDtTm : Text
  endToEndId : Text
  txId : Option Text
  uetr : Option Text
  value : Text
  intrBkSttlmDt : Text
  debtor : FedNowParty
  creditor : FedNowParty
  /-- `Purp?.Cd?` -/
  purp : Option (Option Text)
  /-- `RmtInf?.Ustrd?` -/
  rmtInf : Option (Option Text)
  deriving DecidableEq

/-- `amountUsd`: FedNow only supports USD. -/
def fednowAmount [Arithmetic] (c : CanonicalPacs008) : Number :=
  if c.amount.currency = js "USD" then c.amount.value
  else (c.fx.bind Fx.localAmount).getD
    (c.amount.value.mul ((c.fx.bind Fx.rate).getD (.fin 1)))

/-- `canonicalToFednow(canonical)` -/
def canonicalToFednow [Arithmetic] (fresh : Fresh) (c : CanonicalPacs008) : FedNowPaymentMessage :=
  let (cdtrRtn, cdtrAccount) := extractRtnAndAccount c.alias.value
    (c.destination.routingNumber.getD (js "021000021")) c.creditor.accountId
  let (dbtrRtn, dbtrAccount) := extractRtnAndAccount c.debtor.accountId
    (c.origin.routingNumber.getD (js "021000021")) c.debtor.accountId
  { header := some
      { frMmbId := some dbtrRtn
        toMmbId := some cdtrRtn
        bizMsgIdr := (Text.replaceFirst (js "PMT-") (js "BIZ-") c.paymentId).substring 35
        creDt := fresh.now.1 }
    msgId := c.grpHdr.msgId
    creDtTm := fresh.now.1
    endToEndId := c.pmtId.endToEndId.substring 35
    txId := c.pmtId.txId
    uetr := some (generateUetr fresh.randomDigits)
    value := (fednowAmount c).toFixed 2
    intrBkSttlmDt := c.createdAt.1.slice 0 10
    debtor :=
      { rtn := dbtrRtn
        name := c.debtor.name.map fun name => name.substring 140
        address := some
          ⟨some (c.debtor.country.getD (js "US")), c.debtor.address.map fun lines => lines.take 4⟩
        account := dbtrAccount.substring 34 }
    creditor :=
      { rtn := cdtrRtn
        name := c.creditor.name.map fun name => name.substring 140
        address := some
          ⟨some (c.creditor.country.getD (js "US")), c.creditor.address.map fun lines => lines.take 4⟩
        account := cdtrAccount.substring 34 }
    purp := some (some (c.purpose.substring 4))
    rmtInf := (c.remittanceInfo.filter fun info => info ≠ []).map fun info =>
      some (Text.substring info 140) }

/-! ### The decoder -/

/-- A party of a FedNow message, whose agent and account are given. -/
def fednowParty [Arithmetic] (party rtn account : JsValue) : Option JsValue := do
  let address ← party.get "PstlAdr"
  return .object
    [("name", ← (← party.get "Nm").chain (JsValue.substring 140)),
      ("country", (address.getOptional "Ctry").nullish (.string (js "US"))),
      ("account_id", .string ((← rtn.toText) ++ ascii '/' :: (← account.toText))),
      ("address", ← (address.getOptional "AdrLine").chain (JsValue.slice 4))]

/-- The object that is made of a FedNow message. -/
def fednowObject [Arithmetic] (fresh : Fresh) (msg : JsValue) (paymentId : Text)
    (traceId : Option Text) : Option JsValue := do
  let cdtTrf ← msg.get "FIToFICstmrCdtTrf"
  let grp ← cdtTrf.get "GrpHdr"
  let txn ← cdtTrf.get "CdtTrfTxInf"
  let amount ← (← txn.path ["IntrBkSttlmAmt", "value"]).parseFloat
  let dbtrRtn ← txn.path ["DbtrAgt", "FinInstnId", "ClrSysMmbId", "MmbId"]
  let cdtrRtn ← txn.path ["CdtrAgt", "FinInstnId", "ClrSysMmbId", "MmbId"]
  let dbtrAccount ← txn.path ["DbtrAcct", "Id", "Othr", "Id"]
  let cdtrAccount ← txn.path ["CdtrAcct", "Id", "Othr", "Id"]
  let pmtId ← txn.get "PmtId"
  let uetr ← pmtId.get "UETR"
  let endToEndId ← pmtId.get "EndToEndId"
  return .object
    [("payment_id", .string paymentId),
      ("created_at", .string fresh.now.1),
      ("grpHdr", .object
        [("msgId", (← grp.get "MsgId").nullish (.string (js "MSG-" ++ fresh.msgUlid.1))),
          ("creDtTm", (← grp.get "CreDtTm").nullish (.string fresh.now.1)),
          ("nbOfTxs", .number (.fin 1)),
          ("sttlmInf", .object [("sttlmMtd", .string (js "CLRG"))])]),
      ("pmtId", .object
        [("endToEndId", ← endToEndId.substring 35),
          ("txId", ← (← pmtId.get "TxId").chain (JsValue.substring 35)),
          ("instrId", ← uetr.chain (JsValue.substring 35))]),
      ("amount", .object [("value", .number amount), ("currency", .string (js "USD"))]),
      ("origin", .object
        [("rail", .string (js Rail.fednow.name)), ("routingNumber", dbtrRtn), ("bic", .undefined)]),
      ("destination", .object
        [("rail", .undefined), ("routingNumber", cdtrRtn), ("bic", .undefined)]),
      ("debtor", ← fednowParty (← txn.get "Dbtr") dbtrRtn dbtrAccount),
      ("creditor", ← fednowParty (← txn.get "Cdtr") cdtrRtn cdtrAccount),
      ("alias", .object
        [("type", .string (js AliasType.abaRouting.name)),
          ("value", .string ((← cdtrRtn.toText) ++ ascii '/' :: (← cdtrAccount.toText)))]),
      ("purpose", (← ((← txn.get "Purp").getOptional "Cd").chain (JsValue.substring 35)).nullish
        (.string (js "P2P"))),
      ("reference", endToEndId),
      ("remittanceInfo",
        ← ((← txn.get "RmtInf").getOptional "Ustrd").chain (JsValue.substring 140)),
      ("status", .string (js "RECEIVED")),
      ("trace_id", (JsValue.ofText? traceId).nullish uetr)]

/-- `fednowToCanonical(payload, paymentId, traceId)` -/
def fednowToCanonical [Arithmetic] (fresh : Fresh) (payload : JsValue) (paymentId : Text)
    (traceId : Option Text) : Except Failure CanonicalPacs008 :=
  decoded .fednow "Invalid canonical output from FedNow translation"
    "Unexpected error during FedNow translation" (fednowObject fresh payload paymentId traceId)

/-! ### Messages as values -/

/-- `FIId`, with the identifier of a member of the clearing system. -/
def fiIdValue (mmbId : Option Text) : JsValue := .object
  [("FIId", .object [("FinInstnId", .object
    [("ClrSysMmbId", ofOption (fun id => .object [("MmbId", .string id)]) mmbId)])])]

def FedNowHeader.toValue (header : FedNowHeader) : JsValue := .object
  [("Fr", fiIdValue header.frMmbId), ("To", fiIdValue header.toMmbId),
    ("BizMsgIdr", .string header.bizMsgIdr), ("MsgDefIdr", .string (js "pacs.008.001.08")),
    ("BizSvc", .string (js "fednow")), ("CreDt", .string header.creDt)]

/-- `DbtrAgt` and `CdtrAgt` -/
def FedNowParty.agentValue (party : FedNowParty) : JsValue := .object
  [("FinInstnId", .object [("ClrSysMmbId", .object
    [("ClrSysId", .object [("Cd", .string (js "USABA"))]), ("MmbId", .string party.rtn)])])]

/-- `Dbtr` and `Cdtr` -/
def FedNowParty.toValue (party : FedNowParty) : JsValue := .object
  [("Nm", JsValue.ofText? party.name), ("PstlAdr", ofOption PostalAddress.toValue party.address)]

/-- `DbtrAcct` and `CdtrAcct` -/
def FedNowParty.accountValue (party : FedNowParty) : JsValue := .object
  [("Id", .object [("Othr", .object
    [("Id", .string party.account), ("SchmeNm", .object [("Cd", .string (js "BBAN"))])])]),
    ("Tp", .object [("Cd", .string (js "CACC"))])]

def FedNowPaymentMessage.toValue (msg : FedNowPaymentMessage) : JsValue := .object
  [("BusinessMessageHeader", ofOption FedNowHeader.toValue msg.header),
    ("FIToFICstmrCdtTrf", .object
      [("GrpHdr", .object
        [("MsgId", .string msg.msgId), ("CreDtTm", .string msg.creDtTm),
          ("NbOfTxs", .string (js "1")),
          ("SttlmInf", .object
            [("SttlmMtd", .string (js "CLRG")),
              ("ClrSys", .object [("Cd", .string (js "USABA"))])])]),
        ("CdtTrfTxInf", .object
          [("PmtId", .object
            [("EndToEndId", .string msg.endToEndId), ("TxId", JsValue.ofText? msg.txId),
              ("UETR", JsValue.ofText? msg.uetr)]),
            ("IntrBkSttlmAmt", .object
              [("Ccy", .string (js "USD")), ("value", .string msg.value)]),
            ("IntrBkSttlmDt", .string msg.intrBkSttlmDt),
            ("DbtrAgt", msg.debtor.agentValue), ("Dbtr", msg.debtor.toValue),
            ("DbtrAcct", msg.debtor.accountValue),
            ("CdtrAgt", msg.creditor.agentValue), ("Cdtr", msg.creditor.toValue),
            ("CdtrAcct", msg.creditor.accountValue),
            ("Purp", ofOption (fun cd => .object [("Cd", JsValue.ofText? cd)]) msg.purp),
            ("RmtInf", ofOption (fun ustrd => .object [("Ustrd", JsValue.ofText? ustrd)]) msg.rmtInf),
            ("LclInstrm", .object [("Prtry", .string (js "INST"))])])])]

/-! ### What a message becomes -/

section

variable {fresh : Fresh} {msg : FedNowPaymentMessage} {paymentId : Text} {traceId : Option Text}

/-- The country of a party. -/
def FedNowParty.country (party : FedNowParty) : Text :=
  (party.address.bind PostalAddress.ctry).getD (js "US")

/-- The lines of a party's address. -/
def FedNowParty.addressLines (party : FedNowParty) : Option (List Text) :=
  party.address.bind PostalAddress.adrLine

/-- The routing number and the account of a party, as one text. -/
def FedNowParty.accountId (party : FedNowParty) : Text := party.rtn ++ ascii '/' :: party.account

/-- What a party becomes. -/
def fednowPartyFields (party : FedNowParty) : List (String × JsValue) :=
  [("name", JsValue.ofText? (party.name.map fun name => name.substring 140)),
    ("country", .string party.country), ("account_id", .string party.accountId),
    ("address", JsValue.ofTexts? (party.addressLines.map fun lines => lines.take 4))]

theorem fednowParty_toValue [Arithmetic] (party : FedNowParty) :
    fednowParty party.toValue (.string party.rtn) (.string party.account) =
      some (.object (fednowPartyFields party)) := by
  have hctry : ((ofOption PostalAddress.toValue party.address).getOptional "Ctry").nullish
      (.string (js "US")) = .string party.country := by
    rw [PostalAddress.getOptional_ctry, JsValue.nullish_ofText?, FedNowParty.country]
  rw [fednowParty]
  refine Option.bind_eq_some_iff.mpr ⟨_, rfl, ?_⟩
  refine Option.bind_eq_some_iff.mpr ⟨_, rfl, ?_⟩
  refine Option.bind_eq_some_iff.mpr ⟨_, JsValue.substring_ofText? 140 party.name, ?_⟩
  refine Option.bind_eq_some_iff.mpr ⟨_, JsValue.toText_string _, ?_⟩
  refine Option.bind_eq_some_iff.mpr ⟨_, JsValue.toText_string _, ?_⟩
  refine Option.bind_eq_some_iff.mpr ⟨_, PostalAddress.chain_adrLine party.address, ?_⟩
  rw [fednowPartyFields, ← hctry]
  rfl

/-- The purpose of a message. -/
def fednowPurpose (msg : FedNowPaymentMessage) : Text :=
  (msg.purp.join.map fun cd => cd.substring 35).getD (js "P2P")

/-- What a message becomes. -/
def fednowFields [Arithmetic] (fresh : Fresh) (msg : FedNowPaymentMessage) (paymentId : Text)
    (traceId : Option Text) : List (String × JsValue) :=
  [("payment_id", .string paymentId),
    ("created_at", .string fresh.now.1),
    ("grpHdr", .object
      [("msgId", .string msg.msgId), ("creDtTm", .string msg.creDtTm),
        ("nbOfTxs", .number (.fin 1)), ("sttlmInf", .object [("sttlmMtd", .string (js "CLRG"))])]),
    ("pmtId", .object
      [("endToEndId", .string (msg.endToEndId.substring 35)),
        ("txId", JsValue.ofText? (msg.txId.map fun id => id.substring 35)),
        ("instrId", JsValue.ofText? (msg.uetr.map fun id => id.substring 35))]),
    ("amount", .object
      [("value", .number (parseFloat msg.value)), ("currency", .string (js "USD"))]),
    ("origin", .object
      [("rail", .string (js Rail.fednow.name)), ("routingNumber", .string msg.debtor.rtn),
        ("bic", .undefined)]),
    ("destination", .object
      [("rail", .undefined), ("routingNumber", .string msg.creditor.rtn), ("bic", .undefined)]),
    ("debtor", .object (fednowPartyFields msg.debtor)),
    ("creditor", .object (fednowPartyFields msg.creditor)),
    ("alias", .object
      [("type", .string (js AliasType.abaRouting.name)), ("value", .string msg.creditor.accountId)]),
    ("purpose", .string (fednowPurpose msg)),
    ("reference", .string msg.endToEndId),
    ("remittanceInfo", JsValue.ofText? (msg.rmtInf.join.map fun info => info.substring 140)),
    ("status", .string (js "RECEIVED")),
    ("trace_id", (JsValue.ofText? traceId).nullish (JsValue.ofText? msg.uetr))]

theorem fednowObject_toValue [Arithmetic] :
    fednowObject fresh msg.toValue paymentId traceId =
      some (.object (fednowFields fresh msg paymentId traceId)) := by
  have hpurp := JsValue.substring_ofText? 35 msg.purp.join
  rw [← getOptional_ofOption "Cd"] at hpurp
  have hinfo := JsValue.substring_ofText? 140 msg.rmtInf.join
  rw [← getOptional_ofOption "Ustrd"] at hinfo
  rw [fednowObject]
  iterate 4 refine Option.bind_eq_some_iff.mpr ⟨_, rfl, ?_⟩
  refine Option.bind_eq_some_iff.mpr ⟨_, JsValue.parseFloat_string _, ?_⟩
  iterate 10 refine Option.bind_eq_some_iff.mpr ⟨_, rfl, ?_⟩
  refine Option.bind_eq_some_iff.mpr ⟨_, rfl, ?_⟩
  refine Option.bind_eq_some_iff.mpr ⟨_, JsValue.substring_ofText? 35 msg.txId, ?_⟩
  refine Option.bind_eq_some_iff.mpr ⟨_, JsValue.substring_ofText? 35 msg.uetr, ?_⟩
  refine Option.bind_eq_some_iff.mpr ⟨_, rfl, ?_⟩
  refine Option.bind_eq_some_iff.mpr ⟨_, fednowParty_toValue msg.debtor, ?_⟩
  refine Option.bind_eq_some_iff.mpr ⟨_, rfl, ?_⟩
  refine Option.bind_eq_some_iff.mpr ⟨_, fednowParty_toValue msg.creditor, ?_⟩
  refine Option.bind_eq_some_iff.mpr ⟨_, JsValue.toText_string _, ?_⟩
  refine Option.bind_eq_some_iff.mpr ⟨_, JsValue.toText_string _, ?_⟩
  refine Option.bind_eq_some_iff.mpr ⟨_, rfl, ?_⟩
  refine Option.bind_eq_some_iff.mpr ⟨_, hpurp, ?_⟩
  refine Option.bind_eq_some_iff.mpr ⟨_, rfl, ?_⟩
  refine Option.bind_eq_some_iff.mpr ⟨_, hinfo, ?_⟩
  rw [fednowFields, fednowPurpose, ← JsValue.nullish_ofText?]
  rfl

/-- What the fields of an accepted message's canonical message are. -/
structure FedNowDecoded [Arithmetic] (msg : FedNowPaymentMessage) (c : CanonicalPacs008) :
    Prop where
  msgId : c.grpHdr.msgId = msg.msgId
  endToEndId : c.pmtId.endToEndId = msg.endToEndId.substring 35
  txId : c.pmtId.txId = msg.txId.map fun id => id.substring 35
  amount : c.amount.value = parseFloat msg.value
  isPositive : c.amount.value.isPositive = true
  currency : c.amount.currency = js "USD"
  origin : c.origin.routingNumber = some msg.debtor.rtn
  destination : c.destination.routingNumber = some msg.creditor.rtn
  debtorName : c.debtor.name = msg.debtor.name.map fun name => name.substring 140
  debtorCountry : c.debtor.country = some msg.debtor.country
  debtorAccount : c.debtor.accountId = msg.debtor.accountId
  debtorAddress : c.debtor.address = msg.debtor.addressLines.map fun lines => lines.take 4
  creditorName : c.creditor.name = msg.creditor.name.map fun name => name.substring 140
  creditorCountry : c.creditor.country = some msg.creditor.country
  creditorAddress : c.creditor.address = msg.creditor.addressLines.map fun lines => lines.take 4
  «alias» : c.alias.value = msg.creditor.accountId
  purpose : c.purpose = fednowPurpose msg
  remittanceInfo : c.remittanceInfo = msg.rmtInf.join.map fun info => info.substring 140

/-- **An accepted message** becomes the canonical message of its object. -/
theorem fednowToCanonical_toValue [Arithmetic] {c : CanonicalPacs008}
    (h : fednowToCanonical fresh msg.toValue paymentId traceId = .ok c) : FedNowDecoded msg c := by
  rw [fednowToCanonical, fednowObject_toValue] at h
  have d := decoded_object_eq_ok.mp h
  have hgrpHdr := d.grpHdr_holds rfl
  have hpmtId := d.pmtId_holds rfl
  have hamount := d.amount_holds rfl
  have horigin := d.origin_holds rfl
  have hdestination := d.destination_holds rfl
  have hdebtor := d.debtor_holds rfl
  have hcreditor := d.creditor_holds rfl
  have halias := d.alias_holds rfl
  constructor
  · simpa using hgrpHdr.msgId.symm
  · simpa using hpmtId.endToEndId.symm
  · simpa using hpmtId.txId.symm
  · simpa using hamount.value.symm
  · exact hamount.isPositive
  · simpa using hamount.currency.symm
  · simpa using horigin.routingNumber
  · simpa using hdestination.routingNumber
  · simpa [fednowPartyFields] using hdebtor.name.symm
  · simpa [fednowPartyFields] using hdebtor.country
  · simpa [fednowPartyFields] using hdebtor.accountId.symm
  · simpa [fednowPartyFields] using hdebtor.address.symm
  · simpa [fednowPartyFields] using hcreditor.name.symm
  · simpa [fednowPartyFields] using hcreditor.country
  · simpa [fednowPartyFields] using hcreditor.address.symm
  · simpa using halias.value.symm
  · exact d.purpose_holds rfl
  · have hinfo := d.remittanceInfo_holds
    simpa [fednowFields] using hinfo.symm

end

/-- The amount of the object that is made of a message. -/
theorem amount_of_fednowObject [Arithmetic] {fresh : Fresh} {payload raw : JsValue} {paymentId s : Text}
    {traceId : Option Text}
    (hs : payload.path ["FIToFICstmrCdtTrf", "CdtTrfTxInf", "IntrBkSttlmAmt", "value"] =
      some (.string s))
    (h : fednowObject fresh payload paymentId traceId = some raw) : HasAmount (parseFloat s) raw := by
  obtain ⟨cdtTrf, hcdtTrf, h⟩ := Option.bind_eq_some_iff.mp h
  obtain ⟨_, -, h⟩ := Option.bind_eq_some_iff.mp h
  obtain ⟨txn, htxn, h⟩ := Option.bind_eq_some_iff.mp h
  obtain ⟨value, hvalue, h⟩ := Option.bind_eq_some_iff.mp h
  obtain ⟨amount, hamount, h⟩ := Option.bind_eq_some_iff.mp h
  obtain rfl : value = .string s := by
    rw [JsValue.path_cons, hcdtTrf, Option.bind_some, JsValue.path_cons, htxn, Option.bind_some,
      hvalue] at hs
    exact Option.some.inj hs
  obtain rfl : parseFloat s = amount := by
    simpa using hamount
  iterate 23 obtain ⟨_, -, h⟩ := Option.bind_eq_some_iff.mp h
  obtain rfl := Option.some.inj h
  exact ⟨_, _, rfl, rfl⟩

end MipitCore.Translation
