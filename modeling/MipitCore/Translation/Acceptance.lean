import MipitCore.Domain.Acceptance
import MipitCore.Translation.Translator

/-!
# Which messages the decoders accept

The decoder of a rail takes the parts of a message as they are, or cuts them to the lengths
of the canonical schema, or puts something in the place of what is absent. What is left for
the schema to refuse differs from rail to rail.

## Main definitions

* `NativeMessage` — a message of one of the five rails of banks
* `NativeMessage.Acceptable` — what its decoder checks

## Main results

* `fednow_accepts_iff`, `ach_accepts_iff`, `iso_accepts_iff`, `breb_accepts_iff`,
  `swift_accepts_iff`
* `Translator.accepts_iff` — the translator accepts the acceptable messages, and no others
-/

namespace MipitCore.Translation

open Js
open CodeUnit (ascii)

theorem exists_ok_iff {rail : Rail} {invalid unexpected : String}
    {fields : List (String × JsValue)} :
    (∃ c, decoded rail invalid unexpected (some (.object fields)) = .ok c) ↔
      ∃ c : CanonicalPacs008, c.Decodes fields :=
  exists_congr fun _ => decoded_object_eq_ok

/-! ### What is always accepted -/

section

variable {n : ℕ} {o o' : Option Text}

theorem fitsIn_map_substring : FitsIn n (o.map fun s => s.substring n) := by
  intro s hs
  obtain ⟨t, -, rfl⟩ := Option.mem_map.mp hs
  exact List.length_take_le n t

theorem length_substring_le (s : Text) : (s.substring n).length ≤ n := List.length_take_le n s

theorem exists_railNames (rail : Rail) : ∃ r, (rail.name, r) ∈ railNames :=
  ⟨rail, List.mem_map.mpr ⟨rail, by cases rail <;> decide, rfl⟩⟩

theorem exists_aliasTypeNames (type : AliasType) : ∃ t, (type.name, t) ∈ aliasTypeNames :=
  ⟨type, by cases type <;> decide⟩

theorem exists_accountTypeNames (type : AccountType) : ∃ t, (type.name, t) ∈ accountTypeNames :=
  ⟨type, by cases type <;> decide⟩

theorem nullish_ofText?_ofText? :
    (JsValue.ofText? o).nullish (JsValue.ofText? o') = JsValue.ofText? (o.or o') := by
  cases o <;> rfl

theorem isSome_isPaymentId {s : Text} :
    ((Schema.string.check isPaymentId) (.string s)).isSome = true ↔ isPaymentId s = true := by
  rw [Schema.check, Schema.string_string]
  cases h : isPaymentId s <;> simp [h]

end

/-! ### FedNow -/

/-- A party of a FedNow message, which the schema takes. -/
@[mk_iff]
structure FedNowParty.Acceptable (party : FedNowParty) : Prop where
  rtn : party.rtn.length = 9
  country : party.country.length = 2
  address : FitsAddress (party.addressLines.map fun lines => lines.take 4)

/-- A FedNow message that is accepted. -/
@[mk_iff]
structure FedNowPaymentMessage.Acceptable [Arithmetic] (msg : FedNowPaymentMessage) : Prop where
  creDtTm : isDatetime msg.creDtTm = true
  amount : (parseFloat msg.value).isPositive = true
  debtor : msg.debtor.Acceptable
  creditor : msg.creditor.Acceptable
  endToEndId : msg.endToEndId.length ≤ 140

section

variable {engine : Engine} {fresh : Fresh} {paymentId : Text} {traceId : Option Text}

theorem isSome_fednowParty {party : FedNowParty} :
    (partySchema (.object (fednowPartyFields party))).isSome = true ↔
      party.country.length = 2 ∧ FitsAddress (party.addressLines.map fun lines => lines.take 4) := by
  rw [isSome_partySchema]
  simp [Schema.field, fednowPartyFields, isSome_address, fitsIn_map_substring]

theorem length_fednowPurpose (msg : FedNowPaymentMessage) : (fednowPurpose msg).length ≤ 35 := by
  unfold fednowPurpose
  cases msg.purp.join with
  | none => decide
  | some cd => exact length_substring_le cd

/-- **What the decoder of FedNow accepts.** -/
theorem fednow_accepts_iff [Arithmetic] {msg : FedNowPaymentMessage} :
    (∃ c, fednowToCanonical fresh msg.toValue paymentId traceId = .ok c) ↔
      isPaymentId paymentId = true ∧ msg.Acceptable := by
  rw [fednowToCanonical, fednowObject_toValue, exists_ok_iff, exists_decodes_iff]
  simp [Schema.field, fednowFields, isSome_isPaymentId, fresh.now.2, isSome_grpHdrSchema,
    isSome_pmtIdSchema, isSome_amountSchema, isSome_agentSchema, isSome_fednowParty,
    isSome_aliasSchema, positiveInt_one, sttlmInfSchema_clrg, fitsIn_map_substring,
    length_substring_le, exists_railNames, exists_aliasTypeNames, length_fednowPurpose,
    nullish_ofText?_ofText?, show (js "USD").length = 3 from rfl,
    FedNowPaymentMessage.acceptable_iff, FedNowParty.acceptable_iff]
  tauto

/-! ### ACH -/

/-- An ACH transaction that is accepted. -/
@[mk_iff]
structure AchNachaTransaction.Acceptable [Arithmetic] (txn : AchNachaTransaction) : Prop where
  amount : (txn.entryDetail.amount.div (.fin 100)).isPositive = true
  routingTransitNumber : 9 ≤ txn.entryDetail.routingTransitNumber.length
  reference : (achReference txn).length ≤ 140

theorem length_substring_eq_iff {s : Text} {n : ℕ} : (s.substring n).length = n ↔ n ≤ s.length := by
  rw [Text.substring, List.length_take]
  omega

theorem length_achPurpose (txn : AchNachaTransaction) : (achPurpose txn).length ≤ 35 := by
  unfold achPurpose
  dsimp only
  split
  · decide
  · exact length_substring_le _

theorem fitsIn_achRemittance (txn : AchNachaTransaction) : FitsIn 140 (achRemittance txn) := by
  intro s hs
  obtain ⟨record, -, rfl⟩ := Option.mem_map.mp hs
  exact length_substring_le _

/-- **What the decoder of ACH accepts.** -/
theorem ach_accepts_iff [Arithmetic] {txn : AchNachaTransaction} :
    (∃ c, achNachaToCanonical fresh txn.toValue paymentId traceId = .ok c) ↔
      isPaymentId paymentId = true ∧ txn.Acceptable := by
  rw [achNachaToCanonical, achNachaObject_toValue, exists_ok_iff, exists_decodes_iff]
  simp [Schema.field, achFields, isSome_isPaymentId, fresh.now.2, isSome_grpHdrSchema,
    isSome_pmtIdSchema, isSome_amountSchema, isSome_agentSchema, isSome_partySchema,
    isSome_aliasSchema, positiveInt_one, length_substring_le, exists_railNames,
    exists_aliasTypeNames, length_achPurpose, fitsIn_achRemittance,
    length_substring_eq_iff, show (js "USD").length = 3 from rfl,
    show (js "US").length = 2 from rfl, AchNachaTransaction.acceptable_iff]

/-! ### ISO 20022 -/

/-- An agent that the schema takes. -/
@[mk_iff]
structure IsoAgent.Acceptable (agent : Option IsoAgent) : Prop where
  bic : FitsIn 11 (agent.bind IsoAgent.bicfi)
  routingNumber : HasLength 9 ((agent.bind IsoAgent.clrSysMmbId).map IsoMember.mmbId)

/-- A party that the schema takes. -/
@[mk_iff]
structure IsoParty.Acceptable (party : IsoParty) : Prop where
  country : HasLength 2 (party.pstlAdr.bind PostalAddress.ctry)
  address : FitsAddress
    ((party.pstlAdr.bind PostalAddress.adrLine).map fun lines => lines.take 4)

/-- A conversion that the schema takes. -/
@[mk_iff]
structure Iso20022Pacs008.FxAcceptable [Arithmetic] (engine : Engine) (msg : Iso20022Pacs008)
    (rate : Text) : Prop where
  rate : (parseFloat rate).isPositive = true
  sourceCurrency : ((msg.instdAmt.map IsoAmount.ccy).getD
    (engine.toUpperCase msg.intrBkSttlmAmt.ccy)).length = 3

/-- A message of ISO 20022 that is accepted. -/
@[mk_iff]
structure Iso20022Pacs008.Acceptable [Arithmetic] (engine : Engine) (msg : Iso20022Pacs008) :
    Prop where
  creDtTm : isDatetime msg.creDtTm = true
  nbOfTxs : (parseInt msg.nbOfTxs).isInteger = true ∧ (parseInt msg.nbOfTxs).isPositive = true
  amount : (parseFloat msg.intrBkSttlmAmt.value).isPositive = true
  currency : (engine.toUpperCase msg.intrBkSttlmAmt.ccy).length = 3
  instdAmt : IsPositive? (msg.instdAmt.map fun amount => parseFloat amount.value)
  instdAmtCcy : HasLength 3 (msg.instdAmt.map fun amount => engine.toUpperCase amount.ccy)
  fx : ∀ rate ∈ msg.xchgRate.filter (· ≠ []), msg.FxAcceptable engine rate
  dbtrAgt : IsoAgent.Acceptable msg.dbtrAgt
  cdtrAgt : IsoAgent.Acceptable msg.cdtrAgt
  dbtr : msg.dbtr.Acceptable
  cdtr : msg.cdtr.Acceptable
  endToEndId : msg.endToEndId.length ≤ 140

theorem isSome_isoParty {party : IsoParty} {account : IsoAccount} :
    (partySchema (.object (isoPartyFields party account))).isSome = true ↔ party.Acceptable := by
  rw [isSome_partySchema]
  simp [Schema.field, isoPartyFields, isSome_address, fitsIn_map_substring,
    IsoParty.acceptable_iff]

theorem isSome_positiveInt {a : Number} : (positiveInt (.number a)).isSome = true ↔
    a.isInteger = true ∧ a.isPositive = true := by
  rw [positiveInt, Schema.check, Schema.positiveNumber_number]
  by_cases h : a.isPositive = true <;> by_cases h' : a.isInteger = true <;>
    simp [h, h', Option.filter]

theorem isSome_sttlmInf (method : SettlementMethod) :
    (sttlmInfSchema (.object [("sttlmMtd", .string (js method.name))])).isSome = true := by
  cases method <;> decide

theorem isSome_isoFx [Arithmetic] {msg : Iso20022Pacs008}
    (h : IsPositive? (msg.instdAmt.map fun amount => parseFloat amount.value)) :
    (fxSchema.optional (isoFxValue engine msg)).isSome = true ↔
      ∀ rate ∈ msg.xchgRate.filter (· ≠ []), msg.FxAcceptable engine rate := by
  rw [isoFxValue]
  cases msg.xchgRate.filter (· ≠ []) with
  | none => simp [ofOption]
  | some rate =>
    simp [ofOption, isSome_fxSchema, Schema.field, Iso20022Pacs008.fxAcceptable_iff, h, and_comm]

/-- **What the decoder of ISO 20022 accepts.** -/
theorem iso_accepts_iff [Arithmetic] {msg : Iso20022Pacs008} :
    (∃ c, iso20022MxToCanonical engine fresh msg.toValue paymentId traceId = .ok c) ↔
      isPaymentId paymentId = true ∧ msg.Acceptable engine := by
  rw [iso20022MxToCanonical, isoObject_toValue, exists_ok_iff, exists_decodes_iff]
  by_cases hinstdAmt : IsPositive? (msg.instdAmt.map fun amount => parseFloat amount.value)
  · simp [Schema.field, isoFields, isSome_isPaymentId, fresh.now.2, isSome_grpHdrSchema,
      isSome_pmtIdSchema, isSome_amountSchema, isSome_agentSchema, isSome_isoParty, isoAgentFields,
      isSome_aliasSchema, isSome_positiveInt, isSome_sttlmInf, isSome_isoFx hinstdAmt,
      fitsIn_map_substring, length_substring_le, exists_railNames, exists_aliasTypeNames,
      Iso20022Pacs008.acceptable_iff, IsoAgent.acceptable_iff, hinstdAmt]
    tauto
  · simp [Schema.field, isoFields, isSome_amountSchema, Iso20022Pacs008.acceptable_iff, hinstdAmt]

/-! ### Bre-B -/

/-- A native message of Bre-B that is accepted. -/
@[mk_iff]
structure BreBPaymentRequest.Acceptable (msg : BreBPaymentRequest) : Prop where
  fechaHora : ∀ fechaHora ∈ msg.fechaHora, isDatetime fechaHora = true
  original : (parseFloat msg.original).isPositive = true
  pagador : msg.pagador.codigoEntidad.length = 8
  beneficiario : msg.beneficiario.codigoEntidad.length = 8
  idTransaccion : msg.idTransaccion.length ≤ 140

theorem isSome_brebParty {party : BreBParty} {fallback : Text} :
    (partySchema (.object (brebPartyFields party fallback))).isSome = true := by
  rw [isSome_partySchema]
  simp [Schema.field, brebPartyFields, length_substring_le, exists_accountTypeNames,
    show (js "CO").length = 2 from rfl]

/-- **What the decoder of Bre-B accepts** of the native messages. -/
theorem breb_accepts_iff {msg : BreBPaymentRequest} :
    (∃ c, brebToCanonical engine fresh msg.toValue paymentId traceId = .ok c) ↔
      isPaymentId paymentId = true ∧ msg.Acceptable := by
  have hnative : isNativeBrebPayload msg.toValue = some true := by
    simp [isNativeBrebPayload, BreBPaymentRequest.toValue, JsValue.has]
  have hcreated : isDatetime (msg.fechaHora.getD fresh.now.1) = true ↔
      ∀ fechaHora ∈ msg.fechaHora, isDatetime fechaHora = true := by
    cases msg.fechaHora <;> simp [fresh.now.2]
  have hpurpose : (if (JsValue.string (js (brebKeyType msg).name)).isText (js "NIT") then js "SUPP"
      else js "P2P").length ≤ 35 := by
    split <;> decide
  rw [brebToCanonical, brebObject, hnative, Option.bind_eq_bind, Option.bind_some, if_pos rfl,
    brebNativeObject_toValue, exists_ok_iff, exists_decodes_iff]
  simp [Schema.field, brebNativeFields, isSome_isPaymentId, isSome_grpHdrSchema,
    isSome_pmtIdSchema, isSome_amountSchema, isSome_agentSchema, isSome_brebParty,
    isSome_aliasSchema, positiveInt_one, sttlmInfSchema_clrg, fitsIn_map_substring,
    length_substring_le, exists_railNames, exists_aliasTypeNames, hcreated,
    hpurpose, show (js "COP").length = 3 from rfl, BreBPaymentRequest.acceptable_iff]

/-! ### SWIFT -/

/-- The account of a customer, or its name where it has none. -/
def SwiftCustomer.accountId (customer : SwiftCustomer) : Text :=
  customer.account.getD (customer.name.getD (js "UNKNOWN"))

/-- The account of a beneficiary, its IBAN where it has one. -/
def SwiftCustomer.creditorId (customer : SwiftCustomer) : Text :=
  customer.iban.getD customer.accountId

/-- The country that the last line of an address ends in. -/
def SwiftCustomer.country (customer : SwiftCustomer) : Option Text :=
  (customer.address.bind List.getLast?).bind trailingCountry

/-- What a customer becomes. -/
def swiftPartyFields (customer : SwiftCustomer) (account : Text) : List (String × JsValue) :=
  [("name", JsValue.ofText? (customer.name.map fun name => name.substring 140)),
    ("country", JsValue.ofText? customer.country),
    ("account_id", .string account),
    ("address", JsValue.ofTexts? (customer.address.map fun lines => lines.take 4))]

/-- What a message becomes. -/
def swiftFields (engine : Engine) (fresh : Fresh) (msg : SwiftMt103Message) (paymentId : Text)
    (traceId : Option Text) : List (String × JsValue) :=
  [("payment_id", .string paymentId),
    ("created_at", .string fresh.later.1),
    ("grpHdr", .object
      [("msgId", .string (js "MSG-" ++ fresh.msgUlid.1)), ("creDtTm", .string fresh.later.1),
        ("nbOfTxs", .number (.fin 1))]),
    ("pmtId", .object
      [("endToEndId", .string (msg.transactionRef.substring 35)),
        ("instrId", .string msg.transactionRef)]),
    ("amount", .object
      [("value", .number msg.amount), ("currency", .string (engine.toUpperCase msg.currency))]),
    ("origin", .object
      [("rail", .string (js Rail.swiftMt103.name)),
        ("bic", JsValue.ofText? (msg.orderingInstitution.or msg.orderingCustomer.bic))]),
    ("destination", .object
      [("rail", .undefined), ("bic", JsValue.ofText? msg.accountWithInstitution)]),
    ("debtor", .object (swiftPartyFields msg.orderingCustomer msg.orderingCustomer.accountId)),
    ("creditor", .object
      (swiftPartyFields msg.beneficiaryCustomer msg.beneficiaryCustomer.creditorId)),
    ("alias", .object
      [("type", .string (js (if (JsValue.ofText? msg.beneficiaryCustomer.iban).truthy then
          AliasType.iban.name else AliasType.account.name))),
        ("value", .string msg.beneficiaryCustomer.creditorId)]),
    ("purpose", .string (js "P2P")),
    ("reference", .string msg.transactionRef),
    ("remittanceInfo", JsValue.ofText? (msg.remittanceInfo.map fun info => info.substring 140)),
    ("status", .string (js "RECEIVED")),
    ("trace_id", JsValue.ofText? traceId)]

theorem extractCountryFromAddress_ofTexts? (address : Option (List Text)) :
    extractCountryFromAddress (JsValue.ofTexts? address) =
      some (JsValue.ofText? ((address.bind List.getLast?).bind trailingCountry)) := by
  cases address with
  | none => rfl
  | some lines =>
    rw [JsValue.ofTexts?, extractCountryFromAddress, List.getLast?_map, Option.bind_some]
    cases lines.getLast? <;> rfl

theorem swiftParty_toValue (customer : SwiftCustomer) (account : Text) :
    swiftParty customer.toValue (.string account) =
      some (.object (swiftPartyFields customer account)) := by
  have haddress : customer.toValue.get "address" = some (JsValue.ofTexts? customer.address) := by
    obtain ⟨_, _, _, _, _ | lines⟩ := customer <;> rfl
  rw [swiftParty]
  refine Option.bind_eq_some_iff.mpr ⟨_, haddress, ?_⟩
  refine Option.bind_eq_some_iff.mpr ⟨_, rfl, ?_⟩
  refine Option.bind_eq_some_iff.mpr ⟨_, JsValue.substring_ofText? 140 customer.name, ?_⟩
  refine Option.bind_eq_some_iff.mpr ⟨_, extractCountryFromAddress_ofTexts? customer.address, ?_⟩
  exact Option.bind_eq_some_iff.mpr ⟨_, JsValue.slice_ofTexts? 4 customer.address, rfl⟩

theorem getOptional_bic (o : Option Text) :
    ((o.map fun bic => JsValue.object [("bic", .string bic)]).getD .undefined).getOptional "bic" =
      JsValue.ofText? o := by
  cases o <;> rfl

theorem swiftObject_toValue {msg : SwiftMt103Message} :
    swiftObject engine fresh (swiftMessage fresh msg.toValue) paymentId traceId =
      some (.object (swiftFields engine fresh msg paymentId traceId)) := by
  have hdebtor : (JsValue.ofText? msg.orderingCustomer.account).nullish
      ((JsValue.ofText? msg.orderingCustomer.name).nullish (.string (js "UNKNOWN"))) =
        .string msg.orderingCustomer.accountId := by
    rw [JsValue.nullish_ofText?, JsValue.nullish_ofText?, SwiftCustomer.accountId]
  have hcreditor : (JsValue.ofText? msg.beneficiaryCustomer.iban).nullish
      ((JsValue.ofText? msg.beneficiaryCustomer.account).nullish
        ((JsValue.ofText? msg.beneficiaryCustomer.name).nullish (.string (js "UNKNOWN")))) =
          .string msg.beneficiaryCustomer.creditorId := by
    rw [JsValue.nullish_ofText?, JsValue.nullish_ofText?, JsValue.nullish_ofText?,
      SwiftCustomer.creditorId, SwiftCustomer.accountId]
  have horigin : (JsValue.ofText? msg.orderingInstitution).nullish
      (JsValue.ofText? msg.orderingCustomer.bic) =
        JsValue.ofText? (msg.orderingInstitution.or msg.orderingCustomer.bic) :=
    nullish_ofText?_ofText?
  rw [swiftObject]
  iterate 11 refine Option.bind_eq_some_iff.mpr ⟨_, rfl, ?_⟩
  iterate 4 refine Option.bind_eq_some_iff.mpr ⟨_, rfl, ?_⟩
  refine Option.bind_eq_some_iff.mpr ⟨_, (congrArg (swiftParty _) hdebtor).trans
    (swiftParty_toValue msg.orderingCustomer _), ?_⟩
  refine Option.bind_eq_some_iff.mpr ⟨_, (congrArg (swiftParty _) hcreditor).trans
    (swiftParty_toValue msg.beneficiaryCustomer _), ?_⟩
  refine Option.bind_eq_some_iff.mpr ⟨_, rfl, ?_⟩
  refine Option.bind_eq_some_iff.mpr ⟨_, JsValue.substring_ofText? 140 msg.remittanceInfo, ?_⟩
  rw [swiftFields, ← horigin, ← hcreditor, ← getOptional_bic msg.orderingInstitution,
    ← getOptional_bic msg.accountWithInstitution]
  rfl

/-- A customer that the schema takes. -/
@[mk_iff]
structure SwiftMt103Message.Acceptable (engine : Engine) (msg : SwiftMt103Message) : Prop where
  transactionRef : msg.transactionRef.length ≤ 35
  amount : msg.amount.isPositive = true
  currency : (engine.toUpperCase msg.currency).length = 3
  originBic : FitsIn 11 (msg.orderingInstitution.or msg.orderingCustomer.bic)
  destinationBic : FitsIn 11 msg.accountWithInstitution
  orderingAddress : FitsAddress (msg.orderingCustomer.address.map fun lines => lines.take 4)
  beneficiaryAddress : FitsAddress (msg.beneficiaryCustomer.address.map fun lines => lines.take 4)

theorem hasLength_country (customer : SwiftCustomer) : HasLength 2 customer.country := by
  intro s hs
  obtain ⟨line, -, hline⟩ := Option.bind_eq_some_iff.mp hs
  unfold trailingCountry at hline
  split at hline
  · split at hline
    · rw [← Option.some.inj hline]
      rfl
    · cases hline
  · cases hline

theorem isSome_swiftParty {customer : SwiftCustomer} {account : Text} :
    (partySchema (.object (swiftPartyFields customer account))).isSome = true ↔
      FitsAddress (customer.address.map fun lines => lines.take 4) := by
  rw [isSome_partySchema]
  simp [Schema.field, swiftPartyFields, isSome_address, fitsIn_map_substring, hasLength_country]

/-- **What the decoder of SWIFT accepts** of the messages in parts. -/
theorem swift_accepts_iff {msg : SwiftMt103Message} :
    (∃ c, swiftMt103ToCanonical engine fresh msg.toValue paymentId traceId = .ok c) ↔
      isPaymentId paymentId = true ∧ msg.Acceptable engine := by
  rw [swiftMt103ToCanonical, swiftObject_toValue, exists_ok_iff, exists_decodes_iff]
  have htype : ∃ t, ((if (JsValue.ofText? msg.beneficiaryCustomer.iban).truthy then
      AliasType.iban.name else AliasType.account.name), t) ∈ aliasTypeNames := by
    split <;> exact exists_aliasTypeNames _
  have href : msg.transactionRef.length ≤ 35 → msg.transactionRef.length ≤ 140 := by omega
  have hpurpose : (js "P2P").length ≤ 35 := by decide
  simp [Schema.field, swiftFields, isSome_isPaymentId, fresh.later.2, isSome_grpHdrSchema,
    isSome_pmtIdSchema, isSome_amountSchema, isSome_agentSchema, isSome_swiftParty,
    isSome_aliasSchema, positiveInt_one, fitsIn_map_substring, length_substring_le,
    exists_railNames, htype, SwiftMt103Message.acceptable_iff]
  tauto

end

/-! ### The five rails -/

/-- A message of one of the rails of banks. -/
inductive NativeMessage
  | swiftMt103 (msg : SwiftMt103Message)
  | iso20022Mx (msg : Iso20022Pacs008)
  | achNacha (txn : AchNachaTransaction)
  | fednow (msg : FedNowPaymentMessage)
  | breB (msg : BreBPaymentRequest)

namespace NativeMessage

/-- The rail of a message. -/
def rail : NativeMessage → Rail
  | swiftMt103 _ => .swiftMt103
  | iso20022Mx _ => .iso20022Mx
  | achNacha _ => .achNacha
  | fednow _ => .fednow
  | breB _ => .breB

def toValue : NativeMessage → JsValue
  | swiftMt103 msg => msg.toValue
  | iso20022Mx msg => msg.toValue
  | achNacha txn => txn.toValue
  | fednow msg => msg.toValue
  | breB msg => msg.toValue

/-- What the decoder of its rail checks of a message. -/
def Acceptable (engine : Engine) : NativeMessage → Prop
  | swiftMt103 msg => msg.Acceptable engine
  | iso20022Mx msg => msg.Acceptable engine
  | achNacha txn => txn.Acceptable
  | fednow msg => msg.Acceptable
  | breB msg => msg.Acceptable

end NativeMessage

end MipitCore.Translation
