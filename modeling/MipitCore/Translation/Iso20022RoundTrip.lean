import MipitCore.Js.Shortest
import MipitCore.Translation.FedNowRoundTrip
import MipitCore.Translation.Iso20022Mx

/-!
# ISO 20022, there and back

The canonical message keeps an account as one text, and only the creditor's kind of account,
as the type of the alias. The encoder recognises a debtor's IBAN by its shape.

## Main definitions

* `Iso20022Pacs008.Regular` — messages within the format
* `IsoKept` — what a message and its second version have in common

## Main results

* `iso20022MxToCanonical_wrapInDocument` — a wrapped message is the same message
* `iso_kept`
-/

namespace MipitCore.Translation

open Js
open scoped Double

/-- An amount of at most two decimals, which is so small that doubles keep it apart from others. -/
def IsoAmount.Regular (amount : IsoAmount) : Prop := IsCentsText amount.value

/-- The identifiers of an agent are not empty. -/
structure IsoAgent.Regular (agent : IsoAgent) : Prop where
  bicfi : ∀ bic ∈ agent.bicfi, bic ≠ []
  mmbId : ∀ member ∈ agent.clrSysMmbId, member.mmbId ≠ []

/-- The name of a party has at most 140 units, and its country is not empty. -/
structure IsoParty.Regular (party : IsoParty) : Prop where
  nm : ∀ name ∈ party.nm, name.length ≤ 140
  ctry : ∀ ctry ∈ party.pstlAdr.bind PostalAddress.ctry, ctry ≠ []

/-- IBANs look like IBANs, and other identifiers do not. -/
structure IsoAccount.Regular (account : IsoAccount) : Prop where
  iban : ∀ iban ∈ account.iban, isIban iban = true
  othr : ∀ othr ∈ account.othr, isIban othr.id = false ∧ hasNetworkPrefix othr.id = false

/-- A message within the format. -/
structure Iso20022Pacs008.Regular (msg : Iso20022Pacs008) : Prop where
  instrId : ∀ id ∈ msg.instrId, id.length ≤ 35
  endToEndId : msg.endToEndId.length ≤ 35
  txId : ∀ id ∈ msg.txId, id.length ≤ 35
  intrBkSttlmAmt : msg.intrBkSttlmAmt.Regular
  instdAmt : ∀ amount ∈ msg.instdAmt, amount.Regular
  xchgRate : ∀ rate ∈ msg.xchgRate, rate ≠ []
  dbtrAgt : ∀ agent ∈ msg.dbtrAgt, agent.Regular
  dbtr : msg.dbtr.Regular
  dbtrAcct : msg.dbtrAcct.Regular
  cdtrAgt : ∀ agent ∈ msg.cdtrAgt, agent.Regular
  cdtr : msg.cdtr.Regular
  cdtrAcct : msg.cdtrAcct.Regular
  purp : ∀ cd ∈ msg.purp.bind IsoCode.cd, cd.length ≤ 4
  ustrd : ∀ info ∈ msg.rmtInf.bind IsoRemittance.ustrd, info ≠ [] ∧ info.length ≤ 140

/-- An amount and its second version; where it is written with two decimals, it is written as it
was. -/
structure IsoAmount.Kept (engine : Engine) (amount amount' : IsoAmount) : Prop where
  ccy : amount'.ccy = engine.toUpperCase amount.ccy
  value : ∃ q, Denotes amount.value q ∧ Denotes amount'.value q
  valueText : IsFixedText 2 amount.value → amount'.value = amount.value

/-- An agent and its second version. -/
structure IsoAgent.Kept (agent agent' : Option IsoAgent) : Prop where
  bicfi : agent'.bind bicfi = agent.bind bicfi
  mmbId : (agent'.bind clrSysMmbId).map IsoMember.mmbId =
    (agent.bind clrSysMmbId).map IsoMember.mmbId

/-- A party and its second version. -/
structure IsoParty.Kept (party party' : IsoParty) : Prop where
  nm : party'.nm = party.nm
  ctry : party'.pstlAdr.bind PostalAddress.ctry = party.pstlAdr.bind PostalAddress.ctry
  adrLine : party'.pstlAdr.bind PostalAddress.adrLine =
    (party.pstlAdr.bind PostalAddress.adrLine).map fun lines => lines.take 4

/-- An account and its second version: of the same kind, with the same identifier. -/
structure IsoAccount.Kept (account account' : IsoAccount) : Prop where
  iban : ∀ iban ∈ account.iban, account'.iban = some iban ∧ account'.othr = none
  othr : account.iban = none → ∀ othr ∈ account.othr,
    account'.iban = none ∧ account'.othr.map IsoOthr.id = some othr.id

/-- A message and its second version. The rate is read as the same double; where it has at most
fifteen digits, it is the same number. -/
structure IsoKept (engine : Engine) (msg msg' : Iso20022Pacs008) : Prop where
  msgId : msg'.msgId = msg.msgId
  creDtTm : msg'.creDtTm = msg.creDtTm
  sttlmMtd : msg'.sttlmMtd = msg.sttlmMtd
  instrId : msg'.instrId = msg.instrId
  endToEndId : msg'.endToEndId = msg.endToEndId
  txId : msg'.txId = msg.txId
  intrBkSttlmAmt : msg.intrBkSttlmAmt.Kept engine msg'.intrBkSttlmAmt
  instdAmt : Option.Rel (IsoAmount.Kept engine) msg.instdAmt msg'.instdAmt
  xchgRate : msg'.xchgRate.map parseFloat = msg.xchgRate.map parseFloat
  rateValue : ∀ rate ∈ msg.xchgRate, ∀ q, Denotes rate q → OfFifteenDigits q →
    ∃ rate' ∈ msg'.xchgRate, Denotes rate' q
  dbtrAgt : IsoAgent.Kept msg.dbtrAgt msg'.dbtrAgt
  dbtr : msg.dbtr.Kept msg'.dbtr
  dbtrAcct : msg.dbtrAcct.Kept msg'.dbtrAcct
  cdtrAgt : IsoAgent.Kept msg.cdtrAgt msg'.cdtrAgt
  cdtr : msg.cdtr.Kept msg'.cdtr
  cdtrAcct : msg.cdtrAcct.Kept msg'.cdtrAcct
  purp : ∀ cd ∈ msg.purp.bind IsoCode.cd, msg'.purp.bind IsoCode.cd = some cd
  ustrd : ∀ info ∈ msg.rmtInf.bind IsoRemittance.ustrd,
    msg'.rmtInf.bind IsoRemittance.ustrd = some info

section

variable {engine : Engine} {fresh fresh' : Fresh} {msg : Iso20022Pacs008} {paymentId : Text}
  {traceId : Option Text} {c : CanonicalPacs008}

/-- **A wrapped message** is the same message, received at another time. -/
theorem iso20022MxToCanonical_wrapInDocument
    (h : iso20022MxToCanonical engine fresh msg.toValue paymentId traceId = .ok c) :
    iso20022MxToCanonical engine fresh' (wrapInDocument msg.toValue) paymentId traceId =
      .ok { c with createdAt := fresh'.now } := by
  rw [iso20022MxToCanonical, isoObject_toValue] at h
  rw [iso20022MxToCanonical, isoObject_wrapInDocument, isoObject_toValue]
  have d := decoded_object_eq_ok.mp h
  refine decoded_object_eq_ok.mpr (d.withCreatedAt rfl fun key hkey => ?_)
  simp only [isoFields, JsValue.field_cons, if_neg (Ne.symm hkey)]

/-! ### The parts of a message -/

theorem filter_ne_nil {o : Option Text} (h : ∀ s ∈ o, s ≠ []) : o.filter (· ≠ []) = o := by
  cases o with
  | none => rfl
  | some s => exact Option.filter_some_pos (by simpa using h s rfl)

theorem IsoAmount.kept_toFixed {amount : IsoAmount} (h : amount.Regular)
    (hpositive : (parseFloat amount.value).isPositive = true) :
    amount.Kept engine ⟨engine.toUpperCase amount.ccy, (parseFloat amount.value).toFixed 2⟩ where
  ccy := rfl
  value := h.denotes hpositive
  valueText := h.toFixed_eq hpositive

theorem IsoAgent.kept_buildAgent {ρ : Type} {agent : Option IsoAgent} {a : Agent ρ}
    (h : ∀ agent' ∈ agent, agent'.Regular) (d : IsoAgentDecoded agent a) :
    IsoAgent.Kept agent (buildAgent a.bic a.routingNumber) := by
  rw [d.bic, d.routingNumber]
  obtain _ | ⟨bicfi, member⟩ := agent
  · exact ⟨rfl, rfl⟩
  · have hregular := h _ rfl
    have hbic : bicfi.filter (· ≠ []) = bicfi := filter_ne_nil hregular.bicfi
    have hmember : (member.map IsoMember.mmbId).filter (· ≠ []) = member.map IsoMember.mmbId := by
      refine filter_ne_nil fun s hs => ?_
      obtain ⟨m, hm, rfl⟩ := Option.map_eq_some_iff.mp hs
      exact hregular.mmbId m hm
    rw [buildAgent, Option.bind_some, Option.bind_some, hbic, hmember]
    -- nothing is written for an agent without identifiers
    cases bicfi <;> cases member <;> exact ⟨rfl, rfl⟩

theorem IsoParty.kept_buildParty {party : IsoParty} {account : IsoAccount} {p : Party}
    (h : party.Regular) (d : IsoPartyDecoded party account p) : party.Kept (buildParty p) := by
  have hcountry : p.country.filter (· ≠ []) = p.country := by
    rw [d.country]
    exact filter_ne_nil h.ctry
  constructor
  · change p.name.map (fun name => name.substring 140) = party.nm
    rw [d.name, map_substring_eq_self h.nm, map_substring_eq_self h.nm]
  · rw [buildParty, hcountry, ← d.country]
    cases p.country <;> cases p.address <;> rfl
  · have haddress : p.address.map (fun lines => lines.take 4) = p.address := by
      rw [d.address, Option.map_map]
      simp [Function.comp_def, List.take_take]
    rw [buildParty, hcountry, haddress, ← d.address]
    cases p.country <;> cases p.address <;> rfl

/-- **The kind of an account is found again** by its shape and by the type of its alias. -/
theorem IsoAccount.kept_buildAccount {account : IsoAccount} (h : account.Regular)
    {aliasType : Option AliasType} {aliasValue : Option Text}
    (htype : account.iban = none → aliasType ≠ some .iban)
    (hvalue : ∀ value ∈ aliasValue, value = account.accountId) :
    account.Kept (buildAccount account.accountId aliasType aliasValue) := by
  have hgetD : aliasValue.getD account.accountId = account.accountId := by
    cases aliasValue with
    | none => rfl
    | some value => exact hvalue value rfl
  constructor
  · intro iban hiban
    have hid : account.accountId = iban := by
      rw [IsoAccount.accountId, Option.mem_def.mp hiban, Option.getD_some]
    have hshape := h.iban iban hiban
    have hclean := stripNetworkPrefix_eq_self (hasNetworkPrefix_of_isIban hshape)
    rw [hid] at hgetD ⊢
    rw [buildAccount, hclean, hshape, Bool.or_true, if_pos rfl, hgetD]
    exact ⟨rfl, rfl⟩
  · intro hiban othr hothr
    have hid : account.accountId = othr.id := by
      rw [IsoAccount.accountId, hiban, Option.mem_def.mp hothr, Option.map_some, Option.getD_none,
        Option.getD_some]
    obtain ⟨hshape, hbegins⟩ := h.othr othr hothr
    have hclean := stripNetworkPrefix_eq_self hbegins
    rw [hid] at hgetD ⊢
    rw [buildAccount, hclean, hshape, if_neg (by simpa using htype hiban), hgetD]
    exact ⟨rfl, rfl⟩

theorem isoAliasType_of_regular {account : IsoAccount} (h : account.iban = none) :
    isoAliasType account = .account := by
  rw [isoAliasType, h]
  rfl

/-! ### There and back -/

theorem instdAmt_kept (d : IsoDecoded engine msg c)
    (hregular : ∀ amount ∈ msg.instdAmt, amount.Regular) :
    Option.Rel (IsoAmount.Kept engine) msg.instdAmt (canonicalToIso20022Mx c).instdAmt := by
  change Option.Rel _ _ ((c.amount.instdAmt.filter fun n => (JsValue.number n).truthy).map fun n =>
    (⟨c.amount.instdAmtCcy.getD c.amount.currency, n.toFixed 2⟩ : IsoAmount))
  have hpositive := d.instdAmt_isPositive
  rw [d.instdAmt, d.instdAmtCcy] at *
  cases hamount : msg.instdAmt with
  | none => exact Option.Rel.none
  | some amount =>
    rw [hamount] at hpositive
    have hn : (parseFloat amount.value).isPositive = true := hpositive _ rfl
    rw [Option.map_some, Option.map_some, filter_truthy hn]
    exact Option.Rel.some (IsoAmount.kept_toFixed (hregular amount hamount) hn)

/-- A rate is written as `String` writes what has been read. -/
theorem xchgRate_written (d : IsoDecoded engine msg c) (hregular : ∀ rate ∈ msg.xchgRate, rate ≠ []) :
    (canonicalToIso20022Mx c).xchgRate = msg.xchgRate.map (fun rate => (parseFloat rate).toText) ∧
      ∀ rate ∈ msg.xchgRate, (parseFloat rate).isPositive = true := by
  change ((c.fx.bind Fx.rate).filter fun n => (JsValue.number n).truthy).map Number.toText = _ ∧ _
  have hpositive := d.rate_isPositive
  rw [d.rate, filter_ne_nil hregular] at *
  cases hrate : msg.xchgRate with
  | none => exact ⟨rfl, by simp⟩
  | some rate =>
    rw [hrate] at hpositive
    have hn := hpositive _ rfl
    refine ⟨by rw [Option.map_some, filter_truthy hn, Option.map_some, Option.map_some], ?_⟩
    rintro _ ⟨⟩
    exact hn

theorem xchgRate_kept (d : IsoDecoded engine msg c) (hregular : ∀ rate ∈ msg.xchgRate, rate ≠ []) :
    (canonicalToIso20022Mx c).xchgRate.map parseFloat = msg.xchgRate.map parseFloat := by
  obtain ⟨hwritten, hpositive⟩ := xchgRate_written d hregular
  rw [hwritten, Option.map_map]
  exact Option.map_congr fun rate hrate => parseFloat_toText_parseFloat_double (hpositive rate hrate)

theorem rateValue_kept (d : IsoDecoded engine msg c) (hregular : ∀ rate ∈ msg.xchgRate, rate ≠ []) :
    ∀ rate ∈ msg.xchgRate, ∀ q, Denotes rate q → OfFifteenDigits q →
      ∃ rate' ∈ (canonicalToIso20022Mx c).xchgRate, Denotes rate' q := by
  intro rate hrate q hread hq
  rw [(xchgRate_written d hregular).1]
  exact ⟨_, Option.mem_map_of_mem _ hrate, denotes_toText_parseFloat hread hq⟩

/-- **ISO 20022 keeps a message there and back**, and a wrapped message is the same message. -/
theorem iso_kept (h : iso20022MxToCanonical engine fresh msg.toValue paymentId traceId = .ok c)
    (hregular : msg.Regular) :
    IsoKept engine msg (canonicalToIso20022Mx c) ∧
      ∀ fresh', iso20022MxToCanonical engine fresh' (wrapInDocument msg.toValue) paymentId traceId =
        .ok { c with createdAt := fresh'.now } := by
  refine ⟨?_, fun fresh' => iso20022MxToCanonical_wrapInDocument h⟩
  have d := iso20022MxToCanonical_toValue h
  -- each field of the message, in the order of `IsoKept`
  constructor
  · exact d.msgId
  · exact d.creDtTm
  · change (c.grpHdr.sttlmInf.map SettlementInformation.sttlmMtd).getD .clrg = _
    rw [d.sttlmInf, Option.map_some, Option.getD_some]
  · exact d.instrId.trans (map_substring_eq_self hregular.instrId)
  · exact d.endToEndId.trans (List.take_of_length_le hregular.endToEndId)
  · exact d.txId.trans (map_substring_eq_self hregular.txId)
  · have hpositive := d.isPositive
    rw [d.amount] at hpositive
    change IsoAmount.Kept _ _ ⟨c.amount.currency, c.amount.value.toFixed 2⟩
    rw [d.currency, d.amount]
    exact IsoAmount.kept_toFixed hregular.intrBkSttlmAmt hpositive
  · exact instdAmt_kept d hregular.instdAmt
  · exact xchgRate_kept d hregular.xchgRate
  · exact rateValue_kept d hregular.xchgRate
  · exact IsoAgent.kept_buildAgent hregular.dbtrAgt d.origin
  · exact IsoParty.kept_buildParty hregular.dbtr d.debtor
  · change msg.dbtrAcct.Kept (buildAccount c.debtor.accountId _ none)
    rw [d.debtor.accountId]
    refine IsoAccount.kept_buildAccount hregular.dbtrAcct (fun _ => ?_) (by simp)
    split_ifs with hiban
    · simp
    · exact fun heq => hiban (Option.some.inj heq)
  · exact IsoAgent.kept_buildAgent hregular.cdtrAgt d.destination
  · exact IsoParty.kept_buildParty hregular.cdtr d.creditor
  · change msg.cdtrAcct.Kept (buildAccount c.creditor.accountId (some c.alias.type)
      (some c.alias.value))
    rw [d.creditor.accountId, d.aliasType, d.aliasValue]
    refine IsoAccount.kept_buildAccount hregular.cdtrAcct (fun hiban => ?_) (by simp)
    rw [isoAliasType_of_regular hiban]
    decide
  · intro cd hcd
    change some (c.purpose.substring 4) = some cd
    have hlength := hregular.purp cd hcd
    rw [d.purpose, isoPurpose, Option.mem_def.mp hcd, Option.getD_some, Text.substring,
      Text.substring, List.take_take, List.take_of_length_le (by omega)]
  · intro info hmem
    obtain ⟨hne, hlength⟩ := hregular.ustrd info hmem
    have hinfo : c.remittanceInfo = some info := by
      rw [d.remittanceInfo, isoRemittanceInfo, Option.mem_def.mp hmem, Option.some_or,
        Option.map_some, Text.substring, List.take_of_length_le hlength]
    change (buildRemittance c).bind IsoRemittance.ustrd = some info
    rw [buildRemittance, hinfo, Option.some_or, Option.filter_some_pos (by simpa using hne),
      Option.map_some, Option.bind_some, Text.substring, List.take_of_length_le hlength]

end

/-! ### Two messages -/

namespace Example

/-- Euros into an IBAN, from an account that has none. -/
def transferEur : Iso20022Pacs008 where
  msgId := js "MSG-001"
  creDtTm := js "2026-03-15T10:00:00.000Z"
  nbOfTxs := js "1"
  sttlmMtd := .inga
  instgAgt := none
  instdAgt := none
  instrId := none
  endToEndId := js "E2E-001"
  txId := some (js "TX-001")
  intrBkSttlmAmt := ⟨js "eur", js "1500.5"⟩
  instdAmt := some ⟨js "USD", js "1650.55"⟩
  intrBkSttlmDt := none
  xchgRate := some (js "1.10")
  dbtrAgt := some ⟨some (js "CHASUS33"), some ⟨none, js "021000021"⟩⟩
  dbtr := ⟨some (js "John Doe"), some ⟨some (js "US"), some [js "1 Main St"]⟩, none⟩
  dbtrAcct := ⟨none, some ⟨js "1234567890", none⟩⟩
  cdtrAgt := some ⟨some (js "DEUTDEFF"), none⟩
  cdtr := ⟨some (js "Jane Smith"), none, none⟩
  cdtrAcct := ⟨some (js "DE89370400440532013000"), none⟩
  purp := some ⟨some (js "SUPP"), none⟩
  rmtInf := some ⟨some (js "Invoice 123"), none⟩

/-- The same message with the instructed currency in lower case. -/
def transferLower : Iso20022Pacs008 :=
  { transferEur with instdAmt := some ⟨js "usd", js "1650.55"⟩ }

/-- Another one with so many euros that the next double is more than a cent away, and a rate with
more digits than a double has. -/
def transferImmense : Iso20022Pacs008 :=
  { transferEur with
    intrBkSttlmAmt := ⟨js "eur", js "70368744177664.01"⟩
    xchgRate := some (js "1.0000000000000001") }

theorem regular_transferEur : transferEur.Regular where
  instrId := by simp [transferEur]
  endToEndId := by decide
  txId := by decide
  intrBkSttlmAmt := ⟨1500.5, 150050, by decide +kernel, by norm_num, by norm_num⟩
  instdAmt := by
    intro amount hmem
    obtain rfl := Option.some.inj hmem
    exact ⟨1650.55, 165055, by decide +kernel, by norm_num, by norm_num⟩
  xchgRate := by decide
  dbtrAgt := by
    intro agent hmem
    obtain rfl := Option.some.inj hmem
    exact ⟨by decide, by decide⟩
  dbtr := ⟨by decide, by decide⟩
  dbtrAcct := ⟨by simp [transferEur], by decide⟩
  cdtrAgt := by
    intro agent hmem
    obtain rfl := Option.some.inj hmem
    exact ⟨by decide, by simp⟩
  cdtr := ⟨by decide, by simp [transferEur]⟩
  cdtrAcct := ⟨by decide, by simp [transferEur]⟩
  purp := by decide
  ustrd := by decide

theorem regular_transferLower : transferLower.Regular :=
  { regular_transferEur with
    instdAmt := by
      intro amount hmem
      obtain rfl := Option.some.inj hmem
      exact ⟨1650.55, 165055, by decide +kernel, by norm_num, by norm_num⟩ }

theorem isOk_iso20022Mx :
    (iso20022MxToCanonical passage.engine fresh transferEur.toValue
        (paymentIdOf Pipeline.Example.ulid) none).isOk = true ∧
      (iso20022MxToCanonical passage.engine fresh transferLower.toValue
        (paymentIdOf Pipeline.Example.ulid) none).isOk = true ∧
      (iso20022MxToCanonical passage.engine fresh transferImmense.toValue
        (paymentIdOf Pipeline.Example.ulid) none).isOk = true := by
  decide +kernel

theorem accepted_transferEur :
    ∃ c, iso20022MxToCanonical passage.engine fresh transferEur.toValue
      (paymentIdOf Pipeline.Example.ulid) none = .ok c :=
  exists_of_isOk isOk_iso20022Mx.1

theorem accepted_transferLower :
    ∃ c, iso20022MxToCanonical passage.engine fresh transferLower.toValue
      (paymentIdOf Pipeline.Example.ulid) none = .ok c :=
  exists_of_isOk isOk_iso20022Mx.2.1

theorem accepted_transferImmense :
    ∃ c, iso20022MxToCanonical passage.engine fresh transferImmense.toValue
      (paymentIdOf Pipeline.Example.ulid) none = .ok c :=
  exists_of_isOk isOk_iso20022Mx.2.2

end Example

theorem iso_kept_transferEur :
    ∃ c, iso20022MxToCanonical Example.passage.engine Example.fresh Example.transferEur.toValue
        (paymentIdOf Pipeline.Example.ulid) none = .ok c ∧
      IsoKept Example.passage.engine Example.transferEur (canonicalToIso20022Mx c) := by
  obtain ⟨c, hc⟩ := Example.accepted_transferEur
  exact ⟨c, hc, (iso_kept hc Example.regular_transferEur).1⟩

/-- An instructed currency in lower case comes back in upper case; above `2 ^ 46` a cent may come
back as two, and of a rate there come back no more digits than a double has. -/
theorem iso_changed :
    (Example.transferLower.Regular ∧
      ∃ c, iso20022MxToCanonical Example.passage.engine Example.fresh Example.transferLower.toValue
          (paymentIdOf Pipeline.Example.ulid) none = .ok c ∧
        Example.transferLower.instdAmt.map IsoAmount.ccy = some (js "usd") ∧
        (canonicalToIso20022Mx c).instdAmt.map IsoAmount.ccy = some (js "USD")) ∧
    ∃ c, iso20022MxToCanonical Example.passage.engine Example.fresh
        Example.transferImmense.toValue (paymentIdOf Pipeline.Example.ulid) none = .ok c ∧
      (canonicalToIso20022Mx c).intrBkSttlmAmt.value = js "70368744177664.02" ∧
      (canonicalToIso20022Mx c).xchgRate = some (js "1") := by
  constructor
  · obtain ⟨c, hc⟩ := Example.accepted_transferLower
    refine ⟨Example.regular_transferLower, c, hc, rfl, ?_⟩
    have hkept := instdAmt_kept (iso20022MxToCanonical_toValue hc)
      Example.regular_transferLower.instdAmt
    have hamount : Example.transferLower.instdAmt = some ⟨js "usd", js "1650.55"⟩ := rfl
    rw [hamount] at hkept
    generalize (canonicalToIso20022Mx c).instdAmt = amount at hkept ⊢
    cases hkept with
    | some h =>
      rw [Option.map_some, h.ccy]
      decide
  · obtain ⟨c, hc⟩ := Example.accepted_transferImmense
    have d := iso20022MxToCanonical_toValue hc
    refine ⟨c, hc, ?_, ?_⟩
    · change c.amount.value.toFixed 2 = _
      rw [d.amount]
      decide +kernel
    · change ((c.fx.bind Fx.rate).filter fun n => (JsValue.number n).truthy).map
        Number.toText = _
      rw [d.rate]
      decide +kernel

end MipitCore.Translation
