import MipitCore.Js.Double
import MipitCore.Translation.CreditorKey
import MipitCore.Translation.FedNow

/-!
# FedNow, there and back

The decoder glues the routing number and the account of a party together, and the encoder
takes them apart at the slash that follows nine digits, so that an account may have
slashes of its own.

## Main definitions

* `FedNowPaymentMessage.Regular` — messages within the lengths of the format
* `FedNowKept` — what a message and its second version have in common

## Main results

* `extractRtnAndAccount_accountId` — a routing number and an account come apart
* `fednow_kept`
-/

namespace MipitCore.Translation

open Js
open CodeUnit (ascii isDigit)
open scoped Double

/-- The identifiers of a party have the lengths of the format. -/
structure FedNowParty.Regular (party : FedNowParty) : Prop where
  rtn : party.rtn.length = 9 ∧ isDigits party.rtn = true
  account : party.account.length ≤ 34 ∧ hasRailPrefix party.account = false
  name : ∀ name ∈ party.name, name.length ≤ 140

/-- A message within the lengths of the format, of an amount in cents that doubles can tell
apart. -/
structure FedNowPaymentMessage.Regular (msg : FedNowPaymentMessage) : Prop where
  debtor : msg.debtor.Regular
  creditor : msg.creditor.Regular
  amount : IsCentsText msg.value
  endToEndId : msg.endToEndId.length ≤ 35
  txId : ∀ id ∈ msg.txId, id.length ≤ 35
  purpose : ∀ cd ∈ msg.purp.join, cd.length ≤ 4
  remittance : ∀ info ∈ msg.rmtInf.join, info.length ≤ 140

/-- A party and its second version. -/
structure FedNowParty.Kept (party party' : FedNowParty) : Prop where
  rtn : party'.rtn = party.rtn
  account : party'.account = party.account
  name : party'.name = party.name
  country : party'.address.bind PostalAddress.ctry = some party.country
  addressLines : party'.addressLines = party.addressLines.map fun lines => lines.take 4

/-- A message and its second version; where the amount is written with two decimals, it is written
as it was. -/
structure FedNowKept (msg msg' : FedNowPaymentMessage) : Prop where
  msgId : msg'.msgId = msg.msgId
  endToEndId : msg'.endToEndId = msg.endToEndId
  txId : msg'.txId = msg.txId
  value : ∃ q, Denotes msg.value q ∧ Denotes msg'.value q
  valueText : IsFixedText 2 msg.value → msg'.value = msg.value
  debtor : msg.debtor.Kept msg'.debtor
  creditor : msg.creditor.Kept msg'.creditor
  purpose : ∀ cd ∈ msg.purp.join, msg'.purp.join = some cd
  remittance : ∀ info ∈ msg.rmtInf.join, msg'.rmtInf.join = some info
  header : ∃ header, msg'.header = some header ∧ header.frMmbId = some msg.debtor.rtn ∧
    header.toMmbId = some msg.creditor.rtn

section

variable {fresh fresh' : Fresh} {msg : FedNowPaymentMessage} {paymentId : Text}
  {traceId : Option Text} {c : CanonicalPacs008}

theorem hasRailPrefix_of_isDigits {s r : Text} (hne : s ≠ []) (h : isDigits s = true) :
    hasRailPrefix (s ++ r) = false := by
  obtain ⟨unit, s, rfl⟩ := List.exists_cons_of_ne_nil hne
  have hdigit := (isDigits_cons.mp h).1
  have hpix : ascii 'P' ≠ unit := by
    rintro rfl
    exact absurd hdigit (by decide)
  have hspei : ascii 'S' ≠ unit := by
    rintro rfl
    exact absurd hdigit (by decide)
  exact Bool.or_eq_false_iff.mpr ⟨Text.startsWith_cons_of_ne (p := js "IX-") hpix,
    Text.startsWith_cons_of_ne (p := js "PEI-") hspei⟩

/-- **A routing number and an account come apart** at the slash that joins them. -/
theorem extractRtnAndAccount_accountId {party : FedNowParty} (h : party.Regular)
    (defaultRtn fallback : Text) :
    extractRtnAndAccount party.accountId defaultRtn fallback = (party.rtn, party.account) := by
  obtain ⟨hlength, hdigits⟩ := h.rtn
  have hne : party.rtn ≠ [] := List.ne_nil_of_length_pos (by omega)
  have hclean : stripRailPrefix party.accountId = party.accountId :=
    stripRailPrefix_eq_self (hasRailPrefix_of_isDigits hne hdigits)
  have htake : (party.rtn ++ ascii '/' :: party.account).take 9 = party.rtn := by
    rw [← hlength, List.take_left]
  have hstarts : startsWithRtn party.accountId = true := by
    simp [startsWithRtn, FedNowParty.accountId, htake, hlength, hdigits]
  simp only [extractRtnAndAccount, hclean, hstarts, ↓reduceIte]
  rw [FedNowParty.accountId, Text.split_append _ (slash_notMem hdigits), List.headD_cons,
    List.tail_cons, Text.join_split, stripRailPrefix_eq_self h.account.2]

theorem map_substring_eq_self {n : ℕ} {o : Option Text} (h : ∀ s ∈ o, s.length ≤ n) :
    (o.map fun s => s.substring n) = o := by
  cases o with
  | none => rfl
  | some s => rw [Option.map_some, Text.substring, List.take_of_length_le (h s rfl)]

/-- A party that the encoder makes of the parts of a regular one. -/
theorem FedNowParty.kept_of_decoded {party : FedNowParty} (h : party.Regular) {p : Party}
    (hname : p.name = party.name.map fun name => name.substring 140)
    (hcountry : p.country = some party.country)
    (haddress : p.address = party.addressLines.map fun lines => lines.take 4) :
    party.Kept
      { rtn := party.rtn
        name := p.name.map fun name => name.substring 140
        address := some ⟨some (p.country.getD (js "US")), p.address.map fun lines => lines.take 4⟩
        account := party.account.substring 34 } where
  rtn := rfl
  account := List.take_of_length_le h.account.1
  name := by
    rw [hname, map_substring_eq_self h.name]
    exact map_substring_eq_self h.name
  country := by rw [hcountry, Option.getD_some, Option.bind_some]
  addressLines := by
    rw [haddress]
    cases party.addressLines with
    | none => rfl
    | some lines => simp [FedNowParty.addressLines, List.take_take]

/-- **FedNow keeps a message there and back**, where its remittance information is not empty. -/
theorem fednow_kept (h : fednowToCanonical fresh msg.toValue paymentId traceId = .ok c)
    (hregular : msg.Regular) (hinfo : msg.rmtInf.join ≠ some []) :
    FedNowKept msg (canonicalToFednow fresh' c) := by
  have d := fednowToCanonical_toValue h
  have hamount : fednowAmount c = parseFloat msg.value := by
    rw [fednowAmount, if_pos d.currency, d.amount]
  have hpos : (parseFloat msg.value).isPositive = true := d.amount ▸ d.isPositive
  -- either party is found again in the identifier that the decoder has made of it
  have hcreditor : extractRtnAndAccount c.alias.value
      (c.destination.routingNumber.getD (js "021000021")) c.creditor.accountId =
        (msg.creditor.rtn, msg.creditor.account) := by
    rw [d.alias, extractRtnAndAccount_accountId hregular.creditor]
  have hdebtor : extractRtnAndAccount c.debtor.accountId
      (c.origin.routingNumber.getD (js "021000021")) c.debtor.accountId =
        (msg.debtor.rtn, msg.debtor.account) := by
    rw [d.debtorAccount, extractRtnAndAccount_accountId hregular.debtor]
  simp only [canonicalToFednow, hcreditor, hdebtor]
  constructor
  · exact d.msgId
  · change c.pmtId.endToEndId.substring 35 = _
    rw [d.endToEndId, Text.substring, Text.substring, List.take_take, min_self,
      List.take_of_length_le hregular.endToEndId]
  · exact d.txId.trans (map_substring_eq_self hregular.txId)
  · change ∃ q, Denotes msg.value q ∧ Denotes ((fednowAmount c).toFixed 2) q
    rw [hamount]
    exact hregular.amount.denotes hpos
  · intro htext
    change (fednowAmount c).toFixed 2 = _
    rw [hamount]
    exact hregular.amount.toFixed_eq hpos htext
  · exact FedNowParty.kept_of_decoded hregular.debtor d.debtorName d.debtorCountry d.debtorAddress
  · exact FedNowParty.kept_of_decoded hregular.creditor d.creditorName d.creditorCountry
      d.creditorAddress
  · intro cd hcd
    change some (c.purpose.substring 4) = some cd
    have hlength := hregular.purpose cd hcd
    rw [d.purpose, fednowPurpose, Option.mem_def.mp hcd, Option.map_some, Option.getD_some,
      Text.substring, Text.substring, List.take_take, List.take_of_length_le (by omega)]
  · intro info hmem
    change ((c.remittanceInfo.filter fun info => info ≠ []).map fun info =>
      some (Text.substring info 140)).join = some info
    have hlength := hregular.remittance info hmem
    have hne : info ≠ [] := fun hnil => hinfo (hnil ▸ hmem)
    rw [d.remittanceInfo, Option.mem_def.mp hmem, Option.map_some, Text.substring,
      List.take_of_length_le hlength, Option.filter_some_pos (by simpa using hne), Option.map_some,
      Option.join_some, Text.substring, List.take_of_length_le hlength]
  · exact ⟨_, rfl, rfl, rfl⟩

end

/-! ### Two messages -/

namespace Example

/-- Fifteen hundred dollars, to an account with a slash in its number. -/
def instant : FedNowPaymentMessage where
  header := none
  msgId := js "MSG-FEDNOW-001"
  creDtTm := js "2026-03-15T10:30:00.000Z"
  endToEndId := js "E2E-FEDNOW-001"
  txId := none
  uetr := none
  value := js "1500.00"
  intrBkSttlmDt := js "2026-03-15"
  debtor := ⟨js "021000021", some (js "John Doe"), none, js "1234567890"⟩
  creditor := ⟨js "026009593", some (js "Jane Smith"), none, js "98765/01"⟩
  purp := none
  rmtInf := some (some (js "Invoice 123"))

/-- The same message with nothing in its remittance information. -/
def uninformed : FedNowPaymentMessage := { instant with rmtInf := some (some []) }

/-- The same message, of so many dollars that the next double is more than a cent away. -/
def immense : FedNowPaymentMessage := { instant with value := js "70368744177664.01" }

theorem regular_instant : instant.Regular where
  debtor := ⟨by decide, by decide, by decide⟩
  creditor := ⟨by decide, by decide, by decide⟩
  amount := ⟨1500, 150000, by decide +kernel, by norm_num, by norm_num⟩
  endToEndId := by decide
  txId := by simp [instant]
  purpose := by simp [instant]
  remittance := by decide

theorem regular_uninformed : uninformed.Regular :=
  { regular_instant with remittance := by decide }

theorem isOk_fednow :
    (fednowToCanonical fresh instant.toValue (paymentIdOf Pipeline.Example.ulid) none).isOk = true ∧
      (fednowToCanonical fresh uninformed.toValue (paymentIdOf Pipeline.Example.ulid) none).isOk =
        true ∧
      (fednowToCanonical fresh immense.toValue (paymentIdOf Pipeline.Example.ulid) none).isOk =
        true := by
  decide +kernel

theorem accepted_instant :
    ∃ c, fednowToCanonical fresh instant.toValue (paymentIdOf Pipeline.Example.ulid) none = .ok c :=
  exists_of_isOk isOk_fednow.1

theorem accepted_uninformed :
    ∃ c, fednowToCanonical fresh uninformed.toValue (paymentIdOf Pipeline.Example.ulid) none =
      .ok c :=
  exists_of_isOk isOk_fednow.2.1

theorem accepted_immense :
    ∃ c, fednowToCanonical fresh immense.toValue (paymentIdOf Pipeline.Example.ulid) none = .ok c :=
  exists_of_isOk isOk_fednow.2.2

end Example

theorem fednow_kept_instant :
    ∃ c, fednowToCanonical Example.fresh Example.instant.toValue
        (paymentIdOf Pipeline.Example.ulid) none = .ok c ∧
      FedNowKept Example.instant (canonicalToFednow Example.fresh c) := by
  obtain ⟨c, hc⟩ := Example.accepted_instant
  exact ⟨c, hc, fednow_kept hc Example.regular_instant (by decide)⟩

/-- Remittance information that is there and empty does not come back, and above `2 ^ 46` dollars a
cent may come back as two. -/
theorem fednow_changed :
    (Example.uninformed.Regular ∧ ∃ c, fednowToCanonical Example.fresh Example.uninformed.toValue
        (paymentIdOf Pipeline.Example.ulid) none = .ok c ∧
      ¬ FedNowKept Example.uninformed (canonicalToFednow Example.fresh c)) ∧
    ∃ c, fednowToCanonical Example.fresh Example.immense.toValue
        (paymentIdOf Pipeline.Example.ulid) none = .ok c ∧
      (canonicalToFednow Example.fresh c).value = js "70368744177664.02" := by
  constructor
  · obtain ⟨c, hc⟩ := Example.accepted_uninformed
    refine ⟨Example.regular_uninformed, c, hc, fun hkept => ?_⟩
    have hinfo := hkept.remittance [] rfl
    change ((c.remittanceInfo.filter fun info => info ≠ []).map fun info =>
      some (Text.substring info 140)).join = some [] at hinfo
    rw [(fednowToCanonical_toValue hc).remittanceInfo] at hinfo
    revert hinfo
    decide +kernel
  · obtain ⟨c, hc⟩ := Example.accepted_immense
    have d := fednowToCanonical_toValue hc
    refine ⟨c, hc, ?_⟩
    change (fednowAmount c).toFixed 2 = _
    rw [fednowAmount, if_pos d.currency, d.amount]
    decide +kernel

end MipitCore.Translation
