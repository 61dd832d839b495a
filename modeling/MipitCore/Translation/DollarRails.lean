import MipitCore.Foundation.Relay
import MipitCore.Translation.Iso20022RoundTrip
import MipitCore.Translation.Relay

/-!
# Payments in dollars, from rail to rail

A payment in dollars can travel on three rails: FedNow, ACH and ISO 20022. On each of them the
encoder writes it in the texts of the rail, and the decoder of the next instance reads these.
The rails have room for different lengths, and what a payment is about has to fit into all of
them: an account of seventeen characters, a name of twenty-two, a purpose of four. Amounts are
doubles, of less than `2 ^ 45` dollars, where ACH finds the cents again.

## Main definitions

* `Transfer`, `CanonicalPacs008.transfer` — what a payment is about
* `DollarPayment` — payments that fit
* `DollarRail`, `Leg`, `relay` — a journey over the three rails

## Main results

* `fednow_carries`, `ach_carries`, `iso_carries` — one leg
* `transfer_relayed` — a journey of any length ends with the same transfer
-/

namespace MipitCore.Translation

open Js Encoder Foundation
open CodeUnit (ascii isDigit isUpper isWhite)
open scoped Double

/-- What a payment is about: who pays how much to whom, and why. -/
structure Transfer where
  value : Number
  currency : Text
  /-- The bank and the account of the debtor. -/
  sender : Text
  senderName : Option Text
  /-- The bank and the account of the creditor. -/
  receiver : Text
  receiverName : Option Text
  purpose : Text
  deriving DecidableEq

/-- What a canonical message is about. -/
def transfer (c : CanonicalPacs008) : Transfer where
  value := c.amount.value
  currency := c.amount.currency
  sender := c.debtor.accountId
  senderName := c.debtor.name
  receiver := c.alias.value
  receiverName := c.creditor.name
  purpose := c.purpose

/-- The double for a positive amount of whole cents. -/
def InCents (n : Number) : Prop :=
  ∃ m : ℕ, 0 < m ∧ (m : ℚ) / 100 < 2 ^ 45 ∧ n = toDouble (m / 100)

/-- A routing number of nine digits, a slash, and an account. -/
def NamesAccount (s : Text) (p : Text → Prop) : Prop :=
  ∃ rtn account : Text, s = rtn ++ ascii '/' :: account ∧ rtn.length = 9 ∧ isDigits rtn = true ∧
    hasRailPrefix account = false ∧ p account

/-- A text that is trimmed and not too long. -/
def Trimmed (n : ℕ) (s : Text) : Prop := s.length ≤ n ∧ Text.trim s = s

instance decidableTrimmed (n : ℕ) (s : Text) : Decidable (Trimmed n s) :=
  inferInstanceAs (Decidable (_ ∧ _))

/-- A payment in dollars which has room on the three rails. -/
structure DollarPayment (c : CanonicalPacs008) : Prop where
  valid : c.SchemaValid
  value : InCents c.amount.value
  currency : c.amount.currency = js "USD"
  instdAmt : ∀ n ∈ c.amount.instdAmt, InCents n
  instdAmtCcy : (c.amount.instdAmtCcy.getD c.amount.currency).all isUpper = true
  rate : ∀ n ∈ c.fx.bind Fx.rate, ∃ q, n = toDouble q
  sender : NamesAccount c.debtor.accountId fun account => account.length ≤ 34
  senderName : c.debtor.name.isSome = true
  receiver : NamesAccount c.alias.value (Trimmed 17)
  receiverName : ∃ name, c.creditor.name = some name ∧ Trimmed 22 name
  purpose : Trimmed 4 c.purpose ∧ c.purpose ≠ []

/-- The engine leaves capital letters as they are. -/
def KeepsCapitals (engine : Engine) : Prop :=
  ∀ s : Text, s.all isUpper = true → engine.toUpperCase s = s

/-! ### Amounts -/

section

variable {n : Number} {c c' : CanonicalPacs008} {engine : Engine} {sent received : Fresh}
  {paymentId : Text} {traceId : Option Text}

theorem InCents.isPositive (h : InCents n) : n.isPositive = true := by
  obtain ⟨m, hm, hlt, rfl⟩ := h
  have hone : (1 : ℚ) ≤ m := by exact_mod_cast hm
  have hsmall : (2 : ℚ) ^ (-1075 : ℤ) < 1 / 100 :=
    (zpow_lt_zpow_right₀ (by norm_num) (by norm_num : (-1075 : ℤ) < -7)).trans (by norm_num)
  exact isPositive_toDouble_iff.mpr (hsmall.trans_le (by linarith))

/-- Whole cents are read as they were written. -/
theorem InCents.parseFloat_toFixed (h : InCents n) : parseFloat (n.toFixed 2) = n := by
  obtain ⟨m, hm, hlt, rfl⟩ := h
  have hround : parseFloat (fixedText m 2) = toDouble (m / 10 ^ 2) := parseFloat_fixedText m 2
  rw [toFixed_toDouble hm (hlt.trans (by norm_num)), hround]
  norm_num

theorem InCents.round (h : InCents n) : (n.mul (.fin 100)).round.div (.fin 100) = n := by
  obtain ⟨m, hm, hlt, rfl⟩ := h
  rw [round_mul_toDouble hm hlt]
  exact Number.div_fin (by norm_num)

/-! ### Texts -/

theorem substring_of_le {s : Text} {n : ℕ} (h : s.length ≤ n) : s.substring n = s :=
  List.take_of_length_le h

/-- A trimmed text is found again in a field that is filled up with blanks. -/
theorem Trimmed.trim_padEnd {s : Text} {n : ℕ} (h : Trimmed n s) (m : ℕ) :
    Text.trim (Text.padEnd (s.substring n) m (ascii ' ')) = s := by
  rw [substring_of_le h.1, Text.padEnd]
  induction m - s.length with
  | zero => simpa using h.2
  | succ k ih =>
    rw [List.replicate_succ', ← List.append_assoc, Text.trim_append_white (by decide), ih]

/-- Digits in front are no prefix of a network. -/
theorem NamesAccount.noPrefix {s : Text} {p : Text → Prop} (h : NamesAccount s p) :
    hasRailPrefix s = false ∧ hasNetworkPrefix s = false := by
  obtain ⟨rtn, account, rfl, hlength, hdigits, -⟩ := h
  obtain ⟨unit, rest, rfl⟩ := List.exists_cons_of_ne_nil
    (List.ne_nil_of_length_pos (by omega) : rtn ≠ [])
  have hrail : hasRailPrefix (unit :: rest ++ ascii '/' :: account) = false :=
    hasRailPrefix_of_isDigits (List.cons_ne_nil unit rest) hdigits
  have hswift : ascii 'S' ≠ unit := by
    rintro rfl
    exact absurd (isDigits_cons.mp hdigits).1 (by decide)
  have hnetwork : Text.startsWith (unit :: rest ++ ascii '/' :: account) (js "SWIFT-") = false :=
    Text.startsWith_cons_of_ne (p := js "WIFT-") hswift
  exact ⟨hrail, Bool.or_eq_false_iff.mpr ⟨hrail, hnetwork⟩⟩

/-- FedNow takes such a text apart. -/
theorem NamesAccount.extract {s : Text} {p : Text → Prop} (h : NamesAccount s p)
    (defaultRtn fallback : Text) :
    ∃ rtn account : Text, extractRtnAndAccount s defaultRtn fallback = (rtn, account) ∧
      s = rtn ++ ascii '/' :: account ∧ p account := by
  have hclean := stripRailPrefix_eq_self h.noPrefix.1
  obtain ⟨rtn, account, rfl, hlength, hdigits, haccount, hp⟩ := h
  refine ⟨rtn, account, ?_, rfl, hp⟩
  rw [extractRtnAndAccount_eq, hclean,
    if_pos (startsWithRtn_iff.mpr ⟨rtn, account, rfl, hlength, hdigits⟩), take_rtn account hlength,
    drop_rtn account hlength, stripRailPrefix_eq_self haccount]

/-- And so does ACH. -/
theorem NamesAccount.parse {s : Text} {p : Text → Prop} (h : NamesAccount s p) (fallback : Text) :
    ∃ rtn account : Text, parseAbaAlias s fallback = (rtn, account) ∧
      s = rtn ++ ascii '/' :: account ∧ rtn.length = 9 ∧ p account := by
  obtain ⟨rtn, account, rfl, hlength, hdigits, haccount, hp⟩ := h
  refine ⟨rtn, account, ?_, rfl, hlength, hp⟩
  rw [parseAbaAlias_eq, if_pos (startsWithRtn_iff.mpr ⟨rtn, account, rfl, hlength, hdigits⟩),
    take_rtn account hlength, drop_rtn account hlength, stripRailPrefix_eq_self haccount]

/-- Behind the routing number of a bank, or behind nine zeros, the text is left as it is. -/
theorem NamesAccount.parse_behind {s : Text} {p : Text → Prop} (h : NamesAccount s p)
    {routing : Text} (hlength : routing.length = 9) :
    (parseAbaAlias (routing ++ ascii '/' :: stripRailPrefix s) s).2 = s := by
  have hclean := stripRailPrefix_eq_self h.noPrefix.1
  rw [hclean, parseAbaAlias_eq]
  split_ifs
  · rw [drop_rtn s hlength, hclean]
  · exact hclean

/-- What an account of ISO 20022 is built of is found in it again. -/
theorem accountId_buildAccount (accountId : Text) (aliasType : Option AliasType)
    (aliasValue : Option Text) :
    (buildAccount accountId aliasType aliasValue).accountId =
      aliasValue.getD (stripNetworkPrefix accountId) := by
  unfold buildAccount
  dsimp only
  split_ifs <;> rfl

/-! ### What is accepted -/

theorem schemaValid_of_decoded {rail : Rail} {invalid unexpected : String} {raw : Option JsValue}
    (h : decoded rail invalid unexpected raw = .ok c) : c.SchemaValid := by
  obtain ⟨v, -, hv⟩ := decoded_eq_ok.mp h
  exact ⟨v, hv⟩

/-- What an object states as an instructed amount. -/
theorem instdAmt_of_decodes {fields part : List (String × JsValue)} (d : c.Decodes fields)
    (h : JsValue.field "amount" fields = .object part)
    (hinstdAmt : JsValue.field "instdAmt" part = .undefined)
    (hccy : JsValue.field "instdAmtCcy" part = .undefined) :
    c.amount.instdAmt = none ∧ c.amount.instdAmtCcy = none := by
  have hamount := d.amount_holds h
  have hn := hamount.instdAmt.symm.trans hinstdAmt
  have hs := hamount.instdAmtCcy.symm.trans hccy
  constructor
  · cases hcase : c.amount.instdAmt with
    | none => rfl
    | some n =>
      rw [hcase] at hn
      cases hn
  · cases hcase : c.amount.instdAmtCcy with
    | none => rfl
    | some s =>
      rw [hcase] at hs
      cases hs

/-- A payment that is about the same transfer fits too. -/
theorem DollarPayment.of_transfer (h : DollarPayment c) (hvalid : c'.SchemaValid)
    (htransfer : transfer c' = transfer c) (hinstdAmt : ∀ n ∈ c'.amount.instdAmt, InCents n)
    (hccy : (c'.amount.instdAmtCcy.getD c'.amount.currency).all isUpper = true)
    (hrate : ∀ n ∈ c'.fx.bind Fx.rate, ∃ q, n = toDouble q) : DollarPayment c' := by
  have hvalue : c'.amount.value = c.amount.value := congrArg Transfer.value htransfer
  have hcurrency : c'.amount.currency = c.amount.currency := congrArg Transfer.currency htransfer
  have hsender : c'.debtor.accountId = c.debtor.accountId := congrArg Transfer.sender htransfer
  have hsenderName : c'.debtor.name = c.debtor.name := congrArg Transfer.senderName htransfer
  have hreceiver : c'.alias.value = c.alias.value := congrArg Transfer.receiver htransfer
  have hreceiverName : c'.creditor.name = c.creditor.name :=
    congrArg Transfer.receiverName htransfer
  have hpurpose : c'.purpose = c.purpose := congrArg Transfer.purpose htransfer
  exact
    { valid := hvalid
      value := hvalue ▸ h.value
      currency := hcurrency.trans h.currency
      instdAmt := hinstdAmt
      instdAmtCcy := hccy
      rate := hrate
      sender := hsender ▸ h.sender
      senderName := hsenderName ▸ h.senderName
      receiver := hreceiver ▸ h.receiver
      receiverName := hreceiverName ▸ h.receiverName
      purpose := hpurpose ▸ h.purpose }

/-- Where no amount is instructed and nothing converted, neither has to fit. -/
theorem DollarPayment.of_transfer_plain (h : DollarPayment c) (hvalid : c'.SchemaValid)
    (htransfer : transfer c' = transfer c)
    (hnone : c'.amount.instdAmt = none ∧ c'.amount.instdAmtCcy = none) (hfx : c'.fx = none) :
    DollarPayment c' := by
  have hcurrency : c'.amount.currency = c.amount.currency := congrArg Transfer.currency htransfer
  refine h.of_transfer hvalid htransfer (fun n hn => ?_) ?_ (fun n hn => ?_)
  · rw [hnone.1] at hn
    cases hn
  · rw [hnone.2, Option.getD_none, hcurrency, h.currency]
    decide
  · rw [hfx] at hn
    cases hn

/-- A name that the schema takes is not cut. -/
theorem map_substring_name {p : Party} (h : p.WellFormed) :
    (p.name.map fun name => name.substring 140) = p.name := map_substring_eq_self h.name

/-! ### One leg -/

/-- **A leg over FedNow.** -/
theorem fednow_carries (h : DollarPayment c)
    (hc' : fednowToCanonical received (canonicalToFednow sent c).toValue paymentId traceId = .ok c') :
    DollarPayment c' ∧ transfer c' = transfer c := by
  have hformed := schemaValid_iff.mp h.valid
  have d := fednowToCanonical_toValue hc'
  -- the encoder takes bank and account apart, and the decoder puts them together
  obtain ⟨creditorRtn, creditorAccount, hcreditor, hreceiver, hshort⟩ := h.receiver.extract
    (c.destination.routingNumber.getD (js "021000021")) c.creditor.accountId
  obtain ⟨debtorRtn, debtorAccount, hdebtor, hsender, hfits⟩ := h.sender.extract
    (c.origin.routingNumber.getD (js "021000021")) c.debtor.accountId
  have hvalue : c'.amount.value = c.amount.value := by
    rw [d.amount]
    change parseFloat ((fednowAmount c).toFixed 2) = _
    rw [fednowAmount, if_pos h.currency, h.value.parseFloat_toFixed]
  have hreceived : c'.alias.value = c.alias.value := by
    rw [d.alias, hreceiver]
    simp only [canonicalToFednow, hcreditor, FedNowParty.accountId]
    rw [substring_of_le (hshort.1.trans (by omega))]
  have hsent : c'.debtor.accountId = c.debtor.accountId := by
    rw [d.debtorAccount]
    simp only [canonicalToFednow, hdebtor, FedNowParty.accountId]
    rw [substring_of_le hfits, hsender]
  have hpurpose : c'.purpose = c.purpose := by
    rw [d.purpose]
    change (c.purpose.substring 4).substring 35 = _
    rw [substring_of_le h.purpose.1.1, substring_of_le (h.purpose.1.1.trans (by omega))]
  have hsenderName : c'.debtor.name = c.debtor.name := by
    rw [d.debtorName]
    change Option.map _ (Option.map _ c.debtor.name) = _
    rw [map_substring_name hformed.debtor, map_substring_name hformed.debtor]
  have hreceiverName : c'.creditor.name = c.creditor.name := by
    rw [d.creditorName]
    change Option.map _ (Option.map _ c.creditor.name) = _
    rw [map_substring_name hformed.creditor, map_substring_name hformed.creditor]
  have htransfer : transfer c' = transfer c := by
    rw [transfer, transfer, hvalue, d.currency, h.currency, hsent, hsenderName, hreceived,
      hreceiverName, hpurpose]
  have hraw := hc'
  rw [fednowToCanonical, fednowObject_toValue] at hraw
  have hobject := decoded_object_eq_ok.mp hraw
  exact ⟨h.of_transfer_plain (schemaValid_of_decoded hc') htransfer
    (instdAmt_of_decodes hobject rfl rfl rfl) (hobject.fx_eq_none rfl), htransfer⟩

/-- **A leg over ACH.** -/
theorem ach_carries (h : DollarPayment c)
    (hc' : achNachaToCanonical received (canonicalToAchNacha sent c).toValue paymentId traceId =
      .ok c') :
    DollarPayment c' ∧ transfer c' = transfer c := by
  have hformed := schemaValid_iff.mp h.valid
  have d := achNachaToCanonical_toValue hc'
  have hraw := hc'
  rw [achNachaToCanonical, achNachaObject_toValue] at hraw
  have hobject := decoded_object_eq_ok.mp hraw
  obtain ⟨rtn, account, hparse, hreceiver, hlength, hshort⟩ :=
    h.receiver.parse c.creditor.accountId
  obtain ⟨senderName, hdebtor⟩ := Option.isSome_iff_exists.mp h.senderName
  obtain ⟨receiverName, hcreditor, hfits⟩ := h.receiverName
  have hvalue : c'.amount.value = c.amount.value := by
    rw [d.amount]
    exact h.value.round
  have hcurrency : c'.amount.currency = js "USD" := by
    simpa using (hobject.amount_holds rfl).currency.symm
  have hreceived : c'.alias.value = c.alias.value := by
    rw [d.alias, hreceiver]
    simp only [canonicalToAchNacha, hparse]
    rw [substring_of_le hlength.le, substring_of_le hlength.le, hshort.trim_padEnd]
  have hsent : c'.debtor.accountId = c.debtor.accountId := by
    -- the whole of it stands behind the routing number of the origin
    have hzeros : (js "000000000").length = 9 := rfl
    rw [d.debtorAccount]
    exact h.sender.parse_behind (hformed.origin.routingNumber.getD hzeros)
  have hsenderName : c'.debtor.name = c.debtor.name := by
    rw [d.debtorName, hdebtor]
    change some ((c.debtor.name.getD _).substring 140) = _
    rw [hdebtor, Option.getD_some, substring_of_le (hformed.debtor.name senderName hdebtor)]
  have hreceiverName : c'.creditor.name = c.creditor.name := by
    rw [d.creditorName, hcreditor]
    change some (Text.substring (Text.trim
      (Text.padEnd (Text.substring (c.creditor.name.getD _) 22) 22 _)) 140) = _
    rw [hcreditor, Option.getD_some, hfits.trim_padEnd, substring_of_le (hfits.1.trans (by omega))]
  have hpurpose : c'.purpose = c.purpose := by
    obtain ⟨⟨hshort, htrim⟩, hne⟩ := h.purpose
    have hdescription : Text.trim
        (canonicalToAchNacha sent c).batchHeader.companyEntryDescription = c.purpose := by
      have hten : Trimmed 10 c.purpose := ⟨hshort.trans (by omega), htrim⟩
      exact hten.trim_padEnd 10
    rw [d.purpose, achPurpose, hdescription, substring_of_le (hshort.trans (by omega)), if_neg hne]
  have htransfer : transfer c' = transfer c := by
    rw [transfer, transfer, hvalue, hcurrency, h.currency, hsent, hsenderName, hreceived,
      hreceiverName, hpurpose]
  exact ⟨h.of_transfer_plain (schemaValid_of_decoded hc') htransfer
    (instdAmt_of_decodes hobject rfl rfl rfl) (hobject.fx_eq_none rfl), htransfer⟩

/-- **A leg over ISO 20022.** -/
theorem iso_carries (hcapitals : KeepsCapitals engine) (h : DollarPayment c)
    (hc' : iso20022MxToCanonical engine received (canonicalToIso20022Mx c).toValue paymentId
      traceId = .ok c') :
    DollarPayment c' ∧ transfer c' = transfer c := by
  have hformed := schemaValid_iff.mp h.valid
  have d := iso20022MxToCanonical_toValue hc'
  have hupper : c.amount.currency.all isUpper = true := by
    rw [h.currency]
    decide
  have hvalue : c'.amount.value = c.amount.value := by
    rw [d.amount]
    exact h.value.parseFloat_toFixed
  have hcurrency : c'.amount.currency = c.amount.currency := by
    rw [d.currency]
    exact hcapitals _ hupper
  have hreceived : c'.alias.value = c.alias.value := by
    rw [d.aliasValue]
    exact accountId_buildAccount _ _ _
  have hsent : c'.debtor.accountId = c.debtor.accountId := by
    rw [d.debtor.accountId]
    exact (accountId_buildAccount _ _ _).trans (stripNetworkPrefix_eq_self h.sender.noPrefix.2)
  have hsenderName : c'.debtor.name = c.debtor.name := by
    rw [d.debtor.name]
    change Option.map _ (Option.map _ c.debtor.name) = _
    rw [map_substring_name hformed.debtor, map_substring_name hformed.debtor]
  have hreceiverName : c'.creditor.name = c.creditor.name := by
    rw [d.creditor.name]
    change Option.map _ (Option.map _ c.creditor.name) = _
    rw [map_substring_name hformed.creditor, map_substring_name hformed.creditor]
  have hpurpose : c'.purpose = c.purpose := by
    rw [d.purpose]
    change (c.purpose.substring 4).substring 35 = _
    rw [substring_of_le h.purpose.1.1, substring_of_le (h.purpose.1.1.trans (by omega))]
  have htransfer : transfer c' = transfer c := by
    rw [transfer, transfer, hvalue, hcurrency, hsent, hsenderName, hreceived, hreceiverName,
      hpurpose]
  have hwritten := instdAmt_canonicalToIso20022Mx hformed
  -- this rail hands on the instructed amount and the rate too
  refine ⟨h.of_transfer (schemaValid_of_decoded hc') htransfer (fun n hn => ?_) ?_
    (fun n hn => ?_), htransfer⟩
  · rw [d.instdAmt, hwritten, Option.map_map] at hn
    obtain ⟨m, hm, rfl⟩ := Option.map_eq_some_iff.mp hn
    have hcents := h.instdAmt m hm
    change InCents (parseFloat (m.toFixed 2))
    rw [hcents.parseFloat_toFixed]
    exact hcents
  · rw [d.instdAmtCcy, hwritten, hcurrency]
    have hkept := hcapitals _ h.instdAmtCcy
    cases c.amount.instdAmt with
    | none => exact hupper
    | some n =>
      change (engine.toUpperCase (c.amount.instdAmtCcy.getD c.amount.currency)).all isUpper = true
      rw [hkept]
      exact h.instdAmtCcy
  · have hpositive := d.rate_isPositive n hn
    rw [d.rate] at hn
    obtain ⟨rate, -, rfl⟩ := Option.map_eq_some_iff.mp hn
    exact exists_parseFloat_eq_toDouble hpositive

end

/-! ### Any number of legs -/

/-- The rails of payments in dollars. -/
inductive DollarRail
  | fednow | achNacha | iso20022Mx
  deriving DecidableEq, Repr

/-- The rail among all rails. -/
def DollarRail.rail : DollarRail → Rail
  | fednow => .fednow
  | achNacha => .achNacha
  | iso20022Mx => .iso20022Mx

/-- A leg of a journey: the rail, who writes on it, and who reads from it under which payment
identifier. -/
structure Leg where
  rail : DollarRail
  sender : Translator
  receiver : Translator
  paymentId : Text
  traceId : Option Text

namespace Leg

/-- The payment is written on the rail, and is read from it. -/
def run (leg : Leg) (c : CanonicalPacs008) : Except Failure CanonicalPacs008 :=
  leg.receiver.toCanonical leg.rail.rail (leg.sender.fromCanonical leg.rail.rail c) leg.paymentId
    leg.traceId

/-- The identifier is one, and the host of the receiver leaves capital letters as they are. -/
structure Regular (leg : Leg) : Prop where
  paymentId : isPaymentId leg.paymentId = true
  engine : KeepsCapitals leg.receiver.engine

end Leg

/-- A journey, leg by leg. -/
def relay (legs : List Leg) (c : CanonicalPacs008) : Except Failure CanonicalPacs008 :=
  legs.foldlM (fun c leg => leg.run c) c

section

variable {c : CanonicalPacs008} {leg : Leg} {legs : List Leg}

/-- Whoever reads the message takes it. -/
theorem Leg.Regular.exists_run (hleg : leg.Regular) (h : DollarPayment c) :
    ∃ c', leg.run c = .ok c' := by
  have hformed := schemaValid_iff.mp h.valid
  have hamount : (parseFloat (c.amount.value.toFixed 2)).isPositive = true := by
    rw [h.value.parseFloat_toFixed]
    exact h.value.isPositive
  obtain ⟨_ | _ | _, sender, receiver, paymentId, traceId⟩ := leg
  · refine fednow_accepts_iff.mpr ⟨hleg.paymentId, (fednow_acceptable hformed).mpr ?_⟩
    rw [fednowAmount, if_pos h.currency]
    exact hamount
  · refine ach_accepts_iff.mpr ⟨hleg.paymentId, ach_acceptable.mpr ?_⟩
    rw [h.value.round]
    exact h.value.isPositive
  · have hcurrency : c.amount.currency.all isUpper = true := by
      rw [h.currency]
      decide
    -- what `String` writes for the rate is read as the same double
    have hrate : ∀ n ∈ c.fx.bind Fx.rate, (parseFloat n.toText).isPositive = true := by
      intro n hn
      obtain ⟨fx, hfx, hsome⟩ := Option.bind_eq_some_iff.mp hn
      have hpositive := (hformed.fx fx hfx).rate n hsome
      obtain ⟨q, hq⟩ := h.rate n hn
      rw [parseFloat_toText_double hpositive hq]
      exact hpositive
    refine iso_accepts_iff.mpr ⟨hleg.paymentId, (iso_acceptable hformed (by decide +kernel)
      hrate).mpr ⟨⟨hamount, fun n hn => ?_⟩, ?_, fun _ => ?_⟩⟩
    · rw [(h.instdAmt n hn).parseFloat_toFixed]
      exact (h.instdAmt n hn).isPositive
    · rw [hleg.engine _ hcurrency, h.currency]
      rfl
    · rw [hleg.engine _ h.instdAmtCcy]
      exact hformed.amount.instdAmtCcy.getD hformed.amount.currency

/-- **One leg** hands on the transfer. -/
theorem Leg.Regular.carries (hleg : leg.Regular) :
    Carries (ε := Failure) DollarPayment transfer leg.run := by
  intro c h
  obtain ⟨c', hc'⟩ := hleg.exists_run h
  refine ⟨c', hc', ?_⟩
  obtain ⟨_ | _ | _, sender, receiver, paymentId, traceId⟩ := leg
  · exact fednow_carries h hc'
  · exact ach_carries h hc'
  · exact iso_carries hleg.engine h hc'

/-- **A journey over the rails of dollars**, of any length and in any order, is completed, and
pays the same amount from the same account to the same account for the same purpose. -/
theorem transfer_relayed (hlegs : ∀ leg ∈ legs, leg.Regular) (h : DollarPayment c) :
    ∃ c', relay legs c = .ok c' ∧ DollarPayment c' ∧ transfer c' = transfer c :=
  Carries.foldlM (fun leg hleg => (hlegs leg hleg).carries) c h

end

/-! ### A journey -/

namespace Example

/-- Over ACH, ISO 20022 and FedNow. -/
def journey : List Leg :=
  [.achNacha, .iso20022Mx, .fednow].map fun rail =>
    ⟨rail, courier, courier, paymentIdOf Pipeline.Example.ulid, none⟩

theorem keepsCapitals_passage : KeepsCapitals passage.engine := by
  intro s hs
  have hunit : ∀ unit ∈ s, (if CodeUnit.isLower unit then unit - 32 else unit) = unit := by
    intro unit hunit
    have hupper := List.all_eq_true.mp hs unit hunit
    rw [if_neg]
    simp only [isUpper, CodeUnit.isLower, Bool.and_eq_true, decide_eq_true_eq] at hupper ⊢
    omega
  exact (List.map_congr_left hunit).trans (List.map_id' s)

theorem regular_journey : ∀ leg ∈ journey, leg.Regular := by
  intro leg hleg
  obtain ⟨rail, -, rfl⟩ := List.mem_map.mp hleg
  exact ⟨isPaymentId_paymentIdOf _, keepsCapitals_passage⟩

/-- The message that FedNow has brought fits into the other rails. -/
theorem dollarPayment_instant {c : CanonicalPacs008} (hc : fednowToCanonical fresh instant.toValue
    (paymentIdOf Pipeline.Example.ulid) none = .ok c) : DollarPayment c := by
  have d := fednowToCanonical_toValue hc
  have hraw := hc
  rw [fednowToCanonical, fednowObject_toValue] at hraw
  have hobject := decoded_object_eq_ok.mp hraw
  have hnone := instdAmt_of_decodes hobject rfl rfl rfl
  constructor
  · exact schemaValid_of_decoded hc
  · rw [d.amount]
    exact ⟨150000, by omega, by norm_num, by decide +kernel⟩
  · exact d.currency
  · simp [hnone.1]
  · rw [hnone.2, d.currency]
    decide
  · simp [hobject.fx_eq_none rfl]
  · rw [d.debtorAccount]
    exact ⟨js "021000021", js "1234567890", rfl, by decide, by decide, by decide, by decide⟩
  · rw [d.debtorName]
    rfl
  · rw [d.alias]
    exact ⟨js "026009593", js "98765/01", rfl, by decide, by decide, by decide, by decide⟩
  · exact ⟨js "Jane Smith", d.creditorName, by decide, by decide⟩
  · rw [d.purpose]
    decide

end Example

/-- Fifteen hundred dollars travel on. -/
theorem instant_relayed :
    ∃ c, fednowToCanonical Example.fresh Example.instant.toValue
        (paymentIdOf Pipeline.Example.ulid) none = .ok c ∧
      ∃ c', relay Example.journey c = .ok c' ∧ DollarPayment c' ∧ transfer c' = transfer c := by
  obtain ⟨c, hc⟩ := Example.accepted_instant
  exact ⟨c, hc, transfer_relayed Example.regular_journey (Example.dollarPayment_instant hc)⟩

end MipitCore.Translation
