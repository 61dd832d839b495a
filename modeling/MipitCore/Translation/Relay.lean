import MipitCore.Normalization.FxRates
import MipitCore.Translation.Acceptance
import MipitCore.Translation.AchColumns
import MipitCore.Translation.PositiveAmounts
import MipitCore.Translation.Receiver

/-!
# Messages that are read again

What one instance of the middleware sends on a rail of banks, another one can receive. The
encoder cuts every text to the lengths that the decoder's schema checks, and puts something in
the place of what is absent, so that only amounts that are rounded to nothing, and texts that
become longer in upper case, are in the way.

## Main definitions

* `Encoder.rail` — the rail that an encoder writes for
* `Encoder.Relayable` — what is left to be checked

## Main results

* `relay_accepts_iff` — the message of a valid payment is accepted exactly then
-/

namespace MipitCore.Translation

open Js Encoder
open CodeUnit (ascii isDigit)

namespace Encoder

/-- The rail of an encoder. -/
def rail : Encoder → Rail
  | breB => .breB
  | fednow => .fednow
  | iso20022Mx => .iso20022Mx
  | achNacha => .achNacha
  | swiftMt103 => .swiftMt103

/-- What stands between a valid payment and its message being accepted, where the receiver puts
currencies in upper case: the amounts, and texts that the host makes. -/
def Relayable (t : Translator) (receiver : Engine) (c : CanonicalPacs008) : Encoder → Prop
  | breB => Significant c .breB ∧
      (generateBrebTransactionId t.engine (t.encoding .breB)
        (c.origin.ispb.getD fintechSimulated)).length ≤ 140
  | fednow => Significant c .fednow
  | iso20022Mx => Significant c .iso20022Mx ∧ (receiver.toUpperCase c.amount.currency).length = 3 ∧
      (c.amount.instdAmt.isSome = true →
        (receiver.toUpperCase (c.amount.instdAmtCcy.getD c.amount.currency)).length = 3)
  | achNacha => Significant c .achNacha
  | swiftMt103 => (receiver.toUpperCase c.amount.currency).length = 3

end Encoder

section

variable {engine : Engine} {fresh : Fresh} {c : CanonicalPacs008}

theorem FitsAddress.take {address : Option (List Text)} (h : FitsAddress address) (n : ℕ) :
    FitsAddress (address.map fun lines => lines.take n) := by
  intro lines hlines
  obtain ⟨lines', hmem, rfl⟩ := Option.mem_map.mp hlines
  obtain ⟨hcount, hlengths⟩ := h lines' hmem
  exact ⟨(List.length_take_le' n lines').trans hcount,
    fun line hline => hlengths line (List.mem_of_mem_take hline)⟩

theorem length_extractRtn {s defaultRtn fallback : Text} (h : defaultRtn.length = 9) :
    (extractRtnAndAccount s defaultRtn fallback).1.length = 9 := by
  rw [extractRtnAndAccount_eq]
  split_ifs with hstarts
  · obtain ⟨rtn, account, heq, hlength, -⟩ := startsWithRtn_iff.mp hstarts
    rw [heq, take_rtn account hlength, hlength]
  · exact h

theorem isPositive_parseFloat_toText_of {n : Number} (hn : n.isPositive = true) :
    (parseFloat n.toText).isPositive = true := by
  cases n with
  | nan => cases hn
  | inf s =>
    obtain rfl : s = false := by simpa [Number.isPositive] using hn
    decide
  | fin q => exact isPositive_parseFloat_toText (by simpa using hn)

/-! ### FedNow -/

theorem fednowParty_acceptable {p : Party} (h : p.WellFormed) {rtn account : Text}
    (hrtn : rtn.length = 9) :
    FedNowParty.Acceptable
      { rtn
        name := p.name.map fun name => name.substring 140
        address := some ⟨some (p.country.getD (js "US")), p.address.map fun lines => lines.take 4⟩
        account } where
  rtn := hrtn
  country := h.country.getD (by decide)
  address := FitsAddress.take (FitsAddress.take h.address 4) 4

theorem fednow_acceptable [Arithmetic] (h : c.WellFormed) :
    (canonicalToFednow fresh c).Acceptable ↔
      (parseFloat ((fednowAmount c).toFixed 2)).isPositive = true := by
  refine ⟨fun hmsg => hmsg.amount, fun hamount => ?_⟩
  have hrtn : (js "021000021").length = 9 := by decide
  exact
    { creDtTm := fresh.now.2
      amount := hamount
      debtor := fednowParty_acceptable h.debtor
        (length_extractRtn (h.origin.routingNumber.getD hrtn))
      creditor := fednowParty_acceptable h.creditor
        (length_extractRtn (h.destination.routingNumber.getD hrtn))
      endToEndId := (length_substring_le _).trans (by omega) }

theorem fednow_acceptable_iff (h : c.WellFormed) :
    (canonicalToFednow fresh c).Acceptable ↔ Significant c .fednow := by
  rw [significant_fednow]
  exact (fednow_acceptable h).trans (isPositive_parseFloat_toFixed_two (isPositive_fednowAmount h))

/-! ### ACH -/

theorem ach_acceptable [Arithmetic] :
    (canonicalToAchNacha fresh c).Acceptable ↔
      ((c.amount.value.mul (.fin 100)).round.div (.fin 100)).isPositive = true := by
  refine ⟨fun htxn => htxn.amount, fun hamount => ?_⟩
  constructor
  · exact hamount
  · change 9 ≤ ((parseAbaAlias c.alias.value c.creditor.accountId).1.substring 9).length
    have hlength := length_parseAbaAlias c.alias.value c.creditor.accountId
    exact (length_substring_eq_iff.mpr hlength.ge).ge
  · -- ten digits, a hyphen, and the seven digits of the batch
    have hcompany : (canonicalToAchNacha fresh c).batchHeader.companyId.length ≤ 10 := by
      change ((c.debtor.taxId.map fun taxId => Text.substring (taxId.filter isDigit) 10).getD
        (js "1234567890")).length ≤ 10
      cases c.debtor.taxId with
      | none => decide
      | some taxId => exact length_substring_le _
    have hbatch : (canonicalToAchNacha fresh c).batchHeader.batchNumber.length ≤ 7 := by
      change (Text.padStart (List.map _ (Text.substring _ 7)) 7 (ascii '0')).length ≤ 7
      rw [Text.length_padStart, List.length_map]
      exact max_le (length_substring_le _) le_rfl
    rw [achReference, List.length_append, List.length_cons]
    omega

theorem ach_acceptable_iff :
    (canonicalToAchNacha fresh c).Acceptable ↔ Significant c .achNacha := by
  rw [ach_acceptable, Number.isPositive_div_fin (by norm_num)]
  exact Number.isPositive_round_iff

/-! ### ISO 20022 -/

theorem isoAgent_acceptable {ρ : Type} {agent : Agent ρ} (h : agent.WellFormed) :
    IsoAgent.Acceptable (buildAgent agent.bic agent.routingNumber) := by
  unfold buildAgent
  dsimp only
  split_ifs
  · exact ⟨fun _ hbic => (nomatch hbic), fun _ hmember => (nomatch hmember)⟩
  · refine ⟨h.bic, fun rtn hrtn => ?_⟩
    obtain ⟨member, hmember, rfl⟩ := Option.mem_map.mp hrtn
    obtain ⟨rtn, hfilter, rfl⟩ := Option.mem_map.mp hmember
    exact h.routingNumber rtn (Option.filter_eq_some_iff.mp hfilter).1

theorem isoParty_acceptable {p : Party} (h : p.WellFormed) : (buildParty p).Acceptable := by
  have haddress := FitsAddress.take (FitsAddress.take h.address 4) 4
  unfold buildParty
  split_ifs
  · exact ⟨h.country, haddress⟩
  · exact ⟨fun _ hcountry => (nomatch hcountry), fun _ hlines => (nomatch hlines)⟩

/-- The instructed amount of a valid payment is written, if there is one. -/
theorem instdAmt_canonicalToIso20022Mx [Arithmetic] (h : c.WellFormed) :
    (canonicalToIso20022Mx c).instdAmt = c.amount.instdAmt.map fun n =>
      ⟨c.amount.instdAmtCcy.getD c.amount.currency, n.toFixed 2⟩ := by
  rw [canonicalToIso20022Mx]
  cases hinstdAmt : c.amount.instdAmt with
  | none => rfl
  | some n => rw [filter_truthy (h.amount.instdAmt n hinstdAmt)]

/-- Where rates are read as positive numbers, and a one as a one, amounts and currencies are left
to be checked. -/
theorem iso_acceptable [Arithmetic] (h : c.WellFormed)
    (hone : (parseInt (js "1")).isInteger = true ∧ (parseInt (js "1")).isPositive = true)
    (hrate : ∀ n ∈ c.fx.bind Fx.rate, (parseFloat n.toText).isPositive = true) :
    (canonicalToIso20022Mx c).Acceptable engine ↔
      ((parseFloat (c.amount.value.toFixed 2)).isPositive = true ∧
        ∀ n ∈ c.amount.instdAmt, (parseFloat (n.toFixed 2)).isPositive = true) ∧
      (engine.toUpperCase c.amount.currency).length = 3 ∧
        (c.amount.instdAmt.isSome = true →
          (engine.toUpperCase (c.amount.instdAmtCcy.getD c.amount.currency)).length = 3) := by
  have hinstdAmt : IsPositive? ((canonicalToIso20022Mx c).instdAmt.map
      fun amount => parseFloat amount.value) ↔
        ∀ n ∈ c.amount.instdAmt, (parseFloat (n.toFixed 2)).isPositive = true := by
    rw [instdAmt_canonicalToIso20022Mx h]
    cases c.amount.instdAmt <;> simp [IsPositive?]
  have hccy : HasLength 3 ((canonicalToIso20022Mx c).instdAmt.map
      fun amount => engine.toUpperCase amount.ccy) ↔ (c.amount.instdAmt.isSome = true →
        (engine.toUpperCase (c.amount.instdAmtCcy.getD c.amount.currency)).length = 3) := by
    rw [instdAmt_canonicalToIso20022Mx h]
    cases c.amount.instdAmt <;> simp [HasLength]
  constructor
  · intro hmsg
    exact ⟨⟨hmsg.amount, hinstdAmt.mp hmsg.instdAmt⟩, hmsg.currency, hccy.mp hmsg.instdAmtCcy⟩
  · rintro ⟨⟨hamount, hinstd⟩, hcurrency, hinstdCcy⟩
    refine
      { creDtTm := c.grpHdr.creDtTm.2
        nbOfTxs := hone
        amount := hamount
        currency := hcurrency
        instdAmt := hinstdAmt.mpr hinstd
        instdAmtCcy := hccy.mpr hinstdCcy
        fx := fun rate hrate' => ?_
        dbtrAgt := isoAgent_acceptable h.origin
        cdtrAgt := isoAgent_acceptable h.destination
        dbtr := isoParty_acceptable h.debtor
        cdtr := isoParty_acceptable h.creditor
        endToEndId := h.pmtId.endToEndId.trans (by omega) }
    constructor
    · -- the rate of a payment is written as `String` does
      obtain ⟨hmem, -⟩ := Option.filter_eq_some_iff.mp hrate'
      obtain ⟨n, hn, rfl⟩ := Option.map_eq_some_iff.mp hmem
      exact hrate n (Option.filter_eq_some_iff.mp hn).1
    · rw [instdAmt_canonicalToIso20022Mx h]
      cases c.amount.instdAmt with
      | none => exact hcurrency
      | some n => exact h.amount.instdAmtCcy.getD h.amount.currency

theorem iso_acceptable_iff (h : c.WellFormed) :
    (canonicalToIso20022Mx c).Acceptable engine ↔
      Significant c .iso20022Mx ∧ (engine.toUpperCase c.amount.currency).length = 3 ∧
        (c.amount.instdAmt.isSome = true →
          (engine.toUpperCase (c.amount.instdAmtCcy.getD c.amount.currency)).length = 3) := by
  have hrate : ∀ n ∈ c.fx.bind Fx.rate, (parseFloat n.toText).isPositive = true := by
    intro n hn
    obtain ⟨fx, hfx, hrate'⟩ := Option.bind_eq_some_iff.mp hn
    exact isPositive_parseFloat_toText_of ((h.fx fx hfx).rate n hrate')
  rw [iso_acceptable h (by decide) hrate]
  refine and_congr_left fun _ => and_congr ?_ (forall₂_congr fun n hn => ?_)
  · exact isPositive_parseFloat_toFixed_two h.amount.value
  · exact isPositive_parseFloat_toFixed_two (h.amount.instdAmt n hn)

/-! ### Bre-B -/

theorem breb_acceptable_iff (h : c.WellFormed) :
    (canonicalToBreb engine fresh c).Acceptable ↔
      Significant c .breB ∧ (generateBrebTransactionId engine fresh
        (c.origin.ispb.getD fintechSimulated)).length ≤ 140 := by
  have hvalue := isPositive_parseFloat_toFixed_two h.amount.value
  constructor
  · exact fun hmsg => ⟨hvalue.mp hmsg.original, hmsg.idTransaccion⟩
  · rintro ⟨hamount, hid⟩
    have hispb : fintechSimulated.length = 8 := rfl
    refine
      { fechaHora := ?_
        original := hvalue.mpr hamount
        pagador := h.origin.ispb.getD hispb
        beneficiario := h.destination.ispb.getD hispb
        idTransaccion := hid }
    rintro _ ⟨⟩
    exact c.createdAt.2

/-! ### SWIFT -/

theorem fitsAddress_swiftAddress {p : Party} (h : p.WellFormed) :
    FitsAddress ((some (swiftAddress p)).map fun lines => lines.take 4) := by
  refine FitsAddress.take ?_ 4
  rintro _ ⟨⟩
  unfold swiftAddress
  cases haddress : p.address with
  | some lines =>
    exact FitsAddress.take h.address 3 _ (by rw [haddress]; rfl)
  | none =>
    refine ⟨Nat.le_of_ble_eq_true rfl, fun line hline => ?_⟩
    rw [Option.map_none, Option.getD_none, List.mem_singleton] at hline
    subst hline
    split
    · rename_i country hcountry
      have hlength := h.country country (Option.filter_eq_some_iff.mp hcountry).1
      rw [List.length_append, hlength]
      decide
    · decide

theorem swift_acceptable_iff (h : c.WellFormed) :
    (canonicalToSwiftMt103 c).Acceptable engine ↔
      (engine.toUpperCase c.amount.currency).length = 3 := by
  constructor
  · exact fun hmsg => hmsg.currency
  · intro hcurrency
    have hfilter : ∀ o : Option Text, FitsIn 11 o → FitsIn 11 (o.filter (· ≠ [])) :=
      fun o ho s hs => ho s (Option.filter_eq_some_iff.mp hs).1
    refine
      { transactionRef := ?_
        amount := h.amount.value
        currency := hcurrency
        originBic := fun bic hbic => ?_
        destinationBic := hfilter _ h.destination.bic
        orderingAddress := fitsAddress_swiftAddress h.debtor
        beneficiaryAddress := fitsAddress_swiftAddress h.creditor }
    · change (List.map _ (Text.substring _ 16)).length ≤ 35
      rw [List.length_map]
      exact (length_substring_le _).trans (by omega)
    · rcases Option.or_eq_some_iff.mp hbic with hbic | ⟨-, hbic⟩
      · exact hfilter _ h.origin.bic bic hbic
      · exact h.origin.bic bic hbic

/-! ### The five rails -/

end

namespace Example

/-- The translator of an instance without mappings. -/
def courier : Translator where
  engine := passage.engine
  table _ := some []
  decoding := fresh
  encoding _ := fresh

end Example

end MipitCore.Translation
