import MipitCore.Js.Double
import MipitCore.Translation.AchNacha
import MipitCore.Translation.CreditorKey

/-!
# ACH, there and back

A transaction that has been decoded and is encoded again moves the same money to the
same account: cents become a decimal and cents again, and the routing number and the
account that are joined by a slash come apart at it. Which side pays is lost, since the
decoder does not look at the code of an entry, and the encoder writes one code only.

## Main definitions

* `AchNachaTransaction.Regular` — transactions within the lengths of the format
* `CreditedSideKept` — what a transaction and its second version have in common
* `AchNachaTransaction.payer`, `DirectionKept`

## Main results

* `parseAbaAlias_append` — a routing number and an account come apart
* `creditedSide_kept`
* `directionKept_iff`
-/

namespace MipitCore.Translation

open Js
open CodeUnit (ascii isDigit isWhite)
open scoped Double

/-! ### Routing numbers and accounts -/

/-- A routing number of nine digits and an account come apart at the slash between them. -/
theorem parseAbaAlias_append {rtn : Text} (hlength : rtn.length = 9) (hdigits : isDigits rtn = true)
    (account fallback : Text) :
    parseAbaAlias (rtn ++ ascii '/' :: account) fallback = (rtn, stripRailPrefix account) := by
  have hsplit := Text.split_append account (slash_notMem hdigits)
  have hlen : 2 ≤ (rtn :: Text.split account (ascii '/')).length := by
    have := List.length_pos_of_ne_nil (Text.split_ne_nil account (ascii '/'))
    rw [List.length_cons]
    omega
  simp only [parseAbaAlias, hsplit, List.headD_cons, List.tail_cons, Text.join_split]
  rw [if_pos ⟨hlen, hlength, hdigits⟩]

/-! ### The credited side -/

/-- The texts are equal up to padding at the end. -/
def UpToPadding (s t : Text) : Prop := Text.trimEnd s = Text.trimEnd t

/-- A transaction within the lengths of the format, of so few cents that doubles keep them apart. -/
structure AchNachaTransaction.Regular (txn : AchNachaTransaction) : Prop where
  routingTransitNumber : txn.entryDetail.routingTransitNumber.length = 9 ∧
    isDigits txn.entryDetail.routingTransitNumber = true
  originatingDfiId : txn.batchHeader.originatingDfiId.length = 8 ∧
    isDigits txn.batchHeader.originatingDfiId = true
  receiverAccount : hasRailPrefix txn.entryDetail.accountNumber = false ∧
    (Text.trim txn.entryDetail.accountNumber).length ≤ 17
  originatorAccount : hasRailPrefix txn.originator.accountNumber = false
  amount : ∃ cents : ℤ, txn.entryDetail.amount = .fin cents ∧ (cents : ℚ) / 100 < 2 ^ 45
  individualName : Text.trim txn.entryDetail.individualName = txn.entryDetail.individualName ∧
    txn.entryDetail.individualName.length ≤ 22
  originatorName : Text.trim txn.originator.name = txn.originator.name ∧
    txn.originator.name.length ≤ 140
  companyEntryDescription :
    Text.trim txn.batchHeader.companyEntryDescription = txn.batchHeader.companyEntryDescription ∧
      txn.batchHeader.companyEntryDescription.length ≤ 10

/-- The second version of a transaction moves the same amount from the same account to the same
account. -/
structure CreditedSideKept (txn txn' : AchNachaTransaction) : Prop where
  routingTransitNumber :
    txn'.entryDetail.routingTransitNumber = txn.entryDetail.routingTransitNumber
  accountNumber : UpToPadding txn'.entryDetail.accountNumber txn.entryDetail.accountNumber
  individualName : UpToPadding txn'.entryDetail.individualName txn.entryDetail.individualName
  companyEntryDescription : UpToPadding txn'.batchHeader.companyEntryDescription
    txn.batchHeader.companyEntryDescription
  amount : txn'.entryDetail.amount = txn.entryDetail.amount
  originatorName : txn'.originator.name = txn.originator.name
  originatorAccount : txn'.originator.accountNumber = txn.originator.accountNumber
  originatingDfiId : txn'.batchHeader.originatingDfiId = txn.batchHeader.originatingDfiId

section

variable {fresh fresh' : Fresh} {txn : AchNachaTransaction} {paymentId : Text}
  {traceId : Option Text} {c : CanonicalPacs008}

/-- Cents become a number of dollars, and that number of cents again. -/
theorem cents_div_mul {cents : ℤ} (hpos : ((Number.fin cents).div (.fin 100)).isPositive = true)
    (hlt : (cents : ℚ) / 100 < 2 ^ 45) :
    (((Number.fin cents).div (.fin 100)).mul (.fin 100)).round = .fin cents := by
  have hdiv : (Number.fin cents).div (.fin 100) = toDouble (cents / 100) :=
    Number.div_fin (by norm_num)
  rw [hdiv] at hpos ⊢
  have hcents : (0 : ℚ) < cents / 100 :=
    (zpow_pos (by norm_num) _).trans (isPositive_toDouble_iff.mp hpos)
  have hnonneg : 0 < cents := Int.cast_pos.mp ((div_pos_iff_of_pos_right (by norm_num)).mp hcents)
  lift cents to ℕ using hnonneg.le
  exact round_mul_toDouble (Int.natCast_pos.mp hnonneg) hlt

theorem upToPadding_padEnd (s : Text) (n : ℕ) : UpToPadding (s.padEnd n (ascii ' ')) s :=
  Text.trimEnd_padEnd_space s n

/-- A text within its length is cut and padded to itself. -/
theorem upToPadding_cut {s : Text} {n : ℕ} (h : s.length ≤ n) :
    UpToPadding ((s.substring n).padEnd n (ascii ' ')) s := by
  rw [Text.substring, List.take_of_length_le h]
  exact upToPadding_padEnd s n

/-- The routing number of the originating institution, of nine digits. -/
theorem dfi_routing (h : txn.Regular) :
    let routing := (txn.batchHeader.originatingDfiId.substring 9).padEnd 9 (ascii '0')
    routing.length = 9 ∧ isDigits routing = true ∧
      routing.substring 8 = txn.batchHeader.originatingDfiId := by
  obtain ⟨hlength, hdigits⟩ := h.originatingDfiId
  have hcut : txn.batchHeader.originatingDfiId.substring 9 = txn.batchHeader.originatingDfiId :=
    List.take_of_length_le (by omega)
  simp only [hcut]
  refine ⟨by rw [Text.length_padEnd]; omega, ?_, ?_⟩
  · exact isDigits_append.mpr ⟨hdigits, isDigits_replicate_zero _⟩
  · rw [Text.substring, Text.padEnd, ← hlength, List.take_left]

/-- **ACH moves the same money there and back**, where the entry is described and the receiver's
account begins with no white space. -/
theorem creditedSide_kept (h : achNachaToCanonical fresh txn.toValue paymentId traceId = .ok c)
    (hregular : txn.Regular) (hdescription : txn.batchHeader.companyEntryDescription ≠ [])
    (haccount : ∀ unit ∈ txn.entryDetail.accountNumber.head?, isWhite unit = false) :
    CreditedSideKept txn (canonicalToAchNacha fresh' c) := by
  have d := achNachaToCanonical_toValue h
  obtain ⟨hrtnLength, hrtnDigits⟩ := hregular.routingTransitNumber
  obtain ⟨hdfiLength, hdfiDigits, hdfi⟩ := dfi_routing hregular
  obtain ⟨cents, hcents, hlt⟩ := hregular.amount
  have hrtn : txn.entryDetail.routingTransitNumber.substring 9 =
      txn.entryDetail.routingTransitNumber := List.take_of_length_le hrtnLength.le
  have htrim := Text.trim_eq_trimEnd_of_head haccount
  -- what the decoder has joined into one alias, the encoder splits in the same place
  have hreceiver : parseAbaAlias c.alias.value c.creditor.accountId =
      (txn.entryDetail.routingTransitNumber, Text.trim txn.entryDetail.accountNumber) := by
    rw [d.alias, hrtn, parseAbaAlias_append hrtnLength hrtnDigits, stripRailPrefix_eq_self]
    exact hasRailPrefix_of_prefix (Text.trim_prefix_of_head haccount) hregular.receiverAccount.1
  have horiginator : parseAbaAlias
      (c.origin.routingNumber.getD (js "000000000") ++
        ascii '/' :: stripRailPrefix c.debtor.accountId) c.debtor.accountId =
      ((txn.batchHeader.originatingDfiId.substring 9).padEnd 9 (ascii '0'),
        txn.originator.accountNumber) := by
    rw [d.routingNumber, Option.getD_some, d.debtorAccount,
      stripRailPrefix_eq_self hregular.originatorAccount, parseAbaAlias_append hdfiLength hdfiDigits,
      stripRailPrefix_eq_self hregular.originatorAccount]
  have hpurpose : c.purpose = txn.batchHeader.companyEntryDescription := by
    obtain ⟨htrimmed, hlength⟩ := hregular.companyEntryDescription
    have hcut : Text.substring txn.batchHeader.companyEntryDescription 35 =
        txn.batchHeader.companyEntryDescription := List.take_of_length_le (by omega)
    simp only [d.purpose, achPurpose, htrimmed, hcut, if_neg hdescription]
  have hname : c.creditor.name = some txn.entryDetail.individualName := by
    obtain ⟨htrimmed, hlength⟩ := hregular.individualName
    rw [d.creditorName, htrimmed, Text.substring, List.take_of_length_le (by omega)]
  simp only [canonicalToAchNacha, hreceiver, horiginator]
  constructor
  · exact hrtn
  · have hcut := upToPadding_cut hregular.receiverAccount.2
    refine hcut.trans ?_
    rw [htrim, Text.trimEnd_trimEnd]
  · change UpToPadding (((c.creditor.name.getD _).substring 22).padEnd 22 _) _
    rw [hname]
    exact upToPadding_cut hregular.individualName.2
  · change UpToPadding ((c.purpose.substring 10).padEnd 10 _) _
    rw [hpurpose]
    exact upToPadding_cut hregular.companyEntryDescription.2
  · change (c.amount.value.mul (.fin 100)).round = _
    have hpos := d.isPositive
    rw [d.amount, hcents] at hpos
    rw [d.amount, hcents, cents_div_mul hpos hlt]
  · change c.debtor.name.getD _ = _
    rw [d.debtorName, Option.getD_some, Text.substring,
      List.take_of_length_le hregular.originatorName.2]
  · rfl
  · change (c.origin.routingNumber.getD _).substring 8 = _
    rw [d.routingNumber, Option.getD_some]
    exact hdfi

/-! ### Directions -/

inductive AchDirection
  | credit | debit
  deriving DecidableEq, Repr

inductive AchAccount
  | checking | savings
  deriving DecidableEq, Repr

/-- Which way the money goes. -/
def AchTransactionCode.direction : AchTransactionCode → AchDirection
  | checkingCredit | checkingCreditPrenote | savingsCredit | savingsCreditPrenote => .credit
  | checkingDebit | checkingDebitPrenote | savingsDebit | savingsDebitPrenote => .debit

/-- What kind of account the receiver has. -/
def AchTransactionCode.account : AchTransactionCode → AchAccount
  | checkingCredit | checkingCreditPrenote | checkingDebit | checkingDebitPrenote => .checking
  | savingsCredit | savingsCreditPrenote | savingsDebit | savingsDebitPrenote => .savings

/-- The account that a transaction moves money from; a prenote moves none. -/
def AchNachaTransaction.payer (txn : AchNachaTransaction) : Option Text :=
  match txn.entryDetail.transactionCode with
  | .checkingCredit | .savingsCredit => some txn.originator.accountNumber
  | .checkingDebit | .savingsDebit => some (Text.trim txn.entryDetail.accountNumber)
  | _ => none

/-- The debtor is who pays, and the second version of the transaction goes the same way, into an
account of the same kind. -/
structure DirectionKept (txn : AchNachaTransaction) (c : CanonicalPacs008)
    (txn' : AchNachaTransaction) : Prop where
  payer : ∀ account ∈ txn.payer, c.debtor.accountId = account
  direction : txn'.entryDetail.transactionCode.direction = txn.entryDetail.transactionCode.direction
  account : txn'.entryDetail.transactionCode.account = txn.entryDetail.transactionCode.account

/-- **The direction and the kind of account are kept** exactly for credits to checking accounts. -/
theorem directionKept_iff (h : achNachaToCanonical fresh txn.toValue paymentId traceId = .ok c) :
    DirectionKept txn c (canonicalToAchNacha fresh' c) ↔
      txn.entryDetail.transactionCode = .checkingCredit ∨
        txn.entryDetail.transactionCode = .checkingCreditPrenote := by
  have hcode : (canonicalToAchNacha fresh' c).entryDetail.transactionCode = .checkingCredit := rfl
  constructor
  · rintro ⟨-, hdirection, haccount⟩
    rw [hcode] at hdirection haccount
    cases hcase : txn.entryDetail.transactionCode with
    | checkingCredit => exact Or.inl rfl
    | checkingCreditPrenote => exact Or.inr rfl
    | checkingDebit | checkingDebitPrenote | savingsDebit | savingsDebitPrenote =>
      rw [hcase] at hdirection
      cases hdirection
    | savingsCredit | savingsCreditPrenote =>
      rw [hcase] at haccount
      cases haccount
  · rintro (hcase | hcase)
    · refine ⟨fun account hpayer => ?_, by rw [hcode, hcase], by rw [hcode, hcase]⟩
      rw [AchNachaTransaction.payer, hcase] at hpayer
      rw [(achNachaToCanonical_toValue h).debtorAccount]
      exact Option.some.inj hpayer
    · refine ⟨fun account hpayer => ?_, by rw [hcode, hcase]; rfl, by rw [hcode, hcase]; rfl⟩
      rw [AchNachaTransaction.payer, hcase] at hpayer
      cases hpayer

end

/-! ### Two transactions -/

namespace Example

/-- The salary of John Doe, a deposit of two thousand five hundred dollars. -/
def salary : AchNachaTransaction where
  batchHeader :=
    { serviceClassCode := js "220"
      companyName := js "ACME CORP"
      companyId := js "1234567890"
      secCode := js "PPD"
      companyEntryDescription := js "PAYROLL"
      companyDescriptiveDate := none
      effectiveEntryDate := js "260315"
      originatingDfiId := js "02100002"
      batchNumber := js "0000001" }
  entryDetail :=
    { transactionCode := .checkingCredit
      routingTransitNumber := js "021000021"
      accountNumber := js "1234567890       "
      amount := .fin 250000
      individualIdNumber := none
      individualName := js "JOHN DOE"
      discretionaryData := none
      addendaRecordIndicator := js "0"
      traceNumber := some (js "021000020000001") }
  originator := ⟨js "ACME CORP", js "9876543210", js "021000021", none⟩
  odfi := ⟨js "MIPIT FI", js "021000021", js "US"⟩
  addenda := none

/-- A salary that nothing is said about. -/
def undescribed : AchNachaTransaction :=
  { salary with batchHeader := { salary.batchHeader with companyEntryDescription := [] } }

/-- A salary into an account that is written with a space in front. -/
def indented : AchNachaTransaction :=
  { salary with entryDetail := { salary.entryDetail with accountNumber := js " 1234567890" } }

/-- A salary of so many cents that doubles confuse them with the next. -/
def fortune : AchNachaTransaction :=
  { salary with entryDetail := { salary.entryDetail with amount := .fin 3518449849465388 } }

/-- The same entry as a withdrawal from John Doe's account. -/
def withdrawal : AchNachaTransaction :=
  { salary with entryDetail := { salary.entryDetail with transactionCode := .checkingDebit } }

def achPaymentId : Text := paymentIdOf Pipeline.Example.ulid

theorem regular_salary : salary.Regular where
  routingTransitNumber := by decide
  originatingDfiId := by decide
  receiverAccount := by decide
  originatorAccount := by decide
  amount := ⟨250000, rfl, by norm_num⟩
  individualName := by decide
  originatorName := by decide
  companyEntryDescription := by decide

theorem regular_undescribed : undescribed.Regular :=
  { regular_salary with companyEntryDescription := by decide }

theorem regular_indented : indented.Regular :=
  { regular_salary with receiverAccount := by decide }

theorem isOk_ach :
    (achNachaToCanonical fresh salary.toValue achPaymentId none).isOk = true ∧
      (achNachaToCanonical fresh undescribed.toValue achPaymentId none).isOk = true ∧
      (achNachaToCanonical fresh indented.toValue achPaymentId none).isOk = true ∧
      (achNachaToCanonical fresh fortune.toValue achPaymentId none).isOk = true ∧
      (achNachaToCanonical fresh withdrawal.toValue achPaymentId none).isOk = true := by
  decide +kernel

theorem accepted_salary :
    ∃ c, achNachaToCanonical fresh salary.toValue achPaymentId none = .ok c :=
  exists_of_isOk isOk_ach.1

theorem accepted_undescribed :
    ∃ c, achNachaToCanonical fresh undescribed.toValue achPaymentId none = .ok c :=
  exists_of_isOk isOk_ach.2.1

theorem accepted_indented :
    ∃ c, achNachaToCanonical fresh indented.toValue achPaymentId none = .ok c :=
  exists_of_isOk isOk_ach.2.2.1

theorem accepted_fortune :
    ∃ c, achNachaToCanonical fresh fortune.toValue achPaymentId none = .ok c :=
  exists_of_isOk isOk_ach.2.2.2.1

theorem accepted_withdrawal :
    ∃ c, achNachaToCanonical fresh withdrawal.toValue achPaymentId none = .ok c :=
  exists_of_isOk isOk_ach.2.2.2.2

end Example

theorem creditedSide_kept_salary :
    ∃ c, achNachaToCanonical Example.fresh Example.salary.toValue Example.achPaymentId none = .ok c ∧
      CreditedSideKept Example.salary (canonicalToAchNacha Example.fresh c) := by
  obtain ⟨c, hc⟩ := Example.accepted_salary
  exact ⟨c, hc, creditedSide_kept hc Example.regular_salary (by decide) (by decide)⟩

/-- A missing description comes back as another one, a space in front of an account does not come
back, and beyond `2 ^ 45` dollars there may come back a cent more. -/
theorem creditedSide_lost :
    (Example.undescribed.Regular ∧ ∃ c, achNachaToCanonical Example.fresh
        Example.undescribed.toValue Example.achPaymentId none = .ok c ∧
      ¬ CreditedSideKept Example.undescribed (canonicalToAchNacha Example.fresh c)) ∧
    (Example.indented.Regular ∧ ∃ c, achNachaToCanonical Example.fresh
        Example.indented.toValue Example.achPaymentId none = .ok c ∧
      ¬ CreditedSideKept Example.indented (canonicalToAchNacha Example.fresh c)) ∧
    ∃ c, achNachaToCanonical Example.fresh Example.fortune.toValue Example.achPaymentId none =
        .ok c ∧
      (canonicalToAchNacha Example.fresh c).entryDetail.amount = .fin 3518449849465389 := by
  refine ⟨?_, ?_, ?_⟩
  · obtain ⟨c, hc⟩ := Example.accepted_undescribed
    refine ⟨Example.regular_undescribed, c, hc, fun hkept => ?_⟩
    have hdescription := hkept.companyEntryDescription
    change UpToPadding ((c.purpose.substring 10).padEnd 10 (ascii ' ')) [] at hdescription
    rw [(achNachaToCanonical_toValue hc).purpose] at hdescription
    revert hdescription
    unfold UpToPadding
    decide +kernel
  · obtain ⟨c, hc⟩ := Example.accepted_indented
    refine ⟨Example.regular_indented, c, hc, fun hkept => ?_⟩
    have haccount := hkept.accountNumber
    change UpToPadding ((Text.substring (parseAbaAlias c.alias.value c.creditor.accountId).2 17).padEnd
      17 (ascii ' ')) (js " 1234567890") at haccount
    rw [(achNachaToCanonical_toValue hc).alias, (achNachaToCanonical_toValue hc).creditorAccount]
      at haccount
    revert haccount
    unfold UpToPadding
    decide +kernel
  · obtain ⟨c, hc⟩ := Example.accepted_fortune
    refine ⟨c, hc, ?_⟩
    change (c.amount.value.mul (.fin 100)).round = _
    rw [(achNachaToCanonical_toValue hc).amount]
    decide +kernel

/-- A withdrawal comes back as a deposit, with the payee as the debtor. -/
theorem withdrawal_as_deposit :
    ∃ c, achNachaToCanonical Example.fresh Example.withdrawal.toValue Example.achPaymentId none =
        .ok c ∧
      c.debtor.accountId = Example.withdrawal.originator.accountNumber ∧
      (canonicalToAchNacha Example.fresh c).entryDetail.transactionCode = .checkingCredit ∧
      ¬ DirectionKept Example.withdrawal c (canonicalToAchNacha Example.fresh c) := by
  obtain ⟨c, hc⟩ := Example.accepted_withdrawal
  refine ⟨c, hc, (achNachaToCanonical_toValue hc).debtorAccount, rfl, ?_⟩
  rintro ⟨-, hdirection, -⟩
  cases hdirection

theorem directionKept_salary :
    ∃ c, achNachaToCanonical Example.fresh Example.salary.toValue Example.achPaymentId none = .ok c ∧
      DirectionKept Example.salary c (canonicalToAchNacha Example.fresh c) := by
  obtain ⟨c, hc⟩ := Example.accepted_salary
  exact ⟨c, hc, (directionKept_iff hc).mpr (Or.inl rfl)⟩

end MipitCore.Translation
