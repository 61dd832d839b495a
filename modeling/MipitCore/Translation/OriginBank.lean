import MipitCore.Translation.Receiver

/-!
# The originating bank of an ACH transaction

The header of a batch names the originating bank by the first eight digits of its routing
number. The ninth is a check digit, which the decoder does not compute nor take from the
transaction, where it is written in full: it appends a zero. The encoders pass the result
on as the number of the debtor's agent.

## Main definitions

* `NamesOrigin` — a routing number of the transaction that its batch is from
* `RoutingKept` — it reaches the canonical message and the messages that are made of it

## Main results

* `origin_of_achDecoded` — what the decoder makes of eight digits
* `routingKept_iff`
-/

namespace MipitCore.Translation

open Js
open CodeUnit (ascii isDigit)

/-- A routing number of nine digits that the transaction gives for its originating side, and that
its batch has the first eight digits of. -/
structure NamesOrigin (txn : AchNachaTransaction) (rtn : Text) : Prop where
  given : rtn = txn.odfi.routingNumber ∨ rtn = txn.originator.routingNumber
  length : rtn.length = 9
  digits : isDigits rtn = true
  dfiId : txn.batchHeader.originatingDfiId.length = 8
  starts : txn.batchHeader.originatingDfiId <+: rtn

/-- The routing number reaches the canonical message. Where the debtor's account does not start with
a routing number of its own, FedNow and ISO 20022 name it for the debtor's agent. -/
structure RoutingKept (fresh : Fresh) (rtn : Text) (c : CanonicalPacs008) : Prop where
  origin : c.origin.routingNumber = some rtn
  fednow : startsWithRtn c.debtor.accountId = false → (canonicalToFednow fresh c).debtor.rtn = rtn
  iso : startsWithRtn c.debtor.accountId = false →
    ((canonicalToIso20022Mx c).dbtrAgt.bind IsoAgent.clrSysMmbId).map IsoMember.mmbId = some rtn

/-- The check digit of the routing number is a zero; and where the debtor's account starts with a
routing number after the prefix of a rail, it is the same. -/
structure ChecksToZero (txn : AchNachaTransaction) (rtn : Text) : Prop where
  checkDigit : rtn = txn.batchHeader.originatingDfiId ++ js "0"
  account : startsWithRtn txn.originator.accountNumber = false →
    startsWithRtn (stripRailPrefix txn.originator.accountNumber) = true →
      (stripRailPrefix txn.originator.accountNumber).take 9 = rtn

section

variable {fresh fresh' : Fresh} {txn : AchNachaTransaction} {paymentId rtn : Text}
  {traceId : Option Text} {c : CanonicalPacs008}

/-- **The decoder appends a zero** to the eight digits of the batch. -/
theorem origin_of_achDecoded (d : AchDecoded txn c)
    (hlength : txn.batchHeader.originatingDfiId.length = 8) :
    c.origin.routingNumber = some (txn.batchHeader.originatingDfiId ++ js "0") := by
  have hzero : js "0" = [ascii '0'] := by decide
  rw [d.routingNumber, Text.substring, List.take_of_length_le (by omega), Text.padEnd, hlength,
    hzero]
  rfl

/-- The debtor's agent of FedNow. -/
theorem fednow_debtor_rtn :
    (canonicalToFednow fresh c).debtor.rtn =
      if startsWithRtn (stripRailPrefix c.debtor.accountId) = true then
        (stripRailPrefix c.debtor.accountId).take 9
      else c.origin.routingNumber.getD (js "021000021") := by
  show (extractRtnAndAccount _ _ _).1 = _
  rw [extractRtnAndAccount_eq]
  split_ifs <;> rfl

/-- The debtor's agent of ISO 20022. -/
theorem iso_debtor_mmbId (h : c.origin.routingNumber = some rtn) (hrtn : rtn ≠ []) :
    ((canonicalToIso20022Mx c).dbtrAgt.bind IsoAgent.clrSysMmbId).map IsoMember.mmbId = some rtn := by
  show ((buildAgent c.origin.bic c.origin.routingNumber).bind _).map _ = _
  rw [h]
  simp [buildAgent, hrtn]

/-- **The routing number of the originating bank is kept** exactly if its check digit is a zero and
FedNow finds no other in the debtor's account. -/
theorem routingKept_iff (h : achNachaToCanonical fresh txn.toValue paymentId traceId = .ok c)
    (hrtn : NamesOrigin txn rtn) : RoutingKept fresh' rtn c ↔ ChecksToZero txn rtn := by
  have d := achNachaToCanonical_toValue h
  have horigin := origin_of_achDecoded d hrtn.dfiId
  have hne : rtn ≠ [] := List.ne_nil_of_length_pos (by have := hrtn.length; omega)
  constructor
  · intro hkept
    -- the decoder has put a zero in the place of the check digit
    have hcheck : txn.batchHeader.originatingDfiId ++ js "0" = rtn :=
      Option.some.inj (horigin.symm.trans hkept.origin)
    refine ⟨hcheck.symm, fun hown hprefixed => ?_⟩
    -- FedNow takes the number in the account before that of the origin
    have hagent := hkept.fednow (by rw [d.debtorAccount, hown])
    rwa [fednow_debtor_rtn, d.debtorAccount, if_pos hprefixed] at hagent
  · intro hzero
    have hkept : c.origin.routingNumber = some rtn := by rw [horigin, ← hzero.checkDigit]
    refine ⟨hkept, fun hown => ?_, fun _ => iso_debtor_mmbId hkept hne⟩
    rw [d.debtorAccount] at hown
    rw [fednow_debtor_rtn, d.debtorAccount]
    split_ifs with hprefixed
    · exact hzero.account hown hprefixed
    · rw [hkept, Option.getD_some]

end

namespace Example

/-- A salary from a bank whose check digit is a zero. -/
def fromBranch : AchNachaTransaction :=
  { salary with
    batchHeader := { salary.batchHeader with originatingDfiId := js "02100003" }
    odfi := { salary.odfi with routingNumber := js "021000030" } }

theorem accepted_fromBranch :
    ∃ c, achNachaToCanonical fresh fromBranch.toValue achPaymentId none = .ok c :=
  exists_of_isOk (by decide +kernel)

theorem namesOrigin_fromBranch : NamesOrigin fromBranch (js "021000030") where
  given := Or.inl rfl
  length := by decide
  digits := by decide
  dfiId := by decide
  starts := by decide

theorem namesOrigin_salary : NamesOrigin salary (js "021000021") where
  given := Or.inl rfl
  length := by decide
  digits := by decide
  dfiId := by decide
  starts := by decide

end Example

theorem routingKept_fromBranch :
    ∃ c, achNachaToCanonical Example.fresh Example.fromBranch.toValue Example.achPaymentId none =
        .ok c ∧
      RoutingKept Example.fresh (js "021000030") c := by
  obtain ⟨c, hc⟩ := Example.accepted_fromBranch
  exact ⟨c, hc, (routingKept_iff hc Example.namesOrigin_fromBranch).mpr
    ⟨by decide, fun _ hprefixed => absurd hprefixed (by decide)⟩⟩

/-- A salary from the bank 021000021 is passed on as one from 021000020. -/
theorem salary_from_another_bank :
    NamesOrigin Example.salary (js "021000021") ∧
      ∃ c, achNachaToCanonical Example.fresh Example.salary.toValue Example.achPaymentId none =
          .ok c ∧
        c.origin.routingNumber = some (js "021000020") ∧
        (canonicalToFednow Example.fresh c).debtor.rtn = js "021000020" ∧
        ¬ RoutingKept Example.fresh (js "021000021") c := by
  obtain ⟨c, hc⟩ : ∃ c, achNachaToCanonical Example.fresh Example.salary.toValue
      Example.achPaymentId none = .ok c := exists_of_isOk (by decide +kernel)
  have d := achNachaToCanonical_toValue hc
  have horigin : c.origin.routingNumber = some (js "021000020") :=
    (origin_of_achDecoded d Example.namesOrigin_salary.dfiId).trans (by decide)
  refine ⟨Example.namesOrigin_salary, c, hc, horigin, ?_, fun hkept => ?_⟩
  · rw [fednow_debtor_rtn, d.debtorAccount, horigin]
    decide
  · exact absurd (Option.some.inj (horigin.symm.trans hkept.origin)) (by decide)

end MipitCore.Translation
