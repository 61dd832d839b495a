import MipitCore.Translation.BreBRoundTrip

/-!
# Accounts of Bre-B

A canonical message has one field for a party's account. The decoder puts there, after the
code of the entity and a slash, the first of three identifiers that the party has: its tax
number, its personal number, its account. The encoder takes what follows the first slash
for the account, which it is not if the party has another identifier as well.

## Main definitions

* `AccountsKept` — both parties keep their account numbers
* `NamedByAccount` — the party's first identifier is its account number

## Main results

* `accountsKept_iff`
* `namedByAccount_iff` — for an entity code without slashes
-/

namespace MipitCore.Translation

open Js
open CodeUnit (ascii isDigit)

/-- Each party that has an account number keeps it. -/
structure AccountsKept (msg msg' : BreBPaymentRequest) : Prop where
  pagador : ∀ account ∈ msg.pagador.numeroCuenta, msg'.pagador.numeroCuenta = some account
  beneficiario : ∀ account ∈ msg.beneficiario.numeroCuenta,
    msg'.beneficiario.numeroCuenta = some account

/-- What an entity code leaves in front of an account that is cut at its first slash: nothing, if it
has no slash itself. -/
def entityRest (codigoEntidad : Text) : Text :=
  ((Text.afterFirst (ascii '/') codigoEntidad).map fun rest => rest ++ [ascii '/']).getD []

/-- The party's first identifier, behind the rest of the entity code, is its account number. -/
def NamedByAccount (party : BreBParty) : Prop :=
  ∀ account ∈ party.numeroCuenta,
    entityRest party.codigoEntidad ++ party.nit.getD (party.cc.getD account) = account

section

variable {engine : Engine} {fresh fresh' : Fresh} {msg : BreBPaymentRequest} {paymentId : Text}
  {traceId : Option Text} {c : CanonicalPacs008} {party : BreBParty}

theorem afterFirst_eq_none {unit : CodeUnit} {s : Text} :
    Text.afterFirst unit s = none ↔ unit ∉ s := by
  rw [Text.afterFirst_eq_none_iff, Text.includes, List.contains_eq_mem, decide_eq_false_iff_not]

/-- What the encoder takes for an account. -/
theorem accountOf_entity (codigoEntidad id : Text) :
    accountOf (codigoEntidad ++ ascii '/' :: id) = entityRest codigoEntidad ++ id := by
  rw [accountOf_eq, entityRest]
  cases hafter : Text.afterFirst (ascii '/') codigoEntidad with
  | none =>
    rw [Text.afterFirst_append _ (afterFirst_eq_none.mp hafter)]
    rfl
  | some rest =>
    -- a code with a slash of its own: what follows that slash becomes part of the account
    have hcode := Text.takeWhile_append_afterFirst hafter
    have hnone : ascii '/' ∉ codigoEntidad.takeWhile (· ≠ ascii '/') := fun hmem =>
      absurd (List.mem_takeWhile_imp hmem) (by simp)
    rw [← hcode, List.append_assoc, List.cons_append, Text.afterFirst_append _ hnone]
    simp

/-- With an account number there is no fallback. -/
theorem partyId_eq {account : Text} (h : party.numeroCuenta = some account) (fallback : Text) :
    party.partyId fallback = party.nit.getD (party.cc.getD account) := by
  rw [BreBParty.partyId, h, Option.getD_some]

/-- A party's account after a round trip. -/
theorem numeroCuenta_brebPartyOf (codigo defaultName : Text) {fallback : Text} {p : Party}
    (h : p.accountId = party.codigoEntidad ++ ascii '/' :: party.partyId fallback) :
    (∀ account ∈ party.numeroCuenta,
      (brebPartyOf codigo defaultName p).numeroCuenta = some account) ↔ NamedByAccount party := by
  refine forall₂_congr fun account haccount => ?_
  rw [brebPartyOf, h, accountOf_entity, partyId_eq haccount, Option.some.injEq]

/-- **Account numbers are kept** exactly if each is its party's first identifier. -/
theorem accountsKept_iff
    (h : brebToCanonical engine fresh msg.toValue paymentId traceId = .ok c) :
    AccountsKept msg (canonicalToBreb engine fresh' c) ↔
      NamedByAccount msg.pagador ∧ NamedByAccount msg.beneficiario := by
  have d := brebToCanonical_toValue h
  have hpagador := numeroCuenta_brebPartyOf (c.origin.ispb.getD fintechSimulated) (js "REMITENTE")
    d.debtorAccount
  have hbeneficiario := numeroCuenta_brebPartyOf (c.destination.ispb.getD fintechSimulated)
    (js "BENEFICIARIO") d.creditorAccount
  constructor
  · intro hkept
    exact ⟨hpagador.mp hkept.pagador, hbeneficiario.mp hkept.beneficiario⟩
  · rintro ⟨hpayer, hpayee⟩
    exact ⟨hpagador.mpr hpayer, hbeneficiario.mpr hpayee⟩

/-- A code of digits leaves nothing: the tax number, or else the personal number, is the account
number wherever there is one. -/
theorem namedByAccount_iff (h : isDigits party.codigoEntidad = true) :
    NamedByAccount party ↔ ∀ account ∈ party.numeroCuenta,
      (∀ nit ∈ party.nit, nit = account) ∧
        (party.nit = none → ∀ cc ∈ party.cc, cc = account) := by
  have hrest : entityRest party.codigoEntidad = [] := by
    rw [entityRest, afterFirst_eq_none.mpr (slash_notMem h)]
    rfl
  refine forall₂_congr fun account _ => ?_
  rw [hrest, List.nil_append]
  -- the tax number comes first, and the account number last
  cases party.nit with
  | some nit => simp
  | none => cases party.cc <;> simp

end

theorem accountsKept_transfer :
    ∃ c, brebToCanonical Example.passage.engine Example.fresh Example.transfer.toValue
        (paymentIdOf Pipeline.Example.ulid) none = .ok c ∧
      AccountsKept Example.transfer (canonicalToBreb Example.passage.engine Example.fresh c) := by
  obtain ⟨c, hc⟩ := Example.accepted_transfer
  refine ⟨c, hc, (accountsKept_iff hc).mpr ⟨?_, fun account haccount => (nomatch haccount)⟩⟩
  refine (namedByAccount_iff (by decide)).mpr fun account _ => ⟨?_, fun _ => ?_⟩
  · exact fun nit hnit => nomatch hnit
  · exact fun cc hcc => nomatch hcc

namespace Example

/-- The transfer by someone who names a personal number, too. -/
def identified : BreBPaymentRequest :=
  { transfer with pagador := { transfer.pagador with cc := some (js "1020304050") } }

theorem accepted_identified :
    ∃ c, brebToCanonical passage.engine fresh identified.toValue
      (paymentIdOf Pipeline.Example.ulid) none = .ok c :=
  exists_of_isOk (by decide +kernel)

end Example

/-- The payer's personal number comes back as the number of the account. -/
theorem account_replaced :
    ∃ c, brebToCanonical Example.passage.engine Example.fresh Example.identified.toValue
        (paymentIdOf Pipeline.Example.ulid) none = .ok c ∧
      Example.identified.pagador.numeroCuenta = some (js "12345/67890") ∧
      (canonicalToBreb Example.passage.engine Example.fresh c).pagador.numeroCuenta =
        some (js "1020304050") ∧
      ¬ AccountsKept Example.identified
        (canonicalToBreb Example.passage.engine Example.fresh c) := by
  obtain ⟨c, hc⟩ := Example.accepted_identified
  have haccount : (canonicalToBreb Example.passage.engine Example.fresh c).pagador.numeroCuenta =
      some (js "1020304050") := by
    show some (accountOf c.debtor.accountId) = _
    rw [(brebToCanonical_toValue hc).debtorAccount]
    decide
  refine ⟨c, hc, rfl, haccount, fun hkept => ?_⟩
  have hsame := haccount.symm.trans (hkept.pagador _ rfl)
  exact absurd (Option.some.inj hsame) (by decide)

end MipitCore.Translation
