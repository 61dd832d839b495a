import MipitCore.Domain.Canonical
import MipitCore.Domain.Payment

/-!
# Normalization

`Normalizer.normalize` rewrites the dates of a canonical message, its currency, the
identifiers that are missing and the texts that are missing. A payment in another
currency than that of its origin rail gets a conversion into the currency of the origin
rail; the destination is not known yet.

## Main definitions

* `railLocalCurrency`
* `Runtime` — what normalization takes from the host
* `FxService` — what the exchange service answers
* `normalizeDates`, `normalizeCurrency`, `normalizeIds`, `applyFallbacks`, `normalize`

## Main results

* `normalizeCurrency_local`, `normalizeCurrency_converts`
* `normalize_eq` — what normalization changes
-/

namespace MipitCore.Normalization

open Js

/-- `RAIL_LOCAL_CURRENCY`: the native currency of each supported rail. -/
def railLocalCurrency : Rail → Text
  | .pix => js "BRL"
  | .spei => js "MXN"
  | .breB => js "COP"
  | .achNacha => js "USD"
  | .fednow => js "USD"
  | .swiftMt103 => js "USD"
  | .iso20022Mx => js "EUR"

/-- What the exchange service answers to one payment; `none` where it throws. -/
structure FxService where
  getRate : Text → Text → Option Number
  convert : Number → Text → Text → Option Number

/-- What normalization takes from the host: case conversion, `new Date(val).toISOString()`, which is
`none` for an invalid date, and two identifiers. -/
structure Runtime extends CaseMapping where
  toISOString : Datetime → Option Datetime
  msgUlid : Ulid
  e2eUlid : Ulid

/-- `normalizeDates(canonical)` -/
def normalizeDates (runtime : Runtime) (c : CanonicalPacs008) : CanonicalPacs008 :=
  let safeToISO (val : Datetime) : Datetime := (runtime.toISOString val).getD val
  { c with
    createdAt := safeToISO c.createdAt
    grpHdr := { c.grpHdr with creDtTm := safeToISO c.grpHdr.creDtTm } }

/-- The conversion of a payment into the currency of its origin rail. -/
def convertedFx (fx : FxService) (value : Number) (source target : Text) : Option Fx := do
  let rate ← fx.getRate source target
  let localAmount ← fx.convert value source target
  return ⟨some source, some target, some rate, some localAmount⟩

/-- `normalizeCurrency(canonical, fxService)` -/
def normalizeCurrency (runtime : Runtime) (fx : FxService) (c : CanonicalPacs008) : CanonicalPacs008 :=
  let uppercaseCurrency := runtime.toUpperCase c.amount.currency
  let localCurrency := railLocalCurrency c.origin.rail
  let result := { c with amount := { c.amount with currency := uppercaseCurrency } }
  if uppercaseCurrency = localCurrency then result
  else match convertedFx fx c.amount.value uppercaseCurrency localCurrency with
    | some converted => { result with fx := some converted }
    -- the error is logged, and the message stays without a conversion
    | none => result

/-- `v || w` -/
def orElse (v w : Text) : Text := if v = [] then w else v

/-- `normalizeIds(canonical)` -/
def normalizeIds (runtime : Runtime) (c : CanonicalPacs008) : CanonicalPacs008 :=
  { c with
    grpHdr := { c.grpHdr with msgId := orElse c.grpHdr.msgId (js "MSG-" ++ runtime.msgUlid.1) }
    pmtId := { c.pmtId with
      endToEndId := orElse c.pmtId.endToEndId (js "E2E-" ++ runtime.e2eUlid.1) } }

/-- `applyFallbacks(canonical)` -/
def applyFallbacks (c : CanonicalPacs008) : CanonicalPacs008 :=
  { c with
    purpose := orElse c.purpose (js "P2P")
    reference := orElse c.reference (js "MIPIT-POC") }

/-- `Normalizer.normalize(canonical)` -/
def normalize (runtime : Runtime) (fx : FxService) (c : CanonicalPacs008) : CanonicalPacs008 :=
  applyFallbacks (normalizeIds runtime (normalizeCurrency runtime fx (normalizeDates runtime c)))

section

variable (runtime : Runtime) (fx : FxService) (c : CanonicalPacs008)

/-- A payment in the currency of its origin rail is not converted. -/
theorem normalizeCurrency_local
    (h : runtime.toUpperCase c.amount.currency = railLocalCurrency c.origin.rail) :
    (normalizeCurrency runtime fx c).fx = c.fx := by
  simp [normalizeCurrency, h]

/-- Any other payment is converted into that currency, if the service answers. -/
theorem normalizeCurrency_converts
    (h : runtime.toUpperCase c.amount.currency ≠ railLocalCurrency c.origin.rail) :
    (normalizeCurrency runtime fx c).fx =
      (convertedFx fx c.amount.value (runtime.toUpperCase c.amount.currency)
        (railLocalCurrency c.origin.rail)).elim c.fx some := by
  simp only [normalizeCurrency, if_neg h]
  cases convertedFx fx c.amount.value (runtime.toUpperCase c.amount.currency)
    (railLocalCurrency c.origin.rail) <;> rfl

/-- Only the conversion depends on the exchange service. -/
theorem normalizeCurrency_eq :
    normalizeCurrency runtime fx c =
      { c with
        amount := { c.amount with currency := runtime.toUpperCase c.amount.currency }
        fx := (normalizeCurrency runtime fx c).fx } := by
  by_cases h : runtime.toUpperCase c.amount.currency = railLocalCurrency c.origin.rail
  · simp only [normalizeCurrency, if_pos h]
  · simp only [normalizeCurrency, if_neg h]
    cases convertedFx fx c.amount.value (runtime.toUpperCase c.amount.currency)
      (railLocalCurrency c.origin.rail) <;> rfl

/-- **What normalization changes**: two dates, the currency, the conversion, two identifiers, and
texts that are empty. -/
theorem normalize_eq :
    normalize runtime fx c =
      { c with
        createdAt := (normalizeDates runtime c).createdAt
        grpHdr := (normalizeIds runtime (normalizeDates runtime c)).grpHdr
        pmtId := (normalizeIds runtime c).pmtId
        amount := { c.amount with currency := runtime.toUpperCase c.amount.currency }
        fx := (normalizeCurrency runtime fx c).fx
        purpose := orElse c.purpose (js "P2P")
        reference := orElse c.reference (js "MIPIT-POC") } := by
  have hdates : (normalizeCurrency runtime fx (normalizeDates runtime c)).fx =
      (normalizeCurrency runtime fx c).fx := by
    by_cases h : runtime.toUpperCase c.amount.currency = railLocalCurrency c.origin.rail
    · rw [normalizeCurrency_local runtime fx c h]
      exact normalizeCurrency_local runtime fx (normalizeDates runtime c) h
    · rw [normalizeCurrency_converts runtime fx c h]
      exact normalizeCurrency_converts runtime fx (normalizeDates runtime c) h
  rw [normalize, normalizeCurrency_eq, hdates]
  rfl

end

end MipitCore.Normalization
