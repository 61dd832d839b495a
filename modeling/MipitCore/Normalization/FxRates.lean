import MipitCore.Js.Rounding
import MipitCore.Normalization.Normalizer

/-!
# Exchange rates

`FxService.getRate` and `FxService.convert` read a table of rates, all relative to the
dollar. An amount is converted by way of the dollar, and rounded to two decimals. A
currency that the table does not know counts as the dollar.

## Main definitions

* `SupportedCurrency`, `Rates`, `fallbackRates`
* `Rates.getRate`, `Rates.convert`
* `FxService.ofTables` — the answers to a payment, from the table of each of its two calls

## Main results

* `normalizeCurrency_ofTables` — the conversion of a payment in another currency
-/

namespace MipitCore.Normalization

open Js

/-- `SUPPORTED_CURRENCIES` -/
inductive SupportedCurrency
  | usd
  | brl
  | mxn
  | cop
  | eur
  deriving DecidableEq

namespace SupportedCurrency

def code : SupportedCurrency → Text
  | usd => js "USD"
  | brl => js "BRL"
  | mxn => js "MXN"
  | cop => js "COP"
  | eur => js "EUR"

def all : List SupportedCurrency := [usd, brl, mxn, cop, eur]

end SupportedCurrency

/-- `Record<SupportedCurrency, number>` -/
abbrev Rates := SupportedCurrency → Number

/-- `FALLBACK_RATES` -/
def fallbackRates [Arithmetic] : Rates
  | .usd => .fin 1
  | .brl => Arithmetic.round 5.02
  | .mxn => Arithmetic.round 17.43
  | .cop => .fin 4180
  | .eur => Arithmetic.round 0.92

/-- `Math.round(converted * 100) / 100` -/
def roundCents [Arithmetic] (converted : Number) : Number :=
  (converted.mul (.fin 100)).round.div (.fin 100)

namespace Rates

variable (rates : Rates)

/-- `rates[currency] ?? 1` -/
def lookup (currency : Text) : Number :=
  ((SupportedCurrency.all.find? fun c => c.code = currency).map rates).getD (.fin 1)

/-- `getRate(source, target)` -/
def getRate [Arithmetic] (source target : Text) : Number :=
  if source = target then .fin 1 else (rates.lookup target).div (rates.lookup source)

/-- `convert(amount, from, to)` -/
def convert [Arithmetic] (amount : Number) (source target : Text) : Number :=
  roundCents (amount.mul (rates.getRate source target))

end Rates

/-- The answers to one payment whose calls of `getRate` and `convert` read these tables. -/
def FxService.ofTables [Arithmetic] (first second : Rates) : FxService where
  getRate source target := some (first.getRate source target)
  convert amount source target := some (second.convert amount source target)

section

variable (runtime : Runtime) (first second : Rates) (c : CanonicalPacs008)

/-- **A payment in another currency** gets the rate of the first table, and the amount of the
second. -/
theorem normalizeCurrency_ofTables [Arithmetic]
    (h : runtime.toUpperCase c.amount.currency ≠ railLocalCurrency c.origin.rail) :
    (normalizeCurrency runtime (.ofTables first second) c).fx = some
      { sourceCurrency := some (runtime.toUpperCase c.amount.currency)
        targetCurrency := some (railLocalCurrency c.origin.rail)
        rate := some (first.getRate (runtime.toUpperCase c.amount.currency)
          (railLocalCurrency c.origin.rail))
        localAmount := some (second.convert c.amount.value
          (runtime.toUpperCase c.amount.currency) (railLocalCurrency c.origin.rail)) } := by
  rw [normalizeCurrency_converts runtime _ c h]
  rfl

end

end MipitCore.Normalization
