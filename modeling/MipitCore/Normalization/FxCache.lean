import MipitCore.Domain.Failure
import MipitCore.Foundation.Trace
import MipitCore.Normalization.Valid

/-!
# The cache of the exchange service

`FxService.getRates` keeps the last answer of the API for five minutes. The conversion of
a payment asks for the rates twice, once for the rate and once for the amount. Each time
they may come from the cache, from a new answer, from the cache although it is too old, or
from the fallback; and between the two the cache grows older, and other payments refresh it.

The payments that are normalized are processes over the cache. Whatever they do, a payment
ends with the rate of one table and the amount of another: those that its two reads found.

## Main definitions

* `FxCall`, `cacheCalls` — what `FxService` awaits or shares, and how it is answered
* `Cached.getRates`, `Cached.getRate`, `Cached.convert`, `Cached.normalizeCurrency`
* `served` — the table that a read found
* `Explained`, `ConvertAlike`

## Main results

* `Cached.getRates_traces` — a read finds one table
* `Cached.normalizeCurrency_traces` — a payment is converted by the tables of its two reads
* `explained_iff` — when the rate that is stored explains the amount that is stored
-/

namespace MipitCore.Normalization

open Js Foundation Foundation.Program

/-- What was fetched, and when. -/
structure ExchangeRates where
  fetchedAt : ℤ
  rates : Rates

/-- `CACHE_TTL_MS` -/
def cacheTtlMs : ℤ := 5 * 60 * 1000

/-- The clock and the cache are looked at; the API is asked, which answers with `body.rates`; the
cache is read again; and it is set. -/
inductive FxCall
  | look
  | fetch
  | read
  | store (entry : ExchangeRates)

namespace FxCall

def Result : FxCall → Type
  | look => ℤ × Option ExchangeRates
  | fetch => SupportedCurrency → Option Number
  | read => Option ExchangeRates
  | store _ => Unit

/-- Only the API can fail. -/
def Answered (o : Outcome FxCall Result Failure) : Prop :=
  match o.call with
  | fetch => True
  | _ => o.result.isOk = true

end FxCall

/-- A program of the exchange service. -/
abbrev FxProgram (α : Type) := Program FxCall FxCall.Result Failure α

abbrev FxOutcome := Outcome FxCall FxCall.Result Failure

namespace FxCall

/-- `Date.now()` and `this.cache`, with nothing in between. -/
abbrev doLook : FxProgram (ℤ × Option ExchangeRates) := perform FxCall.look

/-- The request to the API, and `body.rates`. -/
abbrev doFetch : FxProgram (SupportedCurrency → Option Number) := perform FxCall.fetch

/-- `this.cache` -/
abbrev doRead : FxProgram (Option ExchangeRates) := perform FxCall.read

/-- `this.cache = entry` -/
abbrev doStore (entry : ExchangeRates) : FxProgram Unit := perform (FxCall.store entry)

end FxCall

/-- The clock may show anything, and the API may answer anything. -/
def cacheCalls : Interp FxCall FxCall.Result Failure (Option ExchangeRates)
  | .look, cache, r, cache' => (∃ now, r = .ok (now, cache)) ∧ cache' = cache
  | .fetch, cache, _, cache' => cache' = cache
  | .read, cache, r, cache' => r = .ok cache ∧ cache' = cache
  | .store entry, _, r, cache' => r = .ok () ∧ cache' = some entry

theorem answered_of_cacheCalls (c : FxCall) (s : Option ExchangeRates) (r : Except Failure c.Result)
    (t : Option ExchangeRates) (h : cacheCalls c s r t) : FxCall.Answered ⟨c, r⟩ := by
  cases c with
  | look =>
    obtain ⟨⟨now, rfl⟩, -⟩ := h
    rfl
  | fetch => trivial
  | read =>
    obtain ⟨rfl, -⟩ := h
    rfl
  | store entry =>
    obtain ⟨rfl, -⟩ := h
    rfl

/-! ### Where the rates come from -/

/-- The rates that are there without asking the API: those of the cache while they are fresh, and
the fallback where there is no `appId`. -/
def ratesAtHand [Arithmetic] (appId : Option Text) (now : ℤ) (cache : Option ExchangeRates) :
    Option Rates :=
  match cache.filter fun entry => now - entry.fetchedAt < cacheTtlMs with
  | some entry => some entry.rates
  | none => if (appId.filter (· ≠ [])).isSome then none else some fallbackRates

/-- The answer of the API over the fallback. A rate of `null` is looked up as one, and stands for
it. -/
def answeredRates [Arithmetic] (body : SupportedCurrency → Option Number) : Rates := fun currency =>
  (body currency).getD (fallbackRates currency)

/-- `this.cache?.rates ?? FALLBACK_RATES` -/
def ratesOnError [Arithmetic] (cache : Option ExchangeRates) : Rates :=
  (cache.map (·.rates)).getD fallbackRates

namespace Cached

/-- `getRates()` -/
def getRates (appId : Option Text) : FxProgram Rates := do
  let (now, cache) ← FxCall.doLook
  match ratesAtHand appId now cache with
  | some rates => return rates
  | none =>
    Program.tryCatch
      (do
        let body ← FxCall.doFetch
        FxCall.doStore ⟨now, answeredRates body⟩
        return answeredRates body)
      fun _ => do
        let cache ← FxCall.doRead
        return ratesOnError cache

/-- `getRate(source, target)` -/
def getRate (appId : Option Text) (source target : Text) : FxProgram Number :=
  if source = target then return .fin 1
  else do
    let rates ← getRates appId
    return (rates.lookup target).div (rates.lookup source)

/-- `convert(amount, from, to)` -/
def convert (appId : Option Text) (amount : Number) (source target : Text) : FxProgram Number := do
  let rate ← getRate appId source target
  return roundCents (amount.mul rate)

/-- `normalizeCurrency(canonical, fxService)`, with the calls of the exchange service. -/
def normalizeCurrency (runtime : Runtime) (appId : Option Text) (c : CanonicalPacs008) :
    FxProgram CanonicalPacs008 :=
  let uppercaseCurrency := runtime.toUpperCase c.amount.currency
  let localCurrency := railLocalCurrency c.origin.rail
  let result := { c with amount := { c.amount with currency := uppercaseCurrency } }
  if uppercaseCurrency = localCurrency then return result
  else
    Program.tryCatch
      (do
        let rate ← getRate appId uppercaseCurrency localCurrency
        let localAmount ← convert appId c.amount.value uppercaseCurrency localCurrency
        return { result with
          fx := some ⟨some uppercaseCurrency, some localCurrency, some rate, some localAmount⟩ })
      fun _ => return result

end Cached

/-! ### What a read finds -/

/-- The table that a call settles a read on. -/
def served (appId : Option Text) : FxOutcome → Option Rates
  | ⟨.look, r⟩ => r.toOption.bind fun looked => ratesAtHand appId looked.1 looked.2
  | ⟨.fetch, r⟩ => r.toOption.map answeredRates
  | ⟨.read, r⟩ => r.toOption.map ratesOnError
  | ⟨.store _, _⟩ => none

/-- The rate that is stored explains the amount that is stored. -/
def Explained (value : Number) (fx : Fx) : Prop :=
  ∀ rate ∈ fx.rate, fx.localAmount = some (roundCents (value.mul rate))

/-- All the tables convert an amount to the same amount. -/
def ConvertAlike (amount : Number) (source target : Text) (tables : List Rates) : Prop :=
  tables.Pairwise fun first second =>
    first.convert amount source target = second.convert amount source target

namespace Cached

variable {appId : Option Text} {source target : Text}

/-- **A read finds one table.** -/
theorem getRates_traces :
    (getRates appId).Traces FxCall.Answered fun trace r =>
      ∃ rates, r = .ok rates ∧ trace.filterMap (served appId) = [rates] := by
  refine Traces.bind (Traces.perform fun r hlook => ?_)
  cases r with
  | error e => cases hlook
  | ok looked =>
    obtain ⟨now, cache⟩ := looked
    dsimp only
    cases hhand : ratesAtHand appId now cache with
    -- fresh rates, or the fallback without an app id
    | some rates =>
      have hlooked : served appId ⟨.look, .ok (now, cache)⟩ = some rates := hhand
      exact Traces.pure ⟨rates, rfl, List.filterMap_cons_some hlooked⟩
    | none =>
      have hlooked : served appId ⟨.look, .ok (now, cache)⟩ = none := hhand
      refine Traces.tryCatch (Traces.bind (Traces.perform fun r _ => ?_))
      cases r with
      -- the API has failed: what is cached by now is taken, however old
      | error e =>
        refine Traces.bind (Traces.perform fun r hread => ?_)
        cases r with
        | error e => cases hread
        | ok cache' =>
          exact Traces.pure ⟨ratesOnError cache', rfl, List.filterMap_cons_none hlooked⟩
      -- the API has answered: the rates are cached under the time of the call, and taken
      | ok body =>
        refine Traces.bind (Traces.perform fun r hstore => ?_)
        cases r with
        | error e => cases hstore
        | ok _ => exact Traces.pure ⟨answeredRates body, rfl, List.filterMap_cons_none hlooked⟩

theorem getRate_traces (h : source ≠ target) :
    (getRate appId source target).Traces FxCall.Answered fun trace r =>
      ∃ rates : Rates, r = .ok (rates.getRate source target) ∧
        trace.filterMap (served appId) = [rates] := by
  rw [getRate, if_neg h]
  refine Traces.bind (getRates_traces.mono ?_)
  rintro trace _ ⟨rates, rfl, hserved⟩
  exact Traces.pure ⟨rates, by rw [Rates.getRate, if_neg h], by simpa using hserved⟩

theorem convert_traces (h : source ≠ target) (amount : Number) :
    (convert appId amount source target).Traces FxCall.Answered fun trace r =>
      ∃ rates : Rates, r = .ok (rates.convert amount source target) ∧
        trace.filterMap (served appId) = [rates] := by
  refine Traces.bind ((getRate_traces h).mono ?_)
  rintro trace _ ⟨rates, rfl, hserved⟩
  exact Traces.pure ⟨rates, rfl, by simpa using hserved⟩

/-- **A payment in another currency** is converted as the tables of its two reads say. -/
theorem normalizeCurrency_traces {runtime : Runtime} {c : CanonicalPacs008}
    (h : runtime.toUpperCase c.amount.currency ≠ railLocalCurrency c.origin.rail) :
    (normalizeCurrency runtime appId c).Traces FxCall.Answered fun trace r =>
      ∃ first second, trace.filterMap (served appId) = [first, second] ∧
        r = .ok (Normalization.normalizeCurrency runtime (.ofTables first second) c) := by
  rw [normalizeCurrency]
  simp only [if_neg h]
  -- neither read throws, so that the handler is not reached
  refine Traces.tryCatch (Traces.bind ((getRate_traces h).mono ?_))
  rintro trace _ ⟨first, rfl, hfirst⟩
  refine Traces.bind ((convert_traces h c.amount.value).mono ?_)
  rintro more _ ⟨second, rfl, hsecond⟩
  refine Traces.pure ⟨first, second, by simp [hfirst, hsecond], ?_⟩
  rw [Normalization.normalizeCurrency, if_neg h]
  rfl

end Cached

/-! ### Payments over one cache -/

section

variable {ι : Type} [DecidableEq ι] {runtime : Runtime} {appId : Option Text}
  {payments : ι → CanonicalPacs008} {cache : Option ExchangeRates}
  {environment : Option ExchangeRates → Option ExchangeRates → Prop}
  {path : List (Transition (Config (Option ExchangeRates) ι (FxProgram CanonicalPacs008))
    (Option (ι × FxOutcome)))}
  {d : Config (Option ExchangeRates) ι (FxProgram CanonicalPacs008)} {i : ι}
  {r : Except Failure CanonicalPacs008}

/-- The payments before any of them is normalized. -/
def conversions (runtime : Runtime) (appId : Option Text) (payments : ι → CanonicalPacs008)
    (cache : Option ExchangeRates) : Config (Option ExchangeRates) ι (FxProgram CanonicalPacs008) :=
  ⟨cache, fun i => Cached.normalizeCurrency runtime appId (payments i)⟩

/-- **A payment that has been normalized** was answered from the tables that its reads found. -/
theorem done_of_run
    (h : (processes (fun _ => cacheCalls) environment).toLTS.Run
      (conversions runtime appId payments cache) path d) (hdone : d.locals i = .done r)
    (hforeign : runtime.toUpperCase (payments i).amount.currency ≠
      railLocalCurrency (payments i).origin.rail) :
    ∃ first second, (outcomesOf i path).filterMap (served appId) = [first, second] ∧
      r = .ok (normalizeCurrency runtime (.ofTables first second) (payments i)) := by
  have heval := eval_outcomesOf (P := FxCall.Answered) (fun c s r t hI =>
    answered_of_cacheCalls c s r t hI) h hdone
  obtain ⟨trace, htrace, hresult⟩ := (Cached.normalizeCurrency_traces hforeign).eval heval
  rw [List.nil_append] at htrace
  rwa [htrace]

/-- **The stored rate explains the stored amount** exactly if the tables that the two reads of the
payment found convert it alike. -/
theorem explained_iff
    (h : (processes (fun _ => cacheCalls) environment).toLTS.Run
      (conversions runtime appId payments cache) path d) (hdone : d.locals i = .done r)
    (hforeign : runtime.toUpperCase (payments i).amount.currency ≠
      railLocalCurrency (payments i).origin.rail) :
    ∃ c' fx, r = .ok c' ∧ c'.fx = some fx ∧
      (Explained (payments i).amount.value fx ↔
        ConvertAlike (payments i).amount.value (runtime.toUpperCase (payments i).amount.currency)
          (railLocalCurrency (payments i).origin.rail)
          ((outcomesOf i path).filterMap (served appId))) := by
  obtain ⟨first, second, hserved, rfl⟩ := done_of_run h hdone hforeign
  refine ⟨_, _, rfl, normalizeCurrency_ofTables _ _ _ _ hforeign, ?_⟩
  -- the rate is of the first table, and the amount of the second
  rw [hserved, ConvertAlike, List.pairwise_pair]
  constructor
  · intro hexplained
    exact (Option.some.inj (hexplained _ rfl)).symm
  · rintro halike _ ⟨⟩
    exact congrArg some halike.symm

end

namespace Example

/-- The rates of five minutes ago. -/
def oldRates : ExchangeRates := ⟨0, fallbackRates⟩

/-- The real is worth less now. -/
def newRates : SupportedCurrency → Option Number
  | .brl => some (.fin 6)
  | _ => none

/-- The old rates are fresh as long as only the first payment has looked at them. -/
def clock (second : Bool) (cache : Option ExchangeRates) : ℤ :=
  if second = false ∧ cache.map (·.fetchedAt) = some 0 then 299999 else 300000

def answer (second : Bool) : (c : FxCall) → Option ExchangeRates →
    Option (Except Failure c.Result × Option ExchangeRates)
  | .look, cache => some (.ok (clock second cache, cache), cache)
  | .fetch, cache => some (.ok newRates, cache)
  | .read, cache => some (.ok cache, cache)
  | .store entry, _ => some (.ok (), some entry)

theorem cacheCalls_answer {second : Bool} {c : FxCall} {s t : Option ExchangeRates}
    {r : Except Failure c.Result} (h : answer second c s = some (r, t)) : cacheCalls c s r t := by
  cases c <;> cases h
  · exact ⟨⟨_, rfl⟩, rfl⟩
  · exact rfl
  · exact ⟨rfl, rfl⟩
  · exact ⟨rfl, rfl⟩

/-- The first payment gets its rate, the second one refreshes the cache, and the first gets its
amount. -/
def refreshed :
    List (Transition (Config (Option ExchangeRates) Bool (FxProgram CanonicalPacs008))
      (Option (Bool × FxOutcome))) ×
      Config (Option ExchangeRates) Bool (FxProgram CanonicalPacs008) :=
  schedule answer [false, true, true, true, false]
    (conversions host (some (js "app")) (fun _ => foreign 100 "USD") (some oldRates))

theorem refreshed_run :
    (processes (fun _ => cacheCalls) fun _ _ => False).toLTS.Run
      (conversions host (some (js "app")) (fun _ => foreign 100 "USD") (some oldRates))
      refreshed.1 refreshed.2 :=
  run_schedule (f := answer) (fun _ _ _ _ _ h => cacheCalls_answer h) _ _

theorem dollars_foreign : host.toUpperCase (foreign 100 "USD").amount.currency ≠
    railLocalCurrency (foreign 100 "USD").origin.rail := by decide +kernel

theorem refreshed_done : ∃ r, refreshed.2.locals false = .done r := ⟨_, rfl⟩

theorem served_refreshed : (outcomesOf false refreshed.1).filterMap (served (some (js "app"))) =
    [fallbackRates, answeredRates newRates] := rfl

end Example

/-- A hundred dollars at 5.02 reals come to 600. -/
theorem not_explained_refreshed :
    ∃ c' fx,
      (processes (fun _ => cacheCalls) fun _ _ => False).toLTS.Run
        (conversions Example.host (some (js "app")) (fun _ => Example.foreign 100 "USD")
          (some Example.oldRates)) Example.refreshed.1 Example.refreshed.2 ∧
      Example.refreshed.2.locals false = .done (.ok c') ∧ c'.fx = some fx ∧
      ¬ Explained (Example.foreign 100 "USD").amount.value fx := by
  obtain ⟨r, hdone⟩ := Example.refreshed_done
  obtain ⟨first, second, hserved, rfl⟩ := done_of_run Example.refreshed_run hdone
    Example.dollars_foreign
  rw [Example.served_refreshed] at hserved
  obtain ⟨rfl, rfl⟩ : fallbackRates = first ∧ answeredRates Example.newRates = second := by
    simpa using hserved
  refine ⟨_, _, Example.refreshed_run, hdone, normalizeCurrency_ofTables _ _ _ _
    Example.dollars_foreign, fun h => ?_⟩
  exact absurd (h _ rfl) (by decide +kernel)

/-- The same payments, and the condition on which the first one would have been explained. -/
theorem explained_iff_refreshed :
    ∃ c' fx, Example.refreshed.2.locals false = .done (.ok c') ∧ c'.fx = some fx ∧
      (Explained (Example.foreign 100 "USD").amount.value fx ↔
        ConvertAlike (Example.foreign 100 "USD").amount.value
          (Example.host.toUpperCase (Example.foreign 100 "USD").amount.currency)
          (railLocalCurrency (Example.foreign 100 "USD").origin.rail)
          ((outcomesOf false Example.refreshed.1).filterMap (served (some (js "app"))))) := by
  obtain ⟨r, hdone⟩ := Example.refreshed_done
  obtain ⟨c', fx, rfl, hfx, hiff⟩ := explained_iff Example.refreshed_run hdone
    Example.dollars_foreign
  exact ⟨c', fx, hdone, hfx, hiff⟩

end MipitCore.Normalization
