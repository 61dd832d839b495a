import MipitCore.Js.Coercion
import MipitCore.Js.Double
import MipitCore.Normalization.FxCache

/-!
# Exchange rates from any body

The API's answer is taken as it comes: what its body has under a currency, whatever it is, stands
for the fallback, and is kept in the cache. A rate is the quotient of two entries of a table, where
a currency without an entry counts one, and division makes a number of any value that it can.

So nothing is refused for being no rate. A currency that the table does not know is converted as the
dollar is, a rate of zero yields zero or infinity, and only an object that cannot be made a number
throws. The rate is real exactly if both currencies have an entry that is a positive number, and the
quotient of these is neither too small nor too large for a double; a body and a cache of such entries
give nothing but quotients of them for the supported currencies.

## Main definitions

* `RateTable`, `bodyEntries`, `answeredTable` — entries of any kind, and what a body makes of them
* `Found`, `Found.getRates`, `Found.getRate` — a call, and what it finds
* `HasRate`, `IsReal`, `RealOrRefused`
* `Found.Honest` — all entries are positive numbers

## Main results

* `positive_getRates` — what is honest is served honestly
* `getRate_realOrRefused_iff`
* `getRates_ofRates` — with numbers only, this is the exchange service as payments see it
-/

namespace MipitCore.Normalization

open Js
open scoped Double

/-! ### Tables of any values -/

/-- The property under which a currency is found. -/
def SupportedCurrency.key : SupportedCurrency → String
  | usd => "USD"
  | brl => "BRL"
  | mxn => "MXN"
  | cop => "COP"
  | eur => "EUR"

/-- The supported currency of a code. -/
def SupportedCurrency.ofCode (currency : Text) : Option SupportedCurrency :=
  all.find? fun c => c.code = currency

/-- A table of rates, with what the API says they are. -/
abbrev RateTable := SupportedCurrency → JsValue

/-- A table of numbers. -/
def RateTable.ofRates (rates : Rates) : RateTable := fun c => .number (rates c)

/-- What was fetched, and when. -/
structure FetchedRates where
  fetchedAt : ℤ
  rates : RateTable

/-- `body.rates[currency]` for the supported currencies, if these can be read. -/
def bodyEntries (body : JsValue) : Option RateTable :=
  match body.get "rates" with
  | none | some .undefined | some .null => none
  | some rates => some fun c => rates.getOptional c.key

/-- What the answer of the API has, unless the request has failed, or reading its body throws. -/
def answerEntries : Except Failure JsValue → Option RateTable
  | .ok body => bodyEntries body
  | .error _ => none

/-- The entries that are there over the fallback. -/
def answeredTable (entries : RateTable) : RateTable := fun c =>
  match entries c with
  | .undefined => .number (fallbackRates c)
  | value => value

/-- What a call finds: the configuration, the clock and the cache, what the API answers if it is
asked, and the cache when that has failed. -/
structure Found where
  appId : Option Text
  now : ℤ
  cache : Option FetchedRates
  answer : Except Failure JsValue
  later : Option FetchedRates

/-- `getRates()`: the table, and the cache after the call. -/
def Found.getRates (found : Found) : RateTable × Option FetchedRates :=
  match found.cache.filter fun fetched => found.now - fetched.fetchedAt < cacheTtlMs with
  | some fetched => (fetched.rates, found.cache)
  | none =>
    if (found.appId.filter (· ≠ [])).isSome then
      match answerEntries found.answer with
      | some entries => (answeredTable entries, some ⟨found.now, answeredTable entries⟩)
      | none => ((found.later.map (·.rates)).getD (.ofRates fallbackRates), found.later)
    else (.ofRates fallbackRates, found.cache)

/-- `rates[currency]`. What is found under an inherited name is not a number. -/
def RateTable.entry (table : RateTable) (currency : Text) : JsValue :=
  match SupportedCurrency.ofCode currency with
  | some c => table c
  | none => if isInherited currency then .number .nan else .undefined

/-- `rates[currency] ?? 1` as a number, if it can be made one. -/
def RateTable.factor (table : RateTable) (currency : Text) : Option Number :=
  ((table.entry currency).nullish (.number (.fin 1))).toNumber

/-- `tgtRate / srcRate` -/
def RateTable.quotient (table : RateTable) (source target : Text) : Except Failure Number :=
  match table.factor target, table.factor source with
  | some tgtRate, some srcRate => .ok (tgtRate.div srcRate)
  | _, _ => .error .typeError

/-- `getRate(source, target)` -/
def Found.getRate (found : Found) (source target : Text) : Except Failure Number :=
  if source = target then .ok (.fin 1) else found.getRates.1.quotient source target

/-! ### Real rates -/

/-- The currency has a rate: an entry that is a positive number. -/
def RateTable.HasRate (table : RateTable) (currency : Text) (rate : ℚ) : Prop :=
  ∃ c, SupportedCurrency.ofCode currency = some c ∧ table c = .number (.fin rate) ∧ 0 < rate

/-- A finite rate greater than zero that is the quotient of the rates of both currencies, as a
double. -/
def RateTable.IsReal (table : RateTable) (source target : Text) (rate : Number) : Prop :=
  ∃ q, rate = .fin q ∧ 0 < q ∧
    ∃ srcRate tgtRate, table.HasRate source srcRate ∧ table.HasRate target tgtRate ∧
      rate = toDouble (tgtRate / srcRate)

/-- The call throws, or its rate is real. -/
def RateTable.RealOrRefused (table : RateTable) (source target : Text)
    (outcome : Except Failure Number) : Prop :=
  (∃ err, outcome = .error err) ∨ ∃ rate, outcome = .ok rate ∧ table.IsReal source target rate

/-- All entries are positive numbers. -/
def RateTable.Positive (table : RateTable) : Prop :=
  ∀ c, ∃ rate : ℚ, 0 < rate ∧ table c = .number (.fin rate)

/-- The cache holds positive numbers only, and so does the body, as far as it has entries. -/
structure Found.Honest (found : Found) : Prop where
  cache : ∀ fetched ∈ found.cache, fetched.rates.Positive
  later : ∀ fetched ∈ found.later, fetched.rates.Positive
  answer : ∀ entries ∈ answerEntries found.answer,
    ∀ c, entries c = .undefined ∨ ∃ rate : ℚ, 0 < rate ∧ entries c = .number (.fin rate)

section

variable {table : RateTable} {found : Found} {source target currency : Text} {rate : ℚ}

theorem positive_fallback : (RateTable.ofRates fallbackRates).Positive := by
  have hround (q : ℚ) (hq : InRange q) (hpos : 0 < q) :
      ∃ rate : ℚ, 0 < rate ∧ JsValue.number (toDouble q) = .number (.fin rate) := by
    obtain ⟨d, hd, hdpos⟩ := (inRange_iff hpos).mp hq
    exact ⟨d, hdpos, congrArg JsValue.number hd⟩
  intro c
  cases c with
  | usd => exact ⟨1, by norm_num, rfl⟩
  | brl => exact hround 5.02 (by decide +kernel) (by norm_num)
  | mxn => exact hround 17.43 (by decide +kernel) (by norm_num)
  | cop => exact ⟨4180, by norm_num, rfl⟩
  | eur => exact hround 0.92 (by decide +kernel) (by norm_num)

theorem positive_answeredTable {entries : RateTable}
    (h : ∀ c, entries c = .undefined ∨ ∃ rate : ℚ, 0 < rate ∧ entries c = .number (.fin rate)) :
    (answeredTable entries).Positive := by
  intro c
  rcases h c with hnone | ⟨rate, hpos, hrate⟩
  · rw [answeredTable, hnone]
    exact positive_fallback c
  · rw [answeredTable, hrate]
    exact ⟨rate, hpos, rfl⟩

/-- **What is honest is served honestly.** -/
theorem positive_getRates (h : found.Honest) : found.getRates.1.Positive := by
  unfold Found.getRates
  -- the cache is fresh; or it is not, and what is fetched, found later or fixed is served
  split
  case h_1 fetched hfresh => exact h.cache fetched (Option.mem_filter_iff.mp hfresh).1
  case h_2 =>
    split_ifs
    · split
      case h_1 entries hentries => exact positive_answeredTable (h.answer entries hentries)
      case h_2 =>
        cases hlater : found.later with
        | none => exact positive_fallback
        | some fetched => exact h.later fetched hlater
    · exact positive_fallback

theorem factor_of_hasRate (h : table.HasRate currency rate) :
    table.factor currency = some (.fin rate) := by
  obtain ⟨c, hcode, hentry, -⟩ := h
  rw [RateTable.factor, RateTable.entry, hcode]
  simp only [hentry, JsValue.nullish, JsValue.toNumber]

/-- A quotient throws exactly if one of its sides cannot be made a number. -/
theorem quotient_eq_error_iff :
    (∃ err, table.quotient source target = .error err) ↔
      table.factor source = none ∨ table.factor target = none := by
  unfold RateTable.quotient
  cases table.factor target with
  | none => simp
  | some tgtRate =>
    cases table.factor source with
    | none => simp
    | some srcRate => simp

theorem quotient_of_hasRate {srcRate tgtRate : ℚ} (hsource : table.HasRate source srcRate)
    (htarget : table.HasRate target tgtRate) :
    table.quotient source target = .ok (toDouble (tgtRate / srcRate)) ∧ 0 < tgtRate / srcRate := by
  obtain ⟨-, -, -, hsrc⟩ := id hsource
  obtain ⟨-, -, -, htgt⟩ := id htarget
  rw [RateTable.quotient, factor_of_hasRate hsource, factor_of_hasRate htarget]
  exact ⟨by simp only [Number.div, if_neg hsrc.ne', Arithmetic.round], div_pos htgt hsrc⟩

/-- A currency has one rate. -/
theorem hasRate_unique {rate' : ℚ} (h : table.HasRate currency rate)
    (h' : table.HasRate currency rate') : rate = rate' :=
  Number.fin.inj (Option.some.inj ((factor_of_hasRate h).symm.trans (factor_of_hasRate h')))

/-- **A quotient is real or refused** exactly if a side cannot be made a number, or both currencies
have a rate and the quotient of these is in the range of doubles. -/
theorem quotient_realOrRefused_iff :
    table.RealOrRefused source target (table.quotient source target) ↔
      (table.factor source = none ∨ table.factor target = none) ∨
        ∃ srcRate tgtRate, table.HasRate source srcRate ∧ table.HasRate target tgtRate ∧
          InRange (tgtRate / srcRate) := by
  rw [RateTable.RealOrRefused, quotient_eq_error_iff]
  refine or_congr Iff.rfl ⟨?_, ?_⟩
  · -- a real rate names the two entries
    rintro ⟨rate, -, q, hq, hpos, srcRate, tgtRate, hsource, htarget, hrate⟩
    obtain ⟨-, hquotient⟩ := quotient_of_hasRate hsource htarget
    exact ⟨srcRate, tgtRate, hsource, htarget,
      (inRange_iff hquotient).mpr ⟨q, hrate.symm.trans hq, hpos⟩⟩
  · rintro ⟨srcRate, tgtRate, hsource, htarget, hrange⟩
    obtain ⟨hquotient, hpos⟩ := quotient_of_hasRate hsource htarget
    obtain ⟨q, hq, hqpos⟩ := (inRange_iff hpos).mp hrange
    exact ⟨_, hquotient, q, hq, hqpos, srcRate, tgtRate, hsource, htarget, rfl⟩

/-- **Rates are quotients of what the table has**, where a currency without an entry counts one;
they are real, or refused, exactly if an entry cannot be made a number, or both currencies have a
rate and their quotient is in the range of doubles; and from an honest cache and body, the supported
currencies have rates, and get real rates only, as far as the quotients are in that range. -/
theorem getRate_realOrRefused_iff (found : Found) (hne : source ≠ target) :
    found.getRate source target = found.getRates.1.quotient source target ∧
      (found.getRates.1.RealOrRefused source target (found.getRate source target) ↔
        (found.getRates.1.factor source = none ∨ found.getRates.1.factor target = none) ∨
          ∃ srcRate tgtRate, found.getRates.1.HasRate source srcRate ∧
            found.getRates.1.HasRate target tgtRate ∧ InRange (tgtRate / srcRate)) ∧
      (found.Honest → (SupportedCurrency.ofCode source).isSome →
        (SupportedCurrency.ofCode target).isSome →
          ∃ srcRate tgtRate, found.getRates.1.HasRate source srcRate ∧
            found.getRates.1.HasRate target tgtRate ∧
              (InRange (tgtRate / srcRate) → ∃ rate, found.getRate source target = .ok rate ∧
                found.getRates.1.IsReal source target rate)) := by
  have hrate : found.getRate source target = found.getRates.1.quotient source target :=
    if_neg hne
  refine ⟨hrate, hrate ▸ quotient_realOrRefused_iff, fun honest hsource htarget => ?_⟩
  obtain ⟨src, hsrc⟩ := Option.isSome_iff_exists.mp hsource
  obtain ⟨tgt, htgt⟩ := Option.isSome_iff_exists.mp htarget
  obtain ⟨srcRate, hsrcPos, hsrcRate⟩ := positive_getRates honest src
  obtain ⟨tgtRate, htgtPos, htgtRate⟩ := positive_getRates honest tgt
  have hhas : found.getRates.1.HasRate source srcRate := ⟨src, hsrc, hsrcRate, hsrcPos⟩
  have hhas' : found.getRates.1.HasRate target tgtRate := ⟨tgt, htgt, htgtRate, htgtPos⟩
  obtain ⟨hquotient, hpos⟩ := quotient_of_hasRate hhas hhas'
  refine ⟨srcRate, tgtRate, hhas, hhas', fun hrange => ?_⟩
  obtain ⟨q, hq, hqpos⟩ := (inRange_iff hpos).mp hrange
  exact ⟨_, hrate.trans hquotient, q, hq, hqpos, srcRate, tgtRate, hhas, hhas', rfl⟩

/-! ### Numbers only -/

/-- What was fetched, if it consists of numbers. -/
def ExchangeRates.toFetched (entry : ExchangeRates) : FetchedRates :=
  ⟨entry.fetchedAt, .ofRates entry.rates⟩

theorem answeredTable_ofNumbers (numbers : SupportedCurrency → Option Number) :
    answeredTable (fun c => JsValue.ofNumber? (numbers c)) =
      .ofRates (answeredRates numbers) := by
  funext c
  simp only [answeredTable, answeredRates, RateTable.ofRates]
  cases numbers c with
  | none => rfl
  | some n => rfl

/-- **With numbers only**, a call is served the table that a payment is, when the API answers. -/
theorem getRates_ofRates {appId : Option Text} {now : ℤ} {cache : Option ExchangeRates}
    {later : Option FetchedRates} {body : JsValue} {numbers : SupportedCurrency → Option Number}
    (hbody : bodyEntries body = some fun c => JsValue.ofNumber? (numbers c)) :
    (Found.getRates ⟨appId, now, cache.map ExchangeRates.toFetched, .ok body, later⟩).1 =
      .ofRates ((ratesAtHand appId now cache).getD (answeredRates numbers)) := by
  have hfresh : ((cache.map ExchangeRates.toFetched).filter fun fetched =>
      now - fetched.fetchedAt < cacheTtlMs) =
      (cache.filter fun entry => now - entry.fetchedAt < cacheTtlMs).map
        ExchangeRates.toFetched := by
    rw [Option.filter_map]
    rfl
  simp only [Found.getRates, ratesAtHand, hfresh]
  cases cache.filter fun entry => now - entry.fetchedAt < cacheTtlMs with
  | some entry => rfl
  | none =>
    by_cases happ : (appId.filter (· ≠ [])).isSome
    · simp only [Option.map_none, if_pos happ, answerEntries, hbody, answeredTable_ofNumbers,
        Option.getD_none]
    · simp only [Option.map_none, if_neg happ, Option.getD_some]

/-- And its rates are those that payments get, but under an inherited name. -/
theorem quotient_ofRates {rates : Rates} (hne : source ≠ target)
    (hsource : isInherited source = false) (htarget : isInherited target = false) :
    (RateTable.ofRates rates).quotient source target = .ok (rates.getRate source target) := by
  have hfactor {currency : Text} (h : isInherited currency = false) :
      (RateTable.ofRates rates).factor currency = some (rates.lookup currency) := by
    rw [RateTable.factor, RateTable.entry, Rates.lookup, SupportedCurrency.ofCode]
    cases SupportedCurrency.all.find? fun c => c.code = currency with
    | none => simp [h, JsValue.nullish, JsValue.toNumber]
    | some c => simp [RateTable.ofRates, JsValue.nullish, JsValue.toNumber]
  rw [RateTable.quotient, hfactor hsource, hfactor htarget, Rates.getRate, if_neg hne]

end

/-! ### A currency that is not there -/

namespace Example

/-- Nothing is in the cache, and the API answers with a rate of the real. -/
def fetching (brl : ℚ) : Found where
  appId := some (js "app")
  now := 0
  cache := none
  answer := .ok (.object [("rates", .object [("BRL", .number (.fin brl))])])
  later := none

theorem honest_fetching : (fetching 5).Honest where
  cache := by simp [fetching]
  later := by simp [fetching]
  answer := by
    rintro entries hentries c
    obtain rfl := Option.some.inj hentries
    cases c with
    | brl => exact Or.inr ⟨5, by norm_num, rfl⟩
    | usd | mxn | cop | eur => exact Or.inl rfl

end Example

theorem getRate_realOrRefused_iff_fetching :
    ∃ rate, (Example.fetching 5).getRate (js "USD") (js "BRL") = .ok rate ∧
      (Example.fetching 5).getRates.1.IsReal (js "USD") (js "BRL") rate := by
  have hne : js "USD" ≠ js "BRL" := by decide
  obtain ⟨srcRate, tgtRate, hsource, htarget, hreal⟩ :=
    (getRate_realOrRefused_iff (Example.fetching 5) hne).2.2 Example.honest_fetching
      (by decide) (by decide)
  obtain rfl := hasRate_unique hsource ⟨.usd, rfl, rfl, by norm_num⟩
  obtain rfl := hasRate_unique htarget ⟨.brl, rfl, rfl, by norm_num⟩
  exact hreal ((inRange_iff (by norm_num)).mpr ⟨5, by decide +kernel, by norm_num⟩)

/-- **The yen is converted as the dollar is**, and a rate of zero is a rate: neither is real, and
neither is refused. -/
theorem unsupported_at_par :
    ((Example.fetching 5).getRate (js "JPY") (js "BRL") = .ok (.fin 5) ∧
      ¬ (Example.fetching 5).getRates.1.RealOrRefused (js "JPY") (js "BRL")
        ((Example.fetching 5).getRate (js "JPY") (js "BRL"))) ∧
    (Example.fetching 0).getRate (js "USD") (js "BRL") = .ok (.fin 0) ∧
      ¬ (Example.fetching 0).getRates.1.RealOrRefused (js "USD") (js "BRL")
        ((Example.fetching 0).getRate (js "USD") (js "BRL")) := by
  have hyen : (Example.fetching 5).getRate (js "JPY") (js "BRL") = .ok (.fin 5) := by
    decide +kernel
  have hzero : (Example.fetching 0).getRate (js "USD") (js "BRL") = .ok (.fin 0) := by
    decide +kernel
  refine ⟨⟨hyen, ?_⟩, hzero, ?_⟩
  · rw [hyen]
    rintro (⟨err, herr⟩ | ⟨rate, -, q, -, -, srcRate, tgtRate, ⟨c, hcode, -⟩, -⟩)
    · cases herr
    · have hnone : SupportedCurrency.ofCode (js "JPY") = none := by decide
      rw [hnone] at hcode
      cases hcode
  · rw [hzero]
    rintro (⟨err, herr⟩ | ⟨rate, hrate, q, rfl, hpos, -⟩)
    · cases herr
    · cases hrate
      exact lt_irrefl _ hpos

end MipitCore.Normalization
