import MipitCore.Js.Instants
import MipitCore.Normalization.Normalizer
import MipitCore.Translation.Receiver

/-!
# Normalizing twice

A normalized message is left as it is: its dates are written as `toISOString` writes them,
or are no dates, its currency is in upper case, no identifier and no text is missing, and
the exchange service, if it answers as before, finds the conversion that is there. Dates
may lose what they had below a millisecond.

## Main definitions

* `Runtime.IsHost` — what is relied on of the host
* `NormalizedFrom` — what normalization changes, and when

## Main results

* `normalizeDates_eq_self`, `normalizeCurrency_eq_self`, `normalizeIds_eq_self`,
  `applyFallbacks_eq_self` — the stages on messages that they leave alone
* `normalize_normalize`, `normalizedFrom_normalize`
* `normalize_settles`
-/

namespace MipitCore.Normalization

open Js
open CodeUnit (ascii)

/-- Text in upper case stays as it is. A timestamp in milliseconds is read as it says; how others are
read is left to the host. What is written has seconds and three digits of a fraction. -/
structure Runtime.IsHost (runtime : Runtime) : Prop where
  toUpperCase_toUpperCase : ∀ s, runtime.toUpperCase (runtime.toUpperCase s) = runtime.toUpperCase s
  toISOString : ∀ d : Datetime, d.InMillis → runtime.toISOString d = some d.toISOString
  written : ∀ d d', runtime.toISOString d = some d' → d'.toISOString = d'

/-- The host when other identifiers come next. -/
def Runtime.later (runtime : Runtime) (msgUlid e2eUlid : Ulid) : Runtime :=
  { runtime with msgUlid, e2eUlid }

/-- Normalization changes eight fields at most. Dates in milliseconds denote the same instant; an
identifier or a text changes if it was empty, the conversion if there is one to another currency and
the exchange service answers. -/
structure NormalizedFrom (runtime : Runtime) (fx : FxService) (c c' : CanonicalPacs008) : Prop where
  frame : c' =
    { c with
      createdAt := c'.createdAt
      grpHdr := { c.grpHdr with creDtTm := c'.grpHdr.creDtTm, msgId := c'.grpHdr.msgId }
      pmtId := { c.pmtId with endToEndId := c'.pmtId.endToEndId }
      amount := { c.amount with currency := c'.amount.currency }
      fx := c'.fx
      purpose := c'.purpose
      reference := c'.reference }
  createdAt : c.createdAt.InMillis → c'.createdAt.instant = c.createdAt.instant
  creDtTm : c.grpHdr.creDtTm.InMillis → c'.grpHdr.creDtTm.instant = c.grpHdr.creDtTm.instant
  msgId : c'.grpHdr.msgId ≠ c.grpHdr.msgId → c.grpHdr.msgId = []
  endToEndId : c'.pmtId.endToEndId ≠ c.pmtId.endToEndId → c.pmtId.endToEndId = []
  purpose : c'.purpose ≠ c.purpose → c.purpose = []
  reference : c'.reference ≠ c.reference → c.reference = []
  fx : c'.fx ≠ c.fx →
    runtime.toUpperCase c.amount.currency ≠ railLocalCurrency c.origin.rail ∧
      (fx.getRate (runtime.toUpperCase c.amount.currency)
        (railLocalCurrency c.origin.rail)).isSome = true ∧
      (fx.convert c.amount.value (runtime.toUpperCase c.amount.currency)
        (railLocalCurrency c.origin.rail)).isSome = true

/-! ### Stages that change nothing -/

section

variable {runtime : Runtime} {fx : FxService} {c : CanonicalPacs008}

/-- What `safeToISO` has written it writes again, and what it has left it leaves. -/
theorem toISOString_getD (h : runtime.IsHost) (d : Datetime) :
    (runtime.toISOString ((runtime.toISOString d).getD d)).getD ((runtime.toISOString d).getD d) =
      (runtime.toISOString d).getD d := by
  cases hd : runtime.toISOString d with
  | none => rw [Option.getD_none, hd, Option.getD_none]
  | some d' =>
    have hwritten := h.written d d' hd
    have hmillis : d'.InMillis := by
      rw [← hwritten]
      exact d'.inMillis_toISOString
    rw [Option.getD_some, h.toISOString d' hmillis, hwritten, Option.getD_some]

theorem normalizeDates_eq_self
    (hcreated : (runtime.toISOString c.createdAt).getD c.createdAt = c.createdAt)
    (hgroup : (runtime.toISOString c.grpHdr.creDtTm).getD c.grpHdr.creDtTm = c.grpHdr.creDtTm) :
    normalizeDates runtime c = c := by
  simp only [normalizeDates, hcreated, hgroup]

theorem normalizeCurrency_eq_self (hupper : runtime.toUpperCase c.amount.currency = c.amount.currency)
    (hfx : c.amount.currency ≠ railLocalCurrency c.origin.rail →
      ∀ converted, convertedFx fx c.amount.value c.amount.currency
        (railLocalCurrency c.origin.rail) = some converted → c.fx = some converted) :
    normalizeCurrency runtime fx c = c := by
  simp only [normalizeCurrency, hupper]
  split_ifs with hlocal
  · rfl
  · cases hconverted : convertedFx fx c.amount.value c.amount.currency
      (railLocalCurrency c.origin.rail) with
    | none => rfl
    | some converted => simp only [← hfx hlocal converted hconverted]

@[simp] theorem orElse_eq_self {v w : Text} (h : v ≠ []) : orElse v w = v := if_neg h

theorem orElse_ne_nil {v w : Text} (h : w ≠ []) : orElse v w ≠ [] := by
  unfold orElse
  split_ifs with hv
  · exact h
  · exact hv

theorem eq_nil_of_orElse_ne {v w : Text} (h : orElse v w ≠ v) : v = [] := by
  by_contra hv
  exact h (orElse_eq_self hv)

theorem normalizeIds_eq_self (hmsgId : c.grpHdr.msgId ≠ []) (hendToEndId : c.pmtId.endToEndId ≠ []) :
    normalizeIds runtime c = c := by
  simp only [normalizeIds, orElse_eq_self hmsgId, orElse_eq_self hendToEndId]

theorem applyFallbacks_eq_self (hpurpose : c.purpose ≠ []) (hreference : c.reference ≠ []) :
    applyFallbacks c = c := by
  simp only [applyFallbacks, orElse_eq_self hpurpose, orElse_eq_self hreference]

/-! ### A normalized message -/

variable (c) (fx)

theorem createdAt_normalize : (normalize runtime fx c).createdAt =
    (runtime.toISOString c.createdAt).getD c.createdAt := by
  rw [normalize_eq]
  rfl

theorem creDtTm_normalize : (normalize runtime fx c).grpHdr.creDtTm =
    (runtime.toISOString c.grpHdr.creDtTm).getD c.grpHdr.creDtTm := by
  rw [normalize_eq]
  rfl

/-- **Normalizing once more changes nothing**, whichever identifiers come next. -/
theorem normalize_normalize (h : runtime.IsHost) (msgUlid e2eUlid : Ulid) :
    normalize (runtime.later msgUlid e2eUlid) fx (normalize runtime fx c) =
      normalize runtime fx c := by
  set r := normalize runtime fx c with hr
  -- a generated identifier is never empty, so that it is not replaced by the next one
  have hgenerated : ∀ (p : String) (u : Ulid), js p ++ u.1 ≠ [] := fun p u heq => by
    have hlength := congrArg List.length heq
    rw [List.length_append, u.2.1] at hlength
    simp at hlength
  -- each stage leaves the result as it is
  have hdates : normalizeDates (runtime.later msgUlid e2eUlid) r = r := by
    refine normalizeDates_eq_self ?_ ?_
    · rw [hr, createdAt_normalize]
      exact toISOString_getD h c.createdAt
    · rw [hr, creDtTm_normalize]
      exact toISOString_getD h c.grpHdr.creDtTm
  have hcurrency : r.amount.currency = runtime.toUpperCase c.amount.currency := by
    rw [hr, normalize_eq]
  have hconversion : normalizeCurrency (runtime.later msgUlid e2eUlid) fx r = r := by
    refine normalizeCurrency_eq_self ?_ fun hforeign converted hconverted => ?_
    · rw [hcurrency]
      exact h.toUpperCase_toUpperCase _
    · -- the same call was answered the first time
      rw [hcurrency] at hforeign hconverted
      have hvalue : r.amount.value = c.amount.value := by rw [hr, normalize_eq]
      have hrail : r.origin.rail = c.origin.rail := by rw [hr, normalize_eq]
      have hfirst : r.fx = (normalizeCurrency runtime fx c).fx := by rw [hr, normalize_eq]
      rw [hvalue, hrail] at hconverted
      rw [hrail] at hforeign
      rw [hfirst, normalizeCurrency_converts runtime fx c hforeign, hconverted, Option.elim_some]
  have hids : normalizeIds (runtime.later msgUlid e2eUlid) r = r := by
    refine normalizeIds_eq_self ?_ ?_
    · rw [hr, normalize_eq]
      exact orElse_ne_nil (hgenerated _ _)
    · rw [hr, normalize_eq]
      exact orElse_ne_nil (hgenerated _ _)
  have hfallbacks : applyFallbacks r = r := by
    refine applyFallbacks_eq_self ?_ ?_
    · rw [hr, normalize_eq]
      exact orElse_ne_nil (by decide)
    · rw [hr, normalize_eq]
      exact orElse_ne_nil (by decide)
  rw [normalize, hdates, hconversion, hids, hfallbacks]

/-- **What normalization changes**, and when. -/
theorem normalizedFrom_normalize (h : runtime.IsHost) :
    NormalizedFrom runtime fx c (normalize runtime fx c) where
  frame := by
    rw [normalize_eq]
    rfl
  createdAt := fun hmillis => by
    rw [createdAt_normalize, h.toISOString _ hmillis, Option.getD_some,
      hmillis.instant_toISOString]
  creDtTm := fun hmillis => by
    rw [creDtTm_normalize, h.toISOString _ hmillis, Option.getD_some, hmillis.instant_toISOString]
  msgId := fun hne => eq_nil_of_orElse_ne (by rwa [normalize_eq] at hne)
  endToEndId := fun hne => eq_nil_of_orElse_ne (by rwa [normalize_eq] at hne)
  purpose := fun hne => eq_nil_of_orElse_ne (by rwa [normalize_eq] at hne)
  reference := fun hne => eq_nil_of_orElse_ne (by rwa [normalize_eq] at hne)
  fx := fun hne => by
    have hfx : (normalize runtime fx c).fx = (normalizeCurrency runtime fx c).fx := by
      rw [normalize_eq]
    rw [hfx] at hne
    by_cases hlocal : runtime.toUpperCase c.amount.currency = railLocalCurrency c.origin.rail
    · exact absurd (normalizeCurrency_local runtime fx c hlocal) hne
    · rw [normalizeCurrency_converts runtime fx c hlocal] at hne
      cases hconverted : convertedFx fx c.amount.value (runtime.toUpperCase c.amount.currency)
        (railLocalCurrency c.origin.rail) with
      | none => exact absurd (by rw [hconverted, Option.elim_none]) hne
      | some converted =>
        -- a conversion needs an answer to both calls
        obtain ⟨rate, hrate, hrest⟩ := Option.bind_eq_some_iff.mp hconverted
        obtain ⟨localAmount, hamount, -⟩ := Option.bind_eq_some_iff.mp hrest
        exact ⟨hlocal, by rw [hrate]; rfl, by rw [hamount]; rfl⟩

/-- **Normalization settles a message at once**, and touches only its own fields. -/
theorem normalize_settles (h : runtime.IsHost) :
    (∀ msgUlid e2eUlid, normalize (runtime.later msgUlid e2eUlid) fx (normalize runtime fx c) =
        normalize runtime fx c) ∧
      NormalizedFrom runtime fx c (normalize runtime fx c) :=
  ⟨normalize_normalize fx c h, normalizedFrom_normalize fx c h⟩

end

namespace Example

/-- A host that knows the letters of ASCII. -/
def host : Runtime where
  toCaseMapping := .ascii
  toISOString d := some d.toISOString
  msgUlid := Pipeline.Example.ulid
  e2eUlid := Pipeline.Example.ulid

/-- What was a small letter is none any more. -/
theorem isLower_upper (c : CodeUnit) :
    CodeUnit.isLower (if CodeUnit.isLower c then c - 32 else c) = false := by
  split_ifs with h
  · simp only [CodeUnit.isLower, Bool.and_eq_true, decide_eq_true_eq, Bool.and_eq_false_iff,
      decide_eq_false_iff_not] at h ⊢
    have hle : (32 : CodeUnit) ≤ c := by
      rw [UInt16.le_iff_toNat_le]
      exact le_trans (by decide) h.1
    rw [UInt16.toNat_sub_of_le _ _ hle]
    have htwo : (32 : CodeUnit).toNat = 32 := rfl
    omega
  · simpa using h

theorem isHost_host : host.IsHost where
  toUpperCase_toUpperCase s := by
    simp only [host, CaseMapping.ascii, List.map_map]
    refine List.map_congr_left fun c _ => ?_
    simp only [Function.comp_apply, isLower_upper, Bool.false_eq_true, if_false]
  toISOString _ _ := rfl
  written d d' h := by
    cases h
    exact d.toISOString_toISOString

end Example

/-- A payment in reals from PIX is settled by its first normalization. -/
theorem normalize_settles_inReais :
    (∀ msgUlid e2eUlid,
        normalize (Example.host.later msgUlid e2eUlid) Translation.Example.fx
            (normalize Example.host Translation.Example.fx Translation.Example.inReais) =
          normalize Example.host Translation.Example.fx Translation.Example.inReais) ∧
      NormalizedFrom Example.host Translation.Example.fx Translation.Example.inReais
        (normalize Example.host Translation.Example.fx Translation.Example.inReais) :=
  normalize_settles Translation.Example.fx Translation.Example.inReais Example.isHost_host

namespace Example

open Translation.Example (inReais schemaValid_inReais)

/-- A payment made half a millisecond after a whole one. -/
def precise : CanonicalPacs008 :=
  { inReais with createdAt := ⟨js "2026-03-13T10:30:00.0005Z", by decide⟩ }

theorem schemaValid_precise : precise.SchemaValid :=
  schemaValid_iff.mpr { schemaValid_iff.mp schemaValid_inReais with }

end Example

/-- A date loses what it has below a millisecond, so it does not denote the same instant. -/
theorem createdAt_precise :
    Example.host.IsHost ∧ Example.precise.SchemaValid ∧
      (normalize Example.host Translation.Example.fx Example.precise).createdAt.instant ≠
        Example.precise.createdAt.instant := by
  refine ⟨Example.isHost_host, Example.schemaValid_precise, ?_⟩
  rw [createdAt_normalize]
  decide +kernel

end MipitCore.Normalization
