import MipitCore.Translation.BreBRoundTrip
import MipitCore.Translation.FedNow
import MipitCore.Translation.Iso20022Mx
import MipitCore.Translation.SwiftMt103

/-!
# The translator

The translator runs the decoder of the origin's rail and the encoder of the destination's.
A decoder reads a payload that nobody has checked, in a `try` that reports whatever is thrown
as a `TranslationError`. One branch is outside: the native messages of PIX. Three of its
readings can throw, and `PixReadable` says when they do not.

## Main definitions

* `Translator.toCanonical`, `Translator.fromCanonical`, `Translator.translate`
* `Answers` — a canonical message of a rail, or a `TranslationError`
* `IsNativePix`, `PixReadable`

## Main results

* `decoded_answers` — what a decoder with a `try` answers
* `Translator.toCanonical_answers` — the seven decoders, for payloads that are readable
* `Translator.toCanonical_unreadable` — native messages that are not
-/

namespace MipitCore.Translation

open Js

/-- The translator with its mapping loader, and what its translations draw from the host. -/
structure Translator where
  engine : Engine
  table : MappingTable
  decoding : Fresh
  /-- The draws of an encoder, by its rail. -/
  encoding : Rail → Fresh

namespace Translator

/-- `toCanonical(rail, payload, paymentId, traceId)`, for the rails of `SUPPORTED_RAILS` -/
def toCanonical [Arithmetic] (t : Translator) (rail : Rail) (payload : JsValue) (paymentId : Text)
    (traceId : Option Text) : Except Failure CanonicalPacs008 :=
  match rail with
  | .pix =>
    pixToCanonical t.engine t.decoding ((t.table .pix).map loadMappings) payload paymentId traceId
  | .spei =>
    speiToCanonical t.engine t.decoding ((t.table .spei).map loadMappings) payload paymentId traceId
  | .swiftMt103 => swiftMt103ToCanonical t.engine t.decoding payload paymentId traceId
  | .iso20022Mx => iso20022MxToCanonical t.engine t.decoding payload paymentId traceId
  | .achNacha => achNachaToCanonical t.decoding payload paymentId traceId
  | .fednow => fednowToCanonical t.decoding payload paymentId traceId
  | .breB => brebToCanonical t.engine t.decoding payload paymentId traceId

/-- `fromCanonical(destinationRail, canonical)`, for the same rails. No encoder throws. -/
def fromCanonical [Arithmetic] (t : Translator) (destinationRail : Rail) (c : CanonicalPacs008) :
    JsValue :=
  match destinationRail with
  | .pix => (canonicalToPix c).toValue
  | .spei => (canonicalToSpei c).toValue
  | .swiftMt103 => (canonicalToSwiftMt103 c).toValue
  | .iso20022Mx => (canonicalToIso20022Mx c).toValue
  | .achNacha => (canonicalToAchNacha (t.encoding .achNacha) c).toValue
  | .fednow => (canonicalToFednow (t.encoding .fednow) c).toValue
  | .breB => (canonicalToBreb t.engine (t.encoding .breB) c).toValue

/-- `translate(sourceRail, destinationRail, payload, paymentId, traceId)` -/
def translate [Arithmetic] (t : Translator) (sourceRail destinationRail : Rail)
    (payload : JsValue) (paymentId : Text) (traceId : Option Text) :
    Except Failure (CanonicalPacs008 × JsValue) := do
  let canonical ← t.toCanonical sourceRail payload paymentId traceId
  return (canonical, t.fromCanonical destinationRail canonical)

end Translator

/-- A passage whose other decoders are those of a translator translates as it does. -/
theorem toCanonical_eq_translator {passage : Passage} {t : Translator}
    (hengine : t.engine = passage.engine) (htable : t.table = passage.table)
    (hdecoding : t.decoding = passage.decoding)
    (hother : passage.otherDecoder = t.toCanonical) (rail : Rail) (payload : JsValue) :
    toCanonical passage rail payload =
      t.toCanonical rail payload (paymentIdOf passage.paymentUlid) passage.traceId := by
  cases rail <;> simp only [toCanonical, Translator.toCanonical, hother, hengine, htable, hdecoding]

/-! ### What a guarded decoder answers -/

/-- A decoder of a rail answers with a canonical message of this origin, or with a
`TranslationError`. -/
def Answers (rail : Rail) (outcome : Except Failure CanonicalPacs008) : Prop :=
  (∃ c, outcome = .ok c ∧ c.SchemaValid ∧ c.origin.rail = rail) ∨
    ∃ message, outcome = .error (.translation (js rail.name) message)

/-- An object that names `rail` as its origin. -/
def HasOrigin (rail : Rail) (raw : JsValue) : Prop :=
  ∃ fields rest, raw = .object fields ∧
    JsValue.field "origin" fields = .object (("rail", .string (js rail.name)) :: rest)

theorem HasOrigin.rail_eq {rail : Rail} {raw : JsValue} {c : CanonicalPacs008}
    (h : HasOrigin rail raw) (hschema : canonicalPacs008Schema raw = some c) :
    c.origin.rail = rail := by
  obtain ⟨fields, rest, rfl, horigin⟩ := h
  obtain ⟨fields', hfields, d⟩ := canonicalPacs008Schema_eq_some.mp hschema
  obtain rfl := JsValue.object.inj hfields
  have hagent := d.origin
  rw [Schema.field, horigin, agentSchema, Schema.object_object] at hagent
  obtain ⟨rail', hrail, hagent⟩ := Option.bind_eq_some_iff.mp hagent
  have hrail' : rail' = rail := by
    simpa [Schema.field, railNames_find, eq_comm] using hrail
  iterate 4 obtain ⟨_, -, hagent⟩ := Option.bind_eq_some_iff.mp hagent
  rw [← Option.some.inj hagent]
  exact hrail'

theorem validated_answers {rail : Rail} {message : String} {raw : JsValue}
    (h : HasOrigin rail raw) : Answers rail (validated rail message raw) := by
  rw [validated]
  cases hschema : canonicalPacs008Schema raw with
  | none => exact Or.inr ⟨message, rfl⟩
  | some c => exact Or.inl ⟨c, rfl, ⟨raw, hschema⟩, h.rail_eq hschema⟩

/-- **What a decoder with a `try` answers**: whatever throws while the object is made is
reported. -/
theorem decoded_answers {rail : Rail} {invalid unexpected : String} {raw : Option JsValue}
    (h : ∀ v, raw = some v → HasOrigin rail v) :
    Answers rail (decoded rail invalid unexpected raw) := by
  cases raw with
  | none => exact Or.inr ⟨unexpected, rfl⟩
  | some v => exact validated_answers (h v rfl)

section Decoders

variable {engine : Engine} {fresh : Fresh} {payload raw : JsValue} {paymentId : Text}
  {traceId : Option Text}

theorem origin_of_swiftObject (h : swiftObject engine fresh payload paymentId traceId = some raw) :
    HasOrigin .swiftMt103 raw := by
  iterate 19 obtain ⟨_, -, h⟩ := Option.bind_eq_some_iff.mp h
  obtain rfl := Option.some.inj h
  exact ⟨_, _, rfl, rfl⟩

theorem origin_of_isoObject (h : isoObject engine fresh payload paymentId traceId = some raw) :
    HasOrigin .iso20022Mx raw := by
  iterate 43 obtain ⟨_, -, h⟩ := Option.bind_eq_some_iff.mp h
  obtain rfl := Option.some.inj h
  exact ⟨_, _, rfl, rfl⟩

theorem origin_of_achNachaObject (h : achNachaObject fresh payload paymentId traceId = some raw) :
    HasOrigin .achNacha raw := by
  iterate 26 obtain ⟨_, -, h⟩ := Option.bind_eq_some_iff.mp h
  obtain rfl := Option.some.inj h
  exact ⟨_, _, rfl, rfl⟩

theorem origin_of_fednowObject (h : fednowObject fresh payload paymentId traceId = some raw) :
    HasOrigin .fednow raw := by
  iterate 28 obtain ⟨_, -, h⟩ := Option.bind_eq_some_iff.mp h
  obtain rfl := Option.some.inj h
  exact ⟨_, _, rfl, rfl⟩

theorem origin_of_brebNativeObject
    (h : brebNativeObject fresh payload paymentId traceId = some raw) : HasOrigin .breB raw := by
  iterate 17 obtain ⟨_, -, h⟩ := Option.bind_eq_some_iff.mp h
  obtain rfl := Option.some.inj h
  exact ⟨_, _, rfl, rfl⟩

theorem origin_of_brebRequestObject
    (h : brebRequestObject engine fresh payload paymentId traceId = some raw) :
    HasOrigin .breB raw := by
  iterate 13 obtain ⟨_, -, h⟩ := Option.bind_eq_some_iff.mp h
  obtain rfl := Option.some.inj h
  exact ⟨_, _, rfl, rfl⟩

theorem origin_of_pixNativeObject (h : pixNativeObject fresh payload paymentId traceId = some raw) :
    HasOrigin .pix raw := by
  iterate 10 obtain ⟨_, -, h⟩ := Option.bind_eq_some_iff.mp h
  obtain rfl := Option.some.inj h
  exact ⟨_, _, rfl, rfl⟩

theorem origin_of_requestDefaults {R : RequestRail}
    (h : requestDefaults R engine fresh payload paymentId traceId = some raw) :
    HasOrigin R.rail raw := by
  iterate 11 obtain ⟨_, -, h⟩ := Option.bind_eq_some_iff.mp h
  obtain rfl := Option.some.inj h
  exact ⟨_, _, rfl, rfl⟩

/-- A request's object has its origin where there are no mappings. -/
theorem origin_of_requestObject {R : RequestRail}
    (h : requestObject R engine fresh (some []) payload paymentId traceId = some raw) :
    HasOrigin R.rail raw := by
  simp only [requestObject, applyMappings, List.foldlM_nil, Option.bind_eq_bind, Option.bind_some,
    Option.pure_def, Option.bind_eq_some_iff] at h
  obtain ⟨defaults, hdefaults, h⟩ := h
  obtain ⟨fields, rest, rfl, horigin⟩ := origin_of_requestDefaults hdefaults
  rw [aliasFallback, JsValue.get_object, Option.bind_eq_bind, Option.bind_some] at h
  split at h
  · exact ⟨fields, rest, (Option.some.inj h).symm, horigin⟩
  · -- the fallback writes below `alias` only
    simp only [Option.bind_eq_bind, Option.bind_eq_some_iff] at h
    obtain ⟨_, -, _, -, _, -, h⟩ := h
    obtain ⟨fields', rfl, hfields⟩ := setNested_object h
    refine ⟨fields', rest, rfl, (hfields "origin" ?_).trans horigin⟩
    decide

theorem origin_of_brebObject (h : brebObject engine fresh payload paymentId traceId = some raw) :
    HasOrigin .breB raw := by
  obtain ⟨native, -, h⟩ := Option.bind_eq_some_iff.mp h
  split at h
  · exact origin_of_brebNativeObject h
  · exact origin_of_brebRequestObject h

theorem decodeRequest_answers (R : RequestRail) :
    Answers R.rail (decodeRequest R engine fresh (some []) payload paymentId traceId) :=
  decoded_answers fun _ => origin_of_requestObject

end Decoders

/-! ### Native messages of PIX -/

/-- A payload that `pixToCanonical` takes for a native message. -/
def IsNativePix (fields : List (String × JsValue)) : Prop :=
  isNativePixPayload (.object fields) = some true

/-- The properties of a native message that are converted or cut outside the `try` can be. -/
structure PixReadable (fields : List (String × JsValue)) : Prop where
  original : ((JsValue.field "valor" fields).getOptional "original").isNullish = true ∨
    ∃ s, ((JsValue.field "valor" fields).getOptional "original").toText = some s
  chave : (JsValue.field "chave" fields).truthy = true →
    ∃ s, (JsValue.field "chave" fields).toText = some s
  endToEndId : (JsValue.field "endToEndId" fields).isNullish = true ∨
    (∃ s, JsValue.field "endToEndId" fields = .string s) ∨
    ∃ items, JsValue.field "endToEndId" fields = .array items

section Pix

variable {fresh : Fresh} {fields : List (String × JsValue)} {paymentId : Text}
  {traceId : Option Text}

theorem parseFloat_nullish_isSome {v : JsValue} {s : Text} :
    (∃ n, (v.nullish (.string s)).parseFloat = some n) ↔
      v.isNullish = true ∨ ∃ text, v.toText = some text := by
  cases v <;> simp [JsValue.nullish, JsValue.isNullish, JsValue.parseFloat]

theorem slice_nullish_isSome {v : JsValue} {s : Text} {n : ℕ} :
    (∃ w, (v.nullish (.string s)).slice n = some w) ↔
      v.isNullish = true ∨ (∃ text, v = .string text) ∨ ∃ items, v = .array items := by
  cases v <;> simp [JsValue.nullish, JsValue.isNullish, JsValue.slice]

theorem pixCreditorAccount_isSome {v : JsValue} :
    (∃ account, pixCreditorAccount (v.nullish (.string [])) paymentId = some account) ↔
      (v.truthy = true → ∃ s, v.toText = some s) := by
  -- the empty key that stands for an absent one is not truthy either
  have hnullish : v.truthy = true → v.nullish (.string []) = v := by
    cases v <;> simp [JsValue.truthy, JsValue.nullish]
  have htruthy : (v.nullish (.string [])).truthy = v.truthy := by
    cases v <;> simp [JsValue.truthy, JsValue.nullish]
  unfold pixCreditorAccount
  by_cases h : v.truthy = true
  · rw [htruthy, if_pos h, hnullish h]
    simp [h]
  · rw [htruthy, if_neg h]
    simp [h]

/-- **A native message becomes an object exactly if it is readable.** -/
theorem pixNativeObject_isSome :
    (∃ raw, pixNativeObject fresh (.object fields) paymentId traceId = some raw) ↔
      PixReadable fields := by
  constructor
  · rintro ⟨raw, h⟩
    simp only [pixNativeObject, JsValue.get_object, Option.bind_eq_bind, Option.bind_some,
      Option.bind_eq_some_iff] at h
    obtain ⟨amount, hamount, account, haccount, e2eId, he2eId, -⟩ := h
    exact ⟨parseFloat_nullish_isSome.mp ⟨amount, hamount⟩,
      pixCreditorAccount_isSome.mp ⟨account, haccount⟩, slice_nullish_isSome.mp ⟨e2eId, he2eId⟩⟩
  · intro h
    obtain ⟨amount, hamount⟩ := (parseFloat_nullish_isSome (s := js "0")).mpr h.original
    obtain ⟨account, haccount⟩ := (@pixCreditorAccount_isSome paymentId _).mpr h.chave
    obtain ⟨e2eId, he2eId⟩ :=
      (slice_nullish_isSome (s := js "E2E-" ++ fresh.e2eUlid.1) (n := 35)).mpr h.endToEndId
    simp only [pixNativeObject, JsValue.get_object, Option.bind_eq_bind, Option.bind_some,
      hamount, haccount, he2eId]
    exact ⟨_, rfl⟩

end Pix

/-! ### The seven decoders -/

namespace Translator

variable {t : Translator} {rail : Rail} {fields : List (String × JsValue)}

/-- **What the translator answers** to an object: a native message of PIX has to be readable, and
nothing else has to be anything. -/
theorem toCanonical_answers (hrows : ∀ rail, t.table rail = some [])
    (h : rail = .pix → IsNativePix fields → PixReadable fields) (paymentId : Text)
    (traceId : Option Text) : Answers rail (t.toCanonical rail (.object fields) paymentId traceId) := by
  have hmappings : ∀ rail, (t.table rail).map loadMappings = some [] := fun rail => by
    rw [hrows rail]
    rfl
  cases rail with
  | pix =>
    rw [toCanonical, hmappings, pixToCanonical]
    cases hnative : isNativePixPayload (.object fields) with
    | none => cases hnative
    | some native =>
      cases native with
      | false => exact decodeRequest_answers pixRequest
      | true =>
        obtain ⟨raw, hraw⟩ := pixNativeObject_isSome.mpr (h rfl hnative)
        rw [hraw]
        exact validated_answers (origin_of_pixNativeObject hraw)
  | spei =>
    rw [toCanonical, hmappings, speiToCanonical]
    exact decodeRequest_answers speiRequest
  | swiftMt103 => exact decoded_answers fun _ => origin_of_swiftObject
  | iso20022Mx => exact decoded_answers fun _ => origin_of_isoObject
  | achNacha => exact decoded_answers fun _ => origin_of_achNachaObject
  | fednow => exact decoded_answers fun _ => origin_of_fednowObject
  | breB => exact decoded_answers fun _ => origin_of_brebObject

/-- A native message that is not readable ends with the `TypeError` itself. -/
theorem toCanonical_unreadable (hnative : IsNativePix fields) (h : ¬ PixReadable fields)
    (paymentId : Text) (traceId : Option Text) :
    t.toCanonical .pix (.object fields) paymentId traceId = .error .typeError := by
  rw [toCanonical, pixToCanonical, hnative]
  dsimp only
  cases hraw : pixNativeObject t.decoding (.object fields) paymentId traceId with
  | none => rfl
  | some raw => exact absurd (pixNativeObject_isSome.mp ⟨raw, hraw⟩) h

end Translator

end MipitCore.Translation
