import MipitCore.Translation.Translator

/-!
# `POST /translate` and `POST /translate/preview`

Both routes answer 422 to a `TranslationError` and 500 to anything else that is thrown, so
that a payload is answered with 500 exactly where its decoder lets another error through.

## Main definitions

* `TranslateRequest`, `TranslateReply`
* `postTranslate`, `postTranslatePreview` — the handlers, after the schema of the body

## Main results

* `answers_iff` — which payloads a decoder and the two routes answer as they should
-/

namespace MipitCore.Api

open Js Translation

/-- A request to translate a payload, as the schema of the body leaves it. -/
structure TranslateRequest where
  sourceRail : Rail
  destinationRail : Rail
  payload : List (String × JsValue)
  /-- `options.includeCanonical`, which is `true` by default. -/
  includeCanonical : Bool
  /-- `options.paymentId` -/
  paymentId : Option Text

/-- The body of a reply. The details of an error are left out. -/
inductive TranslateBody
  /-- `INVALID_TRANSLATION` -/
  | sameRails
  | translation (paymentId : Text) (sourceRail destinationRail : Rail) (translated : JsValue)
      (canonical : Option CanonicalPacs008) (translatedAt : Datetime) (traceId : Option Text)
  | preview (paymentId : Text) (sourceRail : Rail) (canonical : CanonicalPacs008)
      (translations : List (Rail × JsValue)) (translatedAt : Datetime) (traceId : Option Text)
  /-- `TRANSLATION_ERROR` -/
  | translationError (message : Text)
  /-- `INTERNAL_ERROR` -/
  | internalError (message : Text)

/-- A reply of the routes. -/
structure TranslateReply where
  status : ℕ
  body : TranslateBody

/-- The reply to what is thrown, with the message for an error that is not expected. -/
def translateFailure (unexpected : String) (err : Failure) : TranslateReply :=
  match err with
  | .translation _ message => ⟨422, .translationError (js message)⟩
  | _ => ⟨500, .internalError (js unexpected)⟩

/-- `POST /translate` -/
def postTranslate (t : Translator) (ulid : Ulid) (translatedAt : Datetime) (traceId : Option Text)
    (request : TranslateRequest) : TranslateReply :=
  if request.sourceRail = request.destinationRail then ⟨400, .sameRails⟩
  else
    let paymentId := request.paymentId.getD (paymentIdOf ulid)
    match t.translate request.sourceRail request.destinationRail (.object request.payload) paymentId
      traceId with
    | .ok (canonical, translated) =>
      ⟨200, .translation paymentId request.sourceRail request.destinationRail translated
        (if request.includeCanonical then some canonical else none) translatedAt traceId⟩
    | .error err => translateFailure "Unexpected error during translation" err

/-- `POST /translate/preview`. The encoders are run for all other rails, and none of them
throws. -/
def postTranslatePreview (t : Translator) (ulid : Ulid) (translatedAt : Datetime)
    (traceId : Option Text) (sourceRail : Rail) (payload : List (String × JsValue)) :
    TranslateReply :=
  let paymentId := paymentIdOf ulid
  match t.toCanonical sourceRail (.object payload) paymentId traceId with
  | .ok canonical =>
    ⟨200, .preview paymentId sourceRail canonical
      ((Rail.all.filter (· ≠ sourceRail)).map fun rail => (rail, t.fromCanonical rail canonical))
      translatedAt traceId⟩
  | .error err => translateFailure "Unexpected error" err

section

variable {t : Translator} {ulid : Ulid} {translatedAt : Datetime} {traceId : Option Text}

/-- The decoder's answer decides the status of a translation. -/
theorem status_of_answers {request : TranslateRequest}
    (hrails : request.destinationRail ≠ request.sourceRail)
    (h : Answers request.sourceRail (t.toCanonical request.sourceRail (.object request.payload)
      (request.paymentId.getD (paymentIdOf ulid)) traceId)) :
    (postTranslate t ulid translatedAt traceId request).status ∈ [200, 422] := by
  rw [postTranslate, if_neg hrails.symm]
  rcases h with ⟨c, hc, -, -⟩ | ⟨message, hmessage⟩
  · simp [Translator.translate, hc]
  · simp [Translator.translate, hmessage, translateFailure]

theorem previewStatus_of_answers {sourceRail : Rail} {payload : List (String × JsValue)}
    (h : Answers sourceRail
      (t.toCanonical sourceRail (.object payload) (paymentIdOf ulid) traceId)) :
    (postTranslatePreview t ulid translatedAt traceId sourceRail payload).status ∈ [200, 422] := by
  rw [postTranslatePreview]
  rcases h with ⟨c, hc, -, -⟩ | ⟨message, hmessage⟩
  · simp [hc]
  · simp [hmessage, translateFailure]

/-- **Which payloads are answered as they should be**: all but the native messages of PIX that
are not readable. For these the decoder throws a `TypeError`, and the routes answer 500. -/
theorem answers_iff (hrows : ∀ rail, t.table rail = some []) (rail : Rail)
    (payload : List (String × JsValue)) (paymentId : Text) :
    (Answers rail (t.toCanonical rail (.object payload) paymentId traceId) ∧
      (∀ request : TranslateRequest, request.sourceRail = rail → request.payload = payload →
        request.destinationRail ≠ rail →
        (postTranslate t ulid translatedAt traceId request).status ∈ [200, 422]) ∧
      (postTranslatePreview t ulid translatedAt traceId rail payload).status ∈ [200, 422]) ↔
    (rail = .pix → IsNativePix payload → PixReadable payload) := by
  constructor
  · rintro ⟨hanswers, -, -⟩ rfl hnative
    by_contra hreadable
    rw [Translator.toCanonical_unreadable hnative hreadable] at hanswers
    rcases hanswers with ⟨c, hc, -⟩ | ⟨message, hmessage⟩
    · cases hc
    · cases hmessage
  · intro h
    have hanswers := Translator.toCanonical_answers hrows h
    refine ⟨hanswers paymentId traceId, ?_, previewStatus_of_answers (hanswers _ traceId)⟩
    rintro request rfl rfl hrails
    exact status_of_answers hrails (hanswers _ traceId)

end

namespace Example

/-- A translator without mappings. -/
def translator : Translator where
  engine := Translation.Example.passage.engine
  table _ := some []
  decoding := Translation.Example.fresh
  encoding _ := Translation.Example.fresh

/-- A native message of PIX whose identifier is a number. -/
def numbered : List (String × JsValue) := [("endToEndId", .number (.fin 5))]

/-- A native message of PIX. -/
def native : List (String × JsValue) :=
  [("endToEndId", .string (js "E2E-1")), ("valor", .object [("original", .string (js "10.00"))]),
    ("chave", .string (js "ana@example.com"))]

theorem isNativePix_native : IsNativePix native := rfl

theorem pixReadable_native : PixReadable native where
  original := Or.inr ⟨js "10.00", by decide⟩
  chave := fun _ => ⟨js "ana@example.com", by decide⟩
  endToEndId := Or.inr (Or.inl ⟨js "E2E-1", rfl⟩)

end Example

/-- A readable message is answered as it should be, with these three readings. -/
theorem answers_iff_native :
    (∀ rail, Example.translator.table rail = some []) ∧
      IsNativePix Example.native ∧ PixReadable Example.native ∧
      Answers .pix (Example.translator.toCanonical .pix (.object Example.native)
        (paymentIdOf Pipeline.Example.ulid) none) :=
  ⟨fun _ => rfl, Example.isNativePix_native, Example.pixReadable_native,
    ((@answers_iff Example.translator Pipeline.Example.ulid Translation.Example.fresh.now none
      (fun _ => rfl) .pix Example.native (paymentIdOf Pipeline.Example.ulid)).mpr
        fun _ _ => Example.pixReadable_native).1⟩

/-- A number for an identifier is a `TypeError`, and both routes answer 500. -/
theorem numbered_unanswered :
    (∀ rail, Example.translator.table rail = some []) ∧
      isPaymentId (paymentIdOf Pipeline.Example.ulid) = true ∧
      Example.translator.toCanonical .pix (.object Example.numbered)
        (paymentIdOf Pipeline.Example.ulid) none = .error .typeError ∧
      ¬ Answers .pix (Example.translator.toCanonical .pix (.object Example.numbered)
        (paymentIdOf Pipeline.Example.ulid) none) ∧
      (postTranslate Example.translator Pipeline.Example.ulid Translation.Example.fresh.now none
        ⟨.pix, .spei, Example.numbered, true, none⟩).status = 500 ∧
      (postTranslatePreview Example.translator Pipeline.Example.ulid Translation.Example.fresh.now
        none .pix Example.numbered).status = 500 := by
  have hnative : IsNativePix Example.numbered := rfl
  have hreadable : ¬ PixReadable Example.numbered := fun h => by
    rcases h.endToEndId with h | ⟨_, h⟩ | ⟨_, h⟩ <;> cases h
  have herror : ∀ paymentId, Example.translator.toCanonical .pix (.object Example.numbered)
      paymentId none = .error .typeError :=
    fun paymentId => Translator.toCanonical_unreadable hnative hreadable paymentId none
  refine ⟨fun _ => rfl, isPaymentId_paymentIdOf _, herror _, ?_, ?_, ?_⟩
  · rw [herror]
    rintro (⟨c, hc, -⟩ | ⟨message, hmessage⟩)
    · cases hc
    · cases hmessage
  · rw [postTranslate, if_neg (by decide)]
    simp [Translator.translate, herror, translateFailure]
  · simp [postTranslatePreview, herror, translateFailure]

end MipitCore.Api
