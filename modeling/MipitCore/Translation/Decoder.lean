import MipitCore.Translation.Mapping

/-!
# Decoders

A decoder builds an object from a rail's message and lets the canonical schema decide
whether it is a canonical message. The PIX and SPEI decoders of API requests are the
same program with other constants (`RequestRail`): defaults from the request, the
mappings of the database, and the creditor's key where no mapping has set it.

## Main definitions

* `Fresh` — what a translation draws from the host
* `validated` — the schema check that ends every decoder
* `HasAmount` — objects with a given amount
* `RequestRail`, `decodeRequest` — decoders of API requests

## Main results

* `decodeRequest_ok` — an accepted request, and the properties that are its defaults
* `decodeRequest_nil` — what a validated request is translated to without mappings
-/

namespace MipitCore.Translation

open Js Api
open CodeUnit (ascii)

/-- What a translation draws from the host: two readings of the clock, identifiers, and random
numbers. -/
structure Fresh where
  now : Datetime
  later : Datetime
  /-- `Date.now()` -/
  millis : ℕ
  msgUlid : Ulid
  e2eUlid : Ulid
  /-- `Math.random().toString(36)` -/
  randomText : Text
  /-- `Math.floor(Math.random() * 99999999)` -/
  randomNumber : ℕ
  /-- `(Math.random() * 16) | 0`, at each call -/
  randomDigits : ℕ → Fin 16

/-- `canonicalPacs008Schema.safeParse(raw)`, and the error where it fails. -/
def validated (rail : Rail) (message : String) (raw : JsValue) :
    Except Failure CanonicalPacs008 :=
  match canonicalPacs008Schema raw with
  | some c => .ok c
  | none => .error (.translation (js rail.name) message)

/-- A decoder's `try`: what throws while the object is built is reported as unexpected. -/
def decoded (rail : Rail) (invalid unexpected : String) (raw : Option JsValue) :
    Except Failure CanonicalPacs008 :=
  match raw with
  | none => .error (.translation (js rail.name) unexpected)
  | some raw => validated rail invalid raw

theorem validated_eq_ok {rail : Rail} {message : String} {raw : JsValue} {c : CanonicalPacs008} :
    validated rail message raw = .ok c ↔ canonicalPacs008Schema raw = some c := by
  unfold validated
  cases canonicalPacs008Schema raw <;> simp

theorem decoded_eq_ok {rail : Rail} {invalid unexpected : String} {raw : Option JsValue}
    {c : CanonicalPacs008} :
    decoded rail invalid unexpected raw = .ok c ↔
      ∃ v, raw = some v ∧ canonicalPacs008Schema v = some c := by
  cases raw with
  | none => simp [decoded]
  | some v => simp [decoded, validated_eq_ok]

/-- An object is accepted if its properties decode. -/
theorem decoded_object_eq_ok {rail : Rail} {invalid unexpected : String}
    {fields : List (String × JsValue)} {c : CanonicalPacs008} :
    decoded rail invalid unexpected (some (.object fields)) = .ok c ↔ c.Decodes fields := by
  rw [decoded_eq_ok]
  constructor
  · rintro ⟨_, ⟨⟩, hschema⟩
    obtain ⟨fields', hfields, d⟩ := canonicalPacs008Schema_eq_some.mp hschema
    obtain rfl := JsValue.object.inj hfields
    exact d
  · intro d
    exact ⟨_, rfl, canonicalPacs008Schema_eq_some.mpr ⟨fields, rfl, d⟩⟩

theorem exists_of_isOk {ε α : Type} {e : Except ε α} (h : e.isOk = true) : ∃ a, e = .ok a := by
  cases e with
  | ok a => exact ⟨a, rfl⟩
  | error e => cases h

/-- An object whose amount has the value `n`. -/
def HasAmount (n : Number) (raw : JsValue) : Prop :=
  ∃ fields rest, raw = .object fields ∧
    JsValue.field "amount" fields = .object (("value", .number n) :: rest)

/-- The value of an object's amount is the amount of its canonical message, and positive. -/
theorem HasAmount.of_schema {n : Number} {raw : JsValue} {c : CanonicalPacs008}
    (h : HasAmount n raw) (hschema : canonicalPacs008Schema raw = some c) :
    c.amount.value = n ∧ n.isPositive = true := by
  obtain ⟨fields, rest, rfl, hamount⟩ := h
  obtain ⟨fields', hfields, d⟩ := canonicalPacs008Schema_eq_some.mp hschema
  obtain rfl := JsValue.object.inj hfields
  exact d.amount_value hamount

/-! ### Decoders of API requests -/

/-- The constants of a decoder of API requests. -/
structure RequestRail where
  rail : Rail
  currency : Text
  country : Text
  aliasType : AliasType
  aliasPrefix : Text
  invalid : String

/-- The object that a request's decoder starts from. -/
def requestDefaults (R : RequestRail) (engine : Engine) (fresh : Fresh) (req : JsValue)
    (paymentId : Text) (traceId : Option Text) : Option JsValue := do
  let currency ← ((← req.get "currency").nullish (.string R.currency)).text
  let debtor ← req.get "debtor"
  let creditor ← req.get "creditor"
  return .object
    [("payment_id", .string paymentId),
      ("created_at", .string fresh.now.1),
      ("grpHdr", .object
        [("msgId", .string (js "MSG-" ++ fresh.msgUlid.1)), ("creDtTm", .string fresh.now.1)]),
      ("pmtId", .object [("endToEndId", .string (js "E2E-" ++ fresh.e2eUlid.1))]),
      ("amount", .object
        [("value", ← req.get "amount"), ("currency", .string (engine.toUpperCase currency))]),
      ("fx", .object [("source_currency", .string R.currency)]),
      ("origin", .object [("rail", .string (js R.rail.name))]),
      ("destination", .object [("rail", .undefined)]),
      ("debtor", .object
        [("name", ← debtor.get "name"), ("country", .string R.country),
          ("account_id", ← debtor.get "alias")]),
      ("creditor", .object
        [("name", ← creditor.get "name"), ("country", .undefined),
          ("account_id", ← creditor.get "alias")]),
      ("alias", .object [("type", .string (js R.aliasType.name)), ("value", .string [])]),
      ("purpose", (← req.get "purpose").nullish (.string (js "P2P"))),
      ("reference", (← req.get "reference").nullish (.string (js "MIPIT-POC"))),
      ("status", .string (js "RECEIVED")),
      ("trace_id", JsValue.ofText? traceId)]

/-- The creditor's alias without its prefix, where `alias.value` is still empty. -/
def aliasFallback (R : RequestRail) (req raw : JsValue) : Option JsValue := do
  let alias' ← raw.get "alias"
  if alias'.truthy && (alias'.getOptional "value").truthy then return raw
  else
    let creditorAlias ← (← (← req.get "creditor").get "alias").text
    setNestedValue raw "alias.value" (.string (Text.stripPrefix R.aliasPrefix creditorAlias))

/-- The object that is made of a request, given the mappings, or `none` where loading them
throws. -/
def requestObject [Arithmetic] (R : RequestRail) (engine : Engine) (fresh : Fresh)
    (mappings : Option Mappings) (req : JsValue) (paymentId : Text) (traceId : Option Text) :
    Option JsValue := do
  let mappings ← mappings
  let raw ← requestDefaults R engine fresh req paymentId traceId
  let raw ← applyMappings engine mappings req raw
  aliasFallback R req raw

/-- A request's decoder. -/
def decodeRequest [Arithmetic] (R : RequestRail) (engine : Engine) (fresh : Fresh)
    (mappings : Option Mappings) (req : JsValue) (paymentId : Text) (traceId : Option Text) :
    Except Failure CanonicalPacs008 :=
  decoded R.rail R.invalid "Unexpected error during translation"
    (requestObject R engine fresh mappings req paymentId traceId)

section Request

variable {R : RequestRail} {engine : Engine} {fresh : Fresh} {paymentId : Text}
  {traceId : Option Text}

/-- The optional name of a party. -/
def nameText {field : String} (p : PartyRequest field) : Option Text := p.name.map Subtype.val

theorem name_toValue {field : String} (p : PartyRequest field) :
    p.toValue.get "name" = some (JsValue.ofText? (nameText p)) := by
  obtain ⟨a, name⟩ := p
  cases name <;> rfl

theorem name_schema {field : String} (p : PartyRequest field) :
    (Schema.textUpTo 140).optional (JsValue.ofText? (nameText p)) = some (nameText p) := by
  apply Schema.optional_ofText?
  intro name hname
  obtain ⟨name', -, rfl⟩ := Option.map_eq_some_iff.mp hname
  simp [name'.2]

theorem alias_toValue {field : String} (p : PartyRequest field) :
    p.toValue.get "alias" = some (.string p.alias.1) := rfl

/-- What a validated request becomes, with `key` as the value of its alias. -/
def requestFields (R : RequestRail) (engine : Engine) (fresh : Fresh) (r : CreatePaymentRequest)
    (paymentId : Text) (traceId : Option Text) (key : Text) : List (String × JsValue) :=
  [("payment_id", .string paymentId),
    ("created_at", .string fresh.now.1),
    ("grpHdr", .object
      [("msgId", .string (js "MSG-" ++ fresh.msgUlid.1)), ("creDtTm", .string fresh.now.1)]),
    ("pmtId", .object [("endToEndId", .string (js "E2E-" ++ fresh.e2eUlid.1))]),
    ("amount", .object
      [("value", .number r.amount.1), ("currency", .string (engine.toUpperCase r.currency.1))]),
    ("fx", .object [("source_currency", .string R.currency)]),
    ("origin", .object [("rail", .string (js R.rail.name))]),
    ("destination", .object [("rail", .undefined)]),
    ("debtor", .object
      [("name", JsValue.ofText? (nameText r.debtor)), ("country", .string R.country),
        ("account_id", .string r.debtor.alias.1)]),
    ("creditor", .object
      [("name", JsValue.ofText? (nameText r.creditor)), ("country", .undefined),
        ("account_id", .string r.creditor.alias.1)]),
    ("alias", .object [("type", .string (js R.aliasType.name)), ("value", .string key)]),
    ("purpose", .string r.purpose.1),
    ("reference", .string r.reference.1),
    ("status", .string (js "RECEIVED")),
    ("trace_id", JsValue.ofText? traceId)]

theorem requestDefaults_object {req raw : JsValue}
    (h : requestDefaults R engine fresh req paymentId traceId = some raw) :
    ∃ defaults, raw = .object defaults := by
  iterate 11 obtain ⟨_, -, h⟩ := Option.bind_eq_some_iff.mp h
  exact ⟨_, (Option.some.inj h).symm⟩

theorem requestDefaults_toValue (r : CreatePaymentRequest) :
    requestDefaults R engine fresh r.toValue paymentId traceId =
      some (.object (requestFields R engine fresh r paymentId traceId [])) := by
  simp [requestDefaults, CreatePaymentRequest.toValue, name_toValue, alias_toValue, requestFields,
    JsValue.nullish]

theorem aliasFallback_toValue (r : CreatePaymentRequest) :
    aliasFallback R r.toValue (.object (requestFields R engine fresh r paymentId traceId [])) =
      some (.object (requestFields R engine fresh r paymentId traceId
        (Text.stripPrefix R.aliasPrefix r.creditor.alias.1))) := by
  have hparts : pathParts "alias.value" = ["alias", "value"] := by decide
  simp [aliasFallback, requestFields, JsValue.truthy, CreatePaymentRequest.toValue, alias_toValue,
    setNestedValue, hparts, setNested, childProperty, assignProperty, JsValue.setField]


/-- The canonical message of a validated request, with `key` as the value of its alias. -/
def requestCanonical (R : RequestRail) (engine : Engine) (fresh : Fresh) (r : CreatePaymentRequest)
    (paymentId : Text) (traceId : Option Text) (key : Text) : CanonicalPacs008 where
  paymentId
  createdAt := fresh.now
  grpHdr := ⟨js "MSG-" ++ fresh.msgUlid.1, fresh.now, .fin 1, none⟩
  pmtId := ⟨js "E2E-" ++ fresh.e2eUlid.1, none, none⟩
  amount := ⟨r.amount.1, engine.toUpperCase r.currency.1, none, none⟩
  fx := some ⟨some R.currency, none, none, none⟩
  origin := ⟨R.rail, none, none, none, none⟩
  destination := ⟨none, none, none, none, none⟩
  debtor := ⟨nameText r.debtor, some R.country, r.debtor.alias.1, none, none, none,
    none, none, none⟩
  creditor := ⟨nameText r.creditor, none, r.creditor.alias.1, none, none, none, none,
    none, none⟩
  «alias» := ⟨R.aliasType, key⟩
  purpose := r.purpose.1
  reference := r.reference.1
  remittanceInfo := none
  status := js "RECEIVED"
  traceId
  railAck := none

theorem positiveInt_one : positiveInt (.number (.fin 1)) = some (.fin 1) := by
  decide

theorem sttlmInfSchema_clrg :
    sttlmInfSchema (.object [("sttlmMtd", .string (js "CLRG"))]) = some ⟨.clrg⟩ := by
  decide

theorem requestFields_decodes {r : CreatePaymentRequest} {key : Text}
    (hR : R.currency.length = 3 ∧ R.country.length = 2)
    (hid : isPaymentId paymentId = true) (hcurrency : (engine.toUpperCase r.currency.1).length = 3) :
    (requestCanonical R engine fresh r paymentId traceId key).Decodes
      (requestFields R engine fresh r paymentId traceId key) where
  paymentId := by simp [Schema.field, requestFields, Schema.check, Option.filter, hid, requestCanonical]
  createdAt := by
    simp [Schema.field, requestFields, Schema.refine, fresh.now.2, requestCanonical]
  grpHdr := by
    simp [Schema.field, requestFields, requestCanonical, grpHdrSchema, Schema.refine, fresh.now.2]
  pmtId := by
    simp [Schema.field, requestFields, requestCanonical, pmtIdSchema, fresh.e2eUlid.2.1,
      show (js "E2E-").length = 4 from rfl]
  amount := by
    simp [Schema.field, requestFields, requestCanonical, amountSchema, r.amount.2, hcurrency]
  fx := by
    simp [Schema.field, requestFields, requestCanonical, fxSchema, hR.1]
  origin := by
    simp [Schema.field, requestFields, requestCanonical, agentSchema, railNames_find]
  destination := by
    simp [Schema.field, requestFields, requestCanonical, agentSchema]
  debtor := by
    simp [Schema.field, requestFields, requestCanonical, partySchema, name_schema, hR.2]
  creditor := by
    simp [Schema.field, requestFields, requestCanonical, partySchema, name_schema]
  «alias» := by
    simp [Schema.field, requestFields, requestCanonical, aliasSchema, aliasTypeNames_find]
  purpose := by simp [Schema.field, requestFields, requestCanonical, r.purpose.2]
  reference := by simp [Schema.field, requestFields, requestCanonical, r.reference.2]
  remittanceInfo := by simp [Schema.field, requestFields, requestCanonical]
  status := by simp [Schema.field, requestFields, requestCanonical]
  traceId := by
    cases traceId <;> simp [Schema.field, requestFields, requestCanonical, JsValue.ofText?]
  railAck := by simp [Schema.field, requestFields, requestCanonical]

/-- **A validated request without mappings** becomes its canonical message, if the upper-case
currency still has three letters. -/
theorem decodeRequest_nil (hR : R.currency.length = 3 ∧ R.country.length = 2)
    (hid : isPaymentId paymentId = true) (r : CreatePaymentRequest) :
    decodeRequest R engine fresh (some []) r.toValue paymentId traceId =
      if (engine.toUpperCase r.currency.1).length = 3 then
        .ok (requestCanonical R engine fresh r paymentId traceId
          (Text.stripPrefix R.aliasPrefix r.creditor.alias.1))
      else .error (.translation (js R.rail.name) R.invalid) := by
  have hraw : requestObject R engine fresh (some []) r.toValue paymentId traceId =
      some (.object (requestFields R engine fresh r paymentId traceId
        (Text.stripPrefix R.aliasPrefix r.creditor.alias.1))) := by
    simp only [requestObject, requestDefaults_toValue, applyMappings, List.foldlM_nil,
      Option.bind_eq_bind, Option.bind_some, Option.pure_def, aliasFallback_toValue]
  rw [decodeRequest, hraw, decoded, validated]
  by_cases hcurrency : (engine.toUpperCase r.currency.1).length = 3
  · rw [if_pos hcurrency, canonicalPacs008Schema_eq_some.mpr
      ⟨_, rfl, requestFields_decodes hR hid hcurrency⟩]
  · rw [if_neg hcurrency]
    cases hschema : canonicalPacs008Schema (.object (requestFields R engine fresh r paymentId
        traceId (Text.stripPrefix R.aliasPrefix r.creditor.alias.1))) with
    | none => rfl
    | some c =>
      obtain ⟨fields, hfields, d⟩ := canonicalPacs008Schema_eq_some.mp hschema
      obtain rfl := JsValue.object.inj hfields
      have hamount := d.amount
      simp [Schema.field, requestFields, amountSchema, r.amount.2, hcurrency] at hamount

/-- **What an accepted request has kept of its defaults**: every property but the alias that no
mapping writes to. -/
theorem decodeRequest_ok {mappings : Option Mappings} {req : JsValue} {c : CanonicalPacs008}
    (h : decodeRequest R engine fresh mappings req paymentId traceId = .ok c) :
    ∃ ms defaults fields, mappings = some ms ∧
      requestDefaults R engine fresh req paymentId traceId = some (.object defaults) ∧
      c.Decodes fields ∧
      ∀ key, key ≠ "alias" → (∀ entry ∈ ms, entry.2.targetProperty ≠ key) →
        JsValue.field key fields = JsValue.field key defaults := by
  obtain ⟨v, hraw, hschema⟩ := decoded_eq_ok.mp h
  simp only [requestObject, Option.bind_eq_bind, Option.bind_eq_some_iff] at hraw
  obtain ⟨ms, rfl, raw, hdefaults, mapped, hmapped, hraw⟩ := hraw
  obtain ⟨defaults, rfl⟩ : ∃ defaults, raw = .object defaults := requestDefaults_object hdefaults
  obtain ⟨fields₁, rfl, hfields₁⟩ := applyMappings_field hmapped
  obtain ⟨fields₂, rfl, hfields₂⟩ : ∃ fields₂, v = .object fields₂ ∧ ∀ key, key ≠ "alias" →
      JsValue.field key fields₂ = JsValue.field key fields₁ := by
    simp only [aliasFallback, JsValue.get_object, Option.bind_eq_bind, Option.bind_some] at hraw
    split at hraw
    · obtain rfl := Option.some.inj hraw
      exact ⟨fields₁, rfl, fun _ _ => rfl⟩
    · simp only [Option.bind_eq_some_iff] at hraw
      obtain ⟨_, -, _, -, _, -, hraw⟩ := hraw
      obtain ⟨fields₂, rfl, hfields₂⟩ := setNested_object hraw
      refine ⟨fields₂, rfl, fun key hkey => hfields₂ key fun hhead => hkey ?_⟩
      have hparts : pathParts "alias.value" = ["alias", "value"] := by decide
      rw [hparts, List.head?_cons] at hhead
      exact (Option.some.inj hhead).symm
  obtain ⟨fields, hv, d⟩ := canonicalPacs008Schema_eq_some.mp hschema
  obtain rfl := JsValue.object.inj hv
  refine ⟨ms, defaults, _, rfl, hdefaults, d, fun key hkey hms => ?_⟩
  rw [hfields₂ key hkey, hfields₁ key hms]

end Request
end MipitCore.Translation
