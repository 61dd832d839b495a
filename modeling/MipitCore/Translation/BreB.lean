import MipitCore.Domain.AliasPatterns
import MipitCore.Translation.Decoder

/-!
# Bre-B

`brebToCanonical` takes a native message, which it recognises by three properties, or a
request of the API. `canonicalToBreb` takes the beneficiary's key from the alias where
that is a key of Bre-B, and otherwise from the creditor's account, of which it drops an
entity code and a prefix.

## Main definitions

* `inferTipoLlave`, `generateBrebTransactionId`
* `brebNativeObject`, `brebRequestObject`, `brebToCanonical`
* `BreBPaymentRequest`, `canonicalToBreb`

## Main results

* `amount_of_brebNativeObject` — the amount of a native message
* `brebToCanonical_request` — what a validated request is translated to
-/

namespace MipitCore.Translation

open Js Api
open CodeUnit (ascii)

/-- `BREB_ENTITY_CODES.FINTECH_SIMULATED` -/
def fintechSimulated : Text := js "26264220"

/-- `BreBKeyType` -/
inductive BreBKeyType
  | telefono | nit | email | «alias»
  deriving DecidableEq, Repr

def BreBKeyType.name : BreBKeyType → String
  | telefono => "TELEFONO"
  | nit => "NIT"
  | email => "EMAIL"
  | «alias» => "ALIAS"

/-- `inferTipoLlave(llave)`, for a key that is a string. -/
def inferTipoLlave (llave : Text) : BreBKeyType :=
  if isColombianPhone llave then .telefono
  else if isNitWithCheck llave then .nit
  else if llave.includes (ascii '@') then .email
  else .alias

/-- `inferTipoLlave(llave)` for any value: the patterns convert it to text, and `includes` is a
method of strings and arrays. -/
def inferTipoLlaveOf [Arithmetic] (llave : JsValue) : Option BreBKeyType := do
  let text ← llave.toText
  match llave with
  | .string s => return inferTipoLlave s
  | .array items =>
    if isColombianPhone text then return .telefono
    else if isNitWithCheck text then return .nit
    else return if items.any (fun v => v.isText (js "@")) then .email else .alias
  | _ =>
    if isColombianPhone text then return .telefono
    else if isNitWithCheck text then return .nit
    else none

/-- `tipoLlave ?? inferTipoLlave(llave)` -/
def tipoLlaveOf [Arithmetic] (tipoLlave llave : JsValue) : Option JsValue :=
  if tipoLlave.isNullish then (inferTipoLlaveOf llave).map fun t => .string (js t.name)
  else some tipoLlave

/-- `generateBrebTransactionId(codigoEntidad)` -/
def generateBrebTransactionId (engine : Engine) (fresh : Fresh) (codigoEntidad : Text) : Text :=
  let date := (fresh.later.1.slice 0 10).filter (· ≠ ascii '-')
  let time := (fresh.later.1.slice 11 16).erase (ascii ':')
  let unique := Text.padEnd (engine.toUpperCase (fresh.randomText.slice 2 12)) 10 (ascii '0')
  js "BR" ++ codigoEntidad ++ date ++ time ++ unique

/-- `isNativeBrebPayload(payload)` -/
def isNativeBrebPayload (payload : JsValue) : Option Bool := do
  return (← payload.has "valor") && (← payload.has "pagador") && (← payload.has "beneficiario")

/-- The identifier of a party of a native message. -/
def brebPartyId (party : JsValue) (fallback : JsValue) : Option JsValue := do
  return (← party.get "nit").nullish ((← party.get "cc").nullish
    ((← party.get "numeroCuenta").nullish fallback))

/-- A party of a native message. -/
def brebParty [Arithmetic] (party : JsValue) (fallback : JsValue) : Option JsValue := do
  let partyId ← brebPartyId party fallback
  return .object
    [("name", ← (← party.get "nombre").chain (JsValue.substring 140)),
      ("country", .string (js "CO")),
      ("account_id", .string
        ((← (← party.get "codigoEntidad").toText) ++ ascii '/' :: (← partyId.toText))),
      ("taxId", (← party.get "nit").nullish (← party.get "cc")),
      ("accountType", (← party.get "tipoCuenta").nullish (.string (js "CACC")))]

/-- The object that is made of a native message. -/
def brebNativeObject [Arithmetic] (fresh : Fresh) (msg : JsValue) (paymentId : Text)
    (traceId : Option Text) : Option JsValue := do
  let amount ← (← (← msg.get "valor").get "original").parseFloat
  let llave ← msg.get "llave"
  let tipoLlave ← tipoLlaveOf (← msg.get "tipoLlave") llave
  let pagador ← msg.get "pagador"
  let beneficiario ← msg.get "beneficiario"
  let createdAt := (← msg.get "fechaHora").nullish (.string fresh.now.1)
  let idTransaccion ← msg.get "idTransaccion"
  return .object
    [("payment_id", .string paymentId),
      ("created_at", createdAt),
      ("grpHdr", .object
        [("msgId", idTransaccion.nullish (.string (js "MSG-" ++ fresh.msgUlid.1))),
          ("creDtTm", createdAt), ("nbOfTxs", .number (.fin 1)),
          ("sttlmInf", .object [("sttlmMtd", .string (js "CLRG"))])]),
      ("pmtId", .object [("endToEndId", ← idTransaccion.substring 35)]),
      ("amount", .object [("value", .number amount), ("currency", .string (js "COP"))]),
      ("origin", .object
        [("rail", .string (js Rail.breB.name)), ("ispb", ← pagador.get "codigoEntidad")]),
      ("destination", .object
        [("rail", .undefined), ("ispb", ← beneficiario.get "codigoEntidad")]),
      ("debtor", ← brebParty pagador (.string (js "UNKNOWN"))),
      ("creditor", ← brebParty beneficiario llave),
      ("alias", .object [("type", .string (js AliasType.llaveBreb.name)), ("value", llave)]),
      ("purpose", .string (if tipoLlave.isText (js "NIT") then js "SUPP" else js "P2P")),
      ("reference", idTransaccion),
      ("remittanceInfo", ← (← msg.get "concepto").chain (JsValue.substring 140)),
      ("status", .string (js "RECEIVED")),
      ("trace_id", JsValue.ofText? traceId)]

/-- The purpose of a request that does not name one. -/
def brebPurpose (llave : Text) : Text :=
  if inferTipoLlave llave = .nit then js "SUPP" else js "P2P"

/-- The object that is made of a request. -/
def brebRequestObject (engine : Engine) (fresh : Fresh) (req : JsValue) (paymentId : Text)
    (traceId : Option Text) : Option JsValue := do
  let debtor ← req.get "debtor"
  let creditor ← req.get "creditor"
  let creditorLlave := Text.stripPrefix (js "BREB-") (← (← creditor.get "alias").text)
  let txId := generateBrebTransactionId engine fresh fintechSimulated
  let currency ← ((← req.get "currency").nullish (.string (js "COP"))).text
  return .object
    [("payment_id", .string paymentId),
      ("created_at", .string fresh.now.1),
      ("grpHdr", .object
        [("msgId", .string txId), ("creDtTm", .string fresh.now.1), ("nbOfTxs", .number (.fin 1)),
          ("sttlmInf", .object [("sttlmMtd", .string (js "CLRG"))])]),
      ("pmtId", .object [("endToEndId", .string (txId.substring 35))]),
      ("amount", .object
        [("value", ← req.get "amount"), ("currency", .string (engine.toUpperCase currency))]),
      ("fx", .object [("source_currency", .string (js "COP"))]),
      ("origin", .object
        [("rail", .string (js Rail.breB.name)), ("ispb", .string fintechSimulated)]),
      ("destination", .object [("rail", .undefined)]),
      ("debtor", .object
        [("name", (← debtor.get "name").nullish (.string (js "Unknown"))),
          ("country", .string (js "CO")), ("account_id", ← debtor.get "alias")]),
      ("creditor", .object
        [("name", (← creditor.get "name").nullish (.string (js "Unknown"))),
          ("country", .undefined), ("account_id", ← creditor.get "alias")]),
      ("alias", .object
        [("type", .string (js AliasType.llaveBreb.name)), ("value", .string creditorLlave)]),
      ("purpose", (← req.get "purpose").nullish (.string (brebPurpose creditorLlave))),
      ("reference", (← req.get "reference").nullish (.string (js "BREB-" ++ fresh.msgUlid.1))),
      ("status", .string (js "RECEIVED")),
      ("trace_id", JsValue.ofText? traceId)]

/-- The object that is made of a payload. -/
def brebObject [Arithmetic] (engine : Engine) (fresh : Fresh) (payload : JsValue)
    (paymentId : Text) (traceId : Option Text) : Option JsValue := do
  if ← isNativeBrebPayload payload then brebNativeObject fresh payload paymentId traceId
  else brebRequestObject engine fresh payload paymentId traceId

/-- `brebToCanonical(payload, paymentId, traceId)` -/
def brebToCanonical [Arithmetic] (engine : Engine) (fresh : Fresh) (payload : JsValue)
    (paymentId : Text) (traceId : Option Text) : Except Failure CanonicalPacs008 :=
  decoded .breB "Invalid canonical output from Bre-B translation"
    "Unexpected error during Bre-B translation"
    (brebObject engine fresh payload paymentId traceId)

/-! ### Amounts of native messages -/

/-- The amount of the object that is made of a native message. -/
theorem amount_of_brebNativeObject [Arithmetic] {fresh : Fresh} {payload raw : JsValue}
    {paymentId s : Text} {traceId : Option Text}
    (hs : payload.path ["valor", "original"] = some (.string s))
    (h : brebNativeObject fresh payload paymentId traceId = some raw) :
    HasAmount (parseFloat s) raw := by
  obtain ⟨valor, hvalor, h⟩ := Option.bind_eq_some_iff.mp h
  obtain ⟨original, horiginal, h⟩ := Option.bind_eq_some_iff.mp h
  obtain ⟨amount, hamount, h⟩ := Option.bind_eq_some_iff.mp h
  obtain rfl : original = .string s := by
    simpa [hvalor, horiginal] using hs
  obtain rfl : parseFloat s = amount := by
    simpa using hamount
  iterate 14 obtain ⟨_, -, h⟩ := Option.bind_eq_some_iff.mp h
  obtain rfl := Option.some.inj h
  exact ⟨_, _, rfl, rfl⟩

/-! ### Requests -/

section Request

variable {engine : Engine} {fresh : Fresh} {paymentId : Text} {traceId : Option Text}

/-- The name of a party, which the decoder makes up where there is none. -/
def nameOrUnknown {field : String} (p : PartyRequest field) : Text :=
  (nameText p).getD (js "Unknown")

/-- What a validated request becomes. -/
def brebRequestFields (engine : Engine) (fresh : Fresh) (r : CreatePaymentRequest)
    (paymentId : Text) (traceId : Option Text) : List (String × JsValue) :=
  let txId := generateBrebTransactionId engine fresh fintechSimulated
  [("payment_id", .string paymentId),
    ("created_at", .string fresh.now.1),
    ("grpHdr", .object
      [("msgId", .string txId), ("creDtTm", .string fresh.now.1), ("nbOfTxs", .number (.fin 1)),
        ("sttlmInf", .object [("sttlmMtd", .string (js "CLRG"))])]),
    ("pmtId", .object [("endToEndId", .string (txId.substring 35))]),
    ("amount", .object
      [("value", .number r.amount.1), ("currency", .string (engine.toUpperCase r.currency.1))]),
    ("fx", .object [("source_currency", .string (js "COP"))]),
    ("origin", .object
      [("rail", .string (js Rail.breB.name)), ("ispb", .string fintechSimulated)]),
    ("destination", .object [("rail", .undefined)]),
    ("debtor", .object
      [("name", .string (nameOrUnknown r.debtor)), ("country", .string (js "CO")),
        ("account_id", .string r.debtor.alias.1)]),
    ("creditor", .object
      [("name", .string (nameOrUnknown r.creditor)), ("country", .undefined),
        ("account_id", .string r.creditor.alias.1)]),
    ("alias", .object
      [("type", .string (js AliasType.llaveBreb.name)),
        ("value", .string (Text.stripPrefix (js "BREB-") r.creditor.alias.1))]),
    ("purpose", .string r.purpose.1),
    ("reference", .string r.reference.1),
    ("status", .string (js "RECEIVED")),
    ("trace_id", JsValue.ofText? traceId)]

/-- The canonical message of a validated request. -/
def brebRequestCanonical (engine : Engine) (fresh : Fresh) (r : CreatePaymentRequest)
    (paymentId : Text) (traceId : Option Text) : CanonicalPacs008 where
  paymentId
  createdAt := fresh.now
  grpHdr := ⟨generateBrebTransactionId engine fresh fintechSimulated, fresh.now, .fin 1,
    some ⟨.clrg⟩⟩
  pmtId := ⟨(generateBrebTransactionId engine fresh fintechSimulated).substring 35, none, none⟩
  amount := ⟨r.amount.1, engine.toUpperCase r.currency.1, none, none⟩
  fx := some ⟨some (js "COP"), none, none, none⟩
  origin := ⟨.breB, none, none, some fintechSimulated, none⟩
  destination := ⟨none, none, none, none, none⟩
  debtor := ⟨some (nameOrUnknown r.debtor), some (js "CO"), r.debtor.alias.1, none, none, none,
    none, none, none⟩
  creditor := ⟨some (nameOrUnknown r.creditor), none, r.creditor.alias.1, none, none, none, none,
    none, none⟩
  «alias» := ⟨.llaveBreb, Text.stripPrefix (js "BREB-") r.creditor.alias.1⟩
  purpose := r.purpose.1
  reference := r.reference.1
  remittanceInfo := none
  status := js "RECEIVED"
  traceId
  railAck := none

theorem nameOrUnknown_nullish {field : String} (p : PartyRequest field) :
    (JsValue.ofText? (nameText p)).nullish (.string (js "Unknown")) =
      .string (nameOrUnknown p) := by
  unfold nameOrUnknown
  cases nameText p <;> rfl

theorem nameOrUnknown_length {field : String} (p : PartyRequest field) :
    (nameOrUnknown p).length ≤ 140 := by
  obtain ⟨a, name⟩ := p
  cases name with
  | none => exact Nat.le_of_ble_eq_true rfl
  | some name => exact name.2

theorem brebObject_toValue (r : CreatePaymentRequest) :
    brebObject engine fresh r.toValue paymentId traceId =
      some (.object (brebRequestFields engine fresh r paymentId traceId)) := by
  simp [brebObject, isNativeBrebPayload, JsValue.has, brebRequestObject,
    CreatePaymentRequest.toValue, name_toValue, alias_toValue, brebRequestFields,
    nameOrUnknown_nullish]

theorem brebRequestFields_decodes {r : CreatePaymentRequest} (hid : isPaymentId paymentId = true)
    (hcurrency : (engine.toUpperCase r.currency.1).length = 3) :
    (brebRequestCanonical engine fresh r paymentId traceId).Decodes
      (brebRequestFields engine fresh r paymentId traceId) where
  paymentId := by
    simp [Schema.field, brebRequestFields, Schema.check, Option.filter, hid, brebRequestCanonical]
  createdAt := by
    simp [Schema.field, brebRequestFields, Schema.refine, fresh.now.2, brebRequestCanonical]
  grpHdr := by
    simp [Schema.field, brebRequestFields, brebRequestCanonical, grpHdrSchema, Schema.refine,
      fresh.now.2, positiveInt_one, sttlmInfSchema_clrg]
  pmtId := by
    simp [Schema.field, brebRequestFields, brebRequestCanonical, pmtIdSchema, Text.substring]
  amount := by
    simp [Schema.field, brebRequestFields, brebRequestCanonical, amountSchema, r.amount.2,
      hcurrency]
  fx := by
    simp [Schema.field, brebRequestFields, brebRequestCanonical, fxSchema,
      show (js "COP").length = 3 from rfl]
  origin := by
    simp [Schema.field, brebRequestFields, brebRequestCanonical, agentSchema, railNames_find,
      show fintechSimulated.length = 8 from rfl]
  destination := by
    simp [Schema.field, brebRequestFields, brebRequestCanonical, agentSchema]
  debtor := by
    simp [Schema.field, brebRequestFields, brebRequestCanonical, partySchema,
      nameOrUnknown_length, show (js "CO").length = 2 from rfl]
  creditor := by
    simp [Schema.field, brebRequestFields, brebRequestCanonical, partySchema,
      nameOrUnknown_length]
  «alias» := by
    simp [Schema.field, brebRequestFields, brebRequestCanonical, aliasSchema,
      aliasTypeNames_find]
  purpose := by simp [Schema.field, brebRequestFields, brebRequestCanonical, r.purpose.2]
  reference := by simp [Schema.field, brebRequestFields, brebRequestCanonical, r.reference.2]
  remittanceInfo := by simp [Schema.field, brebRequestFields, brebRequestCanonical]
  status := by simp [Schema.field, brebRequestFields, brebRequestCanonical]
  traceId := by
    cases traceId <;> simp [Schema.field, brebRequestFields, brebRequestCanonical, JsValue.ofText?]
  railAck := by simp [Schema.field, brebRequestFields, brebRequestCanonical]

/-- **A validated request** becomes its canonical message, if the upper-case currency still has
three letters. -/
theorem brebToCanonical_request (hid : isPaymentId paymentId = true) (r : CreatePaymentRequest) :
    brebToCanonical engine fresh r.toValue paymentId traceId =
      if (engine.toUpperCase r.currency.1).length = 3 then
        .ok (brebRequestCanonical engine fresh r paymentId traceId)
      else .error (.translation (js Rail.breB.name)
        "Invalid canonical output from Bre-B translation") := by
  rw [brebToCanonical, brebObject_toValue, decoded, validated]
  by_cases hcurrency : (engine.toUpperCase r.currency.1).length = 3
  · rw [if_pos hcurrency, canonicalPacs008Schema_eq_some.mpr
      ⟨_, rfl, brebRequestFields_decodes hid hcurrency⟩]
  · rw [if_neg hcurrency]
    cases hschema : canonicalPacs008Schema
        (.object (brebRequestFields engine fresh r paymentId traceId)) with
    | none => rfl
    | some c =>
      obtain ⟨fields, hfields, d⟩ := canonicalPacs008Schema_eq_some.mp hschema
      obtain rfl := JsValue.object.inj hfields
      have hamount := d.amount
      simp [Schema.field, brebRequestFields, amountSchema, r.amount.2, hcurrency] at hamount

end Request

/-! ### The encoder -/

/-- `pagador` and `beneficiario` -/
structure BreBParty where
  codigoEntidad : Text
  nombre : Text
  nit : Option Text
  cc : Option Text
  numeroCuenta : Option Text
  tipoCuenta : Option AccountType
  deriving DecidableEq

structure BreBPaymentRequest where
  idTransaccion : Text
  /-- `valor.original` -/
  original : Text
  pagador : BreBParty
  beneficiario : BreBParty
  llave : Text
  tipoLlave : Option BreBKeyType
  concepto : Option Text
  fechaHora : Option Text
  deriving DecidableEq

/-- An account without the entity code before its first slash. -/
def accountOf (accountId : Text) : Text :=
  if accountId.includes (ascii '/') then
    Text.join (Text.split accountId (ascii '/')).tail (ascii '/')
  else accountId

/-- A party of the canonical message as a party of Bre-B. -/
def brebPartyOf (codigoEntidad defaultName : Text) (p : Party) : BreBParty where
  codigoEntidad
  nombre := (p.name.getD defaultName).substring 140
  nit := p.taxId.filter fun taxId => taxId.includes (ascii '-')
  cc := p.taxId.filter fun taxId => taxId ≠ [] && !taxId.includes (ascii '-')
  numeroCuenta := some (accountOf p.accountId)
  tipoCuenta := some (p.accountType.getD .cacc)

/-- The beneficiary's key, before a prefix is dropped. -/
def rawLlave (c : CanonicalPacs008) : Text :=
  if c.alias.type = .llaveBreb then c.alias.value else accountOf c.creditor.accountId

/-- `canonicalToBreb(canonical)` -/
def canonicalToBreb [Arithmetic] (engine : Engine) (fresh : Fresh) (c : CanonicalPacs008) :
    BreBPaymentRequest where
  idTransaccion := generateBrebTransactionId engine fresh (c.origin.ispb.getD fintechSimulated)
  original := c.amount.value.toFixed 2
  pagador := brebPartyOf (c.origin.ispb.getD fintechSimulated) (js "REMITENTE") c.debtor
  beneficiario :=
    brebPartyOf (c.destination.ispb.getD fintechSimulated) (js "BENEFICIARIO") c.creditor
  llave := Text.stripPrefix (js "BREB-") (rawLlave c)
  tipoLlave := none
  concepto := some ((c.remittanceInfo.getD c.reference).substring 140)
  fechaHora := some c.createdAt.1

/-- An account is what follows its first slash, or all of it. -/
theorem accountOf_eq (accountId : Text) :
    accountOf accountId = (Text.afterFirst (ascii '/') accountId).getD accountId := by
  unfold accountOf
  cases hafter : Text.afterFirst (ascii '/') accountId with
  | none =>
    rw [if_neg (by simp [Text.afterFirst_eq_none_iff.mp hafter]), Option.getD_none]
  | some rest =>
    have hincludes : accountId.includes (ascii '/') = true := by
      rw [← Bool.not_eq_false, ← Text.afterFirst_eq_none_iff, hafter]
      exact Option.some_ne_none rest
    rw [if_pos hincludes, Text.join_tail_split, hafter, Option.getD_some, Option.getD_some]

end MipitCore.Translation
