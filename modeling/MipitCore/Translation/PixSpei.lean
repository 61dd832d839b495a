import MipitCore.Translation.Decoder

/-!
# PIX and SPEI

`pixToCanonical` takes a native message of PIX, or a request of the API; a native
message is recognised by its properties. `speiToCanonical` takes requests only. The
encoders copy fields of the canonical message, whatever its currency.

## Main definitions

* `pixRequest`, `speiRequest` — the constants of the two decoders of requests
* `pixToCanonical`, `speiToCanonical`
* `canonicalToPix`, `canonicalToSpei` — with `PixOutboundPayload`, `SpeiOutboundPayload`

## Main results

* `amount_of_pixToCanonical` — the amount of an accepted native message is what
  `parseFloat` makes of its text
-/

namespace MipitCore.Translation

open Js Api

/-- The constants of PIX requests. -/
def pixRequest : RequestRail where
  rail := .pix
  currency := js "BRL"
  country := js "BR"
  aliasType := .pixKey
  aliasPrefix := js "PIX-"
  invalid := "Invalid canonical output from PIX translation"

/-- The constants of SPEI requests. -/
def speiRequest : RequestRail where
  rail := .spei
  currency := js "MXN"
  country := js "MX"
  aliasType := .clabe
  aliasPrefix := js "CLABE-"
  invalid := "Invalid canonical output from SPEI translation"

/-- `'valor' in payload || 'endToEndId' in payload || 'pagador' in payload` -/
def isNativePixPayload (payload : JsValue) : Option Bool := do
  return (← payload.has "valor") || (← payload.has "endToEndId") || (← payload.has "pagador")

/-- The creditor's account of a native message. -/
def pixCreditorAccount [Arithmetic] (chave : JsValue) (paymentId : Text) : Option Text :=
  if chave.truthy then chave.toText.map fun text => js "PIX-" ++ text
  else some (js "PIX-recv-" ++ paymentId)

/-- The object that is made of a native message. -/
def pixNativeObject [Arithmetic] (fresh : Fresh) (native : JsValue) (paymentId : Text)
    (traceId : Option Text) : Option JsValue := do
  let valor ← native.get "valor"
  let amount ← ((valor.getOptional "original").nullish (.string (js "0"))).parseFloat
  let chave := (← native.get "chave").nullish (.string [])
  let e2eId := (← native.get "endToEndId").nullish (.string (js "E2E-" ++ fresh.e2eUlid.1))
  let pagador ← native.get "pagador"
  let recebedor ← native.get "recebedor"
  let conta := pagador.getOptional "contaTransacional"
  let creditorAccount ← pixCreditorAccount chave paymentId
  return .object
    [("payment_id", .string paymentId),
      ("created_at", .string fresh.now.1),
      ("grpHdr", .object
        [("msgId", e2eId), ("creDtTm", .string fresh.now.1), ("nbOfTxs", .number (.fin 1))]),
      ("pmtId", .object [("endToEndId", ← e2eId.slice 35)]),
      ("amount", .object [("value", .number amount), ("currency", .string (js "BRL"))]),
      ("fx", .object [("source_currency", .string (js "BRL"))]),
      ("origin", .object
        [("rail", .string (js Rail.pix.name)), ("ispb", pagador.getOptional "ispb")]),
      ("destination", .object [("rail", .undefined), ("ispb", recebedor.getOptional "ispb")]),
      ("debtor", .object
        [("name", pagador.getOptional "nome"), ("country", .string (js "BR")),
          ("account_id", (conta.getOptional "numero").nullish (.string (js "acc-" ++ paymentId))),
          ("taxId", pagador.getOptional "cpf"),
          ("accountType", (conta.getOptional "tipoConta").nullish (.string (js "CACC")))]),
      ("creditor", .object
        [("name", recebedor.getOptional "nome"), ("country", .string (js "BR")),
          ("account_id", .string creditorAccount), ("taxId", recebedor.getOptional "cpf")]),
      ("alias", .object [("type", .string (js AliasType.pixKey.name)), ("value", chave)]),
      ("purpose", (← native.get "tipo").nullish (.string (js "TRANSF"))),
      ("reference", (← native.get "campoLivre").nullish (.string (js "MIPIT-POC"))),
      ("status", .string (js "RECEIVED")),
      ("trace_id", JsValue.ofText? traceId)]

/-- `pixToCanonical(payload, paymentId, mappingLoader, traceId)`. A native message is translated
outside the `try`, so that what throws there is not wrapped. -/
def pixToCanonical [Arithmetic] (engine : Engine) (fresh : Fresh) (mappings : Option Mappings)
    (payload : JsValue) (paymentId : Text) (traceId : Option Text) :
    Except Failure CanonicalPacs008 :=
  match isNativePixPayload payload with
  | none => .error .typeError
  | some true =>
    match pixNativeObject fresh payload paymentId traceId with
    | none => .error .typeError
    | some raw => validated .pix "Invalid canonical output from native PIX translation" raw
  | some false => decodeRequest pixRequest engine fresh mappings payload paymentId traceId

/-- `speiToCanonical(payload, paymentId, mappingLoader, traceId)` -/
def speiToCanonical [Arithmetic] (engine : Engine) (fresh : Fresh) (mappings : Option Mappings)
    (payload : JsValue) (paymentId : Text) (traceId : Option Text) :
    Except Failure CanonicalPacs008 :=
  decodeRequest speiRequest engine fresh mappings payload paymentId traceId

/-! ### Amounts of native messages -/

/-- The text of the amount of a native message of PIX. -/
def pixAmount (payload : JsValue) : JsValue := (payload.getOptional "valor").getOptional "original"

theorem isNativePixPayload_of_amount {payload : JsValue} {s : Text}
    (h : pixAmount payload = .string s) : isNativePixPayload payload = some true := by
  cases payload with
  | object fields =>
    have hvalor : JsValue.field "valor" fields ≠ .undefined := by
      intro hundefined
      simp [pixAmount, hundefined, JsValue.getOptional, JsValue.get] at h
    simp [isNativePixPayload, JsValue.has, JsValue.any_of_field hvalor]
  | _ => simp [pixAmount, JsValue.getOptional, JsValue.get] at h

/-- The amount of the object that is made of a native message. -/
theorem amount_of_pixNativeObject [Arithmetic] {fresh : Fresh} {payload raw : JsValue}
    {paymentId s : Text} {traceId : Option Text} (hs : pixAmount payload = .string s)
    (h : pixNativeObject fresh payload paymentId traceId = some raw) :
    HasAmount (parseFloat s) raw := by
  obtain ⟨valor, hvalor, h⟩ := Option.bind_eq_some_iff.mp h
  obtain ⟨amount, hamount, h⟩ := Option.bind_eq_some_iff.mp h
  have horiginal : valor.getOptional "original" = .string s := by
    simpa [pixAmount, JsValue.getOptional, hvalor] using hs
  obtain rfl : parseFloat s = amount := by
    simpa [horiginal, JsValue.nullish] using hamount
  iterate 8 obtain ⟨_, -, h⟩ := Option.bind_eq_some_iff.mp h
  obtain rfl := Option.some.inj h
  exact ⟨_, _, rfl, rfl⟩

/-- **The amount of an accepted native message** is what `parseFloat` makes of its text. -/
theorem amount_of_pixToCanonical [Arithmetic] {engine : Engine} {fresh : Fresh}
    {mappings : Option Mappings} {payload : JsValue} {paymentId s : Text} {traceId : Option Text}
    {c : CanonicalPacs008} (hs : pixAmount payload = .string s)
    (h : pixToCanonical engine fresh mappings payload paymentId traceId = .ok c) :
    c.amount.value = parseFloat s ∧ (parseFloat s).isPositive = true := by
  rw [pixToCanonical, isNativePixPayload_of_amount hs] at h
  dsimp only at h
  cases hraw : pixNativeObject fresh payload paymentId traceId with
  | none => simp [hraw] at h
  | some raw =>
    rw [hraw] at h
    exact (amount_of_pixNativeObject hs hraw).of_schema (validated_eq_ok.mp h)

/-! ### Encoders -/

structure PixOutboundPayload where
  endToEndId : Text
  pixKey : Text
  amount : Number
  currency : Text
  debtorName : Option Text
  debtorAccount : Text
  creditorName : Option Text
  creditorAccount : Text
  purpose : Text
  reference : Text
  createdAt : Text
  deriving DecidableEq

/-- `canonicalToPix(canonical)` -/
def canonicalToPix (c : CanonicalPacs008) : PixOutboundPayload where
  endToEndId := c.pmtId.endToEndId
  pixKey := c.alias.value
  amount := c.amount.value
  currency := c.amount.currency
  debtorName := c.debtor.name
  debtorAccount := c.debtor.accountId
  creditorName := c.creditor.name
  creditorAccount := c.creditor.accountId
  purpose := c.purpose
  reference := c.reference
  createdAt := c.createdAt.1

def PixOutboundPayload.toValue (p : PixOutboundPayload) : JsValue := .object
  [("endToEndId", .string p.endToEndId), ("pixKey", .string p.pixKey),
    ("amount", .number p.amount), ("currency", .string p.currency),
    ("debtorName", JsValue.ofText? p.debtorName), ("debtorAccount", .string p.debtorAccount),
    ("creditorName", JsValue.ofText? p.creditorName),
    ("creditorAccount", .string p.creditorAccount), ("purpose", .string p.purpose),
    ("reference", .string p.reference), ("createdAt", .string p.createdAt)]

structure SpeiOutboundPayload where
  claveRastreo : Text
  clabe : Text
  monto : Number
  moneda : Text
  nombreOrdenante : Option Text
  cuentaOrdenante : Text
  nombreBeneficiario : Option Text
  cuentaBeneficiario : Text
  concepto : Text
  referencia : Text
  fechaOperacion : Text
  deriving DecidableEq

/-- `canonicalToSpei(canonical)` -/
def canonicalToSpei (c : CanonicalPacs008) : SpeiOutboundPayload where
  claveRastreo := c.pmtId.endToEndId
  clabe := c.alias.value
  monto := c.amount.value
  moneda := c.amount.currency
  nombreOrdenante := c.debtor.name
  cuentaOrdenante := c.debtor.accountId
  nombreBeneficiario := c.creditor.name
  cuentaBeneficiario := c.creditor.accountId
  concepto := c.purpose
  referencia := c.reference
  fechaOperacion := (Text.split c.createdAt.1 (CodeUnit.ascii 'T')).headD []

def SpeiOutboundPayload.toValue (p : SpeiOutboundPayload) : JsValue := .object
  [("claveRastreo", .string p.claveRastreo), ("clabe", .string p.clabe),
    ("monto", .number p.monto), ("moneda", .string p.moneda),
    ("nombreOrdenante", JsValue.ofText? p.nombreOrdenante),
    ("cuentaOrdenante", .string p.cuentaOrdenante),
    ("nombreBeneficiario", JsValue.ofText? p.nombreBeneficiario),
    ("cuentaBeneficiario", .string p.cuentaBeneficiario), ("concepto", .string p.concepto),
    ("referencia", .string p.referencia), ("fechaOperacion", .string p.fechaOperacion)]

end MipitCore.Translation
