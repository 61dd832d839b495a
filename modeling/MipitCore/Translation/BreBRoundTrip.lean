import MipitCore.Domain.Accepted
import MipitCore.Js.FixedText
import MipitCore.Translation.AchRoundTrip
import MipitCore.Translation.BreB

/-!
# Bre-B, there and back

A native message identifies a party by a tax number, a personal number or an account. The
decoder makes one tax number of the first two, and joins the identifier to the code of the
institution by a slash; the encoder tells them apart by a hyphen, and takes the account
from behind the first slash.

## Main definitions

* `BreBPaymentRequest.toValue` — native messages
* `BreBPaymentRequest.Regular` — messages within the format
* `BreBKept` — what a message and its second version have in common

## Main results

* `brebToCanonical_toValue` — an accepted message is the canonical message of its object
* `breb_kept`
* `breb_changed` — the conditions of `breb_kept` are needed
-/

namespace MipitCore.Translation

open Js
open CodeUnit (ascii isDigit)

/-! ### Native messages as values -/

def BreBParty.toValue (party : BreBParty) : JsValue := .object
  [("codigoEntidad", .string party.codigoEntidad), ("nombre", .string party.nombre),
    ("nit", JsValue.ofText? party.nit), ("cc", JsValue.ofText? party.cc),
    ("numeroCuenta", JsValue.ofText? party.numeroCuenta),
    ("tipoCuenta", JsValue.ofText? (party.tipoCuenta.map fun t => js t.name))]

def BreBPaymentRequest.toValue (msg : BreBPaymentRequest) : JsValue := .object
  [("idTransaccion", .string msg.idTransaccion), ("valor", .object [("original", .string msg.original)]),
    ("pagador", msg.pagador.toValue), ("beneficiario", msg.beneficiario.toValue),
    ("llave", .string msg.llave),
    ("tipoLlave", JsValue.ofText? (msg.tipoLlave.map fun t => js t.name)),
    ("concepto", JsValue.ofText? msg.concepto), ("fechaHora", JsValue.ofText? msg.fechaHora)]

/-! ### What a message becomes -/

section

variable {engine : Engine} {fresh fresh' : Fresh} {msg : BreBPaymentRequest} {paymentId : Text}
  {traceId : Option Text} {c : CanonicalPacs008}

/-- The identifier of a party, which may be `fallback`. -/
def BreBParty.partyId (party : BreBParty) (fallback : Text) : Text :=
  party.nit.getD (party.cc.getD (party.numeroCuenta.getD fallback))

/-- What a party becomes. -/
def brebPartyFields (party : BreBParty) (fallback : Text) : List (String × JsValue) :=
  [("name", .string (party.nombre.substring 140)), ("country", .string (js "CO")),
    ("account_id", .string (party.codigoEntidad ++ ascii '/' :: party.partyId fallback)),
    ("taxId", JsValue.ofText? (party.nit.or party.cc)),
    ("accountType", .string (js (party.tipoCuenta.getD .cacc).name))]

theorem brebPartyId_toValue (party : BreBParty) (fallback : Text) :
    brebPartyId party.toValue (.string fallback) = some (.string (party.partyId fallback)) := by
  rw [brebPartyId]
  iterate 3 refine Option.bind_eq_some_iff.mpr ⟨_, rfl, ?_⟩
  change some ((JsValue.ofText? party.nit).nullish ((JsValue.ofText? party.cc).nullish
    ((JsValue.ofText? party.numeroCuenta).nullish (.string fallback)))) = _
  rw [JsValue.nullish_ofText?, JsValue.nullish_ofText?, JsValue.nullish_ofText?, BreBParty.partyId]

theorem brebParty_toValue (party : BreBParty) (fallback : Text) :
    brebParty party.toValue (.string fallback) = some (.object (brebPartyFields party fallback)) := by
  have htax : (JsValue.ofText? party.nit).nullish (JsValue.ofText? party.cc) =
      JsValue.ofText? (party.nit.or party.cc) := by
    cases party.nit <;> rfl
  have htype : (JsValue.ofText? (party.tipoCuenta.map fun t => js t.name)).nullish
      (.string (js "CACC")) = .string (js (party.tipoCuenta.getD .cacc).name) := by
    cases party.tipoCuenta <;> rfl
  rw [brebParty]
  refine Option.bind_eq_some_iff.mpr ⟨_, brebPartyId_toValue party fallback, ?_⟩
  iterate 3 refine Option.bind_eq_some_iff.mpr ⟨_, rfl, ?_⟩
  refine Option.bind_eq_some_iff.mpr ⟨_, JsValue.toText_string _, ?_⟩
  refine Option.bind_eq_some_iff.mpr ⟨_, JsValue.toText_string _, ?_⟩
  iterate 3 refine Option.bind_eq_some_iff.mpr ⟨_, rfl, ?_⟩
  rw [brebPartyFields, ← htax, ← htype]
  rfl

/-- The type of a message's key, which the decoder infers where there is none. -/
def brebKeyType (msg : BreBPaymentRequest) : BreBKeyType :=
  msg.tipoLlave.getD (inferTipoLlave msg.llave)

theorem tipoLlaveOf_toValue :
    tipoLlaveOf (JsValue.ofText? (msg.tipoLlave.map fun t => js t.name)) (.string msg.llave) =
      some (.string (js (brebKeyType msg).name)) := by
  unfold brebKeyType
  cases msg.tipoLlave with
  | none => simp [tipoLlaveOf, JsValue.ofText?, JsValue.isNullish, inferTipoLlaveOf]
  | some t => rfl

/-- What a native message becomes. -/
def brebNativeFields (fresh : Fresh) (msg : BreBPaymentRequest) (paymentId : Text)
    (traceId : Option Text) : List (String × JsValue) :=
  let createdAt := JsValue.string (msg.fechaHora.getD fresh.now.1)
  [("payment_id", .string paymentId),
    ("created_at", createdAt),
    ("grpHdr", .object
      [("msgId", .string msg.idTransaccion), ("creDtTm", createdAt), ("nbOfTxs", .number (.fin 1)),
        ("sttlmInf", .object [("sttlmMtd", .string (js "CLRG"))])]),
    ("pmtId", .object [("endToEndId", .string (msg.idTransaccion.substring 35))]),
    ("amount", .object
      [("value", .number (parseFloat msg.original)), ("currency", .string (js "COP"))]),
    ("origin", .object
      [("rail", .string (js Rail.breB.name)), ("ispb", .string msg.pagador.codigoEntidad)]),
    ("destination", .object
      [("rail", .undefined), ("ispb", .string msg.beneficiario.codigoEntidad)]),
    ("debtor", .object (brebPartyFields msg.pagador (js "UNKNOWN"))),
    ("creditor", .object (brebPartyFields msg.beneficiario msg.llave)),
    ("alias", .object [("type", .string (js AliasType.llaveBreb.name)), ("value", .string msg.llave)]),
    ("purpose", .string (if (JsValue.string (js (brebKeyType msg).name)).isText (js "NIT") then
      js "SUPP" else js "P2P")),
    ("reference", .string msg.idTransaccion),
    ("remittanceInfo", JsValue.ofText? (msg.concepto.map fun concepto => concepto.substring 140)),
    ("status", .string (js "RECEIVED")),
    ("trace_id", JsValue.ofText? traceId)]

theorem brebNativeObject_toValue :
    brebNativeObject fresh msg.toValue paymentId traceId =
      some (.object (brebNativeFields fresh msg paymentId traceId)) := by
  rw [brebNativeObject]
  iterate 2 refine Option.bind_eq_some_iff.mpr ⟨_, rfl, ?_⟩
  refine Option.bind_eq_some_iff.mpr ⟨_, JsValue.parseFloat_string _, ?_⟩
  iterate 2 refine Option.bind_eq_some_iff.mpr ⟨_, rfl, ?_⟩
  refine Option.bind_eq_some_iff.mpr ⟨_, tipoLlaveOf_toValue, ?_⟩
  iterate 7 refine Option.bind_eq_some_iff.mpr ⟨_, rfl, ?_⟩
  refine Option.bind_eq_some_iff.mpr ⟨_, brebParty_toValue msg.pagador (js "UNKNOWN"), ?_⟩
  refine Option.bind_eq_some_iff.mpr ⟨_, brebParty_toValue msg.beneficiario msg.llave, ?_⟩
  refine Option.bind_eq_some_iff.mpr ⟨_, rfl, ?_⟩
  refine Option.bind_eq_some_iff.mpr ⟨_, JsValue.substring_ofText? 140 msg.concepto, ?_⟩
  rw [brebNativeFields, ← JsValue.nullish_ofText?]
  rfl

/-- What the fields of an accepted message's canonical message are. -/
structure BreBDecoded (msg : BreBPaymentRequest) (c : CanonicalPacs008) : Prop where
  amount : c.amount.value = parseFloat msg.original
  isPositive : c.amount.value.isPositive = true
  createdAt : ∀ fechaHora ∈ msg.fechaHora, c.createdAt.1 = fechaHora
  origin : c.origin.ispb = some msg.pagador.codigoEntidad
  destination : c.destination.ispb = some msg.beneficiario.codigoEntidad
  debtorName : c.debtor.name = some (msg.pagador.nombre.substring 140)
  debtorAccount : c.debtor.accountId =
    msg.pagador.codigoEntidad ++ ascii '/' :: msg.pagador.partyId (js "UNKNOWN")
  debtorTaxId : c.debtor.taxId = msg.pagador.nit.or msg.pagador.cc
  debtorAccountType : c.debtor.accountType = some (msg.pagador.tipoCuenta.getD .cacc)
  creditorName : c.creditor.name = some (msg.beneficiario.nombre.substring 140)
  creditorAccount : c.creditor.accountId =
    msg.beneficiario.codigoEntidad ++ ascii '/' :: msg.beneficiario.partyId msg.llave
  creditorTaxId : c.creditor.taxId = msg.beneficiario.nit.or msg.beneficiario.cc
  creditorAccountType : c.creditor.accountType = some (msg.beneficiario.tipoCuenta.getD .cacc)
  aliasType : c.alias.type = .llaveBreb
  aliasValue : c.alias.value = msg.llave
  remittanceInfo : c.remittanceInfo = msg.concepto.map fun concepto => concepto.substring 140

theorem accountType_of_holds {party : BreBParty} {fallback : Text} {p : Party}
    (h : p.Holds (brebPartyFields party fallback)) :
    p.accountType = some (party.tipoCuenta.getD .cacc) := by
  have htype := h.accountType
  simp only [Schema.field, brebPartyFields, JsValue.field_cons, String.reduceEq, ↓reduceIte,
    Schema.optional_string, Schema.enumeration_string, js_inj, accountTypeNames_find,
    Option.map_some] at htype
  exact (Option.some.inj htype).symm

/-- **An accepted native message** becomes the canonical message of its object. -/
theorem brebToCanonical_toValue
    (h : brebToCanonical engine fresh msg.toValue paymentId traceId = .ok c) : BreBDecoded msg c := by
  have hnative : isNativeBrebPayload msg.toValue = some true := by
    simp [isNativeBrebPayload, BreBPaymentRequest.toValue, JsValue.has]
  rw [brebToCanonical, brebObject, hnative, Option.bind_eq_bind, Option.bind_some, if_pos rfl,
    brebNativeObject_toValue] at h
  have d := decoded_object_eq_ok.mp h
  have hamount := d.amount_holds rfl
  have horigin := d.origin_holds rfl
  have hdestination := d.destination_holds rfl
  have hdebtor := d.debtor_holds rfl
  have hcreditor := d.creditor_holds rfl
  have halias := d.alias_holds rfl
  constructor
  · simpa using hamount.value.symm
  · exact hamount.isPositive
  · intro fechaHora hmem
    have hcreatedAt := d.createdAt_holds
    simp only [brebNativeFields, JsValue.field_cons, String.reduceEq, ↓reduceIte,
      Option.mem_def.mp hmem, Option.getD_some] at hcreatedAt
    exact (JsValue.string.inj hcreatedAt).symm
  · simpa using horigin.ispb
  · simpa using hdestination.ispb
  · simpa [brebPartyFields] using hdebtor.name
  · simpa [brebPartyFields] using hdebtor.accountId.symm
  · simpa [brebPartyFields] using hdebtor.taxId.symm
  · exact accountType_of_holds hdebtor
  · simpa [brebPartyFields] using hcreditor.name
  · simpa [brebPartyFields] using hcreditor.accountId.symm
  · simpa [brebPartyFields] using hcreditor.taxId.symm
  · exact accountType_of_holds hcreditor
  · have htype := halias.type
    simp only [Schema.field, JsValue.field_cons, ↓reduceIte, Schema.enumeration_string, js_inj,
      aliasTypeNames_find, Option.map_some] at htype
    exact (Option.some.inj htype).symm
  · simpa using halias.value.symm
  · have hinfo := d.remittanceInfo_holds
    simpa [brebNativeFields] using hinfo.symm

/-! ### There and back -/

/-- A party of the format, which at most one number identifies. -/
structure BreBParty.Regular (party : BreBParty) : Prop where
  codigoEntidad : party.codigoEntidad.length = 8 ∧ isDigits party.codigoEntidad = true
  nombre : party.nombre.length ≤ 140
  identified : party.nit = none ∨ party.cc = none
  nit : ∀ nit ∈ party.nit, nit.includes (ascii '-') = true
  cc : ∀ cc ∈ party.cc, cc.includes (ascii '-') = false

/-- A message of the format. -/
structure BreBPaymentRequest.Regular (msg : BreBPaymentRequest) : Prop where
  original : IsFixedText 2 msg.original
  pagador : msg.pagador.Regular
  beneficiario : msg.beneficiario.Regular
  concepto : ∃ concepto, msg.concepto = some concepto ∧ 1 ≤ concepto.length ∧ concepto.length ≤ 140
  fechaHora : msg.fechaHora.isSome = true
  llave : msg.llave.startsWith (js "BREB-") = false

/-- A party and its second version. -/
structure BreBParty.Kept (party party' : BreBParty) : Prop where
  codigoEntidad : party'.codigoEntidad = party.codigoEntidad
  nombre : party'.nombre = party.nombre
  nit : party'.nit = party.nit
  cc : party'.cc = party.cc
  numeroCuenta : ∀ numeroCuenta ∈ party.numeroCuenta, party.nit = none → party.cc = none →
    party'.numeroCuenta = some numeroCuenta
  tipoCuenta : party'.tipoCuenta = some (party.tipoCuenta.getD .cacc)

/-- A message and its second version. -/
structure BreBKept (msg msg' : BreBPaymentRequest) : Prop where
  original : msg'.original = msg.original
  pagador : msg.pagador.Kept msg'.pagador
  beneficiario : msg.beneficiario.Kept msg'.beneficiario
  llave : msg'.llave = msg.llave
  concepto : msg'.concepto = msg.concepto
  fechaHora : msg'.fechaHora = msg.fechaHora

/-- The account behind the code of an institution. -/
theorem accountOf_append {codigo : Text} (h : isDigits codigo = true) (account : Text) :
    accountOf (codigo ++ ascii '/' :: account) = account := by
  rw [accountOf_eq, Text.afterFirst_append _ (slash_notMem h), Option.getD_some]

/-- A party that the encoder makes of the parts of a regular one. -/
theorem BreBParty.kept_of_decoded {party : BreBParty} (h : party.Regular) (hcc : party.cc ≠ some [])
    {p : Party} {defaultName fallback : Text}
    (hname : p.name = some (party.nombre.substring 140))
    (haccount : p.accountId = party.codigoEntidad ++ ascii '/' :: party.partyId fallback)
    (htaxId : p.taxId = party.nit.or party.cc)
    (htype : p.accountType = some (party.tipoCuenta.getD .cacc)) :
    party.Kept (brebPartyOf party.codigoEntidad defaultName p) where
  codigoEntidad := rfl
  nombre := by
    change (p.name.getD defaultName).substring 140 = _
    rw [hname, Option.getD_some, Text.substring, Text.substring, List.take_take, min_self,
      List.take_of_length_le h.nombre]
  nit := by
    change p.taxId.filter (fun taxId : Text => Text.includes taxId (ascii '-')) = _
    rw [htaxId]
    cases hnit : party.nit with
    | some nit => simp [h.nit nit hnit]
    | none =>
      rw [Option.none_or]
      cases hcc' : party.cc with
      | some cc => simp [h.cc cc hcc']
      | none => rfl
  cc := by
    change p.taxId.filter
      (fun taxId : Text => decide (taxId ≠ []) && !Text.includes taxId (ascii '-')) = _
    rw [htaxId]
    cases hnit : party.nit with
    | some nit =>
      have hnone : party.cc = none := by simpa [hnit] using h.identified
      simp [hnone, h.nit nit hnit]
    | none =>
      rw [Option.none_or]
      cases hcc' : party.cc with
      | some cc =>
        have hne : cc ≠ [] := fun hnil => hcc (by rw [hcc', hnil])
        simp [hne, h.cc cc hcc']
      | none => rfl
  numeroCuenta := by
    intro numeroCuenta hmem hnit hcc'
    change some (accountOf p.accountId) = some numeroCuenta
    rw [haccount, accountOf_append h.codigoEntidad.2, BreBParty.partyId, hnit, hcc',
      Option.mem_def.mp hmem, Option.getD_none, Option.getD_none, Option.getD_some]
  tipoCuenta := by
    change some (p.accountType.getD .cacc) = _
    rw [htype, Option.getD_some]

/-- **Bre-B keeps a message there and back**, where no personal number is empty and the amount is
below `1e21`. -/
theorem breb_kept (h : brebToCanonical engine fresh msg.toValue paymentId traceId = .ok c)
    (hregular : msg.Regular) (hpagador : msg.pagador.cc ≠ some [])
    (hbeneficiario : msg.beneficiario.cc ≠ some [])
    (hamount : ∀ q, parseFloat msg.original = .fin q → q < 10 ^ 21) :
    BreBKept msg (canonicalToBreb engine fresh' c) := by
  have d := brebToCanonical_toValue h
  obtain ⟨concepto, hconcepto, -, hlength⟩ := hregular.concepto
  obtain ⟨fechaHora, hfechaHora⟩ := Option.isSome_iff_exists.mp hregular.fechaHora
  constructor
  · change c.amount.value.toFixed 2 = msg.original
    obtain ⟨q, hread⟩ := parseFloat_of_isFixedText hregular.original (by decide)
    have hpositive := d.isPositive
    rw [d.amount, hread, Number.isPositive_fin, decide_eq_true_eq] at hpositive
    rw [d.amount, hread]
    exact toFixed_parseFloat hregular.original (by decide) hread hpositive (hamount q hread)
  · change msg.pagador.Kept (brebPartyOf (c.origin.ispb.getD fintechSimulated) _ c.debtor)
    rw [d.origin, Option.getD_some]
    exact BreBParty.kept_of_decoded hregular.pagador hpagador d.debtorName d.debtorAccount
      d.debtorTaxId d.debtorAccountType
  · change msg.beneficiario.Kept (brebPartyOf (c.destination.ispb.getD fintechSimulated) _ c.creditor)
    rw [d.destination, Option.getD_some]
    exact BreBParty.kept_of_decoded hregular.beneficiario hbeneficiario d.creditorName
      d.creditorAccount d.creditorTaxId d.creditorAccountType
  · change Text.stripPrefix (js "BREB-") (rawLlave c) = _
    rw [rawLlave, if_pos d.aliasType, d.aliasValue, Text.stripPrefix_of_not hregular.llave]
  · change some ((c.remittanceInfo.getD c.reference).substring 140) = _
    rw [d.remittanceInfo, hconcepto, Option.map_some, Option.getD_some, Text.substring,
      Text.substring, List.take_take, min_self, List.take_of_length_le hlength]
  · change some c.createdAt.1 = _
    rw [hfechaHora, d.createdAt fechaHora hfechaHora]

end

/-! ### Three messages -/

namespace Example

/-- Half a million pesos, from an account to a taxpayer. -/
def transfer : BreBPaymentRequest where
  idTransaccion := js "BREB26264220"
  original := js "500000.00"
  pagador := ⟨js "26264220", js "Carlos", none, none, some (js "12345/67890"), some .svgs⟩
  beneficiario := ⟨js "00000007", js "Ana", some (js "800987654-3"), none, none, none⟩
  llave := js "+573001234567"
  tipoLlave := some .telefono
  concepto := some (js "Pago de prueba")
  fechaHora := some (js "2023-06-01T12:00:00.000Z")

/-- The same from someone whose personal number is the empty text. -/
def unnumbered : BreBPaymentRequest :=
  { transfer with pagador := { transfer.pagador with cc := some [] } }

/-- The same with as many pesos as `String` writes with an exponent. -/
def enormous : BreBPaymentRequest := { transfer with original := js "1000000000000000000000.00" }

theorem regular_transfer : transfer.Regular where
  original := ⟨js "500000", js "00", by decide, by decide, by decide, by decide,
    Or.inr ⟨ascii '5', js "00000", by decide, by decide⟩⟩
  pagador := ⟨by decide, by decide, by decide, by simp [transfer], by simp [transfer]⟩
  beneficiario := ⟨by decide, by decide, by decide, by decide, by simp [transfer]⟩
  concepto := ⟨_, rfl, by decide, by decide⟩
  fechaHora := by decide
  llave := by decide

theorem regular_unnumbered : unnumbered.Regular :=
  { regular_transfer with
    pagador := ⟨by decide, by decide, by decide, by simp [unnumbered, transfer], by decide⟩ }

theorem regular_enormous : enormous.Regular :=
  { regular_transfer with
    original := ⟨js "1000000000000000000000", js "00", by decide, by decide, by decide, by decide,
      Or.inr ⟨ascii '1', js "000000000000000000000", by decide, by decide⟩⟩ }

theorem isOk_breb :
    (brebToCanonical passage.engine fresh transfer.toValue (paymentIdOf Pipeline.Example.ulid)
        none).isOk = true ∧
      (brebToCanonical passage.engine fresh unnumbered.toValue (paymentIdOf Pipeline.Example.ulid)
        none).isOk = true ∧
      (brebToCanonical passage.engine fresh enormous.toValue (paymentIdOf Pipeline.Example.ulid)
        none).isOk = true := by
  decide +kernel

theorem accepted_transfer :
    ∃ c, brebToCanonical passage.engine fresh transfer.toValue (paymentIdOf Pipeline.Example.ulid)
      none = .ok c :=
  exists_of_isOk isOk_breb.1

theorem accepted_unnumbered :
    ∃ c, brebToCanonical passage.engine fresh unnumbered.toValue
      (paymentIdOf Pipeline.Example.ulid) none = .ok c :=
  exists_of_isOk isOk_breb.2.1

theorem accepted_enormous :
    ∃ c, brebToCanonical passage.engine fresh enormous.toValue (paymentIdOf Pipeline.Example.ulid)
      none = .ok c :=
  exists_of_isOk isOk_breb.2.2

end Example

theorem breb_kept_transfer :
    ∃ c, brebToCanonical Example.passage.engine Example.fresh Example.transfer.toValue
        (paymentIdOf Pipeline.Example.ulid) none = .ok c ∧
      BreBKept Example.transfer (canonicalToBreb Example.passage.engine Example.fresh c) := by
  obtain ⟨c, hc⟩ := Example.accepted_transfer
  have hread : parseFloat Example.transfer.original = .fin 500000 := by decide +kernel
  refine ⟨c, hc, breb_kept hc Example.regular_transfer (by decide) (by decide) fun q hq => ?_⟩
  rw [← Number.fin.inj (hread.symm.trans hq)]
  norm_num

/-- An empty personal number does not come back, and `1e21` pesos come back with an exponent. -/
theorem breb_changed :
    (Example.unnumbered.Regular ∧
      ∃ c, brebToCanonical Example.passage.engine Example.fresh Example.unnumbered.toValue
          (paymentIdOf Pipeline.Example.ulid) none = .ok c ∧
        ¬ BreBKept Example.unnumbered (canonicalToBreb Example.passage.engine Example.fresh c)) ∧
    (Example.enormous.Regular ∧
      ∃ c, brebToCanonical Example.passage.engine Example.fresh Example.enormous.toValue
          (paymentIdOf Pipeline.Example.ulid) none = .ok c ∧
        ¬ BreBKept Example.enormous (canonicalToBreb Example.passage.engine Example.fresh c)) := by
  constructor
  · obtain ⟨c, hc⟩ := Example.accepted_unnumbered
    refine ⟨Example.regular_unnumbered, c, hc, fun hkept => ?_⟩
    have hcc := hkept.pagador.cc
    change c.debtor.taxId.filter
      (fun taxId : Text => decide (taxId ≠ []) && !Text.includes taxId (ascii '-')) = some [] at hcc
    rw [(brebToCanonical_toValue hc).debtorTaxId] at hcc
    revert hcc
    decide +kernel
  · obtain ⟨c, hc⟩ := Example.accepted_enormous
    refine ⟨Example.regular_enormous, c, hc, fun hkept => ?_⟩
    have horiginal := hkept.original
    change c.amount.value.toFixed 2 = Example.enormous.original at horiginal
    rw [(brebToCanonical_toValue hc).amount] at horiginal
    revert horiginal
    decide +kernel

end MipitCore.Translation
