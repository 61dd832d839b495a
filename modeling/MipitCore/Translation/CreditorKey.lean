import MipitCore.Normalization.Normalizer
import MipitCore.Pipeline.Execute
import MipitCore.Translation.BreB
import MipitCore.Translation.PixSpei

/-!
# The creditor's key from rail to rail

A request names the creditor by a rail's prefix and a key. The decoder that runs is that
of the debtor's rail, and drops its own prefix; the encoder that runs is that of the
creditor's rail, and expects a key without one. Where the two rails differ the prefix
stays, except that the encoder of Bre-B drops it again. It takes the key from the account
then, up to a slash (`carriedKey_iff`).

## Main definitions

* `toCanonical`, `toRail` — the translator, for the rails of requests
* `carriedKey` — the creditor's key in the payload for its rail
* `KeyKept`

## Main results

* `keyOf_iff` — the key in each of the nine cases
* `carriedKey_iff`
-/

namespace MipitCore.Translation

open Js Api
open CodeUnit (ascii)

/-- The rows of `mapping_table` for a rail; `none` where loading them throws. -/
abbrev MappingTable := Rail → Option (List MappingEntry)

/-- What the three encoders emit. -/
inductive Outbound
  | pix (payload : PixOutboundPayload)
  | spei (payload : SpeiOutboundPayload)
  | breb (payload : BreBPaymentRequest)

/-- The creditor's key of a payload. -/
def Outbound.creditorKey : Outbound → Text
  | pix payload => payload.pixKey
  | spei payload => payload.clabe
  | breb payload => payload.llave

/-- `Translator.fromCanonical` for these rails. -/
def toRail (engine : Engine) (fresh : Fresh) (rail : AliasPrefix) (c : CanonicalPacs008) : Outbound :=
  match rail with
  | .pix => .pix (canonicalToPix c)
  | .spei => .spei (canonicalToSpei c)
  | .breb => .breb (canonicalToBreb engine fresh c)

/-- What one payment draws and is answered on its way: the two translations, the normalization and
the exchange rates. -/
structure Passage where
  engine : Engine
  table : MappingTable
  decoding : Fresh
  encoding : Fresh
  runtime : Normalization.Runtime
  fx : Normalization.FxService
  paymentUlid : Ulid
  traceId : Option Text
  /-- The decoders of the rails that no request comes from. -/
  otherDecoder : Rail → JsValue → Text → Option Text → Except Failure CanonicalPacs008

/-- `Translator.toCanonical` -/
def toCanonical (passage : Passage) (rail : Rail) (payload : JsValue) :
    Except Failure CanonicalPacs008 :=
  let paymentId := paymentIdOf passage.paymentUlid
  match rail with
  | .pix =>
    pixToCanonical passage.engine passage.decoding ((passage.table .pix).map loadMappings) payload
      paymentId passage.traceId
  | .spei =>
    speiToCanonical passage.engine passage.decoding ((passage.table .spei).map loadMappings) payload
      paymentId passage.traceId
  | .breB => brebToCanonical passage.engine passage.decoding payload paymentId passage.traceId
  | rail => passage.otherDecoder rail payload paymentId passage.traceId

/-- The creditor's key in the payload that a request becomes for `rail`. -/
def carriedKey (passage : Passage) (request : CreatePaymentRequest) (rail : AliasPrefix) :
    Except Failure Text := do
  let originRail ← Pipeline.inferRail request.debtor.alias.1
  let canonical ← toCanonical passage originRail request.toValue
  let normalized := Normalization.normalize passage.runtime passage.fx canonical
  return (toRail passage.engine passage.encoding rail normalized).creditorKey

/-- Which keys come through. -/
def KeyKept (origin rail : AliasPrefix) (key : Text) : Prop :=
  match origin, rail with
  | .pix, .pix => True
  | .pix, .breb | .spei, .breb => key.includes (ascii '/') = false
  | .breb, .breb => key.startsWith (js "BREB-") = false
  | _, _ => False

section

variable {passage : Passage} {request : CreatePaymentRequest} {origin rail : AliasPrefix}
  {key : Text}

/-- The alias of the canonical message that a request becomes. -/
def requestAlias (origin : AliasPrefix) (creditorAlias : Text) : Alias :=
  match origin with
  | .pix => ⟨.pixKey, Text.stripPrefix (js "PIX-") creditorAlias⟩
  | .spei => ⟨.clabe, Text.stripPrefix (js "CLABE-") creditorAlias⟩
  | .breb => ⟨.llaveBreb, Text.stripPrefix (js "BREB-") creditorAlias⟩

theorem loadMappings_inactive {entries : List MappingEntry} (h : ∀ e ∈ entries, e.isActive = false) :
    loadMappings entries = [] := by
  induction entries with
  | nil => rfl
  | cons e entries ih =>
    rw [loadMappings, List.foldl_cons, h e List.mem_cons_self]
    exact ih fun e' he' => h e' (List.mem_cons_of_mem _ he')

theorem isNativePixPayload_toValue (r : CreatePaymentRequest) :
    isNativePixPayload r.toValue = some false := by
  simp [isNativePixPayload, CreatePaymentRequest.toValue, JsValue.has]

/-- A validated request is translated exactly if its currency has three letters in upper case. The
creditor's alias stays as the account. -/
theorem toCanonical_request
    (htable : ∀ rail, ∃ rows, passage.table rail = some rows ∧ ∀ e ∈ rows, e.isActive = false)
    (origin : AliasPrefix) (request : CreatePaymentRequest) :
    ((passage.engine.toUpperCase request.currency.1).length = 3 ∧
      ∃ c, toCanonical passage origin.rail request.toValue = .ok c ∧
        c.alias = requestAlias origin request.creditor.alias.1 ∧
        c.creditor.accountId = request.creditor.alias.1) ∨
    ((passage.engine.toUpperCase request.currency.1).length ≠ 3 ∧
      ∃ e, toCanonical passage origin.rail request.toValue = .error e) := by
  have hid := isPaymentId_paymentIdOf passage.paymentUlid
  have hload : ∀ rail, (passage.table rail).map loadMappings = some [] := by
    intro rail
    obtain ⟨rows, hrows, hinactive⟩ := htable rail
    rw [hrows, Option.map_some, loadMappings_inactive hinactive]
  cases origin with
  | pix =>
    -- a request has none of the properties that the native branch looks for
    simp only [toCanonical, AliasPrefix.rail, hload, pixToCanonical, isNativePixPayload_toValue]
    rw [decodeRequest_nil ⟨rfl, rfl⟩ hid]
    split_ifs with hcurrency
    · exact Or.inl ⟨hcurrency, _, rfl, rfl, rfl⟩
    · exact Or.inr ⟨hcurrency, _, rfl⟩
  | spei =>
    simp only [toCanonical, AliasPrefix.rail, hload, speiToCanonical]
    rw [decodeRequest_nil ⟨rfl, rfl⟩ hid]
    split_ifs with hcurrency
    · exact Or.inl ⟨hcurrency, _, rfl, rfl, rfl⟩
    · exact Or.inr ⟨hcurrency, _, rfl⟩
  | breb =>
    -- which reads no mappings
    simp only [toCanonical, AliasPrefix.rail]
    rw [brebToCanonical_request hid]
    split_ifs with hcurrency
    · exact Or.inl ⟨hcurrency, _, rfl, rfl, rfl⟩
    · exact Or.inr ⟨hcurrency, _, rfl⟩

/-- The creditor's key that an encoder takes from an alias and an account. -/
def keyOf (rail : AliasPrefix) (alias' : Alias) (accountId : Text) : Text :=
  match rail with
  | .pix | .spei => alias'.value
  | .breb =>
    Text.stripPrefix (js "BREB-")
      (if alias'.type = .llaveBreb then alias'.value else accountOf accountId)

/-- Normalization leaves the key alone. -/
theorem creditorKey_toRail (passage : Passage) (rail : AliasPrefix) (c : CanonicalPacs008) :
    (toRail passage.engine passage.encoding rail
      (Normalization.normalize passage.runtime passage.fx c)).creditorKey =
        keyOf rail c.alias c.creditor.accountId := by
  rw [Normalization.normalize_eq]
  cases rail <;> rfl

/-- The account of an alias without a slash is all of it, and otherwise less than its key. -/
theorem keyOf_account (key : Text) :
    Text.stripPrefix (js "BREB-") (accountOf (js "BREB-" ++ key)) = key ↔
      key.includes (ascii '/') = false := by
  have hafter : Text.afterFirst (ascii '/') (js "BREB-" ++ key) = Text.afterFirst (ascii '/') key := by
    simp [js, unitsOf, Text.afterFirst, ascii]
  rw [accountOf_eq, hafter]
  cases hkey : Text.afterFirst (ascii '/') key with
  | none =>
    simp [Text.afterFirst_eq_none_iff.mp hkey]
  | some rest =>
    have hincludes : key.includes (ascii '/') = true := by
      rw [← Bool.not_eq_false, ← Text.afterFirst_eq_none_iff, hkey]
      exact Option.some_ne_none rest
    rw [Option.getD_some, hincludes]
    constructor
    · intro heq
      have hshorter := Text.length_afterFirst hkey
      have hstripped := Text.length_stripPrefix_le (js "BREB-") rest
      rw [heq] at hstripped
      omega
    · intro h
      cases h

/-- A decoder that drops another prefix keeps this one. -/
theorem stripPrefix_other (dropped : Text) (kept : AliasPrefix)
    (h : (kept.text ++ key).startsWith dropped = false) :
    Text.stripPrefix dropped (kept.text ++ key) ≠ key := by
  rw [Text.stripPrefix_of_not h]
  intro heq
  have hkept : kept.text = [] := List.append_left_eq_self.mp heq
  cases kept <;> cases hkept

/-- **The key in each of the nine cases.** -/
theorem keyOf_iff :
    keyOf rail (requestAlias origin (rail.text ++ key)) (rail.text ++ key) = key ↔
      KeyKept origin rail key := by
  cases origin with
  | pix =>
    cases rail with
    | pix =>
      have hkey : Text.stripPrefix (js "PIX-") (js "PIX-" ++ key) = key :=
        Text.stripPrefix_append _ _
      exact iff_of_true hkey trivial
    | spei => exact iff_of_false (stripPrefix_other (js "PIX-") .spei rfl) id
    | breb => exact keyOf_account key
  | spei =>
    cases rail with
    | pix => exact iff_of_false (stripPrefix_other (js "CLABE-") .pix rfl) id
    | spei => exact iff_of_false (stripPrefix_other (js "CLABE-") .spei rfl) id
    | breb => exact keyOf_account key
  | breb =>
    cases rail with
    | pix => exact iff_of_false (stripPrefix_other (js "BREB-") .pix rfl) id
    | spei => exact iff_of_false (stripPrefix_other (js "BREB-") .spei rfl) id
    | breb =>
      -- the decoder and the encoder both drop the prefix
      change Text.stripPrefix (js "BREB-") (Text.stripPrefix (js "BREB-") (js "BREB-" ++ key)) = key ↔ _
      rw [Text.stripPrefix_append]
      exact Text.stripPrefix_eq_self_iff (by decide)

/-- **The creditor's key is carried end to end** exactly for the keys and rails of `KeyKept`, where
the currency has three letters in upper case. -/
theorem carriedKey_iff
    (htable : ∀ rail, ∃ rows, passage.table rail = some rows ∧ ∀ e ∈ rows, e.isActive = false)
    (horigin : Pipeline.inferRail request.debtor.alias.1 = .ok origin.rail)
    (hcreditor : request.creditor.alias.1 = rail.text ++ key) :
    carriedKey passage request rail = .ok key ↔
      (passage.engine.toUpperCase request.currency.1).length = 3 ∧ KeyKept origin rail key := by
  rw [carriedKey, horigin]
  rcases toCanonical_request htable origin request with
    ⟨hcurrency, c, hc, halias, haccount⟩ | ⟨hcurrency, e, he⟩
  · have hkey := creditorKey_toRail passage rail c
    rw [halias, haccount, hcreditor] at hkey
    change (do
      let canonical ← toCanonical passage origin.rail request.toValue
      return (toRail passage.engine passage.encoding rail
        (Normalization.normalize passage.runtime passage.fx canonical)).creditorKey) = .ok key ↔ _
    rw [hc]
    change Except.ok _ = Except.ok key ↔ _
    rw [Except.ok.injEq, hkey, keyOf_iff]
    exact (and_iff_right hcurrency).symm
  · change (do
      let canonical ← toCanonical passage origin.rail request.toValue
      return (toRail passage.engine passage.encoding rail
        (Normalization.normalize passage.runtime passage.fx canonical)).creditorKey) = .ok key ↔ _
    rw [he]
    constructor
    · intro h
      cases h
    · intro h
      exact absurd h.1 hcurrency

end

/-! ### From PIX to SPEI -/

namespace Example

open Pipeline.Example (ulid datetime)

def fresh : Fresh where
  now := datetime
  later := datetime
  millis := 1773397800000
  msgUlid := ulid
  e2eUlid := ulid
  randomText := js "0.4fzyo82mvyr"
  randomNumber := 4711
  randomDigits _ := 7

def runtime : Normalization.Runtime where
  toCaseMapping := .ascii
  toISOString := some
  msgUlid := ulid
  e2eUlid := ulid

/-- Five pesos for each unit of any other currency. -/
def fx : Normalization.FxService where
  getRate _ _ := some (.fin 5)
  convert value _ _ := some (value.mul (.fin 5))

def passage : Passage where
  engine := ⟨.ascii, fun _ _ => none⟩
  table _ := some []
  decoding := fresh
  encoding := fresh
  runtime
  fx
  paymentUlid := ulid
  traceId := none
  otherDecoder _ _ _ _ := .error .typeError

def clabe : Text := js "032180000118359719"

/-- A customer of PIX pays into an account of SPEI. -/
def toSpei : CreatePaymentRequest :=
  { Pipeline.Example.request with creditor := ⟨⟨AliasPrefix.spei.text ++ clabe, by decide⟩, none⟩ }

end Example

/-- The account at SPEI keeps the prefix that only the request uses. -/
theorem carriedKey_toSpei :
    Pipeline.inferRail Example.toSpei.debtor.alias.1 = .ok .pix ∧
      Example.toSpei.creditor.alias.1 = AliasPrefix.spei.text ++ Example.clabe ∧
      carriedKey Example.passage Example.toSpei .spei ≠ .ok Example.clabe := by
  refine ⟨rfl, rfl, ?_⟩
  decide +kernel

theorem carriedKey_iff_toSpei :
    ¬ carriedKey Example.passage Example.toSpei .spei = .ok Example.clabe := by
  intro h
  have htable : ∀ rail, ∃ rows, Example.passage.table rail = some rows ∧
      ∀ e ∈ rows, e.isActive = false := fun _ => ⟨[], rfl, by simp⟩
  have horigin : Pipeline.inferRail Example.toSpei.debtor.alias.1 = .ok AliasPrefix.pix.rail := rfl
  exact ((carriedKey_iff htable horigin rfl).mp h).2

end MipitCore.Translation
