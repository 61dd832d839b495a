import MipitCore.Config.Constants
import MipitCore.Js.Schema

/-!
# Requests to create a payment

`createPaymentSchema` decodes the body of `POST /payments`. Its result carries what
was checked: a `CreatePaymentRequest` has a positive amount, a three-letter currency
and aliases with the prefix and key of one of the three rails that payments may
start from. The body as it is hashed and stored is `CreatePaymentRequest.toValue`.

## Main definitions

* `isValidCLABE`, `isValidBrebKey`, `validateAlias` — the checks of an alias
* `CreatePaymentRequest`, `createPaymentSchema`
* `CreatePaymentRequest.toValue`, `bodyText` — the body, and its JSON

## Main results

* `accepted_cases` — an accepted alias is a prefix and a key
* `bodyText_injective` — equal JSON means equal requests
-/

namespace MipitCore.Api

open Js
open CodeUnit (ascii isDigit)

/-- The sum of `clabe[i] * weights[i]`. -/
def weightedSum (clabe : Text) (weights : List ℕ) : ℕ :=
  ((clabe.zip weights).map fun d => digitValue d.1 * d.2).sum

/-- The CLABE check: 18 digits, the last of them the check digit. -/
def isValidCLABE (clabe : Text) : Bool :=
  clabe.length = 18 && isDigits clabe &&
    let weights := [3, 7, 1, 3, 7, 1, 3, 7, 1, 3, 7, 1, 3, 7, 1, 3, 7]
    digitsValue (clabe.drop 17) = (10 - weightedSum clabe weights % 10) % 10

/-- `/^\+57\d{10}$/` -/
def isValidColombiaPhone (phone : Text) : Bool :=
  phone.startsWith (js "+57") && (phone.drop 3).length = 10 && isDigits (phone.drop 3)

/-- `/^\d{9,10}-\d$/` -/
def isValidColombiaId (id : Text) : Bool :=
  let stem := id.takeWhile isDigit
  let rest := id.dropWhile isDigit
  (stem.length = 9 || stem.length = 10) && rest.length = 2 && rest.take 1 = js "-" &&
    isDigits (rest.drop 1)

/-- A Bre-B key: a phone, a NIT, an e-mail address, or an alias. -/
def isValidBrebKey (key : Text) : Bool :=
  if key.startsWith (js "+57") then isValidColombiaPhone key
  else if isDigits (key.take 1) && key ≠ [] && key.includes (ascii '-') then isValidColombiaId key
  else if key.includes (ascii '@') then key.includes (ascii '.') && 5 ≤ key.length
  else 3 ≤ key.length

/-- `validateAlias(alias, field)`: an error message where the source does not return `true`. -/
def validateAlias (field : String) (alias' : Text) : Except String Unit :=
  if alias' = [] then .error s!"{field} alias is required"
  else if alias'.startsWith (js "PIX-") then
    if 4 < alias'.length then .ok ()
    else .error s!"{field} PIX alias must have a key after the prefix"
  else if alias'.startsWith (js "SPEI-") then
    if isValidCLABE (alias'.drop 5) then .ok ()
    else .error s!"{field} SPEI alias must be a valid 18-digit CLABE (SPEI-XXXXXXXXXXXXXXXXXX)"
  else if alias'.startsWith (js "BREB-") then
    if isValidBrebKey (alias'.drop 5) then .ok ()
    else .error s!"{field} BREB alias must be a valid Colombia phone (+57XXXXXXXXXX), NIT, or email"
  else .error s!"{field} alias must start with PIX-, SPEI-, or BREB-"

/-- The aliases that `validateAlias` accepts for `field`. -/
abbrev AcceptedAlias (field : String) := {a : Text // (validateAlias field a).isOk = true}

/-- A party of a request. -/
structure PartyRequest (field : String) where
  «alias» : AcceptedAlias field
  name : Option (MaxText 140)
  deriving DecidableEq

/-- A request that `createPaymentSchema` accepted. -/
structure CreatePaymentRequest where
  amount : {n : Number // n.isPositive = true}
  currency : {s : Text // s.length = 3}
  debtor : PartyRequest "debtor"
  creditor : PartyRequest "creditor"
  purpose : MaxText 35
  reference : MaxText 140
  deriving DecidableEq

def partyRequestSchema (field : String) : Schema (PartyRequest field) := Schema.object fun o => do
  let alias' ← (Schema.string.refine fun a => (validateAlias field a).isOk = true).field "alias" o
  let name ← (Schema.maxText 140).optional.field "name" o
  return { «alias» := alias', name }

/-- `createPaymentSchema` -/
def createPaymentSchema : Schema CreatePaymentRequest := Schema.object fun o => do
  let amount ← (Schema.number.refine fun n => n.isPositive = true).field "amount" o
  let currency ← ((Schema.string.refine fun s => s.length = 3).default ⟨js "USD", by decide⟩).field
    "currency" o
  let debtor ← (partyRequestSchema "debtor").field "debtor" o
  let creditor ← (partyRequestSchema "creditor").field "creditor" o
  let purpose ← ((Schema.maxText 35).default ⟨js "P2P", by decide⟩).field "purpose" o
  let reference ← ((Schema.maxText 140).default ⟨js "MIPIT-POC", by decide⟩).field "reference" o
  return { amount, currency, debtor, creditor, purpose, reference }

/-! ### Aliases -/

/-- The three rails that an alias may name. -/
inductive AliasPrefix
  | pix | spei | breb
  deriving DecidableEq, Repr

/-- The prefix, with its dash. -/
def AliasPrefix.text : AliasPrefix → Text
  | pix => js "PIX-"
  | spei => js "SPEI-"
  | breb => js "BREB-"

/-- The rail that a prefix names. -/
def AliasPrefix.rail : AliasPrefix → Rail
  | pix => .pix
  | spei => .spei
  | breb => .breB

/-- An accepted alias is a prefix and a key. -/
theorem accepted_cases {field : String} {a : Text} (h : (validateAlias field a).isOk = true) :
    ∃ (P : AliasPrefix) (K : Text), a = P.text ++ K := by
  have key : ∀ P : AliasPrefix, a.startsWith P.text = true → ∃ K, a = P.text ++ K := fun P hP => by
    obtain ⟨K, hK⟩ := Text.startsWith_iff.mp hP
    exact ⟨K, hK.symm⟩
  unfold validateAlias at h
  split_ifs at h with h₀ h₁ h₂ h₃ h₄ h₅ h₆
  · cases h
  · exact ⟨.pix, key .pix h₁⟩
  · cases h
  · exact ⟨.spei, key .spei h₃⟩
  · cases h
  · exact ⟨.breb, key .breb h₅⟩
  · cases h
  · cases h

/-! ### The body as text -/

def PartyRequest.toValue {field : String} (p : PartyRequest field) : JsValue :=
  .object (("alias", .string p.alias.1) ::
    match p.name with
    | none => []
    | some name => [("name", .string name.1)])

/-- The parsed body, with its properties in the order of the schema. -/
def CreatePaymentRequest.toValue (r : CreatePaymentRequest) : JsValue :=
  .object [("amount", .number r.amount.1), ("currency", .string r.currency.1),
    ("debtor", r.debtor.toValue), ("creditor", r.creditor.toValue),
    ("purpose", .string r.purpose.1), ("reference", .string r.reference.1)]

/-- `JSON.stringify(body)` -/
def bodyText (r : CreatePaymentRequest) : Text := (stringify r.toValue).getD []

theorem PartyRequest.isPlain_toValue {field : String} (p : PartyRequest field) :
    p.toValue.isPlain = true := by
  obtain ⟨a, name⟩ := p
  cases name <;> rfl

theorem CreatePaymentRequest.isPlain_toValue (r : CreatePaymentRequest) :
    r.toValue.isPlain = true := by
  simp [CreatePaymentRequest.toValue, JsValue.isPlain, isPlainFields, r.amount.2,
    PartyRequest.isPlain_toValue]

theorem PartyRequest.toValue_injective {field : String} :
    Function.Injective (PartyRequest.toValue : PartyRequest field → JsValue) := by
  rintro ⟨a, name⟩ ⟨b, name'⟩ h
  have hfields := JsValue.object.inj h
  obtain ⟨ha, hname⟩ := List.cons.inj hfields
  have hab : a = b := Subtype.ext (JsValue.string.inj (Prod.mk.inj ha).2)
  cases name <;> cases name' <;> simp_all [Subtype.ext_iff]

theorem CreatePaymentRequest.toValue_injective : Function.Injective toValue := by
  intro r s h
  simp only [toValue, JsValue.object.injEq, List.cons.injEq, Prod.mk.injEq, true_and, and_true,
    JsValue.number.injEq, JsValue.string.injEq, ← Subtype.ext_iff,
    PartyRequest.toValue_injective.eq_iff] at h
  obtain ⟨hamount, hcurrency, hdebtor, hcreditor, hpurpose, hreference⟩ := h
  cases r
  cases s
  simp_all

/-- **Requests with the same JSON are equal.** -/
theorem bodyText_injective : Function.Injective bodyText := by
  intro r s h
  obtain ⟨text, htext⟩ := stringify_of_isPlain r.isPlain_toValue
  obtain ⟨text', htext'⟩ := stringify_of_isPlain s.isPlain_toValue
  have heq : text = text' := by simpa [bodyText, htext, htext'] using h
  refine CreatePaymentRequest.toValue_injective
    (stringify_injective r.isPlain_toValue s.isPlain_toValue ?_)
  rw [htext, htext', heq]

end MipitCore.Api
