import MipitCore.Domain.AliasPatterns
import MipitCore.Translation.Decoder

/-!
# SWIFT MT103

An MT103 is text: a block of fields, each of which starts with a tag between colons and
runs to the next tag. The decoder takes such a text, or the message that it stands for. The
encoder makes a message, and `serializeMt103` writes it without escaping anything.

## Main definitions

* `getField`, `parse32A`, `parseMt103` — `SwiftMt103Message` from text
* `swiftObject`, `swiftMt103ToCanonical`
* `canonicalToSwiftMt103`, `serializeMt103`

## Main results

* `amount_of_swiftObject` — the amount of a message
-/

namespace MipitCore.Translation

open Js
open CodeUnit (ascii isDigit isLetter isUpper isWhite)

/-! ### Fields -/

/-- A unit up to the case of ASCII letters, which are the letters of the tags. -/
def foldCase (c : CodeUnit) : CodeUnit := if CodeUnit.isLower c then c - 32 else c

/-- `:tag:` under the `i` flag. -/
def startsWithTag (tag : String) (s : Text) : Bool :=
  let pattern := ascii ':' :: (js tag ++ [ascii ':'])
  (s.take pattern.length).map foldCase = pattern

/-- `/:\d{2}[A-Z]?:/i` -/
def startsWithAnyTag : Text → Bool
  | colon :: d :: d' :: c :: s =>
    colon = ascii ':' && isDigit d && isDigit d' &&
      (c = ascii ':' || (isLetter c && s.head? = some (ascii ':')))
  | _ => false

/-- The end of a field, or of the block. -/
def endsField (s : Text) : Bool := startsWithAnyTag s || s.startsWith (js "-\x7d")

/-- `getField(tag)` -/
def getField (body : Text) (tag : String) : Option Text :=
  (Text.afterMatch (startsWithTag tag) ((js tag).length + 2) body).map fun s =>
    (Text.takeUntil endsField s).trim

/-- `getMultilineField(tag)` -/
def getMultilineField (body : Text) (tag : String) : List Text :=
  ((Text.split ((getField body tag).getD []) (ascii '\n')).map Text.trim).filter (· ≠ [])

/-- The text of the block that holds the fields, or all of the message where there is no such
block. -/
def messageBody (raw : Text) : Text :=
  match Text.afterMatch (fun s => s.startsWith (js "\x7b4:")) 3 raw with
  | none => raw
  | some rest =>
    let closes (s : Text) : Bool := s.startsWith (js "-\x7d")
    if (Text.afterMatch closes 2 rest).isSome then Text.takeUntil closes rest else raw

/-- `/^(\d{6})([A-Z]{3})([\d,]+)$/`: the value date, the currency, and the amount. -/
def parse32A (field : Text) : Option (Text × Text × Text) :=
  let date := field.take 6
  let currency := (field.drop 6).take 3
  let amount := field.drop 9
  if date.length = 6 && isDigits date && currency.length = 3 && currency.all isUpper &&
      amount ≠ [] && amount.all fun c => isDigit c || c = ascii ',' then
    some (date, currency, amount)
  else none

/-! ### Messages -/

/-- `orderingCustomer` and `beneficiaryCustomer` -/
structure SwiftCustomer where
  account : Option Text := none
  iban : Option Text := none
  bic : Option Text := none
  name : Option Text := none
  address : Option (List Text) := none
  deriving DecidableEq

/-- A message in parts, of which `parseMt103` finds some and `canonicalToSwiftMt103` sets others. -/
structure SwiftMt103Message where
  transactionRef : Text
  bankOperationCode : Text
  valueDate : Text
  currency : Text
  amount : Number
  orderingCustomer : SwiftCustomer
  /-- `orderingInstitution.bic` -/
  orderingInstitution : Option Text := none
  /-- `accountWithInstitution.bic` -/
  accountWithInstitution : Option Text
  beneficiaryCustomer : SwiftCustomer
  remittanceInfo : Option Text
  detailsOfCharges : Option Text
  senderToReceiverInfo : Option Text := none
  rawMessage : Option Text := none
  deriving DecidableEq

/-- A customer in lines: the account, the name, and the address. -/
def customerOfLines : List Text → SwiftCustomer
  | [] => {}
  | account :: rest =>
    { account := some (Text.stripPrefix (js "/") account)
      name := rest.head?
      address := some rest.tail }

/-- The ordering customer, from `:50A:` or else `:50K:`. -/
def orderingCustomer (body : Text) : SwiftCustomer :=
  match (getField body "50A").filter (· ≠ []) with
  | some field =>
    let parts := Text.split field (ascii '\n')
    let first := parts.headD []
    if first.startsWith (js "/") then { account := some (Text.sliceFrom first 1).trim }
    else { bic := some first.trim, account := parts[1]?.map Text.trim }
  | none => customerOfLines (getMultilineField body "50K")

/-- The beneficiary, from `:59A:` or else `:59:`. -/
def beneficiaryCustomer (body : Text) : SwiftCustomer :=
  match (getField body "59A").filter (· ≠ []) with
  | some field =>
    let parts := Text.split (Text.trim field) (ascii '\n')
    let first := parts.headD []
    { iban := if first.startsWith (js "/") then some (Text.sliceFrom first 1).trim else none
      name := parts[1]?.map Text.trim }
  | none => customerOfLines (getMultilineField body "59")

/-- `YYMMDD` as `YYYY-MM-DD`; years from 70 on are of the last century. -/
def valueDateOf (rawDate : Text) : Text :=
  (if (Js.parseInt (rawDate.slice 0 2)).geNat 70 then js "19" else js "20") ++ rawDate.slice 0 2 ++
    js "-" ++ rawDate.slice 2 4 ++ js "-" ++ rawDate.slice 4 6

/-- `parseMt103(raw)`; a message without an amount is one of nothing. -/
def parseMt103 [Arithmetic] (fresh : Fresh) (raw : Text) : SwiftMt103Message :=
  let body := messageBody raw
  let match32 := parse32A ((getField body "32A").getD [])
  let today := (fresh.now.1.slice 2 10).filter (· ≠ ascii '-')
  let (rawDate, currency, amountStr) := match match32 with
    | some (date, currency, amount) =>
      (date, currency, Text.replaceFirst (js ",") (js ".") amount)
    | none => (today, js "USD", js "0")
  { transactionRef := (getField body "20").getD (js "MT103-" ++ fresh.e2eUlid.1.substring 16)
    bankOperationCode := (getField body "23B").getD (js "CRED")
    valueDate := valueDateOf rawDate
    currency
    amount := parseFloat amountStr
    orderingCustomer := orderingCustomer body
    accountWithInstitution := ((getField body "57A").filter (· ≠ [])).map Text.trim
    beneficiaryCustomer := beneficiaryCustomer body
    remittanceInfo := getField body "70"
    detailsOfCharges := getField body "71A"
    rawMessage := some raw }

def SwiftCustomer.toValue (customer : SwiftCustomer) : JsValue := .object
  [("account", JsValue.ofText? customer.account), ("iban", JsValue.ofText? customer.iban),
    ("bic", JsValue.ofText? customer.bic), ("name", JsValue.ofText? customer.name),
    ("address", (customer.address.map fun lines => JsValue.array (lines.map .string)).getD
      .undefined)]

def SwiftMt103Message.toValue (msg : SwiftMt103Message) : JsValue := .object
  [("transactionRef", .string msg.transactionRef),
    ("bankOperationCode", .string msg.bankOperationCode), ("valueDate", .string msg.valueDate),
    ("currency", .string msg.currency), ("amount", .number msg.amount),
    ("orderingCustomer", msg.orderingCustomer.toValue),
    ("orderingInstitution",
      (msg.orderingInstitution.map fun bic => JsValue.object [("bic", .string bic)]).getD .undefined),
    ("accountWithInstitution",
      (msg.accountWithInstitution.map fun bic => JsValue.object [("bic", .string bic)]).getD
        .undefined),
    ("beneficiaryCustomer", msg.beneficiaryCustomer.toValue),
    ("remittanceInfo", JsValue.ofText? msg.remittanceInfo),
    ("detailsOfCharges", JsValue.ofText? msg.detailsOfCharges),
    ("senderToReceiverInfo", JsValue.ofText? msg.senderToReceiverInfo),
    ("rawMessage", JsValue.ofText? msg.rawMessage)]

/-! ### The decoder -/

/-- `\w` -/
def isWordUnit (c : CodeUnit) : Bool := isLetter c || isDigit c || c = ascii '_'

/-- `/\b([A-Z]{2})\s*$/`: two letters at the end that no word unit precedes. -/
def trailingCountry (s : Text) : Option Text :=
  match s.reverse.dropWhile isWhite with
  | d :: c :: before =>
    if isUpper c && isUpper d && before.head?.all (fun b => !isWordUnit b) then some [c, d] else none
  | _ => none

/-- `extractCountryFromAddress(address)`. What is no string and no array has no `slice`, so that the
decoder throws after it. -/
def extractCountryFromAddress : JsValue → Option JsValue
  | .array items =>
    match items.getLast? with
    | none | some .undefined | some .null => some .undefined
    | some (.string last) => some (JsValue.ofText? (trailingCountry last))
    | some _ => none
  | _ => some .undefined

/-- A customer of a message as a party, whose account is given. -/
def swiftParty (customer account : JsValue) : Option JsValue := do
  let address ← customer.get "address"
  return .object
    [("name", ← (← customer.get "name").chain (JsValue.substring 140)),
      ("country", ← extractCountryFromAddress address),
      ("account_id", account),
      ("address", ← address.chain (JsValue.slice 4))]

/-- The object that is made of a message. -/
def swiftObject (engine : Engine) (fresh : Fresh) (msg : JsValue) (paymentId : Text)
    (traceId : Option Text) : Option JsValue := do
  let orderingCustomer ← msg.get "orderingCustomer"
  let beneficiaryCustomer ← msg.get "beneficiaryCustomer"
  let unknown := JsValue.string (js "UNKNOWN")
  let debtorAccount := (← orderingCustomer.get "account").nullish
    ((← orderingCustomer.get "name").nullish unknown)
  let iban ← beneficiaryCustomer.get "iban"
  let creditorAccount := iban.nullish ((← beneficiaryCustomer.get "account").nullish
    ((← beneficiaryCustomer.get "name").nullish unknown))
  let transactionRef ← msg.get "transactionRef"
  let currency ← (← msg.get "currency").text
  return .object
    [("payment_id", .string paymentId),
      ("created_at", .string fresh.later.1),
      ("grpHdr", .object
        [("msgId", .string (js "MSG-" ++ fresh.msgUlid.1)), ("creDtTm", .string fresh.later.1),
          ("nbOfTxs", .number (.fin 1))]),
      ("pmtId", .object
        [("endToEndId", ← transactionRef.substring 35), ("instrId", transactionRef)]),
      ("amount", .object
        [("value", ← msg.get "amount"), ("currency", .string (engine.toUpperCase currency))]),
      ("origin", .object
        [("rail", .string (js Rail.swiftMt103.name)),
          ("bic", ((← msg.get "orderingInstitution").getOptional "bic").nullish
            (← orderingCustomer.get "bic"))]),
      ("destination", .object
        [("rail", .undefined), ("bic", (← msg.get "accountWithInstitution").getOptional "bic")]),
      ("debtor", ← swiftParty orderingCustomer debtorAccount),
      ("creditor", ← swiftParty beneficiaryCustomer creditorAccount),
      ("alias", .object
        [("type", .string (js (if iban.truthy then AliasType.iban.name
          else AliasType.account.name))), ("value", creditorAccount)]),
      ("purpose", .string (js "P2P")),
      ("reference", transactionRef),
      ("remittanceInfo", ← (← msg.get "remittanceInfo").chain (JsValue.substring 140)),
      ("status", .string (js "RECEIVED")),
      ("trace_id", JsValue.ofText? traceId)]

/-- The message of a payload, which may be text. -/
def swiftMessage [Arithmetic] (fresh : Fresh) : JsValue → JsValue
  | .string raw => (parseMt103 fresh raw).toValue
  | payload => payload

/-- `swiftMt103ToCanonical(payload, paymentId, traceId)` -/
def swiftMt103ToCanonical [Arithmetic] (engine : Engine) (fresh : Fresh) (payload : JsValue)
    (paymentId : Text) (traceId : Option Text) : Except Failure CanonicalPacs008 :=
  decoded .swiftMt103 "Invalid canonical output from SWIFT MT103 translation"
    "Unexpected error during MT103 translation"
    (swiftObject engine fresh (swiftMessage fresh payload) paymentId traceId)

/-! ### The encoder -/

/-- What is no letter, digit, slash or hyphen becomes an `X`. -/
def sanitizeReference (s : Text) : Text :=
  s.map fun c =>
    if isLetter c || isDigit c || c = ascii '/' || c = ascii '-' then c else ascii 'X'

/-- The lines of a party's address, or one line in their place. -/
def swiftAddress (p : Party) : List Text :=
  (p.address.map fun lines => lines.take 3).getD
    [match p.country.filter (· ≠ []) with
      | some country => js "Country: " ++ country
      | none => js "Unknown"]

/-- `buildRemittanceInfo(canonical)` -/
def buildRemittanceInfo (c : CanonicalPacs008) : Text :=
  let reference :=
    if c.reference ≠ [] ∧ c.reference ≠ js "MIPIT-POC" then
      [js "/REF/" ++ c.reference.substring 16]
    else []
  let info := ((c.remittanceInfo.filter (· ≠ [])).map fun info => [Text.substring info 105]).getD
    (if c.purpose ≠ [] then [c.purpose.substring 35] else [])
  (Text.join (reference ++ info) (ascii ' ')).substring 140

/-- `canonicalToSwiftMt103(canonical)` -/
def canonicalToSwiftMt103 (c : CanonicalPacs008) : SwiftMt103Message where
  transactionRef := sanitizeReference (c.pmtId.endToEndId.substring 16)
  bankOperationCode := js "CRED"
  valueDate := c.createdAt.1.slice 0 10
  currency := c.amount.currency
  amount := c.amount.value
  orderingCustomer :=
    { account := some (stripNetworkPrefix c.debtor.accountId)
      bic := c.origin.bic
      name := c.debtor.name.map fun name => name.substring 35
      address := some (swiftAddress c.debtor) }
  orderingInstitution := c.origin.bic.filter (· ≠ [])
  accountWithInstitution := c.destination.bic.filter (· ≠ [])
  beneficiaryCustomer :=
    { account :=
        if isIban c.creditor.accountId then none
        else some (stripNetworkPrefix c.creditor.accountId)
      iban := if isIban c.creditor.accountId then some c.creditor.accountId else none
      name := c.creditor.name.map fun name => name.substring 35
      address := some (swiftAddress c.creditor) }
  remittanceInfo := some (buildRemittanceInfo c)
  detailsOfCharges := some (js "SHA")
  senderToReceiverInfo := some (js "/MIPIT/" ++ c.paymentId)

/-- `s ? write(s) : ''` -/
def written (write : Text → Text) (s : Option Text) : Text :=
  ((s.filter (· ≠ [])).map write).getD []

/-- The lines of a customer, with at most `n` of the address. -/
def customerLines (n : ℕ) (customer : SwiftCustomer) : Text :=
  written (fun account => ascii '/' :: (account ++ [ascii '\n'])) customer.account ++
    (written (fun name => Text.substring name 35 ++ [ascii '\n']) customer.name ++
      ((customer.address.getD []).take n).flatMap fun line => line.substring 35 ++ [ascii '\n'])

/-- The chunks of `splitRemittance`, of which there are at most `n` more. -/
def remittanceChunks : ℕ → Text → List Text
  | 0, _ => []
  | n + 1, info => if info = [] then [] else info.take 35 :: remittanceChunks n (info.drop 35)

/-- `splitRemittance(info)` -/
def splitRemittance (info : Text) : Text := Text.join (remittanceChunks 4 info) (ascii '\n')

/-- The date, the currency and the amount, as `:32A:` has them. -/
def text32A (msg : SwiftMt103Message) : Text :=
  (msg.valueDate.filter (· ≠ ascii '-')).drop 2 ++ msg.currency ++
    Text.replaceFirst (js ".") (js ",") (msg.amount.toFixed 2)

/-- `serializeMt103(msg)` -/
def serializeMt103 (msg : SwiftMt103Message) : Text :=
  let field50 := js ":50K:" ++ customerLines 3 msg.orderingCustomer
  let field57 := written (js ":57A:" ++ ·) msg.accountWithInstitution
  let beneficiary := msg.beneficiaryCustomer
  let name := Text.substring (beneficiary.name.getD []) 35
  let field59 :=
    ((beneficiary.iban.filter (· ≠ [])).map fun iban => js ":59A:/" ++ (iban ++ ascii '\n' :: name)).getD
      (js ":59:" ++ customerLines 2 beneficiary)
  let field70 := written (fun info => js ":70:" ++ splitRemittance info) msg.remittanceInfo
  let field71A :=
    ((msg.detailsOfCharges.filter (· ≠ [])).map (js ":71A:" ++ ·)).getD (js ":71A:SHA")
  let field72 := written (fun info => js ":72:" ++ Text.substring info 35) msg.senderToReceiverInfo
  let body := Text.join
    ([js ":20:" ++ msg.transactionRef.substring 16, js ":23B:" ++ msg.bankOperationCode,
      js ":32A:" ++ text32A msg, field50.trim, field57, field59.trim, field70, field71A,
      field72].filter (· ≠ [])) (ascii '\n')
  js "\x7b1:F01MIPITSIMMXXX0000000000\x7d\x7b2:I103MIPITSIMMXXXN\x7d\x7b4:\n" ++ body ++ js "\n-\x7d"

/-- The amount of the object that is made of a message. -/
theorem amount_of_swiftObject {engine : Engine} {fresh : Fresh} {msg raw : JsValue}
    {paymentId : Text} {traceId : Option Text} {n : Number}
    (hn : msg.get "amount" = some (.number n))
    (h : swiftObject engine fresh msg paymentId traceId = some raw) : HasAmount n raw := by
  iterate 11 obtain ⟨_, -, h⟩ := Option.bind_eq_some_iff.mp h
  obtain ⟨amount, hamount, h⟩ := Option.bind_eq_some_iff.mp h
  obtain rfl := Option.some.inj (hn.symm.trans hamount)
  iterate 7 obtain ⟨_, -, h⟩ := Option.bind_eq_some_iff.mp h
  obtain rfl := Option.some.inj h
  exact ⟨_, _, rfl, rfl⟩

end MipitCore.Translation
