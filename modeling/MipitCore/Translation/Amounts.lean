import MipitCore.Js.Double
import MipitCore.Translation.BreB
import MipitCore.Translation.CreditorKey
import MipitCore.Translation.FedNow
import MipitCore.Translation.Iso20022Mx
import MipitCore.Translation.Mt103Fields

/-!
# Amounts that are read from text

Five decoders read the amount of a message from text, and refuse it only where the
number they find is not positive. They find one in any text that starts with a number,
so that a text which is no decimal number may be taken for a part of itself. The number
is a double, the nearest one to what is written.

## Main definitions

* `TextDecoder` — the decoders, with the texts that their messages carry
* `ReadsAs`, `ReadsWhole`, `ReadsExactly` — a decimal number is read whole, or as it is written

## Main results

* `amount_of_decode` — what an accepted message's amount is
* `accepts_of_isPositive` — every text with a positive number at its start is accepted
* `readsExactly_iff`
-/

namespace MipitCore.Translation

open Js
open CodeUnit (ascii isDigit isWhite)
open scoped Double

/-- The decoders that read the amount from text. -/
inductive TextDecoder
  | pix | breB | fednow | iso20022Mx | swiftMt103
  deriving DecidableEq, Repr

namespace TextDecoder

/-- What the decoder makes of a payload. -/
def decode (engine : Engine) (fresh : Fresh) (mappings : Option Mappings) (payload : JsValue)
    (paymentId : Text) (traceId : Option Text) : TextDecoder → Except Failure CanonicalPacs008
  | pix => pixToCanonical engine fresh mappings payload paymentId traceId
  | breB => brebToCanonical engine fresh payload paymentId traceId
  | fednow => fednowToCanonical fresh payload paymentId traceId
  | iso20022Mx => iso20022MxToCanonical engine fresh payload paymentId traceId
  | swiftMt103 => swiftMt103ToCanonical engine fresh payload paymentId traceId

/-- What separates the fraction of an amount. -/
def point : TextDecoder → CodeUnit
  | swiftMt103 => ascii ','
  | _ => ascii '.'

/-- The texts that can be an amount: in a field `:32A:`, digits and commas. -/
def CanWrite (s : Text) : TextDecoder → Prop
  | swiftMt103 => s ≠ [] ∧ ∀ c ∈ s, isDigit c = true ∨ c = ascii ','
  | _ => True

/-- The number at the start of a text. -/
def leadingNumber (s : Text) : TextDecoder → Number
  | swiftMt103 => parseFloat (Text.replaceFirst (js ",") (js ".") s)
  | _ => parseFloat s

/-- The payload has the amount `s`, as text. -/
def Carries (payload : JsValue) (s : Text) : TextDecoder → Prop
  | pix => pixAmount payload = .string s
  | breB => isNativeBrebPayload payload = some true ∧
      payload.path ["valor", "original"] = some (.string s)
  | fednow => payload.path ["FIToFICstmrCdtTrf", "CdtTrfTxInf", "IntrBkSttlmAmt", "value"] =
      some (.string s)
  | iso20022Mx => ∃ msg, isoMessage payload = some msg ∧
      msg.path ["CdtTrfTxInf", "IntrBkSttlmAmt", "value"] = some (.string s)
  | swiftMt103 => ∃ raw date currency, payload = .string raw ∧
      parse32A ((getField (messageBody raw) "32A").getD []) = some (date, currency, s)

end TextDecoder

open TextDecoder

/-- Whatever the rest of the message is, the text `s` is refused as its amount, or it is a decimal
number, and the amount is what `value` says of it. -/
def ReadsAs (value : ℚ → Number) (d : TextDecoder) (s : Text) : Prop :=
  ∀ engine fresh mappings payload paymentId traceId c, d.Carries payload s →
    d.decode engine fresh mappings payload paymentId traceId = .ok c →
    isDecimalText d.point s = true ∧ c.amount.value = value (decimalValue d.point s)

/-- The text is refused, or the amount is the double nearest to the whole of it. -/
def ReadsWhole : TextDecoder → Text → Prop := ReadsAs fun q => .fin (binary64.nearest q)

/-- The text is refused, or the amount is the number that the whole of it is. -/
def ReadsExactly : TextDecoder → Text → Prop := ReadsAs .fin

/-! ### What is accepted -/

section

variable {engine : Engine} {fresh : Fresh} {mappings : Option Mappings} {payload : JsValue}
  {paymentId s : Text} {traceId : Option Text} {d : TextDecoder} {c : CanonicalPacs008}

theorem HasAmount.of_decoded {n : Number} {rail : Rail} {invalid unexpected : String}
    {object : Option JsValue} (hobject : ∀ raw, object = some raw → HasAmount n raw)
    (h : decoded rail invalid unexpected object = .ok c) :
    c.amount.value = n ∧ n.isPositive = true := by
  obtain ⟨raw, hraw, hschema⟩ := decoded_eq_ok.mp h
  exact (hobject raw hraw).of_schema hschema

/-- The parts of a field `:32A:` are of the shape that the pattern says. -/
theorem canWrite_of_parse32A {field date currency : Text}
    (h : parse32A field = some (date, currency, s)) : CanWrite s .swiftMt103 := by
  dsimp only [parse32A] at h
  split at h
  · rename_i hshape
    obtain ⟨-, -, rfl⟩ : _ = date ∧ _ = currency ∧ _ = s := by simpa using h
    simp only [Bool.and_eq_true, decide_eq_true_eq, List.all_eq_true, Bool.or_eq_true] at hshape
    exact ⟨hshape.1.2, hshape.2⟩
  · cases h

theorem parseMt103_amount (fresh : Fresh) {raw date currency : Text}
    (h : parse32A ((getField (messageBody raw) "32A").getD []) = some (date, currency, s)) :
    (parseMt103 fresh raw).amount = leadingNumber s .swiftMt103 := by
  simp only [parseMt103, h]
  rfl

/-- **The amount of an accepted message** is the number at the start of its text. -/
theorem amount_of_decode (hs : d.Carries payload s)
    (h : d.decode engine fresh mappings payload paymentId traceId = .ok c) :
    c.amount.value = d.leadingNumber s ∧ (d.leadingNumber s).isPositive = true := by
  cases d with
  | pix => exact amount_of_pixToCanonical hs h
  | breB =>
    refine HasAmount.of_decoded (fun raw hraw => ?_) h
    rw [brebObject, hs.1, Option.bind_eq_bind, Option.bind_some, if_pos rfl] at hraw
    exact amount_of_brebNativeObject hs.2 hraw
  | fednow => exact HasAmount.of_decoded (fun raw => amount_of_fednowObject hs) h
  | iso20022Mx =>
    obtain ⟨msg, hmsg, hs⟩ := hs
    exact HasAmount.of_decoded (fun raw => amount_of_isoObject hmsg hs) h
  | swiftMt103 =>
    obtain ⟨raw, date, currency, rfl, hs⟩ := hs
    rw [← parseMt103_amount fresh hs]
    exact HasAmount.of_decoded (fun _ => amount_of_swiftObject rfl) h

/-- An accepted text has an amount in a field `:32A:`; without one, the amount is nothing. -/
theorem carries_of_swiftMt103ToCanonical {raw : Text}
    (h : swiftMt103ToCanonical engine fresh (.string raw) paymentId traceId = .ok c) :
    ∃ s, Carries (.string raw) s .swiftMt103 := by
  cases hmatch : parse32A ((getField (messageBody raw) "32A").getD []) with
  | some parts => exact ⟨parts.2.2, raw, parts.1, parts.2.1, rfl, hmatch⟩
  | none =>
    have hzero : (parseMt103 fresh raw).amount = .fin 0 := by
      simp only [parseMt103, hmatch]
      decide +kernel
    obtain ⟨-, hpositive⟩ := HasAmount.of_decoded (fun _ => amount_of_swiftObject rfl) h
    rw [hzero] at hpositive
    cases hpositive

/-- **A decimal number is read whole.** -/
theorem leadingNumber_of_isDecimalText (h : isDecimalText d.point s = true) :
    d.leadingNumber s = toDouble (decimalValue d.point s) := by
  cases d with
  | swiftMt103 =>
    have hcomma : isDigit (ascii ',') = false := by decide
    have hpoint : isDigit (ascii '.') = false := by decide
    have notMem : ∀ t : Text, isDigits t = true → ascii ',' ∉ t := fun t ht hmem => by
      rw [isDigits, List.all_eq_true] at ht
      exact Bool.false_ne_true (hcomma.symm.trans (ht _ hmem))
    change parseFloat (Text.replaceFirst [ascii ','] [ascii '.'] s) =
      Arithmetic.round (decimalValue (ascii ',') s)
    -- a decimal number has one comma at most, and that one becomes a point
    rcases isDecimalText_cases hcomma h with ⟨hs, hne⟩ | ⟨a, b, rfl, ha, hb, hne⟩
    · rw [Text.replaceFirst_eq_self _ (notMem s hs),
        parseFloat_decimalText (isDecimalText_digits hs hpoint hne),
        decimalValue_digits hs hpoint, decimalValue_digits hs hcomma]
    · rw [Text.replaceFirst_append _ _ (notMem a ha), List.append_assoc, List.singleton_append,
        parseFloat_decimalText (isDecimalText_append ha hb hpoint hne),
        decimalValue_append ha hb hpoint, decimalValue_append ha hb hcomma]
  | pix | breB | fednow | iso20022Mx => exact parseFloat_decimalText h

end

/-! ### Messages with any amount

The schema looks at an amount only for being positive. For each decoder there is a
message that is accepted with the amount one, and whose object has the same other
properties with any other amount. -/

/-- The object with the value of its amount replaced. -/
def withAmount (n : Number) : JsValue → JsValue
  | .object fields =>
    match JsValue.field "amount" fields with
    | .object (_ :: rest) =>
      .object (JsValue.setField "amount" (.object (("value", .number n) :: rest)) fields)
    | _ => .object fields
  | raw => raw

theorem amountSchema_value {m n : Number} {rest : List (String × JsValue)} {a : Amount}
    (hn : n.isPositive = true)
    (h : amountSchema (.object (("value", .number m) :: rest)) = some a) :
    amountSchema (.object (("value", .number n) :: rest)) = some { a with value := n } := by
  obtain ⟨value, -, h⟩ := Option.bind_eq_some_iff.mp h
  obtain ⟨currency, hcurrency, h⟩ := Option.bind_eq_some_iff.mp h
  obtain ⟨instdAmt, hinstdAmt, h⟩ := Option.bind_eq_some_iff.mp h
  obtain ⟨instdAmtCcy, hinstdAmtCcy, h⟩ := Option.bind_eq_some_iff.mp h
  obtain rfl := Option.some.inj h
  refine Option.bind_eq_some_iff.mpr ⟨n, by simp [Schema.field, hn], ?_⟩
  refine Option.bind_eq_some_iff.mpr ⟨currency, hcurrency, ?_⟩
  refine Option.bind_eq_some_iff.mpr ⟨instdAmt, hinstdAmt, ?_⟩
  exact Option.bind_eq_some_iff.mpr ⟨instdAmtCcy, hinstdAmtCcy, rfl⟩

/-- **The schema looks at an amount only for being positive.** -/
theorem canonicalPacs008Schema_withAmount {m n : Number} {raw : JsValue} {c : CanonicalPacs008}
    (hraw : HasAmount m raw) (hn : n.isPositive = true)
    (h : canonicalPacs008Schema raw = some c) :
    canonicalPacs008Schema (withAmount n raw) =
      some { c with amount := { c.amount with value := n } } := by
  obtain ⟨fields, rest, rfl, hamount⟩ := hraw
  obtain ⟨fields', hfields, d⟩ := canonicalPacs008Schema_eq_some.mp h
  obtain rfl := JsValue.object.inj hfields
  simp only [withAmount, hamount]
  set fields' := JsValue.setField "amount" (.object (("value", .number n) :: rest)) fields
  have hother : ∀ key, "amount" ≠ key → JsValue.field key fields' = JsValue.field key fields :=
    fun key hkey => by rw [JsValue.field_setField, if_neg hkey]
  have hvalue : JsValue.field "amount" fields' = .object (("value", .number n) :: rest) := by
    rw [JsValue.field_setField, if_pos rfl]
  refine canonicalPacs008Schema_eq_some.mpr ⟨fields', rfl, ?_⟩
  constructor
  case amount =>
    have hold := d.amount
    rw [Schema.field, hamount] at hold
    rw [Schema.field, hvalue]
    exact amountSchema_value hn hold
  all_goals
    rw [Schema.field, hother _ (by decide)]
  · exact d.paymentId
  · exact d.createdAt
  · exact d.grpHdr
  · exact d.pmtId
  · exact d.fx
  · exact d.origin
  · exact d.destination
  · exact d.debtor
  · exact d.creditor
  · exact d.alias
  · exact d.purpose
  · exact d.reference
  · exact d.remittanceInfo
  · exact d.status
  · exact d.traceId
  · exact d.railAck

/-- An MT103 of dollars, with no other field. -/
def mt103 (s : Text) : Text := block [("32A", js "260313USD" ++ s)]

namespace TextDecoder

/-- A message with the amount `s` and hardly anything else. -/
def sample (s : Text) : TextDecoder → JsValue
  | pix => .object [("valor", .object [("original", .string s)])]
  | breB => .object
      [("valor", .object [("original", .string s)]), ("pagador", .object []),
        ("beneficiario", .object []), ("llave", .string (js "ana")),
        ("idTransaccion", .string (js "BR26264220"))]
  | fednow => .object [("FIToFICstmrCdtTrf", .object
      [("GrpHdr", .object []),
        ("CdtTrfTxInf", .object
          [("PmtId", .object [("EndToEndId", .string (js "E2E"))]),
            ("IntrBkSttlmAmt", .object [("value", .string s)]),
            ("DbtrAgt", .object [("FinInstnId", .object [("ClrSysMmbId", .object [])])]),
            ("CdtrAgt", .object [("FinInstnId", .object [("ClrSysMmbId", .object [])])]),
            ("DbtrAcct", .object [("Id", .object [("Othr", .object [])])]),
            ("CdtrAcct", .object [("Id", .object [("Othr", .object [])])]),
            ("Dbtr", .object []), ("Cdtr", .object [])])])]
  | iso20022Mx => .object
      [("GrpHdr", .object []),
        ("CdtTrfTxInf", .object
          [("PmtId", .object [("EndToEndId", .string (js "E2E"))]),
            ("IntrBkSttlmAmt", .object [("value", .string s), ("Ccy", .string (js "USD"))]),
            ("DbtrAcct", .object [("Id", .object [])]), ("CdtrAcct", .object [("Id", .object [])]),
            ("Dbtr", .object []), ("Cdtr", .object [])])]
  | swiftMt103 => .string (mt103 s)

/-- The object that the decoder makes of a payload. -/
def object (engine : Engine) (fresh : Fresh) (payload : JsValue) (paymentId : Text) :
    TextDecoder → Option JsValue
  | pix => pixNativeObject fresh payload paymentId none
  | breB => brebNativeObject fresh payload paymentId none
  | fednow => fednowObject fresh payload paymentId none
  | iso20022Mx => isoObject engine fresh payload paymentId none
  | swiftMt103 => swiftObject engine fresh (swiftMessage fresh payload) paymentId none

end TextDecoder

section

variable {engine : Engine} {fresh : Fresh} {paymentId s : Text} {d : TextDecoder}

theorem amountUnit {c : CodeUnit} (h : isDigit c = true ∨ c = ascii ',') :
    c ≠ ascii ':' ∧ c ≠ ascii '}' ∧ c ≠ ascii '{' ∧ isWhite c = false := by
  rcases h with hdigit | rfl
  · have hrange : 48 ≤ c.toNat ∧ c.toNat ≤ 57 := by simpa [isDigit] using hdigit
    have hne : ∀ e : CodeUnit, e.toNat < 48 ∨ 57 < e.toNat → c ≠ e := by
      rintro e he rfl
      omega
    refine ⟨hne _ (by decide), hne _ (by decide), hne _ (by decide), ?_⟩
    simp [isWhite]
    omega
  · decide

theorem field32AUnit (h : CanWrite s .swiftMt103) {c : CodeUnit} (hc : c ∈ js "260313USD" ++ s) :
    c ≠ ascii ':' ∧ c ≠ ascii '}' ∧ c ≠ ascii '{' ∧ isWhite c = false := by
  rcases List.mem_append.mp hc with hbegins | hs
  · have hunits : ∀ e ∈ js "260313USD",
        e ≠ ascii ':' ∧ e ≠ ascii '}' ∧ e ≠ ascii '{' ∧ isWhite e = false := by decide
    exact hunits c hbegins
  · exact amountUnit (h.2 c hs)

theorem getField_mt103 (h : CanWrite s .swiftMt103) {tag : String} (htag : isTag (js tag) = true) :
    getField (messageBody (mt103 s)) tag =
      if "32A" = tag then some (js "260313USD" ++ s) else none := by
  have hbrace : ascii '{' ∉ mt103 s := by
    intro hmem
    rw [mt103, block_cons, block_nil] at hmem
    simp only [List.mem_cons, List.mem_append, List.not_mem_nil, or_false] at hmem
    rcases hmem with hcolon | htag | hcolon | htext | hline
    · exact absurd hcolon (by decide)
    · exact absurd htag (by decide)
    · exact absurd hcolon (by decide)
    · exact (field32AUnit h (List.mem_append.mpr htext)).2.2.1 rfl
    · exact absurd hline (by decide)
  have hplain : IsPlain (js "260313USD" ++ s) := fun c hc =>
    ⟨(field32AUnit h hc).1, (field32AUnit h hc).2.1⟩
  have htrim : Text.trim (js "260313USD" ++ s) = js "260313USD" ++ s :=
    Text.trim_eq_self fun c hc => (field32AUnit h hc).2.2.2
  rw [messageBody_of_notMem hbrace, mt103,
    getField_block htag (by simpa using ⟨by decide, hplain.endFree⟩)]
  by_cases heq : "32A" = tag
  · simp [heq, htrim]
  · simp [heq]

theorem parse32A_mt103 (h : CanWrite s .swiftMt103) :
    parse32A (js "260313USD" ++ s) = some (js "260313", js "USD", s) := by
  have hs : s.all (fun c => isDigit c || decide (c = ascii ',')) = true := by
    simpa [List.all_eq_true] using h.2
  have hshape : (js "260313USD" ++ s).take 6 = js "260313" ∧
      ((js "260313USD" ++ s).drop 6).take 3 = js "USD" ∧ (js "260313USD" ++ s).drop 9 = s :=
    ⟨rfl, rfl, rfl⟩
  dsimp only [parse32A]
  rw [hshape.1, hshape.2.1, hshape.2.2, hs, decide_eq_true h.1]
  rfl

/-- What `mt103 s` is parsed into. -/
def dollars (fresh : Fresh) (s : Text) : SwiftMt103Message where
  transactionRef := js "MT103-" ++ fresh.e2eUlid.1.substring 16
  bankOperationCode := js "CRED"
  valueDate := js "2026-03-13"
  currency := js "USD"
  amount := leadingNumber s .swiftMt103
  orderingCustomer := {}
  accountWithInstitution := none
  beneficiaryCustomer := {}
  remittanceInfo := none
  detailsOfCharges := none
  rawMessage := some (mt103 s)

theorem parseMt103_mt103 (h : CanWrite s .swiftMt103) :
    parseMt103 fresh (mt103 s) = dollars fresh s := by
  have hfield : ∀ tag : String, isTag (js tag) = true →
      getField (messageBody (mt103 s)) tag =
        if "32A" = tag then some (js "260313USD" ++ s) else none := fun _ => getField_mt103 h
  have hdate : valueDateOf (js "260313") = js "2026-03-13" := by decide +kernel
  have hordering : orderingCustomer (messageBody (mt103 s)) = {} := by
    simp [orderingCustomer, getMultilineField, hfield "50A" (by decide), hfield "50K" (by decide),
      Text.split, Text.trim, customerOfLines]
  have hbeneficiary : beneficiaryCustomer (messageBody (mt103 s)) = {} := by
    simp [beneficiaryCustomer, getMultilineField, hfield "59A" (by decide),
      hfield "59" (by decide), Text.split, Text.trim, customerOfLines]
  simp [parseMt103, hfield "32A" (by decide), hfield "20" (by decide), hfield "23B" (by decide),
    hfield "57A" (by decide), hfield "70" (by decide), hfield "71A" (by decide),
    parse32A_mt103 h, hdate, hordering, hbeneficiary, dollars, leadingNumber]

/-- Another amount is all that the objects of two such messages differ in. -/
theorem object_sample (engine : Engine) (fresh : Fresh) (paymentId : Text) (h : d.CanWrite s) :
    d.object engine fresh (d.sample s) paymentId =
      (d.object engine fresh (d.sample (js "1")) paymentId).map (withAmount (d.leadingNumber s)) := by
  cases d with
  | swiftMt103 =>
    have hone : CanWrite (js "1") .swiftMt103 := ⟨by decide, by decide⟩
    simp only [object, sample, swiftMessage, parseMt103_mt103 h, parseMt103_mt103 hone]
    rfl
  | pix | breB | fednow | iso20022Mx => rfl

/-- The samples of the amount one are accepted. -/
theorem accepts_sample_one :
    ((d.object Example.passage.engine Example.fresh (d.sample (js "1"))
      (paymentIdOf Pipeline.Example.ulid)).bind canonicalPacs008Schema).isSome = true := by
  cases d <;> decide +kernel

theorem hasAmount_object {raw : JsValue} {engine : Engine} (h : d.CanWrite s)
    (hraw : d.object engine fresh (d.sample s) paymentId = some raw) :
    HasAmount (d.leadingNumber s) raw := by
  cases d with
  | pix => exact amount_of_pixNativeObject rfl hraw
  | breB => exact amount_of_brebNativeObject rfl hraw
  | fednow => exact amount_of_fednowObject rfl hraw
  | iso20022Mx => exact amount_of_isoObject rfl rfl hraw
  | swiftMt103 =>
    simp only [object, sample, swiftMessage, parseMt103_mt103 h] at hraw
    exact amount_of_swiftObject rfl hraw

theorem carries_sample (h : d.CanWrite s) : d.Carries (d.sample s) s := by
  cases d with
  | swiftMt103 =>
    refine ⟨mt103 s, js "260313", js "USD", rfl, ?_⟩
    rw [getField_mt103 h (by decide), if_pos rfl, Option.getD_some, parse32A_mt103 h]
  | breB => exact ⟨rfl, rfl⟩
  | iso20022Mx => exact ⟨_, rfl, rfl⟩
  | pix | fednow => rfl

/-- An object that the schema accepts is decoded. -/
theorem decode_sample {engine : Engine} {raw : JsValue} {c : CanonicalPacs008}
    (hraw : d.object engine fresh (d.sample s) paymentId = some raw)
    (h : canonicalPacs008Schema raw = some c) :
    d.decode engine fresh none (d.sample s) paymentId none = .ok c := by
  cases d with
  | pix =>
    have hnative : isNativePixPayload (pix.sample s) = some true := rfl
    change pixNativeObject fresh (pix.sample s) paymentId none = some raw at hraw
    rw [decode, pixToCanonical, hnative]
    dsimp only
    rw [hraw]
    exact validated_eq_ok.mpr h
  | breB =>
    rw [decode, brebToCanonical]
    exact decoded_eq_ok.mpr ⟨raw, hraw, h⟩
  | fednow =>
    rw [decode, fednowToCanonical]
    exact decoded_eq_ok.mpr ⟨raw, hraw, h⟩
  | iso20022Mx =>
    rw [decode, iso20022MxToCanonical]
    exact decoded_eq_ok.mpr ⟨raw, hraw, h⟩
  | swiftMt103 =>
    rw [decode, swiftMt103ToCanonical]
    exact decoded_eq_ok.mpr ⟨raw, hraw, h⟩

/-- **Every text that starts with a positive number is accepted** as the amount of some message. -/
theorem accepts_of_isPositive (h : d.CanWrite s) (hpositive : (d.leadingNumber s).isPositive = true) :
    ∃ c, d.decode Example.passage.engine Example.fresh none (d.sample s)
      (paymentIdOf Pipeline.Example.ulid) none = .ok c := by
  have hone : d.CanWrite (js "1") := by
    cases d with
    | swiftMt103 => exact ⟨by decide, by decide⟩
    | pix | breB | fednow | iso20022Mx => trivial
  obtain ⟨c, hc⟩ := Option.isSome_iff_exists.mp (accepts_sample_one (d := d))
  obtain ⟨raw, hraw, hschema⟩ := Option.bind_eq_some_iff.mp hc
  have hobject := object_sample Example.passage.engine Example.fresh
    (paymentIdOf Pipeline.Example.ulid) h
  rw [hraw, Option.map_some] at hobject
  exact ⟨_, decode_sample hobject
    (canonicalPacs008Schema_withAmount (hasAmount_object hone hraw) hpositive hschema)⟩

end

/-! ### Which texts are read exactly -/

section

variable {d : TextDecoder} {s : Text}

/-- A text is read as `value` says, or refused, unless it starts with a positive number, and is no
decimal number or one that is rounded to another value. -/
theorem readsAs_iff {value : ℚ → Number} :
    ReadsAs value d s ↔ ¬ (d.CanWrite s ∧ (d.leadingNumber s).isPositive = true ∧
      ¬ (isDecimalText d.point s = true ∧
        toDouble (decimalValue d.point s) = value (decimalValue d.point s))) := by
  constructor
  · rintro hreads ⟨hwrite, hpositive, hnot⟩
    obtain ⟨c, hc⟩ := accepts_of_isPositive hwrite hpositive
    obtain ⟨hdecimal, hvalue⟩ := hreads _ _ _ _ _ _ c (carries_sample hwrite) hc
    have hamount := (amount_of_decode (carries_sample hwrite) hc).1
    rw [leadingNumber_of_isDecimalText hdecimal] at hamount
    exact hnot ⟨hdecimal, hamount.symm.trans hvalue⟩
  · intro hcondition engine fresh mappings payload paymentId traceId c hcarries hdecode
    obtain ⟨hvalue, hpositive⟩ := amount_of_decode hcarries hdecode
    have hwrite : d.CanWrite s := by
      cases d with
      | swiftMt103 =>
        obtain ⟨_, _, _, -, hmatch⟩ := hcarries
        exact canWrite_of_parse32A hmatch
      | pix | breB | fednow | iso20022Mx => trivial
    by_contra hnot
    refine hcondition ⟨hwrite, hpositive, ?_⟩
    rintro ⟨hdecimal, hround⟩
    rw [hvalue, leadingNumber_of_isDecimalText hdecimal] at hnot
    exact hnot ⟨hdecimal, hround⟩

theorem decimalValue_nonneg (point : CodeUnit) (s : Text) : 0 ≤ decimalValue point s := by
  unfold decimalValue
  positivity

/-- **A text is read whole, or refused,** unless it starts with a positive number, and is no decimal
number or too large for a double; and then it is read as it is written, unless that is no double.
The amount of an MT103 is always such a text from its field `:32A:`. -/
theorem readsExactly_iff (d : TextDecoder) (s : Text) :
    (∀ engine fresh raw paymentId traceId c,
      swiftMt103ToCanonical engine fresh (.string raw) paymentId traceId = .ok c →
        ∃ s, Carries (.string raw) s .swiftMt103) ∧
      (ReadsWhole d s ↔ ¬ (d.CanWrite s ∧ (d.leadingNumber s).isPositive = true ∧
        ¬ (isDecimalText d.point s = true ∧ decimalValue d.point s < 2 ^ 1024 - 2 ^ 970))) ∧
      (ReadsExactly d s ↔ ¬ (d.CanWrite s ∧ (d.leadingNumber s).isPositive = true ∧
        ¬ (isDecimalText d.point s = true ∧
          toDouble (decimalValue d.point s) = .fin (decimalValue d.point s)))) := by
  refine ⟨fun _ _ _ _ _ _ => carries_of_swiftMt103ToCanonical, ?_, readsAs_iff⟩
  rw [← toDouble_eq_nearest_iff (decimalValue_nonneg _ _)]
  exact readsAs_iff

end

/-- A thousand reais with a separator of thousands are read as one. -/
theorem thousand_reais_as_one :
    (TextDecoder.pix.decode Example.passage.engine Example.fresh none
        (TextDecoder.pix.sample (js "1,000.00")) (paymentIdOf Pipeline.Example.ulid) none).map
          (fun c => c.amount.value) = .ok (.fin 1) ∧
      ¬ ReadsWhole .pix (js "1,000.00") ∧ ¬ ReadsExactly .pix (js "1,000.00") := by
  have hdecimal : isDecimalText (point .pix) (js "1,000.00") = false := by decide
  have hpositive : (leadingNumber (js "1,000.00") .pix).isPositive = true := by decide +kernel
  have hnot : ∀ value, ¬ ReadsAs value .pix (js "1,000.00") := fun value hreads =>
    readsAs_iff.mp hreads ⟨trivial, hpositive, fun h => by rw [hdecimal] at h; cases h.1⟩
  exact ⟨by decide +kernel, hnot _, hnot _⟩

end MipitCore.Translation
