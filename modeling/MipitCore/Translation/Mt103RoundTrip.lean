import MipitCore.Domain.WellFormed
import MipitCore.Translation.Mt103Amount
import MipitCore.Translation.Mt103Clean
import MipitCore.Translation.SingleCurrency

/-!
# SWIFT MT103, written and read

In a message of clean texts no field ends before its line does, so that every field is found
as it was written, but for white space at its ends.

## Main definitions

* `Mt103Agrees` — what a message and its reading have in common

## Main results

* `endFree_mt103Fields` — no field of a clean message ends within another
* `parseMt103_serializeMt103` — a clean message is read as it was written
-/

namespace MipitCore.Translation

open Js
open CodeUnit (ascii isDigit isLetter isUpper isWhite)

/-- What the message of `c` and its reading have in common. A customer's lines have room for an
account, and for a name where there is one or nothing comes after it. -/
structure Mt103Agrees (c : CanonicalPacs008) (msg msg' : SwiftMt103Message) : Prop where
  transactionRef : msg'.transactionRef = msg.transactionRef
  bankOperationCode : msg'.bankOperationCode = msg.bankOperationCode
  valueDate : msg'.valueDate = msg.valueDate
  currency : msg'.currency = msg.currency
  amount : msg'.amount = msg.amount
  orderingAccount : HasAccount c.debtor → msg'.orderingCustomer.account = msg.orderingCustomer.account
  orderingName : HasAccount c.debtor → NameFits c.debtor → IsNamed c.debtor →
    msg'.orderingCustomer.name = msg.orderingCustomer.name
  accountWithInstitution : msg'.accountWithInstitution = msg.accountWithInstitution
  beneficiaryAccount : HasAccount c.creditor →
    msg'.beneficiaryCustomer.account = msg.beneficiaryCustomer.account
  beneficiaryIban : msg'.beneficiaryCustomer.iban = msg.beneficiaryCustomer.iban
  beneficiaryName : HasAccount c.creditor → NameFits c.creditor →
    isIban c.creditor.accountId = true ∨ IsNamed c.creditor →
    msg'.beneficiaryCustomer.name = msg.beneficiaryCustomer.name
  detailsOfCharges : msg'.detailsOfCharges = msg.detailsOfCharges
  remittanceInfo : RemittanceFits c →
    msg'.remittanceInfo.map (List.filter (· ≠ ascii '\n')) = msg.remittanceInfo

section

variable {c : CanonicalPacs008}

/-! ### The fields of a clean message -/

theorem sanitizeReference_unit (s : Text) {u : CodeUnit} (hu : u ∈ sanitizeReference s) :
    isLetter u = true ∨ isDigit u = true ∨ u = ascii '/' ∨ u = ascii '-' := by
  obtain ⟨v, -, rfl⟩ := List.mem_map.mp hu
  split_ifs with h
  · simpa [or_assoc] using h
  · exact Or.inl (by decide)

/-- Units of references, of dates and amounts, and of identifiers. -/
theorem plain_unit {u : CodeUnit} (h : isLetter u = true ∨ isDigit u = true ∨ u = ascii '/' ∨
    u = ascii '-' ∨ u = ascii ',') : (u ≠ ascii ':' ∧ u ≠ ascii '}') ∧ isWhite u = false := by
  rcases h with h | h | rfl | rfl | rfl
  · have hrange : (65 ≤ u.toNat ∧ u.toNat ≤ 90) ∨ (97 ≤ u.toNat ∧ u.toNat ≤ 122) := by
      simpa [isLetter, isUpper, CodeUnit.isLower] using h
    refine ⟨⟨?_, ?_⟩, ?_⟩
    · rintro rfl
      revert hrange
      decide
    · rintro rfl
      revert hrange
      decide
    · simp only [isWhite, Bool.or_eq_false_iff, Bool.and_eq_false_iff, beq_eq_false_iff_ne,
        decide_eq_false_iff_not]
      omega
  · exact ⟨⟨digit_ne h (by decide), digit_ne h (by decide)⟩, isDigit_not_white h⟩
  · decide
  · decide
  · decide

theorem length_sanitizeReference (s : Text) : (sanitizeReference s).length = s.length :=
  List.length_map _

/-- The reference is not cut again. -/
theorem transactionRef_cut (c : CanonicalPacs008) :
    Text.substring (canonicalToSwiftMt103 c).transactionRef 16 =
      (canonicalToSwiftMt103 c).transactionRef := by
  refine List.take_of_length_le ?_
  rw [canonicalToSwiftMt103, length_sanitizeReference]
  exact List.length_take_le 16 _

theorem is32A_of_clean (hschema : c.SchemaValid) (h : Mt103Clean c)
    (hsmall : ∀ q, c.amount.value = .fin q → q < 10 ^ 21) : Is32A (canonicalToSwiftMt103 c) := by
  have hslice : (canonicalToSwiftMt103 c).valueDate = c.createdAt.1.take 10 := List.drop_zero
  refine ⟨⟨?_, ?_⟩, h.currency, hschema.isPositive, h.amount, hsmall⟩
  · rw [hslice]
    exact (Bool.and_eq_true_iff.mp c.createdAt.2).1
  · rw [hslice, List.take_take]
    exact h.year

theorem isPlain_text32A {msg : SwiftMt103Message} (h : Is32A msg) :
    IsPlain (text32A msg) ∧ Text.trim (text32A msg) = text32A msg := by
  have hunit : ∀ u ∈ text32A msg, (u ≠ ascii ':' ∧ u ≠ ascii '}') ∧ isWhite u = false := by
    intro u hu
    refine plain_unit ?_
    rcases mem_text32A h hu with hu | hu | hu
    · exact Or.inr (Or.inl hu)
    · exact Or.inl (by simp [isLetter, hu])
    · exact Or.inr (Or.inr (Or.inr (Or.inr hu)))
  exact ⟨fun u hu => (hunit u hu).1, Text.trim_eq_self fun u hu => (hunit u hu).2⟩

theorem isPlain_transactionRef (c : CanonicalPacs008) :
    IsPlain (canonicalToSwiftMt103 c).transactionRef ∧
      Text.trim (canonicalToSwiftMt103 c).transactionRef = (canonicalToSwiftMt103 c).transactionRef := by
  have hunit : ∀ u ∈ (canonicalToSwiftMt103 c).transactionRef,
      (u ≠ ascii ':' ∧ u ≠ ascii '}') ∧ isWhite u = false := by
    intro u hu
    refine plain_unit ?_
    rcases sanitizeReference_unit _ hu with hu | hu | hu | hu
    · exact Or.inl hu
    · exact Or.inr (Or.inl hu)
    · exact Or.inr (Or.inr (Or.inl hu))
    · exact Or.inr (Or.inr (Or.inr (Or.inl hu)))
  exact ⟨fun u hu => (hunit u hu).1, Text.trim_eq_self fun u hu => (hunit u hu).2⟩

theorem isPlain_paymentId (hschema : c.SchemaValid) : IsPlain c.paymentId := by
  have hid := hschema.isPaymentId
  simp only [isPaymentId, Bool.and_eq_true, decide_eq_true_eq] at hid
  obtain ⟨⟨⟨hstart, -⟩, -⟩, hunits⟩ := hid
  obtain ⟨r, hr⟩ := Text.startsWith_iff.mp hstart
  have hbegins : IsPlain (js "PMT-") := by decide
  have hdrop : c.paymentId.drop 4 = r := by
    rw [← hr]
    rfl
  intro u hu
  rw [← hr, List.mem_append] at hu
  rcases hu with hu | hu
  · exact hbegins u hu
  · rw [hdrop] at hunits
    have hunit := List.all_eq_true.mp hunits u hu
    rw [Bool.or_eq_true] at hunit
    refine (plain_unit ?_).1
    rcases hunit with hunit | hunit
    · exact Or.inl (by simp [isLetter, hunit])
    · exact Or.inr (Or.inl hunit)

/-! ### The beneficiary -/

theorem isCustomerOf_debtor (c : CanonicalPacs008) :
    IsCustomerOf (canonicalToSwiftMt103 c).orderingCustomer c.debtor := ⟨rfl, rfl, rfl⟩

theorem isCustomerOf_creditor (hiban : isIban c.creditor.accountId = false) :
    IsCustomerOf (canonicalToSwiftMt103 c).beneficiaryCustomer c.creditor :=
  ⟨by simp [canonicalToSwiftMt103, hiban], rfl, rfl⟩

theorem beneficiaryField_of_account (hiban : isIban c.creditor.accountId = false) :
    beneficiaryField (canonicalToSwiftMt103 c).beneficiaryCustomer =
      ("59", Text.trimEnd (customerLines 2 (canonicalToSwiftMt103 c).beneficiaryCustomer)) := by
  have hnone : (canonicalToSwiftMt103 c).beneficiaryCustomer.iban = none := by
    simp [canonicalToSwiftMt103, hiban]
  rw [beneficiaryField, hnone]
  rfl

/-- The lines of an IBAN and of a name. -/
def ibanLines (iban : Text) (name : Option Text) : Text :=
  ascii '/' :: (iban ++ ascii '\n' :: name.getD [])

theorem beneficiaryField_of_iban (hiban : isIban c.creditor.accountId = true) :
    beneficiaryField (canonicalToSwiftMt103 c).beneficiaryCustomer =
      ("59A", Text.trimEnd (ibanLines c.creditor.accountId
        (c.creditor.name.map fun name => name.substring 35))) := by
  have hsome : (canonicalToSwiftMt103 c).beneficiaryCustomer.iban.filter (· ≠ []) =
      some c.creditor.accountId := by
    have hne : c.creditor.accountId ≠ [] := by
      rintro hnil
      rw [hnil] at hiban
      cases hiban
    simp [canonicalToSwiftMt103, hiban, hne]
  have hname : Text.substring ((canonicalToSwiftMt103 c).beneficiaryCustomer.name.getD []) 35 =
      (c.creditor.name.map fun name => name.substring 35).getD [] := by
    change List.take 35 ((c.creditor.name.map fun name => name.substring 35).getD []) = _
    cases c.creditor.name with
    | none => rfl
    | some name => simp [Text.substring]
  rw [beneficiaryField, hsome, ibanLines, ← hname]

/-- Lines without the white space at their end, of which the name is trimmed or else the line break
goes too. -/
theorem trimEnd_ibanLines {iban : Text} {name : Option Text} (hiban : IsClean iban)
    (hname : ∀ n ∈ name, IsLine n) :
    Text.trimEnd (ibanLines iban name) =
      ascii '/' :: (iban ++ (name.map fun n => ascii '\n' :: Text.trim n).getD []) := by
  rw [ibanLines, Text.trimEnd_cons (by decide)]
  cases name with
  | none =>
    have hbreak : Text.trimEnd (iban ++ [ascii '\n']) = Text.trimEnd iban :=
      Text.trimEnd_append_replicate (by decide) iban 1
    rw [Option.getD_none, hbreak, trimEnd_of_trim hiban.trimmed, Option.map_none, Option.getD_none,
      List.append_nil]
  | some n =>
    have hline := hname n rfl
    have hsplit : ∀ t : Text, iban ++ ascii '\n' :: t = (iban ++ [ascii '\n']) ++ t := by simp
    rw [Option.getD_some, Option.map_some, Option.getD_some, hsplit,
      Text.trimEnd_append (by rw [← hline.trim_eq]; exact hline.trim_ne_nil), hline.trim_eq,
      ← hsplit]

/-- **An IBAN is found in its lines**, and a name that is there. -/
theorem beneficiaryCustomer_of_iban {body iban : Text} {name : Option Text} (hiban : IsClean iban)
    (hname : ∀ n ∈ name, IsLine n)
    (hfield : getField body "59A" = some (Text.trim (Text.trimEnd (ibanLines iban name)))) :
    beneficiaryCustomer body = { iban := some iban, name := name.map Text.trim } := by
  have hslash : ∀ u ∈ (ibanLines iban name).head?, isWhite u = false := by
    intro u hu
    obtain rfl := Option.some.inj hu
    decide
  have hsingle : ascii '\n' ∉ ascii '/' :: iban := by
    rw [List.mem_cons, not_or]
    exact ⟨by decide, hiban.single⟩
  have htrim : Text.trim (Text.trimEnd (ibanLines iban name)) =
      ascii '/' :: (iban ++ (name.map fun n => ascii '\n' :: Text.trim n).getD []) := by
    rw [trim_trimEnd hslash, trimEnd_ibanLines hiban hname]
  have hagain : Text.trim (ascii '/' :: (iban ++
      (name.map fun n => ascii '\n' :: Text.trim n).getD [])) =
      ascii '/' :: (iban ++ (name.map fun n => ascii '\n' :: Text.trim n).getD []) := by
    rw [← trimEnd_ibanLines hiban hname, trim_trimEnd hslash]
  have hparts : Text.split (ascii '/' :: (iban ++
      (name.map fun n => ascii '\n' :: Text.trim n).getD [])) (ascii '\n') =
      (ascii '/' :: iban) :: (name.map Text.trim).toList := by
    cases name with
    | none => simpa using split_of_notMem hsingle
    | some n =>
      have hline := hname n rfl
      have hcut : ascii '\n' ∉ Text.trim n := fun hmem =>
        hline.single ((Text.trim_prefix_of_head hline.head_not_white).subset hmem)
      have hsplit := Text.split_append (Text.trim n) hsingle
      rw [split_of_notMem hcut] at hsplit
      exact hsplit
  have hread : (some (ascii '/' :: (iban ++
      (name.map fun n => ascii '\n' :: Text.trim n).getD []))).filter (· ≠ []) =
      some (ascii '/' :: (iban ++ (name.map fun n => ascii '\n' :: Text.trim n).getD [])) :=
    Option.filter_some_pos (by simp)
  have hstart : Text.startsWith (ascii '/' :: iban) (js "/") = true :=
    Text.startsWith_append (js "/") iban
  have hiban' : Text.trim (Text.sliceFrom (ascii '/' :: iban) 1) = iban := hiban.trimmed
  rw [beneficiaryCustomer, hfield, htrim, hread]
  simp only [hagain, hparts, List.headD_cons, hstart, hiban', ↓reduceIte]
  cases name with
  | none => rfl
  | some n =>
    have htwice : Text.trim (Text.trim n) = Text.trim n := by
      rw [(hname n rfl).trim_eq, trim_trimEnd (hname n rfl).head_not_white]
    simp [htwice]

/-! ### Reading a clean message -/

theorem endFree_customerLines {customer : SwiftCustomer} {p : Party} (n : ℕ)
    (hcustomer : IsCustomerOf customer p) (h : PartyClean p) :
    EndFree (ascii ':' :: Text.trimEnd (customerLines n customer)) := by
  rw [customerLines_eq]
  exact (endFree_lines fun _ hline => isLine_customerLineList hcustomer h hline).of_start
    (List.cons_prefix_cons.mpr ⟨rfl, Text.trimEnd_prefix _⟩)

theorem endFree_ibanLines {iban : Text} {name : Option Text} (hiban : IsClean iban)
    (hname : ∀ n ∈ name, IsLine n) : EndFree (ascii ':' :: Text.trimEnd (ibanLines iban name)) := by
  have hfirst := (isLine_slash hiban.plain hiban.single).endFree
  have hsecond : EndFree (name.getD []) := by
    cases name with
    | none => exact (by decide : IsPlain []).endFree.of_suffix (List.suffix_cons _ _)
    | some n => exact (hname n rfl).endFree.of_suffix (List.suffix_cons _ _)
  exact (hfirst.line hsecond).of_start (List.cons_prefix_cons.mpr ⟨rfl, Text.trimEnd_prefix _⟩)

theorem isLine_cut_name {p : Party} (h : PartyClean p) :
    ∀ n ∈ p.name.map fun name => name.substring 35, IsLine n := by
  intro n hn
  obtain ⟨name, hname, rfl⟩ := Option.map_eq_some_iff.mp hn
  exact isLine_name h hname

theorem endFree_beneficiaryField (h : PartyClean c.creditor) :
    EndFree (ascii ':' :: (beneficiaryField (canonicalToSwiftMt103 c).beneficiaryCustomer).2) := by
  cases hiban : isIban c.creditor.accountId with
  | true =>
    rw [beneficiaryField_of_iban hiban]
    exact endFree_ibanLines h.accountId (isLine_cut_name h)
  | false =>
    rw [beneficiaryField_of_account hiban]
    exact endFree_customerLines 2 (isCustomerOf_creditor hiban) h

/-- **No field of a clean message ends before its line does.** -/
theorem endFree_mt103Fields (hschema : c.SchemaValid) (h : Mt103Clean c)
    (hsmall : ∀ q, c.amount.value = .fin q → q < 10 ^ 21) :
    ∀ f ∈ mt103Fields (canonicalToSwiftMt103 c), EndFree (ascii ':' :: f.2) := by
  have hoptional : ∀ {tag : String} {text : Option Text}, (∀ t ∈ text, IsPlain t) →
      ∀ f ∈ optionalField tag text, EndFree (ascii ':' :: f.2) := by
    intro tag text hplain f hf
    obtain ⟨t, ht, rfl⟩ := Option.map_eq_some_iff.mp (Option.mem_toList.mp hf)
    exact (hplain t ht).endFree
  intro f hf
  simp only [mt103Fields, List.mem_append, List.mem_cons, List.not_mem_nil, or_false] at hf
  rcases hf with ((((((rfl | rfl | rfl | rfl) | hf) | rfl) | hf) | rfl) | hf)
  · rw [transactionRef_cut]
    exact (isPlain_transactionRef c).1.endFree
  · exact (by decide : IsPlain (js "CRED")).endFree
  · exact (isPlain_text32A (is32A_of_clean hschema h hsmall)).1.endFree
  · exact endFree_customerLines 3 (isCustomerOf_debtor c) h.debtor
  · refine hoptional (fun bic hbic => ?_) f hf
    have hmem := (Option.filter_eq_some_iff.mp (Option.filter_eq_some_iff.mp hbic).1).1
    exact (h.bic bic hmem).plain
  · exact endFree_beneficiaryField h.creditor
  · refine hoptional (fun text htext => ?_) f hf
    obtain ⟨info, hinfo, rfl⟩ := Option.map_eq_some_iff.mp htext
    obtain rfl := Option.some.inj (Option.filter_eq_some_iff.mp hinfo).1
    exact isPlain_splitRemittance (isPlain_buildRemittanceInfo h hschema.length_purpose)
      (length_buildRemittanceInfo c)
  · exact (by decide : IsPlain (js "SHA")).endFree
  · refine hoptional (fun text htext => ?_) f hf
    obtain ⟨info, hinfo, rfl⟩ := Option.map_eq_some_iff.mp htext
    obtain rfl := Option.some.inj (Option.filter_eq_some_iff.mp hinfo).1
    have hbegins : IsPlain (js "/MIPIT/") := by decide
    intro u hu
    rcases List.mem_append.mp ((List.take_prefix 35 _).subset hu) with hu | hu
    · exact hbegins u hu
    · exact isPlain_paymentId hschema u hu

/-- What is read, where the date, the currency and the amount are. -/
theorem parseMt103_of_parse32A (fresh : Fresh) (raw : Text) {date currency amount : Text}
    (h : parse32A ((getField (messageBody raw) "32A").getD []) = some (date, currency, amount)) :
    (parseMt103 fresh raw).valueDate = valueDateOf date ∧
      (parseMt103 fresh raw).currency = currency ∧
      (parseMt103 fresh raw).amount = parseFloat (Text.replaceFirst (js ",") (js ".") amount) := by
  simp only [parseMt103, h, and_self]

section Reading

variable {fresh : Fresh}

/-- The fields that are always there, and the bank of the beneficiary. -/
theorem fieldOf_mt103Fields (msg : SwiftMt103Message) :
    fieldOf (mt103Fields msg) "20" = some (msg.transactionRef.substring 16) ∧
    fieldOf (mt103Fields msg) "23B" = some msg.bankOperationCode ∧
    fieldOf (mt103Fields msg) "32A" = some (text32A msg) ∧
    fieldOf (mt103Fields msg) "50A" = none ∧
    fieldOf (mt103Fields msg) "50K" = some (Text.trimEnd (customerLines 3 msg.orderingCustomer)) ∧
    fieldOf (mt103Fields msg) "57A" = msg.accountWithInstitution.filter (· ≠ []) ∧
    fieldOf (mt103Fields msg) "70" = (msg.remittanceInfo.filter (· ≠ [])).map splitRemittance ∧
    fieldOf (mt103Fields msg) "71A" = some ((msg.detailsOfCharges.filter (· ≠ [])).getD (js "SHA")) := by
  rcases beneficiaryField_tag msg.beneficiaryCustomer with htag | htag <;>
    simp [mt103Fields, htag]

/-- The beneficiary of an IBAN, or of another account. -/
theorem fieldOf_beneficiary (c : CanonicalPacs008) :
    (isIban c.creditor.accountId = true →
      fieldOf (mt103Fields (canonicalToSwiftMt103 c)) "59A" = some (Text.trimEnd
        (ibanLines c.creditor.accountId (c.creditor.name.map fun name => name.substring 35)))) ∧
    (isIban c.creditor.accountId = false →
      fieldOf (mt103Fields (canonicalToSwiftMt103 c)) "59A" = none ∧
      fieldOf (mt103Fields (canonicalToSwiftMt103 c)) "59" = some (Text.trimEnd
        (customerLines 2 (canonicalToSwiftMt103 c).beneficiaryCustomer))) := by
  constructor
  · intro hiban
    have hfield := beneficiaryField_of_iban hiban
    simp [mt103Fields, hfield]
  · intro hiban
    have hfield := beneficiaryField_of_account hiban
    simp [mt103Fields, hfield]

/-- The lines of a customer of a clean message. -/
theorem getMultilineField_clean {body : Text} {tag : String} {customer : SwiftCustomer} {p : Party}
    {n : ℕ} (hcustomer : IsCustomerOf customer p) (h : PartyClean p) (haccount : HasAccount p)
    (hfield : getField body tag = some (Text.trim (Text.trimEnd (customerLines n customer)))) :
    getMultilineField body tag = (customerLineList n customer).map Text.trim := by
  refine getMultilineField_lines ?_ (fun _ hline => isLine_customerLineList hcustomer h hline)
    (by rw [hfield, customerLines_eq])
  intro hnil
  have htrim := map_trim_customerLineList (n := n) hcustomer h haccount
  rw [hnil] at htrim
  cases htrim

theorem iban_customerOfLines (ls : List Text) : (customerOfLines ls).iban = none := by
  cases ls <;> rfl

/-- The parts of a message that are fields. -/
theorem parseMt103_fields (fresh : Fresh) (raw : Text) :
    (parseMt103 fresh raw).transactionRef =
        (getField (messageBody raw) "20").getD (js "MT103-" ++ fresh.e2eUlid.1.substring 16) ∧
      (parseMt103 fresh raw).bankOperationCode =
        (getField (messageBody raw) "23B").getD (js "CRED") ∧
      (parseMt103 fresh raw).orderingCustomer = orderingCustomer (messageBody raw) ∧
      (parseMt103 fresh raw).accountWithInstitution =
        ((getField (messageBody raw) "57A").filter (· ≠ [])).map Text.trim ∧
      (parseMt103 fresh raw).beneficiaryCustomer = beneficiaryCustomer (messageBody raw) ∧
      (parseMt103 fresh raw).remittanceInfo = getField (messageBody raw) "70" ∧
      (parseMt103 fresh raw).detailsOfCharges = getField (messageBody raw) "71A" :=
  ⟨rfl, rfl, rfl, rfl, rfl, rfl, rfl⟩

variable {body : Text}

/-- The body is read field by field. -/
def ReadsFields (body : Text) (msg : SwiftMt103Message) : Prop :=
  ∀ tag, isTag (js tag) = true → getField body tag = (fieldOf (mt103Fields msg) tag).map Text.trim

/-- The ordering customer is read from its lines. -/
theorem ordering_of_reads (hread : ReadsFields body (canonicalToSwiftMt103 c))
    (h : PartyClean c.debtor) (hacc : HasAccount c.debtor) :
    orderingCustomer body = customerOfLines
      ((customerLineList 3 (canonicalToSwiftMt103 c).orderingCustomer).map Text.trim) := by
  obtain ⟨-, -, -, h50A, h50K, -⟩ := fieldOf_mt103Fields (canonicalToSwiftMt103 c)
  have hnone : getField body "50A" = none := by rw [hread "50A" (by decide), h50A, Option.map_none]
  have hlines : getMultilineField body "50K" = _ :=
    getMultilineField_clean (isCustomerOf_debtor c) h hacc
      (by rw [hread "50K" (by decide), h50K, Option.map_some])
  rw [orderingCustomer, hnone, ← hlines]
  rfl

/-- The beneficiary of an IBAN is read from the line of the IBAN and that of the name. -/
theorem beneficiary_of_iban (hread : ReadsFields body (canonicalToSwiftMt103 c))
    (h : PartyClean c.creditor) (hiban : isIban c.creditor.accountId = true) :
    beneficiaryCustomer body =
      { iban := some c.creditor.accountId
        name := (c.creditor.name.map fun name => name.substring 35).map Text.trim } := by
  refine beneficiaryCustomer_of_iban h.accountId (isLine_cut_name h) ?_
  rw [hread "59A" (by decide), (fieldOf_beneficiary c).1 hiban, Option.map_some]

/-- Another beneficiary is read from its lines. -/
theorem beneficiary_of_account (hread : ReadsFields body (canonicalToSwiftMt103 c))
    (hiban : isIban c.creditor.accountId = false) :
    beneficiaryCustomer body = customerOfLines (getMultilineField body "59") := by
  have hnone : getField body "59A" = none := by
    rw [hread "59A" (by decide), ((fieldOf_beneficiary c).2 hiban).1, Option.map_none]
  rw [beneficiaryCustomer, hnone]
  rfl

theorem beneficiaryLines_of_account (hread : ReadsFields body (canonicalToSwiftMt103 c))
    (h : PartyClean c.creditor) (hiban : isIban c.creditor.accountId = false)
    (hacc : HasAccount c.creditor) :
    getMultilineField body "59" =
      (customerLineList 2 (canonicalToSwiftMt103 c).beneficiaryCustomer).map Text.trim :=
  getMultilineField_clean (isCustomerOf_creditor hiban) h hacc
    (by rw [hread "59" (by decide), ((fieldOf_beneficiary c).2 hiban).2, Option.map_some])

theorem beneficiaryIban_of_reads (hread : ReadsFields body (canonicalToSwiftMt103 c))
    (h : PartyClean c.creditor) :
    (beneficiaryCustomer body).iban = (canonicalToSwiftMt103 c).beneficiaryCustomer.iban := by
  cases hiban : isIban c.creditor.accountId with
  | true =>
    rw [beneficiary_of_iban hread h hiban]
    simp [canonicalToSwiftMt103, hiban]
  | false =>
    rw [beneficiary_of_account hread hiban, iban_customerOfLines]
    simp [canonicalToSwiftMt103, hiban]

theorem beneficiaryAccount_of_reads (hread : ReadsFields body (canonicalToSwiftMt103 c))
    (h : PartyClean c.creditor) (hacc : HasAccount c.creditor) :
    (beneficiaryCustomer body).account = (canonicalToSwiftMt103 c).beneficiaryCustomer.account := by
  cases hiban : isIban c.creditor.accountId with
  | true =>
    rw [beneficiary_of_iban hread h hiban]
    simp [canonicalToSwiftMt103, hiban]
  | false =>
    rw [beneficiary_of_account hread hiban, beneficiaryLines_of_account hread h hiban hacc,
      account_of_party (isCustomerOf_creditor hiban) h hacc]

theorem beneficiaryName_of_reads (hread : ReadsFields body (canonicalToSwiftMt103 c))
    (h : PartyClean c.creditor) (hacc : HasAccount c.creditor) (hfits : NameFits c.creditor)
    (hnamed : isIban c.creditor.accountId = true ∨ IsNamed c.creditor) :
    (beneficiaryCustomer body).name = (canonicalToSwiftMt103 c).beneficiaryCustomer.name := by
  cases hiban : isIban c.creditor.accountId with
  | true =>
    rw [beneficiary_of_iban hread h hiban]
    change (c.creditor.name.map _).map Text.trim = c.creditor.name.map _
    cases hname : c.creditor.name with
    | none => rfl
    | some name => exact congrArg some (trim_name h hfits hname)
  | false =>
    have hnamed' := hnamed.resolve_left (by simp [hiban])
    rw [beneficiary_of_account hread hiban, beneficiaryLines_of_account hread h hiban hacc,
      name_of_party (isCustomerOf_creditor hiban) h hacc hfits hnamed']

theorem accountWithInstitution_of_reads (hread : ReadsFields body (canonicalToSwiftMt103 c))
    (h : ∀ bic ∈ c.destination.bic, IsClean bic) :
    ((getField body "57A").filter (· ≠ [])).map Text.trim =
      (canonicalToSwiftMt103 c).accountWithInstitution := by
  obtain ⟨-, -, -, -, -, h57A, -⟩ := fieldOf_mt103Fields (canonicalToSwiftMt103 c)
  have hbank : (canonicalToSwiftMt103 c).accountWithInstitution =
      c.destination.bic.filter (· ≠ []) := rfl
  rw [hread "57A" (by decide), h57A, hbank]
  cases hbic : c.destination.bic with
  | none => rfl
  | some bic =>
    have hclean := h bic hbic
    simp [Option.filter, hclean.ne_nil, hclean.trimmed]

theorem remittanceInfo_of_reads (hread : ReadsFields body (canonicalToSwiftMt103 c))
    (h : Mt103Clean c) (hpurpose : c.purpose.length ≤ 35) (hfits : RemittanceFits c) :
    (getField body "70").map (List.filter (· ≠ ascii '\n')) =
      (canonicalToSwiftMt103 c).remittanceInfo := by
  obtain ⟨-, -, -, -, -, -, h70, -⟩ := fieldOf_mt103Fields (canonicalToSwiftMt103 c)
  have hclean := isClean_buildRemittanceInfo h hpurpose hfits
  obtain ⟨htrim, hfilter⟩ := splitRemittance_read hclean (length_buildRemittanceInfo c)
  have hsome : (canonicalToSwiftMt103 c).remittanceInfo.filter (· ≠ []) =
      some (buildRemittanceInfo c) := Option.filter_some_pos (by simpa using hclean.ne_nil)
  rw [hread "70" (by decide), h70, hsome, Option.map_some, Option.map_some, Option.map_some, htrim,
    hfilter]
  rfl

/-- **A clean message is read as it was written**, where the format has room for it. -/
theorem parseMt103_serializeMt103 (hschema : c.SchemaValid) (h : Mt103Clean c)
    (hsmall : ∀ q, c.amount.value = .fin q → q < 10 ^ 21) :
    Mt103Agrees c (canonicalToSwiftMt103 c)
      (parseMt103 fresh (serializeMt103 (canonicalToSwiftMt103 c))) := by
  have hread : ReadsFields (messageBody (serializeMt103 (canonicalToSwiftMt103 c)))
      (canonicalToSwiftMt103 c) := fun tag htag =>
    getField_serializeMt103 htag (endFree_mt103Fields hschema h hsmall)
  have his32A := is32A_of_clean hschema h hsmall
  -- each line of the parser, with the field that it reads
  obtain ⟨h20, h23B, h32A, -, -, -, -, h71A⟩ := fieldOf_mt103Fields (canonicalToSwiftMt103 c)
  obtain ⟨href, hcode, hordering, hbank, hbeneficiary, hinfo, hcharges⟩ :=
    parseMt103_fields fresh (serializeMt103 (canonicalToSwiftMt103 c))
  obtain ⟨hdate, hcurrency, hamount⟩ := parseMt103_of_parse32A fresh
    (serializeMt103 (canonicalToSwiftMt103 c)) (by
      rw [hread "32A" (by decide), h32A, Option.map_some, Option.getD_some,
        (isPlain_text32A his32A).2, parse32A_text32A his32A])
  constructor
  case transactionRef =>
    rw [href, hread "20" (by decide), h20, transactionRef_cut, Option.map_some, Option.getD_some,
      (isPlain_transactionRef c).2]
  case bankOperationCode =>
    rw [hcode, hread "23B" (by decide), h23B, Option.map_some, Option.getD_some]
    exact (by decide : Text.trim (js "CRED") = js "CRED")
  case valueDate => rw [hdate, valueDateOf_dateDigits his32A.valueDate]
  case currency => exact hcurrency
  case amount => rw [hamount, parseFloat_amountText his32A.amount]
  case orderingAccount =>
    intro hacc
    rw [hordering, ordering_of_reads hread h.debtor hacc,
      account_of_party (isCustomerOf_debtor c) h.debtor hacc]
  case orderingName =>
    intro hacc hfits hnamed
    rw [hordering, ordering_of_reads hread h.debtor hacc,
      name_of_party (isCustomerOf_debtor c) h.debtor hacc hfits hnamed]
  case accountWithInstitution => rw [hbank, accountWithInstitution_of_reads hread h.bic]
  case beneficiaryAccount =>
    intro hacc
    rw [hbeneficiary, beneficiaryAccount_of_reads hread h.creditor hacc]
  case beneficiaryIban => rw [hbeneficiary, beneficiaryIban_of_reads hread h.creditor]
  case beneficiaryName =>
    intro hacc hfits hnamed
    rw [hbeneficiary, beneficiaryName_of_reads hread h.creditor hacc hfits hnamed]
  case detailsOfCharges =>
    rw [hcharges, hread "71A" (by decide), h71A, Option.map_some]
    exact congrArg some (by decide : Text.trim (js "SHA") = js "SHA")
  case remittanceInfo =>
    intro hfits
    rw [hinfo, remittanceInfo_of_reads hread h hschema.length_purpose hfits]

end Reading

end

/-! ### Reais to SWIFT -/

namespace Example

theorem mt103Clean_inReais : Mt103Clean inReais :=
  mt103Clean_of_all (by decide +kernel) (by norm_num : (100 : ℚ) * 10 ^ 2 = (10000 : ℤ))

/-- The debtor has a name. -/
def fromAna : CanonicalPacs008 :=
  { inReais with
    debtor := { inReais.debtor with name := some (js "Ana Souza"), address := some [] } }

theorem schemaValid_fromAna : fromAna.SchemaValid := schemaValid_inReais.withDebtorName (by decide)

theorem mt103Clean_fromAna : Mt103Clean fromAna :=
  { mt103Clean_inReais with
    debtor := { mt103Clean_inReais.debtor with
      name := by decide +kernel
      address := by decide +kernel } }

end Example

/-- A payment of a debtor with a name. -/
theorem parseMt103_serializeMt103_fromAna :
    Mt103Agrees Example.fromAna (canonicalToSwiftMt103 Example.fromAna)
        (parseMt103 Example.fresh (serializeMt103 (canonicalToSwiftMt103 Example.fromAna))) ∧
      HasAccount Example.fromAna.debtor ∧ NameFits Example.fromAna.debtor ∧
      IsNamed Example.fromAna.debtor := by
  obtain ⟨hvalue, haccount⟩ :
      Example.fromAna.amount.value = .fin 100 ∧ HasAccount Example.fromAna.debtor := by
    decide +kernel
  refine ⟨parseMt103_serializeMt103 Example.schemaValid_fromAna Example.mt103Clean_fromAna ?_,
    haccount, by unfold NameFits; decide +kernel, Or.inl rfl⟩
  intro q hq
  rw [← Number.fin.inj (hvalue.symm.trans hq)]
  norm_num

namespace Example

/-- A message that the format has no room for: of `1e21`, from a debtor whose name is cut behind a
space, to an account that is the prefix of its network, with a text that is cut behind a space. -/
def roomy : JsValue := .object
  [("payment_id", .string (paymentIdOf Pipeline.Example.ulid)),
    ("created_at", .string (js "2026-03-13T10:30:00.000Z")),
    ("grpHdr", .object [("msgId", .string (js "M")),
      ("creDtTm", .string (js "2026-03-13T10:30:00.000Z"))]),
    ("pmtId", .object [("endToEndId", .string (js "E2E"))]),
    ("amount", .object [("value", .number (.fin (10 ^ 21))), ("currency", .string (js "BRL"))]),
    ("origin", .object [("rail", .string (js "PIX"))]),
    ("destination", .object []),
    ("debtor", .object [("account_id", .string (js "PIX-ana")),
      ("name", .string (List.replicate 34 (ascii 'A') ++ js " B"))]),
    ("creditor", .object [("account_id", .string (js "PIX-")), ("name", .string (js "Bob"))]),
    ("alias", .object [("type", .string (js "PIX_KEY")), ("value", .string (js "bob"))]),
    ("remittanceInfo", .string (List.replicate 104 (ascii 'A') ++ js " B")),
    ("status", .string (js "RECEIVED"))]

def fromRoomy : CanonicalPacs008 := (canonicalPacs008Schema roomy).get (by decide +kernel)

theorem schemaValid_fromRoomy : fromRoomy.SchemaValid := ⟨roomy, by simp [fromRoomy]⟩

theorem mt103Clean_fromRoomy : Mt103Clean fromRoomy :=
  mt103Clean_of_all (by decide +kernel)
    (by norm_num : ((10 : ℚ) ^ 21) * 10 ^ 2 = ((10 ^ 23 : ℤ) : ℚ))

/-- What is read of it. -/
def readRoomy : SwiftMt103Message :=
  parseMt103 fresh (serializeMt103 (canonicalToSwiftMt103 fromRoomy))

end Example

/-- Without a name, the country of the debtor is read as the name; and of a message that the format
has no room for, the amount, the accounts and the texts are not read as they were. -/
theorem mt103_changed :
    (Example.inReais.SchemaValid ∧ Mt103Clean Example.inReais ∧
      (canonicalToSwiftMt103 Example.inReais).orderingCustomer.name = none ∧
      (parseMt103 Example.fresh (serializeMt103 (canonicalToSwiftMt103
        Example.inReais))).orderingCustomer.name = some (js "Country: BR")) ∧
    (Example.fromRoomy.SchemaValid ∧ Mt103Clean Example.fromRoomy ∧
      Example.readRoomy.currency ≠ (canonicalToSwiftMt103 Example.fromRoomy).currency ∧
      Example.readRoomy.amount = .fin 0 ∧
      Example.readRoomy.orderingCustomer.name ≠
        (canonicalToSwiftMt103 Example.fromRoomy).orderingCustomer.name ∧
      Example.readRoomy.beneficiaryCustomer.account = some (js "Bob") ∧
      Example.readRoomy.remittanceInfo.map (List.filter (· ≠ ascii '\n')) ≠
        (canonicalToSwiftMt103 Example.fromRoomy).remittanceInfo) := by
  -- each message is written and read once
  refine ⟨⟨Example.schemaValid_inReais, Example.mt103Clean_inReais, ?_⟩,
    Example.schemaValid_fromRoomy, Example.mt103Clean_fromRoomy, ?_⟩
  all_goals decide +kernel

end MipitCore.Translation
