import MipitCore.Api.PaymentRequest
import MipitCore.Foundation.CheckDigit
import MipitCore.Js.FixedText

/-!
# The check digit of a CLABE

A CLABE has 17 digits and a check digit, which Banxico defines by the products of the digits with
the weights 3, 7 and 1, each of them modulo ten. The program adds up the products as they are. In
either way, the 18 digits are a codeword for these weights and a last weight of one, all of them
prime to ten.

So 17 digits have one check digit, and no CLABE differs from another one in a single digit.

## Main definitions

* `clabeWeights`, `clabeCheckDigit`, `IsClabe` — the standard
* `withAlias` — a body with another alias of a party
* `takesRest` — what the schema asks of a body besides its parties

## Main results

* `isValidCLABE_iff_isCodeword`, `isClabe_iff_isCodeword` — program and standard are the same code
* `isSome_createPaymentSchema_iff` — when the schema takes a SPEI alias
* `isValidCLABE_isCheckDigitCode`
-/

namespace MipitCore.Api

open Js Foundation.CheckDigit
open CodeUnit (ascii isDigit)

/-- The weights `3`, `7`, `1`, over and over. -/
def clabeWeights : List ℕ := (List.range 17).map fun i => [3, 7, 1].getD (i % 3) 0

/-- Banxico's check digit: ten minus the sum of the products modulo ten, modulo ten. -/
def clabeCheckDigit (digits : List ℕ) : ℤ :=
  (10 - ((List.zipWith (fun d w => d * w % 10) digits clabeWeights).sum : ℕ)) % 10

/-- 18 decimal digits, of which the last one is the check digit of the others. -/
structure IsClabe (s : Text) : Prop where
  length_eq : s.length = 18
  digits : ∀ c ∈ s, isDigit c = true
  check : ∀ c ∈ s.getLast?, (digitValue c : ℤ) = clabeCheckDigit (s.dropLast.map digitValue)

/-- What `createPaymentSchema` asks of a body, its parties apart. -/
def takesRest (o : List (String × JsValue)) : Bool :=
  ((Schema.number.refine fun n => n.isPositive = true).field "amount" o).isSome &&
    ((Schema.string.refine fun s => s.length = 3).optional.field "currency" o).isSome &&
    ((Schema.maxText 35).optional.field "purpose" o).isSome &&
    ((Schema.maxText 140).optional.field "reference" o).isSome

/-- The body with the fields `o`, in which the party with the fields `fields` has another alias. -/
def withAlias (party : String) (alias' : Text) (o fields : List (String × JsValue)) : JsValue :=
  .object (JsValue.setField party (.object (JsValue.setField "alias" (.string alias') fields)) o)

section

variable {s p : Text} {c : CodeUnit}

/-! ### The code -/

theorem length_clabeWeights : clabeWeights.length = 17 := by decide

theorem lt_of_isDigits (h : isDigits s = true) : ∀ d ∈ s.map digitValue, d < 10 := by
  intro d hd
  obtain ⟨c, hc, rfl⟩ := List.mem_map.mp hd
  exact digitValue_lt (List.all_eq_true.mp h c hc)

theorem exists_append_of_length (h : s.length = 18) : ∃ p c, s = p ++ [c] ∧ p.length = 17 := by
  obtain rfl | ⟨p, c, rfl⟩ := List.eq_nil_or_concat s
  · cases h
  · exact ⟨p, c, List.concat_eq_append, by simpa using h⟩

/-- 17 digits and one more are a codeword if that is what they lack of a multiple of ten. -/
theorem isCodeword_iff_of_append (hp : p.length = 17) (hdigits : isDigits (p ++ [c]) = true) :
    IsCodeword 10 (clabeWeights ++ [1]) ((p ++ [c]).map digitValue) ↔
      digitValue c = checkDigit 10 clabeWeights (p.map digitValue) := by
  have hlt := lt_of_isDigits (isDigits_append.mp hdigits).1
  have hlength : (p.map digitValue).length = clabeWeights.length := by
    rw [List.length_map, hp, length_clabeWeights]
  rw [List.map_append, List.map_singleton, isCodeword_append_iff (by decide) hlength,
    and_iff_right hlt]

theorem weightedSum_append (hp : p.length = 17) :
    weightedSum (p ++ [c]) [3, 7, 1, 3, 7, 1, 3, 7, 1, 3, 7, 1, 3, 7, 1, 3, 7] =
      weighted (p.map digitValue) clabeWeights := by
  have hweights : [3, 7, 1, 3, 7, 1, 3, 7, 1, 3, 7, 1, 3, 7, 1, 3, 7] = clabeWeights ++ [] := by
    decide
  rw [weightedSum, hweights, List.zip_append (by rw [hp, length_clabeWeights]), List.zip_nil_right,
    List.append_nil, weighted, List.zipWith_map_left, List.zip, List.map_zipWith]

/-- It makes no difference where the products are reduced. -/
theorem eq_clabeCheckDigit_iff {d : ℕ} {digits : List ℕ} :
    (d : ℤ) = clabeCheckDigit digits ↔ d = checkDigit 10 clabeWeights digits := by
  have hmod := weighted_mod 10 digits clabeWeights
  rw [clabeCheckDigit, checkDigit]
  omega

/-- **The program checks the code.** -/
theorem isValidCLABE_iff_isCodeword :
    isValidCLABE s = true ↔
      isDigits s = true ∧ IsCodeword 10 (clabeWeights ++ [1]) (s.map digitValue) := by
  by_cases hlength : s.length = 18
  · obtain ⟨p, c, rfl, hp⟩ := exists_append_of_length hlength
    have hlast : digitsValue ((p ++ [c]).drop 17) = digitValue c := by
      rw [← hp, List.drop_left]
      simp [digitsValue]
    simp only [isValidCLABE, hlength, hlast, weightedSum_append hp, decide_true, Bool.true_and,
      Bool.and_eq_true, decide_eq_true_iff]
    exact and_congr_right fun hdigits => (isCodeword_iff_of_append hp hdigits).symm
  · refine iff_of_false (by simp [isValidCLABE, hlength]) fun h => hlength ?_
    simpa [length_clabeWeights] using h.2.length_eq

/-- **The standard describes the code.** -/
theorem isClabe_iff_isCodeword :
    IsClabe s ↔
      isDigits s = true ∧ IsCodeword 10 (clabeWeights ++ [1]) (s.map digitValue) := by
  have hdigits : (∀ c ∈ s, isDigit c = true) ↔ isDigits s = true := List.all_eq_true.symm
  constructor
  · intro h
    obtain ⟨p, c, rfl, hp⟩ := exists_append_of_length h.length_eq
    refine ⟨hdigits.mp h.digits, (isCodeword_iff_of_append hp (hdigits.mp h.digits)).mpr ?_⟩
    have hcheck := h.check c (by simp)
    rw [List.dropLast_concat] at hcheck
    exact eq_clabeCheckDigit_iff.mp hcheck
  · rintro ⟨hall, hword⟩
    have hlength : s.length = 18 := by simpa [length_clabeWeights] using hword.length_eq
    refine ⟨hlength, hdigits.mpr hall, ?_⟩
    obtain ⟨p, c, rfl, hp⟩ := exists_append_of_length hlength
    intro c' hc'
    obtain rfl : c = c' := by simpa using hc'
    rw [List.dropLast_concat]
    exact eq_clabeCheckDigit_iff.mpr ((isCodeword_iff_of_append hp hall).mp hword)

/-- **Program and standard agree.** -/
theorem isValidCLABE_iff_isClabe : isValidCLABE s = true ↔ IsClabe s :=
  isValidCLABE_iff_isCodeword.trans isClabe_iff_isCodeword.symm

/-! ### One digit -/

theorem exists_digit {d : ℕ} (hd : d < 10) : ∃ c, isDigit c = true ∧ digitValue c = d := by
  have hall : ∀ d < 10, isDigit (ascii d.digitChar) = true ∧
      digitValue (ascii d.digitChar) = d := by
    decide
  exact ⟨ascii d.digitChar, hall d hd⟩

/-- **17 digits have one check digit.** -/
theorem existsUnique_isValidCLABE (hp : p.length = 17) (hdigits : isDigits p = true) :
    ∃! c, isDigit c = true ∧ isValidCLABE (p ++ [c]) = true := by
  have hvalid : ∀ c, isDigit c = true → (isValidCLABE (p ++ [c]) = true ↔
      digitValue c = checkDigit 10 clabeWeights (p.map digitValue)) := by
    intro c hc
    have hall : isDigits (p ++ [c]) = true := isDigits_append.mpr ⟨hdigits, by simp [isDigits, hc]⟩
    rw [isValidCLABE_iff_isCodeword, and_iff_right hall, isCodeword_iff_of_append hp hall]
  obtain ⟨c, hc, hvalue⟩ := exists_digit (checkDigit_lt (by decide) clabeWeights (p.map digitValue))
  refine ⟨c, ⟨hc, (hvalid c hc).mpr hvalue⟩, ?_⟩
  rintro c' ⟨hc', hvalid'⟩
  exact digitValue_inj hc' hc (((hvalid c' hc').mp hvalid').trans hvalue.symm)

/-- **A CLABE with another digit in one place is none.** -/
theorem isValidCLABE_set (h : isValidCLABE s = true) {i : ℕ} (hi : i < s.length)
    (hc : isDigit c = true) (hne : c ≠ s[i]) : isValidCLABE (s.set i c) = false := by
  obtain ⟨hdigits, hword⟩ := isValidCLABE_iff_isCodeword.mp h
  refine Bool.eq_false_iff.mpr fun h' => hne ?_
  have hword' := (isValidCLABE_iff_isCodeword.mp h').2
  rw [List.map_set] at hword'
  have hi' : i < (s.map digitValue).length := by rwa [List.length_map]
  have hw : i < (clabeWeights ++ [1]).length := hword.length_eq ▸ hi'
  have hprime : ∀ w ∈ clabeWeights ++ [1], Nat.gcd 10 w = 1 := by decide
  have hvalue := hword.getElem_eq hi' hw (hprime _ (List.getElem_mem hw)) hword'
  rw [List.getElem_map] at hvalue
  exact digitValue_inj hc (List.all_eq_true.mp hdigits _ (List.getElem_mem hi)) hvalue.symm

end

/-! ### The alias of a party -/

section

variable {α β : Type} {o fields : List (String × JsValue)} {party field : String} {s : Text}

theorem isOk_validateAlias_spei :
    (validateAlias field (js "SPEI-" ++ s)).isOk = isValidCLABE s := by
  have hne : js "SPEI-" ++ s ≠ [] := List.cons_ne_nil _ _
  have hpix : (js "SPEI-" ++ s).startsWith (js "PIX-") = false := rfl
  have hspei : (js "SPEI-" ++ s).startsWith (js "SPEI-") = true :=
    Text.startsWith_iff.mpr ⟨s, rfl⟩
  have hdrop : (js "SPEI-" ++ s).drop 5 = s := rfl
  rw [validateAlias, if_neg hne, hpix, hspei, hdrop]
  cases isValidCLABE s <;> rfl

theorem isSome_bind_of_forall {x : Option α} {f : α → Option β} {q : Bool}
    (h : ∀ a, (f a).isSome = q) : (x >>= f).isSome = (x.isSome && q) := by
  cases x with
  | none => rfl
  | some a => exact h a

theorem field_setField_self {key : String} {v : JsValue} (S : Schema α) :
    S.field key (JsValue.setField key v o) = S v := by
  rw [Schema.field, JsValue.field_setField, if_pos rfl]

theorem field_setField_of_ne {key key' : String} {v : JsValue} (S : Schema α) (h : key' ≠ key) :
    S.field key (JsValue.setField key' v o) = S.field key o := by
  rw [Schema.field, JsValue.field_setField, if_neg h, Schema.field]

/-- A default makes a property optional. -/
theorem isSome_field_default (d : α) (S : Schema α) (key : String) :
    ((S.default d).field key o).isSome = (S.optional.field key o).isSome := by
  rw [Schema.field, Schema.field]
  cases JsValue.field key o <;> simp [Schema.default, Schema.optional]

/-- A property that is overwritten with what it is. -/
theorem setField_of_field {key : String} {v : JsValue} (hv : v ≠ .undefined)
    (h : JsValue.field key o = v) : JsValue.setField key v o = o := by
  induction o with
  | nil => exact absurd h.symm hv
  | cons f o ih =>
    obtain ⟨k, w⟩ := f
    rw [JsValue.field_cons] at h
    by_cases hk : k = key
    · rw [if_pos hk] at h
      rw [JsValue.setField, if_pos hk, h]
    · rw [if_neg hk] at h
      rw [JsValue.setField, if_neg hk, ih h]

theorem withAlias_of_field {alias' : Text} (hparty : JsValue.field party o = .object fields)
    (halias : JsValue.field "alias" fields = .string alias') :
    withAlias party alias' o fields = .object o := by
  rw [withAlias, setField_of_field (fun h => JsValue.noConfusion h) halias,
    setField_of_field (fun h => JsValue.noConfusion h) hparty]

/-- The schema of a party takes the alias if `validateAlias` does, whatever it says of the name. -/
theorem isSome_partyRequestSchema {alias' : Text} :
    (partyRequestSchema field (.object (JsValue.setField "alias" (.string alias') fields))).isSome =
      ((validateAlias field alias').isOk &&
        ((Schema.maxText 140).optional.field "name" fields).isSome) := by
  have hread : ((Schema.string.refine fun a => (validateAlias field a).isOk = true).field "alias"
      (JsValue.setField "alias" (.string alias') fields)).isSome =
        (validateAlias field alias').isOk := by
    rw [field_setField_self, Schema.refine, Schema.string_string, Option.bind_some]
    split <;> simp_all
  rw [← hread, ← field_setField_of_ne _ (by decide : "alias" ≠ "name")]
  refine isSome_bind_of_forall fun a => ?_
  rw [isSome_bind_of_forall (q := true) fun name => rfl, Bool.and_true]

theorem isSome_createPaymentSchema :
    (createPaymentSchema (.object o)).isSome = true ↔
      takesRest o = true ∧ ((partyRequestSchema "debtor").field "debtor" o).isSome = true ∧
        ((partyRequestSchema "creditor").field "creditor" o).isSome = true := by
  have hfields : (createPaymentSchema (.object o)).isSome =
      (((Schema.number.refine fun n => n.isPositive = true).field "amount" o).isSome &&
        (((Schema.string.refine fun s => s.length = 3).optional.field "currency" o).isSome &&
        (((partyRequestSchema "debtor").field "debtor" o).isSome &&
        (((partyRequestSchema "creditor").field "creditor" o).isSome &&
        (((Schema.maxText 35).optional.field "purpose" o).isSome &&
        ((Schema.maxText 140).optional.field "reference" o).isSome))))) := by
    refine isSome_bind_of_forall fun amount => ?_
    rw [← isSome_field_default]
    refine isSome_bind_of_forall fun currency => ?_
    refine isSome_bind_of_forall fun debtor => ?_
    refine isSome_bind_of_forall fun creditor => ?_
    rw [← isSome_field_default]
    refine isSome_bind_of_forall fun purpose => ?_
    rw [← isSome_field_default, isSome_bind_of_forall (q := true) fun reference => rfl,
      Bool.and_true]
  rw [hfields, takesRest]
  simp only [Bool.and_eq_true]
  tauto

theorem takesRest_setField (hparty : party ∈ ["debtor", "creditor"]) (v : JsValue) :
    takesRest (JsValue.setField party v o) = takesRest o := by
  have hne : ∀ key ∈ ["amount", "currency", "purpose", "reference"], party ≠ key := by
    revert party
    decide
  simp only [List.forall_mem_cons] at hne
  obtain ⟨hamount, hcurrency, hpurpose, hreference, -⟩ := hne
  rw [takesRest, field_setField_of_ne _ hamount, field_setField_of_ne _ hcurrency,
    field_setField_of_ne _ hpurpose, field_setField_of_ne _ hreference, takesRest]

/-- Whatever else the body must be for the schema to take it, the alias of a party is no part of
that. -/
theorem exists_isSome_withAlias_iff (hparty : party ∈ ["debtor", "creditor"])
    (o fields : List (String × JsValue)) :
    ∃ rest : Prop, ∀ alias', (createPaymentSchema (withAlias party alias' o fields)).isSome = true ↔
      (validateAlias party alias').isOk = true ∧ rest := by
  have hother : "debtor" ≠ "creditor" := by decide
  obtain rfl | hcreditor := List.mem_cons.mp hparty
  · refine ⟨takesRest o = true ∧ ((Schema.maxText 140).optional.field "name" fields).isSome = true ∧
      ((partyRequestSchema "creditor").field "creditor" o).isSome = true, fun alias' => ?_⟩
    rw [withAlias, isSome_createPaymentSchema, takesRest_setField hparty, field_setField_self,
      field_setField_of_ne _ hother, isSome_partyRequestSchema, Bool.and_eq_true]
    tauto
  · obtain rfl := List.mem_singleton.mp hcreditor
    refine ⟨takesRest o = true ∧ ((Schema.maxText 140).optional.field "name" fields).isSome = true ∧
      ((partyRequestSchema "debtor").field "debtor" o).isSome = true, fun alias' => ?_⟩
    rw [withAlias, isSome_createPaymentSchema, takesRest_setField hparty, field_setField_self,
      field_setField_of_ne _ hother.symm, isSome_partyRequestSchema, Bool.and_eq_true]
    tauto

theorem isSome_createPaymentSchema_iff (hparty : party ∈ ["debtor", "creditor"])
    (hfields : JsValue.field party o = .object fields)
    (halias : JsValue.field "alias" fields = .string (js "SPEI-" ++ s)) :
    (createPaymentSchema (.object o)).isSome = true ↔
      IsClabe s ∧
        ∃ alias', (createPaymentSchema (withAlias party alias' o fields)).isSome = true := by
  obtain ⟨rest, hrest⟩ := exists_isSome_withAlias_iff hparty o fields
  have hbody : (createPaymentSchema (.object o)).isSome = true ↔
      (validateAlias party (js "SPEI-" ++ s)).isOk = true ∧ rest := by
    rw [← withAlias_of_field hfields halias, hrest]
  rw [hbody, isOk_validateAlias_spei, isValidCLABE_iff_isClabe]
  refine and_congr_right fun hclabe => ?_
  have hok : (validateAlias party (js "SPEI-" ++ s)).isOk = true := by
    rw [isOk_validateAlias_spei, isValidCLABE_iff_isClabe]
    exact hclabe
  constructor
  · intro h
    exact ⟨js "SPEI-" ++ s, (hrest _).mpr ⟨hok, h⟩⟩
  · rintro ⟨alias', h⟩
    exact ((hrest alias').mp h).2

end

/-- **The check of a CLABE is the check-digit code**: it is Banxico's, 17 digits have one check
digit, no CLABE differs from another one in a single digit, and a body with a SPEI alias is accepted
if the key is a CLABE and nothing else is wrong with it. -/
theorem isValidCLABE_isCheckDigitCode :
    (∀ s, isValidCLABE s = true ↔ IsClabe s) ∧
    (∀ p : Text, p.length = 17 → isDigits p = true →
      ∃! c, isDigit c = true ∧ isValidCLABE (p ++ [c]) = true) ∧
    (∀ (s : Text) (i : ℕ) (hi : i < s.length) (c : CodeUnit), isValidCLABE s = true →
      isDigit c = true → c ≠ s[i] → isValidCLABE (s.set i c) = false) ∧
    (∀ (field : String) (s : Text),
      (validateAlias field (js "SPEI-" ++ s)).isOk = true ↔ IsClabe s) ∧
    (∀ party ∈ ["debtor", "creditor"], ∀ (o fields : List (String × JsValue)) (s : Text),
      JsValue.field party o = .object fields →
      JsValue.field "alias" fields = .string (js "SPEI-" ++ s) →
      ((createPaymentSchema (.object o)).isSome = true ↔
        IsClabe s ∧
          ∃ alias', (createPaymentSchema (withAlias party alias' o fields)).isSome = true)) := by
  refine ⟨fun s => isValidCLABE_iff_isClabe,
    fun p hp hdigits => existsUnique_isValidCLABE hp hdigits,
    fun s i hi c h hc hne => isValidCLABE_set h hi hc hne, fun field s => ?_,
    fun party hparty o fields s hfields halias =>
      isSome_createPaymentSchema_iff hparty hfields halias⟩
  rw [isOk_validateAlias_spei, isValidCLABE_iff_isClabe]

/-- A digit of `032180000118359719` is replaced by another one. -/
theorem isValidCLABE_isCheckDigitCode_digit :
    IsClabe (js "032180000118359719") ∧
      isValidCLABE ((js "032180000118359719").set 8 (ascii '7')) = false :=
  ⟨(isValidCLABE_isCheckDigitCode.1 _).mp (by decide),
    isValidCLABE_isCheckDigitCode.2.2.1 (js "032180000118359719") 8 (by decide) (ascii '7')
      (by decide) (by decide) (by decide)⟩

end MipitCore.Api
