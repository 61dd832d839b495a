import MipitCore.Pipeline.Execute

/-!
# The two classifications of aliases

The pipeline asks for the rail of the debtor's alias, the route engine for the type of the
creditor's. Both go through the same prefixes and patterns in the same order, but the
pipeline knows one more: an e-mail address is a key of PIX, unless it begins as a Colombian
telephone number would. To the route engine it is an account like any other, for no other
pattern admits an `@`.

## Main definitions

* `inferAliasType`
* `ClassifiedAlike` — both classifications say the same of an alias
* `isEmailKey`, `hasPoCPrefix`

## Main results

* `at_notMem_of_isEvp` — an `@` is in none of the other keys of PIX
* `classifiedAlike_iff`
-/

namespace MipitCore.Routing

open Js Pipeline
open CodeUnit (ascii isDigit isUpper)

/-- `/^[A-Z]{2}\d{2}[A-Z0-9]{4,}$/` -/
def isIbanLike (s : Text) : Bool :=
  8 ≤ s.length && (s.take 2).all isUpper && isDigits ((s.drop 2).take 2) &&
    (s.drop 4).all fun c => isUpper c || isDigit c

/-- `/^[A-Z]{4}[A-Z]{2}[A-Z0-9]{2}([A-Z0-9]{3})?$/` -/
def isBic (s : Text) : Bool :=
  (s.length = 8 || s.length = 11) && (s.take 6).all isUpper &&
    (s.drop 6).all fun c => isUpper c || isDigit c

/-- `inferAliasType(alias)` -/
def inferAliasType (alias' : Text) : AliasType :=
  if alias'.startsWith (js "PIX-") then .pixKey
  else if alias'.startsWith (js "SPEI-") then .clabe
  else if alias'.startsWith (js "BREB-") then .llaveBreb
  else if isCpf alias' then .pixKey
  else if isCnpj alias' then .pixKey
  else if isBrazilianPhone alias' then .pixKey
  else if isEvp alias' then .pixKey
  else if isClabeDigits alias' then .clabe
  else if isColombianPhone alias' then .llaveBreb
  else if isNit alias' then .llaveBreb
  else if isIbanLike alias' then .iban
  else if isBic alias' then .bic
  else .account

/-- The rail that the pipeline infers and the type that the route engine infers belong together. -/
structure ClassifiedAlike (alias' : Text) : Prop where
  pix : inferRail alias' = .ok .pix ↔ inferAliasType alias' = .pixKey
  spei : inferRail alias' = .ok .spei ↔ inferAliasType alias' = .clabe
  breB : inferRail alias' = .ok .breB ↔ inferAliasType alias' = .llaveBreb
  throws : (∃ err, inferRail alias' = .error err) ↔
    inferAliasType alias' = .iban ∨ inferAliasType alias' = .bic ∨ inferAliasType alias' = .account

/-- What the pipeline takes for an e-mail address. -/
def isEmailKey (s : Text) : Bool := isEmail s && !s.startsWith (js "+57")

/-- The prefixes of the proof of concept. -/
def hasPoCPrefix (s : Text) : Bool :=
  s.startsWith (js "PIX-") || s.startsWith (js "SPEI-") || s.startsWith (js "BREB-")

section

variable {s : Text}

/-! ### No other key contains an `@` -/

theorem at_mem_of_isEmail (h : isEmail s = true) : ascii '@' ∈ s := by
  simp only [isEmail, Bool.and_eq_true, decide_eq_true_eq] at h
  refine List.count_pos_iff.mp ?_
  rw [h.1.1.1]
  exact Nat.one_pos

/-- Units that are all of a kind without `@`, and others that are not `@` either. -/
theorem at_notMem_take {p : CodeUnit → Bool} (hp : p (ascii '@') = false) {n : ℕ}
    (h : (s.take n).all p = true) (hrest : ascii '@' ∉ s.drop n) : ascii '@' ∉ s := by
  intro hmem
  rw [← List.take_append_drop n s, List.mem_append] at hmem
  rcases hmem with hmem | hmem
  · rw [List.all_eq_true.mp h _ hmem] at hp
    cases hp
  · exact hrest hmem

/-- One unit that is not `@`, and others that are not either. -/
theorem at_notMem_drop {c : CodeUnit} (hc : c ≠ ascii '@') {n : ℕ} (h : s[n]? = some c)
    (hrest : ascii '@' ∉ s.drop (n + 1)) : ascii '@' ∉ s.drop n := by
  obtain ⟨hn, rfl⟩ := List.getElem?_eq_some_iff.mp h
  rw [List.drop_eq_getElem_cons hn, List.mem_cons, not_or]
  exact ⟨Ne.symm hc, hrest⟩

theorem at_notMem_digits (h : isDigits s = true) : ascii '@' ∉ s := fun hmem =>
  absurd (List.all_eq_true.mp h _ hmem) (by decide)

theorem at_notMem_of_isDigitsOfLength {n : ℕ} (h : isDigitsOfLength n s = true) : ascii '@' ∉ s :=
  at_notMem_digits (Bool.and_eq_true_iff.mp h).2

theorem at_notMem_of_isBrazilianPhone (h : isBrazilianPhone s = true) : ascii '@' ∉ s := by
  obtain ⟨hcountry, hnumber⟩ := Bool.and_eq_true_iff.mp h
  obtain ⟨number, rfl⟩ := Text.startsWith_iff.mp hcountry
  have hdrop : (js "+55" ++ number).drop 3 = number := rfl
  rw [hdrop, Bool.or_eq_true] at hnumber
  rw [List.mem_append, not_or]
  refine ⟨by decide, ?_⟩
  rcases hnumber with hnumber | hnumber
  · exact at_notMem_of_isDigitsOfLength hnumber
  · exact at_notMem_of_isDigitsOfLength hnumber

theorem at_notMem_of_isEvp (h : isEvp s = true) : ascii '@' ∉ s := by
  simp only [isEvp, Bool.and_eq_true, decide_eq_true_eq] at h
  obtain ⟨⟨⟨⟨⟨⟨⟨⟨⟨⟨⟨-, h8⟩, hdash8⟩, h4⟩, hdash13⟩, hversion⟩, h3⟩, hdash18⟩, hvariant⟩, h3'⟩,
    hdash23⟩, h12⟩ := h
  have hdash : ascii '-' ≠ ascii '@' := by decide
  have hfour : ascii '4' ≠ ascii '@' := by decide
  have hhex : isHexUnit (ascii '@') = false := by decide
  -- group by group, from the last one on
  refine at_notMem_take hhex h8 (at_notMem_drop hdash hdash8 (at_notMem_take hhex h4 ?_))
  rw [List.drop_drop]
  refine at_notMem_drop hdash hdash13 (at_notMem_drop hfour hversion (at_notMem_take hhex h3 ?_))
  rw [List.drop_drop]
  refine at_notMem_drop hdash hdash18 (at_notMem_take (by decide) hvariant ?_)
  rw [List.drop_drop]
  refine at_notMem_take hhex h3' ?_
  rw [List.drop_drop]
  exact at_notMem_drop hdash hdash23 fun hmem =>
    absurd (List.all_eq_true.mp h12 _ hmem) (by decide)

/-- **The key of PIX that the route engine does not know**: it takes no e-mail address for one. -/
theorem inferAliasType_of_isEmail (h : isEmail s = true) (hplain : hasPoCPrefix s = false) :
    inferAliasType s ≠ .pixKey := by
  have hat := at_mem_of_isEmail h
  have hcpf : isCpf s = false :=
    Bool.eq_false_iff.mpr fun hkey => at_notMem_of_isDigitsOfLength hkey hat
  have hcnpj : isCnpj s = false :=
    Bool.eq_false_iff.mpr fun hkey => at_notMem_of_isDigitsOfLength hkey hat
  have hphone : isBrazilianPhone s = false :=
    Bool.eq_false_iff.mpr fun hkey => at_notMem_of_isBrazilianPhone hkey hat
  have hevp : isEvp s = false := Bool.eq_false_iff.mpr fun hkey => at_notMem_of_isEvp hkey hat
  obtain ⟨hpixSpei, hbreb⟩ := Bool.or_eq_false_iff.mp hplain
  obtain ⟨hpix, hspei⟩ := Bool.or_eq_false_iff.mp hpixSpei
  have hfalse := Bool.false_ne_true
  rw [inferAliasType, hpix, hspei, hbreb, hcpf, hcnpj, hphone, hevp, if_neg hfalse, if_neg hfalse,
    if_neg hfalse, if_neg hfalse, if_neg hfalse, if_neg hfalse, if_neg hfalse]
  repeat' split
  all_goals decide

/-- The pipeline takes it for one. -/
theorem inferRail_of_isEmailKey (h : isEmailKey s = true) (hplain : hasPoCPrefix s = false) :
    inferRail s = .ok .pix := by
  obtain ⟨hpixSpei, hbreb⟩ := Bool.or_eq_false_iff.mp hplain
  obtain ⟨hpix, hspei⟩ := Bool.or_eq_false_iff.mp hpixSpei
  have hfalse := Bool.false_ne_true
  rw [isEmailKey] at h
  rw [inferRail, hpix, hspei, hbreb, h, if_neg hfalse, if_neg hfalse, if_neg hfalse, if_pos rfl]
  split_ifs <;> rfl

/-- The rail that a type of aliases belongs to. -/
def railOfType : AliasType → Option Rail
  | .pixKey => some .pix
  | .clabe => some .spei
  | .llaveBreb => some .breB
  | .iban | .account | .abaRouting | .bic => none

theorem toOption_eq_some_iff {x : Except Failure Rail} {rail : Rail} :
    x.toOption = some rail ↔ x = .ok rail := by
  cases x <;> simp [Except.toOption]

theorem toOption_eq_none_iff {x : Except Failure Rail} :
    x.toOption = none ↔ ∃ err, x = .error err := by
  cases x <;> simp [Except.toOption]

/-- One pattern that both classifications know. -/
theorem toOption_ite {c : Prop} [Decidable c] {x y : Except Failure Rail} {kind kind' : AliasType}
    (hthen : x.toOption = railOfType kind) (helse : ¬ c → y.toOption = railOfType kind') :
    (if c then x else y).toOption = railOfType (if c then kind else kind') := by
  by_cases h : c
  · rw [if_pos h, if_pos h, hthen]
  · rw [if_neg h, if_neg h, helse h]

/-- Pattern by pattern, the two classifications are the same. -/
theorem toOption_inferRail (h : hasPoCPrefix s = true ∨ isEmailKey s = false) :
    (inferRail s).toOption = railOfType (inferAliasType s) := by
  rw [inferRail, inferAliasType]
  refine toOption_ite rfl fun hpix => ?_
  refine toOption_ite rfl fun hspei => ?_
  refine toOption_ite rfl fun hbreb => ?_
  refine toOption_ite rfl fun _ => toOption_ite rfl fun _ => toOption_ite rfl fun _ =>
    toOption_ite rfl fun _ => ?_
  -- what only the pipeline knows
  have hkey : (isEmail s && !s.startsWith (js "+57")) = false := by
    refine h.resolve_left ?_
    rw [hasPoCPrefix, Bool.or_eq_true, Bool.or_eq_true]
    rintro ((h | h) | h)
    · exact hpix h
    · exact hspei h
    · exact hbreb h
  rw [hkey, if_neg Bool.false_ne_true]
  refine toOption_ite rfl fun _ => toOption_ite rfl fun _ => toOption_ite rfl fun _ => ?_
  -- an IBAN, a BIC and any other account belong to no rail
  split_ifs <;> rfl

theorem ite_ne_abaRouting {c : Prop} [Decidable c] {kind kind' : AliasType}
    (h : kind ≠ .abaRouting) (h' : kind' ≠ .abaRouting) :
    (if c then kind else kind') ≠ .abaRouting := by
  by_cases hc : c
  · rwa [if_pos hc]
  · rwa [if_neg hc]

theorem inferAliasType_ne_abaRouting (s : Text) : inferAliasType s ≠ .abaRouting := by
  rw [inferAliasType]
  repeat refine ite_ne_abaRouting (by decide) ?_
  decide

/-- **Where both classifications agree**: on all aliases but the e-mail addresses without a prefix,
that do not begin as a Colombian telephone number. -/
theorem classifiedAlike_iff (s : Text) :
    ClassifiedAlike s ↔ hasPoCPrefix s = true ∨ isEmailKey s = false := by
  constructor
  · intro halike
    by_contra hneither
    rw [not_or, Bool.not_eq_true, Bool.not_eq_false] at hneither
    obtain ⟨hplain, hkey⟩ := hneither
    have hemail : isEmail s = true := (Bool.and_eq_true_iff.mp hkey).1
    exact inferAliasType_of_isEmail hemail hplain
      (halike.pix.mp (inferRail_of_isEmailKey hkey hplain))
  · intro h
    have hrail := toOption_inferRail h
    constructor
    · rw [← toOption_eq_some_iff, hrail]
      cases inferAliasType s <;> decide
    · rw [← toOption_eq_some_iff, hrail]
      cases inferAliasType s <;> decide
    · rw [← toOption_eq_some_iff, hrail]
      cases inferAliasType s <;> decide
    · rw [← toOption_eq_none_iff, hrail]
      cases hkind : inferAliasType s with
      | abaRouting => exact absurd hkind (inferAliasType_ne_abaRouting s)
      | _ => decide

end

/-! ### An e-mail address -/

/-- A mail address is a key of PIX to the pipeline, and an account to the route engine. -/
theorem email_misrouted :
    inferRail (js "ana@banco.br") = .ok .pix ∧ inferAliasType (js "ana@banco.br") = .account ∧
      ¬ ClassifiedAlike (js "ana@banco.br") := by
  refine ⟨by decide +kernel, by decide +kernel, fun halike => ?_⟩
  have hkey : inferAliasType (js "ana@banco.br") = .pixKey := halike.pix.mp (by decide +kernel)
  exact absurd hkey (by decide +kernel)

end MipitCore.Routing
