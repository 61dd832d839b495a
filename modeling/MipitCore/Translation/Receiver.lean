import MipitCore.Domain.WellFormed
import MipitCore.Translation.AchRoundTrip
import MipitCore.Translation.FedNowRoundTrip
import MipitCore.Translation.SingleCurrency

/-!
# The receiver of ACH and of FedNow

ACH and FedNow are two ways to the same bank. Both encoders look for its routing number in
the alias, before a slash. Where there is none, FedNow takes the routing number of the
destination, and ACH a bank of its own. And FedNow drops a rail's prefix before it looks,
where ACH does not.

## Main definitions

* `SameReceiver` — both messages address the same account of the same bank
* `SharesReceiver` — the payments for which they do

## Main results

* `extractRtnAndAccount_eq`, `parseAbaAlias_eq` — the two helpers
* `sameReceiver_iff`
-/

namespace MipitCore.Translation

open Js
open CodeUnit (ascii isDigit)

/-! ### The two helpers -/

section

variable {s fallback defaultRtn : Text}

theorem take_rtn {rtn : Text} (account : Text) (hlength : rtn.length = 9) :
    (rtn ++ ascii '/' :: account).take 9 = rtn := by
  rw [← hlength, List.take_left]

theorem drop_rtn {rtn : Text} (account : Text) (hlength : rtn.length = 9) :
    (rtn ++ ascii '/' :: account).drop 10 = account := by
  rw [List.drop_append, List.drop_of_length_le (by omega), hlength]
  rfl

theorem startsWithRtn_iff :
    startsWithRtn s = true ↔
      ∃ rtn account : Text, s = rtn ++ ascii '/' :: account ∧ rtn.length = 9 ∧
        isDigits rtn = true := by
  constructor
  · intro h
    simp only [startsWithRtn, Bool.and_eq_true, decide_eq_true_eq] at h
    obtain ⟨⟨hlength, hdigits⟩, hslash⟩ := h
    refine ⟨s.take 9, s.drop 10, ?_, hlength, hdigits⟩
    obtain ⟨hlt, hget⟩ := List.getElem?_eq_some_iff.mp hslash
    rw [← hget, ← List.drop_eq_getElem_cons hlt, List.take_append_drop]
  · rintro ⟨rtn, account, rfl, hlength, hdigits⟩
    simp [startsWithRtn, take_rtn account hlength, hlength, hdigits]

/-- What starts with a routing number starts with no prefix of a rail. -/
theorem stripRailPrefix_of_startsWithRtn (h : startsWithRtn s = true) : stripRailPrefix s = s := by
  obtain ⟨rtn, account, rfl, hlength, hdigits⟩ := startsWithRtn_iff.mp h
  exact stripRailPrefix_eq_self
    (hasRailPrefix_of_isDigits (List.ne_nil_of_length_pos (by omega)) hdigits)

theorem split_of_startsWithRtn (h : startsWithRtn s = true) :
    Text.split s (ascii '/') = s.take 9 :: Text.split (s.drop 10) (ascii '/') := by
  obtain ⟨rtn, account, rfl, hlength, hdigits⟩ := startsWithRtn_iff.mp h
  rw [Text.split_append _ (slash_notMem hdigits), take_rtn account hlength,
    drop_rtn account hlength]

/-- What FedNow makes of an alias. -/
theorem extractRtnAndAccount_eq :
    extractRtnAndAccount s defaultRtn fallback =
      if startsWithRtn (stripRailPrefix s) then
        ((stripRailPrefix s).take 9, stripRailPrefix ((stripRailPrefix s).drop 10))
      else (defaultRtn, stripRailPrefix fallback) := by
  unfold extractRtnAndAccount
  by_cases h : startsWithRtn (stripRailPrefix s) = true
  · simp only [if_pos h, split_of_startsWithRtn h, List.headD_cons, List.tail_cons, Text.join_split]
  · simp only [if_neg h]

/-- What ACH makes of it. -/
theorem parseAbaAlias_eq :
    parseAbaAlias s fallback =
      if startsWithRtn s then (s.take 9, stripRailPrefix (s.drop 10))
      else (js "021000021", stripRailPrefix fallback) := by
  by_cases h : startsWithRtn s = true
  · obtain ⟨rtn, account, rfl, hlength, hdigits⟩ := startsWithRtn_iff.mp h
    rw [if_pos h, parseAbaAlias_append hlength hdigits, take_rtn account hlength,
      drop_rtn account hlength]
  · rw [if_neg h, parseAbaAlias]
    refine if_neg ?_
    rintro ⟨hparts, hlength, hdigits⟩
    apply h
    -- the first part is followed by a slash, since there is another one
    rw [Text.split, Text.splitOn_eq_cons] at hparts hlength hdigits
    cases hafter : Text.afterFirst (ascii '/') s with
    | none =>
      rw [hafter] at hparts
      simp at hparts
    | some account =>
      refine startsWithRtn_iff.mpr ⟨_, account, ?_, hlength, hdigits⟩
      exact (Text.takeWhile_append_afterFirst hafter).symm

end

/-! ### The receiver of a payment -/

/-- The account of ACH is that of FedNow, cut to its seventeen places and padded. -/
def SameAccount (ach fednow : Text) : Prop := ach = (fednow.substring 17).padEnd 17 (ascii ' ')

/-- **ACH and FedNow address the same account of the same bank**, which is that of the destination
where the alias names none. -/
structure SameReceiver (ach : AchNachaTransaction) (fednow : FedNowPaymentMessage)
    (c : CanonicalPacs008) : Prop where
  bank : ach.entryDetail.routingTransitNumber = fednow.creditor.rtn
  account : SameAccount ach.entryDetail.accountNumber fednow.creditor.account
  destination : startsWithRtn c.alias.value = false → ∀ rtn ∈ c.destination.routingNumber,
    ach.entryDetail.routingTransitNumber = rtn ∧ fednow.creditor.rtn = rtn

/-- The payments with one receiver: those whose alias starts with a routing number, and those for
the bank that ACH falls back to. An alias that starts with a routing number after the prefix of a
rail has to name that bank and the account of the creditor, too. -/
def SharesReceiver (c : CanonicalPacs008) : Prop :=
  startsWithRtn c.alias.value = true ∨
    (∀ rtn ∈ c.destination.routingNumber, rtn = js "021000021") ∧
      (startsWithRtn (stripRailPrefix c.alias.value) = true →
        (stripRailPrefix c.alias.value).take 9 = js "021000021" ∧
          ((stripRailPrefix c.creditor.accountId).substring 17).padEnd 17 (ascii ' ') =
            ((stripRailPrefix ((stripRailPrefix c.alias.value).drop 10)).substring 17).padEnd 17
              (ascii ' '))

section

variable {fresh fresh' : Fresh} {c : CanonicalPacs008}

theorem achReceiver_eq :
    (canonicalToAchNacha fresh c).entryDetail.routingTransitNumber =
        (parseAbaAlias c.alias.value c.creditor.accountId).1.substring 9 ∧
      (canonicalToAchNacha fresh c).entryDetail.accountNumber =
        ((parseAbaAlias c.alias.value c.creditor.accountId).2.substring 17).padEnd 17 (ascii ' ') :=
  ⟨rfl, rfl⟩

theorem fednowReceiver_eq :
    (canonicalToFednow fresh c).creditor.rtn =
        (extractRtnAndAccount c.alias.value (c.destination.routingNumber.getD (js "021000021"))
          c.creditor.accountId).1 ∧
      (canonicalToFednow fresh c).creditor.account =
        (extractRtnAndAccount c.alias.value (c.destination.routingNumber.getD (js "021000021"))
          c.creditor.accountId).2.substring 34 :=
  ⟨rfl, rfl⟩

/-- The longer account of FedNow, cut like the shorter one of ACH. -/
theorem substring_substring (s : Text) : (s.substring 34).substring 17 = s.substring 17 := by
  rw [Text.substring, Text.substring, List.take_take]
  rfl

/-- **Which payments ACH and FedNow send to the same receiver.** -/
theorem sameReceiver_iff :
    SameReceiver (canonicalToAchNacha fresh c) (canonicalToFednow fresh' c) c ↔
      SharesReceiver c := by
  obtain ⟨hbank, haccount⟩ := @achReceiver_eq fresh c
  obtain ⟨hrtn, hid⟩ := @fednowReceiver_eq fresh' c
  have hbankLength : Text.substring (js "021000021") 9 = js "021000021" := by decide
  by_cases halias : startsWithRtn c.alias.value = true
  · -- both read the alias, which has no prefix
    refine iff_of_true ⟨?_, ?_, fun hnot => ?_⟩ (Or.inl halias)
    · rw [hbank, hrtn, parseAbaAlias_eq, extractRtnAndAccount_eq,
        stripRailPrefix_of_startsWithRtn halias, if_pos halias, if_pos halias, Text.substring,
        List.take_take, min_self]
    · rw [SameAccount, haccount, hid, parseAbaAlias_eq, extractRtnAndAccount_eq,
        stripRailPrefix_of_startsWithRtn halias, if_pos halias, if_pos halias, substring_substring]
    · rw [halias] at hnot
      cases hnot
  · rw [parseAbaAlias_eq, if_neg halias] at hbank haccount
    have hnot : startsWithRtn c.alias.value = false := Bool.eq_false_of_not_eq_true halias
    rw [hbankLength] at hbank
    rw [extractRtnAndAccount_eq] at hrtn hid
    by_cases hclean : startsWithRtn (stripRailPrefix c.alias.value) = true
    · -- FedNow reads the alias without its prefix
      rw [if_pos hclean] at hrtn hid
      constructor
      · intro h
        have hdefault := h.bank.symm.trans hbank
        refine Or.inr ⟨fun rtn hmem => ?_, fun _ => ⟨hrtn.symm.trans hdefault, ?_⟩⟩
        · exact (h.destination hnot rtn hmem).1.symm.trans hbank
        · have hsame := h.account
          rwa [SameAccount, haccount, hid, substring_substring] at hsame
      · intro h
        obtain ⟨hdestination, hnamed⟩ := h.resolve_left halias
        obtain ⟨hdefault, hsame⟩ := hnamed hclean
        refine ⟨by rw [hbank, hrtn, hdefault], ?_, fun _ rtn hmem => ?_⟩
        · rwa [SameAccount, haccount, hid, substring_substring]
        · rw [hbank, hrtn, hdefault, hdestination rtn hmem]
          exact ⟨rfl, rfl⟩
    · -- FedNow takes the bank of the destination
      rw [if_neg hclean] at hrtn hid
      constructor
      · intro h
        refine Or.inr ⟨fun rtn hmem => ?_, fun hstarts => absurd hstarts hclean⟩
        exact (h.destination hnot rtn hmem).1.symm.trans hbank
      · intro h
        obtain ⟨hdestination, -⟩ := h.resolve_left halias
        have hdefault : c.destination.routingNumber.getD (js "021000021") = js "021000021" := by
          cases hrouting : c.destination.routingNumber with
          | none => rfl
          | some rtn => exact hdestination rtn hrouting
        refine ⟨by rw [hbank, hrtn, hdefault], ?_, fun _ rtn hmem => ?_⟩
        · rw [SameAccount, haccount, hid, substring_substring]
        · rw [hbank, hrtn, hdefault, hdestination rtn hmem]
          exact ⟨rfl, rfl⟩

end

namespace Example

/-- A payment to a bank that its destination names. -/
def toOtherBank : CanonicalPacs008 :=
  { inReais with destination := { inReais.destination with routingNumber := some (js "111000025") } }

theorem schemaValid_toOtherBank : toOtherBank.SchemaValid :=
  schemaValid_iff.mpr { schemaValid_iff.mp schemaValid_inReais with
    destination := ⟨by decide, by decide, by decide, by decide⟩ }

end Example

/-- ACH sends a payment to the bank it falls back to, and FedNow to the bank of the destination. -/
theorem sent_elsewhere :
    Example.toOtherBank.SchemaValid ∧
      (canonicalToAchNacha Example.fresh Example.toOtherBank).entryDetail.routingTransitNumber =
        js "021000021" ∧
      (canonicalToFednow Example.fresh Example.toOtherBank).creditor.rtn = js "111000025" ∧
      ¬ SameReceiver (canonicalToAchNacha Example.fresh Example.toOtherBank)
        (canonicalToFednow Example.fresh Example.toOtherBank) Example.toOtherBank := by
  have hach : (canonicalToAchNacha Example.fresh
      Example.toOtherBank).entryDetail.routingTransitNumber = js "021000021" := by
    decide +kernel
  have hfednow : (canonicalToFednow Example.fresh Example.toOtherBank).creditor.rtn =
      js "111000025" := by
    decide +kernel
  refine ⟨Example.schemaValid_toOtherBank, hach, hfednow, fun h => ?_⟩
  have hbank := h.bank
  rw [hach, hfednow] at hbank
  exact absurd hbank (by decide)

end MipitCore.Translation
