import MipitCore.Js.NumberText
import MipitCore.Translation.SwiftMt103

/-!
# Fields of an MT103

A field is found by its tag, wherever that stands in the text: the search passes over the
fields before, as long as none of them mentions the tag. Neither a tag nor the end of a
block reaches over a line break, so that what a text mentions can be told from the text
alone.

## Main definitions

* `isTag` — two digits, and perhaps a letter
* `mentions`, `closesBlock` — a tag, or the end of the block, stands in a text
* `EndFree` — no field ends within a text
* `IsPlain` — a text without a colon and without a closing brace
* `block` — fields, each of which ends in a line break

## Main results

* `startsWithTag_iff`, `startsWithAnyTag_iff`
* `endsField_line`, `startsWithTag_line` — nothing reaches over a line break
* `getField_first`, `getField_none` — what `getField` finds where other fields do not mention the tag
* `getField_block` — in a block of texts without tags, it finds the first field of the tag
* `messageBody_block`
-/

namespace MipitCore.Translation

open Js
open CodeUnit (ascii isDigit isLetter isLower isUpper isWhite)

/-! ### Tags -/

/-- Two digits, and perhaps a capital letter. -/
def isTag : Text → Bool
  | [d, d'] => isDigit d && isDigit d'
  | [d, d', c] => isDigit d && isDigit d' && isUpper c
  | _ => false

theorem foldCase_of_not_isLower {c : CodeUnit} (h : isLower c = false) : foldCase c = c := by
  simp [foldCase, h]

theorem toNat_foldCase (c : CodeUnit) :
    (foldCase c).toNat = if isLower c then c.toNat - 32 else c.toNat := by
  unfold foldCase
  split
  · rename_i hlower
    have hrange : 97 ≤ c.toNat ∧ c.toNat ≤ 122 := by simpa [isLower] using hlower
    exact UInt16.toNat_sub_of_le _ _ (UInt16.le_iff_toNat_le.mpr (by change 32 ≤ c.toNat; omega))
  · rfl

theorem foldCase_eq_colon {c : CodeUnit} : foldCase c = ascii ':' ↔ c = ascii ':' := by
  constructor
  · intro h
    have hcolon : (foldCase c).toNat = 58 := by rw [h]; rfl
    have hnat : c.toNat = 58 := by
      rw [toNat_foldCase] at hcolon
      split at hcolon
      · rename_i hlower
        have hrange : 97 ≤ c.toNat ∧ c.toNat ≤ 122 := by simpa [isLower] using hlower
        omega
      · exact hcolon
    exact UInt16.toNat_inj.mp hnat
  · rintro rfl
    decide

@[simp] theorem isDigit_foldCase (c : CodeUnit) : isDigit (foldCase c) = isDigit c := by
  rw [Bool.eq_iff_iff]
  simp only [isDigit, toNat_foldCase, isLower, Bool.and_eq_true, decide_eq_true_eq]
  split <;> omega

@[simp] theorem isUpper_foldCase (c : CodeUnit) : isUpper (foldCase c) = isLetter c := by
  rw [Bool.eq_iff_iff]
  simp only [isUpper, isLetter, toNat_foldCase, isLower, Bool.and_eq_true, Bool.or_eq_true,
    decide_eq_true_eq]
  split <;> omega

theorem isTag_unit {t : Text} (h : isTag t = true) : ∀ c ∈ t, isDigit c = true ∨ isUpper c = true := by
  unfold isTag at h
  split at h
  · simp only [Bool.and_eq_true] at h
    simp [h.1, h.2]
  · simp only [Bool.and_eq_true] at h
    simp [h.1.1, h.1.2, h.2]
  · cases h

theorem tagUnit {c : CodeUnit} (h : isDigit c = true ∨ isUpper c = true) :
    c ≠ ascii ':' ∧ c ≠ ascii '\n' ∧ c ≠ ascii '}' ∧ foldCase c = c := by
  have hrange : (48 ≤ c.toNat ∧ c.toNat ≤ 57) ∨ (65 ≤ c.toNat ∧ c.toNat ≤ 90) := by
    simpa [isDigit, isUpper] using h
  refine ⟨?_, ?_, ?_, foldCase_of_not_isLower ?_⟩
  · rintro rfl
    revert hrange
    decide
  · rintro rfl
    revert hrange
    decide
  · rintro rfl
    revert hrange
    decide
  · simp only [isLower, Bool.and_eq_false_iff, decide_eq_false_iff_not]
    omega

/-- A tag stands where a colon, its units and another colon do. -/
theorem startsWithTag_iff {tag : String} {s : Text} :
    startsWithTag tag s = true ↔
      ∃ t r, s = ascii ':' :: (t ++ ascii ':' :: r) ∧ t.map foldCase = js tag := by
  simp only [startsWithTag, decide_eq_true_eq]
  constructor
  · intro h
    obtain ⟨colon, rest, hs, hcolon, hrest⟩ := List.map_eq_cons_iff.mp h
    obtain ⟨t, last, rfl, ht, hlast⟩ := List.map_eq_append_iff.mp hrest
    obtain ⟨colon', rest', rfl, hcolon', hnil⟩ := List.map_eq_cons_iff.mp hlast
    obtain rfl := List.map_eq_nil_iff.mp hnil
    obtain rfl := foldCase_eq_colon.mp hcolon
    obtain rfl := foldCase_eq_colon.mp hcolon'
    refine ⟨t, s.drop (ascii ':' :: (js tag ++ [ascii ':'])).length, ?_, ht⟩
    conv_lhs => rw [← List.take_append_drop (ascii ':' :: (js tag ++ [ascii ':'])).length s, hs]
    simp
  · rintro ⟨t, r, rfl, ht⟩
    have hlen : t.length = (js tag).length := by rw [← ht, List.length_map]
    have hcolon : foldCase (ascii ':') = ascii ':' := foldCase_eq_colon.mpr rfl
    have htake : (ascii ':' :: (t ++ ascii ':' :: r)).take
        (ascii ':' :: (js tag ++ [ascii ':'])).length = ascii ':' :: (t ++ [ascii ':']) := by
      rw [show (ascii ':' :: (js tag ++ [ascii ':'])).length =
        (ascii ':' :: (t ++ [ascii ':'])).length by simp [hlen],
        show ascii ':' :: (t ++ ascii ':' :: r) = (ascii ':' :: (t ++ [ascii ':'])) ++ r by simp,
        List.take_left]
    rw [htake, List.map_cons, List.map_append, ht, hcolon, List.map_cons, List.map_nil, hcolon]

theorem startsWithTag_of_ne {tag : String} {c : CodeUnit} {r : Text} (h : c ≠ ascii ':') :
    startsWithTag tag (c :: r) = false := by
  rw [← Bool.not_eq_true, startsWithTag_iff]
  rintro ⟨t, r', heq, -⟩
  exact h (List.cons.inj heq).1

/-- Where a separator comes first, what precedes it is determined. -/
theorem append_cons_inj {c : CodeUnit} {t t' r r' : Text} (ht : c ∉ t) (ht' : c ∉ t')
    (h : t ++ c :: r = t' ++ c :: r') : t = t' ∧ r = r' := by
  have htake : ∀ u v : Text, c ∉ u → (u ++ c :: v).takeWhile (· ≠ c) = u := by
    intro u v hu
    have hall : ∀ d ∈ u, decide (d ≠ c) = true := fun d hd =>
      decide_eq_true fun hdc => hu (hdc ▸ hd)
    rw [List.takeWhile_append_of_pos hall]
    simp
  have heq := congrArg (List.takeWhile (· ≠ c)) h
  rw [htake t r ht, htake t' r' ht'] at heq
  subst heq
  exact ⟨rfl, (List.cons.inj (List.append_cancel_left h)).2⟩

theorem colon_notMem_of_map_foldCase {t : Text} {tag : String} (htag : isTag (js tag) = true)
    (ht : t.map foldCase = js tag) : ascii ':' ∉ t := by
  intro hmem
  have hcolon : ascii ':' ∈ js tag := by
    rw [← ht, List.mem_map]
    exact ⟨ascii ':', hmem, foldCase_eq_colon.mpr rfl⟩
  exact (tagUnit (isTag_unit htag _ hcolon)).1 rfl

/-- Where another tag stands, this one does not. -/
theorem startsWithTag_field {tag tag' : String} (htag : isTag (js tag) = true)
    (htag' : isTag (js tag') = true) (r : Text) :
    startsWithTag tag (ascii ':' :: (js tag' ++ ascii ':' :: r)) = decide (tag' = tag) := by
  have hfold : (js tag').map foldCase = js tag' := by
    conv_rhs => rw [← List.map_id (js tag')]
    exact List.map_congr_left fun c hc => (tagUnit (isTag_unit htag' c hc)).2.2.2
  rw [Bool.eq_iff_iff, startsWithTag_iff, decide_eq_true_eq]
  constructor
  · rintro ⟨t, r', heq, ht⟩
    have hcolon : ascii ':' ∉ js tag' := fun hmem =>
      (tagUnit (isTag_unit htag' _ hmem)).1 rfl
    obtain ⟨rfl, -⟩ := append_cons_inj hcolon (colon_notMem_of_map_foldCase htag ht)
      (List.cons.inj heq).2
    exact js_injective (hfold.symm.trans ht)
  · rintro rfl
    exact ⟨js tag', r, rfl, hfold⟩

/-! ### Lines -/

/-- What holds no separator ends before it. -/
theorem prefix_of_notMem {c : CodeUnit} {p s r : Text} (hc : c ∉ p) (h : p <+: s ++ c :: r) :
    p <+: s := by
  obtain ⟨u, hu⟩ := h
  rcases List.append_eq_append_iff.mp hu with ⟨v, rfl, -⟩ | ⟨v, rfl, hv⟩
  · exact List.prefix_append p v
  · cases v with
    | nil => simp
    | cons d v =>
      obtain ⟨rfl, -⟩ := List.cons.inj hv
      simp at hc

/-- The end of a text starts in its first part, or is the end of the second. -/
theorem suffix_append_cases {u s r : Text} (h : u <:+ s ++ r) :
    (∃ v, v <:+ s ∧ u = v ++ r) ∨ u <:+ r := by
  obtain ⟨w, hw⟩ := h
  rcases List.append_eq_append_iff.mp hw with ⟨v, rfl, rfl⟩ | ⟨v, rfl, rfl⟩
  · exact Or.inl ⟨v, List.suffix_append w v, rfl⟩
  · exact Or.inr (List.suffix_append v u)

/-- There is no white space in a tag. -/
theorem white_notMem_of_map_foldCase {c : CodeUnit} (hc : isWhite c = true) {t u : Text}
    (hu : isTag u = true) (ht : t.map foldCase = u) : c ∉ t := by
  intro hmem
  have hrange : c.toNat ≤ 32 ∨ 160 ≤ c.toNat := by
    simp only [isWhite, Bool.or_eq_true, Bool.and_eq_true, beq_iff_eq, decide_eq_true_eq] at hc
    omega
  have hlower : isLower c = false := by
    simp only [isLower, Bool.and_eq_false_iff, decide_eq_false_iff_not]
    omega
  have hunit : c ∈ u := by
    rw [← ht, List.mem_map]
    exact ⟨c, hmem, foldCase_of_not_isLower hlower⟩
  have htag : (48 ≤ c.toNat ∧ c.toNat ≤ 57) ∨ (65 ≤ c.toNat ∧ c.toNat ≤ 90) := by
    simpa [isDigit, isUpper] using isTag_unit hu c hunit
  omega

theorem white_ne {c d : CodeUnit} (hc : isWhite c = true) (hd : isWhite d = false) : c ≠ d := by
  rintro rfl
  rw [hc] at hd
  cases hd

/-- Any tag is some tag, up to case. -/
theorem startsWithAnyTag_iff {s : Text} :
    startsWithAnyTag s = true ↔
      ∃ t r, s = ascii ':' :: (t ++ ascii ':' :: r) ∧ isTag (t.map foldCase) = true := by
  constructor
  · intro h
    unfold startsWithAnyTag at h
    split at h
    · rename_i colon d d' c s
      simp only [Bool.and_eq_true, Bool.or_eq_true, decide_eq_true_eq] at h
      obtain ⟨⟨⟨rfl, hd⟩, hd'⟩, rfl | ⟨hc, hs⟩⟩ := h
      · exact ⟨[d, d'], s, rfl, by simp [isTag, hd, hd']⟩
      · obtain ⟨r, rfl⟩ := List.head?_eq_some_iff.mp hs
        exact ⟨[d, d', c], r, rfl, by simp [isTag, hd, hd', hc]⟩
    · cases h
  · rintro ⟨t, r, rfl, ht⟩
    obtain _ | ⟨d, _ | ⟨d', _ | ⟨c, _ | ⟨c', t⟩⟩⟩⟩ := t
    · cases ht
    · cases ht
    · simpa [isTag, startsWithAnyTag] using ht
    · have hunits : (isDigit d = true ∧ isDigit d' = true) ∧ isLetter c = true := by
        simpa [isTag] using ht
      simp [startsWithAnyTag, hunits]
    · cases ht

section White

variable {c : CodeUnit} (hc : isWhite c = true) (s r : Text)

include hc

/-- **A tag does not reach over white space.** -/
theorem startsWithTag_white {tag : String} (htag : isTag (js tag) = true) :
    startsWithTag tag (s ++ c :: r) = startsWithTag tag s := by
  have hcolon : c ≠ ascii ':' := white_ne hc (by decide)
  rw [Bool.eq_iff_iff, startsWithTag_iff, startsWithTag_iff]
  constructor
  · rintro ⟨t, u, heq, ht⟩
    have hwhite := white_notMem_of_map_foldCase hc htag ht
    have hbegins : ascii ':' :: (t ++ [ascii ':']) <+: s ++ c :: r := ⟨u, by rw [heq]; simp⟩
    obtain ⟨v, hv⟩ := prefix_of_notMem (by simpa using ⟨hcolon, hwhite, hcolon⟩) hbegins
    exact ⟨t, v, by rw [← hv]; simp, ht⟩
  · rintro ⟨t, u, rfl, ht⟩
    exact ⟨t, u ++ c :: r, by simp, ht⟩

theorem startsWithAnyTag_white : startsWithAnyTag (s ++ c :: r) = startsWithAnyTag s := by
  have hcolon : c ≠ ascii ':' := white_ne hc (by decide)
  rw [Bool.eq_iff_iff, startsWithAnyTag_iff, startsWithAnyTag_iff]
  constructor
  · rintro ⟨t, u, heq, ht⟩
    have hwhite := white_notMem_of_map_foldCase hc ht rfl
    have hbegins : ascii ':' :: (t ++ [ascii ':']) <+: s ++ c :: r := ⟨u, by rw [heq]; simp⟩
    obtain ⟨v, hv⟩ := prefix_of_notMem (by simpa using ⟨hcolon, hwhite, hcolon⟩) hbegins
    exact ⟨t, v, by rw [← hv]; simp, ht⟩
  · rintro ⟨t, u, rfl, ht⟩
    exact ⟨t, u ++ c :: r, by simp, ht⟩

theorem closes_white : Text.startsWith (s ++ c :: r) (js "-\x7d") = Text.startsWith s (js "-\x7d") := by
  have hnone : c ∉ js "-\x7d" := by
    have hunits : ∀ d ∈ js "-\x7d", isWhite d = false := by decide
    exact fun hmem => white_ne hc (hunits c hmem) rfl
  rw [Bool.eq_iff_iff, Text.startsWith_iff, Text.startsWith_iff]
  exact ⟨prefix_of_notMem hnone, fun h => h.trans (List.prefix_append _ _)⟩

/-- **Nothing that ends a field reaches over white space.** -/
theorem endsField_white : endsField (s ++ c :: r) = endsField s := by
  rw [endsField, endsField, startsWithAnyTag_white hc, closes_white hc]

end White

theorem startsWithTag_line {tag : String} (htag : isTag (js tag) = true) (s r : Text) :
    startsWithTag tag (s ++ ascii '\n' :: r) = startsWithTag tag s :=
  startsWithTag_white (by decide) s r htag

theorem closes_line (s r : Text) :
    Text.startsWith (s ++ ascii '\n' :: r) (js "-\x7d") = Text.startsWith s (js "-\x7d") :=
  closes_white (by decide) s r

theorem endsField_line (s r : Text) : endsField (s ++ ascii '\n' :: r) = endsField s :=
  endsField_white (by decide) s r

/-- A field that ends ends in longer texts too. -/
theorem endsField_append {s : Text} (r : Text) (h : endsField s = true) :
    endsField (s ++ r) = true := by
  rw [endsField, Bool.or_eq_true] at h ⊢
  rcases h with h | h
  · obtain ⟨t, u, rfl, ht⟩ := startsWithAnyTag_iff.mp h
    exact Or.inl (startsWithAnyTag_iff.mpr ⟨t, u ++ r, by simp, ht⟩)
  · exact Or.inr (Text.startsWith_iff.mpr ((Text.startsWith_iff.mp h).trans (List.prefix_append _ _)))

theorem startsWithAnyTag_of_startsWithTag {tag : String} (htag : isTag (js tag) = true) {s : Text}
    (h : startsWithTag tag s = true) : startsWithAnyTag s = true := by
  obtain ⟨t, r, rfl, ht⟩ := startsWithTag_iff.mp h
  exact startsWithAnyTag_iff.mpr ⟨t, r, rfl, by rwa [ht]⟩

/-! ### What a text mentions -/

/-- The tag stands in the text, or at the colon that comes before it. -/
def mentions (tag : String) (s : Text) : Bool := (ascii ':' :: s).tails.any (startsWithTag tag)

/-- The end of the block stands in the text. -/
def closesBlock (s : Text) : Bool := s.tails.any fun u : Text => u.startsWith (js "-\x7d")

theorem mentions_eq_false {tag : String} {s : Text} :
    mentions tag s = false ↔ ∀ u, u <:+ ascii ':' :: s → startsWithTag tag u = false := by
  simp only [mentions, List.any_eq_false, List.mem_tails, Bool.not_eq_true]

theorem closesBlock_eq_false {s : Text} :
    closesBlock s = false ↔ ∀ u, u <:+ s → Text.startsWith u (js "-\x7d") = false := by
  simp only [closesBlock, List.any_eq_false, List.mem_tails, Bool.not_eq_true]

theorem closesBlock_line {s r : Text} (hs : closesBlock s = false) (hr : closesBlock r = false) :
    closesBlock (s ++ ascii '\n' :: r) = false := by
  refine closesBlock_eq_false.mpr fun u hu => ?_
  rcases suffix_append_cases hu with ⟨v, hv, rfl⟩ | hu
  · rw [closes_line]
    exact closesBlock_eq_false.mp hs v hv
  · rcases List.suffix_cons_iff.mp hu with rfl | h
    · exact closes_line [] r
    · exact closesBlock_eq_false.mp hr u h

/-- The end of a block starts with a hyphen. -/
theorem closesBlock_append {s r : Text} (hs : ascii '-' ∉ s) (hr : closesBlock r = false) :
    closesBlock (s ++ r) = false := by
  refine closesBlock_eq_false.mpr fun u hu => ?_
  rcases suffix_append_cases hu with ⟨v, hv, rfl⟩ | hu
  · cases v with
    | nil => exact closesBlock_eq_false.mp hr r List.suffix_rfl
    | cons c v =>
      have hc : ascii '-' ≠ c := by
        rintro rfl
        exact hs (hv.subset List.mem_cons_self)
      exact Text.startsWith_cons_of_ne (p := js "\x7d") hc
  · exact closesBlock_eq_false.mp hr u hu

theorem closesBlock_of_start {s t : Text} (h : s <+: t) (ht : closesBlock t = false) :
    closesBlock s = false := by
  obtain ⟨r, rfl⟩ := h
  refine closesBlock_eq_false.mpr ?_
  rintro u ⟨w, rfl⟩
  have hlonger := closesBlock_eq_false.mp ht (u ++ r) ⟨w, by simp⟩
  rw [← Bool.not_eq_true, Text.startsWith_iff] at hlonger ⊢
  exact fun hu => hlonger (hu.trans (List.prefix_append u r))

/-- No field ends within a text. -/
def EndFree (s : Text) : Prop := ∀ u, u <:+ s → endsField u = false

theorem EndFree.of_start {s t : Text} (hs : EndFree s) (h : t <+: s) : EndFree t := by
  rintro u ⟨v, rfl⟩
  obtain ⟨w, rfl⟩ := h
  by_contra hne
  rw [Bool.not_eq_false] at hne
  have hends := hs (u ++ w) ⟨v, by simp⟩
  rw [endsField_append w hne] at hends
  cases hends

theorem EndFree.of_suffix {s t : Text} (hs : EndFree s) (h : t <:+ s) : EndFree t :=
  fun u hu => hs u (hu.trans h)

theorem EndFree.append {s r : Text} (hs : ∀ c ∈ s, c ≠ ascii ':' ∧ c ≠ ascii '-')
    (hr : EndFree r) : EndFree (s ++ r) := by
  intro u hu
  rcases suffix_append_cases hu with ⟨v, hv, rfl⟩ | hu
  · cases v with
    | nil => exact hr r List.suffix_rfl
    | cons c v =>
      obtain ⟨hcolon, hyphen⟩ := hs c (hv.subset List.mem_cons_self)
      rw [endsField, Bool.or_eq_false_iff, ← Bool.not_eq_true, startsWithAnyTag_iff]
      refine ⟨?_, Text.startsWith_cons_of_ne (p := js "\x7d") (Ne.symm hyphen)⟩
      rintro ⟨t, w, heq, -⟩
      exact hcolon (List.cons.inj heq).1
  · exact hr u hu

/-- A tag has a digit behind its colon. -/
theorem EndFree.colon {c : CodeUnit} {s : Text} (hc : isDigit c = false) (hs : EndFree (c :: s)) :
    EndFree (ascii ':' :: c :: s) := by
  intro u hu
  rcases List.suffix_cons_iff.mp hu with rfl | hu
  · rw [endsField, Bool.or_eq_false_iff, ← Bool.not_eq_true, startsWithAnyTag_iff]
    refine ⟨?_, Text.startsWith_cons_of_ne (p := js "\x7d") (by decide)⟩
    rintro ⟨t, r, heq, ht⟩
    obtain _ | ⟨d, t⟩ := t
    · cases ht
    · obtain ⟨rfl, -⟩ := List.cons.inj (List.cons.inj heq).2
      have hdigit : isDigit (foldCase c) = true := by
        unfold isTag at ht
        split at ht
        · rename_i heq
          rw [(List.cons.inj heq).1]
          exact (Bool.and_eq_true_iff.mp ht).1
        · rename_i heq
          rw [(List.cons.inj heq).1]
          simp only [Bool.and_eq_true] at ht
          exact ht.1.1
        · cases ht
      rw [isDigit_foldCase, hc] at hdigit
      cases hdigit
  · exact hs u hu

/-- Fields end within lines. -/
theorem EndFree.line {s r : Text} (hs : EndFree s) (hr : EndFree r) :
    EndFree (s ++ ascii '\n' :: r) := by
  intro u hu
  rcases suffix_append_cases hu with ⟨v, hv, rfl⟩ | hu
  · rw [endsField_line]
    exact hs v hv
  · rcases List.suffix_cons_iff.mp hu with rfl | h
    · exact (endsField_line [] r).trans (hs [] List.nil_suffix)
    · exact hr u h

theorem EndFree.mentions {tag : String} (htag : isTag (js tag) = true) {s : Text}
    (hs : EndFree (ascii ':' :: s)) : mentions tag s = false := by
  refine mentions_eq_false.mpr fun u hu => ?_
  by_contra hne
  rw [Bool.not_eq_false] at hne
  have hends := hs u hu
  rw [endsField, startsWithAnyTag_of_startsWithTag htag hne] at hends
  cases hends

theorem EndFree.closesBlock {s : Text} (hs : EndFree s) : closesBlock s = false :=
  closesBlock_eq_false.mpr fun u hu => (Bool.or_eq_false_iff.mp (hs u hu)).2

/-! ### Blocks -/

/-- A text that neither a tag nor the end of a block can be in. -/
def IsPlain (s : Text) : Prop := ∀ c ∈ s, c ≠ ascii ':' ∧ c ≠ ascii '}'

instance (s : Text) : Decidable (IsPlain s) :=
  inferInstanceAs (Decidable (∀ c ∈ s, c ≠ ascii ':' ∧ c ≠ ascii '}'))

theorem IsPlain.endFree {s : Text} (hs : IsPlain s) : EndFree (ascii ':' :: s) := by
  intro u hu
  rw [endsField, Bool.or_eq_false_iff, ← Bool.not_eq_true, ← Bool.not_eq_true, startsWithAnyTag_iff,
    Text.startsWith_iff]
  constructor
  · rintro ⟨t, r, rfl, -⟩
    -- of two colons, the second would be in the text
    have hmem : ascii ':' ∈ s := by
      rcases List.suffix_cons_iff.mp hu with heq | hsuffix
      · rw [← (List.cons.inj heq).2]
        simp
      · exact hsuffix.subset List.mem_cons_self
    exact (hs _ hmem).1 rfl
  · intro hbegins
    have hmem : ascii '}' ∈ ascii ':' :: s :=
      hu.subset (hbegins.subset (by decide : ascii '}' ∈ js "-\x7d"))
    rcases List.mem_cons.mp hmem with heq | hmem
    · exact absurd heq (by decide)
    · exact (hs _ hmem).2 rfl

/-- Fields, each of which ends in a line break. -/
def block (fields : List (String × Text)) : Text :=
  fields.flatMap fun f => ascii ':' :: (js f.1 ++ ascii ':' :: (f.2 ++ [ascii '\n']))

@[simp] theorem block_nil : block [] = [] := rfl

@[simp] theorem block_cons (tag : String) (text : Text) (fields : List (String × Text)) :
    block ((tag, text) :: fields) =
      ascii ':' :: (js tag ++ ascii ':' :: (text ++ ascii '\n' :: block fields)) := by
  simp [block]

theorem block_append (fields fields' : List (String × Text)) :
    block (fields ++ fields') = block fields ++ block fields' := by
  simp [block]

/-- A search passes over a text where nothing that it searches for starts. -/
theorem afterMatch_skip {starts : Text → Bool} {n : ℕ} {s r : Text}
    (h : ∀ u, u ≠ [] → u <:+ s → starts (u ++ r) = false) :
    Text.afterMatch starts n (s ++ r) = Text.afterMatch starts n r := by
  induction s with
  | nil => rfl
  | cons c s ih =>
    have hhead := h (c :: s) (List.cons_ne_nil c s) List.suffix_rfl
    rw [List.cons_append] at hhead ⊢
    rw [Text.afterMatch, hhead, if_neg Bool.false_ne_true]
    exact ih fun u hne hu => h u hne (hu.trans (List.suffix_cons c s))

/-- The search for a tag passes over a field of another tag that does not mention it. -/
theorem afterMatch_field {tag tag' : String} (htag : isTag (js tag) = true)
    (htag' : isTag (js tag') = true) (hne : tag' ≠ tag) {text : Text} {n : ℕ}
    (h : mentions tag text = false) (r : Text) :
    Text.afterMatch (startsWithTag tag) n
        (ascii ':' :: (js tag' ++ ascii ':' :: (text ++ ascii '\n' :: r))) =
      Text.afterMatch (startsWithTag tag) n r := by
  have hjs : ascii ':' ∉ js tag' := fun hmem => (tagUnit (isTag_unit htag' _ hmem)).1 rfl
  have hsearch := mentions_eq_false.mp h
  rw [Text.afterMatch, startsWithTag_field htag htag', if_neg (by simpa using hne),
    afterMatch_skip, ← List.cons_append, afterMatch_skip, Text.afterMatch,
    startsWithTag_of_ne (by decide), if_neg Bool.false_ne_true]
  · intro u _ hu
    rw [startsWithTag_line htag]
    exact hsearch u hu
  · intro u hnil hu
    obtain ⟨c, u, rfl⟩ := List.exists_cons_of_ne_nil hnil
    rw [List.cons_append]
    refine startsWithTag_of_ne fun hc => hjs ?_
    rw [← hc]
    exact hu.subset List.mem_cons_self

/-- Fields of other tags that do not mention a tag. -/
def Unmentioned (tag : String) (fields : List (String × Text)) : Prop :=
  ∀ f ∈ fields, isTag (js f.1) = true ∧ f.1 ≠ tag ∧ mentions tag f.2 = false

theorem afterMatch_unmentioned {tag : String} (htag : isTag (js tag) = true)
    {fields : List (String × Text)} (h : Unmentioned tag fields) (n : ℕ) (r : Text) :
    Text.afterMatch (startsWithTag tag) n (block fields ++ r) =
      Text.afterMatch (startsWithTag tag) n r := by
  induction fields with
  | nil => rfl
  | cons f fields ih =>
    obtain ⟨tag', text⟩ := f
    obtain ⟨htag', hne, hmentions⟩ := h (tag', text) List.mem_cons_self
    rw [block_cons]
    simp only [List.append_assoc, List.cons_append]
    rw [afterMatch_field htag htag' hne hmentions]
    exact ih fun g hg => h g (List.mem_cons_of_mem _ hg)

/-- **`getField` finds a field** that no field before it mentions. -/
theorem getField_first {tag : String} (htag : isTag (js tag) = true)
    {fields : List (String × Text)} (h : Unmentioned tag fields) (text r : Text) :
    getField (block fields ++ (ascii ':' :: (js tag ++ ascii ':' :: (text ++ r)))) tag =
      some (Text.trim (Text.takeUntil endsField (text ++ r))) := by
  have hdrop : (js tag).drop ((js tag).length + 1) = [] := List.drop_eq_nil_of_le (by omega)
  rw [getField, afterMatch_unmentioned htag h, Text.afterMatch, startsWithTag_field htag htag,
    if_pos (by simp)]
  simp [List.drop_append, hdrop]

/-- `getField` finds nothing where no field mentions the tag. -/
theorem getField_none {tag : String} (htag : isTag (js tag) = true)
    {fields : List (String × Text)} (h : Unmentioned tag fields) : getField (block fields) tag = none := by
  have hsearch := afterMatch_unmentioned htag h ((js tag).length + 2) []
  rw [List.append_nil] at hsearch
  rw [getField, hsearch]
  rfl

theorem startsWithAnyTag_field {tag : String} (htag : isTag (js tag) = true) (r : Text) :
    startsWithAnyTag (ascii ':' :: (js tag ++ ascii ':' :: r)) = true :=
  startsWithAnyTag_of_startsWithTag htag (by rw [startsWithTag_field htag htag]; simp)

/-- A block ends a field, if there is a field left in it. -/
theorem endsField_block {tag : String} (htag : isTag (js tag) = true) (text : Text)
    (fields : List (String × Text)) : endsField (block ((tag, text) :: fields)) = true := by
  rw [endsField, block_cons, startsWithAnyTag_field htag, Bool.true_or]

theorem takeUntil_endFree {s : Text} (hs : EndFree s) (r : Text) :
    Text.takeUntil endsField (s ++ ascii '\n' :: r) =
      s ++ Text.takeUntil endsField (ascii '\n' :: r) := by
  induction s with
  | nil => rfl
  | cons c s ih =>
    have hhead := hs (c :: s) List.suffix_rfl
    rw [← endsField_line (c :: s) r, List.cons_append] at hhead
    rw [List.cons_append, Text.takeUntil, hhead, if_neg Bool.false_ne_true,
      ih (hs.of_suffix (List.suffix_cons c s)), List.cons_append]

theorem takeUntil_line (r : Text) (hr : r = [] ∨ endsField r = true) :
    Text.takeUntil endsField (ascii '\n' :: r) = [ascii '\n'] := by
  have hhead : endsField (ascii '\n' :: r) = false := (endsField_line [] r).trans (by decide)
  rw [Text.takeUntil, hhead, if_neg Bool.false_ne_true]
  rcases hr with rfl | hr
  · rfl
  · cases r with
    | nil => rfl
    | cons c r => rw [Text.takeUntil, hr, if_pos rfl]

/-- **In a block, `getField` finds the first field of the tag.** -/
theorem getField_block {tag : String} (htag : isTag (js tag) = true)
    {fields : List (String × Text)}
    (hfields : ∀ f ∈ fields, isTag (js f.1) = true ∧ EndFree (ascii ':' :: f.2)) :
    getField (block fields) tag =
      (fields.find? fun f => f.1 = tag).map fun f => Text.trim f.2 := by
  have hunmentioned : ∀ pre : List (String × Text), (∀ f ∈ pre, f ∈ fields ∧ f.1 ≠ tag) →
      Unmentioned tag pre := fun pre hpre f hf =>
    ⟨(hfields f (hpre f hf).1).1, (hpre f hf).2, (hfields f (hpre f hf).1).2.mentions htag⟩
  cases hfind : fields.find? (fun f => f.1 = tag) with
  | none =>
    rw [List.find?_eq_none] at hfind
    exact getField_none htag (hunmentioned fields fun f hf => ⟨hf, by simpa using hfind f hf⟩)
  | some f =>
    obtain ⟨hf, pre, rest, rfl, hpre⟩ := List.find?_eq_some_iff_append.mp hfind
    obtain ⟨tag', text⟩ := f
    obtain rfl : tag' = tag := by simpa using hf
    have htext := (hfields (tag', text) (by simp)).2
    have hrest : block rest = [] ∨ endsField (block rest) = true := by
      cases rest with
      | nil => exact Or.inl rfl
      | cons g rest => exact Or.inr (endsField_block (hfields g (by simp)).1 g.2 rest)
    rw [block_append, block_cons, getField_first htag (hunmentioned pre fun g hg =>
        ⟨by simp [hg], by simpa using hpre g hg⟩),
      takeUntil_endFree (htext.of_suffix (List.suffix_cons _ _)), takeUntil_line _ hrest,
      Text.trim_append_white (by decide), Option.map_some]

theorem getField_line {tag : String} (s : Text) : getField (ascii '\n' :: s) tag = getField s tag := by
  rw [getField, Text.afterMatch, startsWithTag_of_ne (by decide), if_neg Bool.false_ne_true, getField]

/-! ### Messages -/

/-- A message without blocks is all body. -/
theorem messageBody_of_notMem {raw : Text} (h : ascii '{' ∉ raw) : messageBody raw = raw := by
  have hnone : Text.afterMatch (fun s => s.startsWith (js "\x7b4:")) 3 raw = none := by
    refine Text.afterMatch_eq_none fun c r hc => ?_
    have hne : ascii '{' ≠ c := by
      rintro rfl
      exact h hc
    exact Text.startsWith_cons_of_ne (p := js "4:") hne
  rw [messageBody, hnone]

/-- The body of a message ends where its block does. -/
theorem messageBody_block {header body : Text}
    (hheader : ∀ r, Text.afterMatch (fun s => s.startsWith (js "\x7b4:")) 3 (header ++ r) = some r)
    (hbody : closesBlock body = false) :
    messageBody (header ++ (body ++ js "\n-\x7d")) = body ++ [ascii '\n'] := by
  have hsearch := closesBlock_eq_false.mp hbody
  have hline : js "\n-\x7d" = ascii '\n' :: js "-\x7d" := by decide
  have hnext : Text.afterMatch (fun s => s.startsWith (js "-\x7d")) 2 (js "\n-\x7d") = some [] ∧
      Text.takeUntil (fun s => s.startsWith (js "-\x7d")) (js "\n-\x7d") = [ascii '\n'] := by
    decide
  have hafter : Text.afterMatch (fun s => s.startsWith (js "-\x7d")) 2 (body ++ js "\n-\x7d") =
      some [] := by
    rw [afterMatch_skip, hnext.1]
    intro u _ hu
    rw [hline, closes_line]
    exact hsearch u hu
  have htake : Text.takeUntil (fun s => s.startsWith (js "-\x7d")) (body ++ js "\n-\x7d") =
      body ++ [ascii '\n'] := by
    clear hafter hbody
    induction body with
    | nil => exact hnext.2
    | cons c body ih =>
      have hhead := hsearch (c :: body) List.suffix_rfl
      rw [← closes_line (c :: body) (js "-\x7d"), ← hline, List.cons_append] at hhead
      rw [List.cons_append, Text.takeUntil, hhead, if_neg Bool.false_ne_true,
        ih fun u hu => hsearch u (hu.trans (List.suffix_cons c body)), List.cons_append]
  simp only [messageBody, hheader, hafter, htake, Option.isSome_some, ↓reduceIte]

end MipitCore.Translation
