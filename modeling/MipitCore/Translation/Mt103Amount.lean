import MipitCore.Js.FixedText
import MipitCore.Translation.SwiftMt103

/-!
# The date and the amount of an MT103

`:32A:` holds the date, the currency and the amount without anything between them. They are
told apart by their lengths and by the units that they are made of.

## Main definitions

* `IsValueDate` — a day of the years that two digits tell

## Main results

* `parse32A_text32A` — `:32A:` is read as the parts that it was written from
* `valueDateOf_dateDigits` — the digits of a value date are read as that date
* `parseFloat_amountText` — an amount in cents is read as it was
-/

namespace MipitCore.Translation

open Js
open CodeUnit (ascii isDigit isUpper)

/-! ### Numbers of digits -/

theorem isDigit_not_white {c : CodeUnit} (h : isDigit c = true) : CodeUnit.isWhite c = false := by
  have hrange : 48 ≤ c.toNat ∧ c.toNat ≤ 57 := by simpa [isDigit] using h
  simp only [CodeUnit.isWhite, Bool.or_eq_false_iff, Bool.and_eq_false_iff, beq_eq_false_iff_ne,
    decide_eq_false_iff_not]
  omega

theorem digit_ne {c d : CodeUnit} (hc : isDigit c = true) (hd : isDigit d = false) : c ≠ d := by
  rintro rfl
  rw [hc] at hd
  cases hd

theorem parseInt_digits {s : Text} (hs : isDigits s = true) (hne : s ≠ []) :
    Js.parseInt s = .fin (digitsValue s) := by
  obtain ⟨c, r, rfl⟩ := List.exists_cons_of_ne_nil hne
  obtain ⟨hc, -⟩ := isDigits_cons.mp hs
  have hall : (c :: r).takeWhile isDigit = c :: r :=
    List.takeWhile_eq_self_iff.mpr fun d hd => List.all_eq_true.mp hs d hd
  rw [Js.parseInt, List.dropWhile_cons, isDigit_not_white hc, if_neg Bool.false_ne_true]
  simp only [if_neg (digit_ne hc (d := ascii '-') (by decide)),
    if_neg (digit_ne hc (d := ascii '+') (by decide)), hall]
  rw [if_neg (List.cons_ne_nil c r), if_neg Bool.false_ne_true, round_exact]

/-! ### Value dates -/

/-- A date in parts. -/
theorem exists_dateText {s : Text} (h : isDateText s = true) :
    ∃ year month day, s = year ++ ascii '-' :: (month ++ ascii '-' :: day) ∧
      isDigits year = true ∧ year.length = 4 ∧ isDigits month = true ∧ month.length = 2 ∧
        isDigits day = true ∧ day.length = 2 := by
  simp only [isDateText, Bool.and_eq_true, decide_eq_true_eq] at h
  obtain ⟨⟨⟨⟨⟨⟨⟨⟨⟨hlength, hyear⟩, hfirst⟩, hmonth⟩, hsecond⟩, hday⟩, -⟩, -⟩, -⟩, -⟩ := h
  refine ⟨s.take 4, (s.drop 5).take 2, s.drop 8, ?_, hyear, by simp [hlength], hmonth,
    by simp [hlength], hday, by simp [hlength]⟩
  have hdrop4 : s.drop 4 = ascii '-' :: s.drop 5 :=
    List.drop_eq_getElem?_toList_append.trans (by rw [hfirst]; rfl)
  have hdrop7 : s.drop 7 = ascii '-' :: s.drop 8 :=
    List.drop_eq_getElem?_toList_append.trans (by rw [hsecond]; rfl)
  have hmonthDay : (s.drop 5).take 2 ++ s.drop 7 = s.drop 5 := by
    rw [show s.drop 7 = (s.drop 5).drop 2 by rw [List.drop_drop], List.take_append_drop]
  rw [← hdrop7, hmonthDay, ← hdrop4, List.take_append_drop]

/-- A day of the years from 1970 to 2069. -/
structure IsValueDate (s : Text) : Prop where
  date : isDateText s = true
  year : 1970 ≤ digitsValue (s.take 4) ∧ digitsValue (s.take 4) ≤ 2069

/-- The six digits of a date. -/
def dateDigits (s : Text) : Text := (s.filter (· ≠ ascii '-')).drop 2

/-- The digits of a date that `:32A:` has, and those that it leaves out. -/
theorem exists_dateDigits {s : Text} (h : isDateText s = true) :
    ∃ century year month day, s = century ++ year ++ ascii '-' :: (month ++ ascii '-' :: day) ∧
      dateDigits s = year ++ month ++ day ∧ isDigits century = true ∧ century.length = 2 ∧
        isDigits year = true ∧ year.length = 2 ∧ isDigits month = true ∧ month.length = 2 ∧
          isDigits day = true ∧ day.length = 2 := by
  obtain ⟨year, month, day, rfl, hyear, hlyear, hmonth, hlmonth, hday, hlday⟩ := exists_dateText h
  have hkept : ∀ t : Text, isDigits t = true → t.filter (· ≠ ascii '-') = t := by
    intro t ht
    refine List.filter_eq_self.mpr fun c hc => ?_
    simpa using digit_ne (List.all_eq_true.mp ht c hc) (d := ascii '-') (by decide)
  refine ⟨year.take 2, year.drop 2, month, day, by rw [List.take_append_drop], ?_,
    isDigits_sublist (List.take_sublist 2 year) hyear, by simp [hlyear],
    isDigits_sublist (List.drop_sublist 2 year) hyear, by simp [hlyear], hmonth, hlmonth, hday,
    hlday⟩
  rw [dateDigits, List.filter_append, List.filter_cons_of_neg (by simp), List.filter_append,
    List.filter_cons_of_neg (by simp), hkept year hyear, hkept month hmonth, hkept day hday,
    List.drop_append_of_le_length (by omega), List.append_assoc]

theorem isDigits_dateDigits {s : Text} (h : isDateText s = true) :
    isDigits (dateDigits s) = true ∧ (dateDigits s).length = 6 := by
  obtain ⟨_, year, month, day, -, heq, -, -, hyear, hlyear, hmonth, hlmonth, hday, hlday⟩ :=
    exists_dateDigits h
  rw [heq]
  exact ⟨isDigits_append.mpr ⟨isDigits_append.mpr ⟨hyear, hmonth⟩, hday⟩, by simp [hlyear, hlmonth, hlday]⟩

/-- The part of a text between two others. -/
theorem slice_middle (a b r : Text) :
    Text.slice (a ++ b ++ r) a.length (a.length + b.length) = b := by
  rw [Text.slice, ← List.length_append, List.take_left, List.drop_left]

/-- **The digits of a value date are read as that date.** -/
theorem valueDateOf_dateDigits {s : Text} (h : IsValueDate s) : valueDateOf (dateDigits s) = s := by
  obtain ⟨century, year, month, day, rfl, heq, hcentury, hlcentury, hyear, hlyear, -, hlmonth, -,
    hlday⟩ := exists_dateDigits h.date
  have hvalue : digitsValue ((century ++ year ++ ascii '-' :: (month ++ ascii '-' :: day)).take 4) =
      digitsValue century * 100 + digitsValue year := by
    rw [List.take_append_of_le_length (by simp [hlcentury, hlyear]),
      List.take_of_length_le (by simp [hlcentury, hlyear]), digitsValue_append, hlyear]
    rfl
  have hrange := h.year
  rw [hvalue] at hrange
  have hlt := digitsValue_lt hyear
  rw [hlyear] at hlt
  -- the last two digits of the year tell the first two
  have hfirst : (if (Js.parseInt year).geNat 70 then js "19" else js "20") = century := by
    rw [parseInt_digits hyear (List.ne_nil_of_length_pos (by omega))]
    split_ifs with hge
    · have hge' : 70 ≤ digitsValue year := by
        have hle : (70 : ℚ) ≤ digitsValue year := by simpa [Number.geNat] using hge
        exact_mod_cast hle
      refine digits_ext (by decide) hcentury (hlcentury ▸ rfl) ?_
      have hnineteen : digitsValue (js "19") = 19 := by decide
      omega
    · have hge' : ¬ 70 ≤ digitsValue year := fun hle => hge (by
        have hle' : (70 : ℚ) ≤ digitsValue year := by exact_mod_cast hle
        simpa [Number.geNat] using hle')
      refine digits_ext (by decide) hcentury (hlcentury ▸ rfl) ?_
      have htwenty : digitsValue (js "20") = 20 := by decide
      omega
  have hyearSlice : (year ++ month ++ day).slice 0 2 = year := by
    have hslice := slice_middle [] year (month ++ day)
    rwa [hlyear, List.nil_append, ← List.append_assoc] at hslice
  have hmonthSlice : (year ++ month ++ day).slice 2 4 = month := by
    have hslice := slice_middle year month day
    rwa [hlyear, hlmonth] at hslice
  have hdaySlice : (year ++ month ++ day).slice 4 6 = day := by
    have hslice := slice_middle (year ++ month) day []
    rwa [List.length_append, hlyear, hlmonth, hlday, List.append_nil] at hslice
  rw [valueDateOf, heq, hyearSlice, hmonthSlice, hdaySlice, hfirst]
  have hhyphen : js "-" = [ascii '-'] := by decide
  simp [hhyphen]

/-! ### Amounts -/

/-- A positive number of cents that `toFixed` writes with two decimals. -/
structure IsCents (n : Number) : Prop where
  positive : n.isPositive = true
  cents : ∃ (q : ℚ) (m : ℤ), n = .fin q ∧ q * 10 ^ 2 = m
  small : ∀ q, n = .fin q → q < 10 ^ 21

/-- The text of an amount, with a comma for the point. -/
def amountText (n : Number) : Text := Text.replaceFirst (js ".") (js ",") (n.toFixed 2)

/-- Digits, a comma and digits, which are the amount when the comma is a point. -/
theorem exists_amountText {n : Number} (h : IsCents n) :
    ∃ a b, amountText n = a ++ ascii ',' :: b ∧ isDigits a = true ∧ isDigits b = true ∧
      parseFloat (a ++ ascii '.' :: b) = n := by
  obtain ⟨q, m, rfl, hm⟩ := h.cents
  have hq : 0 < q := by simpa using h.positive
  obtain ⟨k, hk⟩ := exists_nat_mul_eq hq hm
  have htext := toFixed_of_lt hq (h.small q rfl) hk
  have hvalue : q = (k : ℚ) / 10 ^ 2 := by
    rw [← hk]
    field_simp
  have hread := parseFloat_fixedText k 2
  rw [round_exact, ← hvalue, ← htext] at hread
  have hdigits := isDigits_padStart k 3
  set digits := Text.padStart (natText k) 3 (ascii '0') with hpad
  have ha : isDigits (digits.take (digits.length - 2)) = true :=
    isDigits_sublist (List.take_sublist _ _) hdigits
  have hb : isDigits (digits.drop (digits.length - 2)) = true :=
    isDigits_sublist (List.drop_sublist _ _) hdigits
  have hfixed : Number.toFixed 2 (.fin q) = digits.take (digits.length - 2) ++
      ascii '.' :: digits.drop (digits.length - 2) := htext
  have hpoint : ascii '.' ∉ digits.take (digits.length - 2) := fun hmem =>
    digit_ne (List.all_eq_true.mp ha _ hmem) (by decide) rfl
  refine ⟨_, _, ?_, ha, hb, by rw [← hfixed, hread]⟩
  rw [amountText, hfixed]
  exact (Text.replaceFirst_append (js ",") _ hpoint).trans (List.append_assoc _ _ _)

/-- **An amount in cents is read as it was.** -/
theorem parseFloat_amountText {n : Number} (h : IsCents n) :
    parseFloat (Text.replaceFirst (js ",") (js ".") (amountText n)) = n := by
  obtain ⟨a, b, heq, ha, -, hread⟩ := exists_amountText h
  have hcomma : ascii ',' ∉ a := fun hmem =>
    digit_ne (List.all_eq_true.mp ha _ hmem) (by decide) rfl
  have hreplace : Text.replaceFirst (js ",") (js ".") (a ++ ascii ',' :: b) = a ++ ascii '.' :: b :=
    (Text.replaceFirst_append (js ".") b hcomma).trans (List.append_assoc _ _ _)
  rw [heq, hreplace, hread]

/-! ### `:32A:` -/

/-- A message whose date, currency and amount `:32A:` has room for. -/
structure Is32A (msg : SwiftMt103Message) : Prop where
  valueDate : IsValueDate msg.valueDate
  currency : msg.currency.length = 3 ∧ msg.currency.all isUpper = true
  amount : IsCents msg.amount

theorem text32A_eq (msg : SwiftMt103Message) :
    text32A msg = dateDigits msg.valueDate ++ msg.currency ++ amountText msg.amount := rfl

/-- **`:32A:` is read as the parts that it was written from.** -/
theorem parse32A_text32A {msg : SwiftMt103Message} (h : Is32A msg) :
    parse32A (text32A msg) =
      some (dateDigits msg.valueDate, msg.currency, amountText msg.amount) := by
  obtain ⟨hdigits, hlength⟩ := isDigits_dateDigits h.valueDate.date
  obtain ⟨hcurrency, hupper⟩ := h.currency
  obtain ⟨a, b, heq, ha, hb, -⟩ := exists_amountText h.amount
  have hdate : (text32A msg).take 6 = dateDigits msg.valueDate := by
    rw [text32A_eq, List.append_assoc, ← hlength, List.take_left]
  have hcut : ((text32A msg).drop 6).take 3 = msg.currency := by
    rw [text32A_eq, List.append_assoc, ← hlength, List.drop_left, ← hcurrency, List.take_left]
  have hamount : (text32A msg).drop 9 = amountText msg.amount := by
    have hnine : (dateDigits msg.valueDate ++ msg.currency).length = 9 := by
      rw [List.length_append, hlength, hcurrency]
    rw [text32A_eq, ← hnine, List.drop_left]
  have hunits : (amountText msg.amount).all (fun c => isDigit c || c = ascii ',') = true := by
    have hall : ∀ t : Text, isDigits t = true →
        t.all (fun c => isDigit c || c = ascii ',') = true := by
      intro t ht
      refine List.all_eq_true.mpr fun c hc => ?_
      rw [List.all_eq_true.mp ht c hc, Bool.true_or]
    rw [heq, List.all_append, List.all_cons, hall a ha, hall b hb]
    decide
  have hne : amountText msg.amount ≠ [] := by
    rw [heq]
    exact List.append_ne_nil_of_right_ne_nil _ (List.cons_ne_nil _ _)
  simp only [parse32A, hdate, hcut, hamount, hlength, hdigits, hcurrency, hupper, hunits, ne_eq, hne,
    not_false_eq_true, decide_true, Bool.and_self, ↓reduceIte]

/-- The units of `:32A:`. -/
theorem mem_text32A {msg : SwiftMt103Message} (h : Is32A msg) {c : CodeUnit}
    (hc : c ∈ text32A msg) : isDigit c = true ∨ isUpper c = true ∨ c = ascii ',' := by
  obtain ⟨a, b, heq, ha, hb, -⟩ := exists_amountText h.amount
  rw [text32A_eq, heq, List.mem_append, List.mem_append, List.mem_append, List.mem_cons] at hc
  rcases hc with (hc | hc) | hc | rfl | hc
  · exact Or.inl (List.all_eq_true.mp (isDigits_dateDigits h.valueDate.date).1 c hc)
  · exact Or.inr (Or.inl (List.all_eq_true.mp h.currency.2 c hc))
  · exact Or.inl (List.all_eq_true.mp ha c hc)
  · exact Or.inr (Or.inr rfl)
  · exact Or.inl (List.all_eq_true.mp hb c hc)

end MipitCore.Translation
