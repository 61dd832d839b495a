import MipitCore.Js.FixedText
import MipitCore.Js.Schema

/-!
# The instants of timestamps

A timestamp may leave out its seconds, and may have any number of digits of a fraction. As
`toISOString` writes it, it has both, and three digits: whole milliseconds of the instant.

## Main definitions

* `Instant`, `Datetime.instant` — the instant that a timestamp denotes
* `Instant.toMillis` — cut to whole milliseconds
* `Datetime.InMillis` — the timestamp has nothing below a millisecond

## Main results

* `instant_toISOString`, `InMillis.instant_toISOString`
* `toISOString_toISOString`
-/

namespace MipitCore.Js

open CodeUnit (ascii isDigit)

/-- An instant in UTC. -/
structure Instant where
  year : ℕ
  month : ℕ
  day : ℕ
  hour : ℕ
  minute : ℕ
  second : ℚ
  deriving DecidableEq

/-- The instant without what it has below a millisecond. -/
def Instant.toMillis (i : Instant) : Instant := { i with second := ⌊i.second * 1000⌋ / 1000 }

namespace Datetime

/-- The two digits of the seconds, which may be left out. -/
def secondText (tail : Text) : Text :=
  if isSecond ((tail.drop 1).take 2) then (tail.drop 1).take 2 else js "00"

/-- The digits of the fraction. -/
def fractionText (tail : Text) : Text := (tail.drop 4).takeWhile isDigit

/-- The seconds of a timestamp's tail. -/
def seconds (tail : Text) : ℚ :=
  digitsValue (secondText tail) + digitsValue (fractionText tail) / 10 ^ (fractionText tail).length

/-- The instant that a timestamp denotes. -/
def instant (d : Datetime) : Instant where
  year := digitsValue (d.1.slice 0 4)
  month := digitsValue (d.1.slice 5 7)
  day := digitsValue (d.1.slice 8 10)
  hour := digitsValue (d.1.slice 11 13)
  minute := digitsValue (d.1.slice 14 16)
  second := seconds (d.1.drop 16)

/-! ### Fractions -/

/-- Three digits of a fraction. -/
def millisText (fraction : Text) : Text := (Text.padEnd fraction 3 (ascii '0')).take 3

theorem length_millisText (fraction : Text) : (millisText fraction).length = 3 := by
  rw [millisText, List.length_take, Text.length_padEnd]
  omega

theorem isDigits_millisText {fraction : Text} (h : isDigits fraction = true) :
    isDigits (millisText fraction) = true :=
  isDigits_sublist (List.take_sublist 3 _) (isDigits_append.mpr ⟨h, isDigits_replicate_zero _⟩)

theorem millisText_of_length {fraction : Text} (h : fraction.length = 3) :
    millisText fraction = fraction := by
  rw [millisText, Text.padEnd, h, Nat.sub_self, List.replicate_zero, List.append_nil,
    List.take_of_length_le h.le]

/-- **Three digits are the whole milliseconds of a fraction.** -/
theorem digitsValue_millisText {fraction : Text} (h : isDigits fraction = true) :
    (digitsValue (millisText fraction) : ℤ) =
      ⌊(digitsValue fraction : ℚ) / 10 ^ fraction.length * 1000⌋ := by
  refine (Int.floor_eq_iff.mpr ?_).symm
  rcases le_total fraction.length 3 with hshort | hlong
  · -- zeros after a fraction do not change it
    have hpad : digitsValue (millisText fraction) =
        digitsValue fraction * 10 ^ (3 - fraction.length) := by
      rw [millisText, List.take_of_length_le (by rw [Text.length_padEnd]; omega), Text.padEnd,
        digitsValue_append, digitsValue_replicate_zero, List.length_replicate, Nat.add_zero]
    have hpow : (1000 : ℚ) = 10 ^ (3 - fraction.length) * 10 ^ fraction.length := by
      rw [← pow_add, Nat.sub_add_cancel hshort]
      norm_num
    have hne : (10 : ℚ) ^ fraction.length ≠ 0 := by positivity
    have hvalue : (digitsValue fraction : ℚ) / 10 ^ fraction.length * 1000 =
        digitsValue (millisText fraction) := by
      rw [hpad, hpow]
      push_cast
      field_simp
    rw [hvalue]
    push_cast
    constructor <;> linarith
  · -- digits after the third are less than a millisecond
    have htake : millisText fraction = fraction.take 3 := by
      rw [millisText, Text.padEnd, Nat.sub_eq_zero_of_le hlong, List.replicate_zero, List.append_nil]
    have hsplit := digitsValue_append (fraction.take 3) (fraction.drop 3)
    rw [List.take_append_drop, ← htake] at hsplit
    have hrest := digitsValue_lt (isDigits_sublist (List.drop_sublist 3 fraction) h)
    have hlength : (fraction.drop 3).length + 3 = fraction.length := by
      rw [List.length_drop]
      omega
    set k := (fraction.drop 3).length
    have hpow : (10 : ℚ) ^ fraction.length = 10 ^ k * 1000 := by
      rw [← hlength, pow_add]
      norm_num
    have hpos : (0 : ℚ) < 10 ^ k := by positivity
    have hvalue : (digitsValue fraction : ℚ) / 10 ^ fraction.length * 1000 =
        digitsValue (millisText fraction) + digitsValue (fraction.drop 3) / 10 ^ k := by
      rw [hpow, hsplit]
      push_cast
      field_simp
    have hlt : (digitsValue (fraction.drop 3) : ℚ) / 10 ^ k < 1 := by
      rw [div_lt_one hpos]
      exact_mod_cast hrest
    have hnonneg : (0 : ℚ) ≤ digitsValue (fraction.drop 3) / 10 ^ k := by positivity
    rw [hvalue]
    push_cast
    constructor <;> linarith

/-! ### Seconds -/

theorem length_secondText (tail : Text) : (secondText tail).length = 2 := by
  unfold secondText
  split_ifs with h
  · simp only [isSecond, Bool.and_eq_true, decide_eq_true_eq] at h
    exact h.1.1
  · decide

theorem isSecond_secondText (tail : Text) : isSecond (secondText tail) = true := by
  unfold secondText
  split_ifs with h
  · exact h
  · decide

theorem isDigits_fractionText (tail : Text) : isDigits (fractionText tail) = true :=
  List.all_eq_true.mpr fun _ hunit => List.mem_takeWhile_imp hunit

theorem isoSeconds_eq (tail : Text) :
    isoSeconds tail =
      ascii ':' :: (secondText tail ++ ascii '.' :: (millisText (fractionText tail) ++ [ascii 'Z'])) :=
  rfl

theorem secondText_isoSeconds (tail : Text) : secondText (isoSeconds tail) = secondText tail := by
  have htake : ((isoSeconds tail).drop 1).take 2 = secondText tail := by
    rw [isoSeconds_eq, List.drop_one, List.tail_cons, ← length_secondText tail, List.take_left]
  rw [secondText, htake, if_pos (isSecond_secondText tail)]

theorem fractionText_isoSeconds (tail : Text) :
    fractionText (isoSeconds tail) = millisText (fractionText tail) := by
  have hdrop : (isoSeconds tail).drop 4 = millisText (fractionText tail) ++ [ascii 'Z'] := by
    have hcut : 4 = (ascii ':' :: (secondText tail ++ [ascii '.'])).length := by
      rw [List.length_cons, List.length_append, length_secondText]
      rfl
    have hparts : isoSeconds tail = ascii ':' :: (secondText tail ++ [ascii '.']) ++
        (millisText (fractionText tail) ++ [ascii 'Z']) := by
      rw [isoSeconds_eq]
      simp
    rw [hparts, hcut, List.drop_left]
  rw [fractionText, hdrop]
  -- reading stops at the Z
  have hdigits := isDigits_millisText (isDigits_fractionText tail)
  rw [List.takeWhile_append_of_pos fun unit hunit => List.all_eq_true.mp hdigits unit hunit,
    List.takeWhile_cons_of_neg (by decide), List.append_nil]

/-- The seconds that are written are whole milliseconds. -/
theorem seconds_isoSeconds (tail : Text) :
    seconds (isoSeconds tail) = ⌊seconds tail * 1000⌋ / 1000 := by
  have hmillis := digitsValue_millisText (isDigits_fractionText tail)
  have hfloor : ⌊seconds tail * 1000⌋ =
      digitsValue (secondText tail) * 1000 + (digitsValue (millisText (fractionText tail)) : ℤ) := by
    have hsum : seconds tail * 1000 = ((digitsValue (secondText tail) * 1000 : ℤ) : ℚ) +
        (digitsValue (fractionText tail) : ℚ) / 10 ^ (fractionText tail).length * 1000 := by
      rw [seconds]
      push_cast
      ring
    rw [hsum, Int.floor_intCast_add, ← hmillis]
  rw [hfloor, seconds, secondText_isoSeconds, fractionText_isoSeconds, length_millisText]
  push_cast
  ring

/-! ### Timestamps -/

/-- A timestamp as it is written keeps its first sixteen units. -/
theorem isoText_eq {s : Text} (h : isDatetime s = true) :
    isoText s = s.take 16 ++ isoSeconds (s.drop 16) ∧ 16 ≤ s.length := by
  obtain ⟨hdate, r, hdrop, hr, hminute⟩ := isDatetime_parts h
  have hlen := length_of_isDateText hdate
  have hlen' := length_of_isMinuteText hminute
  have htake : s.take 16 = s.take 10 ++ ascii 'T' :: r.take 5 := by
    have hsplit : s = s.take 10 ++ ascii 'T' :: r := by rw [← hdrop, List.take_append_drop]
    -- ten units of the date, the T, and five of the time
    conv_lhs => rw [hsplit, List.take_append, hlen]
    rw [List.take_take]
    rfl
  refine ⟨?_, ?_⟩
  · rw [isoText, hr, htake, List.append_assoc, List.cons_append]
  · have hlong := congrArg List.length htake
    rw [List.length_append, hlen, List.length_cons, hlen', List.length_take] at hlong
    omega

section

variable (d : Datetime)

theorem slice_toISOString {a b : ℕ} (hb : b ≤ 16) : d.toISOString.1.slice a b = d.1.slice a b := by
  obtain ⟨htext, hlength⟩ := isoText_eq d.2
  show ((isoText d.1).take b).drop a = (d.1.take b).drop a
  rw [htext, List.take_append_of_le_length (by rw [List.length_take]; omega), List.take_take,
    Nat.min_eq_left hb]

theorem drop_toISOString : d.toISOString.1.drop 16 = isoSeconds (d.1.drop 16) := by
  obtain ⟨htext, hlength⟩ := isoText_eq d.2
  have hsixteen : (d.1.take 16).length = 16 := by rw [List.length_take]; omega
  show (isoText d.1).drop 16 = _
  rw [htext]
  exact List.drop_left' hsixteen

/-- **`toISOString` writes whole milliseconds** of the instant. -/
theorem instant_toISOString : d.toISOString.instant = d.instant.toMillis := by
  simp only [instant, Instant.toMillis, slice_toISOString d (by decide : 4 ≤ 16),
    slice_toISOString d (by decide : 7 ≤ 16), slice_toISOString d (by decide : 10 ≤ 16),
    slice_toISOString d (by decide : 13 ≤ 16), slice_toISOString d (by decide : 16 ≤ 16),
    drop_toISOString, seconds_isoSeconds]

/-- A timestamp with at most three digits of a fraction. -/
def InMillis : Prop := (fractionText (d.1.drop 16)).length ≤ 3

theorem inMillis_toISOString : d.toISOString.InMillis := by
  rw [InMillis, drop_toISOString, fractionText_isoSeconds, length_millisText]

/-- **Such a timestamp is written as the same instant.** -/
theorem InMillis.instant_toISOString (h : d.InMillis) : d.toISOString.instant = d.instant := by
  have hwhole : ∃ n : ℤ, d.instant.second * 1000 = n := by
    set fraction := fractionText (d.1.drop 16)
    refine ⟨digitsValue (secondText (d.1.drop 16)) * 1000 +
      digitsValue fraction * 10 ^ (3 - fraction.length), ?_⟩
    have hpow : (1000 : ℚ) = 10 ^ (3 - fraction.length) * 10 ^ fraction.length := by
      rw [← pow_add, Nat.sub_add_cancel h]
      norm_num
    have hne : (10 : ℚ) ^ fraction.length ≠ 0 := by positivity
    have hfraction : (digitsValue fraction : ℚ) / 10 ^ fraction.length * 1000 =
        digitsValue fraction * 10 ^ (3 - fraction.length) := by
      rw [hpow]
      field_simp
    change (_ + _ / _) * 1000 = _
    rw [add_mul, hfraction]
    push_cast
    ring
  obtain ⟨n, hn⟩ := hwhole
  have hsecond : (⌊d.instant.second * 1000⌋ : ℚ) / 1000 = d.instant.second := by
    rw [hn, Int.floor_intCast, ← hn]
    ring
  rw [Datetime.instant_toISOString, Instant.toMillis, hsecond]

theorem isoSeconds_isoSeconds (tail : Text) : isoSeconds (isoSeconds tail) = isoSeconds tail := by
  rw [isoSeconds_eq (isoSeconds tail), secondText_isoSeconds, fractionText_isoSeconds,
    millisText_of_length (length_millisText _), ← isoSeconds_eq]

/-- **What it has written it writes again.** -/
theorem toISOString_toISOString : d.toISOString.toISOString = d.toISOString := by
  apply Subtype.ext
  obtain ⟨htext, -⟩ := isoText_eq d.toISOString.2
  obtain ⟨htext', -⟩ := isoText_eq d.2
  have hsixteen : d.toISOString.1.take 16 = d.1.take 16 :=
    slice_toISOString (a := 0) d (le_refl 16)
  show isoText d.toISOString.1 = isoText d.1
  rw [htext, htext', hsixteen, drop_toISOString, isoSeconds_isoSeconds]

end

end Datetime

end MipitCore.Js
