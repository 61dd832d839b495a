import MipitCore.Js.Value

/-!
# Schemas

A schema decodes a value or rejects it, and what it accepts it returns as typed
data, with unknown properties dropped. The combinators are those the program
builds its schemas from. A schema with a check returns a subtype, so that data that
was accepted carries what was checked.

## Main definitions

* `Schema` and its combinators: `string`, `number`, `enumeration`, `optional`,
  `default`, `nullable`, `array`, `object`, `check`, `refine`
* `MaxText` — strings of bounded length
* `isDatetime`, `Datetime`, `Datetime.toISOString` — ISO 8601 timestamps in UTC
-/

namespace MipitCore.Js

open CodeUnit (ascii isDigit)

/-- A schema for `α`: what `safeParse` returns, `none` on failure. -/
abbrev Schema (α : Type) := JsValue → Option α

/-- Strings of at most `n` units. -/
abbrev MaxText (n : ℕ) := {s : Text // s.length ≤ n}

namespace Schema

variable {α : Type}

/-- `z.string()` -/
def string : Schema Text
  | .string s => some s
  | _ => none

/-- `z.number()`, which takes infinities and rejects `NaN`. -/
def number : Schema Number
  | .number .nan => none
  | .number n => some n
  | _ => none

/-- `z.enum([...])`, decoded into the values that the names stand for. -/
def enumeration (names : List (String × α)) : Schema α
  | .string s => (names.find? fun n => js n.1 = s).map Prod.snd
  | _ => none

/-- `s.refine(p)`, where the result is used without its proof. -/
def check (p : α → Bool) (s : Schema α) : Schema α := fun v => (s v).filter p

/-- `s.refine(p)` -/
def refine (p : α → Prop) [DecidablePred p] (s : Schema α) : Schema {a : α // p a} := fun v =>
  (s v).bind fun a => if h : p a then some ⟨a, h⟩ else none

/-- `s.optional()` -/
def optional (s : Schema α) : Schema (Option α)
  | .undefined => some none
  | v => (s v).map some

/-- `s.nullable()` -/
def nullable (s : Schema α) : Schema (Option α)
  | .null => some none
  | v => (s v).map some

/-- `s.default(d)` -/
def default (d : α) (s : Schema α) : Schema α
  | .undefined => some d
  | v => s v

/-- `z.array(s)` -/
def array (s : Schema α) : Schema (List α)
  | .array items => items.mapM s
  | _ => none

/-- `z.object({...})`, given the decoder of its properties. -/
def object (decode : List (String × JsValue) → Option α) : Schema α
  | .object fields => decode fields
  | _ => none

/-- The property `key`, decoded by `s`. -/
def field (key : String) (s : Schema α) (fields : List (String × JsValue)) : Option α :=
  s (JsValue.field key fields)

/-- `z.string().max(n)` -/
def maxText (n : ℕ) : Schema (MaxText n) := refine (fun s : Text => s.length ≤ n) string

/-- `z.string().length(n)` -/
def textOfLength (n : ℕ) : Schema Text := check (fun s => s.length = n) string

/-- `z.string().max(n)`, as a plain string. -/
def textUpTo (n : ℕ) : Schema Text := check (fun s => s.length ≤ n) string

/-- `z.number().positive()` -/
def positiveNumber : Schema Number := check Number.isPositive number

@[simp] theorem string_string (s : Text) : string (.string s) = some s := rfl

@[simp] theorem string_undefined : string .undefined = none := rfl

@[simp] theorem object_object (decode : List (String × JsValue) → Option α)
    (fields : List (String × JsValue)) : object decode (.object fields) = decode fields := rfl

@[simp] theorem object_undefined (decode : List (String × JsValue) → Option α) :
    object decode .undefined = none := rfl

@[simp] theorem optional_undefined (s : Schema α) : optional s .undefined = some none := rfl

@[simp] theorem optional_string (s : Schema α) (t : Text) :
    optional s (.string t) = (s (.string t)).map some := rfl

@[simp] theorem optional_object (s : Schema α) (fields : List (String × JsValue)) :
    optional s (.object fields) = (s (.object fields)).map some := rfl

@[simp] theorem optional_number (s : Schema α) (n : Number) :
    optional s (.number n) = (s (.number n)).map some := rfl

@[simp] theorem default_undefined (d : α) (s : Schema α) : default d s .undefined = some d := rfl

@[simp] theorem default_string (d : α) (s : Schema α) (t : Text) :
    default d s (.string t) = s (.string t) := rfl

@[simp] theorem default_number (d : α) (s : Schema α) (n : Number) :
    default d s (.number n) = s (.number n) := rfl

@[simp] theorem textOfLength_string (n : ℕ) (s : Text) :
    textOfLength n (.string s) = if s.length = n then some s else none := by
  simp [textOfLength, check, Option.filter]

@[simp] theorem textUpTo_string (n : ℕ) (s : Text) :
    textUpTo n (.string s) = if s.length ≤ n then some s else none := by
  simp [textUpTo, check, Option.filter]

@[simp] theorem positiveNumber_number (n : Number) :
    positiveNumber (.number n) = if n.isPositive then some n else none := by
  cases n <;> simp [positiveNumber, check, number, Option.filter, Number.isPositive]

@[simp] theorem enumeration_string (names : List (String × α)) (s : Text) :
    enumeration names (.string s) = (names.find? fun n => js n.1 = s).map Prod.snd := rfl

/-! ### What a schema has accepted -/

theorem string_eq_some {v : JsValue} {s : Text} : string v = some s ↔ v = .string s := by
  cases v <;> simp [string]

theorem textUpTo_eq_some {n : ℕ} {v : JsValue} {s : Text} :
    textUpTo n v = some s ↔ v = .string s ∧ s.length ≤ n := by
  rw [textUpTo, check, Option.filter_eq_some_iff, string_eq_some, decide_eq_true_eq]

theorem textOfLength_eq_some {n : ℕ} {v : JsValue} {s : Text} :
    textOfLength n v = some s ↔ v = .string s ∧ s.length = n := by
  rw [textOfLength, check, Option.filter_eq_some_iff, string_eq_some, decide_eq_true_eq]

theorem positiveNumber_eq_some {v : JsValue} {n : Number} :
    positiveNumber v = some n ↔ v = .number n ∧ n.isPositive = true := by
  rw [positiveNumber, check, Option.filter_eq_some_iff]
  constructor
  · rintro ⟨hnumber, hpositive⟩
    refine ⟨?_, hpositive⟩
    unfold number at hnumber
    split at hnumber
    · cases hnumber
    · rw [Option.some.inj hnumber]
    · cases hnumber
  · rintro ⟨rfl, hpositive⟩
    cases n with
    | nan => cases hpositive
    | inf negative => exact ⟨rfl, hpositive⟩
    | fin q => exact ⟨rfl, hpositive⟩

theorem refine_eq_some {p : α → Prop} [DecidablePred p] {s : Schema α} {v : JsValue}
    {a : {a : α // p a}} : refine p s v = some a ↔ s v = some a.1 := by
  rw [refine, Option.bind_eq_some_iff]
  constructor
  · rintro ⟨b, hb, h⟩
    split at h
    · rw [← Option.some.inj h, hb]
    · cases h
  · intro h
    exact ⟨a.1, h, dif_pos a.2⟩

/-- An optional value is absent, or what its schema takes. -/
theorem optional_eq_some {s : Schema α} {v : JsValue} {o : Option α} (h : optional s v = some o) :
    v = .undefined ∧ o = none ∨ ∃ a, s v = some a ∧ o = some a := by
  unfold optional at h
  split at h
  · exact Or.inl ⟨rfl, (Option.some.inj h).symm⟩
  · obtain ⟨a, ha, rfl⟩ := Option.map_eq_some_iff.mp h
    exact Or.inr ⟨a, ha, rfl⟩

theorem optional_text {s : Schema Text} {v : JsValue} {o : Option Text}
    (hs : ∀ t, s v = some t → v = .string t) (h : optional s v = some o) :
    v = JsValue.ofText? o := by
  rcases optional_eq_some h with ⟨rfl, rfl⟩ | ⟨t, ht, rfl⟩
  · rfl
  · exact hs t ht

theorem optional_positiveNumber {v : JsValue} {o : Option Number}
    (h : optional positiveNumber v = some o) :
    v = JsValue.ofNumber? o ∧ ∀ n ∈ o, n.isPositive = true := by
  rcases optional_eq_some h with ⟨rfl, rfl⟩ | ⟨n, hn, rfl⟩
  · exact ⟨rfl, by simp⟩
  · obtain ⟨rfl, hpositive⟩ := positiveNumber_eq_some.mp hn
    exact ⟨rfl, by simpa using hpositive⟩

theorem array_text {n : ℕ} {v : JsValue} {texts : List Text}
    (h : array (textUpTo n) v = some texts) : v = .array (texts.map .string) := by
  cases v with
  | array items =>
    rw [array] at h
    congr 1
    induction items generalizing texts with
    | nil =>
      obtain rfl : [] = texts := by simpa using h
      rfl
    | cons v items ih =>
      rw [List.mapM_cons] at h
      obtain ⟨t, ht, h⟩ := Option.bind_eq_some_iff.mp h
      obtain ⟨rest, hrest, h⟩ := Option.bind_eq_some_iff.mp h
      obtain rfl := Option.some.inj h
      rw [(textUpTo_eq_some.mp ht).1, ih hrest, List.map_cons]
  | _ => cases h

/-- What an optional string decodes to, when it passes its check. -/
theorem optional_ofText? {s : Schema Text} {t : Option Text}
    (h : ∀ u ∈ t, s (.string u) = some u) : optional s (JsValue.ofText? t) = some t := by
  cases t with
  | none => rfl
  | some u => simp [JsValue.ofText?, h u rfl]

end Schema

@[simp] theorem js_inj {a b : String} : js a = js b ↔ a = b := js_injective.eq_iff

/-! ### Timestamps -/

/-- The number of days of a month of the Gregorian calendar. -/
def daysInMonth (year month : ℕ) : ℕ :=
  if month = 2 then
    if year % 4 = 0 ∧ (year % 100 ≠ 0 ∨ year % 400 = 0) then 29 else 28
  else if month = 4 ∨ month = 6 ∨ month = 9 ∨ month = 11 then 30
  else 31

/-- `YYYY-MM-DD`, a day of the calendar. -/
def isDateText (s : Text) : Bool :=
  let year := s.take 4
  let month := (s.drop 5).take 2
  let day := s.drop 8
  s.length = 10 && isDigits year && s[4]? = some (ascii '-') && isDigits month &&
    s[7]? = some (ascii '-') && isDigits day &&
    1 ≤ digitsValue month && digitsValue month ≤ 12 &&
    1 ≤ digitsValue day && digitsValue day ≤ daysInMonth (digitsValue year) (digitsValue month)

/-- `HH:mm` -/
def isMinuteText (s : Text) : Bool :=
  s.length = 5 && isDigits (s.take 2) && s[2]? = some (ascii ':') && isDigits (s.drop 3) &&
    digitsValue (s.take 2) ≤ 23 && digitsValue (s.drop 3) ≤ 59

/-- Two digits up to 59. -/
def isSecond (s : Text) : Bool := s.length = 2 && isDigits s && digitsValue s ≤ 59

/-- `Z`, or `:ssZ`, or `:ss.` digits `Z`. -/
def isSecondsText : Text → Bool
  | [] => false
  | c :: r =>
    if c = ascii 'Z' then r = []
    else c = ascii ':' && isSecond (r.take 2) &&
      match r.drop 2 with
      | [] => false
      | d :: r' =>
        if d = ascii 'Z' then r' = []
        else d = ascii '.' && r'.length ≥ 2 && isDigits r'.dropLast &&
          r'.getLast? = some (ascii 'Z')

/-- `z.string().datetime()` -/
def isDatetime (s : Text) : Bool :=
  isDateText (s.take 10) &&
    match s.drop 10 with
    | [] => false
    | c :: r => c = ascii 'T' && isMinuteText (r.take 5) && isSecondsText (r.drop 5)

/-- An ISO 8601 timestamp in UTC. -/
abbrev Datetime := {s : Text // isDatetime s = true}

namespace Datetime

/-- The seconds and milliseconds of a timestamp's tail, as `toISOString` writes them. -/
def isoSeconds (s : Text) : Text :=
  let second := (s.drop 1).take 2
  let fraction := (s.drop 4).takeWhile isDigit
  ascii ':' ::
    ((if isSecond second then second else js "00") ++
      ascii '.' :: ((Text.padEnd fraction 3 (ascii '0')).take 3 ++ [ascii 'Z']))

/-- The text of `new Date(s).toISOString()`: the same instant with seconds and three digits of
fraction. -/
def isoText (s : Text) : Text :=
  s.take 10 ++ ascii 'T' :: ((s.drop 11).take 5 ++ isoSeconds (s.drop 16))

theorem isSecondsText_isoSeconds (s : Text) : isSecondsText (isoSeconds s) = true := by
  have hcolon : ascii ':' ≠ ascii 'Z' := by decide
  have hpoint : ascii '.' ≠ ascii 'Z' := by decide
  set second := if isSecond ((s.drop 1).take 2) then (s.drop 1).take 2 else js "00" with hsecond
  have hsec : isSecond second = true := by
    rw [hsecond]
    split
    · assumption
    · decide
  have hlen : second.length = 2 := by
    simp only [isSecond, Bool.and_eq_true, decide_eq_true_eq] at hsec
    exact hsec.1.1
  set fraction := (Text.padEnd ((s.drop 4).takeWhile isDigit) 3 (ascii '0')).take 3
    with hfraction
  have hdigits : isDigits fraction = true := by
    refine isDigits_sublist (List.take_sublist _ _) (isDigits_append.mpr ⟨?_, ?_⟩)
    · rw [isDigits, List.all_eq_true]
      exact fun c hc => List.mem_takeWhile_imp hc
    · exact isDigits_replicate_zero _
  have hlen' : fraction.length = 3 := by
    rw [hfraction, List.length_take, Text.length_padEnd]
    omega
  have htake : (second ++ ascii '.' :: (fraction ++ [ascii 'Z'])).take 2 = second := by
    rw [← hlen, List.take_left]
  have hdrop : (second ++ ascii '.' :: (fraction ++ [ascii 'Z'])).drop 2 =
      ascii '.' :: (fraction ++ [ascii 'Z']) := by
    rw [← hlen, List.drop_left]
  simp only [isoSeconds, ← hsecond, ← hfraction, isSecondsText, if_neg hcolon, htake, hsec, hdrop,
    if_neg hpoint]
  simp [hdigits, hlen']

theorem length_of_isDateText {s : Text} (h : isDateText s = true) : s.length = 10 := by
  simp only [isDateText, Bool.and_eq_true, decide_eq_true_eq] at h
  tauto

theorem length_of_isMinuteText {s : Text} (h : isMinuteText s = true) : s.length = 5 := by
  simp only [isMinuteText, Bool.and_eq_true, decide_eq_true_eq] at h
  tauto

/-- A timestamp in parts: ten units of the date, and a time. -/
theorem isDatetime_parts {s : Text} (h : isDatetime s = true) :
    isDateText (s.take 10) = true ∧ ∃ r, s.drop 10 = ascii 'T' :: r ∧ s.drop 11 = r ∧
      isMinuteText (r.take 5) = true := by
  simp only [isDatetime, Bool.and_eq_true] at h
  obtain ⟨hdate, hrest⟩ := h
  cases hdrop : s.drop 10 with
  | nil => simp [hdrop] at hrest
  | cons c r =>
    simp only [hdrop, Bool.and_eq_true, decide_eq_true_eq] at hrest
    obtain ⟨⟨rfl, hminute⟩, -⟩ := hrest
    refine ⟨hdate, r, rfl, ?_, hminute⟩
    rw [show 11 = 10 + 1 from rfl, ← List.drop_drop, hdrop, List.drop_one, List.tail_cons]

theorem isDateText_take (d : Datetime) : isDateText (d.1.take 10) = true :=
  (isDatetime_parts d.2).1

theorem isDatetime_isoText {s : Text} (h : isDatetime s = true) :
    isDatetime (isoText s) = true := by
  obtain ⟨hdate, r, -, hr, hminute⟩ := isDatetime_parts h
  have hlen := length_of_isDateText hdate
  have hlen' := length_of_isMinuteText hminute
  set tail := isoSeconds (s.drop 16)
  have htake : (isoText s).take 10 = s.take 10 := by
    rw [isoText, List.take_append_of_le_length hlen.ge, List.take_of_length_le hlen.le]
  have hdrop : (isoText s).drop 10 = ascii 'T' :: (r.take 5 ++ tail) := by
    rw [isoText, hr, List.drop_append_of_le_length hlen.ge,
      List.drop_of_length_le hlen.le, List.nil_append]
  have hminute' : (r.take 5 ++ tail).take 5 = r.take 5 := by
    rw [List.take_append_of_le_length hlen'.ge, List.take_of_length_le hlen'.le]
  have hseconds : (r.take 5 ++ tail).drop 5 = tail := by
    rw [List.drop_append_of_le_length hlen'.ge, List.drop_of_length_le hlen'.le,
      List.nil_append]
  simp only [isDatetime, htake, hdate, hdrop, hminute', hminute, hseconds,
    isSecondsText_isoSeconds, tail, decide_true, Bool.and_self]

/-- `new Date(d).toISOString()` -/
def toISOString (d : Datetime) : Datetime := ⟨isoText d.1, isDatetime_isoText d.2⟩

example : isoText (js "2024-02-29T23:59Z") = js "2024-02-29T23:59:00.000Z" := by decide

end Datetime

end MipitCore.Js
