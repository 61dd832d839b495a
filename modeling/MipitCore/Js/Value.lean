import MipitCore.Js.NumberText

/-!
# JavaScript values and `JSON.stringify`

Values are what a decoded message or an object literal of the program holds: data
without functions. Property names are the names the program writes, so they are
Lean strings, and an object is its list of own properties in insertion order.

`JSON.stringify` escapes strings and writes numbers as `String` does, and `null`
for what is not finite. On the values a validated request consists of it loses
nothing: the text determines the value (`stringify_injective`).

## Main definitions

* `JsValue`, `JsValue.get`, `JsValue.has` — values, `v.key` and `'key' in v`
* `objectPrototype`, `isInherited` — names that every object answers to
* `quote`, `stringify` — `JSON.stringify`
* `JsValue.isPlain` — strings, positive numbers, and objects of them

## Main results

* `quoteFrom_append_injective` — an escaped string ends where its quote does
* `stringify_injective`
-/

namespace MipitCore.Js

open CodeUnit (ascii isDigit isHighSurrogate isLowSurrogate)

/-- A JavaScript value. -/
inductive JsValue
  | undefined
  | null
  | bool (b : Bool)
  | number (n : Number)
  | string (s : Text)
  | array (items : List JsValue)
  | object (fields : List (String × JsValue))

/-- The names that objects inherit from `Object.prototype`. -/
def objectPrototype : List String :=
  ["__defineGetter__", "__defineSetter__", "__lookupGetter__", "__lookupSetter__", "__proto__",
    "constructor", "hasOwnProperty", "isPrototypeOf", "propertyIsEnumerable", "toLocaleString",
    "toString", "valueOf"]

/-- An object literal that is read under the name `s` answers with a function, or with
`Object.prototype`, unless it has a property of that name itself. -/
def isInherited (s : Text) : Bool := objectPrototype.any fun name => js name = s

namespace JsValue

instance : Inhabited JsValue := ⟨undefined⟩

/-- The own property `key` among `fields`, `undefined` where there is none. -/
def field (key : String) : List (String × JsValue) → JsValue
  | [] => undefined
  | (k, v) :: fields => if k = key then v else field key fields

@[simp] theorem field_nil (key : String) : field key [] = undefined := rfl

@[simp] theorem field_cons (key k : String) (v : JsValue) (fields : List (String × JsValue)) :
    field key ((k, v) :: fields) = if k = key then v else field key fields := rfl

/-- Overwrites or appends the own property `key`. -/
def setField (key : String) (v : JsValue) : List (String × JsValue) → List (String × JsValue)
  | [] => [(key, v)]
  | (k, w) :: fields => if k = key then (k, v) :: fields else (k, w) :: setField key v fields

/-- `v.key`, for a name that only objects of the program have; `none` is the `TypeError` of
reading from `undefined` or `null`. -/
def get (key : String) : JsValue → Option JsValue
  | undefined | null => none
  | object fields => some (field key fields)
  | _ => some undefined

/-- `v?.key` -/
def getOptional (key : String) (v : JsValue) : JsValue := (v.get key).getD undefined

/-- `'key' in v`; `none` is the `TypeError` for a value that is no object. -/
def has (key : String) : JsValue → Option Bool
  | object fields => some (fields.any fun f => f.1 = key)
  | array _ => some false
  | _ => none

/-- `v ?? w` -/
def nullish (v w : JsValue) : JsValue :=
  match v with
  | undefined | null => w
  | v => v

/-- Whether `v` is truthy. -/
def truthy : JsValue → Bool
  | undefined | null => false
  | bool b => b
  | number n => n ≠ .fin 0 && n ≠ .nan
  | string s => s ≠ []
  | array _ | object _ => true

/-- An optional string of a typed object. -/
def ofText? : Option Text → JsValue
  | none => undefined
  | some s => string s

/-- An optional number of a typed object. -/
def ofNumber? : Option Number → JsValue
  | none => undefined
  | some n => number n

/-- An optional list of strings of a typed object. -/
def ofTexts? : Option (List Text) → JsValue
  | none => undefined
  | some texts => array (texts.map string)

@[simp] theorem ofText?_inj {s t : Option Text} : ofText? s = ofText? t ↔ s = t := by
  cases s <;> cases t <;> simp [ofText?]

@[simp] theorem string_eq_ofText? {s : Text} {t : Option Text} :
    string s = ofText? t ↔ t = some s := by
  cases t <;> simp [ofText?, eq_comm]

@[simp] theorem undefined_eq_ofText? {t : Option Text} : undefined = ofText? t ↔ t = none := by
  cases t <;> simp [ofText?]

@[simp] theorem ofNumber?_inj {m n : Option Number} : ofNumber? m = ofNumber? n ↔ m = n := by
  cases m <;> cases n <;> simp [ofNumber?]

@[simp] theorem ofTexts?_inj {s t : Option (List Text)} : ofTexts? s = ofTexts? t ↔ s = t := by
  have hstring : Function.Injective string := fun _ _ h => string.inj h
  cases s <;> cases t <;> simp [ofTexts?, hstring.list_map.eq_iff]

@[simp] theorem undefined_eq_ofTexts? {t : Option (List Text)} :
    undefined = ofTexts? t ↔ t = none := by
  cases t <;> simp [ofTexts?]

@[simp] theorem getOptional_object (key : String) (fields : List (String × JsValue)) :
    (object fields).getOptional key = field key fields := rfl

@[simp] theorem get_object (key : String) (fields : List (String × JsValue)) :
    (object fields).get key = some (field key fields) := rfl

theorem field_setField (key key' : String) (v : JsValue) (fields : List (String × JsValue)) :
    field key (setField key' v fields) =
      if key' = key then v else field key fields := by
  induction fields with
  | nil => rfl
  | cons f fields ih =>
    obtain ⟨k, w⟩ := f
    by_cases hk : k = key'
    · subst hk
      by_cases hkey : k = key <;> simp [setField, hkey]
    · by_cases hkey : k = key
      · subst hkey
        simp [setField, hk, Ne.symm hk]
      · simp [setField, hk, hkey, ih]

/-- A property with a value is there. -/
theorem any_of_field {key : String} {fields : List (String × JsValue)}
    (h : field key fields ≠ undefined) : (fields.any fun f => f.1 = key) = true := by
  induction fields with
  | nil => exact absurd rfl h
  | cons f fields ih =>
    obtain ⟨k, v⟩ := f
    by_cases hk : k = key
    · simp [hk]
    · rw [field_cons, if_neg hk] at h
      simp only [List.any_cons, ih h, Bool.or_true]

end JsValue

/-! ### Strings in JSON -/

/-- A lower-case hexadecimal digit. -/
def hexDigit (n : ℕ) : CodeUnit := if n < 10 then (48 + n).toUInt16 else (87 + n).toUInt16

/-- The value of a lower-case hexadecimal digit. -/
def hexValue (c : CodeUnit) : ℕ := if c.toNat < 58 then c.toNat - 48 else c.toNat - 87

/-- `\uXXXX` -/
def unicodeEscape (c : CodeUnit) : Text :=
  [ascii '\\', ascii 'u', hexDigit (c.toNat / 4096), hexDigit (c.toNat / 256 % 16),
    hexDigit (c.toNat / 16 % 16), hexDigit (c.toNat % 16)]

/-- The letter of the two-unit escape of `c`, where it has one. -/
def shortEscape (c : CodeUnit) : Option CodeUnit :=
  if c = 8 then some (ascii 'b')
  else if c = 9 then some (ascii 't')
  else if c = 10 then some (ascii 'n')
  else if c = 12 then some (ascii 'f')
  else if c = 13 then some (ascii 'r')
  else if c = ascii '"' ∨ c = ascii '\\' then some c
  else none

/-- What `JSON.stringify` writes for a unit that is not half of a surrogate pair. -/
def escapeUnit (c : CodeUnit) : Text :=
  match shortEscape c with
  | some letter => [ascii '\\', letter]
  | none => if c < 32 ∨ isHighSurrogate c ∨ isLowSurrogate c then unicodeEscape c else [c]

/-- Whether the text starts with the second half of a surrogate pair. -/
def lowFirst : Text → Bool
  | [] => false
  | c :: _ => isLowSurrogate c

/-- The escaped units of a string. `paired` says that the unit before was the first half of a
pair, which is written as it is. -/
def quoteFrom (paired : Bool) : Text → Text
  | [] => []
  | c :: s =>
    if paired then c :: quoteFrom false s
    else if isHighSurrogate c && lowFirst s then c :: quoteFrom true s
    else escapeUnit c ++ quoteFrom false s

/-- A string literal of JSON. -/
def quote (s : Text) : Text := ascii '"' :: (quoteFrom false s ++ [ascii '"'])

/-- Reads the first unit back from an escaped string. -/
def readUnit : Text → Option (CodeUnit × Text)
  | [] => none
  | c :: r =>
    if c ≠ ascii '\\' then some (c, r)
    else match r with
      | [] => none
      | e :: r' =>
        if e = ascii 'u' then
          match r' with
          | h₃ :: h₂ :: h₁ :: h₀ :: r'' =>
            some ((hexValue h₃ * 4096 + hexValue h₂ * 256 + hexValue h₁ * 16 +
              hexValue h₀).toUInt16, r'')
          | _ => none
        else if e = ascii 'b' then some (8, r')
        else if e = ascii 't' then some (9, r')
        else if e = ascii 'n' then some (10, r')
        else if e = ascii 'f' then some (12, r')
        else if e = ascii 'r' then some (13, r')
        else some (e, r')

theorem hexValue_hexDigit {n : ℕ} (h : n < 16) : hexValue (hexDigit n) = n := by
  interval_cases n <;> decide

theorem readUnit_unicodeEscape (c : CodeUnit) (r : Text) :
    readUnit (unicodeEscape c ++ r) = some (c, r) := by
  have hc : c.toNat < 65536 := c.toNat_lt
  have hbar : ascii '\\' = 92 := by decide
  have hu : ascii 'u' = 117 := by decide
  simp only [unicodeEscape, readUnit, List.cons_append, List.nil_append, ne_eq, not_true_eq_false,
    ↓reduceIte, hexValue_hexDigit (show c.toNat / 4096 < 16 by omega),
    hexValue_hexDigit (show c.toNat / 256 % 16 < 16 by omega),
    hexValue_hexDigit (show c.toNat / 16 % 16 < 16 by omega),
    hexValue_hexDigit (show c.toNat % 16 < 16 by omega), Option.some.injEq, Prod.mk.injEq,
    and_true]
  rw [show c.toNat / 4096 * 4096 + c.toNat / 256 % 16 * 256 + c.toNat / 16 % 16 * 16 +
    c.toNat % 16 = c.toNat by omega]
  exact UInt16.toNat_inj.mp (by simp)

theorem readUnit_raw {c : CodeUnit} (h : c ≠ ascii '\\') (r : Text) :
    readUnit (c :: r) = some (c, r) := by
  simp [readUnit, h]

theorem readUnit_shortEscape {c letter : CodeUnit} (h : shortEscape c = some letter) (r : Text) :
    readUnit (ascii '\\' :: letter :: r) = some (c, r) := by
  unfold shortEscape at h
  split_ifs at h with h₁ h₂ h₃ h₄ h₅ h₆ <;> obtain rfl := Option.some.inj h
  · subst h₁; simp [readUnit, ascii]
  · subst h₂; simp [readUnit, ascii]
  · subst h₃; simp [readUnit, ascii]
  · subst h₄; simp [readUnit, ascii]
  · subst h₅; simp [readUnit, ascii]
  · rcases h₆ with rfl | rfl <;> simp [readUnit, ascii]

/-- Every escape reads back, and none of them starts with the closing quote. -/
theorem escapeUnit_spec (c : CodeUnit) (r : Text) :
    readUnit (escapeUnit c ++ r) = some (c, r) ∧ (escapeUnit c ++ r).head? ≠ some (ascii '"') := by
  unfold escapeUnit
  cases h : shortEscape c with
  | some letter =>
    exact ⟨readUnit_shortEscape h r, by simp; decide⟩
  | none =>
    have hplain : c ≠ ascii '"' ∧ c ≠ ascii '\\' := by
      refine ⟨?_, ?_⟩ <;> rintro rfl <;> exact absurd h (by decide)
    dsimp only
    split
    · exact ⟨readUnit_unicodeEscape c r, by simp [unicodeEscape]; decide⟩
    · exact ⟨readUnit_raw hplain.2 r, by simpa using hplain.1⟩

theorem surrogate_plain {c : CodeUnit} (h : isHighSurrogate c = true ∨ isLowSurrogate c = true) :
    c ≠ ascii '"' ∧ c ≠ ascii '\\' := by
  constructor <;> rintro rfl <;> revert h <;> decide

/-- The escaped text of a nonempty string gives its first unit and the escaped text of the rest;
a unit written raw because of its neighbour is half of a surrogate pair. -/
theorem quoteFrom_cons {paired : Bool} {c : CodeUnit} {s : Text}
    (hpaired : paired = true → isLowSurrogate c = true) :
    ∃ paired', (paired' = true → lowFirst s = true) ∧ ∀ r,
      readUnit (quoteFrom paired (c :: s) ++ r) = some (c, quoteFrom paired' s ++ r) ∧
        (quoteFrom paired (c :: s) ++ r).head? ≠ some (ascii '"') := by
  cases paired with
  | true =>
    have hplain := surrogate_plain (Or.inr (hpaired rfl))
    refine ⟨false, by simp, fun r => ?_⟩
    simp only [quoteFrom, ↓reduceIte, List.cons_append]
    exact ⟨readUnit_raw hplain.2 _, by simpa using hplain.1⟩
  | false =>
    by_cases hpair : (isHighSurrogate c && lowFirst s) = true
    · have hboth := Bool.and_eq_true_iff.mp hpair
      have hplain := surrogate_plain (Or.inl hboth.1)
      refine ⟨true, fun _ => hboth.2, fun r => ?_⟩
      simp only [quoteFrom, Bool.false_eq_true, ↓reduceIte, hpair, List.cons_append]
      exact ⟨readUnit_raw hplain.2 _, by simpa using hplain.1⟩
    · refine ⟨false, by simp, fun r => ?_⟩
      simp only [quoteFrom, Bool.false_eq_true, ↓reduceIte, hpair, List.append_assoc]
      exact escapeUnit_spec c _

/-- **A string literal ends at its own quote**, and its escaped text determines the string. -/
theorem quoteFrom_append_injective {s t : Text} {b b' : Bool} {r r' : Text}
    (hb : b = true → lowFirst s = true) (hb' : b' = true → lowFirst t = true)
    (h : quoteFrom b s ++ ascii '"' :: r = quoteFrom b' t ++ ascii '"' :: r') :
    s = t ∧ r = r' := by
  induction s generalizing t b b' with
  | nil =>
    cases t with
    | nil => exact ⟨rfl, (List.cons.inj h).2⟩
    | cons d t =>
      obtain ⟨_, -, hd⟩ := quoteFrom_cons (s := t) fun ht => hb' ht
      have hhead := (hd (ascii '"' :: r')).2
      rw [← h] at hhead
      exact absurd rfl hhead
  | cons c s ih =>
    obtain ⟨b₁, hb₁, hc⟩ := quoteFrom_cons (s := s) fun hs => hb hs
    obtain ⟨hread, hhead⟩ := hc (ascii '"' :: r)
    cases t with
    | nil =>
      rw [h] at hhead
      exact absurd rfl hhead
    | cons d t =>
      obtain ⟨b₂, hb₂, hd⟩ := quoteFrom_cons (s := t) fun ht => hb' ht
      have hread' := (hd (ascii '"' :: r')).1
      rw [← h, hread] at hread'
      obtain ⟨rfl, hrest⟩ := Prod.mk.inj (Option.some.inj hread')
      obtain ⟨rfl, rfl⟩ := ih hb₁ hb₂ hrest
      exact ⟨rfl, rfl⟩

theorem quote_append_injective {s t r r' : Text} (h : quote s ++ r = quote t ++ r') :
    s = t ∧ r = r' := by
  simp only [quote, List.cons_append, List.append_assoc, List.nil_append] at h
  exact quoteFrom_append_injective (by simp) (by simp) (List.cons.inj h).2

/-! ### Values in JSON -/

/-- A number in JSON. -/
def numberJson : Number → Text
  | .fin q => Number.toText (.fin q)
  | _ => js "null"

mutual

/-- `JSON.stringify(v)`, `none` where it is `undefined`. -/
def stringify : JsValue → Option Text
  | .undefined => none
  | .null => some (js "null")
  | .bool b => some (if b then js "true" else js "false")
  | .number n => some (numberJson n)
  | .string s => some (quote s)
  | .array items => some (ascii '[' :: stringifyItems true items)
  | .object fields => some (ascii '{' :: stringifyFields true fields)

/-- The rest of an array, with a comma before every item but the first. -/
def stringifyItems (first : Bool) : List JsValue → Text
  | [] => [ascii ']']
  | v :: items =>
    (if first then [] else [ascii ',']) ++ (stringify v).getD (js "null") ++
      stringifyItems false items

/-- The rest of an object; properties without a value are left out. -/
def stringifyFields (first : Bool) : List (String × JsValue) → Text
  | [] => [ascii '}']
  | (key, v) :: fields =>
    match stringify v with
    | none => stringifyFields first fields
    | some text =>
      (if first then [] else [ascii ',']) ++ quote (js key) ++ ascii ':' :: text ++
        stringifyFields false fields

end

mutual

/-- Strings, positive numbers, and objects of them. -/
def JsValue.isPlain : JsValue → Bool
  | .number n => n.isPositive
  | .string _ => true
  | .object fields => isPlainFields fields
  | _ => false

/-- Every property is plain. -/
def isPlainFields : List (String × JsValue) → Bool
  | [] => true
  | (_, v) :: fields => v.isPlain && isPlainFields fields

end

/-- What may follow a value: the end, a comma, or a closing brace. -/
def Delimited (r : Text) : Prop := ∀ c s, r = c :: s → c = ascii ',' ∨ c = ascii '}'

theorem delimited_nil : Delimited [] := by
  intro c s h
  simp at h

/-- The text of a positive number: `null` for infinity, else numeric units and a bar. -/
theorem numberJson_cases {n : Number} (h : n.isPositive = true) :
    (n = .inf false ∧ numberJson n = js "null") ∨
      ∃ q, 0 < q ∧ n = .fin q ∧ numberJson n = positiveText q := by
  cases n with
  | nan => simp [Number.isPositive] at h
  | inf negative =>
    obtain rfl : negative = false := by simpa [Number.isPositive] using h
    exact Or.inl ⟨rfl, rfl⟩
  | fin q =>
    have hq : 0 < q := by simpa using h
    exact Or.inr ⟨q, hq, rfl, by simp [numberJson, Number.toText, hq.ne', not_lt.mpr hq.le]⟩

/-- The units that the text of a positive number consists of. -/
def isNumberUnit (c : CodeUnit) : Bool := isNumeric c || c = ascii '/'

theorem takeWhile_positiveText {q : ℚ} {r : Text} (hr : Delimited r) :
    (positiveText q ++ r).takeWhile isNumberUnit = positiveText q := by
  have hall : ∀ c ∈ positiveText q, isNumberUnit c = true := fun c hc => by
    rcases mem_positiveText hc with h | h <;> simp [isNumberUnit, h]
  rw [List.takeWhile_append_of_pos hall]
  cases r with
  | nil => simp
  | cons c s =>
    rcases hr c s rfl with rfl | rfl
    · rw [List.takeWhile_cons_of_neg (by decide), List.append_nil]
    · rw [List.takeWhile_cons_of_neg (by decide), List.append_nil]

theorem positiveText_ne_nil {q : ℚ} (hq : 0 < q) : positiveText q ≠ [] := by
  intro hnil
  cases h : decimalPlaces q with
  | some t =>
    have := parseUnsigned_positiveText hq h
    rw [hnil] at this
    simp [parseUnsigned, fractionPart] at this
  | none =>
    rw [positiveText_of_none h] at hnil
    simp at hnil

theorem positiveText_cons {q : ℚ} (hq : 0 < q) :
    ∃ c s, positiveText q = c :: s ∧ isNumberUnit c = true := by
  obtain ⟨c, s, hcs⟩ := List.exists_cons_of_ne_nil (positiveText_ne_nil hq)
  refine ⟨c, s, hcs, ?_⟩
  have hmem : c ∈ positiveText q := by
    rw [hcs]
    exact List.mem_cons_self
  rcases mem_positiveText hmem with h | h <;> simp [isNumberUnit, h]

/-- The first unit of a number's text is neither a quote nor a brace. -/
theorem numberJson_cons {n : Number} (h : n.isPositive = true) :
    ∃ c s, numberJson n = c :: s ∧ c ≠ ascii '"' ∧ c ≠ ascii '{' := by
  rcases numberJson_cases h with ⟨-, htext⟩ | ⟨q, hq, -, htext⟩
  · exact ⟨ascii 'n', js "ull", by rw [htext]; decide, by decide, by decide⟩
  · obtain ⟨c, s, hcs, hc⟩ := positiveText_cons hq
    refine ⟨c, s, by rw [htext, hcs], ?_, ?_⟩ <;> rintro rfl <;> exact absurd hc (by decide)

theorem numberJson_append_injective {m n : Number} {r r' : Text} (hm : m.isPositive = true)
    (hn : n.isPositive = true) (hr : Delimited r) (hr' : Delimited r')
    (h : numberJson m ++ r = numberJson n ++ r') : m = n ∧ r = r' := by
  have hnull : ∀ {q : ℚ} {s s' : Text}, 0 < q → js "null" ++ s ≠ positiveText q ++ s' := by
    intro q s s' hq heq
    obtain ⟨c, t, hcs, hc⟩ := positiveText_cons hq
    rw [hcs] at heq
    have hnull : js "null" = ascii 'n' :: js "ull" := by decide
    have hhead : ascii 'n' = c := by
      rw [hnull] at heq
      exact (List.cons.inj heq).1
    subst hhead
    exact absurd hc (by decide)
  rcases numberJson_cases hm with ⟨rfl, htm⟩ | ⟨p, hp, rfl, htm⟩ <;>
    rcases numberJson_cases hn with ⟨rfl, htn⟩ | ⟨q, hq, rfl, htn⟩ <;>
    simp only [htm, htn] at h
  · exact ⟨rfl, List.append_cancel_left h⟩
  · exact absurd h (hnull hq)
  · exact absurd h.symm (hnull hp)
  · have htext := congrArg (List.takeWhile isNumberUnit) h
    rw [takeWhile_positiveText hr, takeWhile_positiveText hr'] at htext
    rw [htext] at h
    exact ⟨by rw [positiveText_injective hp hq htext], List.append_cancel_left h⟩

theorem stringify_of_isPlain {v : JsValue} (h : v.isPlain = true) :
    ∃ text, stringify v = some text := by
  cases v <;> simp_all [JsValue.isPlain, stringify]

theorem delimited_fields (fields : List (String × JsValue)) (r : Text) :
    Delimited (stringifyFields false fields ++ r) := by
  induction fields with
  | nil =>
    intro c s h
    exact Or.inr (List.cons.inj h).1.symm
  | cons f fields ih =>
    obtain ⟨key, v⟩ := f
    simp only [stringifyFields]
    cases stringify v with
    | none => exact ih
    | some text =>
      intro c s h
      exact Or.inl (List.cons.inj h).1.symm

theorem stringifyFields_cons {key : String} {v : JsValue} {text : Text} (first : Bool)
    (fields : List (String × JsValue)) (h : stringify v = some text) :
    stringifyFields first ((key, v) :: fields) =
      (if first then [] else [ascii ',']) ++
        (quote (js key) ++ (ascii ':' :: (text ++ stringifyFields false fields))) := by
  simp [stringifyFields, h]

/-- A property does not start with the closing brace. -/
theorem stringifyFields_cons_ne {key : String} {v : JsValue} {text r r' : Text} (first : Bool)
    (fields : List (String × JsValue)) (h : stringify v = some text) :
    stringifyFields first ((key, v) :: fields) ++ r ≠ ascii '}' :: r' := by
  rw [stringifyFields_cons first fields h]
  cases first <;> intro heq <;> exact absurd (List.cons.inj heq).1 (by decide)

mutual

/-- **The text of a plain value ends where the value does, and determines it.** -/
theorem stringify_append_injective {v w : JsValue} {text text' r r' : Text}
    (hv : v.isPlain = true) (hw : w.isPlain = true) (hr : Delimited r) (hr' : Delimited r')
    (htext : stringify v = some text) (htext' : stringify w = some text')
    (h : text ++ r = text' ++ r') : v = w ∧ r = r' := by
  have hbrace : ascii '"' ≠ ascii '{' := by decide
  match v, w with
  | .number m, .number n =>
    simp only [stringify, Option.some.injEq] at htext htext'
    subst htext htext'
    obtain ⟨rfl, rfl⟩ := numberJson_append_injective hv hw hr hr' h
    exact ⟨rfl, rfl⟩
  | .number m, .string t =>
    -- values of two kinds differ in the first unit of their texts
    simp only [stringify, Option.some.injEq] at htext htext'
    obtain ⟨c, s, hcs, hc, -⟩ := numberJson_cons (n := m) hv
    rw [← htext, ← htext', hcs] at h
    exact absurd (List.cons.inj h).1 hc
  | .number m, .object fields =>
    simp only [stringify, Option.some.injEq] at htext htext'
    obtain ⟨c, s, hcs, -, hc⟩ := numberJson_cons (n := m) hv
    rw [← htext, ← htext', hcs] at h
    exact absurd (List.cons.inj h).1 hc
  | .string s, .number n =>
    simp only [stringify, Option.some.injEq] at htext htext'
    obtain ⟨c, t, hcs, hc, -⟩ := numberJson_cons (n := n) hw
    rw [← htext, ← htext', hcs] at h
    exact absurd (List.cons.inj h).1.symm hc
  | .object fields, .number n =>
    simp only [stringify, Option.some.injEq] at htext htext'
    obtain ⟨c, t, hcs, -, hc⟩ := numberJson_cons (n := n) hw
    rw [← htext, ← htext', hcs] at h
    exact absurd (List.cons.inj h).1.symm hc
  | .string s, .string t =>
    simp only [stringify, Option.some.injEq] at htext htext'
    subst htext htext'
    obtain ⟨rfl, rfl⟩ := quote_append_injective h
    exact ⟨rfl, rfl⟩
  | .string s, .object fields =>
    simp only [stringify, Option.some.injEq] at htext htext'
    subst htext htext'
    exact absurd (List.cons.inj h).1 hbrace
  | .object fields, .string s =>
    simp only [stringify, Option.some.injEq] at htext htext'
    subst htext htext'
    exact absurd (List.cons.inj h).1.symm hbrace
  | .object fields, .object fields' =>
    simp only [stringify, Option.some.injEq] at htext htext'
    subst htext htext'
    obtain ⟨rfl, rfl⟩ := stringifyFields_append_injective hv hw (List.cons.inj h).2
    exact ⟨rfl, rfl⟩

/-- The text of the properties of a plain object determines them, names and order included. -/
theorem stringifyFields_append_injective {fields fields' : List (String × JsValue)}
    {first : Bool} {r r' : Text}
    (hv : isPlainFields fields = true) (hw : isPlainFields fields' = true)
    (h : stringifyFields first fields ++ r = stringifyFields first fields' ++ r') :
    fields = fields' ∧ r = r' := by
  match fields, fields' with
  | [], [] => exact ⟨rfl, List.append_cancel_left h⟩
  | [], (key, w) :: rest =>
    simp only [isPlainFields, Bool.and_eq_true] at hw
    obtain ⟨text, htext⟩ := stringify_of_isPlain hw.1
    exact absurd h.symm (stringifyFields_cons_ne first rest htext)
  | (key, v) :: rest, [] =>
    simp only [isPlainFields, Bool.and_eq_true] at hv
    obtain ⟨text, htext⟩ := stringify_of_isPlain hv.1
    exact absurd h (stringifyFields_cons_ne first rest htext)
  | (key, v) :: rest, (key', w) :: rest' =>
    simp only [isPlainFields, Bool.and_eq_true] at hv hw
    obtain ⟨text, htext⟩ := stringify_of_isPlain hv.1
    obtain ⟨text', htext'⟩ := stringify_of_isPlain hw.1
    rw [stringifyFields_cons first rest htext, stringifyFields_cons first rest' htext'] at h
    simp only [List.append_assoc, List.cons_append] at h
    obtain ⟨hkey, htail⟩ := quote_append_injective (List.append_cancel_left h)
    obtain rfl := js_injective hkey
    obtain ⟨rfl, hrest⟩ := stringify_append_injective hv.1 hw.1 (delimited_fields rest r)
      (delimited_fields rest' r') htext htext' (List.cons.inj htail).2
    obtain ⟨rfl, rfl⟩ := stringifyFields_append_injective hv.2 hw.2 hrest
    exact ⟨rfl, rfl⟩

end

/-- **`JSON.stringify` is injective on plain values.** -/
theorem stringify_injective {v w : JsValue} (hv : v.isPlain = true) (hw : w.isPlain = true)
    (h : stringify v = stringify w) : v = w := by
  obtain ⟨text, htext⟩ := stringify_of_isPlain hv
  have happend : text ++ ([] : Text) = text ++ [] := rfl
  exact (stringify_append_injective hv hw delimited_nil delimited_nil htext
    (h.symm.trans htext) happend).1

end MipitCore.Js
