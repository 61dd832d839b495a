import MipitCore.Js.Value

/-!
# Conversions between values

A translator reads messages that nobody has checked: a field may have any type, and
the language converts it or throws. `String(v)`, `Number(v)`, `parseFloat(v)` and
`parseInt(v)` are total on data but for objects whose own `toString` is no function;
reading from `undefined` and calling a method that is not there throw. A conversion
that may throw returns `none` for the exception.

## Main definitions

* `JsValue.toText`, `JsValue.toNumber` — `String(v)` and `Number(v)`
* `JsValue.parseFloat`, `JsValue.parseInt`
* `JsValue.text` — the receiver of a method that only strings have
* `JsValue.chain` — `v?.…`
-/

namespace MipitCore.Js

open CodeUnit (ascii isDigit isWhite)

/-! ### Numbers of text -/

/-- `parseInt(s, 10)` -/
def parseInt [Arithmetic] (s : Text) : Number :=
  let magnitude (negative : Bool) (r : Text) : Number :=
    let digits := r.takeWhile isDigit
    if digits = [] then .nan
    else Arithmetic.round (if negative then -(digitsValue digits : ℚ) else digitsValue digits)
  match s.dropWhile isWhite with
  | [] => .nan
  | c :: r =>
    if c = ascii '-' then magnitude true r
    else if c = ascii '+' then magnitude false r
    else magnitude false (c :: r)

/-- An exponent at the end of a decimal literal, or nothing. -/
def isExponentPart : Text → Bool
  | [] => true
  | c :: r =>
    let digits := match r with
      | d :: r' => if d = ascii '-' ∨ d = ascii '+' then r' else r
      | [] => []
    (c = ascii 'e' || c = ascii 'E') && digits ≠ [] && isDigits digits

/-- A whole text that is an unsigned decimal literal. -/
def isUnsignedLiteral (s : Text) : Bool :=
  let whole := s.takeWhile isDigit
  let (fraction, rest) := fractionPart (s.dropWhile isDigit)
  (whole ≠ [] || fraction ≠ []) && isExponentPart rest

/-- The value of a digit of a base up to 16, if it is one. -/
def radixDigit (base : ℕ) (c : CodeUnit) : Option ℕ :=
  let n := c.toNat
  let value :=
    if 48 ≤ n ∧ n ≤ 57 then n - 48
    else if 97 ≤ n ∧ n ≤ 102 then n - 87
    else if 65 ≤ n ∧ n ≤ 70 then n - 55
    else base
  if value < base then some value else none

/-- Digits of a base, read as a number. -/
def radixValue [Arithmetic] (base : ℕ) (s : Text) : Number :=
  match s.mapM (radixDigit base) with
  | none | some [] => .nan
  | some digits => Arithmetic.round (digits.foldl (fun acc d => base * acc + d) 0 : ℕ)

/-- `Number(s)` for a string: all of it is a literal, up to white space. -/
def stringToNumber [Arithmetic] (s : Text) : Number :=
  let magnitude (negative : Bool) (r : Text) : Number :=
    if r = js "Infinity" then .inf negative
    else if isUnsignedLiteral r then parseMagnitude negative r
    else .nan
  let t := s.trim
  if t = [] then .fin 0
  else if t.startsWith (js "0x") || t.startsWith (js "0X") then radixValue 16 (t.drop 2)
  else if t.startsWith (js "0o") || t.startsWith (js "0O") then radixValue 8 (t.drop 2)
  else if t.startsWith (js "0b") || t.startsWith (js "0B") then radixValue 2 (t.drop 2)
  else if t.startsWith (js "-") then magnitude true (t.drop 1)
  else if t.startsWith (js "+") then magnitude false (t.drop 1)
  else magnitude false t

/-- `n ≤ x` -/
def Number.geNat (n : ℕ) : Number → Bool
  | .nan => false
  | .inf negative => !negative
  | .fin q => (n : ℚ) ≤ q

/-- `x ≤ n` -/
def Number.leNat (n : ℕ) : Number → Bool
  | .nan => false
  | .inf negative => negative
  | .fin q => q ≤ (n : ℚ)

/-! ### Values -/

mutual

/-- `String(v)` -/
def JsValue.toText [Arithmetic] : JsValue → Option Text
  | .undefined => some (js "undefined")
  | .null => some (js "null")
  | .bool b => some (if b then js "true" else js "false")
  | .number n => some n.toText
  | .string s => some s
  | .array items => itemsText items
  | .object fields =>
    if fields.any fun f => f.1 = "toString" then none else some (js "[object Object]")

/-- `items.join(',')`, which writes nothing for `undefined` and `null`. -/
def itemsText [Arithmetic] : List JsValue → Option Text
  | [] => some []
  | v :: items => do
    let text ← match v with
      | .undefined | .null => some []
      | v => v.toText
    let rest ← itemsText items
    return if items.isEmpty then text else text ++ ascii ',' :: rest

end

namespace JsValue

/-- `Number(v)` -/
def toNumber [Arithmetic] : JsValue → Option Number
  | undefined => some .nan
  | null => some (.fin 0)
  | bool b => some (.fin (if b then 1 else 0))
  | number n => some n
  | string s => some (stringToNumber s)
  | v => v.toText.map stringToNumber

/-- `parseFloat(v)` -/
def parseFloat [Arithmetic] (v : JsValue) : Option Number := v.toText.map Js.parseFloat

/-- `parseInt(v, 10)` -/
def parseInt [Arithmetic] (v : JsValue) : Option Number := v.toText.map Js.parseInt

/-- The receiver of `substring`, `trim`, `toUpperCase`, `padEnd` or `startsWith`, which only strings
have. -/
def text : JsValue → Option Text
  | string s => some s
  | _ => none

/-- `v?.…`, where the dots are a chain that starts from `v`. -/
def chain (v : JsValue) (rest : JsValue → Option JsValue) : Option JsValue :=
  match v with
  | undefined | null => some undefined
  | v => rest v

/-- `v.a.b…`, along the names of `path`. -/
def path (path : List String) (v : JsValue) : Option JsValue := path.foldlM (fun v key => v.get key) v

/-- `v.substring(0, n)` -/
def substring (n : ℕ) (v : JsValue) : Option JsValue := v.text.map fun s => string (s.substring n)

/-- `v.slice(0, n)`, of a string or an array. -/
def slice (n : ℕ) : JsValue → Option JsValue
  | string s => some (string (s.take n))
  | array items => some (array (items.take n))
  | _ => none

/-- `v[0]`; `none` is the `TypeError` for `undefined` and `null`. -/
def first : JsValue → Option JsValue
  | undefined | null => none
  | string [] => some undefined
  | string (c :: _) => some (string [c])
  | array items => some (items.headD undefined)
  | object fields => some (field "0" fields)
  | _ => some undefined

/-- Whether `v` is `undefined` or `null`. -/
def isNullish : JsValue → Bool
  | undefined | null => true
  | _ => false

/-- `v === s`, for a string `s`. -/
def isText (s : Text) : JsValue → Bool
  | string t => t = s
  | _ => false

@[simp] theorem toText_string [Arithmetic] (s : Text) : (string s).toText = some s := by
  rw [toText]

@[simp] theorem parseFloat_string [Arithmetic] (s : Text) :
    (string s).parseFloat = some (Js.parseFloat s) := by
  rw [parseFloat, toText_string, Option.map_some]

@[simp] theorem parseInt_string [Arithmetic] (s : Text) :
    (string s).parseInt = some (Js.parseInt s) := by
  rw [parseInt, toText_string, Option.map_some]

@[simp] theorem path_nil (v : JsValue) : v.path [] = some v := rfl

@[simp] theorem path_cons (key : String) (rest : List String) (v : JsValue) :
    v.path (key :: rest) = (v.get key).bind (path rest) := List.foldlM_cons

@[simp] theorem text_string (s : Text) : (string s).text = some s := rfl

@[simp] theorem substring_string (n : ℕ) (s : Text) :
    (string s).substring n = some (string (s.substring n)) := rfl

@[simp] theorem nullish_string (s : Text) (w : JsValue) : (string s).nullish w = string s := rfl

@[simp] theorem nullish_undefined (w : JsValue) : undefined.nullish w = w := rfl

@[simp] theorem chain_undefined (rest : JsValue → Option JsValue) :
    undefined.chain rest = some undefined := rfl

@[simp] theorem chain_string (s : Text) (rest : JsValue → Option JsValue) :
    (string s).chain rest = rest (string s) := rfl

@[simp] theorem chain_object (fields : List (String × JsValue)) (rest : JsValue → Option JsValue) :
    (object fields).chain rest = rest (object fields) := rfl

theorem substring_ofText? (n : ℕ) (t : Option Text) :
    (ofText? t).chain (substring n) = some (ofText? (t.map fun s => s.substring n)) := by
  cases t <;> rfl

theorem slice_ofTexts? (n : ℕ) (t : Option (List Text)) :
    (ofTexts? t).chain (slice n) = some (ofTexts? (t.map fun texts => texts.take n)) := by
  cases t with
  | none => rfl
  | some texts => simp [ofTexts?, chain, slice, List.map_take]

theorem nullish_ofText? (t : Option Text) (s : Text) :
    (ofText? t).nullish (string s) = string (t.getD s) := by
  cases t <;> rfl

end JsValue

example : stringToNumber (js " 0x1F ") = .fin 31 := by decide +kernel

example : (JsValue.array [.number (.fin 1), .null, .string (js "x")]).toText = some (js "1,,x") := by
  decide +kernel

end MipitCore.Js
