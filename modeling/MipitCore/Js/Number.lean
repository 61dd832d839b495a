import Mathlib.Algebra.Order.Floor.Ring
import Mathlib.Data.List.DropRight
import Mathlib.Data.Rat.Floor
import Mathlib.Tactic.IntervalCases
import Mathlib.Tactic.NormNum
import Mathlib.Tactic.Ring
import MipitCore.Js.Text

/-!
# JavaScript numbers

A number is `NaN`, an infinity, or a finite value. What an operation makes of a
result, and `parseFloat` of a literal, is up to an `Arithmetic`: in exact decimal
arithmetic a literal such as `0.1` is the rational `1/10`, and nothing is rounded;
the arithmetic of doubles is in `MipitCore.Js.Double`. Where nothing else is said,
arithmetic is exact. The conversions between numbers and text follow the language:
`String(n)` writes the shortest decimal, with an exponent from `1e21` up and below
`1e-6`; `toFixed` rounds half up; `parseFloat` reads the longest prefix that is a
decimal literal and ignores the rest.

## Main definitions

* `Number`, `Arithmetic`, the operations, `Number.round` (`Math.round`)
* `natText`, `Number.toText` — digits, and `String(n)`
* `Number.toFixed`
* `parseFloat` — lenient prefix reading
* `isDecimalText`, `decimalValue` — what it is to be a decimal number, and which
-/

namespace MipitCore.Js

/-- A JavaScript number. -/
inductive Number
  | nan
  | inf (negative : Bool)
  | fin (q : ℚ)
  deriving DecidableEq, Repr

/-- What becomes of the result of an operation. -/
class Arithmetic where
  /-- The number for a result. -/
  round : ℚ → Number
  /-- The decimal that is written for a finite number. -/
  decimal : ℚ → ℚ

/-- Exact decimal arithmetic. -/
instance Arithmetic.exact : Arithmetic := ⟨.fin, id⟩

@[simp] theorem round_exact (q : ℚ) : @Arithmetic.round .exact q = .fin q := rfl

@[simp] theorem decimal_exact (q : ℚ) : @Arithmetic.decimal .exact q = q := rfl

namespace Number

/-- Finite values are written as rationals. -/
instance : Coe ℚ Number := ⟨.fin⟩

instance : Inhabited Number := ⟨.fin 0⟩

/-- `0 < n` -/
def isPositive : Number → Bool
  | .nan => false
  | .inf negative => !negative
  | .fin q => 0 < q

/-- `Number.isInteger(n)` -/
def isInteger : Number → Bool
  | .fin q => q.den = 1
  | _ => false

/-- `a * b` -/
def mul [Arithmetic] : Number → Number → Number
  | .nan, _ | _, .nan => .nan
  | .fin p, .fin q => Arithmetic.round (p * q)
  | .inf s, .inf t => .inf (s != t)
  | .inf s, .fin q | .fin q, .inf s => if q = 0 then .nan else .inf (s != decide (q < 0))

/-- `a / b` -/
def div [Arithmetic] : Number → Number → Number
  | .nan, _ | _, .nan | .inf _, .inf _ => .nan
  | .fin _, .inf _ => .fin 0
  | .inf s, .fin q => .inf (s != decide (q < 0))
  | .fin p, .fin q =>
    if q = 0 then (if p = 0 then .nan else .inf (decide (p < 0))) else Arithmetic.round (p / q)

/-- `-a` -/
def neg : Number → Number
  | .nan => .nan
  | .inf s => .inf !s
  | .fin q => .fin (-q)

/-- `a + b` -/
def add [Arithmetic] : Number → Number → Number
  | .nan, _ | _, .nan => .nan
  | .fin p, .fin q => Arithmetic.round (p + q)
  | .inf s, .inf t => if s = t then .inf s else .nan
  | .inf s, .fin _ | .fin _, .inf s => .inf s

/-- `a - b` -/
def sub [Arithmetic] (a b : Number) : Number := add a (neg b)

/-- `a < b` -/
def lt : Number → Number → Bool
  | .nan, _ | _, .nan => false
  | .fin p, .fin q => p < q
  | .fin _, .inf negative => !negative
  | .inf negative, .fin _ => negative
  | .inf s, .inf t => s && !t

/-- `a <= b` -/
def le : Number → Number → Bool
  | .nan, _ | _, .nan => false
  | a, b => !lt b a

/-- The integer nearest to `q`, the larger one of two. -/
def roundHalfUp (q : ℚ) : ℤ := ⌊q + 1 / 2⌋

/-- `Math.round(n)` -/
def round : Number → Number
  | .fin q => .fin (roundHalfUp q)
  | n => n

@[simp] theorem isPositive_fin (q : ℚ) : (fin q).isPositive = decide (0 < q) := rfl

@[simp] theorem mul_fin (p q : ℚ) : mul (.fin p) (.fin q) = .fin (p * q) := rfl

theorem div_fin [Arithmetic] {p q : ℚ} (hq : q ≠ 0) :
    div (.fin p) (.fin q) = Arithmetic.round (p / q) := if_neg hq

@[simp] theorem sub_fin (p q : ℚ) : sub (.fin p) (.fin q) = .fin (p - q) := by
  rw [sub, neg, add, round_exact, sub_eq_add_neg]

@[simp] theorem round_fin (q : ℚ) : round (.fin q) = .fin (roundHalfUp q) := rfl

end Number

/-! ### Digits -/

/-- The value of a decimal digit. -/
def digitValue (c : CodeUnit) : ℕ := c.toNat - 48

/-- The number that a string of digits writes. -/
def digitsValue (s : Text) : ℕ := s.foldl (fun acc c => 10 * acc + digitValue c) 0

/-- Every unit is a digit. -/
def isDigits (s : Text) : Bool := s.all CodeUnit.isDigit

/-- The digits of a natural number. -/
def natText (n : ℕ) : Text := (Nat.toDigits 10 n).map CodeUnit.ascii

@[simp] theorem digitsValue_nil : digitsValue [] = 0 := rfl

theorem foldl_digitsValue (s : Text) (acc : ℕ) :
    s.foldl (fun acc c => 10 * acc + digitValue c) acc =
      acc * 10 ^ s.length + digitsValue s := by
  induction s generalizing acc with
  | nil => simp
  | cons c s ih =>
    simp only [digitsValue, List.foldl_cons, mul_zero, zero_add, List.length_cons]
    rw [ih, ih (digitValue c)]
    ring

theorem digitsValue_append (s t : Text) :
    digitsValue (s ++ t) = digitsValue s * 10 ^ t.length + digitsValue t := by
  simp only [digitsValue, List.foldl_append]
  exact foldl_digitsValue t _

@[simp] theorem digitsValue_replicate_zero (n : ℕ) :
    digitsValue (List.replicate n (CodeUnit.ascii '0')) = 0 := by
  induction n with
  | zero => rfl
  | succ n ih =>
    have hzero : digitsValue [CodeUnit.ascii '0'] = 0 := by decide
    rw [List.replicate_succ, ← List.singleton_append, digitsValue_append, ih, hzero]
    simp

theorem digitChar_unit {n : ℕ} (h : n < 10) :
    CodeUnit.isDigit (CodeUnit.ascii n.digitChar) = true ∧
      digitValue (CodeUnit.ascii n.digitChar) = n := by
  interval_cases n <;> decide

theorem isDigits_natText (n : ℕ) : isDigits (natText n) = true := by
  induction n using Nat.strong_induction_on with
  | _ n ih =>
    rw [natText]
    by_cases hn : n < 10
    · rw [Nat.toDigits_of_lt_base hn]
      simpa [isDigits] using (digitChar_unit hn).1
    · rw [Nat.toDigits_of_base_le (by omega) (by omega), List.map_append, isDigits,
        List.all_append]
      have hhead : isDigits (natText (n / 10)) = true := ih (n / 10) (by omega)
      have hlast := (digitChar_unit (Nat.mod_lt n (show 0 < 10 by omega))).1
      simp only [natText, isDigits] at hhead
      simp [hhead, hlast]

@[simp] theorem digitsValue_natText (n : ℕ) : digitsValue (natText n) = n := by
  induction n using Nat.strong_induction_on with
  | _ n ih =>
    rw [natText]
    by_cases hn : n < 10
    · rw [Nat.toDigits_of_lt_base hn]
      simpa [digitsValue] using (digitChar_unit hn).2
    · rw [Nat.toDigits_of_base_le (by omega) (by omega), List.map_append, digitsValue_append]
      have hhead : digitsValue (natText (n / 10)) = n / 10 := ih (n / 10) (by omega)
      have hlast := (digitChar_unit (Nat.mod_lt n (show 0 < 10 by omega))).2
      rw [natText] at hhead
      rw [hhead]
      simp only [List.map_cons, List.map_nil, List.length_singleton, pow_one, digitsValue,
        List.foldl_cons, List.foldl_nil, mul_zero, zero_add, hlast]
      omega

theorem natText_ne_nil (n : ℕ) : natText n ≠ [] := by
  simp [natText, Nat.toDigits_ne_nil]

theorem natText_injective : Function.Injective natText := fun m n h => by
  rw [← digitsValue_natText m, h, digitsValue_natText]

/-! ### From numbers to text -/

/-- The least number of decimal places that writes `q` exactly, if there is one. The denominator
bounds the search: `2 ^ a * 5 ^ b` needs `max a b` places. -/
def decimalPlaces (q : ℚ) : Option ℕ :=
  (List.range (Nat.log2 q.den + 1)).find? fun t => 10 ^ t % q.den = 0

/-- Scientific notation of the digits `d` with the point after the first of them. -/
def exponentText (d : Text) (e : ℤ) : Text :=
  d.take 1 ++ (if d.length ≤ 1 then [] else CodeUnit.ascii '.' :: d.drop 1) ++
    [CodeUnit.ascii 'e', if e < 0 then CodeUnit.ascii '-' else CodeUnit.ascii '+'] ++
      natText e.natAbs

/-- The layout of the digits `d` of a positive number with `t` decimal places. -/
def layoutDigits (d : Text) (t : ℕ) : Text :=
  if t = 0 then
    if d.length ≤ 21 then d
    else exponentText (d.rdropWhile (· = CodeUnit.ascii '0')) (d.length - 1)
  else if t < d.length then
    if d.length - t ≤ 21 then d.take (d.length - t) ++ CodeUnit.ascii '.' :: d.drop (d.length - t)
    else exponentText d (d.length - t - 1)
  else if t - d.length < 6 then
    CodeUnit.ascii '0' :: CodeUnit.ascii '.' ::
      (List.replicate (t - d.length) (CodeUnit.ascii '0') ++ d)
  else exponentText d (d.length - t - 1)

/-- The text of a positive decimal. What is written for a JavaScript number is one; the fraction
keeps the function total on the rationals. -/
def positiveText (q : ℚ) : Text :=
  match decimalPlaces q with
  | some t => layoutDigits (natText (q.num.toNat * 10 ^ t / q.den)) t
  | none => natText q.num.toNat ++ CodeUnit.ascii '/' :: natText q.den

/-- `String(n)` -/
def Number.toText [Arithmetic] : Number → Text
  | .nan => js "NaN"
  | .inf negative => if negative then js "-Infinity" else js "Infinity"
  | .fin q =>
    if q = 0 then js "0"
    else if q < 0 then CodeUnit.ascii '-' :: positiveText (Arithmetic.decimal (-q))
    else positiveText (Arithmetic.decimal q)

/-- The digits of `m / 10 ^ f` with `f` of them after the point. -/
def fixedText (m f : ℕ) : Text :=
  let d := Text.padStart (natText m) (f + 1) (CodeUnit.ascii '0')
  if f = 0 then d
  else d.take (d.length - f) ++ CodeUnit.ascii '.' :: d.drop (d.length - f)

/-- `n.toFixed(f)` -/
def Number.toFixed [Arithmetic] (f : ℕ) : Number → Text
  | .fin q =>
    if 10 ^ 21 ≤ |q| then Number.toText (.fin q)
    else (if q < 0 then [CodeUnit.ascii '-'] else []) ++
      fixedText (Number.roundHalfUp (|q| * 10 ^ f)).toNat f
  | n => Number.toText n

/-! ### From text to numbers -/

/-- The exponent that an `ExponentPart` at the start of the text denotes, `0` where there is
none. -/
def exponentValue : Text → ℤ
  | [] => 0
  | c :: r =>
    if c = CodeUnit.ascii 'e' ∨ c = CodeUnit.ascii 'E' then
      match r with
      | d :: r' =>
        if d = CodeUnit.ascii '-' then -(digitsValue (r'.takeWhile CodeUnit.isDigit) : ℤ)
        else if d = CodeUnit.ascii '+' then (digitsValue (r'.takeWhile CodeUnit.isDigit) : ℤ)
        else (digitsValue (r.takeWhile CodeUnit.isDigit) : ℤ)
      | [] => 0
    else 0

/-- The digits after a point at the start of the text, and what follows them. -/
def fractionPart : Text → Text × Text
  | [] => ([], [])
  | c :: r =>
    if c = CodeUnit.ascii '.' then (r.takeWhile CodeUnit.isDigit, r.dropWhile CodeUnit.isDigit)
    else ([], c :: r)

/-- The longest prefix that is an unsigned decimal literal, read as a number. -/
def parseUnsigned (s : Text) : Option ℚ :=
  let whole := s.takeWhile CodeUnit.isDigit
  let (fraction, rest) := fractionPart (s.dropWhile CodeUnit.isDigit)
  if whole = [] ∧ fraction = [] then none
  else some ((digitsValue (whole ++ fraction) : ℚ) / 10 ^ fraction.length *
    (10 : ℚ) ^ exponentValue rest)

/-- A literal without its sign. -/
def parseMagnitude [Arithmetic] (negative : Bool) (s : Text) : Number :=
  if s.startsWith (js "Infinity") then .inf negative
  else match parseUnsigned s with
    | some q => Arithmetic.round (if negative then -q else q)
    | none => .nan

/-- `parseFloat(s)` -/
def parseFloat [Arithmetic] (s : Text) : Number :=
  match s.dropWhile CodeUnit.isWhite with
  | [] => .nan
  | c :: r =>
    if c = CodeUnit.ascii '-' then parseMagnitude true r
    else if c = CodeUnit.ascii '+' then parseMagnitude false r
    else parseMagnitude false (c :: r)

/-! ### Decimal numbers, as a reader takes them -/

/-- Digits with at most one `point` among them, and at least one digit. -/
def isDecimalText (point : CodeUnit) (s : Text) : Bool :=
  s.all (fun c => c.isDigit || c == point) && s.count point ≤ 1 && s.any CodeUnit.isDigit

/-- The number that a decimal text denotes: all of its digits, over a power of ten for those after
the point. -/
def decimalValue (point : CodeUnit) (s : Text) : ℚ :=
  (digitsValue (s.filter CodeUnit.isDigit) : ℚ) /
    10 ^ ((Text.afterFirst point s).getD []).length

end MipitCore.Js
