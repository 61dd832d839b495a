import MipitCore.Js.Number

/-!
# Patterns of account aliases

The regular expressions by which the pipeline, the route engine and the Bre-B
translation recognise aliases without a prefix, and the prefixes that the encoders drop. The
patterns of whole aliases are anchored at both ends.

## Main definitions

* `isCpf`, `isCnpj`, `isBrazilianPhone`, `isEvp`, `isEmail` — keys of PIX
* `isClabeDigits` — accounts of SPEI
* `isColombianPhone`, `isNit`, `isNitWithCheck` — keys of Bre-B
* `isIban` — international account numbers
* `stripNetworkPrefix`, `hasNetworkPrefix` — accounts under the prefix of a network
-/

namespace MipitCore

open Js
open CodeUnit (ascii isDigit isUpper)

/-- `/^\d{n}$/` -/
def isDigitsOfLength (n : ℕ) (s : Text) : Bool := s.length = n && isDigits s

/-- `/^\d{11}$/` -/
def isCpf : Text → Bool := isDigitsOfLength 11

/-- `/^\d{14}$/` -/
def isCnpj : Text → Bool := isDigitsOfLength 14

/-- `/^\+55\d{10,11}$/` -/
def isBrazilianPhone (s : Text) : Bool :=
  s.startsWith (js "+55") &&
    (isDigitsOfLength 10 (s.drop 3) || isDigitsOfLength 11 (s.drop 3))

/-- `[0-9a-f]` under the `i` flag. -/
def isHexUnit (c : CodeUnit) : Bool :=
  isDigit c || (97 ≤ c.toNat && c.toNat ≤ 102) || (65 ≤ c.toNat && c.toNat ≤ 70)

/-- `/^[0-9a-f]{8}-[0-9a-f]{4}-4[0-9a-f]{3}-[89ab][0-9a-f]{3}-[0-9a-f]{12}$/i` -/
def isEvp (s : Text) : Bool :=
  s.length = 36 && (s.take 8).all isHexUnit && s[8]? = some (ascii '-') &&
    ((s.drop 9).take 4).all isHexUnit && s[13]? = some (ascii '-') &&
    s[14]? = some (ascii '4') && ((s.drop 15).take 3).all isHexUnit &&
    s[18]? = some (ascii '-') && ((s.drop 19).take 1).all (fun c => (js "89abAB").contains c) &&
    ((s.drop 20).take 3).all isHexUnit && s[23]? = some (ascii '-') &&
    (s.drop 24).all isHexUnit

/-- `/^[^\s@]+@[^\s@]+\.[^\s@]{2,}$/`: one `@` after something, and in what follows it a point with
one unit before it and two after it. -/
def isEmail (s : Text) : Bool :=
  let domain := (Text.afterFirst (ascii '@') s).getD []
  s.count (ascii '@') = 1 && s.head? ≠ some (ascii '@') && !s.any CodeUnit.isWhite &&
    ((domain.drop 1).dropLast.dropLast).contains (ascii '.')

/-- `/^\d{18}$/` -/
def isClabeDigits : Text → Bool := isDigitsOfLength 18

/-- `/^\+57\d{10}$/` -/
def isColombianPhone (s : Text) : Bool :=
  s.startsWith (js "+57") && isDigitsOfLength 10 (s.drop 3)

/-- `/^\d{9,10}-\d$/` -/
def isNitWithCheck (s : Text) : Bool :=
  let stem := s.takeWhile isDigit
  let rest := s.dropWhile isDigit
  (stem.length = 9 || stem.length = 10) && rest.length = 2 && rest.head? = some (ascii '-') &&
    isDigits (rest.drop 1)

/-- `/^\d{9,10}(-\d)?$/` -/
def isNit (s : Text) : Bool :=
  isDigitsOfLength 9 s || isDigitsOfLength 10 s || isNitWithCheck s

/-- `/^[A-Z]{2}\d{2}[A-Z0-9]{11,30}$/` -/
def isIban (s : Text) : Bool :=
  15 ≤ s.length && s.length ≤ 34 && (s.take 2).all isUpper && isDigits ((s.drop 2).take 2) &&
    (s.drop 4).all fun c => isUpper c || isDigit c

/-- `/^(PIX-|SPEI-|SWIFT-)/` -/
def hasNetworkPrefix (s : Text) : Bool :=
  s.startsWith (js "PIX-") || s.startsWith (js "SPEI-") || s.startsWith (js "SWIFT-")

/-- `s.replace(/^(PIX-|SPEI-|SWIFT-)/, '')` -/
def stripNetworkPrefix (s : Text) : Text :=
  if s.startsWith (js "PIX-") then s.drop 4
  else if s.startsWith (js "SPEI-") then s.drop 5
  else if s.startsWith (js "SWIFT-") then s.drop 6
  else s

theorem stripNetworkPrefix_eq_self {s : Text} (h : hasNetworkPrefix s = false) :
    stripNetworkPrefix s = s := by
  obtain ⟨hpixSpei, hswift⟩ := Bool.or_eq_false_iff.mp h
  obtain ⟨hpix, hspei⟩ := Bool.or_eq_false_iff.mp hpixSpei
  simp [stripNetworkPrefix, hpix, hspei, hswift]

/-- The third unit of an IBAN is a digit, that of a prefix is none. -/
theorem hasNetworkPrefix_of_isIban {s : Text} (h : isIban s = true) : hasNetworkPrefix s = false := by
  have hbegins : ∀ (a b c : CodeUnit) (p : Text), isDigit c = false →
      s.startsWith (a :: b :: c :: p) = false := by
    intro a b c p hc
    rw [← Bool.not_eq_true, Text.startsWith_iff]
    rintro ⟨r, rfl⟩
    simp [isIban, isDigits, hc] at h
  have hpix := hbegins (ascii 'P') (ascii 'I') (ascii 'X') (js "-") (by decide)
  have hspei := hbegins (ascii 'S') (ascii 'P') (ascii 'E') (js "I-") (by decide)
  have hswift := hbegins (ascii 'S') (ascii 'W') (ascii 'I') (js "FT-") (by decide)
  exact Bool.or_eq_false_iff.mpr ⟨Bool.or_eq_false_iff.mpr ⟨hpix, hspei⟩, hswift⟩

end MipitCore
