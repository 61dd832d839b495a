import MipitCore.Translation.BreB
import MipitCore.Translation.CreditorKey
import MipitCore.Translation.Mt103Amount

/-!
# References of MT103

An MT103 refers to a payment by the first sixteen units of its identifier. The identifiers
that the decoders make begin with what they have in common: those of PIX and SPEI keep a
ULID's time and two units of its random part, those of Bre-B the year and the month.

## Main definitions

* `GeneratedId` — the identifiers that the decoders make
* `GeneratedId.Differs` — two of them differ where a reference shows it

## Main results

* `transactionRef_of_generated` — the reference of an identifier
* `transactionRef_ne_iff`
-/

namespace MipitCore.Translation

open Js Api
open CodeUnit (ascii isDigit isUpper)

/-- An identifier of a payment that a decoder makes: for PIX and SPEI of a ULID, for Bre-B of the
time and a random text. -/
inductive GeneratedId
  | e2e (ulid : Ulid)
  | breb (fresh : Fresh)

namespace GeneratedId

/-- The identifier as a canonical message has it. -/
def text (engine : Engine) : GeneratedId → Text
  | e2e ulid => js "E2E-" ++ ulid.1
  | breb fresh => (generateBrebTransactionId engine fresh fintechSimulated).substring 35

/-- The two identifiers differ in what a reference keeps: the first twelve units of a ULID, the year
and the month of an identifier of Bre-B. -/
def Differs : GeneratedId → GeneratedId → Prop
  | e2e ulid, e2e ulid' => ulid.1.take 12 ≠ ulid'.1.take 12
  | breb fresh, breb fresh' => fresh.later.1.take 7 ≠ fresh'.later.1.take 7
  | _, _ => True

/-- What a reference keeps of an identifier. -/
def reference : GeneratedId → Text
  | e2e ulid => js "E2E-" ++ ulid.1.take 12
  | breb fresh => js "BR26264220" ++ ((fresh.later.1.take 10).filter (· ≠ ascii '-')).take 6

end GeneratedId

section

variable {engine : Engine} {c c' : CanonicalPacs008}

/-! ### What a reference keeps -/

theorem sanitizeReference_eq_self {s : Text}
    (h : ∀ unit ∈ s, isUpper unit = true ∨ isDigit unit = true ∨ unit = ascii '-') :
    sanitizeReference s = s := by
  refine (List.map_congr_left fun unit hunit => if_pos ?_).trans (List.map_id s)
  rcases h unit hunit with hupper | hdigit | rfl
  · simp [CodeUnit.isLetter, hupper]
  · simp [hdigit]
  · decide

/-- The year and the month of a timestamp, in parts. -/
theorem exists_month (d : Datetime) :
    ∃ year month : Text, d.1.take 7 = year ++ ascii '-' :: month ∧
      ((d.1.take 10).filter (· ≠ ascii '-')).take 6 = year ++ month ∧
        isDigits year = true ∧ isDigits month = true ∧ year.length = 4 ∧ month.length = 2 := by
  obtain ⟨year, month, day, heq, hyear, hyearLength, hmonth, hmonthLength, hday, -⟩ :=
    exists_dateText d.isDateText_take
  -- only the two hyphens are removed: the parts are digits
  have hkept : ∀ t : Text, isDigits t = true → t.filter (· ≠ ascii '-') = t := by
    intro t ht
    refine List.filter_eq_self.mpr fun unit hunit => ?_
    simpa using digit_ne (List.all_eq_true.mp ht unit hunit) (d := ascii '-') (by decide)
  refine ⟨year, month, ?_, ?_, hyear, hmonth, hyearLength, hmonthLength⟩
  · have htake : d.1.take 7 = (d.1.take 10).take 7 := by rw [List.take_take]; rfl
    rw [htake, heq, ← List.cons_append, ← List.append_assoc]
    exact List.take_left' (by simp [hyearLength, hmonthLength])
  · rw [heq, List.filter_append, List.filter_cons_of_neg (by simp), List.filter_append,
      List.filter_cons_of_neg (by simp), hkept year hyear, hkept month hmonth, hkept day hday,
      ← List.append_assoc]
    exact List.take_left' (by simp [hyearLength, hmonthLength])

theorem length_reference (x : GeneratedId) : x.reference.length = 16 := by
  cases x with
  | e2e ulid => simp [GeneratedId.reference, ulid.2.1, show (js "E2E-").length = 4 from rfl]
  | breb fresh =>
    obtain ⟨year, month, -, hmonth, -, -, hyearLength, hmonthLength⟩ := exists_month fresh.later
    rw [GeneratedId.reference, hmonth, List.length_append, List.length_append, hyearLength,
      hmonthLength]
    rfl

/-- Identifiers of two kinds differ in their first unit. -/
theorem reference_ne (ulid : Ulid) (fresh : Fresh) :
    (GeneratedId.e2e ulid).reference ≠ (GeneratedId.breb fresh).reference := by
  intro h
  have hfirst : ascii 'E' ≠ ascii 'B' := by decide
  exact hfirst (Option.some.inj (congrArg List.head? h))

/-- The units of a reference need no replacement. -/
theorem mem_reference {x : GeneratedId} {unit : CodeUnit} (h : unit ∈ x.reference) :
    isUpper unit = true ∨ isDigit unit = true ∨ unit = ascii '-' := by
  cases x with
  | e2e ulid =>
    rcases List.mem_append.mp h with hstart | hulid
    · have hall : ∀ unit ∈ js "E2E-",
          isUpper unit = true ∨ isDigit unit = true ∨ unit = ascii '-' := by decide
      exact hall unit hstart
    · have hunit := List.all_eq_true.mp ulid.2.2 unit (List.mem_of_mem_take hulid)
      rcases Bool.or_eq_true _ _ ▸ hunit with hupper | hdigit
      · exact Or.inl hupper
      · exact Or.inr (Or.inl hdigit)
  | breb fresh =>
    obtain ⟨year, month, -, hdate, hyear, hmonth, -, -⟩ := exists_month fresh.later
    rw [GeneratedId.reference, hdate] at h
    rcases List.mem_append.mp h with hstart | hunit
    · have hall : ∀ unit ∈ js "BR26264220",
          isUpper unit = true ∨ isDigit unit = true ∨ unit = ascii '-' := by decide
      exact hall unit hstart
    · have hdigits : isDigits (year ++ month) = true := isDigits_append.mpr ⟨hyear, hmonth⟩
      exact Or.inr (Or.inl (List.all_eq_true.mp hdigits unit hunit))

/-- A reference is how its identifier begins. -/
theorem reference_prefix (engine : Engine) (x : GeneratedId) : x.reference <+: x.text engine := by
  cases x with
  | e2e ulid => exact (List.prefix_append_right_inj _).mpr (List.take_prefix 12 _)
  | breb fresh =>
    -- the six digits of the month are followed by the day, and then by the random text
    have hentity : js "BR" ++ fintechSimulated = js "BR26264220" := by decide
    refine List.prefix_take_iff.mpr ⟨?_, by rw [length_reference]; decide⟩
    rw [generateBrebTransactionId, hentity]
    refine ((List.prefix_append_right_inj _).mpr (List.take_prefix 6 _)).trans ?_
    exact (List.prefix_append _ _).trans (List.prefix_append _ _)

/-- **A reference** is the start of the identifier, with nothing replaced. -/
theorem transactionRef_of_generated {x : GeneratedId} (h : c.pmtId.endToEndId = x.text engine) :
    (canonicalToSwiftMt103 c).transactionRef = x.reference := by
  have hcut : (x.text engine).substring 16 = x.reference := by
    obtain ⟨rest, hrest⟩ := reference_prefix engine x
    rw [← hrest, Text.substring, ← length_reference x, List.take_left]
  show sanitizeReference (c.pmtId.endToEndId.substring 16) = _
  rw [h, hcut]
  exact sanitizeReference_eq_self fun unit hunit => mem_reference hunit

/-- **Two identifiers get different references** exactly if they differ in the first twelve units of
their ULIDs, or in their months, or in their rails. -/
theorem transactionRef_ne_iff {x y : GeneratedId} (hx : c.pmtId.endToEndId = x.text engine)
    (hy : c'.pmtId.endToEndId = y.text engine) :
    (canonicalToSwiftMt103 c).transactionRef ≠ (canonicalToSwiftMt103 c').transactionRef ↔
      x.Differs y := by
  rw [transactionRef_of_generated hx, transactionRef_of_generated hy]
  cases x with
  | e2e ulid =>
    cases y with
    | e2e ulid' => exact not_congr (List.append_right_inj _)
    -- one is of PIX or SPEI and one of Bre-B
    | breb fresh => exact iff_of_true (reference_ne ulid fresh) trivial
  | breb fresh =>
    cases y with
    | e2e ulid => exact iff_of_true (reference_ne ulid fresh).symm trivial
    | breb fresh' =>
      refine not_congr ((List.append_right_inj _).trans ?_)
      obtain ⟨year, month, htake, hdate, -, -, hlength, -⟩ := exists_month fresh.later
      obtain ⟨year', month', htake', hdate', -, -, hlength', -⟩ := exists_month fresh'.later
      -- the year and the month with their hyphen, or without it: both determine the two parts
      rw [hdate, hdate', htake, htake']
      constructor
      · intro heq
        obtain ⟨rfl, rfl⟩ := List.append_inj heq (hlength.trans hlength'.symm)
        rfl
      · intro heq
        obtain ⟨rfl, hrest⟩ := List.append_inj heq (hlength.trans hlength'.symm)
        rw [(List.cons.inj hrest).2]

end

namespace Example

/-- The same moment with another random text. -/
def reroll : Fresh := { fresh with randomText := js "0.9k2jd81qpzx" }

/-- What Bre-B makes of a request. -/
def brebPayment (fresh : Fresh) : CanonicalPacs008 :=
  brebRequestCanonical passage.engine fresh Pipeline.Example.request
    (paymentIdOf Pipeline.Example.ulid) none

end Example

/-- A payment of PIX and one of Bre-B. -/
theorem transactionRef_ne_kinds :
    (canonicalToSwiftMt103 (requestCanonical pixRequest Example.passage.engine Example.fresh
        Pipeline.Example.request (paymentIdOf Pipeline.Example.ulid) none (js "bob"))).transactionRef ≠
      (canonicalToSwiftMt103 (Example.brebPayment Example.fresh)).transactionRef :=
  (@transactionRef_ne_iff Example.passage.engine _ _ (.e2e Example.fresh.e2eUlid)
    (.breb Example.fresh) rfl rfl).mpr trivial

/-- Two payments of Bre-B with two identifiers have one reference. -/
theorem transactionRef_shared :
    (∀ fresh, brebToCanonical Example.passage.engine fresh Pipeline.Example.request.toValue
        (paymentIdOf Pipeline.Example.ulid) none = .ok (Example.brebPayment fresh)) ∧
      (Example.brebPayment Example.fresh).pmtId.endToEndId ≠
        (Example.brebPayment Example.reroll).pmtId.endToEndId ∧
      (canonicalToSwiftMt103 (Example.brebPayment Example.fresh)).transactionRef =
        js "BR26264220202603" ∧
      (canonicalToSwiftMt103 (Example.brebPayment Example.reroll)).transactionRef =
        js "BR26264220202603" := by
  refine ⟨fun fresh => ?_, by decide +kernel, by decide +kernel, by decide +kernel⟩
  rw [brebToCanonical_request (isPaymentId_paymentIdOf _), if_pos (by decide +kernel)]
  rfl

end MipitCore.Translation
