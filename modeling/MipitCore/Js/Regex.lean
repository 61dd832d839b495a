import Mathlib.Logic.Relation
import MipitCore.Js.Text

/-!
# Regular expressions

A regular expression without the `u` flag takes a text from one place to another, and `test` looks for
a place from which it takes it anywhere. What a pattern means is a relation between places; whether it
occurs is computed by following all ways at once, with as many rounds of a `*` as there are units left.

The `i` flag compares letters regardless of their case. A unit that is not ASCII never equals one that
is, so for the patterns of the program it is about the letters `A` to `Z` alone.

## Main definitions

* `Place`, `Regex`, `Regex.Matches` — patterns, and what they mean
* `Regex.ends`, `Regex.test` — the places a match may end at, and `pattern.test(s)`

## Main results

* `Regex.mem_ends`, `Regex.test_iff` — the computation finds what there is
-/

namespace MipitCore.Js

open CodeUnit (ascii)

/-- `\w` -/
def CodeUnit.isWord (c : CodeUnit) : Bool := isLetter c || isDigit c || c = ascii '_'

/-- What ends a line, and is not matched by a point. -/
def CodeUnit.endsLine (c : CodeUnit) : Bool :=
  c.toNat = 10 || c.toNat = 13 || c.toNat = 0x2028 || c.toNat = 0x2029

/-- The lower case of an ASCII letter. -/
def CodeUnit.foldCase (c : CodeUnit) : CodeUnit := if isUpper c then c + 32 else c

/-- A place in a text: the unit before it, if any, and what follows. -/
structure Place where
  before : Option CodeUnit
  rest : Text
  deriving DecidableEq

/-- `\b` -/
def Place.atBoundary (place : Place) : Bool :=
  place.before.any CodeUnit.isWord != place.rest.head?.any CodeUnit.isWord

inductive Regex
  | empty
  | unit (p : CodeUnit → Bool)
  | boundary
  | seq (r s : Regex)
  | alt (r s : Regex)
  | star (r : Regex)

namespace Regex

/-- What a pattern matches, from a place to a place. -/
def Matches : Regex → Place → Place → Prop
  | empty, a, b => b = a
  | unit p, a, b => ∃ c s, a.rest = c :: s ∧ p c = true ∧ b = ⟨some c, s⟩
  | boundary, a, b => a.atBoundary = true ∧ b = a
  | seq r s, a, b => ∃ m, Matches r a m ∧ Matches s m b
  | alt r s, a, b => Matches r a b ∨ Matches s a b
  | star r, a, b => Relation.ReflTransGen (Matches r) a b

/-! ### Spellings -/

/-- `[...]`, or a single unit. -/
def oneOf (units : String) : Regex := unit fun c => (js units).contains c

/-- `r+` -/
def plus (r : Regex) : Regex := seq r (star r)

/-- A word under the `i` flag. -/
def word (s : String) : Regex :=
  (js s).foldr (fun c r => seq (unit fun d => d.foldCase = c.foldCase) r) empty

/-- `(v|w|...)` under the `i` flag. -/
def words (ws : List String) : Regex :=
  ws.foldr (fun w r => alt (word w) r) (unit fun _ => false)

/-- `rs`, one after the other. -/
def sequence (rs : List Regex) : Regex := rs.foldr seq empty

/-! ### Running a pattern -/

/-- The places that at most `n` rounds may lead to. -/
def rounds (step : Place → List Place) : ℕ → Place → List Place
  | 0, a => [a]
  | n + 1, a => a :: (step a).flatMap (rounds step n)

/-- The places at which a match may end. -/
def ends : Regex → Place → List Place
  | empty, a => [a]
  | unit p, a =>
    match a.rest with
    | [] => []
    | c :: s => if p c then [⟨some c, s⟩] else []
  | boundary, a => if a.atBoundary then [a] else []
  | seq r s, a => (ends r a).flatMap (ends s)
  | alt r s, a => ends r a ++ ends s a
  | star r, a => rounds (ends r) a.rest.length a

/-- The places of a text, `before` being the unit before it. -/
def places (before : Option CodeUnit) : Text → List Place
  | [] => [⟨before, []⟩]
  | c :: s => ⟨before, c :: s⟩ :: places (some c) s

/-- `pattern.test(s)` -/
def test (pattern : Regex) (s : Text) : Bool :=
  (places none s).any fun a => !(pattern.ends a).isEmpty

/-- Somewhere in the text there is a match. -/
def Occurs (pattern : Regex) (s : Text) : Prop :=
  ∃ before rest place, s = before ++ rest ∧ pattern.Matches ⟨before.getLast?, rest⟩ place

variable {r : Regex} {a b m : Place}

/-- A match stays where it is, or leaves less of the text. -/
theorem Matches.advances (h : r.Matches a b) : b = a ∨ b.rest.length < a.rest.length := by
  induction r generalizing a b with
  | empty => exact Or.inl h
  | unit p =>
    obtain ⟨c, s, hrest, -, rfl⟩ := h
    exact Or.inr (by rw [hrest]; exact Nat.lt_succ_self _)
  | boundary => exact Or.inl h.2
  | seq r s ihr ihs =>
    obtain ⟨m, hr, hs⟩ := h
    rcases ihr hr with rfl | hlt
    · exact ihs hs
    · rcases ihs hs with rfl | hlt'
      · exact Or.inr hlt
      · exact Or.inr (hlt'.trans hlt)
  | alt r s ihr ihs => exact h.elim ihr ihs
  | star r ih =>
    induction h with
    | refl => exact Or.inl rfl
    | tail _ hlast ihstar =>
      rcases ih hlast with rfl | hlt
      · exact ihstar
      · rcases ihstar with rfl | hlt'
        · exact Or.inr hlt
        · exact Or.inr (hlt.trans hlt')

theorem mem_rounds_self (step : Place → List Place) (n : ℕ) (a : Place) : a ∈ rounds step n a := by
  cases n with
  | zero => exact List.mem_singleton_self a
  | succ n => exact List.mem_cons_self

/-- As many rounds as there are units left are enough. -/
theorem mem_rounds {step : Place → List Place} (hstep : ∀ a b, b ∈ step a ↔ r.Matches a b) {n : ℕ}
    (hn : a.rest.length ≤ n) :
    b ∈ rounds step n a ↔ Relation.ReflTransGen r.Matches a b := by
  constructor
  · clear hn
    intro h
    induction n generalizing a with
    | zero =>
      obtain rfl := List.mem_singleton.mp h
      exact .refl
    | succ n ih =>
      rcases List.mem_cons.mp h with rfl | h
      · exact .refl
      · obtain ⟨m, hm, hb⟩ := List.mem_flatMap.mp h
        exact .head ((hstep a m).mp hm) (ih hb)
  · intro h
    induction h using Relation.ReflTransGen.head_induction_on generalizing n with
    | refl => exact mem_rounds_self step n b
    | @head a m hfirst _ ih =>
      -- a round that stays where it is is not needed
      rcases hfirst.advances with rfl | hlt
      · exact ih hn
      · obtain ⟨n, rfl⟩ : ∃ k, n = k + 1 := ⟨n - 1, by omega⟩
        exact List.mem_cons_of_mem _
          (List.mem_flatMap.mpr ⟨m, (hstep a m).mpr hfirst, ih (by omega)⟩)

/-- **The computation follows all ways.** -/
theorem mem_ends (r : Regex) (a b : Place) : b ∈ r.ends a ↔ r.Matches a b := by
  induction r generalizing a b with
  | empty => exact List.mem_singleton
  | unit p =>
    obtain ⟨before, rest⟩ := a
    cases rest with
    | nil => simp [ends, Matches]
    | cons c s =>
      by_cases hp : p c = true
      · simp [ends, Matches, hp]
      · simp [ends, Matches, hp]
  | boundary =>
    by_cases hb : a.atBoundary = true
    · simp [ends, Matches, hb]
    · simp [ends, Matches, hb]
  | seq r s ihr ihs => simp only [ends, Matches, List.mem_flatMap, ihr, ihs]
  | alt r s ihr ihs => simp only [ends, Matches, List.mem_append, ihr, ihs]
  | star r ih => exact mem_rounds ih le_rfl

theorem mem_places (last : Option CodeUnit) (s : Text) (a : Place) :
    a ∈ places last s ↔
      ∃ before, s = before ++ a.rest ∧ a.before = (before.getLast?).or last := by
  induction s generalizing last with
  | nil =>
    obtain ⟨before, rest⟩ := a
    simp only [places, List.mem_singleton, Place.mk.injEq, List.nil_eq, List.append_eq_nil_iff]
    constructor
    · rintro ⟨rfl, rfl⟩
      exact ⟨[], ⟨rfl, rfl⟩, rfl⟩
    · rintro ⟨_, ⟨rfl, rfl⟩, hlast⟩
      exact ⟨hlast, rfl⟩
  | cons c s ih =>
    rw [places, List.mem_cons, ih]
    constructor
    · rintro (rfl | ⟨before, rfl, hlast⟩)
      · exact ⟨[], rfl, rfl⟩
      · refine ⟨c :: before, rfl, ?_⟩
        rw [hlast, List.getLast?_cons]
        cases before.getLast? <;> rfl
    · rintro ⟨_ | ⟨d, before⟩, hs, hlast⟩
      · left
        obtain ⟨before, rest⟩ := a
        simp only [List.nil_append] at hs
        simp only [List.getLast?_nil, Option.none_or] at hlast
        rw [hs, hlast]
      · obtain ⟨rfl, rfl⟩ := List.cons.inj hs
        refine Or.inr ⟨before, rfl, ?_⟩
        rw [hlast, List.getLast?_cons]
        cases before.getLast? <;> rfl

/-- **`test` finds what there is.** -/
theorem test_iff (pattern : Regex) (s : Text) : pattern.test s = true ↔ pattern.Occurs s := by
  simp only [test, List.any_eq_true, Bool.not_eq_true', List.isEmpty_eq_false_iff_exists_mem,
    mem_ends, mem_places, Option.or_none]
  constructor
  · rintro ⟨⟨_, rest⟩, ⟨before, hs, rfl⟩, place, hmatch⟩
    exact ⟨before, rest, place, hs, hmatch⟩
  · rintro ⟨before, rest, place, hs, hmatch⟩
    exact ⟨⟨before.getLast?, rest⟩, ⟨before, hs, rfl⟩, place, hmatch⟩

instance (pattern : Regex) (s : Text) : Decidable (pattern.Occurs s) :=
  decidable_of_iff _ (pattern.test_iff s)

end Regex

end MipitCore.Js
