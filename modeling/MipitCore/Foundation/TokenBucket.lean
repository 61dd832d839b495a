import Mathlib.Algebra.Order.Field.Basic
import Mathlib.Tactic.GCongr
import Mathlib.Tactic.Linarith
import Mathlib.Tactic.Ring

/-!
# Token buckets

A bucket holds up to `capacity` tokens, gains `rate` of them per unit of time, and
gives one away for each request that it lets through. However its refills and its
requests are spread over time, no stretch of time sees more requests let through than
the capacity and what that stretch gains (`Accounts.served_le`).

The account of a stretch from `s` to `e` is a potential: what was let through in it, with
what the bucket still holds before its end, is at most the capacity and the gain so far.

## Main definitions

* `Bucket`, `Bucket.advance`, `Bucket.take`
* `Bucket.Bounded` — between nothing and the capacity
* `Bucket.Accounts` — the account of a stretch of time
* `Bucket.wait` — how long it takes until the bucket has a token

## Main results

* `advance_advance` — time may pass in parts
* `one_le_level_advance_iff` — the wait is exact
* `Accounts.advance`, `Accounts.take` — the account is kept
* `Accounts.served_le`
-/

namespace MipitCore.Foundation

/-- A bucket of tokens, as it was at `time`. -/
structure Bucket (α : Type*) where
  capacity : α
  rate : α
  level : α
  time : α

namespace Bucket

variable {α : Type*} [Field α] [LinearOrder α] [IsStrictOrderedRing α] {b : Bucket α} {s e t n : α}

/-- The bucket at a later time. -/
def advance (b : Bucket α) (t : α) : Bucket α :=
  { b with level := min b.capacity (b.level + (t - b.time) * b.rate), time := t }

/-- The bucket after it gave a token away. -/
def take (b : Bucket α) : Bucket α := { b with level := b.level - 1 }

/-- The level is between nothing and the capacity. -/
structure Bounded (b : Bucket α) : Prop where
  rate_nonneg : 0 ≤ b.rate
  level_nonneg : 0 ≤ b.level
  level_le : b.level ≤ b.capacity

theorem Bounded.advance (h : b.Bounded) (ht : b.time ≤ t) : (b.advance t).Bounded where
  rate_nonneg := h.rate_nonneg
  level_nonneg := by
    have hgain : 0 ≤ (t - b.time) * b.rate := mul_nonneg (sub_nonneg.mpr ht) h.rate_nonneg
    exact le_min (h.level_nonneg.trans h.level_le) (add_nonneg h.level_nonneg hgain)
  level_le := min_le_left _ _

theorem Bounded.take (h : b.Bounded) (hlevel : 1 ≤ b.level) : b.take.Bounded where
  rate_nonneg := h.rate_nonneg
  level_nonneg := sub_nonneg.mpr hlevel
  level_le := (sub_le_self _ zero_le_one).trans h.level_le

omit [IsStrictOrderedRing α] in
/-- A bucket that no time passes for stays as it is. -/
theorem advance_self (h : b.Bounded) : b.advance b.time = b := by
  have hlevel : min b.capacity (b.level + (b.time - b.time) * b.rate) = b.level := by
    rw [sub_self, zero_mul, add_zero, min_eq_right h.level_le]
  rw [Bucket.advance, hlevel]

/-- **Time may pass in parts**: what a stretch gains does not depend on how it is divided. -/
theorem advance_advance {t' : α} (h : b.Bounded) (ht' : t ≤ t') :
    (b.advance t).advance t' = b.advance t' := by
  have hgain : 0 ≤ (t' - t) * b.rate := mul_nonneg (sub_nonneg.mpr ht') h.rate_nonneg
  have hparts : b.level + (t - b.time) * b.rate + (t' - t) * b.rate =
      b.level + (t' - b.time) * b.rate := by ring
  -- a bucket that is full on the way is full at the end
  have hlevel : min b.capacity (min b.capacity (b.level + (t - b.time) * b.rate) +
      (t' - t) * b.rate) = min b.capacity (b.level + (t' - b.time) * b.rate) := by
    rw [← min_add_add_right, hparts, ← min_assoc, min_eq_left (le_add_of_nonneg_right hgain)]
  exact congrArg (fun level => { b with level, time := t' }) hlevel

/-- The time that it takes to refill what the bucket lacks of a token. -/
def wait (b : Bucket α) : α := (1 - b.level) / b.rate

theorem wait_pos (hrate : 0 < b.rate) (hlevel : b.level < 1) : 0 < b.wait :=
  div_pos (sub_pos.mpr hlevel) hrate

/-- **A bucket that can hold a token** has one when the wait is over, and not before. -/
theorem one_le_level_advance_iff (hrate : 0 < b.rate) (hcapacity : 1 ≤ b.capacity) :
    1 ≤ (b.advance t).level ↔ b.wait ≤ t - b.time := by
  rw [wait, div_le_iff₀ hrate, sub_le_iff_le_add']
  exact le_min_iff.trans (and_iff_right hcapacity)

/-- The time that has passed between `s` and `e`. -/
def elapsed (b : Bucket α) (s e : α) : α := max 0 (min b.time e - s)

/-- The account of the time from `s` to `e`, in which `n` requests were let through. -/
structure Accounts (b : Bucket α) (s e n : α) : Prop where
  /-- Nothing was let through before the time began. -/
  early : b.time < s → n = 0
  /-- What was let through, and what can be until `e`, is the capacity and the gain. -/
  balance : b.time ≤ e → n + b.level ≤ b.capacity + b.elapsed s e * b.rate
  served : n ≤ b.capacity + b.elapsed s e * b.rate

theorem Accounts.start (h : b.Bounded) : b.Accounts s e 0 := by
  have hgain : 0 ≤ b.elapsed s e * b.rate := mul_nonneg (le_max_left _ _) h.rate_nonneg
  constructor
  · exact fun _ => rfl
  · intro _
    rw [zero_add]
    exact h.level_le.trans (le_add_of_nonneg_right hgain)
  · exact add_nonneg (h.level_nonneg.trans h.level_le) hgain

theorem elapsed_advance (ht : b.time ≤ t) : b.elapsed s e ≤ (b.advance t).elapsed s e :=
  max_le_max_left 0 (sub_le_sub_right (min_le_min_right e ht) s)

/-- Time that passes gains at most the rate, and nothing over the capacity. -/
theorem Accounts.advance (h : b.Accounts s e n) (hb : b.Bounded) (ht : b.time ≤ t) :
    (b.advance t).Accounts s e n := by
  have hmono : b.elapsed s e * b.rate ≤ (b.advance t).elapsed s e * b.rate :=
    mul_le_mul_of_nonneg_right (elapsed_advance ht) hb.rate_nonneg
  constructor
  · exact fun hs => h.early (lt_of_le_of_lt ht hs)
  · intro he
    change t ≤ e at he
    change n + min b.capacity (b.level + (t - b.time) * b.rate) ≤
      b.capacity + (b.advance t).elapsed s e * b.rate
    rcases lt_or_ge b.time s with hs | hs
    · -- nothing was let through yet, and the level is within the capacity
      have hgain : 0 ≤ (b.advance t).elapsed s e * b.rate :=
        mul_nonneg (le_max_left _ _) hb.rate_nonneg
      rw [h.early hs, zero_add]
      exact (min_le_left _ _).trans (le_add_of_nonneg_right hgain)
    · have hbefore : b.elapsed s e = b.time - s := by
        rw [elapsed, min_eq_left (ht.trans he), max_eq_right (sub_nonneg.mpr hs)]
      have hafter : (b.advance t).elapsed s e = t - s := by
        change max 0 (min t e - s) = t - s
        rw [min_eq_left he, max_eq_right (sub_nonneg.mpr (hs.trans ht))]
      have hbalance := h.balance (ht.trans he)
      rw [hbefore] at hbalance
      rw [hafter]
      calc n + min b.capacity (b.level + (t - b.time) * b.rate)
          ≤ n + (b.level + (t - b.time) * b.rate) := by gcongr; exact min_le_right _ _
        _ = n + b.level + (t - b.time) * b.rate := by ring
        _ ≤ b.capacity + (b.time - s) * b.rate + (t - b.time) * b.rate := by gcongr
        _ = b.capacity + (t - s) * b.rate := by ring
  · exact h.served.trans (add_le_add_right hmono _)

/-- A token that is given away is accounted for, in the time or outside of it. -/
theorem Accounts.take (h : b.Accounts s e n) (hlevel : 1 ≤ b.level) :
    b.take.Accounts s e (if s ≤ b.time ∧ b.time ≤ e then n + 1 else n) := by
  have helapsed : b.take.elapsed s e = b.elapsed s e := rfl
  split_ifs with hin
  · have hbalance := h.balance hin.2
    constructor
    · exact fun hs => absurd hin.1 (not_le.mpr hs)
    · intro _
      rw [helapsed]
      change n + 1 + (b.level - 1) ≤ b.capacity + b.elapsed s e * b.rate
      linarith
    · rw [helapsed]
      change n + 1 ≤ b.capacity + b.elapsed s e * b.rate
      linarith
  · constructor
    · exact h.early
    · intro he
      have hbalance := h.balance he
      rw [helapsed]
      change n + (b.level - 1) ≤ b.capacity + b.elapsed s e * b.rate
      linarith
    · exact h.served

/-- **No stretch of time sees more than the capacity and its gain.** -/
theorem Accounts.served_le (h : b.Accounts s e n) (hrate : 0 ≤ b.rate) (hse : s ≤ e) :
    n ≤ b.capacity + (e - s) * b.rate := by
  have helapsed : b.elapsed s e ≤ e - s :=
    max_le (sub_nonneg.mpr hse) (sub_le_sub_right (min_le_right _ _) s)
  exact h.served.trans (add_le_add_right (mul_le_mul_of_nonneg_right helapsed hrate) _)

end Bucket

end MipitCore.Foundation
