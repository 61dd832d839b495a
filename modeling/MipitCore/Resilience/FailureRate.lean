import MipitCore.Resilience.Sequential

/-!
# The failure rate of a breaker

A breaker with a rate is to open when, of at least ten calls in the window, so many percent
have failed. The failures are those within the window. The successes are all there were since
the breaker was made or last closed: nothing takes the old ones out of their number.

What is too old for the window can therefore decide in two ways. It makes up the ten calls that
the window does not hold, or it hides a rate that the window reaches. Besides, the rate is
computed in doubles, and may be rounded below the percentage of the window or up to what the
option asks for, and a rate of zero counts as none. In all other runs the breaker opens as the
option says.

## Main definitions

* `successesIn`, `olderSuccesses` — the successes within the window, and those before it
* `KeepsRate` — a failing call opens the breaker exactly as the option says
* `Hidden`, `RoundedUp`, `Inflated`, `Unspoiled` — what the older successes and the rounding do

## Main results

* `keepsRate_iff`
-/

namespace MipitCore.Resilience

open Js Foundation

/-- How many of the calls succeeded within the window that ends at `t`. -/
def successesIn (windowMs : Number) (t : ℚ) (settled : List Settlement) : ℕ :=
  settled.countP fun call => !call.failed && inWindow windowMs t call.settledAt

/-- How many of the calls succeeded before the window that ends at `t`. -/
def olderSuccesses (windowMs : Number) (t : ℚ) (settled : List Settlement) : ℕ :=
  settled.countP fun call => !call.failed && !inWindow windowMs t call.settledAt

/-- The failures within the window when a call has failed. -/
def failedNow (options : CircuitBreakerOptions) (e : Transition Sequential SequentialCall) : ℕ :=
  failuresIn options.windowMs e.label.settledAt (e.source.settled ++ [e.label.settlement])

/-- The successes within the window when a call has failed. -/
def succeededNow (options : CircuitBreakerOptions) (e : Transition Sequential SequentialCall) : ℕ :=
  successesIn options.windowMs e.label.settledAt e.source.settled

/-- The successes since the breaker was made or last closed that are too old for the window. -/
def succeededBefore (options : CircuitBreakerOptions) (e : Transition Sequential SequentialCall) :
    ℕ :=
  olderSuccesses options.windowMs e.label.settledAt e.source.settled

/-- A call that fails while the breaker is closed. -/
def FailsClosed (e : Transition Sequential SequentialCall) : Prop :=
  e.label.failed = true ∧ e.source.breaker.state = .closed

instance (e : Transition Sequential SequentialCall) : Decidable (FailsClosed e) :=
  inferInstanceAs (Decidable (_ ∧ _))

/-- There are ten calls, and those that failed are at least `rate` percent of them. -/
def percentReached (rate : Number) (failed succeeded : ℕ) : Bool :=
  10 ≤ succeeded + failed &&
    Number.le rate (.fin (failed / ((succeeded + failed : ℕ) : ℚ) * 100))

/-- A call that fails while the breaker is closed opens it exactly if the window holds as many
failures as the threshold says, or ten calls of which `rate` percent have failed. -/
def KeepsRate (options : CircuitBreakerOptions) (rate : Number)
    (e : Transition Sequential SequentialCall) : Prop :=
  FailsClosed e → (e.target.breaker.state = .opened ↔
    reaches options.failureThreshold (failedNow options e) = true ∨
      percentReached rate (failedNow options e) (succeededNow options e) = true)

/-- So many percent of the window have failed, but with the older successes the failure rate comes
out below `rate`, or `rate` is zero. -/
def Hidden (rate : Number) (failed recent older : ℕ) : Prop :=
  percentReached rate failed recent = true ∧
    (rate = .fin 0 ∨ rateReached rate failed (recent + older) = false)

/-- Fewer percent of the window have failed, but its failure rate is rounded up to `rate`. -/
def RoundedUp (rate : Number) (failed recent : ℕ) : Prop :=
  percentReached rate failed recent = false ∧ rateReached rate failed recent = true

/-- The failure rate with the older successes comes out at `rate`, but the window does not hold ten
calls, or the rate of the window is rounded up. -/
def Inflated (rate : Number) (failed recent older : ℕ) : Prop :=
  rate ≠ .fin 0 ∧ rateReached rate failed (recent + older) = true ∧
    (recent + failed < 10 ∨ RoundedUp rate failed recent)

/-- A call that fails while the breaker is closed reaches the threshold, or finds neither older
successes nor a rounding that decide. -/
def Unspoiled (options : CircuitBreakerOptions) (rate : Number)
    (e : Transition Sequential SequentialCall) : Prop :=
  FailsClosed e → reaches options.failureThreshold (failedNow options e) = true ∨
    ¬ Hidden rate (failedNow options e) (succeededNow options e) (succeededBefore options e) ∧
      ¬ Inflated rate (failedNow options e) (succeededNow options e) (succeededBefore options e)

instance (rate : Number) (failed recent older : ℕ) : Decidable (Hidden rate failed recent older) :=
  inferInstanceAs (Decidable (_ ∧ _))

instance (rate : Number) (failed recent : ℕ) : Decidable (RoundedUp rate failed recent) :=
  inferInstanceAs (Decidable (_ ∧ _))

instance (rate : Number) (failed recent older : ℕ) :
    Decidable (Inflated rate failed recent older) :=
  inferInstanceAs (Decidable (_ ∧ _ ∧ (_ ∨ _)))

instance (options : CircuitBreakerOptions) (rate : Number)
    (e : Transition Sequential SequentialCall) : Decidable (KeepsRate options rate e) :=
  inferInstanceAs (Decidable (_ → (_ ↔ _)))

instance (options : CircuitBreakerOptions) (rate : Number)
    (e : Transition Sequential SequentialCall) : Decidable (Unspoiled options rate e) :=
  inferInstanceAs (Decidable (_ → _ ∨ ¬ _ ∧ ¬ _))

section

variable {rate : Number} {failed recent older : ℕ} {options : CircuitBreakerOptions}
  {x y : Sequential} {path : List (Transition Sequential SequentialCall)}

theorem succeeded_eq (windowMs : Number) (t : ℚ) (settled : List Settlement) :
    succeeded settled = successesIn windowMs t settled + olderSuccesses windowMs t settled := by
  induction settled with
  | nil => rfl
  | cons call settled ih =>
    simp only [succeeded, successesIn, olderSuccesses, List.countP_cons] at ih ⊢
    rw [ih]
    cases call.failed <;> cases inWindow windowMs t call.settledAt <;> simp <;> omega

theorem failureRate_eq {total : ℕ} (hpos : 0 < total) (h : failed ≤ total) :
    CircuitBreaker.failureRate failed total =
      toDouble (binary64.nearest (failed / total : ℚ) * 100) := by
  have htotal : (0 : ℚ) < total := Nat.cast_pos.mpr hpos
  have hnonneg : (0 : ℚ) ≤ failed / total := by positivity
  have hle : (failed / total : ℚ) ≤ 1 := (div_le_one htotal).mpr (Nat.cast_le.mpr h)
  have hlt : binary64.nearest (failed / total : ℚ) < 2 ^ 1024 :=
    (nearest_le_nearest hnonneg hle).trans_lt (by decide +kernel)
  have hdiv : @Number.div .double (.fin failed) (.fin total) =
      .fin (binary64.nearest (failed / total : ℚ)) :=
    (@Number.div_fin .double _ _ htotal.ne').trans (toDouble_of_lt hnonneg hlt)
  rw [CircuitBreaker.failureRate, hdiv]
  rfl

/-- Among fewer calls, as many failures make no smaller rate. -/
theorem le_failureRate {total more : ℕ} (hpos : 0 < total) (hfailed : failed ≤ total)
    (hmore : total ≤ more) (h : Number.le rate (CircuitBreaker.failureRate failed more) = true) :
    Number.le rate (CircuitBreaker.failureRate failed total) = true := by
  rw [failureRate_eq (hpos.trans_le hmore) (hfailed.trans hmore)] at h
  rw [failureRate_eq hpos hfailed]
  have htotal : (0 : ℚ) < total := Nat.cast_pos.mpr hpos
  have hpart : (failed / more : ℚ) ≤ failed / total := by
    gcongr
  refine le_toDouble ?_ ?_ h
  · exact mul_nonneg (BinaryFormat.nearest_nonneg (by positivity)) (by norm_num)
  · gcongr
    exact nearest_le_nearest (by positivity) hpart

/-- **Fewer successes make no smaller rate**: what is reached with the older ones is reached without
them, if there are ten calls left. -/
theorem rateReached_of_older (h : rateReached rate failed (recent + older) = true)
    (hten : 10 ≤ recent + failed) : rateReached rate failed recent = true := by
  simp only [rateReached, Bool.and_eq_true, decide_eq_true_eq] at h ⊢
  exact ⟨hten, le_failureRate (by omega) (by omega) (by omega) h.2⟩

theorem ten_of_percentReached (h : percentReached rate failed recent = true) :
    10 ≤ recent + failed := by
  rw [percentReached, Bool.and_eq_true] at h
  exact of_decide_eq_true h.1

/-- **When the rate that is computed decides as the percentage of the window does.** -/
theorem rate_agrees_iff :
    (rate ≠ .fin 0 ∧ rateReached rate failed (recent + older) = true ↔
        percentReached rate failed recent = true) ↔
      ¬ Hidden rate failed recent older ∧ ¬ Inflated rate failed recent older := by
  constructor
  · intro hagree
    constructor
    · -- what the window reaches is computed too, so nothing hides it
      rintro ⟨hreached, hhidden⟩
      obtain ⟨hzero, hall⟩ := hagree.mpr hreached
      rcases hhidden with hrate | hnot
      · exact hzero hrate
      · rw [hall] at hnot
        cases hnot
    · rintro ⟨hzero, hall, hfew | ⟨hnot, -⟩⟩
      · have hten := ten_of_percentReached (hagree.mp ⟨hzero, hall⟩)
        omega
      · rw [hagree.mp ⟨hzero, hall⟩] at hnot
        cases hnot
  · rintro ⟨hhidden, hinflated⟩
    constructor
    · -- ten calls in the window are enough: without the older successes the rate only grows
      rintro ⟨hzero, hall⟩
      have hten : 10 ≤ recent + failed := by
        by_contra hfew
        exact hinflated ⟨hzero, hall, Or.inl (not_le.mp hfew)⟩
      by_contra hnot
      exact hinflated ⟨hzero, hall, Or.inr
        ⟨Bool.eq_false_iff.mpr hnot, rateReached_of_older hall hten⟩⟩
    · intro hreached
      by_contra hnot
      refine hhidden ⟨hreached, ?_⟩
      by_cases hzero : rate = .fin 0
      · exact Or.inl hzero
      · exact Or.inr (Bool.eq_false_iff.mpr fun hall => hnot ⟨hzero, hall⟩)

/-- A step keeps to the option exactly if neither older successes nor the rounding decide. -/
theorem Accounted.keepsRate_iff_unspoiled {e : Transition Sequential SequentialCall}
    (h : Accounted options e.source) (hrate : options.failureRateThreshold = some rate)
    (hstep : Sequential.Step e.source e.label e.target) :
    KeepsRate options rate e ↔ Unspoiled options rate e := by
  refine forall_congr' fun ⟨hfailed, hclosed⟩ => ?_
  have hopened : e.target.breaker.state = .opened ↔
      reaches options.failureThreshold (failedNow options e) = true ∨
        rate ≠ .fin 0 ∧ rateReached rate (failedNow options e)
          (succeededNow options e + succeededBefore options e) = true := by
    rw [h.opened_iff hstep hfailed hclosed, succeeded_eq options.windowMs e.label.settledAt, hrate]
    refine or_congr Iff.rfl ⟨?_, fun hreached => ⟨rate, rfl, hreached⟩⟩
    rintro ⟨_, ⟨⟩, hreached⟩
    exact hreached
  rw [hopened, ← rate_agrees_iff]
  by_cases habsolute : reaches options.failureThreshold (failedNow options e) = true
  · simp only [habsolute, true_or]
  · simp only [habsolute, Bool.false_eq_true, false_or]

end

/-! ### Two failures among ten calls -/

namespace Sequential

/-- A call that does not come too early, and has not settled before it was made. -/
def advance (s : Sequential) (call : SequentialCall) : Option Sequential :=
  if s.now ≤ call.startedAt ∧ call.startedAt ≤ call.settledAt then some (s.after call) else none

theorem step_advance (s : Sequential) (call : SequentialCall) (t : Sequential)
    (h : s.advance call = some t) : Step s call t := by
  unfold advance at h
  split_ifs at h with htimes
  exact ⟨htimes.1, htimes.2, (Option.some.inj h).symm⟩

end Sequential

namespace Example

/-- A breaker that opens when a fifth of the calls have failed. -/
def rated : Sequential where
  breaker :=
    { serviceName := js "PIX"
      options := { CircuitBreakerOptions.default with failureRateThreshold := some (.fin 20) } }
  now := 0
  settled := []

/-- Eight calls that succeed, and one that fails, all within a minute from 100 s on. -/
def busy : List SequentialCall := List.replicate 8 ⟨100000, false, 100000⟩ ++ [⟨100000, true, 100001⟩]

/-- The tenth call of that minute fails too. -/
def tenth : SequentialCall := ⟨100001, true, 100002⟩

/-- A call that succeeded at the beginning. -/
def old : SequentialCall := ⟨0, false, 0⟩

/-- The busy minute alone. -/
def minute : List (Transition Sequential SequentialCall) × Sequential :=
  LTS.follow Sequential.advance (busy ++ [tenth]) rated

theorem run_minute : Sequential.Step.Run rated minute.1 minute.2 :=
  LTS.run_follow Sequential.step_advance _ _

/-- The old call and all but the last one of the busy minute. -/
def diluted : List (Transition Sequential SequentialCall) × Sequential :=
  LTS.follow Sequential.advance (old :: busy) rated

/-- The last call of the busy minute. -/
def missed : Transition Sequential SequentialCall :=
  ⟨diluted.2, tenth, diluted.2.after tenth⟩

theorem run_missed : Sequential.Step.Run rated (diluted.1 ++ [missed]) missed.target :=
  (LTS.run_follow Sequential.step_advance _ _).snoc
    ⟨by decide +kernel, by decide +kernel, rfl⟩

end Example

end MipitCore.Resilience
