import MipitCore.Resilience.Observers

/-!
# When to try again

A call of `acquire` that is rejected says after how many milliseconds to try again: the time that
the bucket takes to refill what it lacks of a token, in whole milliseconds. As long as no other call
takes a token from the rail, the bucket gains on as if nobody had looked at it. So a call comes too
early before the last of these milliseconds, and in time after it.

## Main definitions

* `Unserved` — a run in which nothing is let through on a rail
* `Waiting` — what the rail's bucket is from then on

## Main results

* `acquire_eq_error_iff` — when a call is rejected, and what it says
* `Waiting.of_run`
* `retryAfterMs_exact`
-/

namespace MipitCore.Resilience

open Js Foundation

/-- No call of `acquire` for the rail is let through. -/
def Unserved (rail : Text) (path : List (Transition Limited Operation)) : Prop :=
  ∀ e ∈ path, ∀ now, e.label = .acquire rail now →
    ∃ err, (acquire rail now e.source.limiter).1 = .error err

/-- From now on, the rail has the bucket `b`, as time refills it. -/
structure Waiting (rail : Text) (b : TokenBucket) (x : Limited) : Prop where
  sane : Sane x.now x.limiter
  bounded : b.toBucket.Bounded
  past : b.lastRefillAt ≤ x.now
  seen : ∀ u, x.now ≤ u → seenAt u rail x.limiter = some (refill u b)

section

variable {rail : Text} {limiter : RateLimiter} {b : TokenBucket} {x y z : Limited} {op : Operation}
  {err : RateLimitExceededError} {t u : ℚ}

/-! ### The answer of a call -/

/-- **A call is rejected** if the bucket that it sees has no token, and then it says how long the
bucket takes to have one. -/
theorem acquire_eq_error_iff :
    (acquire rail t limiter).1 = .error err ↔
      ∃ b, seenAt t rail limiter = some b ∧ b.tokens < 1 ∧ err = ⟨rail, ⌈b.toBucket.wait⌉⟩ := by
  cases hb : limiter.lookup rail with
  | none => simp [acquire, seenAt, hb]
  | some b =>
    simp only [acquire, seenAt, hb, Option.map_some, Option.some.injEq, exists_eq_left']
    split_ifs with hempty
    · rw [and_iff_right hempty, Except.error.injEq, eq_comm]
      rfl
    · simp [hempty]

/-- A call for a rail with a bucket is let through if the bucket that it sees has a token. -/
theorem acquire_eq_ok_iff (hseen : seenAt t rail limiter = some b) :
    (acquire rail t limiter).1 = .ok () ↔ 1 ≤ b.tokens := by
  obtain ⟨b', hb', rfl⟩ := Option.map_eq_some_iff.mp hseen
  rw [← canAcquire_iff, canAcquire, hb']
  exact decide_eq_true_iff

/-! ### Nothing is let through -/

theorem Waiting.of_lookup (hsane : Sane x.now x.limiter) (hb : x.limiter.lookup rail = some b) :
    Waiting rail b x := by
  obtain ⟨hbounded, hpast⟩ := hsane rail b hb
  refine ⟨hsane, hbounded, hpast, fun u _ => ?_⟩
  rw [seenAt, hb, Option.map_some]

theorem Waiting.step (h : Waiting rail b x) (hstep : Step x op y)
    (hop : ∀ now, op = .acquire rail now → ∃ err, (acquire rail now x.limiter).1 = .error err) :
    Waiting rail b y := by
  refine ⟨h.sane.step hstep, h.bounded, h.past.trans (now_le hstep), fun u hu => ?_⟩
  rw [seenAt_step h.sane hstep hop hu]
  exact h.seen u ((now_le hstep).trans hu)

theorem Waiting.of_run (h : Waiting rail b x) {path : List (Transition Limited Operation)}
    (hrun : Step.Run x path y) (hpath : Unserved rail path) : Waiting rail b y := by
  induction hrun with
  | nil => exact h
  | snoc _ hstep ih =>
    rw [Unserved, List.forall_mem_append, List.forall_mem_singleton] at hpath
    exact (ih hpath.1).step hstep hpath.2

/-- A rejected call leaves the bucket that it has seen. -/
theorem lookup_of_rejected (hsane : Sane y.now y.limiter) (hstep : Step y (.acquire rail t) z)
    (hrejected : (acquire rail t y.limiter).1 = .error err) :
    ∃ b, z.limiter.lookup rail = some b ∧ b.tokens < 1 ∧ b.lastRefillAt = t ∧
      err.retryAfterMs = ⌈b.toBucket.wait⌉ := by
  obtain ⟨b, hseen, hempty, rfl⟩ := acquire_eq_error_iff.mp hrejected
  obtain ⟨b', hb', rfl⟩ := Option.map_eq_some_iff.mp hseen
  obtain ⟨hbounded, hpast⟩ := hsane rail b' hb'
  have hlo : y.now ≤ t := (readings_between hstep (List.mem_singleton.mpr rfl)).1
  refine ⟨refill t b', ?_, hempty, ?_, rfl⟩
  · rw [hstep.2.1]
    simp [limiterAfter, acquire, hb', hempty, lookup_modify]
  · exact congrArg Bucket.time (toBucket_refill hbounded (hpast.trans hlo))

/-- **What a rail that waits answers**: it lets a call through when the wait is over. -/
theorem Waiting.acquire_iff (h : Waiting rail b x) (hrate : 0 < b.refillRatePerMs)
    (hcapacity : 1 ≤ b.maxTokens) (hu : x.now ≤ u) :
    (acquire rail u x.limiter).1 = .ok () ↔ b.toBucket.wait ≤ u - b.lastRefillAt := by
  have hlevel : (refill u b).tokens = (b.toBucket.advance u).level :=
    congrArg Bucket.level (toBucket_refill h.bounded (h.past.trans hu))
  rw [acquire_eq_ok_iff (h.seen u hu), hlevel]
  exact Bucket.one_le_level_advance_iff hrate hcapacity

/-- A configured rail has at least one token a second. -/
theorem one_le_maxPerSecond {rail : Rail} {limit : RailRateLimit}
    (h : (rail, limit) ∈ railRateLimits) : 1 ≤ limit.maxPerSecond := by
  have hall : ∀ entry ∈ railRateLimits, 1 ≤ entry.2.maxPerSecond := by decide
  exact hall (rail, limit) h

/-- **`retryAfterMs` is exact**: if a call for a configured rail is rejected at a whole millisecond,
and none is let through there since, a call comes too early at each millisecond before `retryAfterMs`
of them have passed, and in time from then on. -/
theorem retryAfterMs_exact {rail : Rail} {limit : RailRateLimit} {t : ℤ}
    {path : List (Transition Limited Operation)} (h : (rail, limit) ∈ railRateLimits)
    (hmade : Made x) (hrun : Step.Run x path y) (hstep : Step y (.acquire (js rail.name) t) z)
    (hrejected : (acquire (js rail.name) t y.limiter).1 = .error err) :
    1 ≤ err.retryAfterMs ∧
      ∀ path' z', Step.Run z path' z' → Unserved (js rail.name) path' →
        (∀ u : ℤ, z'.now ≤ u → u < t + err.retryAfterMs →
          ∃ err', (acquire (js rail.name) u z'.limiter).1 = .error err') ∧
        ∀ u : ℚ, z'.now ≤ u → t + err.retryAfterMs ≤ u →
          (acquire (js rail.name) u z'.limiter).1 = .ok () := by
  have hsane : Sane y.now y.limiter := (Watched.of_run hmade hrun).sane
  obtain ⟨b, hb, hempty, hlast, hretry⟩ := lookup_of_rejected hsane hstep hrejected
  -- the bucket is that of a configured rail
  obtain ⟨b', htracked⟩ := Tracked.of_run h hmade (hrun.snoc hstep)
  obtain rfl : b = b' := Option.some.inj (hb.symm.trans htracked.lookup)
  have hone : (1 : ℚ) ≤ limit.maxPerSecond := Nat.one_le_cast.mpr (one_le_maxPerSecond h)
  have hrate : 0 < b.refillRatePerMs := by
    rw [htracked.refillRatePerMs]
    positivity
  have hcapacity : 1 ≤ b.maxTokens := htracked.maxTokens ▸ hone
  have hwait : 0 < b.toBucket.wait := Bucket.wait_pos hrate hempty
  refine ⟨hretry ▸ Int.one_le_ceil_iff.mpr hwait, fun path' z' hrun' hunserved => ?_⟩
  have hwaiting : Waiting (js rail.name) b z' :=
    (Waiting.of_lookup (hsane.step hstep) hb).of_run hrun' hunserved
  have hserved : ∀ u : ℚ, z'.now ≤ u →
      ((acquire (js rail.name) u z'.limiter).1 = .ok () ↔ b.toBucket.wait ≤ u - t) := by
    intro u hu
    rw [hwaiting.acquire_iff hrate hcapacity hu, hlast]
  constructor
  · -- a whole number of milliseconds below the ceiling is below the wait itself
    intro u hu hearly
    have hshort : ((u - t : ℤ) : ℚ) < b.toBucket.wait := Int.lt_ceil.mp (by omega)
    cases hanswer : (acquire (js rail.name) u z'.limiter).1 with
    | error err' => exact ⟨err', rfl⟩
    | ok _ =>
      have hover := (hserved u hu).mp hanswer
      push_cast at hshort
      exact absurd hover (not_le.mpr hshort)
  · intro u hu hlate
    refine (hserved u hu).mpr ?_
    have hceil : b.toBucket.wait ≤ err.retryAfterMs := hretry ▸ Int.le_ceil _
    linarith

end

/-! ### A rail without a token -/

/-- When five calls for SWIFT MT103 have emptied its bucket, the sixth is told to try again after 200
milliseconds: after 199 it is too early, and after 200 in time. -/
theorem retryAfterMs_exact_swift :
    ∃ y path, Step.Run Example.made path y ∧
      (acquire (js "SWIFT_MT103") (0 : ℤ) y.limiter).1 = .error ⟨js "SWIFT_MT103", 200⟩ ∧
      ∃ z, Step y (.acquire (js "SWIFT_MT103") (0 : ℤ)) z ∧
        (∃ err, (acquire (js "SWIFT_MT103") (199 : ℤ) z.limiter).1 = .error err) ∧
        (acquire (js "SWIFT_MT103") 200 z.limiter).1 = .ok () := by
  have hswift : ((.swiftMt103, ⟨100, 5⟩) : Rail × RailRateLimit) ∈ railRateLimits := by decide
  obtain ⟨path, y, hrun, hnow, hb, -⟩ := exists_burst (x := Example.made)
    (lookup_newRateLimiter hswift fun _ => 0)
  have hnow : y.now = 0 := hnow
  have hwait : (holding ⟨100, 5⟩ 0 0).toBucket.wait = 200 := by
    norm_num [Bucket.wait, TokenBucket.toBucket, holding]
  have hrejected : (acquire (js "SWIFT_MT103") (0 : ℤ) y.limiter).1 =
      .error ⟨js "SWIFT_MT103", 200⟩ := by
    refine acquire_eq_error_iff.mpr ⟨holding ⟨100, 5⟩ 0 0, ?_, by norm_num [holding], ?_⟩
    · exact (congrArg _ hb).trans (congrArg some (refill_holding ⟨100, 5⟩ 0 0))
    · rw [hwait]
      rfl
  have hstep : Step y (.acquire (js "SWIFT_MT103") (0 : ℤ))
      ⟨limiterAfter y.limiter (.acquire (js "SWIFT_MT103") (0 : ℤ)), 0,
        acquiredAfter y.acquired y.limiter (.acquire (js "SWIFT_MT103") (0 : ℤ))⟩ :=
    ⟨by simp [Operation.readings, hnow], rfl, rfl⟩
  obtain ⟨-, hretry⟩ := retryAfterMs_exact hswift Example.made_made hrun hstep hrejected
  obtain ⟨hearly, hlate⟩ := hretry [] _ .nil (List.forall_mem_nil _)
  exact ⟨y, path, hrun, hrejected, _, hstep, hearly 199 (by norm_num) (by norm_num),
    hlate 200 (by norm_num) (by norm_num)⟩

end MipitCore.Resilience
