import MipitCore.Config.Constants
import MipitCore.Foundation.TokenBucket
import MipitCore.Foundation.Transition
import MipitCore.Foundation.Window
import MipitCore.Js.Number

/-!
# The rate limiter of the rails

Each configured rail has a bucket of tokens, which is refilled whenever it is looked at:
by `acquire`, which takes a token or throws, by `canAcquire`, and by `getStatus`. The
bucket is built from the limit per second; nothing uses the limit per minute.

## Main definitions

* `TokenBucket`, `RateLimiter`, `acquire`, `canAcquire`, `getStatus`
* `Step` — one call, at what the clock reads during it
* `acquiredAt` — when the calls for a rail were let through

## Main results

* `acquired_le` — how many calls any stretch of time lets through
* `perMinute_exceeded` — that no rail keeps to its limit per minute
-/

namespace MipitCore.Resilience

open Js Foundation

/-! ### Buckets -/

structure TokenBucket where
  tokens : ℚ
  maxTokens : ℚ
  refillRatePerMs : ℚ
  lastRefillAt : ℚ

/-- `refill(bucket)` -/
def refill (now : ℚ) (bucket : TokenBucket) : TokenBucket :=
  let elapsed := now - bucket.lastRefillAt
  if 0 < elapsed then
    { bucket with
      tokens := min bucket.maxTokens (bucket.tokens + elapsed * bucket.refillRatePerMs)
      lastRefillAt := now }
  else bucket

/-- The buckets of the configured rails, in the order of the configuration. -/
abbrev RateLimiter := List (Text × TokenBucket)

/-- `new RateLimiter()`, given what the clock reads for each rail. -/
def newRateLimiter (now : Text → ℚ) : RateLimiter :=
  railRateLimits.map fun entry => (js entry.1.name,
    { tokens := entry.2.maxPerSecond
      maxTokens := entry.2.maxPerSecond
      refillRatePerMs := entry.2.maxPerSecond / 1000
      lastRefillAt := now (js entry.1.name) })

/-- `new RateLimitExceededError(rail, retryAfterMs)` -/
structure RateLimitExceededError where
  rail : Text
  retryAfterMs : ℤ
  deriving DecidableEq

/-- `err.message` -/
def RateLimitExceededError.message (err : RateLimitExceededError) : Text :=
  js "Rate limit exceeded for rail " ++ err.rail ++ js ". Retry after " ++
    Number.toText (.fin err.retryAfterMs) ++ js "ms"

/-- The bucket of `rail` is replaced. -/
def RateLimiter.modify (rail : Text) (f : TokenBucket → TokenBucket) (limiter : RateLimiter) :
    RateLimiter :=
  limiter.map fun entry => (entry.1, if entry.1 = rail then f entry.2 else entry.2)

/-- `acquire(rail)`; a rail without a limit is let through. -/
def acquire (rail : Text) (now : ℚ) (limiter : RateLimiter) :
    Except RateLimitExceededError Unit × RateLimiter :=
  match limiter.lookup rail with
  | none => (.ok (), limiter)
  | some bucket =>
    let bucket := refill now bucket
    if bucket.tokens < 1 then
      (.error ⟨rail, ⌈(1 - bucket.tokens) / bucket.refillRatePerMs⌉⟩,
        RateLimiter.modify rail (refill now) limiter)
    else
      (.ok (), RateLimiter.modify rail
        (fun bucket => { refill now bucket with tokens := (refill now bucket).tokens - 1 }) limiter)

/-- `canAcquire(rail)` -/
def canAcquire (rail : Text) (now : ℚ) (limiter : RateLimiter) : Bool × RateLimiter :=
  match limiter.lookup rail with
  | none => (true, limiter)
  | some bucket =>
    (decide (1 ≤ (refill now bucket).tokens), RateLimiter.modify rail (refill now) limiter)

/-- An entry of `getStatus`. -/
structure RailStatus where
  rail : Text
  availableTokens : ℤ
  maxTokens : ℚ
  utilizationPct : ℤ
  deriving DecidableEq

/-- `getStatus()`, given what the clock reads for each rail. -/
def getStatus (now : Text → ℚ) (limiter : RateLimiter) : List RailStatus × RateLimiter :=
  let limiter := limiter.map fun entry => (entry.1, refill (now entry.1) entry.2)
  (limiter.map fun entry =>
    { rail := entry.1
      availableTokens := ⌊entry.2.tokens⌋
      maxTokens := entry.2.maxTokens
      utilizationPct := Number.roundHalfUp ((1 - entry.2.tokens / entry.2.maxTokens) * 100) },
    limiter)

/-! ### Runs -/

/-- A call, with what the clock reads during it. -/
inductive Operation
  | acquire (rail : Text) (now : ℚ)
  | canAcquire (rail : Text) (now : ℚ)
  | getStatus (now : Text → ℚ)

/-- The readings of the clock during a call, in their order. -/
def Operation.readings (limiter : RateLimiter) : Operation → List ℚ
  | acquire _ now => [now]
  | canAcquire _ now => [now]
  | getStatus now => limiter.map fun entry => now entry.1

/-- The limiter, the time, and the calls of `acquire` that were let through, latest first. -/
structure Limited where
  limiter : RateLimiter
  now : ℚ
  acquired : List (Text × ℚ)

/-- The calls that were let through, after one more. -/
def acquiredAfter (acquired : List (Text × ℚ)) (limiter : RateLimiter) : Operation →
    List (Text × ℚ)
  | .acquire rail now =>
    match (acquire rail now limiter).1 with
    | .ok () => (rail, now) :: acquired
    | .error _ => acquired
  | _ => acquired

/-- The limiter after a call. -/
def limiterAfter (limiter : RateLimiter) : Operation → RateLimiter
  | .acquire rail now => (acquire rail now limiter).2
  | .canAcquire rail now => (canAcquire rail now limiter).2
  | .getStatus now => (getStatus now limiter).2

/-- One call. The clock never goes back. -/
def Step : LTS Limited Operation := fun s op t =>
  (s.now :: op.readings s.limiter ++ [t.now]).Pairwise (· ≤ ·) ∧
    t.limiter = limiterAfter s.limiter op ∧ t.acquired = acquiredAfter s.acquired s.limiter op

/-- A limiter that has just been made. -/
def Made (s : Limited) : Prop :=
  s.acquired = [] ∧ ∃ now : Text → ℚ, s.limiter = newRateLimiter now ∧
    ((railRateLimits.map fun entry => now (js entry.1.name)) ++ [s.now]).Pairwise (· ≤ ·)

/-- When the calls for `rail` were let through, latest first. -/
def acquiredAt (rail : Text) (acquired : List (Text × ℚ)) : List ℚ :=
  (acquired.filter fun a => a.1 = rail).map Prod.snd

/-! ### What a call does to the bucket of a rail -/

section

variable {rail : Text} {limiter : RateLimiter} {b : TokenBucket} {x y : Limited} {op : Operation}

theorem lookup_map (f : Text → TokenBucket → TokenBucket) (limiter : RateLimiter) (rail : Text) :
    (limiter.map fun entry => (entry.1, f entry.1 entry.2)).lookup rail =
      (limiter.lookup rail).map (f rail) := by
  induction limiter with
  | nil => rfl
  | cons entry limiter ih =>
    obtain ⟨r, b⟩ := entry
    by_cases hr : rail = r
    · subst hr
      simp
    · simp [List.lookup_cons, beq_eq_false_iff_ne.mpr hr, ih]

theorem lookup_modify (rail' : Text) (f : TokenBucket → TokenBucket) :
    (RateLimiter.modify rail' f limiter).lookup rail =
      (limiter.lookup rail).map fun b => if rail = rail' then f b else b :=
  lookup_map (fun r b => if r = rail' then f b else b) limiter rail

theorem mem_of_lookup (h : limiter.lookup rail = some b) : (rail, b) ∈ limiter := by
  induction limiter with
  | nil => cases h
  | cons entry limiter ih =>
    obtain ⟨r, c⟩ := entry
    by_cases hr : rail = r
    · subst hr
      obtain rfl : c = b := by simpa using h
      exact List.mem_cons_self
    · refine List.mem_cons_of_mem _ (ih ?_)
      simpa [List.lookup_cons, beq_eq_false_iff_ne.mpr hr] using h

/-- A bucket without one of its tokens. -/
def spend (b : TokenBucket) : TokenBucket := { b with tokens := b.tokens - 1 }

/-- What becomes of a rail's bucket in a call between `lo` and `hi`, and when the call was let
through on the rail, if it was. -/
inductive BucketStep (lo hi : ℚ) (b : TokenBucket) : TokenBucket → Option ℚ → Prop
  | untouched : BucketStep lo hi b b none
  | refilled (t : ℚ) : lo ≤ t → t ≤ hi → BucketStep lo hi b (refill t b) none
  | spent (t : ℚ) : lo ≤ t → t ≤ hi → 1 ≤ (refill t b).tokens →
      BucketStep lo hi b (spend (refill t b)) (some t)

theorem acquiredAt_cons (rail' : Text) (t : ℚ) (acquired : List (Text × ℚ)) :
    acquiredAt rail ((rail', t) :: acquired) =
      (if rail' = rail then [t] else []) ++ acquiredAt rail acquired := by
  by_cases hr : rail' = rail
  · simp [acquiredAt, hr]
  · simp [acquiredAt, hr]

/-- A call that finds a token on the rail, at `t`. -/
def Finds (rail : Text) (t : ℚ) (limiter : RateLimiter) (op : Operation) : Prop :=
  op = .acquire rail t ∧ (canAcquire rail t limiter).1 = true

theorem readings_between (h : Step x op y) {t : ℚ} (ht : t ∈ op.readings x.limiter) :
    x.now ≤ t ∧ t ≤ y.now := by
  obtain ⟨hsorted, -, -⟩ := h
  rw [List.cons_append, List.pairwise_cons, List.pairwise_append] at hsorted
  exact ⟨hsorted.1 t (List.mem_append_left _ ht),
    hsorted.2.2.2 t ht y.now (List.mem_singleton.mpr rfl)⟩

/-- **What a call does to the bucket of a rail**, and to the record of what was let through
there. -/
theorem step_bucket (h : Step x op y) (hb : x.limiter.lookup rail = some b) :
    ∃ b' passed, y.limiter.lookup rail = some b' ∧ BucketStep x.now y.now b b' passed ∧
      acquiredAt rail y.acquired = passed.toList ++ acquiredAt rail x.acquired ∧
      ∀ t, passed = some t ↔ Finds rail t x.limiter op := by
  have hread := fun t => readings_between (t := t) h
  obtain ⟨-, hlimiter, hacquired⟩ := h
  cases op with
  | acquire rail' now =>
    obtain ⟨hlo, hhi⟩ := hread now (List.mem_singleton.mpr rfl)
    by_cases hr : rail' = rail
    · subst hr
      by_cases hempty : (refill now b).tokens < 1
      · refine ⟨refill now b, none, ?_, .refilled now hlo hhi, ?_, ?_⟩
        · simp [hlimiter, limiterAfter, acquire, hb, hempty, lookup_modify]
        · simp [hacquired, acquiredAfter, acquire, hb, hempty]
        · simp [Finds, canAcquire, hb, hempty]
      · -- the only call that lets anything through
        have htoken : 1 ≤ (refill now b).tokens := not_lt.mp hempty
        refine ⟨spend (refill now b), some now, ?_, .spent now hlo hhi htoken, ?_, ?_⟩
        · simp [hlimiter, limiterAfter, acquire, hb, hempty, lookup_modify, spend]
        · simp [hacquired, acquiredAfter, acquire, hb, hempty, acquiredAt_cons]
        · intro t
          constructor
          · intro ht
            obtain rfl := Option.some.inj ht
            exact ⟨rfl, by simpa [canAcquire, hb] using htoken⟩
          · rintro ⟨heq, -⟩
            rw [(Operation.acquire.inj heq).2]
    · -- another rail's bucket
      refine ⟨b, none, ?_, .untouched, ?_, ?_⟩
      · rw [hlimiter]
        cases hb' : x.limiter.lookup rail' with
        | none => simpa [limiterAfter, acquire, hb'] using hb
        | some b' =>
          simp only [limiterAfter, acquire, hb']
          split
          · simp [lookup_modify, hb, Ne.symm hr]
          · simp [lookup_modify, hb, Ne.symm hr]
      · rw [hacquired, acquiredAfter]
        cases (acquire rail' now x.limiter).1 with
        | error e => rfl
        | ok _ => simp [acquiredAt_cons, hr]
      · simp [Finds, hr]
  | canAcquire rail' now =>
    obtain ⟨hlo, hhi⟩ := hread now (List.mem_singleton.mpr rfl)
    have hnone : ∀ t, none = some t ↔ Finds rail t x.limiter (.canAcquire rail' now) := by
      simp [Finds]
    by_cases hr : rail' = rail
    · subst hr
      refine ⟨refill now b, none, ?_, .refilled now hlo hhi, hacquired ▸ rfl, hnone⟩
      simp [hlimiter, limiterAfter, canAcquire, hb, lookup_modify]
    · refine ⟨b, none, ?_, .untouched, hacquired ▸ rfl, hnone⟩
      rw [hlimiter]
      cases hb' : x.limiter.lookup rail' with
      | none => simpa [limiterAfter, canAcquire, hb'] using hb
      | some b' => simp [limiterAfter, canAcquire, hb', lookup_modify, hb, Ne.symm hr]
  | getStatus now =>
    obtain ⟨hlo, hhi⟩ := hread (now rail) (List.mem_map.mpr ⟨(rail, b), mem_of_lookup hb, rfl⟩)
    refine ⟨refill (now rail) b, none, ?_, .refilled (now rail) hlo hhi, hacquired ▸ rfl, ?_⟩
    · rw [hlimiter, limiterAfter, getStatus]
      simp only [lookup_map (fun r b => refill (now r) b), hb, Option.map_some]
    · simp [Finds]

/-! ### The bound of a token bucket -/

/-- The bucket, as one of the library. -/
def TokenBucket.toBucket (b : TokenBucket) : Bucket ℚ :=
  ⟨b.maxTokens, b.refillRatePerMs, b.tokens, b.lastRefillAt⟩

theorem toBucket_refill {t : ℚ} (hb : b.toBucket.Bounded) (ht : b.lastRefillAt ≤ t) :
    (refill t b).toBucket = b.toBucket.advance t := by
  rcases ht.eq_or_lt with rfl | hlt
  · have hsame : refill b.lastRefillAt b = b := by simp [refill]
    rw [hsame]
    exact (Bucket.advance_self hb).symm
  · have helapsed : 0 < t - b.lastRefillAt := sub_pos.mpr hlt
    rw [refill, if_pos helapsed]
    rfl

/-- How many of the times lie between `s` and `e`. -/
def between (s e : ℚ) (times : List ℚ) : ℕ := times.countP fun a => decide (s ≤ a ∧ a ≤ e)

theorem between_append (s e : ℚ) (l l' : List ℚ) :
    between s e (l ++ l') = between s e l + between s e l' := List.countP_append

/-- What a call keeps of a bucket that is as it should be. -/
structure Kept (lo hi : ℚ) (b b' : TokenBucket) (passed : Option ℚ) : Prop where
  maxTokens : b'.maxTokens = b.maxTokens
  refillRatePerMs : b'.refillRatePerMs = b.refillRatePerMs
  past : b'.lastRefillAt ≤ hi
  bounded : b'.toBucket.Bounded
  accounts : ∀ s e n, b.toBucket.Accounts s e n →
    b'.toBucket.Accounts s e (n + between s e passed.toList)

theorem maxTokens_refill (t : ℚ) : (refill t b).maxTokens = b.maxTokens := by
  simp only [refill]
  split <;> rfl

theorem refillRatePerMs_refill (t : ℚ) : (refill t b).refillRatePerMs = b.refillRatePerMs := by
  simp only [refill]
  split <;> rfl

theorem BucketStep.kept {lo hi : ℚ} {b' : TokenBucket} {passed : Option ℚ}
    (h : BucketStep lo hi b b' passed) (hb : b.toBucket.Bounded) (hpast : b.lastRefillAt ≤ lo)
    (hle : lo ≤ hi) : Kept lo hi b b' passed := by
  cases h with
  | untouched => exact ⟨rfl, rfl, hpast.trans hle, hb, fun s e n hn => by simpa [between] using hn⟩
  | refilled t hlo hhi =>
    have hbucket := toBucket_refill hb (hpast.trans hlo)
    refine ⟨maxTokens_refill t, refillRatePerMs_refill t, ?_, ?_, ?_⟩
    · exact (congrArg Bucket.time hbucket).trans_le hhi
    · rw [hbucket]
      exact hb.advance (hpast.trans hlo)
    · intro s e n hn
      rw [hbucket]
      simpa [between] using hn.advance hb (hpast.trans hlo)
  | spent t hlo hhi htoken =>
    have hbucket : (spend (refill t b)).toBucket = (b.toBucket.advance t).take :=
      congrArg Bucket.take (toBucket_refill hb (hpast.trans hlo))
    have hlevel : 1 ≤ (b.toBucket.advance t).level := by
      rw [← toBucket_refill hb (hpast.trans hlo)]
      exact htoken
    refine ⟨maxTokens_refill t, refillRatePerMs_refill t, ?_, ?_, ?_⟩
    · exact (congrArg Bucket.time hbucket).trans_le hhi
    · rw [hbucket]
      exact (hb.advance (hpast.trans hlo)).take hlevel
    · intro s e n hn
      rw [hbucket]
      have hcount : n + (between s e (some t).toList : ℚ) =
          if s ≤ t ∧ t ≤ e then n + 1 else n := by
        by_cases hin : s ≤ t ∧ t ≤ e <;> simp [between, hin]
      rw [hcount]
      exact (hn.advance hb (hpast.trans hlo)).take hlevel

/-- The bucket of a rail, with the account of every stretch of time. -/
structure Tracked (rail : Text) (limit : RailRateLimit) (b : TokenBucket) (x : Limited) : Prop where
  lookup : x.limiter.lookup rail = some b
  maxTokens : b.maxTokens = limit.maxPerSecond
  refillRatePerMs : b.refillRatePerMs = limit.maxPerSecond / 1000
  past : b.lastRefillAt ≤ x.now
  bounded : b.toBucket.Bounded
  accounts : ∀ s e, b.toBucket.Accounts s e (between s e (acquiredAt rail x.acquired))

theorem now_le (h : Step x op y) : x.now ≤ y.now := by
  obtain ⟨hsorted, -, -⟩ := h
  rw [List.cons_append, List.pairwise_cons] at hsorted
  exact hsorted.1 y.now (List.mem_append_right _ (List.mem_singleton.mpr rfl))

theorem Tracked.step {limit : RailRateLimit} (h : Tracked rail limit b x) (hstep : Step x op y) :
    ∃ b', Tracked rail limit b' y := by
  obtain ⟨b', passed, hlookup, hbucket, hacquired, -⟩ := step_bucket hstep h.lookup
  have hkept := hbucket.kept h.bounded h.past (now_le hstep)
  refine ⟨b', hlookup, hkept.maxTokens.trans h.maxTokens,
    hkept.refillRatePerMs.trans h.refillRatePerMs, hkept.past, hkept.bounded, fun s e => ?_⟩
  have haccounts := hkept.accounts s e _ (h.accounts s e)
  rw [hacquired, between_append, Nat.cast_add, add_comm]
  exact haccounts

/-- What is made of an entry of a table is looked up by the name of its rail. -/
theorem lookup_names {α β : Type} (f : Rail × α → β) {entries : List (Rail × α)}
    (hnodup : (entries.map Prod.fst).Nodup) {entry : Rail × α} (h : entry ∈ entries) :
    (entries.map fun entry => (js entry.1.name, f entry)).lookup (js entry.1.name) =
      some (f entry) := by
  induction entries with
  | nil => cases h
  | cons e entries ih =>
    rw [List.map_cons, List.nodup_cons] at hnodup
    rcases List.mem_cons.mp h with rfl | h
    · simp
    · have hne : js entry.1.name ≠ js e.1.name := fun heq =>
        hnodup.1 (Rail.name_injective (js_injective heq) ▸ List.mem_map_of_mem h)
      rw [List.map_cons, List.lookup_cons, beq_eq_false_iff_ne.mpr hne]
      exact ih hnodup.2 h

/-- The bucket that a rail starts with. -/
def fullBucket (limit : RailRateLimit) (now : ℚ) : TokenBucket where
  tokens := limit.maxPerSecond
  maxTokens := limit.maxPerSecond
  refillRatePerMs := limit.maxPerSecond / 1000
  lastRefillAt := now

theorem lookup_newRateLimiter {rail : Rail} {limit : RailRateLimit}
    (h : (rail, limit) ∈ railRateLimits) (now : Text → ℚ) :
    (newRateLimiter now).lookup (js rail.name) = some (fullBucket limit (now (js rail.name))) :=
  lookup_names (fun entry => fullBucket entry.2 (now (js entry.1.name))) (by decide) h

theorem bounded_fullBucket (limit : RailRateLimit) (now : ℚ) :
    (fullBucket limit now).toBucket.Bounded where
  rate_nonneg := div_nonneg (Nat.cast_nonneg' limit.maxPerSecond) (by norm_num)
  level_nonneg := Nat.cast_nonneg' limit.maxPerSecond
  level_le := le_rfl

theorem Tracked.init {rail : Rail} {limit : RailRateLimit} (h : (rail, limit) ∈ railRateLimits)
    (hmade : Made x) : ∃ b, Tracked (js rail.name) limit b x := by
  obtain ⟨hacquired, now, hlimiter, hsorted⟩ := hmade
  have hbounded := bounded_fullBucket limit (now (js rail.name))
  refine ⟨fullBucket limit (now (js rail.name)), hlimiter ▸ lookup_newRateLimiter h now, rfl, rfl,
    ?_, hbounded, fun s e => ?_⟩
  · rw [List.pairwise_append] at hsorted
    exact hsorted.2.2 _ (List.mem_map.mpr ⟨(rail, limit), h, rfl⟩) _ (List.mem_singleton.mpr rfl)
  · rw [hacquired]
    simpa [between, acquiredAt] using Bucket.Accounts.start hbounded

theorem Tracked.of_run {rail : Rail} {limit : RailRateLimit} (h : (rail, limit) ∈ railRateLimits)
    (hmade : Made x) {path : List (Transition Limited Operation)} (hrun : Step.Run x path y) :
    ∃ b, Tracked (js rail.name) limit b y :=
  LTS.Run.invariant (I := fun y => ∃ b, Tracked (js rail.name) limit b y) (Tracked.init h hmade)
    (fun _ _ _ htracked hstep => htracked.elim fun _ hb => hb.step hstep) hrun

/-- **The bound of a rail's bucket**: no stretch of time lets more calls through than a second's
limit and what the stretch refills; and the tokens are between none and a second's limit. -/
theorem acquired_le {rail : Rail} {limit : RailRateLimit} (h : (rail, limit) ∈ railRateLimits)
    (hmade : Made x) {path : List (Transition Limited Operation)} (hrun : Step.Run x path y) :
    (∀ s e, s ≤ e → (between s e (acquiredAt (js rail.name) y.acquired) : ℚ) ≤
        limit.maxPerSecond + (e - s) * limit.maxPerSecond / 1000) ∧
      ∃ b, y.limiter.lookup (js rail.name) = some b ∧ 0 ≤ b.tokens ∧
        b.tokens ≤ limit.maxPerSecond := by
  obtain ⟨b, htracked⟩ := Tracked.of_run h hmade hrun
  constructor
  · intro s e hse
    have hserved := (htracked.accounts s e).served_le htracked.bounded.rate_nonneg hse
    change _ ≤ b.maxTokens + (e - s) * b.refillRatePerMs at hserved
    rwa [htracked.maxTokens, htracked.refillRatePerMs, ← mul_div_assoc] at hserved
  · refine ⟨b, htracked.lookup, htracked.bounded.level_nonneg, ?_⟩
    rw [← htracked.maxTokens]
    exact htracked.bounded.level_le

/-! ### The limit per minute -/

/-- In no minute of the run were more calls let through on the rail than its limit per minute. -/
def KeepsPerMinute (rail : Rail) (limit : RailRateLimit) (y : Limited) : Prop :=
  ∀ t, within 60000 t (acquiredAt (js rail.name) y.acquired) ≤ limit.maxPerMinute

/-! A rail whose bucket is emptied every second lets a second's limit through each time. -/

/-- A bucket of the limit that holds `n` tokens at `t`. -/
def holding (limit : RailRateLimit) (n : ℕ) (t : ℚ) : TokenBucket where
  tokens := n
  maxTokens := limit.maxPerSecond
  refillRatePerMs := limit.maxPerSecond / 1000
  lastRefillAt := t

theorem refill_holding (limit : RailRateLimit) (n : ℕ) (t : ℚ) :
    refill t (holding limit n t) = holding limit n t := by
  simp [refill, holding]

/-- A second refills the bucket. -/
theorem refill_second (limit : RailRateLimit) (t : ℚ) :
    refill (t + 1000) (holding limit 0 t) = holding limit limit.maxPerSecond (t + 1000) := by
  have hgain : (1000 : ℚ) * (limit.maxPerSecond / 1000) = limit.maxPerSecond := by ring
  simp [refill, holding, hgain]

theorem exists_acquire {limit : RailRateLimit} {n : ℕ}
    (h : x.limiter.lookup rail = some (holding limit (n + 1) x.now)) :
    ∃ op y, Step x op y ∧ y.now = x.now ∧ y.limiter.lookup rail = some (holding limit n x.now) ∧
      acquiredAt rail y.acquired = x.now :: acquiredAt rail x.acquired := by
  have hspend : spend (holding limit (n + 1) x.now) = holding limit n x.now := by
    simp [spend, holding]
  have hacquire : acquire rail x.now x.limiter =
      (.ok (), RateLimiter.modify rail (fun b => spend (refill x.now b)) x.limiter) := by
    have htoken : ¬ (holding limit (n + 1) x.now).tokens < 1 := by simp [holding]
    simp only [acquire, h, refill_holding, htoken, ↓reduceIte]
    rfl
  refine ⟨.acquire rail x.now,
    ⟨limiterAfter x.limiter (.acquire rail x.now), x.now,
      acquiredAfter x.acquired x.limiter (.acquire rail x.now)⟩,
    ⟨by simp [Operation.readings], rfl, rfl⟩, rfl, ?_, ?_⟩
  · simp [limiterAfter, hacquire, lookup_modify, h, refill_holding, hspend]
  · simp [acquiredAfter, hacquire, acquiredAt_cons]

theorem exists_burst {limit : RailRateLimit} {n : ℕ}
    (h : x.limiter.lookup rail = some (holding limit n x.now)) :
    ∃ path y, Step.Run x path y ∧ y.now = x.now ∧
      y.limiter.lookup rail = some (holding limit 0 x.now) ∧
      acquiredAt rail y.acquired = List.replicate n x.now ++ acquiredAt rail x.acquired := by
  induction n generalizing x with
  | zero => exact ⟨[], x, .nil, rfl, h, rfl⟩
  | succ n ih =>
    obtain ⟨op, y, hstep, hnow, hlookup, hacquired⟩ := exists_acquire h
    obtain ⟨path, z, hrun, hnow', hlookup', hacquired'⟩ := ih (x := y) (hnow ▸ hlookup)
    rw [hnow] at hnow' hlookup' hacquired'
    refine ⟨_, z, hrun.cons hstep, hnow', hlookup', ?_⟩
    rw [hacquired', hacquired, List.replicate_succ', List.append_assoc, List.singleton_append]

/-- Emptied every second for `k` seconds, the bucket lets a second's limit through `k + 1` times. -/
theorem exists_bursts {limit : RailRateLimit}
    (h : x.limiter.lookup rail = some (holding limit limit.maxPerSecond 0)) (hnow : x.now = 0)
    (hnone : acquiredAt rail x.acquired = []) (k : ℕ) :
    ∃ path y, Step.Run x path y ∧ y.now = 1000 * k ∧
      y.limiter.lookup rail = some (holding limit 0 (1000 * k)) ∧
      (acquiredAt rail y.acquired).length = (k + 1) * limit.maxPerSecond ∧
      ∀ a ∈ acquiredAt rail y.acquired, 0 ≤ a ∧ a ≤ 1000 * k := by
  induction k with
  | zero =>
    obtain ⟨path, y, hrun, hnow', hlookup, hacquired⟩ := exists_burst (hnow ▸ h)
    rw [hnow] at hnow' hlookup hacquired
    refine ⟨path, y, hrun, by simpa using hnow', by simpa using hlookup, ?_, ?_⟩
    · simp [hacquired, hnone]
    · simp [hacquired, hnone]
  | succ k ih =>
    obtain ⟨path, y, hrun, hnow', hlookup, hlength, hbounds⟩ := ih
    -- a look at the bucket after a second refills it
    set t : ℚ := 1000 * k + 1000 with ht
    have hlook : Step y (.canAcquire rail t)
        ⟨limiterAfter y.limiter (.canAcquire rail t), t, y.acquired⟩ := by
      refine ⟨?_, rfl, rfl⟩
      simp [Operation.readings, hnow', ht]
    have hfull : (limiterAfter y.limiter (.canAcquire rail t)).lookup rail =
        some (holding limit limit.maxPerSecond t) := by
      simp [limiterAfter, canAcquire, hlookup, lookup_modify, refill_second, ht]
    obtain ⟨path', z, hrun', hnow'', hlookup', hacquired⟩ := exists_burst
      (x := ⟨limiterAfter y.limiter (.canAcquire rail t), t, y.acquired⟩) hfull
    have hsucc : (1000 : ℚ) * ((k + 1 : ℕ) : ℚ) = t := by
      rw [ht]
      push_cast
      ring
    rw [hsucc]
    refine ⟨_, z, hrun.append (hrun'.cons hlook), hnow'', hlookup', ?_, ?_⟩
    · rw [hacquired, List.length_append, List.length_replicate, hlength]
      ring
    · intro a ha
      rw [hacquired, List.mem_append, List.mem_replicate] at ha
      rcases ha with ⟨-, rfl⟩ | ha
      · exact ⟨by positivity, le_rfl⟩
      · exact ⟨(hbounds a ha).1, (hbounds a ha).2.trans (by linarith)⟩

/-- A minute in which a rail lets sixty times a second's limit through. -/
theorem exists_minute {rail : Rail} {limit : RailRateLimit} (h : (rail, limit) ∈ railRateLimits) :
    ∃ x y path, Made x ∧ Step.Run x path y ∧
      within 60000 0 (acquiredAt (js rail.name) y.acquired) = 60 * limit.maxPerSecond := by
  have hmade : Made ⟨newRateLimiter fun _ => 0, 0, []⟩ := by
    refine ⟨rfl, fun _ => 0, rfl, ?_⟩
    simp [railRateLimits]
  obtain ⟨path, y, hrun, -, -, hlength, hbounds⟩ := exists_bursts
    (x := ⟨newRateLimiter fun _ => 0, 0, []⟩) (lookup_newRateLimiter h fun _ => 0) rfl rfl 59
  refine ⟨_, y, path, hmade, hrun, ?_⟩
  rw [← hlength, within, List.countP_eq_length]
  intro a ha
  obtain ⟨hlo, hhi⟩ := hbounds a ha
  refine decide_eq_true ⟨hlo, hhi.trans_lt ?_⟩
  norm_num

/-- **No rail keeps to its limit per minute**: a second's limit sixty times is more, for each of
them. -/
theorem perMinute_exceeded {rail : Rail} {limit : RailRateLimit}
    (h : (rail, limit) ∈ railRateLimits) :
    ¬ ∀ x y path, Made x → Step.Run x path y → KeepsPerMinute rail limit y := by
  intro hall
  obtain ⟨x, y, path, hmade, hrun, hcount⟩ := exists_minute h
  have hkeeps := hall x y path hmade hrun 0
  rw [hcount] at hkeeps
  have hmore : ∀ entry ∈ railRateLimits, entry.2.maxPerMinute < 60 * entry.2.maxPerSecond := by
    decide
  exact absurd hkeeps (not_le.mpr (hmore (rail, limit) h))

end

/-! ### Calls for PIX -/

namespace Example

/-- A limiter made at the time zero. -/
def made : Limited := ⟨newRateLimiter fun _ => 0, 0, []⟩

/-- The first call for PIX, five milliseconds later. -/
def first : Operation := .acquire (js "PIX") 5

def afterFirst : Limited where
  limiter := limiterAfter made.limiter first
  now := 7
  acquired := acquiredAfter made.acquired made.limiter first

theorem made_made : Made made := by
  refine ⟨rfl, fun _ => 0, rfl, ?_⟩
  simp [railRateLimits, made]

theorem run_first : Step.Run made [⟨made, first, afterFirst⟩] afterFirst := by
  refine LTS.Run.single ⟨?_, rfl, rfl⟩
  norm_num [Operation.readings, made, first, afterFirst]

end Example

/-- The first call is within the bound. -/
theorem acquired_le_first :
    (between 0 10 (acquiredAt (js "PIX") Example.afterFirst.acquired) : ℚ) ≤ 20 + (10 - 0) * 20 / 1000 ∧
      ∃ b, Example.afterFirst.limiter.lookup (js "PIX") = some b ∧ 0 ≤ b.tokens ∧ b.tokens ≤ 20 := by
  have hpix : ((.pix, ⟨600, 20⟩) : Rail × RailRateLimit) ∈ railRateLimits := by decide
  have hle := acquired_le hpix Example.made_made Example.run_first
  exact ⟨hle.1 0 10 (by norm_num), hle.2⟩

/-- Twenty calls for PIX in each second of a minute are all let through, twice the limit. -/
theorem pix_over_limit :
    (∃ x y path, Made x ∧ Step.Run x path y ∧
        within 60000 0 (acquiredAt (js "PIX") y.acquired) = 1200) ∧
      (.pix, ⟨600, 20⟩) ∈ railRateLimits ∧
      ¬ ∀ x y path, Made x → Step.Run x path y → KeepsPerMinute .pix ⟨600, 20⟩ y := by
  have hpix : ((.pix, ⟨600, 20⟩) : Rail × RailRateLimit) ∈ railRateLimits := by decide
  obtain ⟨x, y, path, hmade, hrun, hcount⟩ := exists_minute hpix
  refine ⟨⟨x, y, path, hmade, hrun, hcount⟩, hpix, fun hall => ?_⟩
  have hkeeps := hall x y path hmade hrun 0
  rw [hcount] at hkeeps
  exact absurd hkeeps (by decide)

/-- Nor does SPEI keep to its limit. -/
theorem perMinute_exceeded_spei :
    ¬ ∀ x y path, Made x → Step.Run x path y → KeepsPerMinute .spei ⟨300, 10⟩ y :=
  perMinute_exceeded (by decide)

end MipitCore.Resilience
