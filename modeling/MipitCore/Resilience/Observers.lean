import MipitCore.Resilience.RateLimiter

/-!
# Observers of the rate limiter

`canAcquire` and `getStatus` are there to look, but they write: they refill the buckets and
move the time of their last refill. What they write cannot be told by anybody: a bucket that is
refilled in parts is, from then on, what it would be had it been refilled at once.

So two runs with the same calls of `acquire`, at the same times, answer each of them alike,
whoever looks at the limiter in between. The proof compares each run with the one in which
nobody looks.

## Main definitions

* `seenAt` — the bucket of a rail as the next call will find it
* `acquires`, `outcomes` — the calls of `acquire` in a run, and their outcomes
* `acquireAll` — the calls without anybody looking

## Main results

* `seenAt_step` — a call that takes no token cannot be told from none
* `Watched.step` — a call leaves the limiter as if nobody had looked
* `outcomes_eq`
-/

namespace MipitCore.Resilience

open Js Foundation

/-- The bucket of `rail`, refilled at `t`. -/
def seenAt (t : ℚ) (rail : Text) (limiter : RateLimiter) : Option TokenBucket :=
  (limiter.lookup rail).map (refill t)

/-- The calls of `acquire` in a run, with what the clock read. -/
def acquires (path : List (Transition Limited Operation)) : List (Text × ℚ) :=
  path.filterMap fun e =>
    match e.label with
    | .acquire rail now => some (rail, now)
    | _ => none

/-- The outcomes of the calls of `acquire` in a run. -/
def outcomes (path : List (Transition Limited Operation)) :
    List (Except RateLimitExceededError Unit) :=
  path.filterMap fun e =>
    match e.label with
    | .acquire rail now => some (acquire rail now e.source.limiter).1
    | _ => none

/-- Calls of `acquire` one after the other. -/
def acquireAll : List (Text × ℚ) → RateLimiter →
    List (Except RateLimitExceededError Unit) × RateLimiter
  | [], limiter => ([], limiter)
  | (rail, now) :: calls, limiter =>
    let (outcome, limiter) := acquire rail now limiter
    let (outcomes, limiter) := acquireAll calls limiter
    (outcome :: outcomes, limiter)

/-- From `now` on, the limiters cannot be told apart. -/
def SeenAlike (now : ℚ) (limiter limiter' : RateLimiter) : Prop :=
  ∀ rail t, now ≤ t → seenAt t rail limiter = seenAt t rail limiter'

/-- The buckets are as they should be, and none was refilled after `now`. -/
def Sane (now : ℚ) (limiter : RateLimiter) : Prop :=
  ∀ rail b, limiter.lookup rail = some b → b.toBucket.Bounded ∧ b.lastRefillAt ≤ now

section

variable {rail : Text} {limiter limiter' : RateLimiter} {b : TokenBucket} {x y : Limited}
  {op : Operation} {now t : ℚ} {calls : List (Text × ℚ)}

/-! ### Refills in parts -/

theorem toBucket_injective : Function.Injective TokenBucket.toBucket := by
  rintro ⟨tokens, maxTokens, rate, last⟩ ⟨tokens', maxTokens', rate', last'⟩ h
  obtain ⟨rfl, rfl, rfl, rfl⟩ := Bucket.mk.inj h
  rfl

/-- **A bucket that is refilled on the way is the same at the end.** -/
theorem refill_refill (hb : b.toBucket.Bounded) (hnow : b.lastRefillAt ≤ now) (ht : now ≤ t) :
    refill t (refill now b) = refill t b := by
  have hrefilled := toBucket_refill hb hnow
  have hbounded : (refill now b).toBucket.Bounded := by
    rw [hrefilled]
    exact hb.advance hnow
  have hlast : (refill now b).lastRefillAt ≤ t := (congrArg Bucket.time hrefilled).trans_le ht
  apply toBucket_injective
  calc (refill t (refill now b)).toBucket
      = (refill now b).toBucket.advance t := toBucket_refill hbounded hlast
    _ = (b.toBucket.advance now).advance t := by rw [hrefilled]
    _ = b.toBucket.advance t := Bucket.advance_advance hb ht
    _ = (refill t b).toBucket := (toBucket_refill hb (hnow.trans ht)).symm

theorem seenAt_modify (rail' : Text) (f : TokenBucket → TokenBucket) :
    seenAt t rail (RateLimiter.modify rail' f limiter) =
      (limiter.lookup rail).map fun b => refill t (if rail = rail' then f b else b) := by
  rw [seenAt, lookup_modify, Option.map_map]
  rfl

/-! ### Looking -/

theorem lookup_limiterAfter_none (h : limiter.lookup rail = none) :
    (limiterAfter limiter op).lookup rail = none := by
  cases op with
  | acquire rail' now =>
    cases hb : limiter.lookup rail' with
    | none => simpa only [limiterAfter, acquire, hb] using h
    | some b =>
      simp only [limiterAfter, acquire, hb]
      split_ifs
      · rw [lookup_modify, h, Option.map_none]
      · rw [lookup_modify, h, Option.map_none]
  | canAcquire rail' now =>
    cases hb : limiter.lookup rail' with
    | none => simpa only [limiterAfter, canAcquire, hb] using h
    | some b => simp only [limiterAfter, canAcquire, hb, lookup_modify, h, Option.map_none]
  | getStatus clock =>
    simp only [limiterAfter, getStatus]
    rw [lookup_map (fun rail b => refill (clock rail) b), h, Option.map_none]

/-- `canAcquire` says whether `acquire` would succeed now. -/
theorem canAcquire_iff (rail : Text) (now : ℚ) (limiter : RateLimiter) :
    (canAcquire rail now limiter).1 = true ↔ (acquire rail now limiter).1 = .ok () := by
  cases hb : limiter.lookup rail with
  | none => simp only [canAcquire, acquire, hb]
  | some b =>
    simp only [canAcquire, acquire, hb, decide_eq_true_eq]
    split_ifs with hempty
    · exact iff_of_false (not_le.mpr hempty) (by simp)
    · exact iff_of_true (not_lt.mp hempty) rfl

/-- **A call that takes no token of a rail leaves nothing behind that could be seen there.** -/
theorem seenAt_step (hsane : Sane x.now x.limiter) (hstep : Step x op y)
    (hop : ∀ now, op = .acquire rail now → ∃ err, (acquire rail now x.limiter).1 = .error err)
    (ht : y.now ≤ t) : seenAt t rail y.limiter = seenAt t rail x.limiter := by
  cases hb : x.limiter.lookup rail with
  | none =>
    have hb' : y.limiter.lookup rail = none := hstep.2.1 ▸ lookup_limiterAfter_none hb
    rw [seenAt, seenAt, hb, hb']
  | some b =>
    obtain ⟨hbounded, hpast⟩ := hsane rail b hb
    obtain ⟨b', passed, hb', hbucket, -, hfinds⟩ := step_bucket hstep hb
    rw [seenAt, seenAt, hb, hb', Option.map_some, Option.map_some]
    cases hbucket with
    | untouched => rfl
    | refilled now hlo hhi => rw [refill_refill hbounded (hpast.trans hlo) (hhi.trans ht)]
    | spent now hlo hhi htoken =>
      -- only a call that was let through spends a token
      obtain ⟨hacquire, hcan⟩ := (hfinds now).mp rfl
      obtain ⟨err, herr⟩ := hop now hacquire
      rw [(canAcquire_iff rail now x.limiter).mp hcan] at herr
      cases herr

theorem alike_observer (hsane : Sane x.now x.limiter) (hstep : Step x op y)
    (hobserver : ∀ rail now, op ≠ .acquire rail now) : SeenAlike y.now y.limiter x.limiter :=
  fun rail _ ht => seenAt_step hsane hstep (fun now hop => absurd hop (hobserver rail now)) ht

/-! ### Acquiring -/

/-- **What `acquire` answers, and what it leaves, is decided by the bucket that it sees.** -/
theorem acquire_congr (rail : Text) (h : SeenAlike now limiter limiter') :
    (acquire rail now limiter).1 = (acquire rail now limiter').1 ∧
      SeenAlike now (acquire rail now limiter).2 (acquire rail now limiter').2 := by
  have hseen := h rail now le_rfl
  cases hb : limiter.lookup rail with
  | none =>
    have hb' : limiter'.lookup rail = none := by
      rw [seenAt, seenAt, hb, Option.map_none] at hseen
      exact Option.map_eq_none_iff.mp hseen.symm
    simp only [acquire, hb, hb']
    exact ⟨trivial, h⟩
  | some b =>
    obtain ⟨b', hb', hsame⟩ : ∃ b', limiter'.lookup rail = some b' ∧ refill now b' = refill now b := by
      rw [seenAt, seenAt, hb, Option.map_some] at hseen
      exact Option.map_eq_some_iff.mp hseen.symm
    -- the bucket of the rail is taken from what is seen of it now, the others are left alone
    have hmodify : ∀ f : TokenBucket → TokenBucket, SeenAlike now
        (RateLimiter.modify rail (fun b => f (refill now b)) limiter)
        (RateLimiter.modify rail (fun b => f (refill now b)) limiter') := by
      intro f rail' t ht
      rw [seenAt_modify, seenAt_modify]
      by_cases hrail : rail' = rail
      · subst hrail
        simp only [hb, hb', Option.map_some, ↓reduceIte, hsame]
      · simp only [hrail, ↓reduceIte]
        exact h rail' t ht
    simp only [acquire, hb, hb', hsame]
    split_ifs
    · exact ⟨rfl, hmodify id⟩
    · exact ⟨rfl, hmodify fun b => { b with tokens := b.tokens - 1 }⟩

theorem acquireAll_snoc (calls : List (Text × ℚ)) (rail : Text) (now : ℚ) (limiter : RateLimiter) :
    acquireAll (calls ++ [(rail, now)]) limiter =
      ((acquireAll calls limiter).1 ++ [(acquire rail now (acquireAll calls limiter).2).1],
        (acquire rail now (acquireAll calls limiter).2).2) := by
  induction calls generalizing limiter with
  | nil => rfl
  | cons call calls ih =>
    obtain ⟨rail', now'⟩ := call
    simp only [List.cons_append, acquireAll, ih]

/-! ### Runs -/

theorem Sane.step (h : Sane x.now x.limiter) (hstep : Step x op y) : Sane y.now y.limiter := by
  intro rail b' hb'
  cases hb : x.limiter.lookup rail with
  | none =>
    rw [hstep.2.1, lookup_limiterAfter_none hb] at hb'
    cases hb'
  | some b =>
    obtain ⟨hbounded, hpast⟩ := h rail b hb
    obtain ⟨b'', passed, hlookup, hbucket, -, -⟩ := step_bucket hstep hb
    obtain rfl : b'' = b' := Option.some.inj (hlookup.symm.trans hb')
    have hkept := hbucket.kept hbounded hpast (now_le hstep)
    exact ⟨hkept.bounded, hkept.past⟩

/-- A limiter that has just been made. -/
theorem Made.sane (h : Made x) : Sane x.now x.limiter := by
  obtain ⟨-, now, hlimiter, hsorted⟩ := h
  intro rail b hb
  rw [hlimiter] at hb
  obtain ⟨⟨configured, limit⟩, hmem, heq⟩ := List.mem_map.mp (mem_of_lookup hb)
  obtain ⟨rfl, rfl⟩ := Prod.mk.inj heq
  refine ⟨bounded_fullBucket limit (now (js configured.name)), ?_⟩
  rw [List.pairwise_append] at hsorted
  exact hsorted.2.2 _ (List.mem_map.mpr ⟨_, hmem, rfl⟩) _ (List.mem_singleton.mpr rfl)

/-- A run, beside the one in which nobody looks. -/
structure Watched (start : RateLimiter) (path : List (Transition Limited Operation)) (y : Limited) :
    Prop where
  sane : Sane y.now y.limiter
  answered : outcomes path = (acquireAll (acquires path) start).1
  alike : SeenAlike y.now y.limiter (acquireAll (acquires path) start).2

theorem SeenAlike.mono (h : SeenAlike now limiter limiter') (hle : now ≤ t) :
    SeenAlike t limiter limiter' :=
  fun rail _ ht => h rail _ (hle.trans ht)

theorem Watched.step {start : RateLimiter} {path : List (Transition Limited Operation)}
    (h : Watched start path x) (hstep : Step x op y) : Watched start (path ++ [⟨x, op, y⟩]) y := by
  have hsane := h.sane.step hstep
  -- an observer adds no call and no outcome, and what it writes cannot be seen
  have hobserver : (∀ rail now, op ≠ .acquire rail now) →
      acquires (path ++ [⟨x, op, y⟩]) = acquires path →
      outcomes (path ++ [⟨x, op, y⟩]) = outcomes path → Watched start (path ++ [⟨x, op, y⟩]) y := by
    intro hop hcalls houtcomes
    refine ⟨hsane, by rw [hcalls, houtcomes, h.answered], fun rail t ht => ?_⟩
    rw [hcalls, alike_observer h.sane hstep hop rail t ht]
    exact h.alike rail t ((now_le hstep).trans ht)
  cases op with
  | acquire rail now =>
    obtain ⟨hlo, hhi⟩ := readings_between hstep (List.mem_singleton.mpr rfl)
    -- the limiter that nobody looks at shows `acquire` the same bucket
    obtain ⟨houtcome, hafter⟩ := acquire_congr rail (h.alike.mono hlo)
    have hcalls : acquires (path ++ [⟨x, .acquire rail now, y⟩]) = acquires path ++ [(rail, now)] :=
      List.filterMap_append
    have houtcomes : outcomes (path ++ [⟨x, .acquire rail now, y⟩]) =
        outcomes path ++ [(acquire rail now x.limiter).1] := List.filterMap_append
    refine ⟨hsane, ?_, ?_⟩
    · rw [hcalls, houtcomes, acquireAll_snoc, h.answered, houtcome]
    · rw [hcalls, acquireAll_snoc, hstep.2.1]
      exact hafter.mono hhi
  | canAcquire rail now =>
    refine hobserver (by simp) ?_ ?_
    · exact List.filterMap_append.trans (List.append_nil _)
    · exact List.filterMap_append.trans (List.append_nil _)
  | getStatus clock =>
    refine hobserver (by simp) ?_ ?_
    · exact List.filterMap_append.trans (List.append_nil _)
    · exact List.filterMap_append.trans (List.append_nil _)

theorem Watched.of_run (hmade : Made x) {path : List (Transition Limited Operation)}
    (hrun : Step.Run x path y) : Watched x.limiter path y :=
  hrun.induct (I := Watched x.limiter) ⟨hmade.sane, rfl, fun _ _ _ => rfl⟩
    fun _ _ _ _ _ hpath hstep => hpath.step hstep

/-- **Observers do not interfere.** Two runs of a limiter with the same calls of `acquire`, whoever
looks at it in between, have the same outcomes; and `canAcquire` says what `acquire` would do. -/
theorem outcomes_eq {y' : Limited} {path path' : List (Transition Limited Operation)}
    (hmade : Made x) (hrun : Step.Run x path y) (hrun' : Step.Run x path' y')
    (hcalls : acquires path = acquires path') :
    outcomes path = outcomes path' ∧
      ∀ rail now limiter,
        (canAcquire rail now limiter).1 = true ↔ (acquire rail now limiter).1 = .ok () := by
  have hwatched := Watched.of_run hmade hrun
  have hwatched' := Watched.of_run hmade hrun'
  exact ⟨by rw [hwatched.answered, hwatched'.answered, hcalls], canAcquire_iff⟩

end

namespace Example

/-- The limiter is looked at before the first call. -/
def look : Operation := .canAcquire (js "PIX") 3

def afterLook : Limited := ⟨limiterAfter made.limiter look, 3, made.acquired⟩

def afterBoth : Limited where
  limiter := limiterAfter afterLook.limiter first
  now := 7
  acquired := acquiredAfter made.acquired afterLook.limiter first

theorem run_look :
    Step.Run made [⟨made, look, afterLook⟩, ⟨afterLook, first, afterBoth⟩] afterBoth := by
  refine .cons ⟨?_, rfl, rfl⟩ (.single ⟨?_, rfl, rfl⟩)
  · norm_num [Operation.readings, made, look, afterLook]
  · norm_num [Operation.readings, afterLook, first, afterBoth]

end Example

theorem outcomes_eq_first :
    outcomes [⟨Example.made, Example.first, Example.afterFirst⟩] =
      outcomes [⟨Example.made, Example.look, Example.afterLook⟩,
        ⟨Example.afterLook, Example.first, Example.afterBoth⟩] :=
  (outcomes_eq Example.made_made Example.run_first Example.run_look rfl).1

end MipitCore.Resilience
