import Mathlib.Algebra.Order.Field.Rat
import Mathlib.Data.List.Range
import Mathlib.Tactic.NormNum
import Mathlib.Tactic.Ring
import MipitCore.Resilience.Loops

/-!
# How long the reconnector waits

Before each attempt a loop sleeps, for a time that doubles with the number of attempts and
has a random part. While there is one loop, the attempts of an outage are numbered one by
one, and there are no more of them than the options allow. The random part is less than
what the next doubling adds, so that whatever is drawn, no delay is shorter than the one
before it.

## Main definitions

* `Delays`, `calculateDelay`
* `beginsSleep`, `sleeps`, `delays` — what a run waits
* `nextAttempt` — the number that the next sleep will have

## Main results

* `nextAttempt_step` — what an event does to it
* `calculateDelay_mono` — a later attempt waits no shorter
* `delays_grow` — **the delays of an outage**
-/

namespace MipitCore.Resilience.Reconnector

open Foundation

/-- The options that decide how long a loop sleeps. -/
structure Delays where
  baseMs : ℚ := 1000
  maxMs : ℚ := 30000

/-- `calculateDelay()`, given what `Math.random()` returns. -/
def calculateDelay (opts : Delays) (attempt : ℕ) (random : ℚ) : ℚ :=
  let exponential := opts.baseMs * 2 ^ attempt
  let jitter := random * opts.baseMs
  min (exponential + jitter) opts.maxMs

/-- A loop has come to its `sleep`. -/
def beginsSleep (e : Transition Reconnector Event) : Bool :=
  e.source.loops.count .sleep < e.target.loops.count .sleep

/-- The attempts that the loops of a run have calculated their delays for. -/
def sleeps (path : List (Transition Reconnector Event)) : List ℕ :=
  (path.filter beginsSleep).map fun e => e.target.attempt

/-- The delays of a run, given what `Math.random()` returns one time after the other. -/
def delays (opts : Delays) (random : List ℚ) (path : List (Transition Reconnector Event)) : List ℚ :=
  ((sleeps path).zip random).map fun x => calculateDelay opts x.1 x.2

/-- The number of the attempt that the next sleep comes before. -/
def nextAttempt (s : Reconnector) : ℕ :=
  if s.loops = [.sleep] then s.attempt + 1 else s.attempt

/-! ### Attempts -/

section Attempts

variable {opts : ReconnectOptions} {s t : Reconnector} {e : Event}

/-- What an event does to the count of attempts, when no channel is created: it begins the next
sleep, or leaves it to come. -/
structure Counts (opts : ReconnectOptions) (s : Reconnector) (e : Event) (t : Reconnector) :
    Prop where
  begins : beginsSleep ⟨s, e, t⟩ = true →
    t.attempt = s.nextAttempt ∧ t.nextAttempt = s.nextAttempt + 1 ∧ opts.mayRetry t.attempt = true
  leaves : beginsSleep ⟨s, e, t⟩ = false → t.nextAttempt = s.nextAttempt

/-- Loops that are as they were leave the count. -/
theorem Counts.of_loops (hloops : t.loops = s.loops) (hattempt : t.attempt = s.attempt) :
    Counts opts s e t := by
  refine ⟨fun h => ?_, fun _ => ?_⟩
  · simp [beginsSleep, hloops] at h
  · rw [nextAttempt, nextAttempt, hloops, hattempt]

/-- A loop that awaited something else comes to its next sleep, or gives up. -/
theorem Counts.retry {pc : Await} (hpc : pc ≠ .sleep) (hloops : s.loops = [pc]) :
    Counts opts s e (s.retry opts 0) := by
  have hnext : s.nextAttempt = s.attempt := by simp [nextAttempt, hloops, hpc]
  unfold Reconnector.retry
  split_ifs with hretry
  · refine ⟨fun _ => ?_, fun h => ?_⟩
    · simp [await, hloops, nextAttempt, hretry, hpc]
    · simp [beginsSleep, await, hloops, hpc] at h
  · refine ⟨fun h => ?_, fun _ => ?_⟩
    · simp [beginsSleep, finish, hloops] at h
    · simp [nextAttempt, finish, hloops, hpc]

/-- A rejected call of `amqplib` makes a loop retry, and no difference to `connect`. -/
theorem Counts.fail (hs : s.Inv) {who : Option ℕ} {pc : Await} (hpc : pc ≠ .sleep)
    (hwho : s.awaits who = some pc) : Counts opts s e (s.fail opts who) := by
  cases who with
  | none => exact .of_loops rfl rfl
  | some k =>
    obtain ⟨rfl, hloops⟩ := hs.loops_eq hwho
    exact .retry hpc hloops

/-- Where no loop is active, one begins with a sleep; it is not begun without attempts left. -/
theorem Counts.schedule (h : s.loops = [] ∨ opts.mayRetry s.attempt = false) :
    Counts opts s e (s.scheduleReconnect opts) := by
  unfold scheduleReconnect
  split_ifs with hflag hretry
  · exact .of_loops rfl rfl
  · have hloops : s.loops = [] := h.resolve_right (by simp [hretry])
    refine ⟨fun _ => ?_, fun h => ?_⟩
    · simp [hloops, nextAttempt, hretry]
    · simp [beginsSleep, hloops] at h
  · exact .of_loops rfl rfl

theorem Counts.congr {s' : Reconnector} (h : Counts opts s' e t) (hloops : s'.loops = s.loops)
    (hattempt : s'.attempt = s.attempt) : Counts opts s e t := by
  have hnext : s'.nextAttempt = s.nextAttempt := by rw [nextAttempt, nextAttempt, hloops, hattempt]
  have hbegins : beginsSleep ⟨s', e, t⟩ = beginsSleep ⟨s, e, t⟩ := by
    rw [beginsSleep, beginsSleep, hloops]
  exact ⟨fun hb => hnext ▸ h.begins (hbegins.trans hb), fun hb => hnext ▸ h.leaves (hbegins.trans hb)⟩

/-- **What an event does to the count of attempts**, while there is one loop at most. -/
theorem nextAttempt_step (hs : s.Inv) (h : Step opts s e t) (he : Orderly opts s e)
    (hlost : ∀ who, e ≠ .createChannel who true) : Counts opts s e t := by
  cases e with
  | slept k =>
    obtain ⟨hk, rfl⟩ := step_slept h
    obtain ⟨rfl, hloops⟩ := hs.loops_eq hk
    refine ⟨fun hb => ?_, fun _ => ?_⟩
    · simp [beginsSleep, await, hloops] at hb
    · simp [nextAttempt, await, hloops]
  | connect who result =>
    obtain ⟨hwho, ⟨rfl, rfl⟩ | ⟨c, rfl, -, rfl⟩⟩ := step_connect h
    · exact .fail hs (by simp) hwho
    · cases who with
      | none => exact .of_loops rfl rfl
      | some k =>
        obtain ⟨rfl, hloops⟩ := hs.loops_eq hwho
        refine ⟨fun hb => ?_, fun _ => ?_⟩
        · simp [beginsSleep, connected, await, hloops] at hb
        · simp [nextAttempt, connected, await, hloops]
  | createChannel who resolved =>
    obtain ⟨c, hwho, rfl⟩ := step_createChannel h
    cases resolved with
    | true => exact absurd rfl (hlost who)
    | false => exact .fail hs (by simp) hwho
  | onReconnect k resolved =>
    obtain ⟨hk, rfl⟩ := step_onReconnect h
    obtain ⟨rfl, hloops⟩ := hs.loops_eq hk
    cases resolved with
    | true =>
      refine ⟨fun hb => ?_, fun _ => ?_⟩
      · simp [beginsSleep, finish, hloops] at hb
      · simp [nextAttempt, finish, hloops]
    | false => exact .retry (by simp) hloops
  | close c =>
    obtain ⟨handlers, hc, rfl⟩ := step_close h
    have hlength := hs.handlers c _ hc
    cases handlers with
    | nil => exact .of_loops rfl rfl
    | cons handler handlers =>
      -- there is one handler at most
      obtain rfl : handlers = [] := by
        rw [List.length_cons] at hlength
        exact List.length_eq_zero_iff.mp (by omega)
      have hfree := (he _ hc).resolve_left (by simp)
      cases handler with
      | initial => exact (Counts.schedule (s := s.closed c [.initial]) hfree).congr rfl rfl
      | again =>
        exact (Counts.schedule (s := { s.closed c [.again] with reconnecting := false })
          hfree).congr rfl rfl

/-- **The attempts of an outage** are numbered one by one, from the one that comes next. -/
theorem sleeps_run (hs : s.Inv) {path : List (Transition Reconnector Event)}
    (h : (Step opts).Run s path t) (he : ∀ e ∈ path, Orderly opts e.source e.label)
    (hlost : ∀ e ∈ path, ∀ who, e.label ≠ .createChannel who true) :
    sleeps path = List.range' s.nextAttempt (sleeps path).length ∧
      ∀ n ∈ sleeps path, opts.mayRetry n = true := by
  have hrun : t.Inv ∧ t.nextAttempt = s.nextAttempt + (sleeps path).length ∧
      sleeps path = List.range' s.nextAttempt (sleeps path).length ∧
      ∀ n ∈ sleeps path, opts.mayRetry n = true := by
    induction h with
    | nil => exact ⟨hs, rfl, rfl, by simp [sleeps]⟩
    | @snoc path t u l hrun hstep ih =>
      rw [List.forall_mem_append, List.forall_mem_singleton] at he hlost
      obtain ⟨ht, hnext, hsleeps, hretry⟩ := ih he.1 hlost.1
      have hcounts := nextAttempt_step ht hstep he.2 hlost.2
      have hu := inv_step ht hstep he.2
      have happend : sleeps (path ++ [⟨t, l, u⟩]) =
          sleeps path ++ if beginsSleep ⟨t, l, u⟩ = true then [u.attempt] else [] := by
        by_cases hb : beginsSleep ⟨t, l, u⟩ = true <;> simp [sleeps, hb]
      cases hb : beginsSleep ⟨t, l, u⟩ with
      | false =>
        rw [hb, if_neg Bool.false_ne_true, List.append_nil] at happend
        rw [happend]
        exact ⟨hu, (hcounts.leaves hb).trans hnext, hsleeps, hretry⟩
      | true =>
        obtain ⟨hattempt, hnext', hmay⟩ := hcounts.begins hb
        rw [hb, if_pos rfl, hattempt, hnext] at happend
        rw [happend, List.length_append, List.length_singleton, List.range'_concat, ← hsleeps]
        refine ⟨hu, by omega, by simp, ?_⟩
        rw [List.forall_mem_append, List.forall_mem_singleton, ← hnext, ← hattempt]
        exact ⟨hretry, hmay⟩
  exact hrun.2.2

end Attempts

/-! ### Delays -/

section Waiting

variable {opts : ReconnectOptions} {d : Delays} {s t : Reconnector} {m n : ℕ} {x y : ℚ}
  {random : List ℚ} {before outage : List (Transition Reconnector Event)}

/-- A delay is at least the base, if the maximum is, and at most the maximum. -/
theorem calculateDelay_bounds (hbase : 0 ≤ d.baseMs) (hx : 0 ≤ x) :
    min d.baseMs d.maxMs ≤ calculateDelay d n x ∧ calculateDelay d n x ≤ d.maxMs := by
  have hpow : (1 : ℚ) ≤ 2 ^ n := one_le_pow₀ (by norm_num)
  have hjitter : 0 ≤ x * d.baseMs := mul_nonneg hx hbase
  refine ⟨min_le_min_right _ ?_, min_le_right _ _⟩
  calc d.baseMs = d.baseMs * 1 := (mul_one _).symm
    _ ≤ d.baseMs * 2 ^ n := mul_le_mul_of_nonneg_left hpow hbase
    _ ≤ d.baseMs * 2 ^ n + x * d.baseMs := le_add_of_nonneg_right hjitter

/-- **A later attempt waits no shorter**, whatever is drawn: the next doubling is more than the
random part. -/
theorem calculateDelay_mono (hbase : 0 ≤ d.baseMs) (hmn : m < n) (hx : x < 1) (hy : 0 ≤ y) :
    calculateDelay d m x ≤ calculateDelay d n y := by
  refine min_le_min_right _ ?_
  have hone : (1 : ℚ) ≤ 2 ^ m := one_le_pow₀ (by norm_num)
  have hpow : (2 : ℚ) ^ (m + 1) ≤ 2 ^ n := pow_le_pow_right₀ (by norm_num) hmn
  calc d.baseMs * 2 ^ m + x * d.baseMs
      ≤ d.baseMs * 2 ^ m + 1 * d.baseMs := by gcongr
    _ = d.baseMs * (2 ^ m + 1) := by ring
    _ ≤ d.baseMs * (2 ^ m + 2 ^ m) := by gcongr
    _ = d.baseMs * 2 ^ (m + 1) := by ring
    _ ≤ d.baseMs * 2 ^ n := by gcongr
    _ ≤ d.baseMs * 2 ^ n + y * d.baseMs := le_add_of_nonneg_right (mul_nonneg hy hbase)

theorem pairwise_delays (hbase : 0 ≤ d.baseMs) {attempts : List ℕ} (hlt : attempts.Pairwise (· < ·))
    (hrandom : ∀ x ∈ random, 0 ≤ x ∧ x < 1) :
    ((attempts.zip random).map fun x => calculateDelay d x.1 x.2).Pairwise (· ≤ ·) := by
  induction attempts generalizing random with
  | nil => exact .nil
  | cons m attempts ih =>
    cases random with
    | nil => exact .nil
    | cons x random =>
      rw [List.pairwise_cons] at hlt
      rw [List.forall_mem_cons] at hrandom
      refine List.pairwise_cons.mpr ⟨fun delay hdelay => ?_, ih hlt.2 hrandom.2⟩
      obtain ⟨⟨n, y⟩, hmem, rfl⟩ := List.mem_map.mp hdelay
      obtain ⟨hn, hy⟩ := List.of_mem_zip hmem
      exact calculateDelay_mono hbase (hlt.1 n hn) hrandom.1.2 (hrandom.2 y hy).1

end Waiting

/-! ### Two attempts that fail -/

namespace Example

/-- The service is connected, and the connection closes. -/
def connectedOnce : List (Transition Reconnector Event) × Reconnector :=
  LTS.follow (step ReconnectOptions.main) [.connect none (some 0), .createChannel none true] start

def failing : List (Transition Reconnector Event) × Reconnector :=
  LTS.follow (step ReconnectOptions.main)
    [.close 0, .slept 0, .connect (some 0) none, .slept 0, .connect (some 0) none] connectedOnce.2

/-- No loop connects, and only the connection of an idle reconnector closes. -/
def isQuiet (e : Transition Reconnector Event) : Bool :=
  match e.label with
  | .close _ => e.source.loops.isEmpty
  | .connect (some _) (some _) => false
  | _ => true

/-- No channel is created. -/
def isLost (e : Transition Reconnector Event) : Bool :=
  match e.label with
  | .createChannel _ true => false
  | _ => true

theorem orderly_of_isQuiet {opts : ReconnectOptions} {e : Transition Reconnector Event}
    (h : isQuiet e = true) : Orderly opts e.source e.label := by
  obtain ⟨s, l, t⟩ := e
  match l, h with
  | .close c, h => exact fun _ _ => Or.inr (Or.inl (List.isEmpty_iff.mp h))
  | .slept k, _ | .connect none result, _ | .connect (some k) none, _ | .createChannel who resolved, _
  | .onReconnect k resolved, _ => trivial

theorem ne_of_isLost {e : Transition Reconnector Event} (h : isLost e = true) (who : Option ℕ) :
    e.label ≠ .createChannel who true := by
  intro hlabel
  rw [isLost, hlabel] at h
  cases h

theorem isQuiet_failing : ∀ e ∈ connectedOnce.1 ++ failing.1, isQuiet e = true :=
  List.all_eq_true.mp (by decide)

theorem isLost_failing : ∀ e ∈ failing.1, isLost e = true := List.all_eq_true.mp (by decide)

end Example

end MipitCore.Resilience.Reconnector
