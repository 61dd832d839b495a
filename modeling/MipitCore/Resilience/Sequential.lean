import MipitCore.Resilience.CircuitBreaker

/-!
# A breaker whose calls come one after the other

Where each call of `execute` settles before the next one is made, and the clock is read once
for its outcome, a run is the list of its calls. What the breaker keeps of them is less than
their history: failures only as long as they are within the window of the latest failure, and
of the successes only their number. Of the failures this is enough. Whatever window is asked
for later holds the same of what was kept as of what has happened since the breaker was made or
last closed, so that without a rate the breaker opens exactly at its threshold.

## Main definitions

* `SequentialCall`, `Sequential` — a call, and a breaker with the calls since it last closed
* `Sequential.Step` — one call, from the time it is made until it has settled
* `failuresIn`, `succeeded` — the failures within the window, and all the successes
* `reaches`, `rateReached` — the two conditions under which a failure opens the breaker

## Main results

* `Sequential.guarded_of_run` — such runs are runs of the breaker among running calls
* `Accounted.of_run` — what is kept agrees with the history
* `opens_iff_threshold`
-/

namespace MipitCore.Resilience

open Js Foundation

/-- A call of `execute`: when it is made, and, if it is let through, whether its function fails and
what the clock reads then. -/
structure SequentialCall where
  startedAt : ℚ
  failed : Bool
  settledAt : ℚ

/-- The outcome of a call, and when it came. -/
structure Settlement where
  failed : Bool
  settledAt : ℚ
  deriving DecidableEq

def SequentialCall.settlement (call : SequentialCall) : Settlement :=
  ⟨call.failed, call.settledAt⟩

/-- The event by which the function of a running call settles. -/
def SequentialCall.report (call : SequentialCall) (running : ℕ) : CallEvent :=
  if call.failed then .failed running call.settledAt call.settledAt call.settledAt
  else .succeeded running

/-- The breaker after the function of a call has settled. -/
def CircuitBreaker.settle (call : SequentialCall) (breaker : CircuitBreaker) : CircuitBreaker :=
  if call.failed then breaker.onFailure call.settledAt call.settledAt call.settledAt
  else breaker.onSuccess

/-- A breaker, the time, and the calls that have settled since it was made or last closed. -/
structure Sequential where
  breaker : CircuitBreaker
  now : ℚ
  settled : List Settlement

namespace Sequential

/-- A call that is let through by what is now the breaker. -/
def settle (s : Sequential) (call : SequentialCall) (breaker : CircuitBreaker) : Sequential where
  breaker := breaker.settle call
  now := call.settledAt
  settled :=
    if breaker.state ≠ .closed ∧ (breaker.settle call).state = .closed then []
    else s.settled ++ [call.settlement]

/-- What a call does. A call that is refused has settled at once. -/
def after (s : Sequential) (call : SequentialCall) : Sequential :=
  match s.breaker.enter call.startedAt with
  | .error _ => { s with now := call.startedAt }
  | .ok breaker => s.settle call breaker

/-- One call. The clock never goes back. -/
def Step : LTS Sequential SequentialCall := fun s call t =>
  s.now ≤ call.startedAt ∧ call.startedAt ≤ call.settledAt ∧ t = s.after call

/-- A breaker that has just been made. -/
def New (s : Sequential) : Prop :=
  (∃ serviceName options, s.breaker = { serviceName, options }) ∧ s.settled = []

end Sequential

/-- Whether `a` is after `t - windowMs`. -/
def inWindow (windowMs : Number) (t a : ℚ) : Bool :=
  Number.lt (Number.add (.fin t) (Number.neg windowMs)) (.fin a)

/-- How many of the calls failed within the window that ends at `t`. -/
def failuresIn (windowMs : Number) (t : ℚ) (settled : List Settlement) : ℕ :=
  settled.countP fun call => call.failed && inWindow windowMs t call.settledAt

/-- How many of the calls succeeded. -/
def succeeded (settled : List Settlement) : ℕ := settled.countP fun call => !call.failed

/-- `count >= threshold` -/
def reaches (threshold : Number) (count : ℕ) : Bool := Number.le threshold (.fin count)

/-- There are ten calls, and the failure rate among them comes out at `rate` or more. -/
def rateReached (rate : Number) (failed succeeded : ℕ) : Bool :=
  10 ≤ succeeded + failed && Number.le rate (CircuitBreaker.failureRate failed (succeeded + failed))

section

variable {b b' : CircuitBreaker} {s t x y : Sequential} {call : SequentialCall} {now r : ℚ}
  {path : List (Transition Sequential SequentialCall)}

/-! ### The breaker in a call -/

/-- A call is let through by a breaker that is closed or, with this call, half open. -/
theorem enter_kept (h : b.enter now = .ok b') :
    b'.failures = b.failures ∧ b'.successes = b.successes ∧ b'.state ≠ .opened ∧
      (b.state = .closed → b' = b) := by
  unfold CircuitBreaker.enter at h
  split_ifs at h with hopened helapsed
  · obtain rfl := Except.ok.inj h
    refine ⟨rfl, rfl, ?_, fun hclosed => ?_⟩
    · simp [CircuitBreaker.transitionTo]
    · rw [hopened] at hclosed
      cases hclosed
  · obtain rfl := Except.ok.inj h
    exact ⟨rfl, rfl, hopened, fun _ => rfl⟩

/-- What a failure leaves of the failures, and that it leaves the successes. -/
theorem failures_onFailure (b : CircuitBreaker) (now : ℚ) :
    (b.onFailure now now now).failures =
        (b.failures ++ [now]).filter (inWindow b.options.windowMs now) ∧
      (b.onFailure now now now).successes = b.successes ∧
      (b.state ≠ .closed → (b.onFailure now now now).state ≠ .closed) := by
  have hopened : CircuitState.opened ≠ .closed := by decide
  rw [CircuitBreaker.onFailure]
  split_ifs with hhalf hopens
  · exact ⟨rfl, rfl, fun _ => hopened⟩
  · exact ⟨rfl, rfl, fun _ => hopened⟩
  · exact ⟨rfl, rfl, id⟩

/-- **A failure opens a closed breaker** if what is left of the failures says so. -/
theorem onFailure_opened_iff (h : b.state = .closed) :
    (b.onFailure now now now).state = .opened ↔ CircuitBreaker.shouldOpen
      { b with
        failures := (b.failures ++ [now]).filter (inWindow b.options.windowMs now)
        lastFailureAt := now } = true := by
  have hstate : (CircuitBreaker.pruneOldFailures now
    { b with failures := b.failures ++ [now], lastFailureAt := now }).state = .closed := h
  have hnot : CircuitState.closed ≠ .halfOpen := by decide
  have hclosed : decide (CircuitState.closed = .closed) = true := by decide
  rw [CircuitBreaker.onFailure, hstate, if_neg hnot, hclosed, Bool.true_and]
  split_ifs with hopens
  · exact iff_of_true rfl hopens
  · refine iff_of_false ?_ hopens
    rw [hstate]
    decide

theorem onSuccess_halfOpen (h : b.state = .halfOpen) :
    b.onSuccess.state = .closed ∧ b.onSuccess.failures = [] ∧ b.onSuccess.successes = 0 := by
  rw [CircuitBreaker.onSuccess, if_pos h]
  exact ⟨rfl, rfl, rfl⟩

theorem onSuccess_closed (h : b.state = .closed) :
    b.onSuccess = { b with successes := b.successes + 1 } := by
  simp [CircuitBreaker.onSuccess, h]

theorem options_settle (call : SequentialCall) (b : CircuitBreaker) :
    (b.settle call).options = b.options := by
  unfold CircuitBreaker.settle
  split_ifs
  · exact (options_onFailure b _ _ _).1
  · exact (options_onSuccess b).1

namespace Sequential

/-- **What a call does**: it is refused, or it is let through and settles. -/
theorem Step.cases (h : Step s call t) :
    t.breaker = s.breaker ∧ t.settled = s.settled ∧ t.now = call.startedAt ∨
      ∃ b, s.breaker.enter call.startedAt = .ok b ∧ t = s.settle call b := by
  obtain ⟨-, -, rfl⟩ := h
  cases henter : s.breaker.enter call.startedAt with
  | error refusal =>
    rw [after, henter]
    exact Or.inl ⟨rfl, rfl, rfl⟩
  | ok b => exact Or.inr ⟨b, rfl, by rw [after, henter]⟩

theorem Step.now_le (h : Step s call t) : s.now ≤ t.now := by
  obtain ⟨hstart, hsettle, -⟩ := id h
  rcases h.cases with ⟨-, -, hnow⟩ | ⟨b, -, rfl⟩
  · exact hstart.trans hnow.ge
  · exact hstart.trans hsettle

/-! ### Among running calls -/

/-- A call is made while no other one is running, and runs until it has settled. -/
theorem guarded_of_step (h : Step s call t) {g : Guarded} (hbreaker : g.breaker = s.breaker)
    (hnow : g.now = s.now) (hrunning : g.running = []) :
    ∃ path g', Guarded.Step.Run g path g' ∧ g'.breaker = t.breaker ∧ g'.now = t.now ∧
      g'.running = [] := by
  obtain ⟨hstart, hsettle, rfl⟩ := h
  have hmade : (g.now :: (CallEvent.execute call.startedAt).readings ++
      [call.startedAt]).Pairwise (· ≤ ·) := by
    simp [CallEvent.readings, hnow, hstart]
  cases henter : s.breaker.enter call.startedAt with
  | error refusal =>
    rw [after, henter]
    have hstep : Guarded.Step g (.execute call.startedAt) { g with
        calls := g.calls + 1, refused := (g.calls, refusal) :: g.refused, now := call.startedAt } :=
      ⟨hmade, by rw [Guarded.after, hbreaker, henter]⟩
    exact ⟨_, _, .single hstep, hbreaker, rfl, hrunning⟩
  | ok b =>
    rw [after, henter]
    have hstep : Guarded.Step g (.execute call.startedAt)
        { g.start b with now := call.startedAt } :=
      ⟨hmade, by rw [Guarded.after, hbreaker, henter]; rfl⟩
    -- the only function that is running is that of the call
    have hruns : Guarded.isRunning { g.start b with now := call.startedAt } g.calls := by
      simp [Guarded.isRunning, Guarded.start]
    have hreport : Guarded.Step { g.start b with now := call.startedAt } (call.report g.calls)
        { Guarded.settle { g.start b with now := call.startedAt } g.calls (b.settle call) with
          now := call.settledAt } := by
      cases hfailed : call.failed with
      | true =>
        rw [SequentialCall.report, CircuitBreaker.settle, if_pos hfailed, if_pos hfailed]
        refine ⟨by simp [CallEvent.readings, hsettle], ?_⟩
        rw [Guarded.after, if_pos hruns]
        rfl
      | false =>
        have hnot : ¬ call.failed = true := by simp [hfailed]
        rw [SequentialCall.report, CircuitBreaker.settle, if_neg hnot, if_neg hnot]
        refine ⟨by simp [CallEvent.readings, hsettle], ?_⟩
        rw [Guarded.after, if_pos hruns]
        rfl
    exact ⟨_, _, .cons hstep (.single hreport), rfl, rfl,
      by simp [Guarded.settle, Guarded.start, hrunning]⟩

/-- **Calls that come one after the other** are a run of the breaker. -/
theorem guarded_of_run (hrun : Step.Run x path y) {g : Guarded} (hbreaker : g.breaker = x.breaker)
    (hnow : g.now = x.now) (hrunning : g.running = []) :
    ∃ path' g', Guarded.Step.Run g path' g' ∧ g'.breaker = y.breaker ∧ g'.now = y.now ∧
      g'.running = [] := by
  induction hrun with
  | nil => exact ⟨[], g, .nil, hbreaker, hnow, hrunning⟩
  | snoc _ hstep ih =>
    obtain ⟨path', g', hrun', hbreaker', hnow', hrunning'⟩ := ih
    obtain ⟨more, g'', hmore, hlast⟩ := guarded_of_step hstep hbreaker' hnow' hrunning'
    exact ⟨path' ++ more, g'', hrun'.append hmore, hlast⟩

end Sequential

/-! ### What is kept of the history -/

theorem succeeded_append (settled settled' : List Settlement) :
    succeeded (settled ++ settled') = succeeded settled + succeeded settled' :=
  List.countP_append

/-- The times of the failures among the calls. -/
def failureTimes (settled : List Settlement) : List ℚ :=
  (settled.filter fun call => call.failed).map Settlement.settledAt

theorem length_filter_failureTimes (windowMs : Number) (t : ℚ) (settled : List Settlement) :
    ((failureTimes settled).filter (inWindow windowMs t)).length =
      failuresIn windowMs t settled := by
  rw [failureTimes, List.filter_map, List.length_map, List.filter_filter, failuresIn,
    List.countP_eq_length_filter]
  congr 2
  funext call
  exact Bool.and_comm _ _

/-- A window that ends later begins later. -/
theorem inWindow_mono {windowMs : Number} (hle : now ≤ r) {a : ℚ}
    (h : inWindow windowMs r a = true) : inWindow windowMs now a = true := by
  cases windowMs with
  | nan => cases h
  | inf negative => cases negative <;> exact h
  | fin w =>
    have hlt : r + -w < a := of_decide_eq_true h
    have hearlier : now + -w < a := by linarith
    exact decide_eq_true hearlier

theorem filter_filter_inWindow {windowMs : Number} (hle : now ≤ r) (times : List ℚ) :
    (times.filter (inWindow windowMs now)).filter (inWindow windowMs r) =
      times.filter (inWindow windowMs r) := by
  rw [List.filter_filter]
  refine List.filter_congr fun a _ => ?_
  by_cases hr : inWindow windowMs r a = true
  · rw [hr, inWindow_mono hle hr]
    rfl
  · rw [Bool.not_eq_true] at hr
    rw [hr]
    rfl

/-- What the breaker has kept agrees with the history on every window that is still to come. -/
structure Accounted (options : CircuitBreakerOptions) (s : Sequential) : Prop where
  sameOptions : s.breaker.options = options
  successes : s.breaker.successes = succeeded s.settled
  failures : ∀ r, s.now ≤ r → s.breaker.failures.filter (inWindow options.windowMs r) =
    (failureTimes s.settled).filter (inWindow options.windowMs r)

variable {options : CircuitBreakerOptions}

/-- A call that is let through is recorded by what it makes of the breaker. -/
theorem Accounted.settle (h : Accounted options s) (hle : s.now ≤ call.settledAt)
    (henter : s.breaker.enter now = .ok b) : Accounted options (s.settle call b) := by
  obtain ⟨hfailures, hsuccesses, hopened, -⟩ := enter_kept henter
  have hoptions : b.options = options := (options_enter henter).1.trans h.sameOptions
  have hkept : (s.settle call b).breaker.options = options := (options_settle call b).trans hoptions
  by_cases hfailed : call.failed = true
  · -- a failure never closes a breaker
    obtain ⟨hpruned, hsame, hstate⟩ := failures_onFailure b call.settledAt
    have hbreaker : b.settle call = b.onFailure call.settledAt call.settledAt call.settledAt :=
      if_pos hfailed
    have hsettled : (s.settle call b).settled = s.settled ++ [call.settlement] := by
      refine if_neg ?_
      rintro ⟨hnot, hclosed⟩
      exact hstate hnot (hbreaker ▸ hclosed)
    have htimes : failureTimes (s.settled ++ [call.settlement]) =
        failureTimes s.settled ++ [call.settledAt] := by
      simp [failureTimes, SequentialCall.settlement, hfailed]
    refine ⟨hkept, ?_, fun r hr => ?_⟩
    · rw [hsettled, succeeded_append, ← h.successes, ← hsuccesses, ← hsame, ← hbreaker]
      simp [succeeded, SequentialCall.settlement, hfailed, Sequential.settle]
    · -- what is pruned now is too old for every later window as well
      change call.settledAt ≤ r at hr
      change (b.settle call).failures.filter _ = _
      rw [hbreaker, hpruned, hoptions, filter_filter_inWindow hr, hsettled, htimes,
        List.filter_append, List.filter_append, hfailures, h.failures r (hle.trans hr)]
  · have hbreaker : b.settle call = b.onSuccess := if_neg hfailed
    cases hb : b.state with
    | opened => exact absurd hb hopened
    | halfOpen =>
      -- the breaker closes, and the history begins anew
      obtain ⟨hclosed, hnone, hzero⟩ := onSuccess_halfOpen hb
      have hsettled : (s.settle call b).settled = [] :=
        if_pos ⟨by simp [hb], by rw [hbreaker, hclosed]⟩
      refine ⟨hkept, ?_, fun r _ => ?_⟩
      · rw [hsettled]
        exact (congrArg CircuitBreaker.successes hbreaker).trans hzero
      · rw [hsettled]
        change (b.settle call).failures.filter _ = _
        rw [hbreaker, hnone]
        rfl
    | closed =>
      -- only the number of successes grows
      have hsettled : (s.settle call b).settled = s.settled ++ [call.settlement] :=
        if_neg fun hboth => hboth.1 hb
      have htimes : failureTimes (s.settled ++ [call.settlement]) = failureTimes s.settled := by
        simp [failureTimes, SequentialCall.settlement, hfailed]
      refine ⟨hkept, ?_, fun r hr => ?_⟩
      · change (b.settle call).successes = _
        rw [hbreaker, onSuccess_closed hb, hsettled, succeeded_append, ← h.successes, ← hsuccesses]
        simp [succeeded, SequentialCall.settlement, hfailed]
      · change (b.settle call).failures.filter _ = _
        rw [hbreaker, onSuccess_closed hb, hsettled, htimes]
        exact hfailures ▸ h.failures r (hle.trans hr)

theorem Accounted.step (h : Accounted options s) (hstep : Sequential.Step s call t) :
    Accounted options t := by
  obtain ⟨hstart, hsettle, -⟩ := id hstep
  have hnow := hstep.now_le
  rcases hstep.cases with ⟨hbreaker, hsettled, -⟩ | ⟨b, henter, rfl⟩
  · constructor
    · rw [hbreaker, h.sameOptions]
    · rw [hbreaker, hsettled, h.successes]
    · intro r hr
      rw [hbreaker, hsettled, h.failures r (hnow.trans hr)]
  · exact h.settle (hstart.trans hsettle) henter

theorem Accounted.of_run (hnew : x.New) (hrun : Sequential.Step.Run x path y) :
    Accounted x.breaker.options y := by
  refine hrun.invariant (I := Accounted x.breaker.options) ?_ fun _ _ _ h hstep => h.step hstep
  obtain ⟨⟨serviceName, options, hbreaker⟩, hsettled⟩ := hnew
  refine ⟨rfl, ?_, fun r _ => ?_⟩
  · rw [hsettled, hbreaker]
    rfl
  · rw [hsettled, hbreaker]
    rfl

/-- **What decides whether a failure opens a closed breaker**: how many failures the window holds,
and their rate among them and all the successes. -/
theorem Accounted.opened_iff (h : Accounted options s) (hstep : Sequential.Step s call t)
    (hfailed : call.failed = true) (hclosed : s.breaker.state = .closed) :
    t.breaker.state = .opened ↔
      reaches options.failureThreshold
          (failuresIn options.windowMs call.settledAt (s.settled ++ [call.settlement])) = true ∨
      ∃ rate, options.failureRateThreshold = some rate ∧ rate ≠ .fin 0 ∧
        rateReached rate
          (failuresIn options.windowMs call.settledAt (s.settled ++ [call.settlement]))
          (succeeded s.settled) = true := by
  obtain ⟨hstart, hsettle, -⟩ := id hstep
  have henter : s.breaker.enter call.startedAt = .ok s.breaker := by
    simp [CircuitBreaker.enter, hclosed]
  have hbreaker : t.breaker =
      s.breaker.onFailure call.settledAt call.settledAt call.settledAt := by
    rw [hstep.2.2, Sequential.after, henter]
    exact if_pos hfailed
  have htimes : failureTimes (s.settled ++ [call.settlement]) =
      failureTimes s.settled ++ [call.settledAt] := by
    simp [failureTimes, SequentialCall.settlement, hfailed]
  have hlength : ((s.breaker.failures ++ [call.settledAt]).filter
      (inWindow options.windowMs call.settledAt)).length =
        failuresIn options.windowMs call.settledAt (s.settled ++ [call.settlement]) := by
    rw [← length_filter_failureTimes, htimes, List.filter_append,
      h.failures _ (hstart.trans hsettle), ← List.filter_append]
  -- the code takes a threshold of `NaN` for none, and no rate is at least `NaN` either
  have hnan : ∀ {rate n}, Number.le rate n = true → rate ≠ .nan := by
    rintro _ n hle rfl
    cases hle
  rw [hbreaker, onFailure_opened_iff hclosed]
  simp only [CircuitBreaker.shouldOpen, h.sameOptions, hlength, h.successes, Bool.or_eq_true,
    Bool.and_eq_true, decide_eq_true_eq, Option.any_eq_true, reaches, rateReached]
  refine or_congr Iff.rfl ⟨?_, ?_⟩
  · rintro ⟨hten, rate, hsome, ⟨-, hzero⟩, hle⟩
    exact ⟨rate, hsome, hzero, hten, hle⟩
  · rintro ⟨rate, hsome, hzero, hten, hle⟩
    exact ⟨hten, rate, hsome, ⟨hnan hle, hzero⟩, hle⟩

end

/-! ### Two failures -/

namespace Example

/-- A breaker without a rate, which opens with its second failure. -/
def unrated : Sequential where
  breaker :=
    { serviceName := js "PIX"
      options :=
        { CircuitBreakerOptions.default with
          failureThreshold := .fin 2, failureRateThreshold := none } }
  now := 0
  settled := []

def firstFailure : SequentialCall := ⟨0, true, 1⟩

def secondFailure : SequentialCall := ⟨2, true, 60000⟩

theorem run_failures :
    Sequential.Step.Run unrated [⟨unrated, firstFailure, unrated.after firstFailure⟩,
        ⟨unrated.after firstFailure, secondFailure,
          (unrated.after firstFailure).after secondFailure⟩]
      ((unrated.after firstFailure).after secondFailure) :=
  .cons ⟨by decide +kernel, by decide +kernel, rfl⟩
    (.single ⟨by decide +kernel, by decide +kernel, rfl⟩)

end Example

end MipitCore.Resilience
