import MipitCore.Foundation.Transition
import MipitCore.Js.Double

/-!
# The circuit breaker

A breaker counts the failures of the calls that it lets through. At a threshold it opens,
and refuses every call until a cooldown has elapsed; the call that comes then finds it open
and makes it half open. What is let through is decided by the state alone, and what a call
reports is taken for the state in which it arrives, whichever state it was started in.

Calls are numbered in the order in which `execute` was called. A call of `execute` runs up
to the first `await`, and later reports that its function has succeeded or failed; between
the two, anything may happen.

## Main definitions

* `CircuitBreaker`, `enter`, `onSuccess`, `onFailure` — the breaker
* `Guarded`, `CallEvent`, `Step` — a breaker with the calls that are running

## Main results

* `Cooling.of_run` — until the cooldown has elapsed, nothing moves the gate
* `circuitOpen_iff` — what a call is answered before that
-/

namespace MipitCore.Resilience

open Js Foundation

/-! ### The breaker -/

inductive CircuitState
  | closed
  | opened
  | halfOpen
  deriving DecidableEq, Repr

structure CircuitBreakerOptions where
  failureThreshold : Number
  cooldownMs : Number
  windowMs : Number
  failureRateThreshold : Option Number

/-- `DEFAULT_OPTIONS` -/
def CircuitBreakerOptions.default : CircuitBreakerOptions where
  failureThreshold := .fin 5
  cooldownMs := .fin 30000
  windowMs := .fin 60000
  failureRateThreshold := some (.fin 50)

/-- A breaker; of a failure only its time is recorded. -/
structure CircuitBreaker where
  serviceName : Text
  options : CircuitBreakerOptions
  state : CircuitState := .closed
  failures : List ℚ := []
  successes : ℕ := 0
  lastFailureAt : ℚ := 0
  openedAt : ℚ := 0

/-- The time value of `new Date(n)`, if that is a date. -/
def timeClip : Number → Option ℤ
  | .fin q => if |q| ≤ 8640000000000000 then some (if 0 ≤ q then ⌊q⌋ else ⌈q⌉) else none
  | _ => none

structure CircuitOpenError where
  serviceName : Text
  /-- The time value of the date. -/
  nextRetryAt : ℤ
  deriving DecidableEq

/-- `err.message`, given how the host writes a date. -/
def CircuitOpenError.message (toISOString : ℤ → Text) (err : CircuitOpenError) : Text :=
  js "Circuit breaker OPEN for " ++ err.serviceName ++ js ". Next retry at " ++
    toISOString err.nextRetryAt

/-- What `execute` throws without calling its function: of what is no date, `toISOString` throws. -/
inductive Refusal
  | circuitOpen (err : CircuitOpenError)
  | rangeError
  deriving DecidableEq

/-- `new CircuitOpenError(serviceName, new Date(nextRetry))` -/
def newCircuitOpenError (serviceName : Text) (nextRetry : Number) : Refusal :=
  ((timeClip nextRetry).map fun t => Refusal.circuitOpen ⟨serviceName, t⟩).getD .rangeError

namespace CircuitBreaker

/-- `this.openedAt + this.options.cooldownMs` -/
def nextRetry (breaker : CircuitBreaker) : Number :=
  Number.add (.fin breaker.openedAt) breaker.options.cooldownMs

def shouldTransitionToHalfOpen (now : ℚ) (breaker : CircuitBreaker) : Bool :=
  Number.le breaker.options.cooldownMs (.fin (now - breaker.openedAt))

/-- `transitionTo(newState)`; the clock is read for `OPEN` only. -/
def transitionTo (newState : CircuitState) (now : ℚ) (breaker : CircuitBreaker) : CircuitBreaker :=
  { breaker with
    state := newState
    openedAt := if newState = .opened then now else breaker.openedAt
    failures := if newState = .closed then [] else breaker.failures
    successes := if newState = .closed then 0 else breaker.successes }

/-- `execute(fn)` up to the call of `fn`, which is made where no error is thrown. -/
def enter (now : ℚ) (breaker : CircuitBreaker) : Except Refusal CircuitBreaker :=
  if breaker.state = .opened then
    if breaker.shouldTransitionToHalfOpen now then .ok (breaker.transitionTo .halfOpen now)
    else .error (newCircuitOpenError breaker.serviceName breaker.nextRetry)
  else .ok breaker

/-- `onSuccess()` -/
def onSuccess (breaker : CircuitBreaker) : CircuitBreaker :=
  let breaker := { breaker with successes := breaker.successes + 1 }
  if breaker.state = .halfOpen then breaker.transitionTo .closed breaker.openedAt else breaker

/-- `(failures / total) * 100`, in doubles. -/
def failureRate (failures total : ℕ) : Number :=
  @Number.mul .double (@Number.div .double (.fin failures) (.fin total)) (.fin 100)

def shouldOpen (breaker : CircuitBreaker) : Bool :=
  let totalInWindow := breaker.successes + breaker.failures.length
  Number.le breaker.options.failureThreshold (.fin breaker.failures.length) ||
    (10 ≤ totalInWindow && breaker.options.failureRateThreshold.any fun rate =>
      rate ≠ .nan && rate ≠ .fin 0 &&
        Number.le rate (failureRate breaker.failures.length totalInWindow))

def pruneOldFailures (now : ℚ) (breaker : CircuitBreaker) : CircuitBreaker :=
  let cutoff := Number.add (.fin now) (Number.neg breaker.options.windowMs)
  { breaker with failures := breaker.failures.filter fun t => Number.lt cutoff (.fin t) }

/-- `onFailure()`, given what the clock reads for the failure, for the pruning and for the
opening. -/
def onFailure (now pruneAt openAt : ℚ) (breaker : CircuitBreaker) : CircuitBreaker :=
  let breaker := { breaker with failures := breaker.failures ++ [now], lastFailureAt := now }
  let breaker := breaker.pruneOldFailures pruneAt
  if breaker.state = .halfOpen then breaker.transitionTo .opened openAt
  else if breaker.state = .closed && breaker.shouldOpen then breaker.transitionTo .opened openAt
  else breaker

end CircuitBreaker

/-! ### Runs -/

/-- A call whose function is running, with the number of times that the breaker had become half open
when it was started. -/
structure RunningCall where
  call : ℕ
  period : ℕ
  deriving DecidableEq

/-- A breaker, the time, how often it has become half open, how many calls were made, the calls that
are running, and the calls that were refused, latest first. -/
structure Guarded where
  breaker : CircuitBreaker
  now : ℚ
  period : ℕ
  calls : ℕ
  running : List RunningCall
  refused : List (ℕ × Refusal)

/-- A call of `execute`, or the outcome of the function of a call, with what the clock reads. -/
inductive CallEvent
  | execute (now : ℚ)
  | succeeded (call : ℕ)
  | failed (call : ℕ) (now pruneAt openAt : ℚ)

def CallEvent.readings : CallEvent → List ℚ
  | execute now => [now]
  | succeeded _ => []
  | failed _ now pruneAt openAt => [now, pruneAt, openAt]

namespace Guarded

/-- Whether the function of a call is running. -/
def isRunning (s : Guarded) (call : ℕ) : Prop := call ∈ s.running.map RunningCall.call

instance (s : Guarded) (call : ℕ) : Decidable (s.isRunning call) :=
  inferInstanceAs (Decidable (call ∈ s.running.map RunningCall.call))

/-- The function of a call has settled. -/
def settle (s : Guarded) (call : ℕ) (breaker : CircuitBreaker) : Guarded :=
  { s with breaker := breaker, running := s.running.filter fun r => r.call ≠ call }

/-- A call is let through by what is now the breaker; `period` counts when it has become half
open. -/
def start (s : Guarded) (breaker : CircuitBreaker) : Guarded :=
  let period := if s.breaker.state = .opened then s.period + 1 else s.period
  { s with
    breaker := breaker
    period := period
    calls := s.calls + 1
    running := ⟨s.calls, period⟩ :: s.running }

/-- What an event does, up to the time. -/
def after (s : Guarded) : CallEvent → Option Guarded
  | .execute now =>
    match s.breaker.enter now with
    | .ok breaker => some (s.start breaker)
    | .error refusal =>
      some { s with calls := s.calls + 1, refused := (s.calls, refusal) :: s.refused }
  | .succeeded call =>
    if s.isRunning call then some (s.settle call s.breaker.onSuccess) else none
  | .failed call now pruneAt openAt =>
    if s.isRunning call then some (s.settle call (s.breaker.onFailure now pruneAt openAt)) else none

/-- One event. The clock never goes back. -/
def Step : LTS Guarded CallEvent := fun s l t =>
  (s.now :: l.readings ++ [t.now]).Pairwise (· ≤ ·) ∧ s.after l = some { t with now := s.now }

/-- A breaker that has just been made. -/
def New (s : Guarded) : Prop :=
  (∃ serviceName options, s.breaker = { serviceName, options }) ∧ s.running = []

end Guarded

/-! ### While the breaker is open -/

section

variable {b : CircuitBreaker} {s t x y : Guarded} {l : CallEvent} {T : ℚ}
  {path : List (Transition Guarded CallEvent)}

theorem lt_of_le_of_lt {p q : ℚ} {n : Number} (hle : p ≤ q) (h : Number.lt (.fin q) n = true) :
    Number.lt (.fin p) n = true := by
  cases n with
  | nan => cases h
  | inf negative => exact h
  | fin r => exact decide_eq_true (hle.trans_lt (of_decide_eq_true h))

/-- Before the end of a cooldown, it has not elapsed. -/
theorem not_elapsed {now : ℚ} {cooldown : Number}
    (h : Number.lt (.fin now) (Number.add (.fin T) cooldown) = true) :
    Number.le cooldown (.fin (now - T)) = false := by
  cases cooldown with
  | nan => cases h
  | inf negative =>
    obtain rfl : negative = false := by simpa [Number.add, Number.lt] using h
    rfl
  | fin r =>
    have hlt : now < T + r := of_decide_eq_true h
    simp only [Number.le, Number.lt, Bool.not_eq_false', decide_eq_true_eq]
    linarith

theorem onSuccess_opened (h : b.state = .opened) :
    b.onSuccess = { b with successes := b.successes + 1 } := by
  simp [CircuitBreaker.onSuccess, h]

/-- **What a failure does**: it is recorded, and the breaker may open where it has not. -/
theorem onFailure_cases (b : CircuitBreaker) (now pruneAt openAt : ℚ) :
    ∃ b' : CircuitBreaker, b'.options = b.options ∧ b'.serviceName = b.serviceName ∧
      b'.state = b.state ∧ b'.openedAt = b.openedAt ∧
      (b.onFailure now pruneAt openAt = b'.transitionTo .opened openAt ∧ b.state ≠ .opened ∨
        b.onFailure now pruneAt openAt = b' ∧ b.state ≠ .halfOpen) := by
  refine ⟨CircuitBreaker.pruneOldFailures pruneAt
    { b with failures := b.failures ++ [now], lastFailureAt := now }, rfl, rfl, rfl, rfl, ?_⟩
  have hstate : (CircuitBreaker.pruneOldFailures pruneAt
    { b with failures := b.failures ++ [now], lastFailureAt := now }).state = b.state := rfl
  rw [CircuitBreaker.onFailure, hstate]
  split_ifs with hhalf hclosed
  · exact Or.inl ⟨rfl, by simp [hhalf]⟩
  · rw [Bool.and_eq_true, decide_eq_true_eq] at hclosed
    exact Or.inl ⟨rfl, by simp [hclosed.1]⟩
  · exact Or.inr ⟨rfl, hhalf⟩

theorem onFailure_opened (now pruneAt openAt : ℚ) (h : b.state = .opened) :
    (b.onFailure now pruneAt openAt).state = .opened ∧
      (b.onFailure now pruneAt openAt).openedAt = b.openedAt := by
  obtain ⟨b', -, -, hstate, hat, ⟨-, hne⟩ | ⟨heq, -⟩⟩ := onFailure_cases b now pruneAt openAt
  · exact absurd h hne
  · rw [heq, hstate, hat]
    exact ⟨h, rfl⟩

theorem options_onSuccess (b : CircuitBreaker) :
    b.onSuccess.options = b.options ∧ b.onSuccess.serviceName = b.serviceName := by
  simp only [CircuitBreaker.onSuccess]
  split_ifs <;> exact ⟨rfl, rfl⟩

theorem options_onFailure (b : CircuitBreaker) (now pruneAt openAt : ℚ) :
    (b.onFailure now pruneAt openAt).options = b.options ∧
      (b.onFailure now pruneAt openAt).serviceName = b.serviceName := by
  obtain ⟨b', hoptions, hname, -, -, ⟨heq, -⟩ | ⟨heq, -⟩⟩ := onFailure_cases b now pruneAt openAt
  · rw [heq]
    exact ⟨hoptions, hname⟩
  · rw [heq]
    exact ⟨hoptions, hname⟩

theorem options_enter {now : ℚ} {b' : CircuitBreaker} (h : b.enter now = .ok b') :
    b'.options = b.options ∧ b'.serviceName = b.serviceName := by
  unfold CircuitBreaker.enter at h
  split_ifs at h
  · obtain rfl := Except.ok.inj h
    exact ⟨rfl, rfl⟩
  · obtain rfl := Except.ok.inj h
    exact ⟨rfl, rfl⟩

/-- A call that comes before the cooldown has elapsed is refused. -/
theorem enter_cooling {now : ℚ} (hopened : b.state = .opened)
    (h : Number.lt (.fin now) b.nextRetry = true) :
    b.enter now = .error (newCircuitOpenError b.serviceName b.nextRetry) := by
  have hearly : b.shouldTransitionToHalfOpen now = false := not_elapsed h
  rw [CircuitBreaker.enter, if_pos hopened, hearly, if_neg Bool.false_ne_true]

/-- The breaker has opened at `T`, and until the cooldown has elapsed it is as it was then. -/
structure Cooling (serviceName : Text) (options : CircuitBreakerOptions) (T : ℚ) (s : Guarded) :
    Prop where
  sameOptions : s.breaker.options = options
  sameName : s.breaker.serviceName = serviceName
  opened : Number.lt (.fin s.now) (Number.add (.fin T) options.cooldownMs) = true →
    s.breaker.state = .opened ∧ s.breaker.openedAt = T

/-- What a step does to the breaker. -/
theorem Guarded.Step.cases (h : Guarded.Step s l t) :
    (∃ now b', l = .execute now ∧ s.breaker.enter now = .ok b' ∧
      t = { s.start b' with now := t.now }) ∨
    (∃ now refusal, l = .execute now ∧ s.breaker.enter now = .error refusal ∧
      t = { s with calls := s.calls + 1, refused := (s.calls, refusal) :: s.refused, now := t.now }) ∨
    (∃ call, l = .succeeded call ∧ s.isRunning call ∧
      t = { s.settle call s.breaker.onSuccess with now := t.now }) ∨
    (∃ call now pruneAt openAt, l = .failed call now pruneAt openAt ∧ s.isRunning call ∧
      t = { s.settle call (s.breaker.onFailure now pruneAt openAt) with now := t.now }) := by
  obtain ⟨-, hafter⟩ := h
  have heq : ∀ u : Guarded, some u = some { t with now := s.now } → t = { u with now := t.now } := by
    intro u hu
    rw [Option.some.inj hu]
  cases l with
  | execute now =>
    cases henter : s.breaker.enter now with
    | ok b' =>
      rw [Guarded.after, henter] at hafter
      exact Or.inl ⟨now, b', rfl, henter, heq _ hafter⟩
    | error refusal =>
      rw [Guarded.after, henter] at hafter
      exact Or.inr (Or.inl ⟨now, refusal, rfl, henter, heq _ hafter⟩)
  | succeeded call =>
    rw [Guarded.after] at hafter
    split_ifs at hafter with hrunning
    exact Or.inr (Or.inr (Or.inl ⟨call, rfl, hrunning, heq _ hafter⟩))
  | failed call now pruneAt openAt =>
    rw [Guarded.after] at hafter
    split_ifs at hafter with hrunning
    exact Or.inr (Or.inr (Or.inr ⟨call, now, pruneAt, openAt, rfl, hrunning, heq _ hafter⟩))

theorem Guarded.Step.readings (h : Guarded.Step s l t) : ∀ r ∈ l.readings, s.now ≤ r ∧ r ≤ t.now := by
  obtain ⟨hsorted, -⟩ := h
  rw [List.cons_append, List.pairwise_cons, List.pairwise_append] at hsorted
  exact fun r hr => ⟨hsorted.1 r (List.mem_append_left _ hr), hsorted.2.2.2 r hr t.now (by simp)⟩

theorem Guarded.Step.now_le (h : Guarded.Step s l t) : s.now ≤ t.now := by
  obtain ⟨hsorted, -⟩ := h
  exact (List.pairwise_cons.mp hsorted).1 t.now (by simp)

/-- **Nothing moves the gate while it cools down**: no late report, and no call. -/
theorem Cooling.step {serviceName : Text} {options : CircuitBreakerOptions}
    (hcooling : Cooling serviceName options T s) (h : Guarded.Step s l t) :
    Cooling serviceName options T t := by
  have hnow := h.now_le
  have hreadings := h.readings
  rcases h.cases with ⟨now, b', rfl, henter, ht⟩ | ⟨now, refusal, rfl, henter, ht⟩ |
    ⟨call, rfl, -, ht⟩ | ⟨call, now, pruneAt, openAt, rfl, -, ht⟩
  · obtain ⟨hoptions, hname⟩ := options_enter henter
    have hbreaker : t.breaker = b' := by rw [ht]; rfl
    refine ⟨by rw [hbreaker, hoptions, hcooling.sameOptions], by rw [hbreaker, hname, hcooling.sameName],
      fun hlt => ?_⟩
    -- a call that is let through would have found the gate open
    have hbefore := lt_of_le_of_lt (hreadings now (by simp [CallEvent.readings])).2 hlt
    obtain ⟨hopened, hat⟩ := hcooling.opened (lt_of_le_of_lt hnow hlt)
    rw [enter_cooling hopened (by rw [CircuitBreaker.nextRetry, hat, hcooling.sameOptions]; exact hbefore)]
      at henter
    cases henter
  · have hbreaker : t.breaker = s.breaker := by rw [ht]
    exact ⟨hbreaker ▸ hcooling.sameOptions, hbreaker ▸ hcooling.sameName, fun hlt => by
      rw [hbreaker]
      exact hcooling.opened (lt_of_le_of_lt hnow hlt)⟩
  · have hbreaker : t.breaker = s.breaker.onSuccess := by rw [ht]; rfl
    obtain ⟨hoptions, hname⟩ := options_onSuccess s.breaker
    refine ⟨by rw [hbreaker, hoptions, hcooling.sameOptions], by rw [hbreaker, hname, hcooling.sameName],
      fun hlt => ?_⟩
    obtain ⟨hopened, hat⟩ := hcooling.opened (lt_of_le_of_lt hnow hlt)
    rw [hbreaker, onSuccess_opened hopened]
    exact ⟨hopened, hat⟩
  · have hbreaker : t.breaker = s.breaker.onFailure now pruneAt openAt := by rw [ht]; rfl
    obtain ⟨hoptions, hname⟩ := options_onFailure s.breaker now pruneAt openAt
    refine ⟨by rw [hbreaker, hoptions, hcooling.sameOptions], by rw [hbreaker, hname, hcooling.sameName],
      fun hlt => ?_⟩
    obtain ⟨hopened, hat⟩ := hcooling.opened (lt_of_le_of_lt hnow hlt)
    obtain ⟨hstill, hkept⟩ := onFailure_opened now pruneAt openAt hopened
    rw [hbreaker]
    exact ⟨hstill, hkept.trans hat⟩

theorem Cooling.of_run {serviceName : Text} {options : CircuitBreakerOptions}
    (hcooling : Cooling serviceName options T x) (hrun : Guarded.Step.Run x path y) :
    Cooling serviceName options T y :=
  hrun.invariant hcooling fun _ _ _ hs hstep => hs.step hstep

/-- A step never changes what the breaker was made with. -/
theorem Guarded.Step.sameOptions (h : Guarded.Step s l t) :
    t.breaker.options = s.breaker.options ∧ t.breaker.serviceName = s.breaker.serviceName := by
  rcases h.cases with ⟨now, b', -, henter, ht⟩ | ⟨now, refusal, -, -, ht⟩ | ⟨call, -, -, ht⟩ |
    ⟨call, now, pruneAt, openAt, -, -, ht⟩
  · rw [ht]
    exact options_enter henter
  · rw [ht]
    exact ⟨rfl, rfl⟩
  · rw [ht]
    exact options_onSuccess s.breaker
  · rw [ht]
    exact options_onFailure s.breaker now pruneAt openAt

/-- The breaker opens in a step whose clock reads `T` for it. -/
structure Opens (e : Transition Guarded CallEvent) (T : ℚ) : Prop where
  label : ∃ call failedAt pruneAt, e.label = .failed call failedAt pruneAt T
  shut : e.source.breaker.state ≠ .opened
  opened : e.target.breaker.state = .opened

theorem Opens.openedAt {e : Transition Guarded CallEvent} (h : Opens e T)
    (hstep : Guarded.Step e.source e.label e.target) : e.target.breaker.openedAt = T := by
  obtain ⟨⟨call, failedAt, pruneAt, hlabel⟩, hshut, hopened⟩ := h
  have hbreaker : e.target.breaker = e.source.breaker.onFailure failedAt pruneAt T := by
    rw [hlabel] at hstep
    rcases hstep.cases with ⟨_, _, hl, -, -⟩ | ⟨_, _, hl, -, -⟩ | ⟨_, hl, -, -⟩ |
      ⟨_, _, _, _, hl, -, ht⟩
    · cases hl
    · cases hl
    · cases hl
    · cases hl
      rw [ht]
      rfl
  obtain ⟨b', -, -, hstate, -, ⟨heq, -⟩ | ⟨heq, -⟩⟩ :=
    onFailure_cases e.source.breaker failedAt pruneAt T
  · rw [hbreaker, heq]
    rfl
  · rw [hbreaker, heq, hstate] at hopened
    exact absurd hopened hshut

/-- What `execute` does with a call: it throws, and leaves the breaker and the running functions as
they are. -/
structure Refuses (e : Transition Guarded CallEvent) (refusal : Refusal) : Prop where
  breaker : e.target.breaker = e.source.breaker
  running : e.target.running = e.source.running
  refused : e.target.refused = (e.source.calls, refusal) :: e.source.refused

/-- A call that comes between an opening and the end of its cooldown is refused. -/
theorem refuses_cooling {before mid after : List (Transition Guarded CallEvent)}
    {e e' : Transition Guarded CallEvent} {now : ℚ}
    (hrun : Guarded.Step.Run x (before ++ e :: (mid ++ e' :: after)) y) (hopens : Opens e T)
    (hlabel : e'.label = .execute now)
    (hbefore : Number.lt (.fin now) (Number.add (.fin T) x.breaker.options.cooldownMs) = true) :
    Refuses e' (newCircuitOpenError x.breaker.serviceName
      (Number.add (.fin T) x.breaker.options.cooldownMs)) := by
  obtain ⟨hup, hopening, hrest⟩ := hrun.split
  obtain ⟨hmid, hstep, -⟩ := hrest.split
  -- the options and the name are those that the breaker was made with
  have hmade : ∀ {z : Guarded} {path : List (Transition Guarded CallEvent)},
      Guarded.Step.Run x path z → z.breaker.options = x.breaker.options ∧
        z.breaker.serviceName = x.breaker.serviceName := fun hz =>
    hz.invariant (I := fun z => z.breaker.options = x.breaker.options ∧
      z.breaker.serviceName = x.breaker.serviceName) ⟨rfl, rfl⟩ fun _ _ _ ⟨ho, hn⟩ hs =>
        ⟨hs.sameOptions.1.trans ho, hs.sameOptions.2.trans hn⟩
  obtain ⟨hoptions, hname⟩ := hmade (hup.snoc hopening)
  have hcooling : Cooling x.breaker.serviceName x.breaker.options T e'.source :=
    Cooling.of_run ⟨hoptions, hname, fun _ => ⟨hopens.opened, hopens.openedAt hopening⟩⟩ hmid
  have hreadings := hstep.readings
  rw [hlabel] at hreadings hstep
  obtain ⟨hstill, hat⟩ := hcooling.opened
    (lt_of_le_of_lt (hreadings now (by simp [CallEvent.readings])).1 hbefore)
  -- still open, since the same moment, the breaker names the same time
  have hnext : e'.source.breaker.nextRetry =
      Number.add (.fin T) x.breaker.options.cooldownMs := by
    rw [CircuitBreaker.nextRetry, hat, hcooling.sameOptions]
  have henter := enter_cooling hstill (hnext ▸ hbefore)
  rw [hnext, hcooling.sameName] at henter
  rcases hstep.cases with ⟨now', b', hnow, hok, ht⟩ | ⟨now', refusal, hnow, herror, ht⟩ |
    ⟨call, hl, -, -⟩ | ⟨call, _, _, _, hl, -, -⟩
  · obtain rfl := CallEvent.execute.inj hnow
    rw [henter] at hok
    cases hok
  · obtain rfl := CallEvent.execute.inj hnow
    rw [henter] at herror
    obtain rfl := Except.error.inj herror
    constructor <;> rw [ht]
  · cases hl
  · cases hl

/-- `new Date(n)` is a date. -/
theorem timeClip_eq_none {n : Number} :
    timeClip n = none ↔ ¬ ∃ q : ℚ, n = .fin q ∧ |q| ≤ 8640000000000000 := by
  cases n with
  | nan => simp [timeClip]
  | inf negative => simp [timeClip]
  | fin q => simp [timeClip]

theorem newCircuitOpenError_iff (serviceName : Text) {n : Number} :
    (∃ err, newCircuitOpenError serviceName n = .circuitOpen err) ↔
      ∃ q : ℚ, n = .fin q ∧ |q| ≤ 8640000000000000 := by
  rw [← not_iff_not, ← timeClip_eq_none]
  cases h : timeClip n with
  | none => simp [newCircuitOpenError, h]
  | some t => simp [newCircuitOpenError, h]

/-- **Fail fast.** Whatever is running, and whatever it reports, no call that comes between an
opening and the end of its cooldown is started, and it changes nothing; what it is answered is a
`CircuitOpenError` exactly if the end of the cooldown is a date. -/
theorem circuitOpen_iff {before mid after : List (Transition Guarded CallEvent)}
    {e e' : Transition Guarded CallEvent} {now : ℚ}
    (hrun : Guarded.Step.Run x (before ++ e :: (mid ++ e' :: after)) y) (hopens : Opens e T)
    (hlabel : e'.label = .execute now)
    (hbefore : Number.lt (.fin now) (Number.add (.fin T) x.breaker.options.cooldownMs) = true) :
    (∃ refusal, Refuses e' refusal) ∧
      ((∃ err, Refuses e' (.circuitOpen err)) ↔
        ∃ q : ℚ, Number.add (.fin T) x.breaker.options.cooldownMs = .fin q ∧
          |q| ≤ 8640000000000000) := by
  have hrefuses := refuses_cooling hrun hopens hlabel hbefore
  refine ⟨⟨_, hrefuses⟩, ?_⟩
  rw [← newCircuitOpenError_iff x.breaker.serviceName]
  constructor
  · rintro ⟨err, herr⟩
    have heq := hrefuses.refused.symm.trans herr.refused
    exact ⟨err, congrArg Prod.snd (List.cons.inj heq).1⟩
  · rintro ⟨err, herr⟩
    exact ⟨err, herr ▸ hrefuses⟩

namespace Guarded

/-- An event, up to its own last reading of the clock, which does not go back. -/
def advance (s : Guarded) (l : CallEvent) : Option Guarded :=
  if (s.now :: l.readings ++ [l.readings.getLastD s.now]).Pairwise (· ≤ ·) then
    (s.after l).map fun t => { t with now := l.readings.getLastD s.now }
  else none

theorem step_advance (s : Guarded) (l : CallEvent) (t : Guarded) (h : s.advance l = some t) :
    Guarded.Step s l t := by
  unfold advance at h
  split_ifs at h with hsorted
  obtain ⟨u, hu, rfl⟩ := Option.map_eq_some_iff.mp h
  have hnow : u.now = s.now := by
    cases l with
    | execute now =>
      cases henter : s.breaker.enter now with
      | ok b' =>
        rw [after, henter] at hu
        exact Option.some.inj hu ▸ rfl
      | error refusal =>
        rw [after, henter] at hu
        exact Option.some.inj hu ▸ rfl
    | succeeded call =>
      rw [after] at hu
      split_ifs at hu
      exact Option.some.inj hu ▸ rfl
    | failed call now pruneAt openAt =>
      rw [after] at hu
      split_ifs at hu
      exact Option.some.inj hu ▸ rfl
  exact ⟨hsorted, by rw [hu, ← hnow]⟩

/-- An event that can happen. -/
def next (s : Guarded) (l : CallEvent) : Guarded := (s.advance l).getD s

theorem step_next {s : Guarded} {l : CallEvent} (h : (s.advance l).isSome) :
    Guarded.Step s l (s.next l) :=
  step_advance s l _ (by rw [next, ← Option.some_get h, Option.getD_some])

end Guarded

end

/-! ### A breaker that never retries -/

namespace Example

/-- A breaker that opens with its first failure. -/
def fragile (cooldownMs : Number) : Guarded where
  breaker :=
    { serviceName := js "PIX"
      options := { CircuitBreakerOptions.default with failureThreshold := .fin 1, cooldownMs } }
  now := 0
  period := 0
  calls := 0
  running := []
  refused := []

/-- A call is running. -/
def tried (cooldownMs : Number) : Guarded := (fragile cooldownMs).next (.execute 4)

/-- It has failed at 5 ms. -/
def failed (cooldownMs : Number) : Guarded := (tried cooldownMs).next (.failed 0 5 5 5)

/-- Another call has come at 6 ms. -/
def retried (cooldownMs : Number) : Guarded := (failed cooldownMs).next (.execute 6)

def opening (cooldownMs : Number) : Transition Guarded CallEvent :=
  ⟨tried cooldownMs, .failed 0 5 5 5, failed cooldownMs⟩

def retry (cooldownMs : Number) : Transition Guarded CallEvent :=
  ⟨failed cooldownMs, .execute 6, retried cooldownMs⟩

/-- The call fails, and another one comes. -/
def path (cooldownMs : Number) : List (Transition Guarded CallEvent) :=
  [⟨fragile cooldownMs, .execute 4, tried cooldownMs⟩] ++ opening cooldownMs ::
    ([] ++ retry cooldownMs :: [])

theorem run_path {cooldownMs : Number}
    (hfailed : ((tried cooldownMs).advance (.failed 0 5 5 5)).isSome)
    (hretried : ((failed cooldownMs).advance (.execute 6)).isSome) :
    Guarded.Step.Run (fragile cooldownMs) (path cooldownMs) (retried cooldownMs) := by
  have hfirst : ((fragile cooldownMs).advance (.execute 4)).isSome := by
    simp [Guarded.advance, Guarded.after, fragile, CircuitBreaker.enter, CallEvent.readings]
  exact (((LTS.Run.single (Guarded.step_next hretried)).cons (Guarded.step_next hfailed)).cons
    (Guarded.step_next hfirst))

end Example

theorem circuitOpen_iff_retry :
    Opens (Example.opening (.fin 30000)) 5 ∧
      (∃ err, Refuses (Example.retry (.fin 30000)) (.circuitOpen err)) :=
  have hopens : Opens (Example.opening (.fin 30000)) 5 :=
    ⟨⟨0, 5, 5, rfl⟩, by decide +kernel, by decide +kernel⟩
  ⟨hopens, (circuitOpen_iff (Example.run_path (by decide +kernel) (by decide +kernel)) hopens rfl
    (by decide +kernel)).2.mpr ⟨30005, by norm_num [Example.fragile, Number.add], by norm_num⟩⟩

/-- A breaker with an infinite cooldown throws a `RangeError`. -/
theorem no_circuitOpenError :
    Guarded.Step.Run (Example.fragile (.inf false)) (Example.path (.inf false))
        (Example.retried (.inf false)) ∧
      Opens (Example.opening (.inf false)) 5 ∧
      Number.lt (.fin 6) (Number.add (.fin 5) (.inf false)) = true ∧
      ¬ ∃ err, Refuses (Example.retry (.inf false)) (.circuitOpen err) := by
  have hrun := @Example.run_path (.inf false) (by decide +kernel) (by decide +kernel)
  refine ⟨hrun, ⟨⟨0, 5, 5, rfl⟩, by decide +kernel, by decide +kernel⟩, rfl, ?_⟩
  rintro ⟨err, herr⟩
  have hrefused : (Example.retried (.inf false)).refused = [(1, .rangeError)] := by
    decide +kernel
  have h := hrefused.symm.trans herr.refused
  cases congrArg Prod.snd (List.cons.inj h).1

end MipitCore.Resilience
