import MipitCore.Resilience.CircuitBreaker

/-!
# The probes of a half-open breaker

A half-open breaker is meant to let a single call through, and to close or to open again by what that
call reports. But it lets every call through that finds it half open, and takes the first outcome
that arrives for that of the probe, also that of a call from before it opened. So there is a single
probe only where nothing else happens while it runs.

## Main definitions

* `Guarded.probes` — the calls that were started since the breaker became half open
* `SingleProbe`, `AwaitsProbe` — what is promised of a step, and what it takes

## Main results

* `singleProbe_iff` — a run keeps the promise exactly if each of its steps waits for the probe
-/

namespace MipitCore.Resilience

open Js Foundation

/-! ### What is promised -/

/-- The running calls that were started since the breaker last became half open. -/
def Guarded.probes (s : Guarded) : List RunningCall :=
  s.running.filter fun r => r.period = s.period

/-- The call whose outcome an event is. -/
def CallEvent.outcomeOf : CallEvent → Option ℕ
  | execute _ => none
  | succeeded call => some call
  | failed call _ _ _ => some call

/-- The event is the outcome of a probe. -/
def Guarded.SettlesProbe (s : Guarded) (l : CallEvent) : Prop :=
  ∃ r ∈ s.probes, l.outcomeOf = some r.call

instance (s : Guarded) (l : CallEvent) : Decidable (s.SettlesProbe l) :=
  inferInstanceAs (Decidable (∃ r ∈ s.probes, l.outcomeOf = some r.call))

/-- While the breaker is half open there is one probe, and only its outcome ends that. -/
structure SingleProbe (e : Transition Guarded CallEvent) : Prop where
  single : e.target.breaker.state = .halfOpen → e.target.probes.length ≤ 1
  outcome : e.source.breaker.state = .halfOpen → e.target.breaker.state ≠ .halfOpen →
    e.source.SettlesProbe e.label

/-- Nothing happens to a half-open breaker but that its probe settles. -/
def AwaitsProbe (s : Guarded) (l : CallEvent) : Prop :=
  s.breaker.state = .halfOpen → s.SettlesProbe l

instance (s : Guarded) (l : CallEvent) : Decidable (AwaitsProbe s l) :=
  inferInstanceAs (Decidable (s.breaker.state = .halfOpen → s.SettlesProbe l))

section

variable {b b' : CircuitBreaker} {s t x y : Guarded} {l : CallEvent}
  {path : List (Transition Guarded CallEvent)}

/-! ### When a breaker is half open -/

theorem enter_ok {now : ℚ} (h : b.enter now = .ok b') :
    b.state = .opened ∧ b'.state = .halfOpen ∨ b.state ≠ .opened ∧ b' = b := by
  unfold CircuitBreaker.enter at h
  split_ifs at h with hopened helapsed
  · exact Or.inl ⟨hopened, Except.ok.inj h ▸ rfl⟩
  · exact Or.inr ⟨hopened, (Except.ok.inj h).symm⟩

/-- No success leaves a breaker half open. -/
theorem onSuccess_state_ne (b : CircuitBreaker) : b.onSuccess.state ≠ .halfOpen := by
  simp only [CircuitBreaker.onSuccess]
  split_ifs with hhalf
  · simp [CircuitBreaker.transitionTo]
  · exact hhalf

/-- Nor does a failure. -/
theorem onFailure_state_ne (b : CircuitBreaker) (now pruneAt openAt : ℚ) :
    (b.onFailure now pruneAt openAt).state ≠ .halfOpen := by
  obtain ⟨b', -, -, hstate, -, ⟨heq, -⟩ | ⟨heq, hne⟩⟩ := onFailure_cases b now pruneAt openAt
  · rw [heq]
    simp [CircuitBreaker.transitionTo]
  · rwa [heq, hstate]

/-- **What a step does to the probes.** A call may be the first one, that makes an open breaker
half open; it may be let through without that, or be refused; and an outcome leaves no breaker
half open. -/
theorem Guarded.Step.probes_cases (h : Guarded.Step s l t) :
    (∃ now, l = .execute now ∧ s.breaker.state = .opened ∧ t.breaker.state = .halfOpen ∧
      t.period = s.period + 1 ∧ t.running = ⟨s.calls, s.period + 1⟩ :: s.running) ∨
    (∃ now, l = .execute now ∧ t.breaker = s.breaker ∧ s.breaker.state ≠ .opened ∧
      t.period = s.period ∧ t.running = ⟨s.calls, s.period⟩ :: s.running) ∨
    (∃ now, l = .execute now ∧ t.breaker = s.breaker ∧ s.breaker.state = .opened ∧
      t.period = s.period ∧ t.running = s.running) ∨
    (∃ call, l.outcomeOf = some call ∧ t.breaker.state ≠ .halfOpen ∧ t.period = s.period ∧
      t.running = s.running.filter fun r => r.call ≠ call) := by
  rcases h.cases with ⟨now, b', hl, henter, ht⟩ | ⟨now, refusal, hl, henter, ht⟩ |
    ⟨call, rfl, -, ht⟩ | ⟨call, now, pruneAt, openAt, rfl, -, ht⟩
  · rcases enter_ok henter with ⟨hopened, hhalf⟩ | ⟨hopened, rfl⟩
    · refine Or.inl ⟨now, hl, hopened, ?_⟩
      rw [ht]
      simp [Guarded.start, hopened, hhalf]
    · refine Or.inr (Or.inl ⟨now, hl, ?_⟩)
      rw [ht]
      simp [Guarded.start, hopened]
  · have hopened : s.breaker.state = .opened := by
      by_contra hopened
      rw [CircuitBreaker.enter, if_neg hopened] at henter
      cases henter
    refine Or.inr (Or.inr (Or.inl ⟨now, hl, ?_⟩))
    rw [ht]
    exact ⟨rfl, hopened, rfl, rfl⟩
  · refine Or.inr (Or.inr (Or.inr ⟨call, rfl, ?_⟩))
    rw [ht]
    exact ⟨onSuccess_state_ne _, rfl, rfl⟩
  · refine Or.inr (Or.inr (Or.inr ⟨call, rfl, ?_⟩))
    rw [ht]
    exact ⟨onFailure_state_ne _ _ _ _, rfl, rfl⟩

/-! ### Runs -/

/-- No running call is of a later period than the present one, and a half-open breaker has one
probe. -/
structure Probed (s : Guarded) : Prop where
  past : ∀ r ∈ s.running, r.period ≤ s.period
  one : s.breaker.state = .halfOpen → s.probes.length = 1

theorem Guarded.New.probed (h : s.New) : Probed s := by
  obtain ⟨⟨serviceName, options, hbreaker⟩, hnone⟩ := h
  exact ⟨by simp [hnone], by simp [hbreaker]⟩

/-- The first call of a period is its only probe. -/
theorem probes_first (hpast : ∀ r ∈ s.running, r.period ≤ s.period)
    (hperiod : t.period = s.period + 1)
    (hrunning : t.running = ⟨s.calls, s.period + 1⟩ :: s.running) : t.probes.length = 1 := by
  have hnone : s.running.filter (fun r => r.period = s.period + 1) = [] := by
    rw [List.filter_eq_nil_iff]
    intro r hr heq
    have hle := hpast r hr
    have := of_decide_eq_true heq
    omega
  simp [Guarded.probes, hperiod, hrunning, hnone]

theorem probes_next (hperiod : t.period = s.period)
    (hrunning : t.running = ⟨s.calls, s.period⟩ :: s.running) :
    t.probes.length = s.probes.length + 1 := by
  simp [Guarded.probes, hperiod, hrunning]

/-- A step that waits for the probe keeps the promise. -/
theorem Probed.step (hs : Probed s) (h : Guarded.Step s l t) (hawaits : AwaitsProbe s l) :
    Probed t ∧ SingleProbe ⟨s, l, t⟩ := by
  rcases h.probes_cases with ⟨now, rfl, hopened, hhalf, hperiod, hrunning⟩ |
    ⟨now, rfl, hbreaker, hopened, hperiod, hrunning⟩ |
    ⟨now, rfl, hbreaker, hopened, hperiod, hrunning⟩ | ⟨call, hcall, hhalf, hperiod, hrunning⟩
  · have hone := probes_first hs.past hperiod hrunning
    refine ⟨⟨?_, fun _ => hone⟩, ⟨fun _ => hone.le, fun hsource => ?_⟩⟩
    · rw [hrunning, hperiod]
      exact List.forall_mem_cons.mpr ⟨le_rfl, fun r hr => (hs.past r hr).trans (Nat.le_succ _)⟩
    · rw [hopened] at hsource
      cases hsource
  · -- a half-open breaker would have let a second call through
    have hnot : s.breaker.state ≠ .halfOpen := fun hhalf => by
      obtain ⟨r, -, hnone⟩ := hawaits hhalf
      cases hnone
    refine ⟨⟨?_, fun htarget => absurd (hbreaker ▸ htarget) hnot⟩,
      ⟨fun htarget => absurd (hbreaker ▸ htarget) hnot, fun hsource => absurd hsource hnot⟩⟩
    rw [hrunning, hperiod]
    exact List.forall_mem_cons.mpr ⟨le_rfl, hs.past⟩
  · have hnot : s.breaker.state ≠ .halfOpen := by simp [hopened]
    refine ⟨⟨by rw [hrunning, hperiod]; exact hs.past, fun htarget => ?_⟩,
      ⟨fun htarget => ?_, fun hsource => absurd hsource hnot⟩⟩
    · exact absurd (hbreaker ▸ htarget) hnot
    · exact absurd (hbreaker ▸ htarget) hnot
  · refine ⟨⟨?_, fun htarget => absurd htarget hhalf⟩,
      ⟨fun htarget => absurd htarget hhalf, fun hsource _ => hawaits hsource⟩⟩
    rw [hrunning, hperiod]
    exact fun r hr => hs.past r (List.mem_of_mem_filter hr)

/-- Only such a step does. -/
theorem Probed.awaits (hs : Probed s) (h : Guarded.Step s l t) (hgood : SingleProbe ⟨s, l, t⟩) :
    AwaitsProbe s l := by
  intro hhalf
  rcases h.probes_cases with ⟨now, rfl, hopened, -, -, -⟩ |
    ⟨now, rfl, hbreaker, -, hperiod, hrunning⟩ | ⟨now, rfl, -, hopened, -, -⟩ |
    ⟨call, -, htarget, -, -⟩
  · rw [hopened] at hhalf
    cases hhalf
  · have htwo := probes_next hperiod hrunning
    have hone := hs.one hhalf
    have hle : t.probes.length ≤ 1 := hgood.single (hbreaker ▸ hhalf)
    omega
  · rw [hopened] at hhalf
    cases hhalf
  · exact hgood.outcome hhalf htarget

/-- **The single probe**: a breaker has one in each of its half-open times, and follows its outcome,
exactly if while it is half open no call comes and no other outcome arrives. -/
theorem singleProbe_iff (hnew : x.New) (hrun : Guarded.Step.Run x path y) :
    (∀ e ∈ path, SingleProbe e) ↔ ∀ e ∈ path, AwaitsProbe e.source e.label :=
  hrun.forall_iff AwaitsProbe hnew.probed (fun _ _ _ hs hstep hawaits => hs.step hstep hawaits)
    fun _ _ _ hs hstep hgood => hs.awaits hstep hgood

end

/-! ### Two probes, and the outcome of neither -/

namespace Example

/-- The run of a breaker that opens with its first failure. -/
def runOf (events : List CallEvent) : List (Transition Guarded CallEvent) × Guarded :=
  LTS.follow Guarded.advance events (fragile (.fin 30000))

theorem run_runOf (events : List CallEvent) :
    Guarded.Step.Run (fragile (.fin 30000)) (runOf events).1 (runOf events).2 :=
  LTS.run_follow Guarded.step_advance _ _

theorem new_fragile (cooldownMs : Number) : (fragile cooldownMs).New :=
  ⟨⟨_, _, rfl⟩, rfl⟩

/-- A call fails, and after the cooldown the next one succeeds. -/
def recovering : List CallEvent :=
  [.execute 4, .failed 0 5 5 5, .execute 30005, .succeeded 1, .execute 30006]

/-- Of two calls one fails at once; after the cooldown two more come, and then the other one
fails. -/
def hasty : List CallEvent :=
  [.execute 4, .execute 4, .failed 0 5 5 5, .execute 30005, .execute 30006,
    .failed 1 30007 30007 30007]

end Example

theorem singleProbe_iff_recovering :
    Guarded.Step.Run (Example.fragile (.fin 30000)) (Example.runOf Example.recovering).1
        (Example.runOf Example.recovering).2 ∧
      ∀ e ∈ (Example.runOf Example.recovering).1, SingleProbe e :=
  ⟨Example.run_runOf _,
    (singleProbe_iff (Example.new_fragile _) (Example.run_runOf _)).mpr (by decide +kernel)⟩

/-- A half-open breaker runs two calls, and opens for the failure of a third. -/
theorem two_probes :
    (Example.fragile (.fin 30000)).New ∧
      Guarded.Step.Run (Example.fragile (.fin 30000)) (Example.runOf Example.hasty).1
        (Example.runOf Example.hasty).2 ∧
      (∃ e ∈ (Example.runOf Example.hasty).1,
        e.target.breaker.state = .halfOpen ∧ e.target.probes.length = 2) ∧
      (∃ e ∈ (Example.runOf Example.hasty).1, e.source.breaker.state = .halfOpen ∧
        e.target.breaker.state = .opened ∧ ¬ e.source.SettlesProbe e.label) ∧
      ¬ ∀ e ∈ (Example.runOf Example.hasty).1, SingleProbe e := by
  have htwo : ∃ e ∈ (Example.runOf Example.hasty).1,
      e.target.breaker.state = .halfOpen ∧ e.target.probes.length = 2 := by decide +kernel
  refine ⟨Example.new_fragile _, Example.run_runOf _, htwo, by decide +kernel, fun h => ?_⟩
  obtain ⟨e, he, hhalf, hlength⟩ := htwo
  have hle := (h e he).single hhalf
  omega

end MipitCore.Resilience
