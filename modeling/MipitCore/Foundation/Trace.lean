import MipitCore.Foundation.Program
import Mathlib.Algebra.BigOperators.Group.Finset.Piecewise

/-!
# The traces of programs and of their interleavings

The trace of a program is the list of its calls with their outcomes. Which traces a
program has does not depend on the store, so that it can be worked out once for each
program, with the rules for a program that runs alone (`tracing`). In an interleaving,
the calls that one process made are a trace of its program (`eval_outcomesOf`), and
whatever is determined by the calls of all processes is a fold over them
(`observe_run`), or a sum over the processes (`countP_outcomes`).

## Main definitions

* `tracing` — calls that leave nothing but the trace
* `Traces` — what all traces of a program satisfy, by recursion on the program
* `Completes` — what they satisfy where the program returns
* `Follows` — a program that makes its calls in an order, as long as they succeed
* `traced` — calls that leave a trace beside the store
* `outcomes`, `outcomesOf` — the trace of an interleaving, and of one of its processes

## Main results

* `Traces.bind`, `Traces.tryCatch`, `Traces.perform` — the rules; `Traces.eval` and `Traces.evals`
* `Follows.traces` — the traces of a program that follows an order
* `eval_trace`, `observe_eval`, `observe_eval_last` — the trace of a program that runs alone, and
  what it determines
* `eval_outcomesOf`, `makes_run`, `observe_run`, `observe_last`, `countP_outcomes`
* `outcomes_split`, `append_cons_unique` — cutting an interleaving at a call
-/

namespace MipitCore.Foundation.Program

universe u

variable {κ : Type} {ρ : κ → Type} {ε α : Type} {σ : Type u}

/-- Calls that leave nothing but the trace, with outcomes that satisfy `P`. -/
def tracing (P : Outcome κ ρ ε → Prop) : Interp κ ρ ε (List (Outcome κ ρ ε)) := fun c s r t =>
  P ⟨c, r⟩ ∧ t = s ++ [⟨c, r⟩]

/-- Every trace of the program, with its result, satisfies `R`, if its outcomes satisfy `P`. -/
def Traces (P : Outcome κ ρ ε → Prop) : Program κ ρ ε α →
    (List (Outcome κ ρ ε) → Except ε α → Prop) → Prop
  | done r, R => R [] r
  | call c next, R => ∀ r, P ⟨c, r⟩ → (next r).Traces P fun trace => R (⟨c, r⟩ :: trace)

section Rules

variable {β : Type} {P : Outcome κ ρ ε → Prop} {p : Program κ ρ ε α}
  {R R' : List (Outcome κ ρ ε) → Except ε α → Prop}

theorem Traces.mono (hR : ∀ trace r, R trace r → R' trace r) (h : p.Traces P R) :
    p.Traces P R' := by
  induction p generalizing R R' with
  | done r => exact hR [] r h
  | call c next ih => exact fun r hr => ih r (fun trace => hR (⟨c, r⟩ :: trace)) (h r hr)

/-- The rule for sequences. -/
theorem Traces.bind {f : α → Program κ ρ ε β} {S : List (Outcome κ ρ ε) → Except ε β → Prop}
    (h : p.Traces P fun trace r => match r with
      | .ok a => (f a).Traces P fun more => S (trace ++ more)
      | .error e => S trace (.error e)) :
    (p >>= f).Traces P S := by
  change (p.bind f).Traces P S
  induction p generalizing S with
  | done r =>
    cases r with
    | ok a => exact h
    | error e => exact h
  | call c next ih => exact fun r hr => ih r (h r hr)

/-- The rule for `try`. -/
theorem Traces.tryCatch {handler : ε → Program κ ρ ε α}
    (h : p.Traces P fun trace r => match r with
      | .ok a => R trace (.ok a)
      | .error e => (handler e).Traces P fun more => R (trace ++ more)) :
    (p.tryCatch handler).Traces P R := by
  induction p generalizing R with
  | done r =>
    cases r with
    | ok a => exact h
    | error e => exact h
  | call c next ih => exact fun r hr => ih r (h r hr)

/-- The rule for one call. -/
theorem Traces.perform {c : κ} {R : List (Outcome κ ρ ε) → Except ε (ρ c) → Prop}
    (h : ∀ r, P ⟨c, r⟩ → R [⟨c, r⟩] r) : (Program.perform c : Program κ ρ ε (ρ c)).Traces P R := h

theorem Traces.pure {a : α} (h : R [] (.ok a)) :
    (Pure.pure a : Program κ ρ ε α).Traces P R := h

/-- The calls of a program are those that it makes. -/
theorem Traces.of_makes {Q : κ → Prop} (h : p.Makes Q) :
    p.Traces P fun trace _ => ∀ o ∈ trace, Q o.call := by
  induction p with
  | done r => exact fun o ho => absurd ho List.not_mem_nil
  | call c next ih =>
    intro r _
    refine (ih r (h.2 r)).mono fun trace _ hcalls o ho => ?_
    rcases List.mem_cons.mp ho with rfl | ho
    · exact h.1
    · exact hcalls o ho

theorem Traces.of_returns {Q : α → Prop} (h : p.Returns Q) :
    p.Traces P fun _ r => ∀ a, r = .ok a → Q a := by
  induction p with
  | done r =>
    intro a ha
    subst ha
    exact h
  | call c next ih => exact fun r _ => ih r (h r)

/-- What the traces satisfy of those runs that return, with the value that they return. -/
def Completes (P : Outcome κ ρ ε → Prop) (p : Program κ ρ ε α)
    (R : List (Outcome κ ρ ε) → α → Prop) : Prop :=
  p.Traces P fun trace r => ∀ a, r = .ok a → R trace a

theorem Completes.mono {R R' : List (Outcome κ ρ ε) → α → Prop} (h : p.Completes P R)
    (hR : ∀ trace a, R trace a → R' trace a) : p.Completes P R' :=
  Traces.mono (fun trace _ hr a ha => hR trace a (hr a ha)) h

theorem Completes.of_makes {Q : κ → Prop} (h : p.Makes Q) :
    p.Completes P fun trace _ => ∀ o ∈ trace, Q o.call :=
  (Traces.of_makes h).mono fun _ _ hcalls _ _ => hcalls

theorem Completes.pure {a : α} {R : List (Outcome κ ρ ε) → α → Prop} (h : R [] a) :
    (Pure.pure a : Program κ ρ ε α).Completes P R :=
  Traces.pure fun _ hb => Except.ok.inj hb ▸ h

theorem Completes.perform {c : κ} {R : List (Outcome κ ρ ε) → ρ c → Prop}
    (h : ∀ a, P ⟨c, .ok a⟩ → R [⟨c, .ok a⟩] a) :
    (Program.perform c : Program κ ρ ε (ρ c)).Completes P R := by
  refine Traces.perform fun r hr a ha => ?_
  subst ha
  exact h a hr

/-- The rule for sequences: both parts have completed. -/
theorem Completes.bind {f : α → Program κ ρ ε β} {R : List (Outcome κ ρ ε) → α → Prop}
    {S : List (Outcome κ ρ ε) → β → Prop} (h : p.Completes P R)
    (hf : ∀ trace a, R trace a → (f a).Completes P fun more b => S (trace ++ more) b) :
    (p >>= f).Completes P S := by
  refine Traces.bind (Traces.mono (fun trace r hr => ?_) h)
  cases r with
  | ok a => exact hf trace a (hr a rfl)
  | error e =>
    intro b hb
    cases hb

/-- A `try` whose handler always throws has completed as its body. -/
theorem Completes.tryCatch {handler : ε → Program κ ρ ε α}
    {R : List (Outcome κ ρ ε) → α → Prop} (h : p.Completes P R)
    (hhandler : ∀ e, (handler e).Returns fun _ => False) :
    (p.tryCatch handler).Completes P R := by
  refine Traces.tryCatch (Traces.mono (fun trace r hr => ?_) h)
  cases r with
  | ok a => exact hr
  | error e =>
    refine Traces.mono (fun more r' hr' a ha => ?_) (Traces.of_returns (hhandler e))
    exact (hr' a ha).elim

/-- Soundness of the rules. -/
theorem Traces.eval {r : Except ε α} {s t : List (Outcome κ ρ ε)} (h : p.Traces P R)
    (heval : p.Eval (tracing P) s r t) : ∃ trace, t = s ++ trace ∧ R trace r := by
  induction p generalizing R s with
  | done r₀ =>
    obtain ⟨rfl, rfl⟩ := heval
    exact ⟨[], by simp, h⟩
  | call c next ih =>
    obtain ⟨r₀, _, ⟨hP, rfl⟩, hnext⟩ := heval
    obtain ⟨trace, rfl, hR⟩ := ih r₀ (h r₀ hP) hnext
    exact ⟨⟨c, r₀⟩ :: trace, by simp, hR⟩

/-- What a program leaves before others have left anything, it leaves after them. -/
theorem eval_tracing_append {r : Except ε α} {s t : List (Outcome κ ρ ε)}
    (h : p.Eval (tracing P) s r t) (before : List (Outcome κ ρ ε)) :
    p.Eval (tracing P) (before ++ s) r (before ++ t) := by
  induction p generalizing s with
  | done r₀ =>
    obtain ⟨rfl, rfl⟩ := h
    exact ⟨rfl, rfl⟩
  | call c next ih =>
    obtain ⟨r₀, u, ⟨hP, rfl⟩, hnext⟩ := h
    exact ⟨r₀, _, ⟨hP, (List.append_assoc _ _ _).symm⟩, ih r₀ hnext⟩

/-- The traces are those that the program leaves when it runs. -/
theorem Traces.evals : p.Traces P fun trace r => p.Eval (tracing P) [] r trace := by
  induction p with
  | done r => exact ⟨rfl, rfl⟩
  | call c next ih =>
    exact fun r hr => (ih r).mono fun trace r' h => ⟨r, _, ⟨hr, rfl⟩, eval_tracing_append h [⟨c, r⟩]⟩

theorem Traces.and {R' : List (Outcome κ ρ ε) → Except ε α → Prop} (h : p.Traces P R)
    (h' : p.Traces P R') : p.Traces P fun trace r => R trace r ∧ R' trace r := by
  induction p generalizing R R' with
  | done r => exact ⟨h, h'⟩
  | call c next ih => exact fun r hr => ih r (h r hr) (h' r hr)

/-- The program makes calls that satisfy the properties in `order`, one after the other, as long as
they succeed; it throws what a call throws, and nothing else. -/
def Follows : Program κ ρ ε α → List (κ → Prop) → Prop
  | done (.ok _), order => order = []
  | done (.error _), _ => False
  | call _ _, [] => False
  | call c next, step :: order =>
    step c ∧ (∀ e, next (.error e) = done (.error e)) ∧ ∀ a, (next (.ok a)).Follows order

theorem Follows.bind {f : α → Program κ ρ ε β} {order order' : List (κ → Prop)}
    (h : p.Follows order) (hf : ∀ a, (f a).Follows order') : (p >>= f).Follows (order ++ order') := by
  change (p.bind f).Follows (order ++ order')
  induction p generalizing order with
  | done r =>
    cases r with
    | ok a =>
      obtain rfl : order = [] := h
      exact hf a
    | error e => exact h.elim
  | call c next ih =>
    cases order with
    | nil => exact h.elim
    | cons step order =>
      obtain ⟨hstep, herror, hnext⟩ := h
      refine ⟨hstep, fun e => ?_, fun a => ih _ (hnext a)⟩
      change (next (.error e)).bind f = _
      rw [herror e]
      rfl

theorem Follows.perform {c : κ} {step : κ → Prop} (h : step c) :
    (Program.perform c : Program κ ρ ε (ρ c)).Follows [step] :=
  ⟨h, fun _ => rfl, fun _ => rfl⟩

theorem Follows.cons {c : κ} {f : ρ c → Program κ ρ ε β} {step : κ → Prop}
    {order : List (κ → Prop)} (h : step c) (hf : ∀ a, (f a).Follows order) :
    ((Program.perform c : Program κ ρ ε (ρ c)) >>= f).Follows (step :: order) :=
  Follows.bind (Follows.perform h) hf

theorem Follows.pure {a : α} : (Pure.pure a : Program κ ρ ε α).Follows [] := rfl

/-- The calls of a trace are those of an order. -/
def InOrder (order : List (κ → Prop)) (trace : List (Outcome κ ρ ε)) : Prop :=
  List.Forall₂ (fun step o => step o.call) order trace

/-- Calls of one kind are made no more often than the order has steps of that kind. -/
theorem InOrder.countP_le {ι : Type} {steps : List ι} {makes : ι → κ → Prop}
    {trace : List (Outcome κ ρ ε)} (h : InOrder (steps.map makes) trace)
    {q : Outcome κ ρ ε → Bool} {kind : ι → Bool}
    (hq : ∀ i o, makes i o.call → q o = true → kind i = true) :
    trace.countP q ≤ steps.countP kind := by
  induction steps generalizing trace with
  | nil =>
    cases h
    exact le_rfl
  | cons i steps ih =>
    cases h with
    | @cons _ o _ trace hmakes hrest =>
      have hcount := ih hrest
      rw [List.countP_cons, List.countP_cons]
      by_cases ho : q o = true
      · rw [if_pos ho, if_pos (hq i o hmakes ho)]
        omega
      · rw [if_neg ho]
        omega

theorem InOrder.exists_step {order : List (κ → Prop)} {trace : List (Outcome κ ρ ε)}
    (h : InOrder order trace) {o : Outcome κ ρ ε} (ho : o ∈ trace) :
    ∃ step ∈ order, step o.call := by
  induction h with
  | nil => cases ho
  | cons hstep _ ih =>
    rcases List.mem_cons.mp ho with rfl | ho
    · exact ⟨_, List.mem_cons_self, hstep⟩
    · obtain ⟨step, hmem, hstep⟩ := ih ho
      exact ⟨step, List.mem_cons_of_mem _ hmem, hstep⟩

/-- All calls of an order were made, and succeeded. -/
def MadeAll (order : List (κ → Prop)) (trace : List (Outcome κ ρ ε)) : Prop :=
  InOrder order trace ∧ ∀ o ∈ trace, o.result.isOk = true

/-- The last of these calls is the first one that failed, with the error `e`. -/
def FailedIn (order : List (κ → Prop)) (trace : List (Outcome κ ρ ε)) (e : ε) : Prop :=
  ∃ before c, trace = before ++ [⟨c, .error e⟩] ∧ InOrder (order.take trace.length) trace ∧
    ∀ o ∈ before, o.result.isOk = true

/-- **The traces of a program that follows an order**: all of it, or up to the first call that
fails. -/
theorem Follows.traces {order : List (κ → Prop)} (h : p.Follows order) :
    p.Traces P fun trace r =>
      (∃ a, r = .ok a) ∧ MadeAll order trace ∨ ∃ e, r = .error e ∧ FailedIn order trace e := by
  induction p generalizing order with
  | done r =>
    cases r with
    | ok a =>
      obtain rfl : order = [] := h
      exact Or.inl ⟨⟨a, rfl⟩, .nil, by simp⟩
    | error e => exact h.elim
  | call c next ih =>
    cases order with
    | nil => exact h.elim
    | cons step order =>
      obtain ⟨hstep, herror, hnext⟩ := h
      intro r _
      cases r with
      | error e =>
        rw [herror e]
        exact Or.inr ⟨e, rfl, [], c, rfl, .cons hstep .nil, by simp⟩
      | ok a =>
        refine (ih (.ok a) (hnext a)).mono fun trace r hr => ?_
        rcases hr with ⟨hok, hcalls, hall⟩ | ⟨e, rfl, before, c', rfl, hcalls, hall⟩
        · exact Or.inl ⟨hok, .cons hstep hcalls, List.forall_mem_cons.mpr ⟨rfl, hall⟩⟩
        · exact Or.inr ⟨e, rfl, ⟨c, .ok a⟩ :: before, c', rfl, .cons hstep hcalls,
            List.forall_mem_cons.mpr ⟨rfl, hall⟩⟩

end Rules

/-- A value that is overwritten by some of the steps is the one that was written last. -/
theorem foldl_or {β γ : Type*} (g : γ → Option β) (ls : List γ) (b : Option β) :
    ls.foldl (fun b l => (g l).or b) b = (ls.filterMap g).getLast?.or b := by
  induction ls generalizing b with
  | nil => simp
  | cons l ls ih =>
    rw [List.foldl_cons, ih]
    cases hl : g l with
    | none => simp [hl]
    | some v =>
      rw [List.filterMap_cons_some hl, List.getLast?_cons]
      cases (ls.filterMap g).getLast? <;> simp

section Alone

variable {I : Interp κ ρ ε σ} {p : Program κ ρ ε α} {r : Except ε α}
  {s t : Recorded σ (Outcome κ ρ ε)}

/-- Calls leave a trace beside the store. -/
def traced (I : Interp κ ρ ε σ) :
    Interp κ ρ ε (Recorded σ (Outcome κ ρ ε)) := fun c s r t =>
  I c s.store r t.store ∧ t.history = s.history ++ [⟨c, r⟩]

/-- The trace that a program leaves is one of its traces. -/
theorem eval_trace (h : p.Eval (traced I) s r t) :
    p.Eval (tracing fun _ => True) s.history r t.history := by
  induction p generalizing s with
  | done r₀ =>
    obtain ⟨rfl, rfl⟩ := h
    exact ⟨rfl, rfl⟩
  | call c next ih =>
    obtain ⟨r₀, u, ⟨-, hhist⟩, hnext⟩ := h
    exact ⟨r₀, u.history, ⟨trivial, hhist⟩, ih r₀ hnext⟩

/-- **What calls determine is a fold over the trace.** -/
theorem observe_eval {β : Type*} {f : σ → β} {g : Outcome κ ρ ε → β → β}
    (hcall : ∀ c s r t, I c s r t → f t = g ⟨c, r⟩ (f s)) (h : p.Eval (traced I) s r t) :
    ∃ trace, t.history = s.history ++ trace ∧
      f t.store = trace.foldl (fun b o => g o b) (f s.store) := by
  induction p generalizing s with
  | done r₀ =>
    obtain ⟨-, rfl⟩ := h
    exact ⟨[], by simp, rfl⟩
  | call c next ih =>
    obtain ⟨r₀, u, ⟨hI, hhist⟩, hnext⟩ := h
    obtain ⟨trace, htrace, hfold⟩ := ih r₀ hnext
    refine ⟨⟨c, r₀⟩ :: trace, by simp [htrace, hhist], ?_⟩
    rw [hfold, hcall c _ r₀ _ hI, List.foldl_cons]

/-- What calls overwrite is what the trace wrote last. -/
theorem observe_eval_last {β : Type*} {f : σ → Option β} {g : Outcome κ ρ ε → Option β}
    (hcall : ∀ c s r t, I c s r t → f t = (g ⟨c, r⟩).or (f s)) (h : p.Eval (traced I) s r t) :
    ∃ trace, t.history = s.history ++ trace ∧
      f t.store = (trace.filterMap g).getLast?.or (f s.store) := by
  obtain ⟨trace, htrace, hfold⟩ := observe_eval (g := fun o b => (g o).or b) hcall h
  exact ⟨trace, htrace, by rw [hfold, foldl_or]⟩

end Alone

section Interleavings

variable {ι : Type} {I : ι → Interp κ ρ ε σ} {environment : σ → σ → Prop}
  {c d : Config σ ι (Program κ ρ ε α)}
  {path path' : List (Transition (Config σ ι (Program κ ρ ε α)) (Option (ι × Outcome κ ρ ε)))}

/-- The calls of an interleaving with their outcomes, and the processes that made them. -/
def outcomes (path : List (Transition (Config σ ι (Program κ ρ ε α))
    (Option (ι × Outcome κ ρ ε)))) : List (ι × Outcome κ ρ ε) :=
  path.filterMap fun e => e.label

@[simp] theorem outcomes_append : outcomes (path ++ path') = outcomes path ++ outcomes path' :=
  List.filterMap_append

@[simp] theorem outcomes_nil :
    outcomes ([] : List (Transition (Config σ ι (Program κ ρ ε α))
      (Option (ι × Outcome κ ρ ε)))) = [] := rfl

@[simp] theorem outcomes_call {l : ι × Outcome κ ρ ε} : outcomes [⟨c, some l, d⟩] = [l] := rfl

@[simp] theorem outcomes_environment : outcomes [⟨c, none, d⟩] = [] := rfl

@[simp] theorem mem_outcomes {l : ι × Outcome κ ρ ε} :
    l ∈ outcomes path ↔ ∃ e ∈ path, e.label = some l := by
  simp [outcomes]

/-- An interleaving can be cut at any of its calls. -/
theorem outcomes_split {before after : List (ι × Outcome κ ρ ε)} {l : ι × Outcome κ ρ ε}
    (h : outcomes path = before ++ l :: after) :
    ∃ path₁ e path₂, path = path₁ ++ e :: path₂ ∧ e.label = some l ∧ outcomes path₂ = after := by
  obtain ⟨path₁, rest, rfl, -, hrest⟩ := List.filterMap_eq_append_iff.mp h
  obtain ⟨between, e, path₂, rfl, -, he, hafter⟩ := List.filterMap_eq_cons_iff.mp hrest
  exact ⟨path₁ ++ between, e, path₂, by simp, he, hafter⟩

variable [DecidableEq ι]

/-- The calls that process `i` made. -/
def outcomesOf (i : ι) (path : List (Transition (Config σ ι (Program κ ρ ε α))
    (Option (ι × Outcome κ ρ ε)))) : List (Outcome κ ρ ε) :=
  (outcomes path).filterMap fun l => if l.1 = i then some l.2 else none

@[simp] theorem outcomesOf_append (i : ι) :
    outcomesOf i (path ++ path') = outcomesOf i path ++ outcomesOf i path' := by
  simp [outcomesOf]

@[simp] theorem mem_outcomesOf {i : ι} {o : Outcome κ ρ ε} :
    o ∈ outcomesOf i path ↔ (i, o) ∈ outcomes path := by
  simp [outcomesOf]

/-- **The calls of a process are a trace of its program.** -/
theorem eval_outcomesOf {P : Outcome κ ρ ε → Prop} {i : ι} {r : Except ε α}
    (hP : ∀ c s r t, I i c s r t → P ⟨c, r⟩)
    (h : (processes I environment).toLTS.Run c path d) (hdone : d.locals i = .done r) :
    (c.locals i).Eval (tracing P) [] r (outcomesOf i path) := by
  -- the invariant: what process `i` has left to do completes its trace
  have hrun := h.induct (I := fun path d => ∀ more, (d.locals i).Eval (tracing P)
      (outcomesOf i path) r more → (c.locals i).Eval (tracing P) [] r more)
    (fun more hmore => hmore) fun path d l e _ ih hstep more hmore => by
      rcases processes_cases hstep with ⟨j, k, next, r₀, hj, hl, hI, hlocals⟩ | ⟨hl, -, hlocals⟩
      · by_cases hij : j = i
        · subst hij
          refine ih more ?_
          rw [hj]
          refine ⟨r₀, _, ⟨hP _ _ _ _ hI, rfl⟩, ?_⟩
          simpa [hlocals, hl, outcomesOf, outcomes] using hmore
        · refine ih more ?_
          simpa [hlocals, hl, outcomesOf, outcomes, hij, Function.update_of_ne (Ne.symm hij)]
            using hmore
      · refine ih more ?_
        simpa [hlocals, hl, outcomesOf, outcomes] using hmore
  refine hrun _ ?_
  rw [hdone]
  exact ⟨rfl, rfl⟩

/-- A step leaves every process with calls of its program, and makes one of them at most. -/
theorem makes_step {P : ι → κ → Prop} {l : Option (ι × Outcome κ ρ ε)}
    (hmakes : ∀ i, (c.locals i).Makes (P i)) (hstep : (processes I environment).toLTS c l d) :
    (∀ i, (d.locals i).Makes (P i)) ∧ ∀ l', l = some l' → P l'.1 l'.2.call := by
  rcases processes_cases hstep with ⟨i, k, next, r, hi, hl, -, hlocals⟩ | ⟨hl, -, hlocals⟩
  · have hcall : P i k ∧ ∀ r, (next r).Makes (P i) := by
      have := hmakes i
      rwa [hi] at this
    refine ⟨fun j => ?_, fun l' hl' => ?_⟩
    · rw [hlocals]
      by_cases hj : j = i
      · subst hj
        rw [Function.update_self]
        exact hcall.2 r
      · rw [Function.update_of_ne hj]
        exact hmakes j
    · obtain rfl : l' = (i, ⟨k, r⟩) := Option.some.inj (hl'.symm.trans hl)
      exact hcall.1
  · refine ⟨by rwa [hlocals], fun l' hl' => ?_⟩
    cases hl.symm.trans hl'

/-- Every call of an interleaving is a call of its process's program. -/
theorem makes_run {P : ι → κ → Prop} (hmakes : ∀ i, (c.locals i).Makes (P i))
    (h : (processes I environment).toLTS.Run c path d) :
    (∀ i, (d.locals i).Makes (P i)) ∧ ∀ l ∈ outcomes path, P l.1 l.2.call := by
  refine h.induct (I := fun path d =>
    (∀ i, (d.locals i).Makes (P i)) ∧ ∀ l ∈ outcomes path, P l.1 l.2.call) ⟨hmakes, by simp⟩ ?_
  intro path d l e _ ih hstep
  obtain ⟨hlocals, hpath⟩ := ih
  obtain ⟨hlocals', hcall⟩ := makes_step hlocals hstep
  refine ⟨hlocals', fun l' hl' => ?_⟩
  rw [outcomes_append, List.mem_append] at hl'
  rcases hl' with hl' | hl'
  · exact hpath l' hl'
  · obtain ⟨e', he', hlabel⟩ := mem_outcomes.mp hl'
    obtain rfl := List.mem_singleton.mp he'
    exact hcall l' hlabel

/-- **What calls determine is a fold over the calls.** -/
theorem observe_run {β : Type*} {f : σ → β} {g : ι × Outcome κ ρ ε → β → β}
    (hcall : ∀ i c s r t, I i c s r t → f t = g (i, ⟨c, r⟩) (f s))
    (henv : ∀ s t, environment s t → f t = f s)
    (h : (processes I environment).toLTS.Run c path d) :
    f d.store = (outcomes path).foldl (fun b l => g l b) (f c.store) := by
  refine h.induct (I := fun path d =>
    f d.store = (outcomes path).foldl (fun b l => g l b) (f c.store)) rfl ?_
  intro path d l e _ ih hstep
  rcases processes_cases hstep with ⟨i, k, next, r, -, hl, hI, -⟩ | ⟨hl, hmove, -⟩
  · rw [hcall i k _ r _ hI, ih]
    simp [outcomes, hl]
  · rw [henv _ _ hmove, ih]
    simp [outcomes, hl]

/-- **What calls overwrite is what was written last.** -/
theorem observe_last {β : Type*} {f : σ → Option β} {g : ι × Outcome κ ρ ε → Option β}
    (hcall : ∀ i c s r t, I i c s r t → f t = (g (i, ⟨c, r⟩)).or (f s))
    (henv : ∀ s t, environment s t → f t = f s)
    (h : (processes I environment).toLTS.Run c path d) :
    f d.store = ((outcomes path).filterMap g).getLast?.or (f c.store) := by
  rw [observe_run (g := fun l b => (g l).or b) hcall henv h]
  exact foldl_or g _ _

/-- **Calls are counted process by process.** -/
theorem countP_outcomes [Fintype ι] (p : Outcome κ ρ ε → Bool) :
    (outcomes path).countP (fun l => p l.2) = ∑ i, (outcomesOf i path).countP p := by
  simp only [outcomesOf]
  induction outcomes path with
  | nil => simp
  | cons l ls ih =>
    obtain ⟨j, o⟩ := l
    have hcons : ∀ i, (((j, o) :: ls).filterMap fun l => if l.1 = i then some l.2 else none).countP p =
        (ls.filterMap fun l => if l.1 = i then some l.2 else none).countP p +
          if i = j then (if p o then 1 else 0) else 0 := by
      intro i
      by_cases hij : j = i
      · subst hij
        simp [List.countP_cons]
      · simp [hij, Ne.symm hij]
    simp only [List.countP_cons, hcons, Finset.sum_add_distrib, ih]
    simp

/-- Calls that only process `i` makes are counted in its trace. -/
theorem countP_outcomesOf {i : ι} {p : Outcome κ ρ ε → Bool}
    (hothers : ∀ l ∈ outcomes path, l.1 ≠ i → p l.2 = false) :
    (outcomes path).countP (fun l => p l.2) = (outcomesOf i path).countP p := by
  simp only [outcomesOf]
  generalize outcomes path = ls at hothers
  induction ls with
  | nil => rfl
  | cons l ls ih =>
    have hrest := ih fun l' hl' => hothers l' (List.mem_cons_of_mem _ hl')
    by_cases hl : l.1 = i
    · simp [List.countP_cons, hl, hrest]
    · simp [hl, hrest, hothers l List.mem_cons_self hl]

end Interleavings

/-- A list is cut in one way only at an entry that is the only one of its kind. -/
theorem append_cons_unique {γ : Type*} {q : γ → Bool} {before before' after after' : List γ}
    {x x' : γ} (h : before ++ x :: after = before' ++ x' :: after') (hx : q x = true)
    (hx' : q x' = true) (hone : (before ++ x :: after).countP q ≤ 1) :
    before = before' ∧ x = x' ∧ after = after' := by
  induction before generalizing before' with
  | nil =>
    cases before' with
    | nil =>
      obtain ⟨hhead, htail⟩ := List.cons.inj h
      exact ⟨rfl, hhead, htail⟩
    | cons y before' =>
      obtain ⟨rfl, rfl⟩ := List.cons.inj h
      simp [hx, hx'] at hone
  | cons y before ih =>
    cases before' with
    | nil =>
      obtain ⟨rfl, rfl⟩ := List.cons.inj h
      simp [hx, hx'] at hone
    | cons y' before' =>
      obtain ⟨rfl, htail⟩ := List.cons.inj h
      have hcount : (before ++ x :: after).countP q ≤ 1 := by
        rw [List.cons_append, List.countP_cons] at hone
        omega
      obtain ⟨rfl, hx, hafter⟩ := ih htail hcount
      exact ⟨rfl, hx, hafter⟩

end MipitCore.Foundation.Program
