import MipitCore.Foundation.Trace

/-!
# What a program has done before a call

Which call a program makes next depends on how its earlier calls have ended. `Ordered Q`
says that every call is made only after a history of the program's own calls that
allows it, in the sense of `Q`. Whatever other processes do in between, the calls of one
process are made in its order: `ordered_run` carries the property of each program to
all its interleavings.

## Main definitions

* `Discipline.ordering` — each call is allowed by the calls before it
* `Ordered` — a program that keeps to it, after the calls that it has made already
* `Placed` — a step of an order, after those before it

## Main results

* `Ordered.call`, `Ordered.bind`, `Ordered.tryCatch`, `Ordered.perform` — the rules
* `Ordered.with_traces`, `Ordered.after` — what a trace satisfies, and calls made beforehand
* `Follows.ordered` — programs that follow an order
* `ordered_locals`, `ordered_run`, `settled_run` — in an interleaving, each process keeps to its order
-/

namespace MipitCore.Foundation

variable {κ : Type} {ρ : κ → Type} {ε α β : Type}

/-- Nobody else adds to the history, and a call is added only if the history allows it. -/
def Discipline.ordering (Q : List (Outcome κ ρ ε) → κ → Prop) :
    Discipline (List (Outcome κ ρ ε)) where
  inv _ := True
  rely s t := t = s
  guarantee s t := ∀ o, t = s ++ [o] → Q s o.call
  refl _ := rfl
  trans _ _ _ h h' := h'.trans h

namespace Program

variable {P : Outcome κ ρ ε → Prop} {Q : List (Outcome κ ρ ε) → κ → Prop}
  {h : List (Outcome κ ρ ε)} {p : Program κ ρ ε α}

/-- After the calls `h`, whose outcomes are among those in `P`, the program makes only calls that
`Q` allows; where it settles, the history and the result satisfy `R`. -/
def Ordered (P : Outcome κ ρ ε → Prop) (Q : List (Outcome κ ρ ε) → κ → Prop) (p : Program κ ρ ε α)
    (R : List (Outcome κ ρ ε) → Except ε α → Prop) (h : List (Outcome κ ρ ε)) : Prop :=
  p.Safe (tracing P) (Discipline.ordering Q) R h

theorem ordered_done {r : Except ε α} {R : List (Outcome κ ρ ε) → Except ε α → Prop} (hR : R h r) :
    (done r : Program κ ρ ε α).Ordered P Q R h := by
  rintro h' - rfl
  exact hR

/-- The rule for a call: it is allowed, and what follows each of its outcomes is ordered. -/
theorem Ordered.call {c : κ} {next : Except ε (ρ c) → Program κ ρ ε α}
    {R : List (Outcome κ ρ ε) → Except ε α → Prop} (hQ : Q h c)
    (herror : ∀ e, P ⟨c, .error e⟩ → (next (.error e)).Ordered P Q R (h ++ [⟨c, .error e⟩]))
    (hok : ∀ a, P ⟨c, .ok a⟩ → (next (.ok a)).Ordered P Q R (h ++ [⟨c, .ok a⟩])) :
    (Program.call c next).Ordered P Q R h := by
  rintro h' - rfl r t ⟨hP, rfl⟩
  refine ⟨trivial, fun o ho => ?_, ?_⟩
  · obtain rfl := List.singleton_inj.mp (List.append_cancel_left ho)
    exact hQ
  · cases r with
    | error e => exact herror e hP
    | ok a => exact hok a hP

theorem Ordered.perform {c : κ} {R : List (Outcome κ ρ ε) → Except ε (ρ c) → Prop} (hQ : Q h c)
    (hR : ∀ r, P ⟨c, r⟩ → R (h ++ [⟨c, r⟩]) r) :
    (Program.perform c : Program κ ρ ε (ρ c)).Ordered P Q R h :=
  .call hQ (fun _ he => ordered_done (hR _ he)) fun _ ha => ordered_done (hR _ ha)

/-- The rule for sequences. -/
theorem Ordered.bind {f : α → Program κ ρ ε β} {R : List (Outcome κ ρ ε) → Except ε β → Prop}
    (hp : p.Ordered P Q (fun h r => match r with
      | .ok a => (f a).Ordered P Q R h
      | .error e => R h (.error e)) h) : (p >>= f).Ordered P Q R h :=
  Safe.bind hp

/-- The rule for `try`. -/
theorem Ordered.tryCatch {handler : ε → Program κ ρ ε α}
    {R : List (Outcome κ ρ ε) → Except ε α → Prop}
    (hp : p.Ordered P Q (fun h r => match r with
      | .ok a => R h (.ok a)
      | .error e => (handler e).Ordered P Q R h) h) : (p.tryCatch handler).Ordered P Q R h :=
  Safe.tryCatch hp

theorem Ordered.mono {R R' : List (Outcome κ ρ ε) → Except ε α → Prop}
    (hR : ∀ h r, R h r → R' h r) (hp : p.Ordered P Q R h) : p.Ordered P Q R' h :=
  Safe.mono (fun h r _ => hR h r) hp

/-- A program that makes a call was allowed to, and stays ordered. -/
theorem Ordered.step {c : κ} {next : Except ε (ρ c) → Program κ ρ ε α} {r : Except ε (ρ c)}
    {R : List (Outcome κ ρ ε) → Except ε α → Prop} (hp : (Program.call c next).Ordered P Q R h)
    (hr : P ⟨c, r⟩) : Q h c ∧ (next r).Ordered P Q R (h ++ [⟨c, r⟩]) := by
  obtain ⟨-, hQ, hnext⟩ := hp h trivial rfl r _ ⟨hr, rfl⟩
  exact ⟨hQ ⟨c, r⟩ rfl, hnext⟩

theorem Ordered.allow {Q' : List (Outcome κ ρ ε) → κ → Prop}
    {R : List (Outcome κ ρ ε) → Except ε α → Prop} (hp : p.Ordered P Q R h)
    (hQ : ∀ h c, Q h c → Q' h c) : p.Ordered P Q' R h := by
  induction p generalizing h with
  | done r => exact hp
  | call c next ih =>
    rintro h' - rfl r t ⟨hP, rfl⟩
    obtain ⟨-, hguarantee, hnext⟩ := hp h' trivial rfl r _ ⟨hP, rfl⟩
    exact ⟨trivial, fun o ho => hQ h' o.call (hguarantee o ho), ih r hnext⟩

/-- Calls that need no history are ordered. -/
theorem Ordered.of_makes {P' : κ → Prop} (hp : p.Makes P') (hQ : ∀ h c, P' c → Q h c) :
    p.Ordered P Q (fun _ _ => True) h := by
  induction p generalizing h with
  | done r => exact ordered_done trivial
  | call c next ih =>
    exact .call (hQ h c hp.1) (fun _ _ => ih _ (hp.2 _)) fun _ _ => ih _ (hp.2 _)

/-- What is true of all traces of a program is true of the calls that it has added when it settles. -/
theorem Ordered.with_traces {R T : List (Outcome κ ρ ε) → Except ε α → Prop}
    (hp : p.Ordered P Q R h) (htraces : p.Traces P T) :
    p.Ordered P Q (fun h' r => R h' r ∧ ∃ trace, h' = h ++ trace ∧ T trace r) h := by
  induction p generalizing h T with
  | done r =>
    rintro h' - rfl
    exact ⟨hp h' trivial rfl, [], (List.append_nil _).symm, htraces⟩
  | call c next ih =>
    rintro h' - rfl r t ⟨hP, rfl⟩
    obtain ⟨-, hguarantee, hnext⟩ := hp h' trivial rfl r _ ⟨hP, rfl⟩
    refine ⟨trivial, hguarantee, (ih r hnext (htraces r hP)).mono fun h'' r' hr => ?_⟩
    obtain ⟨hR, trace, rfl, hT⟩ := hr
    exact ⟨hR, ⟨c, r⟩ :: trace, (List.append_cons h' _ trace).symm, hT⟩

/-- A program that is ordered by its own calls is so after calls that were made before it started. -/
theorem Ordered.after {R : List (Outcome κ ρ ε) → Except ε α → Prop} (hp : p.Ordered P Q R h)
    (before : List (Outcome κ ρ ε)) :
    p.Ordered P (fun h' c => ∃ own, h' = before ++ own ∧ Q own c)
      (fun h' r => ∃ own, h' = before ++ own ∧ R own r) (before ++ h) := by
  induction p generalizing h with
  | done r => exact ordered_done ⟨h, rfl, hp h trivial rfl⟩
  | call c next ih =>
    rintro h' - rfl r t ⟨hP, rfl⟩
    obtain ⟨hQ, hnext⟩ := hp.step hP
    refine ⟨trivial, fun o ho => ?_, ?_⟩
    · obtain rfl := List.singleton_inj.mp (List.append_cancel_left ho)
      exact ⟨h, rfl, hQ⟩
    · rw [List.append_assoc]
      exact ih r hnext

/-- Each step of an order has its call in the trace. -/
theorem InOrder.exists_outcome {order : List (κ → Prop)} {trace : List (Outcome κ ρ ε)}
    (hcalls : InOrder order trace) {step : κ → Prop} (hstep : step ∈ order) :
    ∃ o ∈ trace, step o.call := by
  induction hcalls with
  | nil => cases hstep
  | cons ho _ ih =>
    rcases List.mem_cons.mp hstep with rfl | hstep
    · exact ⟨_, List.mem_cons_self, ho⟩
    · obtain ⟨o, hmem, ho⟩ := ih hstep
      exact ⟨o, List.mem_cons_of_mem _ hmem, ho⟩

/-- The call is a step of the order, and the steps before it were made and succeeded. -/
def Placed (order : List (κ → Prop)) (h : List (Outcome κ ρ ε)) (c : κ) : Prop :=
  ∃ n step, order[n]? = some step ∧ step c ∧ MadeAll (order.take n) h

/-- **A program that follows an order keeps to it**: it makes each step after those before it. -/
theorem Follows.ordered {order made rest : List (κ → Prop)} (hp : p.Follows rest)
    (horder : order = made ++ rest) (hmade : MadeAll made h) :
    p.Ordered P (Placed order) (fun _ _ => True) h := by
  induction p generalizing made rest h with
  | done r => exact ordered_done trivial
  | call c next ih =>
    cases rest with
    | nil => exact hp.elim
    | cons step rest =>
      obtain ⟨hstep, herror, hnext⟩ := hp
      subst horder
      refine .call ⟨made.length, step, ?_, hstep, ?_⟩ (fun e _ => ?_) fun a _ => ?_
      · simp
      · simpa using hmade
      · rw [herror e]
        exact ordered_done trivial
      · refine ih (.ok a) (hnext a) (List.append_cons made step rest) ⟨?_, ?_⟩
        · exact List.rel_append hmade.1 (.cons hstep .nil)
        · exact List.forall_mem_append.mpr ⟨hmade.2, by simp [Except.isOk, Except.toBool]⟩

/-! ### Interleavings -/

section Interleavings

universe u

variable {σ : Type u} {ι : Type} [DecidableEq ι] {I : ι → Interp κ ρ ε σ}
  {environment : σ → σ → Prop} {allows : ι → List (Outcome κ ρ ε) → κ → Prop}
  {settles : ι → List (Outcome κ ρ ε) → Except ε α → Prop}
  {c d : Config σ ι (Program κ ρ ε α)}
  {path : List (Transition (Config σ ι (Program κ ρ ε α)) (Option (ι × Outcome κ ρ ε)))}

/-- What is left of each program is ordered after the calls that its process has made. -/
theorem ordered_locals (hP : ∀ i c s r t, I i c s r t → P ⟨c, r⟩)
    (hordered : ∀ i, (c.locals i).Ordered P (allows i) (settles i) [])
    (h : (processes I environment).toLTS.Run c path d) (i : ι) :
    (d.locals i).Ordered P (allows i) (settles i) (outcomesOf i path) := by
  refine h.induct (I := fun path d =>
    (d.locals i).Ordered P (allows i) (settles i) (outcomesOf i path)) (hordered i) ?_
  intro path d l e _ ih hstep
  rw [outcomesOf_append]
  rcases processes_cases hstep with ⟨j, k, next, r, hj, rfl, hI, hlocals⟩ | ⟨rfl, -, hlocals⟩
  · rw [hlocals]
    by_cases hij : j = i
    · subst hij
      rw [hj] at ih
      simpa [outcomesOf] using (ih.step (hP _ _ _ _ _ hI)).2
    · simpa [outcomesOf, hij, Function.update_of_ne (Ne.symm hij)] using ih
  · rw [hlocals]
    simpa [outcomesOf] using ih

/-- **In an interleaving, each process keeps to its order**: a call is allowed by those that its
process has made before. -/
theorem ordered_run (hP : ∀ i c s r t, I i c s r t → P ⟨c, r⟩)
    (hordered : ∀ i, (c.locals i).Ordered P (allows i) (settles i) [])
    {before after : List (Transition (Config σ ι (Program κ ρ ε α)) (Option (ι × Outcome κ ρ ε)))}
    {e : Transition (Config σ ι (Program κ ρ ε α)) (Option (ι × Outcome κ ρ ε))} {i : ι}
    {o : Outcome κ ρ ε} (h : (processes I environment).toLTS.Run c (before ++ e :: after) d)
    (hlabel : e.label = some (i, o)) : allows i (outcomesOf i before) o.call ∧ P o := by
  obtain ⟨hbefore, hstep, -⟩ := h.split
  have hlocal := ordered_locals hP hordered hbefore i
  rcases processes_cases hstep with ⟨j, k, next, r, hj, hl, hI, -⟩ | ⟨hl, -, -⟩
  · obtain ⟨rfl, rfl⟩ := Prod.mk.inj (Option.some.inj (hlabel.symm.trans hl))
    rw [hj] at hlocal
    exact ⟨(hlocal.step (hP _ _ _ _ _ hI)).1, hP _ _ _ _ _ hI⟩
  · cases hlabel.symm.trans hl

/-- A process has settled with what its program settles with after the calls that it has made. -/
theorem settled_run (hP : ∀ i c s r t, I i c s r t → P ⟨c, r⟩)
    (hordered : ∀ i, (c.locals i).Ordered P (allows i) (settles i) [])
    (h : (processes I environment).toLTS.Run c path d) {i : ι} {r : Except ε α}
    (hdone : d.locals i = .done r) : settles i (outcomesOf i path) r := by
  have hlocal := ordered_locals hP hordered h i
  rw [hdone] at hlocal
  exact hlocal _ trivial rfl

end Interleavings

end Program

end MipitCore.Foundation
