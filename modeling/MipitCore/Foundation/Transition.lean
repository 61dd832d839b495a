import Mathlib.Data.List.Basic
import Mathlib.Logic.Function.Basic

/-!
# Transition systems, their runs, and families of processes over one store

A labelled transition system is a relation `σ → α → σ → Prop`. A run records the transitions it took,
with the state before and after each, so that a statement about a run can speak
of what held at the moment a given step was taken.

A family of processes over one shared store is the system in which any process
may take its next atomic step at any time. `Processes.run_invariant` is the
rely-guarantee rule: a per-process assertion survives every interleaving when
its own steps preserve it and it is stable under what a step of anybody may do
to the store.

## Main definitions

* `Transition`, `LTS.Run` — the steps of a run, with source and target
* `LTS.Run.induct` — the invariant rule over the path and the state
* `LTS.follow` — the run of a step function
* `Processes` — processes over a shared store, with an environment
* `Processes.toLTS` — their interleaving

## Main results

* `LTS.Run.split` — every transition of a run was taken from a state the run reached, and
  the run went on from its target
* `LTS.Run.forall_steps`, `LTS.Run.forall_iff` — which steps keep a run good
* `Processes.run_invariant` — the rely-guarantee rule
-/

namespace MipitCore.Foundation

universe u v w x

/-- One step of a run: the state it was taken in, its label, and the state after it. -/
structure Transition (σ : Type u) (α : Type v) where
  source : σ
  label : α
  target : σ

/-- A labelled transition system on states `σ` with labels `α`. -/
abbrev LTS (σ : Type u) (α : Type v) := σ → α → σ → Prop

namespace LTS

variable {σ : Type u} {α : Type v} {T : LTS σ α} {s t : σ} {path : List (Transition σ α)}

/-- `T.Run s path t`: from `s` the transitions `path` lead to `t`. -/
inductive Run (T : LTS σ α) (s : σ) : List (Transition σ α) → σ → Prop
  | nil : Run T s [] s
  | snoc {path : List (Transition σ α)} {t u : σ} {l : α} :
      Run T s path t → T t l u → Run T s (path ++ [⟨t, l, u⟩]) u

theorem Run.single {l : α} (h : T s l t) : T.Run s [⟨s, l, t⟩] t := by
  simpa using Run.nil.snoc h

theorem Run.append {path' : List (Transition σ α)} {u : σ}
    (h : T.Run s path t) (h' : T.Run t path' u) : T.Run s (path ++ path') u := by
  induction h' with
  | nil => simpa using h
  | snoc _ hstep ih =>
    rw [← List.append_assoc]
    exact ih.snoc hstep

theorem Run.cons {l : α} {u : σ} (hstep : T s l u) (h : T.Run u path t) :
    T.Run s (⟨s, l, u⟩ :: path) t := by
  simpa using (Run.single hstep).append h

/-- The invariant rule: what holds of the empty path and is preserved by every
step holds of every run. -/
theorem Run.induct {I : List (Transition σ α) → σ → Prop} (hinit : I [] s)
    (hstep : ∀ path t l u, T.Run s path t → I path t → T t l u →
      I (path ++ [⟨t, l, u⟩]) u)
    (h : T.Run s path t) : I path t := by
  induction h with
  | nil => exact hinit
  | snoc hrun hlast ih => exact hstep _ _ _ _ hrun ih hlast

/-- State invariants: the special case that ignores the path. -/
theorem Run.invariant {I : σ → Prop} (hinit : I s)
    (hstep : ∀ t l u, I t → T t l u → I u) (h : T.Run s path t) : I t :=
  h.induct (I := fun _ t => I t) hinit fun _ t l u _ ht hlast => hstep t l u ht hlast

/-- A run can be cut at any of its transitions: up to it, the step itself, and from its target
on. -/
theorem Run.split {before after : List (Transition σ α)} {e : Transition σ α}
    (h : T.Run s (before ++ e :: after) t) :
    T.Run s before e.source ∧ T e.source e.label e.target ∧ T.Run e.target after t := by
  generalize hpath : before ++ e :: after = path at h
  induction h generalizing after with
  | nil => simp at hpath
  | @snoc path t u l hrun hlast ih =>
    rcases List.eq_nil_or_concat after with rfl | ⟨rest, x, rfl⟩
    · obtain ⟨rfl, hx⟩ := List.append_inj' hpath rfl
      obtain rfl := List.singleton_inj.mp hx
      exact ⟨hrun, hlast, .nil⟩
    · rw [List.concat_eq_append, ← List.cons_append, ← List.append_assoc] at hpath
      obtain ⟨rfl, hx⟩ := List.append_inj' hpath rfl
      obtain rfl := List.singleton_inj.mp hx
      obtain ⟨hbefore, hstep, hafter⟩ := ih rfl
      exact ⟨hbefore, hstep, by simpa using hafter.snoc hlast⟩

/-- Every transition of a run was a step. -/
theorem Run.step_of_mem (h : T.Run s path t) {e : Transition σ α} (he : e ∈ path) :
    T e.source e.label e.target := by
  obtain ⟨before, after, rfl⟩ := List.append_of_mem he
  exact h.split.2.1

/-- Where the steps that satisfy `Ok` keep an invariant and are `Good`, a run of such steps is. -/
theorem Run.forall_steps {I : σ → Prop} {Good : Transition σ α → Prop} {Ok : σ → α → Prop}
    (hinit : I s) (hstep : ∀ t l u, I t → T t l u → Ok t l → I u ∧ Good ⟨t, l, u⟩)
    (h : T.Run s path t) (hok : ∀ e ∈ path, Ok e.source e.label) : I t ∧ ∀ e ∈ path, Good e := by
  induction h with
  | nil => exact ⟨hinit, by simp⟩
  | @snoc path t u l _ hlast ih =>
    rw [List.forall_mem_append, List.forall_mem_singleton] at hok
    obtain ⟨ht, hpath⟩ := ih hok.1
    obtain ⟨hu, hgood⟩ := hstep t l u ht hlast hok.2
    exact ⟨hu, List.forall_mem_append.mpr ⟨hpath, List.forall_mem_singleton.mpr hgood⟩⟩

/-- **What holds all along a run, step by step.** If moreover only the steps that satisfy `Ok` are
`Good`, all steps are `Good` exactly if all of them satisfy `Ok`. -/
theorem Run.forall_iff {I : σ → Prop} {Good : Transition σ α → Prop} (Ok : σ → α → Prop)
    (hinit : I s) (hstep : ∀ t l u, I t → T t l u → Ok t l → I u ∧ Good ⟨t, l, u⟩)
    (hok : ∀ t l u, I t → T t l u → Good ⟨t, l, u⟩ → Ok t l) (h : T.Run s path t) :
    (∀ e ∈ path, Good e) ↔ ∀ e ∈ path, Ok e.source e.label := by
  refine ⟨fun hall => ?_, fun hall => (h.forall_steps hinit hstep hall).2⟩
  induction h with
  | nil => simp
  | @snoc path t u l hrun hlast ih =>
    rw [List.forall_mem_append, List.forall_mem_singleton] at hall ⊢
    have hpath := ih hall.1
    have ht := (hrun.forall_steps hinit hstep hpath).1
    exact ⟨hpath, hok t l u ht hlast hall.2⟩

/-- The run of a step function on a list of labels; labels that are not enabled are passed over. -/
def follow (step : σ → α → Option σ) : List α → σ → List (Transition σ α) × σ
  | [], s => ([], s)
  | a :: as, s =>
    match step s a with
    | none => follow step as s
    | some t => (⟨s, a, t⟩ :: (follow step as t).1, (follow step as t).2)

theorem run_follow {step : σ → α → Option σ} (hstep : ∀ s a t, step s a = some t → T s a t)
    (as : List α) (s : σ) : T.Run s (follow step as s).1 (follow step as s).2 := by
  induction as generalizing s with
  | nil => exact .nil
  | cons a as ih =>
    cases h : step s a with
    | none => simpa only [follow, h] using ih s
    | some t =>
      simp only [follow, h]
      exact (ih t).cons (hstep s a t h)

end LTS

/-! ### Processes over a shared store -/

/-- A store and the local state of every process. -/
structure Config (σ : Type u) (ι : Type v) (ℓ : Type w) where
  store : σ
  locals : ι → ℓ

/-- Processes `ι` with local states `ℓ` over a store `σ`: the atomic steps each of them may take,
and the moves of the environment. -/
structure Processes (σ : Type u) (ι : Type v) (ℓ : Type w) (α : Type x) where
  step : ι → σ → ℓ → α → σ → ℓ → Prop
  environment : σ → σ → Prop

namespace Processes

variable {σ : Type u} {ι : Type v} {ℓ : Type w} {α : Type x} [DecidableEq ι]

/-- Any process, or the environment, may move next. -/
inductive Interleaved (P : Processes σ ι ℓ α) :
    Config σ ι ℓ → Option (ι × α) → Config σ ι ℓ → Prop
  | process {c : Config σ ι ℓ} {i : ι} {a : α} {store : σ} {l : ℓ} :
      P.step i c.store (c.locals i) a store l →
      Interleaved P c (some (i, a)) ⟨store, Function.update c.locals i l⟩
  | environment {c : Config σ ι ℓ} {store : σ} :
      P.environment c.store store → Interleaved P c none ⟨store, c.locals⟩

/-- The interleaving of the processes. -/
def toLTS (P : Processes σ ι ℓ α) : LTS (Config σ ι ℓ) (Option (ι × α)) := Interleaved P

variable {P : Processes σ ι ℓ α} {c d : Config σ ι ℓ}
  {path : List (Transition (Config σ ι ℓ) (Option (ι × α)))}

/-- **The rely-guarantee rule.** `G` speaks of the store, `J` of the store and one process. Process `i`
relies on the store changing only as `R i` allows while others move: every step of another process
and of the environment is such a change, and `J` is stable under it. Then, if the steps of each
process re-establish `G` and its own `J`, both hold after every interleaving. -/
theorem run_invariant {G : σ → Prop} {J : σ → ι → ℓ → Prop} {R : ι → σ → σ → Prop}
    (hR : ∀ i j s l a s' l', j ≠ i → G s → J s j l → P.step j s l a s' l' → R i s s')
    (hRenv : ∀ i s s', G s → P.environment s s' → R i s s')
    (hstable : ∀ s s' i l, G s → G s' → R i s s' → J s i l → J s' i l)
    (hown : ∀ i s l a s' l', G s → J s i l → P.step i s l a s' l' → G s' ∧ J s' i l')
    (henv : ∀ s s', G s → P.environment s s' → G s')
    (hG : G c.store) (hJ : ∀ i, J c.store i (c.locals i))
    (h : P.toLTS.Run c path d) : G d.store ∧ ∀ i, J d.store i (d.locals i) := by
  refine h.invariant (I := fun d => G d.store ∧ ∀ i, J d.store i (d.locals i)) ⟨hG, hJ⟩ ?_
  rintro d l e ⟨hGd, hJd⟩ hstep
  cases hstep with
  | @process i a store l hproc =>
    obtain ⟨hG', hJ'⟩ := hown _ _ _ _ _ _ hGd (hJd i) hproc
    refine ⟨hG', fun j => ?_⟩
    by_cases hj : j = i
    · subst hj
      simpa using hJ'
    · simp only [Function.update_of_ne hj]
      exact hstable _ _ _ _ hGd hG' (hR j i _ _ _ _ _ (Ne.symm hj) hGd (hJd i) hproc) (hJd j)
  | environment hmove =>
    have hG' := henv _ _ hGd hmove
    exact ⟨hG', fun j => hstable _ _ _ _ hGd hG' (hRenv j _ _ hGd hmove) (hJd j)⟩

end Processes

end MipitCore.Foundation
