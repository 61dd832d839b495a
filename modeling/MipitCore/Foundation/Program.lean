import MipitCore.Foundation.Transition

/-!
# Programs that call collaborators

An asynchronous function is a tree: it has settled, or it awaits a call and goes
on with the outcome. The same tree runs alone, one call after the other
(`Program.Eval`), or as a process among others, one call at a time
(`Program.processes`). What a call may do to the store is an `Interp`, a relation, so
that a call can fail, or answer in several ways.

`Program.Safe` is the weakest precondition: whatever the outcomes of the remaining
calls, and whatever others do to the store in between as the discipline allows,
each call keeps the discipline and the postcondition holds when the program
settles. It is defined by recursion on the program, so that it is at once the proof
rule for a function and the assertion about a process that is halfway through it.

## Main definitions

* `Program`, `Program.perform`, `Program.tryCatch` — programs
* `Interp`, `Program.Eval` — what calls do, and a program that runs alone
* `Program.processes` — programs interleaved over one store
* `Discipline`, `Program.Safe` — assertions about programs
* `Program.Makes` — a property of every call of a program
* `Program.After` — what has happened before a program settles
* `Recorded`, `Interp.record` — the history of calls as part of the store

## Main results

* `Safe.bind`, `Safe.tryCatch`, `Safe.perform`, `Safe.of_makes`, `Safe.after` — the rules
* `Safe.eval` — soundness for a program that runs alone
* `safe_run` — soundness for interleavings
-/

namespace MipitCore.Foundation

universe u

/-- A program with calls `c : κ` that answer with a `ρ c` or fail with an `ε`. -/
inductive Program (κ : Type) (ρ : κ → Type) (ε α : Type) : Type
  | done (r : Except ε α)
  | call (c : κ) (next : Except ε (ρ c) → Program κ ρ ε α)

/-- What a call may do: the store before, the outcome, the store after. -/
abbrev Interp (κ : Type) (ρ : κ → Type) (ε : Type) (σ : Type u) :=
  (c : κ) → σ → Except ε (ρ c) → σ → Prop

/-- A call and its outcome. -/
structure Outcome (κ : Type) (ρ : κ → Type) (ε : Type) where
  call : κ
  result : Except ε (ρ call)

/-- What a process keeps to: an invariant of the store, the changes by others that it relies on,
and the changes that it makes. -/
structure Discipline (σ : Type u) where
  inv : σ → Prop
  rely : σ → σ → Prop
  guarantee : σ → σ → Prop
  refl : ∀ s, rely s s
  trans : ∀ s t w, rely s t → rely t w → rely s w

/-- Nobody else moves. -/
def Discipline.alone (σ : Type u) : Discipline σ where
  inv _ := True
  rely s t := t = s
  guarantee _ _ := True
  refl _ := rfl
  trans _ _ _ h h' := h'.trans h

namespace Program

variable {κ : Type} {ρ : κ → Type} {ε α β : Type} {σ : Type u}

protected def bind : Program κ ρ ε α → (α → Program κ ρ ε β) → Program κ ρ ε β
  | done (.ok a), f => f a
  | done (.error e), _ => done (.error e)
  | call c next, f => call c fun r => (next r).bind f

/-- `try { p } catch (e) { handler(e) }` -/
protected def tryCatch : Program κ ρ ε α → (ε → Program κ ρ ε α) → Program κ ρ ε α
  | done (.ok a), _ => done (.ok a)
  | done (.error e), handler => handler e
  | call c next, handler => call c fun r => (next r).tryCatch handler

instance : Monad (Program κ ρ ε) where
  pure a := done (.ok a)
  bind := Program.bind

instance : MonadExcept ε (Program κ ρ ε) where
  throw e := done (.error e)
  tryCatch := Program.tryCatch

/-- `await c` -/
def perform (c : κ) : Program κ ρ ε (ρ c) := call c done

/-- The program, run with nobody else moving: the outcome `r` and the final store `t`. -/
def Eval (I : Interp κ ρ ε σ) : Program κ ρ ε α → σ → Except ε α → σ → Prop
  | done r₀, s, r, t => r = r₀ ∧ t = s
  | call c next, s, r, t => ∃ r₀ s', I c s r₀ s' ∧ (next r₀).Eval I s' r t

/-- From `s`, with others moving as `D.rely` allows: every call keeps `D`, and the program settles
only with outcomes and stores that `Q` allows. -/
def Safe (I : Interp κ ρ ε σ) (D : Discipline σ) (Q : σ → Except ε α → Prop) :
    Program κ ρ ε α → σ → Prop
  | done r, s => ∀ s', D.inv s' → D.rely s s' → Q s' r
  | call c next, s => ∀ s', D.inv s' → D.rely s s' → ∀ r t, I c s' r t →
      D.inv t ∧ D.guarantee s' t ∧ (next r).Safe I D Q t

variable {I : Interp κ ρ ε σ} {D : Discipline σ} {Q : σ → Except ε α → Prop}
  {p : Program κ ρ ε α} {s t : σ}

/-- Safety is stable under the moves of others. -/
theorem Safe.stable (h : p.Safe I D Q s) (hst : D.rely s t) : p.Safe I D Q t := by
  cases p with
  | done r => exact fun s' hinv hrely => h s' hinv (D.trans _ _ _ hst hrely)
  | call c next => exact fun s' hinv hrely => h s' hinv (D.trans _ _ _ hst hrely)

/-- What is safe after any moves of others is safe now. -/
theorem Safe.of_rely (h : ∀ s', D.inv s' → D.rely s s' → p.Safe I D Q s') :
    p.Safe I D Q s := by
  cases p with
  | done r => exact fun s' hinv hrely => h s' hinv hrely s' hinv (D.refl s')
  | call c next => exact fun s' hinv hrely => h s' hinv hrely s' hinv (D.refl s')

/-- The rule of consequence. -/
theorem Safe.mono {Q' : σ → Except ε α → Prop} (hpost : ∀ s r, D.inv s → Q s r → Q' s r)
    (h : p.Safe I D Q s) : p.Safe I D Q' s := by
  induction p generalizing s with
  | done r => exact fun s' hinv hrely => hpost s' r hinv (h s' hinv hrely)
  | call c next ih =>
    intro s' hinv hrely r t hI
    obtain ⟨hinv', hguar, hnext⟩ := h s' hinv hrely r t hI
    exact ⟨hinv', hguar, ih r hnext⟩

/-- **The rule for sequences**: the first part establishes what the second part starts from. -/
theorem Safe.bind {f : α → Program κ ρ ε β} {Q' : σ → Except ε β → Prop}
    (h : p.Safe I D (fun s r => match r with
      | .ok a => (f a).Safe I D Q' s
      | .error e => Q' s (.error e)) s) :
    (p >>= f).Safe I D Q' s := by
  change (p.bind f).Safe I D Q' s
  induction p generalizing s with
  | done r =>
    cases r with
    | ok a => exact Safe.of_rely fun s' hinv hrely => h s' hinv hrely
    | error e => exact fun s' hinv hrely => h s' hinv hrely
  | call c next ih =>
    intro s' hinv hrely r t hI
    obtain ⟨hinv', hguar, hnext⟩ := h s' hinv hrely r t hI
    exact ⟨hinv', hguar, ih r hnext⟩

/-- **The rule for `try`**: the handler starts from what the body establishes when it throws. -/
theorem Safe.tryCatch {handler : ε → Program κ ρ ε α} {Q' : σ → Except ε α → Prop}
    (h : p.Safe I D (fun s r => match r with
      | .ok a => Q' s (.ok a)
      | .error e => (handler e).Safe I D Q' s) s) :
    (p.tryCatch handler).Safe I D Q' s := by
  induction p generalizing s with
  | done r =>
    cases r with
    | ok a => exact fun s' hinv hrely => h s' hinv hrely
    | error e => exact Safe.of_rely fun s' hinv hrely => h s' hinv hrely
  | call c next ih =>
    intro s' hinv hrely r t hI
    obtain ⟨hinv', hguar, hnext⟩ := h s' hinv hrely r t hI
    exact ⟨hinv', hguar, ih r hnext⟩

/-- The rule for one call. -/
theorem Safe.perform {c : κ} {Q : σ → Except ε (ρ c) → Prop}
    (h : ∀ s', D.inv s' → D.rely s s' → ∀ r t, I c s' r t →
      D.inv t ∧ D.guarantee s' t ∧ ∀ t', D.inv t' → D.rely t t' → Q t' r) :
    (Program.perform c : Program κ ρ ε (ρ c)).Safe I D Q s := h

/-- The rule for one call with nobody else moving. -/
theorem Safe.perform_alone {c : κ} {Q : σ → Except ε (ρ c) → Prop}
    (h : ∀ r t, I c s r t → Q t r) :
    (Program.perform c : Program κ ρ ε (ρ c)).Safe I (Discipline.alone σ) Q s := by
  rintro s' - rfl r t hI
  refine ⟨trivial, trivial, ?_⟩
  rintro t' - rfl
  exact h r t' hI

/-- A settled program. -/
theorem Safe.pure {a : α} (h : ∀ s', D.inv s' → D.rely s s' → Q s' (.ok a)) :
    (Pure.pure a : Program κ ρ ε α).Safe I D Q s := h

/-- Every call that the program may make satisfies `P`. -/
def Makes (P : κ → Prop) : Program κ ρ ε α → Prop
  | done _ => True
  | call c next => P c ∧ ∀ r, (next r).Makes P

theorem Makes.bind {P : κ → Prop} {f : α → Program κ ρ ε β} (h : p.Makes P)
    (hf : ∀ a, (f a).Makes P) : (p >>= f).Makes P := by
  change (p.bind f).Makes P
  induction p with
  | done r =>
    cases r with
    | ok a => exact hf a
    | error e => trivial
  | call c next ih => exact ⟨h.1, fun r => ih r (h.2 r)⟩

theorem Makes.tryCatch {P : κ → Prop} {handler : ε → Program κ ρ ε α} (h : p.Makes P)
    (hhandler : ∀ e, (handler e).Makes P) : (p.tryCatch handler).Makes P := by
  induction p with
  | done r =>
    cases r with
    | ok a => trivial
    | error e => exact hhandler e
  | call c next ih => exact ⟨h.1, fun r => ih r (h.2 r)⟩

theorem Makes.mono {P P' : κ → Prop} (hP : ∀ c, P c → P' c) (h : p.Makes P) : p.Makes P' := by
  induction p with
  | done r => trivial
  | call c next ih => exact ⟨hP c h.1, fun r => ih r (h.2 r)⟩

@[simp] theorem makes_perform {P : κ → Prop} {c : κ} :
    (perform c : Program κ ρ ε (ρ c)).Makes P ↔ P c :=
  ⟨fun h => h.1, fun h => ⟨h, fun _ => trivial⟩⟩

@[simp] theorem makes_pure {P : κ → Prop} {a : α} :
    (Pure.pure a : Program κ ρ ε α).Makes P ↔ True := Iff.rfl

@[simp] theorem makes_throw {P : κ → Prop} {e : ε} :
    (throw e : Program κ ρ ε α).Makes P ↔ True := Iff.rfl

/-- The program throws what a call throws, and makes no further calls then. -/
def Strict : Program κ ρ ε α → Prop
  | done _ => True
  | call _ next => (∀ e, next (.error e) = done (.error e)) ∧ ∀ a, (next (.ok a)).Strict

theorem Strict.bind {f : α → Program κ ρ ε β} (h : p.Strict) (hf : ∀ a, (f a).Strict) :
    (p >>= f).Strict := by
  change (p.bind f).Strict
  induction p with
  | done r =>
    cases r with
    | ok a => exact hf a
    | error e => trivial
  | call c next ih =>
    refine ⟨fun e => ?_, fun a => ih _ (h.2 a)⟩
    change (next (.error e)).bind f = _
    rw [h.1 e]
    rfl

@[simp] theorem strict_perform {c : κ} : (perform c : Program κ ρ ε (ρ c)).Strict :=
  ⟨fun _ => rfl, fun _ => trivial⟩

/-- Every value that the program may return satisfies `R`. -/
def Returns (R : α → Prop) : Program κ ρ ε α → Prop
  | done (.ok a) => R a
  | done (.error _) => True
  | call _ next => ∀ r, (next r).Returns R

theorem Returns.bind {R : β → Prop} {f : α → Program κ ρ ε β} (hf : ∀ a, (f a).Returns R) :
    (p >>= f).Returns R := by
  change (p.bind f).Returns R
  induction p with
  | done r =>
    cases r with
    | ok a => exact hf a
    | error e => trivial
  | call c next ih => exact fun r => ih r

/-- What holds of every value that is returned may be added to the postcondition. -/
theorem Safe.returns {R : α → Prop} (h : p.Safe I D Q s) (hR : p.Returns R) :
    p.Safe I D (fun s r => Q s r ∧ ∀ a, r = .ok a → R a) s := by
  induction p generalizing s with
  | done r =>
    refine fun s' hinv hst => ⟨h s' hinv hst, ?_⟩
    rintro a rfl
    exact hR
  | call c next ih =>
    intro s' hinv hst r t hI
    obtain ⟨hinv', hguar, hnext⟩ := h s' hinv hst r t hI
    exact ⟨hinv', hguar, ih r hnext (hR r)⟩

/-- The program settles with an outcome of the kind `R` only after a call that went as `M` says. -/
def After (M : Outcome κ ρ ε → Prop) (R : Except ε α → Prop) : Program κ ρ ε α → Prop
  | done r => ¬ R r
  | call c next => ∀ r, M ⟨c, r⟩ ∨ (next r).After M R

section After

variable {M : Outcome κ ρ ε → Prop} {R R' : Except ε α → Prop}

theorem After.mono (hR : ∀ r, R' r → R r) (h : p.After M R) : p.After M R' := by
  induction p with
  | done r => exact fun hr => h (hR r hr)
  | call c next ih => exact fun r => (h r).imp_right (ih r)

/-- There is nothing to show of outcomes that never occur. -/
theorem After.of_never (h : ∀ r, ¬ R r) : p.After M R := by
  induction p with
  | done r => exact h r
  | call c next ih => exact fun r => Or.inr (ih r)

theorem After.bind {R : Except ε β → Prop} {f : α → Program κ ρ ε β}
    (h : p.After M fun r => match r with
      | .ok a => ¬ (f a).After M R
      | .error e => R (.error e)) : (p >>= f).After M R := by
  change (p.bind f).After M R
  induction p with
  | done r =>
    cases r with
    | ok a => exact not_not.mp h
    | error e => exact h
  | call c next ih => exact fun r => (h r).imp_right (ih r)

theorem After.tryCatch {handler : ε → Program κ ρ ε α}
    (h : p.After M fun r => match r with
      | .ok a => R (.ok a)
      | .error e => ¬ (handler e).After M R) : (p.tryCatch handler).After M R := by
  induction p with
  | done r =>
    cases r with
    | ok a => exact h
    | error e => exact not_not.mp h
  | call c next ih => exact fun r => (h r).imp_right (ih r)

/-- What holds of every call holds of the one before. -/
theorem After.of_makes {P : κ → Prop} (hP : p.Makes P) (h : p.After M R) :
    p.After (fun o => P o.call ∧ M o) R := by
  induction p with
  | done r => exact h
  | call c next ih => exact fun r => (h r).imp (fun hM => ⟨hP.1, hM⟩) (ih r (hP.2 r))

/-- A sequence throws only after a call that went as `M` says if both of its parts do. -/
theorem After.bind_throws {f : α → Program κ ρ ε β} (h : p.After M fun r => r.isOk = false)
    (hf : ∀ a, (f a).After M fun r => r.isOk = false) :
    (p >>= f).After M fun r => r.isOk = false := by
  refine After.bind (h.mono fun r hr => ?_)
  cases r with
  | ok a => exact absurd (hf a) hr
  | error e => rfl

/-- A sequence returns only after a call that went as `M` says if its second part does. -/
theorem After.bind_returns {f : α → Program κ ρ ε β} (hf : ∀ a, (f a).After M fun r => r.isOk = true) :
    (p >>= f).After M fun r => r.isOk = true := by
  refine After.bind (After.of_never fun r hr => ?_)
  cases r with
  | ok a => exact hr (hf a)
  | error e => cases hr

/-- What such a call establishes, and others and further calls keep, may be added to the
postcondition. The induction is on the program, with `A` in place of the call once it is made. -/
theorem Safe.after {A : σ → Prop} (h : p.Safe I D Q s) (hafter : p.After M R ∨ A s)
    (hrely : ∀ s t, A s → D.rely s t → A t) (hkeep : ∀ c s r t, A s → I c s r t → A t)
    (hmark : ∀ c s r t, M ⟨c, r⟩ → I c s r t → A t) :
    p.Safe I D (fun s r => Q s r ∧ (R r → A s)) s := by
  induction p generalizing s with
  | done r =>
    refine fun s' hinv hst => ⟨h s' hinv hst, fun hr => ?_⟩
    exact hafter.elim (fun hnot => absurd hr hnot) fun hA => hrely s s' hA hst
  | call c next ih =>
    intro s' hinv hst r t hI
    obtain ⟨hinv', hguar, hnext⟩ := h s' hinv hst r t hI
    refine ⟨hinv', hguar, ih r hnext ?_⟩
    -- this call went as `M` says, or a later one has to
    rcases hafter with hafter | hA
    · exact (hafter r).symm.imp_right fun hM => hmark c s' r t hM hI
    · exact Or.inr (hkeep c s' r t (hrely s s' hA hst) hI)

end After

/-- **The frame rule**: an assertion that others keep and that every call of the program keeps,
whatever its outcome, holds when the program settles. -/
theorem Safe.of_makes {P : κ → Prop} {A : σ → Prop} (hP : p.Makes P)
    (hrely : ∀ s t, A s → D.inv t → D.rely s t → A t)
    (hcall : ∀ c s r t, P c → D.inv s → A s → I c s r t → D.inv t ∧ D.guarantee s t ∧ A t)
    (hA : A s) : p.Safe I D (fun s _ => A s) s := by
  induction p generalizing s with
  | done r => exact fun s' hinv hst => hrely s s' hA hinv hst
  | call c next ih =>
    intro s' hinv hst r t hI
    obtain ⟨hinv', hguar, hAt⟩ := hcall c s' r t hP.1 hinv (hrely s s' hA hinv hst) hI
    exact ⟨hinv', hguar, ih r (hP.2 r) hAt⟩

/-- **The frame rule for strict programs**: what every successful call keeps, holds when the program
returns. -/
theorem Safe.of_strict {P : κ → Prop} {A B : σ → Prop} (hP : p.Makes P) (hstrict : p.Strict)
    (hrely : ∀ s t, A s → D.inv t → D.rely s t → A t ∧ (B s → B t))
    (hcall : ∀ c s r t, P c → D.inv s → A s → I c s r t →
      D.inv t ∧ D.guarantee s t ∧ A t ∧ (r.isOk = true → B s → B t))
    (hA : A s) (hB : B s) :
    p.Safe I D (fun s r => A s ∧ (r.isOk = true → B s)) s := by
  induction p generalizing s with
  | done r =>
    exact fun s' hinv hst => ⟨(hrely s s' hA hinv hst).1, fun _ => (hrely s s' hA hinv hst).2 hB⟩
  | call c next ih =>
    intro s' hinv hst r t hI
    obtain ⟨hA', hB'⟩ := hrely s s' hA hinv hst
    obtain ⟨hinv', hguar, hAt, hBt⟩ := hcall c s' r t hP.1 hinv hA' hI
    refine ⟨hinv', hguar, ?_⟩
    cases r with
    | ok a => exact ih _ (hP.2 _) (hstrict.2 a) hAt (hBt rfl (hB' hB))
    | error e =>
      rw [hstrict.1 e]
      exact fun t' hinv'' hst' => ⟨(hrely t t' hAt hinv'' hst').1, nofun⟩

/-- The frame rule with nobody else moving. -/
theorem Safe.of_makes_alone {P : κ → Prop} {A : σ → Prop} (hP : p.Makes P)
    (hcall : ∀ c s r t, P c → A s → I c s r t → A t) (hA : A s) :
    p.Safe I (Discipline.alone σ) (fun s _ => A s) s := by
  refine Safe.of_makes hP ?_ (fun c s r t hPc _ hAs hI => ⟨trivial, trivial, hcall c s r t hPc hAs hI⟩)
    hA
  rintro s t hAs - rfl
  exact hAs

/-- **Soundness for a program that runs alone.** -/
theorem Safe.eval {r : Except ε α} (h : p.Safe I (Discipline.alone σ) Q s)
    (heval : p.Eval I s r t) : Q t r := by
  induction p generalizing s with
  | done r₀ =>
    obtain ⟨rfl, rfl⟩ := heval
    exact h t trivial rfl
  | call c next ih =>
    obtain ⟨r₀, s', hI, hnext⟩ := heval
    exact ih r₀ (h s trivial rfl r₀ s' hI).2.2 hnext

/-- The run of a program whose calls are answered by a function. -/
def runWith (f : (c : κ) → σ → Except ε (ρ c) × σ) : Program κ ρ ε α → σ → Except ε α × σ
  | done r, s => (r, s)
  | call c next, s => (next (f c s).1).runWith f (f c s).2

theorem eval_runWith {f : (c : κ) → σ → Except ε (ρ c) × σ}
    (hf : ∀ c s, I c s (f c s).1 (f c s).2) (p : Program κ ρ ε α) (s : σ) :
    p.Eval I s (p.runWith f s).1 (p.runWith f s).2 := by
  induction p generalizing s with
  | done r => exact ⟨rfl, rfl⟩
  | call c next ih => exact ⟨_, _, hf c s, ih _ _⟩

/-! ### Programs as processes -/

/-- One call of a process. -/
inductive Step (I : Interp κ ρ ε σ) :
    σ → Program κ ρ ε α → Outcome κ ρ ε → σ → Program κ ρ ε α → Prop
  | call {c : κ} {s s' : σ} {r : Except ε (ρ c)} {next : Except ε (ρ c) → Program κ ρ ε α} :
      I c s r s' → Step I s (.call c next) ⟨c, r⟩ s' (next r)

/-- Programs as processes over one store: process `i` makes its calls one at a time, as `I i`
answers them. -/
def processes {ι : Type} (I : ι → Interp κ ρ ε σ) (environment : σ → σ → Prop) :
    Processes σ ι (Program κ ρ ε α) (Outcome κ ρ ε) where
  step i := Step (I i)
  environment := environment

/-- A step of an interleaving is a call of one process, or a move of the environment. -/
theorem processes_cases {ι : Type} [DecidableEq ι] {I : ι → Interp κ ρ ε σ}
    {environment : σ → σ → Prop} {c d : Config σ ι (Program κ ρ ε α)}
    {l : Option (ι × Outcome κ ρ ε)} (h : (processes I environment).toLTS c l d) :
    (∃ i k next r, c.locals i = call k next ∧ l = some (i, ⟨k, r⟩) ∧
        I i k c.store r d.store ∧ d.locals = Function.update c.locals i (next r)) ∨
      (l = none ∧ environment c.store d.store ∧ d.locals = c.locals) := by
  cases h with
  | @process i a store l hproc =>
    generalize hprog : c.locals i = prog at hproc
    cases hproc with
    | call hI => exact Or.inl ⟨_, _, _, _, hprog, rfl, hI, rfl⟩
  | environment hmove => exact Or.inr ⟨rfl, hmove, rfl⟩

/-- **Soundness for interleavings.** The processes keep to disciplines with one invariant; what one
guarantees, the others rely on. If every program is safe at the start, every remaining program is
safe in every state that an interleaving reaches. -/
theorem safe_run {ι : Type} [DecidableEq ι] {I : ι → Interp κ ρ ε σ}
    {environment : σ → σ → Prop} {D : ι → Discipline σ} {Q : ι → σ → Except ε α → Prop}
    {inv : σ → Prop} {c d : Config σ ι (Program κ ρ ε α)}
    {path : List (Transition (Config σ ι (Program κ ρ ε α)) (Option (ι × Outcome κ ρ ε)))}
    (hinv : ∀ i, (D i).inv = inv)
    (hcompatible : ∀ i j s t, j ≠ i → inv s → (D j).guarantee s t → (D i).rely s t)
    (henv : ∀ s t, inv s → environment s t → inv t ∧ ∀ i, (D i).rely s t)
    (hstart : inv c.store)
    (hsafe : ∀ i, (c.locals i).Safe (I i) (D i) (Q i) c.store)
    (h : (processes I environment).toLTS.Run c path d) :
    inv d.store ∧ ∀ i, (d.locals i).Safe (I i) (D i) (Q i) d.store := by
  refine Processes.run_invariant (G := inv) (R := fun i => (D i).rely)
    (J := fun s i p => p.Safe (I i) (D i) (Q i) s) ?_ ?_ ?_ ?_ ?_ hstart hsafe h
  · rintro i j s p a s' p' hj hG hJ hstep
    cases hstep with
    | call hI =>
      exact hcompatible i j s s' hj hG
        (hJ s (by rwa [hinv j]) ((D j).refl s) _ _ hI).2.1
  · exact fun i s t hs hst => (henv s t hs hst).2 i
  · exact fun s t i p _ _ hst hsafe => hsafe.stable hst
  · rintro i s p a s' p' hG hJ hstep
    cases hstep with
    | call hI =>
      obtain ⟨hinv', -, hnext⟩ := hJ s (by rwa [hinv i]) ((D i).refl s) _ _ hI
      exact ⟨by rwa [hinv i] at hinv', hnext⟩
  · exact fun s t hs hst => (henv s t hs hst).1

/-- The interleaving that a schedule describes, with calls answered by functions; a process that has
settled or whose call is not enabled is passed over. -/
def schedule {ι : Type} [DecidableEq ι] (f : ι → (c : κ) → σ → Option (Except ε (ρ c) × σ)) :
    List ι → Config σ ι (Program κ ρ ε α) →
      List (Transition (Config σ ι (Program κ ρ ε α)) (Option (ι × Outcome κ ρ ε))) ×
        Config σ ι (Program κ ρ ε α)
  | [], c => ([], c)
  | i :: is, c =>
    match c.locals i with
    | done _ => schedule f is c
    | call k next =>
      match f i k c.store with
      | none => schedule f is c
      | some (r, s) =>
        let d : Config σ ι (Program κ ρ ε α) := ⟨s, Function.update c.locals i (next r)⟩
        (⟨c, some (i, ⟨k, r⟩), d⟩ :: (schedule f is d).1, (schedule f is d).2)

theorem run_schedule {ι : Type} [DecidableEq ι] {I : ι → Interp κ ρ ε σ}
    {environment : σ → σ → Prop} {f : ι → (c : κ) → σ → Option (Except ε (ρ c) × σ)}
    (hf : ∀ i c s r t, f i c s = some (r, t) → I i c s r t) (is : List ι)
    (c : Config σ ι (Program κ ρ ε α)) :
    (processes I environment).toLTS.Run c (schedule f is c).1 (schedule f is c).2 := by
  induction is generalizing c with
  | nil => exact .nil
  | cons i is ih =>
    rw [schedule]
    cases hp : c.locals i with
    | done r => exact ih c
    | call k next =>
      cases hk : f i k c.store with
      | none => simpa only [hk] using ih c
      | some answer =>
        obtain ⟨r, s⟩ := answer
        simp only [hk]
        refine LTS.Run.cons (.process ?_) (ih _)
        rw [hp]
        exact Step.call (hf i k c.store r s hk)

end Program

/-! ### Recorded histories -/

/-- A store with a history of what was done on it. -/
structure Recorded (σ : Type u) (α : Type) where
  store : σ
  history : List α

/-- A call that was made, and whether it succeeded. -/
structure Event (κ : Type) where
  call : κ
  succeeded : Bool

/-- Calls leave a record. -/
def Interp.record {κ : Type} {ρ : κ → Type} {ε : Type} {σ : Type u} (I : Interp κ ρ ε σ) :
    Interp κ ρ ε (Recorded σ (Event κ)) := fun c s r t =>
  I c s.store r t.store ∧ t.history = s.history ++ [⟨c, r.isOk⟩]

end MipitCore.Foundation
