import MipitCore.Compensation.Answers

/-!
# Failures in a batch of compensations

`compensateBatch` compensates the payments that it has selected, one after the other. It
catches nothing itself, and `compensate` catches failures of the calls in its `try` block
only: reading the payment, marking it as COMPENSATING, recording the start and recording
the failure are outside of it. One such failure ends the batch, and the payments after it
are not attempted (`batch_isolates_iff`).

## Main definitions

* `isGuarded`, `escapes` — the calls whose failure `compensate` answers for
* `Attempted` — every selected payment is attempted, in order
* `Isolates`

## Main results

* `compensate_escapes` — what `compensate` throws
* `compensateAll_traces`, by induction on the selected payments
* `batch_isolates_iff`
-/

namespace MipitCore.Compensation

open Js Foundation Program

/-- The calls of the `try` block of `compensate`. -/
def isGuarded : Call → Bool
  | .updateStatus _ status => decide (status = .compensated)
  | .log event => decide (event.eventType = "COMPENSATION_REVERSAL_REQUIRED") ||
      decide (event.eventType = "COMPENSATION_COMPLETED")
  | _ => false

/-- The call failed, outside of the `try` block. -/
def escapes (o : CallOutcome) : Bool := !o.result.isOk && !isGuarded o.call

/-- Compensations of `payments`, in their order, with what each of them answered or threw: their
calls one after the other are the trace. -/
inductive Attempted (compensatedAt : Text → Datetime) :
    List PaymentRow → List CallOutcome → List (Except Failure CompensationResult) → Prop
  | nil : Attempted compensatedAt [] [] []
  | cons {payment : PaymentRow} {payments : List PaymentRow} {calls trace : List CallOutcome}
      {result : Except Failure CompensationResult}
      {results : List (Except Failure CompensationResult)}
      (h : (compensate (compensatedAt payment.paymentId) payment.paymentId).Eval
        (tracing fun _ => True) [] result calls)
      (hrest : Attempted compensatedAt payments trace results) :
      Attempted compensatedAt (payment :: payments) (calls ++ trace) (result :: results)

/-- A batch that isolates failures: all payments are attempted, and it answers how many attempts
succeeded. -/
def Isolates (compensatedAt : Text → Datetime) (payments : List PaymentRow)
    (trace : List CallOutcome) (r : Except Failure BatchReport) : Prop :=
  ∃ results, Attempted compensatedAt payments trace results ∧
    ∃ answer, r = .ok answer ∧ answer.processed = payments.length ∧
      answer.succeeded + answer.failed = answer.processed ∧
      answer.succeeded = results.countP succeeded

section Traces

variable {p : Text} {compensatedAt : Text → Datetime}

/-- The program throws exactly if a call fails whose failure it does not answer for. -/
def ThrowsEscapes {α : Type} (program : Service α) : Prop :=
  program.Traces (fun _ => True) fun trace r => r.isOk = !trace.any escapes

theorem ThrowsEscapes.pure {α : Type} {a : α} : ThrowsEscapes (Pure.pure a : Service α) :=
  Traces.pure rfl

/-- A call outside of the `try` block. -/
theorem ThrowsEscapes.perform {c : Call} (h : isGuarded c = false) : ThrowsEscapes (await c) :=
  Traces.perform fun r _ => by simp [escapes, h]

theorem ThrowsEscapes.bind {α β : Type} {program : Service α} {f : α → Service β}
    (h : ThrowsEscapes program) (hf : ∀ a, ThrowsEscapes (f a)) : ThrowsEscapes (program >>= f) := by
  refine Traces.bind (h.mono fun trace r htrace => ?_)
  cases r with
  | error e => exact htrace
  | ok a =>
    have hnone : trace.any escapes = false := by
      simpa [Except.isOk, Except.toBool] using htrace
    refine (hf a).mono fun more r hmore => ?_
    rw [hmore, List.any_append, hnone, Bool.false_or]

/-- No call of a `try` block escapes. -/
theorem ThrowsEscapes.tryCatch {α : Type} {program : Service α} {handler : Failure → Service α}
    (h : program.Makes fun c => isGuarded c = true) (hhandler : ∀ err, ThrowsEscapes (handler err)) :
    ThrowsEscapes (program.tryCatch handler) := by
  refine Traces.tryCatch ((Traces.of_makes h).mono fun trace r hguarded => ?_)
  have hnone : trace.any escapes = false :=
    List.any_eq_false.mpr fun o ho => by simp [escapes, hguarded o ho]
  cases r with
  | ok a =>
    rw [hnone]
    rfl
  | error e =>
    refine (hhandler e).mono fun more r hmore => ?_
    rw [hmore, List.any_append, hnone, Bool.false_or]

theorem reverse_makes (now : Datetime) (row : PaymentRow) :
    (reverse now p row).Makes fun c => isGuarded c = true := by
  have reversal : (requireReversal p row).Makes fun c => isGuarded c = true :=
    requireReversal_makes rfl
  exact reversal.bind fun _ => .bind (makes_perform.mpr rfl) fun _ =>
    .bind (makes_perform.mpr rfl) fun _ => trivial

/-- The body of the `try` and its handler. -/
theorem handled_escapes (now : Datetime) (row : PaymentRow) :
    ThrowsEscapes (Program.tryCatch (reverse now p row) fun err => do
      log (failedEvent p row err)
      return ⟨false, js "Compensation error: " ++ err.toText⟩) :=
  .tryCatch (reverse_makes now row) fun err =>
    .bind (.perform (c := .log (failedEvent p row err)) rfl) fun _ => .pure

/-- **What `compensate` throws**: the failure of a call outside of its `try` block. -/
theorem compensate_escapes (now : Datetime) : ThrowsEscapes (compensate now p) := by
  refine .bind (.perform rfl) fun row? => ?_
  cases row? with
  | none => exact .pure
  | some row =>
    by_cases hrow : isCompensable row.status = true
    · rw [proceed, if_pos hrow]
      exact .bind (.perform rfl) fun _ =>
        .bind (.perform (c := .log (startedEvent p row)) rfl) fun _ => handled_escapes now row
    · rw [proceed, if_neg hrow]
      exact .pure

/-- **The compensations of a batch**: all of them are attempted and answer, or a call outside of a
`try` block fails and is what the batch throws. -/
theorem compensateAll_traces (payments : List PaymentRow) :
    (compensateAll compensatedAt payments).Traces (fun _ => True) fun trace r =>
      ∃ results, r = .ok results ∧
        ((trace.any escapes = false ∧ ∃ answers : List CompensationResult,
            results.map Prod.snd = answers.map .ok ∧
            Attempted compensatedAt payments trace (answers.map .ok)) ∨
          (trace.any escapes = true ∧ ∃ e, results.mapM Prod.snd = .error e)) := by
  induction payments with
  | nil => exact Traces.pure ⟨[], rfl, Or.inl ⟨rfl, [], rfl, .nil⟩⟩
  | cons payment payments ih =>
    have hattempt := attempt_traces ((compensate_escapes (p := payment.paymentId)
      (compensatedAt payment.paymentId)).and Traces.evals)
    refine Traces.bind (hattempt.mono fun trace r hr => ?_)
    obtain ⟨result, rfl, hescapes, heval⟩ := hr
    cases result with
    | error err =>
      -- the batch ends here
      refine Traces.pure ⟨_, rfl, Or.inr ⟨?_, err, rfl⟩⟩
      simpa [Except.isOk, Except.toBool] using hescapes
    | ok result =>
      have hnone : trace.any escapes = false := by
        simpa [Except.isOk, Except.toBool] using hescapes
      refine Traces.bind (ih.mono fun more r hr => ?_)
      obtain ⟨results, rfl, hresults⟩ := hr
      refine Traces.pure ⟨_, rfl, ?_⟩
      rw [List.append_nil, List.any_append, hnone, Bool.false_or]
      rcases hresults with ⟨hmore, answers, hanswers, hattempted⟩ | ⟨hmore, e, he⟩
      · refine Or.inl ⟨hmore, result :: answers, by simp [hanswers], ?_⟩
        exact .cons heval hattempted
      · refine Or.inr ⟨hmore, e, ?_⟩
        rw [List.mapM_cons, he]
        rfl

theorem mapM_snd {results : List (Text × Except Failure CompensationResult)}
    {answers : List CompensationResult} (h : results.map Prod.snd = answers.map .ok) :
    results.mapM Prod.snd = .ok answers := by
  induction results generalizing answers with
  | nil =>
    obtain rfl : answers = [] := List.map_eq_nil_iff.mp h.symm
    rfl
  | cons result results ih =>
    cases answers with
    | nil => cases h
    | cons answer answers =>
      obtain ⟨hhead, htail⟩ := List.cons.inj h
      rw [List.mapM_cons, hhead, ih htail]
      rfl

/-- What a batch calls after it has selected `payments`, and how it ends. -/
theorem compensateBatch_traces (limit : ℕ) :
    (compensateBatch compensatedAt limit).Traces (fun _ => True) fun trace r =>
      ∀ payments calls,
        trace = ⟨.findByStatuses compensableStatuses limit, .ok payments⟩ :: calls →
        (calls.any escapes = false ∧ ∃ answers : List CompensationResult,
            r = .ok ⟨answers.length, answers.countP CompensationResult.success,
              answers.countP fun answer => !answer.success⟩ ∧
            Attempted compensatedAt payments calls (answers.map .ok)) ∨
          (calls.any escapes = true ∧ ∃ e, r = .error e) := by
  refine Traces.bind (Traces.perform fun r _ => ?_)
  cases r with
  | error e =>
    intro payments calls hcalls
    cases hcalls
  | ok selected =>
    refine Traces.bind ((compensateAll_traces selected).mono fun trace r hr => ?_)
    obtain ⟨results, rfl, hresults⟩ := hr
    intro payments calls hcalls
    rw [List.append_nil, List.singleton_append] at hcalls
    cases hcalls
    rcases hresults with ⟨hnone, answers, hanswers, hattempted⟩ | ⟨hsome, e, he⟩
    · refine Or.inl ⟨hnone, answers, ?_, hattempted⟩
      rw [report, mapM_snd hanswers]
      rfl
    · refine Or.inr ⟨hsome, e, ?_⟩
      rw [report, he]
      rfl

theorem Attempted.length {payments : List PaymentRow} {trace : List CallOutcome}
    {results : List (Except Failure CompensationResult)}
    (h : Attempted compensatedAt payments trace results) : results.length = payments.length := by
  induction h with
  | nil => rfl
  | cons _ _ ih => rw [List.length_cons, List.length_cons, ih]

theorem any_escapes_eq_false {trace : List CallOutcome} :
    trace.any escapes = false ↔ ∀ o ∈ trace, o.result.isOk = false → isGuarded o.call = true := by
  simp only [List.any_eq_false, escapes, Bool.and_eq_true, Bool.not_eq_true', not_and,
    Bool.not_eq_false]

end Traces

/-- **A batch isolates failures exactly if every call that fails is one of a `try` block.** -/
theorem batch_isolates_iff {W : Collaborators} {compensatedAt : Text → Datetime} {limit : ℕ}
    {store : Store} {payments : List PaymentRow} {calls : List CallOutcome}
    {r : Except Failure BatchReport} {t : Recorded Store CallOutcome}
    (h : (compensateBatch compensatedAt limit).Eval (traced (Call.faulty W)) ⟨store, []⟩ r t)
    (hselected : t.history = ⟨.findByStatuses compensableStatuses limit, .ok payments⟩ :: calls) :
    Isolates compensatedAt payments calls r ↔
      ∀ o ∈ calls, o.result.isOk = false → isGuarded o.call = true := by
  obtain ⟨trace, htrace, hbatch⟩ := (compensateBatch_traces limit).eval (eval_trace h)
  rw [List.nil_append] at htrace
  subst htrace
  rw [← any_escapes_eq_false]
  rcases hbatch payments calls hselected with ⟨hnone, answers, rfl, hattempted⟩ | ⟨hsome, e, rfl⟩
  · refine iff_of_true ⟨_, hattempted, _, rfl, ?_, ?_, ?_⟩ hnone
    · rw [← hattempted.length, List.length_map]
    · have hcount := List.length_eq_countP_add_countP CompensationResult.success (l := answers)
      simpa using hcount.symm
    · rw [List.countP_map]
      rfl
  · refine iff_of_false ?_ (by simp [hsome])
    rintro ⟨results, -, answer, hanswer, -⟩
    cases hanswer

/-! ### A batch that ends at its first payment -/

namespace Example

open Messaging.Example (host payment)

/-- A failed payment. -/
def failedRow (paymentId : Text) : PaymentRow :=
  { payment with
    paymentId, status := .failed, destinationRail := none, canonicalPayload := none
    translatedPayload := none, railAck := none, routeRuleApplied := none, validatedAt := none
    canonicalizedAt := none, routedAt := none, queuedAt := none, sentAt := none, ackedAt := none
    completedAt := none, failedAt := none, compensatedAt := none, deadLetterAt := none
    updatedAt := none }

def firstId : Text := js "PMT-01ARZ3NDEKTSV4RRFFQ69G5FAV"

def otherId : Text := js "PMT-01ARZ3NDEKTSV4RRFFQ69G5FAW"

def selected : List PaymentRow := [failedRow firstId, failedRow otherId]

/-- Two payments have failed. -/
def twoFailed : Store :=
  ⟨fun p => if p = firstId then some (failedRow firstId)
    else if p = otherId then some (failedRow otherId) else none, [], fun _ => none, [], 0⟩

theorem selects_twoFailed :
    Persistence.SelectsByStatuses compensableStatuses 50 twoFailed.payments selected where
  mem := by
    intro row hrow
    rcases List.mem_pair.mp hrow with rfl | rfl
    · exact ⟨by decide, by simp [twoFailed, failedRow]⟩
    · have hne : otherId ≠ firstId := by decide
      exact ⟨by decide, by simp [twoFailed, failedRow, hne]⟩
  nodup := by decide
  sorted := by decide
  length := by decide

def lost : Failure := .error (js "Connection terminated")

/-- The first payment cannot be read. -/
def afterLost : Recorded Store CallOutcome :=
  ⟨twoFailed, [⟨.findByStatuses compensableStatuses 50, .ok selected⟩,
    ⟨.findById (.string firstId), .error lost⟩]⟩

theorem lost_eval : (compensateBatch (fun _ => compensatedAt) 50).Eval
    (traced (Call.faulty host.collaborators)) ⟨twoFailed, []⟩ (.error lost) afterLost :=
  ⟨.ok selected, ⟨twoFailed, [⟨.findByStatuses compensableStatuses 50, .ok selected⟩]⟩,
    ⟨Or.inl ⟨⟨selected, rfl, selects_twoFailed⟩, rfl⟩, rfl⟩,
    .error lost, afterLost, ⟨Or.inr ⟨rfl, ⟨lost, rfl⟩, rfl⟩, rfl⟩, rfl, rfl⟩

end Example

theorem batch_isolates_iff_lost :
    Isolates (fun _ => Example.compensatedAt) Example.selected
        [⟨.findById (.string Example.firstId), .error Example.lost⟩] (.error Example.lost) ↔
      ∀ o ∈ [(⟨.findById (.string Example.firstId), .error Example.lost⟩ : CallOutcome)],
        o.result.isOk = false → isGuarded o.call = true :=
  batch_isolates_iff Example.lost_eval rfl

/-- One payment cannot be read, and the other one is not attempted. -/
theorem batch_not_isolated :
    (compensateBatch (fun _ => Example.compensatedAt) 50).Eval
        (traced (Call.faulty Messaging.Example.host.collaborators)) ⟨Example.twoFailed, []⟩
        (.error Example.lost) Example.afterLost ∧
      Example.afterLost.history = [⟨.findByStatuses compensableStatuses 50, .ok Example.selected⟩,
        ⟨.findById (.string Example.firstId), .error Example.lost⟩] ∧
      ¬ Isolates (fun _ => Example.compensatedAt) Example.selected
        [⟨.findById (.string Example.firstId), .error Example.lost⟩] (.error Example.lost) := by
  refine ⟨Example.lost_eval, rfl, ?_⟩
  rintro ⟨results, -, answer, hanswer, -⟩
  cases hanswer

end MipitCore.Compensation
