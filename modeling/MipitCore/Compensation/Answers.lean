import MipitCore.Compensation.Once

/-!
# What a compensation answers

`compensate` runs alone here, with every call free to fail, and what it answers is
compared with the status that it leaves. Success is answered only for a payment that ends
as COMPENSATED. A compensation that is not started leaves the status that it has found,
which may be any, COMPENSATED among them. One that is started answers with failure where a
call fails, and then the payment stays COMPENSATING, as long as it was not the record of
the completion that failed: that comes after the mark COMPENSATED.

## Main definitions

* `Started`, `CompletionFails` — what a trace says of a compensation
* `Answered` — what a started compensation answers, beside the marks that it has left

## Main results

* `reversal_answers`, `compensate_marks`
* `compensate_answers`
-/

namespace MipitCore.Compensation

open Js Foundation Program

/-- The payment was marked as COMPENSATING. -/
def Started (p : Text) (trace : List CallOutcome) : Prop :=
  Completed (.updateStatus (.string p) .compensating) trace

/-- The record of a completion failed. -/
def CompletionFails (p : Text) (trace : List CallOutcome) : Prop :=
  ∃ event e, isEvent p "COMPENSATION_COMPLETED" event = true ∧ ⟨.log event, .error e⟩ ∈ trace

/-- What follows the start of a compensation: it is marked as completed and succeeds, or it fails,
and then it was not marked, unless the record of the completion has failed. -/
inductive Answered (p : Text) (trace : List CallOutcome) : CompensationResult → Prop
  | compensated (reason : Text) (h : statusWrites p trace = [.compensated]) :
    Answered p trace ⟨true, reason⟩
  | unmarked (reason : Text) (h : statusWrites p trace = []) : Answered p trace ⟨false, reason⟩
  | unrecorded (reason : Text) (h : CompletionFails p trace) : Answered p trace ⟨false, reason⟩

section Traces

variable {p : Text} {trace more : List CallOutcome}

theorem CompletionFails.append (h : CompletionFails p trace ∨ CompletionFails p more) :
    CompletionFails p (trace ++ more) := by
  rcases h with ⟨event, e, hevent, hmem⟩ | ⟨event, e, hevent, hmem⟩
  · exact ⟨event, e, hevent, List.mem_append_left _ hmem⟩
  · exact ⟨event, e, hevent, List.mem_append_right _ hmem⟩

/-- The body of the `try` and its handler. -/
theorem reversal_answers (compensatedAt : Datetime) (row : PaymentRow) :
    (Program.tryCatch (reverse compensatedAt p row) fun err => do
      log (failedEvent p row err)
      return ⟨false, js "Compensation error: " ++ err.toText⟩).Completes (fun _ => True)
      (Answered p) := by
  have hhandler : ∀ (trace : List CallOutcome) (err : Failure),
      statusWrites p trace = [] ∨ CompletionFails p trace →
      (do
        log (failedEvent p row err)
        return ⟨false, js "Compensation error: " ++ err.toText⟩ : Service CompensationResult).Traces
          (fun _ => True) fun more r => ∀ result, r = .ok result →
            Answered p (trace ++ more) result := by
    intro trace err htrace
    refine Traces.bind (Traces.perform fun r _ => ?_)
    cases r with
    | error e =>
      intro result hresult
      cases hresult
    | ok _ =>
      refine Traces.pure ?_
      rintro result hresult
      cases hresult
      rcases htrace with hunmarked | hfails
      · exact .unmarked _ (by simp [statusWrites_append, hunmarked, Call.statusWrite])
      · exact .unrecorded _ (.append (Or.inl hfails))
  have hreversal : (requireReversal p row).Traces (fun _ => True) fun trace _ =>
      statusWrites p trace = [] := by
    by_cases hacked : wasAcked row = true
    · rw [requireReversal, if_pos hacked]
      exact Traces.perform fun r _ => by cases r <;> rfl
    · rw [requireReversal, if_neg hacked]
      exact Traces.pure rfl
  refine Traces.tryCatch (Traces.bind (hreversal.mono fun trace r htrace => ?_))
  cases r with
  | error e => exact hhandler trace e (Or.inl htrace)
  | ok _ =>
    refine Traces.bind (Traces.perform fun r _ => ?_)
    cases r with
    | error e => exact hhandler _ e (Or.inl (by simp [statusWrites_append, htrace]))
    | ok row' =>
      refine Traces.bind (Traces.perform fun r _ => ?_)
      cases r with
      | error e =>
        -- the mark is in the row, and its record is not in the audit trail
        refine hhandler _ e (Or.inr (.append (Or.inr ⟨completedEvent compensatedAt p row, e, ?_, by simp⟩)))
        simp [isEvent, completedEvent, event]
      | ok _ =>
        refine Traces.pure ?_
        rintro result hresult
        cases hresult
        exact .compensated _ (by simp [statusWrites_append, htrace, Call.statusWrite])

/-- What a compensation answers, beside the marks that it has left. -/
theorem compensate_marks (compensatedAt : Datetime) :
    (compensate compensatedAt p).Completes (fun _ => True) fun trace result =>
      (∃ before after, trace = before ++ after ∧ Started p before ∧
          statusWrites p before = [.compensating] ∧ Answered p after result) ∨
        (¬ Started p trace ∧ statusWrites p trace = [] ∧ result.success = false) := by
  have hunstarted : ∀ r₀ : Except Failure (Option PaymentRow),
      ¬ Started p [⟨.findById (.string p), r₀⟩] := by
    rintro r₀ ⟨row, hmem⟩
    cases List.mem_singleton.mp hmem
  refine Traces.bind (Traces.perform fun r _ => ?_)
  cases r with
  | error e =>
    intro result hresult
    cases hresult
  | ok row? =>
    cases row? with
    | none =>
      refine Traces.pure ?_
      rintro result hresult
      cases hresult
      exact Or.inr ⟨hunstarted _, rfl, rfl⟩
    | some row =>
      by_cases hrow : isCompensable row.status = true
      · -- where one of the first two writes fails, the call throws and answers nothing
        simp only [proceed, hrow, ↓reduceIte]
        refine Traces.bind (Traces.perform fun r _ => ?_)
        cases r with
        | error e =>
          intro result hresult
          cases hresult
        | ok row' =>
          refine Traces.bind (Traces.perform fun r _ => ?_)
          cases r with
          | error e =>
            intro result hresult
            cases hresult
          | ok _ =>
            -- started: the payment is marked, and the rest is the reversal
            refine (reversal_answers (p := p) compensatedAt row).mono fun after result hafter => ?_
            refine Or.inl ⟨[_, _, _], after, rfl, ⟨row', by simp⟩, ?_, hafter⟩
            refine (statusWrites_cons_ok p (.findById (.string p)) (some row) _).trans ?_
            simp [Call.statusWrite]
      · rw [Bool.not_eq_true] at hrow
        simp only [proceed, hrow, Bool.false_eq_true, ↓reduceIte]
        refine Traces.pure ?_
        rintro result hresult
        cases hresult
        exact Or.inr ⟨hunstarted _, rfl, rfl⟩

end Traces

/-- **What a compensation answers, and the status that it leaves.** -/
theorem compensate_answers {W : Collaborators} {compensatedAt : Datetime} {p : Text} {store : Store}
    {result : CompensationResult} {t : Recorded Store CallOutcome}
    (h : (compensate compensatedAt p).Eval (traced (Call.faulty W)) ⟨store, []⟩ (.ok result) t) :
    (result.success = true → t.store.status p = some .compensated) ∧
      (Started p t.history → ¬ CompletionFails p t.history →
        (t.store.status p = some .compensated → result.success = true) ∧
          (result.success = false → t.store.status p = some .compensating)) ∧
      (¬ Started p t.history → result.success = false ∧ t.store.status p = store.status p) := by
  obtain ⟨trace, htrace, hmarks⟩ := (compensate_marks (p := p) compensatedAt).eval (eval_trace h)
  rw [List.nil_append] at htrace
  subst htrace
  have hstatus := status_of_run h rfl p
  rcases hmarks result rfl with ⟨before, after, heq, hstarted, hmarked, hafter⟩ |
    ⟨hstarted, hmarked, hresult⟩
  · have hstart : Started p t.history := by
      obtain ⟨row, hmem⟩ := hstarted
      exact ⟨row, by rw [heq]; exact List.mem_append_left _ hmem⟩
    rw [heq, statusWrites_append, hmarked] at hstatus
    cases hafter with
    | compensated reason hwrites =>
      rw [hwrites] at hstatus
      exact ⟨fun _ => hstatus, fun _ _ => ⟨fun _ => rfl, nofun⟩, fun hnot => absurd hstart hnot⟩
    | unmarked reason hwrites =>
      rw [hwrites] at hstatus
      refine ⟨nofun, fun _ _ => ⟨fun hcompensated => ?_, fun _ => hstatus⟩,
        fun hnot => absurd hstart hnot⟩
      rw [hstatus] at hcompensated
      cases hcompensated
    | unrecorded reason hfails =>
      refine ⟨nofun, fun _ hnone => absurd ?_ hnone, fun hnot => absurd hstart hnot⟩
      rw [heq]
      exact .append (Or.inr hfails)
  · rw [hmarked, List.getLast?_nil, Option.none_or] at hstatus
    refine ⟨fun htrue => ?_, fun hstart => absurd hstart hstarted, fun _ => ⟨hresult, hstatus⟩⟩
    rw [hresult] at htrue
    cases htrue

/-! ### A payment that has been compensated before -/

namespace Example

open Messaging.Example (host id)

/-- The failed payment is compensated; nothing fails. -/
def once : Except Failure CompensationResult × Recorded Store CallOutcome :=
  (compensate compensatedAt id).runWith (Call.respondTraced host) ⟨failedStore, []⟩

theorem once_eval : (compensate compensatedAt id).Eval (traced (Call.faulty host.collaborators))
    ⟨failedStore, []⟩ (.ok ⟨true, js "Compensated"⟩) once.2 :=
  Program.eval_runWith (traced_respondTraced host) _ _

/-- It is asked for again. -/
def again : Except Failure CompensationResult × Recorded Store CallOutcome :=
  (compensate compensatedAt id).runWith (Call.respondTraced host) ⟨once.2.store, []⟩

theorem again_eval : (compensate compensatedAt id).Eval (traced (Call.faulty host.collaborators))
    ⟨once.2.store, []⟩
    (.ok ⟨false, js "Payment status COMPENSATED is not compensable"⟩) again.2 :=
  Program.eval_runWith (traced_respondTraced host) _ _

end Example

theorem compensate_answers_once :
    Example.once.2.store.status Messaging.Example.id = some .compensated :=
  (compensate_answers Example.once_eval).1 rfl

/-- A compensation answers with failure, and the payment is COMPENSATED: it was before. -/
theorem compensated_and_refused : ∃ result,
    (compensate Example.compensatedAt Messaging.Example.id).Eval
        (traced (Call.faulty Messaging.Example.host.collaborators)) ⟨Example.once.2.store, []⟩
        (.ok result) Example.again.2 ∧
      ¬ (result.success = true ↔
        Example.again.2.store.status Messaging.Example.id = some .compensated) := by
  refine ⟨_, Example.again_eval, fun hmatch => ?_⟩
  have hstatus : Example.again.2.store.status Messaging.Example.id = some .compensated := by
    decide +kernel
  cases hmatch.mpr hstatus

end MipitCore.Compensation
