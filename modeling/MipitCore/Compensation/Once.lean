import Mathlib.Algebra.Order.BigOperators.Group.Finset
import MipitCore.Compensation.Compensate
import MipitCore.Messaging.Terminal
import MipitCore.Service.Rows

/-!
# How often a payment is compensated

The operator's endpoint and the batches may be asked to compensate one payment at the same
time. Each compensation checks the status of the row that it has read, and a row that was
read before another compensation has marked it is compensated again. So a payment is
compensated once exactly if one compensation finds it compensable, leaving aside those
that a failure stops before they have recorded their start (`compensated_once_iff`).

The proof counts: what one compensation reads, records and answers balances
(`compensate_tally`), and the counts of an interleaving are the sums of those of its
processes.

## Main definitions

* `Request`, `Request.results` — who asks for compensations
* `isRead`, `isStopped` — calls that are counted
* `Tally`

## Main results

* `compensate_tally`, `results_tally`
* `compensated_once_iff`
-/

namespace MipitCore.Compensation

open Js Foundation Program

/-- A request for compensations: of one payment, or of a batch. -/
inductive Request
  | single (compensatedAt : Datetime) (paymentId : Text)
  | batch (compensatedAt : Text → Datetime) (limit : ℕ)

/-- The compensations that a request leads to, with what each of them answers. -/
def Request.results : Request → Service (List (Text × Except Failure CompensationResult))
  | single compensatedAt paymentId => do
    let result ← attempt (compensate compensatedAt paymentId)
    return [(paymentId, result)]
  | batch compensatedAt limit => do
    let payments ← findCompensable limit
    compensateAll compensatedAt payments

/-- The payment was read, and its status was one that can be compensated. -/
def isRead (p : Text) : CallOutcome → Bool
  | ⟨.findById (.string id), .ok (some row)⟩ => decide (id = p) && isCompensable row.status
  | _ => false

/-- The mark COMPENSATING or the record of the start failed. -/
def isStopped (p : Text) : CallOutcome → Bool
  | ⟨.updateStatus (.string id) .compensating, .error _⟩ => decide (id = p)
  | ⟨.log event, .error _⟩ => isEvent p "COMPENSATION_STARTED" event
  | _ => false

/-- How often compensations of the payment answered with success. -/
def successes (p : Text) (results : List (Text × Except Failure CompensationResult)) : ℕ :=
  results.countP fun result => decide (result.1 = p) && succeeded result.2

/-- The calls of compensations that answered `n` times with success: every start follows a read that
was not stopped, and every success a completion, of which there are no more than starts. -/
structure Tally (p : Text) (trace : List CallOutcome) (n : ℕ) : Prop where
  reads : trace.countP (isRead p) =
    trace.countP (records p "COMPENSATION_STARTED") + trace.countP (isStopped p)
  successes : n ≤ trace.countP (records p "COMPENSATION_COMPLETED")
  completions : trace.countP (records p "COMPENSATION_COMPLETED") ≤
    trace.countP (records p "COMPENSATION_STARTED")

section Traces

variable {p q : Text} {trace more : List CallOutcome} {m n : ℕ}

theorem Tally.nil : Tally p [] 0 := ⟨rfl, le_refl 0, le_refl 0⟩

theorem Tally.append (h : Tally p trace m) (h' : Tally p more n) :
    Tally p (trace ++ more) (m + n) := by
  obtain ⟨hreads, hsuccesses, hcompletions⟩ := h
  obtain ⟨hreads', hsuccesses', hcompletions'⟩ := h'
  constructor <;> simp only [List.countP_append] <;> omega

/-- Calls after the start has been recorded: nothing is read or started, and there is a completion
exactly if there is a success. -/
structure Rest (p : Text) (trace : List CallOutcome) (n : ℕ) : Prop where
  reads : trace.countP (isRead p) = 0
  stopped : trace.countP (isStopped p) = 0
  started : trace.countP (records p "COMPENSATION_STARTED") = 0
  completions : trace.countP (records p "COMPENSATION_COMPLETED") = n

theorem Rest.append (h : Rest p trace m) (h' : Rest p more n) : Rest p (trace ++ more) (m + n) := by
  constructor <;> simp only [List.countP_append, h.reads, h.stopped, h.started, h.completions,
    h'.reads, h'.stopped, h'.started, h'.completions]

theorem Rest.nil : Rest p [] 0 := ⟨rfl, rfl, rfl, rfl⟩

/-- Events of other types do not count. -/
theorem rest_log {event : AuditEvent} (r : Except Failure Unit)
    (hstarted : event.eventType ≠ "COMPENSATION_STARTED")
    (hcompleted : event.eventType ≠ "COMPENSATION_COMPLETED") :
    Rest p [⟨.log event, r⟩] 0 := by
  cases r <;> constructor <;>
    simp [isRead, isStopped, records, isEvent, hstarted, hcompleted]

theorem rest_compensated (r : Except Failure PaymentRow) :
    Rest p [⟨.updateStatus (.string q) .compensated, r⟩] 0 := by
  constructor <;> simp [isRead, isStopped, records]

/-- What a compensation of `q` counts as for `p`. -/
def gain (p q : Text) (r : Except Failure CompensationResult) : ℕ :=
  if q = p ∧ succeeded r = true then 1 else 0

@[simp] theorem gain_error (e : Failure) : gain p q (.error e) = 0 := by
  simp [gain, succeeded]

@[simp] theorem gain_refused (reason : Text) : gain p q (.ok ⟨false, reason⟩) = 0 := by
  simp [gain, succeeded]

theorem rest_completed (compensatedAt : Datetime) (row : PaymentRow) (r : Except Failure Unit) :
    Rest p [⟨.log (completedEvent compensatedAt q row), r⟩]
      (if q = p ∧ r.isOk = true then 1 else 0) := by
  have hevent : isEvent p "COMPENSATION_COMPLETED" (completedEvent compensatedAt q row) =
      decide (q = p) := by
    simp [isEvent, completedEvent, event]
  have hstarted : isEvent p "COMPENSATION_STARTED" (completedEvent compensatedAt q row) = false := by
    simp [isEvent, completedEvent, event]
  cases r with
  | error e =>
    constructor <;> simp [isRead, isStopped, records, hstarted, Except.isOk, Except.toBool]
  | ok _ =>
    constructor <;>
      simp [isRead, isStopped, records, hevent, hstarted, Except.isOk, Except.toBool,
        List.countP_cons]

/-- The body of the `try` and its handler. -/
theorem rest_reverse (compensatedAt : Datetime) (row : PaymentRow) :
    (Program.tryCatch (reverse compensatedAt q row) fun err => do
      log (failedEvent q row err)
      return ⟨false, js "Compensation error: " ++ err.toText⟩).Traces (fun _ => True)
      fun trace r => Rest p trace (gain p q r) := by
  -- the handler only adds an event that is neither start nor completion
  have hhandler : ∀ (trace : List CallOutcome) (err : Failure), Rest p trace 0 →
      (do
        log (failedEvent q row err)
        return ⟨false, js "Compensation error: " ++ err.toText⟩ : Service CompensationResult).Traces
          (fun _ => True) fun more r => Rest p (trace ++ more) (gain p q r) := by
    intro trace err htrace
    refine Traces.bind (Traces.perform fun r _ => ?_)
    have hrest : Rest p [(⟨.log (failedEvent q row err), r⟩ : CallOutcome)] 0 :=
      rest_log r (by simp [failedEvent, event]) (by simp [failedEvent, event])
    cases r with
    | ok _ =>
      refine Traces.pure ?_
      simpa [gain, succeeded] using htrace.append hrest
    | error e => simpa [gain, succeeded] using htrace.append hrest
  have hreversal : (requireReversal q row).Traces (fun _ => True) fun trace _ => Rest p trace 0 := by
    by_cases hacked : wasAcked row = true
    · rw [requireReversal, if_pos hacked]
      exact Traces.perform fun r _ =>
        rest_log r (by simp [reversalEvent, event]) (by simp [reversalEvent, event])
    · rw [requireReversal, if_neg hacked]
      exact Traces.pure Rest.nil
  refine Traces.tryCatch (Traces.bind (hreversal.mono fun trace r htrace => ?_))
  cases r with
  | error e => exact hhandler trace e htrace
  | ok _ =>
    refine Traces.bind (Traces.perform fun r _ => ?_)
    have hmarked := htrace.append (rest_compensated (p := p) (q := q) r)
    cases r with
    | error e => exact hhandler _ e hmarked
    | ok _ =>
      refine Traces.bind (Traces.perform fun r _ => ?_)
      have hlogged := hmarked.append (rest_completed (p := p) (q := q) compensatedAt row r)
      cases r with
      | error e =>
        simp only [Except.isOk, Except.toBool, Bool.false_eq_true, and_false, if_false] at hlogged
        simpa using hhandler _ e hlogged
      | ok _ =>
        refine Traces.pure ?_
        simpa [gain, succeeded, Except.isOk, Except.toBool] using hlogged

theorem isEvent_started (row : PaymentRow) :
    isEvent p "COMPENSATION_STARTED" (startedEvent q row) = decide (q = p) := by
  simp [isEvent, startedEvent, event]

/-- What a compensation reads, records and answers, balances. -/
theorem tally_started {row row' : PaymentRow} (hrow : isCompensable row.status = true)
    {r : Except Failure CompensationResult} (hrest : Rest p more (gain p q r)) :
    Tally p (⟨.findById (.string q), .ok (some row)⟩ ::
      ⟨.updateStatus (.string q) .compensating, .ok row'⟩ ::
        ⟨.log (startedEvent q row), .ok ()⟩ :: more) (gain p q r) := by
  have hgain : gain p q r ≤ if q = p then 1 else 0 := by
    unfold gain
    split_ifs <;> simp_all
  have hevent := isEvent_started (p := p) (q := q) row
  have hother : isEvent p "COMPENSATION_COMPLETED" (startedEvent q row) = false := by
    simp [isEvent, startedEvent, event]
  obtain ⟨hreads, hstopped, hstarted, hcompletions⟩ := hrest
  constructor <;>
    simp only [List.countP_cons, hreads, hstopped, hstarted, hcompletions, isRead, isStopped,
      records, hevent, hother, hrow, Bool.and_true, decide_eq_true_eq, Bool.false_eq_true, if_false,
      Nat.zero_add, Nat.add_zero, le_refl]
  exact hgain

theorem tally_unmarked {row : PaymentRow} (hrow : isCompensable row.status = true) (e : Failure) :
    Tally p [⟨.findById (.string q), .ok (some row)⟩,
      ⟨.updateStatus (.string q) .compensating, .error e⟩] 0 := by
  constructor <;> simp [isRead, isStopped, records, hrow, List.countP_cons]

theorem tally_unrecorded {row row' : PaymentRow} (hrow : isCompensable row.status = true)
    (e : Failure) :
    Tally p [⟨.findById (.string q), .ok (some row)⟩,
      ⟨.updateStatus (.string q) .compensating, .ok row'⟩,
        ⟨.log (startedEvent q row), .error e⟩] 0 := by
  constructor <;> simp [isRead, isStopped, records, hrow, List.countP_cons, isEvent_started]

/-- **One compensation balances.** -/
theorem compensate_tally (compensatedAt : Datetime) :
    (compensate compensatedAt q).Traces (fun _ => True) fun trace r =>
      Tally p trace (gain p q r) := by
  have hunread : ∀ r₀ : Except Failure (Option PaymentRow),
      (∀ row, r₀ = .ok (some row) → isCompensable row.status = false) →
      Tally p [⟨.findById (.string q), r₀⟩] 0 := by
    intro r₀ hr₀
    have hread : isRead p ⟨.findById (.string q), r₀⟩ = false := by
      cases r₀ with
      | error e => rfl
      | ok row? =>
        cases row? with
        | none => rfl
        | some row => simp [isRead, hr₀ row rfl]
    constructor <;> simp [hread, isStopped, records]
  refine Traces.bind (Traces.perform fun r _ => ?_)
  cases r with
  | error e =>
    change Tally p [⟨.findById (.string q), .error e⟩] (gain p q (.error e))
    rw [gain_error]
    exact hunread (.error e) fun row h => by cases h
  | ok row? =>
    cases row? with
    | none =>
      refine Traces.pure ?_
      rw [gain_refused]
      exact hunread (.ok none) fun row h => by cases h
    | some row =>
      by_cases hrow : isCompensable row.status = true
      · simp only [proceed, hrow, ↓reduceIte]
        -- the read is followed by the mark and the record, or stopped by one of them
        refine Traces.bind (Traces.perform fun r _ => ?_)
        cases r with
        | error e =>
          change Tally p [_, _] (gain p q (.error e))
          rw [gain_error]
          exact tally_unmarked hrow e
        | ok row' =>
          refine Traces.bind (Traces.perform fun r _ => ?_)
          cases r with
          | error e =>
            change Tally p [_, _, _] (gain p q (.error e))
            rw [gain_error]
            exact tally_unrecorded hrow e
          | ok _ =>
            refine (rest_reverse (p := p) compensatedAt row).mono fun trace r hrest => ?_
            exact tally_started hrow hrest
      · rw [Bool.not_eq_true] at hrow
        simp only [proceed, hrow, Bool.false_eq_true, ↓reduceIte]
        refine Traces.pure ?_
        rw [gain_refused]
        exact hunread (.ok (some row)) fun row' h => by
          cases h
          exact hrow

/-- `attempt` turns what is thrown into a value, and calls nothing. -/
theorem attempt_traces {α : Type} {P : CallOutcome → Prop} {program : Service α}
    {R : List CallOutcome → Except Failure α → Prop} (h : program.Traces P R) :
    (attempt program).Traces P fun trace r => ∃ result, r = .ok result ∧ R trace result := by
  refine Traces.tryCatch (Traces.bind (h.mono fun trace r hr => ?_))
  cases r with
  | ok a => exact Traces.pure ⟨.ok a, rfl, by simpa using hr⟩
  | error e => exact Traces.pure ⟨.error e, rfl, by simpa using hr⟩

theorem successes_cons (result : Except Failure CompensationResult)
    (results : List (Text × Except Failure CompensationResult)) :
    successes p ((q, result) :: results) = gain p q result + successes p results := by
  rw [successes, List.countP_cons, gain, Nat.add_comm]
  simp [successes]

/-- The compensations of a batch balance together. -/
theorem compensateAll_tally (compensatedAt : Text → Datetime) (payments : List PaymentRow) :
    (compensateAll compensatedAt payments).Traces (fun _ => True) fun trace r =>
      ∃ results, r = .ok results ∧ Tally p trace (successes p results) := by
  induction payments with
  | nil => exact Traces.pure ⟨[], rfl, Tally.nil⟩
  | cons payment payments ih =>
    refine Traces.bind ((attempt_traces (compensate_tally (p := p) _)).mono fun trace r hr => ?_)
    obtain ⟨result, rfl, hresult⟩ := hr
    cases result with
    | error err =>
      refine Traces.pure ⟨_, rfl, ?_⟩
      rw [successes_cons, List.append_nil]
      exact hresult
    | ok result =>
      refine Traces.bind (ih.mono fun more r hr => ?_)
      obtain ⟨results, rfl, hresults⟩ := hr
      refine Traces.pure ⟨_, rfl, ?_⟩
      rw [successes_cons, List.append_nil]
      exact hresult.append hresults

/-- What a request was answered with; none where the payments of the batch could not be found. -/
def answers (r : Except Failure (List (Text × Except Failure CompensationResult))) :
    List (Text × Except Failure CompensationResult) :=
  match r with
  | .ok results => results
  | .error _ => []

/-- **The compensations of a request balance.** -/
theorem results_tally (request : Request) :
    request.results.Traces (fun _ => True) fun trace r => Tally p trace (successes p (answers r)) := by
  cases request with
  | single compensatedAt paymentId =>
    refine Traces.bind ((attempt_traces (compensate_tally (p := p) _)).mono fun trace r hr => ?_)
    obtain ⟨result, rfl, hresult⟩ := hr
    refine Traces.pure ?_
    rw [answers, successes_cons, List.append_nil]
    exact hresult
  | batch compensatedAt limit =>
    have hfound : ∀ r, Tally p [(⟨.findByStatuses compensableStatuses limit, r⟩ : CallOutcome)] 0 :=
      fun r => by constructor <;> simp [isRead, isStopped, records]
    refine Traces.bind (Traces.perform fun r _ => ?_)
    cases r with
    | error e => exact hfound _
    | ok payments =>
      refine (compensateAll_tally (p := p) compensatedAt payments).mono fun trace r hr => ?_
      obtain ⟨results, rfl, hresults⟩ := hr
      simpa [answers] using (hfound (.ok payments)).append hresults

end Traces

/-! ### Interleavings -/

section Interleavings

variable {ι : Type} [DecidableEq ι] {W : Collaborators} {requests : ι → Request} {store : Store}

/-- Requests for compensations over one store; any call may fail. -/
def compensations (W : Collaborators) (ι : Type) : Processes Store ι
    (Service (List (Text × Except Failure CompensationResult))) CallOutcome :=
  Program.processes (fun _ => Call.faulty W) Tick

/-- No request has made a call yet. -/
def compensationsStart (requests : ι → Request) (store : Store) :
    Config Store ι (Service (List (Text × Except Failure CompensationResult))) :=
  ⟨store, fun i => (requests i).results⟩

/-- What a process has answered. -/
def answered (program : Service (List (Text × Except Failure CompensationResult))) :
    List (Text × Except Failure CompensationResult) :=
  match program with
  | .done r => answers r
  | .call _ _ => []

variable {d : Config Store ι (Service (List (Text × Except Failure CompensationResult)))}
  {path : List (Transition (Config Store ι (Service (List (Text × Except Failure CompensationResult))))
    (Option (ι × CallOutcome)))}

/-- **A payment is compensated once exactly if one compensation finds it compensable**, not counting
those that a failure stops before their start is recorded. -/
theorem compensated_once_iff [Fintype ι] (p : Text)
    (h : (compensations W ι).toLTS.Run (compensationsStart requests store) path d)
    (hdone : ∀ i, ∃ r, d.locals i = .done r) :
    (∑ i, successes p (answered (d.locals i)) ≤ 1 ∧
        recorded p "COMPENSATION_STARTED" d.store =
          recorded p "COMPENSATION_STARTED" store + 1 ∧
        recorded p "COMPENSATION_COMPLETED" d.store ≤
          recorded p "COMPENSATION_COMPLETED" store + 1) ↔
      (outcomes path).countP (fun l => isRead p l.2) =
        (outcomes path).countP (fun l => isStopped p l.2) + 1 := by
  have htally : ∀ i, Tally p (outcomesOf i path) (successes p (answered (d.locals i))) := by
    intro i
    obtain ⟨r, hr⟩ := hdone i
    have heval := eval_outcomesOf (P := fun _ => True) (fun _ _ _ _ _ => trivial) h hr
    obtain ⟨trace, htrace, htally⟩ := (results_tally (p := p) (requests i)).eval heval
    rw [List.nil_append] at htrace
    rw [htrace, hr]
    exact htally
  have hreads := Finset.sum_congr rfl fun i (_ : i ∈ Finset.univ) => (htally i).reads
  have hsuccesses := Finset.sum_le_sum fun i (_ : i ∈ Finset.univ) => (htally i).successes
  have hcompletions := Finset.sum_le_sum fun i (_ : i ∈ Finset.univ) => (htally i).completions
  rw [Finset.sum_add_distrib] at hreads
  simp only [← countP_outcomes] at hreads hsuccesses hcompletions
  have hrecorded : ∀ eventType, recorded p eventType d.store = recorded p eventType store +
      (outcomes path).countP fun l => records p eventType l.2 := fun eventType =>
    recorded_run (fun _ _ _ _ _ hI => hI) tick_audit h p eventType
  rw [hrecorded, hrecorded]
  omega

end Interleavings

/-! ### Two compensations of one payment -/

namespace Example

open Messaging.Example (host stored id)

/-- The payment has failed. -/
def failedStore : Store :=
  { stored with payments :=
      (Persistence.updateStatus stored.now (.string id) .failed stored.payments).2 }

def compensatedAt : Datetime := ⟨js "2026-03-13T12:00:00.000Z", by decide⟩

/-- The operator asks twice. -/
def twice : Bool → Request := fun _ => .single compensatedAt id

def answerAll (c : Call) (s : Store) : Option (Except Failure c.Result × Store) :=
  some (c.respond host s)

/-- Both read the payment, and then one after the other compensates it. -/
def bothRead : List (Transition (Config Store Bool
    (Service (List (Text × Except Failure CompensationResult)))) (Option (Bool × CallOutcome))) ×
      Config Store Bool (Service (List (Text × Except Failure CompensationResult))) :=
  Program.schedule (fun _ => answerAll)
    ([true, false] ++ List.replicate 4 true ++ List.replicate 4 false)
    (compensationsStart twice failedStore)

theorem bothRead_run : (compensations host.collaborators Bool).toLTS.Run
    (compensationsStart twice failedStore) bothRead.1 bothRead.2 := by
  refine Program.run_schedule (f := fun _ => answerAll) ?_ _ _
  intro i c s r t h
  have hanswer := Call.answer_respond host c s
  rw [Option.some.inj h] at hanswer
  exact Or.inl hanswer

theorem bothRead_done : ∀ i, ∃ r, bothRead.2.locals i = .done r
  | true => ⟨_, rfl⟩
  | false => ⟨_, rfl⟩

theorem bothRead_successes : ∑ i, successes id (answered (bothRead.2.locals i)) = 2 := by
  decide

end Example

/-- A payment is compensated twice. -/
theorem compensated_twice :
    (compensations Messaging.Example.host.collaborators Bool).toLTS.Run
        (compensationsStart Example.twice Example.failedStore) Example.bothRead.1
        Example.bothRead.2 ∧
      (∀ i, ∃ r, Example.bothRead.2.locals i = .done r) ∧
      ∑ i, successes Messaging.Example.id (answered (Example.bothRead.2.locals i)) = 2 ∧
      recorded Messaging.Example.id "COMPENSATION_STARTED" Example.bothRead.2.store = 2 ∧
      recorded Messaging.Example.id "COMPENSATION_COMPLETED" Example.bothRead.2.store = 2 :=
  ⟨Example.bothRead_run, Example.bothRead_done, Example.bothRead_successes, rfl, rfl⟩

theorem compensated_once_iff_bothRead :
    (outcomes Example.bothRead.1).countP (fun l => isRead Messaging.Example.id l.2) ≠
      (outcomes Example.bothRead.1).countP (fun l => isStopped Messaging.Example.id l.2) + 1 := by
  intro hreads
  have honce := ((compensated_once_iff Messaging.Example.id Example.bothRead_run
    Example.bothRead_done).mpr hreads).1
  rw [Example.bothRead_successes] at honce
  exact absurd honce (by decide)

end MipitCore.Compensation
