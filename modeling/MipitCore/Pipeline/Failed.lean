import MipitCore.Pipeline.Execute

/-!
# Failed payments and what was sent for them

`execute` runs alone here, with every call free to fail, and leaves a history of the
calls it made. The `catch` block marks a payment as failed whatever call threw. For the
calls up to the publishing that is right: nothing was sent. The two calls after it can
throw as well, and then the payment is marked as failed although its message is in the
adapter's queue (`failed_unsent_iff`).

## Main definitions

* `Quiet` — calls that neither publish nor mark
* `Sent`, `EndsFailed`, `FailsAfterPublishing` — what a history says
* `Shape` — the histories that `execute` can leave

## Main results

* `prepare_makes` — nothing up to step 6b publishes or marks
* `execute_shape`
* `failed_unsent_iff`
-/

namespace MipitCore.Pipeline

open Js Api Foundation Persistence

/-- The run of one `execute`, recorded: calls may fail. -/
abbrev recorded (W : Collaborators) : Interp Call Call.Result Failure (Recorded Store (Event Call)) :=
  Interp.record (Call.faulty W)

/-- Calls that neither publish, nor mark a payment as queued or failed, nor report that it was
queued, nor acknowledge it. -/
def Quiet : Call → Prop
  | .publishToAdapter _ _ | .updateRailAck _ _ _ => False
  | .create p => p.status = .received
  | .updateStatus _ status | .updateCanonical _ _ status | .updateRoute _ _ _ status =>
    status ≠ .queued ∧ status ≠ .failed
  | .log event => event.eventType ≠ "STATUS_CHANGE"
  | _ => True

/-- A message was published for the payment. -/
def Sent (id : Text) (history : List (Event Call)) : Prop :=
  ∃ destinationRail message, message.paymentId = id ∧
    ⟨.publishToAdapter destinationRail message, true⟩ ∈ history

/-- The run ends with the payment's status set to FAILED by the `catch` block. -/
def EndsFailed (id : Text) (s : Recorded Store (Event Call)) : Prop :=
  ⟨.updateStatus (.string id) .failed, true⟩ ∈ s.history ∧ s.store.status id = some .failed

/-- A call after the publishing failed, and the payment could be marked as failed. -/
def FailsAfterPublishing (id : Text) (history : List (Event Call)) : Prop :=
  (⟨.updateStatus (.string id) .queued, false⟩ ∈ history ∨
      ∃ event : AuditEvent, event.eventType = "STATUS_CHANGE" ∧ ⟨.log event, false⟩ ∈ history) ∧
    ⟨.updateStatus (.string id) .failed, true⟩ ∈ history

theorem Prepares.quiet {p : Payment} {c : Call} (h : p.Prepares c) : Quiet c := by
  cases c with
  | updateStatus v status | updateCanonical v canonical status | updateRoute v d n status =>
    rw [Payment.Prepares] at h
    rw [Quiet, h.2]
    decide
  | log event => exact h.2
  | create q | publishToAdapter d m | updateRailAck v ack status => exact h.elim
  | _ => trivial

/-- Up to step 6b, `execute` makes quiet calls only. -/
theorem prepare_makes (p : Payment) : p.prepare.Makes Quiet := by
  obtain ⟨next, hnext, hmakes⟩ := p.prepare_starts
  rw [hnext]
  exact ⟨rfl, fun r => (hmakes r).mono fun _ => Prepares.quiet⟩

/-! ### The histories of `execute` -/

/-- A history before which nothing was sent: quiet calls, and possibly a publishing that failed. -/
def Unsent (history : List (Event Call)) : Prop :=
  ∀ e ∈ history, Quiet e.call ∨ (e.succeeded = false ∧ ∃ d m, e.call = .publishToAdapter d m)

/-- A history in which a message was published and a call after that failed, with no marking
yet. -/
def SentAndFailed (id : Text) (history : List (Event Call)) : Prop :=
  Sent id history ∧ ⟨.updateStatus (.string id) .failed, true⟩ ∉ history ∧
    (⟨.updateStatus (.string id) .queued, false⟩ ∈ history ∨
      ∃ event : AuditEvent, event.eventType = "STATUS_CHANGE" ∧ ⟨.log event, false⟩ ∈ history)

/-- What the `catch` block appends: the marking, and, if it succeeded, the audit of the error. -/
def Marking (id : Text) (s : Recorded Store (Event Call)) (marks : List (Event Call)) : Prop :=
  (∃ event succeeded, event.eventType = "PIPELINE_ERROR" ∧
      marks = [⟨.updateStatus (.string id) .failed, true⟩, ⟨.log event, succeeded⟩] ∧
      s.store.status id = some .failed) ∨
    marks = [⟨.updateStatus (.string id) .failed, false⟩]

/-- What a run of `execute` can have left: a payment that was queued, or one that was marked. -/
inductive Shape (id : Text) (s : Recorded Store (Event Call)) : Prop
  | queued (h : ⟨.updateStatus (.string id) .failed, true⟩ ∉ s.history)
  | unsent (before marks : List (Event Call)) (h : Unsent before) (hmarks : Marking id s marks)
      (heq : s.history = before ++ marks)
  | sent (before marks : List (Event Call)) (h : SentAndFailed id before)
      (hmarks : Marking id s marks) (heq : s.history = before ++ marks)

section Runs

variable {W : Collaborators} {p : Payment} {s t : Recorded Store (Event Call)}

/-- The marking of a failed payment. -/
theorem markFailed_safe (err : Failure) :
    (p.markFailed err).Safe (recorded W) (Discipline.alone _)
      (fun t _ => ∃ marks, Marking p.paymentId t marks ∧ t.history = s.history ++ marks) s := by
  refine Program.Safe.tryCatch (Program.Safe.bind (Program.Safe.perform_alone fun r t hcall => ?_))
  rcases recorded_cases hcall with ⟨row, rfl, hanswer, hhist⟩ | ⟨⟨e, rfl⟩, -, hhist⟩
  · have hstatus : t.store.status p.paymentId = some .failed := by
      have := status_of_answer hanswer p.paymentId
      simpa [Call.statusWrite] using this
    refine Program.Safe.perform_alone fun r w hcall' => ?_
    have hboth : ∀ b, w.history = t.history ++ [⟨.log (p.errorEvent err), b⟩] →
        w.store.status p.paymentId = some .failed →
        ∃ marks, Marking p.paymentId w marks ∧ w.history = s.history ++ marks := by
      intro b hhist' hstatus'
      refine ⟨[⟨_, true⟩, ⟨.log (p.errorEvent err), b⟩], Or.inl ⟨_, b, rfl, rfl, hstatus'⟩, ?_⟩
      rw [hhist', hhist, List.append_assoc]
      rfl
    rcases recorded_cases hcall' with ⟨row', rfl, hanswer', hhist'⟩ | ⟨⟨e, rfl⟩, hstore, hhist'⟩
    · refine hboth true hhist' ?_
      rw [status_of_answer hanswer' p.paymentId, hstatus]
      rfl
    · rintro w' - rfl
      exact hboth false hhist' (by rw [hstore]; exact hstatus)
  · rintro t' - rfl
    exact ⟨_, Or.inr rfl, hhist⟩

/-- From a history in which nothing was sent, the `catch` block leaves one of the shapes. -/
theorem handle_safe (err : Failure)
    (h : Unsent s.history ∨ SentAndFailed p.paymentId s.history) :
    (p.handle err).Safe (recorded W) (Discipline.alone _)
      (fun t _ => Shape p.paymentId t) s := by
  refine Program.Safe.bind ((markFailed_safe err).mono fun t r _ ⟨marks, hmarks, heq⟩ => ?_)
  have hshape : Shape p.paymentId t := by
    rcases h with h | h
    · exact .unsent _ _ h hmarks heq
    · exact .sent _ _ h hmarks heq
  cases r with
  | ok _ =>
    rintro t' - rfl
    exact hshape
  | error e => exact hshape

/-- Quiet calls keep a history unsent. -/
theorem prepare_safe (h : ∀ e ∈ s.history, Quiet e.call) :
    p.prepare.Safe (recorded W) (Discipline.alone _)
      (fun t _ => ∀ e ∈ t.history, Quiet e.call) s := by
  refine Program.Safe.of_makes_alone (prepare_makes p) ?_ h
  rintro c s r t hc hs ⟨-, hhist⟩ e he
  rw [hhist, List.mem_append, List.mem_singleton] at he
  rcases he with he | rfl
  · exact hs e he
  · exact hc

theorem Sent.append {id : Text} {history more : List (Event Call)} (h : Sent id history) :
    Sent id (history ++ more) := by
  obtain ⟨d, m, hm, hmem⟩ := h
  exact ⟨d, m, hm, List.mem_append_left _ hmem⟩

/-- What the body of the `try` leaves, and what it throws from. -/
theorem run_safe (h : s.history = []) :
    p.run.Safe (recorded W) (Discipline.alone _)
      (fun t r => match r with
        | .ok _ => ⟨.updateStatus (.string p.paymentId) .failed, true⟩ ∉ t.history
        | .error _ => Unsent t.history ∨ SentAndFailed p.paymentId t.history) s := by
  refine Program.Safe.bind ((prepare_safe (by simp [h])).mono fun t r _ hquiet => ?_)
  have hunsent : Unsent t.history := fun e he => Or.inl (hquiet e he)
  cases r with
  | error e => exact Or.inl hunsent
  | ok x =>
    refine Program.Safe.bind (Program.Safe.perform_alone fun r u hpublish => ?_)
    rcases recorded_cases hpublish with ⟨_, rfl, -, hpub⟩ | ⟨⟨e, rfl⟩, -, hpub⟩
    · have hsent : Sent p.paymentId u.history :=
        ⟨x.route.destination, p.message x.normalized x.route x.translated, rfl, by
          rw [hpub]
          exact List.mem_append_right _ List.mem_cons_self⟩
      have hmarked : ⟨.updateStatus (.string p.paymentId) .failed, true⟩ ∉ u.history := by
        rw [hpub, List.mem_append, not_or]
        exact ⟨fun hmem => absurd (hquiet _ hmem) (by simp [Quiet]), by simp⟩
      refine Program.Safe.bind (Program.Safe.bind
        (Program.Safe.perform_alone fun r v hqueue => ?_))
      rcases recorded_cases hqueue with ⟨_, rfl, -, hq⟩ | ⟨⟨e, rfl⟩, -, hq⟩
      · -- marked as queued; only the audit event can still fail
        refine Program.Safe.perform_alone fun r w hlog => ?_
        rcases recorded_cases hlog with ⟨_, rfl, -, hl⟩ | ⟨⟨e, rfl⟩, -, hl⟩
        · rintro w' - rfl
          rw [hl, hq]
          simpa using hmarked
        · refine Or.inr ⟨?_, ?_, Or.inr ⟨p.queuedEvent, rfl, ?_⟩⟩
          · rw [hl, hq]
            exact hsent.append.append
          · rw [hl, hq]
            simpa using hmarked
          · rw [hl]
            exact List.mem_append_right _ List.mem_cons_self
      · -- sent, and not marked
        refine Or.inr ⟨?_, ?_, Or.inl ?_⟩
        · rw [hq]
          exact hsent.append
        · rw [hq]
          simpa using hmarked
        · rw [hq]
          exact List.mem_append_right _ List.mem_cons_self
    · -- the broker has refused the message
      refine Or.inl fun e he => ?_
      rw [hpub, List.mem_append, List.mem_singleton] at he
      rcases he with he | rfl
      · exact hunsent e he
      · exact Or.inr ⟨rfl, _, _, rfl⟩

/-- **The histories of `execute`.** -/
theorem execute_shape {request : CreatePaymentRequest} {context : Context} {draws : Draws}
    {store : Store} {r : Except Failure PipelineResult}
    (h : (execute request context draws).Eval (recorded W) ⟨store, []⟩ r t) :
    Shape (paymentIdFor context draws) t := by
  obtain ⟨P, hP⟩ := inferRail_accepted request.debtor.alias
  simp only [execute, hP] at h
  refine Program.Safe.eval (Q := fun t _ => Shape _ t)
    (Program.Safe.tryCatch ((run_safe rfl).mono fun t r _ hrun => ?_)) h
  cases r with
  | ok _ => exact .queued hrun
  | error e => exact handle_safe e hrun

/-! ### When a failed payment was not sent -/

/-- The `catch` block itself sends nothing, and reports no queued payment. -/
theorem not_mem_marks {id : Text} {marks : List (Event Call)} (h : Marking id t marks) :
    (∀ d m, (⟨.publishToAdapter d m, true⟩ : Event Call) ∉ marks) ∧
      ⟨.updateStatus (.string id) .queued, false⟩ ∉ marks ∧
      ∀ event : AuditEvent, event.eventType = "STATUS_CHANGE" → ⟨.log event, false⟩ ∉ marks := by
  rcases h with ⟨event, succeeded, hevent, rfl, -⟩ | rfl
  · refine ⟨by simp, by simp, fun event' hevent' => ?_⟩
    have hne : event' ≠ event := by
      rintro rfl
      rw [hevent] at hevent'
      exact absurd hevent' (by decide)
    simp [hne]
  · exact ⟨by simp, by simp, by simp⟩

theorem not_sent_of_unsent {id : Text} {before marks : List (Event Call)} (h : Unsent before)
    (hmarks : Marking id t marks) : ¬ Sent id (before ++ marks) := by
  rintro ⟨d, m, -, hmem⟩
  rcases List.mem_append.mp hmem with hmem | hmem
  · rcases h _ hmem with hquiet | ⟨hfalse, -⟩
    · exact hquiet
    · exact absurd hfalse (by simp)
  · exact (not_mem_marks hmarks).1 d m hmem

theorem not_failsAfterPublishing_of_unsent {id : Text} {before marks : List (Event Call)}
    (h : Unsent before) (hmarks : Marking id t marks) :
    ¬ FailsAfterPublishing id (before ++ marks) := by
  obtain ⟨-, hqueued, hlog⟩ := not_mem_marks hmarks
  rintro ⟨hmem | ⟨event, hevent, hmem⟩, -⟩
  · rcases List.mem_append.mp hmem with hmem | hmem
    · rcases h _ hmem with hquiet | ⟨-, d, m, hcall⟩
      · exact hquiet.1 rfl
      · cases hcall
    · exact hqueued hmem
  · rcases List.mem_append.mp hmem with hmem | hmem
    · rcases h _ hmem with hquiet | ⟨-, d, m, hcall⟩
      · exact hquiet hevent
      · cases hcall
    · exact hlog event hevent hmem

/-- **A payment that `execute` marks as failed was not sent, unless a call after the publishing
failed.** -/
theorem failed_unsent_iff {request : CreatePaymentRequest} {context : Context} {draws : Draws}
    {store : Store} {r : Except Failure PipelineResult}
    (h : (execute request context draws).Eval (recorded W) ⟨store, []⟩ r t) :
    let id := paymentIdFor context draws
    (EndsFailed id t → ¬ Sent id t.history) ↔ ¬ FailsAfterPublishing id t.history := by
  intro id
  rcases execute_shape h with hqueued | ⟨before, marks, hunsent, hmarks, heq⟩ |
    ⟨before, marks, ⟨hsent, hunmarked, hfailed⟩, hmarks, heq⟩
  · exact ⟨fun _ hfails => hqueued hfails.2, fun _ hends => absurd hends.1 hqueued⟩
  · rw [heq]
    exact ⟨fun _ => not_failsAfterPublishing_of_unsent hunsent hmarks,
      fun _ _ => not_sent_of_unsent hunsent hmarks⟩
  · have hsent' : Sent id t.history := by
      rw [heq]
      exact hsent.append
    rcases hmarks with ⟨event, succeeded, hevent, rfl, hstatus⟩ | rfl
    · have hmark : ⟨.updateStatus (.string id) .failed, true⟩ ∈ t.history := by
        rw [heq]
        exact List.mem_append_right _ List.mem_cons_self
      have hfails : FailsAfterPublishing id t.history := by
        refine ⟨?_, hmark⟩
        rw [heq]
        exact hfailed.imp (List.mem_append_left _) fun ⟨event, hevent, hmem⟩ =>
          ⟨event, hevent, List.mem_append_left _ hmem⟩
      exact ⟨fun hprop => absurd hsent' (hprop ⟨hmark, hstatus⟩), fun hnot => absurd hfails hnot⟩
    · have hmark : ⟨.updateStatus (.string id) .failed, true⟩ ∉ t.history := by
        rw [heq, List.mem_append, not_or]
        exact ⟨hunmarked, by simp⟩
      exact ⟨fun _ hfails => hmark hfails.2, fun _ hends => absurd hends.1 hmark⟩

end Runs

/-! ### A run in which the queued payment cannot be marked -/

namespace Example

/-- The update to QUEUED fails, every other call answers. -/
def failQueued : (c : Call) → Recorded Store (Event Call) → Except Failure c.Result × Recorded Store (Event Call)
  | .updateStatus id .queued, s =>
    (.error (.error (js "Connection terminated")),
      ⟨s.store, s.history ++ [⟨.updateStatus id .queued, false⟩]⟩)
  | c, s => ((c.respond host s.store).1,
      ⟨(c.respond host s.store).2, s.history ++ [⟨c, (c.respond host s.store).1.isOk⟩]⟩)

theorem failQueued_recorded (c : Call) (s : Recorded Store (Event Call)) :
    recorded host.collaborators c s (failQueued c s).1 (failQueued c s).2 := by
  unfold failQueued
  split
  · exact ⟨Or.inr ⟨rfl, ⟨_, rfl⟩, rfl⟩, rfl⟩
  · exact ⟨Or.inl (Call.answer_respond host _ _), rfl⟩

def failedRun : Except Failure PipelineResult × Recorded Store (Event Call) :=
  (execute request context draws).runWith failQueued ⟨store, []⟩

theorem failedRun_eval :
    (execute request context draws).Eval (recorded host.collaborators) ⟨store, []⟩ failedRun.1
      failedRun.2 :=
  Program.eval_runWith failQueued_recorded _ _

theorem failedRun_fails :
    FailsAfterPublishing (paymentIdOf ulid) failedRun.2.history :=
  ⟨Or.inl (List.mem_of_getElem? (i := 15) rfl), List.mem_of_getElem? (i := 16) rfl⟩

theorem failedRun_sent : Sent (paymentIdOf ulid) failedRun.2.history :=
  ⟨_, _, rfl, List.mem_of_getElem? (i := 14) rfl⟩

end Example

/-- The run shows that a payment can be marked as failed after its message was published. -/
theorem failed_payment_was_sent :
    (execute Example.request Example.context Example.draws).Eval
        (recorded Example.host.collaborators) ⟨Example.store, []⟩ Example.failedRun.1
        Example.failedRun.2 ∧
      EndsFailed (paymentIdOf Example.ulid) Example.failedRun.2 ∧
      Sent (paymentIdOf Example.ulid) Example.failedRun.2.history :=
  ⟨Example.failedRun_eval, ⟨List.mem_of_getElem? (i := 16) rfl, by decide⟩,
    Example.failedRun_sent⟩

theorem failed_unsent_iff_failedRun :
    FailsAfterPublishing (paymentIdOf Example.ulid) Example.failedRun.2.history ∧
      ¬ (EndsFailed (paymentIdOf Example.ulid) Example.failedRun.2 →
        ¬ Sent (paymentIdOf Example.ulid) Example.failedRun.2.history) :=
  ⟨Example.failedRun_fails, fun h =>
    (failed_unsent_iff Example.failedRun_eval).mp h Example.failedRun_fails⟩

end MipitCore.Pipeline
