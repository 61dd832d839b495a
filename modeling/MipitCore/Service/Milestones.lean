import MipitCore.Service.Activities
import MipitCore.Service.Rows

/-!
# Milestones

A status of a payment may have a column for the time at which it was reached. Each of the
statements that write a status maintains columns of its own: the update of an
acknowledgement sets `completed_at`, but not `failed_at`. So the columns follow the status
exactly as long as no acknowledgement marks a payment as failed that was never marked as
failed before (`milestones_iff`).

## Main definitions

* `milestone`, `Reached`, `Milestones`
* `KeepsFailure`

## Main results

* `milestones_of_faulty` — one call
* `milestones_iff` — every run of the service
-/

namespace MipitCore

open Js Foundation Persistence

/-- The milestone column of a status. -/
def milestone : PaymentStatus → Option (PaymentRow → Option ℕ)
  | .validated => some PaymentRow.validatedAt
  | .canonicalized => some PaymentRow.canonicalizedAt
  | .routed => some PaymentRow.routedAt
  | .queued => some PaymentRow.queuedAt
  | .completed => some PaymentRow.completedAt
  | .failed => some PaymentRow.failedAt
  | .deadLetter => some PaymentRow.deadLetterAt
  | .compensated => some PaymentRow.compensatedAt
  | _ => none

/-- The milestone of the row's status is set. -/
def Reached (row : PaymentRow) : Prop :=
  ∀ column, milestone row.status = some column → column row ≠ none

/-- The milestones of all rows. -/
def Milestones (payments : Payments) : Prop := ∀ id row, payments id = some row → Reached row

/-- The call does not mark a payment as failed through an acknowledgement, unless the time of its
failure is known already. -/
def FailureKnown (payments : Payments) (c : Call) : Prop :=
  ∀ id railAck row, c = .updateRailAck (.string id) railAck .failed → payments id = some row →
    row.failedAt ≠ none

section Steps

variable {W : Collaborators} {c : Call} {s t : Store} {r : Except Failure c.Result}

/-- What a call assigns reaches its milestone, but for an acknowledgement of a failure. -/
theorem reached_assign (hc : Writes c) {now : ℕ} {v : JsValue} {assign : PaymentRow → PaymentRow}
    {row : PaymentRow} (hassign : c.assign now = some (v, assign)) (hrow : Reached row)
    (hfailed : ∀ railAck, c = .updateRailAck v railAck .failed → row.failedAt ≠ none) :
    Reached (assign row) := by
  intro column hcolumn
  cases c with
  | updateStatus v status =>
    cases hassign
    rcases hc with rfl | rfl | rfl | rfl | rfl | rfl <;> cases hcolumn <;> exact nofun
  | updateCanonical v canonical status =>
    cases hassign
    obtain rfl : status = .canonicalized := hc
    cases hcolumn
    exact nofun
  | updateRoute v dest rule status =>
    cases hassign
    obtain rfl : status = .routed := hc
    cases hcolumn
    exact nofun
  | updateTranslated v translated =>
    cases hassign
    -- the status stays, and so does its column, whichever it is
    have hset := hrow column hcolumn
    unfold milestone at hcolumn
    split at hcolumn <;> cases hcolumn <;> exact hset
  | updateRailAck v railAck status =>
    cases hassign
    rcases hc with rfl | rfl | rfl
    · cases hcolumn
      exact nofun
    · cases hcolumn
    · cases hcolumn
      exact hfailed railAck rfl
  | _ => cases hassign

/-- **One call keeps the milestones**, if it is not an acknowledgement that marks a payment as
failed for the first time. -/
theorem milestones_of_faulty (hc : Writes c) (h : Call.faulty W c s r t)
    (hs : Milestones s.payments) (hknown : r.isOk = true → FailureKnown s.payments c) :
    Milestones t.payments := by
  refine rows_of_faulty h hs ?_ ?_
  · rintro p row rfl rfl column hcolumn
    rw [show row.status = .received from hc] at hcolumn
    cases hcolumn
  · intro v assign id row hassign hok hv hrow
    refine reached_assign hc hassign (hs id row hrow) ?_
    rintro railAck rfl
    subst hv
    exact hknown hok id railAck row rfl hrow

end Steps

/-- **The milestones follow the statuses in a run of the service exactly if no acknowledgement marks
a payment as failed for the first time.** -/
theorem milestones_iff {ι : Type} [DecidableEq ι] {W : Collaborators} {case' : CaseMapping}
    {webhooks : Bool} {activities : ι → Activity} {store : Store}
    (hempty : ∀ id, store.payments id = none) {path : List (ServiceStep ι)}
    {d : Config Store ι (Service Unit)}
    (h : (service W ι).toLTS.Run (serviceStart case' webhooks activities store) path d) :
    (∀ e ∈ path, Milestones e.target.store.payments) ↔
      ∀ e ∈ path, ∀ i o, e.label = some (i, o) → o.result.isOk = true →
        FailureKnown e.source.store.payments o.call := by
  have hmakes : ∀ i, ((serviceStart case' webhooks activities store).locals i).Makes Writes :=
    fun i => makes_writes case' webhooks (activities i)
  have hinit : (∀ i, ((serviceStart case' webhooks activities store).locals i).Makes Writes) ∧
      Milestones (serviceStart case' webhooks activities store).store.payments := by
    refine ⟨hmakes, fun id row hrow => ?_⟩
    simp [serviceStart, hempty] at hrow
  refine h.forall_iff (I := fun d => (∀ i, (d.locals i).Makes Writes) ∧ Milestones d.store.payments)
    (fun d l => ∀ i o, l = some (i, o) → o.result.isOk = true →
      FailureKnown d.store.payments o.call) hinit ?_ ?_
  · -- a step that meets the condition keeps the milestones
    intro d l e hd hstep hknown
    obtain ⟨hlocals, hcall⟩ := Program.makes_step (P := fun _ => Writes) hd.1 hstep
    have he : Milestones e.store.payments := by
      rcases Program.processes_cases hstep with ⟨i, k, next, r, -, hl, hI, -⟩ | ⟨-, htick, -⟩
      · exact milestones_of_faulty (hcall (i, ⟨k, r⟩) hl) hI hd.2 fun hok => hknown i ⟨k, r⟩ hl hok
      · obtain ⟨now, -, hstore⟩ := htick
        rw [hstore]
        exact hd.2
    exact ⟨⟨hlocals, he⟩, he⟩
  · -- an acknowledgement that marks the payment as failed for the first time sets no column
    rintro d l e - hstep hmilestones i ⟨c, r⟩ rfl hok id railAck row rfl hrow
    rcases Program.processes_cases hstep with ⟨j, k, next, r', -, hl, hI, -⟩ | ⟨hl, -, -⟩
    · cases hl
      cases r with
      | error err => cases hok
      | ok answer =>
        rcases faulty_cases hI with ⟨a, -, hanswer⟩ | ⟨⟨err, herr⟩, -⟩
        · obtain ⟨id', row', hv, hrow', -, ht⟩ := assigned_updateRailAck hanswer
          cases hv
          cases hrow.symm.trans hrow'
          have hreached : Reached (assignRailAck d.store.now railAck .failed row) := by
            refine hmilestones id _ ?_
            change e.store.payments id = _
            rw [ht]
            exact Function.update_self _ _ _
          exact hreached PaymentRow.failedAt rfl
        · cases herr
    · cases hl

/-! ### A payment that its rail fails to execute -/

namespace Example

/-- The rail's answer for the example payment. -/
def errorAck : JsValue := .object
  [("payment_id", .string (paymentIdOf Pipeline.Example.ulid)),
    ("trace_id", .string Pipeline.Example.ulid.1), ("source_rail", .string (js "PIX")),
    ("rail_ack", .object [("status", .string (js "ERROR"))])]

/-- The payment is stored, and then the answer is handled. -/
def erroneous : Bool → Activity
  | true => pixPayment
  | false => .ackConsumer (some (some errorAck))

def erroneousRun : List (ServiceStep Bool) × Config Store Bool (Service Unit) :=
  runService erroneous [true, false]

theorem erroneousRun_failed : (erroneousRun.2.store.payments (paymentIdOf Pipeline.Example.ulid)).map
    (fun row => (row.status, row.failedAt)) = some (.failed, none) := by
  decide

/-- The last step leaves a failed payment without the time of its failure. -/
theorem erroneousRun_last : ∃ e ∈ erroneousRun.1, e.target.store = erroneousRun.2.store :=
  ⟨_, List.mem_of_getElem? (i := 1) rfl, rfl⟩

theorem not_milestones_erroneousRun : ¬ Milestones erroneousRun.2.store.payments := by
  intro h
  obtain ⟨row, hrow, hfields⟩ := Option.map_eq_some_iff.mp erroneousRun_failed
  obtain ⟨hstatus, hfailed⟩ := Prod.mk.inj hfields
  refine h _ row hrow PaymentRow.failedAt ?_ hfailed
  rw [hstatus]
  rfl

end Example

/-- An acknowledgement of an error leaves a failed payment without the time of its failure. -/
theorem failed_without_milestone :
    (service Pipeline.Example.host.collaborators Bool).toLTS.Run
        (serviceStart .ascii true Example.erroneous Pipeline.Example.store) Example.erroneousRun.1
        Example.erroneousRun.2 ∧
      ¬ Milestones Example.erroneousRun.2.store.payments :=
  ⟨Example.run_service _ _, Example.not_milestones_erroneousRun⟩

theorem milestones_iff_erroneousRun :
    ¬ ∀ e ∈ Example.erroneousRun.1, ∀ i o, e.label = some (i, o) → o.result.isOk = true →
      FailureKnown e.source.store.payments o.call := by
  intro hknown
  obtain ⟨e, he, htarget⟩ := Example.erroneousRun_last
  refine Example.not_milestones_erroneousRun ?_
  rw [← htarget]
  exact (milestones_iff (fun _ => rfl) (Example.run_service _ _)).mpr hknown e he

end MipitCore
