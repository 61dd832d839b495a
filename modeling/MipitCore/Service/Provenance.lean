import MipitCore.Foundation.Ordering
import MipitCore.Pipeline.Faults
import MipitCore.Service.Activities

/-!
# What an activity has called before

Every activity makes its calls in an order of its own: a payment is routed after it was
stored, published after what is published was stored, marked as queued after it was
published; and an audit event is recorded after the call that it reports. `Activity.Allows` says
which calls must have been made, and with which outcomes, before a call is. This does
not depend on what the calls answer, nor on what other activities do in between.

## Main definitions

* `Credible` — the outcomes that a call can have
* `Payment.Ready`, `Payment.Reports`, `Payment.Allows` — the order of `execute`
* `AckAllows`, `DlqAllows`, `CompensationAllows` — of the other activities
* `Activity.Allows`

## Main results

* `execute_ordered` and its siblings
* `activity_ordered` — every activity keeps to its order
-/

namespace MipitCore

open Js Foundation

/-- The outcome is one that the call can have. -/
def Credible (W : Collaborators) (o : CallOutcome) : Prop :=
  ∃ s t, Call.faulty W o.call s o.result t

/-- The call was made, and answered so. -/
def Returned (c : Call) (a : c.Result) (h : List CallOutcome) : Prop := ⟨c, .ok a⟩ ∈ h

namespace Pipeline

open Api

namespace Payment

variable (p : Payment)

/-- What `execute` has done when it publishes `message`: it has stored the payment, its canonical
form before it was normalized, its route and its translation, and published nothing. -/
structure Ready (h : List CallOutcome) (message : AdapterMessage) : Prop where
  paymentId : message.paymentId = p.paymentId
  traceId : message.traceId = p.traceId
  created : Completed (.create p.newPayment) h
  canonical : ∃ canonical,
    Returned (.toCanonical p.originRail p.request p.paymentId p.traceId) canonical h ∧
    Completed (.updateCanonical (.string p.paymentId) canonical .canonicalized) h ∧
    Returned (.normalize canonical) message.canonical h
  resolved : Returned (.resolve message.canonical)
    ⟨message.destinationRail, message.routeRuleApplied⟩ h
  routed : Completed (.updateRoute (.string p.paymentId) message.destinationRail
    message.routeRuleApplied .routed) h
  encoded : Returned (.fromCanonical message.destinationRail message.canonical) message.translated h
  translated : Completed (.updateTranslated (.string p.paymentId) message.translated) h
  unpublished : ∀ o ∈ h, isPublish o.call = false

/-- The audit events that `execute` may record after the calls `h`. -/
inductive Reports (h : List CallOutcome) : AuditEvent → Prop
  | received (hcreated : Completed (.create p.newPayment) h) :
    Reports h (p.event "PAYMENT_RECEIVED" "system"
      [("origin_rail", .string (js p.originRail.name)), ("amount", .number p.request.amount.1),
        ("currency", .string p.request.currency.1)])
  | validated (hcreated : Completed (.create p.newPayment) h)
      (hvalidated : Completed (.updateStatus (.string p.paymentId) .validated) h) :
    Reports h (p.event "PAYMENT_VALIDATED" "system-validator"
      [("origin_rail", .string (js p.originRail.name)),
        ("debtor_alias", .string p.request.debtor.alias.1),
        ("creditor_alias", .string p.request.creditor.alias.1)])
  | canonicalized {canonical : CanonicalPacs008} (hcreated : Completed (.create p.newPayment) h)
      (hcanonical : Completed (.updateCanonical (.string p.paymentId) canonical .canonicalized) h) :
    Reports h (p.event "CANONICAL_UPDATED" "system-translator"
      [("pacs008_version", .string (js "008.001.08")),
        ("fields_count", .number (.fin (fieldsCount canonical)))])
  | normalized {canonical normalized : CanonicalPacs008}
      (hcreated : Completed (.create p.newPayment) h)
      (hcanonical : Completed (.updateCanonical (.string p.paymentId) canonical .canonicalized) h)
      (hnormalized : Returned (.normalize canonical) normalized h) :
    Reports h (p.event "NORMALIZATION_COMPLETE" "system"
      [("currency", .string normalized.amount.currency), ("has_fx", .bool (hasFx normalized))])
  | routed {route : RouteResult} (hcreated : Completed (.create p.newPayment) h)
      (hrouted : Completed (.updateRoute (.string p.paymentId) route.destination route.ruleName
        .routed) h) :
    Reports h (p.event "ROUTE_DECISION" "system-router"
      [("destination_rail", .string route.destination), ("rule_name", .string route.ruleName),
        ("timestamp", .string p.draws.decidedAt.1)])
  | queued (hcreated : Completed (.create p.newPayment) h)
      (hqueued : Completed (.updateStatus (.string p.paymentId) .queued) h) :
    Reports h p.queuedEvent
  | failed {err : Failure} (hfailed : Completed (.updateStatus (.string p.paymentId) .failed) h) :
    Reports h (p.errorEvent err)

/-- What `execute` must have called before a call. -/
def Allows (h : List CallOutcome) : Call → Prop
  | .create q => q = p.newPayment
  | .updateStatus v status => v = .string p.paymentId ∧
      (status = .validated ∧ Completed (.create p.newPayment) h ∨
        status = .queued ∧ (∃ message, message.paymentId = p.paymentId ∧
          Completed (.publishToAdapter message.destinationRail message) h) ∨
        status = .failed)
  | .updateCanonical v _ _ => v = .string p.paymentId ∧ Completed (.create p.newPayment) h ∧
      ∀ o ∈ h, canonicalOf o.call = none
  | .updateRoute v _ _ _ => v = .string p.paymentId ∧ Completed (.create p.newPayment) h ∧
      ∀ o ∈ h, routeOf o.call = none
  | .updateTranslated v _ => v = .string p.paymentId ∧ Completed (.create p.newPayment) h ∧
      ∀ o ∈ h, translatedOf o.call = none
  | .publishToAdapter destination message =>
      destination = message.destinationRail ∧ p.Ready h message
  | .log event => p.Reports h event
  | .toCanonical _ _ _ _ | .normalize _ | .resolve _ | .fromCanonical _ _ => True
  | _ => False

variable {p} {P : CallOutcome → Prop} {h : List CallOutcome}

/-- The `catch` block keeps to the order after any calls. -/
theorem handle_ordered (err : Failure) :
    (p.handle err).Ordered P p.Allows (fun _ _ => True) h := by
  refine .call ⟨rfl, Or.inr (Or.inr rfl)⟩ (fun e _ => Program.ordered_done trivial) fun row _ => ?_
  refine .call (.failed ⟨row, by simp⟩) (fun e _ => Program.ordered_done trivial) fun _ _ => ?_
  exact Program.ordered_done trivial

/-- **The order of `execute`.** -/
theorem run_ordered : (Program.tryCatch p.run p.handle).Ordered P p.Allows (fun _ _ => True) [] := by
  -- whichever call fails, the `catch` block follows
  refine .call rfl (fun e _ => handle_ordered e) fun row _ => ?_
  refine .call (.received ⟨row, by simp⟩) (fun e _ => handle_ordered e) fun _ _ => ?_
  refine .call ⟨rfl, Or.inl ⟨rfl, row, by simp⟩⟩ (fun e _ => handle_ordered e) fun row₂ _ => ?_
  refine .call (.validated ⟨row, by simp⟩ ⟨row₂, by simp⟩) (fun e _ => handle_ordered e)
    fun _ _ => ?_
  refine .call trivial (fun e _ => handle_ordered e) fun (canonical : CanonicalPacs008) _ => ?_
  refine .call ⟨rfl, ⟨row, by simp⟩, by simp [canonicalOf]⟩ (fun e _ => handle_ordered e)
    fun row₃ _ => ?_
  refine .call (.canonicalized ⟨row, by simp⟩ ⟨row₃, by simp⟩) (fun e _ => handle_ordered e)
    fun _ _ => ?_
  refine .call trivial (fun e _ => handle_ordered e) fun (normalized : CanonicalPacs008) _ => ?_
  refine .call (@Reports.normalized _ _ canonical normalized ⟨row, by simp⟩ ⟨row₃, by simp⟩
    (by simp [Returned]))
    (fun e _ => handle_ordered e) fun _ _ => ?_
  refine .call trivial (fun e _ => handle_ordered e) fun (route : RouteResult) _ => ?_
  refine .call ⟨rfl, ⟨row, by simp⟩, by simp [routeOf]⟩ (fun e _ => handle_ordered e)
    fun row₄ _ => ?_
  refine .call (.routed ⟨row, by simp⟩ ⟨row₄, by simp⟩) (fun e _ => handle_ordered e) fun _ _ => ?_
  refine .call trivial (fun e _ => handle_ordered e) fun (translated : JsValue) _ => ?_
  refine .call ⟨rfl, ⟨row, by simp⟩, by simp [translatedOf]⟩ (fun e _ => handle_ordered e)
    fun row₅ _ => ?_
  refine .call ⟨rfl, ?_⟩ (fun e _ => handle_ordered e) fun published _ => ?_
  · exact {
      paymentId := rfl
      traceId := rfl
      created := ⟨row, by simp⟩
      canonical := ⟨canonical, by simp [Returned], ⟨row₃, by simp⟩, by simp [Returned, message]⟩
      resolved := by simp [Returned, message]
      routed := ⟨row₄, by simp [message]⟩
      encoded := by simp [Returned, message]
      translated := ⟨row₅, by simp [message]⟩
      unpublished := by simp [isPublish] }
  refine .call ⟨rfl, Or.inr (Or.inl ⟨rfl, p.message normalized route translated, rfl, published,
    by simp [message]⟩)⟩ (fun e _ => handle_ordered e) fun row₆ _ => ?_
  refine .call (.queued ⟨row, by simp⟩ ⟨row₆, by simp⟩) (fun e _ => handle_ordered e) fun _ _ => ?_
  exact Program.ordered_done trivial

end Payment

end Pipeline

/-! ### The other activities -/

/-- What `AckConsumer` must have called before a call. -/
def AckAllows (h : List CallOutcome) : Call → Prop
  | .updateRailAck _ _ _ | .fireForPayment _ | .settle _ => True
  | .log event => event.eventType = "ACK_RECEIVED" ∧
      ∃ railAck status, Completed (.updateRailAck event.paymentId railAck status) h
  | _ => False

/-- What `DlqHandler` must have called before a call. -/
def DlqAllows (h : List CallOutcome) : Call → Prop
  | .updateStatus _ status => status = .deadLetter
  | .settle _ => True
  | .log event => event.eventType = "DEAD_LETTER" ∧
      Completed (.updateStatus event.paymentId .deadLetter) h
  | _ => False

namespace Compensation

/-- The audit events that a compensation may record after the calls `h`. -/
inductive Reports (h : List CallOutcome) : AuditEvent → Prop
  | started {id : Text} {payment : PaymentRow}
      (hread : Returned (.findById (.string id)) (some payment) h)
      (hcompensable : isCompensable payment.status = true)
      (hstarted : Completed (.updateStatus (.string id) .compensating) h) :
    Reports h (startedEvent id payment)
  | reversal {id : Text} {payment : PaymentRow}
      (hread : Returned (.findById (.string id)) (some payment) h)
      (hacked : wasAcked payment = true) (hlogged : Completed (.log (startedEvent id payment)) h) :
    Reports h (reversalEvent id payment)
  | completed {compensatedAt : Datetime} {id : Text} {payment : PaymentRow}
      (hread : Returned (.findById (.string id)) (some payment) h)
      (hcompensated : Completed (.updateStatus (.string id) .compensated) h)
      (hlogged : Completed (.log (startedEvent id payment)) h) :
    Reports h (completedEvent compensatedAt id payment)
  | failed {id : Text} {payment : PaymentRow} {err : Failure}
      (hread : Returned (.findById (.string id)) (some payment) h)
      (hstarted : Completed (.updateStatus (.string id) .compensating) h)
      (hlogged : Completed (.log (startedEvent id payment)) h) :
    Reports h (failedEvent id payment err)

/-- What a compensation must have called before a call. -/
def Allows (h : List CallOutcome) : Call → Prop
  | .updateStatus _ status => status = .compensating ∨ status = .compensated
  | .log event => Reports h event
  | .findById _ | .findByStatuses _ _ => True
  | _ => False

end Compensation

/-- What an activity must have called before a call. -/
def Activity.Allows : Activity → List CallOutcome → Call → Prop
  | pipeline request context draws, h, c => ∃ originRail,
      Pipeline.inferRail request.debtor.alias = .ok originRail ∧
        (Pipeline.start request context draws originRail).Allows h c
  | ackConsumer _, h, c => AckAllows h c
  | dlqHandler _, h, c => DlqAllows h c
  | compensate _ _, h, c | compensateBatch _ _, h, c => Compensation.Allows h c

section Others

open Messaging

variable {P : CallOutcome → Prop} {h : List CallOutcome}

theorem settle_ordered {Q : List CallOutcome → Call → Prop} (settlement : Settlement)
    (hQ : Q h (.settle settlement)) :
    (settle settlement).Ordered P Q (fun _ _ => True) h :=
  .perform hQ fun _ _ => trivial

theorem ackConsumer_ordered (case' : CaseMapping) (webhooks : Bool)
    (delivery : Option (Option JsValue)) :
    (Messaging.ackConsumer case' webhooks delivery).Ordered P AckAllows (fun _ _ => True) h := by
  match delivery with
  | none => exact Program.ordered_done trivial
  | some none => exact settle_ordered _ trivial
  | some (some ack) =>
    rw [Messaging.ackConsumer]
    cases hid : ack.get "payment_id" with
    | none =>
      simp only [prop, hid]
      exact Program.ordered_done trivial
    | some paymentId =>
      simp only [prop, hid]
      refine Program.Ordered.bind (Program.ordered_done ?_)
      dsimp only
      split
      · exact settle_ordered _ trivial
      · refine .call trivial (fun e _ => settle_ordered _ trivial) fun row _ => ?_
        -- the actor's name is read from the message, and need not be there
        unfold ackActor
        split
        · refine .call ⟨rfl, _, _, row, by simp [ackEvent]⟩ (fun e _ => settle_ordered _ trivial)
            fun _ _ => ?_
          cases webhooks
          · exact .call trivial (fun e _ => settle_ordered _ trivial) fun _ _ =>
              Program.ordered_done trivial
          · exact .call trivial (fun e _ => settle_ordered _ trivial) fun _ _ =>
              .call trivial (fun e _ => settle_ordered _ trivial) fun _ _ =>
                Program.ordered_done trivial
        · exact settle_ordered _ trivial

theorem dlqHandler_ordered (delivery : Option (Option JsValue)) :
    (Messaging.dlqHandler delivery).Ordered P DlqAllows (fun _ _ => True) h := by
  match delivery with
  | none => exact Program.ordered_done trivial
  | some none => exact settle_ordered _ trivial
  | some (some message) =>
    rw [Messaging.dlqHandler]
    cases hid : message.get "payment_id" with
    | none =>
      simp only [prop, hid]
      exact Program.ordered_done trivial
    | some paymentId =>
      simp only [prop, hid]
      refine Program.Ordered.bind (Program.ordered_done ?_)
      have hevent : paymentId = (deadLetterEvent message).paymentId := by
        simp [deadLetterEvent, JsValue.getOptional, hid]
      subst hevent
      refine .call rfl (fun e _ => settle_ordered _ trivial) fun row _ => ?_
      refine .call ⟨rfl, row, by simp⟩ (fun e _ => settle_ordered _ trivial) fun _ _ => ?_
      exact .call trivial (fun e _ => settle_ordered _ trivial)
        fun _ _ => Program.ordered_done trivial

namespace Compensation

theorem reverse_ordered {compensatedAt : Datetime} {id : Text} {payment : PaymentRow}
    {handler : Failure → Service CompensationResult}
    (hread : Returned (.findById (.string id)) (some payment) h)
    (hlogged : Completed (.log (startedEvent id payment)) h)
    (hhandler : ∀ err h', h <+: h' → (handler err).Ordered P Allows (fun _ _ => True) h') :
    (Program.tryCatch (reverse compensatedAt id payment) handler).Ordered P Allows
      (fun _ _ => True) h := by
  obtain ⟨a, ha⟩ := hlogged
  have hrest : ∀ h', h <+: h' → (Program.tryCatch (do
      let _ ← await (.updateStatus (.string id) .compensated)
      log (completedEvent compensatedAt id payment)
      return (⟨true, js "Compensated"⟩ : CompensationResult)) handler).Ordered P Allows
        (fun _ _ => True) h' := by
    intro h' hmore
    refine .call (Or.inr rfl) (fun e _ => hhandler e _ (hmore.trans (List.prefix_append _ _)))
      fun row _ => ?_
    refine .call (.completed (List.mem_append_left _ (hmore.subset hread)) ⟨row, by simp⟩
        ⟨a, List.mem_append_left _ (hmore.subset ha)⟩)
      (fun e _ => hhandler e _ ((hmore.trans (List.prefix_append _ _)).trans
        (List.prefix_append _ _))) fun _ _ => ?_
    exact Program.ordered_done trivial
  unfold reverse requireReversal
  split
  · next hacked =>
    exact .call (.reversal hread hacked ⟨a, ha⟩) (fun e _ => hhandler e _ (List.prefix_append _ _))
      fun _ _ => hrest _ (List.prefix_append _ _)
  · exact hrest h (List.prefix_refl h)

theorem compensate_ordered (compensatedAt : Datetime) (paymentId : Text) :
    (compensate compensatedAt paymentId).Ordered P Allows (fun _ _ => True) h := by
  refine .call trivial (fun e _ => Program.ordered_done trivial)
    fun (payment : Option PaymentRow) _ => ?_
  cases payment with
  | none => exact Program.ordered_done trivial
  | some payment =>
    change (proceed compensatedAt paymentId (some payment)).Ordered _ _ _ _
    rw [proceed]
    split
    · next hcompensable =>
      refine .call (Or.inl rfl) (fun e _ => Program.ordered_done trivial) fun row _ => ?_
      refine .call (.started (by simp [Returned]) hcompensable ⟨row, by simp⟩)
        (fun e _ => Program.ordered_done trivial) fun a _ => ?_
      refine reverse_ordered (by simp [Returned]) ⟨a, by simp⟩ fun err h' hmore => ?_
      refine .call (.failed (hmore.subset (by simp)) ⟨row, hmore.subset (by simp)⟩
          ⟨a, hmore.subset (by simp)⟩)
        (fun e _ => Program.ordered_done trivial) fun _ _ => Program.ordered_done trivial
    · exact Program.ordered_done trivial

theorem compensateAll_ordered (compensatedAt : Text → Datetime) (payments : List PaymentRow) :
    (compensateAll compensatedAt payments).Ordered P Allows (fun _ _ => True) h := by
  induction payments generalizing h with
  | nil => exact Program.ordered_done trivial
  | cons payment payments ih =>
    refine Program.Ordered.bind (Program.Ordered.tryCatch (Program.Ordered.bind
      ((compensate_ordered _ _).mono fun h' r _ => ?_)))
    cases r with
    | error e => exact Program.ordered_done (Program.ordered_done trivial)
    | ok result =>
      refine Program.ordered_done ?_
      exact Program.Ordered.bind (ih.mono fun h'' r _ => by
        cases r with
        | error e => trivial
        | ok results => exact Program.ordered_done trivial)

theorem compensateBatch_ordered (compensatedAt : Text → Datetime) (limit : ℕ) :
    (compensateBatch compensatedAt limit).Ordered P Allows (fun _ _ => True) h := by
  refine .call trivial (fun e _ => Program.ordered_done trivial)
    fun (payments : List PaymentRow) _ => Program.Ordered.bind (Program.ordered_done ?_)
  refine Program.Ordered.bind ((compensateAll_ordered compensatedAt payments).mono fun h' r _ => ?_)
  cases r with
  | error e => trivial
  | ok results => exact Program.ordered_done trivial

end Compensation

/-- A program whose result is not looked at is ordered as the program is. -/
theorem ordered_discard {α : Type} {Q : List CallOutcome → Call → Prop} {f : Service α}
    (hf : f.Ordered P Q (fun _ _ => True) h) :
    (f >>= fun _ => (return () : Service Unit)).Ordered P Q (fun _ _ => True) h := by
  refine Program.Ordered.bind (hf.mono fun h' r _ => ?_)
  cases r with
  | error e => trivial
  | ok a => exact Program.ordered_done trivial

/-- **Every activity keeps to its order.** -/
theorem activity_ordered (case' : CaseMapping) (webhooks : Bool) (activity : Activity) :
    (activity.program case' webhooks).Ordered P activity.Allows (fun _ _ => True) [] := by
  cases activity with
  | pipeline request context draws =>
    refine ordered_discard ?_
    rw [Pipeline.execute]
    cases hrail : Pipeline.inferRail request.debtor.alias with
    | error err => exact Program.ordered_done trivial
    | ok originRail =>
      exact Pipeline.Payment.run_ordered.allow fun h c hc => ⟨originRail, hrail, hc⟩
  | ackConsumer delivery => exact ackConsumer_ordered case' webhooks delivery
  | dlqHandler delivery => exact dlqHandler_ordered delivery
  | compensate compensatedAt paymentId =>
    exact ordered_discard (Compensation.compensate_ordered compensatedAt paymentId)
  | compensateBatch compensatedAt limit =>
    exact ordered_discard (Compensation.compensateBatch_ordered compensatedAt limit)

end Others

end MipitCore
