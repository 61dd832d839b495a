import MipitCore.Service.Writers

/-!
# What the audit trail says of a payment

An audit event is recorded after the update that it reports, in a table of its own, while
other activities go on writing to the payment's row. `BorneOut` says what the row must have
for an event to be true, and for what a compensation did also that the trail has its start.
Since an update comes before its event, and neither a row nor the trail loses what it has,
every event of the trail is borne out by its payment in every state that a run of the service
reaches (`auditSound_run`); in particular its payment exists.

## Main definitions

* `StartedIn`, `BorneOut` — an audit event, and the row and the trail that it is true of
* `AuditSound`

## Main results

* `BorneOut.mono` — an event stays borne out
* `reports_borneOut` and its siblings — the events of each activity
* `auditSound_run`
-/

namespace MipitCore

open Js Foundation Persistence Program

/-- The trail says that a compensation of the payment was started. -/
def StartedIn (trail : List AuditEvent) (id : JsValue) : Prop :=
  ∃ event ∈ trail, event.paymentId = id ∧ event.eventType = "COMPENSATION_STARTED"

/-- The row has what the event says of its payment, and the trail what must come before it. -/
inductive BorneOut (trail : List AuditEvent) (row : PaymentRow) : AuditEvent → Prop
  | received {id : JsValue} {actor : Text} :
    BorneOut trail row ⟨id, "PAYMENT_RECEIVED", actor,
      [("origin_rail", .string (js row.originRail.name)), ("amount", .number row.amount),
        ("currency", .string row.currency)], .string row.traceId⟩
  | validated {id : JsValue} {actor : Text} (hvalidated : row.validatedAt.isSome = true) :
    BorneOut trail row ⟨id, "PAYMENT_VALIDATED", actor,
      [("origin_rail", .string (js row.originRail.name)), ("debtor_alias", .string row.debtorAlias),
        ("creditor_alias", .string row.creditorAlias)], .string row.traceId⟩
  | canonicalized {id : JsValue} {actor : Text} {canonical : CanonicalPacs008}
      (hcanonical : row.canonicalPayload = some canonical) :
    BorneOut trail row ⟨id, "CANONICAL_UPDATED", actor,
      [("pacs008_version", .string (js "008.001.08")),
        ("fields_count", .number (.fin (Pipeline.fieldsCount canonical)))], .string row.traceId⟩
  | normalized {id : JsValue} {actor : Text} {detail : List (String × JsValue)}
      (hcanonical : row.canonicalPayload.isSome = true) :
    BorneOut trail row ⟨id, "NORMALIZATION_COMPLETE", actor, detail, .string row.traceId⟩
  | routed {id : JsValue} {actor : Text} {route : RouteResult} {timestamp : JsValue}
      (hdestination : row.destinationRail = some route.destination)
      (hrule : row.routeRuleApplied = some route.ruleName) :
    BorneOut trail row ⟨id, "ROUTE_DECISION", actor,
      [("destination_rail", .string route.destination), ("rule_name", .string route.ruleName),
        ("timestamp", timestamp)], .string row.traceId⟩
  | queued {id : JsValue} {actor : Text} {detail : List (String × JsValue)}
      (hqueued : row.queuedAt.isSome = true) :
    BorneOut trail row ⟨id, "STATUS_CHANGE", actor, detail, .string row.traceId⟩
  -- a run that fails may be of a payment that is there already; the trace is the run's
  | failed {id traceId : JsValue} {actor : Text} {detail : List (String × JsValue)}
      (hfailed : row.failedAt.isSome = true) :
    BorneOut trail row ⟨id, "PIPELINE_ERROR", actor, detail, traceId⟩
  -- and that of a message is taken over as it comes
  | acked {id traceId : JsValue} {actor : Text} {detail : List (String × JsValue)}
      (hacked : row.ackedAt.isSome = true) (hanswer : row.railAck.isSome = true) :
    BorneOut trail row ⟨id, "ACK_RECEIVED", actor, detail, traceId⟩
  | deadLetter {id traceId : JsValue} {actor : Text} {detail : List (String × JsValue)}
      (hdead : row.deadLetterAt.isSome = true) :
    BorneOut trail row ⟨id, "DEAD_LETTER", actor, detail, traceId⟩
  -- what the compensation read was a payment that can be compensated, and is where it was sent
  | compensationStarted {id : JsValue} {actor : Text} {status : PaymentStatus}
      {destination : Option Text} (hstatus : Compensation.isCompensable status = true)
      (hdestination : ∀ rail ∈ destination, row.destinationRail = some rail)
      (hupdated : row.updatedAt.isSome = true) :
    BorneOut trail row ⟨id, "COMPENSATION_STARTED", actor,
      [("previous_status", .string (js status.name)),
        ("destination_rail", (destination.map JsValue.string).getD .null),
        ("amount", .number row.amount), ("currency", .string row.currency)], .string row.traceId⟩
  | reversalRequired {id : JsValue} {actor : Text} {detail : List (String × JsValue)}
      (hanswer : row.railAck.isSome = true) (hstarted : StartedIn trail id) :
    BorneOut trail row
      ⟨id, "COMPENSATION_REVERSAL_REQUIRED", actor, detail, .string row.traceId⟩
  | compensated {id : JsValue} {actor : Text} {detail : List (String × JsValue)}
      (hcompensated : row.compensatedAt.isSome = true) (hstarted : StartedIn trail id) :
    BorneOut trail row ⟨id, "COMPENSATION_COMPLETED", actor, detail, .string row.traceId⟩
  | compensationFailed {id : JsValue} {actor error : Text}
      (hupdated : row.updatedAt.isSome = true) (hstarted : StartedIn trail id) :
    BorneOut trail row
      ⟨id, "COMPENSATION_FAILED", actor, [("error", .string error)], .string row.traceId⟩

/-- Every event of the trail is about a payment that exists, and borne out by it. -/
def AuditSound (s : Store) : Prop :=
  ∀ event ∈ s.audit, ∃ id row, event.paymentId = .string id ∧ s.payments id = some row ∧
    BorneOut s.audit row event

/-- **An event stays borne out** by longer trails, and by rows that extend its row and have the
same canonical form and route. -/
theorem BorneOut.mono {trail trail' : List AuditEvent} {row row' : PaymentRow} {event : AuditEvent}
    (h : BorneOut trail row event) (htrail : trail ⊆ trail') (hextends : Extends row row')
    (hcanonical : row'.canonicalPayload = row.canonicalPayload)
    (hdestination : row'.destinationRail = row.destinationRail)
    (hrule : row'.routeRuleApplied = row.routeRuleApplied) : BorneOut trail' row' event := by
  have htime : ∀ time ∈ PaymentRow.times, (time row).isSome = true → (time row').isSome = true :=
    fun time htime => hextends.filled _ (time_mem_columns htime)
  have hstarted : ∀ id, StartedIn trail id → StartedIn trail' id :=
    fun id ⟨event, hevent, h⟩ => ⟨event, htrail hevent, h⟩
  have hidentity {β : Type} (f : NewPayment → β) : f row'.identity = f row.identity :=
    congrArg f hextends.identity
  have hrail : row'.originRail = row.originRail := hidentity NewPayment.originRail
  have hamount : row'.amount = row.amount := hidentity NewPayment.amount
  have hcurrency : row'.currency = row.currency := hidentity NewPayment.currency
  have htrace : row'.traceId = row.traceId := hidentity NewPayment.traceId
  have hdebtor : row'.debtorAlias = row.debtorAlias := hidentity NewPayment.debtorAlias
  have hcreditor : row'.creditorAlias = row.creditorAlias := hidentity NewPayment.creditorAlias
  cases h with
  | received =>
    rw [← hrail, ← hamount, ← hcurrency, ← htrace]
    exact .received
  | validated h =>
    rw [← hrail, ← hdebtor, ← hcreditor, ← htrace]
    exact .validated (htime _ (by simp [PaymentRow.times]) h)
  | canonicalized h =>
    rw [← htrace]
    exact .canonicalized (hcanonical.trans h)
  | normalized h =>
    rw [← htrace]
    exact .normalized (by rw [hcanonical]; exact h)
  | routed h h' =>
    rw [← htrace]
    exact .routed (hdestination.trans h) (hrule.trans h')
  | queued h =>
    rw [← htrace]
    exact .queued (htime _ (by simp [PaymentRow.times]) h)
  | failed h =>
    exact .failed (htime _ (by simp [PaymentRow.times]) h)
  | acked h h' =>
    exact .acked (htime _ (by simp [PaymentRow.times]) h)
      (hextends.filled (fun row => row.railAck.isSome) (by simp [PaymentRow.columns]) h')
  | deadLetter h => exact .deadLetter (htime _ (by simp [PaymentRow.times]) h)
  | compensationStarted hstatus hrail h =>
    rw [← hamount, ← hcurrency, ← htrace]
    exact .compensationStarted hstatus (fun rail h => hdestination.trans (hrail rail h))
      (hextends.filled (fun row => row.updatedAt.isSome) (by simp [PaymentRow.columns]) h)
  | reversalRequired h h' =>
    rw [← htrace]
    exact .reversalRequired
      (hextends.filled (fun row => row.railAck.isSome) (by simp [PaymentRow.columns]) h)
      (hstarted _ h')
  | compensated h h' =>
    rw [← htrace]
    exact .compensated (htime _ (by simp [PaymentRow.times]) h) (hstarted _ h')
  | compensationFailed h h' =>
    rw [← htrace]
    exact .compensationFailed
      (hextends.filled (fun row => row.updatedAt.isSome) (by simp [PaymentRow.columns]) h)
      (hstarted _ h')

section Runs

variable {ι : Type} [DecidableEq ι] {W : Collaborators} {case' : CaseMapping} {webhooks : Bool}
  {activities : ι → Activity} {store : Store} {d : Config Store ι (Service Unit)}
  {path : List (ServiceStep ι)} {i : ι} {history : List CallOutcome} {event : AuditEvent}

/-- The audit trail has the events that were recorded. -/
theorem audit_run
    (h : (service W ι).toLTS.Run (serviceStart case' webhooks activities store) path d) :
    d.store.audit = store.audit ++ (outcomes path).filterMap fun l => written Call.logged l.2 := by
  refine h.induct (I := fun path d => d.store.audit =
    store.audit ++ (outcomes path).filterMap fun l => written Call.logged l.2)
    (by simp [serviceStart]) ?_
  intro path d l e _ ih hstep
  rcases processes_cases hstep with ⟨j, k, next, r, -, rfl, hcall, -⟩ | ⟨rfl, htick, -⟩
  · rw [audit_of_faulty hcall, ih, outcomes_append, outcomes_call, List.filterMap_append,
      List.append_assoc]
    cases hk : written Call.logged ⟨k, r⟩ <;> simp [hk]
  · rw [tick_audit htick, outcomes_append, outcomes_environment, List.append_nil]
    exact ih

/-- What was recorded is in the trail. -/
theorem logged_run
    (h : (service W ι).toLTS.Run (serviceStart case' webhooks activities store) path d)
    (hhistory : ∀ o ∈ history, (i, o) ∈ outcomes path)
    (hlogged : Completed (.log event) history) : event ∈ d.store.audit := by
  obtain ⟨a, ha⟩ := hlogged
  rw [audit_run h]
  exact List.mem_append_right _ (List.mem_filterMap.mpr ⟨_, hhistory _ ha, rfl⟩)

/-- The columns that a completed update of a string's row fills. -/
theorem filled_of_completed
    (h : (service W ι).toLTS.Run (serviceStart case' webhooks activities store) path d)
    (hhistory : ∀ o ∈ history, (i, o) ∈ outcomes path) {k : Call} (hk : Completed k history)
    {id : Text} {assign : PaymentRow → PaymentRow} (hassign : k.assign 0 = some (.string id, assign)) :
    ∃ row, d.store.payments id = some row ∧
      ∀ column ∈ PaymentRow.columns, k.Fills column → column row = true := by
  obtain ⟨a, ha⟩ := hk
  obtain ⟨id', row, hid, hrow, hfilled⟩ := filled_run h (hhistory _ ha) hassign
  obtain rfl := JsValue.string.inj hid
  exact ⟨row, hrow, hfilled⟩

/-- A payment that an activity has created has the identity that it was given. -/
theorem identity_of_created
    (h : (service W ι).toLTS.Run (serviceStart case' webhooks activities store) path d)
    (hhistory : ∀ o ∈ history, (i, o) ∈ outcomes path) {q : NewPayment}
    (hcreated : Completed (.create q) history) :
    ∃ row, d.store.payments q.paymentId = some row ∧
      ∀ {β : Type} (f : NewPayment → β), f row.identity = f { q with status := .received } := by
  obtain ⟨a, ha⟩ := hcreated
  obtain ⟨row, hrow, hidentity⟩ := created_run h (hhistory _ ha)
  exact ⟨row, hrow, fun f => congrArg f hidentity⟩

theorem fills_status {v : JsValue} {status : PaymentStatus} {time : PaymentRow → Option ℕ}
    (h : ∀ now row, (time (assignStatus now status row)).isSome = true) :
    (Call.updateStatus v status).Fills fun row => (time row).isSome := by
  intro now v' assign hassign row
  cases hassign
  exact h now row

/-- **The events of `execute` are borne out.** -/
theorem pipeline_borneOut
    (h : (service W ι).toLTS.Run (serviceStart case' webhooks activities store) path d)
    (hhistory : ∀ o ∈ history, (i, o) ∈ outcomes path) {p : Pipeline.Payment}
    (hreports : p.Reports history event) :
    ∃ id row, event.paymentId = .string id ∧ d.store.payments id = some row ∧
      BorneOut d.store.audit row event := by
  refine ⟨p.paymentId, ?_⟩
  -- the columns of the payment's row that a completed update has filled
  have hfilled : ∀ {row : PaymentRow}, d.store.payments p.paymentId = some row →
      ∀ {k : Call} {assign : PaymentRow → PaymentRow}, Completed k history →
        k.assign 0 = some (.string p.paymentId, assign) →
          ∀ column ∈ PaymentRow.columns, k.Fills column → column row = true := by
    intro row hrow k assign hk hassign
    obtain ⟨row', hrow', hfills⟩ := filled_of_completed h hhistory hk hassign
    obtain rfl := Option.some.inj (hrow.symm.trans hrow')
    exact hfills
  have hcolumn : ∀ {row : PaymentRow}, d.store.payments p.paymentId = some row →
      ∀ {β : Type} {get : PaymentRow → Option β} {x : β},
        d.store.column get p.paymentId = some x → get row = some x := by
    intro row hrow β get x hx
    rwa [Store.column, hrow, Option.bind_some] at hx
  cases hreports with
  | received hcreated =>
    obtain ⟨row, hrow, hidentity⟩ := identity_of_created h hhistory hcreated
    refine ⟨row, rfl, hrow, ?_⟩
    have hborneOut : BorneOut d.store.audit row
        ⟨.string p.paymentId, "PAYMENT_RECEIVED", js "system",
        [("origin_rail", .string (js row.originRail.name)), ("amount", .number row.amount),
          ("currency", .string row.currency)], .string row.traceId⟩ := .received
    rwa [show row.originRail = p.originRail from hidentity NewPayment.originRail,
      show row.amount = p.newPayment.amount from hidentity NewPayment.amount,
      show row.currency = p.newPayment.currency from hidentity NewPayment.currency,
      show row.traceId = p.traceId from hidentity NewPayment.traceId] at hborneOut
  | validated hcreated hvalidated =>
    obtain ⟨row, hrow, hidentity⟩ := identity_of_created h hhistory hcreated
    refine ⟨row, rfl, hrow, ?_⟩
    have hborneOut : BorneOut d.store.audit row
        ⟨.string p.paymentId, "PAYMENT_VALIDATED", js "system-validator",
        [("origin_rail", .string (js row.originRail.name)),
          ("debtor_alias", .string row.debtorAlias),
          ("creditor_alias", .string row.creditorAlias)], .string row.traceId⟩ :=
      .validated (hfilled hrow hvalidated rfl (fun row => row.validatedAt.isSome)
        (time_mem_columns (by simp [PaymentRow.times])) (fills_status fun _ _ => rfl))
    rwa [show row.originRail = p.originRail from hidentity NewPayment.originRail,
      show row.debtorAlias = p.newPayment.debtorAlias from hidentity NewPayment.debtorAlias,
      show row.creditorAlias = p.newPayment.creditorAlias from hidentity NewPayment.creditorAlias,
      show row.traceId = p.traceId from hidentity NewPayment.traceId] at hborneOut
  | canonicalized hcreated hcanonical =>
    obtain ⟨row, hrow, hidentity⟩ := identity_of_created h hhistory hcreated
    obtain ⟨a, ha⟩ := hcanonical
    refine ⟨row, rfl, hrow, ?_⟩
    have hborneOut : BorneOut d.store.audit row
        ⟨.string p.paymentId, "CANONICAL_UPDATED",
        js "system-translator", _, .string row.traceId⟩ :=
      .canonicalized (hcolumn hrow (column_once Pipeline.writes_canonical canonical_once h
        (hhistory _ ha) (Pipeline.writeTo_canonicalOf.mpr ⟨_, rfl⟩)))
    rwa [show row.traceId = p.traceId from hidentity NewPayment.traceId] at hborneOut
  | @normalized canonical normalized hcreated hcanonical hnormalized =>
    obtain ⟨row, hrow, hidentity⟩ := identity_of_created h hhistory hcreated
    refine ⟨row, rfl, hrow, ?_⟩
    have hborneOut : BorneOut d.store.audit row
        ⟨.string p.paymentId, "NORMALIZATION_COMPLETE", js "system",
        [("currency", .string normalized.amount.currency),
          ("has_fx", .bool (Pipeline.hasFx normalized))], .string row.traceId⟩ :=
      .normalized (hfilled hrow hcanonical rfl (fun row => row.canonicalPayload.isSome)
        (by simp [PaymentRow.columns]) fun now v assign hassign row => by cases hassign; rfl)
    rwa [show row.traceId = p.traceId from hidentity NewPayment.traceId] at hborneOut
  | @routed route hcreated hrouted =>
    obtain ⟨row, hrow, hidentity⟩ := identity_of_created h hhistory hcreated
    obtain ⟨a, ha⟩ := hrouted
    refine ⟨row, rfl, hrow, ?_⟩
    have hborneOut : BorneOut d.store.audit row
        ⟨.string p.paymentId, "ROUTE_DECISION", js "system-router",
        [("destination_rail", .string route.destination), ("rule_name", .string route.ruleName),
          ("timestamp", .string p.draws.decidedAt.1)], .string row.traceId⟩ := .routed
      (hcolumn hrow (column_once Pipeline.writes_destination (route_once _) h (hhistory _ ha)
        (Pipeline.writeTo_routeOf.mpr ⟨_, _, _, rfl, rfl⟩)))
      (hcolumn hrow (column_once Pipeline.writes_rule (route_once _) h (hhistory _ ha)
        (Pipeline.writeTo_routeOf.mpr ⟨_, _, _, rfl, rfl⟩)))
    rwa [show row.traceId = p.traceId from hidentity NewPayment.traceId] at hborneOut
  | queued hcreated hqueued =>
    obtain ⟨row, hrow, hidentity⟩ := identity_of_created h hhistory hcreated
    refine ⟨row, rfl, hrow, ?_⟩
    have hborneOut : BorneOut d.store.audit row
        ⟨.string p.paymentId, "STATUS_CHANGE", js "system",
        p.queuedEvent.detail, .string row.traceId⟩ :=
      .queued (hfilled hrow hqueued rfl (fun row => row.queuedAt.isSome)
        (time_mem_columns (by simp [PaymentRow.times])) (fills_status fun _ _ => rfl))
    rwa [show row.traceId = p.traceId from hidentity NewPayment.traceId] at hborneOut
  | failed hfailed =>
    obtain ⟨row, hrow, hfills⟩ := filled_of_completed h hhistory hfailed rfl
    exact ⟨row, rfl, hrow, .failed (hfills (fun row => row.failedAt.isSome)
      (time_mem_columns (by simp [PaymentRow.times])) (fills_status fun _ _ => rfl))⟩

theorem ack_borneOut
    (h : (service W ι).toLTS.Run (serviceStart case' webhooks activities store) path d)
    (hhistory : ∀ o ∈ history, (i, o) ∈ outcomes path) (hallows : AckAllows history (.log event)) :
    ∃ id row, event.paymentId = .string id ∧ d.store.payments id = some row ∧
      BorneOut d.store.audit row event := by
  obtain ⟨paymentId, eventType, actor, detail, traceId⟩ := event
  obtain ⟨rfl, railAck, status, answer, hacked⟩ := hallows
  obtain ⟨id, row, hid, hrow, hfilled⟩ := filled_run h (hhistory _ hacked) rfl
  exact ⟨id, row, hid, hrow, .acked
    (hfilled (fun row => row.ackedAt.isSome) (time_mem_columns (by simp [PaymentRow.times]))
      fun now v assign hassign row => by cases hassign; rfl)
    (hfilled (fun row => row.railAck.isSome) (by simp [PaymentRow.columns])
      fun now v assign hassign row => by cases hassign; rfl)⟩

theorem dlq_borneOut
    (h : (service W ι).toLTS.Run (serviceStart case' webhooks activities store) path d)
    (hhistory : ∀ o ∈ history, (i, o) ∈ outcomes path) (hallows : DlqAllows history (.log event)) :
    ∃ id row, event.paymentId = .string id ∧ d.store.payments id = some row ∧
      BorneOut d.store.audit row event := by
  obtain ⟨paymentId, eventType, actor, detail, traceId⟩ := event
  obtain ⟨rfl, answer, hdead⟩ := hallows
  obtain ⟨id, row, hid, hrow, hfilled⟩ := filled_run h (hhistory _ hdead) rfl
  exact ⟨id, row, hid, hrow, .deadLetter (hfilled (fun row => row.deadLetterAt.isSome)
    (time_mem_columns (by simp [PaymentRow.times])) (fills_status fun _ _ => rfl))⟩

/-- A payment that a compensation has read keeps its identity. -/
theorem identity_of_read
    (h : (service W ι).toLTS.Run (serviceStart case' webhooks activities store) path d)
    (hhistory : ∀ o ∈ history, (i, o) ∈ outcomes path) {id : Text} {payment : PaymentRow}
    (hread : Returned (.findById (.string id)) (some payment) history) :
    ∃ row, d.store.payments id = some row ∧ Extends payment row ∧
      ∀ {β : Type} (f : NewPayment → β), f row.identity = f payment.identity := by
  obtain ⟨row, hrow, hextends⟩ := found_run h (hhistory _ hread)
  exact ⟨row, hrow, hextends, fun f => congrArg f hextends.identity⟩

/-- A payment that a compensation has read stays where it was sent. -/
theorem destination_of_read
    (h : (service W ι).toLTS.Run (serviceStart case' webhooks activities store) path d)
    (hhistory : ∀ o ∈ history, (i, o) ∈ outcomes path) {id rail : Text} {payment row : PaymentRow}
    (hread : Returned (.findById (.string id)) (some payment) history)
    (hrow : d.store.payments id = some row) (hrail : payment.destinationRail = some rail) :
    row.destinationRail = some rail := by
  obtain ⟨before, after, m, rfl, hbefore, hpayment, -⟩ := found_at h (hhistory _ hread)
  have hcolumn : m.store.column PaymentRow.destinationRail id = some rail := by
    rw [Store.column, hpayment, Option.bind_some, hrail]
  have hkept := column_stays Pipeline.writes_destination (route_once _) h hbefore hcolumn
  rwa [Store.column, hrow, Option.bind_some] at hkept

/-- **The events of a compensation are borne out.** -/
theorem compensation_borneOut
    (h : (service W ι).toLTS.Run (serviceStart case' webhooks activities store) path d)
    (hhistory : ∀ o ∈ history, (i, o) ∈ outcomes path)
    (hreports : Compensation.Reports history event) :
    ∃ id row, event.paymentId = .string id ∧ d.store.payments id = some row ∧
      BorneOut d.store.audit row event := by
  cases hreports with
  | @started id payment hread hcompensable hstarted =>
    obtain ⟨row, hrow, -, hidentity⟩ := identity_of_read h hhistory hread
    obtain ⟨row', hrow', hfilled⟩ := filled_of_completed h hhistory hstarted rfl
    obtain rfl := Option.some.inj (hrow.symm.trans hrow')
    refine ⟨id, row, rfl, hrow, ?_⟩
    have hborneOut : BorneOut d.store.audit row
        ⟨.string id, "COMPENSATION_STARTED", js "compensation-service",
          [("previous_status", .string (js payment.status.name)),
            ("destination_rail", (payment.destinationRail.map JsValue.string).getD .null),
            ("amount", .number row.amount), ("currency", .string row.currency)],
          .string row.traceId⟩ :=
      .compensationStarted hcompensable
        (fun rail hrail => destination_of_read h hhistory hread hrow hrail)
        (hfilled (fun row => row.updatedAt.isSome) (by simp [PaymentRow.columns])
          fun now v assign hassign row => by cases hassign; rfl)
    rwa [show row.amount = payment.amount from hidentity NewPayment.amount,
      show row.currency = payment.currency from hidentity NewPayment.currency,
      show row.traceId = payment.traceId from hidentity NewPayment.traceId] at hborneOut
  | @reversal id payment hread hacked hlogged =>
    obtain ⟨row, hrow, hextends, hidentity⟩ := identity_of_read h hhistory hread
    refine ⟨id, row, rfl, hrow, ?_⟩
    -- the answer of the rail was there when the payment was read
    have hanswer : payment.railAck.isSome = true := by
      cases hack : payment.railAck with
      | none => simp [Compensation.wasAcked, hack] at hacked
      | some railAck => rfl
    have hborneOut : BorneOut d.store.audit row
        ⟨.string id, "COMPENSATION_REVERSAL_REQUIRED",
        js "compensation-service", (Compensation.reversalEvent id payment).detail,
        .string row.traceId⟩ :=
      .reversalRequired
        (hextends.filled (fun row => row.railAck.isSome) (by simp [PaymentRow.columns]) hanswer)
        ⟨_, logged_run h hhistory hlogged, rfl, rfl⟩
    rwa [show row.traceId = payment.traceId from hidentity NewPayment.traceId] at hborneOut
  | @completed compensatedAt id payment hread hcompensated hlogged =>
    obtain ⟨row, hrow, -, hidentity⟩ := identity_of_read h hhistory hread
    obtain ⟨row', hrow', hfilled⟩ := filled_of_completed h hhistory hcompensated rfl
    obtain rfl := Option.some.inj (hrow.symm.trans hrow')
    refine ⟨id, row, rfl, hrow, ?_⟩
    have hborneOut : BorneOut d.store.audit row
        ⟨.string id, "COMPENSATION_COMPLETED", js "compensation-service",
        (Compensation.completedEvent compensatedAt id payment).detail, .string row.traceId⟩ :=
      .compensated (hfilled (fun row => row.compensatedAt.isSome)
          (time_mem_columns (by simp [PaymentRow.times])) (fills_status fun _ _ => rfl))
        ⟨_, logged_run h hhistory hlogged, rfl, rfl⟩
    rwa [show row.traceId = payment.traceId from hidentity NewPayment.traceId] at hborneOut
  | @failed id payment err hread hstarted hlogged =>
    obtain ⟨row, hrow, -, hidentity⟩ := identity_of_read h hhistory hread
    obtain ⟨row', hrow', hfilled⟩ := filled_of_completed h hhistory hstarted rfl
    obtain rfl := Option.some.inj (hrow.symm.trans hrow')
    refine ⟨id, row, rfl, hrow, ?_⟩
    have hborneOut : BorneOut d.store.audit row
        ⟨.string id, "COMPENSATION_FAILED", js "compensation-service",
        (Compensation.failedEvent id payment err).detail, .string row.traceId⟩ :=
      .compensationFailed (hfilled (fun row => row.updatedAt.isSome) (by simp [PaymentRow.columns])
          fun now v assign hassign row => by cases hassign; rfl)
        ⟨_, logged_run h hhistory hlogged, rfl, rfl⟩
    rwa [show row.traceId = payment.traceId from hidentity NewPayment.traceId] at hborneOut

/-- **The audit trail is borne out by the payments**, in every state that a run of the service
reaches. -/
theorem auditSound_run (hstore : AuditSound store)
    (h : (service W ι).toLTS.Run (serviceStart case' webhooks activities store) path d) :
    AuditSound d.store := by
  intro event hevent
  have htrail : store.audit ⊆ d.store.audit := by
    rw [audit_run h]
    exact List.subset_append_left _ _
  rw [audit_run h] at hevent
  rcases List.mem_append.mp hevent with hevent | hevent
  · -- an event from before the run: its row extends, and keeps what only its creator writes
    obtain ⟨id, row, hid, hrow, hborneOut⟩ := hstore event hevent
    obtain ⟨row', hrow', hextends⟩ := kept_run h hrow
    have hcolumn : ∀ {β : Type} {get : PaymentRow → Option β},
        d.store.column get id = get row → get row' = get row := by
      intro β get hget
      rwa [Store.column, hrow', Option.bind_some] at hget
    exact ⟨id, row', hid, hrow', hborneOut.mono htrail hextends
      (hcolumn (column_kept Pipeline.writes_canonical canonical_once h hrow))
      (hcolumn (column_kept Pipeline.writes_destination (route_once _) h hrow))
      (hcolumn (column_kept Pipeline.writes_rule (route_once _) h hrow))⟩
  · obtain ⟨⟨i, k, r⟩, ho, hwritten⟩ := List.mem_filterMap.mp hevent
    obtain ⟨history, hhistory, hallows, -⟩ := allowed_run h ho
    cases r with
    | error err => cases hwritten
    | ok a =>
      cases k with
      | log event' =>
        cases hwritten
        generalize activities i = activity at hallows
        cases activity with
        | pipeline request context draws =>
          obtain ⟨originRail, -, hreports⟩ := hallows
          exact pipeline_borneOut h hhistory hreports
        | ackConsumer => exact ack_borneOut h hhistory hallows
        | dlqHandler => exact dlq_borneOut h hhistory hallows
        | compensate | compensateBatch => exact compensation_borneOut h hhistory hallows
      | _ => cases hwritten

end Runs

/-- A payment that is published, and its audit events. -/
theorem auditSound_run_published :
    let d := (Example.runService (fun _ : Unit => Example.pixPayment) (List.replicate 17 ())).2
    d.store.audit.map AuditEvent.eventType = ["PAYMENT_RECEIVED", "PAYMENT_VALIDATED",
      "CANONICAL_UPDATED", "NORMALIZATION_COMPLETE", "ROUTE_DECISION", "STATUS_CHANGE"] ∧
      AuditSound d.store :=
  ⟨by decide, auditSound_run (by simp [AuditSound, Pipeline.Example.store])
    (Example.run_service _ _)⟩

end MipitCore
