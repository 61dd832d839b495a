import MipitCore.Foundation.Program
import MipitCore.Persistence.Repositories

/-!
# The calls of the service

The service is a set of asynchronous functions over one database and one broker. A
`Call` is one awaited call to a collaborator; a `Service` program is a function that
makes such calls. `Call.answer` says what a call does when the database and the broker
do their part, `Call.faulty` adds that any call may fail without effect.

The translator, the normalizer and the route engine take no part in the state that is
shared here. They are given by relations (`Collaborators`), because what they answer
depends on the mapping table, the exchange rates, the routing rules and the clock.

## Main definitions

* `Store`, `Call`, `Call.Result`, `Service`
* `Collaborators`, `Call.answer`, `Call.faulty`
* `Host`, `Call.respond` — collaborators that are functions
* `Tick` — the passing of time

## Main results

* `changes_of_answer` — a call touches one part of the store
* `answer_error` — a call that fails has changed nothing
* `status_of_answer` — what a successful call does to the statuses of payments
* `tryInsert_of_faulty`, `idempotency_of_answer` — which calls write to the keys of requests
-/

namespace MipitCore

open Js Api Foundation Persistence

/-- The database, the broker's queues to the adapters, and the clock. -/
structure Store where
  payments : Payments
  audit : List AuditEvent
  idempotency : Idempotency
  published : List (RoutingKey × AdapterMessage)
  now : ℕ

/-- How a delivery is given back to the broker: `channel.ack(msg)`, or
`channel.nack(msg, false, requeue)`. -/
inductive Settlement
  | ack
  | nack (requeue : Bool)
  deriving DecidableEq, Repr

/-- A call to a collaborator. The last two are not awaited: webhooks are fired and their failures
only logged, and a delivery is settled at once. -/
inductive Call
  | create (payment : NewPayment)
  | updateStatus (paymentId : JsValue) (status : PaymentStatus)
  | updateCanonical (paymentId : JsValue) (canonical : CanonicalPacs008) (status : PaymentStatus)
  | updateRoute (paymentId : JsValue) (destinationRail ruleName : Text) (status : PaymentStatus)
  | updateTranslated (paymentId : JsValue) (translated : JsValue)
  | updateRailAck (paymentId railAck : JsValue) (status : PaymentStatus)
  | log (event : AuditEvent)
  | toCanonical (rail : Rail) (request : CreatePaymentRequest) (paymentId traceId : Text)
  | normalize (canonical : CanonicalPacs008)
  | resolve (canonical : CanonicalPacs008)
  | fromCanonical (destinationRail : Text) (canonical : CanonicalPacs008)
  | publishToAdapter (destinationRail : Text) (message : AdapterMessage)
  | findById (paymentId : JsValue)
  | findByStatuses (statuses : List PaymentStatus) (limit : ℕ)
  | findByKey (key : Text)
  | tryInsert (key paymentId requestHash createdAt : Text)
  | updateResponse (key : Text) (status : ℕ) (body : PaymentResponse)
  | fireForPayment (payment : PaymentRow)
  | settle (settlement : Settlement)

namespace Call

/-- What a successful call answers with. -/
def Result : Call → Type
  | create _ | updateStatus _ _ | updateCanonical _ _ _ | updateRoute _ _ _ _
  | updateTranslated _ _ | updateRailAck _ _ _ => PaymentRow
  | log _ | publishToAdapter _ _ | updateResponse _ _ _ | fireForPayment _ | settle _ => Unit
  | toCanonical _ _ _ _ | normalize _ => CanonicalPacs008
  | resolve _ => RouteResult
  | fromCanonical _ _ => JsValue
  | findById _ => Option PaymentRow
  | findByStatuses _ _ => List PaymentRow
  | findByKey _ => Option IdempotencyRecord
  | tryInsert _ _ _ _ => Bool

/-- The calls that are awaited, and may throw. -/
def isAwaited : Call → Bool
  | fireForPayment _ | settle _ => false
  | _ => true

end Call

/-- Asynchronous functions of the service. -/
abbrev Service (α : Type) := Program Call Call.Result Failure α

/-- A call and its outcome. -/
abbrev CallOutcome := Outcome Call Call.Result Failure

/-- `await c` -/
abbrev await (c : Call) : Service c.Result := Program.perform c

/-- What the translator, the normalizer and the route engine may answer. -/
structure Collaborators where
  toCanonical : Rail → CreatePaymentRequest → Text → Text → Except Failure CanonicalPacs008 → Prop
  normalize : CanonicalPacs008 → Except Failure CanonicalPacs008 → Prop
  resolve : CanonicalPacs008 → Except Failure RouteResult → Prop
  fromCanonical : Text → CanonicalPacs008 → Except Failure JsValue → Prop

/-- `railKeyMap[destinationRail]` -/
def railKeyMap (destinationRail : Text) : Option RoutingKey :=
  if destinationRail = js Rail.pix.name then some .routePix
  else if destinationRail = js Rail.spei.name then some .routeSpei
  else if destinationRail = js Rail.breB.name then some .routeBreb
  else none

namespace Store

/-- A method of `PaymentRepository` on the store. -/
def onPayments (s : Store) (method : Payments → Effect Payments PaymentRow) :
    Except Failure PaymentRow × Store :=
  ((method s.payments).1, { s with payments := (method s.payments).2 })

/-- `AuditRepository.insert` on the store. -/
def onAudit (s : Store) (event : AuditEvent) : Except Failure Unit × Store :=
  ((insertAudit event s.audit).1, { s with audit := (insertAudit event s.audit).2 })

/-- `Publisher.publishToAdapter` -/
def publish (s : Store) (destinationRail : Text) (message : AdapterMessage) :
    Except Failure Unit × Store :=
  match railKeyMap destinationRail with
  | none => (.error (.error (js "No routing key configured for rail: " ++ destinationRail)), s)
  | some key => (.ok (), { s with published := s.published ++ [(key, message)] })

end Store

namespace Call

/-- What a call does. An inserted idempotency key expires when the table's default says, if at
all. -/
def answer (W : Collaborators) : Interp Call Result Failure Store
  | create p, s, r, t => s.onPayments (Persistence.create p) = (r, t)
  | updateStatus id status, s, r, t =>
    s.onPayments (Persistence.updateStatus s.now id status) = (r, t)
  | updateCanonical id c status, s, r, t =>
    s.onPayments (Persistence.updateCanonical s.now id c status) = (r, t)
  | updateRoute id dest rule status, s, r, t =>
    s.onPayments (Persistence.updateRoute s.now id dest rule status) = (r, t)
  | updateTranslated id translated, s, r, t =>
    s.onPayments (Persistence.updateTranslated s.now id translated) = (r, t)
  | updateRailAck id ack status, s, r, t =>
    s.onPayments (Persistence.updateRailAck s.now id ack status) = (r, t)
  | log event, s, r, t => s.onAudit event = (r, t)
  | toCanonical rail request id trace, s, r, t => W.toCanonical rail request id trace r ∧ t = s
  | normalize c, s, r, t => W.normalize c r ∧ t = s
  | resolve c, s, r, t => W.resolve c r ∧ t = s
  | fromCanonical dest c, s, r, t => W.fromCanonical dest c r ∧ t = s
  | publishToAdapter dest message, s, r, t => s.publish dest message = (r, t)
  | findById id, s, r, t => r = Persistence.findById id s.payments ∧ t = s
  | findByStatuses statuses limit, s, r, t =>
    (∃ rows, r = .ok rows ∧ SelectsByStatuses statuses limit s.payments rows) ∧ t = s
  | findByKey key, s, r, t => r = .ok (Persistence.findByKey s.now key s.idempotency) ∧ t = s
  | tryInsert key paymentId requestHash createdAt, s, r, t => ∃ expiresAt,
    let inserted := Persistence.tryInsert
      { idempotencyKey := key, paymentId, requestHash, responseStatus := none
        responseBody := none, createdAt, expiresAt } s.idempotency
    r = .ok inserted.1 ∧ t = { s with idempotency := inserted.2 }
  | updateResponse key status body, s, r, t =>
    r = .ok () ∧
      t = { s with idempotency := Persistence.updateResponse key status body s.idempotency }
  | fireForPayment _, s, r, t => r = .ok () ∧ t = s
  | settle _, s, r, t => r = .ok () ∧ t = s

/-- Any awaited call may also fail without effect. -/
def faulty (W : Collaborators) : Interp Call Result Failure Store := fun c s r t =>
  answer W c s r t ∨ c.isAwaited = true ∧ (∃ e, r = .error e) ∧ t = s

end Call

/-- Collaborators that are functions, and the default lifetime of an idempotency key. -/
structure Host where
  toCanonical : Rail → CreatePaymentRequest → Text → Text → Except Failure CanonicalPacs008
  normalize : CanonicalPacs008 → Except Failure CanonicalPacs008
  resolve : CanonicalPacs008 → Except Failure RouteResult
  fromCanonical : Text → CanonicalPacs008 → Except Failure JsValue
  expiresAt : ℕ → Option ℕ

/-- The relations of a host's functions. -/
def Host.collaborators (h : Host) : Collaborators where
  toCanonical rail request paymentId traceId r := r = h.toCanonical rail request paymentId traceId
  normalize c r := r = h.normalize c
  resolve c r := r = h.resolve c
  fromCanonical dest c r := r = h.fromCanonical dest c

/-- What a call does on a host. Its database finds no rows by their statuses. -/
def Call.respond (h : Host) : (c : Call) → Store → Except Failure c.Result × Store
  | create p, s => s.onPayments (Persistence.create p)
  | updateStatus id status, s => s.onPayments (Persistence.updateStatus s.now id status)
  | updateCanonical id c status, s => s.onPayments (Persistence.updateCanonical s.now id c status)
  | updateRoute id dest rule status, s =>
    s.onPayments (Persistence.updateRoute s.now id dest rule status)
  | updateTranslated id translated, s =>
    s.onPayments (Persistence.updateTranslated s.now id translated)
  | updateRailAck id ack status, s => s.onPayments (Persistence.updateRailAck s.now id ack status)
  | log event, s => s.onAudit event
  | toCanonical rail request id trace, s => (h.toCanonical rail request id trace, s)
  | normalize c, s => (h.normalize c, s)
  | resolve c, s => (h.resolve c, s)
  | fromCanonical dest c, s => (h.fromCanonical dest c, s)
  | publishToAdapter dest message, s => s.publish dest message
  | findById id, s => (Persistence.findById id s.payments, s)
  | findByStatuses _ _, s => (.ok [], s)
  | findByKey key, s => (.ok (Persistence.findByKey s.now key s.idempotency), s)
  | tryInsert key paymentId requestHash createdAt, s =>
    let inserted := Persistence.tryInsert
      { idempotencyKey := key, paymentId, requestHash, responseStatus := none
        responseBody := none, createdAt, expiresAt := h.expiresAt s.now } s.idempotency
    (.ok inserted.1, { s with idempotency := inserted.2 })
  | updateResponse key status body, s =>
    (.ok (), { s with idempotency := Persistence.updateResponse key status body s.idempotency })
  | fireForPayment _, s => (.ok (), s)
  | settle _, s => (.ok (), s)

theorem Call.answer_respond (h : Host) (c : Call) (s : Store) :
    Call.answer h.collaborators c s (c.respond h s).1 (c.respond h s).2 := by
  cases c with
  | findByStatuses statuses limit =>
    exact ⟨⟨[], rfl, ⟨by simp, List.nodup_nil, List.Pairwise.nil, Nat.zero_le _⟩⟩, rfl⟩
  | _ => first | rfl | exact ⟨rfl, rfl⟩ | exact ⟨_, rfl, rfl⟩

/-- Time passes. -/
def Tick (s t : Store) : Prop := ∃ now, s.now ≤ now ∧ t = { s with now }

/-! ### What a call changes -/

/-- The status that a call assigns to the row `id`, if it succeeds. -/
def Call.statusWrite (id : Text) : Call → Option PaymentStatus
  | .create p => if p.paymentId = id then some p.status else none
  | .updateStatus (.string s) status | .updateCanonical (.string s) _ status
  | .updateRoute (.string s) _ _ status | .updateRailAck (.string s) _ status =>
    if s = id then some status else none
  | _ => none

/-- The status of a payment. -/
def Store.status (s : Store) (id : Text) : Option PaymentStatus :=
  (s.payments id).map fun row => row.status

/-- The one part of the store that a call may change. -/
def Call.Changes (s t : Store) : Call → Prop
  | .create _ | .updateStatus _ _ | .updateCanonical _ _ _ | .updateRoute _ _ _ _
  | .updateTranslated _ _ | .updateRailAck _ _ _ => ∃ payments, t = { s with payments }
  | .log _ => ∃ audit, t = { s with audit }
  | .publishToAdapter _ _ => ∃ published, t = { s with published }
  | .tryInsert _ _ _ _ | .updateResponse _ _ _ => ∃ idempotency, t = { s with idempotency }
  | _ => t = s

section Changes

variable {W : Collaborators} {c : Call} {s t : Store}

theorem onPayments_eq {method : Payments → Effect Payments PaymentRow}
    {r : Except Failure PaymentRow} (h : s.onPayments method = (r, t)) :
    ∃ table, method s.payments = (r, table) ∧ t = { s with payments := table } := by
  obtain ⟨hout, rfl⟩ := Prod.mk.inj h
  exact ⟨_, Prod.ext hout rfl, rfl⟩

theorem onPayments_error {check : Except Failure Text} {assign : PaymentRow → PaymentRow}
    {e : Failure}
    (h : s.onPayments (checked check fun id => updateRow id assign) = (.error e, t)) : t = s := by
  obtain ⟨table, hmethod, rfl⟩ := onPayments_eq h
  rw [checked_error (fun _ _ _ _ => updateRow_error) hmethod]

/-- A method that succeeds has checked its arguments and assigned to one existing row. -/
theorem onPayments_ok {check : Except Failure Text} {assign : PaymentRow → PaymentRow}
    {row' : PaymentRow}
    (h : s.onPayments (checked check fun id => updateRow id assign) = (.ok row', t)) :
    ∃ id row, check = .ok id ∧ s.payments id = some row ∧ row' = assign row ∧
      t = { s with payments := Function.update s.payments id (some (assign row)) } := by
  obtain ⟨table, hmethod, rfl⟩ := onPayments_eq h
  obtain ⟨id, hcheck, hupdate⟩ := checked_ok hmethod
  obtain ⟨row, hrow, rfl, rfl⟩ := updateRow_ok hupdate
  exact ⟨id, row, hcheck, hrow, rfl, rfl⟩

theorem changes_of_answer {r : Except Failure c.Result} (h : Call.answer W c s r t) :
    c.Changes s t := by
  cases c with
  | create | updateStatus | updateCanonical | updateRoute | updateTranslated | updateRailAck =>
    obtain ⟨payments, -, ht⟩ := onPayments_eq h
    exact ⟨payments, ht⟩
  | log event => exact ⟨_, (Prod.mk.inj h).2.symm⟩
  | publishToAdapter dest message =>
    simp only [Call.answer, Store.publish] at h
    split at h
    · exact ⟨s.published, (Prod.mk.inj h).2.symm⟩
    · exact ⟨_, (Prod.mk.inj h).2.symm⟩
  | tryInsert key paymentId requestHash createdAt =>
    obtain ⟨_, -, ht⟩ := h
    exact ⟨_, ht⟩
  | updateResponse key status body => exact ⟨_, h.2⟩
  | _ => exact h.2

/-- A call that fails has changed nothing. -/
theorem answer_error {e : Failure} (h : Call.answer W c s (.error e) t) : t = s := by
  cases c with
  | create p =>
    obtain ⟨hout, rfl⟩ := Prod.mk.inj h
    simp only [Persistence.create] at hout ⊢
    cases hrow : s.payments p.paymentId with
    | none => simp [hrow] at hout
    | some row => rfl
  | updateStatus id status => exact onPayments_error h
  | updateCanonical id c status => exact onPayments_error h
  | updateRoute id dest rule status => exact onPayments_error h
  | updateTranslated id translated => exact onPayments_error h
  | updateRailAck id ack status => exact onPayments_error h
  | log event =>
    rcases hinsert : insertAudit event s.audit with ⟨r, table⟩
    simp only [Call.answer, Store.onAudit, hinsert] at h
    obtain ⟨rfl, rfl⟩ := Prod.mk.inj h
    rw [checked_error (fun _ _ _ _ h => by cases (Prod.mk.inj h).1) hinsert]
  | publishToAdapter dest message =>
    simp only [Call.answer, Store.publish] at h
    split at h
    · exact (Prod.mk.inj h).2.symm
    · cases (Prod.mk.inj h).1
  | findByKey key => exact h.2
  | tryInsert key paymentId requestHash createdAt =>
    obtain ⟨_, hout, -⟩ := h
    cases hout
  | updateResponse key status body => cases h.1
  | _ => exact h.2

/-- A call that may fail without effect either answers or leaves the store as it is. -/
theorem faulty_cases {r : Except Failure c.Result} (h : Call.faulty W c s r t) :
    (∃ a, r = .ok a ∧ Call.answer W c s (.ok a) t) ∨ (∃ e, r = .error e) ∧ t = s := by
  rcases h with h | ⟨-, he, ht⟩
  · cases r with
    | ok a => exact Or.inl ⟨a, rfl, h⟩
    | error e => exact Or.inr ⟨⟨e, rfl⟩, answer_error h⟩
  · exact Or.inr ⟨he, ht⟩

/-- A call that was made is in the history, and a failed one changed nothing else. -/
theorem recorded_cases {s t : Recorded Store (Event Call)} {r : Except Failure c.Result}
    (h : Interp.record (Call.faulty W) c s r t) :
    (∃ a, r = .ok a ∧ Call.answer W c s.store (.ok a) t.store ∧
        t.history = s.history ++ [⟨c, true⟩]) ∨
      (∃ e, r = .error e) ∧ t.store = s.store ∧ t.history = s.history ++ [⟨c, false⟩] := by
  obtain ⟨hcall, hhist⟩ := h
  rcases faulty_cases hcall with ⟨a, rfl, ha⟩ | ⟨⟨e, rfl⟩, ht⟩
  · exact Or.inl ⟨a, rfl, ha, hhist⟩
  · exact Or.inr ⟨⟨e, rfl⟩, ht, hhist⟩

/-- **What a successful call does to statuses**: it assigns the status it carries to the row it
names, and leaves all others. -/
theorem status_of_answer {a : c.Result} (h : Call.answer W c s (.ok a) t) (id : Text) :
    t.status id = (c.statusWrite id).or (s.status id) := by
  -- four of the methods assign a status, each to the row that its check has named
  have assigned : ∀ {check : Except Failure Text} {assign : PaymentRow → PaymentRow}
      {row' : PaymentRow} (v : JsValue) (st : PaymentStatus),
      s.onPayments (checked check fun id => updateRow id assign) = (.ok row', t) →
      (∀ b, check = .ok b → v = .string b) → (∀ row, (assign row).status = st) →
      ∃ b, v = .string b ∧ t.status id = (if b = id then some st else none).or (s.status id) := by
    intro check assign row' v st hmethod hcheck hassign
    obtain ⟨b, row, hb, hrow, -, rfl⟩ := onPayments_ok hmethod
    refine ⟨b, hcheck b hb, ?_⟩
    by_cases hid : b = id
    · subst hid
      simp [Store.status, hassign]
    · simp [Store.status, Function.update_of_ne (Ne.symm hid), hid]
  cases c with
  | create p =>
    obtain ⟨hout, rfl⟩ := Prod.mk.inj h
    simp only [Persistence.create] at hout ⊢
    cases hrow : s.payments p.paymentId with
    | some row => simp [hrow] at hout
    | none =>
      by_cases hid : p.paymentId = id
      · subst hid
        simp [Store.status, Call.statusWrite]
      · simp [Store.status, Call.statusWrite, Function.update_of_ne (Ne.symm hid), hid]
  | updateStatus v status =>
    obtain ⟨b, rfl, hstatus⟩ := assigned v status h (fun b hb => by
      obtain ⟨id, hid, hb⟩ := bind_eq_ok.mp hb
      obtain ⟨_, -, hb⟩ := bind_eq_ok.mp hb
      cases hb
      exact requireText_ok hid) (fun _ => rfl)
    exact hstatus
  | updateCanonical v c status =>
    obtain ⟨b, rfl, hstatus⟩ := assigned v status h
      (fun b hb => requireText_ok hb) (fun _ => rfl)
    exact hstatus
  | updateRoute v dest rule status =>
    obtain ⟨b, rfl, hstatus⟩ := assigned v status h (fun b hb => by
      obtain ⟨id, hid, hb⟩ := bind_eq_ok.mp hb
      obtain ⟨_, -, hb⟩ := bind_eq_ok.mp hb
      obtain ⟨_, -, hb⟩ := bind_eq_ok.mp hb
      cases hb
      exact requireText_ok hid) (fun _ => rfl)
    exact hstatus
  | updateTranslated v translated =>
    obtain ⟨b, row, -, hrow, -, rfl⟩ := onPayments_ok h
    by_cases hid : b = id
    · subst hid
      simp [Store.status, Call.statusWrite, hrow, assignTranslated]
    · simp [Store.status, Call.statusWrite, Function.update_of_ne (Ne.symm hid)]
  | updateRailAck v ack status =>
    obtain ⟨b, rfl, hstatus⟩ := assigned v status h (fun b hb => by
      obtain ⟨id, hid, hb⟩ := bind_eq_ok.mp hb
      split at hb
      · obtain ⟨_, -, hb⟩ := bind_eq_ok.mp hb
        cases hb
        exact requireText_ok hid
      · cases hb) (fun _ => rfl)
    exact hstatus
  | log | publishToAdapter | tryInsert | updateResponse =>
    obtain ⟨_, rfl⟩ := changes_of_answer h
    simp [Store.status, Call.statusWrite]
  | _ => simp [h.2, Call.statusWrite]

/-- A call that carries no status for a row leaves the row's status, whatever its outcome. -/
theorem status_of_answer_of_none {r : Except Failure c.Result} (h : Call.answer W c s r t) {id : Text}
    (hc : c.statusWrite id = none) : t.status id = s.status id := by
  cases r with
  | ok a => rw [status_of_answer h, hc, Option.none_or]
  | error e => rw [answer_error h]

/-- A method that assigns a status does so to the row it names, if that exists; otherwise it fails
and changes nothing. -/
theorem status_onPayments {check : Except Failure Text} {assign : PaymentRow → PaymentRow}
    {r : Except Failure PaymentRow} (status : PaymentStatus)
    (h : s.onPayments (checked check fun id => updateRow id assign) = (r, t))
    (hassign : ∀ row, (assign row).status = status) (id : Text) :
    t.status id = (s.status id).map fun old => if check.toOption = some id then status else old := by
  obtain ⟨table, hmethod, rfl⟩ := onPayments_eq h
  cases hcheck : check with
  | error e =>
    rw [hcheck] at hmethod
    obtain ⟨-, rfl⟩ := Prod.mk.inj hmethod
    cases hrow : s.payments id <;> simp [Store.status, hrow, Except.toOption]
  | ok target =>
    rw [hcheck] at hmethod
    simp only [checked, updateRow] at hmethod
    by_cases hid : target = id
    · subst hid
      cases hrow : s.payments target with
      | none =>
        simp only [hrow] at hmethod
        obtain ⟨-, rfl⟩ := Prod.mk.inj hmethod
        simp [Store.status, hrow]
      | some row =>
        simp only [hrow] at hmethod
        obtain ⟨-, rfl⟩ := Prod.mk.inj hmethod
        simp [Store.status, hrow, hassign, Except.toOption]
    · have hsame : table id = s.payments id := by
        split at hmethod <;> obtain ⟨-, rfl⟩ := Prod.mk.inj hmethod
        · rfl
        · exact Function.update_of_ne (Ne.symm hid) _ _
      cases hrow : s.payments id <;> simp [Store.status, hsame, hrow, Except.toOption, hid]

/-! ### Calls and the keys of requests -/

/-- A call other than the writes to idempotency keys leaves them, and no call moves the clock. -/
theorem idempotency_of_answer {r : Except Failure c.Result} (h : Call.answer W c s r t)
    (hinsert : ∀ key paymentId requestHash createdAt,
      c ≠ .tryInsert key paymentId requestHash createdAt)
    (hupdate : ∀ key status body, c ≠ .updateResponse key status body) :
    t.idempotency = s.idempotency := by
  have hchanges := changes_of_answer h
  cases c with
  | tryInsert key paymentId requestHash createdAt => exact absurd rfl (hinsert _ _ _ _)
  | updateResponse key status body => exact absurd rfl (hupdate _ _ _)
  | create | updateStatus | updateCanonical | updateRoute | updateTranslated | updateRailAck
  | log | publishToAdapter =>
    obtain ⟨_, rfl⟩ := hchanges
    rfl
  | _ => rw [hchanges]

theorem now_of_answer {r : Except Failure c.Result} (h : Call.answer W c s r t) :
    t.now = s.now := by
  have hchanges := changes_of_answer h
  cases c with
  | create | updateStatus | updateCanonical | updateRoute | updateTranslated | updateRailAck
  | log | publishToAdapter | tryInsert | updateResponse =>
    obtain ⟨_, rfl⟩ := hchanges
    rfl
  | _ => rw [hchanges]

theorem now_of_faulty {r : Except Failure c.Result} (h : Call.faulty W c s r t) :
    t.now = s.now := by
  rcases h with h | ⟨-, -, rfl⟩
  · exact now_of_answer h
  · rfl

/-- **The atomic claim of a key**: the row is inserted if there is none, and otherwise nothing
happens. -/
theorem tryInsert_of_faulty {key paymentId requestHash createdAt : Text}
    {r : Except Failure Bool}
    (h : Call.faulty W (.tryInsert key paymentId requestHash createdAt) s r t) :
    (r = .ok true ∧ s.idempotency key = none ∧ ∃ expiresAt,
        t.idempotency = Function.update s.idempotency key (some
          { idempotencyKey := key, paymentId, requestHash, responseStatus := none
            responseBody := none, createdAt, expiresAt })) ∨
      (r ≠ .ok true ∧ t = s ∧ (r = .ok false → ∃ record, s.idempotency key = some record)) := by
  rcases faulty_cases h with ⟨a, rfl, ⟨expiresAt, hr, rfl⟩⟩ | ⟨⟨e, rfl⟩, rfl⟩
  · cases hrow : s.idempotency key with
    | none =>
      rw [tryInsert_of_none hrow] at hr ⊢
      exact Or.inl ⟨hr, rfl, expiresAt, rfl⟩
    | some record =>
      rw [tryInsert_of_some hrow] at hr ⊢
      refine Or.inr ⟨?_, rfl, fun _ => ⟨record, rfl⟩⟩
      rw [hr]
      exact fun heq => Bool.false_ne_true (Except.ok.inj heq)
  · exact Or.inr ⟨nofun, rfl, nofun⟩

theorem updateResponse_of_faulty {key : Text} {status : ℕ} {body : PaymentResponse}
    {r : Except Failure Unit} (h : Call.faulty W (.updateResponse key status body) s r t) :
    (r = .ok () ∧ t.idempotency = Persistence.updateResponse key status body s.idempotency) ∨
      ((∃ e, r = .error e) ∧ t = s) := by
  rcases faulty_cases h with ⟨a, rfl, hr, rfl⟩ | herror
  · exact Or.inl ⟨rfl, rfl⟩
  · exact Or.inr herror

theorem findByKey_of_faulty {key : Text} {r : Except Failure (Option IdempotencyRecord)}
    (h : Call.faulty W (.findByKey key) s r t) :
    (r = .ok (Persistence.findByKey s.now key s.idempotency) ∨ ∃ e, r = .error e) ∧ t = s := by
  rcases faulty_cases h with ⟨a, rfl, hr, rfl⟩ | ⟨herror, rfl⟩
  · exact ⟨Or.inl hr, rfl⟩
  · exact ⟨Or.inr herror, rfl⟩

end Changes

end MipitCore
