import MipitCore.Persistence.Repositories

/-!
# Webhook subscriptions

Clients subscribe to the statuses that a payment may end in. `fireForPayment` selects the
subscriptions of a payment that listen to its status, and sends a request to each of
them; what was answered is recorded in the subscription's row. The row says when it was
last fired, and the selection does not ask for it.

The body, the headers and the signature of the request are left out: no function of the
service reads them.

## Main definitions

* `WebhookSubscription` and the methods of `WebhookRepository`
* `fireForPayment`
* `FetchResult`, `outcome` — what a delivery comes to
-/

namespace MipitCore.Webhooks

open Js

/-- A row of `webhook_subscriptions`. -/
structure WebhookSubscription where
  id : Text
  paymentId : Text
  url : Text
  events : List PaymentStatus
  firedAt : Option ℕ
  lastHttpStatus : Option ℕ
  deliveryAttempts : ℕ
  lastError : Option Text

/-- The table `webhook_subscriptions`. -/
abbrev Subscriptions := List WebhookSubscription

/-- `TERMINAL_STATUSES`; a subscription listens to all of them, if its client does not say which. -/
def terminalStatuses : List PaymentStatus := [.completed, .failed, .rejected]

/-- `WebhookRepository.create`; the database chooses `id`. -/
def create (id paymentId url : Text) (events : Option (List PaymentStatus)) (t : Subscriptions) :
    Subscriptions :=
  t ++ [{ id, paymentId, url, events := events.getD terminalStatuses, firedAt := none
          lastHttpStatus := none, deliveryAttempts := 0, lastError := none }]

/-- `WHERE payment_id = $1 AND $2 = ANY(events)` -/
def findPending (paymentId : Text) (event : PaymentStatus) (t : Subscriptions) : Subscriptions :=
  t.filter fun sub => sub.paymentId = paymentId ∧ event ∈ sub.events

/-- `WebhookRepository.recordDelivery` -/
def recordDelivery (now : ℕ) (id : Text) (httpStatus : ℕ) (error : Option Text)
    (t : Subscriptions) : Subscriptions :=
  t.map fun sub =>
    if sub.id = id then
      { sub with
        firedAt := some now, lastHttpStatus := some httpStatus
        deliveryAttempts := sub.deliveryAttempts + 1, lastError := error }
    else sub

/-- The subscriptions that `fireForPayment` sends a request to. -/
def fireForPayment (payment : PaymentRow) (t : Subscriptions) : Subscriptions :=
  if terminalStatuses.contains payment.status then findPending payment.paymentId payment.status t
  else []

/-- What `fetch` comes to: a response, or an exception with its message. -/
inductive FetchResult
  | response (status : ℕ) (statusText : Text)
  | failed (message : Text)

/-- `res.ok`: the status is 2xx. -/
def FetchResult.isOk : FetchResult → Bool
  | response status _ => 200 ≤ status ∧ status ≤ 299
  | failed _ => false

/-- What `deliver` records: the HTTP status and the error. -/
def FetchResult.outcome (result : FetchResult) : ℕ × Option Text :=
  match result with
  | response status statusText =>
    (status, if result.isOk then none
      else some (js "HTTP " ++ natText status ++ js ": " ++ statusText))
  | failed message => (0, some message)

theorem outcome_error {result : FetchResult} : result.outcome.2 = none ↔ result.isOk = true := by
  cases result with
  | response status statusText =>
    by_cases hok : (FetchResult.response status statusText).isOk = true <;>
      simp [FetchResult.outcome, hok]
  | failed message => simp [FetchResult.outcome, FetchResult.isOk]

section Table

variable {t : Subscriptions} {sub : WebhookSubscription} {paymentId : Text} {event : PaymentStatus}

theorem mem_findPending : sub ∈ findPending paymentId event t ↔
    sub ∈ t ∧ sub.paymentId = paymentId ∧ event ∈ sub.events := by
  simp [findPending]

/-- Whoever listens to the status of the payment, gets a request. -/
theorem mem_fireForPayment {payment : PaymentRow}
    (hterminal : payment.status ∈ terminalStatuses) :
    sub ∈ fireForPayment payment t ↔
      sub ∈ t ∧ sub.paymentId = payment.paymentId ∧ payment.status ∈ sub.events := by
  have hcontains : terminalStatuses.contains payment.status = true :=
    List.contains_iff_mem.mpr hterminal
  rw [fireForPayment, if_pos hcontains, mem_findPending]

/-- The rows keep their identifiers. -/
theorem recordDelivery_ids (now : ℕ) (id : Text) (httpStatus : ℕ) (error : Option Text) :
    (recordDelivery now id httpStatus error t).map (fun sub => sub.id) = t.map fun sub => sub.id := by
  rw [recordDelivery, List.map_map]
  refine List.map_congr_left fun sub _ => ?_
  simp only [Function.comp_apply]
  split_ifs <;> rfl

end Table

end MipitCore.Webhooks
