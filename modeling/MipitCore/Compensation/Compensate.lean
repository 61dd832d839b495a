import MipitCore.Foundation.Trace
import MipitCore.Js.Coercion
import MipitCore.Service.Calls

/-!
# The compensation service

`compensate` reads a payment, and if its status is one of those that can be compensated,
marks it as compensating, records that a reversal is required where the rail had
answered, and marks it as compensated. `compensateBatch` does so for the payments that
are dead-lettered or failed, one after the other. The status is checked on the row as it
was read: every later step of the call writes without looking at the row again.

## Main definitions

* `CompensationResult`, `isCompensable`, `wasAcked`
* `compensate`
* `compensateAll`, `compensateBatch`
-/

namespace MipitCore.Compensation

open Js Foundation

/-- What a compensation answers with. -/
structure CompensationResult where
  success : Bool
  reason : Text
  deriving DecidableEq

/-- `COMPENSABLE_STATUSES` -/
def compensableStatuses : List PaymentStatus := [.deadLetter, .failed]

def isCompensable (status : PaymentStatus) : Bool := compensableStatuses.contains status

/-- `payment.rail_ack !== null && payment.rail_ack !== undefined` -/
def wasAcked (payment : PaymentRow) : Bool :=
  match payment.railAck with
  | none => false
  | some railAck => !railAck.isNullish

/-- An audit event of the service about the payment that it has read. -/
def event (paymentId : Text) (payment : PaymentRow) (eventType : String)
    (detail : List (String × JsValue)) : AuditEvent where
  paymentId := .string paymentId
  eventType
  actor := js "compensation-service"
  detail
  traceId := .string payment.traceId

def startedEvent (paymentId : Text) (payment : PaymentRow) : AuditEvent :=
  event paymentId payment "COMPENSATION_STARTED"
    [("previous_status", .string (js payment.status.name)),
      ("destination_rail", (payment.destinationRail.map JsValue.string).getD .null),
      ("amount", .number payment.amount), ("currency", .string payment.currency)]

def reversalEvent (paymentId : Text) (payment : PaymentRow) : AuditEvent :=
  event paymentId payment "COMPENSATION_REVERSAL_REQUIRED"
    [("rail_ack", payment.railAck.getD .null),
      ("note", .string (js "In production, a pacs.004 (PaymentReturn) message would be sent to the destination rail"))]

def completedEvent (compensatedAt : Datetime) (paymentId : Text) (payment : PaymentRow) :
    AuditEvent :=
  event paymentId payment "COMPENSATION_COMPLETED"
    [("required_reversal", .bool (wasAcked payment)),
      ("compensated_at", .string compensatedAt.1)]

def failedEvent (paymentId : Text) (payment : PaymentRow) (err : Failure) : AuditEvent :=
  event paymentId payment "COMPENSATION_FAILED" [("error", .string err.toText)]

/-- `auditService.log` -/
def log (event : AuditEvent) : Service Unit := await (.log event)

/-- The reversal is only recorded. -/
def requireReversal (paymentId : Text) (payment : PaymentRow) : Service Unit :=
  if wasAcked payment then log (reversalEvent paymentId payment) else return ()

theorem requireReversal_makes {P : Call → Prop} {paymentId : Text} {payment : PaymentRow}
    (hP : P (.log (reversalEvent paymentId payment))) :
    (requireReversal paymentId payment).Makes P := by
  by_cases hacked : wasAcked payment = true
  · rw [requireReversal, if_pos hacked]
    exact Program.makes_perform.mpr hP
  · rw [requireReversal, if_neg hacked]
    trivial

/-- The body of the `try`. -/
def reverse (compensatedAt : Datetime) (paymentId : Text) (payment : PaymentRow) :
    Service CompensationResult := do
  requireReversal paymentId payment
  let _ ← await (.updateStatus (.string paymentId) .compensated)
  log (completedEvent compensatedAt paymentId payment)
  return ⟨true, js "Compensated"⟩

/-- What is done for a payment that can be compensated. -/
def start (compensatedAt : Datetime) (paymentId : Text) (payment : PaymentRow) :
    Service CompensationResult := do
  let _ ← await (.updateStatus (.string paymentId) .compensating)
  log (startedEvent paymentId payment)
  Program.tryCatch (reverse compensatedAt paymentId payment) fun err => do
    log (failedEvent paymentId payment err)
    return ⟨false, js "Compensation error: " ++ err.toText⟩

/-- What follows from the row that was read. -/
def proceed (compensatedAt : Datetime) (paymentId : Text) :
    Option PaymentRow → Service CompensationResult
  | none => return ⟨false, js "Payment not found"⟩
  | some payment =>
    if isCompensable payment.status then start compensatedAt paymentId payment
    else return ⟨false, js "Payment status " ++ js payment.status.name ++ js " is not compensable"⟩

/-- `CompensationService.compensate(paymentId)`; `compensatedAt` is the time that it reads. -/
def compensate (compensatedAt : Datetime) (paymentId : Text) : Service CompensationResult := do
  let payment ← await (.findById (.string paymentId))
  proceed compensatedAt paymentId payment

/-- The outcome of a program, with what it throws as a value. -/
def attempt {α : Type} (p : Service α) : Service (Except Failure α) :=
  Program.tryCatch (do let a ← p; return .ok a) fun err => return .error err

/-- The results of the compensations of `payments`, up to the first that throws. -/
def compensateAll (compensatedAt : Text → Datetime) :
    List PaymentRow → Service (List (Text × Except Failure CompensationResult))
  | [] => return []
  | payment :: payments => do
    let id := payment.paymentId
    let result ← attempt (compensate (compensatedAt id) id)
    match result with
    | .error err => return [(id, .error err)]
    | .ok result => do
      let results ← compensateAll compensatedAt payments
      return (id, .ok result) :: results

/-- The payments that a batch is about. -/
def findCompensable (limit : ℕ) : Service (List PaymentRow) :=
  await (.findByStatuses compensableStatuses limit)

/-- What a batch answers with. -/
structure BatchReport where
  processed : ℕ
  succeeded : ℕ
  failed : ℕ

/-- Whether a compensation answered with success. -/
def succeeded (result : Except Failure CompensationResult) : Bool :=
  match result with
  | .error _ => false
  | .ok result => result.success

/-- What a batch reports of its results: what a compensation threw, or how many succeeded. -/
def report (results : List (Text × Except Failure CompensationResult)) : Except Failure BatchReport := do
  let outcomes ← results.mapM Prod.snd
  return ⟨outcomes.length, outcomes.countP CompensationResult.success,
    outcomes.countP fun result => !result.success⟩

/-- `CompensationService.compensateBatch(limit)` -/
def compensateBatch (compensatedAt : Text → Datetime) (limit : ℕ) : Service BatchReport := do
  let payments ← findCompensable limit
  let results ← compensateAll compensatedAt payments
  .done (report results)

end MipitCore.Compensation
