import MipitCore.Api.PaymentRequest
import MipitCore.Domain.Canonical
import MipitCore.Domain.Failure

/-!
# Payments and what is stored and sent about them

The rows of the tables, the message to an adapter, and the answer to a client.
Timestamps that the database takes from its clock are instants in `ℕ`.

## Main definitions

* `Ulid`, `paymentIdOf` — identifiers
* `NewPayment`, `PaymentRow`, `AuditEvent`, `IdempotencyRecord` — rows
* `AdapterMessage`, `RouteResult`
* `PipelineResult`, `PaymentResponse`, `buildPaymentResponse`
-/

namespace MipitCore

open Js Api

/-- What `ulid()` returns: 26 digits of Crockford's base 32. -/
abbrev Ulid := {s : Text // s.length = 26 ∧ s.all (fun c => c.isUpper || c.isDigit) = true}

/-- The identifier that is made from a ULID. -/
def paymentIdOf (u : Ulid) : Text := js "PMT-" ++ u.1

theorem isPaymentId_paymentIdOf (u : Ulid) : isPaymentId (paymentIdOf u) = true := by
  have hdrop : (paymentIdOf u).drop 4 = u.1 := rfl
  have hstart : (paymentIdOf u).startsWith (js "PMT-") = true := Text.startsWith_append _ _
  simp [isPaymentId, hstart, hdrop, u.2.1, u.2.2]

theorem paymentIdOf_injective : Function.Injective paymentIdOf := fun _ _ h =>
  Subtype.ext (List.append_cancel_left h)

/-- What the pipeline passes to `PaymentRepository.create`, which has defaults only for what is
never missing here. -/
structure NewPayment where
  paymentId : Text
  idempotencyKey : Option Text
  status : PaymentStatus
  originRail : Rail
  amount : Number
  currency : Text
  debtorAlias : Text
  debtorName : Option Text
  creditorAlias : Text
  creditorName : Option Text
  purpose : Text
  reference : Text
  originPayload : Text
  traceId : Text
  createdAt : Text

/-- A row of `payments`. -/
structure PaymentRow extends NewPayment where
  destinationRail : Option Text
  canonicalPayload : Option CanonicalPacs008
  translatedPayload : Option JsValue
  railAck : Option JsValue
  routeRuleApplied : Option Text
  validatedAt : Option ℕ
  canonicalizedAt : Option ℕ
  routedAt : Option ℕ
  queuedAt : Option ℕ
  sentAt : Option ℕ
  ackedAt : Option ℕ
  completedAt : Option ℕ
  failedAt : Option ℕ
  compensatedAt : Option ℕ
  deadLetterAt : Option ℕ
  updatedAt : Option ℕ

/-- What an audit call records. The identifier and the trace come from messages, so they may be
any value. -/
structure AuditEvent where
  paymentId : JsValue
  eventType : String
  actor : Text
  detail : List (String × JsValue)
  traceId : JsValue

/-- Where a payment goes, and the rule that said so. -/
structure RouteResult where
  destination : Text
  ruleName : Text
  deriving DecidableEq

/-- The message that an adapter receives. -/
structure AdapterMessage where
  paymentId : Text
  traceId : Text
  canonical : CanonicalPacs008
  translated : JsValue
  destinationRail : Text
  routeRuleApplied : Text
  routedAt : Datetime

/-- The conversion as it is shown to a client. -/
structure FxSummary where
  sourceCurrency : Option Text
  targetCurrency : Option Text
  rate : Option Number
  convertedAmount : Option Number
  deriving DecidableEq

/-- What `PaymentPipeline.execute` returns. -/
structure PipelineResult where
  paymentId : Text
  status : PaymentStatus
  createdAt : Datetime
  originRail : Rail
  destinationRail : Text
  routeRuleApplied : Text
  amount : Number
  currency : Text
  fx : Option FxSummary
  traceId : Text
  deriving DecidableEq

/-- The body of the answer to a created payment. -/
structure PaymentResponse where
  paymentId : Text
  status : PaymentStatus
  createdAt : Datetime
  originRail : Rail
  destinationRail : Text
  routeRuleApplied : Text
  amount : Number
  currency : Text
  traceId : Text
  fx : Option FxSummary
  deriving DecidableEq

/-- `buildPaymentResponse(result)` -/
def buildPaymentResponse (result : PipelineResult) : PaymentResponse where
  paymentId := result.paymentId
  status := result.status
  createdAt := result.createdAt
  originRail := result.originRail
  destinationRail := result.destinationRail
  routeRuleApplied := result.routeRuleApplied
  amount := result.amount
  currency := result.currency
  traceId := result.traceId
  fx := result.fx

/-- A row of `idempotency_keys`. `expiresAt` is a default of the table. -/
structure IdempotencyRecord where
  idempotencyKey : Text
  paymentId : Text
  requestHash : Text
  responseStatus : Option ℕ
  responseBody : Option PaymentResponse
  createdAt : Text
  expiresAt : Option ℕ
  deriving DecidableEq

end MipitCore
