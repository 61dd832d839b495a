import MipitCore.Pipeline.Execute

/-!
# `POST /payments`

The handler of a request to create a payment. Without an `Idempotency-Key` it runs the
pipeline. With one it looks the key up and answers from its row, or claims the key and runs
the pipeline under the identifier that it claimed it with. Two requests can look the same
key up before either claims it; the one that loses the claim answers from the row as well.

## Main definitions

* `Request`, `RequestDraws` — a request, and what its handling draws from the host
* `Reply`, `replay`, `conflictReply`, `errorReply` — answers
* `postPayments` — the handler
* `isPipelineCall`, `Foreign` — kinds of calls

## Main results

* `postPayments_foreign` — which requests leave a key's row alone
-/

namespace MipitCore.Api

open Js Foundation Pipeline

/-- What the handler reads of a request. -/
structure Request where
  body : JsValue
  idempotencyKey : Option Text
  traceId : Option Text

/-- The key of a request; the empty header counts as none. -/
def Request.key (request : Request) : Option Text := request.idempotencyKey.filter fun key => key ≠ []

/-- What handling a request draws from the host. The payment's ULID is drawn by the handler if there
is a key, and by `execute` otherwise. -/
structure RequestDraws extends Draws where
  claimedAt : Datetime

/-- The body of a reply. -/
inductive Body
  | payment (response : PaymentResponse)
  /-- `{ payment_id, status: 'QUEUED' }` -/
  | queued (paymentId : Option Text)
  /-- The details are those of a `RoutingError`, its payment and its origin rail. -/
  | failure (code : String) (message : Text) (details : Option (Text × Rail)) (traceId : Option Text)
  deriving DecidableEq

/-- A reply: its HTTP status and its body. -/
structure Reply where
  status : ℕ
  body : Body
  deriving DecidableEq

/-- The `payment_id` of a reply's body. -/
def Reply.paymentId (reply : Reply) : Option Text :=
  match reply.body with
  | .payment response => some response.paymentId
  | .queued paymentId => paymentId
  | .failure _ _ _ _ => none

/-- The reply reports success, and the payment as queued. -/
def Reply.SaysQueued (reply : Reply) : Prop :=
  (200 ≤ reply.status ∧ reply.status < 300) ∧
    match reply.body with
    | .payment response => response.status = .queued
    | .queued _ => True
    | .failure _ _ _ _ => False

/-- The reply to a key that was used with another payload. -/
def conflictReply : Reply where
  status := 409
  body := .failure "IDEMPOTENCY_CONFLICT"
    (js "Idempotency-Key already used with a different payload") none none

/-- `errorHandler` -/
def errorReply (traceId : Option Text) (err : Failure) : Reply where
  status := err.statusCode
  body :=
    match err with
    | .error _ | .typeError => .failure err.code (js "An unexpected error occurred") none traceId
    | .invalidRequest | .translation _ _ => .failure err.code err.message none traceId
    | .routing _ paymentId originRail => .failure err.code err.message (some (paymentId, originRail)) traceId

/-- The reply from the row of a key, if there is one. -/
def replay (record : Option IdempotencyRecord) : Reply where
  status := (record.bind fun r => r.responseStatus).getD 200
  body :=
    match record.bind fun r => r.responseBody with
    | some response => .payment response
    | none => .queued (record.map fun r => r.paymentId)

/-- The reply when the key's row was found at once. -/
def answerExisting (existing : IdempotencyRecord) (requestHash : Text) : Reply :=
  if existing.requestHash ≠ requestHash then conflictReply else replay (some existing)

/-- The reply for a payment that was created. -/
def createdReply (result : PipelineResult) : Reply := ⟨201, .payment (buildPaymentResponse result)⟩

/-- Running the pipeline for a claimed key. -/
def runClaimed (key : Text) (body : CreatePaymentRequest) (traceId : Option Text)
    (draws : RequestDraws) : Service Reply := do
  let result ← execute body ⟨some key, traceId, some (paymentIdOf draws.paymentUlid)⟩ draws.toDraws
  await (.updateResponse key 201 (buildPaymentResponse result))
  return createdReply result

/-- What follows the attempt to claim the key. -/
def afterClaim (key : Text) (body : CreatePaymentRequest) (traceId : Option Text)
    (draws : RequestDraws) (claimed : Bool) : Service Reply :=
  if claimed then runClaimed key body traceId draws
  else do
    let winner ← await (.findByKey key)
    return replay winner

/-- What follows the first lookup of the key. -/
def afterLookup (requestHash key : Text) (body : CreatePaymentRequest) (traceId : Option Text)
    (draws : RequestDraws) : Option IdempotencyRecord → Service Reply
  | some existing => return answerExisting existing requestHash
  | none => do
    let claimed ← await (.tryInsert key (paymentIdOf draws.paymentUlid) requestHash draws.claimedAt.1)
    afterClaim key body traceId draws claimed

/-- A request with a key. -/
def handleKeyed (sha256 : Text → Text) (key : Text) (body : CreatePaymentRequest)
    (traceId : Option Text) (draws : RequestDraws) : Service Reply := do
  let existing ← await (.findByKey key)
  afterLookup (sha256 (bodyText body)) key body traceId draws existing

/-- A request without a key. -/
def handleUnkeyed (body : CreatePaymentRequest) (traceId : Option Text) (draws : RequestDraws) :
    Service Reply := do
  let result ← execute body ⟨none, traceId, none⟩ draws.toDraws
  return createdReply result

/-- The handler's body. -/
def handleRequest (sha256 : Text → Text) (request : Request) (draws : RequestDraws) :
    Service Reply :=
  match createPaymentSchema request.body with
  | none => throw .invalidRequest
  | some body =>
    match request.key with
    | some key => handleKeyed sha256 key body request.traceId draws
    | none => handleUnkeyed body request.traceId draws

/-- `POST /payments`: what is thrown becomes an error reply. -/
def postPayments (sha256 : Text → Text) (request : Request) (draws : RequestDraws) :
    Service Reply :=
  Program.tryCatch (handleRequest sha256 request draws) fun err =>
    return errorReply request.traceId err

/-! ### What the handler calls -/

/-- A call of `execute`, and not of the handler itself. -/
def isPipelineCall : Call → Bool
  | .findByKey _ | .tryInsert _ _ _ _ | .updateResponse _ _ _ => false
  | _ => true

/-- A call that neither writes to the row of `key` nor starts a payment with it. -/
def Foreign (key : Text) : Call → Prop
  | .tryInsert k _ _ _ | .updateResponse k _ _ => k ≠ key
  | .create p => p.idempotencyKey ≠ some key
  | _ => True

theorem Calls.isPipelineCall {p : Payment} {c : Call} (h : p.Calls c) : isPipelineCall c = true := by
  cases c <;> first | rfl | exact h.elim

theorem Calls.foreign {p : Payment} {c : Call} (h : p.Calls c) (key : Text) : Foreign key c := by
  cases c <;> first | exact trivial | exact h.elim

theorem execute_makes {body : CreatePaymentRequest} {context : Context} {draws : Draws} :
    (execute body context draws).Makes fun c => isPipelineCall c = true := by
  obtain ⟨P, hP⟩ := inferRail_accepted body.debtor.alias
  obtain ⟨next, hnext, hmakes⟩ := (start body context draws P.rail).run_starts
  simp only [execute, hP]
  apply Program.Makes.tryCatch
  · rw [hnext]
    exact ⟨rfl, fun r => (hmakes r).mono fun _ hc => Calls.isPipelineCall hc⟩
  · exact fun err => (Payment.handle_makes err).mono fun _ hc => Calls.isPipelineCall hc

theorem execute_foreign {body : CreatePaymentRequest} {context : Context} {draws : Draws}
    {key : Text} (hkey : context.idempotencyKey ≠ some key) :
    (execute body context draws).Makes (Foreign key) := by
  obtain ⟨P, hP⟩ := inferRail_accepted body.debtor.alias
  obtain ⟨next, hnext, hmakes⟩ := (start body context draws P.rail).run_starts
  simp only [execute, hP]
  apply Program.Makes.tryCatch
  · rw [hnext]
    exact ⟨hkey, fun r => (hmakes r).mono fun _ hc => Calls.foreign hc key⟩
  · exact fun err => (Payment.handle_makes err).mono fun _ hc => Calls.foreign hc key

/-- A request without the key, or with a body that is refused, leaves the key's row alone. -/
theorem postPayments_foreign {sha256 : Text → Text} {request : Request} {draws : RequestDraws}
    {key : Text} (h : request.key ≠ some key ∨ createPaymentSchema request.body = none) :
    (postPayments sha256 request draws).Makes (Foreign key) := by
  refine Program.Makes.tryCatch ?_ fun _ => trivial
  unfold handleRequest
  cases hbody : createPaymentSchema request.body with
  | none => trivial
  | some body =>
    have hne : request.key ≠ some key := h.resolve_right (by simp [hbody])
    cases hkey : request.key with
    | none => exact Program.Makes.bind (execute_foreign (by simp)) fun _ => trivial
    | some k =>
      have hk : k ≠ key := by
        rintro rfl
        exact hne hkey
      refine Program.Makes.bind (Program.makes_perform.mpr trivial) fun existing => ?_
      cases existing with
      | some record => trivial
      | none =>
        refine Program.Makes.bind (Program.makes_perform.mpr hk) fun claimed => ?_
        cases claimed with
        | false => exact Program.Makes.bind (Program.makes_perform.mpr trivial) fun _ => trivial
        | true =>
          refine Program.Makes.bind (execute_foreign ?_) fun result =>
            Program.Makes.bind (Program.makes_perform.mpr hk) fun _ => trivial
          exact fun heq => hk (Option.some.inj heq)

end MipitCore.Api
