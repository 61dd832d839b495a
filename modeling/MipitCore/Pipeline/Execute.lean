import MipitCore.Domain.AliasPatterns
import MipitCore.Service.Calls

/-!
# The payment pipeline

`PaymentPipeline.execute` takes a payment from the request to the adapter's queue: it
stores the payment, translates it to the canonical model, normalizes it, routes it,
translates it for the destination, publishes it, and marks it as queued. When any of
these calls throws, the payment is marked as failed and the error goes on to the
caller; errors of that marking are only logged.

## Main definitions

* `inferRail`
* `Context`, `Draws` — what the caller gives, and what is drawn from the host
* the steps `receive`, `validate`, `canonicalize`, `normalizeStep`, `route` and
  `translateStep`, together `prepare`; then `publish` and `markQueued`
* `execute`
* `Example.request`, `Example.host` — a payment between two PIX keys
-/

namespace MipitCore.Pipeline

open Js Api

/-- `inferRail(alias)` -/
def inferRail (alias' : Text) : Except Failure Rail :=
  if alias'.startsWith (js "PIX-") then .ok .pix
  else if alias'.startsWith (js "SPEI-") then .ok .spei
  else if alias'.startsWith (js "BREB-") then .ok .breB
  else if isCpf alias' then .ok .pix
  else if isCnpj alias' then .ok .pix
  else if isBrazilianPhone alias' then .ok .pix
  else if isEvp alias' then .ok .pix
  else if isEmail alias' && !alias'.startsWith (js "+57") then .ok .pix
  else if isClabeDigits alias' then .ok .spei
  else if isColombianPhone alias' then .ok .breB
  else if isNit alias' then .ok .breB
  else .error (.error (js "Cannot infer rail from alias: " ++ alias' ++
    js ". Use a recognized format or prefix (PIX-, SPEI-, BREB-)."))

theorem inferRail_prefix (P : AliasPrefix) (K : Text) : inferRail (P.text ++ K) = .ok P.rail := by
  cases P <;> simp [inferRail, AliasPrefix.text, AliasPrefix.rail, Text.startsWith, js, unitsOf]

/-- The rail of a request's debtor, whose alias was accepted. -/
theorem inferRail_accepted {field : String} (a : AcceptedAlias field) :
    ∃ P : AliasPrefix, inferRail a.1 = .ok P.rail := by
  obtain ⟨P, K, hPK⟩ := accepted_cases a.2
  exact ⟨P, by rw [hPK, inferRail_prefix]⟩

/-- What the caller of `execute` gives besides the request. -/
structure Context where
  idempotencyKey : Option Text
  traceId : Option Text
  paymentId : Option Text

/-- What `execute` draws from the host: identifiers and the times it reads. -/
structure Draws where
  paymentUlid : Ulid
  traceUlid : Ulid
  now : Datetime
  decidedAt : Datetime
  routedAt : Datetime
  failedAt : Datetime

/-- One payment on its way: its request, its identifiers, its origin. -/
structure Payment where
  request : CreatePaymentRequest
  idempotencyKey : Option Text
  paymentId : Text
  traceId : Text
  originRail : Rail
  draws : Draws

/-- The payment's identifier: the caller's, or a new one. -/
def paymentIdFor (context : Context) (draws : Draws) : Text :=
  context.paymentId.getD (paymentIdOf draws.paymentUlid)

/-- A payment as `execute` starts with it. -/
def start (request : CreatePaymentRequest) (context : Context) (draws : Draws)
    (originRail : Rail) : Payment where
  request
  idempotencyKey := context.idempotencyKey
  paymentId := paymentIdFor context draws
  traceId := context.traceId.getD draws.traceUlid.1
  originRail
  draws

namespace Payment

variable (p : Payment)

/-- An audit event about the payment. -/
def event (eventType : String) (actor : String) (detail : List (String × JsValue)) : AuditEvent :=
  ⟨.string p.paymentId, eventType, js actor, detail, .string p.traceId⟩

@[simp] theorem event_eventType (eventType actor : String) (detail : List (String × JsValue)) :
    (p.event eventType actor detail).eventType = eventType := rfl

/-- `auditService.log(paymentId, eventType, actor, detail, traceId)` -/
def log (eventType : String) (actor : String) (detail : List (String × JsValue)) : Service Unit :=
  await (.log (p.event eventType actor detail))

/-- The row that is stored first. -/
def newPayment : NewPayment where
  paymentId := p.paymentId
  idempotencyKey := p.idempotencyKey
  status := .received
  originRail := p.originRail
  amount := p.request.amount
  currency := p.request.currency
  debtorAlias := p.request.debtor.alias
  debtorName := p.request.debtor.name.map Subtype.val
  creditorAlias := p.request.creditor.alias
  creditorName := p.request.creditor.name.map Subtype.val
  purpose := p.request.purpose
  reference := p.request.reference
  originPayload := bodyText p.request
  traceId := p.traceId
  createdAt := p.draws.now.1

/-- Step 2: persist with status RECEIVED. -/
def receive : Service Unit := do
  let _ ← await (.create p.newPayment)
  p.log "PAYMENT_RECEIVED" "system"
    [("origin_rail", .string (js p.originRail.name)), ("amount", .number p.request.amount.1),
      ("currency", .string p.request.currency.1)]

/-- Step 3: validate. -/
def validate : Service Unit := do
  let _ ← await (.updateStatus (.string p.paymentId) .validated)
  p.log "PAYMENT_VALIDATED" "system-validator"
    [("origin_rail", .string (js p.originRail.name)),
      ("debtor_alias", .string p.request.debtor.alias.1),
      ("creditor_alias", .string p.request.creditor.alias.1)]

end Payment

/-- `Object.keys(canonical).length`: the thirteen required properties, and those optional ones that
have a value. -/
def fieldsCount (c : CanonicalPacs008) : ℕ :=
  13 + c.fx.toList.length + c.remittanceInfo.toList.length + c.traceId.toList.length +
    c.railAck.toList.length

/-- `!!canonical.fx?.target_currency` -/
def hasFx (c : CanonicalPacs008) : Bool :=
  match c.fx.bind Fx.targetCurrency with
  | none => false
  | some currency => currency ≠ []

namespace Payment

variable (p : Payment)

/-- Step 4: translate to the canonical model. -/
def canonicalize : Service CanonicalPacs008 := do
  let canonical ← await (.toCanonical p.originRail p.request p.paymentId p.traceId)
  let _ ← await (.updateCanonical (.string p.paymentId) canonical .canonicalized)
  p.log "CANONICAL_UPDATED" "system-translator"
    [("pacs008_version", .string (js "008.001.08")),
      ("fields_count", .number (.fin (fieldsCount canonical)))]
  return canonical

/-- Step 5: normalize. -/
def normalizeStep (canonical : CanonicalPacs008) : Service CanonicalPacs008 := do
  let normalized ← await (.normalize canonical)
  p.log "NORMALIZATION_COMPLETE" "system"
    [("currency", .string normalized.amount.currency), ("has_fx", .bool (hasFx normalized))]
  return normalized

/-- Step 6: route. -/
def route (normalized : CanonicalPacs008) : Service RouteResult := do
  let route ← await (.resolve normalized)
  let _ ← await (.updateRoute (.string p.paymentId) route.destination route.ruleName .routed)
  p.log "ROUTE_DECISION" "system-router"
    [("destination_rail", .string route.destination), ("rule_name", .string route.ruleName),
      ("timestamp", .string p.draws.decidedAt.1)]
  return route

/-- Step 6b: translate to the destination's format. -/
def translateStep (normalized : CanonicalPacs008) (route : RouteResult) : Service JsValue := do
  let translated ← await (.fromCanonical route.destination normalized)
  let _ ← await (.updateTranslated (.string p.paymentId) translated)
  return translated

/-- The message to the adapter. -/
def message (normalized : CanonicalPacs008) (route : RouteResult) (translated : JsValue) :
    AdapterMessage where
  paymentId := p.paymentId
  traceId := p.traceId
  canonical := normalized
  translated
  destinationRail := route.destination
  routeRuleApplied := route.ruleName
  routedAt := p.draws.routedAt

/-- What is ready to be published. -/
structure Prepared where
  normalized : CanonicalPacs008
  route : RouteResult
  translated : JsValue

/-- Steps 2 to 6b. -/
def prepare : Service Prepared := do
  p.receive
  p.validate
  let canonical ← p.canonicalize
  let normalized ← p.normalizeStep canonical
  let route ← p.route normalized
  let translated ← p.translateStep normalized route
  return ⟨normalized, route, translated⟩

/-- Step 7: publish. -/
def publish (x : Prepared) : Service Unit :=
  await (.publishToAdapter x.route.destination (p.message x.normalized x.route x.translated))

/-- The audit event of a queued payment. -/
def queuedEvent : AuditEvent :=
  p.event "STATUS_CHANGE" "system"
    [("from_status", .string (js PaymentStatus.routed.name)),
      ("to_status", .string (js PaymentStatus.queued.name))]

/-- Step 7, after the message was published. -/
def markQueued : Service Unit := do
  let _ ← await (.updateStatus (.string p.paymentId) .queued)
  await (.log p.queuedEvent)

/-- What `execute` returns. -/
def result (x : Prepared) : PipelineResult where
  paymentId := p.paymentId
  status := .queued
  createdAt := p.draws.now
  originRail := p.originRail
  destinationRail := x.route.destination
  routeRuleApplied := x.route.ruleName
  amount := p.request.amount
  currency := p.request.currency
  fx := x.normalized.fx.map fun fx =>
    ⟨fx.sourceCurrency, fx.targetCurrency, fx.rate, fx.localAmount⟩
  traceId := p.traceId

/-- The body of the outer `try`. -/
def run : Service PipelineResult := do
  let x ← p.prepare
  p.publish x
  p.markQueued
  return p.result x

/-- The audit event of a failed payment. -/
def errorEvent (err : Failure) : AuditEvent :=
  p.event "PIPELINE_ERROR" "system-pipeline"
    [("error_message", .string err.message), ("timestamp", .string p.draws.failedAt.1)]

/-- Marking the payment as failed; a failure of this is only logged. -/
def markFailed (err : Failure) : Service Unit :=
  Foundation.Program.tryCatch
    (do
      let _ ← await (.updateStatus (.string p.paymentId) .failed)
      await (.log (p.errorEvent err)))
    fun _ => return ()

/-- The outer `catch`: the error goes on to the caller. -/
def handle (err : Failure) : Service PipelineResult := do
  p.markFailed err
  throw err

end Payment

/-- `PaymentPipeline.execute(request, context)` -/
def execute (request : CreatePaymentRequest) (context : Context) (draws : Draws) :
    Service PipelineResult :=
  match inferRail request.debtor.alias with
  | .error err => throw err
  | .ok originRail =>
    let p := start request context draws originRail
    Foundation.Program.tryCatch p.run p.handle

/-! ### The calls of `execute` -/

namespace Payment

variable (p : Payment)

/-- The calls of steps 2 to 6b, after the one that stores the payment. -/
def Prepares : Call → Prop
  | .updateStatus v status => v = .string p.paymentId ∧ status = .validated
  | .updateCanonical v _ status => v = .string p.paymentId ∧ status = .canonicalized
  | .updateRoute v _ _ status => v = .string p.paymentId ∧ status = .routed
  | .updateTranslated v _ => v = .string p.paymentId
  | .log event => event.paymentId = .string p.paymentId ∧ event.eventType ≠ "STATUS_CHANGE"
  | .toCanonical _ _ paymentId _ => paymentId = p.paymentId
  | .normalize _ | .resolve _ | .fromCanonical _ _ => True
  | _ => False

/-- The calls of `execute`, after the one that stores the payment. -/
def Calls : Call → Prop
  | .updateStatus v _ => v = .string p.paymentId
  | .log event => event.paymentId = .string p.paymentId
  | .publishToAdapter _ message => message.paymentId = p.paymentId
  | c => p.Prepares c

variable {p}

theorem Prepares.calls {c : Call} (h : p.Prepares c) : p.Calls c := by
  cases c with
  | updateStatus v status => exact h.1
  | log event => exact h.1
  | publishToAdapter d m => exact h.elim
  | _ => exact h

open Foundation

theorem makes_log {eventType actor : String} {detail : List (String × JsValue)}
    (h : eventType ≠ "STATUS_CHANGE") : (p.log eventType actor detail).Makes p.Prepares :=
  Program.makes_perform.mpr ⟨rfl, h⟩

/-- The preparation stores the payment first, and only once. -/
theorem prepare_starts : ∃ next, p.prepare = .call (.create p.newPayment) next ∧
    ∀ r, (next r).Makes p.Prepares := by
  have validate : p.validate.Makes p.Prepares :=
    .bind (Program.makes_perform.mpr ⟨rfl, rfl⟩) fun _ => makes_log (by decide)
  have canonicalize : p.canonicalize.Makes p.Prepares :=
    .bind (Program.makes_perform.mpr rfl) fun canonical =>
      .bind (Program.makes_perform.mpr ⟨rfl, rfl⟩) fun _ =>
        .bind (makes_log (by decide)) fun _ => trivial
  have normalize : ∀ c, (p.normalizeStep c).Makes p.Prepares := fun c =>
    .bind (Program.makes_perform.mpr trivial) fun normalized =>
      .bind (makes_log (by decide)) fun _ => trivial
  have route : ∀ n, (p.route n).Makes p.Prepares := fun n =>
    .bind (Program.makes_perform.mpr trivial) fun route =>
      .bind (Program.makes_perform.mpr ⟨rfl, rfl⟩) fun _ =>
        .bind (makes_log (by decide)) fun _ => trivial
  have translate : ∀ n route, (p.translateStep n route).Makes p.Prepares := fun n route =>
    .bind (Program.makes_perform.mpr trivial) fun translated =>
      .bind (Program.makes_perform.mpr rfl) fun _ => trivial
  have rest : (do
      p.validate
      let canonical ← p.canonicalize
      let normalized ← p.normalizeStep canonical
      let route ← p.route normalized
      let translated ← p.translateStep normalized route
      return (⟨normalized, route, translated⟩ : Prepared)).Makes p.Prepares :=
    validate.bind fun _ => canonicalize.bind fun _ => (normalize _).bind fun _ =>
      (route _).bind fun _ => (translate _ _).bind fun _ => trivial
  refine ⟨_, rfl, fun r => ?_⟩
  -- what follows the storing: nothing if it failed, and otherwise its audit event and the rest
  cases r with
  | error e => trivial
  | ok row => exact Program.Makes.bind (makes_log (by decide)) fun _ => rest

theorem run_starts : ∃ next, p.run = .call (.create p.newPayment) next ∧
    ∀ r, (next r).Makes p.Calls := by
  obtain ⟨next, hnext, hmakes⟩ := prepare_starts (p := p)
  have rest : ∀ x, (do
      p.publish x
      p.markQueued
      return p.result x : Service PipelineResult).Makes p.Calls := fun x =>
    .bind (Program.makes_perform.mpr rfl) fun _ =>
      .bind (.bind (Program.makes_perform.mpr rfl) fun _ => Program.makes_perform.mpr rfl)
        fun _ => trivial
  refine ⟨fun r => next r >>= fun x => do
      p.publish x
      p.markQueued
      return p.result x, ?_, fun r => ((hmakes r).mono fun _ => Prepares.calls).bind rest⟩
  rw [run, hnext]
  rfl

theorem handle_makes (err : Failure) : (p.handle err).Makes p.Calls :=
  .bind (.tryCatch (.bind (Program.makes_perform.mpr rfl) fun _ => Program.makes_perform.mpr rfl)
    fun _ => trivial) fun _ => trivial

/-- The `catch` block always throws. -/
theorem handle_returns (err : Failure) : (p.handle err).Returns fun _ => False :=
  .bind fun _ => trivial

/-- The body of the `try` goes no further when a call throws. -/
theorem run_strict : p.run.Strict := by
  have receive : p.receive.Strict := .bind Program.strict_perform fun _ => Program.strict_perform
  have validate : p.validate.Strict := .bind Program.strict_perform fun _ => Program.strict_perform
  have canonicalize : p.canonicalize.Strict :=
    .bind Program.strict_perform fun _ => .bind Program.strict_perform fun _ =>
      .bind Program.strict_perform fun _ => trivial
  have normalize : ∀ c, (p.normalizeStep c).Strict := fun c =>
    .bind Program.strict_perform fun _ => .bind Program.strict_perform fun _ => trivial
  have route : ∀ n, (p.route n).Strict := fun n =>
    .bind Program.strict_perform fun _ => .bind Program.strict_perform fun _ =>
      .bind Program.strict_perform fun _ => trivial
  have translate : ∀ n route, (p.translateStep n route).Strict := fun n route =>
    .bind Program.strict_perform fun _ => .bind Program.strict_perform fun _ => trivial
  have prepare : p.prepare.Strict :=
    receive.bind fun _ => validate.bind fun _ => canonicalize.bind fun _ =>
      (normalize _).bind fun _ => (route _).bind fun _ => (translate _ _).bind fun _ => trivial
  exact prepare.bind fun x => .bind Program.strict_perform fun _ =>
    .bind (.bind Program.strict_perform fun _ => Program.strict_perform) fun _ => trivial

theorem run_returns : p.run.Returns fun result =>
    result.paymentId = p.paymentId ∧ result.status = .queued :=
  .bind fun _ => .bind fun _ => .bind fun _ => ⟨rfl, rfl⟩

/-- The payment was marked as queued. -/
def MarkedQueued (p : Payment) (o : CallOutcome) : Prop :=
  o.call = .updateStatus (.string p.paymentId) .queued ∧ o.result.isOk = true

/-- The body of the `try` returns only after the payment was marked as queued. -/
theorem run_after_queued : p.run.After p.MarkedQueued fun r => r.isOk = true := by
  refine .bind_returns fun x => .bind_returns fun _ => .bind fun r => ?_
  -- the marking, before its audit event
  cases r with
  | ok row => exact Or.inl ⟨rfl, rfl⟩
  | error e => exact Or.inr fun h => nomatch h

theorem handle_after_queued (err : Failure) :
    (p.handle err).After p.MarkedQueued fun r => r.isOk = true :=
  .bind_returns fun _ h => nomatch h

/-- A call that failed. -/
def CallFailed (o : CallOutcome) : Prop := o.result.isOk = false

theorem after_return {α : Type} (a : α) :
    (return a : Service α).After CallFailed fun r => r.isOk = false :=
  Bool.noConfusion

theorem after_perform (c : Call) :
    (await c : Service c.Result).After CallFailed fun r => r.isOk = false := by
  intro r
  cases r with
  | ok a => exact Or.inr (after_return a)
  | error e => exact Or.inl rfl

/-- The body of the `try` throws only after a call has failed. -/
theorem run_throws : p.run.After CallFailed fun r => r.isOk = false := by
  have receive : p.receive.After CallFailed fun r => r.isOk = false :=
    .bind_throws (after_perform _) fun _ => after_perform _
  have validate : p.validate.After CallFailed fun r => r.isOk = false :=
    .bind_throws (after_perform _) fun _ => after_perform _
  have canonicalize : p.canonicalize.After CallFailed fun r => r.isOk = false :=
    .bind_throws (after_perform _) fun _ => .bind_throws (after_perform _) fun _ =>
      .bind_throws (after_perform _) fun _ => after_return _
  have normalize : ∀ c, (p.normalizeStep c).After CallFailed fun r => r.isOk = false := fun c =>
    .bind_throws (after_perform _) fun _ => .bind_throws (after_perform _) fun _ => after_return _
  have route : ∀ n, (p.route n).After CallFailed fun r => r.isOk = false := fun n =>
    .bind_throws (after_perform _) fun _ => .bind_throws (after_perform _) fun _ =>
      .bind_throws (after_perform _) fun _ => after_return _
  have translate : ∀ n route, (p.translateStep n route).After CallFailed fun r => r.isOk = false :=
    fun n route => .bind_throws (after_perform _) fun _ =>
      .bind_throws (after_perform _) fun _ => after_return _
  have prepare : p.prepare.After CallFailed fun r => r.isOk = false :=
    receive.bind_throws fun _ => validate.bind_throws fun _ => canonicalize.bind_throws fun _ =>
      (normalize _).bind_throws fun _ => (route _).bind_throws fun _ =>
        (translate _ _).bind_throws fun _ => after_return _
  have mark : p.markQueued.After CallFailed fun r => r.isOk = false :=
    .bind_throws (after_perform _) fun _ => after_perform _
  exact prepare.bind_throws fun x => .bind_throws (after_perform _) fun _ =>
    mark.bind_throws fun _ => after_return _

end Payment

/-- `execute` returns only after the payment was marked as queued. -/
theorem execute_after_queued {request : CreatePaymentRequest} {context : Context} {draws : Draws} :
    (execute request context draws).After (fun o =>
      o.call = .updateStatus (.string (paymentIdFor context draws)) .queued ∧
        o.result.isOk = true) fun r => r.isOk = true := by
  obtain ⟨P, hP⟩ := inferRail_accepted request.debtor.alias
  simp only [execute, hP]
  refine Foundation.Program.After.tryCatch (Payment.run_after_queued.mono fun r hr => ?_)
  cases r with
  | ok result => rfl
  | error err => exact absurd (Payment.handle_after_queued err) hr

/-- `execute` throws only after a call has failed. -/
theorem execute_throws {request : CreatePaymentRequest} {context : Context} {draws : Draws} :
    (execute request context draws).After Payment.CallFailed fun r => r.isOk = false := by
  obtain ⟨P, hP⟩ := inferRail_accepted request.debtor.alias
  simp only [execute, hP]
  refine Foundation.Program.After.tryCatch (Payment.run_throws.mono fun r hr => ?_)
  cases r with
  | ok result => cases hr
  | error err => rfl

/-! ### An example payment

A payment between two PIX keys, with collaborators that answer as the translator, the normalizer
and the route engine do for it. -/

namespace Example

def ulid : Ulid := ⟨js "01ARZ3NDEKTSV4RRFFQ69G5FAV", by decide⟩

def datetime : Datetime := ⟨js "2026-03-13T10:30:00.000Z", by decide⟩

def request : CreatePaymentRequest where
  amount := ⟨.fin 100, by decide⟩
  currency := ⟨js "BRL", by decide⟩
  debtor := ⟨⟨js "PIX-ana", by decide⟩, none⟩
  creditor := ⟨⟨js "PIX-bob", by decide⟩, none⟩
  purpose := ⟨js "RENT", by decide⟩
  reference := ⟨js "A-17", by decide⟩

def draws : Draws where
  paymentUlid := ulid
  traceUlid := ulid
  now := datetime
  decidedAt := datetime
  routedAt := datetime
  failedAt := datetime

def context : Context := ⟨none, none, none⟩

def party (country : Option Text) (accountId : Text) : Party where
  name := none
  country
  accountId
  taxId := none
  accountType := none
  agencia := none
  email := none
  phone := none
  address := none

def canonical (paymentId traceId : Text) : CanonicalPacs008 where
  paymentId
  createdAt := datetime
  grpHdr := ⟨js "MSG-" ++ ulid.1, datetime, .fin 1, none⟩
  pmtId := ⟨js "E2E-" ++ ulid.1, none, none⟩
  amount := ⟨.fin 100, js "BRL", none, none⟩
  fx := some ⟨some (js "BRL"), none, none, none⟩
  origin := ⟨.pix, none, none, none, none⟩
  destination := ⟨none, none, none, none, none⟩
  debtor := party (some (js "BR")) (js "PIX-ana")
  creditor := party none (js "PIX-bob")
  «alias» := ⟨.pixKey, js "bob"⟩
  purpose := js "RENT"
  reference := js "A-17"
  remittanceInfo := none
  status := js "RECEIVED"
  traceId := some traceId
  railAck := none

def host : Host where
  toCanonical _ _ paymentId traceId := .ok (canonical paymentId traceId)
  normalize c := .ok c
  resolve _ := .ok ⟨js "PIX", js "alias-pix"⟩
  fromCanonical _ c := .ok (.object
    [("endToEndId", .string c.pmtId.endToEndId), ("pixKey", .string c.alias.value),
      ("amount", .number c.amount.value), ("currency", .string c.amount.currency),
      ("debtorAccount", .string c.debtor.accountId),
      ("creditorAccount", .string c.creditor.accountId), ("purpose", .string c.purpose),
      ("reference", .string c.reference), ("createdAt", .string c.createdAt.1)])
  expiresAt now := some (now + 86400000)

/-- Empty tables. -/
def store : Store := ⟨fun _ => none, [], fun _ => none, [], 0⟩

end Example

end MipitCore.Pipeline
