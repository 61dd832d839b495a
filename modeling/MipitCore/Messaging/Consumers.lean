import MipitCore.Service.Calls

/-!
# The consumers of acknowledgements and of dead letters

`AckConsumer` applies the answer of a rail to its payment, `DlqHandler` marks a payment
whose message could not be processed. A delivery is `none` where the broker cancels the
consumer; its content is `none` where it is no JSON. Both callbacks check what they read
only in part, so a message of the wrong shape can end in a `TypeError`, inside their `try`
or outside of it.

## Main definitions

* `ackConsumer`, `dlqHandler` — the callbacks
* `Message`, `Message.handler` — a delivery of either kind
-/

namespace MipitCore.Messaging

open Js Foundation

/-- `v.key`, which throws on `undefined` and `null`. -/
def prop (v : JsValue) (key : String) : Service JsValue :=
  match v.get key with
  | none => throw .typeError
  | some w => return w

/-- `channel.ack` and `channel.nack` -/
def settle (settlement : Settlement) : Service Unit := await (.settle settlement)

/-- The status of a payment after a rail's answer. -/
def finalStatus (status : JsValue) : PaymentStatus :=
  match status with
  | .string s =>
    if s = js "ACCEPTED" then .completed
    else if s = js "REJECTED" then .rejected
    else .failed
  | _ => .failed

/-- The audit event of an acknowledgement. -/
def ackEvent (ack railAck : JsValue) (actor : Text) (status : PaymentStatus) : AuditEvent where
  paymentId := ack.getOptional "payment_id"
  eventType := "ACK_RECEIVED"
  actor
  detail :=
    [("rail_status", railAck.getOptional "status"),
      ("final_payment_status", .string (js status.name)),
      ("adapter_id", ack.getOptional "adapter_id"),
      ("instance_id", ack.getOptional "instance_id"),
      ("latency_ms", ack.getOptional "latency_ms"),
      ("rail_tx_id", railAck.getOptional "rail_tx_id"), ("error", railAck.getOptional "error")]
  traceId := ack.getOptional "trace_id"

/-- `adapter-${ack.source_rail.toLowerCase()}` -/
def ackActor (case' : CaseMapping) (ack : JsValue) : Service Text :=
  match ack.getOptional "source_rail" with
  | .string rail => return js "adapter-" ++ case'.toLowerCase rail
  | _ => throw .typeError

/-- Webhooks are fired where there is a service for them. -/
def fireWebhooks (webhooks : Bool) (payment : PaymentRow) : Service Unit :=
  if webhooks then await (.fireForPayment payment) else return ()

/-- The body of the `try` of `AckConsumer`. -/
def applyAck (case' : CaseMapping) (webhooks : Bool) (ack railAck : JsValue) : Service Unit := do
  let status := finalStatus (railAck.getOptional "status")
  let updatedPayment ← await (.updateRailAck (ack.getOptional "payment_id") railAck status)
  let actor ← ackActor case' ack
  await (.log (ackEvent ack railAck actor status))
  fireWebhooks webhooks updatedPayment
  settle .ack

/-- The callback of `AckConsumer`. -/
def ackConsumer (case' : CaseMapping) (webhooks : Bool) : Option (Option JsValue) → Service Unit
  | none => return ()
  | some none => settle (.nack false)
  | some (some ack) => do
    let paymentId ← prop ack "payment_id"
    let railAck := ack.getOptional "rail_ack"
    if !paymentId.truthy || !(railAck.getOptional "status").truthy then
      settle (.nack false)
    else
      Program.tryCatch (applyAck case' webhooks ack railAck) fun _ => settle (.nack false)

/-- The audit event of a dead letter. -/
def deadLetterEvent (message : JsValue) : AuditEvent where
  paymentId := message.getOptional "payment_id"
  eventType := "DEAD_LETTER"
  actor := js "dlq-handler"
  detail :=
    [("destination_rail", message.getOptional "destination_rail"),
      ("retry_count", message.getOptional "retry_count"),
      ("max_retries", .number (.fin dlqMaxRetries)),
      ("original_error", message.getOptional "original_error"),
      ("failed_at", message.getOptional "failed_at")]
  traceId := message.getOptional "trace_id"

/-- The callback of `DlqHandler`. -/
def dlqHandler : Option (Option JsValue) → Service Unit
  | none => return ()
  | some none => settle .ack
  | some (some message) => do
    let paymentId ← prop message "payment_id"
    Program.tryCatch
      (do
        let _ ← await (.updateStatus paymentId .deadLetter)
        await (.log (deadLetterEvent message))
        settle .ack)
      fun _ => settle (.nack true)

/-- A delivery from the queue of acknowledgements or from the dead-letter queue. -/
inductive Message
  | ack (content : Option JsValue)
  | dlq (content : Option JsValue)

/-- What handles a delivery. -/
def Message.handler (case' : CaseMapping) (webhooks : Bool) : Message → Service Unit
  | ack content => ackConsumer case' webhooks (some content)
  | dlq content => dlqHandler (some content)

end MipitCore.Messaging
