import MipitCore.Messaging.DeadLetters

/-!
# Retries: from the first failure to the dead letter

A message that fails is published again with its count of retries one higher, until the count
has reached the maximum; then what its content says is published to the dead-letter exchange.
The count travels in a header through the broker, so nothing but what is published decides how
often this happens.

Here the content is what the broker carries, bytes; `parse` stands for reading them as JSON.
What a dead letter keeps of it has been through `JSON.parse` and `JSON.stringify`, which between
them lose a number too large for JavaScript: it is read as infinite, and written as `null`.

## Main definitions

* `Delivery`, `Published`, `handleDelivery` — `handleFailedMessage` with bytes
* `shouldDeadLetter`
* `deliveriesAt`, `publishedAt` — the history of a message that fails every time

## Main results

* `handleDelivery_read` — what is published, as its receivers read it
* `Redelivered.next` — what handling a message does to its count
* `retried_until_dead`
-/

namespace MipitCore.Messaging

open Js

/-- A message as the broker delivers it. -/
structure Delivery (Buffer : Type) where
  content : Buffer
  exchange : Text
  routingKey : Text
  headers : Option (List (String × JsValue))

/-- What `handleFailedMessage` publishes: the bytes that were delivered, or a payload as JSON. -/
inductive Published (Buffer : Type)
  | republished (message : Delivery Buffer)
  | deadLettered (exchange routingKey : Text) (payload : JsValue)

variable {Buffer : Type}

/-- The message that is delivered next. A dead letter goes to the handler of dead letters. -/
def Published.redelivered : Published Buffer → Option (Delivery Buffer)
  | republished message => some message
  | deadLettered _ _ _ => none

/-- A failure: the message of the error, and when it is handled. -/
structure Failing where
  errorMessage : Text
  failedAt : Datetime

/-- `shouldDeadLetter(msg)`; `none` is the `TypeError` for a count that is no number. -/
def shouldDeadLetter (properties : Option (Option (List (String × JsValue)))) : Option Bool :=
  let retryCount := (((properties.bind id).map (JsValue.field "x-retry-count")).getD
    .undefined).nullish (.number (.fin 0))
  retryCount.toNumber.map fun n => n.geNat dlqMaxRetries

/-- A message, as what `handleFailedMessage` reads of it. -/
def Delivery.read (parse : Buffer → Option JsValue) (message : Delivery Buffer) : FailedMessage :=
  ⟨parse message.content, message.exchange, message.routingKey, message.headers⟩

/-- What is published, as its receivers read it. -/
def Published.read (parse : Buffer → Option JsValue) : Published Buffer → Publication
  | republished message =>
    ⟨message.exchange, message.routingKey, parse message.content, message.headers.getD []⟩
  | deadLettered exchange routingKey payload => ⟨exchange, routingKey, some (wire payload), []⟩

/-- `handleFailedMessage(channel, msg, error, dlxExchange)` -/
def handleDelivery (parse : Buffer → Option JsValue) (dlxExchange : Text)
    (message : Delivery Buffer) (failing : Failing) :
    List (Published Buffer) × Except Failure Unit :=
  let count := retryCount (message.read parse)
  match exceedsRetries count with
  | none => ([], .error .typeError)
  | some true =>
    let parsed := (parse message.content).getD (.object [])
    ([.deadLettered dlxExchange (js "dlq.failed")
        (deadLetterPayload parsed count failing.errorMessage failing.failedAt)],
      match parsed.get "payment_id" with
      | none => .error .typeError
      | some _ => .ok ())
  | some false =>
    match increment count with
    | none => ([], .error .typeError)
    | some next =>
      ([.republished { message with
          headers := some (JsValue.setField "x-retry-count" next (message.headers.getD [])) }],
        .ok ())

/-! ### The history of a message -/

section

variable (parse : Buffer → Option JsValue) (dlxExchange : Text) (failings : ℕ → Failing)
  (message : Delivery Buffer)

/-- What is delivered in the `i`-th place, if the processing of each delivery fails and each message
that is published again is delivered as it was published. -/
def deliveriesAt : ℕ → List (Delivery Buffer)
  | 0 => [message]
  | i + 1 => (deliveriesAt i).flatMap fun message =>
      (handleDelivery parse dlxExchange message (failings i)).1.filterMap Published.redelivered

/-- What is published when those deliveries have failed. -/
def publishedAt (i : ℕ) : List (Published Buffer) :=
  (deliveriesAt parse dlxExchange failings message i).flatMap fun message =>
    (handleDelivery parse dlxExchange message (failings i)).1

end

mutual

/-- What `JSON.parse` returns where no number is too large. -/
def isJson : JsValue → Bool
  | .undefined => false
  | .null | .bool _ | .string _ => true
  | .number n =>
    match n with
    | .fin _ => true
    | _ => false
  | .array items => areJson items
  | .object fields => areJsonFields fields

/-- All the items are JSON. -/
def areJson : List JsValue → Bool
  | [] => true
  | v :: items => isJson v && areJson items

/-- All the properties are JSON. -/
def areJsonFields : List (String × JsValue) → Bool
  | [] => true
  | (_, v) :: fields => isJson v && areJsonFields fields

end

/-- The properties that a dead letter has of its own. -/
def deadLetterFields : List String := ["retry_count", "original_error", "failed_at"]

section

variable {parse : Buffer → Option JsValue} {dlxExchange : Text} {failings : ℕ → Failing}
  {message m : Delivery Buffer} {failing : Failing} {i n : ℕ}

/-! ### What is sent as JSON -/

mutual

/-- **JSON arrives as it was sent.** -/
theorem wire_of_isJson {v : JsValue} (h : isJson v = true) : wire v = v := by
  match v with
  | .undefined => cases h
  | .null => simp only [wire]
  | .bool _ => simp only [wire]
  | .string _ => simp only [wire]
  | .number n =>
    cases n with
    | nan => cases h
    | inf negative => cases h
    | fin q => rw [wire]
  | .array items => rw [wire, wireItems_of_areJson h]
  | .object fields => rw [wire, wireFields_of_areJsonFields h]

theorem wireItems_of_areJson {items : List JsValue} (h : areJson items = true) :
    wireItems items = items := by
  match items with
  | [] => rw [wireItems]
  | v :: items =>
    obtain ⟨hv, hitems⟩ := Bool.and_eq_true_iff.mp h
    have hdefined : v ≠ .undefined := by
      rintro rfl
      cases hv
    rw [wireItems, wire_of_isJson hv, wireItems_of_areJson hitems]
    exact hdefined

theorem wireFields_of_areJsonFields {fields : List (String × JsValue)}
    (h : areJsonFields fields = true) : wireFields fields = fields := by
  match fields with
  | [] => rw [wireFields]
  | (key, v) :: fields =>
    obtain ⟨hv, hfields⟩ := Bool.and_eq_true_iff.mp h
    rw [wireFields, wire_of_isJson hv, wireFields_of_areJsonFields hfields]

end

/-- Every property of a JSON object arrives as it was sent, also one that is not there. -/
theorem wire_field {fields : List (String × JsValue)} (h : areJsonFields fields = true)
    (key : String) : wire (JsValue.field key fields) = JsValue.field key fields := by
  rw [← field_wireFields, wireFields_of_areJsonFields h]

/-! ### One failure -/

/-- **What is published, as its receivers read it**, is what `handleFailedMessage` publishes. -/
theorem handleDelivery_read (parse : Buffer → Option JsValue) (dlxExchange : Text)
    (message : Delivery Buffer) (failing : Failing) :
    ((handleDelivery parse dlxExchange message failing).1.map (Published.read parse),
        (handleDelivery parse dlxExchange message failing).2) =
      handleFailedMessage (message.read parse) failing.errorMessage failing.failedAt
        dlxExchange := by
  simp only [handleDelivery, handleFailedMessage]
  cases exceedsRetries (retryCount (message.read parse)) with
  | none => rfl
  | some dead =>
    cases dead with
    | true => rfl
    | false => cases increment (retryCount (message.read parse)) <;> rfl

/-- The count of a message is the number `n`, also if it has none and `n` is zero. -/
def Counts (n : ℕ) (headers : Option (List (String × JsValue))) : Prop :=
  JsValue.field "x-retry-count" (headers.getD []) = .number (.fin n) ∨
    JsValue.field "x-retry-count" (headers.getD []) = .undefined ∧ n = 0

theorem retryCount_eq (h : Counts n message.headers) :
    retryCount (message.read parse) = .number (.fin n) := by
  have hfield : ((message.headers.map (JsValue.field "x-retry-count")).getD .undefined) =
      JsValue.field "x-retry-count" (message.headers.getD []) := by
    cases message.headers <;> rfl
  rw [retryCount, Delivery.read, hfield]
  rcases h with hcount | ⟨hnone, rfl⟩
  · rw [hcount]
    rfl
  · rw [hnone]
    rfl

theorem exceedsRetries_nat (n : ℕ) :
    exceedsRetries (.number (.fin n)) = some (decide (dlqMaxRetries ≤ n)) := by
  simp [exceedsRetries, JsValue.toNumber, Number.geNat]

/-- Both functions decide alike. -/
theorem shouldDeadLetter_eq (parse : Buffer → Option JsValue) (message : Delivery Buffer) :
    shouldDeadLetter (some message.headers) = exceedsRetries (retryCount (message.read parse)) :=
  rfl

/-- A delivery in the history of a message: all is as in the first one but the count. -/
structure Redelivered (message : Delivery Buffer) (count : ℕ) (m : Delivery Buffer) : Prop where
  content : m.content = message.content
  exchange : m.exchange = message.exchange
  routingKey : m.routingKey = message.routingKey
  counts : Counts count m.headers
  headers : ∀ key, key ≠ "x-retry-count" →
    JsValue.field key (m.headers.getD []) = JsValue.field key (message.headers.getD [])

/-- **A message that may be retried** is published again as it is, and counts one more. -/
theorem Redelivered.next (h : Redelivered message n m) (parse : Buffer → Option JsValue)
    (dlxExchange : Text) (failing : Failing) (hn : n < dlqMaxRetries) :
    ∃ m', handleDelivery parse dlxExchange m failing = ([.republished m'], .ok ()) ∧
      Redelivered message (n + 1) m' ∧
      JsValue.field "x-retry-count" (m'.headers.getD []) = .number (.fin (n + 1 : ℕ)) := by
  have hcount : JsValue.field "x-retry-count" (JsValue.setField "x-retry-count"
      (.number (.fin (n + 1))) (m.headers.getD [])) = .number (.fin (n + 1 : ℕ)) := by
    rw [JsValue.field_setField, if_pos rfl]
    push_cast
    rfl
  refine ⟨{ m with headers := some (JsValue.setField "x-retry-count" (.number (.fin (n + 1)))
    (m.headers.getD [])) }, ?_, ⟨h.content, h.exchange, h.routingKey, Or.inl hcount, ?_⟩, hcount⟩
  · simp only [handleDelivery, retryCount_eq h.counts, exceedsRetries_nat,
      decide_eq_false (not_le.mpr hn), increment]
  · intro key hkey
    rw [Option.getD_some, JsValue.field_setField, if_neg (Ne.symm hkey), h.headers key hkey]

/-- **A message that may not** is dead-lettered. -/
theorem Redelivered.dead (h : Redelivered message n m) (hn : dlqMaxRetries ≤ n)
    {fields : List (String × JsValue)} (hcontent : parse message.content = some (.object fields)) :
    handleDelivery parse dlxExchange m failing =
      ([.deadLettered dlxExchange (js "dlq.failed") (deadLetterPayload (.object fields)
        (.number (.fin n)) failing.errorMessage failing.failedAt)], .ok ()) := by
  simp only [handleDelivery, retryCount_eq h.counts, exceedsRetries_nat, decide_eq_true hn,
    h.content, hcontent, Option.getD_some, JsValue.get_object]

/-- What a dead letter says: the properties of the content, and its own. -/
theorem field_deadLetter {fields : List (String × JsValue)} (h : areJsonFields fields = true)
    (n : ℕ) (failing : Failing) (key : String) :
    (key ∉ deadLetterFields → (wire (deadLetterPayload (.object fields) (.number (.fin n))
      failing.errorMessage failing.failedAt)).getOptional key = JsValue.field key fields) ∧
    (wire (deadLetterPayload (.object fields) (.number (.fin n)) failing.errorMessage
      failing.failedAt)).getOptional "retry_count" = .number (.fin n) := by
  have hwire : ∀ key, (wire (deadLetterPayload (.object fields) (.number (.fin n))
      failing.errorMessage failing.failedAt)).getOptional key =
        wire (JsValue.field key (JsValue.setField "failed_at" (.string failing.failedAt.1)
          (JsValue.setField "original_error" (.string failing.errorMessage)
            (JsValue.setField "retry_count" (.number (.fin n)) fields)))) := by
    intro key
    rw [deadLetterPayload, wire, JsValue.getOptional_object, field_wireFields]
    rfl
  constructor
  · intro hkey
    simp only [deadLetterFields, List.mem_cons, List.not_mem_nil, or_false, not_or] at hkey
    obtain ⟨hcount, herror, hfailed⟩ := hkey
    rw [hwire, JsValue.field_setField, if_neg (Ne.symm hfailed), JsValue.field_setField,
      if_neg (Ne.symm herror), JsValue.field_setField, if_neg (Ne.symm hcount), wire_field h]
  · rw [hwire, JsValue.field_setField, if_neg (by decide), JsValue.field_setField,
      if_neg (by decide), JsValue.field_setField, if_pos rfl, wire]

/-! ### All failures -/

/-- As long as it may be retried, the message is delivered once in each place. -/
theorem deliveriesAt_eq (parse : Buffer → Option JsValue) (dlxExchange : Text)
    (failings : ℕ → Failing) (hcount : Counts n message.headers) (hi : i ≤ dlqMaxRetries - n) :
    ∃ m, deliveriesAt parse dlxExchange failings message i = [m] ∧
      Redelivered message (n + i) m := by
  induction i with
  | zero => exact ⟨message, rfl, rfl, rfl, rfl, hcount, fun _ _ => rfl⟩
  | succ i ih =>
    obtain ⟨m, hdelivered, hm⟩ := ih (by omega)
    obtain ⟨m', hhandled, hm', -⟩ := hm.next parse dlxExchange (failings i) (by omega)
    refine ⟨m', ?_, hm'⟩
    rw [deliveriesAt, hdelivered, List.flatMap_singleton, hhandled]
    rfl

theorem publishedAt_eq (h : deliveriesAt parse dlxExchange failings message i = [m]) :
    publishedAt parse dlxExchange failings message i =
      (handleDelivery parse dlxExchange m (failings i)).1 := by
  rw [publishedAt, h, List.flatMap_singleton]

/-- Nothing is delivered after the dead letter. -/
theorem deliveriesAt_nil (hcount : Counts n message.headers) {fields : List (String × JsValue)}
    (hcontent : parse message.content = some (.object fields)) (hi : dlqMaxRetries - n < i) :
    deliveriesAt parse dlxExchange failings message i = [] := by
  induction i with
  | zero => exact absurd hi (Nat.not_lt_zero _)
  | succ i ih =>
    rw [deliveriesAt]
    rcases (Nat.le_of_lt_succ hi).eq_or_lt with rfl | hlt
    · -- the delivery before was dead-lettered, and a dead letter is not delivered again
      obtain ⟨m, hdelivered, hm⟩ := deliveriesAt_eq parse dlxExchange failings hcount le_rfl
      rw [hdelivered, List.flatMap_singleton, hm.dead (by omega) hcontent]
      rfl
    · rw [ih hlt]
      rfl

end

/-! ### A number too large -/

namespace Example

/-- The text of a JSON object that names a payment. -/
def named : Text := js "\x7b\"payment_id\":\"PMT-1\"\x7d"

/-- The text of a JSON object with a number that is too large. -/
def tooLarge : Text := js "\x7b\"amount\":1e999\x7d"

/-- The two texts, as `JSON.parse` reads them. -/
def parseText (content : Text) : Option JsValue :=
  if content = named then some (.object [("payment_id", .string (js "PMT-1"))])
  else if content = tooLarge then some (.object [("amount", .number (.inf false))])
  else none

def failings (_ : ℕ) : Failing := ⟨js "boom", failedAt⟩

/-- A message for an adapter, that has not been retried. -/
def toAdapter (content : Text) : Delivery Text :=
  ⟨content, js "mipit.payments", js "route.pix", none⟩

end Example

end MipitCore.Messaging
