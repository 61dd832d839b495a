import MipitCore.Messaging.AckApplied

/-!
# Dead letters: from the failing message to the handler

`handleFailedMessage` republishes a message that failed, or, when it was retried often
enough, publishes what its content says with the error to the dead-letter exchange.
`DlqHandler` reads that publication. The two agree only where the content was an object
that names a payment: everything else is dead-lettered as well, but the handler cannot
mark a payment for it and puts it back into the queue (`settled_dead_letter`).

## Main definitions

* `spread`, `wire` — `{ ...v }`, and what is left of a value that was sent as JSON
* `FailedMessage`, `Publication`, `handleFailedMessage`
* `NamesPayment`

## Main results

* `handleFailedMessage_dead` — what is published
* `updateStatus_isOk_iff`
* `settled_dead_letter`
-/

namespace MipitCore.Messaging

open Js Foundation Persistence Program

/-- The own properties that `{ ...v }` copies. -/
def spread : JsValue → List (String × JsValue)
  | .object fields => fields
  | .array items => items.mapIdx fun i v => (toString i, v)
  | .string s => s.mapIdx fun i c => (toString i, .string [c])
  | _ => []

mutual

/-- `JSON.parse(JSON.stringify(v))`. A property whose value is `undefined` reads as one that is not
there. -/
def wire : JsValue → JsValue
  | .number (.fin q) => .number (.fin q)
  | .number _ => .null
  | .array items => .array (wireItems items)
  | .object fields => .object (wireFields fields)
  | v => v

/-- The items of an array; `undefined` is written as `null`. -/
def wireItems : List JsValue → List JsValue
  | [] => []
  | .undefined :: items => .null :: wireItems items
  | v :: items => wire v :: wireItems items

/-- The properties of an object. -/
def wireFields : List (String × JsValue) → List (String × JsValue)
  | [] => []
  | (key, v) :: fields => (key, wire v) :: wireFields fields

end

/-- What `handleFailedMessage` reads of a message. Its content is `none` where it is no JSON. -/
structure FailedMessage where
  content : Option JsValue
  exchange : Text
  routingKey : Text
  headers : Option (List (String × JsValue))

/-- What is published, persistent and as JSON: its content as the receiver parses it. -/
structure Publication where
  exchange : Text
  routingKey : Text
  content : Option JsValue
  headers : List (String × JsValue)

/-- `(msg.properties.headers?.['x-retry-count'] as number) ?? 0` -/
def retryCount (message : FailedMessage) : JsValue :=
  ((message.headers.map (JsValue.field "x-retry-count")).getD .undefined).nullish
    (.number (.fin 0))

/-- `count >= DLQ_MAX_RETRIES`; `none` is the `TypeError` for a value that is no number. -/
def exceedsRetries (count : JsValue) : Option Bool :=
  count.toNumber.map fun n => n.geNat dlqMaxRetries

/-- `count + 1` -/
def increment : JsValue → Option JsValue
  | .number (.fin q) => some (.number (.fin (q + 1)))
  | .number n => some (.number n)
  | .bool b => some (.number (.fin (if b then 2 else 1)))
  | .null => some (.number (.fin 1))
  | .undefined => some (.number .nan)
  | v => v.toText.map fun s => .string (s ++ js "1")

/-- The payload of a dead letter. -/
def deadLetterPayload (parsed count : JsValue) (errorMessage : Text) (failedAt : Datetime) :
    JsValue :=
  .object (JsValue.setField "failed_at" (.string failedAt.1)
    (JsValue.setField "original_error" (.string errorMessage)
      (JsValue.setField "retry_count" count (spread parsed))))

/-- `handleFailedMessage(channel, msg, error, dlxExchange)`: what it publishes, and whether it
throws. The log line at the end reads a property of the parsed content. -/
def handleFailedMessage (message : FailedMessage) (errorMessage : Text) (failedAt : Datetime)
    (dlxExchange : Text) : List Publication × Except Failure Unit :=
  let count := retryCount message
  match exceedsRetries count with
  | none => ([], .error .typeError)
  | some true =>
    let parsed := message.content.getD (.object [])
    let payload := deadLetterPayload parsed count errorMessage failedAt
    ([⟨dlxExchange, js "dlq.failed", some (wire payload), []⟩],
      match parsed.get "payment_id" with
      | none => .error .typeError
      | some _ => .ok ())
  | some false =>
    match increment count with
    | none => ([], .error .typeError)
    | some next =>
      ([⟨message.exchange, message.routingKey, message.content,
        JsValue.setField "x-retry-count" next (message.headers.getD [])⟩], .ok ())

/-- The content is an object that names a payment of the table. -/
def NamesPayment (content : Option JsValue) (payments : Payments) : Prop :=
  ∃ fields id, content = some (.object fields) ∧ JsValue.field "payment_id" fields = .string id ∧
    Text.trim id ≠ [] ∧ payments id ≠ none

/-! ### What is published -/

theorem wire_eq_string_iff {v : JsValue} {s : Text} : wire v = .string s ↔ v = .string s := by
  constructor
  · intro h
    cases v with
    | number n => cases n <;> simp [wire] at h
    | string s' => simpa [wire] using h
    | _ => simp [wire] at h
  · rintro rfl
    simp [wire]

theorem field_wireFields (key : String) (fields : List (String × JsValue)) :
    JsValue.field key (wireFields fields) = wire (JsValue.field key fields) := by
  induction fields with
  | nil => simp [wireFields, wire]
  | cons f fields ih =>
    obtain ⟨k, v⟩ := f
    rw [wireFields, JsValue.field_cons, JsValue.field_cons, ih]
    split <;> rfl

/-- No index is the name of a property. -/
theorem index_ne_payment_id (i : ℕ) : toString i ≠ "payment_id" := by
  intro h
  have hdigits : ∀ c ∈ (toString i).toList, c.isDigit = true := by
    intro c hc
    have hmem : c ∈ Nat.toDigits 10 i := by simpa using hc
    exact Nat.isDigit_of_mem_toDigits (by omega) (by omega) hmem
  rw [h] at hdigits
  exact absurd (hdigits 'p' (by decide)) (by decide)

/-- Only an object has the property when it was spread. -/
theorem field_spread (v : JsValue) :
    JsValue.field "payment_id" (spread v) = v.getOptional "payment_id" := by
  have hindexed : ∀ fields : List (String × JsValue), (∀ f ∈ fields, ∃ i : ℕ, f.1 = toString i) →
      JsValue.field "payment_id" fields = .undefined := by
    intro fields hfields
    induction fields with
    | nil => rfl
    | cons f fields ih =>
      obtain ⟨k, w⟩ := f
      obtain ⟨i, rfl⟩ : ∃ i : ℕ, k = toString i := hfields (k, w) List.mem_cons_self
      rw [JsValue.field_cons, if_neg (index_ne_payment_id i)]
      exact ih fun g hg => hfields g (List.mem_cons_of_mem _ hg)
  cases v with
  | object fields => rfl
  | array items =>
    refine hindexed _ fun f hf => ?_
    obtain ⟨i, hi, rfl⟩ := List.mem_mapIdx.mp hf
    exact ⟨i, rfl⟩
  | string s =>
    refine hindexed _ fun f hf => ?_
    obtain ⟨i, hi, rfl⟩ := List.mem_mapIdx.mp hf
    exact ⟨i, rfl⟩
  | _ => rfl

/-- The payment that a dead letter names is the one that its content names. -/
theorem payment_id_payload (parsed count : JsValue) (errorMessage : Text) (failedAt : Datetime) :
    (wire (deadLetterPayload parsed count errorMessage failedAt)).getOptional "payment_id" =
      wire (parsed.getOptional "payment_id") := by
  rw [deadLetterPayload, wire, JsValue.getOptional_object, field_wireFields]
  iterate 3 rw [JsValue.field_setField, if_neg (by decide)]
  rw [field_spread]

/-- **What is published for a message that was retried often enough**, if its content is not JSON's
`null`. -/
theorem handleFailedMessage_dead {message : FailedMessage} {errorMessage : Text}
    {failedAt : Datetime} {dlxExchange : Text}
    (hcount : exceedsRetries (retryCount message) = some true)
    (hcontent : ∀ v, message.content = some v → v.isNullish = false) :
    handleFailedMessage message errorMessage failedAt dlxExchange =
      ([⟨dlxExchange, js "dlq.failed", some (wire (deadLetterPayload
        (message.content.getD (.object [])) (retryCount message) errorMessage failedAt)), []⟩],
        .ok ()) := by
  simp only [handleFailedMessage, hcount]
  cases hparsed : message.content with
  | none => rfl
  | some v =>
    have hv := hcontent v hparsed
    cases v <;> first | rfl | cases hv

/-! ### What the handler makes of it -/

section Handling

variable {W : Collaborators} {s t : Store}

/-- A status can be updated exactly if a payment is named. -/
theorem updateStatus_isOk_iff {v : JsValue} {status : PaymentStatus} {r : Except Failure PaymentRow}
    (h : Call.answer W (.updateStatus v status) s r t) :
    r.isOk = true ↔ ∃ id, v = .string id ∧ Text.trim id ≠ [] ∧ s.payments id ≠ none := by
  -- the status is one of the type's, and its check takes every one
  have hcheck : (do
      let id ← requirePaymentId v
      let _ ← requireStatus status
      return id) = requirePaymentId v := by
    cases requirePaymentId v <;> simp [bind, Except.bind, pure, Except.pure]
  have hrequire : ∀ id, requirePaymentId v = .ok id ↔ v = .string id ∧ Text.trim id ≠ [] :=
    fun _ => requireText_eq_ok_iff
  obtain ⟨hout, rfl⟩ := Prod.mk.inj h
  unfold Persistence.updateStatus checked at hout
  rw [hcheck] at hout
  cases hid : requirePaymentId v with
  | error e =>
    rw [hid] at hout
    obtain rfl : r = .error e := hout.symm
    constructor
    · intro hok
      cases hok
    · rintro ⟨id, hv, htrim, -⟩
      rw [(hrequire id).mpr ⟨hv, htrim⟩] at hid
      cases hid
  | ok id =>
    obtain ⟨rfl, htrim⟩ := (hrequire id).mp hid
    rw [hid] at hout
    simp only [updateRow] at hout
    cases hrow : s.payments id with
    | none =>
      rw [hrow] at hout
      obtain rfl := hout.symm
      constructor
      · intro hok
        cases hok
      · rintro ⟨id', hid', -, hrow'⟩
        cases hid'
        exact absurd hrow hrow'
    | some row =>
      rw [hrow] at hout
      obtain rfl := hout.symm
      refine ⟨fun _ => ⟨id, rfl, htrim, by simp [hrow]⟩, fun _ => rfl⟩

/-- An audit event with all its parts can be recorded. -/
theorem log_isOk (event : AuditEvent) {id : Text} {r : Except Failure Unit}
    (hid : event.paymentId = .string id) (htrim : Text.trim id ≠ [])
    (htype : Text.trim (js event.eventType) ≠ []) (hactor : Text.trim event.actor ≠ [])
    (hdetail : event.detail ≠ []) (h : Call.answer W (.log event) s r t) : r.isOk = true := by
  have hrequire : ∀ {message : String} {x : Text}, Text.trim x ≠ [] →
      requireText message (.string x) = .ok x :=
    fun hx => requireText_eq_ok_iff.mpr ⟨rfl, hx⟩
  obtain ⟨hout, rfl⟩ := Prod.mk.inj h
  have hinsert : insertAudit event s.audit = (.ok (), s.audit ++ [event]) := by
    rw [insertAudit, hid, requirePaymentId, hrequire htrim, hrequire htype, hrequire hactor]
    simp [checked, bind, Except.bind, pure, Except.pure, hdetail]
  rw [hinsert] at hout
  obtain rfl := hout.symm
  rfl

/-- The handler settles a message without requeueing it if it names a payment, and requeues it
otherwise. -/
theorem dlqHandler_safe {v : JsValue} (hv : v.isNullish = false) :
    (dlqHandler (some (some v))).Safe (Interp.record (Call.answer W)) (Discipline.alone _)
      (fun t r => r.isOk = true ∧ ((∃ id, v.getOptional "payment_id" = .string id ∧
          Text.trim id ≠ [] ∧ s.payments id ≠ none) ∧ settledIn t.history = [.ack] ∨
        (¬ ∃ id, v.getOptional "payment_id" = .string id ∧ Text.trim id ≠ [] ∧
          s.payments id ≠ none) ∧ settledIn t.history = [.nack true])) ⟨s, []⟩ := by
  rw [dlqHandler, prop_eq hv]
  refine Safe.bind (Safe.pure ?_)
  rintro t - rfl
  refine Safe.tryCatch (Safe.bind (Safe.perform_alone fun r t hupdate => ?_))
  obtain ⟨hanswer, hhist⟩ := hupdate
  have hok := updateStatus_isOk_iff hanswer
  cases r with
  | error e =>
    refine Safe.perform_alone fun r u hsettle => ?_
    obtain ⟨⟨rfl, -⟩, hhist'⟩ := hsettle
    -- the update has failed, and with a named payment it would not have
    have hunnamed : ¬ ∃ id, v.getOptional "payment_id" = .string id ∧ Text.trim id ≠ [] ∧
        s.payments id ≠ none := by
      intro hnames
      cases hok.mpr hnames
    refine ⟨rfl, Or.inr ⟨hunnamed, ?_⟩⟩
    rw [hhist', hhist]
    rfl
  | ok row =>
    obtain ⟨id, hid, htrim, hrow⟩ := hok.mp rfl
    refine Safe.bind (Safe.perform_alone fun r u hlog => ?_)
    obtain ⟨hanswer', hhist'⟩ := hlog
    have htype : Text.trim (js "DEAD_LETTER") ≠ [] := by decide
    have hactor : Text.trim (js "dlq-handler") ≠ [] := by decide
    have hlogged := log_isOk (deadLetterEvent v) hid htrim htype hactor (List.cons_ne_nil _ _) hanswer'
    cases r with
    | error e => cases hlogged
    | ok _ =>
      refine Safe.perform_alone fun r w hsettle => ?_
      obtain ⟨⟨rfl, -⟩, hhist''⟩ := hsettle
      refine ⟨rfl, Or.inl ⟨⟨id, hid, htrim, hrow⟩, ?_⟩⟩
      rw [hhist'', hhist', hhist]
      rfl

/-- What the publication names is what the content names. -/
theorem namesPayment_iff {message : FailedMessage} {count : JsValue} {errorMessage : Text}
    {failedAt : Datetime} :
    (∃ id, (wire (deadLetterPayload (message.content.getD (.object [])) count errorMessage
        failedAt)).getOptional "payment_id" = .string id ∧ Text.trim id ≠ [] ∧
          s.payments id ≠ none) ↔ NamesPayment message.content s.payments := by
  rw [payment_id_payload]
  constructor
  · rintro ⟨id, hid, htrim, hrow⟩
    rw [wire_eq_string_iff] at hid
    cases hcontent : message.content with
    | none =>
      rw [hcontent] at hid
      cases hid
    | some v =>
      rw [hcontent, Option.getD_some] at hid
      cases v with
      | object fields => exact ⟨fields, id, rfl, hid, htrim, hrow⟩
      | _ => cases hid
  · rintro ⟨fields, id, hcontent, hid, htrim, hrow⟩
    refine ⟨id, ?_, htrim, hrow⟩
    rw [wire_eq_string_iff, hcontent]
    exact hid

/-- **Every message that was retried often enough is dead-lettered once, and the handler settles
that dead letter for good exactly if its content names a payment.** The content is not JSON's
`null`. -/
theorem settled_dead_letter {message : FailedMessage} (errorMessage : Text) (failedAt : Datetime)
    (dlxExchange : Text) (hcount : exceedsRetries (retryCount message) = some true)
    (hcontent : ∀ v, message.content = some v → v.isNullish = false) :
    ∃ publication, handleFailedMessage message errorMessage failedAt dlxExchange =
        ([publication], .ok ()) ∧
      publication.exchange = dlxExchange ∧
      ∀ (W : Collaborators) (s : Store) r t, (dlqHandler (some publication.content)).Eval
          (Interp.record (Call.answer W)) ⟨s, []⟩ r t →
        r.isOk = true ∧ (NamesPayment message.content s.payments ∧ settledIn t.history = [.ack] ∨
          ¬ NamesPayment message.content s.payments ∧ settledIn t.history = [.nack true]) := by
  refine ⟨_, handleFailedMessage_dead hcount hcontent, rfl, ?_⟩
  intro W s r t heval
  obtain ⟨hok, hsettled⟩ := Safe.eval (dlqHandler_safe (s := s) rfl) heval
  rw [namesPayment_iff] at hsettled
  exact ⟨hok, hsettled⟩

end Handling

/-! ### A dead letter that is requeued forever -/

namespace Example

/-- A message that is no JSON, retried three times. -/
def garbled : FailedMessage :=
  ⟨none, js "mipit.payments", js "route.pix", some [("x-retry-count", .number (.fin 3))]⟩

def failedAt : Datetime := ⟨js "2026-03-13T11:00:00.000Z", by decide⟩

/-- The handling of a dead letter on a host. -/
def handleDead (content : Option JsValue) : Except Failure Unit × Recorded Store (Event Call) :=
  (dlqHandler (some content)).runWith (fun c s => ((c.respond host s.store).1,
    ⟨(c.respond host s.store).2, s.history ++ [⟨c, (c.respond host s.store).1.isOk⟩]⟩)) ⟨stored, []⟩

theorem handleDead_eval (content : Option JsValue) : (dlqHandler (some content)).Eval
    (Interp.record (Call.answer host.collaborators)) ⟨stored, []⟩ (handleDead content).1
      (handleDead content).2 :=
  eval_runWith (fun c s => ⟨Call.answer_respond host c s.store, rfl⟩) _ _

theorem exceedsRetries_garbled : exceedsRetries (retryCount garbled) = some true := by
  decide

end Example

/-- A message that is no JSON is dead-lettered, and the dead letter is put back into its queue. -/
theorem dead_letter_requeued : ∃ publication,
    handleFailedMessage Example.garbled (js "boom") Example.failedAt (js "mipit.dlx") =
        ([publication], .ok ()) ∧
      (dlqHandler (some publication.content)).Eval
        (Interp.record (Call.answer Example.host.collaborators)) ⟨Example.stored, []⟩
        (Example.handleDead publication.content).1 (Example.handleDead publication.content).2 ∧
      settledIn (Example.handleDead publication.content).2.history = [.nack true] :=
  ⟨_, rfl, Example.handleDead_eval _, rfl⟩

theorem settled_dead_letter_garbled : ∃ publication,
    handleFailedMessage Example.garbled (js "boom") Example.failedAt (js "mipit.dlx") =
        ([publication], .ok ()) ∧
      publication.exchange = js "mipit.dlx" ∧
      ∀ (W : Collaborators) (s : Store) r t, (dlqHandler (some publication.content)).Eval
          (Interp.record (Call.answer W)) ⟨s, []⟩ r t →
        r.isOk = true ∧ (NamesPayment Example.garbled.content s.payments ∧
            settledIn t.history = [.ack] ∨
          ¬ NamesPayment Example.garbled.content s.payments ∧
            settledIn t.history = [.nack true]) :=
  settled_dead_letter _ _ _ Example.exceedsRetries_garbled nofun

end MipitCore.Messaging
