import MipitCore.Messaging.Settled
import MipitCore.Service.Rows

/-!
# Acknowledgements: applied or dropped

An acknowledgement changes a payment, its audit trail and its subscribers one after the
other. Where a call fails on the way, the consumer gives the message back without
requeueing it, and the queue has no dead-letter exchange, so that the broker drops it.
What was done before the failure stays: there is no transaction around the calls
(`applied_or_dropped`).

## Main definitions

* `QueueOptions`, `QueueOptions.keeps` — what the broker does with a settled message
* `PassesCheck`, `RowUpdated`
* `Applied`, `Untouched`, `Dropped`

## Main results

* `applied_or_dropped`
-/

namespace MipitCore.Messaging

open Js Foundation Persistence Program

/-- What `assertQueue` is told about a queue. -/
structure QueueOptions where
  durable : Bool
  deadLetterExchange : Option Exchange
  deriving DecidableEq

/-- `channel.assertQueue(QUEUES.ACK, { durable: true })` -/
def ackQueue : QueueOptions := ⟨true, none⟩

/-- Whether the broker still has a message that was settled: back in its queue, or, where it was not
requeued, in the queue's dead-letter exchange. -/
def QueueOptions.keeps (queue : QueueOptions) : Settlement → Bool
  | .ack => false
  | .nack requeue => requeue || queue.deadLetterExchange.isSome

/-- The settlements in a history. -/
def settledIn (history : List (Event Call)) : List Settlement :=
  history.filterMap fun e => settlementOf e.call

/-- The structural check of `AckConsumer`. -/
structure PassesCheck (ack : JsValue) : Prop where
  paymentId : (ack.getOptional "payment_id").truthy = true
  status : ((ack.getOptional "rail_ack").getOptional "status").truthy = true

/-- The status that an acknowledgement gives to its payment. -/
def statusOf (ack : JsValue) : PaymentStatus :=
  finalStatus ((ack.getOptional "rail_ack").getOptional "status")

/-- The payment's row was updated from the acknowledgement to `row'`. -/
def RowUpdated (ack : JsValue) (s : Store) (row' : PaymentRow) (payments : Payments) : Prop :=
  ∃ id row, ack.getOptional "payment_id" = .string id ∧ s.payments id = some row ∧
    row' = assignRailAck s.now (ack.getOptional "rail_ack") (statusOf ack) row ∧
    payments = Function.update s.payments id (some row')

/-- All of it was done, and the message was acknowledged. -/
def Applied (case' : CaseMapping) (webhooks : Bool) (ack : JsValue) (s : Store)
    (t : Recorded Store (Event Call)) : Prop :=
  ∃ row' rail, RowUpdated ack s row' t.store.payments ∧
    ack.getOptional "source_rail" = .string rail ∧
    t.store.audit = s.audit ++ [ackEvent ack (ack.getOptional "rail_ack")
      (js "adapter-" ++ case'.toLowerCase rail) (statusOf ack)] ∧
    (webhooks = true → ⟨.fireForPayment row', true⟩ ∈ t.history) ∧
    settledIn t.history = [.ack]

/-- No webhook was fired. -/
def Unfired (t : Recorded Store (Event Call)) : Prop :=
  ∀ row succeeded, (⟨.fireForPayment row, succeeded⟩ : Event Call) ∉ t.history

/-- Payment, audit trail and webhooks are as before. -/
def Untouched (s : Store) (t : Recorded Store (Event Call)) : Prop :=
  t.store.payments = s.payments ∧ t.store.audit = s.audit ∧ Unfired t

/-- The broker still has the message. -/
def Held (queue : QueueOptions) (t : Recorded Store (Event Call)) : Prop :=
  ∀ settlement ∈ settledIn t.history, queue.keeps settlement = true

/-- The message was given back without requeueing it. No audit event was recorded and no webhook
fired; the row is as before, or it was updated and the audit event could not be recorded. -/
def Dropped (ack : JsValue) (s : Store) (t : Recorded Store (Event Call)) : Prop :=
  settledIn t.history = [.nack false] ∧ t.store.audit = s.audit ∧ Unfired t ∧
    (t.store.payments = s.payments ∨
      (∃ row', RowUpdated ack s row' t.store.payments) ∧
        ∃ event, ⟨.log event, false⟩ ∈ t.history)

section Handling

variable {W : Collaborators} {case' : CaseMapping} {webhooks : Bool} {ack : JsValue} {s : Store}

/-- The two calls that are not awaited do not throw and do not touch the store. -/
theorem recorded_unawaited {c : Call} {t u : Recorded Store (Event Call)}
    {r : Except Failure c.Result} (hc : c.isAwaited = false)
    (h : Interp.record (Call.faulty W) c t r u) :
    r.isOk = true ∧ u.store = t.store ∧ u.history = t.history ++ [⟨c, true⟩] := by
  obtain ⟨hcall, hhist⟩ := h
  rcases hcall with hanswer | ⟨hawaited, -, -⟩
  · have hsame : r.isOk = true ∧ u.store = t.store := by
      cases c with
      | fireForPayment payment | settle settlement =>
        obtain ⟨rfl, hstore⟩ := hanswer
        exact ⟨rfl, hstore⟩
      | _ => cases hc
    rw [hsame.1] at hhist
    exact ⟨hsame.1, hsame.2, hhist⟩
  · rw [hc] at hawaited
    cases hawaited

/-- What the body of the `try` leaves when it throws. -/
structure Undone (ack : JsValue) (s : Store) (t : Recorded Store (Event Call)) : Prop where
  unsettled : settledIn t.history = []
  audit : t.store.audit = s.audit
  unfired : Unfired t
  payments : t.store.payments = s.payments ∨
    (∃ row', RowUpdated ack s row' t.store.payments) ∧
      ∃ event, ⟨.log event, false⟩ ∈ t.history

/-- The last calls, when the row and the audit trail were written: neither can throw. -/
theorem finish_safe (W : Collaborators) (webhooks : Bool) {row' : PaymentRow} {rail : Text}
    {t : Recorded Store (Event Call)} (hrow : RowUpdated ack s row' t.store.payments)
    (hrail : ack.getOptional "source_rail" = .string rail)
    (haudit : t.store.audit = s.audit ++ [ackEvent ack (ack.getOptional "rail_ack")
      (js "adapter-" ++ case'.toLowerCase rail) (statusOf ack)])
    (hsettled : settledIn t.history = []) :
    (do fireWebhooks webhooks row'; settle .ack : Service Unit).Safe
      (Interp.record (Call.faulty W)) (Discipline.alone _)
      (fun u r => r.isOk = true ∧ Applied case' webhooks ack s u) t := by
  -- whether or not webhooks are fired, the message is settled on the same store
  have hsettle : ∀ {u : Recorded Store (Event Call)}, u.store = t.store →
      settledIn u.history = [] → (webhooks = true → ⟨.fireForPayment row', true⟩ ∈ u.history) →
      (settle .ack).Safe (Interp.record (Call.faulty W)) (Discipline.alone _)
        (fun u r => r.isOk = true ∧ Applied case' webhooks ack s u) u := by
    intro u hstore hnone hfired
    refine Safe.perform_alone fun r v hcall => ?_
    obtain ⟨hok, hstore', hhist⟩ := recorded_unawaited rfl hcall
    have hv : v.store = t.store := by rw [hstore', hstore]
    refine ⟨hok, row', rail, ?_, hrail, ?_, ?_, ?_⟩
    · rwa [hv]
    · rwa [hv]
    · intro hwebhooks
      rw [hhist]
      exact List.mem_append_left _ (hfired hwebhooks)
    · rw [hhist, settledIn, List.filterMap_append]
      rw [settledIn] at hnone
      rw [hnone]
      rfl
  cases webhooks with
  | false =>
    refine Safe.bind (Safe.pure ?_)
    rintro t' - rfl
    exact hsettle rfl hsettled nofun
  | true =>
    refine Safe.bind (Safe.perform_alone fun r u hcall => ?_)
    obtain ⟨hok, hstore, hhist⟩ := recorded_unawaited rfl hcall
    cases r with
    | error e => cases hok
    | ok _ =>
      refine hsettle hstore ?_ fun _ => ?_
      · rw [hhist, settledIn, List.filterMap_append]
        rw [settledIn] at hsettled
        rw [hsettled]
        rfl
      · rw [hhist]
        exact List.mem_append_right _ List.mem_cons_self

theorem applyAck_recorded {rail : Text} (hrail : ack.getOptional "source_rail" = .string rail) :
    (applyAck case' webhooks ack (ack.getOptional "rail_ack")).Safe
      (Interp.record (Call.faulty W)) (Discipline.alone _)
      (fun t r => match r with
        | .ok _ => Applied case' webhooks ack s t
        | .error _ => Undone ack s t) ⟨s, []⟩ := by
  refine Safe.bind (Safe.perform_alone fun r t hcall => ?_)
  rcases recorded_cases hcall with ⟨row', rfl, hanswer, hhist⟩ | ⟨⟨e, rfl⟩, hstore, hhist⟩
  · obtain ⟨id, row, hid, hrow, hrow', ht⟩ := assigned_updateRailAck hanswer
    have hupdated : RowUpdated ack s row' t.store.payments := by
      refine ⟨id, row, hid, hrow, hrow', ?_⟩
      rw [ht, hrow']
    rw [ackActor, hrail]
    refine Safe.bind (Safe.pure ?_)
    rintro t' - rfl
    refine Safe.bind (Safe.perform_alone fun r u hlog => ?_)
    rcases recorded_cases hlog with ⟨_, rfl, hanswer', hhist'⟩ | ⟨⟨e, rfl⟩, hstore', hhist'⟩
    · have hu := inserted_log hanswer'
      have hrow : RowUpdated ack s row' u.store.payments := by rwa [hu]
      have haudit : u.store.audit = s.audit ++ [ackEvent ack (ack.getOptional "rail_ack")
          (js "adapter-" ++ case'.toLowerCase rail) (statusOf ack)] := by
        rw [hu, ht]
        rfl
      have hsettled : settledIn u.history = [] := by
        rw [hhist', hhist]
        rfl
      refine (finish_safe W webhooks hrow hrail haudit hsettled).mono fun v r _ hv => ?_
      cases r with
      | ok _ => exact hv.2
      | error e => cases hv.1
    · -- the row was updated, and the audit event was not recorded
      refine ⟨?_, ?_, ?_, Or.inr ⟨⟨row', ?_⟩, ackEvent ack (ack.getOptional "rail_ack")
        (js "adapter-" ++ case'.toLowerCase rail) (statusOf ack), ?_⟩⟩
      · rw [hhist', hhist]
        rfl
      · rw [hstore', ht]
      · rw [Unfired, hhist', hhist]
        simp
      · rwa [hstore']
      · rw [hhist']
        exact List.mem_append_right _ List.mem_cons_self
  · -- nothing was done
    refine ⟨?_, ?_, ?_, Or.inl ?_⟩
    · rw [hhist]
      rfl
    · rw [hstore]
    · rw [Unfired, hhist]
      simp
    · rw [hstore]

/-- **An acknowledgement that passes the check and names its rail is applied as a whole, or
dropped.** -/
theorem applied_or_dropped (hcheck : PassesCheck ack) {rail : Text}
    (hrail : ack.getOptional "source_rail" = .string rail) {r : Except Failure Unit}
    {t : Recorded Store (Event Call)}
    (h : (ackConsumer case' webhooks (some (some ack))).Eval (Interp.record (Call.faulty W))
      ⟨s, []⟩ r t) :
    r.isOk = true ∧ (Applied case' webhooks ack s t ∨ Dropped ack s t ∧ ¬ Held ackQueue t) := by
  have hnullish : ack.isNullish = false := by
    have htruthy := truthy_of_field hcheck.paymentId
    cases ack <;> first | rfl | cases htruthy
  refine Safe.eval (Q := fun t r => r.isOk = true ∧
    (Applied case' webhooks ack s t ∨ Dropped ack s t ∧ ¬ Held ackQueue t)) ?_ h
  rw [ackConsumer, prop_eq hnullish]
  refine Safe.bind (Safe.pure ?_)
  rintro t' - rfl
  simp only [hcheck.paymentId, hcheck.status, Bool.not_true, Bool.or_self, Bool.false_eq_true,
    ↓reduceIte]
  refine Safe.tryCatch ((applyAck_recorded hrail).mono fun t r _ ht => ?_)
  cases r with
  | ok _ => exact ⟨rfl, Or.inl ht⟩
  | error e =>
    refine Safe.perform_alone fun r u hcall => ?_
    obtain ⟨hok, hstore, hhist⟩ := recorded_unawaited rfl hcall
    have hsettled : settledIn u.history = [.nack false] := by
      have hnone := ht.unsettled
      rw [settledIn] at hnone
      rw [hhist, settledIn, List.filterMap_append, hnone]
      rfl
    refine ⟨hok, Or.inr ⟨⟨hsettled, ?_, ?_, ?_⟩, ?_⟩⟩
    · rw [hstore, ht.audit]
    · rw [Unfired, hhist]
      intro row succeeded hmem
      rcases List.mem_append.mp hmem with hmem | hmem
      · exact ht.unfired row succeeded hmem
      · cases List.mem_singleton.mp hmem
    · rw [hstore, hhist]
      rcases ht.payments with hsame | ⟨hrow, event, hevent⟩
      · exact Or.inl hsame
      · exact Or.inr ⟨hrow, event, List.mem_append_left _ hevent⟩
    · -- the queue has no dead-letter exchange
      intro hheld
      have := hheld (.nack false) (by rw [hsettled]; exact List.mem_cons_self)
      cases this

end Handling

/-! ### An acknowledgement whose audit event cannot be recorded -/

namespace Example

/-- The audit trail cannot be written, every other call answers. -/
def failLog : (c : Call) → Recorded Store (Event Call) →
    Except Failure c.Result × Recorded Store (Event Call)
  | .log event, s =>
    (.error (.error (js "Connection terminated")), ⟨s.store, s.history ++ [⟨.log event, false⟩]⟩)
  | c, s => ((c.respond host s.store).1,
      ⟨(c.respond host s.store).2, s.history ++ [⟨c, (c.respond host s.store).1.isOk⟩]⟩)

theorem failLog_recorded (c : Call) (s : Recorded Store (Event Call)) :
    Interp.record (Call.faulty host.collaborators) c s (failLog c s).1 (failLog c s).2 := by
  unfold failLog
  split
  · exact ⟨Or.inr ⟨rfl, ⟨_, rfl⟩, rfl⟩, rfl⟩
  · exact ⟨Or.inl (Call.answer_respond host _ _), rfl⟩

/-- The acknowledgement of the stored payment. -/
def acceptedAck : JsValue := .object
  [("payment_id", .string id), ("trace_id", .string (js "trace")),
    ("source_rail", .string (js "SPEI")),
    ("rail_ack", .object [("status", .string (js "ACCEPTED"))])]

def halfDone : Except Failure Unit × Recorded Store (Event Call) :=
  (ackConsumer .ascii true (some (some acceptedAck))).runWith failLog ⟨stored, []⟩

theorem halfDone_eval : (ackConsumer .ascii true (some (some acceptedAck))).Eval
    (Interp.record (Call.faulty host.collaborators)) ⟨stored, []⟩ halfDone.1 halfDone.2 :=
  eval_runWith failLog_recorded _ _

theorem halfDone_settled : settledIn halfDone.2.history = [.nack false] := rfl

theorem passesCheck_acceptedAck : PassesCheck acceptedAck := ⟨rfl, rfl⟩

end Example

/-- The payment is marked as completed, its audit trail and its subscribers know nothing of it, and
the message is gone. -/
theorem half_done_and_dropped :
    PassesCheck Example.acceptedAck ∧
      (ackConsumer .ascii true (some (some Example.acceptedAck))).Eval
        (Interp.record (Call.faulty Example.host.collaborators)) ⟨Example.stored, []⟩
        Example.halfDone.1 Example.halfDone.2 ∧
      ¬ (Applied .ascii true Example.acceptedAck Example.stored Example.halfDone.2 ∨
        Untouched Example.stored Example.halfDone.2 ∧ Held ackQueue Example.halfDone.2) := by
  refine ⟨Example.passesCheck_acceptedAck, Example.halfDone_eval, ?_⟩
  rintro (⟨row', rail, -, -, -, -, hsettled⟩ | ⟨-, hheld⟩)
  · rw [Example.halfDone_settled] at hsettled
    cases hsettled
  · have := hheld (.nack false) (by rw [Example.halfDone_settled]; exact List.mem_cons_self)
    cases this

theorem applied_or_dropped_halfDone :
    Example.halfDone.1.isOk = true ∧
      (Applied .ascii true Example.acceptedAck Example.stored Example.halfDone.2 ∨
        Dropped Example.acceptedAck Example.stored Example.halfDone.2 ∧
          ¬ Held ackQueue Example.halfDone.2) :=
  applied_or_dropped Example.passesCheck_acceptedAck rfl Example.halfDone_eval

end MipitCore.Messaging
