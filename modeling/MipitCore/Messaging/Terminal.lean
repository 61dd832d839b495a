import MipitCore.Messaging.Consumers

/-!
# Terminal outcomes under message delivery

Acknowledgements and dead letters arrive in any order and any number of times. Both
callbacks write the status of the payment they name without reading it, so the status
after a sequence of deliveries is the one written last (`status_of_handled`). A terminal
outcome is therefore kept exactly by the sequences in which no later message carries
another one (`absorbing_iff`).

## Main definitions

* `Message.writes` — the status that a message carries for a payment
* `Delivered` — deliveries, one handled after the other, with time passing in between
* `Absorbing`, `Agreeing` — what is asked of a sequence, and when it holds

## Main results

* `status_of_handled`
* `absorbing_iff`
-/

namespace MipitCore.Messaging

open Js Foundation Persistence

/-- The status that a message carries for the payment `id`, where it passes the checks. -/
def Message.writes (id : Text) : Message → Option PaymentStatus
  | ack (some v) =>
    let status := (v.getOptional "rail_ack").getOptional "status"
    if status.truthy = true ∧ (requirePaymentId (v.getOptional "payment_id")).toOption = some id then
      some (finalStatus status)
    else none
  | dlq (some v) =>
    if (requirePaymentId (v.getOptional "payment_id")).toOption = some id then some .deadLetter
    else none
  | _ => none

/-- The status that a label carries; the passing of time carries none. -/
def labelWrites (id : Text) (l : Option Message) : Option PaymentStatus :=
  l.bind fun m => m.writes id

/-- One message is handled, or time passes. -/
def Delivered (W : Collaborators) (case' : CaseMapping) (webhooks : Bool) :
    LTS Store (Option Message)
  | s, some m, t => ∃ r, (m.handler case' webhooks).Eval (Call.answer W) s r t
  | s, none, t => Tick s t

/-- An acknowledgement set the status of the payment to `status`. -/
def SetByAck (id : Text) (status : PaymentStatus) (e : Transition Store (Option Message)) : Prop :=
  (∃ content, e.label = some (.ack content)) ∧ labelWrites id e.label = some status ∧
    e.target.status id = some status

/-- Once an acknowledgement has set the payment's status, the status stays what it set. -/
def Absorbing (id : Text) (path : List (Transition Store (Option Message))) : Prop :=
  ∀ before e after status, path = before ++ e :: after → SetByAck id status e →
    ∀ e' ∈ after, e'.target.status id = some status

/-- An acknowledgement that names an existing payment is followed only by messages that carry the
same status for it, or none. -/
def Agreeing (id : Text) (path : List (Transition Store (Option Message))) : Prop :=
  ∀ before e after content status, path = before ++ e :: after → e.label = some (.ack content) →
    labelWrites id e.label = some status → e.source.status id ≠ none →
      ∀ e' ∈ after, ∀ status', labelWrites id e'.label = some status' → status' = status

section Handling

variable {W : Collaborators} {case' : CaseMapping} {webhooks : Bool} {s t : Store} {id : Text}

/-- Settling a delivery changes no status. -/
theorem settle_safe (settlement : Settlement) (status : Option PaymentStatus)
    (h : s.status id = status) :
    (settle settlement).Safe (Call.answer W) (Discipline.alone _)
      (fun t _ => t.status id = status) s :=
  Program.Safe.perform_alone fun r t hcall => by
    rw [status_of_answer_of_none hcall rfl, h]

theorem toOption_ackCheck (v railAck : JsValue) (status : PaymentStatus)
    (hrail : railAck.truthy = true) :
    (do
      let id ← requirePaymentId v
      if railAck.truthy then
        let _ ← requireStatus status
        return id
      else throw (Failure.error (js "Rail ACK response cannot be empty"))).toOption =
      (requirePaymentId v).toOption := by
  cases requirePaymentId v with
  | error e => rfl
  | ok id => simp [hrail, bind, Except.bind, pure, Except.pure, Except.toOption]

theorem truthy_of_field {v : JsValue} {key : String} (h : (v.getOptional key).truthy = true) :
    v.truthy = true := by
  cases v <;> simp_all [JsValue.getOptional, JsValue.get, JsValue.truthy]

/-- What the body of the acknowledgement's `try` does to statuses: all of it is done by its first
call, so it makes no difference what throws afterwards. -/
theorem applyAck_safe (id : Text) {v railAck : JsValue} (hrail : railAck.truthy = true) :
    (applyAck case' webhooks v railAck).Safe (Call.answer W) (Discipline.alone _)
      (fun t _ => t.status id = (s.status id).map fun old =>
        if (requirePaymentId (v.getOptional "payment_id")).toOption = some id then
          finalStatus (railAck.getOptional "status") else old) s := by
  set status := (s.status id).map fun old =>
    if (requirePaymentId (v.getOptional "payment_id")).toOption = some id then
      finalStatus (railAck.getOptional "status") else old with hdef
  refine Program.Safe.bind (Program.Safe.perform_alone fun r t hcall => ?_)
  have hstatus : t.status id = status := by
    rw [status_onPayments (finalStatus (railAck.getOptional "status")) hcall (fun _ => rfl) id,
      hdef]
    simp only [toOption_ackCheck _ _ _ hrail]
  have htail : ∀ p : Service Unit, p.Makes (fun c => c.statusWrite id = none) →
      p.Safe (Call.answer W) (Discipline.alone Store) (fun t _ => t.status id = status) t :=
    fun p hp => Program.Safe.of_makes_alone (A := fun t : Store => t.status id = status) hp
      (fun c s r t hc hs hcall => by rw [status_of_answer_of_none hcall hc, hs]) hstatus
  cases r with
  | error e => exact hstatus
  | ok row =>
    refine htail _ (Program.Makes.bind ?_ fun actor => Program.Makes.bind
      (Program.makes_perform.mpr rfl) fun _ => Program.Makes.bind ?_ fun _ =>
        Program.makes_perform.mpr rfl)
    · unfold ackActor
      split <;> trivial
    · cases webhooks
      · trivial
      · exact Program.makes_perform.mpr rfl

theorem requirePaymentId_of_falsy {v : JsValue} (h : v.truthy = false) :
    (requirePaymentId v).toOption = none := by
  cases v with
  | string s =>
    have hs : s = [] := by simpa [JsValue.truthy] using h
    simp [requirePaymentId, requireText, hs, Except.toOption]
  | _ => simp_all [requirePaymentId, requireText, Except.toOption]

/-- What is no object names no payment. -/
theorem toOption_requirePaymentId_of_get {v : JsValue} (h : v.get "payment_id" = none) :
    (requirePaymentId (v.getOptional "payment_id")).toOption = none :=
  requirePaymentId_of_falsy (by simp [JsValue.getOptional, h, JsValue.truthy])

/-- What handling an acknowledgement does to statuses. -/
theorem ackConsumer_safe (content : Option JsValue) :
    ((Message.ack content).handler case' webhooks).Safe (Call.answer W) (Discipline.alone _)
      (fun t _ => t.status id =
        (s.status id).map fun old => ((Message.ack content).writes id).getD old) s := by
  have hkept : (Message.ack content).writes id = none →
      s.status id = (s.status id).map fun old => ((Message.ack content).writes id).getD old := by
    intro hnone
    simp [hnone]
  cases content with
  | none => exact settle_safe _ _ (hkept rfl)
  | some v =>
    simp only [Message.handler, ackConsumer, prop]
    cases hget : v.get "payment_id" with
    | none =>
      rintro t - rfl
      simp [Message.writes, toOption_requirePaymentId_of_get hget]
    | some paymentId =>
      refine Program.Safe.bind (Program.Safe.pure ?_)
      rintro t - rfl
      dsimp only
      set status := (v.getOptional "rail_ack").getOptional "status" with hstatus
      by_cases hvalid : paymentId.truthy = true ∧ status.truthy = true
      · simp only [hvalid.1, hvalid.2, Bool.not_true, Bool.or_self, Bool.false_eq_true,
          ↓reduceIte]
        refine Program.Safe.tryCatch
          ((applyAck_safe id (truthy_of_field hvalid.2)).mono fun u r _ hu => ?_)
        have hu' : u.status id = (t.status id).map fun old =>
            ((Message.ack (some v)).writes id).getD old := by
          rw [hu]
          congr 1
          funext old
          by_cases hcheck : (requirePaymentId (v.getOptional "payment_id")).toOption = some id <;>
            simp [Message.writes, ← hstatus, hvalid.2, hcheck]
        -- the message is settled either way, which no status depends on
        cases r with
        | ok _ => exact hu'
        | error e => exact settle_safe _ _ hu'
      · -- an acknowledgement without an identifier or a status is rejected unread
        have hinvalid : (!paymentId.truthy || !status.truthy) = true := by
          cases hp : paymentId.truthy <;> cases hs : status.truthy <;> simp_all
        simp only [hinvalid, ↓reduceIte]
        refine settle_safe _ _ (hkept ?_)
        simp only [Message.writes, ← hstatus, ite_eq_right_iff, reduceCtorEq, imp_false, not_and]
        intro hs hcheck
        have hp : paymentId.truthy = false := by
          simpa [hs] using hvalid
        rw [JsValue.getOptional, hget, Option.getD_some, requirePaymentId_of_falsy hp] at hcheck
        cases hcheck

/-- What handling a dead letter does to statuses. -/
theorem dlqHandler_status (content : Option JsValue) :
    ((Message.dlq content).handler case' webhooks).Safe (Call.answer W) (Discipline.alone _)
      (fun t _ => t.status id =
        (s.status id).map fun old => ((Message.dlq content).writes id).getD old) s := by
  cases content with
  | none => exact settle_safe _ _ (by simp [Message.writes])
  | some v =>
    simp only [Message.handler, dlqHandler, prop]
    cases hget : v.get "payment_id" with
    | none =>
      rintro t - rfl
      simp [Message.writes, toOption_requirePaymentId_of_get hget]
    | some paymentId =>
      have hid : v.getOptional "payment_id" = paymentId := by
        rw [JsValue.getOptional, hget, Option.getD_some]
      refine Program.Safe.bind (Program.Safe.pure ?_)
      rintro t - rfl
      refine Program.Safe.tryCatch (Program.Safe.bind
        (Program.Safe.perform_alone fun r u hcall => ?_))
      have hu : u.status id = (t.status id).map fun old =>
          ((Message.dlq (some v)).writes id).getD old := by
        rw [status_onPayments .deadLetter hcall (fun _ => rfl) id]
        congr 1
        funext old
        have hcheck : (do
            let id ← requirePaymentId paymentId
            let _ ← requireStatus .deadLetter
            return id).toOption = (requirePaymentId paymentId).toOption := by
          cases requirePaymentId paymentId <;> rfl
        rw [hcheck]
        by_cases h : (requirePaymentId paymentId).toOption = some id <;>
          simp [Message.writes, hid, h]
      cases r with
      | error e => exact settle_safe _ _ hu
      | ok row =>
        -- the calls after the update carry no status
        refine (Program.Safe.of_makes_alone (P := fun c => c.statusWrite id = none)
          (A := fun w : Store => w.status id = u.status id) ?_ ?_ rfl).mono fun w r _ hw => ?_
        · exact Program.Makes.bind (Program.makes_perform.mpr rfl) fun _ =>
            Program.makes_perform.mpr rfl
        · exact fun c s r t hc hs hcall => by rw [status_of_answer_of_none hcall hc, hs]
        · have hw' := hw.trans hu
          cases r with
          | ok _ => exact hw'
          | error e => exact settle_safe _ _ hw'

/-- What handling a message does to statuses. -/
theorem handler_safe (m : Message) :
    (m.handler case' webhooks).Safe (Call.answer W) (Discipline.alone _)
      (fun t _ => t.status id = (s.status id).map fun old => (m.writes id).getD old) s := by
  cases m with
  | ack content => exact ackConsumer_safe content
  | dlq content => exact dlqHandler_status content

/-- **The status after a delivery** is the one it carries, if the payment exists. -/
theorem status_of_delivered {l : Option Message} (h : Delivered W case' webhooks s l t)
    (id : Text) :
    t.status id = (s.status id).map fun old => (labelWrites id l).getD old := by
  cases l with
  | none =>
    obtain ⟨now, -, rfl⟩ := h
    cases hs : s.status id <;> simp_all [Store.status, labelWrites]
  | some m =>
    obtain ⟨r, heval⟩ := h
    exact (handler_safe m).eval heval

/-- A delivery that carries the status that a payment has keeps it. -/
theorem status_kept {l : Option Message} {status : PaymentStatus}
    (h : Delivered W case' webhooks s l t) (hs : s.status id = some status)
    (hl : ∀ status', labelWrites id l = some status' → status' = status) :
    t.status id = some status := by
  rw [status_of_delivered h, hs]
  cases hw : labelWrites id l with
  | none => simp
  | some status' => simp [hl status' hw]

/-- **Terminal outcomes are absorbing exactly in the sequences whose messages agree.** -/
theorem absorbing_iff {path : List (Transition Store (Option Message))}
    (h : (Delivered W case' webhooks).Run s path t) (id : Text) :
    Absorbing id path ↔ Agreeing id path := by
  constructor
  · rintro habsorb before e after content status rfl hlabel hwrites hsource e' he' status' hwrites'
    obtain ⟨-, hstep, hafter⟩ := h.split
    obtain ⟨old, hold⟩ := Option.ne_none_iff_exists'.mp hsource
    have htarget : e.target.status id = some status := by
      rw [status_of_delivered hstep, hold, hwrites]
      rfl
    have hkept := habsorb before e after status rfl ⟨⟨content, hlabel⟩, hwrites, htarget⟩ e' he'
    rw [status_of_delivered (hafter.step_of_mem he'), hwrites'] at hkept
    cases hsource' : e'.source.status id <;> simp_all
  · rintro hagree before e after status rfl ⟨⟨content, hlabel⟩, hwrites, htarget⟩
    obtain ⟨-, hstep, hafter⟩ := h.split
    have hsource : e.source.status id ≠ none := by
      intro hnone
      rw [status_of_delivered hstep, hnone] at htarget
      cases htarget
    have hlater := hagree before e after content status rfl hlabel hwrites hsource
    -- along the rest of the run every delivery agrees with the status that was set
    have hrest := hafter.induct (I := fun path t =>
        (∀ e' ∈ path, ∀ status', labelWrites id e'.label = some status' → status' = status) →
          (∀ e' ∈ path, e'.target.status id = some status) ∧ t.status id = some status)
      (fun _ => ⟨by simp, htarget⟩) fun path t l u _ ih hlast hpath => by
        obtain ⟨hall, ht⟩ := ih fun e' he' => hpath e' (List.mem_append_left _ he')
        have hu := status_kept hlast ht
          (hpath ⟨t, l, u⟩ (List.mem_append_right _ List.mem_cons_self))
        refine ⟨fun e' he' => ?_, hu⟩
        rcases List.mem_append.mp he' with he' | he'
        · exact hall e' he'
        · rw [List.mem_singleton.mp he']
          exact hu
    exact (hrest hlater).1

end Handling

/-! ### An accepted payment that is dead-lettered afterwards -/

namespace Example

/-- The consumers call no translator, normalizer or route engine. -/
def host : Host where
  toCanonical _ _ _ _ := .error .typeError
  normalize _ := .error .typeError
  resolve _ := .error .typeError
  fromCanonical _ _ := .error .typeError
  expiresAt _ := none

def id : Text := js "PMT-01ARZ3NDEKTSV4RRFFQ69G5FAV"

def payment : NewPayment where
  paymentId := id
  idempotencyKey := none
  status := .received
  originRail := .pix
  amount := .fin 100
  currency := js "BRL"
  debtorAlias := js "PIX-ana"
  debtorName := none
  creditorAlias := js "SPEI-012180000118359719"
  creditorName := none
  purpose := js "P2P"
  reference := js "MIPIT-POC"
  originPayload := js "\x7b\x7d"
  traceId := js "trace"
  createdAt := js "2026-03-13T10:30:00.000Z"

/-- Only the payment is stored. -/
def stored : Store := ⟨(create payment fun _ => none).2, [], fun _ => none, [], 0⟩

def accepted : Message := .ack (some (.object
  [("payment_id", .string id), ("trace_id", .string (js "trace")),
    ("source_rail", .string (js "SPEI")),
    ("rail_ack", .object [("status", .string (js "ACCEPTED"))])]))

def dead : Message := .dlq (some (.object
  [("payment_id", .string id), ("destination_rail", .string (js "SPEI")),
    ("retry_count", .number (.fin 3))]))

/-- The store after a message. -/
def handle (m : Message) (s : Store) : Store :=
  ((m.handler .ascii false).runWith (Call.respond host) s).2

/-- The acknowledgement, and then the dead letter. -/
def path : List (Transition Store (Option Message)) :=
  [⟨stored, some accepted, handle accepted stored⟩,
    ⟨handle accepted stored, some dead, handle dead (handle accepted stored)⟩]

theorem delivered_handle (m : Message) (s : Store) :
    Delivered host.collaborators .ascii false s (some m) (handle m s) :=
  ⟨_, Program.eval_runWith (Call.answer_respond host) _ _⟩

theorem run_path : (Delivered host.collaborators .ascii false).Run stored path
    (handle dead (handle accepted stored)) :=
  (LTS.Run.single (delivered_handle dead _)).cons (delivered_handle accepted _)

theorem not_absorbing_path : ¬ Absorbing id path := by
  intro h
  have hkept := h [] ⟨stored, some accepted, handle accepted stored⟩
    [⟨handle accepted stored, some dead, handle dead (handle accepted stored)⟩] .completed rfl
    ⟨⟨_, rfl⟩, by decide, by decide⟩ _ List.mem_cons_self
  exact absurd hkept (by decide)

end Example

/-- A dead letter moves a completed payment to DEAD_LETTER. -/
theorem completed_then_dead :
    (Delivered Example.host.collaborators .ascii false).Run Example.stored Example.path
        (Example.handle Example.dead (Example.handle Example.accepted Example.stored)) ∧
      ¬ Absorbing Example.id Example.path :=
  ⟨Example.run_path, Example.not_absorbing_path⟩

theorem absorbing_iff_path : ¬ Agreeing Example.id Example.path := fun hagree =>
  Example.not_absorbing_path ((absorbing_iff Example.run_path Example.id).mpr hagree)

end MipitCore.Messaging
