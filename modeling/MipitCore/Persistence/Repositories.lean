import Mathlib.Logic.Function.Basic
import MipitCore.Domain.Payment

/-!
# The repositories

Each method is a function from its table to an outcome and the table after it. The
updates of `payments` differ in their argument checks and in what they assign; all of
them write one existing row (`updateRow`) and write its status unconditionally, except
the update of the translated payload, which leaves the status alone.

## Main definitions

* `Payments` and the methods of `PaymentRepository`
* `AuditRepository.insert`
* `Idempotency` and the methods of `IdempotencyRepository`

## Main results

* `updateRow_error` — a failed update changes nothing
* `updateRow_ok` — a successful one changes one row
-/

namespace MipitCore.Persistence

open Js Api

/-- The table `payments`, by its primary key. -/
abbrev Payments := Text → Option PaymentRow

/-- What a method of a repository does: its outcome and the table after it. -/
abbrev Effect (τ α : Type) := Except Failure α × τ

/-! ### Argument checks -/

/-- `!id || id.trim() === ''` throws; `trim` of a value that is no string is a `TypeError`. -/
def requireText (message : String) : JsValue → Except Failure Text
  | .string s => if s = [] ∨ Text.trim s = [] then .error (.error (js message)) else .ok s
  | v => if v.truthy then .error .typeError else .error (.error (js message))

/-- The check of every method's `paymentId`. -/
def requirePaymentId (id : JsValue) : Except Failure Text :=
  requireText "Payment ID cannot be empty" id

/-- `!status || status.trim() === ''`, which no status of the program is. -/
def requireStatus (status : PaymentStatus) : Except Failure Text :=
  requireText "Status cannot be empty" (.string (js status.name))

@[simp] theorem requireStatus_ok (status : PaymentStatus) :
    requireStatus status = .ok (js status.name) := by
  cases status <;> rfl

/-- What passes the check is a string with more than blanks in it. -/
theorem requireText_eq_ok_iff {message : String} {v : JsValue} {s : Text} :
    requireText message v = .ok s ↔ v = .string s ∧ Text.trim s ≠ [] := by
  cases v with
  | string s' =>
    have hblank : s' = [] ∨ Text.trim s' = [] ↔ Text.trim s' = [] := by
      refine or_iff_right_of_imp ?_
      rintro rfl
      rfl
    rw [requireText, JsValue.string.injEq]
    simp only [hblank]
    split_ifs with htrim
    · refine iff_of_false (by simp) ?_
      rintro ⟨rfl, hne⟩
      exact hne htrim
    · rw [Except.ok.injEq]
      refine (and_iff_left_of_imp ?_).symm
      rintro rfl
      exact htrim
  | _ =>
    simp only [requireText]
    split_ifs <;> simp

theorem requireText_ok {message : String} {v : JsValue} {s : Text}
    (h : requireText message v = .ok s) : v = .string s :=
  (requireText_eq_ok_iff.mp h).1

/-- A sequence of checks that passes has passed each of them. -/
theorem bind_eq_ok {ε α β : Type} {x : Except ε α} {f : α → Except ε β} {b : β} :
    (x >>= f) = .ok b ↔ ∃ a, x = .ok a ∧ f a = .ok b := by
  cases x <;> simp [bind, Except.bind]

/-! ### `PaymentRepository` -/

/-- `INSERT_PAYMENT`; a second row with the same key is an error of the database. -/
def create (p : NewPayment) (t : Payments) : Effect Payments PaymentRow :=
  match t p.paymentId with
  | some _ => (.error (.error (js "duplicate key value violates unique constraint")), t)
  | none =>
    let row : PaymentRow :=
      { p with
        destinationRail := none, canonicalPayload := none, translatedPayload := none
        railAck := none, routeRuleApplied := none, validatedAt := none
        canonicalizedAt := none, routedAt := none, queuedAt := none, sentAt := none
        ackedAt := none, completedAt := none, failedAt := none, compensatedAt := none
        deadLetterAt := none, updatedAt := none }
    (.ok row, Function.update t p.paymentId (some row))

/-- A new row has nothing but what the payment has. -/
theorem create_ok {p : NewPayment} {t : Payments} {row : PaymentRow}
    (h : (create p t).1 = .ok row) : row.toNewPayment = p ∧ row.destinationRail = none ∧
      row.canonicalPayload = none ∧ row.translatedPayload = none ∧ row.railAck = none ∧
      row.routeRuleApplied = none := by
  unfold create at h
  split at h
  · cases h
  · cases h
    exact ⟨rfl, rfl, rfl, rfl, rfl, rfl⟩

/-- `FIND_PAYMENT_BY_ID` -/
def findById (paymentId : JsValue) (t : Payments) : Except Failure (Option PaymentRow) := do
  let id ← requirePaymentId paymentId
  return t id

/-- What `findByStatuses` may answer with: rows of the table that have one of the statuses, each of
them once, the oldest first, and no more than `limit`. -/
structure SelectsByStatuses (statuses : List PaymentStatus) (limit : ℕ) (t : Payments)
    (rows : List PaymentRow) : Prop where
  mem : ∀ row ∈ rows, row.status ∈ statuses ∧ t row.paymentId = some row
  nodup : (rows.map fun row => row.paymentId).Nodup
  sorted : rows.Pairwise fun row row' => row.createdAt ≤ row'.createdAt
  length : rows.length ≤ limit

/-- `UPDATE payments SET ... WHERE payment_id = $n RETURNING *`, and the check of its result. -/
def updateRow (id : Text) (assign : PaymentRow → PaymentRow) (t : Payments) :
    Effect Payments PaymentRow :=
  match t id with
  | none => (.error (.error (js "Payment not found: " ++ id)), t)
  | some row => (.ok (assign row), Function.update t id (some (assign row)))

/-- `UPDATE_PAYMENT_STATUS_WITH_MILESTONE_TIMESTAMPS` -/
def assignStatus (now : ℕ) (status : PaymentStatus) (row : PaymentRow) : PaymentRow :=
  { row with
    status
    validatedAt := if status = .validated then some now else row.validatedAt
    queuedAt := if status = .queued then some now else row.queuedAt
    sentAt := if status = .sentToDestination then some now else row.sentAt
    completedAt := if status = .completed then some now else row.completedAt
    failedAt := if status = .failed then some now else row.failedAt
    compensatedAt := if status = .compensated then some now else row.compensatedAt
    deadLetterAt := if status = .deadLetter then some now else row.deadLetterAt
    updatedAt := some now }

/-- `UPDATE_PAYMENT_CANONICAL_PAYLOAD` -/
def assignCanonical (now : ℕ) (canonical : CanonicalPacs008) (status : PaymentStatus)
    (row : PaymentRow) : PaymentRow :=
  { row with
    canonicalPayload := some canonical, status, canonicalizedAt := some now
    updatedAt := some now }

/-- `UPDATE_PAYMENT_ROUTE` -/
def assignRoute (now : ℕ) (destinationRail ruleName : Text) (status : PaymentStatus)
    (row : PaymentRow) : PaymentRow :=
  { row with
    destinationRail := some destinationRail, routeRuleApplied := some ruleName, status
    routedAt := some now, updatedAt := some now }

/-- `UPDATE_PAYMENT_TRANSLATED_PAYLOAD` -/
def assignTranslated (now : ℕ) (translated : JsValue) (row : PaymentRow) : PaymentRow :=
  { row with translatedPayload := some translated, updatedAt := some now }

/-- `UPDATE_RAIL_ACK` -/
def assignRailAck (now : ℕ) (railAck : JsValue) (status : PaymentStatus) (row : PaymentRow) :
    PaymentRow :=
  { row with
    railAck := some railAck, status, ackedAt := some now
    completedAt := if status = .completed then some now else row.completedAt
    updatedAt := some now }

/-- The checks of a method, and then its update. -/
def checked {τ α β : Type} (check : Except Failure α) (update : α → τ → Effect τ β) (t : τ) :
    Effect τ β :=
  match check with
  | .error e => (.error e, t)
  | .ok a => update a t

def updateStatus (now : ℕ) (paymentId : JsValue) (status : PaymentStatus) :
    Payments → Effect Payments PaymentRow :=
  checked (do let id ← requirePaymentId paymentId; let _ ← requireStatus status; return id)
    fun id => updateRow id (assignStatus now status)

/-- A canonical message is an object, so `!canonical` is never true. -/
def updateCanonical (now : ℕ) (paymentId : JsValue) (canonical : CanonicalPacs008)
    (status : PaymentStatus) : Payments → Effect Payments PaymentRow :=
  checked (requirePaymentId paymentId) fun id =>
    updateRow id (assignCanonical now canonical status)

def updateRoute (now : ℕ) (paymentId : JsValue) (destinationRail ruleName : Text)
    (status : PaymentStatus) : Payments → Effect Payments PaymentRow :=
  checked (do
      let id ← requirePaymentId paymentId
      let _ ← requireText "Destination rail cannot be empty" (.string destinationRail)
      let _ ← requireText "Rule name cannot be empty" (.string ruleName)
      return id)
    fun id => updateRow id (assignRoute now destinationRail ruleName status)

def updateTranslated (now : ℕ) (paymentId : JsValue) (translated : JsValue) :
    Payments → Effect Payments PaymentRow :=
  checked (do
      let id ← requirePaymentId paymentId
      if translated.truthy then return id
      else throw (.error (js "Translated payload cannot be empty")))
    fun id => updateRow id (assignTranslated now translated)

def updateRailAck (now : ℕ) (paymentId railAck : JsValue) (status : PaymentStatus) :
    Payments → Effect Payments PaymentRow :=
  checked (do
      let id ← requirePaymentId paymentId
      if railAck.truthy then
        let _ ← requireStatus status
        return id
      else throw (.error (js "Rail ACK response cannot be empty")))
    fun id => updateRow id (assignRailAck now railAck status)

theorem updateRow_error {id : Text} {assign : PaymentRow → PaymentRow} {t t' : Payments}
    {e : Failure} (h : updateRow id assign t = (.error e, t')) : t' = t := by
  unfold updateRow at h
  split at h
  · exact (Prod.mk.inj h).2.symm
  · cases (Prod.mk.inj h).1

theorem updateRow_ok {id : Text} {assign : PaymentRow → PaymentRow} {t t' : Payments}
    {row' : PaymentRow} (h : updateRow id assign t = (.ok row', t')) :
    ∃ row, t id = some row ∧ row' = assign row ∧ t' = Function.update t id (some row') := by
  unfold updateRow at h
  split at h
  · cases (Prod.mk.inj h).1
  · next row hrow =>
    obtain ⟨hout, rfl⟩ := Prod.mk.inj h
    obtain rfl := Except.ok.inj hout
    exact ⟨row, hrow, rfl, rfl⟩

theorem checked_ok {τ α β : Type} {check : Except Failure α} {update : α → τ → Effect τ β}
    {t t' : τ} {b : β} (h : checked check update t = (.ok b, t')) :
    ∃ a, check = .ok a ∧ update a t = (.ok b, t') := by
  cases check with
  | error e => cases (Prod.mk.inj h).1
  | ok a => exact ⟨a, rfl, h⟩

theorem checked_error {τ α β : Type} {check : Except Failure α} {update : α → τ → Effect τ β}
    (hupdate : ∀ a t t' e, update a t = (.error e, t') → t' = t)
    {t t' : τ} {e : Failure} (h : checked check update t = (.error e, t')) : t' = t := by
  cases check with
  | error e' => exact (Prod.mk.inj h).2.symm
  | ok a => exact hupdate a t t' e h

/-! ### `AuditRepository` -/

/-- `AuditRepository.insert` -/
def insertAudit (event : AuditEvent) (t : List AuditEvent) : Effect (List AuditEvent) Unit :=
  checked (do
      let _ ← requirePaymentId event.paymentId
      let _ ← requireText "Event type cannot be empty" (.string (js event.eventType))
      let _ ← requireText "Actor cannot be empty" (.string event.actor)
      if event.detail = [] then throw (.error (js "Event detail cannot be empty")))
    (fun _ t => (.ok (), t ++ [event])) t

/-! ### `IdempotencyRepository` -/

/-- The table `idempotency_keys`, by its unique key. -/
abbrev Idempotency := Text → Option IdempotencyRecord

/-- `FIND_IDEMPOTENCY_BY_KEY`: `expires_at > NOW()`, which is not true of a null. -/
def findByKey (now : ℕ) (key : Text) (t : Idempotency) : Option IdempotencyRecord :=
  (t key).filter fun record =>
    match record.expiresAt with
    | none => false
    | some expiresAt => now < expiresAt

/-- `INSERT_IDEMPOTENCY` with `ON CONFLICT DO NOTHING`; whether a row was inserted. -/
def tryInsert (record : IdempotencyRecord) (t : Idempotency) : Bool × Idempotency :=
  match t record.idempotencyKey with
  | some _ => (false, t)
  | none => (true, Function.update t record.idempotencyKey (some record))

theorem tryInsert_of_none {record : IdempotencyRecord} {t : Idempotency}
    (h : t record.idempotencyKey = none) :
    tryInsert record t = (true, Function.update t record.idempotencyKey (some record)) := by
  simp [tryInsert, h]

theorem tryInsert_of_some {record existing : IdempotencyRecord} {t : Idempotency}
    (h : t record.idempotencyKey = some existing) : tryInsert record t = (false, t) := by
  simp [tryInsert, h]

/-- `UPDATE_IDEMPOTENCY_RESPONSE` -/
def updateResponse (key : Text) (status : ℕ) (body : PaymentResponse) (t : Idempotency) :
    Idempotency :=
  Function.update t key ((t key).map fun record =>
    { record with responseStatus := some status, responseBody := some body })

end MipitCore.Persistence
