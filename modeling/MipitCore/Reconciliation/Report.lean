import MipitCore.Domain.Failure
import MipitCore.Foundation.Entries
import MipitCore.Js.Value
import MipitCore.Resilience.CircuitBreaker

/-!
# The reconciliation report

`runReconciliation` reads the payments since a cutoff and goes through them once. Each payment is
counted under its status, and is listed as stuck if it has been queued for too long; it is counted
once more under its destination rail; and it is listed as an anomaly if it was created too long ago
and is still canonicalized or routed.

The rows come from the driver: a timestamp is a date or a string, or is missing, and the status is
any string.

## Main definitions

* `PaymentIntent`, `Timestamp` — the rows
* `countStatus`, `breakDown`, `detectAnomaly`, `reconcile` — the loop
* `runReconciliation`
* `isStuck`, `isStalled`, `reportOf` — what a report consists of

## Main results

* `foldlM_reconcile` — the loop, part by part
* `runReconciliation_eq_ok_iff` — the report
-/

namespace MipitCore

open Js

/-- The status that a stored string names. -/
def PaymentStatus.ofText (s : Text) : Option PaymentStatus :=
  [received, validated, canonicalized, normalized, routed, queued, sentToDestination, ackedByRail,
    completed, failed, rejected, duplicate, compensating, compensated, deadLetter].find?
    fun status => js status.name = s

theorem PaymentStatus.ofText_eq_some_iff {s : Text} {status : PaymentStatus} :
    PaymentStatus.ofText s = some status ↔ s = js status.name := by
  constructor
  · intro h
    have hfound := List.find?_some h
    exact (of_decide_eq_true hfound).symm
  · rintro rfl
    cases status <;> decide

namespace Reconciliation

open Foundation Resilience

/-! ### Rows and options -/

/-- A timestamp of a row: a string, or a `Date` with its time value if it is valid. -/
inductive Timestamp
  | text (s : Text)
  | date (time : Option ℤ)
  deriving DecidableEq

namespace Timestamp

/-- Whether a timestamp that is there is truthy. -/
def truthy : Timestamp → Bool
  | text s => s ≠ []
  | date _ => true

/-- `new Date(t).getTime()`, given `Date.parse`. -/
def getTime (parse : Text → Option ℤ) : Timestamp → Number
  | text s => (parse s).elim .nan fun time => .fin time
  | date time => time.elim .nan fun time => .fin time

end Timestamp

/-- What is read of a row of `payments`. -/
structure PaymentIntent where
  paymentId : Text
  status : Text
  originRail : Text
  destinationRail : Option Text
  createdAt : Option Timestamp
  queuedAt : Option Timestamp
  completedAt : Option Timestamp

/-- The timestamp, if it is there and truthy. -/
def given (timestamp : Option Timestamp) : Option Timestamp := timestamp.filter Timestamp.truthy

/-- `options`. A setting that is left out has its default; one that is `undefined` computes as `NaN`
does. -/
structure ReconciliationOptions where
  windowHours : Option Number := none
  stuckThresholdMinutes : Option Number := none

/-- `{ ...DEFAULT_OPTIONS, ...options }.windowHours` -/
def ReconciliationOptions.window (options : ReconciliationOptions) : Number :=
  options.windowHours.getD (.fin 24)

/-- `stuckThresholdMs` -/
def ReconciliationOptions.stuckThresholdMs (options : ReconciliationOptions) : Number :=
  ((options.stuckThresholdMinutes.getD (.fin 15)).mul (.fin 60)).mul (.fin 1000)

/-- What the host is asked for: `Date.parse`, and the clock before the rows are read, after that,
and at the end. -/
structure Host where
  parse : Text → Option ℤ
  startedAt : ℤ
  now : ℤ
  generatedAt : ℤ

/-! ### The report -/

structure Summary where
  totalPayments : ℕ
  completed : ℕ := 0
  failed : ℕ := 0
  rejected : ℕ := 0
  stuckInQueue : ℕ := 0
  deadLetter : ℕ := 0
  compensated : ℕ := 0
  deriving DecidableEq

structure StuckPayment where
  paymentId : Text
  status : Text
  originRail : Text
  destinationRail : Option Text
  queuedAt : Option Timestamp
  stuckMinutes : Number
  deriving DecidableEq

structure Anomaly where
  type : Text
  paymentId : Text
  description : Text
  deriving DecidableEq

/-- An entry of `railStats`. -/
structure RailStats where
  sent : ℕ := 0
  completed : ℕ := 0
  failed : ℕ := 0
  rejected : ℕ := 0
  latencies : List Number := []

/-- An entry of `rail_breakdown`. -/
structure RailBreakdown where
  sent : ℕ
  completed : ℕ
  failed : ℕ
  rejected : ℕ
  successRate : Number
  avgLatencyMs : Option Number
  deriving DecidableEq

structure ReconciliationReport where
  /-- The time value of the date. -/
  generatedAt : ℤ
  windowHours : Number
  summary : Summary
  stuckPayments : List StuckPayment
  railBreakdown : List (Text × RailBreakdown)
  anomalies : List Anomaly
  deriving DecidableEq

/-- What `runReconciliation` throws: `toISOString` of what is no date, or what the query or the
language throws. -/
inductive Thrown
  | rangeError
  | failure (err : Failure)
  deriving DecidableEq

/-! ### The loop -/

/-- The variables of the loop. -/
structure LoopState where
  summary : Summary
  stuckPayments : List StuckPayment := []
  anomalies : List Anomaly := []
  railStats : List (Text × RailStats) := []

section

variable (host : Host) (stuckThresholdMs : Number)

/-- `PAYMENT_STATUS` of a row. -/
def PaymentIntent.known (payment : PaymentIntent) : Option PaymentStatus :=
  PaymentStatus.ofText payment.status

/-- `queuedAt`, with `0` for none. -/
def queuedTime (payment : PaymentIntent) : Number :=
  (given payment.queuedAt).elim (.fin 0) (Timestamp.getTime host.parse)

/-- `stuckMs` -/
def stuckMs (payment : PaymentIntent) : Number := (Number.fin host.now).sub (queuedTime host payment)

/-- `queuedAt > 0 && stuckMs > stuckThresholdMs` -/
def waitsTooLong (payment : PaymentIntent) : Bool :=
  (Number.fin 0).lt (queuedTime host payment) && stuckThresholdMs.lt (stuckMs host payment)

/-- The entry of `stuck_payments` for a payment. -/
def stuckPayment (payment : PaymentIntent) : StuckPayment where
  paymentId := payment.paymentId
  status := payment.status
  originRail := payment.originRail
  destinationRail := payment.destinationRail
  queuedAt := payment.queuedAt
  stuckMinutes := ((stuckMs host payment).div (.fin 60000)).round

/-- Count by status. -/
def countStatus (s : LoopState) (payment : PaymentIntent) : LoopState :=
  match payment.known with
  | some .completed => { s with summary.completed := s.summary.completed + 1 }
  | some .failed => { s with summary.failed := s.summary.failed + 1 }
  | some .rejected => { s with summary.rejected := s.summary.rejected + 1 }
  | some .deadLetter => { s with summary.deadLetter := s.summary.deadLetter + 1 }
  | some .compensated => { s with summary.compensated := s.summary.compensated + 1 }
  | some .queued | some .sentToDestination =>
    if waitsTooLong host stuckThresholdMs payment then
      { s with
        summary.stuckInQueue := s.summary.stuckInQueue + 1
        stuckPayments := s.stuckPayments ++ [stuckPayment host payment] }
    else s
  | _ => s

/-- `payment.destination_rail ?? 'UNKNOWN'` -/
def destRail (payment : PaymentIntent) : Text := payment.destinationRail.getD (js "UNKNOWN")

/-- The latency, if both of its timestamps are there. -/
def latency (payment : PaymentIntent) : Option Number := do
  let created ← given payment.createdAt
  let completed ← given payment.completedAt
  return (completed.getTime host.parse).sub (created.getTime host.parse)

/-- The entry of a rail with one more payment. -/
def RailStats.count (payment : PaymentIntent) (stats : RailStats) : RailStats :=
  let stats := { stats with sent := stats.sent + 1 }
  match payment.known with
  | some .completed =>
    { stats with
      completed := stats.completed + 1
      latencies := stats.latencies ++ (latency host payment).toList }
  | some .failed => { stats with failed := stats.failed + 1 }
  | some .rejected => { stats with rejected := stats.rejected + 1 }
  | _ => stats

/-- The breakdown by rail. Under an inherited name no entry is made: the counters that change are
those of the inherited function, which has no `latencies`. -/
def breakDown (railStats : List (Text × RailStats)) (payment : PaymentIntent) :
    Except Thrown (List (Text × RailStats)) :=
  if isInherited (destRail payment) then
    if payment.known = some .completed ∧ (latency host payment).isSome then
      .error (.failure .typeError)
    else .ok railStats
  else .ok (Entries.update (destRail payment)
    (fun stats => RailStats.count host payment (stats.getD {})) railStats)

/-- The age of a payment, if it is known when it was created. -/
def age (payment : PaymentIntent) : Option Number :=
  (given payment.createdAt).map fun created =>
    (Number.fin host.now).sub (created.getTime host.parse)

/-- `age > stuckThresholdMs` -/
def staysTooLong (payment : PaymentIntent) : Bool :=
  (age host payment).any stuckThresholdMs.lt

/-- The entry of `anomalies` for a payment. -/
def stalledPipeline (payment : PaymentIntent) : Anomaly where
  type := js "STALLED_PIPELINE"
  paymentId := payment.paymentId
  description := js "Payment stuck in " ++ payment.status ++ js " for " ++
    ((((age host payment).getD .nan).div (.fin 60000)).round).toText ++ js " minutes"

/-- Anomaly detection. -/
def detectAnomaly (s : LoopState) (payment : PaymentIntent) : LoopState :=
  match payment.known with
  | some .canonicalized | some .routed =>
    if staysTooLong host stuckThresholdMs payment then
      { s with anomalies := s.anomalies ++ [stalledPipeline host payment] }
    else s
  | _ => s

/-- The body of the loop. -/
def reconcile (s : LoopState) (payment : PaymentIntent) : Except Thrown LoopState := do
  let s := countStatus host stuckThresholdMs s payment
  let railStats ← breakDown host s.railStats payment
  return detectAnomaly host stuckThresholdMs { s with railStats } payment

end

/-! ### The run -/

/-- The average of the latencies, rounded. -/
def avgLatency (latencies : List Number) : Option Number :=
  if 0 < latencies.length then
    some ((latencies.foldl Number.add (.fin 0)).div (.fin latencies.length)).round
  else none

/-- The entry of the breakdown for the entry of a rail. -/
def railBreakdownOf (stats : RailStats) : RailBreakdown where
  sent := stats.sent
  completed := stats.completed
  failed := stats.failed
  rejected := stats.rejected
  successRate :=
    if 0 < stats.sent then
      (((Number.fin stats.completed).div (.fin stats.sent)).mul (.fin 100)).round
    else .fin 0
  avgLatencyMs := avgLatency stats.latencies

/-- `Date.now() - opts.windowHours * 60 * 60 * 1000` as the time value of a date. -/
def cutoff (options : ReconciliationOptions) (host : Host) : Option ℤ :=
  timeClip ((Number.fin host.startedAt).sub
    (((options.window.mul (.fin 60)).mul (.fin 60)).mul (.fin 1000)))

/-- `runReconciliation(options)`, given how the repository answers `findSince`. -/
def runReconciliation (findSince : ℤ → Except Failure (List PaymentIntent)) (host : Host)
    (options : ReconciliationOptions) : Except Thrown ReconciliationReport := do
  let since ← (cutoff options host).elim (.error .rangeError) .ok
  let payments ← (findSince since).mapError .failure
  let s ← payments.foldlM (reconcile host options.stuckThresholdMs)
    { summary := { totalPayments := payments.length } }
  return {
    generatedAt := host.generatedAt
    windowHours := options.window
    summary := s.summary
    stuckPayments := s.stuckPayments
    railBreakdown := s.railStats.map fun entry => (entry.1, railBreakdownOf entry.2)
    anomalies := s.anomalies }

/-! ### The loop, part by part -/

section

variable (host : Host) (stuckThresholdMs : Number)

/-- Queued or sent, and for too long. -/
def isStuck (payment : PaymentIntent) : Bool :=
  (payment.known = some .queued || payment.known = some .sentToDestination) &&
    waitsTooLong host stuckThresholdMs payment

/-- Canonicalized or routed, and created too long ago. -/
def isStalled (payment : PaymentIntent) : Bool :=
  (payment.known = some .canonicalized || payment.known = some .routed) &&
    staysTooLong host stuckThresholdMs payment

/-- The summary when `payments` have been counted as well. -/
def Summary.counting (payments : List PaymentIntent) (summary : Summary) : Summary where
  totalPayments := summary.totalPayments
  completed := summary.completed + payments.countP fun p => p.known = some .completed
  failed := summary.failed + payments.countP fun p => p.known = some .failed
  rejected := summary.rejected + payments.countP fun p => p.known = some .rejected
  stuckInQueue := summary.stuckInQueue + payments.countP (isStuck host stuckThresholdMs)
  deadLetter := summary.deadLetter + payments.countP fun p => p.known = some .deadLetter
  compensated := summary.compensated + payments.countP fun p => p.known = some .compensated

/-- The variables after `payments`, with the entries of the rails. -/
def LoopState.after (payments : List PaymentIntent) (s : LoopState)
    (railStats : List (Text × RailStats)) : LoopState where
  summary := s.summary.counting host stuckThresholdMs payments
  stuckPayments := s.stuckPayments ++
    (payments.filter (isStuck host stuckThresholdMs)).map (stuckPayment host)
  anomalies := s.anomalies ++
    (payments.filter (isStalled host stuckThresholdMs)).map (stalledPipeline host)
  railStats

variable {host stuckThresholdMs} {s : LoopState}

theorem countStatus_eq (s : LoopState) (payment : PaymentIntent) :
    countStatus host stuckThresholdMs s payment =
      { s with
        summary := s.summary.counting host stuckThresholdMs [payment]
        stuckPayments := s.stuckPayments ++
          ([payment].filter (isStuck host stuckThresholdMs)).map (stuckPayment host) } := by
  unfold countStatus
  cases hknown : payment.known with
  | none => simp [Summary.counting, isStuck, hknown]
  | some status =>
    cases status with
    | queued | sentToDestination =>
      cases hwaits : waitsTooLong host stuckThresholdMs payment <;>
        simp [Summary.counting, isStuck, hknown, hwaits]
    | _ => simp [Summary.counting, isStuck, hknown]

theorem detectAnomaly_eq (s : LoopState) (payment : PaymentIntent) :
    detectAnomaly host stuckThresholdMs s payment =
      { s with
        anomalies := s.anomalies ++
          ([payment].filter (isStalled host stuckThresholdMs)).map (stalledPipeline host) } := by
  unfold detectAnomaly
  cases hknown : payment.known with
  | none => simp [isStalled, hknown]
  | some status =>
    cases status with
    | canonicalized | routed =>
      cases hstays : staysTooLong host stuckThresholdMs payment <;>
        simp [isStalled, hknown, hstays]
    | _ => simp [isStalled, hknown]

theorem reconcile_eq (s : LoopState) (payment : PaymentIntent) :
    reconcile host stuckThresholdMs s payment =
      (breakDown host s.railStats payment).map (s.after host stuckThresholdMs [payment]) := by
  rw [reconcile, countStatus_eq]
  cases breakDown host s.railStats payment with
  | error err => rfl
  | ok railStats =>
    refine congrArg Except.ok ?_
    rw [detectAnomaly_eq]
    rfl

theorem after_nil (s : LoopState) : s.after host stuckThresholdMs [] s.railStats = s := by
  simp [LoopState.after, Summary.counting]

theorem after_after (payment : PaymentIntent) (payments : List PaymentIntent)
    (railStats railStats' : List (Text × RailStats)) :
    (s.after host stuckThresholdMs [payment] railStats).after host stuckThresholdMs payments
      railStats' = s.after host stuckThresholdMs (payment :: payments) railStats' := by
  have hcons : payment :: payments = [payment] ++ payments := rfl
  rw [hcons]
  simp only [LoopState.after, Summary.counting, List.countP_append, List.filter_append,
    List.map_append, List.append_assoc, Nat.add_assoc]

/-- **The loop, part by part**: what throws is the breakdown by rail, and the rest is counted and
listed as if it were alone. -/
theorem foldlM_reconcile (payments : List PaymentIntent) (s : LoopState) :
    payments.foldlM (reconcile host stuckThresholdMs) s =
      (payments.foldlM (breakDown host) s.railStats).map
        (s.after host stuckThresholdMs payments) := by
  -- the induction is on the payments, for all that the loop may have counted before
  induction payments generalizing s with
  | nil => exact congrArg Except.ok (after_nil s).symm
  | cons payment payments ih =>
    rw [List.foldlM_cons, List.foldlM_cons, reconcile_eq]
    cases breakDown host s.railStats payment with
    | error err => rfl
    | ok railStats =>
      refine (ih (s.after host stuckThresholdMs [payment] railStats)).trans ?_
      exact congrArg (Except.map · _) (funext (after_after payment payments railStats))

/-- The report on `payments`, with the entries of the rails. -/
def reportOf (host : Host) (options : ReconciliationOptions) (payments : List PaymentIntent)
    (railStats : List (Text × RailStats)) : ReconciliationReport where
  generatedAt := host.generatedAt
  windowHours := options.window
  summary := Summary.counting host options.stuckThresholdMs payments
    { totalPayments := payments.length }
  stuckPayments :=
    (payments.filter (isStuck host options.stuckThresholdMs)).map (stuckPayment host)
  railBreakdown := railStats.map fun entry => (entry.1, railBreakdownOf entry.2)
  anomalies :=
    (payments.filter (isStalled host options.stuckThresholdMs)).map (stalledPipeline host)

variable {findSince : ℤ → Except Failure (List PaymentIntent)} {options : ReconciliationOptions}
  {report : ReconciliationReport}

theorem runReconciliation_eq {since : ℤ} {payments : List PaymentIntent}
    (hsince : cutoff options host = some since) (hfind : findSince since = .ok payments) :
    runReconciliation findSince host options =
      (payments.foldlM (breakDown host) []).map (reportOf host options payments) := by
  simp only [runReconciliation, hsince, Option.elim_some, bind, Except.bind, hfind,
    Except.mapError, foldlM_reconcile]
  cases payments.foldlM (breakDown host) [] with
  | error err => rfl
  | ok railStats => rfl

/-- **A run that returns** has asked for the payments since a date, and reports on them. -/
theorem runReconciliation_eq_ok_iff :
    runReconciliation findSince host options = .ok report ↔
      ∃ since payments railStats, cutoff options host = some since ∧
        findSince since = .ok payments ∧ payments.foldlM (breakDown host) [] = .ok railStats ∧
        report = reportOf host options payments railStats := by
  constructor
  · intro h
    cases hsince : cutoff options host with
    | none =>
      rw [runReconciliation, hsince] at h
      cases h
    | some since =>
      cases hfind : findSince since with
      | error err =>
        simp only [runReconciliation, hsince, Option.elim_some, bind, Except.bind, hfind,
          Except.mapError] at h
        cases h
      | ok payments =>
        rw [runReconciliation_eq hsince hfind] at h
        cases hrails : payments.foldlM (breakDown host) [] with
        | error err =>
          rw [hrails] at h
          cases h
        | ok railStats =>
          rw [hrails] at h
          exact ⟨since, payments, railStats, rfl, hfind, hrails, (Except.ok.inj h).symm⟩
  · rintro ⟨since, payments, railStats, hsince, hfind, hrails, rfl⟩
    rw [runReconciliation_eq hsince hfind, hrails]
    rfl

end

end Reconciliation

end MipitCore
