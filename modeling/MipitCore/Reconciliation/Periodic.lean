import Mathlib.Algebra.Order.Archimedean.Basic
import MipitCore.Reconciliation.Stalled

/-!
# The periodic reconciliation

Every thirty minutes a run looks at the payments that were created in the last hour, and lists those
that have been queued for more than fifteen minutes. A payment that is queued within fifteen minutes
of its creation is late for the last half of its first hour, and within any half hour there is a run.

The database keeps instants in fractions of a millisecond, of which the driver keeps the
milliseconds. The comparisons are strict where this could matter, so it does not.

## Main definitions

* `StoredPayment`, `IsAnswer` — the table, and what the query may answer
* `Periodic`, `Periodic.runAt` — the runs at `t0 + k * 30` minutes
* `Periodic.StaysQueued`, `Periodic.Succeeds`

## Main results

* `Periodic.cutoff_eq` — a run looks back one hour
* `Periodic.mem_stuck_iff`
* `Periodic.leaves_no_gap`
-/

namespace MipitCore.Reconciliation

open Js
open Resilience (timeClip)

/-- A row of `payments`; an instant is in milliseconds since the epoch. -/
structure StoredPayment where
  paymentId : Text
  status : Text
  originRail : Text
  destinationRail : Option Text
  createdAt : ℚ
  queuedAt : Option ℚ
  completedAt : Option ℚ

/-- The row as the driver hands it over, which makes a date of an instant. -/
def StoredPayment.toIntent (dateOf : ℚ → Timestamp) (payment : StoredPayment) : PaymentIntent where
  paymentId := payment.paymentId
  status := payment.status
  originRail := payment.originRail
  destinationRail := payment.destinationRail
  createdAt := some (dateOf payment.createdAt)
  queuedAt := payment.queuedAt.map dateOf
  completedAt := payment.completedAt.map dateOf

/-- An answer to
`SELECT * FROM payments WHERE created_at >= $1 ORDER BY created_at DESC`. -/
structure IsAnswer (table : List StoredPayment) (since : ℤ) (rows : List StoredPayment) : Prop where
  perm : List.Perm rows (table.filter fun payment => decide (since ≤ payment.createdAt))
  sorted : rows.Pairwise fun payment payment' => payment'.createdAt ≤ payment.createdAt

/-- Runs from `t0` on and before, the table at each instant, what the database answers to a query,
which are the rows that it asks for, if anything, and the driver's dates, which keep the whole
milliseconds of an instant. -/
structure Periodic where
  t0 : ℤ
  parse : Text → Option ℤ
  table : ℤ → List StoredPayment
  findSince : ℤ → ℤ → Except Failure (List StoredPayment)
  answers : ∀ now since rows, findSince now since = .ok rows → IsAnswer (table now) since rows
  dateOf : ℚ → Timestamp
  dateOf_eq : ∀ instant, dateOf instant = .date (some ⌊instant⌋)

namespace Periodic

/-- When the run `k` takes place: `setInterval(..., 30 * 60_000)`. -/
def time (p : Periodic) (k : ℤ) : ℤ := p.t0 + k * 1800000

/-- `{ windowHours: 1, stuckThresholdMinutes: 15 }` -/
def options : ReconciliationOptions where
  windowHours := some (.fin 1)
  stuckThresholdMinutes := some (.fin 15)

/-- The host, in a run during which the clock stands. -/
def host (p : Periodic) (now : ℤ) : Host := ⟨p.parse, now, now, now⟩

/-- The run at `now`. -/
def runAt (p : Periodic) (now : ℤ) : Except Thrown ReconciliationReport :=
  runReconciliation
    (fun since => (p.findSince now since).map (List.map (StoredPayment.toIntent p.dateOf)))
    (p.host now) options

/-- From `q` until `until'`, the payment `id`, created at `c`, is queued, and was queued at `q`. -/
def StaysQueued (p : Periodic) (id : Text) (c q until' : ℚ) : Prop :=
  ∀ now : ℤ, q ≤ now → now ≤ until' → ∃ payment ∈ p.table now,
    payment.paymentId = id ∧ payment.status = js "QUEUED" ∧ payment.createdAt = c ∧
      payment.queuedAt = some q

/-- Every run after `q` and until `until'` succeeds. -/
def Succeeds (p : Periodic) (q until' : ℚ) : Prop :=
  ∀ k, q ≤ p.time k → p.time k ≤ until' → ∃ report, p.runAt (p.time k) = .ok report

section

variable {p : Periodic} {now : ℤ} {report : ReconciliationReport}

theorem stuckThresholdMs_options : options.stuckThresholdMs = .fin 900000 := by
  decide +kernel

/-- A run asks for the payments of the last hour, if the clock reads a date. -/
theorem cutoff_eq_some_iff {since : ℤ} :
    cutoff options (p.host now) = some since ↔
      |(now : ℚ) - 3600000| ≤ 8640000000000000 ∧ since = now - 3600000 := by
  have hwindow : (((options.window.mul (.fin 60)).mul (.fin 60)).mul (.fin 1000)) =
      .fin 3600000 := by decide +kernel
  have hcast : (now : ℚ) - 3600000 = ((now - 3600000 : ℤ) : ℚ) := by push_cast; rfl
  rw [cutoff, hwindow]
  simp only [host, Number.sub_fin, timeClip]
  rw [hcast]
  simp only [Int.floor_intCast, Int.ceil_intCast, ite_self]
  split_ifs with hdate
  · exact ⟨fun h => ⟨hdate, (Option.some.inj h).symm⟩, fun h => congrArg some h.2.symm⟩
  · constructor
    · intro h
      cases h
    · exact fun h => absurd h.1 hdate

/-- What a run has read, and reported. -/
theorem runAt_eq_ok (h : p.runAt now = .ok report) :
    ∃ rows railStats, IsAnswer (p.table now) (now - 3600000) rows ∧
      report =
        reportOf (p.host now) options (rows.map (StoredPayment.toIntent p.dateOf)) railStats := by
  obtain ⟨since, payments, railStats, hsince, hfind, -, rfl⟩ := runReconciliation_eq_ok_iff.mp h
  obtain ⟨-, rfl⟩ := cutoff_eq_some_iff.mp hsince
  cases hrows : p.findSince now (now - 3600000) with
  | error err =>
    rw [hrows] at hfind
    cases hfind
  | ok rows =>
    rw [hrows] at hfind
    cases hfind
    exact ⟨rows, railStats, p.answers _ _ _ hrows, rfl⟩

/-- A stored payment that is queued, or sent, is stuck when it has been queued, after the epoch, for
more than fifteen minutes. -/
theorem isStuck_toIntent_iff {payment : StoredPayment} :
    isStuck (p.host now) options.stuckThresholdMs (payment.toIntent p.dateOf) = true ↔
      (payment.status = js "QUEUED" ∨ payment.status = js "SENT_TO_DESTINATION") ∧
        ∃ q ∈ payment.queuedAt, 1 ≤ q ∧ 900000 < now - q := by
  have hpassed (q : ℚ) : passed now options.stuckThresholdMs ⌊q⌋ ↔ 900000 < now - q := by
    rw [passed, stuckThresholdMs_options, Number.lt, decide_eq_true_iff]
    -- the clock reads whole milliseconds, so the fraction of `q` does not matter
    have hfloor : (900000 : ℚ) < now - ⌊q⌋ ↔ ⌊q⌋ < now - 900000 := by
      rw [← Int.cast_lt (R := ℚ)]
      push_cast
      constructor <;> intro h <;> linarith
    rw [hfloor, Int.floor_lt]
    push_cast
    constructor <;> intro h <;> linarith
  rw [isStuck_iff]
  refine and_congr Iff.rfl ?_
  have htime : timeOf (p.host now).parse (payment.toIntent p.dateOf).queuedAt =
      payment.queuedAt.map Int.floor := by
    change timeOf (p.host now).parse (payment.queuedAt.map p.dateOf) = _
    cases payment.queuedAt with
    | none => rfl
    | some q =>
      rw [Option.map_some, p.dateOf_eq]
      rfl
  rw [htime]
  cases payment.queuedAt with
  | none => simp
  | some q =>
    simp only [Option.map_some, Option.mem_some_iff, exists_eq_left', Int.floor_pos]
    exact and_congr Iff.rfl (hpassed q)

/-- **What a run lists as stuck**: of the payments that were created in the last hour, those that
are queued or sent, and have been queued for more than fifteen minutes. -/
theorem mem_stuck_iff (h : p.runAt now = .ok report) {entry : StuckPayment} :
    entry ∈ report.stuckPayments ↔ ∃ payment ∈ p.table now,
      entry = stuckPayment (p.host now) (payment.toIntent p.dateOf) ∧
      now - 3600000 ≤ payment.createdAt ∧
      (payment.status = js "QUEUED" ∨ payment.status = js "SENT_TO_DESTINATION") ∧
        ∃ q ∈ payment.queuedAt, 1 ≤ q ∧ 900000 < now - q := by
  obtain ⟨rows, railStats, hanswer, rfl⟩ := runAt_eq_ok h
  have hmem (payment : StoredPayment) :
      payment ∈ rows ↔ payment ∈ p.table now ∧ now - 3600000 ≤ payment.createdAt := by
    rw [hanswer.perm.mem_iff, List.mem_filter, decide_eq_true_iff]
    push_cast
    rfl
  simp only [reportOf, List.filter_map, List.map_map, List.mem_map, List.mem_filter,
    Function.comp_apply, isStuck_toIntent_iff, hmem]
  constructor
  · rintro ⟨payment, ⟨⟨htable, hcreated⟩, hstatus, hqueued⟩, rfl⟩
    exact ⟨payment, htable, rfl, hcreated, hstatus, hqueued⟩
  · rintro ⟨payment, htable, rfl, hcreated, hstatus, hqueued⟩
    exact ⟨payment, ⟨⟨htable, hcreated⟩, hstatus, hqueued⟩, rfl⟩

/-- **The periodic reconciliation leaves no gap**: a payment that is queued, after the epoch, within
fifteen minutes of its creation, and stays so for the rest of the hour, is listed by one of the runs
of that hour; and whatever a run lists has been queued for more than fifteen minutes. -/
theorem leaves_no_gap (p : Periodic) :
    (∀ (id : Text) (c q : ℚ), 1 ≤ q → c ≤ q → q ≤ c + 900000 →
      p.StaysQueued id c q (c + 3600000) → p.Succeeds q (c + 3600000) →
        ∃ k report, p.runAt (p.time k) = .ok report ∧
          id ∈ report.stuckPayments.map StuckPayment.paymentId) ∧
    ∀ k report, p.runAt (p.time k) = .ok report → ∀ entry ∈ report.stuckPayments,
      ∃ payment ∈ p.table (p.time k),
        entry = stuckPayment (p.host (p.time k)) (payment.toIntent p.dateOf) ∧
          ∃ q ∈ payment.queuedAt, 900000 < p.time k - q := by
  constructor
  · intro id c q hepoch _ hqc hstays hsucceeds
    -- a run takes place within the last thirty minutes of the hour
    obtain ⟨k, ⟨hafter, hbefore⟩, -⟩ :=
      existsUnique_add_zsmul_mem_Ioc (by norm_num : (0 : ℚ) < 1800000) p.t0 (c + 1800000)
    have htime : (p.t0 : ℚ) + k • 1800000 = p.time k := by
      rw [time, zsmul_eq_mul]
      push_cast
      rfl
    rw [htime] at hafter hbefore
    have hq : q ≤ p.time k := by linarith
    have hhour : (p.time k : ℚ) ≤ c + 3600000 := by linarith
    obtain ⟨report, hrun⟩ := hsucceeds k hq hhour
    obtain ⟨payment, htable, rfl, hstatus, rfl, hqueued⟩ := hstays (p.time k) hq hhour
    -- by then it has been queued for more than fifteen minutes, and its hour is not over
    refine ⟨k, report, hrun, List.mem_map.mpr
      ⟨stuckPayment (p.host (p.time k)) (payment.toIntent p.dateOf),
        (mem_stuck_iff hrun).mpr ⟨payment, htable, rfl, ?_, .inl hstatus, q, hqueued, hepoch, ?_⟩,
        rfl⟩⟩
    · linarith
    · linarith
  · intro k report hrun entry hentry
    obtain ⟨payment, htable, hentry, -, -, q, hq, -, hlate⟩ := (mem_stuck_iff hrun).mp hentry
    exact ⟨payment, htable, hentry, q, hq, hlate⟩

end

end Periodic

/-! ### A payment that stays queued for ever -/

namespace Example

/-- Created at `q`, and queued at once. -/
def standing (q : ℚ) : StoredPayment where
  paymentId := js "PMT-5"
  status := js "QUEUED"
  originRail := js "PIX"
  destinationRail := some (js "SPEI")
  createdAt := q
  queuedAt := some q
  completedAt := none

/-- The only payment there is. -/
def standingStill (q : ℚ) : Periodic where
  t0 := 0
  parse _ := none
  table _ := [standing q]
  findSince _ since := .ok ([standing q].filter fun payment => decide (since ≤ payment.createdAt))
  answers _ _ _ h := Except.ok.inj h ▸
    ⟨.refl _, (List.pairwise_singleton _ _).sublist List.filter_sublist⟩
  dateOf instant := .date (some ⌊instant⌋)
  dateOf_eq _ := rfl

theorem staysQueued_standingStill (q until' : ℚ) :
    (standingStill q).StaysQueued (js "PMT-5") q q until' :=
  fun _ _ _ => ⟨standing q, List.mem_singleton_self _, rfl, rfl, rfl, rfl⟩

theorem succeeds_standingStill {q : ℚ} (hq : |q| ≤ 1000000000000) :
    (standingStill q).Succeeds q (q + 3600000) := by
  intro k hafter hbefore
  obtain ⟨hlow, hhigh⟩ := abs_le.mp hq
  have hdate : |((standingStill q).time k : ℚ) - 3600000| ≤ 8640000000000000 := by
    rw [abs_le]
    constructor <;> linarith
  refine ⟨_, runReconciliation_of_own ?_ (Periodic.cutoff_eq_some_iff.mpr ⟨hdate, rfl⟩) rfl⟩
  intro intent hintent rail hrail
  obtain ⟨payment, hpayment, rfl⟩ := List.mem_map.mp hintent
  obtain rfl := List.mem_singleton.mp (List.mem_of_mem_filter hpayment)
  obtain rfl : js "SPEI" = rail := Option.some.inj hrail
  decide

end Example

theorem leaves_no_gap_standing :
    ∃ k report, (Example.standingStill 86400000).runAt ((Example.standingStill 86400000).time k) =
        .ok report ∧ js "PMT-5" ∈ report.stuckPayments.map StuckPayment.paymentId :=
  (Periodic.leaves_no_gap (Example.standingStill 86400000)).1 (js "PMT-5") 86400000 86400000
    (by norm_num) le_rfl (by norm_num) (Example.staysQueued_standingStill _ _)
    (Example.succeeds_standingStill (by norm_num [abs_le]))

/-- What was queued at the epoch counts as not queued: no run lists it. -/
theorem epoch_unlisted :
    (Example.standingStill 0).StaysQueued (js "PMT-5") 0 0 (0 + 3600000) ∧
      (Example.standingStill 0).Succeeds 0 (0 + 3600000) ∧
      ∀ k report,
        (Example.standingStill 0).runAt ((Example.standingStill 0).time k) = .ok report →
          js "PMT-5" ∉ report.stuckPayments.map StuckPayment.paymentId := by
  refine ⟨Example.staysQueued_standingStill _ _, Example.succeeds_standingStill (by norm_num), ?_⟩
  intro k report hrun hlisted
  obtain ⟨entry, hentry, -⟩ := List.mem_map.mp hlisted
  obtain ⟨payment, htable, -, -, -, q, hq, hepoch, -⟩ :=
    (Periodic.mem_stuck_iff hrun).mp hentry
  obtain rfl := List.mem_singleton.mp htable
  obtain rfl : 0 = q := Option.some.inj hq
  norm_num at hepoch

end MipitCore.Reconciliation
