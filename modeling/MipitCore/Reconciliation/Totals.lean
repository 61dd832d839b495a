import Mathlib.Data.List.Perm.Subperm
import MipitCore.Js.Rounding
import MipitCore.Reconciliation.Report

/-!
# The totals of the report

Every payment is counted under one rail, and there under at most one outcome. So the counters of
the rails add up to those of the summary, and no rail has more outcomes than payments. What is
listed as stuck has another status than what is listed as an anomaly, so no payment is in both
lists.

A rail whose name is inherited by every object has no counters of its own.

## Main definitions

* `Conserves` — what the totals of a report say of each other

## Main results

* `railStats_conserved` — the counters of the rails
* `report_conserves`
-/

namespace MipitCore.Reconciliation

open Js Foundation Entries

/-- A measure, summed over the rails of a report. -/
def ReconciliationReport.overRails (report : ReconciliationReport) (measure : RailBreakdown → ℕ) :
    ℕ :=
  total measure report.railBreakdown

/-- The counter of a summary for a status, if there is one. -/
def Summary.ofStatus (summary : Summary) : PaymentStatus → Option ℕ
  | .completed => some summary.completed
  | .failed => some summary.failed
  | .rejected => some summary.rejected
  | .deadLetter => some summary.deadLetter
  | .compensated => some summary.compensated
  | _ => none

/-- The summary counts the payments, the rails add up to it, and each payment is listed at most
once. -/
structure Conserves (payments : List PaymentIntent) (report : ReconciliationReport) : Prop where
  totalPayments : report.summary.totalPayments = payments.length
  counted : ∀ status, ∀ n ∈ report.summary.ofStatus status,
    n = payments.countP fun p => decide (p.known = some status)
  /-- No rail has two entries. -/
  rails : (report.railBreakdown.map Prod.fst).Nodup
  sent : report.overRails RailBreakdown.sent = report.summary.totalPayments
  completed : report.overRails RailBreakdown.completed = report.summary.completed
  failed : report.overRails RailBreakdown.failed = report.summary.failed
  rejected : report.overRails RailBreakdown.rejected = report.summary.rejected
  stuck : report.summary.stuckInQueue = report.stuckPayments.length
  settled : ∀ entry ∈ report.railBreakdown,
    entry.2.completed + entry.2.failed + entry.2.rejected ≤ entry.2.sent
  successRate : ∀ entry ∈ report.railBreakdown,
    Number.le (.fin 0) entry.2.successRate = true ∧ Number.le entry.2.successRate (.fin 100) = true
  once : List.Subperm
    (report.stuckPayments.map StuckPayment.paymentId ++ report.anomalies.map Anomaly.paymentId)
    (payments.map PaymentIntent.paymentId)

section

variable {host : Host} {payments : List PaymentIntent}

/-- The loop over the rails, where none has an inherited name. -/
def railStatsOf (host : Host) (payments : List PaymentIntent) : List (Text × RailStats) :=
  payments.foldl (fun railStats payment => update (destRail payment)
    (fun stats => RailStats.count host payment (stats.getD {})) railStats) []

theorem foldlM_breakDown (hown : ∀ p ∈ payments, isInherited (destRail p) = false)
    (railStats : List (Text × RailStats)) :
    payments.foldlM (breakDown host) railStats =
      .ok (payments.foldl (fun railStats payment => update (destRail payment)
        (fun stats => RailStats.count host payment (stats.getD {})) railStats) railStats) := by
  induction payments generalizing railStats with
  | nil => rfl
  | cons payment payments ih =>
    rw [List.forall_mem_cons] at hown
    rw [List.foldlM_cons, breakDown, hown.1]
    exact ih hown.2 _

/-! ### The counters of a rail -/

theorem sent_count (payment : PaymentIntent) (stats : Option RailStats) :
    (RailStats.count host payment (stats.getD {})).sent = stats.elim 0 RailStats.sent + 1 := by
  unfold RailStats.count
  cases stats <;> split <;> rfl

theorem completed_count (payment : PaymentIntent) (stats : Option RailStats) :
    (RailStats.count host payment (stats.getD {})).completed =
      stats.elim 0 RailStats.completed +
        if decide (payment.known = some .completed) = true then 1 else 0 := by
  unfold RailStats.count
  cases stats <;> split <;> simp_all

theorem failed_count (payment : PaymentIntent) (stats : Option RailStats) :
    (RailStats.count host payment (stats.getD {})).failed =
      stats.elim 0 RailStats.failed +
        if decide (payment.known = some .failed) = true then 1 else 0 := by
  unfold RailStats.count
  cases stats <;> split <;> simp_all

theorem rejected_count (payment : PaymentIntent) (stats : Option RailStats) :
    (RailStats.count host payment (stats.getD {})).rejected =
      stats.elim 0 RailStats.rejected +
        if decide (payment.known = some .rejected) = true then 1 else 0 := by
  unfold RailStats.count
  cases stats <;> split <;> simp_all

/-- Each payment of a rail has at most one outcome. -/
theorem settled_count (payment : PaymentIntent) (stats : Option RailStats)
    (h : ∀ s ∈ stats, s.completed + s.failed + s.rejected ≤ s.sent) :
    (RailStats.count host payment (stats.getD {})).completed +
        (RailStats.count host payment (stats.getD {})).failed +
        (RailStats.count host payment (stats.getD {})).rejected ≤
      (RailStats.count host payment (stats.getD {})).sent := by
  have hbefore : (stats.elim 0 RailStats.completed) + (stats.elim 0 RailStats.failed) +
      (stats.elim 0 RailStats.rejected) ≤ stats.elim 0 RailStats.sent := by
    cases stats with
    | none => rfl
    | some s => exact h s rfl
  rw [sent_count, completed_count, failed_count, rejected_count]
  cases hknown : payment.known with
  | none => simpa using Nat.le_succ_of_le hbefore
  | some status => cases status <;> simp <;> omega

/-- A rail with no more completed payments than payments has a rate between 0 and 100. -/
theorem successRate_railBreakdownOf {stats : RailStats} (h : stats.completed ≤ stats.sent) :
    Number.le (.fin 0) (railBreakdownOf stats).successRate = true ∧
      Number.le (railBreakdownOf stats).successRate (.fin 100) = true := by
  rcases Nat.eq_zero_or_pos stats.sent with hzero | hpos
  · simp only [railBreakdownOf, hzero, lt_irrefl, ↓reduceIte]
    decide
  · -- the quotient is at most 1, and rounding does not leave the integers between
    have hsent : (0 : ℚ) < stats.sent := Nat.cast_pos.mpr hpos
    have hrate : (railBreakdownOf stats).successRate =
        .fin (Number.roundHalfUp ((stats.completed : ℚ) / stats.sent * 100)) := by
      simp only [railBreakdownOf, if_pos hpos, Number.div, if_neg hsent.ne', round_exact,
        Number.mul_fin, Number.round_fin]
    have hlow : 0 ≤ Number.roundHalfUp ((stats.completed : ℚ) / stats.sent * 100) :=
      Number.roundHalfUp_nonneg (by positivity)
    have hhigh : Number.roundHalfUp ((stats.completed : ℚ) / stats.sent * 100) ≤ 100 := by
      refine Number.roundHalfUp_le ?_
      have hle : (stats.completed : ℚ) / stats.sent ≤ 1 :=
        (div_le_one hsent).mpr (Nat.cast_le.mpr h)
      push_cast
      linarith
    rw [hrate]
    simp only [Number.le, Number.lt, Bool.not_eq_true', decide_eq_false_iff_not, not_lt]
    exact ⟨by exact_mod_cast hlow, by exact_mod_cast hhigh⟩

/-- **The counters of the rails**, when the loop has gone through `payments`. -/
theorem railStats_conserved (host : Host) (payments : List PaymentIntent) :
    ((railStatsOf host payments).map Prod.fst).Nodup ∧
      total RailStats.sent (railStatsOf host payments) = payments.length ∧
      total RailStats.completed (railStatsOf host payments) =
        payments.countP (fun p => decide (p.known = some .completed)) ∧
      total RailStats.failed (railStatsOf host payments) =
        payments.countP (fun p => decide (p.known = some .failed)) ∧
      total RailStats.rejected (railStatsOf host payments) =
        payments.countP (fun p => decide (p.known = some .rejected)) ∧
      ∀ entry ∈ railStatsOf host payments,
        entry.2.completed + entry.2.failed + entry.2.rejected ≤ entry.2.sent := by
  have hnil : (([] : List (Text × RailStats)).map Prod.fst).Nodup := List.nodup_nil
  -- every payment is sent, also one with an unknown status
  have hsent : total RailStats.sent (railStatsOf host payments) =
      payments.countP fun _ => true := total_foldl_nil sent_count payments
  refine ⟨nodup_foldl hnil payments, hsent.trans (congrFun List.countP_true payments), ?_, ?_, ?_,
    forall_foldl (fun payment => settled_count payment) (by simp) payments⟩
  · exact total_foldl_nil completed_count payments
  · exact total_foldl_nil failed_count payments
  · exact total_foldl_nil rejected_count payments

/-! ### The report -/

/-- What is listed as stuck is not canonicalized or routed. -/
theorem isStalled_of_isStuck {stuckThresholdMs : Number} {payment : PaymentIntent}
    (h : isStuck host stuckThresholdMs payment = true) :
    isStalled host stuckThresholdMs payment = false := by
  simp only [isStuck, Bool.and_eq_true, Bool.or_eq_true, decide_eq_true_eq] at h
  rcases h.1 with hknown | hknown <;> simp [isStalled, hknown]

/-- Two filters that no element passes both of are together the filter of what passes either. -/
theorem filter_append_filter_perm {α : Type*} {p q : α → Bool}
    (hpq : ∀ a, p a = true → q a = false) (l : List α) :
    List.Perm (l.filter p ++ l.filter q) (l.filter fun a => p a || q a) := by
  induction l with
  | nil => exact List.Perm.nil
  | cons a l ih =>
    cases hp : p a with
    | true => simpa [List.filter_cons, hp, hpq a hp] using ih
    | false =>
      cases hq : q a with
      | true => simpa [List.filter_cons, hp, hq] using List.perm_middle.trans (ih.cons a)
      | false => simpa [List.filter_cons, hp, hq] using ih

/-- **What a report lists**: the payments that are stuck or stalled, in some order. -/
theorem listed_perm (options : ReconciliationOptions) (railStats : List (Text × RailStats)) :
    List.Perm
      ((reportOf host options payments railStats).stuckPayments.map StuckPayment.paymentId ++
        (reportOf host options payments railStats).anomalies.map Anomaly.paymentId)
      ((payments.filter fun p =>
        isStuck host options.stuckThresholdMs p || isStalled host options.stuckThresholdMs p).map
          PaymentIntent.paymentId) := by
  have hperm : List.Perm
      (payments.filter (isStuck host options.stuckThresholdMs) ++
        payments.filter (isStalled host options.stuckThresholdMs)) _ :=
    filter_append_filter_perm (fun _ => isStalled_of_isStuck) payments
  simpa [reportOf, Function.comp_def, stuckPayment, stalledPipeline] using
    hperm.map PaymentIntent.paymentId

/-- A measure of the entries that is kept in the breakdown has the same total there. -/
theorem overRails_reportOf (options : ReconciliationOptions) (railStats : List (Text × RailStats))
    {measure : RailBreakdown → ℕ} {measure' : RailStats → ℕ}
    (h : ∀ stats, measure (railBreakdownOf stats) = measure' stats) :
    (reportOf host options payments railStats).overRails measure = total measure' railStats := by
  simp only [ReconciliationReport.overRails, reportOf, total, List.map_map, Function.comp_def, h]

/-- A payment that names no inherited property is counted under a rail of its own. -/
theorem isInherited_destRail {payment : PaymentIntent}
    (h : ∀ rail ∈ payment.destinationRail, isInherited rail = false) :
    isInherited (destRail payment) = false := by
  unfold destRail
  cases hrail : payment.destinationRail with
  | none => decide
  | some rail => exact h rail hrail

variable {findSince : ℤ → Except Failure (List PaymentIntent)} {options : ReconciliationOptions}
  {since : ℤ}

/-- If no payment goes to a rail whose name is inherited, a run that finds them reports on them. -/
theorem runReconciliation_of_own
    (hown : ∀ p ∈ payments, ∀ rail ∈ p.destinationRail, isInherited rail = false)
    (hsince : cutoff options host = some since) (hfind : findSince since = .ok payments) :
    runReconciliation findSince host options =
      .ok (reportOf host options payments (railStatsOf host payments)) := by
  have hrails : payments.foldlM (breakDown host) [] = .ok (railStatsOf host payments) :=
    foldlM_breakDown (fun p hp => isInherited_destRail (hown p hp)) []
  rw [runReconciliation_eq hsince hfind, hrails]
  rfl

/-- **The totals of the report are conserved**, whatever the payments and the options are, if no
payment goes to a rail whose name is inherited; then the run returns a report. -/
theorem report_conserves
    (hown : ∀ p ∈ payments, ∀ rail ∈ p.destinationRail, isInherited rail = false)
    (hsince : cutoff options host = some since) (hfind : findSince since = .ok payments) :
    ∃ report, runReconciliation findSince host options = .ok report ∧
      Conserves payments report := by
  refine ⟨_, runReconciliation_of_own hown hsince hfind, ?_⟩
  obtain ⟨hnodup, hsent, hcompleted, hfailed, hrejected, hsettled⟩ :=
    railStats_conserved host payments
  constructor
  case totalPayments => rfl
  case counted =>
    intro status n hn
    cases status <;> simp_all [Summary.ofStatus, reportOf, Summary.counting]
  case rails => simpa [reportOf, Function.comp_def] using hnodup
  case sent => exact (overRails_reportOf options _ fun _ => rfl).trans hsent
  case completed =>
    exact (overRails_reportOf options _ fun _ => rfl).trans (hcompleted.trans (Nat.zero_add _).symm)
  case failed =>
    exact (overRails_reportOf options _ fun _ => rfl).trans (hfailed.trans (Nat.zero_add _).symm)
  case rejected =>
    exact (overRails_reportOf options _ fun _ => rfl).trans (hrejected.trans (Nat.zero_add _).symm)
  case stuck => simp [reportOf, Summary.counting, List.countP_eq_length_filter]
  case settled =>
    intro entry hentry
    obtain ⟨stats, hstats, rfl⟩ := List.mem_map.mp hentry
    exact hsettled stats hstats
  case successRate =>
    intro entry hentry
    obtain ⟨stats, hstats, rfl⟩ := List.mem_map.mp hentry
    have hle := hsettled stats hstats
    exact successRate_railBreakdownOf (by omega)
  case once =>
    -- both lists are filters of the payments, for conditions that exclude each other
    exact (listed_perm options _).subperm.trans (List.filter_sublist.map _).subperm

end

/-! ### Three payments -/

namespace Example

/-- At noon, no string being a date. -/
def host : Host where
  parse _ := none
  startedAt := 43200000
  now := 43200001
  generatedAt := 43200002

/-- One that was completed, one that has been queued since eleven, and one that was routed then. -/
def payments : List PaymentIntent :=
  [⟨js "PMT-1", js "COMPLETED", js "PIX", some (js "SPEI"), some (.date (some 39600000)),
      some (.date (some 39600100)), some (.date (some 39600500))⟩,
    ⟨js "PMT-2", js "QUEUED", js "PIX", some (js "SPEI"), some (.date (some 39600000)),
      some (.date (some 39600100)), none⟩,
    ⟨js "PMT-3", js "ROUTED", js "SPEI", none, some (.date (some 39600000)), none, none⟩]

theorem cutoff_host : cutoff {} host = some (-43200000) := by decide +kernel

end Example

theorem report_conserves_three :
    ∃ report, runReconciliation (fun _ => .ok Example.payments) Example.host {} = .ok report ∧
      Conserves Example.payments report :=
  report_conserves (by decide) Example.cutoff_host rfl

end MipitCore.Reconciliation
