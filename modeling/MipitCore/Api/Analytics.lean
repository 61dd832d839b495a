import MipitCore.Foundation.Grouping
import MipitCore.Js.Rounding
import MipitCore.Pipeline.Execute

/-!
# `GET /analytics/summary`

The summary is made from two queries, each of which groups the payments and counts them.
Its loops go through the groups, in whatever order the database answers with them. The
payments may have changed between the queries, so that the totals count the payments of the
first one, and the rails those of the second. Counts are exact; rates are rounded to whole
percents.

## Main definitions

* `railOf`, `statusKey`, `railKey` — what the queries group by
* `Totals`, `RailTotals`, `AnalyticsSummary` — the answer
* `summary` — the handler
* `Exact` — what the answer says of the payments

## Main results

* `summary_exact`
-/

namespace MipitCore.Api

open Js Foundation Entries

/-! ### The queries -/

/-- `COALESCE(destination_rail, origin_rail)` -/
def railOf (row : PaymentRow) : Option Text :=
  row.destinationRail.or (some (js row.originRail.name))

/-- `GROUP BY status` -/
def statusKey (row : PaymentRow) : PaymentStatus := row.status

/-- `GROUP BY COALESCE(destination_rail, origin_rail), status` -/
def railKey (row : PaymentRow) : Option Text × PaymentStatus := (railOf row, row.status)

/-! ### The answer -/

/-- The counters of the first loop. -/
structure Totals where
  total : ℕ := 0
  completed : ℕ := 0
  failed : ℕ := 0
  rejected : ℕ := 0

/-- An entry of `byRail`. -/
structure RailTotals where
  sent : ℕ := 0
  completed : ℕ := 0
  failed : ℕ := 0
  successRate : Number := .fin 0

structure AnalyticsSummary where
  payments : Totals
  successRate : Number
  byRail : List (Text × RailTotals)

/-- What the handler answers. -/
inductive SummaryReply
  /-- `503`: there is no database. -/
  | unavailable
  | ok (summary : AnalyticsSummary)

/-- `Math.round((completed / total) * 100)`, or `0` for no payments. -/
def rate (completed total : ℕ) : Number :=
  if 0 < total then
    (((Number.fin completed).div (.fin total)).mul (.fin 100)).round
  else .fin 0

/-- The body of the first loop. -/
def Totals.count (s : Totals) (row : PaymentStatus × ℕ) : Totals :=
  let s := { s with total := s.total + row.2 }
  match row.1 with
  | .completed => { s with completed := row.2 }
  | .failed => { s with failed := row.2 }
  | .rejected => { s with rejected := row.2 }
  | _ => s

/-- The entry of a rail with one more group. -/
def RailTotals.count (row : (Option Text × PaymentStatus) × ℕ) (s : RailTotals) : RailTotals :=
  let s := { s with sent := s.sent + row.2 }
  match row.1.2 with
  | .completed => { s with completed := s.completed + row.2 }
  | .failed | .rejected => { s with failed := s.failed + row.2 }
  | _ => s

/-- `row.rail ?? 'unknown'` -/
def railName (row : (Option Text × PaymentStatus) × ℕ) : Text := row.1.1.getD (js "unknown")

/-- The body of the second loop. Under an inherited name no entry is made. -/
def countRail (byRail : List (Text × RailTotals)) (row : (Option Text × PaymentStatus) × ℕ) :
    List (Text × RailTotals) :=
  if isInherited (railName row) then byRail
  else update (railName row) (fun s => RailTotals.count row (s.getD {})) byRail

/-- The body of the third loop. -/
def RailTotals.rated (s : RailTotals) : RailTotals :=
  { s with successRate := rate s.completed s.sent }

/-- `GET /analytics/summary`, given what the two queries answer with. -/
def summary (db : Option (List (PaymentStatus × ℕ) × List ((Option Text × PaymentStatus) × ℕ))) :
    SummaryReply :=
  match db with
  | none => .unavailable
  | some (statusCounts, railCounts) =>
    let totals := statusCounts.foldl Totals.count {}
    .ok {
      payments := totals
      successRate := rate totals.completed totals.total
      byRail := (railCounts.foldl countRail []).map fun entry => (entry.1, entry.2.rated) }

/-! ### What it says -/

/-- The rate is the share of `completed` in `total`, rounded to a whole percent. -/
structure IsRate (completed total : ℕ) (n : Number) : Prop where
  percent : ∃ q : ℤ, n = .fin q ∧ 0 ≤ q ∧ q ≤ 100 ∧
    |(q : ℚ) - 100 * completed / total| ≤ 1 / 2

/-- The payment is counted under the rail, and its status is one of those. -/
def onRail (rail : Text) (statuses : List PaymentStatus) (row : PaymentRow) : Bool :=
  railOf row = some rail && statuses.contains row.status

/-- The totals count the payments of the first query, and the entries of the rails those of the
second: an entry has all payments of its rail, and every rail with payments has one entry. -/
structure Exact (rows rows' : List PaymentRow) (s : AnalyticsSummary) : Prop where
  total : s.payments.total = rows.length
  completed : s.payments.completed = rows.countP fun row => row.status = .completed
  failed : s.payments.failed = rows.countP fun row => row.status = .failed
  rejected : s.payments.rejected = rows.countP fun row => row.status = .rejected
  successRate : IsRate s.payments.completed s.payments.total s.successRate
  nodup : (s.byRail.map Prod.fst).Nodup
  rail : ∀ name, isInherited name = false →
    (s.byRail.lookup name = none ∧ ∀ row ∈ rows', railOf row ≠ some name) ∨
    ∃ entry, s.byRail.lookup name = some entry ∧
      entry.sent = rows'.countP (fun row => railOf row = some name) ∧
      entry.completed = rows'.countP (onRail name [.completed]) ∧
      entry.failed = rows'.countP (onRail name [.failed, .rejected]) ∧
      IsRate entry.completed entry.sent entry.successRate
  sent : (∀ row ∈ rows', ∀ name ∈ railOf row, isInherited name = false) →
    Entries.total RailTotals.sent s.byRail = rows'.length

section

variable {rows rows' : List PaymentRow} {statusCounts : List (PaymentStatus × ℕ)}
  {railCounts : List ((Option Text × PaymentStatus) × ℕ)}

theorem isRate_rate {completed total : ℕ} (h : completed ≤ total) :
    IsRate completed total (rate completed total) := by
  refine ⟨?_⟩
  rcases Nat.eq_zero_or_pos total with rfl | hpos
  · exact ⟨0, rfl, le_rfl, by omega, by norm_num⟩
  · have htotal : (0 : ℚ) < total := Nat.cast_pos.mpr hpos
    set share : ℚ := (completed : ℚ) / total * 100 with hshare
    have hrate : rate completed total = .fin (Number.roundHalfUp share) := by
      simp only [rate, if_pos hpos, Number.div, if_neg htotal.ne', round_exact,
        Number.mul_fin, Number.round_fin, hshare]
    have hle : share ≤ 100 := by
      have hquotient : (completed : ℚ) / total ≤ 1 := (div_le_one htotal).mpr (Nat.cast_le.mpr h)
      linarith
    have hsame : 100 * (completed : ℚ) / total = share := by
      rw [hshare, mul_comm, mul_div_right_comm]
    refine ⟨_, hrate, Number.roundHalfUp_nonneg (by positivity),
      Number.roundHalfUp_le (by exact_mod_cast hle), ?_⟩
    rw [hsame, abs_le, Number.roundHalfUp]
    have hlow := Int.floor_le (share + 1 / 2)
    have hhigh := Int.lt_floor_add_one (share + 1 / 2)
    constructor <;> linarith

/-! ### The totals -/

/-- A counter of the first loop that is assigned the count of one status. -/
theorem foldl_totals {measure : Totals → ℕ} {status : PaymentStatus}
    (hcount : ∀ s row, measure (Totals.count s row) = if row.1 = status then row.2 else measure s)
    (s : Totals) (groups : List (PaymentStatus × ℕ)) :
    measure (groups.foldl Totals.count s) =
      groups.foldl (fun n g => if g.1 = status then g.2 else n) (measure s) := by
  induction groups generalizing s with
  | nil => rfl
  | cons row groups ih => rw [List.foldl_cons, List.foldl_cons, ih, hcount]

theorem total_foldl_totals (s : Totals) (groups : List (PaymentStatus × ℕ)) :
    (groups.foldl Totals.count s).total = s.total + sumOf (fun _ => true) groups := by
  induction groups generalizing s with
  | nil => rfl
  | cons row groups ih =>
    obtain ⟨status, n⟩ := row
    have hcount : (Totals.count s (status, n)).total = s.total + n := by cases status <;> rfl
    rw [List.foldl_cons, ih, hcount, sumOf_cons, if_pos rfl, Nat.add_assoc]

/-- The counter of a status counts the payments that have it. -/
theorem totals_eq (h : IsGrouped statusKey rows statusCounts) (measure : Totals → ℕ)
    (status : PaymentStatus) (hzero : measure {} = 0)
    (hcount : ∀ s row, measure (Totals.count s row) = if row.1 = status then row.2 else measure s) :
    measure (statusCounts.foldl Totals.count {}) = rows.countP fun row => row.status = status := by
  rw [foldl_totals hcount, hzero]
  exact h.assigned_eq status

/-! ### The rails -/

/-- The groups that the second loop makes entries for. -/
def ownGroups (railCounts : List ((Option Text × PaymentStatus) × ℕ)) :
    List ((Option Text × PaymentStatus) × ℕ) :=
  railCounts.filter fun row => !isInherited (railName row)

theorem foldl_countRail (byRail : List (Text × RailTotals)) :
    railCounts.foldl countRail byRail =
      (ownGroups railCounts).foldl (fun byRail row => update (railName row)
        (fun s => RailTotals.count row (s.getD {})) byRail) byRail := by
  rw [ownGroups, List.foldl_filter]
  congr 1
  funext byRail row
  unfold countRail
  cases isInherited (railName row) <;> rfl

/-- What the entry of a rail counts, after the groups of that rail. -/
theorem foldl_railTotals {measure : RailTotals → ℕ} {p : PaymentStatus → Bool}
    (hcount : ∀ s row, measure (RailTotals.count row s) =
      measure s + if p row.1.2 = true then row.2 else 0)
    (s : RailTotals) (groups : List ((Option Text × PaymentStatus) × ℕ)) :
    measure (groups.foldl (fun s row => RailTotals.count row s) s) =
      measure s + sumOf (fun k => p k.2) groups := by
  induction groups generalizing s with
  | nil => rfl
  | cons row groups ih => rw [List.foldl_cons, ih, hcount, sumOf_cons, Nat.add_assoc]

/-- The entry of a rail is made from the groups of that rail. -/
theorem foldl_some (groups : List ((Option Text × PaymentStatus) × ℕ)) (s : RailTotals) :
    groups.foldl (fun value row => some (RailTotals.count row (value.getD {}))) (some s) =
      some (groups.foldl (fun s row => RailTotals.count row s) s) := by
  induction groups generalizing s with
  | nil => rfl
  | cons row groups ih => exact ih _

/-- The payments of a rail are in the groups whose rows are counted under its name. -/
theorem railOf_getD (row : PaymentRow) (name : Text) :
    (railOf row).getD (js "unknown") = name ↔ railOf row = some name := by
  obtain ⟨rail, hrail⟩ : ∃ rail, railOf row = some rail := by
    unfold railOf
    cases row.destinationRail with
    | none => exact ⟨_, rfl⟩
    | some rail => exact ⟨rail, rfl⟩
  simp [hrail]

/-- The groups whose rows are counted under a name. -/
def groupsOf (name : Text) (railCounts : List ((Option Text × PaymentStatus) × ℕ)) :
    List ((Option Text × PaymentStatus) × ℕ) :=
  railCounts.filter fun row => railName row = name

/-- The entry of a rail whose name is not inherited. -/
theorem lookup_foldl_countRail {name : Text} (hown : isInherited name = false) :
    (railCounts.foldl countRail []).lookup name =
      match groupsOf name railCounts with
      | [] => none
      | group :: groups =>
        some ((group :: groups).foldl (fun s row => RailTotals.count row s) {}) := by
  have hgroups : (ownGroups railCounts).filter (fun row => railName row = name) =
      groupsOf name railCounts := by
    rw [ownGroups, List.filter_filter, groupsOf]
    refine List.filter_congr fun row _ => ?_
    by_cases hrow : railName row = name <;> simp [hrow, hown]
  rw [foldl_countRail, lookup_foldl, hgroups, List.lookup_nil]
  cases groupsOf name railCounts with
  | nil => rfl
  | cons group groups => exact foldl_some groups _

/-- A counter of the entry of a rail counts the payments of the rail whose statuses satisfy `p`. -/
theorem railTotals_eq (h : IsGrouped railKey rows railCounts) (name : Text)
    (measure : RailTotals → ℕ) (p : PaymentStatus → Bool) (hzero : measure {} = 0)
    (hcount : ∀ s row, measure (RailTotals.count row s) =
      measure s + if p row.1.2 = true then row.2 else 0) :
    measure ((groupsOf name railCounts).foldl (fun s row => RailTotals.count row s) {}) =
      rows.countP fun row => railOf row = some name && p row.status := by
  have hsum : sumOf (fun k => p k.2) (groupsOf name railCounts) =
      sumOf (fun k => decide (k.1.getD (js "unknown") = name) && p k.2) railCounts := by
    rw [sumOf, sumOf, groupsOf, List.filter_filter]
    have hfilter : ∀ group ∈ railCounts, (p group.1.2 && decide (railName group = name)) =
        (decide (group.1.1.getD (js "unknown") = name) && p group.1.2) :=
      fun group _ => Bool.and_comm _ _
    rw [List.filter_congr hfilter]
  rw [foldl_railTotals hcount, hzero, Nat.zero_add, hsum, h.sumOf_eq]
  exact List.countP_congr fun row _ => by simp [railKey, railOf_getD]

/-- What no group is counted under, no payment is on. -/
theorem railOf_ne_of_groupsOf (h : IsGrouped railKey rows railCounts) {name : Text}
    (hnil : groupsOf name railCounts = []) {row : PaymentRow} (hrow : row ∈ rows) :
    railOf row ≠ some name := by
  intro hrail
  obtain ⟨group, hgroup, hkey⟩ := List.mem_map.mp (h.complete hrow)
  refine List.filter_eq_nil_iff.mp hnil group hgroup ?_
  simp [railName, hkey, railKey, hrail]

/-- All payments are on a rail that has an entry, unless its name is inherited. -/
theorem sent_total (h : IsGrouped railKey rows railCounts)
    (hown : ∀ row ∈ rows, ∀ name ∈ railOf row, isInherited name = false) :
    Entries.total RailTotals.sent (railCounts.foldl countRail []) = rows.length := by
  have hall : ownGroups railCounts = railCounts := by
    refine List.filter_eq_self.mpr fun group hgroup => ?_
    obtain ⟨row, hrow, hkey⟩ := (h.keys _).mp (List.mem_map_of_mem hgroup)
    obtain ⟨name, hname⟩ : ∃ name, railOf row = some name :=
      ⟨_, (railOf_getD row _).mp rfl⟩
    have hgroupName : railName group = name := by simp [railName, ← hkey, railKey, hname]
    simp [hgroupName, hown row hrow name hname]
  have hsent : ∀ row (s : Option RailTotals),
      (RailTotals.count row (s.getD {})).sent = s.elim 0 RailTotals.sent + row.2 := by
    intro row s
    obtain ⟨⟨rail, status⟩, n⟩ := row
    cases s <;> cases status <;> rfl
  have hgroups := h.sumOf_eq fun _ => true
  rw [foldl_countRail, total_foldl_sum hsent, hall]
  simpa [sumOf, total] using hgroups

/-- **What the summary says is exact**, whatever the payments are when the queries are answered, and
in whatever order they are. -/
theorem summary_exact (h : IsGrouped statusKey rows statusCounts)
    (h' : IsGrouped railKey rows' railCounts) :
    ∃ s, summary (some (statusCounts, railCounts)) = .ok s ∧ Exact rows rows' s := by
  have hcompleted := totals_eq h Totals.completed .completed rfl
    fun s row => by obtain ⟨status, n⟩ := row; cases status <;> rfl
  have htotal : (statusCounts.foldl Totals.count {}).total = rows.length := by
    rw [total_foldl_totals, h.sumOf_eq]
    simp
  have hnil : (([] : List (Text × RailTotals)).map Prod.fst).Nodup := List.nodup_nil
  refine ⟨_, rfl, ⟨htotal, hcompleted, ?_, ?_, ?_, ?_, fun name hown => ?_, fun hown => ?_⟩⟩
  · exact totals_eq h Totals.failed .failed rfl
      fun s row => by obtain ⟨status, n⟩ := row; cases status <;> rfl
  · exact totals_eq h Totals.rejected .rejected rfl
      fun s row => by obtain ⟨status, n⟩ := row; cases status <;> rfl
  · refine isRate_rate ?_
    rw [hcompleted, htotal]
    exact List.countP_le_length
  · rw [foldl_countRail, List.map_map]
    exact nodup_foldl hnil _
  · dsimp only
    rw [lookup_map, lookup_foldl_countRail hown]
    cases hgroups : groupsOf name railCounts with
    | nil => exact Or.inl ⟨rfl, fun row hrow => railOf_ne_of_groupsOf h' hgroups hrow⟩
    | cons group groups =>
      right
      have hsent := railTotals_eq h' name RailTotals.sent
        (fun _ => true) rfl
        fun s row => by obtain ⟨⟨rail, status⟩, n⟩ := row; cases status <;> rfl
      have hcompleted := railTotals_eq h' name RailTotals.completed
        (fun status => [PaymentStatus.completed].contains status) rfl
        fun s row => by obtain ⟨⟨rail, status⟩, n⟩ := row; cases status <;> rfl
      have hfailed := railTotals_eq h' name RailTotals.failed
        (fun status => [PaymentStatus.failed, .rejected].contains status) rfl
        fun s row => by obtain ⟨⟨rail, status⟩, n⟩ := row; cases status <;> rfl
      rw [hgroups] at hsent hcompleted hfailed
      simp only [Bool.and_true] at hsent
      refine ⟨_, rfl, hsent, hcompleted, hfailed, isRate_rate ?_⟩
      refine hcompleted.le.trans (le_trans ?_ hsent.ge)
      exact List.countP_mono_left fun row _ hrow => (Bool.and_eq_true_iff.mp hrow).1
  · have hsent := sent_total h' hown
    simpa [total, List.map_map, Function.comp_def, RailTotals.rated] using hsent

end

/-! ### Three payments -/

namespace Example

open Pipeline.Example (request context draws)

/-- A payment from PIX. -/
def analysed (status : PaymentStatus) (destinationRail : Option Text) : PaymentRow :=
  { (Pipeline.start request context draws .pix).newPayment with
    status, destinationRail, canonicalPayload := none, translatedPayload := none, railAck := none
    routeRuleApplied := none, validatedAt := none, canonicalizedAt := none, routedAt := none
    queuedAt := none, sentAt := none, ackedAt := none, completedAt := none, failedAt := none
    compensatedAt := none, deadLetterAt := none, updatedAt := none }

/-- Two that went to SPEI, and one that failed before it was routed. -/
def analysedRows : List PaymentRow :=
  [analysed .completed (some (js "SPEI")), analysed .rejected (some (js "SPEI")),
    analysed .failed none]

end Example

theorem summary_exact_three :
    ∃ s, summary (some (grouped statusKey Example.analysedRows,
        grouped railKey Example.analysedRows)) = .ok s ∧
      Exact Example.analysedRows Example.analysedRows s :=
  summary_exact (isGrouped_grouped _ _) (isGrouped_grouped _ _)

end MipitCore.Api
