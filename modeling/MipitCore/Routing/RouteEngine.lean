import Mathlib.Order.WithBot
import MipitCore.Domain.Payment
import MipitCore.Foundation.FirstMatch
import MipitCore.Routing.AliasTypes
import MipitCore.Service.Loaders

/-!
# The route engine

`resolve` sorts the loaded rules by priority, in the array that the loader keeps, and answers with
the first that matches. The sort is stable and what it leaves is sorted, so no call changes what a
later one will answer.

A rule on operating hours names a rail, and an unknown rail is taken for open. But an object answers
to more names than those of its own properties: for a rule that names one of these the engine finds a
schedule that has no days, and throws. So a call is answered as it should be unless such a rule comes
before all that match.

## Main definitions

* `RouteRule.isMatch` — `matches`, which may throw
* `Call`, `resolve`, `resolveAll` — calls over one array
* `Resolved` — the answer is that of the first matching rule, or there is none
* `Readable` — no rule with an inherited name is in the way

## Main results

* `isMatch_eq_none_iff` — when the test of a rule throws
* `resolved_iff` — one call
* `resolveAll_iff` — the calls of a sequence
-/

namespace MipitCore.Routing

open Js Foundation FirstMatch Service

/-! ### Operating hours -/

/-- An entry of `RAIL_OPERATING_HOURS`. -/
structure Schedule where
  days : List ℤ
  startHhmm : ℤ
  endHhmm : ℤ
  tz : ℤ

/-- `RAIL_OPERATING_HOURS` -/
def railOperatingHours (rail : Text) : Option Schedule :=
  if rail = js "PIX" then some ⟨[1, 2, 3, 4, 5, 6], 700, 2359, -3⟩
  else if rail = js "SPEI" then some ⟨[1, 2, 3, 4, 5], 700, 1730, -6⟩
  else if rail = js "BRE_B" then some ⟨[1, 2, 3, 4, 5], 600, 2200, -5⟩
  else none

/-- Whether the schedule's local time at `now` is within its hours, on one of its days. A time that
is no date has no day. -/
def Schedule.isOpen (now : ℤ) (schedule : Schedule) : Bool :=
  let time := now + schedule.tz * 60 * 60 * 1000
  -- the first of January 1970 was a Thursday
  let day := (time / 86400000 + 4) % 7
  let hhmm := time % 86400000 / 3600000 * 100 + time % 3600000 / 60000
  time.natAbs ≤ 8640000000000000 && schedule.days.contains day &&
    schedule.startHhmm ≤ hhmm && hhmm ≤ schedule.endHhmm

/-- `isRailOpen(rail)`, when the clock reads `now`. What is found under an inherited name has no
`days`, and reading them throws. -/
def isRailOpen (now : ℤ) (rail : Text) : Option Bool :=
  match railOperatingHours rail with
  | some schedule => some (schedule.isOpen now)
  -- Unknown rail → assume always open
  | none => if isInherited rail then none else some true

/-! ### Rules -/

/-- `canonical.amount.value >= min && canonical.amount.value <= max`, for a condition `min-max`. -/
def inRange (value : Number) (condition : Text) : Bool :=
  let parts := condition.split (CodeUnit.ascii '-')
  let bound (part : Option Text) : Number := part.elim .nan parseFloat
  (bound parts[0]?).le value && value.le (bound parts[1]?)

/-- `matches(rule, canonical)`, when the clock reads `now`; `none` where it throws. -/
def isMatch (runtime : CaseMapping) (canonical : CanonicalPacs008) (now : ℤ) (rule : RouteRule) :
    Option Bool :=
  if rule.conditionField = js "alias.type" then
    some (rule.conditionValue = js (inferAliasType canonical.creditor.accountId).name)
  else if rule.conditionField = js "destination_country" then
    some (canonical.creditor.country = some rule.conditionValue)
  else if rule.conditionField = js "availability" then
    some (rule.conditionValue = js "always" || rule.conditionValue = js "true")
  else if rule.conditionField = js "amount.range" then
    some (inRange canonical.amount.value rule.conditionValue)
  else if rule.conditionField = js "rail.operating_hours" then
    isRailOpen now rule.conditionValue
  else if rule.conditionField = js "currency" then
    some (runtime.toUpperCase canonical.amount.currency = runtime.toUpperCase rule.conditionValue)
  else some false

/-- The rule names an inherited property as a rail. -/
def namesInherited (rule : RouteRule) : Bool :=
  rule.conditionField = js "rail.operating_hours" && isInherited rule.conditionValue

/-! ### Calls -/

/-- A call of `resolve`: the message, and what the clock reads when a rule is tested. A rule is known
by its place in the array as it was loaded. -/
structure Call where
  canonical : CanonicalPacs008
  clock : ℕ → ℤ

/-- The test of a rule. -/
def Call.test (runtime : CaseMapping) (call : Call) (rule : RouteRule × ℕ) : Option Bool :=
  isMatch runtime call.canonical (call.clock rule.2) rule.1

/-- What `resolve` answers when it has sorted the rules. -/
def firstMatch (runtime : CaseMapping) (call : Call) (sorted : List (RouteRule × ℕ)) :
    Except Failure RouteResult :=
  match scan (call.test runtime) sorted with
  | none => .error .typeError
  | some (some (rule, _)) => .ok ⟨rule.destinationRail, rule.ruleName⟩
  | some none => .error (.routing "No routing rule matched for payment" call.canonical.paymentId
      call.canonical.origin.rail)

/-- Whether the comparison by `a.priority - b.priority` lets `a` stand before `b`. -/
def inPriority (a b : RouteRule × ℕ) : Bool := !(a.1.priority.sub b.1.priority).isPositive

/-- `resolve(canonical)` on the array of the loader: the answer, and the array after the call. -/
def resolve (runtime : CaseMapping) (call : Call) (rules : List (RouteRule × ℕ)) :
    Except Failure RouteResult × List (RouteRule × ℕ) :=
  let sorted := rules.mergeSort inPriority
  (firstMatch runtime call sorted, sorted)

/-- Calls one after the other over one array. -/
def resolveAll (runtime : CaseMapping) :
    List Call → List (RouteRule × ℕ) → List (Except Failure RouteResult)
  | [], _ => []
  | call :: calls, rules =>
    let (answer, rules) := resolve runtime call rules
    answer :: resolveAll runtime calls rules

/-! ### What is asked of an answer -/

/-- The rule at place `i` matches. -/
def Call.Matches (runtime : CaseMapping) (call : Call) (rules : List RouteRule) (i : ℕ)
    (rule : RouteRule) : Prop :=
  rules[i]? = some rule ∧ call.test runtime (rule, i) = some true

/-- The rule at place `i` has a smaller priority than the one at place `j`, or the same and was
loaded before it. -/
def Ahead (rule : RouteRule) (i : ℕ) (rule' : RouteRule) (j : ℕ) : Prop :=
  rule.priority.lt rule'.priority = true ∨ rule.priority = rule'.priority ∧ i < j

/-- The answer names the first of the rules that match, or none matches and it says so. -/
inductive Resolved (runtime : CaseMapping) (rules : List RouteRule) (call : Call) :
    Except Failure RouteResult → Prop
  | found {i : ℕ} {rule : RouteRule} (hmatches : call.Matches runtime rules i rule)
      (hfirst : ∀ j rule', call.Matches runtime rules j rule' → j = i ∨ Ahead rule i rule' j) :
      Resolved runtime rules call (.ok ⟨rule.destinationRail, rule.ruleName⟩)
  | notFound (hnone : ∀ i rule, ¬ call.Matches runtime rules i rule) :
      Resolved runtime rules call (.error (.routing "No routing rule matched for payment"
        call.canonical.paymentId call.canonical.origin.rail))

/-- Each rule that names an inherited property comes after one that matches. -/
def Readable (runtime : CaseMapping) (rules : List RouteRule) (call : Call) : Prop :=
  ∀ i rule, rules[i]? = some rule → namesInherited rule = true →
    ∃ j rule', call.Matches runtime rules j rule' ∧ Ahead rule' j rule i

section

variable {runtime : CaseMapping} {rules : List RouteRule} {call : Call}

/-! ### Tests that throw -/

theorem isInherited_of_schedule {rail : Text} {schedule : Schedule}
    (h : railOperatingHours rail = some schedule) : isInherited rail = false := by
  unfold railOperatingHours at h
  split_ifs at h with hpix hspei hbreb
  · rw [hpix]
    decide
  · rw [hspei]
    decide
  · rw [hbreb]
    decide

theorem isRailOpen_eq_none_iff {now : ℤ} {rail : Text} :
    isRailOpen now rail = none ↔ isInherited rail = true := by
  unfold isRailOpen
  cases hours : railOperatingHours rail with
  | some schedule => simp [isInherited_of_schedule hours]
  | none => simp

/-- **A test throws** exactly for a rule that names an inherited property. -/
theorem isMatch_eq_none_iff {canonical : CanonicalPacs008} {now : ℤ} {rule : RouteRule} :
    isMatch runtime canonical now rule = none ↔ namesInherited rule = true := by
  rw [namesInherited, Bool.and_eq_true, decide_eq_true_iff, ← isRailOpen_eq_none_iff]
  by_cases hours : rule.conditionField = js "rail.operating_hours"
  · have halias : js "rail.operating_hours" ≠ js "alias.type" := by decide
    have hcountry : js "rail.operating_hours" ≠ js "destination_country" := by decide
    have havailability : js "rail.operating_hours" ≠ js "availability" := by decide
    have hrange : js "rail.operating_hours" ≠ js "amount.range" := by decide
    rw [isMatch, hours, if_neg halias, if_neg hcountry, if_neg havailability, if_neg hrange,
      if_pos rfl, and_iff_right rfl]
  · unfold isMatch
    split_ifs <;> simp_all

/-! ### Numbers in order -/

/-- The place of a number among the numbers. -/
def rankOf : Number → WithBot (WithTop ℚ)
  | .nan => ⊥
  | .inf negative => if negative then ⊥ else (⊤ : WithTop ℚ)
  | .fin q => (q : WithTop ℚ)

theorem lt_iff_rankOf_lt {m n : Number} (hm : m ≠ .nan) (hn : n ≠ .nan) :
    m.lt n = true ↔ rankOf m < rankOf n := by
  cases m with
  | nan => exact absurd rfl hm
  | inf s =>
    cases n with
    | nan => exact absurd rfl hn
    | inf t => cases s <;> cases t <;> simp [Number.lt, rankOf]
    | fin q => cases s <;> simp [Number.lt, rankOf]
  | fin p =>
    cases n with
    | nan => exact absurd rfl hn
    | inf t =>
      cases t with
      | true => simp [Number.lt, rankOf]
      | false => exact iff_of_true rfl (WithBot.coe_lt_coe.mpr (WithTop.coe_lt_top p))
    | fin q => simp [Number.lt, rankOf]

theorem rankOf_inj {m n : Number} (hm : m ≠ .nan) (hn : n ≠ .nan) :
    rankOf m = rankOf n ↔ m = n := by
  cases m with
  | nan => exact absurd rfl hm
  | inf s =>
    cases n with
    | nan => exact absurd rfl hn
    | inf t => cases s <;> cases t <;> simp [rankOf]
    | fin q => cases s <;> simp [rankOf]
  | fin p =>
    cases n with
    | nan => exact absurd rfl hn
    | inf t => cases t <;> simp [rankOf]
    | fin q => simp [rankOf]

/-- A difference is positive exactly if the numbers are the other way round; infinities of one sign
have no difference. -/
theorem isPositive_sub (m n : Number) : (m.sub n).isPositive = n.lt m := by
  cases m with
  | nan => cases n <;> rfl
  | inf s =>
    cases n with
    | nan => rfl
    | inf t => cases s <;> cases t <;> rfl
    | fin q => cases s <;> rfl
  | fin p =>
    cases n with
    | nan => rfl
    | inf t => cases t <;> rfl
    | fin q => simp [Number.lt]

/-! ### Sorting by priority -/

/-- The rank of a rule is its priority. -/
def priorityRank (rule : RouteRule) : WithBot (WithTop ℚ) := rankOf rule.priority

theorem before_iff_ahead {rule rule' : RouteRule} {i j : ℕ} (h : rule.priority ≠ .nan)
    (h' : rule'.priority ≠ .nan) :
    Before priorityRank (rule, i) (rule', j) ↔ Ahead rule i rule' j :=
  or_congr (lt_iff_rankOf_lt h h').symm (and_congr (rankOf_inj h h') Iff.rfl)

/-- The comparison by difference is the order of the priorities. -/
theorem inPriority_eq {a b : RouteRule × ℕ} (ha : a.1.priority ≠ .nan) (hb : b.1.priority ≠ .nan) :
    inPriority a b = inRank priorityRank a b := by
  rw [inPriority, isPositive_sub, inRank, Bool.eq_iff_iff, Bool.not_eq_true', decide_eq_true_iff,
    ← not_lt, ← Bool.not_eq_true, not_iff_not]
  exact lt_iff_rankOf_lt hb ha

theorem mergeSort_inPriority {array : List (RouteRule × ℕ)}
    (h : ∀ a ∈ array, a.1.priority ≠ .nan) :
    array.mergeSort inPriority = array.mergeSort (inRank priorityRank) := by
  have hmap := List.map_mergeSort (f := id) fun a ha b hb => inPriority_eq (h a ha) (h b hb)
  rwa [List.map_id, List.map_id] at hmap

theorem numeric_of_mem {a : RouteRule × ℕ} (hnumeric : ∀ r ∈ rules, r.priority ≠ .nan)
    (ha : a ∈ inOrder priorityRank rules) : a.1.priority ≠ .nan :=
  hnumeric a.1 (List.mem_of_getElem? (mem_inOrder.mp ha))

/-- **Every call sees the rules in order**, and leaves them so. -/
theorem resolveAll_eq (hnumeric : ∀ r ∈ rules, r.priority ≠ .nan) (calls : List Call) :
    resolveAll runtime calls rules.zipIdx =
      calls.map fun call => firstMatch runtime call (inOrder priorityRank rules) := by
  -- the induction is on the calls, for all arrays that sorting by rank brings in order
  have hall (array : List (RouteRule × ℕ)) (harray : ∀ a ∈ array, a.1.priority ≠ .nan)
      (hsort : array.mergeSort (inRank priorityRank) = inOrder priorityRank rules) :
      resolveAll runtime calls array =
        calls.map fun call => firstMatch runtime call (inOrder priorityRank rules) := by
    induction calls generalizing array with
    | nil => rfl
    | cons call calls ih =>
      rw [resolveAll, resolve, mergeSort_inPriority harray, hsort, List.map_cons]
      exact congrArg _ (ih _ (fun a => numeric_of_mem hnumeric) mergeSort_inOrder)
  exact hall rules.zipIdx (fun a ha => hnumeric a.1 (List.fst_mem_of_mem_zipIdx ha)) rfl

/-! ### One call -/

theorem matches_iff {i : ℕ} {rule : RouteRule} :
    call.Matches runtime rules i rule ↔
      (rule, i) ∈ inOrder priorityRank rules ∧ call.test runtime (rule, i) = some true := by
  rw [Call.Matches, mem_inOrder]

theorem scan_eq_none_iff_not_readable (hnumeric : ∀ r ∈ rules, r.priority ≠ .nan) :
    scan (call.test runtime) (inOrder priorityRank rules) = none ↔
      ¬ Readable runtime rules call := by
  have hahead {i j : ℕ} {rule rule' : RouteRule} (h : rules[i]? = some rule)
      (h' : rules[j]? = some rule') :
      Before priorityRank (rule', j) (rule, i) ↔ Ahead rule' j rule i :=
    before_iff_ahead (hnumeric _ (List.mem_of_getElem? h')) (hnumeric _ (List.mem_of_getElem? h))
  rw [scan_eq_none_iff pairwise_inOrder fun _ _ => Before.asymm]
  constructor
  · -- what throws names an inherited property, so by assumption a rule that matches is ahead of it
    rintro ⟨⟨rule, i⟩, hmem, hthrows, hfirst⟩ hreadable
    have hrule := mem_inOrder.mp hmem
    obtain ⟨j, rule', hmatches, hbefore⟩ :=
      hreadable i rule hrule (isMatch_eq_none_iff.mp hthrows)
    have hmem' := matches_iff.mp hmatches
    exact hfirst (rule', j) hmem'.1 hmem'.2 ((hahead hrule hmatches.1).mpr hbefore)
  · intro hreadable
    simp only [Readable, not_forall] at hreadable
    obtain ⟨i, rule, hrule, hnamed, hnone⟩ := hreadable
    refine ⟨(rule, i), mem_inOrder.mpr hrule, isMatch_eq_none_iff.mpr hnamed, ?_⟩
    rintro ⟨rule', j⟩ hmem' hpass hbefore
    have hmatches : call.Matches runtime rules j rule' := matches_iff.mpr ⟨hmem', hpass⟩
    exact hnone ⟨j, rule', hmatches, (hahead hrule hmatches.1).mp hbefore⟩

/-- **A call is answered as it should be** exactly if no test throws before one passes. -/
theorem resolved_iff (hnumeric : ∀ r ∈ rules, r.priority ≠ .nan) :
    Resolved runtime rules call (firstMatch runtime call (inOrder priorityRank rules)) ↔
      Readable runtime rules call := by
  have hthrows : scan (call.test runtime) (inOrder priorityRank rules) = none ↔
      ¬ Readable runtime rules call := scan_eq_none_iff_not_readable hnumeric
  unfold firstMatch
  cases hscan : scan (call.test runtime) (inOrder priorityRank rules) with
  | none =>
    refine iff_of_false (fun h => ?_) (hthrows.mp hscan)
    cases h
  | some found =>
    have hreadable : Readable runtime rules call := by
      rw [hscan] at hthrows
      exact not_not.mp fun h => by simpa using hthrows.mpr h
    refine iff_of_true ?_ hreadable
    cases found with
    | none =>
      -- every rule was tested, and none passed
      refine .notFound fun i rule hmatches => ?_
      have hpass := (matches_iff.mp hmatches).2
      rw [scan_eq_miss hscan _ (matches_iff.mp hmatches).1] at hpass
      cases hpass
    | some found =>
      obtain ⟨rule, i⟩ := found
      obtain ⟨hmem, hpass, hfirst⟩ := scan_eq_hit pairwise_inOrder hscan
      refine .found (matches_iff.mpr ⟨hmem, hpass⟩) fun j rule' hmatches => ?_
      obtain ⟨hmem', hpass'⟩ := matches_iff.mp hmatches
      rcases hfirst (rule', j) hmem' (by rw [hpass']; simp) with heq | hbefore
      · -- the places tell equal rules apart
        exact Or.inl (congrArg Prod.snd heq)
      · exact Or.inr ((before_iff_ahead (numeric_of_mem hnumeric hmem)
          (numeric_of_mem hnumeric hmem')).mp hbefore)

/-- **Routing picks the first matching rule by priority**: each call of a sequence over one array is
answered so, or with a `RoutingError` if no rule matches, exactly if for no call a rule that names an
inherited property comes before all that match. -/
theorem resolveAll_iff (hnumeric : ∀ r ∈ rules, r.priority ≠ .nan) (calls : List Call) :
    List.Forall₂ (Resolved runtime rules) calls (resolveAll runtime calls rules.zipIdx) ↔
      ∀ call ∈ calls, Readable runtime rules call := by
  rw [resolveAll_eq hnumeric, List.forall₂_map_right_iff, List.forall₂_same]
  exact forall₂_congr fun call _ => resolved_iff hnumeric

/-- Rules that name no inherited property are never in the way. -/
theorem readable_of_own (h : ∀ r ∈ rules, namesInherited r = false) :
    Readable runtime rules call := by
  intro i rule hrule hnamed
  rw [h rule (List.mem_of_getElem? hrule)] at hnamed
  cases hnamed

end

/-! ### Two calls, and a rule for the rail `constructor` -/

namespace Example

/-- A message to a key of PIX, on a Thursday at noon. -/
def call : Call where
  canonical := Pipeline.Example.canonical (js "PMT-1") (js "trace")
  clock _ := 43200000

/-- Two rules that match, of which the second has the smaller priority. -/
def keys : List RouteRule :=
  [⟨js "low_priority", js "alias.type", js "PIX_KEY", js "PIX", .fin 20⟩,
    ⟨js "high_priority", js "alias.type", js "PIX_KEY", js "SPEI", .fin 5⟩]

/-- A rule on the hours of an unknown rail, and one that always matches. -/
def inherited : List RouteRule :=
  [⟨js "hours", js "rail.operating_hours", js "constructor", js "PIX", .fin 1⟩,
    ⟨js "any", js "availability", js "always", js "SPEI", .fin 2⟩]

end Example

theorem resolveAll_iff_keys :
    List.Forall₂ (Resolved CaseMapping.ascii Example.keys) [Example.call, Example.call]
      (resolveAll CaseMapping.ascii [Example.call, Example.call] Example.keys.zipIdx) :=
  (resolveAll_iff (by decide) [Example.call, Example.call]).mpr fun _ _ =>
    readable_of_own (by decide)

/-- **A rule for the rail `constructor`** makes the engine throw, though another rule matches. -/
theorem inherited_throws :
    resolveAll CaseMapping.ascii [Example.call] Example.inherited.zipIdx = [.error .typeError] ∧
      ¬ List.Forall₂ (Resolved CaseMapping.ascii Example.inherited) [Example.call]
        (resolveAll CaseMapping.ascii [Example.call] Example.inherited.zipIdx) := by
  have hsorted : inOrder priorityRank Example.inherited = Example.inherited.zipIdx :=
    List.mergeSort_of_pairwise (by decide)
  have hthrows : resolveAll CaseMapping.ascii [Example.call] Example.inherited.zipIdx =
      [.error .typeError] := by
    rw [resolveAll_eq (by decide), hsorted]
    rfl
  refine ⟨hthrows, fun h => ?_⟩
  rw [hthrows] at h
  cases h with
  | cons hresolved _ => cases hresolved

end MipitCore.Routing
