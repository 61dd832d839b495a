import MipitCore.Pipeline.Execute
import MipitCore.Service.Rows

/-!
# The pipeline under failures

`execute` runs alone here, with every awaited call free to fail, those of the `catch`
block included. Its calls follow a fixed order up to the first one that fails; what the
`catch` block adds is the update to FAILED and, if that succeeds, the audit of the
error. What is left in the row and in the audit trail is what the calls that succeeded
have written, and nothing else.

## Main definitions

* `Stage`, `Stage.order`, `Stage.Makes` — the calls of the `try` block
* `Recording` — the calls of the `catch` block
* `Report` — what a run has called, and how it ends
* `Completed`, `FailedRow` — the row of a payment that was marked as failed

## Main results

* `run_follows` — the `try` block follows the order
* `execute_report`
* `execute_faults`
-/

namespace MipitCore.Pipeline

open Js Api Foundation Persistence

/-- The awaited calls of the `try` block. -/
inductive Stage
  | create
  | received
  | validated
  | validationLogged
  | toCanonical
  | updateCanonical
  | canonicalLogged
  | normalize
  | normalizationLogged
  | resolve
  | updateRoute
  | routeLogged
  | fromCanonical
  | updateTranslated
  | publishToAdapter
  | queued
  | queuedLogged
  deriving DecidableEq

namespace Stage

/-- The order of the calls. -/
def order : List Stage :=
  [create, received, validated, validationLogged, toCanonical, updateCanonical, canonicalLogged,
    normalize, normalizationLogged, resolve, updateRoute, routeLogged, fromCanonical,
    updateTranslated, publishToAdapter, queued, queuedLogged]

/-- The call `c` is the one of the stage, for the payment `p`. -/
def Makes (p : Payment) : Stage → Call → Prop
  | create, c => c = .create p.newPayment
  | received, c => ∃ detail, c = .log (p.event "PAYMENT_RECEIVED" "system" detail)
  | validated, c => c = .updateStatus (.string p.paymentId) .validated
  | validationLogged, c => ∃ detail, c = .log (p.event "PAYMENT_VALIDATED" "system-validator" detail)
  | toCanonical, c => c = .toCanonical p.originRail p.request p.paymentId p.traceId
  | updateCanonical, c =>
    ∃ canonical, c = .updateCanonical (.string p.paymentId) canonical .canonicalized
  | canonicalLogged, c => ∃ detail, c = .log (p.event "CANONICAL_UPDATED" "system-translator" detail)
  | normalize, c => ∃ canonical, c = .normalize canonical
  | normalizationLogged, c => ∃ detail, c = .log (p.event "NORMALIZATION_COMPLETE" "system" detail)
  | resolve, c => ∃ normalized, c = .resolve normalized
  | updateRoute, c =>
    ∃ destination ruleName, c = .updateRoute (.string p.paymentId) destination ruleName .routed
  | routeLogged, c => ∃ detail, c = .log (p.event "ROUTE_DECISION" "system-router" detail)
  | fromCanonical, c => ∃ destination normalized, c = .fromCanonical destination normalized
  | updateTranslated, c => ∃ translated, c = .updateTranslated (.string p.paymentId) translated
  | publishToAdapter, c => ∃ destination x, c = .publishToAdapter destination x ∧
      x.paymentId = p.paymentId ∧ x.destinationRail = destination
  | queued, c => c = .updateStatus (.string p.paymentId) .queued
  | queuedLogged, c => c = .log p.queuedEvent

end Stage

open Stage

/-- **The `try` block makes its calls in their order**, and throws what a call throws. -/
theorem run_follows (p : Payment) : p.run.Follows (order.map (Makes p)) := by
  have receive : p.receive.Follows [Makes p create, Makes p received] :=
    .cons rfl fun _ => .perform ⟨_, rfl⟩
  have validate : p.validate.Follows [Makes p validated, Makes p validationLogged] :=
    .cons rfl fun _ => .perform ⟨_, rfl⟩
  have canonicalize : p.canonicalize.Follows
      [Makes p toCanonical, Makes p updateCanonical, Makes p canonicalLogged] :=
    .cons rfl fun _ => .cons ⟨_, rfl⟩ fun _ => .cons ⟨_, rfl⟩ fun _ => .pure
  have normalize : ∀ c, (p.normalizeStep c).Follows
      [Makes p normalize, Makes p normalizationLogged] :=
    fun c => .cons ⟨c, rfl⟩ fun _ => .cons ⟨_, rfl⟩ fun _ => .pure
  have route : ∀ n, (p.route n).Follows
      [Makes p resolve, Makes p updateRoute, Makes p routeLogged] :=
    fun n => .cons ⟨n, rfl⟩ fun _ => .cons ⟨_, _, rfl⟩ fun _ => .cons ⟨_, rfl⟩ fun _ => .pure
  have translate : ∀ n route, (p.translateStep n route).Follows
      [Makes p fromCanonical, Makes p updateTranslated] :=
    fun n route => .cons ⟨_, n, rfl⟩ fun _ => .cons ⟨_, rfl⟩ fun _ => .pure
  have publish : ∀ x, (p.publish x).Follows [Makes p publishToAdapter] :=
    fun x => .perform ⟨_, _, rfl, rfl, rfl⟩
  have queue : p.markQueued.Follows [Makes p queued, Makes p queuedLogged] :=
    .cons rfl fun _ => .perform rfl
  have prepare : p.prepare.Follows ((order.take 14).map (Makes p)) :=
    receive.bind fun _ => validate.bind fun _ => canonicalize.bind fun canonical =>
      (normalize canonical).bind fun normalized => (route normalized).bind fun r =>
        (translate normalized r).bind fun _ => .pure
  exact prepare.bind fun x => (publish x).bind fun _ => queue.bind fun _ => .pure

/-- The calls of the `catch` block: the update to FAILED and, if it succeeds, the audit of the
error. -/
inductive Recording (p : Payment) (err : Failure) : List CallOutcome → Prop
  | unmarked (e : Failure) :
    Recording p err [⟨.updateStatus (.string p.paymentId) .failed, .error e⟩]
  | marked (row : PaymentRow) (r : Except Failure Unit) :
    Recording p err [⟨.updateStatus (.string p.paymentId) .failed, .ok row⟩,
      ⟨.log (p.errorEvent err), r⟩]

/-- A run of `execute` that makes the calls `trace` and ends with `r`: all calls were made and
succeeded, or those up to the first one that failed and then the recording of its error, and the
run ends with that error. -/
def Report (p : Payment) (trace : List CallOutcome) (r : Except Failure PipelineResult) : Prop :=
  (∃ result, r = .ok result) ∧ Program.MadeAll (order.map (Makes p)) trace ∨
    ∃ e body recording, trace = body ++ recording ∧ r = .error e ∧
      Program.FailedIn (order.map (Makes p)) body e ∧ Recording p e recording

/-- The `catch` block records the error and throws it again. -/
theorem handle_traces (p : Payment) (err : Failure) :
    (p.handle err).Traces (fun _ => True) fun trace r =>
      r = .error err ∧ Recording p err trace := by
  refine Program.Traces.bind (Program.Traces.tryCatch (Program.Traces.bind
    (Program.Traces.perform fun r _ => ?_)))
  cases r with
  | error e => exact ⟨rfl, .unmarked e⟩
  | ok row =>
    refine Program.Traces.perform fun r _ => ?_
    cases r with
    | error e => exact ⟨rfl, .marked row (.error e)⟩
    | ok u => exact ⟨rfl, .marked row (.ok u)⟩

/-- **What `execute` calls, and how it ends.** -/
theorem execute_report {request : CreatePaymentRequest} {context : Context} {draws : Draws}
    {originRail : Rail} (hrail : inferRail request.debtor.alias = .ok originRail) :
    (execute request context draws).Traces (fun _ => True)
      (Report (start request context draws originRail)) := by
  simp only [execute, hrail]
  refine Program.Traces.tryCatch ((run_follows _).traces.mono fun body r hbody => ?_)
  rcases hbody with ⟨⟨result, rfl⟩, hall⟩ | ⟨e, rfl, hfailed⟩
  · exact Or.inl ⟨⟨result, rfl⟩, hall⟩
  · refine (handle_traces _ e).mono fun recording r hr => ?_
    obtain ⟨rfl, hrecording⟩ := hr
    exact Or.inr ⟨e, body, recording, rfl, rfl, hfailed, hrecording⟩

section Counts

variable {p : Payment} {trace : List CallOutcome} {r : Except Failure PipelineResult}

theorem countP_order_le_one (stage : Stage) : order.countP (fun i => decide (i = stage)) ≤ 1 := by
  cases stage <;> decide

/-- A call of one stage, and not of the `catch` block, is made once at most. -/
theorem Report.countP_le_one (h : Report p trace r) {q : CallOutcome → Bool} (stage : Stage)
    (hstage : ∀ i o, Makes p i o.call → q o = true → i = stage)
    (hfailed : ∀ r, q ⟨.updateStatus (.string p.paymentId) .failed, r⟩ = false)
    (herror : ∀ err r, q ⟨.log (p.errorEvent err), r⟩ = false) : trace.countP q ≤ 1 := by
  have inOrder : ∀ {stages : List Stage} {calls : List CallOutcome}, stages.Sublist order →
      Program.InOrder (stages.map (Makes p)) calls → calls.countP q ≤ 1 := by
    intro stages calls hsub hcalls
    calc calls.countP q
        ≤ stages.countP (fun i => decide (i = stage)) :=
          hcalls.countP_le fun i o hmakes ho => decide_eq_true (hstage i o hmakes ho)
      _ ≤ order.countP (fun i => decide (i = stage)) := hsub.countP_le
      _ ≤ 1 := countP_order_le_one stage
  rcases h with ⟨-, hcalls, -⟩ | ⟨e, body, recording, rfl, -, ⟨-, -, -, hcalls, -⟩, hrecording⟩
  · exact inOrder (List.Sublist.refl _) hcalls
  · rw [← List.map_take] at hcalls
    have hbody := inOrder (List.take_sublist _ _) hcalls
    have hnone : recording.countP q = 0 := by
      cases hrecording with
      | unmarked e => simp [hfailed]
      | marked row r =>
        have hlog : q ⟨.log (p.errorEvent e), r⟩ = false := herror e r
        simp [hfailed, hlog]
    rw [List.countP_append, hnone]
    exact hbody

/-- A completed update to FAILED is the one of the `catch` block. -/
theorem Report.status_of_completed (h : Report p trace r)
    (hmarked : Completed (.updateStatus (.string p.paymentId) .failed) trace) :
    (statusWrites p.paymentId trace).getLast? = some .failed := by
  have notInOrder : ∀ {order' : List (Call → Prop)} {calls : List CallOutcome},
      order'.Sublist (order.map (Makes p)) → Program.InOrder order' calls →
      ¬ Completed (.updateStatus (.string p.paymentId) .failed) calls := by
    rintro order' calls hsub hcalls ⟨row, hmem⟩
    obtain ⟨step, hstep, hmakes⟩ := hcalls.exists_step hmem
    obtain ⟨i, -, rfl⟩ := List.mem_map.mp (hsub.subset hstep)
    cases i <;> simp [Makes] at hmakes
  rcases h with ⟨-, hcalls, -⟩ | ⟨e, body, recording, rfl, -, ⟨-, -, -, hcalls, -⟩, hrecording⟩
  · exact absurd hmarked (notInOrder (List.Sublist.refl _) hcalls)
  · obtain ⟨row, hmem⟩ := hmarked
    rcases List.mem_append.mp hmem with hmem | hmem
    · exact absurd ⟨row, hmem⟩ (notInOrder (List.take_sublist _ _) hcalls)
    · cases hrecording with
      | unmarked e => simp at hmem
      | marked row' r =>
        have hlast : statusWrites p.paymentId
            [⟨.updateStatus (.string p.paymentId) .failed, .ok row'⟩, ⟨.log (p.errorEvent e), r⟩] =
            [.failed] := by
          cases r <;> simp [statusWrites, written, Call.statusWrite]
        rw [statusWrites_append, hlast, List.getLast?_concat]

end Counts

/-! ### What a run leaves -/

/-- The row of a payment that was marked as failed has what the completed updates have written. -/
structure FailedRow (id : Text) (t : Recorded Store CallOutcome) : Prop where
  status : t.store.status id = some .failed
  canonicalPayload : ∀ canonical, t.store.column PaymentRow.canonicalPayload id = some canonical ↔
    ∃ status, Completed (.updateCanonical (.string id) canonical status) t.history
  destinationRail : ∀ rail, t.store.column PaymentRow.destinationRail id = some rail ↔
    ∃ ruleName status, Completed (.updateRoute (.string id) rail ruleName status) t.history
  routeRuleApplied : ∀ ruleName, t.store.column PaymentRow.routeRuleApplied id = some ruleName ↔
    ∃ rail status, Completed (.updateRoute (.string id) rail ruleName status) t.history
  translatedPayload : ∀ translated,
    t.store.column PaymentRow.translatedPayload id = some translated ↔
      Completed (.updateTranslated (.string id) translated) t.history

/-- What a call stores as the canonical payload of a row. -/
def canonicalOf : Call → Option CanonicalPacs008
  | .updateCanonical _ canonical _ => some canonical
  | _ => none

/-- What a call stores as the destination of a row, and the rule that chose it. -/
def routeOf : Call → Option RouteResult
  | .updateRoute _ destination ruleName _ => some ⟨destination, ruleName⟩
  | _ => none

/-- What a call stores as the translated payload of a row. -/
def translatedOf : Call → Option JsValue
  | .updateTranslated _ translated => some translated
  | _ => none

/-- The call publishes a message. -/
def isPublish : Call → Bool
  | .publishToAdapter _ _ => true
  | _ => false

theorem writes_canonical : WritesColumn PaymentRow.canonicalPayload (Call.writeTo canonicalOf) :=
  .of_values (fun c now v assign h row => by cases c <;> cases h <;> rfl) fun h => (create_ok h).2.2.1

theorem writes_destination : WritesColumn PaymentRow.destinationRail
    (Call.writeTo fun c => (routeOf c).map RouteResult.destination) :=
  .of_values (fun c now v assign h row => by cases c <;> cases h <;> rfl) fun h => (create_ok h).2.1

theorem writes_rule : WritesColumn PaymentRow.routeRuleApplied
    (Call.writeTo fun c => (routeOf c).map RouteResult.ruleName) :=
  .of_values (fun c now v assign h row => by cases c <;> cases h <;> rfl) fun h => (create_ok h).2.2.2.2.2

theorem writes_translated : WritesColumn PaymentRow.translatedPayload (Call.writeTo translatedOf) :=
  .of_values (fun c now v assign h row => by cases c <;> cases h <;> rfl) fun h => (create_ok h).2.2.2.1

theorem writeTo_canonicalOf {c : Call} {id : Text} {canonical : CanonicalPacs008} :
    c.writeTo canonicalOf id = some canonical ↔
      ∃ status, c = .updateCanonical (.string id) canonical status := by
  rw [Call.writeTo_eq_some]
  constructor
  · rintro ⟨⟨assign, hassign⟩, hvalue⟩
    cases c <;> cases hvalue
    cases hassign
    exact ⟨_, rfl⟩
  · rintro ⟨status, rfl⟩
    exact ⟨⟨_, rfl⟩, rfl⟩

theorem writeTo_routeOf {β : Type} {get : RouteResult → β} {c : Call} {id : Text} {x : β} :
    c.writeTo (fun c => (routeOf c).map get) id = some x ↔ ∃ destination ruleName status,
      get ⟨destination, ruleName⟩ = x ∧
        c = .updateRoute (.string id) destination ruleName status := by
  rw [Call.writeTo_eq_some]
  constructor
  · rintro ⟨⟨assign, hassign⟩, hvalue⟩
    cases c <;> cases hvalue
    cases hassign
    exact ⟨_, _, _, rfl, rfl⟩
  · rintro ⟨destination, ruleName, status, rfl, rfl⟩
    exact ⟨⟨_, rfl⟩, rfl⟩

theorem writeTo_translatedOf {c : Call} {id : Text} {translated : JsValue} :
    c.writeTo translatedOf id = some translated ↔
      c = .updateTranslated (.string id) translated := by
  rw [Call.writeTo_eq_some]
  constructor
  · rintro ⟨⟨assign, hassign⟩, hvalue⟩
    cases c <;> cases hvalue
    cases hassign
    rfl
  · rintro rfl
    exact ⟨⟨_, rfl⟩, rfl⟩

/-- A call with a value for a column is made once at most, if only one stage makes such calls. -/
theorem Report.once {p : Payment} {trace : List CallOutcome} {r : Except Failure PipelineResult}
    (h : Report p trace r) {β : Type} {value : Call → Option β} (stage : Stage)
    (hstage : ∀ i c, Makes p i c → (value c).isSome = true → i = stage)
    (hstatus : ∀ v status, value (.updateStatus v status) = none)
    (hlog : ∀ event, value (.log event) = none) :
    trace.countP (fun o => (value o.call).isSome) ≤ 1 := by
  refine h.countP_le_one stage (fun i o => hstage i o.call) (fun r => ?_) fun err r => ?_
  · rw [hstatus]
    rfl
  · rw [hlog]
    rfl

section Once

variable {p : Payment} {trace : List CallOutcome} {r : Except Failure PipelineResult}

theorem Report.canonicalOf_once (h : Report p trace r) :
    trace.countP (fun o => (canonicalOf o.call).isSome) ≤ 1 := by
  refine h.once .updateCanonical (fun i c hmakes hsome => ?_) (fun _ _ => rfl) fun _ => rfl
  cases c <;> cases hsome
  cases i <;> first | rfl | simp [Makes] at hmakes

theorem Report.routeOf_once (h : Report p trace r) :
    trace.countP (fun o => (routeOf o.call).isSome) ≤ 1 := by
  refine h.once .updateRoute (fun i c hmakes hsome => ?_) (fun _ _ => rfl) fun _ => rfl
  cases c <;> cases hsome
  cases i <;> first | rfl | simp [Makes] at hmakes

theorem Report.translatedOf_once (h : Report p trace r) :
    trace.countP (fun o => (translatedOf o.call).isSome) ≤ 1 := by
  refine h.once .updateTranslated (fun i c hmakes hsome => ?_) (fun _ _ => rfl)
    fun _ => rfl
  cases c <;> cases hsome
  cases i <;> first | rfl | simp [Makes] at hmakes

theorem Report.publish_once (h : Report p trace r) :
    trace.countP (fun o => isPublish o.call) ≤ 1 := by
  refine h.countP_le_one .publishToAdapter (fun i o hmakes hpublish => ?_)
    (fun _ => rfl) fun _ _ => rfl
  obtain ⟨c, r⟩ := o
  cases c <;> cases hpublish
  cases i <;> first | rfl | simp [Makes] at hmakes

end Once

section Runs

variable {W : Collaborators} {p : Payment} {α : Type} {f : Service α} {r : Except Failure α}
  {s t : Recorded Store CallOutcome} {id : Text}

/-- A row that was created in a run had not been there before it. -/
theorem unstored_of_created {q : NewPayment}
    (h : f.Eval (Program.traced (Call.faulty W)) s r t) (hnew : ¬ Completed (.create q) s.history)
    (hcreated : Completed (.create q) t.history) : s.store.payments q.paymentId = none := by
  induction f generalizing s with
  | done r₀ =>
    obtain ⟨-, rfl⟩ := h
    exact absurd hcreated hnew
  | call c next ih =>
    obtain ⟨r₀, u, ⟨hcall, hhist⟩, hnext⟩ := h
    by_cases hu : Completed (.create q) u.history
    · -- the call itself is the one that created the row
      obtain ⟨row, hmem⟩ := hu
      rw [hhist, List.mem_append, List.mem_singleton] at hmem
      rcases hmem with hmem | heq
      · exact absurd ⟨row, hmem⟩ hnew
      · cases heq
        rcases faulty_cases hcall with ⟨a, heq, hanswer⟩ | ⟨⟨e, he⟩, -⟩
        · exact (inserted_create hanswer).1
        · cases he
    · -- rows do not vanish, so that it was not there before the call either
      have hnone := ih r₀ hnext hu
      have hstatus := status_of_faulty hcall q.paymentId
      rw [Store.status, hnone, Option.map_none] at hstatus
      exact Option.map_eq_none_iff.mp (Option.or_eq_none_iff.mp hstatus.symm).2

theorem getLast?_eq_some_iff_mem {β : Type} {xs : List β} (h : xs.length ≤ 1) {x : β} :
    xs.getLast? = some x ↔ x ∈ xs := by
  match xs, h with
  | [], _ => simp
  | [y], _ => simp [eq_comm]

/-- A column that a run writes at most once has what the completed call wrote. -/
theorem column_of_run {β : Type} {get : PaymentRow → Option β} {value : Call → Option β}
    (hcolumn : WritesColumn get (Call.writeTo value))
    (h : f.Eval (Program.traced (Call.faulty W)) s r t) (hs : s.history = [])
    (hnone : s.store.payments id = none)
    (hone : t.history.countP (fun o => (value o.call).isSome) ≤ 1) (x : β) :
    t.store.column get id = some x ↔ ∃ c, Completed c t.history ∧ c.writeTo value id = some x := by
  obtain ⟨trace, htrace, hlast⟩ := Program.observe_eval_last (f := fun s : Store => s.column get id)
    (fun _ _ _ _ hcall => column_of_faulty hcolumn hcall id) h
  rw [hs, List.nil_append] at htrace
  subst htrace
  have hnocolumn : s.store.column get id = none := by
    rw [Store.column, hnone, Option.bind_none]
  -- there is one such write at most, so that the last one is the only one
  have hlength : (t.history.filterMap (written (Call.writeTo value id))).length ≤ 1 := by
    rw [List.length_filterMap_eq_countP]
    refine le_trans (List.countP_mono_left fun o _ ho => ?_) hone
    obtain ⟨c, r⟩ := o
    cases r with
    | ok a =>
      obtain ⟨x, hx⟩ := Option.isSome_iff_exists.mp ho
      exact Option.isSome_iff_exists.mpr ⟨x, (Call.writeTo_eq_some.mp hx).2⟩
    | error e => cases ho
  rw [hlast, hnocolumn, Option.or_none, getLast?_eq_some_iff_mem hlength, List.mem_filterMap]
  constructor
  · rintro ⟨⟨c, r⟩, hmem, hwrite⟩
    cases r with
    | ok a => exact ⟨c, ⟨a, hmem⟩, hwrite⟩
    | error e => cases hwrite
  · rintro ⟨c, ⟨a, hmem⟩, hwrite⟩
    exact ⟨⟨c, .ok a⟩, hmem, hwrite⟩

/-- What the completed calls of `execute` leave in the row that they created and marked. -/
theorem failedRow_of_report {r : Except Failure PipelineResult} {f : Service PipelineResult}
    (h : f.Eval (Program.traced (Call.faulty W)) s r t) (hs : s.history = [])
    (hreport : Report p t.history r) (hcreated : Completed (.create p.newPayment) t.history)
    (hmarked : Completed (.updateStatus (.string p.paymentId) .failed) t.history) :
    FailedRow p.paymentId t := by
  have hnone : s.store.payments p.paymentId = none :=
    unstored_of_created h (by simp [hs, Completed]) hcreated
  have hcanonical := fun x => column_of_run writes_canonical h hs hnone hreport.canonicalOf_once x
  have hroute := hreport.routeOf_once
  have hdestination := fun x => column_of_run writes_destination h hs hnone (by simpa using hroute) x
  have hrule := fun x => column_of_run writes_rule h hs hnone (by simpa using hroute) x
  have htranslated := fun x =>
    column_of_run writes_translated h hs hnone hreport.translatedOf_once x
  refine ⟨?_, fun x => ?_, fun x => ?_, fun x => ?_, fun x => ?_⟩
  · rw [status_of_run h hs, hreport.status_of_completed hmarked, Option.some_or]
  · rw [hcanonical]
    simp only [writeTo_canonicalOf]
    grind
  · rw [hdestination]
    simp only [writeTo_routeOf]
    grind
  · rw [hrule]
    simp only [writeTo_routeOf]
    grind
  · rw [htranslated]
    simp only [writeTo_translatedOf]
    grind

end Runs

/-- **The pipeline under failures.** -/
theorem execute_faults {W : Collaborators} {request : CreatePaymentRequest} {context : Context}
    {draws : Draws} {originRail : Rail} {store : Store} {r : Except Failure PipelineResult}
    {t : Recorded Store CallOutcome} (hrail : inferRail request.debtor.alias = .ok originRail)
    (h : (execute request context draws).Eval (Program.traced (Call.faulty W)) ⟨store, []⟩ r t) :
    let p := start request context draws originRail
    Report p t.history r ∧
      t.history.countP (fun o => isPublish o.call) ≤ 1 ∧
      t.store.audit = store.audit ++ t.history.filterMap (written Call.logged) ∧
      (Completed (.create p.newPayment) t.history →
        Completed (.updateStatus (.string p.paymentId) .failed) t.history →
        FailedRow p.paymentId t) := by
  intro p
  obtain ⟨trace, htrace, hreport⟩ := (execute_report hrail).eval (Program.eval_trace h)
  rw [List.nil_append] at htrace
  subst htrace
  exact ⟨hreport, hreport.publish_once, audit_of_run h rfl,
    failedRow_of_report h rfl hreport⟩

/-! ### A run in which the publishing fails -/

namespace Example

/-- The broker does not take the message, every other call answers. -/
def failPublish : (c : Call) → Recorded Store CallOutcome →
    Except Failure c.Result × Recorded Store CallOutcome
  | .publishToAdapter destination x, s =>
    let r := .error (.error (js "Channel closed"))
    (r, ⟨s.store, s.history ++ [⟨.publishToAdapter destination x, r⟩]⟩)
  | c, s => c.respondTraced host s

theorem failPublish_traced (c : Call) (s : Recorded Store CallOutcome) :
    Program.traced (Call.faulty host.collaborators) c s (failPublish c s).1 (failPublish c s).2 := by
  unfold failPublish
  split
  · exact ⟨Or.inr ⟨rfl, ⟨_, rfl⟩, rfl⟩, rfl⟩
  · exact traced_respondTraced host _ _

def unpublished : Except Failure PipelineResult × Recorded Store CallOutcome :=
  (execute request context draws).runWith failPublish ⟨store, []⟩

theorem unpublished_eval :
    (execute request context draws).Eval (Program.traced (Call.faulty host.collaborators))
      ⟨store, []⟩ unpublished.1 unpublished.2 :=
  Program.eval_runWith failPublish_traced _ _

end Example

theorem execute_faults_unpublished : FailedRow (paymentIdOf Example.ulid) Example.unpublished.2 :=
  have hrail : inferRail Example.request.debtor.alias = .ok .pix := by decide
  (execute_faults hrail Example.unpublished_eval).2.2.2
    ⟨_, List.mem_of_getElem? (i := 0) rfl⟩ ⟨_, List.mem_of_getElem? (i := 15) rfl⟩

end MipitCore.Pipeline
