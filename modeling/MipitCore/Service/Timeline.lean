import MipitCore.Service.Writers

/-!
# The times of a payment's stages

`execute` marks a payment as validated, stores its canonical form, routes it and marks it as
queued, each with the time of the statement. The four times are in this order in every row
of every state that a run of the service reaches, and none is there without those before it
(`timeline_run`): a run of `execute` keeps to the order of its stages, and runs for a payment
that another one has created make no such update.

## Main definitions

* `Stage.time`, `Stage.Before`, `stageOf` — the stages that set a time
* `InPlace` — a call of such a stage comes after the stages before it
* `Timeline`

## Main results

* `activity_inPlace`
* `InPlace.made`, `InPlace.unmade` — what an activity has called before such a call
* `timeline_run`
-/

namespace MipitCore

open Js Foundation Persistence Program Pipeline

namespace Pipeline.Stage

/-- The time that the call of a stage sets. -/
def time : Stage → Option (PaymentRow → Option ℕ)
  | validated => some PaymentRow.validatedAt
  | updateCanonical => some PaymentRow.canonicalizedAt
  | updateRoute => some PaymentRow.routedAt
  | queued => some PaymentRow.queuedAt
  | _ => none

/-- The stage comes before the other one. -/
def Before (stage stage' : Stage) : Prop := order.idxOf stage < order.idxOf stage'

instance decidableBefore : DecidableRel Before := fun stage stage' =>
  Nat.decLt (order.idxOf stage) (order.idxOf stage')

end Pipeline.Stage

/-- The stage whose call sets a time, if the call is one of these. -/
def stageOf : Call → Option Stage
  | .updateStatus _ .validated => some .validated
  | .updateStatus _ .queued => some .queued
  | .updateCanonical _ _ _ => some .updateCanonical
  | .updateRoute _ _ _ _ => some .updateRoute
  | _ => none

/-- A call that sets such a time is made by `execute`, after the stages before it. -/
def InPlace (h : List CallOutcome) (c : Call) : Prop :=
  stageOf c = none ∨ ∃ p : Payment, Placed (Stage.order.map (Stage.Makes p)) h c

/-- No stage has a time without the stages before it, nor one before theirs. -/
def Timeline (row : PaymentRow) : Prop :=
  ∀ (stage stage' : Stage) (time time' : PaymentRow → Option ℕ), stage.time = some time →
    stage'.time = some time' → stage.Before stage' →
      ∀ m', time' row = some m' → ∃ m, time row = some m ∧ m ≤ m'

/-- The calls of the activities other than `execute` set no such time. -/
theorem stageOf_calls {activity : Activity} {c : Call} (hc : activity.Calls c)
    (hactivity : ∀ request context draws, activity ≠ .pipeline request context draws) :
    stageOf c = none := by
  cases activity with
  | pipeline request context draws => exact absurd rfl (hactivity request context draws)
  | ackConsumer => cases c <;> first | rfl | exact hc.elim
  | dlqHandler =>
    cases c with
    | updateStatus v status =>
      obtain rfl : status = .deadLetter := hc
      rfl
    | _ => first | rfl | exact hc.elim
  | compensate | compensateBatch =>
    cases c with
    | updateStatus v status =>
      rcases hc with rfl | rfl <;> rfl
    | _ => first | rfl | exact hc.elim

theorem handle_unstamped (p : Payment) (err : Failure) :
    (p.handle err).Makes fun c => stageOf c = none :=
  .bind (.tryCatch (.bind (makes_perform.mpr rfl) fun _ => makes_perform.mpr rfl) fun _ => trivial)
    fun _ => trivial

/-- **Every activity makes the calls of the stages in place.** -/
theorem activity_inPlace {P : CallOutcome → Prop} (case' : CaseMapping) (webhooks : Bool)
    (activity : Activity) :
    (activity.program case' webhooks).Ordered P InPlace (fun _ _ => True) [] := by
  cases activity with
  | pipeline request context draws =>
    refine ordered_discard ?_
    rw [Pipeline.execute]
    cases hrail : Pipeline.inferRail request.debtor.alias with
    | error err => exact Program.ordered_done trivial
    | ok originRail =>
      have hmade : MadeAll ([] : List (Call → Prop)) ([] : List CallOutcome) := ⟨.nil, by simp⟩
      have hrun : (start request context draws originRail).run.Ordered P InPlace
          (fun _ _ => True) [] :=
        ((run_follows _).ordered (List.nil_append _).symm hmade).allow fun h c hc => Or.inr ⟨_, hc⟩
      refine Ordered.tryCatch (hrun.mono fun h r _ => ?_)
      cases r with
      | ok result => trivial
      | error err => exact Ordered.of_makes (handle_unstamped _ err) fun _ _ hc => Or.inl hc
  | _ =>
    exact Ordered.of_makes (makes_calls case' webhooks _) fun _ _ hc =>
      Or.inl (stageOf_calls hc (by simp))

/-! ### What an activity has called before a stage -/

section Stages

variable {p : Payment} {h : List CallOutcome} {c : Call} {stage stage' : Stage}

/-- The call of a stage that sets a time tells the stage. -/
theorem stage_of_makes (hmakes : Stage.Makes p stage c) (hc : stageOf c = some stage') :
    stage = stage' := by
  cases c with
  | updateStatus v status =>
    cases status <;> cases hc <;> cases stage <;> first | rfl | simp [Stage.Makes] at hmakes
  | updateCanonical v canonical status =>
    cases hc
    cases stage <;> first | rfl | simp [Stage.Makes] at hmakes
  | updateRoute v destination ruleName status =>
    cases hc
    cases stage <;> first | rfl | simp [Stage.Makes] at hmakes
  | _ => cases hc

/-- The call of a stage that sets a time updates the payment's row. -/
theorem assign_of_makes {time : PaymentRow → Option ℕ} (htime : stage.time = some time)
    (hmakes : Stage.Makes p stage c) :
    stageOf c = some stage ∧ ∃ assign, c.assign 0 = some (.string p.paymentId, assign) := by
  cases stage with
  | validated =>
    obtain rfl : c = _ := hmakes
    exact ⟨rfl, _, rfl⟩
  | updateCanonical =>
    obtain ⟨canonical, rfl⟩ := hmakes
    exact ⟨rfl, _, rfl⟩
  | updateRoute =>
    obtain ⟨destination, ruleName, rfl⟩ := hmakes
    exact ⟨rfl, _, rfl⟩
  | queued =>
    obtain rfl : c = _ := hmakes
    exact ⟨rfl, _, rfl⟩
  | _ => cases htime

theorem mem_take_order {n : ℕ} : stage ∈ Stage.order.take n ↔ Stage.order.idxOf stage < n :=
  List.mem_take_iff_idxOf_lt (by cases stage <;> decide)

/-- **A call in place is that of its stage**, after the calls of all stages before it, and of no
others. -/
theorem InPlace.stages (hplace : InPlace h c) (hc : stageOf c = some stage) :
    ∃ p : Payment, Stage.Makes p stage c ∧
      (∀ stage', stage'.Before stage → ∃ c', Stage.Makes p stage' c' ∧ Completed c' h) ∧
      ∀ o ∈ h, ∃ stage', stage'.Before stage ∧ Stage.Makes p stage' o.call := by
  rcases hplace with hnone | ⟨p, n, step, hstep, hmakes, hcalls, hok⟩
  · cases hnone.symm.trans hc
  · rw [List.getElem?_map, Option.map_eq_some_iff] at hstep
    obtain ⟨stage₀, hn, rfl⟩ := hstep
    obtain rfl := stage_of_makes hmakes hc
    rw [← List.map_take] at hcalls
    -- the stages before it are those that were taken from the order
    have hindex : Stage.order.idxOf stage₀ = n := by
      obtain ⟨hlt, rfl⟩ := List.getElem?_eq_some_iff.mp hn
      have hnodup : Stage.order.Nodup := by decide
      exact hnodup.idxOf_getElem n hlt
    have hbefore : ∀ stage', stage' ∈ Stage.order.take n ↔ stage'.Before stage₀ := fun stage' => by
      rw [mem_take_order, ← hindex]
      rfl
    refine ⟨p, hmakes, fun stage' hstage' => ?_, fun o ho => ?_⟩
    · obtain ⟨⟨c', r⟩, ho, hmakes'⟩ := hcalls.exists_outcome
        (List.mem_map_of_mem ((hbefore stage').mpr hstage'))
      cases r with
      | ok a => exact ⟨c', hmakes', a, ho⟩
      | error e => cases hok _ ho
    · obtain ⟨step, hstep, ho⟩ := hcalls.exists_step ho
      obtain ⟨stage', hstage', rfl⟩ := List.mem_map.mp hstep
      exact ⟨stage', (hbefore stage').mp hstage', ho⟩

end Stages

/-! ### The columns -/

/-- An update sets the time of its stage, and no other stage's. -/
theorem time_assign {c : Call} {now : ℕ} {v : JsValue} {assign : PaymentRow → PaymentRow}
    {stage : Stage} {time : PaymentRow → Option ℕ} (htime : stage.time = some time)
    (hassign : c.assign now = some (v, assign)) (row : PaymentRow) :
    time (assign row) = if stageOf c = some stage then some now else time row := by
  cases stage with
  | validated | updateCanonical | updateRoute | queued =>
    cases htime
    cases c with
    | updateStatus v status =>
      cases hassign
      cases status <;> rfl
    | updateCanonical | updateRoute | updateTranslated | updateRailAck =>
      cases hassign
      rfl
    | _ => cases hassign
  | _ => cases htime

/-- The row that a call updates does not depend on the time. -/
theorem named_assign {c : Call} {now now' : ℕ} {v v' : JsValue}
    {assign assign' : PaymentRow → PaymentRow} (h : c.assign now = some (v, assign))
    (h' : c.assign now' = some (v', assign')) : v = v' := by
  cases c <;> cases h <;> cases h' <;> rfl

/-- The call sets the time of the stage. -/
def stamps (stage : Stage) (c : Call) : Option Unit :=
  if stageOf c = some stage then some () else none

theorem time_mem_times {stage : Stage} {time : PaymentRow → Option ℕ} (h : stage.time = some time) :
    time ∈ PaymentRow.times := by
  cases stage <;> cases h <;> simp [PaymentRow.times]

theorem writes_time {stage : Stage} {time : PaymentRow → Option ℕ} (htime : stage.time = some time) :
    WritesColumn (fun row => (time row).map fun _ => ()) (Call.writeTo (stamps stage)) := by
  refine .of_values (fun c now v assign hassign row => ?_) fun h => ?_
  · rw [time_assign htime hassign, stamps]
    split_ifs <;> simp
  · have htimes := times_of_unfilled (unfilled_create h)
    rw [htimes time (time_mem_times htime), Option.map_none]

section Runs

variable {ι : Type} [DecidableEq ι] {W : Collaborators} {case' : CaseMapping} {webhooks : Bool}
  {activities : ι → Activity} {store : Store} {d : Config Store ι (Service Unit)}
  {path : List (ServiceStep ι)}

theorem inPlace_at {before after : List (ServiceStep ι)} {e : ServiceStep ι} {i : ι}
    {o : CallOutcome}
    (h : (service W ι).toLTS.Run (serviceStart case' webhooks activities store)
      (before ++ e :: after) d)
    (hlabel : e.label = some (i, o)) : InPlace (outcomesOf i before) o.call :=
  (ordered_run (P := fun _ => True) (fun _ _ _ _ _ _ => trivial)
    (fun i => activity_inPlace case' webhooks (activities i)) h hlabel).1

theorem create_before {c : Call} {stage : Stage} (hc : stageOf c = some stage) :
    Stage.create.Before stage := by
  cases c with
  | updateStatus v status => cases status <;> cases hc <;> decide
  | updateCanonical | updateRoute =>
    cases hc
    decide
  | _ => cases hc

/-- Who makes the call of a stage has created the row. -/
theorem created_before {before after : List (ServiceStep ι)} {e : ServiceStep ι} {i : ι}
    {o : CallOutcome} {stage : Stage}
    (h : (service W ι).toLTS.Run (serviceStart case' webhooks activities store)
      (before ++ e :: after) d)
    (hlabel : e.label = some (i, o)) (hstage : stageOf o.call = some stage) :
    ∃ p : Payment, Stage.Makes p stage o.call ∧
      ∃ a, (i, ⟨.create p.newPayment, .ok a⟩) ∈ outcomes before := by
  obtain ⟨p, hmakes, hmade, -⟩ := (inPlace_at h hlabel).stages hstage
  obtain ⟨c', hcreate, a, ha⟩ := hmade .create (create_before hstage)
  obtain rfl : c' = .create p.newPayment := hcreate
  exact ⟨p, hmakes, a, mem_outcomesOf.mp ha⟩

/-- **Only the creator of a row sets the times of its stages.** -/
theorem stamped_by_creator
    (h : (service W ι).toLTS.Run (serviceStart case' webhooks activities store) path d)
    {i : ι} {q : NewPayment} {a : PaymentRow}
    (hcreated : (i, ⟨.create q, .ok a⟩) ∈ outcomes path) {stage : Stage}
    {time : PaymentRow → Option ℕ} (htime : stage.time = some time) {row : PaymentRow}
    (hrow : d.store.payments q.paymentId = some row) {m : ℕ} (hm : time row = some m) :
    ∃ o, (i, o) ∈ outcomes path ∧ stageOf o.call = some stage := by
  have hcolumn := column_run (writes_time htime) h q.paymentId
  rw [Store.column, hrow, Option.bind_some, hm, Option.map_some] at hcolumn
  cases hlast : ((outcomes path).filterMap
      fun l => written (Call.writeTo (stamps stage) q.paymentId) l.2).getLast? with
  | none =>
    -- the row was not there at the start
    rw [hlast, Option.none_or] at hcolumn
    obtain ⟨old, hold, -⟩ := Option.bind_eq_some_iff.mp hcolumn.symm
    exact absurd hcreated (not_created h hold)
  | some u =>
    obtain ⟨⟨j, o⟩, ho, hwritten⟩ := List.mem_filterMap.mp (List.mem_of_getLast? hlast)
    have hvalue := value_of_written hwritten
    have hstage : stageOf o.call = some stage := by
      by_contra hne
      simp [stamps, hne] at hvalue
    obtain ⟨before, e, after, rfl, hlabel, -, -, -⟩ := taken_run h ho
    obtain ⟨p, hmakes, a', hcreated'⟩ := created_before h hlabel hstage
    have hcreated' : (j, ⟨.create p.newPayment, .ok a'⟩) ∈ outcomes (before ++ e :: after) := by
      rw [outcomes_append]
      exact List.mem_append_left _ hcreated'
    -- the call names the row that it has created
    have hid : q.paymentId = p.newPayment.paymentId := by
      obtain ⟨-, assign, hassign⟩ := assign_of_makes htime hmakes
      obtain ⟨k, r⟩ := o
      cases r with
      | error err => cases hwritten
      | ok b =>
        obtain ⟨⟨assign', hassign'⟩, -⟩ := Call.writeTo_eq_some.mp hwritten
        exact JsValue.string.inj (Prod.mk.inj (Option.some.inj (hassign'.symm.trans hassign))).1
    obtain ⟨rfl, -⟩ := creator_unique h hid hcreated hcreated'
    exact ⟨o, ho, hstage⟩

/-- **An update keeps the times in order**: those before it are there, and those after it are not. -/
theorem timeline_assign {e : ServiceStep ι} {i : ι} {k : Call} {r : Except Failure k.Result}
    (h : (service W ι).toLTS.Run (serviceStart case' webhooks activities store) (path ++ [e]) d)
    (hlabel : e.label = some (i, ⟨k, r⟩)) {id : Text} {old : PaymentRow}
    {assign : PaymentRow → PaymentRow}
    (hassign : k.assign e.source.store.now = some (.string id, assign))
    (hold : e.source.store.payments id = some old) (hsound : Sound e.source.store.now old)
    (htimeline : Timeline old) : Timeline (assign old) := by
  intro stage stage' time time' htime htime' hbefore m' hm'
  rw [time_assign htime' hassign] at hm'
  rw [time_assign htime hassign]
  obtain ⟨hrun, -, -⟩ := h.split
  by_cases hlater : stageOf k = some stage'
  · -- the later time is set now; the earlier one was set in the same run of `execute`
    rw [if_pos hlater] at hm'
    obtain rfl := Option.some.inj hm'
    obtain ⟨p, hmakes, hmade, -⟩ := (inPlace_at h hlabel).stages hlater
    obtain ⟨c', hmakes', a, ha⟩ := hmade stage hbefore
    obtain ⟨-, assign', hassign'⟩ := assign_of_makes htime hmakes'
    obtain ⟨id', row, hid', hrow, hfilled⟩ := filled_run hrun (mem_outcomesOf.mp ha) hassign'
    obtain rfl : id' = id := by
      obtain ⟨-, assign'', hassign''⟩ := assign_of_makes htime' hmakes
      exact JsValue.string.inj (hid'.symm.trans (named_assign hassign'' hassign))
    obtain rfl := Option.some.inj (hold.symm.trans hrow)
    have hset : (time old).isSome = true := by
      refine hfilled (fun row => (time row).isSome) (time_mem_columns (time_mem_times htime)) ?_
      intro now v assign'' hassign'' row
      obtain ⟨hstage, -⟩ := assign_of_makes htime hmakes'
      dsimp only
      rw [time_assign htime hassign'', if_pos hstage]
      rfl
    obtain ⟨m, hm⟩ := Option.isSome_iff_exists.mp hset
    obtain ⟨n, hn, hle⟩ := hsound.dated time (time_mem_times htime) m hm
    split_ifs
    · exact ⟨_, rfl, le_rfl⟩
    · exact ⟨m, hm, hle.trans (hsound.updated n hn)⟩
  · rw [if_neg hlater] at hm'
    by_cases hearlier : stageOf k = some stage
    · -- the earlier time is set now; the later one would have been set in the same run before
      obtain ⟨p, hmakes, a, hcreated⟩ := created_before h hlabel hearlier
      obtain rfl : p.paymentId = id := by
        obtain ⟨-, assign', hassign'⟩ := assign_of_makes htime hmakes
        exact JsValue.string.inj (named_assign hassign' hassign)
      obtain ⟨o, ho, hstage'⟩ := stamped_by_creator hrun hcreated htime' hold hm'
      obtain ⟨p', -, -, hmade⟩ := (inPlace_at h hlabel).stages hearlier
      obtain ⟨stage'', hbefore', hmakes'⟩ := hmade o (mem_outcomesOf.mpr ho)
      obtain rfl := stage_of_makes hmakes' hstage'
      exact absurd hbefore (Nat.lt_asymm hbefore')
    · rw [if_neg hearlier]
      exact htimeline stage stage' time time' htime htime' hbefore m' hm'

/-- **The times of a payment's stages are in order**, in every state that a run of the service
reaches. -/
theorem timeline_run
    (hstore : ∀ id row, store.payments id = some row → Sound store.now row ∧ Timeline row)
    (h : (service W ι).toLTS.Run (serviceStart case' webhooks activities store) path d)
    {id : Text} {row : PaymentRow} (hrow : d.store.payments id = some row) : Timeline row := by
  refine h.induct (I := fun _ d => ∀ id row, d.store.payments id = some row → Timeline row)
    (fun id row hrow => (hstore id row hrow).2) ?_ id row hrow
  intro path d l e hrun ih hstep id row hrow
  rcases processes_cases hstep with ⟨i, k, next, r, -, rfl, hcall, -⟩ | ⟨rfl, htick, -⟩
  · rcases row_cases hcall hrow with ⟨p, rfl, -, hunfilled⟩ | ⟨assign, old, hassign, hok, hold, rfl⟩ |
      hrow
    · intro stage stage' time time' htime htime' hbefore m' hm'
      rw [times_of_unfilled hunfilled time' (time_mem_times htime')] at hm'
      cases hm'
    · have hsound : Sound d.store.now old :=
        sound_run (fun id row hrow => (hstore id row hrow).1) hrun hold
      exact timeline_assign (hrun.snoc hstep) rfl hassign hold hsound (ih id old hold)
    · exact ih id row hrow
  · obtain ⟨now, -, hstore'⟩ := htick
    rw [hstore'] at hrow
    exact ih id row hrow

end Runs

/-- A payment that is published has the four times. -/
theorem timeline_run_published : ∃ row,
    Example.published.2.store.payments (paymentIdOf Pipeline.Example.ulid) = some row ∧
      row.queuedAt.isSome = true ∧ Timeline row := by
  have hrow : (Example.published.2.store.payments (paymentIdOf Pipeline.Example.ulid)).map
      (fun row => row.queuedAt.isSome) = some true := by decide
  obtain ⟨row, hpublished, hqueued⟩ := Option.map_eq_some_iff.mp hrow
  exact ⟨row, hpublished, hqueued, timeline_run (fun _ _ hrow => by cases hrow)
    ((Example.run_service (fun _ : Unit => Example.pixPayment) (List.replicate 5 ())).append
      Example.run_published) hpublished⟩

end MipitCore
