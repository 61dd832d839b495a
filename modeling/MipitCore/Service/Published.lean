import MipitCore.Service.Writers

/-!
# What is published is what is stored

The broker is handed messages while other activities write to the same rows. Nevertheless
both agree: a payment is published at most once, to the queue of the rail that its row
names, with the route and the translation that its row has, and what its row has as the
canonical form is what was normalized into the message. A payment that is marked as
queued was published.

## Main definitions

* `publication` — what a completed call hands to the broker
* `Describes`, `Consistent` — the broker and the rows

## Main results

* `described_run`, `described_kept`, `published_once`
* `consistent_run` — every run of the service
* `Consistent.unqueued` — payments to rails without a queue
-/

namespace MipitCore

open Js Foundation Persistence Program

/-- What a completed call hands to the broker. -/
def publication : CallOutcome → Option (RoutingKey × AdapterMessage)
  | ⟨.publishToAdapter destination message, .ok _⟩ =>
    (railKeyMap destination).map fun key => (key, message)
  | _ => none

section Runs

variable {ι : Type} [DecidableEq ι] {W : Collaborators} {c d : Config Store ι (Service Unit)}
  {path : List (ServiceStep ι)}

theorem published_of_faulty {k : Call} {s t : Store} {r : Except Failure k.Result}
    (h : Call.faulty W k s r t) :
    t.published = s.published ++ (publication ⟨k, r⟩).toList := by
  rcases faulty_cases h with ⟨a, rfl, hanswer⟩ | ⟨⟨e, rfl⟩, rfl⟩
  · have hchanges := changes_of_answer hanswer
    cases k with
    | publishToAdapter destination message =>
      simp only [Call.answer, Store.publish] at hanswer
      cases hkey : railKeyMap destination with
      | none =>
        rw [hkey] at hanswer
        cases (Prod.mk.inj hanswer).1
      | some key =>
        rw [hkey] at hanswer
        rw [← (Prod.mk.inj hanswer).2]
        simp [publication, hkey]
    | create | updateStatus | updateCanonical | updateRoute | updateTranslated | updateRailAck
    | log | tryInsert | updateResponse =>
      obtain ⟨_, rfl⟩ := hchanges
      exact (List.append_nil _).symm
    | _ =>
      obtain rfl : t = s := hchanges
      exact (List.append_nil _).symm
  · cases k <;> exact (List.append_nil _).symm

/-- The broker has what was published. -/
theorem published_run (h : (service W ι).toLTS.Run c path d) :
    d.store.published = c.store.published ++ (outcomes path).filterMap fun l => publication l.2 := by
  refine h.induct (I := fun path d => d.store.published =
    c.store.published ++ (outcomes path).filterMap fun l => publication l.2) (by simp) ?_
  intro path d l e _ ih hstep
  rcases processes_cases hstep with ⟨i, k, next, r, -, rfl, hcall, -⟩ | ⟨rfl, htick, -⟩
  · rw [published_of_faulty hcall, ih, outcomes_append, outcomes_call, List.filterMap_append,
      List.append_assoc]
    cases hp : publication ⟨k, r⟩ <;> simp [hp]
  · obtain ⟨now, -, hstore⟩ := htick
    rw [hstore, outcomes_append, outcomes_environment, List.append_nil]
    exact ih

end Runs

section Service

variable {ι : Type} [DecidableEq ι] {W : Collaborators} {case' : CaseMapping} {webhooks : Bool}
  {activities : ι → Activity} {store : Store} {d : Config Store ι (Service Unit)}
  {path : List (ServiceStep ι)}

/-- The message that was handed to the broker under `key` is what the row says: its stored canonical
form, normalized; the route that this has, to a rail with a queue; and its translation. -/
structure Describes (W : Collaborators) (key : RoutingKey) (message : AdapterMessage)
    (row : PaymentRow) : Prop where
  traceId : row.traceId = message.traceId
  canonical : ∃ canonical, row.canonicalPayload = some canonical ∧
    W.normalize canonical (.ok message.canonical)
  destinationRail : row.destinationRail = some message.destinationRail
  routeRuleApplied : row.routeRuleApplied = some message.routeRuleApplied
  resolved : W.resolve message.canonical (.ok ⟨message.destinationRail, message.routeRuleApplied⟩)
  translatedPayload : row.translatedPayload = some message.translated
  encoded : W.fromCanonical message.destinationRail message.canonical (.ok message.translated)
  key : railKeyMap message.destinationRail = some key

/-- What the broker was handed and what is stored: each message describes its payment, none was
published twice, and those that were marked as queued were published. -/
structure Consistent (W : Collaborators) (s : Store) : Prop where
  stored : ∀ x ∈ s.published, ∃ row, s.payments x.2.paymentId = some row ∧ Describes W x.1 x.2 row
  once : ∀ id, s.published.countP (fun x => decide (x.2.paymentId = id)) ≤ 1
  queued : ∀ id row, s.payments id = some row → row.queuedAt ≠ none →
    ∃ x ∈ s.published, x.2.paymentId = id

/-- Who publishes a message is ready to, and the message goes to the queue of its rail. -/
theorem publisher_at {before after : List (ServiceStep ι)} {e : ServiceStep ι} {i : ι}
    {o : CallOutcome}
    (h : (service W ι).toLTS.Run (serviceStart case' webhooks activities store)
      (before ++ e :: after) d)
    (hlabel : e.label = some (i, o)) {x : RoutingKey × AdapterMessage}
    (hx : publication o = some x) :
    (∃ p : Pipeline.Payment, p.Ready (outcomesOf i before) x.2) ∧
      railKeyMap x.2.destinationRail = some x.1 ∧ Pipeline.isPublish o.call = true := by
  obtain ⟨hallows, -⟩ := allowed_at h hlabel
  obtain ⟨k, r⟩ := o
  cases k with
  | publishToAdapter destination message =>
    cases r with
    | error err => cases hx
    | ok u =>
      obtain ⟨key, hkey, rfl⟩ := Option.map_eq_some_iff.mp hx
      generalize activities i = activity at hallows
      cases activity with
      | pipeline request context draws =>
        obtain ⟨originRail, -, rfl, hready⟩ := hallows
        exact ⟨⟨_, hready⟩, hkey, rfl⟩
      | _ => exact hallows.elim
  | _ => cases hx

/-- **A message that was published in a run describes its payment**, then and later. -/
theorem described_run
    (h : (service W ι).toLTS.Run (serviceStart case' webhooks activities store) path d)
    {i : ι} {o : CallOutcome} (ho : (i, o) ∈ outcomes path) {x : RoutingKey × AdapterMessage}
    (hx : publication o = some x) :
    ∃ row, d.store.payments x.2.paymentId = some row ∧ Describes W x.1 x.2 row := by
  obtain ⟨before, e, after, rfl, hlabel, -, -, -⟩ := taken_run h ho
  obtain ⟨⟨p, hready⟩, hkey, -⟩ := publisher_at h hlabel hx
  -- what the activity had called before is in the run
  have hmem : ∀ {k : Call} {a : k.Result}, Returned k a (outcomesOf i before) →
      (i, ⟨k, .ok a⟩) ∈ outcomes (before ++ e :: after) := by
    intro k a ha
    rw [outcomes_append]
    exact List.mem_append_left _ (mem_outcomesOf.mp ha)
  obtain ⟨created, hcreated⟩ := hready.created
  obtain ⟨canonical, -, ⟨row₁, hcanonical⟩, hnormalized⟩ := hready.canonical
  obtain ⟨row₂, hrouted⟩ := hready.routed
  obtain ⟨row₃, htranslated⟩ := hready.translated
  obtain ⟨row, hrow, hidentity⟩ := created_run h (hmem hcreated)
  have hcredible : ∀ {k : Call} {a : k.Result}, Returned k a (outcomesOf i before) →
      Credible W ⟨k, .ok a⟩ := fun ha => by
    obtain ⟨-, -, -, hcredible⟩ := allowed_run h (hmem ha)
    exact hcredible
  have hcolumn : ∀ {β : Type} {get : PaymentRow → Option β} {v : β},
      d.store.column get p.paymentId = some v → get row = some v := by
    intro β get v hv
    rw [Store.column, show d.store.payments p.paymentId = some row from hrow, Option.bind_some] at hv
    exact hv
  rw [hready.paymentId]
  refine ⟨row, hrow, ?_⟩
  obtain ⟨-, -, hnormalize, -⟩ := (hcredible hnormalized).answer
  obtain ⟨-, -, hresolve, -⟩ := (hcredible hready.resolved).answer
  obtain ⟨-, -, hencode, -⟩ := (hcredible hready.encoded).answer
  exact {
    traceId := (congrArg NewPayment.traceId hidentity).trans hready.traceId.symm
    canonical := ⟨canonical, hcolumn (column_once Pipeline.writes_canonical canonical_once h
      (hmem hcanonical) (Pipeline.writeTo_canonicalOf.mpr ⟨_, rfl⟩)), hnormalize⟩
    destinationRail := hcolumn (column_once Pipeline.writes_destination (route_once _) h
      (hmem hrouted) (Pipeline.writeTo_routeOf.mpr ⟨_, _, _, rfl, rfl⟩))
    routeRuleApplied := hcolumn (column_once Pipeline.writes_rule (route_once _) h
      (hmem hrouted) (Pipeline.writeTo_routeOf.mpr ⟨_, _, _, rfl, rfl⟩))
    resolved := hresolve
    translatedPayload := hcolumn (column_once Pipeline.writes_translated translated_once h
      (hmem htranslated) (Pipeline.writeTo_translatedOf.mpr rfl))
    encoded := hencode
    key := hkey }

/-- The call marks a row as queued. -/
def queuedOf : Call → Option Unit
  | .updateStatus _ status => if status = .queued then some () else none
  | _ => none

theorem writes_queued :
    WritesColumn (fun row : PaymentRow => row.queuedAt.map fun _ => ()) (Call.writeTo queuedOf) := by
  refine .of_values (fun k now v assign h row => ?_) fun h => ?_
  · cases k with
    | updateStatus v status =>
      cases h
      by_cases hstatus : status = .queued <;> simp [queuedOf, assignStatus, hstatus]
    | updateCanonical | updateRoute | updateTranslated | updateRailAck =>
      cases h
      rfl
    | _ => cases h
  · unfold Persistence.create at h
    split at h <;> cases h
    rfl

/-- A message that was published before the run still describes its payment: the run's activities
have not created the row, so that they leave its columns alone. -/
theorem described_kept {key : RoutingKey} {message : AdapterMessage} {row : PaymentRow}
    (h : (service W ι).toLTS.Run (serviceStart case' webhooks activities store) path d)
    (hrow : store.payments message.paymentId = some row) (hdescribes : Describes W key message row) :
    ∃ row', d.store.payments message.paymentId = some row' ∧ Describes W key message row' := by
  obtain ⟨row', hrow', hextends⟩ := kept_run h hrow
  have hcolumn : ∀ {β : Type} {get : PaymentRow → Option β},
      d.store.column get message.paymentId = get row → get row' = get row := by
    intro β get hget
    rw [Store.column, hrow', Option.bind_some] at hget
    exact hget
  obtain ⟨canonical, hcanonical, hnormalize⟩ := hdescribes.canonical
  exact ⟨row', hrow', {
    traceId := (congrArg NewPayment.traceId hextends.identity).trans hdescribes.traceId
    canonical := ⟨canonical, (hcolumn (column_kept Pipeline.writes_canonical canonical_once h
      hrow)).trans hcanonical, hnormalize⟩
    destinationRail := (hcolumn (column_kept Pipeline.writes_destination (route_once _) h
      hrow)).trans hdescribes.destinationRail
    routeRuleApplied := (hcolumn (column_kept Pipeline.writes_rule (route_once _) h
      hrow)).trans hdescribes.routeRuleApplied
    resolved := hdescribes.resolved
    translatedPayload := (hcolumn (column_kept Pipeline.writes_translated translated_once h
      hrow)).trans hdescribes.translatedPayload
    encoded := hdescribes.encoded
    key := hdescribes.key }⟩

/-- Who publishes a message has not published its payment before, and nobody else has. -/
theorem not_published_before (hstore : Consistent W store) {before after : List (ServiceStep ι)}
    {e : ServiceStep ι} {i : ι} {o : CallOutcome}
    (h : (service W ι).toLTS.Run (serviceStart case' webhooks activities store)
      (before ++ e :: after) d)
    (hlabel : e.label = some (i, o)) {x y : RoutingKey × AdapterMessage}
    (hx : publication o = some x) (hy : y ∈ e.source.store.published) :
    y.2.paymentId ≠ x.2.paymentId := by
  intro hid
  obtain ⟨⟨p, hready⟩, -, -⟩ := publisher_at h hlabel hx
  obtain ⟨created, hcreated⟩ := hready.created
  have hcreated := mem_outcomesOf.mp hcreated
  obtain ⟨hbefore, -, -⟩ := h.split
  rw [published_run hbefore] at hy
  rcases List.mem_append.mp hy with hy | hy
  · obtain ⟨row, hrow, -⟩ := hstore.stored y hy
    rw [hid, hready.paymentId] at hrow
    exact not_created hbefore (q := p.newPayment) hrow hcreated
  · -- another message of the payment is from its creator, who publishes once
    obtain ⟨⟨j, o'⟩, ho', hy'⟩ := List.mem_filterMap.mp hy
    obtain ⟨before', e', after', rfl, hlabel', -, -, -⟩ := taken_run hbefore ho'
    obtain ⟨⟨p', hready'⟩, -, hpublish⟩ := publisher_at hbefore hlabel' hy'
    obtain ⟨created', hcreated'⟩ := hready'.created
    have hcreated' : (j, ⟨.create p'.newPayment, .ok created'⟩) ∈ outcomes (before' ++ e' :: after') := by
      rw [outcomes_append]
      exact List.mem_append_left _ (mem_outcomesOf.mp hcreated')
    have hsame : p.newPayment.paymentId = p'.newPayment.paymentId :=
      hready.paymentId.symm.trans (hid.symm.trans hready'.paymentId)
    obtain ⟨rfl, -⟩ := creator_unique hbefore hsame hcreated hcreated'
    rw [hready.unpublished o' (mem_outcomesOf.mpr ho')] at hpublish
    cases hpublish

theorem published_once (hstore : Consistent W store)
    (h : (service W ι).toLTS.Run (serviceStart case' webhooks activities store) path d) (id : Text) :
    d.store.published.countP (fun x => decide (x.2.paymentId = id)) ≤ 1 := by
  refine h.induct (I := fun _ d => d.store.published.countP
    (fun x => decide (x.2.paymentId = id)) ≤ 1) (hstore.once id) ?_
  intro path d l e hrun ih hstep
  rcases processes_cases hstep with ⟨i, k, next, r, -, rfl, hcall, -⟩ | ⟨rfl, htick, -⟩
  · rw [published_of_faulty hcall, List.countP_append]
    cases hx : publication ⟨k, r⟩ with
    | none => simpa using ih
    | some x =>
      by_cases hid : x.2.paymentId = id
      · have hnone : d.store.published.countP (fun x => decide (x.2.paymentId = id)) = 0 := by
          refine List.countP_eq_zero.mpr fun y hy => ?_
          rw [decide_eq_true_iff, ← hid]
          exact not_published_before hstore (hrun.snoc hstep) rfl hx hy
        rw [hnone, Nat.zero_add]
        exact List.countP_le_length
      · simpa [hid] using ih
  · obtain ⟨now, -, hstore'⟩ := htick
    rw [hstore']
    exact ih

/-- A payment is marked as queued by the activity that has published it. -/
theorem published_of_queued
    (h : (service W ι).toLTS.Run (serviceStart case' webhooks activities store) path d)
    {i : ι} {o : CallOutcome} {id : Text} (ho : (i, o) ∈ outcomes path)
    (hqueued : written (Call.writeTo queuedOf id) o = some ()) :
    ∃ x ∈ d.store.published, x.2.paymentId = id := by
  obtain ⟨history, hhistory, hallows, -⟩ := allowed_run h ho
  obtain ⟨k, r⟩ := o
  cases r with
  | error err => cases hqueued
  | ok row =>
    obtain ⟨⟨assign, hassign⟩, hvalue⟩ := Call.writeTo_eq_some.mp hqueued
    cases k with
    | updateStatus v status =>
      cases hassign
      obtain rfl : status = .queued := by
        by_contra hne
        simp [queuedOf, hne] at hvalue
      generalize activities i = activity at hallows
      cases activity with
      | pipeline request context draws =>
        obtain ⟨originRail, -, hv, hstatus⟩ := hallows
        rcases hstatus with ⟨hstatus, -⟩ | ⟨-, message, hid, u, hpublished⟩ | hstatus
        · cases hstatus
        · have ho' := hhistory _ hpublished
          obtain ⟨-, -, -, hcredible⟩ := allowed_run h ho'
          obtain ⟨s, t, hanswer⟩ := hcredible.answer
          cases hkey : railKeyMap message.destinationRail with
          | none =>
            simp only [Call.answer, Store.publish, hkey] at hanswer
            cases (Prod.mk.inj hanswer).1
          | some key =>
            refine ⟨(key, message), ?_, hid.trans (JsValue.string.inj hv).symm⟩
            rw [published_run h]
            refine List.mem_append_right _ (List.mem_filterMap.mpr ⟨_, ho', ?_⟩)
            simp [publication, hkey]
        · cases hstatus
      | ackConsumer => exact hallows.elim
      | dlqHandler => cases hallows
      | compensate | compensateBatch => rcases hallows with hstatus | hstatus <;> cases hstatus
    | updateCanonical | updateRoute | updateTranslated | updateRailAck => cases hvalue
    | _ => cases hassign

/-- **What is published is what is stored**, in every state that a run of the service reaches. -/
theorem consistent_run (hstore : Consistent W store)
    (h : (service W ι).toLTS.Run (serviceStart case' webhooks activities store) path d) :
    Consistent W d.store where
  stored := by
    intro x hx
    rw [published_run h] at hx
    rcases List.mem_append.mp hx with hx | hx
    · obtain ⟨row, hrow, hdescribes⟩ := hstore.stored x hx
      exact described_kept h hrow hdescribes
    · obtain ⟨⟨i, o⟩, ho, hx⟩ := List.mem_filterMap.mp hx
      exact described_run h ho hx
  once := published_once hstore h
  queued := by
    intro id row hrow hqueued
    have hcolumn := column_run writes_queued h id
    rw [Store.column, hrow, Option.bind_some] at hcolumn
    cases hlast : ((outcomes path).filterMap
        fun l => written (Call.writeTo queuedOf id) l.2).getLast? with
    | none =>
      -- it was queued before the run
      rw [hlast, Option.none_or] at hcolumn
      obtain ⟨n, hn⟩ := Option.ne_none_iff_exists'.mp hqueued
      rw [hn, Option.map_some] at hcolumn
      obtain ⟨old, hold, hn'⟩ := Option.bind_eq_some_iff.mp hcolumn.symm
      obtain ⟨x, hx, hid⟩ := hstore.queued id old hold fun hnone => by simp [hnone] at hn'
      exact ⟨x, by rw [published_run h]; exact List.mem_append_left _ hx, hid⟩
    | some u =>
      obtain ⟨⟨i, o⟩, ho, hwritten⟩ := List.mem_filterMap.mp (List.mem_of_getLast? hlast)
      exact published_of_queued h ho hwritten

/-- A payment that was routed to a rail without a queue is never marked as queued. -/
theorem Consistent.unqueued {s : Store} (hs : Consistent W s) {id : Text} {row : PaymentRow}
    {rail : Text} (hrow : s.payments id = some row) (hrail : row.destinationRail = some rail)
    (hkey : railKeyMap rail = none) : row.queuedAt = none := by
  by_contra hqueued
  obtain ⟨x, hx, rfl⟩ := hs.queued id row hrow hqueued
  obtain ⟨row', hrow', hdescribes⟩ := hs.stored x hx
  obtain rfl := Option.some.inj (hrow.symm.trans hrow')
  obtain rfl := Option.some.inj (hrail.symm.trans hdescribes.destinationRail)
  cases hkey.symm.trans hdescribes.key

end Service

/-- A payment that is published by one run of `execute`, while another one uses its identifier. -/
theorem consistent_run_published :
    let d := (Example.runService (fun _ : Bool => Example.pixPayment)
      (List.replicate 17 true ++ List.replicate 3 false)).2
    d.store.published.length = 1 ∧ Consistent Pipeline.Example.host.collaborators d.store := by
  refine ⟨by decide, consistent_run ⟨by simp [Pipeline.Example.store],
    by simp [Pipeline.Example.store], fun id row hrow => by cases hrow⟩ (Example.run_service _ _)⟩

end MipitCore
