import MipitCore.Messaging.AckApplied
import MipitCore.Webhooks.Deliveries

/-!
# What the subscriptions say of their deliveries

Between an acknowledgement and the row of a subscription lie four events of which each may
fail or be late: webhooks are fired, subscriptions are selected, requests are answered, and
the answers recorded. Whatever the order, a row counts the answers that were recorded in it
and shows the last of them; and a client gets no more requests than there were
acknowledgements that gave its payment a status it listens to (`accounted`).

## Main definitions

* `answersTo`, `recordedFor`, `tells` — what a run says of a subscription
* `Accounted`
* `Booked` — the invariant

## Main results

* `fired_of_eval` — an acknowledgement fires at most once, for the row that it has written
* `booked_step`, `accounted`
-/

namespace MipitCore.Webhooks

open Js Foundation Persistence Program

/-- What the event says that the subscription was answered. -/
def Event.answer (id : Text) : Event → Option FetchResult
  | .fetch id' result => if id' = id then some result else none
  | _ => none

/-- What the event records in the row of the subscription. -/
def Event.record (id : Text) : Event → Option FetchResult
  | .recordDelivery id' result true => if id' = id then some result else none
  | _ => none

/-- What the subscription was answered. -/
def answersTo (id : Text) (path : List (Transition State Event)) : List FetchResult :=
  path.filterMap fun e => e.label.answer id

/-- What was recorded in the row of the subscription. -/
def recordedFor (id : Text) (path : List (Transition State Event)) : List FetchResult :=
  path.filterMap fun e => e.label.record id

/-- An acknowledgement has given the payment one of the statuses. -/
def tells (paymentId : Text) (events : List PaymentStatus) (e : Transition State Event) : Bool :=
  match e.label with
  | .ack (some ack) =>
    match ack.getOptional "payment_id" with
    | .string id =>
      id = paymentId && events.contains (Messaging.statusOf ack) &&
        e.target.store.status paymentId == some (Messaging.statusOf ack)
    | _ => false
  | _ => false

/-- The row counts the answers and shows the last of them. -/
structure Shows (results : List FetchResult) (sub : WebhookSubscription) : Prop where
  attempts : sub.deliveryAttempts = results.length
  fired : sub.firedAt.isSome = results.getLast?.isSome
  status : sub.lastHttpStatus = results.getLast?.map fun result => result.outcome.1
  error : sub.lastError = results.getLast?.bind fun result => result.outcome.2

/-- The row shows what was recorded in it; all of that was answered, and no more was asked, answered
or not, than acknowledgements have told. -/
structure Accounted (path : List (Transition State Event)) (s : State) (sub : WebhookSubscription) :
    Prop where
  shown : Shows (recordedFor sub.id path) sub
  answered : List.Subperm (recordedFor sub.id path) (answersTo sub.id path)
  told : (answersTo sub.id path).length + s.deliveries.countP (Delivery.waits sub.id) ≤
    path.countP (tells sub.paymentId sub.events)

/-- Each payment is stored under its own identifier. -/
def Keyed (s : Store) : Prop := ∀ id row, s.payments id = some row → row.paymentId = id

theorem Keyed.update {s t : Store} {id : Text} {row : PaymentRow} (hs : Keyed s)
    (hpayments : t.payments = Function.update s.payments id (some row))
    (hid : row.paymentId = id) : Keyed t := by
  intro id' row' hrow
  rw [hpayments] at hrow
  by_cases heq : id' = id
  · rw [heq, Function.update_self] at hrow
    rw [heq, ← Option.some.inj hrow, hid]
  · rw [Function.update_of_ne heq] at hrow
    exact hs id' row' hrow

/-! ### One acknowledgement -/

section Acknowledgement

open Messaging

variable {W : Collaborators} {case' : CaseMapping} {ack : JsValue} {s : Store}

theorem fired_append (history history' : List (Foundation.Event Call)) :
    fired (history ++ history') = fired history ++ fired history' := by
  rw [fired, List.filterMap_append]
  rfl

theorem fired_fireForPayment {row : PaymentRow}
    (hterminal : terminalStatuses.contains row.status = true) :
    fired [⟨.fireForPayment row, true⟩] = [row] := by
  simp only [fired, List.filterMap_cons, List.filterMap_nil, if_pos hterminal]

/-- Nothing was fired, or the row that was written. -/
def FiredFor (ack : JsValue) (s : Store) (t : Recorded Store (Foundation.Event Call)) : Prop :=
  fired t.history = [] ∨
    ∃ row, RowUpdated ack s row t.store.payments ∧ fired t.history = [row]

theorem settle_firedFor (settlement : Settlement) {t : Recorded Store (Foundation.Event Call)}
    (h : FiredFor ack s t) :
    (settle settlement).Safe (Interp.record (Call.faulty W)) (Discipline.alone _)
      (fun u _ => FiredFor ack s u) t := by
  refine Safe.perform_alone fun r u hcall => ?_
  obtain ⟨-, hstore, hhist⟩ := recorded_unawaited rfl hcall
  have hfired : fired u.history = fired t.history := by
    rw [hhist, fired_append]
    exact List.append_nil _
  rw [FiredFor, hfired, hstore]
  exact h

theorem ackActor_safe (t : Recorded Store (Foundation.Event Call)) :
    (ackActor case' ack).Safe (Interp.record (Call.faulty W)) (Discipline.alone _)
      (fun u _ => u = t) t := by
  unfold ackActor
  split
  · exact fun u _ hu => hu
  · exact fun u _ hu => hu

theorem statusOf_terminal (ack : JsValue) : terminalStatuses.contains (statusOf ack) = true := by
  unfold statusOf finalStatus
  split
  · split_ifs <;> rfl
  · rfl

/-- The body of the `try` fires at most once, and for the row that it has written. -/
theorem applyAck_firedFor :
    (applyAck case' true ack (ack.getOptional "rail_ack")).Safe
      (Interp.record (Call.faulty W)) (Discipline.alone _) (fun t _ => FiredFor ack s t) ⟨s, []⟩ := by
  refine Safe.bind (Safe.perform_alone fun r t hcall => ?_)
  rcases recorded_cases hcall with ⟨row, rfl, hanswer, hhist⟩ | ⟨⟨e, rfl⟩, -, hhist⟩
  · obtain ⟨id, old, hid, hold, hrow, ht⟩ := assigned_updateRailAck hanswer
    have hupdated : RowUpdated ack s row t.store.payments := by
      refine ⟨id, old, hid, hold, hrow, ?_⟩
      rw [ht, hrow]
    have hnone : fired t.history = [] := by
      rw [hhist]
      rfl
    refine Safe.bind ((ackActor_safe t).mono fun u r _ hu => ?_)
    subst hu
    cases r with
    | error e => exact Or.inl hnone
    | ok actor =>
      refine Safe.bind (Safe.perform_alone fun r v hlog => ?_)
      have hnone' : fired v.history = [] := by
        rcases recorded_cases hlog with ⟨_, -, -, hhist'⟩ | ⟨-, -, hhist'⟩ <;>
          rw [hhist', fired_append, hnone] <;> rfl
      rcases recorded_cases hlog with ⟨_, rfl, hanswer', -⟩ | ⟨⟨e, rfl⟩, -, -⟩
      · -- from here on the row stays as it was written
        refine Safe.bind (Safe.perform_alone fun r w hfire => ?_)
        obtain ⟨hok, hstore, hhist''⟩ := recorded_unawaited rfl hfire
        cases r with
        | error e => cases hok
        | ok _ =>
          refine settle_firedFor _ (Or.inr ⟨row, ?_, ?_⟩)
          · rw [hstore, inserted_log hanswer']
            exact hupdated
          · have hterminal : terminalStatuses.contains row.status = true := by
              rw [hrow]
              exact statusOf_terminal ack
            rw [hhist'', fired_append, hnone']
            exact fired_fireForPayment hterminal
      · exact Or.inl hnone'
  · refine Or.inl ?_
    rw [hhist]
    rfl

/-- **An acknowledgement fires at most once**, and for the row that it has written. -/
theorem ackConsumer_firedFor :
    (ackConsumer case' true (some (some ack))).Safe (Interp.record (Call.faulty W))
      (Discipline.alone _) (fun t _ => FiredFor ack s t) ⟨s, []⟩ := by
  cases hack : ack.isNullish with
  | true =>
    rw [ackConsumer, prop_nullish hack]
    refine Safe.bind ?_
    rintro t - rfl
    exact Or.inl rfl
  | false =>
    rw [ackConsumer, prop_eq hack]
    refine Safe.bind (Safe.pure ?_)
    rintro t - rfl
    dsimp only
    split
    · exact settle_firedFor _ (Or.inl rfl)
    · refine Safe.tryCatch (applyAck_firedFor.mono fun t r _ ht => ?_)
      cases r with
      | ok _ => exact ht
      | error e => exact settle_firedFor _ ht

/-- The payments that an acknowledgement fires webhooks for are told of by it. -/
theorem fired_of_eval (hs : Keyed s) {content : Option JsValue} {r : Except Failure Unit}
    {t : Recorded Store (Foundation.Event Call)}
    (heval : (ackConsumer case' true (some content)).Eval (Interp.record (Call.faulty W)) ⟨s, []⟩
      r t) :
    fired t.history = [] ∨ ∃ ack row, content = some ack ∧ fired t.history = [row] ∧
      ack.getOptional "payment_id" = .string row.paymentId ∧ row.status = statusOf ack ∧
      t.store.status row.paymentId = some (statusOf ack) := by
  cases content with
  | none =>
    refine Or.inl ?_
    have hnone : FiredFor .null s t :=
      Safe.eval (Q := fun t _ => FiredFor .null s t) (settle_firedFor _ (Or.inl rfl)) heval
    rcases hnone with hnone | ⟨row, ⟨id, old, hid, -⟩, -⟩
    · exact hnone
    · cases hid
  | some ack =>
    rcases Safe.eval (Q := fun t _ => FiredFor ack s t) ackConsumer_firedFor heval with
      hnone | ⟨row, ⟨id, old, hid, hold, hrow, ht⟩, hfired⟩
    · exact Or.inl hnone
    · have hpayment : row.paymentId = id := by
        rw [hrow]
        exact hs id old hold
      have hstatus : row.status = statusOf ack := by rw [hrow]; rfl
      refine Or.inr ⟨ack, row, rfl, hfired, ?_, hstatus, ?_⟩
      · rw [hpayment, hid]
      · rw [hpayment, Store.status, ht, Function.update_self, Option.map_some, hstatus]

end Acknowledgement

/-! ### Whole runs -/

/-- Those who listen to one of the statuses of the payment are concerned. -/
def concerns (paymentId : Text) (events : List PaymentStatus) (payment : PaymentRow) : Bool :=
  payment.paymentId = paymentId && events.contains payment.status

/-- The answers that wait to be recorded. -/
def unrecorded (id : Text) (deliveries : List Delivery) : List FetchResult :=
  deliveries.filterMap fun d => if d.id = id then d.result else none

/-- Every answer is recorded, waits to be recorded, or was lost; every request was answered or waits
for its answer; and every firing is one of an acknowledgement. -/
structure Booked (answers recorded : Text → List FetchResult)
    (told : Text → List PaymentStatus → ℕ) (s : State) : Prop where
  ids : (s.subscriptions.map fun sub => sub.id).Nodup
  known : ∀ id, (∃ d ∈ s.deliveries, d.id = id) ∨ answers id ≠ [] →
    ∃ sub ∈ s.subscriptions, sub.id = id
  shown : ∀ sub ∈ s.subscriptions, Shows (recorded sub.id) sub
  answered : ∀ id, List.Subperm (unrecorded id s.deliveries ++ recorded id) (answers id)
  fired : ∀ p events, s.firings.countP (concerns p events) ≤ told p events
  asked : ∀ sub ∈ s.subscriptions, (answers sub.id).length +
    s.deliveries.countP (Delivery.waits sub.id) +
      s.firings.countP (concerns sub.paymentId sub.events) ≤ told sub.paymentId sub.events

section Steps

variable {W : Collaborators} {case' : CaseMapping} {s t : State} {e : Event}
  {answers recorded : Text → List FetchResult} {told : Text → List PaymentStatus → ℕ}

theorem Shows.nil {sub : WebhookSubscription} (hattempts : sub.deliveryAttempts = 0)
    (hfired : sub.firedAt = none) (hstatus : sub.lastHttpStatus = none)
    (herror : sub.lastError = none) : Shows [] sub :=
  ⟨hattempts, by rw [hfired]; rfl, hstatus, herror⟩

/-- One more answer is recorded. -/
theorem Shows.snoc {results : List FetchResult} {sub : WebhookSubscription} (h : Shows results sub)
    (now : ℕ) (result : FetchResult) :
    Shows (results ++ [result])
      { sub with
        firedAt := some now, lastHttpStatus := some result.outcome.1
        deliveryAttempts := sub.deliveryAttempts + 1, lastError := result.outcome.2 } := by
  constructor
  · rw [List.length_append, List.length_singleton, h.attempts]
  · simp
  · simp
  · simp

/-- One selection asks a subscription at most once, and only if it is concerned. -/
theorem countP_requests_le (hids : (s.subscriptions.map fun sub => sub.id).Nodup)
    (payment : PaymentRow) {sub : WebhookSubscription} (hsub : sub ∈ s.subscriptions) :
    (requests payment s.subscriptions).countP (Delivery.waits sub.id) ≤
      if concerns sub.paymentId sub.events payment then 1 else 0 := by
  have hcount : (requests payment s.subscriptions).countP (Delivery.waits sub.id) =
      ((Webhooks.findPending payment.paymentId payment.status s.subscriptions).map
        fun sub => sub.id).count sub.id := by
    rw [requests, List.countP_map, List.count, List.countP_map]
    refine List.countP_congr fun sub' _ => ?_
    simp [Delivery.waits]
  rw [hcount]
  split_ifs with hconcerns
  · refine List.nodup_iff_count_le_one.mp (hids.sublist ?_) sub.id
    exact List.Sublist.map _ List.filter_sublist
  · -- the rows that were selected are others
    refine Nat.le_zero.mpr (List.count_eq_zero.mpr fun hmem => hconcerns ?_)
    obtain ⟨sub', hsub', hid⟩ := List.mem_map.mp hmem
    obtain ⟨hmem', hpayment, hevent⟩ := mem_findPending.mp hsub'
    obtain rfl : sub' = sub := List.inj_on_of_nodup_map hids hmem' hsub hid
    simp [concerns, hpayment, hevent]

theorem unrecorded_append (id : Text) (l l' : List Delivery) :
    unrecorded id (l ++ l') = unrecorded id l ++ unrecorded id l' :=
  List.filterMap_append

theorem unrecorded_requests (id : Text) (payment : PaymentRow) (t : Subscriptions) :
    unrecorded id (requests payment t) = [] := by
  simp [unrecorded, requests, List.filterMap_map]

theorem Booked.register (hs : Booked answers recorded told s) {id paymentId url : Text}
    {events : Option (List PaymentStatus)} (hfresh : ∀ sub ∈ s.subscriptions, sub.id ≠ id) :
    Booked answers recorded told
      { s with subscriptions := create id paymentId url events s.subscriptions } := by
  have hunknown : ¬ ((∃ d ∈ s.deliveries, d.id = id) ∨ answers id ≠ []) := fun h => by
    obtain ⟨sub, hsub, hid⟩ := hs.known id h
    exact hfresh sub hsub hid
  rw [not_or, not_not] at hunknown
  obtain ⟨hidle, hnone⟩ := hunknown
  refine ⟨?_, fun id' h => ?_, fun sub hsub => ?_, hs.answered, hs.fired, fun sub hsub => ?_⟩
  · change ((create id paymentId url events s.subscriptions).map fun sub => sub.id).Nodup
    rw [create, List.map_append, List.nodup_append]
    refine ⟨hs.ids, List.nodup_singleton _, ?_⟩
    intro id₁ hid₁ id₂ hid₂
    obtain ⟨sub, hsub, rfl⟩ := List.mem_map.mp hid₁
    rw [List.map_singleton, List.mem_singleton] at hid₂
    rw [hid₂]
    exact hfresh sub hsub
  · obtain ⟨sub, hsub, hid⟩ := hs.known id' h
    exact ⟨sub, List.mem_append_left _ hsub, hid⟩
  · rcases List.mem_append.mp hsub with hold | hnew
    · exact hs.shown sub hold
    · -- nothing was recorded of the new subscription
      obtain rfl := List.mem_singleton.mp hnew
      have hsub := hs.answered id
      rw [hnone, List.subperm_nil, List.append_eq_nil_iff] at hsub
      change Shows (recorded id) _
      rw [hsub.2]
      exact Shows.nil rfl rfl rfl rfl
  · rcases List.mem_append.mp hsub with hold | hnew
    · exact hs.asked sub hold
    · obtain rfl := List.mem_singleton.mp hnew
      have hwaits : s.deliveries.countP (Delivery.waits id) = 0 := by
        refine List.countP_eq_zero.mpr fun d hd hwaits => hidle ⟨d, hd, ?_⟩
        simp only [Delivery.waits, Bool.and_eq_true, decide_eq_true_eq] at hwaits
        exact hwaits.1
      have hfired := hs.fired paymentId (events.getD terminalStatuses)
      change (answers id).length + s.deliveries.countP (Delivery.waits id) +
        s.firings.countP (concerns paymentId (events.getD terminalStatuses)) ≤
          told paymentId (events.getD terminalStatuses)
      rw [hnone, hwaits, List.length_nil]
      omega

theorem Booked.other (hs : Booked answers recorded told s) (store : Store) :
    Booked answers recorded told { s with store } :=
  ⟨hs.ids, hs.known, hs.shown, hs.answered, hs.fired, hs.asked⟩

/-- An acknowledgement tells of all that it fires. -/
theorem Booked.ack (hs : Booked answers recorded told s) {told' : Text → List PaymentStatus → ℕ}
    {rows : List PaymentRow} (store : Store)
    (htold : ∀ p events, told p events + rows.countP (concerns p events) ≤ told' p events) :
    Booked answers recorded told' { s with store, firings := s.firings ++ rows } := by
  refine ⟨hs.ids, hs.known, hs.shown, hs.answered, fun p events => ?_, fun sub hsub => ?_⟩
  · have hold := hs.fired p events
    have hnew := htold p events
    rw [List.countP_append]
    omega
  · have hold := hs.asked sub hsub
    have hnew := htold sub.paymentId sub.events
    rw [List.countP_append]
    dsimp only
    omega

/-- A firing that was not followed by a selection. -/
theorem Booked.drop (hs : Booked answers recorded told s) {before after : List PaymentRow}
    {payment : PaymentRow} (hfirings : s.firings = before ++ payment :: after) :
    Booked answers recorded told { s with firings := before ++ after } := by
  have hfewer : ∀ p events, (before ++ after).countP (concerns p events) ≤
      s.firings.countP (concerns p events) := by
    intro p events
    rw [hfirings]
    refine List.Sublist.countP_le ?_
    exact List.Sublist.append_left (List.sublist_cons_self _ _) _
  refine ⟨hs.ids, hs.known, hs.shown, hs.answered, fun p events => ?_, fun sub hsub => ?_⟩
  · exact (hfewer p events).trans (hs.fired p events)
  · have hold := hs.asked sub hsub
    have hless := hfewer sub.paymentId sub.events
    exact (Nat.add_le_add_left hless _).trans hold

/-- Those who are concerned by a firing are asked. -/
theorem Booked.select (hs : Booked answers recorded told s) {before after : List PaymentRow}
    {payment : PaymentRow} (hfirings : s.firings = before ++ payment :: after) :
    Booked answers recorded told
      { s with
        firings := before ++ after
        deliveries := s.deliveries ++ requests payment s.subscriptions } := by
  refine ⟨hs.ids, fun id h => ?_, hs.shown, fun id => ?_, (hs.drop hfirings).fired,
    fun sub hsub => ?_⟩
  · rcases h with ⟨d, hd, rfl⟩ | h
    · rcases List.mem_append.mp hd with hold | hnew
      · exact hs.known d.id (Or.inl ⟨d, hold, rfl⟩)
      · obtain ⟨sub, hsub, rfl⟩ := List.mem_map.mp hnew
        exact ⟨sub, (mem_findPending.mp hsub).1, rfl⟩
    · exact hs.known id (Or.inr h)
  · rw [unrecorded_append, unrecorded_requests, List.append_nil]
    exact hs.answered id
  · -- the firing makes room for the request
    have hold := hs.asked sub hsub
    have hnew := countP_requests_le hs.ids payment hsub
    rw [hfirings, List.countP_append, List.countP_cons] at hold
    rw [List.countP_append, List.countP_append]
    omega

theorem perm_move (before after results : List FetchResult) (result : FetchResult) :
    (before ++ result :: after ++ results).Perm (before ++ after ++ (results ++ [result])) := by
  have hmiddle : (before ++ result :: (after ++ results)).Perm
      (result :: (before ++ (after ++ results))) := List.perm_middle
  have hlast := (List.perm_append_singleton result (before ++ (after ++ results))).symm
  simpa only [List.append_assoc, List.cons_append] using hmiddle.trans hlast

/-- A request is answered. -/
theorem Booked.fetch (hs : Booked answers recorded told s) {before after : List Delivery}
    {id url : Text} (hdeliveries : s.deliveries = before ++ ⟨id, url, none⟩ :: after)
    (result : FetchResult) :
    Booked (fun id' => answers id' ++ (if id = id' then some result else none).toList) recorded told
      { s with
        deliveries := before ++ ⟨id, url, some result⟩ :: after
        answered := s.answered ++ [(id, result)] } := by
  refine ⟨hs.ids, fun id' h => ?_, hs.shown, fun id' => ?_, hs.fired, fun sub hsub => ?_⟩
  · by_cases hid : id = id'
    · exact hs.known id' (Or.inl ⟨⟨id, url, none⟩, by simp [hdeliveries], hid⟩)
    · refine hs.known id' (h.imp ?_ ?_)
      · rintro ⟨d, hd, hdid⟩
        simp only [List.mem_append, List.mem_cons] at hd
        rcases hd with hd | rfl | hd
        · exact ⟨d, by simp [hdeliveries, hd], hdid⟩
        · exact absurd hdid hid
        · exact ⟨d, by simp [hdeliveries, hd], hdid⟩
      · simp [hid]
  · have hold := hs.answered id'
    rw [hdeliveries, unrecorded_append] at hold
    rw [unrecorded_append]
    by_cases hid : id = id'
    · simp only [unrecorded, List.filterMap_cons, hid, ↓reduceIte, Option.toList_some] at hold ⊢
      refine (perm_move _ _ _ result).subperm_right.mpr ?_
      rw [← List.append_assoc]
      exact (List.subperm_append_right _).mpr hold
    · simpa [unrecorded, List.filterMap_cons, hid] using hold
  · have hold := hs.asked sub hsub
    rw [hdeliveries, List.countP_append, List.countP_cons] at hold
    rw [List.countP_append, List.countP_cons]
    by_cases hid : id = sub.id
    · simp [Delivery.waits, hid] at hold ⊢
      omega
    · simpa [Delivery.waits, hid] using hold

/-- An answer that waits for it is recorded, or gets lost. -/
theorem Booked.forget (hs : Booked answers recorded told s) {before after : List Delivery}
    {id url : Text} {result : FetchResult}
    (hdeliveries : s.deliveries = before ++ ⟨id, url, some result⟩ :: after) :
    Booked answers recorded told { s with deliveries := before ++ after } := by
  have hfewer : (before ++ after).Sublist s.deliveries := by
    rw [hdeliveries]
    exact List.Sublist.append_left (List.sublist_cons_self _ _) _
  refine ⟨hs.ids, fun id' h => ?_, hs.shown, fun id' => ?_, hs.fired, fun sub hsub => ?_⟩
  · refine hs.known id' (h.imp_left ?_)
    rintro ⟨d, hd, hdid⟩
    exact ⟨d, hfewer.subset hd, hdid⟩
  · refine List.Subperm.trans ?_ (hs.answered id')
    exact (List.Sublist.append_right (hfewer.filterMap _) _).subperm
  · have hold := hs.asked sub hsub
    have hless := hfewer.countP_le (p := Delivery.waits sub.id)
    dsimp only
    omega

theorem Booked.recordDelivery (hs : Booked answers recorded told s) {before after : List Delivery}
    {id url : Text} {result : FetchResult}
    (hdeliveries : s.deliveries = before ++ ⟨id, url, some result⟩ :: after) (now : ℕ) :
    Booked answers (fun id' => recorded id' ++ (if id = id' then some result else none).toList) told
      { s with
        deliveries := before ++ after
        subscriptions := Webhooks.recordDelivery now id result.outcome.1 result.outcome.2
          s.subscriptions } := by
  have hforget := hs.forget hdeliveries
  refine ⟨?_, fun id' h => ?_, fun sub hsub => ?_, fun id' => ?_, hs.fired, fun sub hsub => ?_⟩
  · exact (recordDelivery_ids now id _ _).symm ▸ hs.ids
  · obtain ⟨sub, hsub, hid⟩ := hforget.known id' h
    have hmem : id' ∈ (Webhooks.recordDelivery now id result.outcome.1 result.outcome.2
        s.subscriptions).map fun sub => sub.id := by
      rw [recordDelivery_ids]
      exact List.mem_map.mpr ⟨sub, hsub, hid⟩
    exact List.mem_map.mp hmem
  · obtain ⟨old, hold, rfl⟩ := List.mem_map.mp hsub
    by_cases hid : old.id = id
    · simp only [hid, ↓reduceIte, Option.toList_some]
      exact hid ▸ (hs.shown old hold).snoc now result
    · simp only [hid, Ne.symm hid, ↓reduceIte, Option.toList_none, List.append_nil]
      exact hs.shown old hold
  · by_cases hid : id = id'
    · have hold := hs.answered id'
      rw [hdeliveries, unrecorded_append] at hold
      rw [unrecorded_append]
      simp only [unrecorded, List.filterMap_cons, hid, ↓reduceIte, Option.toList_some] at hold ⊢
      exact (perm_move _ _ _ result).subperm_right.mp hold
    · simpa [hid] using hforget.answered id'
  · -- the row keeps its identifier, its payment and its statuses
    obtain ⟨old, hold, rfl⟩ := List.mem_map.mp hsub
    have hasked := hforget.asked old hold
    by_cases hid : old.id = id
    · simpa only [hid, ↓reduceIte] using hid ▸ hasked
    · simpa only [hid, ↓reduceIte] using hasked

theorem answersTo_snoc (id : Text) (path : List (Transition State Event))
    (x : Transition State Event) :
    answersTo id (path ++ [x]) = answersTo id path ++ (x.label.answer id).toList := by
  rw [answersTo, List.filterMap_append]
  cases h : x.label.answer id <;> simp [answersTo, h]

theorem recordedFor_snoc (id : Text) (path : List (Transition State Event))
    (x : Transition State Event) :
    recordedFor id (path ++ [x]) = recordedFor id path ++ (x.label.record id).toList := by
  rw [recordedFor, List.filterMap_append]
  cases h : x.label.record id <;> simp [recordedFor, h]

/-- Whoever is concerned by what an acknowledgement fires is told by it. -/
theorem countP_fired_le (hkeyed : Keyed s.store) {content : Option JsValue}
    {r : Except Failure Unit} {u : Recorded Store (Foundation.Event Call)}
    (heval : (Messaging.ackConsumer case' true (some content)).Eval
      (Interp.record (Call.faulty W)) ⟨s.store, []⟩ r u)
    (paymentId : Text) (events : List PaymentStatus) {t : State} (ht : t.store = u.store) :
    (fired u.history).countP (concerns paymentId events) ≤
      if tells paymentId events ⟨s, .ack content, t⟩ then 1 else 0 := by
  rcases fired_of_eval hkeyed heval with hnone | ⟨ack, row, rfl, hone, hid, hrow, hstatus⟩
  · rw [hnone]
    exact Nat.zero_le _
  · rw [hone, List.countP_singleton]
    by_cases hconcerns : concerns paymentId events row = true
    · simp only [concerns, Bool.and_eq_true, decide_eq_true_eq] at hconcerns
      obtain ⟨rfl, hevent⟩ := hconcerns
      have htells : tells row.paymentId events ⟨s, .ack (some ack), t⟩ = true := by
        simp [tells, hid, ht, hstatus, ← hrow, List.contains_iff_mem.mp hevent]
      rw [if_pos htells]
      split_ifs <;> omega
    · simp [hconcerns]

/-- What a run says of the subscriptions is what its last state keeps account of. -/
abbrev BookedAfter (path : List (Transition State Event)) : State → Prop :=
  Booked (fun id => answersTo id path) (fun id => recordedFor id path)
    fun p events => path.countP (tells p events)

/-- **One step** is booked. -/
theorem booked_step {path : List (Transition State Event)} (hs : BookedAfter path s)
    (hkeyed : Keyed s.store) (h : Step W case' s e t) : BookedAfter (path ++ [⟨s, e, t⟩]) t := by
  simp only [BookedAfter, answersTo_snoc, recordedFor_snoc, List.countP_append,
    List.countP_singleton]
  cases h with
  | register hfresh => simpa [Event.answer, Event.record, tells] using hs.register hfresh
  | @ack _ content r u heval =>
    have hack := hs.ack u.store fun p events =>
      Nat.add_le_add_left (countP_fired_le hkeyed heval p events (t := { s with
        store := u.store, firings := s.firings ++ fired u.history }) rfl) _
    simpa [Event.answer, Event.record] using hack
  | findPending hfirings => simpa [Event.answer, Event.record, tells] using hs.select hfirings
  | findPendingFails hfirings => simpa [Event.answer, Event.record, tells] using hs.drop hfirings
  | fetch hdeliveries =>
    simpa [Event.answer, Event.record, tells] using hs.fetch hdeliveries _
  | recordDelivery hdeliveries =>
    simpa [Event.answer, Event.record, tells] using hs.recordDelivery hdeliveries _
  | recordDeliveryFails hdeliveries =>
    simpa [Event.answer, Event.record, tells] using hs.forget hdeliveries
  | other => simpa [Event.answer, Event.record, tells] using hs.other _

theorem booked_start (store : Store) : BookedAfter [] (start store) where
  ids := List.nodup_nil
  known id h := by simp [start, answersTo] at h
  shown _ hsub := absurd hsub List.not_mem_nil
  answered id := List.Subperm.refl _
  fired p events := Nat.le_refl _
  asked _ hsub := absurd hsub List.not_mem_nil

theorem booked_run {store : Store} {path : List (Transition State Event)}
    (h : (Step W case').Run (start store) path s) (hkeyed : ∀ x ∈ path, Keyed x.source.store) :
    BookedAfter path s := by
  induction h with
  | nil => exact booked_start store
  | snoc hrun hstep ih =>
    rw [List.forall_mem_append, List.forall_mem_singleton] at hkeyed
    exact booked_step (ih hkeyed.1) hkeyed.2 hstep

/-- **The subscriptions are accounted for, in every run.** Each row shows the answers that were
recorded in it, each of these was given, and no client gets more requests than there were
acknowledgements that gave its payment a status it listens to; requests go to subscriptions
only. -/
theorem accounted {store : Store} {path : List (Transition State Event)}
    (h : (Step W case').Run (start store) path s) (hkeyed : ∀ x ∈ path, Keyed x.source.store) :
    (∀ sub ∈ s.subscriptions, Accounted path s sub) ∧
      ∀ id, answersTo id path ≠ [] → ∃ sub ∈ s.subscriptions, sub.id = id := by
  have hs := booked_run h hkeyed
  refine ⟨fun sub hsub => ⟨hs.shown sub hsub, ?_, ?_⟩, fun id hid => hs.known id (Or.inr hid)⟩
  · exact (List.sublist_append_right _ _).subperm.trans (hs.answered sub.id)
  · have hasked := hs.asked sub hsub
    omega

end Steps

namespace Example

theorem keyed_stored : Keyed Messaging.Example.stored := by
  have hempty : Keyed { Messaging.Example.stored with payments := fun _ => none } :=
    fun _ _ hrow => nomatch hrow
  exact hempty.update rfl rfl

/-- The acceptance writes the row of the payment, the second time as the first. -/
theorem keyed_handled {store : Store} (hkeyed : Keyed store)
    (hpayments : (handled store).2.store.payments =
      Function.update store.payments Messaging.Example.id (some paid)) :
    Keyed (handled store).2.store :=
  hkeyed.update hpayments rfl

theorem keyed_retriedPath : ∀ x ∈ retriedPath, Keyed x.source.store := by
  have hfirst : Keyed (acked subscribed).store := keyed_handled keyed_stored rfl
  have hsecond : Keyed (acked (round unavailable subscribed)).store := keyed_handled hfirst rfl
  intro x hx
  simp only [retriedPath, roundPath, List.cons_append, List.nil_append, List.mem_cons,
    List.not_mem_nil, or_false] at hx
  rcases hx with rfl | rfl | rfl | rfl | rfl | rfl | rfl | rfl | rfl
  · exact keyed_stored
  · exact keyed_stored
  · exact hfirst
  · exact hfirst
  · exact hfirst
  · exact hfirst
  · exact hsecond
  · exact hsecond
  · exact hsecond

end Example

/-- The client that was not available is told again of the acceptance. -/
theorem accounted_retried :
    (∀ sub ∈ (Example.round Example.ok (Example.round Example.unavailable
        Example.subscribed)).subscriptions, Accounted Example.retriedPath
          (Example.round Example.ok (Example.round Example.unavailable Example.subscribed)) sub) ∧
      ∀ id, answersTo id Example.retriedPath ≠ [] →
        ∃ sub ∈ (Example.round Example.ok (Example.round Example.unavailable
          Example.subscribed)).subscriptions, sub.id = id :=
  accounted Example.run_retriedPath Example.keyed_retriedPath

end MipitCore.Webhooks
