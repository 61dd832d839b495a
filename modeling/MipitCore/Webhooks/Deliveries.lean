import MipitCore.Foundation.Transition
import MipitCore.Messaging.Settled
import MipitCore.Webhooks.Subscriptions

/-!
# How often a webhook is fired

`AckConsumer` fires the webhooks of every acknowledgement that it has applied, and does
not wait for the requests. `findPending` is to select the subscriptions that were not
fired before, but does not ask for `fired_at`: a second acknowledgement selects them
again. A subscription gets one successful request where every selection comes when its
earlier requests were answered, none of them with success (`fires_once`).

## Main definitions

* `State`, `Event`, `Step` — acknowledgements, firings and requests
* `FiresOnce`, `Unfired`

## Main results

* `inv_step`
* `fires_once`
-/

namespace MipitCore.Webhooks

open Js Foundation

/-- A request to a subscription, and what `fetch` has come to. -/
structure Delivery where
  id : Text
  url : Text
  result : Option FetchResult

/-- The database, the firings that wait for `findPending`, the requests whose outcome is not
recorded yet, and all that was answered. -/
structure State where
  store : Store
  subscriptions : Subscriptions
  firings : List PaymentRow
  deliveries : List Delivery
  answered : List (Text × FetchResult)

/-- What happens; a call of the database may fail. -/
inductive Event
  | register (id paymentId url : Text) (events : Option (List PaymentStatus))
  | ack (content : Option JsValue)
  | findPending (payment : PaymentRow) (ok : Bool)
  | fetch (id : Text) (result : FetchResult)
  | recordDelivery (id : Text) (result : FetchResult) (ok : Bool)
  /-- Other parts of the service use the store. -/
  | other

/-- The payments that webhooks were fired for; `fireForPayment` returns at once where the status is
not terminal. -/
def fired (history : List (Foundation.Event Call)) : List PaymentRow :=
  history.filterMap fun e =>
    match e.call with
    | .fireForPayment payment =>
      if terminalStatuses.contains payment.status then some payment else none
    | _ => none

/-- The requests to the selected subscriptions. -/
def requests (payment : PaymentRow) (t : Subscriptions) : List Delivery :=
  (Webhooks.findPending payment.paymentId payment.status t).map fun sub => ⟨sub.id, sub.url, none⟩

/-- Clients subscribe, acknowledgements are handled, and what they have fired goes its way. -/
inductive Step (W : Collaborators) (case' : CaseMapping) : LTS State Event
  | register {s : State} {id paymentId url : Text} {events : Option (List PaymentStatus)}
      (hfresh : ∀ sub ∈ s.subscriptions, sub.id ≠ id) :
      Step W case' s (.register id paymentId url events)
        { s with subscriptions := create id paymentId url events s.subscriptions }
  | ack {s : State} {content : Option JsValue} {r : Except Failure Unit}
      {t : Recorded Store (Foundation.Event Call)}
      (heval : (Messaging.ackConsumer case' true (some content)).Eval
        (Interp.record (Call.faulty W)) ⟨s.store, []⟩ r t) :
      Step W case' s (.ack content)
        { s with store := t.store, firings := s.firings ++ fired t.history }
  | findPending {s : State} {before after : List PaymentRow} {payment : PaymentRow}
      (hfirings : s.firings = before ++ payment :: after) :
      Step W case' s (.findPending payment true)
        { s with
          firings := before ++ after
          deliveries := s.deliveries ++ requests payment s.subscriptions }
  | findPendingFails {s : State} {before after : List PaymentRow} {payment : PaymentRow}
      (hfirings : s.firings = before ++ payment :: after) :
      Step W case' s (.findPending payment false) { s with firings := before ++ after }
  | fetch {s : State} {before after : List Delivery} {id url : Text} {result : FetchResult}
      (hdeliveries : s.deliveries = before ++ ⟨id, url, none⟩ :: after) :
      Step W case' s (.fetch id result)
        { s with
          deliveries := before ++ ⟨id, url, some result⟩ :: after
          answered := s.answered ++ [(id, result)] }
  | recordDelivery {s : State} {before after : List Delivery} {id url : Text} {result : FetchResult}
      (hdeliveries : s.deliveries = before ++ ⟨id, url, some result⟩ :: after) :
      Step W case' s (.recordDelivery id result true)
        { s with
          deliveries := before ++ after
          subscriptions := Webhooks.recordDelivery s.store.now id result.outcome.1
            result.outcome.2 s.subscriptions }
  | recordDeliveryFails {s : State} {before after : List Delivery} {id url : Text}
      {result : FetchResult}
      (hdeliveries : s.deliveries = before ++ ⟨id, url, some result⟩ :: after) :
      Step W case' s (.recordDelivery id result false) { s with deliveries := before ++ after }
  | other {s : State} {store : Store} : Step W case' s .other { s with store }

/-- Nobody has subscribed yet. -/
def start (store : Store) : State := ⟨store, [], [], [], []⟩

/-- How often a subscription was answered with success. -/
def successes (id : Text) (s : State) : ℕ := s.answered.countP fun a => a.1 = id && a.2.isOk

/-- `fired_at` was set by a successful delivery. -/
def FiredBySuccess (sub : WebhookSubscription) : Prop := sub.firedAt ≠ none ∧ sub.lastError = none

/-- No subscription was answered with success twice, and none that was fired with success is
selected. -/
structure FiresOnce (e : Transition State Event) : Prop where
  delivered : ∀ id, successes id e.target ≤ 1
  selected : ∀ payment, e.label = .findPending payment true →
    ∀ sub ∈ Webhooks.findPending payment.paymentId payment.status e.source.subscriptions,
      ¬ FiredBySuccess sub

/-- Whenever subscriptions are selected, the earlier requests to those that listen to the status
were answered, none of them with success. -/
def Unfired (s : State) (e : Event) : Prop :=
  ∀ payment, e = .findPending payment true → ∀ sub ∈ s.subscriptions,
    sub.paymentId = payment.paymentId → payment.status ∈ sub.events →
      successes sub.id s = 0 ∧ ∀ d ∈ s.deliveries, d.id = sub.id → d.result ≠ none

/-- The request is not answered yet. -/
def Delivery.waits (id : Text) (d : Delivery) : Bool := d.id = id && d.result.isNone

/-- What such selections preserve: a subscription that waits for an answer had no success, and what
the table says of a success was answered. -/
structure Inv (s : State) : Prop where
  ids : (s.subscriptions.map fun sub => sub.id).Nodup
  once : ∀ id, s.deliveries.countP (Delivery.waits id) + successes id s ≤ 1
  answered : ∀ d ∈ s.deliveries, ∀ result, d.result = some result → result.isOk = true →
    successes d.id s ≠ 0
  recorded : ∀ sub ∈ s.subscriptions, FiredBySuccess sub → successes sub.id s ≠ 0

section Steps

variable {W : Collaborators} {case' : CaseMapping} {s t : State} {e : Event}

theorem inv_start (store : Store) : Inv (start store) where
  ids := List.nodup_nil
  once _ := Nat.zero_le 1
  answered _ hd := absurd hd List.not_mem_nil
  recorded _ hsub := absurd hsub List.not_mem_nil

/-- The requests of one selection go to different subscriptions. -/
theorem countP_requests (hs : Inv s) (payment : PaymentRow) (id : Text) :
    (requests payment s.subscriptions).countP (Delivery.waits id) ≤ 1 := by
  have hids : (requests payment s.subscriptions).countP (Delivery.waits id) =
      ((Webhooks.findPending payment.paymentId payment.status s.subscriptions).map
        fun sub => sub.id).count id := by
    rw [requests, List.countP_map, List.count, List.countP_map]
    refine List.countP_congr fun sub _ => ?_
    simp [Delivery.waits]
  rw [hids]
  refine List.nodup_iff_count_le_one.mp (hs.ids.sublist ?_) id
  exact List.Sublist.map _ List.filter_sublist

theorem Inv.select (hs : Inv s) {payment : PaymentRow} (he : Unfired s (.findPending payment true)) :
    Inv { s with deliveries := s.deliveries ++ requests payment s.subscriptions } := by
  refine ⟨hs.ids, fun id => ?_, fun d hd result hresult hok => ?_, hs.recorded⟩
  · change (s.deliveries ++ requests payment s.subscriptions).countP (Delivery.waits id) +
      successes id s ≤ 1
    rw [List.countP_append]
    have hnew := countP_requests hs payment id
    have hold := hs.once id
    by_cases hzero : (requests payment s.subscriptions).countP (Delivery.waits id) = 0
    · omega
    · -- the subscription is selected, so that nothing of it is waiting
      obtain ⟨d, hd, hwaits⟩ := List.countP_pos_iff.mp (Nat.pos_of_ne_zero hzero)
      obtain ⟨sub, hsub, rfl⟩ := List.mem_map.mp hd
      obtain ⟨hmem, hpayment, hevent⟩ := mem_findPending.mp hsub
      obtain ⟨hnone, hanswered⟩ := he payment rfl sub hmem hpayment hevent
      obtain rfl : sub.id = id := by simpa [Delivery.waits] using hwaits
      have hidle : s.deliveries.countP (Delivery.waits sub.id) = 0 := by
        refine List.countP_eq_zero.mpr fun d hd hwaits => ?_
        simp only [Delivery.waits, Bool.and_eq_true, decide_eq_true_eq,
          Option.isNone_iff_eq_none] at hwaits
        exact hanswered d hd hwaits.1 hwaits.2
      omega
  · rcases List.mem_append.mp hd with hold | hnew
    · exact hs.answered d hold result hresult hok
    · obtain ⟨sub, -, rfl⟩ := List.mem_map.mp hnew
      cases hresult

theorem successes_snoc (id id' : Text) (result : FetchResult) :
    successes id' { s with answered := s.answered ++ [(id, result)] } =
      successes id' s + if id = id' ∧ result.isOk = true then 1 else 0 := by
  simp [successes]

/-- A request is answered. -/
theorem Inv.fetch (hs : Inv s) {before after : List Delivery} {id url : Text}
    (hdeliveries : s.deliveries = before ++ ⟨id, url, none⟩ :: after) (result : FetchResult) :
    Inv { s with
      deliveries := before ++ ⟨id, url, some result⟩ :: after
      answered := s.answered ++ [(id, result)] } := by
  have hsuccesses : ∀ id', successes id' s ≠ 0 →
      successes id' { s with answered := s.answered ++ [(id, result)] } ≠ 0 := by
    intro id' hne
    rw [successes_snoc]
    omega
  refine ⟨hs.ids, fun id' => ?_, fun d hd result' hresult hok => ?_, fun sub hsub hfired => ?_⟩
  · -- a delivery that succeeds is one that no longer waits
    have honce := hs.once id'
    rw [hdeliveries] at honce
    change (before ++ ⟨id, url, some result⟩ :: after).countP (Delivery.waits id') +
      successes id' { s with answered := s.answered ++ [(id, result)] } ≤ 1
    rw [successes_snoc]
    by_cases hid : id = id'
    · by_cases hok : result.isOk = true
      · simp [Delivery.waits, hid, hok] at honce ⊢
        omega
      · simp [Delivery.waits, hid, hok] at honce ⊢
        omega
    · simpa [Delivery.waits, hid] using honce
  · change successes d.id { s with answered := s.answered ++ [(id, result)] } ≠ 0
    rcases List.mem_append.mp hd with hbefore | hd
    · exact hsuccesses _ (hs.answered d (by simp [hdeliveries, hbefore]) result' hresult hok)
    · rcases List.mem_cons.mp hd with rfl | hafter
      · cases hresult
        rw [successes_snoc, if_pos ⟨rfl, hok⟩]
        exact Nat.succ_ne_zero _
      · exact hsuccesses _ (hs.answered d (by simp [hdeliveries, hafter]) result' hresult hok)
  · exact hsuccesses _ (hs.recorded sub hsub hfired)

/-- The outcome of a request is recorded, or could not be recorded. -/
theorem Inv.record (hs : Inv s) {before after : List Delivery} {id url : Text}
    {result : FetchResult} (hdeliveries : s.deliveries = before ++ ⟨id, url, some result⟩ :: after) :
    Inv { s with deliveries := before ++ after } := by
  refine ⟨hs.ids, fun id' => ?_, fun d hd result' hresult hok => ?_, hs.recorded⟩
  · have honce := hs.once id'
    rw [hdeliveries] at honce
    change (before ++ after).countP (Delivery.waits id') + successes id' s ≤ 1
    simpa [Delivery.waits] using honce
  · refine hs.answered d ?_ result' hresult hok
    rw [hdeliveries]
    simp only [List.mem_append, List.mem_cons] at hd ⊢
    tauto

theorem Inv.recordDelivery (hs : Inv s) {id : Text} {result : FetchResult} (now : ℕ)
    (hanswered : result.isOk = true → successes id s ≠ 0) :
    Inv { s with
      subscriptions := Webhooks.recordDelivery now id result.outcome.1 result.outcome.2
        s.subscriptions } := by
  refine ⟨?_, hs.once, hs.answered, fun sub hsub hfired => ?_⟩
  · exact (recordDelivery_ids now id _ _).symm ▸ hs.ids
  · obtain ⟨old, hold, rfl⟩ := List.mem_map.mp hsub
    by_cases hid : old.id = id
    · -- the row says that it was fired with success exactly if it was
      simp only [hid, ↓reduceIte] at hfired ⊢
      exact hanswered (outcome_error.mp hfired.2)
    · simp only [hid, ↓reduceIte] at hfired ⊢
      exact hs.recorded old hold hfired

theorem Inv.register (hs : Inv s) {id paymentId url : Text} {events : Option (List PaymentStatus)}
    (hfresh : ∀ sub ∈ s.subscriptions, sub.id ≠ id) :
    Inv { s with subscriptions := create id paymentId url events s.subscriptions } := by
  refine ⟨?_, hs.once, hs.answered, fun sub hsub hfired => ?_⟩
  · change ((create id paymentId url events s.subscriptions).map fun sub => sub.id).Nodup
    rw [create, List.map_append, List.nodup_append]
    refine ⟨hs.ids, List.nodup_singleton _, ?_⟩
    intro id₁ hid₁ id₂ hid₂
    obtain ⟨sub, hsub, rfl⟩ := List.mem_map.mp hid₁
    rw [List.map_singleton, List.mem_singleton] at hid₂
    rw [hid₂]
    exact hfresh sub hsub
  · rcases List.mem_append.mp hsub with hold | hnew
    · exact hs.recorded sub hold hfired
    · rw [List.mem_singleton.mp hnew] at hfired
      exact absurd rfl hfired.1

/-- **One step** keeps the invariant, and fires nothing again. -/
theorem inv_step (hs : Inv s) (h : Step W case' s e t) (he : Unfired s e) :
    Inv t ∧ FiresOnce ⟨s, e, t⟩ := by
  have ht : Inv t := by
    cases h with
    | register hfresh => exact hs.register hfresh
    | ack heval => exact ⟨hs.ids, hs.once, hs.answered, hs.recorded⟩
    | findPending hfirings =>
      have hselect := hs.select he
      exact ⟨hselect.ids, hselect.once, hselect.answered, hselect.recorded⟩
    | findPendingFails hfirings => exact ⟨hs.ids, hs.once, hs.answered, hs.recorded⟩
    | fetch hdeliveries => exact hs.fetch hdeliveries _
    | @recordDelivery _ before after id url result hdeliveries =>
      refine (hs.record hdeliveries).recordDelivery _ fun hok => ?_
      have hmem : ⟨id, url, some result⟩ ∈ s.deliveries := by
        rw [hdeliveries]
        exact List.mem_append_right _ List.mem_cons_self
      exact hs.answered _ hmem result rfl hok
    | recordDeliveryFails hdeliveries => exact hs.record hdeliveries
    | other => exact ⟨hs.ids, hs.once, hs.answered, hs.recorded⟩
  refine ⟨ht, fun id => ?_, fun payment hselect sub hsub hfired => ?_⟩
  · have honce := ht.once id
    exact (Nat.le_add_left _ _).trans honce
  · obtain ⟨hmem, hpayment, hevent⟩ := mem_findPending.mp hsub
    exact hs.recorded sub hmem hfired (he payment hselect sub hmem hpayment hevent).1

/-- **A subscription that was fired with success is not fired again**, in every run in which the
earlier requests to the selected subscriptions were answered, none of them with success. -/
theorem fires_once {store : Store} {path : List (Transition State Event)}
    (h : (Step W case').Run (start store) path s) (hunfired : ∀ e ∈ path, Unfired e.source e.label) :
    ∀ e ∈ path, FiresOnce e :=
  (h.forall_steps (inv_start store) (fun _ _ _ hs hstep he => inv_step hs hstep he) hunfired).2

end Steps

/-! ### An acknowledgement that is delivered twice -/

namespace Example

open Messaging.Example (host stored accepted)

/-- Every call is answered and recorded. -/
def respondAll (c : Call) (s : Recorded Store (Foundation.Event Call)) :
    Except Failure c.Result × Recorded Store (Foundation.Event Call) :=
  ((c.respond host s.store).1,
    ⟨(c.respond host s.store).2, s.history ++ [⟨c, (c.respond host s.store).1.isOk⟩]⟩)

/-- The acceptance of the stored payment is handled. -/
def handled (store : Store) : Except Failure Unit × Recorded Store (Foundation.Event Call) :=
  (Messaging.ackConsumer .ascii true (some accepted.content)).runWith respondAll ⟨store, []⟩

theorem handled_eval (store : Store) :
    (Messaging.ackConsumer .ascii true (some accepted.content)).Eval
      (Interp.record (Call.faulty host.collaborators)) ⟨store, []⟩ (handled store).1
      (handled store).2 :=
  Program.eval_runWith (fun c s => ⟨Or.inl (Call.answer_respond host c s.store), rfl⟩) _ _

/-- The payment after its acceptance. -/
def paid : PaymentRow := ((handled stored).2.store.payments Messaging.Example.id).get rfl

def subscription : Text := js "5f0c1f8e-2d53-4f0e-9a56-0b6c2f1d7a10"

def url : Text := js "https://client.example/hook"

def ok : FetchResult := .response 200 (js "OK")

/-- The client subscribes. -/
def subscribed : State :=
  { start stored with
    subscriptions := create subscription Messaging.Example.id url none [] }

def acked (s : State) : State :=
  { s with
    store := (handled s.store).2.store
    firings := s.firings ++ fired (handled s.store).2.history }

def selected (s : State) : State :=
  { s with firings := [], deliveries := requests paid s.subscriptions }

def fetched (result : FetchResult) (s : State) : State :=
  { s with
    deliveries := [⟨subscription, url, some result⟩]
    answered := s.answered ++ [(subscription, result)] }

def written (result : FetchResult) (s : State) : State :=
  { s with
    deliveries := []
    subscriptions := recordDelivery s.store.now subscription result.outcome.1 result.outcome.2
      s.subscriptions }

/-- The acceptance is handled, the client is told, and its answer recorded. -/
def round (result : FetchResult) (s : State) : State :=
  written result (fetched result (selected (acked s)))

def roundPath (result : FetchResult) (s : State) : List (Transition State Event) :=
  [⟨s, .ack accepted.content, acked s⟩,
    ⟨acked s, .findPending paid true, selected (acked s)⟩,
    ⟨selected (acked s), .fetch subscription result, fetched result (selected (acked s))⟩,
    ⟨fetched result (selected (acked s)), .recordDelivery subscription result true, round result s⟩]

/-- The acceptance is delivered again, and the client is told again. -/
def secondRound : State := fetched ok (selected (acked (round ok subscribed)))

def subscribing : Transition State Event :=
  ⟨start stored, .register subscription Messaging.Example.id url none, subscribed⟩

def path : List (Transition State Event) :=
  subscribing :: (roundPath ok subscribed ++
    [⟨round ok subscribed, .ack accepted.content, acked (round ok subscribed)⟩,
      ⟨acked (round ok subscribed), .findPending paid true, selected (acked (round ok subscribed))⟩,
      ⟨selected (acked (round ok subscribed)), .fetch subscription ok, secondRound⟩])

def unavailable : FetchResult := .response 503 (js "Service Unavailable")

/-- The client is not available when it is told first, and is told when the acceptance is delivered
again. -/
def retriedPath : List (Transition State Event) :=
  subscribing :: (roundPath unavailable subscribed ++ roundPath ok (round unavailable subscribed))

theorem step_ack (s : State) :
    Step host.collaborators .ascii s (.ack accepted.content) (acked s) :=
  .ack (handled_eval s.store)

theorem step_subscribing : Step host.collaborators .ascii subscribing.source subscribing.label
    subscribing.target :=
  .register fun _ hsub => absurd hsub List.not_mem_nil

theorem run_roundPath {result : FetchResult} {s : State} (hfirings : (acked s).firings = [paid])
    (hdeliveries : s.deliveries = [])
    (hrequests : requests paid s.subscriptions = [⟨subscription, url, none⟩]) :
    (Step host.collaborators .ascii).Run s (roundPath result s) (round result s) := by
  have hselect : Step host.collaborators .ascii (acked s) (.findPending paid true)
      (selected (acked s)) := by
    have hstep := @Step.findPending host.collaborators .ascii (acked s) [] [] paid hfirings
    rw [show (acked s).deliveries = [] from hdeliveries] at hstep
    exact hstep
  refine LTS.Run.cons (step_ack s) (LTS.Run.cons hselect (LTS.Run.cons ?_ (LTS.Run.single ?_)))
  · exact @Step.fetch _ _ _ [] [] _ _ _ hrequests
  · exact @Step.recordDelivery _ _ _ [] [] _ _ _ rfl

theorem run_path : (Step host.collaborators .ascii).Run (start stored) path secondRound := by
  refine LTS.Run.cons step_subscribing ((run_roundPath rfl rfl rfl).append
    (LTS.Run.cons (step_ack _) (LTS.Run.cons ?_ (LTS.Run.single ?_))))
  · exact @Step.findPending _ _ _ [] [] _ rfl
  · exact @Step.fetch _ _ _ [] [] _ _ _ rfl

theorem run_retriedPath : (Step host.collaborators .ascii).Run (start stored) retriedPath
    (round ok (round unavailable subscribed)) :=
  LTS.Run.cons step_subscribing ((run_roundPath rfl rfl rfl).append (run_roundPath rfl rfl rfl))

/-- Whenever the subscription is selected, there was no success before. -/
theorem unfired_retriedPath : ∀ e ∈ retriedPath, Unfired e.source e.label := by
  intro e he payment hlabel sub _ _ _
  simp only [retriedPath, roundPath, List.cons_append, List.nil_append, List.mem_cons,
    List.not_mem_nil, or_false] at he
  rcases he with rfl | rfl | rfl | rfl | rfl | rfl | rfl | rfl | rfl
  · cases hlabel
  · cases hlabel
  · exact ⟨rfl, fun d hd => absurd hd List.not_mem_nil⟩
  · cases hlabel
  · cases hlabel
  · cases hlabel
  · -- the answer that was recorded is no success
    refine ⟨?_, fun d hd => absurd hd List.not_mem_nil⟩
    simp [successes, acked, round, written, fetched, selected, subscribed, start,
      show unavailable.isOk = false from rfl]
  · cases hlabel
  · cases hlabel

theorem successes_secondRound : successes subscription secondRound = 2 := rfl

theorem not_firesOnce_path : ¬ ∀ e ∈ path, FiresOnce e := by
  intro honce
  have hlast := (honce ⟨selected (acked (round ok subscribed)), .fetch subscription ok, secondRound⟩
    (List.mem_of_getElem? (i := 7) rfl)).delivered subscription
  rw [successes_secondRound] at hlast
  exact absurd hlast (by decide)

end Example

/-- The subscription is fired twice with success. -/
theorem fired_twice :
    (Step Messaging.Example.host.collaborators .ascii).Run (start Messaging.Example.stored)
        Example.path Example.secondRound ∧ ¬ ∀ e ∈ Example.path, FiresOnce e :=
  ⟨Example.run_path, Example.not_firesOnce_path⟩

/-- A client that was not available is told once when the acceptance is delivered again. -/
theorem fires_once_retried :
    (Step Messaging.Example.host.collaborators .ascii).Run (start Messaging.Example.stored)
        Example.retriedPath
        (Example.round Example.ok (Example.round Example.unavailable Example.subscribed)) ∧
      ∀ e ∈ Example.retriedPath, FiresOnce e :=
  ⟨Example.run_retriedPath, fires_once Example.run_retriedPath Example.unfired_retriedPath⟩

end MipitCore.Webhooks
