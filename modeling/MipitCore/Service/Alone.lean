import MipitCore.Service.Requested

/-!
# A payment that comes in alone

When no call fails and nobody else is at work, a payment is queued for the rail that its route
names, or it is refused for one of four reasons: its currency is not one of three letters in
upper case, no rule matches it, the rule has no name, or the rail of the rule has no queue. Then
it is marked as failed, and nothing is sent. Either way no other payment is touched.

## Main definitions

* `Holds` — the store while a payment is on its way
* `Refused` — why a payment is not queued
* `Queues`, `Settles` — what there is in the end

## Main results

* `prepare_alone`, `run_alone` — the way to the queue
* `execute_settles` — a payment is queued, or refused with a reason
-/

namespace MipitCore.Pipeline

open Js Foundation Persistence Program Api

/-- The store `t` is `s` with a row for the payment, in a status. -/
structure Holds (p : Payment) (s : Store) (status : PaymentStatus) (t : Store) : Prop where
  row : ∃ row, t.payments = Function.update s.payments p.paymentId (some row) ∧
    row.identity = p.newPayment ∧ row.status = status
  published : t.published = s.published

/-- What a payment is normalized into. -/
def NormalizedTo (D : Deployment) (p : Payment) (c : CanonicalPacs008) : Prop :=
  ∃ (origin : AliasPrefix) (canonical : CanonicalPacs008), p.originRail = origin.rail ∧
    MadeOf D.engine origin p.request p.paymentId p.traceId canonical ∧ D.Normalize canonical (.ok c)

/-- Why a payment is not queued, though no call fails. -/
inductive Refused (D : Deployment) (p : Payment) : Prop
  | currency (h : (D.engine.toUpperCase p.request.currency.1).length ≠ 3)
  | unrouted {c : CanonicalPacs008} {err : Failure} (hc : NormalizedTo D p c)
      (h : D.Resolve c (.error err))
  | unnamed {c : CanonicalPacs008} {route : RouteResult} (hc : NormalizedTo D p c)
      (h : Routed D c route) (hname : Text.trim route.ruleName = [])
  | unqueued {c : CanonicalPacs008} {route : RouteResult} (hc : NormalizedTo D p c)
      (h : Routed D c route) (hkey : railKeyMap route.destination = none)

/-- What the way to the queue leaves ready to be published. -/
structure IsPrepared (D : Deployment) (p : Payment) (x : Payment.Prepared) : Prop where
  currency : (D.engine.toUpperCase p.request.currency.1).length = 3
  normalized : NormalizedTo D p x.normalized
  routed : Routed D x.normalized x.route
  encoded : D.FromCanonical x.route.destination x.normalized (.ok x.translated)

section

variable {D : Deployment} {p : Payment} {s t u : Store} {status status' : PaymentStatus}

/-! ### Calls that cannot fail -/

theorem trim_ne_nil_of_isPaymentId {id : Text} (h : isPaymentId id = true) :
    Text.trim id ≠ [] := by
  have hstarts : id.startsWith (js "PMT-") = true := by
    simp only [isPaymentId, Bool.and_eq_true] at h
    exact h.1.1.1
  obtain ⟨rest, rfl⟩ := Text.startsWith_iff.mp hstarts
  have hclean : CodeUnit.isWhite (CodeUnit.ascii 'P') = false := by decide
  have htrim : Text.trim (js "PMT-" ++ rest) = Text.trimEnd (js "PMT-" ++ rest) := by
    refine Text.trim_eq_trimEnd_of_head fun unit hunit => ?_
    obtain rfl := Option.some.inj hunit
    exact hclean
  rw [htrim]
  change Text.trimEnd (CodeUnit.ascii 'P' :: (js "MT-" ++ rest)) ≠ []
  rw [Text.trimEnd_cons hclean]
  exact List.cons_ne_nil _ _

theorem requirePaymentId_ok (hid : isPaymentId p.paymentId = true) :
    requirePaymentId (.string p.paymentId) = .ok p.paymentId :=
  requireText_eq_ok_iff.mpr ⟨rfl, trim_ne_nil_of_isPaymentId hid⟩

/-- An update whose checks pass finds its row. -/
theorem Holds.update (assign : PaymentRow → PaymentRow) (h : Holds p s status t)
    {check : Except Failure Text} (hcheck : check = .ok p.paymentId)
    (hidentity : ∀ row, (assign row).identity = row.identity)
    (hstatus : ∀ row : PaymentRow, row.status = status → (assign row).status = status')
    {r : Except Failure PaymentRow}
    (hcall : t.onPayments (checked check fun id => updateRow id assign) = (r, u)) :
    (∃ row, r = .ok row) ∧ Holds p s status' u := by
  obtain ⟨⟨row, hrows, hrow, hin⟩, hpublished⟩ := h
  have hfound : t.payments p.paymentId = some row := by
    rw [hrows, Function.update_self]
  obtain ⟨rfl, rfl⟩ := Prod.mk.inj hcall
  simp only [checked, hcheck, updateRow, hfound]
  refine ⟨⟨assign row, rfl⟩, ⟨assign row, ?_, (hidentity row).trans hrow, hstatus row hin⟩,
    hpublished⟩
  rw [hrows, Function.update_idem]

/-- An update whose checks fail changes nothing. -/
theorem refused_update {check : Except Failure Text} {err : Failure} (hcheck : check = .error err)
    {assign : PaymentRow → PaymentRow} {r : Except Failure PaymentRow}
    (hcall : t.onPayments (checked check fun id => updateRow id assign) = (r, u)) :
    r = .error err ∧ u = t := by
  obtain ⟨rfl, rfl⟩ := Prod.mk.inj hcall
  simp only [checked, hcheck]
  exact ⟨trivial, trivial⟩

theorem Holds.updateStatus {W : Collaborators} (h : Holds p s status t)
    (hid : isPaymentId p.paymentId = true) {r : Except Failure PaymentRow}
    (hcall : Call.answer W (.updateStatus (.string p.paymentId) status') t r u) :
    (∃ row, r = .ok row) ∧ Holds p s status' u := by
  refine h.update (assignStatus t.now status') ?_ (fun _ => rfl) (fun _ _ => rfl) hcall
  rw [requirePaymentId_ok hid, requireStatus_ok]
  rfl

/-- Audit events with a type, an actor and a detail are recorded. -/
theorem Holds.log {W : Collaborators} (h : Holds p s status t)
    (hid : isPaymentId p.paymentId = true) {eventType actor : String}
    {detail : List (String × JsValue)} (htype : Text.trim (js eventType) ≠ [])
    (hactor : Text.trim (js actor) ≠ []) (hdetail : detail ≠ []) {r : Except Failure Unit}
    (hcall : Call.answer W (.log (p.event eventType actor detail)) t r u) :
    r = .ok () ∧ Holds p s status u := by
  have hinsert : insertAudit (p.event eventType actor detail) t.audit =
      (.ok (), t.audit ++ [p.event eventType actor detail]) := by
    have htype' : requireText "Event type cannot be empty" (.string (js eventType)) =
        .ok (js eventType) := requireText_eq_ok_iff.mpr ⟨rfl, htype⟩
    have hactor' : requireText "Actor cannot be empty" (.string (js actor)) = .ok (js actor) :=
      requireText_eq_ok_iff.mpr ⟨rfl, hactor⟩
    simp [insertAudit, checked, Payment.event, requirePaymentId_ok hid, htype', hactor', hdetail,
      bind, Except.bind, pure, Except.pure]
  obtain ⟨hr, hu⟩ := Prod.mk.inj (show t.onAudit _ = (r, u) from hcall)
  rw [hinsert] at hr hu
  subst hu
  exact ⟨hr.symm, h.row, h.published⟩

/-! ### One step after the other -/

/-- Step 2. -/
theorem receive_alone (hnew : s.payments p.paymentId = none) (hid : isPaymentId p.paymentId = true) :
    p.receive.Safe (Call.answer D.collaborators) (Discipline.alone _)
      (fun t r => r = .ok () ∧ Holds p s .received t) s := by
  refine Safe.bind (Safe.perform_alone fun r t hcall => ?_)
  have hcreated : ∃ row, r = .ok row ∧ Holds p s .received t := by
    obtain ⟨hr, ht⟩ := Prod.mk.inj (show s.onPayments _ = (r, t) from hcall)
    simp only [Persistence.create, show s.payments p.newPayment.paymentId = none from hnew] at hr ht
    subst ht
    exact ⟨_, hr.symm, ⟨_, rfl, rfl, rfl⟩, rfl⟩
  obtain ⟨row, rfl, hholds⟩ := hcreated
  exact Safe.perform_alone fun r u hcall' =>
    hholds.log hid (by decide) (by decide) (by simp) hcall'

/-- Step 3. -/
theorem validate_alone (h : Holds p s .received t) (hid : isPaymentId p.paymentId = true) :
    p.validate.Safe (Call.answer D.collaborators) (Discipline.alone _)
      (fun u r => r = .ok () ∧ Holds p s .validated u) t := by
  refine Safe.bind (Safe.perform_alone fun r u hcall => ?_)
  obtain ⟨⟨row, rfl⟩, hholds⟩ := h.updateStatus hid hcall
  exact Safe.perform_alone fun r v hcall' =>
    hholds.log hid (by decide) (by decide) (by simp) hcall'

/-- Step 4. -/
theorem canonicalize_alone (h : Holds p s .validated t) (hid : isPaymentId p.paymentId = true)
    {origin : AliasPrefix} (horigin : p.originRail = origin.rail) :
    p.canonicalize.Safe (Call.answer D.collaborators) (Discipline.alone _)
      (fun u r => match r with
        | .ok c => Holds p s .canonicalized u ∧
            (D.engine.toUpperCase p.request.currency.1).length = 3 ∧
            MadeOf D.engine origin p.request p.paymentId p.traceId c
        | .error _ => Holds p s .validated u ∧ Refused D p) t := by
  refine Safe.bind (Safe.perform_alone fun r u hcall => ?_)
  obtain ⟨⟨translator, ht, htranslated⟩, rfl⟩ := hcall
  rw [horigin] at htranslated
  obtain ⟨invalid, heq⟩ := toCanonical_eq ht hid origin p.request p.traceId
  rw [heq] at htranslated
  split_ifs at htranslated with hcurrency
  · subst htranslated
    have hmade := madeOf_requestMessage translator origin p.request p.paymentId p.traceId
    rw [ht.engine] at hmade
    refine Safe.bind (Safe.perform_alone fun r v hcall => ?_)
    obtain ⟨⟨row, rfl⟩, hholds⟩ := h.update (assignCanonical _ _ .canonicalized)
      (requirePaymentId_ok hid) (fun _ => rfl) (fun _ _ => rfl) hcall
    refine Safe.bind (Safe.perform_alone fun r w hcall => ?_)
    obtain ⟨rfl, hholds'⟩ := hholds.log hid (by decide) (by decide) (by simp) hcall
    refine Safe.pure ?_
    rintro w' - rfl
    exact ⟨hholds', hcurrency, hmade⟩
  · subst htranslated
    exact ⟨h, .currency hcurrency⟩

/-- Step 5. -/
theorem normalizeStep_alone (c : CanonicalPacs008) (h : Holds p s .canonicalized t)
    (hid : isPaymentId p.paymentId = true) :
    (p.normalizeStep c).Safe (Call.answer D.collaborators) (Discipline.alone _)
      (fun u r => (∃ n, r = .ok n ∧ D.Normalize c (.ok n)) ∧ Holds p s .canonicalized u) t := by
  refine Safe.bind (Safe.perform_alone fun r u hcall => ?_)
  obtain ⟨hnormalize, rfl⟩ := hcall
  obtain ⟨runtime, fx, hruntime, rfl⟩ := hnormalize
  refine Safe.bind (Safe.perform_alone fun r v hcall => ?_)
  obtain ⟨rfl, hholds⟩ := h.log hid (by decide) (by decide) (by simp) hcall
  refine Safe.pure ?_
  rintro v' - rfl
  exact ⟨⟨_, rfl, runtime, fx, hruntime, rfl⟩, hholds⟩

/-- The check of a text, and what it says of a text that fails it. -/
theorem requireText_cases (message : String) (text : Text) :
    requireText message (.string text) = .ok text ∨
      Text.trim text = [] ∧ ∃ err, requireText message (.string text) = .error err := by
  by_cases htrim : Text.trim text = []
  · refine Or.inr ⟨htrim, ?_⟩
    cases hr : requireText message (.string text) with
    | error err => exact ⟨err, rfl⟩
    | ok text' => exact absurd htrim (by
        obtain ⟨heq, hne⟩ := requireText_eq_ok_iff.mp hr
        cases heq
        exact hne)
  · exact Or.inl (requireText_eq_ok_iff.mpr ⟨rfl, htrim⟩)

theorem railKeyMap_of_blank {rail : Text} (h : Text.trim rail = []) : railKeyMap rail = none := by
  unfold railKeyMap
  split_ifs with hpix hspei hbreb
  · rw [hpix] at h
    exact absurd h (by decide)
  · rw [hspei] at h
    exact absurd h (by decide)
  · rw [hbreb] at h
    exact absurd h (by decide)
  · rfl

/-- Step 6. -/
theorem route_alone {n : CanonicalPacs008} (hn : NormalizedTo D p n)
    (h : Holds p s .canonicalized t) (hid : isPaymentId p.paymentId = true) :
    (p.route n).Safe (Call.answer D.collaborators) (Discipline.alone _)
      (fun u r => match r with
        | .ok route => Holds p s .routed u ∧ Routed D n route
        | .error _ => Holds p s .canonicalized u ∧ Refused D p) t := by
  refine Safe.bind (Safe.perform_alone fun r u hcall => ?_)
  obtain ⟨hresolve, rfl⟩ := hcall
  cases r with
  | error err => exact ⟨h, .unrouted hn hresolve⟩
  | ok route =>
    have hrouted := routed_of_resolve hresolve
    refine Safe.bind (Safe.perform_alone fun r v hcall => ?_)
    rcases requireText_cases "Destination rail cannot be empty" route.destination with
      hdestination | ⟨hblank, err, hdestination⟩
    · rcases requireText_cases "Rule name cannot be empty" route.ruleName with
        hname | ⟨hblank, err, hname⟩
      · obtain ⟨⟨row, rfl⟩, hholds⟩ := h.update
          (assignRoute u.now route.destination route.ruleName .routed)
          (by rw [requirePaymentId_ok hid, hdestination, hname]; rfl) (fun _ => rfl)
          (fun _ _ => rfl) hcall
        refine Safe.bind (Safe.perform_alone fun r w hcall => ?_)
        obtain ⟨rfl, hholds'⟩ := hholds.log hid (by decide) (by decide) (by simp) hcall
        refine Safe.pure ?_
        rintro w' - rfl
        exact ⟨hholds', hrouted⟩
      · obtain ⟨rfl, rfl⟩ := refused_update
          (by rw [requirePaymentId_ok hid, hdestination, hname]; rfl) hcall
        exact ⟨h, .unnamed hn hrouted hblank⟩
    · obtain ⟨rfl, rfl⟩ := refused_update (by rw [requirePaymentId_ok hid, hdestination]; rfl) hcall
      exact ⟨h, .unqueued hn hrouted (railKeyMap_of_blank hblank)⟩

/-- What is encoded for a rail is an object. -/
theorem truthy_fromCanonical (translator : Translation.Translator) (rail : Rail)
    (c : CanonicalPacs008) : (translator.fromCanonical rail c).truthy = true := by
  cases rail <;> rfl

theorem railKeyMap_of_unnamed {rail : Text} (h : railNamed rail = none) : railKeyMap rail = none := by
  have hne : ∀ r : Rail, rail ≠ js r.name := fun r heq => by
    have hr := List.find?_eq_none.mp h r (by cases r <;> decide)
    exact hr (by simpa using heq)
  rw [railKeyMap, if_neg (hne .pix), if_neg (hne .spei), if_neg (hne .breB)]

/-- Step 6b. -/
theorem translateStep_alone {n : CanonicalPacs008} (hn : NormalizedTo D p n) {route : RouteResult}
    (hrouted : Routed D n route) (h : Holds p s .routed t) (hid : isPaymentId p.paymentId = true) :
    (p.translateStep n route).Safe (Call.answer D.collaborators) (Discipline.alone _)
      (fun u r => match r with
        | .ok translated => Holds p s .routed u ∧
            D.FromCanonical route.destination n (.ok translated)
        | .error _ => Holds p s .routed u ∧ Refused D p) t := by
  refine Safe.bind (Safe.perform_alone fun r u hcall => ?_)
  obtain ⟨hencode, rfl⟩ := hcall
  cases hrail : railNamed route.destination with
  | none =>
    obtain ⟨message, rfl⟩ := (Deployment.fromCanonical_of_unnamed hrail).mp hencode
    exact ⟨h, .unqueued hn hrouted (railKeyMap_of_unnamed hrail)⟩
  | some rail =>
    obtain ⟨translator, ht, rfl⟩ := (Deployment.fromCanonical_of_named hrail).mp hencode
    refine Safe.bind (Safe.perform_alone fun r v hcall => ?_)
    obtain ⟨⟨row, rfl⟩, hholds⟩ := h.update
      (assignTranslated u.now (translator.fromCanonical rail n))
      (by rw [requirePaymentId_ok hid, truthy_fromCanonical]; rfl) (fun _ => rfl)
      (fun _ hstatus => hstatus) hcall
    refine Safe.pure ?_
    rintro v' - rfl
    exact ⟨hholds, hencode⟩

/-- **Steps 2 to 6b** leave a payment ready to be published, or refuse it. -/
theorem prepare_alone (hnew : s.payments p.paymentId = none) (hid : isPaymentId p.paymentId = true)
    {origin : AliasPrefix} (horigin : p.originRail = origin.rail) :
    p.prepare.Safe (Call.answer D.collaborators) (Discipline.alone _)
      (fun t r => match r with
        | .ok x => Holds p s .routed t ∧ IsPrepared D p x
        | .error _ => (∃ status, Holds p s status t) ∧ Refused D p) s := by
  refine Safe.bind ((receive_alone hnew hid).mono fun t r _ hreceived => ?_)
  obtain ⟨rfl, hreceived⟩ := hreceived
  refine Safe.bind ((validate_alone hreceived hid).mono fun t r _ hvalidated => ?_)
  obtain ⟨rfl, hvalidated⟩ := hvalidated
  refine Safe.bind ((canonicalize_alone hvalidated hid horigin).mono fun t r _ hcanonical => ?_)
  cases r with
  | error err => exact ⟨⟨_, hcanonical.1⟩, hcanonical.2⟩
  | ok canonical =>
    obtain ⟨hcanonicalized, hcurrency, hmade⟩ := hcanonical
    refine Safe.bind ((normalizeStep_alone canonical hcanonicalized hid).mono
      fun t r _ hnormalized => ?_)
    obtain ⟨⟨n, rfl, hnormalize⟩, hholds⟩ := hnormalized
    have hn : NormalizedTo D p n := ⟨origin, canonical, horigin, hmade, hnormalize⟩
    refine Safe.bind ((route_alone hn hholds hid).mono fun t r _ hroute => ?_)
    cases r with
    | error err => exact ⟨⟨_, hroute.1⟩, hroute.2⟩
    | ok route =>
      obtain ⟨hrow, hrouted⟩ := hroute
      refine Safe.bind ((translateStep_alone hn hrouted hrow hid).mono fun t r _ htranslated => ?_)
      cases r with
      | error err => exact ⟨⟨_, htranslated.1⟩, htranslated.2⟩
      | ok translated =>
        refine Safe.pure ?_
        rintro t' - rfl
        exact ⟨htranslated.1, hcurrency, hn, hrouted, htranslated.2⟩

/-- The row of a queued payment, and the message in the queue of its rail. -/
structure Queues (D : Deployment) (p : Payment) (s : Store) (x : Payment.Prepared) (t : Store) :
    Prop where
  row : ∃ row, t.payments = Function.update s.payments p.paymentId (some row) ∧
    row.identity = p.newPayment ∧ row.status = .queued
  message : ∃ key, railKeyMap x.route.destination = some key ∧
    t.published = s.published ++ [(key, p.message x.normalized x.route x.translated)]

/-- **The body of the `try`.** -/
theorem run_alone (hnew : s.payments p.paymentId = none) (hid : isPaymentId p.paymentId = true)
    {origin : AliasPrefix} (horigin : p.originRail = origin.rail) :
    p.run.Safe (Call.answer D.collaborators) (Discipline.alone _)
      (fun t r => match r with
        | .ok result => ∃ x, result = p.result x ∧ IsPrepared D p x ∧ Queues D p s x t
        | .error _ => (∃ status, Holds p s status t) ∧ Refused D p) s := by
  refine Safe.bind ((prepare_alone hnew hid horigin).mono fun t r _ hprepared => ?_)
  cases r with
  | error err => exact hprepared
  | ok x =>
    obtain ⟨hholds, hx⟩ := hprepared
    refine Safe.bind (Safe.perform_alone fun r u hcall => ?_)
    simp only [Call.answer, Store.publish] at hcall
    cases hkey : railKeyMap x.route.destination with
    | none =>
      rw [hkey] at hcall
      obtain ⟨rfl, rfl⟩ := Prod.mk.inj hcall
      exact ⟨⟨_, hholds⟩, .unqueued hx.normalized hx.routed hkey⟩
    | some key =>
      rw [hkey] at hcall
      obtain ⟨rfl, rfl⟩ := Prod.mk.inj hcall
      -- from here on the store is that of before with one more message
      have hmore : Holds p { s with published := s.published ++
          [(key, p.message x.normalized x.route x.translated)] } .routed
            { t with published := t.published ++
              [(key, p.message x.normalized x.route x.translated)] } :=
        ⟨hholds.row, by rw [hholds.published]⟩
      refine Safe.bind (Safe.bind (Safe.perform_alone fun r v hcall => ?_))
      obtain ⟨⟨row, rfl⟩, hqueued⟩ := hmore.updateStatus hid hcall
      refine Safe.perform_alone fun r w hcall => ?_
      obtain ⟨rfl, hlogged⟩ := hqueued.log hid (by decide) (by decide) (by simp) hcall
      refine Safe.pure ?_
      rintro w' - rfl
      exact ⟨x, rfl, hx, hlogged.row, key, hkey, hlogged.published⟩

/-- The `catch` block marks the payment as failed, and throws what was thrown. -/
theorem handle_alone (err : Failure) {status : PaymentStatus} (h : Holds p s status t)
    (hid : isPaymentId p.paymentId = true) :
    (p.handle err).Safe (Call.answer D.collaborators) (Discipline.alone _)
      (fun u r => r = .error err ∧ Holds p s .failed u) t := by
  refine Safe.bind (Safe.tryCatch (Safe.bind (Safe.perform_alone fun r u hcall => ?_)))
  obtain ⟨⟨row, rfl⟩, hfailed⟩ := h.updateStatus hid hcall
  refine Safe.perform_alone fun r v hcall => ?_
  obtain ⟨rfl, hlogged⟩ := hfailed.log hid (by decide) (by decide) (by simp) hcall
  rintro v' - rfl
  exact ⟨rfl, hlogged⟩

/-- How `execute` settles: the payment is queued, with its message in the queue of the rail that its
route names, or it has failed for a reason and nothing was sent. No other payment is touched. -/
def Settles (D : Deployment) (p : Payment) (s t : Store) (r : Except Failure PipelineResult) : Prop :=
  (∃ x, r = .ok (p.result x) ∧ IsPrepared D p x ∧ Queues D p s x t) ∨
    (∃ err, r = .error err) ∧ Refused D p ∧ Holds p s .failed t

theorem try_alone (hnew : s.payments p.paymentId = none) (hid : isPaymentId p.paymentId = true)
    {origin : AliasPrefix} (horigin : p.originRail = origin.rail) :
    (Program.tryCatch p.run p.handle).Safe (Call.answer D.collaborators) (Discipline.alone _)
      (fun t r => Settles D p s t r) s := by
  refine Safe.tryCatch ((run_alone hnew hid horigin).mono fun t r _ hrun => ?_)
  cases r with
  | ok result =>
    obtain ⟨x, rfl, hx, hqueues⟩ := hrun
    exact Or.inl ⟨x, rfl, hx, hqueues⟩
  | error err =>
    obtain ⟨⟨status, hholds⟩, hrefused⟩ := hrun
    exact (handle_alone err hholds hid).mono fun u r _ hhandled =>
      Or.inr ⟨⟨err, hhandled.1⟩, hrefused, hhandled.2⟩

end

end MipitCore.Pipeline
