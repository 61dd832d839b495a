import MipitCore.Service.Deployment
import MipitCore.Service.Published
import MipitCore.Translation.Relay

/-!
# What is asked for is what is asked on

Between the request of a customer and the message to an adapter lie a translation, a
normalization, a route and another translation, while other activities work on the same store
and any call may fail. Whatever reaches the broker asks for the amount, the accounts, the purpose
and the reference that were stored when the request came in, in the queue of the rail that the
first matching rule names, and in the format of that rail.

## Main definitions

* `AsRequested` — a message and the payment that it is about
* `Requested` — all messages of the broker

## Main results

* `asRequested_of_ready` — who publishes a message
* `requested_run` — every run of the service
-/

namespace MipitCore

open Js Foundation Persistence Program Api Translation Normalization

/-- The message asks for what the payment is: in its canonical form, and in the format of the rail
that it is routed to. -/
structure AsRequested (D : Deployment) (key : RoutingKey) (message : AdapterMessage)
    (p : NewPayment) : Prop where
  paymentId : message.canonical.paymentId = p.paymentId
  traceId : message.canonical.traceId = some p.traceId
  amount : message.canonical.amount =
    ⟨p.amount, D.engine.toUpperCase (D.engine.toUpperCase p.currency), none, none⟩
  originRail : message.canonical.origin.rail = p.originRail
  debtor : message.canonical.debtor.accountId = p.debtorAlias
  debtorName : ∀ name ∈ p.debtorName, message.canonical.debtor.name = some name
  creditor : message.canonical.creditor.accountId = p.creditorAlias
  creditorName : ∀ name ∈ p.creditorName, message.canonical.creditor.name = some name
  «alias» : ∃ origin : AliasPrefix, p.originRail = origin.rail ∧
    message.canonical.alias = requestAlias origin p.creditorAlias
  purpose : message.canonical.purpose = orElse p.purpose (js "P2P")
  reference : message.canonical.reference = orElse p.reference (js "MIPIT-POC")
  routed : Routed D message.canonical ⟨message.destinationRail, message.routeRuleApplied⟩
  encoded : ∃ rail t, railNamed message.destinationRail = some rail ∧ IsTranslator D.engine t ∧
    message.translated = t.fromCanonical rail message.canonical
  key : railKeyMap message.destinationRail = some key

/-- Every message that the broker has is about a payment that is stored, and asks for it. -/
def Requested (D : Deployment) (s : Store) : Prop :=
  ∀ x ∈ s.published, ∃ row, s.payments x.2.paymentId = some row ∧
    AsRequested D x.1 x.2 row.identity

section

variable {D : Deployment} {ι : Type} [DecidableEq ι] {case' : CaseMapping} {webhooks : Bool}
  {activities : ι → Activity} {store : Store} {d : Config Store ι (Service Unit)}
  {path : List (ServiceStep ι)}

/-- The rail that a request is from is one of three. -/
theorem originRail_of_infer {request : CreatePaymentRequest} {originRail : Rail}
    (h : Pipeline.inferRail request.debtor.alias = .ok originRail) :
    ∃ origin : AliasPrefix, originRail = origin.rail := by
  obtain ⟨origin, horigin⟩ := Pipeline.inferRail_accepted request.debtor.alias
  exact ⟨origin, Except.ok.inj (h.symm.trans horigin)⟩

theorem encoded_of_fromCanonical {destinationRail : Text} {c : CanonicalPacs008}
    {translated : JsValue} (h : D.FromCanonical destinationRail c (.ok translated)) :
    ∃ rail t, railNamed destinationRail = some rail ∧ IsTranslator D.engine t ∧
      translated = t.fromCanonical rail c := by
  cases hrail : railNamed destinationRail with
  | none =>
    obtain ⟨message, hmessage⟩ := (Deployment.fromCanonical_of_unnamed hrail).mp h
    cases hmessage
  | some rail =>
    obtain ⟨t, ht, htranslated⟩ := (Deployment.fromCanonical_of_named hrail).mp h
    exact ⟨rail, t, rfl, ht, Except.ok.inj htranslated⟩

/-- **Who is ready to publish a message** has made it of the request. -/
theorem asRequested_of_ready {p : Pipeline.Payment} {origin : AliasPrefix}
    (horigin : p.originRail = origin.rail) {history : List CallOutcome} {key : RoutingKey}
    {message : AdapterMessage} (hready : p.Ready history message)
    (hcredible : ∀ {k : Call} {a : k.Result}, Returned k a history →
      Credible D.collaborators ⟨k, .ok a⟩)
    (hkey : railKeyMap message.destinationRail = some key) :
    AsRequested D key message p.newPayment := by
  obtain ⟨c, htranslated, -, hnormalized⟩ := hready.canonical
  obtain ⟨-, -, ⟨t, ht, hc⟩, -⟩ := (hcredible htranslated).answer
  obtain ⟨-, -, ⟨runtime, fx, hruntime, hn⟩, -⟩ := (hcredible hnormalized).answer
  obtain ⟨-, -, hresolve, -⟩ := (hcredible hready.resolved).answer
  obtain ⟨-, -, hencode, -⟩ := (hcredible hready.encoded).answer
  rw [horigin] at hc
  have hmade := madeOf_of_toCanonical ht hc.symm
  have hmessage := (Except.ok.inj hn).trans (normalize_eq runtime fx c)
  have hupper : runtime.toUpperCase = D.engine.toUpperCase := congrArg CaseMapping.toUpperCase hruntime
  exact
    { paymentId := by rw [hmessage]; exact hmade.paymentId
      traceId := by rw [hmessage]; exact hmade.traceId
      amount := by rw [hmessage, hmade.amount, hupper]; rfl
      originRail := by rw [hmessage]; exact hmade.originRail.trans horigin.symm
      debtor := by rw [hmessage]; exact hmade.debtor
      debtorName := fun name hname => by
        obtain ⟨name', hname', rfl⟩ := Option.map_eq_some_iff.mp hname
        rw [hmessage]
        exact hmade.debtorName name' hname'
      creditor := by rw [hmessage]; exact hmade.creditor
      creditorName := fun name hname => by
        obtain ⟨name', hname', rfl⟩ := Option.map_eq_some_iff.mp hname
        rw [hmessage]
        exact hmade.creditorName name' hname'
      «alias» := ⟨origin, horigin, by rw [hmessage]; exact hmade.alias⟩
      purpose := by rw [hmessage, hmade.purpose]; rfl
      reference := by rw [hmessage, hmade.reference]; rfl
      routed := routed_of_resolve hresolve
      encoded := encoded_of_fromCanonical hencode
      key := hkey }

/-- Who publishes a message has made it of a request. -/
theorem requester_at {before after : List (ServiceStep ι)} {e : ServiceStep ι} {i : ι}
    {o : CallOutcome}
    (h : (service D.collaborators ι).toLTS.Run (serviceStart case' webhooks activities store)
      (before ++ e :: after) d)
    (hlabel : e.label = some (i, o)) {x : RoutingKey × AdapterMessage}
    (hx : publication o = some x) :
    ∃ (p : Pipeline.Payment) (origin : AliasPrefix), p.originRail = origin.rail ∧
      p.Ready (outcomesOf i before) x.2 ∧ railKeyMap x.2.destinationRail = some x.1 := by
  obtain ⟨hallows, -⟩ := allowed_at h hlabel
  obtain ⟨k, r⟩ := o
  cases k with
  | publishToAdapter destination message =>
    cases r with
    | error err => cases hx
    | ok u =>
      obtain ⟨key, hkey, rfl⟩ := Option.map_eq_some_iff.mp hx
      generalize activities i = activity at hallows
      cases activity with
      | pipeline request context draws =>
        obtain ⟨originRail, hinfer, rfl, hready⟩ := hallows
        obtain ⟨origin, horigin⟩ := originRail_of_infer hinfer
        exact ⟨_, origin, horigin, hready, hkey⟩
      | _ => exact hallows.elim
  | _ => cases hx

/-- A message that was published in a run asks for its payment, then and later. -/
theorem requested_of_publication
    (h : (service D.collaborators ι).toLTS.Run (serviceStart case' webhooks activities store) path d)
    {i : ι} {o : CallOutcome} (ho : (i, o) ∈ outcomes path) {x : RoutingKey × AdapterMessage}
    (hx : publication o = some x) :
    ∃ row, d.store.payments x.2.paymentId = some row ∧ AsRequested D x.1 x.2 row.identity := by
  obtain ⟨before, e, after, rfl, hlabel, -, -, -⟩ := taken_run h ho
  obtain ⟨p, origin, horigin, hready, hkey⟩ := requester_at h hlabel hx
  have hmem : ∀ {k : Call} {a : k.Result}, Returned k a (outcomesOf i before) →
      (i, ⟨k, .ok a⟩) ∈ outcomes (before ++ e :: after) := by
    intro k a ha
    rw [outcomes_append]
    exact List.mem_append_left _ (mem_outcomesOf.mp ha)
  have hrequested := asRequested_of_ready horigin hready (fun ha => by
    obtain ⟨-, -, -, hcredible⟩ := allowed_run h (hmem ha)
    exact hcredible) hkey
  obtain ⟨created, hcreated⟩ := hready.created
  obtain ⟨row, hrow, hidentity⟩ := created_run h (hmem hcreated)
  refine ⟨row, by rw [hready.paymentId]; exact hrow, ?_⟩
  rw [hidentity]
  exact hrequested

/-- **What is asked for is what is asked on**: in every state that a run of the service reaches,
each message to an adapter asks for the payment that was stored. -/
theorem requested_run (hstore : Requested D store)
    (h : (service D.collaborators ι).toLTS.Run (serviceStart case' webhooks activities store)
      path d) : Requested D d.store := by
  intro x hx
  rw [published_run h] at hx
  rcases List.mem_append.mp hx with hx | hx
  · -- it was published before the run, and its payment is still the same
    obtain ⟨row, hrow, hrequested⟩ := hstore x hx
    obtain ⟨row', hrow', hextends⟩ := kept_run h hrow
    exact ⟨row', hrow', by rw [hextends.identity]; exact hrequested⟩
  · obtain ⟨⟨i, o⟩, ho, hx⟩ := List.mem_filterMap.mp hx
    exact requested_of_publication h ho hx

end

/-! ### A deployment with one rule -/

namespace Example

/-- Everything is sent over SPEI. -/
def anyToSpei : Service.RouteRule :=
  ⟨js "any", js "availability", js "always", js "SPEI", .fin 1⟩

def deployment : Deployment where
  engine := Translation.Example.passage.engine
  loads rules := rules = [anyToSpei]
  numeric := by
    rintro rules rfl
    decide

/-- Functions that answer as the collaborators of the deployment do. -/
def deployedHost : Host where
  toCanonical rail request paymentId traceId :=
    Translation.Example.courier.toCanonical rail request.toValue paymentId (some traceId)
  normalize c := .ok (normalize Translation.Example.runtime Translation.Example.fx c)
  resolve _ := .ok ⟨js "SPEI", js "any"⟩
  fromCanonical destinationRail c :=
    match railNamed destinationRail with
    | some rail => .ok (Translation.Example.courier.fromCanonical rail c)
    | none => .error (.translation destinationRail "Unsupported destination rail")
  expiresAt _ := none

theorem isTranslator_courier : IsTranslator deployment.engine Translation.Example.courier where
  engine := rfl
  inactive _ := ⟨[], rfl, fun _ he => absurd he List.not_mem_nil⟩

theorem deployedHost_serves : deployedHost.Serves deployment.collaborators where
  toCanonical rail request paymentId traceId :=
    ⟨Translation.Example.courier, isTranslator_courier, rfl⟩
  normalize c := ⟨Translation.Example.runtime, Translation.Example.fx, rfl, rfl⟩
  resolve c := ⟨[anyToSpei], fun _ => 0, rfl, by
    rw [Routing.resolve, List.zipIdx_singleton, List.mergeSort_singleton]
    rfl⟩
  fromCanonical destinationRail c := by
    change deployment.FromCanonical destinationRail c _
    unfold deployedHost
    cases hrail : railNamed destinationRail with
    | none =>
      exact (Deployment.fromCanonical_of_unnamed hrail).mpr
        ⟨"Unsupported destination rail", by simp [hrail]⟩
    | some rail =>
      exact (Deployment.fromCanonical_of_named hrail).mpr
        ⟨_, isTranslator_courier, by simp [hrail]⟩

def answerDeployed (c : Call) (s : Store) : Option (Except Failure c.Result × Store) :=
  some (c.respond deployedHost s)

/-- The activities take turns as `schedule` says, over the deployed collaborators. -/
def runDeployed {ι : Type} [DecidableEq ι] (activities : ι → Activity) (schedule : List ι) :
    List (ServiceStep ι) × Config Store ι (Service Unit) :=
  Program.schedule (fun _ => answerDeployed) schedule
    (serviceStart .ascii true activities Pipeline.Example.store)

theorem run_deployed {ι : Type} [DecidableEq ι] (activities : ι → Activity) (schedule : List ι) :
    (service deployment.collaborators ι).toLTS.Run
      (serviceStart .ascii true activities Pipeline.Example.store)
      (runDeployed activities schedule).1 (runDeployed activities schedule).2 := by
  refine Program.run_schedule (f := fun _ => answerDeployed) ?_ _ _
  intro i c s r t h
  have hanswer := deployedHost_serves.answer c s
  rw [Option.some.inj h] at hanswer
  exact Or.inl hanswer

end Example

/-- A payment between two keys of PIX, which is sent over SPEI, while another one uses its
identifier. -/
theorem requested_run_deployed :
    let d := (Example.runDeployed (fun _ : Bool => Example.pixPayment)
      (List.replicate 17 true ++ List.replicate 3 false)).2
    d.store.published.length = 1 ∧ Requested Example.deployment d.store := by
  refine ⟨by decide +kernel, requested_run ?_ (Example.run_deployed _ _)⟩
  intro x hx
  cases hx

end MipitCore
