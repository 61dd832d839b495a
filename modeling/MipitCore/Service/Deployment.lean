import MipitCore.Routing.RouteEngine
import MipitCore.Service.Calls
import MipitCore.Translation.Translator

/-!
# The service as it is put together

The pipeline is given its translator, its normalizer and its route engine when the service
starts. What these answer depends on what they draw from their host, on the exchange rates, on
the mapping table and on the rules that are loaded; here nothing is assumed of these, except that
no mapping is active, and that priorities are numbers.

## Main definitions

* `Deployment`, `Deployment.collaborators` — the collaborators of the pipeline
* `MadeOf` — what a canonical message has of a request
* `Routed` — what is known of a route

## Main results

* `toCanonical_eq`, `madeOf_of_toCanonical` — a request that is translated
* `routed_of_resolve` — a message that is routed
-/

namespace MipitCore

open Js Api Translation

/-- How the service is deployed: the engine that it runs on, and the rules that may be loaded. -/
structure Deployment where
  engine : Engine
  loads : List Service.RouteRule → Prop
  numeric : ∀ rules, loads rules → ∀ rule ∈ rules, rule.priority ≠ .nan

/-- The translator of an engine, with whatever it draws, and without active mappings. -/
structure IsTranslator (engine : Engine) (t : Translator) : Prop where
  engine : t.engine = engine
  inactive : ∀ rail, ∃ rows, t.table rail = some rows ∧ ∀ e ∈ rows, e.isActive = false

/-- No mapping is loaded. -/
theorem IsTranslator.load {engine : Engine} {t : Translator} (ht : IsTranslator engine t)
    (rail : Rail) : (t.table rail).map loadMappings = some [] := by
  obtain ⟨rows, hrows, hnone⟩ := ht.inactive rail
  rw [hrows, Option.map_some, loadMappings_inactive hnone]

/-- The rail of a name. -/
def railNamed (name : Text) : Option Rail := Rail.all.find? fun rail => name = js rail.name

namespace Deployment

variable (D : Deployment)

/-- `toCanonical(rail, payload, paymentId, traceId)` of the deployed translator. -/
def ToCanonical (rail : Rail) (request : CreatePaymentRequest) (paymentId traceId : Text)
    (r : Except Failure CanonicalPacs008) : Prop :=
  ∃ t, IsTranslator D.engine t ∧ r = t.toCanonical rail request.toValue paymentId (some traceId)

/-- `fromCanonical(destinationRail, canonical)` of the deployed translator; it throws for what is
no rail. -/
def FromCanonical (destinationRail : Text) (c : CanonicalPacs008) (r : Except Failure JsValue) :
    Prop :=
  match railNamed destinationRail with
  | some rail => ∃ t, IsTranslator D.engine t ∧ r = .ok (t.fromCanonical rail c)
  | none => ∃ message, r = .error (.translation destinationRail message)

/-- `normalize(canonical)` of the deployed normalizer, whatever the exchange service answers. -/
def Normalize (c : CanonicalPacs008) (r : Except Failure CanonicalPacs008) : Prop :=
  ∃ (runtime : Normalization.Runtime) (fx : Normalization.FxService),
    runtime.toCaseMapping = D.engine.toCaseMapping ∧ r = .ok (Normalization.normalize runtime fx c)

/-- `resolve(canonical)` of the deployed route engine, at any time. The array of the rules may have
been sorted before, which changes no answer. -/
def Resolve (c : CanonicalPacs008) (r : Except Failure RouteResult) : Prop :=
  ∃ rules clock, D.loads rules ∧
    r = (Routing.resolve D.engine.toCaseMapping ⟨c, clock⟩ rules.zipIdx).1

variable {D} {destinationRail : Text} {c : CanonicalPacs008}

theorem fromCanonical_of_named {rail : Rail} (hrail : railNamed destinationRail = some rail)
    {r : Except Failure JsValue} : D.FromCanonical destinationRail c r ↔
      ∃ t, IsTranslator D.engine t ∧ r = .ok (t.fromCanonical rail c) := by
  unfold FromCanonical
  rw [hrail]

theorem fromCanonical_of_unnamed (hrail : railNamed destinationRail = none)
    {r : Except Failure JsValue} : D.FromCanonical destinationRail c r ↔
      ∃ message, r = .error (.translation destinationRail message) := by
  unfold FromCanonical
  rw [hrail]

variable (D)

/-- The collaborators of the pipeline. -/
def collaborators : Collaborators where
  toCanonical := D.ToCanonical
  normalize := D.Normalize
  resolve := D.Resolve
  fromCanonical := D.FromCanonical

end Deployment

/-! ### Collaborators that are functions -/

/-- The functions of the host answer as the collaborators may. -/
structure Host.Serves (h : Host) (W : Collaborators) : Prop where
  toCanonical : ∀ rail request paymentId traceId,
    W.toCanonical rail request paymentId traceId (h.toCanonical rail request paymentId traceId)
  normalize : ∀ c, W.normalize c (h.normalize c)
  resolve : ∀ c, W.resolve c (h.resolve c)
  fromCanonical : ∀ destinationRail c, W.fromCanonical destinationRail c (h.fromCanonical destinationRail c)

theorem Host.Serves.answer {h : Host} {W : Collaborators} (hserves : h.Serves W) (c : Call)
    (s : Store) : Call.answer W c s (c.respond h s).1 (c.respond h s).2 := by
  have hanswer := Call.answer_respond h c s
  cases c with
  | toCanonical rail request paymentId traceId =>
    exact ⟨hserves.toCanonical rail request paymentId traceId, rfl⟩
  | normalize c => exact ⟨hserves.normalize c, rfl⟩
  | resolve c => exact ⟨hserves.resolve c, rfl⟩
  | fromCanonical destinationRail c => exact ⟨hserves.fromCanonical destinationRail c, rfl⟩
  | _ => exact hanswer

/-! ### A request that is translated -/

/-- What a canonical message has of the request that it was made of. -/
structure MadeOf (engine : Engine) (origin : AliasPrefix) (request : CreatePaymentRequest)
    (paymentId traceId : Text) (c : CanonicalPacs008) : Prop where
  paymentId : c.paymentId = paymentId
  traceId : c.traceId = some traceId
  amount : c.amount = ⟨request.amount.1, engine.toUpperCase request.currency.1, none, none⟩
  originRail : c.origin.rail = origin.rail
  debtor : c.debtor.accountId = request.debtor.alias.1
  debtorName : ∀ name ∈ request.debtor.name, c.debtor.name = some name.1
  creditor : c.creditor.accountId = request.creditor.alias.1
  creditorName : ∀ name ∈ request.creditor.name, c.creditor.name = some name.1
  «alias» : c.alias = requestAlias origin request.creditor.alias.1
  purpose : c.purpose = request.purpose.1
  reference : c.reference = request.reference.1

section

variable {engine : Engine} {t : Translator} {request : CreatePaymentRequest} {origin : AliasPrefix}
  {paymentId traceId : Text} {c : CanonicalPacs008}

/-- The message that a request becomes, if its currency keeps its three letters. -/
def requestMessage (t : Translator) (origin : AliasPrefix) (request : CreatePaymentRequest)
    (paymentId traceId : Text) : CanonicalPacs008 :=
  let key (R : RequestRail) := Text.stripPrefix R.aliasPrefix request.creditor.alias.1
  match origin with
  | .pix => requestCanonical pixRequest t.engine t.decoding request paymentId (some traceId)
      (key pixRequest)
  | .spei => requestCanonical speiRequest t.engine t.decoding request paymentId (some traceId)
      (key speiRequest)
  | .breb => brebRequestCanonical t.engine t.decoding request paymentId (some traceId)

theorem nameText_of_mem {field : String} {p : PartyRequest field} {name : MaxText 140}
    (h : name ∈ p.name) : nameText p = some name.1 := by
  rw [nameText, Option.mem_def.mp h, Option.map_some]

theorem nameOrUnknown_of_mem {field : String} {p : PartyRequest field} {name : MaxText 140}
    (h : name ∈ p.name) : some (nameOrUnknown p) = some name.1 := by
  rw [nameOrUnknown, nameText_of_mem h, Option.getD_some]

theorem madeOf_requestMessage (t : Translator) (origin : AliasPrefix)
    (request : CreatePaymentRequest) (paymentId traceId : Text) :
    MadeOf t.engine origin request paymentId traceId
      (requestMessage t origin request paymentId traceId) := by
  cases origin with
  | pix | spei =>
    exact ⟨rfl, rfl, rfl, rfl, rfl, fun _ => nameText_of_mem, rfl, fun _ => nameText_of_mem, rfl,
      rfl, rfl⟩
  | breb =>
    exact ⟨rfl, rfl, rfl, rfl, rfl, fun _ => nameOrUnknown_of_mem, rfl,
      fun _ => nameOrUnknown_of_mem, rfl, rfl, rfl⟩

/-- **A request is translated** exactly if its currency has three letters in upper case. -/
theorem toCanonical_eq (ht : IsTranslator engine t) (hid : isPaymentId paymentId = true)
    (origin : AliasPrefix) (request : CreatePaymentRequest) (traceId : Text) :
    ∃ invalid, t.toCanonical origin.rail request.toValue paymentId (some traceId) =
      if (engine.toUpperCase request.currency.1).length = 3 then
        .ok (requestMessage t origin request paymentId traceId)
      else .error (.translation (js origin.rail.name) invalid) := by
  have hload := ht.load
  obtain ⟨rfl, -⟩ := ht
  cases origin with
  | pix =>
    refine ⟨pixRequest.invalid, ?_⟩
    simp only [Translator.toCanonical, AliasPrefix.rail, hload, pixToCanonical,
      isNativePixPayload_toValue]
    exact decodeRequest_nil ⟨rfl, rfl⟩ hid request
  | spei =>
    refine ⟨speiRequest.invalid, ?_⟩
    simp only [Translator.toCanonical, AliasPrefix.rail, hload, speiToCanonical]
    exact decodeRequest_nil ⟨rfl, rfl⟩ hid request
  | breb => exact ⟨_, brebToCanonical_request hid request⟩

/-- A message is accepted under the identifier of a payment only. -/
theorem isPaymentId_of_decodes {fields : List (String × JsValue)} (d : c.Decodes fields)
    (h : JsValue.field "payment_id" fields = .string paymentId) : isPaymentId paymentId = true := by
  have hid := d.paymentId
  rw [Schema.field, h] at hid
  obtain ⟨rfl, hcheck⟩ : paymentId = c.paymentId ∧ isPaymentId c.paymentId = true := by
    simpa [Schema.check] using hid
  exact hcheck

theorem isPaymentId_of_decodeRequest {R : RequestRail} {fresh : Fresh}
    (h : decodeRequest R engine fresh (some []) request.toValue paymentId (some traceId) = .ok c) :
    isPaymentId paymentId = true := by
  have hraw : requestObject R engine fresh (some []) request.toValue paymentId (some traceId) =
      some (.object (requestFields R engine fresh request paymentId (some traceId)
        (Text.stripPrefix R.aliasPrefix request.creditor.alias.1))) := by
    simp only [requestObject, requestDefaults_toValue, applyMappings, List.foldlM_nil,
      Option.bind_eq_bind, Option.bind_some, Option.pure_def, aliasFallback_toValue]
  rw [decodeRequest, hraw] at h
  exact isPaymentId_of_decodes (decoded_object_eq_ok.mp h) rfl

theorem isPaymentId_of_toCanonical (ht : IsTranslator engine t)
    (h : t.toCanonical origin.rail request.toValue paymentId (some traceId) = .ok c) :
    isPaymentId paymentId = true := by
  cases origin with
  | pix =>
    simp only [Translator.toCanonical, AliasPrefix.rail, ht.load, pixToCanonical,
      isNativePixPayload_toValue] at h
    exact isPaymentId_of_decodeRequest h
  | spei =>
    simp only [Translator.toCanonical, AliasPrefix.rail, ht.load, speiToCanonical] at h
    exact isPaymentId_of_decodeRequest h
  | breb =>
    simp only [Translator.toCanonical, AliasPrefix.rail] at h
    rw [brebToCanonical, brebObject_toValue] at h
    exact isPaymentId_of_decodes (decoded_object_eq_ok.mp h) rfl

/-- **A request that the deployed translator takes** becomes a message of the same payment. -/
theorem madeOf_of_toCanonical (ht : IsTranslator engine t)
    (h : t.toCanonical origin.rail request.toValue paymentId (some traceId) = .ok c) :
    MadeOf engine origin request paymentId traceId c := by
  obtain ⟨invalid, heq⟩ := toCanonical_eq ht (isPaymentId_of_toCanonical ht h) origin request traceId
  rw [heq] at h
  split_ifs at h
  obtain rfl := Except.ok.inj h
  obtain ⟨rfl, -⟩ := ht
  exact madeOf_requestMessage t origin request paymentId traceId

end

/-! ### A message that is routed -/

/-- The route is that of the first of some loaded rules that match. -/
def Routed (D : Deployment) (c : CanonicalPacs008) (route : RouteResult) : Prop :=
  ∃ rules clock, D.loads rules ∧
    Routing.Resolved D.engine.toCaseMapping rules ⟨c, clock⟩ (.ok route)

/-- **A message that is routed** goes where the first matching rule says. -/
theorem routed_of_resolve {D : Deployment} {c : CanonicalPacs008} {route : RouteResult}
    (h : D.Resolve c (.ok route)) : Routed D c route := by
  obtain ⟨rules, clock, hloads, hroute⟩ := h
  have hnumeric := D.numeric rules hloads
  refine ⟨rules, clock, hloads, ?_⟩
  -- the array is sorted by priority, and no test throws before one passes
  rw [Routing.resolve, Routing.mergeSort_inPriority fun a ha =>
    hnumeric a.1 (List.fst_mem_of_mem_zipIdx ha)] at hroute
  have hreadable : Routing.Readable D.engine.toCaseMapping rules ⟨c, clock⟩ := by
    by_contra hno
    have hscan := (Routing.scan_eq_none_iff_not_readable hnumeric).mpr hno
    simp only [Routing.firstMatch] at hroute
    rw [Foundation.FirstMatch.inOrder] at hscan
    rw [hscan] at hroute
    cases hroute
  rw [hroute]
  exact (Routing.resolved_iff hnumeric).mpr hreadable

end MipitCore
