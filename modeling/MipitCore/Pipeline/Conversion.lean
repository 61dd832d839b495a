import MipitCore.Foundation.Trace
import MipitCore.Service.Activities
import MipitCore.Translation.CreditorKey

/-!
# Conversions into the destination's currency

The normalizer converts a payment into the currency of its origin rail, before the route
is known. A payment in that currency is not converted at all, whatever its destination:
the message to the adapter carries a conversion into the destination's currency exactly
if the translator has put it there, or has given the message an origin rail with the
destination's currency (`converted_iff`).

## Main definitions

* `normalizing` — collaborators with the normalizer of the service
* `Converted`, `Converts`

## Main results

* `converted_normalize` — one message
* `execute_traces` — what a completed run has called
* `converted_iff`
-/

namespace MipitCore.Pipeline

open Js Foundation Program Normalization

/-- Collaborators with the service's normalizer; the exchange service answers to each payment. -/
def normalizing (W : Collaborators) (case' : CaseMapping) (fx : Text → FxService) : Collaborators :=
  { W with
    normalize := fun c r => ∃ runtime : Runtime, runtime.toCaseMapping = case' ∧
      r = .ok (normalize runtime (fx c.paymentId) c) }

/-- The service answers every query. -/
def Answering (fx : FxService) : Prop :=
  ∀ source target, (fx.getRate source target).isSome = true ∧
    ∀ value, (fx.convert value source target).isSome = true

/-- The message carries a conversion of its amount into the currency of `rail`. -/
def Converted (fx : FxService) (c : CanonicalPacs008) (rail : Rail) : Prop :=
  ∃ f localAmount, c.fx = some f ∧ f.targetCurrency = some (railLocalCurrency rail) ∧
    f.localAmount = some localAmount ∧
    fx.convert c.amount.value c.amount.currency (railLocalCurrency rail) = some localAmount

/-- What has to hold of the message before it is normalized: it is in the currency of its origin
rail and carries the conversion already, or it is in another one and its origin rail has the
currency of `rail`. -/
def Converts (case' : CaseMapping) (fx : FxService) (c : CanonicalPacs008) (rail : Rail) : Prop :=
  if case'.toUpperCase c.amount.currency = railLocalCurrency c.origin.rail then
    ∃ f localAmount, c.fx = some f ∧ f.targetCurrency = some (railLocalCurrency rail) ∧
      f.localAmount = some localAmount ∧
      fx.convert c.amount.value (case'.toUpperCase c.amount.currency) (railLocalCurrency rail) =
        some localAmount
  else railLocalCurrency c.origin.rail = railLocalCurrency rail

/-- **One message** carries the conversion exactly if it did, or gets it from its origin rail. -/
theorem converted_normalize (runtime : Runtime) {fx : FxService} (hfx : Answering fx)
    (c : CanonicalPacs008) (rail : Rail) :
    Converted fx (normalize runtime fx c) rail ↔ Converts runtime.toCaseMapping fx c rail := by
  rw [normalize_eq]
  by_cases hlocal : runtime.toUpperCase c.amount.currency = railLocalCurrency c.origin.rail
  · rw [Converts, if_pos hlocal, Converted, normalizeCurrency_local runtime fx c hlocal]
  · -- the service answers, so that the message gets the conversion of its origin rail
    obtain ⟨rate, hrate⟩ := Option.isSome_iff_exists.mp
      (hfx (runtime.toUpperCase c.amount.currency) (railLocalCurrency c.origin.rail)).1
    obtain ⟨amount, hamount⟩ := Option.isSome_iff_exists.mp
      ((hfx (runtime.toUpperCase c.amount.currency) (railLocalCurrency c.origin.rail)).2
        c.amount.value)
    have hconverted : convertedFx fx c.amount.value (runtime.toUpperCase c.amount.currency)
        (railLocalCurrency c.origin.rail) = some ⟨some (runtime.toUpperCase c.amount.currency),
          some (railLocalCurrency c.origin.rail), some rate, some amount⟩ := by
      simp [convertedFx, hrate, hamount]
    rw [Converts, if_neg hlocal, Converted, normalizeCurrency_converts runtime fx c hlocal,
      hconverted, Option.elim_some]
    constructor
    · intro h
      obtain ⟨f, localAmount, hf, htarget, -, -⟩ := h
      obtain rfl := Option.some.inj hf
      exact Option.some.inj htarget
    · intro htarget
      exact ⟨_, amount, rfl, by rw [htarget], rfl, by rw [← htarget]; exact hamount⟩

/-! ### What a completed run has called -/

/-- The messages that were published. -/
def publications (trace : List CallOutcome) : List AdapterMessage :=
  trace.filterMap fun o =>
    match o with
    | ⟨.publishToAdapter _ message, .ok _⟩ => some message
    | _ => none

/-- What the translator has made of a request. -/
def translations (trace : List CallOutcome) : List CanonicalPacs008 :=
  trace.filterMap fun o =>
    match o with
    | ⟨.toCanonical _ _ _ _, .ok c⟩ => some c
    | _ => none

/-- The normalizer answers as `normalizing` says. -/
def Normalizes (W : Collaborators) (o : CallOutcome) : Prop :=
  ∀ c n, o = ⟨.normalize c, .ok n⟩ → W.normalize c (.ok n)

/-- A call that neither translates a request nor publishes. -/
def IsQuiet : Call → Prop
  | .toCanonical _ _ _ _ | .publishToAdapter _ _ => False
  | _ => True

theorem quiet_trace {trace : List CallOutcome} (h : ∀ o ∈ trace, IsQuiet o.call) :
    translations trace = [] ∧ publications trace = [] := by
  refine ⟨List.filterMap_eq_nil_iff.mpr fun o ho => ?_, List.filterMap_eq_nil_iff.mpr fun o ho => ?_⟩
  · have hquiet := h o ho
    obtain ⟨c, r⟩ := o
    cases c with
    | toCanonical => exact hquiet.elim
    | _ => rfl
  · have hquiet := h o ho
    obtain ⟨c, r⟩ := o
    cases c with
    | publishToAdapter => exact hquiet.elim
    | _ => rfl

@[simp] theorem translations_append (trace more : List CallOutcome) :
    translations (trace ++ more) = translations trace ++ translations more :=
  List.filterMap_append

@[simp] theorem publications_append (trace more : List CallOutcome) :
    publications (trace ++ more) = publications trace ++ publications more :=
  List.filterMap_append

/-- A program that makes quiet calls only. -/
theorem Completes.of_quiet {P : CallOutcome → Prop} {α : Type} {p : Service α}
    (h : p.Makes IsQuiet) :
    p.Completes P fun trace _ => translations trace = [] ∧ publications trace = [] :=
  (Completes.of_makes h).mono fun _ _ => quiet_trace

section Steps

variable {W : Collaborators} (p : Payment)

theorem log_quiet {P : CallOutcome → Prop} (eventType actor : String)
    (detail : List (String × JsValue)) : (p.log eventType actor detail).Completes P
      fun trace _ => translations trace = [] ∧ publications trace = [] :=
  Completes.of_quiet (makes_perform.mpr trivial)

theorem canonicalize_completes : p.canonicalize.Completes (Normalizes W) fun trace c =>
    translations trace = [c] ∧ publications trace = [] := by
  refine Completes.bind (R := fun trace c => translations trace = [c] ∧ publications trace = [])
    (Completes.perform fun c _ => ⟨rfl, rfl⟩) fun trace c hc => ?_
  refine Completes.bind (Completes.of_quiet (makes_perform.mpr trivial)) fun trace' _ h' => ?_
  refine Completes.bind (log_quiet p _ _ _) fun trace'' _ h'' => Completes.pure ?_
  simp [hc, h', h'']

theorem normalizeStep_completes (c : CanonicalPacs008) :
    (p.normalizeStep c).Completes (Normalizes W) fun trace n =>
      W.normalize c (.ok n) ∧ translations trace = [] ∧ publications trace = [] := by
  refine Completes.bind (R := fun trace n => W.normalize c (.ok n) ∧ translations trace = [] ∧
    publications trace = []) (Completes.perform fun n hn => ⟨hn c n rfl, rfl, rfl⟩) ?_
  intro trace n hn
  refine Completes.bind (log_quiet p _ _ _) fun trace' _ h' => Completes.pure ?_
  simp [hn, h']

theorem prepare_completes : p.prepare.Completes (Normalizes W) fun trace x =>
    ∃ c, translations trace = [c] ∧ publications trace = [] ∧
      W.normalize c (.ok x.normalized) := by
  have receive : p.receive.Makes IsQuiet :=
    .bind (makes_perform.mpr trivial) fun _ => makes_perform.mpr trivial
  have validate : p.validate.Makes IsQuiet :=
    .bind (makes_perform.mpr trivial) fun _ => makes_perform.mpr trivial
  have route : ∀ n, (p.route n).Makes IsQuiet := fun n =>
    .bind (makes_perform.mpr trivial) fun _ => .bind (makes_perform.mpr trivial) fun _ =>
      .bind (makes_perform.mpr trivial) fun _ => trivial
  have translate : ∀ n route, (p.translateStep n route).Makes IsQuiet := fun n route =>
    .bind (makes_perform.mpr trivial) fun _ => .bind (makes_perform.mpr trivial) fun _ => trivial
  refine Completes.bind (Completes.of_quiet receive) fun _ _ h₁ => ?_
  refine Completes.bind (Completes.of_quiet validate) fun _ _ h₂ => ?_
  refine Completes.bind (canonicalize_completes p) fun _ c h₃ => ?_
  refine Completes.bind (normalizeStep_completes p c) fun _ n h₄ => ?_
  refine Completes.bind (Completes.of_quiet (route n)) fun _ _ h₅ => ?_
  refine Completes.bind (Completes.of_quiet (translate n _)) fun _ _ h₆ => Completes.pure ?_
  exact ⟨c, by simp [h₁, h₂, h₃, h₄, h₅, h₆], by simp [h₁, h₂, h₃, h₄, h₅, h₆], h₄.1⟩

/-- **A completed run** has translated the request once, and published its normalization once. -/
theorem execute_completes (request : Api.CreatePaymentRequest) (context : Context) (draws : Draws) :
    (execute request context draws).Completes (Normalizes W) fun trace _ =>
      ∃ c message, translations trace = [c] ∧ publications trace = [message] ∧
        W.normalize c (.ok message.canonical) := by
  unfold execute
  split
  · intro result hresult
    cases hresult
  · rename_i originRail _
    refine Completes.tryCatch ?_ fun err => Payment.handle_returns err
    refine Completes.bind (prepare_completes _) fun trace x hx => ?_
    obtain ⟨c, htranslations, hpublications, hnormalize⟩ := hx
    refine Completes.bind (R := fun more _ => translations more = [] ∧
      publications more = [(start request context draws originRail).message x.normalized x.route
        x.translated]) (Completes.perform fun _ _ => ⟨rfl, rfl⟩) fun _ _ h₁ => ?_
    refine Completes.bind (Completes.of_quiet (.bind (makes_perform.mpr trivial) fun _ =>
      makes_perform.mpr trivial)) fun _ _ h₂ => Completes.pure ?_
    exact ⟨c, _, by simp [htranslations, h₁, h₂], by simp [hpublications, h₁, h₂]; rfl, hnormalize⟩

end Steps

/-! ### Runs of the service -/

section Runs

variable {ι : Type} [DecidableEq ι] {W : Collaborators} {case' : CaseMapping}
  {fx : Text → FxService} {webhooks : Bool} {activities : ι → Activity} {store : Store}
  {path : List (ServiceStep ι)} {d : Config Store ι (Service Unit)} {i : ι}
  {request : Api.CreatePaymentRequest} {context : Context} {draws : Draws}

theorem normalizes_of_faulty {c : Call} {s t : Store} {r : Except Failure c.Result}
    (h : Call.faulty W c s r t) : Normalizes W ⟨c, r⟩ := by
  rintro canonical normalized ho
  cases ho
  rcases h with h | ⟨-, ⟨e, he⟩, -⟩
  · exact h.1
  · cases he

/-- What the calls of a completed payment were. -/
theorem publications_of_run
    (h : (service W ι).toLTS.Run (serviceStart case' webhooks activities store) path d)
    (hi : activities i = .pipeline request context draws) (hdone : d.locals i = .done (.ok ())) :
    ∃ c message, translations (outcomesOf i path) = [c] ∧
      publications (outcomesOf i path) = [message] ∧ W.normalize c (.ok message.canonical) := by
  have heval := eval_outcomesOf (I := fun _ => Call.faulty W) (P := Normalizes W)
    (fun _ _ _ _ hI => normalizes_of_faulty hI) h hdone
  have hprogram : (serviceStart case' webhooks activities store).locals i =
      (execute request context draws >>= fun _ => pure ()) := by
    simp [serviceStart, hi, Activity.program]
  rw [hprogram] at heval
  have hcompletes : (execute request context draws >>= fun _ => (pure () : Service Unit)).Completes
      (Normalizes W) fun trace _ => ∃ c message, translations trace = [c] ∧
        publications trace = [message] ∧ W.normalize c (.ok message.canonical) := by
    refine Completes.bind (execute_completes request context draws) fun trace result hresult => ?_
    obtain ⟨c, message, htranslations, hpublications, hnormalize⟩ := hresult
    refine Completes.pure ⟨c, message, ?_, ?_, hnormalize⟩
    · rw [List.append_nil, htranslations]
    · rw [List.append_nil, hpublications]
  obtain ⟨trace, htrace, hresult⟩ := hcompletes.eval heval
  rw [List.nil_append] at htrace
  rw [htrace]
  exact hresult () rfl

/-- **The message that a completed payment has published** carries a conversion into the currency of
its destination rail exactly if the conversion into its origin rail's currency is one, or the
translator has put it there. -/
theorem converted_iff (hfx : ∀ paymentId, Answering (fx paymentId))
    (h : (service (normalizing W case' fx) ι).toLTS.Run
      (serviceStart case' webhooks activities store) path d)
    (hi : activities i = .pipeline request context draws) (hdone : d.locals i = .done (.ok ())) :
    ∃ c message, translations (outcomesOf i path) = [c] ∧
      publications (outcomesOf i path) = [message] ∧
      ∀ destination, Rail.ofText message.destinationRail = some destination →
        (Converted (fx c.paymentId) message.canonical destination ↔
          Converts case' (fx c.paymentId) c destination) := by
  obtain ⟨c, message, htranslations, hpublications, runtime, rfl, hnormalized⟩ :=
    publications_of_run h hi hdone
  refine ⟨c, message, htranslations, hpublications, fun destination _ => ?_⟩
  rw [Except.ok.inj hnormalized]
  exact converted_normalize runtime (hfx c.paymentId) c destination

end Runs

/-! ### Requests that are translated without rows for `fx` and `origin` -/

section Requests

open Translation Api

variable {passage : Passage} {origin : AliasPrefix} {request : CreatePaymentRequest}
  {c : CanonicalPacs008}

/-- No row writes into the conversion or the origin of a message. -/
def LeavesFx (table : MappingTable) : Prop :=
  ∀ rail rows, table rail = some rows → ∀ entry ∈ loadMappings rows,
    entry.2.targetProperty ≠ "fx" ∧ entry.2.targetProperty ≠ "origin"

theorem rail_of_agentSchema {r : Rail} {a : Agent Rail}
    (h : agentSchema (Schema.enumeration railNames) (.object [("rail", .string (js r.name))]) =
      some a) : a.rail = r := by
  have hrail : a = ⟨r, none, none, none, none⟩ := by
    simpa [agentSchema, Schema.field, railNames_find] using h.symm
  rw [hrail]

theorem target_of_fxSchema {currency : Text} {f : Fx}
    (h : fxSchema.optional (.object [("source_currency", .string currency)]) = some (some f)) :
    f.targetCurrency = none := by
  rw [Schema.optional_object, Option.map_eq_some_iff] at h
  obtain ⟨f', hf', hff'⟩ := h
  obtain rfl := Option.some.inj hff'
  simp only [fxSchema, Schema.object_object, Schema.field, Option.bind_eq_bind,
    Option.bind_eq_some_iff, Option.pure_def, Option.some.injEq] at hf'
  obtain ⟨source, -, target, htarget, rate, -, amount, -, rfl⟩ := hf'
  exact (Option.some.inj htarget).symm

/-- A decoder of requests leaves its defaults there. -/
theorem fx_of_decodeRequest {R : RequestRail} {engine : Engine} {fresh : Fresh}
    {mappings : Option Mappings} {paymentId : Text} {traceId : Option Text}
    (h : decodeRequest R engine fresh mappings request.toValue paymentId traceId = .ok c)
    (hms : ∀ ms, mappings = some ms → ∀ entry ∈ ms,
      entry.2.targetProperty ≠ "fx" ∧ entry.2.targetProperty ≠ "origin") :
    c.origin.rail = R.rail ∧ ∀ f, c.fx = some f → f.targetCurrency = none := by
  obtain ⟨ms, defaults, fields, rfl, hdefaults, d, hkept⟩ := decodeRequest_ok h
  rw [requestDefaults_toValue] at hdefaults
  obtain rfl := JsValue.object.inj (Option.some.inj hdefaults)
  have horigin := hkept "origin" (by decide) fun entry he => (hms ms rfl entry he).2
  have hfx := hkept "fx" (by decide) fun entry he => (hms ms rfl entry he).1
  refine ⟨rail_of_agentSchema (by rw [← d.origin, Schema.field, horigin]; rfl), fun f hf => ?_⟩
  have hdecoded := d.fx
  rw [Schema.field, hfx, hf] at hdecoded
  exact target_of_fxSchema hdecoded

/-- **A request's message** has its rail as its origin, and no conversion. -/
theorem fx_of_toCanonical (htable : LeavesFx passage.table)
    (h : toCanonical passage origin.rail request.toValue = .ok c) :
    c.origin.rail = origin.rail ∧ ∀ f, c.fx = some f → f.targetCurrency = none := by
  have hload : ∀ rail ms, (passage.table rail).map loadMappings = some ms → ∀ entry ∈ ms,
      entry.2.targetProperty ≠ "fx" ∧ entry.2.targetProperty ≠ "origin" := by
    intro rail ms hms
    obtain ⟨rows, hrows, rfl⟩ := Option.map_eq_some_iff.mp hms
    exact htable rail rows hrows
  cases origin with
  | pix =>
    simp only [toCanonical, AliasPrefix.rail, pixToCanonical, isNativePixPayload_toValue] at h
    exact fx_of_decodeRequest h (hload .pix)
  | spei => exact fx_of_decodeRequest h (hload .spei)
  | breb =>
    simp only [toCanonical, AliasPrefix.rail] at h
    rw [brebToCanonical_request (isPaymentId_paymentIdOf _)] at h
    split at h
    · obtain rfl := Except.ok.inj h
      refine ⟨rfl, fun f hf => ?_⟩
      obtain rfl := Option.some.inj hf
      rfl
    · cases h

/-- **It never gets a conversion into the currency of another zone.** -/
theorem not_converts (htable : LeavesFx passage.table)
    (h : toCanonical passage origin.rail request.toValue = .ok c) {destination : Rail}
    (hzone : railLocalCurrency origin.rail ≠ railLocalCurrency destination) (case' : CaseMapping)
    (fx : FxService) : ¬ Converts case' fx c destination := by
  obtain ⟨horigin, htarget⟩ := fx_of_toCanonical htable h
  unfold Converts
  split
  · intro hconverts
    obtain ⟨f, localAmount, hf, hcurrency, -⟩ := hconverts
    rw [htarget f hf] at hcurrency
    cases hcurrency
  · rw [horigin]
    exact hzone

end Requests

/-! ### From PIX to SPEI in reais -/

namespace Example

open Translation.Example (runtime fx)

/-- The payment is routed to SPEI. -/
def toSpei : Host :=
  { host with
    normalize := fun c => .ok (normalize runtime fx c)
    resolve := fun _ => .ok ⟨js "SPEI", js "alias-clabe"⟩ }

/-- The service of this host, with its normalizer. -/
def speiCollaborators : Collaborators := normalizing toSpei.collaborators .ascii fun _ => fx

theorem answer_toSpei (c : Call) (s : Store) :
    Call.answer speiCollaborators c s (c.respond toSpei s).1 (c.respond toSpei s).2 := by
  have hanswer := Call.answer_respond toSpei c s
  cases c with
  | normalize c => exact ⟨⟨runtime, rfl, rfl⟩, rfl⟩
  | _ => exact hanswer

/-- Every call is answered. -/
def answerSpei (c : Call) (s : Store) : Option (Except Failure c.Result × Store) :=
  some (c.respond toSpei s)

def pixToSpei (_ : Unit) : Activity := .pipeline request context draws

def speiRun : List (ServiceStep Unit) × Config Store Unit (Service Unit) :=
  schedule (fun _ => answerSpei) (List.replicate 17 ())
    (serviceStart .ascii true pixToSpei store)

theorem speiRun_run : (service speiCollaborators Unit).toLTS.Run
    (serviceStart .ascii true pixToSpei store) speiRun.1 speiRun.2 := by
  refine run_schedule (f := fun _ => answerSpei) ?_ _ _
  intro i c s r t h
  have hanswer := answer_toSpei c s
  rw [Option.some.inj h] at hanswer
  exact Or.inl hanswer

theorem speiRun_done : speiRun.2.locals () = .done (.ok ()) := rfl

theorem answering_fx : Answering fx := fun _ _ => ⟨rfl, fun _ => rfl⟩

theorem speiRun_published : ∃ message, publications (outcomesOf () speiRun.1) = [message] ∧
    Rail.ofText message.destinationRail = some .spei ∧
    message.canonical.fx = some ⟨some (js "BRL"), none, none, none⟩ :=
  ⟨_, rfl, rfl, rfl⟩

end Example

/-- A payment in reais to SPEI is published without a conversion. -/
theorem published_unconverted :
    (service Example.speiCollaborators Unit).toLTS.Run
        (serviceStart .ascii true Example.pixToSpei Example.store) Example.speiRun.1
        Example.speiRun.2 ∧
      Answering Translation.Example.fx ∧ Example.speiRun.2.locals () = .done (.ok ()) ∧
      inferRail Example.request.debtor.alias.1 = .ok .pix ∧
      railLocalCurrency .pix ≠ railLocalCurrency .spei ∧
      ∃ message, publications (outcomesOf () Example.speiRun.1) = [message] ∧
        Rail.ofText message.destinationRail = some .spei ∧
        ¬ Converted Translation.Example.fx message.canonical .spei := by
  refine ⟨Example.speiRun_run, Example.answering_fx, Example.speiRun_done, rfl, by decide, ?_⟩
  obtain ⟨message, hmessage, hdestination, hfx⟩ := Example.speiRun_published
  refine ⟨message, hmessage, hdestination, ?_⟩
  rintro ⟨f, localAmount, hf, htarget, -⟩
  cases hfx.symm.trans hf
  cases htarget

theorem converted_iff_speiRun : ∃ c message,
    translations (outcomesOf () Example.speiRun.1) = [c] ∧
    publications (outcomesOf () Example.speiRun.1) = [message] ∧
    ∀ destination, Rail.ofText message.destinationRail = some destination →
      (Converted Translation.Example.fx message.canonical destination ↔
        Converts .ascii Translation.Example.fx c destination) :=
  converted_iff (fun _ => Example.answering_fx) Example.speiRun_run rfl Example.speiRun_done

end MipitCore.Pipeline
