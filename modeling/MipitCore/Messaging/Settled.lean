import MipitCore.Foundation.Trace
import MipitCore.Js.Coercion
import MipitCore.Messaging.Terminal

/-!
# How deliveries are settled

A delivery has to be given back to the broker exactly once. The callbacks do so whatever
their calls answer, for every content but one: reading a property of JSON's `null` throws
before the `try` that would settle it (`settled_once_iff`).

## Main definitions

* `settlements`, `Answered`, `SettledOnce`
* `SettledByBody` — what the body of a `try` leaves

## Main results

* `handler_settles`, `settled_once_iff`
-/

namespace MipitCore.Messaging

open Js Foundation Persistence Program

/-- What a call settles. -/
def settlementOf : Call → Option Settlement
  | .settle settlement => some settlement
  | _ => none

/-- The settlements in a trace. -/
def settlements (trace : List CallOutcome) : List Settlement :=
  trace.filterMap fun o => settlementOf o.call

/-- Calls that are not awaited do not throw; the others may do what they want. -/
def Answered (o : CallOutcome) : Prop := o.call.isAwaited = false → o.result.isOk = true

/-- The content of a message: `none` where it is no JSON. -/
def Message.content : Message → Option JsValue
  | ack content | dlq content => content

section Once

variable {case' : CaseMapping} {webhooks : Bool} {trace : List CallOutcome}

/-- The handling goes well and has settled the delivery once. -/
def SettledOnce {α : Type} (trace : List CallOutcome) (r : Except Failure α) : Prop :=
  r.isOk = true ∧ (settlements trace).length = 1

theorem settlements_concat (o : CallOutcome) :
    settlements (trace ++ [o]) = settlements trace ++ (settlementOf o.call).toList := by
  cases ho : settlementOf o.call <;> simp [settlements, ho]

/-- What settles a delivery that was not settled before. -/
theorem settle_once (settlement : Settlement) (h : settlements trace = []) :
    (settle settlement).Safe (tracing Answered) (Discipline.alone _) SettledOnce trace := by
  refine Safe.perform_alone fun r t hcall => ?_
  obtain ⟨hanswered, rfl⟩ := hcall
  refine ⟨hanswered rfl, ?_⟩
  rw [settlements_concat, h]
  rfl

/-- What the body of a `try` leaves: the delivery is settled once if it goes well, and not at all if
it throws. -/
def SettledByBody (trace : List CallOutcome) (r : Except Failure Unit) : Prop :=
  match r with
  | .ok _ => SettledOnce trace r
  | .error _ => settlements trace = []

theorem settle_body (settlement : Settlement) (h : settlements trace = []) :
    (settle settlement).Safe (tracing Answered) (Discipline.alone _) SettledByBody trace :=
  (settle_once settlement h).mono fun t r _ ht => by
    cases r with
    | ok _ => exact ht
    | error e => cases ht.1

/-- Calls that settle nothing may come first. -/
theorem unsettled_bind {α : Type} {p : Service α} {f : α → Service Unit}
    (hp : p.Makes fun c => settlementOf c = none) (h : settlements trace = [])
    (hf : ∀ a t, settlements t = [] →
      (f a).Safe (tracing Answered) (Discipline.alone _) SettledByBody t) :
    (p >>= f).Safe (tracing Answered) (Discipline.alone _) SettledByBody trace := by
  have hunsettled := Safe.of_makes_alone (I := tracing Answered)
    (A := fun t => settlements t = []) hp (by
      rintro c s r t hc hs ⟨-, rfl⟩
      rw [settlements_concat, hs, hc]
      rfl) h
  refine Safe.bind (hunsettled.mono fun t r _ ht => ?_)
  cases r with
  | ok a => exact hf a t ht
  | error e => exact ht

theorem try_once {p : Service Unit} (settlement : Settlement)
    (h : p.Safe (tracing Answered) (Discipline.alone _) SettledByBody trace) :
    (Program.tryCatch p fun _ => settle settlement).Safe (tracing Answered) (Discipline.alone _)
      SettledOnce trace := by
  refine Safe.tryCatch (h.mono fun t r _ ht => ?_)
  cases r with
  | ok _ => exact ht
  | error e => exact settle_once settlement ht

theorem applyAck_settles (v railAck : JsValue) (h : settlements trace = []) :
    (applyAck case' webhooks v railAck).Safe (tracing Answered) (Discipline.alone _)
      SettledByBody trace := by
  refine unsettled_bind (Program.makes_perform.mpr rfl) h fun row t ht => ?_
  refine unsettled_bind ?_ ht fun actor t ht => ?_
  · unfold ackActor
    split <;> trivial
  refine unsettled_bind (Program.makes_perform.mpr rfl) ht fun _ t ht => ?_
  refine unsettled_bind ?_ ht fun _ t ht => settle_body _ ht
  cases webhooks
  · trivial
  · exact Program.makes_perform.mpr rfl

/-- What is read of a content that has properties. -/
theorem prop_eq {v : JsValue} (hv : v.isNullish = false) (key : String) :
    prop v key = pure (v.getOptional key) := by
  unfold prop JsValue.getOptional
  cases v <;> first | rfl | cases hv

/-- Reading a property of `undefined` or `null` throws. -/
theorem prop_nullish {v : JsValue} (hv : v.isNullish = true) (key : String) :
    prop v key = throw .typeError := by
  unfold prop
  cases v <;> first | rfl | cases hv

/-- The handling of a message whose content has properties, or is no JSON. -/
theorem handler_settles (m : Message) (hm : ∀ v, m.content = some v → v.isNullish = false)
    (h : settlements trace = []) :
    (m.handler case' webhooks).Safe (tracing Answered) (Discipline.alone _) SettledOnce trace := by
  cases m with
  | ack content =>
    cases content with
    | none => exact settle_once _ h
    | some v =>
      change Safe _ _ _ (ackConsumer case' webhooks (some (some v))) trace
      rw [ackConsumer, prop_eq (hm v rfl)]
      refine Safe.bind (Safe.pure ?_)
      rintro t - rfl
      dsimp only
      split
      · exact settle_once _ h
      · exact try_once _ (applyAck_settles _ _ h)
  | dlq content =>
    cases content with
    | none => exact settle_once _ h
    | some v =>
      change Safe _ _ _ (dlqHandler (some (some v))) trace
      rw [dlqHandler, prop_eq (hm v rfl)]
      refine Safe.bind (Safe.pure ?_)
      rintro t - rfl
      refine try_once _ (unsettled_bind (Program.makes_perform.mpr rfl) h fun row t ht => ?_)
      exact unsettled_bind (Program.makes_perform.mpr rfl) ht fun _ t ht => settle_body _ ht

/-- **A delivery is settled exactly once, whatever its calls answer, exactly if its content is not
JSON's `null`.** -/
theorem settled_once_iff (m : Message) :
    (∀ r trace, (m.handler case' webhooks).Eval (tracing Answered) [] r trace →
        SettledOnce trace r) ↔
      ∀ v, m.content = some v → v.isNullish = false := by
  constructor
  · intro hall v hv
    by_contra hnull
    rw [Bool.not_eq_false] at hnull
    -- the handler throws at once, and has settled nothing
    have heval : (m.handler case' webhooks).Eval (tracing Answered) [] (.error .typeError) [] := by
      cases m with
      | ack content =>
        obtain rfl : content = some v := hv
        change Eval _ (ackConsumer case' webhooks (some (some v))) _ _ _
        rw [ackConsumer, prop_nullish hnull]
        exact ⟨rfl, rfl⟩
      | dlq content =>
        obtain rfl : content = some v := hv
        change Eval _ (dlqHandler (some (some v))) _ _ _
        rw [dlqHandler, prop_nullish hnull]
        exact ⟨rfl, rfl⟩
    cases (hall _ _ heval).1
  · intro hm r trace heval
    exact Safe.eval (handler_settles m hm rfl) heval

end Once

/-- A message of JSON's `null` is not settled: the callback throws. -/
theorem null_unsettled :
    ((Message.ack (some .null)).handler .ascii true).Eval (tracing Answered) []
        (.error .typeError) [] ∧
      ¬ SettledOnce [] (.error .typeError : Except Failure Unit) :=
  ⟨⟨rfl, rfl⟩, fun h => Bool.false_ne_true h.1⟩

end MipitCore.Messaging
