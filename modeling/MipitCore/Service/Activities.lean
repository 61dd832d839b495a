import MipitCore.Compensation.Compensate
import MipitCore.Messaging.Consumers
import MipitCore.Pipeline.Execute

/-!
# The activities of the service

Every write to the payments is made by one of a few functions: a run of the pipeline, the
handling of an acknowledgement or of a dead letter, and a compensation. An `Activity` is
one such run with its input. The service at work is a family of activities, interleaved
call by call, with time passing (`service`).

Which calls an activity makes is said once for each of them (`Activity.Calls`): each method
that stores a status is called with a few statuses only (`Writes`).

## Main definitions

* `Activity`, `Activity.program`, `service`, `serviceStart`
* `Activity.Calls`, `Writes`

## Main results

* `makes_calls`, `makes_writes` — the calls of every activity
-/

namespace MipitCore

open Js Foundation Messaging

/-- A function of the service that writes to payments, with its input. -/
inductive Activity
  | pipeline (request : Api.CreatePaymentRequest) (context : Pipeline.Context)
    (draws : Pipeline.Draws)
  | ackConsumer (delivery : Option (Option JsValue))
  | dlqHandler (delivery : Option (Option JsValue))
  | compensate (compensatedAt : Datetime) (paymentId : Text)
  | compensateBatch (compensatedAt : Text → Datetime) (limit : ℕ)

/-- What an activity runs; its result goes to whoever started it. -/
def Activity.program (case' : CaseMapping) (webhooks : Bool) : Activity → Service Unit
  | pipeline request context draws => do
    let _ ← Pipeline.execute request context draws
  | ackConsumer delivery => Messaging.ackConsumer case' webhooks delivery
  | dlqHandler delivery => Messaging.dlqHandler delivery
  | compensate compensatedAt paymentId => do
    let _ ← Compensation.compensate compensatedAt paymentId
  | compensateBatch compensatedAt limit => do
    let _ ← Compensation.compensateBatch compensatedAt limit

/-- Activities over one store, each call of which may fail, with time passing. -/
def service (W : Collaborators) (ι : Type) :
    Processes Store ι (Service Unit) (Outcome Call Call.Result Failure) :=
  Program.processes (fun _ => Call.faulty W) Tick

/-- The service before any of its activities has made a call. -/
def serviceStart {ι : Type} (case' : CaseMapping) (webhooks : Bool) (activities : ι → Activity)
    (store : Store) : Config Store ι (Service Unit) :=
  ⟨store, fun i => (activities i).program case' webhooks⟩

/-- A step of the service. -/
abbrev ServiceStep (ι : Type) :=
  Transition (Config Store ι (Service Unit)) (Option (ι × Outcome Call Call.Result Failure))

/-- The statuses that the activities pass to each method. -/
def Writes : Call → Prop
  | .create p => p.status = .received
  | .updateStatus _ status =>
    status = .validated ∨ status = .queued ∨ status = .failed ∨ status = .deadLetter ∨
      status = .compensating ∨ status = .compensated
  | .updateCanonical _ _ status => status = .canonicalized
  | .updateRoute _ _ _ status => status = .routed
  | .updateRailAck _ _ status => status = .completed ∨ status = .rejected ∨ status = .failed
  | _ => True

theorem finalStatus_cases (v : JsValue) :
    finalStatus v = .completed ∨ finalStatus v = .rejected ∨ finalStatus v = .failed := by
  cases v with
  | string s =>
    simp only [finalStatus]
    by_cases haccepted : s = js "ACCEPTED"
    · simp [haccepted]
    · by_cases hrejected : s = js "REJECTED" <;> simp [haccepted, hrejected]
  | _ => exact Or.inr (Or.inr rfl)

/-- The calls of `execute`, with the statuses that it stores. -/
def ExecuteCall : Call → Prop
  | .create p => p.status = .received
  | .updateStatus _ status => status = .validated ∨ status = .queued ∨ status = .failed
  | .updateCanonical _ _ status => status = .canonicalized
  | .updateRoute _ _ _ status => status = .routed
  | .updateTranslated _ _ | .log _ | .toCanonical _ _ _ _ | .normalize _ | .resolve _
  | .fromCanonical _ _ | .publishToAdapter _ _ => True
  | _ => False

/-- The calls of `AckConsumer`. -/
def AckCall : Call → Prop
  | .updateRailAck _ railAck status => status = finalStatus (railAck.getOptional "status")
  | .log event => event.eventType = "ACK_RECEIVED"
  | .fireForPayment _ | .settle _ => True
  | _ => False

/-- The calls of `DlqHandler`. -/
def DlqCall : Call → Prop
  | .updateStatus _ status => status = .deadLetter
  | .log _ | .settle _ => True
  | _ => False

/-- The calls of compensations. -/
def CompensationCall : Call → Prop
  | .updateStatus _ status => status = .compensating ∨ status = .compensated
  | .log _ | .findById _ | .findByStatuses _ _ => True
  | _ => False

/-- The calls of an activity. -/
def Activity.Calls : Activity → Call → Prop
  | pipeline _ _ _ => ExecuteCall
  | ackConsumer _ => AckCall
  | dlqHandler _ => DlqCall
  | compensate _ _ | compensateBatch _ _ => CompensationCall

theorem execute_calls (request : Api.CreatePaymentRequest) (context : Pipeline.Context)
    (draws : Pipeline.Draws) : (Pipeline.execute request context draws).Makes ExecuteCall := by
  unfold Pipeline.execute
  split
  · trivial
  · rename_i originRail _
    obtain ⟨next, hprepare, hnext⟩ :=
      (Pipeline.start request context draws originRail).prepare_starts
    refine Program.Makes.tryCatch (Program.Makes.bind ?_ fun x => ?_) fun err => ?_
    · -- steps 2 to 6b
      rw [hprepare]
      refine ⟨rfl, fun r => (hnext r).mono fun c hc => ?_⟩
      cases c with
      | updateStatus v status => exact Or.inl hc.2
      | updateCanonical v canonical status => exact hc.2
      | updateRoute v dest rule status => exact hc.2
      | updateTranslated | log | toCanonical | normalize | resolve | fromCanonical => trivial
      | _ => exact hc.elim
    · -- the publishing and the mark QUEUED
      refine Program.Makes.bind (Program.makes_perform.mpr trivial) fun _ => ?_
      refine Program.Makes.bind (Program.Makes.bind ?_ fun _ => ?_) fun _ => trivial
      · exact Program.makes_perform.mpr (Or.inr (Or.inl rfl))
      · exact Program.makes_perform.mpr trivial
    · -- the outer `catch`
      refine Program.Makes.bind (Program.Makes.tryCatch (Program.Makes.bind ?_ fun _ => ?_)
        fun _ => trivial) fun _ => trivial
      · exact Program.makes_perform.mpr (Or.inr (Or.inr rfl))
      · exact Program.makes_perform.mpr trivial

theorem prop_makes (P : Call → Prop) (v : JsValue) (key : String) : (prop v key).Makes P := by
  unfold prop
  split <;> trivial

theorem ackConsumer_calls (case' : CaseMapping) (webhooks : Bool)
    (delivery : Option (Option JsValue)) :
    (Messaging.ackConsumer case' webhooks delivery).Makes AckCall := by
  have hsettle : ∀ settlement, (settle settlement).Makes AckCall := fun settlement =>
    Program.makes_perform.mpr trivial
  match delivery with
  | none => trivial
  | some none => exact hsettle _
  | some (some ack) =>
    refine Program.Makes.bind (prop_makes _ _ _) fun paymentId => ?_
    dsimp only
    split
    · exact hsettle _
    · refine Program.Makes.tryCatch (Program.Makes.bind ?_ fun row => Program.Makes.bind ?_
        fun actor => Program.Makes.bind ?_ fun _ => Program.Makes.bind ?_ fun _ => hsettle _)
        fun _ => hsettle _
      · exact Program.makes_perform.mpr rfl
      · unfold ackActor
        split <;> trivial
      · exact Program.makes_perform.mpr rfl
      · cases webhooks
        · trivial
        · exact Program.makes_perform.mpr trivial

theorem dlqHandler_calls (delivery : Option (Option JsValue)) :
    (Messaging.dlqHandler delivery).Makes DlqCall := by
  have hsettle : ∀ settlement, (settle settlement).Makes DlqCall := fun settlement =>
    Program.makes_perform.mpr trivial
  match delivery with
  | none => trivial
  | some none => exact hsettle _
  | some (some message) =>
    refine Program.Makes.bind (prop_makes _ _ _) fun paymentId => ?_
    refine Program.Makes.tryCatch (Program.Makes.bind ?_ fun _ => Program.Makes.bind ?_
      fun _ => hsettle _) fun _ => hsettle _
    · exact Program.makes_perform.mpr rfl
    · exact Program.makes_perform.mpr trivial

namespace Compensation

theorem compensate_calls (compensatedAt : Datetime) (paymentId : Text) :
    (compensate compensatedAt paymentId).Makes CompensationCall := by
  refine Program.Makes.bind (Program.makes_perform.mpr trivial) fun payment => ?_
  unfold proceed
  split
  · trivial
  · split
    · refine Program.Makes.bind (Program.makes_perform.mpr (Or.inl rfl)) fun _ =>
        Program.Makes.bind (Program.makes_perform.mpr trivial) fun _ => Program.Makes.tryCatch ?_
          fun _ => Program.Makes.bind (Program.makes_perform.mpr trivial) fun _ => trivial
      refine Program.Makes.bind (requireReversal_makes trivial) fun _ => Program.Makes.bind
        (Program.makes_perform.mpr (Or.inr rfl)) fun _ => Program.Makes.bind
          (Program.makes_perform.mpr trivial) fun _ => trivial
    · trivial

theorem compensateAll_calls (compensatedAt : Text → Datetime) (payments : List PaymentRow) :
    (compensateAll compensatedAt payments).Makes CompensationCall := by
  induction payments with
  | nil => trivial
  | cons payment payments ih =>
    have hattempt : (attempt (compensate (compensatedAt payment.paymentId)
        payment.paymentId)).Makes CompensationCall :=
      Program.Makes.tryCatch (Program.Makes.bind (compensate_calls _ _) fun _ => trivial)
        fun _ => trivial
    refine Program.Makes.bind hattempt fun result => ?_
    cases result with
    | error err => trivial
    | ok result => exact Program.Makes.bind ih fun _ => trivial

end Compensation

/-- **The calls of every activity.** -/
theorem makes_calls (case' : CaseMapping) (webhooks : Bool) (activity : Activity) :
    (activity.program case' webhooks).Makes activity.Calls := by
  cases activity with
  | pipeline request context draws =>
    exact Program.Makes.bind (execute_calls request context draws) fun _ => trivial
  | ackConsumer delivery => exact ackConsumer_calls case' webhooks delivery
  | dlqHandler delivery => exact dlqHandler_calls delivery
  | compensate compensatedAt paymentId =>
    exact Program.Makes.bind (Compensation.compensate_calls _ _) fun _ => trivial
  | compensateBatch compensatedAt limit =>
    refine Program.Makes.bind (Program.Makes.bind (Program.makes_perform.mpr trivial)
      fun payments => Program.Makes.bind (Compensation.compensateAll_calls _ _) fun results => ?_)
      fun _ => trivial
    cases Compensation.report results <;> trivial

/-- The statuses that the calls of an activity store. -/
theorem Activity.Calls.writes {activity : Activity} {c : Call} (h : activity.Calls c) : Writes c := by
  cases c with
  | create p =>
    cases activity with
    | pipeline => exact h
    | _ => exact h.elim
  | updateStatus v status =>
    cases activity with
    | pipeline =>
      rcases h with h | h | h
      · exact Or.inl h
      · exact Or.inr (Or.inl h)
      · exact Or.inr (Or.inr (Or.inl h))
    | ackConsumer => exact h.elim
    | dlqHandler => exact Or.inr (Or.inr (Or.inr (Or.inl h)))
    | compensate | compensateBatch => exact Or.inr (Or.inr (Or.inr (Or.inr h)))
  | updateCanonical v canonical status =>
    cases activity with
    | pipeline => exact h
    | _ => exact h.elim
  | updateRoute v dest rule status =>
    cases activity with
    | pipeline => exact h
    | _ => exact h.elim
  | updateRailAck v railAck status =>
    cases activity with
    | ackConsumer =>
      obtain rfl : status = _ := h
      exact finalStatus_cases _
    | _ => exact h.elim
  | _ => trivial

theorem makes_writes (case' : CaseMapping) (webhooks : Bool) (activity : Activity) :
    (activity.program case' webhooks).Makes Writes :=
  (makes_calls case' webhooks activity).mono fun _ h => h.writes

/-! ### Runs of the service on a host -/

namespace Example

/-- Every call is answered. -/
def answerAll (c : Call) (s : Store) : Option (Except Failure c.Result × Store) :=
  some (c.respond Pipeline.Example.host s)

/-- The activities take turns as `schedule` says, from empty tables. -/
def runService {ι : Type} [DecidableEq ι] (activities : ι → Activity) (schedule : List ι) :
    List (ServiceStep ι) × Config Store ι (Service Unit) :=
  Program.schedule (fun _ => answerAll) schedule
    (serviceStart .ascii true activities Pipeline.Example.store)

theorem run_service {ι : Type} [DecidableEq ι] (activities : ι → Activity) (schedule : List ι) :
    (service Pipeline.Example.host.collaborators ι).toLTS.Run
      (serviceStart .ascii true activities Pipeline.Example.store)
      (runService activities schedule).1 (runService activities schedule).2 := by
  refine Program.run_schedule (f := fun _ => answerAll) ?_ _ _
  intro i c s r t h
  have hanswer := Call.answer_respond Pipeline.Example.host c s
  rw [Option.some.inj h] at hanswer
  exact Or.inl hanswer

/-- The payment between two PIX keys. -/
def pixPayment : Activity :=
  .pipeline Pipeline.Example.request Pipeline.Example.context Pipeline.Example.draws

end Example

end MipitCore
