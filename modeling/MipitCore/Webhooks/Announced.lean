import MipitCore.Messaging.Settled
import MipitCore.Service.Activities
import MipitCore.Service.Rows
import MipitCore.Webhooks.Subscriptions

/-!
# Which changes of status are announced

Webhooks are to be fired whenever a payment gets a terminal status. The firing is not part
of the write, but a call of `AckConsumer` that follows it, after the audit event was
recorded. So a change is announced exactly if an acknowledgement makes it that names its
source rail and whose audit event is recorded (`announced_iff`); the pipeline marks
payments as failed without telling anybody.

## Main definitions

* `Changes`, `Announced`, `Heard`
* `AckTrace` — the calls of an acknowledgement

## Main results

* `ackConsumer_traces`
* `announced_iff`
-/

namespace MipitCore.Webhooks

open Js Foundation Program Messaging

/-- The call stores the answer of a rail. -/
def stores : CallOutcome → Bool
  | ⟨.updateRailAck _ _ _, .ok _⟩ => true
  | _ => false

/-- The call fires webhooks. -/
def fires : CallOutcome → Bool
  | ⟨.fireForPayment _, _⟩ => true
  | _ => false

/-- The call records an audit event. -/
def logs : CallOutcome → Bool
  | ⟨.log _, .ok _⟩ => true
  | _ => false

/-- The audit event of an acknowledgement that names its source rail was recorded, where there is
somebody to be told. -/
def Heard (webhooks : Bool) (ack : JsValue) (trace : List CallOutcome) : Prop :=
  webhooks = true ∧ (∃ rail, ack.getOptional "source_rail" = .string rail) ∧
    ∃ o ∈ trace, logs o = true

/-- The calls of an acknowledgement: it stores nothing; it stores the answer and fires nothing; or
it fires for the row that it has stored. -/
inductive AckTrace (webhooks : Bool) (ack : JsValue) : List CallOutcome → Prop
  | quiet {trace : List CallOutcome} (hstores : ∀ o ∈ trace, stores o = false) :
      AckTrace webhooks ack trace
  | silent {v railAck : JsValue} {status : PaymentStatus} {row : PaymentRow}
      {rest : List CallOutcome} (hrest : ∀ o ∈ rest, stores o = false ∧ fires o = false)
      (hheard : ¬ Heard webhooks ack rest) :
      AckTrace webhooks ack (⟨.updateRailAck v railAck status, .ok row⟩ :: rest)
  | told {v railAck : JsValue} {status : PaymentStatus} {row : PaymentRow} {event : AuditEvent}
      {rest : List CallOutcome} (hrest : ∀ o ∈ rest, stores o = false ∧ fires o = false)
      (hwebhooks : webhooks = true) (hrail : ∃ rail, ack.getOptional "source_rail" = .string rail) :
      AckTrace webhooks ack (⟨.updateRailAck v railAck status, .ok row⟩ ::
        ⟨.log event, .ok ()⟩ :: ⟨.fireForPayment row, .ok ()⟩ :: rest)

section Traces

variable {case' : CaseMapping} {webhooks : Bool} {ack : JsValue}

theorem settle_traces (settlement : Settlement)
    {R : List CallOutcome → Except Failure Unit → Prop}
    (hR : R [⟨.settle settlement, .ok ()⟩] (.ok ())) : (settle settlement).Traces Answered R := by
  refine Traces.perform fun r hr => ?_
  cases r with
  | error e => cases hr rfl
  | ok _ => exact hR

theorem ackActor_eq {rail : Text} (h : ack.getOptional "source_rail" = .string rail) :
    ackActor case' ack = pure (js "adapter-" ++ case'.toLowerCase rail) := by
  rw [ackActor, h]

/-- `toLowerCase` of anything but a string throws. -/
theorem ackActor_throws (h : ¬ ∃ rail, ack.getOptional "source_rail" = .string rail) :
    ackActor case' ack = throw .typeError := by
  unfold ackActor
  split
  · next rail hrail => exact absurd ⟨rail, hrail⟩ h
  · rfl

/-- The body of the `try`, with the settlement that follows if it throws. -/
theorem applyAck_traces (railAck : JsValue) :
    (Program.tryCatch (applyAck case' webhooks ack railAck) fun _ => settle (.nack false)).Traces
      Answered fun trace _ => AckTrace webhooks ack trace := by
  unfold applyAck
  refine Traces.tryCatch (Traces.bind (Traces.perform fun r _ => ?_))
  cases r with
  | error e => exact settle_traces _ (AckTrace.quiet (by simp [stores]))
  | ok row =>
    -- the answer is stored
    by_cases hrail : ∃ rail, ack.getOptional "source_rail" = .string rail
    · obtain ⟨rail, hrail⟩ := hrail
      rw [ackActor_eq hrail]
      refine Traces.bind (Traces.pure (Traces.bind (Traces.perform fun r _ => ?_)))
      cases r with
      | error e =>
        refine settle_traces _ ?_
        change AckTrace webhooks ack (_ :: [⟨.log _, .error e⟩, ⟨.settle _, .ok ()⟩])
        refine AckTrace.silent (by simp [stores, fires]) ?_
        rintro ⟨-, -, o, ho, hlogs⟩
        simp only [List.mem_cons, List.not_mem_nil, or_false] at ho
        rcases ho with rfl | rfl <;> cases hlogs
      | ok _ =>
        cases webhooks with
        | false =>
          refine Traces.bind (Traces.pure (settle_traces _ (AckTrace.silent ?_ ?_)))
          · simp [stores, fires]
          · rintro ⟨hwebhooks, -⟩
            cases hwebhooks
        | true =>
          refine Traces.bind (Traces.perform fun r hr => ?_)
          cases r with
          | error e => cases hr rfl
          | ok _ =>
            exact settle_traces _ (AckTrace.told (by simp [stores, fires]) rfl ⟨rail, hrail⟩)
    · rw [ackActor_throws hrail]
      change (settle _).Traces Answered fun more _ => AckTrace webhooks ack (_ :: more)
      refine settle_traces _ (AckTrace.silent (by simp [stores, fires]) ?_)
      rintro ⟨-, hstring, -⟩
      exact hrail hstring

/-- **The calls of an acknowledgement.** -/
theorem ackConsumer_traces :
    (ackConsumer case' webhooks (some (some ack))).Traces Answered fun trace _ =>
      AckTrace webhooks ack trace := by
  cases hack : ack.isNullish with
  | true =>
    rw [ackConsumer, prop_nullish hack]
    exact AckTrace.quiet (by simp)
  | false =>
    rw [ackConsumer, prop_eq hack]
    refine Traces.bind (Traces.pure ?_)
    dsimp only
    split
    · exact settle_traces _ (AckTrace.quiet (by simp [stores]))
    · exact applyAck_traces _

/-- Nothing is stored, or one answer, first; then webhooks are fired exactly if it is heard, and for
the row that was stored. -/
theorem AckTrace.stored {trace : List CallOutcome} (h : AckTrace webhooks ack trace) :
    (∀ o ∈ trace, stores o = false) ∨ ∃ v railAck status row rest,
      trace = ⟨.updateRailAck v railAck status, .ok row⟩ :: rest ∧
        (∀ o ∈ rest, stores o = false) ∧
        ((∃ o ∈ rest, fires o = true) ↔ Heard webhooks ack rest) ∧
        ∀ row' r, (⟨.fireForPayment row', r⟩ : CallOutcome) ∈ rest → row' = row := by
  cases h with
  | quiet hstores => exact Or.inl hstores
  | @silent v railAck status row rest hrest hheard =>
    refine Or.inr ⟨v, railAck, status, row, rest, rfl, fun o ho => (hrest o ho).1, ?_, ?_⟩
    · refine ⟨fun hfires => ?_, fun hheard' => absurd hheard' hheard⟩
      obtain ⟨o, ho, hfires⟩ := hfires
      rw [(hrest o ho).2] at hfires
      cases hfires
    · intro row' r hfire
      cases (hrest _ hfire).2
  | @told v railAck status row event rest hrest hwebhooks hrail =>
    refine Or.inr ⟨v, railAck, status, row, _, rfl, ?_, ?_, ?_⟩
    · intro o ho
      simp only [List.mem_cons] at ho
      rcases ho with rfl | rfl | ho
      · rfl
      · rfl
      · exact (hrest o ho).1
    · exact ⟨fun _ => ⟨hwebhooks, hrail, _, List.mem_cons_self, rfl⟩,
        fun _ => ⟨_, List.mem_cons_of_mem _ List.mem_cons_self, rfl⟩⟩
    · intro row' r hfire
      simp only [List.mem_cons] at hfire
      rcases hfire with hfire | hfire | hfire
      · cases hfire
      · cases hfire
        rfl
      · cases (hrest _ hfire).2

/-- **An acknowledgement that has stored an answer** fires webhooks exactly if it is heard, and for
the row that it has stored. -/
theorem AckTrace.fires_iff {lead rest : List CallOutcome} {v railAck : JsValue}
    {status : PaymentStatus} {row : PaymentRow}
    (h : AckTrace webhooks ack (lead ++ ⟨.updateRailAck v railAck status, .ok row⟩ :: rest)) :
    ((∃ o ∈ rest, fires o = true) ↔ Heard webhooks ack rest) ∧
      ∀ row' r, (⟨.fireForPayment row', r⟩ : CallOutcome) ∈ rest → row' = row := by
  rcases h.stored with hstores | ⟨v', railAck', status', row', rest', htrace, hrest, hiff, hrow⟩
  · cases hstores _ (List.mem_append_right _ List.mem_cons_self)
  · cases lead with
    | nil =>
      obtain ⟨hhead, rfl⟩ := List.cons.inj htrace
      cases hhead
      exact ⟨hiff, hrow⟩
    | cons o lead =>
      obtain ⟨-, rfl⟩ := List.cons.inj htrace
      cases hrest _ (List.mem_append_right _ List.mem_cons_self)

end Traces

/-! ### Runs of the service -/

section Runs

variable {ι : Type} [DecidableEq ι] {W : Collaborators} {case' : CaseMapping} {webhooks : Bool}
  {activities : ι → Activity} {store : Store} {path : List (ServiceStep ι)}
  {d : Config Store ι (Service Unit)} {p : Text} {st : PaymentStatus} {i : ι}

/-- The step changes the status of the payment to `st`. -/
def Changes (p : Text) (st : PaymentStatus) (e : ServiceStep ι) : Prop :=
  e.source.store.status p ≠ some st ∧ e.target.store.status p = some st

/-- In the steps that follow, activity `i` fires the webhooks of the payment for the status, so that
all who listen to it get a request. -/
def Announced (p : Text) (st : PaymentStatus) (i : ι) (after : List (ServiceStep ι)) : Prop :=
  ∃ row r, (⟨.fireForPayment row, r⟩ : CallOutcome) ∈ outcomesOf i after ∧ row.paymentId = p ∧
    row.status = st ∧ ∀ t, ∀ sub ∈ t, sub.paymentId = p → st ∈ sub.events →
      sub ∈ fireForPayment row t

/-- Every change of a payment to a terminal status is announced by the activity that makes it. -/
def AllAnnounced (path : List (ServiceStep ι)) : Prop :=
  ∀ before e after p st, path = before ++ e :: after → st ∈ terminalStatuses → Changes p st e →
    ∃ i o, e.label = some (i, o) ∧ Announced p st i after

/-- Every such change is made by an acknowledgement that is heard. -/
def AllHeard (webhooks : Bool) (activities : ι → Activity) (path : List (ServiceStep ι)) : Prop :=
  ∀ before e after p st, path = before ++ e :: after → st ∈ terminalStatuses → Changes p st e →
    ∃ i o ack, e.label = some (i, o) ∧ activities i = .ackConsumer (some (some ack)) ∧
      Heard webhooks ack (outcomesOf i after)

theorem answered_of_faulty {c : Call} {s t : Store} {r : Except Failure c.Result}
    (h : Call.faulty W c s r t) : Answered ⟨c, r⟩ := by
  intro hawaited
  rcases h with h | ⟨hawaited', -⟩
  · cases c with
    | fireForPayment | settle =>
      obtain ⟨rfl, -⟩ := h
      rfl
    | _ => cases hawaited
  · rw [hawaited] at hawaited'
    cases hawaited'

/-- What an acknowledgement calls in a run that has come to its end. -/
theorem ackTrace_of_run
    (h : (service W ι).toLTS.Run (serviceStart case' webhooks activities store) path d)
    (hdone : ∀ i, ∃ r, d.locals i = .done r) {delivery : Option (Option JsValue)}
    (hi : activities i = .ackConsumer delivery) :
    (∃ ack, delivery = some (some ack) ∧ AckTrace webhooks ack (outcomesOf i path)) ∨
      ∀ o ∈ outcomesOf i path, stores o = false := by
  obtain ⟨r, hr⟩ := hdone i
  have heval := eval_outcomesOf (I := fun _ => Call.faulty W) (P := Answered)
    (fun _ _ _ _ hI => answered_of_faulty hI) h hr
  have hprogram : (serviceStart case' webhooks activities store).locals i =
      ackConsumer case' webhooks delivery := by
    simp [serviceStart, hi, Activity.program]
  rw [hprogram] at heval
  match delivery, heval with
  | none, heval =>
    obtain ⟨trace, htrace, hnil⟩ := (Traces.pure (R := fun trace _ => trace = []) rfl :
      (ackConsumer case' webhooks none).Traces Answered _).eval heval
    rw [htrace, hnil]
    exact Or.inr (by simp)
  | some none, heval =>
    obtain ⟨trace, htrace, hsettled⟩ := (settle_traces (R := fun trace _ =>
      ∀ o ∈ trace, stores o = false) _ (by simp [stores]) :
        (ackConsumer case' webhooks (some none)).Traces Answered _).eval heval
    rw [List.nil_append] at htrace
    exact Or.inr (htrace ▸ hsettled)
  | some (some ack), heval =>
    obtain ⟨trace, htrace, hack⟩ := ackConsumer_traces.eval heval
    rw [List.nil_append] at htrace
    exact Or.inl ⟨ack, rfl, htrace ▸ hack⟩

/-- A change of status is a successful call that writes it. -/
theorem changes_cases {e : ServiceStep ι} (hstep : (service W ι).toLTS e.source e.label e.target)
    (hchange : Changes p st e) :
    ∃ i k a, e.label = some (i, ⟨k, .ok a⟩) ∧ k.statusWrite p = some st ∧
      Call.answer W k e.source.store (.ok a) e.target.store := by
  obtain ⟨hbefore, hafter⟩ := hchange
  rcases processes_cases hstep with ⟨i, k, next, r, -, hl, hcall, -⟩ | ⟨-, htick, -⟩
  · rcases faulty_cases hcall with ⟨a, rfl, hanswer⟩ | ⟨-, hsame⟩
    · refine ⟨i, k, a, hl, ?_, hanswer⟩
      rw [status_of_answer hanswer] at hafter
      cases hwrite : k.statusWrite p with
      | none =>
        rw [hwrite, Option.none_or] at hafter
        exact absurd hafter hbefore
      | some st' =>
        rw [hwrite, Option.some_or] at hafter
        exact hafter
    · rw [hsame] at hafter
      exact absurd hafter hbefore
  · obtain ⟨now, -, hstore⟩ := htick
    rw [hstore] at hafter
    exact absurd hafter hbefore

/-- A terminal status is written by an acknowledgement, or by an activity that never fires
webhooks. -/
theorem terminal_write {activity : Activity} {c : Call} (hc : activity.Calls c)
    (hwrite : c.statusWrite p = some st) (hst : st ∈ terminalStatuses) :
    (∃ railAck delivery, c = .updateRailAck (.string p) railAck st ∧
        activity = .ackConsumer delivery) ∨
      ∀ row, ¬ activity.Calls (.fireForPayment row) := by
  cases activity with
  | ackConsumer delivery =>
    cases c with
    | updateRailAck v railAck status =>
      cases v with
      | string id =>
        simp only [Call.statusWrite, Option.ite_none_right_eq_some, Option.some.injEq] at hwrite
        obtain ⟨rfl, rfl⟩ := hwrite
        exact Or.inl ⟨railAck, delivery, rfl, rfl⟩
      | _ => cases hwrite
    | log | fireForPayment | settle => cases hwrite
    | _ => exact hc.elim
  | _ => exact Or.inr fun row hfire => hfire.elim

theorem outcomesOf_cons (e : ServiceStep ι) (after : List (ServiceStep ι)) {o : CallOutcome}
    (hl : e.label = some (i, o)) : outcomesOf i (e :: after) = o :: outcomesOf i after := by
  simp [outcomesOf, outcomes, hl]

omit [DecidableEq ι] in
/-- A step is a call of one process. -/
theorem process_unique {e : ServiceStep ι} {i j : ι} {o o' : CallOutcome}
    (h : e.label = some (i, o)) (h' : e.label = some (j, o')) : j = i :=
  congrArg Prod.fst (Option.some.inj (h'.symm.trans h))

theorem eq_fireForPayment {o : CallOutcome} (h : fires o = true) :
    ∃ row r, o = ⟨.fireForPayment row, r⟩ := by
  obtain ⟨c, r⟩ := o
  cases c with
  | fireForPayment row => exact ⟨row, r, rfl⟩
  | _ => cases h

/-- The row that an acknowledgement has stored is the payment's, with the status. -/
theorem row_of_updateRailAck {railAck : JsValue} {row : PaymentRow} {s t : Store}
    (hs : Keyed s.payments)
    (h : Call.answer W (.updateRailAck (.string p) railAck st) s (.ok row) t) :
    row.paymentId = p ∧ row.status = st := by
  obtain ⟨id, old, hid, hold, rfl, -⟩ := assigned_updateRailAck h
  cases hid
  exact ⟨hs p old hold, rfl⟩

/-- One change is announced exactly if the acknowledgement that makes it is heard. -/
theorem announced_iff_heard (hkeyed : Keyed store.payments)
    (h : (service W ι).toLTS.Run (serviceStart case' webhooks activities store) path d)
    (hdone : ∀ i, ∃ r, d.locals i = .done r) {before after : List (ServiceStep ι)}
    {e : ServiceStep ι} (hpath : path = before ++ e :: after) (hst : st ∈ terminalStatuses)
    (hchange : Changes p st e) :
    (∃ i o, e.label = some (i, o) ∧ Announced p st i after) ↔
      ∃ i o ack, e.label = some (i, o) ∧ activities i = .ackConsumer (some (some ack)) ∧
        Heard webhooks ack (outcomesOf i after) := by
  have hcalls := (makes_run (P := fun i c => (activities i).Calls c)
    (fun i => makes_calls case' webhooks (activities i)) h).2
  obtain ⟨hbefore, hstep, -⟩ := (hpath ▸ h).split
  obtain ⟨i, k, a, hl, hwrite, hanswer⟩ := changes_cases hstep hchange
  have htrace : outcomesOf i path = outcomesOf i before ++ ⟨k, .ok a⟩ :: outcomesOf i after := by
    rw [hpath, outcomesOf_append, outcomesOf_cons e after hl]
  have hk : (activities i).Calls k := by
    refine hcalls (i, ⟨k, .ok a⟩) (mem_outcomesOf.mp ?_)
    rw [htrace]
    exact List.mem_append_right _ List.mem_cons_self
  rcases terminal_write hk hwrite hst with ⟨railAck, delivery, rfl, hi⟩ | hsilent
  · -- an acknowledgement
    have hack := ackTrace_of_run h hdone hi
    rw [htrace] at hack
    rcases hack with ⟨ack, rfl, hack⟩ | hstores
    · obtain ⟨hiff, hrow⟩ := hack.fires_iff
      constructor
      · intro hannounced
        obtain ⟨j, o, hj, row, r, hfire, -⟩ := hannounced
        obtain rfl := process_unique hl hj
        exact ⟨j, o, ack, hj, hi, hiff.mp ⟨_, hfire, rfl⟩⟩
      · intro hheard
        obtain ⟨j, o, ack', hj, hj', hheard⟩ := hheard
        obtain rfl := process_unique hl hj
        rw [hi] at hj'
        cases hj'
        obtain ⟨o', ho', hfires⟩ := hiff.mpr hheard
        obtain ⟨row, r, rfl⟩ := eq_fireForPayment hfires
        obtain rfl := hrow row r ho'
        obtain ⟨hid, hstatus⟩ := row_of_updateRailAck (keyed_run hbefore hkeyed) hanswer
        refine ⟨j, o, hj, row, r, ho', hid, hstatus, fun t sub hsub hpayment hevent => ?_⟩
        refine (mem_fireForPayment (hstatus ▸ hst)).mpr ⟨hsub, ?_, ?_⟩
        · rw [hpayment, hid]
        · rwa [hstatus]
    · cases hstores _ (List.mem_append_right _ List.mem_cons_self)
  · -- whoever never fires webhooks
    constructor
    · intro hannounced
      obtain ⟨j, o, hj, row, r, hfire, -⟩ := hannounced
      obtain rfl := process_unique hl hj
      refine absurd (hcalls (j, ⟨.fireForPayment row, r⟩) (mem_outcomesOf.mp ?_)) (hsilent row)
      rw [htrace]
      exact List.mem_append_right _ (List.mem_cons_of_mem _ hfire)
    · intro hheard
      obtain ⟨j, o, ack, hj, hj', -⟩ := hheard
      obtain rfl := process_unique hl hj
      obtain ⟨row, -, -⟩ := Option.map_eq_some_iff.mp hchange.2
      refine absurd ?_ (hsilent row)
      rw [hj']
      trivial

/-- **No change is silent exactly if each is made by an acknowledgement that is heard.** -/
theorem announced_iff (hkeyed : Keyed store.payments)
    (h : (service W ι).toLTS.Run (serviceStart case' webhooks activities store) path d)
    (hdone : ∀ i, ∃ r, d.locals i = .done r) :
    AllAnnounced path ↔ AllHeard webhooks activities path := by
  constructor
  · intro hall before e after p st hpath hst hchange
    exact (announced_iff_heard hkeyed h hdone hpath hst hchange).mp
      (hall before e after p st hpath hst hchange)
  · intro hall before e after p st hpath hst hchange
    exact (announced_iff_heard hkeyed h hdone hpath hst hchange).mpr
      (hall before e after p st hpath hst hchange)

end Runs

/-! ### A payment without a route -/

namespace Example

open Pipeline.Example

/-- No routing rule matches; every other call is answered. -/
def unrouted (c : Call) (s : Store) : Option (Except Failure c.Result × Store) :=
  match c with
  | .resolve _ => some (.error (.error (js "No routing rule matched for payment")), s)
  | c => some (c.respond host s)

theorem faulty_unrouted {c : Call} {s t : Store} {r : Except Failure c.Result}
    (h : unrouted c s = some (r, t)) : Call.faulty host.collaborators c s r t := by
  unfold unrouted at h
  split at h
  · cases h
    exact Or.inr ⟨rfl, ⟨_, rfl⟩, rfl⟩
  · have hanswer := Call.answer_respond host c s
    rw [Option.some.inj h] at hanswer
    exact Or.inl hanswer

/-- The pipeline runs alone. -/
def alone (_ : Unit) : Activity := MipitCore.Example.pixPayment

def unroutedRun : List (ServiceStep Unit) × Config Store Unit (Service Unit) :=
  Program.schedule (fun _ => unrouted) (List.replicate 12 ()) (serviceStart .ascii true alone store)

theorem unroutedRun_run : (service host.collaborators Unit).toLTS.Run
    (serviceStart .ascii true alone store) unroutedRun.1 unroutedRun.2 :=
  Program.run_schedule (f := fun _ => unrouted) (fun _ _ _ _ _ h => faulty_unrouted h) _ _

theorem unroutedRun_done : ∀ i, ∃ r, unroutedRun.2.locals i = .done r := fun _ => ⟨_, rfl⟩

/-- The last call but one marks the payment as failed. -/
theorem unroutedRun_fails : ∃ e, unroutedRun.1[10]? = some e ∧ Changes (paymentIdOf ulid) .failed e :=
  ⟨_, rfl, by decide, by decide⟩

theorem unroutedRun_silent : ∀ o ∈ outcomesOf () unroutedRun.1, fires o = false := by
  decide

/-- Nobody is told of the failure. -/
theorem not_allAnnounced_unroutedRun : ¬ AllAnnounced unroutedRun.1 := by
  intro hall
  obtain ⟨e, he, hchange⟩ := unroutedRun_fails
  obtain ⟨before, after, hpath⟩ := List.append_of_mem (List.mem_of_getElem? he)
  obtain ⟨⟨⟩, o, hl, row, r, hfire, -⟩ := hall before e after _ _ hpath (by decide) hchange
  have hmem : (⟨.fireForPayment row, r⟩ : CallOutcome) ∈ outcomesOf () unroutedRun.1 := by
    rw [hpath, outcomesOf_append, outcomesOf_cons e after hl]
    exact List.mem_append_right _ (List.mem_cons_of_mem _ hfire)
  cases unroutedRun_silent _ hmem

end Example

/-- A payment for which there is no route is marked as failed, and nobody is told. -/
theorem failed_silently :
    (service Pipeline.Example.host.collaborators Unit).toLTS.Run
        (serviceStart .ascii true Example.alone Pipeline.Example.store) Example.unroutedRun.1
        Example.unroutedRun.2 ∧
      (∀ i, ∃ r, Example.unroutedRun.2.locals i = .done r) ∧
      ¬ AllAnnounced Example.unroutedRun.1 :=
  ⟨Example.unroutedRun_run, Example.unroutedRun_done, Example.not_allAnnounced_unroutedRun⟩

theorem announced_iff_unroutedRun : ¬ AllHeard true Example.alone Example.unroutedRun.1 := by
  intro hheard
  refine Example.not_allAnnounced_unroutedRun ?_
  refine (announced_iff ?_ Example.unroutedRun_run Example.unroutedRun_done).mpr hheard
  intro id row hrow
  cases hrow

end MipitCore.Webhooks
