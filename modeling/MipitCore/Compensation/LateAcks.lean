import MipitCore.Compensation.Once
import MipitCore.Messaging.Settled
import MipitCore.Service.Activities

/-!
# Acknowledgements that arrive during a compensation

`compensate` decides on the row that it has read. An acknowledgement that is stored after
that read changes the row, but not what the compensation goes on to write: whether a
reversal is required was settled by the row that was read, and the mark COMPENSATED
overwrites any status. So an acceptance is hidden, or overwrites a compensation, exactly
if it is the last acknowledgement after the read and either none was stored before, or
one is stored after the mark (`consistent_iff`).

## Main definitions

* `race`, `raceStart` — one compensation and any number of acknowledgements
* `Consistent` — the row and the audit trail agree
* `acks`, `Hides`

## Main results

* `compensate_traces` — the calls of a compensation none of which fails
* `consistent_iff`
-/

namespace MipitCore.Compensation

open Js Foundation Program Messaging

/-- The rail has accepted the payment. -/
def Accepted (railAck : JsValue) : Prop :=
  railAck.getOptional "status" = .string (js "ACCEPTED")

theorem finalStatus_eq_completed {v : JsValue} :
    finalStatus v = .completed ↔ v = .string (js "ACCEPTED") := by
  cases v with
  | string s =>
    by_cases haccepted : s = js "ACCEPTED"
    · simp [finalStatus, haccepted]
    · by_cases hrejected : s = js "REJECTED" <;> simp [finalStatus, haccepted, hrejected]
  | _ => simp [finalStatus]

theorem wasAcked_of_accepted {row : PaymentRow} {railAck : JsValue}
    (hrow : row.railAck = some railAck) (haccepted : Accepted railAck) : wasAcked row = true := by
  rw [wasAcked, hrow]
  cases railAck with
  | undefined | null => cases haccepted
  | _ => rfl

/-- The store agrees with itself on the payment: an accepted payment is not compensated without a
reversal, and a compensated one is not completed. -/
structure Consistent (p : Text) (s : Store) : Prop where
  compensated : ∀ railAck, s.status p = some .compensated → s.railAck p = some railAck →
    Accepted railAck → recorded p "COMPENSATION_REVERSAL_REQUIRED" s ≠ 0
  completed : s.status p = some .completed → recorded p "COMPENSATION_COMPLETED" s = 0

/-- No compensation of the payment has got anywhere yet. -/
structure Uncompensated (p : Text) (s : Store) : Prop where
  status : s.status p ≠ some .compensated
  reversal : recorded p "COMPENSATION_REVERSAL_REQUIRED" s = 0
  completed : recorded p "COMPENSATION_COMPLETED" s = 0

/-! ### The calls of one compensation -/

/-- The calls after the payment was found to be compensable. -/
def Compensates (p : Text) (row : PaymentRow) (trace : List CallOutcome) : Prop :=
  ∃ compensatedAt marked compensated, trace =
    [⟨.updateStatus (.string p) .compensating, .ok marked⟩,
      ⟨.log (startedEvent p row), .ok ()⟩] ++
    (if wasAcked row then [⟨.log (reversalEvent p row), .ok ()⟩] else []) ++
    ⟨.updateStatus (.string p) .compensated, .ok compensated⟩ ::
      [⟨.log (completedEvent compensatedAt p row), .ok ()⟩]

/-- The calls of a compensation none of which fails. -/
inductive Trace (p : Text) : List CallOutcome → Prop
  | refused {row? : Option PaymentRow}
      (hrow : ∀ row, row? = some row → isCompensable row.status = false) :
      Trace p [⟨.findById (.string p), .ok row?⟩]
  | compensated {row : PaymentRow} {rest : List CallOutcome} (hrest : Compensates p row rest) :
      Trace p (⟨.findById (.string p), .ok (some row)⟩ :: rest)

/-- The call succeeded. -/
def Succeeded (o : CallOutcome) : Prop := o.result.isOk = true

theorem start_traces (compensatedAt : Datetime) (p : Text) (row : PaymentRow) :
    (start compensatedAt p row).Traces Succeeded fun trace _ => Compensates p row trace := by
  have hlog : ∀ (event : AuditEvent) (R : List CallOutcome → Except Failure Unit → Prop),
      R [⟨.log event, .ok ()⟩] (.ok ()) → (log event).Traces Succeeded R := by
    intro event R hR
    refine Traces.perform fun r hr => ?_
    cases r with
    | error e => cases hr
    | ok _ => exact hR
  have hmark : ∀ (status : PaymentStatus) (R : List CallOutcome → Except Failure PaymentRow → Prop),
      (∀ row, R [⟨.updateStatus (.string p) status, .ok row⟩] (.ok row)) →
      (await (.updateStatus (.string p) status)).Traces Succeeded R := by
    intro status R hR
    refine Traces.perform fun r hr => ?_
    cases r with
    | error e => cases hr
    | ok row => exact hR row
  have hreversal : (requireReversal p row).Traces Succeeded fun trace r => r = .ok () ∧
      trace = if wasAcked row then [⟨.log (reversalEvent p row), .ok ()⟩] else [] := by
    by_cases hacked : wasAcked row = true
    · rw [requireReversal, if_pos hacked, if_pos hacked]
      exact hlog _ _ ⟨rfl, rfl⟩
    · rw [requireReversal, if_neg hacked, if_neg hacked]
      exact Traces.pure ⟨rfl, rfl⟩
  refine Traces.bind (hmark _ _ fun marked => ?_)
  refine Traces.bind (hlog _ _ ?_)
  refine Traces.tryCatch (Traces.bind (hreversal.mono fun trace r htrace => ?_))
  obtain ⟨rfl, rfl⟩ := htrace
  refine Traces.bind (hmark _ _ fun compensated => ?_)
  refine Traces.bind (hlog _ _ (Traces.pure ?_))
  exact ⟨compensatedAt, marked, compensated, by simp⟩

/-- **The calls of a compensation**: it reads the row once, and marks it once at most. -/
theorem compensate_traces (compensatedAt : Datetime) (p : Text) :
    (compensate compensatedAt p).Traces Succeeded fun trace _ => Trace p trace := by
  refine Traces.bind (Traces.perform fun r hr => ?_)
  cases r with
  | error e => cases hr
  | ok row? =>
    cases row? with
    | none => exact Traces.pure (Trace.refused fun row h => by cases h)
    | some row =>
      by_cases hrow : isCompensable row.status = true
      · simp only [proceed, hrow, ↓reduceIte]
        exact (start_traces compensatedAt p row).mono fun trace _ h => Trace.compensated h
      · rw [Bool.not_eq_true] at hrow
        simp only [proceed, hrow, Bool.false_eq_true, ↓reduceIte]
        exact Traces.pure (Trace.refused fun row' h => by
          cases h
          exact hrow)

section Counts

variable {p : Text} {row : PaymentRow} {trace : List CallOutcome}

def isFindById : Call → Bool
  | .findById _ => true
  | _ => false

def marksCompensated : Call → Bool
  | .updateStatus _ .compensated => true
  | _ => false

theorem Compensates.reversals (h : Compensates p row trace) :
    trace.countP (records p "COMPENSATION_REVERSAL_REQUIRED") =
      if wasAcked row then 1 else 0 := by
  obtain ⟨compensatedAt, marked, compensated, rfl⟩ := h
  cases hacked : wasAcked row <;>
    simp [records, isEvent, startedEvent, reversalEvent, completedEvent, event]

theorem Compensates.completions (h : Compensates p row trace) :
    trace.countP (records p "COMPENSATION_COMPLETED") = 1 := by
  obtain ⟨compensatedAt, marked, compensated, rfl⟩ := h
  cases hacked : wasAcked row <;>
    simp [records, isEvent, startedEvent, reversalEvent, completedEvent, event]

theorem Compensates.reads (h : Compensates p row trace) :
    trace.countP (fun o => isFindById o.call) = 0 := by
  obtain ⟨compensatedAt, marked, compensated, rfl⟩ := h
  cases hacked : wasAcked row <;> simp [isFindById]

theorem Compensates.marks (h : Compensates p row trace) :
    trace.countP (fun o => marksCompensated o.call) = 1 := by
  obtain ⟨compensatedAt, marked, compensated, rfl⟩ := h
  cases hacked : wasAcked row <;> simp [marksCompensated]

/-- A compensation that has marked the payment has read it before, and afterwards writes to the
audit trail only. -/
theorem Trace.cut {lead between after : List CallOutcome} {marked : PaymentRow}
    (h : Trace p (lead ++ ⟨.findById (.string p), .ok (some row)⟩ :: (between ++
      ⟨.updateStatus (.string p) .compensated, .ok marked⟩ :: after))) :
    lead = [] ∧
      Compensates p row (between ++ ⟨.updateStatus (.string p) .compensated, .ok marked⟩ :: after) ∧
      ∀ o ∈ after, o.call.statusWrite p = none ∧ o.call.railAckWrite p = none := by
  generalize hcalls : lead ++ ⟨.findById (.string p), .ok (some row)⟩ :: (between ++
    ⟨.updateStatus (.string p) .compensated, .ok marked⟩ :: after) = calls at h
  cases h with
  | refused hrow => cases lead <;> simp at hcalls
  | @compensated row' rest hrest =>
    -- there is one read, the first call
    have hreads : (⟨.findById (.string p), .ok (some row')⟩ :: rest : List CallOutcome).countP
        (fun o => isFindById o.call) ≤ 1 := by
      rw [List.countP_cons, hrest.reads]
      rfl
    rw [← List.nil_append (_ :: rest)] at hcalls
    obtain ⟨rfl, hread, hafter⟩ := append_cons_unique (q := fun o => isFindById o.call)
      hcalls rfl rfl (hcalls ▸ hreads)
    obtain rfl : row = row' := by
      injection hread with _ hresult
      exact Option.some.inj (Except.ok.inj hresult)
    refine ⟨rfl, hafter ▸ hrest, ?_⟩
    -- and one mark, which is followed by the record of the completion
    have hmarks := hrest.marks
    obtain ⟨compensatedAt, _, compensated, hrest'⟩ := hrest
    rw [hrest'] at hafter hmarks
    obtain ⟨-, -, rfl⟩ := append_cons_unique (q := fun o => marksCompensated o.call) hafter rfl rfl
      (by rw [hafter, hmarks])
    intro o ho
    rw [List.mem_singleton] at ho
    rw [ho]
    exact ⟨rfl, rfl⟩

end Counts

/-! ### The calls of an acknowledgement -/

theorem records_ackCall {c : Call} (h : AckCall c) (p : Text) {eventType : String}
    (htype : eventType ≠ "ACK_RECEIVED") (r : Except Failure c.Result) :
    records p eventType ⟨c, r⟩ = false := by
  cases c with
  | log event =>
    cases r with
    | error e => rfl
    | ok _ =>
      have hevent : event.eventType = "ACK_RECEIVED" := h
      simp [records, isEvent, hevent, Ne.symm htype]
  | _ => rfl

/-- The consumer writes no status but that of the answer it stores. -/
theorem statusWrite_ackCall {c : Call} (h : AckCall c) (p : Text) :
    c.statusWrite p =
      (c.railAckWrite p).map fun railAck => finalStatus (railAck.getOptional "status") := by
  cases c with
  | updateRailAck v railAck status =>
    obtain rfl : status = _ := h
    cases v with
    | string id => by_cases hid : id = p <;> simp [Call.statusWrite, Call.railAckWrite, hid]
    | _ => rfl
  | log event => rfl
  | fireForPayment payment => rfl
  | settle settlement => rfl
  | _ => exact h.elim

/-! ### Interleavings -/

section Interleavings

variable {κ : Type} {W : Collaborators} {case' : CaseMapping} {webhooks : Bool}
  {compensatedAt : Datetime} {p : Text} {messages : κ → Option (Option JsValue)} {store : Store}

/-- A compensation, and the handling of acknowledgements; no call fails. -/
def race (W : Collaborators) (κ : Type) :
    Processes Store (Option κ) (Service Unit) CallOutcome :=
  Program.processes (fun _ c s r t => Call.answer W c s r t ∧ r.isOk = true) Tick

/-- No call has been made. -/
def raceStart (case' : CaseMapping) (webhooks : Bool) (compensatedAt : Datetime) (p : Text)
    (messages : κ → Option (Option JsValue)) (store : Store) :
    Config Store (Option κ) (Service Unit) where
  store
  locals
    | none => do let _ ← compensate compensatedAt p
    | some k => ackConsumer case' webhooks (messages k)

/-- The calls of the compensation. -/
def ownCalls (ls : List (Option κ × CallOutcome)) : List CallOutcome :=
  ls.filterMap fun l => if l.1 = none then some l.2 else none

/-- The statuses that calls write to the payment, in their order. -/
def statuses (p : Text) (ls : List (Option κ × CallOutcome)) : List PaymentStatus :=
  ls.filterMap fun l => l.2.call.statusWrite p

/-- The answers of rails to the payment that calls store, in their order. -/
def acks (p : Text) (ls : List (Option κ × CallOutcome)) : List JsValue :=
  ls.filterMap fun l => l.2.call.railAckWrite p

/-- After the payment was read by the compensation, the last answer of a rail is an acceptance; and
none was there when it was read, or one is stored after the mark COMPENSATED. -/
def Hides (p : Text) (ls : List (Option κ × CallOutcome)) : Prop :=
  ∃ before row between marked after railAck,
    ls = before ++ (none, ⟨.findById (.string p), .ok (some row)⟩) :: (between ++
      (none, ⟨.updateStatus (.string p) .compensated, .ok marked⟩) :: after) ∧
    (acks p (between ++ after)).getLast? = some railAck ∧ Accepted railAck ∧
    (wasAcked row = false ∨ acks p after ≠ [])

theorem getLast?_statuses {lead after : List (Option κ × CallOutcome)} {l : Option κ × CallOutcome}
    {status : PaymentStatus} (hl : l.2.call.statusWrite p = some status) :
    (statuses p (lead ++ l :: after)).getLast? =
      some ((statuses p after).getLast?.getD status) := by
  have hcons : statuses p (l :: after) = status :: statuses p after := List.filterMap_cons_some hl
  rw [statuses, List.filterMap_append, List.getLast?_append]
  change (statuses p (l :: after)).getLast?.or _ = _
  rw [hcons, List.getLast?_cons, Option.some_or]

/-- Where only acknowledgements write the status, it is that of the last of them. -/
theorem statuses_eq {ls : List (Option κ × CallOutcome)}
    (h : ∀ l ∈ ls, l.1 ≠ none → AckCall l.2.call)
    (hown : ∀ l ∈ ls, l.1 = none → l.2.call.statusWrite p = none ∧ l.2.call.railAckWrite p = none) :
    statuses p ls = (acks p ls).map fun railAck => finalStatus (railAck.getOptional "status") := by
  rw [statuses, acks, List.map_filterMap]
  refine List.filterMap_congr fun l hl => ?_
  by_cases hnone : l.1 = none
  · obtain ⟨hstatus, hack⟩ := hown l hl hnone
    rw [hstatus, hack]
    rfl
  · exact statusWrite_ackCall (h l hl hnone) p

theorem mem_ownCalls {l : Option κ × CallOutcome} {o : CallOutcome}
    (h : (if l.1 = none then some l.2 else none) = some o) : l = (none, o) := by
  split_ifs at h with hnone
  exact Prod.ext hnone (Option.some.inj h)

/-- Where the compensation has made its calls, the other calls are before and after them. -/
theorem cut_of_compensates {ls : List (Option κ × CallOutcome)} {row : PaymentRow}
    {rest : List CallOutcome} (hrest : Compensates p row rest)
    (h : ownCalls ls = ⟨.findById (.string p), .ok (some row)⟩ :: rest) :
    ∃ before between marked after, ls =
      before ++ (none, ⟨.findById (.string p), .ok (some row)⟩) :: (between ++
        (none, ⟨.updateStatus (.string p) .compensated, .ok marked⟩) :: after) := by
  obtain ⟨compensatedAt, marked, compensated, rfl⟩ := hrest
  obtain ⟨before, l, tail, rfl, -, hl, htail⟩ := List.filterMap_eq_cons_iff.mp h
  obtain ⟨between, more, rfl, -, hmore⟩ := List.filterMap_eq_append_iff.mp htail
  obtain ⟨between', l', after, rfl, -, hl', -⟩ := List.filterMap_eq_cons_iff.mp hmore
  refine ⟨before, between ++ between', compensated, after, ?_⟩
  rw [mem_ownCalls hl, mem_ownCalls hl', List.append_assoc]

variable [DecidableEq κ] {d : Config Store (Option κ) (Service Unit)}
  {path : List (Transition (Config Store (Option κ) (Service Unit)) (Option (Option κ × CallOutcome)))}

/-- The calls of all processes. -/
theorem race_calls (h : (race W κ).toLTS.Run (raceStart case' webhooks compensatedAt p messages store)
      path d) (hdone : ∀ i, ∃ r, d.locals i = .done r) :
    Trace p (outcomesOf none path) ∧ ∀ l ∈ outcomes path, l.1 ≠ none → AckCall l.2.call := by
  constructor
  · obtain ⟨r, hr⟩ := hdone none
    have heval := eval_outcomesOf (P := Succeeded) (fun _ _ _ _ h => h.2) h hr
    have htraces : ((raceStart case' webhooks compensatedAt p messages store).locals none).Traces
        Succeeded fun trace _ => Trace p trace := by
      refine Traces.bind ((compensate_traces compensatedAt p).mono fun trace r h => ?_)
      cases r with
      | error e => exact h
      | ok _ => exact Traces.pure (by simpa using h)
    obtain ⟨trace, htrace, hshape⟩ := htraces.eval heval
    rw [List.nil_append] at htrace
    rwa [htrace]
  · have hmakes := makes_run (P := fun i c => i ≠ none → AckCall c) (fun i => by
      cases i with
      | none =>
        refine (compensate_calls compensatedAt p).bind (fun _ => ?_) |>.mono ?_
        · trivial
        · intro c _ hne
          exact absurd rfl hne
      | some k => exact (ackConsumer_calls case' webhooks (messages k)).mono fun c hc _ => hc) h
    exact fun l hl hne => hmakes.2 l hl hne

/-- A status is the one that was written last. -/
theorem status_race {c : Config Store (Option κ) (Service Unit)}
    (h : (race W κ).toLTS.Run c path d) (p : Text) :
    d.store.status p = (statuses p (outcomes path)).getLast?.or (c.store.status p) := by
  refine observe_last (f := fun s => s.status p) ?_ ?_ h
  · intro i c s r t hcall
    obtain ⟨hanswer, hok⟩ := hcall
    cases r with
    | error e => cases hok
    | ok a => exact status_of_answer hanswer p
  · intro s t htick
    obtain ⟨now, -, rfl⟩ := htick
    rfl

/-- The stored answer of the rail is the one that was stored last. -/
theorem railAck_race {c : Config Store (Option κ) (Service Unit)}
    (h : (race W κ).toLTS.Run c path d) (p : Text) :
    d.store.railAck p = (acks p (outcomes path)).getLast?.or (c.store.railAck p) := by
  refine observe_last (f := fun s => s.railAck p) ?_ ?_ h
  · intro i c s r t hcall
    obtain ⟨hanswer, hok⟩ := hcall
    cases r with
    | error e => cases hok
    | ok a => exact railAck_of_answer hanswer p
  · intro s t htick
    obtain ⟨now, -, rfl⟩ := htick
    rfl

/-- A read answers with the row as it is. -/
theorem railAck_of_read {c : Config Store (Option κ) (Service Unit)} {i : Option κ}
    {row : PaymentRow} (h : (race W κ).toLTS c
      (some (i, ⟨.findById (.string p), .ok (some row)⟩)) d) : d.store.railAck p = row.railAck := by
  rcases processes_cases h with ⟨_, _, _, _, -, hl, hcall, -⟩ | ⟨hl, -, -⟩
  · cases hl
    obtain ⟨⟨hread, hstore⟩, -⟩ := hcall
    obtain ⟨id, hid, hrow⟩ := Persistence.bind_eq_ok.mp hread.symm
    cases Persistence.requireText_ok hid
    rw [hstore, Store.railAck, Except.ok.inj hrow]
    rfl
  · cases hl

/-- The events of the compensation are recorded by nobody else. -/
theorem recorded_race (h : (race W κ).toLTS.Run
      (raceStart case' webhooks compensatedAt p messages store) path d)
    (hacks : ∀ l ∈ outcomes path, l.1 ≠ none → AckCall l.2.call) {eventType : String}
    (htype : eventType ≠ "ACK_RECEIVED") :
    recorded p eventType d.store =
      recorded p eventType store + (outcomesOf none path).countP (records p eventType) := by
  rw [recorded_run (fun _ _ _ _ _ h => Or.inl h.1) tick_audit h p eventType]
  rw [countP_outcomesOf (i := none) fun l hl hne => records_ackCall (hacks l hl hne) p htype _]
  rfl

/-- A compensation that is refused hides nothing. -/
theorem consistent_of_refused (h : (race W κ).toLTS.Run
      (raceStart case' webhooks compensatedAt p messages store) path d)
    (hacks : ∀ l ∈ outcomes path, l.1 ≠ none → AckCall l.2.call) (hstore : Uncompensated p store)
    {row? : Option PaymentRow} (htrace : outcomesOf none path = [⟨.findById (.string p), .ok row?⟩]) :
    Consistent p d.store := by
  have hown : ∀ l ∈ outcomes path, l.1 = none →
      l.2.call.statusWrite p = none ∧ l.2.call.railAckWrite p = none := by
    intro l hl hnone
    have hmem : l.2 ∈ outcomesOf none path := mem_outcomesOf.mpr (hnone ▸ hl)
    rw [htrace, List.mem_singleton] at hmem
    rw [hmem]
    exact ⟨rfl, rfl⟩
  constructor
  · intro railAck hstatus _ _
    rw [status_race h p, statuses_eq hacks hown, List.getLast?_map] at hstatus
    cases hlast : (acks p (outcomes path)).getLast? with
    | none =>
      rw [hlast] at hstatus
      exact absurd hstatus hstore.status
    | some railAck =>
      rw [hlast] at hstatus
      rcases finalStatus_cases (railAck.getOptional "status") with hfinal | hfinal | hfinal <;>
        simp [hfinal] at hstatus
  · intro _
    rw [recorded_race h hacks (by decide), hstore.completed, htrace]
    rfl

/-- **What the acknowledgements after the read decide.** -/
theorem consistent_iff_of_cut (h : (race W κ).toLTS.Run
      (raceStart case' webhooks compensatedAt p messages store) path d)
    (hacks : ∀ l ∈ outcomes path, l.1 ≠ none → AckCall l.2.call)
    (htrace : Trace p (outcomesOf none path)) (hstore : Uncompensated p store)
    {before between after : List (Option κ × CallOutcome)} {row marked : PaymentRow}
    (hcut : outcomes path = before ++ (none, ⟨.findById (.string p), .ok (some row)⟩) :: (between ++
      (none, ⟨.updateStatus (.string p) .compensated, .ok marked⟩) :: after)) :
    Consistent p d.store ↔
      ¬ ∃ railAck, (acks p (between ++ after)).getLast? = some railAck ∧ Accepted railAck ∧
        (wasAcked row = false ∨ acks p after ≠ []) := by
  have htrace' := htrace
  have hcalls : outcomesOf none path = ownCalls before ++
      ⟨.findById (.string p), .ok (some row)⟩ :: (ownCalls between ++
        ⟨.updateStatus (.string p) .compensated, .ok marked⟩ :: ownCalls after) := by
    rw [outcomesOf, hcut]
    simp only [ownCalls, List.filterMap_append, List.filterMap_cons, ↓reduceIte]
  rw [hcalls] at htrace'
  obtain ⟨hlead, hrest, htail⟩ := htrace'.cut
  rw [hlead, List.nil_append] at hcalls
  -- the events that the compensation has recorded
  have hreversals : recorded p "COMPENSATION_REVERSAL_REQUIRED" d.store =
      if wasAcked row then 1 else 0 := by
    rw [recorded_race h hacks (by decide), hstore.reversal, hcalls, List.countP_cons,
      hrest.reversals, Nat.zero_add]
    rfl
  have hcompletions : recorded p "COMPENSATION_COMPLETED" d.store = 1 := by
    rw [recorded_race h hacks (by decide), hstore.completed, hcalls, List.countP_cons,
      hrest.completions]
    rfl
  -- the status is that of the last acknowledgement after the mark, if there is one
  have hstatus : d.store.status p = some (((acks p after).getLast?.map fun railAck =>
      finalStatus (railAck.getOptional "status")).getD .compensated) := by
    have hafter : statuses p after = _ := statuses_eq
      (fun l hl => hacks l (by rw [hcut]; simp [hl]))
      (fun l hl hnone => htail l.2 (List.mem_filterMap.mpr ⟨l, hl, by simp [hnone]⟩))
    have hmark : Call.statusWrite p (.updateStatus (.string p) .compensated) = some .compensated :=
      if_pos rfl
    rw [status_race h p, hcut, ← List.cons_append, ← List.append_assoc, getLast?_statuses
      (l := (none, ⟨.updateStatus (.string p) .compensated, .ok marked⟩)) hmark, hafter,
      List.getLast?_map, Option.some_or]
  -- the answer of the rail is that of the last acknowledgement after the read, if there is one
  have hrailAck : d.store.railAck p =
      (acks p (between ++ after)).getLast?.or row.railAck := by
    obtain ⟨path₁, e, path₂, rfl, hlabel, hpath₂⟩ := outcomes_split hcut
    obtain ⟨-, hstep, hrun⟩ := h.split
    rw [hlabel] at hstep
    rw [railAck_race hrun p, hpath₂, railAck_of_read hstep]
    simp only [acks, List.filterMap_append, List.filterMap_cons, Call.railAckWrite]
  cases hlast : (acks p after).getLast? with
  | none =>
    -- the payment ends as compensated
    rw [hlast] at hstatus
    have hnil : acks p after = [] := List.getLast?_eq_none_iff.mp hlast
    constructor
    · intro hconsistent hhides
      obtain ⟨railAck, hrail, haccepted, hacked | hafter⟩ := hhides
      · rw [hrail] at hrailAck
        apply hconsistent.compensated railAck hstatus hrailAck haccepted
        rw [hreversals, hacked]
        rfl
      · exact hafter hnil
    · intro hhides
      constructor
      · intro railAck _ hrail haccepted
        by_cases hacked : wasAcked row = true
        · rw [hreversals, if_pos hacked]
          exact one_ne_zero
        · cases hlastAck : (acks p (between ++ after)).getLast? with
          | none =>
            rw [hrailAck, hlastAck, Option.none_or] at hrail
            exact absurd (wasAcked_of_accepted hrail haccepted) hacked
          | some railAck' =>
            rw [hrailAck, hlastAck, Option.some_or] at hrail
            obtain rfl := Option.some.inj hrail
            exact absurd ⟨_, hlastAck, haccepted, Or.inl (Bool.eq_false_iff.mpr hacked)⟩ hhides
      · intro hcompleted
        rw [hstatus] at hcompleted
        cases hcompleted
  | some railAck =>
    -- the payment ends with the status of the last acknowledgement
    rw [hlast] at hstatus
    have hrail : (acks p (between ++ after)).getLast? = some railAck := by
      rw [acks, List.filterMap_append, List.getLast?_append]
      exact congrArg (Option.or · _) hlast
    constructor
    · intro hconsistent hhides
      obtain ⟨railAck', hrail', haccepted, -⟩ := hhides
      obtain rfl : railAck = railAck' := Option.some.inj (hrail.symm.trans hrail')
      have hzero := hconsistent.completed (by
        rw [hstatus]
        exact congrArg some (finalStatus_eq_completed.mpr haccepted))
      rw [hcompletions] at hzero
      cases hzero
    · intro hhides
      constructor
      · intro _ hcompensated _ _
        rw [hstatus] at hcompensated
        rcases finalStatus_cases (railAck.getOptional "status") with hfinal | hfinal | hfinal <;>
          simp [hfinal] at hcompensated
      · intro hcompleted
        rw [hstatus] at hcompleted
        exact absurd ⟨railAck, hrail, finalStatus_eq_completed.mp (Option.some.inj hcompleted),
          Or.inr (by intro hnil; rw [hnil] at hlast; cases hlast)⟩ hhides

/-- **Compensation hides no acceptance exactly if none is the last acknowledgement after the read**,
where none was there when the payment was read or one is stored after the mark COMPENSATED. -/
theorem consistent_iff (h : (race W κ).toLTS.Run
      (raceStart case' webhooks compensatedAt p messages store) path d)
    (hdone : ∀ i, ∃ r, d.locals i = .done r) (hstore : Uncompensated p store) :
    Consistent p d.store ↔ ¬ Hides p (outcomes path) := by
  obtain ⟨htrace, hacks⟩ := race_calls h hdone
  constructor
  · intro hconsistent hhides
    obtain ⟨before, row, between, marked, after, railAck, hcut, hlast⟩ := hhides
    exact (consistent_iff_of_cut h hacks htrace hstore hcut).mp hconsistent ⟨railAck, hlast⟩
  · intro hhides
    generalize hcalls : outcomesOf none path = calls at htrace
    cases htrace with
    | refused hrow => exact consistent_of_refused h hacks hstore hcalls
    | @compensated row rest hrest =>
      obtain ⟨before, between, marked, after, hcut⟩ := cut_of_compensates hrest hcalls
      have htrace := Trace.compensated hrest
      rw [← hcalls] at htrace
      refine (consistent_iff_of_cut h hacks htrace hstore hcut).mpr fun hlast => ?_
      obtain ⟨railAck, hlast⟩ := hlast
      exact hhides ⟨before, row, between, marked, after, railAck, hcut, hlast⟩

end Interleavings

/-! ### An acceptance that is hidden -/

namespace Example

open Messaging.Example (host id accepted)

/-- The answer of a call that succeeds. -/
def succeed (c : Call) (s : Store) : Option (Except Failure c.Result × Store) :=
  if (c.respond host s).1.isOk then some (c.respond host s) else none

/-- Nobody but the compensation works on the failed payment, until it is accepted. -/
def start : Config Store (Option Unit) (Service Unit) :=
  raceStart .ascii false compensatedAt id (fun _ => some accepted.content) failedStore

/-- The acceptance is stored after the compensation has read the payment. -/
def lateAck : List (Transition (Config Store (Option Unit) (Service Unit))
    (Option (Option Unit × CallOutcome))) × Config Store (Option Unit) (Service Unit) :=
  Program.schedule (fun _ => succeed)
    ([none] ++ List.replicate 3 (some ()) ++ List.replicate 4 none) start

theorem lateAck_run : (race host.collaborators Unit).toLTS.Run start lateAck.1 lateAck.2 := by
  refine Program.run_schedule (f := fun _ => succeed) ?_ _ _
  intro i c s r t h
  unfold succeed at h
  split_ifs at h with hok
  have hanswer := Call.answer_respond host c s
  rw [Option.some.inj h] at hanswer hok
  exact ⟨hanswer, hok⟩

theorem lateAck_done : ∀ i, ∃ r, lateAck.2.locals i = .done r
  | none => ⟨_, rfl⟩
  | some () => ⟨_, rfl⟩

theorem uncompensated_failedStore : Uncompensated id failedStore :=
  ⟨by decide, rfl, rfl⟩

theorem not_consistent_lateAck : ¬ Consistent id lateAck.2.store := by
  intro hconsistent
  exact hconsistent.compensated (.object [("status", .string (js "ACCEPTED"))]) rfl rfl rfl rfl

end Example

/-- The payment ends as compensated, its rail has accepted it, and nobody is told to reverse it. -/
theorem acceptance_hidden :
    (race Messaging.Example.host.collaborators Unit).toLTS.Run Example.start Example.lateAck.1
        Example.lateAck.2 ∧
      (∀ i, ∃ r, Example.lateAck.2.locals i = .done r) ∧
      Uncompensated Messaging.Example.id Example.start.store ∧
      ¬ Consistent Messaging.Example.id Example.lateAck.2.store :=
  ⟨Example.lateAck_run, Example.lateAck_done, Example.uncompensated_failedStore,
    Example.not_consistent_lateAck⟩

theorem consistent_iff_lateAck : Hides Messaging.Example.id (outcomes Example.lateAck.1) := by
  by_contra hhides
  exact Example.not_consistent_lateAck ((consistent_iff Example.lateAck_run Example.lateAck_done
    Example.uncompensated_failedStore).mpr hhides)

end MipitCore.Compensation
