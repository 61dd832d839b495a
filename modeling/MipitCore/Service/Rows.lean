import MipitCore.Foundation.Trace
import MipitCore.Service.Calls

/-!
# Calls, payments and audit events

A method of `PaymentRepository` that succeeds assigns to the columns of one existing row
(`Assigned`), or inserts a new one; every other call leaves the payments as they are.
Rows keep their primary key. The audit trail only grows, by the events that are logged.

## Main definitions

* `Assigned` — one row was updated
* `Call.isPaymentsWrite`, `Call.assign`, `Call.railAckWrite`, `Call.logged`
* `isEvent`, `records`, `recorded` — counting audit events
* `WritesColumn`, `Call.writeTo`, `written` — the columns of a row
* `Completed`, `statusWrites` — what a trace says
* `Keyed` — rows are stored under their own identifier

## Main results

* `assigned_updateStatus` and its siblings, `inserted_create`
* `inserted_log`, `audit_of_answer`
* `payments_cases`, `column_of_answer`, `railAck_of_answer` — what a call can do to the payments
* `rows_of_faulty`, `keyed_of_faulty`, `keyed_run`
* `recorded_run` — the audit trail of an interleaving
* `status_of_run`, `audit_of_run` — the store after a program that ran alone
-/

namespace MipitCore

open Js Foundation Persistence

/-- The row that `v` names was updated by `assign` and is the answer; nothing else changed. -/
def Assigned (v : JsValue) (assign : PaymentRow → PaymentRow) (s : Store) (answer : PaymentRow)
    (t : Store) : Prop :=
  ∃ id row, v = .string id ∧ s.payments id = some row ∧ answer = assign row ∧
    t = { s with payments := Function.update s.payments id (some (assign row)) }

/-- The methods of `PaymentRepository` that write. -/
def Call.isPaymentsWrite : Call → Bool
  | .create _ | .updateStatus _ _ | .updateCanonical _ _ _ | .updateRoute _ _ _ _
  | .updateTranslated _ _ | .updateRailAck _ _ _ => true
  | _ => false

/-- The row that a call updates, at time `now`, and what it assigns. -/
def Call.assign (now : ℕ) : Call → Option (JsValue × (PaymentRow → PaymentRow))
  | .updateStatus id status => some (id, assignStatus now status)
  | .updateCanonical id canonical status => some (id, assignCanonical now canonical status)
  | .updateRoute id dest rule status => some (id, assignRoute now dest rule status)
  | .updateTranslated id translated => some (id, assignTranslated now translated)
  | .updateRailAck id railAck status => some (id, assignRailAck now railAck status)
  | _ => none

/-- What a call stores as the rail's answer to the payment `id`, if it succeeds. -/
def Call.railAckWrite (id : Text) : Call → Option JsValue
  | .updateRailAck (.string s) railAck _ => if s = id then some railAck else none
  | _ => none

/-- The stored answer of the rail to a payment. -/
def Store.railAck (s : Store) (id : Text) : Option JsValue :=
  (s.payments id).bind fun row => row.railAck

/-- The audit event that a call records. -/
def Call.logged : Call → Option AuditEvent
  | .log event => some event
  | _ => none

/-- Rows are stored under their primary key. -/
def Keyed (payments : Payments) : Prop :=
  ∀ id row, payments id = some row → row.paymentId = id

/-- The event is of the type and about the payment. -/
def isEvent (p : Text) (eventType : String) (event : AuditEvent) : Bool :=
  event.eventType = eventType && match event.paymentId with
    | .string id => decide (id = p)
    | _ => false

/-- An event of the type was recorded for the payment. -/
def records (p : Text) (eventType : String) : CallOutcome → Bool
  | ⟨.log event, .ok _⟩ => isEvent p eventType event
  | _ => false

/-- The audit events of a type that the store has about a payment. -/
def recorded (p : Text) (eventType : String) (s : Store) : ℕ := s.audit.countP (isEvent p eventType)

section Rows

variable {W : Collaborators} {c : Call} {s t : Store} {v : JsValue} {answer : PaymentRow}

theorem Assigned.of_checked {check : Except Failure Text} {assign : PaymentRow → PaymentRow}
    (h : s.onPayments (checked check fun id => updateRow id assign) = (.ok answer, t))
    (hcheck : ∀ id, check = .ok id → v = .string id) : Assigned v assign s answer t := by
  obtain ⟨id, row, hid, hrow, hanswer, ht⟩ := onPayments_ok h
  exact ⟨id, row, hcheck id hid, hrow, hanswer, ht⟩

theorem assigned_updateStatus {status : PaymentStatus}
    (h : Call.answer W (.updateStatus v status) s (.ok answer) t) :
    Assigned v (assignStatus s.now status) s answer t :=
  Assigned.of_checked h fun id hid => by
    obtain ⟨_, hid', hid⟩ := bind_eq_ok.mp hid
    obtain ⟨_, -, hid⟩ := bind_eq_ok.mp hid
    cases hid
    exact requireText_ok hid'

theorem assigned_updateCanonical {canonical : CanonicalPacs008} {status : PaymentStatus}
    (h : Call.answer W (.updateCanonical v canonical status) s (.ok answer) t) :
    Assigned v (assignCanonical s.now canonical status) s answer t :=
  Assigned.of_checked h fun _ hid => requireText_ok hid

theorem assigned_updateRoute {dest rule : Text} {status : PaymentStatus}
    (h : Call.answer W (.updateRoute v dest rule status) s (.ok answer) t) :
    Assigned v (assignRoute s.now dest rule status) s answer t :=
  Assigned.of_checked h fun id hid => by
    obtain ⟨_, hid', hid⟩ := bind_eq_ok.mp hid
    obtain ⟨_, -, hid⟩ := bind_eq_ok.mp hid
    obtain ⟨_, -, hid⟩ := bind_eq_ok.mp hid
    cases hid
    exact requireText_ok hid'

theorem assigned_updateTranslated {translated : JsValue}
    (h : Call.answer W (.updateTranslated v translated) s (.ok answer) t) :
    Assigned v (assignTranslated s.now translated) s answer t :=
  Assigned.of_checked h fun id hid => by
    obtain ⟨_, hid', hid⟩ := bind_eq_ok.mp hid
    split at hid
    · cases hid
      exact requireText_ok hid'
    · cases hid

theorem assigned_updateRailAck {railAck : JsValue} {status : PaymentStatus}
    (h : Call.answer W (.updateRailAck v railAck status) s (.ok answer) t) :
    Assigned v (assignRailAck s.now railAck status) s answer t :=
  Assigned.of_checked h fun id hid => by
    obtain ⟨_, hid', hid⟩ := bind_eq_ok.mp hid
    split at hid
    · obtain ⟨_, -, hid⟩ := bind_eq_ok.mp hid
      cases hid
      exact requireText_ok hid'
    · cases hid

theorem inserted_create {p : NewPayment} (h : Call.answer W (.create p) s (.ok answer) t) :
    s.payments p.paymentId = none ∧ answer.toNewPayment = p ∧
      t = { s with payments := Function.update s.payments p.paymentId (some answer) } := by
  obtain ⟨hout, rfl⟩ := Prod.mk.inj h
  simp only [Persistence.create] at hout ⊢
  cases hrow : s.payments p.paymentId with
  | some row => simp [hrow] at hout
  | none =>
    simp only [hrow] at hout
    cases hout
    exact ⟨rfl, rfl, rfl⟩

theorem inserted_log {event : AuditEvent}
    (h : Call.answer W (.log event) s (.ok ()) t) :
    t = { s with audit := s.audit ++ [event] } := by
  obtain ⟨hout, rfl⟩ := Prod.mk.inj h
  rcases hinsert : insertAudit event s.audit with ⟨r, table⟩
  rw [hinsert] at hout
  obtain rfl : r = .ok () := hout
  obtain ⟨_, -, htable⟩ := checked_ok hinsert
  rw [(Prod.mk.inj htable).2]

/-- A call that succeeds records its audit event, if it has one. -/
theorem audit_of_answer {a : c.Result} (h : Call.answer W c s (.ok a) t) :
    t.audit = s.audit ++ c.logged.toList := by
  have hchanges := changes_of_answer h
  cases c with
  | log event => rw [inserted_log h, Call.logged, Option.toList_some]
  | create | updateStatus | updateCanonical | updateRoute | updateTranslated | updateRailAck
  | publishToAdapter | tryInsert | updateResponse =>
    obtain ⟨_, rfl⟩ := hchanges
    simp [Call.logged]
  | _ =>
    obtain rfl : t = s := hchanges
    simp [Call.logged]

/-- Calls other than those writes leave the payments as they are. -/
theorem payments_of_answer {r : Except Failure c.Result} (h : Call.answer W c s r t)
    (hc : c.isPaymentsWrite = false) : t.payments = s.payments := by
  have hchanges := changes_of_answer h
  cases c with
  | create | updateStatus | updateCanonical | updateRoute | updateTranslated | updateRailAck =>
    cases hc
  | log | publishToAdapter | tryInsert | updateResponse =>
    obtain ⟨_, rfl⟩ := hchanges
    rfl
  | _ => rw [hchanges]

/-- **What a successful call does to the payments.** -/
theorem payments_cases {a : c.Result} (h : Call.answer W c s (.ok a) t) :
    (∃ p row, c = .create p ∧ s.payments p.paymentId = none ∧ row.toNewPayment = p ∧
        t.payments = Function.update s.payments p.paymentId (some row)) ∨
      (∃ v assign row, c.assign s.now = some (v, assign) ∧ Assigned v assign s row t) ∨
      (c.assign s.now = none ∧ t.payments = s.payments) := by
  cases c with
  | create p =>
    obtain ⟨hnone, hrow, rfl⟩ := inserted_create h
    exact Or.inl ⟨p, a, rfl, hnone, hrow, rfl⟩
  | updateStatus v status =>
    exact Or.inr (Or.inl ⟨_, _, _, rfl, assigned_updateStatus h⟩)
  | updateCanonical v canonical status =>
    exact Or.inr (Or.inl ⟨_, _, _, rfl, assigned_updateCanonical h⟩)
  | updateRoute v dest rule status =>
    exact Or.inr (Or.inl ⟨_, _, _, rfl, assigned_updateRoute h⟩)
  | updateTranslated v translated =>
    exact Or.inr (Or.inl ⟨_, _, _, rfl, assigned_updateTranslated h⟩)
  | updateRailAck v railAck status =>
    exact Or.inr (Or.inl ⟨_, _, _, rfl, assigned_updateRailAck h⟩)
  | _ => exact Or.inr (Or.inr ⟨rfl, payments_of_answer h rfl⟩)

/-- A column of the row `id`, if there is one. -/
def Store.column {β : Type} (get : PaymentRow → Option β) (s : Store) (id : Text) : Option β :=
  (s.payments id).bind get

/-- `write` says what a call writes to a column of the row `id`, if it succeeds; new rows do not
have the column. -/
structure WritesColumn {β : Type} (get : PaymentRow → Option β) (write : Text → Call → Option β) :
    Prop where
  named : ∀ {c now id assign}, c.assign now = some (.string id, assign) →
    ∀ row, get (assign row) = (write id c).or (get row)
  unnamed : ∀ {c now v assign id}, c.assign now = some (v, assign) → v ≠ .string id →
    write id c = none
  other : ∀ {c : Call} {now id}, c.assign now = none → write id c = none
  new : ∀ {p t row}, (Persistence.create p t).1 = .ok row → get row = none

/-- What a call writes to a column of the row `id`, if it names that row: its value for it. -/
def Call.writeTo {β : Type} (value : Call → Option β) (id : Text) (c : Call) : Option β :=
  match c.assign 0 with
  | some (.string s, _) => if s = id then value c else none
  | _ => none

theorem Call.writeTo_eq_some {β : Type} {value : Call → Option β} {id : Text} {c : Call} {x : β} :
    c.writeTo value id = some x ↔
      (∃ assign, c.assign 0 = some (.string id, assign)) ∧ value c = some x := by
  unfold Call.writeTo
  split
  · next s assign hassign =>
    by_cases hs : s = id
    · subst hs
      simp [hassign]
    · simp [hassign, hs]
  · next hassign =>
    refine iff_of_false nofun ?_
    rintro ⟨⟨assign, heq⟩, -⟩
    exact hassign id assign heq

/-- A column is described by the values that calls have for it. -/
theorem WritesColumn.of_values {β : Type} {get : PaymentRow → Option β} {value : Call → Option β}
    (named : ∀ (c : Call) now v assign, c.assign now = some (v, assign) →
      ∀ row, get (assign row) = (value c).or (get row))
    (new : ∀ {p t row}, (Persistence.create p t).1 = .ok row → get row = none) :
    WritesColumn get (Call.writeTo value) where
  named := by
    intro c now id assign h row
    have hwrite : c.writeTo value id = value c := by
      cases c <;> cases h <;> exact if_pos rfl
    rw [named c now _ assign h row, hwrite]
  unnamed := by
    intro c now v assign id h hne
    cases v with
    | string s =>
      have hs : s ≠ id := fun heq => hne (by rw [heq])
      cases c <;> cases h <;> exact if_neg hs
    | _ => cases c <;> cases h <;> rfl
  other := by
    intro c now id h
    cases c <;> cases h <;> rfl
  new := new

/-- **What a successful call does to a column** of a row. -/
theorem column_of_answer {β : Type} {get : PaymentRow → Option β} {write : Text → Call → Option β}
    (hcolumn : WritesColumn get write) {a : c.Result} (h : Call.answer W c s (.ok a) t) (id : Text) :
    t.column get id = (write id c).or (s.column get id) := by
  rcases payments_cases h with ⟨p, row, rfl, hnone, -, ht⟩ |
    ⟨v, assign, row, hassign, id', old, rfl, hold, -, rfl⟩ | ⟨hassign, ht⟩
  · rw [hcolumn.other (show (Call.create p).assign s.now = none from rfl), Option.none_or]
    by_cases hid : id = p.paymentId
    · subst hid
      obtain ⟨hout, -⟩ := Prod.mk.inj h
      have hrow : t.payments p.paymentId = some a := by
        rw [(inserted_create h).2.2]
        exact Function.update_self _ _ _
      rw [Store.column, hrow, Store.column, hnone]
      exact hcolumn.new hout
    · rw [Store.column, ht, Function.update_of_ne hid, Store.column]
  · by_cases hid : id' = id
    · subst hid
      simp [Store.column, hold, hcolumn.named hassign]
    · rw [hcolumn.unnamed hassign fun heq => hid (JsValue.string.inj heq), Option.none_or]
      simp [Store.column, Function.update_of_ne (Ne.symm hid)]
  · rw [hcolumn.other hassign, Option.none_or, Store.column, ht, Store.column]

/-- What a call wrote, if it succeeded. -/
def written {β : Type} (write : Call → Option β) : CallOutcome → Option β
  | ⟨c, .ok _⟩ => write c
  | ⟨_, .error _⟩ => none

theorem column_of_faulty {β : Type} {get : PaymentRow → Option β} {write : Text → Call → Option β}
    (hcolumn : WritesColumn get write) {r : Except Failure c.Result} (h : Call.faulty W c s r t)
    (id : Text) : t.column get id = (written (write id) ⟨c, r⟩).or (s.column get id) := by
  rcases faulty_cases h with ⟨a, rfl, hanswer⟩ | ⟨⟨e, rfl⟩, rfl⟩
  · exact column_of_answer hcolumn hanswer id
  · rfl

theorem status_of_faulty {r : Except Failure c.Result} (h : Call.faulty W c s r t) (id : Text) :
    t.status id = (written (Call.statusWrite id) ⟨c, r⟩).or (s.status id) := by
  rcases faulty_cases h with ⟨a, rfl, hanswer⟩ | ⟨⟨e, rfl⟩, rfl⟩
  · exact status_of_answer hanswer id
  · rfl

theorem audit_of_faulty {r : Except Failure c.Result} (h : Call.faulty W c s r t) :
    t.audit = s.audit ++ (written Call.logged ⟨c, r⟩).toList := by
  rcases faulty_cases h with ⟨a, rfl, hanswer⟩ | ⟨⟨e, rfl⟩, rfl⟩
  · exact audit_of_answer hanswer
  · exact (List.append_nil _).symm

/-- Only `updateRailAck` stores the answer of a rail. -/
theorem writes_railAck : WritesColumn PaymentRow.railAck Call.railAckWrite where
  named := by
    intro c now id assign h row
    cases c <;> cases h <;>
      simp [Call.railAckWrite, assignStatus, assignCanonical, assignRoute, assignTranslated,
        assignRailAck]
  unnamed := by
    intro c now v assign id h hne
    cases c <;> cases h <;> try rfl
    cases v with
    | string s => exact if_neg fun heq : s = id => hne (by rw [heq])
    | _ => rfl
  other := by
    intro c now id h
    cases c <;> cases h <;> rfl
  new := by
    intro p t row h
    exact (create_ok h).2.2.2.2.1

/-- **What a successful call does to the answers of rails**: only `updateRailAck` stores one. -/
theorem railAck_of_answer {a : c.Result} (h : Call.answer W c s (.ok a) t) (id : Text) :
    t.railAck id = (c.railAckWrite id).or (s.railAck id) := column_of_answer writes_railAck h id

/-- A property of rows that every new row has and every update keeps, is kept by a call. -/
theorem rows_of_faulty {P : Text → PaymentRow → Prop} {r : Except Failure c.Result}
    (h : Call.faulty W c s r t) (hs : ∀ id row, s.payments id = some row → P id row)
    (hcreate : ∀ p row, c = .create p → row.toNewPayment = p → P p.paymentId row)
    (hupdate : ∀ v assign id row, c.assign s.now = some (v, assign) → r.isOk = true →
      v = .string id → s.payments id = some row → P id (assign row)) :
    ∀ id row, t.payments id = some row → P id row := by
  rcases faulty_cases h with ⟨a, rfl, hanswer⟩ | ⟨-, rfl⟩
  · rcases payments_cases hanswer with ⟨p, row', rfl, -, hrow', ht⟩ |
      ⟨v, assign, row', hassign, id', old, hv, hold, -, rfl⟩ | ⟨-, ht⟩
    · intro id row hrow
      rw [ht] at hrow
      by_cases hid : id = p.paymentId
      · subst hid
        rw [Function.update_self] at hrow
        cases hrow
        exact hcreate p row' rfl hrow'
      · rw [Function.update_of_ne hid] at hrow
        exact hs id row hrow
    · intro id row hrow
      dsimp only at hrow
      by_cases hid : id = id'
      · subst hid
        rw [Function.update_self] at hrow
        cases hrow
        exact hupdate v assign id old hassign rfl hv hold
      · rw [Function.update_of_ne hid] at hrow
        exact hs id row hrow
    · rwa [ht]
  · exact hs

/-- Rows keep their primary key. -/
theorem keyed_of_faulty {r : Except Failure c.Result} (h : Call.faulty W c s r t)
    (hs : Keyed s.payments) : Keyed t.payments := by
  refine rows_of_faulty h hs ?_ ?_
  · intro p row _ hrow
    rw [← hrow]
  · intro v assign id row hassign _ _ hrow
    have hkey := hs id row hrow
    cases c <;> cases hassign <;> exact hkey

theorem keyed_run {ι α : Type} [DecidableEq ι] {x d : Config Store ι (Service α)}
    {path : List (Transition (Config Store ι (Service α)) (Option (ι × CallOutcome)))}
    (h : (Program.processes (fun _ => Call.faulty W) Tick).toLTS.Run x path d)
    (hx : Keyed x.store.payments) : Keyed d.store.payments := by
  refine h.invariant (I := fun d => Keyed d.store.payments) hx ?_
  intro c l d hc hstep
  rcases Program.processes_cases hstep with ⟨i, k, next, r, -, -, hcall, -⟩ | ⟨-, htick, -⟩
  · exact keyed_of_faulty hcall hc
  · obtain ⟨now, -, hstore⟩ := htick
    rwa [hstore]

/-- A call records an event exactly if it is a successful insert of it. -/
theorem recorded_of_faulty {r : Except Failure c.Result} (h : Call.faulty W c s r t) (p : Text)
    (eventType : String) :
    recorded p eventType t =
      recorded p eventType s + if records p eventType ⟨c, r⟩ = true then 1 else 0 := by
  rcases faulty_cases h with ⟨a, rfl, hanswer⟩ | ⟨⟨e, rfl⟩, rfl⟩
  · rw [recorded, audit_of_answer hanswer, List.countP_append]
    cases c with
    | log event =>
      rw [Call.logged, Option.toList_some, List.countP_singleton]
      rfl
    | _ => simp [recorded, Call.logged, records]
  · cases c <;> simp [records]

theorem tick_audit {s t : Store} (h : Tick s t) : t.audit = s.audit := by
  obtain ⟨now, -, rfl⟩ := h
  rfl

/-- The audit trail has the events that an interleaving has recorded. -/
theorem recorded_run {ι α : Type} [DecidableEq ι] {I : ι → Interp Call Call.Result Failure Store}
    {environment : Store → Store → Prop} {x d : Config Store ι (Service α)}
    {path : List (Transition (Config Store ι (Service α)) (Option (ι × CallOutcome)))}
    (hI : ∀ i c s r t, I i c s r t → Call.faulty W c s r t)
    (henv : ∀ {s t}, environment s t → t.audit = s.audit)
    (h : (Program.processes I environment).toLTS.Run x path d) (p : Text) (eventType : String) :
    recorded p eventType d.store = recorded p eventType x.store +
      (Program.outcomes path).countP fun l => records p eventType l.2 := by
  refine h.induct (I := fun path d => recorded p eventType d.store =
    recorded p eventType x.store + (Program.outcomes path).countP fun l => records p eventType l.2)
    (by simp) ?_
  intro path d l e _ ih hstep
  rcases Program.processes_cases hstep with ⟨i, k, next, r, -, rfl, hcall, -⟩ | ⟨rfl, hmove, -⟩
  · rw [recorded_of_faulty (hI _ _ _ _ _ hcall), ih, Program.outcomes_append,
      Program.outcomes_call, List.countP_append, List.countP_singleton, Nat.add_assoc]
  · rw [Program.outcomes_append, Program.outcomes_environment, List.append_nil, recorded,
      henv hmove]
    exact ih

end Rows

/-! ### Programs that run alone -/

/-- The call was made and succeeded. -/
def Completed (c : Call) (trace : List CallOutcome) : Prop := ∃ a, ⟨c, .ok a⟩ ∈ trace

/-- The statuses that a trace has assigned to the row `id`. -/
def statusWrites (id : Text) (trace : List CallOutcome) : List PaymentStatus :=
  trace.filterMap (written (Call.statusWrite id))

theorem statusWrites_append (id : Text) (trace more : List CallOutcome) :
    statusWrites id (trace ++ more) = statusWrites id trace ++ statusWrites id more :=
  List.filterMap_append

@[simp] theorem statusWrites_nil (id : Text) : statusWrites id [] = [] := rfl

@[simp] theorem statusWrites_cons_ok (id : Text) (c : Call) (a : c.Result)
    (trace : List CallOutcome) :
    statusWrites id (⟨c, .ok a⟩ :: trace) = (c.statusWrite id).toList ++ statusWrites id trace := by
  cases h : c.statusWrite id <;> simp [statusWrites, written, h]

@[simp] theorem statusWrites_cons_error (id : Text) (c : Call) (e : Failure)
    (trace : List CallOutcome) :
    statusWrites id (⟨c, .error e⟩ :: trace) = statusWrites id trace := rfl

section Alone

variable {W : Collaborators} {α : Type} {f : Service α} {r : Except Failure α}
  {s t : Recorded Store CallOutcome}

/-- A payment has the status that was assigned last. -/
theorem status_of_run (h : f.Eval (Program.traced (Call.faulty W)) s r t) (hs : s.history = [])
    (id : Text) : t.store.status id = (statusWrites id t.history).getLast?.or (s.store.status id) := by
  obtain ⟨trace, htrace, hlast⟩ := Program.observe_eval_last (f := fun s : Store => s.status id)
    (fun _ _ _ _ hcall => status_of_faulty hcall id) h
  rw [hs, List.nil_append] at htrace
  subst htrace
  exact hlast

/-- The audit trail has the events of the calls that succeeded. -/
theorem audit_of_run (h : f.Eval (Program.traced (Call.faulty W)) s r t) (hs : s.history = []) :
    t.store.audit = s.store.audit ++ t.history.filterMap (written Call.logged) := by
  obtain ⟨trace, htrace, haudit⟩ := Program.observe_eval (f := Store.audit)
    (g := fun o audit => audit ++ (written Call.logged o).toList)
    (fun _ _ _ _ hcall => audit_of_faulty hcall) h
  rw [hs, List.nil_append] at htrace
  subst htrace
  rw [haudit]
  generalize s.store.audit = audit
  induction t.history generalizing audit with
  | nil => simp
  | cons o os ih => cases ho : written Call.logged o <;> simp [ho, ih]

end Alone

/-- What a call does on a host, with its outcome in the trace. -/
def Call.respondTraced (host : Host) (c : Call) (s : Recorded Store CallOutcome) :
    Except Failure c.Result × Recorded Store CallOutcome :=
  ((c.respond host s.store).1,
    ⟨(c.respond host s.store).2, s.history ++ [⟨c, (c.respond host s.store).1⟩]⟩)

theorem traced_respondTraced (host : Host) (c : Call) (s : Recorded Store CallOutcome) :
    Program.traced (Call.faulty host.collaborators) c s (c.respondTraced host s).1
      (c.respondTraced host s).2 :=
  ⟨Or.inl (Call.answer_respond host c s.store), rfl⟩

end MipitCore
