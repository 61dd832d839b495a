import MipitCore.Service.Provenance
import MipitCore.Service.Records

/-!
# Who writes to a row

In a run of the service, whatever activities there are, a completed update is never undone:
its columns keep a value (`filled_run`), and a payment stays what it was created as
(`created_run`). A row has one creator, and only the creator translates and routes it, once;
so the columns that this writes have what it wrote (`column_once`), and in a row that was
there before the run they do not change (`column_kept`).

## Main definitions

* `Call.Fills` — an update that leaves a value in a column
* `WrittenOnce` — columns that only the creator of a row writes

## Main results

* `taken_run` — an outcome in a run, and what came before and after it
* `filled_run`, `created_run`, `found_run` — what a completed call leaves for good
* `creator_unique` — a row has one creator
* `allowed_at` — the calls of a run are made in the order of their activities
* `column_once`, `column_kept` — columns with one writer
-/

namespace MipitCore

open Js Foundation Persistence Program

/-- Whatever row the call updates, the column has a value afterwards. -/
def Call.Fills (c : Call) (column : PaymentRow → Bool) : Prop :=
  ∀ now v assign, c.assign now = some (v, assign) → ∀ row, column (assign row) = true

section Runs

variable {ι : Type} [DecidableEq ι] {W : Collaborators} {c d : Config Store ι (Service Unit)}
  {path : List (ServiceStep ι)}

/-- An outcome in a run: the run before it, its call, and the run after it. -/
theorem taken_run (h : (service W ι).toLTS.Run c path d) {i : ι} {o : CallOutcome}
    (ho : (i, o) ∈ outcomes path) : ∃ before e after, path = before ++ e :: after ∧
      e.label = some (i, o) ∧ (service W ι).toLTS.Run c before e.source ∧
      Call.faulty W o.call e.source.store o.result e.target.store ∧
      (service W ι).toLTS.Run e.target after d := by
  obtain ⟨e, he, hlabel⟩ := mem_outcomes.mp ho
  obtain ⟨before, after, rfl⟩ := List.append_of_mem he
  obtain ⟨hbefore, hstep, hafter⟩ := h.split
  rcases processes_cases hstep with ⟨j, k, next, r, -, hl, hcall, -⟩ | ⟨hl, -, -⟩
  · obtain ⟨rfl, rfl⟩ := Prod.mk.inj (Option.some.inj (hlabel.symm.trans hl))
    exact ⟨before, e, after, rfl, hlabel, hbefore, hcall, hafter⟩
  · cases hlabel.symm.trans hl

/-- **A completed update leaves its columns filled for good.** -/
theorem filled_run (h : (service W ι).toLTS.Run c path d) {i : ι} {k : Call} {a : k.Result}
    (ho : (i, ⟨k, .ok a⟩) ∈ outcomes path) {v : JsValue} {assign : PaymentRow → PaymentRow}
    (hassign : k.assign 0 = some (v, assign)) :
    ∃ id row, v = .string id ∧ d.store.payments id = some row ∧
      ∀ column ∈ PaymentRow.columns, k.Fills column → column row = true := by
  obtain ⟨before, e, after, rfl, -, -, hcall, hafter⟩ := taken_run h ho
  rcases faulty_cases hcall with ⟨a', -, hanswer⟩ | ⟨⟨err, herr⟩, -⟩
  · rcases payments_cases hanswer with ⟨p, row', rfl, -, -, -⟩ |
      ⟨v', assign', row', hassign', id, old, rfl, hold, -, ht⟩ | ⟨hnone, -⟩
    · cases hassign
    · obtain rfl : v = .string id := by
        cases k <;> cases hassign <;> cases hassign' <;> rfl
      have hrow : e.target.store.payments id = some (assign' old) := by
        rw [ht]
        exact Function.update_self _ _ _
      obtain ⟨row, hrow', hextends⟩ := kept_run hafter hrow
      exact ⟨id, row, rfl, hrow', fun column hcolumn hfills =>
        hextends.filled column hcolumn (hfills _ _ _ hassign' old)⟩
    · cases k <;> cases hassign <;> cases hnone
  · cases herr

/-- A payment that was created stays what it was created as. -/
theorem created_run (h : (service W ι).toLTS.Run c path d) {i : ι} {q : NewPayment} {a : PaymentRow}
    (ho : (i, ⟨.create q, .ok a⟩) ∈ outcomes path) :
    ∃ row, d.store.payments q.paymentId = some row ∧
      row.identity = { q with status := .received } := by
  obtain ⟨before, e, after, rfl, -, -, hcall, hafter⟩ := taken_run h ho
  rcases faulty_cases hcall with ⟨a', -, hanswer⟩ | ⟨⟨err, herr⟩, -⟩
  · obtain ⟨-, hpayment, ht⟩ := inserted_create hanswer
    have hrow : e.target.store.payments q.paymentId = some a' := by
      rw [ht]
      exact Function.update_self _ _ _
    obtain ⟨row, hrow', hextends⟩ := kept_run hafter hrow
    exact ⟨row, hrow', hextends.identity.trans (by simp only [PaymentRow.identity, hpayment])⟩
  · cases herr

/-- A row that was read, in the state that it was read in. -/
theorem found_at (h : (service W ι).toLTS.Run c path d) {i : ι} {id : Text} {row : PaymentRow}
    (ho : (i, ⟨.findById (.string id), .ok (some row)⟩) ∈ outcomes path) :
    ∃ before after m, path = before ++ after ∧ (service W ι).toLTS.Run c before m ∧
      m.store.payments id = some row ∧ (service W ι).toLTS.Run m after d := by
  obtain ⟨before, e, after, rfl, -, hbefore, hcall, -⟩ := taken_run h ho
  obtain ⟨-, hstep, hafter⟩ := h.split
  rcases faulty_cases hcall with ⟨a', ha, hanswer⟩ | ⟨⟨err, herr⟩, -⟩
  · obtain rfl := Except.ok.inj ha
    obtain ⟨hfound, -⟩ := hanswer
    obtain ⟨id', hid, hrow⟩ := bind_eq_ok.mp hfound.symm
    cases requireText_ok hid
    exact ⟨before, e :: after, e.source, rfl, hbefore, Except.ok.inj hrow, hafter.cons hstep⟩
  · cases herr

/-- A row that was read is extended by what is there later. -/
theorem found_run (h : (service W ι).toLTS.Run c path d) {i : ι} {id : Text} {row : PaymentRow}
    (ho : (i, ⟨.findById (.string id), .ok (some row)⟩) ∈ outcomes path) :
    ∃ row', d.store.payments id = some row' ∧ Extends row row' := by
  obtain ⟨before, after, m, -, -, hrow, hafter⟩ := found_at h ho
  exact kept_run hafter hrow

theorem Credible.answer {k : Call} {a : k.Result} (h : Credible W ⟨k, .ok a⟩) :
    ∃ s t, Call.answer W k s (.ok a) t := by
  obtain ⟨s, t, hcall⟩ := h
  rcases faulty_cases hcall with ⟨a', ha, hanswer⟩ | ⟨⟨e, he⟩, -⟩
  · obtain rfl := Except.ok.inj ha
    exact ⟨s, t, hanswer⟩
  · cases he

/-- Nobody creates a row that is there. -/
theorem not_created (h : (service W ι).toLTS.Run c path d) {q : NewPayment} {row : PaymentRow}
    (hrow : c.store.payments q.paymentId = some row) {i : ι} {a : PaymentRow} :
    (i, ⟨.create q, .ok a⟩) ∉ outcomes path := by
  intro ho
  obtain ⟨before, e, after, rfl, -, hbefore, hcall, -⟩ := taken_run h ho
  obtain ⟨row', hrow', -⟩ := kept_run hbefore hrow
  rcases faulty_cases hcall with ⟨a', -, hanswer⟩ | ⟨⟨err, herr⟩, -⟩
  · rw [(inserted_create hanswer).1] at hrow'
    cases hrow'
  · cases herr

/-- **A row has one creator.** -/
theorem creator_unique (h : (service W ι).toLTS.Run c path d) {i j : ι} {q q' : NewPayment}
    {a a' : PaymentRow} (hid : q.paymentId = q'.paymentId)
    (ho : (i, ⟨.create q, .ok a⟩) ∈ outcomes path)
    (ho' : (j, ⟨.create q', .ok a'⟩) ∈ outcomes path) :
    i = j ∧ q = q' := by
  obtain ⟨before, e, after, rfl, hlabel, hbefore, hcall, hafter⟩ := taken_run h ho
  rcases faulty_cases hcall with ⟨a'', -, hanswer⟩ | ⟨⟨err, herr⟩, -⟩
  · obtain ⟨hnone, -, ht⟩ := inserted_create hanswer
    rw [outcomes_append, List.mem_append] at ho'
    rcases ho' with ho' | ho'
    · -- an earlier creation would have left the row
      obtain ⟨row, hrow, -⟩ := created_run hbefore ho'
      rw [← hid, hnone] at hrow
      cases hrow
    · obtain ⟨e', he', hlabel'⟩ := mem_outcomes.mp ho'
      rcases List.mem_cons.mp he' with rfl | he'
      · cases hlabel.symm.trans hlabel'
        exact ⟨rfl, rfl⟩
      · -- and a later one finds it
        have hrow : e.target.store.payments q'.paymentId = some a'' := by
          rw [ht, ← hid]
          exact Function.update_self _ _ _
        exact absurd (mem_outcomes.mpr ⟨e', he', hlabel'⟩) (not_created hafter hrow)
  · cases herr

end Runs

/-! ### Columns with one writer -/

/-- Only the creator of a row has a value for the column, and only once. -/
def WrittenOnce {β : Type} (value : Call → Option β) : Prop :=
  ∀ (activity : Activity) (h : List CallOutcome) (k : Call) (id : Text) (x : β),
    activity.Allows h k → k.writeTo value id = some x →
      (∃ q : NewPayment, q.paymentId = id ∧ Completed (.create q) h) ∧ ∀ o ∈ h, value o.call = none

theorem canonical_once : WrittenOnce Pipeline.canonicalOf := by
  intro activity h k id x hallows hx
  obtain ⟨status, rfl⟩ := Pipeline.writeTo_canonicalOf.mp hx
  cases activity with
  | pipeline request context draws =>
    obtain ⟨originRail, -, hv, hcreated, hnone⟩ := hallows
    exact ⟨⟨_, (JsValue.string.inj hv).symm, hcreated⟩, hnone⟩
  | _ => exact hallows.elim

theorem route_once {β : Type} (get : RouteResult → β) :
    WrittenOnce fun k => (Pipeline.routeOf k).map get := by
  intro activity h k id x hallows hx
  obtain ⟨destination, ruleName, status, -, rfl⟩ := Pipeline.writeTo_routeOf.mp hx
  cases activity with
  | pipeline request context draws =>
    obtain ⟨originRail, -, hv, hcreated, hnone⟩ := hallows
    exact ⟨⟨_, (JsValue.string.inj hv).symm, hcreated⟩, fun o ho => by simp [hnone o ho]⟩
  | _ => exact hallows.elim

theorem translated_once : WrittenOnce Pipeline.translatedOf := by
  intro activity h k id x hallows hx
  obtain rfl := Pipeline.writeTo_translatedOf.mp hx
  cases activity with
  | pipeline request context draws =>
    obtain ⟨originRail, -, hv, hcreated, hnone⟩ := hallows
    exact ⟨⟨_, (JsValue.string.inj hv).symm, hcreated⟩, hnone⟩
  | _ => exact hallows.elim

section Service

variable {ι : Type} [DecidableEq ι] {W : Collaborators} {case' : CaseMapping} {webhooks : Bool}
  {activities : ι → Activity} {store : Store} {d : Config Store ι (Service Unit)}
  {path : List (ServiceStep ι)}

/-- **Each activity has called before what it must have**, wherever a run is cut. -/
theorem allowed_at {before after : List (ServiceStep ι)} {e : ServiceStep ι} {i : ι}
    {o : CallOutcome}
    (h : (service W ι).toLTS.Run (serviceStart case' webhooks activities store)
      (before ++ e :: after) d)
    (hlabel : e.label = some (i, o)) :
    (activities i).Allows (outcomesOf i before) o.call ∧ Credible W o :=
  ordered_run (P := Credible W)
    (fun _ _ s _ t hcall => ⟨s, t, hcall⟩)
    (fun i => activity_ordered case' webhooks (activities i)) h hlabel

/-- The calls that an outcome in a run needs are in the run. -/
theorem allowed_run
    (h : (service W ι).toLTS.Run (serviceStart case' webhooks activities store) path d)
    {i : ι} {o : CallOutcome} (ho : (i, o) ∈ outcomes path) :
    ∃ history, (∀ o' ∈ history, (i, o') ∈ outcomes path) ∧
      (activities i).Allows history o.call ∧ Credible W o := by
  obtain ⟨before, e, after, rfl, hlabel, -, -, -⟩ := taken_run h ho
  refine ⟨outcomesOf i before, fun o' ho' => ?_, allowed_at h hlabel⟩
  rw [outcomes_append]
  exact List.mem_append_left _ (mem_outcomesOf.mp ho')

/-- Who writes to a column with one writer has created the row, and has not written before. -/
theorem writer_at {β : Type} {value : Call → Option β} (honce : WrittenOnce value)
    {before after : List (ServiceStep ι)} {e : ServiceStep ι} {i : ι} {o : CallOutcome}
    (h : (service W ι).toLTS.Run (serviceStart case' webhooks activities store)
      (before ++ e :: after) d)
    (hlabel : e.label = some (i, o)) {id : Text} {x : β}
    (hx : written (Call.writeTo value id) o = some x) :
    (∃ q a, q.paymentId = id ∧ (i, ⟨.create q, .ok a⟩) ∈ outcomes before) ∧
      ∀ o', (i, o') ∈ outcomes before → value o'.call = none := by
  obtain ⟨k, r⟩ := o
  cases r with
  | error err => cases hx
  | ok a =>
    obtain ⟨⟨q, hq, row, hcreated⟩, hnone⟩ := honce _ _ _ _ _ (allowed_at h hlabel).1 hx
    exact ⟨⟨q, row, hq, mem_outcomesOf.mp hcreated⟩,
      fun o' ho' => hnone o' (mem_outcomesOf.mpr ho')⟩

theorem value_of_written {β : Type} {value : Call → Option β} {id : Text} {o : CallOutcome} {x : β}
    (hx : written (Call.writeTo value id) o = some x) : value o.call = some x := by
  obtain ⟨k, r⟩ := o
  cases r with
  | error err => cases hx
  | ok a => exact (Call.writeTo_eq_some.mp hx).2

theorem no_earlier_write {β : Type} {value : Call → Option β} (honce : WrittenOnce value)
    {before after : List (ServiceStep ι)} {e : ServiceStep ι} {i : ι} {o : CallOutcome}
    (h : (service W ι).toLTS.Run (serviceStart case' webhooks activities store)
      (before ++ e :: after) d)
    (hlabel : e.label = some (i, o)) {id : Text} {x : β}
    (hx : written (Call.writeTo value id) o = some x) {j : ι} {o' : CallOutcome}
    (ho' : (j, o') ∈ outcomes before) : written (Call.writeTo value id) o' = none := by
  obtain ⟨⟨q, a, hq, hcreated⟩, hnone⟩ := writer_at honce h hlabel hx
  cases hy : written (Call.writeTo value id) o' with
  | none => rfl
  | some y =>
    obtain ⟨before', e', after', rfl, hlabel', -, -, -⟩ := taken_run h.split.1 ho'
    obtain ⟨⟨q', a', hq', hcreated'⟩, -⟩ := writer_at honce h.split.1 hlabel' hy
    have hcreated' : (j, ⟨.create q', .ok a'⟩) ∈ outcomes (before' ++ e' :: after') := by
      rw [outcomes_append]
      exact List.mem_append_left _ hcreated'
    obtain ⟨rfl, -⟩ := creator_unique h.split.1 (hq.trans hq'.symm) hcreated hcreated'
    have hvalue := hnone o' ho'
    rw [value_of_written hy] at hvalue
    cases hvalue

/-- Two writes to a column with one writer are of one value. -/
theorem writes_agree {β : Type} {value : Call → Option β} (honce : WrittenOnce value)
    (h : (service W ι).toLTS.Run (serviceStart case' webhooks activities store) path d)
    {i j : ι} {o o' : CallOutcome} {id : Text} {x y : β} (ho : (i, o) ∈ outcomes path)
    (hx : written (Call.writeTo value id) o = some x) (ho' : (j, o') ∈ outcomes path)
    (hy : written (Call.writeTo value id) o' = some y) : y = x := by
  obtain ⟨before, e, after, rfl, hlabel, -, -, -⟩ := taken_run h ho
  obtain ⟨e', he', hlabel'⟩ := mem_outcomes.mp ho'
  rcases List.mem_append.mp he' with he' | he'
  · rw [no_earlier_write honce h hlabel hx (mem_outcomes.mpr ⟨e', he', hlabel'⟩)] at hy
    cases hy
  · rcases List.mem_cons.mp he' with rfl | he'
    · cases hlabel.symm.trans hlabel'
      exact Option.some.inj (hy.symm.trans hx)
    · obtain ⟨between, rest, rfl⟩ := List.append_of_mem he'
      rw [← List.cons_append, ← List.append_assoc] at h
      have hmem : (i, o) ∈ outcomes (before ++ e :: between) :=
        mem_outcomes.mpr ⟨e, by simp, hlabel⟩
      rw [no_earlier_write honce h hlabel' hy hmem] at hx
      cases hx

/-- A column has what was written last. -/
theorem column_run {β : Type} {get : PaymentRow → Option β} {value : Call → Option β}
    (hcolumn : WritesColumn get (Call.writeTo value))
    (h : (service W ι).toLTS.Run (serviceStart case' webhooks activities store) path d)
    (id : Text) : d.store.column get id =
      ((outcomes path).filterMap fun l => written (Call.writeTo value id) l.2).getLast?.or
        (store.column get id) :=
  observe_last (f := fun s : Store => s.column get id)
    (g := fun l : ι × CallOutcome => written (Call.writeTo value id) l.2)
    (fun _ _ _ _ _ hcall => column_of_faulty hcolumn hcall id)
    (fun s t htick => by
      obtain ⟨now, -, rfl⟩ := htick
      rfl) h

/-- **A column with one writer has what that wrote.** -/
theorem column_once {β : Type} {get : PaymentRow → Option β} {value : Call → Option β}
    (hcolumn : WritesColumn get (Call.writeTo value)) (honce : WrittenOnce value)
    (h : (service W ι).toLTS.Run (serviceStart case' webhooks activities store) path d)
    {i : ι} {o : CallOutcome} {id : Text} {x : β} (ho : (i, o) ∈ outcomes path)
    (hx : written (Call.writeTo value id) o = some x) : d.store.column get id = some x := by
  rw [column_run hcolumn h id]
  have hmem : x ∈ (outcomes path).filterMap fun l => written (Call.writeTo value id) l.2 :=
    List.mem_filterMap.mpr ⟨(i, o), ho, hx⟩
  obtain ⟨y, hlast⟩ := Option.ne_none_iff_exists'.mp
    (mt List.getLast?_eq_none_iff.mp (List.ne_nil_of_mem hmem))
  obtain ⟨⟨j, o'⟩, ho', hy⟩ := List.mem_filterMap.mp (List.mem_of_getLast? hlast)
  rw [hlast, writes_agree honce h ho hx ho' hy, Option.some_or]

/-- The columns with one writer do not change in a row that was there at the start. -/
theorem column_kept {β : Type} {get : PaymentRow → Option β} {value : Call → Option β}
    (hcolumn : WritesColumn get (Call.writeTo value)) (honce : WrittenOnce value)
    (h : (service W ι).toLTS.Run (serviceStart case' webhooks activities store) path d)
    {id : Text} {row : PaymentRow} (hrow : store.payments id = some row) :
    d.store.column get id = get row := by
  have hnone : ((outcomes path).filterMap fun l => written (Call.writeTo value id) l.2) = [] := by
    refine List.filterMap_eq_nil_iff.mpr fun ⟨i, o⟩ ho => ?_
    cases hx : written (Call.writeTo value id) o with
    | none => rfl
    | some x =>
      obtain ⟨before, e, after, rfl, hlabel, hbefore, -, -⟩ := taken_run h ho
      obtain ⟨⟨q, a, rfl, hcreated⟩, -⟩ := writer_at honce h hlabel hx
      exact absurd hcreated (not_created hbefore hrow)
  rw [column_run hcolumn h id, hnone, List.getLast?_nil, Option.none_or, Store.column, hrow,
    Option.bind_some]

/-- **What a column with one writer has, it keeps.** -/
theorem column_stays {β : Type} {get : PaymentRow → Option β} {value : Call → Option β}
    (hcolumn : WritesColumn get (Call.writeTo value)) (honce : WrittenOnce value)
    {before after : List (ServiceStep ι)} {m : Config Store ι (Service Unit)}
    (h : (service W ι).toLTS.Run (serviceStart case' webhooks activities store)
      (before ++ after) d)
    (hbefore : (service W ι).toLTS.Run (serviceStart case' webhooks activities store) before m)
    {id : Text} {x : β} (hx : m.store.column get id = some x) :
    d.store.column get id = some x := by
  rw [column_run hcolumn hbefore id] at hx
  cases hlast : ((outcomes before).filterMap fun l =>
      written (Call.writeTo value id) l.2).getLast? with
  | none =>
    -- nobody had written to it: it is as it was at the start
    rw [hlast, Option.none_or] at hx
    obtain ⟨row, hrow, hget⟩ := Option.bind_eq_some_iff.mp hx
    rw [column_kept hcolumn honce h hrow, hget]
  | some y =>
    rw [hlast, Option.some_or] at hx
    obtain rfl := Option.some.inj hx
    obtain ⟨o, ho, hwritten⟩ := List.mem_filterMap.mp (List.mem_of_getLast? hlast)
    refine column_once hcolumn honce h (i := o.1) (o := o.2) ?_ hwritten
    rw [outcomes_append]
    exact List.mem_append_left _ ho

end Service

end MipitCore
