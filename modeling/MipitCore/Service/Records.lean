import MipitCore.Service.Activities
import MipitCore.Service.Rows

/-!
# What every run keeps of a payment

Rows of `payments` are inserted once and then updated column by column, by whichever
activity comes next. Whatever the activities are and however their calls interleave, a
row that is there stays there, as the same payment; a column that has a value keeps one
(`kept_run`). The columns that one statement writes together have their values together, and
no time in a row lies after its last update (`recorded_rows`).

## Main definitions

* `PaymentRow.identity`, `PaymentRow.columns`, `Extends` — what stays of a row
* `PaymentRow.times`, `Sound` — what holds of each row

## Main results

* `extends_of_faulty`, `sound_of_faulty` — one call
* `kept_run`, `sound_run` — every run of the service
-/

namespace MipitCore

open Js Foundation Persistence

/-- A payment without its status: what it was created with. -/
def PaymentRow.identity (row : PaymentRow) : NewPayment :=
  { row.toNewPayment with status := .received }

/-- The times in a row, but for that of its last update. -/
def PaymentRow.times : List (PaymentRow → Option ℕ) :=
  [PaymentRow.validatedAt, PaymentRow.canonicalizedAt, PaymentRow.routedAt, PaymentRow.queuedAt,
    PaymentRow.sentAt, PaymentRow.ackedAt, PaymentRow.completedAt, PaymentRow.failedAt,
    PaymentRow.compensatedAt, PaymentRow.deadLetterAt]

/-- The columns that may be null: whether each of them has a value. -/
def PaymentRow.columns : List (PaymentRow → Bool) :=
  [fun row => row.destinationRail.isSome, fun row => row.canonicalPayload.isSome,
    fun row => row.translatedPayload.isSome, fun row => row.railAck.isSome,
    fun row => row.routeRuleApplied.isSome, fun row => row.updatedAt.isSome] ++
  PaymentRow.times.map fun time row => (time row).isSome

theorem time_mem_columns {time : PaymentRow → Option ℕ} (h : time ∈ PaymentRow.times) :
    (fun row => (time row).isSome) ∈ PaymentRow.columns :=
  List.mem_append_right _ (List.mem_map_of_mem h)

/-- The row `row'` is of the same payment, and has a value wherever `row` has one. -/
structure Extends (row row' : PaymentRow) : Prop where
  identity : row'.identity = row.identity
  filled : ∀ column ∈ PaymentRow.columns, column row = true → column row' = true

theorem Extends.refl (row : PaymentRow) : Extends row row := ⟨rfl, fun _ _ h => h⟩

theorem Extends.trans {row row' row'' : PaymentRow} (h : Extends row row')
    (h' : Extends row' row'') : Extends row row'' :=
  ⟨h'.identity.trans h.identity, fun column hcolumn hrow =>
    h'.filled column hcolumn (h.filled column hcolumn hrow)⟩

/-- A row as the statements of the repository leave it: what is written together is there together,
nothing marks a payment as sent, and no time lies after that of the last update, which is not after
`now`. -/
structure Sound (now : ℕ) (row : PaymentRow) : Prop where
  canonical : row.canonicalPayload.isSome = row.canonicalizedAt.isSome
  rule : row.destinationRail.isSome = row.routeRuleApplied.isSome
  routed : row.destinationRail.isSome = row.routedAt.isSome
  acked : row.railAck.isSome = row.ackedAt.isSome
  unsent : row.sentAt = none
  untouched : row.updatedAt = none → row.status = .received
  dated : ∀ time ∈ PaymentRow.times, ∀ m, time row = some m → ∃ n, row.updatedAt = some n ∧ m ≤ n
  updated : ∀ n, row.updatedAt = some n → n ≤ now

section Steps

variable {W : Collaborators} {c : Call} {s t : Store} {r : Except Failure c.Result}

theorem isSome_ite_some {p : Prop} [Decidable p] {n : ℕ} {x : Option ℕ} (h : x.isSome = true) :
    (if p then some n else x).isSome = true := by
  split_ifs
  · rfl
  · exact h

/-- **An update extends its row.** -/
theorem extends_assign {now : ℕ} {v : JsValue} {assign : PaymentRow → PaymentRow}
    (hassign : c.assign now = some (v, assign)) (row : PaymentRow) : Extends row (assign row) := by
  cases c with
  | updateStatus v status =>
    cases hassign
    exact ⟨rfl, by
      simp +contextual [PaymentRow.columns, PaymentRow.times, assignStatus, isSome_ite_some]⟩
  | updateCanonical v canonical status =>
    cases hassign
    exact ⟨rfl, by simp [PaymentRow.columns, PaymentRow.times, assignCanonical]⟩
  | updateRoute v dest rule status =>
    cases hassign
    exact ⟨rfl, by simp [PaymentRow.columns, PaymentRow.times, assignRoute]⟩
  | updateTranslated v translated =>
    cases hassign
    exact ⟨rfl, by simp [PaymentRow.columns, PaymentRow.times, assignTranslated]⟩
  | updateRailAck v railAck status =>
    cases hassign
    exact ⟨rfl, by
      simp +contextual [PaymentRow.columns, PaymentRow.times, assignRailAck, isSome_ite_some]⟩
  | _ => cases hassign

/-- **A call keeps every row**, extending it at most. -/
theorem extends_of_faulty (h : Call.faulty W c s r t) {id : Text} {row : PaymentRow}
    (hrow : s.payments id = some row) : ∃ row', t.payments id = some row' ∧ Extends row row' := by
  rcases faulty_cases h with ⟨a, rfl, hanswer⟩ | ⟨-, rfl⟩
  · rcases payments_cases hanswer with ⟨p, row', rfl, hnone, -, ht⟩ |
      ⟨v, assign, row', hassign, id', old, -, hold, -, rfl⟩ | ⟨-, ht⟩
    · have hid : id ≠ p.paymentId := by
        rintro rfl
        rw [hnone] at hrow
        cases hrow
      exact ⟨row, by rw [ht, Function.update_of_ne hid, hrow], .refl row⟩
    · by_cases hid : id = id'
      · subst hid
        obtain rfl := Option.some.inj (hold.symm.trans hrow)
        exact ⟨assign old, Function.update_self _ _ _, extends_assign hassign old⟩
      · exact ⟨row, by rw [← hrow]; exact Function.update_of_ne hid _ _, .refl row⟩
    · exact ⟨row, by rw [ht, hrow], .refl row⟩
  · exact ⟨row, hrow, .refl row⟩

theorem Sound.mono {now now' : ℕ} {row : PaymentRow} (h : Sound now row) (hnow : now ≤ now') :
    Sound now' row :=
  { h with updated := fun n hn => (h.updated n hn).trans hnow }

/-- An update writes the present time, and no other. -/
theorem times_assign {now : ℕ} {v : JsValue} {assign : PaymentRow → PaymentRow}
    (hassign : c.assign now = some (v, assign)) (row : PaymentRow) :
    (assign row).updatedAt = some now ∧
      ∀ time ∈ PaymentRow.times, time (assign row) = some now ∨ time (assign row) = time row := by
  have hite : ∀ (p : Prop) [Decidable p] (x : Option ℕ),
      (if p then some now else x) = some now ∨ (if p then some now else x) = x := by
    intro p _ x
    split_ifs
    · exact Or.inl rfl
    · exact Or.inr rfl
  cases c with
  | updateStatus v status =>
    cases hassign
    exact ⟨rfl, by simp only [PaymentRow.times, List.forall_mem_cons, assignStatus, hite]; simp⟩
  | updateCanonical v canonical status =>
    cases hassign
    exact ⟨rfl, by simp [PaymentRow.times, assignCanonical]⟩
  | updateRoute v dest rule status =>
    cases hassign
    exact ⟨rfl, by simp [PaymentRow.times, assignRoute]⟩
  | updateTranslated v translated =>
    cases hassign
    exact ⟨rfl, by simp [PaymentRow.times, assignTranslated]⟩
  | updateRailAck v railAck status =>
    cases hassign
    exact ⟨rfl, by simp only [PaymentRow.times, List.forall_mem_cons, assignRailAck, hite]; simp⟩
  | _ => cases hassign

/-- **An update leaves a sound row.** -/
theorem sound_assign (hc : Writes c) {now : ℕ} {v : JsValue} {assign : PaymentRow → PaymentRow}
    (hassign : c.assign now = some (v, assign)) {row : PaymentRow} (hrow : Sound now row) :
    Sound now (assign row) := by
  obtain ⟨hupdated, htimes⟩ := times_assign hassign row
  have hdated : ∀ time ∈ PaymentRow.times, ∀ m, time (assign row) = some m →
      ∃ n, (assign row).updatedAt = some n ∧ m ≤ n := by
    intro time htime m hm
    refine ⟨now, hupdated, ?_⟩
    rcases htimes time htime with heq | heq
    · rw [heq] at hm
      exact (Option.some.inj hm).ge
    · rw [heq] at hm
      obtain ⟨n, hn, hle⟩ := hrow.dated time htime m hm
      exact hle.trans (hrow.updated n hn)
  have hnow : ∀ n, (assign row).updatedAt = some n → n ≤ now := by
    intro n hn
    rw [hupdated] at hn
    exact (Option.some.inj hn).ge
  have htouched : (assign row).updatedAt = none → (assign row).status = .received := by
    intro hnone
    rw [hupdated] at hnone
    cases hnone
  obtain ⟨hcanonical, hrule, hrouted, hacked, hunsent, -, -, -⟩ := hrow
  cases c with
  | updateStatus v status =>
    cases hassign
    refine ⟨hcanonical, hrule, hrouted, hacked, ?_, htouched, hdated, hnow⟩
    rcases hc with rfl | rfl | rfl | rfl | rfl | rfl <;> exact hunsent
  | updateCanonical v canonical status =>
    cases hassign
    exact ⟨rfl, hrule, hrouted, hacked, hunsent, htouched, hdated, hnow⟩
  | updateRoute v dest rule status =>
    cases hassign
    exact ⟨hcanonical, rfl, rfl, hacked, hunsent, htouched, hdated, hnow⟩
  | updateTranslated v translated =>
    cases hassign
    exact ⟨hcanonical, hrule, hrouted, hacked, hunsent, htouched, hdated, hnow⟩
  | updateRailAck v railAck status =>
    cases hassign
    exact ⟨hcanonical, hrule, hrouted, rfl, hunsent, htouched, hdated, hnow⟩
  | _ => cases hassign

/-- A new row has no values but those of its payment. -/
theorem unfilled_create {p : NewPayment} {payments : Payments} {row : PaymentRow}
    (h : (create p payments).1 = .ok row) : ∀ column ∈ PaymentRow.columns, column row = false := by
  unfold create at h
  split at h
  · cases h
  · cases h
    simp [PaymentRow.columns, PaymentRow.times]

theorem times_of_unfilled {row : PaymentRow}
    (h : ∀ column ∈ PaymentRow.columns, column row = false) :
    ∀ time ∈ PaymentRow.times, time row = none := fun time htime =>
  Option.isNone_iff_eq_none.mp (Option.isSome_eq_false_iff.mp (h (fun row => (time row).isSome)
    (List.mem_append_right _ (List.mem_map_of_mem htime))))

theorem sound_of_unfilled {now : ℕ} {row : PaymentRow} (hstatus : row.status = .received)
    (h : ∀ column ∈ PaymentRow.columns, column row = false) : Sound now row := by
  have htimes := times_of_unfilled h
  simp only [PaymentRow.columns, List.forall_mem_append, List.forall_mem_cons] at h
  obtain ⟨⟨hdestination, hcanonical, -, hacked, hrule, hupdated, -⟩, -⟩ := h
  refine ⟨?_, hdestination.trans hrule.symm, ?_, ?_, htimes _ (by simp [PaymentRow.times]),
    fun _ => hstatus,
    fun time htime m hm => ?_, fun n hn => ?_⟩
  · rw [hcanonical, htimes PaymentRow.canonicalizedAt (by simp [PaymentRow.times])]
    rfl
  · rw [hdestination, htimes PaymentRow.routedAt (by simp [PaymentRow.times])]
    rfl
  · rw [hacked, htimes PaymentRow.ackedAt (by simp [PaymentRow.times])]
    rfl
  · rw [htimes time htime] at hm
    cases hm
  · rw [hn] at hupdated
    cases hupdated

theorem update_eq_some {payments : Payments} {id id' : Text} {row row' : PaymentRow}
    (h : Function.update payments id (some row) id' = some row') :
    id' = id ∧ row' = row ∨ payments id' = some row' := by
  by_cases hid : id' = id
  · subst hid
    rw [Function.update_self] at h
    exact Or.inl ⟨rfl, (Option.some.inj h).symm⟩
  · rw [Function.update_of_ne hid] at h
    exact Or.inr h

/-- **Where a row comes from**: the call created it, or updated it, or it was there before. -/
theorem row_cases (h : Call.faulty W c s r t) {id : Text} {row : PaymentRow}
    (hrow : t.payments id = some row) :
    (∃ p, c = .create p ∧ row.toNewPayment = p ∧ ∀ column ∈ PaymentRow.columns, column row = false) ∨
      (∃ assign old, c.assign s.now = some (.string id, assign) ∧ r.isOk = true ∧
        s.payments id = some old ∧ row = assign old) ∨
      s.payments id = some row := by
  rcases faulty_cases h with ⟨a, rfl, hanswer⟩ | ⟨-, rfl⟩
  · rcases payments_cases hanswer with ⟨p, row', rfl, -, -, -⟩ |
      ⟨v, assign, row', hassign, id', old, rfl, hold, -, rfl⟩ | ⟨-, ht⟩
    · obtain ⟨-, hpayment, rfl⟩ := inserted_create hanswer
      rcases update_eq_some hrow with ⟨rfl, rfl⟩ | hrow
      · exact Or.inl ⟨p, rfl, hpayment, unfilled_create (Prod.mk.inj hanswer).1⟩
      · exact Or.inr (Or.inr hrow)
    · rcases update_eq_some hrow with ⟨rfl, rfl⟩ | hrow
      · exact Or.inr (Or.inl ⟨assign, old, hassign, rfl, hold, rfl⟩)
      · exact Or.inr (Or.inr hrow)
    · rw [ht] at hrow
      exact Or.inr (Or.inr hrow)
  · exact Or.inr (Or.inr hrow)

/-- **One call keeps all rows sound.** -/
theorem sound_of_faulty (hc : Writes c) (h : Call.faulty W c s r t)
    (hs : ∀ id row, s.payments id = some row → Sound s.now row) :
    ∀ id row, t.payments id = some row → Sound t.now row := by
  intro id row hrow
  rw [now_of_faulty h]
  rcases row_cases h hrow with ⟨p, rfl, hpayment, hunfilled⟩ | ⟨assign, old, hassign, -, hold, rfl⟩ |
    hrow
  · refine sound_of_unfilled ?_ hunfilled
    rw [hpayment]
    exact hc
  · exact sound_assign hc hassign (hs id old hold)
  · exact hs id row hrow

end Steps

/-! ### Runs of the service -/

section Runs

variable {ι : Type} [DecidableEq ι] {W : Collaborators} {c d : Config Store ι (Service Unit)}
  {path : List (ServiceStep ι)}

/-- **No run loses a payment**, turns it into another one, or takes a value from one of its
columns. -/
theorem kept_run (h : (service W ι).toLTS.Run c path d) {id : Text} {row : PaymentRow}
    (hrow : c.store.payments id = some row) :
    ∃ row', d.store.payments id = some row' ∧ Extends row row' := by
  refine h.invariant (I := fun d => ∃ row', d.store.payments id = some row' ∧ Extends row row')
    ⟨row, hrow, .refl row⟩ ?_
  rintro d l e ⟨row', hrow', hextends⟩ hstep
  rcases Program.processes_cases hstep with ⟨i, k, next, r, -, -, hcall, -⟩ | ⟨-, htick, -⟩
  · obtain ⟨row'', hrow'', hextends'⟩ := extends_of_faulty hcall hrow'
    exact ⟨row'', hrow'', hextends.trans hextends'⟩
  · obtain ⟨now, -, hstore⟩ := htick
    exact ⟨row', by rw [hstore]; exact hrow', hextends⟩

/-- **All rows are sound in every state that a run of the service reaches.** -/
theorem sound_run {case' : CaseMapping} {webhooks : Bool} {activities : ι → Activity} {store : Store}
    (hstore : ∀ id row, store.payments id = some row → Sound store.now row)
    (h : (service W ι).toLTS.Run (serviceStart case' webhooks activities store) path d)
    {id : Text} {row : PaymentRow} (hrow : d.store.payments id = some row) :
    Sound d.store.now row := by
  have hmakes : ∀ i, ((serviceStart case' webhooks activities store).locals i).Makes Writes :=
    fun i => makes_writes case' webhooks (activities i)
  suffices hinv : (∀ i, (d.locals i).Makes Writes) ∧
      ∀ id row, d.store.payments id = some row → Sound d.store.now row from hinv.2 id row hrow
  refine h.invariant (I := fun d => (∀ i, (d.locals i).Makes Writes) ∧
    ∀ id row, d.store.payments id = some row → Sound d.store.now row) ⟨hmakes, hstore⟩ ?_
  rintro d l e ⟨hlocals, hd⟩ hstep
  obtain ⟨hlocals', hcall⟩ := Program.makes_step (P := fun _ => Writes) hlocals hstep
  refine ⟨hlocals', ?_⟩
  rcases Program.processes_cases hstep with ⟨i, k, next, r, -, hl, hI, -⟩ | ⟨-, htick, -⟩
  · exact sound_of_faulty (hcall (i, ⟨k, r⟩) hl) hI hd
  · obtain ⟨now, hnow, hstore'⟩ := htick
    rw [hstore']
    exact fun id row hrow => (hd id row hrow).mono hnow

/-- **Records stand**: whenever a run of the service has reached a state, each row is sound, and
however it goes on, the row stays, as the same payment, with a value wherever it has one. -/
theorem records_stand {case' : CaseMapping} {webhooks : Bool} {activities : ι → Activity}
    {store : Store} {d' : Config Store ι (Service Unit)} {path' : List (ServiceStep ι)}
    (hstore : ∀ id row, store.payments id = some row → Sound store.now row)
    (h : (service W ι).toLTS.Run (serviceStart case' webhooks activities store) path d)
    (h' : (service W ι).toLTS.Run d path' d') {id : Text} {row : PaymentRow}
    (hrow : d.store.payments id = some row) :
    Sound d.store.now row ∧ ∃ row', d'.store.payments id = some row' ∧ Extends row row' ∧
      Sound d'.store.now row' := by
  obtain ⟨row', hrow', hextends⟩ := kept_run h' hrow
  exact ⟨sound_run hstore h hrow, row', hrow', hextends, sound_run hstore (h.append h') hrow'⟩

end Runs

/-! ### A payment that is stored, and then published -/

namespace Example

/-- The first part of the schedule stores the payment, the second one publishes it. -/
def stored : List (ServiceStep Unit) × Config Store Unit (Service Unit) :=
  runService (fun _ => pixPayment) (List.replicate 5 ())

def published : List (ServiceStep Unit) × Config Store Unit (Service Unit) :=
  Program.schedule (fun _ => answerAll) (List.replicate 12 ()) stored.2

theorem run_published : (service Pipeline.Example.host.collaborators Unit).toLTS.Run stored.2
    published.1 published.2 := by
  refine Program.run_schedule (f := fun _ => answerAll) ?_ _ _
  intro i c s r t h
  have hanswer := Call.answer_respond Pipeline.Example.host c s
  rw [Option.some.inj h] at hanswer
  exact Or.inl hanswer

end Example

theorem records_stand_published : ∃ row row',
    Example.stored.2.store.payments (paymentIdOf Pipeline.Example.ulid) = some row ∧
      row.queuedAt = none ∧
      Example.published.2.store.payments (paymentIdOf Pipeline.Example.ulid) = some row' ∧
      row'.queuedAt.isSome = true ∧ Extends row row' := by
  have hrow : (Example.stored.2.store.payments (paymentIdOf Pipeline.Example.ulid)).map
      PaymentRow.queuedAt = some none := by decide
  have hrow' : (Example.published.2.store.payments (paymentIdOf Pipeline.Example.ulid)).map
      (fun row => row.queuedAt.isSome) = some true := by decide
  obtain ⟨row, hstored, hunqueued⟩ := Option.map_eq_some_iff.mp hrow
  obtain ⟨row₁, hpublished₁, hqueued⟩ := Option.map_eq_some_iff.mp hrow'
  obtain ⟨-, row', hpublished, hextends, -⟩ := records_stand (fun _ _ hrow => by cases hrow)
    (Example.run_service (fun _ : Unit => Example.pixPayment) (List.replicate 5 ()))
    Example.run_published hstored
  obtain rfl := Option.some.inj (hpublished₁.symm.trans hpublished)
  exact ⟨row, row₁, hstored, hunqueued, hpublished₁, hqueued, hextends⟩

end MipitCore
