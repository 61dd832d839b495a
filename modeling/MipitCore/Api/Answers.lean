import MipitCore.Api.KeyRuns

/-!
# What a request with an idempotency key does

A request with the key keeps to its discipline whatever the others do, and when it is
answered, its calls were of one of four kinds (`Answer`): the first lookup found the row; it
found nothing and the claim was lost; the request claimed the key and ran the pipeline; or one
of its calls failed.

## Main definitions

* `FoundFirst`, `RunOver`, `Answer` — what a request has done when it is answered
* `Claimed`, `Unfailed` — what the claimant knows while it runs the pipeline

## Main results

* `foreign_safe` — requests without the key
* `execute_safe`, `execute_over`, `runClaimed_safe` — the claimant
* `keyed_safe` — **a request with the key**
-/

namespace MipitCore.Api

open Js Foundation Pipeline Persistence

section Answers

variable {ι : Type} [DecidableEq ι] {W : Collaborators} {C : Clients ι} {sha256 : Text → Text}
  {key : Text} {i : ι} {s : Logged ι}

/-- The first call of request `i` was a lookup that found the key's row. -/
def FoundFirst (key : Text) (i : ι) (history : CallLog ι) : Prop :=
  ∃ record, (calls i history).head? = some ⟨.findByKey key, .ok (some record)⟩

/-- The run that request `i` has claimed the key for, if it has, is over: it has reached `QUEUED`, or
it has failed. -/
def RunOver (C : Clients ι) (key : Text) (i : ι) (history : CallLog ι) : Prop :=
  Claims key i history → ReachedQueued C i history ∨ RunFailed C (C.paymentId i) history

/-- What request `i` has done when it is answered, if it carries the key. -/
inductive Answer (C : Clients ι) (sha256 : Text → Text) (key : Text) (i : ι)
    (body : CreatePaymentRequest) (s : Logged ι) : Reply → Prop
  /-- A call of its own has failed. -/
  | failed (err : Failure) (h : ¬ FoundFirst key i s.history)
      (hover : RunOver C key i s.history) :
      Answer C sha256 key i body s (errorReply (C.request i).traceId err)
  /-- Its first lookup found the row. -/
  | found (record : IdempotencyRecord)
      (h : calls i s.history = [⟨.findByKey key, .ok (some record)⟩]) :
      Answer C sha256 key i body s (answerExisting record (sha256 (bodyText body)))
  /-- Its first lookup found nothing, it lost the claim, and it looked the key up again. -/
  | lost (winner : Option IdempotencyRecord) (createdAt : Text)
      (h : calls i s.history = [⟨.findByKey key, .ok none⟩,
        ⟨.tryInsert key (C.paymentId i) (sha256 (bodyText body)) createdAt, .ok false⟩,
        ⟨.findByKey key, .ok winner⟩])
      (hwinner : winner = none → findByKey s.store.now key s.store.idempotency = none) :
      Answer C sha256 key i body s (replay winner)
  /-- It claimed the key and ran the pipeline. -/
  | created (result : PipelineResult)
      (hrow : ∃ record, s.store.idempotency key = some record ∧
        record.paymentId = C.paymentId i)
      (hresult : result.paymentId = C.paymentId i ∧ result.status = .queued)
      (hcalls : ∀ c e, (i, ⟨c, .error e⟩) ∉ s.history)
      (hqueued : ReachedQueued C i s.history) :
      Answer C sha256 key i body s (createdReply result)

/-- A request that does not carry the key keeps to the discipline. -/
theorem foreign_safe {prog : Service Reply} (hprog : prog.Makes (Foreign key))
    (hi : ∀ body, ¬ Keyed C key i body) :
    prog.Safe (requestCalls W i) (keyDiscipline C sha256 key i) (fun _ _ => True) s := by
  refine Program.Safe.of_makes (A := fun _ => True) hprog (fun _ _ _ _ _ => trivial) ?_ trivial
  intro c s r t hc hs _ hcall
  have hrow : t.store.idempotency key = s.store.idempotency key := by
    rcases faulty_cases hcall.1 with ⟨a, rfl, hanswer⟩ | ⟨-, hstore⟩
    · cases c with
      | tryInsert k paymentId requestHash createdAt =>
        obtain ⟨expiresAt, -, ht⟩ := hanswer
        rw [ht]
        simp only [tryInsert]
        split
        · rfl
        · exact Function.update_of_ne (Ne.symm hc) _ _
      | updateResponse k status response =>
        rw [hanswer.2]
        exact Function.update_of_ne (Ne.symm hc) _ _
      | _ => exact congrFun (idempotency_of_answer hanswer (by simp) (by simp)) key
    · rw [hstore]
  refine ⟨hs.frame hcall hrow ?_ ?_, rely_of_row hcall hrow, trivial⟩
  · rintro p rfl hp
    exact absurd hp hc
  · intro record hrecord hid _
    obtain ⟨-, j, body, hkeyed, hj, -⟩ := hs.claimed record hrecord
    have hij : j = i := C.paymentId_injective (hj.symm.trans hid)
    exact absurd (hij ▸ hkeyed) (hi body)

/-- The claimant, before its answer is cached. -/
structure Claimed (C : Clients ι) (key : Text) (i : ι) (s : Logged ι) : Prop where
  row : ∃ record, s.store.idempotency key = some record ∧ record.paymentId = C.paymentId i ∧
    record.responseBody = none
  first : (calls i s.history).head? = some ⟨.findByKey key, .ok none⟩

/-- None of the request's calls has failed. -/
def Unfailed (i : ι) (s : Logged ι) : Prop := ∀ c e, (i, ⟨c, .error e⟩) ∉ s.history

omit [DecidableEq ι] in
theorem Unfailed.append {t : Logged ι} {c : Call} {r : Except Failure c.Result}
    (h : Unfailed i s) (hcall : requestCalls W i c s r t) (hr : r.isOk = true) : Unfailed i t := by
  intro c' e hmem
  rw [hcall.2] at hmem
  rcases List.mem_append.mp hmem with hmem | hmem
  · exact h c' e hmem
  · cases List.mem_singleton.mp hmem
    cases hr

theorem Claimed.rely {t : Logged ι} (h : Claimed C key i s) (hst : Rely C key i s t) :
    Claimed C key i t := by
  obtain ⟨⟨record, hrow, hid, hbody⟩, hfirst⟩ := h
  obtain ⟨record', hrow', hsame⟩ := hst.row record hrow
  -- the row that is there now was there before, since it is the claimant's
  have hold := hst.mine record' hrow' (hsame.paymentId.trans hid)
  rw [hrow] at hold
  cases hold
  exact ⟨⟨record, hrow', hid, hbody⟩, by rw [hst.calls, hfirst]⟩

theorem Unfailed.rely {t : Logged ι} (h : Unfailed i s) (hst : Rely C key i s t) :
    Unfailed i t := by
  intro c e hmem
  rw [← mem_calls, hst.calls, mem_calls] at hmem
  exact h c e hmem

/-- The first call of a request remains the first. -/
theorem head_calls {t : Logged ι} {c : Call} {r : Except Failure c.Result}
    {o : Outcome Call Call.Result Failure} (hcall : requestCalls W i c s r t)
    (h : (calls i s.history).head? = some o) : (calls i t.history).head? = some o := by
  rw [hcall.2, calls_append, List.head?_append, h, Option.some_or]

/-- A call of the claimant's `execute` after its first. -/
theorem Claimed.call {p : Payment} {c : Call} {t : Logged ι} {r : Except Failure c.Result}
    (hc : p.Calls c) (hs : Consistent C sha256 key s) (h : Claimed C key i s)
    (hcall : requestCalls W i c s r t) :
    Consistent C sha256 key t ∧ (∀ j, j ≠ i → Rely C key j s t) ∧ Claimed C key i t := by
  have htable : t.store.idempotency = s.store.idempotency := by
    rcases hcall.1 with hanswer | ⟨-, -, hstore⟩
    · refine idempotency_of_answer hanswer ?_ ?_
      · rintro k paymentId requestHash createdAt rfl
        exact hc
      · rintro k status response rfl
        exact hc
    · rw [hstore]
  obtain ⟨⟨record, hrecord, hid, hbody⟩, hfirst⟩ := h
  have hrow := congrFun htable key
  refine ⟨hs.frame hcall hrow ?_ ?_, rely_of_row hcall hrow,
    ⟨record, hrow.trans hrecord, hid, hbody⟩, head_calls hcall hfirst⟩
  · rintro p' rfl
    exact hc.elim
  · intro record' hrecord' _ _
    rw [hrecord] at hrecord'
    cases hrecord'
    exact hbody

/-- **The claimant's `execute`.** It starts the payment once, and when it returns, none of its calls
has failed. -/
theorem execute_safe {body : CreatePaymentRequest} {traceId : Option Text} {draws : Draws}
    (hs : Claimed C key i s) (hok : Unfailed i s)
    (hfirst : ∀ p r, (i, ⟨.create p, r⟩) ∉ s.history) :
    (execute body ⟨some key, traceId, some (C.paymentId i)⟩ draws).Safe (requestCalls W i)
      (keyDiscipline C sha256 key i)
      (fun t r => Claimed C key i t ∧ ∀ result, r = .ok result →
        (result.paymentId = C.paymentId i ∧ result.status = .queued) ∧ Unfailed i t) s := by
  obtain ⟨P, hP⟩ := inferRail_accepted body.debtor.alias
  simp only [execute, hP]
  set p := start body ⟨some key, traceId, some (C.paymentId i)⟩ draws P.rail with hp
  obtain ⟨next, hnext, hmakes⟩ := p.run_starts
  have hstrict := p.run_strict
  have hreturns := p.run_returns
  rw [hnext] at hstrict hreturns
  have hhandle : ∀ err {t : Logged ι}, Claimed C key i t →
      (p.handle err).Safe (requestCalls W i) (keyDiscipline C sha256 key i)
        (fun t r => Claimed C key i t ∧ ∀ result, r = .ok result →
          (result.paymentId = C.paymentId i ∧ result.status = .queued) ∧ Unfailed i t) t := by
    intro err t ht
    have hframe := Program.Safe.of_makes (I := requestCalls W i)
      (D := keyDiscipline C sha256 key i) (A := Claimed C key i) (Payment.handle_makes (p := p) err)
      (fun _ _ h _ hst => h.rely hst) (fun _ _ _ _ hc hinv h hcall => h.call hc hinv hcall) ht
    refine (hframe.returns (Payment.handle_returns err)).mono fun t r _ ht => ⟨ht.1, ?_⟩
    intro result hr
    exact (ht.2 result hr).elim
  refine Program.Safe.tryCatch ?_
  rw [hnext]
  intro u hinv hrely r t hcall
  have hu := hs.rely hrely
  have htable : t.store.idempotency key = u.store.idempotency key := by
    rcases hcall.1 with hanswer | ⟨-, -, hstore⟩
    · exact congrFun (idempotency_of_answer hanswer (by simp) (by simp)) key
    · rw [hstore]
  obtain ⟨⟨record, hrecord, hid, hbody⟩, hlookup⟩ := hu
  have hnone : starts key u.history = [] := by
    refine List.eq_nil_iff_forall_not_mem.mpr fun j hj => ?_
    obtain ⟨record', hrecord', hid'⟩ := hinv.started j hj
    rw [hrecord] at hrecord'
    cases hrecord'
    -- whoever started is the claimant, who has not stored a payment yet
    have hij : j = i := C.paymentId_injective (hid'.symm.trans hid)
    subst hij
    obtain ⟨q, r, hmem⟩ := create_of_mem_starts hj
    rw [← mem_calls, hrely.calls, mem_calls] at hmem
    exact hfirst q r hmem
  have hinv' : Consistent C sha256 key t := by
    refine hinv.frame hcall htable (fun _ _ _ => ⟨⟨record, hrecord, hid⟩, hnone⟩) ?_
    intro record' hrecord' _ _
    rw [hrecord] at hrecord'
    cases hrecord'
    exact hbody
  have ht : Claimed C key i t :=
    ⟨⟨record, htable.trans hrecord, hid, hbody⟩, head_calls hcall hlookup⟩
  refine ⟨hinv', rely_of_row hcall htable, ?_⟩
  cases r with
  | error err =>
    rw [hstrict.1 err]
    exact fun t' _ hst => hhandle err (ht.rely hst)
  | ok row =>
    have hrest := Program.Safe.of_strict (I := requestCalls W i)
      (D := keyDiscipline C sha256 key i) (A := Claimed C key i) (B := Unfailed i) (hmakes (.ok row))
      (hstrict.2 row) (fun _ _ h _ hst => ⟨h.rely hst, fun hB => hB.rely hst⟩)
      (fun c s r t hc hinv h hcall => by
        obtain ⟨hinv', hguar, h'⟩ := h.call hc hinv hcall
        exact ⟨hinv', hguar, h', fun hr hB => hB.append hcall hr⟩)
      ht ((hok.rely hrely).append hcall rfl)
    refine (hrest.returns (hreturns (.ok row))).mono fun t r _ h => ?_
    obtain ⟨⟨hclaimed, hunfailed⟩, hresult⟩ := h
    cases r with
    | error err => exact hhandle err hclaimed
    | ok result =>
      refine ⟨hclaimed, fun result' heq => ?_⟩
      cases heq
      exact ⟨hresult result rfl, hunfailed rfl⟩

/-! ### How the claimant's run ends -/

theorem Rely.mem {t : Logged ι} {o : Outcome Call Call.Result Failure} (hst : Rely C key i s t) :
    (i, o) ∈ t.history ↔ (i, o) ∈ s.history := by
  rw [← mem_calls, hst.calls, mem_calls]

theorem Rely.reachedQueued {t : Logged ι} (hst : Rely C key i s t)
    (h : ReachedQueued C i s.history) : ReachedQueued C i t.history := by
  obtain ⟨row, hmem⟩ := h
  exact ⟨row, hst.mem.mpr hmem⟩

theorem Rely.runFailed {t : Logged ι} (hst : Rely C key i s t)
    (h : RunFailed C (C.paymentId i) s.history) : RunFailed C (C.paymentId i) t.history := by
  obtain ⟨j, c, e, hid, hmem, hc⟩ := h
  obtain rfl : j = i := C.paymentId_injective hid
  exact ⟨j, c, e, rfl, hst.mem.mpr hmem, hc⟩

theorem RunOver.rely {t : Logged ι} (hst : Rely C key i s t) (h : RunOver C key i s.history) :
    RunOver C key i t.history := by
  rintro ⟨paymentId, requestHash, createdAt, hmem⟩
  exact (h ⟨paymentId, requestHash, createdAt, hst.mem.mp hmem⟩).imp hst.reachedQueued hst.runFailed

omit [DecidableEq ι] in
theorem mem_of_call {t : Logged ι} {c : Call} {r : Except Failure c.Result}
    (hcall : requestCalls W i c s r t) : (i, ⟨c, r⟩) ∈ t.history := by
  rw [hcall.2]
  exact List.mem_append_right _ List.mem_cons_self

omit [DecidableEq ι] in
theorem mem_after_call {t : Logged ι} {c : Call} {r : Except Failure c.Result}
    {e : ι × Outcome Call Call.Result Failure} (hcall : requestCalls W i c s r t)
    (h : e ∈ s.history) : e ∈ t.history := by
  rw [hcall.2]
  exact List.mem_append_left _ h

/-- **The claimant's `execute` is not over before the payment is queued or has failed.** -/
theorem execute_over {body : CreatePaymentRequest} {traceId : Option Text} {draws : Draws}
    (hs : Claimed C key i s) (hok : Unfailed i s)
    (hfirst : ∀ p r, (i, ⟨.create p, r⟩) ∉ s.history) :
    (execute body ⟨some key, traceId, some (C.paymentId i)⟩ draws).Safe (requestCalls W i)
      (keyDiscipline C sha256 key i)
      (fun t r => ((Claimed C key i t ∧ ∀ result, r = .ok result →
        (result.paymentId = C.paymentId i ∧ result.status = .queued) ∧ Unfailed i t) ∧
          (r.isOk = true → ReachedQueued C i t.history)) ∧
          (r.isOk = false → RunFailed C (C.paymentId i) t.history)) s := by
  refine Program.Safe.after (Program.Safe.after (execute_safe hs hok hfirst)
    (Or.inl execute_after_queued) (fun _ _ h hst => hst.reachedQueued h) ?_ ?_)
    (Or.inl (execute_throws.of_makes execute_makes)) (fun _ _ h hst => hst.runFailed h) ?_ ?_
  · rintro c s r t ⟨row, hmem⟩ hcall
    exact ⟨row, mem_after_call hcall hmem⟩
  · rintro c s r t ⟨hc, hr⟩ hcall
    cases r with
    | error e => cases hr
    | ok row =>
      obtain rfl : c = .updateStatus (.string (C.paymentId i)) .queued := hc
      exact ⟨row, mem_of_call hcall⟩
  · rintro c s r t ⟨j, c', e, hid, hmem, hc'⟩ hcall
    exact ⟨j, c', e, hid, mem_after_call hcall hmem, hc'⟩
  · rintro c s r t ⟨hc, hr⟩ hcall
    cases r with
    | ok a => cases hr
    | error e => exact ⟨i, c, e, rfl, mem_of_call hcall, hc⟩

/-! ### A request with the key -/

/-- What is known of a request that throws. -/
structure Thrown (C : Clients ι) (key : Text) (i : ι) (history : CallLog ι) : Prop where
  not_found : ¬ FoundFirst key i history
  runOver : RunOver C key i history

omit [DecidableEq ι] in
/-- A request that has not claimed the key has no run. -/
theorem runOver_of_not_claims {history : CallLog ι} (h : ¬ Claims key i history) :
    RunOver C key i history := fun hclaims => absurd hclaims h

theorem not_claims_of_calls {history : CallLog ι}
    (h : ∀ o ∈ calls i history, ∀ paymentId requestHash createdAt,
      o ≠ ⟨.tryInsert key paymentId requestHash createdAt, .ok true⟩) : ¬ Claims key i history := by
  rintro ⟨paymentId, requestHash, createdAt, hmem⟩
  exact h _ (mem_calls.mpr hmem) paymentId requestHash createdAt rfl

theorem not_foundFirst_of_none {history : CallLog ι}
    (h : (calls i history).head? = some ⟨.findByKey key, .ok none⟩) :
    ¬ FoundFirst key i history := by
  rintro ⟨record, hfound⟩
  rw [h] at hfound
  cases hfound

theorem not_foundFirst_of_error {history : CallLog ι} {err : Failure}
    (h : (calls i history).head? = some ⟨.findByKey key, .error err⟩) :
    ¬ FoundFirst key i history := by
  rintro ⟨record, hfound⟩
  rw [h] at hfound
  cases hfound

theorem Rely.thrown {t : Logged ι} (hst : Rely C key i s t) (h : Thrown C key i s.history) :
    Thrown C key i t.history := by
  refine ⟨?_, h.runOver.rely hst⟩
  rintro ⟨record, hfound⟩
  rw [hst.calls] at hfound
  exact h.not_found ⟨record, hfound⟩

/-- A lookup of the key. -/
theorem lookup_call {t : Logged ι} {r : Except Failure (Option IdempotencyRecord)}
    (hs : Consistent C sha256 key s) (hcall : requestCalls W i (.findByKey key) s r t) :
    Consistent C sha256 key t ∧ (∀ j, j ≠ i → Rely C key j s t) ∧ t.store = s.store := by
  have hstore := (findByKey_of_faulty hcall.1).2
  have hrow : t.store.idempotency key = s.store.idempotency key := by rw [hstore]
  exact ⟨hs.frame hcall hrow (by simp) (by simp [isPipelineCall]), rely_of_row hcall hrow, hstore⟩

/-- A row that has expired stays expired. -/
theorem expired_rely {t : Logged ι} {record : IdempotencyRecord} (hst : Rely C key i s t)
    (hrow : s.store.idempotency key = some record)
    (h : findByKey s.store.now key s.store.idempotency = none) :
    findByKey t.store.now key t.store.idempotency = none := by
  obtain ⟨record', hrow', hsame⟩ := hst.row record hrow
  simp only [findByKey, hrow, hrow', Option.filter_eq_none_iff] at h ⊢
  intro _ heq
  cases heq
  have hexpired := h record rfl
  rw [hsame.expiresAt]
  cases hexpires : record.expiresAt with
  | none => simp
  | some expiresAt =>
    rw [hexpires] at hexpired
    have hnow := hst.now
    simp only [decide_eq_true_eq, not_lt] at hexpired ⊢
    exact hexpired.trans hnow

/-- The claimant, from the claim on. -/
theorem runClaimed_safe {body : CreatePaymentRequest} {traceId : Option Text}
    (hs : Claimed C key i s) (hok : Unfailed i s)
    (hfirst : ∀ p r, (i, ⟨.create p, r⟩) ∉ s.history) :
    (runClaimed key body traceId (C.draws i)).Safe (requestCalls W i)
      (keyDiscipline C sha256 key i)
      (fun t r => match r with
        | .ok reply => Answer C sha256 key i body t reply
        | .error _ => Thrown C key i t.history) s := by
  refine Program.Safe.bind ((execute_over hs hok hfirst).mono fun t r _ hexecute => ?_)
  obtain ⟨⟨⟨hclaimed, hresult⟩, hqueued⟩, hfailed⟩ := hexecute
  cases r with
  | error err => exact ⟨not_foundFirst_of_none hclaimed.first, fun _ => Or.inr (hfailed rfl)⟩
  | ok result =>
    obtain ⟨hresult, hunfailed⟩ := hresult result rfl
    have hqueued := hqueued rfl
    refine Program.Safe.bind (Program.Safe.perform fun u hinv hrely r v hcall => ?_)
    have hunfailed' := hunfailed.rely hrely
    obtain ⟨⟨record', hrow', hid', hbody'⟩, hfirst'⟩ := hclaimed.rely hrely
    cases r with
    | error err =>
      -- the answer is not cached, and the request fails with the row as it was
      have hstore : v.store = u.store := by
        obtain ⟨heq, -⟩ | ⟨-, hstore⟩ := updateResponse_of_faulty hcall.1
        · cases heq
        · exact hstore
      have hsame : v.store.idempotency key = u.store.idempotency key := by rw [hstore]
      refine ⟨hinv.frame hcall hsame (by simp) (by simp [isPipelineCall]), rely_of_row hcall hsame,
        fun w _ hrely' => hrely'.thrown ⟨not_foundFirst_of_none (head_calls hcall hfirst'), ?_⟩⟩
      obtain ⟨row, hmem⟩ := hrely.reachedQueued hqueued
      exact fun _ => Or.inl ⟨row, mem_after_call hcall hmem⟩
    | ok a =>
      have hrun : ¬ RunFailed C (C.paymentId i) u.history := by
        rintro ⟨j, c, e, hj, hmem, -⟩
        rw [C.paymentId_injective hj] at hmem
        exact hunfailed' c e hmem
      obtain ⟨hinv', hguar, record'', hrow'', hid''⟩ :=
        hinv.cache hcall rfl hrow' hid' hresult hrun
      refine ⟨hinv', hguar, fun w _ hrely' => Program.Safe.pure fun x _ hrely'' => ?_⟩
      -- nobody takes the row away before the reply is sent
      have hlater := hrely'.trans hrely''
      obtain ⟨record3, hrow3, hsame3⟩ := hlater.row record'' hrow''
      obtain ⟨row, hmem⟩ := hrely.reachedQueued hqueued
      exact .created result ⟨record3, hrow3, hsame3.paymentId.trans hid''⟩ hresult
        ((hunfailed'.append hcall rfl).rely hlater)
        (hlater.reachedQueued ⟨row, mem_after_call hcall hmem⟩)

/-- **A request with the key**: it keeps to the discipline, and it is answered in one of four
ways. -/
theorem keyed_safe {body : CreatePaymentRequest} (hkeyed : Keyed C key i body)
    (h : calls i s.history = []) :
    (postPayments sha256 (C.request i) (C.draws i)).Safe (requestCalls W i)
      (keyDiscipline C sha256 key i)
      (fun t r => ∃ reply, r = .ok reply ∧ Answer C sha256 key i body t reply) s := by
  suffices hhandle : (handleKeyed sha256 key body (C.request i).traceId (C.draws i)).Safe
      (requestCalls W i) (keyDiscipline C sha256 key i)
      (fun t r => match r with
        | .ok reply => Answer C sha256 key i body t reply
        | .error _ => Thrown C key i t.history) s by
    simp only [postPayments, handleRequest, hkeyed.body, hkeyed.key]
    refine Program.Safe.tryCatch (hhandle.mono fun t r _ ht => ?_)
    cases r with
    | ok reply => exact ⟨reply, rfl, ht⟩
    | error err =>
      refine Program.Safe.pure fun t' _ hrely => ⟨_, rfl, ?_⟩
      exact .failed err (hrely.thrown ht).not_found (hrely.thrown ht).runOver
  -- the first lookup
  refine Program.Safe.bind (Program.Safe.perform fun u hinv hrely r t hcall => ?_)
  obtain ⟨hinvt, hguart, -⟩ := lookup_call hinv hcall
  have hcalls : calls i t.history = [⟨.findByKey key, r⟩] := by
    rw [hcall.2, calls_append, hrely.calls, h]
    rfl
  refine ⟨hinvt, hguart, fun t' hinvt' hrelyt => ?_⟩
  cases r with
  | error err =>
    have hhead : (calls i t.history).head? = some ⟨.findByKey key, .error err⟩ := by
      rw [hcalls, List.head?_cons]
    refine hrelyt.thrown ⟨not_foundFirst_of_error hhead,
      runOver_of_not_claims (not_claims_of_calls ?_)⟩
    simp [hcalls]
  | ok existing =>
    cases existing with
    | some record =>
      refine Program.Safe.pure fun w _ hrely' => .found record ?_
      rw [hrely'.calls, hrelyt.calls, hcalls]
    | none =>
      -- the attempt to claim the key
      refine Program.Safe.bind (Program.Safe.perform fun v hinvv hrelyv r w hclaim => ?_)
      have hcalls' : calls i w.history = [⟨.findByKey key, .ok none⟩,
          ⟨.tryInsert key (C.paymentId i) (sha256 (bodyText body)) (C.draws i).claimedAt.1, r⟩] := by
        rw [hclaim.2, calls_append, hrelyv.calls, hrelyt.calls, hcalls]
        rfl
      have hhead : (calls i w.history).head? = some ⟨.findByKey key, .ok none⟩ := by
        rw [hcalls']
        rfl
      have hnot : ¬ FoundFirst key i w.history := not_foundFirst_of_none hhead
      have hlost : r ≠ .ok true → w.store = v.store := by
        intro hne
        rcases tryInsert_of_faulty hclaim.1 with ⟨htrue, -, -⟩ | ⟨-, hstore, -⟩
        · exact absurd htrue hne
        · exact hstore
      have hframe : r ≠ .ok true → Consistent C sha256 key w ∧
          ∀ j, j ≠ i → Rely C key j v w := by
        intro hne
        have hsame : w.store.idempotency key = v.store.idempotency key := by rw [hlost hne]
        exact ⟨hinvv.frame hclaim hsame (by simp) (by simp [isPipelineCall]),
          rely_of_row hclaim hsame⟩
      cases r with
      | error err =>
        obtain ⟨hinvw, hguarw⟩ := hframe nofun
        refine ⟨hinvw, hguarw, fun w' _ hrelyw => hrelyw.thrown
          ⟨hnot, runOver_of_not_claims (not_claims_of_calls ?_)⟩⟩
        rw [hcalls']
        rintro o ho paymentId requestHash createdAt rfl
        rcases List.mem_pair.mp ho with heq | heq <;> cases heq
      | ok claimed =>
        cases claimed with
        | true =>
          obtain ⟨hinvw, hguarw, hrow⟩ := hinvv.claim hkeyed hclaim rfl
          refine ⟨hinvw, hguarw, fun w' _ hrelyw => ?_⟩
          have hmem : ∀ o, (i, o) ∈ w'.history → o = ⟨.findByKey key, .ok none⟩ ∨
              o = ⟨.tryInsert key (C.paymentId i) (sha256 (bodyText body))
                (C.draws i).claimedAt.1, .ok true⟩ := by
            intro o ho
            rw [← mem_calls, hrelyw.calls, hcalls'] at ho
            rcases List.mem_cons.mp ho with heq | ho
            · exact Or.inl heq
            · exact Or.inr (List.mem_singleton.mp ho)
          refine runClaimed_safe (Claimed.rely ⟨hrow, hhead⟩ hrelyw) (fun c e hc => ?_)
            fun p r hc => ?_
          · rcases hmem _ hc with heq | heq <;> cases heq
          · rcases hmem _ hc with heq | heq <;> cases heq
        | false =>
          have hne : (.ok false : Except Failure Bool) ≠ .ok true := fun heq =>
            Bool.false_ne_true (Except.ok.inj heq)
          obtain ⟨hinvw, hguarw⟩ := hframe hne
          refine ⟨hinvw, hguarw, fun w' _ hrelyw => ?_⟩
          -- the second lookup, of a row that exists
          have hrow : ∃ record, v.store.idempotency key = some record := by
            rcases tryInsert_of_faulty hclaim.1 with ⟨heq, -, -⟩ | ⟨-, -, hexists⟩
            · cases heq
            · exact hexists rfl
          refine Program.Safe.bind (Program.Safe.perform fun x hinvx hrelyx r y hlookup => ?_)
          obtain ⟨hinvy, hguary, hstorey⟩ := lookup_call hinvx hlookup
          refine ⟨hinvy, hguary, fun y' _ hrelyy => ?_⟩
          cases r with
          | error err =>
            refine hrelyy.thrown ⟨not_foundFirst_of_none (head_calls hlookup ?_),
              runOver_of_not_claims (not_claims_of_calls ?_)⟩
            · rw [(hrelyw.trans hrelyx).calls]
              exact hhead
            · rw [hlookup.2, calls_append, (hrelyw.trans hrelyx).calls, hcalls']
              rintro o ho paymentId requestHash createdAt rfl
              rcases List.mem_append.mp ho with ho | ho
              · rcases List.mem_pair.mp ho with heq | heq <;> cases heq
              · cases List.mem_singleton.mp ho
          | ok winner =>
            refine Program.Safe.pure fun z _ hrelyz => .lost winner (C.draws i).claimedAt.1 ?_ ?_
            · rw [hrelyz.calls, hrelyy.calls, hlookup.2, calls_append, hrelyx.calls, hrelyw.calls,
                hcalls']
              rfl
            · rintro rfl
              obtain ⟨record, hrecord⟩ := hrow
              have hrecordw : w.store.idempotency key = some record := by
                rw [hlost hne]
                exact hrecord
              obtain ⟨record', hrecordx, -⟩ := (hrelyw.trans hrelyx).row record hrecordw
              have hfound : findByKey x.store.now key x.store.idempotency = none := by
                rcases (findByKey_of_faulty hlookup.1).1 with heq | ⟨e, he⟩
                · exact (Except.ok.inj heq).symm
                · cases he
              rw [← hstorey] at hfound hrecordx
              exact expired_rely (hrelyy.trans hrelyz) hrecordx hfound

end Answers

end MipitCore.Api
