import MipitCore.Api.PostPayments

/-!
# Requests that share an idempotency key

Any number of requests to `POST /payments`, interleaved one call at a time. Calls may fail;
time passes, so that the rows of keys expire, and other parts of the service write to the
payments, the audit events and the queues. Only these requests write idempotency keys.

For one key, `Consistent` says what its row, the claimant of the key and the history of all
calls have to do with each other. Each request keeps it, and relies on the others only for
this: the row is never removed, it never changes hands, and nobody else writes the response
of one's own claim (`Rely`).

## Main definitions

* `Clients` — the requests, with the ULIDs that are drawn for them
* `requestCalls`, `requests` — the interleaving
* `starts`, `calls`, `Claims`, `RunFailed`, `ReachedQueued` — what a history says
* `Consistent`, `Rely`, `keyDiscipline`

## Main results

* `Consistent.frame`, `Consistent.claim`, `Consistent.cache` — the step lemmas
-/

namespace MipitCore.Api

open Js Foundation Pipeline Persistence

/-- Requests, and what their handling draws. A ULID is drawn only once. -/
structure Clients (ι : Type) where
  request : ι → Request
  draws : ι → RequestDraws
  ulid_injective : Function.Injective fun i => (draws i).paymentUlid

/-- The calls that were made, by whom, with their outcomes. -/
abbrev CallLog (ι : Type) := List (ι × Outcome Call Call.Result Failure)

/-- The store, with the calls that were made. -/
abbrev Logged (ι : Type) := Recorded Store (ι × Outcome Call Call.Result Failure)

section Definitions

variable {ι : Type}

/-- The payment's identifier of a request. -/
def Clients.paymentId (C : Clients ι) (i : ι) : Text := paymentIdOf (C.draws i).paymentUlid

theorem Clients.paymentId_injective (C : Clients ι) : Function.Injective C.paymentId := fun _ _ h =>
  C.ulid_injective (paymentIdOf_injective h)

/-- The calls of request `i`. -/
def requestCalls (W : Collaborators) (i : ι) : Interp Call Call.Result Failure (Logged ι) :=
  fun c s r t => Call.faulty W c s.store r t.store ∧ t.history = s.history ++ [(i, ⟨c, r⟩)]

/-- What happens elsewhere: anything but writes to the idempotency keys. -/
def Elsewhere (s t : Logged ι) : Prop :=
  s.store.now ≤ t.store.now ∧ t.store.idempotency = s.store.idempotency ∧ t.history = s.history

/-- The requests as processes. -/
def requests (W : Collaborators) :
    Processes (Logged ι) ι (Service Reply) (Outcome Call Call.Result Failure) :=
  Program.processes (requestCalls W) Elsewhere

/-- A step of an interleaving. -/
abbrev RequestStep (ι : Type) := Transition (Config (Logged ι) ι (Service Reply))
  (Option (ι × Outcome Call Call.Result Failure))

/-- All requests, before their first calls; no key is stored yet. -/
def Clients.start (C : Clients ι) (sha256 : Text → Text) (store : Store) :
    Config (Logged ι) ι (Service Reply) where
  store := ⟨{ store with idempotency := fun _ => none }, []⟩
  locals i := postPayments sha256 (C.request i) (C.draws i)

/-- Request `i` carries the key and an acceptable body. -/
structure Keyed (C : Clients ι) (key : Text) (i : ι) (body : CreatePaymentRequest) : Prop where
  key : (C.request i).key = some key
  body : createPaymentSchema (C.request i).body = some body

/-- Who started `execute` with the key: its first call stores the payment with it. -/
def starts (key : Text) (history : CallLog ι) : List ι :=
  history.filterMap fun e =>
    match e.2.call with
    | .create p => if p.idempotencyKey = some key then some e.1 else none
    | _ => none

/-- The calls of one request. -/
def calls [DecidableEq ι] (i : ι) (history : CallLog ι) : List (Outcome Call Call.Result Failure) :=
  history.filterMap fun e => if e.1 = i then some e.2 else none

/-- The pipeline's run for a payment has failed: one of its calls has. -/
def RunFailed (C : Clients ι) (paymentId : Text) (history : CallLog ι) : Prop :=
  ∃ i c e, C.paymentId i = paymentId ∧ (i, ⟨c, .error e⟩) ∈ history ∧ isPipelineCall c = true

/-- The pipeline's run of request `i` has marked the payment as queued. -/
def ReachedQueued (C : Clients ι) (i : ι) (history : CallLog ι) : Prop :=
  ∃ row, (i, ⟨.updateStatus (.string (C.paymentId i)) .queued, .ok row⟩) ∈ history

/-- Request `i` has claimed the key. -/
def Claims (key : Text) (i : ι) (history : CallLog ι) : Prop :=
  ∃ paymentId requestHash createdAt,
    (i, ⟨.tryInsert key paymentId requestHash createdAt, .ok true⟩) ∈ history

/-- Two states of the row of one claim. -/
structure SameClaim (r r' : IdempotencyRecord) : Prop where
  paymentId : r'.paymentId = r.paymentId
  requestHash : r'.requestHash = r.requestHash
  expiresAt : r'.expiresAt = r.expiresAt

theorem SameClaim.refl (r : IdempotencyRecord) : SameClaim r r := ⟨rfl, rfl, rfl⟩

theorem SameClaim.trans {r r' r'' : IdempotencyRecord} (h : SameClaim r r')
    (h' : SameClaim r' r'') : SameClaim r r'' :=
  ⟨h'.paymentId.trans h.paymentId, h'.requestHash.trans h.requestHash,
    h'.expiresAt.trans h.expiresAt⟩

/-- What a row caches: nothing yet, or the answer for its own payment. -/
def Cached (r : IdempotencyRecord) : Prop :=
  (r.responseBody = none ∧ r.responseStatus = none) ∨
    ∃ response, r.responseBody = some response ∧ r.responseStatus = some 201 ∧
      response.paymentId = r.paymentId ∧ response.status = .queued

/-- The row of a key, the claimant of the key, and the calls that were made. -/
structure Consistent (C : Clients ι) (sha256 : Text → Text) (key : Text) (s : Logged ι) :
    Prop where
  claimed : ∀ record, s.store.idempotency key = some record → Cached record ∧
    ∃ i body, Keyed C key i body ∧ record.paymentId = C.paymentId i ∧
      record.requestHash = sha256 (bodyText body)
  byClaimant : ∀ record, s.store.idempotency key = some record →
    ∃ i, record.paymentId = C.paymentId i ∧ Claims key i s.history
  succeeded : ∀ record, s.store.idempotency key = some record → record.responseBody ≠ none →
    ¬ RunFailed C record.paymentId s.history
  found : ∀ i record, (i, ⟨.findByKey key, .ok (some record)⟩) ∈ s.history → Cached record ∧
    ∃ record', s.store.idempotency key = some record' ∧ SameClaim record record'
  winner : ∀ i paymentId requestHash createdAt,
    (i, ⟨.tryInsert key paymentId requestHash createdAt, .ok true⟩) ∈ s.history →
      ∃ record, s.store.idempotency key = some record ∧ record.paymentId = C.paymentId i
  started : ∀ i ∈ starts key s.history,
    ∃ record, s.store.idempotency key = some record ∧ record.paymentId = C.paymentId i
  once : (starts key s.history).length ≤ 1

variable [DecidableEq ι]

/-- What request `i` relies on. -/
structure Rely (C : Clients ι) (key : Text) (i : ι) (s t : Logged ι) : Prop where
  now : s.store.now ≤ t.store.now
  row : ∀ record, s.store.idempotency key = some record →
    ∃ record', t.store.idempotency key = some record' ∧ SameClaim record record'
  mine : ∀ record, t.store.idempotency key = some record → record.paymentId = C.paymentId i →
    s.store.idempotency key = some record
  calls : calls i t.history = calls i s.history

theorem Rely.refl {C : Clients ι} {key : Text} {i : ι} (s : Logged ι) : Rely C key i s s where
  now := le_rfl
  row record h := ⟨record, h, .refl record⟩
  mine _ h _ := h
  calls := rfl

theorem Rely.trans {C : Clients ι} {key : Text} {i : ι} {s t w : Logged ι}
    (h : Rely C key i s t) (h' : Rely C key i t w) : Rely C key i s w where
  now := h.now.trans h'.now
  row record hs := by
    obtain ⟨record', ht, hsame⟩ := h.row record hs
    obtain ⟨record'', hw, hsame'⟩ := h'.row record' ht
    exact ⟨record'', hw, hsame.trans hsame'⟩
  mine record hw hid := h.mine record (h'.mine record hw hid) hid
  calls := h'.calls.trans h.calls

/-- What a request keeps to: the others may rely on its calls. -/
def keyDiscipline (C : Clients ι) (sha256 : Text → Text) (key : Text) (i : ι) :
    Discipline (Logged ι) where
  inv := Consistent C sha256 key
  rely := Rely C key i
  guarantee s t := ∀ j, j ≠ i → Rely C key j s t
  refl := Rely.refl
  trans _ _ _ := Rely.trans

end Definitions

/-! ### Histories -/

section Histories

variable {ι : Type} {i j : ι} {history : CallLog ι} {key : Text}
  {o : Outcome Call Call.Result Failure}

theorem calls_append [DecidableEq ι] :
    calls i (history ++ [(i, o)]) = calls i history ++ [o] := by
  simp [calls]

theorem calls_append_of_ne [DecidableEq ι] (h : j ≠ i) :
    calls i (history ++ [(j, o)]) = calls i history := by
  simp [calls, h]

theorem mem_calls [DecidableEq ι] : o ∈ calls i history ↔ (i, o) ∈ history := by
  simp only [calls, List.mem_filterMap]
  constructor
  · rintro ⟨⟨j, o'⟩, hmem, ho⟩
    split at ho
    · rename_i hj
      subst hj
      cases ho
      exact hmem
    · cases ho
  · intro hmem
    exact ⟨(i, o), hmem, if_pos rfl⟩

/-- A call that stores no payment with the key starts nothing. -/
theorem starts_append_of_ne (h : ∀ p, o.call = .create p → p.idempotencyKey ≠ some key) :
    starts key (history ++ [(i, o)]) = starts key history := by
  rw [starts, List.filterMap_append]
  obtain ⟨c, r⟩ := o
  cases c with
  | create p =>
    have hp := h p rfl
    simp [starts, hp]
  | _ => simp [starts]

theorem starts_append {p : NewPayment} {r : Except Failure (Call.create p).Result}
    (h : p.idempotencyKey = some key) :
    starts key (history ++ [(i, ⟨.create p, r⟩)]) = starts key history ++ [i] := by
  simp [starts, h]

/-- Who has started has stored a payment. -/
theorem create_of_mem_starts (h : i ∈ starts key history) :
    ∃ p r, (i, ⟨.create p, r⟩) ∈ history := by
  simp only [starts, List.mem_filterMap] at h
  obtain ⟨⟨j, c, r⟩, hmem, hj⟩ := h
  cases c with
  | create p =>
    dsimp only at hj
    split at hj
    · cases hj
      exact ⟨p, r, hmem⟩
    · cases hj
  | _ => cases hj

theorem Claims.append (h : Claims key j history) : Claims key j (history ++ [(i, o)]) := by
  obtain ⟨paymentId, requestHash, createdAt, hmem⟩ := h
  exact ⟨paymentId, requestHash, createdAt, List.mem_append_left _ hmem⟩

/-- A run fails with a call of its own request. -/
theorem RunFailed.of_append {C : Clients ι} {paymentId : Text}
    (h : RunFailed C paymentId (history ++ [(i, o)])) :
    RunFailed C paymentId history ∨
      (C.paymentId i = paymentId ∧ isPipelineCall o.call = true ∧ ∃ e, o.result = .error e) := by
  obtain ⟨j, c, e, hid, hmem, hc⟩ := h
  rcases List.mem_append.mp hmem with hmem | hmem
  · exact Or.inl ⟨j, c, e, hid, hmem, hc⟩
  · cases List.mem_singleton.mp hmem
    exact Or.inr ⟨hid, hc, e, rfl⟩

end Histories

/-! ### One call -/

section Calls

variable {ι : Type} {W : Collaborators} {C : Clients ι} {sha256 : Text → Text} {key : Text}
  {i : ι} {c : Call} {s t : Logged ι} {r : Except Failure c.Result}

theorem findByKey_eq_some {now : ℕ} {record : IdempotencyRecord} {table : Idempotency}
    (h : findByKey now key table = some record) : table key = some record := by
  unfold findByKey at h
  exact (Option.filter_eq_some_iff.mp h).1

/-- **A call that leaves the key's row.** It may start the payment only for the claimant, and only
once; and the run of the claimant makes no calls any more when its answer is cached. -/
theorem Consistent.frame (hs : Consistent C sha256 key s) (h : requestCalls W i c s r t)
    (hrow : t.store.idempotency key = s.store.idempotency key)
    (hstart : ∀ p, c = .create p → p.idempotencyKey = some key →
      (∃ record, s.store.idempotency key = some record ∧ record.paymentId = C.paymentId i) ∧
        starts key s.history = [])
    (hfail : ∀ record, s.store.idempotency key = some record →
      record.paymentId = C.paymentId i → isPipelineCall c = true → record.responseBody = none) :
    Consistent C sha256 key t := by
  have hstarts : starts key t.history = starts key s.history ∨
      (starts key t.history = [i] ∧
        ∃ record, s.store.idempotency key = some record ∧ record.paymentId = C.paymentId i) := by
    rw [h.2]
    by_cases hc : ∃ p, c = .create p ∧ p.idempotencyKey = some key
    · obtain ⟨p, rfl, hp⟩ := hc
      obtain ⟨hmine, hnone⟩ := hstart p rfl hp
      right
      rw [starts_append hp, hnone]
      exact ⟨rfl, hmine⟩
    · left
      exact starts_append_of_ne fun p hcall hp => hc ⟨p, hcall, hp⟩
  refine ⟨?_, ?_, ?_, ?_, ?_, ?_, ?_⟩
  · rw [hrow]
    exact hs.claimed
  · rw [hrow, h.2]
    intro record hrecord
    obtain ⟨j, hj, hclaims⟩ := hs.byClaimant record hrecord
    exact ⟨j, hj, hclaims.append⟩
  · intro record hrecord hbody hfailed
    rw [hrow] at hrecord
    rw [h.2] at hfailed
    rcases hfailed.of_append with hbefore | ⟨hid, hc, -⟩
    · exact hs.succeeded record hrecord hbody hbefore
    · exact hbody (hfail record hrecord hid.symm hc)
  · intro j record hmem
    rw [h.2] at hmem
    rw [hrow]
    rcases List.mem_append.mp hmem with hmem | hmem
    · exact hs.found j record hmem
    · -- a lookup finds the row as it is
      cases List.mem_singleton.mp hmem
      obtain ⟨hr | ⟨e, he⟩, -⟩ := findByKey_of_faulty h.1
      · have hrecord := findByKey_eq_some (Except.ok.inj hr).symm
        exact ⟨(hs.claimed record hrecord).1, record, hrecord, .refl record⟩
      · cases he
  · intro j paymentId requestHash createdAt hmem
    rw [h.2] at hmem
    rw [hrow]
    rcases List.mem_append.mp hmem with hmem | hmem
    · exact hs.winner j paymentId requestHash createdAt hmem
    · -- a claim that succeeds does not leave the row
      cases List.mem_singleton.mp hmem
      rcases tryInsert_of_faulty h.1 with ⟨-, hnone, expiresAt, hinsert⟩ | ⟨hne, -, -⟩
      · rw [hinsert, Function.update_self, hnone] at hrow
        cases hrow
      · exact absurd rfl hne
  · intro j hj
    rw [hrow]
    rcases hstarts with heq | ⟨heq, hmine⟩
    · exact hs.started j (heq ▸ hj)
    · rw [heq, List.mem_singleton] at hj
      exact hj ▸ hmine
  · rcases hstarts with heq | ⟨heq, -⟩
    · rw [heq]
      exact hs.once
    · rw [heq]
      exact le_rfl

variable [DecidableEq ι]

/-- Nobody else's calls are touched by a call of `i` that leaves the key's row. -/
theorem rely_of_row (h : requestCalls W i c s r t)
    (hrow : t.store.idempotency key = s.store.idempotency key) :
    ∀ j, j ≠ i → Rely C key j s t := by
  intro j hj
  refine ⟨(now_of_faulty h.1).ge, fun record hs => ⟨record, hrow.trans hs, .refl record⟩,
    fun record ht _ => hrow ▸ ht, ?_⟩
  rw [h.2, calls_append_of_ne (Ne.symm hj)]

/-- **The claim of the key.** -/
theorem Consistent.claim {body : CreatePaymentRequest} {createdAt : Text}
    {r : Except Failure Bool} (hs : Consistent C sha256 key s) (hkeyed : Keyed C key i body)
    (h : requestCalls W i
      (.tryInsert key (C.paymentId i) (sha256 (bodyText body)) createdAt) s r t)
    (hr : r = .ok true) :
    Consistent C sha256 key t ∧ (∀ j, j ≠ i → Rely C key j s t) ∧
      ∃ record, t.store.idempotency key = some record ∧ record.paymentId = C.paymentId i ∧
        record.responseBody = none := by
  subst hr
  obtain ⟨-, hnone, expiresAt, hinsert⟩ | ⟨hne, -, -⟩ := tryInsert_of_faulty h.1
  swap
  · exact absurd rfl hne
  set record : IdempotencyRecord := ⟨key, C.paymentId i, sha256 (bodyText body), none, none,
    createdAt, expiresAt⟩ with hrecord
  have hrow : t.store.idempotency key = some record := by
    rw [hinsert, Function.update_self]
  have hstarts : starts key t.history = [] := by
    have hbefore : starts key s.history = [] := by
      refine List.eq_nil_iff_forall_not_mem.mpr fun j hj => ?_
      obtain ⟨record, hold, -⟩ := hs.started j hj
      rw [hnone] at hold
      cases hold
    rw [h.2, starts_append_of_ne (by simp), hbefore]
  refine ⟨⟨?_, ?_, ?_, ?_, ?_, ?_, ?_⟩, fun j hj => ⟨(now_of_faulty h.1).ge, ?_, ?_, ?_⟩,
    record, hrow, rfl, rfl⟩
  · -- the row is that of `i`
    intro record' hrecord'
    rw [hrow] at hrecord'
    cases hrecord'
    exact ⟨Or.inl ⟨rfl, rfl⟩, i, body, hkeyed, rfl, rfl⟩
  · intro record' hrecord'
    rw [hrow] at hrecord'
    cases hrecord'
    refine ⟨i, rfl, C.paymentId i, sha256 (bodyText body), createdAt, ?_⟩
    rw [h.2]
    exact List.mem_append_right _ List.mem_cons_self
  · intro record' hrecord' hbody
    rw [hrow] at hrecord'
    cases hrecord'
    exact absurd rfl hbody
  · intro j record' hmem
    rw [h.2] at hmem
    rcases List.mem_append.mp hmem with hmem | hmem
    · -- there was no row that could have been found
      obtain ⟨-, old, hold, -⟩ := hs.found j record' hmem
      rw [hnone] at hold
      cases hold
    · cases List.mem_singleton.mp hmem
  · intro j paymentId requestHash createdAt' hmem
    rw [h.2] at hmem
    rcases List.mem_append.mp hmem with hmem | hmem
    · -- nor one that could have been claimed
      obtain ⟨old, hold, -⟩ := hs.winner j paymentId requestHash createdAt' hmem
      rw [hnone] at hold
      cases hold
    · cases List.mem_singleton.mp hmem
      exact ⟨record, hrow, rfl⟩
  · intro j hj
    rw [hstarts] at hj
    cases hj
  · rw [hstarts]
    exact Nat.zero_le 1
  · intro old hold
    rw [hnone] at hold
    cases hold
  · intro record' hrecord' hid
    rw [hrow] at hrecord'
    cases hrecord'
    exact absurd (C.paymentId_injective hid).symm hj
  · rw [h.2, calls_append_of_ne (Ne.symm hj)]

/-- **The caching of the answer**, by the claimant, whose run has not failed. -/
theorem Consistent.cache {record : IdempotencyRecord} {response : PaymentResponse}
    {r : Except Failure Unit} (hs : Consistent C sha256 key s)
    (h : requestCalls W i (.updateResponse key 201 response) s r t) (hr : r = .ok ())
    (hrow : s.store.idempotency key = some record) (hmine : record.paymentId = C.paymentId i)
    (hresponse : response.paymentId = C.paymentId i ∧ response.status = .queued)
    (hrun : ¬ RunFailed C (C.paymentId i) s.history) :
    Consistent C sha256 key t ∧ (∀ j, j ≠ i → Rely C key j s t) ∧
      ∃ record', t.store.idempotency key = some record' ∧ record'.paymentId = C.paymentId i := by
  subst hr
  obtain ⟨-, hupdate⟩ | ⟨⟨e, he⟩, -⟩ := updateResponse_of_faulty h.1
  swap
  · cases he
  -- the row keeps its claim, so whatever was said of the claim is said of the new row
  set record' : IdempotencyRecord :=
    { record with responseStatus := some 201, responseBody := some response } with hrecord'
  have hrow' : t.store.idempotency key = some record' := by
    rw [hupdate, updateResponse, Function.update_self, hrow]
    rfl
  have hsame : ∀ {old}, s.store.idempotency key = some old → SameClaim old record' := by
    intro old hold
    rw [hrow] at hold
    cases hold
    exact ⟨rfl, rfl, rfl⟩
  have hstarts : starts key t.history = starts key s.history := by
    rw [h.2, starts_append_of_ne (by simp)]
  refine ⟨⟨?_, ?_, ?_, ?_, ?_, ?_, ?_⟩, fun j hj => ⟨(now_of_faulty h.1).ge, ?_, ?_, ?_⟩,
    record', hrow', hmine⟩
  · intro record'' hrecord''
    rw [hrow'] at hrecord''
    cases hrecord''
    exact ⟨Or.inr ⟨response, rfl, rfl, hresponse.1.trans hmine.symm, hresponse.2⟩,
      (hs.claimed record hrow).2⟩
  · intro record'' hrecord''
    rw [hrow'] at hrecord''
    cases hrecord''
    obtain ⟨j, hj, hclaims⟩ := hs.byClaimant record hrow
    rw [h.2]
    exact ⟨j, hj, hclaims.append⟩
  · intro record'' hrecord'' _ hfailed
    rw [hrow'] at hrecord''
    cases hrecord''
    rw [h.2] at hfailed
    rcases hfailed.of_append with hbefore | ⟨-, hc, -⟩
    · rw [show record'.paymentId = C.paymentId i from hmine] at hbefore
      exact hrun hbefore
    · cases hc
  · intro j found hmem
    rw [h.2] at hmem
    rcases List.mem_append.mp hmem with hmem | hmem
    · obtain ⟨hcached, old, hold, hclaim⟩ := hs.found j found hmem
      exact ⟨hcached, record', hrow', hclaim.trans (hsame hold)⟩
    · cases List.mem_singleton.mp hmem
  · intro j paymentId requestHash createdAt hmem
    rw [h.2] at hmem
    rcases List.mem_append.mp hmem with hmem | hmem
    · obtain ⟨old, hold, hid⟩ := hs.winner j paymentId requestHash createdAt hmem
      exact ⟨record', hrow', (hsame hold).paymentId.trans hid⟩
    · cases List.mem_singleton.mp hmem
  · intro j hj
    rw [hstarts] at hj
    obtain ⟨old, hold, hid⟩ := hs.started j hj
    exact ⟨record', hrow', (hsame hold).paymentId.trans hid⟩
  · rw [hstarts]
    exact hs.once
  · intro old hold
    exact ⟨record', hrow', hsame hold⟩
  · intro record'' hrecord'' hid
    rw [hrow'] at hrecord''
    cases hrecord''
    exact absurd (C.paymentId_injective (hid.symm.trans hmine)) hj
  · rw [h.2, calls_append_of_ne (Ne.symm hj)]

end Calls

end MipitCore.Api
