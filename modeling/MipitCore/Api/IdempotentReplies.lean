import MipitCore.Api.Answers

/-!
# The replies to requests with one idempotency key

From what each request does (`Answer`) and what is true of the key's row at any time
(`Consistent`) follows what the replies say: the key starts at most one payment, and all
replies name it. What replies say of that payment is true as long as nobody asks again after
its run has failed or its row has expired: the run goes on, or it has reached `QUEUED`. A
conflict is noticed by the requests that find the row at their first lookup.

## Main definitions

* `Runs` — the run for a payment goes on, or has reached `QUEUED`
* `TruthfulAnswers`, `TimelyLookups`

## Main results

* `requests_safe`
* `at_most_one_payment`
* `truthful_answers`
* `conflict_iff`
-/

namespace MipitCore.Api

open Js Foundation Pipeline Persistence

/-! ### What replies say -/

section Replies

theorem errorReply_paymentId (traceId : Option Text) (err : Failure) :
    (errorReply traceId err).paymentId = none := by
  cases err <;> rfl

theorem errorReply_status (traceId : Option Text) (err : Failure) :
    400 ≤ (errorReply traceId err).status ∧ (errorReply traceId err).status ≠ 409 := by
  cases err <;> simp [errorReply, Failure.statusCode]

/-- A reply from a row names the row's payment, whether or not an answer is cached. -/
theorem replay_paymentId {record : IdempotencyRecord} (h : Cached record) :
    (replay (some record)).paymentId = some record.paymentId := by
  rcases h with ⟨hbody, -⟩ | ⟨response, hbody, -, hid, -⟩
  · simp [replay, Reply.paymentId, hbody]
  · simp [replay, Reply.paymentId, hbody, hid]

theorem replay_status {winner : Option IdempotencyRecord}
    (h : ∀ record, winner = some record → Cached record) : (replay winner).status ≠ 409 := by
  cases winner with
  | none => decide
  | some record =>
    rcases h record rfl with ⟨-, hstatus⟩ | ⟨response, -, hstatus, -, -⟩
    · simp [replay, hstatus]
    · simp [replay, hstatus]

end Replies

/-! ### Runs -/

section Runs

variable {ι : Type} [DecidableEq ι] {W : Collaborators} {C : Clients ι} {sha256 : Text → Text}
  {store : Store} {key : Text} {i j : ι} {d : Config (Logged ι) ι (Service Reply)}
  {path : List (RequestStep ι)} {body : CreatePaymentRequest} {reply : Reply}

omit [DecidableEq ι] in
theorem Keyed.body_eq {body' : CreatePaymentRequest} (h : Keyed C key i body)
    (h' : Keyed C key i body') : body = body' :=
  Option.some.inj (h.body.symm.trans h'.body)

/-- What is known of a request when it is answered. -/
def Answered (C : Clients ι) (sha256 : Text → Text) (key : Text) (i : ι) (t : Logged ι)
    (r : Except Failure Reply) : Prop :=
  (∀ body, Keyed C key i body → ∃ reply, r = .ok reply ∧ Answer C sha256 key i body t reply) ∧
    (createPaymentSchema (C.request i).body = none →
      r = .ok (errorReply (C.request i).traceId .invalidRequest))

omit [DecidableEq ι] in
theorem consistent_start (C : Clients ι) (sha256 : Text → Text) (key : Text) (store : Store) :
    Consistent C sha256 key (C.start sha256 store).store := by
  have hrow : ∀ record, (C.start sha256 store).store.store.idempotency key ≠ some record := by
    intro record h
    cases h
  refine ⟨fun record h => absurd h (hrow record), fun record h => absurd h (hrow record),
    fun record h => absurd h (hrow record), ?_, ?_, ?_, Nat.zero_le 1⟩
  · intro i record h
    exact absurd h List.not_mem_nil
  · intro i paymentId requestHash createdAt h
    exact absurd h List.not_mem_nil
  · intro i h
    exact absurd h List.not_mem_nil

/-- **In every state that an interleaving reaches**, the key's row, its claimant and the history are
consistent, and every request keeps to its discipline. -/
theorem requests_safe (h : (requests W).toLTS.Run (C.start sha256 store) path d) (key : Text) :
    Consistent C sha256 key d.store ∧ ∀ i, (d.locals i).Safe (requestCalls W i)
      (keyDiscipline C sha256 key i) (Answered C sha256 key i) d.store := by
  refine Program.safe_run (D := keyDiscipline C sha256 key) (fun _ => rfl) ?_ ?_ ?_ ?_ h
  · intro i j s t hij _ hguarantee
    exact hguarantee i (Ne.symm hij)
  · rintro s t hs ⟨hnow, htable, hhistory⟩
    have hrow : t.store.idempotency key = s.store.idempotency key := by rw [htable]
    refine ⟨⟨?_, ?_, ?_, ?_, ?_, ?_, ?_⟩, fun i => ⟨hnow, fun record hs => ⟨record, hrow.trans hs,
      .refl record⟩, fun record ht _ => hrow ▸ ht, by rw [hhistory]⟩⟩
    · rw [hrow]
      exact hs.claimed
    · rw [hrow, hhistory]
      exact hs.byClaimant
    · rw [hrow, hhistory]
      exact hs.succeeded
    · rw [hrow, hhistory]
      exact hs.found
    · rw [hrow, hhistory]
      exact hs.winner
    · rw [hrow, hhistory]
      exact hs.started
    · rw [hhistory]
      exact hs.once
  · exact consistent_start C sha256 key store
  · intro i
    cases hbody : createPaymentSchema (C.request i).body with
    | none =>
      -- the body is refused, without any call
      have hprog : postPayments sha256 (C.request i) (C.draws i) =
          .done (.ok (errorReply (C.request i).traceId .invalidRequest)) := by
        simp only [postPayments, handleRequest, hbody]
        rfl
      change (postPayments sha256 (C.request i) (C.draws i)).Safe _ _ _ _
      rw [hprog]
      refine Program.Safe.pure fun t _ _ => ⟨fun body hkeyed => ?_, fun _ => rfl⟩
      rw [hkeyed.body] at hbody
      cases hbody
    | some body =>
      by_cases hkey : (C.request i).key = some key
      · have hkeyed : Keyed C key i body := ⟨hkey, hbody⟩
        refine (keyed_safe hkeyed rfl).mono fun t r _ hreplied => ?_
        obtain ⟨reply, hr, hanswer⟩ := hreplied
        refine ⟨?_, ?_⟩
        · intro body' hkeyed'
          rw [hkeyed'.body_eq hkeyed]
          exact ⟨reply, hr, hanswer⟩
        · intro hnone
          rw [hbody] at hnone
          cases hnone
      · refine (foreign_safe (postPayments_foreign (Or.inl hkey))
          fun body' hkeyed => hkey hkeyed.key).mono fun t r _ _ => ⟨?_, ?_⟩
        · exact fun body' hkeyed => absurd hkeyed.key hkey
        · intro hnone
          rw [hbody] at hnone
          cases hnone

/-- What a request has done when it was answered. -/
theorem answered_of_done {r : Except Failure Reply}
    (h : (requests W).toLTS.Run (C.start sha256 store) path d)
    (hreply : d.locals i = .done r) (key : Text) : Answered C sha256 key i d.store r := by
  obtain ⟨hinv, hsafe⟩ := requests_safe h key
  have hi := hsafe i
  rw [hreply] at hi
  exact hi d.store hinv ((keyDiscipline C sha256 key i).refl _)

theorem answer_of_done (h : (requests W).toLTS.Run (C.start sha256 store) path d)
    (hkeyed : Keyed C key i body) (hreply : d.locals i = .done (.ok reply)) :
    Answer C sha256 key i body d.store reply := by
  obtain ⟨reply', heq, hanswer⟩ := (answered_of_done h hreply key).1 body hkeyed
  cases heq
  exact hanswer

/-- A payment that a reply names is that of the key's row. -/
theorem paymentId_of_answer {s : Logged ι} {id : Text} (hs : Consistent C sha256 key s)
    (h : Answer C sha256 key i body s reply) (hid : reply.paymentId = some id) :
    ∃ record, s.store.idempotency key = some record ∧ record.paymentId = id := by
  -- a reply that is replayed names the payment of the row, which is still there
  have hreplayed : ∀ {record}, (i, ⟨.findByKey key, .ok (some record)⟩) ∈ s.history →
      (replay (some record)).paymentId = some id →
        ∃ record, s.store.idempotency key = some record ∧ record.paymentId = id := by
    intro record hmem heq
    obtain ⟨hcached, record', hrow, hsame⟩ := hs.found i record hmem
    rw [replay_paymentId hcached] at heq
    exact ⟨record', hrow, hsame.paymentId.trans (Option.some.inj heq)⟩
  cases h with
  | failed err _ _ =>
    rw [errorReply_paymentId] at hid
    cases hid
  | found record hcalls =>
    unfold answerExisting at hid
    split at hid
    · cases hid
    · refine hreplayed ?_ hid
      rw [← mem_calls, hcalls]
      exact List.mem_cons_self
  | lost winner createdAt hcalls _ =>
    cases winner with
    | none => cases hid
    | some record =>
      refine hreplayed ?_ hid
      rw [← mem_calls, hcalls]
      simp
  | created result hrow hresult _ _ =>
    obtain ⟨record, hrecord, hmine⟩ := hrow
    refine ⟨record, hrecord, hmine.trans ?_⟩
    rw [← hresult.1]
    exact Option.some.inj hid

end Runs

/-! ### Two requests with one key -/

namespace Example

/-- A request from one PIX key to another. -/
def body (creditor : String) : JsValue := .object
  [("amount", .number (.fin 100)), ("currency", .string (js "BRL")),
    ("debtor", .object [("alias", .string (js "PIX-ana"))]),
    ("creditor", .object [("alias", .string (js creditor))])]

/-- The ULIDs of the two requests differ in their last digit. -/
def ulid (i : Bool) : Ulid :=
  if i then ⟨js "01BX5ZZKBKACTAV9WEVGEMMVRY", by decide⟩
  else ⟨js "01BX5ZZKBKACTAV9WEVGEMMVRZ", by decide⟩

/-- Two requests with one key, the second to the given creditor. -/
def clients (creditor : String) : Clients Bool where
  request i := ⟨body (if i then creditor else "PIX-bob"), some (js "key-1"), none⟩
  draws i := { Pipeline.Example.draws with
    paymentUlid := ulid i, claimedAt := Pipeline.Example.datetime }
  ulid_injective := by
    intro i j h
    cases i <;> cases j <;> first | rfl | exact absurd (congrArg Subtype.val h) (by decide)

/-- A digest that is known for two texts. -/
def digest (bob eva text : Text) : Text :=
  if text = bob then js "69a72b4fb4603ab904317561ac72865e87a09acce24a75422cb5efa68392add9"
  else if text = eva then js "19bbe620d60a2c4072edf70d4125a72da5bae5a71564a2e812aac64ebe552ec9"
  else js "x" ++ text

/-- The text that a digest is of. -/
def ofDigest (bob eva text : Text) : Text :=
  if text = js "69a72b4fb4603ab904317561ac72865e87a09acce24a75422cb5efa68392add9" then bob
  else if text = js "19bbe620d60a2c4072edf70d4125a72da5bae5a71564a2e812aac64ebe552ec9" then eva
  else text.drop 1

theorem digest_injective (bob eva : Text) : Function.Injective (digest bob eva) := by
  have hx : ∀ (known : String) (text : Text), (js known).head? ≠ some (CodeUnit.ascii 'x') →
      js "x" ++ text ≠ js known := by
    intro known text hne heq
    rw [← heq] at hne
    exact hne rfl
  refine Function.LeftInverse.injective (g := ofDigest bob eva) fun text => ?_
  unfold digest
  split
  · rename_i htext
    rw [ofDigest, if_pos rfl, htext]
  · split
    · rename_i htext
      rw [ofDigest, if_neg (by decide), if_pos rfl, htext]
    · rw [ofDigest, if_neg (hx _ _ (by decide)), if_neg (hx _ _ (by decide))]
      rfl

/-- The digests of the two bodies that occur. -/
def sha256 : Text → Text :=
  digest (((createPaymentSchema (body "PIX-bob")).map bodyText).getD [])
    (((createPaymentSchema (body "PIX-eva")).map bodyText).getD [])

def answerCall (host : Host) (i : Bool) (c : Call) (s : Logged Bool) :
    Option (Except Failure c.Result × Logged Bool) :=
  let answer := c.respond host s.store
  some (answer.1, ⟨answer.2, s.history ++ [(i, ⟨c, answer.1⟩)]⟩)

theorem requestCalls_answerCall {host : Host} {i : Bool} {c : Call} {s t : Logged Bool}
    {r : Except Failure c.Result} (h : answerCall host i c s = some (r, t)) :
    requestCalls host.collaborators i c s r t := by
  cases h
  exact ⟨Or.inl (Call.answer_respond host _ _), rfl⟩

/-- The calls of the two requests in the given order. -/
def interleaving (host : Host) (creditor : String) (order : List Bool) :
    List (RequestStep Bool) × Config (Logged Bool) Bool (Service Reply) :=
  Program.schedule (answerCall host) order
    ((clients creditor).start sha256 Pipeline.Example.store)

theorem run_interleaving (host : Host) (creditor : String) (order : List Bool) :
    (requests host.collaborators).toLTS.Run
      ((clients creditor).start sha256 Pipeline.Example.store)
      (interleaving host creditor order).1 (interleaving host creditor order).2 :=
  Program.run_schedule (f := answerCall host) (fun _ _ _ _ _ h => requestCalls_answerCall h) _ _

/-- Both requests look the key up, the first wins the claim, and the second looks it up again. -/
def lostClaim : List Bool := [false, true, false, true, true]

/-- The first request goes on afterwards. -/
def race : List Bool := lostClaim ++ List.replicate 20 false

/-- The route engine finds no rule. -/
def unrouted : Host :=
  { Pipeline.Example.host with resolve := fun _ => .error (.error (js "No route rule matched")) }

/-- The first request fails, and the second is answered afterwards. -/
def retried : List Bool := List.replicate 14 false ++ [true]

/-- The reply of a request that was answered. -/
def replyOf : Service Reply → Option Reply
  | .done (.ok reply) => some reply
  | _ => none

theorem eq_done_of_replyOf {prog : Service Reply} {reply : Reply}
    (h : replyOf prog = some reply) : prog = .done (.ok reply) := by
  unfold replyOf at h
  split at h
  · rw [Option.some.inj h]
  · cases h

/-- A failed call of the pipeline of request `i`. -/
def isFailure (i : Bool) (e : Bool × Outcome Call Call.Result Failure) : Bool :=
  e.1 == i && isPipelineCall e.2.call && !e.2.result.isOk

theorem runFailed_of_any {C : Clients Bool} {i : Bool} {history : CallLog Bool}
    (h : history.any (isFailure i) = true) : RunFailed C (C.paymentId i) history := by
  obtain ⟨⟨j, c, r⟩, hmem, hfailed⟩ := List.any_eq_true.mp h
  simp only [isFailure, Bool.and_eq_true, beq_iff_eq] at hfailed
  obtain ⟨⟨rfl, hc⟩, hr⟩ := hfailed
  cases r with
  | ok a => cases hr
  | error err => exact ⟨j, c, err, rfl, hmem, hc⟩

end Example

section AtMostOnce

variable {ι : Type} [DecidableEq ι] {W : Collaborators} {C : Clients ι} {sha256 : Text → Text}
  {store : Store} {key : Text} {i j : ι} {d : Config (Logged ι) ι (Service Reply)}
  {path : List (RequestStep ι)} {body : CreatePaymentRequest} {reply : Reply}

/-- **A key starts at most one payment, and all replies for it name the same one.** -/
theorem at_most_one_payment (h : (requests W).toLTS.Run (C.start sha256 store) path d)
    (key : Text) :
    (starts key d.store.history).length ≤ 1 ∧
      ∀ i j reply reply' id id', (C.request i).key = some key → (C.request j).key = some key →
        d.locals i = .done (.ok reply) → d.locals j = .done (.ok reply') →
          reply.paymentId = some id → reply'.paymentId = some id' → id = id' := by
  obtain ⟨hinv, -⟩ := requests_safe h key
  have hrow : ∀ i reply id, (C.request i).key = some key → d.locals i = .done (.ok reply) →
      reply.paymentId = some id →
        ∃ record, d.store.store.idempotency key = some record ∧ record.paymentId = id := by
    intro i reply id hkey hreply hid
    cases hbody : createPaymentSchema (C.request i).body with
    | none =>
      have heq := Except.ok.inj ((answered_of_done h hreply key).2 hbody)
      rw [heq, errorReply_paymentId] at hid
      cases hid
    | some body => exact paymentId_of_answer hinv (answer_of_done h ⟨hkey, hbody⟩ hreply) hid
  refine ⟨hinv.once, fun i j reply reply' id id' hi hj hreply hreply' hid hid' => ?_⟩
  obtain ⟨record, hrecord, rfl⟩ := hrow i reply id hi hreply hid
  obtain ⟨record', hrecord', rfl⟩ := hrow j reply' id' hj hreply' hid'
  rw [hrecord] at hrecord'
  cases hrecord'
  rfl

end AtMostOnce

/-- In the race, both replies name the payment of the first request. -/
theorem at_most_one_payment_race : ∃ reply reply' id id',
    (Example.interleaving Pipeline.Example.host "PIX-bob" Example.race).2.locals false =
        .done (.ok reply) ∧
      (Example.interleaving Pipeline.Example.host "PIX-bob" Example.race).2.locals true =
        .done (.ok reply') ∧
      reply.paymentId = some id ∧ reply'.paymentId = some id' ∧ id = id' := by
  have hreplies : ∀ i, ∃ reply id,
      Example.replyOf ((Example.interleaving Pipeline.Example.host "PIX-bob"
        Example.race).2.locals i) = some reply ∧ reply.paymentId = some id := by
    have hsome : ∀ i, ((Example.replyOf ((Example.interleaving Pipeline.Example.host "PIX-bob"
        Example.race).2.locals i)).bind Reply.paymentId).isSome = true := by decide +kernel
    intro i
    obtain ⟨id, hid⟩ := Option.isSome_iff_exists.mp (hsome i)
    obtain ⟨reply, hreply, hid⟩ := Option.bind_eq_some_iff.mp hid
    exact ⟨reply, id, hreply, hid⟩
  obtain ⟨reply, id, hreply, hid⟩ := hreplies false
  obtain ⟨reply', id', hreply', hid'⟩ := hreplies true
  have hreply := Example.eq_done_of_replyOf hreply
  have hreply' := Example.eq_done_of_replyOf hreply'
  exact ⟨reply, reply', id, id', hreply, hreply', hid, hid',
    (at_most_one_payment (Example.run_interleaving _ _ _) (js "key-1")).2 false true reply reply'
      id id' rfl rfl hreply hreply' hid hid'⟩

/-! ### When replies are true -/

section Truth

variable {ι : Type} [DecidableEq ι] {W : Collaborators} {C : Clients ι} {sha256 : Text → Text}
  {store : Store} {key : Text} {i j : ι} {d : Config (Logged ι) ι (Service Reply)}
  {path : List (RequestStep ι)} {body : CreatePaymentRequest} {reply : Reply}

/-- The run for a payment: the request that claimed the key for it is not answered yet, or its run has
reached `QUEUED`; and the run has not failed. -/
def Runs (C : Clients ι) (key paymentId : Text) (d : Config (Logged ι) ι (Service Reply)) : Prop :=
  ∃ j, C.paymentId j = paymentId ∧ Claims key j d.store.history ∧
    ((∀ r, d.locals j ≠ .done r) ∨ ReachedQueued C j d.store.history) ∧
      ¬ RunFailed C paymentId d.store.history

/-- Whenever a request with the key is told that a payment is queued, it is told which, and that
payment's run goes on, or has reached `QUEUED`. -/
def TruthfulAnswers (C : Clients ι) (key : Text) (path : List (RequestStep ι)) : Prop :=
  ∀ e ∈ path, ∀ i o reply, e.label = some (i, o) → (C.request i).key = some key →
    e.target.locals i = .done (.ok reply) → reply.SaysQueued →
      ∃ id, reply.paymentId = some id ∧ Runs C key id e.target

/-- Request `i` has tried to claim the key. -/
def Tried (key : Text) (i : ι) (history : CallLog ι) : Prop :=
  ∃ paymentId requestHash createdAt r,
    (i, ⟨.tryInsert key paymentId requestHash createdAt, r⟩) ∈ history

/-- The step is a call of the pipeline that fails, of a request with the key. -/
def FailsRun (C : Clients ι) (key : Text) (e : RequestStep ι) : Prop :=
  ∃ i c err, e.label = some (i, ⟨c, .error err⟩) ∧ (C.request i).key = some key ∧
    isPipelineCall c = true

/-- No request asks too late. When it looks the key up, no call of a run for the key has failed
before, and if it has lost the claim, the row has not expired. A first lookup that finds the row of
another body is exempt. -/
def TimelyLookups (C : Clients ι) (sha256 : Text → Text) (key : Text)
    (path : List (RequestStep ι)) : Prop :=
  ∀ before e after, path = before ++ e :: after → ∀ i result body,
    e.label = some (i, ⟨.findByKey key, .ok result⟩) → Keyed C key i body →
      ((∀ e' ∈ before, ¬ FailsRun C key e') ∧
        (Tried key i e.source.store.history →
          findByKey e.source.store.store.now key e.source.store.store.idempotency ≠ none)) ∨
      (¬ Tried key i e.source.store.history ∧ ∃ record,
        findByKey e.source.store.store.now key e.source.store.store.idempotency = some record ∧
          record.requestHash ≠ sha256 (bodyText body))

/-- A step of a request is one of its calls, on the store as it was. -/
theorem call_of_label {e : RequestStep ι} {o : Outcome Call Call.Result Failure}
    (hstep : (requests W).toLTS e.source e.label e.target) (hlabel : e.label = some (i, o)) :
    requestCalls W i o.call e.source.store o.result e.target.store := by
  rcases Program.processes_cases hstep with ⟨j, c, next, r, -, hl, hcall, -⟩ | ⟨hl, -, -⟩
  · rw [hlabel] at hl
    cases hl
    exact hcall
  · rw [hlabel] at hl
    cases hl

/-- The last call of a request that was answered from a row is the lookup of that row. -/
theorem lookup_of_calls {e : RequestStep ι} {o : Outcome Call Call.Result Failure}
    {before : List (Outcome Call Call.Result Failure)} {found : Option IdempotencyRecord}
    (hstep : (requests W).toLTS e.source e.label e.target) (hlabel : e.label = some (i, o))
    (hcalls : calls i e.target.store.history = before ++ [⟨.findByKey key, .ok found⟩]) :
    o = ⟨.findByKey key, .ok found⟩ ∧ calls i e.source.store.history = before ∧
      found = findByKey e.source.store.store.now key e.source.store.store.idempotency := by
  have hcall := call_of_label hstep hlabel
  obtain ⟨c, r⟩ := o
  rw [hcall.2, calls_append] at hcalls
  obtain ⟨hbefore, ho⟩ := List.append_inj' hcalls rfl
  have hlast : (⟨c, r⟩ : Outcome Call Call.Result Failure) = ⟨.findByKey key, .ok found⟩ :=
    List.singleton_inj.mp ho
  cases hlast
  refine ⟨rfl, hbefore, ?_⟩
  rcases (findByKey_of_faulty hcall.1).1 with heq | ⟨err, herr⟩
  · exact Except.ok.inj heq
  · cases herr

/-- The calls that were made are those of the run's steps. -/
theorem label_of_mem (h : (requests W).toLTS.Run (C.start sha256 store) path d) :
    ∀ j o, (j, o) ∈ d.store.history → ∃ e ∈ path, e.label = some (j, o) := by
  refine h.induct (I := fun path d => ∀ j o, (j, o) ∈ d.store.history →
    ∃ e ∈ path, e.label = some (j, o)) (fun j o hmem => absurd hmem List.not_mem_nil) ?_
  intro path t l u _ ih hstep j o hmem
  have hbefore : (j, o) ∈ t.store.history →
      ∃ e ∈ path ++ [⟨t, l, u⟩], e.label = some (j, o) := fun hold => by
    obtain ⟨e, he, hlabel⟩ := ih j o hold
    exact ⟨e, List.mem_append_left _ he, hlabel⟩
  rcases Program.processes_cases hstep with ⟨k, c, next, r, -, rfl, hcall, -⟩ | ⟨-, helse, -⟩
  · rw [hcall.2] at hmem
    rcases List.mem_append.mp hmem with hold | hnew
    · exact hbefore hold
    · cases List.mem_singleton.mp hnew
      exact ⟨_, List.mem_append_right _ List.mem_cons_self, rfl⟩
  · rw [helse.2.2] at hmem
    exact hbefore hmem

omit [DecidableEq ι] in
/-- The request that a row is of carries the key, and has claimed it. -/
theorem claimant_of_row {s : Logged ι} {record : IdempotencyRecord} (hs : Consistent C sha256 key s)
    (hrow : s.store.idempotency key = some record) :
    ∃ j body, Keyed C key j body ∧ record.paymentId = C.paymentId j ∧ Claims key j s.history := by
  obtain ⟨-, k, body, hkeyed, hk, -⟩ := hs.claimed record hrow
  obtain ⟨j, hj, hclaims⟩ := hs.byClaimant record hrow
  obtain rfl : k = j := C.paymentId_injective (hk.symm.trans hj)
  exact ⟨k, body, hkeyed, hj, hclaims⟩

/-- A claimant is answered when its run has reached `QUEUED` or failed. -/
theorem Answer.runOver {s : Logged ι} (h : Answer C sha256 key i body s reply)
    (hclaims : Claims key i s.history) :
    ReachedQueued C i s.history ∨ RunFailed C (C.paymentId i) s.history := by
  cases h with
  | failed err _ hover => exact hover hclaims
  | found record hcalls =>
    refine absurd hclaims (not_claims_of_calls ?_)
    rw [hcalls]
    rintro o ho paymentId requestHash createdAt rfl
    cases List.mem_singleton.mp ho
  | lost winner createdAt hcalls _ =>
    refine absurd hclaims (not_claims_of_calls ?_)
    rw [hcalls]
    rintro o ho paymentId requestHash createdAt' rfl
    simp only [List.mem_cons, List.not_mem_nil, or_false] at ho
    rcases ho with heq | heq | heq <;> cases heq
  | created result _ _ _ hqueued => exact Or.inl hqueued

/-- **The run of a row's payment** goes on, or has reached `QUEUED`, unless it has failed. -/
theorem runs_of_row (h : (requests W).toLTS.Run (C.start sha256 store) path d)
    {record : IdempotencyRecord} (hrow : d.store.store.idempotency key = some record)
    (hnot : ¬ RunFailed C record.paymentId d.store.history) : Runs C key record.paymentId d := by
  obtain ⟨j, body, hkeyed, hj, hclaims⟩ := claimant_of_row (requests_safe h key).1 hrow
  refine ⟨j, hj.symm, hclaims, ?_, hnot⟩
  by_cases hdone : ∃ r, d.locals j = .done r
  · obtain ⟨r, hr⟩ := hdone
    obtain ⟨reply, -, hanswer⟩ := (answered_of_done h hr key).1 body hkeyed
    rw [hj] at hnot
    exact Or.inr ((hanswer.runOver hclaims).resolve_right hnot)
  · exact Or.inl fun r hr => hdone ⟨r, hr⟩

/-- **Replies are true in the runs whose lookups are timely.** -/
theorem truthful_answers (h : (requests W).toLTS.Run (C.start sha256 store) path d) (key : Text)
    (htimely : TimelyLookups C sha256 key path) : TruthfulAnswers C key path := by
  intro e he i o reply hlabel hkey hreply hqueued
  obtain ⟨before, after, rfl⟩ := List.append_of_mem he
  obtain ⟨hbefore, hstep, -⟩ := h.split
  have hrun := hbefore.snoc hstep
  obtain ⟨hinv, -⟩ := requests_safe hrun key
  have herror : ∀ err, ¬ (errorReply (C.request i).traceId err).SaysQueued := fun err hsays => by
    have := (errorReply_status (C.request i).traceId err).1
    have := hsays.1.2
    omega
  cases hbody : createPaymentSchema (C.request i).body with
  | none =>
    rw [Except.ok.inj ((answered_of_done hrun hreply key).2 hbody)] at hqueued
    exact absurd hqueued (herror _)
  | some body =>
    have hkeyed : Keyed C key i body := ⟨hkey, hbody⟩
    -- a reply from a row: no run has failed before the lookup, and nothing has happened since
    have hreplayed : ∀ (earlier : List (Outcome Call Call.Result Failure)) {record},
        calls i e.target.store.history = earlier ++ [⟨.findByKey key, .ok (some record)⟩] →
        (∀ e' ∈ before, ¬ FailsRun C key e') →
          ∃ id, (replay (some record)).paymentId = some id ∧ Runs C key id e.target := by
      intro earlier record hcalls hunfailed
      obtain ⟨rfl, -, -⟩ := lookup_of_calls hstep hlabel hcalls
      have hmem : (i, ⟨.findByKey key, .ok (some record)⟩) ∈ e.target.store.history := by
        rw [← mem_calls, hcalls]
        exact List.mem_append_right _ List.mem_cons_self
      obtain ⟨hcached, record', hrow, hsame⟩ := hinv.found i record hmem
      refine ⟨record.paymentId, replay_paymentId hcached, ?_⟩
      rw [← hsame.paymentId]
      refine runs_of_row hrun hrow fun hfailed => ?_
      obtain ⟨k, body', hk, hid, -⟩ := claimant_of_row hinv hrow
      rw [(call_of_label hstep hlabel).2] at hfailed
      rcases hfailed.of_append with ⟨j, c, err, hj, hcall, hc⟩ | ⟨-, hc, -⟩
      · obtain ⟨e', he', hlabel'⟩ := label_of_mem hbefore j _ hcall
        obtain rfl : j = k := C.paymentId_injective (hj.trans hid)
        exact hunfailed e' he' ⟨j, c, err, hlabel', hk.key, hc⟩
      · cases hc
    cases answer_of_done hrun hkeyed hreply with
    | failed err _ _ => exact absurd hqueued (herror _)
    | found record hcalls =>
      unfold answerExisting at hqueued ⊢
      split at hqueued
      · exact hqueued.2.elim
      · rename_i hhash
        rw [if_neg hhash]
        have hfirst : calls i e.target.store.history = [] ++ [⟨.findByKey _, .ok (some record)⟩] :=
          hcalls
        obtain ⟨rfl, -, hfound⟩ := lookup_of_calls hstep hlabel hfirst
        refine hreplayed [] hcalls ?_
        rcases htimely before e after rfl i _ body hlabel hkeyed with ⟨hunfailed, -⟩ |
          ⟨-, record', hfound', hne⟩
        · exact hunfailed
        · -- the row that it finds is that of its own body
          rw [← hfound] at hfound'
          cases hfound'
          exact absurd hne hhash
    | lost winner createdAt hcalls _ =>
      have hcalls' : calls i e.target.store.history = [⟨.findByKey key, .ok none⟩,
          ⟨.tryInsert key (C.paymentId i) (sha256 (bodyText body)) createdAt, .ok false⟩] ++
            [⟨.findByKey key, .ok winner⟩] := hcalls
      obtain ⟨rfl, hsource, hfound⟩ := lookup_of_calls hstep hlabel hcalls'
      have htried : Tried key i e.source.store.history := by
        refine ⟨C.paymentId i, sha256 (bodyText body), createdAt, .ok false, ?_⟩
        rw [← mem_calls, hsource]
        exact List.mem_cons_of_mem _ List.mem_cons_self
      rcases htimely before e after rfl i _ body hlabel hkeyed with ⟨hunfailed, hunexpired⟩ |
        ⟨hnot, -⟩
      · cases winner with
        | some record => exact hreplayed _ hcalls' hunfailed
        | none => exact absurd hfound.symm (hunexpired htried)
      · exact absurd htried hnot
    | created result hrow hresult hcalls _ =>
      obtain ⟨record, hrecord, hmine⟩ := hrow
      refine ⟨result.paymentId, rfl, ?_⟩
      rw [hresult.1, ← hmine]
      refine runs_of_row hrun hrecord ?_
      rintro ⟨j, c, err, hj, hmem, -⟩
      rw [C.paymentId_injective (hj.trans hmine)] at hmem
      exact hcalls c err hmem

end Truth

namespace Example

/-- The second request is told that the payment is queued, after a call for the first has failed. -/
theorem retried_answered :
    (interleaving unrouted "PIX-bob" retried).1[14]?.map (fun e =>
      (e.label.map Prod.fst, replyOf (e.target.locals true),
        e.target.store.history.any (isFailure false))) =
      some (some true, some ⟨200, .queued (some ((clients "PIX-bob").paymentId false))⟩, true) := by
  decide +kernel

theorem retried_length : 14 < (interleaving unrouted "PIX-bob" retried).1.length := by
  obtain ⟨e, he, -⟩ := Option.map_eq_some_iff.mp retried_answered
  exact (List.getElem?_eq_some_iff.mp he).1

/-- The step in which the second request is answered. -/
def retry : RequestStep Bool := (interleaving unrouted "PIX-bob" retried).1.get ⟨14, retried_length⟩

end Example

/-- A retry is told that the payment is queued, although its run has failed. -/
theorem failed_payment_reported_queued :
    (requests Example.unrouted.collaborators).toLTS.Run
        ((Example.clients "PIX-bob").start Example.sha256 Pipeline.Example.store)
        (Example.interleaving Example.unrouted "PIX-bob" Example.retried).1
        (Example.interleaving Example.unrouted "PIX-bob" Example.retried).2 ∧
      ¬ TruthfulAnswers (Example.clients "PIX-bob") (js "key-1")
        (Example.interleaving Example.unrouted "PIX-bob" Example.retried).1 := by
  refine ⟨Example.run_interleaving _ _ _, fun htruthful => ?_⟩
  have hanswered := Example.retried_answered
  rw [List.getElem?_eq_getElem Example.retried_length, Option.map_some] at hanswered
  obtain ⟨hwho, hanswered⟩ := Prod.mk.inj (Option.some.inj hanswered)
  obtain ⟨hreply, hfailed⟩ := Prod.mk.inj hanswered
  change Example.retry.label.map Prod.fst = some true at hwho
  obtain ⟨⟨i, o⟩, hlabel, hi⟩ := Option.map_eq_some_iff.mp hwho
  obtain rfl : i = true := hi
  obtain ⟨id, hid, -, -, -, -, hrun⟩ := htruthful Example.retry (List.get_mem _ _) true o _ hlabel
    rfl (Example.eq_done_of_replyOf hreply) ⟨by decide, trivial⟩
  cases hid
  exact hrun (Example.runFailed_of_any hfailed)

namespace Example

/-- A step that is no failed call, and no second lookup of a row that has expired. -/
def isTimely (e : RequestStep Bool) : Bool :=
  (e.label.all fun call => call.2.result.isOk) &&
    match e.label with
    | some (i, ⟨.findByKey key, _⟩) =>
      (findByKey e.source.store.store.now key e.source.store.store.idempotency).isSome ||
        e.source.store.history.all fun call => call.1 != i
    | _ => true

theorem timelyLookups_of_all {C : Clients Bool} {sha256 : Text → Text} {key : Text}
    {path : List (RequestStep Bool)} (h : path.all isTimely = true) :
    TimelyLookups C sha256 key path := by
  rintro before e after rfl i result body hlabel -
  rw [List.all_append, List.all_cons, Bool.and_eq_true, Bool.and_eq_true] at h
  obtain ⟨hbefore, he, -⟩ := h
  refine Or.inl ⟨?_, fun htried hnone => ?_⟩
  · rintro e' he' ⟨j, c, err, hlabel', -, -⟩
    have hok := List.all_eq_true.mp hbefore e' he'
    simp only [isTimely, hlabel', Option.all_some, Bool.and_eq_true] at hok
    cases hok.1
  · obtain ⟨paymentId, requestHash, createdAt, r, hmem⟩ := htried
    simp only [isTimely, hlabel, hnone, Option.isSome_none, Bool.false_or, Bool.and_eq_true] at he
    have hne := List.all_eq_true.mp he.2 _ hmem
    simp at hne

end Example

theorem truthful_answers_lostClaim :
    TimelyLookups (Example.clients "PIX-bob") Example.sha256 (js "key-1")
        (Example.interleaving Pipeline.Example.host "PIX-bob" Example.lostClaim).1 ∧
      TruthfulAnswers (Example.clients "PIX-bob") (js "key-1")
        (Example.interleaving Pipeline.Example.host "PIX-bob" Example.lostClaim).1 :=
  have htimely := Example.timelyLookups_of_all (by decide +kernel)
  ⟨htimely, truthful_answers (Example.run_interleaving _ _ _) (js "key-1") htimely⟩

/-! ### When conflicts are noticed -/

section Conflicts

variable {ι : Type} [DecidableEq ι] {W : Collaborators} {C : Clients ι} {sha256 : Text → Text}
  {store : Store} {key : Text} {i j : ι} {d : Config (Logged ι) ι (Service Reply)}
  {path : List (RequestStep ι)} {body : CreatePaymentRequest} {reply : Reply}

omit [DecidableEq ι] in
/-- The row of a key carries the hash of its claimant's body. -/
theorem requestHash_of_claims {s : Logged ι} {body' : CreatePaymentRequest}
    {record : IdempotencyRecord} (hs : Consistent C sha256 key s) (hj : Keyed C key j body')
    (hclaim : Claims key j s.history) (hrow : s.store.idempotency key = some record) :
    record.paymentId = C.paymentId j ∧ record.requestHash = sha256 (bodyText body') := by
  obtain ⟨paymentId, requestHash, createdAt, hmem⟩ := hclaim
  obtain ⟨record', hrow', hid⟩ := hs.winner j paymentId requestHash createdAt hmem
  rw [hrow] at hrow'
  cases hrow'
  obtain ⟨-, k, body'', hk, hid', hhash⟩ := hs.claimed record hrow
  obtain rfl : k = j := C.paymentId_injective (hid'.symm.trans hid)
  rw [hk.body_eq hj] at hhash
  exact ⟨hid, hhash⟩

/-- **Conflicts are noticed by the requests that find the row at their first lookup.** An answered
request with an unexpired key is answered 409 exactly if its body differs from the claimant's,
unless it differs and the row was not found at the first lookup. -/
theorem conflict_iff (h : (requests W).toLTS.Run (C.start sha256 store) path d)
    (hsha : Function.Injective sha256) {body' : CreatePaymentRequest} (hi : Keyed C key i body)
    (hj : Keyed C key j body') (hclaim : Claims key j d.store.history)
    (hunexpired : findByKey d.store.store.now key d.store.store.idempotency ≠ none)
    (hreply : d.locals i = .done (.ok reply)) :
    ((body ≠ body' → reply.status = 409) ∧ (body = body' → reply.status ≠ 409)) ↔
      (body ≠ body' → FoundFirst key i d.store.history) := by
  obtain ⟨hinv, -⟩ := requests_safe h key
  obtain ⟨record, hrecord⟩ := Option.ne_none_iff_exists'.mp hunexpired
  have hrow := findByKey_eq_some hrecord
  obtain ⟨hid, hhash⟩ := requestHash_of_claims hinv hj hclaim hrow
  -- a reply other than 409 is right exactly for equal bodies
  have hother : reply.status ≠ 409 → (body ≠ body' → ¬ FoundFirst key i d.store.history) →
      (((body ≠ body' → reply.status = 409) ∧ (body = body' → reply.status ≠ 409)) ↔
        (body ≠ body' → FoundFirst key i d.store.history)) := by
    intro hstatus hnot
    by_cases hbody : body = body'
    · exact ⟨fun _ hne => absurd hbody hne, fun _ => ⟨fun hne => absurd hbody hne, fun _ => hstatus⟩⟩
    · exact ⟨fun hanswer => absurd (hanswer.1 hbody) hstatus,
        fun hfound => absurd (hfound hbody) (hnot hbody)⟩
  cases answer_of_done h hi hreply with
  | failed err hnot _ => exact hother (errorReply_status (C.request i).traceId err).2 fun _ => hnot
  | found existing hlookup =>
    have hmem : (i, ⟨.findByKey key, .ok (some existing)⟩) ∈ d.store.history := by
      rw [← mem_calls, hlookup]
      exact List.mem_cons_self
    have hfirst : FoundFirst key i d.store.history := ⟨existing, by rw [hlookup]; rfl⟩
    obtain ⟨hcached, record', hrow', hsame⟩ := hinv.found i existing hmem
    rw [hrow] at hrow'
    cases hrow'
    have hexisting : existing.requestHash = sha256 (bodyText body') :=
      hsame.requestHash.symm.trans hhash
    refine ⟨fun _ _ => hfirst, fun _ => ⟨fun hne => ?_, fun heq => ?_⟩⟩
    · rw [answerExisting, if_pos]
      · rfl
      · rw [hexisting]
        exact fun heq => hne (bodyText_injective (hsha heq.symm))
    · rw [answerExisting, if_neg]
      · refine replay_status fun r hr => ?_
        cases hr
        exact hcached
      · rw [hexisting, heq]
        exact not_not.mpr rfl
  | lost winner createdAt hlookups _ =>
    refine hother (replay_status fun r hr => ?_) fun _ => ?_
    · subst hr
      refine (hinv.found i r ?_).1
      rw [← mem_calls, hlookups]
      exact List.mem_cons_of_mem _ (List.mem_cons_of_mem _ List.mem_cons_self)
    · refine not_foundFirst_of_none ?_
      rw [hlookups]
      rfl
  | created result hmine _ _ _ =>
    -- the request is the claimant itself
    obtain ⟨record', hrow', hid'⟩ := hmine
    rw [hrow] at hrow'
    cases hrow'
    obtain rfl : i = j := C.paymentId_injective (hid'.symm.trans hid)
    exact hother (by simp [createdReply]) fun hne => absurd (hi.body_eq hj) hne

end Conflicts

namespace Example

/-- Both bodies are accepted. -/
theorem keyed_clients (i : Bool) : ∃ b, Keyed (clients "PIX-eva") (js "key-1") i b ∧
    b.creditor.alias.1 = js (if i then "PIX-eva" else "PIX-bob") := by
  have hsome : ((createPaymentSchema ((clients "PIX-eva").request i).body).map
      fun b => b.creditor.alias.1) = some (js (if i then "PIX-eva" else "PIX-bob")) := by
    revert i
    decide +kernel
  obtain ⟨b, hb, halias⟩ := Option.map_eq_some_iff.mp hsome
  exact ⟨b, ⟨rfl, hb⟩, halias⟩

/-- Request `i` has made a claim that succeeded. -/
def isClaim (i : Bool) (e : Bool × Outcome Call Call.Result Failure) : Bool :=
  match e with
  | (j, ⟨.tryInsert key _ _ _, .ok true⟩) => j == i && key == js "key-1"
  | _ => false

theorem claims_of_any {i : Bool} {history : CallLog Bool} (h : history.any (isClaim i) = true) :
    Claims (js "key-1") i history := by
  obtain ⟨e, hmem, he⟩ := List.any_eq_true.mp h
  unfold isClaim at he
  split at he
  · simp only [Bool.and_eq_true, beq_iff_eq] at he
    obtain ⟨rfl, rfl⟩ := he
    exact ⟨_, _, _, hmem⟩
  · cases he

/-- The first request has claimed the key, which has not expired, and the second is answered as the
first one was. -/
theorem lostClaim_done :
    (interleaving Pipeline.Example.host "PIX-eva" lostClaim).2.store.history.any (isClaim false) =
        true ∧
      findByKey (interleaving Pipeline.Example.host "PIX-eva" lostClaim).2.store.store.now
        (js "key-1")
        (interleaving Pipeline.Example.host "PIX-eva" lostClaim).2.store.store.idempotency ≠ none ∧
      replyOf ((interleaving Pipeline.Example.host "PIX-eva" lostClaim).2.locals true) =
        some ⟨200, .queued (some ((clients "PIX-eva").paymentId false))⟩ := by
  decide +kernel

theorem lostClaim_claims : Claims (js "key-1") false
    (interleaving Pipeline.Example.host "PIX-eva" lostClaim).2.store.history :=
  claims_of_any lostClaim_done.1

theorem lostClaim_unexpired :
    findByKey (interleaving Pipeline.Example.host "PIX-eva" lostClaim).2.store.store.now
      (js "key-1") (interleaving Pipeline.Example.host "PIX-eva" lostClaim).2.store.store.idempotency ≠
        none :=
  lostClaim_done.2.1

theorem lostClaim_reply :
    (interleaving Pipeline.Example.host "PIX-eva" lostClaim).2.locals true =
      .done (.ok ⟨200, .queued (some ((clients "PIX-eva").paymentId false))⟩) :=
  eq_done_of_replyOf lostClaim_done.2.2

end Example

/-- A request with another body that loses the claim is answered 200. -/
theorem conflict_unnoticed : ∃ b b',
    Keyed (Example.clients "PIX-eva") (js "key-1") true b ∧
      Keyed (Example.clients "PIX-eva") (js "key-1") false b' ∧ b ≠ b' ∧
      (requests Pipeline.Example.host.collaborators).toLTS.Run
        ((Example.clients "PIX-eva").start Example.sha256 Pipeline.Example.store)
        (Example.interleaving Pipeline.Example.host "PIX-eva" Example.lostClaim).1
        (Example.interleaving Pipeline.Example.host "PIX-eva" Example.lostClaim).2 ∧
      Claims (js "key-1") false
        (Example.interleaving Pipeline.Example.host "PIX-eva" Example.lostClaim).2.store.history ∧
      (Example.interleaving Pipeline.Example.host "PIX-eva" Example.lostClaim).2.locals true =
        .done (.ok ⟨200, .queued (some ((Example.clients "PIX-eva").paymentId false))⟩) := by
  obtain ⟨b, hb, halias⟩ := Example.keyed_clients true
  obtain ⟨b', hb', halias'⟩ := Example.keyed_clients false
  refine ⟨b, b', hb, hb', ?_, Example.run_interleaving _ _ _, Example.lostClaim_claims,
    Example.lostClaim_reply⟩
  rintro rfl
  rw [halias] at halias'
  exact absurd halias' (by decide)

theorem conflict_iff_lostClaim : ∃ b b',
    Keyed (Example.clients "PIX-eva") (js "key-1") true b ∧
      Keyed (Example.clients "PIX-eva") (js "key-1") false b' ∧
      ¬ (b ≠ b' → FoundFirst (js "key-1") true
        (Example.interleaving Pipeline.Example.host "PIX-eva" Example.lostClaim).2.store.history) := by
  obtain ⟨b, hb, halias⟩ := Example.keyed_clients true
  obtain ⟨b', hb', halias'⟩ := Example.keyed_clients false
  refine ⟨b, b', hb, hb', fun hfound => ?_⟩
  have hanswer := (conflict_iff (Example.run_interleaving _ _ _) (Example.digest_injective _ _) hb hb'
    Example.lostClaim_claims Example.lostClaim_unexpired Example.lostClaim_reply).mpr hfound
  have hne : b ≠ b' := by
    rintro rfl
    rw [halias] at halias'
    exact absurd halias' (by decide)
  exact absurd (hanswer.1 hne) (by decide)

end MipitCore.Api
