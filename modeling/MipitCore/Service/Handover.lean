import MipitCore.Api.IdempotentReplies
import MipitCore.Service.Provenance

/-!
# What requests hand to the rails

A client that repeats a request under one idempotency key, or sends it many times at once,
wants the money to move once. What moves it is the message to the adapter. Whatever else
goes wrong between the requests with one key, they hand over one message at most; and who
is told `201`, whether by the request that ran the pipeline or by one that was answered
from the key's row, is told the payment of that message.

## Main definitions

* `HandedOver`, `handedOver` — the messages of one payment, and of all requests with a key
* `Allows`, `Settles` — what a request has called before
* `Answerable` — whose answers the key's row has

## Main results

* `postPayments_ordered` — every request keeps to its order
* `handed_over_once` — **one message for a key**
-/

namespace MipitCore.Api

open Js Foundation Pipeline Persistence

section Requests

variable {ι : Type} {C : Clients ι} {sha256 : Text → Text} {key : Text} {i j : ι}
  {history : CallLog ι} {h : List CallOutcome}

/-- A message about the payment was handed to the broker. -/
def HandedOver (paymentId : Text) (h : List CallOutcome) : Prop :=
  ∃ message : AdapterMessage, message.paymentId = paymentId ∧
    Completed (.publishToAdapter message.destinationRail message) h

/-- The messages that requests with the key have handed to the broker. -/
def handedOver (C : Clients ι) (key : Text) (history : CallLog ι) : List AdapterMessage :=
  history.filterMap fun e =>
    match e.2 with
    | ⟨.publishToAdapter _ message, .ok _⟩ =>
      if (C.request e.1).key = some key then some message else none
    | _ => none

/-- What request `i` has called before it hands over a message, or stores its answer. -/
def Allows (C : Clients ι) (i : ι) (h : List CallOutcome) : Call → Prop
  | .publishToAdapter _ message => message.paymentId = C.paymentId i ∧
      (∃ p, p.idempotencyKey = (C.request i).key ∧ Completed (.create p) h) ∧
      ∀ o ∈ h, isPublish o.call = false
  | .updateResponse key _ _ => (C.request i).key = some key ∧
      (∃ requestHash createdAt,
        Returned (.tryInsert key (C.paymentId i) requestHash createdAt) true h) ∧
      HandedOver (C.paymentId i) h
  | _ => True

/-- Request `i` is told `201` after it has handed over the message of its own payment, or after it
has found an answer. -/
def Settles (C : Clients ι) (i : ι) (h : List CallOutcome) : Except Failure Reply → Prop
  | .ok reply => reply.status = 201 →
      (reply.paymentId = some (C.paymentId i) ∧ HandedOver (C.paymentId i) h) ∨
      ∃ key record, (C.request i).key = some key ∧ Returned (.findByKey key) (some record) h ∧
        reply = replay (some record)
  | .error _ => True

theorem HandedOver.mono {paymentId : Text} {h' : List CallOutcome} (hh : HandedOver paymentId h)
    (hsub : h ⊆ h') : HandedOver paymentId h' := by
  obtain ⟨message, hid, u, hmem⟩ := hh
  exact ⟨message, hid, u, hsub hmem⟩

theorem mem_handedOver {message : AdapterMessage} :
    message ∈ handedOver C key history ↔ ∃ i destination u, (C.request i).key = some key ∧
      (i, ⟨.publishToAdapter destination message, .ok u⟩) ∈ history := by
  simp only [handedOver, List.mem_filterMap]
  constructor
  · rintro ⟨⟨i, k, r⟩, hmem, hmessage⟩
    split at hmessage
    · next destination message' u heq =>
      obtain rfl : k = .publishToAdapter destination message' := congrArg Outcome.call heq
      obtain rfl : r = .ok u := by simpa using heq
      split_ifs at hmessage with hkey
      cases hmessage
      exact ⟨i, destination, u, hkey, hmem⟩
    · cases hmessage
  · rintro ⟨i, destination, u, hkey, hmem⟩
    exact ⟨_, hmem, by simp [hkey]⟩

theorem eq_of_mem_of_length_le_one {α : Type} {l : List α} {a b : α} (hl : l.length ≤ 1)
    (ha : a ∈ l) (hb : b ∈ l) : a = b := by
  cases l with
  | nil => cases ha
  | cons x l =>
    obtain rfl : l = [] := List.length_eq_zero_iff.mp (by simpa using hl)
    rw [List.mem_singleton.mp ha, List.mem_singleton.mp hb]

/-- Who stores a payment with the key has started. -/
theorem mem_starts {p : NewPayment} {r : Except Failure (Call.create p).Result}
    (hmem : (i, ⟨.create p, r⟩) ∈ history) (hkey : p.idempotencyKey = some key) :
    i ∈ starts key history := by
  simp only [starts, List.mem_filterMap]
  exact ⟨_, hmem, by simp [hkey]⟩

/-! ### The order of a request -/

/-- The pipeline returns a payment that it has handed over; it hands over none but its own, which it
has stored. -/
theorem execute_hands_over {body : CreatePaymentRequest} {context : Context}
    (hid : paymentIdFor context (C.draws i).toDraws = C.paymentId i)
    (hkey : context.idempotencyKey = (C.request i).key)
    (hnone : ∀ o ∈ h, isPublish o.call = false) :
    (execute body context (C.draws i).toDraws).Ordered (fun _ => True) (Allows C i)
      (fun h' r => ∀ result, r = .ok result → h ⊆ h' ∧ result.paymentId = C.paymentId i ∧
        HandedOver (C.paymentId i) h') h := by
  obtain ⟨P, hP⟩ := inferRail_accepted body.debtor.alias
  set p := start body context (C.draws i).toDraws P.rail with hp
  have hpid : p.paymentId = C.paymentId i := hid
  have hordered : (execute body context (C.draws i).toDraws).Ordered (fun _ => True) p.Allows
      (fun _ _ => True) [] := by
    simp only [execute, hP]
    exact Payment.run_ordered
  have hreturns : (execute body context (C.draws i).toDraws).Completes (fun _ => True)
      fun _ result => result.paymentId = p.paymentId ∧ result.status = .queued := by
    simp only [execute, hP]
    exact .tryCatch (Program.Traces.of_returns p.run_returns) Payment.handle_returns
  have htraces := (execute_report hP).and hreturns
  have hafter := (hordered.with_traces htraces).after h
  rw [List.append_nil] at hafter
  refine (hafter.allow ?_).mono ?_
  · -- the calls that `execute` makes are its own, after those before it
    rintro h' k ⟨own, rfl, hallows⟩
    cases k with
    | publishToAdapter destination message =>
      obtain ⟨-, hready⟩ := hallows
      obtain ⟨row, hrow⟩ := hready.created
      refine ⟨hready.paymentId.trans hpid, ⟨p.newPayment, hkey, row,
        List.mem_append_right _ hrow⟩, fun o ho => ?_⟩
      rcases List.mem_append.mp ho with ho | ho
      · exact hnone o ho
      · exact hready.unpublished o ho
    | updateResponse => exact hallows.elim
    | _ => trivial
  · rintro h' r ⟨own, rfl, -, trace, rfl, hreport, hresult⟩ result rfl
    rcases hreport with ⟨-, hcalls, hall⟩ | ⟨e, body, recording, -, hr, -⟩
    · have hstage : Stage.publishToAdapter ∈ Stage.order := by decide
      obtain ⟨⟨k, r⟩, hmem, hmakes⟩ := hcalls.exists_outcome (List.mem_map_of_mem hstage)
      obtain ⟨destination, message, rfl, hmessage, rfl⟩ := hmakes
      refine ⟨List.subset_append_left _ _, (hresult result rfl).1.trans hpid, message,
        hmessage.trans hpid, ?_⟩
      cases r with
      | error e => cases hall _ hmem
      | ok u => exact ⟨u, List.mem_append_right _ hmem⟩
    · cases hr

theorem handleRequest_ordered (C : Clients ι) (sha256 : Text → Text) (i : ι) :
    (handleRequest sha256 (C.request i) (C.draws i)).Ordered (fun _ => True) (Allows C i)
      (Settles C i) [] := by
  unfold handleRequest
  cases hbody : createPaymentSchema (C.request i).body with
  | none => exact Program.ordered_done trivial
  | some body =>
    dsimp only
    cases hkey : (C.request i).key with
    | none =>
      refine Program.Ordered.bind ((execute_hands_over rfl hkey.symm (by simp)).mono
        fun h' r hr => ?_)
      cases r with
      | error err => trivial
      | ok result =>
        obtain ⟨-, hid, hh⟩ := hr result rfl
        exact Program.ordered_done fun _ => Or.inl ⟨congrArg some hid, hh⟩
    | some key =>
      refine .call trivial (fun e _ => Program.ordered_done trivial)
        fun (existing : Option IdempotencyRecord) _ => ?_
      cases existing with
      | some record =>
        -- the row was found, and the request is answered from it
        refine Program.ordered_done fun hstatus => Or.inr ⟨key, record, hkey, by simp [Returned], ?_⟩
        unfold answerExisting at hstatus ⊢
        split_ifs at hstatus ⊢
        · cases hstatus
        · rfl
      | none =>
        refine .call trivial (fun e _ => Program.ordered_done trivial) fun (claimed : Bool) _ => ?_
        cases claimed with
        | false =>
          refine .call trivial (fun e _ => Program.ordered_done trivial)
            fun (winner : Option IdempotencyRecord) _ => Program.ordered_done fun hstatus => ?_
          cases winner with
          | none => cases hstatus
          | some record => exact Or.inr ⟨key, record, hkey, by simp [Returned], rfl⟩
        | true =>
          -- the key is claimed, and the pipeline runs
          change (runClaimed key body (C.request i).traceId (C.draws i)).Ordered _ _ _ _
          unfold runClaimed
          refine Program.Ordered.bind ((execute_hands_over rfl hkey.symm (by simp [isPublish])).mono
            fun h' r hr => ?_)
          cases r with
          | error err => trivial
          | ok result =>
            obtain ⟨hsub, hid, hh⟩ := hr result rfl
            have hclaim := hsub (List.mem_append_right _ List.mem_cons_self)
            refine .call ⟨hkey, ⟨_, _, hclaim⟩, hh⟩
              (fun e _ => Program.ordered_done trivial) fun _ _ => ?_
            exact Program.ordered_done fun _ => Or.inl ⟨congrArg some hid,
              hh.mono (List.subset_append_left _ _)⟩

/-- **Every request keeps to its order.** -/
theorem postPayments_ordered (C : Clients ι) (sha256 : Text → Text) (i : ι) :
    (postPayments sha256 (C.request i) (C.draws i)).Ordered (fun _ => True) (Allows C i)
      (Settles C i) [] := by
  refine .tryCatch ((handleRequest_ordered C sha256 i).mono fun h' r hr => ?_)
  cases r with
  | ok reply => exact hr
  | error err =>
    refine Program.ordered_done fun hstatus => ?_
    have herror := (errorReply_status (C.request i).traceId err).1
    omega

end Requests

/-! ### Runs -/

section Runs

variable {ι : Type} [DecidableEq ι] {W : Collaborators} {C : Clients ι} {sha256 : Text → Text}
  {store : Store} {key : Text} {i j : ι} {d : Config (Logged ι) ι (Service Reply)}
  {path : List (RequestStep ι)}

theorem history_run (h : (requests W).toLTS.Run (C.start sha256 store) path d) :
    d.store.history = Program.outcomes path := by
  refine h.induct (I := fun path d => d.store.history = Program.outcomes path) rfl ?_
  intro path d l e _ ih hstep
  rw [Program.outcomes_append]
  rcases Program.processes_cases hstep with ⟨i, k, next, r, -, rfl, hcall, -⟩ | ⟨rfl, hmove, -⟩
  · rw [hcall.2, ih, Program.outcomes_call]
  · rw [hmove.2.2, ih, Program.outcomes_environment, List.append_nil]

/-- A call of a request was allowed by calls that the request had made. -/
theorem allowed_call (h : (requests W).toLTS.Run (C.start sha256 store) path d)
    {o : CallOutcome} (ho : (i, o) ∈ d.store.history) :
    ∃ own, (∀ o' ∈ own, (i, o') ∈ d.store.history) ∧ Allows C i own o.call := by
  rw [history_run h] at ho ⊢
  obtain ⟨e, he, hlabel⟩ := Program.mem_outcomes.mp ho
  obtain ⟨before, after, rfl⟩ := List.append_of_mem he
  obtain ⟨hallows, -⟩ := Program.ordered_run (fun _ _ _ _ _ _ => trivial)
    (postPayments_ordered C sha256) h hlabel
  refine ⟨_, fun o' ho' => ?_, hallows⟩
  rw [Program.outcomes_append]
  exact List.mem_append_left _ (Program.mem_outcomesOf.mp ho')

/-- Who is about to hand over a message with the key finds that none was handed over. -/
theorem handedOver_eq_nil (h : (requests W).toLTS.Run (C.start sha256 store) path d)
    {destination : Text} {message : AdapterMessage}
    {next : Except Failure Unit → Service Reply}
    (hi : d.locals i = .call (.publishToAdapter destination message) next)
    (hkey : (C.request i).key = some key) : handedOver C key d.store.history = [] := by
  have hlocal := Program.ordered_locals (fun _ _ _ _ _ _ => trivial) (postPayments_ordered C sha256) h i
  rw [hi] at hlocal
  obtain ⟨-, ⟨p, hp, row, hcreated⟩, hnone⟩ := (hlocal.step (r := .ok ()) trivial).1
  have honce := (requests_safe h key).1.once
  have hmine : i ∈ starts key d.store.history := by
    rw [history_run h]
    exact mem_starts (Program.mem_outcomesOf.mp hcreated) (hp.trans hkey)
  refine List.eq_nil_iff_forall_not_mem.mpr fun other hother => ?_
  obtain ⟨j, destination', u, hj, hmem⟩ := mem_handedOver.mp hother
  obtain ⟨own, hown, -, ⟨p', hp', row', hcreated'⟩, -⟩ := allowed_call h hmem
  have htheirs : j ∈ starts key d.store.history := mem_starts (hown _ hcreated') (hp'.trans hj)
  -- both have stored a payment with the key, so that they are one request
  obtain rfl : i = j := eq_of_mem_of_length_le_one honce hmine htheirs
  rw [history_run h] at hmem
  cases hnone _ (Program.mem_outcomesOf.mpr hmem)

theorem length_handedOver (h : (requests W).toLTS.Run (C.start sha256 store) path d)
    (key : Text) : (handedOver C key d.store.history).length ≤ 1 := by
  refine h.induct (I := fun _ d => (handedOver C key d.store.history).length ≤ 1)
    (by simp [Clients.start, handedOver]) ?_
  intro path d l e hrun ih hstep
  rcases Program.processes_cases hstep with ⟨i, k, next, r, hi, rfl, hcall, -⟩ | ⟨rfl, hmove, -⟩
  · rw [hcall.2, handedOver, List.filterMap_append, List.length_append]
    change (handedOver C key d.store.history).length + (handedOver C key [(i, ⟨k, r⟩)]).length ≤ 1
    have hone : (handedOver C key [(i, ⟨k, r⟩)]).length ≤ 1 := List.length_filterMap_le _ _
    rcases hnew : handedOver C key [(i, ⟨k, r⟩)] with _ | ⟨message, _⟩
    · simpa using ih
    · -- the call hands over a message
      obtain ⟨j, destination, u, hj, hmem⟩ := mem_handedOver.mp
        (hnew ▸ List.mem_cons_self : message ∈ handedOver C key [(i, ⟨k, r⟩)])
      cases List.mem_singleton.mp hmem
      rw [handedOver_eq_nil hrun hi hj, ← hnew]
      simpa using hone
  · rw [hmove.2.2]
    exact ih

/-! ### Answers from the key's row -/

/-- A request has stored an answer in the key's row. -/
def Responded (key : Text) (history : CallLog ι) : Prop :=
  ∃ i status response u, (i, ⟨.updateResponse key status response, .ok u⟩) ∈ history

/-- The answers in the key's row, and in the rows that lookups found, were stored by requests. -/
structure Answerable (key : Text) (s : Logged ι) : Prop where
  row : ∀ record, s.store.idempotency key = some record → record.responseBody ≠ none →
    Responded key s.history
  found : ∀ i record, (i, ⟨.findByKey key, .ok (some record)⟩) ∈ s.history →
    record.responseBody ≠ none → Responded key s.history

omit [DecidableEq ι] in
theorem Responded.append {entry : ι × CallOutcome} {history : CallLog ι}
    (h : Responded key history) : Responded key (history ++ [entry]) := by
  obtain ⟨i, status, response, u, hmem⟩ := h
  exact ⟨i, status, response, u, List.mem_append_left _ hmem⟩

omit [DecidableEq ι] in
theorem Answerable.step {k : Call} {r : Except Failure k.Result} {s t : Logged ι}
    (hs : Answerable key s) (hcall : requestCalls W i k s r t) : Answerable key t := by
  have hmono : Responded key s.history → Responded key t.history := by
    rw [hcall.2]
    exact Responded.append
  refine ⟨fun record hrecord hbody => ?_, fun j record hmem hbody => ?_⟩
  · by_cases hsame : t.store.idempotency key = s.store.idempotency key
    · exact hmono (hs.row record (hsame ▸ hrecord) hbody)
    · cases k with
      | tryInsert k paymentId requestHash createdAt =>
        rcases tryInsert_of_faulty hcall.1 with ⟨-, hnone, expiresAt, ht⟩ | ⟨-, ht, -⟩
        · -- a row that is new has no answer
          by_cases hk : key = k
          · subst hk
            rw [ht, Function.update_self] at hrecord
            cases hrecord
            exact absurd rfl hbody
          · exact absurd (by rw [ht, Function.update_of_ne hk]) hsame
        · exact absurd (by rw [ht]) hsame
      | updateResponse k status response =>
        rcases updateResponse_of_faulty hcall.1 with ⟨rfl, ht⟩ | ⟨-, ht⟩
        · by_cases hk : key = k
          · subst hk
            refine ⟨i, status, response, (), ?_⟩
            rw [hcall.2]
            exact List.mem_append_right _ List.mem_cons_self
          · exact absurd (by rw [ht, updateResponse, Function.update_of_ne hk]) hsame
        · exact absurd (by rw [ht]) hsame
      | _ =>
        refine absurd ?_ hsame
        rcases faulty_cases hcall.1 with ⟨a, rfl, hanswer⟩ | ⟨-, ht⟩
        · exact congrFun (idempotency_of_answer hanswer (by simp) (by simp)) key
        · rw [ht]
  · rw [hcall.2] at hmem
    rcases List.mem_append.mp hmem with hmem | hmem
    · exact hmono (hs.found j record hmem hbody)
    · -- a lookup finds the row as it is
      cases List.mem_singleton.mp hmem
      obtain ⟨hr | ⟨e, he⟩, -⟩ := findByKey_of_faulty hcall.1
      · exact hmono (hs.row record (findByKey_eq_some (Except.ok.inj hr).symm) hbody)
      · cases he

theorem answerable_run (h : (requests W).toLTS.Run (C.start sha256 store) path d) (key : Text) :
    Answerable key d.store := by
  refine h.induct (I := fun _ d => Answerable key d.store) ?_ ?_
  · exact ⟨fun record hrecord => (nomatch hrecord), fun i record hmem => (nomatch hmem)⟩
  intro path d l e _ ih hstep
  rcases Program.processes_cases hstep with ⟨i, k, next, r, -, -, hcall, -⟩ | ⟨-, hmove, -⟩
  · exact ih.step hcall
  · obtain ⟨-, htable, hhistory⟩ := hmove
    refine ⟨fun record hrecord => ?_, fun j record hmem => ?_⟩
    · rw [htable] at hrecord
      rw [hhistory]
      exact ih.row record hrecord
    · rw [hhistory] at hmem ⊢
      exact ih.found j record hmem

/-- **A request that has stored an answer** carries the key, has claimed it and has handed over the
message of its payment. -/
theorem handedOver_of_responded (h : (requests W).toLTS.Run (C.start sha256 store) path d)
    (hresponded : Responded key d.store.history) :
    ∃ record, d.store.store.idempotency key = some record ∧
      ∃ message ∈ handedOver C key d.store.history, message.paymentId = record.paymentId := by
  obtain ⟨i, status, response, u, hmem⟩ := hresponded
  obtain ⟨own, hown, hkey, ⟨requestHash, createdAt, hclaim⟩, message, hid, v, hh⟩ :=
    allowed_call h hmem
  obtain ⟨record, hrow, hrecord⟩ := (requests_safe h key).1.winner i _ _ _ (hown _ hclaim)
  exact ⟨record, hrow, message, mem_handedOver.mpr ⟨i, _, v, hkey, hown _ hh⟩,
    hid.trans hrecord.symm⟩

/-- **One message for a key.** The requests with the key hand over one message at most, and whoever
of them is told `201` is told its payment. -/
theorem handed_over_once (h : (requests W).toLTS.Run (C.start sha256 store) path d) (key : Text) :
    (handedOver C key d.store.history).length ≤ 1 ∧
      ∀ i reply, (C.request i).key = some key → d.locals i = .done (.ok reply) →
        reply.status = 201 →
        ∃ message ∈ handedOver C key d.store.history, reply.paymentId = some message.paymentId := by
  refine ⟨length_handedOver h key, fun i reply hkey hdone hstatus => ?_⟩
  have hsettles := Program.settled_run (fun _ _ _ _ _ _ => trivial) (postPayments_ordered C sha256)
    h hdone
  rcases hsettles hstatus with ⟨hid, message, hmessage, u, hmem⟩ | ⟨k, record, hk, hfound, rfl⟩
  · refine ⟨message, mem_handedOver.mpr ⟨i, _, u, hkey, ?_⟩, hid.trans (congrArg some hmessage.symm)⟩
    rw [history_run h]
    exact Program.mem_outcomesOf.mp hmem
  · obtain rfl : k = key := Option.some.inj (hk.symm.trans hkey)
    have hmem : (i, ⟨.findByKey k, .ok (some record)⟩) ∈ d.store.history := by
      rw [history_run h]
      exact Program.mem_outcomesOf.mp hfound
    obtain ⟨hcached, record', hrow', hsame⟩ := (requests_safe h k).1.found i record hmem
    have hbody : record.responseBody ≠ none := by
      rcases hcached with ⟨-, hnone⟩ | ⟨response, hresponse, -⟩
      · simp [replay, hnone] at hstatus
      · simp [hresponse]
    obtain ⟨record'', hrow'', message, hmessage, hid⟩ :=
      handedOver_of_responded h ((answerable_run h k).found i record hmem hbody)
    cases hrow'.symm.trans hrow''
    refine ⟨message, hmessage, ?_⟩
    rw [replay_paymentId hcached, hid, hsame.paymentId]

end Runs

/-- Two requests with one key, both of which are answered: the second loses the claim. -/
theorem handed_over_once_race :
    let d := (Example.interleaving Pipeline.Example.host "PIX-bob" Example.race).2
    ∃ message, handedOver (Example.clients "PIX-bob") (js "key-1") d.store.history = [message] ∧
      ∃ reply, d.locals false = .done (.ok reply) ∧ reply.status = 201 ∧
        reply.paymentId = some message.paymentId := by
  intro d
  obtain ⟨hone, hstatus⟩ :
      (handedOver (Example.clients "PIX-bob") (js "key-1") d.store.history).length = 1 ∧
        (Example.replyOf (d.locals false)).map Reply.status = some 201 := by
    decide +kernel
  obtain ⟨message, hmessage⟩ := List.length_eq_one_iff.mp hone
  obtain ⟨reply, hreply, hstatus⟩ := Option.map_eq_some_iff.mp hstatus
  have hdone := Example.eq_done_of_replyOf hreply
  obtain ⟨-, hanswered⟩ := handed_over_once (Example.run_interleaving Pipeline.Example.host "PIX-bob"
    Example.race) (js "key-1")
  obtain ⟨other, hother, hid⟩ := hanswered false reply rfl hdone hstatus
  rw [show handedOver _ _ _ = [message] from hmessage, List.mem_singleton] at hother
  exact ⟨message, hmessage, reply, hdone, hstatus, hother ▸ hid⟩

end MipitCore.Api
