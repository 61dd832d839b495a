import MipitCore.Messaging.Consumers
import MipitCore.Pipeline.Failed

/-!
# The pipeline and the acknowledgement of its message

Once `execute` has published a message, the adapter may answer before the pipeline goes on
to mark the payment as queued. The two writers of the payment's row are interleaved here,
one call at a time: the pipeline, and the consumer that handles the acknowledgement at any
time after the publishing. Neither write looks at the status it replaces, so the
acknowledgement's status is kept exactly when it finds the payment queued
(`ack_kept_iff`).

The proof follows the two *marks* of the payment's row, QUEUED and the acknowledgement's
status. Each is set at most once, only after the message was sent, and the row carries the
one that was set last (`Marked`).

## Main definitions

* `Party`, `partyCalls`, `race`, `raceStart` — the two processes and their calls
* `AppliesAck` — the consumer has stored the acknowledgement
* `Marked`, `discipline` — the invariant, and what each party keeps to

## Main results

* `pipeline_safe`, `consumer_safe`
* `ack_kept_iff`
-/

namespace MipitCore.Pipeline

open Js Api Foundation Persistence Messaging

/-- Who writes to the payment. -/
inductive Party
  | pipeline
  | ackConsumer
  deriving DecidableEq

/-- A call to the payments or to the audit events. -/
def isRepository : Call → Bool
  | .create _ | .updateStatus _ _ | .updateCanonical _ _ _ | .updateRoute _ _ _ _
  | .updateTranslated _ _ | .updateRailAck _ _ _ | .log _ => true
  | _ => false

/-- The calls of a party: those to the repositories succeed, and the consumer has an
acknowledgement to handle only after the payment's message was published. -/
def partyCalls (W : Collaborators) (id : Text) (i : Party) :
    Interp Call Call.Result Failure (Recorded Store (Event Call)) := fun c s r t =>
  recorded W c s r t ∧ (isRepository c = true → r.isOk = true) ∧
    (i = .ackConsumer → Sent id s.history)

/-- Both parties over one store, with time passing. -/
def race (W : Collaborators) (id : Text) :
    Processes (Recorded Store (Event Call)) Party (Service Unit) (Outcome Call Call.Result Failure) :=
  Program.processes (partyCalls W id) fun s t => Tick s.store t.store ∧ t.history = s.history

/-- The pipeline with a request, and the consumer with the acknowledgement that it will get. -/
def raceStart (request : CreatePaymentRequest) (context : Context) (draws : Draws)
    (case' : CaseMapping) (webhooks : Bool) (ack : JsValue) (store : Store) :
    Config (Recorded Store (Event Call)) Party (Service Unit) where
  store := ⟨store, []⟩
  locals
    | .pipeline => do
      let _ ← execute request context draws
    | .ackConsumer => ackConsumer case' webhooks (some (some ack))

/-- A step of an interleaving. -/
abbrev RaceStep := Transition (Config (Recorded Store (Event Call)) Party (Service Unit))
  (Option (Party × Outcome Call Call.Result Failure))

/-- The consumer stores the acknowledgement, and with it the payment's status. -/
def AppliesAck (id : Text) (status : PaymentStatus) (e : RaceStep) : Prop :=
  ∃ railAck row, e.label = some (.ackConsumer, ⟨.updateRailAck (.string id) railAck status, .ok row⟩)

/-! ### Marks -/

/-- The mark that a call sets on the payment `id`: QUEUED, or the acknowledgement's status. -/
def mark (id : Text) : Call → Option PaymentStatus
  | .updateStatus (.string s) .queued => if s = id then some .queued else none
  | .updateRailAck (.string s) _ status => if s = id then some status else none
  | _ => none

/-- The marks that were set, in their order. -/
def marks (id : Text) (history : List (Event Call)) : List PaymentStatus :=
  history.filterMap fun e => mark id e.call

/-- What is true of the marks at any time. -/
structure Marked (id : Text) (ackStatus : PaymentStatus) (s : Recorded Store (Event Call)) : Prop where
  nodup : (marks id s.history).Nodup
  mem : ∀ m ∈ marks id s.history, m = .queued ∨ m = ackStatus
  sent : marks id s.history ≠ [] → Sent id s.history
  unmarked : marks id s.history = [] → s.history ≠ [] → s.store.status id ≠ some .queued
  last : ∀ m, (marks id s.history).getLast? = some m → s.store.status id = some m

/-- What the parties keep to. Only the pipeline sends the message and sets QUEUED, and only the
consumer sets the acknowledgement's status. -/
def discipline (id : Text) (ackStatus : PaymentStatus) : Party → Discipline (Recorded Store (Event Call))
  | .pipeline =>
    { inv := Marked id ackStatus
      rely := fun s t => (Sent id t.history ↔ Sent id s.history) ∧
        (.queued ∈ marks id t.history ↔ .queued ∈ marks id s.history) ∧
        (s.history ≠ [] → t.history ≠ [])
      guarantee := fun s t => ackStatus ∈ marks id t.history ↔ ackStatus ∈ marks id s.history
      refl := fun _ => ⟨Iff.rfl, Iff.rfl, fun h => h⟩
      trans := fun _ _ _ h h' =>
        ⟨h'.1.trans h.1, h'.2.1.trans h.2.1, fun hs => h'.2.2 (h.2.2 hs)⟩ }
  | .ackConsumer =>
    { inv := Marked id ackStatus
      rely := fun s t => ackStatus ∈ marks id t.history ↔ ackStatus ∈ marks id s.history
      guarantee := fun s t => (Sent id t.history ↔ Sent id s.history) ∧
        (.queued ∈ marks id t.history ↔ .queued ∈ marks id s.history) ∧
        (s.history ≠ [] → t.history ≠ [])
      refl := fun _ => Iff.rfl
      trans := fun _ _ _ h h' => h'.trans h }

section Calls

variable {W : Collaborators} {id : Text} {ackStatus : PaymentStatus} {i : Party} {c : Call}
  {s t : Recorded Store (Event Call)} {r : Except Failure c.Result}

theorem statusWrite_of_mark {m : PaymentStatus} (h : mark id c = some m) :
    c.statusWrite id = some m ∧ isRepository c = true := by
  unfold mark at h
  split at h
  · exact ⟨h, rfl⟩
  · exact ⟨h, rfl⟩
  · cases h

/-- A call of a party is recorded. -/
theorem history_call (h : partyCalls W id i c s r t) :
    t.history = s.history ++ [⟨c, r.isOk⟩] := h.1.2

theorem marks_call (h : partyCalls W id i c s r t) :
    marks id t.history = marks id s.history ++ (mark id c).toList := by
  rw [history_call h, marks, List.filterMap_append]
  cases hc : mark id c <;> simp [marks, hc]

/-- A call that is no publishing sends nothing. -/
theorem sent_call (h : partyCalls W id i c s r t) (hc : ∀ d m, c ≠ .publishToAdapter d m) :
    Sent id t.history ↔ Sent id s.history := by
  rw [history_call h]
  refine ⟨?_, fun hs => hs.append⟩
  rintro ⟨d, m, hm, hmem⟩
  rcases List.mem_append.mp hmem with hmem | hmem
  · exact ⟨d, m, hm, hmem⟩
  · exact absurd (congrArg Event.call (List.mem_singleton.mp hmem)).symm (hc d m)

theorem Sent.ne_nil {history : List (Event Call)} (h : Sent id history) : history ≠ [] := by
  obtain ⟨d, m, -, hmem⟩ := h
  exact List.ne_nil_of_mem hmem

/-- A repository call assigns the status that it carries. -/
theorem status_call (h : partyCalls W id i c s r t) {m : PaymentStatus}
    (hc : c.statusWrite id = some m) (hrepo : isRepository c = true) :
    t.store.status id = some m := by
  rcases recorded_cases h.1 with ⟨a, rfl, hanswer, -⟩ | ⟨⟨e, rfl⟩, -, -⟩
  · rw [status_of_answer hanswer, hc, Option.some_or]
  · cases h.2.1 hrepo

theorem status_call_of_none (h : partyCalls W id i c s r t) (hc : c.statusWrite id = none) :
    t.store.status id = s.store.status id := by
  rcases recorded_cases h.1 with ⟨a, rfl, hanswer, -⟩ | ⟨-, hstore, -⟩
  · exact status_of_answer_of_none hanswer hc
  · rw [hstore]

/-- A call that sets no mark keeps the invariant, if a marked row keeps its status and an unmarked
one does not become queued. -/
theorem Marked.unmarking (hs : Marked id ackStatus s) (h : partyCalls W id i c s r t)
    (hc : mark id c = none) (hmarked : marks id s.history ≠ [] → c.statusWrite id = none)
    (hunmarked : marks id s.history = [] → t.store.status id ≠ some .queued) :
    Marked id ackStatus t := by
  have hmarks : marks id t.history = marks id s.history := by
    rw [marks_call h, hc, Option.toList_none, List.append_nil]
  refine ⟨by rw [hmarks]; exact hs.nodup, by rw [hmarks]; exact hs.mem, ?_, ?_, ?_⟩
  · intro hne
    rw [hmarks] at hne
    rw [history_call h]
    exact (hs.sent hne).append
  · intro hnil _
    exact hunmarked (hmarks ▸ hnil)
  · intro m hm
    rw [hmarks] at hm
    have hne : marks id s.history ≠ [] := by
      intro hnil
      rw [hnil] at hm
      cases hm
    rw [status_call_of_none h (hmarked hne)]
    exact hs.last m hm

/-- A call that sets a new mark keeps the invariant. -/
theorem Marked.marking (hs : Marked id ackStatus s) (h : partyCalls W id i c s r t)
    {m : PaymentStatus} (hc : mark id c = some m) (hm : m = .queued ∨ m = ackStatus)
    (hnew : m ∉ marks id s.history) (hsent : Sent id s.history) : Marked id ackStatus t := by
  have hmarks : marks id t.history = marks id s.history ++ [m] := by
    rw [marks_call h, hc, Option.toList_some]
  obtain ⟨hwrite, hrepo⟩ := statusWrite_of_mark hc
  refine ⟨?_, ?_, ?_, ?_, ?_⟩
  · rw [hmarks]
    exact List.nodup_append.mpr ⟨hs.nodup, by simp, fun a ha b hb hab =>
      hnew (List.mem_singleton.mp hb ▸ hab ▸ ha)⟩
  · intro m' hm'
    rw [hmarks] at hm'
    rcases List.mem_append.mp hm' with hm' | hm'
    · exact hs.mem m' hm'
    · rwa [List.mem_singleton.mp hm']
  · intro _
    rw [history_call h]
    exact hsent.append
  · intro hnil
    rw [hmarks] at hnil
    exact absurd hnil (by simp)
  · intro m' hm'
    rw [hmarks, List.getLast?_concat] at hm'
    cases hm'
    exact status_call h hwrite hrepo

end Calls

/-! ### The pipeline -/

section Parties

variable {W : Collaborators} {ackStatus : PaymentStatus} {s : Recorded Store (Event Call)}

/-- Calls that neither send the payment's message nor set a mark, nor a status that could be taken
for one. -/
def Unmarking (id : Text) (c : Call) : Prop :=
  mark id c = none ∧ c.statusWrite id ≠ some .queued ∧ ∀ d m, c ≠ .publishToAdapter d m

theorem Quiet.unmarking {c : Call} (h : Quiet c) (id : Text) : Unmarking id c := by
  have hite : ∀ {s : Text} {status : PaymentStatus}, status ≠ .queued →
      (if s = id then some status else none) ≠ some .queued := by
    intro s status hne
    split
    · exact fun heq => hne (Option.some.inj heq)
    · exact nofun
  have hstring : ∀ (v : JsValue) (status : PaymentStatus), status ≠ .queued →
      mark id (.updateStatus v status) = none := by
    intro v status hne
    unfold mark
    split
    · rename_i heq
      cases heq
      exact absurd rfl hne
    · rename_i heq
      cases heq
    · rfl
  refine ⟨?_, ?_, ?_⟩
  · cases c with
    | updateStatus v status => exact hstring v status h.1
    | updateRailAck v ack status => exact h.elim
    | _ => rfl
  · cases c with
    | create p => exact hite (by rw [show p.status = .received from h]; decide)
    | updateStatus v status | updateCanonical v c status | updateRoute v d n status =>
      cases v <;> first | exact hite h.1 | exact nofun
    | updateRailAck v ack status => exact h.elim
    | _ => exact nofun
  · rintro d m rfl
    exact h

/-- While nothing was sent, there are no marks, and a call that is unmarking leaves it so. -/
theorem unsent_safe {id : Text} {α : Type} {prog : Service α} (hprog : prog.Makes (Unmarking id))
    (h : ¬ Sent id s.history ∧ s.history ≠ []) :
    prog.Safe (partyCalls W id .pipeline) (discipline id ackStatus .pipeline)
      (fun t _ => ¬ Sent id t.history ∧ t.history ≠ []) s := by
  refine Program.Safe.of_makes (A := fun t : Recorded Store (Event Call) =>
    ¬ Sent id t.history ∧ t.history ≠ []) hprog ?_ ?_ h
  · rintro s t ⟨hs, hne⟩ - ⟨hsent, -, hnil⟩
    exact ⟨fun ht => hs (hsent.mp ht), hnil hne⟩
  · rintro c s r t ⟨hmark, hwrite, hpublish⟩ hinv ⟨hs, hne⟩ hcall
    have hnil : marks id s.history = [] := by
      by_contra hmarks
      exact hs (hinv.sent hmarks)
    have hinv' : Marked id ackStatus t := by
      refine hinv.unmarking hcall hmark (fun hmarks => absurd hnil hmarks) fun _ => ?_
      rcases recorded_cases hcall.1 with ⟨a, rfl, hanswer, -⟩ | ⟨-, hstore, -⟩
      · rw [status_of_answer hanswer]
        cases hw : c.statusWrite id with
        | none => exact hinv.unmarked hnil hne
        | some status =>
          rw [hw] at hwrite
          exact hwrite
      · rw [hstore]
        exact hinv.unmarked hnil hne
    refine ⟨hinv', ?_, fun ht => hs ((sent_call hcall hpublish).mp ht), ?_⟩
    · change _ ∈ marks id t.history ↔ _
      rw [marks_call hcall, hmark, Option.toList_none, List.append_nil]
    · rw [history_call hcall]
      simp

variable {p : Payment}

/-- Steps 2 to 6b send nothing. The first of them stores the payment, so that its status is known
from then on. -/
theorem prepare_race (h : ¬ Sent p.paymentId s.history) :
    p.prepare.Safe (partyCalls W p.paymentId .pipeline)
      (discipline p.paymentId ackStatus .pipeline)
      (fun t _ => ¬ Sent p.paymentId t.history ∧ t.history ≠ []) s := by
  have hmakes : Quiet (.create p.newPayment) ∧ ∀ r, _ := prepare_makes p
  intro s' hinv hrely r t hcall
  have hs' : ¬ Sent p.paymentId s'.history := fun hsent => h (hrely.1.mp hsent)
  have hnil : marks p.paymentId s'.history = [] := by
    by_contra hmarks
    exact hs' (hinv.sent hmarks)
  have hinv' : Marked p.paymentId ackStatus t := by
    refine hinv.unmarking hcall rfl (fun hmarks => absurd hnil hmarks) fun _ => ?_
    rw [status_call hcall (m := .received) (if_pos rfl) rfl]
    decide
  refine ⟨hinv', ?_, unsent_safe (Program.Makes.mono (fun c hc => hc.unmarking _) (hmakes.2 r)) ⟨?_, ?_⟩⟩
  · change _ ∈ marks p.paymentId t.history ↔ _
    rw [marks_call hcall]
    simp [mark]
  · exact fun ht => hs' ((sent_call hcall (by simp)).mp ht)
  · rw [history_call hcall]
    simp

/-- The `catch` block sends nothing either. -/
theorem handle_race (err : Failure) (h : ¬ Sent p.paymentId s.history ∧ s.history ≠ []) :
    (p.handle err).Safe (partyCalls W p.paymentId .pipeline)
      (discipline p.paymentId ackStatus .pipeline)
      (fun t _ => ¬ Sent p.paymentId t.history ∧ t.history ≠ []) s := by
  refine unsent_safe (Program.Makes.bind (Program.Makes.tryCatch (Program.Makes.bind
    (Program.makes_perform.mpr ?_) fun _ => Program.makes_perform.mpr ?_) fun _ => trivial)
    fun _ => trivial) h
  · refine ⟨rfl, ?_, by simp⟩
    simp [Call.statusWrite]
  · refine ⟨rfl, ?_, by simp⟩
    simp [Call.statusWrite]

variable (hack : ackStatus ≠ .queued)
include hack

/-- The marking as queued: from a payment that was sent and not marked by the pipeline yet. -/
theorem markQueued_race (hsent : Sent p.paymentId s.history)
    (hnew : .queued ∉ marks p.paymentId s.history) :
    p.markQueued.Safe (partyCalls W p.paymentId .pipeline)
      (discipline p.paymentId ackStatus .pipeline)
      (fun t r => r = .ok () ∧ .queued ∈ marks p.paymentId t.history) s := by
  refine Program.Safe.bind (Program.Safe.perform fun u hinv hrely r t hcall => ?_)
  have hmark : mark p.paymentId (.updateStatus (.string p.paymentId) .queued) = some .queued :=
    if_pos rfl
  have hmarks := marks_call hcall
  rw [hmark, Option.toList_some] at hmarks
  refine ⟨hinv.marking hcall hmark (Or.inl rfl) (fun hmem => hnew (hrely.2.1.mp hmem))
    (hrely.1.mpr hsent), ?_, fun t' hinv' hrely' => ?_⟩
  · change _ ∈ marks p.paymentId t.history ↔ _
    rw [hmarks]
    simp [hack]
  have hqueued : .queued ∈ marks p.paymentId t'.history := by
    rw [hrely'.2.1, hmarks]
    exact List.mem_append_right _ List.mem_cons_self
  cases r with
  | error e => cases hcall.2.1 rfl
  | ok row =>
    -- an audit event, between which and the mark the acknowledgement may come
    refine Program.Safe.perform fun v hinv hrely r w hcall => ?_
    have hmarks := marks_call hcall
    rw [show mark p.paymentId (.log p.queuedEvent) = none from rfl, Option.toList_none,
      List.append_nil] at hmarks
    have hne : marks p.paymentId v.history ≠ [] :=
      List.ne_nil_of_mem (hrely.2.1.mpr hqueued)
    refine ⟨hinv.unmarking hcall rfl (fun _ => rfl) fun hnil => absurd hnil hne, ?_,
      fun w' _ hrely' => ⟨?_, ?_⟩⟩
    · change _ ∈ marks p.paymentId w.history ↔ _
      rw [hmarks]
    · cases r with
      | error e => cases hcall.2.1 rfl
      | ok _ => rfl
    · rw [hrely'.2.1, hmarks, hrely.2.1]
      exact hqueued

/-- The body of the `try`: where it throws, nothing was sent; where it returns, the payment was
marked as queued. -/
theorem run_race (h : ¬ Sent p.paymentId s.history) :
    p.run.Safe (partyCalls W p.paymentId .pipeline) (discipline p.paymentId ackStatus .pipeline)
      (fun t r => match r with
        | .ok _ => .queued ∈ marks p.paymentId t.history
        | .error _ => ¬ Sent p.paymentId t.history ∧ t.history ≠ []) s := by
  refine Program.Safe.bind ((prepare_race h).mono fun t r _ ⟨hunsent, hne⟩ => ?_)
  cases r with
  | error e => exact ⟨hunsent, hne⟩
  | ok x =>
    refine Program.Safe.bind (Program.Safe.perform fun u hinv hrely r v hcall => ?_)
    have hunsent' : ¬ Sent p.paymentId u.history := fun hsent => hunsent (hrely.1.mp hsent)
    -- a payment that was not sent has been marked by nobody
    have hnil : marks p.paymentId u.history = [] := by
      by_contra hmarks
      exact hunsent' (hinv.sent hmarks)
    have hmarks := marks_call hcall
    rw [show mark p.paymentId (.publishToAdapter _ _) = none from rfl, Option.toList_none,
      List.append_nil] at hmarks
    refine ⟨hinv.unmarking hcall rfl (fun hne => absurd hnil hne) fun _ => ?_, ?_,
      fun w hinv' hrely' => ?_⟩
    · rw [status_call_of_none hcall rfl]
      exact hinv.unmarked hnil (hrely.2.2 hne)
    · change _ ∈ marks p.paymentId v.history ↔ _
      rw [hmarks]
    rcases recorded_cases hcall.1 with ⟨_, rfl, -, hpublished⟩ | ⟨⟨e, rfl⟩, -, hfailed⟩
    · have hsent : Sent p.paymentId v.history := by
        rw [hpublished]
        exact ⟨x.route.destination, p.message x.normalized x.route x.translated, rfl,
          List.mem_append_right _ List.mem_cons_self⟩
      refine Program.Safe.bind ((markQueued_race hack (hrely'.1.mpr hsent) ?_).mono ?_)
      · rw [hrely'.2.1, hmarks, hnil]
        simp
      · rintro t r - ⟨rfl, hqueued⟩
        exact Program.Safe.pure fun t' _ hrely => hrely.2.1.mpr hqueued
    · have hstill : ¬ Sent p.paymentId v.history := by
        rw [hfailed]
        rintro ⟨d, m, hm, hmem⟩
        rcases List.mem_append.mp hmem with hmem | hmem
        · exact hunsent' ⟨d, m, hm, hmem⟩
        · simp at hmem
      refine ⟨fun hsent => hstill (hrely'.1.mp hsent), hrely'.2.2 ?_⟩
      rw [hfailed]
      simp

/-- **The pipeline**, at its end: if the message was sent, the payment was marked as queued. -/
theorem pipeline_safe (h : ¬ Sent p.paymentId s.history) :
    (Program.tryCatch p.run p.handle).Safe (partyCalls W p.paymentId .pipeline)
      (discipline p.paymentId ackStatus .pipeline)
      (fun t _ => Sent p.paymentId t.history → .queued ∈ marks p.paymentId t.history) s := by
  refine Program.Safe.tryCatch ((run_race hack h).mono fun t r _ hrun => ?_)
  cases r with
  | ok _ => exact fun _ => hrun
  | error e => exact (handle_race e hrun).mono fun t _ _ ht hsent => absurd hsent ht.1

omit hack

/-! ### The consumer -/

/-- Calls that neither send a message nor touch the payment's status. -/
def Idle (id : Text) (c : Call) : Prop :=
  mark id c = none ∧ c.statusWrite id = none ∧ ∀ d m, c ≠ .publishToAdapter d m

variable {id : Text}

/-- An idle call of the consumer, which acts after the publishing. -/
theorem idle_call {c : Call} {t : Recorded Store (Event Call)} {r : Except Failure c.Result}
    (hc : Idle id c) (hinv : Marked id ackStatus s)
    (hcall : partyCalls W id .ackConsumer c s r t) :
    Marked id ackStatus t ∧ (discipline id ackStatus .ackConsumer).guarantee s t := by
  obtain ⟨hmark, hwrite, hpublish⟩ := hc
  have hmarks := marks_call hcall
  rw [hmark, Option.toList_none, List.append_nil] at hmarks
  refine ⟨hinv.unmarking hcall hmark (fun _ => hwrite) fun hnil => ?_,
    sent_call hcall hpublish, by rw [hmarks], fun _ => ?_⟩
  · rw [status_call_of_none hcall hwrite]
    exact hinv.unmarked hnil (hcall.2.2 rfl).ne_nil
  · rw [history_call hcall]
    simp

theorem idle_safe {prog : Service Unit} (hprog : prog.Makes (Idle id)) :
    prog.Safe (partyCalls W id .ackConsumer) (discipline id ackStatus .ackConsumer)
      (fun _ _ => True) s :=
  Program.Safe.of_makes (A := fun _ => True) hprog (fun _ _ _ _ _ => trivial)
    (fun _ _ _ _ hc hinv _ hcall =>
      ⟨(idle_call hc hinv hcall).1, (idle_call hc hinv hcall).2, trivial⟩) trivial

theorem settle_idle (settlement : Settlement) : (settle settlement).Makes (Idle id) :=
  Program.makes_perform.mpr ⟨rfl, rfl, by simp⟩

theorem eq_of_mark {v railAck : JsValue} {status m : PaymentStatus}
    (h : mark id (.updateRailAck v railAck status) = some m) : m = status := by
  cases v with
  | string s =>
    simp only [mark] at h
    split at h
    · exact (Option.some.inj h).symm
    · cases h
  | _ => cases h

/-- The body of the consumer's `try`: its first call sets the acknowledgement's mark, if the
acknowledgement names the payment. -/
theorem applyAck_race {case' : CaseMapping} {webhooks : Bool} {ack railAck : JsValue}
    (hstatus : ackStatus = finalStatus (railAck.getOptional "status"))
    (hack : ackStatus ≠ .queued) (h : ackStatus ∉ marks id s.history) :
    (applyAck case' webhooks ack railAck).Safe (partyCalls W id .ackConsumer)
      (discipline id ackStatus .ackConsumer) (fun _ _ => True) s := by
  refine Program.Safe.bind (Program.Safe.perform fun u hinv hrely r t hcall => ?_)
  have hrest : ∀ row, (do
      let actor ← ackActor case' ack
      await (.log (ackEvent ack railAck actor (finalStatus (railAck.getOptional "status"))))
      fireWebhooks webhooks row
      settle .ack : Service Unit).Makes (Idle id) := by
    intro row
    refine Program.Makes.bind ?_ fun actor => Program.Makes.bind
      (Program.makes_perform.mpr ⟨rfl, rfl, by simp⟩) fun _ => Program.Makes.bind ?_ fun _ =>
        settle_idle .ack
    · unfold ackActor
      split <;> trivial
    · cases webhooks
      · trivial
      · exact Program.makes_perform.mpr ⟨rfl, rfl, by simp⟩
  -- the rest of the body marks nothing, so only the first call matters
  suffices hfirst : Marked id ackStatus t ∧
      (discipline id ackStatus .ackConsumer).guarantee u t by
    refine ⟨hfirst.1, hfirst.2, fun t' _ _ => ?_⟩
    cases r with
    | error e => trivial
    | ok row => exact idle_safe (hrest row)
  have hnew : ackStatus ∉ marks id u.history := fun hmem => h (hrely.mp hmem)
  have hidle : mark id (.updateRailAck (ack.getOptional "payment_id") railAck
        (finalStatus (railAck.getOptional "status"))) = none →
      Marked id ackStatus t ∧ (discipline id ackStatus .ackConsumer).guarantee u t := by
    intro hmark
    refine idle_call ⟨hmark, ?_, by simp⟩ hinv hcall
    rw [← hmark]
    cases ack.getOptional "payment_id" <;> rfl
  cases hmark : mark id (.updateRailAck (ack.getOptional "payment_id") railAck
      (finalStatus (railAck.getOptional "status"))) with
  | none => exact hidle hmark
  | some m =>
    have hm : m = ackStatus := by
      rw [hstatus]
      exact eq_of_mark hmark
    subst hm
    have hmarks := marks_call hcall
    rw [hmark, Option.toList_some] at hmarks
    refine ⟨hinv.marking hcall hmark (Or.inr rfl) hnew (hcall.2.2 rfl),
      sent_call hcall (by simp), ?_, fun _ => ?_⟩
    · rw [hmarks]
      simp [Ne.symm hack]
    · rw [history_call hcall]
      simp

/-- **The consumer** sets the acknowledgement's mark at most once. -/
theorem consumer_safe {case' : CaseMapping} {webhooks : Bool} {ack : JsValue}
    (hstatus : ackStatus = finalStatus ((ack.getOptional "rail_ack").getOptional "status"))
    (hack : ackStatus ≠ .queued) (h : ackStatus ∉ marks id s.history) :
    (ackConsumer case' webhooks (some (some ack))).Safe (partyCalls W id .ackConsumer)
      (discipline id ackStatus .ackConsumer) (fun _ _ => True) s := by
  simp only [ackConsumer, prop]
  cases ack.get "payment_id" with
  | none => exact fun _ _ _ => trivial
  | some paymentId =>
    refine Program.Safe.bind (Program.Safe.pure fun t _ hrely => ?_)
    dsimp only
    split
    · exact idle_safe (settle_idle _)
    · refine Program.Safe.tryCatch ((applyAck_race hstatus hack fun hmem => h (hrely.mp hmem)).mono
        fun u r _ _ => ?_)
      cases r with
      | ok _ => trivial
      | error e => exact idle_safe (settle_idle _)

end Parties

/-! ### Runs -/

/-- What a party has done when it has settled. -/
def Settled (id : Text) : Party → Recorded Store (Event Call) → Except Failure Unit → Prop
  | .pipeline, t, _ => Sent id t.history → .queued ∈ marks id t.history
  | .ackConsumer, _, _ => True

/-- The status that an acknowledgement carries. -/
def ackStatusOf (ack : JsValue) : PaymentStatus :=
  finalStatus ((ack.getOptional "rail_ack").getOptional "status")

theorem ackStatusOf_ne_queued (ack : JsValue) : ackStatusOf ack ≠ .queued := by
  unfold ackStatusOf finalStatus
  split
  · split
    · decide
    · split <;> decide
  · decide

theorem discipline_inv (id : Text) (ackStatus : PaymentStatus) (i : Party) :
    (discipline id ackStatus i).inv = Marked id ackStatus := by
  cases i <;> rfl

section Runs

variable {W : Collaborators} {request : CreatePaymentRequest} {context : Context} {draws : Draws}
  {case' : CaseMapping} {webhooks : Bool} {ack : JsValue} {store : Store}
  {d : Config (Recorded Store (Event Call)) Party (Service Unit)} {path : List RaceStep}

/-- In every state that an interleaving reaches, the invariant holds and both parties keep to their
disciplines. -/
theorem race_safe (h : (race W (paymentIdFor context draws)).toLTS.Run
    (raceStart request context draws case' webhooks ack store) path d) :
    Marked (paymentIdFor context draws) (ackStatusOf ack) d.store ∧
      ∀ i, (d.locals i).Safe (partyCalls W (paymentIdFor context draws) i)
        (discipline (paymentIdFor context draws) (ackStatusOf ack) i)
        (Settled (paymentIdFor context draws) i) d.store := by
  apply Program.safe_run (discipline_inv _ _) ?_ ?_ ?_ ?_ h
  -- what one party guarantees is what the other one relies on
  · intro i j s t hij _ hguarantee
    cases i <;> cases j <;> first | exact hguarantee | exact absurd rfl hij
  -- time passes
  · rintro s t hs ⟨⟨now, -, hstore⟩, hhistory⟩
    have hstatus : t.store.status (paymentIdFor context draws) =
        s.store.status (paymentIdFor context draws) := by
      rw [hstore]
      rfl
    refine ⟨⟨?_, ?_, ?_, ?_, ?_⟩, fun i => ?_⟩
    · rw [hhistory]
      exact hs.nodup
    · rw [hhistory]
      exact hs.mem
    · rw [hhistory]
      exact hs.sent
    · rw [hhistory, hstatus]
      exact hs.unmarked
    · rw [hhistory, hstatus]
      exact hs.last
    · cases i with
      | pipeline =>
        change (Sent _ t.history ↔ _) ∧ (_ ∈ marks _ t.history ↔ _) ∧ _
        rw [hhistory]
        exact ⟨Iff.rfl, Iff.rfl, fun h => h⟩
      | ackConsumer =>
        change _ ∈ marks _ t.history ↔ _
        rw [hhistory]
  · exact ⟨List.nodup_nil, nofun, fun h => absurd rfl h, fun _ h => absurd rfl h, nofun⟩
  -- each party by itself
  · intro i
    cases i with
    | pipeline =>
      obtain ⟨P, hP⟩ := inferRail_accepted request.debtor.alias
      refine Program.Safe.bind ?_
      simp only [execute, hP]
      refine (pipeline_safe (p := start request context draws P.rail) (ackStatusOf_ne_queued ack)
        ?_).mono fun t r _ ht => ?_
      · rintro ⟨_, _, -, hmem⟩
        cases hmem
      · cases r with
        | error e => exact ht
        | ok _ => exact fun t' _ hrely hsent => hrely.2.1.mpr (ht (hrely.1.mp hsent))
    | ackConsumer =>
      exact consumer_safe rfl (ackStatusOf_ne_queued ack) (by simp [raceStart, marks])

/-- Nothing is removed from the history. -/
theorem history_run {c : Config (Recorded Store (Event Call)) Party (Service Unit)} {id : Text}
    (h : (race W id).toLTS.Run c path d) : ∃ more, d.store.history = c.store.history ++ more := by
  refine h.invariant (I := fun d => ∃ more, d.store.history = c.store.history ++ more)
    ⟨[], (List.append_nil _).symm⟩ ?_
  rintro d l e ⟨more, hmore⟩ hstep
  rcases Program.processes_cases hstep with ⟨i, k, next, r, -, -, hcall, -⟩ | ⟨-, hmove, -⟩
  · refine ⟨more ++ [⟨k, r.isOk⟩], ?_⟩
    rw [history_call hcall, hmore, List.append_assoc]
  · exact ⟨more, hmove.2.trans hmore⟩

/-- The storing of the acknowledgement: it is a new mark, of the status that it carries, on a
payment that was sent. -/
theorem marks_appliesAck {id : Text} {ackStatus status : PaymentStatus} {e : RaceStep}
    (hstep : (race W id).toLTS e.source e.label e.target)
    (hsafe : (e.source.locals .ackConsumer).Safe (partyCalls W id .ackConsumer)
      (discipline id ackStatus .ackConsumer) (Settled id .ackConsumer) e.source.store)
    (hinv : Marked id ackStatus e.source.store) (hack : AppliesAck id status e) :
    Sent id e.source.store.history ∧ status = ackStatus ∧
      marks id e.target.store.history = marks id e.source.store.history ++ [ackStatus] ∧
      Marked id ackStatus e.target.store := by
  obtain ⟨railAck, row, hlabel⟩ := hack
  rcases Program.processes_cases hstep with ⟨i, k, next, r, hprog, hl, hcall, -⟩ | ⟨hl, -, -⟩
  · rw [hlabel] at hl
    cases hl
    rw [hprog] at hsafe
    obtain ⟨hinv', hguarantee, -⟩ := hsafe _ hinv ((discipline _ _ .ackConsumer).refl _) _ _ hcall
    have hmark : mark id (.updateRailAck (.string id) railAck status) = some status := if_pos rfl
    have hmarks := marks_call hcall
    rw [hmark, Option.toList_some] at hmarks
    have hnew : status ∉ marks id e.source.store.history := by
      have hnodup := hinv'.nodup
      rw [hmarks] at hnodup
      exact fun hmem => (List.nodup_append.mp hnodup).2.2 status hmem status List.mem_cons_self rfl
    have hmem : status ∈ marks id e.target.store.history := by
      rw [hmarks]
      exact List.mem_append_right _ List.mem_cons_self
    have hstatus : status = ackStatus := by
      rcases hinv'.mem status hmem with rfl | hstatus
      · exact absurd (hguarantee.2.1.mp hmem) hnew
      · exact hstatus
    subst hstatus
    exact ⟨hcall.2.2 rfl, rfl, hmarks, hinv'⟩
  · rw [hlabel] at hl
    cases hl

/-- If the payment was marked as queued before the acknowledgement's mark, there are no further
marks. -/
theorem Marked.kept {id : Text} {ackStatus : PaymentStatus} {s : Recorded Store (Event Call)}
    {before after : List PaymentStatus} (hs : Marked id ackStatus s)
    (hmarks : marks id s.history = before ++ [ackStatus] ++ after) (hqueued : .queued ∈ before) :
    s.store.status id = some ackStatus := by
  have hnodup := hs.nodup
  rw [hmarks] at hnodup
  have hdisjoint := (List.nodup_append.mp hnodup).2.2
  have hnil : after = [] := by
    refine List.eq_nil_iff_forall_not_mem.mpr fun m hm => ?_
    have hmem : m ∈ marks id s.history := by
      rw [hmarks]
      exact List.mem_append_right _ hm
    rcases hs.mem m hmem with rfl | rfl
    · exact hdisjoint _ (List.mem_append_left _ hqueued) _ hm rfl
    · exact hdisjoint _ (List.mem_append_right _ List.mem_cons_self) _ hm rfl
  refine hs.last ackStatus ?_
  rw [hmarks, hnil, List.append_nil, List.getLast?_concat]

/-- If it is marked as queued, but was not before the acknowledgement's mark, it is queued. -/
theorem Marked.overwritten {id : Text} {ackStatus : PaymentStatus} {s : Recorded Store (Event Call)}
    {before after : List PaymentStatus} (hs : Marked id ackStatus s)
    (hmarks : marks id s.history = before ++ [ackStatus] ++ after)
    (hack : ackStatus ≠ .queued) (hnew : .queued ∉ before)
    (hqueued : .queued ∈ marks id s.history) : s.store.status id = some .queued := by
  have hafter : .queued ∈ after := by
    rw [hmarks, List.mem_append, List.mem_append, List.mem_singleton] at hqueued
    rcases hqueued with (hbefore | heq) | hafter
    · exact absurd hbefore hnew
    · exact absurd heq.symm hack
    · exact hafter
  have hne : after ≠ [] := List.ne_nil_of_mem hafter
  have hnodup := hs.nodup
  rw [hmarks] at hnodup
  have hdisjoint := (List.nodup_append.mp hnodup).2.2
  have hlast : after.getLast hne = .queued := by
    have hmem : after.getLast hne ∈ marks id s.history := by
      rw [hmarks]
      exact List.mem_append_right _ (List.getLast_mem hne)
    refine (hs.mem _ hmem).resolve_right fun heq => ?_
    exact hdisjoint _ (List.mem_append_right _ List.mem_cons_self) _ (List.getLast_mem hne) heq.symm
  refine hs.last _ ?_
  rw [hmarks, List.getLast?_append, List.getLast?_eq_some_getLast hne, hlast, Option.some_or]

/-- An unmarked payment that was sent is not queued; one that only the pipeline has marked is. -/
theorem Marked.queued_iff {id : Text} {ackStatus : PaymentStatus} {s : Recorded Store (Event Call)}
    (hs : Marked id ackStatus s) (hsent : Sent id s.history)
    (hnew : ackStatus ∉ marks id s.history) :
    s.store.status id = some .queued ↔ .queued ∈ marks id s.history := by
  constructor
  · intro hstatus
    by_contra hqueued
    refine hs.unmarked (List.eq_nil_iff_forall_not_mem.mpr fun m hm => ?_) hsent.ne_nil hstatus
    rcases hs.mem m hm with rfl | rfl
    · exact hqueued hm
    · exact hnew hm
  · intro hqueued
    have hne := List.ne_nil_of_mem hqueued
    have hlast := List.getLast_mem hne
    have heq : (marks id s.history).getLast hne = .queued :=
      (hs.mem _ hlast).resolve_right fun heq => hnew (heq ▸ hlast)
    refine hs.last _ ?_
    rw [List.getLast?_eq_some_getLast hne, heq]

/-- **The acknowledgement's status is kept exactly when the acknowledgement finds the payment
queued.** -/
theorem ack_kept_iff (h : (race W (paymentIdFor context draws)).toLTS.Run
      (raceStart request context draws case' webhooks ack store) path d)
    (hdone : ∀ i, ∃ r, d.locals i = .done r) {before after : List RaceStep} {e : RaceStep}
    {status : PaymentStatus} (hpath : path = before ++ e :: after)
    (hack : AppliesAck (paymentIdFor context draws) status e) :
    (d.store.store.status (paymentIdFor context draws) = some status ∧
        ∀ e' ∈ after, e'.target.store.store.status (paymentIdFor context draws) ≠ some .queued) ↔
      e.source.store.store.status (paymentIdFor context draws) = some .queued := by
  subst hpath
  obtain ⟨hbefore, hstep, hafter⟩ := h.split
  obtain ⟨hinv, hsafe⟩ := race_safe hbefore
  obtain ⟨hsent, rfl, hmarks, hinv'⟩ := marks_appliesAck hstep (hsafe .ackConsumer) hinv hack
  -- the marks in any later state: those at the acknowledgement, and further ones
  have hlater : ∀ {path' : List RaceStep} {x},
      (race W (paymentIdFor context draws)).toLTS.Run e.target path' x →
        Marked (paymentIdFor context draws) (ackStatusOf ack) x.store ∧
          ∃ more, marks (paymentIdFor context draws) x.store.history =
            marks (paymentIdFor context draws) e.source.store.history ++ [ackStatusOf ack] ++
              more := by
    intro path' x hx
    refine ⟨(race_safe ((hbefore.snoc hstep).append hx)).1, ?_⟩
    obtain ⟨more, hmore⟩ := history_run hx
    refine ⟨marks (paymentIdFor context draws) more, ?_⟩
    rw [hmore, ← hmarks]
    exact List.filterMap_append
  have hnew : ackStatusOf ack ∉ marks (paymentIdFor context draws) e.source.store.history := by
    have hnodup := hinv'.nodup
    rw [hmarks] at hnodup
    exact fun hmem => (List.nodup_append.mp hnodup).2.2 _ hmem _ List.mem_cons_self rfl
  rw [hinv.queued_iff hsent hnew]
  obtain ⟨hinvd, more, hmore⟩ := hlater hafter
  constructor
  · rintro ⟨hstatus, -⟩
    by_contra hqueued
    obtain ⟨r, hr⟩ := hdone .pipeline
    have hsafed := (race_safe h).2 .pipeline
    rw [hr] at hsafed
    have hpost := hsafed _ hinvd ((discipline _ _ .pipeline).refl _)
    have hsentd : Sent (paymentIdFor context draws) d.store.history := by
      refine hinvd.sent ?_
      rw [hmore]
      simp
    have hover := hinvd.overwritten hmore (ackStatusOf_ne_queued ack) hqueued (hpost hsentd)
    rw [hstatus] at hover
    exact ackStatusOf_ne_queued ack (Option.some.inj hover)
  · intro hqueued
    refine ⟨hinvd.kept hmore hqueued, fun e' he' => ?_⟩
    obtain ⟨l, l', rfl⟩ := List.append_of_mem he'
    obtain ⟨hl, hstep', -⟩ := hafter.split
    obtain ⟨hinv', more', hmore'⟩ := hlater (hl.snoc hstep')
    rw [hinv'.kept hmore' hqueued]
    exact fun heq => ackStatusOf_ne_queued ack (Option.some.inj heq)

end Runs

/-! ### An acknowledgement that arrives before the payment is queued -/

namespace Example

/-- The adapter's answer for the example payment. -/
def ack : JsValue := .object
  [("payment_id", .string (paymentIdOf ulid)), ("trace_id", .string ulid.1),
    ("source_rail", .string (js "PIX")),
    ("rail_ack", .object [("status", .string (js "ACCEPTED"))])]

/-- The message of the payment was published. -/
def isPublished (e : Event Call) : Bool :=
  match e with
  | ⟨.publishToAdapter _ message, succeeded⟩ => succeeded && message.paymentId == paymentIdOf ulid
  | _ => false

theorem sent_of_isPublished {history : List (Event Call)} (h : history.any isPublished = true) :
    Sent (paymentIdOf ulid) history := by
  obtain ⟨⟨c, succeeded⟩, hmem, he⟩ := List.any_eq_true.mp h
  unfold isPublished at he
  split at he
  · rename_i heq
    cases heq
    obtain ⟨hs, hm⟩ := Bool.and_eq_true_iff.mp he
    subst hs
    exact ⟨_, _, eq_of_beq hm, hmem⟩
  · cases he

/-- Every call answers, the consumer's once the message was published. -/
def answerRace (i : Party) (c : Call) (s : Recorded Store (Event Call)) :
    Option (Except Failure c.Result × Recorded Store (Event Call)) :=
  let answer := c.respond host s.store
  if (isRepository c → answer.1.isOk) ∧ (i = .ackConsumer → s.history.any isPublished) then
    some (answer.1, ⟨answer.2, s.history ++ [⟨c, answer.1.isOk⟩]⟩)
  else none

theorem partyCalls_answerRace {i : Party} {c : Call} {s t : Recorded Store (Event Call)}
    {r : Except Failure c.Result} (h : answerRace i c s = some (r, t)) :
    partyCalls host.collaborators (paymentIdFor context draws) i c s r t := by
  unfold answerRace at h
  dsimp only at h
  split at h
  · rename_i hallowed
    cases h
    exact ⟨⟨Or.inl (Call.answer_respond host _ _), rfl⟩, hallowed.1,
      fun hi => sent_of_isPublished (hallowed.2 hi)⟩
  · cases h

/-- The pipeline publishes, the consumer handles the acknowledgement, the pipeline goes on. -/
def lateQueued : List RaceStep × Config (Recorded Store (Event Call)) Party (Service Unit) :=
  Program.schedule answerRace
    (List.replicate 15 .pipeline ++ List.replicate 3 .ackConsumer ++ List.replicate 2 .pipeline)
    (raceStart request context draws .ascii false ack store)

theorem lateQueued_run : (race host.collaborators (paymentIdFor context draws)).toLTS.Run
    (raceStart request context draws .ascii false ack store) lateQueued.1 lateQueued.2 :=
  Program.run_schedule (f := answerRace) (fun _ _ _ _ _ h => partyCalls_answerRace h) _ _

theorem lateQueued_done : ∀ i, ∃ r, lateQueued.2.locals i = .done r
  | .pipeline => ⟨_, rfl⟩
  | .ackConsumer => ⟨_, rfl⟩

theorem lateQueued_ack : ∃ before e after, lateQueued.1 = before ++ e :: after ∧
    AppliesAck (paymentIdFor context draws) .completed e ∧
    e.source.store.store.status (paymentIdFor context draws) = some .routed := by
  have hmem := List.mem_of_getElem? (l := lateQueued.1) (i := 15) rfl
  obtain ⟨before, after, heq⟩ := List.append_of_mem hmem
  exact ⟨before, _, after, heq, ⟨_, _, rfl⟩, by decide⟩

end Example

/-- The pipeline puts a completed payment back to QUEUED. -/
theorem completed_payment_queued_again :
    (race Example.host.collaborators (paymentIdFor Example.context Example.draws)).toLTS.Run
        (raceStart Example.request Example.context Example.draws .ascii false Example.ack
          Example.store) Example.lateQueued.1 Example.lateQueued.2 ∧
      (∀ i, ∃ r, Example.lateQueued.2.locals i = .done r) ∧
      (∃ e ∈ Example.lateQueued.1,
        AppliesAck (paymentIdFor Example.context Example.draws) .completed e) ∧
      Example.lateQueued.2.store.store.status (paymentIdFor Example.context Example.draws) =
        some .queued := by
  obtain ⟨before, e, after, heq, hack, -⟩ := Example.lateQueued_ack
  refine ⟨Example.lateQueued_run, Example.lateQueued_done, ⟨e, ?_, hack⟩, by decide⟩
  rw [heq]
  exact List.mem_append_right _ List.mem_cons_self

theorem ack_kept_iff_lateQueued : ∃ before e after,
    Example.lateQueued.1 = before ++ e :: after ∧
      AppliesAck (paymentIdFor Example.context Example.draws) .completed e ∧
      ¬ (Example.lateQueued.2.store.store.status (paymentIdFor Example.context Example.draws) =
          some .completed ∧
        ∀ e' ∈ after, e'.target.store.store.status
          (paymentIdFor Example.context Example.draws) ≠ some .queued) := by
  obtain ⟨before, e, after, heq, hack, hrouted⟩ := Example.lateQueued_ack
  refine ⟨before, e, after, heq, hack, fun hkept => ?_⟩
  rw [ack_kept_iff Example.lateQueued_run Example.lateQueued_done heq hack, hrouted] at hkept
  cases hkept

end MipitCore.Pipeline
