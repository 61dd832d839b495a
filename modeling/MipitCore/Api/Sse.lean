import Mathlib.Data.List.Nodup
import Mathlib.Tactic.Common
import MipitCore.Foundation.Transition
import MipitCore.Js.Value

/-!
# The stream of payment events

Clients connect to follow all payments, or a single one, and every event is written to those that it
concerns. The list of clients is gone through from its end, and a client whose write throws is taken
out of it on the way; a client that disconnects is looked up by its id. Since the list is only
shortened where it has already been gone through, nobody is served twice or passed over.

A client that watches the empty payment id counts as one without a filter.

## Main definitions

* `broadcastPaymentEvent`, `connect`, `disconnect` — what happens to the list
* `Streaming.Step` — a stream with everything that is written
* `Delivers` — what is promised of a step

## Main results

* `broadcast_eq` — what a broadcast writes and takes out
* `delivers_iff` — a run keeps the promise exactly if no event passes a client with an empty filter
-/

namespace MipitCore.Api

open Js Js.CodeUnit Foundation

/-! ### The list of clients -/

/-- A client; of its connection only the number is recorded. -/
structure SseClient where
  id : Text
  reply : ℕ
  paymentFilter : Option Text
  deriving DecidableEq

/-- An event of a payment, with its other properties. -/
structure PaymentEvent where
  paymentId : Text
  others : List (String × JsValue)

/-- `` `event: payment_update\ndata: ${JSON.stringify(event)}\n\n` `` -/
def eventText (event : PaymentEvent) : Text :=
  js "event: payment_update\ndata: " ++
    (stringify (.object (("payment_id", .string event.paymentId) :: event.others))).getD [] ++
    js "\n\n"

/-- `client.paymentFilter && client.paymentFilter !== event.payment_id` -/
def isFiltered (event : PaymentEvent) (client : SseClient) : Bool :=
  client.paymentFilter.any fun paymentFilter => paymentFilter ≠ [] && paymentFilter ≠ event.paymentId

/-- The clients, and what is written to which connection. -/
abbrev Broadcast := List SseClient × List (ℕ × Text)

/-- The loop of `broadcastPaymentEvent` for the clients before the `i`-th, from the last one on;
`throws` says whose writes throw. -/
def broadcastFrom (event : PaymentEvent) (throws : SseClient → Bool) : ℕ → Broadcast → Broadcast
  | 0, b => b
  | i + 1, (clients, written) =>
    match clients[i]? with
    | none => (clients, written)
    | some client =>
      if isFiltered event client then broadcastFrom event throws i (clients, written)
      else
        let written := written ++ [(client.reply, eventText event)]
        if throws client then broadcastFrom event throws i (clients.eraseIdx i, written)
        else broadcastFrom event throws i (clients, written)

/-- `broadcastPaymentEvent(event)` -/
def broadcastPaymentEvent (event : PaymentEvent) (throws : SseClient → Bool)
    (clients : List SseClient) : Broadcast :=
  broadcastFrom event throws clients.length (clients, [])

/-- `` `sse-${++clientIdCounter}` ``, with the payment that is watched. -/
def clientId (clientIdCounter : ℕ) (paymentFilter : Option Text) : Text :=
  js "sse-" ++ natText clientIdCounter ++
    (paymentFilter.map fun paymentId => js "-" ++ paymentId).getD []

/-- The client of a connection. -/
def newClient (clientIdCounter : ℕ) (paymentFilter : Option Text) : SseClient :=
  ⟨clientId clientIdCounter paymentFilter, clientIdCounter, paymentFilter⟩

/-- What the close handler of a client does: the first client with its id is spliced out. -/
def disconnect (client : SseClient) (clients : List SseClient) : List SseClient :=
  clients.eraseP fun c => c.id = client.id

/-! ### Runs -/

/-- The list of clients and the counter, the clients that have ever connected, and all that was
written for events. -/
structure Streaming where
  clients : List SseClient
  clientIdCounter : ℕ
  connected : List SseClient
  written : List (ℕ × Text)

/-- A client connects, unless its greeting cannot be written; a connection is closed; or an event is
broadcast. -/
inductive SseEvent
  | connect (paymentFilter : Option Text) (greeted : Bool)
  | close (client : SseClient)
  | broadcast (event : PaymentEvent) (throws : SseClient → Bool)

namespace Streaming

/-- What an event does. Only a connection that was there can be closed. -/
def after (s : Streaming) : SseEvent → Option Streaming
  | .connect paymentFilter greeted =>
    let counter := s.clientIdCounter + 1
    let client := newClient counter paymentFilter
    if greeted then
      some { s with
        clients := s.clients ++ [client]
        clientIdCounter := counter
        connected := client :: s.connected }
    else some { s with clientIdCounter := counter }
  | .close client =>
    if client ∈ s.connected then some { s with clients := disconnect client s.clients } else none
  | .broadcast event throws =>
    let (clients, written) := broadcastPaymentEvent event throws s.clients
    some { s with clients := clients, written := s.written ++ written }

def Step : LTS Streaming SseEvent := fun s l t => s.after l = some t

/-- Before anybody has connected. -/
def New (s : Streaming) : Prop :=
  s.clients = [] ∧ s.connected = [] ∧ s.clientIdCounter = 0

end Streaming

/-! ### What is promised -/

/-- The client has no filter, or watches the payment of the event. -/
def Watches (event : PaymentEvent) (client : SseClient) : Prop :=
  ∀ paymentFilter ∈ client.paymentFilter, paymentFilter = event.paymentId

instance (event : PaymentEvent) (client : SseClient) : Decidable (Watches event client) :=
  match h : client.paymentFilter with
  | none => isTrue fun _ hmem => by simp [h] at hmem
  | some paymentFilter => decidable_of_iff (paymentFilter = event.paymentId) (by simp [Watches, h])

/-- What a broadcast is to do: one write to each client that watches the payment, and none to
another one, and those of them whose write throws are taken out. -/
structure Broadcasts (event : PaymentEvent) (throws : SseClient → Bool) (s t : Streaming) : Prop where
  writes : ∃ writes, t.written = s.written ++ writes ∧
    (∀ c ∈ s.clients, Watches event c → writes.count (c.reply, eventText event) = 1) ∧
    ∀ w ∈ writes, w.2 = eventText event ∧ ∃ c ∈ s.clients, Watches event c ∧ c.reply = w.1
  clients : t.clients = s.clients.filter fun c => !(decide (Watches event c) && throws c)

/-- **What is promised of a step.** -/
def Delivers (e : Transition Streaming SseEvent) : Prop :=
  match e.label with
  | .connect paymentFilter greeted =>
    e.target.written = e.source.written ∧ e.target.clients = e.source.clients ++
      if greeted then [newClient (e.source.clientIdCounter + 1) paymentFilter] else []
  | .close client =>
    e.target.written = e.source.written ∧
      e.target.clients = e.source.clients.filter fun c => c.reply ≠ client.reply
  | .broadcast event throws => Broadcasts event throws e.source e.target

/-- No event of another payment passes a client that watches the empty id. -/
def NoEmptyFilter (s : Streaming) : SseEvent → Prop
  | .broadcast event _ =>
    ∀ c ∈ s.clients, c.paymentFilter = some [] → event.paymentId = []
  | _ => True

section

variable {event : PaymentEvent} {throws : SseClient → Bool} {clients : List SseClient}
  {client c : SseClient} {s t : Streaming} {l : SseEvent}

/-! ### One broadcast -/

/-- The client is served. -/
def isServed (event : PaymentEvent) (client : SseClient) : Bool := !isFiltered event client

/-- What the loop does to the clients that it has gone through. -/
theorem broadcastFrom_eq (event : PaymentEvent) (throws : SseClient → Bool)
    (before rest : List SseClient) (written : List (ℕ × Text)) :
    broadcastFrom event throws before.length (before ++ rest, written) =
      ((before.filter fun c => !(isServed event c && throws c)) ++ rest,
        written ++ (before.filter (isServed event)).reverse.map
          fun c => (c.reply, eventText event)) := by
  induction before using List.reverseRecOn generalizing rest written with
  | nil => simp [broadcastFrom]
  | append_singleton before client ih =>
    have hclient : (before ++ [client] ++ rest)[before.length]? = some client := by simp
    rw [List.length_append, List.length_singleton, broadcastFrom, hclient]
    dsimp only
    by_cases hfiltered : isFiltered event client = true
    · have hserved : isServed event client = false := by simp [isServed, hfiltered]
      rw [if_pos hfiltered, List.append_assoc before, ih]
      simp [hserved]
    · have hserved : isServed event client = true := by simp [isServed, hfiltered]
      rw [if_neg hfiltered]
      by_cases hthrows : throws client = true
      · -- the client is taken out of its place, and the rest moves up
        have herase : (before ++ [client] ++ rest).eraseIdx before.length = before ++ rest := by
          simp [List.eraseIdx_append_of_length_le]
        rw [if_pos hthrows, herase, ih]
        simp [hserved, hthrows]
      · rw [if_neg hthrows, List.append_assoc before, ih]
        simp [hserved, hthrows]

/-- **A broadcast** writes once to each client that is served, from the last one on, and takes out
those whose write throws. -/
theorem broadcast_eq (event : PaymentEvent) (throws : SseClient → Bool) (clients : List SseClient) :
    broadcastPaymentEvent event throws clients =
      (clients.filter fun c => !(isServed event c && throws c),
        (clients.filter (isServed event)).reverse.map fun c => (c.reply, eventText event)) := by
  have h := broadcastFrom_eq event throws clients [] []
  simpa [broadcastPaymentEvent] using h

/-- Who watches the payment is served, and nobody else but those with an empty filter. -/
theorem isServed_iff :
    isServed event c = true ↔ Watches event c ∨ c.paymentFilter = some [] := by
  unfold isServed isFiltered Watches
  cases c.paymentFilter with
  | none => simp
  | some paymentFilter =>
    by_cases hempty : paymentFilter = []
    · simp [hempty]
    · simp [hempty]

/-! ### One connection that is closed -/

/-- The digits of an id end at its bar, so the number of the connection can be read from it. -/
theorem clientId_inj {m n : ℕ} {f g : Option Text} (h : clientId m f = clientId n g) : m = n := by
  have hdigits : ∀ (k : ℕ) (f : Option Text),
      ((clientId k f).drop 4).takeWhile isDigit = natText k := by
    intro k f
    have hstart : (js "sse-").length = 4 := by decide
    rw [clientId, List.append_assoc, ← hstart, List.drop_left]
    cases f with
    | none => exact takeWhile_digits (isDigits_natText k) noDigitFirst_nil
    | some paymentId =>
      exact takeWhile_digits (isDigits_natText k) (noDigitFirst_cons (by decide) paymentId)
  exact natText_injective ((hdigits m f).symm.trans (h ▸ hdigits n g))

/-- Where no two elements have the property, all that have it are erased with the first. -/
theorem eraseP_eq_filter {α : Type} {p : α → Bool} {l : List α}
    (h : l.Pairwise fun a b => ¬ (p a = true ∧ p b = true)) : l.eraseP p = l.filter fun a => !p a := by
  induction l with
  | nil => rfl
  | cons a l ih =>
    rw [List.pairwise_cons] at h
    by_cases ha : p a = true
    · have hnone : ∀ b ∈ l, (!p b) = true := fun b hb => by
        have := h.1 b hb
        simpa [ha] using this
      rw [List.eraseP_cons_of_pos ha, List.filter_cons_of_neg (by simp [ha]),
        List.filter_eq_self.mpr hnone]
    · rw [List.eraseP_cons_of_neg ha, List.filter_cons_of_pos (by simpa using ha), ih h.2]

/-! ### Runs -/

/-- Every client has connected under its own number, and no two that are listed have the same
one. -/
structure Registered (s : Streaming) : Prop where
  nodup : (s.clients.map SseClient.reply).Nodup
  distinct : (s.connected.map SseClient.reply).Nodup
  known : ∀ c ∈ s.clients, c ∈ s.connected
  named : ∀ c ∈ s.connected, c.id = clientId c.reply c.paymentFilter
  counted : ∀ c ∈ s.connected, c.reply ≤ s.clientIdCounter

theorem Streaming.New.registered (h : s.New) : Registered s := by
  obtain ⟨hclients, hconnected, -⟩ := h
  constructor <;> simp [hclients, hconnected]

/-- A shorter list is registered as well. -/
theorem Registered.sublist (hs : Registered s) (hclients : List.Sublist t.clients s.clients)
    (hconnected : t.connected = s.connected) (hcounter : t.clientIdCounter = s.clientIdCounter) :
    Registered t :=
  ⟨hs.nodup.sublist (hclients.map _), hconnected ▸ hs.distinct, fun c hc => hconnected ▸ hs.known c (hclients.subset hc),
    hconnected ▸ hs.named, by rw [hconnected, hcounter]; exact hs.counted⟩

/-- The client of a number that has not been given out. -/
theorem Registered.connect (hs : Registered s) (paymentFilter : Option Text) :
    Registered { s with
      clients := s.clients ++ [newClient (s.clientIdCounter + 1) paymentFilter]
      clientIdCounter := s.clientIdCounter + 1
      connected := newClient (s.clientIdCounter + 1) paymentFilter :: s.connected } := by
  have hfresh : ∀ c ∈ s.connected, c.reply ≠ s.clientIdCounter + 1 := fun c hc => by
    have := hs.counted c hc
    omega
  refine ⟨?_, ?_, fun c hc => ?_, List.forall_mem_cons.mpr ⟨rfl, hs.named⟩,
    List.forall_mem_cons.mpr ⟨le_rfl, fun c hc => (hs.counted c hc).trans (Nat.le_succ _)⟩⟩
  · rw [List.map_append, List.map_singleton, List.nodup_append_comm, List.singleton_append,
      List.nodup_cons]
    refine ⟨fun hmem => ?_, hs.nodup⟩
    obtain ⟨c, hc, hreply⟩ := List.mem_map.mp hmem
    exact hfresh c (hs.known c hc) hreply
  · rw [List.map_cons, List.nodup_cons]
    refine ⟨fun hmem => ?_, hs.distinct⟩
    obtain ⟨c, hc, hreply⟩ := List.mem_map.mp hmem
    exact hfresh c hc hreply
  · rcases List.mem_append.mp hc with hc | hc
    · exact List.mem_cons_of_mem _ (hs.known c hc)
    · exact List.mem_singleton.mp hc ▸ List.mem_cons_self

/-- The id of a client is as good as its number. -/
theorem Registered.id_eq_iff (hs : Registered s) (hc : c ∈ s.connected)
    (hclient : client ∈ s.connected) : c.id = client.id ↔ c.reply = client.reply := by
  constructor
  · intro hid
    rw [hs.named c hc, hs.named client hclient] at hid
    exact clientId_inj hid
  · intro hreply
    rw [List.inj_on_of_nodup_map hs.distinct hc hclient hreply]

/-- A connection that is closed is that of one client at most. -/
theorem Registered.disconnect_eq (hs : Registered s) (hclient : client ∈ s.connected) :
    disconnect client s.clients = s.clients.filter fun c => c.reply ≠ client.reply := by
  have hsame : ∀ c ∈ s.clients, (c.id = client.id ↔ c.reply = client.reply) := fun c hc =>
    hs.id_eq_iff (hs.known c hc) hclient
  have hone : s.clients.Pairwise fun a b =>
      ¬ (decide (a.id = client.id) = true ∧ decide (b.id = client.id) = true) := by
    refine (List.pairwise_map.mp hs.nodup).imp_of_mem fun {a b} ha hb hne => ?_
    rintro ⟨hida, hidb⟩
    exact hne (((hsame a ha).mp (of_decide_eq_true hida)).trans
      ((hsame b hb).mp (of_decide_eq_true hidb)).symm)
  rw [disconnect, eraseP_eq_filter hone]
  refine List.filter_congr fun c hc => ?_
  simp [hsame c hc]

/-- **A broadcast** to clients of which none has the empty filter, or about the empty id, is what it
is to be; to other ones it is not. -/
theorem Registered.broadcasts_iff (hs : Registered s) :
    Broadcasts event throws s
        { s with
          clients := (broadcastPaymentEvent event throws s.clients).1
          written := s.written ++ (broadcastPaymentEvent event throws s.clients).2 } ↔
      ∀ c ∈ s.clients, c.paymentFilter = some [] → event.paymentId = [] := by
  rw [broadcast_eq]
  constructor
  · rintro ⟨⟨writes, hwritten, -, honly⟩, -⟩ c hc hempty
    obtain rfl := List.append_cancel_left hwritten
    have hserved : isServed event c = true := isServed_iff.mpr (Or.inr hempty)
    -- it is written to, so somebody with its number watches the payment
    obtain ⟨-, c', hc', hwatches, hreply⟩ := honly (c.reply, eventText event)
      (List.mem_map.mpr ⟨c, List.mem_reverse.mpr (List.mem_filter.mpr ⟨hc, hserved⟩), rfl⟩)
    obtain rfl := List.inj_on_of_nodup_map hs.nodup hc' hc hreply
    exact (hwatches [] hempty).symm
  · intro hempty
    have hserved : ∀ c ∈ s.clients, isServed event c = decide (Watches event c) := fun c hc => by
      rw [Bool.eq_iff_iff, isServed_iff, decide_eq_true_eq, or_iff_left_iff_imp]
      intro hfilter paymentFilter hmem
      rw [hfilter] at hmem
      rw [hempty c hc hfilter, ← Option.some.inj hmem]
    rw [List.filter_congr hserved]
    refine ⟨⟨_, rfl, fun c hc hwatches => ?_, fun w hw => ?_⟩, ?_⟩
    · refine List.count_eq_one_of_mem (List.Nodup.of_map Prod.fst ?_) (List.mem_map.mpr
        ⟨c, List.mem_reverse.mpr (List.mem_filter.mpr ⟨hc, decide_eq_true hwatches⟩), rfl⟩)
      rw [List.map_map, List.map_reverse, List.nodup_reverse]
      exact hs.nodup.sublist (List.filter_sublist.map _)
    · obtain ⟨c, hc, rfl⟩ := List.mem_map.mp hw
      obtain ⟨hc, hwatches⟩ := List.mem_filter.mp (List.mem_reverse.mp hc)
      exact ⟨rfl, c, hc, of_decide_eq_true hwatches, rfl⟩
    · exact List.filter_congr fun c hc => by rw [hserved c hc]

/-- A step leaves the clients registered, and keeps the promise exactly if it meets no empty
filter. -/
theorem Registered.step (hs : Registered s) (h : Streaming.Step s l t) :
    Registered t ∧ (Delivers ⟨s, l, t⟩ ↔ NoEmptyFilter s l) := by
  cases l with
  | connect paymentFilter greeted =>
    cases greeted with
    | true =>
      obtain rfl := Option.some.inj h
      exact ⟨hs.connect paymentFilter, by simp [Delivers, NoEmptyFilter]⟩
    | false =>
      obtain rfl := Option.some.inj h
      refine ⟨⟨hs.nodup, hs.distinct, hs.known, hs.named,
        fun c hc => (hs.counted c hc).trans (Nat.le_succ _)⟩, by simp [Delivers, NoEmptyFilter]⟩
  | close client =>
    simp only [Streaming.Step, Streaming.after] at h
    split_ifs at h with hclient
    obtain rfl := Option.some.inj h
    refine ⟨hs.sublist List.eraseP_sublist rfl rfl, ?_⟩
    simp [Delivers, NoEmptyFilter, hs.disconnect_eq hclient]
  | broadcast event throws =>
    obtain rfl := Option.some.inj h
    refine ⟨hs.sublist ?_ rfl rfl, hs.broadcasts_iff⟩
    change (broadcastPaymentEvent event throws s.clients).1.Sublist s.clients
    rw [broadcast_eq]
    exact List.filter_sublist

/-- **Every step of a run delivers what it is to deliver** exactly if no event of another payment
meets a client that watches the empty id. -/
theorem delivers_iff {path : List (Transition Streaming SseEvent)} (hnew : s.New)
    (hrun : Streaming.Step.Run s path t) :
    (∀ e ∈ path, Delivers e) ↔ ∀ e ∈ path, NoEmptyFilter e.source e.label :=
  hrun.forall_iff NoEmptyFilter hnew.registered
    (fun _ _ _ hs hstep hok => ⟨(hs.step hstep).1, (hs.step hstep).2.mpr hok⟩)
    fun _ _ _ hs hstep => (hs.step hstep).2.mp

end

/-! ### A client that watches nothing in particular -/

namespace Example

def payment : PaymentEvent := ⟨js "PMT-1", []⟩

/-- One client follows all payments. -/
def one : Streaming := ⟨[newClient 1 none], 1, [newClient 1 none], []⟩

/-- Another one has connected. -/
def two (paymentFilter : Option Text) : Streaming :=
  ⟨[newClient 1 none, newClient 2 paymentFilter], 2,
    [newClient 2 paymentFilter, newClient 1 none], []⟩

/-- An event has been broadcast. -/
def served (paymentFilter : Option Text) (throws : SseClient → Bool) : Streaming :=
  { two paymentFilter with
    clients := (broadcastPaymentEvent payment throws (two paymentFilter).clients).1
    written := (broadcastPaymentEvent payment throws (two paymentFilter).clients).2 }

def path (paymentFilter : Option Text) (throws : SseClient → Bool) :
    List (Transition Streaming SseEvent) :=
  [⟨⟨[], 0, [], []⟩, .connect none true, one⟩, ⟨one, .connect paymentFilter true, two paymentFilter⟩,
    ⟨two paymentFilter, .broadcast payment throws, served paymentFilter throws⟩]

theorem run_path (paymentFilter : Option Text) (throws : SseClient → Bool) :
    Streaming.Step.Run ⟨[], 0, [], []⟩ (path paymentFilter throws) (served paymentFilter throws) :=
  LTS.Run.cons rfl (LTS.Run.cons rfl (LTS.Run.single rfl))

end Example

theorem delivers_iff_path :
    Streaming.Step.Run ⟨[], 0, [], []⟩ (Example.path (some (js "PMT-1")) fun _ => true)
        (Example.served (some (js "PMT-1")) fun _ => true) ∧
      ∀ e ∈ Example.path (some (js "PMT-1")) fun _ => true, Delivers e := by
  refine ⟨Example.run_path _ _, (delivers_iff ⟨rfl, rfl, rfl⟩ (Example.run_path _ _)).mpr ?_⟩
  have hnonempty : some (js "PMT-1") ≠ some [] := by decide
  simp [Example.path, NoEmptyFilter, Example.two, newClient, hnonempty]

/-- A client with the empty filter is sent the events of every payment. -/
theorem empty_filter_served :
    Streaming.Step.Run ⟨[], 0, [], []⟩ (Example.path (some []) fun _ => false)
        (Example.served (some []) fun _ => false) ∧
      ¬ ∀ e ∈ Example.path (some []) fun _ => false, Delivers e := by
  refine ⟨Example.run_path _ _, fun h => ?_⟩
  obtain ⟨⟨writes, hwritten, -, honly⟩, -⟩ : Broadcasts Example.payment (fun _ => false)
    (Example.two (some [])) (Example.served (some []) fun _ => false) :=
    h ⟨_, .broadcast Example.payment fun _ => false, _⟩
      (List.mem_cons_of_mem _ (List.mem_cons_of_mem _ List.mem_cons_self))
  obtain rfl : (Example.served (some []) fun _ => false).written = writes := hwritten
  obtain ⟨-, c, hc, hwatches, hreply⟩ :=
    honly (2, eventText Example.payment) (by decide +kernel)
  revert c
  decide +kernel

end MipitCore.Api
