import MipitCore.Resilience.Reconnect

/-!
# The channel that the service uses

`main` waits for `connect`, and passes the channel that it has resolved with to the
publisher and to the two consumers, which keep it. The callback of the reconnector sets up
the exchanges and queues on a new channel, and tells nobody about it. So the service uses
the channel of the reconnector exactly as long as no loop has got a new one
(`usesChannel_iff`).

A channel bears the number of its connection, and no connection gets a second one, so
that a channel that was replaced does not come back (`Once`).

## Main definitions

* `Application`, `Application.Step` — the reconnector and those that hold a channel
* `UsesChannel`
* `pending`, `Once`

## Main results

* `pending_step` — what an event does to the channels that are being created
* `usesChannel_iff`
-/

namespace MipitCore.Resilience

open Foundation

/-- The reconnector, and the channels that the publisher and the consumers hold. -/
structure Application where
  reconnector : Reconnector
  publisher : ℕ
  ackConsumer : ℕ
  dlqHandler : ℕ

/-- What happens in the service: an event of the reconnector, or a message is published. -/
inductive Action
  | reconnector (e : Event)
  | publishToAdapter

namespace Application

/-- `main` has created the publisher and started the consumers. -/
def wired (reconnector : Reconnector) (channel : ℕ) : Application :=
  ⟨reconnector, channel, channel, channel⟩

/-- The callback, which sets up the topology on the new channel, leaves the others theirs. -/
def step (opts : ReconnectOptions) (a : Application) : Action → Option Application
  | .reconnector e => (a.reconnector.step opts e).map fun reconnector => { a with reconnector }
  | .publishToAdapter => some a

/-- The runs of the service. -/
def Step (opts : ReconnectOptions) : LTS Application Action := fun a e b => a.step opts e = some b

end Application

/-- `isConnected` -/
def Reconnector.isConnected (s : Reconnector) : Bool := s.connection.isSome && s.channel.isSome

/-- A message that is published while the reconnector is connected, is published on its channel; and
the consumers are subscribed on it. -/
structure UsesChannel (e : Transition Application Action) : Prop where
  publisher : e.label = .publishToAdapter → e.source.reconnector.isConnected = true →
    e.source.reconnector.channel = some e.source.publisher
  ackConsumer : e.target.reconnector.isConnected = true →
    e.target.reconnector.channel = some e.target.ackConsumer
  dlqHandler : e.target.reconnector.isConnected = true →
    e.target.reconnector.channel = some e.target.dlqHandler

namespace Reconnector

/-- Where `connect` and the loops are. -/
def active (s : Reconnector) : List Await := s.connecting.toList ++ s.loops

/-- The connection of a channel that is being created. -/
def creates : Await → Option ℕ
  | .createChannel c => some c
  | _ => none

/-- The connections of the channels that are being created. -/
def pending (s : Reconnector) : List ℕ := s.active.filterMap creates

section Steps

variable {opts : ReconnectOptions} {s t : Reconnector} {who : Option ℕ} {pc : Await}

/-- One of those that are active awaits something else, or ends. -/
theorem active_split (h : s.awaits who = some pc) : ∃ before after,
    s.active = before ++ pc :: after ∧
      (∀ next, (s.await who next).active = before ++ next :: after) ∧
      (s.finish who).active = before ++ after := by
  cases who with
  | none =>
    have hconnecting : s.connecting = some pc := h
    exact ⟨[], s.loops, by simp [active, hconnecting], fun next => rfl, rfl⟩
  | some k =>
    have hk : s.loops[k]? = some pc := h
    obtain ⟨hlt, hget⟩ := List.getElem?_eq_some_iff.mp hk
    refine ⟨s.connecting.toList ++ s.loops.take k, s.loops.drop (k + 1), ?_, ?_, ?_⟩
    · rw [active, List.append_assoc, ← hget, List.getElem_cons_drop hlt, List.take_append_drop]
    · intro next
      simp [active, await, List.set_eq_take_append_cons_drop, hlt]
    · simp [active, finish, List.eraseIdx_eq_take_drop_succ]

/-- Connections stay, and there is a current one once there was one. -/
structure Grows (s t : Reconnector) : Prop where
  connections : ∀ c, s.connections c ≠ none → t.connections c ≠ none
  connection : s.connection ≠ none → t.connection ≠ none

theorem Grows.refl : Grows s s := ⟨fun _ h => h, fun h => h⟩

theorem Grows.trans {u : Reconnector} (h : Grows s t) (h' : Grows t u) : Grows s u :=
  ⟨fun c hc => h'.connections c (h.connections c hc), fun hc => h'.connection (h.connection hc)⟩

theorem Grows.of_eq (hconnections : t.connections = s.connections)
    (hconnection : t.connection = s.connection) : Grows s t :=
  ⟨fun _ h => hconnections ▸ h, fun h => hconnection ▸ h⟩

theorem grows_update {c : ℕ} {conn : Connection} :
    Grows s { s with connections := Function.update s.connections c (some conn) } := by
  refine ⟨fun c' hc' => ?_, fun h => h⟩
  by_cases heq : c' = c
  · rw [heq]
    exact fun h => by simp at h
  · exact (Function.update_of_ne heq _ _).trans_ne hc'

/-- Moreover, no channel is created. -/
structure Keeps (s t : Reconnector) : Prop extends Grows s t where
  channel : t.channel = s.channel
  pending : (pending t).Sublist (pending s)

theorem Keeps.refl : Keeps s s := ⟨Grows.refl, rfl, List.Sublist.refl _⟩

theorem Keeps.trans {u : Reconnector} (h : Keeps s t) (h' : Keeps t u) : Keeps s u :=
  ⟨h.toGrows.trans h'.toGrows, h'.channel.trans h.channel, h'.pending.trans h.pending⟩

theorem grows_finish : Grows s (s.finish who) := by
  cases who <;> exact Grows.of_eq rfl rfl

theorem grows_await {next : Await} : Grows s (s.await who next) := by
  cases who <;> exact Grows.of_eq rfl rfl

theorem keeps_finish (h : s.awaits who = some pc) : Keeps s (s.finish who) := by
  obtain ⟨before, after, hactive, -, hfinish⟩ := active_split h
  refine ⟨grows_finish, by cases who <;> rfl, ?_⟩
  · rw [pending, pending, hactive, hfinish]
    exact (List.Sublist.append (List.Sublist.refl _) (List.sublist_cons_self _ _)).filterMap _

/-- It awaits something else than a channel. -/
theorem keeps_await (h : s.awaits who = some pc) (next : Await) (hnext : creates next = none) :
    Keeps s (s.await who next) := by
  obtain ⟨before, after, hactive, hawait, -⟩ := active_split h
  refine ⟨grows_await, by cases who <;> rfl, ?_⟩
  · rw [pending, pending, hactive, hawait, List.filterMap_append, List.filterMap_append,
      List.filterMap_cons_none hnext]
    exact List.Sublist.append (List.Sublist.refl _) ((List.sublist_cons_self _ _).filterMap _)

theorem keeps_fail (h : s.awaits who = some pc) : Keeps s (s.fail opts who) := by
  cases who with
  | none => exact keeps_finish h
  | some k =>
    rw [fail, retry]
    by_cases hretry : opts.mayRetry s.attempt = true
    · rw [if_pos hretry]
      exact keeps_await h .sleep rfl
    · rw [if_neg hretry]
      have hfinish := keeps_finish h
      exact ⟨⟨hfinish.connections, hfinish.connection⟩, hfinish.channel, hfinish.pending⟩

theorem keeps_scheduleReconnect : Keeps s (s.scheduleReconnect opts) := by
  unfold scheduleReconnect
  by_cases hflag : s.reconnecting = true
  · rw [if_pos hflag]
    exact Keeps.refl
  · rw [if_neg hflag]
    by_cases hretry : opts.mayRetry s.attempt = true
    · rw [if_pos hretry]
      refine ⟨Grows.of_eq rfl rfl, rfl, ?_⟩
      simp [pending, active, creates]
    · rw [if_neg hretry]
      exact ⟨Grows.of_eq rfl rfl, rfl, List.Sublist.refl _⟩

theorem keeps_handlers (handlers : List CloseHandler) : Keeps s (handlers.foldl (handle opts) s) := by
  induction handlers generalizing s with
  | nil => exact Keeps.refl
  | cons handler handlers ih =>
    refine Keeps.trans ?_ ih
    cases handler with
    | initial => exact keeps_scheduleReconnect
    | again =>
      have hclear : Keeps s { s with reconnecting := false } :=
        ⟨Grows.of_eq rfl rfl, rfl, List.Sublist.refl _⟩
      exact hclear.trans keeps_scheduleReconnect

theorem keeps_close {c : ℕ} {handlers : List CloseHandler} :
    Keeps s (handlers.foldl (handle opts) (s.closed c handlers)) := by
  have hclosed : Keeps s (s.closed c handlers) := ⟨grows_update, rfl, List.Sublist.refl _⟩
  exact hclosed.trans (keeps_handlers handlers)

theorem onClose_eq (handler : CloseHandler) : ∃ connections,
    s.onClose handler = { s with connections } ∧ Grows s { s with connections } := by
  rcases Option.eq_none_or_eq_some s.connection with hconnection | ⟨c, hconnection⟩
  · have hsame : s.onClose handler = s := by rw [onClose, hconnection]
    exact ⟨s.connections, hsame, Grows.refl⟩
  · refine ⟨Function.update s.connections c ((s.connections c).map fun conn =>
      { conn with handlers := conn.handlers ++ [handler] }), ?_, fun c' hc' => ?_, fun h => h⟩
    · rw [onClose]
      simp only [hconnection]
    by_cases heq : c' = c
    · rw [heq] at hc' ⊢
      dsimp only
      rw [Function.update_self]
      simpa using hc'
    · exact (Function.update_of_ne heq _ _).trans_ne hc'

theorem pending_channelCreated {c : ℕ} (h : s.awaits who = some (.createChannel c)) :
    Grows s (s.channelCreated opts who c) ∧
      (s.channelCreated opts who c).channel = some c ∧
      ∃ before after, pending s = before ++ c :: after ∧
        pending (s.channelCreated opts who c) = before ++ after := by
  have hpending : ∀ {before after}, s.active = before ++ .createChannel c :: after →
      pending s = before.filterMap creates ++ c :: after.filterMap creates := by
    intro before after hactive
    have hcreates : creates (.createChannel c) = some c := rfl
    rw [pending, hactive, List.filterMap_append, List.filterMap_cons_some hcreates]
  cases who with
  | none =>
    obtain ⟨connections, honClose, hkept⟩ :=
      onClose_eq (s := { s with channel := some c, attempt := 0 }) .initial
    obtain ⟨before, after, hactive, -, hfinish⟩ := active_split h
    rw [channelCreated, honClose]
    refine ⟨⟨hkept.connections, hkept.connection⟩, rfl, _, _, hpending hactive, ?_⟩
    rw [← List.filterMap_append, ← hfinish]
    rfl
  | some k =>
    obtain ⟨connections, honClose, hkept⟩ :=
      onClose_eq (s := { s with channel := some c, attempt := 0 }) .again
    obtain ⟨before, after, hactive, hawait, hfinish⟩ := active_split h
    rw [channelCreated, honClose]
    by_cases hcallback : opts.onReconnect = true
    · simp only [hcallback, ↓reduceIte]
      refine ⟨⟨hkept.connections, hkept.connection⟩, rfl, _, _, hpending hactive, ?_⟩
      have hnotify := hawait .onReconnect
      change s.connecting.toList ++ s.loops.set k .onReconnect = _ at hnotify
      change (s.connecting.toList ++ s.loops.set k .onReconnect).filterMap creates = _
      rw [hnotify, List.filterMap_append, List.filterMap_cons_none rfl]
    · simp only [hcallback]
      refine ⟨⟨hkept.connections, hkept.connection⟩, rfl, _, _, hpending hactive, ?_⟩
      rw [← List.filterMap_append, ← hfinish]
      rfl

/-- What an event does to the channels: a new connection is opened, and a channel is awaited on it;
a channel is created; or neither. -/
inductive Channels (s t : Reconnector) : Event → Prop
  | opened {who : Option ℕ} {c : ℕ} {before after : List ℕ} (hfresh : s.connections c = none)
      (hopened : t.connections c ≠ none) (hconnection : t.connection = some c)
      (hchannel : t.channel = s.channel)
      (hbefore : pending s = before ++ after) (hafter : pending t = before ++ c :: after) :
      Channels s t (.connect who (some c))
  | created {who : Option ℕ} {c : ℕ} {before after : List ℕ} (hchannel : t.channel = some c)
      (hbefore : pending s = before ++ c :: after) (hafter : pending t = before ++ after) :
      Channels s t (.createChannel who true)
  | kept {e : Event} (hne : ∀ who, e ≠ .createChannel who true) (h : Keeps s t) : Channels s t e

theorem connected_connections (who : Option ℕ) (c : ℕ) :
    (s.connected who c).connections = Function.update s.connections c (some ⟨true, []⟩) := by
  cases who <;> rfl

theorem channels_connected {c : ℕ} (h : s.awaits who = some .connect)
    (hfresh : s.connections c = none) :
    Channels s (s.connected who c) (.connect who (some c)) := by
  obtain ⟨before, after, hactive, hawait, -⟩ := active_split h
  have hcreates : creates (.createChannel c) = some c := rfl
  have hconnected : (s.connected who c).active = before ++ .createChannel c :: after := by
    rw [← hawait]
    cases who <;> rfl
  refine .opened hfresh ?_ ?_ ?_
    (?_ : _ = before.filterMap creates ++ after.filterMap creates) ?_
  · rw [connected_connections, Function.update_self]
    exact nofun
  · cases who <;> rfl
  · cases who <;> rfl
  · rw [pending, hactive, List.filterMap_append, List.filterMap_cons_none rfl]
  · rw [pending, hconnected, List.filterMap_append, List.filterMap_cons_some hcreates]

/-- **What an event does to the connections and channels.** -/
theorem channels_step {e : Event} (h : Step opts s e t) : Grows s t ∧ Channels s t e := by
  cases e with
  | slept k =>
    -- a loop that has slept counts its attempt and goes on to connect
    obtain ⟨hk, rfl⟩ := step_slept h
    have hcount : Keeps s { s with attempt := s.attempt + 1 } :=
      ⟨Grows.of_eq rfl rfl, rfl, List.Sublist.refl _⟩
    have hawaits : { s with attempt := s.attempt + 1 }.awaits (some k) = some .sleep := hk
    have hkeeps := hcount.trans (keeps_await hawaits .connect rfl)
    exact ⟨hkeeps.toGrows, .kept nofun hkeeps⟩
  | connect who result =>
    obtain ⟨hwho, ⟨rfl, rfl⟩ | ⟨c, rfl, hfresh, rfl⟩⟩ := step_connect h
    · exact ⟨(keeps_fail hwho).toGrows, .kept nofun (keeps_fail hwho)⟩
    · refine ⟨?_, channels_connected hwho hfresh⟩
      have hupdate : Grows s
          { s with connections := Function.update s.connections c (some ⟨true, []⟩) } :=
        grows_update
      refine ⟨?_, fun _ => by cases who <;> exact nofun⟩
      rw [connected_connections]
      exact hupdate.connections
  | createChannel who resolved =>
    obtain ⟨c, hwho, rfl⟩ := step_createChannel h
    cases resolved with
    | true =>
      obtain ⟨hconnections, hchannel, before, after, hbefore, hafter⟩ :=
        pending_channelCreated hwho
      exact ⟨hconnections, .created hchannel hbefore hafter⟩
    | false => exact ⟨(keeps_fail hwho).toGrows, .kept nofun (keeps_fail hwho)⟩
  | onReconnect k resolved =>
    obtain ⟨hk, rfl⟩ := step_onReconnect h
    have hawaits : s.awaits (some k) = some .onReconnect := hk
    cases resolved with
    | true => exact ⟨(keeps_finish hawaits).toGrows, .kept nofun (keeps_finish hawaits)⟩
    | false =>
      have hkeeps : Keeps s (s.fail opts (some k)) := keeps_fail hawaits
      exact ⟨hkeeps.toGrows, .kept nofun hkeeps⟩
  | close c =>
    obtain ⟨handlers, -, rfl⟩ := step_close h
    exact ⟨keeps_close.toGrows, .kept nofun keeps_close⟩

/-- A connection has had its channel, or will not get one. -/
structure Spent (c : ℕ) (s : Reconnector) : Prop where
  connections : s.connections c ≠ none
  pending : c ∉ pending s

/-- Spent connections stay so. -/
theorem Spent.step {c : ℕ} {e : Event} (hs : Spent c s) (h : Step opts s e t) : Spent c t := by
  obtain ⟨hgrows, hchannels⟩ := channels_step h
  refine ⟨hgrows.connections c hs.connections, ?_⟩
  have hpending := hs.pending
  cases hchannels with
  | opened hfresh hopened hconnection hchannel hbefore hafter =>
    have hne : c ≠ _ := fun heq => hs.connections (heq ▸ hfresh)
    rw [hbefore] at hpending
    rw [hafter]
    simpa [hne] using hpending
  | created hchannel hbefore hafter =>
    rw [hbefore] at hpending
    rw [hafter]
    simp only [List.mem_append, List.mem_cons, not_or] at hpending ⊢
    exact ⟨hpending.1, hpending.2.2⟩
  | kept hne hkeeps => exact fun hmem => hpending (hkeeps.pending.subset hmem)

/-- No connection gets a second channel, and a channel is of a connection. -/
structure Once (s : Reconnector) : Prop where
  connection : s.connection = none → pending s = [] ∧ s.channel = none
  opened : ∀ c ∈ pending s, s.connections c ≠ none
  nodup : (pending s).Nodup
  channel : ∀ c, s.channel = some c → Spent c s

theorem once_start : start.Once := ⟨fun _ => ⟨rfl, rfl⟩, nofun, List.nodup_nil, nofun⟩

theorem Once.step {e : Event} (hs : s.Once) (h : Step opts s e t) : t.Once := by
  obtain ⟨hgrows, hchannels⟩ := channels_step h
  cases hchannels with
  | @opened who c before after hfresh hopened hconnection hchannel hbefore hafter =>
    have hnodup := hs.nodup
    have hnotMem : c ∉ pending s := fun hmem => hs.opened c hmem hfresh
    rw [hbefore] at hnodup hnotMem
    refine ⟨?_, fun c' hc' => ?_, ?_, fun c' hc' => (hs.channel c' (hchannel ▸ hc')).step h⟩
    · rw [hconnection]
      exact nofun
    · -- the connection is new, so it was not waiting for a channel before
      rw [hafter] at hc'
      by_cases heq : c' = c
      · rwa [heq]
      · refine hgrows.connections c' (hs.opened c' ?_)
        rw [hbefore]
        simpa [heq] using hc'
    · rw [hafter]
      exact List.perm_middle.nodup_iff.mpr (List.nodup_cons.mpr ⟨hnotMem, hnodup⟩)
  | @created who c before after hchannel hbefore hafter =>
    have hnodup := hs.nodup
    rw [hbefore, List.perm_middle.nodup_iff, List.nodup_cons] at hnodup
    refine ⟨fun hnone => ?_, fun c' hc' => hgrows.connections c' (hs.opened c' ?_), ?_,
      fun c' hc' => ?_⟩
    · have hpending := (hs.connection (not_ne_iff.mp fun hne => hgrows.connection hne hnone)).1
      rw [hbefore] at hpending
      simp at hpending
    · rw [hafter] at hc'
      rw [hbefore]
      simp only [List.mem_append, List.mem_cons] at hc' ⊢
      tauto
    · rw [hafter]
      exact hnodup.2
    · -- the connection that has got its channel is no longer waiting for it
      obtain rfl : c = c' := Option.some.inj (hchannel.symm.trans hc')
      refine ⟨hgrows.connections c (hs.opened c (by rw [hbefore]; simp)), ?_⟩
      rw [hafter]
      exact hnodup.1
  | kept hne hkeeps =>
    refine ⟨fun hnone => ?_, fun c hc => hkeeps.connections c (hs.opened c (hkeeps.pending.subset hc)),
      hs.nodup.sublist hkeeps.pending, fun c hc => ?_⟩
    · obtain ⟨hpending, hchannel⟩ :=
        hs.connection (not_ne_iff.mp fun hne => hgrows.connection hne hnone)
      exact ⟨List.sublist_nil.mp (hpending ▸ hkeeps.pending), hkeeps.channel.trans hchannel⟩
    · rw [hkeeps.channel] at hc
      exact (hs.channel c hc).step h

end Steps

end Reconnector

/-! ### Runs of the service -/

namespace Application

open Reconnector

variable {opts : ReconnectOptions} {s : Reconnector} {channel : ℕ} {a : Application}
  {path : List (Transition Application Action)}

/-- A channel was created. -/
def Recreates (action : Action) : Prop := ∃ who, action = .reconnector (.createChannel who true)

/-- What holds while no channel was created: the one that the service was wired with is current. In
any case its connection does not get another channel. -/
structure Wired (channel : ℕ) (a : Application) : Prop where
  current : a.reconnector.channel = some channel
  publisher : a.publisher = channel
  ackConsumer : a.ackConsumer = channel
  dlqHandler : a.dlqHandler = channel
  connection : a.reconnector.connection ≠ none
  spent : Spent channel a.reconnector

/-- An action is one of the reconnector, or changes nothing. -/
theorem step_cases {action : Action} {b : Application} (h : Step opts a action b) :
    (∃ e s, action = .reconnector e ∧ Reconnector.Step opts a.reconnector e s ∧
        b = { a with reconnector := s }) ∨ action = .publishToAdapter ∧ b = a := by
  cases action with
  | reconnector e =>
    obtain ⟨s, hs, rfl⟩ := Option.map_eq_some_iff.mp h
    exact Or.inl ⟨e, s, rfl, hs, rfl⟩
  | publishToAdapter => exact Or.inr ⟨rfl, (Option.some.inj h).symm⟩

theorem Wired.step {action : Action} {b : Application} (ha : Wired channel a)
    (h : Step opts a action b) (hkept : ¬ Recreates action) : Wired channel b := by
  rcases step_cases h with ⟨e, s, rfl, hs, rfl⟩ | ⟨rfl, rfl⟩
  · obtain ⟨hgrows, hchannels⟩ := channels_step hs
    refine ⟨?_, ha.publisher, ha.ackConsumer, ha.dlqHandler, hgrows.connection ha.connection,
      ha.spent.step hs⟩
    -- only a channel that is created replaces the current one
    cases hchannels with
    | opened hfresh hopened hconnection hchannel hbefore hafter => exact hchannel.trans ha.current
    | created hchannel hbefore hafter => exact absurd ⟨_, rfl⟩ hkept
    | kept hne hkeeps => exact hkeeps.channel.trans ha.current
  · exact ha

/-- **The service uses the reconnector's channel exactly as long as no channel is created** after it
was wired. -/
theorem usesChannel_iff {events : List (Transition Reconnector Event)}
    (hs : (Reconnector.Step opts).Run Reconnector.start events s) (hchannel : s.channel = some channel)
    (h : (Step opts).Run (wired s channel) path a) :
    (∀ e ∈ path, UsesChannel e) ↔ ∀ e ∈ path, ¬ Recreates e.label := by
  have honce := hs.invariant (I := Once) once_start fun t e u ht hstep => ht.step hstep
  have hconnection : s.connection ≠ none := by
    intro hnone
    rw [(honce.connection hnone).2] at hchannel
    cases hchannel
  have hwired : Wired channel (wired s channel) :=
    ⟨hchannel, rfl, rfl, rfl, hconnection, honce.channel channel hchannel⟩
  refine h.forall_iff (fun _ action => ¬ Recreates action) hwired ?_ ?_
  · intro a action b ha hstep hkept
    have hb := ha.step hstep hkept
    exact ⟨hb, fun _ _ => ha.publisher ▸ ha.current, fun _ => hb.ackConsumer ▸ hb.current,
      fun _ => hb.dlqHandler ▸ hb.current⟩
  · intro a action b ha hstep huses hrecreates
    obtain ⟨who, rfl⟩ := hrecreates
    rcases step_cases hstep with ⟨e, s, he, hs, rfl⟩ | ⟨he, -⟩
    · cases he
      obtain ⟨hgrows, hchannels⟩ := channels_step hs
      cases hchannels with
      | @created _ c before after hcreated hbefore hafter =>
        have hconnected : s.isConnected = true := by
          rw [isConnected, hcreated, Option.isSome_iff_ne_none.mpr (hgrows.connection ha.connection)]
          rfl
        have hconsumer : s.channel = some a.ackConsumer := huses.ackConsumer hconnected
        rw [hcreated, ha.ackConsumer] at hconsumer
        -- the new channel is not the one that the service was wired with
        refine ha.spent.pending ?_
        rw [hbefore, ← Option.some.inj hconsumer]
        simp
      | kept hne hkeeps => exact hne who rfl
    · cases he

/-! ### One reconnect -/

namespace Example

/-- `connect` has resolved. -/
def connected : List (Transition Reconnector Event) × Reconnector :=
  LTS.follow (Reconnector.step .main) [.connect none (some 0), .createChannel none true]
    Reconnector.start

theorem connected_run :
    (Reconnector.Step .main).Run Reconnector.start connected.1 connected.2 :=
  LTS.run_follow (fun _ _ _ h => h) _ _

/-- The connection is lost and restored, and then a message is published. -/
def actions : List Action :=
  [.reconnector (.close 0), .reconnector (.slept 0), .reconnector (.connect (some 0) (some 1)),
    .reconnector (.createChannel (some 0) true), .reconnector (.onReconnect 0 true),
    .publishToAdapter]

def restored : List (Transition Application Action) × Application :=
  LTS.follow (step .main) actions (wired connected.2 0)

theorem restored_run : (Step .main).Run (wired connected.2 0) restored.1 restored.2 :=
  LTS.run_follow (fun _ _ _ h => h) _ _

/-- The message goes to the channel of the connection that was lost. -/
theorem not_usesChannel_restored : ¬ ∀ e ∈ restored.1, UsesChannel e := by
  intro huses
  have hlast := (huses ⟨restored.2, .publishToAdapter, restored.2⟩
    (List.mem_of_getElem? (i := 5) rfl)).publisher rfl rfl
  cases hlast

end Example

/-- A message is published on a channel that the reconnector has replaced. -/
theorem published_on_lost_channel :
    (Reconnector.Step .main).Run Reconnector.start Example.connected.1 Example.connected.2 ∧
      Example.connected.2.channel = some 0 ∧
      (Step .main).Run (wired Example.connected.2 0) Example.restored.1 Example.restored.2 ∧
      ¬ ∀ e ∈ Example.restored.1, UsesChannel e :=
  ⟨Example.connected_run, rfl, Example.restored_run, Example.not_usesChannel_restored⟩

theorem usesChannel_iff_restored : ¬ ∀ e ∈ Example.restored.1, ¬ Recreates e.label := by
  intro hkept
  exact Example.not_usesChannel_restored
    ((usesChannel_iff Example.connected_run rfl Example.restored_run).mpr hkept)

end Application

end MipitCore.Resilience
