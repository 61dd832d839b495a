import MipitCore.Resilience.Reconnect

/-!
# Reconnect loops, one at a time

The flag that keeps a second loop from being started is cleared before a loop has ended:
when its channel is created, the service is still to be notified, and if that fails the
loop goes on while the connection that it has opened is in use. A connection that closes
in the meantime starts a second loop, and a loop that goes on replaces an open connection.
Without these events there is one loop at most (`exclusive_iff`).

## Main definitions

* `Exclusive` — one loop, and no handler but the current connection's
* `Orderly` — the events that keep it so
* `Inv`

## Main results

* `inv_step`, `orderly_of_exclusive`
* `exclusive_iff`
-/

namespace MipitCore.Resilience.Reconnector

open Foundation

section Steps

variable {opts : ReconnectOptions} {s t : Reconnector}

/-- One loop at most, and no connection but the current one is open with a handler. -/
structure Exclusive (s : Reconnector) : Prop where
  loops : s.loops.length ≤ 1
  current : ∀ c handlers, s.connections c = some ⟨true, handlers⟩ → handlers ≠ [] →
    s.connection = some c

/-- While a loop is active and attempts are left, no connection with a handler closes; and none is
replaced by a loop while it is open with a handler. -/
def Orderly (opts : ReconnectOptions) (s : Reconnector) : Event → Prop
  | .close c => ∀ handlers, s.connections c = some ⟨true, handlers⟩ →
      handlers = [] ∨ s.loops = [] ∨ opts.mayRetry s.attempt = false
  | .connect (some _) (some _) => ∀ c handlers, s.connection = some c →
      s.connections c = some ⟨true, handlers⟩ → handlers = []
  | _ => True

/-- What orderly events preserve. The handler of `connect` is gone before a loop starts, and a
connection has no handler before its channel is created. -/
structure Inv (s : Reconnector) : Prop extends Exclusive s where
  handlers : ∀ c conn, s.connections c = some conn → conn.handlers.length ≤ 1
  initial : ∀ c handlers, s.connections c = some ⟨true, handlers⟩ → .initial ∈ handlers → s.loops = []
  creating : ∀ who c, s.awaits who = some (.createChannel c) →
    s.connection = some c ∧ ∃ conn, s.connections c = some conn ∧ conn.handlers = []
  connecting : s.connecting ≠ none →
    s.loops = [] ∧ ∀ c conn, s.connections c = some conn → conn.handlers = []

theorem inv_start : start.Inv where
  loops := Nat.zero_le 1
  current c handlers h := by cases h
  handlers c conn h := by cases h
  initial c handlers h := by cases h
  creating who c h := by cases who <;> cases h
  connecting _ := ⟨rfl, fun c conn h => by cases h⟩

/-- A loop that awaits something is the only one. -/
theorem Inv.loops_eq (hs : s.Inv) {k : ℕ} {pc : Await} (hk : s.loops[k]? = some pc) :
    k = 0 ∧ s.loops = [pc] := by
  have hlength := hs.loops
  cases hloops : s.loops with
  | nil => simp [hloops] at hk
  | cons pc' loops =>
    rw [hloops, List.length_cons] at hlength
    obtain rfl : loops = [] := List.eq_nil_of_length_eq_zero (by omega)
    rw [hloops] at hk
    cases k with
    | zero => exact ⟨rfl, by rw [Option.some.inj hk]⟩
    | succ k => cases hk

/-- The loop goes on without touching the connections, or ends. -/
theorem Inv.of_loops (hs : s.Inv) (hloops : s.loops ≠ [])
    (hconnections : t.connections = s.connections) (hconnection : t.connection = s.connection)
    (hconnecting : t.connecting = s.connecting) (hlength : t.loops.length ≤ 1)
    (hcreating : ∀ c, .createChannel c ∉ t.loops) : t.Inv where
  loops := hlength
  current := by
    rw [hconnections, hconnection]
    exact hs.current
  handlers := by
    rw [hconnections]
    exact hs.handlers
  initial := by
    rw [hconnections]
    exact fun c handlers hc hmem => absurd (hs.initial c handlers hc hmem) hloops
  creating := by
    intro who c hawaits
    cases who with
    | none =>
      -- `connect` is done when there is a loop
      change t.connecting = _ at hawaits
      rw [hconnecting] at hawaits
      exact absurd (hs.connecting (by rw [hawaits]; exact nofun)).1 hloops
    | some k => exact absurd (List.mem_of_getElem? hawaits) (hcreating c)
  connecting := by
    rw [hconnecting]
    exact fun hconnecting => absurd (hs.connecting hconnecting).1 hloops

theorem Inv.retry (hs : s.Inv) {k : ℕ} {pc : Await} (hk : s.loops[k]? = some pc) :
    (s.retry opts k).Inv := by
  obtain ⟨rfl, hloops⟩ := hs.loops_eq hk
  have hne : s.loops ≠ [] := by simp [hloops]
  by_cases hretry : opts.mayRetry s.attempt = true
  · rw [Reconnector.retry, if_pos hretry]
    exact hs.of_loops hne rfl rfl rfl (by simp [Reconnector.await, hloops])
      (by simp [Reconnector.await, hloops])
  · rw [Reconnector.retry, if_neg hretry]
    exact hs.of_loops hne rfl rfl rfl (by simp [finish, hloops]) (by simp [finish, hloops])

/-- A call that is rejected ends `connect`, and a loop goes on. -/
theorem Inv.fail (hs : s.Inv) {who : Option ℕ} {pc : Await} (hwho : s.awaits who = some pc) :
    (s.fail opts who).Inv := by
  cases who with
  | none =>
    obtain ⟨hloops, hnone⟩ := hs.connecting (by
      change s.connecting = _ at hwho
      rw [hwho]
      exact nofun)
    constructor
    · exact ⟨hs.loops, hs.current⟩
    · exact hs.handlers
    · exact hs.initial
    · intro who c hawaits
      cases who with
      | none => cases hawaits
      | some k => exact hs.creating (some k) c hawaits
    · exact fun h => absurd rfl h
  | some k => exact hs.retry hwho

/-- While `connect` is at it, there is no loop. -/
theorem Inv.connecting_eq_none (hs : s.Inv) (hloops : s.loops ≠ []) : s.connecting = none := by
  by_contra hne
  exact hloops (hs.connecting hne).1

theorem connected_cases {who : Option ℕ} {c c' : ℕ} {conn : Connection}
    (h : (s.connected who c).connections c' = some conn) :
    conn = ⟨true, []⟩ ∨ s.connections c' = some conn := by
  have hupdate : Function.update s.connections c (some ⟨true, []⟩) c' = some conn := by
    cases who <;> exact h
  by_cases heq : c' = c
  · rw [heq, Function.update_self] at hupdate
    exact Or.inl (Option.some.inj hupdate).symm
  · rw [Function.update_of_ne heq] at hupdate
    exact Or.inr hupdate

/-- A connection is opened where no other is open with a handler. -/
theorem Inv.connected (hs : s.Inv) {who : Option ℕ} {c : ℕ} (hwho : s.awaits who = some .connect)
    (hopen : ∀ c' handlers, s.connections c' = some ⟨true, handlers⟩ → handlers = []) :
    (s.connected who c).Inv := by
  have hnone : ∀ c' handlers, (s.connected who c).connections c' = some ⟨true, handlers⟩ →
      handlers = [] := by
    intro c' handlers hc'
    rcases connected_cases hc' with hnew | hold
    · cases hnew
      rfl
    · exact hopen c' handlers hold
  have hcurrent : ∀ c' handlers, (s.connected who c).connections c' = some ⟨true, handlers⟩ →
      handlers ≠ [] → (s.connected who c).connection = some c' :=
    fun c' handlers hc' hne => absurd (hnone c' handlers hc') hne
  have hhandlers : ∀ c' conn, (s.connected who c).connections c' = some conn →
      conn.handlers.length ≤ 1 := by
    intro c' conn hc'
    rcases connected_cases hc' with rfl | hold
    · exact Nat.zero_le 1
    · exact hs.handlers c' conn hold
  have hinitial : ∀ c' handlers, (s.connected who c).connections c' = some ⟨true, handlers⟩ →
      .initial ∈ handlers → (s.connected who c).loops = [] := by
    intro c' handlers hc' hmem
    rw [hnone c' handlers hc'] at hmem
    cases hmem
  -- the channel is created on the new connection, which has no handler
  have hnew : ∀ who' c', (s.connected who c).awaits who' = some (.createChannel c') →
      c' = c → (s.connected who c).connection = some c' ∧
        ∃ conn, (s.connected who c).connections c' = some conn ∧ conn.handlers = [] := by
    intro who' c' _ heq
    subst heq
    refine ⟨by cases who <;> rfl, ⟨true, []⟩, ?_, rfl⟩
    cases who <;> exact Function.update_self _ _ _
  cases who with
  | none =>
    obtain ⟨hloops, hempty⟩ := hs.connecting (by
      change s.connecting = _ at hwho
      rw [hwho]
      exact nofun)
    refine ⟨⟨hs.loops, hcurrent⟩, hhandlers, hinitial, ?_, fun _ => ⟨hloops, ?_⟩⟩
    · intro who' c' hawaits
      refine hnew who' c' hawaits ?_
      cases who' with
      | none =>
        cases hawaits
        rfl
      | some k =>
        change s.loops[k]? = _ at hawaits
        rw [hloops] at hawaits
        cases hawaits
    · intro c' conn hc'
      rcases connected_cases hc' with rfl | hold
      · rfl
      · exact hempty c' conn hold
  | some k =>
    obtain ⟨rfl, hloops⟩ := hs.loops_eq hwho
    have hconnecting : s.connecting = none := hs.connecting_eq_none (by simp [hloops])
    have hset : s.loops.set 0 (.createChannel c) = [.createChannel c] := by
      rw [hloops]
      rfl
    refine ⟨⟨?_, hcurrent⟩, hhandlers, hinitial, ?_, fun h => absurd hconnecting h⟩
    · change (s.loops.set 0 (.createChannel c)).length ≤ 1
      rw [hset]
      exact Nat.le_refl 1
    · intro who' c' hawaits
      refine hnew who' c' hawaits ?_
      cases who' with
      | none =>
        change s.connecting = _ at hawaits
        rw [hconnecting] at hawaits
        cases hawaits
      | some k' =>
        change (s.loops.set 0 (.createChannel c))[k']? = _ at hawaits
        rw [hset] at hawaits
        cases k' with
        | zero =>
          cases hawaits
          rfl
        | succ k' => cases hawaits

theorem onClose_cases {c c' : ℕ} {handler : CloseHandler} {conn : Connection}
    (hconnection : s.connection = some c)
    (h : (s.onClose handler).connections c' = some conn) :
    (c' = c ∧ ∃ old, s.connections c = some old ∧
        conn = { old with handlers := old.handlers ++ [handler] }) ∨
      (c' ≠ c ∧ s.connections c' = some conn) := by
  rw [onClose, hconnection] at h
  dsimp only at h
  by_cases heq : c' = c
  · subst heq
    rw [Function.update_self] at h
    obtain ⟨old, hold, rfl⟩ := Option.map_eq_some_iff.mp h
    exact Or.inl ⟨rfl, old, hold, rfl⟩
  · rw [Function.update_of_ne heq] at h
    exact Or.inr ⟨heq, h⟩

/-- The current connection gets its handler. -/
theorem Inv.onClose (hs : s.Inv) (handler : CloseHandler) {c : ℕ}
    (hconnection : s.connection = some c)
    (hempty : ∀ conn, s.connections c = some conn → conn.handlers = [])
    (hconnections : t.connections = (s.onClose handler).connections)
    (hsame : t.connection = s.connection) (hconnecting : t.connecting = none)
    (hlength : t.loops.length ≤ 1) (hcreating : ∀ c, .createChannel c ∉ t.loops)
    (hinitial : handler = .initial → t.loops = []) : t.Inv := by
  have hcases : ∀ c' conn, t.connections c' = some conn →
      (c' = c ∧ conn.handlers = [handler]) ∨ (c' ≠ c ∧ s.connections c' = some conn) := by
    intro c' conn hc'
    rw [hconnections] at hc'
    rcases onClose_cases hconnection hc' with ⟨rfl, old, hold, rfl⟩ | hother
    · refine Or.inl ⟨rfl, ?_⟩
      rw [hempty old hold]
      rfl
    · exact Or.inr hother
  constructor
  · refine ⟨hlength, fun c' handlers hc' hne => ?_⟩
    rw [hsame]
    rcases hcases c' _ hc' with ⟨rfl, -⟩ | ⟨-, hother⟩
    · exact hconnection
    · exact hs.current c' handlers hother hne
  · intro c' conn hc'
    rcases hcases c' conn hc' with ⟨-, hhandlers⟩ | ⟨-, hother⟩
    · rw [hhandlers]
      exact Nat.le_refl 1
    · exact hs.handlers c' conn hother
  · intro c' handlers hc' hmem
    rcases hcases c' _ hc' with ⟨-, hhandlers⟩ | ⟨hne, hother⟩
    · obtain rfl : handlers = [handler] := hhandlers
      exact hinitial (List.mem_singleton.mp hmem).symm
    · -- no other connection is open with a handler
      have hcurrent := hs.current c' handlers hother (List.ne_nil_of_mem hmem)
      rw [hconnection] at hcurrent
      exact absurd (Option.some.inj hcurrent).symm hne
  · intro who c' hawaits
    cases who with
    | none =>
      change t.connecting = _ at hawaits
      rw [hconnecting] at hawaits
      cases hawaits
    | some k => exact absurd (List.mem_of_getElem? hawaits) (hcreating c')
  · exact fun h => absurd hconnecting h

theorem Inv.channelCreated (hs : s.Inv) {who : Option ℕ} {c : ℕ}
    (hwho : s.awaits who = some (.createChannel c)) : (s.channelCreated opts who c).Inv := by
  obtain ⟨hconnection, conn, hconn, hempty⟩ := hs.creating who c hwho
  have hempty' : ∀ conn, s.connections c = some conn → conn.handlers = [] := by
    intro conn' hconn'
    cases hconn.symm.trans hconn'
    exact hempty
  have hregistered : ∀ handler, ({ s with channel := some c, attempt := 0 }.onClose handler) =
      { s with
        channel := some c, attempt := 0
        connections := (s.onClose handler).connections } := by
    intro handler
    simp only [Reconnector.onClose, hconnection]
  cases who with
  | none =>
    -- the first connection: no loop is running yet
    obtain ⟨hloops, -⟩ := hs.connecting (by
      change s.connecting = _ at hwho
      rw [hwho]
      exact nofun)
    rw [Reconnector.channelCreated, hregistered]
    exact hs.onClose .initial hconnection hempty' rfl rfl rfl hs.loops (by simp [finish, hloops])
      fun _ => hloops
  | some k =>
    obtain ⟨rfl, hloops⟩ := hs.loops_eq hwho
    have hconnecting : s.connecting = none := hs.connecting_eq_none (by simp [hloops])
    rw [Reconnector.channelCreated, hregistered]
    by_cases hcallback : opts.onReconnect = true
    · simp only [hcallback, ↓reduceIte]
      exact hs.onClose .again hconnection hempty' rfl rfl hconnecting
        (by simp [Reconnector.await, hloops]) (by simp [Reconnector.await, hloops]) nofun
    · simp only [hcallback]
      exact hs.onClose .again hconnection hempty' rfl rfl hconnecting
        (by simp [finish, hloops]) (by simp [finish, hloops]) nofun

theorem closed_cases {c c' : ℕ} {handlers : List CloseHandler} {conn : Connection}
    (h : (s.closed c handlers).connections c' = some conn) :
    (c' = c ∧ conn = ⟨false, handlers⟩) ∨ (c' ≠ c ∧ s.connections c' = some conn) := by
  rw [closed] at h
  dsimp only at h
  by_cases heq : c' = c
  · rw [heq, Function.update_self] at h
    exact Or.inl ⟨heq, (Option.some.inj h).symm⟩
  · rw [Function.update_of_ne heq] at h
    exact Or.inr ⟨heq, h⟩

theorem Inv.closed (hs : s.Inv) {c : ℕ} {handlers : List CloseHandler}
    (hc : s.connections c = some ⟨true, handlers⟩) : (s.closed c handlers).Inv := by
  constructor
  · refine ⟨hs.loops, fun c' handlers' hc' hne => ?_⟩
    rcases closed_cases hc' with ⟨-, hclosed⟩ | ⟨-, hother⟩
    · cases hclosed
    · exact hs.current c' handlers' hother hne
  · intro c' conn hc'
    rcases closed_cases hc' with ⟨-, rfl⟩ | ⟨-, hother⟩
    · exact hs.handlers c ⟨true, handlers⟩ hc
    · exact hs.handlers c' conn hother
  · intro c' handlers' hc' hmem
    rcases closed_cases hc' with ⟨-, hclosed⟩ | ⟨-, hother⟩
    · cases hclosed
    · exact hs.initial c' handlers' hother hmem
  · intro who c' hawaits
    have hawaits' : s.awaits who = some (.createChannel c') := by
      cases who <;> exact hawaits
    obtain ⟨hconnection, conn, hconn, hempty⟩ := hs.creating who c' hawaits'
    refine ⟨hconnection, ?_⟩
    by_cases heq : c' = c
    · subst heq
      cases hc.symm.trans hconn
      exact ⟨_, Function.update_self _ _ _, hempty⟩
    · exact ⟨conn, (Function.update_of_ne heq _ _).trans hconn, hempty⟩
  · intro hconnecting
    obtain ⟨hloops, hempty⟩ := hs.connecting hconnecting
    refine ⟨hloops, fun c' conn hc' => ?_⟩
    rcases closed_cases hc' with ⟨-, rfl⟩ | ⟨-, hother⟩
    · exact hempty c ⟨true, handlers⟩ hc
    · exact hempty c' conn hother

/-- The flag takes no part in the invariant. -/
theorem Inv.flag (hs : s.Inv) (reconnecting : Bool) : { s with reconnecting }.Inv :=
  ⟨⟨hs.loops, hs.current⟩, hs.handlers, hs.initial,
    fun who c hawaits => hs.creating who c (by cases who <;> exact hawaits), hs.connecting⟩

/-- A loop is started where there is none, after the connection with a handler has closed. -/
theorem Inv.scheduleReconnect (hs : s.Inv)
    (hopen : ∀ c handlers, s.connections c = some ⟨true, handlers⟩ → handlers = [])
    (hconnecting : s.connecting = none)
    (hloops : s.loops = [] ∨ opts.mayRetry s.attempt = false) :
    (s.scheduleReconnect opts).Inv := by
  unfold Reconnector.scheduleReconnect
  by_cases hflag : s.reconnecting = true
  · rwa [if_pos hflag]
  · rw [if_neg hflag]
    by_cases hretry : opts.mayRetry s.attempt = true
    · rw [if_pos hretry]
      have hnil : s.loops = [] := hloops.resolve_right (by simp [hretry])
      refine ⟨⟨?_, hs.current⟩, hs.handlers, ?_, ?_, fun h => absurd hconnecting h⟩
      · simp [hnil]
      · intro c handlers hc hmem
        rw [hopen c handlers hc] at hmem
        cases hmem
      · intro who c hawaits
        cases who with
        | none =>
          change s.connecting = _ at hawaits
          rw [hconnecting] at hawaits
          cases hawaits
        | some k =>
          have hmem := List.mem_of_getElem? hawaits
          simp [hnil] at hmem
    · rw [if_neg hretry]
      exact hs.flag false

/-- **A connection closes.** -/
theorem Inv.handle (hs : s.Inv) {c : ℕ} {handlers : List CloseHandler}
    (hc : s.connections c = some ⟨true, handlers⟩)
    (horderly : handlers = [] ∨ s.loops = [] ∨ opts.mayRetry s.attempt = false) :
    (handlers.foldl (Reconnector.handle opts) (s.closed c handlers)).Inv := by
  have hclosed := hs.closed hc
  have hlength := hs.handlers c _ hc
  match handlers, hlength, horderly with
  | [], _, _ => exact hclosed
  | [handler], _, horderly =>
    have hloops := horderly.resolve_left nofun
    have hopen : ∀ c' handlers', (s.closed c [handler]).connections c' = some ⟨true, handlers'⟩ →
        handlers' = [] := by
      intro c' handlers' hc'
      rcases closed_cases hc' with ⟨-, h⟩ | ⟨hne, hother⟩
      · cases h
      · by_contra hhandlers
        have hcurrent := hs.current c' handlers' hother hhandlers
        rw [hs.current c _ hc nofun] at hcurrent
        exact hne (Option.some.inj hcurrent).symm
    have hconnecting : s.connecting = none := by
      by_contra hconnecting
      cases (hs.connecting hconnecting).2 c _ hc
    cases handler with
    | initial => exact hclosed.scheduleReconnect hopen hconnecting hloops
    | again => exact (hclosed.flag false).scheduleReconnect hopen hconnecting hloops

/-- **Orderly events preserve the invariant.** -/
theorem inv_step {e : Event} (hs : s.Inv) (h : Step opts s e t) (he : Orderly opts s e) : t.Inv := by
  cases e with
  | slept k =>
    obtain ⟨hk, rfl⟩ := step_slept h
    obtain ⟨rfl, hloops⟩ := hs.loops_eq hk
    exact hs.of_loops (by simp [hloops]) rfl rfl rfl (by simp [await, hloops])
      (by simp [await, hloops])
  | connect who result =>
    obtain ⟨hwho, ⟨rfl, rfl⟩ | ⟨c, rfl, -, rfl⟩⟩ := step_connect h
    · exact hs.fail hwho
    · refine hs.connected hwho fun c' handlers hc' => ?_
      cases who with
      | none =>
        have hempty := (hs.connecting (by
          change s.connecting = _ at hwho
          rw [hwho]
          exact nofun)).2
        exact hempty c' _ hc'
      | some k =>
        -- an orderly reconnect comes when the old connection has no handlers left
        by_contra hne
        exact hne (he c' handlers (hs.current c' handlers hc' hne) hc')
  | createChannel who resolved =>
    obtain ⟨c, hwho, rfl⟩ := step_createChannel h
    cases resolved with
    | true => exact hs.channelCreated hwho
    | false => exact hs.fail hwho
  | onReconnect k resolved =>
    obtain ⟨hk, rfl⟩ := step_onReconnect h
    cases resolved with
    | true =>
      obtain ⟨rfl, hloops⟩ := hs.loops_eq hk
      exact hs.of_loops (by simp [hloops]) rfl rfl rfl (by simp [finish, hloops])
        (by simp [finish, hloops])
    | false => exact hs.retry hk
  | close c =>
    obtain ⟨handlers, hc, rfl⟩ := step_close h
    exact hs.handle hc (he handlers hc)

/-- **Only orderly events** leave one loop, and no handler but the current connection's. -/
theorem orderly_of_exclusive {e : Event} (hs : s.Inv) (h : Step opts s e t) (ht : t.Exclusive) :
    Orderly opts s e := by
  match e with
  | .close c =>
    obtain ⟨handlers, hc, rfl⟩ := step_close h
    intro handlers' hc'
    cases hc.symm.trans hc'
    by_contra hdisorderly
    simp only [not_or, Bool.not_eq_false] at hdisorderly
    obtain ⟨hne, hloops, hretry⟩ := hdisorderly
    have hlength := hs.handlers c _ hc
    match handlers, hne, hlength with
    | [.initial], _, _ => exact hloops (hs.initial c _ hc List.mem_cons_self)
    | [.again], _, _ =>
      -- the flag is cleared, and a second loop starts
      have htwo := ht.loops
      simp [handle, scheduleReconnect, closed, hretry] at htwo
      exact hloops htwo
  | .connect (some k) (some c) =>
    obtain ⟨hk, ⟨h, -⟩ | ⟨c', hresult, hfresh, rfl⟩⟩ := step_connect h
    · cases h
    · cases hresult
      intro c' handlers hconnection hc'
      by_contra hne
      have hopen : (s.connected (some k) c).connections c' = some ⟨true, handlers⟩ := by
        have hother : c' ≠ c := by
          rintro rfl
          cases hfresh.symm.trans hc'
        exact (Function.update_of_ne hother _ _).trans hc'
      -- the connection is replaced, and stays open with its handler
      have hcurrent := ht.current c' handlers hopen hne
      cases hcurrent
      cases hfresh.symm.trans hc'
  | .slept k | .connect none result | .connect (some k) none | .createChannel who resolved
  | .onReconnect k resolved => trivial

/-- **At most one loop is active, and no replaced connection can start another, exactly if all
events are orderly.** -/
theorem exclusive_iff {path : List (Transition Reconnector Event)}
    (h : (Step opts).Run start path t) :
    (∀ e ∈ path, e.target.Exclusive) ↔ ∀ e ∈ path, Orderly opts e.source e.label :=
  h.forall_iff (Orderly opts) inv_start
    (fun _ _ _ hs hstep he => ⟨inv_step hs hstep he, (inv_step hs hstep he).toExclusive⟩)
    fun _ _ _ hs hstep ht => orderly_of_exclusive hs hstep ht

end Steps

/-! ### A connection that closes while the service is notified -/

namespace Example

/-- The first connection closes, and so does the second while the callback is pending; the callback
is rejected. -/
def events : List Event :=
  [.connect none (some 0), .createChannel none true, .close 0, .slept 0, .connect (some 0) (some 1),
    .createChannel (some 0) true, .close 1, .onReconnect 0 false]

def secondLoss : List (Transition Reconnector Event) × Reconnector :=
  LTS.follow (step ReconnectOptions.main) events start

theorem secondLoss_run : (Step ReconnectOptions.main).Run start secondLoss.1 secondLoss.2 :=
  LTS.run_follow (fun _ _ _ h => h) events start

theorem secondLoss_loops : secondLoss.2.loops = [.sleep, .sleep] := by decide

theorem secondLoss_last : ∃ e ∈ secondLoss.1, e.target = secondLoss.2 :=
  ⟨_, List.mem_of_getElem? (i := 7) rfl, rfl⟩

theorem not_exclusive_secondLoss : ¬ secondLoss.2.Exclusive := by
  intro h
  have hlength := h.loops
  rw [secondLoss_loops] at hlength
  exact absurd hlength (by decide)

end Example

/-- Two loops are active at once. -/
theorem two_loops : (Step ReconnectOptions.main).Run start Example.secondLoss.1 Example.secondLoss.2 ∧
    ¬ Example.secondLoss.2.Exclusive :=
  ⟨Example.secondLoss_run, Example.not_exclusive_secondLoss⟩

theorem exclusive_iff_secondLoss :
    ¬ ∀ e ∈ Example.secondLoss.1, Orderly ReconnectOptions.main e.source e.label := by
  intro horderly
  obtain ⟨e, he, htarget⟩ := Example.secondLoss_last
  refine Example.not_exclusive_secondLoss ?_
  rw [← htarget]
  exact (exclusive_iff Example.secondLoss_run).mpr horderly e he

end MipitCore.Resilience.Reconnector
