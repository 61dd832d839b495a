import MipitCore.Foundation.Transition

/-!
# The reconnector of the broker

`RabbitMQReconnector` holds one connection and one channel. When the connection closes, a
handler starts `doReconnect`, a loop that sleeps, connects, creates a channel and notifies
the service, until it has succeeded or the attempts are used up. A flag, `reconnecting`,
is to keep a second loop from being started while one is active. The handler that a loop
registers clears that flag, and so does the loop before it notifies the service.

Connections are numbered, and a channel bears the number of its connection. How long a
loop sleeps is left out: the events come in any order.

## Main definitions

* `Reconnector`, `Event`
* `Reconnector.step`, `Reconnector.Step` — what can happen to it

## Main results

* `step_slept` and its siblings — what an event can do
-/

namespace MipitCore.Resilience

open Foundation

/-- The options that decide what is done; `none` is `Infinity`. -/
structure ReconnectOptions where
  maxAttempts : Option ℕ
  /-- Whether there is a callback. -/
  onReconnect : Bool

/-- `attempt < maxAttempts` -/
def ReconnectOptions.mayRetry (opts : ReconnectOptions) (attempt : ℕ) : Bool :=
  match opts.maxAttempts with
  | none => true
  | some maxAttempts => attempt < maxAttempts

/-- The options that `main` gives. -/
def ReconnectOptions.main : ReconnectOptions := ⟨none, true⟩

/-- The handlers of `close`: the one that `connect` registers, and that of a loop, which clears the
flag first. -/
inductive CloseHandler
  | initial
  | again
  deriving DecidableEq

/-- A connection to the broker. -/
structure Connection where
  isOpen : Bool
  handlers : List CloseHandler
  deriving DecidableEq

/-- What is being awaited; `createChannel` on a connection. -/
inductive Await
  | sleep
  | connect
  | createChannel (c : ℕ)
  | onReconnect
  deriving DecidableEq

/-- The connections that were ever opened, the fields of the reconnector, and where `connect` and
the active loops are. -/
structure Reconnector where
  connections : ℕ → Option Connection
  connection : Option ℕ
  channel : Option ℕ
  attempt : ℕ
  reconnecting : Bool
  connecting : Option Await
  loops : List Await

/-- What happens next. Who awaits, is `none` for `connect` and a number for a loop. -/
inductive Event
  /-- The timer of a loop has expired. -/
  | slept (k : ℕ)
  /-- `amqplib.connect` has resolved with a new connection, or was rejected. -/
  | connect (who : Option ℕ) (result : Option ℕ)
  /-- `createChannel` has resolved, or was rejected. -/
  | createChannel (who : Option ℕ) (resolved : Bool)
  /-- The callback has resolved, or was rejected. -/
  | onReconnect (k : ℕ) (resolved : Bool)
  /-- A connection has closed. -/
  | close (c : ℕ)

namespace Reconnector

/-- `connect` has been called. -/
def start : Reconnector := ⟨fun _ => none, none, none, 0, false, some .connect, []⟩

/-- What `connect` or a loop awaits. -/
def awaits (s : Reconnector) : Option ℕ → Option Await
  | none => s.connecting
  | some k => s.loops[k]?

/-- It awaits something else. -/
def await (s : Reconnector) (who : Option ℕ) (next : Await) : Reconnector :=
  match who with
  | none => { s with connecting := some next }
  | some k => { s with loops := s.loops.set k next }

/-- It has ended. -/
def finish (s : Reconnector) : Option ℕ → Reconnector
  | none => { s with connecting := none }
  | some k => { s with loops := s.loops.eraseIdx k }

/-- The `while` of a loop after a failure: it sleeps again, or gives up. -/
def retry (opts : ReconnectOptions) (s : Reconnector) (k : ℕ) : Reconnector :=
  if opts.mayRetry s.attempt then s.await (some k) .sleep
  else { s with reconnecting := false }.finish (some k)

/-- A call of `amqplib` was rejected: `connect` throws, a loop catches it. -/
def fail (opts : ReconnectOptions) (s : Reconnector) : Option ℕ → Reconnector
  | none => s.finish none
  | some k => s.retry opts k

/-- `this.connection.on('close', handler)` -/
def onClose (s : Reconnector) (handler : CloseHandler) : Reconnector :=
  match s.connection with
  | none => s
  | some c =>
    { s with
      connections := Function.update s.connections c ((s.connections c).map fun conn =>
        { conn with handlers := conn.handlers ++ [handler] }) }

/-- `scheduleReconnect`; without attempts left, its loop ends before it has awaited anything. -/
def scheduleReconnect (opts : ReconnectOptions) (s : Reconnector) : Reconnector :=
  if s.reconnecting then s
  else if opts.mayRetry s.attempt then
    { s with reconnecting := true, loops := s.loops ++ [.sleep] }
  else { s with reconnecting := false }

/-- What a handler of `close` does. -/
def handle (opts : ReconnectOptions) (s : Reconnector) : CloseHandler → Reconnector
  | .initial => s.scheduleReconnect opts
  | .again => { s with reconnecting := false }.scheduleReconnect opts

/-- The new connection replaces the current one, and a channel is created on it. -/
def connected (s : Reconnector) (who : Option ℕ) (c : ℕ) : Reconnector :=
  { s with
    connections := Function.update s.connections c (some ⟨true, []⟩)
    connection := some c }.await who (.createChannel c)

/-- The channel of connection `c` was created. -/
def channelCreated (opts : ReconnectOptions) (s : Reconnector) (who : Option ℕ) (c : ℕ) :
    Reconnector :=
  let s := { s with channel := some c, attempt := 0 }
  match who with
  | none => (s.onClose .initial).finish none
  | some k =>
    let s := { s.onClose .again with reconnecting := false }
    if opts.onReconnect then s.await (some k) .onReconnect else s.finish (some k)

/-- The state in which the handlers of a connection that has closed are called. -/
def closed (s : Reconnector) (c : ℕ) (handlers : List CloseHandler) : Reconnector :=
  { s with connections := Function.update s.connections c (some ⟨false, handlers⟩) }

/-- One event; `none` where it cannot happen. -/
def step (opts : ReconnectOptions) (s : Reconnector) : Event → Option Reconnector
  | .slept k =>
    if s.loops[k]? = some .sleep then
      some ({ s with attempt := s.attempt + 1 }.await (some k) .connect)
    else none
  | .connect who result =>
    if s.awaits who = some .connect then
      match result with
      | none => some (s.fail opts who)
      | some c => if s.connections c = none then some (s.connected who c) else none
    else none
  | .createChannel who resolved =>
    match s.awaits who with
    | some (.createChannel c) =>
      if resolved then some (s.channelCreated opts who c) else some (s.fail opts who)
    | _ => none
  | .onReconnect k resolved =>
    if s.loops[k]? = some .onReconnect then
      if resolved then some (s.finish (some k)) else some (s.retry opts k)
    else none
  | .close c =>
    match s.connections c with
    | some ⟨true, handlers⟩ => some (handlers.foldl (handle opts) (s.closed c handlers))
    | _ => none

/-- The runs of the reconnector. -/
def Step (opts : ReconnectOptions) : LTS Reconnector Event := fun s e t => s.step opts e = some t

/-! ### What an event can do -/

section Steps

variable {opts : ReconnectOptions} {s t : Reconnector}

theorem step_slept {k : ℕ} (h : Step opts s (.slept k) t) :
    s.loops[k]? = some .sleep ∧
      t = { s with attempt := s.attempt + 1 }.await (some k) .connect := by
  simp only [Step, step, Option.ite_none_right_eq_some, Option.some.injEq] at h
  exact ⟨h.1, h.2.symm⟩

theorem step_connect {who result : Option ℕ} (h : Step opts s (.connect who result) t) :
    s.awaits who = some .connect ∧
      (result = none ∧ t = s.fail opts who ∨
        ∃ c, result = some c ∧ s.connections c = none ∧ t = s.connected who c) := by
  simp only [Step, step, Option.ite_none_right_eq_some] at h
  obtain ⟨hwho, h⟩ := h
  cases result with
  | none => exact ⟨hwho, Or.inl ⟨rfl, (Option.some.inj h).symm⟩⟩
  | some c =>
    simp only [Option.ite_none_right_eq_some, Option.some.injEq] at h
    exact ⟨hwho, Or.inr ⟨c, rfl, h.1, h.2.symm⟩⟩

theorem step_createChannel {who : Option ℕ} {resolved : Bool}
    (h : Step opts s (.createChannel who resolved) t) :
    ∃ c, s.awaits who = some (.createChannel c) ∧
      t = if resolved then s.channelCreated opts who c else s.fail opts who := by
  simp only [Step, step] at h
  split at h
  · next c hwho =>
    refine ⟨c, hwho, ?_⟩
    cases resolved <;> exact (Option.some.inj h).symm
  · cases h

theorem step_onReconnect {k : ℕ} {resolved : Bool} (h : Step opts s (.onReconnect k resolved) t) :
    s.loops[k]? = some .onReconnect ∧
      t = if resolved then s.finish (some k) else s.retry opts k := by
  simp only [Step, step, Option.ite_none_right_eq_some] at h
  refine ⟨h.1, ?_⟩
  cases resolved <;> exact (Option.some.inj h.2).symm

theorem step_close {c : ℕ} (h : Step opts s (.close c) t) :
    ∃ handlers, s.connections c = some ⟨true, handlers⟩ ∧
      t = handlers.foldl (handle opts) (s.closed c handlers) := by
  simp only [Step, step] at h
  split at h
  · next handlers hc => exact ⟨handlers, hc, (Option.some.inj h).symm⟩
  · cases h

end Steps

end Reconnector

end MipitCore.Resilience
