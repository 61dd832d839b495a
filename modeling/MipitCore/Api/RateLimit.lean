import MipitCore.Foundation.Window
import MipitCore.Js.Number

/-!
# The limiter of HTTP requests

The first request of a client opens a counting window, and the first request after its
end opens the next one; the requests within a counting window are let through up to a
maximum. A periodic cleanup forgets the windows that have ended, which no decision
depends on. Two counting windows that follow each other closely may let twice the
maximum through, so that the limiter is that of a sliding window only for clients whose
requests leave enough time between their counting windows.

## Main definitions

* `clientKey`, `onRequest`, `cleanup` — the hook and the timer
* `Event`, `run` — requests and ticks of the timer
* `letThroughAt` — when the requests of a client were let through
* `limitedAt` — when they were made

## Main results

* `decisions_filter` — the cleanup changes no decision
* `recording` — which requests are let through
* `slidingWindow_iff` — when a run is that of a sliding window
-/

namespace MipitCore.Api

open Js Foundation
open CodeUnit (ascii)

/-! ### The hook -/

structure RateLimitOptions where
  maxRequests : ℕ
  windowMs : ℕ

structure WindowEntry where
  count : ℕ
  resetAt : ℕ
  deriving DecidableEq

/-- What the limiter looks at in a request. The header may be absent, a text, or several. -/
structure HttpRequest where
  url : Text
  ip : Text
  xForwardedFor : Option (Text ⊕ List Text)

/-- `req.url === '/health' || req.url === '/healthz' || req.url === '/metrics'` -/
def isExempt (url : Text) : Bool :=
  url = js "/health" || url = js "/healthz" || url = js "/metrics"

/-- `String(req.ip || req.headers['x-forwarded-for'] || 'unknown')` -/
def clientKey (req : HttpRequest) : Text :=
  if req.ip ≠ [] then req.ip
  else match req.xForwardedFor with
    | none => js "unknown"
    | some (.inl header) => if header ≠ [] then header else js "unknown"
    | some (.inr headers) => Text.join headers (ascii ',')

/-- The body of a `429` answer, and its header `Retry-After`. -/
structure RateLimitExceeded where
  retryAfter : ℕ
  message : Text
  deriving DecidableEq

/-- What the hook puts into the answer: the headers `X-RateLimit-…`, and the refusal. -/
structure RateLimitReply where
  limit : ℕ
  remaining : ℕ
  reset : ℕ
  exceeded : Option RateLimitExceeded
  deriving DecidableEq

/-- `Math.ceil(ms / 1000)` -/
def ceilSeconds (ms : ℕ) : ℕ := (ms + 999) / 1000

/-- The counting windows of the clients. -/
abbrev Windows := Text → Option WindowEntry

/-- The counting window of a client at `now`, which may be a new one. -/
def currentEntry (opts : RateLimitOptions) (windows : Windows) (key : Text) (now : ℕ) : WindowEntry :=
  match windows key with
  | none => ⟨0, now + opts.windowMs⟩
  | some entry => if entry.resetAt < now then ⟨0, now + opts.windowMs⟩ else entry

/-- The reply to a request that is counted in `entry`. -/
def replyOf (opts : RateLimitOptions) (entry : WindowEntry) (now : ℕ) : RateLimitReply :=
  let retryAfter := ceilSeconds (entry.resetAt - now)
  { limit := opts.maxRequests
    remaining := opts.maxRequests - entry.count
    reset := ceilSeconds entry.resetAt
    exceeded := if opts.maxRequests < entry.count then
        some
          { retryAfter
            message := js "Too many requests. Limit: " ++ natText opts.maxRequests ++ js " per " ++
              Number.toText (.fin (opts.windowMs / 1000)) ++ js "s. Retry after " ++
              natText retryAfter ++ js "s." }
      else none }

/-- The `onRequest` hook; some addresses are not limited. -/
def onRequest (opts : RateLimitOptions) (windows : Windows) (req : HttpRequest) (now : ℕ) :
    Option RateLimitReply × Windows :=
  if isExempt req.url then (none, windows)
  else
    let key := clientKey req
    let entry := currentEntry opts windows key now
    let entry := { entry with count := entry.count + 1 }
    (some (replyOf opts entry now), Function.update windows key (some entry))

/-- A tick of the cleanup timer. -/
def cleanup (windows : Windows) (now : ℕ) : Windows := fun key =>
  (windows key).filter fun entry => !decide (entry.resetAt < now)

/-! ### Runs -/

/-- A request, or a tick of the timer. -/
inductive Event
  | request (req : HttpRequest) (now : ℕ)
  | tick (now : ℕ)

def Event.time : Event → ℕ
  | request _ now => now
  | tick now => now

def Event.isRequest : Event → Bool
  | request _ _ => true
  | tick _ => false

/-- The windows, the answers to the requests so far, and the requests that were limited and let
through, latest first. -/
structure LimiterState where
  windows : Windows
  decisions : List (Option RateLimitReply)
  letThrough : List (Text × ℕ)

def LimiterState.init : LimiterState := ⟨fun _ => none, [], []⟩

/-- One event. -/
def step (opts : RateLimitOptions) (s : LimiterState) : Event → LimiterState
  | .request req now =>
    let (decision, windows) := onRequest opts s.windows req now
    { windows
      decisions := decision :: s.decisions
      letThrough := match decision with
        | some reply =>
          if reply.exceeded = none then (clientKey req, now) :: s.letThrough else s.letThrough
        | none => s.letThrough }
  | .tick now => { s with windows := cleanup s.windows now }

/-- The state after some events, from the start of the server. -/
def run (opts : RateLimitOptions) (events : List Event) : LimiterState :=
  events.foldl (step opts) .init

/-- When the requests of a client were let through, latest first. -/
def letThroughAt (key : Text) (s : LimiterState) : List ℕ :=
  (s.letThrough.filter fun a => a.1 = key).map Prod.snd

theorem run_append (opts : RateLimitOptions) (events : List Event) (e : Event) :
    run opts (events ++ [e]) = step opts (run opts events) e := by
  simp [run]

/-! ### The cleanup changes no decision -/

/-- The windows agree at `now`, but for some that have ended and are forgotten on the left. -/
def Agrees (now : ℕ) (windows windows' : Windows) : Prop :=
  ∀ key, windows key = windows' key ∨
    windows key = none ∧ ∀ entry ∈ windows' key, entry.resetAt < now

section

variable {opts : RateLimitOptions} {windows windows' : Windows} {now now' : ℕ} {key : Text}

theorem Agrees.mono (h : Agrees now windows windows') (hnow : now ≤ now') :
    Agrees now' windows windows' := fun key =>
  (h key).imp_right fun ⟨hnone, hended⟩ =>
    ⟨hnone, fun entry hentry => (hended entry hentry).trans_le hnow⟩

/-- A window that has ended is as good as none. -/
theorem currentEntry_congr (h : Agrees now windows windows') :
    currentEntry opts windows key now = currentEntry opts windows' key now := by
  rcases h key with heq | ⟨hnone, hended⟩
  · rw [currentEntry, currentEntry, heq]
  · cases hentry : windows' key with
    | none => rw [currentEntry, currentEntry, hnone, hentry]
    | some entry =>
      have hlt := hended entry hentry
      simp only [currentEntry, hnone, hentry, if_pos hlt]

theorem Agrees.update (h : Agrees now windows windows') (key : Text) (entry : WindowEntry) :
    Agrees now (Function.update windows key (some entry))
      (Function.update windows' key (some entry)) := fun key' => by
  by_cases hkey : key' = key
  · subst hkey
    exact Or.inl (by simp)
  · simpa [Function.update_of_ne hkey] using h key'

theorem Agrees.cleanup (h : Agrees now windows windows') :
    Agrees now (cleanup windows now) windows' := fun key => by
  rcases h key with heq | ⟨hnone, hended⟩
  · cases hentry : windows key with
    | none => exact Or.inl (by simp [Api.cleanup, hentry, ← heq])
    | some entry =>
      by_cases hlt : entry.resetAt < now
      · refine Or.inr ⟨by simp [Api.cleanup, hentry, Option.filter, hlt], ?_⟩
        rw [← heq, hentry]
        rintro _ ⟨⟩
        exact hlt
      · exact Or.inl (by simp [Api.cleanup, hentry, Option.filter, hlt, ← heq])
  · exact Or.inr ⟨by simp [Api.cleanup, hnone], hended⟩

theorem onRequest_congr (opts : RateLimitOptions) (req : HttpRequest)
    (h : Agrees now windows windows') :
    (onRequest opts windows req now).1 = (onRequest opts windows' req now).1 ∧
      Agrees now (onRequest opts windows req now).2 (onRequest opts windows' req now).2 := by
  by_cases hexempt : isExempt req.url = true
  · simpa [onRequest, hexempt] using h
  · simp only [onRequest, hexempt, Bool.false_eq_true, ↓reduceIte, currentEntry_congr h]
    exact ⟨trivial, h.update _ _⟩

/-- The state without the ticks agrees with the state with them. -/
theorem agrees_filter {events : List Event} (hsorted : (events.map Event.time).Pairwise (· ≤ ·))
    (hnow : ∀ e ∈ events, e.time ≤ now) :
    Agrees now (run opts events).windows (run opts (events.filter Event.isRequest)).windows ∧
      (run opts events).decisions = (run opts (events.filter Event.isRequest)).decisions := by
  induction events using List.reverseRecOn generalizing now with
  | nil => exact ⟨fun _ => Or.inl rfl, rfl⟩
  | append_singleton events e ih =>
    rw [List.map_append, List.pairwise_append] at hsorted
    have hbefore : ∀ f ∈ events, f.time ≤ e.time := fun f hf =>
      hsorted.2.2 f.time (List.mem_map_of_mem hf) e.time (by simp)
    obtain ⟨hagrees, hdecisions⟩ := ih hsorted.1 hbefore
    have hlast : e.time ≤ now := hnow e (by simp)
    cases e with
    | request req now' =>
      obtain ⟨hdecision, hagrees'⟩ := onRequest_congr opts req hagrees
      rw [List.filter_append, List.filter_singleton, show (Event.request req now').isRequest = true
        from rfl, cond_true, run_append, run_append]
      refine ⟨hagrees'.mono hlast, ?_⟩
      change (onRequest opts _ req now').1 :: _ = (onRequest opts _ req now').1 :: _
      rw [hdecisions]
      exact congrArg (· :: _) hdecision
    | tick now' =>
      rw [List.filter_append, List.filter_singleton, show (Event.tick now').isRequest = false
        from rfl, cond_false, List.append_nil, run_append]
      exact ⟨hagrees.cleanup.mono hlast, hdecisions⟩

/-- **The cleanup changes no decision.** -/
theorem decisions_filter {events : List Event}
    (hsorted : (events.map Event.time).Pairwise (· ≤ ·)) :
    (run opts events).decisions = (run opts (events.filter Event.isRequest)).decisions := by
  obtain ⟨now, hnow⟩ : ∃ now, ∀ e ∈ events, e.time ≤ now := by
    clear hsorted
    induction events with
    | nil => exact ⟨0, by simp⟩
    | cons e events ih =>
      obtain ⟨now, hnow⟩ := ih
      refine ⟨max e.time now, fun f hf => ?_⟩
      rcases List.mem_cons.mp hf with rfl | hf
      · exact le_max_left _ _
      · exact (hnow f hf).trans (le_max_right _ _)
  exact (agrees_filter hsorted hnow).2

/-! ### The window of a client -/

/-- When the limited requests of a client were made, earliest first. -/
def limitedAt (key : Text) (events : List Event) : List ℕ :=
  events.filterMap fun
    | .request req now => if isExempt req.url = false ∧ clientKey req = key then some now else none
    | .tick _ => none

/-- In no window of the configured length were more requests of the client let through than the
maximum. -/
def SlidingWindow (opts : RateLimitOptions) (key : Text) (s : LimiterState) : Prop :=
  ∀ t, within opts.windowMs t (letThroughAt key s) ≤ opts.maxRequests

/-- The counting windows that the client's requests open leave enough time between them. -/
def WindowsApart (opts : RateLimitOptions) (key : Text) (events : List Event) : Prop :=
  (counting opts.windowMs (limitedAt key events)).IsChain fun B A =>
    Apart opts.windowMs opts.maxRequests A B

theorem limitedAt_append (key : Text) (events : List Event) (e : Event) :
    limitedAt key (events ++ [e]) = limitedAt key events ++ limitedAt key [e] := by
  simp [limitedAt]

theorem mem_limitedAt {events : List Event} {a : ℕ} (ha : a ∈ limitedAt key events) :
    ∃ e ∈ events, e.time = a := by
  obtain ⟨e, he, ha⟩ := List.mem_filterMap.mp ha
  refine ⟨e, he, ?_⟩
  cases e with
  | tick now => cases ha
  | request req now =>
    dsimp only at ha
    split at ha
    · exact Option.some.inj ha
    · cases ha

theorem limitedAt_sorted (key : Text) {events : List Event}
    (hsorted : (events.map Event.time).Pairwise (· ≤ ·)) :
    (limitedAt key events).Pairwise (· ≤ ·) := by
  induction events using List.reverseRecOn with
  | nil => exact List.Pairwise.nil
  | append_singleton events e ih =>
    rw [List.map_append, List.pairwise_append] at hsorted
    rw [limitedAt_append]
    refine List.pairwise_append.mpr ⟨ih hsorted.1, ?_, fun a ha b hb => ?_⟩
    · have hlength : (limitedAt key [e]).length ≤ 1 := List.length_filterMap_le _ _
      cases hlist : limitedAt key [e] with
      | nil => exact List.Pairwise.nil
      | cons a rest =>
        rw [hlist, List.length_cons] at hlength
        rw [List.length_eq_zero_iff.mp (by omega : rest.length = 0)]
        exact List.pairwise_singleton _ a
    · obtain ⟨f, hf, rfl⟩ := mem_limitedAt ha
      obtain ⟨g, hg, rfl⟩ := mem_limitedAt hb
      cases List.mem_singleton.mp hg
      exact hsorted.2.2 f.time (List.mem_map_of_mem hf) e.time (by simp)

theorem exceeded_replyOf (now : ℕ) {entry : WindowEntry} :
    (replyOf opts { entry with count := entry.count + 1 } now).exceeded = none ↔
      entry.count < opts.maxRequests := by
  simp only [replyOf]
  split_ifs with hmore
  · simp
    omega
  · simp
    omega

/-- What the limiter holds of a client: its latest counting window, unless the cleanup has forgotten
it after its end. -/
def Holds (opts : RateLimitOptions) (events : List Event) (entry : Option WindowEntry) :
    List (Counting ℕ) → Prop
  | [] => entry = none
  | A :: _ => entry = some ⟨A.events.length, A.opened + opts.windowMs⟩ ∨
      entry = none ∧ ∃ e ∈ events, A.opened + opts.windowMs < e.time

/-- **The first requests of each counting window are let through.** -/
structure Recording (opts : RateLimitOptions) (key : Text) (events : List Event) : Prop where
  entry : Holds opts events ((run opts events).windows key)
    (counting opts.windowMs (limitedAt key events))
  record : letThroughAt key (run opts events) =
    counted opts.maxRequests (counting opts.windowMs (limitedAt key events))

section Steps

variable {events : List Event}

/-- The counting window that a request falls into, as the limiter has it. -/
theorem Holds.currentEntry {W : List (Counting ℕ)} (h : Holds opts events (windows key) W)
    (hnow : ∀ e ∈ events, e.time ≤ now) :
    (currentEntry opts windows key now).count = Counting.load opts.windowMs now W ∧
      ∃ A older, Counting.place opts.windowMs now W = A :: older ∧
        { currentEntry opts windows key now with
          count := (currentEntry opts windows key now).count + 1 } =
          (⟨A.events.length, A.opened + opts.windowMs⟩ : WindowEntry) := by
  cases W with
  | nil =>
    rw [Api.currentEntry, show windows key = none from h]
    exact ⟨rfl, _, _, rfl, rfl⟩
  | cons A older =>
    rcases h with hsome | ⟨hnone, e, he, hended⟩
    · by_cases hlater : A.opened + opts.windowMs < now
      · simp only [Api.currentEntry, hsome, if_pos hlater, Counting.load, Counting.place]
        exact ⟨trivial, _, _, rfl, rfl⟩
      · simp only [Api.currentEntry, hsome, if_neg hlater, Counting.load, Counting.place]
        exact ⟨trivial, _, _, rfl, by simp⟩
    · have hlater : A.opened + opts.windowMs < now := hended.trans_le (hnow e he)
      simp only [Api.currentEntry, hnone, if_pos hlater, Counting.load, Counting.place]
      exact ⟨trivial, _, _, rfl, rfl⟩

theorem Holds.mono {entry : Option WindowEntry} {W : List (Counting ℕ)} {e : Event}
    (h : Holds opts events entry W) : Holds opts (events ++ [e]) entry W := by
  cases W with
  | nil => exact h
  | cons A older =>
    exact h.imp_right fun ⟨hnone, f, hf, hended⟩ =>
      ⟨hnone, f, List.mem_append_left _ hf, hended⟩

/-- The cleanup forgets a window only after its end. -/
theorem Holds.cleanup {W : List (Counting ℕ)} (h : Holds opts events (windows key) W) :
    Holds opts (events ++ [.tick now]) (cleanup windows now key) W := by
  cases W with
  | nil => simp [Holds, Api.cleanup, show windows key = none from h]
  | cons A older =>
    rcases h with hsome | ⟨hnone, f, hf, hended⟩
    · by_cases hlt : A.opened + opts.windowMs < now
      · refine Or.inr ⟨by simp [Api.cleanup, hsome, hlt], .tick now, by simp, hlt⟩
      · exact Or.inl (by simp [Api.cleanup, hsome, Option.filter, hlt])
    · exact Or.inr ⟨by simp [Api.cleanup, hnone], f, List.mem_append_left _ hf, hended⟩

/-- An event that is no limited request of the client leaves its record and its window. -/
theorem step_other (opts : RateLimitOptions) (s : LimiterState) {e : Event}
    (hother : limitedAt key [e] = []) :
    letThroughAt key (step opts s e) = letThroughAt key s ∧
      ((step opts s e).windows key = s.windows key ∨
        ∃ now, e = .tick now ∧ (step opts s e).windows key = cleanup s.windows now key) := by
  cases e with
  | tick now => exact ⟨rfl, Or.inr ⟨now, rfl, rfl⟩⟩
  | request req now =>
    by_cases hexempt : isExempt req.url = true
    · simp [step, onRequest, hexempt, letThroughAt]
    · rw [Bool.not_eq_true] at hexempt
      have hkey : clientKey req ≠ key := by
        rintro rfl
        simp [limitedAt, hexempt] at hother
      refine ⟨?_, Or.inl ?_⟩
      · simp only [step, onRequest, hexempt, Bool.false_eq_true, ↓reduceIte]
        split <;> simp [letThroughAt, hkey]
      · simp [step, onRequest, hexempt, Function.update_of_ne hkey.symm]

/-- A limited request of the client is let through if its counting window has a place for it. -/
theorem step_limited (opts : RateLimitOptions) (s : LimiterState) (now : ℕ) {req : HttpRequest}
    (hexempt : isExempt req.url = false) :
    letThroughAt (clientKey req) (step opts s (.request req now)) =
        (if (currentEntry opts s.windows (clientKey req) now).count < opts.maxRequests then
          now :: letThroughAt (clientKey req) s else letThroughAt (clientKey req) s) ∧
      (step opts s (.request req now)).windows (clientKey req) =
        some { currentEntry opts s.windows (clientKey req) now with
          count := (currentEntry opts s.windows (clientKey req) now).count + 1 } := by
  refine ⟨?_, by simp [step, onRequest, hexempt]⟩
  by_cases hcount : (currentEntry opts s.windows (clientKey req) now).count < opts.maxRequests
  · have hnone := (exceeded_replyOf now).mpr hcount
    simp [step, onRequest, hexempt, hnone, letThroughAt, hcount]
  · have hsome := mt (exceeded_replyOf now).mp hcount
    simp [step, onRequest, hexempt, hsome, letThroughAt, hcount]

theorem recording (opts : RateLimitOptions) (key : Text)
    (hsorted : (events.map Event.time).Pairwise (· ≤ ·)) : Recording opts key events := by
  induction events using List.reverseRecOn with
  | nil => exact ⟨rfl, rfl⟩
  | append_singleton events e ih =>
    rw [List.map_append, List.pairwise_append] at hsorted
    obtain ⟨hentry, hrecord⟩ := ih hsorted.1
    by_cases hother : limitedAt key [e] = []
    · have hsame : limitedAt key (events ++ [e]) = limitedAt key events := by
        rw [limitedAt_append, hother, List.append_nil]
      obtain ⟨hthrough, hwindows⟩ := step_other opts (run opts events) hother
      refine ⟨?_, ?_⟩
      · rw [hsame, run_append]
        rcases hwindows with hwindows | ⟨now, rfl, hwindows⟩
        · rw [hwindows]
          exact hentry.mono
        · rw [hwindows]
          exact hentry.cleanup
      · rw [hsame, run_append, hthrough, hrecord]
    · -- a limited request of the client
      obtain ⟨req, now, rfl, hexempt, rfl⟩ : ∃ req now, e = .request req now ∧
          isExempt req.url = false ∧ clientKey req = key := by
        cases e with
        | tick now => exact absurd rfl hother
        | request req now =>
          by_cases hlimited : isExempt req.url = false ∧ clientKey req = key
          · exact ⟨req, now, rfl, hlimited⟩
          · simp [limitedAt, hlimited] at hother
      have hnow : ∀ e ∈ events, e.time ≤ now := fun e he =>
        hsorted.2.2 e.time (List.mem_map_of_mem he) now (by simp [Event.time])
      have hmore : limitedAt (clientKey req) (events ++ [.request req now]) =
          limitedAt (clientKey req) events ++ [now] := by
        rw [limitedAt_append]
        simp [limitedAt, hexempt]
      obtain ⟨hthrough, hwindows⟩ := step_limited opts (run opts events) now hexempt
      obtain ⟨hload, A, older, hplace, hplaced⟩ := hentry.currentEntry hnow
      refine ⟨?_, ?_⟩
      · rw [hmore, counting_append, run_append, hwindows, hplace, hplaced]
        exact Or.inl rfl
      · rw [hmore, counting_append, run_append, hthrough, hload, hrecord, counted_place]

end Steps

/-- **The limiter is that of a sliding window** for a client exactly if the counting windows that its
requests open are apart: of the first `maxRequests` requests of each, one comes at least `windowMs`
after one of the window before, if the requests from that one on to this one are more than
`maxRequests`. And its decisions are the same without the cleanup. -/
theorem slidingWindow_iff {events : List Event}
    (hsorted : (events.map Event.time).Pairwise (· ≤ ·)) (opts : RateLimitOptions) :
    (run opts events).decisions = (run opts (events.filter Event.isRequest)).decisions ∧
      ∀ key, SlidingWindow opts key (run opts events) ↔ WindowsApart opts key events := by
  refine ⟨decisions_filter hsorted, fun key => ?_⟩
  have hrecord := (recording opts key hsorted).record
  have hlimited := limitedAt_sorted key hsorted
  have hsuccessive := (successive_counting (Nat.zero_le opts.windowMs) hlimited).1
  rw [SlidingWindow, WindowsApart, hrecord, ← spaced_counted_iff hsuccessive]
  exact windows_le_iff_of_nonneg (Nat.zero_le _) (counted_sorted hsuccessive) fun a ha =>
    pos_of_mem_counted ha

end

/-! ### Two counting windows -/

namespace Example

def options : RateLimitOptions := ⟨2, 1000⟩

def client : HttpRequest := ⟨js "/payments", js "10.0.0.1", none⟩

/-- Two requests within a counting window, the second one at its end, and two more in the next. -/
def straddling : List Event :=
  [.request client 0, .request client 1000, .request client 1001, .tick 1001, .request client 1001]

end Example

/-- Three requests are let through from the time 1000 on, within two milliseconds. -/
theorem straddled : (Example.straddling.map Event.time).Pairwise (· ≤ ·) ∧
    within Example.options.windowMs 1000
        (letThroughAt (clientKey Example.client) (run Example.options Example.straddling)) = 3 ∧
      ¬ SlidingWindow Example.options (clientKey Example.client)
        (run Example.options Example.straddling) := by
  have hwithin : within Example.options.windowMs 1000
      (letThroughAt (clientKey Example.client) (run Example.options Example.straddling)) = 3 := by
    decide +kernel
  refine ⟨by decide, hwithin, fun hsliding => ?_⟩
  have hle := hsliding 1000
  rw [hwithin] at hle
  exact absurd hle (by decide)

theorem slidingWindow_iff_straddled :
    ¬ WindowsApart Example.options (clientKey Example.client) Example.straddling := by
  have hsorted : (Example.straddling.map Event.time).Pairwise (· ≤ ·) := by decide
  rw [← (slidingWindow_iff hsorted Example.options).2]
  intro hsliding
  have hle := hsliding 1000
  revert hle
  decide +kernel

end MipitCore.Api
