import Mathlib.Data.Nat.Basic
import Mathlib.Order.Basic
import MipitCore.Foundation.Transition

/-!
# Reads that are kept for a time

A source that changes is read for requests. What was read is kept under a key of the request, and
answers later requests of that key until it is too old, or until everything that is kept is forgotten.
To look what is kept, to read the source, and to keep what was read are separate steps, so a read may
be kept after it has been overtaken.

States record when things happened, counted in steps: what a request was answered is *honest* if it
was read after every forgetting before the request, and was no older version of the source than what
the key was answered before.

## Main definitions

* `CachedReads`, `CachedReads.Step` — the reads, and their steps
* `CachedReads.Honest`, `CachedReads.AlwaysHonest` — what is promised
* `CachedReads.Timely` — a read that has not been overtaken when it is kept

## Main results

* `CachedReads.alwaysHonest_iff` — a run keeps the promise exactly if every read is timely
-/

namespace MipitCore.Foundation

universe u v w x

/-- Reads of a source `τ` for requests `ρ`; what is read is kept under a key, for the time `ttl`. -/
structure CachedReads (ρ : Type u) (κ : Type v) (τ : Type w) (δ : Type x) where
  key : ρ → κ
  read : τ → ρ → δ
  ttl : ℕ

/-- What was read, how often the source had changed before that, and the step in which it was
read. -/
structure Snapshot (δ : Type x) where
  data : δ
  version : ℕ
  readAt : ℕ

/-- What is kept, and what the clock read when it came. -/
structure CacheEntry (δ : Type x) where
  snapshot : Snapshot δ
  loadedAt : ℕ

/-- A load that waits for its read; there is a snapshot once the source has been read. -/
structure PendingLoad (ρ : Type u) (δ : Type x) where
  request : ρ
  startedAt : ℕ
  snapshot : Option (Snapshot δ)

/-- A load that has returned. -/
structure LoadResult (ρ : Type u) (δ : Type x) where
  request : ρ
  startedAt : ℕ
  returnedAt : ℕ
  snapshot : Snapshot δ

/-- The source, how often it has changed, the number of steps so far, what is kept, when everything
was forgotten, and the loads that wait and that have returned. -/
structure LoaderState (ρ : Type u) (κ : Type v) (τ : Type w) (δ : Type x) where
  source : τ
  version : ℕ
  steps : ℕ
  cache : κ → Option (CacheEntry δ)
  cleared : List ℕ
  pending : List (PendingLoad ρ δ)
  returned : List (LoadResult ρ δ)

/-- A load is called, reads the source, is handed what it has read, or fails; everything that is
kept is forgotten; or the source changes. The clock is read by a call, and when a read arrives. -/
inductive LoadEvent (ρ : Type u) (τ : Type w) (δ : Type x)
  | load (request : ρ) (now : ℕ)
  | read (p : PendingLoad ρ δ)
  | arrive (p : PendingLoad ρ δ) (now : ℕ)
  | fail (p : PendingLoad ρ δ)
  | clear
  | change (source : τ)

namespace CachedReads

variable {ρ : Type u} {κ : Type v} {τ : Type w} {δ : Type x}
  {L : CachedReads ρ κ τ δ} {s t : LoaderState ρ κ τ δ} {l : LoadEvent ρ τ δ}

/-- The steps: a load that finds an entry young enough returns at once, and another one waits. -/
inductive Step [DecidableEq κ] (L : CachedReads ρ κ τ δ) : LTS (LoaderState ρ κ τ δ) (LoadEvent ρ τ δ)
  | hit {s : LoaderState ρ κ τ δ} {request : ρ} {now : ℕ} {entry : CacheEntry δ}
      (hentry : s.cache (L.key request) = some entry) (hyoung : now - entry.loadedAt < L.ttl) :
      Step L s (.load request now)
        { s with
          steps := s.steps + 1
          returned := ⟨request, s.steps, s.steps, entry.snapshot⟩ :: s.returned }
  | miss {s : LoaderState ρ κ τ δ} {request : ρ} {now : ℕ}
      (hold : ∀ entry ∈ s.cache (L.key request), L.ttl ≤ now - entry.loadedAt) :
      Step L s (.load request now)
        { s with steps := s.steps + 1, pending := ⟨request, s.steps, none⟩ :: s.pending }
  | read {s : LoaderState ρ κ τ δ} {p : PendingLoad ρ δ} (hmem : p ∈ s.pending)
      (hnone : p.snapshot = none) :
      Step L s (.read p)
        { s with
          steps := s.steps + 1
          pending := { p with snapshot := some ⟨L.read s.source p.request, s.version, s.steps⟩ } ::
            s.pending.filter fun q => q.startedAt ≠ p.startedAt }
  | arrive {s : LoaderState ρ κ τ δ} {p : PendingLoad ρ δ} {snapshot : Snapshot δ} {now : ℕ}
      (hmem : p ∈ s.pending) (hsome : p.snapshot = some snapshot) :
      Step L s (.arrive p now)
        { s with
          steps := s.steps + 1
          cache := Function.update s.cache (L.key p.request) (some ⟨snapshot, now⟩)
          pending := s.pending.filter fun q => q.startedAt ≠ p.startedAt
          returned := ⟨p.request, p.startedAt, s.steps, snapshot⟩ :: s.returned }
  | fail {s : LoaderState ρ κ τ δ} {p : PendingLoad ρ δ} (hmem : p ∈ s.pending) :
      Step L s (.fail p)
        { s with
          steps := s.steps + 1
          pending := s.pending.filter fun q => q.startedAt ≠ p.startedAt }
  | clear {s : LoaderState ρ κ τ δ} :
      Step L s .clear
        { s with steps := s.steps + 1, cache := fun _ => none, cleared := s.steps :: s.cleared }
  | change {s : LoaderState ρ κ τ δ} {source : τ} :
      Step L s (.change source)
        { s with steps := s.steps + 1, source := source, version := s.version + 1 }

/-- Nothing is kept, and nothing has been called. -/
def New (s : LoaderState ρ κ τ δ) : Prop :=
  (∀ k, s.cache k = none) ∧ s.cleared = [] ∧ s.pending = [] ∧ s.returned = []

/-- **What is promised** of the loads that have returned. -/
structure Honest (L : CachedReads ρ κ τ δ) (s : LoaderState ρ κ τ δ) : Prop where
  afterClear : ∀ r ∈ s.returned, ∀ c ∈ s.cleared, c < r.startedAt → c < r.snapshot.readAt
  noOlder : ∀ r ∈ s.returned, ∀ r' ∈ s.returned, L.key r.request = L.key r'.request →
    r.returnedAt < r'.startedAt → r.snapshot.version ≤ r'.snapshot.version

/-- The promise is kept after a step, and would be by a load that came next. -/
def AlwaysHonest [DecidableEq κ] (L : CachedReads ρ κ τ δ)
    (e : Transition (LoaderState ρ κ τ δ) (LoadEvent ρ τ δ)) : Prop :=
  L.Honest e.target ∧ ∀ request now t, L.Step e.target (.load request now) t → L.Honest t

/-- Since a read that arrives nothing was forgotten, and no newer version was returned for its
key. -/
def Timely (L : CachedReads ρ κ τ δ) (s : LoaderState ρ κ τ δ) : LoadEvent ρ τ δ → Prop
  | .arrive p _ => ∀ snapshot, p.snapshot = some snapshot →
      (∀ c ∈ s.cleared, c < snapshot.readAt) ∧
      ∀ r ∈ s.returned, L.key r.request = L.key p.request →
        r.snapshot.version ≤ snapshot.version
  | _ => True

/-! ### What every timely run keeps -/

/-- What a load that waits has read was read since its call, and is no older than what was returned
before that. -/
structure Awaited (s : LoaderState ρ κ τ δ) (p : PendingLoad ρ δ) (snapshot : Snapshot δ) : Prop where
  later : p.startedAt < snapshot.readAt
  past : snapshot.version ≤ s.version
  newest : ∀ r ∈ s.returned, r.returnedAt < p.startedAt →
    r.snapshot.version ≤ snapshot.version

/-- What is kept was read since everything was forgotten, and is the newest that was returned. -/
structure Kept (L : CachedReads ρ κ τ δ) (s : LoaderState ρ κ τ δ) (k : κ) (snapshot : Snapshot δ) :
    Prop where
  afterClear : ∀ c ∈ s.cleared, c < snapshot.readAt
  past : snapshot.version ≤ s.version
  newest : ∀ r ∈ s.returned, L.key r.request = k → r.snapshot.version ≤ snapshot.version

/-- A load has returned before now. -/
structure Past (s : LoaderState ρ κ τ δ) (r : LoadResult ρ δ) : Prop where
  started : r.startedAt < s.steps
  returned : r.returnedAt < s.steps
  version : r.snapshot.version ≤ s.version

/-- The invariant. -/
structure Sound (L : CachedReads ρ κ τ δ) (s : LoaderState ρ κ τ δ) : Prop where
  honest : L.Honest s
  past : ∀ r ∈ s.returned, Past s r
  cleared : ∀ c ∈ s.cleared, c < s.steps
  started : ∀ p ∈ s.pending, p.startedAt < s.steps
  awaited : ∀ p ∈ s.pending, ∀ snapshot, p.snapshot = some snapshot → Awaited s p snapshot
  kept : ∀ k entry, s.cache k = some entry → L.Kept s k entry.snapshot

theorem New.sound (h : New s) : L.Sound s := by
  obtain ⟨hcache, hcleared, hpending, hreturned⟩ := h
  refine ⟨⟨?_, ?_⟩, ?_, ?_, ?_, ?_, ?_⟩
  all_goals simp [hcache, hcleared, hpending, hreturned]

/-- A load that returns now, and keeps the promise, leaves it kept. -/
theorem Honest.cons {r : LoadResult ρ δ} (hs : L.Sound s) (hr : s.steps ≤ r.returnedAt)
    (hclear : ∀ c ∈ s.cleared, c < r.startedAt → c < r.snapshot.readAt)
    (hold : ∀ r' ∈ s.returned, L.key r'.request = L.key r.request → r'.returnedAt < r.startedAt →
      r'.snapshot.version ≤ r.snapshot.version)
    (hstart : r.startedAt ≤ r.returnedAt)
    (hcleared : t.cleared = s.cleared) (hreturned : t.returned = r :: s.returned) : L.Honest t := by
  refine ⟨fun r₁ h₁ c hc => ?_, fun r₁ h₁ r₂ h₂ hkey hlt => ?_⟩
  · rw [hcleared] at hc
    rcases List.mem_cons.mp (hreturned ▸ h₁) with rfl | h₁
    · exact hclear c hc
    · exact hs.honest.afterClear r₁ h₁ c hc
  · rcases List.mem_cons.mp (hreturned ▸ h₁) with rfl | h₁
    · -- nothing was called after it
      rcases List.mem_cons.mp (hreturned ▸ h₂) with rfl | h₂
      · omega
      · have := (hs.past r₂ h₂).started
        omega
    · rcases List.mem_cons.mp (hreturned ▸ h₂) with rfl | h₂
      · exact hold r₁ h₁ hkey hlt
      · exact hs.honest.noOlder r₁ h₁ r₂ h₂ hkey hlt

/-- The promise says nothing of the future. -/
theorem Honest.of_returned (hs : L.Sound s) (hcleared : ∀ c ∈ t.cleared, c ∈ s.cleared ∨ s.steps ≤ c)
    (hreturned : t.returned = s.returned) : L.Honest t := by
  refine ⟨fun r hr c hc hlt => ?_, fun r hr r' hr' => ?_⟩
  · rw [hreturned] at hr
    rcases hcleared c hc with hc | hc
    · exact hs.honest.afterClear r hr c hc hlt
    · have := (hs.past r hr).started
      omega
  · rw [hreturned] at hr hr'
    exact hs.honest.noOlder r hr r' hr'

theorem Past.mono {r : LoadResult ρ δ} (h : Past s r) (hsteps : s.steps ≤ t.steps)
    (hversion : s.version ≤ t.version) : Past t r :=
  ⟨h.started.trans_le hsteps, h.returned.trans_le hsteps, h.version.trans hversion⟩

theorem Awaited.mono {p : PendingLoad ρ δ} {snapshot : Snapshot δ} (h : Awaited s p snapshot)
    (hversion : s.version ≤ t.version)
    (hreturned : ∀ r ∈ t.returned, r ∈ s.returned ∨ p.startedAt ≤ r.returnedAt) :
    Awaited t p snapshot := by
  refine ⟨h.later, h.past.trans hversion, fun r hr hlt => ?_⟩
  rcases hreturned r hr with hr | hle
  · exact h.newest r hr hlt
  · exact absurd hlt hle.not_gt

theorem Kept.mono {k : κ} {snapshot : Snapshot δ} (h : L.Kept s k snapshot)
    (hcleared : t.cleared = s.cleared) (hversion : s.version ≤ t.version)
    (hreturned : ∀ r ∈ t.returned, r ∈ s.returned ∨
      (L.key r.request = k → r.snapshot.version ≤ snapshot.version)) : L.Kept t k snapshot := by
  refine ⟨by rw [hcleared]; exact h.afterClear, h.past.trans hversion, fun r hr hkey => ?_⟩
  rcases hreturned r hr with hr | hle
  · exact h.newest r hr hkey
  · exact hle hkey

/-- A step in which no load returns and nothing is kept or forgotten keeps the invariant, if the loads
that are new among those that wait are accounted for. -/
theorem Sound.of_returned (hs : L.Sound s) (hsteps : t.steps = s.steps + 1)
    (hversion : s.version ≤ t.version) (hcache : t.cache = s.cache)
    (hcleared : t.cleared = s.cleared) (hreturned : t.returned = s.returned)
    (hpending : ∀ p ∈ t.pending, p ∈ s.pending ∨ p.startedAt ≤ s.steps ∧
      ∀ snapshot, p.snapshot = some snapshot → Awaited s p snapshot) : L.Sound t := by
  have hsame : ∀ r ∈ t.returned, r ∈ s.returned := fun r hr => hreturned ▸ hr
  constructor
  case honest => exact Honest.of_returned hs (fun c hc => Or.inl (hcleared ▸ hc)) hreturned
  case past => exact fun r hr => (hs.past r (hsame r hr)).mono (by omega) hversion
  case cleared =>
    intro c hc
    have hbefore := hs.cleared c (hcleared ▸ hc)
    omega
  case started =>
    intro p hp
    rcases hpending p hp with hp | ⟨hle, -⟩
    · have hbefore := hs.started p hp
      omega
    · omega
  case awaited =>
    intro p hp snapshot hsome
    have hawaited : Awaited s p snapshot := by
      rcases hpending p hp with hp | ⟨-, hnew⟩
      · exact hs.awaited p hp snapshot hsome
      · exact hnew snapshot hsome
    exact hawaited.mono hversion fun r hr => Or.inl (hsame r hr)
  case kept =>
    intro k entry hk
    exact (hs.kept k entry (hcache ▸ hk)).mono hcleared hversion fun r hr => Or.inl (hsame r hr)

variable [DecidableEq κ]

/-- **A timely step keeps the invariant.** -/
theorem Sound.step (hs : L.Sound s) (h : L.Step s l t) (htimely : L.Timely s l) : L.Sound t := by
  cases h with
  | @hit _ request now entry hentry hyoung =>
    -- what is kept is as new as all that was returned for its key
    have hkept := hs.kept _ _ hentry
    refine ⟨Honest.cons hs le_rfl (fun c hc _ => hkept.afterClear c hc)
      (fun r' hr' hkey _ => hkept.newest r' hr' hkey) le_rfl rfl rfl, ?_,
      fun c hc => (hs.cleared c hc).trans (Nat.lt_succ_self _),
      fun p hp => (hs.started p hp).trans (Nat.lt_succ_self _), fun p hp snapshot hsome => ?_,
      fun k kept hk => ?_⟩
    · exact List.forall_mem_cons.mpr ⟨⟨Nat.lt_succ_self _, Nat.lt_succ_self _, hkept.past⟩,
        fun r hr => (hs.past r hr).mono (Nat.le_succ _) le_rfl⟩
    · refine (hs.awaited p hp snapshot hsome).mono le_rfl (List.forall_mem_cons.mpr ⟨?_, ?_⟩)
      · exact Or.inr (hs.started p hp).le
      · exact fun r hr => Or.inl hr
    · refine (hs.kept k kept hk).mono rfl le_rfl (List.forall_mem_cons.mpr ⟨Or.inr ?_, ?_⟩)
      · -- the entry that was found is the one that is kept under its key
        rintro rfl
        rw [Option.some.inj (hentry.symm.trans hk)]
      · exact fun r hr => Or.inl hr
  | @miss _ request now hold =>
    refine hs.of_returned rfl le_rfl rfl rfl rfl (List.forall_mem_cons.mpr ⟨Or.inr ?_, ?_⟩)
    · -- the load is called now, and has read nothing yet
      exact ⟨le_rfl, fun _ hsome => (nomatch hsome)⟩
    · exact fun p hp => Or.inl hp
  | @read _ p hmem hnone =>
    refine hs.of_returned rfl le_rfl rfl rfl rfl (List.forall_mem_cons.mpr ⟨Or.inr ?_, ?_⟩)
    · -- what is read now is of the present version
      refine ⟨(hs.started p hmem).le, ?_⟩
      rintro _ ⟨⟩
      exact ⟨hs.started p hmem, le_rfl, fun r hr _ => (hs.past r hr).version⟩
    · exact fun q hq => Or.inl (List.mem_of_mem_filter hq)
  | @arrive _ p snapshot now hmem hsome =>
    -- only here does it matter that the step is timely
    have hawaited := hs.awaited p hmem snapshot hsome
    obtain ⟨hclear, hnewest⟩ := htimely snapshot hsome
    refine ⟨Honest.cons hs le_rfl (fun c _ hlt => hlt.trans hawaited.later)
      (fun r' hr' _ hlt => hawaited.newest r' hr' hlt) (hs.started p hmem).le rfl rfl, ?_,
      fun c hc => (hs.cleared c hc).trans (Nat.lt_succ_self _),
      fun q hq => (hs.started q (List.mem_of_mem_filter hq)).trans (Nat.lt_succ_self _),
      fun q hq snapshot' hsome' => ?_, fun k kept hk => ?_⟩
    · exact List.forall_mem_cons.mpr ⟨⟨(hs.started p hmem).trans (Nat.lt_succ_self _),
        Nat.lt_succ_self _, hawaited.past⟩,
        fun r hr => (hs.past r hr).mono (Nat.le_succ _) le_rfl⟩
    · have hq := List.mem_of_mem_filter hq
      refine (hs.awaited q hq snapshot' hsome').mono le_rfl (List.forall_mem_cons.mpr ⟨?_, ?_⟩)
      · exact Or.inr (hs.started q hq).le
      · exact fun r hr => Or.inl hr
    · by_cases hkey : k = L.key p.request
      · subst hkey
        obtain rfl : (⟨snapshot, now⟩ : CacheEntry δ) = kept := by
          simpa using hk
        exact ⟨hclear, hawaited.past,
          List.forall_mem_cons.mpr ⟨fun _ => le_rfl, fun r hr hr' => hnewest r hr hr'⟩⟩
      · replace hk : s.cache k = some kept := by simpa [Function.update_of_ne hkey] using hk
        refine (hs.kept k kept hk).mono rfl le_rfl (List.forall_mem_cons.mpr ⟨Or.inr ?_, ?_⟩)
        · exact fun heq => absurd heq.symm hkey
        · exact fun r hr => Or.inl hr
  | @fail _ p hmem =>
    exact hs.of_returned rfl le_rfl rfl rfl rfl fun q hq => Or.inl (List.mem_of_mem_filter hq)
  | clear =>
    refine ⟨Honest.of_returned hs (List.forall_mem_cons.mpr ⟨Or.inr le_rfl, fun c hc => Or.inl hc⟩)
      rfl, fun r hr => (hs.past r hr).mono (Nat.le_succ _) le_rfl, ?_,
      fun p hp => (hs.started p hp).trans (Nat.lt_succ_self _),
      fun p hp snapshot hsome => (hs.awaited p hp snapshot hsome).mono le_rfl fun r hr => Or.inl hr,
      fun k kept hk => nomatch hk⟩
    exact List.forall_mem_cons.mpr ⟨Nat.lt_succ_self _,
      fun c hc => (hs.cleared c hc).trans (Nat.lt_succ_self _)⟩
  | change => exact hs.of_returned rfl (Nat.le_succ _) rfl rfl rfl fun p hp => Or.inl hp

/-- After a timely step a load cannot break the promise. -/
theorem Sound.alwaysHonest (ht : L.Sound t) : L.AlwaysHonest ⟨s, l, t⟩ :=
  ⟨ht.honest, fun _ _ _ hload => (ht.step hload trivial).honest⟩

/-- **After an untimely arrival the next load would break it**: it finds what was kept. -/
theorem timely_of_alwaysHonest (hs : L.Sound s) (httl : 0 < L.ttl) (h : L.Step s l t)
    (hhonest : L.AlwaysHonest ⟨s, l, t⟩) : L.Timely s l := by
  cases h with
  | @arrive _ p snapshot now hmem hsome =>
    rintro σ hσ
    obtain rfl := Option.some.inj (hsome.symm.trans hσ)
    have hnext := hhonest.2 p.request now _
      (@Step.hit _ _ _ _ _ L _ p.request now ⟨snapshot, now⟩ (Function.update_self _ _ _)
        (by simpa using httl))
    refine ⟨fun c hc => ?_, fun r hr hkey => ?_⟩
    · exact hnext.afterClear _ List.mem_cons_self c hc
        ((hs.cleared c hc).trans (Nat.lt_succ_self _))
    · exact hnext.noOlder r (List.mem_cons_of_mem _ (List.mem_cons_of_mem _ hr)) _
        List.mem_cons_self hkey ((hs.past r hr).returned.trans (Nat.lt_succ_self _))
  | _ => trivial

/-- **The promise is kept all along a run**, and would be by any load at any time of it, exactly if
every read arrives before it is overtaken. -/
theorem alwaysHonest_iff {path : List (Transition (LoaderState ρ κ τ δ) (LoadEvent ρ τ δ))}
    (httl : 0 < L.ttl) (hnew : New s) (hrun : L.Step.Run s path t) :
    (∀ e ∈ path, L.AlwaysHonest e) ↔ ∀ e ∈ path, L.Timely e.source e.label :=
  hrun.forall_iff L.Timely hnew.sound
    (fun _ _ _ hs hstep htimely => ⟨hs.step hstep htimely, (hs.step hstep htimely).alwaysHonest⟩)
    fun _ _ _ hs hstep hhonest => timely_of_alwaysHonest hs httl hstep hhonest

end CachedReads

end MipitCore.Foundation
