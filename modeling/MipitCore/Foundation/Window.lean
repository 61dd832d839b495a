import Mathlib.Algebra.Group.Nat.Defs
import Mathlib.Algebra.Order.Monoid.Defs
import Mathlib.Algebra.Order.Monoid.Unbundled.Basic
import Mathlib.Data.List.Chain
import Mathlib.Data.List.Count
import Mathlib.Data.List.Induction

/-!
# Events within every window of time

A history is the list of the times at which something happened, latest first. That no
window of the length `w` holds more than `n` of them is decided event by event: each of
them found fewer than `n` in the time `w` before it (`windows_le_iff`).

## Main definitions

* `within` — how many events a window holds
* `recent` — how many of them are still within `w` of a moment
* `counting`, `counted` — the counting windows that events open, and the first events of each
* `Apart` — the distance between two counting windows

## Main results

* `windows_le_iff`
* `spaced_counted_iff` — when the first events of counting windows are spaced
-/

namespace MipitCore.Foundation

variable {α : Type*} [AddCommMonoid α] [LinearOrder α]

/-- The number of events in the window of the length `w` from `t` on. -/
def within (w t : α) (history : List α) : ℕ :=
  history.countP fun a => decide (t ≤ a ∧ a < t + w)

/-- The number of events that at `now` are less than `w` ago. -/
def recent (w now : α) (history : List α) : ℕ := history.countP fun a => decide (now < a + w)

@[simp] theorem within_nil (w t : α) : within w t [] = 0 := rfl

theorem within_cons (w t a : α) (history : List α) :
    within w t (a :: history) =
      within w t history + if t ≤ a ∧ a < t + w then 1 else 0 := by
  simp [within, List.countP_cons]

/-- Each event of the history found fewer than `n` in the time `w` before it. -/
def Spaced (w : α) (n : ℕ) : List α → Prop
  | [] => True
  | a :: history => recent w a history < n ∧ Spaced w n history

variable [IsOrderedCancelAddMonoid α] {w : α} {n : ℕ} {history : List α}

/-- What a window from `t` holds of the past is recent at every moment in it. -/
theorem within_le_recent {t now : α} (hnow : now < t + w) :
    within w t history ≤ recent w now history := by
  refine List.countP_mono_left fun a _ ha => ?_
  have hin := of_decide_eq_true ha
  exact decide_eq_true (hnow.trans_le (add_le_add_left hin.1 w))

/-- A window that holds `now`, and of the past all that is recent. -/
theorem exists_window (hw : 0 < w) (now : α) (history : List α) :
    ∃ t, t ≤ now ∧ now < t + w ∧ ∀ a ∈ history, now < a + w → t ≤ a := by
  induction history with
  | nil => exact ⟨now, le_rfl, lt_add_of_pos_right now hw, by simp⟩
  | cons b history ih =>
    obtain ⟨t, ht, hnow, hrecent⟩ := ih
    by_cases hb : now < b + w
    · refine ⟨min t b, (min_le_left t b).trans ht, ?_, ?_⟩
      · rcases min_choice t b with hmin | hmin
        · rwa [hmin]
        · rwa [hmin]
      · intro a ha hla
        rcases List.mem_cons.mp ha with rfl | ha
        · exact min_le_right t a
        · exact (min_le_left t b).trans (hrecent a ha hla)
    · refine ⟨t, ht, hnow, ?_⟩
      intro a ha hla
      rcases List.mem_cons.mp ha with rfl | ha
      · exact absurd hla hb
      · exact hrecent a ha hla

/-- **No window holds more than `n` events** exactly if each of them found fewer than `n` in the
time before it. -/
theorem windows_le_iff (hw : 0 < w) (hsorted : history.Pairwise (· ≥ ·)) :
    (∀ t, within w t history ≤ n) ↔ Spaced w n history := by
  induction history with
  | nil => simp [Spaced]
  | cons a history ih =>
    obtain ⟨hlatest, hrest⟩ := List.pairwise_cons.mp hsorted
    constructor
    · intro hwindows
      refine ⟨?_, (ih hrest).mp fun t => ?_⟩
      · obtain ⟨t, ht, hnow, hrecent⟩ := exists_window hw a history
        have hle : recent w a history ≤ within w t history := by
          refine List.countP_mono_left fun b hb hb' => decide_eq_true ?_
          exact ⟨hrecent b hb (of_decide_eq_true hb'), (hlatest b hb).trans_lt hnow⟩
        have hmost := hwindows t
        rw [within_cons, if_pos ⟨ht, hnow⟩] at hmost
        omega
      · have hmost := hwindows t
        rw [within_cons] at hmost
        omega
    · rintro ⟨hfew, hspaced⟩ t
      rw [within_cons]
      split_ifs with hin
      · have hrecent : within w t history ≤ recent w a history := within_le_recent hin.2
        omega
      · exact (ih hrest).mpr hspaced t

omit [IsOrderedCancelAddMonoid α] in
theorem recent_eq_zero {b : α} {l : List α} (h : ∀ a ∈ l, a + w ≤ b) : recent w b l = 0 := by
  rw [recent, List.countP_eq_zero]
  intro a ha hlt
  exact absurd (of_decide_eq_true hlt) (not_lt.mpr (h a ha))

/-- Windows that hold nothing are no exception, if no event is counted where none may be. -/
theorem windows_le_iff_of_nonneg (hw : 0 ≤ w) (hsorted : history.Pairwise (· ≥ ·))
    (hn : ∀ a ∈ history, 0 < n) : (∀ t, within w t history ≤ n) ↔ Spaced w n history := by
  rcases hw.lt_or_eq with hpos | rfl
  · exact windows_le_iff hpos hsorted
  · -- windows of no length hold nothing, and nothing is recent
    refine iff_of_true (fun t => ?_) ?_
    · have hnone : within 0 t history = 0 := by
        rw [within, List.countP_eq_zero]
        intro a _ hin
        have hbounds := of_decide_eq_true hin
        rw [add_zero] at hbounds
        exact absurd hbounds.2 (not_lt.mpr hbounds.1)
      omega
    · induction history with
      | nil => trivial
      | cons a history ih =>
        obtain ⟨hlatest, hrest⟩ := List.pairwise_cons.mp hsorted
        refine ⟨?_, ih hrest fun b hb => hn b (List.mem_cons_of_mem _ hb)⟩
        rw [recent_eq_zero fun b hb => (add_zero b).trans_le (hlatest b hb)]
        exact hn a List.mem_cons_self

/-! ### Counting windows -/

/-- A counting window: when it was opened, and the events in it, earliest first. -/
structure Counting (α : Type*) where
  opened : α
  events : List α

omit [IsOrderedCancelAddMonoid α] in
/-- The event at `t` opens a counting window, unless it falls into the latest one. -/
def Counting.place (w t : α) : List (Counting α) → List (Counting α)
  | [] => [⟨t, [t]⟩]
  | A :: older =>
    if A.opened + w < t then ⟨t, [t]⟩ :: A :: older
    else { A with events := A.events ++ [t] } :: older

/-- The counting windows of events that are given in the order of time, latest first. -/
def counting (w : α) (times : List α) : List (Counting α) :=
  times.foldl (fun windows t => Counting.place w t windows) []

/-- The first `n` events of each counting window, latest first. -/
def counted (n : ℕ) (windows : List (Counting α)) : List α :=
  windows.flatMap fun A => (A.events.take n).reverse

/-- How many events the counting window of an event at `t` holds before it. -/
def Counting.load (w t : α) : List (Counting α) → ℕ
  | [] => 0
  | A :: _ => if A.opened + w < t then 0 else A.events.length

/-- Of the first `n` events of each, one of the counting window `B` comes at least `w` after one of
the window `A` before it, if the events of `A` from that one on and those of `B` up to this one are
more than `n`. -/
def Apart (w : α) (n : ℕ) (A B : Counting α) : Prop :=
  ∀ i j a b, (A.events.take n)[i]? = some a → (B.events.take n)[j]? = some b →
    i + n = j + (A.events.take n).length → a + w ≤ b

/-- A counting window is opened by an event, is not longer than `w`, and its events are in order. -/
structure Counting.Sound (w : α) (A : Counting α) : Prop where
  opener : A.opened ∈ A.events
  bounds : ∀ t ∈ A.events, A.opened ≤ t ∧ t ≤ A.opened + w
  sorted : A.events.Pairwise (· ≤ ·)

/-- Each counting window opens when those before it are over. -/
structure Successive (w : α) (windows : List (Counting α)) : Prop where
  sound : ∀ A ∈ windows, A.Sound w
  closed : windows.Pairwise fun B A => A.opened + w < B.opened

section Successive

variable {windows : List (Counting α)} {A B : Counting α} {t : α}

omit [IsOrderedCancelAddMonoid α] in
theorem counting_append (w : α) (times : List α) (t : α) :
    counting w (times ++ [t]) = Counting.place w t (counting w times) := by
  simp [counting]

omit [IsOrderedCancelAddMonoid α] in
theorem mem_place (hA : A ∈ Counting.place w t windows) {a : α} (ha : a ∈ A.events) :
    a = t ∨ ∃ B ∈ windows, a ∈ B.events := by
  cases windows with
  | nil =>
    cases List.mem_singleton.mp hA
    exact Or.inl (List.mem_singleton.mp ha)
  | cons B older =>
    by_cases hlater : B.opened + w < t
    · rw [Counting.place, if_pos hlater] at hA
      rcases List.mem_cons.mp hA with rfl | hA
      · exact Or.inl (List.mem_singleton.mp ha)
      · exact Or.inr ⟨A, hA, ha⟩
    · rw [Counting.place, if_neg hlater] at hA
      rcases List.mem_cons.mp hA with rfl | hA
      · rcases List.mem_append.mp ha with ha | ha
        · exact Or.inr ⟨B, List.mem_cons_self, ha⟩
        · exact Or.inl (List.mem_singleton.mp ha)
      · exact Or.inr ⟨A, List.mem_cons_of_mem _ hA, ha⟩

theorem Counting.Sound.single (hw : 0 ≤ w) (t : α) : (⟨t, [t]⟩ : Counting α).Sound w where
  opener := List.mem_singleton_self t
  bounds a ha := by
    obtain rfl := List.mem_singleton.mp ha
    exact ⟨le_rfl, le_add_of_nonneg_right hw⟩
  sorted := List.pairwise_singleton _ t

omit [IsOrderedCancelAddMonoid α] in
/-- An event is among the first `n` of its counting window if that holds fewer before. -/
theorem counted_place (w t : α) (n : ℕ) (windows : List (Counting α)) :
    counted n (Counting.place w t windows) =
      if Counting.load w t windows < n then t :: counted n windows else counted n windows := by
  have hnew : ∀ older : List (Counting α), counted n (⟨t, [t]⟩ :: older) =
      if 0 < n then t :: counted n older else counted n older := by
    intro older
    cases n with
    | zero => simp [counted]
    | succ n => simp [counted]
  cases windows with
  | nil => exact hnew []
  | cons A older =>
    by_cases hlater : A.opened + w < t
    · rw [Counting.place, if_pos hlater, Counting.load, if_pos hlater]
      exact hnew (A :: older)
    · rw [Counting.place, if_neg hlater, Counting.load, if_neg hlater]
      by_cases hroom : A.events.length < n
      · rw [if_pos hroom]
        simp only [counted, List.flatMap_cons]
        rw [List.take_of_length_le hroom.le,
          List.take_of_length_le (by simpa using Nat.succ_le_of_lt hroom)]
        simp
      · -- what comes after the first `n` is not counted
        rw [if_neg hroom]
        simp only [counted, List.flatMap_cons]
        rw [List.take_append_of_le_length (not_lt.mp hroom)]

/-- One more event leaves the counting windows in succession. -/
theorem Successive.place (hw : 0 ≤ w) (h : Successive w windows)
    (ht : ∀ A ∈ windows, ∀ a ∈ A.events, a ≤ t) : Successive w (Counting.place w t windows) := by
  cases windows with
  | nil =>
    refine ⟨fun A hA => ?_, List.pairwise_singleton _ _⟩
    rw [List.mem_singleton.mp hA]
    exact .single hw t
  | cons B older =>
    by_cases hlater : B.opened + w < t
    · rw [Counting.place, if_pos hlater]
      have hover := List.pairwise_cons.mp h.closed
      refine ⟨fun A hA => ?_, List.pairwise_cons.mpr ⟨fun A hA => ?_, h.closed⟩⟩
      swap
      · rcases List.mem_cons.mp hA with rfl | hA
        · exact hlater
        · exact (hover.1 A hA).trans ((le_add_of_nonneg_right hw).trans_lt hlater)
      rcases List.mem_cons.mp hA with rfl | hA
      · exact .single hw t
      · exact h.sound A hA
    · rw [Counting.place, if_neg hlater]
      have hB := h.sound B List.mem_cons_self
      have hpast := ht B List.mem_cons_self
      refine ⟨fun A hA => ?_, ?_⟩
      · rcases List.mem_cons.mp hA with rfl | hA
        · refine ⟨List.mem_append_left _ hB.opener, fun a ha => ?_, ?_⟩
          · rcases List.mem_append.mp ha with ha | ha
            · exact hB.bounds a ha
            · obtain rfl := List.mem_singleton.mp ha
              exact ⟨hpast _ hB.opener, not_lt.mp hlater⟩
          · refine List.pairwise_append.mpr ⟨hB.sorted, List.pairwise_singleton _ t, ?_⟩
            intro a ha b hb
            obtain rfl := List.mem_singleton.mp hb
            exact hpast a ha
        · exact h.sound A (List.mem_cons_of_mem _ hA)
      · have hover := List.pairwise_cons.mp h.closed
        exact List.pairwise_cons.mpr hover

theorem successive_counting (hw : 0 ≤ w) {times : List α} (hsorted : times.Pairwise (· ≤ ·)) :
    Successive w (counting w times) ∧ ∀ A ∈ counting w times, ∀ t ∈ A.events, t ∈ times := by
  induction times using List.reverseRecOn with
  | nil => exact ⟨⟨by simp [counting], List.Pairwise.nil⟩, by simp [counting]⟩
  | append_singleton times t ih =>
    obtain ⟨hbefore, -, hlast⟩ := List.pairwise_append.mp hsorted
    obtain ⟨hsuccessive, hmem⟩ := ih hbefore
    rw [counting_append]
    refine ⟨hsuccessive.place hw fun A hA a ha => hlast a (hmem A hA a ha) t
      (List.mem_singleton_self t), fun A hA a ha => ?_⟩
    rcases mem_place hA ha with rfl | ⟨B, hB, haB⟩
    · exact List.mem_append_right _ (List.mem_singleton_self a)
    · exact List.mem_append_left _ (hmem B hB a haB)

end Successive

section Spaced

variable {windows : List (Counting α)} {A B : Counting α}

omit [IsOrderedCancelAddMonoid α] in
theorem recent_append (w now : α) (l l' : List α) :
    recent w now (l ++ l') = recent w now l + recent w now l' := List.countP_append

omit [IsOrderedCancelAddMonoid α] in
theorem recent_reverse (w now : α) (l : List α) : recent w now l.reverse = recent w now l :=
  List.countP_reverse

omit [IsOrderedCancelAddMonoid α] in
theorem spaced_append {l : List α} :
    Spaced w n (l ++ history) ↔
      (∀ before b after, l = before ++ b :: after → recent w b (after ++ history) < n) ∧
        Spaced w n history := by
  induction l with
  | nil => simp
  | cons a l ih =>
    rw [List.cons_append, Spaced, ih]
    constructor
    · rintro ⟨hfirst, hrest, hhistory⟩
      refine ⟨fun before b after heq => ?_, hhistory⟩
      cases before with
      | nil =>
        obtain ⟨rfl, rfl⟩ := List.cons.inj heq
        exact hfirst
      | cons c before =>
        obtain ⟨rfl, rfl⟩ := List.cons.inj heq
        exact hrest before b after rfl
    · rintro ⟨hall, hhistory⟩
      exact ⟨hall [] a l rfl, fun before b after heq => hall (a :: before) b after (by simp [heq]),
        hhistory⟩

/-- Of events in order, fewer than `m` are recent exactly if the one with `m` events from it on is
not. -/
theorem recent_lt_iff {b : α} {m : ℕ} (hm : 0 < m) {l : List α} (hsorted : l.Pairwise (· ≤ ·)) :
    recent w b l < m ↔ ∀ i a, l[i]? = some a → i + m = l.length → a + w ≤ b := by
  induction l with
  | nil => simp [recent, hm]
  | cons x l ih =>
    obtain ⟨hfirst, hrest⟩ := List.pairwise_cons.mp hsorted
    by_cases hx : b < x + w
    · -- all of them are recent
      have hall : recent w b (x :: l) = (x :: l).length := by
        refine List.countP_eq_length.mpr fun a ha => decide_eq_true ?_
        rcases List.mem_cons.mp ha with rfl | ha
        · exact hx
        · exact hx.trans_le (add_le_add (hfirst a ha) le_rfl)
      rw [hall]
      constructor
      · intro hlt i a _ hi
        omega
      · intro hnone
        by_contra hmany
        have hi : (x :: l).length - m < (x :: l).length := by
          simp only [List.length_cons]
          omega
        have hle := hnone _ _ (List.getElem?_eq_getElem hi) (by omega)
        rcases List.mem_cons.mp (List.getElem_mem hi) with heq | hmem
        · rw [heq] at hle
          exact absurd hx (not_lt.mpr hle)
        · exact absurd hx (not_lt.mpr ((add_le_add (hfirst _ hmem) le_rfl).trans hle))
    · have hsame : recent w b (x :: l) = recent w b l := by
        simp [recent, hx]
      rw [hsame, ih hrest]
      constructor
      · rintro hnone (_ | i) a ha hi
        · cases Option.some.inj ha
          exact not_lt.mp hx
        · exact hnone i a ha (by simp only [List.length_cons] at hi; omega)
      · intro hnone i a ha hi
        exact hnone (i + 1) a ha (by simp only [List.length_cons]; omega)

omit [IsOrderedCancelAddMonoid α] in
theorem Successive.tail (h : Successive w (B :: windows)) : Successive w windows :=
  ⟨fun A hA => h.sound A (List.mem_cons_of_mem _ hA), (List.pairwise_cons.mp h.closed).2⟩

/-- What was counted before the previous counting window is not recent. -/
theorem Successive.recent_counted {b : α} (h : Successive w (B :: A :: windows))
    (hb : B.opened ≤ b) :
    recent w b (counted n (A :: windows)) = recent w b (A.events.take n) := by
  obtain ⟨hB, hover⟩ := List.pairwise_cons.mp h.closed
  have hA := hB A List.mem_cons_self
  have hnone : recent w b (counted n windows) = 0 := by
    refine recent_eq_zero fun a ha => ?_
    obtain ⟨C, hC, ha⟩ := List.mem_flatMap.mp ha
    have hsound := h.sound C (List.mem_cons_of_mem _ (List.mem_cons_of_mem _ hC))
    have hbound := (hsound.bounds a (List.mem_of_mem_take (List.mem_reverse.mp ha))).2
    have hearlier := (List.pairwise_cons.mp hover).1 C hC
    calc a + w ≤ C.opened + w + w := add_le_add hbound le_rfl
      _ ≤ A.opened + w := add_le_add hearlier.le le_rfl
      _ ≤ b := hA.le.trans hb
  rw [counted, List.flatMap_cons, recent_append, recent_reverse, ← counted, hnone, add_zero]

/-- What one event of a counting window finds recent is not more than `n` with itself. -/
theorem Successive.recent_lt_iff {b : α} {after before : List α}
    (h : Successive w (B :: A :: windows)) (hb : B.events.take n = after.reverse ++ b :: before) :
    recent w b (after ++ counted n (A :: windows)) < n ↔
      ∀ i a, (A.events.take n)[i]? = some a → i + n = after.length + (A.events.take n).length →
        a + w ≤ b := by
  have hmem : ∀ x ∈ B.events.take n, B.opened ≤ x := fun x hx =>
    ((h.sound B List.mem_cons_self).bounds x (List.mem_of_mem_take hx)).1
  have hopened : B.opened ≤ b := hmem b (by simp [hb])
  have hlength : after.length < n := by
    have hle := List.length_take_le n B.events
    rw [hb, List.length_append, List.length_cons, List.length_reverse] at hle
    omega
  have hA := h.sound A (List.mem_cons_of_mem _ List.mem_cons_self)
  have hlast := (List.pairwise_cons.mp h.closed).1 A List.mem_cons_self
  have hsorted : (A.events.take n).Pairwise (· ≤ ·) := hA.sorted.sublist (List.take_sublist n _)
  rw [recent_append, h.recent_counted hopened]
  have hafter : recent w b after ≤ after.length := List.countP_le_length
  -- if an event of the window before is recent, all of this one are
  have hall : recent w b (A.events.take n) ≠ 0 → recent w b after = after.length := by
    intro hsome
    obtain ⟨a, ha, hrecent⟩ := List.countP_pos_iff.mp (Nat.pos_of_ne_zero hsome)
    refine List.countP_eq_length.mpr fun x hx => decide_eq_true ?_
    calc b < a + w := of_decide_eq_true hrecent
      _ ≤ A.opened + w + w := add_le_add (hA.bounds a (List.mem_of_mem_take ha)).2 le_rfl
      _ ≤ x + w := add_le_add (hlast.le.trans (hmem x (by simp [hb, hx]))) le_rfl
  have hcount : recent w b after + recent w b (A.events.take n) < n ↔
      recent w b (A.events.take n) < n - after.length := by
    rcases Nat.eq_zero_or_pos (recent w b (A.events.take n)) with hzero | hpos
    · omega
    · have heq := hall hpos.ne'
      omega
  rw [hcount, Foundation.recent_lt_iff (by omega) hsorted]
  exact forall_congr' fun i => forall_congr' fun a => imp_congr_right fun _ => by
    constructor
    · exact fun hle hi => hle (by omega)
    · exact fun hle hi => hle (by omega)

omit [AddCommMonoid α] [LinearOrder α] [IsOrderedCancelAddMonoid α] in
theorem pos_of_mem_counted {a : α} (ha : a ∈ counted n windows) : 0 < n := by
  obtain ⟨A, -, ha⟩ := List.mem_flatMap.mp ha
  cases n with
  | zero => simp at ha
  | succ n => exact n.succ_pos

omit [IsOrderedCancelAddMonoid α] in
/-- What is counted in succession is in order. -/
theorem counted_sorted (h : Successive w windows) :
    (counted n windows).Pairwise (· ≥ ·) := by
  induction windows with
  | nil => exact List.Pairwise.nil
  | cons B windows ih =>
    have hB := h.sound B List.mem_cons_self
    refine List.pairwise_append.mpr ⟨?_, ih h.tail, fun b hb a ha => ?_⟩
    · exact List.pairwise_reverse.mpr (hB.sorted.sublist (List.take_sublist n _))
    · obtain ⟨A, hA, ha⟩ := List.mem_flatMap.mp ha
      have hover := (List.pairwise_cons.mp h.closed).1 A hA
      have hsound := h.sound A (List.mem_cons_of_mem _ hA)
      calc a ≤ A.opened + w := (hsound.bounds a (List.mem_of_mem_take (List.mem_reverse.mp ha))).2
        _ ≤ B.opened := hover.le
        _ ≤ b := (hB.bounds b (List.mem_of_mem_take (List.mem_reverse.mp hb))).1

/-- **The first `n` events of counting windows are spaced** exactly if consecutive windows are
apart. -/
theorem spaced_counted_iff (h : Successive w windows) :
    Spaced w n (counted n windows) ↔ windows.IsChain fun B A => Apart w n A B := by
  induction windows with
  | nil => simp [counted, Spaced]
  | cons B windows ih =>
    have hsplit : ∀ before b after, (B.events.take n).reverse = before ++ b :: after →
        B.events.take n = after.reverse ++ b :: before.reverse := by
      intro before b after heq
      rw [← List.reverse_reverse (B.events.take n), heq]
      simp
    have hcons : counted n (B :: windows) = (B.events.take n).reverse ++ counted n windows := rfl
    rw [hcons, spaced_append, ih h.tail]
    cases windows with
    | nil =>
      refine iff_of_true ⟨fun before b after heq => ?_, .nil⟩ (.singleton B)
      have hle := List.length_take_le n B.events
      rw [hsplit before b after heq, List.length_append, List.length_cons,
        List.length_reverse] at hle
      have hafter : recent w b (after ++ counted n []) ≤ after.length := by
        rw [counted, List.flatMap_nil, List.append_nil]
        exact List.countP_le_length
      omega
    | cons A windows =>
      rw [List.isChain_cons_cons]
      refine and_congr_left fun _ => ⟨fun hall i j a b ha hb => ?_, fun hapart before b after heq => ?_⟩
      · obtain ⟨hj, rfl⟩ := List.getElem?_eq_some_iff.mp hb
        have hB : B.events.take n = ((B.events.take n).take j).reverse.reverse ++
            (B.events.take n)[j] :: (B.events.take n).drop (j + 1) := by
          rw [List.reverse_reverse, ← List.drop_eq_getElem_cons hj, List.take_append_drop]
        have hreversed := congrArg List.reverse hB
        simp only [List.reverse_append, List.reverse_cons, List.reverse_reverse, List.append_assoc,
          List.singleton_append] at hreversed
        have hrecent := hall _ _ _ hreversed
        have hlength : ((B.events.take n).take j).reverse.length = j := by
          rw [List.length_reverse, List.length_take, min_eq_left hj.le]
        rw [h.recent_lt_iff hB, hlength] at hrecent
        exact hrecent i a ha
      · have hB := hsplit before b after heq
        have hb : (B.events.take n)[after.length]? = some b := by
          rw [hB, List.getElem?_append_right (by simp)]
          simp
        rw [h.recent_lt_iff hB]
        exact fun i a ha => hapart i after.length a b ha hb

end Spaced

/-- A window is open at its end. -/
example : within 4 2 [6, 4, 2] = 2 ∧ within 5 2 [6, 4, 2] = 3 := by decide +kernel

end MipitCore.Foundation
