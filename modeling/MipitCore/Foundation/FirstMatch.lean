import Mathlib.Data.List.Basic
import Mathlib.Order.Lattice

/-!
# The first match in order of rank

Items are sorted by rank, in place, and then tested one after the other until a test succeeds; a
test may also fail to give an answer, and then nothing does. Sorting is stable, so of items of one
rank the one that came first is tested first, and sorting what is sorted changes nothing.

Each item is kept with its place in the list that there was at first.

## Main definitions

* `Before` — what is tested before what
* `inOrder` — the items in the order in which they are tested
* `scan` — the first that passes its test

## Main results

* `pairwise_inOrder`, `mem_inOrder`, `mergeSort_inOrder`
* `scan_eq_hit`, `scan_eq_miss`, `scan_eq_none_iff` — what a scan can end with
-/

namespace MipitCore.Foundation.FirstMatch

universe u v

section

variable {α : Type u} {γ : Type v} [LinearOrder γ] (rank : α → γ)

/-- Of smaller rank, or of the same rank and further in front. -/
def Before (a b : α × ℕ) : Prop := rank a.1 < rank b.1 ∨ rank a.1 = rank b.1 ∧ a.2 < b.2

instance (a b : α × ℕ) : Decidable (Before rank a b) := inferInstanceAs (Decidable (_ ∨ _ ∧ _))

theorem Before.asymm {rank : α → γ} {a b : α × ℕ} (h : Before rank a b) : ¬ Before rank b a := by
  rcases h with hlt | ⟨heq, hlt⟩
  · rintro (hlt' | ⟨heq', -⟩)
    · exact hlt.asymm hlt'
    · exact hlt.ne heq'.symm
  · rintro (hlt' | ⟨-, hlt'⟩)
    · exact hlt'.ne heq.symm
    · exact Nat.lt_asymm hlt hlt'

/-- Whether `a` may stand before `b` in a list that is sorted by rank. -/
def inRank (a b : α × ℕ) : Bool := decide (rank a.1 ≤ rank b.1)

/-- The items with their places, sorted by rank. -/
def inOrder (l : List α) : List (α × ℕ) := l.zipIdx.mergeSort (inRank rank)

variable {rank} {l : List α}

theorem inRank_trans (a b c : α × ℕ) (hab : inRank rank a b = true) (hbc : inRank rank b c = true) :
    inRank rank a c = true :=
  decide_eq_true ((of_decide_eq_true hab).trans (of_decide_eq_true hbc))

theorem inRank_total (a b : α × ℕ) : (inRank rank a b || inRank rank b a) = true := by
  rw [Bool.or_eq_true, inRank, inRank, decide_eq_true_iff, decide_eq_true_iff]
  exact le_total _ _

theorem mem_inOrder {a : α} {i : ℕ} : (a, i) ∈ inOrder rank l ↔ l[i]? = some a := by
  rw [inOrder, List.mem_mergeSort, List.mk_mem_zipIdx_iff_getElem?]

theorem pairwise_inRank_inOrder : (inOrder rank l).Pairwise fun a b => inRank rank a b = true :=
  List.pairwise_mergeSort inRank_trans inRank_total l.zipIdx

/-- **Sorting what is sorted changes nothing.** -/
theorem mergeSort_inOrder : (inOrder rank l).mergeSort (inRank rank) = inOrder rank l :=
  List.mergeSort_of_pairwise pairwise_inRank_inOrder

/-- The items of one rank stay in the order in which they were. -/
theorem filter_inOrder (r : γ) :
    (inOrder rank l).filter (fun a => decide (rank a.1 = r)) =
      l.zipIdx.filter fun a => decide (rank a.1 = r) := by
  have hsorted : (l.zipIdx.filter fun a => decide (rank a.1 = r)).Pairwise
      fun a b => inRank rank a b = true := by
    refine List.pairwise_of_forall_mem_list fun a ha b hb => ?_
    have ha' : rank a.1 = r := of_decide_eq_true (List.mem_filter.mp ha).2
    have hb' : rank b.1 = r := of_decide_eq_true (List.mem_filter.mp hb).2
    rw [inRank, ha', hb', decide_eq_true_iff]
  -- the sort is stable: what was in order already is a sublist of the result
  have hsub := (List.sublist_mergeSort inRank_trans inRank_total hsorted
    List.filter_sublist).filter fun a => decide (rank a.1 = r)
  rw [List.filter_filter] at hsub
  simp only [Bool.and_self] at hsub
  exact (hsub.eq_of_length (((List.mergeSort_perm _ _).filter _).length_eq).symm).symm

theorem pairwise_zipIdx (l : List α) : l.zipIdx.Pairwise fun a b => a.2 < b.2 := by
  refine List.pairwise_iff_getElem.mpr fun i j hi hj hij => ?_
  simpa using hij

/-- **The items are in order.** -/
theorem pairwise_inOrder : (inOrder rank l).Pairwise (Before rank) := by
  refine List.pairwise_of_forall_sublist fun {a b} hab => ?_
  have hrank : rank a.1 ≤ rank b.1 :=
    of_decide_eq_true (pairwise_inRank_inOrder.forall_sublist hab)
  rcases hrank.lt_or_eq with hlt | heq
  · exact Or.inl hlt
  · -- items of one rank are where they were
    have hties := hab.filter fun c => decide (rank c.1 = rank a.1)
    rw [filter_inOrder, List.filter_eq_self.mpr (by simp [heq])] at hties
    exact Or.inr ⟨heq, (pairwise_zipIdx l).forall_sublist (hties.trans List.filter_sublist)⟩

end

/-! ### Testing one after the other -/

section

variable {β : Type u} {test : β → Option Bool} {R : β → β → Prop} {l : List β} {b : β}

/-- The first that passes its test; no answer if a test before that gives none. -/
def scan (test : β → Option Bool) : List β → Option (Option β)
  | [] => some none
  | b :: l =>
    match test b with
    | none => none
    | some true => some (some b)
    | some false => scan test l

/-- What passes first is before all others that pass. -/
theorem scan_eq_hit (hl : l.Pairwise R) (h : scan test l = some (some b)) :
    b ∈ l ∧ test b = some true ∧
      ∀ b' ∈ l, test b' ≠ some false → b' = b ∨ R b b' := by
  induction l with
  | nil => cases h
  | cons c l ih =>
    rw [List.pairwise_cons] at hl
    rw [scan] at h
    cases htest : test c with
    | none =>
      rw [htest] at h
      cases h
    | some passes =>
      rw [htest] at h
      cases passes with
      | true =>
        cases h
        refine ⟨List.mem_cons_self, htest, fun b' hb' _ => ?_⟩
        exact (List.mem_cons.mp hb').imp id (hl.1 b')
      | false =>
        obtain ⟨hmem, hpass, hfirst⟩ := ih hl.2 h
        refine ⟨List.mem_cons_of_mem c hmem, hpass, List.forall_mem_cons.mpr ⟨?_, hfirst⟩⟩
        exact fun hne => absurd htest hne

/-- Nothing passes. -/
theorem scan_eq_miss (h : scan test l = some none) : ∀ b ∈ l, test b = some false := by
  induction l with
  | nil => exact List.forall_mem_nil _
  | cons c l ih =>
    rw [scan] at h
    cases htest : test c with
    | none =>
      rw [htest] at h
      cases h
    | some passes =>
      rw [htest] at h
      cases passes with
      | true => cases h
      | false => exact List.forall_mem_cons.mpr ⟨htest, ih h⟩

/-- **There is no answer** exactly if some test gives none, and nothing before that passes. -/
theorem scan_eq_none_iff (hl : l.Pairwise R) (hR : ∀ b b', R b b' → ¬ R b' b) :
    scan test l = none ↔ ∃ b ∈ l, test b = none ∧ ∀ b' ∈ l, test b' = some true → ¬ R b' b := by
  constructor
  · intro h
    induction l with
    | nil => cases h
    | cons c l ih =>
      rw [List.pairwise_cons] at hl
      rw [scan] at h
      cases htest : test c with
      | none =>
        -- what comes later in the list is not before `c`
        refine ⟨c, List.mem_cons_self, htest, List.forall_mem_cons.mpr ⟨?_, ?_⟩⟩
        · rw [htest]
          simp
        · exact fun b' hb' _ => hR c b' (hl.1 b' hb')
      | some passes =>
        rw [htest] at h
        cases passes with
        | true => cases h
        | false =>
          obtain ⟨b, hb, hnone, hfirst⟩ := ih hl.2 h
          refine ⟨b, List.mem_cons_of_mem c hb, hnone, List.forall_mem_cons.mpr ⟨?_, hfirst⟩⟩
          rw [htest]
          simp
  · -- a scan that ends otherwise has tested `b`, or has found something before it
    rintro ⟨b, hb, hnone, hfirst⟩
    cases hscan : scan test l with
    | none => rfl
    | some found =>
      cases found with
      | none =>
        rw [scan_eq_miss hscan b hb] at hnone
        cases hnone
      | some b' =>
        obtain ⟨hb', hpass, hbefore⟩ := scan_eq_hit hl hscan
        rcases hbefore b hb (by rw [hnone]; simp) with rfl | hR'
        · rw [hpass] at hnone
          cases hnone
        · exact absurd hR' (hfirst b' hb' hpass)

end

end MipitCore.Foundation.FirstMatch
