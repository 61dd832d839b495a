import MipitCore.Js.Alike
import MipitCore.Translation.PixSpei

/-!
# The order of mapping rows

Rows whose target paths are incomparable, so that none is a prefix of another, write to
different places. What is at the end of a path after all rows have been applied is then
determined by the set of rows: the value of the row that writes there, an object where a
row writes below, and what was there before otherwise (`Overlay`). Whether a row throws
is determined by the row and the defaults. So the order of the rows does not matter for
the object, up to the order of its properties.

## Main definitions

* `Incomparable` — paths of which none is a prefix of the other
* `Above`, `IsOpen` — what is on the way to the end of a path, and lets a value be written there
* `rowValue`, `Applied` — what a row writes, if it is applied
* `Overlay` — what is found after rows have been applied

## Main results

* `setNested_spec` — what is found after one write
* `applyMappings_spec`, by induction on the rows
* `Overlay.alike` — rows determine the object
-/

namespace MipitCore.Translation

open Js Api JsValue

/-! ### One write -/

/-- Neither path is a prefix of the other. -/
def Incomparable (p q : List String) : Prop := ¬ p <+: q ∧ ¬ q <+: p

theorem Incomparable.symm {p q : List String} (h : Incomparable p q) : Incomparable q p :=
  ⟨h.2, h.1⟩

/-- What is found above the end of the path satisfies `P`. -/
def Above (P : Option JsValue → Prop) (p : List String) (v : JsValue) : Prop :=
  ∀ q, q <+: p → q ≠ p → P (look q v)

/-- Nothing, or an object. -/
def IsOpen (found : Option JsValue) : Prop := found = none ∨ ∃ fields, found = some (.object fields)

/-- Nothing, or no array. -/
def IsNoArray (found : Option JsValue) : Prop := ∀ items, found ≠ some (.array items)

/-- What is found after `value` was written at the end of the path `p`. -/
structure Written (p : List String) (value v w : JsValue) : Prop where
  target : look p w = some value
  above : ∀ q, q <+: p → q ≠ p → ∃ fields, look q w = some (.object fields)
  other : ∀ q, Incomparable q p → look q w = look q v

section Write

variable {key : String} {p q : List String} {value v w : JsValue}
  {fields : List (String × JsValue)}

/-- The property that the rest of a path starts from. -/
def childOf (key : String) (fields : List (String × JsValue)) : JsValue :=
  if hasField key fields then field key fields else .object []

theorem look_childOf (hq : q ≠ []) :
    look q (childOf key fields) = look (key :: q) (.object fields) := by
  rw [look_cons_object, childOf]
  split
  · rfl
  · cases q with
    | nil => exact absurd rfl hq
    | cons k q => rfl

theorem setNested_cons (hp : p ≠ []) (value : JsValue) :
    setNested (key :: p) value (.object fields) =
      (setNested p value (childOf key fields)).map fun child =>
        .object (setField key child fields) := by
  cases p with
  | nil => exact absurd rfl hp
  | cons next rest =>
    change (setNested (next :: rest) value (childOf key fields)).bind _ = _
    cases setNested (next :: rest) value (childOf key fields) <;> rfl

/-- What is above the end of a path is on the way to its first property, and above its rest. -/
theorem above_cons {P : Option JsValue → Prop} (hnone : P none)
    (hobject : ∀ fields, P (some (.object fields))) :
    Above P (key :: p) (.object fields) ↔ Above P p (childOf key fields) := by
  have hfirst : P (look [key] (.object fields)) ↔ P (look [] (childOf key fields)) := by
    rw [look_cons_object, childOf, look_nil]
    split
    · rfl
    · exact iff_of_true hnone (hobject _)
  constructor
  · intro h q hq hne
    have hkey := h (key :: q) (List.cons_prefix_cons.mpr ⟨rfl, hq⟩) (by simpa using hne)
    by_cases hnil : q = []
    · subst hnil
      exact hfirst.mp hkey
    · rwa [look_childOf hnil]
  · intro h q hq hne
    rcases List.prefix_cons_iff.mp hq with rfl | ⟨q', rfl, hq'⟩
    · exact hobject fields
    · have hchild := h q' hq' (by simpa using hne)
      by_cases hnil : q' = []
      · subst hnil
        exact hfirst.mpr hchild
      · rwa [look_childOf hnil] at hchild

theorem isOpen_none : IsOpen none := Or.inl rfl

theorem isOpen_object (fields : List (String × JsValue)) : IsOpen (some (.object fields)) :=
  Or.inr ⟨fields, rfl⟩

theorem isNoArray_none : IsNoArray none := nofun

theorem isNoArray_object (fields : List (String × JsValue)) : IsNoArray (some (.object fields)) :=
  nofun

/-- **A write throws** where something is on the way that is no object. -/
theorem setNested_isSome (hp : p ≠ []) (hv : Above IsNoArray p v) :
    (setNested p value v).isSome = true ↔ Above IsOpen p v := by
  induction p generalizing v with
  | nil => exact absurd rfl hp
  | cons key p ih =>
    have hroot := hv [] (List.nil_prefix) (by simp)
    cases v with
    | object fields =>
      by_cases hnil : p = []
      · subst hnil
        refine iff_of_true rfl fun q hq hne => ?_
        rcases List.prefix_cons_iff.mp hq with rfl | ⟨q', rfl, hq'⟩
        · exact isOpen_object fields
        · rw [List.prefix_nil.mp hq'] at hne
          exact absurd rfl hne
      · rw [setNested_cons hnil, Option.isSome_map, above_cons isOpen_none isOpen_object]
        exact ih hnil ((above_cons isNoArray_none isNoArray_object).mp hv)
    | array items => exact absurd rfl (hroot items)
    | _ =>
      have hnone : ∀ w, childProperty key w = none → assignProperty key value w = none →
          setNested (key :: p) value w = none := by
        intro w hchild hassign
        cases p with
        | nil => exact hassign
        | cons next rest =>
          change (childProperty key w).bind _ = none
          rw [hchild]
          rfl
      rw [hnone _ rfl rfl]
      refine iff_of_false (by simp) fun hopen => ?_
      rcases hopen [] List.nil_prefix (by simp) with hfound | ⟨fields, hfound⟩ <;> cases hfound

/-- **What is found after one write.** -/
theorem setNested_spec (hp : p ≠ []) (hv : Above IsNoArray p v)
    (h : setNested p value v = some w) : Written p value v w := by
  induction p generalizing v w with
  | nil => exact absurd rfl hp
  | cons key p ih =>
    have hopen := (setNested_isSome hp hv).mp (by rw [h]; rfl)
    obtain hroot | ⟨fields, hroot⟩ := hopen [] List.nil_prefix (by simp)
    · cases hroot
    obtain rfl := Option.some.inj hroot
    -- the write replaces the first property of the path, by the value or by what `ih` says of it
    obtain ⟨child, rfl, hchild⟩ : ∃ child, w = .object (setField key child fields) ∧
        look p child = some value ∧
        (∀ q, q <+: p → q ≠ p → ∃ fields, look q child = some (.object fields)) ∧
        ∀ q, Incomparable q p → look q child = look q (childOf key fields) := by
      by_cases hnil : p = []
      · subst hnil
        obtain rfl := Option.some.inj h
        refine ⟨value, rfl, rfl, fun q hq hne => absurd (List.prefix_nil.mp hq) hne, fun q hq => ?_⟩
        exact absurd List.nil_prefix hq.2
      · rw [setNested_cons hnil] at h
        obtain ⟨child, hchild, rfl⟩ := Option.map_eq_some_iff.mp h
        obtain ⟨htarget, habove, hother⟩ :=
          ih hnil ((above_cons isNoArray_none isNoArray_object).mp hv) hchild
        exact ⟨child, rfl, htarget, habove, hother⟩
    obtain ⟨htarget, habove, hother⟩ := hchild
    refine ⟨?_, fun q hq hne => ?_, fun q hq => ?_⟩
    · rw [look_setField_self, htarget]
    · rcases List.prefix_cons_iff.mp hq with rfl | ⟨q', rfl, hq'⟩
      · exact ⟨_, rfl⟩
      · rw [look_setField_self]
        exact habove q' hq' (by simpa using hne)
    · cases q with
      | nil => exact absurd List.nil_prefix hq.1
      | cons key' q =>
        by_cases hkey : key' = key
        · subst hkey
          have hrest : Incomparable q p :=
            ⟨fun hqp => hq.1 (List.cons_prefix_cons.mpr ⟨rfl, hqp⟩),
              fun hpq => hq.2 (List.cons_prefix_cons.mpr ⟨rfl, hpq⟩)⟩
          have hnil : q ≠ [] := by
            rintro rfl
            exact hrest.1 List.nil_prefix
          rw [look_setField_self, hother q hrest, look_childOf hnil]
        · exact look_setField_of_ne (Ne.symm hkey) _ _ _

/-- What is on the way to the end of another path: above the end of this one, or beside it. -/
theorem Incomparable.cases {p' : List String} (h : Incomparable p' p) (hq : q <+: p') :
    q <+: p ∧ q ≠ p ∨ Incomparable q p := by
  have hbelow : ¬ p <+: q := fun hpq => h.2 (hpq.trans hq)
  by_cases hqp : q <+: p
  · refine Or.inl ⟨hqp, ?_⟩
    rintro rfl
    exact hbelow (List.prefix_refl _)
  · exact Or.inr ⟨hqp, hbelow⟩

/-- A write lets values be written at other paths as before. -/
theorem Written.isOpen_iff {p' : List String} (h : Written p value v w) (hv : Above IsOpen p v)
    (hp : Incomparable p' p) : Above IsOpen p' w ↔ Above IsOpen p' v := by
  refine forall_congr' fun q => imp_congr_right fun hq => imp_congr_right fun _ => ?_
  rcases hp.cases hq with ⟨hqp, hne⟩ | hother
  · exact iff_of_true (Or.inr (h.above q hqp hne)) (hv q hqp hne)
  · rw [h.other q hother]

theorem Written.isNoArray {p' : List String} (h : Written p value v w) (hp : Incomparable p' p)
    (hv : Above IsNoArray p' v) : Above IsNoArray p' w := by
  intro q hq hne
  rcases hp.cases hq with ⟨hqp, hne'⟩ | hother
  · obtain ⟨fields, hfields⟩ := h.above q hqp hne'
    rw [hfields]
    exact isNoArray_object fields
  · rw [h.other q hother]
    exact hv q hq hne

end Write

/-! ### The rows -/

/-- The place in a request's object that a row writes to. -/
def targetPath (entry : String × MappingTransform) : List String := pathParts entry.2.targetField

/-- The row is applied, and writes `value`: its source has a value, whose transformation is `value`,
which passes its validation. -/
def Applied (engine : Engine) (req : JsValue) (entry : String × MappingTransform) (value : JsValue) :
    Prop :=
  (getNestedValue req entry.1).isNullish = false ∧
    applyTransformation engine (getNestedValue req entry.1) entry.2.transformation = some value ∧
    passesValidation engine value entry.2 = some true

/-- What a row writes, or nothing if it is not applied; `none` where it throws before it writes. -/
def rowValue (engine : Engine) (req : JsValue) (entry : String × MappingTransform) :
    Option (Option JsValue) :=
  if (getNestedValue req entry.1).isNullish then some none
  else do
    let transformedValue ← applyTransformation engine (getNestedValue req entry.1)
      entry.2.transformation
    let valid ← passesValidation engine transformedValue entry.2
    return if valid then some transformedValue else none

/-- What is found after rows have been applied. -/
structure Overlay (engine : Engine) (req : JsValue) (entries : Mappings) (v w : JsValue) : Prop where
  target : ∀ e ∈ entries, ∀ value, Applied engine req e value → look (targetPath e) w = some value
  above : ∀ e ∈ entries, ∀ value, Applied engine req e value →
    ∀ q, q <+: targetPath e → q ≠ targetPath e → ∃ fields, look q w = some (.object fields)
  other : ∀ q, (∀ e ∈ entries, ∀ value, Applied engine req e value →
    Incomparable q (targetPath e)) → look q w = look q v

section Rows

variable {engine : Engine} {req v w : JsValue} {entry : String × MappingTransform}
  {entries entries' : Mappings}

theorem rowValue_eq_some {value : JsValue} :
    rowValue engine req entry = some (some value) ↔ Applied engine req entry value := by
  rw [rowValue]
  by_cases hnull : (getNestedValue req entry.1).isNullish = true
  · rw [if_pos hnull]
    refine iff_of_false nofun ?_
    rintro ⟨hfalse, -⟩
    rw [hnull] at hfalse
    cases hfalse
  · rw [if_neg hnull]
    constructor
    · intro h
      obtain ⟨transformed, htransformed, h⟩ := Option.bind_eq_some_iff.mp h
      obtain ⟨valid, hvalid, h⟩ := Option.bind_eq_some_iff.mp h
      cases valid with
      | false => cases h
      | true =>
        cases h
        exact ⟨Bool.eq_false_iff.mpr hnull, htransformed, hvalid⟩
    · rintro ⟨-, htransformed, hvalid⟩
      exact Option.bind_eq_some_iff.mpr
        ⟨_, htransformed, Option.bind_eq_some_iff.mpr ⟨_, hvalid, rfl⟩⟩

theorem applyMapping_eq :
    applyMapping engine req v entry = (rowValue engine req entry).bind fun row =>
      row.elim (some v) (setNested (targetPath entry) · v) := by
  rw [applyMapping, rowValue]
  by_cases hnull : (getNestedValue req entry.1).isNullish = true
  · rw [if_pos hnull, if_pos hnull]
    rfl
  · rw [if_neg hnull, if_neg hnull]
    cases applyTransformation engine (getNestedValue req entry.1) entry.2.transformation with
    | none => rfl
    | some transformed =>
      simp only [Option.bind_eq_bind, Option.bind_some]
      cases passesValidation engine transformed entry.2 with
      | none => rfl
      | some valid => cases valid <;> rfl

/-- One round of the loop. -/
theorem applyMapping_cases {w : JsValue} (h : applyMapping engine req v entry = some w) :
    ((∀ value, ¬ Applied engine req entry value) ∧ w = v) ∨
      ∃ value, Applied engine req entry value ∧ setNested (targetPath entry) value v = some w := by
  rw [applyMapping_eq] at h
  obtain ⟨row, hrow, h⟩ := Option.bind_eq_some_iff.mp h
  cases row with
  | none =>
    refine Or.inl ⟨fun value happlied => ?_, (Option.some.inj h).symm⟩
    rw [rowValue_eq_some.mpr happlied] at hrow
    cases hrow
  | some value => exact Or.inr ⟨value, rowValue_eq_some.mp hrow, h⟩

theorem Applied.unique {value value' : JsValue} (h : Applied engine req entry value)
    (h' : Applied engine req entry value') : value = value' :=
  Option.some.inj (h.2.1.symm.trans h'.2.1)

/-- A row does not throw: what it writes, if anything, can be written. -/
def Runs (engine : Engine) (req : JsValue) (entry : String × MappingTransform) (v : JsValue) : Prop :=
  (∃ row, rowValue engine req entry = some row) ∧
    ∀ value, Applied engine req entry value → Above IsOpen (targetPath entry) v

theorem applyMapping_isSome (hv : Above IsNoArray (targetPath entry) v) :
    (∃ w, applyMapping engine req v entry = some w) ↔ Runs engine req entry v := by
  rw [applyMapping_eq, Runs]
  cases hrow : rowValue engine req entry with
  | none => simp
  | some row =>
    cases row with
    | none =>
      refine iff_of_true ⟨v, rfl⟩ ⟨⟨none, rfl⟩, fun value happlied => ?_⟩
      rw [rowValue_eq_some.mpr happlied] at hrow
      cases hrow
    | some value =>
      have happlied := rowValue_eq_some.mp hrow
      have hwrite : (setNested (targetPath entry) value v).isSome = true ↔ _ :=
        setNested_isSome (pathParts_ne_nil _) hv
      rw [Option.isSome_iff_exists] at hwrite
      exact hwrite.trans ⟨fun hopen => ⟨⟨_, rfl⟩, fun _ _ => hopen⟩, fun h => h.2 value happlied⟩

/-- The targets of the rows are incomparable. -/
def TargetsIncomparable (entries : Mappings) : Prop :=
  entries.Pairwise fun e e' => Incomparable (targetPath e) (targetPath e')

/-- A round of the loop leaves the other rows as they were. -/
theorem applyMapping_others {e : String × MappingTransform}
    (hv : Above IsNoArray (targetPath entry) v) (h : applyMapping engine req v entry = some w)
    (he : Incomparable (targetPath e) (targetPath entry)) :
    (Runs engine req e w ↔ Runs engine req e v) ∧
      (Above IsNoArray (targetPath e) v → Above IsNoArray (targetPath e) w) := by
  rcases applyMapping_cases h with ⟨-, rfl⟩ | ⟨value, -, hwrite⟩
  · exact ⟨Iff.rfl, fun h => h⟩
  · have hne : targetPath entry ≠ [] := pathParts_ne_nil _
    have hopen : Above IsOpen (targetPath entry) v :=
      (setNested_isSome hne hv).mp (by rw [hwrite]; rfl)
    have hwritten := setNested_spec hne hv hwrite
    refine ⟨and_congr_right fun _ => forall_congr' fun _ => imp_congr_right fun _ => ?_, ?_⟩
    · exact hwritten.isOpen_iff hopen he
    · exact hwritten.isNoArray he

/-- **Whether the loop throws** is determined by the rows one by one. -/
theorem applyMappings_isSome (hentries : TargetsIncomparable entries)
    (hv : ∀ e ∈ entries, Above IsNoArray (targetPath e) v) :
    (∃ w, applyMappings engine entries req v = some w) ↔
      ∀ e ∈ entries, Runs engine req e v := by
  induction entries generalizing v with
  | nil => exact iff_of_true ⟨v, rfl⟩ nofun
  | cons entry entries ih =>
    obtain ⟨hfirst, hrest⟩ := List.pairwise_cons.mp hentries
    rw [List.forall_mem_cons] at hv ⊢
    rw [applyMappings, List.foldlM_cons, ← applyMapping_isSome hv.1]
    constructor
    · rintro ⟨w, hw⟩
      obtain ⟨u, hu, hw⟩ := Option.bind_eq_some_iff.mp hw
      have hothers := fun e he => applyMapping_others hv.1 hu (hfirst e he).symm
      refine ⟨⟨u, hu⟩, fun e he => (hothers e he).1.mp ?_⟩
      exact (ih hrest fun e he => (hothers e he).2 (hv.2 e he)).mp ⟨w, hw⟩ e he
    · rintro ⟨⟨u, hu⟩, hruns⟩
      have hothers := fun e he => applyMapping_others hv.1 hu (hfirst e he).symm
      obtain ⟨w, hw⟩ := (ih hrest fun e he => (hothers e he).2 (hv.2 e he)).mpr
        fun e he => (hothers e he).1.mpr (hruns e he)
      exact ⟨w, Option.bind_eq_some_iff.mpr ⟨u, hu, hw⟩⟩

/-- **What is found after the loop.** -/
theorem applyMappings_spec (hentries : TargetsIncomparable entries)
    (hv : ∀ e ∈ entries, Above IsNoArray (targetPath e) v)
    (h : applyMappings engine entries req v = some w) : Overlay engine req entries v w := by
  induction entries generalizing v with
  | nil =>
    obtain rfl := Option.some.inj h
    exact ⟨nofun, nofun, fun _ _ => rfl⟩
  | cons entry entries ih =>
    obtain ⟨hfirst, hrest⟩ := List.pairwise_cons.mp hentries
    rw [List.forall_mem_cons] at hv
    rw [applyMappings, List.foldlM_cons] at h
    obtain ⟨u, hu, h⟩ := Option.bind_eq_some_iff.mp h
    have hothers := fun e he => applyMapping_others hv.1 hu (hfirst e he).symm
    obtain ⟨htarget, habove, hother⟩ := ih hrest (fun e he => (hothers e he).2 (hv.2 e he)) h
    rcases applyMapping_cases hu with ⟨hnot, rfl⟩ | ⟨value, happlied, hwrite⟩
    · -- the first row is skipped
      refine ⟨?_, ?_, fun q hq => hother q fun e he => hq e (List.mem_cons_of_mem _ he)⟩
      · rintro e he value happlied
        rcases List.mem_cons.mp he with rfl | he
        · exact absurd happlied (hnot value)
        · exact htarget e he value happlied
      · rintro e he value happlied
        rcases List.mem_cons.mp he with rfl | he
        · exact absurd happlied (hnot value)
        · exact habove e he value happlied
    · -- the first row is written, and the rows after it write elsewhere
      have hwritten : Written (targetPath entry) value v u :=
        setNested_spec (pathParts_ne_nil _) hv.1 hwrite
      refine ⟨?_, ?_, fun q hq => ?_⟩
      · rintro e he value' happlied'
        rcases List.mem_cons.mp he with rfl | he
        · obtain rfl := happlied.unique happlied'
          rw [hother _ fun e' he' _ _ => hfirst e' he', hwritten.target]
        · exact htarget e he value' happlied'
      · rintro e he value' happlied' q hq hne
        rcases List.mem_cons.mp he with rfl | he
        · -- another row writes below the same object, or beside it
          by_cases hbelow : ∃ e' ∈ entries, ∃ value'', Applied engine req e' value'' ∧
              q <+: targetPath e'
          · obtain ⟨e', he', value'', happlied'', hq'⟩ := hbelow
            refine habove e' he' value'' happlied'' q hq' ?_
            rintro rfl
            exact (hfirst e' he').2 hq
          · rw [hother q fun e' he' value'' happlied'' => ⟨fun hq' => hbelow
              ⟨e', he', value'', happlied'', hq'⟩, fun hq' => (hfirst e' he').2 (hq'.trans hq)⟩]
            exact hwritten.above q hq hne
        · exact habove e he value' happlied' q hq hne
      · rw [hother q fun e he => hq e (List.mem_cons_of_mem _ he),
          hwritten.other q (hq entry List.mem_cons_self value happlied)]

/-- **The rows determine the object**, up to the order of its properties. -/
theorem Overlay.alike {w' : JsValue} (h : Overlay engine req entries v w)
    (h' : Overlay engine req entries v w') : Alike w w' := by
  intro q
  by_cases hq : ∀ e ∈ entries, ∀ value, Applied engine req e value → Incomparable q (targetPath e)
  · rw [h.other q hq, h'.other q hq]
  · push Not at hq
    obtain ⟨e, he, value, happlied, hcomparable⟩ := hq
    by_cases hbelow : targetPath e <+: q
    · obtain ⟨more, rfl⟩ := hbelow
      rw [look_append, look_append, h.target e he value happlied, h'.target e he value happlied]
    · have habove : q <+: targetPath e := by
        by_contra hnot
        exact hcomparable ⟨hnot, hbelow⟩
      have hne : q ≠ targetPath e := by
        rintro rfl
        exact hbelow (List.prefix_refl _)
      obtain ⟨fields, hfields⟩ := h.above e he value happlied q habove hne
      obtain ⟨fields', hfields'⟩ := h'.above e he value happlied q habove hne
      rw [hfields, hfields']
      rfl

/-- The order of the rows does not matter. -/
theorem applyMappings_perm (hperm : entries.Perm entries') (hentries : TargetsIncomparable entries)
    (hv : ∀ e ∈ entries, Above IsNoArray (targetPath e) v) :
    Option.Rel Alike (applyMappings engine entries req v) (applyMappings engine entries' req v) := by
  have hentries' : TargetsIncomparable entries' :=
    (hperm.pairwise_iff fun h => Incomparable.symm h).mp hentries
  have hv' : ∀ e ∈ entries', Above IsNoArray (targetPath e) v :=
    fun e he => hv e (hperm.mem_iff.mpr he)
  have hruns : (∃ w, applyMappings engine entries req v = some w) ↔
      ∀ e ∈ entries, Runs engine req e v := applyMappings_isSome hentries hv
  have hruns' : (∃ w, applyMappings engine entries' req v = some w) ↔
      ∀ e ∈ entries', Runs engine req e v := applyMappings_isSome hentries' hv'
  -- whether a row runs is decided by the value at the start, so the order is no matter
  have hboth : (∃ w, applyMappings engine entries req v = some w) ↔
      ∃ w, applyMappings engine entries' req v = some w := by
    rw [hruns, hruns']
    exact ⟨fun h e he => h e (hperm.mem_iff.mpr he), fun h e he => h e (hperm.mem_iff.mp he)⟩
  cases hw : applyMappings engine entries req v with
  | none =>
    cases hw' : applyMappings engine entries' req v with
    | none => exact .none
    | some w' =>
      obtain ⟨w, hsome⟩ := hboth.mpr ⟨w', hw'⟩
      rw [hw] at hsome
      cases hsome
  | some w =>
    obtain ⟨w', hw'⟩ := hboth.mp ⟨w, hw⟩
    rw [hw']
    obtain ⟨htarget, habove, hother⟩ := applyMappings_spec hentries' hv' hw'
    refine .some ((applyMappings_spec hentries hv hw).alike ⟨?_, ?_, ?_⟩)
    · exact fun e he => htarget e (hperm.mem_iff.mp he)
    · exact fun e he => habove e (hperm.mem_iff.mp he)
    · exact fun q hq => hother q fun e he => hq e (hperm.mem_iff.mpr he)

end Rows

end MipitCore.Translation
