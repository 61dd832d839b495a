import MipitCore.Js.Schema

/-!
# Values up to the order of properties

Two values are alike if the same is found in both along every path of own properties,
where of an object only its kind counts. So they differ in the order in which their
objects got their properties, and in nothing else. Schemas look properties up by their
names, and do not tell values apart that are alike.

## Main definitions

* `JsValue.look` — what is at the end of a path of own properties
* `Alike` — values that differ in the order of properties only
* `AlikeFields` — objects whose properties are alike
* `Schema.Respects` — schemas that do not tell such values apart

## Main results

* `look_append`, `look_setField` — the rules for paths
* `alike_cases`, `alike_object` — what being alike means for the parts
* `Respects.object`, `Respects.optional` and their siblings
-/

namespace MipitCore.Js

namespace JsValue

variable {key : String} {v w : JsValue} {fields fields' : List (String × JsValue)}

/-- Whether there is an own property `key` among `fields`. -/
def hasField (key : String) (fields : List (String × JsValue)) : Bool :=
  fields.any fun f => f.1 = key

@[simp] theorem hasField_nil : hasField key [] = false := rfl

theorem hasField_setField (key key' : String) (v : JsValue) (fields : List (String × JsValue)) :
    hasField key (setField key' v fields) = (decide (key' = key) || hasField key fields) := by
  induction fields with
  | nil => simp [setField, hasField]
  | cons f fields ih =>
    obtain ⟨k, w⟩ := f
    simp only [hasField, List.any_cons] at ih ⊢
    by_cases hk : k = key'
    · subst hk
      simp [setField]
    · simp only [setField, if_neg hk, List.any_cons, ih]
      exact Bool.or_left_comm _ _ _

/-- A property that is not there is `undefined`. -/
theorem field_of_hasField (h : hasField key fields = false) : field key fields = undefined := by
  by_contra hne
  rw [hasField, any_of_field hne] at h
  cases h

/-- What is at the end of a path of own properties. -/
def look : List String → JsValue → Option JsValue
  | [], v => some v
  | key :: path, object fields => if hasField key fields then look path (field key fields) else none
  | _ :: _, _ => none

@[simp] theorem look_nil (v : JsValue) : look [] v = some v := rfl

theorem look_cons_object (key : String) (path : List String) (fields : List (String × JsValue)) :
    look (key :: path) (object fields) =
      if hasField key fields then look path (field key fields) else none := rfl

theorem look_of_hasField (h : hasField key fields = true) (path : List String) :
    look (key :: path) (object fields) = look path (field key fields) := if_pos h

theorem look_append (path more : List String) (v : JsValue) :
    look (path ++ more) v = (look path v).bind (look more) := by
  induction path generalizing v with
  | nil => rfl
  | cons key path ih =>
    cases v with
    | object fields =>
      by_cases hkey : hasField key fields = true
      · rw [List.cons_append, look_of_hasField hkey, look_of_hasField hkey, ih]
      · rw [List.cons_append, look_cons_object, look_cons_object, if_neg hkey, if_neg hkey]
        rfl
    | _ => rfl

/-- The new value of a property is found under its name. -/
theorem look_setField_self (key : String) (path : List String) (v : JsValue)
    (fields : List (String × JsValue)) :
    look (key :: path) (object (setField key v fields)) = look path v := by
  have hkey : hasField key (setField key v fields) = true := by
    simp [hasField_setField]
  rw [look_of_hasField hkey, field_setField, if_pos rfl]

/-- Other properties are as they were. -/
theorem look_setField_of_ne {key key' : String} (h : key' ≠ key) (path : List String) (v : JsValue)
    (fields : List (String × JsValue)) :
    look (key :: path) (object (setField key' v fields)) = look (key :: path) (object fields) := by
  rw [look_cons_object, look_cons_object, hasField_setField, decide_eq_false h, Bool.false_or,
    field_setField, if_neg h]

end JsValue

open JsValue

/-- What is seen of a value without looking into it: of an object only that it is one. -/
def kind : JsValue → Option JsValue
  | .object _ => none
  | v => some v

/-- The values differ in the order of properties only. -/
def Alike (v w : JsValue) : Prop := ∀ path, (look path v).map kind = (look path w).map kind

/-- The same properties, with values that are alike. -/
def AlikeFields (fields fields' : List (String × JsValue)) : Prop :=
  ∀ key, hasField key fields = hasField key fields' ∧ Alike (field key fields) (field key fields')

section Alike

variable {v w : JsValue} {fields fields' : List (String × JsValue)}

theorem Alike.refl (v : JsValue) : Alike v v := fun _ => rfl

theorem Alike.symm (h : Alike v w) : Alike w v := fun path => (h path).symm

theorem AlikeFields.symm (h : AlikeFields fields fields') : AlikeFields fields' fields := fun key =>
  ⟨(h key).1.symm, (h key).2.symm⟩

theorem alike_object : Alike (.object fields) (.object fields') ↔ AlikeFields fields fields' := by
  constructor
  · intro h key
    have hhas : hasField key fields = hasField key fields' := by
      have hkey := h [key]
      rw [look_cons_object, look_cons_object] at hkey
      cases hf : hasField key fields <;> cases hf' : hasField key fields' <;>
        simp_all
    refine ⟨hhas, fun path => ?_⟩
    cases hf : hasField key fields with
    | true =>
      rw [← look_of_hasField hf path, ← look_of_hasField (hhas ▸ hf) path]
      exact h (key :: path)
    | false => rw [field_of_hasField hf, field_of_hasField (hhas ▸ hf)]
  · intro h path
    cases path with
    | nil => rfl
    | cons key path =>
      obtain ⟨hhas, hvalues⟩ := h key
      rw [look_cons_object, look_cons_object, hhas]
      split
      · exact hvalues path
      · rfl

/-- **Values that are alike** are equal, or objects whose properties are alike. -/
theorem alike_cases (h : Alike v w) :
    (v = w ∧ ∀ fields, v ≠ .object fields) ∨
      ∃ fields fields', v = .object fields ∧ w = .object fields' ∧ AlikeFields fields fields' := by
  have hkind : kind v = kind w := by simpa using h []
  cases v with
  | object fields =>
    cases w with
    | object fields' => exact Or.inr ⟨fields, fields', rfl, rfl, alike_object.mp h⟩
    | _ => cases hkind
  | _ =>
    cases w with
    | object fields' => cases hkind
    | _ => exact Or.inl ⟨Option.some.inj hkind, nofun⟩

theorem Alike.truthy (h : Alike v w) : v.truthy = w.truthy := by
  rcases alike_cases h with ⟨rfl, -⟩ | ⟨fields, fields', rfl, rfl, -⟩ <;> rfl

theorem Alike.getOptional (h : Alike v w) (key : String) :
    Alike (v.getOptional key) (w.getOptional key) := by
  rcases alike_cases h with ⟨rfl, -⟩ | ⟨fields, fields', rfl, rfl, hfields⟩
  · exact .refl _
  · exact (hfields key).2

/-- Writing what is alike to properties that are alike. -/
theorem AlikeFields.setField (h : AlikeFields fields fields') (hvalues : Alike v w) (key : String) :
    AlikeFields (setField key v fields) (setField key w fields') := by
  intro key'
  rw [hasField_setField, hasField_setField, field_setField, field_setField, (h key').1]
  refine ⟨rfl, ?_⟩
  split
  · exact hvalues
  · exact (h key').2

end Alike

/-! ### Schemas -/

namespace Schema

variable {α : Type} {s : Schema α} {fields fields' : List (String × JsValue)}

/-- The schema does not tell values apart that are alike. -/
def Respects (s : Schema α) : Prop := ∀ v w, Alike v w → s v = s w

/-- A schema that treats all objects in the same way. -/
theorem Respects.of_object (h : ∀ fields fields', s (.object fields) = s (.object fields')) :
    Respects s := by
  intro v w hvw
  rcases alike_cases hvw with ⟨rfl, -⟩ | ⟨fields, fields', rfl, rfl, -⟩
  · rfl
  · exact h fields fields'

theorem respects_string : Respects string := .of_object fun _ _ => rfl

theorem respects_number : Respects number := .of_object fun _ _ => rfl

theorem respects_enumeration (names : List (String × α)) : Respects (enumeration names) :=
  .of_object fun _ _ => rfl

theorem respects_array (s : Schema α) : Respects (array s) := .of_object fun _ _ => rfl

theorem Respects.check (h : Respects s) (p : α → Bool) : Respects (check p s) := fun v w hvw => by
  rw [Schema.check, Schema.check, h v w hvw]

theorem Respects.refine (h : Respects s) (p : α → Prop) [DecidablePred p] :
    Respects (refine p s) := fun v w hvw => by
  rw [Schema.refine, Schema.refine, h v w hvw]

theorem Respects.optional (h : Respects s) : Respects (optional s) := by
  intro v w hvw
  rcases alike_cases hvw with ⟨rfl, -⟩ | ⟨fields, fields', rfl, rfl, -⟩
  · rfl
  · rw [optional_object, optional_object, h _ _ hvw]

theorem Respects.nullable (h : Respects s) : Respects (nullable s) := by
  intro v w hvw
  rcases alike_cases hvw with ⟨rfl, -⟩ | ⟨fields, fields', rfl, rfl, -⟩
  · rfl
  · change (s _).map some = (s _).map some
    rw [h _ _ hvw]

theorem Respects.default (h : Respects s) (d : α) : Respects (default d s) := by
  intro v w hvw
  rcases alike_cases hvw with ⟨rfl, -⟩ | ⟨fields, fields', rfl, rfl, -⟩
  · rfl
  · exact h _ _ hvw

/-- A property is decoded alike. -/
theorem Respects.field (h : Respects s) (hfields : AlikeFields fields fields') (key : String) :
    s.field key fields = s.field key fields' := h _ _ (hfields key).2

theorem Respects.object {decode : List (String × JsValue) → Option α}
    (h : ∀ fields fields', AlikeFields fields fields' → decode fields = decode fields') :
    Respects (object decode) := by
  intro v w hvw
  rcases alike_cases hvw with ⟨rfl, -⟩ | ⟨fields, fields', rfl, rfl, hfields⟩
  · rfl
  · exact h fields fields' hfields

theorem respects_textUpTo (n : ℕ) : Respects (textUpTo n) := respects_string.check _

theorem respects_textOfLength (n : ℕ) : Respects (textOfLength n) := respects_string.check _

theorem respects_positiveNumber : Respects positiveNumber := respects_number.check _

end Schema

end MipitCore.Js
