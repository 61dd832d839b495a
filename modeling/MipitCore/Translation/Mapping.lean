import MipitCore.Domain.Payment
import MipitCore.Js.Coercion

/-!
# Mappings from the database

Rows of `mapping_table` copy fields of a request into the canonical message that is
being built: each reads a value at a path, transforms it, checks it, and writes it at
another path. A value that is missing, or fails its check, is skipped. Anything that
throws on the way ends the translation.

Paths lead through own properties of objects and items of arrays. A value is copied
where the source shares it.

## Main definitions

* `Engine` — what the language brings along: case conversion and regular expressions
* `MappingEntry`, `loadMappings` — the rows, and the map that is made from them
* `applyTransformation`, `applyValidation`, `getNestedValue`, `setNestedValue`
* `applyMappings` — the loop over the rows

## Main results

* `applyMappings_field` — a property that no row writes to stays as it was
-/

namespace MipitCore.Translation

open Js
open CodeUnit (ascii)

/-- Case conversion and regular expressions, which are not part of the program. -/
structure Engine extends CaseMapping where
  /-- `new RegExp(pattern).test(s)`; `none` is the `SyntaxError` for what is no pattern. -/
  test : Text → Text → Option Bool

/-- A row of `mapping_table` for one rail and direction. -/
structure MappingEntry where
  sourceField : String
  targetField : String
  transformation : String
  validationRule : Option Text
  isActive : Bool

/-- `MappingTransform` -/
structure MappingTransform where
  targetField : String
  transformation : String
  validation : Option Text

/-- The `Map` from source fields. -/
abbrev Mappings := List (String × MappingTransform)

/-- `mappings.set(sourceField, transform)`, which keeps the place of a key that is there. -/
def Mappings.set (sourceField : String) (transform : MappingTransform) : Mappings → Mappings
  | [] => [(sourceField, transform)]
  | (key, m) :: mappings =>
    if key = sourceField then (key, transform) :: mappings
    else (key, m) :: Mappings.set sourceField transform mappings

/-- `loadMappings(rail, direction)`, given the rows that the repository returns. -/
def loadMappings (entries : List MappingEntry) : Mappings :=
  entries.foldl (fun mappings entry =>
    if entry.isActive then
      mappings.set entry.sourceField
        ⟨entry.targetField, entry.transformation, entry.validationRule⟩
    else mappings) []

/-- `applyTransformation(value, transformation)` -/
def applyTransformation [Arithmetic] (engine : Engine) (value : JsValue) (transformation : String) :
    Option JsValue :=
  let onText (f : Text → Text) : Option JsValue := match value with
    | .string s => some (.string (f s))
    | v => some v
  match transformation with
  | "identity" => some value
  | "uppercase" => onText engine.toUpperCase
  | "lowercase" => onText engine.toLowerCase
  | "strip_pix_prefix" => onText (Text.stripPrefix (js "PIX-"))
  | "strip_clabe_prefix" => onText (Text.stripPrefix (js "CLABE-"))
  | "numeric" => value.toNumber.map .number
  | "string" => value.toText.map .string
  | _ => some value

/-- `path.split('.')` -/
def pathParts (path : String) : List String := (path.toList.splitOn '.').map String.ofList

/-- The index that a property name is, if it is one. -/
def arrayIndex (key : String) : Option ℕ := key.toNat?.filter fun n => toString n = key

/-- `current[key]` for an object or an array, and otherwise `undefined`; for names of own properties. -/
def nestedProperty (current : JsValue) (key : String) : JsValue :=
  match current with
  | .object fields => JsValue.field key fields
  | .array items =>
    if key = "length" then .number (.fin items.length)
    else (arrayIndex key).elim .undefined fun i => items.getD i .undefined
  | _ => .undefined

/-- `getNestedValue(obj, path)` -/
def getNestedValue (obj : JsValue) (path : String) : JsValue :=
  (pathParts path).foldl nestedProperty obj

/-- `items[i] = v` -/
def setItem (i : ℕ) (v : JsValue) (items : List JsValue) : List JsValue :=
  if i < items.length then items.set i v
  else items ++ List.replicate (i - items.length) .undefined ++ [v]

/-- `current[key] = v`; `none` is the `TypeError` for what is no object. Properties of an array that
are no items are lost on every reader of it. -/
def assignProperty (key : String) (v : JsValue) : JsValue → Option JsValue
  | .object fields => some (.object (JsValue.setField key v fields))
  | .array items => some (.array ((arrayIndex key).elim items fun i => setItem i v items))
  | _ => none

/-- `current[key]`, a new object where there is no such property; `none` is the `TypeError` of
`key in current` for what is no object. -/
def childProperty (key : String) : JsValue → Option JsValue
  | .object fields =>
    some (if fields.any fun f => f.1 = key then JsValue.field key fields else .object [])
  | .array items => some ((arrayIndex key).elim (.object []) fun i => items.getD i (.object []))
  | _ => none

/-- `setNestedValue` below `current`, given the parts of the path. -/
def setNested : List String → JsValue → JsValue → Option JsValue
  | [], _, current => some current
  | [lastKey], value, current => assignProperty lastKey value current
  | part :: parts, value, current => do
    let child ← childProperty part current
    let child' ← setNested parts value child
    assignProperty part child' current

/-- `setNestedValue(obj, path, value)` -/
def setNestedValue (obj : JsValue) (path : String) (value : JsValue) : Option JsValue :=
  setNested (pathParts path) value obj

/-- `applyValidation(value, validation)` -/
def applyValidation [Arithmetic] (engine : Engine) (value : JsValue) (validation : Text) :
    Option Bool := do
  let str ← (value.nullish (.string [])).toText
  if validation.startsWith (js "regex:") then
    engine.test (validation.drop 6) str
  else if validation.startsWith (js "minLength:") then
    return (stringToNumber (validation.drop 10)).leNat str.length
  else if validation.startsWith (js "maxLength:") then
    return (stringToNumber (validation.drop 10)).geNat str.length
  else if validation.startsWith (js "enum:") then
    return ((Text.split (validation.drop 5) (ascii ',')).map Text.trim).contains str
  else return true

/-- `mapping.validation` and whether the value passes it. -/
def passesValidation [Arithmetic] (engine : Engine) (value : JsValue) (m : MappingTransform) :
    Option Bool :=
  match m.validation with
  | none | some [] => some true
  | some validation => applyValidation engine value validation

/-- One round of the loop over the mappings. -/
def applyMapping [Arithmetic] (engine : Engine) (req raw : JsValue)
    (entry : String × MappingTransform) : Option JsValue :=
  let sourceValue := getNestedValue req entry.1
  if sourceValue.isNullish then some raw
  else do
    let transformedValue ← applyTransformation engine sourceValue entry.2.transformation
    let valid ← passesValidation engine transformedValue entry.2
    if valid then setNestedValue raw entry.2.targetField transformedValue
    else return raw

/-- The loop over the mappings. -/
def applyMappings [Arithmetic] (engine : Engine) (mappings : Mappings) (req raw : JsValue) :
    Option JsValue :=
  mappings.foldlM (applyMapping engine req) raw

/-! ### What a mapping leaves alone -/

/-- The property of the canonical message that a row writes to, or into. -/
def MappingTransform.targetProperty (m : MappingTransform) : String :=
  (pathParts m.targetField).headD ""

/-- Writing at a path changes an object only in the property that the path starts with. -/
theorem setNested_object {parts : List String} {value : JsValue}
    {fields : List (String × JsValue)} {result : JsValue}
    (h : setNested parts value (.object fields) = some result) :
    ∃ fields', result = .object fields' ∧ ∀ key, parts.head? ≠ some key →
      JsValue.field key fields' = JsValue.field key fields := by
  match parts with
  | [] =>
    obtain rfl : JsValue.object fields = result := by simpa [setNested] using h
    exact ⟨fields, rfl, fun _ _ => rfl⟩
  | [lastKey] =>
    obtain rfl := Option.some.inj h
    refine ⟨_, rfl, fun key hkey => ?_⟩
    rw [JsValue.field_setField, if_neg fun heq => hkey (by rw [heq, List.head?_cons])]
  | part :: next :: rest =>
    simp only [setNested, Option.bind_eq_bind, Option.bind_eq_some_iff] at h
    obtain ⟨child, -, child', -, h⟩ := h
    obtain rfl := Option.some.inj h
    refine ⟨_, rfl, fun key hkey => ?_⟩
    rw [JsValue.field_setField, if_neg fun heq => hkey (by rw [heq, List.head?_cons])]

theorem pathParts_ne_nil (path : String) : pathParts path ≠ [] := by
  intro h
  exact List.splitOn_ne_nil '.' path.toList (List.map_eq_nil_iff.mp h)

theorem applyMapping_object {engine : Engine} {req result : JsValue}
    {fields : List (String × JsValue)} {entry : String × MappingTransform}
    (h : applyMapping engine req (.object fields) entry = some result) :
    ∃ fields', result = .object fields' ∧ ∀ key, entry.2.targetProperty ≠ key →
      JsValue.field key fields' = JsValue.field key fields := by
  have unchanged : ∃ fields', JsValue.object fields = .object fields' ∧
      ∀ key, entry.2.targetProperty ≠ key →
        JsValue.field key fields' = JsValue.field key fields := ⟨fields, rfl, fun _ _ => rfl⟩
  simp only [applyMapping] at h
  split at h
  · -- the source has no such value
    obtain rfl := Option.some.inj h
    exact unchanged
  · obtain ⟨transformed, -, h⟩ := Option.bind_eq_some_iff.mp h
    obtain ⟨valid, -, h⟩ := Option.bind_eq_some_iff.mp h
    cases valid with
    | false =>
      obtain rfl := Option.some.inj h
      exact unchanged
    | true =>
      obtain ⟨fields', rfl, hfields⟩ := setNested_object h
      refine ⟨fields', rfl, fun key hkey => hfields key fun hhead => hkey ?_⟩
      rw [MappingTransform.targetProperty, List.headD_eq_head?_getD, hhead, Option.getD_some]

/-- **What no row writes to stays as it was.** -/
theorem applyMappings_field {engine : Engine} {mappings : Mappings} {req result : JsValue}
    {fields : List (String × JsValue)}
    (h : applyMappings engine mappings req (.object fields) = some result) :
    ∃ fields', result = .object fields' ∧
      ∀ key, (∀ entry ∈ mappings, entry.2.targetProperty ≠ key) →
        JsValue.field key fields' = JsValue.field key fields := by
  induction mappings generalizing fields with
  | nil =>
    obtain rfl := Option.some.inj h
    exact ⟨fields, rfl, fun _ _ => rfl⟩
  | cons entry mappings ih =>
    rw [applyMappings, List.foldlM_cons] at h
    obtain ⟨next, hnext, h⟩ := Option.bind_eq_some_iff.mp h
    obtain ⟨fields₁, rfl, hfields₁⟩ := applyMapping_object hnext
    obtain ⟨fields₂, rfl, hfields₂⟩ := ih h
    refine ⟨fields₂, rfl, fun key hkey => ?_⟩
    rw [hfields₂ key fun e he => hkey e (List.mem_cons_of_mem _ he),
      hfields₁ key (hkey entry List.mem_cons_self)]

example : (applyMappings ⟨.ascii, fun _ _ => none⟩
    [("creditor.alias", ⟨"alias.value", "strip_pix_prefix", none⟩)]
    (.object [("creditor", .object [("alias", .string (js "PIX-bob"))])])
    (.object [("alias", .object [("type", .string (js "PIX_KEY")), ("value", .string [])])])).map
      stringify = some (some (js "\x7b\"alias\":\x7b\"type\":\"PIX_KEY\",\"value\":\"bob\"\x7d\x7d")) := by
  decide +kernel

end MipitCore.Translation
