import MipitCore.Js.Regex
import MipitCore.Js.Value

/-!
# The sanitization of request bodies

Before a handler runs, a hook walks through the body of the request and refuses it for a dangerous or
overlong string, a forbidden key, or an overlong array. What it checks of a value depends on where the
value stands: the walk looks at every property of an object, and at every element of an array that it
has been handed as if it were an object; but of the elements of an array that is a property it only
descends into those that are objects or arrays. So strings in such an array are never looked at, and
neither is the length of an array right inside another one. In arrays in arrays the two kinds of
places alternate.

## Main definitions

* `preHandler`, `sanitizeEntry` — the hook
* `Position`, `Stands` — where a value stands in a body
* `Clean` — what the hook is meant to ensure

## Main results

* `preHandler_iff` — what a body that passes has been checked for
* `clean_iff` — when such a body is clean
-/

namespace MipitCore.Api

open Js Js.CodeUnit

/-! ### The hook -/

/-- `DANGEROUS_PATTERNS` -/
def DANGEROUS_PATTERNS : List Regex :=
  [ -- `<script\b[^>]*>`
    .sequence [.word "<script", .boundary, .star (.unit fun c => c ≠ ascii '>'), .oneOf ">"],
    .word "javascript:",
    -- `on\w+\s*=`
    .sequence [.word "on", .plus (.unit isWord), .star (.unit isWhite), .oneOf "="],
    -- a statement of SQL
    .sequence [.boundary,
      .words ["union", "select", "insert", "update", "delete", "drop", "alter", "exec", "execute"],
      .boundary, .star (.unit fun c => !endsLine c), .boundary,
      .words ["from", "into", "table", "where"], .boundary],
    -- a comment of SQL
    .sequence [.oneOf "-", .oneOf "-", .unit isWhite],
    .sequence [.oneOf ";", .star (.unit isWhite), .words ["drop", "delete", "update", "insert"]] ]

/-- `FORBIDDEN_KEYS` -/
def FORBIDDEN_KEYS : List Text := [js "__proto__", js "constructor", js "prototype"]

/-- The checks of a string. -/
def sanitizeString (currentPath value : Text) : Except Text Unit :=
  if DANGEROUS_PATTERNS.any fun pattern => pattern.test value then
    .error (js "Potentially dangerous input detected in " ++ currentPath)
  else if 10240 < value.length then
    .error (js "Field " ++ currentPath ++ js " exceeds maximum length (10KB)")
  else .ok ()

/-- The check of the length of an array. -/
def sanitizeLength (currentPath : Text) (length : ℕ) : Except Text Unit :=
  if 1000 < length then
    .error (js "Array " ++ currentPath ++ js " exceeds maximum size (1000 elements)")
  else .ok ()

/-- The check of a key. -/
def sanitizeKey (currentPath key : Text) : Except Text Unit :=
  if key ∈ FORBIDDEN_KEYS then .error (js "Forbidden key detected: " ++ currentPath) else .ok ()

/-- ``path ? `${path}.${key}` : key`` -/
def pathTo (path key : Text) : Text := if path = [] then key else path ++ js "." ++ key

mutual

/-- `sanitizeObject(obj, path)` of an object or an array, the fields of which are in the order in which
`Object.entries` lists them. -/
def sanitizeObject (path : Text) : JsValue → Except Text Unit
  | .object fields => sanitizeFields path fields
  | .array items => sanitizeItems path 0 items
  | _ => .ok ()

/-- The entries of an object. -/
def sanitizeFields (path : Text) : List (String × JsValue) → Except Text Unit
  | [] => .ok ()
  | (key, value) :: fields => do
    sanitizeEntry path (js key) value
    sanitizeFields path fields

/-- The entries of an array, the keys of which are its indices. -/
def sanitizeItems (path : Text) (index : ℕ) : List JsValue → Except Text Unit
  | [] => .ok ()
  | value :: items => do
    sanitizeEntry path (natText index) value
    sanitizeItems path (index + 1) items

/-- The body of the loop, for an entry `[key, value]`. -/
def sanitizeEntry (path key : Text) (value : JsValue) : Except Text Unit := do
  let currentPath := pathTo path key
  sanitizeKey currentPath key
  match value with
  | .string s => sanitizeString currentPath s
  | .array items => do
    sanitizeLength currentPath items.length
    sanitizeElements currentPath 0 items
  | .object fields => sanitizeFields currentPath fields
  | _ => .ok ()

/-- The loop over the elements of an array: those that are no objects are passed over. -/
def sanitizeElements (currentPath : Text) (i : ℕ) : List JsValue → Except Text Unit
  | [] => .ok ()
  | value :: items => do
    sanitizeObject (currentPath ++ js "[" ++ natText i ++ js "]") value
    sanitizeElements currentPath (i + 1) items

end

/-- The hook: the body of the answer `400`, or `none` if the request passes. What is no object is
not looked at. -/
def preHandler (body : JsValue) : Option JsValue :=
  match body with
  | .object _ | .array _ =>
    match sanitizeObject [] body with
    | .ok () => none
    | .error message =>
      some (.object [("error", .string (js "INVALID_INPUT")), ("message", .string message)])
  | _ => none

/-! ### Where a value stands -/

/-- How the walk comes to a value: as an entry of what it walks through, or as an element of an
array that is such an entry. The body itself comes as an element does. -/
inductive Position
  | entry
  | element
  deriving DecidableEq

/-- Where the elements of an array stand. -/
def Position.within : Position → Position
  | entry => element
  | element => entry

/-- `Stands p v q w`: in `v`, which stands at `p`, stands `w` at `q`. -/
inductive Stands : Position → JsValue → Position → JsValue → Prop
  | here {p : Position} {v : JsValue} : Stands p v p v
  | field {p q : Position} {key : String} {v w : JsValue} {fields : List (String × JsValue)} :
      (key, v) ∈ fields → Stands .entry v q w → Stands p (.object fields) q w
  | item {p q : Position} {v w : JsValue} {items : List JsValue} :
      v ∈ items → Stands p.within v q w → Stands p (.array items) q w

/-- No dangerous pattern, and not too long. -/
def SafeText (s : Text) : Prop :=
  (∀ pattern ∈ DANGEROUS_PATTERNS, ¬ pattern.Occurs s) ∧ s.length ≤ 10240

/-- No forbidden key. -/
def SafeKeys (fields : List (String × JsValue)) : Prop :=
  ∀ f ∈ fields, js f.1 ∉ FORBIDDEN_KEYS

/-- What the hook is meant to ensure: nothing anywhere in the body is refused. -/
structure Clean (body : JsValue) : Prop where
  strings : ∀ q s, Stands .element body q (.string s) → SafeText s
  arrays : ∀ q items, Stands .element body q (.array items) → items.length ≤ 1000
  keys : ∀ q fields, Stands .element body q (.object fields) → SafeKeys fields

/-- What the walk checks of a value that stands at `q`. -/
def Checked (q : Position) : JsValue → Prop
  | .string s => q = .entry → SafeText s
  | .array items => q = .entry → items.length ≤ 1000
  | .object fields => SafeKeys fields
  | _ => True

/-- What it has checked of a value at `p` that it has walked through. -/
def Walked (p : Position) (v : JsValue) : Prop := ∀ q w, Stands p v q w → Checked q w

section

variable {p q : Position} {path key : Text} {v w body : JsValue} {items : List JsValue}
  {fields : List (String × JsValue)}

/-- A value in which nothing else stands. -/
theorem walked_of_scalar (h : ∀ q w, Stands p v q w → q = p ∧ w = v) :
    Walked p v ↔ Checked p v := by
  constructor
  · exact fun hwalked => hwalked p v .here
  · intro hchecked q w hstands
    obtain ⟨rfl, rfl⟩ := h q w hstands
    exact hchecked

theorem walked_object :
    Walked p (.object fields) ↔ SafeKeys fields ∧ ∀ f ∈ fields, Walked .entry f.2 := by
  constructor
  · exact fun h => ⟨h p _ .here, fun f hf q w hstands => h q w (.field hf hstands)⟩
  · rintro ⟨hkeys, hfields⟩ q w hstands
    cases hstands with
    | here => exact hkeys
    | field hmem hstands => exact hfields _ hmem q w hstands

theorem walked_array :
    Walked p (.array items) ↔
      (p = .entry → items.length ≤ 1000) ∧ ∀ v ∈ items, Walked p.within v := by
  constructor
  · exact fun h => ⟨h p _ .here, fun v hv q w hstands => h q w (.item hv hstands)⟩
  · rintro ⟨hlength, hitems⟩ q w hstands
    cases hstands with
    | here => exact hlength
    | item hmem hstands => exact hitems _ hmem q w hstands

/-! ### What the walk checks -/

theorem bind_ok_iff {x : Except Text Unit} {y : Unit → Except Text Unit} :
    (x >>= y) = .ok () ↔ x = .ok () ∧ y () = .ok () := by
  cases x with
  | error message => exact ⟨fun h => (nomatch h), fun h => (nomatch h.1)⟩
  | ok u => exact ⟨fun h => ⟨rfl, h⟩, fun h => h.2⟩

theorem sanitizeString_iff {s : Text} : sanitizeString path s = .ok () ↔ SafeText s := by
  have hany : (DANGEROUS_PATTERNS.any fun pattern => pattern.test s) = true ↔
      ∃ pattern ∈ DANGEROUS_PATTERNS, pattern.Occurs s := by
    simp only [List.any_eq_true, Regex.test_iff]
  unfold sanitizeString SafeText
  split_ifs with hdangerous hlong
  · obtain ⟨pattern, hmem, hoccurs⟩ := hany.mp hdangerous
    exact ⟨fun h => (nomatch h), fun h => absurd hoccurs (h.1 pattern hmem)⟩
  · exact ⟨fun h => (nomatch h), fun h => absurd hlong h.2.not_gt⟩
  · exact ⟨fun _ => ⟨fun pattern hmem hoccurs => hdangerous (hany.mpr ⟨pattern, hmem, hoccurs⟩),
      not_lt.mp hlong⟩, fun _ => rfl⟩

theorem sanitizeLength_iff {n : ℕ} : sanitizeLength path n = .ok () ↔ n ≤ 1000 := by
  unfold sanitizeLength
  split_ifs with hlong
  · exact ⟨fun h => (nomatch h), fun h => absurd hlong h.not_gt⟩
  · exact ⟨fun _ => not_lt.mp hlong, fun _ => rfl⟩

theorem sanitizeKey_iff : sanitizeKey path key = .ok () ↔ key ∉ FORBIDDEN_KEYS := by
  unfold sanitizeKey
  split_ifs with hforbidden
  · exact ⟨fun h => (nomatch h), fun h => absurd hforbidden h⟩
  · exact ⟨fun _ => hforbidden, fun _ => rfl⟩

/-- An index is a decimal numeral, so it is not forbidden. -/
theorem natText_safe (n : ℕ) : natText n ∉ FORBIDDEN_KEYS := by
  intro hforbidden
  have hno : ∀ k ∈ FORBIDDEN_KEYS, isDigits k = false := by decide
  exact absurd (isDigits_natText n) (by rw [hno _ hforbidden]; exact Bool.false_ne_true)

theorem scalar_stands (h : ∀ items, v ≠ .array items) (h' : ∀ fields, v ≠ .object fields)
    (hstands : Stands p v q w) : q = p ∧ w = v := by
  cases hstands with
  | here => exact ⟨rfl, rfl⟩
  | field => exact absurd rfl (h' _)
  | item => exact absurd rfl (h _)

mutual

/-- `sanitizeObject` hands on what it is given as an element is. -/
theorem sanitizeObject_iff (path : Text) (v : JsValue) :
    sanitizeObject path v = .ok () ↔ Walked .element v := by
  match v with
  | .object fields => rw [sanitizeObject, sanitizeFields_iff path fields, walked_object]
  | .array items =>
    rw [sanitizeObject, sanitizeItems_iff path 0 items, walked_array]
    simp [Position.within]
  | .undefined | .null | .bool _ | .number _ | .string _ =>
    rw [sanitizeObject, walked_of_scalar fun q w => scalar_stands (by simp) (by simp)]
    · simp [Checked]
    all_goals simp

theorem sanitizeFields_iff (path : Text) (fields : List (String × JsValue)) :
    sanitizeFields path fields = .ok () ↔
      SafeKeys fields ∧ ∀ f ∈ fields, Walked .entry f.2 := by
  match fields with
  | [] => simp [sanitizeFields, SafeKeys]
  | (key, value) :: fields =>
    rw [sanitizeFields, bind_ok_iff, sanitizeEntry_iff path (js key) value,
      sanitizeFields_iff path fields]
    simp only [SafeKeys, List.forall_mem_cons]
    exact and_and_and_comm

theorem sanitizeItems_iff (path : Text) (index : ℕ) (items : List JsValue) :
    sanitizeItems path index items = .ok () ↔ ∀ v ∈ items, Walked .entry v := by
  match items with
  | [] => simp [sanitizeItems]
  | value :: items =>
    rw [sanitizeItems, bind_ok_iff, sanitizeEntry_iff path (natText index) value,
      sanitizeItems_iff path (index + 1) items, List.forall_mem_cons,
      and_iff_right (natText_safe index)]

/-- An entry passes if its key does, and what it holds. -/
theorem sanitizeEntry_iff (path key : Text) (v : JsValue) :
    sanitizeEntry path key v = .ok () ↔ key ∉ FORBIDDEN_KEYS ∧ Walked .entry v := by
  match v with
  | .object fields =>
    rw [sanitizeEntry, bind_ok_iff, sanitizeKey_iff, sanitizeFields_iff (pathTo path key) fields,
      walked_object]
  | .array items =>
    rw [sanitizeEntry, bind_ok_iff, sanitizeKey_iff, bind_ok_iff, sanitizeLength_iff,
      sanitizeElements_iff (pathTo path key) 0 items, walked_array]
    simp [Position.within]
  | .string s =>
    rw [sanitizeEntry, bind_ok_iff, sanitizeKey_iff, sanitizeString_iff,
      walked_of_scalar fun q w => scalar_stands (by simp) (by simp)]
    simp [Checked]
  | .undefined | .null | .bool _ | .number _ =>
    rw [sanitizeEntry, bind_ok_iff, sanitizeKey_iff,
      walked_of_scalar fun q w => scalar_stands (by simp) (by simp)]
    · simp [Checked]
    all_goals simp

theorem sanitizeElements_iff (path : Text) (i : ℕ) (items : List JsValue) :
    sanitizeElements path i items = .ok () ↔ ∀ v ∈ items, Walked .element v := by
  match items with
  | [] => simp [sanitizeElements]
  | value :: items =>
    rw [sanitizeElements, bind_ok_iff, sanitizeObject_iff _ value,
      sanitizeElements_iff path (i + 1) items, List.forall_mem_cons]

end

/-- **What a body that passes has been checked for.** -/
theorem preHandler_iff (body : JsValue) : preHandler body = none ↔ Walked .element body := by
  rw [← sanitizeObject_iff []]
  unfold preHandler
  split
  · cases sanitizeObject [] _ with
    | ok u => simp
    | error message => simp
  · cases sanitizeObject [] _ with
    | ok u => simp
    | error message => simp
  · rename_i hobject harray
    cases body with
    | object fields => exact absurd rfl (hobject fields)
    | array items => exact absurd rfl (harray items)
    | undefined | null | bool | number | string => simp [sanitizeObject]

/-- **Among the bodies that pass, those are clean** in which the strings and the arrays that the
walk comes to as elements are as they should be. -/
theorem clean_iff (hpass : preHandler body = none) :
    Clean body ↔
      (∀ s, Stands .element body .element (.string s) → SafeText s) ∧
        ∀ items, Stands .element body .element (.array items) → items.length ≤ 1000 := by
  have hwalked := (preHandler_iff body).mp hpass
  constructor
  · exact fun h => ⟨h.strings .element, h.arrays .element⟩
  · rintro ⟨hstrings, harrays⟩
    refine ⟨fun q s hstands => ?_, fun q items hstands => ?_, fun q fields => hwalked q _⟩
    · cases q with
      | entry => exact hwalked .entry _ hstands rfl
      | element => exact hstrings s hstands
    · cases q with
      | entry => exact hwalked .entry _ hstands rfl
      | element => exact harrays items hstands

end

/-! ### A script among the elements of an array -/

namespace Example

def script : Text := js "<script>alert(1)</script>"

/-- `{ tags: ['<script>alert(1)</script>'] }` -/
def tagged : JsValue := .object [("tags", .array [.string script])]

/-- `{ tags: ['invoice'] }` -/
def labelled : JsValue := .object [("tags", .array [.string (js "invoice")])]

theorem safeText_invoice : SafeText (js "invoice") := by
  unfold SafeText
  decide +kernel

end Example

theorem clean_iff_labelled : Clean Example.labelled := by
  refine (clean_iff rfl).mpr ⟨fun s hstands => ?_, fun items hstands => ?_⟩
  · cases hstands with
    | field hmem hstands =>
      obtain ⟨rfl, rfl⟩ := Prod.mk.inj (List.mem_singleton.mp hmem)
      cases hstands with
      | item hmem hstands =>
        obtain rfl := List.mem_singleton.mp hmem
        cases hstands
        exact Example.safeText_invoice
  · cases hstands with
    | field hmem hstands =>
      obtain ⟨rfl, rfl⟩ := Prod.mk.inj (List.mem_singleton.mp hmem)
      cases hstands with
      | item hmem hstands =>
        obtain rfl := List.mem_singleton.mp hmem
        cases hstands

/-- A script in an array passes. -/
theorem passes_unclean : preHandler Example.tagged = none ∧ ¬ Clean Example.tagged := by
  refine ⟨rfl, fun h => ?_⟩
  have hsafe : SafeText Example.script := h.strings .element _
    (.field List.mem_cons_self (.item List.mem_cons_self .here))
  exact absurd hsafe (by unfold SafeText; decide +kernel)

end MipitCore.Api
