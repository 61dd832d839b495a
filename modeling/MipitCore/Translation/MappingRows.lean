import MipitCore.Translation.CreditorKey
import MipitCore.Translation.MappingOrder

/-!
# Mapping rows of PIX and SPEI

The rows of a rail are independent if no two have the same source and no target path is
a prefix of another. Then every order of them leads a request to the same canonical
message, or to a `TranslationError` (`mapping_rows_independent`): the loops leave objects
that are alike, and neither the fallback for the creditor's key nor the canonical schema
tells these apart.

## Main definitions

* `IndependentRows`
* `AppliedRow`, `TakesEffect` — what the loop does for each row, and what it leaves alone
* `SameOutcome`

## Main results

* `respects_canonicalPacs008Schema` — the schema does not see the order of properties
* `requestObject_perm`
* `mapping_rows_independent`
-/

namespace MipitCore.Translation

open Js Api JsValue

/-! ### The canonical schema does not see the order of properties -/

section Schemas

open Schema

theorem respects_sttlmInfSchema : Respects sttlmInfSchema := .object fun _ _ h => by
  rw [((respects_enumeration _).default _).field h "sttlmMtd"]

theorem respects_positiveInt : Respects positiveInt := respects_positiveNumber.check _

theorem respects_grpHdrSchema : Respects grpHdrSchema := .object fun _ _ h => by
  rw [respects_string.field h "msgId", (respects_string.refine _).field h "creDtTm",
    (respects_positiveInt.default _).field h "nbOfTxs",
    respects_sttlmInfSchema.optional.field h "sttlmInf"]

theorem respects_pmtIdSchema : Respects pmtIdSchema := .object fun _ _ h => by
  rw [(respects_textUpTo _).field h "endToEndId", (respects_textUpTo _).optional.field h "instrId",
    (respects_textUpTo _).optional.field h "txId"]

theorem respects_amountSchema : Respects amountSchema := .object fun _ _ h => by
  rw [respects_positiveNumber.field h "value", (respects_textOfLength _).field h "currency",
    respects_positiveNumber.optional.field h "instdAmt",
    (respects_textOfLength _).optional.field h "instdAmtCcy"]

theorem respects_fxSchema : Respects fxSchema := .object fun _ _ h => by
  rw [(respects_textOfLength _).optional.field h "source_currency",
    (respects_textOfLength _).optional.field h "target_currency",
    respects_positiveNumber.optional.field h "rate",
    respects_positiveNumber.optional.field h "local_amount"]

theorem respects_agentSchema {ρ : Type} {rail : Schema ρ} (hrail : Respects rail) :
    Respects (agentSchema rail) := .object fun _ _ h => by
  rw [hrail.field h "rail", (respects_textUpTo _).optional.field h "bic",
    (respects_textOfLength _).optional.field h "routingNumber",
    (respects_textOfLength _).optional.field h "ispb",
    (respects_textUpTo _).optional.field h "institutionCode"]

theorem respects_partySchema : Respects partySchema := .object fun _ _ h => by
  rw [(respects_textUpTo _).optional.field h "name",
    (respects_textOfLength _).optional.field h "country", respects_string.field h "account_id",
    respects_string.optional.field h "taxId",
    (respects_enumeration _).optional.field h "accountType",
    respects_string.optional.field h "agencia", respects_string.optional.field h "email",
    respects_string.optional.field h "phone",
    ((respects_array _).check _).optional.field h "address"]

theorem respects_aliasSchema : Respects aliasSchema := .object fun _ _ h => by
  rw [(respects_enumeration _).field h "type", respects_string.field h "value"]

theorem respects_railAckSchema : Respects railAckSchema := .object fun _ _ h => by
  have error : Respects (Schema.object fun e => do
      let code ← Schema.string.field "code" e
      let message ← Schema.string.field "message" e
      return ({ code, message } : RailAckError)) := .object fun _ _ h => by
    rw [respects_string.field h "code", respects_string.field h "message"]
  rw [respects_string.optional.field h "rail_tx_id",
    (respects_enumeration _).optional.field h "status", error.optional.field h "error"]

/-- **The canonical schema does not see the order of properties.** -/
theorem respects_canonicalPacs008Schema : Respects canonicalPacs008Schema :=
  .object fun _ _ h => by
  have origin : Respects (agentSchema (Schema.enumeration railNames)) :=
    respects_agentSchema (respects_enumeration _)
  have destination : Respects (agentSchema (Schema.enumeration railNames).optional) :=
    respects_agentSchema (respects_enumeration _).optional
  rw [(respects_string.check _).field h "payment_id", (respects_string.refine _).field h "created_at",
    respects_grpHdrSchema.field h "grpHdr", respects_pmtIdSchema.field h "pmtId",
    respects_amountSchema.field h "amount", respects_fxSchema.optional.field h "fx",
    origin.field h "origin", destination.field h "destination",
    respects_partySchema.field h "debtor", respects_partySchema.field h "creditor",
    respects_aliasSchema.field h "alias", ((respects_textUpTo _).default _).field h "purpose",
    ((respects_textUpTo _).default _).field h "reference",
    (respects_textUpTo _).optional.field h "remittanceInfo", respects_string.field h "status",
    respects_string.optional.field h "trace_id",
    respects_railAckSchema.nullable.optional.field h "rail_ack"]

end Schemas

/-! ### Decoders of requests -/

theorem rel_bind {α β : Type} {R : β → β → Prop} (o : Option α) {f g : α → Option β}
    (h : ∀ a, Option.Rel R (f a) (g a)) : Option.Rel R (o.bind f) (o.bind g) := by
  cases o with
  | none => exact .none
  | some a => exact h a

/-- A write to objects that are alike. -/
theorem setNested_alike {p : List String} {value v w : JsValue} (h : Alike v w) :
    Option.Rel Alike (setNested p value v) (setNested p value w) := by
  induction p generalizing v w with
  | nil => exact .some h
  | cons key p ih =>
    rcases alike_cases h with ⟨rfl, -⟩ | ⟨fields, fields', rfl, rfl, hfields⟩
    · cases setNested (key :: p) value v with
      | none => exact .none
      | some w => exact .some (.refl w)
    · by_cases hnil : p = []
      · subst hnil
        exact .some (alike_object.mpr (hfields.setField (.refl value) key))
      · have hchild : Alike (childOf key fields) (childOf key fields') := by
          rw [childOf, childOf, (hfields key).1]
          split
          · exact (hfields key).2
          · exact .refl _
        rw [setNested_cons hnil, setNested_cons hnil]
        have hrest := ih hchild
        generalize setNested p value (childOf key fields) = r at hrest ⊢
        generalize setNested p value (childOf key fields') = r' at hrest ⊢
        cases hrest with
        | none => exact .none
        | some hwritten => exact .some (alike_object.mpr (hfields.setField hwritten key))

/-- The fallback for the creditor's key does not see the order of properties. -/
theorem aliasFallback_alike {R : RequestRail} {req v w : JsValue} (h : Alike v w) :
    Option.Rel Alike (aliasFallback R req v) (aliasFallback R req w) := by
  rcases alike_cases h with ⟨rfl, -⟩ | ⟨fields, fields', rfl, rfl, hfields⟩
  · cases aliasFallback R req v with
    | none => exact .none
    | some w => exact .some (.refl w)
  · have halias := (hfields "alias").2
    simp only [aliasFallback, get_object, Option.bind_eq_bind, Option.bind_some, halias.truthy,
      (halias.getOptional "value").truthy]
    split
    · exact .some h
    · exact rel_bind _ fun _ => rel_bind _ fun _ => rel_bind _ fun _ => setNested_alike h

/-! ### Rows of a table -/

/-- Active rows that neither read the same source nor write to the same place, or into it. -/
structure IndependentRows (rows : List MappingEntry) : Prop where
  active : ∀ row ∈ rows, row.isActive = true
  sources : (rows.map MappingEntry.sourceField).Nodup
  targets : rows.Pairwise fun row row' =>
    Incomparable (pathParts row.targetField) (pathParts row'.targetField)
  own : ∀ row ∈ rows, ∀ part ∈ pathParts row.sourceField ++ pathParts row.targetField,
    part ∉ objectPrototype

/-- The entry of the map for a row. -/
def MappingEntry.entry (row : MappingEntry) : String × MappingTransform :=
  (row.sourceField, ⟨row.targetField, row.transformation, row.validationRule⟩)

/-- A source that is not in the map comes last. -/
theorem Mappings.set_of_not_mem {mappings : Mappings} {sourceField : String} {m : MappingTransform}
    (h : sourceField ∉ mappings.map Prod.fst) :
    mappings.set sourceField m = mappings ++ [(sourceField, m)] := by
  induction mappings with
  | nil => rfl
  | cons entry mappings ih =>
    obtain ⟨key, m'⟩ := entry
    rw [List.map_cons, List.mem_cons, not_or] at h
    rw [Mappings.set, if_neg (Ne.symm h.1), ih h.2, List.cons_append]

/-- The map of independent rows has an entry for each of them, in their order. -/
theorem loadMappings_eq {rows : List MappingEntry} (hactive : ∀ row ∈ rows, row.isActive = true)
    (hsources : (rows.map MappingEntry.sourceField).Nodup) :
    loadMappings rows = rows.map MappingEntry.entry := by
  -- the induction is on the rows, for all maps that have none of their sources
  have hload : ∀ mappings : Mappings,
      (∀ row ∈ rows, row.sourceField ∉ mappings.map Prod.fst) →
      rows.foldl (fun mappings row =>
        if row.isActive then
          mappings.set row.sourceField ⟨row.targetField, row.transformation, row.validationRule⟩
        else mappings) mappings = mappings ++ rows.map MappingEntry.entry := by
    induction rows with
    | nil => exact fun mappings _ => (List.append_nil _).symm
    | cons row rows ih =>
      intro mappings hnew
      rw [List.forall_mem_cons] at hactive hnew
      rw [List.map_cons, List.nodup_cons] at hsources
      rw [List.foldl_cons, if_pos hactive.1, Mappings.set_of_not_mem hnew.1,
        ih hactive.2 hsources.2, List.append_assoc, List.map_cons]
      · rfl
      · intro row' hrow'
        rw [List.map_append, List.mem_append, not_or]
        refine ⟨hnew.2 row' hrow', fun hmem => hsources.1 ?_⟩
        have hsource : row'.sourceField = row.sourceField := List.mem_singleton.mp hmem
        rw [← hsource]
        exact List.mem_map_of_mem hrow'
  exact hload [] nofun

theorem IndependentRows.perm {rows rows' : List MappingEntry} (h : IndependentRows rows)
    (hperm : rows.Perm rows') : IndependentRows rows' where
  active row hrow := h.active row (hperm.mem_iff.mpr hrow)
  sources := (hperm.map _).nodup_iff.mp h.sources
  targets := (hperm.pairwise_iff fun h => Incomparable.symm h).mp h.targets
  own row hrow := h.own row (hperm.mem_iff.mpr hrow)

theorem IndependentRows.loadMappings {rows : List MappingEntry} (h : IndependentRows rows) :
    loadMappings rows = rows.map MappingEntry.entry := loadMappings_eq h.active h.sources

theorem IndependentRows.targetsIncomparable {rows : List MappingEntry} (h : IndependentRows rows) :
    TargetsIncomparable (rows.map MappingEntry.entry) := List.pairwise_map.mpr h.targets

/-! ### The objects of requests -/

/-- No array is at the end of any path. -/
def NoArrays (v : JsValue) : Prop := ∀ q, IsNoArray (look q v)

theorem NoArrays.above {v : JsValue} (h : NoArrays v) (p : List String) : Above IsNoArray p v :=
  fun q _ _ => h q

theorem noArrays_object {fields : List (String × JsValue)} (h : ∀ f ∈ fields, NoArrays f.2) :
    NoArrays (.object fields) := by
  have hfield : ∀ key, NoArrays (JsValue.field key fields) := by
    intro key
    induction fields with
    | nil =>
      intro q
      cases q <;> exact nofun
    | cons f fields ih =>
      rw [List.forall_mem_cons] at h
      rw [field_cons]
      split
      · exact h.1
      · exact ih h.2
  intro q
  cases q with
  | nil => exact isNoArray_object fields
  | cons key q =>
    rw [look_cons_object]
    split
    · exact hfield key q
    · exact isNoArray_none

@[simp] theorem noArrays_undefined : NoArrays .undefined := by
  intro q
  cases q <;> exact nofun

@[simp] theorem noArrays_string (s : Text) : NoArrays (.string s) := by
  intro q
  cases q <;> exact nofun

@[simp] theorem noArrays_number (n : Number) : NoArrays (.number n) := by
  intro q
  cases q <;> exact nofun

@[simp] theorem noArrays_ofText? (s : Option Text) : NoArrays (ofText? s) := by
  cases s <;> simp [ofText?]

theorem noArrays_requestFields (R : RequestRail) (engine : Engine) (fresh : Fresh)
    (request : CreatePaymentRequest) (paymentId : Text) (traceId : Option Text) (key : Text) :
    NoArrays (.object (requestFields R engine fresh request paymentId traceId key)) := by
  refine noArrays_object ?_
  simp [requestFields, noArrays_object]

/-- What is at the end of a path of own properties is what `getNestedValue` finds. -/
theorem getNestedValue_of_look {v value : JsValue} {path : String}
    (h : look (pathParts path) v = some value) : getNestedValue v path = value := by
  have hfold : ∀ (p : List String) (v : JsValue), look p v = some value →
      p.foldl nestedProperty v = value := by
    intro p
    induction p with
    | nil => exact fun v h => Option.some.inj h
    | cons key p ih =>
      intro v h
      cases v with
      | object fields =>
        rw [look_cons_object] at h
        split at h
        · exact ih _ h
        · cases h
      | _ => cases h
  exact hfold _ _ h

section Rows

variable {engine : Engine} {fresh : Fresh} {rows rows' : List MappingEntry} {R : RequestRail}
  {paymentId : Text} {traceId : Option Text}

/-- The rows have taken effect: the place of each row that is applied has its value, and what no
applied row writes to, into or around, is as the defaults have it. -/
structure TakesEffect (engine : Engine) (req : JsValue) (rows : List MappingEntry)
    (defaults raw : JsValue) : Prop where
  applied : ∀ row ∈ rows, ∀ value, Applied engine req row.entry value →
    getNestedValue raw row.targetField = value
  unchanged : ∀ path value, look (pathParts path) defaults = some value →
    (∀ row ∈ rows, ∀ value, Applied engine req row.entry value →
      Incomparable (pathParts path) (pathParts row.targetField)) →
    getNestedValue raw path = value

/-- The same canonical message, or a `TranslationError` of the rail both times. -/
def SameOutcome (rail : Rail) (r r' : Except Failure CanonicalPacs008) : Prop :=
  (∃ c, r = .ok c ∧ r' = .ok c) ∨ ∃ message message',
    r = .error (.translation (js rail.name) message) ∧
      r' = .error (.translation (js rail.name) message')

/-- The loop over independent rows, in any order. -/
theorem requestObject_perm (hrows : IndependentRows rows) (hperm : rows.Perm rows')
    (request : CreatePaymentRequest) :
    Option.Rel Alike
      (requestObject R engine fresh (some (loadMappings rows)) request.toValue paymentId traceId)
      (requestObject R engine fresh (some (loadMappings rows')) request.toValue paymentId
        traceId) := by
  simp only [requestObject, Option.bind_eq_bind, Option.bind_some, requestDefaults_toValue,
    hrows.loadMappings, (hrows.perm hperm).loadMappings]
  have hnoArrays := noArrays_requestFields R engine fresh request paymentId traceId []
  have hloop : Option.Rel Alike
      (applyMappings engine (rows.map MappingEntry.entry) request.toValue
        (.object (requestFields R engine fresh request paymentId traceId [])))
      (applyMappings engine (rows'.map MappingEntry.entry) request.toValue
        (.object (requestFields R engine fresh request paymentId traceId []))) :=
    applyMappings_perm (hperm.map MappingEntry.entry) hrows.targetsIncomparable
      fun e _ => hnoArrays.above _
  generalize applyMappings engine (rows.map MappingEntry.entry) request.toValue _ = r at hloop ⊢
  generalize applyMappings engine (rows'.map MappingEntry.entry) request.toValue _ = r' at hloop ⊢
  cases hloop with
  | none => exact .none
  | some h => exact aliasFallback_alike h

theorem sameOutcome_decodeRequest (hrows : IndependentRows rows) (hperm : rows.Perm rows')
    (request : CreatePaymentRequest) :
    SameOutcome R.rail
      (decodeRequest R engine fresh (some (loadMappings rows)) request.toValue paymentId traceId)
      (decodeRequest R engine fresh (some (loadMappings rows')) request.toValue paymentId
        traceId) := by
  have hobject : Option.Rel Alike
      (requestObject R engine fresh (some (loadMappings rows)) request.toValue paymentId traceId)
      (requestObject R engine fresh (some (loadMappings rows')) request.toValue paymentId
        traceId) := requestObject_perm hrows hperm request
  rw [decodeRequest, decodeRequest]
  generalize requestObject R engine fresh (some (loadMappings rows)) _ _ _ = r at hobject ⊢
  generalize requestObject R engine fresh (some (loadMappings rows')) _ _ _ = r' at hobject ⊢
  cases hobject with
  | none => exact Or.inr ⟨_, _, rfl, rfl⟩
  | @some v w h =>
    rw [decoded, decoded, validated, validated, respects_canonicalPacs008Schema v w h]
    cases canonicalPacs008Schema w with
    | none => exact Or.inr ⟨_, _, rfl, rfl⟩
    | some c => exact Or.inl ⟨c, rfl, rfl⟩

/-- The loop over independent rows. -/
theorem takesEffect (hrows : IndependentRows rows) (request : CreatePaymentRequest)
    {defaults raw : JsValue}
    (hdefaults : requestDefaults R engine fresh request.toValue paymentId traceId = some defaults)
    (hraw : applyMappings engine (loadMappings rows) request.toValue defaults = some raw) :
    TakesEffect engine request.toValue rows defaults raw := by
  rw [requestDefaults_toValue] at hdefaults
  obtain rfl := Option.some.inj hdefaults
  rw [hrows.loadMappings] at hraw
  obtain ⟨htarget, -, hother⟩ := applyMappings_spec hrows.targetsIncomparable
    (fun e _ => (noArrays_requestFields R engine fresh request paymentId traceId []).above _) hraw
  refine ⟨fun row hrow value happlied => ?_, fun path value hvalue hpath => ?_⟩
  · exact getNestedValue_of_look (htarget row.entry (List.mem_map_of_mem hrow) value happlied)
  · refine getNestedValue_of_look ((hother _ fun e he value' happlied => ?_).trans hvalue)
    obtain ⟨row, hrow, rfl⟩ := List.mem_map.mp he
    exact hpath row hrow value' happlied

end Rows

/-- **Independent mapping rows take effect in any order.** -/
theorem mapping_rows_independent {engine : Engine} {fresh : Fresh} {rows rows' : List MappingEntry}
    {paymentId : Text} {traceId : Option Text} (hrows : IndependentRows rows)
    (hperm : rows.Perm rows') (request : CreatePaymentRequest) :
    SameOutcome .pix
        (pixToCanonical engine fresh (some (loadMappings rows)) request.toValue paymentId traceId)
        (pixToCanonical engine fresh (some (loadMappings rows')) request.toValue paymentId traceId) ∧
      SameOutcome .spei
        (speiToCanonical engine fresh (some (loadMappings rows)) request.toValue paymentId traceId)
        (speiToCanonical engine fresh (some (loadMappings rows')) request.toValue paymentId
          traceId) ∧
      ∀ R ∈ [pixRequest, speiRequest], ∀ defaults raw,
        requestDefaults R engine fresh request.toValue paymentId traceId = some defaults →
        applyMappings engine (loadMappings rows) request.toValue defaults = some raw →
        TakesEffect engine request.toValue rows defaults raw := by
  refine ⟨?_, ?_, fun R _ defaults raw => takesEffect hrows request⟩
  · rw [pixToCanonical, pixToCanonical, isNativePixPayload_toValue]
    exact sameOutcome_decodeRequest (R := pixRequest) hrows hperm request
  · exact sameOutcome_decodeRequest (R := speiRequest) hrows hperm request

namespace Example

/-- The creditor's key and the account of the debtor. -/
def keyRow : MappingEntry := ⟨"creditor.alias", "alias.value", "strip_pix_prefix", none, true⟩

def accountRow : MappingEntry := ⟨"debtor.alias", "debtor.account_id", "uppercase", none, true⟩

theorem independent_rows : IndependentRows [keyRow, accountRow] where
  active := by decide
  sources := by decide
  targets := by
    simp only [List.pairwise_cons, List.mem_singleton, forall_eq, List.not_mem_nil,
      IsEmpty.forall_iff, implies_true, List.Pairwise.nil, and_true]
    exact ⟨by decide, by decide⟩
  own := by decide

end Example

theorem mapping_rows_independent_swap :
    SameOutcome .pix
      (pixToCanonical Example.passage.engine Example.fresh
        (some (loadMappings [Example.keyRow, Example.accountRow])) Pipeline.Example.request.toValue
        (paymentIdOf Pipeline.Example.ulid) none)
      (pixToCanonical Example.passage.engine Example.fresh
        (some (loadMappings [Example.accountRow, Example.keyRow])) Pipeline.Example.request.toValue
        (paymentIdOf Pipeline.Example.ulid) none) :=
  (mapping_rows_independent Example.independent_rows (List.Perm.swap _ _ _)
    Pipeline.Example.request).1

end MipitCore.Translation
