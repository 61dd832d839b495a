import MipitCore.Translation.Mt103Fields

/-!
# The text of an MT103

What `serializeMt103` writes is a block of fields between two fixed headers and the end of
the block. The decoder reads that block, unless a text in it closes it.

## Main definitions

* `mt103Fields` — the fields of a message

## Main results

* `serializeMt103_eq` — a message is written as the block of its fields
* `messageBody_serializeMt103` — which is what is read, where no field closes the block
-/

namespace MipitCore.Translation

open Js
open CodeUnit (ascii isDigit isUpper isWhite)

/-! ### Fields -/

/-- A field as it is written. -/
def fieldText (f : String × Text) : Text := ascii ':' :: (js f.1 ++ ascii ':' :: f.2)

/-- `:59A:` for an IBAN, `:59:` for another account. -/
def beneficiaryField (beneficiary : SwiftCustomer) : String × Text :=
  match beneficiary.iban.filter (· ≠ []) with
  | some iban => ("59A", Text.trimEnd
      (ascii '/' :: (iban ++ ascii '\n' :: Text.substring (beneficiary.name.getD []) 35)))
  | none => ("59", Text.trimEnd (customerLines 2 beneficiary))

/-- An optional field. -/
def optionalField (tag : String) (text : Option Text) : List (String × Text) :=
  (text.map fun text => (tag, text)).toList

/-- The fields of a message, in the order in which they are written. -/
def mt103Fields (msg : SwiftMt103Message) : List (String × Text) :=
  [("20", msg.transactionRef.substring 16), ("23B", msg.bankOperationCode), ("32A", text32A msg),
    ("50K", Text.trimEnd (customerLines 3 msg.orderingCustomer))] ++
  optionalField "57A" (msg.accountWithInstitution.filter (· ≠ [])) ++
  [beneficiaryField msg.beneficiaryCustomer] ++
  optionalField "70" ((msg.remittanceInfo.filter (· ≠ [])).map splitRemittance) ++
  [("71A", (msg.detailsOfCharges.filter (· ≠ [])).getD (js "SHA"))] ++
  optionalField "72" ((msg.senderToReceiverInfo.filter (· ≠ [])).map fun info : Text => info.substring 35)

theorem beneficiaryField_tag (beneficiary : SwiftCustomer) :
    (beneficiaryField beneficiary).1 = "59A" ∨ (beneficiaryField beneficiary).1 = "59" := by
  unfold beneficiaryField
  split <;> simp

/-- The tags that are written, and those that are read. -/
theorem isTag_of_mem {tag : String}
    (h : tag ∈ ["20", "23B", "32A", "50A", "50K", "57A", "59", "59A", "70", "71A", "72"]) :
    isTag (js tag) = true := by
  have hall : ∀ t ∈ ["20", "23B", "32A", "50A", "50K", "57A", "59", "59A", "70", "71A", "72"],
      isTag (js t) = true := by decide
  exact hall tag h

theorem isTag_mt103Fields {msg : SwiftMt103Message} {f : String × Text} (hf : f ∈ mt103Fields msg) :
    isTag (js f.1) = true := by
  have hoptional : ∀ {tag : String} {text : Option Text}, f ∈ optionalField tag text → f.1 = tag := by
    intro tag text hmem
    obtain ⟨t, -, rfl⟩ := Option.map_eq_some_iff.mp (Option.mem_toList.mp hmem)
    rfl
  refine isTag_of_mem ?_
  simp only [mt103Fields, List.mem_append, List.mem_cons, List.not_mem_nil, or_false] at hf
  rcases hf with ((((((rfl | rfl | rfl | rfl) | hf) | rfl) | hf) | rfl) | hf)
  · simp
  · simp
  · simp
  · simp
  · simp [hoptional hf]
  · rcases beneficiaryField_tag msg.beneficiaryCustomer with h | h <;> simp [h]
  · simp [hoptional hf]
  · simp
  · simp [hoptional hf]

/-! ### Writing -/

theorem fieldText_ne_nil (f : String × Text) : fieldText f ≠ [] := List.cons_ne_nil _ _

/-- What `trim` leaves of a field. -/
theorem trim_fieldText (tag : String) (text : Text) :
    Text.trim (fieldText (tag, text)) = fieldText (tag, Text.trimEnd text) := by
  have hcolon : isWhite (ascii ':') = false := by decide
  rw [Text.trim_eq_trimEnd_of_head (by simpa [fieldText] using hcolon), fieldText,
    ← List.cons_append, Text.trimEnd_append_cons hcolon]
  rfl

theorem filter_written {tag : String} {write : Text → Text} {f : Text → Text}
    (h : ∀ s, write s = fieldText (tag, f s)) (s : Option Text) :
    [written write s].filter (· ≠ []) =
      (optionalField tag ((s.filter (· ≠ [])).map f)).map fieldText := by
  unfold written
  cases s.filter (· ≠ []) with
  | none => rfl
  | some s => simp [optionalField, h, fieldText_ne_nil]

/-- The text before the fields. -/
def mt103Header : Text :=
  js "\x7b1:F01MIPITSIMMXXX0000000000\x7d\x7b2:I103MIPITSIMMXXXN\x7d\x7b4:"

theorem mt103Header_read (r : Text) :
    Text.afterMatch (fun s => s.startsWith (js "\x7b4:")) 3 (mt103Header ++ r) = some r := by
  rfl

/-- A tag between colons begins a field. -/
theorem js_tagged (tag full : String) (h : (tag, full) ∈
    [("20", ":20:"), ("23B", ":23B:"), ("32A", ":32A:"), ("50K", ":50K:"), ("57A", ":57A:"),
      ("59", ":59:"), ("59A", ":59A:"), ("70", ":70:"), ("71A", ":71A:"), ("72", ":72:")])
    (text : Text) : js full ++ text = fieldText (tag, text) := by
  have hall : ∀ p ∈ [("20", ":20:"), ("23B", ":23B:"), ("32A", ":32A:"), ("50K", ":50K:"),
      ("57A", ":57A:"), ("59", ":59:"), ("59A", ":59A:"), ("70", ":70:"), ("71A", ":71A:"),
      ("72", ":72:")], js p.2 = ascii ':' :: (js p.1 ++ [ascii ':']) := by decide
  rw [hall _ h, fieldText]
  simp

/-- What is written for a beneficiary. -/
theorem trim_beneficiary (beneficiary : SwiftCustomer) :
    Text.trim (((beneficiary.iban.filter (· ≠ [])).map fun iban => js ":59A:/" ++
      (iban ++ ascii '\n' :: Text.substring (beneficiary.name.getD []) 35)).getD
        (js ":59:" ++ customerLines 2 beneficiary)) = fieldText (beneficiaryField beneficiary) := by
  unfold beneficiaryField
  cases beneficiary.iban.filter (· ≠ []) with
  | none => rw [Option.map_none, Option.getD_none, js_tagged "59" ":59:" (by simp), trim_fieldText]
  | some iban =>
    have hslash : js ":59A:/" = js ":59A:" ++ [ascii '/'] := by decide
    rw [Option.map_some, Option.getD_some, hslash, List.append_assoc,
      js_tagged "59A" ":59A:" (by simp), trim_fieldText]
    rfl

theorem charges_written (charges : Option Text) :
    ((charges.filter (· ≠ [])).map (js ":71A:" ++ ·)).getD (js ":71A:SHA") =
      fieldText ("71A", (charges.filter (· ≠ [])).getD (js "SHA")) := by
  have hdefault : js ":71A:SHA" = js ":71A:" ++ js "SHA" := by decide
  cases charges.filter (· ≠ []) with
  | none => exact hdefault.trans (js_tagged "71A" ":71A:" (by simp) _)
  | some charges => exact js_tagged "71A" ":71A:" (by simp) _

/-- **A message is written as its fields**, one to a line or more. -/
theorem serializeMt103_eq (msg : SwiftMt103Message) :
    serializeMt103 msg = mt103Header ++ (ascii '\n' ::
      Text.join ((mt103Fields msg).map fieldText) (ascii '\n') ++ js "\n-\x7d") := by
  have hheader : js "\x7b1:F01MIPITSIMMXXX0000000000\x7d\x7b2:I103MIPITSIMMXXXN\x7d\x7b4:\n" =
      mt103Header ++ [ascii '\n'] := by decide
  have h57A := filter_written (f := id) (fun s => js_tagged "57A" ":57A:" (by simp) s)
    msg.accountWithInstitution
  have h70 := filter_written (fun s => js_tagged "70" ":70:" (by simp) (splitRemittance s))
    msg.remittanceInfo
  have h72 := filter_written (fun s => js_tagged "72" ":72:" (by simp) (Text.substring s 35))
    msg.senderToReceiverInfo
  rw [Option.map_id, id] at h57A
  have hkept : ∀ f, [fieldText f].filter (· ≠ []) = [fieldText f] := fun f => by
    simp [fieldText_ne_nil]
  unfold serializeMt103
  change _ ++ Text.join (([_] ++ [_] ++ [_] ++ [_] ++ [written _ _] ++ [_] ++ [written _ _] ++ [_] ++
    [written _ _]).filter (· ≠ [])) _ ++ _ = _
  rw [hheader, js_tagged "20" ":20:" (by simp), js_tagged "23B" ":23B:" (by simp),
    js_tagged "32A" ":32A:" (by simp), js_tagged "50K" ":50K:" (by simp), trim_fieldText,
    trim_beneficiary, charges_written]
  iterate 8 rw [List.filter_append]
  rw [h57A, h70, h72, hkept, hkept, hkept, hkept, hkept, hkept]
  simp only [mt103Fields, List.map_append, List.map_cons, List.append_assoc, List.cons_append,
    List.nil_append]

/-! ### Reading -/

/-- A block closes where one of its texts does. -/
theorem closesBlock_block {fields : List (String × Text)}
    (h : ∀ f ∈ fields, isTag (js f.1) = true ∧ closesBlock f.2 = false) :
    closesBlock (block fields) = false := by
  induction fields with
  | nil => decide
  | cons f fields ih =>
    obtain ⟨tag, text⟩ := f
    obtain ⟨htag, htext⟩ := h (tag, text) List.mem_cons_self
    have hyphen : ascii '-' ∉ ascii ':' :: (js tag ++ [ascii ':']) := by
      have hunits : ascii '-' ∉ js tag := fun hmem =>
        absurd (isTag_unit htag _ hmem) (by decide)
      simp only [List.mem_cons, List.mem_append, List.not_mem_nil, or_false, not_or]
      exact ⟨by decide, hunits, by decide⟩
    have hfield := closesBlock_append hyphen
      (closesBlock_line htext (ih fun g hg => h g (List.mem_cons_of_mem _ hg)))
    rw [block_cons]
    simpa using hfield

theorem block_eq_join {fields : List (String × Text)} (h : fields ≠ []) :
    Text.join (fields.map fieldText) (ascii '\n') ++ [ascii '\n'] = block fields := by
  rw [Text.join_append_singleton _ (by simpa using h), List.flatMap_map]
  simp [block, fieldText]

/-- **What is read is the block**, where no field closes it. -/
theorem messageBody_serializeMt103 {msg : SwiftMt103Message}
    (h : ∀ f ∈ mt103Fields msg, closesBlock f.2 = false) :
    messageBody (serializeMt103 msg) = ascii '\n' :: block (mt103Fields msg) := by
  have hne : mt103Fields msg ≠ [] := by simp [mt103Fields]
  have hblock : closesBlock (block (mt103Fields msg)) = false :=
    closesBlock_block fun f hf => ⟨isTag_mt103Fields hf, h f hf⟩
  have hbody : closesBlock (ascii '\n' ::
      Text.join ((mt103Fields msg).map fieldText) (ascii '\n')) = false := by
    refine closesBlock_line (s := []) (by decide) (closesBlock_of_start ?_ hblock)
    rw [← block_eq_join hne]
    exact List.prefix_append _ _
  rw [serializeMt103_eq, messageBody_block mt103Header_read hbody, List.cons_append,
    block_eq_join hne]

/-- The first field of a tag. -/
def fieldOf (fields : List (String × Text)) (tag : String) : Option Text :=
  (fields.find? fun f => f.1 = tag).map Prod.snd

/-- **Every field is found**, where no field ends before its line does. -/
theorem getField_serializeMt103 {msg : SwiftMt103Message} {tag : String} (htag : isTag (js tag) = true)
    (h : ∀ f ∈ mt103Fields msg, EndFree (ascii ':' :: f.2)) :
    getField (messageBody (serializeMt103 msg)) tag = (fieldOf (mt103Fields msg) tag).map Text.trim := by
  have hclosed : ∀ f ∈ mt103Fields msg, closesBlock f.2 = false := fun f hf =>
    ((h f hf).of_suffix (List.suffix_cons _ _)).closesBlock
  rw [messageBody_serializeMt103 hclosed, getField_line,
    getField_block htag fun f hf => ⟨isTag_mt103Fields hf, h f hf⟩, fieldOf, Option.map_map]
  rfl

section FieldOf

variable {tag tag' : String} {fields fields' : List (String × Text)}

@[simp] theorem fieldOf_nil : fieldOf [] tag = none := rfl

@[simp] theorem fieldOf_cons (f : String × Text) :
    fieldOf (f :: fields) tag = if f.1 = tag then some f.2 else fieldOf fields tag := by
  unfold fieldOf
  rw [List.find?_cons]
  split_ifs <;> simp_all

@[simp] theorem fieldOf_append :
    fieldOf (fields ++ fields') tag = (fieldOf fields tag).or (fieldOf fields' tag) := by
  unfold fieldOf
  rw [List.find?_append, Option.map_or]

@[simp] theorem fieldOf_optionalField (text : Option Text) :
    fieldOf (optionalField tag' text) tag = if tag' = tag then text else none := by
  cases text <;> simp [optionalField]

end FieldOf

end MipitCore.Translation
