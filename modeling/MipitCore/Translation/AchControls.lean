import MipitCore.Translation.AchColumns

/-!
# The control records of an ACH file

The control record of a batch repeats what is said in the batch's header and counts and
sums its entries; that of the file repeats the sums. The fields that are written for the
batch take 98 columns, four more than there are, so that the last four digits of the
batch number are cut off and the institution stands four columns to the right of its
place. The amount is written as a sum of debits, whatever the entry is.

## Main definitions

* `AchNachaTransaction.Documented` — the widths that the transaction's type documents
* `ControlsAgree` — the control records agree with the records before them

## Main results

* `BatchControl` — what the columns of the control record of a batch hold
* `debits_agree_iff`, `credits_agree_iff`, `blocks_agree_iff` — when single fields are right
* `not_controlsAgree` — the institution never is
-/

namespace MipitCore.Translation

open Js Foundation
open CodeUnit (ascii isDigit)

/-- The fields of a transaction have the widths that its type documents with them; it documents none
for the addenda, nor whether there is a trace number. -/
structure AchNachaTransaction.Documented (txn : AchNachaTransaction) : Prop where
  serviceClassCode : txn.batchHeader.serviceClassCode.length = 3
  companyName : txn.batchHeader.companyName.length ≤ 16
  companyId : txn.batchHeader.companyId.length ≤ 10
  secCode : txn.batchHeader.secCode.length = 3
  companyEntryDescription : txn.batchHeader.companyEntryDescription.length ≤ 10
  companyDescriptiveDate : FitsIn 6 txn.batchHeader.companyDescriptiveDate
  effectiveEntryDate : txn.batchHeader.effectiveEntryDate.length = 6
  originatingDfiId : txn.batchHeader.originatingDfiId.length = 8 ∧
    isDigits txn.batchHeader.originatingDfiId = true
  batchNumber : txn.batchHeader.batchNumber.length = 7 ∧
    isDigits txn.batchHeader.batchNumber = true
  routingTransitNumber : txn.entryDetail.routingTransitNumber.length = 9 ∧
    isDigits txn.entryDetail.routingTransitNumber = true
  accountNumber : txn.entryDetail.accountNumber.length ≤ 17
  amount : ∃ cents : ℕ, txn.entryDetail.amount = .fin cents ∧ cents < 10 ^ 10
  individualIdNumber : FitsIn 15 txn.entryDetail.individualIdNumber
  individualName : txn.entryDetail.individualName.length ≤ 22
  discretionaryData : HasLength 2 txn.entryDetail.discretionaryData
  addendaRecordIndicator : txn.entryDetail.addendaRecordIndicator.length = 1
  traceNumber : HasLength 15 txn.entryDetail.traceNumber
  oneLined : txn.OneLined

/-- The sum of the entries of one direction, of which there is one entry. -/
def AchNachaTransaction.total (txn : AchNachaTransaction) (d : AchDirection) : Number :=
  if txn.entryDetail.transactionCode.direction = d then txn.entryDetail.amount else .fin 0

/-- The control records of a batch and of a file agree with the header of the batch, the entries and
the lines of the file. -/
structure Agrees (lines : List Text) (txn : AchNachaTransaction) (header control file : Text) :
    Prop where
  count : readDigits (columns control 5 10) =
    some (.fin (lines.countP fun line => isRecord '6' line || isRecord '7' line))
  serviceClass : columns control 2 4 = columns header 2 4
  originatingDfiId : columns control 80 87 = columns header 80 87
  batchNumber : columns control 88 94 = columns header 88 94
  debits : readDigits (columns control 21 32) = some (txn.total .debit)
  credits : readDigits (columns control 33 44) = some (txn.total .credit)
  fileCount : readDigits (columns file 14 21) = readDigits (columns control 5 10)
  fileHash : columns file 22 31 = columns control 11 20
  fileDebits : columns file 32 43 = columns control 21 32
  fileCredits : columns file 44 55 = columns control 33 44
  blocks : readDigits (columns file 8 13) = some (.fin ((lines.length / 10 : ℕ) : ℚ))

/-- The control records of the lines agree with the records before them; lines of nines follow the
control record of the file. -/
def ControlsAgree (lines : List Text) (txn : AchNachaTransaction) : Prop :=
  ∃ header control file, lines.filter (isRecord '5') = [header] ∧
    lines.filter (isRecord '8') = [control] ∧ lines.find? (isRecord '9') = some file ∧
      Agrees lines txn header control file

section

variable {today : LocalTime} {txn : AchNachaTransaction}

/-! ### The records that are found -/

/-- How many lines the entry and its addenda take. -/
def entryCountOf (txn : AchNachaTransaction) : ℕ := 1 + (txn.addenda.getD []).length

theorem achLines_eq (today : LocalTime) (txn : AchNachaTransaction) :
    achLines today txn =
      [achFileHeader today txn.odfi, achBatchHeader txn.batchHeader] ++
        (achEntry txn.entryDetail :: (txn.addenda.getD []).map achAddenda) ++
        ([achBatchControl txn.batchHeader txn.entryDetail (entryCountOf txn)] ++
          achFileControl txn.entryDetail (tenths (entryCountOf txn + 5)) (entryCountOf txn) ::
            List.replicate ((10 - (entryCountOf txn + 4) % 10) % 10) nines) := by
  have hcount : 1 + (txn.addenda.getD []).length = entryCountOf txn := rfl
  simp only [achLines, fillBlock, List.length_append, List.length_cons, List.length_map,
    List.length_nil, hcount]
  -- the blocks are counted before the lines of nines are added
  have hblocks : (txn.addenda.getD []).length + 1 + 1 + 1 + (0 + 1) + 2 = entryCountOf txn + 5 := by
    omega
  have hlines : (txn.addenda.getD []).length + 1 + 1 + 1 + (0 + 1) + (0 + 1) =
      entryCountOf txn + 4 := by
    omega
  rw [hblocks, hlines]
  simp only [List.append_assoc, List.cons_append, List.nil_append]

theorem length_achLines :
    (achLines today txn).length = entryCountOf txn + 4 + (10 - (entryCountOf txn + 4) % 10) % 10 := by
  have hcount : 1 + (txn.addenda.getD []).length = entryCountOf txn := rfl
  simp only [achLines_eq, List.length_append, List.length_cons, List.length_map, List.length_nil,
    List.length_replicate]
  omega

theorem filter_achBatchHeader :
    (achLines today txn).filter (isRecord '5') = [achBatchHeader txn.batchHeader] := by
  have hunits : ascii '1' ≠ ascii '5' ∧ ascii '6' ≠ ascii '5' ∧ ascii '7' ≠ ascii '5' ∧
      ascii '8' ≠ ascii '5' ∧ ascii '9' ≠ ascii '5' := by decide
  simp [achLines_eq, List.filter_append, List.filter_map, Function.comp_def, isRecord,
    head?_achFileHeader, head?_achBatchHeader, head?_achEntry, head?_achAddenda,
    head?_achBatchControl, head?_achFileControl, head?_nines, hunits]

theorem filter_achBatchControl :
    (achLines today txn).filter (isRecord '8') =
      [achBatchControl txn.batchHeader txn.entryDetail (entryCountOf txn)] := by
  have hunits : ascii '1' ≠ ascii '8' ∧ ascii '5' ≠ ascii '8' ∧ ascii '6' ≠ ascii '8' ∧
      ascii '7' ≠ ascii '8' ∧ ascii '9' ≠ ascii '8' := by decide
  simp [achLines_eq, List.filter_append, List.filter_map, Function.comp_def, isRecord,
    head?_achFileHeader, head?_achBatchHeader, head?_achEntry, head?_achAddenda,
    head?_achBatchControl, head?_achFileControl, head?_nines, hunits]

theorem countP_achLines :
    (achLines today txn).countP (fun line => isRecord '6' line || isRecord '7' line) =
      entryCountOf txn := by
  have hunits : ascii '1' ≠ ascii '6' ∧ ascii '5' ≠ ascii '6' ∧ ascii '8' ≠ ascii '6' ∧
      ascii '9' ≠ ascii '6' ∧ ascii '1' ≠ ascii '7' ∧ ascii '5' ≠ ascii '7' ∧
        ascii '8' ≠ ascii '7' ∧ ascii '9' ≠ ascii '7' := by decide
  simp [achLines_eq, List.countP_append, List.countP_map, List.countP_replicate, Function.comp_def,
    isRecord, head?_achFileHeader, head?_achBatchHeader, head?_achEntry,
    head?_achAddenda, head?_achBatchControl, head?_achFileControl, head?_nines, hunits, entryCountOf,
    Nat.add_comm]

/-! ### What the records hold -/

/-- What the columns of the control record of a batch hold. -/
structure BatchControl (txn : AchNachaTransaction) (cents : ℕ) (control : Text) : Prop where
  serviceClass : columns control 2 4 = txn.batchHeader.serviceClassCode
  count : columns control 5 10 = counted (entryCountOf txn) 6
  hash : columns control 11 20 = entryHash txn.entryDetail
  debits : columns control 21 32 = counted cents 12
  credits : columns control 33 44 = repeated '0' 12
  /-- The institution is cut short by four blanks before it. -/
  originatingDfiId : columns control 80 87 =
    repeated ' ' 4 ++ txn.batchHeader.originatingDfiId.take 4
  batchNumber : columns control 88 94 =
    txn.batchHeader.originatingDfiId.drop 4 ++ txn.batchHeader.batchNumber.take 3

theorem substring_originatingDfiId (h : txn.Documented) :
    txn.batchHeader.originatingDfiId.substring 8 = txn.batchHeader.originatingDfiId := by
  rw [Text.substring, List.take_of_length_le h.originatingDfiId.1.le]

/-- An amount that fits the entry fits the twelve columns of a sum. -/
theorem centsText_amount {cents : ℕ} (hcents : txn.entryDetail.amount = .fin cents)
    (hlt : cents < 10 ^ 10) :
    centsText txn.entryDetail.amount 12 = counted cents 12 ∧ (counted cents 12).length = 12 := by
  rw [hcents]
  exact ⟨centsText_natCast (hlt.trans (by norm_num)),
    length_counted (by decide) (hlt.trans (by norm_num))⟩

/-- What the columns of the header of a batch hold. -/
theorem columns_achBatchHeader (h : txn.Documented) :
    columns (achBatchHeader txn.batchHeader) 2 4 = txn.batchHeader.serviceClassCode ∧
      columns (achBatchHeader txn.batchHeader) 80 87 = txn.batchHeader.originatingDfiId := by
  have hliterals : (js "5").length = 1 ∧ (js "   1").length = 4 ∧ (js "      ").length = 6 := by
    decide
  have hdate : ((txn.batchHeader.companyDescriptiveDate.map fun date => fitted date 6).getD
      (js "      ")).length = 6 := by
    cases txn.batchHeader.companyDescriptiveDate with
    | none => exact hliterals.2.2
    | some date => exact length_fitted date 6
  have hdfi := substring_originatingDfiId h
  constructor
  · exact columns_record (i := 1) rfl (by simp [hliterals])
      (by rw [h.serviceClassCode]) (by decide)
  · rw [← hdfi]
    refine columns_record (i := 10) rfl ?_ (by rw [hdfi, h.originatingDfiId.1]) (by decide)
    simp [hliterals, hdate, h.serviceClassCode, h.secCode, h.effectiveEntryDate]

theorem batchControl_achBatchControl (h : txn.Documented) {cents : ℕ}
    (hcents : txn.entryDetail.amount = .fin cents) (hlt : cents < 10 ^ 10)
    (hcount : entryCountOf txn < 10 ^ 6) :
    BatchControl txn cents (achBatchControl txn.batchHeader txn.entryDetail (entryCountOf txn)) := by
  have height : (js "8").length = 1 := by decide
  have hcountLength := length_counted (by decide) hcount
  have hhash := length_entryHash h.routingTransitNumber.1
  obtain ⟨hamount, hamountLength⟩ := centsText_amount hcents hlt
  have hservice := h.serviceClassCode
  have hdfi := substring_originatingDfiId h
  have hbatch : Text.padStart txn.batchHeader.batchNumber 7 (ascii '0') =
      txn.batchHeader.batchNumber := padStart_of_length_le h.batchNumber.1.ge
  -- the last fields, taken apart at the places of the institution and of the batch number
  have hparts : achBatchControl txn.batchHeader txn.entryDetail (entryCountOf txn) = record 94
      [js "8", txn.batchHeader.serviceClassCode, counted (entryCountOf txn) 6,
        entryHash txn.entryDetail, counted cents 12, repeated '0' 12, repeated ' ' 35,
        repeated ' ' 4 ++ txn.batchHeader.originatingDfiId.take 4,
        txn.batchHeader.originatingDfiId.drop 4 ++ txn.batchHeader.batchNumber.take 3,
        txn.batchHeader.batchNumber.drop 3] := by
    have hblanks : repeated ' ' 39 = repeated ' ' 35 ++ repeated ' ' 4 := by decide
    refine record_congr ?_
    rw [hamount, hdfi, hbatch, hblanks]
    simp only [List.flatten_cons, List.flatten_nil, List.append_nil, List.append_assoc,
      List.take_append_drop]
    rw [← List.append_assoc (List.take 4 _), List.take_append_drop]
  have htake : (txn.batchHeader.originatingDfiId.take 4).length = 4 := by
    simp [h.originatingDfiId.1]
  have hdrop : (txn.batchHeader.originatingDfiId.drop 4).length = 4 := by
    simp [h.originatingDfiId.1]
  have hnumber : (txn.batchHeader.batchNumber.take 3).length = 3 := by
    simp [h.batchNumber.1]
  rw [hparts]
  constructor
  · exact columns_record (i := 1) rfl (by simp [height]) (by rw [hservice]) (by decide)
  · exact columns_record (i := 2) rfl (by simp [height, hservice]) (by rw [hcountLength]) (by decide)
  · exact columns_record (i := 3) rfl (by simp [height, hservice, hcountLength]) (by rw [hhash])
      (by decide)
  · exact columns_record (i := 4) rfl (by simp [height, hservice, hcountLength, hhash])
      (by rw [hamountLength]) (by decide)
  · exact columns_record (i := 5) rfl
      (by simp [height, hservice, hcountLength, hhash, hamountLength]) (by simp) (by decide)
  · exact columns_record (i := 7) rfl
      (by simp [height, hservice, hcountLength, hhash, hamountLength])
      (by rw [List.length_append, length_repeated, htake]) (by decide)
  · exact columns_record (i := 8) rfl
      (by simp [height, hservice, hcountLength, hhash, hamountLength, htake])
      (by rw [List.length_append, hdrop, hnumber]) (by decide)

/-! ### When they agree -/

/-- A blank is no digit of the institution. -/
theorem blanks_ne_originatingDfiId (h : txn.Documented) :
    repeated ' ' 4 ++ txn.batchHeader.originatingDfiId.take 4 ≠
      txn.batchHeader.originatingDfiId := by
  -- if the two agreed, the institution would start with a blank
  intro heq
  have hdigits := h.originatingDfiId.2
  rw [← heq, isDigits_append] at hdigits
  exact absurd hdigits.1 (by decide)

/-- The records that have to agree are those that the encoder has written. -/
theorem ControlsAgree.agrees (hlines : txn.OneLined)
    (h : ControlsAgree (Text.split (serializeAchNacha today txn) (ascii '\n')) txn) :
    ∃ file, Agrees (achLines today txn) txn (achBatchHeader txn.batchHeader)
      (achBatchControl txn.batchHeader txn.entryDetail (entryCountOf txn)) file := by
  rw [split_serializeAchNacha hlines] at h
  obtain ⟨header, control, file, hheader, hcontrol, -, hagrees⟩ := h
  rw [filter_achBatchHeader] at hheader
  rw [filter_achBatchControl] at hcontrol
  obtain rfl := (List.cons.inj hheader).1
  obtain rfl := (List.cons.inj hcontrol).1
  exact ⟨file, hagrees⟩

/-- **The control records never agree**: the institution stands at the wrong place. -/
theorem not_controlsAgree (h : txn.Documented) :
    ¬ ControlsAgree (Text.split (serializeAchNacha today txn) (ascii '\n')) txn := by
  intro hcontrols
  obtain ⟨file, hagrees⟩ := hcontrols.agrees h.oneLined
  -- a count that is read from six columns has six digits at most
  have hcount : entryCountOf txn < 10 ^ 6 := by
    have hread := hagrees.count
    rw [countP_achLines] at hread
    obtain ⟨n, hn, hlt⟩ := readDigits_eq_some hread
    obtain rfl : entryCountOf txn = n := by exact_mod_cast Number.fin.inj hn
    refine hlt.trans_le (Nat.pow_le_pow_right (by decide) ?_)
    rw [length_columns]
    omega
  -- the institution of the control record starts four columns before its place
  obtain ⟨cents, hcents, hlt⟩ := h.amount
  have hplace := hagrees.originatingDfiId
  rw [(batchControl_achBatchControl h hcents hlt hcount).originatingDfiId,
    (columns_achBatchHeader h).2] at hplace
  exact blanks_ne_originatingDfiId h hplace

/-- Only an entry that takes money, or no money, has its sum among the debits. -/
theorem debits_agree_iff {control : Text} {cents : ℕ} (h : BatchControl txn cents control)
    (hcents : txn.entryDetail.amount = .fin cents) :
    readDigits (columns control 21 32) = some (txn.total .debit) ↔
      txn.entryDetail.transactionCode.direction = .debit ∨ cents = 0 := by
  rw [h.debits, readDigits_counted, AchNachaTransaction.total, hcents]
  split_ifs with hdebit
  · simp [hdebit]
  · simp [hdebit]

/-- The sum of the credits is written as nothing. -/
theorem credits_agree_iff {control : Text} {cents : ℕ} (h : BatchControl txn cents control)
    (hcents : txn.entryDetail.amount = .fin cents) :
    readDigits (columns control 33 44) = some (txn.total .credit) ↔
      txn.entryDetail.transactionCode.direction = .debit ∨ cents = 0 := by
  have hzeros : readDigits (repeated '0' 12) = some (.fin 0) := by decide
  rw [h.credits, hzeros, AchNachaTransaction.total, hcents]
  cases txn.entryDetail.transactionCode.direction with
  | credit => simp [eq_comm]
  | debit => simp

/-- **The blocks are counted** but for a file that fills its last block. -/
theorem blocks_agree_iff :
    tenths (entryCountOf txn + 5) = (achLines today txn).length / 10 ↔
      (entryCountOf txn + 4) % 10 ≠ 0 := by
  rw [length_achLines, tenths]
  omega

/-- The control record of the file repeats that of the batch. -/
theorem fileControl_repeats (h : txn.Documented) {cents : ℕ}
    (hcents : txn.entryDetail.amount = .fin cents) (hlt : cents < 10 ^ 10)
    (hcount : entryCountOf txn < 10 ^ 6) {control file : Text} (hcontrol : BatchControl txn cents control)
    (hfile : file = achFileControl txn.entryDetail (tenths (entryCountOf txn + 5)) (entryCountOf txn)) :
    readDigits (columns file 14 21) = readDigits (columns control 5 10) ∧
      columns file 22 31 = columns control 11 20 ∧ columns file 32 43 = columns control 21 32 ∧
        columns file 44 55 = columns control 33 44 := by
  have hnine : (js "9000001").length = 7 := by decide
  have hblocks : tenths (entryCountOf txn + 5) < 10 ^ 6 := by
    rw [tenths]
    omega
  have hblocksLength := length_counted (by decide) hblocks
  have hcountLength : (counted (entryCountOf txn) 8).length = 8 :=
    length_counted (by decide) (hcount.trans (by norm_num))
  have hhash := length_entryHash h.routingTransitNumber.1
  obtain ⟨hamount, hamountLength⟩ := centsText_amount hcents hlt
  subst hfile
  refine ⟨?_, ?_, ?_, ?_⟩
  · have hread : columns (achFileControl txn.entryDetail (tenths (entryCountOf txn + 5))
        (entryCountOf txn)) 14 21 = counted (entryCountOf txn) 8 :=
      columns_record (i := 2) rfl (by simp [hnine, hblocksLength]) (by rw [hcountLength]) (by decide)
    rw [hread, hcontrol.count, readDigits_counted, readDigits_counted]
  · rw [hcontrol.hash]
    exact columns_record (i := 3) rfl (by simp [hnine, hblocksLength, hcountLength]) (by rw [hhash])
      (by decide)
  · rw [hcontrol.debits, ← hamount]
    exact columns_record (i := 4) rfl (by simp [hnine, hblocksLength, hcountLength, hhash])
      (by rw [hamount, hamountLength]) (by decide)
  · rw [hcontrol.credits]
    exact columns_record (i := 5) rfl
      (by simp [hnine, hblocksLength, hcountLength, hhash, hamount, hamountLength]) (by simp)
      (by decide)

end

namespace Example

/-- The salary with five addenda, which fill a block of ten lines. -/
def explained : AchNachaTransaction :=
  { salary with
    addenda := some (List.replicate 5 ⟨js "05", js "SALARY", js "0001", js "021000020000001"⟩) }

theorem documented_explained : explained.Documented where
  serviceClassCode := by decide
  companyName := by decide
  companyId := by decide
  secCode := by decide
  companyEntryDescription := by decide
  companyDescriptiveDate := by decide
  effectiveEntryDate := by decide
  originatingDfiId := by decide
  batchNumber := by decide
  routingTransitNumber := by decide
  accountNumber := by decide
  amount := ⟨250000, rfl, by norm_num⟩
  individualIdNumber := by decide
  individualName := by decide
  discretionaryData := by decide
  addendaRecordIndicator := by decide
  traceNumber := by decide
  oneLined := by decide +kernel

end Example

theorem not_controlsAgree_explained :
    ¬ ControlsAgree (Text.split (serializeAchNacha Example.today Example.explained) (ascii '\n'))
      Example.explained :=
  not_controlsAgree Example.documented_explained

/-- The control record of a salary has half of the institution, a debit for a credit, and the file's
counts two blocks in ten lines. -/
theorem explained_disagrees :
    Example.explained.Documented ∧
      columns (achBatchControl Example.explained.batchHeader Example.explained.entryDetail 6) 80 87 =
        js "    0210" ∧
      readDigits (columns (achBatchControl Example.explained.batchHeader
        Example.explained.entryDetail 6) 21 32) = some (.fin 250000) ∧
      Example.explained.total .debit = .fin 0 ∧
      (achLines Example.today Example.explained).length = 10 ∧
      readDigits (columns (achFileControl Example.explained.entryDetail 2 6) 8 13) =
        some (.fin 2) ∧
      ¬ ControlsAgree (Text.split (serializeAchNacha Example.today Example.explained) (ascii '\n'))
        Example.explained := by
  have hplace : columns (achBatchControl Example.explained.batchHeader
      Example.explained.entryDetail 6) 80 87 = js "    0210" := by decide +kernel
  refine ⟨Example.documented_explained, hplace, by decide +kernel, by decide +kernel,
    by decide +kernel, by decide +kernel, fun hcontrols => ?_⟩
  obtain ⟨file, hagrees⟩ := hcontrols.agrees Example.documented_explained.oneLined
  have hinstitution := hagrees.originatingDfiId
  have hsix : entryCountOf Example.explained = 6 := rfl
  rw [hsix, hplace] at hinstitution
  exact absurd hinstitution (by decide +kernel)

end MipitCore.Translation
