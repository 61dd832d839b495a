import MipitCore.Domain.WellFormed
import MipitCore.Foundation.FixedWidth
import MipitCore.Js.FixedText
import MipitCore.Translation.AchNacha

/-!
# The file of an ACH transaction

A file has a record on each line: a header, the header of a batch, the entry and its
addenda, a control record of the batch and one of the file, and lines of nines until the
number of lines is a multiple of ten. Records are 94 columns wide.

## Main definitions

* `LocalTime` — the time of day that the header of a file tells
* `achFileHeader`, `achBatchHeader`, `achEntry`, `achAddenda`, `achBatchControl`,
  `achFileControl` — the records
* `achLines`, `serializeAchNacha`
* `AchNachaTransaction.Fits` — the fields that are written as they are have their widths

## Main results

* `length_of_mem_achLines` — every line has 94 columns
* `ten_dvd_length_achLines`
* `split_serializeAchNacha` — the lines of a file are its records
-/

namespace MipitCore.Translation

open Js Foundation
open CodeUnit (ascii isDigit)

/-- A time since 1970, as its local parts: the month counts from zero. -/
structure LocalTime where
  year : ℕ
  month : ℕ
  date : ℕ
  hours : ℕ
  minutes : ℕ
  since : 1970 ≤ year

/-- `String(n).padStart(2, '0')` -/
def twoDigits (n : ℕ) : Text := Text.padStart (natText n) 2 (ascii '0')

def LocalTime.fileDate (today : LocalTime) : Text :=
  (natText today.year).drop 2 ++ twoDigits (today.month + 1) ++ twoDigits today.date

def LocalTime.fileTime (today : LocalTime) : Text :=
  twoDigits today.hours ++ twoDigits today.minutes

/-- `c.repeat(n)` -/
def repeated (c : Char) (n : ℕ) : Text := List.replicate n (ascii c)

/-- `s.padEnd(n).substring(0, n)` -/
def fitted (s : Text) (n : ℕ) : Text := Text.substring (Text.padEnd s n (ascii ' ')) n

/-- `String(n).padStart(width, '0')` -/
def counted (n width : ℕ) : Text := Text.padStart (natText n) width (ascii '0')

/-- An amount in cents, with zeros in front. -/
def centsText (amount : Number) (width : ℕ) : Text := Text.padStart amount.toText width (ascii '0')

/-! ### Records -/

/-- Type 1 -/
def achFileHeader (today : LocalTime) (odfi : AchOdfi) : Text := record 94
  [js "101 ", odfi.routingNumber.substring 9, js " ", (repeated '0' 9).substring 10, today.fileDate,
    today.fileTime, js "A094101", fitted (js "MIPIT FI") 23,
    Text.padEnd ((js "MIPIT PoC ACH   ").substring 23) 23 (ascii ' '), js "        1"]

/-- Type 5 -/
def achBatchHeader (bh : AchBatchHeader) : Text := record 94
  [js "5", bh.serviceClassCode, fitted bh.companyName 16, repeated ' ' 20, fitted bh.companyId 10,
    bh.secCode, fitted bh.companyEntryDescription 10,
    (bh.companyDescriptiveDate.map fun date => fitted date 6).getD (js "      "),
    bh.effectiveEntryDate, js "   1", bh.originatingDfiId.substring 8,
    Text.padStart bh.batchNumber 7 (ascii '0')]

/-- Type 6 -/
def achEntry (ed : AchEntryDetail) : Text := record 94
  [js "6", natText ed.transactionCode.code, ed.routingTransitNumber.substring 9,
    fitted ed.accountNumber 17, centsText ed.amount 10, fitted (ed.individualIdNumber.getD []) 15,
    fitted ed.individualName 22, ed.discretionaryData.getD (js "  "), ed.addendaRecordIndicator,
    Text.substring (ed.traceNumber.getD (repeated '0' 15)) 15]

/-- Type 7 -/
def achAddenda (add : AchAddenda) : Text := record 94
  [js "7", add.addendaTypeCode, fitted add.paymentRelatedInfo 80,
    Text.padStart add.addendaSequence 4 (ascii '0'), add.traceNumber.substring 7]

/-- The sum over the routing numbers of the entries, of which there is one. -/
def entryHash (ed : AchEntryDetail) : Text :=
  Text.padStart (ed.routingTransitNumber.substring 8) 10 (ascii '0')

/-- Type 8 -/
def achBatchControl (bh : AchBatchHeader) (ed : AchEntryDetail) (entryCount : ℕ) : Text := record 94
  [js "8", bh.serviceClassCode, counted entryCount 6, entryHash ed, centsText ed.amount 12,
    repeated '0' 12, repeated ' ' 39, bh.originatingDfiId.substring 8,
    Text.padStart bh.batchNumber 7 (ascii '0')]

/-- Type 9 -/
def achFileControl (ed : AchEntryDetail) (blockCount entryCount : ℕ) : Text := record 94
  [js "9000001", counted blockCount 6, counted entryCount 8, entryHash ed, centsText ed.amount 12,
    repeated '0' 12, repeated ' ' 39]

/-! ### Files -/

/-- `'9'.repeat(94)` -/
def nines : Text := repeated '9' 94

/-- `while (lines.length % 10 !== 0) lines.push('9'.repeat(94))` -/
def fillBlock (lines : List Text) : List Text :=
  lines ++ List.replicate ((10 - lines.length % 10) % 10) nines

/-- `Math.ceil(n / 10)` -/
def tenths (n : ℕ) : ℕ := (n + 9) / 10

/-- The lines of a transaction's file. -/
def achLines (today : LocalTime) (txn : AchNachaTransaction) : List Text :=
  let addenda := txn.addenda.getD []
  let entryCount := 1 + addenda.length
  let lines :=
    achFileHeader today txn.odfi :: achBatchHeader txn.batchHeader :: achEntry txn.entryDetail ::
      addenda.map achAddenda ++ [achBatchControl txn.batchHeader txn.entryDetail entryCount]
  -- the lines are counted before the file's own control record and the lines of nines
  let blockCount := tenths (lines.length + 2)
  fillBlock (lines ++ [achFileControl txn.entryDetail blockCount entryCount])

/-- `serializeAchNacha(txn)` -/
def serializeAchNacha (today : LocalTime) (txn : AchNachaTransaction) : Text :=
  Text.join (achLines today txn) (ascii '\n')

/-! ### Widths -/

@[simp] theorem length_repeated (c : Char) (n : ℕ) : (repeated c n).length = n := List.length_replicate

@[simp] theorem length_fitted (s : Text) (n : ℕ) : (fitted s n).length = n := by
  rw [fitted, Text.substring, Text.padEnd, List.length_take, List.length_append,
    List.length_replicate]
  omega

theorem le_length_counted (n width : ℕ) : width ≤ (counted n width).length := by
  rw [counted, Text.length_padStart]
  omega

theorem le_length_centsText (amount : Number) (width : ℕ) :
    width ≤ (centsText amount width).length := by
  rw [centsText, Text.length_padStart]
  omega

theorem length_twoDigits (n : ℕ) : 2 ≤ (twoDigits n).length := le_length_counted n 2

/-- The fields that a transaction's file takes as they are have their widths. -/
structure AchNachaTransaction.Fits (txn : AchNachaTransaction) : Prop where
  odfi : txn.odfi.routingNumber.length = 9
  serviceClassCode : txn.batchHeader.serviceClassCode.length = 3
  secCode : txn.batchHeader.secCode.length = 3
  effectiveEntryDate : txn.batchHeader.effectiveEntryDate.length = 6
  originatingDfiId : txn.batchHeader.originatingDfiId.length = 8
  routingTransitNumber : txn.entryDetail.routingTransitNumber.length = 9
  discretionaryData : HasLength 2 txn.entryDetail.discretionaryData
  addendaRecordIndicator : txn.entryDetail.addendaRecordIndicator.length = 1
  traceNumber : HasLength 15 txn.entryDetail.traceNumber
  addenda : ∀ add ∈ txn.addenda.getD [], add.addendaTypeCode.length = 2 ∧
    add.traceNumber.length = 15

section

variable {today : LocalTime} {txn : AchNachaTransaction}

theorem length_fileDate (today : LocalTime) : 6 ≤ today.fileDate.length := by
  have hyear : 4 ≤ (natText today.year).length := by
    -- three digits write no year from 1000 on
    by_contra hshort
    have hlt := digitsValue_lt (isDigits_natText today.year)
    rw [digitsValue_natText] at hlt
    have hpow : 10 ^ (natText today.year).length ≤ 10 ^ 3 :=
      Nat.pow_le_pow_right (by decide) (by omega)
    have := today.since
    omega
  have hmonth := length_twoDigits (today.month + 1)
  have hdate := length_twoDigits today.date
  simp only [LocalTime.fileDate, List.length_append, List.length_drop]
  omega

theorem length_fileTime (today : LocalTime) : 4 ≤ today.fileTime.length := by
  have hhours := length_twoDigits today.hours
  have hminutes := length_twoDigits today.minutes
  simp only [LocalTime.fileTime, List.length_append]
  omega

/-- The fields of the header of a file have 95 columns, of which the last is cut off. -/
theorem length_achFileHeader (h : txn.Fits) : (achFileHeader today txn.odfi).length = 94 := by
  refine length_record ?_
  have hdate := length_fileDate today
  have htime := length_fileTime today
  have hliterals : (js "101 ").length = 4 ∧ (js " ").length = 1 ∧ (js "A094101").length = 7 ∧
      (js "        1").length = 9 ∧ (js "MIPIT PoC ACH   ").length = 16 := by decide
  simp [Text.substring, h.odfi, hliterals]
  omega

theorem length_achBatchHeader (h : txn.Fits) : (achBatchHeader txn.batchHeader).length = 94 := by
  refine length_record ?_
  have hliterals : (js "5").length = 1 ∧ (js "   1").length = 4 ∧ (js "      ").length = 6 := by
    decide
  have hdate : ((txn.batchHeader.companyDescriptiveDate.map fun date => fitted date 6).getD
      (js "      ")).length = 6 := by
    cases txn.batchHeader.companyDescriptiveDate with
    | none => exact hliterals.2.2
    | some date => exact length_fitted date 6
  have hbatch : 7 ≤ (Text.padStart txn.batchHeader.batchNumber 7 (ascii '0')).length := by
    rw [Text.length_padStart]
    omega
  simp only [List.flatten_cons, List.flatten_nil, List.length_append, List.length_nil, length_fitted,
    length_repeated, hliterals, hdate, h.serviceClassCode, h.secCode, h.effectiveEntryDate,
    Text.substring, List.length_take, h.originatingDfiId]
  omega

theorem length_achEntry (h : txn.Fits) : (achEntry txn.entryDetail).length = 94 := by
  refine length_record ?_
  have hcode : (natText txn.entryDetail.transactionCode.code).length = 2 := by
    cases txn.entryDetail.transactionCode <;> decide
  have hliterals : (js "6").length = 1 ∧ (js "  ").length = 2 := by decide
  have hamount := le_length_centsText txn.entryDetail.amount 10
  have hdata : (txn.entryDetail.discretionaryData.getD (js "  ")).length = 2 :=
    h.discretionaryData.getD hliterals.2
  have htrace : (txn.entryDetail.traceNumber.getD (repeated '0' 15)).length = 15 :=
    h.traceNumber.getD (length_repeated '0' 15)
  simp only [List.flatten_cons, List.flatten_nil, List.length_append, List.length_nil, length_fitted,
    hliterals, hcode, hdata, htrace, h.routingTransitNumber, h.addendaRecordIndicator,
    Text.substring, List.length_take]
  omega

theorem length_achAddenda {add : AchAddenda}
    (h : add.addendaTypeCode.length = 2 ∧ add.traceNumber.length = 15) :
    (achAddenda add).length = 94 := by
  refine length_record ?_
  have hliteral : (js "7").length = 1 := by decide
  simp only [List.flatten_cons, List.flatten_nil, List.length_append, List.length_nil, length_fitted,
    hliteral, h, Text.length_padStart, Text.substring, List.length_take]
  omega

theorem length_entryHash (h : txn.entryDetail.routingTransitNumber.length = 9) :
    (entryHash txn.entryDetail).length = 10 := by
  rw [entryHash, Text.length_padStart, Text.substring, List.length_take, h]
  rfl

/-- The fields of the control record of a batch have 98 columns or more. -/
theorem length_achBatchControl (h : txn.Fits) (entryCount : ℕ) :
    (achBatchControl txn.batchHeader txn.entryDetail entryCount).length = 94 := by
  refine length_record ?_
  have hliteral : (js "8").length = 1 := by decide
  have hcount := le_length_counted entryCount 6
  have hamount := le_length_centsText txn.entryDetail.amount 12
  simp only [List.flatten_cons, List.flatten_nil, List.length_append, List.length_nil,
    length_repeated, hliteral, h.serviceClassCode, h.originatingDfiId,
    length_entryHash h.routingTransitNumber,
    Text.length_padStart, Text.substring, List.length_take]
  omega

theorem length_achFileControl (h : txn.Fits) (blockCount entryCount : ℕ) :
    (achFileControl txn.entryDetail blockCount entryCount).length = 94 := by
  refine length_record ?_
  have hliteral : (js "9000001").length = 7 := by decide
  have hblocks := le_length_counted blockCount 6
  have hcount := le_length_counted entryCount 8
  have hamount := le_length_centsText txn.entryDetail.amount 12
  simp only [List.flatten_cons, List.flatten_nil, List.length_append, List.length_nil,
    length_repeated, hliteral, length_entryHash h.routingTransitNumber]
  omega

theorem mem_fillBlock {lines : List Text} {line : Text} (h : line ∈ fillBlock lines) :
    line ∈ lines ∨ line = nines :=
  (List.mem_append.mp h).imp_right fun hfill => (List.mem_replicate.mp hfill).2

theorem ten_dvd_length_fillBlock (lines : List Text) : 10 ∣ (fillBlock lines).length := by
  rw [fillBlock, List.length_append, List.length_replicate]
  omega

/-- **Every line has 94 columns.** -/
theorem length_of_mem_achLines (h : txn.Fits) {line : Text} (hline : line ∈ achLines today txn) :
    line.length = 94 := by
  -- a record, or a line of nines that fills the block
  rcases mem_fillBlock hline with hline | rfl
  · simp only [List.mem_append, List.mem_cons, List.mem_map, List.not_mem_nil, or_false] at hline
    rcases hline with ((rfl | rfl | rfl | ⟨add, hadd, rfl⟩) | rfl) | rfl
    · exact length_achFileHeader h
    · exact length_achBatchHeader h
    · exact length_achEntry h
    · exact length_achAddenda (h.addenda add hadd)
    · exact length_achBatchControl h _
    · exact length_achFileControl h _ _
  · exact length_repeated '9' 94

theorem ten_dvd_length_achLines : 10 ∣ (achLines today txn).length := ten_dvd_length_fillBlock _

/-! ### Lines -/

/-- A text without a line break. -/
def OneLine (s : Text) : Prop := ascii '\n' ∉ s

instance (s : Text) : Decidable (OneLine s) := inferInstanceAs (Decidable (_ ∉ _))

theorem OneLine.substring {s : Text} (h : OneLine s) (n : ℕ) : OneLine (s.substring n) :=
  fun hmem => h (List.mem_of_mem_take hmem)

theorem OneLine.padStart {s : Text} (h : OneLine s) (n : ℕ) : OneLine (s.padStart n (ascii '0')) := by
  intro hmem
  rcases List.mem_append.mp hmem with hzeros | hs
  · exact absurd (List.mem_replicate.mp hzeros).2 (by decide)
  · exact h hs

theorem OneLine.padEnd {s : Text} (h : OneLine s) (n : ℕ) : OneLine (s.padEnd n (ascii ' ')) := by
  intro hmem
  rcases List.mem_append.mp hmem with hs | hblanks
  · exact h hs
  · exact absurd (List.mem_replicate.mp hblanks).2 (by decide)

theorem OneLine.fitted {s : Text} (h : OneLine s) (n : ℕ) : OneLine (fitted s n) :=
  (h.padEnd n).substring n

theorem OneLine.append {s r : Text} (hs : OneLine s) (hr : OneLine r) : OneLine (s ++ r) :=
  fun hmem => (List.mem_append.mp hmem).elim hs hr

theorem OneLine.getD {o : Option Text} {s : Text} (h : ∀ t ∈ o, OneLine t) (hs : OneLine s) :
    OneLine (o.getD s) := by
  cases o with
  | none => exact hs
  | some t => exact h t rfl

theorem oneLine_repeated {c : Char} (hc : ascii c ≠ ascii '\n') (n : ℕ) : OneLine (repeated c n) :=
  fun hmem => hc (List.mem_replicate.mp hmem).2.symm

theorem oneLine_digits {s : Text} (h : isDigits s = true) : OneLine s :=
  fun hmem => absurd (List.all_eq_true.mp h _ hmem) (by decide)

theorem oneLine_natText (n : ℕ) : OneLine (natText n) := oneLine_digits (isDigits_natText n)

/-- No number is written with a line break. -/
theorem oneLine_toText (n : Number) : OneLine n.toText := by
  have hpositive : ∀ q : ℚ, OneLine (positiveText q) := fun q hmem =>
    (mem_positiveText hmem).elim (fun h => absurd h (by decide)) fun h => absurd h (by decide)
  cases n with
  | nan => decide
  | inf negative => cases negative <;> decide
  | fin q =>
    rw [Number.toText]
    split_ifs
    · decide
    · exact List.not_mem_cons_of_ne_of_not_mem (by decide) (hpositive _)
    · exact hpositive q

theorem oneLine_centsText (amount : Number) (width : ℕ) : OneLine (centsText amount width) :=
  (oneLine_toText amount).padStart width

theorem oneLine_counted (n width : ℕ) : OneLine (counted n width) :=
  (oneLine_natText n).padStart width

theorem oneLine_record {width : ℕ} {fields : List Text} (h : ∀ field ∈ fields, OneLine field) :
    OneLine (record width fields) := by
  intro hmem
  obtain ⟨field, hfield, hbreak⟩ := mem_record hmem
  exact h field hfield hbreak

def AchAddenda.texts (add : AchAddenda) : List Text :=
  [add.addendaTypeCode, add.paymentRelatedInfo, add.addendaSequence, add.traceNumber]

def AchBatchHeader.texts (bh : AchBatchHeader) : List Text :=
  [bh.serviceClassCode, bh.companyName, bh.companyId, bh.secCode, bh.companyEntryDescription,
    bh.companyDescriptiveDate.getD [], bh.effectiveEntryDate, bh.originatingDfiId, bh.batchNumber]

def AchEntryDetail.texts (ed : AchEntryDetail) : List Text :=
  [ed.routingTransitNumber, ed.accountNumber, ed.individualIdNumber.getD [], ed.individualName,
    ed.discretionaryData.getD [], ed.addendaRecordIndicator, ed.traceNumber.getD []]

/-- The texts that a transaction's file takes from it. -/
def AchNachaTransaction.texts (txn : AchNachaTransaction) : List Text :=
  txn.odfi.routingNumber :: txn.batchHeader.texts ++ txn.entryDetail.texts ++
    (txn.addenda.getD []).flatMap AchAddenda.texts

/-- No text of the transaction has a line break. -/
def AchNachaTransaction.OneLined (txn : AchNachaTransaction) : Prop := ∀ line ∈ txn.texts, OneLine line

instance (txn : AchNachaTransaction) : Decidable txn.OneLined :=
  inferInstanceAs (Decidable (∀ line ∈ txn.texts, OneLine line))

theorem OneLine.of_getD {o : Option Text} (h : OneLine (o.getD [])) : ∀ t ∈ o, OneLine t :=
  fun t ht => by rwa [Option.mem_def.mp ht, Option.getD_some] at h

theorem oneLine_achFileHeader {odfi : AchOdfi} (h : OneLine odfi.routingNumber) :
    OneLine (achFileHeader today odfi) := by
  refine oneLine_record ?_
  have hdate : OneLine today.fileDate :=
    ((oneLine_digits (isDigits_sublist (List.drop_sublist 2 _) (isDigits_natText _))).append
      (oneLine_counted _ 2)).append (oneLine_counted _ 2)
  have htime : OneLine today.fileTime := (oneLine_counted _ 2).append (oneLine_counted _ 2)
  simp only [List.forall_mem_cons, h.substring, hdate, htime, List.not_mem_nil, IsEmpty.forall_iff,
    implies_true, true_and, and_true]
  decide

theorem oneLine_achBatchHeader {bh : AchBatchHeader} (h : ∀ s ∈ bh.texts, OneLine s) :
    OneLine (achBatchHeader bh) := by
  simp only [AchBatchHeader.texts, List.forall_mem_cons] at h
  obtain ⟨hservice, hname, hid, hsec, hentry, hdescriptive, heffective, hdfi, hbatch, -⟩ := h
  have hdate : OneLine ((bh.companyDescriptiveDate.map fun date => fitted date 6).getD
      (js "      ")) := by
    refine OneLine.getD (fun t ht => ?_) (by decide)
    obtain ⟨date, hdate, rfl⟩ := Option.map_eq_some_iff.mp ht
    exact (hdescriptive.of_getD date hdate).fitted 6
  refine oneLine_record ?_
  simp only [List.forall_mem_cons, hservice, hname.fitted, hid.fitted, hsec, hentry.fitted, hdate,
    heffective, hdfi.substring, hbatch.padStart, List.not_mem_nil, IsEmpty.forall_iff, implies_true,
    true_and, and_true]
  decide

theorem oneLine_achEntry {ed : AchEntryDetail} (h : ∀ s ∈ ed.texts, OneLine s) :
    OneLine (achEntry ed) := by
  simp only [AchEntryDetail.texts, List.forall_mem_cons] at h
  obtain ⟨hrouting, haccount, hid, hname, hdata, hindicator, htrace, -⟩ := h
  have hdata' : OneLine (ed.discretionaryData.getD (js "  ")) := OneLine.getD hdata.of_getD (by decide)
  have htrace' : OneLine (ed.traceNumber.getD (repeated '0' 15)) :=
    OneLine.getD htrace.of_getD (by decide)
  refine oneLine_record ?_
  simp only [List.forall_mem_cons, oneLine_natText, hrouting.substring, haccount.fitted,
    oneLine_centsText, hid.fitted, hname.fitted, hdata', hindicator, htrace'.substring,
    List.not_mem_nil, IsEmpty.forall_iff, implies_true, and_true]
  decide

theorem oneLine_achAddenda {add : AchAddenda} (h : ∀ s ∈ add.texts, OneLine s) :
    OneLine (achAddenda add) := by
  simp only [AchAddenda.texts, List.forall_mem_cons] at h
  obtain ⟨hcode, hinfo, hsequence, htrace, -⟩ := h
  refine oneLine_record ?_
  simp only [List.forall_mem_cons, hcode, hinfo.fitted, hsequence.padStart, htrace.substring,
    List.not_mem_nil, IsEmpty.forall_iff, implies_true, and_true]
  decide

theorem oneLine_achBatchControl {bh : AchBatchHeader} {ed : AchEntryDetail}
    (hbatch : ∀ s ∈ bh.texts, OneLine s) (hentry : ∀ s ∈ ed.texts, OneLine s) (entryCount : ℕ) :
    OneLine (achBatchControl bh ed entryCount) := by
  simp only [AchBatchHeader.texts, List.forall_mem_cons] at hbatch
  obtain ⟨hservice, -, -, -, -, -, -, hdfi, hnumber, -⟩ := hbatch
  have hhash : OneLine (entryHash ed) := ((hentry _ List.mem_cons_self).substring 8).padStart 10
  refine oneLine_record ?_
  simp only [List.forall_mem_cons, hservice, oneLine_counted, hhash, oneLine_centsText,
    hdfi.substring, hnumber.padStart, List.not_mem_nil, IsEmpty.forall_iff, implies_true, true_and,
    and_true]
  decide

theorem oneLine_achFileControl {ed : AchEntryDetail} (hentry : ∀ s ∈ ed.texts, OneLine s)
    (blockCount entryCount : ℕ) : OneLine (achFileControl ed blockCount entryCount) := by
  have hhash : OneLine (entryHash ed) := ((hentry _ List.mem_cons_self).substring 8).padStart 10
  refine oneLine_record ?_
  simp only [List.forall_mem_cons, oneLine_counted, hhash, oneLine_centsText, List.not_mem_nil,
    IsEmpty.forall_iff, implies_true, true_and, and_true]
  decide

theorem oneLine_of_mem_achLines (h : txn.OneLined) {line : Text} (hline : line ∈ achLines today txn) :
    OneLine line := by
  obtain ⟨hodfi, hbatch, hentry, haddenda⟩ : OneLine txn.odfi.routingNumber ∧
      (∀ s ∈ txn.batchHeader.texts, OneLine s) ∧ (∀ s ∈ txn.entryDetail.texts, OneLine s) ∧
        ∀ add ∈ txn.addenda.getD [], ∀ s ∈ add.texts, OneLine s := by
    simp only [AchNachaTransaction.OneLined, AchNachaTransaction.texts, List.cons_append,
      List.forall_mem_cons, List.forall_mem_append] at h
    refine ⟨h.1, h.2.1.1, h.2.1.2, fun add hadd s hs => h.2.2 s ?_⟩
    exact List.mem_flatMap.mpr ⟨add, hadd, hs⟩
  rcases mem_fillBlock hline with hline | rfl
  · simp only [List.mem_append, List.mem_cons, List.mem_map, List.not_mem_nil, or_false] at hline
    rcases hline with ((rfl | rfl | rfl | ⟨add, hadd, rfl⟩) | rfl) | rfl
    · exact oneLine_achFileHeader hodfi
    · exact oneLine_achBatchHeader hbatch
    · exact oneLine_achEntry hentry
    · exact oneLine_achAddenda (haddenda add hadd)
    · exact oneLine_achBatchControl hbatch hentry _
    · exact oneLine_achFileControl hentry _ _
  · exact oneLine_repeated (by decide) 94

/-- **The lines of a file are its records.** -/
theorem split_serializeAchNacha (h : txn.OneLined) :
    Text.split (serializeAchNacha today txn) (ascii '\n') = achLines today txn :=
  List.splitOn_intercalate _ (fun _ hline => oneLine_of_mem_achLines h hline) (List.cons_ne_nil _ _)

end

end MipitCore.Translation
