import MipitCore.Js.Rounding
import MipitCore.Translation.AchFile
import MipitCore.Translation.Mt103Amount
import MipitCore.Translation.Receiver

/-!
# The columns of an entry

The entry of a transaction is read back from the columns of its line, field by field. All
fields but one are cut to their columns. The amount is only padded to its ten, so that an
amount of a hundred million dollars pushes every later field out of its columns.

## Main definitions

* `HoldsEntry` — what the columns of a line hold
* `IsNachaFile` — lines of 94 columns in blocks of ten, one of which holds the entry

## Main results

* `canonicalToAchNacha_fits`, `canonicalToAchNacha_oneLined` — what the encoder writes
* `holdsEntry_iff`
* `isNachaFile_iff`
-/

namespace MipitCore.Translation

open Js Foundation
open CodeUnit (ascii isDigit)

/-- The number of a field of digits. -/
def readDigits (s : Text) : Option Number :=
  if isDigits s = true then some (.fin (digitsValue s)) else none

/-- The type of a record is its first column. -/
def isRecord (type : Char) (line : Text) : Bool := line.head? = some (ascii type)

/-- A text in `n` columns, with blanks after it. -/
def leftJustified (s : Text) (n : ℕ) : Text := Text.padEnd s n (ascii ' ')

/-- The columns of a line hold the entry; absent values are blanks. -/
structure HoldsEntry (line : Text) (ed : AchEntryDetail) : Prop where
  transactionCode : readDigits (columns line 2 3) = some (.fin ed.transactionCode.code)
  routingTransitNumber : columns line 4 12 = ed.routingTransitNumber
  accountNumber : columns line 13 29 = leftJustified ed.accountNumber 17
  amount : readDigits (columns line 30 39) = some ed.amount
  individualIdNumber : columns line 40 54 = leftJustified (ed.individualIdNumber.getD []) 15
  individualName : columns line 55 76 = leftJustified ed.individualName 22
  discretionaryData : columns line 77 78 = leftJustified (ed.discretionaryData.getD []) 2
  addendaRecordIndicator : columns line 79 79 = ed.addendaRecordIndicator
  traceNumber : columns line 80 94 = leftJustified (ed.traceNumber.getD []) 15

/-- Lines of 94 columns in blocks of ten, of which the one of type 6 holds the entry. -/
structure IsNachaFile (lines : List Text) (ed : AchEntryDetail) : Prop where
  width : ∀ line ∈ lines, line.length = 94
  blocks : 10 ∣ lines.length
  entry : ∃ line, lines.filter (isRecord '6') = [line] ∧ HoldsEntry line ed

/-! ### Fields of digits -/

theorem readDigits_eq_some {s : Text} {n : Number} (h : readDigits s = some n) :
    ∃ m : ℕ, n = .fin m ∧ m < 10 ^ s.length := by
  unfold readDigits at h
  split_ifs at h with hs
  exact ⟨digitsValue s, (Option.some.inj h).symm, digitsValue_lt hs⟩

theorem readDigits_natText (m : ℕ) : readDigits (natText m) = some (.fin m) := by
  rw [readDigits, if_pos (isDigits_natText m), digitsValue_natText]

theorem readDigits_counted (m width : ℕ) : readDigits (counted m width) = some (.fin m) := by
  rw [readDigits, counted, if_pos (isDigits_padStart m width), digitsValue_padStart]

/-- A number that is not too long is written with its digits. -/
theorem toText_natCast {m : ℕ} (h : m < 10 ^ 21) : Number.toText (.fin m) = natText m := by
  rcases Nat.eq_zero_or_pos m with rfl | hm
  · decide
  · have hplaces : decimalPlaces (m : ℚ) = some 0 := by
      rw [decimalPlaces, Rat.den_natCast]
      decide
    have hpos : (0 : ℚ) < m := Nat.cast_pos.mpr hm
    have hnum : (m : ℚ).num.toNat = m := by simp
    rw [Number.toText, if_neg hpos.ne', if_neg (not_lt.mpr hpos.le), positiveText, decimal_exact,
      hplaces]
    simp only [hnum, Rat.den_natCast, pow_zero, mul_one, Nat.div_one, layoutDigits, if_true]
    exact if_pos (length_natText_le (by decide) h)

theorem centsText_natCast {m width : ℕ} (h : m < 10 ^ 21) :
    centsText (.fin m) width = counted m width := by
  rw [centsText, toText_natCast h, counted]

theorem length_counted {m width : ℕ} (hwidth : 0 < width) (h : m < 10 ^ width) :
    (counted m width).length = width := by
  have hle := length_natText_le hwidth h
  rw [counted, Text.length_padStart]
  omega

theorem fitted_of_length {s : Text} {n : ℕ} (h : s.length ≤ n) : fitted s n = leftJustified s n := by
  rw [fitted, leftJustified, Text.substring, List.take_of_length_le]
  rw [Text.length_padEnd]
  omega

theorem leftJustified_of_length {s : Text} {n : ℕ} (h : s.length = n) : leftJustified s n = s := by
  rw [leftJustified, Text.padEnd, h, Nat.sub_self, List.replicate_zero, List.append_nil]

/-! ### The line of an entry -/

/-- An entry whose fields have room in their columns, up to the amount. -/
structure AchEntryDetail.HasRoom (ed : AchEntryDetail) : Prop where
  routingTransitNumber : ed.routingTransitNumber.length = 9
  accountNumber : ed.accountNumber.length ≤ 17
  individualIdNumber : FitsIn 15 ed.individualIdNumber
  individualName : ed.individualName.length ≤ 22
  discretionaryData : HasLength 2 ed.discretionaryData
  addendaRecordIndicator : ed.addendaRecordIndicator.length = 1
  traceNumber : ∃ trace, ed.traceNumber = some trace ∧ trace.length = 15

section Entry

variable {ed : AchEntryDetail}

/-- What stands in front of the amount has 29 columns. -/
theorem columns_amount (h : ed.HasRoom) :
    columns (achEntry ed) 30 39 = (centsText ed.amount 10).take 10 := by
  have hcode : (natText ed.transactionCode.code).length = 2 := by
    cases ed.transactionCode <;> decide
  have hsix : (js "6").length = 1 := by decide
  refine columns_record_take (i := 4) rfl ?_ rfl (le_length_centsText _ 10) (by decide)
  simp [Text.substring, h.routingTransitNumber, hcode, hsix]

/-- With an amount of ten digits, all fields are in their columns. -/
theorem holdsEntry_of_lt (h : ed.HasRoom) {m : ℕ} (hamount : ed.amount = .fin m) (hm : m < 10 ^ 10) :
    HoldsEntry (achEntry ed) ed := by
  obtain ⟨trace, htrace, htraceLength⟩ := h.traceNumber
  have hcode : (natText ed.transactionCode.code).length = 2 := by
    cases ed.transactionCode <;> decide
  have hliterals : (js "6").length = 1 ∧ (js "  ").length = 2 := by decide
  have hcents : centsText ed.amount 10 = counted m 10 := by
    rw [hamount]
    exact centsText_natCast (hm.trans (by norm_num))
  -- all that follows the amount is in its columns only because the amount has ten
  have hcentsLength : (centsText ed.amount 10).length = 10 := by
    rw [hcents]
    exact length_counted (by decide) hm
  have hdata : (ed.discretionaryData.getD (js "  ")).length = 2 :=
    h.discretionaryData.getD hliterals.2
  have hid : (ed.individualIdNumber.getD []).length ≤ 15 := by
    cases hid : ed.individualIdNumber with
    | none => exact Nat.zero_le 15
    | some id => exact h.individualIdNumber id hid
  constructor
  case transactionCode =>
    have hread : columns (achEntry ed) 2 3 = natText ed.transactionCode.code :=
      columns_record (i := 1) rfl rfl (by rw [hcode]) (by decide)
    rw [hread, readDigits_natText]
  case routingTransitNumber =>
    have hread : columns (achEntry ed) 4 12 = ed.routingTransitNumber.substring 9 :=
      columns_record (i := 2) rfl (by simp [hcode, hliterals])
        (by simp [Text.substring, h.routingTransitNumber]) (by decide)
    rw [hread, Text.substring, List.take_of_length_le h.routingTransitNumber.le]
  case accountNumber =>
    have hread : columns (achEntry ed) 13 29 = fitted ed.accountNumber 17 :=
      columns_record (i := 3) rfl
        (by simp [hcode, hliterals, Text.substring, h.routingTransitNumber]) (by simp) (by decide)
    rw [hread, fitted_of_length h.accountNumber]
  case amount =>
    rw [columns_amount h, List.take_of_length_le hcentsLength.le, hcents, readDigits_counted,
      hamount]
  case individualIdNumber =>
    have hread : columns (achEntry ed) 40 54 = fitted (ed.individualIdNumber.getD []) 15 :=
      columns_record (i := 5) rfl
        (by simp [hcode, hliterals, Text.substring, h.routingTransitNumber, hcentsLength])
        (by simp) (by decide)
    rw [hread, fitted_of_length hid]
  case individualName =>
    have hread : columns (achEntry ed) 55 76 = fitted ed.individualName 22 :=
      columns_record (i := 6) rfl
        (by simp [hcode, hliterals, Text.substring, h.routingTransitNumber, hcentsLength])
        (by simp) (by decide)
    rw [hread, fitted_of_length h.individualName]
  case discretionaryData =>
    have hread : columns (achEntry ed) 77 78 = ed.discretionaryData.getD (js "  ") :=
      columns_record (i := 7) rfl
        (by simp [hcode, hliterals, Text.substring, h.routingTransitNumber, hcentsLength])
        (by rw [hdata]) (by decide)
    rw [hread]
    cases hsome : ed.discretionaryData with
    | none => decide
    | some data => exact (leftJustified_of_length (h.discretionaryData data hsome)).symm
  case addendaRecordIndicator =>
    exact columns_record (i := 8) rfl
      (by simp [hcode, hliterals, Text.substring, h.routingTransitNumber, hcentsLength, hdata])
      (by rw [h.addendaRecordIndicator]) (by decide)
  case traceNumber =>
    have hread : columns (achEntry ed) 80 94 =
        Text.substring (ed.traceNumber.getD (repeated '0' 15)) 15 :=
      columns_record (i := 9) rfl
        (by simp [hcode, hliterals, Text.substring, h.routingTransitNumber, hcentsLength, hdata,
          h.addendaRecordIndicator])
        (by simp [htrace, Text.substring, htraceLength]) (by decide)
    rw [hread, htrace, Option.getD_some, Option.getD_some, leftJustified_of_length htraceLength,
      Text.substring, List.take_of_length_le htraceLength.le]

/-- **The line of an entry holds it** exactly if its amount has ten digits at most. -/
theorem holdsEntry_iff (h : ed.HasRoom) :
    HoldsEntry (achEntry ed) ed ↔ ∃ m : ℕ, ed.amount = .fin m ∧ m < 10 ^ 10 := by
  constructor
  · intro hholds
    have hread := hholds.amount
    rw [columns_amount h] at hread
    obtain ⟨m, hm, hlt⟩ := readDigits_eq_some hread
    refine ⟨m, hm, hlt.trans_le (Nat.pow_le_pow_right (by decide) ?_)⟩
    exact List.length_take_le _ _
  · rintro ⟨m, hamount, hm⟩
    exact holdsEntry_of_lt h hamount hm

end Entry

/-! ### The records of a file -/

section Records

variable {today : LocalTime} {txn : AchNachaTransaction}

theorem head?_achFileHeader (odfi : AchOdfi) :
    (achFileHeader today odfi).head? = some (ascii '1') := head?_record_cons (by decide)

theorem head?_achBatchHeader (bh : AchBatchHeader) :
    (achBatchHeader bh).head? = some (ascii '5') := head?_record_cons (by decide)

theorem head?_achEntry (ed : AchEntryDetail) : (achEntry ed).head? = some (ascii '6') :=
  head?_record_cons (by decide)

theorem head?_achAddenda (add : AchAddenda) : (achAddenda add).head? = some (ascii '7') :=
  head?_record_cons (by decide)

theorem head?_achBatchControl (bh : AchBatchHeader) (ed : AchEntryDetail) (entryCount : ℕ) :
    (achBatchControl bh ed entryCount).head? = some (ascii '8') := head?_record_cons (by decide)

theorem head?_achFileControl (ed : AchEntryDetail) (blockCount entryCount : ℕ) :
    (achFileControl ed blockCount entryCount).head? = some (ascii '9') :=
  head?_record_cons (by decide)

theorem head?_nines : nines.head? = some (ascii '9') := by decide

/-- The file has one entry. -/
theorem filter_achEntry : (achLines today txn).filter (isRecord '6') = [achEntry txn.entryDetail] := by
  have hnines : isRecord '6' nines = false := by decide
  have haddenda : ((txn.addenda.getD []).map achAddenda).filter (isRecord '6') = [] := by
    refine List.filter_eq_nil_iff.mpr fun line hline => ?_
    obtain ⟨add, -, rfl⟩ := List.mem_map.mp hline
    rw [isRecord, head?_achAddenda]
    decide
  have hfill : ∀ n, (List.replicate n nines).filter (isRecord '6') = [] := fun n =>
    List.filter_eq_nil_iff.mpr fun line hline => by
      rw [(List.mem_replicate.mp hline).2, hnines]
      exact Bool.false_ne_true
  have hunits : ascii '1' ≠ ascii '6' ∧ ascii '5' ≠ ascii '6' ∧ ascii '8' ≠ ascii '6' ∧
      ascii '9' ≠ ascii '6' := by decide
  simp [achLines, fillBlock, List.filter_append, haddenda, hfill, isRecord, head?_achFileHeader,
    head?_achBatchHeader, head?_achEntry, head?_achBatchControl, head?_achFileControl, hunits]

end Records

/-! ### The encoder's transactions -/

section Encoder

variable {fresh : Fresh} {c : CanonicalPacs008}

theorem length_parseAbaAlias (s fallback : Text) : (parseAbaAlias s fallback).1.length = 9 := by
  rw [parseAbaAlias_eq]
  split_ifs with h
  · obtain ⟨rtn, account, rfl, hlength, -⟩ := startsWithRtn_iff.mp h
    rw [take_rtn account hlength, hlength]
  · rfl

theorem length_yymmdd (d : Datetime) : (yymmdd (d.1.slice 0 10)).length = 6 := by
  have hlength := Datetime.length_of_isDateText d.isDateText_take
  rw [List.length_take] at hlength
  simp only [yymmdd, Text.slice, List.length_append, List.length_drop, List.length_take]
  omega

/-- The trace number of an entry starts with the originating institution. -/
def achTraceNum (fresh : Fresh) (c : CanonicalPacs008) : Text :=
  (canonicalToAchNacha fresh c).odfi.routingNumber.substring 8 ++
    counted (fresh.millis % 10000000) 7

theorem canonicalToAchNacha_traceNumber :
    (canonicalToAchNacha fresh c).entryDetail.traceNumber = some (achTraceNum fresh c) := rfl

theorem canonicalToAchNacha_addenda :
    (canonicalToAchNacha fresh c).addenda =
      if c.remittanceInfo.any fun info => info ≠ [] then
        some [⟨js "05", buildAddendaPaymentInfo c, js "0001", achTraceNum fresh c⟩]
      else none := rfl

theorem odfi_canonicalToAchNacha :
    (canonicalToAchNacha fresh c).odfi.routingNumber =
      c.origin.routingNumber.getD (js "000000000") := by
  show c.origin.routingNumber.getD (parseAbaAlias _ _).1 = _
  cases c.origin.routingNumber with
  | some rtn => rfl
  | none => rw [Option.getD_none, Option.getD_none, parseAbaAlias_append (by decide) (by decide)]

theorem length_odfi (h : c.WellFormed) :
    (canonicalToAchNacha fresh c).odfi.routingNumber.length = 9 :=
  odfi_canonicalToAchNacha ▸ h.origin.routingNumber.getD (by decide)

theorem length_achTraceNum (h : c.WellFormed) : (achTraceNum fresh c).length = 15 := by
  have hmillis : fresh.millis % 10000000 < 10 ^ 7 := Nat.mod_lt _ (by decide)
  rw [achTraceNum, List.length_append, Text.substring, List.length_take, length_odfi h,
    length_counted (by decide) hmillis]
  rfl

/-- **What the encoder writes has its widths.** -/
theorem canonicalToAchNacha_fits (h : c.WellFormed) : (canonicalToAchNacha fresh c).Fits where
  odfi := length_odfi h
  serviceClassCode := rfl
  secCode := by
    show (if _ then js "CCD" else js "PPD").length = 3
    split_ifs <;> rfl
  effectiveEntryDate := length_yymmdd c.createdAt
  originatingDfiId := by
    show ((canonicalToAchNacha fresh c).odfi.routingNumber.substring 8).length = 8
    rw [Text.substring, List.length_take, length_odfi h]
    rfl
  routingTransitNumber := by
    show ((parseAbaAlias _ _).1.substring 9).length = 9
    rw [Text.substring, List.length_take, length_parseAbaAlias]
    rfl
  discretionaryData := fun _ hdata => by
    obtain rfl := Option.some.inj hdata
    rfl
  addendaRecordIndicator := by
    show (if _ then js "1" else js "0").length = 1
    split_ifs <;> rfl
  traceNumber := fun trace htrace => by
    rw [canonicalToAchNacha_traceNumber] at htrace
    rw [← Option.some.inj htrace, length_achTraceNum h]
  addenda := fun add hadd => by
    rw [canonicalToAchNacha_addenda] at hadd
    split_ifs at hadd
    · obtain rfl := List.mem_singleton.mp hadd
      exact ⟨rfl, length_achTraceNum h⟩
    · cases hadd

theorem length_padded (s : Text) (n : ℕ) : ((s.substring n).padEnd n (ascii ' ')).length = n := by
  rw [Text.length_padEnd, Text.substring, List.length_take]
  omega

theorem hasRoom_canonicalToAchNacha (h : c.WellFormed) :
    (canonicalToAchNacha fresh c).entryDetail.HasRoom where
  routingTransitNumber := (canonicalToAchNacha_fits h).routingTransitNumber
  accountNumber := (length_padded _ 17).le
  individualIdNumber := fun id hid => by
    obtain ⟨taxId, -, rfl⟩ := Option.map_eq_some_iff.mp hid
    exact List.length_take_le 15 taxId
  individualName := (length_padded _ 22).le
  discretionaryData := (canonicalToAchNacha_fits h).discretionaryData
  addendaRecordIndicator := (canonicalToAchNacha_fits h).addendaRecordIndicator
  traceNumber := ⟨achTraceNum fresh c, rfl, length_achTraceNum h⟩

/-- The texts of a message that the encoder copies. -/
def achTexts (c : CanonicalPacs008) : List Text :=
  [c.origin.routingNumber.getD [], c.debtor.name.getD [], c.purpose, c.alias.value,
    c.creditor.accountId, c.creditor.taxId.getD [], c.creditor.name.getD [],
    c.remittanceInfo.getD [], c.reference]

theorem OneLine.sublist {s r : Text} (h : OneLine s) (hr : r.Sublist s) : OneLine r :=
  fun hmem => h (hr.subset hmem)

theorem stripRailPrefix_sublist (s : Text) : (stripRailPrefix s).Sublist s := by
  unfold stripRailPrefix
  split_ifs
  · exact List.drop_sublist 4 s
  · exact List.drop_sublist 5 s
  · exact List.Sublist.refl s

theorem oneLine_parseAbaAlias {s fallback : Text} (hs : OneLine s) (hfallback : OneLine fallback) :
    OneLine (parseAbaAlias s fallback).1 ∧ OneLine (parseAbaAlias s fallback).2 := by
  rw [parseAbaAlias_eq]
  split_ifs
  · exact ⟨hs.sublist (List.take_sublist 9 s),
      (hs.sublist (List.drop_sublist 10 s)).sublist (stripRailPrefix_sublist _)⟩
  · exact ⟨show OneLine (js "021000021") by decide, hfallback.sublist (stripRailPrefix_sublist _)⟩

theorem oneLine_yymmdd (d : Datetime) : OneLine (yymmdd (d.1.slice 0 10)) := by
  obtain ⟨year, month, day, heq, hyear, -, hmonth, -, hday, -⟩ := exists_dateText d.isDateText_take
  have hslice : OneLine (d.1.slice 0 10) := by
    show OneLine (d.1.take 10)
    rw [heq]
    have hhyphen : OneLine [ascii '-'] := by decide
    exact (oneLine_digits hyear).append (hhyphen.append
      ((oneLine_digits hmonth).append (hhyphen.append (oneLine_digits hday))))
  have hpart : ∀ i j, OneLine (Text.slice (d.1.slice 0 10) i j) := fun i j =>
    hslice.sublist ((List.drop_sublist _ _).trans (List.take_sublist _ _))
  exact ((hpart 2 4).append (hpart 5 7)).append (hpart 8 10)

theorem oneLine_join {parts : List Text} (h : ∀ part ∈ parts, OneLine part) :
    OneLine (Text.join parts (ascii ' ')) := by
  induction parts with
  | nil => exact List.not_mem_nil
  | cons part parts ih =>
    cases parts with
    | nil => simpa [Text.join] using h
    | cons next parts =>
      obtain ⟨hpart, hrest⟩ := List.forall_mem_cons.mp h
      rw [Text.join_cons_cons]
      exact hpart.append (List.not_mem_cons_of_ne_of_not_mem (by decide) (ih hrest))

theorem oneLine_buildAddendaPaymentInfo (hinfo : OneLine (c.remittanceInfo.getD []))
    (hreference : OneLine c.reference) : OneLine (buildAddendaPaymentInfo c) := by
  refine (oneLine_join fun part hpart => ?_).substring 80
  rcases List.mem_append.mp hpart with hinfo' | hreference'
  · have hmem := Option.mem_toList.mp hinfo'
    exact hinfo.of_getD part (Option.filter_eq_some_iff.mp hmem).1
  · split_ifs at hreference'
    · rw [List.mem_singleton.mp hreference']
      exact OneLine.append (by decide) hreference
    · cases hreference'

/-- **What the encoder writes** has no line break that the message has not. -/
theorem canonicalToAchNacha_oneLined (h : ∀ s ∈ achTexts c, OneLine s) :
    (canonicalToAchNacha fresh c).OneLined := by
  simp only [achTexts, List.forall_mem_cons] at h
  obtain ⟨hrouting, hdebtor, hpurpose, halias, haccount, htaxId, hcreditor, hinfo, hreference, -⟩ := h
  obtain ⟨hrtn, hnumber⟩ := oneLine_parseAbaAlias halias haccount
  have hodfi : OneLine (canonicalToAchNacha fresh c).odfi.routingNumber := by
    rw [odfi_canonicalToAchNacha]
    exact OneLine.getD hrouting.of_getD (by decide)
  have htrace : OneLine (achTraceNum fresh c) := (hodfi.substring 8).append (oneLine_counted _ 7)
  have hdate := oneLine_yymmdd c.createdAt
  simp only [AchNachaTransaction.OneLined, AchNachaTransaction.texts, AchBatchHeader.texts,
    AchEntryDetail.texts, List.cons_append, List.forall_mem_cons, List.forall_mem_append,
    List.not_mem_nil, IsEmpty.forall_iff, implies_true, and_true, true_and]
  -- one goal for each text of the batch header, of the entry, and for the addenda
  refine ⟨hodfi, ?_, ?_, ?_, ?_, ?_, ?_, ?_, ?_, ?_, ⟨?_, ?_, ?_, ?_, ?_, ?_, htrace⟩, ?_⟩
  · show OneLine (js "220")
    decide
  · exact ((OneLine.getD hdebtor.of_getD (by decide)).substring 16).padEnd 16
  · refine OneLine.getD (fun t ht => ?_) (by decide)
    obtain ⟨taxId, -, rfl⟩ := Option.map_eq_some_iff.mp ht
    refine OneLine.substring (oneLine_digits (List.all_eq_true.mpr fun unit hunit => ?_)) 10
    exact (List.mem_filter.mp hunit).2
  · show OneLine (if _ then js "CCD" else js "PPD")
    split_ifs <;> decide
  · exact (hpurpose.substring 10).padEnd 10
  · exact hdate
  · exact hdate
  · exact hodfi.substring 8
  · refine OneLine.padStart (oneLine_digits (List.all_eq_true.mpr fun unit hunit => ?_)) 7
    obtain ⟨unit, -, rfl⟩ := List.mem_map.mp hunit
    split_ifs with hdigit
    · exact hdigit
    · decide
  · exact hrtn.substring 9
  · exact (hnumber.substring 17).padEnd 17
  · refine OneLine.getD (fun t ht => ?_) (by decide)
    obtain ⟨taxId, htaxId', rfl⟩ := Option.map_eq_some_iff.mp ht
    exact (htaxId.of_getD taxId htaxId').substring 15
  · exact ((OneLine.getD hcreditor.of_getD (by decide)).substring 22).padEnd 22
  · show OneLine (js "  ")
    decide
  · show OneLine (if _ then js "1" else js "0")
    split_ifs <;> decide
  · intro s hs
    obtain ⟨add, hadd, hs⟩ := List.mem_flatMap.mp hs
    rw [canonicalToAchNacha_addenda] at hadd
    split_ifs at hadd
    · obtain rfl := List.mem_singleton.mp hadd
      have hpayment := oneLine_buildAddendaPaymentInfo hinfo hreference
      have hall : ∀ t ∈ [js "05", buildAddendaPaymentInfo c, js "0001", achTraceNum fresh c],
          OneLine t := by
        simp only [List.forall_mem_cons, hpayment, htrace, List.not_mem_nil, IsEmpty.forall_iff,
          implies_true, and_true, true_and]
        decide
      exact hall s hs
    · cases hadd

end Encoder

/-! ### The file of a payment -/

/-- The amount in cents has ten digits at most: it is below 99 999 999.995. -/
def HasTenDigits (c : CanonicalPacs008) : Prop :=
  ∃ q : ℚ, c.amount.value = .fin q ∧ q * 100 + 1 / 2 < 10 ^ 10

section

variable {today : LocalTime} {fresh : Fresh} {c : CanonicalPacs008} {txn : AchNachaTransaction}

/-- Of a file whose fields have their widths, only the line of the entry is in question. -/
theorem isNachaFile_iff_holdsEntry (hfits : txn.Fits) (hlines : txn.OneLined) :
    IsNachaFile (Text.split (serializeAchNacha today txn) (ascii '\n')) txn.entryDetail ↔
      HoldsEntry (achEntry txn.entryDetail) txn.entryDetail := by
  rw [split_serializeAchNacha hlines]
  constructor
  · rintro ⟨-, -, line, hfilter, hholds⟩
    rw [filter_achEntry] at hfilter
    obtain rfl := (List.cons.inj hfilter).1
    exact hholds
  · intro hholds
    exact ⟨fun line => length_of_mem_achLines hfits, ten_dvd_length_achLines, _, filter_achEntry,
      hholds⟩

theorem hasTenDigits_iff (hpositive : c.amount.value.isPositive = true) :
    (∃ m : ℕ, (c.amount.value.mul (.fin 100)).round = .fin m ∧ m < 10 ^ 10) ↔ HasTenDigits c := by
  unfold HasTenDigits
  cases hvalue : c.amount.value with
  | nan => rw [hvalue] at hpositive; cases hpositive
  | inf negative =>
    refine iff_of_false ?_ fun ⟨_, hq, _⟩ => nomatch hq
    rintro ⟨m, hm, -⟩
    simp [Number.mul, Number.round] at hm
  | fin q =>
    have hq : 0 < q := by simpa [hvalue] using hpositive
    have hfloor : Number.roundHalfUp (q * 100) < 10 ^ 10 ↔ q * 100 + 1 / 2 < 10 ^ 10 := by
      rw [Number.roundHalfUp, Int.floor_lt]
      norm_num
    have hnonneg : 0 ≤ Number.roundHalfUp (q * 100) := Number.roundHalfUp_nonneg (by positivity)
    rw [Number.mul_fin, Number.round_fin]
    constructor
    · rintro ⟨m, hm, hlt⟩
      have hcast : Number.roundHalfUp (q * 100) = m := by
        have hrat := Number.fin.inj hm
        exact_mod_cast hrat
      exact ⟨q, rfl, hfloor.mp (by omega)⟩
    · rintro ⟨q', hq', hlt⟩
      obtain rfl := Number.fin.inj hq'
      refine ⟨(Number.roundHalfUp (q * 100)).toNat, ?_, by have := hfloor.mpr hlt; omega⟩
      congr 1
      exact_mod_cast (Int.toNat_of_nonneg hnonneg).symm

/-- **The file of a payment** has lines of 94 columns in blocks of ten, and holds the entry exactly
if the amount in cents has ten digits at most. -/
theorem isNachaFile_iff (h : c.SchemaValid) (hlines : ∀ s ∈ achTexts c, OneLine s) :
    IsNachaFile (Text.split (serializeAchNacha today (canonicalToAchNacha fresh c)) (ascii '\n'))
        (canonicalToAchNacha fresh c).entryDetail ↔ HasTenDigits c := by
  have hformed := schemaValid_iff.mp h
  rw [isNachaFile_iff_holdsEntry (canonicalToAchNacha_fits hformed)
    (canonicalToAchNacha_oneLined hlines), holdsEntry_iff (hasRoom_canonicalToAchNacha hformed)]
  exact hasTenDigits_iff hformed.amount.value

end

namespace Example

/-- A day in March. -/
def today : LocalTime := ⟨2026, 2, 13, 9, 30, by decide⟩

end Example

/-- The file of a hundred reais. -/
theorem isNachaFile_inReais :
    IsNachaFile (Text.split (serializeAchNacha Example.today
        (canonicalToAchNacha Example.fresh Example.inReais)) (ascii '\n'))
      (canonicalToAchNacha Example.fresh Example.inReais).entryDetail :=
  (isNachaFile_iff Example.schemaValid_inReais (by decide +kernel)).mpr ⟨100, rfl, by norm_num⟩

namespace Example

/-- A hundred million. -/
def large : CanonicalPacs008 :=
  { inReais with amount := { inReais.amount with value := .fin 100000000 } }

theorem schemaValid_large : large.SchemaValid :=
  schemaValid_iff.mpr { schemaValid_iff.mp schemaValid_inReais with
    amount := ⟨by decide +kernel, by decide, by decide, by decide⟩ }

end Example

/-- A hundred million are read back from the columns of the amount as ten. -/
theorem large_not_held :
    Example.large.SchemaValid ∧ (∀ s ∈ achTexts Example.large, OneLine s) ∧
      (canonicalToAchNacha Example.fresh Example.large).entryDetail.amount = .fin 10000000000 ∧
      readDigits (columns (achEntry (canonicalToAchNacha Example.fresh Example.large).entryDetail)
        30 39) = some (.fin 1000000000) ∧
      ¬ IsNachaFile (Text.split (serializeAchNacha Example.today
          (canonicalToAchNacha Example.fresh Example.large)) (ascii '\n'))
        (canonicalToAchNacha Example.fresh Example.large).entryDetail := by
  have hlines : ∀ s ∈ achTexts Example.large, OneLine s := by decide +kernel
  have hamount : (canonicalToAchNacha Example.fresh Example.large).entryDetail.amount =
      .fin 10000000000 := by decide +kernel
  have hread : readDigits (columns (achEntry
      (canonicalToAchNacha Example.fresh Example.large).entryDetail) 30 39) =
        some (.fin 1000000000) := by
    decide +kernel
  refine ⟨Example.schemaValid_large, hlines, hamount, hread, fun hfile => ?_⟩
  have hformed := schemaValid_iff.mp Example.schemaValid_large
  have hholds := ((isNachaFile_iff_holdsEntry (canonicalToAchNacha_fits hformed)
    (canonicalToAchNacha_oneLined hlines)).mp hfile).amount
  rw [hread, hamount] at hholds
  exact absurd hholds (by decide +kernel)

end MipitCore.Translation
