import Mathlib.Data.List.Basic
import Mathlib.Tactic.Common

/-!
# Records of fixed width

A record of fixed width is its fields one after the other, cut at the width. Where a
field stands in it depends on the lengths of the fields before it alone. A field of the
length that its columns have is read back from them; of a longer one they hold the
start.

## Main definitions

* `columns` — a part of a line, by columns counted from one
* `record`

## Main results

* `length_record` — a record that is cut has its width
* `columns_record` — a field is read back from its columns
* `columns_record_take` — and a longer one, up to their number
-/

namespace MipitCore.Foundation

variable {α : Type*}

/-- The units of a line from one column to another, both counted from one. -/
def columns (line : List α) (first last : ℕ) : List α := (line.take last).drop (first - 1)

/-- The fields one after the other, cut at the width. -/
def record (width : ℕ) (fields : List (List α)) : List α := fields.flatten.take width

section

variable {width first last n i : ℕ} {fields fields' : List (List α)} {field : List α} {a : α}

theorem length_record (h : width ≤ fields.flatten.length) : (record width fields).length = width := by
  rw [record, List.length_take, Nat.min_eq_left h]

theorem mem_record (h : a ∈ record width fields) : ∃ field ∈ fields, a ∈ field :=
  List.mem_flatten.mp (List.mem_of_mem_take h)

/-- Fields may be joined and cut apart. -/
theorem record_congr (h : fields.flatten = fields'.flatten) : record width fields = record width fields' :=
  congrArg (List.take width) h

theorem length_columns (line : List α) :
    (columns line first last).length = min last line.length - (first - 1) := by
  rw [columns, List.length_drop, List.length_take]

theorem flatten_eq_append_getElem (hfield : fields[i]? = some field) :
    fields.flatten = (fields.take i).flatten ++ (field ++ (fields.drop (i + 1)).flatten) := by
  obtain ⟨hi, rfl⟩ := List.getElem?_eq_some_iff.mp hfield
  conv_lhs => rw [← List.take_append_drop i fields, List.flatten_append]
  rw [List.drop_eq_getElem_cons hi, List.flatten_cons]

/-- **The columns of a field** hold as much of it as they have room for. -/
theorem columns_record_take (hfield : fields[i]? = some field)
    (hfirst : (fields.take i).flatten.length + 1 = first) (hlast : first + n = last + 1)
    (hn : n ≤ field.length) (hwidth : last ≤ width) :
    columns (record width fields) first last = field.take n := by
  -- what stands before the field is dropped, and what stands behind it is not taken
  obtain rfl : last = (fields.take i).flatten.length + n := by omega
  rw [columns, record, List.take_take, Nat.min_eq_left hwidth, flatten_eq_append_getElem hfield,
    ← hfirst, Nat.add_sub_cancel, List.take_length_add_append, List.drop_left,
    List.take_append_of_le_length hn]

/-- **A field is read back from its columns.** -/
theorem columns_record (hfield : fields[i]? = some field)
    (hfirst : (fields.take i).flatten.length + 1 = first) (hlast : first + field.length = last + 1)
    (hwidth : last ≤ width) : columns (record width fields) first last = field := by
  rw [columns_record_take hfield hfirst hlast (Nat.le_refl _) hwidth, List.take_length]

/-- The first field tells what kind of record it is. -/
theorem head?_record_cons (hwidth : 0 < width) :
    (record width ((a :: field) :: fields)).head? = some a := by
  obtain ⟨w, rfl⟩ := Nat.exists_eq_add_of_lt hwidth
  simp [record]

end

end MipitCore.Foundation
