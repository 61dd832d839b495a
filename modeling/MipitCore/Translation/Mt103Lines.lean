import MipitCore.Translation.Mt103Text

/-!
# Lines of an MT103

A customer is written in lines, and read by the position of the lines: the first is the
account, the second the name, whatever was written there.

## Main definitions

* `IsLine` — a line in which no field ends
* `lines`, `customerLineList` — lines, and those of a customer

## Main results

* `getMultilineField_lines` — the lines are read as they were written, but for white space
-/

namespace MipitCore.Translation

open Js
open CodeUnit (ascii isDigit isWhite)

/-! ### White space -/

section White

variable {s t : Text}

theorem trimEnd_eq_self_iff : Text.trimEnd s = s ↔ ∀ h : s ≠ [], isWhite (s.getLast h) = false := by
  rw [Text.trimEnd, List.rdropWhile_eq_self_iff]
  simp

/-- The end of a trimmed text is trimmed. -/
theorem trimEnd_of_suffix (hs : Text.trimEnd s = s) (h : t <:+ s) : Text.trimEnd t = t := by
  obtain ⟨r, rfl⟩ := h
  rw [trimEnd_eq_self_iff] at hs ⊢
  intro ht
  have hlast := hs (List.append_ne_nil_of_right_ne_nil r ht)
  rwa [List.getLast_append_of_ne_nil _ ht] at hlast

theorem head_of_trim (hs : Text.trim s = s) : ∀ c ∈ s.head?, isWhite c = false := by
  intro c hc
  cases s with
  | nil => cases hc
  | cons d s =>
    obtain rfl := Option.some.inj hc
    by_contra hwhite
    rw [Bool.not_eq_false] at hwhite
    -- a blank in front would be gone
    have hlength := congrArg List.length hs
    rw [Text.trim_eq_trimEnd, List.dropWhile_cons, if_pos hwhite] at hlength
    have hle := (Text.trimEnd_prefix (s.dropWhile isWhite)).length_le
    have hdrop := (List.dropWhile_suffix (l := s) isWhite).length_le
    simp only [List.length_cons] at hlength
    omega

theorem trimEnd_of_trim (hs : Text.trim s = s) : Text.trimEnd s = s := by
  rwa [Text.trim_eq_trimEnd_of_head (head_of_trim hs)] at hs

/-- What begins a text without the white space at its end begins the text. -/
theorem mem_head?_of_trimEnd {c : CodeUnit} (h : c ∈ (Text.trimEnd s).head?) : c ∈ s.head? := by
  obtain ⟨r, hr⟩ := Text.trimEnd_prefix s
  rw [← hr, List.head?_append, Option.mem_def.mp h]
  rfl

theorem trim_trimEnd (hs : ∀ c ∈ s.head?, isWhite c = false) :
    Text.trim (Text.trimEnd s) = Text.trimEnd s := by
  rw [Text.trim_eq_trimEnd_of_head fun c hc => hs c (mem_head?_of_trimEnd hc), Text.trimEnd_trimEnd]

end White

/-! ### Lines -/

/-- A line in which no field ends, not even with a colon before it, and which does not start with
white space. -/
structure IsLine (s : Text) : Prop where
  endFree : EndFree (ascii ':' :: s)
  single : ascii '\n' ∉ s
  head : ∃ c r, s = c :: r ∧ isWhite c = false

/-- Lines, each of which ends in a line break. -/
def lines (ls : List Text) : Text := ls.flatMap fun line => line ++ [ascii '\n']

@[simp] theorem lines_nil : lines [] = [] := rfl

@[simp] theorem lines_cons (line : Text) (ls : List Text) :
    lines (line :: ls) = line ++ ascii '\n' :: lines ls := by
  simp [lines]

theorem lines_append (ls ls' : List Text) : lines (ls ++ ls') = lines ls ++ lines ls' := by
  simp [lines]

section Line

variable {line : Text} {ls : List Text}

/-- The start of a line is a line. -/
theorem IsLine.take (h : IsLine line) (n : ℕ) : IsLine (line.take (n + 1)) := by
  have hbegins := List.take_prefix (n + 1) line
  refine ⟨h.endFree.of_start (List.cons_prefix_cons.mpr ⟨rfl, hbegins⟩), fun hmem => h.single (hbegins.subset hmem), ?_⟩
  obtain ⟨c, r, rfl, hc⟩ := h.head
  exact ⟨c, r.take n, rfl, hc⟩

theorem IsLine.head_not_white (h : IsLine line) : ∀ c ∈ line.head?, isWhite c = false := by
  obtain ⟨c, r, rfl, hc⟩ := h.head
  simpa using hc

theorem IsLine.trim_eq (h : IsLine line) : Text.trim line = Text.trimEnd line :=
  Text.trim_eq_trimEnd_of_head h.head_not_white

theorem IsLine.trim_ne_nil (h : IsLine line) : Text.trim line ≠ [] := by
  rw [h.trim_eq]
  obtain ⟨c, r, rfl, hc⟩ := h.head
  rw [Text.trimEnd_cons hc]
  exact List.cons_ne_nil _ _

theorem endFree_lines (h : ∀ line ∈ ls, IsLine line) : EndFree (ascii ':' :: lines ls) := by
  induction ls with
  | nil => exact (show IsPlain [] by simp [IsPlain]).endFree
  | cons line ls ih =>
    have hrest := ih fun l hl => h l (List.mem_cons_of_mem _ hl)
    rw [lines_cons, ← List.cons_append]
    exact (h line List.mem_cons_self).endFree.line (hrest.of_suffix (List.suffix_cons _ _))

theorem split_of_notMem (h : ascii '\n' ∉ line) : Text.split line (ascii '\n') = [line] := by
  have hafter : Text.afterFirst (ascii '\n') line = none := by
    rw [Text.afterFirst_eq_none_iff, Text.includes, List.contains_eq_mem]
    simpa using h
  have hall : line.takeWhile (· ≠ ascii '\n') = line :=
    List.takeWhile_eq_self_iff.mpr fun c hc => by
      simpa using fun heq : c = ascii '\n' => h (heq ▸ hc)
  rw [Text.split, Text.splitOn_eq_cons, hafter, hall]

/-- Lines are split where they end. -/
theorem split_lines (h : ∀ line ∈ ls, ascii '\n' ∉ line) (r : Text) :
    Text.split (lines ls ++ r) (ascii '\n') = ls ++ Text.split r (ascii '\n') := by
  induction ls with
  | nil => rfl
  | cons line ls ih =>
    rw [lines_cons, List.append_assoc, List.cons_append,
      Text.split_append _ (h line List.mem_cons_self),
      ih fun l hl => h l (List.mem_cons_of_mem _ hl), List.cons_append]

/-- Lines without the white space at their end: only the last line changes. -/
theorem trimEnd_lines (hline : IsLine line) :
    Text.trimEnd (lines (ls ++ [line])) = lines ls ++ Text.trimEnd line := by
  have hne : Text.trimEnd line ≠ [] := by
    rw [← hline.trim_eq]
    exact hline.trim_ne_nil
  have hbreak : Text.trimEnd (line ++ [ascii '\n']) = Text.trimEnd line :=
    Text.trimEnd_append_replicate (by decide) line 1
  rw [lines_append, lines_cons, lines_nil, Text.trimEnd_append (by rwa [hbreak]), hbreak]

theorem head_lines (h : ∀ line ∈ ls, IsLine line) : ∀ c ∈ (lines ls).head?, isWhite c = false := by
  cases ls with
  | nil => simp
  | cons line ls =>
    obtain ⟨c, r, rfl, hc⟩ := (h line List.mem_cons_self).head
    simpa using hc

/-- **Lines are read as they were written**, but for white space at their ends. -/
theorem getMultilineField_lines {body : Text} {tag : String} (hls : ls ≠ [])
    (h : ∀ line ∈ ls, IsLine line)
    (hfield : getField body tag = some (Text.trim (Text.trimEnd (lines ls)))) :
    getMultilineField body tag = ls.map Text.trim := by
  obtain ⟨init, last, rfl⟩ : ∃ init last, ls = init ++ [last] :=
    ⟨_, _, (List.dropLast_append_getLast hls).symm⟩
  have hlast : IsLine last := h last (by simp)
  have hinit : ∀ line ∈ init, IsLine line := fun line hline => h line (by simp [hline])
  have htext : Text.trim (Text.trimEnd (lines (init ++ [last]))) = lines init ++ Text.trimEnd last := by
    rw [trim_trimEnd (head_lines h), trimEnd_lines hlast]
  have hsplit : Text.split (lines init ++ Text.trimEnd last) (ascii '\n') =
      init ++ [Text.trimEnd last] := by
    rw [split_lines fun line hline => (hinit line hline).single, split_of_notMem]
    exact fun hmem => hlast.single ((Text.trimEnd_prefix last).subset hmem)
  have htrim : Text.trim (Text.trimEnd last) = Text.trim last := by
    rw [trim_trimEnd hlast.head_not_white, hlast.trim_eq]
  rw [getMultilineField, hfield, Option.getD_some, htext, hsplit, List.map_append, List.map_singleton,
    htrim, ← List.map_singleton (f := Text.trim), ← List.map_append, List.filter_eq_self]
  intro line hline
  obtain ⟨l, hl, rfl⟩ := List.mem_map.mp hline
  simpa using (h l hl).trim_ne_nil

end Line

/-! ### Customers -/

/-- The lines of a customer, with at most `n` of the address. -/
def customerLineList (n : ℕ) (customer : SwiftCustomer) : List Text :=
  ((customer.account.filter (· ≠ [])).map (ascii '/' :: ·)).toList ++
    (((customer.name.filter (· ≠ [])).map fun name : Text => name.substring 35).toList ++
      ((customer.address.getD []).take n).map fun line => line.substring 35)

theorem lines_toList {s : Option Text} {f : Text → Text} :
    written (fun s => f s ++ [ascii '\n']) s = lines ((s.filter (· ≠ [])).map f).toList := by
  unfold written
  cases s.filter (· ≠ []) <;> simp

theorem customerLines_eq (n : ℕ) (customer : SwiftCustomer) :
    customerLines n customer = lines (customerLineList n customer) := by
  have haddress : ∀ ls : List Text, (ls.flatMap fun line => line.substring 35 ++ [ascii '\n']) =
      lines (ls.map fun line => line.substring 35) := fun ls => by
    rw [lines, List.flatMap_map]
  rw [customerLines, customerLineList, lines_append, lines_append, ← lines_toList, ← lines_toList,
    haddress]
  rfl

end MipitCore.Translation
