import Mathlib.Data.List.Basic
import Mathlib.Data.List.DropRight
import Mathlib.Data.List.TakeWhile
import Mathlib.Data.List.Infix

/-!
# JavaScript strings

A JavaScript string is a sequence of UTF-16 code units; its `length`, `slice`
and `substring` count units, and may cut a surrogate pair in two. `Js.Text` is
that sequence. The string methods are the list operations they amount to, and
the character classes are those of the regular expressions without the `u` flag.

## Main definitions

* `Text`, `js` — strings, and the string written by a literal
* `Text.startsWith`, `Text.slice`, `Text.substring`, `Text.trim`, `Text.split`
* `Text.stripPrefix` — `s.startsWith(p) ? s.slice(p.length) : s`
* `CodeUnit.isDigit`, `CodeUnit.isUpper`, … — the classes `\d`, `[A-Z]`, …
* `CaseMapping` — the Unicode case conversions of the host
-/

namespace MipitCore.Js

/-- A UTF-16 code unit. -/
abbrev CodeUnit := UInt16

/-- A JavaScript string. -/
abbrev Text := List CodeUnit

/-- What holds of every unit of a text is decided unit by unit, not for every unit that there is. -/
instance (priority := 2000) (s : Text) (p : CodeUnit → Prop) [DecidablePred p] :
    Decidable (∀ c ∈ s, p c) := List.decidableBAll p s

instance (priority := 2000) (o : Option CodeUnit) (p : CodeUnit → Prop) [DecidablePred p] :
    Decidable (∀ c ∈ o, p c) :=
  match o with
  | none => isTrue fun _ h => nomatch h
  | some c => decidable_of_iff (p c) ⟨fun h _ hd => Option.some.inj hd ▸ h, fun h => h c rfl⟩

/-- The code units of one Unicode character. -/
def unitsOf (c : Char) : Text :=
  if c.toNat < 0x10000 then [c.toNat.toUInt16]
  else
    let v := c.toNat - 0x10000
    [(0xD800 + v / 0x400).toUInt16, (0xDC00 + v % 0x400).toUInt16]

/-- The JavaScript string that a literal denotes. -/
def js (s : String) : Text := s.toList.flatMap unitsOf

namespace CodeUnit

/-- The unit of an ASCII character. -/
def ascii (c : Char) : CodeUnit := c.toNat.toUInt16

/-- `\d` -/
def isDigit (c : CodeUnit) : Bool := 48 ≤ c.toNat && c.toNat ≤ 57

/-- `[A-Z]` -/
def isUpper (c : CodeUnit) : Bool := 65 ≤ c.toNat && c.toNat ≤ 90

/-- `[a-z]` -/
def isLower (c : CodeUnit) : Bool := 97 ≤ c.toNat && c.toNat ≤ 122

/-- `[A-Za-z]`, which is also what `[A-Z]` means under the `i` flag. -/
def isLetter (c : CodeUnit) : Bool := isUpper c || isLower c

/-- White space and line terminators: what `trim` removes, `\s` matches and `parseFloat` skips. -/
def isWhite (c : CodeUnit) : Bool :=
  (9 ≤ c.toNat && c.toNat ≤ 13) || c.toNat == 0x20 || c.toNat == 0xA0 || c.toNat == 0x1680 ||
    (0x2000 ≤ c.toNat && c.toNat ≤ 0x200A) || c.toNat == 0x2028 || c.toNat == 0x2029 ||
    c.toNat == 0x202F || c.toNat == 0x205F || c.toNat == 0x3000 || c.toNat == 0xFEFF

/-- The first half of a surrogate pair. -/
def isHighSurrogate (c : CodeUnit) : Bool := 0xD800 ≤ c.toNat && c.toNat < 0xDC00

/-- The second half of a surrogate pair. -/
def isLowSurrogate (c : CodeUnit) : Bool := 0xDC00 ≤ c.toNat && c.toNat < 0xE000

end CodeUnit

namespace Text

/-- `s.startsWith(p)` -/
def startsWith (s p : Text) : Bool := p.isPrefixOf s

/-- `s.includes(c)` for a one-unit string. -/
def includes (s : Text) (c : CodeUnit) : Bool := s.contains c

/-- `s.slice(a)` and `s.substring(a)` for `0 ≤ a`. -/
def sliceFrom (s : Text) (a : ℕ) : Text := s.drop a

/-- `s.slice(a, b)` and `s.substring(a, b)` for `0 ≤ a ≤ b`. -/
def slice (s : Text) (a b : ℕ) : Text := (s.take b).drop a

/-- `s.substring(0, n)` -/
def substring (s : Text) (n : ℕ) : Text := s.take n

/-- `s.trim()` -/
def trim (s : Text) : Text :=
  ((s.dropWhile CodeUnit.isWhite).reverse.dropWhile CodeUnit.isWhite).reverse

/-- `s.trimEnd()` -/
def trimEnd (s : Text) : Text := s.rdropWhile CodeUnit.isWhite

/-- `s.startsWith(p) ? s.slice(p.length) : s`, which is also `s.replace(/^p/, '')`. -/
def stripPrefix (p s : Text) : Text := if s.startsWith p then s.drop p.length else s

/-- `s.split(c)` for a one-unit separator. -/
def split (s : Text) (c : CodeUnit) : List Text := s.splitOn c

/-- `parts.join(c)` -/
def join (parts : List Text) (c : CodeUnit) : Text := [c].intercalate parts

/-- `s.padStart(n, c)` -/
def padStart (s : Text) (n : ℕ) (c : CodeUnit) : Text := List.replicate (n - s.length) c ++ s

/-- `s.padEnd(n, c)` -/
def padEnd (s : Text) (n : ℕ) (c : CodeUnit) : Text := s ++ List.replicate (n - s.length) c

/-- What follows the first occurrence of `c`, if any. -/
def afterFirst (c : CodeUnit) : Text → Option Text
  | [] => none
  | d :: s => if d = c then some s else afterFirst c s

/-- The units before the first place where `stops` holds of what follows, or all of them: what a lazy
`[\s\S]*?` takes. -/
def takeUntil (stops : Text → Bool) : Text → Text
  | [] => []
  | c :: s => if stops (c :: s) then [] else c :: takeUntil stops s

/-- What is left after the first place where `starts` holds of what follows, and `n` units more. -/
def afterMatch (starts : Text → Bool) (n : ℕ) : Text → Option Text
  | [] => none
  | c :: s => if starts (c :: s) then some ((c :: s).drop n) else afterMatch starts n s

/-- `s.replace(p, q)` for texts: the first occurrence of `p`, if any, is replaced. -/
def replaceFirst (p q : Text) : Text → Text
  | [] => if p = [] then q else []
  | c :: s =>
    if startsWith (c :: s) p then q ++ (c :: s).drop p.length else c :: replaceFirst p q s

theorem startsWith_iff {s p : Text} : s.startsWith p = true ↔ p <+: s := by
  simp [startsWith]

@[simp] theorem startsWith_append (p s : Text) : startsWith (p ++ s) p = true := by
  simp [startsWith]

@[simp] theorem stripPrefix_append (p s : Text) : stripPrefix p (p ++ s) = s := by
  simp [stripPrefix]

theorem stripPrefix_of_not {p s : Text} (h : s.startsWith p = false) : stripPrefix p s = s := by
  simp [stripPrefix, h]

theorem stripPrefix_eq_self_iff {p s : Text} (hp : p ≠ []) :
    stripPrefix p s = s ↔ s.startsWith p = false := by
  constructor
  · intro h
    by_contra hne
    rw [Bool.not_eq_false] at hne
    obtain ⟨r, rfl⟩ := startsWith_iff.mp hne
    rw [stripPrefix_append] at h
    have hlen := congrArg List.length h
    simp only [List.length_append] at hlen
    exact hp (List.length_eq_zero_iff.mp (by omega))
  · exact stripPrefix_of_not

theorem length_stripPrefix_le (p s : Text) : (stripPrefix p s).length ≤ s.length := by
  unfold stripPrefix
  split
  · simp
  · exact le_rfl

@[simp] theorem length_padEnd (s : Text) (n : ℕ) (c : CodeUnit) :
    (padEnd s n c).length = max s.length n := by
  simp only [padEnd, List.length_append, List.length_replicate]
  omega

@[simp] theorem length_padStart (s : Text) (n : ℕ) (c : CodeUnit) :
    (padStart s n c).length = max s.length n := by
  simp only [padStart, List.length_append, List.length_replicate]
  omega

theorem afterMatch_eq_none {starts : Text → Bool} {n : ℕ} {s : Text}
    (h : ∀ c r, c ∈ s → starts (c :: r) = false) : afterMatch starts n s = none := by
  induction s with
  | nil => rfl
  | cons c s ih =>
    rw [afterMatch, h c s List.mem_cons_self, if_neg Bool.false_ne_true,
      ih fun d r hd => h d r (List.mem_cons_of_mem c hd)]

theorem trim_eq_self {s : Text} (h : ∀ c ∈ s, CodeUnit.isWhite c = false) : trim s = s := by
  have hdrop : ∀ t : Text, (∀ c ∈ t, CodeUnit.isWhite c = false) →
      t.dropWhile CodeUnit.isWhite = t := by
    intro t ht
    cases t with
    | nil => rfl
    | cons c t => rw [List.dropWhile_cons, ht c List.mem_cons_self, if_neg Bool.false_ne_true]
  rw [trim, hdrop s h, hdrop s.reverse fun c hc => h c (List.mem_reverse.mp hc),
    List.reverse_reverse]

theorem trim_eq_trimEnd (s : Text) : trim s = trimEnd (s.dropWhile CodeUnit.isWhite) := rfl

/-- Where no white space comes first, only the end is trimmed. -/
theorem trim_eq_trimEnd_of_head {s : Text} (h : ∀ c ∈ s.head?, CodeUnit.isWhite c = false) :
    trim s = trimEnd s := by
  rw [trim_eq_trimEnd]
  cases s with
  | nil => rfl
  | cons c s => rw [List.dropWhile_cons, h c rfl, if_neg Bool.false_ne_true]

theorem trimEnd_append_replicate {c : CodeUnit} (hc : CodeUnit.isWhite c = true) (s : Text) (n : ℕ) :
    trimEnd (s ++ List.replicate n c) = trimEnd s := by
  induction n with
  | zero => rw [List.replicate_zero, List.append_nil]
  | succ n ih =>
    rw [List.replicate_succ', ← List.append_assoc, trimEnd, List.rdropWhile_concat_pos _ _ _ hc]
    exact ih

@[simp] theorem trimEnd_padEnd_space (s : Text) (n : ℕ) :
    trimEnd (padEnd s n (CodeUnit.ascii ' ')) = trimEnd s :=
  trimEnd_append_replicate (by decide) s _

@[simp] theorem trimEnd_trimEnd (s : Text) : trimEnd (trimEnd s) = trimEnd s :=
  List.rdropWhile_idempotent _ _

theorem trimEnd_prefix (s : Text) : trimEnd s <+: s := List.rdropWhile_prefix _ _

theorem trim_prefix_of_head {s : Text} (h : ∀ c ∈ s.head?, CodeUnit.isWhite c = false) :
    trim s <+: s := by
  rw [trim_eq_trimEnd_of_head h]
  exact trimEnd_prefix s

/-- Where the end of a text is not blank, nothing before it is trimmed. -/
theorem trimEnd_append {s r : Text} (h : trimEnd r ≠ []) : trimEnd (s ++ r) = s ++ trimEnd r := by
  have hdrop : (r.reverse.dropWhile CodeUnit.isWhite).isEmpty = false := by
    rw [List.isEmpty_eq_false_iff]
    exact fun hnil => h (by rw [trimEnd, List.rdropWhile, hnil, List.reverse_nil])
  rw [trimEnd, trimEnd, List.rdropWhile, List.rdropWhile, List.reverse_append,
    List.dropWhile_append, hdrop, if_neg Bool.false_ne_true, List.reverse_append,
    List.reverse_reverse]

theorem trimEnd_cons {c : CodeUnit} (hc : CodeUnit.isWhite c = false) (s : Text) :
    trimEnd (c :: s) = c :: trimEnd s := by
  by_cases h : trimEnd s = []
  · have hdrop : s.reverse.dropWhile CodeUnit.isWhite = [] := by
      rw [← List.reverse_eq_nil_iff]
      exact h
    rw [h, trimEnd, List.rdropWhile, List.reverse_cons, List.dropWhile_append, hdrop,
      List.dropWhile_cons, hc]
    rfl
  · exact trimEnd_append (s := [c]) h

theorem trimEnd_append_cons {c : CodeUnit} (hc : CodeUnit.isWhite c = false) (s r : Text) :
    trimEnd (s ++ c :: r) = s ++ c :: trimEnd r := by
  have hcons := trimEnd_cons hc r
  rw [trimEnd_append (by rw [hcons]; exact List.cons_ne_nil _ _), hcons]

/-- White space at the end is trimmed. -/
theorem trim_append_white {s : Text} {c : CodeUnit} (hc : CodeUnit.isWhite c = true) :
    trim (s ++ [c]) = trim s := by
  have hdrop : (s ++ [c]).dropWhile CodeUnit.isWhite =
      if (s.dropWhile CodeUnit.isWhite).isEmpty then []
      else s.dropWhile CodeUnit.isWhite ++ [c] := by
    rw [List.dropWhile_append, List.dropWhile_cons_of_pos hc, List.dropWhile_nil]
  rw [trim, trim, hdrop]
  split
  · rename_i hempty
    rw [List.isEmpty_iff.mp hempty]
  · rw [List.reverse_append, List.reverse_singleton, List.singleton_append,
      List.dropWhile_cons_of_pos hc]

theorem startsWith_cons_of_ne {c d : CodeUnit} {p s : Text} (h : c ≠ d) :
    startsWith (d :: s) (c :: p) = false := by
  simp [startsWith, List.isPrefixOf, h]

theorem replaceFirst_append {c : CodeUnit} {a : Text} (q b : Text) (ha : c ∉ a) :
    replaceFirst [c] q (a ++ c :: b) = a ++ q ++ b := by
  induction a with
  | nil => simp [replaceFirst, startsWith]
  | cons d a ih =>
    obtain ⟨hd, ha⟩ := not_or.mp (List.mem_cons.not.mp ha)
    have hstart := startsWith_cons_of_ne (p := []) (s := a ++ c :: b) hd
    rw [List.cons_append, replaceFirst, hstart, if_neg Bool.false_ne_true, ih ha]
    simp

theorem replaceFirst_eq_self {c : CodeUnit} {s : Text} (q : Text) (hs : c ∉ s) :
    replaceFirst [c] q s = s := by
  induction s with
  | nil => simp [replaceFirst]
  | cons d s ih =>
    obtain ⟨hd, hs⟩ := not_or.mp (List.mem_cons.not.mp hs)
    have hstart := startsWith_cons_of_ne (p := []) (s := s) hd
    rw [replaceFirst, hstart, if_neg Bool.false_ne_true, ih hs]

/-! ### Splitting at a separator

`s.split(c).slice(1).join(c)` is what follows the first separator. -/

theorem splitOn_eq_cons (s : Text) (c : CodeUnit) :
    s.splitOn c = s.takeWhile (· ≠ c) ::
      (match afterFirst c s with | none => [] | some r => r.splitOn c) := by
  induction s with
  | nil => simp [afterFirst]
  | cons d s ih =>
    rw [List.splitOn_cons_eq_if_modifyHead]
    by_cases hd : d = c
    · simp [afterFirst, hd]
    · rw [ih]
      simp [afterFirst, hd]

theorem afterFirst_eq_none_iff {c : CodeUnit} {s : Text} :
    afterFirst c s = none ↔ s.includes c = false := by
  induction s with
  | nil => simp [afterFirst, includes]
  | cons d s ih =>
    by_cases hd : d = c
    · simp [afterFirst, includes, hd]
    · simp only [afterFirst, hd, ↓reduceIte, ih, includes, List.contains_cons,
        Bool.or_eq_false_iff, beq_eq_false_iff_ne]
      exact ⟨fun h => ⟨fun h' => hd h'.symm, h⟩, fun h => h.2⟩

theorem join_tail_split (s : Text) (c : CodeUnit) :
    join (split s c).tail c = (afterFirst c s).getD [] := by
  rw [split, splitOn_eq_cons, List.tail_cons]
  cases afterFirst c s with
  | none => rfl
  | some r => exact List.intercalate_splitOn c

theorem afterFirst_append {c : CodeUnit} {a : Text} (b : Text) (ha : c ∉ a) :
    afterFirst c (a ++ c :: b) = some b := by
  induction a with
  | nil => simp [afterFirst]
  | cons d a ih =>
    obtain ⟨hd, ha⟩ := not_or.mp (List.mem_cons.not.mp ha)
    rw [List.cons_append, afterFirst, if_neg (Ne.symm hd), ih ha]

/-- What stands before the first separator is the first part. -/
theorem split_append {c : CodeUnit} {a : Text} (b : Text) (ha : c ∉ a) :
    split (a ++ c :: b) c = a :: split b c := by
  have hall : ∀ d ∈ a, decide (d ≠ c) = true := fun d hd =>
    decide_eq_true fun hdc => ha (hdc ▸ hd)
  rw [split, splitOn_eq_cons, afterFirst_append b ha, List.takeWhile_append_of_pos hall]
  simp [split]

theorem split_ne_nil (s : Text) (c : CodeUnit) : split s c ≠ [] := List.splitOn_ne_nil c s

@[simp] theorem join_split (s : Text) (c : CodeUnit) : join (split s c) c = s :=
  List.intercalate_splitOn c

theorem join_cons_cons (part part' : Text) (parts : List Text) (c : CodeUnit) :
    join (part :: part' :: parts) c = part ++ c :: join (part' :: parts) c := by
  simp [join, List.intercalate]

/-- Joined parts and a last separator are the parts with a separator after each. -/
theorem join_append_singleton {parts : List Text} (c : CodeUnit) (h : parts ≠ []) :
    join parts c ++ [c] = parts.flatMap fun part => part ++ [c] := by
  induction parts with
  | nil => exact absurd rfl h
  | cons part parts ih =>
    cases parts with
    | nil => simp [join]
    | cons part' parts =>
      rw [join_cons_cons, List.flatMap_cons, ← ih (List.cons_ne_nil _ _)]
      simp

/-- Each part is a part of the joined text. -/
theorem infix_join {part : Text} {parts : List Text} (c : CodeUnit) (h : part ∈ parts) :
    part <:+: join parts c := by
  induction parts with
  | nil => cases h
  | cons first parts ih =>
    cases parts with
    | nil =>
      obtain rfl := List.mem_singleton.mp h
      simp [join]
    | cons next parts =>
      rw [join_cons_cons]
      rcases List.mem_cons.mp h with rfl | hrest
      · exact (List.prefix_append _ _).isInfix
      · exact ((ih hrest).trans (List.suffix_cons c _).isInfix).trans (List.suffix_append _ _).isInfix

/-- What stands before the first separator, the separator, and what follows it. -/
theorem takeWhile_append_afterFirst {c : CodeUnit} {s r : Text} (h : afterFirst c s = some r) :
    s.takeWhile (· ≠ c) ++ c :: r = s := by
  induction s with
  | nil => cases h
  | cons d s ih =>
    rw [afterFirst] at h
    by_cases hd : d = c
    · rw [if_pos hd] at h
      obtain rfl := Option.some.inj h
      simp [hd]
    · rw [if_neg hd] at h
      rw [List.takeWhile_cons_of_pos (by simpa using hd), List.cons_append, ih h]

theorem length_afterFirst {c : CodeUnit} {s r : Text} (h : afterFirst c s = some r) :
    r.length < s.length := by
  induction s with
  | nil => simp [afterFirst] at h
  | cons d s ih =>
    by_cases hd : d = c
    · obtain rfl : s = r := by simpa [afterFirst, hd] using h
      simp
    · have hr : afterFirst c s = some r := by simpa [afterFirst, hd] using h
      have := ih hr
      simp only [List.length_cons]
      omega

end Text

/-! ### Literals -/

theorem toUInt16_inj {m n : ℕ} (hm : m < 65536) (hn : n < 65536)
    (h : m.toUInt16 = n.toUInt16) : m = n := by
  have := congrArg UInt16.toNat h
  simpa [Nat.mod_eq_of_lt hm, Nat.mod_eq_of_lt hn] using this

theorem unitsOf_append_injective {c d : Char} {r r' : Text}
    (h : unitsOf c ++ r = unitsOf d ++ r') : c = d ∧ r = r' := by
  have valid : ∀ e : Char, e.toNat < 0xD800 ∨ (0xDFFF < e.toNat ∧ e.toNat < 0x110000) :=
    fun e => e.valid
  have eq_of : c.toNat = d.toNat → c = d := fun h => by
    rw [← Char.ofNat_toNat c, h, Char.ofNat_toNat]
  have hc := valid c
  have hd := valid d
  unfold unitsOf at h
  split_ifs at h with hc' hd' hd'
  · obtain ⟨hhead, hrest⟩ := List.cons.inj h
    exact ⟨eq_of (toUInt16_inj hc' hd' hhead), hrest⟩
  · have hhead := toUInt16_inj hc' (by omega) (List.cons.inj h).1
    omega
  · have hhead := toUInt16_inj (by omega) hd' (List.cons.inj h).1
    omega
  · obtain ⟨hhigh, htail⟩ := List.cons.inj h
    obtain ⟨hlow, hrest⟩ := List.cons.inj htail
    have hhigh' := toUInt16_inj (by omega) (by omega) hhigh
    have hlow' := toUInt16_inj (by omega) (by omega) hlow
    exact ⟨eq_of (by omega), hrest⟩

theorem unitsOf_ne_nil (c : Char) : unitsOf c ≠ [] := by
  unfold unitsOf
  split <;> simp

/-- Different names are different texts. -/
theorem js_injective : Function.Injective js := by
  intro s t h
  suffices hlist : ∀ l m : List Char, l.flatMap unitsOf = m.flatMap unitsOf → l = m from
    String.toList_inj.mp (hlist _ _ h)
  intro l
  induction l with
  | nil =>
    rintro (_ | ⟨d, m⟩) hm
    · rfl
    · simp [unitsOf_ne_nil] at hm
  | cons c l ih =>
    rintro (_ | ⟨d, m⟩) hm
    · simp [unitsOf_ne_nil] at hm
    · rw [List.flatMap_cons, List.flatMap_cons] at hm
      obtain ⟨rfl, hrest⟩ := unitsOf_append_injective hm
      rw [ih m hrest]

/-! ### Case -/

/-- The case conversions of the host, whose Unicode tables are not part of the program. -/
structure CaseMapping where
  toUpperCase : Text → Text
  toLowerCase : Text → Text

/-- The conversions of ASCII text. -/
def CaseMapping.ascii : CaseMapping where
  toUpperCase s := s.map fun c => if CodeUnit.isLower c then c - 32 else c
  toLowerCase s := s.map fun c => if CodeUnit.isUpper c then c + 32 else c

end MipitCore.Js
