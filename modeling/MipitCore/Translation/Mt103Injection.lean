import MipitCore.Translation.Mt103RoundTrip

/-!
# Free text in an MT103

The texts of a message are written as they are, and a field is found by its tag wherever that
stands. Where no text mentions a tag before the field does, and no text closes the block, what is
read of the payment depends on the fields of the payment alone; but a name may be a field.

## Main definitions

* `DiffersInFreeText` — messages of one payment
* `SamePayment` — what is read is one payment
* `Harmless` — no text stands in the way of a field

## Main results

* `getField_undisturbed` — a field is read from its own text
* `samePayment_of_harmless` — the free texts of harmless messages change nothing
* `injected` — but for every harmless message there is a name that changes the payment
-/

namespace MipitCore.Translation

open Js
open CodeUnit (ascii isDigit isWhite)

/-! ### White space at the end of a text -/

section White

variable {s t : Text} {c : CodeUnit}

/-- The ends of a text with white space after it. -/
theorem suffix_white_cases {u : Text} (h : u <:+ s ++ [c]) :
    (∃ v, v <:+ s ∧ u = v ++ [c]) ∨ u = [] := by
  rcases suffix_append_cases h with hv | hu
  · exact Or.inl hv
  · rcases List.suffix_cons_iff.mp hu with rfl | hu
    · exact Or.inl ⟨[], List.nil_suffix, rfl⟩
    · exact Or.inr (List.suffix_nil.mp hu)

/-- What does not reach over white space does not see the white space at the end. -/
theorem any_tails_white {starts : Text → Bool} (hnil : starts [] = false)
    (hwhite : ∀ u, starts (u ++ [c]) = starts u) :
    (s ++ [c]).tails.any starts = s.tails.any starts := by
  rw [Bool.eq_iff_iff, List.any_eq_true, List.any_eq_true]
  simp only [List.mem_tails]
  constructor
  · rintro ⟨u, hu, hstarts⟩
    rcases suffix_white_cases hu with ⟨v, hv, rfl⟩ | rfl
    · exact ⟨v, hv, by rwa [← hwhite]⟩
    · rw [hnil] at hstarts
      cases hstarts
  · rintro ⟨u, ⟨w, rfl⟩, hstarts⟩
    exact ⟨u ++ [c], ⟨w, (List.append_assoc w u [c]).symm⟩, by rwa [hwhite]⟩

/-- White space at the end can be taken away unit by unit. -/
theorem trimEnd_invariant {α : Type} (f : Text → α)
    (h : ∀ (s : Text) (c : CodeUnit), isWhite c = true → f (s ++ [c]) = f s) (s : Text) :
    f (Text.trimEnd s) = f s := by
  induction s using List.reverseRecOn with
  | nil => rfl
  | append_singleton s c ih =>
    cases hc : isWhite c with
    | true => rw [Text.trimEnd, List.rdropWhile_concat_pos _ _ _ hc, ← Text.trimEnd, ih, h s c hc]
    | false =>
      rw [Text.trimEnd, List.rdropWhile_concat_neg _ _ _ (by simp [hc])]

theorem closesBlock_trimEnd (s : Text) : closesBlock (Text.trimEnd s) = closesBlock s := by
  refine trimEnd_invariant closesBlock (fun s c hc => ?_) s
  exact any_tails_white (by decide) fun u => closes_white hc u []

theorem mentions_trimEnd {tag : String} (htag : isTag (js tag) = true) (s : Text) :
    mentions tag (Text.trimEnd s) = mentions tag s := by
  refine trimEnd_invariant (mentions tag) (fun s c hc => ?_) s
  have hnil : startsWithTag tag [] = false := by simp [startsWithTag]
  exact any_tails_white (s := ascii ':' :: s) hnil fun u => startsWithTag_white hc u [] htag

theorem trim_trimEnd' (s : Text) : Text.trim (Text.trimEnd s) = Text.trim s :=
  trimEnd_invariant Text.trim (fun _ _ hc => Text.trim_append_white hc) s

/-- What a field has of a text, up to the white space at its end. -/
theorem trimEnd_takeUntil_trimEnd (s : Text) :
    Text.trimEnd (Text.takeUntil endsField (Text.trimEnd s)) =
      Text.trimEnd (Text.takeUntil endsField s) := by
  refine trimEnd_invariant (fun s => Text.trimEnd (Text.takeUntil endsField s)) (fun s c hc => ?_) s
  have hends : endsField [c] = false := (endsField_white hc [] []).trans (by decide)
  have hlast : Text.takeUntil endsField [c] = [c] := by
    rw [Text.takeUntil, hends, if_neg Bool.false_ne_true]
    rfl
  have hsame : Text.takeUntil endsField (s ++ [c]) = Text.takeUntil endsField s ∨
      Text.takeUntil endsField (s ++ [c]) = Text.takeUntil endsField s ++ [c] := by
    induction s with
    | nil => exact Or.inr hlast
    | cons d s ih =>
      have hhead := endsField_white hc (d :: s) []
      rw [List.cons_append] at hhead
      rw [List.cons_append, Text.takeUntil, Text.takeUntil, hhead]
      split_ifs
      · exact Or.inl rfl
      · rcases ih with h | h
        · exact Or.inl (by rw [h])
        · exact Or.inr (by rw [h, List.cons_append])
  rcases hsame with h | h
  · rw [h]
  · rw [h]
    exact Text.trimEnd_append_replicate hc _ 1

end White

/-! ### Fields that are read from their own texts -/

section Undisturbed

variable {tag : String} {fields : List (String × Text)}

/-- No text before the field of a tag mentions the tag. -/
def Undisturbed (fields : List (String × Text)) (tag : String) : Prop :=
  ∀ f ∈ fields.takeWhile (fun f => f.1 ≠ tag), mentions tag f.2 = false

instance (fields : List (String × Text)) (tag : String) : Decidable (Undisturbed fields tag) :=
  inferInstanceAs (Decidable (∀ f ∈ fields.takeWhile (fun f => f.1 ≠ tag), mentions tag f.2 = false))

/-- What is read of the text of a field. -/
def readText (text : Text) : Text := Text.trim (Text.takeUntil endsField text)

/-- The fields after a text are not read with it. -/
theorem trim_takeUntil_line (s : Text) {r : Text} (hr : r = [] ∨ endsField r = true) :
    Text.trim (Text.takeUntil endsField (s ++ ascii '\n' :: r)) = readText s := by
  have hsame : Text.takeUntil endsField (s ++ ascii '\n' :: r) = Text.takeUntil endsField s ∨
      Text.takeUntil endsField (s ++ ascii '\n' :: r) =
        Text.takeUntil endsField s ++ [ascii '\n'] := by
    induction s with
    | nil => exact Or.inr (takeUntil_line r hr)
    | cons d s ih =>
      have hhead := endsField_line (d :: s) r
      rw [List.cons_append] at hhead
      rw [List.cons_append, Text.takeUntil, Text.takeUntil, hhead]
      split_ifs
      · exact Or.inl rfl
      · rcases ih with h | h
        · exact Or.inl (by rw [h])
        · exact Or.inr (by rw [h, List.cons_append])
  rcases hsame with h | h
  · rw [h, readText]
  · rw [h, Text.trim_append_white (by decide), readText]

/-- **A field is read from its own text**, where no text before it mentions its tag. -/
theorem getField_undisturbed (htag : isTag (js tag) = true)
    (htags : ∀ f ∈ fields, isTag (js f.1) = true) (h : Undisturbed fields tag) :
    getField (block fields) tag = (fieldOf fields tag).map readText := by
  have hunmentioned : ∀ pre : List (String × Text),
      (∀ f ∈ pre, f ∈ fields ∧ f.1 ≠ tag ∧ mentions tag f.2 = false) → Unmentioned tag pre :=
    fun pre hpre f hf => ⟨htags f (hpre f hf).1, (hpre f hf).2⟩
  unfold Undisturbed at h
  rw [fieldOf]
  cases hfind : fields.find? (fun f => f.1 = tag) with
  | none =>
    have hne : ∀ f ∈ fields, f.1 ≠ tag := by simpa using hfind
    rw [List.takeWhile_eq_self_iff.mpr (by simpa using hne)] at h
    exact getField_none htag (hunmentioned fields fun f hf => ⟨hf, hne f hf, h f hf⟩)
  | some f =>
    obtain ⟨hf, pre, rest, rfl, hpre⟩ := List.find?_eq_some_iff_append.mp hfind
    obtain ⟨tag', text⟩ := f
    obtain rfl : tag' = tag := by simpa using hf
    have hpre' : ∀ f ∈ pre, f.1 ≠ tag' := by simpa using hpre
    have htake : (pre ++ (tag', text) :: rest).takeWhile (fun f => f.1 ≠ tag') = pre := by
      rw [List.takeWhile_append_of_pos (by simpa using hpre')]
      simp
    rw [htake] at h
    have hrest : block rest = [] ∨ endsField (block rest) = true := by
      cases rest with
      | nil => exact Or.inl rfl
      | cons g rest => exact Or.inr (endsField_block (htags g (by simp)) g.2 rest)
    rw [block_append, block_cons, getField_first htag (hunmentioned pre fun f hf =>
        ⟨by simp [hf], hpre' f hf, h f hf⟩), trim_takeUntil_line text hrest]
    rfl

end Undisturbed

/-! ### First lines -/

section FirstLine

variable {s r : Text}

/-- The text up to the first line break. -/
def firstLine (s : Text) : Text := s.takeWhile (· ≠ ascii '\n')

theorem headD_split (s : Text) : (Text.split s (ascii '\n')).headD [] = firstLine s := by
  rw [Text.split, Text.splitOn_eq_cons]
  rfl

/-- What comes after a line is not in the first line of what a field has of both. -/
theorem firstLine_takeUntil (s r : Text) :
    firstLine (Text.takeUntil endsField (s ++ ascii '\n' :: r)) =
      firstLine (Text.takeUntil endsField s) := by
  induction s with
  | nil =>
    have hends : endsField (ascii '\n' :: r) = false := (endsField_line [] r).trans (by decide)
    simp [firstLine, Text.takeUntil, hends]
  | cons d s ih =>
    have hhead := endsField_line (d :: s) r
    rw [List.cons_append] at hhead
    rw [List.cons_append, Text.takeUntil, Text.takeUntil, hhead]
    split_ifs
    · rfl
    · simp only [firstLine, List.takeWhile_cons] at ih ⊢
      rw [ih]

/-- White space at the end of a text is white space at the end of its first line. -/
theorem trimEnd_firstLine (s : Text) :
    Text.trimEnd (firstLine (Text.trimEnd s)) = Text.trimEnd (firstLine s) := by
  refine trimEnd_invariant (fun s => Text.trimEnd (firstLine s)) (fun s c hc => ?_) s
  have hsame : firstLine (s ++ [c]) = firstLine s ∨ firstLine (s ++ [c]) = firstLine s ++ [c] := by
    induction s with
    | nil =>
      by_cases hline : c = ascii '\n'
      · exact Or.inl (by simp [firstLine, hline])
      · exact Or.inr (by simp [firstLine, hline])
    | cons d s ih =>
      simp only [firstLine, List.cons_append, List.takeWhile_cons] at ih ⊢
      split_ifs
      · rcases ih with h | h
        · exact Or.inl (by rw [h])
        · exact Or.inr (by rw [h, List.cons_append])
      · exact Or.inl rfl
  rcases hsame with h | h
  · rw [h]
  · rw [h]
    exact Text.trimEnd_append_replicate hc _ 1

/-- The account at the start of a customer's lines, or of those of an IBAN. -/
def accountRead (account : Text) : Text :=
  Text.trimEnd (firstLine (Text.takeUntil endsField account))

theorem takeUntil_slash (s : Text) :
    Text.takeUntil endsField (ascii '/' :: s) = ascii '/' :: Text.takeUntil endsField s := by
  have hends : endsField (ascii '/' :: s) = false := by
    rw [endsField, Bool.or_eq_false_iff, ← Bool.not_eq_true, startsWithAnyTag_iff]
    refine ⟨?_, Text.startsWith_cons_of_ne (p := js "\x7d") (by decide)⟩
    rintro ⟨t, u, heq, -⟩
    exact absurd (List.cons.inj heq).1 (by decide)
  rw [Text.takeUntil, hends, if_neg Bool.false_ne_true]

/-- What is read of the lines of an account and of more lines. -/
theorem readText_account (account r : Text) :
    ∃ t, readText (Text.trimEnd (ascii '/' :: (account ++ ascii '\n' :: r))) = ascii '/' :: t ∧
      Text.trimEnd (firstLine t) = accountRead account := by
  refine ⟨Text.trimEnd (Text.takeUntil endsField (account ++ ascii '\n' :: r)), ?_, ?_⟩
  · have hhead : ∀ s : Text, Text.trim (ascii '/' :: s) = Text.trimEnd (ascii '/' :: s) := fun s =>
      Text.trim_eq_trimEnd_of_head fun c hc => by
        obtain rfl := Option.some.inj hc
        decide
    rw [readText, Text.trimEnd_cons (by decide), takeUntil_slash, hhead, ← takeUntil_slash,
      ← Text.trimEnd_cons (by decide), trimEnd_takeUntil_trimEnd, takeUntil_slash,
      Text.trimEnd_cons (by decide)]
  · rw [trimEnd_firstLine, firstLine_takeUntil, accountRead]

/-- The account of a customer is that of its first line. -/
theorem account_of_lines {body account r : Text} {tag : String}
    (h : getField body tag =
      some (readText (Text.trimEnd (ascii '/' :: (account ++ ascii '\n' :: r))))) :
    (customerOfLines (getMultilineField body tag)).account = some (accountRead account) := by
  obtain ⟨t, hread, haccount⟩ := readText_account account r
  have hslash : firstLine (ascii '/' :: t) = ascii '/' :: firstLine t := by
    simp [firstLine, show ascii '/' ≠ ascii '\n' by decide]
  have htrim : Text.trim (ascii '/' :: firstLine t) = ascii '/' :: accountRead account := by
    rw [Text.trim_eq_trimEnd_of_head fun c hc => by
      obtain rfl := Option.some.inj hc
      decide, Text.trimEnd_cons (by decide), haccount]
  obtain ⟨first, rest, hsplit⟩ := List.exists_cons_of_ne_nil (Text.split_ne_nil (ascii '/' :: t)
    (ascii '\n'))
  have hfirst : first = ascii '/' :: firstLine t := by
    rw [← hslash, ← headD_split, hsplit, List.headD_cons]
  have hlines : getMultilineField body tag = (ascii '/' :: accountRead account) ::
      (rest.map Text.trim).filter (· ≠ []) := by
    rw [getMultilineField, h, hread, Option.getD_some, hsplit, List.map_cons, hfirst, htrim,
      List.filter_cons_of_pos (by simp)]
  rw [hlines]
  exact congrArg some (Text.stripPrefix_append (js "/") _)

/-- The IBAN of a beneficiary is that of the first line. -/
theorem iban_of_lines {body account r : Text}
    (h : getField body "59A" =
      some (readText (Text.trimEnd (ascii '/' :: (account ++ ascii '\n' :: r))))) :
    (beneficiaryCustomer body).iban = some (Text.trim (accountRead account)) ∧
      (beneficiaryCustomer body).account = none := by
  obtain ⟨t, hread, haccount⟩ := readText_account account r
  have hslash : firstLine (ascii '/' :: t) = ascii '/' :: firstLine t := by
    simp [firstLine, show ascii '/' ≠ ascii '\n' by decide]
  have htrim : Text.trim (ascii '/' :: t) = ascii '/' :: Text.trimEnd t := by
    rw [Text.trim_eq_trimEnd_of_head fun c hc => by
      obtain rfl := Option.some.inj hc
      decide, Text.trimEnd_cons (by decide)]
  have hfirst : (Text.split (ascii '/' :: Text.trimEnd t) (ascii '\n')).headD [] =
      ascii '/' :: firstLine (Text.trimEnd t) := by
    rw [headD_split]
    simp [firstLine, show ascii '/' ≠ ascii '\n' by decide]
  have hiban : Text.trim (Text.sliceFrom (ascii '/' :: firstLine (Text.trimEnd t)) 1) =
      Text.trim (accountRead account) := by
    change Text.trim (firstLine (Text.trimEnd t)) = _
    rw [← trim_trimEnd', trimEnd_firstLine, haccount]
  have hfield : (some (ascii '/' :: t)).filter (· ≠ []) = some (ascii '/' :: t) :=
    Option.filter_some_pos (by simp)
  have hstart : Text.startsWith (ascii '/' :: firstLine (Text.trimEnd t)) (js "/") = true :=
    Text.startsWith_append (js "/") _
  rw [beneficiaryCustomer, h, hread, hfield]
  simp only [htrim, hfirst, hstart, ↓reduceIte, hiban, and_self]

end FirstLine

/-! ### Payments -/

/-- `c` with the free texts of `c'`. -/
def withFreeText (c c' : CanonicalPacs008) : CanonicalPacs008 :=
  { c with
    debtor := { c.debtor with name := c'.debtor.name, address := c'.debtor.address }
    creditor := { c.creditor with name := c'.creditor.name, address := c'.creditor.address }
    reference := c'.reference
    remittanceInfo := c'.remittanceInfo }

/-- Two messages differ only in names, addresses, references and remittance information. -/
def DiffersInFreeText (c c' : CanonicalPacs008) : Prop := c' = withFreeText c c'

/-- Two messages that are read as one payment. -/
structure SamePayment (msg msg' : SwiftMt103Message) : Prop where
  currency : msg'.currency = msg.currency
  amount : msg'.amount = msg.amount
  valueDate : msg'.valueDate = msg.valueDate
  orderingAccount : msg'.orderingCustomer.account = msg.orderingCustomer.account
  beneficiaryAccount : msg'.beneficiaryCustomer.account = msg.beneficiaryCustomer.account
  beneficiaryIban : msg'.beneficiaryCustomer.iban = msg.beneficiaryCustomer.iban
  accountWithInstitution : msg'.accountWithInstitution = msg.accountWithInstitution
  detailsOfCharges : msg'.detailsOfCharges = msg.detailsOfCharges

/-- The tags by which a payment is read. -/
def paymentTags (c : CanonicalPacs008) : List String :=
  ["32A", "50A", "50K", "57A", "59A",
    (beneficiaryField (canonicalToSwiftMt103 c).beneficiaryCustomer).1, "71A"]

/-- No text closes the block or mentions the tag of a field before that, and the customers' first
lines are their accounts. -/
structure Harmless (c : CanonicalPacs008) : Prop where
  closed : ∀ f ∈ mt103Fields (canonicalToSwiftMt103 c), closesBlock f.2 = false
  undisturbed : ∀ tag ∈ paymentTags c, Undisturbed (mt103Fields (canonicalToSwiftMt103 c)) tag
  debtor : HasAccount c.debtor
  creditor : isIban c.creditor.accountId = true ∨ HasAccount c.creditor

instance (c : CanonicalPacs008) : Decidable (Harmless c) :=
  decidable_of_iff
    ((∀ f ∈ mt103Fields (canonicalToSwiftMt103 c), closesBlock f.2 = false) ∧
      (∀ tag ∈ paymentTags c, Undisturbed (mt103Fields (canonicalToSwiftMt103 c)) tag) ∧
      HasAccount c.debtor ∧ (isIban c.creditor.accountId = true ∨ HasAccount c.creditor))
    ⟨fun ⟨hclosed, hundisturbed, hdebtor, hcreditor⟩ =>
        ⟨hclosed, hundisturbed, hdebtor, hcreditor⟩,
      fun h => ⟨h.closed, h.undisturbed, h.debtor, h.creditor⟩⟩

section Payment

variable {c c' : CanonicalPacs008} {fresh : Fresh}

theorem isTag_paymentTags {tag : String} (h : tag ∈ paymentTags c) : isTag (js tag) = true := by
  rcases beneficiaryField_tag (canonicalToSwiftMt103 c).beneficiaryCustomer with htag | htag <;>
    · rw [paymentTags, htag] at h
      refine isTag_of_mem ?_
      simp only [List.mem_cons, List.not_mem_nil, or_false] at h ⊢
      tauto

/-- **The fields of a harmless message are read from their own texts.** -/
theorem getField_harmless (h : Harmless c) (tag : String) (htag : tag ∈ paymentTags c) :
    getField (messageBody (serializeMt103 (canonicalToSwiftMt103 c))) tag =
      (fieldOf (mt103Fields (canonicalToSwiftMt103 c)) tag).map readText := by
  rw [messageBody_serializeMt103 h.closed, getField_line,
    getField_undisturbed (isTag_paymentTags htag) (fun f hf => isTag_mt103Fields hf)
      (h.undisturbed tag htag)]

/-- The lines of a customer that starts with an account. -/
theorem customerLines_account {customer : SwiftCustomer} {account : Text} (n : ℕ)
    (haccount : customer.account = some account) (hne : account ≠ []) :
    ∃ r, customerLines n customer = ascii '/' :: (account ++ ascii '\n' :: r) := by
  have hfirst : written (fun account => ascii '/' :: (account ++ [ascii '\n'])) customer.account =
      ascii '/' :: (account ++ [ascii '\n']) := by
    rw [written, haccount, Option.filter_some_pos (by simpa using hne)]
    rfl
  rw [customerLines, hfirst, List.cons_append, List.append_assoc, List.singleton_append]
  exact ⟨_, rfl⟩

/-- The account of the debtor is read from the account of the debtor. -/
theorem orderingAccount_harmless (h : Harmless c) :
    (orderingCustomer (messageBody (serializeMt103 (canonicalToSwiftMt103 c)))).account =
      some (accountRead (stripNetworkPrefix c.debtor.accountId)) := by
  obtain ⟨-, -, -, h50A, h50K, -⟩ := fieldOf_mt103Fields (canonicalToSwiftMt103 c)
  obtain ⟨r, hlines⟩ := customerLines_account 3 (isCustomerOf_debtor c).account h.debtor
  have hnone := getField_harmless h "50A" (by simp [paymentTags])
  have hsome := getField_harmless h "50K" (by simp [paymentTags])
  rw [h50A, Option.map_none] at hnone
  rw [h50K, Option.map_some, hlines] at hsome
  rw [orderingCustomer, hnone]
  exact account_of_lines hsome

/-- The account of the creditor is read from the account of the creditor. -/
theorem beneficiary_harmless (h : Harmless c) :
    (beneficiaryCustomer (messageBody (serializeMt103 (canonicalToSwiftMt103 c)))).iban =
        (if isIban c.creditor.accountId = true then
          some (Text.trim (accountRead c.creditor.accountId)) else none) ∧
      (beneficiaryCustomer (messageBody (serializeMt103 (canonicalToSwiftMt103 c)))).account =
        (if isIban c.creditor.accountId = true then none
          else some (accountRead (stripNetworkPrefix c.creditor.accountId))) := by
  have h59A := getField_harmless h "59A" (by simp [paymentTags])
  split_ifs with hiban
  · rw [(fieldOf_beneficiary c).1 hiban, Option.map_some, ibanLines] at h59A
    exact iban_of_lines h59A
  · have hcase : isIban c.creditor.accountId = false := Bool.not_eq_true _ ▸ hiban
    obtain ⟨hnone, hsome⟩ := (fieldOf_beneficiary c).2 hcase
    obtain ⟨r, hlines⟩ := customerLines_account 2 (isCustomerOf_creditor hcase).account
      (h.creditor.resolve_left hiban)
    have h59 := getField_harmless h "59"
      (by simp [paymentTags, beneficiaryField_of_account hcase])
    rw [hnone, Option.map_none] at h59A
    rw [hsome, Option.map_some, hlines] at h59
    rw [beneficiaryCustomer, h59A]
    exact ⟨iban_customerOfLines _, account_of_lines h59⟩

/-- The date, the currency and the amount are read from `:32A:`. -/
theorem parseMt103_congr (fresh : Fresh) {raw raw' : Text}
    (h : getField (messageBody raw') "32A" = getField (messageBody raw) "32A") :
    (parseMt103 fresh raw').currency = (parseMt103 fresh raw).currency ∧
      (parseMt103 fresh raw').amount = (parseMt103 fresh raw).amount ∧
      (parseMt103 fresh raw').valueDate = (parseMt103 fresh raw).valueDate := by
  simp only [parseMt103, h, and_self]

/-- **The free texts of harmless messages change nothing.** -/
theorem samePayment_of_harmless (h : Harmless c) (h' : Harmless c') (hdiffers : DiffersInFreeText c c') :
    SamePayment (parseMt103 fresh (serializeMt103 (canonicalToSwiftMt103 c)))
      (parseMt103 fresh (serializeMt103 (canonicalToSwiftMt103 c'))) := by
  obtain ⟨-, -, h32A, -, -, h57A, -, h71A⟩ := fieldOf_mt103Fields (canonicalToSwiftMt103 c)
  obtain ⟨-, -, h32A', -, -, h57A', -, h71A'⟩ := fieldOf_mt103Fields (canonicalToSwiftMt103 c')
  obtain ⟨-, -, hordering, hbank, hbeneficiary, -, hcharges⟩ :=
    parseMt103_fields fresh (serializeMt103 (canonicalToSwiftMt103 c))
  obtain ⟨-, -, hordering', hbank', hbeneficiary', -, hcharges'⟩ :=
    parseMt103_fields fresh (serializeMt103 (canonicalToSwiftMt103 c'))
  obtain ⟨hiban, haccount⟩ := beneficiary_harmless h
  obtain ⟨hiban', haccount'⟩ := beneficiary_harmless h'
  -- what they agree in, the payment is read from
  have hdebtor : c'.debtor.accountId = c.debtor.accountId := by rw [hdiffers]; rfl
  have hcreditor : c'.creditor.accountId = c.creditor.accountId := by rw [hdiffers]; rfl
  have htext : text32A (canonicalToSwiftMt103 c') = text32A (canonicalToSwiftMt103 c) := by
    rw [hdiffers]; rfl
  have hinstitution : (canonicalToSwiftMt103 c').accountWithInstitution =
      (canonicalToSwiftMt103 c).accountWithInstitution := by
    rw [hdiffers]; rfl
  have hfield : getField (messageBody (serializeMt103 (canonicalToSwiftMt103 c'))) "32A" =
      getField (messageBody (serializeMt103 (canonicalToSwiftMt103 c))) "32A" := by
    rw [getField_harmless h _ (by simp [paymentTags]), getField_harmless h' _ (by simp [paymentTags]),
      h32A, h32A', htext]
  obtain ⟨hcurrency, hamount, hdate⟩ := parseMt103_congr fresh hfield
  constructor
  case currency => exact hcurrency
  case amount => exact hamount
  case valueDate => exact hdate
  case orderingAccount =>
    rw [hordering, hordering', orderingAccount_harmless h, orderingAccount_harmless h', hdebtor]
  case beneficiaryAccount => rw [hbeneficiary, hbeneficiary', haccount, haccount', hcreditor]
  case beneficiaryIban => rw [hbeneficiary, hbeneficiary', hiban, hiban', hcreditor]
  case accountWithInstitution =>
    rw [hbank, hbank', getField_harmless h _ (by simp [paymentTags]),
      getField_harmless h' _ (by simp [paymentTags]), h57A, h57A', hinstitution]
  case detailsOfCharges =>
    rw [hcharges, hcharges', getField_harmless h _ (by simp [paymentTags]),
      getField_harmless h' _ (by simp [paymentTags]), h71A, h71A']
    rfl

/-! ### A name that is a field -/

/-- The fields before the ordering customer. -/
def fieldsBefore (msg : SwiftMt103Message) : List (String × Text) :=
  [("20", msg.transactionRef.substring 16), ("23B", msg.bankOperationCode), ("32A", text32A msg)]

/-- The fields after the ordering customer. -/
def fieldsAfter (msg : SwiftMt103Message) : List (String × Text) :=
  optionalField "57A" (msg.accountWithInstitution.filter (· ≠ [])) ++
  (beneficiaryField msg.beneficiaryCustomer ::
  (optionalField "70" ((msg.remittanceInfo.filter (· ≠ [])).map splitRemittance) ++
  (("71A", (msg.detailsOfCharges.filter (· ≠ [])).getD (js "SHA")) ::
  optionalField "72"
    ((msg.senderToReceiverInfo.filter (· ≠ [])).map fun info : Text => info.substring 35))))

theorem mt103Fields_eq (msg : SwiftMt103Message) :
    mt103Fields msg = fieldsBefore msg ++
      ("50K", Text.trimEnd (customerLines 3 msg.orderingCustomer)) :: fieldsAfter msg := by
  simp [mt103Fields, fieldsBefore, fieldsAfter]

theorem mentions_of_start {tag : String} {s t : Text} (h : s <+: t) (ht : mentions tag t = false) :
    mentions tag s = false := by
  obtain ⟨r, rfl⟩ := h
  refine mentions_eq_false.mpr ?_
  rintro u ⟨w, hw⟩
  by_contra hne
  rw [Bool.not_eq_false] at hne
  obtain ⟨t, v, rfl, htag⟩ := startsWithTag_iff.mp hne
  have hlonger := mentions_eq_false.mp ht ((ascii ':' :: (t ++ ascii ':' :: v)) ++ r)
    ⟨w, by rw [← List.append_assoc, hw, List.cons_append]⟩
  rw [startsWithTag_iff.mpr ⟨t, v ++ r, by simp, htag⟩] at hlonger
  cases hlonger

/-- `c`, whose debtor has a name that is a field. -/
def injecting (c : CanonicalPacs008) : CanonicalPacs008 :=
  { c with debtor := { c.debtor with name := some (js ":71A:OUR:72:"), address := some [] } }

/-- The ordering customer, in the lines of the account and of the name. -/
theorem customerLines_injecting (h : HasAccount c.debtor) :
    Text.trimEnd (customerLines 3 (canonicalToSwiftMt103 (injecting c)).orderingCustomer) =
      ascii '/' :: (stripNetworkPrefix c.debtor.accountId ++ ascii '\n' :: js ":71A:OUR:72:") := by
  have haccount : (some (stripNetworkPrefix c.debtor.accountId)).filter (· ≠ []) =
      some (stripNetworkPrefix c.debtor.accountId) :=
    Option.filter_some_pos (by simpa [HasAccount] using h)
  have hname : Text.substring (Text.substring (js ":71A:OUR:72:") 35) 35 = js ":71A:OUR:72:" := by
    decide
  have hlines : customerLines 3 (canonicalToSwiftMt103 (injecting c)).orderingCustomer =
      (ascii '/' :: (stripNetworkPrefix c.debtor.accountId ++ [ascii '\n'])) ++
        (js ":71A:OUR:72:" ++ [ascii '\n']) := by
    have hwritten : (some (Text.substring (js ":71A:OUR:72:") 35)).filter (· ≠ []) =
        some (Text.substring (js ":71A:OUR:72:") 35) := by decide
    change written _ (some (stripNetworkPrefix c.debtor.accountId)) ++
      (written _ (some (Text.substring (js ":71A:OUR:72:") 35)) ++ []) = _
    rw [written, written, haccount, hwritten]
    simp only [Option.map_some, Option.getD_some, List.append_nil, hname]
  have hend : Text.trimEnd (js ":71A:OUR:72:" ++ [ascii '\n']) = js ":71A:OUR:72:" := by decide
  rw [hlines, Text.trimEnd_append (by rw [hend]; decide), hend]
  simp

/-- The first line of the ordering customer begins the field. -/
theorem account_prefix (h : Harmless c) :
    closesBlock (ascii '/' :: stripNetworkPrefix c.debtor.accountId) = false ∧
      mentions "71A" (ascii '/' :: stripNetworkPrefix c.debtor.accountId) = false := by
  obtain ⟨r, hlines⟩ := customerLines_account 3 (isCustomerOf_debtor c).account h.debtor
  have hbegins : ascii '/' :: stripNetworkPrefix c.debtor.accountId <+:
      customerLines 3 (canonicalToSwiftMt103 c).orderingCustomer := by
    rw [hlines, ← List.cons_append]
    exact List.prefix_append _ _
  have hclosed := h.closed
    ("50K", Text.trimEnd (customerLines 3 (canonicalToSwiftMt103 c).orderingCustomer))
    (by simp [mt103Fields])
  have hunmentioned := h.undisturbed "71A" (by simp [paymentTags])
    ("50K", Text.trimEnd (customerLines 3 (canonicalToSwiftMt103 c).orderingCustomer))
    (by rw [mt103Fields_eq]; simp [fieldsBefore])
  rw [closesBlock_trimEnd] at hclosed
  rw [mentions_trimEnd (by decide)] at hunmentioned
  exact ⟨closesBlock_of_start hbegins hclosed, mentions_of_start hbegins hunmentioned⟩

/-- **A name with a tag in it is read as a field.** -/
theorem detailsOfCharges_injecting (h : Harmless c) :
    (parseMt103 fresh (serializeMt103 (canonicalToSwiftMt103 (injecting c)))).detailsOfCharges =
      some (js "OUR") := by
  obtain ⟨haccountClosed, haccountUnmentioned⟩ := account_prefix h
  have hfields : mt103Fields (canonicalToSwiftMt103 (injecting c)) =
      fieldsBefore (canonicalToSwiftMt103 c) ++
        ("50K", ascii '/' :: (stripNetworkPrefix c.debtor.accountId ++
          ascii '\n' :: js ":71A:OUR:72:")) :: fieldsAfter (canonicalToSwiftMt103 c) := by
    rw [mt103Fields_eq, customerLines_injecting h.debtor]
    rfl
  have hmem : ∀ f, f ∈ fieldsBefore (canonicalToSwiftMt103 c) ∨
      f ∈ fieldsAfter (canonicalToSwiftMt103 c) → f ∈ mt103Fields (canonicalToSwiftMt103 c) := by
    intro f hf
    rw [mt103Fields_eq, List.mem_append, List.mem_cons]
    tauto
  have hclosed : ∀ f ∈ mt103Fields (canonicalToSwiftMt103 (injecting c)), closesBlock f.2 = false := by
    intro f hf
    rw [hfields, List.mem_append, List.mem_cons] at hf
    rcases hf with hf | rfl | hf
    · exact h.closed f (hmem f (Or.inl hf))
    · exact closesBlock_line (s := ascii '/' :: stripNetworkPrefix c.debtor.accountId) haccountClosed
        (by decide)
    · exact h.closed f (hmem f (Or.inr hf))
  -- the same text, with the name as a field of its own
  set fields := fieldsBefore (canonicalToSwiftMt103 c) ++
    [("50K", ascii '/' :: stripNetworkPrefix c.debtor.accountId), ("71A", js "OUR:72:")] ++
      fieldsAfter (canonicalToSwiftMt103 c) with hinjected
  have hname : js ":71A:OUR:72:" = ascii ':' :: (js "71A" ++ ascii ':' :: js "OUR:72:") := by decide
  have hblock : block (mt103Fields (canonicalToSwiftMt103 (injecting c))) = block fields := by
    rw [hfields, hinjected, block_append, block_append, block_append, block_cons, block_cons,
      block_cons, block_nil, hname]
    simp
  have htags : ∀ f ∈ fields, isTag (js f.1) = true := by
    intro f hf
    rw [hinjected] at hf
    simp only [List.mem_append, List.mem_cons, List.not_mem_nil, or_false] at hf
    rcases hf with (hf | rfl | rfl) | hf
    · exact isTag_mt103Fields (hmem f (Or.inl hf))
    · exact isTag_of_mem (by simp)
    · exact isTag_of_mem (by simp)
    · exact isTag_mt103Fields (hmem f (Or.inr hf))
  have hundisturbed : Undisturbed fields "71A" := by
    have hbefore := h.undisturbed "71A" (by simp [paymentTags])
    rw [Undisturbed, mt103Fields_eq] at hbefore
    intro f hf
    simp [hinjected, fieldsBefore] at hf
    rcases hf with rfl | rfl | rfl | rfl
    · exact hbefore _ (by simp [fieldsBefore])
    · exact hbefore _ (by simp [fieldsBefore])
    · exact hbefore _ (by simp [fieldsBefore])
    · exact haccountUnmentioned
  have hread : getField (messageBody (serializeMt103 (canonicalToSwiftMt103 (injecting c)))) "71A" =
      some (readText (js "OUR:72:")) := by
    rw [messageBody_serializeMt103 hclosed, getField_line, hblock,
      getField_undisturbed (by decide) htags hundisturbed, hinjected]
    simp [fieldsBefore]
  obtain ⟨-, -, -, -, -, -, hcharges⟩ :=
    parseMt103_fields fresh (serializeMt103 (canonicalToSwiftMt103 (injecting c)))
  rw [hcharges, hread]
  decide

theorem detailsOfCharges_harmless (h : Harmless c) :
    (parseMt103 fresh (serializeMt103 (canonicalToSwiftMt103 c))).detailsOfCharges =
      some (js "SHA") := by
  obtain ⟨-, -, -, -, -, -, -, h71A⟩ := fieldOf_mt103Fields (canonicalToSwiftMt103 c)
  obtain ⟨-, -, -, -, -, -, hcharges⟩ :=
    parseMt103_fields fresh (serializeMt103 (canonicalToSwiftMt103 c))
  rw [hcharges, getField_harmless h _ (by simp [paymentTags]), h71A]
  exact (by decide : some (readText (js "SHA")) = some (js "SHA"))

/-- **Free texts change nothing where they are harmless**, and of every harmless message there is
one that differs in its free texts and is read as another payment. -/
theorem free_text (fresh : Fresh) :
    (∀ c c' : CanonicalPacs008, c.SchemaValid → c'.SchemaValid → DiffersInFreeText c c' →
      Harmless c → Harmless c' →
      SamePayment (parseMt103 fresh (serializeMt103 (canonicalToSwiftMt103 c)))
        (parseMt103 fresh (serializeMt103 (canonicalToSwiftMt103 c')))) ∧
    ∀ c : CanonicalPacs008, c.SchemaValid → Harmless c →
      ∃ c' : CanonicalPacs008, c'.SchemaValid ∧ DiffersInFreeText c c' ∧
        ¬ SamePayment (parseMt103 fresh (serializeMt103 (canonicalToSwiftMt103 c)))
          (parseMt103 fresh (serializeMt103 (canonicalToSwiftMt103 c'))) := by
  constructor
  · intro c c' _ _ hdiffers h h'
    exact samePayment_of_harmless h h' hdiffers
  · intro c hschema h
    refine ⟨injecting c, hschema.withDebtorName (by decide), rfl, fun hsame => ?_⟩
    have hcharges := hsame.detailsOfCharges
    rw [detailsOfCharges_injecting h, detailsOfCharges_harmless h] at hcharges
    exact absurd hcharges (by decide)

end Payment

namespace Example

theorem harmless_samples : Harmless inReais ∧ Harmless fromAna := by decide +kernel

end Example

/-- A name without a tag changes nothing, and some name does. -/
theorem free_text_fromAna :
    SamePayment
        (parseMt103 Example.fresh (serializeMt103 (canonicalToSwiftMt103 Example.inReais)))
        (parseMt103 Example.fresh (serializeMt103 (canonicalToSwiftMt103 Example.fromAna))) ∧
      ∃ c' : CanonicalPacs008, c'.SchemaValid ∧ DiffersInFreeText Example.inReais c' ∧
        ¬ SamePayment
          (parseMt103 Example.fresh (serializeMt103 (canonicalToSwiftMt103 Example.inReais)))
          (parseMt103 Example.fresh (serializeMt103 (canonicalToSwiftMt103 c'))) :=
  ⟨(free_text Example.fresh).1 Example.inReais Example.fromAna Example.schemaValid_inReais
      Example.schemaValid_fromAna rfl Example.harmless_samples.1 Example.harmless_samples.2,
    (free_text Example.fresh).2 Example.inReais Example.schemaValid_inReais Example.harmless_samples.1⟩

/-- The debtor's name says who pays the charges. -/
theorem charges_injected :
    Example.inReais.SchemaValid ∧ (injecting Example.inReais).SchemaValid ∧
      DiffersInFreeText Example.inReais (injecting Example.inReais) ∧
      (parseMt103 Example.fresh (serializeMt103 (canonicalToSwiftMt103
        Example.inReais))).detailsOfCharges = some (js "SHA") ∧
      (parseMt103 Example.fresh (serializeMt103 (canonicalToSwiftMt103
        (injecting Example.inReais)))).detailsOfCharges = some (js "OUR") := by
  refine ⟨Example.schemaValid_inReais, Example.schemaValid_inReais.withDebtorName (by decide), rfl,
    ?_⟩
  decide +kernel

end MipitCore.Translation
