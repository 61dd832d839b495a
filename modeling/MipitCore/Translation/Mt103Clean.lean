import MipitCore.Translation.Mt103Lines

/-!
# Clean texts in an MT103

A text without line breaks, colons and closing braces is a line, and a part of it that does
not end in white space is read as it was. Cutting a text may leave white space at its end, and a
customer without a name has the first line of the address in its place.

## Main definitions

* `IsClean`, `PartyClean`, `Mt103Clean` — clean texts, and what is made of them
* `HasAccount`, `NameFits`, `IsNamed`, `RemittanceFits` — what the format has room for

## Main results

* `getMultilineField_party`, `account_of_party`, `name_of_party` — a party is found in its lines
* `splitRemittance_read` — remittance information is read as it was, but for line breaks
* `isClean_buildRemittanceInfo`
-/

namespace MipitCore.Translation

open Js
open CodeUnit (ascii isDigit isLetter isUpper isWhite)

/-! ### Clean texts -/

/-- A text that is there and trimmed, without line breaks, colons and closing braces. -/
structure IsClean (s : Text) : Prop where
  ne_nil : s ≠ []
  trimmed : Text.trim s = s
  single : ascii '\n' ∉ s
  plain : IsPlain s

instance (s : Text) : Decidable (IsClean s) :=
  decidable_of_iff (s ≠ [] ∧ Text.trim s = s ∧ ascii '\n' ∉ s ∧ IsPlain s)
    ⟨fun ⟨hne, htrim, hsingle, hplain⟩ => ⟨hne, htrim, hsingle, hplain⟩,
      fun h => ⟨h.ne_nil, h.trimmed, h.single, h.plain⟩⟩

/-- The texts of a party are clean. -/
structure PartyClean (p : Party) : Prop where
  accountId : IsClean p.accountId
  name : ∀ name ∈ p.name, IsClean name
  country : ∀ country ∈ p.country, IsClean country
  address : ∀ ls ∈ p.address, ∀ line ∈ ls, IsClean line

instance (p : Party) : Decidable (PartyClean p) :=
  decidable_of_iff (IsClean p.accountId ∧ (∀ name ∈ p.name, IsClean name) ∧
      (∀ country ∈ p.country, IsClean country) ∧ ∀ ls ∈ p.address, ∀ line ∈ ls, IsClean line)
    ⟨fun ⟨haccount, hname, hcountry, haddress⟩ => ⟨haccount, hname, hcountry, haddress⟩,
      fun h => ⟨h.accountId, h.name, h.country, h.address⟩⟩

/-- A message of clean texts, of an amount in cents, in a currency of three capital letters, from
the years 1970 to 2069. -/
structure Mt103Clean (c : CanonicalPacs008) : Prop where
  year : 1970 ≤ digitsValue (c.createdAt.1.take 4) ∧ digitsValue (c.createdAt.1.take 4) ≤ 2069
  amount : ∃ (q : ℚ) (cents : ℤ), c.amount.value = .fin q ∧ q * 10 ^ 2 = cents
  currency : c.amount.currency.length = 3 ∧ c.amount.currency.all isUpper = true
  debtor : PartyClean c.debtor
  creditor : PartyClean c.creditor
  bic : ∀ bic ∈ c.destination.bic, IsClean bic
  purpose : IsClean c.purpose
  reference : IsClean c.reference
  remittanceInfo : ∀ info ∈ c.remittanceInfo, IsClean info

/-- For an amount `q`, the rest can be decided at once. -/
theorem mt103Clean_of_all {c : CanonicalPacs008} {q : ℚ} {cents : ℤ}
    (h : (1970 ≤ digitsValue (c.createdAt.1.take 4) ∧
        digitsValue (c.createdAt.1.take 4) ≤ 2069) ∧
      c.amount.value = .fin q ∧
      (c.amount.currency.length = 3 ∧ c.amount.currency.all isUpper = true) ∧
      PartyClean c.debtor ∧ PartyClean c.creditor ∧ (∀ bic ∈ c.destination.bic, IsClean bic) ∧
      IsClean c.purpose ∧ IsClean c.reference ∧ ∀ info ∈ c.remittanceInfo, IsClean info)
    (hcents : q * 10 ^ 2 = cents) : Mt103Clean c := by
  obtain ⟨hyear, hvalue, hcurrency, hdebtor, hcreditor, hbic, hpurpose, hreference, hinfo⟩ := h
  exact ⟨hyear, ⟨q, cents, hvalue, hcents⟩, hcurrency, hdebtor, hcreditor, hbic, hpurpose,
    hreference, hinfo⟩

/-- The account is more than the prefix of its network. -/
def HasAccount (p : Party) : Prop := stripNetworkPrefix p.accountId ≠ []

instance (p : Party) : Decidable (HasAccount p) :=
  inferInstanceAs (Decidable (stripNetworkPrefix p.accountId ≠ []))

/-- The name is not cut behind white space. -/
def NameFits (p : Party) : Prop :=
  ∀ name ∈ p.name, Text.trimEnd (name.substring 35) = name.substring 35

/-- The party has a name, or no line that would be in the place of one. -/
def IsNamed (p : Party) : Prop := p.name.isSome = true ∨ p.address = some []

/-- The remittance information is not cut behind white space. -/
def RemittanceFits (c : CanonicalPacs008) : Prop :=
  ∀ info ∈ c.remittanceInfo, Text.trimEnd (info.substring 105) = info.substring 105

section

variable {s : Text} {p : Party}

theorem IsClean.isLine (h : IsClean s) : IsLine s where
  endFree := h.plain.endFree
  single := h.single
  head := by
    obtain ⟨c, r, rfl⟩ := List.exists_cons_of_ne_nil h.ne_nil
    exact ⟨c, r, rfl, head_of_trim h.trimmed c rfl⟩

/-- The line in the place of an address is a line. -/
theorem isLine_country (h : IsClean s) : IsLine (js "Country: " ++ s) where
  endFree := by
    -- the colon of the line comes before a space, and that of the field before a letter
    have hspace : EndFree (ascii ':' :: ascii ' ' :: s) :=
      EndFree.colon (by decide) (EndFree.append (s := [ascii ' ']) (by decide)
        (h.plain.endFree.of_suffix (List.suffix_cons _ _)))
    have hcountry : js "Country: " ++ s =
        ascii 'C' :: (js "ountry" ++ ascii ':' :: ascii ' ' :: s) := rfl
    rw [hcountry]
    exact EndFree.colon (by decide) (EndFree.append (s := js "Country") (by decide) hspace)
  single := by
    have hcountry : ascii '\n' ∉ js "Country: " := by decide
    simpa [hcountry] using h.single
  head := ⟨ascii 'C', js "ountry: " ++ s, rfl, by decide⟩

theorem isLine_swiftAddress (h : PartyClean p) {line : Text} (hline : line ∈ swiftAddress p) :
    IsLine line := by
  unfold swiftAddress at hline
  cases haddress : p.address with
  | some ls =>
    rw [haddress, Option.map_some, Option.getD_some] at hline
    exact (h.address ls haddress line (List.mem_of_mem_take hline)).isLine
  | none =>
    rw [haddress, Option.map_none, Option.getD_none, List.mem_singleton] at hline
    subst hline
    split
    · rename_i country hcountry
      exact isLine_country (h.country country (Option.filter_eq_some_iff.mp hcountry).1)
    · exact ⟨(by decide : IsPlain (js "Unknown")).endFree, by decide, ascii 'U', js "nknown", rfl, by decide⟩

/-- An account without the prefix of its network is the end of the account. -/
theorem stripNetworkPrefix_suffix (s : Text) : stripNetworkPrefix s <:+ s := by
  unfold stripNetworkPrefix
  split_ifs
  · exact List.drop_suffix 4 s
  · exact List.drop_suffix 5 s
  · exact List.drop_suffix 6 s
  · exact List.suffix_rfl

/-- A line with a slash in front. -/
theorem isLine_slash (hplain : IsPlain s) (hsingle : ascii '\n' ∉ s) : IsLine (ascii '/' :: s) where
  endFree := EndFree.colon (by decide) (EndFree.append (s := [ascii '/']) (by decide)
    (hplain.endFree.of_suffix (List.suffix_cons _ _)))
  single := by
    rw [List.mem_cons, not_or]
    exact ⟨by decide, hsingle⟩
  head := ⟨ascii '/', s, rfl, by decide⟩

/-- The first line of a customer. -/
theorem isLine_account (h : PartyClean p) :
    IsLine (ascii '/' :: stripNetworkPrefix p.accountId) := by
  have hsuffix := stripNetworkPrefix_suffix p.accountId
  exact isLine_slash (fun c hc => h.accountId.plain c (hsuffix.subset hc))
    fun hmem => h.accountId.single (hsuffix.subset hmem)

theorem trim_account (h : PartyClean p) :
    Text.trim (ascii '/' :: stripNetworkPrefix p.accountId) =
      ascii '/' :: stripNetworkPrefix p.accountId := by
  rw [(isLine_account h).trim_eq, Text.trimEnd_cons (by decide),
    trimEnd_of_suffix (trimEnd_of_trim h.accountId.trimmed) (stripNetworkPrefix_suffix p.accountId)]

/-- A name that is cut where it fits is a trimmed line. -/
theorem isLine_name (h : PartyClean p) {name : Text} (hname : name ∈ p.name) :
    IsLine (name.substring 35) := (h.name name hname).isLine.take 34

theorem trim_name (h : PartyClean p) (hfits : NameFits p) {name : Text} (hname : name ∈ p.name) :
    Text.trim (name.substring 35) = name.substring 35 := by
  rw [(isLine_name h hname).trim_eq, hfits name hname]

/-! ### Customers -/

/-- The customer that the encoder makes of a party, up to its IBAN and its bank. -/
structure IsCustomerOf (customer : SwiftCustomer) (p : Party) : Prop where
  account : customer.account = some (stripNetworkPrefix p.accountId)
  name : customer.name = p.name.map fun name => name.substring 35
  address : customer.address = some (swiftAddress p)

section Customer

variable {customer : SwiftCustomer} {n : ℕ}

theorem customerLineList_of_party (hcustomer : IsCustomerOf customer p) (h : PartyClean p) :
    customerLineList n customer =
      (((some (stripNetworkPrefix p.accountId)).filter (· ≠ [])).map (ascii '/' :: ·)).toList ++
      ((p.name.map fun name => name.substring 35).toList ++
        ((swiftAddress p).take n).map fun line => line.substring 35) := by
  have hname : ((customer.name.filter (· ≠ [])).map fun name : Text => name.substring 35) =
      p.name.map fun name => name.substring 35 := by
    rw [hcustomer.name]
    cases hp : p.name with
    | none => rfl
    | some name =>
      obtain ⟨c, r, hcons, -⟩ := (isLine_name h hp).head
      rw [Option.map_some, Option.filter_some_pos (by rw [hcons]; simp), Option.map_some,
        Text.substring, Text.substring, List.take_take, min_self]
  rw [customerLineList, hcustomer.account, hname, hcustomer.address, Option.getD_some]

theorem isLine_customerLineList (hcustomer : IsCustomerOf customer p) (h : PartyClean p)
    {line : Text} (hline : line ∈ customerLineList n customer) : IsLine line := by
  rw [customerLineList_of_party hcustomer h, List.mem_append, List.mem_append] at hline
  rcases hline with hline | hline | hline
  · obtain ⟨account, haccount, rfl⟩ := Option.map_eq_some_iff.mp (Option.mem_toList.mp hline)
    obtain rfl := Option.some.inj (Option.filter_eq_some_iff.mp haccount).1
    exact isLine_account h
  · obtain ⟨name, hname, rfl⟩ := Option.map_eq_some_iff.mp (Option.mem_toList.mp hline)
    exact isLine_name h hname
  · obtain ⟨l, hl, rfl⟩ := List.mem_map.mp hline
    exact (isLine_swiftAddress h (List.mem_of_mem_take hl)).take 34

/-- The lines of a customer, as they are read. -/
theorem map_trim_customerLineList (hcustomer : IsCustomerOf customer p) (h : PartyClean p)
    (haccount : HasAccount p) :
    (customerLineList n customer).map Text.trim =
      (ascii '/' :: stripNetworkPrefix p.accountId) ::
        ((p.name.map fun name => Text.trim (name.substring 35)).toList ++
          ((swiftAddress p).take n).map fun line => Text.trim (line.substring 35)) := by
  have hkept : (some (stripNetworkPrefix p.accountId)).filter (· ≠ []) =
      some (stripNetworkPrefix p.accountId) := Option.filter_some_pos (by simpa [HasAccount] using haccount)
  rw [customerLineList_of_party hcustomer h, hkept, Option.map_some, Option.toList_some,
    List.singleton_append, List.map_cons, trim_account h, List.map_append, List.map_map]
  cases p.name <;> rfl

/-- **The account of a customer is found in its lines.** -/
theorem account_of_party (hcustomer : IsCustomerOf customer p) (h : PartyClean p)
    (haccount : HasAccount p) :
    (customerOfLines ((customerLineList n customer).map Text.trim)).account = customer.account := by
  rw [map_trim_customerLineList hcustomer h haccount, hcustomer.account]
  exact congrArg some (Text.stripPrefix_append (js "/") _)

/-- **The name of a customer is found in its lines**, if it is in the second. -/
theorem name_of_party (hcustomer : IsCustomerOf customer p) (h : PartyClean p)
    (haccount : HasAccount p) (hfits : NameFits p) (hnamed : IsNamed p) :
    (customerOfLines ((customerLineList n customer).map Text.trim)).name = customer.name := by
  rw [map_trim_customerLineList hcustomer h haccount, hcustomer.name]
  change (_ ++ _ : List Text).head? = _
  cases hp : p.name with
  | some name => simp [trim_name h hfits hp]
  | none =>
    -- without a name, the second line would be the first of the address
    have haddress : swiftAddress p = [] := by
      rcases hnamed with hname | haddress
      · rw [hp] at hname
        cases hname
      · rw [swiftAddress, haddress]
        rfl
    simp [haddress]

end Customer

end

/-! ### Remittance information -/

section Remittance

variable {info : Text} {n : ℕ}

/-- One chunk, and the rest of them. -/
theorem join_remittanceChunks (hlength : info.length ≤ 35 * (n + 1)) :
    Text.join (remittanceChunks (n + 1) info) (ascii '\n') = info ∨
      info.drop 35 ≠ [] ∧ (info.drop 35).length ≤ 35 * n ∧
        Text.join (remittanceChunks (n + 1) info) (ascii '\n') =
          info.take 35 ++ ascii '\n' :: Text.join (remittanceChunks n (info.drop 35)) (ascii '\n') := by
  by_cases hnil : info = []
  · exact Or.inl (by rw [hnil]; rfl)
  by_cases hrest : info.drop 35 = []
  · have hempty : remittanceChunks n [] = [] := by cases n <;> rfl
    have htake : info.take 35 = info := List.take_of_length_le (List.drop_eq_nil_iff.mp hrest)
    rw [remittanceChunks, if_neg hnil, hrest, hempty, htake]
    exact Or.inl (by simp [Text.join])
  · have hdrop : (info.drop 35).length ≤ 35 * n := by
      rw [List.length_drop]
      omega
    obtain ⟨chunk, chunks, hchunks⟩ : ∃ chunk chunks,
        remittanceChunks n (info.drop 35) = chunk :: chunks := by
      cases n with
      | zero => exact absurd (List.length_eq_zero_iff.mp (by omega)) hrest
      | succ n =>
        rw [remittanceChunks, if_neg hrest]
        exact ⟨_, _, rfl⟩
    refine Or.inr ⟨hrest, hdrop, ?_⟩
    rw [remittanceChunks, if_neg hnil, hchunks, Text.join_cons_cons]

/-- Without the line breaks, the chunks are what they were cut from. -/
theorem filter_remittanceChunks (hlength : info.length ≤ 35 * n) :
    (Text.join (remittanceChunks n info) (ascii '\n')).filter (· ≠ ascii '\n') =
      info.filter (· ≠ ascii '\n') := by
  induction n generalizing info with
  | zero =>
    obtain rfl : info = [] := List.length_eq_zero_iff.mp (by omega)
    rfl
  | succ n ih =>
    rcases join_remittanceChunks hlength with heq | ⟨-, hdrop, heq⟩
    · rw [heq]
    · rw [heq, List.filter_append, List.filter_cons_of_neg (by simp), ih hdrop, ← List.filter_append,
        List.take_append_drop]

theorem mem_remittanceChunks (hlength : info.length ≤ 35 * n) {c : CodeUnit}
    (hc : c ∈ Text.join (remittanceChunks n info) (ascii '\n')) : c ∈ info ∨ c = ascii '\n' := by
  by_cases hline : c = ascii '\n'
  · exact Or.inr hline
  · have hmem : c ∈ info.filter (· ≠ ascii '\n') := by
      rw [← filter_remittanceChunks hlength]
      exact List.mem_filter.mpr ⟨hc, by simpa using hline⟩
    exact Or.inl (List.mem_filter.mp hmem).1

theorem trimEnd_remittanceChunks (hlength : info.length ≤ 35 * n) (hne : info ≠ [])
    (htrim : Text.trimEnd info = info) :
    Text.join (remittanceChunks n info) (ascii '\n') ≠ [] ∧
      Text.trimEnd (Text.join (remittanceChunks n info) (ascii '\n')) =
        Text.join (remittanceChunks n info) (ascii '\n') := by
  induction n generalizing info with
  | zero => exact absurd (List.length_eq_zero_iff.mp (by omega)) hne
  | succ n ih =>
    rcases join_remittanceChunks hlength with heq | ⟨hrest, hdrop, heq⟩
    · rw [heq]
      exact ⟨hne, htrim⟩
    · obtain ⟨hjoin, hend⟩ := ih hdrop hrest (trimEnd_of_suffix htrim (List.drop_suffix 35 info))
      have hsplit : ∀ r : Text, info.take 35 ++ ascii '\n' :: r =
          (info.take 35 ++ [ascii '\n']) ++ r := by simp
      rw [heq, hsplit, Text.trimEnd_append (by rwa [hend]), hend]
      exact ⟨by simp, rfl⟩

theorem head?_remittanceChunks (hlength : info.length ≤ 35 * n) :
    (Text.join (remittanceChunks n info) (ascii '\n')).head? = info.head? := by
  cases n with
  | zero =>
    obtain rfl : info = [] := List.length_eq_zero_iff.mp (by omega)
    rfl
  | succ n =>
    rcases join_remittanceChunks hlength with heq | ⟨hrest, -, heq⟩
    · rw [heq]
    · rw [heq]
      cases info with
      | nil => exact absurd rfl hrest
      | cons c info => rfl

theorem isPlain_splitRemittance (h : IsPlain info) (hlength : info.length ≤ 140) :
    IsPlain (splitRemittance info) := by
  intro c hc
  rcases mem_remittanceChunks (n := 4) hlength hc with hmem | rfl
  · exact h c hmem
  · decide

/-- A clean text is read from its chunks as it was, but for the line breaks. -/
theorem splitRemittance_read (h : IsClean info) (hlength : info.length ≤ 140) :
    Text.trim (splitRemittance info) = splitRemittance info ∧
      (splitRemittance info).filter (· ≠ ascii '\n') = info := by
  have hlines : info.length ≤ 35 * 4 := hlength
  constructor
  · have hhead := head_of_trim h.trimmed
    rw [← head?_remittanceChunks hlines] at hhead
    exact (Text.trim_eq_trimEnd_of_head hhead).trans
      (trimEnd_remittanceChunks hlines h.ne_nil (trimEnd_of_trim h.trimmed)).2
  · rw [splitRemittance, filter_remittanceChunks hlines, List.filter_eq_self]
    intro c hc
    simpa using fun heq : c = ascii '\n' => h.single (heq ▸ hc)

/-- The text at the end of the remittance information. -/
def remittanceTail (c : CanonicalPacs008) : Text :=
  ((c.remittanceInfo.filter (· ≠ [])).map fun info : Text => info.substring 105).getD c.purpose

/-- What comes before it. -/
def remittanceHead (c : CanonicalPacs008) : Text :=
  if c.reference ≠ [] ∧ c.reference ≠ js "MIPIT-POC" then
    js "/REF/" ++ (c.reference.substring 16 ++ [ascii ' '])
  else []

variable {c : CanonicalPacs008}

theorem length_remittanceTail (hpurpose : c.purpose.length ≤ 35) :
    (remittanceTail c).length ≤ 105 := by
  unfold remittanceTail
  cases c.remittanceInfo.filter (· ≠ []) with
  | some info => exact List.length_take_le 105 info
  | none => exact hpurpose.trans (by norm_num)

theorem length_remittanceHead : (remittanceHead c).length ≤ 22 := by
  have hcut : (c.reference.substring 16).length ≤ 16 := List.length_take_le 16 _
  have href : (js "/REF/").length = 5 := by decide
  unfold remittanceHead
  split_ifs
  · simp only [List.length_append, List.length_singleton, href]
    omega
  · simp

/-- Nothing is cut from the two parts together. -/
theorem buildRemittanceInfo_eq (h : Mt103Clean c) (hpurpose : c.purpose.length ≤ 35) :
    buildRemittanceInfo c = remittanceHead c ++ remittanceTail c := by
  have htail : ((c.remittanceInfo.filter (· ≠ [])).map fun info => [Text.substring info 105]).getD
      (if c.purpose ≠ [] then [c.purpose.substring 35] else []) = [remittanceTail c] := by
    unfold remittanceTail
    cases c.remittanceInfo.filter (· ≠ []) with
    | some info => rfl
    | none => simp [h.purpose.ne_nil, Text.substring, List.take_of_length_le hpurpose]
  have hjoin : Text.join ((if c.reference ≠ [] ∧ c.reference ≠ js "MIPIT-POC" then
      [js "/REF/" ++ c.reference.substring 16] else []) ++ [remittanceTail c]) (ascii ' ') =
      remittanceHead c ++ remittanceTail c := by
    unfold remittanceHead
    split_ifs
    · rw [List.singleton_append, Text.join_cons_cons]
      simp [Text.join]
    · simp [Text.join]
  have hlength : (remittanceHead c ++ remittanceTail c).length ≤ 140 := by
    have htail := length_remittanceTail hpurpose
    have hhead := length_remittanceHead (c := c)
    rw [List.length_append]
    omega
  unfold buildRemittanceInfo
  dsimp only
  rw [htail, hjoin, Text.substring, List.take_of_length_le hlength]

theorem length_buildRemittanceInfo (c : CanonicalPacs008) : (buildRemittanceInfo c).length ≤ 140 :=
  List.length_take_le 140 _

theorem mem_buildRemittanceInfo (h : Mt103Clean c) (hpurpose : c.purpose.length ≤ 35) {u : CodeUnit}
    (hu : u ∈ buildRemittanceInfo c) : u ∈ js "/REF/ " ∨ u ∈ c.reference ∨ u ∈ remittanceTail c := by
  have hspace : js "/REF/ " = js "/REF/" ++ [ascii ' '] := by decide
  rw [buildRemittanceInfo_eq h hpurpose, List.mem_append] at hu
  rcases hu with hu | hu
  · unfold remittanceHead at hu
    split_ifs at hu
    · rw [hspace]
      simp only [List.mem_append] at hu ⊢
      rcases hu with hu | hu | hu
      · exact Or.inl (Or.inl hu)
      · exact Or.inr (Or.inl ((List.take_prefix 16 _).subset hu))
      · exact Or.inl (Or.inr hu)
    · cases hu
  · exact Or.inr (Or.inr hu)

/-- The text at the end is the start of a clean text. -/
theorem remittanceTail_prefix (h : Mt103Clean c) :
    ∃ t, IsClean t ∧ remittanceTail c <+: t ∧ remittanceTail c ≠ [] := by
  unfold remittanceTail
  cases hinfo : c.remittanceInfo.filter (· ≠ []) with
  | some info =>
    have hclean := h.remittanceInfo info (Option.filter_eq_some_iff.mp hinfo).1
    obtain ⟨u, r, hcons, -⟩ := (hclean.isLine.take 104).head
    refine ⟨info, hclean, List.take_prefix 105 info, ?_⟩
    change info.take 105 ≠ []
    rw [hcons]
    exact List.cons_ne_nil u r
  | none => exact ⟨c.purpose, h.purpose, List.prefix_rfl, h.purpose.ne_nil⟩

theorem isPlain_buildRemittanceInfo (h : Mt103Clean c) (hpurpose : c.purpose.length ≤ 35) :
    IsPlain (buildRemittanceInfo c) := by
  obtain ⟨t, ht, hbegins, -⟩ := remittanceTail_prefix h
  have hslash : IsPlain (js "/REF/ ") := by decide
  intro u hu
  rcases mem_buildRemittanceInfo h hpurpose hu with hu | hu | hu
  · exact hslash u hu
  · exact h.reference.plain u hu
  · exact ht.plain u (hbegins.subset hu)

/-- **What is written as remittance information is clean**, if it is not cut behind white space. -/
theorem isClean_buildRemittanceInfo (h : Mt103Clean c) (hpurpose : c.purpose.length ≤ 35)
    (hfits : RemittanceFits c) : IsClean (buildRemittanceInfo c) := by
  obtain ⟨t, ht, hbegins, hne⟩ := remittanceTail_prefix h
  have htrim : Text.trimEnd (remittanceTail c) = remittanceTail c := by
    unfold remittanceTail
    cases hinfo : c.remittanceInfo.filter (· ≠ []) with
    | some info => exact hfits info (Option.filter_eq_some_iff.mp hinfo).1
    | none => exact trimEnd_of_trim h.purpose.trimmed
  have hend : Text.trimEnd (buildRemittanceInfo c) = buildRemittanceInfo c := by
    rw [buildRemittanceInfo_eq h hpurpose, Text.trimEnd_append (by rwa [htrim]), htrim]
  refine ⟨?_, ?_, ?_, isPlain_buildRemittanceInfo h hpurpose⟩
  · rw [buildRemittanceInfo_eq h hpurpose]
    exact List.append_ne_nil_of_right_ne_nil _ hne
  · refine (Text.trim_eq_trimEnd_of_head fun u hu => ?_).trans hend
    rw [buildRemittanceInfo_eq h hpurpose] at hu
    unfold remittanceHead at hu
    split_ifs at hu
    · obtain rfl := Option.some.inj hu
      decide
    · obtain ⟨r, hr⟩ := hbegins
      refine head_of_trim ht.trimmed u ?_
      rw [List.nil_append] at hu
      rw [← hr, List.head?_append, Option.mem_def.mp hu]
      rfl
  · intro hline
    rcases mem_buildRemittanceInfo h hpurpose hline with hu | hu | hu
    · exact absurd hu (by decide)
    · exact h.reference.single hu
    · exact ht.single (hbegins.subset hu)

end Remittance

end MipitCore.Translation
