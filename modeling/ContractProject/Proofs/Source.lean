import ContractProject.Error
import ContractProject.Proofs.Address.Spelling

/-!
A source is read back from the text that it is written as if its network has no separator in it, as
that of a source that was read has none.
-/

namespace ContractProject

namespace Source

variable {separator before after : List Char}

theorem eq_append_of_cut? {text : List Char} (h : cut? separator text = some (before, after)) :
    text = before ++ separator ++ after := by
  induction text generalizing before with
  | nil =>
    rw [cut?] at h
    split at h
    · next hempty =>
      obtain ⟨rfl, rfl⟩ := Prod.mk.inj (Option.some.inj h)
      simp [List.isEmpty_iff.1 hempty]
    · cases h
  | cons c text ih =>
    rw [cut?] at h
    split at h
    · next hprefix =>
      obtain ⟨rfl, rfl⟩ := Prod.mk.inj (Option.some.inj h)
      rw [List.isPrefixOf_iff_prefix] at hprefix
      rw [List.nil_append, List.prefix_iff_eq_append.1 hprefix]
    · obtain ⟨⟨before, after⟩, hcut, hpair⟩ := Option.map_eq_some_iff.1 h
      obtain ⟨rfl, rfl⟩ := Prod.mk.inj hpair
      rw [ih hcut, List.cons_append, List.cons_append]

theorem cut?_separator (hne : separator ≠ []) (after : List Char) :
    cut? separator (separator ++ after) = some ([], after) := by
  obtain ⟨c, separator, rfl⟩ := List.exists_cons_of_ne_nil hne
  have hprefix : (c :: separator).isPrefixOf (c :: separator ++ after) :=
    List.isPrefixOf_iff_prefix.2 (List.prefix_append _ _)
  rw [List.cons_append] at hprefix ⊢
  rw [cut?, if_pos hprefix, ← List.cons_append, List.drop_left]

/-- A text is cut at the first separator, so there is none before that. -/
theorem not_infix_of_cut? {text : List Char} (hne : separator ≠ [])
    (h : cut? separator text = some (before, after)) : ¬ separator <:+: before := by
  induction text generalizing before with
  | nil =>
    rw [cut?, if_neg (by simpa using hne)] at h
    cases h
  | cons c text ih =>
    rw [cut?] at h
    split at h
    · obtain ⟨rfl, rfl⟩ := Prod.mk.inj (Option.some.inj h)
      simpa using hne
    · next hprefix =>
      obtain ⟨⟨before, after⟩, hcut, hpair⟩ := Option.map_eq_some_iff.1 h
      obtain ⟨rfl, rfl⟩ := Prod.mk.inj hpair
      rw [List.infix_cons_iff, not_or]
      refine ⟨fun hstarts => hprefix ?_, ih hcut⟩
      rw [eq_append_of_cut? hcut, List.isPrefixOf_iff_prefix]
      exact hstarts.trans ⟨separator ++ after, by simp⟩

/-- The separator of networks does not overlap itself, so the first one after a text without any is
found where it is put. -/
theorem cut?_of_not_infix (h : ¬ [':', '/', '/'] <:+: before) (after : List Char) :
    cut? [':', '/', '/'] (before ++ [':', '/', '/'] ++ after) = some (before, after) := by
  induction before with
  | nil => exact cut?_separator (by simp) after
  | cons c before ih =>
    rw [List.infix_cons_iff, not_or] at h
    have hprefix : ¬ [':', '/', '/'] <+: c :: (before ++ [':', '/', '/'] ++ after) := by
      rintro ⟨rest, hrest⟩
      -- a separator from here on would end within the text, or in the middle of the one after it
      match before with
      | [] => simp at hrest
      | [d] => simp at hrest
      | d :: e :: before =>
        simp only [List.cons_append, List.nil_append, List.cons.injEq] at hrest
        obtain ⟨rfl, rfl, rfl, -⟩ := hrest
        exact h.1 ⟨before, rfl⟩
    rw [List.cons_append, List.cons_append, cut?,
      if_neg (by rwa [List.isPrefixOf_iff_prefix]), ih h.2, Option.map_some]

theorem cut?_singleton {c : Char} (h : c ∉ before) (after : List Char) :
    cut? [c] (before ++ c :: after) = some (before, after) := by
  induction before with
  | nil => exact cut?_separator (by simp) after
  | cons x before ih =>
    rw [List.mem_cons, not_or] at h
    rw [List.cons_append, cut?, if_neg (by simp [h.1]), ih h.2, Option.map_some]

/-- A text that can stand before the separator. -/
structure IsNetwork (network : String) : Prop where
  ne_empty : network ≠ ""
  no_separator : ¬ [':', '/', '/'] <:+: network.toList

/-- A text is read as a source if it is the source's network, a separator, an address, a point and
the source's contract. -/
theorem parse_eq_ok_iff {text : String} {s : Source} : parse text = .ok s ↔
    (IsNetwork s.network ∧ s.contract ≠ "") ∧
      ∃ address, text = s.network ++ "://" ++ address ++ "." ++ s.contract ∧
        Address.parse address = .ok s.address := by
  constructor
  · intro h
    unfold parse at h
    split at h
    · cases h
    next network rest hnetwork =>
    split at h
    · cases h
    next address contract haddress =>
    split_ifs at h with hno hno'
    split at h
    · next a hparse =>
      obtain rfl := Except.ok.inj h
      refine ⟨⟨⟨?_, ?_⟩, ?_⟩, String.ofList address, ?_, hparse⟩
      · rwa [List.isEmpty_iff, ← String.ofList_eq_empty_iff] at hno
      · rw [String.toList_ofList]
        exact not_infix_of_cut? (by simp) hnetwork
      · rwa [List.isEmpty_iff, ← String.ofList_eq_empty_iff] at hno'
      · rw [← String.toList_inj, eq_append_of_cut? hnetwork, eq_append_of_cut? haddress]
        simp
    · cases h
  · rintro ⟨⟨network, contract⟩, address, rfl, haddress⟩
    have htext : (s.network ++ "://" ++ address ++ "." ++ s.contract).toList =
        s.network.toList ++ [':', '/', '/'] ++ (address.toList ++ '.' :: s.contract.toList) := by
      simp
    have hpoint : '.' ∉ address.toList := Address.point_not_mem_of_parse haddress
    have hnetwork : s.network.toList.isEmpty = false := by
      simpa using network.ne_empty
    have hcontract : s.contract.toList.isEmpty = false := by simpa using contract
    rw [parse, htext, cut?_of_not_infix network.no_separator]
    simp [cut?_singleton hpoint, hnetwork, hcontract, haddress]

theorem isNetwork_of_parse {text : String} {s : Source} (h : parse text = .ok s) :
    IsNetwork s.network ∧ s.contract ≠ "" := (parse_eq_ok_iff.1 h).1

/-- A source is read from the text that it is written as if that has its parts. -/
theorem parse_toText {s : Source} (network : IsNetwork s.network) (contract : s.contract ≠ "") :
    parse s.toText = .ok s :=
  parse_eq_ok_iff.2 ⟨⟨network, contract⟩, s.address.toHex, rfl, s.address.parse_toHex⟩

theorem parse_toText_of_parse {text : String} {s : Source} (h : parse text = .ok s) :
    parse s.toText = .ok s :=
  have ⟨network, contract⟩ := isNetwork_of_parse h
  parse_toText network contract

/-- A text is read as a source exactly if it names the network and the contract as they are, with an
address that is read between them, and the source is read back from the text that it is written as.
Of all sources those are read back that have a network without a separator in it and a contract. -/
theorem parse_iff_parse_toText :
    (∀ (text : String) (s : Source), parse text = .ok s ↔ parse s.toText = .ok s ∧
      ∃ address, text = s.network ++ "://" ++ address ++ "." ++ s.contract ∧
        Address.parse address = .ok s.address) ∧
    ∀ s : Source, parse s.toText = .ok s ↔
      s.network ≠ "" ∧ ¬ "://".toList <:+: s.network.toList ∧ s.contract ≠ "" := by
  have hparts (s : Source) : parse s.toText = .ok s ↔ IsNetwork s.network ∧ s.contract ≠ "" :=
    ⟨isNetwork_of_parse, fun ⟨network, contract⟩ => parse_toText network contract⟩
  refine ⟨fun text s => by rw [hparts, parse_eq_ok_iff], fun s => ?_⟩
  rw [hparts]
  constructor
  · rintro ⟨⟨hne, hno⟩, contract⟩
    exact ⟨hne, by simpa using hno, contract⟩
  · rintro ⟨hne, hno, contract⟩
    exact ⟨⟨hne, by simpa using hno⟩, contract⟩

/-- The network ends at the first separator, also where it looks like one begins before it. -/
example : (parse "a.b:/://0x1.C.d://e").map (fun s => (s.network, s.address.toNat, s.contract)) =
    .ok ("a.b:/", 1, "C.d://e") := by decide +kernel

theorem read_eq_ok_iff {text : String} {s : Source} : read text = .ok s ↔ parse text = .ok s := by
  unfold read
  split
  · next hparse => simp [hparse]
  · next hparse => simp [hparse]

theorem read_toText_of_read {text : String} {s : Source} (h : read text = .ok s) :
    read s.toText = .ok s :=
  read_eq_ok_iff.2 (parse_toText_of_parse (read_eq_ok_iff.1 h))

end Source

end ContractProject
