import ContractProject.Cadence.Import
import ContractProject.Proofs.Result
import Mathlib.Tactic

/-!
Imports by what they say. A clause is an import and an atom is a token, each without the place where
it stands; tokens are read as an import exactly if their atoms spell its clause.
-/

namespace ContractProject.Cadence

/-- What a token says. -/
inductive Atom where
  | identifier (name : String)
  | string (text : String)
  | number (text : String)
  | symbol (c : Char)
  deriving DecidableEq, Repr

def TokenKind.atom (text : String) : TokenKind → Atom
  | .identifier => .identifier text
  | .string => .string text
  | .number => .number text
  | .symbol c => .symbol c

def Token.atom (t : Token) : Atom := t.kind.atom t.text

theorem Token.isWord_iff {t : Token} {word : String} :
    t.isWord word ↔ t.atom = .identifier word := by
  cases h : t.kind <;> simp [Token.isWord, Token.atom, TokenKind.atom, h]

theorem Token.kind_eq_identifier_iff {t : Token} :
    t.kind = .identifier ↔ t.atom = .identifier t.text := by
  cases h : t.kind <;> simp [Token.atom, TokenKind.atom, h]

theorem Token.kind_eq_symbol_iff {t : Token} {c : Char} :
    t.kind = .symbol c ↔ t.atom = .symbol c := by
  cases h : t.kind <;> simp [Token.atom, TokenKind.atom, h]

theorem Token.of_atom_identifier {t : Token} {name : String} (h : t.atom = .identifier name) :
    t.kind = .identifier ∧ t.text = name := by
  cases hk : t.kind <;> simp_all [Token.atom, TokenKind.atom]

def ImportedName.atoms (n : ImportedName) : List Atom :=
  match n.localAs with
  | none => [.identifier n.name]
  | some own => [.identifier n.name, .identifier "as", .identifier own]

def nameAtoms : List ImportedName → List Atom
  | [] => []
  | [n] => n.atoms
  | n :: more => n.atoms ++ .symbol ',' :: nameAtoms more

/-- Whether the atom is one of those that a location is written as. -/
def Location.Spelled (location : Location) (a : Atom) : Prop :=
  match location with
  | .string text => a = .string text
  | .identifier name => a = .identifier name
  | .address target => ∃ literal, a = .number literal ∧
      ['0', 'x'].isPrefixOf literal.toList ∧ Address.parse literal = .ok target

/-- What an import says. -/
structure Clause where
  names : List ImportedName
  location : Location
  deriving DecidableEq, Repr

def Import.clause (i : Import) : Clause := ⟨i.names, i.location⟩

/-- The ways to write a clause. -/
inductive Clause.Spelled : Clause → List Atom → Prop
  | path (text : String) : Spelled ⟨[], .string text⟩ [.identifier "import", .string text]
  | name (name : String) : Spelled ⟨[], .identifier name⟩ [.identifier "import", .identifier name]
  | names {names : List ImportedName} {location : Location} {a : Atom} : names ≠ [] →
      location.Spelled a →
      Spelled ⟨names, location⟩
        (.identifier "import" :: (nameAtoms names ++ [.identifier "from", a]))

/-- An import of a name alone, which any of these atoms would make another import. -/
def Clause.isLone (c : Clause) : Bool :=
  match c with
  | ⟨[], .identifier _⟩ => true
  | _ => false

def continuations : List Atom := [.identifier "as", .symbol ',', .identifier "from"]

/-- The clause goes no further when these atoms follow. -/
def Clause.EndsBefore (c : Clause) (following : List Atom) : Prop :=
  c.isLone → ∀ a ∈ following.head?, a ∉ continuations

theorem locationOf_eq_ok_iff {t : Token} {location : Location} :
    locationOf t = .ok location ↔ location.Spelled t.atom := by
  unfold locationOf Location.Spelled Token.atom
  cases t.kind with
  | identifier => cases location <;> simp [TokenKind.atom]
  | string => cases location <;> simp [TokenKind.atom]
  | symbol c => cases location <;> simp [TokenKind.atom]
  | number =>
    by_cases hx : ['0', 'x'].isPrefixOf t.text.toList
    · rw [if_pos hx]
      cases hp : Address.parse t.text <;> cases location <;> simp_all [TokenKind.atom]
    · rw [if_neg hx]
      cases location <;> simp_all [TokenKind.atom]

/-- A name is read off tokens that spell it. -/
theorem importedName_append {tokens : List Token} {n : ImportedName} (rest : List Token)
    (spelled : tokens.map Token.atom = n.atoms)
    (stop : ∀ t ∈ rest.head?, t.atom ≠ .identifier "as") :
    importedName (tokens ++ rest) = .ok (n, rest) := by
  obtain ⟨name, localAs⟩ := n
  cases localAs with
  | none =>
    obtain ⟨t, rfl, ht⟩ := List.map_eq_singleton_iff.1 spelled
    obtain ⟨hk, rfl⟩ := Token.of_atom_identifier ht
    cases rest with
    | nil => simp [importedName, hk]
    | cons u rest =>
      have hu : ¬ u.isWord "as" := by
        rw [Token.isWord_iff]
        exact stop u rfl
      simp [importedName, hk, hu]
  | some own =>
    obtain ⟨t, more, rfl, ht, hm⟩ := List.map_eq_cons_iff.1 spelled
    obtain ⟨u, more, rfl, hu, hm⟩ := List.map_eq_cons_iff.1 hm
    obtain ⟨v, rfl, hv⟩ := List.map_eq_singleton_iff.1 hm
    obtain ⟨hk, rfl⟩ := Token.of_atom_identifier ht
    obtain ⟨hk', rfl⟩ := Token.of_atom_identifier hv
    have hw : u.isWord "as" := Token.isWord_iff.2 hu
    simp [importedName, hk, hk', hw]

/-- What a name was read off spells it. -/
theorem exists_append_of_importedName {tokens rest : List Token} {n : ImportedName}
    (h : importedName tokens = .ok (n, rest)) :
    ∃ used, tokens = used ++ rest ∧ used.map Token.atom = n.atoms ∧
      (n.localAs = none → ∀ t ∈ rest.head?, t.atom ≠ .identifier "as") := by
  unfold importedName at h
  split at h
  · contradiction
  · next t tail =>
    split at h
    case isFalse => contradiction
    next hk =>
    rw [Token.kind_eq_identifier_iff] at hk
    split at h
    · obtain ⟨rfl, rfl⟩ := Prod.mk.inj (Except.ok.inj h)
      exact ⟨[t], by simp, by simp [ImportedName.atoms, hk], by simp⟩
    · next word after =>
      split at h
      · next hw =>
        split at h
        · contradiction
        · next own after =>
          split at h
          case isFalse => contradiction
          next ho =>
          obtain ⟨rfl, rfl⟩ := Prod.mk.inj (Except.ok.inj h)
          rw [Token.kind_eq_identifier_iff] at ho
          rw [Token.isWord_iff] at hw
          exact ⟨[t, word, own], by simp, by simp [ImportedName.atoms, hk, hw, ho], by simp⟩
      · next hw =>
        obtain ⟨rfl, rfl⟩ := Prod.mk.inj (Except.ok.inj h)
        rw [Token.isWord_iff] at hw
        exact ⟨[t], by simp, by simp [ImportedName.atoms, hk], by simpa using hw⟩

theorem importedNames_of_last {tokens rest : List Token} {n : ImportedName}
    (h : importedName tokens = .ok (n, rest)) (stop : ∀ t ∈ rest.head?, t.kind ≠ .symbol ',') :
    importedNames tokens = .ok ([n], rest) := by
  rw [importedNames]
  split
  · next hn => rw [h] at hn; contradiction
  · next hn =>
    rw [h] at hn
    obtain ⟨rfl, rfl⟩ := Prod.mk.inj (Except.ok.inj hn)
    rfl
  · next comma after hn =>
    rw [h] at hn
    obtain ⟨rfl, rfl⟩ := Prod.mk.inj (Except.ok.inj hn)
    rw [if_neg (stop comma rfl)]

theorem importedNames_of_comma {tokens after : List Token} {n : ImportedName} {comma : Token}
    (h : importedName tokens = .ok (n, comma :: after)) (hc : comma.kind = .symbol ',') :
    importedNames tokens = (importedNames after).map fun (more, rest) => (n :: more, rest) := by
  rw [importedNames]
  split
  · next hn => rw [h] at hn; contradiction
  · next hn => rw [h] at hn; simp at hn
  · next comma' after' hn =>
    rw [h] at hn
    obtain ⟨rfl, hr⟩ := Prod.mk.inj (Except.ok.inj hn)
    obtain ⟨rfl, rfl⟩ := List.cons.inj hr
    rw [if_pos hc]

theorem importedNames_append {names : List ImportedName} {tokens : List Token}
    (rest : List Token) (some_name : names ≠ []) (spelled : tokens.map Token.atom = nameAtoms names)
    (stop : ∀ t ∈ rest.head?, t.atom ≠ .identifier "as" ∧ t.atom ≠ .symbol ',') :
    importedNames (tokens ++ rest) = .ok (names, rest) := by
  induction names generalizing tokens with
  | nil => contradiction
  | cons n more ih =>
    cases more with
    | nil =>
      apply importedNames_of_last (importedName_append rest spelled fun t ht => (stop t ht).1)
      intro t ht
      rw [ne_eq, Token.kind_eq_symbol_iff]
      exact (stop t ht).2
    | cons m more =>
      obtain ⟨us, vs, rfl, hu, hv⟩ := List.map_eq_append_iff.1 spelled
      obtain ⟨comma, ws, rfl, hc, hw⟩ := List.map_eq_cons_iff.1 hv
      have hn : importedName (us ++ (comma :: (ws ++ rest))) = .ok (n, comma :: (ws ++ rest)) := by
        apply importedName_append _ hu
        intro t ht
        obtain rfl : comma = t := by simpa using ht
        simp [hc]
      rw [List.append_assoc, List.cons_append,
        importedNames_of_comma hn (Token.kind_eq_symbol_iff.2 hc), ih (by simp) hw]
      rfl

theorem exists_append_of_importedNames {tokens rest : List Token} {names : List ImportedName}
    (h : importedNames tokens = .ok (names, rest)) :
    ∃ used, tokens = used ++ rest ∧ names ≠ [] ∧ used.map Token.atom = nameAtoms names ∧
      (∀ t ∈ rest.head?, t.atom ≠ .symbol ',') ∧
      ∀ n, names = [⟨n, none⟩] → ∀ t ∈ rest.head?, t.atom ≠ .identifier "as" := by
  fun_induction importedNames tokens generalizing names rest with
  | case1 => contradiction
  | case2 tokens n hn =>
    obtain ⟨rfl, rfl⟩ := Prod.mk.inj (Except.ok.inj h)
    obtain ⟨used, rfl, spelled, -⟩ := exists_append_of_importedName hn
    exact ⟨used, rfl, by simp, spelled, by simp, by simp⟩
  | case3 tokens n comma after hn hc _ ih =>
    obtain ⟨⟨more, tail⟩, hm, hp⟩ := map_eq_ok_iff.1 h
    obtain ⟨rfl, rfl⟩ := Prod.mk.inj hp
    obtain ⟨used, rfl, spelled, -⟩ := exists_append_of_importedName hn
    obtain ⟨used', rfl, some_name, spelled', stop, -⟩ := ih hm
    rw [Token.kind_eq_symbol_iff] at hc
    refine ⟨used ++ comma :: used', by simp, by simp, ?_, stop, by simp [some_name]⟩
    cases more with
    | nil => contradiction
    | cons m more => simp [nameAtoms, spelled, spelled', hc]
  | case4 tokens n comma after hn hc =>
    obtain ⟨rfl, rfl⟩ := Prod.mk.inj (Except.ok.inj h)
    obtain ⟨used, rfl, spelled, stop⟩ := exists_append_of_importedName hn
    rw [Token.kind_eq_symbol_iff] at hc
    refine ⟨used, rfl, by simp, spelled, by simpa using hc, ?_⟩
    intro name hname
    exact stop (by simp_all)

theorem exists_nameAtoms_cons {names : List ImportedName} (some_name : names ≠ []) :
    ∃ name more, nameAtoms names = .identifier name :: more := by
  match names, some_name with
  | [⟨name, none⟩], _ => exact ⟨name, [], rfl⟩
  | [⟨name, some own⟩], _ => exact ⟨name, _, rfl⟩
  | ⟨name, none⟩ :: m :: more, _ => exact ⟨name, _, rfl⟩
  | ⟨name, some own⟩ :: m :: more, _ => exact ⟨name, _, rfl⟩

/-- What follows names and `from` decides. -/
theorem importDeclaration_names {names : List ImportedName} {tokens : List Token}
    {keyword word : Token} (last : Token) (rest : List Token) (some_name : names ≠ [])
    (spelled : tokens.map Token.atom = nameAtoms names) (hw : word.atom = .identifier "from") :
    importDeclaration keyword (tokens ++ word :: last :: rest) =
      (locationOf last).map fun location =>
        (⟨names, location, ⟨keyword.span.start, last.span.stop⟩⟩, rest) := by
  obtain ⟨name, more, ha⟩ := exists_nameAtoms_cons some_name
  obtain ⟨first, tail, rfl, hf, -⟩ := List.map_eq_cons_iff.1 (spelled.trans ha)
  have hn := importedNames_append (word :: last :: rest) some_name spelled (by simp [hw])
  have hk := (Token.of_atom_identifier hf).1
  rw [List.cons_append] at hn ⊢
  simp [importDeclaration, hk, hn, Token.isWord_iff.2 hw]

/-- An import is read off tokens that spell its clause. -/
theorem importDeclaration_append {c : Clause} {keyword : Token} {tokens : List Token}
    (rest : List Token) (spelled : c.Spelled ((keyword :: tokens).map Token.atom))
    (ends : c.EndsBefore (rest.map Token.atom)) :
    ∃ last ∈ tokens.getLast?, importDeclaration keyword (tokens ++ rest) =
      .ok (⟨c.names, c.location, ⟨keyword.span.start, last.span.stop⟩⟩, rest) := by
  generalize ha : (keyword :: tokens).map Token.atom = atoms at spelled
  cases spelled with
  | path text =>
    obtain ⟨t, rfl, ht⟩ := List.map_eq_singleton_iff.1 (List.cons.inj ha).2
    refine ⟨t, rfl, ?_⟩
    cases hk : t.kind <;> simp_all [importDeclaration, Token.atom, TokenKind.atom]
  | name name =>
    -- the only clause that is read further than it is spelled, to see whether it goes on
    obtain ⟨t, rfl, ht⟩ := List.map_eq_singleton_iff.1 (List.cons.inj ha).2
    refine ⟨t, rfl, ?_⟩
    have stop : ∀ u ∈ rest.head?, u.atom ∉ continuations := by
      intro u hu
      exact ends rfl u.atom (by simp [Option.mem_def.1 hu])
    have hn : importedNames ([t] ++ rest) = .ok ([⟨name, none⟩], rest) := by
      apply importedNames_append rest (by simp) (by simp [nameAtoms, ImportedName.atoms, ht])
      intro u hu
      have := stop u hu
      simp only [continuations, List.mem_cons, List.not_mem_nil, or_false, not_or] at this
      exact ⟨this.1, this.2.1⟩
    have hf : ((rest.head?.map (·.isWord "from")).getD false) = false := by
      cases hr : rest.head? with
      | none => rfl
      | some u =>
        have hu : u.atom ≠ .identifier "from" := fun h =>
          stop u hr (by simp [h, continuations])
        rw [ne_eq, ← Token.isWord_iff] at hu
        simpa using hu
    have hk := (Token.of_atom_identifier ht).1
    rw [List.singleton_append] at hn ⊢
    simp [importDeclaration, hk, hn, hf]
  | @names names location a some_name hl =>
    obtain ⟨us, vs, rfl, hu, hv⟩ := List.map_eq_append_iff.1 (List.cons.inj ha).2
    obtain ⟨word, ws, rfl, hw, hws⟩ := List.map_eq_cons_iff.1 hv
    obtain ⟨last, rfl, rfl⟩ := List.map_eq_singleton_iff.1 hws
    refine ⟨last, by simp, ?_⟩
    rw [List.append_assoc, List.cons_append, List.singleton_append,
      importDeclaration_names last rest some_name hu hw, locationOf_eq_ok_iff.2 hl, map_ok]

/-- The ways in which an import is read. -/
theorem importDeclaration_cases {keyword : Token} {tokens rest : List Token} {i : Import}
    (h : importDeclaration keyword tokens = .ok (i, rest)) :
    (∃ first, first.kind = .string ∧ tokens = first :: rest ∧
      i = ⟨[], .string first.text, ⟨keyword.span.start, first.span.stop⟩⟩) ∨
    (∃ names word last location, importedNames tokens = .ok (names, word :: last :: rest) ∧
      word.isWord "from" ∧ locationOf last = .ok location ∧
      i = ⟨names, location, ⟨keyword.span.start, last.span.stop⟩⟩) ∨
    (∃ name first more, tokens = first :: more ∧
      importedNames tokens = .ok ([⟨name, none⟩], rest) ∧
      (∀ word ∈ rest.head?, ¬ word.isWord "from") ∧
      i = ⟨[], .identifier name, ⟨keyword.span.start, first.span.stop⟩⟩) := by
  unfold importDeclaration at h
  split at h
  · contradiction
  next first tail =>
  split at h
  · next hf =>
    obtain ⟨rfl, rfl⟩ := Prod.mk.inj (Except.ok.inj h)
    exact .inl ⟨first, hf, rfl, rfl⟩
  · next hf =>
    split at h
    · contradiction
    next names after hn =>
    split at h
    · next hw =>
      split at h
      · contradiction
      next last more ht =>
      obtain ⟨location, hl, hp⟩ := map_eq_ok_iff.1 h
      obtain ⟨rfl, rfl⟩ := Prod.mk.inj hp
      obtain ⟨word, rfl⟩ : ∃ word, after = word :: last :: more := by
        cases after <;> simp_all
      exact .inr (.inl ⟨names, word, last, location, hn, by simpa using hw, hl, rfl⟩)
    · next hw =>
      split at h
      case h_2 => contradiction
      next name =>
      obtain ⟨rfl, rfl⟩ := Prod.mk.inj (Except.ok.inj h)
      refine .inr (.inr ⟨name, first, tail, rfl, hn, ?_, rfl⟩)
      intro word hword
      simpa [Option.mem_def.1 hword] using hw
  · contradiction

/-- What an import was read off spells its clause, from the keyword to the last token. -/
theorem exists_append_of_importDeclaration {keyword : Token} {tokens rest : List Token}
    {i : Import} (hk : keyword.atom = .identifier "import")
    (h : importDeclaration keyword tokens = .ok (i, rest)) :
    ∃ used, tokens = used ++ rest ∧ i.clause.Spelled ((keyword :: used).map Token.atom) ∧
      (∃ last ∈ used.getLast?, i.span = ⟨keyword.span.start, last.span.stop⟩) ∧
      i.clause.EndsBefore (rest.map Token.atom) := by
  obtain ⟨first, hf, rfl, rfl⟩ | ⟨names, word, last, location, hn, hw, hl, rfl⟩ |
    ⟨name, first, more, rfl, hn, hw, rfl⟩ := importDeclaration_cases h
  · refine ⟨[first], rfl, ?_, ⟨first, rfl, rfl⟩, ?_⟩
    · have ha : first.atom = .string first.text := by simp [Token.atom, TokenKind.atom, hf]
      simpa [hk, ha, Import.clause] using Clause.Spelled.path first.text
    · simp [Clause.EndsBefore, Clause.isLone, Import.clause]
  · obtain ⟨used, rfl, some_name, spelled, -, -⟩ := exists_append_of_importedNames hn
    rw [Token.isWord_iff] at hw
    refine ⟨used ++ [word, last], by simp, ?_, ⟨last, by simp, rfl⟩, ?_⟩
    · simpa [hk, spelled, hw, Import.clause] using
        Clause.Spelled.names some_name (locationOf_eq_ok_iff.1 hl)
    · intro lone
      cases names with
      | nil => contradiction
      | cons n names => simp [Clause.isLone, Import.clause] at lone
  · obtain ⟨used, hu, -, spelled, comma, lone⟩ := exists_append_of_importedNames hn
    obtain ⟨t, rfl, ht⟩ := List.map_eq_singleton_iff.1 spelled
    obtain ⟨rfl, rfl⟩ := List.cons.inj hu
    refine ⟨[first], rfl, ?_, ⟨first, rfl, rfl⟩, ?_⟩
    · simpa [hk, ht, Import.clause, ImportedName.atoms] using Clause.Spelled.name name
    · -- whatever could go on with the name would have been read
      intro _ a ha
      obtain ⟨u, hu, rfl⟩ := Option.map_eq_some_iff.1 (List.head?_map .. ▸ ha)
      have hf : u.atom ≠ .identifier "from" := by
        rw [ne_eq, ← Token.isWord_iff]
        exact hw u hu
      simp [continuations, lone name rfl u hu, comma u hu, hf]

end ContractProject.Cadence
