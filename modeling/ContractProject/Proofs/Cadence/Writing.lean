import ContractProject.Cadence.Program
import ContractProject.Proofs.Address
import ContractProject.Proofs.Cadence.Rewriting

/-!
Imports as they are written anew: of names from an address, and of names alone, one a line. Both
stand alone; the first ends in a number, which must not be followed by more of it, and the second
can stand before anything.
-/

namespace ContractProject.Cadence

/-- Whether a text is one identifier. -/
def isName (name : String) : Bool :=
  match name.toList with
  | [] => false
  | c :: rest => isNameStart c && rest.all isNamePart

def ImportedName.IsName (n : ImportedName) : Prop := isName n.name ∧ ∀ own ∈ n.localAs, isName own

def nameLexeme (name : String) : Lexeme := ⟨some .identifier, name.toList⟩

def space : Lexeme := ⟨none, [' ']⟩

def newline : Lexeme := ⟨none, ['\n']⟩

def comma : Lexeme := ⟨some (.symbol ','), [',']⟩

def stringLexeme (text : String) : Lexeme := ⟨some .string, '"' :: (text.toList ++ ['"'])⟩

def addressLexeme (a : Address) : Lexeme := ⟨some .number, a.toLiteral.toList⟩

theorem valid_nameLexeme {name : String} (h : isName name) : (nameLexeme name).Valid := by
  unfold isName at h
  unfold nameLexeme
  split at h
  · contradiction
  · next c rest hl =>
    rw [Bool.and_eq_true, List.all_eq_true] at h
    rw [hl]
    exact .name h.1 h.2

theorem isName_of_atom {l : Lexeme} {name : String} (valid : l.Valid)
    (h : l.atom? = some (.identifier name)) : isName name := by
  cases valid with
  | @name c rest hc hr =>
    obtain rfl : String.ofList (c :: rest) = name := by
      simpa only [Lexeme.atom?, TokenKind.atom, Lexeme.text, Option.map_some, Option.some.injEq,
        Atom.identifier.injEq, reduceCtorEq, if_false] using h
    rw [isName, String.toList_ofList]
    simpa [hc] using hr
  | _ => simp [Lexeme.atom?, TokenKind.atom] at h

@[simp] theorem atom?_nameLexeme (name : String) :
    (nameLexeme name).atom? = some (.identifier name) := by
  simp [nameLexeme, Lexeme.atom?, TokenKind.atom, Lexeme.text]

@[simp] theorem atom?_space : space.atom? = none := rfl

@[simp] theorem atom?_comma : comma.atom? = some (.symbol ',') := rfl

@[simp] theorem atom?_stringLexeme (text : String) :
    (stringLexeme text).atom? = some (.string text) := by
  simp [stringLexeme, Lexeme.atom?, TokenKind.atom, Lexeme.text]

@[simp] theorem atom?_addressLexeme (a : Address) :
    (addressLexeme a).atom? = some (.number a.toLiteral) := by
  simp [addressLexeme, Lexeme.atom?, TokenKind.atom, Lexeme.text]

theorem valid_space : space.Valid := .blank (by decide)

theorem valid_newline : newline.Valid := .blank (by decide)

theorem valid_comma : comma.Valid :=
  .symbol (by decide) (by decide) (by decide) (by decide)

theorem lexed_space {after : List Char} {ls : List Lexeme} (h : Lexed after ls) :
    Lexed after (space :: ls) :=
  ⟨valid_space, by simp [Lexeme.EndsBefore, Lexeme.growsBy, space], h⟩

theorem lexed_name {name : String} {after : List Char} {ls : List Lexeme} (hn : isName name)
    (stop : ∀ d ∈ (rawText ls ++ after).head?, isNamePart d = false) (h : Lexed after ls) :
    Lexed after (nameLexeme name :: ls) := ⟨valid_nameLexeme hn, stop, h⟩

/-- A name, with the alias after it if there is one. -/
def ImportedName.lexemes (n : ImportedName) : List Lexeme :=
  match n.localAs with
  | none => [nameLexeme n.name]
  | some own => [nameLexeme n.name, space, nameLexeme "as", space, nameLexeme own]

/-- Names separated by commas. -/
def nameLexemes : List ImportedName → List Lexeme
  | [] => []
  | [n] => n.lexemes
  | n :: more => n.lexemes ++ comma :: space :: nameLexemes more

/-- An import of names up to the location. -/
def fromLexemes (names : List ImportedName) : List Lexeme :=
  importKeyword :: space :: (nameLexemes names ++ [space, nameLexeme "from", space])

/-- An import of names from an address. -/
def deployedLexemes (names : List ImportedName) (a : Address) : List Lexeme :=
  fromLexemes names ++ [addressLexeme a]

/-- An import of a name alone, as a string. -/
def bareLexemes (name : String) : List Lexeme := [importKeyword, space, stringLexeme name]

theorem rawText_nameLexemes (names : List ImportedName) :
    rawText (nameLexemes names) =
      List.intercalate [',', ' '] (names.map fun n => n.toText.toList) := by
  have single (n : ImportedName) : rawText n.lexemes = n.toText.toList := by
    unfold ImportedName.lexemes ImportedName.toText
    cases n.localAs <;> simp [nameLexeme, space]
  induction names with
  | nil => simp [nameLexemes]
  | cons n more ih =>
    cases more with
    | nil => simp [nameLexemes, single]
    | cons m more =>
      have hl : nameLexemes (n :: m :: more) =
          n.lexemes ++ comma :: space :: nameLexemes (m :: more) := rfl
      rw [hl, rawText_append, single, rawText_cons, rawText_cons, ih]
      simp [comma, space, List.intercalate_cons_cons]

theorem rawText_deployedLexemes (names : List ImportedName) (a : Address) :
    rawText (deployedLexemes names a) =
      "import ".toList ++ List.intercalate [',', ' '] (names.map fun n => n.toText.toList) ++
        " from ".toList ++ a.toLiteral.toList := by
  have hk : "import ".toList = importKeyword.raw ++ space.raw := by decide
  have hf : " from ".toList = space.raw ++ ((nameLexeme "from").raw ++ space.raw) := rfl
  rw [deployedLexemes, fromLexemes, rawText_append, rawText_cons, rawText_cons, rawText_append,
    rawText_nameLexemes, hk, hf]
  simp only [rawText_cons, rawText_nil, addressLexeme, List.append_nil, List.append_assoc]

theorem rawText_bareLexemes (name : String) : rawText (bareLexemes name) = bareImport name := by
  have hk : "import \"".toList = importKeyword.raw ++ (space.raw ++ ['"']) := by decide
  have hb : bareImport name = "import \"".toList ++ name.toList ++ ['"'] := rfl
  rw [hb, hk]
  simp only [bareLexemes, rawText_cons, rawText_nil, stringLexeme, List.append_nil,
    List.append_assoc, List.cons_append, List.nil_append]

theorem atomsOf_nameLexemes (names : List ImportedName) :
    atomsOf (nameLexemes names) = nameAtoms names := by
  have single (n : ImportedName) : atomsOf n.lexemes = n.atoms := by
    unfold ImportedName.lexemes ImportedName.atoms
    cases n.localAs <;> simp [atomsOf_cons]
  induction names with
  | nil => rfl
  | cons n more ih =>
    cases more with
    | nil => simp [nameLexemes, nameAtoms, single]
    | cons m more =>
      have hl : nameLexemes (n :: m :: more) =
          n.lexemes ++ comma :: space :: nameLexemes (m :: more) := rfl
      rw [hl, atomsOf_append, single, atomsOf_cons, atomsOf_cons, ih]
      rfl

theorem written_deployed {names : List ImportedName} (a : Address) (some_name : names ≠ []) :
    Clause.Written ⟨names, .address a⟩ (deployedLexemes names a) where
  keyword := rfl
  last := by simp [deployedLexemes, addressLexeme]
  spelled := by
    have ha : (Location.address a).Spelled (.number a.toLiteral) :=
      ⟨_, rfl, by simp [Address.toLiteral], Address.parse_toLiteral a⟩
    have hatoms : atomsOf (deployedLexemes names a) =
        .identifier "import" :: (nameAtoms names ++ [.identifier "from", .number a.toLiteral]) := by
      rw [deployedLexemes, fromLexemes, atomsOf_append, atomsOf_cons, importKeyword_atom,
        atomsOf_cons, atomsOf_append, atomsOf_nameLexemes]
      simp [atomsOf_cons]
    rw [hatoms]
    exact .names some_name ha

theorem written_bare (name : String) :
    Clause.Written ⟨[], .string name⟩ (bareLexemes name) where
  keyword := rfl
  last := by simp [bareLexemes, stringLexeme]
  spelled := by
    have hatoms : atomsOf (bareLexemes name) = [.identifier "import", .string name] := by
      simp [bareLexemes, atomsOf_cons, importKeyword_atom]
    rw [hatoms]
    exact .path name

/-- A name ends before anything that is no part of one. -/
theorem lexed_importedName {n : ImportedName} {after : List Char} (hn : n.IsName)
    (stop : ∀ d ∈ after.head?, isNamePart d = false) : Lexed after n.lexemes := by
  have hspace : isNamePart ' ' = false := by decide
  unfold ImportedName.lexemes
  cases hl : n.localAs with
  | none => exact lexed_name hn.1 stop trivial
  | some own =>
    refine lexed_name hn.1 (by simpa [space] using hspace) (lexed_space ?_)
    refine lexed_name (by decide) (by simpa [space] using hspace) (lexed_space ?_)
    exact lexed_name (hn.2 own hl) stop trivial

theorem lexed_nameLexemes {names : List ImportedName} {after : List Char}
    (hn : ∀ n ∈ names, n.IsName) (stop : ∀ d ∈ after.head?, isNamePart d = false) :
    Lexed after (nameLexemes names) := by
  induction names with
  | nil => trivial
  | cons n more ih =>
    cases more with
    | nil => exact lexed_importedName (hn n (by simp)) stop
    | cons m more =>
      have hcomma : isNamePart ',' = false := by decide
      have hl : nameLexemes (n :: m :: more) =
          n.lexemes ++ comma :: space :: nameLexemes (m :: more) := rfl
      rw [hl, lexed_append]
      refine ⟨lexed_importedName (hn n (by simp)) (by simpa [comma] using hcomma), valid_comma, ?_,
        lexed_space (ih fun k hk => hn k (by simp [hk]))⟩
      simp [Lexeme.EndsBefore, Lexeme.growsBy, comma]

theorem valid_addressLexeme (a : Address) : (addressLexeme a).Valid := by
  have hl : addressLexeme a = ⟨some .number, '0' :: 'x' :: Hex.digits 16 a.toNat⟩ := by
    simp [addressLexeme, Address.toLiteral, Address.toHex]
  rw [hl]
  apply Lexeme.Valid.number (by decide)
  intro d hd
  rcases List.mem_cons.1 hd with rfl | hd
  · decide
  · simp [isNumberPart, Hex.digits_isAsciiAlphanumeric _ _ d hd]

theorem lexed_fromLexemes {names : List ImportedName} (after : List Char)
    (hn : ∀ n ∈ names, n.IsName) : Lexed after (fromLexemes names) := by
  have hspace : isNamePart ' ' = false := by decide
  refine lexed_name (by decide) (by simpa [space] using hspace) (lexed_space ?_)
  rw [lexed_append]
  refine ⟨lexed_nameLexemes hn (by simpa [space] using hspace), lexed_space ?_⟩
  exact lexed_name (by decide) (by simpa [space] using hspace) (lexed_space trivial)

/-- An import of names from an address is read before what does not go on with its number. -/
theorem lexed_deployed_iff {names : List ImportedName} {a : Address} {after : List Char}
    (hn : ∀ n ∈ names, n.IsName) :
    Lexed after (deployedLexemes names a) ↔ ∀ d ∈ after.head?, isNumberPart d = false := by
  rw [deployedLexemes, lexed_append]
  constructor
  · intro h
    exact h.2.2.1
  · intro stop
    exact ⟨lexed_fromLexemes _ hn, valid_addressLexeme a, stop, trivial⟩

theorem stringBody_of_plain {text : List Char} (h : ∀ c ∈ text, c ≠ '"' ∧ c ≠ '\n' ∧ c ≠ '\\') :
    stringBody (text ++ ['"']) = some (text ++ ['"'], []) := by
  induction text with
  | nil => simp [stringBody]
  | cons c text ih =>
    obtain ⟨hq, hn, he⟩ := h c (by simp)
    rw [List.cons_append, stringBody.eq_def]
    simp [hq, hn, he, ih fun d hd => h d (by simp [hd])]

theorem isNamePart_of_isNameStart {c : Char} (h : isNameStart c) : isNamePart c := by
  simp only [isNameStart, Bool.or_eq_true] at h
  simp only [isNamePart, Text.isAlphanumeric, Bool.or_eq_true]
  exact h.imp_left .inl

theorem isNamePart_plain {c : Char} (h : isNamePart c) : c ≠ '"' ∧ c ≠ '\n' ∧ c ≠ '\\' := by
  refine ⟨?_, ?_, ?_⟩ <;>
  · rintro rfl
    revert h
    decide

theorem isNamePart_of_isName {name : String} (h : isName name) :
    ∀ c ∈ name.toList, isNamePart c := by
  unfold isName at h
  split at h
  · contradiction
  · next c rest hl =>
    rw [Bool.and_eq_true, List.all_eq_true] at h
    rw [hl]
    intro d hd
    rcases List.mem_cons.1 hd with rfl | hd
    · exact isNamePart_of_isNameStart h.1
    · exact h.2 d hd

theorem lexed_bare {name : String} (after : List Char) (hn : isName name) :
    Lexed after (bareLexemes name) := by
  have hspace : isNamePart ' ' = false := by decide
  refine lexed_name (by decide) (by simpa [space] using hspace) (lexed_space ?_)
  refine ⟨.string (stringBody_of_plain ?_), ?_, trivial⟩
  swap
  · simp [Lexeme.EndsBefore, Lexeme.growsBy, stringLexeme]
  exact fun c hc => isNamePart_plain (isNamePart_of_isName hn c hc)

def deployedParts (names : List ImportedName) (a : Address) : List Part :=
  [.clause ⟨names, .address a⟩ (deployedLexemes names a)]

@[simp] theorem lexemesOf_deployedParts (names : List ImportedName) (a : Address) :
    lexemesOf (deployedParts names a) = deployedLexemes names a := by
  simp [deployedParts]

@[simp] theorem clausesOf_deployedParts (names : List ImportedName) (a : Address) :
    clausesOf (deployedParts names a) = [⟨names, .address a⟩] := rfl

theorem standalone_deployed {names : List ImportedName} (a : Address) (some_name : names ≠ []) :
    Standalone (deployedParts names a) where
  keyword := rfl
  reads ahead := by
    refine .clause (written_deployed a some_name) ?_ .nil
    intro lone
    cases names <;> simp [Clause.isLone] at lone

/-- Imports of names alone, one a line. -/
def bareParts : List String → List Part
  | [] => []
  | [name] => [.clause ⟨[], .string name⟩ (bareLexemes name)]
  | name :: more =>
    .clause ⟨[], .string name⟩ (bareLexemes name) :: .other newline :: bareParts more

theorem bareParts_cons_cons (name next : String) (more : List String) :
    bareParts (name :: next :: more) =
      .clause ⟨[], .string name⟩ (bareLexemes name) :: .other newline :: bareParts (next :: more) :=
  rfl

theorem textOf_bareParts (names : List String) :
    textOf (bareParts names) = List.intercalate ['\n'] (names.map bareImport) := by
  induction names with
  | nil => simp [bareParts]
  | cons name more ih =>
    cases more with
    | nil => simp [bareParts, rawText_bareLexemes]
    | cons next more =>
      rw [bareParts_cons_cons, textOf_clause, textOf_other, ih, rawText_bareLexemes]
      simp [newline, List.intercalate_cons_cons]

theorem clausesOf_bareParts (names : List String) :
    clausesOf (bareParts names) = names.map fun name => ⟨[], .string name⟩ := by
  induction names with
  | nil => rfl
  | cons name more ih =>
    cases more with
    | nil => rfl
    | cons next more =>
      rw [bareParts_cons_cons, clausesOf_clause, clausesOf_other, ih]
      rfl

theorem reads_bareParts (names : List String) (ahead : List Atom) :
    Reads ahead [] (bareParts names) [] [] := by
  have ends (name : String) (following : List Atom) :
      Clause.EndsBefore ⟨[], .string name⟩ following := by
    intro lone
    simp [Clause.isLone] at lone
  induction names with
  | nil => exact .nil
  | cons name more ih =>
    cases more with
    | nil => exact .clause (written_bare name) (ends name _) .nil
    | cons next more =>
      exact .clause (written_bare name) (ends name _) (.gap rfl ih)

theorem standalone_bareParts {names : List String} (some_name : names ≠ []) :
    Standalone (bareParts names) where
  keyword := by
    match names, some_name with
    | [_], _ => rfl
    | _ :: _ :: _, _ => rfl
  reads := reads_bareParts names

/-- Imports of identifiers alone are read before anything. -/
theorem lexed_bareParts {names : List String} (after : List Char)
    (hn : ∀ name ∈ names, isName name) : Lexed after (lexemesOf (bareParts names)) := by
  induction names with
  | nil => trivial
  | cons name more ih =>
    cases more with
    | nil =>
      have := lexed_bare after (hn name (by simp))
      simpa [bareParts] using this
    | cons next more =>
      rw [bareParts_cons_cons, lexemesOf_clause, lexemesOf_other, lexed_append]
      refine ⟨lexed_bare _ (hn name (by simp)), valid_newline, ?_, ih fun n h => hn n (by simp [h])⟩
      simp [Lexeme.EndsBefore, Lexeme.growsBy, newline]

theorem mem_nameAtoms {names : List ImportedName} {n : ImportedName} (hn : n ∈ names) {a : Atom}
    (ha : a ∈ n.atoms) : a ∈ nameAtoms names := by
  induction names with
  | nil => simp at hn
  | cons m more ih =>
    cases more with
    | nil =>
      obtain rfl := List.mem_singleton.1 hn
      exact ha
    | cons k more =>
      have hl : nameAtoms (m :: k :: more) = m.atoms ++ .symbol ',' :: nameAtoms (k :: more) := rfl
      rw [hl, List.mem_append, List.mem_cons]
      rcases List.mem_cons.1 hn with rfl | hn
      · exact .inl ha
      · exact .inr (.inr (ih hn))

theorem Clause.Spelled.mem_atoms {c : Clause} {atoms : List Atom} (h : c.Spelled atoms)
    {n : ImportedName} (hn : n ∈ c.names) {a : Atom} (ha : a ∈ n.atoms) : a ∈ atoms := by
  cases h with
  | path => simp at hn
  | name => simp at hn
  | names _ _ => simp [mem_nameAtoms hn ha]

/-- The names of an import that is written in lexemes are identifiers. -/
theorem Clause.Written.isName {c : Clause} {ls : List Lexeme} (written : c.Written ls)
    (valid : ∀ l ∈ ls, l.Valid) : ∀ n ∈ c.names, n.IsName := by
  intro n hn
  have hid (name : String) (h : .identifier name ∈ n.atoms) : Cadence.isName name := by
    obtain ⟨l, hl, ha⟩ := List.mem_filterMap.1 (written.spelled.mem_atoms hn h)
    exact isName_of_atom (valid l hl) ha
  refine ⟨hid _ ?_, fun own ho => hid own ?_⟩
  · unfold ImportedName.atoms
    cases n.localAs <;> simp
  · simp [ImportedName.atoms, Option.mem_def.1 ho]

theorem ImportedName.IsName.localName {n : ImportedName} (h : n.IsName) :
    Cadence.isName n.localName := by
  obtain ⟨name, localAs⟩ := n
  cases localAs with
  | none => exact h.1
  | some own => exact h.2 own rfl

section Whole

variable {ps : List Part} {ds : List Declaration} {c : Clause} {ls : List Lexeme}

theorem Whole.written (whole : Whole ps ds) (h : Part.clause c ls ∈ ps) : c.Written ls :=
  clauses_written whole.reads c ls h

theorem Whole.isName (whole : Whole ps ds) (h : Part.clause c ls ∈ ps) :
    ∀ n ∈ c.names, n.IsName := by
  apply (whole.written h).isName
  intro l hl
  have hmem : l ∈ lexemesOf ps := List.mem_flatMap.2 ⟨_, h, hl⟩
  exact valid_of_lexed whole.lexed l hmem

theorem mem_of_declarationAt {a : Atom} {following : List Atom} {d : Declaration}
    (h : declarationAt a following = some d) : .identifier d.name ∈ following := by
  unfold declarationAt at h
  split at h
  case h_2 => cases h
  split at h
  case h_1 => cases h
  dsimp only at h
  split at h
  case h_2 => cases h
  next name hname =>
  obtain rfl := Option.some.inj h
  split at hname
  · exact List.mem_of_mem_tail (List.mem_of_mem_head? hname)
  · exact List.mem_of_mem_head? hname

theorem Reads.mem_atoms {ahead : List Atom} {s t : List Char} (h : Reads ahead s ps t ds) :
    ∀ d ∈ ds, .identifier d.name ∈ atomsOf (lexemesOf ps) ++ ahead := by
  induction h with
  | nil => simp
  | gap _ _ ih =>
    intro d hd
    have := ih d hd
    simp only [lexemesOf_other, atomsOf_cons, List.mem_append] at this ⊢
    exact this.imp_left .inr
  | @token l a s s' t ps ds hl _ _ _ ih =>
    intro d hd
    have hmem : .identifier d.name ∈ atomsOf (lexemesOf ps) ++ ahead := by
      rcases List.mem_append.1 hd with hd | hd
      · split at hd
        · exact mem_of_declarationAt (Option.mem_toList.1 hd)
        · cases hd
      · exact ih d hd
    simp only [lexemesOf_other, atomsOf_cons, List.mem_append] at hmem ⊢
    exact hmem.imp_left .inr
  | clause _ _ _ ih =>
    intro d hd
    have := ih d hd
    simp only [lexemesOf_clause, atomsOf_append, List.mem_append] at this ⊢
    exact this.imp_left .inr

/-- What a source declares is called by identifiers. -/
theorem Whole.isName_of_mem (whole : Whole ps ds) {d : Declaration} (h : d ∈ ds) :
    Cadence.isName d.name := by
  have hmem := whole.reads.mem_atoms d h
  rw [List.append_nil] at hmem
  obtain ⟨l, hl, ha⟩ := List.mem_filterMap.1 hmem
  exact isName_of_atom (valid_of_lexed whole.lexed l hl) ha

end Whole

end ContractProject.Cadence
