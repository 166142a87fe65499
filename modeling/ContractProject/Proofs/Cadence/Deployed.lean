import ContractProject.Proofs.Cadence.Writing

/-!
Rewriting imports into imports from addresses. It gives a source that can be read exactly if none of
these imports is followed at once by a character that its address would go on with.
-/

namespace ContractProject.Cadence

open Text (byteLength)

/-- What is put in the place of imports are imports of identifiers from addresses. -/
def Deploys (f : Clause → Option (List Part)) (ps : List Part) : Prop :=
  ∀ c ∈ clausesOf ps, ∀ new ∈ f c, ∃ names a, names ≠ [] ∧ (∀ n ∈ names, n.IsName) ∧
    new = deployedParts names a

/-- No import that is rewritten is followed at once by what could be part of a number. -/
def Apart (f : Clause → Option (List Part)) (ps : List Part) : Prop :=
  ∀ a c ls b, ps = a ++ .clause c ls :: b → f c ≠ none →
    ∀ d ∈ (textOf b).head?, isNumberPart d = false

variable {f : Clause → Option (List Part)} {ps : List Part} {ds : List Declaration}

theorem Deploys.standalone (h : Deploys f ps) :
    ∀ c ∈ clausesOf ps, ∀ new ∈ f c, Standalone new := by
  intro c hc new hnew
  obtain ⟨names, a, some_name, -, rfl⟩ := h c hc new hnew
  exact standalone_deployed a some_name

theorem Deploys.fitsIn_of_apart (h : Deploys f ps) (apart : Apart f ps) : FitsIn f ps [] := by
  intro a c ls b new hps hnew
  obtain ⟨names, target, -, hn, rfl⟩ := h c (by simp [hps]) new hnew
  rw [lexemesOf_deployedParts, List.append_nil]
  exact (lexed_deployed_iff hn).2 (apart a c ls b hps (by simp [hnew]))

theorem Deploys.apart_of_fitsIn (h : Deploys f ps) (fitsIn : FitsIn f ps []) : Apart f ps := by
  intro a c ls b hps hc
  obtain ⟨new, hnew⟩ := Option.ne_none_iff_exists'.1 hc
  obtain ⟨names, target, -, hn, rfl⟩ := h c (by simp [hps]) new hnew
  have hl := fitsIn a c ls b _ hps hnew
  rw [lexemesOf_deployedParts, List.append_nil] at hl
  exact (lexed_deployed_iff hn).1 hl

/-- Imports that are apart from what could go on with their addresses can be rewritten. -/
theorem Deploys.whole (h : Deploys f ps) (whole : Whole ps ds) (apart : Apart f ps) :
    Whole (rewrite f ps) ds :=
  whole.rewritten h.standalone (h.fitsIn_of_apart apart)

theorem isNumberPart_not_isBlank {c : Char} (h : isNumberPart c) : Text.isBlank c = false := by
  rcases (Bool.or_eq_true _ _).mp h with ha | hu
  · exact Text.not_isBlank_of_isAsciiAlphanumeric ha
  · obtain rfl : c = '_' := by simpa using hu
    decide

theorem takeWhile_ne_nil {part : Char → Bool} {text : List Char} {d : Char}
    (hd : text.head? = some d) (h : part d) : 0 < (text.takeWhile part).length := by
  obtain ⟨more, rfl⟩ := List.head?_eq_some_iff.1 hd
  simp [h]

/-- The number that an address begins is none if more of a number follows it. -/
theorem exists_fault_of_number {offset : Nat} {a : Address} {after : List Char} {d : Char}
    {ls : List Lexeme} (hd : after.head? = some d) (part : isNumberPart d)
    (h : lexemesFrom offset ((addressLexeme a).raw ++ after) = .ok ls) :
    ∃ text more fault, ls = ⟨some .number, text⟩ :: more ∧
      ∀ span, locationOf ⟨.number, String.ofList text, span⟩ = .error fault := by
  -- the number takes in all that follows, so it has more digits than an address
  let digits := Hex.digits 16 a.toNat
  have inside : ∀ c ∈ 'x' :: digits, isNumberPart c := by
    intro c hc
    rcases List.mem_cons.1 hc with rfl | hc
    · decide
    · simp [isNumberPart, Hex.digits_isAsciiAlphanumeric _ _ c hc]
  have hraw : (addressLexeme a).raw ++ after = '0' :: ('x' :: digits ++ after) := by
    simp [addressLexeme, Address.toLiteral, Address.toHex, digits]
  rw [hraw, lexemesFrom_cons (nextLexeme_of_isAsciiDigit offset _ (by decide))] at h
  obtain ⟨more, -, rfl⟩ := map_eq_ok_iff.1 h
  have htake : ('x' :: digits ++ after).takeWhile isNumberPart =
      'x' :: (digits ++ after.takeWhile isNumberPart) :=
    List.takeWhile_append_of_pos inside
  have hblank : ∀ c ∈ digits ++ after.takeWhile isNumberPart, Text.isBlank c = false := by
    intro c hc
    rcases List.mem_append.1 hc with hc | hc
    · exact isNumberPart_not_isBlank (inside c (by simp [hc]))
    · exact isNumberPart_not_isBlank (List.mem_takeWhile_imp hc)
  have hlong : 16 < (digits ++ after.takeWhile isNumberPart).length := by
    have := takeWhile_ne_nil hd part
    rw [List.length_append, Hex.length_digits]
    omega
  let text := '0' :: 'x' :: (digits ++ after.takeWhile isNumberPart)
  have hx : ['0', 'x'].isPrefixOf (String.ofList text).toList := by simp [text]
  have hparse : Address.parse (String.ofList text) = .error .tooLong :=
    Address.parse_long_literal hblank hlong
  refine ⟨text, more, .badAddress (String.ofList text) .tooLong, ?_, fun span => ?_⟩
  · rw [htake]
  · simp only [locationOf, hx, hparse, if_true]

/-- An import from what is no location is malformed. -/
theorem exists_fault_of_location {names : List ImportedName} {text : List Char}
    {fault : ImportFault} (some_name : names ≠ [])
    (bad : ∀ span, locationOf ⟨.number, String.ofList text, span⟩ = .error fault) (offset : Nat)
    (more : List Lexeme) :
    ∃ fault, outlineFrom [] (place offset (fromLexemes names ++ ⟨some .number, text⟩ :: more)) =
      .error fault := by
  obtain ⟨keyword, hk, -, hkeyword⟩ := exists_place_of_atom offset importKeyword_atom
  let start := offset + byteLength importKeyword.raw + byteLength space.raw
  let next := start + byteLength (rawText (nameLexemes names)) + byteLength space.raw
  obtain ⟨word, hw, -, hword⟩ := exists_place_of_atom next (atom?_nameLexeme "from")
  let stop := next + byteLength (nameLexeme "from").raw + byteLength space.raw
  let last : Token := ⟨.number, String.ofList text, ⟨stop, stop + byteLength text⟩⟩
  let rest := place (stop + byteLength text) more
  have hplace : place offset (fromLexemes names ++ ⟨some .number, text⟩ :: more) =
      keyword :: (place start (nameLexemes names) ++ word :: last :: rest) := by
    rw [fromLexemes, List.cons_append, hkeyword, List.cons_append, place_of_gap _ rfl,
      List.append_assoc, place_append, List.cons_append, place_of_gap _ rfl, List.cons_append,
      hword, List.cons_append, place_of_gap _ rfl, List.nil_append, place_of_token _ rfl]
    rfl
  have hnames : (place start (nameLexemes names)).map Token.atom = nameAtoms names := by
    rw [map_atom_place, atomsOf_nameLexemes]
  have hd : importDeclaration keyword (place start (nameLexemes names) ++ word :: last :: rest) =
      .error fault := by
    rw [importDeclaration_names last rest some_name hnames hw, bad, map_error]
  exact ⟨_, by rw [hplace, outlineFrom_malformed hk hd]⟩

/-- An import whose address goes on with more of a number cannot be read. -/
theorem exists_fault_of_overlong {names : List ImportedName} {a : Address} {before : List Part}
    {front : List Declaration} {after : List Char} {d : Char} (some_name : names ≠ [])
    (hn : ∀ n ∈ names, n.IsName) (hd : after.head? = some d) (part : isNumberPart d)
    (lexed : Lexed (rawText (deployedLexemes names a) ++ after) (lexemesOf before))
    (reads : Reads [.identifier "import"] [] before [] front) :
    ∃ fault, Outline.parse (textOf before ++ (rawText (deployedLexemes names a) ++ after)) =
      .error fault := by
  -- up to the address the source is read in parts; the rest may not even fall into lexemes
  let tail := (addressLexeme a).raw ++ after
  have htext : rawText (deployedLexemes names a) ++ after =
      rawText (fromLexemes names) ++ tail := by
    simp [deployedLexemes, tail]
  rw [htext] at lexed ⊢
  have hlexed : Lexed tail (lexemesOf before ++ fromLexemes names) :=
    lexed_append.2 ⟨lexed, lexed_fromLexemes tail hn⟩
  have hlexemes := lexemesFrom_append 0 hlexed
  rw [rawText_append, List.append_assoc] at hlexemes
  unfold Outline.parse tokens lexemes textOf
  rw [hlexemes]
  cases htail : lexemesFrom (0 + byteLength (rawText (lexemesOf before) ++
      rawText (fromLexemes names))) tail with
  | error fault => exact ⟨.lexical fault, rfl⟩
  | ok ls =>
    obtain ⟨text, more, fault, rfl, bad⟩ := exists_fault_of_number hd part htail
    obtain ⟨outlineFault, hout⟩ := exists_fault_of_location some_name bad
      (0 + byteLength (rawText (lexemesOf before))) more
    refine ⟨outlineFault, ?_⟩
    generalize hrest : place (0 + byteLength (rawText (lexemesOf before)))
      (fromLexemes names ++ ⟨some .number, text⟩ :: more) = rest at hout
    have hahead : upToImport [.identifier "import"] = upToImport (rest.map Token.atom) := by
      rw [← hrest, map_atom_place, fromLexemes, List.cons_append, atomsOf_cons, importKeyword_atom]
      simp [upToImport]
    obtain ⟨nowOpen, hopen, ho⟩ := outlineFrom_append (reads.congr hahead) 0
      (List.map_nil (f := OpenBracket.close))
    obtain rfl : nowOpen = [] := by simpa [OpenBracket.closers] using hopen
    simp only [map_ok, List.append_assoc, place_append 0 (lexemesOf before), hrest, ho, hout,
      map_error]

/-- The first import that is rewritten and followed at once by more of a number makes the source
unreadable. -/
theorem Deploys.exists_fault (h : Deploys f ps) (whole : Whole ps ds) (glued : ¬ Apart f ps) :
    ∃ fault, Outline.parse (textOf (rewrite f ps)) = .error fault := by
  -- the first, because only what stands before it is sure to be read as it was
  obtain hfit | ⟨a, c, ls, b, new, rfl, hnew, hfit, hlexed⟩ := fitsIn_or_exists f ps []
  · exact absurd (h.apart_of_fitsIn hfit) glued
  obtain ⟨names, target, some_name, hn, rfl⟩ := h c (by simp) new hnew
  rw [lexemesOf_deployedParts, List.append_nil, lexed_deployed_iff hn] at hlexed
  push Not at hlexed
  obtain ⟨d, hd, part⟩ := hlexed
  have written := clauses_written whole.reads
  have ha : ∀ e ∈ clausesOf a, ∀ new ∈ f e, Standalone new :=
    fun e he => h.standalone e (by simp [he])
  have hb : ∀ e ∈ clausesOf b, ∀ new ∈ f e, Standalone new :=
    fun e he => h.standalone e (by simp [he])
  have hhead : (textOf (rewrite f b)).head? = some d := by
    have := head?_textOf_rewrite [] (fun e ls he => written e ls (by simp [he])) hb
    simp only [List.append_nil] at this
    rw [this]
    exact hd
  obtain ⟨more, rfl⟩ := (written c ls (by simp)).exists_cons
  -- what stands before is read as it was, for an import still follows it
  have lexed : Lexed (rawText (deployedLexemes names target) ++ textOf (rewrite f b))
      (lexemesOf (rewrite f a)) := by
    have hold := whole.lexed
    rw [lexemesOf_append, lexed_append] at hold
    have := hold.1.rewritten (fun e ls he => written e ls (by simp [he])) ha hfit
    exact this.congr rfl
  have reads : ∃ front, Reads [.identifier "import"] [] (rewrite f a) [] front := by
    obtain ⟨t, front, back, hfront, hback, -⟩ := exists_reads_of_append whole.reads
    cases hback with
    | clause _ _ _ =>
      refine ⟨front, (hfront.rewritten ha).congr ?_⟩
      rw [lexemesOf_clause, List.cons_append, atomsOf_cons, importKeyword_atom]
      simp [upToImport]
  obtain ⟨front, reads⟩ := reads
  obtain ⟨fault, hfault⟩ := exists_fault_of_overlong some_name hn hhead (by simpa using part) lexed
    reads
  refine ⟨fault, ?_⟩
  rw [← hfault, rewrite_append, rewrite_clause, hnew]
  simp [deployedParts]

end ContractProject.Cadence
