import ContractProject.Proofs.Cadence.Program
import ContractProject.Proofs.Cadence.Writing

/-!
The unprocessed form of a program. It is a source in its own right, with the imports from addresses
taken apart into imports of single names; making it the code succeeds, and once is enough.
-/

namespace ContractProject.Cadence

/-- The imports of names alone that stand for an import in the unprocessed form, or itself. -/
def Clause.bare (c : Clause) : List Clause :=
  match c.location with
  | .address _ => c.names.map fun n => ⟨[], .string n.localName⟩
  | _ => [c]

/-- What the unprocessed form puts in the place of an import. -/
def bareOf (c : Clause) : Option (List Part) :=
  match c.location with
  | .address _ => some (bareParts (c.names.map ImportedName.localName))
  | _ => none

theorem bareOf_address (names : List ImportedName) (a : Address) :
    bareOf ⟨names, .address a⟩ = some (bareParts (names.map ImportedName.localName)) := rfl

theorem exists_address_of_bareOf {c : Clause} {new : List Part} (h : bareOf c = some new) :
    ∃ a, c.location = .address a ∧ new = bareParts (c.names.map ImportedName.localName) := by
  obtain ⟨names, location⟩ := c
  cases location with
  | address a => exact ⟨a, rfl, (Option.some.inj h).symm⟩
  | string text => contradiction
  | identifier name => contradiction

theorem unprocessedCode_textOf {ps : List Part} {o : Outline} (h : importsAt 0 ps = o.imports) :
    unprocessedCode (textOf ps) o = textOf (rewrite bareOf ps) := by
  have hb (i : Import) : textOf (bareParts (i.names.map ImportedName.localName)) = i.bare := by
    rw [textOf_bareParts, List.map_map]
    rfl
  have he : (o.imports.filter Import.isAddress).map (fun i => ⟨i.span, i.bare⟩) =
      editsOf bareOf o.imports := by
    rw [editsOf, ← List.filterMap_eq_map, ← List.filterMap_eq_filter, List.filterMap_filterMap]
    congr 1
    funext i
    obtain ⟨names, location, span⟩ := i
    cases location <;> simp [Import.isAddress, bareOf, Import.clause, Option.guard, ← hb]
  rw [unprocessedCode, he, ← h, splice_editsOf]

theorem clausesOf_rewrite_bareOf (ps : List Part) :
    clausesOf (rewrite bareOf ps) = (clausesOf ps).flatMap Clause.bare := by
  rw [clausesOf_rewrite]
  congr 1
  funext c
  obtain ⟨names, location⟩ := c
  cases location <;> simp [bareOf, Clause.bare, clausesOf_bareParts]

/-- An import from an address has names. -/
theorem Clause.Written.names_ne_nil {names : List ImportedName} {a : Address} {ls : List Lexeme}
    (written : Clause.Written ⟨names, .address a⟩ ls) : names ≠ [] := by
  generalize ha : atomsOf ls = atoms
  have spelled := written.spelled
  rw [ha] at spelled
  cases spelled with
  | names some_name _ => exact some_name

theorem standalone_bareOf {ps : List Part} {ds : List Declaration} (whole : Whole ps ds) :
    ∀ c ∈ clausesOf ps, ∀ new ∈ bareOf c, Standalone new := by
  rintro ⟨names, location⟩ hc new hnew
  obtain ⟨ls, hls⟩ := exists_of_mem_clausesOf hc
  obtain ⟨a, ha, rfl⟩ := exists_address_of_bareOf hnew
  have some_name : names ≠ [] := by
    subst ha
    exact (whole.written hls).names_ne_nil
  exact standalone_bareParts (by simpa using some_name)

theorem fitsIn_bareOf {ps : List Part} {ds : List Declaration} (whole : Whole ps ds) :
    FitsIn bareOf ps [] := by
  intro a c ls b new hps hnew
  obtain ⟨-, -, rfl⟩ := exists_address_of_bareOf hnew
  -- a string ends with its quote, so there is nothing to ask of the text after it
  have hmem : Part.clause c ls ∈ ps := by simp [hps]
  have hn := whole.isName hmem
  apply lexed_bareParts
  intro name hname
  obtain ⟨n, hin, rfl⟩ := List.mem_map.1 hname
  exact (hn n hin).localName

theorem Whole.bare {ps : List Part} {ds : List Declaration} (whole : Whole ps ds) :
    Whole (rewrite bareOf ps) ds :=
  whole.rewritten (standalone_bareOf whole) (fitsIn_bareOf whole)

theorem location_of_mem_bare {c d : Clause} (h : d ∈ c.bare) (a : Address) :
    d.location ≠ .address a := by
  obtain ⟨names, location⟩ := c
  cases location with
  | address b =>
    obtain ⟨n, -, rfl⟩ := List.mem_map.1 h
    simp
  | string text =>
    obtain rfl := List.mem_singleton.1 h
    simp
  | identifier name =>
    obtain rfl := List.mem_singleton.1 h
    simp

theorem isAddress_of_mem_bare {c : Clause} {i : Import} (h : i.clause ∈ c.bare) :
    i.isAddress = false := by
  have hloc := location_of_mem_bare h
  unfold Import.isAddress
  split
  · next a ha => exact absurd ha (hloc a)
  · rfl

/-- Nothing is left to take apart in the unprocessed form. -/
theorem rewrite_bareOf_rewrite_bareOf (ps : List Part) :
    rewrite bareOf (rewrite bareOf ps) = rewrite bareOf ps := by
  apply rewrite_eq_self
  intro c hc
  rw [clausesOf_rewrite_bareOf] at hc
  obtain ⟨d, -, hd⟩ := List.mem_flatMap.1 hc
  apply Option.eq_none_iff_forall_not_mem.2
  intro new hnew
  obtain ⟨a, ha, -⟩ := exists_address_of_bareOf hnew
  exact location_of_mem_bare hd a ha

namespace Program

theorem MadeOf.unprocessed_eq {p : Program} {ps : List Part} (made : p.MadeOf ps) :
    p.unprocessed = textOf (rewrite bareOf ps) := by
  rw [made.unprocessed, ← made.code, unprocessedCode_textOf made.imports]

/-- Converting the imports of a program that is in parts makes its unprocessed form the code. -/
theorem MadeOf.convertImports {p : Program} {ps : List Part} (made : p.MadeOf ps) :
    ∃ q, p.convertImports = (q, .ok ()) ∧ q.MadeOf (rewrite bareOf ps) ∧ q.SameButImports p := by
  rw [Program.convertImports, made.unprocessed_eq]
  exact withCode_textOf p made.whole.bare

theorem convertImports_of_unprocessed {p : Program} (h : Outline.parse p.code = .ok p.outline)
    (hu : p.unprocessed = unprocessedCode p.code p.outline) (same : p.unprocessed = p.code) :
    p.convertImports = (p, .ok ()) := by
  rw [Program.convertImports, same, withCode, h]
  simp only [← hu]

/-- The unprocessed form of a parsed program is a source whose imports are those of the program, but
imports of single names for those from addresses. Converting makes it the code, and leaves nothing
to convert. -/
theorem convertImports_of_parse {code : Bytes} {args : List Json} {location : String} {p : Program}
    (parsed : parse code args location = .ok p) :
    ∃ q, p.convertImports = (q, .ok ()) ∧ q.code = p.unprocessed ∧
      Outline.parse p.unprocessed = .ok q.outline ∧
      q.outline.imports.map Import.clause =
        (p.outline.imports.map Import.clause).flatMap Clause.bare ∧
      (∀ i ∈ q.outline.imports, i.isAddress = false) ∧ q.SameButImports p ∧
      q.unprocessed = q.code ∧ q.convertImports = (q, .ok ()) := by
  obtain ⟨ps, made⟩ := exists_madeOf_of_parse parsed
  obtain ⟨q, hq, hmade, hsame⟩ := made.convertImports
  have hcode : q.code = p.unprocessed := by rw [← hmade.code, made.unprocessed_eq]
  have hclauses : q.outline.imports.map Import.clause =
      (p.outline.imports.map Import.clause).flatMap Clause.bare := by
    rw [hmade.clauses, made.clauses, clausesOf_rewrite_bareOf]
  have hfixed : q.unprocessed = q.code := by
    rw [hmade.unprocessed_eq, rewrite_bareOf_rewrite_bareOf, hmade.code]
  refine ⟨q, hq, hcode, hcode ▸ hmade.parse, hclauses, ?_, hsame, hfixed,
    convertImports_of_unprocessed hmade.parse hmade.unprocessed hfixed⟩
  intro i hi
  have hmem := List.mem_map_of_mem (f := Import.clause) hi
  rw [hclauses] at hmem
  obtain ⟨c, -, hc⟩ := List.mem_flatMap.1 hmem
  exact isAddress_of_mem_bare hc

/-- What stands inside an import goes with it. -/
theorem convertImports_of_aliased : ∃ p q,
    parse (Utf8.encode "import A as B, /* */ C from 0x01 contract M {}".toList) [] "" = .ok p ∧
    p.convertImports = (q, .ok ()) ∧
    q.code = "import \"B\"\nimport \"C\" contract M {}".toList := by
  have evaluated : (parse (Utf8.encode "import A as B, /* */ C from 0x01 contract M {}".toList) []
      "").toOption.map Program.unprocessed =
        some "import \"B\"\nimport \"C\" contract M {}".toList := by
    decide +kernel
  obtain ⟨p, parsed, hp⟩ := exists_ok_of_toOption evaluated
  obtain ⟨q, hq, hcode, -⟩ := convertImports_of_parse parsed
  exact ⟨p, q, parsed, hq, hcode.trans hp⟩

end Program

end ContractProject.Cadence
