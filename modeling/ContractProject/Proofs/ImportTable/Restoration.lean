import ContractProject.Proofs.Cadence.Unprocessed
import ContractProject.Proofs.ImportTable.Replacement

/-!
Turning replaced imports back. The unprocessed form of a program whose imports have been replaced is
what the program is written as while its contracts are developed locally, and if it had only imports
by name, that is what it was.
-/

namespace ContractProject.ImportTable

open Cadence

/-- The import is written as one of an identifier alone. -/
def WrittenBare (p : Program) (i : Import) : Prop :=
  ∃ name, isName name ∧ Text.slice i.span p.code = bareImport name

/-- What the code for local development puts in the place of an import. -/
def developOf (c : Clause) : Option (List Part) :=
  match c.location, c.names with
  | .address _, names => some (bareParts (names.map ImportedName.localName))
  | .string _, [] => none
  | .string _, [single] => some (bareParts [single.localName])
  | .string location, _ => some (bareParts [Path.importName location])
  | .identifier _, _ => none

theorem textOf_bareParts_single (name : String) : textOf (bareParts [name]) = bareImport name := by
  rw [textOf_bareParts]
  exact List.intercalate_singleton

theorem developOf_textOf (i : Import) :
    (developOf i.clause).map textOf = Program.developmentImport? i := by
  obtain ⟨names, location, span⟩ := i
  cases location with
  | address a =>
    have hb : textOf (bareParts (names.map ImportedName.localName)) =
        Import.bare ⟨names, .address a, span⟩ := by
      rw [textOf_bareParts, List.map_map]
      rfl
    simp [developOf, Import.clause, Program.developmentImport?, hb]
  | identifier name => rfl
  | string l =>
    rcases names with _ | ⟨n, _ | ⟨m, more⟩⟩
    · rfl
    · exact congrArg some (textOf_bareParts_single _)
    · exact congrArg some (textOf_bareParts_single _)

theorem developmentCode_eq {p : Program} {ps : List Part} (made : p.MadeOf ps) :
    p.developmentCode = textOf (rewrite developOf ps) := by
  have hedits : p.outline.imports.filterMap (fun i =>
      (Program.developmentImport? i).map fun text => (⟨i.span, text⟩ : Text.Edit)) =
      editsOf developOf p.outline.imports := by
    apply List.filterMap_congr
    intro i _
    rw [← developOf_textOf, Option.map_map]
    rfl
  rw [Program.developmentCode, hedits, ← made.code, ← made.imports, splice_editsOf]

/-- The short name of an identifier is itself. -/
theorem importName_of_isName {name : String} (h : isName name) : Path.importName name = name := by
  have hend : Path.endsWith name.toList Path.sourceExtension.toList = false := by
    by_contra hcontra
    have hprefix : Path.sourceExtension.toList.reverse <+: name.toList.reverse := by
      simpa [Path.endsWith] using hcontra
    have hdot : '.' ∈ name.toList := by
      have := hprefix.subset (show '.' ∈ Path.sourceExtension.toList.reverse by decide)
      simpa using this
    have := isNamePart_of_isName h '.' hdot
    revert this
    decide
  rw [Path.importName]
  simp [hend]

/-- Binding names from an address keeps what they are called locally. -/
theorem localName_boundNames (t : ImportTable) (location : String) (n : ImportedName) :
    (t.boundNames location [n]).map ImportedName.localName = [n.localName] := by
  obtain ⟨name, localAs⟩ := n
  cases localAs with
  | some own => rfl
  | none =>
    unfold boundNames
    by_cases h : t.canonicalName location = Path.importName location <;>
      simp [h, ImportedName.localName]

theorem localName_boundNames_nil (t : ImportTable) (location : String) :
    (t.boundNames location []).map ImportedName.localName = [Path.importName location] := by
  unfold boundNames
  by_cases h : t.canonicalName location = Path.importName location <;>
    simp [h, ImportedName.localName]

theorem rewrite_bareOf_deployedParts (names : List ImportedName) (a : Address) :
    rewrite bareOf (deployedParts names a) = bareParts (names.map ImportedName.localName) := by
  simp [deployedParts, bareOf_address]

theorem eq_of_spelled {c : Clause} {name : String}
    (spelled : c.Spelled [.identifier "import", .string name]) : c = ⟨[], .string name⟩ := by
  generalize hatoms : [Atom.identifier "import", .string name] = atoms at spelled
  cases spelled with
  | path text =>
    obtain rfl : name = text := by simpa using hatoms
    rfl
  | name other => simp at hatoms
  | names _ _ =>
    have hlen := congrArg List.length hatoms
    simp only [List.length_cons, List.length_append, List.length_nil] at hlen
    omega

/-- The lexemes of an import that is written bare say what they seem to. -/
theorem eq_of_bare {ps : List Part} {ds : List Declaration} (whole : Whole ps ds) {c : Clause}
    {ls : List Lexeme} (h : Part.clause c ls ∈ ps) {name : String} (hn : isName name)
    (raw : rawText ls = bareImport name) : c = ⟨[], .string name⟩ := by
  have written := whole.written h
  obtain ⟨a, b, rfl⟩ := List.append_of_mem h
  have hold := whole.lexed
  rw [lexemesOf_append, lexed_append, lexemesOf_clause] at hold
  have hbare : Lexed [] (bareLexemes name ++ lexemesOf b) :=
    lexed_append.2 ⟨lexed_bare _ hn, (lexed_append.1 hold.2).2⟩
  have heq : ls = bareLexemes name := hold.2.unique hbare (by rw [raw, rawText_bareLexemes])
  have hatoms : atomsOf ls = [.identifier "import", .string name] := by
    rw [heq]
    simp [bareLexemes, atomsOf_cons, importKeyword_atom]
  exact eq_of_spelled (hatoms ▸ written.spelled)

/-- What an import by path of a program that can be restored is written as. -/
def Restorable (p : Program) (i : Import) : Prop :=
  (∃ l, i.location = .string l) → WrittenBare p i ∨ ∃ n, i.names = [n]

/-- The unprocessed form of a replaced import is that of its code for local development. -/
theorem textOf_restored {t : ImportTable} {p : Program} {ps : List Part} (made : p.MadeOf ps)
    (resolves : ∀ l ∈ p.unresolved, ∃ a, t.resolve p.location l = .ok a)
    (restorable : ∀ i ∈ p.outline.imports, Restorable p i) {c : Clause} {ls : List Lexeme}
    (h : Part.clause c ls ∈ ps) :
    textOf (((t.deployAll p.location p.unresolved c).map (rewrite bareOf) <|> bareOf c).getD
        [.clause c ls]) =
      textOf ((developOf c).getD [.clause c ls]) := by
  obtain ⟨⟨names, location, span⟩, hi, rfl, hslice⟩ := made.exists_import h
  cases location with
  | address a => rfl
  | identifier name => rfl
  | string l =>
    have hmem : l ∈ p.unresolved := mem_unresolved hi rfl
    obtain ⟨a, ha⟩ := resolves l hmem
    have hdeploy : t.deployAll p.location p.unresolved (Import.clause ⟨names, .string l, span⟩) =
        some (deployedParts (t.boundNames l names) a) := deployAll_of_string hmem ha
    rw [hdeploy, Option.map_some, rewrite_bareOf_deployedParts]
    show textOf (bareParts ((t.boundNames l names).map ImportedName.localName)) = _
    rcases restorable _ hi ⟨l, rfl⟩ with ⟨name, hn, hbare⟩ | ⟨n, hnames⟩
    · have heq := eq_of_bare made.whole h hn (hslice.symm.trans hbare)
      obtain ⟨rfl, hl⟩ := Clause.mk.inj heq
      obtain rfl := Location.string.inj hl
      rw [localName_boundNames_nil, importName_of_isName hn, textOf_bareParts_single, ← hbare,
        hslice]
      simp [developOf, Import.clause]
    · obtain rfl : names = [n] := hnames
      rw [localName_boundNames]
      rfl

theorem named_of_restorable {t : ImportTable} {p : Program} {ps : List Part} (made : p.MadeOf ps)
    (restorable : ∀ i ∈ p.outline.imports, Restorable p i)
    (canonical : ∀ i ∈ p.outline.imports, ∀ l, i.location = .string l →
      t.AddsCanonical l i.names) :
    t.Named (clausesOf ps) := by
  intro c hc l hl
  obtain ⟨ls, hls⟩ := exists_of_mem_clausesOf hc
  obtain ⟨i, hi, rfl, hslice⟩ := made.exists_import hls
  refine ⟨fun hnames => ?_, canonical i hi l hl⟩
  rcases restorable i hi ⟨l, hl⟩ with ⟨name, hn, hbare⟩ | ⟨n, hsingle⟩
  · have heq := eq_of_bare made.whole hls hn (hslice.symm.trans hbare)
    obtain rfl : l = name := by
      rw [heq] at hl
      exact (Location.string.inj hl).symm
    rwa [importName_of_isName hn]
  · have hnil : i.names = [] := hnames
    rw [hnil] at hsingle
    cases hsingle

/-- Converting undoes replacing: afterwards the unprocessed form, and the code once it is converted,
is the code for local development before, and the code itself if all imports were by name. -/
theorem unprocessed_of_replace {code : Bytes} {args : List Json} {location : String}
    {p p' : Program} {t : ImportTable} (parsed : Program.parse code args location = .ok p)
    (restorable : ∀ i ∈ p.outline.imports, Restorable p i)
    (canonical : ∀ i ∈ p.outline.imports, ∀ l, i.location = .string l →
      t.AddsCanonical l i.names)
    (done : t.replace p = (p', .ok ())) :
    p'.unprocessed = p.developmentCode ∧
    ∃ q, p'.convertImports = (q, .ok ()) ∧ q.code = p.developmentCode ∧
      ((∀ i ∈ p.outline.imports, i.isAddress = false ∧
        ((∃ l, i.location = .string l) → WrittenBare p i)) → q.code = p.code) := by
  obtain ⟨ps, made⟩ := Program.exists_madeOf_of_parse parsed
  have named := named_of_restorable made restorable canonical
  obtain ⟨l, -, -, h⟩ | ⟨resolves, ⟨-, q, h, hmade, -⟩ | ⟨-, q, e, h⟩⟩ := replace_cases made named
  · rw [h] at done
    cases done
  · obtain rfl : q = p' := by
      rw [h] at done
      exact (Prod.mk.inj done).1
    -- one rewriting after the other is a single one, and both are compared import by import
    have hrestored : textOf (rewrite bareOf (rewrite (t.deployAll p.location p.unresolved) ps)) =
        p.developmentCode := by
      rw [rewrite_rewrite, developmentCode_eq made]
      exact textOf_rewrite_congr fun c ls hc => textOf_restored made resolves restorable hc
    obtain ⟨r, hr, hrmade, -⟩ := hmade.convertImports
    have hcode : r.code = p.developmentCode := hrmade.code.symm.trans hrestored
    refine ⟨hmade.unprocessed_eq.trans hrestored, r, hr, hcode, fun bare => ?_⟩
    rw [hcode, developmentCode_eq made, rewrite_eq_self, made.code]
    intro c hc
    obtain ⟨ls, hls⟩ := exists_of_mem_clausesOf hc
    obtain ⟨⟨names, location, span⟩, hi, rfl, hslice⟩ := made.exists_import hls
    obtain ⟨hlocal, hbare⟩ := bare _ hi
    cases location with
    | address a => cases hlocal
    | identifier name => rfl
    | string l =>
      obtain ⟨name, hn, hwritten⟩ := hbare ⟨l, rfl⟩
      have heq := eq_of_bare made.whole hls hn (hslice.symm.trans hwritten)
      obtain ⟨rfl, -⟩ := Clause.mk.inj heq
      rfl
  · rw [h] at done
    cases done

theorem unprocessed_of_alias : ∃ p p' q, Program.parse aliasSource [] "" = .ok p ∧
    aliasTable.replace p = (p', .ok ()) ∧ p'.convertImports = (q, .ok ()) ∧
    q.code = "import \"Foo\" import \"Baz\"".toList := by
  have evaluated : (Program.parse aliasSource [] "").toOption.map (fun p =>
      (p.outline.imports, Text.slice ⟨0, 12⟩ p.code, (aliasTable.replace p).2.toOption,
        p.developmentCode)) =
      some ([⟨[], .string "Foo", ⟨0, 12⟩⟩, ⟨[⟨"Baz", none⟩], .string "./Baz.cdc", ⟨13, 40⟩⟩],
        bareImport "Foo", some (), "import \"Foo\" import \"Baz\"".toList) := by
    decide +kernel
  obtain ⟨p, parsed, hp⟩ := exists_ok_of_toOption evaluated
  simp only [Prod.mk.injEq] at hp
  obtain ⟨himports, hslice, hdone, hdevelopment⟩ := hp
  have restorable : ∀ i ∈ p.outline.imports, Restorable p i := by
    rw [himports]
    intro i hi _
    rcases List.mem_pair.1 hi with rfl | rfl
    · exact .inl ⟨"Foo", by decide, hslice⟩
    · exact .inr ⟨_, rfl⟩
  have canonical : ∀ i ∈ p.outline.imports, ∀ l, i.location = .string l →
      aliasTable.AddsCanonical l i.names := by
    rw [himports]
    intro i hi l hl
    refine (aliasTable_named i.clause ?_ l hl).canonical
    exact List.mem_map_of_mem (f := Import.clause) hi
  have done : aliasTable.replace p = ((aliasTable.replace p).1, .ok ()) :=
    Prod.ext rfl (eq_ok_of_toOption hdone)
  obtain ⟨-, q, hq, hcode, -⟩ := unprocessed_of_replace parsed restorable canonical done
  exact ⟨p, _, q, parsed, done, hq, hcode.trans hdevelopment⟩

end ContractProject.ImportTable
