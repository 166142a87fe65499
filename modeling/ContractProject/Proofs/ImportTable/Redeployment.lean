import ContractProject.Proofs.Cadence.Unprocessed
import ContractProject.Proofs.ImportTable.Restoration
import ContractProject.Proofs.Text.Utf8

/-!
Replacing the imports of an unprocessed form. Its imports by name stand where imports from addresses
were, with the same characters after them, so that addresses can be put there again; a table that
knows the addresses the names came from gives back what the program imported from where.
-/

namespace ContractProject

open Cadence

/-! ### What follows an import from an address -/

theorem Cadence.Clause.Spelled.exists_number {names : List ImportedName} {a : Address}
    {atoms : List Atom} (h : Clause.Spelled ⟨names, .address a⟩ atoms) :
    ∃ before literal, atoms = before ++ [.number literal] := by
  cases h with
  | names _ hlast =>
    obtain ⟨literal, rfl, -⟩ := hlast
    exact ⟨.identifier "import" :: (nameAtoms names ++ [.identifier "from"]), literal, by simp⟩

theorem Cadence.TokenKind.eq_number {kind : TokenKind} {text literal : String}
    (h : kind.atom text = .number literal) : kind = .number := by
  cases kind <;> simp_all [TokenKind.atom]

/-- An import from an address ends in a number, which goes no further. -/
theorem Cadence.Clause.Written.isNumberPart_head? {names : List ImportedName} {a : Address}
    {ls : List Lexeme} {after : List Char} (written : Clause.Written ⟨names, .address a⟩ ls)
    (lexed : Lexed after ls) : ∀ d ∈ after.head?, isNumberPart d = false := by
  obtain ⟨before, l, rfl⟩ : ∃ before l, ls = before ++ [l] :=
    ⟨_, _, (List.dropLast_concat_getLast written.ne_nil).symm⟩
  obtain ⟨kind, hkind⟩ := Option.ne_none_iff_exists'.1 (written.last l (by simp))
  have hnumber : kind = .number := by
    obtain ⟨front, literal, hatoms⟩ := written.spelled.exists_number
    rw [atomsOf_append, atomsOf_cons, Lexeme.atom?, hkind] at hatoms
    exact TokenKind.eq_number (List.singleton_inj.1 (List.append_inj' hatoms rfl).2)
  have hends := (lexed_append.1 lexed).2.2.1
  simpa [Lexeme.EndsBefore, Lexeme.growsBy, hkind, hnumber] using hends

namespace ImportTable

variable {f : Clause → Option (List Part)}

theorem apart_nil : Apart f [] := fun a c ls b h => by simp at h

theorem apart_cons {p : Part} {ps : List Part}
    (first : ∀ c ls, p = .clause c ls → f c ≠ none →
      ∀ d ∈ (textOf ps).head?, isNumberPart d = false)
    (rest : Apart f ps) : Apart f (p :: ps) := by
  intro a c ls b h hc
  cases a with
  | nil =>
    obtain ⟨rfl, rfl⟩ := List.cons.inj h
    exact first c ls rfl hc
  | cons q a =>
    obtain ⟨rfl, rfl⟩ := List.cons.inj h
    exact rest a c ls b rfl hc

/-- Imports by name are apart from each other, one a line. -/
theorem apart_bareParts_append (names : List String) {ps : List Part}
    (stop : ∀ d ∈ (textOf ps).head?, isNumberPart d = false) (apart : Apart f ps) :
    Apart f (bareParts names ++ ps) := by
  induction names with
  | nil => exact apart
  | cons name more ih =>
    cases more with
    | nil => exact apart_cons (fun c ls _ _ => stop) apart
    | cons next more =>
      refine apart_cons (fun c ls _ _ => ?_) (apart_cons (by simp) ih)
      simp [newline]
      decide

/-- The imports by name that the unprocessed form has for those from addresses are apart from what
follows. -/
theorem apart_rewrite_bareOf {ps : List Part} (lexed : Lexed [] (lexemesOf ps))
    (written : ∀ c ls, Part.clause c ls ∈ ps → c.Written ls)
    (fits : ∀ c ∈ clausesOf ps, ∀ new ∈ bareOf c, Standalone new)
    (resolved : ∀ c ∈ clausesOf ps, bareOf c = none → f c = none) :
    Apart f (rewrite bareOf ps) := by
  induction ps with
  | nil => exact apart_nil
  | cons p ps ih =>
    have hw : ∀ c ls, Part.clause c ls ∈ ps → c.Written ls :=
      fun c ls hm => written c ls (List.mem_cons_of_mem p hm)
    cases p with
    | other l => exact apart_cons (by simp) (ih lexed.2.2 hw fits resolved)
    | clause c ls =>
      obtain ⟨hold, hrest⟩ : Lexed (textOf ps ++ []) ls ∧ Lexed [] (lexemesOf ps) :=
        lexed_append.1 lexed
      have hfits : ∀ d ∈ clausesOf ps, ∀ new ∈ bareOf d, Standalone new :=
        fun d hd => fits d (by simp [hd])
      have apart := ih hrest hw hfits fun d hd => resolved d (by simp [hd])
      obtain ⟨names, location⟩ := c
      cases location with
      | address a =>
        -- the address was read up to here, so what follows is no part of a number
        have hstop := (written _ ls List.mem_cons_self).isNumberPart_head? hold
        rw [← head?_textOf_rewrite [] hw hfits, List.append_nil] at hstop
        exact apart_bareParts_append _ hstop apart
      | string text =>
        exact apart_cons (fun d ms hd hf => absurd (by
          obtain ⟨rfl, -⟩ := Part.clause.inj hd
          exact resolved _ (by simp) rfl) hf) apart
      | identifier name =>
        exact apart_cons (fun d ms hd hf => absurd (by
          obtain ⟨rfl, -⟩ := Part.clause.inj hd
          exact resolved _ (by simp) rfl) hf) apart

end ImportTable

/-! ### What is imported from where -/

namespace Cadence

/-- What an import takes from an address. -/
def Clause.deployed (c : Clause) : List (Address × String) :=
  match c.location with
  | .address a => c.names.map fun n => (a, n.name)
  | _ => []

theorem Program.deployedImports_eq (p : Program) :
    p.deployedImports = (p.outline.imports.map Import.clause).flatMap Clause.deployed := by
  rw [Program.deployedImports, Program.addressImports, List.flatMap_map]
  induction p.outline.imports with
  | nil => rfl
  | cons i imports ih =>
    rw [List.flatMap_cons, ← ih, List.filter_cons]
    obtain ⟨names, location, span⟩ := i
    cases location with
    | address a => cases names <;> simp [Import.isAddress, Import.clause, Clause.deployed]
    | string text => simp [Import.isAddress, Import.clause, Clause.deployed]
    | identifier name => simp [Import.isAddress, Import.clause, Clause.deployed]

/-- A program whose code is written out is read with the same imports. -/
theorem Program.MadeOf.exists_parse {p : Program} {ps : List Part} (made : p.MadeOf ps)
    (args : List Json) (location : String) :
    ∃ q, Program.parse (Utf8.encode p.code) args location = .ok q ∧ q.MadeOf ps ∧
      q.location = location := by
  refine ⟨⟨p.code, args, location, p.outline, unprocessedCode p.code p.outline⟩, ?_,
    ⟨made.whole, made.code, made.imports, rfl⟩, rfl⟩
  simp [Program.parse, Program.ofCode, made.parse]

/-- The program imports nothing by path, and what it imports from addresses under its own name. -/
structure Program.Direct (p : Program) : Prop where
  resolved : p.unresolved = []
  own : ∀ i ∈ p.outline.imports, i.isAddress → ∀ n ∈ i.names, n.localAs = none

instance (p : Program) : Decidable p.Direct :=
  decidable_of_iff (p.unresolved = [] ∧
    ∀ i ∈ p.outline.imports, i.isAddress → ∀ n ∈ i.names, n.localAs = none)
    ⟨fun h => ⟨h.1, h.2⟩, fun h => ⟨h.1, h.2⟩⟩

theorem Program.Direct.location_ne {p : Program} (direct : p.Direct) {c : Clause}
    (h : c ∈ p.outline.imports.map Import.clause) (text : String) : c.location ≠ .string text := by
  intro hc
  obtain ⟨i, hi, rfl⟩ := List.mem_map.1 h
  have hpath : i.path? = some text := by
    have hloc : i.location = .string text := hc
    simp [Import.path?, hloc]
  have hmem : text ∈ p.unresolved := List.mem_filterMap.2 ⟨i, hi, hpath⟩
  rw [direct.resolved] at hmem
  cases hmem

theorem Program.Direct.localName {p : Program} (direct : p.Direct) {names : List ImportedName}
    {a : Address} (h : ⟨names, .address a⟩ ∈ p.outline.imports.map Import.clause)
    {n : ImportedName} (hn : n ∈ names) : n.localName = n.name := by
  obtain ⟨i, hi, hc⟩ := List.mem_map.1 h
  obtain ⟨hnames, hloc⟩ := Clause.mk.inj hc
  have hown := direct.own i hi (by simp [Import.isAddress, hloc]) n (hnames ▸ hn)
  simp [ImportedName.localName, hown]

/-- The imports by path of the unprocessed form are the names that are imported from addresses. -/
theorem Program.Direct.exists_deployed {p : Program} (direct : p.Direct) {d : Clause}
    (h : d ∈ (p.outline.imports.map Import.clause).flatMap Clause.bare) {text : String}
    (hd : d.location = .string text) :
    ∃ c ∈ p.outline.imports.map Import.clause, (∃ a, (a, text) ∈ c.deployed) ∧
      ∃ n ∈ c.names, n.name = text := by
  obtain ⟨⟨names, location⟩, hc, hmem⟩ := List.mem_flatMap.1 h
  cases location with
  | address a =>
    obtain ⟨n, hn, rfl⟩ := List.mem_map.1 hmem
    obtain rfl : n.name = text := by simpa [direct.localName hc hn] using hd
    exact ⟨_, hc, ⟨a, List.mem_map.2 ⟨n, hn, rfl⟩⟩, n, hn, rfl⟩
  | string other =>
    exact absurd rfl (direct.location_ne hc other)
  | identifier name =>
    obtain rfl := List.mem_singleton.1 hmem
    cases hd

end Cadence

namespace ImportTable

variable {t : ImportTable} {p : Program}

theorem exists_of_mem_unresolved {l : String} (h : l ∈ p.unresolved) :
    ∃ i ∈ p.outline.imports, i.clause.location = .string l := by
  obtain ⟨i, hi, hpath⟩ := List.mem_filterMap.1 h
  obtain ⟨names, location, span⟩ := i
  cases location with
  | string text => exact ⟨_, hi, congrArg Location.string (Option.some.inj hpath)⟩
  | address a => cases hpath
  | identifier name => cases hpath

/-- With no names for aliases, imports keep their own. -/
theorem canonicalName_of_isName (canonical : t.canonical = .empty) {name : String}
    (h : isName name) : t.canonicalName name = name := by
  rw [canonicalName, canonical]
  exact importName_of_isName h

/-- What is put for an import by name is imported from where the name resolves to. -/
theorem deployed_resolvedClause (canonical : t.canonical = .empty) {importer name : String}
    {a : Address} (h : isName name) (ha : t.resolve importer name = .ok a) :
    ((t.resolvedClause importer ⟨[], .string name⟩).getD ⟨[], .string name⟩).deployed =
      [(a, name)] := by
  have hbound : t.boundNames name [] = [⟨name, none⟩] := by
    simp [boundNames, canonicalName_of_isName canonical h, importName_of_isName h]
  simp [resolvedClause, ha, hbound, Clause.deployed]

section Direct

variable {ps : List Part} {location : String}

theorem isName_of_mem_clauses (made : p.MadeOf ps) {c : Clause}
    (hc : c ∈ p.outline.imports.map Import.clause) : ∀ n ∈ c.names, isName n.name := by
  intro n hn
  rw [made.clauses] at hc
  obtain ⟨ls, hls⟩ := exists_of_mem_clausesOf hc
  exact (made.whole.isName hls n hn).1

theorem named_of_direct (made : p.MadeOf ps) (direct : p.Direct)
    (canonical : t.canonical = .empty) :
    t.Named ((p.outline.imports.map Import.clause).flatMap Clause.bare) := by
  intro d hd name hloc
  obtain ⟨c, hc, -, n, hn, rfl⟩ := direct.exists_deployed hd hloc
  have hn := isName_of_mem_clauses made hc n hn
  refine ⟨fun _ => (importName_of_isName hn).symm ▸ hn, fun hne => absurd ?_ hne⟩
  rw [canonicalName_of_isName canonical hn, importName_of_isName hn]

theorem apart_of_direct (made : p.MadeOf ps) (direct : p.Direct) (locations : List String) :
    Apart (t.deployAll location locations) (rewrite bareOf ps) := by
  refine apart_rewrite_bareOf made.whole.lexed (clauses_written made.whole.reads)
    (standalone_bareOf made.whole) fun c hc hbare => ?_
  rw [← made.clauses] at hc
  obtain ⟨names, location⟩ := c
  cases location with
  | address a => cases hbare
  | string text => exact absurd rfl (direct.location_ne hc text)
  | identifier name => rfl

/-- The names that an import has in the unprocessed form are put back as it had them. -/
theorem flatMap_deployed_bare (made : p.MadeOf ps) (direct : p.Direct)
    (canonical : t.canonical = .empty) {c : Clause} (hc : c ∈ p.outline.imports.map Import.clause)
    (resolves : ∀ r ∈ c.deployed, t.resolve location r.2 = .ok r.1) :
    c.bare.flatMap (fun d => ((t.resolvedClause location d).getD d).deployed) = c.deployed := by
  have names := isName_of_mem_clauses made hc
  obtain ⟨imported, target⟩ := c
  cases target with
  | string text => exact absurd rfl (direct.location_ne hc text)
  | identifier name => simp [Clause.bare, Clause.deployed, resolvedClause]
  | address a =>
    have hbare : Clause.bare ⟨imported, .address a⟩ = imported.map fun n => ⟨[], .string n.name⟩ :=
      List.map_congr_left fun n hn => by rw [direct.localName hc hn]
    have hdeployed : Clause.deployed ⟨imported, .address a⟩ = imported.map fun n => (a, n.name) :=
      rfl
    rw [hdeployed] at resolves
    rw [hbare, hdeployed, List.flatMap_map, List.map_eq_flatMap]
    refine List.flatMap_congr fun n hn => deployed_resolvedClause canonical (names n hn) ?_
    exact resolves (a, n.name) (List.mem_map_of_mem hn)

/-- Replacing the imports of the unprocessed form gives back what was imported from where, if the
names resolve to the addresses they came from. -/
theorem replace_of_unprocessed (made : p.MadeOf ps) (direct : p.Direct)
    (canonical : t.canonical = .empty) (args : List Json) (location : String)
    (resolves : ∀ r ∈ p.deployedImports, t.resolve location r.2 = .ok r.1) :
    ∃ q r, Program.parse (Utf8.encode p.unprocessed) args location = .ok q ∧
      t.replace q = (r, .ok ()) ∧ r.deployedImports = p.deployedImports := by
  obtain ⟨bare, -, bareMade, -⟩ := made.convertImports
  obtain ⟨q, parsed, hmade, rfl⟩ := bareMade.exists_parse args location
  rw [← bareMade.code, ← made.unprocessed_eq] at parsed
  have hclauses : clausesOf (rewrite bareOf ps) =
      (p.outline.imports.map Import.clause).flatMap Clause.bare := by
    rw [made.clauses, clausesOf_rewrite_bareOf]
  have hresolves {c : Clause} (hc : c ∈ p.outline.imports.map Import.clause) :
      ∀ r ∈ c.deployed, t.resolve q.location r.2 = .ok r.1 := by
    intro r hr
    apply resolves
    rw [Program.deployedImports_eq]
    exact List.mem_flatMap.2 ⟨c, hc, hr⟩
  have named := named_of_direct made direct canonical
  rw [← hclauses] at named
  -- all names resolve, and no import by name is glued to what follows: only success is left
  obtain ⟨l, hl, he, -⟩ | ⟨-, ⟨-, r, hr, rmade, -⟩ | ⟨glued, -⟩⟩ := replace_cases hmade named
  · obtain ⟨i, hi, hloc⟩ := exists_of_mem_unresolved hl
    have hi := List.mem_map_of_mem (f := Import.clause) hi
    rw [hmade.clauses, hclauses] at hi
    obtain ⟨c, hc, ⟨a, hr⟩, -⟩ := direct.exists_deployed hi hloc
    simp [hresolves hc _ hr] at he
  · refine ⟨q, r, parsed, hr, ?_⟩
    have hdeploy : clausesOf (rewrite (t.deployAll q.location q.unresolved) (rewrite bareOf ps)) =
        (clausesOf (rewrite bareOf ps)).map fun d => (t.resolvedClause q.location d).getD d := by
      rw [clausesOf_rewrite, List.map_eq_flatMap]
      refine List.flatMap_congr fun d hd => deployAll_clausesOf fun l hl => ?_
      rw [← hmade.clauses] at hd
      obtain ⟨i, hi, rfl⟩ := List.mem_map.1 hd
      exact mem_unresolved hi hl
    rw [Program.deployedImports_eq, Program.deployedImports_eq, rmade.clauses, hdeploy, hclauses,
      List.flatMap_map, List.flatMap_assoc]
    exact List.flatMap_congr fun c hc =>
      flatMap_deployed_bare made direct canonical hc (hresolves hc)
  · exact absurd (apart_of_direct made direct _) glued

end Direct

end ImportTable

end ContractProject
