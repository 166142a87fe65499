import ContractProject.ImportTable
import ContractProject.Proofs.Cadence.Writing

/-!
What an import by path becomes once it comes from an address: the names it binds, how it is written,
and the parts that it is rewritten into when some locations or all are replaced.
-/

namespace ContractProject.ImportTable

open Cadence

/-- The names of an import once it comes from an address. A canonical name other than its own takes
the place of a single name, which becomes the alias. -/
def boundNames (t : ImportTable) (location : String) (names : List ImportedName) :
    List ImportedName :=
  let canonical := t.canonicalName location
  let own := Path.importName location
  match names with
  | [] => if canonical = own then [⟨own, none⟩] else [⟨canonical, some own⟩]
  | [⟨name, none⟩] => if canonical = own then [⟨name, none⟩] else [⟨canonical, some name⟩]
  | names => names

/-- What an import by path becomes in the program at `importer`. -/
def resolvedClause (t : ImportTable) (importer : String) (c : Clause) : Option Clause :=
  match c.location with
  | .string location =>
    match t.resolve importer location with
    | .ok a => some ⟨t.boundNames location c.names, .address a⟩
    | .error _ => none
  | _ => none

/-- An import of names from a location, as text. -/
def fromText (c : Clause) : List Char :=
  "import ".toList ++ List.intercalate [',', ' '] (c.names.map fun n => n.toText.toList) ++
    " from ".toList ++ c.location.toText.toList

/-- If replacing an import of this location adds a canonical name, that is an identifier. -/
def AddsCanonical (t : ImportTable) (location : String) (names : List ImportedName) : Prop :=
  t.canonicalName location ≠ Path.importName location →
    names = [] ∨ (∃ name, names = [⟨name, none⟩]) → isName (t.canonicalName location)

/-- The names that replacing an import of this location adds are identifiers. -/
structure AddsNames (t : ImportTable) (location : String) (names : List ImportedName) : Prop where
  own : names = [] → isName (Path.importName location)
  canonical : t.AddsCanonical location names

/-- Replacing adds only identifiers to the imports by path among these. -/
def Named (t : ImportTable) (clauses : List Clause) : Prop :=
  ∀ c ∈ clauses, ∀ location, c.location = .string location → t.AddsNames location c.names

theorem boundNames_ne_nil (t : ImportTable) (location : String) (names : List ImportedName) :
    t.boundNames location names ≠ [] := by
  unfold boundNames
  by_cases h : t.canonicalName location = Path.importName location <;> split <;> simp_all

theorem boundNames_isName {t : ImportTable} {location : String} {names : List ImportedName}
    (adds : t.AddsNames location names) (hn : ∀ n ∈ names, n.IsName) :
    ∀ n ∈ t.boundNames location names, n.IsName := by
  unfold boundNames
  by_cases h : t.canonicalName location = Path.importName location
  · simp only [h, if_true]
    split
    · simpa [ImportedName.IsName] using adds.own rfl
    · exact hn
    · exact hn
  · simp only [h, if_false]
    split
    · have := adds.canonical h (.inl rfl)
      simpa [ImportedName.IsName, this] using adds.own rfl
    · next name =>
      have := adds.canonical h (.inr ⟨name, rfl⟩)
      have := (hn ⟨name, none⟩ (by simp)).1
      simp_all [ImportedName.IsName]
    · exact hn

theorem resolvedNames_eq (t : ImportTable) (location : String) (names : List ImportedName) :
    Program.resolvedNames location (some (t.canonicalName location)) names =
      List.intercalate [',', ' '] ((t.boundNames location names).map fun n => n.toText.toList) := by
  unfold Program.resolvedNames boundNames
  by_cases h : t.canonicalName location = Path.importName location
  · simp only [h, ne_eq, not_true_eq_false, decide_false, Option.filter_some, if_true]
    match names with
    | [] => exact List.intercalate_singleton.symm
    | [⟨_, none⟩] => rfl
    | ⟨_, none⟩ :: _ :: _ => rfl
    | ⟨_, some _⟩ :: _ => rfl
  · simp only [h, ne_eq, not_false_eq_true, decide_true, Option.filter_some, if_true, if_false]
    match names with
    | [] => exact List.intercalate_singleton.symm
    | [⟨_, none⟩] => exact List.intercalate_singleton.symm
    | ⟨_, none⟩ :: _ :: _ => rfl
    | ⟨_, some _⟩ :: _ => rfl

theorem textOf_deployedParts (names : List ImportedName) (a : Address) :
    textOf (deployedParts names a) = fromText ⟨names, .address a⟩ := by
  rw [textOf, lexemesOf_deployedParts]
  exact rawText_deployedLexemes names a

theorem resolvedImport_eq (t : ImportTable) (location : String) (a : Address)
    (names : List ImportedName) :
    Program.resolvedImport location a (some (t.canonicalName location)) names =
      rawText (deployedLexemes (t.boundNames location names) a) := by
  rw [rawText_deployedLexemes, ← resolvedNames_eq]
  rfl

/-- What replacing puts in the place of an import of this location. -/
def deployFrom (t : ImportTable) (location : String) (a : Address) (c : Clause) :
    Option (List Part) :=
  if c.location = .string location then some (deployedParts (t.boundNames location c.names) a)
  else none

/-- What replacing these locations puts in the place of imports. -/
def deployAll (t : ImportTable) (importer : String) (locations : List String) (c : Clause) :
    Option (List Part) :=
  match c.location with
  | .string location =>
    if location ∈ locations then
      match t.resolve importer location with
      | .ok a => some (deployedParts (t.boundNames location c.names) a)
      | .error _ => none
    else none
  | _ => none

theorem deployAll_nil (t : ImportTable) (importer : String) (c : Clause) :
    t.deployAll importer [] c = none := by
  unfold deployAll
  split <;> simp

theorem exists_of_deployAll {t : ImportTable} {importer : String} {locations : List String}
    {c : Clause} {new : List Part} (h : t.deployAll importer locations c = some new) :
    ∃ location a, c.location = .string location ∧ location ∈ locations ∧
      t.resolve importer location = .ok a ∧
      new = deployedParts (t.boundNames location c.names) a := by
  unfold deployAll at h
  split at h
  case h_2 => contradiction
  next location hloc =>
  split at h
  case isFalse => contradiction
  next hmem =>
  split at h
  case h_2 => contradiction
  next a ha =>
  exact ⟨location, a, hloc, hmem, ha, (Option.some.inj h).symm⟩

theorem deployAll_of_string {t : ImportTable} {importer location : String} {a : Address}
    {locations : List String} {names : List ImportedName} (hmem : location ∈ locations)
    (ha : t.resolve importer location = .ok a) :
    t.deployAll importer locations ⟨names, .string location⟩ =
      some (deployedParts (t.boundNames location names) a) := by
  simp [deployAll, hmem, ha]

/-- After the imports of some locations, those of one more are replaced. -/
theorem rewrite_deployFrom {t : ImportTable} {importer location : String} {a : Address}
    (ha : t.resolve importer location = .ok a) (done : List String) (ps : List Part) :
    rewrite (t.deployFrom location a) (rewrite (t.deployAll importer done) ps) =
      rewrite (t.deployAll importer (done ++ [location])) ps := by
  rw [rewrite_rewrite]
  apply rewrite_congr
  intro c _
  cases hdone : t.deployAll importer done c with
  | some new =>
    -- it comes from an address by now, so no location is looked for in it again
    obtain ⟨l, b, hloc, hmem, hb, rfl⟩ := exists_of_deployAll hdone
    obtain ⟨names, _⟩ := c
    subst hloc
    have hkeep : rewrite (t.deployFrom location a) (deployedParts (t.boundNames l names) b) =
        deployedParts (t.boundNames l names) b := by
      apply rewrite_eq_self
      intro d hd
      obtain rfl := List.mem_singleton.1 hd
      simp [deployFrom]
    rw [deployAll_of_string (by simp [hmem]) hb]
    simp [hkeep]
  | none =>
    obtain ⟨names, target⟩ := c
    cases target with
    | string l =>
      by_cases hl : l = location
      · subst hl
        rw [deployAll_of_string (by simp) ha]
        simp [deployFrom]
      · have hsame : t.deployAll importer (done ++ [location]) ⟨names, .string l⟩ =
            t.deployAll importer done ⟨names, .string l⟩ := by
          simp [deployAll, hl]
        rw [hsame, hdone]
        simp [deployFrom, hl]
    | address b => simp [deployFrom, deployAll]
    | identifier name => simp [deployFrom, deployAll]

theorem editsOf_deployFrom (t : ImportTable) (location : String) (a : Address)
    (imports : List Import) :
    (imports.filter fun i => i.path? = some location).map (fun i =>
        ⟨i.span, Program.resolvedImport location a (some (t.canonicalName location)) i.names⟩) =
      editsOf (t.deployFrom location a) imports := by
  rw [editsOf, ← List.filterMap_eq_map, ← List.filterMap_eq_filter, List.filterMap_filterMap]
  congr 1
  funext i
  obtain ⟨names, target, span⟩ := i
  cases target with
  | string l =>
    by_cases hl : l = location
    · subst hl
      simp [Import.path?, deployFrom, Import.clause, Option.guard, deployedParts, resolvedImport_eq]
    · simp [Import.path?, deployFrom, Import.clause, Option.guard, hl]
  | address b => simp [Import.path?, deployFrom, Import.clause, Option.guard]
  | identifier name => simp [Import.path?, deployFrom, Import.clause, Option.guard]

theorem deployAll_clausesOf {t : ImportTable} {importer : String} {locations : List String}
    {c : Clause} (hmem : ∀ l, c.location = .string l → l ∈ locations) :
    ((t.deployAll importer locations c).map clausesOf).getD [c] =
      [(t.resolvedClause importer c).getD c] := by
  obtain ⟨names, location⟩ := c
  cases location with
  | string l =>
    have := hmem l rfl
    cases ha : t.resolve importer l <;> simp [deployAll, resolvedClause, ha, this]
  | address a => rfl
  | identifier name => rfl

theorem deployAll_textOf {t : ImportTable} {importer : String} {locations : List String}
    {c : Clause} (hmem : ∀ l, c.location = .string l → l ∈ locations) :
    (t.deployAll importer locations c).map textOf = (t.resolvedClause importer c).map fromText := by
  obtain ⟨names, location⟩ := c
  cases location with
  | string l =>
    have := hmem l rfl
    cases ha : t.resolve importer l with
    | ok a =>
      have htext : textOf (deployedParts (t.boundNames l names) a) =
          fromText ⟨t.boundNames l names, .address a⟩ := textOf_deployedParts _ a
      simp [deployAll, resolvedClause, ha, this, htext]
    | error e => simp [deployAll, resolvedClause, ha, this]
  | address a => rfl
  | identifier name => rfl

end ContractProject.ImportTable
