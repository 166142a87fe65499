import ContractProject.Proofs.Cadence.Steps
import ContractProject.Proofs.ImportTable.Replacement

/-!
When a program keeps up with its code. Replacing one location can fail, exactly if an import of it
is crowded, and then the program is left behind.
-/

namespace ContractProject.ImportTable

open Cadence

/-- Replacing an import of a location by one of these names writes identifiers only. -/
structure WritesNames (location : String) (canonical : Option String)
    (names : List ImportedName) : Prop where
  own : names = [] → isName (Path.importName location)
  canonical : ∀ name ∈ canonical, name ≠ Path.importName location →
    names = [] ∨ (∃ single, names = [⟨single, none⟩]) → isName name

/-- A table that knows the canonical name of one location. -/
def namedTable (location : String) (canonical : Option String) : ImportTable where
  addresses := .empty
  canonical := ⟨(canonical.map fun name => (Path.importName location, name)).toList⟩

theorem canonicalName_namedTable (location : String) (canonical : Option String) :
    (namedTable location canonical).canonicalName location =
      canonical.getD (Path.importName location) := by
  cases canonical with
  | none => rfl
  | some name => simp [namedTable, canonicalName, Collection.get?, lookup?, key]

theorem WritesNames.addsNames {location : String} {canonical : Option String}
    {names : List ImportedName} (h : WritesNames location canonical names) :
    (namedTable location canonical).AddsNames location names := by
  refine ⟨h.own, fun hne => ?_⟩
  rw [canonicalName_namedTable] at hne ⊢
  cases canonical with
  | none => exact absurd rfl hne
  | some name => exact h.canonical name rfl hne

/-- To have no canonical name is to have the own one. -/
theorem resolvedNames_none (location : String) (names : List ImportedName) :
    Program.resolvedNames location none names =
      Program.resolvedNames location (some (Path.importName location)) names := by
  have hown : (some (Path.importName location)).filter (· ≠ Path.importName location) = none := by
    simp [Option.filter_some]
  unfold Program.resolvedNames
  simp only [hown, Option.filter_none]

theorem replaceImport_namedTable (p : Program) (location : String) (a : Address)
    (canonical : Option String) :
    p.replaceImport location a canonical =
      p.replaceImport location a
        (some ((namedTable location canonical).canonicalName location)) := by
  rw [canonicalName_namedTable]
  cases canonical with
  | some name => rfl
  | none =>
    unfold Program.replaceImport Program.resolvedImport
    simp only [resolvedNames_none, Option.getD_none]

theorem deployFrom_ne_none {t : ImportTable} {location : String} {a : Address} {c : Clause} :
    t.deployFrom location a c ≠ none ↔ c.location = .string location := by
  by_cases h : c.location = .string location <;> simp [deployFrom, h]

theorem deploys_deployFrom {t : ImportTable} {location : String} {a : Address} {ps : List Part}
    {ds : List Declaration} (whole : Whole ps ds)
    (adds : ∀ c ∈ clausesOf ps, c.location = .string location → t.AddsNames location c.names) :
    Deploys (t.deployFrom location a) ps := by
  intro c hc new hnew
  obtain ⟨ls, hls⟩ := exists_of_mem_clausesOf hc
  have hloc : c.location = .string location :=
    deployFrom_ne_none.1 (Option.ne_none_iff_exists'.2 ⟨new, hnew⟩)
  obtain rfl : deployedParts (t.boundNames location c.names) a = new := by
    simpa [deployFrom, hloc] using hnew
  exact ⟨_, a, boundNames_ne_nil t location c.names,
    boundNames_isName (adds c hc hloc) (whole.isName hls), rfl⟩

/-- Replacing a location by identifiers succeeds exactly if no import of it is crowded. -/
theorem replaceImport_ok_iff {p : Program} (current : p.Current) {location : String} {a : Address}
    {canonical : Option String}
    (writes : ∀ i ∈ p.outline.imports, i.path? = some location →
      WritesNames location canonical i.names) :
    (p.replaceImport location a canonical).2 = .ok () ↔
      ∀ i ∈ p.outline.imports, i.path? = some location → isCrowded p i = false := by
  obtain ⟨ps, made⟩ := current.exists_madeOf
  have hpath (i : Import) : i.path? = some location ↔ i.clause.location = .string location := by
    obtain ⟨names, target, span⟩ := i
    cases target <;> simp [Import.path?, Import.clause]
  let t := namedTable location canonical
  have adds : ∀ c ∈ clausesOf ps, c.location = .string location → t.AddsNames location c.names := by
    intro c hc hloc
    rw [← made.clauses] at hc
    obtain ⟨i, hi, rfl⟩ := List.mem_map.1 hc
    exact (writes i hi ((hpath i).2 hloc)).addsNames
  have deploys := deploys_deployFrom (a := a) made.whole adds
  have apart : Apart (t.deployFrom location a) ps ↔
      ∀ i ∈ p.outline.imports, i.path? = some location → isCrowded p i = false := by
    rw [apart_iff_of_paths made fun c hc => ⟨location, deployFrom_ne_none.1 hc⟩]
    simp only [deployFrom_ne_none, hpath]
  rw [← apart, replaceImport_namedTable]
  constructor
  · intro done
    by_contra glued
    obtain ⟨fault, hfault⟩ := deploys.exists_fault made.whole glued
    obtain ⟨q, hq, -⟩ := replaceImport_of_fault made hfault
    simp [t, hq] at done
  · intro hapart
    obtain ⟨q, hq, -⟩ := replaceImport_of_whole made (deploys.whole made.whole hapart)
    rw [hq]

end ContractProject.ImportTable

namespace ContractProject.Cadence.Program

open ImportTable (WritesNames isCrowded)

/-- A program that has been changed is current exactly if its code has an outline, and so it is if
all changes succeed. While it is current, a change keeps it so exactly if it succeeds; only a
replacement can fail, and one by identifiers does if and only if an import of its location is
crowded. -/
theorem current_iff_of_run {code : Bytes} {args : List Json} {location : String} {p q : Program}
    {steps : List Step} (parsed : parse code args location = .ok p) (done : p.run steps = q) :
    (q.Current ↔ ∃ o, Outline.parse q.code = .ok o) ∧ (p.Succeeds steps → q.Current) ∧
    (q.Current →
      (∀ i ∈ q.outline.imports, i.span.Fits q.code) ∧
      (q.outline.imports.Pairwise fun i j => i.span.stop ≤ j.span.start) ∧
      (∀ step : Step, (step.apply q).1.Current ↔ (step.apply q).2 = .ok ()) ∧
      q.convertImports.2 = .ok () ∧
      ∀ location a canonical, (∀ i ∈ q.outline.imports, i.path? = some location →
          WritesNames location canonical i.names) →
        ((q.replaceImport location a canonical).2 = .ok () ↔
          ∀ i ∈ q.outline.imports, i.path? = some location → isCrowded q i = false)) := by
  obtain ⟨ps, made⟩ := exists_madeOf_of_parse parsed
  have settled : p.Settled := .inl made.current
  subst done
  refine ⟨(settled.run steps).current_iff, fun succeeds => made.current.run succeeds,
    fun current => ?_⟩
  obtain ⟨fits, ordered⟩ := current.spans
  exact ⟨fits, ordered, current.apply_iff, current.convertImports,
    fun location a canonical writes => ImportTable.replaceImport_ok_iff current writes⟩

def gluedSource : Bytes := Utf8.encode "import Foo from \"Foo\"abc".toList

/-- Replaces the import of the glued source. -/
def gluedStep : Step := .replace "Foo" (.ofNat 1) none

/-- Converting makes the unprocessed form the code, which has been kept from before the failure. -/
theorem current_of_convert : ∃ p, parse gluedSource [] "main.cdc" = .ok p ∧
    ¬ (p.run [gluedStep]).Current ∧ (p.run [gluedStep, .convert]).Current := by
  have evaluated : (parse gluedSource [] "main.cdc").toOption.map (fun p =>
      ((Outline.parse (p.run [gluedStep]).code).toOption.isSome,
        (Outline.parse (p.run [gluedStep, .convert]).code).toOption.isSome)) =
      some (false, true) := by
    decide +kernel
  obtain ⟨p, parsed, hp⟩ := exists_ok_of_toOption evaluated
  obtain ⟨hfailed, hconverted⟩ := Prod.mk.inj hp
  refine ⟨p, parsed, ?_, ?_⟩
  · rw [(current_iff_of_run parsed rfl).1]
    rintro ⟨o, ho⟩
    rw [ho] at hfailed
    cases hfailed
  · obtain ⟨o, ho⟩ := Option.isSome_iff_exists.1 hconverted
    exact (current_iff_of_run parsed rfl).1.2 ⟨o, eq_ok_of_toOption ho⟩

/-- The code of a replacement that fails stays, and the imports are those of the code before. -/
theorem not_current_of_run : ¬ ∀ (code : Bytes) (args : List Json) (location : String)
    (p : Program) (steps : List Step), parse code args location = .ok p →
      (p.run steps).Current := by
  intro always
  have evaluated : (parse gluedSource [] "main.cdc").toOption.map (fun p =>
      (Outline.parse (p.run [gluedStep]).code).toOption.isSome) = some false := by
    decide +kernel
  obtain ⟨p, parsed, hfailed⟩ := exists_ok_of_toOption evaluated
  have := (always _ _ _ p [gluedStep] parsed).outline
  rw [this] at hfailed
  cases hfailed

end ContractProject.Cadence.Program
