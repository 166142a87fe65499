import ContractProject.Proofs.ImportTable.Replacement
import ContractProject.Proofs.Path.Route

/-!
One source at two paths. Replacing goes the same way for both, whatever the paths, except that the
imports lead elsewhere; and they lead to the same places if the paths have one normal form.
-/

namespace ContractProject

/-- The error, said of a program at another place. -/
def Error.placed (location : String) : Error → Error
  | .program _ fault => .program location fault
  | e => e

namespace Cadence.Program

/-- The program, as one at another place that is given other arguments. -/
def placed (p : Program) (args : List Json) (location : String) : Program :=
  { p with args, location }

theorem parse_placed {code : Bytes} {args : List Json} {location : String} {p : Program}
    (h : parse code args location = .ok p) (args' : List Json) (location' : String) :
    parse code args' location' = .ok (p.placed args' location') := by
  unfold parse ofCode at h ⊢
  split at h
  · next source hsource =>
    split at h
    · next outline houtline =>
      obtain rfl := Except.ok.inj h
      rfl
    · cases h
  · cases h

theorem location_of_parse {code : Bytes} {args : List Json} {location : String} {p : Program}
    (h : parse code args location = .ok p) : p.location = location :=
  congrArg Program.location (Except.ok.inj (h.symm.trans (parse_placed h args location)))

variable (p : Program) (args : List Json) (place : String)

/-- What becomes of a program does not depend on its place, which shows in errors only. -/
theorem withCode_placed (code : List Char) : (p.placed args place).withCode code =
    ((p.withCode code).1.placed args place, (p.withCode code).2.mapError (Error.placed place)) := by
  unfold withCode
  split <;> rfl

theorem replaceImport_placed (location : String) (a : Address) (canonical : Option String) :
    (p.placed args place).replaceImport location a canonical =
      ((p.replaceImport location a canonical).1.placed args place,
        (p.replaceImport location a canonical).2.mapError (Error.placed place)) := by
  unfold replaceImport
  dsimp only
  have houtline : (p.placed args place).outline = p.outline := rfl
  have hcode : (p.placed args place).code = p.code := rfl
  rw [houtline, hcode]
  split
  · rfl
  · exact withCode_placed p args place _

end Cadence.Program

namespace ImportTable

open Cadence (Program)

theorem replaceAll_placed (t : ImportTable) (p : Program) (args : List Json) (place : String)
    (resolved : List (String × Address)) : t.replaceAll (p.placed args place) resolved =
      ((t.replaceAll p resolved).1.placed args place,
        (t.replaceAll p resolved).2.mapError (Error.placed place)) := by
  induction resolved generalizing p with
  | nil => rfl
  | cons r rest ih =>
    obtain ⟨location, a⟩ := r
    have hstep := p.replaceImport_placed args place location a (some (t.canonicalName location))
    rw [replaceAll_cons, replaceAll_cons, hstep]
    rcases p.replaceImport location a (some (t.canonicalName location)) with ⟨q, _ | _⟩
    · rfl
    · exact ih q

theorem resolveAll_congr {t : ImportTable} {importer importer' : String}
    (h : ∀ location, Path.absolute importer location = Path.absolute importer' location)
    (locations : List String) :
    t.resolveAll importer locations = t.resolveAll importer' locations := by
  have hresolve (location : String) :
      t.resolve importer location = t.resolve importer' location := by
    rw [resolve, resolve, h]
  induction locations with
  | nil => rfl
  | cons location rest ih => rw [resolveAll, resolveAll, hresolve, ih]

/-- The spelling of the path at which a source stands makes no difference. If a replacement succeeds
at one of two paths that end in a name and have one normal form, it does at the other, with the same
code; and if it fails, it fails at both on the same import or with the same fault of the code. -/
theorem replace_of_clean_eq (t : ImportTable) {code : Bytes} {args : List Json} (args' : List Json)
    {importer importer' : String} {p : Program} (parsed : Program.parse code args importer = .ok p)
    (file : Path.EndsInName importer) (file' : Path.EndsInName importer')
    (plain : '\\' ∉ importer.toList) (plain' : '\\' ∉ importer'.toList)
    (same : Path.clean importer = Path.clean importer') :
    ∃ p', Program.parse code args' importer' = .ok p' ∧
      (((t.replace p).2 = .ok () ∧ (t.replace p').2 = .ok () ∧
          (t.replace p').1.code = (t.replace p).1.code) ∨
        (∃ location, (t.replace p).2 = .error (.unresolvedImport location) ∧
          (t.replace p').2 = .error (.unresolvedImport location)) ∨
        ∃ fault, (t.replace p).2 = .error (.program importer (.outline fault)) ∧
          (t.replace p').2 = .error (.program importer' (.outline fault))) := by
  have hplace := Program.location_of_parse parsed
  refine ⟨p.placed args' importer', Program.parse_placed parsed args' importer', ?_⟩
  have hresolved : t.resolveAll importer' (p.placed args' importer').unresolved =
      t.resolveAll p.location p.unresolved := by
    rw [hplace]
    exact resolveAll_congr (fun location =>
      (Path.absolute_congr file file' plain plain' same location).symm) _
  have hplace' : (p.placed args' importer').location = importer' := rfl
  unfold replace
  rw [hplace', hresolved]
  cases hall : t.resolveAll p.location p.unresolved with
  | error e =>
    obtain ⟨location, -, he⟩ := resolveAll_eq_error hall
    obtain rfl := resolve_eq_error he
    exact .inr (.inl ⟨location, rfl, rfl⟩)
  | ok resolved =>
    dsimp only
    rw [replaceAll_placed]
    cases hreplaced : t.replaceAll p resolved with
    | mk q result =>
      cases result with
      | ok _ => exact .inl ⟨rfl, rfl, rfl⟩
      | error e =>
        obtain ⟨fault, rfl, -⟩ := replaceAll_error hreplaced
        rw [hplace]
        exact .inr (.inr ⟨fault, rfl, rfl⟩)

/-- A source that imports by a path, and a table that has a contract at that path. -/
def upwardSource : Bytes := Utf8.encode "import Foo from \"../contracts/Foo.cdc\"".toList

def contractsTable : ImportTable where
  addresses := ⟨[("contracts/Foo.cdc", .ofNat 1)]⟩
  canonical := .empty

theorem replace_of_detour : ∃ p p',
    Program.parse upwardSource [] "scripts/./x/../main.cdc/." = .ok p ∧
      Path.EndsInName "scripts/./x/../main.cdc/." ∧ Path.EndsInName "./scripts//main.cdc" ∧
      Path.clean "scripts/./x/../main.cdc/." = Path.clean "./scripts//main.cdc" ∧
      Program.parse upwardSource [] "./scripts//main.cdc" = .ok p' ∧
      (contractsTable.replace p).2 = .ok () ∧ (contractsTable.replace p').2 = .ok () ∧
      (contractsTable.replace p').1.code = (contractsTable.replace p).1.code ∧
      (contractsTable.replace p).1.code = "import Foo from 0x0000000000000001".toList := by
  have evaluated : (Program.parse upwardSource [] "scripts/./x/../main.cdc/.").toOption.map
      (fun p => ((contractsTable.replace p).2.toOption, (contractsTable.replace p).1.code)) =
        some (some (), "import Foo from 0x0000000000000001".toList) := by
    decide +kernel
  obtain ⟨p, parsed, hp⟩ := exists_ok_of_toOption evaluated
  obtain ⟨hdone, hcode⟩ := Prod.mk.inj hp
  have done := eq_ok_of_toOption hdone
  have file : Path.EndsInName "scripts/./x/../main.cdc/." :=
    ⟨"main.cdc".toList, by decide +kernel, by decide⟩
  have file' : Path.EndsInName "./scripts//main.cdc" :=
    ⟨"main.cdc".toList, by decide +kernel, by decide⟩
  have same : Path.clean "scripts/./x/../main.cdc/." = Path.clean "./scripts//main.cdc" := by
    decide +kernel
  obtain ⟨p', parsed', hsame⟩ := replace_of_clean_eq contractsTable [] parsed file file'
    (by decide) (by decide) same
  refine ⟨p, p', parsed, file, file', same, parsed', done, ?_⟩
  rcases hsame with ⟨-, hdone', hcode'⟩ | ⟨location, he, -⟩ | ⟨fault, he, -⟩
  · exact ⟨hdone', hcode', hcode⟩
  · cases done.symm.trans he
  · cases done.symm.trans he

end ImportTable

end ContractProject
