import ContractProject.Cadence.Program
import ContractProject.Proofs.Cadence.Rewriting

/-!
Programs in parts. A program that has been parsed is in parts, and so is one whose code has been
replaced by parts that can be read.
-/

namespace ContractProject.Cadence.Program

/-- The program is in these parts, and its outline and unprocessed form are those of its code. -/
structure MadeOf (p : Program) (ps : List Part) : Prop where
  whole : Whole ps p.outline.declarations
  code : textOf ps = p.code
  imports : importsAt 0 ps = p.outline.imports
  unprocessed : p.unprocessed = unprocessedCode p.code p.outline

/-- The programs differ in their imports only, and in the code around them. -/
structure SameButImports (q p : Program) : Prop where
  declarations : q.outline.declarations = p.outline.declarations
  location : q.location = p.location
  args : q.args = p.args

theorem SameButImports.refl (p : Program) : p.SameButImports p := ⟨rfl, rfl, rfl⟩

theorem SameButImports.trans {r q p : Program} (h : r.SameButImports q) (g : q.SameButImports p) :
    r.SameButImports p :=
  ⟨h.declarations.trans g.declarations, h.location.trans g.location, h.args.trans g.args⟩

theorem MadeOf.parse {p : Program} {ps : List Part} (made : p.MadeOf ps) :
    Outline.parse p.code = .ok p.outline := by
  rw [← made.code, made.whole.parse, made.imports]

theorem MadeOf.clauses {p : Program} {ps : List Part} (made : p.MadeOf ps) :
    p.outline.imports.map Import.clause = clausesOf ps := by
  rw [← made.imports, map_clause_importsAt]
  rfl

/-- An import of the program is written in the code where its span says. -/
theorem MadeOf.exists_import {p : Program} {ps : List Part} (made : p.MadeOf ps) {c : Clause}
    {ls : List Lexeme} (h : Part.clause c ls ∈ ps) :
    ∃ i ∈ p.outline.imports, i.clause = c ∧ Text.slice i.span p.code = rawText ls := by
  obtain ⟨a, b, rfl⟩ := List.append_of_mem h
  have hcode : p.code = textOf a ++ (rawText ls ++ textOf b) := by
    rw [← made.code]
    simp
  rw [← made.imports, hcode]
  refine ⟨_, mem_importsAt.2 ⟨a, c, ls, b, rfl, rfl⟩, rfl, ?_⟩
  rw [Nat.zero_add, Nat.zero_add, Text.byteLength_append]
  exact Text.slice_append _ _ _

theorem exists_madeOf_of_parse {code : Bytes} {args : List Json} {location : String} {p : Program}
    (h : parse code args location = .ok p) : ∃ ps, p.MadeOf ps := by
  unfold parse ofCode at h
  split at h
  · next source _ =>
    split at h
    · next o ho =>
      obtain rfl := Except.ok.inj h
      obtain ⟨ps, whole, text, imports⟩ := exists_whole_of_parse ho
      exact ⟨ps, whole, text, imports, rfl⟩
    · contradiction
  · contradiction

/-- Code in parts replaces that of a program with the same declarations. -/
theorem withCode_textOf {ps : List Part} (p : Program) (whole : Whole ps p.outline.declarations) :
    ∃ q, p.withCode (textOf ps) = (q, .ok ()) ∧ q.MadeOf ps ∧ q.SameButImports p := by
  let o : Outline := ⟨importsAt 0 ps, p.outline.declarations⟩
  refine ⟨{ p with code := textOf ps, outline := o, unprocessed := unprocessedCode (textOf ps) o },
    ?_, ⟨whole, rfl, rfl, rfl⟩, rfl, rfl, rfl⟩
  rw [withCode, whole.parse]

theorem withCode_error {p q : Program} {code : List Char} {e : Error}
    (h : p.withCode code = (q, .error e)) :
    ∃ fault, e = .program p.location (.outline fault) ∧ Outline.parse q.code = .error fault := by
  unfold withCode at h
  cases hcode : Outline.parse code with
  | ok o => simp [hcode] at h
  | error fault =>
    simp only [hcode, Prod.mk.injEq, Except.error.injEq] at h
    obtain ⟨rfl, rfl⟩ := h
    exact ⟨fault, rfl, hcode⟩

theorem withCode_ok {p q : Program} {code : List Char} (h : p.withCode code = (q, .ok ())) :
    q.location = p.location := by
  unfold withCode at h
  cases hcode : Outline.parse code with
  | ok o =>
    simp only [hcode, Prod.mk.injEq, and_true] at h
    rw [← h]
  | error fault => simp [hcode] at h

end ContractProject.Cadence.Program
