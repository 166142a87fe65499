import ContractProject.Cadence.Outline
import ContractProject.Proofs.Cadence.Place

/-!
Sources in parts: imports, each with the lexemes that spell it, and single lexemes between them.
-/

namespace ContractProject.Cadence

open Text (byteLength)

def importKeyword : Lexeme := ⟨some .identifier, "import".toList⟩

/-- The lexemes run from the keyword of an import to its last token and say this. -/
structure Clause.Written (c : Clause) (lexemes : List Lexeme) : Prop where
  keyword : lexemes.head? = some importKeyword
  last : ∀ l ∈ lexemes.getLast?, l.kind ≠ none
  spelled : c.Spelled (atomsOf lexemes)

/-- A stretch of a source: an import, or a lexeme outside of imports. -/
inductive Part where
  | clause (c : Clause) (lexemes : List Lexeme)
  | other (l : Lexeme)
  deriving DecidableEq, Repr

def Part.lexemes : Part → List Lexeme
  | .clause _ lexemes => lexemes
  | .other l => [l]

def lexemesOf (parts : List Part) : List Lexeme := parts.flatMap Part.lexemes

@[simp] theorem lexemesOf_nil : lexemesOf [] = [] := rfl

@[simp] theorem lexemesOf_clause (c : Clause) (ls : List Lexeme) (ps : List Part) :
    lexemesOf (.clause c ls :: ps) = ls ++ lexemesOf ps := rfl

@[simp] theorem lexemesOf_other (l : Lexeme) (ps : List Part) :
    lexemesOf (.other l :: ps) = l :: lexemesOf ps := rfl

@[simp] theorem lexemesOf_append (a b : List Part) :
    lexemesOf (a ++ b) = lexemesOf a ++ lexemesOf b := List.flatMap_append

def textOf (parts : List Part) : List Char := rawText (lexemesOf parts)

@[simp] theorem textOf_nil : textOf [] = [] := rfl

@[simp] theorem textOf_clause (c : Clause) (ls : List Lexeme) (ps : List Part) :
    textOf (.clause c ls :: ps) = rawText ls ++ textOf ps := by simp [textOf]

@[simp] theorem textOf_other (l : Lexeme) (ps : List Part) :
    textOf (.other l :: ps) = l.raw ++ textOf ps := by simp [textOf]

@[simp] theorem textOf_append (a b : List Part) : textOf (a ++ b) = textOf a ++ textOf b := by
  simp [textOf]

/-- The imports among parts of which the first is at `offset`. -/
def importsAt (offset : Nat) : List Part → List Import
  | [] => []
  | .clause c ls :: ps =>
    let next := offset + byteLength (rawText ls)
    ⟨c.names, c.location, ⟨offset, next⟩⟩ :: importsAt next ps
  | .other l :: ps => importsAt (offset + byteLength l.raw) ps

/-- An import of a source stands between the text before it and that behind it. -/
theorem mem_importsAt {offset : Nat} {ps : List Part} {i : Import} :
    i ∈ importsAt offset ps ↔ ∃ a c ls b, ps = a ++ .clause c ls :: b ∧
      i = ⟨c.names, c.location, ⟨offset + byteLength (textOf a),
        offset + byteLength (textOf a ++ rawText ls)⟩⟩ := by
  induction ps generalizing offset with
  | nil => simp [importsAt]
  | cons p ps ih =>
    constructor
    · intro h
      cases p with
      | other l =>
        obtain ⟨a, c, ls, b, rfl, rfl⟩ := ih.1 h
        exact ⟨.other l :: a, c, ls, b, rfl, by simp [Nat.add_assoc]⟩
      | clause d ms =>
        rcases List.mem_cons.1 h with rfl | h
        · exact ⟨[], d, ms, ps, rfl, by simp⟩
        · obtain ⟨a, c, ls, b, rfl, rfl⟩ := ih.1 h
          exact ⟨.clause d ms :: a, c, ls, b, rfl, by simp [Nat.add_assoc]⟩
    · rintro ⟨a, c, ls, b, hps, rfl⟩
      cases a with
      | nil =>
        obtain ⟨rfl, rfl⟩ := List.cons.inj hps
        simp [importsAt]
      | cons q a =>
        obtain ⟨rfl, rfl⟩ := List.cons.inj hps
        cases p with
        | other l => exact ih.2 ⟨a, c, ls, b, rfl, by simp [Nat.add_assoc]⟩
        | clause d ms =>
          exact List.mem_cons_of_mem _ (ih.2 ⟨a, c, ls, b, rfl, by simp [Nat.add_assoc]⟩)

theorem fits_of_mem_importsAt {ps : List Part} {i : Import} (h : i ∈ importsAt 0 ps) :
    i.span.Fits (textOf ps) := by
  obtain ⟨a, c, ls, b, rfl, rfl⟩ := mem_importsAt.1 h
  exact ⟨textOf a, rawText ls, textOf b, by simp, by simp⟩

/-- Imports come in the order of their spans, none of which reaches into the next. -/
theorem pairwise_importsAt (offset : Nat) (ps : List Part) :
    (importsAt offset ps).Pairwise fun i j => i.span.stop ≤ j.span.start := by
  induction ps generalizing offset with
  | nil => exact .nil
  | cons p ps ih =>
    cases p with
    | other l => exact ih _
    | clause c ls =>
      refine .cons (fun j hj => ?_) (ih _)
      obtain ⟨a, d, ms, b, -, rfl⟩ := mem_importsAt.1 hj
      exact Nat.le_add_right _ _

def Part.clause? : Part → Option Clause
  | .clause c _ => some c
  | .other _ => none

theorem map_clause_importsAt (offset : Nat) (ps : List Part) :
    (importsAt offset ps).map Import.clause = ps.filterMap Part.clause? := by
  induction ps generalizing offset with
  | nil => rfl
  | cons p ps ih =>
    cases p <;> simp [importsAt, Part.clause?, Import.clause, List.filterMap_cons, ih]

end ContractProject.Cadence
