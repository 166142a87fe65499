import ContractProject.Proofs.Cadence.Clause
import ContractProject.Proofs.Cadence.Lexing

/-!
Lexemes and the tokens they become once they are placed: what the tokens say does not depend on the
place, and tokens up to one of them come from lexemes up to that one.
-/

namespace ContractProject.Cadence

open Text (byteLength)

def Lexeme.atom? (l : Lexeme) : Option Atom :=
  l.kind.map fun kind => kind.atom (Lexeme.text kind l.raw)

def atomsOf (lexemes : List Lexeme) : List Atom := lexemes.filterMap Lexeme.atom?

@[simp] theorem atomsOf_nil : atomsOf [] = [] := rfl

theorem atomsOf_cons (l : Lexeme) (ls : List Lexeme) :
    atomsOf (l :: ls) = l.atom?.toList ++ atomsOf ls := by
  cases h : l.atom? <;> simp [atomsOf, h]

@[simp] theorem atomsOf_append (a b : List Lexeme) : atomsOf (a ++ b) = atomsOf a ++ atomsOf b :=
  List.filterMap_append

theorem place_of_gap {offset : Nat} {l : Lexeme} (ls : List Lexeme) (h : l.kind = none) :
    place offset (l :: ls) = place (offset + byteLength l.raw) ls := by
  simp [place, h]

theorem place_of_token {offset : Nat} {l : Lexeme} {kind : TokenKind} (ls : List Lexeme)
    (h : l.kind = some kind) :
    place offset (l :: ls) =
      ⟨kind, Lexeme.text kind l.raw, ⟨offset, offset + byteLength l.raw⟩⟩ ::
        place (offset + byteLength l.raw) ls := by
  simp [place, h]

theorem exists_place_of_atom (offset : Nat) {l : Lexeme} {a : Atom} (h : l.atom? = some a) :
    ∃ t : Token, t.atom = a ∧ t.span = ⟨offset, offset + byteLength l.raw⟩ ∧
      ∀ ls, place offset (l :: ls) = t :: place (offset + byteLength l.raw) ls := by
  obtain ⟨kind, hk, rfl⟩ := Option.map_eq_some_iff.1 h
  exact ⟨_, rfl, rfl, fun ls => place_of_token ls hk⟩

theorem place_append (offset : Nat) (a b : List Lexeme) :
    place offset (a ++ b) = place offset a ++ place (offset + byteLength (rawText a)) b := by
  induction a generalizing offset with
  | nil => simp [place]
  | cons l a ih =>
    cases h : l.kind with
    | none => simp [place_of_gap _ h, ih, Nat.add_assoc]
    | some kind => simp [place_of_token _ h, ih, Nat.add_assoc]

theorem map_atom_place (offset : Nat) (ls : List Lexeme) :
    (place offset ls).map Token.atom = atomsOf ls := by
  induction ls generalizing offset with
  | nil => rfl
  | cons l ls ih =>
    cases h : l.kind with
    | none => simp [place_of_gap _ h, ih, atomsOf_cons, Lexeme.atom?, h]
    | some kind => simp [place_of_token _ h, ih, atomsOf_cons, Lexeme.atom?, h, Token.atom]

/-- Tokens up to one of them are those of the lexemes up to that one. -/
theorem exists_lexemes_of_place {offset : Nat} {ls : List Lexeme} {used rest : List Token}
    {last : Token} (h : place offset ls = used ++ rest) (hl : last ∈ used.getLast?) :
    ∃ a l b, ls = a ++ l :: b ∧ l.kind ≠ none ∧ place offset (a ++ [l]) = used ∧
      last.span.stop = offset + byteLength (rawText (a ++ [l])) ∧
      place (offset + byteLength (rawText (a ++ [l]))) b = rest := by
  -- gaps before a token go with it, so the cut comes right after the last token used
  induction ls generalizing offset used with
  | nil =>
    obtain ⟨rfl, -⟩ : used = [] ∧ rest = [] := by simpa [place] using h
    simp at hl
  | cons l ls ih =>
    cases hk : l.kind with
    | none =>
      rw [place_of_gap _ hk] at h
      obtain ⟨a, m, b, rfl, hm, hu, hs, hr⟩ := ih h hl
      refine ⟨l :: a, m, b, rfl, hm, ?_, ?_, ?_⟩
      · rw [List.cons_append, place_of_gap _ hk, hu]
      · simpa [Nat.add_assoc] using hs
      · simpa [Nat.add_assoc] using hr
    | some kind =>
      rw [place_of_token _ hk] at h
      cases used with
      | nil => simp at hl
      | cons t used =>
        obtain ⟨rfl, ht⟩ := List.cons.inj h
        cases used with
        | nil =>
          obtain rfl : _ = last := by simpa using hl
          exact ⟨[], l, ls, rfl, by simp [hk], by simp [place_of_token _ hk, place], by simp,
            by simpa using ht⟩
        | cons u used =>
          obtain ⟨a, m, b, rfl, hm, hu, hs, hr⟩ := ih ht (by simpa using hl)
          refine ⟨l :: a, m, b, rfl, hm, ?_, ?_, ?_⟩
          · rw [List.cons_append, place_of_token _ hk, hu]
          · simpa [Nat.add_assoc] using hs
          · simpa [Nat.add_assoc] using hr

/-- The last token of lexemes that end with a token stops where they do. -/
theorem stop_of_place {offset : Nat} {ls : List Lexeme} {last : Token}
    (hl : ∀ l ∈ ls.getLast?, l.kind ≠ none) (h : last ∈ (place offset ls).getLast?) :
    last.span.stop = offset + byteLength (rawText ls) := by
  rcases List.eq_nil_or_concat ls with rfl | ⟨a, l, rfl⟩
  · simp [place] at h
  · obtain ⟨kind, hk⟩ := Option.ne_none_iff_exists'.1 (hl l (by simp))
    rw [List.concat_eq_append, place_append, place_of_token _ hk] at h
    obtain rfl : _ = last := by simpa [place] using h
    simp [Nat.add_assoc]

/-- A text that has no tokens consists of gaps. -/
theorem kind_of_place_eq_nil {offset : Nat} {ls : List Lexeme} (h : place offset ls = []) :
    ∀ l ∈ ls, l.kind = none := by
  induction ls generalizing offset with
  | nil => simp
  | cons l ls ih =>
    cases hk : l.kind with
    | none =>
      rw [place_of_gap _ hk] at h
      exact List.forall_mem_cons.2 ⟨hk, ih h⟩
    | some kind =>
      rw [place_of_token _ hk] at h
      contradiction

theorem place_of_gaps {gaps : List Lexeme} (h : ∀ l ∈ gaps, l.kind = none) (offset : Nat) :
    place offset gaps = [] := by
  induction gaps generalizing offset with
  | nil => rfl
  | cons l gaps ih =>
    rw [List.forall_mem_cons] at h
    rw [place_of_gap _ h.1, ih h.2]

/-- A token comes from a lexeme, and stands where that does. -/
theorem exists_append_of_mem_place {offset : Nat} {ls : List Lexeme} {t : Token}
    (h : t ∈ place offset ls) : ∃ a l b kind, ls = a ++ l :: b ∧ l.kind = some kind ∧
      t = ⟨kind, Lexeme.text kind l.raw,
        ⟨offset + byteLength (rawText a), offset + byteLength (rawText (a ++ [l]))⟩⟩ := by
  induction ls generalizing offset with
  | nil => cases h
  | cons l ls ih =>
    have later (h : t ∈ place (offset + byteLength l.raw) ls) : ∃ a m b kind,
        l :: ls = a ++ m :: b ∧ m.kind = some kind ∧ t = ⟨kind, Lexeme.text kind m.raw,
          ⟨offset + byteLength (rawText a), offset + byteLength (rawText (a ++ [m]))⟩⟩ := by
      obtain ⟨a, m, b, kind, rfl, hm, rfl⟩ := ih h
      exact ⟨l :: a, m, b, kind, rfl, hm, by simp [Nat.add_assoc]⟩
    cases hk : l.kind with
    | none =>
      rw [place_of_gap _ hk] at h
      exact later h
    | some kind =>
      rw [place_of_token _ hk] at h
      rcases List.mem_cons.1 h with rfl | h
      · exact ⟨[], l, ls, kind, rfl, hk, by simp⟩
      · exact later h

theorem place_bounds {offset : Nat} {ls : List Lexeme} (valid : ∀ l ∈ ls, l.Valid) {t : Token}
    (h : t ∈ place offset ls) : offset ≤ t.span.start ∧ t.span.start < t.span.stop ∧
      t.span.stop ≤ offset + byteLength (rawText ls) := by
  obtain ⟨a, l, b, kind, rfl, -, rfl⟩ := exists_append_of_mem_place h
  have hl : 0 < byteLength l.raw :=
    Nat.lt_of_lt_of_le (List.length_pos_iff.2 (valid l (by simp)).raw_ne_nil)
      (Text.length_le_byteLength _)
  simp only [rawText_append, rawText_cons, rawText_nil, List.append_nil,
    Text.byteLength_append]
  omega

/-- Tokens come in the order of their places, and none reaches into the next. -/
theorem pairwise_place (offset : Nat) (ls : List Lexeme) :
    (place offset ls).Pairwise fun s t => s.span.stop ≤ t.span.start := by
  induction ls generalizing offset with
  | nil => exact .nil
  | cons l ls ih =>
    cases hk : l.kind with
    | none =>
      rw [place_of_gap _ hk]
      exact ih _
    | some kind =>
      rw [place_of_token _ hk]
      refine .cons (fun t ht => ?_) (ih _)
      obtain ⟨a, m, b, k, -, -, rfl⟩ := exists_append_of_mem_place ht
      exact Nat.le_add_right _ _

end ContractProject.Cadence
