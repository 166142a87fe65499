import ContractProject.Proofs.Cadence.Lexeme
import ContractProject.Proofs.Result

/-!
Sequences of lexemes. Whether a text falls into given lexemes depends on the text after it by its
first character only, so lexemes in the middle of a source can be exchanged for others.
-/

namespace ContractProject.Cadence

open Text (byteLength)

def rawText (lexemes : List Lexeme) : List Char := lexemes.flatMap Lexeme.raw

@[simp] theorem rawText_nil : rawText [] = [] := rfl

@[simp] theorem rawText_cons (l : Lexeme) (ls : List Lexeme) :
    rawText (l :: ls) = l.raw ++ rawText ls := rfl

@[simp] theorem rawText_append (a b : List Lexeme) : rawText (a ++ b) = rawText a ++ rawText b :=
  List.flatMap_append

/-- The lexemes are read one after the other when this text follows them. -/
def Lexed (after : List Char) : List Lexeme → Prop
  | [] => True
  | l :: ls => l.Valid ∧ l.EndsBefore (rawText ls ++ after) ∧ Lexed after ls

theorem Lexed.congr {a b : List Char} {ls : List Lexeme} (h : Lexed a ls)
    (head : a.head? = b.head?) : Lexed b ls := by
  induction ls with
  | nil => trivial
  | cons l ls ih =>
    obtain ⟨valid, ends, lexed⟩ := h
    exact ⟨valid, ends.congr (by simp [List.head?_append, head]), ih lexed⟩

/-- A text is read the same before another one if its last lexeme ends before that as well. -/
theorem Lexed.of_last {x y : List Char} {ls : List Lexeme} (h : Lexed x ls)
    (last : ∀ l ∈ ls.getLast?, l.EndsBefore y) : Lexed y ls := by
  induction ls with
  | nil => trivial
  | cons l ls ih =>
    obtain ⟨valid, ends, lexed⟩ := h
    cases ls with
    | nil => exact ⟨valid, last l rfl, trivial⟩
    | cons m ls =>
      -- what follows begins with the next lexeme, whatever stands behind that
      obtain ⟨c, rest, hm⟩ := List.exists_cons_of_ne_nil lexed.1.raw_ne_nil
      refine ⟨valid, ends.congr (by simp [hm]), ih lexed fun n hn => last n ?_⟩
      rwa [List.getLast?_cons_cons]

/-- Lexemes that are read in front of a text are read alone. -/
theorem Lexed.alone {after : List Char} {ls : List Lexeme} (h : Lexed after ls) : Lexed [] ls :=
  h.of_last (by simp [Lexeme.EndsBefore])

theorem lexed_append {after : List Char} {a b : List Lexeme} :
    Lexed after (a ++ b) ↔ Lexed (rawText b ++ after) a ∧ Lexed after b := by
  induction a with
  | nil => simp [Lexed]
  | cons l a ih => simp [Lexed, ih, and_assoc]

theorem valid_of_lexed {after : List Char} {ls : List Lexeme} (h : Lexed after ls) :
    ∀ l ∈ ls, l.Valid := by
  induction ls with
  | nil => simp
  | cons l ls ih => simpa using ⟨h.1, ih h.2.2⟩

theorem lexemesFrom_cons {offset : Nat} {c : Char} {rest after : List Char} {l : Lexeme}
    (h : nextLexeme offset c rest = .ok (l, after)) :
    lexemesFrom offset (c :: rest) =
      (lexemesFrom (offset + byteLength l.raw) after).map (l :: ·) := by
  rw [lexemesFrom]
  split
  · next hn => rw [h] at hn; contradiction
  · next l' after' hn =>
    rw [h] at hn
    obtain ⟨rfl, rfl⟩ := Prod.mk.inj (Except.ok.inj hn)
    rfl

theorem exists_nextLexeme_of_lexemesFrom {offset : Nat} {c : Char} {rest : List Char}
    {ls : List Lexeme} (h : lexemesFrom offset (c :: rest) = .ok ls) :
    ∃ l after more, nextLexeme offset c rest = .ok (l, after) ∧
      lexemesFrom (offset + byteLength l.raw) after = .ok more ∧ l :: more = ls := by
  rw [lexemesFrom] at h
  split at h
  · contradiction
  · next l after hn =>
    obtain ⟨more, hm, hl⟩ := map_eq_ok_iff.1 h
    exact ⟨l, after, more, hn, hm, hl⟩

/-- Reading takes lexemes that are read before a text off its front. -/
theorem lexemesFrom_append {after : List Char} {ls : List Lexeme} (offset : Nat)
    (h : Lexed after ls) :
    lexemesFrom offset (rawText ls ++ after) =
      (lexemesFrom (offset + byteLength (rawText ls)) after).map (ls ++ ·) := by
  -- the offset only moves the places of faults, but the rest is read from another one
  induction ls generalizing offset with
  | nil => cases hl : lexemesFrom offset after <;> simp [hl, Except.map]
  | cons l ls ih =>
    obtain ⟨valid, ends, lexed⟩ := h
    obtain ⟨c, rest, hr⟩ := List.exists_cons_of_ne_nil valid.raw_ne_nil
    have hn : nextLexeme offset c (rest ++ (rawText ls ++ after)) = .ok (l, rawText ls ++ after) :=
      nextLexeme_eq_ok_iff.2 ⟨valid, ends, by simp [hr]⟩
    have hc : rawText (l :: ls) ++ after = c :: (rest ++ (rawText ls ++ after)) := by simp [hr]
    rw [hc, lexemesFrom_cons hn, ih _ lexed, rawText_cons, Text.byteLength_append, ← Nat.add_assoc]
    cases lexemesFrom (offset + byteLength l.raw + byteLength (rawText ls)) after <;> rfl

theorem lexed_of_lexemesFrom {offset : Nat} {text : List Char} {ls : List Lexeme}
    (h : lexemesFrom offset text = .ok ls) : Lexed [] ls ∧ rawText ls = text := by
  induction ls generalizing offset text with
  | nil =>
    cases text with
    | nil => simp [Lexed]
    | cons c rest =>
      obtain ⟨l, after, more, -, -, hl⟩ := exists_nextLexeme_of_lexemesFrom h
      contradiction
  | cons l ls ih =>
    cases text with
    | nil => simp [lexemesFrom] at h
    | cons c rest =>
      obtain ⟨l', after, more, hn, hm, hl⟩ := exists_nextLexeme_of_lexemesFrom h
      obtain ⟨rfl, rfl⟩ := List.cons.inj hl
      obtain ⟨lexed, raw⟩ := ih hm
      obtain ⟨valid, ends, happend⟩ := nextLexeme_eq_ok_iff.1 hn
      refine ⟨⟨valid, ?_, lexed⟩, ?_⟩
      · rwa [raw, List.append_nil]
      · rw [rawText_cons, raw]
        exact happend

/-- A source has exactly the lexemes that are read one after the other and make it up. -/
theorem lexemesFrom_eq_ok_iff {offset : Nat} {text : List Char} {ls : List Lexeme} :
    lexemesFrom offset text = .ok ls ↔ Lexed [] ls ∧ rawText ls = text := by
  constructor
  · exact lexed_of_lexemesFrom
  · rintro ⟨lexed, rfl⟩
    simpa [lexemesFrom, Except.map] using lexemesFrom_append offset lexed

/-- A text is read as no other lexemes where it stands. -/
theorem Lexed.unique {a b rest : List Lexeme} (ha : Lexed [] (a ++ rest))
    (hb : Lexed [] (b ++ rest)) (raw : rawText a = rawText b) : a = b := by
  have hra : lexemesFrom 0 (rawText (a ++ rest)) = .ok (a ++ rest) :=
    lexemesFrom_eq_ok_iff.2 ⟨ha, rfl⟩
  have hrb : lexemesFrom 0 (rawText (a ++ rest)) = .ok (b ++ rest) :=
    lexemesFrom_eq_ok_iff.2 ⟨hb, by simp [raw]⟩
  rw [hra] at hrb
  exact List.append_cancel_right (Except.ok.inj hrb)

end ContractProject.Cadence
