import ContractProject.Cadence.Token
import ContractProject.Proofs.Text.Letter
import ContractProject.Proofs.Text.Span
import Mathlib.Data.List.TakeWhile

/-!
Lexemes on their own. Whether a text is a lexeme, and whether it ends where another text begins,
is said without reading either in its source; reading takes exactly such a lexeme off the front.
A source therefore has these lexemes iff they are lexemes, each ends before the next, and their
raw texts are the source.
-/

namespace ContractProject.Cadence

open Text (byteLength)

theorem isNameStart_facts {c : Char} (h : isNameStart c) :
    Text.isBlank c = false ∧ c ≠ '/' ∧ c ≠ '"' := by
  refine ⟨?_, by rintro rfl; revert h; decide, by rintro rfl; revert h; decide⟩
  rcases Bool.or_eq_true .. ▸ h with hl | hu
  · exact Text.not_isBlank_of_isLetter hl
  · obtain rfl : c = '_' := by simpa using hu
    decide

theorem isAsciiDigit_facts {c : Char} (h : Text.isAsciiDigit c) :
    Text.isBlank c = false ∧ c ≠ '/' ∧ c ≠ '"' ∧ isNameStart c = false := by
  refine ⟨Text.not_isBlank_of_isAsciiDigit h, by rintro rfl; revert h; decide,
    by rintro rfl; revert h; decide, ?_⟩
  have hu : c ≠ '_' := by rintro rfl; revert h; decide
  simp [isNameStart, Text.not_isLetter_of_isAsciiDigit h, hu]

namespace Lexeme

/-- The lexemes there are. -/
inductive Valid : Lexeme → Prop
  | blank {c : Char} : Text.isBlank c → Valid ⟨none, [c]⟩
  | line {body : List Char} : (∀ d ∈ body, d ≠ '\n') → Valid ⟨none, '/' :: '/' :: body⟩
  | block {body : List Char} : commentBody 1 body = some (body, []) →
      Valid ⟨none, '/' :: '*' :: body⟩
  | string {body : List Char} : stringBody body = some (body, []) →
      Valid ⟨some .string, '"' :: body⟩
  | name {c : Char} {rest : List Char} : isNameStart c → (∀ d ∈ rest, isNamePart d) →
      Valid ⟨some .identifier, c :: rest⟩
  | number {c : Char} {rest : List Char} : Text.isAsciiDigit c → (∀ d ∈ rest, isNumberPart d) →
      Valid ⟨some .number, c :: rest⟩
  | symbol {c : Char} : Text.isBlank c = false → c ≠ '"' → isNameStart c = false →
      Text.isAsciiDigit c = false → Valid ⟨some (.symbol c), [c]⟩

/-- Whether this character, right after the lexeme, would be read as part of it. -/
def growsBy (l : Lexeme) (d : Char) : Bool :=
  match l.kind with
  | some .identifier => isNamePart d
  | some .number => isNumberPart d
  | some .string => false
  | some (.symbol c) => c = '/' && (d = '/' || d = '*')
  | none => ['/', '/'].isPrefixOf l.raw && d ≠ '\n'

/-- The lexeme goes no further when this text follows. -/
def EndsBefore (l : Lexeme) (after : List Char) : Prop := ∀ d ∈ after.head?, l.growsBy d = false

theorem EndsBefore.congr {l : Lexeme} {a b : List Char} (h : l.EndsBefore a)
    (head : a.head? = b.head?) : l.EndsBefore b := by
  unfold EndsBefore
  rwa [← head]

theorem Valid.raw_ne_nil {l : Lexeme} (h : l.Valid) : l.raw ≠ [] := by
  cases h <;> simp

end Lexeme

theorem commentBody_append_right {depth : Nat} {text body rest : List Char} (after : List Char)
    (h : commentBody depth text = some (body, rest)) :
    commentBody depth (text ++ after) = some (body, rest ++ after) := by
  fun_induction commentBody depth text generalizing body rest with
  | case1 =>
    obtain ⟨rfl, rfl⟩ := Prod.mk.inj (Option.some.inj h)
    simp [commentBody]
  | case2 => simp at h
  | case3 => simp at h
  | case4 depth c d text hc ih =>
    obtain ⟨⟨b, a⟩, hb, hp⟩ := Option.map_eq_some_iff.1 h
    obtain ⟨rfl, rfl⟩ := Prod.mk.inj hp
    simp [commentBody, hc, ih hb]
  | case5 depth c d text hn hc ih =>
    obtain ⟨⟨b, a⟩, hb, hp⟩ := Option.map_eq_some_iff.1 h
    obtain ⟨rfl, rfl⟩ := Prod.mk.inj hp
    simp [commentBody, hc, ih hb]
  | case6 depth c d text hn hc ih =>
    obtain ⟨⟨b, a⟩, hb, hp⟩ := Option.map_eq_some_iff.1 h
    obtain ⟨rfl, rfl⟩ := Prod.mk.inj hp
    have hi := ih hb
    -- two characters are looked at but one is taken, so the second stays in sight
    simp only [List.cons_append] at hi ⊢
    simp [commentBody, hn, hc, hi]

theorem stringBody_append_right {text body rest : List Char} (after : List Char)
    (h : stringBody text = some (body, rest)) :
    stringBody (text ++ after) = some (body, rest ++ after) := by
  fun_induction stringBody text generalizing body rest with
  | case1 => simp at h
  | case2 =>
    obtain ⟨rfl, rfl⟩ := Prod.mk.inj (Option.some.inj h)
    simp [stringBody.eq_def]
  | case3 => simp at h
  | case4 => simp at h
  | case5 d text hq hn ih =>
    obtain ⟨⟨b, a⟩, hb, hp⟩ := Option.map_eq_some_iff.1 h
    obtain ⟨rfl, rfl⟩ := Prod.mk.inj hp
    simp [stringBody, ih hb]
  | case6 c text hq hn he ih =>
    obtain ⟨⟨b, a⟩, hb, hp⟩ := Option.map_eq_some_iff.1 h
    obtain ⟨rfl, rfl⟩ := Prod.mk.inj hp
    simp [stringBody.eq_def (c :: (text ++ after)), hq, hn, he, ih hb]

theorem commentBody_self {depth : Nat} {text body rest : List Char}
    (h : commentBody depth text = some (body, rest)) :
    commentBody depth body = some (body, []) := by
  fun_induction commentBody depth text generalizing body rest with
  | case1 =>
    obtain ⟨rfl, -⟩ := Prod.mk.inj (Option.some.inj h)
    simp [commentBody]
  | case2 => simp at h
  | case3 => simp at h
  | case4 depth c d text hc ih =>
    obtain ⟨⟨b, a⟩, hb, hp⟩ := Option.map_eq_some_iff.1 h
    obtain ⟨rfl, rfl⟩ := Prod.mk.inj hp
    simp [commentBody, hc, ih hb]
  | case5 depth c d text hn hc ih =>
    obtain ⟨⟨b, a⟩, hb, hp⟩ := Option.map_eq_some_iff.1 h
    obtain ⟨rfl, rfl⟩ := Prod.mk.inj hp
    simp [commentBody, hc, ih hb]
  | case6 depth c d text hn hc ih =>
    obtain ⟨⟨b, a⟩, hb, hp⟩ := Option.map_eq_some_iff.1 h
    obtain ⟨rfl, rfl⟩ := Prod.mk.inj hp
    have hi := ih hb
    have ha := commentBody_append hb
    -- the rest of the body is not empty, so the two characters looked at are still these
    cases b with
    | nil => simp [commentBody] at hi
    | cons e b =>
      obtain rfl : e = d := (List.cons.inj ha).1
      simp [commentBody, hn, hc, hi]

theorem stringBody_self {text body rest : List Char}
    (h : stringBody text = some (body, rest)) : stringBody body = some (body, []) := by
  fun_induction stringBody text generalizing body rest with
  | case1 => simp at h
  | case2 =>
    obtain ⟨rfl, -⟩ := Prod.mk.inj (Option.some.inj h)
    simp [stringBody]
  | case3 => simp at h
  | case4 => simp at h
  | case5 d text hq hn ih =>
    obtain ⟨⟨b, a⟩, hb, hp⟩ := Option.map_eq_some_iff.1 h
    obtain ⟨rfl, rfl⟩ := Prod.mk.inj hp
    simp [stringBody, ih hb]
  | case6 c text hq hn he ih =>
    obtain ⟨⟨b, a⟩, hb, hp⟩ := Option.map_eq_some_iff.1 h
    obtain ⟨rfl, rfl⟩ := Prod.mk.inj hp
    simp [stringBody.eq_def (c :: b), hq, hn, he, ih hb]

theorem takeWhile_append_of_stop {part : Char → Bool} {a b : List Char} (inside : ∀ c ∈ a, part c)
    (stop : ∀ d ∈ b.head?, part d = false) : (a ++ b).takeWhile part = a := by
  rw [List.takeWhile_append_of_pos inside]
  cases b with
  | nil => simp
  | cons d b => simp [stop d rfl]

theorem dropWhile_append_of_stop {part : Char → Bool} {a b : List Char} (inside : ∀ c ∈ a, part c)
    (stop : ∀ d ∈ b.head?, part d = false) : (a ++ b).dropWhile part = b := by
  rw [List.dropWhile_append_of_pos inside]
  cases b with
  | nil => simp
  | cons d b => simp [stop d rfl]

theorem run_append {kind : Option TokenKind} {part : Char → Bool} {c : Char} {a b : List Char}
    (inside : ∀ c ∈ a, part c) (stop : ∀ d ∈ b.head?, part d = false) :
    run kind part c (a ++ b) = (⟨kind, c :: a⟩, b) := by
  rw [run, takeWhile_append_of_stop inside stop, dropWhile_append_of_stop inside stop]

theorem nextLexeme_of_isNameStart {c : Char} (offset : Nat) (rest : List Char)
    (h : isNameStart c) :
    nextLexeme offset c rest = .ok (run (some .identifier) isNamePart c rest) := by
  obtain ⟨hblank, hslash, hquote⟩ := isNameStart_facts h
  rw [nextLexeme, if_neg (by simp [hblank]), if_neg (by simp [hslash]), if_neg (by simp [hslash]),
    if_neg hquote, if_pos h]

theorem nextLexeme_of_isAsciiDigit {c : Char} (offset : Nat) (rest : List Char)
    (h : Text.isAsciiDigit c) :
    nextLexeme offset c rest = .ok (run (some .number) isNumberPart c rest) := by
  obtain ⟨hblank, hslash, hquote, hname⟩ := isAsciiDigit_facts h
  rw [nextLexeme, if_neg (by simp [hblank]), if_neg (by simp [hslash]), if_neg (by simp [hslash]),
    if_neg hquote, if_neg (by simp [hname]), if_pos h]

/-- A lexeme that ends before the text after it is read. -/
theorem nextLexeme_of_valid {l : Lexeme} {c : Char} {rest after : List Char} (offset : Nat)
    (valid : l.Valid) (ends : l.EndsBefore after) (raw : l.raw ++ after = c :: rest) :
    nextLexeme offset c rest = .ok (l, after) := by
  cases valid with
  | blank hb =>
    obtain ⟨rfl, rfl⟩ := List.cons.inj raw
    simp [nextLexeme, hb]
  | @line body hb =>
    obtain ⟨rfl, rfl⟩ : '/' = c ∧ '/' :: body ++ after = rest := by simpa using raw
    have hr : run none (· ≠ '\n') '/' ('/' :: body ++ after) =
        (⟨none, '/' :: '/' :: body⟩, after) :=
      run_append (by simpa using hb) (by simpa [Lexeme.EndsBefore, Lexeme.growsBy] using ends)
    rw [nextLexeme, if_neg (by decide), if_pos (by simp), hr]
  | @block body hb =>
    obtain ⟨rfl, rfl⟩ : '/' = c ∧ '*' :: (body ++ after) = rest := by simpa using raw
    have ha := commentBody_append_right after hb
    rw [nextLexeme, if_neg (by decide), if_neg (by simp), if_pos (by simp), List.tail_cons, ha]
    rfl
  | @string body hb =>
    obtain ⟨rfl, rfl⟩ : '"' = c ∧ body ++ after = rest := by simpa using raw
    have ha := stringBody_append_right after hb
    rw [nextLexeme, if_neg (by decide), if_neg (by simp), if_neg (by simp), if_pos rfl, ha]
    rfl
  | @name d body hd hb =>
    obtain ⟨rfl, rfl⟩ : d = c ∧ body ++ after = rest := by simpa using raw
    rw [nextLexeme_of_isNameStart offset _ hd, run_append hb ends]
  | @number d body hd hb =>
    obtain ⟨rfl, rfl⟩ : d = c ∧ body ++ after = rest := by simpa using raw
    rw [nextLexeme_of_isAsciiDigit offset _ hd, run_append hb ends]
  | @symbol d hblank hquote hname hdigit =>
    obtain ⟨rfl, rfl⟩ : d = c ∧ after = rest := by simpa using raw
    -- a slash is a symbol only where no comment begins
    have hcomment : ∀ e, (e = '/' ∨ e = '*') → ¬(d = '/' ∧ after.head? = some e) := by
      rintro e he ⟨rfl, hh⟩
      have := ends e hh
      simp [Lexeme.growsBy] at this
      tauto
    rw [nextLexeme, if_neg (by simp [hblank]), if_neg (hcomment _ (.inl rfl)),
      if_neg (hcomment _ (.inr rfl)), if_neg hquote, if_neg (by simp [hname]),
      if_neg (by simp [hdigit])]

theorem head?_dropWhile_stop {part : Char → Bool} {text : List Char} :
    ∀ d ∈ (text.dropWhile part).head?, part d = false := by
  intro d hd
  have := List.head?_dropWhile_not part text
  simp_all

/-- A lexeme that is read is valid and ends before what follows it. -/
theorem valid_of_nextLexeme {l : Lexeme} {offset : Nat} {c : Char} {rest after : List Char}
    (h : nextLexeme offset c rest = .ok (l, after)) : l.Valid ∧ l.EndsBefore after := by
  unfold nextLexeme at h
  split at h
  case isTrue hb =>
    obtain ⟨rfl, rfl⟩ := Prod.mk.inj (Except.ok.inj h)
    exact ⟨.blank hb, by simp [Lexeme.EndsBefore, Lexeme.growsBy]⟩
  split at h
  case isTrue hline =>
    obtain ⟨rfl, hs⟩ := hline
    obtain ⟨rest, rfl⟩ : ∃ t, rest = '/' :: t := by cases rest <;> simp_all
    obtain ⟨rfl, rfl⟩ := Prod.mk.inj (Except.ok.inj h)
    refine ⟨?_, fun d hd => ?_⟩
    · rw [List.takeWhile_cons_of_pos (by decide)]
      exact .line fun d hd => by simpa using List.mem_takeWhile_imp hd
    · have := head?_dropWhile_stop d hd
      simpa [Lexeme.growsBy] using this
  split at h
  case isTrue hblock =>
    obtain ⟨rfl, hs⟩ := hblock
    split at h
    · next body after' hb =>
      obtain ⟨rfl, rfl⟩ := Prod.mk.inj (Except.ok.inj h)
      exact ⟨.block (commentBody_self hb), by simp [Lexeme.EndsBefore, Lexeme.growsBy]⟩
    · contradiction
  split at h
  case isTrue hquote =>
    obtain rfl := hquote
    split at h
    · next body after' hb =>
      obtain ⟨rfl, rfl⟩ := Prod.mk.inj (Except.ok.inj h)
      exact ⟨.string (stringBody_self hb), by simp [Lexeme.EndsBefore, Lexeme.growsBy]⟩
    · contradiction
  split at h
  case isTrue hname =>
    obtain ⟨rfl, rfl⟩ := Prod.mk.inj (Except.ok.inj h)
    exact ⟨.name hname fun d hd => List.mem_takeWhile_imp hd, head?_dropWhile_stop⟩
  split at h
  case isTrue hdigit =>
    obtain ⟨rfl, rfl⟩ := Prod.mk.inj (Except.ok.inj h)
    exact ⟨.number hdigit fun d hd => List.mem_takeWhile_imp hd, head?_dropWhile_stop⟩
  next hb hline hblock hquote hname hdigit =>
  -- a symbol ends before anything but the second character of a comment's opening
  obtain ⟨rfl, rfl⟩ := Prod.mk.inj (Except.ok.inj h)
  refine ⟨.symbol (by simpa using hb) hquote (by simpa using hname) (by simpa using hdigit), ?_⟩
  intro d hd
  rw [Option.mem_def] at hd
  rw [hd] at hline hblock
  simp only [Option.some.injEq, not_and] at hline hblock
  simpa [Lexeme.growsBy] using fun hc => ⟨hline hc, hblock hc⟩

theorem nextLexeme_eq_ok_iff {l : Lexeme} {offset : Nat} {c : Char} {rest after : List Char} :
    nextLexeme offset c rest = .ok (l, after) ↔
      l.Valid ∧ l.EndsBefore after ∧ l.raw ++ after = c :: rest := by
  constructor
  · intro h
    obtain ⟨valid, ends⟩ := valid_of_nextLexeme h
    exact ⟨valid, ends, nextLexeme_append h⟩
  · rintro ⟨valid, ends, raw⟩
    exact nextLexeme_of_valid offset valid ends raw

end ContractProject.Cadence
