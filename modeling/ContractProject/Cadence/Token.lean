import ContractProject.Text.Letter
import ContractProject.Text.Span

/-!
The tokens of a Cadence program. The source is split into lexemes, of which blanks and comments are
gaps and all others are tokens; the raw texts of the lexemes, in order, are the source.
-/

namespace ContractProject.Cadence

open Text (Span)

inductive TokenKind where
  | identifier
  | string
  | number
  | symbol (c : Char)
  deriving DecidableEq, Repr

structure Token where
  kind : TokenKind
  /-- What stands between the quotes of a string, the source itself otherwise. -/
  text : String
  span : Span
  deriving DecidableEq, Repr

/-- Whether the token is this name or keyword. -/
def Token.isWord (t : Token) (word : String) : Bool := t.kind = .identifier && t.text = word

/-- A stretch of source that is read at once; a gap has no kind. -/
structure Lexeme where
  kind : Option TokenKind
  raw : List Char
  deriving DecidableEq, Repr

/-- Why a source has no tokens. -/
inductive LexFault where
  | unterminatedComment
  | unterminatedString (offset : Nat)
  deriving DecidableEq, Repr

def LexFault.message : LexFault → String
  | .unterminatedComment => "unterminated block comment"
  | .unterminatedString offset => s!"unterminated string literal at offset {offset}"

def isNameStart (c : Char) : Bool := Text.isLetter c || c = '_'

def isNamePart (c : Char) : Bool := Text.isAlphanumeric c || c = '_'

def isNumberPart (c : Char) : Bool := Text.isAsciiAlphanumeric c || c = '_'

/-- A block comment from within `depth` open ones to the end of the outermost, and the rest. -/
def commentBody : Nat → List Char → Option (List Char × List Char)
  | 0, text => some ([], text)
  | _ + 1, [] => none
  | _ + 1, [_] => none
  | depth + 1, c :: d :: rest =>
    if c = '*' ∧ d = '/' then
      (commentBody depth rest).map fun (body, after) => (c :: d :: body, after)
    else if c = '/' ∧ d = '*' then
      (commentBody (depth + 2) rest).map fun (body, after) => (c :: d :: body, after)
    else (commentBody (depth + 1) (d :: rest)).map fun (body, after) => (c :: body, after)

/-- A string from after its opening quote to its closing one, and the rest. A backslash hides the
character after it; a bare line end is not allowed. -/
def stringBody : List Char → Option (List Char × List Char)
  | [] => none
  | c :: rest =>
    if c = '"' then some ([c], rest)
    else if c = '\n' then none
    else if c = '\\' then
      match rest with
      | [] => none
      | d :: rest => (stringBody rest).map fun (body, after) => (c :: d :: body, after)
    else (stringBody rest).map fun (body, after) => (c :: body, after)

/-- The lexeme of characters that starts with `c` and goes on as long as `part` holds. -/
def run (kind : Option TokenKind) (part : Char → Bool) (c : Char) (rest : List Char) :
    Lexeme × List Char :=
  (⟨kind, c :: rest.takeWhile part⟩, rest.dropWhile part)

/-- The lexeme at the start of `c :: rest`, which is at `offset`, and what follows it. -/
def nextLexeme (offset : Nat) (c : Char) (rest : List Char) :
    Except LexFault (Lexeme × List Char) :=
  if Text.isBlank c then .ok (⟨none, [c]⟩, rest)
  else if c = '/' ∧ rest.head? = some '/' then .ok (run none (· ≠ '\n') c rest)
  else if c = '/' ∧ rest.head? = some '*' then
    match commentBody 1 rest.tail with
    | some (body, after) => .ok (⟨none, c :: '*' :: body⟩, after)
    | none => .error .unterminatedComment
  else if c = '"' then
    match stringBody rest with
    | some (body, after) => .ok (⟨some .string, c :: body⟩, after)
    | none => .error (.unterminatedString offset)
  else if isNameStart c then .ok (run (some .identifier) isNamePart c rest)
  else if Text.isAsciiDigit c then .ok (run (some .number) isNumberPart c rest)
  else .ok (⟨some (.symbol c), [c]⟩, rest)

theorem commentBody_append {depth : Nat} {text body after : List Char}
    (h : commentBody depth text = some (body, after)) : body ++ after = text := by
  fun_induction commentBody depth text generalizing body after with
  | case1 => simp_all
  | case2 => simp at h
  | case3 => simp at h
  | case4 depth c d rest _ ih =>
    obtain ⟨⟨b, a⟩, hb, hp⟩ := Option.map_eq_some_iff.1 h
    obtain ⟨rfl, rfl⟩ := Prod.mk.inj hp
    simp [ih hb]
  | case5 depth c d rest _ _ ih =>
    obtain ⟨⟨b, a⟩, hb, hp⟩ := Option.map_eq_some_iff.1 h
    obtain ⟨rfl, rfl⟩ := Prod.mk.inj hp
    simp [ih hb]
  | case6 depth c d rest _ _ ih =>
    obtain ⟨⟨b, a⟩, hb, hp⟩ := Option.map_eq_some_iff.1 h
    obtain ⟨rfl, rfl⟩ := Prod.mk.inj hp
    simp [ih hb]

theorem stringBody_append {text body after : List Char}
    (h : stringBody text = some (body, after)) : body ++ after = text := by
  fun_induction stringBody text generalizing body after with
  | case1 => simp at h
  | case2 =>
    obtain ⟨rfl, rfl⟩ := Prod.mk.inj (Option.some.inj h)
    rfl
  | case3 => simp at h
  | case4 => simp at h
  | case5 d rest _ _ ih =>
    obtain ⟨⟨b, a⟩, hb, hp⟩ := Option.map_eq_some_iff.1 h
    obtain ⟨rfl, rfl⟩ := Prod.mk.inj hp
    simp [ih hb]
  | case6 c rest _ _ _ ih =>
    obtain ⟨⟨b, a⟩, hb, hp⟩ := Option.map_eq_some_iff.1 h
    obtain ⟨rfl, rfl⟩ := Prod.mk.inj hp
    simp [ih hb]

/-- A lexeme's raw text and what follows it are the source. -/
theorem nextLexeme_append {offset : Nat} {c : Char} {rest after : List Char} {lexeme : Lexeme}
    (h : nextLexeme offset c rest = .ok (lexeme, after)) : lexeme.raw ++ after = c :: rest := by
  unfold nextLexeme at h
  repeat' split at h
  all_goals try contradiction
  all_goals
    obtain ⟨rfl, rfl⟩ := Prod.mk.inj (Except.ok.inj h)
  case isTrue => rfl
  case isTrue => simp
  case h_1 hs _ _ _ hb =>
    have := commentBody_append hb
    cases rest with
    | nil => simp at hs
    | cons d rest => simp_all
  case h_1 hb => simp [stringBody_append hb]
  case isTrue => simp
  case isTrue => simp
  case isFalse => rfl

theorem raw_ne_nil_of_nextLexeme {offset : Nat} {c : Char} {rest after : List Char}
    {lexeme : Lexeme} (h : nextLexeme offset c rest = .ok (lexeme, after)) : lexeme.raw ≠ [] := by
  unfold nextLexeme run at h
  repeat' split at h
  all_goals try contradiction
  all_goals
    obtain ⟨rfl, -⟩ := Prod.mk.inj (Except.ok.inj h)
    simp

theorem length_le_of_nextLexeme {offset : Nat} {c : Char} {rest after : List Char}
    {lexeme : Lexeme} (h : nextLexeme offset c rest = .ok (lexeme, after)) :
    after.length ≤ rest.length := by
  have hl := congrArg List.length (nextLexeme_append h)
  have hp := List.length_pos_iff.2 (raw_ne_nil_of_nextLexeme h)
  simp only [List.length_append, List.length_cons] at hl
  omega

/-- The lexemes of a source whose first character is at `offset`. -/
def lexemesFrom (offset : Nat) : List Char → Except LexFault (List Lexeme)
  | [] => .ok []
  | c :: rest =>
    match h : nextLexeme offset c rest with
    | .error fault => .error fault
    | .ok (lexeme, after) =>
      have := length_le_of_nextLexeme h
      (lexemesFrom (offset + Text.byteLength lexeme.raw) after).map (lexeme :: ·)
termination_by text => text.length
decreasing_by simp only [List.length_cons]; omega

def lexemes (source : List Char) : Except LexFault (List Lexeme) := lexemesFrom 0 source

/-- What a lexeme of this kind says. -/
def Lexeme.text (kind : TokenKind) (raw : List Char) : String :=
  String.ofList (if kind = .string then raw.tail.dropLast else raw)

/-- The tokens among lexemes of which the first is at `offset`. -/
def place (offset : Nat) : List Lexeme → List Token
  | [] => []
  | lexeme :: rest =>
    let next := offset + Text.byteLength lexeme.raw
    match lexeme.kind with
    | none => place next rest
    | some kind => ⟨kind, Lexeme.text kind lexeme.raw, ⟨offset, next⟩⟩ :: place next rest

def tokens (source : List Char) : Except LexFault (List Token) := (lexemes source).map (place 0)

end ContractProject.Cadence
