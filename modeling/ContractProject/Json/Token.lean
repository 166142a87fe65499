import ContractProject.Hex
import ContractProject.Json.Number

/-!
The tokens of a JSON document. The document comes as a text with gaps where its bytes are no UTF-8;
a gap is allowed inside a string only, and leaves the string without a text.
-/

namespace ContractProject.Json

inductive Token where
  | beginArray
  | endArray
  | beginObject
  | endObject
  | comma
  | colon
  | null
  | bool (b : Bool)
  | number (n : NumberLiteral)
  /-- A string, with its text if that is Unicode: no gap and no lone surrogate. -/
  | string (text : Option String)
  deriving DecidableEq, Repr

/-- A text with gaps. -/
abbrev Gapped := List (Option Char)

def isBlank (c : Char) : Bool := c = ' ' || c = '\t' || c = '\n' || c = '\r'

def isDigit (c : Option Char) : Bool := (c.map fun c => '0' ≤ c && c ≤ '9').getD false

/-- The digits at the start, and the rest. -/
def takeDigits (text : Gapped) : List Char × Gapped :=
  ((text.takeWhile isDigit).filterMap id, text.dropWhile isDigit)

/-- The digits before a point: a zero alone, or digits of which the first is none. -/
def takeWhole : Gapped → Option (List Char × Gapped)
  | some '0' :: rest => some (['0'], rest)
  | text =>
    match takeDigits text with
    | ([], _) => none
    | (digits, rest) => some (digits, rest)

/-- A point with at least one digit after it, if there is a point. -/
def takeFraction : Gapped → Option (Option (List Char) × Gapped)
  | some '.' :: rest =>
    match takeDigits rest with
    | ([], _) => none
    | (digits, rest) => some (some digits, rest)
  | text => some (none, text)

def takeSign : Gapped → Bool × Gapped
  | some '-' :: rest => (true, rest)
  | some '+' :: rest => (false, rest)
  | text => (false, text)

/-- An exponent with at least one digit, if there is one. -/
def takeExponent (text : Gapped) : Option (Option (Bool × List Char) × Gapped) :=
  match text with
  | some c :: rest =>
    if c = 'e' ∨ c = 'E' then
      let (negative, rest) := takeSign rest
      match takeDigits rest with
      | ([], _) => none
      | (digits, rest) => some (some (negative, digits), rest)
    else some (none, text)
  | _ => some (none, text)

/-- A number after its sign. -/
def takeNumber (negative : Bool) (text : Gapped) : Option (Token × Gapped) := do
  let (whole, text) ← takeWhole text
  let (fraction, text) ← takeFraction text
  let (exponent, text) ← takeExponent text
  return (.number ⟨negative, whole, fraction, exponent⟩, text)

def simpleEscape? (c : Char) : Option Char :=
  match c with
  | '"' => some '"'
  | '\\' => some '\\'
  | '/' => some '/'
  | 'b' => some '\x08'
  | 'f' => some '\x0c'
  | 'n' => some '\n'
  | 'r' => some '\r'
  | 't' => some '\t'
  | _ => none

/-- A number of four hexadecimal digits, and the rest. -/
def takeUnit : Gapped → Option (Nat × Gapped)
  | some a :: some b :: some c :: some d :: rest => do
    let n := (((← Hex.value? a) * 16 + (← Hex.value? b)) * 16 + (← Hex.value? c)) * 16
      + (← Hex.value? d)
    return (n, rest)
  | _ => none

def isHighSurrogate (n : Nat) : Bool := 0xD800 ≤ n && n < 0xDC00

def isLowSurrogate (n : Nat) : Bool := 0xDC00 ≤ n && n < 0xE000

/-- The low surrogate that an escape at the start stands for, and the rest. -/
def takeLowSurrogate : Gapped → Option (Nat × Gapped)
  | some '\\' :: some 'u' :: rest =>
    match takeUnit rest with
    | some (n, rest) => if isLowSurrogate n then some (n, rest) else none
    | none => none
  | _ => none

/-- The character of an escape by number, none for a lone surrogate, and the rest. -/
def takeCodePoint (text : Gapped) : Option (Option Char × Gapped) := do
  let (n, rest) ← takeUnit text
  if isHighSurrogate n then
    match takeLowSurrogate rest with
    | some (low, rest) =>
      return (some (Char.ofNat (0x10000 + (n - 0xD800) * 0x400 + (low - 0xDC00))), rest)
    | none => return (none, rest)
  else if isLowSurrogate n then return (none, rest)
  else return (some (Char.ofNat n), rest)

/-- What a character of a string stands for, after a backslash or by itself, and the rest. -/
def takeChar (c : Option Char) (rest : Gapped) : Option (Option Char × Gapped) :=
  match c with
  | none => some (none, rest)
  | some c =>
    if c.toNat < 0x20 then none
    else if c = '\\' then
      match rest with
      | some e :: rest =>
        match simpleEscape? e with
        | some x => some (some x, rest)
        | none => if e = 'u' then takeCodePoint rest else none
      | _ => none
    else some (some c, rest)

theorem length_lt_of_takeUnit {text rest : Gapped} {n : Nat} (h : takeUnit text = some (n, rest)) :
    rest.length < text.length := by
  unfold takeUnit at h
  split at h
  · simp only [Option.bind_eq_bind, Option.bind_eq_some_iff, Option.pure_def,
      Option.some.injEq, Prod.mk.injEq] at h
    obtain ⟨_, _, _, _, _, _, _, _, _, rfl⟩ := h
    simp only [List.length_cons]
    omega
  · contradiction

theorem length_lt_of_takeLowSurrogate {text rest : Gapped} {n : Nat}
    (h : takeLowSurrogate text = some (n, rest)) : rest.length < text.length := by
  unfold takeLowSurrogate at h
  split at h
  · split at h
    · rename_i hu
      split at h
      · obtain ⟨-, rfl⟩ := Prod.mk.inj (Option.some.inj h)
        have := length_lt_of_takeUnit hu
        simp only [List.length_cons]
        omega
      · contradiction
    · contradiction
  · contradiction

theorem length_le_of_takeChar {c : Option Char} {rest after : Gapped} {x : Option Char}
    (h : takeChar c rest = some (x, after)) : after.length ≤ rest.length := by
  unfold takeChar takeCodePoint at h
  repeat' split at h
  all_goals try contradiction
  case h_1 => obtain ⟨-, rfl⟩ := Prod.mk.inj (Option.some.inj h); exact Nat.le_refl _
  case h_1 =>
    obtain ⟨-, rfl⟩ := Prod.mk.inj (Option.some.inj h)
    simp
  case isTrue =>
    obtain ⟨⟨n, r⟩, hu, hr⟩ := Option.bind_eq_some_iff.1 h
    have := length_lt_of_takeUnit hu
    simp only [List.length_cons]
    dsimp only at hr
    split at hr
    · split at hr
      · rename_i hl
        have := length_lt_of_takeLowSurrogate hl
        obtain ⟨-, rfl⟩ := Prod.mk.inj (Option.some.inj hr)
        omega
      · obtain ⟨-, rfl⟩ := Prod.mk.inj (Option.some.inj hr)
        omega
    · split at hr
      · obtain ⟨-, rfl⟩ := Prod.mk.inj (Option.some.inj hr)
        omega
      · obtain ⟨-, rfl⟩ := Prod.mk.inj (Option.some.inj hr)
        omega
  case isFalse => obtain ⟨-, rfl⟩ := Prod.mk.inj (Option.some.inj h); exact Nat.le_refl _

/-- The characters of a string after its opening quote, none for each that is no text, and what
follows the closing quote. -/
def takeString : Gapped → Option (List (Option Char) × Gapped)
  | [] => none
  | c :: rest =>
    if c = some '"' then some ([], rest)
    else
      match h : takeChar c rest with
      | none => none
      | some (x, after) =>
        have := length_le_of_takeChar h
        (takeString after).map fun (xs, after) => (x :: xs, after)
termination_by text => text.length
decreasing_by simp only [List.length_cons]; omega

/-- The text of characters of which none is missing. -/
def textOf (chars : List (Option Char)) : Option String := (chars.mapM id).map String.ofList

def takeWord (word : List Char) (token : Token) (text : Gapped) : Option (Token × Gapped) :=
  if (word.map some).isPrefixOf text then some (token, text.drop word.length) else none

/-- The token that starts with `c`, and what follows it. -/
def nextToken (c : Char) (rest : Gapped) : Option (Token × Gapped) :=
  match c with
  | '[' => some (.beginArray, rest)
  | ']' => some (.endArray, rest)
  | '\x7b' => some (.beginObject, rest)
  | '\x7d' => some (.endObject, rest)
  | ',' => some (.comma, rest)
  | ':' => some (.colon, rest)
  | '"' => (takeString rest).map fun (chars, rest) => (.string (textOf chars), rest)
  | 'n' => takeWord ['u', 'l', 'l'] .null rest
  | 't' => takeWord ['r', 'u', 'e'] (.bool true) rest
  | 'f' => takeWord ['a', 'l', 's', 'e'] (.bool false) rest
  | '-' => takeNumber true rest
  | c => takeNumber false (some c :: rest)

theorem length_dropWhile_le (p : Option Char → Bool) (text : Gapped) :
    (text.dropWhile p).length ≤ text.length :=
  (List.dropWhile_suffix p).length_le

theorem length_le_of_takeDigits {text rest : Gapped} {digits : List Char}
    (h : takeDigits text = (digits, rest)) : rest.length ≤ text.length := by
  obtain ⟨-, rfl⟩ := Prod.mk.inj h
  exact length_dropWhile_le _ _

theorem length_lt_of_takeDigits {text rest : Gapped} {c : Char} {digits : List Char}
    (h : takeDigits text = (c :: digits, rest)) : rest.length < text.length := by
  cases text with
  | nil => simp [takeDigits] at h
  | cons x text =>
    unfold takeDigits at h
    by_cases hx : isDigit x = true
    · simp only [List.dropWhile_cons, hx, if_true] at h
      obtain ⟨-, rfl⟩ := Prod.mk.inj h
      have := length_dropWhile_le isDigit text
      simp only [List.length_cons]
      omega
    · simp [hx] at h

theorem length_lt_of_takeWhole {text rest : Gapped} {digits : List Char}
    (h : takeWhole text = some (digits, rest)) : rest.length < text.length := by
  unfold takeWhole at h
  split at h
  · obtain ⟨-, rfl⟩ := Prod.mk.inj (Option.some.inj h)
    simp
  · split at h
    · contradiction
    · rename_i ds r hne hd
      obtain ⟨rfl, rfl⟩ := Prod.mk.inj (Option.some.inj h)
      cases hds : ds with
      | nil => exact (hne hds).elim
      | cons c cs => exact length_lt_of_takeDigits (hds ▸ hd)

theorem length_le_of_takeFraction {text rest : Gapped} {f : Option (List Char)}
    (h : takeFraction text = some (f, rest)) : rest.length ≤ text.length := by
  unfold takeFraction at h
  split at h
  · split at h
    · contradiction
    · rename_i hd
      obtain ⟨-, rfl⟩ := Prod.mk.inj (Option.some.inj h)
      have := length_le_of_takeDigits hd
      simp only [List.length_cons]
      omega
  · obtain ⟨-, rfl⟩ := Prod.mk.inj (Option.some.inj h)
    exact Nat.le_refl _

theorem length_takeSign_le (text : Gapped) : (takeSign text).2.length ≤ text.length := by
  unfold takeSign
  split <;> simp

theorem length_le_of_takeExponent {text rest : Gapped} {e : Option (Bool × List Char)}
    (h : takeExponent text = some (e, rest)) : rest.length ≤ text.length := by
  unfold takeExponent at h
  split at h
  · rename_i c tail
    split at h
    · simp only at h
      split at h
      · contradiction
      · rename_i hd
        obtain ⟨-, rfl⟩ := Prod.mk.inj (Option.some.inj h)
        have := length_le_of_takeDigits hd
        have := length_takeSign_le tail
        simp only [List.length_cons]
        omega
    · obtain ⟨-, rfl⟩ := Prod.mk.inj (Option.some.inj h)
      exact Nat.le_refl _
  · obtain ⟨-, rfl⟩ := Prod.mk.inj (Option.some.inj h)
    exact Nat.le_refl _

theorem length_lt_of_takeNumber {negative : Bool} {text rest : Gapped} {t : Token}
    (h : takeNumber negative text = some (t, rest)) : rest.length < text.length := by
  unfold takeNumber at h
  obtain ⟨⟨whole, r₁⟩, hw, h⟩ := Option.bind_eq_some_iff.1 h
  obtain ⟨⟨fraction, r₂⟩, hf, h⟩ := Option.bind_eq_some_iff.1 h
  obtain ⟨⟨exponent, r₃⟩, he, h⟩ := Option.bind_eq_some_iff.1 h
  obtain ⟨-, rfl⟩ := Prod.mk.inj (Option.some.inj h)
  have := length_lt_of_takeWhole hw
  have := length_le_of_takeFraction hf
  have := length_le_of_takeExponent he
  omega

theorem length_lt_of_takeString {text rest : Gapped} {chars : List (Option Char)}
    (h : takeString text = some (chars, rest)) : rest.length < text.length := by
  fun_induction takeString text generalizing chars rest with
  | case1 => contradiction
  | case2 =>
    obtain ⟨-, rfl⟩ := Prod.mk.inj (Option.some.inj h)
    simp
  | case3 => contradiction
  | case4 c tail _ x after hc hle ih =>
    obtain ⟨⟨xs, r⟩, hs, hp⟩ := Option.map_eq_some_iff.1 h
    obtain ⟨-, rfl⟩ := Prod.mk.inj hp
    have := ih hs
    simp only [List.length_cons]
    omega

theorem length_le_of_takeWord {word : List Char} {token t : Token} {text rest : Gapped}
    (h : takeWord word token text = some (t, rest)) : rest.length ≤ text.length := by
  unfold takeWord at h
  split at h
  · obtain ⟨-, rfl⟩ := Prod.mk.inj (Option.some.inj h)
    simp
  · contradiction

theorem length_le_of_nextToken {c : Char} {rest after : Gapped} {t : Token}
    (h : nextToken c rest = some (t, after)) : after.length ≤ rest.length := by
  unfold nextToken at h
  split at h
  case h_7 =>
    obtain ⟨⟨chars, r⟩, hs, hp⟩ := Option.map_eq_some_iff.1 h
    obtain ⟨-, rfl⟩ := Prod.mk.inj hp
    exact Nat.le_of_lt (length_lt_of_takeString hs)
  case h_8 => exact length_le_of_takeWord h
  case h_9 => exact length_le_of_takeWord h
  case h_10 => exact length_le_of_takeWord h
  case h_11 => exact Nat.le_of_lt (length_lt_of_takeNumber h)
  case h_12 =>
    have := length_lt_of_takeNumber h
    simp only [List.length_cons] at this
    omega
  all_goals
    obtain ⟨-, rfl⟩ := Prod.mk.inj (Option.some.inj h)
    exact Nat.le_refl _

/-- The tokens of a document, none if it has a gap or an unknown character between them. -/
def tokens : Gapped → Option (List Token)
  | [] => some []
  | none :: _ => none
  | some c :: rest =>
    if isBlank c then tokens rest
    else
      match h : nextToken c rest with
      | none => none
      | some (token, after) =>
        have := length_le_of_nextToken h
        (tokens after).map (token :: ·)
termination_by text => text.length
decreasing_by
  · simp only [List.length_cons]; omega
  · simp only [List.length_cons]; omega

end ContractProject.Json
