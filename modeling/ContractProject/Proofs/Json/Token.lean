import ContractProject.Json.Token
import ContractProject.Json.Value
import ContractProject.Proofs.Address

/-!
Reading the tokens of written text: strings and words come back as they are, and a number that is
one token by itself is one wherever it is not followed by more of a number.
-/

namespace ContractProject.Json

/-- A text without gaps. -/
def whole (text : List Char) : Gapped := text.map some

@[simp] theorem whole_nil : whole [] = [] := rfl

@[simp] theorem whole_cons (c : Char) (text : List Char) :
    whole (c :: text) = some c :: whole text := rfl

@[simp] theorem whole_append (a b : List Char) : whole (a ++ b) = whole a ++ whole b :=
  List.map_append

theorem tokens_of_blank {c : Char} (h : isBlank c) (rest : Gapped) :
    tokens (some c :: rest) = tokens rest := by
  rw [tokens, if_pos h]

theorem tokens_of_nextToken {c : Char} {rest after : Gapped} {t : Token} (h : isBlank c = false)
    (next : nextToken c rest = some (t, after)) :
    tokens (some c :: rest) = (tokens after).map (t :: ·) := by
  rw [tokens, if_neg (by simp [h])]
  split
  · next hn => rw [next] at hn; cases hn
  · next hn =>
    rw [next] at hn
    obtain ⟨rfl, rfl⟩ := Prod.mk.inj (Option.some.inj hn)
    rfl

theorem tokens_newline (indent : Nat) (rest : Gapped) :
    tokens (whole (newline indent) ++ rest) = tokens rest := by
  have hspaces (n : Nat) : tokens (whole (List.replicate n ' ') ++ rest) = tokens rest := by
    induction n with
    | zero => rfl
    | succ n ih =>
      rw [List.replicate_succ, whole_cons, List.cons_append, tokens_of_blank (by decide), ih]
  rw [newline, whole_cons, List.cons_append, tokens_of_blank (by decide), hspaces]

/-! ### Strings -/

theorem value?_digit : ∀ n < 16, Hex.value? (Hex.digit n) = some n := by decide

theorem takeUnit_digits {n : Nat} (h : n < 16 ^ 4) (rest : Gapped) :
    takeUnit (whole (Hex.digits 4 n) ++ rest) = some (n, rest) := by
  have hvalue (m : Nat) : Hex.value? (Hex.digit (m % 16)) = some (m % 16) :=
    value?_digit _ (Nat.mod_lt _ (by decide))
  have hdigits : Hex.digits 4 n = [Hex.digit (n / 16 / 16 / 16 % 16), Hex.digit (n / 16 / 16 % 16),
      Hex.digit (n / 16 % 16), Hex.digit (n % 16)] := rfl
  rw [hdigits]
  simp only [whole_cons, whole_nil, List.cons_append, List.nil_append, takeUnit, hvalue,
    Option.bind_eq_bind, Option.bind_some, Option.pure_def, Option.some.injEq, Prod.mk.injEq,
    and_true]
  omega

/-- A character is read from its escaped form. -/
theorem exists_takeChar_escaped (c : Char) (rest : Gapped) : ∃ d ds, escapedChar c = d :: ds ∧
    d ≠ '"' ∧ takeChar (some d) (whole ds ++ rest) = some (some c, rest) := by
  unfold escapedChar
  split_ifs with hq hb h8 ht hn hf hr hc
  · exact ⟨'\\', ['"'], rfl, by decide, by rw [hq]; rfl⟩
  · exact ⟨'\\', ['\\'], rfl, by decide, by rw [hb]; rfl⟩
  · exact ⟨'\\', ['b'], rfl, by decide, by rw [h8]; rfl⟩
  · exact ⟨'\\', ['t'], rfl, by decide, by rw [ht]; rfl⟩
  · exact ⟨'\\', ['n'], rfl, by decide, by rw [hn]; rfl⟩
  · exact ⟨'\\', ['f'], rfl, by decide, by rw [hf]; rfl⟩
  · exact ⟨'\\', ['r'], rfl, by decide, by rw [hr]; rfl⟩
  · refine ⟨'\\', 'u' :: Hex.digits 4 c.toNat, rfl, by decide, ?_⟩
    have hunit := takeUnit_digits (n := c.toNat) (by omega) rest
    have hhigh : isHighSurrogate c.toNat = false := by
      simp [isHighSurrogate]
      omega
    have hlow : isLowSurrogate c.toNat = false := by
      simp [isLowSurrogate]
      omega
    have hpoint : takeCodePoint (whole (Hex.digits 4 c.toNat) ++ rest) = some (some c, rest) := by
      simp [takeCodePoint, hunit, hhigh, hlow, Char.ofNat_toNat]
    exact hpoint
  · exact ⟨c, [], rfl, hq, by simp [takeChar, hc, hb]⟩

theorem takeString_quote (rest : Gapped) : takeString (some '"' :: rest) = some ([], rest) := by
  rw [takeString, if_pos rfl]

theorem takeString_of_takeChar {c : Char} {x : Option Char} {rest after : Gapped} (hc : c ≠ '"')
    (h : takeChar (some c) rest = some (x, after)) :
    takeString (some c :: rest) = (takeString after).map fun (xs, after) => (x :: xs, after) := by
  rw [takeString, if_neg (by simpa using hc)]
  split
  · next hn => rw [h] at hn; cases hn
  · next hn =>
    rw [h] at hn
    obtain ⟨rfl, rfl⟩ := Prod.mk.inj (Option.some.inj hn)
    rfl

theorem takeString_escaped (text : List Char) (rest : Gapped) :
    takeString (whole (text.flatMap escapedChar ++ ['"']) ++ rest) = some (whole text, rest) := by
  induction text with
  | nil => exact takeString_quote rest
  | cons c text ih =>
    obtain ⟨d, ds, hescaped, hd, htake⟩ :=
      exists_takeChar_escaped c (whole (text.flatMap escapedChar ++ ['"']) ++ rest)
    rw [List.flatMap_cons, hescaped, List.append_assoc, List.cons_append, whole_cons,
      List.cons_append, whole_append, List.append_assoc, takeString_of_takeChar hd htake, ih]
    rfl

theorem textOf_whole (text : List Char) : textOf (whole text) = some (String.ofList text) := by
  have hmap : (whole text).mapM id = some text := by
    induction text with
    | nil => rfl
    | cons c text ih => simp [ih]
  rw [textOf, hmap]
  rfl

/-- A string is read as it was written. -/
theorem tokens_quoted (text : String) (rest : Gapped) :
    tokens (whole (quoted text) ++ rest) = (tokens rest).map (.string (some text) :: ·) := by
  have hquoted : quoted text = '"' :: (text.toList.flatMap escapedChar ++ ['"']) := rfl
  rw [hquoted, whole_cons, List.cons_append]
  refine tokens_of_nextToken (by decide) ?_
  simp only [nextToken, takeString_escaped, Option.map_some, textOf_whole, String.ofList_toList]

/-! ### Numbers -/

/-- A number goes on with this character. -/
def isNumeric (c : Option Char) : Bool :=
  isDigit c || c = some '.' || c = some 'e' || c = some 'E'

/-- What follows does not go on with a number. -/
def Stops (rest : Gapped) : Prop := ∀ c ∈ rest.head?, isNumeric c = false

theorem Stops.isDigit {rest : Gapped} (h : Stops rest) : ∀ c ∈ rest.head?, isDigit c = false := by
  intro c hc
  have := h c hc
  simp only [isNumeric, Bool.or_eq_false_iff] at this
  exact this.1.1.1

theorem Stops.head?_ne {rest : Gapped} (h : Stops rest) {c : Char} (hc : isNumeric (some c)) :
    rest.head? ≠ some (some c) := by
  intro hhead
  rw [h (some c) hhead] at hc
  cases hc

variable {text rest : Gapped}

theorem takeWhile_append_of_stops {p : Option Char → Bool} (h : ∀ c ∈ rest.head?, p c = false) :
    (text ++ rest).takeWhile p = text.takeWhile p := by
  induction text with
  | nil =>
    cases rest with
    | nil => rfl
    | cons c rest => simp [h c rfl]
  | cons c text ih =>
    rw [List.cons_append, List.takeWhile_cons, List.takeWhile_cons, ih]

theorem dropWhile_append_of_stops {p : Option Char → Bool} (h : ∀ c ∈ rest.head?, p c = false) :
    (text ++ rest).dropWhile p = text.dropWhile p ++ rest := by
  induction text with
  | nil =>
    cases rest with
    | nil => rfl
    | cons c rest => simp [h c rfl]
  | cons c text ih =>
    rw [List.cons_append, List.dropWhile_cons, List.dropWhile_cons, ih]
    split <;> simp

theorem takeDigits_append (stops : Stops rest) :
    takeDigits (text ++ rest) = ((takeDigits text).1, (takeDigits text).2 ++ rest) := by
  rw [takeDigits, takeWhile_append_of_stops stops.isDigit, dropWhile_append_of_stops stops.isDigit]
  rfl

theorem head?_append_ne {c : Char} (h : text.head? ≠ some (some c))
    (hrest : rest.head? ≠ some (some c)) : (text ++ rest).head? ≠ some (some c) := by
  cases text with
  | nil => exact hrest
  | cons x text => exact h

theorem takeWhole_of_head?_ne (h : text.head? ≠ some (some '0')) :
    takeWhole text =
      if (takeDigits text).1 = [] then none else some (takeDigits text) := by
  unfold takeWhole
  split
  · simp at h
  · split
    · next hd => rw [hd, if_pos rfl]
    · next digits r hne hd => rw [hd, if_neg fun h => hne h]

theorem takeWhole_append {digits : List Char} {after : Gapped} (stops : Stops rest)
    (h : takeWhole text = some (digits, after)) :
    takeWhole (text ++ rest) = some (digits, after ++ rest) := by
  by_cases h0 : text.head? = some (some '0')
  · obtain ⟨r, rfl⟩ := List.head?_eq_some_iff.1 h0
    obtain ⟨rfl, rfl⟩ := Prod.mk.inj (Option.some.inj h)
    rfl
  · rw [takeWhole_of_head?_ne h0] at h
    rw [takeWhole_of_head?_ne (head?_append_ne h0 (stops.head?_ne (by decide))),
      takeDigits_append stops]
    split at h
    · cases h
    · next hne =>
      rw [if_neg hne]
      simp [Option.some.inj h]

theorem takeFraction_of_head?_ne (h : text.head? ≠ some (some '.')) :
    takeFraction text = some (none, text) := by
  unfold takeFraction
  split
  · simp at h
  · rfl

theorem takeFraction_point (text : Gapped) :
    takeFraction (some '.' :: text) =
      if (takeDigits text).1 = [] then none
      else some (some (takeDigits text).1, (takeDigits text).2) := by
  rw [takeFraction]
  split
  · next hd => rw [hd, if_pos rfl]
  · next digits r hne hd => rw [hd, if_neg fun h => hne h]

theorem takeFraction_append {fraction : Option (List Char)} {after : Gapped} (stops : Stops rest)
    (h : takeFraction text = some (fraction, after)) :
    takeFraction (text ++ rest) = some (fraction, after ++ rest) := by
  by_cases hpoint : text.head? = some (some '.')
  · obtain ⟨r, rfl⟩ := List.head?_eq_some_iff.1 hpoint
    rw [takeFraction_point] at h
    rw [List.cons_append, takeFraction_point, takeDigits_append stops]
    split at h
    · cases h
    · next hne =>
      obtain ⟨rfl, rfl⟩ := Prod.mk.inj (Option.some.inj h)
      rw [if_neg hne]
  · rw [takeFraction_of_head?_ne hpoint] at h
    obtain ⟨rfl, rfl⟩ := Prod.mk.inj (Option.some.inj h)
    exact takeFraction_of_head?_ne (head?_append_ne hpoint (stops.head?_ne (by decide)))

theorem takeSign_append (hne : text ≠ []) :
    takeSign (text ++ rest) = ((takeSign text).1, (takeSign text).2 ++ rest) := by
  obtain ⟨c, text, rfl⟩ := List.exists_cons_of_ne_nil hne
  rw [List.cons_append]
  unfold takeSign
  split <;> simp_all

/-- The digits after the letter of an exponent. -/
theorem takeExponent_letter {c : Char} (hc : c = 'e' ∨ c = 'E') (text : Gapped) :
    takeExponent (some c :: text) =
      if (takeDigits (takeSign text).2).1 = [] then none
      else some (some ((takeSign text).1, (takeDigits (takeSign text).2).1),
        (takeDigits (takeSign text).2).2) := by
  simp only [takeExponent, if_pos hc]
  split
  · next hd => rw [hd, if_pos rfl]
  · next digits r hne hd => rw [hd, if_neg fun h => hne h]

theorem takeExponent_of_head?_ne (he : text.head? ≠ some (some 'e'))
    (hE : text.head? ≠ some (some 'E')) : takeExponent text = some (none, text) := by
  unfold takeExponent
  split
  · next c r =>
    rw [if_neg]
    rintro (rfl | rfl)
    · exact he rfl
    · exact hE rfl
  · rfl

theorem takeExponent_append {exponent : Option (Bool × List Char)} {after : Gapped}
    (stops : Stops rest) (h : takeExponent text = some (exponent, after)) :
    takeExponent (text ++ rest) = some (exponent, after ++ rest) := by
  -- an exponent has digits of its own, so what follows adds neither to them nor to the sign
  have letter (c : Char) (hc : c = 'e' ∨ c = 'E') (htext : text.head? = some (some c)) :
      takeExponent (text ++ rest) = some (exponent, after ++ rest) := by
    obtain ⟨r, rfl⟩ := List.head?_eq_some_iff.1 htext
    rw [takeExponent_letter hc] at h
    have hne : r ≠ [] := by
      rintro rfl
      simp [takeSign, takeDigits] at h
    rw [List.cons_append, takeExponent_letter hc, takeSign_append hne, takeDigits_append stops]
    split at h
    · cases h
    · next hdigits =>
      obtain ⟨rfl, rfl⟩ := Prod.mk.inj (Option.some.inj h)
      rw [if_neg hdigits]
  by_cases he : text.head? = some (some 'e')
  · exact letter 'e' (.inl rfl) he
  by_cases hE : text.head? = some (some 'E')
  · exact letter 'E' (.inr rfl) hE
  rw [takeExponent_of_head?_ne he hE] at h
  obtain ⟨rfl, rfl⟩ := Prod.mk.inj (Option.some.inj h)
  exact takeExponent_of_head?_ne (head?_append_ne he (stops.head?_ne (by decide)))
    (head?_append_ne hE (stops.head?_ne (by decide)))

theorem takeNumber_append {negative : Bool} {t : Token} {after : Gapped} (stops : Stops rest)
    (h : takeNumber negative text = some (t, after)) :
    takeNumber negative (text ++ rest) = some (t, after ++ rest) := by
  unfold takeNumber at h ⊢
  obtain ⟨⟨digits, r₁⟩, hw, h⟩ := Option.bind_eq_some_iff.1 h
  obtain ⟨⟨fraction, r₂⟩, hf, h⟩ := Option.bind_eq_some_iff.1 h
  obtain ⟨⟨exponent, r₃⟩, he, h⟩ := Option.bind_eq_some_iff.1 h
  obtain ⟨rfl, rfl⟩ := Prod.mk.inj (Option.some.inj h)
  simp [takeWhole_append stops hw, takeFraction_append stops hf, takeExponent_append stops he]

/-- A number token comes from the sign and what follows it, or from what there is. -/
theorem nextToken_eq_number {c : Char} {l : NumberLiteral} {after : Gapped}
    (h : nextToken c text = some (.number l, after)) :
    c = '-' ∧ takeNumber true text = some (.number l, after) ∨
      (∀ more, nextToken c more = takeNumber false (some c :: more)) ∧
        takeNumber false (some c :: text) = some (.number l, after) := by
  unfold nextToken at h
  split at h
  case h_7 =>
    obtain ⟨⟨chars, r⟩, -, hp⟩ := Option.map_eq_some_iff.1 h
    cases hp
  case h_11 => exact .inl ⟨rfl, h⟩
  case h_12 =>
    refine .inr ⟨fun more => ?_, h⟩
    unfold nextToken
    split <;> simp_all
  all_goals
    first
      | cases h
      | (unfold takeWord at h
         split at h <;> cases h)

theorem nextToken_append {c : Char} {l : NumberLiteral} {after : Gapped} (stops : Stops rest)
    (h : nextToken c text = some (.number l, after)) :
    nextToken c (text ++ rest) = some (.number l, after ++ rest) := by
  -- a minus is passed by, and any other first character is read again as part of the number
  rcases nextToken_eq_number h with ⟨rfl, h⟩ | ⟨hnext, h⟩
  · exact takeNumber_append stops h
  · rw [hnext, ← List.cons_append]
    exact takeNumber_append stops h

theorem exists_nextToken_of_tokens {c : Char} {ts : List Token} (hc : isBlank c = false)
    (h : tokens (some c :: text) = some ts) : ∃ t after more, nextToken c text = some (t, after) ∧
      tokens after = some more ∧ t :: more = ts := by
  rw [tokens, if_neg (by simp [hc])] at h
  split at h
  · cases h
  · next t after hn =>
    obtain ⟨more, hmore, rfl⟩ := Option.map_eq_some_iff.1 h
    exact ⟨t, after, more, hn, hmore, rfl⟩

theorem tokens_append_of_blank (h : tokens text = some []) :
    tokens (text ++ rest) = tokens rest := by
  induction text with
  | nil => rfl
  | cons c text ih =>
    cases c with
    | none => simp [tokens] at h
    | some c =>
      by_cases hc : isBlank c
      · rw [tokens_of_blank hc] at h
        rw [List.cons_append, tokens_of_blank hc, ih h]
      · obtain ⟨t, after, more, -, -, hts⟩ := exists_nextToken_of_tokens (by simpa using hc) h
        cases hts

/-- A text that is one number is read as that number wherever a number may end. -/
theorem tokens_append_of_number {l : NumberLiteral} (h : tokens text = some [.number l])
    (stops : Stops rest) : tokens (text ++ rest) = (tokens rest).map (.number l :: ·) := by
  induction text with
  | nil => simp [tokens] at h
  | cons c text ih =>
    cases c with
    | none => simp [tokens] at h
    | some c =>
      by_cases hc : isBlank c
      · rw [tokens_of_blank hc] at h
        rw [List.cons_append, tokens_of_blank hc, ih h]
      · have hc : isBlank c = false := by simpa using hc
        obtain ⟨t, after, more, hnext, hafter, hts⟩ := exists_nextToken_of_tokens hc h
        obtain ⟨rfl, rfl⟩ := List.cons.inj hts
        rw [List.cons_append, tokens_of_nextToken hc (nextToken_append stops hnext),
          tokens_append_of_blank hafter]

/-- The written form of a number is read as one token, of this value. -/
def Number.ReadsBack (n : Number) : Prop :=
  ∃ l : NumberLiteral, tokens (whole n.toText) = some [.number l] ∧ l.value? = some n

/-! ### Integers -/

theorem takeDigits_whole {digits : List Char} (h : ∀ c ∈ digits, c.isDigit) :
    takeDigits (whole digits) = (digits, []) := by
  induction digits with
  | nil => rfl
  | cons c digits ih =>
    have hc : isDigit (some c) := h c List.mem_cons_self
    have ih := ih fun c hc => h c (List.mem_cons_of_mem _ hc)
    obtain ⟨htake, hdrop⟩ := Prod.mk.inj ih
    rw [takeDigits, whole_cons, List.takeWhile_cons_of_pos hc, List.dropWhile_cons_of_pos hc,
      hdrop]
    exact congrArg (fun digits => (c :: digits, [])) htake

theorem isDigit_of_mem_toDigits {n : Nat} {c : Char} (h : c ∈ Nat.toDigits 10 n) : c.isDigit :=
  Nat.isDigit_of_mem_toDigits (by decide) (by decide) h

theorem digitValue_digitChar : ∀ n < 10, digitValue n.digitChar = n := by decide

theorem digitChar_eq_zero : ∀ n < 10, n.digitChar = '0' → n = 0 := by decide

/-- Digits that fit into the significand are all taken. -/
theorem foldl_push_toDigits {n : Nat} (h : n < significandLimit) :
    (Nat.toDigits 10 n).foldl Leading.push ⟨0, 0, 0⟩ = ⟨n, (Nat.toDigits 10 n).length, 0⟩ := by
  induction n using Nat.strong_induction_on with
  | _ n ih =>
    by_cases hn : n < 10
    · rw [Nat.toDigits_of_lt_base hn]
      simp [Leading.push, digitValue_digitChar n hn, h]
    · have hlast : n / 10 * 10 + n % 10 = n := by omega
      rw [Nat.toDigits_of_base_le (by decide) (by omega), List.foldl_append,
        ih (n / 10) (by omega) (by omega)]
      simp [Leading.push, digitValue_digitChar _ (Nat.mod_lt n (by decide)), hlast, h]

/-- Only zero is written with a zero first. -/
theorem head?_toDigits_eq_zero {n : Nat} (h : (Nat.toDigits 10 n).head? = some '0') : n = 0 := by
  induction n using Nat.strong_induction_on with
  | _ n ih =>
    by_cases hn : n < 10
    · rw [Nat.toDigits_of_lt_base hn] at h
      exact digitChar_eq_zero n hn (Option.some.inj h)
    · rw [Nat.toDigits_of_base_le (by decide) (by omega),
        List.head?_append_of_ne_nil _ Nat.toDigits_ne_nil] at h
      have := ih (n / 10) (by omega) h
      omega

/-- The digits of an integer are read as they are, without a point and an exponent. -/
theorem takeNumber_toDigits (negative : Bool) (n : Nat) :
    takeNumber negative (whole (Nat.toDigits 10 n)) =
      some (.number ⟨negative, Nat.toDigits 10 n, none, none⟩, []) := by
  have hwhole : takeWhole (whole (Nat.toDigits 10 n)) = some (Nat.toDigits 10 n, []) := by
    by_cases h : (Nat.toDigits 10 n).head? = some '0'
    · obtain rfl := head?_toDigits_eq_zero h
      rfl
    · rw [takeWhole_of_head?_ne (by simpa [whole] using h),
        takeDigits_whole fun c => isDigit_of_mem_toDigits, if_neg Nat.toDigits_ne_nil]
  rw [takeNumber, hwhole]
  rfl

theorem nextToken_of_isDigit {c : Char} (h : c.isDigit) (rest : Gapped) :
    nextToken c rest = takeNumber false (some c :: rest) := by
  unfold nextToken
  split <;> first | rfl | exact absurd h (by decide)

theorem tokens_toDigits (n : Nat) :
    tokens (whole (Nat.toDigits 10 n)) =
      some [.number ⟨false, Nat.toDigits 10 n, none, none⟩] := by
  obtain ⟨c, digits, hdigits⟩ := List.exists_cons_of_ne_nil (Nat.toDigits_ne_nil (n := n) (b := 10))
  have hc : c.isDigit := isDigit_of_mem_toDigits (n := n) (hdigits ▸ List.mem_cons_self)
  have hblank : isBlank c = false := by
    cases hb : isBlank c with
    | false => rfl
    | true =>
      simp only [isBlank, Bool.or_eq_true, decide_eq_true_eq] at hb
      rcases hb with ((rfl | rfl) | rfl) | rfl <;> exact absurd hc (by decide)
  have hnext := nextToken_of_isDigit hc (whole digits)
  have hnumber := takeNumber_toDigits false n
  rw [hdigits, whole_cons] at hnumber ⊢
  rw [tokens_of_nextToken hblank (hnext.trans hnumber), tokens, Option.map_some]

/-- Integers that are kept as such are read back. -/
theorem readsBack_integer {n : Int} (least : -2 ^ 63 ≤ n) (greatest : n < 2 ^ 64) :
    (Number.integer n).ReadsBack := by
  have hfits : n.natAbs < significandLimit := by
    simp only [significandLimit, UInt64.size]
    omega
  have hfold := foldl_push_toDigits hfits
  by_cases hn : n < 0
  · refine ⟨⟨true, Nat.toDigits 10 n.natAbs, none, none⟩, ?_, ?_⟩
    · have htext : (Number.integer n).toText = '-' :: Nat.toDigits 10 n.natAbs := by
        simp [Number.toText, hn]
      have hnext : nextToken '-' (whole (Nat.toDigits 10 n.natAbs)) =
          some (.number ⟨true, Nat.toDigits 10 n.natAbs, none, none⟩, []) :=
        takeNumber_toDigits true n.natAbs
      rw [htext, whole_cons, tokens_of_nextToken (by decide) hnext, tokens, Option.map_some]
    · have hnonzero : ¬(n.natAbs = 0 ∨ significandLimit / 2 < n.natAbs) := by
        simp only [significandLimit, UInt64.size]
        omega
      have hneg : -(n.natAbs : Int) = n := by omega
      simp only [NumberLiteral.value?, hfold]
      rw [if_pos (by decide), if_neg (by decide), if_neg hnonzero, hneg]
  · refine ⟨⟨false, Nat.toDigits 10 n.natAbs, none, none⟩, ?_, ?_⟩
    · have htext : (Number.integer n).toText = Nat.toDigits 10 n.natAbs := by
        simp [Number.toText, hn]
      rw [htext, tokens_toDigits]
    · have hpos : (n.natAbs : Int) = n := by omega
      simp only [NumberLiteral.value?, hfold]
      rw [if_pos (by decide), if_pos (by decide), hpos]

end ContractProject.Json
