import ContractProject.Proofs.Cadence.Rewriting

/-!
Where tokens and imports stand. The tokens of a source stand in it as they are written, one behind
the other, and all else of it is blanks and comments. So do its imports, and what stands in the span
of an import is read alone as that import and nothing else.
-/

namespace ContractProject.Cadence

open Text (byteLength slice Span)

/-! ### Tokens -/

/-- The token as it is written. -/
def Token.spelled (t : Token) : List Char :=
  if t.kind = .string then '"' :: (t.text.toList ++ ['"']) else t.text.toList

/-- The stretches from `position` to `stop` that tokens leave. -/
def gapsFrom (position stop : Nat) : List Token → List Span
  | [] => [⟨position, stop⟩]
  | t :: ts => ⟨position, t.span.start⟩ :: gapsFrom t.span.stop stop ts

/-- Only blanks and complete comments. -/
def IsGap (text : List Char) : Prop :=
  ∃ gaps, rawText gaps = text ∧ Lexed [] gaps ∧ ∀ l ∈ gaps, l.kind = none

theorem tokens_eq_nil_iff {text : List Char} : tokens text = .ok [] ↔ IsGap text := by
  constructor
  · intro h
    obtain ⟨gaps, hgaps, hnone⟩ := map_eq_ok_iff.1 h
    obtain ⟨lexed, raw⟩ := lexemesFrom_eq_ok_iff.1 hgaps
    exact ⟨gaps, raw, lexed, kind_of_place_eq_nil hnone⟩
  · rintro ⟨gaps, raw, lexed, blank⟩
    exact map_eq_ok_iff.2 ⟨gaps, lexemesFrom_eq_ok_iff.2 ⟨lexed, raw⟩, place_of_gaps blank 0⟩

/-- A string ends with its closing quote. -/
theorem exists_append_of_stringBody {text body rest : List Char}
    (h : stringBody text = some (body, rest)) : ∃ inside, body = inside ++ ['"'] := by
  fun_induction stringBody text generalizing body rest with
  | case1 => simp at h
  | case2 =>
    obtain ⟨rfl, -⟩ := Prod.mk.inj (Option.some.inj h)
    exact ⟨[], by simp⟩
  | case3 => simp at h
  | case4 => simp at h
  | case5 d text _ _ ih =>
    obtain ⟨⟨b, a⟩, hb, hp⟩ := Option.map_eq_some_iff.1 h
    obtain ⟨inside, rfl⟩ := ih hb
    obtain ⟨rfl, -⟩ := Prod.mk.inj hp
    exact ⟨_ :: _ :: inside, rfl⟩
  | case6 c text _ _ _ ih =>
    obtain ⟨⟨b, a⟩, hb, hp⟩ := Option.map_eq_some_iff.1 h
    obtain ⟨inside, rfl⟩ := ih hb
    obtain ⟨rfl, -⟩ := Prod.mk.inj hp
    exact ⟨c :: inside, rfl⟩

theorem Lexeme.Valid.spelled {l : Lexeme} {kind : TokenKind} (valid : l.Valid)
    (h : l.kind = some kind) (span : Span) :
    Token.spelled ⟨kind, Lexeme.text kind l.raw, span⟩ = l.raw := by
  cases valid with
  | string hb =>
    obtain ⟨inside, rfl⟩ := exists_append_of_stringBody hb
    obtain rfl : TokenKind.string = kind := Option.some.inj h
    simp [Token.spelled, Lexeme.text]
  | blank | line | block => cases h
  | name | number | symbol =>
    obtain rfl := Option.some.inj h
    simp [Token.spelled, Lexeme.text]

/-- What tokens leave of a source comes from lexemes that are gaps, and stands where those do. -/
theorem exists_append_of_mem_gapsFrom (offset : Nat) (held ls : List Lexeme) {gap : Span}
    (blank : ∀ l ∈ held, l.kind = none)
    (h : gap ∈ gapsFrom offset (offset + byteLength (rawText (held ++ ls)))
      (place (offset + byteLength (rawText held)) ls)) :
    ∃ a gaps b, held ++ ls = a ++ (gaps ++ b) ∧ (∀ l ∈ gaps, l.kind = none) ∧
      gap = ⟨offset + byteLength (rawText a),
        offset + byteLength (rawText a) + byteLength (rawText gaps)⟩ := by
  -- gaps are held back until a token comes
  induction ls generalizing offset held with
  | nil =>
    obtain rfl : gap = ⟨offset, offset + byteLength (rawText held)⟩ := by
      simpa [place, gapsFrom] using h
    exact ⟨[], held, [], by simp, blank, by simp⟩
  | cons l ls ih =>
    cases hk : l.kind with
    | none =>
      rw [place_of_gap _ hk] at h
      have blank' : ∀ m ∈ held ++ [l], m.kind = none :=
        List.forall_mem_append.2 ⟨blank, by simpa using hk⟩
      obtain ⟨a, gaps, b, happend, hgaps, hgap⟩ :=
        ih offset (held ++ [l]) blank' (by simpa [Nat.add_assoc] using h)
      exact ⟨a, gaps, b, by simpa using happend, hgaps, hgap⟩
    | some kind =>
      rw [place_of_token _ hk, gapsFrom] at h
      rcases List.mem_cons.1 h with rfl | h
      · exact ⟨[], held, l :: ls, by simp, blank, by simp⟩
      · obtain ⟨a, gaps, b, rfl, hgaps, rfl⟩ :=
          ih (offset + byteLength (rawText held) + byteLength l.raw) [] (by simp)
            (by simpa [Nat.add_assoc] using h)
        exact ⟨held ++ l :: a, gaps, b, by simp, hgaps, by simp [Nat.add_assoc]⟩

/-- A token stands in the text as it is written. -/
theorem slice_of_mem_place {ls : List Lexeme} {t : Token} (valid : ∀ l ∈ ls, l.Valid)
    (h : t ∈ place 0 ls) :
    t.span.Fits (rawText ls) ∧ slice t.span (rawText ls) = t.spelled := by
  obtain ⟨a, l, b, kind, rfl, hk, rfl⟩ := exists_append_of_mem_place h
  have hsource : rawText (a ++ l :: b) = rawText a ++ (l.raw ++ rawText b) := by simp
  have hspan : (⟨0 + byteLength (rawText a), 0 + byteLength (rawText (a ++ [l]))⟩ : Span) =
      ⟨byteLength (rawText a), byteLength (rawText a) + byteLength l.raw⟩ := by simp
  rw [(valid l (by simp)).spelled hk, hsource, hspan]
  exact ⟨Text.fits_append _ _ _, Text.slice_append _ _ _⟩

/-- What tokens leave of a text is blanks and complete comments. -/
theorem isGap_of_mem_gapsFrom {ls : List Lexeme} {gap : Span} (lexed : Lexed [] ls)
    (h : gap ∈ gapsFrom 0 (byteLength (rawText ls)) (place 0 ls)) :
    gap.Fits (rawText ls) ∧ IsGap (slice gap (rawText ls)) := by
  obtain ⟨a, gaps, b, rfl, blank, rfl⟩ :=
    exists_append_of_mem_gapsFrom 0 [] ls (by simp) (by simpa using h)
  have hsource : rawText (a ++ (gaps ++ b)) = rawText a ++ (rawText gaps ++ rawText b) := by simp
  have hgaps : Lexed [] gaps := (lexed_append.1 (lexed_append.1 lexed).2).1.alone
  rw [hsource, Nat.zero_add, Text.slice_append]
  exact ⟨Text.fits_append _ _ _, gaps, rfl, hgaps, blank⟩

/-- The tokens of a source stand between its characters, in order and apart, each where it is
written; before, between and after them there are only blanks and complete comments. -/
theorem tokens_spans {source : List Char} {ts : List Token} (lexed : tokens source = .ok ts) :
    (∀ t ∈ ts, t.span.Fits source ∧ t.span.start < t.span.stop ∧
      slice t.span source = t.spelled) ∧
    (ts.Pairwise fun s t => s.span.stop ≤ t.span.start) ∧
    ∀ gap ∈ gapsFrom 0 (byteLength source) ts,
      gap.Fits source ∧ IsGap (slice gap source) ∧ tokens (slice gap source) = .ok [] := by
  obtain ⟨ls, hls, rfl⟩ := map_eq_ok_iff.1 lexed
  obtain ⟨hlexed, rfl⟩ := lexemesFrom_eq_ok_iff.1 hls
  have valid := valid_of_lexed hlexed
  refine ⟨fun t ht => ?_, pairwise_place 0 ls, fun gap hgap => ?_⟩
  · obtain ⟨fits, spelled⟩ := slice_of_mem_place valid ht
    obtain ⟨-, hlt, -⟩ := place_bounds valid ht
    exact ⟨fits, hlt, spelled⟩
  · obtain ⟨fits, blank⟩ := isGap_of_mem_gapsFrom hlexed hgap
    exact ⟨fits, blank, tokens_eq_nil_iff.2 blank⟩

/-- A comment within a comment and a comment behind a slash, and letters of several bytes. -/
def commentedSource : List Char := "/* \" /* ü */ */é1 \"\\\"ß\"/ // 'x'\n0x1z".toList

def commentedTokens : List Token :=
  [⟨.identifier, "é1", ⟨16, 19⟩⟩, ⟨.string, "\\\"ß", ⟨20, 26⟩⟩, ⟨.symbol '/', "/", ⟨26, 27⟩⟩,
    ⟨.number, "0x1z", ⟨35, 39⟩⟩]

theorem tokens_spans_of_commentedSource : tokens commentedSource = .ok commentedTokens ∧
    slice ⟨20, 26⟩ commentedSource = "\"\\\"ß\"".toList ∧
    IsGap (slice ⟨0, 16⟩ commentedSource) ∧ tokens (slice ⟨27, 35⟩ commentedSource) = .ok [] := by
  have lexed : tokens commentedSource = .ok commentedTokens :=
    eq_ok_of_toOption (by decide +kernel)
  obtain ⟨placed, -, blank⟩ := tokens_spans lexed
  have hstring := (placed ⟨.string, "\\\"ß", ⟨20, 26⟩⟩ (by decide)).2.2
  exact ⟨lexed, hstring, (blank ⟨0, 16⟩ (by decide +kernel)).2.1,
    (blank ⟨27, 35⟩ (by decide +kernel)).2.2⟩

/-! ### Imports -/

/-- The imports of a source stand between its characters, in order and apart. -/
theorem spans_of_parse {source : List Char} {o : Outline} (h : Outline.parse source = .ok o) :
    (∀ i ∈ o.imports, i.span.Fits source ∧ i.span.start < i.span.stop) ∧
      o.imports.Pairwise fun i j => i.span.stop ≤ j.span.start := by
  obtain ⟨ps, whole, rfl, himports⟩ := exists_whole_of_parse h
  rw [← himports]
  refine ⟨fun i hi => ⟨fits_of_mem_importsAt hi, ?_⟩, pairwise_importsAt 0 ps⟩
  obtain ⟨a, c, ls, b, rfl, rfl⟩ := mem_importsAt.1 hi
  obtain ⟨more, rfl⟩ := (clauses_written whole.reads c ls (by simp)).exists_cons
  have hk : 0 < byteLength importKeyword.raw := by decide
  simp only [rawText_cons, Text.byteLength_append]
  omega

/-- What an import is written as is a source of its own, with that import and nothing else. -/
theorem Whole.parse_clause {ps : List Part} {ds : List Declaration} (whole : Whole ps ds)
    {c : Clause} {ls : List Lexeme} (h : Part.clause c ls ∈ ps) : Outline.parse (rawText ls) =
      .ok ⟨[⟨c.names, c.location, ⟨0, byteLength (rawText ls)⟩⟩], []⟩ := by
  have written := clauses_written whole.reads c ls h
  obtain ⟨a, b, rfl⟩ := List.append_of_mem h
  have lexed := whole.lexed
  rw [lexemesOf_append, lexemesOf_clause, lexed_append, lexed_append] at lexed
  -- a name alone goes no further either, for nothing follows it now
  have alone : Whole [.clause c ls] [] :=
    ⟨by simpa using lexed.2.1.alone, .clause written (by simp [Clause.EndsBefore]) .nil⟩
  simpa [importsAt] using alone.parse

/-- What stands in the span of an import has that import, from its start to its end, and nothing
else. The imports of a source stand between its characters, in order and apart. -/
theorem parse_slice {source : List Char} {o : Outline} (parsed : Outline.parse source = .ok o) :
    (∀ i ∈ o.imports, i.span.Fits source ∧ i.span.start < i.span.stop) ∧
    (o.imports.Pairwise fun i j => i.span.stop ≤ j.span.start) ∧
    ∀ i ∈ o.imports, Outline.parse (slice i.span source) =
      .ok ⟨[{ i with span := ⟨0, byteLength (slice i.span source)⟩ }], []⟩ := by
  obtain ⟨fits, ordered⟩ := spans_of_parse parsed
  refine ⟨fits, ordered, fun i hi => ?_⟩
  obtain ⟨ps, whole, rfl, himports⟩ := exists_whole_of_parse parsed
  rw [← himports] at hi
  obtain ⟨a, c, ls, b, rfl, rfl⟩ := mem_importsAt.1 hi
  have hmem : Part.clause c ls ∈ a ++ .clause c ls :: b := by simp
  have hsource : textOf (a ++ .clause c ls :: b) = textOf a ++ (rawText ls ++ textOf b) := by simp
  rw [hsource, Text.byteLength_append, Nat.zero_add, Nat.zero_add, Text.slice_append]
  exact whole.parse_clause hmem

/-- An import of a name that a declaration follows, and one with a comment in it. -/
def importingTwice : List Char :=
  "// ü\nimport Crypto contract C {} import A as /* é\" */ B from 0x01;".toList

theorem parse_slice_of_importingTwice : ∃ o, Outline.parse importingTwice = .ok o ∧
    o.imports.map Import.span = [⟨6, 19⟩, ⟨34, 67⟩] ∧
    Outline.parse (slice ⟨6, 19⟩ importingTwice) =
      .ok ⟨[⟨[], .identifier "Crypto", ⟨0, 13⟩⟩], []⟩ ∧
    Outline.parse (slice ⟨34, 67⟩ importingTwice) =
      .ok ⟨[⟨[⟨"A", some "B"⟩], .address (.ofNat 1), ⟨0, 33⟩⟩], []⟩ := by
  have parsed : Outline.parse importingTwice = .ok ⟨[⟨[], .identifier "Crypto", ⟨6, 19⟩⟩,
      ⟨[⟨"A", some "B"⟩], .address (.ofNat 1), ⟨34, 67⟩⟩], [⟨.contract, false, "C"⟩]⟩ :=
    eq_ok_of_toOption (by decide +kernel)
  have alone := (parse_slice parsed).2.2
  have hlone : byteLength (slice ⟨6, 19⟩ importingTwice) = 13 := by decide +kernel
  have hnamed : byteLength (slice ⟨34, 67⟩ importingTwice) = 33 := by decide +kernel
  refine ⟨_, parsed, rfl, ?_, ?_⟩
  · simpa only [hlone] using alone _ List.mem_cons_self
  · simpa only [hnamed] using alone _ (List.mem_cons_of_mem _ List.mem_cons_self)

end ContractProject.Cadence
