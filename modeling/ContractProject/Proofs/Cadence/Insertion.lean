import ContractProject.Proofs.Cadence.Extent
import ContractProject.Proofs.Cadence.Grammar
import ContractProject.Proofs.Cadence.Writing

/-!
Comments and blanks between tokens. What is inserted there, between a space and a line end, is read
as gaps whatever stands around it; so all tokens stay and those behind it move, and the outline is
the same but for the spans of imports.
-/

namespace ContractProject

/-- The span once `k` bytes have been inserted at `p`: those in front of it move it, and those
within it are part of it. -/
def Text.Span.inserted (p k : Nat) (s : Text.Span) : Text.Span :=
  if p ≤ s.start then ⟨s.start + k, s.stop + k⟩
  else if p < s.stop then ⟨s.start, s.stop + k⟩
  else s

namespace Cadence

open Text (byteLength)

/-! ### Tokens at other places -/

section Relocation

variable (f g : Nat → Nat)

/-- The token with other bounds. -/
def Token.relocate (t : Token) : Token := { t with span := ⟨f t.span.start, g t.span.stop⟩ }

def Import.relocate (i : Import) : Import := { i with span := ⟨f i.span.start, g i.span.stop⟩ }

def Outline.relocate (o : Outline) : Outline :=
  { o with imports := o.imports.map (Import.relocate f g) }

def Item.relocate : Item → Item
  | clause i tokens => clause (i.relocate f g) (tokens.map (Token.relocate f g))
  | group tokens => group (tokens.map (Token.relocate f g))
  | single t begins => single (t.relocate f g) begins

@[simp] theorem Token.atom_relocate (t : Token) : (t.relocate f g).atom = t.atom := rfl

@[simp] theorem map_atom_relocate (tokens : List Token) :
    (tokens.map (Token.relocate f g)).map Token.atom = tokens.map Token.atom := by
  simp

@[simp] theorem tokensOf_relocate (items : List Item) :
    tokensOf (items.map (Item.relocate f g)) = (tokensOf items).map (Token.relocate f g) := by
  induction items with
  | nil => rfl
  | cons item items ih =>
    cases item <;> simp [ih, Item.tokens, Item.relocate]

theorem outlineOf_relocate (items : List Item) :
    outlineOf (items.map (Item.relocate f g)) = (outlineOf items).relocate f g := by
  have himports (item : Item) :
      (item.relocate f g).import? = item.import?.map (Import.relocate f g) := by
    cases item <;> rfl
  have hdeclarations (item : Item) : (item.relocate f g).declaration? = item.declaration? := by
    cases item <;> rfl
  simp [outlineOf, Outline.relocate, List.filterMap_map, List.map_filterMap, himports,
    hdeclarations]

theorem Spans.relocate {tokens : List Token} {span : Text.Span} (h : Spans tokens span) :
    Spans (tokens.map (Token.relocate f g)) ⟨f span.start, g span.stop⟩ := by
  obtain ⟨first, hfirst, last, hlast, rfl⟩ := h
  refine ⟨first.relocate f g, ?_, last.relocate f g, ?_, rfl⟩
  · simp [Option.mem_def.1 hfirst]
  · simp [Option.mem_def.1 hlast]

/-- The grammar does not look at places. -/
theorem Sentence.relocate {items : List Item} (sentence : Sentence items) :
    Sentence (items.map (Item.relocate f g)) := by
  induction sentence with
  | nil => exact .nil
  | clause spelled spans ends _ ih =>
    refine .clause ?_ (spans.relocate f g) ?_ ih
    · rwa [map_atom_relocate]
    · rwa [tokensOf_relocate, map_atom_relocate]
  | @group first last inner opening close items hfirst hc matched hlast _ ih =>
    have hinner : Matched ((inner.map (Token.relocate f g)).map Token.atom) := by
      rwa [map_atom_relocate]
    have hfirst' : (first.relocate f g).atom = .symbol opening := hfirst
    have hlast' : (last.relocate f g).atom = .symbol close := hlast
    simpa [Item.relocate] using Sentence.group hfirst' hc hinner hlast' ih
  | single hplain hi declares _ ih =>
    refine .single hplain hi ?_ ih
    rwa [tokensOf_relocate, map_atom_relocate]

theorem outlineFrom_relocate {tokens : List Token} {o : Outline}
    (h : outlineFrom [] tokens = .ok o) :
    outlineFrom [] (tokens.map (Token.relocate f g)) = .ok (o.relocate f g) := by
  obtain ⟨items, sentence, rfl, rfl⟩ := exists_sentence_of_outlineFrom h
  rw [← tokensOf_relocate, ← outlineOf_relocate]
  exact (sentence.relocate f g).outlineFrom

/-- If bounds can be told from the new ones, only tokens with an outline get one. -/
theorem toOption_outlineFrom_relocate {f' g' : Nat → Nat} (hf : f'.LeftInverse f)
    (hg : g'.LeftInverse g) (tokens : List Token) :
    (outlineFrom [] (tokens.map (Token.relocate f g))).toOption =
      (outlineFrom [] tokens).toOption.map (Outline.relocate f g) := by
  cases h : outlineFrom [] tokens with
  | ok o =>
    rw [outlineFrom_relocate f g h]
    rfl
  | error fault =>
    cases h' : outlineFrom [] (tokens.map (Token.relocate f g)) with
    | error fault' => rfl
    | ok o =>
      have hback : (Token.relocate f' g') ∘ (Token.relocate f g) = id := by
        funext t
        simp [Token.relocate, hf _, hg _]
      have hok := outlineFrom_relocate f' g' h'
      rw [List.map_map, hback, List.map_id, h] at hok
      contradiction

end Relocation

/-! ### Gaps -/

theorem Lexeme.endsBefore_newline {l : Lexeme} (gap : l.kind = none) (text : List Char) :
    l.EndsBefore ('\n' :: text) := by
  simp [Lexeme.EndsBefore, Lexeme.growsBy, gap]

theorem Lexeme.endsBefore_space {l : Lexeme} (token : l.kind ≠ none) (text : List Char) :
    l.EndsBefore (' ' :: text) := by
  obtain ⟨kind, hk⟩ := Option.ne_none_iff_exists'.1 token
  have hname : isNamePart ' ' = false := by decide
  have hnumber : isNumberPart ' ' = false := by decide
  cases kind <;> simp [Lexeme.EndsBefore, Lexeme.growsBy, hk, hname, hnumber]

theorem Lexeme.Valid.head?_ne_newline {l : Lexeme} (valid : l.Valid) (token : l.kind ≠ none) :
    ∀ d ∈ l.raw.head?, d ≠ '\n' := by
  have hblank : Text.isBlank '\n' := by decide
  cases valid with
  | name hc => rintro d ⟨⟩ rfl; simp [(isNameStart_facts hc).1] at hblank
  | number hc => rintro d ⟨⟩ rfl; simp [(isAsciiDigit_facts hc).1] at hblank
  | symbol hc => rintro d ⟨⟩ rfl; simp [hc] at hblank
  | string => rintro d ⟨⟩; decide
  | _ => contradiction

/-- What a token follows is no comment that goes on to the end of its line. -/
theorem Lexeme.endsBefore_space_of_token {l m : Lexeme} {x : List Char}
    (ends : l.EndsBefore (m.raw ++ x)) (valid : m.Valid) (token : m.kind ≠ none)
    (text : List Char) : l.EndsBefore (' ' :: text) := by
  cases hk : l.kind with
  | some kind => exact l.endsBefore_space (by simp [hk]) text
  | none =>
    obtain ⟨d, rest, hm⟩ := List.exists_cons_of_ne_nil valid.raw_ne_nil
    have hd : d ≠ '\n' := valid.head?_ne_newline token d (by simp [hm])
    have hgrows := ends d (by simp [hm])
    simp only [Lexeme.growsBy, hk, Bool.and_eq_false_iff] at hgrows
    have hline := hgrows.resolve_right (by simpa using hd)
    simp [Lexeme.EndsBefore, Lexeme.growsBy, hk, hline]

/-- A cut between lexemes that is the bound of a token. -/
def Edge (before after : List Lexeme) : Prop :=
  (∃ l ∈ before.getLast?, l.kind ≠ none) ∨ ∃ l ∈ after.head?, l.kind ≠ none

/-- Gaps between a space and a line end can stand where a token begins or ends. -/
theorem Lexed.inserted {before after gaps : List Lexeme} (h : Lexed [] (before ++ after))
    (edge : Edge before after) (lexed : Lexed [] gaps) (blank : ∀ l ∈ gaps, l.kind = none) :
    Lexed [] (before ++ space :: (gaps ++ newline :: after)) := by
  obtain ⟨hbefore, hafter⟩ := lexed_append.1 h
  refine lexed_append.2 ⟨hbefore.of_last ?_, lexed_space (lexed_append.2 ⟨lexed.of_last ?_, ?_⟩)⟩
  · intro l hl
    rcases edge with ⟨m, hm, token⟩ | ⟨m, hm, token⟩
    · obtain rfl : m = l := Option.some.inj (hm.symm.trans hl)
      exact m.endsBefore_space token _
    · obtain ⟨rest, rfl⟩ := List.head?_eq_some_iff.1 hm
      obtain ⟨front, rfl⟩ := List.getLast?_eq_some_iff.1 hl
      have ends := (lexed_append.1 hbefore).2.2.1
      rw [rawText_nil, List.nil_append, List.append_nil, rawText_cons] at ends
      exact Lexeme.endsBefore_space_of_token ends hafter.1 token _
  · exact fun l hl => Lexeme.endsBefore_newline (blank l (List.mem_of_getLast? hl)) _
  · exact ⟨valid_newline, by simp [Lexeme.EndsBefore, Lexeme.growsBy, newline], hafter⟩

/-! ### Bounds of tokens -/

/-- Where a token begins or ends, the lexemes can be cut. -/
theorem exists_edge {ls : List Lexeme} {t : Token} {p : Nat} (mem : t ∈ place 0 ls)
    (bound : p = t.span.start ∨ p = t.span.stop) :
    ∃ before after, ls = before ++ after ∧ byteLength (rawText before) = p ∧
      Edge before after := by
  obtain ⟨a, l, b, kind, rfl, hk, rfl⟩ := exists_append_of_mem_place mem
  have token : l.kind ≠ none := by simp [hk]
  rw [Nat.zero_add, Nat.zero_add] at bound
  rcases bound with rfl | rfl
  · exact ⟨a, l :: b, rfl, rfl, .inr ⟨l, rfl, token⟩⟩
  · exact ⟨a ++ [l], b, by simp, rfl, .inl ⟨l, by simp, token⟩⟩

theorem place_add (offset k : Nat) (ls : List Lexeme) :
    place (offset + k) ls = (place offset ls).map (Token.relocate (· + k) (· + k)) := by
  induction ls generalizing offset with
  | nil => rfl
  | cons l ls ih =>
    have hnext : offset + k + byteLength l.raw = offset + byteLength l.raw + k := by omega
    cases hk : l.kind with
    | none => rw [place_of_gap _ hk, place_of_gap _ hk, hnext, ih]
    | some kind =>
      rw [place_of_token _ hk, place_of_token _ hk, hnext, ih, List.map_cons]
      rfl

/-- Where what starts at this byte starts once `k` bytes have been inserted at `p`. -/
def startAfter (p k n : Nat) : Nat := if p ≤ n then n + k else n

/-- Where what stops at this byte stops then. -/
def stopAfter (p k n : Nat) : Nat := if p < n then n + k else n

theorem leftInverse_startAfter (p k : Nat) :
    Function.LeftInverse (fun n => if p + k ≤ n then n - k else n) (startAfter p k) := by
  intro n
  simp only [startAfter]
  split <;> split <;> omega

theorem leftInverse_stopAfter (p k : Nat) :
    Function.LeftInverse (fun n => if p + k < n then n - k else n) (stopAfter p k) := by
  intro n
  simp only [stopAfter]
  split <;> split <;> omega

/-- What is inserted moves the tokens behind it. -/
theorem place_inserted {before after gaps : List Lexeme}
    (valid : ∀ l ∈ before ++ after, l.Valid) (blank : ∀ l ∈ gaps, l.kind = none) :
    place 0 (before ++ (gaps ++ after)) =
      (place 0 (before ++ after)).map
        (Token.relocate (startAfter (byteLength (rawText before)) (byteLength (rawText gaps)))
          (stopAfter (byteLength (rawText before)) (byteLength (rawText gaps)))) := by
  rw [place_append, place_append, place_of_gaps blank, List.nil_append, place_append,
    List.map_append, place_add]
  congr 1
  · refine ((List.map_congr_left (g := id) fun t ht => ?_).trans (List.map_id _)).symm
    obtain ⟨-, hlt, hle⟩ := place_bounds (fun l hl => valid l (List.mem_append_left _ hl)) ht
    rw [Nat.zero_add] at hle
    simp only [Token.relocate, startAfter, stopAfter]
    rw [if_neg (by omega), if_neg (by omega)]
    rfl
  · refine List.map_congr_left fun t ht => ?_
    obtain ⟨hle, hlt, -⟩ := place_bounds (fun l hl => valid l (List.mem_append_right _ hl)) ht
    rw [Nat.zero_add] at hle
    simp only [Token.relocate, startAfter, stopAfter]
    rw [if_pos hle, if_pos (by omega)]

/-! ### Sources -/

/-- The bounds of a span that is not empty move as the span does. -/
theorem inserted_eq {p k : Nat} {span : Text.Span} (h : span.start < span.stop) :
    span.inserted p k = ⟨startAfter p k span.start, stopAfter p k span.stop⟩ := by
  simp only [Text.Span.inserted, startAfter, stopAfter]
  split
  · rw [if_pos (by omega)]
  · split <;> rfl

def Import.inserted (p k : Nat) (i : Import) : Import := { i with span := i.span.inserted p k }

/-- The outline once `k` bytes have been inserted at `p`. -/
def Outline.inserted (p k : Nat) (o : Outline) : Outline :=
  { o with imports := o.imports.map (Import.inserted p k) }

theorem relocate_of_parse {source : List Char} {o : Outline} (h : Outline.parse source = .ok o)
    (p k : Nat) : o.relocate (startAfter p k) (stopAfter p k) = o.inserted p k := by
  have hspans : o.imports.map (Import.relocate (startAfter p k) (stopAfter p k)) =
      o.imports.map (Import.inserted p k) := by
    refine List.map_congr_left fun i hi => ?_
    rw [Import.inserted, inserted_eq ((spans_of_parse h).1 i hi).2]
    rfl
  rw [Outline.relocate, Outline.inserted, hspans]

/-- Gaps that are read where they stand change no more of an outline than the places. -/
theorem parse_of_lexed_gaps {before after gaps : List Lexeme} (lexed : Lexed [] (before ++ after))
    (inserted : Lexed [] (before ++ (gaps ++ after))) (blank : ∀ l ∈ gaps, l.kind = none) :
    (Outline.parse (rawText before ++ (rawText gaps ++ rawText after))).toOption =
      (Outline.parse (rawText before ++ rawText after)).toOption.map
        (Outline.inserted (byteLength (rawText before)) (byteLength (rawText gaps))) := by
  have hparse (ls : List Lexeme) (h : Lexed [] ls) :
      Outline.parse (rawText ls) = outlineFrom [] (place 0 ls) :=
    parse_of_tokens (map_eq_ok_iff.2 ⟨ls, lexemesFrom_eq_ok_iff.2 ⟨h, rfl⟩, rfl⟩)
  rw [← rawText_append, ← rawText_append, ← rawText_append, hparse _ inserted,
    place_inserted (valid_of_lexed lexed) blank,
    toOption_outlineFrom_relocate _ _ (leftInverse_startAfter _ _) (leftInverse_stopAfter _ _),
    ← hparse _ lexed]
  cases hp : Outline.parse (rawText (before ++ after)) with
  | error fault => rfl
  | ok o => exact congrArg some (relocate_of_parse hp _ _)

/-- Comments and blanks can be inserted, between a space and a line end, where a token begins or
ends. The source has an outline just if it had one, with the same declarations and imports, of which
those behind the place move and one around it grows by what was inserted. -/
theorem parse_inserted {source text : List Char} {ts : List Token} {p : Nat}
    (lexed : tokens source = .ok ts) (edge : ∃ t ∈ ts, p = t.span.start ∨ p = t.span.stop)
    (blank : tokens text = .ok []) :
    (Outline.parse (Text.splice source [⟨⟨p, p⟩, ' ' :: (text ++ ['\n'])⟩])).toOption =
      (Outline.parse source).toOption.map
        (Outline.inserted p (byteLength (' ' :: (text ++ ['\n'])))) := by
  obtain ⟨ls, hls, rfl⟩ := map_eq_ok_iff.1 lexed
  obtain ⟨hlexed, rfl⟩ := lexemesFrom_eq_ok_iff.1 hls
  obtain ⟨gaps, hgaps, hnone⟩ := map_eq_ok_iff.1 blank
  obtain ⟨hlexed', rfl⟩ := lexemesFrom_eq_ok_iff.1 hgaps
  have hkind := kind_of_place_eq_nil hnone
  obtain ⟨t, mem, bound⟩ := edge
  obtain ⟨before, after, rfl, rfl, edge⟩ := exists_edge mem bound
  have hinserted : Lexed [] (before ++ (space :: (gaps ++ [newline]) ++ after)) := by
    simpa using hlexed.inserted edge hlexed' hkind
  -- the space and the line end are gaps as well
  have hraw : ' ' :: (rawText gaps ++ ['\n']) = rawText (space :: (gaps ++ [newline])) := by
    simp [space, newline]
  have hblank : ∀ l ∈ space :: (gaps ++ [newline]), l.kind = none :=
    List.forall_mem_cons.2 ⟨rfl, List.forall_mem_append.2 ⟨hkind, by simp [newline]⟩⟩
  rw [hraw, rawText_append, Text.splice_insert]
  exact parse_of_lexed_gaps hlexed hinserted hblank

/-- A source with an import, and comments that hold an import and a declaration. -/
def importingSource : List Char := "import Foo as Bar from 0x1 contract C {}".toList

def hidingComments : List Char := "/* import \"X\" */ // struct S".toList

/-- Comments within an import make it longer. -/
theorem parse_inserted_of_hidingComments :
    (Outline.parse (Text.splice importingSource
        [⟨⟨10, 10⟩, ' ' :: (hidingComments ++ ['\n'])⟩])).toOption =
      some ⟨[⟨[⟨"Foo", some "Bar"⟩], .address (.ofNat 1), ⟨0, 56⟩⟩], [⟨.contract, false, "C"⟩]⟩ := by
  obtain ⟨ts, lexed, edge⟩ := exists_ok_of_toOption
    (f := fun ts : List Token => ts.any fun t => t.span.stop = 10) (x := tokens importingSource)
    (b := true) (by decide +kernel)
  obtain ⟨t, mem, stop⟩ := List.any_eq_true.1 edge
  have blank : tokens hidingComments = .ok [] := eq_ok_of_toOption (by decide +kernel)
  rw [parse_inserted lexed ⟨t, mem, .inr (of_decide_eq_true stop).symm⟩ blank]
  decide +kernel

end Cadence

end ContractProject
