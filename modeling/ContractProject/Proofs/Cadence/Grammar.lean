import ContractProject.Proofs.Cadence.Reading

/-!
The grammar that outlines follow. Tokens have an outline exactly if they fall into imports, groups
in matching brackets, and other tokens; and whichever way they fall into these, the outline holds
the imports and the declarations among them.
-/

namespace ContractProject.Cadence

/-! ### Brackets -/

def Atom.isBracket : Atom → Bool
  | .symbol c => (closing? c).isSome || isClosing c
  | _ => false

/-- Atoms whose brackets match by kind at every level. -/
inductive Matched : List Atom → Prop
  | nil : Matched []
  | plain {a : Atom} {more : List Atom} : a.isBracket = false → Matched more → Matched (a :: more)
  | group {opening close : Char} {inner after : List Atom} : closing? opening = some close →
      Matched inner → Matched after →
      Matched (.symbol opening :: (inner ++ .symbol close :: after))

theorem isClosing_of_closing? {opening close : Char} (h : closing? opening = some close) :
    closing? close = none ∧ isClosing close := by
  unfold closing? at h
  split at h
  · obtain rfl := Option.some.inj h; decide
  · obtain rfl := Option.some.inj h; decide
  · obtain rfl := Option.some.inj h; decide
  · contradiction

section Brackets

variable {opened nowOpen : List OpenBracket} {b : OpenBracket} {t : Token} {rest : List Token}
  {o : Outline}

theorem bracketsAfter_of_plain (h : t.atom.isBracket = false) :
    bracketsAfter opened t = .ok opened := by
  unfold bracketsAfter
  cases hk : t.kind with
  | symbol c =>
    simp only [Token.atom, TokenKind.atom, hk, Atom.isBracket, Bool.or_eq_false_iff,
      Option.isSome_eq_false_iff, Option.isNone_iff_eq_none] at h
    simp [h.1, h.2]
  | _ => rfl

theorem bracketsAfter_of_opening {opening close : Char} (h : t.atom = .symbol opening)
    (hc : closing? opening = some close) :
    bracketsAfter opened t = .ok (⟨close, opening, t.span.start⟩ :: opened) := by
  rw [bracketsAfter, Token.kind_eq_symbol_iff.2 h]
  simp only [hc]

theorem bracketsAfter_of_closing {opening : Char} (h : t.atom = .symbol b.close)
    (hc : closing? opening = some b.close) : bracketsAfter (b :: opened) t = .ok opened := by
  obtain ⟨hnone, hclosing⟩ := isClosing_of_closing? hc
  rw [bracketsAfter, Token.kind_eq_symbol_iff.2 h]
  simp [hnone, hclosing]

/-- What a token does to the open brackets. -/
theorem bracketsAfter_cases (h : bracketsAfter opened t = .ok nowOpen) :
    (t.atom.isBracket = false ∧ nowOpen = opened) ∨
    (∃ opening close, t.atom = .symbol opening ∧ closing? opening = some close ∧
      nowOpen = ⟨close, opening, t.span.start⟩ :: opened) ∨
    ∃ b, opened = b :: nowOpen ∧ t.atom = .symbol b.close := by
  unfold bracketsAfter at h
  cases hk : t.kind with
  | symbol c =>
    have ha : t.atom = .symbol c := Token.kind_eq_symbol_iff.1 hk
    simp only [hk] at h
    split at h
    · next close hc => exact .inr (.inl ⟨c, close, ha, hc, (Except.ok.inj h).symm⟩)
    next hc =>
    split at h
    · next hclosing =>
      split at h
      · contradiction
      next last more =>
      split at h
      · next hlast =>
        obtain rfl := Except.ok.inj h
        exact .inr (.inr ⟨last, rfl, by rw [ha, hlast]⟩)
      · contradiction
    · next hclosing =>
      refine .inl ⟨?_, (Except.ok.inj h).symm⟩
      simpa [ha, Atom.isBracket, hc] using hclosing
  | _ =>
    refine .inl ⟨by simp [Token.atom, TokenKind.atom, hk, Atom.isBracket], ?_⟩
    simpa [hk] using h.symm

theorem map_addDeclaration_none {x : Except OutlineFault Outline} :
    x.map (Outline.addDeclaration none) = x := by
  cases x <;> rfl

/-- Inside brackets nothing is declared. -/
theorem outlineFrom_inside (h : bracketsAfter (b :: opened) t = .ok nowOpen) :
    outlineFrom (b :: opened) (t :: rest) = outlineFrom nowOpen rest := by
  rw [outlineFrom_token (by simp) h, List.isEmpty_cons, if_neg (by decide), map_addDeclaration_none]

/-- Inside brackets, tokens whose brackets match are passed over. -/
theorem outlineFrom_matched {tokens : List Token} (matched : Matched (tokens.map Token.atom)) :
    outlineFrom (b :: opened) (tokens ++ rest) = outlineFrom (b :: opened) rest := by
  generalize ha : tokens.map Token.atom = atoms at matched
  induction matched generalizing tokens b opened rest with
  | nil =>
    obtain rfl := List.map_eq_nil_iff.1 ha
    rfl
  | plain hplain _ ih =>
    obtain ⟨t, more, rfl, rfl, hm⟩ := List.map_eq_cons_iff.1 ha
    rw [List.cons_append, outlineFrom_inside (bracketsAfter_of_plain hplain), ih hm]
  | group hc _ _ ihInner ihAfter =>
    obtain ⟨first, more, rfl, hfirst, hm⟩ := List.map_eq_cons_iff.1 ha
    obtain ⟨inner, tail, rfl, hinner, htail⟩ := List.map_eq_append_iff.1 hm
    obtain ⟨last, after, rfl, hlast, hafter⟩ := List.map_eq_cons_iff.1 htail
    rw [List.cons_append, outlineFrom_inside (bracketsAfter_of_opening hfirst hc),
      List.append_assoc, ihInner hinner, List.cons_append,
      outlineFrom_inside (bracketsAfter_of_closing hlast hc), ihAfter hafter]

/-- From within a bracket the reading comes to the token that closes it. -/
theorem exists_matched_of_outlineFrom {tokens : List Token}
    (h : outlineFrom (b :: opened) tokens = .ok o) :
    ∃ inner last rest, tokens = inner ++ last :: rest ∧ Matched (inner.map Token.atom) ∧
      last.atom = .symbol b.close ∧ outlineFrom opened rest = .ok o := by
  -- by length, for after an inner group the reading goes on behind it
  induction hn : tokens.length using Nat.strong_induction_on generalizing tokens b opened with
  | _ n ih =>
  subst hn
  cases tokens with
  | nil => simp [outlineFrom] at h
  | cons t tokens =>
    obtain ⟨nowOpen, -, hb, -, -⟩ := exists_of_outlineFrom_token (by simp) h
    rw [outlineFrom_inside hb] at h
    obtain ⟨hplain, rfl⟩ | ⟨opening, close, ha, hc, rfl⟩ | ⟨b, hopened, ha⟩ :=
      bracketsAfter_cases hb
    · obtain ⟨inner, last, rest, rfl, matched, hlast, hrest⟩ := ih _ (by simp) h rfl
      exact ⟨t :: inner, last, rest, rfl, .plain hplain matched, hlast, hrest⟩
    · obtain ⟨inner, last, rest, rfl, matched, hlast, hrest⟩ := ih _ (by simp) h rfl
      obtain ⟨inner', last', rest', rfl, matched', hlast', hrest'⟩ :=
        ih rest.length (by simp; omega) hrest rfl
      refine ⟨t :: (inner ++ last :: inner'), last', rest', by simp, ?_, hlast', hrest'⟩
      have hgroup := Matched.group hc matched matched'
      simpa [ha, hlast] using hgroup
    · obtain ⟨rfl, rfl⟩ := List.cons.inj hopened
      exact ⟨[], t, tokens, rfl, .nil, ha, h⟩

end Brackets

/-! ### Declarations -/

/-- The keyword of a composite, with an atom that names it ahead, begins this declaration. -/
inductive Declares : Atom → List Atom → Declaration → Prop
  | composite {kind : CompositeKind} {name : String} {more : List Atom} : name ≠ "interface" →
      Declares (.identifier kind.keyword) (.identifier name :: more) ⟨kind, false, name⟩
  | interface {kind : CompositeKind} {name : String} {more : List Atom} :
      Declares (.identifier kind.keyword) (.identifier "interface" :: .identifier name :: more)
        ⟨kind, true, name⟩

theorem CompositeKind.ofKeyword?_eq_some_iff {word : String} {kind : CompositeKind} :
    CompositeKind.ofKeyword? word = some kind ↔ word = kind.keyword := by
  constructor
  · intro h
    rw [ofKeyword?, List.find?_eq_some_iff_append] at h
    exact (of_decide_eq_true h.1).symm
  · rintro rfl
    cases kind <;> decide

theorem declarationAt_eq_some_iff {a : Atom} {following : List Atom} {d : Declaration} :
    declarationAt a following = some d ↔ Declares a following d := by
  constructor
  · intro h
    unfold declarationAt at h
    split at h
    case h_2 => contradiction
    next word =>
    split at h
    · contradiction
    next kind hkind =>
    obtain rfl := CompositeKind.ofKeyword?_eq_some_iff.1 hkind
    by_cases hi : following.head? = some (.identifier "interface")
    · obtain ⟨more, rfl⟩ := List.head?_eq_some_iff.1 hi
      simp only [hi, decide_true, if_true, List.tail_cons] at h
      split at h
      · next name hname =>
        obtain ⟨rest, rfl⟩ := List.head?_eq_some_iff.1 hname
        obtain rfl := Option.some.inj h
        exact .interface
      · contradiction
    · simp only [hi, decide_false, Bool.false_eq_true, if_false] at h
      split at h
      · next name hname =>
        obtain ⟨rest, rfl⟩ := List.head?_eq_some_iff.1 hname
        obtain rfl := Option.some.inj h
        exact .composite (by simpa using hi)
      · contradiction
  · intro h
    cases h with
    | composite hname =>
      simp [declarationAt, CompositeKind.ofKeyword?_eq_some_iff.2 rfl, hname]
    | interface => simp [declarationAt, CompositeKind.ofKeyword?_eq_some_iff.2 rfl]

/-! ### Items -/

/-- What tokens fall into. -/
inductive Item where
  /-- An import, from its keyword on. -/
  | clause (i : Import) (tokens : List Token)
  /-- Tokens from an opening bracket to the one that closes it. -/
  | group (tokens : List Token)
  /-- Any other token, and the declaration that it begins. -/
  | single (t : Token) (begins : Option Declaration)

namespace Item

def tokens : Item → List Token
  | clause _ tokens => tokens
  | group tokens => tokens
  | single t _ => [t]

def import? : Item → Option Import
  | clause i _ => some i
  | _ => none

def declaration? : Item → Option Declaration
  | single _ begins => begins
  | _ => none

end Item

def tokensOf (items : List Item) : List Token := items.flatMap Item.tokens

@[simp] theorem tokensOf_nil : tokensOf [] = [] := rfl

@[simp] theorem tokensOf_cons (item : Item) (items : List Item) :
    tokensOf (item :: items) = item.tokens ++ tokensOf items := rfl

/-- The imports and the declarations among items. -/
def outlineOf (items : List Item) : Outline :=
  ⟨items.filterMap Item.import?, items.filterMap Item.declaration?⟩

/-- The bytes from the first of these tokens to the last. -/
def Spans (tokens : List Token) (span : Text.Span) : Prop :=
  ∃ first ∈ tokens.head?, ∃ last ∈ tokens.getLast?, span = ⟨first.span.start, last.span.stop⟩

/-- Items that follow one another as the grammar has it. An import of a name alone must not be
followed by what would go on with it, and a keyword declares what the tokens after it name. -/
inductive Sentence : List Item → Prop
  | nil : Sentence []
  | clause {i : Import} {tokens : List Token} {items : List Item} :
      i.clause.Spelled (tokens.map Token.atom) → Spans tokens i.span →
      i.clause.EndsBefore ((tokensOf items).map Token.atom) → Sentence items →
      Sentence (.clause i tokens :: items)
  | group {first last : Token} {inner : List Token} {opening close : Char} {items : List Item} :
      first.atom = .symbol opening → closing? opening = some close →
      Matched (inner.map Token.atom) → last.atom = .symbol close → Sentence items →
      Sentence (.group (first :: (inner ++ [last])) :: items)
  | single {t : Token} {begins : Option Declaration} {items : List Item} :
      t.atom.isBracket = false → t.atom ≠ .identifier "import" →
      (∀ d, begins = some d ↔ Declares t.atom ((tokensOf items).map Token.atom) d) →
      Sentence items → Sentence (.single t begins :: items)

theorem Clause.Spelled.exists_keyword {c : Clause} {atoms : List Atom} (h : c.Spelled atoms) :
    ∃ more, atoms = .identifier "import" :: more := by
  cases h <;> exact ⟨_, rfl⟩

theorem declaration?_of_symbol {t : Token} {c : Char} (h : t.atom = .symbol c)
    (rest : List Token) : declaration? t rest = none := by
  rw [declaration?_eq, h]
  rfl

/-- Items that follow the grammar have the outline that they hold. -/
theorem Sentence.outlineFrom {items : List Item} (sentence : Sentence items) :
    outlineFrom [] (tokensOf items) = .ok (outlineOf items) := by
  induction sentence with
  | nil => simp [Cadence.outlineFrom, outlineOf]
  | @clause i tokens items spelled spans ends _ ih =>
    obtain ⟨more, hmore⟩ := spelled.exists_keyword
    obtain ⟨keyword, tokens, rfl, hk, -⟩ := List.map_eq_cons_iff.1 hmore
    obtain ⟨last, hlast, hd⟩ := importDeclaration_append (tokensOf items) spelled ends
    obtain ⟨first, hfirst, last', hlast', hspan⟩ := spans
    obtain rfl : keyword = first := by simpa using hfirst
    obtain rfl : last = last' := by
      simpa [List.getLast?_cons, Option.mem_def.1 hlast] using hlast'
    have hi : (⟨i.clause.names, i.clause.location, ⟨keyword.span.start, last.span.stop⟩⟩ : Import) =
        i := by rw [← hspan]; rfl
    rw [hi] at hd
    rw [tokensOf_cons, Item.tokens, List.cons_append, outlineFrom_import hk hd, ih]
    rfl
  | @group first last inner opening close items hfirst hc matched hlast _ ih =>
    rw [tokensOf_cons, Item.tokens, List.cons_append,
      outlineFrom_token (by simp [hfirst]) (bracketsAfter_of_opening hfirst hc),
      declaration?_of_symbol hfirst, ite_self, map_addDeclaration_none, List.append_assoc,
      outlineFrom_matched matched, List.singleton_append,
      outlineFrom_inside (bracketsAfter_of_closing hlast hc), ih]
    rfl
  | @single t begins items hplain hi declares _ ih =>
    have hbegins : declarationAt t.atom ((tokensOf items).map Token.atom) = begins := by
      refine Option.ext fun d => ?_
      rw [declares d, declarationAt_eq_some_iff]
    rw [tokensOf_cons, Item.tokens, List.singleton_append,
      outlineFrom_token (fun _ => hi) (bracketsAfter_of_plain hplain), List.isEmpty_nil,
      if_pos rfl, declaration?_eq, hbegins, ih]
    cases begins <;> rfl

/-- Tokens that have an outline fall into items that hold it. -/
theorem exists_sentence_of_outlineFrom {tokens : List Token} {o : Outline}
    (h : outlineFrom [] tokens = .ok o) :
    ∃ items, Sentence items ∧ tokensOf items = tokens ∧ outlineOf items = o := by
  -- by length, for an import or a group takes many tokens at once
  induction hn : tokens.length using Nat.strong_induction_on generalizing tokens o with
  | _ n ih =>
  subst hn
  cases tokens with
  | nil =>
    obtain rfl : _ = o := by simpa [outlineFrom] using h
    exact ⟨[], .nil, rfl, rfl⟩
  | cons t rest =>
    by_cases hi : t.atom = .identifier "import"
    · obtain ⟨i, after, more, hd, hm, rfl⟩ := exists_of_outlineFrom_import hi h
      obtain ⟨used, rfl, spelled, ⟨last, hlast, hspan⟩, ends⟩ :=
        exists_append_of_importDeclaration hi hd
      obtain ⟨items, sentence, rfl, rfl⟩ := ih after.length (by simp) hm rfl
      have spans : Spans (t :: used) i.span :=
        ⟨t, rfl, last, by simp [List.getLast?_cons, Option.mem_def.1 hlast], hspan⟩
      exact ⟨.clause i (t :: used) :: items, .clause spelled spans ends sentence, rfl, rfl⟩
    · obtain ⟨nowOpen, more, hb, hm, rfl⟩ := exists_of_outlineFrom_token (fun _ => hi) h
      rw [List.isEmpty_nil, if_pos rfl]
      obtain ⟨hplain, rfl⟩ | ⟨opening, close, ha, hc, rfl⟩ | ⟨b, hopened, -⟩ :=
        bracketsAfter_cases hb
      · obtain ⟨items, sentence, rfl, rfl⟩ := ih rest.length (by simp) hm rfl
        refine ⟨.single t (declaration? t (tokensOf items)) :: items,
          .single hplain hi (fun d => ?_) sentence, rfl, ?_⟩
        · rw [declaration?_eq, declarationAt_eq_some_iff]
        · cases declaration? t (tokensOf items) <;> rfl
      · obtain ⟨inner, last, rest', rfl, matched, hlast, hrest⟩ := exists_matched_of_outlineFrom hm
        obtain ⟨items, sentence, rfl, rfl⟩ := ih rest'.length (by simp; omega) hrest rfl
        refine ⟨.group (t :: (inner ++ [last])) :: items, .group ha hc matched hlast sentence,
          by simp [Item.tokens], ?_⟩
        rw [declaration?_of_symbol ha]
        rfl
      · contradiction

theorem parse_of_tokens {source : List Char} {ts : List Token} (h : tokens source = .ok ts) :
    Outline.parse source = outlineFrom [] ts := by
  rw [Outline.parse, h]

/-- A source has an outline exactly if its tokens follow the grammar, and then the outline holds the
imports and the declarations of the items that they fall into. -/
theorem exists_parse_iff_sentence {source : List Char} {ts : List Token}
    (lexed : tokens source = .ok ts) :
    ((∃ o, Outline.parse source = .ok o) ↔ ∃ items, Sentence items ∧ tokensOf items = ts) ∧
    ∀ o, Outline.parse source = .ok o → ∀ items, Sentence items → tokensOf items = ts →
      o.imports = items.filterMap Item.import? ∧
      o.declarations = items.filterMap Item.declaration? := by
  rw [parse_of_tokens lexed]
  refine ⟨⟨?_, ?_⟩, ?_⟩
  · rintro ⟨o, h⟩
    obtain ⟨items, sentence, htokens, -⟩ := exists_sentence_of_outlineFrom h
    exact ⟨items, sentence, htokens⟩
  · rintro ⟨items, sentence, rfl⟩
    exact ⟨_, sentence.outlineFrom⟩
  · rintro o h items sentence rfl
    obtain rfl := Except.ok.inj (sentence.outlineFrom.symm.trans h)
    exact ⟨rfl, rfl⟩

/-- A source with two imports, of which one is of a name alone, and two declarations. -/
def outlinedSource : List Char :=
  "import B as C, D from 0x1 import Crypto contract interface X { import ( [ ] ) } event E".toList

theorem exists_sentence_of_outlinedSource : ∃ ts items, tokens outlinedSource = .ok ts ∧
    Sentence items ∧ tokensOf items = ts ∧
    (items.filterMap Item.import?).map Import.clause =
      [⟨[⟨"B", some "C"⟩, ⟨"D", none⟩], .address (.ofNat 1)⟩, ⟨[], .identifier "Crypto"⟩] ∧
    items.filterMap Item.declaration? = [⟨.contract, true, "X"⟩, ⟨.event, false, "E"⟩] := by
  obtain ⟨ts, lexed, -⟩ := exists_ok_of_toOption (f := fun _ => ()) (x := tokens outlinedSource)
    (b := ()) (by decide +kernel)
  obtain ⟨o, parsed, evaluated⟩ := exists_ok_of_toOption
    (f := fun o : Outline => (o.imports.map Import.clause, o.declarations))
    (x := Outline.parse outlinedSource)
    (b := ([⟨[⟨"B", some "C"⟩, ⟨"D", none⟩], .address (.ofNat 1)⟩, ⟨[], .identifier "Crypto"⟩],
      [⟨.contract, true, "X"⟩, ⟨.event, false, "E"⟩])) (by decide +kernel)
  obtain ⟨splits, holds⟩ := exists_parse_iff_sentence lexed
  obtain ⟨items, sentence, htokens⟩ := splits.1 ⟨o, parsed⟩
  obtain ⟨himports, hdeclarations⟩ := holds o parsed items sentence htokens
  rw [himports, hdeclarations] at evaluated
  obtain ⟨hclauses, hdeclared⟩ := Prod.mk.inj evaluated
  exact ⟨ts, items, lexed, sentence, htokens, hclauses, hdeclared⟩

end ContractProject.Cadence
