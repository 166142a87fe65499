import ContractProject.Proofs.Cadence.Part

/-!
Reading the parts of a source. A source that has an outline falls into parts that are read one
after the other, and its outline is that of the parts; what is read of a part depends on the atoms
ahead up to the next import and not on the place, so parts can be moved and exchanged.
-/

namespace ContractProject.Cadence

open Text (byteLength)

/-- The closers that open brackets await, the innermost first, after an atom. -/
def closersAfter (closers : List Char) : Atom → Option (List Char)
  | .symbol c =>
    match closing? c with
    | some close => some (close :: closers)
    | none =>
      if isClosing c then
        match closers with
        | [] => none
        | last :: more => if c = last then some more else none
      else some closers
  | _ => some closers

def OpenBracket.closers (opened : List OpenBracket) : List Char := opened.map OpenBracket.close

theorem closersAfter_closers (opened : List OpenBracket) (t : Token) :
    closersAfter (OpenBracket.closers opened) t.atom =
      (bracketsAfter opened t).toOption.map OpenBracket.closers := by
  unfold bracketsAfter
  cases hk : t.kind with
  | symbol c =>
    simp only [Token.atom, TokenKind.atom, hk, closersAfter]
    cases hc : closing? c with
    | some close => rfl
    | none =>
      by_cases hclose : isClosing c
      · simp only [hclose, if_true]
        cases opened with
        | nil => rfl
        | cons last more =>
          by_cases h : c = last.close <;> simp [OpenBracket.closers, h, Except.toOption]
      · simp [hclose, Except.toOption]
  -- only symbols open and close
  | _ => simp [Token.atom, TokenKind.atom, hk, closersAfter, Except.toOption]

theorem closersAfter_of_bracketsAfter {opened nowOpen : List OpenBracket} {t : Token}
    (h : bracketsAfter opened t = .ok nowOpen) :
    closersAfter (OpenBracket.closers opened) t.atom = some (OpenBracket.closers nowOpen) := by
  rw [closersAfter_closers, h]
  rfl

theorem exists_bracketsAfter {opened : List OpenBracket} {t : Token} {closers : List Char}
    (h : closersAfter (OpenBracket.closers opened) t.atom = some closers) :
    ∃ nowOpen, bracketsAfter opened t = .ok nowOpen ∧ OpenBracket.closers nowOpen = closers := by
  rw [closersAfter_closers] at h
  cases hb : bracketsAfter opened t with
  | ok nowOpen => exact ⟨nowOpen, rfl, by simpa [hb, Except.toOption] using h⟩
  | error fault => simp [hb, Except.toOption] at h

/-- The declaration that begins with this atom when these follow it. -/
def declarationAt (a : Atom) (following : List Atom) : Option Declaration :=
  match a with
  | .identifier word =>
    match CompositeKind.ofKeyword? word with
    | none => none
    | some kind =>
      let isInterface : Bool := following.head? = some (.identifier "interface")
      match (if isInterface then following.tail else following).head? with
      | some (.identifier name) => some ⟨kind, isInterface, name⟩
      | _ => none
  | _ => none

/-- The name of a declaration is the atom where it is expected, if that is an identifier. -/
theorem declared_eq (kind : CompositeKind) (isInterface : Bool) (rest : List Token) :
    (match rest.head? with
      | some name => if name.kind = .identifier then some ⟨kind, isInterface, name.text⟩ else none
      | none => none) =
    (match (rest.map Token.atom).head? with
      | some (.identifier name) => some (⟨kind, isInterface, name⟩ : Declaration)
      | _ => none) := by
  cases rest with
  | nil => rfl
  | cons t rest => cases hk : t.kind <;> simp [hk, Token.atom, TokenKind.atom]

theorem declaration?_eq (t : Token) (rest : List Token) :
    declaration? t rest = declarationAt t.atom (rest.map Token.atom) := by
  unfold declaration? declarationAt
  cases hk : t.kind with
  | identifier =>
    simp only [Token.atom, TokenKind.atom, hk, if_true]
    cases hw : CompositeKind.ofKeyword? t.text with
    | none => rfl
    | some kind =>
      cases rest with
      | nil => rfl
      | cons u rest =>
        -- after `interface` the name is one token further on
        by_cases hu : u.isWord "interface"
        · have ha := Token.isWord_iff.1 hu
          simp only [List.map_cons, List.head?_cons, List.tail_cons, Option.map_some,
            Option.getD_some, hu, ha, decide_true, if_true]
          exact declared_eq kind true rest
        · have ha := mt Token.isWord_iff.2 hu
          simp only [List.map_cons, List.head?_cons, Option.map_some, Option.getD_some, hu, ha,
            Option.some.injEq, decide_false, Bool.false_eq_true, if_false]
          exact declared_eq kind false (u :: rest)
  | _ => simp [Token.atom, TokenKind.atom, hk]

/-- The atoms up to the first keyword of an import. -/
def upToImport : List Atom → List Atom
  | [] => []
  | a :: more => if a = .identifier "import" then [a] else a :: upToImport more

theorem head?_upToImport (atoms : List Atom) : (upToImport atoms).head? = atoms.head? := by
  cases atoms with
  | nil => rfl
  | cons a more => by_cases h : a = .identifier "import" <;> simp [upToImport, h]

/-- A declaration begins no further ahead than the keyword of an import. -/
theorem declarationAt_upToImport (a : Atom) (following : List Atom) :
    declarationAt a (upToImport following) = declarationAt a following := by
  cases following with
  | nil => rfl
  | cons b more =>
    by_cases hb : b = .identifier "import"
    · -- the keyword stays in sight, and it is taken for a name but not for `interface`
      subst hb
      simp [upToImport, declarationAt]
    · simp [upToImport, declarationAt, hb, head?_upToImport, apply_ite List.head?]

/-- Reading the parts with these atoms ahead leads from open brackets, by their closers, to others
and declares this. -/
inductive Reads (ahead : List Atom) :
    List Char → List Part → List Char → List Declaration → Prop
  | nil {s : List Char} : Reads ahead s [] s []
  | gap {l : Lexeme} {s t : List Char} {ps : List Part} {ds : List Declaration} :
      l.kind = none → Reads ahead s ps t ds → Reads ahead s (.other l :: ps) t ds
  | token {l : Lexeme} {a : Atom} {s s' t : List Char} {ps : List Part} {ds : List Declaration} :
      l.atom? = some a → (s = [] → a ≠ .identifier "import") → closersAfter s a = some s' →
      Reads ahead s' ps t ds →
      Reads ahead s (.other l :: ps) t
        ((if s.isEmpty then declarationAt a (atomsOf (lexemesOf ps) ++ ahead) else none).toList ++
          ds)
  | clause {c : Clause} {ls : List Lexeme} {t : List Char} {ps : List Part}
      {ds : List Declaration} :
      c.Written ls → c.EndsBefore (atomsOf (lexemesOf ps) ++ ahead) → Reads ahead [] ps t ds →
      Reads ahead [] (.clause c ls :: ps) t ds

theorem outlineFrom_import {keyword : Token} {rest after : List Token} {i : Import}
    (hk : keyword.atom = .identifier "import")
    (h : importDeclaration keyword rest = .ok (i, after)) :
    outlineFrom [] (keyword :: rest) = (outlineFrom [] after).map (Outline.addImport i) := by
  rw [outlineFrom, if_pos (by simp [Token.isWord_iff.2 hk])]
  split
  · next hd => rw [h] at hd; contradiction
  · next i' after' hd =>
    rw [h] at hd
    obtain ⟨rfl, rfl⟩ := Prod.mk.inj (Except.ok.inj hd)
    rfl

theorem outlineFrom_malformed {keyword : Token} {rest : List Token} {fault : ImportFault}
    (hk : keyword.atom = .identifier "import")
    (h : importDeclaration keyword rest = .error fault) :
    outlineFrom [] (keyword :: rest) = .error (.malformedImport keyword.span.start fault) := by
  rw [outlineFrom, if_pos (by simp [Token.isWord_iff.2 hk])]
  split
  · next hd => rw [h] at hd; obtain rfl := Except.error.inj hd; rfl
  · next hd => rw [h] at hd; contradiction

theorem outlineFrom_fault {opened : List OpenBracket} {t : Token} {rest : List Token}
    {fault : OutlineFault} (hi : opened = [] → t.atom ≠ .identifier "import")
    (hb : bracketsAfter opened t = .error fault) :
    outlineFrom opened (t :: rest) = .error fault := by
  have hn : ¬(opened.isEmpty && t.isWord "import") := by
    rw [Bool.and_eq_true, List.isEmpty_iff, Token.isWord_iff]
    exact fun h => hi h.1 h.2
  rw [outlineFrom, if_neg hn, hb]

theorem outlineFrom_token {opened nowOpen : List OpenBracket} {t : Token} {rest : List Token}
    (hi : opened = [] → t.atom ≠ .identifier "import")
    (hb : bracketsAfter opened t = .ok nowOpen) :
    outlineFrom opened (t :: rest) = (outlineFrom nowOpen rest).map
      (Outline.addDeclaration (if opened.isEmpty then declaration? t rest else none)) := by
  have hn : ¬(opened.isEmpty && t.isWord "import") := by
    rw [Bool.and_eq_true, List.isEmpty_iff, Token.isWord_iff]
    exact fun h => hi h.1 h.2
  rw [outlineFrom, if_neg hn, hb]

theorem Clause.Written.ne_nil {c : Clause} {ls : List Lexeme} (written : c.Written ls) :
    ls ≠ [] := by
  rintro rfl
  simpa using written.keyword

theorem Clause.Written.exists_cons {c : Clause} {ls : List Lexeme} (written : c.Written ls) :
    ∃ more, ls = importKeyword :: more := List.head?_eq_some_iff.1 written.keyword

theorem importKeyword_atom : importKeyword.atom? = some (.identifier "import") := by decide

theorem Clause.Written.exists_place {c : Clause} {ls : List Lexeme} (written : c.Written ls)
    (offset : Nat) (rest : List Token) (ends : c.EndsBefore (rest.map Token.atom)) :
    ∃ keyword tokens, place offset ls = keyword :: tokens ∧
      keyword.atom = .identifier "import" ∧ importDeclaration keyword (tokens ++ rest) =
        .ok (⟨c.names, c.location, ⟨offset, offset + byteLength (rawText ls)⟩⟩, rest) := by
  obtain ⟨more, rfl⟩ := written.exists_cons
  obtain ⟨keyword, ha, hspan, hp⟩ := exists_place_of_atom offset importKeyword_atom
  have spelled := written.spelled
  rw [← map_atom_place offset, hp] at spelled
  obtain ⟨last, hlast, hd⟩ := importDeclaration_append rest spelled ends
  have hstop : last.span.stop = offset + byteLength (rawText (importKeyword :: more)) := by
    apply stop_of_place written.last
    rw [hp]
    simp [List.getLast?_cons, Option.mem_def.1 hlast]
  exact ⟨keyword, _, hp more, ha, by rw [hd, hstop, hspan]⟩

/-- Reading tokens in parts from open brackets goes on after them from the brackets they leave. -/
theorem outlineFrom_append {rest : List Token} {s t : List Char} {ps : List Part}
    {ds : List Declaration} (reads : Reads (rest.map Token.atom) s ps t ds) (offset : Nat)
    {opened : List OpenBracket} (hs : OpenBracket.closers opened = s) :
    ∃ nowOpen, OpenBracket.closers nowOpen = t ∧
      outlineFrom opened (place offset (lexemesOf ps) ++ rest) =
        (outlineFrom nowOpen rest).map fun o =>
          ⟨importsAt offset ps ++ o.imports, ds ++ o.declarations⟩ := by
  -- by the steps of the reading; each puts what it finds in front of what comes after it
  induction reads generalizing offset opened with
  | nil =>
    refine ⟨opened, hs, ?_⟩
    cases h : outlineFrom opened rest <;> simp [place, importsAt, h]
  | gap hk _ ih =>
    rw [lexemesOf_other, place_of_gap _ hk]
    exact ih _ hs
  | @token l a s s' t ps ds ha hi hc _ ih =>
    obtain ⟨token, rfl, -, hp⟩ := exists_place_of_atom offset ha
    subst hs
    obtain ⟨nowOpen, hb, hn⟩ := exists_bracketsAfter hc
    obtain ⟨lastOpen, ht, ho⟩ := ih (offset + byteLength l.raw) hn
    refine ⟨lastOpen, ht, ?_⟩
    rw [lexemesOf_other, hp, List.cons_append,
      outlineFrom_token (fun h => hi (by simp [h, OpenBracket.closers])) hb, ho,
      declaration?_eq, List.map_append, map_atom_place, map_map]
    congr 1
    funext o
    simp [Outline.addDeclaration, importsAt, OpenBracket.closers]
  | @clause c ls t ps ds written ends _ ih =>
    obtain rfl : opened = [] := by simpa [OpenBracket.closers] using hs
    obtain ⟨lastOpen, ht, ho⟩ := ih (offset + byteLength (rawText ls)) hs
    refine ⟨lastOpen, ht, ?_⟩
    obtain ⟨keyword, tokens, hp, ha, hd⟩ := written.exists_place offset
      (place (offset + byteLength (rawText ls)) (lexemesOf ps) ++ rest)
      (by rwa [List.map_append, map_atom_place])
    rw [lexemesOf_clause, place_append, hp, List.cons_append, List.cons_append, List.append_assoc,
      outlineFrom_import ha hd, ho, map_map]
    rfl

theorem eq_importKeyword {l : Lexeme} (h : l.atom? = some (.identifier "import")) :
    l = importKeyword := by
  obtain ⟨kind, raw⟩ := l
  obtain ⟨k, hk, ha⟩ := Option.map_eq_some_iff.1 h
  obtain rfl : kind = some k := hk
  cases k with
  | identifier =>
    have ht : String.ofList raw = "import" := by simpa [TokenKind.atom, Lexeme.text] using ha
    rw [importKeyword, ← ht, String.toList_ofList]
  | _ => simp [TokenKind.atom] at ha

theorem exists_of_outlineFrom_import {keyword : Token} {rest : List Token} {o : Outline}
    (hk : keyword.atom = .identifier "import")
    (h : outlineFrom [] (keyword :: rest) = .ok o) :
    ∃ i after more, importDeclaration keyword rest = .ok (i, after) ∧
      outlineFrom [] after = .ok more ∧ more.addImport i = o := by
  cases hd : importDeclaration keyword rest with
  | error fault => rw [outlineFrom_malformed hk hd] at h; contradiction
  | ok result =>
    rw [outlineFrom_import hk hd] at h
    obtain ⟨more, hm, ho⟩ := map_eq_ok_iff.1 h
    exact ⟨result.1, result.2, more, rfl, hm, ho⟩

theorem exists_of_outlineFrom_token {opened : List OpenBracket} {t : Token} {rest : List Token}
    {o : Outline} (hi : opened = [] → t.atom ≠ .identifier "import")
    (h : outlineFrom opened (t :: rest) = .ok o) :
    ∃ nowOpen more, bracketsAfter opened t = .ok nowOpen ∧ outlineFrom nowOpen rest = .ok more ∧
      more.addDeclaration (if opened.isEmpty then declaration? t rest else none) = o := by
  cases hb : bracketsAfter opened t with
  | error fault => rw [outlineFrom_fault hi hb] at h; contradiction
  | ok nowOpen =>
    rw [outlineFrom_token hi hb] at h
    obtain ⟨more, hm, ho⟩ := map_eq_ok_iff.1 h
    exact ⟨nowOpen, more, rfl, hm, ho⟩

/-- An import that is read is written by the lexemes up to its last token. -/
theorem exists_written {offset : Nat} {ls : List Lexeme} {keyword : Token} {after : List Token}
    {i : Import} (hk : keyword.atom = .identifier "import") (hs : keyword.span.start = offset)
    (h : importDeclaration keyword (place (offset + byteLength importKeyword.raw) ls) =
      .ok (i, after)) :
    ∃ a b, a ++ b = importKeyword :: ls ∧ i.clause.Written a ∧
      i.span = ⟨offset, offset + byteLength (rawText a)⟩ ∧
      place (offset + byteLength (rawText a)) b = after ∧ i.clause.EndsBefore (atomsOf b) := by
  obtain ⟨used, hu, spelled, ⟨last, hlast, hspan⟩, ends⟩ := exists_append_of_importDeclaration hk h
  obtain ⟨a, m, b, rfl, hm, hplace, hstop, hrest⟩ := exists_lexemes_of_place hu hlast
  have hb : byteLength importKeyword.raw + byteLength (rawText (a ++ [m])) =
      byteLength (rawText (importKeyword :: (a ++ [m]))) := by simp
  rw [Nat.add_assoc, hb] at hstop hrest
  refine ⟨importKeyword :: (a ++ [m]), b, by simp, ⟨rfl, ?_, ?_⟩, ?_, hrest, ?_⟩
  · intro l hl
    rw [← List.cons_append, List.getLast?_concat] at hl
    obtain rfl := Option.some.inj hl
    exact hm
  · rw [← hplace, List.map_cons, hk, map_atom_place] at spelled
    rwa [atomsOf_cons, importKeyword_atom]
  · rw [hspan, hs, hstop]
  · rwa [← hrest, map_atom_place] at ends

/-- Tokens that have an outline come from parts that are read. -/
theorem exists_parts_of_outlineFrom {ls : List Lexeme} {offset : Nat} {opened : List OpenBracket}
    {o : Outline} (h : outlineFrom opened (place offset ls) = .ok o) :
    ∃ ps, lexemesOf ps = ls ∧ Reads [] (OpenBracket.closers opened) ps [] o.declarations ∧
      importsAt offset ps = o.imports := by
  -- by length, for an import takes many lexemes at once
  induction hn : ls.length using Nat.strong_induction_on generalizing ls offset opened o with
  | _ n ih =>
  subst hn
  cases ls with
  | nil =>
    cases opened with
    | nil =>
      obtain rfl : _ = o := by simpa [place, outlineFrom] using h
      exact ⟨[], rfl, .nil, rfl⟩
    | cons last opened => simp [place, outlineFrom] at h
  | cons l ls =>
    cases ha : l.atom? with
    | none =>
      have hk : l.kind = none := by simpa [Lexeme.atom?] using ha
      rw [place_of_gap _ hk] at h
      obtain ⟨ps, rfl, reads, imports⟩ := ih _ (by simp) h rfl
      exact ⟨.other l :: ps, rfl, .gap hk reads, imports⟩
    | some a =>
      obtain ⟨token, rfl, hspan, hp⟩ := exists_place_of_atom offset ha
      rw [hp] at h
      by_cases hi : opened = [] ∧ token.atom = .identifier "import"
      · obtain ⟨rfl, hi⟩ := hi
        obtain ⟨i, after, more, hd, hm, rfl⟩ := exists_of_outlineFrom_import hi h
        obtain rfl := eq_importKeyword (hi ▸ ha)
        obtain ⟨a, b, hab, written, hspan, rfl, ends⟩ := exists_written hi (by rw [hspan]) hd
        have hlen : b.length < (importKeyword :: ls).length := by
          have := List.length_pos_iff.2 written.ne_nil
          rw [← hab, List.length_append]
          omega
        obtain ⟨ps, rfl, reads, imports⟩ := ih _ hlen hm rfl
        refine ⟨.clause i.clause a :: ps, hab, .clause written (by simpa using ends) reads, ?_⟩
        simp [importsAt, imports, Outline.addImport, Import.clause, ← hspan]
      · obtain ⟨nowOpen, more, hb, hm, rfl⟩ :=
          exists_of_outlineFrom_token (fun ho ht => hi ⟨ho, ht⟩) h
        obtain ⟨ps, rfl, reads, imports⟩ := ih _ (by simp) hm rfl
        have hr := Reads.token ha (fun hs ht => hi ⟨by simpa [OpenBracket.closers] using hs, ht⟩)
          (closersAfter_of_bracketsAfter hb) reads
        refine ⟨.other l :: ps, rfl, ?_, imports⟩
        simpa [Outline.addDeclaration, declaration?_eq, map_atom_place, OpenBracket.closers]
          using hr

/-- The parts of a source that is read without a fault and declares this. -/
structure Whole (parts : List Part) (declarations : List Declaration) : Prop where
  lexed : Lexed [] (lexemesOf parts)
  reads : Reads [] [] parts [] declarations

/-- The outline of a source in parts is that of the parts. -/
theorem Whole.parse {ps : List Part} {ds : List Declaration} (whole : Whole ps ds) :
    Outline.parse (textOf ps) = .ok ⟨importsAt 0 ps, ds⟩ := by
  have hl : lexemes (textOf ps) = .ok (lexemesOf ps) :=
    lexemesFrom_eq_ok_iff.2 ⟨whole.lexed, rfl⟩
  have reads : Reads (([] : List Token).map Token.atom) [] ps [] ds := whole.reads
  obtain ⟨nowOpen, hn, ho⟩ := outlineFrom_append reads 0 (List.map_nil (f := OpenBracket.close))
  obtain rfl : nowOpen = [] := by simpa [OpenBracket.closers] using hn
  rw [List.append_nil] at ho
  simp [Outline.parse, tokens, hl, ho, outlineFrom]

/-- A source that has an outline falls into parts that it is the outline of. -/
theorem exists_whole_of_parse {source : List Char} {o : Outline}
    (h : Outline.parse source = .ok o) :
    ∃ ps, Whole ps o.declarations ∧ textOf ps = source ∧ importsAt 0 ps = o.imports := by
  unfold Outline.parse tokens at h
  cases hl : lexemes source with
  | error fault => simp [hl] at h
  | ok ls =>
    simp only [hl, map_ok] at h
    obtain ⟨lexed, raw⟩ := lexemesFrom_eq_ok_iff.1 hl
    obtain ⟨ps, rfl, reads, imports⟩ := exists_parts_of_outlineFrom h
    exact ⟨ps, ⟨lexed, reads⟩, raw, imports⟩

end ContractProject.Cadence
