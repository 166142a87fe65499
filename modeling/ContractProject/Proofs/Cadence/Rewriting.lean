import ContractProject.Proofs.Cadence.Reading

/-!
Exchanging the imports of a source in parts for other parts. On the text this is a splice of the
spans of the imports, and if what is put in their places fits there, the source is read as before
but for its imports.
-/

namespace ContractProject.Cadence

open Text (byteLength Edit spliceFrom splice)

def clausesOf (parts : List Part) : List Clause := parts.filterMap Part.clause?

@[simp] theorem clausesOf_nil : clausesOf [] = [] := rfl

@[simp] theorem clausesOf_clause (c : Clause) (ls : List Lexeme) (ps : List Part) :
    clausesOf (.clause c ls :: ps) = c :: clausesOf ps := rfl

@[simp] theorem clausesOf_other (l : Lexeme) (ps : List Part) :
    clausesOf (.other l :: ps) = clausesOf ps := rfl

@[simp] theorem clausesOf_append (a b : List Part) :
    clausesOf (a ++ b) = clausesOf a ++ clausesOf b := List.filterMap_append

theorem exists_of_mem_clausesOf {c : Clause} {ps : List Part} (h : c ∈ clausesOf ps) :
    ∃ ls, Part.clause c ls ∈ ps := by
  obtain ⟨p, hp, hc⟩ := List.mem_filterMap.1 h
  cases p with
  | clause d ls =>
    obtain rfl : d = c := Option.some.inj hc
    exact ⟨ls, hp⟩
  | other l => contradiction

/-- Puts new parts in the place of the imports that `f` has some for. -/
def rewrite (f : Clause → Option (List Part)) : List Part → List Part
  | [] => []
  | .clause c ls :: ps => (f c).getD [.clause c ls] ++ rewrite f ps
  | .other l :: ps => .other l :: rewrite f ps

section Rewrite

variable {f g : Clause → Option (List Part)}

@[simp] theorem rewrite_nil : rewrite f [] = [] := rfl

@[simp] theorem rewrite_clause (c : Clause) (ls : List Lexeme) (ps : List Part) :
    rewrite f (.clause c ls :: ps) = (f c).getD [.clause c ls] ++ rewrite f ps := rfl

@[simp] theorem rewrite_other (l : Lexeme) (ps : List Part) :
    rewrite f (.other l :: ps) = .other l :: rewrite f ps := rfl

theorem rewrite_append (a b : List Part) : rewrite f (a ++ b) = rewrite f a ++ rewrite f b := by
  induction a with
  | nil => rfl
  | cons p a ih => cases p <;> simp [ih]

theorem rewrite_eq_self {ps : List Part} (h : ∀ c ∈ clausesOf ps, f c = none) :
    rewrite f ps = ps := by
  induction ps with
  | nil => rfl
  | cons p ps ih =>
    cases p with
    | clause c ls =>
      have hc : f c = none := h c (by simp)
      simp [hc, ih fun d hd => h d (by simp [hd])]
    | other l => simp [ih h]

theorem rewrite_congr {ps : List Part} (h : ∀ c ∈ clausesOf ps, f c = g c) :
    rewrite f ps = rewrite g ps := by
  induction ps with
  | nil => rfl
  | cons p ps ih =>
    cases p with
    | clause c ls => simp [h c (by simp), ih fun d hd => h d (by simp [hd])]
    | other l => simp [ih h]

/-- Rewritings that write each import alike write the whole alike. -/
theorem textOf_rewrite_congr {ps : List Part}
    (h : ∀ c ls, Part.clause c ls ∈ ps →
      textOf ((f c).getD [.clause c ls]) = textOf ((g c).getD [.clause c ls])) :
    textOf (rewrite f ps) = textOf (rewrite g ps) := by
  induction ps with
  | nil => rfl
  | cons p ps ih =>
    have hps := ih fun c ls hm => h c ls (by simp [hm])
    cases p with
    | clause c ls =>
      rw [rewrite_clause, rewrite_clause, textOf_append, textOf_append, hps, h c ls (by simp)]
    | other l => rw [rewrite_other, rewrite_other, textOf_other, textOf_other, hps]

/-- Rewriting twice rewrites once: what `f` puts in is rewritten by `g`, what it leaves is too. -/
theorem rewrite_rewrite (f g : Clause → Option (List Part)) (ps : List Part) :
    rewrite g (rewrite f ps) = rewrite (fun c => (f c).map (rewrite g) <|> g c) ps := by
  induction ps with
  | nil => rfl
  | cons p ps ih =>
    cases p with
    | clause c ls => cases hc : f c <;> simp [rewrite_append, hc, ih]
    | other l => simp [ih]

theorem clausesOf_rewrite (f : Clause → Option (List Part)) (ps : List Part) :
    clausesOf (rewrite f ps) = (clausesOf ps).flatMap fun c => ((f c).map clausesOf).getD [c] := by
  induction ps with
  | nil => rfl
  | cons p ps ih =>
    cases p with
    | clause c ls => cases hc : f c <;> simp [hc, ih]
    | other l => simp [ih]

/-- The edits of the imports that `f` has something for. -/
def editsOf (f : Clause → Option (List Part)) (imports : List Import) : List Edit :=
  imports.filterMap fun i => (f i.clause).map fun new => ⟨i.span, textOf new⟩

/-- The edits among parts are carried out behind a text that has been passed without one. -/
theorem spliceFrom_editsOf (f : Clause → Option (List Part)) (ps : List Part) (position : Nat)
    (passed : List Char) :
    spliceFrom position (passed ++ textOf ps)
        (editsOf f (importsAt (position + byteLength passed) ps)) =
      passed ++ textOf (rewrite f ps) := by
  -- what is kept joins the text that has been passed; after an edit that text is empty again
  induction ps generalizing position passed with
  | nil => simp [importsAt, editsOf, spliceFrom]
  | cons p ps ih =>
    cases p with
    | other l =>
      have := ih position (passed ++ l.raw)
      simpa [importsAt, Nat.add_assoc] using this
    | clause c ls =>
      cases hc : f c with
      | none =>
        have := ih position (passed ++ rawText ls)
        simpa [importsAt, editsOf, Import.clause, hc, Nat.add_assoc] using this
      | some new =>
        have hn := ih (position + byteLength passed + byteLength (rawText ls)) []
        rw [Text.byteLength_nil, Nat.add_zero, List.nil_append] at hn
        have he : editsOf f (importsAt (position + byteLength passed) (.clause c ls :: ps)) =
            ⟨⟨position + byteLength passed, position + byteLength passed + byteLength (rawText ls)⟩,
              textOf new⟩ ::
            editsOf f (importsAt (position + byteLength passed + byteLength (rawText ls)) ps) := by
          simp [importsAt, editsOf, Import.clause, hc]
        rw [textOf_clause, he, Text.spliceFrom_edit, hn]
        simp [hc]

theorem splice_editsOf (f : Clause → Option (List Part)) (ps : List Part) :
    splice (textOf ps) (editsOf f (importsAt 0 ps)) = textOf (rewrite f ps) := by
  simpa [splice] using spliceFrom_editsOf f ps 0 []

end Rewrite

theorem reads_append {ahead : List Atom} {a b : List Part} {s t u : List Char}
    {ds es : List Declaration} (ha : Reads (atomsOf (lexemesOf b) ++ ahead) s a t ds)
    (hb : Reads ahead t b u es) : Reads ahead s (a ++ b) u (ds ++ es) := by
  induction ha with
  | nil => exact hb
  | gap hk _ ih => exact .gap hk (ih hb)
  | token hl hi hc _ ih =>
    have := Reads.token hl hi hc (ih hb)
    rwa [lexemesOf_append, atomsOf_append, List.append_assoc, ← List.append_assoc] at this
  | clause written ends _ ih =>
    refine .clause written ?_ (ih hb)
    rwa [List.append_eq, lexemesOf_append, atomsOf_append, List.append_assoc]

/-- Reading a sequence of parts is reading its front and then its back. -/
theorem exists_reads_of_append {ahead : List Atom} {a b : List Part} {s u : List Char}
    {ds : List Declaration} (h : Reads ahead s (a ++ b) u ds) :
    ∃ t front back, Reads (atomsOf (lexemesOf b) ++ ahead) s a t front ∧ Reads ahead t b u back ∧
      front ++ back = ds := by
  induction a generalizing s ds with
  | nil => exact ⟨s, [], ds, .nil, h, rfl⟩
  | cons p a ih =>
    cases h with
    | gap hk h =>
      obtain ⟨t, front, back, ha, hb, rfl⟩ := ih h
      exact ⟨t, front, back, .gap hk ha, hb, rfl⟩
    | token hl hi hc h =>
      obtain ⟨t, front, back, ha, hb, rfl⟩ := ih h
      refine ⟨t, _, back, .token hl hi hc ha, hb, ?_⟩
      rw [List.append_eq, lexemesOf_append, atomsOf_append, List.append_assoc, List.append_assoc]
    | clause written ends h =>
      obtain ⟨t, front, back, ha, hb, rfl⟩ := ih h
      rw [List.append_eq, lexemesOf_append, atomsOf_append, List.append_assoc] at ends
      exact ⟨t, front, back, .clause written ends ha, hb, rfl⟩

theorem upToImport_append {a b : List Atom} (atoms : List Atom)
    (h : upToImport a = upToImport b) : upToImport (atoms ++ a) = upToImport (atoms ++ b) := by
  induction atoms with
  | nil => exact h
  | cons c atoms ih => simp [upToImport, ih]

theorem Clause.EndsBefore.congr {c : Clause} {a b : List Atom} (h : c.EndsBefore a)
    (same : upToImport a = upToImport b) : c.EndsBefore b := by
  unfold Clause.EndsBefore
  rwa [← head?_upToImport, ← same, head?_upToImport]

/-- What is read of parts depends on the atoms ahead up to the next import only. -/
theorem Reads.congr {a b : List Atom} {s t : List Char} {ps : List Part} {ds : List Declaration}
    (h : Reads a s ps t ds) (same : upToImport a = upToImport b) : Reads b s ps t ds := by
  induction h with
  | nil => exact .nil
  | gap hk _ ih => exact .gap hk ih
  | token hl hi hc _ ih =>
    -- a declaration looks ahead, but not past the keyword of an import
    rw [← declarationAt_upToImport, upToImport_append _ same, declarationAt_upToImport]
    exact .token hl hi hc ih
  | clause written ends _ ih => exact .clause written (ends.congr (upToImport_append _ same)) ih

theorem clauses_written {ahead : List Atom} {s t : List Char} {ps : List Part}
    {ds : List Declaration} (h : Reads ahead s ps t ds) :
    ∀ c ls, Part.clause c ls ∈ ps → c.Written ls := by
  induction h with
  | nil => simp
  | gap _ _ ih => simpa using ih
  | token _ _ _ _ ih => simpa using ih
  | clause written _ _ ih =>
    intro c ls hm
    rcases List.mem_cons.1 hm with he | hm
    · obtain ⟨rfl, rfl⟩ := Part.clause.inj he
      exact written
    · exact ih c ls hm

/-- Parts that can stand where an import does: they begin as it does and are read as a whole
whatever follows. -/
structure Standalone (new : List Part) : Prop where
  keyword : (lexemesOf new).head? = some importKeyword
  reads : ∀ ahead, Reads ahead [] new [] []

section Standalone

variable {f : Clause → Option (List Part)}

theorem upToImport_rewrite {ps : List Part} {ahead : List Atom}
    (written : ∀ c ls, Part.clause c ls ∈ ps → c.Written ls)
    (fits : ∀ c ∈ clausesOf ps, ∀ new ∈ f c, Standalone new) :
    upToImport (atomsOf (lexemesOf (rewrite f ps)) ++ ahead) =
      upToImport (atomsOf (lexemesOf ps) ++ ahead) := by
  induction ps with
  | nil => rfl
  | cons p ps ih =>
    cases p with
    | other l =>
      have := ih (fun c ls hm => written c ls (by simp [hm])) fits
      rw [rewrite_other, lexemesOf_other, lexemesOf_other, atomsOf_cons, atomsOf_cons,
        List.append_assoc, List.append_assoc]
      exact upToImport_append _ this
    | clause c ls =>
      -- both go on with the keyword of an import, and no further
      have hold : (lexemesOf (.clause c ls :: ps)).head? = some importKeyword := by
        obtain ⟨more, rfl⟩ := (written c ls (by simp)).exists_cons
        rfl
      have hnew : (lexemesOf (rewrite f (.clause c ls :: ps))).head? = some importKeyword := by
        cases hc : f c with
        | none =>
          obtain ⟨more, rfl⟩ := (written c ls (by simp)).exists_cons
          simp [hc]
        | some new => simp [hc, List.head?_append, (fits c (by simp) new hc).keyword]
      obtain ⟨a, ha⟩ := List.head?_eq_some_iff.1 hold
      obtain ⟨b, hb⟩ := List.head?_eq_some_iff.1 hnew
      rw [ha, hb]
      simp [atomsOf_cons, importKeyword_atom, upToImport]

/-- Rewriting imports keeps how the parts are read. -/
theorem Reads.rewritten {ahead : List Atom} {s t : List Char} {ps : List Part}
    {ds : List Declaration} (h : Reads ahead s ps t ds)
    (fits : ∀ c ∈ clausesOf ps, ∀ new ∈ f c, Standalone new) :
    Reads ahead s (rewrite f ps) t ds := by
  have written := clauses_written h
  induction h with
  | nil => exact .nil
  | gap hk h ih => exact .gap hk (ih fits (clauses_written h))
  | token hl hi hc h ih =>
    rw [← declarationAt_upToImport, ← upToImport_rewrite (clauses_written h) fits,
      declarationAt_upToImport]
    exact .token hl hi hc (ih fits (clauses_written h))
  | @clause c ls t ps ds hw ends h ih =>
    have hps : ∀ d ∈ clausesOf ps, ∀ new ∈ f d, Standalone new :=
      fun d hd => fits d (by simp [hd])
    have hr := ih hps (clauses_written h)
    cases hc : f c with
    | none =>
      have he := ends.congr (upToImport_rewrite (clauses_written h) hps).symm
      simpa [hc] using Reads.clause hw he hr
    | some new => simpa [hc] using reads_append ((fits c (by simp) new hc).reads _) hr

/-- What `f` has for an import is read where the import stands, with this text behind the parts. -/
def FitsIn (f : Clause → Option (List Part)) (ps : List Part) (after : List Char) : Prop :=
  ∀ a c ls b new, ps = a ++ .clause c ls :: b → f c = some new →
    Lexed (textOf b ++ after) (lexemesOf new)

theorem fitsIn_cons {p : Part} {ps : List Part} {after : List Char} :
    FitsIn f (p :: ps) after ↔
      (∀ c ls new, p = .clause c ls → f c = some new → Lexed (textOf ps ++ after) (lexemesOf new)) ∧
        FitsIn f ps after := by
  constructor
  · intro h
    refine ⟨?_, ?_⟩
    · rintro c ls new rfl hf
      exact h [] c ls ps new rfl hf
    · rintro a c ls b new rfl hf
      exact h (p :: a) c ls b new rfl hf
  · rintro ⟨hp, hps⟩ a c ls b new he hf
    cases a with
    | nil =>
      obtain ⟨rfl, rfl⟩ := List.cons.inj he
      exact hp c ls new rfl hf
    | cons q a =>
      obtain ⟨rfl, rfl⟩ := List.cons.inj he
      exact hps a c ls b new rfl hf

theorem head?_textOf_rewrite {ps : List Part} (after : List Char)
    (written : ∀ c ls, Part.clause c ls ∈ ps → c.Written ls)
    (fits : ∀ c ∈ clausesOf ps, ∀ new ∈ f c, Standalone new) :
    (textOf (rewrite f ps) ++ after).head? = (textOf ps ++ after).head? := by
  induction ps with
  | nil => rfl
  | cons p ps ih =>
    cases p with
    | other l =>
      have := ih (fun c ls hm => written c ls (by simp [hm])) fits
      simp only [rewrite_other, textOf_other, List.append_assoc, List.head?_append, this]
    | clause c ls =>
      obtain ⟨more, rfl⟩ := (written c ls (by simp)).exists_cons
      cases hc : f c with
      | none => simp [hc, importKeyword]
      | some new =>
        obtain ⟨b, hb⟩ := List.head?_eq_some_iff.1 (fits c (by simp) new hc).keyword
        simp [hc, textOf, hb, importKeyword]

/-- Rewriting imports by what fits keeps the other lexemes as they are read. -/
theorem Lexed.rewritten {after : List Char} {ps : List Part} (h : Lexed after (lexemesOf ps))
    (written : ∀ c ls, Part.clause c ls ∈ ps → c.Written ls)
    (fits : ∀ c ∈ clausesOf ps, ∀ new ∈ f c, Standalone new) (fitsIn : FitsIn f ps after) :
    Lexed after (lexemesOf (rewrite f ps)) := by
  induction ps with
  | nil => trivial
  | cons p ps ih =>
    have hw : ∀ c ls, Part.clause c ls ∈ ps → c.Written ls :=
      fun c ls hm => written c ls (by simp [hm])
    cases p with
    | other l =>
      obtain ⟨valid, ends, lexed⟩ := h
      -- whether a lexeme ends depends on the next character, which stays
      have hhead := head?_textOf_rewrite after hw fits
      exact ⟨valid, ends.congr hhead.symm, ih lexed hw fits (fitsIn_cons.1 fitsIn).2⟩
    | clause c ls =>
      obtain ⟨hold, lexed⟩ : Lexed (textOf ps ++ after) ls ∧ Lexed after (lexemesOf ps) :=
        lexed_append.1 h
      have hps : ∀ d ∈ clausesOf ps, ∀ new ∈ f d, Standalone new :=
        fun d hd => fits d (by simp [hd])
      have hhead := (head?_textOf_rewrite after hw hps).symm
      rw [rewrite_clause, lexemesOf_append, lexed_append]
      refine ⟨?_, ih lexed hw hps (fitsIn_cons.1 fitsIn).2⟩
      cases hc : f c with
      | none =>
        rw [Option.getD_none, lexemesOf_clause, lexemesOf_nil, List.append_nil]
        exact hold.congr hhead
      | some new => exact (fitsIn [] c ls ps new rfl hc).congr hhead

/-- A source whose imports are rewritten by what fits has the same declarations. -/
theorem Whole.rewritten {ps : List Part} {ds : List Declaration} (whole : Whole ps ds)
    (fits : ∀ c ∈ clausesOf ps, ∀ new ∈ f c, Standalone new) (fitsIn : FitsIn f ps []) :
    Whole (rewrite f ps) ds where
  lexed := whole.lexed.rewritten (clauses_written whole.reads) fits fitsIn
  reads := whole.reads.rewritten fits

/-- What does not fit has a first place where it does not. -/
theorem fitsIn_or_exists (f : Clause → Option (List Part)) (ps : List Part) (after : List Char) :
    FitsIn f ps after ∨ ∃ a c ls b new, ps = a ++ .clause c ls :: b ∧ f c = some new ∧
      FitsIn f a (textOf (.clause c ls :: b) ++ after) ∧
      ¬ Lexed (textOf b ++ after) (lexemesOf new) := by
  induction ps with
  | nil => exact .inl fun a c ls b new he => by simp at he
  | cons p ps ih =>
    by_cases hp : ∀ c ls new, p = .clause c ls → f c = some new →
        Lexed (textOf ps ++ after) (lexemesOf new)
    · rcases ih with hps | ⟨a, c, ls, b, new, rfl, hf, hfit, hn⟩
      · exact .inl (fitsIn_cons.2 ⟨hp, hps⟩)
      · refine .inr ⟨p :: a, c, ls, b, new, rfl, hf, fitsIn_cons.2 ⟨?_, hfit⟩, hn⟩
        simpa using hp
    · push Not at hp
      obtain ⟨c, ls, new, rfl, hf, hn⟩ := hp
      exact .inr ⟨[], c, ls, ps, new, rfl, hf, fun a c ls b new he => by simp at he, hn⟩

end Standalone

end ContractProject.Cadence
