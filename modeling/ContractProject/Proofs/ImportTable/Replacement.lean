import ContractProject.Proofs.Cadence.Deployed
import ContractProject.Proofs.Cadence.Program
import ContractProject.Proofs.ImportTable.Binding

/-!
Replacing the unresolved imports of a program. Location after location is replaced and the code read
again; together that rewrites all of them at once, and fails at the first location with imports that
its address runs into what follows.
-/

namespace ContractProject.ImportTable

open Cadence

/-- One location is replaced by rewriting its imports and reading the new code, if it has any. -/
theorem replaceImport_cases {p : Program} {qs : List Part} (made : p.MadeOf qs) (t : ImportTable)
    (location : String) (a : Address) :
    (rewrite (t.deployFrom location a) qs = qs ∧
      p.replaceImport location a (some (t.canonicalName location)) = (p, .ok ())) ∨
    p.replaceImport location a (some (t.canonicalName location)) =
      p.withCode (textOf (rewrite (t.deployFrom location a) qs)) := by
  unfold Program.replaceImport
  rw [editsOf_deployFrom, ← made.code, ← splice_editsOf, made.imports]
  by_cases hedits : editsOf (t.deployFrom location a) p.outline.imports = []
  · have hsame : rewrite (t.deployFrom location a) qs = qs := by
      apply rewrite_eq_self
      intro c hc
      rw [← made.clauses] at hc
      obtain ⟨i, hi, rfl⟩ := List.mem_map.1 hc
      simpa using List.filterMap_eq_nil_iff.1 hedits i hi
    exact .inl ⟨hsame, by simp [hedits]⟩
  · exact .inr (by simp [hedits])

/-- Replacing a location gives the rewritten program if that can be read. -/
theorem replaceImport_of_whole {p : Program} {qs : List Part} (made : p.MadeOf qs) {t : ImportTable}
    {location : String} {a : Address}
    (whole : Whole (rewrite (t.deployFrom location a) qs) p.outline.declarations) :
    ∃ q, p.replaceImport location a (some (t.canonicalName location)) = (q, .ok ()) ∧
      q.MadeOf (rewrite (t.deployFrom location a) qs) ∧ q.SameButImports p := by
  rcases replaceImport_cases made t location a with ⟨hsame, hp⟩ | hp
  · exact ⟨p, hp, hsame.symm ▸ made, .refl p⟩
  · rw [hp]
    exact p.withCode_textOf whole

/-- Replacing a location fails if the rewritten program cannot be read, and leaves its code. -/
theorem replaceImport_of_fault {p : Program} {qs : List Part} (made : p.MadeOf qs) {t : ImportTable}
    {location : String} {a : Address} {fault : OutlineFault}
    (hfault : Outline.parse (textOf (rewrite (t.deployFrom location a) qs)) = .error fault) :
    ∃ q, p.replaceImport location a (some (t.canonicalName location)) =
        (q, .error (.program p.location (.outline fault))) ∧
      Outline.parse q.code = .error fault := by
  rcases replaceImport_cases made t location a with ⟨hsame, -⟩ | hp
  · rw [hsame, made.code, made.parse] at hfault
    contradiction
  · rw [hp, Program.withCode, hfault]
    exact ⟨_, rfl, hfault⟩

theorem resolve_eq_error {t : ImportTable} {importer location : String} {e : Error}
    (h : t.resolve importer location = .error e) : e = .unresolvedImport location := by
  unfold resolve at h
  split at h
  · contradiction
  · split at h
    · contradiction
    · exact (Except.error.inj h).symm

theorem resolveAll_eq_ok {t : ImportTable} {importer : String} {locations : List String}
    {resolved : List (String × Address)} (h : t.resolveAll importer locations = .ok resolved) :
    resolved.map Prod.fst = locations ∧ ∀ r ∈ resolved, t.resolve importer r.1 = .ok r.2 := by
  induction locations generalizing resolved with
  | nil =>
    obtain rfl := Except.ok.inj h
    simp
  | cons location rest ih =>
    unfold resolveAll at h
    split at h
    · contradiction
    · next a ha =>
      obtain ⟨more, hmore, rfl⟩ := map_eq_ok_iff.1 h
      obtain ⟨hfst, hall⟩ := ih hmore
      exact ⟨by simp [hfst], by simpa [ha] using hall⟩

theorem resolveAll_eq_error {t : ImportTable} {importer : String} {locations : List String}
    {e : Error} (h : t.resolveAll importer locations = .error e) :
    ∃ location ∈ locations, t.resolve importer location = .error e := by
  induction locations with
  | nil => contradiction
  | cons location rest ih =>
    unfold resolveAll at h
    split at h
    · next e' he =>
      obtain rfl := Except.error.inj h
      exact ⟨location, by simp, he⟩
    · cases hrest : t.resolveAll importer rest with
      | ok more => simp [hrest] at h
      | error e' =>
        obtain rfl : e' = e := by simpa [hrest] using h
        obtain ⟨l, hl, he⟩ := ih hrest
        exact ⟨l, by simp [hl], he⟩

theorem replaceAll_cons (t : ImportTable) (p : Program) (location : String) (a : Address)
    (rest : List (String × Address)) :
    t.replaceAll p ((location, a) :: rest) =
      match p.replaceImport location a (some (t.canonicalName location)) with
      | (p, .error e) => (p, .error e)
      | (p, .ok ()) => t.replaceAll p rest := rfl

theorem replaceImport_eq_withCode (p : Program) (location : String) (a : Address)
    (canonical : Option String) :
    p.replaceImport location a canonical = (p, .ok ()) ∨
      ∃ code, p.replaceImport location a canonical = p.withCode code := by
  unfold Program.replaceImport
  dsimp only
  split
  · exact .inl rfl
  · exact .inr ⟨_, rfl⟩

/-- A replacement that stops has put code in place that cannot be read. -/
theorem replaceAll_error {t : ImportTable} {p q : Program} {resolved : List (String × Address)}
    {e : Error} (h : t.replaceAll p resolved = (q, .error e)) :
    ∃ fault, e = .program p.location (.outline fault) ∧ Outline.parse q.code = .error fault := by
  induction resolved generalizing p with
  | nil => cases h
  | cons r rest ih =>
    obtain ⟨location, a⟩ := r
    rw [replaceAll_cons] at h
    have step := replaceImport_eq_withCode p location a (some (t.canonicalName location))
    cases hstep : p.replaceImport location a (some (t.canonicalName location)) with
    | mk q' result =>
      rw [hstep] at h step
      cases result with
      | error e' =>
        obtain ⟨rfl, he⟩ := Prod.mk.inj h
        obtain rfl := Except.error.inj he
        rcases step with h | ⟨code, hcode⟩
        · cases h
        · exact Program.withCode_error hcode.symm
      | ok _ =>
        have hloc : q'.location = p.location := by
          rcases step with h | ⟨code, hcode⟩
          · rw [(Prod.mk.inj h).1]
          · exact Program.withCode_ok hcode.symm
        rw [← hloc]
        exact ih h

section Run

variable {t : ImportTable} {importer : String} {ps : List Part} {ds : List Declaration}

theorem deploys_deployAll (whole : Whole ps ds) (named : t.Named (clausesOf ps))
    (locations : List String) : Deploys (t.deployAll importer locations) ps := by
  intro c hc new hnew
  obtain ⟨ls, hls⟩ := exists_of_mem_clausesOf hc
  obtain ⟨location, a, hloc, -, -, rfl⟩ := exists_of_deployAll hnew
  exact ⟨_, a, boundNames_ne_nil t location c.names,
    boundNames_isName (named c hc location hloc) (whole.isName hls), rfl⟩

theorem apart_of_append {a b : List String} (h : Apart (t.deployAll importer (a ++ b)) ps) :
    Apart (t.deployAll importer a) ps := by
  intro before c ls after hps hc
  apply h before c ls after hps
  obtain ⟨new, hnew⟩ := Option.ne_none_iff_exists'.1 hc
  obtain ⟨location, target, hloc, hmem, htarget, -⟩ := exists_of_deployAll hnew
  obtain ⟨names, _⟩ := c
  subst hloc
  rw [deployAll_of_string (by simp [hmem]) htarget]
  simp

/-- One location after the other is replaced as long as no import is followed by more of a
number. -/
theorem replaceAll_of_apart (whole : Whole ps ds) (named : t.Named (clausesOf ps))
    {resolved : List (String × Address)}
    (addresses : ∀ r ∈ resolved, t.resolve importer r.1 = .ok r.2) {done : List String}
    {p : Program} (made : p.MadeOf (rewrite (t.deployAll importer done) ps))
    (declared : p.outline.declarations = ds)
    (apart : Apart (t.deployAll importer (done ++ resolved.map Prod.fst)) ps) :
    ∃ q, t.replaceAll p resolved = (q, .ok ()) ∧
      q.MadeOf (rewrite (t.deployAll importer (done ++ resolved.map Prod.fst)) ps) ∧
      q.SameButImports p := by
  -- the program is always the first one with the locations so far rewritten at once
  induction resolved generalizing done p with
  | nil => exact ⟨p, rfl, by simpa using made, .refl p⟩
  | cons r rest ih =>
    obtain ⟨location, a⟩ := r
    have ha : t.resolve importer location = .ok a := addresses (location, a) (by simp)
    rw [List.map_cons, List.append_cons] at apart ⊢
    have hwhole := (deploys_deployAll whole named (done ++ [location])).whole whole
      (apart_of_append apart)
    rw [← rewrite_deployFrom ha done ps, ← declared] at hwhole
    obtain ⟨q, hq, hmade, hsame⟩ := replaceImport_of_whole made hwhole
    rw [rewrite_deployFrom ha done ps] at hmade
    obtain ⟨r, hr, hrmade, hrsame⟩ := ih (fun s hs => addresses s (by simp [hs])) hmade
      (hsame.declarations.trans declared) apart
    refine ⟨r, ?_, hrmade, hrsame.trans hsame⟩
    rw [replaceAll_cons, hq]
    exact hr

/-- The first location that has an import followed by more of a number stops the replacement. -/
theorem replaceAll_of_not_apart (whole : Whole ps ds) (named : t.Named (clausesOf ps))
    {resolved : List (String × Address)}
    (addresses : ∀ r ∈ resolved, t.resolve importer r.1 = .ok r.2) {done : List String}
    {p : Program} (made : p.MadeOf (rewrite (t.deployAll importer done) ps))
    (declared : p.outline.declarations = ds) (apart : Apart (t.deployAll importer done) ps)
    (glued : ¬ Apart (t.deployAll importer (done ++ resolved.map Prod.fst)) ps) :
    ∃ q e, t.replaceAll p resolved = (q, .error e) := by
  -- as long as it goes well the same holds of the program as in `replaceAll_of_apart`
  induction resolved generalizing done p with
  | nil => exact absurd apart (by simpa using glued)
  | cons r rest ih =>
    obtain ⟨location, a⟩ := r
    have ha : t.resolve importer location = .ok a := addresses (location, a) (by simp)
    have deploys : Deploys (t.deployAll importer (done ++ [location])) ps :=
      deploys_deployAll whole named (done ++ [location])
    rw [List.map_cons, List.append_cons] at glued
    by_cases hnow : Apart (t.deployAll importer (done ++ [location])) ps
    · have hwhole := deploys.whole whole hnow
      rw [← rewrite_deployFrom ha done ps, ← declared] at hwhole
      obtain ⟨q, hq, hmade, hsame⟩ := replaceImport_of_whole made hwhole
      rw [rewrite_deployFrom ha done ps] at hmade
      obtain ⟨r, e, hr⟩ := ih (fun s hs => addresses s (by simp [hs])) hmade
        (hsame.declarations.trans declared) hnow glued
      refine ⟨r, e, ?_⟩
      rw [replaceAll_cons, hq]
      exact hr
    · obtain ⟨fault, hfault⟩ := deploys.exists_fault whole hnow
      rw [← rewrite_deployFrom ha done ps] at hfault
      obtain ⟨q, hq, -⟩ := replaceImport_of_fault made hfault
      exact ⟨q, _, by rw [replaceAll_cons, hq]⟩

end Run

theorem mem_unresolved {p : Program} {i : Import} (hi : i ∈ p.outline.imports) {l : String}
    (h : i.clause.location = .string l) : l ∈ p.unresolved := by
  refine List.mem_filterMap.2 ⟨i, hi, ?_⟩
  have hloc : i.location = .string l := h
  simp [Import.path?, hloc]

/-- Whether an import by path is followed at once by an ASCII letter or digit or an underscore,
which would be read as part of the address that replaces the path. -/
def isCrowded (p : Program) (i : Import) : Bool :=
  i.path?.isSome && ((Text.splitAtByte i.span.stop p.code).2.head?.map isNumberPart).getD false

section Parsed

variable {t : ImportTable} {p : Program} {ps : List Part}

theorem isCrowded_iff (made : p.MadeOf ps) {a b : List Part} {c : Clause} {ls : List Lexeme}
    {start : Nat} (hps : ps = a ++ .clause c ls :: b) :
    isCrowded p ⟨c.names, c.location, ⟨start, Text.byteLength (textOf a ++ rawText ls)⟩⟩ ↔
      (∃ l, c.location = .string l) ∧ ∃ d ∈ (textOf b).head?, isNumberPart d := by
  have hcode : p.code = (textOf a ++ rawText ls) ++ textOf b := by
    rw [← made.code, hps]
    simp
  have hpath (span : Text.Span) :
      (Import.path? ⟨c.names, c.location, span⟩).isSome ↔ ∃ l, c.location = .string l := by
    cases hloc : c.location <;> simp [Import.path?]
  unfold isCrowded
  rw [Bool.and_eq_true, hpath, hcode, Text.splitAtByte_append]
  cases (textOf b).head? <;> simp

/-- Imports by path are apart from what follows if none of those that are rewritten is crowded. -/
theorem apart_iff_of_paths (made : p.MadeOf ps) {f : Clause → Option (List Part)}
    (paths : ∀ c, f c ≠ none → ∃ l, c.location = .string l) :
    Apart f ps ↔ ∀ i ∈ p.outline.imports, f i.clause ≠ none → isCrowded p i = false := by
  constructor
  · intro apart i hi hf
    rw [← made.imports] at hi
    obtain ⟨a, c, ls, b, hps, rfl⟩ := mem_importsAt.1 hi
    rw [Nat.zero_add, Nat.zero_add, ← Bool.not_eq_true, isCrowded_iff made hps]
    rintro ⟨-, d, hd, part⟩
    have := apart a c ls b hps hf d hd
    simp [part] at this
  · intro free a c ls b hps hf d hd
    have hi : ⟨c.names, c.location, ⟨0 + Text.byteLength (textOf a),
        0 + Text.byteLength (textOf a ++ rawText ls)⟩⟩ ∈ importsAt 0 ps :=
      mem_importsAt.2 ⟨a, c, ls, b, hps, rfl⟩
    rw [made.imports, Nat.zero_add, Nat.zero_add] at hi
    have hfree := free _ hi hf
    rw [← Bool.not_eq_true, isCrowded_iff made hps] at hfree
    by_contra part
    exact hfree ⟨paths c hf, d, hd, by simpa using part⟩

/-- The imports that come from addresses afterwards are apart from what follows if none is
crowded. -/
theorem apart_iff (made : p.MadeOf ps)
    (resolves : ∀ l ∈ p.unresolved, ∃ a, t.resolve p.location l = .ok a) :
    Apart (t.deployAll p.location p.unresolved) ps ↔
      ∀ i ∈ p.outline.imports, isCrowded p i = false := by
  have paths (c : Clause) (hc : t.deployAll p.location p.unresolved c ≠ none) :
      ∃ l, c.location = .string l := by
    obtain ⟨new, hnew⟩ := Option.ne_none_iff_exists'.1 hc
    obtain ⟨l, -, hl, -⟩ := exists_of_deployAll hnew
    exact ⟨l, hl⟩
  rw [apart_iff_of_paths made paths]
  refine forall₂_congr fun i hi => ⟨fun h => ?_, fun h _ => h⟩
  -- an import that is not rewritten is none by path, and not crowded either
  cases hpath : i.location with
  | string l =>
    have hmem : l ∈ p.unresolved := mem_unresolved hi hpath
    obtain ⟨a, ha⟩ := resolves l hmem
    have hdeploy : t.deployAll p.location p.unresolved i.clause ≠ none := by
      obtain ⟨names, location, span⟩ := i
      subst hpath
      simp [Import.clause, deployAll_of_string hmem ha]
    exact h hdeploy
  | address a => simp [isCrowded, Import.path?, hpath]
  | identifier name => simp [isCrowded, Import.path?, hpath]

/-- How replacing the imports of a program in parts ends. -/
theorem replace_cases (made : p.MadeOf ps) (named : t.Named (clausesOf ps)) :
    (∃ l ∈ p.unresolved, t.resolve p.location l = .error (.unresolvedImport l) ∧
      t.replace p = (p, .error (.unresolvedImport l))) ∨
    (∀ l ∈ p.unresolved, ∃ a, t.resolve p.location l = .ok a) ∧
      ((Apart (t.deployAll p.location p.unresolved) ps ∧
          ∃ q, t.replace p = (q, .ok ()) ∧
            q.MadeOf (rewrite (t.deployAll p.location p.unresolved) ps) ∧ q.SameButImports p) ∨
        (¬ Apart (t.deployAll p.location p.unresolved) ps ∧
          ∃ q e, t.replace p = (q, .error e))) := by
  cases hall : t.resolveAll p.location p.unresolved with
  | error e =>
    obtain ⟨l, hl, he⟩ := resolveAll_eq_error hall
    obtain rfl := resolve_eq_error he
    exact .inl ⟨l, hl, he, by rw [replace, hall]⟩
  | ok resolved =>
    obtain ⟨hfst, addresses⟩ := resolveAll_eq_ok hall
    have resolves : ∀ l ∈ p.unresolved, ∃ a, t.resolve p.location l = .ok a := by
      rw [← hfst]
      intro l hl
      obtain ⟨r, hr, rfl⟩ := List.mem_map.1 hl
      exact ⟨r.2, addresses r hr⟩
    have start : p.MadeOf (rewrite (t.deployAll p.location []) ps) := by
      rwa [rewrite_eq_self fun c _ => deployAll_nil t p.location c]
    have hreplace : t.replace p = t.replaceAll p resolved := by rw [replace, hall]
    refine .inr ⟨resolves, ?_⟩
    rw [← hfst, ← List.nil_append (resolved.map Prod.fst), hreplace]
    by_cases apart : Apart (t.deployAll p.location ([] ++ resolved.map Prod.fst)) ps
    · exact .inl ⟨apart, replaceAll_of_apart made.whole named addresses start rfl apart⟩
    · have none_apart : Apart (t.deployAll p.location []) ps :=
        fun a c ls b _ hc => absurd (deployAll_nil t p.location c) hc
      exact .inr ⟨apart,
        replaceAll_of_not_apart made.whole named addresses start rfl none_apart apart⟩

/-- An error leaves the program untouched only if it comes from resolving. -/
theorem replace_error_cases (made : p.MadeOf ps) {p' : Program} {e : Error}
    (h : t.replace p = (p', .error e)) :
    (p' = p ∧ ∃ l ∈ p.unresolved, t.resolve p.location l = .error e ∧ e = .unresolvedImport l) ∨
      (p' ≠ p ∧ ∃ fault, e = .program p.location (.outline fault) ∧
        Outline.parse p'.code = .error fault) := by
  unfold replace at h
  cases hall : t.resolveAll p.location p.unresolved with
  | error e' =>
    rw [hall] at h
    obtain ⟨rfl, he⟩ := Prod.mk.inj h
    obtain rfl := Except.error.inj he
    obtain ⟨l, hl, hr⟩ := resolveAll_eq_error hall
    exact .inl ⟨rfl, l, hl, hr, resolve_eq_error hr⟩
  | ok resolved =>
    rw [hall] at h
    obtain ⟨fault, he, hfault⟩ := replaceAll_error h
    refine .inr ⟨?_, fault, he, hfault⟩
    -- the code that was there before can be read
    rintro rfl
    rw [made.parse] at hfault
    contradiction

/-- If what is added are identifiers, an error changes the program exactly when all imports resolve
and one of them is crowded. -/
theorem exists_error_iff (made : p.MadeOf ps) (named : t.Named (clausesOf ps)) :
    (∃ p' e, t.replace p = (p', .error e) ∧ p' ≠ p) ↔
      (∀ l ∈ p.unresolved, ∃ a, t.resolve p.location l = .ok a) ∧
        ∃ i ∈ p.outline.imports, isCrowded p i := by
  constructor
  · rintro ⟨p', e, h, hne⟩
    obtain ⟨l, -, -, hp⟩ | ⟨resolves, ⟨-, q, hp, -⟩ | ⟨glued, -⟩⟩ := replace_cases made named
    · rw [hp] at h
      exact absurd (Prod.mk.inj h).1.symm hne
    · rw [hp] at h
      cases h
    · rw [apart_iff made resolves] at glued
      push Not at glued
      obtain ⟨i, hi, crowded⟩ := glued
      exact ⟨resolves, i, hi, by simpa using crowded⟩
  · rintro ⟨resolves, i, hi, crowded⟩
    have unresolvable (l : String) (hl : l ∈ p.unresolved) (e : Error) :
        t.resolve p.location l ≠ .error e := by
      obtain ⟨a, ha⟩ := resolves l hl
      simp [ha]
    obtain ⟨l, hl, he, -⟩ | ⟨-, ⟨apart, -⟩ | ⟨-, q, e, hp⟩⟩ := replace_cases made named
    · exact absurd he (unresolvable l hl _)
    · have := (apart_iff made resolves).1 apart i hi
      simp [crowded] at this
    · refine ⟨q, e, hp, ?_⟩
      rcases replace_error_cases made hp with ⟨-, l, hl, he, -⟩ | ⟨hne, -⟩
      · exact absurd he (unresolvable l hl e)
      · exact hne

end Parsed

/-- A table with two addresses and one alias. -/
def aliasTable : ImportTable where
  addresses := ⟨[("Foo", .ofNat 1), ("Baz.cdc", .ofNat 2)]⟩
  canonical := ⟨[("Foo", "Bar")]⟩

def aliasClauses : List Clause :=
  [⟨[], .string "Foo"⟩, ⟨[⟨"Baz", none⟩], .string "./Baz.cdc"⟩]

theorem aliasTable_named : aliasTable.Named aliasClauses := by
  intro c hc location hloc
  rcases List.mem_pair.1 hc with rfl | rfl
  · obtain rfl : "Foo" = location := Location.string.inj hloc
    exact ⟨fun _ => by decide, fun _ _ => by decide⟩
  · obtain rfl : "./Baz.cdc" = location := Location.string.inj hloc
    exact ⟨by simp, fun h => absurd (by decide +kernel) h⟩

/-- An error leaves the program untouched if it comes from resolving, and else does not. If what is
added are identifiers, the second happens exactly when all imports resolve and one of them is
crowded. -/
theorem replace_error_of_parse {code : Bytes} {args : List Json} {location : String} {p : Program}
    (parsed : Program.parse code args location = .ok p) (t : ImportTable) :
    (∀ p' e, t.replace p = (p', .error e) →
      (p' = p ∧ ∃ l ∈ p.unresolved, t.resolve p.location l = .error e ∧ e = .unresolvedImport l) ∨
      (p' ≠ p ∧ ∃ fault, e = .program p.location (.outline fault) ∧
        Outline.parse p'.code = .error fault)) ∧
    (t.Named (p.outline.imports.map Import.clause) →
      ((∃ p' e, t.replace p = (p', .error e) ∧ p' ≠ p) ↔
        (∀ l ∈ p.unresolved, ∃ a, t.resolve p.location l = .ok a) ∧
          ∃ i ∈ p.outline.imports, isCrowded p i)) := by
  obtain ⟨ps, made⟩ := Program.exists_madeOf_of_parse parsed
  refine ⟨fun p' e h => replace_error_cases made h, fun named => ?_⟩
  rw [made.clauses] at named
  exact exists_error_iff made named

def crowdedSource : Bytes :=
  Utf8.encode "import \"Foo\" import Baz from \"./Baz.cdc\"abc".toList

theorem replace_error_of_crowded : ∃ p p' e, Program.parse crowdedSource [] "main.cdc" = .ok p ∧
    aliasTable.replace p = (p', .error e) ∧ p' ≠ p := by
  have evaluated : (Program.parse crowdedSource [] "main.cdc").toOption.map (fun p =>
      (p.outline.imports.map Import.clause, p.outline.imports.map (isCrowded p),
        p.unresolved.map fun l => (aliasTable.resolve p.location l).toOption)) =
      some (aliasClauses, [false, true], [some (.ofNat 1), some (.ofNat 2)]) := by
    decide +kernel
  obtain ⟨p, parsed, hp⟩ := exists_ok_of_toOption evaluated
  simp only [Prod.mk.injEq] at hp
  obtain ⟨hclauses, hcrowded, hresolved⟩ := hp
  have crowded : ∃ i ∈ p.outline.imports, isCrowded p i :=
    List.mem_map.1 (hcrowded ▸ by simp)
  have resolves : ∀ l ∈ p.unresolved, ∃ a, aliasTable.resolve p.location l = .ok a := by
    intro l hl
    have hmem := List.mem_map_of_mem (f := fun l => (aliasTable.resolve p.location l).toOption) hl
    rw [hresolved] at hmem
    rcases List.mem_pair.1 hmem with h | h
    · exact ⟨_, eq_ok_of_toOption h⟩
    · exact ⟨_, eq_ok_of_toOption h⟩
  obtain ⟨p', e, h⟩ := ((replace_error_of_parse parsed aliasTable).2
    (hclauses ▸ aliasTable_named)).2 ⟨resolves, crowded⟩
  exact ⟨p, p', e, parsed, h⟩

/-- One import is replaced before the next cannot be. -/
theorem not_replace_error_untouched : ¬ ∀ (code : Bytes) (args : List Json) (location : String)
    (p p' : Program) (t : ImportTable) (e : Error), Program.parse code args location = .ok p →
      t.replace p = (p', .error e) → p' = p := by
  intro untouched
  have evaluated : (Program.parse crowdedSource [] "main.cdc").toOption.map (fun p =>
      ((aliasTable.replace p).2.toOption, (aliasTable.replace p).1.code == p.code)) =
      some (none, false) := by
    decide +kernel
  obtain ⟨p, parsed, hp⟩ := exists_ok_of_toOption evaluated
  simp only [Prod.mk.injEq, beq_eq_false_iff_ne] at hp
  obtain ⟨hfails, hcode⟩ := hp
  cases hreplace : aliasTable.replace p with
  | mk p' result =>
    rw [hreplace] at hfails hcode
    cases result with
    | ok _ => cases hfails
    | error e => exact hcode (congrArg Program.code (untouched _ _ _ p p' _ e parsed hreplace))

/-- A replacement that succeeds has put every import by path as one from its address, all at once,
in code that is read as before but for these imports. -/
theorem replace_of_parse {code : Bytes} {args : List Json} {location : String} {p p' : Program}
    {t : ImportTable} (parsed : Program.parse code args location = .ok p)
    (named : t.Named (p.outline.imports.map Import.clause)) (done : t.replace p = (p', .ok ())) :
    (∀ l ∈ p.unresolved, ∃ a, t.resolve p.location l = .ok a) ∧
    p'.code = Text.splice p.code (p.outline.imports.filterMap fun i =>
      (t.resolvedClause p.location i.clause).map fun c => ⟨i.span, fromText c⟩) ∧
    Outline.parse p'.code = .ok p'.outline ∧
    p'.outline.imports.map Import.clause =
      (p.outline.imports.map Import.clause).map (fun c => (t.resolvedClause p.location c).getD c) ∧
    p'.unprocessed = unprocessedCode p'.code p'.outline ∧ p'.SameButImports p := by
  obtain ⟨ps, made⟩ := Program.exists_madeOf_of_parse parsed
  rw [made.clauses] at named
  obtain ⟨l, -, -, h⟩ | ⟨resolves, ⟨-, q, h, hmade, hsame⟩ | ⟨-, q, e, h⟩⟩ :=
    replace_cases made named
  · rw [h] at done
    cases done
  · obtain rfl : q = p' := by
      rw [h] at done
      exact (Prod.mk.inj done).1
    have hmem : ∀ i ∈ p.outline.imports, ∀ l, i.clause.location = .string l → l ∈ p.unresolved :=
      fun i hi l hl => mem_unresolved hi hl
    refine ⟨resolves, ?_, hmade.parse, ?_, hmade.unprocessed, hsame⟩
    · rw [← hmade.code, ← splice_editsOf, made.code, made.imports, editsOf]
      congr 1
      apply List.filterMap_congr
      intro i hi
      have htext : (t.deployAll p.location p.unresolved i.clause).map textOf =
          (t.resolvedClause p.location i.clause).map fromText := deployAll_textOf (hmem i hi)
      have hedit := congrArg (Option.map fun text => (⟨i.span, text⟩ : Text.Edit)) htext
      simpa only [Option.map_map, Function.comp_def] using hedit
    · rw [hmade.clauses, clausesOf_rewrite, ← made.clauses, List.flatMap_map, List.map_map,
        List.map_eq_flatMap]
      exact List.flatMap_congr fun i hi => deployAll_clausesOf (hmem i hi)
  · rw [h] at done
    cases done

def aliasSource : Bytes := Utf8.encode "import \"Foo\" import Baz from \"./Baz.cdc\"".toList

def aliasReplaced : List Char :=
  ("import Bar as Foo from 0x0000000000000001 " ++
    "import Baz from 0x0000000000000002").toList

theorem replace_of_alias : ∃ p p', Program.parse aliasSource [] "" = .ok p ∧
    aliasTable.replace p = (p', .ok ()) ∧ p'.code = aliasReplaced ∧
    Outline.parse p'.code = .ok p'.outline := by
  have evaluated : (Program.parse aliasSource [] "").toOption.map (fun p =>
      (p.outline.imports.map Import.clause, (aliasTable.replace p).2.toOption,
        (aliasTable.replace p).1.code)) =
      some (aliasClauses, some (), aliasReplaced) := by
    decide +kernel
  obtain ⟨p, parsed, hp⟩ := exists_ok_of_toOption evaluated
  simp only [Prod.mk.injEq] at hp
  obtain ⟨hclauses, hdone, hcode⟩ := hp
  have done : aliasTable.replace p = ((aliasTable.replace p).1, .ok ()) :=
    Prod.ext rfl (eq_ok_of_toOption hdone)
  have replaced := replace_of_parse parsed (hclauses ▸ aliasTable_named) done
  exact ⟨p, _, parsed, done, hcode, replaced.2.2.1⟩

end ContractProject.ImportTable
