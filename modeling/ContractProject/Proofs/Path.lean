import ContractProject.Path

/-!
Paths that end in steps given by name. Normalizing and joining keep these steps at the end, and
`parent?` takes off the last one.
-/

namespace ContractProject.Path

/-- A step down by a name without separators. -/
structure Plain (step : List Char) : Prop where
  isStep : isStep step
  ne_up : step ≠ up
  slash : '/' ∉ step
  backslash : '\\' ∉ step

/-- The text is empty or ends with a separator, so that a step can follow. -/
def Open (front : List Char) : Prop := ∀ c ∈ front.getLast?, c = '/'

/-- The path ends in these steps. -/
def EndsIn (steps : List (List Char)) (path : String) : Prop :=
  ∃ front, path.toList = front ++ List.intercalate ['/'] steps ∧ Open front

theorem open_nil : Open [] := by simp [Open]

theorem Open.append {a b : List Char} (ha : Open a) (hb : Open b) : Open (a ++ b) := by
  intro c hc
  rw [List.getLast?_append] at hc
  cases hl : b.getLast? with
  | none => exact ha c (by simpa [hl] using hc)
  | some d => exact hb c (by simpa [hl] using hc)

theorem open_slash (a : List Char) : Open (a ++ ['/']) := by simp [Open]

theorem Open.cases {front : List Char} (h : Open front) :
    front = [] ∨ ∃ before, front = before ++ ['/'] := by
  cases hl : front.getLast? with
  | none => exact .inl (List.getLast?_eq_none_iff.1 hl)
  | some c =>
    obtain ⟨before, rfl⟩ := List.getLast?_eq_some_iff.1 hl
    exact .inr ⟨before, by rw [h c hl]⟩

theorem Plain.ne_nil {step : List Char} (h : Plain step) : step ≠ [] := by
  rintro rfl
  exact absurd h.isStep (by decide)

theorem plain_of_length {step : List Char} (long : 2 < step.length) (slash : '/' ∉ step)
    (backslash : '\\' ∉ step) : Plain step := by
  refine ⟨?_, ?_, slash, backslash⟩
  · have hne : step ≠ [] := by rintro rfl; simp at long
    have hdot : step ≠ ['.'] := by rintro rfl; simp at long
    simp [isStep, hne, hdot]
  · rintro rfl
    simp [up] at long

theorem plain_of_not_mem {step : List Char} (hne : step ≠ []) (dot : '.' ∉ step)
    (slash : '/' ∉ step) (backslash : '\\' ∉ step) : Plain step := by
  refine ⟨?_, ?_, slash, backslash⟩
  · have hdot : step ≠ ['.'] := by rintro rfl; simp at dot
    simp [isStep, hne, hdot]
  · rintro rfl
    simp [up] at dot

theorem intercalate_append {xs ys : List (List Char)} (hx : xs ≠ []) (hy : ys ≠ []) :
    List.intercalate ['/'] (xs ++ ys) =
      List.intercalate ['/'] xs ++ '/' :: List.intercalate ['/'] ys := by
  induction xs with
  | nil => exact absurd rfl hx
  | cons x xs ih =>
    cases xs with
    | nil =>
      obtain ⟨y, more, rfl⟩ := List.exists_cons_of_ne_nil hy
      simp [List.intercalate_cons_cons]
    | cons z xs =>
      have := ih (by simp)
      simp only [List.cons_append, List.intercalate_cons_cons, List.append_assoc] at this ⊢
      rw [this]

theorem mem_intercalate {steps : List (List Char)} {c : Char}
    (h : c ∈ List.intercalate ['/'] steps) : c = '/' ∨ ∃ s ∈ steps, c ∈ s := by
  induction steps with
  | nil => cases h
  | cons s steps ih =>
    cases steps with
    | nil => exact .inr ⟨s, List.mem_cons_self, by simpa using h⟩
    | cons t steps =>
      rw [List.intercalate_cons_cons, List.mem_append, List.mem_append] at h
      rcases h with (h | h) | h
      · exact .inr ⟨s, List.mem_cons_self, h⟩
      · exact .inl (List.mem_singleton.1 h)
      · exact (ih h).imp_right fun ⟨u, hu, hmem⟩ => ⟨u, List.mem_cons_of_mem s hu, hmem⟩

/-! ### Pieces -/

theorem pieces_ne_nil (text : List Char) : pieces text ≠ [] := by
  cases text with
  | nil => simp [pieces]
  | cons c text =>
    rw [pieces]
    split
    · simp
    · split <;> simp

theorem pieces_append (a b : List Char) : pieces (a ++ '/' :: b) = pieces a ++ pieces b := by
  induction a with
  | nil => simp [pieces]
  | cons c a ih =>
    rw [List.cons_append, pieces, pieces]
    by_cases hc : c = '/'
    · rw [if_pos hc, if_pos hc, ih, List.cons_append]
    · obtain ⟨p, ps, hps⟩ := List.exists_cons_of_ne_nil (pieces_ne_nil a)
      rw [if_neg hc, if_neg hc, ih, hps]
      rfl

theorem pieces_of_not_mem {text : List Char} (h : '/' ∉ text) : pieces text = [text] := by
  induction text with
  | nil => rfl
  | cons c text ih =>
    rw [List.mem_cons, not_or] at h
    rw [pieces, if_neg (Ne.symm h.1), ih h.2]

theorem pieces_intercalate {steps : List (List Char)} (hne : steps ≠ [])
    (slash : ∀ s ∈ steps, '/' ∉ s) : pieces (List.intercalate ['/'] steps) = steps := by
  induction steps with
  | nil => exact absurd rfl hne
  | cons s steps ih =>
    have hs := slash s List.mem_cons_self
    cases steps with
    | nil => rw [List.intercalate_singleton, pieces_of_not_mem hs]
    | cons t steps =>
      have := ih (by simp) fun u hu => slash u (List.mem_cons_of_mem s hu)
      rw [List.intercalate_cons_cons, List.append_assoc, List.singleton_append, pieces_append,
        pieces_of_not_mem hs, this, List.singleton_append]

/-! ### Normal form -/

/-- Steps down are added to a walk as they are. -/
theorem Route.foldl_push_of_not_mem {rooted : Bool} {steps : List (List Char)} (down : up ∉ steps)
    (walk : List (List Char)) : steps.foldl (Route.push rooted) walk = steps.reverse ++ walk := by
  induction steps generalizing walk with
  | nil => rfl
  | cons s steps ih =>
    rw [List.mem_cons, not_or] at down
    have hs : Route.push rooted walk s = s :: walk := if_pos (Ne.symm down.1)
    rw [List.foldl_cons, hs, ih down.2]
    simp

theorem up_not_mem_of_plain {steps : List (List Char)} (plain : ∀ s ∈ steps, Plain s) :
    up ∉ steps := fun h => (plain up h).ne_up rfl

theorem forwardSlashes_append (a b : List Char) :
    forwardSlashes (a ++ b) = forwardSlashes a ++ forwardSlashes b := List.map_append

theorem forwardSlashes_of_not_mem {text : List Char} (h : '\\' ∉ text) :
    forwardSlashes text = text := by
  refine (List.map_congr_left fun c hc => ?_).trans (List.map_id _)
  rw [if_neg fun (hslash : c = '\\') => h (hslash ▸ hc), id]

theorem forwardSlashes_of_plain {steps : List (List Char)} (plain : ∀ s ∈ steps, Plain s) :
    forwardSlashes (List.intercalate ['/'] steps) = List.intercalate ['/'] steps := by
  refine forwardSlashes_of_not_mem fun h => ?_
  rcases mem_intercalate h with h | ⟨s, hs, hmem⟩
  · exact absurd h (by decide)
  · exact (plain s hs).backslash hmem

/-- The normal form of a path that goes on with steps down goes on with them. -/
theorem exists_normal_append (rooted : Bool) (before : List (List Char))
    {steps : List (List Char)} (hne : steps ≠ []) (plain : ∀ s ∈ steps, Plain s) :
    ∃ front, (Route.normal ⟨rooted, before ++ steps⟩).toText =
      front ++ List.intercalate ['/'] steps ∧ Open front := by
  let walk := (before.foldl (Route.push rooted) []).reverse
  have hnormal : Route.normal ⟨rooted, before ++ steps⟩ = ⟨rooted, walk ++ steps⟩ := by
    simp [Route.normal, List.foldl_append, walk,
      Route.foldl_push_of_not_mem (up_not_mem_of_plain plain)]
  have htext : ∃ front, List.intercalate ['/'] (walk ++ steps) =
      front ++ List.intercalate ['/'] steps ∧ Open front := by
    by_cases hwalk : walk = []
    · exact ⟨[], by rw [hwalk]; rfl, open_nil⟩
    · refine ⟨List.intercalate ['/'] walk ++ ['/'], ?_, open_slash _⟩
      rw [intercalate_append hwalk hne]
      simp
  obtain ⟨front, hfront, hlast⟩ := htext
  rw [hnormal, Route.toText]
  cases rooted with
  | true => exact ⟨'/' :: front, by simp [hfront], (open_slash []).append hlast⟩
  | false => exact ⟨front, by simp [hne, hfront], hlast⟩

theorem exists_pieces_of_endsIn {steps : List (List Char)} {path : String} (hne : steps ≠ [])
    (plain : ∀ s ∈ steps, Plain s) (h : EndsIn steps path) :
    ∃ before, (pieces path.toList).filter isStep = before ++ steps := by
  obtain ⟨front, hpath, hlast⟩ := h
  have hsteps : steps.filter isStep = steps :=
    List.filter_eq_self.2 fun s hs => (plain s hs).isStep
  have slash : ∀ s ∈ steps, '/' ∉ s := fun s hs => (plain s hs).slash
  rcases hlast.cases with rfl | ⟨before, rfl⟩
  · exact ⟨[], by rw [hpath, List.nil_append, pieces_intercalate hne slash, hsteps]; rfl⟩
  · refine ⟨(pieces before).filter isStep, ?_⟩
    rw [hpath, List.append_assoc, List.singleton_append, pieces_append,
      pieces_intercalate hne slash, List.filter_append, hsteps]

/-- Normalizing keeps the steps at the end. -/
theorem clean_endsIn {steps : List (List Char)} {path : String} (hne : steps ≠ [])
    (plain : ∀ s ∈ steps, Plain s) (h : EndsIn steps path) : EndsIn steps (clean path) := by
  obtain ⟨before, hbefore⟩ := exists_pieces_of_endsIn hne plain h
  obtain ⟨front, hfront, hlast⟩ :=
    exists_normal_append (isRooted path.toList) before hne plain
  refine ⟨forwardSlashes front, ?_, ?_⟩
  · rw [clean, String.toList_ofList, Route.ofText, hbefore, hfront, forwardSlashes_append,
      forwardSlashes_of_plain plain]
  · intro c hc
    rw [forwardSlashes, List.getLast?_map] at hc
    obtain ⟨d, hd, rfl⟩ := Option.map_eq_some_iff.1 hc
    rw [hlast d hd]
    rfl

/-- A step by itself is in normal form. -/
theorem clean_of_plain {name : String} (plain : Plain name.toList) : clean name = name := by
  have hrooted : isRooted name.toList = false := by
    cases hname : name.toList with
    | nil => rfl
    | cons c rest =>
      have := plain.slash
      rw [hname, List.mem_cons, not_or] at this
      simp [isRooted, Ne.symm this.1]
  have hsteps : (pieces name.toList).filter isStep = [name.toList] := by
    rw [pieces_of_not_mem plain.slash]
    exact List.filter_eq_self.2 (by simpa using plain.isStep)
  have hplain : ∀ s ∈ [name.toList], Plain s := by simpa using plain
  have hforward := forwardSlashes_of_plain hplain
  rw [List.intercalate_singleton] at hforward
  rw [clean, Route.ofText, hsteps, hrooted, Route.normal,
    Route.foldl_push_of_not_mem (up_not_mem_of_plain hplain), Route.toText]
  simp [hforward]

/-- A path that is not rooted is put behind its base, with a separator where there is none. -/
theorem exists_join (base : String) {path : String} (unrooted : isRooted path.toList = false) :
    ∃ front, (join base path).toList = front ++ path.toList ∧ Open front ∧
      (front = base.toList ∨ base.toList ≠ [] ∧ front = base.toList ++ ['/']) := by
  rw [join, if_neg (by simp [unrooted])]
  split
  · next hbase =>
    refine ⟨base.toList, String.toList_append, fun c hc => ?_, .inl rfl⟩
    rw [Option.mem_def] at hc
    rcases (Bool.or_eq_true _ _).mp hbase with hempty | hslash
    · rw [String.isEmpty_iff] at hempty
      simp [hempty] at hc
    · simpa [hc] using hslash
  · next hbase =>
    have hne : base.toList ≠ [] := by
      intro hempty
      simp [String.toList_eq_nil_iff.1 hempty] at hbase
    exact ⟨base.toList ++ ['/'], by simp, open_slash _, .inr ⟨hne, rfl⟩⟩

theorem join_endsIn {steps : List (List Char)} {path : String} (base : String)
    (h : EndsIn steps path) : EndsIn steps (join base path) := by
  obtain ⟨front, hpath, hopen⟩ := h
  cases hrooted : isRooted path.toList with
  | true => exact ⟨front, by rw [join, if_pos hrooted, hpath], hopen⟩
  | false =>
    obtain ⟨before, hjoin, hbefore, -⟩ := exists_join base hrooted
    exact ⟨before ++ front, by rw [hjoin, hpath, List.append_assoc], hbefore.append hopen⟩

/-! ### The last step -/

theorem dropEmptyEnd_of_plain {step : List Char} (plain : Plain step) (back : List Char) :
    dropEmptyEnd (step.reverse ++ back) = step.reverse ++ back := by
  have hslash : '/' ∉ step.reverse := by simpa using plain.slash
  have hdot : step.reverse ≠ ['.'] := by
    intro h
    have hstep : step = ['.'] := by simpa using congrArg List.reverse h
    exact absurd plain.isStep (by rw [hstep]; decide)
  have hne : step.reverse ≠ [] := by simpa using plain.ne_nil
  generalize step.reverse = last at *
  match last with
  | [] => exact absurd rfl hne
  | [c] =>
    simp only [List.mem_singleton] at hslash
    have hdot : c ≠ '.' := by simpa using hdot
    unfold dropEmptyEnd
    split <;> simp_all
  | c :: d :: last =>
    simp only [List.mem_cons, not_or] at hslash
    unfold dropEmptyEnd
    split <;> simp_all

/-- A path that ends in steps ends with the last of them. -/
theorem EndsIn.exists_append {steps : List (List Char)} {path : String} (h : EndsIn steps path)
    (hne : steps ≠ []) (plain : ∀ s ∈ steps, Plain s) :
    ∃ before step, path.toList = before ++ step ∧ Plain step := by
  obtain ⟨front, hpath, -⟩ := h
  obtain ⟨before, step, rfl⟩ : ∃ before step, steps = before ++ [step] :=
    ⟨_, _, (List.dropLast_concat_getLast hne).symm⟩
  have hstep : Plain step := plain step (by simp)
  by_cases hb : before = []
  · exact ⟨front, step, by simp [hpath, hb], hstep⟩
  · refine ⟨front ++ (List.intercalate ['/'] before ++ ['/']), step, ?_, hstep⟩
    rw [hpath, intercalate_append hb (by simp)]
    simp

/-- The parent of a path that ends in several steps ends in all but the last. -/
theorem exists_parent?_of_endsIn {steps : List (List Char)} {last : List Char} {path : String}
    (hne : steps ≠ []) (plain : ∀ s ∈ steps ++ [last], Plain s)
    (h : EndsIn (steps ++ [last]) path) :
    ∃ parent, parent? path = some parent ∧ EndsIn steps parent ∧
      path.toList = parent.toList ++ '/' :: last := by
  obtain ⟨front, hpath, hopen⟩ := h
  have hlast : Plain last := plain last (by simp)
  have hends : EndsIn steps (String.ofList (front ++ List.intercalate ['/'] steps)) :=
    ⟨front, String.toList_ofList, hopen⟩
  obtain ⟨more, step, hmore, hstep⟩ := hends.exists_append hne fun s hs => plain s (by simp [hs])
  rw [String.toList_ofList] at hmore
  rw [intercalate_append hne (by simp), List.intercalate_singleton, ← List.append_assoc] at hpath
  refine ⟨_, ?_, hends, by rw [hpath, String.toList_ofList]⟩
  -- read backwards: the last step, a separator, and the step before that, which keeps it from
  -- being dropped further
  have hback : path.toList.reverse = last.reverse ++ '/' :: (step.reverse ++ more.reverse) := by
    rw [hpath, hmore]
    simp
  have hdrop : (last.reverse ++ '/' :: (step.reverse ++ more.reverse)).dropWhile (· ≠ '/') =
      '/' :: (step.reverse ++ more.reverse) := by
    rw [List.dropWhile_append_of_pos, List.dropWhile_cons_of_neg]
    · simp
    · intro c hc
      have : c ∈ last := by simpa using hc
      simpa using fun hslash : c = '/' => hlast.slash (hslash ▸ this)
  have hempty : dropEmptyEnd ('/' :: (step.reverse ++ more.reverse)) =
      step.reverse ++ more.reverse := by
    rw [dropEmptyEnd, dropEmptyEnd_of_plain hstep]
    simpa using fun h : step = [] => absurd h hstep.ne_nil
  have hpos := List.length_pos_iff.2 hlast.ne_nil
  unfold parent?
  rw [hback, dropEmptyEnd_of_plain hlast]
  split
  · next h => simp at h
  · next h =>
    have := congrArg List.length h
    simp only [List.length_append, List.length_reverse, List.length_cons, List.length_nil] at this
    omega
  · rw [hdrop, hempty, hmore]
    simp

/-- The path goes down by a name. -/
theorem join_of_endsIn {steps : List (List Char)} {base name : String} (hne : steps ≠ [])
    (plain : ∀ s ∈ steps, Plain s) (h : EndsIn steps base) (hname : Plain name.toList) :
    join base name = base ++ "/" ++ name ∧ EndsIn (steps ++ [name.toList]) (join base name) := by
  have hrooted : isRooted name.toList = false := by
    cases hn : name.toList with
    | nil => rfl
    | cons c rest =>
      have := hname.slash
      rw [hn, List.mem_cons, not_or] at this
      simp [isRooted, Ne.symm this.1]
  obtain ⟨before, step, hstep, plainStep⟩ := h.exists_append hne plain
  have hlast : base.toList.getLast? ≠ some '/' := by
    intro hslash
    rw [hstep, List.getLast?_append, List.getLast?_eq_some_getLast plainStep.ne_nil,
      Option.some_or, Option.some.injEq] at hslash
    exact plainStep.slash (hslash ▸ List.getLast_mem plainStep.ne_nil)
  have hempty : base.isEmpty = false := by
    rw [Bool.eq_false_iff, ne_eq, String.isEmpty_iff]
    rintro rfl
    simp [plainStep.ne_nil] at hstep
  obtain ⟨front, hbase, hopen⟩ := h
  have hjoin : join base name = base ++ "/" ++ name := by
    simp [join, hrooted, hempty, hlast]
  refine ⟨hjoin, front, ?_, hopen⟩
  rw [hjoin, intercalate_append hne (by simp)]
  simp [hbase]

/-- An import by name leads into the directory of the file that holds it. -/
theorem absolute_endsIn {steps : List (List Char)} {last : List Char} {importer name : String}
    (hne : steps ≠ []) (plain : ∀ s ∈ steps ++ [last], Plain s)
    (h : EndsIn (steps ++ [last]) importer) (hname : Plain name.toList) :
    EndsIn (steps ++ [name.toList]) (absolute importer name) := by
  obtain ⟨parent, hparent, hends, -⟩ := exists_parent?_of_endsIn hne plain h
  have hsteps : ∀ s ∈ steps, Plain s := fun s hs => plain s (by simp [hs])
  have hplain : ∀ s ∈ steps ++ [name.toList], Plain s := by
    intro s hs
    rcases List.mem_append.1 hs with hs | hs
    · exact hsteps s hs
    · rwa [List.mem_singleton.1 hs]
  rw [absolute, hparent, Option.getD_some]
  exact clean_endsIn (by simp) hplain (join_of_endsIn hne hsteps hends hname).2

theorem slash_mem_of_endsIn {steps : List (List Char)} {last : List Char} {path : String}
    (hne : steps ≠ []) (h : EndsIn (steps ++ [last]) path) : '/' ∈ path.toList := by
  obtain ⟨front, hpath, -⟩ := h
  rw [hpath, intercalate_append hne (by simp)]
  simp

/-- How many steps a path ends in tells which. -/
theorem EndsIn.unique {a b : List (List Char)} {path : String} (ha : EndsIn a path)
    (hb : EndsIn b path) (length : a.length = b.length) (aplain : ∀ s ∈ a, Plain s)
    (bplain : ∀ s ∈ b, Plain s) : a = b := by
  by_cases hne : a = []
  · subst hne
    exact (List.length_eq_zero_iff.1 length.symm).symm
  · have hne' : b ≠ [] := by
      rintro rfl
      exact hne (List.length_eq_zero_iff.1 length)
    obtain ⟨before, hbefore⟩ := exists_pieces_of_endsIn hne aplain ha
    obtain ⟨before', hbefore'⟩ := exists_pieces_of_endsIn hne' bplain hb
    exact (List.append_inj' (hbefore.symm.trans hbefore') length).2

end ContractProject.Path
