import ContractProject.Proofs.Path

/-!
Paths by the routes that they walk. A normal route is read back from its text, so paths without
backslashes have one normal form exactly if their routes do; and where an import leads depends on
the importing file by the normal form of its route alone.
-/

namespace ContractProject.Path

/-! ### Characters and steps -/

/-- The pieces of a text are made of its characters other than separators. -/
theorem of_mem_pieces {text piece : List Char} {c : Char} (h : piece ∈ pieces text)
    (hc : c ∈ piece) : c ∈ text ∧ c ≠ '/' := by
  induction text generalizing piece with
  | nil =>
    obtain rfl := List.mem_singleton.1 h
    cases hc
  | cons d text ih =>
    rw [pieces] at h
    split at h
    · rcases List.mem_cons.1 h with rfl | h
      · cases hc
      · exact (ih h hc).imp_left (List.mem_cons_of_mem d)
    · next hd =>
      obtain ⟨p, ps, hps⟩ := List.exists_cons_of_ne_nil (pieces_ne_nil text)
      rw [hps] at h ih
      rcases List.mem_cons.1 h with rfl | h
      · rcases List.mem_cons.1 hc with rfl | hc
        · exact ⟨List.mem_cons_self, hd⟩
        · exact (ih List.mem_cons_self hc).imp_left (List.mem_cons_of_mem d)
      · exact (ih (List.mem_cons_of_mem p h) hc).imp_left (List.mem_cons_of_mem d)

namespace Route

/-- The steps are such as are read of a text. -/
def Proper (route : Route) : Prop := ∀ s ∈ route.steps, isStep s ∧ '/' ∉ s

theorem proper_ofText (text : List Char) : (ofText text).Proper := by
  intro s hs
  obtain ⟨hs, hstep⟩ := List.mem_filter.1 hs
  exact ⟨hstep, fun hslash => (of_mem_pieces hs hslash).2 rfl⟩

theorem mem_push {rooted : Bool} {walk : List (List Char)} {step s : List Char}
    (h : s ∈ push rooted walk step) : s ∈ walk ∨ s = step := by
  unfold push at h
  split at h
  · exact (List.mem_cons.1 h).symm
  · next hup =>
    obtain rfl := Classical.not_not.1 hup
    cases walk with
    | nil => exact .inr (by cases rooted <;> simp_all)
    | cons last before =>
      dsimp only at h
      split at h
      · exact (List.mem_cons.1 h).symm
      · exact .inl (List.mem_cons_of_mem last h)

theorem mem_foldl_push {rooted : Bool} {walk steps : List (List Char)} {s : List Char}
    (h : s ∈ steps.foldl (push rooted) walk) : s ∈ walk ∨ s ∈ steps := by
  induction steps generalizing walk with
  | nil => exact .inl h
  | cons step steps ih =>
    rcases ih h with h | h
    · exact (mem_push h).imp_right fun h => List.mem_cons.2 (.inl h)
    · exact .inr (List.mem_cons_of_mem step h)

/-- Normalizing leaves out steps and puts none in. -/
theorem mem_of_mem_normal {route : Route} {s : List Char} (h : s ∈ route.normal.steps) :
    s ∈ route.steps :=
  (mem_foldl_push (List.mem_reverse.1 h)).resolve_left (by simp)

theorem Proper.normal {route : Route} (h : route.Proper) : route.normal.Proper :=
  fun s hs => h s (mem_of_mem_normal hs)

theorem mem_toText {route : Route} {c : Char} (h : c ∈ route.toText) :
    c = '/' ∨ c = '.' ∨ ∃ s ∈ route.steps, c ∈ s := by
  unfold toText at h
  split at h
  · rcases List.mem_cons.1 h with h | h
    · exact .inl h
    · exact (mem_intercalate h).imp_right .inr
  · split at h
    · exact .inr (.inl (List.mem_singleton.1 h))
    · exact (mem_intercalate h).imp_right .inr

/-- A route is read back from its text. -/
theorem Proper.ofText_toText {route : Route} (h : route.Proper) : ofText route.toText = route := by
  obtain ⟨rooted, steps⟩ := route
  have hsteps : steps.filter isStep = steps := List.filter_eq_self.2 fun s hs => (h s hs).1
  have hpieces (hne : steps ≠ []) : pieces (List.intercalate ['/'] steps) = steps :=
    pieces_intercalate hne fun s hs => (h s hs).2
  cases rooted with
  | true =>
    have hroot : toText ⟨true, steps⟩ = [] ++ '/' :: List.intercalate ['/'] steps := rfl
    rw [hroot, ofText, pieces_append, List.filter_append]
    by_cases hne : steps = []
    · subst hne
      rfl
    · rw [hpieces hne, hsteps]
      rfl
  | false =>
    by_cases hne : steps = []
    · subst hne
      rfl
    · have htext : toText ⟨false, steps⟩ = List.intercalate ['/'] steps := by simp [toText, hne]
      have hrooted : isRooted (List.intercalate ['/'] steps) = false := by
        obtain ⟨s, steps, rfl⟩ := List.exists_cons_of_ne_nil hne
        have hs := h s List.mem_cons_self
        obtain ⟨c, s, rfl⟩ : ∃ c t, s = c :: t :=
          List.exists_cons_of_ne_nil (by rintro rfl; exact absurd hs.1 (by decide))
        have hc : c ≠ '/' := fun hc => hs.2 (by simp [hc])
        cases steps <;> simp [isRooted, List.intercalate_cons_cons, hc]
      rw [htext, ofText, hpieces hne, hsteps, hrooted]

/-- Where `next` leads from `route`. -/
def follow (route next : Route) : Route :=
  if next.rooted then next else { route with steps := route.steps ++ next.steps }

/-- Where a route leads from another depends on the normal form of that alone. -/
theorem normal_follow {a b : Route} (h : a.normal = b.normal) (next : Route) :
    (a.follow next).normal = (b.follow next).normal := by
  obtain ⟨rooted, steps⟩ := a
  obtain ⟨rooted', steps'⟩ := b
  simp only [normal, mk.injEq, List.reverse_inj] at h
  obtain ⟨rfl, hwalk⟩ := h
  unfold follow
  split
  · rfl
  · simp only [normal, List.foldl_append, hwalk]

/-- A step by name at the end stays when all before it is normalized. -/
theorem normal_append (rooted : Bool) (steps : List (List Char)) {name : List Char}
    (h : name ≠ up) :
    normal ⟨rooted, steps ++ [name]⟩ = ⟨rooted, (normal ⟨rooted, steps⟩).steps ++ [name]⟩ := by
  have hpush (walk : List (List Char)) : push rooted walk name = name :: walk := if_pos h
  simp [normal, List.foldl_append, hpush]

end Route

/-! ### Normal forms -/

/-- Without backslashes the normal form is the text of the normal route. -/
theorem clean_of_not_mem {path : String} (h : '\\' ∉ path.toList) :
    clean path = String.ofList (Route.ofText path.toList).normal.toText := by
  rw [clean, forwardSlashes_of_not_mem]
  intro hmem
  rcases Route.mem_toText hmem with hc | hc | ⟨s, hs, hc⟩
  · exact absurd hc (by decide)
  · exact absurd hc (by decide)
  · exact h (of_mem_pieces (List.mem_filter.1 (Route.mem_of_mem_normal hs)).1 hc).1

theorem ofText_clean {path : String} (h : '\\' ∉ path.toList) :
    Route.ofText (clean path).toList = (Route.ofText path.toList).normal := by
  rw [clean_of_not_mem h, String.toList_ofList, (Route.proper_ofText _).normal.ofText_toText]

/-- Paths without backslashes have one normal form exactly if their routes have. -/
theorem clean_eq_iff {a b : String} (ha : '\\' ∉ a.toList) (hb : '\\' ∉ b.toList) :
    clean a = clean b ↔ (Route.ofText a.toList).normal = (Route.ofText b.toList).normal := by
  constructor
  · intro h
    rw [← ofText_clean ha, ← ofText_clean hb, h]
  · intro h
    rw [clean_of_not_mem ha, clean_of_not_mem hb, h]

/-! ### Joining and parents -/

theorem steps_append_slash (a b : List Char) : (Route.ofText (a ++ '/' :: b)).steps =
    (Route.ofText a).steps ++ (Route.ofText b).steps := by
  rw [Route.ofText, pieces_append, List.filter_append]
  rfl

/-- Pieces at the end that are no steps make no difference, except to the empty path. -/
theorem ofText_append_slash {text ending : List Char} (h : text ≠ [])
    (empty : (Route.ofText ending).steps = []) :
    Route.ofText (text ++ '/' :: ending) = Route.ofText text := by
  have hsteps : (Route.ofText (text ++ '/' :: ending)).steps = (Route.ofText text).steps := by
    rw [steps_append_slash, empty, List.append_nil]
  have hrooted : isRooted (text ++ '/' :: ending) = isRooted text := by
    obtain ⟨c, text, rfl⟩ := List.exists_cons_of_ne_nil h
    rfl
  exact (Route.mk.injEq ..).mpr ⟨hrooted, hsteps⟩

theorem ofText_append {front rest : List Char} (hopen : Open front)
    (unrooted : isRooted rest = false) : Route.ofText (front ++ rest) =
      ⟨isRooted front, (Route.ofText front).steps ++ (Route.ofText rest).steps⟩ := by
  rcases hopen.cases with rfl | ⟨before, rfl⟩
  · exact congrArg (Route.mk · _) unrooted
  · have hsteps : (Route.ofText (before ++ ['/'])).steps = (Route.ofText before).steps := by
      rw [steps_append_slash]
      exact List.append_nil _
    have hrooted : isRooted (before ++ ['/'] ++ rest) = isRooted (before ++ ['/']) := by
      cases before <;> rfl
    rw [hsteps, ← steps_append_slash, ← hrooted, List.append_assoc, List.singleton_append]
    rfl

/-- A path seen from a base goes on where the base leads. -/
theorem ofText_join (base path : String) : Route.ofText (join base path).toList =
    (Route.ofText base.toList).follow (Route.ofText path.toList) := by
  have hpath : (Route.ofText path.toList).rooted = isRooted path.toList := rfl
  rw [Route.follow, hpath]
  cases hrooted : isRooted path.toList with
  | true => rw [join, if_pos hrooted, if_pos rfl]
  | false =>
    obtain ⟨front, hjoin, hopen, hfront⟩ := exists_join base hrooted
    have hbase : Route.ofText front = Route.ofText base.toList := by
      rcases hfront with rfl | ⟨hne, rfl⟩
      · rfl
      · exact ofText_append_slash hne rfl
    rw [hjoin, ofText_append hopen hrooted, ← hbase]
    rfl

theorem ofText_dropEmptyEnd (back : List Char) :
    Route.ofText (dropEmptyEnd back).reverse = Route.ofText back.reverse := by
  fun_induction dropEmptyEnd back with
  | case1 => rfl
  | case2 back hne ih =>
    rw [ih, List.reverse_cons, ofText_append_slash (by simpa using hne) rfl]
  | case3 => rfl
  | case4 back hne ih =>
    have hback : ('.' :: '/' :: back).reverse = back.reverse ++ '/' :: ['.'] := by simp
    rw [ih, hback, ofText_append_slash (by simpa using hne) rfl]
  | case5 back => rfl

theorem isStep_reverse (piece : List Char) : isStep piece.reverse = isStep piece := by
  simp [isStep, List.reverse_eq_iff]

/-- What is left ends with a step, unless there is none. -/
theorem dropEmptyEnd_cases (back : List Char) :
    dropEmptyEnd back ∈ [[], ['/'], ['.']] ∨
      isStep ((dropEmptyEnd back).takeWhile (· ≠ '/')).reverse := by
  fun_induction dropEmptyEnd back with
  | case1 => simp
  | case2 back hne ih => exact ih
  | case3 => simp
  | case4 back hne ih => exact ih
  | case5 back h1 h2 h3 h4 =>
    match back with
    | [] => simp
    | c :: back =>
      have hc : c ≠ '/' := by
        rintro rfl
        exact h2 back rfl
      by_cases hdot : c = '.'
      · subst hdot
        match back with
        | [] => simp
        | d :: back =>
          have hd : d ≠ '/' := by
            rintro rfl
            exact h4 back rfl
          right
          rw [isStep_reverse]
          simp [isStep, hd]
      · right
        rw [isStep_reverse]
        simp [isStep, hc, hdot]

theorem open_reverse_dropWhile (back : List Char) :
    Open (back.dropWhile (· ≠ '/')).reverse := by
  intro c hc
  have hhead := List.head?_dropWhile_not (· ≠ '/') back
  rw [Option.mem_def, List.getLast?_reverse] at hc
  rw [hc] at hhead
  simpa using hhead

/-- A step without separators is walked alone. -/
theorem ofText_of_isStep {text : List Char} (slash : '/' ∉ text) (step : isStep text) :
    isRooted text = false ∧ (Route.ofText text).steps = [text] := by
  constructor
  · cases text with
    | nil => rfl
    | cons c text =>
      rw [List.mem_cons, not_or] at slash
      simp [isRooted, Ne.symm slash.1]
  · rw [Route.ofText, pieces_of_not_mem slash]
    exact List.filter_eq_self.2 (by simpa using step)

/-- The parent of a path with steps has all but the last. -/
theorem exists_parent? {path : String} {before : List (List Char)} {last : List Char}
    (h : (Route.ofText path.toList).steps = before ++ [last]) :
    ∃ parent, parent? path = some parent ∧
      Route.ofText parent.toList = ⟨isRooted path.toList, before⟩ := by
  have hroute := ofText_dropEmptyEnd path.toList.reverse
  rw [List.reverse_reverse] at hroute
  have hends := dropEmptyEnd_cases path.toList.reverse
  unfold parent?
  generalize dropEmptyEnd path.toList.reverse = back at *
  have hsteps : (Route.ofText back.reverse).steps = before ++ [last] := by rw [hroute, h]
  have hne : back ∉ [[], ['/'], ['.']] := by
    intro hback
    have hempty : ∀ back ∈ [[], ['/'], ['.']], (Route.ofText back.reverse).steps = [] := by decide
    simp [hempty back hback] at hsteps
  -- read backwards: the last step up to a separator, and what is before it
  have hback : back.reverse = (back.dropWhile (· ≠ '/')).reverse ++
      (back.takeWhile (· ≠ '/')).reverse := by
    rw [← List.reverse_append, List.takeWhile_append_dropWhile]
  have hslash : '/' ∉ (back.takeWhile (· ≠ '/')).reverse := by
    intro hmem
    have hall : (back.takeWhile (· ≠ '/')).all (· ≠ '/') := List.all_takeWhile
    simpa using List.all_eq_true.1 hall '/' (List.mem_reverse.1 hmem)
  obtain ⟨hrooted, htip⟩ := ofText_of_isStep hslash (hends.resolve_left hne)
  rw [hback, ofText_append (open_reverse_dropWhile back) hrooted, htip] at hroute
  have hbefore : (Route.ofText (back.dropWhile (· ≠ '/')).reverse).steps = before :=
    (List.append_inj' ((congrArg Route.steps hroute).trans h) rfl).1
  refine ⟨String.ofList (dropEmptyEnd (back.dropWhile (· ≠ '/'))).reverse, ?_, ?_⟩
  · split
    · simp at hne
    · simp at hne
    · rfl
  · rw [String.toList_ofList, ofText_dropEmptyEnd]
    exact (Route.mk.injEq ..).mpr ⟨congrArg Route.rooted hroute, hbefore⟩

/-- The path ends in a step by name. -/
def EndsInName (path : String) : Prop :=
  ∃ name ∈ (Route.ofText path.toList).steps.getLast?, name ≠ up

/-- Where an import leads depends on the normal form of the importing file's path alone. -/
theorem absolute_congr {importer importer' : String} (file : EndsInName importer)
    (file' : EndsInName importer') (plain : '\\' ∉ importer.toList)
    (plain' : '\\' ∉ importer'.toList) (same : clean importer = clean importer')
    (relative : String) : absolute importer relative = absolute importer' relative := by
  obtain ⟨name, hname, hdown⟩ := file
  obtain ⟨name', hname', hdown'⟩ := file'
  obtain ⟨before, hsteps⟩ := List.getLast?_eq_some_iff.1 hname
  obtain ⟨before', hsteps'⟩ := List.getLast?_eq_some_iff.1 hname'
  obtain ⟨parent, hparent, hroute⟩ := exists_parent? hsteps
  obtain ⟨parent', hparent', hroute'⟩ := exists_parent? hsteps'
  -- the files' normal routes are those of their directories and one step more
  have hfile : (Route.ofText importer.toList).normal =
      ⟨isRooted importer.toList, (Route.ofText parent.toList).normal.steps ++ [name]⟩ := by
    rw [hroute, ← Route.normal_append _ _ hdown, ← hsteps]
    rfl
  have hfile' : (Route.ofText importer'.toList).normal =
      ⟨isRooted importer'.toList, (Route.ofText parent'.toList).normal.steps ++ [name']⟩ := by
    rw [hroute', ← Route.normal_append _ _ hdown', ← hsteps']
    rfl
  rw [clean_eq_iff plain plain', hfile, hfile', Route.mk.injEq] at same
  have hdirectory : (Route.ofText parent.toList).normal = (Route.ofText parent'.toList).normal := by
    have hrooted : (Route.ofText parent.toList).normal.rooted =
        (Route.ofText parent'.toList).normal.rooted := by
      rw [hroute, hroute']
      exact same.1
    exact (Route.mk.injEq ..).mpr ⟨hrooted, (List.append_inj' same.2 rfl).1⟩
  rw [absolute, absolute, hparent, hparent', Option.getD_some, Option.getD_some, clean, clean,
    ofText_join, ofText_join, Route.normal_follow hdirectory]

end ContractProject.Path
