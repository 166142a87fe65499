import ContractProject.Proofs.Installation.Visit

/-!
What becomes of one target: its contract is looked up, and recorded if it is there. `add` comes to
one target after the other, depth first and up to the first failure; the trace of a run tells to
which.
-/

namespace ContractProject.Installation

/-- A contract that is to be installed under a name. -/
structure Target where
  name : String
  source : Source

namespace Target

/-- The contract at a source under its own name. -/
def own (s : Source) : Target := ⟨s.contract, s⟩

/-- What is kept of a target that was visited: its place and the name that it got. -/
def mark (t : Target) : Source := { t.source with contract := t.name }

@[simp] theorem mark_own (s : Source) : (own s).mark = s := rfl

/-- There is a contract at the source of the target. -/
def Found (gateways : Gateways) (t : Target) : Prop := ∃ p, gateways.Finds t.source p

end Target

variable {σ : Type} [Storage σ] {gateways : Gateways} {network : Option String}
  {i j k : Installation σ} {t : Target} {log : List Target} {r : Except Error Unit}

/-! ### One visit -/

/-- What is done once the account of a target has been fetched, or cannot be: what is found there is
recorded, and the sources of its imports are told. -/
def settle (gateways : Gateways) (network : Option String) (t : Target) (i : Installation σ) :
    Installation σ × Except Error (List Source) :=
  match gateways.locate t.source with
  | .error e => (i, .error e)
  | .ok none => (i, .ok [])
  | .ok (some p) =>
    match i.record t.name t.source p with
    | (i, .error e) => (i, .error e)
    | (i, .ok ()) => (i, .ok (imports network t.source p))

/-- Visiting is asking and settling at once. -/
theorem visit_eq_settle (t : Target) (i : Installation σ) :
    visit gateways network t.name t.source i =
      settle gateways network t (i.request gateways t.source) := rfl

/-- What a target does to the project and its files. -/
inductive Visited (gateways : Gateways) (i : Installation σ) (t : Target) (j : Installation σ) :
    Except Error Unit → Prop where
  /-- Whether there is a contract cannot be told. -/
  | unanswered {e : Error} : gateways.locate t.source = .error e → j.project = i.project →
      j.storage = i.storage → Visited gateways i t j (.error e)
  | absent : gateways.locate t.source = .ok none → j.project = i.project →
      j.storage = i.storage → Visited gateways i t j (.ok ())
  /-- The source of the contract cannot be written. -/
  | unwritten {p : Cadence.Program} {e : Error} : gateways.Finds t.source p →
      Storage.writeOnce i.storage (i.project.pathOf t.source.location)
        (Utf8.encode p.unprocessed) = (j.storage, .error e) →
      j.project = i.project → Visited gateways i t j (.error e)
  /-- The project is changed, and saved unless it cannot be written. -/
  | recorded {p : Cadence.Program} {storage : σ} {r : Except Error Unit} :
      gateways.Finds t.source p →
      Storage.writeOnce i.storage (i.project.pathOf t.source.location)
        (Utf8.encode p.unprocessed) = (storage, .ok ()) →
      j.project =
        addDependency i.project
          (dependency i.project t.name t.source (Utf8.encode p.unprocessed)) →
      j.project.save storage = (j.storage, r) → Visited gateways i t j r

theorem visited_of_record {p : Cadence.Program} (found : gateways.Finds t.source p)
    (h : i.record t.name t.source p = (j, r)) : Visited gateways i t j r := by
  obtain ⟨e, hwritten, rfl, hproject⟩ | ⟨storage, hwritten, hadded, hsaved⟩ := record_cases found h
  · exact .unwritten found hwritten hproject
  · exact .recorded found hwritten hadded hsaved

theorem visited_of_settle {result : Except Error (List Source)}
    (h : settle gateways network t i = (j, result)) :
    Visited gateways i t j (result.map fun _ => ()) := by
  unfold settle at h
  split at h
  · next e hl =>
    obtain ⟨rfl, rfl⟩ := Prod.mk.inj h
    exact .unanswered hl rfl rfl
  · next hl =>
    obtain ⟨rfl, rfl⟩ := Prod.mk.inj h
    exact .absent hl rfl rfl
  · next p hl =>
    have found := Gateways.locate_eq_some_iff.1 hl
    split at h
    · next k e hr =>
      obtain ⟨rfl, rfl⟩ := Prod.mk.inj h
      exact visited_of_record found hr
    · next k hr =>
      obtain ⟨rfl, rfl⟩ := Prod.mk.inj h
      exact visited_of_record found hr

theorem visited_of_visit {result : Except Error (List Source)}
    (h : visit gateways network t.name t.source i = (j, result)) :
    Visited gateways i t j (result.map fun _ => ()) := by
  rw [visit_eq_settle] at h
  have visited := visited_of_settle h
  generalize result.map (fun _ => ()) = r at visited
  cases visited with
  | unanswered hl project storage =>
    exact .unanswered hl (project.trans (project_request i _)) (storage.trans (storage_request i _))
  | absent hl project storage =>
    exact .absent hl (project.trans (project_request i _)) (storage.trans (storage_request i _))
  | unwritten found written project =>
    rw [project_request, storage_request] at written
    exact .unwritten found written (project.trans (project_request i _))
  | recorded found written added saved =>
    rw [project_request, storage_request] at written
    rw [project_request] at added
    exact .recorded found written added saved

/-- What is imported by the contract of a target that has settled. -/
theorem settle_eq_ok {children : List Source}
    (h : settle gateways network t i = (j, .ok children)) :
    (gateways.locate t.source = .ok none ∧ children = []) ∨
      ∃ p, gateways.Finds t.source p ∧ children = imports network t.source p := by
  unfold settle at h
  split at h
  · cases (Prod.mk.inj h).2
  · next hl => exact .inl ⟨hl, (Except.ok.inj (Prod.mk.inj h).2).symm⟩
  · next p hl =>
    split at h
    · cases (Prod.mk.inj h).2
    · exact .inr ⟨p, Gateways.locate_eq_some_iff.1 hl, (Except.ok.inj (Prod.mk.inj h).2).symm⟩

namespace Visited

theorem path (visited : Visited gateways i t j r) : j.project.path = i.project.path := by
  cases visited with
  | unanswered _ project _ => rw [project]
  | absent _ project _ => rw [project]
  | unwritten _ _ project => rw [project]
  | recorded _ _ added _ => rw [added]; rfl

/-- A target that succeeds was answered. -/
theorem answers (visited : Visited gateways i t j (.ok ())) : gateways.Answers t.source := by
  rw [← Gateways.exists_locate_iff]
  generalize hr : Except.ok () = r at visited
  cases visited with
  | unanswered _ _ _ => cases hr
  | absent hl _ _ => exact ⟨_, hl⟩
  | unwritten _ _ _ => cases hr
  | recorded found _ _ _ => exact ⟨_, Gateways.locate_eq_some_iff.2 found⟩

/-- A target that fails was not answered, unless there is a contract that cannot be written. -/
theorem found_or_not_answers {e : Error} (visited : Visited gateways i t j (.error e)) :
    t.Found gateways ∨ ¬ gateways.Answers t.source := by
  generalize hr : Except.error e = r at visited
  cases visited with
  | unanswered hl _ _ =>
    refine .inr fun answers => ?_
    obtain ⟨found, hfound⟩ := Gateways.exists_locate_iff.2 answers
    simp [hl] at hfound
  | absent _ _ _ => cases hr
  | unwritten found _ _ => exact .inl ⟨_, found⟩
  | recorded found _ _ _ => exact .inl ⟨_, found⟩

/-- A target where nothing is found leaves all as it is. -/
theorem same (visited : Visited gateways i t j r) (absent : ¬ t.Found gateways) :
    j.project = i.project ∧ j.storage = i.storage := by
  cases visited with
  | unanswered _ project storage => exact ⟨project, storage⟩
  | absent _ project storage => exact ⟨project, storage⟩
  | unwritten found _ _ => exact absurd ⟨_, found⟩ absent
  | recorded found _ _ _ => exact absurd ⟨_, found⟩ absent

/-- A target where a contract is found records it if all can be written. -/
theorem exists_recorded (visited : Visited gateways i t j (.ok ())) {p : Cadence.Program}
    (found : gateways.Finds t.source p) :
    ∃ storage, Recorded i t.name t.source (Utf8.encode p.unprocessed) storage j := by
  generalize hr : Except.ok () = r at visited
  cases visited with
  | unanswered _ _ _ => cases hr
  | absent hl _ _ => exact absurd found (Gateways.not_finds_of_locate hl)
  | unwritten _ _ _ => cases hr
  | recorded found' written added saved =>
    obtain rfl := found.unique found'
    exact ⟨_, written, added, hr ▸ saved⟩

end Visited

theorem answers_of_found (found : t.Found gateways) : gateways.Answers t.source := by
  obtain ⟨p, found⟩ := found
  exact Gateways.exists_locate_iff.1 ⟨some p, Gateways.locate_eq_some_iff.2 found⟩

/-- Installing a contract without imports is one visit. -/
theorem add_of_visit {name : String} {s : Source}
    (h : visit gateways network name s i = (j, .ok [])) :
    add gateways network name s i = (j, .ok ()) := by
  rw [add, h]
  exact visitAll.eq_1 ..

/-! ### Traces -/

/-- A run with the targets that it visits in order: those that are pending, and before the others of
them what each one imports, passing over marks that were left before. A failure ends it. -/
inductive Trace (gateways : Gateways) (network : Option String) :
    List Source → List Target → Installation σ → List Target → Installation σ →
      Except Error Unit → Prop where
  | done {visited : List Source} {i : Installation σ} :
      Trace gateways network visited [] i [] i (.ok ())
  | seen {visited : List Source} {t : Target} {pending log : List Target} {i j : Installation σ}
      {r : Except Error Unit} : t.mark ∈ visited →
      Trace gateways network visited pending i log j r →
      Trace gateways network visited (t :: pending) i log j r
  | fails {visited : List Source} {t : Target} {pending : List Target} {i j : Installation σ}
      {e : Error} : t.mark ∉ visited →
      visit gateways network t.name t.source i = (j, .error e) →
      Trace gateways network visited (t :: pending) i [t] j (.error e)
  | visit {visited children : List Source} {t : Target} {pending log : List Target}
      {i j k : Installation σ} {r : Except Error Unit} : t.mark ∉ visited →
      visit gateways network t.name t.source i = (k, .ok children) →
      Trace gateways network (t.mark :: visited) (children.map .own ++ pending) k log j r →
      Trace gateways network visited (t :: pending) i (t :: log) j r

theorem exists_trace_of_visitAll {visited pending : List Source}
    (h : visitAll gateways network visited pending i = (j, r)) :
    ∃ log, Trace gateways network visited (pending.map .own) i log j r := by
  fun_induction visitAll gateways network visited pending i with
  | case1 visited i =>
    obtain ⟨rfl, rfl⟩ := Prod.mk.inj h
    exact ⟨[], .done⟩
  | case2 visited s pending i hs ih =>
    obtain ⟨log, trace⟩ := ih h
    exact ⟨log, .seen hs trace⟩
  | case3 visited s pending i hs k e hv =>
    obtain ⟨rfl, rfl⟩ := Prod.mk.inj h
    exact ⟨[.own s], .fails hs hv⟩
  | case4 visited s pending i hs k hv ih =>
    obtain ⟨log, trace⟩ := ih h
    exact ⟨.own s :: log, .visit hs hv trace⟩
  | case5 visited s pending i hs k child children hv ih =>
    obtain ⟨log, trace⟩ := ih h
    refine ⟨.own s :: log, .visit hs hv ?_⟩
    rwa [← List.map_append]

theorem exists_trace_of_add (h : add gateways network t.name t.source i = (j, r)) :
    ∃ log, Trace gateways network [] [t] i log j r := by
  unfold add at h
  split at h
  · next k e hv =>
    obtain ⟨rfl, rfl⟩ := Prod.mk.inj h
    exact ⟨[t], .fails List.not_mem_nil hv⟩
  · next k imported hv =>
    obtain ⟨log, trace⟩ := exists_trace_of_visitAll h
    refine ⟨t :: log, .visit List.not_mem_nil hv ?_⟩
    rwa [List.append_nil]

/-- A run takes one course. -/
theorem Trace.unique {visited : List Source} {pending log' : List Target} {j' : Installation σ}
    {r' : Except Error Unit} (trace : Trace gateways network visited pending i log j r)
    (other : Trace gateways network visited pending i log' j' r') :
    log = log' ∧ j = j' ∧ r = r' := by
  induction trace generalizing log' with
  | done =>
    cases other
    exact ⟨rfl, rfl, rfl⟩
  | seen hmark _ ih =>
    cases other with
    | seen _ other => exact ih other
    | fails hnew _ => exact absurd hmark hnew
    | visit hnew _ _ => exact absurd hmark hnew
  | fails hnew hv =>
    cases other with
    | seen hmark _ => exact absurd hmark hnew
    | fails _ hv' =>
      obtain ⟨rfl, he⟩ := Prod.mk.inj (hv.symm.trans hv')
      obtain rfl := Except.error.inj he
      exact ⟨rfl, rfl, rfl⟩
    | visit _ hv' _ => cases (Prod.mk.inj (hv.symm.trans hv')).2
  | visit hnew hv _ ih =>
    cases other with
    | seen hmark _ => exact absurd hmark hnew
    | fails _ hv' => cases (Prod.mk.inj (hv.symm.trans hv')).2
    | visit _ hv' other =>
      obtain ⟨rfl, hchildren⟩ := Prod.mk.inj (hv.symm.trans hv')
      obtain rfl := Except.ok.inj hchildren
      obtain ⟨rfl, hj, hr⟩ := ih other
      exact ⟨rfl, hj, hr⟩

theorem add_of_trace (trace : Trace gateways network [] [t] i log j r) :
    add gateways network t.name t.source i = (j, r) := by
  cases done : add gateways network t.name t.source i with
  | mk j' r' =>
    obtain ⟨log', other⟩ := exists_trace_of_add done
    obtain ⟨-, rfl, rfl⟩ := trace.unique other
    rfl

theorem visitAll_of_visit {visited pending children : List Source} {s : Source} (new : s ∉ visited)
    (h : visit gateways network s.contract s i = (k, .ok children)) :
    visitAll gateways network visited (s :: pending) i =
      visitAll gateways network (s :: visited) (children ++ pending) k := by
  rw [visitAll, if_neg new]
  split
  · next hv => cases (Prod.mk.inj (h.symm.trans hv)).2
  · next hv =>
    obtain ⟨rfl, hchildren⟩ := Prod.mk.inj (h.symm.trans hv)
    rw [Except.ok.inj hchildren, List.nil_append]
  · next hv =>
    obtain ⟨rfl, hchildren⟩ := Prod.mk.inj (h.symm.trans hv)
    rw [Except.ok.inj hchildren]

/-- Installing a contract that imports one without imports is two visits. -/
theorem add_of_visits {s : Source} (hv : visit gateways network t.name t.source i = (k, .ok [s]))
    (new : s ≠ t.mark) (hs : visit gateways network s.contract s k = (j, .ok [])) :
    add gateways network t.name t.source i = (j, .ok ()) ∧
      Trace gateways network [] [t] i [t, .own s] j (.ok ()) := by
  have hnew : s ∉ [t.mark] := by simpa using new
  refine ⟨?_, .visit List.not_mem_nil hv (.visit hnew hs .done)⟩
  rw [add, hv]
  exact (visitAll_of_visit hnew hs).trans (visitAll.eq_1 ..)

/-- The same of visits whose results have been evaluated. -/
theorem add_of_results {s : Source}
    (results : (fun v : Installation σ × Except Error (List Source) =>
      (v.2.toOption, (visit gateways network s.contract s v.1).2.toOption))
        (visit gateways network t.name t.source i) = (some [s], some []))
    (new : s ≠ t.mark) :
    add gateways network t.name t.source i =
      ((visit gateways network s.contract s (visit gateways network t.name t.source i).1).1,
        .ok ()) := by
  cases hv : visit gateways network t.name t.source i with
  | mk k children =>
  cases hs : visit gateways network s.contract s k with
  | mk j none =>
  simp only [hv, hs, Prod.mk.injEq] at results
  obtain rfl := eq_ok_of_toOption results.1
  obtain rfl := eq_ok_of_toOption results.2
  exact (add_of_visits hv new hs).1

/-- If a contract imports nothing but what goes by its own mark, its visit is all. -/
theorem add_of_own_mark (h : (visit gateways network t.name t.source i).2 = .ok [t.mark]) :
    add gateways network t.name t.source i =
      ((visit gateways network t.name t.source i).1, .ok ()) := by
  cases hv : visit gateways network t.name t.source i with
  | mk k children =>
  simp only [hv] at h
  subst h
  rw [add, hv]
  show visitAll gateways network [t.mark] [t.mark] k = (k, .ok ())
  rw [visitAll, if_pos List.mem_cons_self, visitAll]

end ContractProject.Installation
