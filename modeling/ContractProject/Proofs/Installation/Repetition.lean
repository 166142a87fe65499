import ContractProject.Proofs.Installation.Writes

/-!
Installing the same contract once more, in the order of `add`. What a run adds to the project
depends on the names that it gives and not on how far it has come, so a second run adds the same
again, and that changes nothing.
-/

namespace ContractProject.Installation

/-- Adding the same dependencies once more changes nothing. -/
theorem addDependencies_addDependencies (p : Project) (ds : List Dependency) :
    addDependencies (addDependencies p ds) ds = addDependencies p ds := by
  rw [addDependencies_eq, addDependencies_eq, Collection.foldl_insert_foldl_insert,
    Collection.foldl_insert_foldl_insert]

/-! ### Runs that succeed -/

variable {σ φ : Type} [Storage σ] {gateways : Gateways} {network : Option String}
  {i j k : Installation σ} {t : Target} {log : List Target} {usable : σ → Prop}
  {file : String → φ} {paths : String → Prop}

/-- What a run does that succeeds. -/
structure Settles (gateways : Gateways) (file : String → φ) (paths : String → Prop)
    (i : Installation σ) (log : List Target) (j : Installation σ) : Prop where
  project : j.project = addDependencies i.project (dependenciesOf gateways i.project log)
  kept : ∀ path, paths path → Storage.contains i.storage path → Storage.contains j.storage path
  there : ∀ t ∈ log, t.Found gateways →
    Storage.contains j.storage (i.project.pathOf t.source.location)
  saved : (∃ t ∈ log, t.Found gateways) → ∀ path, paths path → file path = file i.project.path →
    Storage.fileAt? j.storage path = some j.project.manifest.toBytes
  same : (¬ ∃ t ∈ log, t.Found gateways) → j.project = i.project ∧ j.storage = i.storage

theorem Settles.path (h : Settles gateways file paths i log j) :
    j.project.path = i.project.path := by
  rw [h.project, path_addDependencies]

theorem Settles.of_eq (absent : ∀ t ∈ log, ¬ t.Found gateways) (project : j.project = i.project)
    (storage : j.storage = i.storage) : Settles gateways file paths i log j where
  project := by
    have hnone : dependenciesOf gateways i.project log = [] := by
      refine List.filterMap_eq_nil_iff.2 fun t ht => ?_
      rw [fetched?_eq_none_iff.2 (absent t ht), Option.map_none]
    rw [hnone, project]
    rfl
  kept _ _ h := storage ▸ h
  there t ht found := absurd found (absent t ht)
  saved := by
    rintro ⟨t, ht, found⟩
    exact absurd found (absent t ht)
  same _ := ⟨project, storage⟩

theorem Settles.append {first : List Target} (h : Settles gateways file paths i first k)
    (g : Settles gateways file paths k log j) (covers : Covers paths i.project) :
    Settles gateways file paths i (first ++ log) j where
  project := by rw [g.project, h.project, addDependencies_append]
  kept path hpath hi := g.kept path hpath (h.kept path hpath hi)
  there t ht found := by
    rcases List.mem_append.1 ht with ht | ht
    · obtain ⟨program, hfinds⟩ := found
      exact g.kept _ (covers.source hfinds) (h.there t ht ⟨program, hfinds⟩)
    · rw [← pathOf_of_path h.path]
      exact g.there t ht found
  saved := by
    rintro ⟨t, ht, found⟩ path hpath heq
    by_cases hlog : ∃ t ∈ log, t.Found gateways
    · exact g.saved hlog path hpath (heq.trans (congrArg file h.path.symm))
    · -- nothing was recorded later, so the file is as the earlier run has left it
      obtain ⟨project, storage⟩ := g.same hlog
      have hfirst : t ∈ first :=
        (List.mem_append.1 ht).resolve_right fun ht => hlog ⟨t, ht, found⟩
      rw [project, storage]
      exact h.saved ⟨t, hfirst, found⟩ path hpath heq
  same := by
    intro hnone
    have hfirst : ¬ ∃ t ∈ first, t.Found gateways := by
      rintro ⟨t, ht, found⟩
      exact hnone ⟨t, List.mem_append_left log ht, found⟩
    have hlog : ¬ ∃ t ∈ log, t.Found gateways := by
      rintro ⟨t, ht, found⟩
      exact hnone ⟨t, List.mem_append_right first ht, found⟩
    obtain ⟨hproject, hstorage⟩ := h.same hfirst
    obtain ⟨gproject, gstorage⟩ := g.same hlog
    exact ⟨gproject.trans hproject, gstorage.trans hstorage⟩

theorem Visited.settles (visited : Visited gateways i t j (.ok ()))
    (filing : Storage.Filing σ file paths) (covers : Covers paths i.project) :
    Settles gateways file paths i [t] j := by
  by_cases found : t.Found gateways
  · obtain ⟨program, found⟩ := found
    obtain ⟨storage, recorded⟩ := visited.exists_recorded found
    have hsource := covers.source found
    have hsaved := recorded.saved
    rw [Project.save, recorded.path] at hsaved
    have hthere := filing.contains_self_of_writeOnce hsource recorded.written
    refine ⟨visited.project_eq fun _ => rfl, fun path hpath hi => ?_,
      List.forall_mem_singleton.2 fun _ => ?_, fun _ path hpath heq => ?_, fun hnone => ?_⟩
    · have hkept := filing.contains_of_writeOnce hsource hpath recorded.written hi
      exact filing.contains_of_writeWithParent covers.manifest hpath hsaved hkept
    · exact filing.contains_of_writeWithParent covers.manifest hsource hsaved hthere
    · exact filing.fileAt?_of_eq covers.manifest hpath heq hsaved
    · exact absurd ⟨t, List.mem_cons_self, program, found⟩ hnone
  · obtain ⟨project, storage⟩ := visited.same found
    exact .of_eq (List.forall_mem_singleton.2 found) project storage

theorem Trace.settles {visited : List Source} {pending : List Target}
    (trace : Trace gateways network visited pending i log j (.ok ()))
    (filing : Storage.Filing σ file paths) (covers : Covers paths i.project) :
    Settles gateways file paths i log j := by
  generalize hr : Except.ok () = r at trace
  induction trace with
  | done => exact .of_eq (fun t ht => absurd ht List.not_mem_nil) rfl rfl
  | seen _ _ ih => exact ih covers hr
  | fails => cases hr
  | @visit _ _ t _ log _ _ _ _ _ hv _ ih =>
    have first := (visited_of_visit hv).settles filing covers
    exact first.append (ih (covers.congr first.path.symm) hr) covers

/-! ### The second time -/

/-- Visiting a source once more goes as before. If the contract is in its place already, only the
manifest is written. -/
theorem visit_again {name : String} {s : Source} {children : List Source}
    (h : visit gateways network name s i = (j, .ok children)) {m : Installation σ}
    (start : usable m.storage) (manifest : Storage.Accepts usable m.project.path)
    (there : (∃ p, gateways.Finds s p) → Storage.contains m.storage (m.project.pathOf s.location)) :
    ∃ k, visit gateways network name s m = (k, .ok children) ∧ usable k.storage ∧
      (k.storage = m.storage ∨ ∃ contents,
        Storage.writeWithParent m.storage m.project.path contents = (k.storage, .ok ())) := by
  rcases visit_eq_ok_iff.1 h with ⟨hnone, -, rfl⟩ | ⟨p, found, hrecord, rfl⟩
  · have hstorage : (m.request gateways s).storage = m.storage := storage_request m s
    exact ⟨_, visit_eq_ok_iff.2 (.inl ⟨hnone, rfl, rfl⟩), hstorage ▸ start, .inl hstorage⟩
  · obtain ⟨q, hq, -⟩ := exists_convertImports_of_finds found
    let project := addDependency m.project (dependency m.project name s (Utf8.encode q.code))
    obtain ⟨t, hsaved, husable, -⟩ := manifest.write m.storage project.manifest.toBytes start
    have hwritten : Storage.writeOnce m.storage (m.project.pathOf
        (dependency m.project name s (Utf8.encode q.code)).location) (Utf8.encode q.code) =
        (m.storage, .ok ()) := if_pos (there ⟨p, found⟩)
    have hsave : project.save m.storage = (t, .ok ()) := hsaved
    let k : Installation σ := { m.request gateways s with project, storage := t }
    have hrecord : (m.request gateways s).record name s p = (k, .ok ()) := by
      simp only [record, hq, project_request, storage_request, hwritten]
      simp only [project] at hsave
      rw [hsave]
    exact ⟨k, visit_eq_ok_iff.2 (.inr ⟨p, found, hrecord, rfl⟩), husable, .inr ⟨_, hsaved⟩⟩

/-- A run goes again as it went before, and changes no file but the manifest, once all that it finds
is in its place. -/
theorem Trace.again {visited : List Source} {pending : List Target}
    (trace : Trace gateways network visited pending i log j (.ok ()))
    (filing : Storage.Filing σ file paths) {m : Installation σ} (start : usable m.storage)
    (manifest : Storage.Accepts usable m.project.path) (covers : Covers paths m.project)
    (there : ∀ t ∈ log, t.Found gateways →
      Storage.contains m.storage (m.project.pathOf t.source.location)) :
    ∃ k, Trace gateways network visited pending m log k (.ok ()) ∧
      ∀ path, paths path → file path ≠ file m.project.path →
        Storage.SameAt m.storage k.storage path := by
  generalize hr : Except.ok () = r at trace
  induction trace generalizing m with
  | done => exact ⟨m, .done, fun path _ _ => .refl m.storage path⟩
  | seen hmark _ ih =>
    obtain ⟨k, again, hfiles⟩ := ih start manifest covers there hr
    exact ⟨k, .seen hmark again, hfiles⟩
  | fails => cases hr
  | @visit visited children t pending log i j l r hnew hv trace ih =>
    obtain ⟨k, hk, husable, hstorage⟩ := visit_again hv start manifest (there t List.mem_cons_self)
    have settles := (visited_of_visit hk).settles filing covers
    have hfiles : ∀ path, paths path → file path ≠ file m.project.path →
        Storage.SameAt m.storage k.storage path := by
      intro path hpath hne
      rcases hstorage with hstorage | ⟨contents, hsaved⟩
      · rw [hstorage]
        exact .refl m.storage path
      · exact filing.sameAt_of_ne covers.manifest hpath hne hsaved
    have hthere : ∀ u ∈ log, u.Found gateways →
        Storage.contains k.storage (k.project.pathOf u.source.location) := by
      rintro u hu ⟨p, found⟩
      rw [pathOf_of_path settles.path]
      exact settles.kept _ (covers.source found) (there u (List.mem_cons_of_mem t hu) ⟨p, found⟩)
    obtain ⟨k', again, hfiles'⟩ := ih husable (settles.path.symm ▸ manifest)
      (covers.congr settles.path.symm) hthere hr
    refine ⟨k', .visit hnew hk again, fun path hpath hne => ?_⟩
    exact (hfiles path hpath hne).trans (hfiles' path hpath (settles.path ▸ hne))

/-- Installing a contract that has been installed, under the same name and from the same networks,
succeeds again if the manifest can be written, and leaves the project and all files as they are. -/
theorem add_again {name : String} {s : Source} (filing : Storage.Filing σ file paths)
    (covers : Covers paths i.project) (done : add gateways network name s i = (j, .ok ()))
    (start : usable j.storage) (manifest : Storage.Accepts usable i.project.path) :
    ∃ k, add gateways network name s j = (k, .ok ()) ∧ k.project = j.project ∧
      ∀ path, paths path → Storage.fileAt? k.storage path = Storage.fileAt? j.storage path := by
  obtain ⟨log, trace⟩ := exists_trace_of_add (t := ⟨name, s⟩) done
  have first := trace.settles filing covers
  have covers' := covers.congr first.path.symm
  have there : ∀ t ∈ log, t.Found gateways →
      Storage.contains j.storage (j.project.pathOf t.source.location) := by
    intro t ht found
    rw [pathOf_of_path first.path]
    exact first.there t ht found
  obtain ⟨k, again, hfiles⟩ :=
    trace.again filing start (first.path.symm ▸ manifest) covers' there
  have second := again.settles filing covers'
  have hproject : k.project = j.project := by
    have hsame : dependenciesOf gateways j.project log = dependenciesOf gateways i.project log := by
      rw [first.project, dependenciesOf_addDependencies]
    rw [second.project, hsame, first.project, addDependencies_addDependencies]
  refine ⟨k, add_of_trace again, hproject, fun path hpath => ?_⟩
  by_cases heq : file path = file j.project.path
  · -- the manifest is saved again, with the same contents, if anything is recorded at all
    by_cases hlog : ∃ t ∈ log, t.Found gateways
    · rw [second.saved hlog path hpath heq, hproject,
        first.saved hlog path hpath (heq.trans (congrArg file first.path))]
    · rw [(second.same hlog).2]
  · exact (hfiles path hpath heq).file

/-- When `A` is installed under the name of what it imports, both are recorded under that name. So
they are the second time, and the last one stays. -/
theorem add_again_of_linked : ∃ j k,
    add linkedGateways none "B" (sampleSource 1 "A") sampleInstallation = (j, .ok ()) ∧
      add linkedGateways none "B" (sampleSource 1 "A") j = (k, .ok ()) ∧
      k.project = j.project ∧ k.project.manifest.dependencies.keys = ["B"] ∧
      Storage.fileAt? k.storage Manifest.defaultPath =
        Storage.fileAt? j.storage Manifest.defaultPath := by
  have results : (fun v : Installation MemoryStorage × Except Error (List Source) =>
      (v.2.toOption, (visit linkedGateways none "B" (sampleSource 2 "B") v.1).2.toOption))
        (visit linkedGateways none "B" (sampleSource 1 "A") sampleInstallation) =
      (some [sampleSource 2 "B"], some []) := by
    decide +kernel
  have done := add_of_results (t := ⟨"B", sampleSource 1 "A"⟩) results (by decide)
  obtain ⟨k, again, hproject, hfiles⟩ := add_again MemoryStorage.filing
    ⟨trivial, fun _ _ => trivial⟩ done (by unfold MemoryStorage.Free; decide +kernel)
    (MemoryStorage.accepts _)
  refine ⟨_, k, done, again, hproject, ?_, hfiles _ trivial⟩
  rw [hproject]
  decide +kernel

end ContractProject.Installation
