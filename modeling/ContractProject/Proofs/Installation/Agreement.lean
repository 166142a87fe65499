import ContractProject.Proofs.Installation.Closure
import ContractProject.Proofs.Installation.Location
import ContractProject.Proofs.Storage.Filing

/-!
What a call records agrees with what it has written, whatever the order of its fetches. Files are
kept by address and contract, and entries by name, so the same file can be that of two entries, and
one entry can take the place of another. Still, where a source belongs there is either no file or
the right one at each step, and the right one once the source has been recorded.
-/

namespace ContractProject.Installation

variable {σ : Type} [Storage σ] {gateways : Gateways} {permits : Nat} {root s : Source}
  {first t : Target} {i j k : Installation σ} {name n : String} {log : List Outcome}
  {r : Except Error Unit}

/-- The file of a dependency has the code that its hash is of, and a contract stands for it. -/
structure InPlace (gateways : Gateways) (p : Project) (storage : σ) (d : Dependency) : Prop where
  file : ∃ program, gateways.Finds d.source program ∧
    p.read storage d.location = .ok (Utf8.encode program.unprocessed) ∧
    d.hash = Sha256.hexDigest (Utf8.encode program.unprocessed)
  address : d.aliases.address? d.source.network = some d.source.address
  contract : p.manifest.contracts.get? d.name =
    some ⟨d.name, d.location, d.aliases, d.canonical, true⟩

/-! ### Files -/

/-- Where a run from a source writes: the manifest, and what it installs. -/
inductive Touched (gateways : Gateways) (root : Source) (p : Project) : String → Prop
  | manifest : Touched gateways root p p.path
  | source {t : Source} {q : Cadence.Program} : Reachable gateways none root t →
      gateways.Finds t q → Touched gateways root p (p.pathOf t.location)

theorem network_of_reachable {root t : Source} (h : Reachable gateways none root t) :
    t.network = root.network := by
  induction h with
  | root => rfl
  | step _ _ hnetwork _ ih => exact hnetwork.trans ih

/-- What is reached on one network is told apart by where it is installed. -/
theorem eq_of_pathOf {p : Project} {root s t : Source} (hs : Reachable gateways none root s)
    (ht : Reachable gateways none root t) (h : p.pathOf s.location = p.pathOf t.location) :
    s = t := by
  obtain ⟨haddress, hname⟩ := Source.eq_of_location (Project.location_eq_of_pathOf h)
  have hnetwork := (network_of_reachable hs).trans (network_of_reachable ht).symm
  cases s
  cases t
  simp_all

/-- Where a source belongs that the root leads to there is no file, or its code. -/
structure Filed (gateways : Gateways) (root : Source) (start p : Project) (storage : σ) : Prop where
  path : p.path = start.path
  files : ∀ s program, Reachable gateways none root s → gateways.Finds s program →
    Storage.contains storage (start.pathOf s.location) = false ∨
      Storage.readAt storage (start.pathOf s.location) = .ok (Utf8.encode program.unprocessed)

section Recorded

variable {start : Project} (filed : Filed gateways root start j.project j.storage)
  (separate : Storage.Separate σ (Touched gateways root start))
  (reachable : Reachable gateways none root s) {program : Cadence.Program}
  (found : gateways.Finds s program) {storage : σ}
  (recorded : Recorded j name s (Utf8.encode program.unprocessed) storage k)

include filed separate reachable found recorded

/-- Recording a source leaves its code where it belongs, and the other files as they are. -/
theorem Filed.files_of_recorded :
    Storage.readAt k.storage (start.pathOf s.location) = .ok (Utf8.encode program.unprocessed) ∧
    ∀ t r, Reachable gateways none root t → gateways.Finds t r → t ≠ s →
      Storage.readAt k.storage (start.pathOf t.location) =
          Storage.readAt j.storage (start.pathOf t.location) ∧
        Storage.contains k.storage (start.pathOf t.location) =
          Storage.contains j.storage (start.pathOf t.location) := by
  have hpath : Touched gateways root start (start.pathOf s.location) := .source reachable found
  have hne := Project.pathOf_ne_path (p := start) (isName_of_finds found)
  have hwritten := recorded.written
  have hsaved := recorded.saved
  rw [pathOf_of_path filed.path] at hwritten
  rw [Project.save, recorded.path, filed.path] at hsaved
  -- saving the manifest afterwards leaves all sources as they are
  have kept {t : Source} {r : Cadence.Program} (ht : Reachable gateways none root t)
      (hr : gateways.Finds t r) := separate.kept .manifest (.source ht hr)
    (Project.pathOf_ne_path (isName_of_finds hr)) hsaved
  rcases Storage.writeOnce_cases hwritten with ⟨there, rfl, -⟩ | ⟨-, hwrite⟩
  · have code := (filed.files s program reachable found).resolve_left (by simp [there])
    exact ⟨(kept reachable found).1.trans code, fun t r ht hr _ => kept ht hr⟩
  · refine ⟨(kept reachable found).1.trans (separate.written hpath hwrite), fun t r ht hr hts => ?_⟩
    have hsource := separate.kept hpath (.source ht hr)
      (fun h => hts (eq_of_pathOf ht reachable h)) hwrite
    exact ⟨(kept ht hr).1.trans hsource.1, (kept ht hr).2.trans hsource.2⟩

/-- The right code stays, be it that of this source or of another one. -/
theorem Filed.readAt_of_recorded {t : Source} {r : Cadence.Program}
    (ht : Reachable gateways none root t) (hr : gateways.Finds t r)
    (code : Storage.readAt j.storage (start.pathOf t.location) = .ok (Utf8.encode r.unprocessed)) :
    Storage.readAt k.storage (start.pathOf t.location) = .ok (Utf8.encode r.unprocessed) := by
  obtain ⟨hsource, hothers⟩ := filed.files_of_recorded separate reachable found recorded
  by_cases hts : t = s
  · subst hts
    rw [hsource, found.unique hr]
  · rw [(hothers t r ht hr hts).1, code]

theorem Filed.of_recorded : Filed gateways root start k.project k.storage := by
  obtain ⟨hsource, hothers⟩ := filed.files_of_recorded separate reachable found recorded
  refine ⟨recorded.path.trans filed.path, fun t r ht hr => ?_⟩
  rcases filed.files t r ht hr with free | code
  · by_cases hts : t = s
    · subst hts
      rw [hsource, found.unique hr]
      exact .inr rfl
    · exact .inl ((hothers t r ht hr hts).2.trans free)
  · exact .inr (filed.readAt_of_recorded separate reachable found recorded ht hr code)

end Recorded

/-- What settles is filed, and no file is spoilt. -/
structure Places (gateways : Gateways) (root : Source) (start : Project) (i : Installation σ)
    (log : List Outcome) (j : Installation σ) : Prop where
  filed : Filed gateways root start j.project j.storage
  reachable : ∀ o ∈ log, Reachable gateways none root o.target.source
  there : ∀ o ∈ log, ∀ program, gateways.Finds o.target.source program →
    Storage.readAt j.storage (start.pathOf o.target.source.location) =
      .ok (Utf8.encode program.unprocessed)
  kept : ∀ t program, Reachable gateways none root t → gateways.Finds t program →
    Storage.readAt i.storage (start.pathOf t.location) = .ok (Utf8.encode program.unprocessed) →
    Storage.readAt j.storage (start.pathOf t.location) = .ok (Utf8.encode program.unprocessed)

theorem Places.append {start : Project} {earlier later : List Outcome}
    (h : Places gateways root start i earlier k) (g : Places gateways root start k later j) :
    Places gateways root start i (earlier ++ later) j where
  filed := g.filed
  reachable := List.forall_mem_append.2 ⟨h.reachable, g.reachable⟩
  there := List.forall_mem_append.2 ⟨fun o ho program found =>
    g.kept _ program (h.reachable o ho) found (h.there o ho program found), g.there⟩
  kept t program ht found code := g.kept t program ht found (h.kept t program ht found code)

theorem Visited.places {start : Project} (visited : Visited gateways i t j r)
    (written : t.Found gateways → r = .ok ())
    (filed : Filed gateways root start i.project i.storage)
    (separate : Storage.Separate σ (Touched gateways root start))
    (reachable : Reachable gateways none root t.source) :
    Places gateways root start i [⟨t, r⟩] j := by
  by_cases found : t.Found gateways
  · obtain rfl := written found
    obtain ⟨p, found⟩ := found
    obtain ⟨storage, recorded⟩ := visited.exists_recorded found
    refine ⟨filed.of_recorded separate reachable found recorded,
      List.forall_mem_singleton.2 reachable, List.forall_mem_singleton.2 fun program hp => ?_,
      fun u program hu hp => filed.readAt_of_recorded separate reachable found recorded hu hp⟩
    rw [(filed.files_of_recorded separate reachable found recorded).1, found.unique hp]
  · obtain ⟨project, storage⟩ := visited.same found
    refine ⟨by rwa [project, storage], List.forall_mem_singleton.2 reachable,
      List.forall_mem_singleton.2 fun program hp => absurd ⟨program, hp⟩ found, ?_⟩
    intro u program _ _ code
    rwa [storage]

/-- What a call leaves where the sources belong that it has come to. -/
theorem places_of_leads {start : Project} {s : Fetching σ}
    (leads : Leads gateways none permits (.start first i) s) (written : Written gateways s.log)
    (separate : Storage.Separate σ (Touched gateways first.source start))
    (filed : Filed gateways first.source start i.project i.storage) :
    Places gateways first.source start i s.log s.installation := by
  refine holds_of_leads (fun i log j => Written gateways log →
    Filed gateways first.source start i.project i.storage →
    Places gateways first.source start i log j) ?_ ?_ ?_ leads written filed
  · intro i j project storage _ filed
    exact ⟨by rwa [project, storage], by simp, by simp, fun t program _ _ code => by rwa [storage]⟩
  · intro i k j earlier later hearlier hlater written filed
    rw [written_append] at written
    have places := hearlier written.1 filed
    exact places.append (hlater written.2 places.filed)
  · intro t i j r comes visited written filed
    exact visited.places (written_singleton.1 written) filed separate comes.reachable

theorem filed_of_free (free : ∀ t program, Reachable gateways none root t →
      gateways.Finds t program → Storage.contains i.storage (i.project.pathOf t.location) = false) :
    Filed gateways root i.project i.project i.storage :=
  ⟨rfl, fun t program ht found => .inl (free t program ht found)⟩

/-! ### Names -/

/-- What leaves a mark: the first target of the call, or what is imported, under its own name. -/
def targetOf (first : Target) (m : Source) : Target := if m = first.mark then first else .own m

/-- A contract has been found under this name, if its fetch has settled. -/
def Fetching.FoundAs (gateways : Gateways) (first : Target) (s : Fetching σ) (name : String) :
    Prop :=
  ∃ m ∈ s.visited, m.contract = name ∧ (targetOf first m).Found gateways

/-- What a call has found under a name it has recorded, once it has succeeded. -/
theorem foundAs_iff_records {s : Fetching σ}
    (leads : Leads gateways none permits (.start first i) s) (ended : s.fetches = 0)
    (ok : s.failures = []) : s.FoundAs gateways first n ↔ Records gateways s.log n := by
  obtain ⟨sources, hlog, follows⟩ := exists_follows_of_leads leads ended ok
  have htarget : ∀ o ∈ s.log, targetOf first o.target.mark = o.target := by
    rw [hlog]
    refine List.forall_mem_map.2 (List.forall_mem_cons.2 ⟨if_pos rfl, ?_⟩)
    refine List.forall_mem_map.2 fun u hu => if_neg ?_
    intro hmark
    have hmark : u = first.mark := hmark
    exact follows.unmarked (hmark ▸ hu)
  simp only [Fetching.FoundAs, mem_visited_iff leads ended ok]
  constructor
  · rintro ⟨_, ⟨o, ho, rfl⟩, rfl, found⟩
    rw [htarget o ho] at found
    exact ⟨o, ho, found, rfl⟩
  · rintro ⟨o, ho, found, rfl⟩
    refine ⟨o.target.mark, ⟨o, ho, rfl⟩, rfl, ?_⟩
    rwa [htarget o ho]

/-- A call on one network into a project without installed files leaves, under each name that it has
found a contract for, a dependency with its file and the contract that stands for it, whatever the
order of its fetches, and under other names what was there. `add` takes one of these orders. -/
theorem recorded_inPlace (name : String) (root : Source) (permits : Nat) (i : Installation σ)
    (separate : Storage.Separate σ (Touched gateways root i.project))
    (free : ∀ t program, Reachable gateways none root t → gateways.Finds t program →
      Storage.contains i.storage (i.project.pathOf t.location) = false) :
    (∀ s, Leads gateways none permits (.start ⟨name, root⟩ i) s → s.fetches = 0 →
      s.result = .ok () →
      ((∃ program, gateways.Finds root program) → s.FoundAs gateways ⟨name, root⟩ name) ∧
      ∀ n,
        (s.FoundAs gateways ⟨name, root⟩ n →
          ∃ d, s.installation.project.manifest.dependencies.get? n = some d ∧
            InPlace gateways s.installation.project s.installation.storage d) ∧
        (¬ s.FoundAs gateways ⟨name, root⟩ n →
          s.installation.project.manifest.dependencies.get? n =
            i.project.manifest.dependencies.get? n)) ∧
    ∃ s, Leads gateways none permits (.start ⟨name, root⟩ i) s ∧ s.fetches = 0 ∧
      add gateways none name root i = (s.installation, s.result) := by
  refine ⟨fun s leads ended result => ?_, exists_leads_of_add ..⟩
  have ok := Fetching.result_eq_ok_iff.1 result
  have written := written_of_failures gateways ok
  have recorded (n : String) := foundAs_iff_records (n := n) leads ended ok
  have places := places_of_leads leads written separate (filed_of_free free)
  refine ⟨fun found => ?_, fun n => ?_⟩
  · obtain ⟨sources, hlog, -⟩ := exists_follows_of_leads leads ended ok
    rw [recorded, hlog]
    exact ⟨_, List.mem_cons_self, found, rfl⟩
  · rw [recorded]
    rcases entry_of_leads leads written n with
      ⟨o, ho, program, found, hname, hdependency, hcontract⟩ | ⟨unrecorded, hdependency, -⟩
    · refine ⟨fun _ => ⟨_, hdependency, ⟨program, found, ?_, rfl⟩,
        address?_fetchedAliases o.target.source, hcontract⟩, fun unrecorded => ?_⟩
      · rw [Project.read, pathOf_of_path places.filed.path]
        exact places.there o ho program found
      · exact absurd ⟨o, ho, ⟨program, found⟩, hname⟩ unrecorded
    · exact ⟨fun h => absurd h unrecorded, fun _ => hdependency⟩

/-- A network with a contract that imports another one. -/
def linkedGateways : Gateways :=
  ⟨[(emulator, ((Ledger.empty.deploy (.ofNat 1) "A"
      (Utf8.encode "import B from 0x2 contract A {}".toList)).deploy (.ofNat 2) "B"
      (Utf8.encode "contract B {}".toList)).gateway)]⟩

theorem exists_locate_linked : ∃ p q,
    linkedGateways.locate (sampleSource 1 "A") = .ok (some p) ∧
    linkedGateways.locate (sampleSource 2 "B") = .ok (some q) ∧
    p.deployedImports = [(.ofNat 2, "B")] ∧ q.deployedImports = [] := by
  have evaluated : [sampleSource 1 "A", sampleSource 2 "B"].map (fun s =>
      (linkedGateways.locate s).toOption.map (Option.map Cadence.Program.deployedImports)) =
      [some (some [(.ofNat 2, "B")]), some (some [])] := by
    decide +kernel
  simp only [List.map_cons, List.map_nil, List.cons.injEq, and_true] at evaluated
  obtain ⟨hA, hB⟩ := evaluated
  obtain ⟨rA, hrA, hA⟩ := exists_ok_of_toOption hA
  obtain ⟨rB, hrB, hB⟩ := exists_ok_of_toOption hB
  obtain ⟨p, rfl, hp⟩ := Option.map_eq_some_iff.1 hA
  obtain ⟨q, rfl, hq⟩ := Option.map_eq_some_iff.1 hB
  exact ⟨p, q, hrA, hrB, hp, hq⟩

theorem reachable_linked {t : Source} (h : Reachable linkedGateways none (sampleSource 1 "A") t) :
    t = sampleSource 1 "A" ∨ t = sampleSource 2 "B" := by
  obtain ⟨p, q, hp, hq, himports, hnone⟩ := exists_locate_linked
  induction h with
  | root => exact .inl rfl
  | step _ found hnetwork hfrom ih =>
    have hmem := mem_imports.2 ⟨hnetwork, hfrom⟩
    rw [← Gateways.locate_eq_some_iff] at found
    rcases ih with rfl | rfl
    · obtain rfl : p = _ := by simpa [hp] using found
      rw [imports, himports] at hmem
      exact .inr (List.mem_singleton.1 hmem)
    · obtain rfl : q = _ := by simpa [hq] using found
      rw [imports, hnone] at hmem
      cases hmem

theorem failures_linked {s : Fetching MemoryStorage} (leads : Leads linkedGateways none permits
    (.start (.own (sampleSource 1 "A")) sampleInstallation) s) : s.failures = [] := by
  obtain ⟨p, q, hp, hq, -⟩ := exists_locate_linked
  refine failures_sample leads fun t ht => ?_
  rw [← Gateways.exists_locate_iff]
  rcases reachable_linked ht with rfl | rfl
  · exact ⟨_, hp⟩
  · exact ⟨_, hq⟩

theorem separate_linked : Storage.Separate MemoryStorage
    (Touched linkedGateways (sampleSource 1 "A") sampleInstallation.project) := by
  let paths : List String := [sampleInstallation.project.path,
    sampleInstallation.project.pathOf (sampleSource 1 "A").location,
    sampleInstallation.project.pathOf (sampleSource 2 "B").location]
  have hpaths : ∀ p ∈ paths, ∀ q ∈ paths, Path.clean p = Path.clean q → p = q := by decide +kernel
  have hmem (path : String)
      (h : Touched linkedGateways (sampleSource 1 "A") sampleInstallation.project path) :
      path ∈ paths := by
    cases h with
    | manifest => simp [paths]
    | source ht _ => rcases reachable_linked ht with rfl | rfl <;> simp [paths]
  exact MemoryStorage.separate fun p q hp hq => hpaths p (hmem p hp) q (hmem q hq)

/-- Both contracts are recorded under one name, and it stands for the one that was fetched last. -/
theorem recorded_inPlace_of_linked : ∃ j d,
    add linkedGateways none "B" (sampleSource 1 "A") sampleInstallation = (j, .ok ()) ∧
      j.project.manifest.dependencies.get? "B" = some d ∧ d.source = sampleSource 2 "B" ∧
      InPlace linkedGateways j.project j.storage d := by
  have results : (fun v : Installation MemoryStorage × Except Error (List Source) =>
      (v.2.toOption, (visit linkedGateways none "B" (sampleSource 2 "B") v.1).2.toOption))
        (visit linkedGateways none "B" (sampleSource 1 "A") sampleInstallation) =
      (some [sampleSource 2 "B"], some []) := by
    decide +kernel
  have added := add_of_results (t := ⟨"B", sampleSource 1 "A"⟩) results (by decide)
  obtain ⟨every, s, leads, done, hadd⟩ := recorded_inPlace "B" (sampleSource 1 "A") 1
    sampleInstallation separate_linked fun _ _ _ _ => rfl
  have hs := hadd.symm.trans added
  obtain ⟨found, names⟩ := every s leads done (Prod.mk.inj hs).2
  obtain ⟨p, -, hp, -⟩ := exists_locate_linked
  obtain ⟨d, hget, inPlace⟩ := (names "B").1 (found ⟨p, Gateways.locate_eq_some_iff.1 hp⟩)
  have last : (s.installation.project.manifest.dependencies.get? "B").map Dependency.source =
      some (sampleSource 2 "B") := by
    rw [(Prod.mk.inj hs).1]
    decide +kernel
  rw [hget, Option.map_some, Option.some.injEq] at last
  exact ⟨s.installation, d, (Prod.mk.inj hs).2 ▸ hadd, hget, last, inPlace⟩

end ContractProject.Installation
