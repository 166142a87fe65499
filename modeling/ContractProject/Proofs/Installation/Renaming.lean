import ContractProject.Proofs.Installation.Repetition

/-!
What the name that a dependency is given does to what is installed. A call leaves at each path the
first contract it finds that belongs there, under whatever name; but the name decides what counts as
visited, so another contract may be passed over that goes by it.
-/

namespace ContractProject.Installation

variable {σ φ : Type} [Storage σ] {gateways : Gateways} {network : Option String} {permits : Nat}
  {i j k : Installation σ} {root mark s t : Source} {log : List Source} {name : String}

/-! ### What a call follows -/

/-- No contract but the root is found that goes by the mark. -/
def Unshadowed (gateways : Gateways) (network : Option String) (root mark : Source) : Prop :=
  mark = root ∨ ¬ (Reachable gateways network root mark ∧ ∃ p, gateways.Finds mark p)

theorem Follows.mem (follows : Follows gateways network root mark log)
    (unshadowed : Unshadowed gateways network root mark)
    (reachable : Reachable gateways network root t) {p : Cadence.Program}
    (found : gateways.Finds t p) : t = root ∨ t ∈ log := by
  have unmarked {t : Source} {p : Cadence.Program} (reachable : Reachable gateways network root t)
      (found : gateways.Finds t p) (h : t = root ∨ t = mark ∨ t ∈ log) : t = root ∨ t ∈ log := by
    rcases h with h | rfl | h
    · exact .inl h
    · exact .inl (unshadowed.resolve_right fun h => h ⟨reachable, p, found⟩)
    · exact .inr h
  refine unmarked reachable found ?_
  clear found
  induction reachable with
  | root => exact .inl rfl
  | step hs hfound hnetwork hfrom ih =>
    exact .inr (follows.closed _ (unmarked hs hfound ih) _ hfound _
      (mem_imports.2 ⟨hnetwork, hfrom⟩))

/-! ### Which contract a call leaves at a path -/

variable {file : String → φ} {paths : String → Prop}

/-- Sources that are installed in different places have files of their own, and so has the
manifest. -/
structure Apart (file : String → φ) (p : Project) : Prop where
  manifest : ∀ s : Source, Cadence.isName s.contract → file (p.pathOf s.location) ≠ file p.path
  sources : ∀ s t : Source, Cadence.isName s.contract → Cadence.isName t.contract →
    file (p.pathOf s.location) = file (p.pathOf t.location) → s.location = t.location

theorem Apart.eq {p : Project} (apart : Apart file p) {q r : Cadence.Program}
    (hs : gateways.Finds s q) (ht : gateways.Finds t r) (network : s.network = t.network)
    (h : file (p.pathOf s.location) = file (p.pathOf t.location)) : s = t := by
  obtain ⟨haddress, hname⟩ := Source.eq_of_location
    (apart.sources s t (isName_of_finds hs) (isName_of_finds ht) h)
  cases s
  cases t
  simp_all

variable [DecidableEq φ]

/-- The first contract found at these sources, in order, that is filed where a path leads. -/
def firstFiled? (gateways : Gateways) (file : String → φ) (p : Project) (path : String)
    (sources : List Source) : Option Bytes :=
  sources.findSome? fun s =>
    if file (p.pathOf s.location) = file path then fetched? gateways s else none

theorem firstFiled?_congr {p q : Project} (h : p.path = q.path) (path : String)
    (sources : List Source) :
    firstFiled? gateways file p path sources = firstFiled? gateways file q path sources := by
  simp only [firstFiled?, pathOf_of_path h]

theorem exists_finds_of_filed {p : Project} {path : String} {code : Bytes}
    (h : (if file (p.pathOf s.location) = file path then fetched? gateways s else none) =
      some code) :
    file (p.pathOf s.location) = file path ∧ ∃ q, gateways.Finds s q := by
  split at h
  · next heq =>
    refine ⟨heq, Classical.not_not.1 fun absent => ?_⟩
    rw [fetched?_eq_none_iff.2 absent] at h
    cases h
  · cases h

theorem firstFiled?_eq_none_iff {p : Project} {path : String} {sources : List Source} :
    firstFiled? gateways file p path sources = none ↔
      ∀ s ∈ sources, file (p.pathOf s.location) = file path → ¬ ∃ q, gateways.Finds s q := by
  rw [firstFiled?, List.findSome?_eq_none_iff]
  simp only [ite_eq_right_iff, fetched?_eq_none_iff]

theorem exists_firstFiled? {p : Project} {sources : List Source} (hs : s ∈ sources)
    {q : Cadence.Program} (found : gateways.Finds s q) :
    ∃ code, firstFiled? gateways file p (p.pathOf s.location) sources = some code := by
  refine Option.ne_none_iff_exists'.1 fun hnone => ?_
  exact firstFiled?_eq_none_iff.1 hnone s hs rfl ⟨q, found⟩

/-- Where a contract belongs that is passed over, nothing is filed. -/
theorem Follows.firstFiled?_mark {p : Project} (apart : Apart file p)
    (follows : Follows gateways network root mark log) (hroot : mark.contract ≠ root.contract)
    {q : Cadence.Program} (found : gateways.Finds mark q)
    (hnetwork : mark.network = network.getD root.network) :
    firstFiled? gateways file p (p.pathOf mark.location) (root :: log) = none := by
  rw [firstFiled?_eq_none_iff]
  rintro s hs heq ⟨r, found'⟩
  rcases List.mem_cons.1 hs with rfl | hs
  · have hlocation := apart.sources s mark (isName_of_finds found') (isName_of_finds found) heq
    exact hroot (Source.eq_of_location hlocation).2.symm
  · rw [apart.eq found' found ((follows.networks s hs).trans hnetwork.symm) heq] at hs
    exact follows.unmarked hs

/-- At a path where nothing is a run leaves the first contract that is filed there; what is at a
path it leaves as it is. -/
structure Files (gateways : Gateways) (file : String → φ) (i : Installation σ)
    (sources : List Source) (j : Installation σ) (path : String) : Prop where
  project : j.project.path = i.project.path
  contents : Storage.fileAt? j.storage path =
    if Storage.contains i.storage path then Storage.fileAt? i.storage path
    else (firstFiled? gateways file i.project path sources).or (Storage.fileAt? i.storage path)
  there : Storage.contains j.storage path = (Storage.contains i.storage path ||
    (firstFiled? gateways file i.project path sources).isSome)

theorem Files.append {first rest : List Source} {path : String}
    (h : Files gateways file i first k path) (g : Files gateways file k rest j path) :
    Files gateways file i (first ++ rest) j path := by
  have hfirst : firstFiled? gateways file i.project path (first ++ rest) =
      (firstFiled? gateways file i.project path first).or
        (firstFiled? gateways file i.project path rest) := List.findSome?_append
  have hcontents := g.contents
  have hthere := g.there
  rw [h.contents, h.there, firstFiled?_congr h.project] at hcontents
  rw [h.there, firstFiled?_congr h.project] at hthere
  refine ⟨g.project.trans h.project, ?_, ?_⟩
  · rw [hcontents, hfirst]
    cases Storage.contains i.storage path with
    | true => simp
    | false => cases firstFiled? gateways file i.project path first <;> simp
  · rw [hthere, hfirst, Option.isSome_or, Bool.or_assoc]

theorem Visited.files {t : Target} {r : Except Error Unit} (visited : Visited gateways i t j r)
    (written : t.Found gateways → r = .ok ()) (filing : Storage.Filing σ file paths)
    (covers : Covers paths i.project) {path : String} (hpath : paths path)
    (hne : file path ≠ file i.project.path) : Files gateways file i [t.source] j path := by
  have hone : firstFiled? gateways file i.project path [t.source] =
      if file (i.project.pathOf t.source.location) = file path then fetched? gateways t.source
      else none := by
    simp [firstFiled?]
  have project := visited.path
  by_cases found : t.Found gateways
  · obtain rfl := written found
    obtain ⟨program, found⟩ := found
    obtain ⟨storage, recorded⟩ := visited.exists_recorded found
    have hsource := covers.source found
    have hsaved := recorded.saved
    rw [Project.save, project] at hsaved
    rw [fetched?_of_finds found] at hone
    have hsame := filing.sameAt_of_ne covers.manifest hpath hne hsaved
    rcases filing.writeOnce_ok_cases hsource hpath recorded.written with
      ⟨same, hthere⟩ | ⟨heq, hnew, hcontents, hthere⟩
    · have hsame := same.trans hsame
      by_cases hi : Storage.contains i.storage path
      · exact ⟨project, by rw [hsame.file, if_pos hi], by rw [hsame.contains, hi, Bool.true_or]⟩
      · rw [if_neg fun heq => hi (hthere heq)] at hone
        refine ⟨project, ?_, ?_⟩
        · rw [hsame.file, if_neg hi, hone, Option.none_or]
        · rw [hsame.contains, hone, Option.isSome_none, Bool.or_false]
    · rw [if_pos heq] at hone
      refine ⟨project, ?_, ?_⟩
      · rw [hsame.file, hcontents, hnew, hone]
        rfl
      · rw [hsame.contains, hthere, hone, Option.isSome_some, Bool.or_true]
  · have hnone : firstFiled? gateways file i.project path [t.source] = none := by
      rw [hone, fetched?_eq_none_iff.2 found, ite_self]
    obtain ⟨-, storage⟩ := visited.same found
    exact ⟨project, by simp [hnone, storage], by simp [hnone, storage]⟩

theorem files_of_leads {first : Target} {s : Fetching σ}
    (leads : Leads gateways network permits (.start first i) s) (written : Written gateways s.log)
    (filing : Storage.Filing σ file paths) (covers : Covers paths i.project) {path : String}
    (hpath : paths path) (hne : file path ≠ file i.project.path) :
    Files gateways file i (s.log.map (·.target.source)) s.installation path := by
  refine holds_of_leads (fun i log j => Written gateways log → Covers paths i.project →
    file path ≠ file i.project.path → Files gateways file i (log.map (·.target.source)) j path)
    ?_ ?_ ?_ leads written covers hne
  · intro i j project storage _ _ _
    exact ⟨by rw [project], by simp [firstFiled?, storage], by simp [firstFiled?, storage]⟩
  · intro i k j earlier later hearlier hlater written covers hne
    rw [written_append] at written
    have files := hearlier written.1 covers hne
    rw [List.map_append]
    exact files.append (hlater written.2 (covers.congr files.project.symm) (files.project ▸ hne))
  · intro t i j r _ visited written covers hne
    exact visited.files (written_singleton.1 written) filing covers hpath hne

/-- What a call that succeeds leaves at a path, be it one or the other of those it follows. -/
theorem exists_follows_files {s : Fetching σ}
    (leads : Leads gateways network permits (.start ⟨name, root⟩ i) s) (ended : s.fetches = 0)
    (result : s.result = .ok ()) (filing : Storage.Filing σ file paths)
    (covers : Covers paths i.project) : ∃ log,
      Follows gateways network root { root with contract := name } log ∧
      ∀ path, paths path → file path ≠ file i.project.path →
        Files gateways file i (root :: log) s.installation path := by
  have ok := Fetching.result_eq_ok_iff.1 result
  obtain ⟨log, hlog, follows⟩ := exists_follows_of_leads leads ended ok
  have hsources : s.log.map (·.target.source) = root :: log := by
    rw [hlog, List.map_cons, List.map_cons, List.map_map, List.map_map]
    exact congrArg _ (List.map_id log)
  refine ⟨log, follows, fun path hpath hne => ?_⟩
  rw [← hsources]
  exact files_of_leads leads (written_of_failures gateways ok) filing covers hpath hne

/-! ### The same files -/

theorem firstFiled?_eq_some_of_follows {p : Project} (apart : Apart file p) {mark' : Source}
    {log' : List Source} (follows : Follows gateways network root mark log)
    (follows' : Follows gateways network root mark' log')
    (unshadowed : Unshadowed gateways network root mark') {path : String} {code : Bytes}
    (h : firstFiled? gateways file p path (root :: log) = some code) :
    firstFiled? gateways file p path (root :: log') = some code := by
  rw [firstFiled?, List.findSome?_cons] at h ⊢
  split at h
  · exact h
  · next hroot =>
    -- the root is not filed there, and of the others one at most
    obtain ⟨s, hs, hcode⟩ := List.exists_of_findSome?_eq_some h
    obtain ⟨hpath, q, found⟩ := exists_finds_of_filed hcode
    have hs' : s ∈ log' := by
      refine (follows'.mem unshadowed (follows.reachable s hs) found).resolve_left ?_
      rintro rfl
      rw [hroot] at hcode
      cases hcode
    cases hlog : log'.findSome? fun s =>
        if file (p.pathOf s.location) = file path then fetched? gateways s else none with
    | none =>
      rw [List.findSome?_eq_none_iff.1 hlog s hs'] at hcode
      cases hcode
    | some code' =>
      obtain ⟨t, ht, hcode'⟩ := List.exists_of_findSome?_eq_some hlog
      obtain ⟨hpath', r, found'⟩ := exists_finds_of_filed hcode'
      have hnetwork := (follows.networks s hs).trans (follows'.networks t ht).symm
      obtain rfl := apart.eq found found' hnetwork (hpath.trans hpath'.symm)
      rw [← hcode, hcode']

/-- Under another name the same is installed exactly if what is installed leads to no other contract
that is found under this name on the account. This holds whatever the order of the fetches; `add`
takes one of these orders. -/
theorem files_of_renamed (gateways : Gateways) (network : Option String) (root : Source)
    (permits : Nat) (filing : Storage.Filing σ file paths) (covers : Covers paths i.project)
    (apart : Apart file i.project)
    (new : ∀ path, i.project.IsImportPath path → Storage.contains i.storage path = false) :
    (∀ name s s', Leads gateways network permits (.start (.own root) i) s → s.fetches = 0 →
      s.result = .ok () → Leads gateways network permits (.start ⟨name, root⟩ i) s' →
      s'.fetches = 0 → s'.result = .ok () →
      ((∀ path, paths path → file path ≠ file i.project.path →
        Storage.fileAt? s'.installation.storage path =
          Storage.fileAt? s.installation.storage path) ↔
      (name = root.contract ∨
        ¬ (Reachable gateways network root { root with contract := name } ∧
          ∃ p, gateways.Finds { root with contract := name } p)))) ∧
    ∀ name, ∃ s, Leads gateways network permits (.start ⟨name, root⟩ i) s ∧ s.fetches = 0 ∧
      add gateways network name root i = (s.installation, s.result) := by
  refine ⟨fun name s s' leads ended result leads' ended' result' => ?_,
    fun name => exists_leads_of_add gateways network permits ⟨name, root⟩ i⟩
  obtain ⟨log, follows, files⟩ := exists_follows_files leads ended result filing covers
  obtain ⟨log', follows', files'⟩ := exists_follows_files leads' ended' result' filing covers
  have follows : Follows gateways network root root log := follows
  constructor
  · intro same
    by_contra hother
    rw [not_or, Classical.not_not] at hother
    obtain ⟨hname, reachable, p, found⟩ := hother
    have hmark := (follows.mem (.inl rfl) reachable found).resolve_left fun h =>
      hname (congrArg Source.contract h)
    have hnone := follows'.firstFiled?_mark apart hname found (follows.networks _ hmark)
    obtain ⟨code, hcode⟩ : ∃ code,
        firstFiled? gateways file i.project _ (root :: log) = some code :=
      exists_firstFiled? (List.mem_cons_of_mem root hmark) found
    have hpaths := covers.source found
    have hne := apart.manifest _ (isName_of_finds found)
    have hi := new _ (i.project.isImportPath_of_isName (isName_of_finds found))
    generalize i.project.pathOf (Source.location { root with contract := name }) = path
      at hnone hcode hpaths hne hi
    have hj : Storage.fileAt? s.installation.storage path = some code := by
      simp [(files path hpaths hne).contents, hi, hcode]
    have hk : Storage.fileAt? s'.installation.storage path = Storage.fileAt? i.storage path := by
      simp [(files' path hpaths hne).contents, hi, hnone]
    -- it would have been there all along
    have hsome : (Storage.fileAt? i.storage path).isSome := by
      rw [← hk, same path hpaths hne, hj]
      rfl
    rw [filing.there hpaths hsome] at hi
    cases hi
  · intro h path hpath hne
    have unshadowed : Unshadowed gateways network root { root with contract := name } :=
      h.imp_left fun hname => by rw [hname]
    have hfirst : firstFiled? gateways file i.project path (root :: log') =
        firstFiled? gateways file i.project path (root :: log) := Option.ext fun code =>
      ⟨firstFiled?_eq_some_of_follows apart follows' follows (.inl rfl),
        firstFiled?_eq_some_of_follows apart follows follows' unshadowed⟩
    rw [(files path hpath hne).contents, (files' path hpath hne).contents, hfirst]

theorem apart_clean {p : Project} (h : '/' ∉ (Path.clean p.path).toList) : Apart Path.clean p where
  manifest s hname heq := by
    have hends := Project.endsIn_location (p := p) hname
    rw [Project.location, heq] at hends
    exact h (Path.slash_mem_of_endsIn (by simp [Source.directories]) hends)
  sources s t hs ht heq := by
    have hends := Project.endsIn_location (p := p) hs
    rw [Project.location, heq] at hends
    have hsteps := hends.unique (Project.endsIn_location (p := p) ht) (by simp [Source.directories])
      (Source.plain_steps hs) (Source.plain_steps ht)
    rw [← String.toList_inj, Source.toList_location, Source.toList_location, hsteps]

/-- In the project of the sample nothing is in the place of a source. -/
theorem contains_sample (path : String) :
    Storage.contains sampleInstallation.storage path = false :=
  rfl

/-- What `A` imports from another account is installed whatever `A` is called. -/
theorem files_of_renamed_linked : ∃ j k,
    add linkedGateways none "A" (sampleSource 1 "A") sampleInstallation = (j, .ok ()) ∧
      add linkedGateways none "B" (sampleSource 1 "A") sampleInstallation = (k, .ok ()) ∧
      Storage.fileAt? k.storage "imports/0000000000000002/B.cdc" =
        Storage.fileAt? j.storage "imports/0000000000000002/B.cdc" := by
  have results (name : String) (h : name = "A" ∨ name = "B") :
      (fun v : Installation MemoryStorage × Except Error (List Source) =>
        (v.2.toOption, (visit linkedGateways none "B" (sampleSource 2 "B") v.1).2.toOption))
          (visit linkedGateways none name (sampleSource 1 "A") sampleInstallation) =
        (some [sampleSource 2 "B"], some []) := by
    rcases h with rfl | rfl <;> decide +kernel
  have plain := add_of_results (t := ⟨"A", sampleSource 1 "A"⟩) (results "A" (.inl rfl)) (by decide)
  have named := add_of_results (t := ⟨"B", sampleSource 1 "A"⟩) (results "B" (.inr rfl)) (by decide)
  obtain ⟨same, runs⟩ := files_of_renamed linkedGateways none (sampleSource 1 "A") 16
    MemoryStorage.filing (i := sampleInstallation) ⟨trivial, fun _ _ => trivial⟩
    (apart_clean (by decide +kernel)) fun path _ => contains_sample path
  obtain ⟨s, leads, ended, hadd⟩ := runs "A"
  obtain ⟨s', leads', ended', hadd'⟩ := runs "B"
  obtain ⟨hj, hresult⟩ := Prod.mk.inj (hadd.symm.trans plain)
  obtain ⟨hk, hresult'⟩ := Prod.mk.inj (hadd'.symm.trans named)
  refine ⟨_, _, plain, named, ?_⟩
  rw [← hj, ← hk]
  refine (same "B" s s' leads ended hresult leads' ended' hresult').2 (.inr ?_) _ trivial
    (by decide +kernel)
  rintro ⟨reachable, -⟩
  rcases reachable_linked reachable with h | h
  · exact absurd (congrArg Source.contract h) (by decide)
  · exact absurd (congrArg Source.address h) (by decide)

/-- A network with a contract that imports another one of its account. -/
def siblingGateways : Gateways :=
  ⟨[(emulator, ((Ledger.empty.deploy (.ofNat 1) "A"
      (Utf8.encode "import B from 0x1 contract A {}".toList)).deploy (.ofNat 1) "B"
      (Utf8.encode "contract B {}".toList)).gateway)]⟩

/-- If `A` is called `B`, the `B` that it imports from its own account is not installed. -/
theorem not_files_of_renamed : ¬ ∀ (gateways : Gateways) (network : Option String) (root : Source)
    (name : String) (i j k : Installation MemoryStorage),
    (∀ path, i.project.IsImportPath path → Storage.contains i.storage path = false) →
      add gateways network root.contract root i = (j, .ok ()) →
      add gateways network name root i = (k, .ok ()) →
      ∀ path, i.project.IsImportPath path →
        Storage.fileAt? k.storage path = Storage.fileAt? j.storage path := by
  intro same
  have results : (fun v : Installation MemoryStorage × Except Error (List Source) =>
      (v.2.toOption, (visit siblingGateways none "B" (sampleSource 1 "B") v.1).2.toOption))
        (visit siblingGateways none "A" (sampleSource 1 "A") sampleInstallation) =
      (some [sampleSource 1 "B"], some []) := by
    decide +kernel
  have plain := add_of_results (t := ⟨"A", sampleSource 1 "A"⟩) results (by decide)
  have hmark : (visit siblingGateways none "B" (sampleSource 1 "A") sampleInstallation).2 =
      .ok [sampleSource 1 "B"] := eq_ok_of_toOption (by decide +kernel)
  have named := add_of_own_mark (t := ⟨"B", sampleSource 1 "A"⟩) hmark
  have hpath := sampleInstallation.project.isImportPath_of_isName (s := sampleSource 1 "B")
    (by decide +kernel)
  have h := same siblingGateways none (sampleSource 1 "A") "B" sampleInstallation _ _
    (fun path _ => contains_sample path) plain named _ hpath
  have hplain : (Storage.fileAt? (visit siblingGateways none "B" (sampleSource 1 "B")
      (visit siblingGateways none "A" (sampleSource 1 "A") sampleInstallation).1).1.storage
        (sampleInstallation.project.pathOf (sampleSource 1 "B").location)).isSome := by
    decide +kernel
  have hnamed : Storage.fileAt?
      (visit siblingGateways none "B" (sampleSource 1 "A") sampleInstallation).1.storage
        (sampleInstallation.project.pathOf (sampleSource 1 "B").location) = none := by
    decide +kernel
  have hnone := congrArg Option.isSome (hnamed.symm.trans h)
  exact Bool.false_ne_true (hnone.trans hplain)

end ContractProject.Installation
