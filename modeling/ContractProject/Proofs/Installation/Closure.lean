import ContractProject.Proofs.Installation.Entries
import ContractProject.Proofs.Installation.Following

/-!
What installing a contract installs: all that it leads to and that is found, and nothing else. It
fails exactly if of some source that it leads to it cannot be told whether the contract is there.
-/

namespace ContractProject.Installation

variable {σ : Type} [Storage σ] {gateways : Gateways} {network : Option String} {permits : Nat}
  {s : Fetching σ} {i j : Installation σ} {first t : Target} {root : Source} {log : List Outcome}
  {r : Except Error Unit} {usable : σ → Prop}

/-! ### What is written -/

/-- What a target comes to if files can be written. -/
structure Installs (gateways : Gateways) (usable : σ → Prop) (p : Project) (storage : σ)
    (log : List Outcome) (j : Installation σ) : Prop where
  path : j.project.path = p.path
  usable : usable j.storage
  kept : ∀ other, Storage.contains storage other → Storage.contains j.storage other
  answers : ∀ o ∈ log, o.result = .ok () ↔ gateways.Answers o.target.source
  there : ∀ o ∈ log, o.target.Found gateways →
    Storage.contains j.storage (p.pathOf o.target.source.location)

theorem Visited.installs (visited : Visited gateways i t j r) (start : usable i.storage)
    (manifest : Storage.Accepts usable i.project.path)
    (source : Storage.Accepts usable (i.project.pathOf t.source.location)) :
    Installs gateways usable i.project i.storage [⟨t, r⟩] j := by
  have path := visited.path
  by_cases found : t.Found gateways
  · obtain ⟨p, found⟩ := found
    -- both files can be written, and so they are
    obtain ⟨u, hwritten, husable, hthere, hkept⟩ :=
      source.writeOnce start (Utf8.encode p.unprocessed)
    generalize hr : r = result at visited
    cases visited with
    | unanswered hl _ _ => simp [Gateways.locate_eq_some_iff.2 found] at hl
    | absent hl _ _ => exact absurd found (Gateways.not_finds_of_locate hl)
    | unwritten found' written _ =>
      obtain rfl := found.unique found'
      cases (Prod.mk.inj (hwritten.symm.trans written)).2
    | recorded found' written _ saved =>
      obtain rfl := found.unique found'
      obtain rfl := (Prod.mk.inj (hwritten.symm.trans written)).1
      obtain ⟨v, hsaved, husable', -, hkept'⟩ :=
        manifest.write u j.project.manifest.toBytes husable
      rw [Project.save, path, hsaved] at saved
      obtain ⟨rfl, rfl⟩ := Prod.mk.inj saved
      subst hr
      refine ⟨path, husable', fun other h => hkept' _ (hkept _ h), ?_, ?_⟩
      · exact List.forall_mem_singleton.2 ⟨fun _ => answers_of_found ⟨p, found⟩, fun _ => rfl⟩
      · exact List.forall_mem_singleton.2 fun _ => hkept' _ hthere
  · obtain ⟨-, storage⟩ := visited.same found
    refine ⟨path, storage ▸ start, fun other h => storage ▸ h, ?_, ?_⟩
    · refine List.forall_mem_singleton.2 ⟨fun ok => ?_, fun answers => ?_⟩
      · obtain rfl : r = .ok () := ok
        exact visited.answers
      · cases r with
        | ok _ => rfl
        | error e => exact absurd answers (visited.found_or_not_answers.resolve_left found)
    · exact List.forall_mem_singleton.2 fun h => absurd h found

theorem Installs.append {p q : Project} {storage : σ} {k : Installation σ}
    {earlier later : List Outcome} (h : Installs gateways usable p storage earlier k)
    (g : Installs gateways usable q k.storage later j) (path : q.path = p.path) :
    Installs gateways usable p storage (earlier ++ later) j where
  path := g.path.trans path
  usable := g.usable
  kept other hother := g.kept other (h.kept other hother)
  answers := List.forall_mem_append.2 ⟨h.answers, g.answers⟩
  there := by
    refine List.forall_mem_append.2 ⟨fun o ho found => g.kept _ (h.there o ho found),
      fun o ho found => ?_⟩
    rw [← pathOf_of_path path]
    exact g.there o ho found

/-- What settles in a call does so exactly if it is answered, and then it is installed, given that
files can be written. -/
theorem installs_of_leads (leads : Leads gateways network permits (.start first i) s)
    (start : usable i.storage) (manifest : Storage.Accepts usable i.project.path)
    (sources : ∀ t, Reachable gateways network first.source t →
      Storage.Accepts usable (i.project.pathOf t.location)) :
    Installs gateways usable i.project i.storage s.log s.installation := by
  refine holds_of_leads (fun j log k => j.project.path = i.project.path → usable j.storage →
    Installs gateways usable j.project j.storage log k) ?_ ?_ ?_ leads rfl start
  · intro j k project storage path usable
    exact ⟨by rw [project], storage ▸ usable, fun other h => storage ▸ h, by simp, by simp⟩
  · intro j k l earlier later hearlier hlater path usable
    have installs := hearlier path usable
    exact installs.append (hlater (installs.path.trans path) installs.usable) installs.path
  · intro t j k r comes visited path usable
    refine visited.installs usable (path ▸ manifest) ?_
    rw [pathOf_of_path path]
    exact sources _ comes.reachable

theorem written_of_accepts (leads : Leads gateways network permits (.start first i) s)
    (start : usable i.storage) (manifest : Storage.Accepts usable i.project.path)
    (sources : ∀ t, Reachable gateways network first.source t →
      Storage.Accepts usable (i.project.pathOf t.location)) : Written gateways s.log := by
  intro o ho found
  rw [(installs_of_leads leads start manifest sources).answers o ho]
  exact answers_of_found found

/-- A call succeeds if all that its target leads to is answered and files can be written. -/
theorem failures_eq_nil_of_answers (leads : Leads gateways network permits (.start first i) s)
    (start : usable i.storage) (manifest : Storage.Accepts usable i.project.path)
    (sources : ∀ t, Reachable gateways network first.source t →
      Storage.Accepts usable (i.project.pathOf t.location))
    (answers : ∀ t, Reachable gateways network first.source t → gateways.Answers t) :
    s.failures = [] := by
  rw [Fetching.failures_eq_nil_iff]
  intro o ho
  rw [(installs_of_leads leads start manifest sources).answers o ho]
  exact answers _ (comesTo_of_mem_log leads o ho).reachable

/-- Installing a contract under its own name succeeds exactly if of every source that it leads to it
can be told whether the contract is there. Then the dependencies are those from before and those on
what is found among these sources, and the sources of all these are installed. This holds whatever
the order of the fetches; `add` takes one of these orders. -/
theorem installs_reachable (gateways : Gateways) (network : Option String) (root : Source)
    (permits : Nat) (i : Installation σ) (start : usable i.storage)
    (manifest : Storage.Accepts usable i.project.path)
    (sources : ∀ t, Reachable gateways network root t →
      Storage.Accepts usable (i.project.pathOf t.location)) :
    (∀ s, Leads gateways network permits (.start (.own root) i) s → s.fetches = 0 →
      (s.result = .ok () ↔ ∀ t, Reachable gateways network root t → gateways.Answers t) ∧
      (s.result = .ok () →
        (∀ n, n ∈ s.installation.project.manifest.dependencies.keys ↔
          n ∈ i.project.manifest.dependencies.keys ∨
            ∃ t, Reachable gateways network root t ∧ (∃ p, gateways.Finds t p) ∧
              t.contract = n) ∧
        ∀ t, Reachable gateways network root t → (∃ p, gateways.Finds t p) →
          (∃ d, s.installation.project.manifest.dependencies.get? t.contract = some d ∧
            d.source.contract = t.contract ∧ Reachable gateways network root d.source ∧
            ∃ p, gateways.Finds d.source p) ∧
          Storage.contains s.installation.storage
            (s.installation.project.pathOf t.location))) ∧
    ∃ s, Leads gateways network permits (.start (.own root) i) s ∧ s.fetches = 0 ∧
      add gateways network root.contract root i = (s.installation, s.result) := by
  refine ⟨fun s leads ended => ?_, exists_leads_of_add gateways network permits (.own root) i⟩
  have installs := installs_of_leads leads start manifest sources
  rw [Fetching.result_eq_ok_iff]
  refine ⟨⟨fun ok t ht => ?_, failures_eq_nil_of_answers leads start manifest sources⟩,
    fun ok => ?_⟩
  · have hmem := (mem_log_iff_reachable leads ended ok).2 ⟨t, ht, rfl⟩
    exact (installs.answers _ hmem).1 rfl
  have settled {t : Source} (ht : Reachable gateways network root t) : ⟨.own t, .ok ()⟩ ∈ s.log :=
    (mem_log_iff_reachable leads ended ok).2 ⟨t, ht, rfl⟩
  have recorded (n : String) : Records gateways s.log n ↔
      ∃ t, Reachable gateways network root t ∧ (∃ p, gateways.Finds t p) ∧ t.contract = n := by
    constructor
    · rintro ⟨o, ho, found, hname⟩
      obtain ⟨t, ht, rfl⟩ := (mem_log_iff_reachable leads ended ok).1 ho
      exact ⟨t, ht, found, hname⟩
    · rintro ⟨t, ht, found, hname⟩
      exact ⟨_, settled ht, found, hname⟩
  have written := written_of_failures gateways ok
  refine ⟨fun n => ?_, fun t ht found => ⟨?_, ?_⟩⟩
  · rw [(mem_keys_of_leads leads written n).1, recorded]
  · obtain ⟨o, ho, p, found', hname, hd, -⟩ | ⟨unrecorded, -⟩ :=
      entry_of_leads leads written t.contract
    · obtain ⟨u, hu, rfl⟩ := (mem_log_iff_reachable leads ended ok).1 ho
      exact ⟨_, hd, hname, hu, p, found'⟩
    · exact absurd ((recorded _).2 ⟨t, ht, found, rfl⟩) unrecorded
  · rw [pathOf_of_path installs.path]
    exact installs.there ⟨.own t, .ok ()⟩ (settled ht) found

/-- A network with a contract that imports one of two others. -/
def sampleGateways : Gateways :=
  ⟨[(emulator, ((Ledger.empty.deploy (.ofNat 1) "A"
      (Utf8.encode "import B, C from 0x2 contract A {}".toList)).deploy (.ofNat 2) "B"
      (Utf8.encode "contract B {}".toList)).gateway)]⟩

def sampleSource (address : Nat) (name : String) : Source := ⟨emulator, .ofNat address, name⟩

/-- A new project with files in memory. -/
def sampleInstallation : Installation MemoryStorage := ⟨.initial, .ofFiles [] [], []⟩

/-- A call into the new project succeeds if all that its target leads to is answered. -/
theorem failures_sample {s : Fetching MemoryStorage}
    (leads : Leads gateways network permits (.start first sampleInstallation) s)
    (answers : ∀ t, Reachable gateways network first.source t → gateways.Answers t) :
    s.failures = [] := by
  have start : sampleInstallation.storage.Free := rfl
  exact failures_eq_nil_of_answers leads start (MemoryStorage.accepts _)
    (fun t _ => MemoryStorage.accepts _) answers

/-- What is imported but not there is passed over. -/
theorem add_of_sample : ∃ j,
    add sampleGateways none "A" (sampleSource 1 "A") sampleInstallation = (j, .ok ()) ∧
      "B" ∈ j.project.manifest.dependencies.keys ∧ "C" ∉ j.project.manifest.dependencies.keys := by
  -- all that the run looks up, evaluated in one go: A imports B and C, and C is not there
  have evaluated : [sampleSource 1 "A", sampleSource 2 "B", sampleSource 2 "C"].map (fun s =>
      (sampleGateways.locate s).toOption.map (Option.map fun p => imports none s p)) =
      [some (some [sampleSource 2 "B", sampleSource 2 "C"]), some (some []), some none] := by
    decide +kernel
  simp only [List.map_cons, List.map_nil, List.cons.injEq, and_true] at evaluated
  obtain ⟨hA, hB, hC⟩ := evaluated
  obtain ⟨rA, hrA, hA⟩ := exists_ok_of_toOption hA
  obtain ⟨rB, hrB, hB⟩ := exists_ok_of_toOption hB
  obtain ⟨rC, hrC, hC⟩ := exists_ok_of_toOption hC
  obtain ⟨pA, rfl, himports⟩ := Option.map_eq_some_iff.1 hA
  obtain ⟨pB, rfl, hnone⟩ := Option.map_eq_some_iff.1 hB
  obtain rfl := Option.map_eq_none_iff.1 hC
  have foundA := Gateways.locate_eq_some_iff.1 hrA
  have foundB := Gateways.locate_eq_some_iff.1 hrB
  have reachable {t : Source} (ht : Reachable sampleGateways none (sampleSource 1 "A") t) :
      t = sampleSource 1 "A" ∨ t = sampleSource 2 "B" ∨ t = sampleSource 2 "C" := by
    induction ht with
    | root => exact .inl rfl
    | step _ found hnetwork hfrom ih =>
      have hmem := mem_imports.2 ⟨hnetwork, hfrom⟩
      rw [← Gateways.locate_eq_some_iff] at found
      rcases ih with rfl | rfl | rfl
      · obtain rfl : pA = _ := by simpa [hrA] using found
        rw [himports] at hmem
        exact .inr (by simpa using hmem)
      · obtain rfl : pB = _ := by simpa [hrB] using found
        rw [hnone] at hmem
        cases hmem
      · simp [hrC] at found
  have start : sampleInstallation.storage.Free := rfl
  obtain ⟨every, s, leads, ended, hadd⟩ := installs_reachable sampleGateways none
    (sampleSource 1 "A") 16 sampleInstallation start (MemoryStorage.accepts _)
    fun t _ => MemoryStorage.accepts _
  obtain ⟨hiff, installed⟩ := every s leads ended
  have ok := hiff.2 fun t ht => by
    rw [← Gateways.exists_locate_iff]
    rcases reachable ht with rfl | rfl | rfl
    · exact ⟨_, hrA⟩
    · exact ⟨_, hrB⟩
    · exact ⟨_, hrC⟩
  obtain ⟨hkeys, -⟩ := installed ok
  rw [ok] at hadd
  refine ⟨s.installation, hadd, ?_, ?_⟩
  · refine (hkeys "B").2 (.inr ⟨sampleSource 2 "B", ?_, ⟨pB, foundB⟩, rfl⟩)
    have hmem : sampleSource 2 "B" ∈ imports none (sampleSource 1 "A") pA := by
      rw [himports]
      exact List.mem_cons_self
    exact reachable_of_mem_imports foundA hmem
  · rw [hkeys "C"]
    rintro (hold | ⟨t, ht, ⟨p, found⟩, hname⟩)
    · cases hold
    · rw [← Gateways.locate_eq_some_iff] at found
      rcases reachable ht with rfl | rfl | rfl
      · exact absurd hname (by decide)
      · exact absurd hname (by decide)
      · simp [hrC] at found

end ContractProject.Installation
